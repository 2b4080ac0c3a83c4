import MultisensorStation.Base.Runs
import MultisensorStation.Logger.EventLogger

/-!
# Concurrent logging

Any number of threads inside `logStateChange`, which takes the mutex twice, for the new line and for a dump, and tests
`is_max()` in between without it.

* `LogStmt`, `loggingSystem` : the three steps of a call, in any order between the threads;
* `pushes` : the lines of a run in the order of their critical sections, each with its thread;
* `Logging` : what every step keeps of the buffer and of the threads that are inside a call;
* `logging_complete` : the buffer, the answers of the tests and the dumps of every run.
-/

namespace MultisensorStation.Logger
open MultisensorStation.Base MultisensorStation.Patterns

/-- What a thread executes next in `logStateChange`. -/
inductive LogStmt where
  | idle
  | isMax
  | printLatestLogs
  deriving DecidableEq

structure LogState where
  logger : EventLogger
  threads : Nat → LogStmt

inductive LogLabel where
  /-- the call of `logStateChange` and its critical section -/
  | push (i : Nat) (id state : Bytes)
  | isMax (i : Nat)
  | printLatestLogs (i : Nat)

namespace LogLabel

def thread : LogLabel → Nat
  | push i _ _ => i
  | isMax i => i
  | printLatestLogs i => i

/-- The line that is added, with its thread. -/
def pushed : LogLabel → Option (Nat × Bytes)
  | push i id state => some (i, EventLogger.line id state)
  | _ => none

end LogLabel

namespace LogState

def init : LogState := ⟨.fresh, fun _ => .idle⟩

def goto (s : LogState) (i : Nat) (stmt : LogStmt) : LogState :=
  { s with threads := Function.update s.threads i stmt }

def next (s : LogState) : LogLabel → Option LogState
  | .push i id state =>
    if s.threads i = .idle then some ({ s with logger := s.logger.pushLine id state }.goto i .isMax) else none
  | .isMax i =>
    if s.threads i = .isMax then some (s.goto i (if s.logger.logs.isMax then .printLatestLogs else .idle)) else none
  | .printLatestLogs i =>
    if s.threads i = .printLatestLogs then some ({ s with logger := s.logger.printLatestLogs }.goto i .idle)
    else none

end LogState

def loggingSystem : System LogState LogLabel := ⟨LogState.init, LogState.next⟩

/-- The lines in the order of their critical sections. -/
def pushes (ls : List LogLabel) : List (Nat × Bytes) := ls.filterMap LogLabel.pushed

/-! ## Steps -/

namespace LogState

variable {s s' : LogState} {i j : Nat} {stmt : LogStmt} {id state : Bytes}

@[simp] theorem threads_goto_self : (s.goto i stmt).threads i = stmt := Function.update_self ..

theorem threads_goto_other (h : j ≠ i) : (s.goto i stmt).threads j = s.threads j := Function.update_of_ne h ..

theorem step_push (h : s.next (.push i id state) = some s') :
    s.threads i = .idle ∧ s' = { s with logger := s.logger.pushLine id state }.goto i .isMax := by
  obtain ⟨hidle, hs'⟩ := Option.ite_none_right_eq_some.mp h
  exact ⟨hidle, (Option.some.inj hs').symm⟩

theorem step_isMax (h : s.next (.isMax i) = some s') :
    s.threads i = .isMax ∧ s' = s.goto i (if s.logger.logs.isMax then .printLatestLogs else .idle) := by
  obtain ⟨hstmt, hs'⟩ := Option.ite_none_right_eq_some.mp h
  exact ⟨hstmt, (Option.some.inj hs').symm⟩

theorem step_printLatestLogs (h : s.next (.printLatestLogs i) = some s') :
    s.threads i = .printLatestLogs ∧ s' = { s with logger := s.logger.printLatestLogs }.goto i .idle := by
  obtain ⟨hstmt, hs'⟩ := Option.ite_none_right_eq_some.mp h
  exact ⟨hstmt, (Option.some.inj hs').symm⟩

/-- A thread is moved by its own steps only. -/
theorem threads_of_other {l : LogLabel} (h : s.next l = some s') (hi : i ≠ l.thread) : s'.threads i = s.threads i := by
  cases l with
  | push j id state =>
    obtain ⟨-, rfl⟩ := step_push h
    exact threads_goto_other hi
  | isMax j =>
    obtain ⟨-, rfl⟩ := step_isMax h
    exact threads_goto_other hi
  | printLatestLogs j =>
    obtain ⟨-, rfl⟩ := step_printLatestLogs h
    exact threads_goto_other hi

/-- The steps of one thread alone are a call of `logStateChange`. -/
theorem steps_alone (h : s.threads i = .idle) (id state : Bytes) :
    ∃ ls : List LogLabel, (∀ l ∈ ls, l.thread = i) ∧
      ls.foldlM next s = some { s with logger := s.logger.logStateChange id state } := by
  have hback : Function.update s.threads i .idle = s.threads := by
    rw [← h, Function.update_eq_self]
  rw [EventLogger.logStateChange_eq]
  by_cases hmax : (s.logger.pushLine id state).logs.isMax = true
  · refine ⟨[.push i id state, .isMax i, .printLatestLogs i], by simp [LogLabel.thread], ?_⟩
    simp [next, goto, h, hmax, hback]
  · refine ⟨[.push i id state, .isMax i], by simp [LogLabel.thread], ?_⟩
    simp [next, goto, h, hmax, hback]

end LogState

/-! ## Runs -/

/-- What holds after the steps `ls`. -/
structure Logging (ls : List LogLabel) (s : LogState) : Prop where
  lines : s.logger.logs.Represents (((pushes ls).map Prod.snd).foldl BoundedQueue.push (.empty _ _))
  /-- the latest line of a thread that is inside a call -/
  own : ∀ i, s.threads i ≠ .idle →
    ∃ before l after, pushes ls = before ++ (i, l) :: after ∧ ∀ p ∈ after, p.1 ≠ i
  full : ∀ i, s.threads i = .printLatestLogs → 30 ≤ (pushes ls).length

theorem pushes_concat (ls : List LogLabel) (l : LogLabel) : pushes (ls ++ [l]) = pushes ls ++ l.pushed.toList := by
  unfold pushes
  rw [List.filterMap_append]
  cases hl : l.pushed <;> simp [hl]

theorem cString_of_pushed {ls : List LogLabel} {p : Nat × Bytes} (h : p ∈ pushes ls) : cString p.2 = p.2 := by
  obtain ⟨l, -, hl⟩ := List.mem_filterMap.mp h
  cases l with
  | push i id state =>
    obtain rfl := Option.some.inj hl
    exact EventLogger.cString_line id state
  | isMax i => cases hl
  | printLatestLogs i => cases hl

theorem Logging.observed {ls : List LogLabel} {s : LogState} (h : Logging ls s) :
    s.logger.logs.Observed (((pushes ls).map Prod.snd).rtake 30) := by
  have hobs := h.lines.observed (by decide) (by decide)
  rwa [BoundedQueue.items_foldl_push] at hobs

theorem Logging.isMax_iff {ls : List LogLabel} {s : LogState} (h : Logging ls s) :
    s.logger.logs.isMax = true ↔ 30 ≤ (pushes ls).length := by
  rw [h.observed.isMax_iff, BoundedQueue.length_rtake, List.length_map]
  show min 30 _ = 30 ↔ _
  omega

/-- A step that pushes nothing. -/
theorem Logging.goto {ls : List LogLabel} {s : LogState} (h : Logging ls s) {l : LogLabel} (hl : l.pushed = none)
    {logger : EventLogger} (hlogs : logger.logs = s.logger.logs) {i : Nat} {stmt : LogStmt} (hstmt : s.threads i ≠ .idle)
    (hfull : stmt = .printLatestLogs → s.logger.logs.isMax = true) :
    Logging (ls ++ [l]) ({ s with logger := logger }.goto i stmt) := by
  have hsame : pushes (ls ++ [l]) = pushes ls := by
    rw [pushes_concat, hl, Option.toList_none, List.append_nil]
  constructor
  · rw [hsame]
    exact hlogs ▸ h.lines
  · intro j hj
    rw [hsame]
    by_cases hji : j = i
    · exact hji ▸ h.own i hstmt
    · exact h.own j (by rwa [LogState.threads_goto_other hji] at hj)
  · intro j hj
    rw [hsame]
    by_cases hji : j = i
    · rw [hji, LogState.threads_goto_self] at hj
      exact h.isMax_iff.mp (hfull hj)
    · exact h.full j (by rwa [LogState.threads_goto_other hji] at hj)

theorem Logging.push {ls : List LogLabel} {s : LogState} (h : Logging ls s) {i : Nat} (id state : Bytes) :
    Logging (ls ++ [.push i id state]) ({ s with logger := s.logger.pushLine id state }.goto i .isMax) := by
  have hmore : pushes (ls ++ [.push i id state]) = pushes ls ++ [(i, EventLogger.line id state)] :=
    pushes_concat ls _
  constructor
  · rw [hmore, List.map_append, List.foldl_append]
    exact (h.lines.pushSlot (by decide) (by decide) _).2
  · intro j hj
    rw [hmore]
    by_cases hji : j = i
    · subst hji
      exact ⟨pushes ls, _, [], rfl, fun p hp => absurd hp List.not_mem_nil⟩
    · rw [LogState.threads_goto_other hji] at hj
      obtain ⟨before, l, after, heq, hafter⟩ := h.own j hj
      refine ⟨before, l, after ++ [(i, EventLogger.line id state)], ?_, ?_⟩
      · rw [heq, List.append_assoc, List.cons_append]
      · rw [List.forall_mem_append, List.forall_mem_singleton]
        exact ⟨hafter, Ne.symm hji⟩
  · intro j hj
    rw [hmore, List.length_append]
    by_cases hji : j = i
    · rw [hji, LogState.threads_goto_self] at hj
      cases hj
    · exact Nat.le_add_right_of_le (h.full j (by rwa [LogState.threads_goto_other hji] at hj))

theorem Logging.step {ls : List LogLabel} {s s' : LogState} {l : LogLabel} (h : Logging ls s)
    (hl : s.next l = some s') : Logging (ls ++ [l]) s' := by
  cases l with
  | push i id state =>
    obtain ⟨-, rfl⟩ := LogState.step_push hl
    exact h.push id state
  | isMax i =>
    obtain ⟨hstmt, rfl⟩ := LogState.step_isMax hl
    apply h.goto rfl rfl (by rw [hstmt]; decide)
    intro hprint
    by_contra hmax
    rw [if_neg hmax] at hprint
    cases hprint
  | printLatestLogs i =>
    obtain ⟨hstmt, rfl⟩ := LogState.step_printLatestLogs hl
    have hlogs : s.logger.printLatestLogs.logs = s.logger.logs := rfl
    apply h.goto (l := .printLatestLogs i) rfl hlogs (by rw [hstmt]; decide)
    intro hidle
    cases hidle

theorem logging_of_exec {ls : List LogLabel} {s : LogState} (h : loggingSystem.exec ls = some s) : Logging ls s := by
  apply loggingSystem.run_invariant (I := Logging) _ _ ls s h
  · exact ⟨CircularBuffer.represents_fresh, fun i hi => absurd rfl hi, fun i hi => nomatch hi⟩
  · exact fun _ _ _ _ h hl => h.step hl

/-- What a dump prints. -/
theorem Logging.printLatestLogs {ls : List LogLabel} {s : LogState} (h : Logging ls s) :
    s.logger.printLatestLogs =
      { s.logger with console := s.logger.console ++ ((pushes ls).map Prod.snd).rtake 30 } := by
  have hlines : ((pushes ls).map Prod.snd).map cString = (pushes ls).map Prod.snd := by
    rw [List.map_map]
    exact List.map_congr_left (fun p hp => cString_of_pushed hp)
  rw [EventLogger.printLatestLogs_of_observed h.observed (BoundedQueue.length_rtake_le _ _), BoundedQueue.map_rtake,
    hlines]

/-- **Concurrent logging.** In every interleaving the buffer holds the last 30 lines in the order of their critical
sections. A test of `is_max()` leads to a dump exactly from the 30th line on; the thread stays in front of its dump
whatever the others do. The dump prints the last 30 lines, and among them its own unless 30 came after it. -/
theorem logging_complete (ls : List LogLabel) (s : LogState) (h : loggingSystem.exec ls = some s) :
    let lines := (pushes ls).map Prod.snd
    s.logger.logs.Observed (lines.rtake 30) ∧
      (∀ i, s.threads i = .isMax →
        s.next (.isMax i) = some (s.goto i (if 30 ≤ lines.length then .printLatestLogs else .idle))) ∧
      ∀ i, s.threads i = .printLatestLogs →
        (∀ l s', i ≠ l.thread → s.next l = some s' → s'.threads i = .printLatestLogs) ∧
        s.next (.printLatestLogs i) =
          some ({ s with logger := { s.logger with console := s.logger.console ++ lines.rtake 30 } }.goto i .idle) ∧
        (lines.rtake 30).length = 30 ∧
        ∃ before l after, pushes ls = before ++ (i, l) :: after ∧ (∀ p ∈ after, p.1 ≠ i) ∧
          (after.length < 30 →
            lines.rtake 30 = (before.map Prod.snd).rtake (29 - after.length) ++ l :: after.map Prod.snd) := by
  intro lines
  have hlog := logging_of_exec h
  refine ⟨hlog.observed, ?_, ?_⟩
  · intro i hi
    have hmax : (s.logger.logs.isMax = true) = (30 ≤ lines.length) := by
      rw [hlog.isMax_iff, List.length_map]
    simp only [LogState.next, hi, if_true, hmax]
  · intro i hi
    refine ⟨?_, ?_, ?_, ?_⟩
    · intro l s' hl hs'
      rw [LogState.threads_of_other hs' hl, hi]
    · simp only [LogState.next, hi, if_true, hlog.printLatestLogs]
      rfl
    · rw [BoundedQueue.length_rtake, List.length_map]
      exact Nat.min_eq_left (hlog.full i hi)
    · obtain ⟨before, l, after, heq, hafter⟩ := hlog.own i (by rw [hi]; decide)
      refine ⟨before, l, after, heq, hafter, ?_⟩
      intro hfew
      show ((pushes ls).map Prod.snd).rtake 30 = _
      rw [heq, List.map_append, List.map_cons, BoundedQueue.rtake_append_cons _ _ _ (by rwa [List.length_map]),
        List.length_map]

/-- Thirty threads: the first one tests after all of them have pushed. -/
theorem logging_complete_thirty_lines :
    let ls : List LogLabel := .push 0 (ascii "a") (ascii "b") ::
      (List.range 29).map (fun n => .push (n + 1) (ascii "c") (ascii "d"))
    ∃ s s', loggingSystem.exec (ls ++ [.isMax 0]) = some s ∧ s.next (.printLatestLogs 0) = some s' ∧
      s'.logger.console = s.logger.console ++
        EventLogger.line (ascii "a") (ascii "b") :: List.replicate 29 (EventLogger.line (ascii "c") (ascii "d")) := by
  intro ls
  obtain ⟨s, hs, hfirst⟩ : ∃ s, loggingSystem.exec ls = some s ∧ s.threads 0 = .isMax := ⟨_, rfl, rfl⟩
  have hlen : (pushes ls).length = 30 := rfl
  have htest := (logging_complete ls s hs).2.1 0 hfirst
  rw [if_pos (by rw [List.length_map, hlen])] at htest
  have hs₁ : loggingSystem.exec (ls ++ [.isMax 0]) = some (s.goto 0 .printLatestLogs) :=
    loggingSystem.exec_concat_eq_some.mpr ⟨s, hs, htest⟩
  obtain ⟨-, hdump, -⟩ := (logging_complete _ _ hs₁).2.2 0 LogState.threads_goto_self
  exact ⟨_, _, hs₁, hdump, rfl⟩

end MultisensorStation.Logger
