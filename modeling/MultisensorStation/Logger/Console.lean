import Mathlib.Data.List.Perm.Subperm
import MultisensorStation.Logger.ConcurrentLogging

/-!
# How much concurrent logging writes

From the 30th line on every call of `logStateChange` dumps the whole buffer, in its own critical section behind a test
that is made without the mutex.

* `dumps` : the threads of the dumps of a run, in their order;
* `Volume` : the console line by line, and the calls of each thread that dumped, returned without or still run;
* `console_volume` : the console has a line for each call and 30 for each dump; at most 29 finished calls do not dump.
-/

namespace MultisensorStation.Logger
open MultisensorStation.Base MultisensorStation.Patterns

namespace LogLabel

def dumped : LogLabel → Option Nat
  | printLatestLogs i => some i
  | _ => none

end LogLabel

/-- The threads of the dumps, in their order. -/
def dumps (ls : List LogLabel) : List Nat := ls.filterMap LogLabel.dumped

/-- The threads of the calls, in the order of their critical sections. -/
def callers (ls : List LogLabel) : List Nat := (pushes ls).map Prod.fst

theorem dumps_concat (ls : List LogLabel) (l : LogLabel) : dumps (ls ++ [l]) = dumps ls ++ l.dumped.toList :=
  filterMap_concat _ ls l

theorem callers_concat (ls : List LogLabel) (l : LogLabel) :
    callers (ls ++ [l]) = callers ls ++ l.pushed.toList.map Prod.fst := by
  unfold callers
  rw [pushes_concat, List.map_append]

theorem dumps_concat_of_none (ls : List LogLabel) {l : LogLabel} (h : l.dumped = none) :
    dumps (ls ++ [l]) = dumps ls := by
  rw [dumps_concat, h, Option.toList_none, List.append_nil]

theorem callers_concat_of_none (ls : List LogLabel) {l : LogLabel} (h : l.pushed = none) :
    callers (ls ++ [l]) = callers ls := by
  rw [callers_concat, h, Option.toList_none, List.map_nil, List.append_nil]

theorem length_callers (ls : List LogLabel) : (callers ls).length = (pushes ls).length := List.length_map _

/-- The call that thread `i` is inside of. -/
def LogState.inside (s : LogState) (i : Nat) : Nat := if s.threads i = .idle then 0 else 1

/-- What holds after the steps `ls`; `quiet` are the threads of the calls that returned without a dump. -/
structure Volume (ls : List LogLabel) (s : LogState) (quiet : List Nat) : Prop where
  console : s.logger.console.length = (callers ls).length + 30 * (dumps ls).length
  few : (callers ls).length < 30 → dumps ls = []
  quiet_le : quiet.length ≤ 29
  calls : ∀ i, (callers ls).count i = quiet.count i + (dumps ls).count i + s.inside i

/-! ## Steps -/

namespace LogState

variable {s : LogState} {i j : Nat} {stmt : LogStmt}

theorem inside_of_idle (h : s.threads i = .idle) : s.inside i = 0 := if_pos h

theorem inside_of_ne_idle (h : s.threads i ≠ .idle) : s.inside i = 1 := if_neg h

theorem inside_goto_self : (s.goto i stmt).inside i = if stmt = .idle then 0 else 1 := by
  unfold inside
  rw [threads_goto_self]

theorem inside_goto_other (h : j ≠ i) : (s.goto i stmt).inside j = s.inside j := by
  unfold inside
  rw [threads_goto_other h]

end LogState

namespace Volume

variable {ls : List LogLabel} {s : LogState} {quiet : List Nat} {i : Nat}

theorem fresh : Volume [] LogState.init [] := ⟨rfl, fun _ => rfl, Nat.zero_le _, fun _ => rfl⟩

theorem push (h : Volume ls s quiet) (hidle : s.threads i = .idle) (id state : Bytes) :
    Volume (ls ++ [.push i id state]) ({ s with logger := s.logger.pushLine id state }.goto i .isMax) quiet := by
  have hdumps : dumps (ls ++ [.push i id state]) = dumps ls := dumps_concat_of_none ls rfl
  have hcallers : callers (ls ++ [.push i id state]) = callers ls ++ [i] := callers_concat ls _
  refine ⟨?_, ?_, h.quiet_le, ?_⟩
  · have hline : (s.logger.pushLine id state).console.length = s.logger.console.length + 1 := List.length_append
    show (s.logger.pushLine id state).console.length = _
    rw [hline, h.console, hdumps, hcallers, List.length_append, List.length_singleton]
    omega
  · intro hfew
    rw [hcallers, List.length_append] at hfew
    rw [hdumps]
    exact h.few (by omega)
  · intro j
    have hcount := h.calls j
    rw [hcallers, List.count_append, hdumps]
    by_cases hji : j = i
    · subst hji
      rw [LogState.inside_of_idle hidle] at hcount
      rw [LogState.inside_goto_self, List.count_singleton_self, hcount]
      rfl
    · rw [LogState.inside_goto_other hji, List.count_singleton, if_neg (by simpa using Ne.symm hji)]
      exact hcount

/-- A test that leads to the dump: the call goes on. -/
theorem isMax_full (h : Volume ls s quiet) (hstmt : s.threads i = .isMax) :
    Volume (ls ++ [.isMax i]) (s.goto i .printLatestLogs) quiet := by
  have hdumps : dumps (ls ++ [.isMax i]) = dumps ls := dumps_concat_of_none ls rfl
  have hcallers : callers (ls ++ [.isMax i]) = callers ls := callers_concat_of_none ls rfl
  refine ⟨?_, ?_, h.quiet_le, ?_⟩
  · rw [hdumps, hcallers]
    exact h.console
  · rw [hdumps, hcallers]
    exact h.few
  · intro j
    rw [hdumps, hcallers, h.calls j]
    by_cases hji : j = i
    · subst hji
      rw [LogState.inside_goto_self, LogState.inside_of_ne_idle (by rw [hstmt]; decide)]
      rfl
    · rw [LogState.inside_goto_other hji]

/-- A test that comes before the 30th line: the call returns, one of the at most 29 that there are. -/
theorem isMax_quiet (h : Volume ls s quiet) (hstmt : s.threads i = .isMax) (hfew : (callers ls).length < 30) :
    Volume (ls ++ [.isMax i]) (s.goto i .idle) (i :: quiet) := by
  have hdumps : dumps (ls ++ [.isMax i]) = dumps ls := dumps_concat_of_none ls rfl
  have hcallers : callers (ls ++ [.isMax i]) = callers ls := callers_concat_of_none ls rfl
  have hcalls : ∀ j, (callers ls).count j = (i :: quiet).count j + (dumps ls).count j + (s.goto i .idle).inside j := by
    intro j
    rw [h.calls j, List.count_cons]
    by_cases hji : j = i
    · subst hji
      rw [LogState.inside_goto_self, LogState.inside_of_ne_idle (by rw [hstmt]; decide), beq_self_eq_true, if_pos rfl,
        if_pos rfl]
      omega
    · rw [LogState.inside_goto_other hji, if_neg (by simpa using Ne.symm hji)]
      omega
  refine ⟨?_, ?_, ?_, ?_⟩
  · rw [hdumps, hcallers]
    exact h.console
  · rw [hdumps, hcallers]
    exact h.few
  · have hle : (i :: quiet).length ≤ (callers ls).length := by
      apply List.Subperm.length_le
      rw [List.subperm_ext_iff]
      intro j _
      rw [hcalls j]
      omega
    omega
  · rw [hdumps, hcallers]
    exact hcalls

theorem printLatestLogs (h : Volume ls s quiet) (hlog : Logging ls s) (hstmt : s.threads i = .printLatestLogs) :
    Volume (ls ++ [.printLatestLogs i]) ({ s with logger := s.logger.printLatestLogs }.goto i .idle) quiet := by
  have hdumps : dumps (ls ++ [.printLatestLogs i]) = dumps ls ++ [i] := dumps_concat ls _
  have hcallers : callers (ls ++ [.printLatestLogs i]) = callers ls := callers_concat_of_none ls rfl
  have hfull : 30 ≤ (callers ls).length := by
    rw [length_callers]
    exact hlog.full i hstmt
  refine ⟨?_, ?_, h.quiet_le, ?_⟩
  · have hdump : s.logger.printLatestLogs.console.length = s.logger.console.length + 30 := by
      rw [hlog.printLatestLogs, List.length_append, BoundedQueue.length_rtake, List.length_map, ← length_callers,
        Nat.min_eq_left hfull]
    show s.logger.printLatestLogs.console.length = _
    rw [hdump, h.console, hdumps, hcallers, List.length_append, List.length_singleton]
    omega
  · intro hfew
    rw [hcallers] at hfew
    omega
  · intro j
    have hcount := h.calls j
    rw [hcallers, hdumps, List.count_append]
    by_cases hji : j = i
    · subst hji
      rw [LogState.inside_of_ne_idle (by rw [hstmt]; decide)] at hcount
      rw [LogState.inside_goto_self, List.count_singleton_self, hcount]
      rfl
    · rw [LogState.inside_goto_other hji, List.count_singleton, if_neg (by simpa using Ne.symm hji)]
      exact hcount

theorem step {s' : LogState} {l : LogLabel} (h : Volume ls s quiet) (hlog : Logging ls s) (hl : s.next l = some s') :
    ∃ quiet', Volume (ls ++ [l]) s' quiet' := by
  cases l with
  | push i id state =>
    obtain ⟨hidle, rfl⟩ := LogState.step_push hl
    exact ⟨quiet, h.push hidle id state⟩
  | isMax i =>
    obtain ⟨hstmt, rfl⟩ := LogState.step_isMax hl
    by_cases hmax : s.logger.logs.isMax = true
    · rw [if_pos hmax]
      exact ⟨quiet, h.isMax_full hstmt⟩
    · rw [if_neg hmax]
      rw [hlog.isMax_iff, ← length_callers, Nat.not_le] at hmax
      exact ⟨i :: quiet, h.isMax_quiet hstmt hmax⟩
  | printLatestLogs i =>
    obtain ⟨hstmt, rfl⟩ := LogState.step_printLatestLogs hl
    exact ⟨quiet, h.printLatestLogs hlog hstmt⟩

end Volume

/-! ## Runs -/

theorem volume_of_exec {ls : List LogLabel} {s : LogState} (h : loggingSystem.exec ls = some s) :
    ∃ quiet, Volume ls s quiet := by
  have hinv : Logging ls s ∧ ∃ quiet, Volume ls s quiet := by
    refine loggingSystem.run_invariant (I := fun ls s => Logging ls s ∧ ∃ quiet, Volume ls s quiet) ?_ ?_ ls s h
    · exact ⟨logging_of_exec rfl, [], Volume.fresh⟩
    · rintro ls s l s' ⟨hlog, quiet, hvol⟩ hl
      exact ⟨hlog.step hl, hvol.step hlog hl⟩
  exact hinv.2

/-- **How much is written.** In every interleaving the console has one line for each call of `logStateChange` and 30 for
each dump. No call dumps twice, and none before the 30th line; but apart from 29 calls in all and the ones that the
threads are still inside of, every call has dumped. -/
theorem console_volume (ls : List LogLabel) (s : LogState) (h : loggingSystem.exec ls = some s) :
    s.logger.console.length = (pushes ls).length + 30 * (dumps ls).length ∧
      (∀ i, (dumps ls).count i ≤ ((pushes ls).map Prod.fst).count i) ∧
      ((pushes ls).length < 30 → dumps ls = []) ∧
      ∀ threads : List Nat, (∀ i, s.threads i ≠ .idle → i ∈ threads) →
        (pushes ls).length ≤ (dumps ls).length + 29 + threads.length := by
  obtain ⟨quiet, hvol⟩ := volume_of_exec h
  refine ⟨?_, ?_, ?_, ?_⟩
  · rw [hvol.console, length_callers]
  · intro i
    have hcalls := hvol.calls i
    show (dumps ls).count i ≤ (callers ls).count i
    omega
  · rw [← length_callers]
    exact hvol.few
  · intro threads hthreads
    have hle : (callers ls).length ≤ (quiet ++ dumps ls ++ threads).length := by
      apply List.Subperm.length_le
      rw [List.subperm_ext_iff]
      intro i _
      rw [hvol.calls i, List.count_append, List.count_append]
      by_cases hidle : s.threads i = .idle
      · rw [LogState.inside_of_idle hidle]
        exact Nat.le_add_right _ _
      · have hin : 1 ≤ threads.count i := List.one_le_count_iff.mpr (hthreads i hidle)
        rw [LogState.inside_of_ne_idle hidle]
        exact Nat.add_le_add_left hin _
    have hquiet := hvol.quiet_le
    rw [List.length_append, List.length_append, length_callers] at hle
    omega

/-- Thirty threads push their lines; two of them test after that, and both dump. -/
def twoDumps : List LogLabel :=
  (List.range 30).map (fun i => .push i (ascii "a") (ascii "b")) ++
    [.isMax 0, .isMax 1, .printLatestLogs 1, .printLatestLogs 0]

theorem console_volume_two_dumps : ∃ s, loggingSystem.exec twoDumps = some s ∧ s.logger.console.length = 90 := by
  have hrun : (loggingSystem.exec twoDumps).isSome = true := by decide +kernel
  obtain ⟨s, hs⟩ := Option.isSome_iff_exists.mp hrun
  have hpushes : (pushes twoDumps).length = 30 := rfl
  have hdumps : (dumps twoDumps).length = 2 := rfl
  exact ⟨s, hs, by rw [(console_volume twoDumps s hs).1, hpushes, hdumps]⟩

end MultisensorStation.Logger
