import MultisensorStation.Profiler.Results

/-!
# The profiling program

`main.cpp.profiler` : `exampleTask` starts its profiling and then sleeps for ever, so that its `stop_profiling` is never
reached, while `app_main` takes its snapshots and prints in a loop; one call of the profiler a step.

* `MainStmt`, `profilerMain` : the calls of `app_main`, and the steps of both tasks in any order;
* `StartsFirst` : `exampleTask` comes before the snapshots;
* `Idle` : what every step keeps; `nothing_measured` : what is printed in any run.
-/

namespace MultisensorStation.Profiler
open MultisensorStation.Base

/-- The calls of `app_main` that use the profiler's members. -/
inductive MainStmt where
  | saveSingleTaskSnapshot
  | saveAppSnapshot
  -- the loop
  | printResults
  | printSingleTaskDiff
  | printAppDiff
  deriving DecidableEq

def MainStmt.following : MainStmt → MainStmt
  | saveSingleTaskSnapshot => saveAppSnapshot
  | saveAppSnapshot => printResults
  | printResults => printSingleTaskDiff
  | printSingleTaskDiff => printAppDiff
  | printAppDiff => printResults

structure MainState where
  profiler : TaskProfilerMonitor
  /-- `exampleTask` is behind its `start_profiling` -/
  started : Bool
  main : MainStmt
  printed : List MonitorOutput

inductive MainLabel where
  /-- `start_profiling` of `exampleTask`, with its reading of the clock -/
  | start (now : Int)
  /-- a call of `app_main`, with the partition that `print_results` finds -/
  | main (stmt : MainStmt) (partition : Option Partition)
  deriving DecidableEq

section Steps
-- of `exampleTask`
variable (handle : TaskHandle)

def MainStmt.call (partition : Option Partition) : MainStmt → MonitorCall
  | saveSingleTaskSnapshot => .saveSingleTaskSnapshot handle
  | saveAppSnapshot => .saveAppSnapshot
  | printResults => .printResults partition
  | printSingleTaskDiff => .printSingleTaskDiff handle
  | printAppDiff => .printAppDiff

def MainState.next (s : MainState) : MainLabel → Option MainState
  | .start now =>
    if s.started = false then
      some { s with profiler := s.profiler.startProfiling handle (ascii "example_task") now, started := true }
    else none
  | .main stmt partition =>
    if s.main = stmt then
      let (output, profiler) := s.profiler.perform (stmt.call handle partition)
      some { s with profiler := profiler, main := stmt.following, printed := s.printed ++ [output] }
    else none

def profilerMain : System MainState MainLabel :=
  ⟨⟨.init, false, .saveSingleTaskSnapshot, []⟩, MainState.next handle⟩

end Steps

/-- The run begins with the `start_profiling` of `exampleTask`. -/
def StartsFirst (ls : List MainLabel) : Prop := ∃ now, ls.head? = some (.start now)

/-- The row of a task that was never stopped. -/
def exampleRow : TaskStats := { TaskStats.empty with name := ascii "example_task" }

/-- What is printed where nothing was measured. -/
def Nothing (startsFirst : Prop) : MonitorOutput → Prop
  | .nothing => True
  | .results rows _ => rows = [] ∨ rows = [exampleRow]
  | .taskDiff diff =>
    (startsFirst → diff = .ok (ascii "example_task", ⟨0, 0, 0, 0⟩)) ∧
      (¬ startsFirst → diff = .error (ascii "No snapshot found for the specified task"))
  | .appDiff diff => diff = ⟨0, 0, 0, 0⟩

/-- The map of a single row that nothing was measured for. -/
def exampleMap (handle : TaskHandle) (filled : Prop) [Decidable filled] : Std.TreeMap TaskHandle TaskStats :=
  if filled then (∅ : Std.TreeMap TaskHandle TaskStats).insert handle exampleRow else ∅

instance (ls : List MainLabel) : Decidable (StartsFirst ls) :=
  match ls with
  | .start now :: _ => isTrue ⟨now, rfl⟩
  | .main _ _ :: _ => isFalse (fun ⟨_, h⟩ => by cases h)
  | [] => isFalse (fun ⟨_, h⟩ => by cases h)

theorem exampleMap_getElem (handle : TaskHandle) (filled : Prop) [Decidable filled] :
    (exampleMap handle filled)[handle]? = if filled then some exampleRow else none := by
  unfold exampleMap
  split_ifs
  · exact Std.TreeMap.getElem?_insert_self
  · rfl

theorem exampleMap_toList (handle : TaskHandle) (filled : Prop) [Decidable filled] :
    (exampleMap handle filled).toList = if filled then [(handle, exampleRow)] else [] := by
  unfold exampleMap
  split_ifs <;> rfl

theorem startsFirst_concat {ls : List MainLabel} (h : ls ≠ []) (l : MainLabel) :
    StartsFirst (ls ++ [l]) ↔ StartsFirst ls := by
  unfold StartsFirst
  rw [List.head?_append_of_ne_nil ls h]

theorem startsFirst_concat_main (ls : List MainLabel) (stmt : MainStmt) (partition : Option Partition) :
    StartsFirst (ls ++ [.main stmt partition]) ↔ StartsFirst ls := by
  cases ls with
  | nil => simp [StartsFirst]
  | cons l ls => exact startsFirst_concat (List.cons_ne_nil l ls) _

/-- What every step keeps. -/
structure Idle (handle : TaskHandle) (ls : List MainLabel) (s : MainState) : Prop where
  stats : s.profiler.taskStatsMap = exampleMap handle (s.started = true)
  snapshot : s.profiler.taskSnapshotMap = exampleMap handle (s.main ≠ .saveSingleTaskSnapshot ∧ StartsFirst ls)
  app : s.profiler.appSnapshot = .empty
  first : StartsFirst ls → s.started = true
  /-- in front of the snapshots -/
  early : s.main = .saveSingleTaskSnapshot → (s.started = true → StartsFirst ls) ∧ (s.started = false → ls = []) ∧
    s.printed = []
  late : s.main ≠ .saveSingleTaskSnapshot → ls ≠ []
  printed : ∀ o ∈ s.printed, Nothing (StartsFirst ls) o

section Runs

variable {handle : TaskHandle} {ls : List MainLabel} {s s' : MainState}

namespace Idle

theorem init : Idle handle [] (profilerMain handle).init where
  stats := rfl
  snapshot := by
    unfold exampleMap
    rw [if_neg (by simp [profilerMain])]
    rfl
  app := rfl
  first := by
    rintro ⟨_, ⟨⟩⟩
  early _ := ⟨fun h => absurd h Bool.false_ne_true, fun _ => rfl, rfl⟩
  late h := absurd rfl h
  printed o ho := absurd ho List.not_mem_nil

/-- The totals of a table without figures. -/
theorem currentStats (h : Idle handle ls s) : s.profiler.currentStats = .empty := by
  unfold TaskProfilerMonitor.currentStats
  rw [h.stats, Std.TreeMap.foldl_eq_foldl_toList, exampleMap_toList]
  split_ifs <;> rfl

theorem start (h : Idle handle ls s) (hstarted : s.started = false) (now : Int) :
    Idle handle (ls ++ [.start now])
      { s with profiler := s.profiler.startProfiling handle (ascii "example_task") now, started := true } := by
  have hempty : s.profiler.taskStatsMap[handle]? = none := by
    rw [h.stats, exampleMap_getElem, if_neg (by simp [hstarted])]
  have hstats : (s.profiler.startProfiling handle (ascii "example_task") now).taskStatsMap =
      exampleMap handle (true = true) := by
    unfold TaskProfilerMonitor.startProfiling
    dsimp only
    rw [hempty, h.stats]
    unfold exampleMap
    simp [hstarted, exampleRow]
  by_cases hmain : s.main = .saveSingleTaskSnapshot
  · obtain ⟨-, hnil, hprinted⟩ := h.early hmain
    obtain rfl := hnil hstarted
    refine ⟨hstats, ?_, h.app, fun _ => rfl, fun _ => ?_, fun hne => absurd hmain hne, ?_⟩
    · refine h.snapshot.trans ?_
      simp [exampleMap, hmain]
    · exact ⟨fun _ => ⟨now, rfl⟩, fun hf => absurd hf.symm Bool.false_ne_true, hprinted⟩
    · simp [hprinted]
  · have hne := h.late hmain
    refine ⟨hstats, ?_, h.app, fun _ => rfl, fun heq => absurd heq hmain, fun _ => by simp, ?_⟩
    · simp only [startsFirst_concat hne]
      exact h.snapshot
    · simp only [startsFirst_concat hne]
      exact h.printed

theorem getElem_stats (h : Idle handle ls s) :
    s.profiler.taskStatsMap[handle]? = if s.started = true then some exampleRow else none := by
  rw [h.stats, exampleMap_getElem]

theorem saveSingleTaskSnapshot (h : Idle handle ls s) (hmain : s.main = .saveSingleTaskSnapshot) :
    (s.profiler.saveSingleTaskSnapshot handle).taskSnapshotMap = exampleMap handle (StartsFirst ls) := by
  have hnone : s.profiler.taskSnapshotMap = ∅ := by
    rw [h.snapshot]
    exact if_neg (by simp [hmain])
  have hstats := h.getElem_stats
  unfold TaskProfilerMonitor.saveSingleTaskSnapshot exampleMap
  rw [hstats]
  by_cases hfirst : StartsFirst ls
  · rw [if_pos (h.first hfirst), if_pos hfirst, ← hnone]
  · have hnot : ¬ s.started = true := fun hstarted => hfirst ((h.early hmain).1 hstarted)
    rw [if_neg hnot, if_neg hfirst]
    exact hnone

/-- What `app_main` prints. -/
theorem output (h : Idle handle ls s) (partition : Option Partition) :
    Nothing (StartsFirst ls) (s.profiler.perform (s.main.call handle partition)).1 := by
  cases hmain : s.main with
  | saveSingleTaskSnapshot => trivial
  | saveAppSnapshot => trivial
  | printResults =>
    show s.profiler.taskStatsMap.toList.map Prod.snd = [] ∨ s.profiler.taskStatsMap.toList.map Prod.snd = [exampleRow]
    rw [h.stats, exampleMap_toList]
    split_ifs
    · exact Or.inr rfl
    · exact Or.inl rfl
  | printSingleTaskDiff =>
    have hsnapshot : s.profiler.taskSnapshotMap[handle]? = if StartsFirst ls then some exampleRow else none := by
      rw [h.snapshot, exampleMap_getElem]
      simp [hmain]
    constructor
    · intro hfirst
      have hstats := h.getElem_stats
      rw [if_pos (h.first hfirst)] at hstats
      rw [if_pos hfirst] at hsnapshot
      exact TaskProfilerMonitor.printSingleTaskDiff_of_some hstats hsnapshot
    · intro hfirst
      rw [if_neg hfirst] at hsnapshot
      show s.profiler.printSingleTaskDiff handle = _
      unfold TaskProfilerMonitor.printSingleTaskDiff
      rw [hsnapshot]
      cases s.profiler.taskStatsMap[handle]? <;> rfl
  | printAppDiff =>
    show s.profiler.currentStats.diff s.profiler.appSnapshot = _
    rw [h.currentStats, h.app]
    rfl

theorem main (h : Idle handle ls s) (partition : Option Partition) :
    Idle handle (ls ++ [.main s.main partition])
      { s with
        profiler := (s.profiler.perform (s.main.call handle partition)).2
        main := s.main.following
        printed := s.printed ++ [(s.profiler.perform (s.main.call handle partition)).1] } := by
  have hprinted : ∀ o ∈ s.printed ++ [(s.profiler.perform (s.main.call handle partition)).1],
      Nothing (StartsFirst ls) o := by
    rw [List.forall_mem_append, List.forall_mem_singleton]
    exact ⟨h.printed, h.output partition⟩
  have hfollowing : s.main.following ≠ .saveSingleTaskSnapshot := by
    cases s.main <;> decide
  refine ⟨?_, ?_, ?_, ?_, fun heq => absurd heq hfollowing, fun _ => by simp, ?_⟩
  · cases hmain : s.main with
    | saveSingleTaskSnapshot => exact (s.profiler.taskStatsMap_saveSingleTaskSnapshot handle).trans h.stats
    | _ => exact h.stats
  · simp only [startsFirst_concat_main, ne_eq, hfollowing, not_false_eq_true, true_and]
    cases hmain : s.main with
    | saveSingleTaskSnapshot => exact h.saveSingleTaskSnapshot hmain
    | _ =>
      refine h.snapshot.trans ?_
      simp [hmain]
  · cases hmain : s.main with
    | saveSingleTaskSnapshot =>
      refine Eq.trans ?_ h.app
      show (s.profiler.saveSingleTaskSnapshot handle).appSnapshot = _
      unfold TaskProfilerMonitor.saveSingleTaskSnapshot
      split <;> rfl
    | saveAppSnapshot => exact h.currentStats
    | _ => exact h.app
  · rw [startsFirst_concat_main]
    exact h.first
  · simp only [startsFirst_concat_main]
    exact hprinted

end Idle

theorem idle_of_exec (h : (profilerMain handle).exec ls = some s) : Idle handle ls s := by
  refine System.run_invariant _ (I := fun ls s => Idle handle ls s) Idle.init ?_ ls s h
  intro ls s l s' hidle hs
  cases l with
  | start now =>
    obtain ⟨hstarted, hs⟩ := Option.ite_none_right_eq_some.mp hs
    exact Option.some.inj hs ▸ hidle.start hstarted now
  | main stmt partition =>
    obtain ⟨rfl, hs⟩ := Option.ite_none_right_eq_some.mp hs
    exact Option.some.inj hs ▸ hidle.main partition

end Runs

/-- **The profiling program measures nothing.** In every interleaving of the calls of the two tasks, however long they run,
each difference of the application that is printed is zero and each table is handed no row or one without figures; each
difference of the task is zero when `exampleTask` came before the snapshots, and else none is ever printed. -/
theorem nothing_measured (handle : TaskHandle) (ls : List MainLabel) (s : MainState)
    (h : (profilerMain handle).exec ls = some s) : ∀ o ∈ s.printed, Nothing (StartsFirst ls) o :=
  (idle_of_exec h).printed

/-- `exampleTask` starts behind the snapshot of the task. -/
theorem nothing_measured_late :
    ∃ s, (profilerMain 7).exec [.main .saveSingleTaskSnapshot none, .start 5, .main .saveAppSnapshot none,
        .main .printResults none, .main .printSingleTaskDiff none] = some s ∧ s.printed.length = 4 ∧
      ∀ o ∈ s.printed, Nothing False o := by
  have hrun : (((profilerMain 7).exec [.main .saveSingleTaskSnapshot none, .start 5, .main .saveAppSnapshot none,
      .main .printResults none, .main .printSingleTaskDiff none]).map fun s => s.printed.length) = some 4 := by rfl
  obtain ⟨s, hs, hlength⟩ := Option.map_eq_some_iff.mp hrun
  refine ⟨s, hs, hlength, ?_⟩
  have hprinted := nothing_measured 7 _ s hs
  rwa [show StartsFirst _ ↔ False from by simp [StartsFirst]] at hprinted

end MultisensorStation.Profiler
