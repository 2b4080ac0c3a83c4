import MultisensorStation.Profiler.TaskProfiler
import MultisensorStation.Base.MapTotal
import Mathlib.Data.UInt

/-!
# The differences to the snapshots

* `saveSnapshots` : `save_single_task_snapshot` of several tasks;
* `changeOf` : what a figure of one task has changed by, modulo `2 ^ 32` where the figure is a `uint32_t`;
* `currentStats_total` : what the loops over all tasks add up;
* `app_diff_is_sum` : the difference of the application is the sum of the changes of the tasks.
-/

namespace MultisensorStation.Profiler
open MultisensorStation.Base

namespace TaskProfilerMonitor

/-- `save_single_task_snapshot` of each of the tasks. -/
def saveSnapshots (tasks : List TaskHandle) (p : TaskProfilerMonitor) : TaskProfilerMonitor :=
  tasks.foldl (fun p task => p.saveSingleTaskSnapshot task) p

/-- What the figure of a task has changed by from `p` to `q`; 0 stands for a task that is not known. -/
def changeOf {M : Type*} [AddCommGroup M] (f : TaskStats → M) (p q : TaskProfilerMonitor) (task : TaskHandle) : M :=
  figure f q.taskStatsMap task - figure f p.taskStatsMap task

theorem changeOf_of_some {M : Type*} [AddCommGroup M] (f : TaskStats → M) {p q : TaskProfilerMonitor}
    {task : TaskHandle} {snapshot current : TaskStats} (hp : p.taskStatsMap[task]? = some snapshot)
    (hq : q.taskStatsMap[task]? = some current) : changeOf f p q task = f current - f snapshot := by
  unfold changeOf
  rw [figure_of_some hp, figure_of_some hq]

/-! ## The loops over all tasks -/

/-- A figure that `addStats` adds up. -/
theorem currentStats_total {M : Type*} [AddCommMonoid M] (f : TaskStats → M) (hempty : f .empty = 0)
    (hadd : ∀ total stats, f (addStats total stats) = f total + f stats) (p : TaskProfilerMonitor) :
    f p.currentStats = total f p.taskStatsMap := by
  unfold currentStats
  rw [foldl_total hadd, hempty, zero_add]

/-- The total of a figure at a snapshot and the one after more calls. -/
theorem currentStats_sub {M : Type*} [AddCommGroup M] (f : TaskStats → M) (hempty : f .empty = 0)
    (hadd : ∀ total stats, f (addStats total stats) = f total + f stats) {p q : TaskProfilerMonitor}
    (hsub : ∀ task ∈ p.taskStatsMap, task ∈ q.taskStatsMap) :
    f q.currentStats - f p.currentStats = (q.taskStatsMap.keys.map (changeOf f p q)).sum := by
  rw [currentStats_total f hempty hadd, currentStats_total f hempty hadd]
  exact total_sub f hsub

theorem taskStatsMap_saveSnapshots (tasks : List TaskHandle) (p : TaskProfilerMonitor) :
    (p.saveSnapshots tasks).taskStatsMap = p.taskStatsMap := by
  unfold saveSnapshots
  induction tasks generalizing p with
  | nil => rfl
  | cons task tasks ih => exact (ih _).trans (taskStatsMap_saveSingleTaskSnapshot p task)

/-- The snapshot of a task, once it is taken, says what the task's figures are. -/
theorem taskSnapshotMap_saveSnapshots {task : TaskHandle} {stats : TaskStats} (tasks : List TaskHandle) :
    ∀ p : TaskProfilerMonitor, p.taskStatsMap[task]? = some stats →
      (task ∈ tasks ∨ p.taskSnapshotMap[task]? = some stats) →
        (p.saveSnapshots tasks).taskSnapshotMap[task]? = some stats := by
  unfold saveSnapshots
  induction tasks with
  | nil => exact fun p _ h => h.resolve_left List.not_mem_nil
  | cons u tasks ih =>
    intro p hstats h
    apply ih (p.saveSingleTaskSnapshot u)
    · rw [taskStatsMap_saveSingleTaskSnapshot, hstats]
    · by_cases hu : u = task
      · right
        rw [hu, taskSnapshotMap_saveSingleTaskSnapshot hstats, if_pos rfl]
      · rcases h with hmem | hsnap
        · exact Or.inl ((List.mem_cons.mp hmem).resolve_left (Ne.symm hu))
        · right
          unfold saveSingleTaskSnapshot
          split
          · exact hsnap
          · next stats' _ =>
            dsimp only
            rw [Std.TreeMap.getElem?_insert, if_neg (by simpa [compare_eq_iff_eq] using hu), hsnap]

/-- `start_profiling` of a new task adds zeroes. -/
theorem figure_startProfiling {M : Type*} [AddCommMonoid M] {f : TaskStats → M}
    (hempty : ∀ name, f { TaskStats.empty with name := name } = 0) (p : TaskProfilerMonitor) (task : TaskHandle)
    (name : Bytes) (now : Int) (u : TaskHandle) :
    figure f (p.startProfiling task name now).taskStatsMap u = figure f p.taskStatsMap u := by
  unfold figure
  rw [taskStatsMap_startProfiling]
  split_ifs with hu
  · rw [hu]
    cases p.taskStatsMap[u]? with
    | none => exact hempty name
    | some stats => rfl
  · rfl

theorem changeOf_of_only_starts {M : Type*} [AddCommGroup M] {f : TaskStats → M}
    (hempty : ∀ name, f { TaskStats.empty with name := name } = 0) {p q : TaskProfilerMonitor}
    (hpq : q.taskStatsMap = p.taskStatsMap) {calls : List ProfilerCall}
    (hcalls : ∀ c ∈ calls, ∃ task name now, c = .startProfiling task name now) (task : TaskHandle) :
    changeOf f p (calls.foldl call q) task = 0 := by
  unfold changeOf
  rw [← hpq]
  clear hpq
  induction calls generalizing q with
  | nil => exact sub_self _
  | cons c calls ih =>
    obtain ⟨u, name, now, rfl⟩ := hcalls c List.mem_cons_self
    rw [List.foldl_cons, ← figure_startProfiling hempty q u name now]
    exact ih (fun d hd => hcalls d (List.mem_cons_of_mem _ hd))

theorem sum_changeOf_of_only_starts {M : Type*} [AddCommGroup M] (f : TaskStats → M)
    (hempty : ∀ name, f { TaskStats.empty with name := name } = 0) {p q : TaskProfilerMonitor}
    (hpq : q.taskStatsMap = p.taskStatsMap) {calls : List ProfilerCall}
    (hcalls : ∀ c ∈ calls, ∃ task name now, c = .startProfiling task name now) :
    ((calls.foldl call q).taskStatsMap.keys.map (changeOf f p (calls.foldl call q))).sum = 0 := by
  apply List.sum_eq_zero
  intro x hx
  obtain ⟨task, -, rfl⟩ := List.mem_map.mp hx
  exact changeOf_of_only_starts hempty hpq hcalls task

/-- `start_profiling` leaves the tasks alone that are known. -/
theorem stats_of_only_starts {q : TaskProfilerMonitor} {task : TaskHandle} {stats : TaskStats}
    (hstats : q.taskStatsMap[task]? = some stats) {calls : List ProfilerCall}
    (hcalls : ∀ c ∈ calls, ∃ u name now, c = .startProfiling u name now) :
    (calls.foldl call q).taskStatsMap[task]? = some stats := by
  induction calls generalizing q with
  | nil => exact hstats
  | cons c calls ih =>
    obtain ⟨u, name, now, rfl⟩ := hcalls c List.mem_cons_self
    refine ih ?_ (fun d hd => hcalls d (List.mem_cons_of_mem _ hd))
    rw [call, taskStatsMap_startProfiling]
    split_ifs with hu
    · rw [hu, hstats, Option.getD_some]
    · exact hstats

/-! ## The difference of the application -/

/-- What is known at the snapshots, and what `print_app_diff` and `print_single_task_diff` compare it with. -/
theorem state_after_snapshots (p : TaskProfilerMonitor) (tasks : List TaskHandle) (calls : List ProfilerCall) :
    let q := calls.foldl call (p.saveSnapshots tasks).saveAppSnapshot
    q.appSnapshot = p.currentStats ∧ (∀ task ∈ p.taskStatsMap, task ∈ q.taskStatsMap) ∧
      ∀ task ∈ tasks, ∀ stats, p.taskStatsMap[task]? = some stats → q.taskSnapshotMap[task]? = some stats := by
  intro q
  obtain ⟨hsnap, happ⟩ := snapshots_foldl (p.saveSnapshots tasks).saveAppSnapshot calls
  have hmap : (p.saveSnapshots tasks).saveAppSnapshot.taskStatsMap = p.taskStatsMap :=
    taskStatsMap_saveSnapshots tasks p
  refine ⟨?_, fun task htask => ?_, fun task htask stats hstats => ?_⟩
  · rw [happ]
    show (p.saveSnapshots tasks).currentStats = _
    rw [currentStats, taskStatsMap_saveSnapshots]
    rfl
  · rw [Std.TreeMap.mem_iff_isSome_getElem?] at htask ⊢
    exact known_foldl (hmap ▸ htask) calls
  · rw [hsnap]
    exact taskSnapshotMap_saveSnapshots tasks p hstats (Or.inl htask)

/-- **The difference of the application is the sum of those of the tasks.** After snapshots in any state `p` and any
calls: `print_app_diff` reports the sums of what the tasks' figures have changed by, and for each task with a snapshot
this is what `print_single_task_diff` reports; all are 0 when no task was stopped. -/
theorem app_diff_is_sum (p : TaskProfilerMonitor) (tasks : List TaskHandle) (calls : List ProfilerCall) :
    let q := calls.foldl call (p.saveSnapshots tasks).saveAppSnapshot
    let d := q.printAppDiff
    (d.executionTime = (q.taskStatsMap.keys.map (changeOf TaskStats.executionTime p q)).sum ∧
      d.cpuUsage = (q.taskStatsMap.keys.map (changeOf TaskStats.cpuUsage p q)).sum ∧
      d.stackHighWaterMark = (q.taskStatsMap.keys.map (changeOf TaskStats.stackHighWaterMark p q)).sum) ∧
    (∀ task ∈ tasks, ∀ stats, p.taskStatsMap[task]? = some stats →
      ∃ name d', q.printSingleTaskDiff task = .ok (name, d') ∧
        d'.executionTime = changeOf TaskStats.executionTime p q task ∧
        d'.cpuUsage = changeOf TaskStats.cpuUsage p q task ∧
        d'.stackHighWaterMark = changeOf TaskStats.stackHighWaterMark p q task) ∧
    ((∀ c ∈ calls, ∃ task name now, c = .startProfiling task name now) →
      (d.executionTime = 0 ∧ d.cpuUsage = 0 ∧ d.stackHighWaterMark = 0) ∧
      ∀ task ∈ tasks, ∀ stats, p.taskStatsMap[task]? = some stats →
        q.printSingleTaskDiff task = .ok (stats.name, ⟨0, 0, 0, 0⟩)) := by
  intro q d
  obtain ⟨happ, hsub, hsnap⟩ := state_after_snapshots p tasks calls
  have hmap : (p.saveSnapshots tasks).saveAppSnapshot.taskStatsMap = p.taskStatsMap :=
    taskStatsMap_saveSnapshots tasks p
  have hd : d = q.currentStats.diff p.currentStats := congrArg q.currentStats.diff happ
  have hsums : d.executionTime = (q.taskStatsMap.keys.map (changeOf TaskStats.executionTime p q)).sum ∧
      d.cpuUsage = (q.taskStatsMap.keys.map (changeOf TaskStats.cpuUsage p q)).sum ∧
      d.stackHighWaterMark = (q.taskStatsMap.keys.map (changeOf TaskStats.stackHighWaterMark p q)).sum := by
    rw [hd]
    exact ⟨currentStats_sub TaskStats.executionTime rfl (fun _ _ => rfl) hsub,
      currentStats_sub TaskStats.cpuUsage rfl (fun _ _ => rfl) hsub,
      currentStats_sub TaskStats.stackHighWaterMark rfl (fun _ _ => rfl) hsub⟩
  refine ⟨hsums, fun task htask stats hstats => ?_, fun hcalls => ⟨?_, fun task htask stats hstats => ?_⟩⟩
  · have hknown := hsub task (by rw [Std.TreeMap.mem_iff_isSome_getElem?, hstats]; rfl)
    rw [Std.TreeMap.mem_iff_isSome_getElem?] at hknown
    obtain ⟨current, hcurrent⟩ := Option.isSome_iff_exists.mp hknown
    exact ⟨current.name, current.diff stats, printSingleTaskDiff_of_some hcurrent (hsnap task htask stats hstats),
      (changeOf_of_some _ hstats hcurrent).symm, (changeOf_of_some _ hstats hcurrent).symm,
      (changeOf_of_some _ hstats hcurrent).symm⟩
  · obtain ⟨htime, hcpu, hstack⟩ := hsums
    rw [htime, hcpu, hstack]
    exact ⟨sum_changeOf_of_only_starts _ (fun _ => rfl) hmap hcalls,
      sum_changeOf_of_only_starts _ (fun _ => rfl) hmap hcalls,
      sum_changeOf_of_only_starts _ (fun _ => rfl) hmap hcalls⟩
  · have hcurrent := stats_of_only_starts (hmap ▸ hstats) hcalls
    rw [printSingleTaskDiff_of_some hcurrent (hsnap task htask stats hstats)]
    simp only [TaskStats.diff, sub_self]

end TaskProfilerMonitor

end MultisensorStation.Profiler
