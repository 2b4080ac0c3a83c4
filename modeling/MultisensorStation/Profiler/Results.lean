import MultisensorStation.Profiler.HeapFigure
import MultisensorStation.Profiler.SnapshotDiffs
import MultisensorStation.Base.Runs

/-!
# What the profiler prints

Any sequence of calls of the public methods, prints and snapshots between starts and stops.

* `printFlashInfo`, `tableRows`, `printResults` : what `print_results` hands to `print_table_row`, with what follows it;
* `MonitorCall`, `perform` : the methods; `measures` : the starts and stops of a sequence; `after` : the profiler at its
  end;
* `Row` : what a sequence says of the row of a task; `row_of_history`, `results_of_history` : there is one row for each
  task that was started, and this is it;
* `rowTotals` : the sums of the figures of rows, and the heap of the last one;
* `diffs_of_history` : each difference is taken to the last snapshot that there was something to take of.
-/

namespace MultisensorStation.Profiler
open MultisensorStation.Base

/-- The members of `esp_partition_t` that are read. -/
structure Partition where
  address : UInt32
  size : UInt32
  deriving DecidableEq

structure FlashInfo where
  totalFlashSize : UInt32
  usedFlashSize : UInt32
  freeFlashSize : UInt32
  deriving DecidableEq

/-- With the partition that `esp_partition_find_first` finds. -/
def printFlashInfo (partition : Option Partition) : Except Bytes FlashInfo :=
  match partition with
  | none => .error (ascii "Failed to find application partition")
  | some q =>
    let total := q.size
    let used := q.address + q.size - q.size
    .ok ⟨total, used, total - used⟩

/-- What is reported as used is the address at which the partition begins. -/
theorem printFlashInfo_some (q : Partition) : printFlashInfo (some q) = .ok ⟨q.size, q.address, q.size - q.address⟩ := by
  have hused : q.address + q.size - q.size = q.address := UInt32.add_sub_cancel q.address q.size
  show Except.ok (FlashInfo.mk _ (q.address + q.size - q.size) (q.size - (q.address + q.size - q.size))) = _
  rw [hused]

inductive MonitorCall where
  | measure (c : ProfilerCall)
  | saveSingleTaskSnapshot (task : TaskHandle)
  | saveAppSnapshot
  | printResults (partition : Option Partition)
  | printSingleTaskDiff (task : TaskHandle)
  | printAppDiff
  deriving DecidableEq

inductive MonitorOutput where
  | nothing
  /-- the arguments of the calls of `print_table_row` -/
  | results (rows : List TaskStats) (flash : Except Bytes FlashInfo)
  | taskDiff (diff : Except Bytes (Bytes × StatsDiff))
  | appDiff (diff : StatsDiff)

namespace TaskProfilerMonitor

/-- What is handed to `print_table_row`, in the order of the map. Its format has `%zu` in every column, so that the
console does not show the name, and not every figure, of what it is handed. -/
def tableRows (p : TaskProfilerMonitor) : List TaskStats := p.taskStatsMap.toList.map Prod.snd

def printResults (partition : Option Partition) (p : TaskProfilerMonitor) : List TaskStats × Except Bytes FlashInfo :=
  (p.tableRows, printFlashInfo partition)

def perform (p : TaskProfilerMonitor) : MonitorCall → MonitorOutput × TaskProfilerMonitor
  | .measure c => (.nothing, p.call c)
  | .saveSingleTaskSnapshot task => (.nothing, p.saveSingleTaskSnapshot task)
  | .saveAppSnapshot => (.nothing, p.saveAppSnapshot)
  | .printResults partition => (.results (p.printResults partition).1 (p.printResults partition).2, p)
  | .printSingleTaskDiff task => (.taskDiff (p.printSingleTaskDiff task), p)
  | .printAppDiff => (.appDiff p.printAppDiff, p)

/-- The profiler after these calls. -/
def after (cs : List MonitorCall) : TaskProfilerMonitor := (respond perform init cs).2

theorem after_concat (cs : List MonitorCall) (c : MonitorCall) : after (cs ++ [c]) = ((after cs).perform c).2 := by
  unfold after
  rw [respond_append]
  rfl

end TaskProfilerMonitor

def MonitorCall.measured : MonitorCall → Option ProfilerCall
  | measure c => some c
  | _ => none

/-- The starts and stops. -/
def measures (cs : List MonitorCall) : List ProfilerCall := cs.filterMap MonitorCall.measured

theorem measures_concat (cs : List MonitorCall) (c : MonitorCall) :
    measures (cs ++ [c]) = measures cs ++ c.measured.toList := filterMap_concat MonitorCall.measured cs c

/-! ## Snapshots and prints leave the statistics alone -/

/-- They agree on what the starts and stops read and write. -/
structure SameStats (p q : TaskProfilerMonitor) : Prop where
  map : p.taskStatsMap = q.taskStatsMap
  start : p.startTime = q.startTime

namespace SameStats

variable {p q : TaskProfilerMonitor}

theorem call (h : SameStats p q) (c : ProfilerCall) : SameStats (p.call c) (q.call c) := by
  cases c with
  | startProfiling task name now =>
    refine ⟨?_, rfl⟩
    simp only [TaskProfilerMonitor.call, TaskProfilerMonitor.startProfiling, h.map]
  | stopProfiling task r =>
    simp only [TaskProfilerMonitor.call]
    constructor
    · unfold TaskProfilerMonitor.stopProfiling
      rw [h.map, h.start]
      split
      · exact h.map
      · rfl
    · rw [TaskProfilerMonitor.startTime_stopProfiling, TaskProfilerMonitor.startTime_stopProfiling, h.start]

theorem saveSingleTaskSnapshot (h : SameStats p q) (task : TaskHandle) :
    SameStats (p.saveSingleTaskSnapshot task) q := by
  refine ⟨(p.taskStatsMap_saveSingleTaskSnapshot task).trans h.map, ?_⟩
  unfold TaskProfilerMonitor.saveSingleTaskSnapshot
  split <;> exact h.start

end SameStats

theorem sameStats_after (cs : List MonitorCall) :
    SameStats (TaskProfilerMonitor.after cs) (TaskProfilerMonitor.run (measures cs)) := by
  induction cs using List.reverseRecOn with
  | nil => exact ⟨rfl, rfl⟩
  | append_singleton cs c ih =>
    rw [TaskProfilerMonitor.after_concat, measures_concat]
    cases c with
    | measure c =>
      show SameStats ((TaskProfilerMonitor.after cs).call c) (TaskProfilerMonitor.run (measures cs ++ [c]))
      rw [TaskProfilerMonitor.run_concat]
      exact ih.call c
    | saveSingleTaskSnapshot task =>
      show SameStats _ (TaskProfilerMonitor.run (measures cs ++ []))
      rw [List.append_nil]
      exact ih.saveSingleTaskSnapshot task
    | _ =>
      show SameStats _ (TaskProfilerMonitor.run (measures cs ++ []))
      rw [List.append_nil]
      exact ⟨ih.map, ih.start⟩

/-! ## The row of a task -/

/-- The reading of the clock at the latest start of any task; 0 is the epoch. -/
def latestStart (calls : List ProfilerCall) : Int := (calls.filterMap ProfilerCall.started).getLast?.getD 0

theorem startTime_run_eq (calls : List ProfilerCall) :
    (TaskProfilerMonitor.run calls).startTime = latestStart calls := by
  unfold latestStart
  induction calls using List.reverseRecOn with
  | nil => rfl
  | append_singleton calls c ih =>
    rw [TaskProfilerMonitor.run_concat, filterMap_concat]
    cases c with
    | startProfiling task name now =>
      rw [ProfilerCall.started, Option.toList_some, List.getLast?_concat]
      rfl
    | stopProfiling task r =>
      rw [ProfilerCall.started, Option.toList_none, List.append_nil]
      exact (TaskProfilerMonitor.startTime_stopProfiling ..).trans ih

/-- The name is that of the first start of the task; the figures are those of its last stop after it, and its time
counts from the latest start of any task before this stop. -/
inductive Row (calls : List ProfilerCall) (task : TaskHandle) : TaskStats → Prop where
  | started {pre post : List ProfilerCall} {name : Bytes} {now : Int}
    (hcalls : calls = pre ++ .startProfiling task name now :: post) (hfirst : task ∉ startedTasks pre)
    (hnone : ∀ r, .stopProfiling task r ∉ post) : Row calls task { TaskStats.empty with name := name }
  | stopped {pre mid post : List ProfilerCall} {name : Bytes} {now : Int} {r : Readings}
    (hcalls : calls = pre ++ .startProfiling task name now :: mid ++ .stopProfiling task r :: post)
    (hfirst : task ∉ startedTasks pre) (hlast : ∀ r', .stopProfiling task r' ∉ post) :
    Row calls task
      { name := name
        executionTime := durationCast (r.now - latestStart (pre ++ .startProfiling task name now :: mid))
        cpuUsage := r.runTimeCounter / 1000
        stackHighWaterMark := r.stackHighWaterMark
        heapFree := r.freeHeap }

namespace Row

variable {calls : List ProfilerCall} {task : TaskHandle} {stats : TaskStats}

theorem concat (h : Row calls task stats) {c : ProfilerCall} (hc : ∀ r, c ≠ .stopProfiling task r) :
    Row (calls ++ [c]) task stats := by
  have hnot : ∀ {post : List ProfilerCall}, (∀ r, .stopProfiling task r ∉ post) →
      ∀ r, .stopProfiling task r ∉ post ++ [c] := by
    intro post hpost r hmem
    rcases List.mem_append.mp hmem with hold | hnew
    · exact hpost r hold
    · exact hc r (List.mem_singleton.mp hnew).symm
  cases h with
  | @started pre post name now hcalls hfirst hnone =>
    exact .started (by rw [hcalls, List.append_assoc, List.cons_append]) hfirst (hnot hnone)
  | @stopped pre mid post name now r hcalls hfirst hlast =>
    exact .stopped (by rw [hcalls, List.append_assoc (_ ++ _), List.cons_append]) hfirst (hnot hlast)

theorem first_start (h : Row calls task stats) :
    ∃ pre now post, calls = pre ++ .startProfiling task stats.name now :: post ∧ task ∉ startedTasks pre := by
  cases h with
  | started hcalls hfirst _ => exact ⟨_, _, _, hcalls, hfirst⟩
  | stopped hcalls hfirst _ => exact ⟨_, _, _, by rw [hcalls, List.append_assoc, List.cons_append], hfirst⟩

theorem stop (h : Row calls task stats) (r : Readings) :
    Row (calls ++ [.stopProfiling task r]) task
      { stats with
        executionTime := durationCast (r.now - latestStart calls)
        cpuUsage := r.runTimeCounter / 1000
        stackHighWaterMark := r.stackHighWaterMark
        heapFree := r.freeHeap } := by
  obtain ⟨pre, now, post, rfl, hfirst⟩ := h.first_start
  exact .stopped rfl hfirst (fun r' => List.not_mem_nil)

end Row

theorem row_of_history (calls : List ProfilerCall) (task : TaskHandle) (stats : TaskStats)
    (h : (TaskProfilerMonitor.run calls).taskStatsMap[task]? = some stats) : Row calls task stats := by
  induction calls using List.reverseRecOn generalizing stats with
  | nil => simp [TaskProfilerMonitor.run, TaskProfilerMonitor.init] at h
  | append_singleton calls c ih =>
    rw [TaskProfilerMonitor.run_concat] at h
    cases c with
    | startProfiling u name now =>
      have hother : ∀ r, ProfilerCall.startProfiling u name now ≠ .stopProfiling task r := fun r hr => by cases hr
      rw [TaskProfilerMonitor.call, TaskProfilerMonitor.taskStatsMap_startProfiling] at h
      split_ifs at h with hu
      · subst hu
        cases hold : (TaskProfilerMonitor.run calls).taskStatsMap[u]? with
        | some old =>
          rw [hold, Option.getD_some, Option.some.injEq] at h
          exact h ▸ (ih old hold).concat hother
        | none =>
          rw [hold, Option.getD_none, Option.some.injEq] at h
          exact h ▸ .started rfl ((measured_run calls).not_mem_startedTasks hold) (fun r => List.not_mem_nil)
      · exact (ih stats h).concat hother
    | stopProfiling u r =>
      rw [TaskProfilerMonitor.call] at h
      cases hold : (TaskProfilerMonitor.run calls).taskStatsMap[u]? with
      | none =>
        rw [TaskProfilerMonitor.stopProfiling_of_unknown hold] at h
        refine (ih stats h).concat (fun r' hr => ?_)
        cases hr
        rw [hold] at h
        cases h
      | some old =>
        rw [TaskProfilerMonitor.stopProfiling_of_known hold] at h
        split_ifs at h with hu
        · subst hu
          rw [startTime_run_eq, Option.some.injEq] at h
          exact h ▸ (ih old hold).stop r
        · exact (ih stats h).concat (fun r' hr => hu (by cases hr; rfl))

/-- **One row for each task.** After any calls of the profiler's methods, `print_results` hands one row to
`print_table_row` for each task that was ever started, in the order of the handles; each with the name of the task's first
start and the figures of its last stop after it, or zeroes, and with the time since the latest start of any task before
that stop. -/
theorem results_of_history (cs : List MonitorCall) (partition : Option Partition) :
    ∃ tasks : List TaskHandle, tasks.Pairwise (· < ·) ∧ (∀ task, task ∈ tasks ↔ task ∈ startedTasks (measures cs)) ∧
      List.Forall₂ (Row (measures cs)) tasks ((TaskProfilerMonitor.after cs).printResults partition).1 := by
  have hmap := (sameStats_after cs).map
  have hmeasured := measured_run (measures cs)
  refine ⟨(TaskProfilerMonitor.after cs).taskStatsMap.toList.map Prod.fst, ?_, fun task => ?_, ?_⟩
  · rw [List.pairwise_map]
    exact (Std.TreeMap.ordered_keys_toList (t := (TaskProfilerMonitor.after cs).taskStatsMap)).imp
      (fun h => Nat.compare_eq_lt.mp h)
  · rw [← hmeasured.known, ← hmap]
    constructor
    · intro hmem
      obtain ⟨e, he, rfl⟩ := List.mem_map.mp hmem
      rw [Std.TreeMap.mem_iff_isSome_getElem?, Std.TreeMap.mem_toList_iff_getElem?_eq_some.mp he]
      rfl
    · intro hmem
      rw [Std.TreeMap.mem_iff_isSome_getElem?, Option.isSome_iff_exists] at hmem
      obtain ⟨stats, hstats⟩ := hmem
      exact List.mem_map.mpr ⟨(task, stats), Std.TreeMap.mem_toList_iff_getElem?_eq_some.mpr hstats, rfl⟩
  · show List.Forall₂ _ _ (List.map Prod.snd _)
    rw [List.forall₂_map_left_iff, List.forall₂_map_right_iff, List.forall₂_same]
    intro e he
    have hstats := Std.TreeMap.mem_toList_iff_getElem?_eq_some.mp he
    rw [hmap] at hstats
    exact row_of_history (measures cs) e.1 e.2 hstats

/-! ## The snapshots -/

section Snapshots
variable {cs : List MonitorCall} {task : TaskHandle}

theorem known_after : (∃ stats, (TaskProfilerMonitor.after cs).taskStatsMap[task]? = some stats) ↔
    task ∈ startedTasks (measures cs) := by
  rw [(sameStats_after cs).map, ← Option.isSome_iff_exists, (measured_run (measures cs)).isSome_iff]

/-- A task that was started is known from then on. -/
theorem startedTasks_append {pre : List MonitorCall} (h : task ∈ startedTasks (measures pre)) (post : List MonitorCall) :
    task ∈ startedTasks (measures (pre ++ post)) := by
  unfold startedTasks measures at h ⊢
  rw [List.filterMap_append, List.filterMap_append]
  exact List.mem_append_left _ h

/-- Only a snapshot of the task changes its snapshot. -/
theorem taskSnapshotMap_concat {c : MonitorCall} (hc : c ≠ .saveSingleTaskSnapshot task) :
    (TaskProfilerMonitor.after (cs ++ [c])).taskSnapshotMap[task]? =
      (TaskProfilerMonitor.after cs).taskSnapshotMap[task]? := by
  rw [TaskProfilerMonitor.after_concat]
  cases c with
  | measure c => exact congrArg (fun m => m[task]?) (TaskProfilerMonitor.snapshots_call _ c).1
  | saveSingleTaskSnapshot u =>
    have hu : u ≠ task := fun h => hc (h ▸ rfl)
    cases hstats : (TaskProfilerMonitor.after cs).taskStatsMap[u]? with
    | none => simp only [TaskProfilerMonitor.perform, TaskProfilerMonitor.saveSingleTaskSnapshot, hstats]
    | some stats =>
      show ((TaskProfilerMonitor.after cs).saveSingleTaskSnapshot u).taskSnapshotMap[task]? = _
      rw [TaskProfilerMonitor.taskSnapshotMap_saveSingleTaskSnapshot hstats, if_neg hu]
  | _ => rfl

theorem taskSnapshotMap_save {stats : TaskStats}
    (h : (TaskProfilerMonitor.after cs).taskStatsMap[task]? = some stats) :
    (TaskProfilerMonitor.after (cs ++ [.saveSingleTaskSnapshot task])).taskSnapshotMap[task]? = some stats := by
  rw [TaskProfilerMonitor.after_concat]
  show ((TaskProfilerMonitor.after cs).saveSingleTaskSnapshot task).taskSnapshotMap[task]? = _
  rw [TaskProfilerMonitor.taskSnapshotMap_saveSingleTaskSnapshot h, if_pos rfl]

theorem taskSnapshotMap_append (post : List MonitorCall) (hpost : .saveSingleTaskSnapshot task ∉ post) :
    (TaskProfilerMonitor.after (cs ++ post)).taskSnapshotMap[task]? =
      (TaskProfilerMonitor.after cs).taskSnapshotMap[task]? := by
  induction post using List.reverseRecOn with
  | nil => rw [List.append_nil]
  | append_singleton post c ih =>
    rw [List.mem_append, not_or, List.mem_singleton] at hpost
    rw [← List.append_assoc, taskSnapshotMap_concat (Ne.symm hpost.2), ih hpost.1]

theorem appSnapshot_append (post : List MonitorCall) (hpost : .saveAppSnapshot ∉ post) :
    (TaskProfilerMonitor.after (cs ++ post)).appSnapshot = (TaskProfilerMonitor.after cs).appSnapshot := by
  induction post using List.reverseRecOn with
  | nil => rw [List.append_nil]
  | append_singleton post c ih =>
    rw [List.mem_append, not_or, List.mem_singleton] at hpost
    rw [← List.append_assoc, TaskProfilerMonitor.after_concat, ← ih hpost.1]
    cases c with
    | measure c => exact (TaskProfilerMonitor.snapshots_call _ c).2
    | saveSingleTaskSnapshot u =>
      show (TaskProfilerMonitor.saveSingleTaskSnapshot ..).appSnapshot = _
      unfold TaskProfilerMonitor.saveSingleTaskSnapshot
      split <;> rfl
    | saveAppSnapshot => exact absurd rfl hpost.2
    | _ => rfl

/-- A snapshot is there when one was taken after a start of the task. -/
theorem snapshot_iff (cs : List MonitorCall) (task : TaskHandle) :
    (TaskProfilerMonitor.after cs).taskSnapshotMap[task]?.isSome = true ↔
      ∃ pre post, cs = pre ++ .saveSingleTaskSnapshot task :: post ∧ task ∈ startedTasks (measures pre) := by
  induction cs using List.reverseRecOn with
  | nil => simp [TaskProfilerMonitor.after, TaskProfilerMonitor.init]
  | append_singleton cs c ih =>
    rw [exists_split_concat (P := fun pre => task ∈ startedTasks (measures pre)), ← ih]
    by_cases hc : c = .saveSingleTaskSnapshot task
    · subst hc
      by_cases hknown : task ∈ startedTasks (measures cs)
      · obtain ⟨stats, hstats⟩ := known_after.mpr hknown
        simp [taskSnapshotMap_save hstats, hknown]
      · have hnone : (TaskProfilerMonitor.after cs).taskStatsMap[task]? = none := by
          by_contra hsome
          exact hknown (known_after.mp (Option.ne_none_iff_exists'.mp hsome))
        have hsame : ((TaskProfilerMonitor.after cs).saveSingleTaskSnapshot task) = TaskProfilerMonitor.after cs := by
          unfold TaskProfilerMonitor.saveSingleTaskSnapshot
          rw [hnone]
        rw [TaskProfilerMonitor.after_concat]
        show ((TaskProfilerMonitor.after cs).saveSingleTaskSnapshot task).taskSnapshotMap[task]?.isSome = true ↔ _
        simp [hsame, hknown]
    · rw [taskSnapshotMap_concat hc]
      simp [hc]

end Snapshots

/-! ## The totals -/

/-- The sums of the figures over the rows, and the heap of the last one. -/
def rowTotals (rows : List TaskStats) : TaskStats :=
  { name := []
    executionTime := (rows.map TaskStats.executionTime).sum
    cpuUsage := (rows.map TaskStats.cpuUsage).sum
    stackHighWaterMark := (rows.map TaskStats.stackHighWaterMark).sum
    heapFree := (rows.getLast?.map TaskStats.heapFree).getD 0 }

namespace TaskProfilerMonitor

theorem total_taskStatsMap {M : Type*} [AddCommMonoid M] (f : TaskStats → M) (p : TaskProfilerMonitor) :
    total f p.taskStatsMap = (p.tableRows.map f).sum := by
  unfold total tableRows
  rw [List.map_map]
  rfl

theorem lastHeap_eq (p : TaskProfilerMonitor) : p.lastHeap = (p.tableRows.getLast?.map TaskStats.heapFree).getD 0 := by
  unfold lastHeap tableRows
  rw [List.getLast?_map, Option.map_map]
  rfl

theorem name_currentStats (p : TaskProfilerMonitor) : p.currentStats.name = [] := by
  have hname : ∀ (es : List (TaskHandle × TaskStats)) (total : TaskStats),
      (es.foldl (fun total e => addStats total e.2) total).name = total.name := by
    intro es
    induction es with
    | nil => exact fun _ => rfl
    | cons e es ih => exact fun total => ih (addStats total e.2)
  unfold currentStats
  rw [Std.TreeMap.foldl_eq_foldl_toList]
  exact hname _ .empty

/-- The loop over all tasks adds up their rows. -/
theorem currentStats_eq (p : TaskProfilerMonitor) : p.currentStats = rowTotals p.tableRows := by
  have htime := currentStats_total TaskStats.executionTime rfl (fun _ _ => rfl) p
  have hcpu := currentStats_total TaskStats.cpuUsage rfl (fun _ _ => rfl) p
  have hstack := currentStats_total TaskStats.stackHighWaterMark rfl (fun _ _ => rfl) p
  have hheap := p.heapFree_currentStats
  rw [total_taskStatsMap] at htime hcpu hstack
  rw [lastHeap_eq] at hheap
  calc p.currentStats
      = ⟨p.currentStats.name, p.currentStats.executionTime, p.currentStats.cpuUsage,
          p.currentStats.stackHighWaterMark, p.currentStats.heapFree⟩ := rfl
    _ = rowTotals p.tableRows := by
        rw [name_currentStats, htime, hcpu, hstack, hheap]
        rfl

end TaskProfilerMonitor

/-- **Each difference is to the last snapshot.** After any calls, `print_single_task_diff` finds no snapshot exactly when
none was taken since the task's first start; else it prints the row of the task less its row at the last snapshot of the
task. `print_app_diff` prints the sums over the rows of the tasks, with the heap of the last row, less those at the last
snapshot of the application; before the first one it prints them as they are. -/
theorem diffs_of_history (cs : List MonitorCall) (task : TaskHandle) :
    let p := TaskProfilerMonitor.after cs
    (p.printSingleTaskDiff task = .error (ascii "No snapshot found for the specified task") ↔
        ∀ pre post, cs = pre ++ .saveSingleTaskSnapshot task :: post → task ∉ startedTasks (measures pre)) ∧
      (∀ pre post, cs = pre ++ .saveSingleTaskSnapshot task :: post → task ∈ startedTasks (measures pre) →
        .saveSingleTaskSnapshot task ∉ post →
        ∃ snapshot current, Row (measures pre) task snapshot ∧ Row (measures cs) task current ∧
          p.printSingleTaskDiff task = .ok (current.name, current.diff snapshot)) ∧
      (∀ pre post, cs = pre ++ .saveAppSnapshot :: post → .saveAppSnapshot ∉ post →
        p.printAppDiff = (rowTotals p.tableRows).diff (rowTotals (TaskProfilerMonitor.after pre).tableRows)) ∧
      (.saveAppSnapshot ∉ cs →
        p.printAppDiff =
          ⟨(p.tableRows.map TaskStats.executionTime).sum, (p.tableRows.map TaskStats.cpuUsage).sum,
            (p.tableRows.map TaskStats.stackHighWaterMark).sum,
            (p.tableRows.getLast?.map TaskStats.heapFree).getD 0⟩) := by
  intro p
  have hrow : ∀ {ds : List MonitorCall} {stats : TaskStats},
      (TaskProfilerMonitor.after ds).taskStatsMap[task]? = some stats → Row (measures ds) task stats := by
    intro ds stats hstats
    rw [(sameStats_after ds).map] at hstats
    exact row_of_history _ task stats hstats
  refine ⟨⟨?_, ?_⟩, ?_, ?_, ?_⟩
  · rintro herror pre post rfl hstarted
    obtain ⟨snapshot, hsnapshot⟩ := Option.isSome_iff_exists.mp ((snapshot_iff _ task).mpr ⟨pre, post, rfl, hstarted⟩)
    obtain ⟨current, hcurrent⟩ := known_after.mpr (startedTasks_append hstarted (.saveSingleTaskSnapshot task :: post))
    rw [TaskProfilerMonitor.printSingleTaskDiff_of_some hcurrent hsnapshot] at herror
    cases herror
  · intro hall
    have hsnapshot : p.taskSnapshotMap[task]? = none := by
      rw [← Option.not_isSome_iff_eq_none, snapshot_iff]
      rintro ⟨pre, post, heq, hstarted⟩
      exact hall pre post heq hstarted
    unfold TaskProfilerMonitor.printSingleTaskDiff
    rw [hsnapshot]
    cases p.taskStatsMap[task]? <;> rfl
  · rintro pre post rfl hstarted hpost
    obtain ⟨snapshot, hsnapshot⟩ := known_after.mpr hstarted
    obtain ⟨current, hcurrent⟩ := known_after.mpr (startedTasks_append hstarted (.saveSingleTaskSnapshot task :: post))
    refine ⟨snapshot, current, hrow hsnapshot, hrow hcurrent, ?_⟩
    apply TaskProfilerMonitor.printSingleTaskDiff_of_some hcurrent
    show (TaskProfilerMonitor.after (pre ++ .saveSingleTaskSnapshot task :: post)).taskSnapshotMap[task]? = _
    rw [List.append_cons, taskSnapshotMap_append post hpost, taskSnapshotMap_save hsnapshot]
  · rintro pre post rfl hpost
    have hsnapshot : p.appSnapshot = (TaskProfilerMonitor.after pre).currentStats := by
      show (TaskProfilerMonitor.after (pre ++ .saveAppSnapshot :: post)).appSnapshot = _
      rw [List.append_cons, appSnapshot_append post hpost, TaskProfilerMonitor.after_concat]
      rfl
    show p.currentStats.diff p.appSnapshot = _
    rw [hsnapshot, TaskProfilerMonitor.currentStats_eq, TaskProfilerMonitor.currentStats_eq]
  · intro hnone
    have hsnapshot : p.appSnapshot = .empty := by
      show (TaskProfilerMonitor.after ([] ++ cs)).appSnapshot = _
      exact appSnapshot_append cs hnone
    show p.currentStats.diff p.appSnapshot = _
    rw [hsnapshot, TaskProfilerMonitor.currentStats_eq]
    simp [TaskStats.diff, rowTotals, TaskStats.empty]

/-- Two tasks: the first one is stopped before and after the snapshots, the second one only after them. -/
theorem diffs_of_history_two_tasks :
    let before : List MonitorCall := [.measure (.startProfiling 1 (ascii "a") 0),
      .measure (.stopProfiling 1 ⟨4000, 7000, 500, 1000⟩), .measure (.startProfiling 2 (ascii "b") 5000)]
    let later : List MonitorCall := [.measure (.stopProfiling 2 ⟨9000, 3000, 200, 900⟩),
      .measure (.stopProfiling 1 ⟨11000, 9000, 600, 800⟩)]
    let cs := before ++ .saveSingleTaskSnapshot 1 :: .saveAppSnapshot :: later
    (∃ snapshot current, Row (measures before) 1 snapshot ∧ Row (measures cs) 1 current ∧
      current.diff snapshot = ⟨2, 2, 100, 4294967096⟩) ∧
      (TaskProfilerMonitor.after cs).printAppDiff = ⟨6, 5, 300, 900⟩ := by
  intro before later cs
  obtain ⟨-, htask, happ, -⟩ := diffs_of_history cs 1
  obtain ⟨snapshot, current, hsnapshot, hcurrent, hdiff⟩ :=
    htask before (.saveAppSnapshot :: later) rfl (by decide) (by decide)
  have hprinted : (TaskProfilerMonitor.after cs).printSingleTaskDiff 1 =
      .ok (ascii "a", ⟨2, 2, 100, 4294967096⟩) := by decide
  rw [hprinted, Except.ok.injEq, Prod.mk.injEq] at hdiff
  refine ⟨⟨snapshot, current, hsnapshot, hcurrent, hdiff.2.symm⟩, ?_⟩
  exact (happ (before ++ [.saveSingleTaskSnapshot 1]) later rfl (by decide)).trans (by decide)

end MultisensorStation.Profiler
