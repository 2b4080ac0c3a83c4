import MultisensorStation.Profiler.TaskProfiler
import MultisensorStation.Base.MapTotal

/-!
# The heap figure of the application

The loops over all tasks keep the `heap_free` of the last entry, and a `std::map` is ordered by the task handles.

* `startedTasks`, `heapReadings` : the tasks that were started, and what their stops have read, oldest first;
* `latestOf` : the last reading of one task;
* `heapFree_currentStats` : the loops give the figure of the largest handle;
* `heap_is_latest_iff` : this is the latest reading exactly when that task's own last reading is the same.
-/

namespace MultisensorStation.Profiler
open MultisensorStation.Base

/-- The task, if the call starts one. -/
def ProfilerCall.starts : ProfilerCall → Option TaskHandle
  | .startProfiling task _ _ => some task
  | .stopProfiling _ _ => none

def startedTasks (calls : List ProfilerCall) : List TaskHandle := calls.filterMap ProfilerCall.starts

/-- The task and the free heap that the call reads, if it stops a task that was started. -/
def ProfilerCall.heapReading (started : List TaskHandle) : ProfilerCall → Option (TaskHandle × UInt32)
  | .startProfiling _ _ _ => none
  | .stopProfiling task r => if task ∈ started then some (task, r.freeHeap) else none

/-- The readings of `calls`, when the tasks `started` were started before. -/
def heapReadingsFrom (started : List TaskHandle) : List ProfilerCall → List (TaskHandle × UInt32)
  | [] => []
  | c :: calls => (c.heapReading started).toList ++ heapReadingsFrom (started ++ c.starts.toList) calls

def heapReadings (calls : List ProfilerCall) : List (TaskHandle × UInt32) := heapReadingsFrom [] calls

/-- The last reading of the task, 0 when it was never stopped. -/
def latestOf (task : TaskHandle) (readings : List (TaskHandle × UInt32)) : UInt32 :=
  ((readings.filter (fun e => e.1 = task)).getLast?.map Prod.snd).getD 0

theorem startedTasks_concat (calls : List ProfilerCall) (c : ProfilerCall) :
    startedTasks (calls ++ [c]) = startedTasks calls ++ c.starts.toList := by
  unfold startedTasks
  rw [List.filterMap_append]
  cases hc : c.starts with
  | none => simp [hc]
  | some task => simp [hc]

theorem heapReadingsFrom_concat (calls : List ProfilerCall) (c : ProfilerCall) :
    ∀ started, heapReadingsFrom started (calls ++ [c]) =
      heapReadingsFrom started calls ++ (c.heapReading (started ++ startedTasks calls)).toList := by
  induction calls with
  | nil =>
    intro started
    simp [heapReadingsFrom, startedTasks]
  | cons d calls ih =>
    intro started
    have hstarted : startedTasks (d :: calls) = d.starts.toList ++ startedTasks calls := by
      unfold startedTasks
      cases hd : d.starts with
      | none => simp [hd]
      | some task => simp [hd]
    rw [List.cons_append, heapReadingsFrom, heapReadingsFrom, ih, hstarted]
    simp only [List.append_assoc]

theorem heapReadings_concat (calls : List ProfilerCall) (c : ProfilerCall) :
    heapReadings (calls ++ [c]) = heapReadings calls ++ (c.heapReading (startedTasks calls)).toList := by
  unfold heapReadings
  rw [heapReadingsFrom_concat, List.nil_append]

theorem latestOf_concat (task : TaskHandle) (readings : List (TaskHandle × UInt32)) (e : TaskHandle × UInt32) :
    latestOf task (readings ++ [e]) = if e.1 = task then e.2 else latestOf task readings := by
  unfold latestOf
  rw [List.filter_append]
  by_cases h : e.1 = task
  · simp [h]
  · simp [h]

/-! ## What the map knows -/

/-- The tasks of the map are those that were started, and each has its last reading. -/
structure Measured (calls : List ProfilerCall) (p : TaskProfilerMonitor) : Prop where
  known : ∀ task, task ∈ p.taskStatsMap ↔ task ∈ startedTasks calls
  heap : ∀ task stats, p.taskStatsMap[task]? = some stats → stats.heapFree = latestOf task (heapReadings calls)

theorem latestOf_of_not_started {task : TaskHandle} {calls : List ProfilerCall} (h : task ∉ startedTasks calls) :
    latestOf task (heapReadings calls) = 0 := by
  induction calls using List.reverseRecOn with
  | nil => rfl
  | append_singleton calls c ih =>
    rw [startedTasks_concat, List.mem_append, not_or] at h
    rw [heapReadings_concat]
    cases hc : c.heapReading (startedTasks calls) with
    | none => rw [Option.toList_none, List.append_nil, ih h.1]
    | some e =>
      rw [Option.toList_some, latestOf_concat, if_neg, ih h.1]
      rintro rfl
      cases c with
      | startProfiling u name now => cases hc
      | stopProfiling u r =>
        obtain ⟨hu, he⟩ := Option.ite_none_right_eq_some.mp hc
        rw [← Option.some.inj he] at h
        exact h.1 hu

namespace Measured

variable {calls : List ProfilerCall} {p : TaskProfilerMonitor}

theorem isSome_iff (h : Measured calls p) (task : TaskHandle) :
    p.taskStatsMap[task]?.isSome = true ↔ task ∈ startedTasks calls := by
  rw [← h.known, Std.TreeMap.mem_iff_isSome_getElem?]

/-- A task that the map has not got was not started. -/
theorem not_mem_startedTasks (h : Measured calls p) {task : TaskHandle} (hnone : p.taskStatsMap[task]? = none) :
    task ∉ startedTasks calls := by
  rw [← h.isSome_iff, hnone]
  exact Bool.false_ne_true

theorem startProfiling (h : Measured calls p) (u : TaskHandle) (name : Bytes) (now : Int) :
    Measured (calls ++ [.startProfiling u name now]) (p.startProfiling u name now) := by
  have hreadings : heapReadings (calls ++ [.startProfiling u name now]) = heapReadings calls := by
    rw [heapReadings_concat]
    exact List.append_nil _
  refine ⟨fun task => ?_, fun task stats hstats => ?_⟩
  · rw [startedTasks_concat, List.mem_append, ← h.isSome_iff, Std.TreeMap.mem_iff_isSome_getElem?,
      TaskProfilerMonitor.taskStatsMap_startProfiling]
    by_cases hu : u = task
    · simp [hu, ProfilerCall.starts]
    · simp [hu, ProfilerCall.starts, Ne.symm hu]
  · rw [hreadings]
    rw [TaskProfilerMonitor.taskStatsMap_startProfiling] at hstats
    split_ifs at hstats with hu
    · subst hu
      cases hold : p.taskStatsMap[u]? with
      | some old =>
        rw [hold, Option.getD_some, Option.some.injEq] at hstats
        exact hstats ▸ h.heap u old hold
      | none =>
        -- a new entry, and the task has no readings yet
        rw [hold, Option.getD_none, Option.some.injEq] at hstats
        rw [latestOf_of_not_started (h.not_mem_startedTasks hold), ← hstats]
        rfl
    · exact h.heap task stats hstats

theorem stopProfiling (h : Measured calls p) (u : TaskHandle) (r : Readings) :
    Measured (calls ++ [.stopProfiling u r]) (p.stopProfiling u r) := by
  have hstarted : startedTasks (calls ++ [.stopProfiling u r]) = startedTasks calls := by
    rw [startedTasks_concat]
    exact List.append_nil _
  cases hu : p.taskStatsMap[u]? with
  | none =>
    rw [TaskProfilerMonitor.stopProfiling_of_unknown hu]
    refine ⟨fun task => by rw [hstarted, h.known], fun task stats hstats => ?_⟩
    rw [heapReadings_concat, ProfilerCall.heapReading, if_neg (h.not_mem_startedTasks hu), Option.toList_none,
      List.append_nil]
    exact h.heap task stats hstats
  | some old =>
    have hknown : u ∈ startedTasks calls := (h.isSome_iff u).mp (by rw [hu]; rfl)
    have hmap := TaskProfilerMonitor.stopProfiling_of_known hu r
    refine ⟨fun task => ?_, fun task stats hstats => ?_⟩
    · rw [hstarted, ← h.isSome_iff, Std.TreeMap.mem_iff_isSome_getElem?, hmap task]
      by_cases hut : u = task
      · rw [if_pos hut, ← hut, hu]
        rfl
      · rw [if_neg hut]
    · rw [heapReadings_concat, ProfilerCall.heapReading, if_pos hknown, Option.toList_some, latestOf_concat]
      rw [hmap task] at hstats
      by_cases hut : u = task
      · rw [if_pos hut, Option.some.injEq] at hstats
        rw [if_pos hut, ← hstats]
      · rw [if_neg hut] at hstats ⊢
        exact h.heap task stats hstats

theorem call (h : Measured calls p) (c : ProfilerCall) : Measured (calls ++ [c]) (p.call c) := by
  cases c with
  | startProfiling u name now => exact h.startProfiling u name now
  | stopProfiling u r => exact h.stopProfiling u r

end Measured

theorem measured_run (calls : List ProfilerCall) : Measured calls (TaskProfilerMonitor.run calls) := by
  induction calls using List.reverseRecOn with
  | nil =>
    refine ⟨fun task => ?_, fun task stats hstats => ?_⟩
    · simp [TaskProfilerMonitor.run, TaskProfilerMonitor.init, startedTasks]
    · simp [TaskProfilerMonitor.run, TaskProfilerMonitor.init] at hstats
  | append_singleton calls c ih => exact TaskProfilerMonitor.run_concat calls c ▸ ih.call c

/-! ## What the loops keep -/

/-- The heap of the entry with the largest handle. -/
def TaskProfilerMonitor.lastHeap (p : TaskProfilerMonitor) : UInt32 :=
  (p.taskStatsMap.toList.getLast?.map (fun e => e.2.heapFree)).getD 0

theorem TaskProfilerMonitor.heapFree_currentStats (p : TaskProfilerMonitor) : p.currentStats.heapFree = p.lastHeap := by
  have hstep : ∀ total stats, (addStats total stats).heapFree = TaskStats.heapFree stats := fun _ _ => rfl
  exact foldl_keeps_last hstep p.taskStatsMap .empty

/-- The largest handle has the last entry. -/
theorem Measured.lastHeap_eq {calls : List ProfilerCall} {p : TaskProfilerMonitor} (h : Measured calls p)
    {task : TaskHandle} (htask : task ∈ startedTasks calls) (hmax : ∀ u ∈ startedTasks calls, u ≤ task) :
    p.lastHeap = latestOf task (heapReadings calls) := by
  obtain ⟨stats, hstats⟩ := Option.isSome_iff_exists.mp ((h.isSome_iff task).mpr htask)
  have hlast := getLast?_toList hstats (fun u hu => by
    rw [Nat.isLE_compare]
    exact hmax u ((h.known u).mp hu))
  unfold TaskProfilerMonitor.lastHeap
  rw [hlast, Option.map_some, Option.getD_some]
  exact h.heap task stats hstats

/-- What was read belongs to tasks that were started. -/
theorem mem_startedTasks_of_reading {calls : List ProfilerCall} {e : TaskHandle × UInt32}
    (h : e ∈ heapReadings calls) : e.1 ∈ startedTasks calls := by
  induction calls using List.reverseRecOn with
  | nil => cases h
  | append_singleton calls c ih =>
    rw [startedTasks_concat, List.mem_append]
    rw [heapReadings_concat, List.mem_append] at h
    left
    rcases h with h | h
    · exact ih h
    · rw [Option.mem_toList] at h
      cases c with
      | startProfiling u name now => cases h
      | stopProfiling u r =>
        obtain ⟨hu, he⟩ := Option.ite_none_right_eq_some.mp h
        rwa [← Option.some.inj he]

/-- **When the heap figure of the application is the latest one.** Both loops give the heap that the latest
`stop_profiling` of a started task has read, exactly when the task with the largest handle has read the same the last
time it was stopped. -/
theorem heap_is_latest_iff (calls : List ProfilerCall) (task : TaskHandle) (heap : UInt32)
    (hlatest : (heapReadings calls).getLast? = some (task, heap)) :
    let p := TaskProfilerMonitor.run calls
    (p.saveAppSnapshot.appSnapshot.heapFree = heap ∧ p.currentStats.heapFree = heap) ↔
      ∀ u ∈ startedTasks calls, (∀ v ∈ startedTasks calls, v ≤ u) → latestOf u (heapReadings calls) = heap := by
  intro p
  have hp : Measured calls p := measured_run calls
  have hmem := mem_startedTasks_of_reading (List.mem_of_getLast? hlatest)
  have hsnapshot : p.saveAppSnapshot.appSnapshot.heapFree = p.lastHeap := p.heapFree_currentStats
  rw [hsnapshot, p.heapFree_currentStats, and_self]
  constructor
  · intro h u hu hmax
    rw [← hp.lastHeap_eq hu hmax, h]
  · intro h
    have hne := List.ne_nil_of_mem hmem
    have hmax : ∀ v ∈ startedTasks calls, v ≤ (startedTasks calls).max hne := fun v hv => List.le_max_of_mem hv
    rw [hp.lastHeap_eq (List.max_mem hne) hmax]
    exact h _ (List.max_mem hne) hmax

/-- The task with the larger handle is stopped last. -/
theorem heap_is_latest_iff_in_order :
    let calls : List ProfilerCall := [.startProfiling 2 (ascii "b") 0, .startProfiling 1 (ascii "a") 0,
      .stopProfiling 1 ⟨4000, 0, 0, 1000⟩, .stopProfiling 2 ⟨7000, 0, 0, 900⟩]
    (TaskProfilerMonitor.run calls).saveAppSnapshot.appSnapshot.heapFree = 900 := by
  intro calls
  exact ((heap_is_latest_iff calls 2 900 (by decide)).mpr (by decide)).1

/-- The task with the smaller handle is stopped last: its reading does not show. -/
theorem heap_not_latest :
    let calls : List ProfilerCall := [.startProfiling 1 (ascii "a") 0, .startProfiling 2 (ascii "b") 0,
      .stopProfiling 2 ⟨4000, 0, 0, 1000⟩, .stopProfiling 1 ⟨7000, 0, 0, 900⟩]
    (heapReadings calls).getLast? = some (1, 900) ∧
      (TaskProfilerMonitor.run calls).saveAppSnapshot.appSnapshot.heapFree = 1000 ∧
      (TaskProfilerMonitor.run calls).currentStats.heapFree = 1000 := by
  decide

end MultisensorStation.Profiler
