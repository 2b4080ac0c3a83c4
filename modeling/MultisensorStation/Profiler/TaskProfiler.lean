import MultisensorStation.Base.Bytes
import Mathlib.Data.List.DropRight
import Mathlib.Data.List.Induction

/-!
# `TaskProfilerMonitor`

* `TaskStats`, `TaskProfilerMonitor` : the members; `std::map` is a `Std.TreeMap` over the addresses of the tasks;
* `startProfiling`, `stopProfiling` : with the readings of the clock and of the system they make;
* `saveSingleTaskSnapshot`, `saveAppSnapshot` : the snapshots;
* `printSingleTaskDiff`, `printAppDiff` : the differences that are printed, `StatsDiff`;
* `ProfilerCall`, `run` : sequences of calls of `start_profiling` and `stop_profiling`.
-/

namespace MultisensorStation.Profiler
open MultisensorStation.Base

/-- The address of a task. -/
abbrev TaskHandle := Nat

/-- `std::chrono::duration_cast<std::chrono::microseconds>` of nanoseconds, which rounds towards zero. -/
def durationCast (nanoseconds : Int) : Int := nanoseconds.tdiv 1000

theorem durationCast_mono {a b : Int} (h : a ≤ b) : durationCast a ≤ durationCast b :=
  Int.tdiv_le_tdiv (by decide) h

structure TaskStats where
  name : Bytes
  /-- in microseconds -/
  executionTime : Int
  cpuUsage : UInt32
  stackHighWaterMark : UInt32
  heapFree : UInt32
  deriving DecidableEq

/-- `TaskStats{}` -/
def TaskStats.empty : TaskStats := ⟨[], 0, 0, 0, 0⟩

structure TaskProfilerMonitor where
  taskStatsMap : Std.TreeMap TaskHandle TaskStats
  taskSnapshotMap : Std.TreeMap TaskHandle TaskStats
  appSnapshot : TaskStats
  /-- in nanoseconds, as every reading of the clock -/
  startTime : Int

/-- What a call of `stop_profiling` reads. -/
structure Readings where
  now : Int
  /-- `ulRunTimeCounter` of the task -/
  runTimeCounter : UInt32
  stackHighWaterMark : UInt32
  freeHeap : UInt32
  deriving DecidableEq

namespace TaskProfilerMonitor

def init : TaskProfilerMonitor := ⟨∅, ∅, .empty, 0⟩

def startProfiling (task : TaskHandle) (name : Bytes) (now : Int) (p : TaskProfilerMonitor) : TaskProfilerMonitor :=
  { p with
    taskStatsMap :=
      if p.taskStatsMap[task]?.isNone then p.taskStatsMap.insert task { TaskStats.empty with name := name }
      else p.taskStatsMap
    startTime := now }

def calculateCpuUsage (r : Readings) : UInt32 := r.runTimeCounter / 1000

def stopProfiling (task : TaskHandle) (r : Readings) (p : TaskProfilerMonitor) : TaskProfilerMonitor :=
  let duration := durationCast (r.now - p.startTime)
  match p.taskStatsMap[task]? with
  | none => p
  | some stats =>
    { p with
      taskStatsMap := p.taskStatsMap.insert task
        { stats with
          executionTime := duration
          cpuUsage := calculateCpuUsage r
          stackHighWaterMark := r.stackHighWaterMark
          heapFree := r.freeHeap } }

def saveSingleTaskSnapshot (task : TaskHandle) (p : TaskProfilerMonitor) : TaskProfilerMonitor :=
  match p.taskStatsMap[task]? with
  | none => p
  | some stats => { p with taskSnapshotMap := p.taskSnapshotMap.insert task stats }

/-- One round of the loop over all tasks, in `save_app_snapshot` and in `print_app_diff`. -/
def addStats (total stats : TaskStats) : TaskStats :=
  { total with
    executionTime := total.executionTime + stats.executionTime
    cpuUsage := total.cpuUsage + stats.cpuUsage
    stackHighWaterMark := total.stackHighWaterMark + stats.stackHighWaterMark
    heapFree := stats.heapFree }

def saveAppSnapshot (p : TaskProfilerMonitor) : TaskProfilerMonitor :=
  { p with appSnapshot := p.taskStatsMap.foldl (fun total _ stats => addStats total stats) .empty }

end TaskProfilerMonitor

/-! ## The printed differences -/

/-- The numbers behind `%lld`, `%lu`, `%lu` and `%zu`: the first is signed, the others are not. -/
structure StatsDiff where
  executionTime : Int
  cpuUsage : UInt32
  stackHighWaterMark : UInt32
  heapFree : UInt32
  deriving DecidableEq

def TaskStats.diff (current snapshot : TaskStats) : StatsDiff :=
  { executionTime := current.executionTime - snapshot.executionTime
    cpuUsage := current.cpuUsage - snapshot.cpuUsage
    stackHighWaterMark := current.stackHighWaterMark - snapshot.stackHighWaterMark
    heapFree := current.heapFree - snapshot.heapFree }

namespace TaskProfilerMonitor

/-- The name of the task and the differences, or what is logged without a snapshot. -/
def printSingleTaskDiff (task : TaskHandle) (p : TaskProfilerMonitor) : Except Bytes (Bytes × StatsDiff) :=
  match p.taskStatsMap[task]?, p.taskSnapshotMap[task]? with
  | some current, some snapshot => .ok (current.name, current.diff snapshot)
  | _, _ => .error (ascii "No snapshot found for the specified task")

/-- `current` in `print_app_diff`, after its loop. -/
def currentStats (p : TaskProfilerMonitor) : TaskStats :=
  p.taskStatsMap.foldl (fun total _ stats => addStats total stats) .empty

def printAppDiff (p : TaskProfilerMonitor) : StatsDiff := p.currentStats.diff p.appSnapshot

end TaskProfilerMonitor

/-! ## Sequences of calls -/

inductive ProfilerCall where
  | startProfiling (task : TaskHandle) (name : Bytes) (now : Int)
  | stopProfiling (task : TaskHandle) (r : Readings)
  deriving DecidableEq

namespace ProfilerCall

/-- The reading of the clock that the call makes. -/
def now : ProfilerCall → Int
  | .startProfiling _ _ now => now
  | .stopProfiling _ r => r.now

/-- The reading, if the call starts a task. -/
def started : ProfilerCall → Option Int
  | .startProfiling _ _ now => some now
  | .stopProfiling _ _ => none

/-- The reading, if the call starts this task. -/
def startOf (task : TaskHandle) : ProfilerCall → Option Int
  | .startProfiling t _ now => if t = task then some now else none
  | .stopProfiling _ _ => none

theorem startOf_eq_some {task : TaskHandle} {c : ProfilerCall} {t : Int} :
    c.startOf task = some t ↔ ∃ name, c = .startProfiling task name t := by
  constructor
  · intro h
    cases c with
    | startProfiling u name now =>
      obtain ⟨rfl, hnow⟩ := Option.ite_none_right_eq_some.mp h
      exact ⟨name, by rw [Option.some.inj hnow]⟩
    | stopProfiling u r => cases h
  · rintro ⟨name, rfl⟩
    exact if_pos rfl

end ProfilerCall

namespace TaskProfilerMonitor

def call (p : TaskProfilerMonitor) : ProfilerCall → TaskProfilerMonitor
  | .startProfiling task name now => p.startProfiling task name now
  | .stopProfiling task r => p.stopProfiling task r

def run (calls : List ProfilerCall) : TaskProfilerMonitor := calls.foldl call init

theorem run_concat (calls : List ProfilerCall) (c : ProfilerCall) : run (calls ++ [c]) = (run calls).call c := by
  unfold run
  rw [List.foldl_append, List.foldl_cons, List.foldl_nil]

/-! ## What the calls do to the map -/

theorem taskStatsMap_startProfiling (p : TaskProfilerMonitor) (task : TaskHandle) (name : Bytes) (now : Int)
    (u : TaskHandle) :
    (p.startProfiling task name now).taskStatsMap[u]? =
      if task = u then some (p.taskStatsMap[task]?.getD { TaskStats.empty with name := name })
      else p.taskStatsMap[u]? := by
  unfold startProfiling
  dsimp only
  cases h : p.taskStatsMap[task]? with
  | none =>
    rw [if_pos Option.isNone_none, Std.TreeMap.getElem?_insert]
    simp only [compare_eq_iff_eq, Option.getD_none]
  | some stats =>
    rw [if_neg (by simp)]
    split_ifs with hu
    · rw [← hu, h, Option.getD_some]
    · rfl

theorem stopProfiling_of_known {p : TaskProfilerMonitor} {task : TaskHandle} {stats : TaskStats}
    (h : p.taskStatsMap[task]? = some stats) (r : Readings) (u : TaskHandle) :
    (p.stopProfiling task r).taskStatsMap[u]? =
      if task = u then some
        { stats with
          executionTime := durationCast (r.now - p.startTime)
          cpuUsage := calculateCpuUsage r
          stackHighWaterMark := r.stackHighWaterMark
          heapFree := r.freeHeap }
      else p.taskStatsMap[u]? := by
  unfold stopProfiling
  rw [h]
  dsimp only
  rw [Std.TreeMap.getElem?_insert]
  simp only [compare_eq_iff_eq]

theorem stopProfiling_of_unknown {p : TaskProfilerMonitor} {task : TaskHandle}
    (h : p.taskStatsMap[task]? = none) (r : Readings) : p.stopProfiling task r = p := by
  unfold stopProfiling
  rw [h]

theorem printSingleTaskDiff_of_some {p : TaskProfilerMonitor} {task : TaskHandle} {current snapshot : TaskStats}
    (hc : p.taskStatsMap[task]? = some current) (hs : p.taskSnapshotMap[task]? = some snapshot) :
    p.printSingleTaskDiff task = .ok (current.name, current.diff snapshot) := by
  unfold printSingleTaskDiff
  rw [hc, hs]

theorem startTime_stopProfiling (p : TaskProfilerMonitor) (task : TaskHandle) (r : Readings) :
    (p.stopProfiling task r).startTime = p.startTime := by
  unfold stopProfiling
  split <;> rfl

/-- A task that is known stays known. -/
theorem known_call {p : TaskProfilerMonitor} {task : TaskHandle} (h : (p.taskStatsMap[task]?).isSome)
    (c : ProfilerCall) : ((p.call c).taskStatsMap[task]?).isSome := by
  cases c with
  | startProfiling u name now =>
    rw [call, taskStatsMap_startProfiling]
    split_ifs
    · rfl
    · exact h
  | stopProfiling u r =>
    rw [call]
    cases hu : p.taskStatsMap[u]? with
    | none => rwa [stopProfiling_of_unknown hu]
    | some stats =>
      rw [stopProfiling_of_known hu]
      split_ifs
      · rfl
      · exact h

theorem known_foldl {p : TaskProfilerMonitor} {task : TaskHandle} (h : (p.taskStatsMap[task]?).isSome)
    (calls : List ProfilerCall) : (((calls.foldl call p).taskStatsMap[task]?).isSome) := by
  induction calls generalizing p with
  | nil => exact h
  | cons c calls ih => exact ih (known_call h c)

/-! ## What the calls leave alone -/

theorem taskStatsMap_saveSingleTaskSnapshot (p : TaskProfilerMonitor) (task : TaskHandle) :
    (p.saveSingleTaskSnapshot task).taskStatsMap = p.taskStatsMap := by
  unfold saveSingleTaskSnapshot
  split <;> rfl

theorem snapshots_call (p : TaskProfilerMonitor) (c : ProfilerCall) :
    (p.call c).taskSnapshotMap = p.taskSnapshotMap ∧ (p.call c).appSnapshot = p.appSnapshot := by
  cases c with
  | startProfiling task name now => exact ⟨rfl, rfl⟩
  | stopProfiling task r =>
    rw [call]
    unfold stopProfiling
    split <;> exact ⟨rfl, rfl⟩

theorem snapshots_foldl (p : TaskProfilerMonitor) (calls : List ProfilerCall) :
    (calls.foldl call p).taskSnapshotMap = p.taskSnapshotMap ∧ (calls.foldl call p).appSnapshot = p.appSnapshot := by
  induction calls generalizing p with
  | nil => exact ⟨rfl, rfl⟩
  | cons c calls ih => exact ⟨(ih _).1.trans (snapshots_call p c).1, (ih _).2.trans (snapshots_call p c).2⟩

theorem taskSnapshotMap_saveSingleTaskSnapshot {p : TaskProfilerMonitor} {task : TaskHandle} {stats : TaskStats}
    (h : p.taskStatsMap[task]? = some stats) (u : TaskHandle) :
    (p.saveSingleTaskSnapshot task).taskSnapshotMap[u]? =
      if task = u then some stats else p.taskSnapshotMap[u]? := by
  unfold saveSingleTaskSnapshot
  rw [h]
  dsimp only
  rw [Std.TreeMap.getElem?_insert]
  simp only [compare_eq_iff_eq]

end TaskProfilerMonitor

end MultisensorStation.Profiler
