import MultisensorStation.Profiler.SnapshotDiffs
import MultisensorStation.Profiler.HeapFigure

/-!
# When the printed differences are the true ones

The differences of the CPU, stack and heap figures are `uint32_t` (`size_t`) and are printed as unsigned numbers.

* `toNat_sub_emod`, `toNat_sub_eq_iff` : a wrapped difference as an integer;
* `totalOf` : the true total of a figure over all tasks, and `toNat_currentStats_sub` : what the wrapped totals differ by;
* `StatsDiff.Shows` : the printed numbers are these integers;
* `NotFallen`, `TotalNotFallen` : no figure has fallen since the snapshot;
* `differences_true_iff` : exactly then the printed differences are the true ones.
-/

namespace MultisensorStation.Profiler
open MultisensorStation.Base

/-! ## Numbers that wrap -/

theorem toNat_sub_emod (a b : UInt32) : ((a - b).toNat : Int) = ((a.toNat : Int) - b.toNat) % 2 ^ 32 := by
  have ha := a.toNat_lt
  have hb := b.toNat_lt
  rw [UInt32.toNat_sub]
  omega

/-- A difference is printed right when it is not negative. -/
theorem toNat_sub_eq_iff (a b : UInt32) : ((a - b).toNat : Int) = (a.toNat : Int) - b.toNat ↔ b ≤ a := by
  have ha := a.toNat_lt
  have hb := b.toNat_lt
  rw [toNat_sub_emod, UInt32.le_iff_toNat_le]
  omega

theorem toNat_sum (xs : List UInt32) :
    (xs.sum.toNat : Int) = (xs.map (fun x => (x.toNat : Int))).sum % 2 ^ 32 := by
  induction xs with
  | nil => rfl
  | cons x xs ih =>
    rw [List.sum_cons, List.map_cons, List.sum_cons, UInt32.toNat_add]
    omega

namespace TaskProfilerMonitor

/-- The true total of a figure. -/
def totalOf (f : TaskStats → UInt32) (p : TaskProfilerMonitor) : Int :=
  total (fun stats => ((f stats).toNat : Int)) p.taskStatsMap

theorem toNat_currentStats (f : TaskStats → UInt32) (hempty : f .empty = 0)
    (hadd : ∀ total stats, f (addStats total stats) = f total + f stats) (p : TaskProfilerMonitor) :
    ((f p.currentStats).toNat : Int) = p.totalOf f % 2 ^ 32 := by
  rw [currentStats_total f hempty hadd, total, toNat_sum, List.map_map]
  rfl

theorem toNat_currentStats_sub (f : TaskStats → UInt32) (hempty : f .empty = 0)
    (hadd : ∀ total stats, f (addStats total stats) = f total + f stats) (p q : TaskProfilerMonitor) :
    ((f q.currentStats - f p.currentStats).toNat : Int) = (q.totalOf f - p.totalOf f) % 2 ^ 32 := by
  rw [toNat_sub_emod, toNat_currentStats f hempty hadd, toNat_currentStats f hempty hadd]
  omega

end TaskProfilerMonitor

/-! ## The printed differences -/

/-- The printed numbers are these. -/
structure StatsDiff.Shows (d : StatsDiff) (cpu stack heap : Int) : Prop where
  cpuUsage : (d.cpuUsage.toNat : Int) = cpu
  stackHighWaterMark : (d.stackHighWaterMark.toNat : Int) = stack
  heapFree : (d.heapFree.toNat : Int) = heap

/-- No figure of the task has fallen. -/
structure TaskStats.NotFallen (snapshot current : TaskStats) : Prop where
  cpuUsage : snapshot.cpuUsage ≤ current.cpuUsage
  stackHighWaterMark : snapshot.stackHighWaterMark ≤ current.stackHighWaterMark
  heapFree : snapshot.heapFree ≤ current.heapFree

/-- No total has fallen, or risen by `2 ^ 32` and more, and the heap of the last entry has not fallen. -/
structure TotalNotFallen (p q : TaskProfilerMonitor) : Prop where
  cpuUsage : 0 ≤ q.totalOf TaskStats.cpuUsage - p.totalOf TaskStats.cpuUsage ∧
    q.totalOf TaskStats.cpuUsage - p.totalOf TaskStats.cpuUsage < 2 ^ 32
  stackHighWaterMark : 0 ≤ q.totalOf TaskStats.stackHighWaterMark - p.totalOf TaskStats.stackHighWaterMark ∧
    q.totalOf TaskStats.stackHighWaterMark - p.totalOf TaskStats.stackHighWaterMark < 2 ^ 32
  heapFree : p.lastHeap ≤ q.lastHeap

theorem TaskStats.shows_diff_iff (snapshot current : TaskStats) :
    (current.diff snapshot).Shows ((current.cpuUsage.toNat : Int) - snapshot.cpuUsage.toNat)
        ((current.stackHighWaterMark.toNat : Int) - snapshot.stackHighWaterMark.toNat)
        ((current.heapFree.toNat : Int) - snapshot.heapFree.toNat) ↔
      snapshot.NotFallen current := by
  constructor
  · rintro ⟨hcpu, hstack, hheap⟩
    exact ⟨(toNat_sub_eq_iff _ _).mp hcpu, (toNat_sub_eq_iff _ _).mp hstack, (toNat_sub_eq_iff _ _).mp hheap⟩
  · rintro ⟨hcpu, hstack, hheap⟩
    exact ⟨(toNat_sub_eq_iff _ _).mpr hcpu, (toNat_sub_eq_iff _ _).mpr hstack, (toNat_sub_eq_iff _ _).mpr hheap⟩

namespace TaskProfilerMonitor

theorem shows_currentStats_diff_iff (p q : TaskProfilerMonitor) :
    (q.currentStats.diff p.currentStats).Shows (q.totalOf TaskStats.cpuUsage - p.totalOf TaskStats.cpuUsage)
        (q.totalOf TaskStats.stackHighWaterMark - p.totalOf TaskStats.stackHighWaterMark)
        ((q.lastHeap.toNat : Int) - p.lastHeap.toNat) ↔
      TotalNotFallen p q := by
  have hcpu := toNat_currentStats_sub TaskStats.cpuUsage rfl (fun _ _ => rfl) p q
  have hstack := toNat_currentStats_sub TaskStats.stackHighWaterMark rfl (fun _ _ => rfl) p q
  have hheap := toNat_sub_eq_iff q.lastHeap p.lastHeap
  rw [← q.heapFree_currentStats, ← p.heapFree_currentStats] at hheap
  constructor
  · rintro ⟨hcpu', hstack', hheap'⟩
    rw [TaskStats.diff, hcpu] at hcpu'
    rw [TaskStats.diff, hstack] at hstack'
    rw [← q.heapFree_currentStats, ← p.heapFree_currentStats] at hheap'
    refine ⟨by omega, by omega, ?_⟩
    rw [← q.heapFree_currentStats, ← p.heapFree_currentStats]
    exact hheap.mp hheap'
  · rintro ⟨hcpu', hstack', hheap'⟩
    rw [← q.heapFree_currentStats, ← p.heapFree_currentStats] at hheap' ⊢
    refine ⟨?_, ?_, hheap.mpr hheap'⟩
    · rw [TaskStats.diff, hcpu]
      omega
    · rw [TaskStats.diff, hstack]
      omega

/-- **When the printed differences are the true ones.** After a snapshot in any state and any calls: those of a task
are exactly when none of its figures has fallen since, and those of the application exactly when no total has. -/
theorem differences_true_iff (p : TaskProfilerMonitor) (calls : List ProfilerCall) :
    (∀ task snapshot, p.taskStatsMap[task]? = some snapshot →
      let q := calls.foldl call (p.saveSingleTaskSnapshot task)
      ∃ current d, q.taskStatsMap[task]? = some current ∧ q.printSingleTaskDiff task = .ok (current.name, d) ∧
        (d.Shows ((current.cpuUsage.toNat : Int) - snapshot.cpuUsage.toNat)
            ((current.stackHighWaterMark.toNat : Int) - snapshot.stackHighWaterMark.toNat)
            ((current.heapFree.toNat : Int) - snapshot.heapFree.toNat) ↔
          snapshot.NotFallen current)) ∧
    let q := calls.foldl call p.saveAppSnapshot
    (q.printAppDiff.Shows (q.totalOf TaskStats.cpuUsage - p.totalOf TaskStats.cpuUsage)
        (q.totalOf TaskStats.stackHighWaterMark - p.totalOf TaskStats.stackHighWaterMark)
        ((q.lastHeap.toNat : Int) - p.lastHeap.toNat) ↔
      TotalNotFallen p q) := by
  constructor
  · intro task snapshot hsnapshot q
    have hmap := taskStatsMap_saveSingleTaskSnapshot p task
    have hknown : (q.taskStatsMap[task]?).isSome := known_foldl (by rw [hmap, hsnapshot]; rfl) calls
    obtain ⟨current, hcurrent⟩ := Option.isSome_iff_exists.mp hknown
    have hsaved : q.taskSnapshotMap[task]? = some snapshot := by
      rw [(snapshots_foldl _ calls).1, taskSnapshotMap_saveSingleTaskSnapshot hsnapshot, if_pos rfl]
    exact ⟨current, current.diff snapshot, hcurrent, printSingleTaskDiff_of_some hcurrent hsaved,
      snapshot.shows_diff_iff current⟩
  · intro q
    have happ : q.appSnapshot = p.currentStats := (snapshots_foldl p.saveAppSnapshot calls).2
    unfold printAppDiff
    rw [happ]
    exact shows_currentStats_diff_iff p q

/-- A stack mark that falls by 100 bytes between two stops. -/
theorem differences_wrap :
    let p := run [.startProfiling 1 (ascii "a") 0, .stopProfiling 1 ⟨4000, 7000, 500, 1000⟩]
    let calls : List ProfilerCall := [.startProfiling 1 (ascii "a") 5000, .stopProfiling 1 ⟨9000, 9000, 400, 1000⟩]
    let q := calls.foldl call (p.saveSnapshots [1]).saveAppSnapshot
    q.printSingleTaskDiff 1 = .ok (ascii "a", ⟨0, 2, 4294967196, 0⟩) ∧ q.printAppDiff = ⟨0, 2, 4294967196, 0⟩ ∧
      ((4294967196 : UInt32).toNat : Int) ≠ 400 - 500 ∧
      q.totalOf TaskStats.stackHighWaterMark - p.totalOf TaskStats.stackHighWaterMark = 400 - 500 := by
  decide

end TaskProfilerMonitor

end MultisensorStation.Profiler
