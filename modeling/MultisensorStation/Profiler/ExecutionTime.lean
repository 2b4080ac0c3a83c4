import MultisensorStation.Profiler.TaskProfiler

/-!
# Whose time a task is charged with

`start_profiling` keeps the time of the start in one member for all tasks, and `stop_profiling` measures from there.

* `lastStart`, `startsSince` : the latest start of a task, and the starts of other tasks that came after it;
* `Undisturbed` : these starts do not show in the time of the task, measured in whole microseconds;
* `execution_time_iff` : exactly then `stop_profiling` stores the time since the task's own latest start.
-/

namespace MultisensorStation.Profiler
open MultisensorStation.Base

/-- The reading of the clock at the latest `start_profiling` of the task. -/
def lastStart (task : TaskHandle) (calls : List ProfilerCall) : Option Int :=
  (calls.filterMap (ProfilerCall.startOf task)).getLast?

/-- The readings of the clock at the starts that came after the latest one of the task. -/
def startsSince (task : TaskHandle) (calls : List ProfilerCall) : List Int :=
  (calls.rtakeWhile (fun c => (c.startOf task).isNone)).filterMap ProfilerCall.started

/-- Up to a stop at `now`, no task that was started after the latest start of `task` was started a whole microsecond
later. -/
def Undisturbed (task : TaskHandle) (calls : List ProfilerCall) (now : Int) : Prop :=
  ∀ r ∈ lastStart task calls, ∀ t ∈ startsSince task calls, durationCast (now - t) = durationCast (now - r)

theorem lastStart_concat (task : TaskHandle) (calls : List ProfilerCall) (c : ProfilerCall) :
    lastStart task (calls ++ [c]) = (c.startOf task).or (lastStart task calls) := by
  unfold lastStart
  rw [List.filterMap_append]
  cases hc : c.startOf task with
  | none => simp [hc]
  | some t => simp [hc]

theorem startsSince_concat_of_start {task : TaskHandle} {c : ProfilerCall} {t : Int} (hc : c.startOf task = some t)
    (calls : List ProfilerCall) : startsSince task (calls ++ [c]) = [] := by
  unfold startsSince
  rw [List.rtakeWhile_concat, if_neg (by simp [hc])]
  rfl

theorem startsSince_concat_of_other {task : TaskHandle} {c : ProfilerCall} (hc : c.startOf task = none)
    (calls : List ProfilerCall) : startsSince task (calls ++ [c]) = startsSince task calls ++ c.started.toList := by
  unfold startsSince
  rw [List.rtakeWhile_concat, if_pos (by simp [hc]), List.filterMap_append]
  cases hs : c.started with
  | none => simp [hs]
  | some t => simp [hs]

/-- `start_time` is the time of the latest start of any task. -/
theorem startTime_run {task : TaskHandle} {calls : List ProfilerCall} {r : Int} (h : lastStart task calls = some r) :
    (TaskProfilerMonitor.run calls).startTime = (startsSince task calls).getLast?.getD r := by
  induction calls using List.reverseRecOn with
  | nil => cases h
  | append_singleton calls c ih =>
    rw [lastStart_concat] at h
    rw [TaskProfilerMonitor.run_concat]
    cases hc : c.startOf task with
    | some t =>
      rw [hc, Option.some_or, Option.some.injEq] at h
      obtain ⟨name, rfl⟩ := ProfilerCall.startOf_eq_some.mp hc
      rw [startsSince_concat_of_start hc]
      exact h
    | none =>
      rw [hc, Option.none_or] at h
      rw [startsSince_concat_of_other hc]
      cases c with
      | startProfiling u name now => simp [ProfilerCall.started, TaskProfilerMonitor.call,
          TaskProfilerMonitor.startProfiling]
      | stopProfiling u m =>
        rw [TaskProfilerMonitor.call, TaskProfilerMonitor.startTime_stopProfiling, ih h]
        exact congrArg (fun l => (List.getLast? l).getD r) (List.append_nil _).symm

theorem known_run {task : TaskHandle} {calls : List ProfilerCall} {r : Int} (h : lastStart task calls = some r) :
    ((TaskProfilerMonitor.run calls).taskStatsMap[task]?).isSome := by
  induction calls using List.reverseRecOn with
  | nil => cases h
  | append_singleton calls c ih =>
    rw [lastStart_concat] at h
    rw [TaskProfilerMonitor.run_concat]
    cases hc : c.startOf task with
    | some t =>
      obtain ⟨name, rfl⟩ := ProfilerCall.startOf_eq_some.mp hc
      rw [TaskProfilerMonitor.call, TaskProfilerMonitor.taskStatsMap_startProfiling, if_pos rfl]
      rfl
    | none =>
      rw [hc, Option.none_or] at h
      exact TaskProfilerMonitor.known_call (ih h) c

/-- These readings were made in this order. -/
theorem start_sublist {task : TaskHandle} {calls : List ProfilerCall} {r : Int} (h : lastStart task calls = some r) :
    List.Sublist (r :: startsSince task calls) (calls.map ProfilerCall.now) := by
  induction calls using List.reverseRecOn with
  | nil => cases h
  | append_singleton calls c ih =>
    rw [lastStart_concat] at h
    rw [List.map_append, List.map_singleton]
    cases hc : c.startOf task with
    | some t =>
      rw [hc, Option.some_or, Option.some.injEq] at h
      obtain ⟨name, rfl⟩ := ProfilerCall.startOf_eq_some.mp hc
      rw [startsSince_concat_of_start hc, ← h]
      exact List.sublist_append_right _ _
    | none =>
      rw [hc, Option.none_or] at h
      rw [startsSince_concat_of_other hc, ← List.cons_append]
      apply (ih h).append
      cases c with
      | startProfiling u name now => exact List.Sublist.refl _
      | stopProfiling u m => exact List.nil_sublist _

/-- The time since the latest start of any task is the one since the task's own, in whole microseconds, exactly when no
start in between shows. -/
theorem durationCast_eq_iff {task : TaskHandle} {calls : List ProfilerCall} {r now : Int}
    (hr : lastStart task calls = some r) (hclock : (calls.map ProfilerCall.now ++ [now]).Pairwise (· ≤ ·)) :
    durationCast (now - (startsSince task calls).getLast?.getD r) = durationCast (now - r) ↔
      Undisturbed task calls now := by
  unfold Undisturbed
  rw [hr]
  have hsorted := hclock.sublist ((start_sublist hr).append_right [now])
  rcases List.eq_nil_or_concat (startsSince task calls) with hnil | ⟨before, last, hlast⟩
  · rw [hnil]
    simp
  · rw [List.concat_eq_append] at hlast
    rw [hlast, List.cons_append, List.pairwise_cons] at hsorted
    obtain ⟨hfirst, hrest⟩ := hsorted
    rw [List.append_assoc, List.pairwise_append] at hrest
    rw [hlast, List.getLast?_concat, Option.getD_some]
    constructor
    · intro heq r' hr' t ht
      obtain rfl := Option.some.inj hr'
      -- every start in between lies between the task's own and the latest one
      have hfrom : r ≤ t := hfirst t (List.mem_append_left _ ht)
      have hto : t ≤ last := by
        rcases List.mem_append.mp ht with hb | hl
        · exact hrest.2.2 t hb last List.mem_cons_self
        · exact Int.le_of_eq (List.mem_singleton.mp hl)
      apply Int.le_antisymm
      · exact durationCast_mono (by omega)
      · rw [← heq]
        exact durationCast_mono (by omega)
    · intro hall
      exact hall r rfl last (List.mem_append_right _ List.mem_cons_self)

/-- **When a task is charged with its own time.** For every sequence of calls on a clock that does not go back: a
`stop_profiling` of a task that was started leaves the statistics of the other tasks alone, and stores the time since
the latest start of this task exactly when no other task was started in between. -/
theorem execution_time_iff (task : TaskHandle) (calls : List ProfilerCall) (m : Readings) (r : Int)
    (hr : lastStart task calls = some r) (hclock : (calls.map ProfilerCall.now ++ [m.now]).Pairwise (· ≤ ·)) :
    let p := TaskProfilerMonitor.run calls
    let p' := p.stopProfiling task m
    ((p'.taskStatsMap[task]?).map TaskStats.executionTime = some (durationCast (m.now - r)) ∧
        ∀ u, u ≠ task → p'.taskStatsMap[u]? = p.taskStatsMap[u]?) ↔
      Undisturbed task calls m.now := by
  intro p p'
  obtain ⟨stats, hstats⟩ := Option.isSome_iff_exists.mp (known_run hr)
  have hmap := TaskProfilerMonitor.stopProfiling_of_known hstats m
  have hothers : ∀ u, u ≠ task → p'.taskStatsMap[u]? = p.taskStatsMap[u]? := by
    intro u hu
    rw [hmap u, if_neg (Ne.symm hu)]
  rw [← durationCast_eq_iff hr hclock, hmap task, if_pos rfl, startTime_run hr, Option.map_some, Option.some.injEq]
  exact ⟨fun h => h.1, fun h => ⟨h, hothers⟩⟩

/-- Two tasks one after the other, and the first one once more. -/
theorem execution_time_iff_in_turn :
    let calls : List ProfilerCall := [.startProfiling 1 (ascii "a") 0, .stopProfiling 1 ⟨4000, 0, 0, 0⟩,
      .startProfiling 2 (ascii "b") 5000, .stopProfiling 2 ⟨7000, 0, 0, 0⟩, .startProfiling 1 (ascii "a") 9000]
    ((TaskProfilerMonitor.run calls).stopProfiling 1 ⟨12500, 0, 0, 0⟩).taskStatsMap[1]?.map TaskStats.executionTime =
      some 3 := by
  intro calls
  have h := execution_time_iff 1 calls ⟨12500, 0, 0, 0⟩ 9000 (by decide) (by decide)
  exact (h.mpr (by unfold Undisturbed; decide)).1

/-- Two tasks that overlap: the first one is charged with the time since the start of the second. -/
theorem execution_time_overlapping :
    let calls : List ProfilerCall := [.startProfiling 1 (ascii "a") 0, .startProfiling 2 (ascii "b") 5000]
    let p' := (TaskProfilerMonitor.run calls).stopProfiling 1 ⟨9000, 0, 0, 0⟩
    lastStart 1 calls = some 0 ∧ (calls.map ProfilerCall.now ++ [9000]).Pairwise (· ≤ ·) ∧
      p'.taskStatsMap[1]?.map TaskStats.executionTime = some 4 ∧ durationCast (9000 - 0) = 9 := by
  decide

end MultisensorStation.Profiler
