/-!
# Code under a mutex

A mutex that is not recursive, and the state it protects.

* `Guarded` : the holder of the mutex and the state; `Outcome` : how a call ends;
* `modify` : code that works on the state and takes no mutex; `lockGuard` : code that holds the mutex up to its end;
* `lockGuard_modify`, `lockGuard_nested` : taken once, and taken again inside.
-/

namespace MultisensorStation.Base

universe u

/-- Threads by number. -/
abbrev Thread := Nat

inductive Outcome where
  | returned
  /-- waits for a mutex that its own thread holds -/
  | selfLocked
  /-- waits for a mutex that another thread holds -/
  | blocked
  deriving DecidableEq

structure Guarded (σ : Type u) where
  /-- the thread that holds the mutex -/
  mtx : Option Thread
  data : σ

namespace Guarded

variable {σ : Type u}

def modify (f : σ → σ) (g : Guarded σ) : Outcome × Guarded σ := (.returned, { g with data := f g.data })

/-- `std::lock_guard<std::mutex> lock(mtx)` in front of `body`. -/
def lockGuard (thread : Thread) (body : Guarded σ → Outcome × Guarded σ) (g : Guarded σ) : Outcome × Guarded σ :=
  match g.mtx with
  | none =>
    match body { g with mtx := some thread } with
    | (.returned, g) => (.returned, { g with mtx := none })
    | stuck => stuck
  | some holder => (if holder = thread then .selfLocked else .blocked, g)

variable {g : Guarded σ} {thread : Thread} {f : σ → σ} {body : Guarded σ → Outcome × Guarded σ}

theorem lockGuard_of_free (h : g.mtx = none) (hbody : body { g with mtx := some thread } =
    modify f { g with mtx := some thread }) : lockGuard thread body g = (.returned, { g with data := f g.data }) := by
  unfold lockGuard
  rw [h]
  dsimp only
  rw [hbody, ← h]
  rfl

theorem lockGuard_modify (h : g.mtx = none) (thread : Thread) (f : σ → σ) :
    lockGuard thread (modify f) g = (.returned, { g with data := f g.data }) :=
  lockGuard_of_free h rfl

/-- A thread that takes the mutex again while it holds it never gets it. -/
theorem lockGuard_nested (h : g.mtx = none) {inner : Guarded σ → Outcome × Guarded σ}
    (hbody : body { g with mtx := some thread } = lockGuard thread inner { g with mtx := some thread }) :
    (lockGuard thread body g).1 = .selfLocked := by
  have hinner : lockGuard thread inner { g with mtx := some thread } =
      (.selfLocked, { g with mtx := some thread }) := by
    unfold lockGuard
    dsimp only
    rw [if_pos rfl]
  unfold lockGuard
  rw [h]
  dsimp only
  rw [hbody, hinner]

end Guarded

end MultisensorStation.Base
