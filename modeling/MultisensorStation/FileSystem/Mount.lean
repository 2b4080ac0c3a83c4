import Mathlib.Data.List.Count
import Mathlib.Data.List.Induction

/-!
# Mounting and unmounting the card

* `SDCardFilesystem` : the members `card` and `fs`, and the calls made of the driver; `mount`, `unmount`, `destruct`;
* `Balanced` : the driver unmounts only what is mounted, and every mounted card is released once;
* `unmountsWhileMounted` : each `unmount()`, that of the destructor included, comes while a card is mounted;
* `balanced_iff` : these calls are the balanced ones, since `fs` never says that there is no card.
-/

namespace MultisensorStation.FileSystem

def ESP_OK : Int := 0
def WL_INVALID_HANDLE : Int := -1

inductive DriverCall where
  /-- `esp_vfs_fat_sdmmc_mount` and what it returned -/
  | mount (ret : Int)
  /-- `esp_vfs_fat_sdmmc_unmount` -/
  | unmount
  deriving DecidableEq

def DriverCall.mounts : DriverCall → Bool
  | mount ret => ret = ESP_OK
  | unmount => false

/-- How many of the calls mounted a card. -/
def mounts (driver : List DriverCall) : Nat := driver.countP DriverCall.mounts

def unmounts (driver : List DriverCall) : Nat := driver.count .unmount

structure SDCardFilesystem where
  /-- `nullptr` or the card that the driver handed out -/
  card : Option Nat
  fs : Int
  driver : List DriverCall
  deriving DecidableEq

/-- A call, and what the driver answers to `mount`. -/
inductive CardCall where
  | mount (ret : Int) (card : Nat)
  | unmount
  deriving DecidableEq

def CardCall.driverCall : CardCall → DriverCall
  | mount ret _ => .mount ret
  | unmount => .unmount

namespace SDCardFilesystem

/-- The constructor. -/
def construct : SDCardFilesystem := ⟨none, WL_INVALID_HANDLE, []⟩

def mount (ret : Int) (card : Nat) (sd : SDCardFilesystem) : Bool × SDCardFilesystem :=
  let sd := { sd with driver := sd.driver ++ [.mount ret] }
  if ret ≠ ESP_OK then (false, sd) else (true, { sd with card := some card })

def unmount (sd : SDCardFilesystem) : SDCardFilesystem :=
  if sd.fs ≠ 0 then { card := none, fs := WL_INVALID_HANDLE, driver := sd.driver ++ [.unmount] } else sd

/-- The destructor. -/
def destruct (sd : SDCardFilesystem) : SDCardFilesystem := sd.unmount

def cardCall (sd : SDCardFilesystem) : CardCall → SDCardFilesystem
  | .mount ret card => (sd.mount ret card).2
  | .unmount => sd.unmount

def run (calls : List CardCall) : SDCardFilesystem := calls.foldl cardCall construct

end SDCardFilesystem

open SDCardFilesystem

/-- The object lives from its constructor over `calls` to its destructor. -/
structure Balanced (calls : List CardCall) : Prop where
  /-- the driver unmounts only what is mounted -/
  mounted : ∀ pre post, (run calls).destruct.driver = pre ++ .unmount :: post → unmounts pre < mounts pre
  /-- the next `unmount()` or the destructor releases a mounted card -/
  released : ∀ pre post, calls ++ [.unmount] = pre ++ .unmount :: post →
    unmounts (run pre).driver < mounts (run pre).driver → (run pre).unmount.driver = (run pre).driver ++ [.unmount]
  /-- and no card is released twice -/
  total : unmounts (run calls).destruct.driver = mounts (run calls).destruct.driver

/-- Each `mount()` is attempted only while no card is mounted, where `mounted` says whether one is at first. -/
def mountsWhileUnmounted : Bool → List CardCall → Bool
  | _, [] => true
  | mounted, .mount ret _ :: calls => !mounted && mountsWhileUnmounted (ret = ESP_OK) calls
  | _, .unmount :: calls => mountsWhileUnmounted false calls

/-- Each `unmount()` comes while a card is mounted. -/
def unmountsWhileMounted : Bool → List CardCall → Bool
  | _, [] => true
  | mounted, .mount ret _ :: calls => unmountsWhileMounted (mounted || ret = ESP_OK) calls
  | mounted, .unmount :: calls => mounted && unmountsWhileMounted false calls

/-! ## The calls of the driver -/

theorem fs_mount (ret : Int) (card : Nat) (sd : SDCardFilesystem) : (sd.mount ret card).2.fs = sd.fs := by
  unfold mount
  dsimp only
  split <;> rfl

theorem driver_mount (ret : Int) (card : Nat) (sd : SDCardFilesystem) :
    (sd.mount ret card).2.driver = sd.driver ++ [.mount ret] := by
  unfold mount
  dsimp only
  split <;> rfl

/-- `-1` counts as true, so the test in `unmount` is no test. -/
theorem unmount_of_invalid {sd : SDCardFilesystem} (h : sd.fs = WL_INVALID_HANDLE) :
    sd.unmount = { card := none, fs := WL_INVALID_HANDLE, driver := sd.driver ++ [.unmount] } := by
  unfold unmount
  rw [if_pos (by rw [h]; decide)]

/-- Nothing ever sets `fs` to another value. -/
theorem fs_cardCall {sd : SDCardFilesystem} (h : sd.fs = WL_INVALID_HANDLE) (c : CardCall) :
    (sd.cardCall c).fs = WL_INVALID_HANDLE := by
  cases c with
  | mount ret card => exact (fs_mount ret card sd).trans h
  | unmount => exact congrArg SDCardFilesystem.fs (unmount_of_invalid h)

theorem driver_cardCall {sd : SDCardFilesystem} (h : sd.fs = WL_INVALID_HANDLE) (c : CardCall) :
    (sd.cardCall c).driver = sd.driver ++ [c.driverCall] := by
  cases c with
  | mount ret card => exact driver_mount ret card sd
  | unmount => exact congrArg SDCardFilesystem.driver (unmount_of_invalid h)

theorem fs_run (calls : List CardCall) : (run calls).fs = WL_INVALID_HANDLE := by
  induction calls using List.reverseRecOn with
  | nil => rfl
  | append_singleton calls c ih =>
    unfold run at ih ⊢
    rw [List.foldl_append]
    exact fs_cardCall ih c

theorem driver_run (calls : List CardCall) : (run calls).driver = calls.map CardCall.driverCall := by
  induction calls using List.reverseRecOn with
  | nil => rfl
  | append_singleton calls c ih =>
    have hfs := fs_run calls
    unfold run at ih hfs ⊢
    rw [List.foldl_append, List.map_append, ← ih]
    exact driver_cardCall hfs c

/-- `unmount()` goes to the driver whether or not a card is mounted. -/
theorem driver_unmount (calls : List CardCall) :
    (run calls).unmount.driver = (calls ++ [CardCall.unmount]).map CardCall.driverCall := by
  rw [List.map_append, ← driver_run]
  exact driver_cardCall (fs_run calls) .unmount

/-! ## Counting -/

@[simp] theorem mounts_nil : mounts [] = 0 := rfl
@[simp] theorem unmounts_nil : unmounts [] = 0 := rfl

theorem mounts_mount (ret : Int) (driver : List DriverCall) :
    mounts (.mount ret :: driver) = mounts driver + if ret = ESP_OK then 1 else 0 := by
  unfold mounts
  rw [List.countP_cons]
  simp [DriverCall.mounts]

@[simp] theorem mounts_unmount (driver : List DriverCall) : mounts (.unmount :: driver) = mounts driver := by
  simp [mounts, DriverCall.mounts]

@[simp] theorem unmounts_mount (ret : Int) (driver : List DriverCall) :
    unmounts (.mount ret :: driver) = unmounts driver := by
  simp [unmounts]

@[simp] theorem unmounts_unmount (driver : List DriverCall) : unmounts (.unmount :: driver) = unmounts driver + 1 := by
  simp [unmounts]

/-- The driver unmounts only what is mounted, when a card is mounted at first or not. -/
def MountedFrom (mounted : Bool) (driver : List DriverCall) : Prop :=
  ∀ pre post, driver = pre ++ .unmount :: post → unmounts pre < mounts pre + mounted.toNat

theorem mountedFrom_nil (mounted : Bool) : MountedFrom mounted [] := by
  intro pre post h
  simp at h

theorem mountedFrom_mount {ret : Int} {driver : List DriverCall} :
    MountedFrom false (.mount ret :: driver) ↔ MountedFrom (ret = ESP_OK) driver := by
  constructor
  · intro h pre post heq
    have := h (.mount ret :: pre) post (by rw [heq]; rfl)
    rw [unmounts_mount, mounts_mount] at this
    by_cases hret : ret = ESP_OK <;> simp [hret] at this ⊢ <;> omega
  · intro h pre post heq
    cases pre with
    | nil => simp at heq
    | cons c pre =>
      obtain ⟨rfl, rfl⟩ := List.cons.inj heq
      have := h pre post rfl
      rw [unmounts_mount, mounts_mount]
      by_cases hret : ret = ESP_OK <;> simp [hret] at this ⊢ <;> omega

theorem mountedFrom_unmount {mounted : Bool} {driver : List DriverCall} :
    MountedFrom mounted (.unmount :: driver) ↔ mounted = true ∧ MountedFrom false driver := by
  constructor
  · intro h
    have hfirst := h [] driver rfl
    have hmounted : mounted = true := by
      cases mounted <;> simp at hfirst ⊢
    refine ⟨hmounted, ?_⟩
    intro pre post heq
    have := h (.unmount :: pre) post (by rw [heq]; rfl)
    simp [hmounted] at this ⊢
    omega
  · rintro ⟨rfl, h⟩ pre post heq
    cases pre with
    | nil => simp
    | cons c pre =>
      obtain ⟨rfl, rfl⟩ := List.cons.inj heq
      have := h pre post rfl
      simp at this ⊢
      omega

theorem mountedFrom_iff (calls : List CardCall) :
    ∀ mounted, mountsWhileUnmounted mounted calls = true →
      (MountedFrom mounted ((calls ++ [CardCall.unmount]).map CardCall.driverCall) ↔
        unmountsWhileMounted mounted (calls ++ [.unmount]) = true) := by
  induction calls with
  | nil =>
    intro mounted _
    show MountedFrom mounted [.unmount] ↔ (mounted && true) = true
    rw [mountedFrom_unmount]
    simp [mountedFrom_nil]
  | cons c calls ih =>
    intro mounted h
    cases c with
    | mount ret card =>
      obtain ⟨hfree, hrest⟩ := Bool.and_eq_true_iff.mp h
      obtain rfl : mounted = false := by simpa using hfree
      show MountedFrom false (.mount ret :: _) ↔ unmountsWhileMounted (false || ret = ESP_OK) _ = true
      rw [mountedFrom_mount, Bool.false_or]
      exact ih _ hrest
    | unmount =>
      show MountedFrom mounted (.unmount :: _) ↔ (mounted && unmountsWhileMounted false _) = true
      rw [mountedFrom_unmount, Bool.and_eq_true_iff]
      exact and_congr_right (fun _ => ih false h)

/-- Then all that was mounted is unmounted at the end. -/
theorem total_of_unmountsWhileMounted (calls : List CardCall) :
    ∀ mounted, mountsWhileUnmounted mounted calls = true →
      unmountsWhileMounted mounted (calls ++ [.unmount]) = true →
        unmounts ((calls ++ [CardCall.unmount]).map CardCall.driverCall) =
          mounts ((calls ++ [CardCall.unmount]).map CardCall.driverCall) + mounted.toNat := by
  induction calls with
  | nil =>
    intro mounted _ h
    obtain rfl : mounted = true := (Bool.and_eq_true_iff.mp h).1
    rfl
  | cons c calls ih =>
    intro mounted hm h
    cases c with
    | mount ret card =>
      obtain ⟨hfree, hrest⟩ := Bool.and_eq_true_iff.mp hm
      obtain rfl : mounted = false := by simpa using hfree
      have := ih _ hrest h
      simp only [List.cons_append, List.map_cons, CardCall.driverCall, unmounts_mount, mounts_mount, this]
      by_cases hret : ret = ESP_OK <;> simp [hret]
    | unmount =>
      obtain ⟨rfl, hrest⟩ := Bool.and_eq_true_iff.mp h
      have := ih false hm hrest
      simp only [List.cons_append, List.map_cons, CardCall.driverCall, unmounts_unmount, mounts_unmount, this]
      rfl

/-- **When mounts and unmounts balance.** As long as a mount is only attempted while no card is mounted, they do exactly
when every `unmount()` and the destructor come while a card is mounted. -/
theorem balanced_iff (calls : List CardCall) (h : mountsWhileUnmounted false calls = true) :
    Balanced calls ↔ unmountsWhileMounted false (calls ++ [.unmount]) = true := by
  rw [← mountedFrom_iff calls false h]
  constructor
  · intro hbal pre post heq
    exact hbal.mounted pre post ((driver_unmount calls).trans heq)
  · intro hmounted
    have hends := (mountedFrom_iff calls false h).mp hmounted
    constructor
    · intro pre post heq
      exact hmounted pre post ((driver_unmount calls).symm.trans heq)
    · intro pre _ _ _
      exact congrArg SDCardFilesystem.driver (unmount_of_invalid (fs_run pre))
    · show unmounts (run calls).unmount.driver = mounts (run calls).unmount.driver
      rw [driver_unmount]
      exact total_of_unmountsWhileMounted calls false h hends

/-- A failed mount, a card that is unmounted, and one that is left to the destructor. -/
theorem balanced_iff_three_mounts :
    Balanced [.mount (-1) 0, .mount 0 1, .unmount, .mount 0 2] :=
  (balanced_iff _ (by decide)).mpr (by decide)

/-- Mounting, using and unmounting the card: the destructor unmounts it once more. -/
theorem unmounted_twice :
    (run [.mount 0 1, .unmount]).destruct.driver = [.mount 0, .unmount, .unmount] ∧
      ¬ Balanced [.mount 0 1, .unmount] := by
  refine ⟨by decide, ?_⟩
  intro h
  exact absurd h.total (by decide)

end MultisensorStation.FileSystem
