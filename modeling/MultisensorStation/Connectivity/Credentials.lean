import Mathlib.Data.Vector.Basic
import MultisensorStation.Base.Bytes

/-!
# Credentials

`init` and `updateCredentials` each copy an ssid and a password into the fixed-size fields of a `wifi_config_t`.

* `strncpy` : the copy; what it leaves in a field of zeroes (`toList_strncpy`), and what a reader of the field gets back
  (`fieldString_strncpy`);
* `initConfig`, `updateConfig` : the two configurations, of which the other fields are zero;
* `credentials_kept_iff` : they agree and keep both strings as long as the password is no longer than the ssid field.
-/

namespace MultisensorStation.Connectivity
open MultisensorStation.Base

/-- `sizeof(wifi_config.sta.ssid)` -/
abbrev SSID_SIZE : Nat := 32

/-- `sizeof(wifi_config.sta.password)` -/
abbrev PASSWORD_SIZE : Nat := 64

structure StaConfig where
  ssid : Vector UInt8 SSID_SIZE
  password : Vector UInt8 PASSWORD_SIZE
  deriving DecidableEq

/-- `wifi_config_t wifi_config = {};` -/
def StaConfig.zero : StaConfig := ⟨Vector.replicate _ 0, Vector.replicate _ 0⟩

/-- `strncpy(dest, src.c_str(), n)` writes `n` bytes: those of `src`, and zeroes behind its end. -/
def strncpy {size : Nat} (dest : Vector UInt8 size) (src : Bytes) (n : Nat) : Vector UInt8 size :=
  Vector.ofFn fun i => if i.val < n then (cString src)[i.val]?.getD 0 else dest[i]

/-- `init`, with `CONFIG_WIFI_SSID` and `CONFIG_WIFI_PASSWORD`. -/
def initConfig (ssid password : Bytes) : StaConfig :=
  let wifi_config := StaConfig.zero
  let wifi_config := { wifi_config with ssid := strncpy wifi_config.ssid ssid SSID_SIZE }
  -- the size of the other field
  { wifi_config with password := strncpy wifi_config.password password SSID_SIZE }

/-- `updateCredentials` -/
def updateConfig (ssid password : Bytes) : StaConfig :=
  let wifi_config := StaConfig.zero
  let wifi_config := { wifi_config with ssid := strncpy wifi_config.ssid ssid SSID_SIZE }
  { wifi_config with password := strncpy wifi_config.password password PASSWORD_SIZE }

/-- A field read up to its first NUL or its end. -/
def fieldString {size : Nat} (field : Vector UInt8 size) : Bytes := cString field.toList

section Copy
variable {size n : Nat} {src : Bytes}

theorem cString_append_replicate (h : 0 ∉ src) (k : Nat) : cString (src ++ List.replicate k 0) = src := by
  unfold cString
  rw [List.takeWhile_append_of_pos]
  · cases k <;> simp [List.replicate_succ]
  · intro c hc
    have hne : c ≠ 0 := fun h0 => h (h0 ▸ hc)
    simpa using hne

/-- Copied into zeroes, the string is followed by zeroes only. -/
theorem toList_strncpy (h : 0 ∉ src) (hn : n ≤ size) :
    (strncpy (Vector.replicate size 0) src n).toList = src.take n ++ List.replicate (size - min n src.length) 0 := by
  unfold strncpy
  rw [cString_of_not_mem h]
  apply List.ext_getElem
  · simp
    omega
  · intro i hi hi'
    simp only [Fin.getElem_fin, Vector.getElem_replicate, Vector.getElem_toList, Vector.getElem_ofFn,
      List.getElem_append, List.length_take, List.getElem_take, List.getElem_replicate]
    by_cases hin : i < n
    · by_cases hsrc : i < src.length
      · simp [hin, hsrc]
      · simp [hin, hsrc]
    · simp [hin]

/-- A reader gets what was copied. -/
theorem fieldString_strncpy (h : 0 ∉ src) (hn : n ≤ size) :
    fieldString (strncpy (Vector.replicate size 0) src n) = src.take n := by
  unfold fieldString
  rw [toList_strncpy h hn]
  exact cString_append_replicate (fun hmem => h (List.mem_of_mem_take hmem)) _

/-- A string that fits is copied alike with any limit. -/
theorem strncpy_eq_of_fits {m : Nat} (h : 0 ∉ src) (hn : n ≤ size) (hm : m ≤ size) (hsn : src.length ≤ n)
    (hsm : src.length ≤ m) : strncpy (Vector.replicate size 0) src n = strncpy (Vector.replicate size 0) src m := by
  apply Vector.toList_inj.mp
  rw [toList_strncpy h hn, toList_strncpy h hm, List.take_of_length_le hsn, List.take_of_length_le hsm,
    Nat.min_eq_right hsn, Nat.min_eq_right hsm]

end Copy

/-- Reading its two fields gives back the strings. -/
structure StaConfig.Keeps (c : StaConfig) (ssid password : Bytes) : Prop where
  ssid : fieldString c.ssid = ssid
  password : fieldString c.password = password

theorem keeps_updateConfig {ssid password : Bytes} (hssid : 0 ∉ ssid) (hpassword : 0 ∉ password)
    (hs : ssid.length ≤ SSID_SIZE) (hp : password.length ≤ PASSWORD_SIZE) :
    (updateConfig ssid password).Keeps ssid password := by
  constructor
  · exact (fieldString_strncpy hssid (Nat.le_refl _)).trans (List.take_of_length_le hs)
  · exact (fieldString_strncpy hpassword (Nat.le_refl _)).trans (List.take_of_length_le hp)

/-- `init` keeps the first 32 bytes of the password. -/
theorem fieldString_initConfig_password {ssid password : Bytes} (hpassword : 0 ∉ password) :
    fieldString (initConfig ssid password).password = password.take SSID_SIZE :=
  fieldString_strncpy hpassword (by decide)

/-- **When the two credential paths agree.** For strings without NUL that fit into the fields of the driver, `init`
builds the configuration of `updateCredentials` and the fields give both strings back exactly when the password fits into
the field of the ssid. -/
theorem credentials_kept_iff (ssid password : Bytes) (hssid : 0 ∉ ssid) (hpassword : 0 ∉ password)
    (hs : ssid.length ≤ SSID_SIZE) (hp : password.length ≤ PASSWORD_SIZE) :
    (initConfig ssid password = updateConfig ssid password ∧ (initConfig ssid password).Keeps ssid password ∧
        (updateConfig ssid password).Keeps ssid password) ↔ password.length ≤ SSID_SIZE := by
  constructor
  · rintro ⟨-, hkeeps, -⟩
    have htake := hkeeps.password
    rw [fieldString_initConfig_password hpassword] at htake
    exact (List.take_eq_self_iff _).mp htake
  · intro hfits
    have hsame : initConfig ssid password = updateConfig ssid password :=
      congrArg (StaConfig.mk _) (strncpy_eq_of_fits hpassword (by decide) (Nat.le_refl _) hfits hp)
    have hkeeps := keeps_updateConfig hssid hpassword hs hp
    exact ⟨hsame, hsame ▸ hkeeps, hkeeps⟩

/-- A password of 32 bytes fills the ssid field. -/
theorem credentials_kept_iff_full :
    let password : Bytes := List.replicate 32 112
    initConfig (ascii "station") password = updateConfig (ascii "station") password := by
  intro password
  exact ((credentials_kept_iff (ascii "station") password (by decide) (by decide) (by decide) (by decide)).mpr
    (by decide)).1

/-- A passphrase of 33 bytes loses its last one on the way through `init`. -/
theorem credentials_cut :
    let password : Bytes := List.replicate 32 112 ++ [113]
    (0 ∉ password ∧ password.length ≤ PASSWORD_SIZE) ∧
      fieldString (initConfig (ascii "station") password).password = List.replicate 32 112 ∧
      fieldString (updateConfig (ascii "station") password).password = password ∧
      initConfig (ascii "station") password ≠ updateConfig (ascii "station") password := by
  intro password
  have hinit : fieldString (initConfig (ascii "station") password).password = List.replicate 32 112 := by
    rw [fieldString_initConfig_password (by decide)]
    decide
  have hkeeps : (updateConfig (ascii "station") password).Keeps (ascii "station") password :=
    keeps_updateConfig (by decide) (by decide) (by decide) (by decide)
  have hupdate := hkeeps.password
  refine ⟨⟨by decide, by decide⟩, hinit, hupdate, ?_⟩
  intro hsame
  rw [hsame, hupdate] at hinit
  exact absurd hinit (by decide)

end MultisensorStation.Connectivity
