import Mathlib.Data.List.TakeWhile

/-!
# Bytes and C strings

* `Bytes` : the contents of an `std::string` or of a file;
* `ascii` : the bytes of a literal;
* `cString` : what a function that stops at the first NUL sees of them; `snprintf` : what is left of a text in a
  buffer of `n` bytes.
-/

namespace MultisensorStation.Base

abbrev Bytes := List UInt8

/-- The bytes of a literal of ASCII characters. -/
def ascii (s : String) : Bytes := s.toList.map (fun c => c.toUInt8)

/-- `c_str()`, read up to the first NUL. -/
def cString (s : Bytes) : Bytes := s.takeWhile (fun c => c ≠ 0)

/-- The buffer of `n` bytes after `snprintf` of `text`, read as a C string. -/
def snprintf (n : Nat) (text : Bytes) : Bytes := cString (text.take (n - 1))

theorem cString_of_not_mem {s : Bytes} (h : 0 ∉ s) : cString s = s := by
  unfold cString
  apply List.takeWhile_eq_self_iff.mpr
  intro c hc
  have hne : c ≠ 0 := fun h0 => h (h0 ▸ hc)
  simpa using hne

@[simp] theorem cString_cString (s : Bytes) : cString (cString s) = cString s := by
  unfold cString
  rw [List.takeWhile_takeWhile]
  simp

theorem snprintf_of_not_mem {n : Nat} {text : Bytes} (h : 0 ∉ text) : snprintf n text = text.take (n - 1) :=
  cString_of_not_mem (fun hmem => h (List.mem_of_mem_take hmem))

end MultisensorStation.Base
