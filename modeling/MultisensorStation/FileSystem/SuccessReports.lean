import MultisensorStation.FileSystem.RemoveFirstLine

/-!
# What a reported success is worth

The three writers test the stream after their insertions and not after `close`, which flushes what is still in the
buffer.

* `WriteCall` : `writeFile`, `appendLine` and `removeFirstLine`; what each inserts behind what (`base`, `pieces`), and
  what the file holds if its report is true (`promised`);
* `WriteCall.ReachesClose` : nothing failed before `close`, and this alone is reported as a success;
* `CloseLoses` : the flush in `close` stops before the end of the buffer;
* `success_true_iff` : a reported success is true exactly when not both happen.
-/

namespace MultisensorStation.FileSystem
open MultisensorStation.Base

inductive WriteCall where
  | writeFile (data : Bytes)
  | appendLine (line : Bytes)
  | removeFirstLine

/-- The flush in `close` fails before all of the buffer is on the card. -/
def CloseLoses (d : Device) (pieces : List Bytes) : Prop :=
  d.close.fails = true ∧ d.close.taken < OFStream.bytesLeft d.insert 0 0 pieces

namespace WriteCall

/-- What the file is to hold after a call on a file that held `old`. -/
def promised (old : Option Bytes) : WriteCall → Bytes
  | writeFile data => data
  | appendLine line => old.getD [] ++ (line ++ [newline])
  | removeFirstLine => unlines newline (lines newline (old.getD [])).tail

/-- What the file holds when it has been opened for writing. -/
def base (old : Option Bytes) : WriteCall → Bytes
  | writeFile _ => []
  | appendLine _ => old.getD []
  | removeFirstLine => []

/-- What is inserted into the stream, one `operator<<` after the other. -/
def pieces (old : Option Bytes) : WriteCall → List Bytes
  | writeFile data => [data]
  | appendLine line => [line, [newline]]
  | removeFirstLine => linePieces (lines newline (old.getD [])).tail

theorem promised_eq (old : Option Bytes) (call : WriteCall) :
    call.promised old = call.base old ++ (call.pieces old).flatten := by
  cases call with
  | writeFile data => simp [promised, base, pieces]
  | appendLine line => simp [promised, base, pieces]
  | removeFirstLine => rw [promised, base, pieces, flatten_linePieces, List.nil_append]

/-- Nothing goes wrong before the first insertion. -/
def Opens (d : Device) (old : Option Bytes) : WriteCall → Prop
  | writeFile _ => d.openOut = true
  | appendLine _ => d.openOut = true
  | removeFirstLine => ∃ c, old = some c ∧ SDCardFilesystem.ReachesWriteBack d c

/-- Nor with one of the insertions. -/
def ReachesClose (d : Device) (old : Option Bytes) (call : WriteCall) : Prop :=
  call.Opens d old ∧ ∀ k < (call.pieces old).length, (d.insert k).fails = false

/-- The file after `close`, when no insertion failed. -/
def closed (d : Device) (old : Option Bytes) (call : WriteCall) : Bytes :=
  ((OFStream.insertAll d.insert 0 (call.pieces old) (OFStream.ofContent (call.base old))).close d.close).content

theorem closed_eq_iff {d : Device} {old : Option Bytes} {call : WriteCall} (h : call.ReachesClose d old) :
    call.closed d old = call.promised old ↔ ¬ CloseLoses d (call.pieces old) := by
  have hall := OFStream.insertAll_of_ok d.insert (call.pieces old) 0 (OFStream.ofContent (call.base old)) rfl
    (fun k hk => by rw [Nat.zero_add]; exact h.2 k hk)
  have hacc := hall.accepted
  rw [OFStream.accepted_ofContent, ← promised_eq] at hacc
  rw [closed, ← hacc, OFStream.content_close_eq_iff, hall.left]
  rfl

end WriteCall

namespace SDCardFilesystem

variable {Path : Type} [DecidableEq Path]

def write (d : Device) (path : Path) (files : Files Path) : WriteCall → Bool × Files Path
  | .writeFile data => writeFile d path data files
  | .appendLine line => appendLine d path line files
  | .removeFirstLine => removeFirstLine d path files

theorem write_of_reachesClose {d : Device} {path : Path} {files : Files Path} {call : WriteCall}
    (h : call.ReachesClose d (files path)) :
    write d path files call = (true, Function.update files path (some (call.closed d (files path)))) := by
  obtain ⟨hopens, hok⟩ := h
  cases call with
  | writeFile data =>
    have hfail : ((OFStream.ofContent []).insert (d.insert 0) data).fail = false := by
      rw [OFStream.fail, OFStream.failed_insert, hok 0 Nat.zero_lt_one]
      rfl
    unfold write writeFile
    dsimp only
    rw [hopens, hfail]
    rfl
  | appendLine line =>
    have hfail : ((OFStream.ofContent ((files path).getD [])).insertLine (d.insert 0) (d.insert 1) line).fail =
        false := by
      rw [OFStream.fail, OFStream.failed_insertLine, hok 0 Nat.zero_lt_two, hok 1 Nat.one_lt_two]
      rfl
    unfold write appendLine
    dsimp only
    rw [hopens, hfail]
    rfl
  | removeFirstLine =>
    obtain ⟨c, hc, hin, hread, hout⟩ := hopens
    have hwritten := writeLines_eq_insertAll d.insert (lines newline c).tail 0 (OFStream.ofContent []) rfl
      (fun k hk => by rw [Nat.zero_add]; exact hok k (by rwa [hc, WriteCall.pieces, length_linePieces]))
    rw [write, removeFirstLine_of_read hc hin hread hout, hwritten, hc]
    rfl

/-- A file that cannot be opened or read is reported. -/
theorem write_of_not_opens {d : Device} {path : Path} {files : Files Path} {call : WriteCall}
    (h : ¬ call.Opens d (files path)) : (write d path files call).1 = false := by
  cases call with
  | writeFile data =>
    unfold write writeFile
    rw [show d.openOut = false from Bool.eq_false_iff.mpr h]
    rfl
  | appendLine line =>
    unfold write appendLine
    rw [show d.openOut = false from Bool.eq_false_iff.mpr h]
    rfl
  | removeFirstLine =>
    unfold write
    cases hc : files path with
    | none => rw [removeFirstLine_of_absent d hc]
    | some c =>
      rw [removeFirstLine_of_not_reachesWriteBack hc (fun hreach => h ⟨c, hc, hreach⟩)]

/-- So is an insertion that fails. -/
theorem write_of_fails {d : Device} {path : Path} {files : Files Path} {call : WriteCall}
    (hopens : call.Opens d (files path)) {k : Nat} (hk : k < (call.pieces (files path)).length)
    (hkf : (d.insert k).fails = true) : (write d path files call).1 = false := by
  cases call with
  | writeFile data =>
    obtain rfl := Nat.lt_one_iff.mp hk
    have hfail : ((OFStream.ofContent []).insert (d.insert 0) data).fail = true := by
      rw [OFStream.fail, OFStream.failed_insert, hkf, Bool.or_true]
    unfold write writeFile
    dsimp only
    rw [show d.openOut = true from hopens, hfail]
    rfl
  | appendLine line =>
    have hfail : ((OFStream.ofContent ((files path).getD [])).insertLine (d.insert 0) (d.insert 1) line).fail =
        true := by
      rw [OFStream.fail, OFStream.failed_insertLine]
      rcases Nat.le_one_iff_eq_zero_or_eq_one.mp (Nat.le_of_lt_succ hk) with rfl | rfl
      · rw [hkf, Bool.or_true, Bool.true_or]
      · rw [hkf, Bool.or_true]
    unfold write appendLine
    dsimp only
    rw [show d.openOut = true from hopens, hfail]
    rfl
  | removeFirstLine =>
    obtain ⟨c, hc, hreach⟩ := hopens
    rw [hc, WriteCall.pieces, length_linePieces] at hk
    exact removeFirstLine_of_writeBackFails hc hreach ⟨k, hk, hkf⟩

/-- A failure before `close` is reported. -/
theorem write_of_not_reachesClose {d : Device} {path : Path} {files : Files Path} {call : WriteCall}
    (h : ¬ call.ReachesClose d (files path)) : (write d path files call).1 = false := by
  by_cases hopens : call.Opens d (files path)
  · obtain ⟨k, hk, hkf⟩ : ∃ k < (call.pieces (files path)).length, (d.insert k).fails = true := by
      by_contra hno
      exact h ⟨hopens, fun k hk => by by_contra hkf; exact hno ⟨k, hk, by simpa using hkf⟩⟩
    exact write_of_fails hopens hk hkf
  · exact write_of_not_opens hopens

/-- **When a reported success is true.** For every device, path, content and data: the file holds what the report
promises unless the call got as far as `close` and the flush in `close` lost bytes. -/
theorem success_true_iff (d : Device) (path : Path) (files : Files Path) (call : WriteCall) :
    ((write d path files call).1 = true →
        (write d path files call).2 path = some (call.promised (files path))) ↔
      ¬ (call.ReachesClose d (files path) ∧ CloseLoses d (call.pieces (files path))) := by
  by_cases h : call.ReachesClose d (files path)
  · rw [write_of_reachesClose h]
    simp only [Function.update_self, Option.some.injEq, forall_const, h, true_and]
    exact WriteCall.closed_eq_iff h
  · rw [write_of_not_reachesClose h]
    simp [h]

/-- The bytes wait in the buffer until `close`, and the card takes one of them: all three calls report a success. -/
theorem success_reported_on_lost_bytes :
    let d : Device := { Device.reliable 0 with close := ⟨1, true⟩ }
    let files : Files Nat := fun _ => some (ascii "a\nbc\n")
    ((write d 0 files (.writeFile (ascii "abc"))).1 = true ∧
      (write d 0 files (.writeFile (ascii "abc"))).2 0 = some (ascii "a")) ∧
    ((write d 0 files (.appendLine (ascii "abc"))).1 = true ∧
      (write d 0 files (.appendLine (ascii "abc"))).2 0 = some (ascii "a\nbc\na")) ∧
    ((write d 0 files .removeFirstLine).1 = true ∧ (write d 0 files .removeFirstLine).2 0 = some (ascii "b")) := by
  intro d files
  have hfile : files 0 = some (ascii "a\nbc\n") := rfl
  refine ⟨by decide, by decide, ?_⟩
  rw [write, removeFirstLine_of_read hfile rfl (fun _ _ => rfl) rfl]
  decide

end SDCardFilesystem

end MultisensorStation.FileSystem
