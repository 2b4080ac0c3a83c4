import MultisensorStation.Base.Remnants
import MultisensorStation.FileSystem.FaultyRuns

/-!
# The line file on failing devices

A file that is filled with `appendLine` and emptied with `removeFirstLine`, on devices that may fail wherever the stream
library can, with calls on other files in between. A fault that hits an insertion lasts until `close`: otherwise the
buffer is written a second time, and lines with it.

* `StoreCall.KeepsQueue` : no `writeFile` on the file, and no `'\n'` in an appended line; `deleteFile` may come;
* `FaultsLastOn` : a write to the file whose insertion failed writes nothing more;
* `QueueStep` : what a call makes of the content; `queueStep_perform`;
* `removals` : how often `removeFirstLine` reported that it removed the first line of a file that was not empty;
* `no_line_twice` : behind so many removals there is only something of the lines that were appended after as many.
-/

namespace MultisensorStation.FileSystem
open MultisensorStation.Base

namespace StoreCall

variable {Path : Type} [DecidableEq Path]

def KeepsQueue (path : Path) (c : StoreCall Path) : Prop :=
  (∀ data, c ≠ .write path (.writeFile data)) ∧ ∀ line, c.appended path = some line → newline ∉ line

end StoreCall

namespace SDCardFilesystem

variable {Path : Type} [DecidableEq Path]

/-- The call removes the first line of the file, and says so. -/
def removes (path : Path) (files : Files Path) (c : Device × StoreCall Path) : Bool :=
  match c.2 with
  | .write p .removeFirstLine =>
    decide (p = path) && (removeFirstLine c.1 p files).1 && !((files path).getD []).isEmpty
  | _ => false

def removals (path : Path) : Files Path → List (Device × StoreCall Path) → Nat
  | _, [] => 0
  | files, c :: calls => (if removes path files c then 1 else 0) + removals path (perform files c).2 calls

/-- On the device of a write to the file a fault lasts until `close`. -/
def FaultsLastOn (path : Path) (c : Device × StoreCall Path) : Prop := ∀ call, c.2 = .write path call → c.1.FaultsLast

/-- The lines appended to the file, whatever came of it. -/
def appendedLines (path : Path) (calls : List (Device × StoreCall Path)) : List Bytes :=
  (appends path calls).map Prod.snd

theorem appendedLines_cons (path : Path) (c : Device × StoreCall Path) (calls : List (Device × StoreCall Path)) :
    appendedLines path (c :: calls) = (c.2.appended path).toList ++ appendedLines path calls := by
  unfold appendedLines
  rw [appends_cons, List.map_append]
  cases c.2.appended path <;> rfl

/-! ## What a reader sees -/

section Reading
omit [DecidableEq Path]

theorem isPrefix_of_readFile {d : Device} {path : Path} {files : Files Path} {content : Bytes}
    (h : readFile d path files = some content) : content <+: (files path).getD [] := by
  unfold readFile openForReading at h
  cases hin : d.openIn with
  | false =>
    rw [hin] at h
    cases h
    exact List.nil_prefix
  | true =>
    rw [hin, if_pos rfl] at h
    cases hc : files path with
    | none =>
      rw [hc] at h
      cases h
      exact List.nil_prefix
    | some c =>
      rw [hc, Option.map_some] at h
      dsimp only at h
      split at h
      · cases h
      · cases h
        exact List.prefix_rfl

theorem readFirstLine_isPrefix (d : Device) (path : Path) (files : Files Path) :
    readFirstLine d path files <+: (files path).getD [] := by
  unfold readFirstLine openForReading
  split_ifs with hin
  · cases files path with
    | none => exact List.nil_prefix
    | some c =>
      have hline : ((IFStream.ofContent c).getline (d.getline 0) []).2 <+: c := by
        cases d.getline 0 with
        | true => exact List.nil_prefix
        | false =>
          rw [IFStream.getline_ofContent]
          split_ifs
          · exact firstLine_isPrefix c
          · exact List.prefix_rfl
      dsimp only [Option.map_some]
      split_ifs
      · exact List.nil_prefix
      · exact hline
  · exact List.nil_prefix

end Reading

/-! ## One call -/

/-- What a call makes of the content: `appended` is the line that it appends, `removes` whether it removes one. -/
inductive QueueStep (old : Bytes) (appended : Option Bytes) (removes : Bool) (new : Bytes) : Prop where
  | append (line fragment : Bytes) (happ : appended = some line) (hrem : removes = false)
    (hfragment : fragment <+: line ++ [newline]) (hnew : new = old ++ fragment)
  | cut (happ : appended = none) (hrem : removes = true → old ≠ [])
    (hnew : new <+: unlines newline (lines newline old).tail)
  | same (happ : appended = none) (hrem : removes = false) (hnew : new = old)

theorem removeFirstLine_leaves {d : Device} (hd : d.FaultsLast) (path : Path) (files : Files Path) :
    removeFirstLine d path files = (false, files) ∨
      ((removeFirstLine d path files).2 path).getD [] <+:
        unlines newline (lines newline ((files path).getD [])).tail := by
  cases hc : files path with
  | none => exact Or.inl (removeFirstLine_of_absent d hc)
  | some c =>
    by_cases hreach : ReachesWriteBack d c
    · right
      rw [removeFirstLine_of_read hc hreach.1 hreach.2.1 hreach.2.2]
      dsimp only
      rw [Function.update_self]
      exact content_close_writeLines hd (lines newline c).tail
    · exact Or.inl (removeFirstLine_of_not_reachesWriteBack hc hreach)

theorem queueStep_removeFirstLine {d : Device} (hd : d.FaultsLast) (path : Path) (files : Files Path) :
    QueueStep ((files path).getD []) none
      ((removeFirstLine d path files).1 && !((files path).getD []).isEmpty)
      (((removeFirstLine d path files).2 path).getD []) := by
  rcases removeFirstLine_leaves hd path files with hsame | hcut
  · rw [hsame]
    exact .same rfl rfl rfl
  · refine .cut rfl (fun hrem hnil => ?_) hcut
    rw [hnil, List.isEmpty_nil, Bool.not_true, Bool.and_false] at hrem
    cases hrem

/-- A call on another file. -/
theorem queueStep_other {path p : Path} (hp : p ≠ path) (d : Device) (files : Files Path) (call : WriteCall) :
    QueueStep ((files path).getD []) ((StoreCall.write p call).appended path) (removes path files (d, .write p call))
      (((perform files (d, .write p call)).2 path).getD []) := by
  have happ : (StoreCall.write p call).appended path = none := by
    cases call with
    | appendLine line => exact if_neg hp
    | writeFile data => rfl
    | removeFirstLine => rfl
  have hrem : removes path files (d, .write p call) = false := by
    cases call with
    | removeFirstLine => simp [removes, hp]
    | writeFile data => rfl
    | appendLine line => rfl
  have hkeeps : (StoreCall.write p call).KeepsText path := by
    cases call with
    | appendLine line => exact trivial
    | writeFile data => exact hp
    | removeFirstLine => exact hp
  refine .same happ hrem ?_
  rw [perform_other (c := (d, .write p call)) hkeeps happ]

theorem queueStep_perform {path : Path} (files : Files Path) {c : Device × StoreCall Path} (h : c.2.KeepsQueue path)
    (hd : FaultsLastOn path c) :
    QueueStep ((files path).getD []) (c.2.appended path) (removes path files c)
      (((perform files c).2 path).getD []) := by
  obtain ⟨d, c⟩ := c
  cases c with
  | write p call =>
    by_cases hp : p = path
    · subst hp
      cases call with
      | writeFile data => exact absurd rfl (h.1 data)
      | appendLine line =>
        obtain ⟨fragment, hfragment, hcontent⟩ := appendLine_fragment d p line files
        exact .append line fragment (if_pos rfl) rfl (hfragment.isPrefix (hd _ rfl)) hcontent
      | removeFirstLine =>
        have hstep := queueStep_removeFirstLine (hd _ rfl) p files
        have hrem : removes p files (d, .write p .removeFirstLine) =
            ((removeFirstLine d p files).1 && !((files p).getD []).isEmpty) := by simp [removes]
        rw [hrem]
        exact hstep
    · exact queueStep_other hp d files call
  | deleteFile p =>
    have hcontent : (perform files (d, .deleteFile p)).2 path = files path ∨
        (perform files (d, .deleteFile p)).2 path = none := by
      show (deleteFile d p files).2 path = _ ∨ (deleteFile d p files).2 path = _
      unfold deleteFile
      split_ifs
      · exact Or.inl rfl
      · by_cases hp : path = p
        · exact Or.inr (hp ▸ Function.update_self ..)
        · exact Or.inl (Function.update_of_ne hp ..)
    rcases hcontent with hsame | hgone
    · exact .same rfl rfl (by rw [hsame])
    · refine .cut rfl (fun hrem => nomatch hrem) ?_
      rw [hgone]
      exact List.nil_prefix
  | readFile p => exact .same rfl rfl rfl
  | readFirstLine p => exact .same rfl rfl rfl

/-! ## Runs -/

/-- What is in the file, and how much of it was removed. -/
theorem remnant_respond {path : Path} (files : Files Path) (calls : List (Device × StoreCall Path)) (ls : List Bytes)
    (hls : ∀ l ∈ ls, newline ∉ l) (hcontent : Remnant newline ls ((files path).getD []))
    (h : ∀ c ∈ calls, c.2.KeepsQueue path) (hd : ∀ c ∈ calls, FaultsLastOn path c) :
    removals path files calls ≤ (ls ++ appendedLines path calls).length ∧
      Remnant newline ((ls ++ appendedLines path calls).drop (removals path files calls))
        (((respond perform files calls).2 path).getD []) := by
  induction calls generalizing files ls with
  | nil =>
    show 0 ≤ _ ∧ Remnant newline ((ls ++ []).drop 0) ((files path).getD [])
    rw [List.append_nil, List.drop_zero]
    exact ⟨Nat.zero_le _, hcontent⟩
  | cons c calls ih =>
    rw [List.forall_mem_cons] at h hd
    rw [respond_cons, appendedLines_cons, removals]
    cases queueStep_perform files h.1 hd.1 with
    | append line fragment happ hrem hfragment hnew =>
      have hline : newline ∉ line := h.1.2 line happ
      have hnext : Remnant newline (ls ++ [line]) (((perform files c).2 path).getD []) := by
        rw [hnew]
        exact hcontent.append_line hfragment
      obtain ⟨hle, hrest⟩ := ih (perform files c).2 (ls ++ [line])
        (List.forall_mem_append.mpr ⟨hls, List.forall_mem_singleton.mpr hline⟩) hnext h.2 hd.2
      rw [List.append_assoc] at hle hrest
      rw [happ, hrem, if_neg Bool.false_ne_true, Nat.zero_add]
      exact ⟨hle, hrest⟩
    | same happ hrem hnew =>
      rw [happ, hrem, if_neg Bool.false_ne_true, Nat.zero_add]
      exact ih (perform files c).2 ls hls (hnew ▸ hcontent) h.2 hd.2
    | cut happ hrem hnew =>
      have hnext := hcontent.without_first hls hnew
      rw [happ]
      cases hcase : removes path files c with
      | false =>
        rw [if_neg Bool.false_ne_true, Nat.zero_add]
        exact ih (perform files c).2 ls hls hnext.of_tail h.2 hd.2
      | true =>
        -- the file was not empty, so something of a line is left to remove
        cases ls with
        | nil => exact absurd hcontent.eq_nil (hrem hcase)
        | cons l ls =>
          rw [List.forall_mem_cons] at hls
          obtain ⟨hle, hrest⟩ := ih (perform files c).2 ls hls.2 hnext h.2 hd.2
          rw [if_pos rfl, Nat.add_comm]
          exact ⟨Nat.succ_le_succ hle, hrest⟩

theorem newline_not_mem_of_appended {path : Path} {calls : List (Device × StoreCall Path)}
    (h : ∀ c ∈ calls, c.2.KeepsQueue path) : ∀ line ∈ appendedLines path calls, newline ∉ line := by
  induction calls with
  | nil => exact fun line hline => absurd hline List.not_mem_nil
  | cons c calls ih =>
    rw [List.forall_mem_cons] at h
    rw [appendedLines_cons, List.forall_mem_append]
    exact ⟨fun line hline => h.1.2 line (Option.mem_toList.mp hline), ih h.2⟩

/-- **No line is removed twice.** In every run of calls on devices that may fail at any point, in which nothing rewrites
the file, no appended line holds a `'\n'` and a fault that hits an insertion into the file lasts until `close`:
`removeFirstLine` removes at most as many lines as were appended; and behind `n` removals there is nothing of the first
`n` lines, but from each of the later ones at most one first part, in the order of the calls. That is also all that a
reader can be given on any device. -/
theorem no_line_twice (path : Path) (files : Files Path) (hfiles : (files path).getD [] = [])
    (calls : List (Device × StoreCall Path)) (h : ∀ c ∈ calls, c.2.KeepsQueue path)
    (hd : ∀ c ∈ calls, FaultsLastOn path c) :
    let files' := (respond perform files calls).2
    let left := (appendedLines path calls).drop (removals path files calls)
    removals path files calls + (lines newline ((files' path).getD [])).length ≤ (appendedLines path calls).length ∧
      Remnant newline left ((files' path).getD []) ∧
      ∀ d, (∀ content, readFile d path files' = some content → Remnant newline left content) ∧
        Remnant newline left (readFirstLine d path files') := by
  intro files' left
  have hstart : Remnant newline [] ((files path).getD []) := by
    rw [hfiles]
    exact .nil []
  obtain ⟨hle, hrest⟩ := remnant_respond files calls [] (fun l hl => absurd hl List.not_mem_nil) hstart h hd
  have hleft : ∀ l ∈ left, newline ∉ l :=
    fun l hl => newline_not_mem_of_appended h l (List.mem_of_mem_drop hl)
  refine ⟨?_, hrest, fun d => ⟨fun content hread => hrest.of_isPrefix (isPrefix_of_readFile hread), ?_⟩⟩
  · have hlines : (lines newline ((files' path).getD [])).length ≤ left.length :=
      hrest.length_lines_le hleft
    have hlength : left.length = (appendedLines path calls).length - removals path files calls := List.length_drop
    rw [List.nil_append] at hle
    omega
  · exact hrest.of_isPrefix (readFirstLine_isPrefix d path files')

/-- A line that got through, one that was cut by the card running full at its `'\n'`, one that was cut by `close`, and
one that is appended when the first is removed. -/
theorem no_line_twice_cut :
    let full : Device :=
      { Device.reliable 0 with insert := fun k => if k = 1 then ⟨2, true⟩ else ⟨0, false⟩, close := ⟨0, true⟩ }
    let cut : Device := { Device.reliable 0 with close := ⟨1, true⟩ }
    let d := Device.reliable 0
    let calls : List (Device × StoreCall Nat) :=
      [(d, .write 0 (.appendLine (ascii "ab"))), (full, .write 0 (.appendLine (ascii "xyz"))),
        (cut, .write 0 (.appendLine (ascii "cd"))), (d, .write 0 .removeFirstLine),
        (d, .write 0 (.appendLine (ascii "ef")))]
    let files' := (respond perform (fun _ => none) calls).2
    readFile d 0 files' = some (ascii "xyc\nef\n") ∧
      Remnant newline [ascii "xyz", ascii "cd", ascii "ef"] (ascii "xyc\nef\n") := by
  intro full cut d calls files'
  have hrem : removals 0 (fun _ => none) calls = 1 := by decide +kernel
  have hcalls : ∀ c ∈ calls, c.2.KeepsQueue 0 := by
    simp [calls, StoreCall.KeepsQueue, StoreCall.appended]
    decide
  have hfull : full.FaultsLast := fun _ _ => ⟨rfl, rfl⟩
  have hcut : cut.FaultsLast := fun _ hfails => absurd hfails Bool.false_ne_true
  have hd : d.FaultsLast := fun _ hfails => absurd hfails Bool.false_ne_true
  have hdevices : ∀ c ∈ calls, FaultsLastOn 0 c := by
    simp [calls, FaultsLastOn, hfull, hcut, hd]
  have hread : readFile d 0 files' = some (ascii "xyc\nef\n") := by decide +kernel
  have hleft := ((no_line_twice 0 (fun _ => none) rfl calls hcalls hdevices).2.2 d).1 _ hread
  rw [hrem] at hleft
  exact ⟨hread, hleft⟩

end SDCardFilesystem

end MultisensorStation.FileSystem
