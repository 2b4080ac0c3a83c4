import MultisensorStation.FileSystem.Stream

/-!
# `SDCardFilesystem`

* `Files` : the card, a content for each file there is;
* `Device` : how the card behaves during one call, every operation of the stream library that may fail;
  `Device.Works` : nothing fails; `Device.FaultsLast` : after a failed insertion `close` writes nothing more;
* `writeFile`, `readFile`, `deleteFile`, `appendLine`, `readFirstLine`, `removeFirstLine` : the public calls on a
  mounted card;
* `writeLines` : the loop of `removeFirstLine` that writes the kept lines back; it is a run of insertions
  (`writeLines_eq_insertAll`), and this is what it leaves behind when it gets through (`writeLines_of_ok`), when it
  stops (`writeLines_of_fail`) and in any case (`towards_writeLines`).
-/

namespace MultisensorStation.FileSystem
open MultisensorStation.Base

abbrev Files (Path : Type) := Path → Option Bytes

/-- One call's device: the `n`-th `getline` and the `n`-th insertion count from 0 in the order of the code. -/
structure Device where
  openIn : Bool
  /-- the `n`-th `getline` meets a read error -/
  getline : Nat → Bool
  /-- the stream buffer meets a read error on the way to the end of the file -/
  readError : Bool
  openOut : Bool
  insert : Nat → Transfer
  close : Transfer
  remove : Bool

structure Device.Works (d : Device) : Prop where
  openIn : d.openIn = true
  getline : ∀ n, d.getline n = false
  readError : d.readError = false
  openOut : d.openOut = true
  insert : ∀ n, (d.insert n).fails = false
  close : d.close.fails = false
  remove : d.remove = true

/-- A device without faults, which moves up to `taken` bytes to the card with each insertion. -/
def Device.reliable (taken : Nat) : Device :=
  { openIn := true
    getline := fun _ => false
    readError := false
    openOut := true
    insert := fun _ => ⟨taken, false⟩
    close := ⟨0, false⟩
    remove := true }

theorem Device.works_reliable (taken : Nat) : (Device.reliable taken).Works :=
  ⟨rfl, fun _ => rfl, rfl, rfl, fun _ => rfl, rfl, rfl⟩

/-- A fault of an insertion lasts until `close`: its flush fails as well and takes nothing. -/
def Device.FaultsLast (d : Device) : Prop := ∀ n, (d.insert n).fails = true → d.close.fails = true ∧ d.close.taken = 0

/-- `outFile << l << "\n"` for each line. -/
def linePieces : List Bytes → List Bytes
  | [] => []
  | l :: ls => l :: [newline] :: linePieces ls

theorem length_linePieces (ls : List Bytes) : (linePieces ls).length = 2 * ls.length := by
  induction ls with
  | nil => rfl
  | cons l ls ih => rw [linePieces, List.length_cons, List.length_cons, ih, List.length_cons, Nat.mul_succ]

theorem flatten_linePieces (ls : List Bytes) : (linePieces ls).flatten = unlines newline ls := by
  induction ls with
  | nil => rfl
  | cons l ls ih =>
    rw [linePieces, List.flatten_cons, List.flatten_cons, ih, unlines_cons]
    simp

namespace SDCardFilesystem

variable {Path : Type}

/-- `std::ifstream file(path)`; `none` when it is not open. -/
def openForReading (d : Device) (path : Path) (files : Files Path) : Option IFStream :=
  if d.openIn then (files path).map IFStream.ofContent else none

/-- `none` when it is left by an exception. -/
def readFile (d : Device) (path : Path) (files : Files Path) : Option Bytes :=
  match openForReading d path files with
  | none => some []
  | some file =>
    -- the iterators read from the stream buffer: a read error is thrown, and no state bit of `file` changes
    if d.readError then none
    else
      let content := file.rest
      some (if file.fail && !file.eof then [] else content)

def readFirstLine (d : Device) (path : Path) (files : Files Path) : Bytes :=
  match openForReading d path files with
  | none => []
  | some file =>
    let (file, line) := file.getline (d.getline 0) []
    if file.fail && !file.eof then [] else line

/-- `for (const auto& l : lines)`, from the `n`-th insertion on; `false` is the early return. -/
def writeLines (insert : Nat → Transfer) : Nat → List Bytes → OFStream → OFStream × Bool
  | _, [], outFile => (outFile, true)
  | n, l :: ls, outFile =>
    let outFile := outFile.insertLine (insert n) (insert (n + 1)) l
    if outFile.fail then (outFile, false) else writeLines insert (n + 2) ls outFile

variable [DecidableEq Path]

def writeFile (d : Device) (path : Path) (data : Bytes) (files : Files Path) : Bool × Files Path :=
  if !d.openOut then (false, files)
  else
    let file := (OFStream.ofContent []).insert (d.insert 0) data
    (!file.fail, Function.update files path (some (file.close d.close).content))

def deleteFile (d : Device) (path : Path) (files : Files Path) : Bool × Files Path :=
  if (files path).isNone || !d.remove then (false, files) else (true, Function.update files path none)

/-- Append mode keeps what the file holds and creates a file that is not there. -/
def appendLine (d : Device) (path : Path) (line : Bytes) (files : Files Path) : Bool × Files Path :=
  if !d.openOut then (false, files)
  else
    let file := (OFStream.ofContent ((files path).getD [])).insertLine (d.insert 0) (d.insert 1) line
    (!file.fail, Function.update files path (some (file.close d.close).content))

def removeFirstLine (d : Device) (path : Path) (files : Files Path) : Bool × Files Path :=
  match openForReading d path files with
  | none => (false, files)
  | some file =>
    let (file, lines) := file.skipThenGetlines d.getline
    if file.fail && !file.eof then (false, files)
    else if !d.openOut then (false, files)
    else
      -- opening truncates the file
      let (outFile, finished) := writeLines d.insert 0 lines (OFStream.ofContent [])
      (finished, Function.update files path (some (outFile.close d.close).content))

/-! ## The loop that writes the kept lines back -/

/-- When no insertion fails, the loop is a run of insertions. -/
theorem writeLines_eq_insertAll (insert : Nat → Transfer) (ls : List Bytes) :
    ∀ (n : Nat) (f : OFStream), f.failed = false → (∀ k < 2 * ls.length, (insert (n + k)).fails = false) →
      writeLines insert n ls f = (OFStream.insertAll insert n (linePieces ls) f, true) := by
  induction ls with
  | nil => exact fun _ _ _ _ => rfl
  | cons l ls ih =>
    intro n f hf hok
    rw [List.length_cons, Nat.mul_succ] at hok
    obtain ⟨hok0, hok'⟩ := error_succ_of_ok (fun k => (insert k).fails) hok
    obtain ⟨hok1, hrest⟩ := error_succ_of_ok (fun k => (insert k).fails) hok'
    have hline : (f.insertLine (insert n) (insert (n + 1)) l).failed = false := by
      rw [OFStream.failed_insertLine, hf, hok0, hok1]
      rfl
    unfold writeLines OFStream.fail
    rw [if_neg (by simp [hline])]
    exact ih (n + 2) _ hline hrest

theorem writeLines_of_ok (insert : Nat → Transfer) (ls : List Bytes) (n : Nat) (f : OFStream)
    (hf : f.failed = false) (hok : ∀ k < 2 * ls.length, (insert (n + k)).fails = false) :
    (writeLines insert n ls f).2 = true ∧
      (writeLines insert n ls f).1.accepted = f.accepted ++ unlines newline ls := by
  have hall := OFStream.insertAll_of_ok insert (linePieces ls) n f hf (by rwa [length_linePieces])
  rw [writeLines_eq_insertAll insert ls n f hf hok]
  refine ⟨rfl, ?_⟩
  rw [hall.accepted, flatten_linePieces]

theorem writeLines_of_fail (insert : Nat → Transfer) (ls : List Bytes) :
    ∀ (n : Nat) (f : OFStream), (∃ k < 2 * ls.length, (insert (n + k)).fails = true) →
      (writeLines insert n ls f).2 = false := by
  induction ls with
  | nil =>
    intro n f hfail
    obtain ⟨k, hk, -⟩ := hfail
    exact absurd hk (Nat.not_lt_zero k)
  | cons l ls ih =>
    intro n f hfail
    rw [List.length_cons, Nat.mul_succ] at hfail
    unfold writeLines OFStream.fail
    dsimp only
    split
    · rfl
    · next hgood =>
      -- both insertions of this line went through, so the failing one comes later
      rw [OFStream.failed_insertLine, Bool.not_eq_true, Bool.or_eq_false_iff, Bool.or_eq_false_iff] at hgood
      have hlater := exists_error_succ (fun k => (insert k).fails) hgood.1.2 hfail
      apply ih
      exact exists_error_succ (fun k => (insert k).fails) hgood.2 hlater

/-- However it ends, only lines that were to be kept have been written. -/
theorem towards_writeLines {text : Bytes} (insert : Nat → Transfer) (ls : List Bytes) :
    ∀ (n : Nat) (f : OFStream), f.Towards text → (f.failed = false → f.accepted ++ unlines newline ls <+: text) →
      (writeLines insert n ls f).1.Towards text := by
  induction ls with
  | nil => exact fun n f hf _ => hf
  | cons l ls ih =>
    intro n f hf htext
    have hjoin : f.accepted ++ unlines newline (l :: ls) = f.accepted ++ (l ++ [newline]) ++ unlines newline ls := by
      rw [unlines_cons]
      simp only [List.append_assoc, List.singleton_append]
    rw [hjoin] at htext
    have hline := hf.insertLine (insert n) (insert (n + 1)) (fun hok => (List.prefix_append _ _).trans (htext hok))
    unfold writeLines OFStream.fail
    dsimp only
    split
    · exact hline
    · next hgood =>
      refine ih (n + 2) _ hline (fun hok => ?_)
      rw [OFStream.accepted_insertLine hok]
      rw [OFStream.failed_insertLine, Bool.or_eq_false_iff, Bool.or_eq_false_iff] at hok
      exact htext hok.1.1

/-- A loop that stopped has met a failing insertion. -/
theorem fails_of_failed_writeLines (insert : Nat → Transfer) (ls : List Bytes) :
    ∀ (n : Nat) (f : OFStream), f.failed = false → (writeLines insert n ls f).1.failed = true →
      ∃ k, (insert k).fails = true := by
  induction ls with
  | nil =>
    intro n f hf hstop
    rw [writeLines, hf] at hstop
    cases hstop
  | cons l ls ih =>
    intro n f hf hstop
    unfold writeLines OFStream.fail at hstop
    dsimp only at hstop
    split at hstop
    · rw [OFStream.failed_insertLine, hf, Bool.false_or, Bool.or_eq_true] at hstop
      rcases hstop with h | h
      · exact ⟨n, h⟩
      · exact ⟨n + 1, h⟩
    · next hgood => exact ih (n + 2) _ (by simpa using hgood) hstop

/-- When a fault lasts, what is on the card after `close` are first bytes of the lines. -/
theorem content_close_writeLines {d : Device} (hd : d.FaultsLast) (ls : List Bytes) :
    ((writeLines d.insert 0 ls (OFStream.ofContent [])).1.close d.close).content <+: unlines newline ls := by
  have htowards : OFStream.Towards (unlines newline ls) (writeLines d.insert 0 ls (OFStream.ofContent [])).1 :=
    towards_writeLines d.insert ls 0 _ (OFStream.towards_ofContent List.nil_prefix) (fun _ => by simp)
  apply htowards.close
  intro hfailed
  obtain ⟨k, hk⟩ := fails_of_failed_writeLines d.insert ls 0 (OFStream.ofContent []) rfl hfailed
  exact hd k hk

/-! ## The calls on a working device -/

omit [DecidableEq Path] in
theorem openForReading_of_openIn {d : Device} (hd : d.openIn = true) (path : Path) (files : Files Path) :
    openForReading d path files = (files path).map IFStream.ofContent := by
  unfold openForReading
  rw [if_pos hd]

omit [DecidableEq Path] in
theorem readFile_of_works {d : Device} (hd : d.Works) (path : Path) (files : Files Path) :
    readFile d path files = some ((files path).getD []) := by
  unfold readFile
  rw [openForReading_of_openIn hd.openIn, hd.readError]
  cases files path with
  | none => rfl
  | some c => rfl

omit [DecidableEq Path] in
theorem readFirstLine_of_works {d : Device} (hd : d.Works) (path : Path) (files : Files Path) :
    readFirstLine d path files = ((files path).map (firstLine newline)).getD [] := by
  unfold readFirstLine
  rw [openForReading_of_openIn hd.openIn, hd.getline]
  cases files path with
  | none => rfl
  | some c =>
    simp only [Option.map_some, Option.getD_some]
    rw [IFStream.getline_ofContent]
    by_cases hc : newline ∈ c
    · rw [if_pos hc]
      rfl
    · rw [if_neg hc, firstLine_of_not_mem c hc]
      -- the end was found, so the failed read of an empty file is no error
      simp [IFStream.eof]

theorem appendLine_of_works {d : Device} (hd : d.Works) (path : Path) (line : Bytes) (files : Files Path) :
    appendLine d path line files =
      (true, Function.update files path (some ((files path).getD [] ++ (line ++ [newline])))) := by
  have hline : ((OFStream.ofContent ((files path).getD [])).insertLine (d.insert 0) (d.insert 1) line).failed =
      false := by
    rw [OFStream.failed_insertLine, hd.insert, hd.insert]
    rfl
  unfold appendLine OFStream.fail
  dsimp only
  rw [hd.openOut, hline, OFStream.content_close_of_ok hd.close, OFStream.accepted_insertLine hline,
    OFStream.accepted_ofContent]
  rfl

/-- Reading went well and the file could be reopened: what happens is up to the loop that writes back. -/
theorem removeFirstLine_of_read {d : Device} {path : Path} {files : Files Path} {c : Bytes}
    (hc : files path = some c) (hin : d.openIn = true) (hread : ∀ k < IFStream.deviceReads c, d.getline k = false)
    (hout : d.openOut = true) :
    removeFirstLine d path files =
      ((writeLines d.insert 0 (lines newline c).tail (OFStream.ofContent [])).2,
        Function.update files path
          (some
            ((writeLines d.insert 0 (lines newline c).tail (OFStream.ofContent [])).1.close d.close).content)) := by
  unfold removeFirstLine
  rw [openForReading_of_openIn hin, hc, hout]
  simp only [Option.map_some]
  rw [IFStream.skipThenGetlines_of_ok _ _ hread]
  rfl

theorem removeFirstLine_of_works {d : Device} (hd : d.Works) {path : Path} {files : Files Path} {c : Bytes}
    (hc : files path = some c) :
    removeFirstLine d path files =
      (true, Function.update files path (some (unlines newline (lines newline c).tail))) := by
  obtain ⟨hdone, hacc⟩ := writeLines_of_ok d.insert (lines newline c).tail 0 (OFStream.ofContent []) rfl
    (fun k _ => hd.insert _)
  rw [removeFirstLine_of_read hc hd.openIn (fun k _ => hd.getline k) hd.openOut, hdone,
    OFStream.content_close_of_ok hd.close, hacc, OFStream.accepted_ofContent, List.nil_append]

theorem removeFirstLine_of_absent (d : Device) {path : Path} {files : Files Path} (hc : files path = none) :
    removeFirstLine d path files = (false, files) := by
  have hopen : openForReading d path files = none := by
    unfold openForReading
    rw [hc, Option.map_none, ite_self]
  unfold removeFirstLine
  rw [hopen]

end SDCardFilesystem

end MultisensorStation.FileSystem
