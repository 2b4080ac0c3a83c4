import MultisensorStation.Base.Runs
import MultisensorStation.FileSystem.SDCardFileSystem

/-!
# Files of lines as queues

* `FileCall`, `FileAnswer`, `SDCardFilesystem.call` : the calls of the line store, each on a device of its own;
* `LineQueues` : what the store is for, a queue of lines for each path that was ever appended to;
* `SDCardFilesystem.Stores` : every file is the text of its queue; a call on a working device keeps it;
* `respond_as_lineQueues` : the answers over whole runs are those of the queues.
-/

namespace MultisensorStation.FileSystem
open MultisensorStation.Base

inductive FileCall (Path : Type) where
  | appendLine (path : Path) (line : Bytes)
  | removeFirstLine (path : Path)
  | readFirstLine (path : Path)
  | readFile (path : Path)

/-- No `'\n'` inside an appended line. -/
def FileCall.OneLine {Path : Type} : FileCall Path → Prop
  | .appendLine _ line => newline ∉ line
  | _ => True

inductive FileAnswer where
  | done (ok : Bool)
  | text (content : Bytes)
  /-- left by an exception -/
  | threw
  deriving DecidableEq

def FileAnswer.ofRead (content : Option Bytes) : FileAnswer := content.elim .threw .text

/-- The queue of each path; `none` before the first line. -/
abbrev LineQueues (Path : Type) := Path → Option (List Bytes)

variable {Path : Type} [DecidableEq Path]

def LineQueues.call (queues : LineQueues Path) : FileCall Path → FileAnswer × LineQueues Path
  | .appendLine path line =>
    (.done true, Function.update queues path (some ((queues path).getD [] ++ [line])))
  | .removeFirstLine path =>
    match queues path with
    | none => (.done false, queues)
    | some ls => (.done true, Function.update queues path (some ls.tail))
  | .readFirstLine path => (.text (((queues path).getD []).headD []), queues)
  | .readFile path => (.text (unlines newline ((queues path).getD [])), queues)

namespace SDCardFilesystem

def call (files : Files Path) (c : Device × FileCall Path) : FileAnswer × Files Path :=
  match c.2 with
  | .appendLine path line => ((appendLine c.1 path line files).map FileAnswer.done id)
  | .removeFirstLine path => ((removeFirstLine c.1 path files).map FileAnswer.done id)
  | .readFirstLine path => (.text (readFirstLine c.1 path files), files)
  | .readFile path => (FileAnswer.ofRead (readFile c.1 path files), files)

/-! ## Runs -/

/-- Each file is the text of its queue. -/
structure Stores (files : Files Path) (queues : LineQueues Path) : Prop where
  text : ∀ path, files path = (queues path).map (unlines newline)
  oneLine : ∀ path ls, queues path = some ls → ∀ l ∈ ls, newline ∉ l

theorem Stores.update {files : Files Path} {queues : LineQueues Path} (h : Stores files queues) (path : Path)
    {ls : List Bytes} (hls : ∀ l ∈ ls, newline ∉ l) :
    Stores (Function.update files path (some (unlines newline ls))) (Function.update queues path (some ls)) := by
  refine ⟨fun p => ?_, fun p ms hms => ?_⟩
  · by_cases hp : p = path
    · rw [hp, Function.update_self, Function.update_self, Option.map_some]
    · rw [Function.update_of_ne hp, Function.update_of_ne hp, h.text]
  · by_cases hp : p = path
    · rw [hp, Function.update_self, Option.some.injEq] at hms
      exact hms ▸ hls
    · rw [Function.update_of_ne hp] at hms
      exact h.oneLine p ms hms

omit [DecidableEq Path] in
theorem Stores.getD {files : Files Path} {queues : LineQueues Path} (h : Stores files queues) (path : Path) :
    (files path).getD [] = unlines newline ((queues path).getD []) := by
  rw [h.text]
  cases queues path with
  | none => rfl
  | some ls => rfl

omit [DecidableEq Path] in
theorem Stores.oneLine_getD {files : Files Path} {queues : LineQueues Path} (h : Stores files queues) (path : Path) :
    ∀ l ∈ (queues path).getD [], newline ∉ l := by
  cases hq : queues path with
  | none => simp
  | some ls => exact h.oneLine path ls hq

/-- One call on a working device, on files that store queues. -/
theorem Stores.call {files : Files Path} {queues : LineQueues Path} (h : Stores files queues) {d : Device}
    (hd : d.Works) {c : FileCall Path} (hc : c.OneLine) :
    (SDCardFilesystem.call files (d, c)).1 = (queues.call c).1 ∧
      Stores (SDCardFilesystem.call files (d, c)).2 (queues.call c).2 := by
  cases c with
  | appendLine path line =>
    unfold SDCardFilesystem.call LineQueues.call
    dsimp only
    rw [appendLine_of_works hd, h.getD]
    refine ⟨rfl, ?_⟩
    have hls : ∀ l ∈ (queues path).getD [] ++ [line], newline ∉ l := by
      intro l hl
      rcases List.mem_append.mp hl with hl | hl
      · exact h.oneLine_getD path l hl
      · exact List.mem_singleton.mp hl ▸ hc
    have hnext := h.update path hls
    rwa [unlines_append, unlines_cons, unlines_nil] at hnext
  | removeFirstLine path =>
    unfold SDCardFilesystem.call LineQueues.call
    dsimp only
    cases hq : queues path with
    | none =>
      have hf : files path = none := by rw [h.text, hq, Option.map_none]
      rw [removeFirstLine_of_absent d hf]
      exact ⟨rfl, h⟩
    | some ls =>
      have hf : files path = some (unlines newline ls) := by rw [h.text, hq, Option.map_some]
      have hone := h.oneLine path ls hq
      rw [removeFirstLine_of_works hd hf, lines_unlines ls hone]
      exact ⟨rfl, h.update path (fun l hl => hone l (List.mem_of_mem_tail hl))⟩
  | readFirstLine path =>
    refine ⟨congrArg FileAnswer.text ?_, h⟩
    show readFirstLine d path files = _
    rw [readFirstLine_of_works hd, ← firstLine_unlines _ (h.oneLine_getD path), h.text]
    cases queues path with
    | none => rfl
    | some ls => rfl
  | readFile path =>
    refine ⟨?_, h⟩
    show FileAnswer.ofRead (readFile d path files) = _
    rw [readFile_of_works hd, h.getD]
    rfl

/-- **The line store is a queue of lines for each path.** Every run of calls on working devices, from a card without
files, is answered as by the queues, and at its end, hence after every call, each file is the text of its queue. -/
theorem respond_as_lineQueues (calls : List (Device × FileCall Path))
    (h : ∀ c ∈ calls, c.1.Works ∧ c.2.OneLine) :
    let run := respond call (fun _ => none) calls
    let spec := respond LineQueues.call (fun _ => none) (calls.map Prod.snd)
    run.1 = spec.1 ∧ ∀ path, run.2 path = (spec.2 path).map (unlines newline) := by
  intro run spec
  have hinit : Stores (fun _ : Path => none) (fun _ => none) := ⟨fun _ => rfl, fun _ _ h => by cases h⟩
  obtain ⟨hans, hend⟩ := respond_simulates Prod.snd calls
    (fun c hc _ _ hs => Stores.call hs (h c hc).1 (h c hc).2) _ _ hinit
  exact ⟨hans, hend.text⟩

/-- Two paths, an empty line, draining to empty and refilling, and a path without a file. -/
theorem respond_as_lineQueues_drained :
    let d := Device.reliable 1
    let calls : List (Device × FileCall Nat) :=
      [(d, .appendLine 0 []), (d, .appendLine 0 [97, 98]), (d, .appendLine 1 [120]), (d, .readFirstLine 0),
        (d, .removeFirstLine 0), (d, .readFile 0), (d, .removeFirstLine 0), (d, .removeFirstLine 0),
        (d, .removeFirstLine 2), (d, .appendLine 0 [99])]
    let run := respond call (fun _ => none) calls
    run.1 = [.done true, .done true, .done true, .text [], .done true, .text [97, 98, 10], .done true, .done true,
        .done false, .done true] ∧
      run.2 0 = some [99, 10] ∧ run.2 1 = some [120, 10] ∧ run.2 2 = none := by
  intro d calls run
  have hworks : ∀ c ∈ calls, c.1 = d ∧ c.2.OneLine := by
    simp [calls, FileCall.OneLine, newline]
  obtain ⟨hans, htext⟩ := respond_as_lineQueues calls
    (fun c hc => ⟨(hworks c hc).1 ▸ Device.works_reliable 1, (hworks c hc).2⟩)
  exact ⟨hans, htext 0, htext 1, htext 2⟩

end SDCardFilesystem

end MultisensorStation.FileSystem
