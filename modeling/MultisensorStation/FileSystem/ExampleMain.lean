import MultisensorStation.FileSystem.LineQueue
import MultisensorStation.FileSystem.Mount

/-!
# `exampleMain`

* `ExampleLog`, `exampleMain` : what the example logs, and what it leaves of the object and of the card;
* `QueueFile` : the file as a queue of lines; `exampleMain_of_works` : one call on a working card;
* `exampleMain_repeated` : call after call, the example reads on in its own lines and leaves two more each time.
-/

namespace MultisensorStation.FileSystem
open MultisensorStation.Base SDCardFilesystem

inductive ExampleLog where
  | failedToAppend
  | failedToReadFirstLine
  | firstLine (line : Bytes)
  | failedToRemove
  | firstLineRemoved
  | failedToReadNewFirstLine
  | newFirstLine (line : Bytes)
  deriving DecidableEq

variable {Path : Type} [DecidableEq Path]

/-- The calls of one `exampleMain`: what the driver answers to `mount`, and the devices of the six calls on the file. -/
structure ExampleCall where
  ret : Int
  card : Nat
  device : Nat → Device

def exampleMain (filePath : Path) (s : SDCardFilesystem × Files Path) (c : ExampleCall) :
    List ExampleLog × (SDCardFilesystem × Files Path) :=
  let mounted := s.1.mount c.ret c.card
  if mounted.1 then
    let first := appendLine (c.device 0) filePath (ascii "First line") s.2
    let second := appendLine (c.device 1) filePath (ascii "Second line") first.2
    let third := appendLine (c.device 2) filePath (ascii "Third line") second.2
    let firstLine := readFirstLine (c.device 3) filePath third.2
    let removed := removeFirstLine (c.device 4) filePath third.2
    let newFirstLine := readFirstLine (c.device 5) filePath removed.2
    let logs :=
      (if !first.1 then [.failedToAppend] else []) ++ (if !second.1 then [.failedToAppend] else []) ++
      (if !third.1 then [.failedToAppend] else []) ++
      -- `%s` of `c_str()`
      [if firstLine.isEmpty then .failedToReadFirstLine else .firstLine (cString firstLine),
        if !removed.1 then .failedToRemove else .firstLineRemoved,
        if newFirstLine.isEmpty then .failedToReadNewFirstLine else .newFirstLine (cString newFirstLine)]
    (logs, (mounted.2.unmount, removed.2))
  else ([], (mounted.2, s.2))

/-! ## One call on a working card -/

/-- The lines of the example, in the order in which it appends them. -/
def exampleLines : List Bytes := [ascii "First line", ascii "Second line", ascii "Third line"]

theorem exampleLines_oneLine : ∀ l ∈ exampleLines, newline ∉ l := by decide

/-- The file is the text of these lines. -/
structure QueueFile (filePath : Path) (files : Files Path) (ls : List Bytes) : Prop where
  text : (files filePath).getD [] = unlines newline ls
  oneLine : ∀ l ∈ ls, newline ∉ l

/-- The card mounts and works. -/
structure ExampleCall.Works (c : ExampleCall) : Prop where
  mounts : c.ret = ESP_OK
  device : ∀ n, (c.device n).Works

/-- What the example logs when it finds these lines at the top of the file, before and after the removal. -/
def report (line next : Bytes) : List ExampleLog :=
  [if line.isEmpty then .failedToReadFirstLine else .firstLine (cString line), .firstLineRemoved,
    if next.isEmpty then .failedToReadNewFirstLine else .newFirstLine (cString next)]

theorem QueueFile.appendLine {filePath : Path} {files : Files Path} {ls : List Bytes} (h : QueueFile filePath files ls)
    {d : Device} (hd : d.Works) {line : Bytes} (hline : newline ∉ line) :
    (SDCardFilesystem.appendLine d filePath line files).1 = true ∧
      QueueFile filePath (SDCardFilesystem.appendLine d filePath line files).2 (ls ++ [line]) := by
  rw [appendLine_of_works hd, h.text]
  refine ⟨rfl, ?_, List.forall_mem_append.mpr ⟨h.oneLine, List.forall_mem_singleton.mpr hline⟩⟩
  show (Function.update files filePath _ filePath).getD [] = _
  rw [Function.update_self, Option.getD_some, unlines_append, unlines_cons, unlines_nil]

omit [DecidableEq Path] in
theorem QueueFile.readFirstLine {filePath : Path} {files : Files Path} {ls : List Bytes}
    (h : QueueFile filePath files ls) {d : Device} (hd : d.Works) :
    SDCardFilesystem.readFirstLine d filePath files = ls.headD [] := by
  have hfirst := firstLine_unlines ls h.oneLine
  rw [← h.text] at hfirst
  rw [readFirstLine_of_works hd, ← hfirst]
  cases files filePath <;> rfl

theorem QueueFile.removeFirstLine {filePath : Path} {files : Files Path} {l : Bytes} {ls : List Bytes}
    (h : QueueFile filePath files (l :: ls)) {d : Device} (hd : d.Works) :
    (SDCardFilesystem.removeFirstLine d filePath files).1 = true ∧
      QueueFile filePath (SDCardFilesystem.removeFirstLine d filePath files).2 ls := by
  have htext := h.text
  cases hfile : files filePath with
  | none =>
    rw [hfile, unlines_cons, Option.getD_none] at htext
    exact absurd htext.symm (by simp)
  | some c =>
    rw [hfile, Option.getD_some] at htext
    rw [removeFirstLine_of_works hd hfile, htext, lines_unlines _ h.oneLine, List.tail_cons]
    refine ⟨rfl, ?_, fun x hx => h.oneLine x (List.mem_cons_of_mem _ hx)⟩
    show (Function.update files filePath _ filePath).getD [] = _
    rw [Function.update_self, Option.getD_some]

theorem exampleMain_of_works {filePath : Path} (sdcard : SDCardFilesystem) {files : Files Path} {c : ExampleCall}
    (hc : c.Works) {ls : List Bytes} (h : QueueFile filePath files ls) :
    (exampleMain filePath (sdcard, files) c).1 =
        report ((ls ++ exampleLines).headD []) ((ls ++ exampleLines).tail.headD []) ∧
      QueueFile filePath (exampleMain filePath (sdcard, files) c).2.2 (ls ++ exampleLines).tail := by
  have hmount : (sdcard.mount c.ret c.card).1 = true := by
    unfold mount
    rw [hc.mounts]
    rfl
  obtain ⟨hok₁, h₁⟩ := h.appendLine (hc.device 0) (exampleLines_oneLine (ascii "First line") (by decide))
  obtain ⟨hok₂, h₂⟩ := h₁.appendLine (hc.device 1) (exampleLines_oneLine (ascii "Second line") (by decide))
  obtain ⟨hok₃, h₃⟩ := h₂.appendLine (hc.device 2) (exampleLines_oneLine (ascii "Third line") (by decide))
  rw [List.append_assoc, List.append_assoc] at h₃
  have hread := h₃.readFirstLine (hc.device 3)
  obtain ⟨l, rest, hcons⟩ := List.exists_cons_of_ne_nil (show ls ++ exampleLines ≠ [] by simp [exampleLines])
  have h₃' : QueueFile filePath _ (l :: rest) := hcons ▸ h₃
  obtain ⟨hremoved, h₄⟩ := h₃'.removeFirstLine (hc.device 4)
  have hread' := h₄.readFirstLine (hc.device 5)
  rw [hcons, List.tail_cons]
  unfold exampleMain
  dsimp only
  rw [if_pos hmount, hok₁, hok₂, hok₃, hread, hremoved, hread']
  refine ⟨?_, h₄⟩
  show _ = report l (rest.headD [])
  rw [show ls ++ ([ascii "First line"] ++ ([ascii "Second line"] ++ [ascii "Third line"])) = l :: rest from hcons]
  rfl

/-! ## Call after call -/

/-- All lines that the file has had after `n` calls, when it held `ls` at first. -/
def linesWritten (ls : List Bytes) (n : Nat) : List Bytes := ls ++ (List.replicate n exampleLines).flatten

theorem linesWritten_succ (ls : List Bytes) (n : Nat) :
    linesWritten ls (n + 1) = (ls ++ exampleLines) ++ (List.replicate n exampleLines).flatten := by
  rw [linesWritten, List.replicate_succ, List.flatten_cons, List.append_assoc]

theorem length_linesWritten (ls : List Bytes) (n : Nat) : (linesWritten ls n).length = ls.length + 3 * n := by
  have hall : ((List.replicate n exampleLines).flatten).length = 3 * n := by
    rw [List.length_flatten, List.map_replicate, List.sum_replicate_nat, show exampleLines.length = 3 from rfl,
      Nat.mul_comm]
  rw [linesWritten, List.length_append, hall]

/-- **The example reads on in its own lines.** Called again and again on a working card, with any lines in the file at
first, the example reports in its `k`-th call the `k`-th and the next of all lines that were ever in the file, up to
their first NUL, and as failures where they are empty; and the file keeps all lines but one for each call, so it grows by
two lines a call. -/
theorem exampleMain_repeated (filePath : Path) (sdcard : SDCardFilesystem) (files : Files Path)
    (calls : List ExampleCall) (hcalls : ∀ c ∈ calls, c.Works) (ls : List Bytes) (h : QueueFile filePath files ls) :
    let text := linesWritten ls calls.length
    let run := respond (exampleMain filePath) (sdcard, files) calls
    run.1 = (List.range calls.length).map (fun k => report (text.getD k []) (text.getD (k + 1) [])) ∧
      (run.2.2 filePath).getD [] = unlines newline (text.drop calls.length) ∧
      (text.drop calls.length).length = ls.length + 2 * calls.length := by
  intro text run
  have hlen : (text.drop calls.length).length = ls.length + 2 * calls.length := by
    rw [List.length_drop, length_linesWritten]
    omega
  suffices hrun : run.1 = (List.range calls.length).map (fun k => report (text.getD k []) (text.getD (k + 1) [])) ∧
      QueueFile filePath run.2.2 (text.drop calls.length) from ⟨hrun.1, hrun.2.text, hlen⟩
  clear hlen
  induction calls generalizing sdcard files ls with
  | nil =>
    refine ⟨rfl, ?_⟩
    have htext : text.drop 0 = ls := List.append_nil ls
    exact htext.symm ▸ h
  | cons c calls ih =>
    rw [List.forall_mem_cons] at hcalls
    obtain ⟨hlogs, hnext⟩ := exampleMain_of_works sdcard hcalls.1 h
    obtain ⟨l, rest, hcons⟩ := List.exists_cons_of_ne_nil (show ls ++ exampleLines ≠ [] by simp [exampleLines])
    rw [hcons, List.tail_cons] at hnext hlogs
    have htext : text = l :: linesWritten rest calls.length := by
      show linesWritten ls (calls.length + 1) = _
      rw [linesWritten_succ, hcons]
      rfl
    obtain ⟨hmore, hend⟩ := ih (exampleMain filePath (sdcard, files) c).2.1
      (exampleMain filePath (sdcard, files) c).2.2 hcalls.2 rest hnext
    have hrun : run = ((exampleMain filePath (sdcard, files) c).1 ::
        (respond (exampleMain filePath) (exampleMain filePath (sdcard, files) c).2 calls).1,
        (respond (exampleMain filePath) (exampleMain filePath (sdcard, files) c).2 calls).2) := respond_cons ..
    rw [hrun, htext, List.length_cons, List.range_succ_eq_map, List.map_cons, List.map_map, hlogs]
    refine ⟨?_, hend⟩
    have hsecond : rest.headD [] = (linesWritten rest calls.length).getD 0 [] := by
      cases rest with
      | nil =>
        have hlen := congrArg List.length hcons
        rw [List.length_append, show exampleLines.length = 3 from rfl] at hlen
        simp at hlen
      | cons next rest => rfl
    rw [hmore, hsecond]
    rfl

/-- Two calls on a file with one line, which has a NUL in it. -/
theorem exampleMain_repeated_twice :
    let c : ExampleCall := ⟨ESP_OK, 0, fun _ => Device.reliable 0⟩
    (respond (exampleMain (0 : Nat)) (construct, fun _ => some [97, 0, 98, 10]) [c, c]).1 =
      [[.firstLine (ascii "a"), .firstLineRemoved, .newFirstLine (ascii "First line")],
        [.firstLine (ascii "First line"), .firstLineRemoved, .newFirstLine (ascii "Second line")]] := by
  intro c
  have hc : c.Works := ⟨rfl, fun _ => Device.works_reliable 0⟩
  have hfile : QueueFile (0 : Nat) (fun _ => some [97, 0, 98, 10]) [[97, 0, 98]] := ⟨by decide, by decide⟩
  rw [(exampleMain_repeated 0 construct (fun _ => some [97, 0, 98, 10]) [c, c] (by simp [hc]) [[97, 0, 98]] hfile).1]
  decide

end MultisensorStation.FileSystem
