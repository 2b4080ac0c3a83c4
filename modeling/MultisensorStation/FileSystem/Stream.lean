import MultisensorStation.Base.Bytes
import MultisensorStation.Base.Lines

/-!
# File streams

`std::ifstream` with `std::getline`, and `std::ofstream` with `operator<<` and `close`, as far as
`SDCardFilesystem` uses them.

* `IFStream` : the unread bytes and the state bits; `getline` follows the standard in which bits it sets on a line
  with its `'\n'`, on a last line without one, at the end of the file and on a stream that is no longer good;
* `getlines` : the loop `while (std::getline(file, line)) lines.push_back(line)`;
* `OFStream` : the bytes on the card, the inserted bytes that are not there yet, and whether the stream has failed;
  a `Transfer` says how many bytes an insertion or `close` moves to the card and whether it fails;
* a failed write leaves the buffer as it was, and `close` writes it again (`content_close_insertLine`); when it takes
  none of it then, only first bytes of the inserted text are on the card (`Towards`).
-/

namespace MultisensorStation.FileSystem
open MultisensorStation.Base

/-- `'\n'` -/
def newline : UInt8 := 10

/-! ## The requests to a device, from the `n`-th on -/

section Requests
variable (error : Nat → Bool) {n m : Nat}

theorem error_succ_of_ok (h : ∀ k < m + 1, error (n + k) = false) :
    error n = false ∧ ∀ k < m, error (n + 1 + k) = false := by
  constructor
  · exact h 0 (Nat.succ_pos m)
  · intro k hk
    rw [Nat.add_right_comm]
    exact h (k + 1) (Nat.succ_lt_succ hk)

/-- An error that is not at the first request comes later. -/
theorem exists_error_succ (h0 : error n = false) (h : ∃ k < m + 1, error (n + k) = true) :
    ∃ k < m, error (n + 1 + k) = true := by
  obtain ⟨k, hk, hek⟩ := h
  cases k with
  | zero =>
    rw [Nat.add_zero, h0] at hek
    cases hek
  | succ k =>
    refine ⟨k, Nat.lt_of_succ_lt_succ hk, ?_⟩
    rwa [Nat.add_right_comm]

end Requests

/-! ## Reading -/

structure IFStream where
  rest : Bytes
  eofbit : Bool
  failbit : Bool
  badbit : Bool
  deriving DecidableEq

namespace IFStream

def ofContent (content : Bytes) : IFStream := ⟨content, false, false, false⟩

def eof (f : IFStream) : Bool := f.eofbit
def fail (f : IFStream) : Bool := f.failbit || f.badbit
def good (f : IFStream) : Bool := !(f.eofbit || f.failbit || f.badbit)

/-- `std::getline(file, line)`; `error` tells that the device fails while the line is read. -/
def getline (error : Bool) (f : IFStream) (line : Bytes) : IFStream × Bytes :=
  if !f.good then ({ f with failbit := true }, line)
  else if error then ({ f with badbit := true }, [])
  else if newline ∈ f.rest then ({ f with rest := afterFirst newline f.rest }, firstLine newline f.rest)
  else ({ f with rest := [], eofbit := true, failbit := f.rest.isEmpty }, f.rest)

/-- A line that was read used up some of the file. -/
theorem length_rest_getline_lt (error : Bool) (f : IFStream) (line : Bytes)
    (h : (f.getline error line).1.fail = false) : (f.getline error line).1.rest.length < f.rest.length := by
  unfold getline at h ⊢
  split at h
  · simp [fail] at h
  · split at h
    · simp [fail] at h
    · split at h
      · next hgood herr hmem =>
        rw [if_neg hgood, if_neg herr, if_pos hmem]
        exact length_afterFirst_lt _ hmem
      · next hgood herr hmem =>
        rw [if_neg hgood, if_neg herr, if_neg hmem]
        simp only [fail, Bool.or_eq_false_iff, List.isEmpty_eq_false_iff] at h
        exact List.length_pos_iff.mpr h.1

/-- `while (std::getline(file, line)) lines.push_back(line);` from the `n`-th call of `getline` on. -/
def getlines (error : Nat → Bool) (n : Nat) (f : IFStream) (line : Bytes) (lines : List Bytes) :
    IFStream × List Bytes :=
  if _h : (f.getline (error n) line).1.fail = false then
    getlines error (n + 1) (f.getline (error n) line).1 (f.getline (error n) line).2
      (lines ++ [(f.getline (error n) line).2])
  else ((f.getline (error n) line).1, lines)
termination_by f.rest.length
decreasing_by exact length_rest_getline_lt _ _ _ _h

/-- How often reading `c` line by line to its end asks the device: once for each line and, if the last line has
its `'\n'`, once more to find the end. -/
def deviceReads (c : Bytes) : Nat := (lines newline c).length + if Terminated newline c then 1 else 0

theorem deviceReads_of_mem {c : Bytes} (hc : newline ∈ c) :
    deviceReads c = deviceReads (afterFirst newline c) + 1 := by
  unfold deviceReads
  have hterm : Terminated newline c ↔ Terminated newline (afterFirst newline c) := by
    conv_lhs => rw [eq_firstLine_append c hc]
    exact terminated_append_sep _ _
  simp only [hterm, lines_of_mem c hc, List.length_cons]
  omega

theorem deviceReads_of_not_mem {c : Bytes} (hc : newline ∉ c) : deviceReads c = 1 := by
  unfold deviceReads
  cases c with
  | nil => rfl
  | cons a c =>
    rw [lines_of_not_mem _ hc (List.cons_ne_nil _ _), if_neg]
    · rfl
    · rintro (h | h)
      · cases h
      · exact hc (List.mem_of_getLast? h)

/-- A stream that is no longer good ends the loop. -/
theorem getlines_of_not_good {error : Nat → Bool} {n : Nat} {f : IFStream} (hf : f.good = false) (line : Bytes)
    (ls : List Bytes) : f.getlines error n line ls = ({ f with failbit := true }, ls) := by
  unfold getlines getline
  rw [hf]
  simp [fail]

theorem getline_ofContent (c line : Bytes) :
    (ofContent c).getline false line =
      if newline ∈ c then (ofContent (afterFirst newline c), firstLine newline c)
      else (⟨[], true, c.isEmpty, false⟩, c) := rfl

theorem getline_ofContent_error (c line : Bytes) :
    (ofContent c).getline true line = (⟨c, false, false, true⟩, []) := rfl

/-- Without a device error the loop collects all lines and stops at the end of the file. -/
theorem getlines_of_ok (error : Nat → Bool) (c : Bytes) :
    ∀ (n : Nat) (line : Bytes) (ls : List Bytes), (∀ k < deviceReads c, error (n + k) = false) →
      (ofContent c).getlines error n line ls = (⟨[], true, true, false⟩, ls ++ lines newline c) := by
  induction hlen : c.length using Nat.strongRecOn generalizing c with
  | _ m ih =>
    intro n line ls herr
    by_cases hc : newline ∈ c
    · rw [deviceReads_of_mem hc] at herr
      obtain ⟨herr0, hrest⟩ := error_succ_of_ok error herr
      rw [getlines, herr0, getline_ofContent, if_pos hc]
      rw [dif_pos (show (ofContent (afterFirst newline c), firstLine newline c).1.fail = false from rfl)]
      rw [ih _ (hlen ▸ length_afterFirst_lt c hc) _ rfl (n + 1) _ _ hrest]
      rw [lines_of_mem c hc, List.append_assoc, List.singleton_append]
    · rw [deviceReads_of_not_mem hc] at herr
      have herr0 : error n = false := herr 0 Nat.zero_lt_one
      rw [getlines, herr0, getline_ofContent, if_neg hc]
      cases c with
      | nil =>
        rw [dif_neg (by simp [fail])]
        simp
      | cons a c =>
        rw [dif_pos (by simp [fail]), getlines_of_not_good (by simp [good])]
        rw [lines_of_not_mem _ hc (List.cons_ne_nil _ _)]

/-- A device error ends the loop with `badbit` set and `eofbit` clear. -/
theorem getlines_of_error (error : Nat → Bool) (c : Bytes) :
    ∀ (n : Nat) (line : Bytes) (ls : List Bytes), (∃ k < deviceReads c, error (n + k) = true) →
      ((ofContent c).getlines error n line ls).1.fail = true ∧
        ((ofContent c).getlines error n line ls).1.eof = false := by
  induction hlen : c.length using Nat.strongRecOn generalizing c with
  | _ m ih =>
    intro n line ls herr
    cases herr0 : error n with
    | true =>
      rw [getlines, herr0, getline_ofContent_error, dif_neg (by simp [fail])]
      exact ⟨rfl, rfl⟩
    | false =>
      by_cases hc : newline ∈ c
      · rw [deviceReads_of_mem hc] at herr
        rw [getlines, herr0, getline_ofContent, if_pos hc]
        rw [dif_pos (show (ofContent (afterFirst newline c), firstLine newline c).1.fail = false from rfl)]
        exact ih _ (hlen ▸ length_afterFirst_lt c hc) _ rfl (n + 1) _ _ (exists_error_succ error herr0 herr)
      · rw [deviceReads_of_not_mem hc] at herr
        obtain ⟨k, hk, -⟩ := exists_error_succ error herr0 herr
        exact absurd hk (Nat.not_lt_zero k)

/-- `std::getline(file, line)` once, to skip a line, and then the loop. -/
def skipThenGetlines (error : Nat → Bool) (f : IFStream) : IFStream × List Bytes :=
  getlines error 1 (f.getline (error 0) []).1 (f.getline (error 0) []).2 []

theorem skipThenGetlines_of_ok (error : Nat → Bool) (c : Bytes) (herr : ∀ k < deviceReads c, error k = false) :
    skipThenGetlines error (ofContent c) = (⟨[], true, true, false⟩, (lines newline c).tail) := by
  unfold skipThenGetlines
  by_cases hc : newline ∈ c
  · obtain ⟨herr0, hrest⟩ : error 0 = false ∧ ∀ k < deviceReads (afterFirst newline c), error (0 + 1 + k) = false := by
      apply error_succ_of_ok
      simpa only [deviceReads_of_mem hc, Nat.zero_add] using herr
    rw [herr0, getline_ofContent, if_pos hc]
    rw [getlines_of_ok error _ 1 _ _ hrest]
    rw [lines_of_mem c hc, List.nil_append, List.tail_cons]
  · rw [deviceReads_of_not_mem hc] at herr
    rw [herr 0 Nat.zero_lt_one, getline_ofContent, if_neg hc, getlines_of_not_good (by simp [good])]
    cases c with
    | nil => rfl
    | cons a c => rw [lines_of_not_mem _ hc (List.cons_ne_nil _ _), List.tail_cons]

theorem skipThenGetlines_of_error (error : Nat → Bool) (c : Bytes) (herr : ∃ k < deviceReads c, error k = true) :
    (skipThenGetlines error (ofContent c)).1.fail = true ∧ (skipThenGetlines error (ofContent c)).1.eof = false := by
  unfold skipThenGetlines
  have hfrom : ∃ k < deviceReads c, error (0 + k) = true := by simpa only [Nat.zero_add] using herr
  cases herr0 : error 0 with
  | true =>
    rw [getline_ofContent_error, getlines_of_not_good (by simp [good])]
    exact ⟨rfl, rfl⟩
  | false =>
    by_cases hc : newline ∈ c
    · rw [deviceReads_of_mem hc] at hfrom
      rw [getline_ofContent, if_pos hc]
      exact getlines_of_error error _ 1 _ _ (exists_error_succ error herr0 hfrom)
    · rw [deviceReads_of_not_mem hc] at hfrom
      obtain ⟨k, hk, -⟩ := exists_error_succ error herr0 hfrom
      exact absurd hk (Nat.not_lt_zero k)

end IFStream

/-! ## Writing -/

/-- What the device does with the bytes it is offered. -/
structure Transfer where
  taken : Nat
  fails : Bool
  deriving DecidableEq

structure OFStream where
  /-- on the card -/
  content : Bytes
  /-- inserted, not on the card yet -/
  pending : Bytes
  /-- `failbit` or `badbit` -/
  failed : Bool
  deriving DecidableEq

namespace OFStream

/-- Opened on a file that holds `content`. -/
def ofContent (content : Bytes) : OFStream := ⟨content, [], false⟩

def fail (f : OFStream) : Bool := f.failed

/-- `file << data`; some of the bytes may stay in the buffer. -/
def insert (t : Transfer) (data : Bytes) (f : OFStream) : OFStream :=
  if f.failed then f
  -- the put area is not moved on: what of it is on the card now is still in the buffer
  else if t.fails then ⟨f.content ++ (f.pending ++ data).take t.taken, f.pending, true⟩
  else ⟨f.content ++ (f.pending ++ data).take t.taken, (f.pending ++ data).drop t.taken, false⟩

/-- `file.close()` flushes the buffer; a failed flush sets `failbit`. -/
def close (t : Transfer) (f : OFStream) : OFStream :=
  if t.fails then ⟨f.content ++ f.pending.take t.taken, [], true⟩ else ⟨f.content ++ f.pending, [], f.failed⟩

/-- Everything inserted so far, behind what the file held, as long as no insertion has failed. -/
def accepted (f : OFStream) : Bytes := f.content ++ f.pending

@[simp] theorem accepted_ofContent (c : Bytes) : (ofContent c).accepted = c := List.append_nil c

theorem failed_insert (t : Transfer) (data : Bytes) (f : OFStream) :
    (f.insert t data).failed = (f.failed || t.fails) := by
  unfold insert
  cases hf : f.failed with
  | true => rw [if_pos rfl, hf, Bool.true_or]
  | false =>
    rw [if_neg Bool.false_ne_true]
    cases ht : t.fails <;> rfl

theorem accepted_insert {t : Transfer} {data : Bytes} {f : OFStream} (h : (f.insert t data).failed = false) :
    (f.insert t data).accepted = f.accepted ++ data := by
  rw [failed_insert, Bool.or_eq_false_iff] at h
  unfold insert accepted
  rw [if_neg (by simp [h.1]), if_neg (by simp [h.2])]
  show f.content ++ (f.pending ++ data).take t.taken ++ (f.pending ++ data).drop t.taken = _
  rw [List.append_assoc, List.take_append_drop, List.append_assoc]

/-- `file << line << "\n"` -/
def insertLine (t t' : Transfer) (line : Bytes) (f : OFStream) : OFStream := (f.insert t line).insert t' [newline]

theorem failed_insertLine (t t' : Transfer) (line : Bytes) (f : OFStream) :
    (f.insertLine t t' line).failed = (f.failed || t.fails || t'.fails) := by
  unfold insertLine
  rw [failed_insert, failed_insert]

theorem accepted_insertLine {t t' : Transfer} {line : Bytes} {f : OFStream}
    (h : (f.insertLine t t' line).failed = false) :
    (f.insertLine t t' line).accepted = f.accepted ++ (line ++ [newline]) := by
  have hfirst : (f.insert t line).failed = false := by
    rw [failed_insertLine, Bool.or_eq_false_iff] at h
    rw [failed_insert]
    exact h.1
  unfold insertLine at h ⊢
  rw [accepted_insert h, accepted_insert hfirst, List.append_assoc]

theorem content_close_of_ok {t : Transfer} {f : OFStream} (ht : t.fails = false) :
    (f.close t).content = f.accepted := by
  unfold close accepted
  rw [if_neg (by simp [ht])]

theorem prefix_content_close (t : Transfer) (f : OFStream) : (f.close t).content <+: f.accepted := by
  unfold close accepted
  split
  · exact (List.prefix_append_right_inj _).mpr (List.take_prefix _ _)
  · exact List.prefix_refl _

theorem prefix_content_insert (t : Transfer) (data : Bytes) (f : OFStream) : f.content <+: (f.insert t data).content := by
  unfold insert
  split_ifs
  · exact List.prefix_rfl
  · exact List.prefix_append _ _
  · exact List.prefix_append _ _

theorem prefix_content_insertLine (t t' : Transfer) (line : Bytes) (f : OFStream) :
    f.content <+: (f.insertLine t t' line).content :=
  (prefix_content_insert t line f).trans (prefix_content_insert t' [newline] _)

theorem content_prefix_close (t : Transfer) (f : OFStream) : f.content <+: (f.close t).content := by
  unfold close
  split_ifs <;> exact List.prefix_append _ _

/-- A failed flush is harmless when the buffer went through before it failed. -/
theorem content_close_eq_iff (t : Transfer) (f : OFStream) :
    (f.close t).content = f.accepted ↔ ¬ (t.fails = true ∧ t.taken < f.pending.length) := by
  unfold close accepted
  by_cases ht : t.fails = true
  · rw [if_pos ht, List.append_cancel_left_eq, List.take_eq_self_iff]
    simp [ht]
  · rw [if_neg ht]
    simp [ht]

/-! ### Writes that fail -/

/-- Only first bytes of `text` are on the card, and what is in the buffer of a good stream follows them in `text`. -/
structure Towards (text : Bytes) (f : OFStream) : Prop where
  content : f.content <+: text
  accepted : f.failed = false → f.accepted <+: text

theorem towards_ofContent {c text : Bytes} (h : c <+: text) : Towards text (ofContent c) :=
  ⟨h, fun _ => by rwa [accepted_ofContent]⟩

theorem Towards.insert {text data : Bytes} {f : OFStream} (h : Towards text f) (t : Transfer)
    (hdata : f.failed = false → f.accepted ++ data <+: text) : Towards text (f.insert t data) := by
  refine ⟨?_, fun hok => ?_⟩
  · have hmoved : f.failed = false → f.content ++ (f.pending ++ data).take t.taken <+: text := by
      intro hf
      have hall := hdata hf
      rw [OFStream.accepted, List.append_assoc] at hall
      exact ((List.prefix_append_right_inj _).mpr (List.take_prefix _ _)).trans hall
    unfold OFStream.insert
    split_ifs with hf
    · exact h.content
    · exact hmoved (by simpa using hf)
    · exact hmoved (by simpa using hf)
  · rw [accepted_insert hok]
    rw [failed_insert, Bool.or_eq_false_iff] at hok
    exact hdata hok.1

theorem Towards.insertLine {text line : Bytes} {f : OFStream} (h : Towards text f) (t t' : Transfer)
    (hline : f.failed = false → f.accepted ++ (line ++ [newline]) <+: text) :
    Towards text (f.insertLine t t' line) := by
  have hfirst : Towards text (f.insert t line) := by
    apply h.insert
    intro hf
    have hall := hline hf
    rw [← List.append_assoc] at hall
    exact (List.prefix_append _ _).trans hall
  apply hfirst.insert
  intro hok
  rw [accepted_insert hok, List.append_assoc]
  rw [failed_insert, Bool.or_eq_false_iff] at hok
  exact hline hok.1

/-- A `close` that takes nothing of the buffer after a failure. -/
theorem Towards.close {text : Bytes} {f : OFStream} (h : Towards text f) {t : Transfer}
    (hlasts : f.failed = true → t.fails = true ∧ t.taken = 0) : (f.close t).content <+: text := by
  cases hf : f.failed with
  | true =>
    obtain ⟨hfails, htaken⟩ := hlasts hf
    unfold OFStream.close
    rw [if_pos hfails, htaken, List.take_zero, List.append_nil]
    exact h.content
  | false => exact (prefix_content_close t f).trans (h.accepted hf)

/-- What `file << line << "\n"` and `close` add to a file that holds `c`: first bytes of the line, and the buffer once
more when the write of the `'\n'` failed and `close` does not. -/
theorem content_close_insertLine (t t' tc : Transfer) (line c : Bytes) :
    ∃ first again, (((ofContent c).insertLine t t' line).close tc).content = c ++ (first ++ again) ∧
      first <+: line ++ [newline] ∧ again <+: line.drop t.taken ∧
      (again ≠ [] → t'.fails = true ∧ ¬ (tc.fails = true ∧ tc.taken = 0)) := by
  cases ht : t.fails with
  | true =>
    -- the buffer was empty, and the `'\n'` is not tried
    refine ⟨line.take t.taken, [], ?_, (List.take_prefix _ _).trans (List.prefix_append _ _), List.nil_prefix, by simp⟩
    have hfirst : (ofContent c).insertLine t t' line = ⟨c ++ line.take t.taken, [], true⟩ := by
      simp [insertLine, insert, ofContent, ht]
    rw [hfirst, close, List.take_nil, List.append_nil, List.append_nil, ite_id]
  | false =>
    have hfirst : (ofContent c).insert t line = ⟨c ++ line.take t.taken, line.drop t.taken, false⟩ := by
      simp [insert, ofContent, ht]
    cases ht' : t'.fails with
    | true =>
      have hsecond : (ofContent c).insertLine t t' line =
          ⟨c ++ line.take t.taken ++ (line.drop t.taken ++ [newline]).take t'.taken, line.drop t.taken, true⟩ := by
        rw [insertLine, hfirst, insert, if_neg Bool.false_ne_true, if_pos ht']
      have hpre : line.take t.taken ++ (line.drop t.taken ++ [newline]).take t'.taken <+: line ++ [newline] := by
        conv_rhs => rw [← List.take_append_drop t.taken line, List.append_assoc]
        exact (List.prefix_append_right_inj _).mpr (List.take_prefix _ _)
      rw [hsecond]
      unfold close
      split_ifs with hc
      · refine ⟨_, (line.drop t.taken).take tc.taken, by simp only [List.append_assoc], hpre, List.take_prefix _ _, ?_⟩
        refine fun hne => ⟨rfl, fun hnone => hne ?_⟩
        rw [hnone.2, List.take_zero]
      · exact ⟨_, line.drop t.taken, by simp only [List.append_assoc], hpre, List.prefix_rfl,
          fun _ => ⟨rfl, fun hnone => hc hnone.1⟩⟩
    | false =>
      have hok : ((ofContent c).insertLine t t' line).failed = false := by
        rw [failed_insertLine, ht, ht']
        rfl
      have hall := prefix_content_close tc ((ofContent c).insertLine t t' line)
      rw [accepted_insertLine hok, accepted_ofContent] at hall
      obtain ⟨first, hfirst⟩ := (prefix_content_insertLine t t' line (ofContent c)).trans (content_prefix_close tc _)
      rw [← hfirst] at hall ⊢
      exact ⟨first, [], by rw [List.append_nil]; rfl, (List.prefix_append_right_inj c).mp hall, List.nil_prefix, by simp⟩

/-! ### Several insertions -/

/-- `file << piece` for each piece, from the `n`-th insertion on. -/
def insertAll (insert : Nat → Transfer) : Nat → List Bytes → OFStream → OFStream
  | _, [], f => f
  | n, piece :: pieces, f => insertAll insert (n + 1) pieces (f.insert (insert n) piece)

/-- How many bytes stay in the buffer, which held `left` bytes before. -/
def bytesLeft (insert : Nat → Transfer) : Nat → Nat → List Bytes → Nat
  | _, left, [] => left
  | n, left, piece :: pieces => bytesLeft insert (n + 1) (left + piece.length - (insert n).taken) pieces

theorem length_pending_insert {t : Transfer} {data : Bytes} {f : OFStream} (h : (f.insert t data).failed = false) :
    (f.insert t data).pending.length = f.pending.length + data.length - t.taken := by
  rw [failed_insert, Bool.or_eq_false_iff] at h
  unfold insert
  rw [if_neg (by simp [h.1]), if_neg (by simp [h.2]), List.length_drop, List.length_append]

structure InsertedAll (insert : Nat → Transfer) (n : Nat) (pieces : List Bytes) (f f' : OFStream) : Prop where
  failed : f'.failed = false
  accepted : f'.accepted = f.accepted ++ pieces.flatten
  left : f'.pending.length = bytesLeft insert n f.pending.length pieces

theorem insertAll_of_ok (insert : Nat → Transfer) (pieces : List Bytes) :
    ∀ (n : Nat) (f : OFStream), f.failed = false → (∀ k < pieces.length, (insert (n + k)).fails = false) →
      InsertedAll insert n pieces f (insertAll insert n pieces f) := by
  induction pieces with
  | nil =>
    intro n f hf _
    exact ⟨hf, (List.append_nil _).symm, rfl⟩
  | cons piece pieces ih =>
    intro n f hf hok
    obtain ⟨hok0, hrest⟩ := error_succ_of_ok (fun k => (insert k).fails) hok
    have hfirst : (f.insert (insert n) piece).failed = false := by
      rw [failed_insert, hf, hok0]
      rfl
    have hall := ih (n + 1) _ hfirst hrest
    unfold insertAll
    constructor
    · exact hall.failed
    · rw [hall.accepted, accepted_insert hfirst, List.flatten_cons, List.append_assoc]
    · rw [hall.left, length_pending_insert hfirst]
      rfl

end OFStream

end MultisensorStation.FileSystem
