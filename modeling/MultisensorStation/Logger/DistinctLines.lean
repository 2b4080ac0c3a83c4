import MultisensorStation.Base.Separator
import MultisensorStation.Logger.EventLogger

/-!
# Which events share a line

* `Readable` : ids whose end a reader of the line can find;
* `readLine` : the id and the state of a line; `readLine_fullLine` : of a whole line they are the event's;
* `line_eq_iff` : the events that share a line are those whose lines are cut off alike.
-/

namespace MultisensorStation.Logger
open MultisensorStation.Base

namespace EventLogger

/-- `" -> "` does not occur in the id, nor across its end. -/
structure Readable (id state : Bytes) : Prop where
  id_noNul : 0 ∉ id
  state_noNul : 0 ∉ state
  no_arrow : ¬ ascii " -> " <:+: id
  no_arrow_end : ¬ ascii " ->" <:+ id

/-- The id and the state behind the timestamp. -/
def readLine (l : Bytes) : Option (Bytes × Bytes) := splitFirst (ascii " -> ") (l.drop 30)

namespace Readable

variable {id state id₁ state₁ id₂ state₂ : Bytes}

/-- An arrow that begins inside the id ends inside it, or one space behind it. -/
theorem not_infix (h : Readable id state) : ¬ ascii " -> " <:+: id ++ (ascii " -> ").dropLast := by
  have hdrop : (ascii " -> ").dropLast = [32, 45, 62] := by decide
  have harrow : ascii " -> " = [32, 45, 62] ++ [32] := by decide
  have hend : ascii " ->" = [32, 45, 62] := by decide
  rw [hdrop, List.append_cons, List.append_cons _ 45, harrow]
  simp only [List.infix_concat_iff, concat_suffix_concat]
  rintro (⟨h62, -⟩ | ⟨h45, -⟩ | ⟨-, hid⟩ | hid)
  · exact absurd h62 (by decide)
  · exact absurd h45 (by decide)
  · exact h.no_arrow_end (hend ▸ hid)
  · exact h.no_arrow (harrow ▸ hid)

/-- **A whole line is read back.** -/
theorem readLine_fullLine (h : Readable id state) : readLine (fullLine id state) = some (id, state) := by
  have hpre : (ascii "[<timestamp_not_implemented>] ").length = 30 := by decide
  have hparts : fullLine id state = ascii "[<timestamp_not_implemented>] " ++ (id ++ (ascii " -> " ++ state)) := by
    unfold fullLine
    rw [List.append_assoc, List.append_assoc]
  rw [readLine, hparts, ← hpre, List.drop_left]
  exact splitFirst_append (by decide) state h.not_infix

theorem fullLine_injective (h₁ : Readable id₁ state₁) (h₂ : Readable id₂ state₂)
    (heq : fullLine id₁ state₁ = fullLine id₂ state₂) : id₁ = id₂ ∧ state₁ = state₂ := by
  have hread := h₁.readLine_fullLine
  rw [heq, h₂.readLine_fullLine, Option.some.injEq, Prod.mk.injEq] at hread
  exact ⟨hread.1.symm, hread.2.symm⟩

theorem readLine_line (h : Readable id state) (hfits : 34 + id.length + state.length ≤ 63) :
    readLine (line id state) = some (id, state) := by
  rw [line_of_fits hfits h.id_noNul h.state_noNul]
  exact h.readLine_fullLine

end Readable

/-- The buffer has room for 33 bytes behind the timestamp. -/
theorem take_fullLine (id state : Bytes) : (fullLine id state).take 63 =
    ascii "[<timestamp_not_implemented>] " ++ (id ++ ascii " -> " ++ state).take 33 := by
  have hpre : (ascii "[<timestamp_not_implemented>] ").length = 30 := by decide
  unfold fullLine
  rw [List.append_assoc, List.append_assoc, List.take_append, hpre, List.take_of_length_le (by omega),
    ← List.append_assoc id]

/-- A line that is cut off is not one that is shorter. -/
theorem length_of_take_eq {a b : Bytes} (h : a.take 63 = b.take 63) (hne : a ≠ b) : 63 ≤ a.length ∧ 63 ≤ b.length := by
  have hlen := congrArg List.length h
  rw [List.length_take, List.length_take] at hlen
  by_contra hshort
  apply hne
  rwa [List.take_of_length_le (by omega), List.take_of_length_le (by omega)] at h

/-- **Which events share a line.** For all ids and states without NUL bytes and without `" -> "` in the id or across
its end: a line that fits into the buffer is read back, and two events share a line exactly when they are equal or both
lines are at least 63 bytes long and agree in these. -/
theorem line_eq_iff {id₁ state₁ id₂ state₂ : Bytes} (h₁ : Readable id₁ state₁) (h₂ : Readable id₂ state₂) :
    (34 + id₁.length + state₁.length ≤ 63 → readLine (line id₁ state₁) = some (id₁, state₁)) ∧
      (line id₁ state₁ = line id₂ state₂ ↔
        id₁ = id₂ ∧ state₁ = state₂ ∨
          63 ≤ 34 + id₁.length + state₁.length ∧ 63 ≤ 34 + id₂.length + state₂.length ∧
            (id₁ ++ ascii " -> " ++ state₁).take 33 = (id₂ ++ ascii " -> " ++ state₂).take 33) := by
  refine ⟨h₁.readLine_line, ?_⟩
  rw [line_eq_take h₁.id_noNul h₁.state_noNul, line_eq_take h₂.id_noNul h₂.state_noNul]
  constructor
  · intro heq
    by_cases hfull : fullLine id₁ state₁ = fullLine id₂ state₂
    · exact .inl (h₁.fullLine_injective h₂ hfull)
    · obtain ⟨hlen₁, hlen₂⟩ := length_of_take_eq heq hfull
      rw [length_fullLine] at hlen₁ hlen₂
      rw [take_fullLine, take_fullLine, List.append_right_inj] at heq
      exact .inr ⟨hlen₁, hlen₂, heq⟩
  · rintro (⟨rfl, rfl⟩ | ⟨-, -, heq⟩)
    · rfl
    · rw [take_fullLine, take_fullLine, heq]

/-- A line that the Wi-Fi manager logs. -/
theorem line_eq_iff_connected :
    readLine (line (ascii "WifiManager") (ascii "CONNECTED")) = some (ascii "WifiManager", ascii "CONNECTED") ∧
      line (ascii "WifiManager") (ascii "CONNECTED") ≠ line (ascii "MqttManager") (ascii "CONNECTED") := by
  have hwifi : Readable (ascii "WifiManager") (ascii "CONNECTED") :=
    ⟨by decide, by decide, by decide, by decide⟩
  have hmqtt : Readable (ascii "MqttManager") (ascii "CONNECTED") :=
    ⟨by decide, by decide, by decide, by decide⟩
  obtain ⟨hread, hshare⟩ := line_eq_iff hwifi hmqtt
  exact ⟨hread (by decide), fun h => absurd (hshare.mp h) (by decide)⟩

/-- Two states that are cut off alike, and an id with the beginning of an arrow at its end. -/
theorem lines_shared :
    (ascii "Update successful, restarting" ≠ ascii "Update successful, restarted" ∧
      line (ascii "OTA") (ascii "Update successful, restarting") =
        line (ascii "OTA") (ascii "Update successful, restarted")) ∧
    (ascii "a ->" ≠ ascii "a" ∧ ¬ ascii " -> " <:+: ascii "a ->" ∧
      line (ascii "a ->") (ascii "x") = line (ascii "a") (ascii "-> x")) := by
  decide

end EventLogger

end MultisensorStation.Logger
