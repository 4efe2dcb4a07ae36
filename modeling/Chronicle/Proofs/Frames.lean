/- # Frames in calldata

A byte string stands at a position of the data if the data continues with it
there, whatever stands before and behind. The parts of a frame stand where the
frame says: a static part in the head, and a dynamic part in the tail at the
offset that the head holds for it. So a frame is read part by part, from any
place in the data.

Key definitions: `StandsAt`, `Part.Laid`.
Key theorems: `StandsAt.append_iff`, `Part.Laid.of_frame`, `Part.Laid.static`,
`Part.Laid.dynamic`.
-/
import Chronicle.Abi.Decode
import Chronicle.Abi.Encode
import Chronicle.Fault

namespace Chronicle

/-! ### Bytes at a position -/

/-- The data continues with `bs` at `position`. -/
def StandsAt (data : Bytes) (position : Nat) (bs : Bytes) : Prop := bs <+: data.drop position

namespace StandsAt

variable {data as bs : Bytes} {position : Nat}

theorem append_iff : StandsAt data position (as ++ bs) ↔
    StandsAt data position as ∧ StandsAt data (position + as.length) bs := by
  unfold StandsAt
  rw [← List.drop_drop]
  constructor
  · rintro ⟨rest, hrest⟩
    rw [← hrest, List.append_assoc]
    refine ⟨List.prefix_append _ _, ?_⟩
    rw [List.drop_left]
    exact List.prefix_append _ _
  · rintro ⟨⟨rest, hrest⟩, hbs⟩
    rw [← hrest] at hbs ⊢
    rw [List.drop_left] at hbs
    exact (List.prefix_append_right_inj as).2 hbs

/-- What stands in the data lies inside of it. -/
theorem add_length_le (h : StandsAt data position bs) (hne : bs ≠ []) :
    position + bs.length ≤ data.length := by
  have hle := h.length_le
  have hpos := List.length_pos_iff.2 hne
  rw [List.length_drop] at hle
  omega

theorem bytesAt_eq (h : StandsAt data position bs) {count : Nat} (hcount : bs.length = count) :
    bytesAt data position count = .ok bs := by
  subst hcount
  have htake := List.prefix_iff_eq_take.1 h
  rw [bytesAt, ← htake, if_pos rfl]

theorem wordAt_eq {n : Nat} (h : StandsAt data position (wordOf n)) (hn : n < capacity 256) :
    wordAt data position = .ok n := by
  have hread : bigEndian (wordOf n) = n := bigEndian_toBigEndian hn
  rw [wordAt, h.bytesAt_eq (length_wordOf n)]
  exact congrArg Except.ok hread

end StandsAt

/-! ### Parts of a frame -/

namespace Part

/-- The parts that are left of a frame: their heads from `position` on, and those that are dynamic
from `offset` on, counted from `start`. -/
structure Laid (data : Bytes) (start position offset : Nat) (parts : List Part) : Prop where
  head : StandsAt data position (Part.head offset parts)
  tail : StandsAt data (start + offset) (parts.flatMap rest)

namespace Laid

variable {data : Bytes} {start position offset : Nat} {part : Part} {parts : List Part}

/-- A frame lays out its parts. -/
theorem of_frame (h : StandsAt data position (frame parts)) :
    Laid data position position (headSizeOf parts) parts := by
  obtain ⟨hhead, htail⟩ := StandsAt.append_iff.1 h
  rw [length_head] at htail
  exact ⟨hhead, htail⟩

/-- A static part stands in the head. -/
theorem static (h : Laid data start position offset (part :: parts))
    (hstatic : part.dynamic = false) :
    StandsAt data position part.content ∧
      Laid data start (position + part.content.length) offset parts := by
  obtain ⟨hhead, htail⟩ := h
  simp only [Part.head, rest, hstatic, List.flatMap_cons, Bool.false_eq_true, if_false,
    List.length_nil, Nat.add_zero, List.nil_append] at hhead htail
  obtain ⟨hcontent, hrest⟩ := StandsAt.append_iff.1 hhead
  exact ⟨hcontent, hrest, htail⟩

/-- A dynamic part has its offset in the head and stands there in the tail. -/
theorem dynamic (h : Laid data start position offset (part :: parts))
    (hdynamic : part.dynamic = true) :
    StandsAt data position (wordOf offset) ∧ StandsAt data (start + offset) part.content ∧
      Laid data start (position + 32) (offset + part.content.length) parts := by
  obtain ⟨hhead, htail⟩ := h
  simp only [Part.head, rest, hdynamic, List.flatMap_cons, if_true] at hhead htail
  obtain ⟨hoffset, hrest⟩ := StandsAt.append_iff.1 hhead
  obtain ⟨hcontent, htail⟩ := StandsAt.append_iff.1 htail
  rw [length_wordOf] at hrest
  rw [Nat.add_assoc] at htail
  exact ⟨hoffset, hcontent, hrest, htail⟩

end Laid

end Part

end Chronicle
