/- # Sizes of encodings

A static value takes up the words of its type, and a dynamic one is not empty.
So each component takes up as much of a head as its type says, and the estimate
by which offsets are tested never exceeds the head.

Key theorems: `AbiType.slotsOf_le_wordsOf`, `AbiType.length_encode`,
`AbiType.headSize_component`, `AbiType.headSizeOf_encodeMembers`,
`AbiType.encode_ne_nil`.
-/
import Chronicle.Abi.Encode
import Chronicle.Proofs.ArgumentTypes

namespace Chronicle

namespace Part

theorem length_frame (parts : List Part) :
    (frame parts).length = headSizeOf parts + (parts.flatMap rest).length := by
  rw [frame, List.length_append, length_head]

theorem headSizeOf_of_forall {size : Nat} : ∀ {parts : List Part},
    (∀ part ∈ parts, part.headSize = size) → headSizeOf parts = parts.length * size
  | [], _ => by simp [headSizeOf]
  | part :: parts, h => by
    rw [headSizeOf, h part List.mem_cons_self,
      headSizeOf_of_forall fun p hp => h p (List.mem_cons_of_mem _ hp), List.length_cons,
      Nat.succ_mul, Nat.add_comm]

/-- A frame of static parts has no tail. -/
theorem flatMap_rest_of_static : ∀ {parts : List Part}, (∀ part ∈ parts, part.dynamic = false) →
    parts.flatMap rest = []
  | [], _ => rfl
  | part :: parts, h => by
    have hpart : part.rest = [] := by simp [rest, h part List.mem_cons_self]
    rw [List.flatMap_cons, hpart,
      flatMap_rest_of_static fun p hp => h p (List.mem_cons_of_mem _ hp)]
    rfl

end Part

namespace AbiType

/-! ### Words of a type -/

theorem words_of_isDynamic {t : AbiType} (h : t.isDynamic = true) : t.words = 1 := by
  cases t with
  | array item length => simp [words, show item.isDynamic = true from h]
  | tuple items => simp [words, show anyDynamic items = true from h]
  | _ => rfl

mutual

theorem words_pos : ∀ {t : AbiType}, t.Supported → 0 < t.words
  | .uint _, _ => Nat.one_pos
  | .int _, _ => Nat.one_pos
  | .ufixed _ _, h => False.elim h
  | .fixed _ _, h => False.elim h
  | .address, _ => Nat.one_pos
  | .bool, _ => Nat.one_pos
  | .fixedBytes _, _ => Nat.one_pos
  | .bytes, _ => Nat.one_pos
  | .string, _ => Nat.one_pos
  | .array item length, h => by
    have hitem := words_pos h.2
    rw [words]
    split
    · exact Nat.one_pos
    · exact Nat.mul_pos h.1 hitem
  | .sequence _, _ => Nat.one_pos
  | .tuple items, h => by
    have hitems := wordsOf_pos h.1 h.2
    rw [words]
    split
    · exact Nat.one_pos
    · exact hitems

theorem wordsOf_pos : ∀ {ts : List AbiType}, ts ≠ [] → AllSupported ts → 0 < wordsOf ts
  | [], hne, _ => absurd rfl hne
  | _ :: _, _, h => Nat.add_pos_left (words_pos h.1) _

end

/-- The slots that a component counts for are never more than its words. -/
theorem slots_le_words {t : AbiType} (h : t.Supported) : t.slots ≤ t.words := by
  cases t with
  | array item length =>
    have hitem := words_pos h.2
    rw [slots, words]
    split
    · exact Nat.le_refl 1
    · exact Nat.le_mul_of_pos_right length hitem
  | _ => exact words_pos h

theorem slotsOf_le_wordsOf : ∀ {ts : List AbiType}, AllSupported ts → slotsOf ts ≤ wordsOf ts
  | [], _ => Nat.le_refl 0
  | _ :: _, h => Nat.add_le_add (slots_le_words h.1) (slotsOf_le_wordsOf h.2)

/-! ### Lengths of encodings -/

/-- The encodings of the items of a list. -/
def encodeItems (item : AbiType) (vs : List Value) : List Part :=
  vs.map fun v => ⟨item.isDynamic, encode item v⟩

theorem paddedSize_of_le {size : Nat} (hpos : 0 < size) (hle : size ≤ 32) :
    paddedSize size = 32 := by
  unfold paddedSize
  omega

theorem dynamic_of_mem_encodeMembers : ∀ {ts : List AbiType} {vs : List Value},
    anyDynamic ts = false → ∀ part ∈ encodeMembers ts vs, part.dynamic = false
  | [], _, _, _, hpart => absurd hpart List.not_mem_nil
  | _ :: _, [], _, _, hpart => absurd hpart List.not_mem_nil
  | t :: ts, v :: vs, h, part, hpart => by
    obtain ⟨ht, hts⟩ := Bool.or_eq_false_iff.1 h
    rcases List.mem_cons.1 hpart with rfl | hpart
    · exact ht
    · exact dynamic_of_mem_encodeMembers hts part hpart

/-- A component takes up the words of its type in the head, if a static encoding does. -/
theorem headSize_of_length {t : AbiType} {v : Value}
    (h : t.isDynamic = false → (encode t v).length = 32 * t.words) :
    Part.headSize ⟨t.isDynamic, encode t v⟩ = 32 * t.words := by
  cases hdynamic : t.isDynamic with
  | true => simp [Part.headSize, words_of_isDynamic hdynamic]
  | false => simp [Part.headSize, h hdynamic]

theorem dynamic_of_mem_encodeItems {item : AbiType} {vs : List Value}
    (h : item.isDynamic = false) : ∀ part ∈ encodeItems item vs, part.dynamic = false := by
  intro part hpart
  obtain ⟨v, -, rfl⟩ := List.mem_map.1 hpart
  exact h

theorem headSizeOf_of_length {item : AbiType} {vs : List Value}
    (h : ∀ v ∈ vs, item.isDynamic = false → (encode item v).length = 32 * item.words) :
    Part.headSizeOf (encodeItems item vs) = vs.length * (32 * item.words) := by
  have hsize : ∀ part ∈ encodeItems item vs, part.headSize = 32 * item.words := by
    intro part hpart
    obtain ⟨v, hmem, rfl⟩ := List.mem_map.1 hpart
    exact headSize_of_length (h v hmem)
  rw [Part.headSizeOf_of_forall hsize, encodeItems, List.length_map]

mutual

/-- A static value takes up the words of its type. -/
theorem length_encode : ∀ {t : AbiType} {v : Value}, t.Supported → t.admits v = true →
    t.isDynamic = false → (encode t v).length = 32 * t.words
  | .uint _, .int _, _, _, _ => length_wordOf _
  | .int _, .int _, _, _, _ => length_wordOf _
  | .address, .text _, _, _, _ => length_wordOf _
  | .bool, .bool _, _, _, _ => length_wordOf _
  | .fixedBytes size, .bytes bs, h, hv, _ => by
    have hsize : bs.length = size := of_decide_eq_true hv
    rw [encode, length_padded, hsize, paddedSize_of_le h.1 h.2]
    rfl
  | .array item length, .list vs, h, hv, hstatic => by
    obtain ⟨hlength, hitems⟩ := Bool.and_eq_true_iff.1 hv
    have hitem : item.isDynamic = false := hstatic
    have hsize : Part.headSizeOf (encodeItems item vs) = vs.length * (32 * item.words) :=
      headSizeOf_of_length fun v hmem =>
        length_encode h.2 (List.all_eq_true.1 hitems v hmem)
    have hframe : encode (.array item length) (.list vs) = Part.frame (encodeItems item vs) := rfl
    rw [hframe, Part.length_frame, hsize,
      Part.flatMap_rest_of_static (dynamic_of_mem_encodeItems hitem), of_decide_eq_true hlength,
      words, hitem]
    simp [Nat.mul_left_comm]
  | .tuple items, .list vs, h, hv, hstatic => by
    have hitems : anyDynamic items = false := hstatic
    rw [encode, Part.length_frame, headSizeOf_encodeMembers h.2 hv,
      Part.flatMap_rest_of_static (dynamic_of_mem_encodeMembers hitems), words, hitems]
    rfl

/-- The head of a tuple takes up the words of its components. -/
theorem headSizeOf_encodeMembers : ∀ {ts : List AbiType} {vs : List Value}, AllSupported ts →
    allAdmit ts vs = true → Part.headSizeOf (encodeMembers ts vs) = 32 * wordsOf ts
  | [], [], _, _ => rfl
  | t :: ts, v :: vs, h, hv => by
    obtain ⟨hv, hvs⟩ := Bool.and_eq_true_iff.1 hv
    rw [encodeMembers, Part.headSizeOf, headSize_of_length (length_encode h.1 hv),
      headSizeOf_encodeMembers h.2 hvs, wordsOf, Nat.mul_add]

end

theorem headSize_component {t : AbiType} {v : Value} (h : t.Supported) (hv : t.admits v = true) :
    Part.headSize ⟨t.isDynamic, encode t v⟩ = 32 * t.words :=
  headSize_of_length (length_encode h hv)

/-- The head of a list takes up the words of its items. -/
theorem headSizeOf_encodeItems {item : AbiType} {vs : List Value} (h : item.Supported)
    (hvs : ∀ v ∈ vs, item.admits v = true) :
    Part.headSizeOf (encodeItems item vs) = vs.length * (32 * item.words) :=
  headSizeOf_of_length fun v hmem => length_encode h (hvs v hmem)

theorem wordOf_append_ne_nil (n : Nat) (bs : Bytes) : wordOf n ++ bs ≠ [] :=
  List.append_ne_nil_of_left_ne_nil (List.ne_nil_of_length_eq_add_one (length_wordOf n)) bs

theorem frame_ne_nil {parts : List Part} (h : 0 < Part.headSizeOf parts) :
    Part.frame parts ≠ [] := by
  refine List.ne_nil_of_length_pos ?_
  rw [Part.length_frame]
  exact Nat.add_pos_left h _

/-- The encoding of a value that belongs to its type is not empty. -/
theorem encode_ne_nil : ∀ {t : AbiType} {v : Value}, t.Supported → t.admits v = true →
    encode t v ≠ []
  | .uint _, .int _, _, _ => List.ne_nil_of_length_eq_add_one (length_wordOf _)
  | .int _, .int _, _, _ => List.ne_nil_of_length_eq_add_one (length_wordOf _)
  | .address, .text _, _, _ => List.ne_nil_of_length_eq_add_one (length_wordOf _)
  | .bool, .bool _, _, _ => List.ne_nil_of_length_eq_add_one (length_wordOf _)
  | .fixedBytes size, .bytes bs, h, hv => by
    refine List.ne_nil_of_length_pos ?_
    rw [length_encode h hv rfl]
    exact Nat.mul_pos (by decide) (words_pos h)
  | .bytes, .bytes _, _, _ => wordOf_append_ne_nil _ _
  | .string, .text _, _, _ => wordOf_append_ne_nil _ _
  | .array item length, .list vs, h, hv => by
    obtain ⟨hlength, hitems⟩ := Bool.and_eq_true_iff.1 hv
    show Part.frame (encodeItems item vs) ≠ []
    refine frame_ne_nil ?_
    rw [headSizeOf_encodeItems h.2 (List.all_eq_true.1 hitems), of_decide_eq_true hlength]
    exact Nat.mul_pos h.1 (Nat.mul_pos (by decide) (words_pos h.2))
  | .sequence _, .list _, _, _ => wordOf_append_ne_nil _ _
  | .tuple items, .list vs, h, hv => by
    refine frame_ne_nil ?_
    rw [headSizeOf_encodeMembers h.2 hv]
    exact Nat.mul_pos (by decide) (wordsOf_pos h.1 h.2)

end AbiType

end Chronicle
