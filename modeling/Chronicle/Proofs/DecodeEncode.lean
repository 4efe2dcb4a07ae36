/- # Decoding what was encoded

A value is read back wherever its encoding stands in the data. The offsets that
an encoder writes pass the test of the head: they lie behind it, since the
estimate of its length is never too high, and inside of the data, since the
encoding of a value is not empty.

Key theorems: `AbiType.decodeAt_encode`, `decodeArguments_encode`.
-/
import Chronicle.Proofs.EncodingSizes
import Chronicle.Proofs.Frames

namespace Chronicle

/-! ### Single words -/

theorem require_true {condition : Bool} (h : condition = true) : require condition = .ok () :=
  if_pos h

/-- A signed number is read back from its word. -/
theorem signedOf_emod {bits : Nat} (hpos : 0 < bits) (hle : bits ≤ 256) {n : Int}
    (hlow : -(capacity (bits - 1) : Int) ≤ n) (hhigh : n < capacity (bits - 1)) :
    signedOf bits (n % capacity 256).toNat = .ok n := by
  obtain ⟨k, hk⟩ : capacity bits ∣ capacity 256 := Nat.pow_dvd_pow 2 hle
  have hdouble := capacity_eq_double hpos
  have hcapacity : 0 < capacity bits := Nat.pow_pos Nat.two_pos
  have hfull := capacity_le hle
  rcases Int.lt_or_le n 0 with hneg | hnonneg
  · have hword : (n % capacity 256).toNat = (n + capacity 256).toNat := by
      rw [← Int.add_emod_right, Int.emod_eq_of_lt (by omega) (by omega)]
    have hmod : (n + capacity 256).toNat % capacity bits = (n + capacity bits).toNat := by
      have hsplit : (n + capacity 256).toNat =
          (n + capacity bits).toNat + (capacity 256 - capacity bits) := by omega
      have hrest : capacity 256 - capacity bits = capacity bits * (k - 1) := by
        rw [hk, Nat.mul_sub, Nat.mul_one]
      rw [hsplit, hrest, Nat.add_mul_mod_self_left, Nat.mod_eq_of_lt (by omega)]
    rw [hword, signedOf, hmod, if_neg (by omega), if_pos (by omega)]
    exact congrArg Except.ok (by omega)
  · have hword : (n % capacity 256).toNat = n.toNat := by
      rw [Int.emod_eq_of_lt hnonneg (by omega)]
    have hmod : n.toNat % capacity bits = n.toNat := Nat.mod_eq_of_lt (by omega)
    rw [hword, signedOf, hmod, if_pos (by omega), if_pos rfl]
    exact congrArg Except.ok (by omega)

section

variable {data : Bytes} {start stop position offset : Nat}

theorem take_padded (bs : Bytes) : (padded bs).take bs.length = bs := by
  rw [padded, List.take_left]

theorem all_drop_padded (bs : Bytes) : ((padded bs).drop bs.length).all (· == 0) = true := by
  rw [padded, List.drop_left, List.all_eq_true]
  intro b hb
  simp [(List.mem_replicate.1 hb).2]

/-- Padded bytes are read back after their length. -/
theorem paddedBytesAt_eq (hdata : data.length < capacity 63) {bs : Bytes}
    (h : StandsAt data position (wordOf bs.length ++ padded bs)) :
    paddedBytesAt data position = .ok bs := by
  obtain ⟨hword, hbytes⟩ := StandsAt.append_iff.1 h
  rw [length_wordOf] at hbytes
  have hlength : bs.length < capacity 63 := by
    rcases List.eq_nil_or_concat bs with rfl | ⟨front, b, rfl⟩
    · exact Nat.pow_pos Nat.two_pos
    · have hle := hbytes.add_length_le (by simp [padded])
      have hpadded := le_paddedSize (front.concat b).length
      rw [length_padded] at hle
      omega
  have hsmall : bs.length < capacity 256 := Nat.lt_of_lt_of_le hlength (capacity_le (by decide))
  rw [paddedBytesAt, bind_of_ok (hword.wordAt_eq hsmall),
    bind_of_ok (require_true (decide_eq_true hlength)),
    bind_of_ok (hbytes.bytesAt_eq (length_padded bs)), bind_of_ok (require_true (all_drop_padded bs)),
    take_padded]

/-! ### Offsets -/

section

variable {part : Part} {parts : List Part} {read : Nat → Except Flaw Value} {v : Value}

/-- An offset of the data fits into a word. -/
theorem offset_lt (hdata : data.length < capacity 63) {bs : Bytes} (hne : bs ≠ [])
    (h : StandsAt data (start + offset) bs) :
    start + offset < data.length ∧ offset < capacity 256 := by
  have hle := h.add_length_le hne
  have hpos := List.length_pos_iff.2 hne
  have hcapacity : capacity 63 ≤ capacity 256 := capacity_le (by decide)
  omega

/-- The offset of a dynamic part passes the test. -/
theorem checkOffset_laid (hdata : data.length < capacity 63)
    (h : Part.Laid data start position offset (part :: parts)) (hdynamic : part.dynamic = true)
    (hne : part.content ≠ []) (hstop : stop ≤ start + offset) :
    checkOffset data start stop position = .ok () := by
  obtain ⟨hword, hcontent, -⟩ := h.dynamic hdynamic
  obtain ⟨hinside, hsmall⟩ := offset_lt hdata hne hcontent
  rw [checkOffset, bind_of_ok (hword.wordAt_eq hsmall)]
  exact require_true (by simp [hstop, hinside])

/-- A part is read where its content stands. -/
theorem readComponent_laid (hdata : data.length < capacity 63)
    (h : Part.Laid data start position offset (part :: parts)) (hne : part.content ≠ [])
    (hread : ∀ p, StandsAt data p part.content → read p = .ok v) :
    readComponent data start part.dynamic read position = .ok v := by
  cases hdynamic : part.dynamic with
  | true =>
    obtain ⟨hword, hcontent, -⟩ := h.dynamic hdynamic
    obtain ⟨-, hsmall⟩ := offset_lt hdata hne hcontent
    rw [readComponent, if_pos rfl, bind_of_ok (hword.wordAt_eq hsmall)]
    exact hread _ hcontent
  | false => exact hread _ (h.static hdynamic).1

/-- The parts that follow are laid out behind the head and the tail of the first one. -/
theorem Part.Laid.next (h : Part.Laid data start position offset (part :: parts)) :
    Part.Laid data start (position + part.headSize) (offset + part.rest.length) parts := by
  cases hdynamic : part.dynamic with
  | true =>
    have hnext := (h.dynamic hdynamic).2.2
    simpa [Part.headSize, Part.rest, hdynamic] using hnext
  | false =>
    have hnext := (h.static hdynamic).2
    simpa [Part.headSize, Part.rest, hdynamic] using hnext

end

/-! ### Lists -/

namespace AbiType

variable {item : AbiType} {read : Nat → Except Flaw Value}

/-- The offsets of the items of a list pass the test. -/
theorem checkOffsets_laid (hdata : data.length < capacity 63) (hitem : item.Supported)
    (hdynamic : item.isDynamic = true) : ∀ {vs : List Value} {position offset : Nat},
    (∀ v ∈ vs, item.admits v = true) →
      Part.Laid data start position offset (encodeItems item vs) → stop ≤ start + offset →
        checkOffsets data start stop vs.length position = .ok ()
  | [], _, _, _, _, _ => rfl
  | v :: vs, position, offset, hvs, h, hstop => by
    have hfirst : checkOffset data start stop position = .ok () :=
      checkOffset_laid hdata h hdynamic (encode_ne_nil hitem (hvs v List.mem_cons_self)) hstop
    have hrest : checkOffsets data start stop vs.length (position + 32) = .ok () :=
      checkOffsets_laid hdata hitem hdynamic (fun w hw => hvs w (List.mem_cons_of_mem v hw))
        (h.dynamic hdynamic).2.2 (by omega)
    rw [List.length_cons, checkOffsets, bind_of_ok hfirst]
    exact hrest

/-- The items of a list are read one by one. -/
theorem readEach_laid (hdata : data.length < capacity 63) (hitem : item.Supported) :
    ∀ {vs : List Value} {position offset : Nat}, (∀ v ∈ vs, item.admits v = true) →
      (∀ v ∈ vs, ∀ p, StandsAt data p (encode item v) → read p = .ok v) →
        Part.Laid data start position offset (encodeItems item vs) →
          readEach (readComponent data start item.isDynamic read) (32 * item.words) vs.length
            position = .ok vs
  | [], _, _, _, _, _ => rfl
  | v :: vs, position, offset, hvs, hread, h => by
    have hv := hvs v List.mem_cons_self
    have hfirst : readComponent data start item.isDynamic read position = .ok v :=
      readComponent_laid hdata h (encode_ne_nil hitem hv) (hread v List.mem_cons_self)
    have hnext := h.next
    rw [headSize_component hitem hv] at hnext
    have hrest := readEach_laid hdata hitem (fun w hw => hvs w (List.mem_cons_of_mem v hw))
      (fun w hw => hread w (List.mem_cons_of_mem v hw)) hnext
    rw [List.length_cons, readEach, bind_of_ok hfirst, bind_of_ok hrest]

/-- A list is read back from its frame. -/
theorem readItems_frame (hdata : data.length < capacity 63) (hitem : item.Supported)
    {vs : List Value} (hvs : ∀ v ∈ vs, item.admits v = true)
    (hread : ∀ v ∈ vs, ∀ p, StandsAt data p (encode item v) → read p = .ok v)
    (h : StandsAt data position (Part.frame (encodeItems item vs))) :
    readItems data item read vs.length position = .ok (.list vs) := by
  have hlaid := Part.Laid.of_frame h
  rw [headSizeOf_encodeItems hitem hvs] at hlaid
  have hoffsets : (if item.isDynamic then
      checkOffsets data position (position + 32 * vs.length) vs.length position else .ok ()) =
        .ok () := by
    split
    · next hdynamic =>
      rw [words_of_isDynamic hdynamic] at hlaid
      exact checkOffsets_laid hdata hitem hdynamic hvs hlaid (by omega)
    · rfl
  rw [readItems, bind_of_ok hoffsets, bind_of_ok (readEach_laid hdata hitem hvs hread hlaid)]

/-- The length of a list that stands in the data fits into a word. -/
theorem length_lt_of_frame (hdata : data.length < capacity 63) (hitem : item.Supported)
    {vs : List Value} (hvs : ∀ v ∈ vs, item.admits v = true)
    (h : StandsAt data position (Part.frame (encodeItems item vs))) : vs.length < capacity 256 := by
  have hcapacity : capacity 63 ≤ capacity 256 := capacity_le (by decide)
  cases vs with
  | nil => exact Nat.pow_pos Nat.two_pos
  | cons v vs =>
    have hsize := headSizeOf_encodeItems hitem hvs
    have hwords := words_pos hitem
    have hlength : (v :: vs).length ≤ (v :: vs).length * (32 * item.words) :=
      Nat.le_mul_of_pos_right _ (by omega)
    have hne : Part.frame (encodeItems item (v :: vs)) ≠ [] :=
      frame_ne_nil (by rw [hsize]; exact Nat.mul_pos (Nat.succ_pos _) (by omega))
    have hinside := h.add_length_le hne
    rw [Part.length_frame, hsize] at hinside
    omega

/-! ### All types -/

mutual

/-- A value is read back where its encoding stands. -/
theorem decodeAt_encode (hdata : data.length < capacity 63) : ∀ {t : AbiType} {v : Value},
    t.Supported → t.admits v = true → ∀ {position : Nat}, StandsAt data position (encode t v) →
      decodeAt data t position = .ok v
  | .uint bits, .int n, h, hv => by
    intro hstands
    obtain ⟨hlow, hhigh⟩ := Bool.and_eq_true_iff.1 hv
    have hlow := of_decide_eq_true hlow
    have hhigh := of_decide_eq_true hhigh
    have hcapacity := capacity_le (ArgType.isIntegerSize_le h)
    rw [decodeAt, bind_of_ok (hstands.wordAt_eq (by omega)),
      bind_of_ok (require_true (decide_eq_true (by omega))), Int.toNat_of_nonneg hlow]
  | .int bits, .int n, h, hv => by
    intro hstands
    obtain ⟨hlow, hhigh⟩ := Bool.and_eq_true_iff.1 hv
    have hword : (n % capacity 256).toNat < capacity 256 := by
      have hcapacity : 0 < capacity 256 := Nat.pow_pos Nat.two_pos
      have hlt := Int.emod_lt_of_pos n (Int.natCast_pos.2 hcapacity)
      omega
    rw [decodeAt, bind_of_ok (hstands.wordAt_eq hword),
      bind_of_ok (signedOf_emod (ArgType.isIntegerSize_pos h) (ArgType.isIntegerSize_le h)
        (of_decide_eq_true hlow) (of_decide_eq_true hhigh))]
  | .address, .text s, _, hv => by
    intro hstands
    obtain ⟨hlength, hmarked⟩ := Bool.and_eq_true_iff.1 hv
    have hlength := of_decide_eq_true hlength
    have hsmall : bigEndian (addressBytes s) < capacity 160 := bigEndian_lt hlength
    have hword : bigEndian (addressBytes s) < capacity 256 :=
      Nat.lt_of_lt_of_le hsmall (capacity_le (by decide))
    rw [decodeAt, bind_of_ok (hstands.wordAt_eq hword),
      bind_of_ok (require_true (decide_eq_true hsmall)), toBigEndian_bigEndian hlength,
      ← of_decide_eq_true hmarked]
  | .bool, .bool b, _, _ => by
    intro hstands
    have hword : b.toNat < 2 := Bool.toNat_lt b
    have htwo : 2 = capacity 1 := rfl
    have hsmall : b.toNat < capacity 256 :=
      Nat.lt_of_lt_of_le hword (htwo ▸ capacity_le (by decide))
    rw [decodeAt, bind_of_ok (hstands.wordAt_eq hsmall),
      bind_of_ok (require_true (decide_eq_true hword))]
    cases b <;> rfl
  | .fixedBytes size, .bytes bs, h, hv => by
    intro hstands
    have hsize : bs.length = size := of_decide_eq_true hv
    subst hsize
    have hlength : (padded bs).length = 32 := by
      rw [length_padded, paddedSize_of_le h.1 h.2]
    have hbytes : bytesAt data _ 32 = .ok (padded bs) := hstands.bytesAt_eq hlength
    rw [decodeAt, bind_of_ok hbytes,
      bind_of_ok (require_true (all_drop_padded bs)), take_padded]
  | .bytes, .bytes bs, _, _ => by
    intro hstands
    rw [decodeAt, bind_of_ok (paddedBytesAt_eq hdata hstands)]
  | .string, .text s, _, _ => by
    intro hstands
    rw [decodeAt, bind_of_ok (paddedBytesAt_eq hdata hstands), Utf8.decode?_encode]
  | .array item length, .list vs, h, hv => by
    intro hstands
    obtain ⟨hlength, hitems⟩ := Bool.and_eq_true_iff.1 hv
    have hvs := List.all_eq_true.1 hitems
    rw [decodeAt, ← of_decide_eq_true hlength]
    exact readItems_frame hdata h.2 hvs (fun v hv _ => decodeAt_encode hdata h.2 (hvs v hv))
      hstands
  | .sequence item, .list vs, h, hv => by
    intro hstands
    have hvs := List.all_eq_true.1 hv
    have hitem : item.Supported := h
    obtain ⟨hword, hframe⟩ := StandsAt.append_iff.1 hstands
    rw [length_wordOf] at hframe
    have hlength : vs.length < capacity 256 := length_lt_of_frame hdata hitem hvs hframe
    rw [decodeAt, bind_of_ok (hword.wordAt_eq hlength)]
    exact readItems_frame hdata hitem hvs (fun v hv _ => decodeAt_encode hdata hitem (hvs v hv))
      hframe
  | .tuple items, .list vs, h, hv => by
    intro hstands
    have hlaid := Part.Laid.of_frame hstands
    rw [headSizeOf_encodeMembers h.2 hv] at hlaid
    have hslots := Nat.mul_le_mul_left 32 (slotsOf_le_wordsOf h.2)
    have hhead := checkHead_encode hdata h.2 hv hlaid (Nat.add_le_add_left hslots _)
    rw [decodeAt, bind_of_ok hhead,
      bind_of_ok (decodeMembers_encode hdata h.2 hv hlaid)]

/-- The head that an encoder writes passes the test. -/
theorem checkHead_encode (hdata : data.length < capacity 63) : ∀ {ts : List AbiType}
    {vs : List Value} {start stop position offset : Nat}, AllSupported ts → allAdmit ts vs = true →
      Part.Laid data start position offset (encodeMembers ts vs) → stop ≤ start + offset →
        checkHead data start stop ts position = .ok ()
  | [], [], _, _, _, _, _, _, _, _ => rfl
  | t :: ts, v :: vs, start, stop, position, offset, h, hvs, hlaid, hstop => by
    obtain ⟨hv, hvs⟩ := Bool.and_eq_true_iff.1 hvs
    have hfirst : (if t.isDynamic then checkOffset data start stop position
        else (decodeAt data t position).map fun _ => ()) = .ok () := by
      split
      · next hdynamic => exact checkOffset_laid hdata hlaid hdynamic (encode_ne_nil h.1 hv) hstop
      · next hstatic =>
        rw [decodeAt_encode hdata h.1 hv (hlaid.static (Bool.eq_false_iff.2 hstatic)).1]
        rfl
    have hnext := hlaid.next
    rw [headSize_component h.1 hv] at hnext
    have hrest := checkHead_encode hdata h.2 hvs hnext
      (Nat.le_trans hstop (Nat.add_le_add_left (Nat.le_add_right _ _) start))
    rw [checkHead, bind_of_ok hfirst]
    exact hrest

/-- The components of a tuple are read back one by one. -/
theorem decodeMembers_encode (hdata : data.length < capacity 63) : ∀ {ts : List AbiType}
    {vs : List Value} {start position offset : Nat}, AllSupported ts → allAdmit ts vs = true →
      Part.Laid data start position offset (encodeMembers ts vs) →
        decodeMembers data start ts position = .ok vs
  | [], [], _, _, _, _, _, _ => rfl
  | t :: ts, v :: vs, start, position, offset, h, hvs, hlaid => by
    obtain ⟨hv, hvs⟩ := Bool.and_eq_true_iff.1 hvs
    have hfirst : readComponent data start t.isDynamic (decodeAt data t) position = .ok v :=
      readComponent_laid hdata hlaid (encode_ne_nil h.1 hv)
        fun p hp => decodeAt_encode hdata h.1 hv hp
    have hnext := hlaid.next
    rw [headSize_component h.1 hv] at hnext
    rw [decodeMembers, bind_of_ok hfirst, bind_of_ok (decodeMembers_encode hdata h.2 hvs hnext)]

end

end AbiType

end

/-- Arguments are read back from their encoding, whatever follows it. -/
theorem decodeArguments_encode {types : List AbiType} {vs : List Value} {rest : Bytes}
    (htypes : AbiType.AllSupported types) (hvs : AbiType.allAdmit types vs = true)
    (hlength : (encodeArguments types vs ++ rest).length < capacity 63) :
    decodeArguments types (encodeArguments types vs ++ rest) = .ok vs := by
  have hstands : StandsAt (encodeArguments types vs ++ rest) 0 (encodeArguments types vs) :=
    List.prefix_append _ _
  have hlaid := Part.Laid.of_frame hstands
  rw [AbiType.headSizeOf_encodeMembers htypes hvs] at hlaid
  have hslots := Nat.mul_le_mul_left 32 (AbiType.slotsOf_le_wordsOf htypes)
  have hhead := AbiType.checkHead_encode hlength htypes hvs hlaid (Nat.le_add_left_of_le hslots)
  rw [decodeArguments, bind_of_ok hhead]
  exact AbiType.decodeMembers_encode hlength htypes hvs hlaid

end Chronicle
