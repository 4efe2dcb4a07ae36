/- # Sizes of decoded arguments

Lengths and offsets are words that the sender of a call chooses, and the items
that they announce may overlap. Still each item has a word of its own in the head
of its list, and each byte string stands in the data as a whole. So no list that
is decoded has more items than the data has words, and no byte string or text is
longer than the data.

Key definition: `ArgType.Fits`.
Key theorems: `AbiType.add_le_of_decodeAt`, `ArgType.fits_of_decodeAt`, `Entry.fits_of_decode`.
-/
import Chronicle.Proofs.ArgumentForms

namespace Chronicle

open AbiType (AllSupported decodeAt decodeMembers interchange interchangeOf)

/-! ### Where words and byte strings end -/

section

variable {data : Bytes} {position : Nat}

theorem add_le_of_bytesAt {count : Nat} {bs : Bytes} (hpos : 0 < count)
    (h : bytesAt data position count = .ok bs) : position + count ≤ data.length := by
  obtain ⟨rfl, hlength⟩ := bytesAt_eq_ok_iff.1 h
  rw [List.length_take, List.length_drop] at hlength
  omega

theorem add_le_of_wordAt {word : Nat} (h : wordAt data position = .ok word) :
    position + 32 ≤ data.length := by
  obtain ⟨bs, hbs, -⟩ := bind_eq_ok.1 h
  exact add_le_of_bytesAt (by decide) hbs

/-- A byte string has its length in a word before it. -/
theorem add_le_of_paddedBytesAt {bs : Bytes} (h : paddedBytesAt data position = .ok bs) :
    position + 32 ≤ data.length := by
  obtain ⟨length, hlength, -⟩ := bind_eq_ok.1 h
  exact add_le_of_wordAt hlength

theorem length_le_of_bytesAt {count : Nat} {bs : Bytes}
    (h : bytesAt data position count = .ok bs) : bs.length ≤ data.length := by
  obtain ⟨rfl, -⟩ := bytesAt_eq_ok_iff.1 h
  rw [List.length_take, List.length_drop]
  omega

theorem length_le_of_paddedBytesAt {bs : Bytes} (h : paddedBytesAt data position = .ok bs) :
    bs.length ≤ data.length := by
  simp only [paddedBytesAt, bind_eq_ok, Except.ok.injEq] at h
  obtain ⟨length, -, -, -, all, hall, -, -, rfl⟩ := h
  calc (all.take length).length ≤ all.length := List.length_take_le' length all
    _ ≤ data.length := length_le_of_bytesAt hall

/-! ### The heads of lists -/

/-- A component has a word at its place in the head: its offset, or the first word of itself. -/
theorem add_le_of_readComponent {start : Nat} {dynamic : Bool} {read : Nat → Except Flaw Value}
    (hread : ∀ {v}, read position = .ok v → position + 32 ≤ data.length) {v : Value}
    (h : readComponent data start dynamic read position = .ok v) :
    position + 32 ≤ data.length := by
  unfold readComponent at h
  split at h
  · obtain ⟨offset, hoffset, -⟩ := bind_eq_ok.1 h
    exact add_le_of_wordAt hoffset
  · exact hread h

/-- Values that are read one behind the other take up a word each, or more. -/
theorem mul_count_le_of_readEach {read : Nat → Except Flaw Value} {stride : Nat}
    (hread : ∀ {p v}, read p = .ok v → p + 32 ≤ data.length) (hstride : 32 ≤ stride) :
    ∀ {count position : Nat} {vs : List Value}, readEach read stride count position = .ok vs →
      32 * count ≤ data.length - position
  | 0, _, _, _ => Nat.zero_le _
  | count + 1, position, _, h => by
    obtain ⟨v, hv, h⟩ := bind_eq_ok.1 h
    obtain ⟨vs, hvs, -⟩ := bind_eq_ok.1 h
    have hfirst := hread hv
    have hrest := mul_count_le_of_readEach hread hstride hvs
    omega

end

namespace AbiType

variable {data : Bytes}

theorem stride_le {t : AbiType} (h : t.Supported) : 32 ≤ 32 * t.words :=
  Nat.le_mul_of_pos_right 32 (words_pos h)

mutual

/-- A value has a word at its position. -/
theorem add_le_of_decodeAt : ∀ {t : AbiType}, t.Supported → ∀ {position : Nat} {v : Value},
    decodeAt data t position = .ok v → position + 32 ≤ data.length
  | .uint _, _, _, _, h => by
    obtain ⟨word, hword, -⟩ := bind_eq_ok.1 h
    exact add_le_of_wordAt hword
  | .int _, _, _, _, h => by
    obtain ⟨word, hword, -⟩ := bind_eq_ok.1 h
    exact add_le_of_wordAt hword
  | .address, _, _, _, h => by
    obtain ⟨word, hword, -⟩ := bind_eq_ok.1 h
    exact add_le_of_wordAt hword
  | .bool, _, _, _, h => by
    obtain ⟨word, hword, -⟩ := bind_eq_ok.1 h
    exact add_le_of_wordAt hword
  | .fixedBytes _, _, _, _, h => by
    obtain ⟨bs, hbs, -⟩ := bind_eq_ok.1 h
    exact add_le_of_bytesAt (by decide) hbs
  | .bytes, _, _, _, h => by
    obtain ⟨bs, hbs, -⟩ := bind_eq_ok.1 h
    exact add_le_of_paddedBytesAt hbs
  | .string, _, _, _, h => by
    obtain ⟨bs, hbs, -⟩ := bind_eq_ok.1 h
    exact add_le_of_paddedBytesAt hbs
  | .array item length, hsupported, position, _, h => by
    have hstride := stride_le hsupported.2
    have hpos := hsupported.1
    obtain ⟨-, -, h⟩ := bind_eq_ok.1 h
    obtain ⟨vs, hvs, -⟩ := bind_eq_ok.1 h
    have hhead := mul_count_le_of_readEach
      (add_le_of_readComponent (add_le_of_decodeAt hsupported.2)) hstride hvs
    omega
  | .sequence _, _, _, _, h => by
    obtain ⟨length, hlength, -⟩ := bind_eq_ok.1 h
    exact add_le_of_wordAt hlength
  | .tuple items, hsupported, position, _, h => by
    obtain ⟨-, -, h⟩ := bind_eq_ok.1 h
    obtain ⟨vs, hvs, -⟩ := bind_eq_ok.1 h
    have hhead := mul_length_le_of_decodeMembers hsupported.2 hvs
    have hpos := List.length_pos_of_ne_nil hsupported.1
    omega

/-- The components of a tuple take up a word each, or more. -/
theorem mul_length_le_of_decodeMembers : ∀ {ts : List AbiType}, AllSupported ts →
    ∀ {start position : Nat} {vs : List Value}, decodeMembers data start ts position = .ok vs →
      32 * ts.length ≤ data.length - position
  | [], _, _, _, _, _ => Nat.zero_le _
  | t :: ts, hsupported, _, position, _, h => by
    obtain ⟨v, hv, h⟩ := bind_eq_ok.1 h
    obtain ⟨vs, hvs, -⟩ := bind_eq_ok.1 h
    have hstride := stride_le hsupported.1
    have hfirst := add_le_of_readComponent (add_le_of_decodeAt hsupported.1) hv
    have hrest := mul_length_le_of_decodeMembers hsupported.2 hvs
    rw [List.length_cons]
    omega

end

/-- Each item of a list has a word in the data. -/
theorem length_le_of_readItems {item : AbiType} (h : item.Supported) {length start : Nat}
    {v : Value} (hread : readItems data item (decodeAt data item) length start = .ok v) :
    length ≤ data.length / 32 := by
  obtain ⟨-, -, hread⟩ := bind_eq_ok.1 hread
  obtain ⟨vs, hvs, -⟩ := bind_eq_ok.1 hread
  have hhead := mul_count_le_of_readEach (add_le_of_readComponent (add_le_of_decodeAt h))
    (stride_le h) hvs
  omega

end AbiType

/-! ### Values that fit into the data -/

/-- The value is a text or a truth value. -/
def Value.IsScalar (v : Value) : Prop := (∃ s, v = .text s) ∨ ∃ b, v = .bool b

namespace ArgType

mutual

/-- In this member of the type, as calls hold it, lists of all depths have no more items than
`size` bytes have words, and byte strings and texts of all depths have at most `size` bytes. -/
def Fits (size : Nat) : ArgType → Value → Prop
  | .fixedBytes _, v => ∃ bs, v = .text (Hex.marked bs) ∧ bs.length ≤ size
  | .function, v => ∃ bs, v = .text (Hex.marked bs) ∧ bs.length ≤ size
  | .bytes, v => ∃ bs, v = .text (Hex.marked bs) ∧ bs.length ≤ size
  | .string, v => ∃ s, v = .text s ∧ (Utf8.encode s).length ≤ size
  | .array item _, v => ∃ vs, v = .list vs ∧ vs.length ≤ size / 32 ∧ ∀ w ∈ vs, Fits size item w
  | .sequence item, v => ∃ vs, v = .list vs ∧ vs.length ≤ size / 32 ∧ ∀ w ∈ vs, Fits size item w
  | .tuple items, v => ∃ vs, v = .list vs ∧ vs.length ≤ size / 32 ∧ AllFit size items vs
  | _, v => v.IsScalar

/-- There is one value for each type, and it fits. -/
def AllFit (size : Nat) : List ArgType → List Value → Prop
  | [], vs => vs = []
  | t :: ts, vs => ∃ w ws, vs = w :: ws ∧ Fits size t w ∧ AllFit size ts ws

end

/-- The items of a list fit if each of them fits wherever it is read. -/
theorem fits_readItems {data : Bytes} {item : ArgType} (hitem : item.abi.Supported)
    (hfits : ∀ {p w}, decodeAt data item.abi p = .ok w → item.Fits data.length (interchange item.abi w))
    {length start : Nat} {v : Value}
    (h : readItems data item.abi (decodeAt data item.abi) length start = .ok v) :
    ∃ vs, v = .list vs ∧ vs.length ≤ data.length / 32 ∧
      ∀ w ∈ vs.map (interchange item.abi), item.Fits data.length w := by
  obtain ⟨vs, rfl, hlength, hvs⟩ := items_of_readItems h
  refine ⟨vs, rfl, hlength ▸ AbiType.length_le_of_readItems hitem h, fun w hw => ?_⟩
  obtain ⟨v, hv, rfl⟩ := List.mem_map.1 hw
  obtain ⟨p, hp⟩ := hvs v hv
  exact hfits hp

mutual

/-- What is decoded at any position fits into the data. -/
theorem fits_of_decodeAt {data : Bytes} : ∀ {t : ArgType}, t.abi.Supported →
    ∀ {position : Nat} {v : Value}, decodeAt data t.abi position = .ok v →
      t.Fits data.length (interchange t.abi v)
  | .uint _, _, _, _, h => by
    simp only [abi, decodeAt, bind_eq_ok, Except.ok.injEq] at h
    obtain ⟨word, -, -, -, rfl⟩ := h
    exact Or.inl ⟨_, rfl⟩
  | .int _, _, _, _, h => by
    simp only [abi, decodeAt, bind_eq_ok, Except.ok.injEq] at h
    obtain ⟨word, -, n, -, rfl⟩ := h
    exact Or.inl ⟨_, rfl⟩
  | .address, _, _, _, h => by
    simp only [abi, decodeAt, bind_eq_ok, Except.ok.injEq] at h
    obtain ⟨word, -, -, -, rfl⟩ := h
    exact Or.inl ⟨_, rfl⟩
  | .bool, _, _, _, h => by
    simp only [abi, decodeAt, bind_eq_ok, Except.ok.injEq] at h
    obtain ⟨word, -, -, -, rfl⟩ := h
    exact Or.inr ⟨_, rfl⟩
  | .fixedBytes size, _, _, _, h => by
    simp only [abi, decodeAt, bind_eq_ok, Except.ok.injEq] at h
    obtain ⟨bs, hbs, -, -, rfl⟩ := h
    exact ⟨_, rfl, Nat.le_trans (List.length_take_le' size bs) (length_le_of_bytesAt hbs)⟩
  | .function, _, _, _, h => by
    simp only [abi, decodeAt, bind_eq_ok, Except.ok.injEq] at h
    obtain ⟨bs, hbs, -, -, rfl⟩ := h
    exact ⟨_, rfl, Nat.le_trans (List.length_take_le' 24 bs) (length_le_of_bytesAt hbs)⟩
  | .bytes, _, _, _, h => by
    simp only [abi, decodeAt, bind_eq_ok, Except.ok.injEq] at h
    obtain ⟨bs, hbs, rfl⟩ := h
    exact ⟨bs, rfl, length_le_of_paddedBytesAt hbs⟩
  | .string, _, _, _, h => by
    obtain ⟨bs, hbs, h⟩ := bind_eq_ok.1 h
    split at h
    · next s hs =>
      cases h
      refine ⟨s, rfl, ?_⟩
      rw [Utf8.encode_of_decode? hs]
      exact length_le_of_paddedBytesAt hbs
    · cases h
  | .array item _, hsupported, _, _, h => by
    obtain ⟨vs, rfl, hlength, hvs⟩ :=
      fits_readItems hsupported.2 (fits_of_decodeAt hsupported.2) h
    exact ⟨_, rfl, (List.length_map _).trans_le hlength, hvs⟩
  | .sequence item, hsupported, _, _, h => by
    have hitem : item.abi.Supported := hsupported
    obtain ⟨length, -, h⟩ := bind_eq_ok.1 h
    obtain ⟨vs, rfl, hlength, hvs⟩ := fits_readItems hitem (fits_of_decodeAt hitem) h
    exact ⟨_, rfl, (List.length_map _).trans_le hlength, hvs⟩
  | .tuple items, hsupported, _, _, h => by
    obtain ⟨-, -, h⟩ := bind_eq_ok.1 h
    obtain ⟨vs, hvs, h⟩ := bind_eq_ok.1 h
    cases h
    have hmembers := AbiType.allAdmit_of_decodeMembers hsupported.2 hvs
    have hhead := AbiType.mul_length_le_of_decodeMembers hsupported.2 hvs
    refine ⟨_, rfl, ?_, allFit_of_decodeMembers hsupported.2 hvs⟩
    rw [AbiType.length_interchangeOf hmembers]
    omega

theorem allFit_of_decodeMembers {data : Bytes} : ∀ {ts : List ArgType},
    AllSupported (abiOf ts) → ∀ {start position : Nat} {vs : List Value},
      decodeMembers data start (abiOf ts) position = .ok vs →
        AllFit data.length ts (interchangeOf (abiOf ts) vs)
  | [], _, _, _, _, _ => rfl
  | t :: ts, hsupported, _, _, _, h => by
    obtain ⟨v, hv, h⟩ := bind_eq_ok.1 h
    obtain ⟨vs, hvs, h⟩ := bind_eq_ok.1 h
    cases h
    obtain ⟨p, hp⟩ := exists_of_readComponent hv
    exact ⟨_, _, rfl, fits_of_decodeAt hsupported.1 hp, allFit_of_decodeMembers hsupported.2 hvs⟩

end

/-- Values that fit their types one by one each fit a type that their name comes with. -/
theorem exists_fits_of_mem_zip {size : Nat} : ∀ {names : List String} {ts : List ArgType}
    {vs : List Value}, AllFit size ts vs → ∀ {name : String} {v : Value}, (name, v) ∈ names.zip vs →
      ∃ t, (name, t) ∈ names.zip ts ∧ t.Fits size v
  | [], _, _, _, _, _, hmem => by simp at hmem
  | _ :: _, [], vs, h, _, _, hmem => by
    have hnil : vs = [] := h
    simp [hnil] at hmem
  | _ :: names, t :: ts, _, ⟨w, ws, hvs, hw, hws⟩, name, v, hmem => by
    rw [hvs, List.zip_cons_cons] at hmem
    rcases List.mem_cons.1 hmem with hfirst | hmem
    · cases hfirst
      exact ⟨t, List.mem_cons_self, hw⟩
    · obtain ⟨s, hs, hv⟩ := exists_fits_of_mem_zip hws hmem
      exact ⟨s, List.mem_cons_of_mem _ hs, hv⟩

end ArgType

namespace Entry

variable {entry : Entry} {types : List ArgType} {data : Bytes}

/-- Whatever calldata a function accepts, each parameter that it gives is a member of the type of
an input of this name, and the lists, byte strings and texts in it are bounded by the calldata. -/
theorem fits_of_decode (htypes : entry.inputTypes = types.map ArgType.text)
    (hsupported : AllSupported (ArgType.abiOf types)) {parameters : OrderedMap String Value}
    (h : entry.decode data = .ok parameters) :
    ∀ parameter ∈ parameters.entries, ∃ t, (parameter.1, t) ∈ entry.inputNames.zip types ∧
      t.Fits data.length parameter.2 := by
  obtain ⟨args, hargs, rfl⟩ := exists_args_of_decode htypes hsupported h
  obtain ⟨-, -, hmembers⟩ := bind_eq_ok.1 hargs
  intro parameter hparameter
  rcases OrderedMap.mem_entries_insertAll hparameter with hnone | hmem
  · exact absurd hnone List.not_mem_nil
  · exact ArgType.exists_fits_of_mem_zip (ArgType.allFit_of_decodeMembers hsupported hmembers) hmem

end Entry

/-- The list of overlapping items has no more of them than its data has words. -/
theorem Entry.fits_of_decode_overlapping :
    ∃ parameters, Desk.settle.decode Desk.overlapping = .ok parameters ∧
      ("orders", .list [Desk.item, Desk.item]) ∈ parameters.entries ∧
      ArgType.Fits Desk.overlapping.length (.sequence (.array (.tuple [.address, .string]) 2))
        (.list [Desk.item, Desk.item]) := by
  have htypes : Desk.settle.inputTypes = Desk.types.map ArgType.text := rfl
  have hdecode := Desk.decode_overlapping
  have hmem : ("orders", Value.list [Desk.item, Desk.item]) ∈ (OrderedMap.ofList
      [("orders", Value.list [Desk.item, Desk.item]), ("fee", .text "-5")]).entries :=
    List.mem_cons_self
  obtain ⟨t, ht, hfits⟩ := fits_of_decode htypes Desk.allSupported_types hdecode _ hmem
  have hfirst : (("orders" : String), t) =
      ("orders", .sequence (.array (.tuple [.address, .string]) 2)) := by
    simpa [Desk.settle, Desk.types] using ht
  cases hfirst
  exact ⟨_, hdecode, hmem, hfits⟩

end Chronicle
