/- # Members of types as calls hold them

Calldata need not be what an encoder would write: offsets may overlap, leave
gaps or come in any order. Whatever of it a function accepts, the call holds a
member of each type in the form that calls give it, so that it can always be
written as JSON.

Key definitions: `Value.IsHex`, `ArgType.IsForm`.
Key theorems: `ArgType.isForm_interchange`, `ArgType.carries_of_isForm`,
`Entry.forms_of_decode`.
-/
import Chronicle.Proofs.EncodedCalls
import Chronicle.Proofs.JsonRoundTrip

namespace Chronicle

open AbiType (AllSupported interchangeOf)

theorem Numeral.text_eq_repr : ∀ n : Int, text n = n.repr
  | .ofNat _ => rfl
  | .negSucc _ => rfl

/-- A hexadecimal digit that is no capital. -/
def Hex.isLowerDigit (c : Char) : Bool := c.isDigit || ('a' ≤ c && c ≤ 'f')

namespace Value

/-- The mark `0x` with so many lowercase hexadecimal digits behind it. -/
def IsHex (count : Nat) (v : Value) : Prop :=
  ∃ digits : List Char, v = .text (String.ofList ('0' :: 'x' :: digits)) ∧ digits.length = count ∧
    ∀ c ∈ digits, Hex.isLowerDigit c = true

/-- The decimal text of an integer that is not below `low` and is below `high`. -/
def IsDecimal (low high : Int) (v : Value) : Prop :=
  ∃ n : Int, v = .text n.repr ∧ low ≤ n ∧ n < high

theorem isHex_marked {bs : Bytes} {count : Nat} (h : 2 * bs.length = count) :
    (text (Hex.marked bs)).IsHex count := by
  refine ⟨Hex.digits bs, congrArg text ?_, (Hex.length_digits bs).trans h,
    Hex.forall_mem_digits (by decide)⟩
  exact String.toList_inj.1 ((Hex.toList_marked bs).trans String.toList_ofList.symm)

theorem isDecimal_text {low high n : Int} (hlow : low ≤ n) (hhigh : n < high) :
    (text (Numeral.text n)).IsDecimal low high :=
  ⟨n, congrArg text (Numeral.text_eq_repr n), hlow, hhigh⟩

end Value

namespace ArgType

open AbiType (allAdmit interchange interchangeOf)

mutual

/-- The value is a member of the type, in the one form that calls give it. -/
def IsForm : ArgType → Value → Prop
  | .uint bits, v => v.IsDecimal 0 (capacity bits)
  | .int bits, v => v.IsDecimal (-capacity (bits - 1)) (capacity (bits - 1))
  | .address, v => v.IsHex 40
  | .bool, v => ∃ b, v = .bool b
  | .fixedBytes size, v => v.IsHex (2 * size)
  | .function, v => v.IsHex (2 * 24)
  | .bytes, v => ∃ size, v.IsHex (2 * size)
  | .string, v => ∃ s, v = .text s
  | .array item length, v => ∃ vs, v = .list vs ∧ vs.length = length ∧ ∀ w ∈ vs, IsForm item w
  | .sequence item, v => ∃ vs, v = .list vs ∧ ∀ w ∈ vs, IsForm item w
  | .tuple items, v => ∃ vs, v = .list vs ∧ AreForms items vs

/-- There is one value for each type, and it is a member of it in this form. -/
def AreForms : List ArgType → List Value → Prop
  | [], vs => vs = []
  | t :: ts, vs => ∃ w ws, vs = w :: ws ∧ IsForm t w ∧ AreForms ts ws

end

/-! ### The forms of decoded values -/

theorem forall_mem_map_of_all {item : AbiType} {P : Value → Prop} {vs : List Value}
    (hvs : vs.all item.admits = true) (h : ∀ {v}, item.admits v = true → P (interchange item v)) :
    ∀ w ∈ vs.map (interchange item), P w := by
  intro w hw
  obtain ⟨v, hv, rfl⟩ := List.mem_map.1 hw
  exact h (List.all_eq_true.1 hvs v hv)

mutual

/-- What a type admits is brought into this form. -/
theorem isForm_interchange : ∀ {t : ArgType} {v : Value}, t.abi.admits v = true →
    t.IsForm (interchange t.abi v)
  | .uint _, .int _, h => by
    obtain ⟨hlow, hhigh⟩ := Bool.and_eq_true_iff.1 h
    exact Value.isDecimal_text (of_decide_eq_true hlow) (of_decide_eq_true hhigh)
  | .int _, .int _, h => by
    obtain ⟨hlow, hhigh⟩ := Bool.and_eq_true_iff.1 h
    exact Value.isDecimal_text (of_decide_eq_true hlow) (of_decide_eq_true hhigh)
  | .address, .text _, h => by
    obtain ⟨hlength, -⟩ := Bool.and_eq_true_iff.1 h
    exact Value.isHex_marked (congrArg (2 * ·) (of_decide_eq_true hlength))
  | .bool, .bool b, _ => ⟨b, rfl⟩
  | .fixedBytes _, .bytes _, h => Value.isHex_marked (congrArg (2 * ·) (of_decide_eq_true h))
  | .function, .bytes _, h => Value.isHex_marked (congrArg (2 * ·) (of_decide_eq_true h))
  | .bytes, .bytes bs, _ => ⟨bs.length, Value.isHex_marked rfl⟩
  | .string, .text s, _ => ⟨s, rfl⟩
  | .array item _, .list vs, h => by
    obtain ⟨hlength, hvs⟩ := Bool.and_eq_true_iff.1 h
    exact ⟨_, rfl, (List.length_map _).trans (of_decide_eq_true hlength),
      forall_mem_map_of_all hvs fun hv => isForm_interchange hv⟩
  | .sequence item, .list vs, hvs =>
    ⟨_, rfl, forall_mem_map_of_all hvs fun hv => isForm_interchange hv⟩
  | .tuple _, .list _, h => ⟨_, rfl, areForms_interchangeOf h⟩

theorem areForms_interchangeOf : ∀ {ts : List ArgType} {vs : List Value},
    allAdmit (abiOf ts) vs = true → AreForms ts (interchangeOf (abiOf ts) vs)
  | [], [], _ => rfl
  | t :: ts, v :: vs, h => by
    obtain ⟨hv, hvs⟩ := Bool.and_eq_true_iff.1 h
    exact ⟨_, _, rfl, isForm_interchange hv, areForms_interchangeOf hvs⟩

end

/-! ### Their JSON -/

mutual

/-- JSON carries every member of a type in this form. -/
theorem carries_of_isForm : ∀ {t : ArgType} {v : Value}, t.IsForm v → Json.carries v = true
  | .uint _, _, ⟨_, hv, _⟩ => by rw [hv, Json.carries]
  | .int _, _, ⟨_, hv, _⟩ => by rw [hv, Json.carries]
  | .address, _, ⟨_, hv, _⟩ => by rw [hv, Json.carries]
  | .bool, _, ⟨_, hv⟩ => by rw [hv, Json.carries]
  | .fixedBytes _, _, ⟨_, hv, _⟩ => by rw [hv, Json.carries]
  | .function, _, ⟨_, hv, _⟩ => by rw [hv, Json.carries]
  | .bytes, _, ⟨_, _, hv, _⟩ => by rw [hv, Json.carries]
  | .string, _, ⟨_, hv⟩ => by rw [hv, Json.carries]
  | .array item _, _, ⟨_, hv, _, hvs⟩ => by
    rw [hv, Json.carries, Json.carriesItems_eq_true_iff]
    exact fun w hw => carries_of_isForm (hvs w hw)
  | .sequence item, _, ⟨_, hv, hvs⟩ => by
    rw [hv, Json.carries, Json.carriesItems_eq_true_iff]
    exact fun w hw => carries_of_isForm (hvs w hw)
  | .tuple _, _, ⟨_, hv, hvs⟩ => by
    rw [hv, Json.carries, Json.carriesItems_eq_true_iff]
    exact forall_carries_of_areForms hvs

theorem forall_carries_of_areForms : ∀ {ts : List ArgType} {vs : List Value}, AreForms ts vs →
    ∀ v ∈ vs, Json.carries v = true
  | [], _, h => by
    have hnil : _ = [] := h
    simp [hnil]
  | t :: ts, _, ⟨_, _, hvs, hv, hrest⟩ => by
    rw [hvs, List.forall_mem_cons]
    exact ⟨carries_of_isForm hv, forall_carries_of_areForms hrest⟩

end

end ArgType

namespace Entry

open AbiType (interchangeOf)

variable {entry : Entry} {types : List ArgType} {data : Bytes}

/-- Whatever calldata a function accepts, its names come with members of its types in the form of
calls, and every call with these parameters is written as JSON. -/
theorem forms_of_decode (hnames : entry.inputNames.Nodup)
    (hnone : entry.inputTypes = [] → entry.inputNames = [])
    (htypes : entry.inputTypes = types.map ArgType.text)
    (hsupported : AllSupported (ArgType.abiOf types)) {parameters : OrderedMap String Value}
    (h : entry.decode data = .ok parameters) :
    parameters.keys = entry.inputNames ∧ ArgType.AreForms types parameters.values ∧
      ∀ call : Call, call.parameters = parameters →
        ∀ layout, ∃ text, call.toJson layout = .ok text := by
  have hlengths : entry.inputNames.length = types.length := by
    by_cases hempty : entry.inputTypes = []
    · have hnil : types = [] := by simpa [htypes] using hempty
      rw [hnone hempty, hnil]
      rfl
    · rw [length_of_decode hempty h, htypes, List.length_map]
  rcases decode_cases hlengths htypes hsupported data with ⟨args, hargs, hok⟩ | hbad | ⟨-, hbad⟩
  · obtain rfl := Except.ok.inj (h.symm.trans hok)
    have hcount : entry.inputNames.length = (interchangeOf (ArgType.abiOf types) args).length := by
      rw [AbiType.length_interchangeOf hargs, ArgType.length_abiOf, hlengths]
    have hentries := OrderedMap.entries_ofList_zip hnames hcount
    have hforms : ArgType.AreForms types (interchangeOf (ArgType.abiOf types) args) :=
      ArgType.areForms_interchangeOf hargs
    refine ⟨?_, ?_, fun call hcall layout => ?_⟩
    · exact (congrArg (List.map Prod.fst) hentries).trans (List.map_fst_zip (Nat.le_of_eq hcount))
    · rw [OrderedMap.values, hentries, List.map_snd_zip (Nat.le_of_eq hcount.symm)]
      exact hforms
    · refine ⟨_, Json.write_of_carries (Call.carries_toValue fun parameter hparameter => ?_) layout⟩
      rw [hcall, hentries] at hparameter
      exact ArgType.forall_carries_of_areForms hforms _ (List.of_mem_zip hparameter).2
  · rw [hbad] at h
    cases h
  · rw [hbad] at h
    cases h

end Entry

/-! ### An example of overlapping data -/

namespace Desk

/-- Calldata that no encoder writes: a word that nothing points to stands behind the head, and both
items of the list, and both tuples in them, are one and the same. -/
def overlapping : Bytes :=
  [96, capacity 256 - 5, 7, 2, 64, 64, 64, 64, 10, 64, 2].flatMap wordOf ++ padded (Utf8.encode "é")

/-- What both items of the list hold. -/
def item : Value :=
  .list
    [.list [.text "0x000000000000000000000000000000000000000a", .text "é"],
     .list [.text "0x000000000000000000000000000000000000000a", .text "é"]]

theorem allSupported_types : AllSupported (ArgType.abiOf types) :=
  ⟨⟨by decide, by simp [ArgType.abiOf], trivial, trivial, trivial⟩, rfl, trivial⟩

/-- What the function makes of this calldata. -/
theorem decode_overlapping : settle.decode overlapping =
    .ok (.ofList [("orders", .list [item, item]), ("fee", .text "-5")]) := by
  have hargs : decodeArguments (ArgType.abiOf types) overlapping =
      .ok [.list [item, item], .int (-5)] := by decide +kernel
  have hforms : interchangeOf (ArgType.abiOf types) [.list [item, item], .int (-5)] =
      [.list [item, item], .text "-5"] := by decide +kernel
  have htypes : settle.inputTypes = types.map ArgType.text := rfl
  have hdecode := Entry.decode_eq_ok rfl htypes allSupported_types hargs
  rw [hforms] at hdecode
  exact hdecode

end Desk

/-- Overlapping data is accepted, and the call holds forms of the types. -/
theorem Entry.forms_of_decode_overlapping :
    ∃ parameters, Desk.settle.decode Desk.overlapping = .ok parameters ∧
      parameters.entries = [("orders", .list [Desk.item, Desk.item]), ("fee", .text "-5")] ∧
      parameters.keys = ["orders", "fee"] ∧ ArgType.AreForms Desk.types parameters.values ∧
      ∃ text, (Call.mk "settle" .generic "" parameters []).toJson .line = .ok text := by
  have hsupported : AllSupported (ArgType.abiOf Desk.types) :=
    ⟨⟨by decide, by simp [ArgType.abiOf], trivial, trivial, trivial⟩, rfl, trivial⟩
  have hargs : decodeArguments (ArgType.abiOf Desk.types) Desk.overlapping =
      .ok [.list [Desk.item, Desk.item], .int (-5)] := by decide +kernel
  have htypes : Desk.settle.inputTypes = Desk.types.map ArgType.text := rfl
  have hdecode := decode_eq_ok rfl htypes hsupported hargs
  have htyped : Desk.settle.inputTypes ≠ [] := List.cons_ne_nil _ _
  obtain ⟨hkeys, hforms, hjson⟩ :=
    forms_of_decode (by decide) (fun hnone => absurd hnone htyped) htypes hsupported hdecode
  exact ⟨_, hdecode, by decide +kernel, hkeys, hforms, hjson _ rfl .line⟩

end Chronicle
