/-
# Forms lose nothing

A type has one form for each of its values. The text of the type says how a form
is made, and it is also all that is needed to read the value back: a decimal text
is a number, a marked text the bytes of its digits, and a list is read item by
item. So values that have the same form are the same, however lists and tuples
are nested. Every member of the type in this form is the form of a value, and
making the form of a form changes nothing.

Key definitions: `AbiType.restore`, `ArgType.KeptBy`.
Key theorems: `AbiType.restore_interchange`, `ArgType.exists_of_isForm`,
`ArgType.normalize_of_isForm`, `ArgType.normalize_lossless`.
-/
import Chronicle.Proofs.AmountTexts
import Chronicle.Proofs.ArgumentForms
import Chronicle.Proofs.HexGrammar

namespace Chronicle

/-! ### Leaves -/

namespace Numeral

/-- The text of a number that fits into a word is read back. -/
theorem read?_text_of_natAbs_le {n : Int} (h : n.natAbs ≤ capacity 256) :
    read? (text n) = some n := by
  obtain ⟨hlength, -⟩ := write?_eq_some_iff.1 (write?_of_natAbs_le h)
  rw [read?_text_eq, if_pos hlength]

end Numeral

namespace Hex

theorem toNat_lt_of_isLowerDigit {c : Char} (h : isLowerDigit c = true) : c.toNat < 128 := by
  rcases Bool.or_eq_true_iff.1 h with hdigit | hletter
  · exact Text.toNat_lt_of_isDigit hdigit
  · obtain ⟨-, hlast⟩ := Bool.and_eq_true_iff.1 hletter
    have hle : c.toNat ≤ 102 := UInt32.le_iff_toNat_le.1 (of_decide_eq_true hlast)
    omega

/-- A digit that is no capital is a digit, and its own lowercase form. -/
theorem of_isLowerDigit {c : Char} (h : isLowerDigit c = true) :
    c ∈ digitChars ∧ c.toLower = c := by
  have hall : ∀ {c : Char}, c.toNat < 128 → isLowerDigit c = true →
      c ∈ digitChars ∧ c.toLower = c := by
    apply Text.forall_ascii
    decide +kernel
  exact hall (toNat_lt_of_isLowerDigit h) h

/-- Lowercase digits of an even number are the digits of bytes. -/
theorem exists_digits_eq {ds : List Char} {size : Nat} (hlength : ds.length = 2 * size)
    (h : ∀ c ∈ ds, isLowerDigit c = true) : ∃ bs : Bytes, digits bs = ds ∧ bs.length = size := by
  have heven : ds.length % 2 = 0 := by omega
  obtain ⟨bs, hbs⟩ := (exists_pairs?_iff fun c hc => (of_isLowerDigit (h c hc)).1).2 heven
  have hlower : ds.map Char.toLower = ds :=
    (List.map_congr_left fun c hc => (of_isLowerDigit (h c hc)).2).trans (List.map_id ds)
  have hdigits : digits bs = ds := by
    rw [← pairs?_eq_some_iff.1 hbs, hlower]
  refine ⟨bs, hdigits, ?_⟩
  have htwice := length_digits bs
  rw [hdigits] at htwice
  omega

end Hex

/-- A mark with lowercase digits behind it is the marked text of bytes. -/
theorem Value.IsHex.exists_marked {size : Nat} {w : Value} (h : w.IsHex (2 * size)) :
    ∃ bs : Bytes, w = .text (Hex.marked bs) ∧ bs.length = size := by
  obtain ⟨ds, rfl, hlength, hlower⟩ := h
  obtain ⟨bs, rfl, hsize⟩ := Hex.exists_digits_eq hlength hlower
  refine ⟨bs, congrArg text ?_, hsize⟩
  exact String.toList_inj.1 (String.toList_ofList.trans (Hex.toList_marked bs).symm)

namespace AbiType

/-! ### Reading values back -/

mutual

/-- The value of a type that has this form. -/
def restore : AbiType → Value → Value
  | .uint _, .text s => .int ((Numeral.read? s).getD 0)
  | .int _, .text s => .int ((Numeral.read? s).getD 0)
  | .fixedBytes _, .text s => .bytes ((Hex.loose? s).getD [])
  | .bytes, .text s => .bytes ((Hex.loose? s).getD [])
  | .array item _, .list ws => .list (ws.map (restore item))
  | .sequence item, .list ws => .list (ws.map (restore item))
  | .tuple items, .list ws => .list (restoreOf items ws)
  | _, w => w

/-- The values that have these forms, one by one. -/
def restoreOf : List AbiType → List Value → List Value
  | t :: ts, w :: ws => restore t w :: restoreOf ts ws
  | _, _ => []

end

theorem restored_numeral {n : Int} (h : n.natAbs ≤ capacity 256) :
    Value.int ((Numeral.read? (Numeral.text n)).getD 0) = .int n := by
  rw [Numeral.read?_text_of_natAbs_le h, Option.getD_some]

theorem restored_marked (bs : Bytes) :
    Value.bytes ((Hex.loose? (Hex.marked bs)).getD []) = .bytes bs := by
  rw [Hex.loose?_marked, Option.getD_some]

theorem map_restore_interchange {item : AbiType} {vs : List Value}
    (h : ∀ v ∈ vs, restore item (interchange item v) = v) :
    (vs.map (interchange item)).map (restore item) = vs := by
  rw [List.map_map]
  exact (List.map_congr_left h).trans (List.map_id vs)

mutual

/-- Every value of a type is read back from its form. -/
theorem restore_interchange : ∀ {t : AbiType} {v : Value}, t.Supported → t.admits v = true →
    restore t (interchange t v) = v
  | .uint _, .int _, h, hv => restored_numeral (natAbs_le_of_admits h hv)
  | .int _, .int _, h, hv => restored_numeral (natAbs_le_of_admits h hv)
  | .address, .text _, _, hv => by
    -- Decoding spells an address in the very form that calls give it.
    obtain ⟨-, hmarked⟩ := Bool.and_eq_true_iff.1 hv
    exact congrArg Value.text (of_decide_eq_true hmarked).symm
  | .bool, .bool _, _, _ => rfl
  | .fixedBytes _, .bytes bs, _, _ => restored_marked bs
  | .bytes, .bytes bs, _, _ => restored_marked bs
  | .string, .text _, _, _ => rfl
  | .array item _, .list vs, h, hv => by
    obtain ⟨-, hvs⟩ := Bool.and_eq_true_iff.1 hv
    exact congrArg Value.list (map_restore_interchange fun v hmem =>
      restore_interchange h.2 (List.all_eq_true.1 hvs v hmem))
  | .sequence item, .list vs, h, hvs => by
    have hitem : item.Supported := h
    exact congrArg Value.list (map_restore_interchange fun v hmem =>
      restore_interchange hitem (List.all_eq_true.1 hvs v hmem))
  | .tuple _, .list _, h, hv => congrArg Value.list (restoreOf_interchangeOf h.2 hv)

theorem restoreOf_interchangeOf : ∀ {ts : List AbiType} {vs : List Value}, AllSupported ts →
    allAdmit ts vs = true → restoreOf ts (interchangeOf ts vs) = vs
  | [], [], _, _ => rfl
  | t :: ts, v :: vs, h, hvs => by
    obtain ⟨hv, hvs⟩ := Bool.and_eq_true_iff.1 hvs
    rw [interchangeOf, restoreOf, restore_interchange h.1 hv, restoreOf_interchangeOf h.2 hvs]

end

/-- Values of a type that have one form are one value. -/
theorem interchange_injective {t : AbiType} (h : t.Supported) {v w : Value}
    (hv : t.admits v = true) (hw : t.admits w = true) (heq : interchange t v = interchange t w) :
    v = w :=
  calc v = restore t (interchange t v) := (restore_interchange h hv).symm
    _ = restore t (interchange t w) := by rw [heq]
    _ = w := restore_interchange h hw

end AbiType

namespace ArgType

open AbiType (allAdmit interchange interchangeOf)

/-! ### Every form is reached -/

/-- Items that are each reached from a value are reached from a list of values. -/
theorem exists_map_eq {P : Value → Prop} {f : Value → Value} : ∀ {ws : List Value},
    (∀ w ∈ ws, ∃ v, P v ∧ f v = w) → ∃ vs : List Value, (∀ v ∈ vs, P v) ∧ vs.map f = ws
  | [], _ => ⟨[], by simp, rfl⟩
  | w :: ws, h => by
    obtain ⟨⟨v, hv, hform⟩, hrest⟩ := List.forall_mem_cons.1 h
    obtain ⟨vs, hvs, hforms⟩ := exists_map_eq hrest
    exact ⟨v :: vs, List.forall_mem_cons.2 ⟨hv, hvs⟩, by rw [List.map_cons, hform, hforms]⟩

mutual

/-- Every member of a type in the form of calls is the form of a value. -/
theorem exists_of_isForm : ∀ {t : ArgType} {w : Value}, t.IsForm w →
    ∃ v, t.abi.admits v = true ∧ interchange t.abi v = w
  | .uint _, _, ⟨n, hw, hlow, hhigh⟩ => by
    rw [hw, ← Numeral.text_eq_repr]
    exact ⟨.int n, Bool.and_eq_true_iff.2 ⟨decide_eq_true hlow, decide_eq_true hhigh⟩, rfl⟩
  | .int _, _, ⟨n, hw, hlow, hhigh⟩ => by
    rw [hw, ← Numeral.text_eq_repr]
    exact ⟨.int n, Bool.and_eq_true_iff.2 ⟨decide_eq_true hlow, decide_eq_true hhigh⟩, rfl⟩
  | .address, _, hw => by
    have hhex : Value.IsHex (2 * 20) _ := hw
    obtain ⟨bs, rfl, hlength⟩ := hhex.exists_marked
    have hread := AbiType.addressBytes_marked bs
    refine ⟨.text (Hex.marked bs), Bool.and_eq_true_iff.2 ⟨?_, ?_⟩, ?_⟩
    · rw [hread, hlength]
      rfl
    · rw [hread]
      exact decide_eq_true rfl
    · exact congrArg (fun bytes => Value.text (Hex.marked bytes)) hread
  | .bool, _, ⟨b, hw⟩ => ⟨.bool b, rfl, hw.symm⟩
  | .fixedBytes _, _, hw => by
    obtain ⟨bs, rfl, hlength⟩ := Value.IsHex.exists_marked hw
    exact ⟨.bytes bs, decide_eq_true hlength, rfl⟩
  | .function, _, hw => by
    obtain ⟨bs, rfl, hlength⟩ := Value.IsHex.exists_marked hw
    exact ⟨.bytes bs, decide_eq_true hlength, rfl⟩
  | .bytes, _, ⟨_, hw⟩ => by
    obtain ⟨bs, rfl, -⟩ := hw.exists_marked
    exact ⟨.bytes bs, rfl, rfl⟩
  | .string, _, ⟨s, hw⟩ => ⟨.text s, rfl, hw.symm⟩
  | .array _ _, _, ⟨ws, hw, hlength, hws⟩ => by
    obtain ⟨vs, hvs, rfl⟩ := exists_map_eq fun w hmem => exists_of_isForm (hws w hmem)
    rw [List.length_map] at hlength
    exact ⟨.list vs, Bool.and_eq_true_iff.2 ⟨decide_eq_true hlength, List.all_eq_true.2 hvs⟩,
      hw.symm⟩
  | .sequence _, _, ⟨ws, hw, hws⟩ => by
    obtain ⟨vs, hvs, rfl⟩ := exists_map_eq fun w hmem => exists_of_isForm (hws w hmem)
    exact ⟨.list vs, List.all_eq_true.2 hvs, hw.symm⟩
  | .tuple _, _, ⟨ws, hw, hws⟩ => by
    obtain ⟨vs, hvs, rfl⟩ := exists_of_areForms hws
    exact ⟨.list vs, hvs, hw.symm⟩

theorem exists_of_areForms : ∀ {ts : List ArgType} {ws : List Value}, AreForms ts ws →
    ∃ vs, allAdmit (abiOf ts) vs = true ∧ interchangeOf (abiOf ts) vs = ws
  | [], _, h => ⟨[], rfl, Eq.symm h⟩
  | t :: ts, _, ⟨w, ws, hcons, hw, hws⟩ => by
    obtain ⟨v, hv, rfl⟩ := exists_of_isForm hw
    obtain ⟨vs, hvs, rfl⟩ := exists_of_areForms hws
    exact ⟨v :: vs, Bool.and_eq_true_iff.2 ⟨hv, hvs⟩, hcons.symm⟩

end

/-! ### Forms are left as they are -/

theorem normalizeEach_eq_self {f : Value → Except Fault Value} {ws : List Value}
    (h : ∀ w ∈ ws, f w = .ok w) : Shape.normalizeEach f ws = .ok ws := by
  have hmap := Shape.normalizeEach_eq_ok (g := id) h
  rwa [List.map_id] at hmap

mutual

/-- A form is its own form. -/
theorem normalize_of_isForm : ∀ {t : ArgType} {w : Value}, t.IsForm w →
    t.shape.normalize w = .ok w
  | .uint _, _, ⟨_, hw, _⟩ => by rw [hw]; rfl
  | .int _, _, ⟨_, hw, _⟩ => by rw [hw]; rfl
  | .address, _, hw => by
    -- The one leaf whose texts are spelled anew, which leaves the normal form as it is.
    have hhex : Value.IsHex (2 * 20) _ := hw
    obtain ⟨bs, rfl, hlength⟩ := hhex.exists_marked
    rw [shape, Shape.normalize, Shape.normalizeLeaf, if_pos rfl, Address.spelled_marked hlength]
  | .bool, _, ⟨_, hw⟩ => by rw [hw]; rfl
  | .fixedBytes _, _, ⟨_, hw, _⟩ => by rw [hw]; rfl
  | .function, _, ⟨_, hw, _⟩ => by rw [hw]; rfl
  | .bytes, _, ⟨_, _, hw, _⟩ => by rw [hw]; rfl
  | .string, _, ⟨_, hw⟩ => by rw [hw]; rfl
  | .array _ _, _, ⟨_, hw, _, hws⟩ => by
    rw [hw]
    exact Shape.normalize_listOf
      (normalizeEach_eq_self fun w hmem => normalize_of_isForm (hws w hmem))
  | .sequence _, _, ⟨_, hw, hws⟩ => by
    rw [hw]
    exact Shape.normalize_listOf
      (normalizeEach_eq_self fun w hmem => normalize_of_isForm (hws w hmem))
  | .tuple _, _, ⟨_, hw, hws⟩ => by
    rw [hw]
    exact Shape.normalize_tupleOf (normalizeMembers_of_areForms hws)

theorem normalizeMembers_of_areForms : ∀ {ts : List ArgType} {ws : List Value}, AreForms ts ws →
    Shape.normalizeMembers (shapesOf ts) ws = .ok ws
  | [], _, h => by
    have hnil : _ = [] := h
    rw [hnil]
    rfl
  | t :: ts, _, ⟨w, ws, hcons, hw, hws⟩ => by
    rw [hcons, shapesOf, Shape.normalizeMembers, bind_of_ok (normalize_of_isForm hw),
      bind_of_ok (normalizeMembers_of_areForms hws)]

end

/-- This way of making forms loses nothing of the values of the type: values and forms stand for
each other one to one, and forms are left as they are. -/
structure KeptBy (t : ArgType) (normalize : Value → Except Fault Value) : Prop where
  /-- Whatever is decoded as the type is a value of it. -/
  admits : ∀ data position v, AbiType.decodeAt data t.abi position = .ok v →
    t.abi.admits v = true
  /-- Every value has a form, from which it can be read back. -/
  restores : ∀ v, t.abi.admits v = true →
    ∃ w, normalize v = .ok w ∧ t.IsForm w ∧ t.abi.restore w = v
  /-- Values with the same form are the same. -/
  injective : ∀ v w, t.abi.admits v = true → t.abi.admits w = true →
    normalize v = normalize w → v = w
  /-- Every form is the form of a value. -/
  reaches : ∀ w, t.IsForm w → ∃ v, t.abi.admits v = true ∧ normalize v = .ok w
  /-- A form is its own form. -/
  stable : ∀ w, t.IsForm w → normalize w = .ok w

/-- The text of a supported type says how the type is decoded, and forms that are made by it lose
nothing. -/
theorem normalize_lossless {t : ArgType} (h : t.abi.Supported) :
    AbiType.ofText t.text = .ok t.abi ∧ t.KeptBy (Shape.ofText t.text).normalize := by
  have hform : ∀ v, t.abi.admits v = true →
      (Shape.ofText t.text).normalize v = .ok (interchange t.abi v) := by
    intro v hv
    rw [ofText_shape, normalize_shape h hv]
  refine ⟨ofText_text h, ?_, ?_, ?_, ?_, ?_⟩
  · intro data position v hdecode
    exact AbiType.admits_of_decodeAt h hdecode
  · intro v hv
    exact ⟨_, hform v hv, isForm_interchange hv, AbiType.restore_interchange h hv⟩
  · intro v w hv hw heq
    rw [hform v hv, hform w hw] at heq
    exact AbiType.interchange_injective h hv hw (Except.ok.inj heq)
  · intro w hw
    obtain ⟨v, hv, rfl⟩ := exists_of_isForm hw
    exact ⟨v, hv, hform v hv⟩
  · intro w hw
    rw [ofText_shape, normalize_of_isForm hw]

end ArgType

/-! ### An example of lists in tuples in lists -/

namespace Freight

/-- A list of crates, each with a temperature, owners, two seals and a note. -/
def crates : ArgType :=
  .sequence (.tuple
    [.int 8, .sequence .address, .array (.tuple [.fixedBytes 2, .bool]) 2, .string])

/-- One frozen crate that belongs to nobody, with this mark on a seal and a note that reads like the
form of a mark. -/
def sealed (mark : Bytes) : Value :=
  .list [.list [.int (-5), .list [],
    .list [.list [.bytes mark, .bool true], .list [.bytes [0, 1], .bool false]], .text "0xab00"]]

/-- What is decoded to this list of one crate. -/
def calldata (mark : Bytes) : Bytes := crates.abi.encode (sealed mark)

/-- The form of this list of one crate. -/
def form (mark : String) : Value :=
  .list [.list [.text "-5", .list [],
    .list [.list [.text mark, .bool true], .list [.text "0x0001", .bool false]], .text "0xab00"]]

end Freight

/-- Crates that differ in a byte of a seal have forms that differ, and each is its own form. -/
theorem ArgType.normalize_lossless_crates :
    Freight.crates.abi.Supported ∧
      Freight.crates.text = "(int8,address[],(bytes2,bool)[2],string)[]" ∧
      AbiType.ofText Freight.crates.text = .ok Freight.crates.abi ∧
      AbiType.decodeAt (Freight.calldata [0xab, 0]) Freight.crates.abi 0 =
        .ok (Freight.sealed [0xab, 0]) ∧
      AbiType.decodeAt (Freight.calldata [0xab, 1]) Freight.crates.abi 0 =
        .ok (Freight.sealed [0xab, 1]) ∧
      (Shape.ofText Freight.crates.text).normalize (Freight.sealed [0xab, 0]) =
        .ok (Freight.form "0xab00") ∧
      Freight.crates.abi.restore (Freight.form "0xab00") = Freight.sealed [0xab, 0] ∧
      (Shape.ofText Freight.crates.text).normalize (Freight.form "0xab00") =
        .ok (Freight.form "0xab00") ∧
      (Shape.ofText Freight.crates.text).normalize (Freight.sealed [0xab, 0]) ≠
        (Shape.ofText Freight.crates.text).normalize (Freight.sealed [0xab, 1]) := by
  have hsupported : Freight.crates.abi.Supported :=
    ⟨by simp [abiOf], rfl, trivial,
      ⟨by decide, by simp [abiOf], ⟨by decide, by decide⟩, trivial, trivial⟩, trivial, trivial⟩
  have hfirst : AbiType.decodeAt (Freight.calldata [0xab, 0]) Freight.crates.abi 0 =
      .ok (Freight.sealed [0xab, 0]) := by decide +kernel
  have hsecond : AbiType.decodeAt (Freight.calldata [0xab, 1]) Freight.crates.abi 0 =
      .ok (Freight.sealed [0xab, 1]) := by decide +kernel
  obtain ⟨hread, hkept⟩ := normalize_lossless hsupported
  have hadmits := hkept.admits _ _ _ hfirst
  obtain ⟨w, hw, hform, hrestore⟩ := hkept.restores _ hadmits
  have hmade : (Shape.ofText Freight.crates.text).normalize (Freight.sealed [0xab, 0]) =
      .ok (Freight.form "0xab00") := by
    rw [ofText_shape]
    decide +kernel
  obtain rfl : w = Freight.form "0xab00" := Except.ok.inj (hw.symm.trans hmade)
  refine ⟨hsupported, by decide, hread, hfirst, hsecond, hmade, hrestore, hkept.stable _ hform, ?_⟩
  intro hsame
  have heq := hkept.injective _ _ hadmits (hkept.admits _ _ _ hsecond) hsame
  exact absurd heq (by decide +kernel)

end Chronicle
