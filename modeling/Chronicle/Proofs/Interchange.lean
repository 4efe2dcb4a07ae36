/- # The interchange form of arguments

Which form an argument takes in a call: decimal text for integers, marked
hexadecimal text for byte strings and addresses, and lists of such forms for
lists and tuples. The shape that a type's text is read as brings every value of
the type into this form. An address may be spelled in several ways, which all
have one encoding and one form.

Key definitions: `AbiType.interchange`, `AbiType.canonical`.
Key theorems: `ArgType.normalize_shape`, `AbiType.encode_canonical`,
`Entry.nameArguments_eq`.
-/
import Chronicle.Proofs.EncodingSizes
import Chronicle.Proofs.Shapes
import Chronicle.Registry.Entry

namespace Chronicle

namespace AbiType

mutual

/-- The form of an argument in a call. -/
def interchange : AbiType → Value → Value
  | .address, .text s => .text (Hex.marked (addressBytes s))
  | .array item _, .list vs => .list (vs.map (interchange item))
  | .sequence item, .list vs => .list (vs.map (interchange item))
  | .tuple items, .list vs => .list (interchangeOf items vs)
  | _, .int n => .text (Numeral.text n)
  | _, .bytes bs => .text (Hex.marked bs)
  | _, v => v

/-- The forms of arguments, one by one. -/
def interchangeOf : List AbiType → List Value → List Value
  | t :: ts, v :: vs => interchange t v :: interchangeOf ts vs
  | _, _ => []

end

mutual

/-- The argument with its addresses in lowercase after a mark, however they are spelled. -/
def canonical : AbiType → Value → Value
  | .address, .text s => .text (Hex.marked (addressBytes s))
  | .array item _, .list vs => .list (vs.map (canonical item))
  | .sequence item, .list vs => .list (vs.map (canonical item))
  | .tuple items, .list vs => .list (canonicalOf items vs)
  | _, v => v

/-- The arguments in this form, one by one. -/
def canonicalOf : List AbiType → List Value → List Value
  | t :: ts, v :: vs => canonical t v :: canonicalOf ts vs
  | _, _ => []

end

/-! ### Spellings of addresses -/

theorem encodeItems_map {item : AbiType} {f : Value → Value} {vs : List Value}
    (h : ∀ v ∈ vs, encode item (f v) = encode item v) :
    encodeItems item (vs.map f) = encodeItems item vs := by
  rw [encodeItems, List.map_map]
  exact List.map_congr_left fun v hmem => congrArg (Part.mk item.isDynamic) (h v hmem)

mutual

/-- The encoding does not depend on how addresses are spelled. -/
theorem encode_canonical : ∀ {t : AbiType} {v : Value}, t.admits (canonical t v) = true →
    encode t (canonical t v) = encode t v
  | .uint _, .int _, _ => rfl
  | .int _, .int _, _ => rfl
  | .address, .text s, _ => congrArg (fun bs => wordOf (bigEndian bs)) (addressBytes_marked _)
  | .bool, .bool _, _ => rfl
  | .fixedBytes _, .bytes _, _ => rfl
  | .bytes, .bytes _, _ => rfl
  | .string, .text _, _ => rfl
  | .array item _, .list vs, hv => by
    obtain ⟨-, hvs⟩ := Bool.and_eq_true_iff.1 hv
    rw [List.all_map] at hvs
    have hitems : encodeItems item (vs.map (canonical item)) = encodeItems item vs :=
      encodeItems_map fun v hmem => encode_canonical (List.all_eq_true.1 hvs v hmem)
    exact congrArg Part.frame hitems
  | .sequence item, .list vs, hvs => by
    have hvs : (vs.map (canonical item)).all (admits item) = true := hvs
    rw [List.all_map] at hvs
    have hitems : encodeItems item (vs.map (canonical item)) = encodeItems item vs :=
      encodeItems_map fun v hmem => encode_canonical (List.all_eq_true.1 hvs v hmem)
    have hencode : ∀ ws, encode (.sequence item) (.list ws) =
        wordOf ws.length ++ Part.frame (encodeItems item ws) := fun _ => rfl
    rw [canonical, hencode, hencode, hitems, List.length_map]
  | .tuple items, .list vs, hv => by
    rw [canonical, encode, encode, encodeMembers_canonicalOf hv]

theorem encodeMembers_canonicalOf : ∀ {ts : List AbiType} {vs : List Value},
    allAdmit ts (canonicalOf ts vs) = true →
      encodeMembers ts (canonicalOf ts vs) = encodeMembers ts vs
  | [], _, _ => by rw [encodeMembers, encodeMembers] <;> simp
  | _ :: _, [], _ => rfl
  | t :: ts, v :: vs, hvs => by
    obtain ⟨hv, hvs⟩ := Bool.and_eq_true_iff.1 hvs
    rw [canonicalOf, encodeMembers, encode_canonical hv, encodeMembers_canonicalOf hvs]
    rfl

end

mutual

/-- The form in a call does not depend on how addresses are spelled. -/
theorem interchange_canonical : ∀ {t : AbiType} {v : Value}, t.admits (canonical t v) = true →
    interchange t (canonical t v) = interchange t v
  | .uint _, .int _, _ => rfl
  | .int _, .int _, _ => rfl
  | .address, .text s, _ => congrArg (fun bs => Value.text (Hex.marked bs)) (addressBytes_marked _)
  | .bool, .bool _, _ => rfl
  | .fixedBytes _, .bytes _, _ => rfl
  | .bytes, .bytes _, _ => rfl
  | .string, .text _, _ => rfl
  | .array item _, .list vs, hv => by
    obtain ⟨-, hvs⟩ := Bool.and_eq_true_iff.1 hv
    rw [List.all_map] at hvs
    rw [canonical, interchange, interchange, List.map_map]
    exact congrArg Value.list (List.map_congr_left fun v hmem =>
      interchange_canonical (List.all_eq_true.1 hvs v hmem))
  | .sequence item, .list vs, hvs => by
    have hvs : (vs.map (canonical item)).all (admits item) = true := hvs
    rw [List.all_map] at hvs
    rw [canonical, interchange, interchange, List.map_map]
    exact congrArg Value.list (List.map_congr_left fun v hmem =>
      interchange_canonical (List.all_eq_true.1 hvs v hmem))
  | .tuple items, .list vs, hv => by
    rw [canonical, interchange, interchange, interchangeOf_canonicalOf hv]

theorem interchangeOf_canonicalOf : ∀ {ts : List AbiType} {vs : List Value},
    allAdmit ts (canonicalOf ts vs) = true →
      interchangeOf ts (canonicalOf ts vs) = interchangeOf ts vs
  | [], _, _ => by rw [interchangeOf, interchangeOf] <;> simp
  | _ :: _, [], _ => rfl
  | t :: ts, v :: vs, hvs => by
    obtain ⟨hv, hvs⟩ := Bool.and_eq_true_iff.1 hvs
    rw [canonicalOf, interchangeOf, interchange_canonical hv, interchangeOf_canonicalOf hvs,
      interchangeOf]

end

theorem length_interchangeOf : ∀ {ts : List AbiType} {vs : List Value}, allAdmit ts vs = true →
    (interchangeOf ts vs).length = ts.length
  | [], [], _ => rfl
  | t :: ts, v :: vs, h => by
    obtain ⟨-, hvs⟩ := Bool.and_eq_true_iff.1 h
    rw [interchangeOf, List.length_cons, List.length_cons, length_interchangeOf hvs]

/-! ### Normalizing -/

/-- A number that belongs to a supported type fits into a word. -/
theorem natAbs_le_of_admits : ∀ {t : AbiType} {n : Int}, t.Supported → t.admits (.int n) = true →
    n.natAbs ≤ capacity 256
  | .uint bits, _, h, hn => by
    obtain ⟨hlow, hhigh⟩ := Bool.and_eq_true_iff.1 hn
    have hcapacity : capacity bits ≤ capacity 256 := capacity_le (ArgType.isIntegerSize_le h)
    have hlow := of_decide_eq_true hlow
    have hhigh := of_decide_eq_true hhigh
    omega
  | .int bits, _, h, hn => by
    obtain ⟨hlow, hhigh⟩ := Bool.and_eq_true_iff.1 hn
    have hbits : bits ≤ 256 := ArgType.isIntegerSize_le h
    have hcapacity : capacity (bits - 1) ≤ capacity 256 := capacity_le (by omega)
    have hlow := of_decide_eq_true hlow
    have hhigh := of_decide_eq_true hhigh
    omega

end AbiType

/-- A number that fits into a word is short enough to be written. -/
theorem Numeral.write?_of_natAbs_le {n : Int} (h : n.natAbs ≤ capacity 256) :
    write? n = some (text n) := by
  have hpower : capacity 256 < 10 ^ 78 := by decide
  have hlength : n.natAbs.repr.length ≤ 78 :=
    (Nat.length_repr_le_iff (by decide)).2 (Nat.lt_of_le_of_lt h hpower)
  exact write?_eq_some_iff.2 ⟨Nat.le_trans hlength (by decide), rfl⟩

namespace Shape

theorem normalizeLeaf_int {n : Int} (h : n.natAbs ≤ capacity 256) :
    normalizeLeaf false (.int n) = .ok (.text (Numeral.text n)) := by
  rw [normalizeLeaf, Numeral.write?_of_natAbs_le h]

theorem normalizeEach_eq_ok {f : Value → Except Fault Value} {g : Value → Value} :
    ∀ {vs : List Value}, (∀ v ∈ vs, f v = .ok (g v)) → normalizeEach f vs = .ok (vs.map g)
  | [], _ => rfl
  | v :: vs, h => by
    have hrest : normalizeEach f vs = .ok (vs.map g) :=
      normalizeEach_eq_ok fun w hw => h w (List.mem_cons_of_mem v hw)
    rw [normalizeEach, bind_of_ok (h v List.mem_cons_self), bind_of_ok hrest, List.map_cons]

theorem normalize_listOf {shape : Shape} {vs ws : List Value}
    (h : normalizeEach shape.normalize vs = .ok ws) :
    (listOf shape).normalize (.list vs) = .ok (.list ws) :=
  bind_of_ok h _

theorem normalize_tupleOf {shapes : List Shape} {vs ws : List Value}
    (h : normalizeMembers shapes vs = .ok ws) :
    (tupleOf shapes).normalize (.list vs) = .ok (.list ws) :=
  bind_of_ok h _

end Shape

namespace ArgType

open AbiType (allAdmit interchange interchangeOf AllSupported)

mutual

/-- The shape of a type brings every value of the type into its form. -/
theorem normalize_shape : ∀ {t : ArgType} {v : Value}, t.abi.Supported → t.abi.admits v = true →
    t.shape.normalize v = .ok (interchange t.abi v)
  | .uint _, .int _, h, hv => Shape.normalizeLeaf_int (AbiType.natAbs_le_of_admits h hv)
  | .int _, .int _, h, hv => Shape.normalizeLeaf_int (AbiType.natAbs_le_of_admits h hv)
  | .address, .text s, _, hv => by
    obtain ⟨hlength, hmarked⟩ := Bool.and_eq_true_iff.1 hv
    have hspelled := Address.spelled_marked (of_decide_eq_true hlength)
    rw [← of_decide_eq_true hmarked] at hspelled
    have hform : AbiType.interchange .address (.text s) = .text s :=
      congrArg Value.text (of_decide_eq_true hmarked).symm
    rw [abi, hform, shape, Shape.normalize, Shape.normalizeLeaf, if_pos rfl, hspelled]
  | .bool, .bool _, _, _ => rfl
  | .fixedBytes _, .bytes _, _, _ => rfl
  | .function, .bytes _, _, _ => rfl
  | .bytes, .bytes _, _, _ => rfl
  | .string, .text _, _, _ => rfl
  | .array item _, .list vs, h, hv => by
    obtain ⟨-, hvs⟩ := Bool.and_eq_true_iff.1 hv
    have hitems := Shape.normalizeEach_eq_ok fun v hmem =>
      normalize_shape h.2 (List.all_eq_true.1 hvs v hmem)
    exact Shape.normalize_listOf hitems
  | .sequence item, .list vs, h, hvs => by
    have hitem : item.abi.Supported := h
    have hitems := Shape.normalizeEach_eq_ok fun v hmem =>
      normalize_shape hitem (List.all_eq_true.1 hvs v hmem)
    exact Shape.normalize_listOf hitems
  | .tuple _, .list _, h, hv => Shape.normalize_tupleOf (normalizeMembers_shapesOf h.2 hv)

theorem normalizeMembers_shapesOf : ∀ {ts : List ArgType} {vs : List Value},
    AllSupported (abiOf ts) → allAdmit (abiOf ts) vs = true →
      Shape.normalizeMembers (shapesOf ts) vs = .ok (interchangeOf (abiOf ts) vs)
  | [], [], _, _ => rfl
  | t :: ts, v :: vs, h, hvs => by
    obtain ⟨hv, hvs⟩ := Bool.and_eq_true_iff.1 hvs
    rw [shapesOf, Shape.normalizeMembers, bind_of_ok (normalize_shape h.1 hv),
      bind_of_ok (normalizeMembers_shapesOf h.2 hvs)]
    rfl

end

end ArgType

namespace Entry

theorem typesOf_text {ts : List ArgType} (h : AbiType.AllSupported (ArgType.abiOf ts)) :
    typesOf (ts.map ArgType.text) = .ok (ArgType.abiOf ts) := by
  induction ts with
  | nil => rfl
  | cons t ts ih =>
    rw [List.map_cons, typesOf, bind_of_ok (ArgType.ofText_text h.1), bind_of_ok (ih h.2)]
    rfl

/-- Arguments get their names in order. -/
theorem nameArguments_eq : ∀ {names : List String} {ts : List ArgType} {vs : List Value},
    names.length = ts.length → AbiType.AllSupported (ArgType.abiOf ts) →
      AbiType.allAdmit (ArgType.abiOf ts) vs = true →
        nameArguments names (ts.map ArgType.text) vs =
          .ok (names.zip (AbiType.interchangeOf (ArgType.abiOf ts) vs))
  | [], [], [], _, _, _ => rfl
  | name :: names, t :: ts, v :: vs, hlength, h, hvs => by
    obtain ⟨hv, hvs⟩ := Bool.and_eq_true_iff.1 hvs
    have hfirst : (Shape.ofText t.text).normalize v = .ok (t.abi.interchange v) := by
      rw [ArgType.ofText_shape]
      exact ArgType.normalize_shape h.1 hv
    have hrest := nameArguments_eq (Nat.succ.inj hlength) h.2 hvs
    rw [List.map_cons, nameArguments, bind_of_ok hfirst, bind_of_ok hrest]
    rfl

end Entry

end Chronicle
