/- # Types as signatures write them

The types that arguments can have, as they are written in a signature: integers
and byte strings with their sizes, lists with the length behind them, and tuples
in parentheses. The text of such a type is read back to it, so that a signature
says what its calldata is made of.

Key definitions: `AbiType.Supported`, `ArgType`, `ArgType.text`, `ArgType.abi`.
Key theorem: `ArgType.ofText_text`.
-/
import Chronicle.Abi.TypeText
import Chronicle.Fault
import Chronicle.Proofs.TypeReading

namespace Chronicle

/-! ### Supported types -/

namespace AbiType

mutual

/-- The type is no fixed-point number, its sizes can be written, and its lists of a fixed length and
its tuples are not empty. -/
def Supported : AbiType → Prop
  | .uint bits => TypeExpr.isIntegerSize bits = true
  | .int bits => TypeExpr.isIntegerSize bits = true
  | .ufixed _ _ => False
  | .fixed _ _ => False
  | .fixedBytes size => 0 < size ∧ size ≤ 32
  | .array item length => 0 < length ∧ Supported item
  | .sequence item => Supported item
  | .tuple items => items ≠ [] ∧ AllSupported items
  | .address => True
  | .bool => True
  | .bytes => True
  | .string => True

/-- All types are supported. -/
def AllSupported : List AbiType → Prop
  | [] => True
  | t :: ts => Supported t ∧ AllSupported ts

end

end AbiType

/-- A type as it is written. A function is written by a name of its own and stands for the bytes of
its address and selector. -/
inductive ArgType
  | uint (bits : Nat)
  | int (bits : Nat)
  | address
  | bool
  | fixedBytes (size : Nat)
  | function
  | bytes
  | string
  /-- A list of exactly `length` items. -/
  | array (item : ArgType) (length : Nat)
  /-- A list of any length. -/
  | sequence (item : ArgType)
  | tuple (items : List ArgType)

namespace ArgType

mutual

/-- The type that is meant. -/
def abi : ArgType → AbiType
  | .uint bits => .uint bits
  | .int bits => .int bits
  | .address => .address
  | .bool => .bool
  | .fixedBytes size => .fixedBytes size
  | .function => .fixedBytes 24
  | .bytes => .bytes
  | .string => .string
  | .array item length => .array (abi item) length
  | .sequence item => .sequence (abi item)
  | .tuple items => .tuple (abiOf items)

/-- The types that are meant. -/
def abiOf : List ArgType → List AbiType
  | [] => []
  | t :: ts => abi t :: abiOf ts

end

theorem length_abiOf : ∀ ts : List ArgType, (abiOf ts).length = ts.length
  | [] => rfl
  | t :: ts => by rw [abiOf, List.length_cons, List.length_cons, length_abiOf ts]

mutual

/-- The characters of a type. -/
def chars : ArgType → List Char
  | .uint bits => ['u', 'i', 'n', 't'] ++ bits.repr.toList
  | .int bits => ['i', 'n', 't'] ++ bits.repr.toList
  | .address => ['a', 'd', 'd', 'r', 'e', 's', 's']
  | .bool => ['b', 'o', 'o', 'l']
  | .fixedBytes size => ['b', 'y', 't', 'e', 's'] ++ size.repr.toList
  | .function => ['f', 'u', 'n', 'c', 't', 'i', 'o', 'n']
  | .bytes => ['b', 'y', 't', 'e', 's']
  | .string => ['s', 't', 'r', 'i', 'n', 'g']
  | .array item length => chars item ++ '[' :: (length.repr.toList ++ [']'])
  | .sequence item => chars item ++ ['[', ']']
  | .tuple items => '(' :: (List.intercalate [','] (charsOf items) ++ [')'])

/-- The characters of each type. -/
def charsOf : List ArgType → List (List Char)
  | [] => []
  | t :: ts => chars t :: charsOf ts

end

/-- The text of a type. -/
def text (t : ArgType) : String := String.ofList t.chars

end ArgType

/-! ### Dimensions -/

namespace TypeExpr

/-- The expression with one more dimension around it. -/
def addDimension (d : Dimension) : TypeExpr → TypeExpr
  | .named base size dimensions => .named base size (dimensions ++ [d])
  | .tuple parts dimensions => .tuple parts (dimensions ++ [d])

theorem render_addDimension (d : Dimension) (e : TypeExpr) :
    render (e.addDimension d) = render e ++ renderDimension d := by
  cases e <;> simp [addDimension, render]

theorem wellFormed_addDimension {d : Dimension} (hd : ∀ n, d = some n → 0 < n) {e : TypeExpr}
    (he : e.WellFormed) : (e.addDimension d).WellFormed := by
  have hlengths : ∀ {dimensions : List Dimension}, HasPositiveLengths dimensions →
      HasPositiveLengths (dimensions ++ [d]) := by
    intro dimensions h n hn
    rcases List.mem_append.1 hn with hn | hn
    · exact h n hn
    · exact hd n (List.mem_singleton.1 hn).symm
  cases e with
  | named base size dimensions => exact ⟨he.1, he.2.1, he.2.2.1, hlengths he.2.2.2⟩
  | tuple parts dimensions => exact ⟨he.1, he.2.1, hlengths he.2.2⟩

theorem hasAllowedSizes_addDimension (d : Dimension) (e : TypeExpr) :
    hasAllowedSizes (e.addDimension d) = hasAllowedSizes e := by
  cases e <;> rfl

theorem withDimensions_append (t : AbiType) (dimensions : List Dimension) (d : Dimension) :
    withDimensions t (dimensions ++ [d]) = withDimensions (withDimensions t dimensions) [d] :=
  List.foldl_append ..

theorem resolve_addDimension (d : Dimension) {e : TypeExpr} {t : AbiType}
    (h : resolve e = .ok t) : resolve (e.addDimension d) = .ok (withDimensions t [d]) := by
  cases e with
  | named base size dimensions =>
    simp only [resolve, bind_eq_ok, Except.ok.injEq] at h
    obtain ⟨inner, hinner, rfl⟩ := h
    rw [addDimension, resolve, hinner, ← withDimensions_append]
    rfl
  | tuple parts dimensions =>
    simp only [resolve, bind_eq_ok, Except.ok.injEq] at h
    obtain ⟨ts, hts, rfl⟩ := h
    rw [addDimension, resolve, hts, ← withDimensions_append]
    rfl

theorem toType_addDimension {d : Dimension} {e : TypeExpr} {t : AbiType}
    (hsizes : hasAllowedSizes e = true) (h : resolve e = .ok t) :
    (e.addDimension d).toType = .ok (withDimensions t [d]) := by
  have hresolve := resolve_addDimension d h
  have hallowed : hasAllowedSizes (e.addDimension d) = true := by
    rw [hasAllowedSizes_addDimension, hsizes]
  cases e with
  | named base size dimensions =>
    rw [addDimension, toType, ← addDimension, hresolve, if_pos hallowed]
    · simp
  | tuple parts dimensions =>
    rw [addDimension, toType, ← addDimension, hresolve, if_pos hallowed]
    · simp

end TypeExpr

namespace ArgType

open TypeExpr (render renderParts addDimension)

/-! ### The expression of a type -/

mutual

/-- The expression of a type. -/
def expr : ArgType → TypeExpr
  | .uint bits => .named "uint" (some (.one bits)) []
  | .int bits => .named "int" (some (.one bits)) []
  | .address => .named "address" none []
  | .bool => .named "bool" none []
  | .fixedBytes size => .named "bytes" (some (.one size)) []
  | .function => .named "function" none []
  | .bytes => .named "bytes" none []
  | .string => .named "string" none []
  | .array item length => (expr item).addDimension (some length)
  | .sequence item => (expr item).addDimension none
  | .tuple items => .tuple (exprsOf items) []

/-- The expressions of the types. -/
def exprsOf : List ArgType → List TypeExpr
  | [] => []
  | t :: ts => expr t :: exprsOf ts

end

mutual

theorem render_expr : ∀ t : ArgType, render t.expr = t.chars
  | .uint bits => List.append_nil _
  | .int bits => List.append_nil _
  | .address => rfl
  | .bool => rfl
  | .fixedBytes size => List.append_nil _
  | .function => rfl
  | .bytes => rfl
  | .string => rfl
  | .array item length => by
    rw [expr, TypeExpr.render_addDimension, render_expr item]
    rfl
  | .sequence item => by
    rw [expr, TypeExpr.render_addDimension, render_expr item]
    rfl
  | .tuple items => by
    have hparts := renderParts_exprsOf items
    have hrender : render (expr (.tuple items)) =
        '(' :: renderParts (exprsOf items) ++ ')' :: [] := rfl
    rw [hrender, hparts]
    rfl

theorem renderParts_exprsOf : ∀ ts : List ArgType,
    renderParts (exprsOf ts) = List.intercalate [','] (charsOf ts)
  | [] => rfl
  | [t] => by
    rw [exprsOf, exprsOf, renderParts, render_expr t, charsOf, charsOf, List.intercalate_singleton]
  | t :: t' :: ts => by
    have ih := renderParts_exprsOf (t' :: ts)
    rw [exprsOf, charsOf] at ih
    rw [exprsOf, exprsOf, renderParts, ih, render_expr t, charsOf, charsOf,
      List.intercalate_cons_cons]
    · simp
    · simp

end

theorem isIntegerSize_pos {bits : Nat} (h : TypeExpr.isIntegerSize bits = true) : 0 < bits := by
  simp only [TypeExpr.isIntegerSize, Bool.and_eq_true, decide_eq_true_eq] at h
  omega

theorem isIntegerSize_le {bits : Nat} (h : TypeExpr.isIntegerSize bits = true) : bits ≤ 256 := by
  simp only [TypeExpr.isIntegerSize, Bool.and_eq_true, decide_eq_true_eq] at h
  omega

theorem hasPositiveLengths_nil : TypeExpr.HasPositiveLengths [] := by
  simp [TypeExpr.HasPositiveLengths]

mutual

theorem wellFormed_expr : ∀ {t : ArgType}, t.abi.Supported → t.expr.WellFormed
  | .uint _, h => ⟨by decide, by decide, isIntegerSize_pos h, hasPositiveLengths_nil⟩
  | .int _, h => ⟨by decide, by decide, isIntegerSize_pos h, hasPositiveLengths_nil⟩
  | .address, _ => ⟨by decide, by decide, trivial, hasPositiveLengths_nil⟩
  | .bool, _ => ⟨by decide, by decide, trivial, hasPositiveLengths_nil⟩
  | .fixedBytes _, h => ⟨by decide, by decide, h.1, hasPositiveLengths_nil⟩
  | .function, _ => ⟨by decide, by decide, trivial, hasPositiveLengths_nil⟩
  | .bytes, _ => ⟨by decide, by decide, trivial, hasPositiveLengths_nil⟩
  | .string, _ => ⟨by decide, by decide, trivial, hasPositiveLengths_nil⟩
  | .array _ length, h =>
    TypeExpr.wellFormed_addDimension (fun n hn => Option.some.inj hn ▸ h.1) (wellFormed_expr h.2)
  | .sequence _, h => TypeExpr.wellFormed_addDimension (fun _ hn => by cases hn) (wellFormed_expr h)
  | .tuple items, h => by
    refine ⟨?_, allWellFormed_exprsOf h.2, hasPositiveLengths_nil⟩
    cases items with
    | nil => exact absurd rfl h.1
    | cons t ts => exact List.cons_ne_nil _ _

theorem allWellFormed_exprsOf : ∀ {ts : List ArgType}, AbiType.AllSupported (abiOf ts) →
    TypeExpr.AllWellFormed (exprsOf ts)
  | [], _ => trivial
  | _ :: _, h => ⟨wellFormed_expr h.1, allWellFormed_exprsOf h.2⟩

end

mutual

theorem hasAllowedSizes_expr : ∀ {t : ArgType}, t.abi.Supported →
    TypeExpr.hasAllowedSizes t.expr = true
  | .uint _, h => h
  | .int _, h => h
  | .address, _ => rfl
  | .bool, _ => rfl
  | .fixedBytes _, h => decide_eq_true h.2
  | .function, _ => rfl
  | .bytes, _ => rfl
  | .string, _ => rfl
  | .array _ _, h => (TypeExpr.hasAllowedSizes_addDimension _ _).trans (hasAllowedSizes_expr h.2)
  | .sequence _, h => (TypeExpr.hasAllowedSizes_addDimension _ _).trans (hasAllowedSizes_expr h)
  | .tuple _, h => allHaveAllowedSizes_exprsOf h.2

theorem allHaveAllowedSizes_exprsOf : ∀ {ts : List ArgType}, AbiType.AllSupported (abiOf ts) →
    TypeExpr.allHaveAllowedSizes (exprsOf ts) = true
  | [], _ => rfl
  | _ :: _, h => by
    rw [exprsOf, TypeExpr.allHaveAllowedSizes, hasAllowedSizes_expr h.1,
      allHaveAllowedSizes_exprsOf h.2]
    rfl

end

mutual

theorem resolve_expr : ∀ t : ArgType, TypeExpr.resolve t.expr = .ok t.abi
  | .uint _ => rfl
  | .int _ => rfl
  | .address => rfl
  | .bool => rfl
  | .fixedBytes _ => rfl
  | .function => rfl
  | .bytes => rfl
  | .string => rfl
  | .array item length => TypeExpr.resolve_addDimension (some length) (resolve_expr item)
  | .sequence item => TypeExpr.resolve_addDimension none (resolve_expr item)
  | .tuple items => by
    rw [expr, TypeExpr.resolve, resolveAll_exprsOf items]
    rfl

theorem resolveAll_exprsOf : ∀ ts : List ArgType,
    TypeExpr.resolveAll (exprsOf ts) = .ok (abiOf ts)
  | [] => rfl
  | t :: ts => by
    rw [exprsOf, TypeExpr.resolveAll, resolve_expr t, resolveAll_exprsOf ts]
    rfl

end

theorem toType_expr : ∀ {t : ArgType}, t.abi.Supported → t.expr.toType = .ok t.abi
  | .uint _, h => if_pos h
  | .int _, h => if_pos h
  | .address, _ => rfl
  | .bool, _ => rfl
  | .fixedBytes _, h => if_pos (decide_eq_true h.2)
  | .function, _ => rfl
  | .bytes, _ => rfl
  | .string, _ => rfl
  | .array item _, h => TypeExpr.toType_addDimension (hasAllowedSizes_expr h.2) (resolve_expr item)
  | .sequence item, h => TypeExpr.toType_addDimension (hasAllowedSizes_expr h) (resolve_expr item)
  | .tuple items, h => (if_pos (allHaveAllowedSizes_exprsOf h.2)).trans (resolve_expr (.tuple items))

/-- A supported type is read back from its text. -/
theorem ofText_text {t : ArgType} (h : t.abi.Supported) : AbiType.ofText t.text = .ok t.abi := by
  have hread : TypeExpr.read? t.text.toList = some t.expr := by
    rw [text, String.toList_ofList, ← render_expr]
    exact TypeExpr.read?_render (wellFormed_expr h)
  rw [AbiType.ofText, hread]
  exact toType_expr h

end ArgType

end Chronicle
