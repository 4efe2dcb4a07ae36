/- # The interchange form of arguments

Decoded arguments are brought into a form that loses nothing in JSON: integers
become decimal text, byte strings become marked hexadecimal text, addresses
become lowercase, and lists are gone through item by item. Which of it applies
depends on the shape of the type, which is taken from its text.

Key definitions: `Shape`, `Shape.ofText`, `Shape.normalize`.
-/
import Chronicle.Abi.Components
import Chronicle.Address
import Chronicle.Fault
import Chronicle.Numeral
import Chronicle.Value

namespace Chronicle

/-- What the text of a type says about its values: a list, a tuple, an address or anything else. -/
inductive Shape
  | address
  | other
  | listOf (item : Shape)
  | tupleOf (items : List Shape)
  deriving Inhabited, Repr

namespace Shape

/-- The shape of a type's text. The last dimension counts first. -/
def ofChars (cs : List Char) : Shape :=
  if _hlist : cs.getLast? = some ']' then .listOf (ofChars (beforeLast (· = '[') cs))
  else if _htuple : cs.head? = some '(' then
    .tupleOf ((components cs).attach.map fun ⟨piece, _⟩ => ofChars piece)
  else if cs = "address".toList then .address
  else .other
termination_by cs.length
decreasing_by
  · exact length_beforeLast _ _ (by rintro rfl; simp at _hlist)
  · exact length_lt_of_mem_components (by rintro rfl; simp at _htuple) (by assumption)

/-- The shape of a type, by its text. -/
def ofText (s : String) : Shape := ofChars s.toList

/-- The interchange form of a value that is no list and no tuple. -/
def normalizeLeaf (isAddress : Bool) : Value → Except Fault Value
  | .int n => match Numeral.write? n with
    | some s => .ok (.text s)
    | none => .error .tooManyDigits
  | .bytes bs => .ok (.text (Hex.marked bs))
  | .text s => .ok (.text (if isAddress then Address.spelled s else s))
  | v => .ok v

/-- Applies `f` to every value in order. -/
def normalizeEach (f : Value → Except Fault Value) : List Value → Except Fault (List Value)
  | [] => .ok []
  | v :: vs => do
    let w ← f v
    let ws ← normalizeEach f vs
    .ok (w :: ws)

mutual

/-- The interchange form of a value. -/
def normalize : Shape → Value → Except Fault Value
  | .address, v => normalizeLeaf true v
  | .other, v => normalizeLeaf false v
  | .listOf item, v => match v.parts? with
    | none => .error .wrongKind
    | some vs => do
      let ws ← normalizeEach (normalize item) vs
      .ok (.list ws)
  | .tupleOf items, v => match v.parts? with
    | none => .error .wrongKind
    | some vs => do
      let ws ← normalizeMembers items vs
      .ok (.list ws)

/-- The interchange forms of the components of a tuple, of which there have to be as many as there
are shapes. -/
def normalizeMembers : List Shape → List Value → Except Fault (List Value)
  | [], [] => .ok []
  | shape :: shapes, v :: vs => do
    let w ← normalize shape v
    let ws ← normalizeMembers shapes vs
    .ok (w :: ws)
  | _, _ => .error .wrongLength

end

end Shape

end Chronicle
