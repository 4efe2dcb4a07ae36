/- # Types of contract arguments

The types that calldata is made of. A type is dynamic if its values vary in
length, and then a value is reached through an offset; a static value stands
in place and takes up a fixed number of words.

Key definitions: `AbiType`, `AbiType.isDynamic`, `AbiType.words`,
`AbiType.slots`.
-/

namespace Chronicle

/-- The type of an argument. -/
inductive AbiType
  | uint (bits : Nat)
  | int (bits : Nat)
  /-- A number without a sign that has so many decimal places. -/
  | ufixed (bits places : Nat)
  /-- A number with a sign that has so many decimal places. -/
  | fixed (bits places : Nat)
  | address
  | bool
  | fixedBytes (size : Nat)
  | bytes
  | string
  /-- A list of exactly `length` items. -/
  | array (item : AbiType) (length : Nat)
  /-- A list of any length. -/
  | sequence (item : AbiType)
  | tuple (items : List AbiType)
  deriving Inhabited, Repr

namespace AbiType

mutual

/-- Whether values of the type vary in length. -/
def isDynamic : AbiType → Bool
  | .bytes => true
  | .string => true
  | .sequence _ => true
  | .array item _ => isDynamic item
  | .tuple items => anyDynamic items
  | _ => false

/-- Whether one of the types is dynamic. -/
def anyDynamic : List AbiType → Bool
  | [] => false
  | t :: ts => isDynamic t || anyDynamic ts

end

mutual

/-- The words that a value of the type takes up where it stands, one for the offset of a dynamic
value. -/
def words : AbiType → Nat
  | .array item length => if isDynamic item then 1 else length * words item
  | .tuple items => if anyDynamic items then 1 else wordsOf items
  | _ => 1

/-- The words of the head of a tuple with these components. -/
def wordsOf : List AbiType → Nat
  | [] => 0
  | t :: ts => words t + wordsOf ts

end

/-- The slots that a component counts for where the head of a tuple is measured to test offsets:
the length of a static array, whatever its items, and one for all else. -/
def slots (t : AbiType) : Nat :=
  match t with
  | .array item length => if isDynamic item then 1 else length
  | _ => 1

/-- The slots of the head of a tuple with these components. -/
def slotsOf : List AbiType → Nat
  | [] => 0
  | t :: ts => slots t + slotsOf ts

end AbiType

end Chronicle
