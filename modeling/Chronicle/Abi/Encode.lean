/- # Encoding arguments

The standard encoding of values: a word for each number, and for a byte string
its length and its padded bytes. The components of a tuple and the items of a
list are laid out in a frame, whose head holds static values and the offsets
of dynamic ones, and whose tail holds the dynamic values in order.

Key definitions: `AbiType.admits`, `AbiType.encode`, `encodeArguments`.
Key theorem: `Part.length_head`.
-/
import Chronicle.Abi.Type
import Chronicle.Abi.Word
import Chronicle.Hex
import Chronicle.Value

namespace Chronicle

/-! ### Frames -/

/-- An encoded component of a frame. -/
structure Part where
  /-- Whether the component stands in the tail. -/
  dynamic : Bool
  content : Bytes

namespace Part

/-- The bytes that a component takes up in the head. -/
def headSize (part : Part) : Nat := if part.dynamic then 32 else part.content.length

/-- The bytes that a component takes up in the tail. -/
def rest (part : Part) : Bytes := if part.dynamic then part.content else []

/-- The head of a frame, where the next dynamic component will stand at `offset`. -/
def head (offset : Nat) : List Part → Bytes
  | [] => []
  | part :: parts =>
    (if part.dynamic then wordOf offset else part.content) ++
      head (offset + part.rest.length) parts

/-- The bytes of the head of a frame. -/
def headSizeOf : List Part → Nat
  | [] => 0
  | part :: parts => part.headSize + headSizeOf parts

/-- The head and the tail of a frame. -/
def frame (parts : List Part) : Bytes := head (headSizeOf parts) parts ++ parts.flatMap rest

theorem length_head (offset : Nat) (parts : List Part) :
    (head offset parts).length = headSizeOf parts := by
  induction parts generalizing offset with
  | nil => rfl
  | cons part parts ih =>
    cases h : part.dynamic <;> simp [head, headSizeOf, headSize, h, ih]

end Part

namespace AbiType

/-! ### Values of a type -/

/-- The bytes that the text of an address stands for. -/
def addressBytes (s : String) : Bytes := (Hex.parse s).toOption.getD []

@[simp] theorem addressBytes_marked (bs : Bytes) : addressBytes (Hex.marked bs) = bs := by
  rw [addressBytes, Hex.parse_marked]
  rfl

mutual

/-- Whether a value belongs to a type, in the form that decoding gives. -/
def admits : AbiType → Value → Bool
  | .uint bits, .int n => 0 ≤ n && n < capacity bits
  | .int bits, .int n => -(capacity (bits - 1) : Int) ≤ n && n < capacity (bits - 1)
  | .address, .text s => (addressBytes s).length = 20 && s = Hex.marked (addressBytes s)
  | .bool, .bool _ => true
  | .fixedBytes size, .bytes bs => bs.length = size
  | .bytes, .bytes _ => true
  | .string, .text _ => true
  | .array item length, .list vs => vs.length = length && vs.all (admits item)
  | .sequence item, .list vs => vs.all (admits item)
  | .tuple items, .list vs => allAdmit items vs
  | _, _ => false

/-- Whether the values belong to the types, one by one. -/
def allAdmit : List AbiType → List Value → Bool
  | [], [] => true
  | t :: ts, v :: vs => admits t v && allAdmit ts vs
  | _, _ => false

end

/-! ### Their encodings -/

mutual

/-- The encoding of a value of a type. -/
def encode : AbiType → Value → Bytes
  | .uint _, .int n => wordOf n.toNat
  | .int _, .int n => wordOf (n % capacity 256).toNat
  | .address, .text s => wordOf (bigEndian (addressBytes s))
  | .bool, .bool b => wordOf b.toNat
  | .fixedBytes _, .bytes bs => padded bs
  | .bytes, .bytes bs => wordOf bs.length ++ padded bs
  | .string, .text s => wordOf (Utf8.encode s).length ++ padded (Utf8.encode s)
  | .array item _, .list vs => Part.frame (vs.map fun v => ⟨item.isDynamic, encode item v⟩)
  | .sequence item, .list vs =>
    wordOf vs.length ++ Part.frame (vs.map fun v => ⟨item.isDynamic, encode item v⟩)
  | .tuple items, .list vs => Part.frame (encodeMembers items vs)
  | _, _ => []

/-- The encodings of the components of a tuple. -/
def encodeMembers : List AbiType → List Value → List Part
  | t :: ts, v :: vs => ⟨t.isDynamic, encode t v⟩ :: encodeMembers ts vs
  | _, _ => []

end

end AbiType

/-- The encoding of a list of arguments. -/
def encodeArguments (types : List AbiType) (vs : List Value) : Bytes :=
  Part.frame (AbiType.encodeMembers types vs)

end Chronicle
