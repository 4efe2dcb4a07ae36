/- # Decoding calldata

Arguments are laid out as the components of a tuple: a head with static values
in place and an offset for each dynamic one, and a tail. Offsets count from the
start of the tuple or array that holds them. Reading is strict: a word's padding
has to be what an encoder would write, an offset has to point behind the head
and inside of the data, and all of the data called for has to be there. Bytes
behind the last value are not looked at. Fixed-point numbers are tested as the
integers of their size.

The head is tested before anything is decoded, so that a broken offset counts
before a broken value elsewhere.

Key definitions: `wordAt`, `AbiType.decodeAt`, `decodeArguments`.
-/
import Chronicle.Abi.Type
import Chronicle.Abi.Word
import Chronicle.Hex
import Chronicle.Value

namespace Chronicle

/-- Why data is no encoding of a type: it does not have the layout, or a string in it is no
UTF-8. -/
inductive Flaw
  | layout
  | unicode
  deriving DecidableEq, Repr

/-- The `count` bytes from `position` on. -/
def bytesAt (data : Bytes) (position count : Nat) : Except Flaw Bytes :=
  let bs := (data.drop position).take count
  if bs.length = count then .ok bs else .error .layout

/-- The word of thirty-two bytes at `position`. -/
def wordAt (data : Bytes) (position : Nat) : Except Flaw Nat := do
  let bs ← bytesAt data position 32
  .ok (bigEndian bs)

/-- Passes if the condition holds. -/
def require (condition : Bool) : Except Flaw Unit :=
  if condition then .ok () else .error .layout

/-- The signed number of a word, which has to be extended by its sign. -/
def signedOf (bits word : Nat) : Except Flaw Int :=
  let low := word % capacity bits
  if low < capacity (bits - 1) then
    if word = low then .ok low else .error .layout
  else if word = capacity 256 - capacity bits + low then .ok ((low : Int) - capacity bits)
  else .error .layout

/-- What stands for a fixed-point number, which has no interchange form. -/
def fixedPoint : Value := .foreign "decimal"

/-- The bytes at `position`, after their length and padded with zeros to whole words. -/
def paddedBytesAt (data : Bytes) (position : Nat) : Except Flaw Bytes := do
  let length ← wordAt data position
  require (length < capacity 63)
  let bs ← bytesAt data (position + 32) (paddedSize length)
  require ((bs.drop length).all (· == 0))
  .ok (bs.take length)

/-- Tests the offset at `position` against the start and the end of the head that holds it. -/
def checkOffset (data : Bytes) (start stop position : Nat) : Except Flaw Unit := do
  let offset ← wordAt data position
  require (stop ≤ start + offset && start + offset < data.length)

/-- Tests `count` offsets in a row from `position` on. -/
def checkOffsets (data : Bytes) (start stop : Nat) : (count position : Nat) → Except Flaw Unit
  | 0, _ => .ok ()
  | count + 1, position => do
    checkOffset data start stop position
    checkOffsets data start stop count (position + 32)

/-- Reads `count` values, each `stride` bytes behind the last one. -/
def readEach (read : Nat → Except Flaw Value) (stride : Nat) :
    (count position : Nat) → Except Flaw (List Value)
  | 0, _ => .ok []
  | count + 1, position => do
    let v ← read position
    let vs ← readEach read stride count (position + stride)
    .ok (v :: vs)

/-- The value of a component whose place in the head is `position`: a static one stands there, and
a dynamic one where the offset in its place points, counted from `start`. -/
def readComponent (data : Bytes) (start : Nat) (dynamic : Bool)
    (read : Nat → Except Flaw Value) (position : Nat) : Except Flaw Value :=
  if dynamic then do
    let offset ← wordAt data position
    read (start + offset)
  else read position

/-- The list of `length` items of a type whose head starts at `start`, where `read` gives the item
at a position. -/
def readItems (data : Bytes) (item : AbiType) (read : Nat → Except Flaw Value)
    (length start : Nat) : Except Flaw Value := do
  (if item.isDynamic then checkOffsets data start (start + 32 * length) length start else .ok ())
  let vs ← readEach (readComponent data start item.isDynamic read) (32 * item.words) length start
  .ok (.list vs)

namespace AbiType

mutual

/-- The value of a type at a position in the data. -/
def decodeAt (data : Bytes) : AbiType → Nat → Except Flaw Value
  | .uint bits, position => do
    let word ← wordAt data position
    require (word < capacity bits)
    .ok (.int word)
  | .int bits, position => do
    let word ← wordAt data position
    let n ← signedOf bits word
    .ok (.int n)
  | .ufixed bits _, position => do
    let word ← wordAt data position
    require (word < capacity bits)
    .ok fixedPoint
  | .fixed bits _, position => do
    let word ← wordAt data position
    let _ ← signedOf bits word
    .ok fixedPoint
  | .address, position => do
    let word ← wordAt data position
    require (word < capacity 160)
    .ok (.text (Hex.marked (toBigEndian 20 word)))
  | .bool, position => do
    let word ← wordAt data position
    require (word < 2)
    .ok (.bool (word == 1))
  | .fixedBytes size, position => do
    let bs ← bytesAt data position 32
    require ((bs.drop size).all (· == 0))
    .ok (.bytes (bs.take size))
  | .bytes, position => do
    let bs ← paddedBytesAt data position
    .ok (.bytes bs)
  | .string, position => do
    let bs ← paddedBytesAt data position
    match Utf8.decode? bs with
    | some s => .ok (.text s)
    | none => .error .unicode
  | .array item length, position => readItems data item (decodeAt data item) length position
  | .sequence item, position => do
    let length ← wordAt data position
    readItems data item (decodeAt data item) length (position + 32)
  | .tuple items, position => do
    checkHead data position (position + 32 * slotsOf items) items position
    let vs ← decodeMembers data position items position
    .ok (.list vs)

/-- Tests the head of a tuple from `position` on: its offsets, and its static values by decoding
them. -/
def checkHead (data : Bytes) (start stop : Nat) : List AbiType → Nat → Except Flaw Unit
  | [], _ => .ok ()
  | t :: ts, position => do
    (if t.isDynamic then checkOffset data start stop position
      else (decodeAt data t position).map fun _ => ())
    checkHead data start stop ts (position + 32 * t.words)

/-- The components of a tuple that starts at `start`, from the head position on. -/
def decodeMembers (data : Bytes) (start : Nat) : List AbiType → Nat → Except Flaw (List Value)
  | [], _ => .ok []
  | t :: ts, position => do
    let v ← readComponent data start t.isDynamic (decodeAt data t) position
    let vs ← decodeMembers data start ts (position + 32 * t.words)
    .ok (v :: vs)

end

end AbiType

/-- The arguments of the given types in the data. -/
def decodeArguments (types : List AbiType) (data : Bytes) : Except Flaw (List Value) := do
  AbiType.checkHead data 0 (32 * AbiType.slotsOf types) types 0
  AbiType.decodeMembers data 0 types 0

end Chronicle
