/- # Registered functions

A function that calls can be matched against: its selector, which is the start
of the hash of its signature, the types and names of its inputs, and where it
comes from.

Key definitions: `Entry`, `selectorOf`, `Entry.ofFragment`, `Entry.decode`.
-/
import Chronicle.Abi.Decode
import Chronicle.Abi.Fragment
import Chronicle.Abi.Normalize
import Chronicle.Abi.TypeText
import Chronicle.Family
import Chronicle.Keccak
import Chronicle.OrderedMap

namespace Chronicle

/-- A function with its selector. -/
structure Entry where
  selector : Bytes
  name : String
  signature : String
  inputTypes : List String
  inputNames : List String
  family : Family
  /-- The interface that the function was taken from. -/
  interface : String
  deriving DecidableEq, Repr

/-- The selector of a signature: the first four bytes of the hash of its text without spaces. -/
def selectorOf (signature : String) : Bytes :=
  (Keccak.hash256 (Utf8.encode (String.ofList (signature.toList.filter (· ≠ ' '))))).take 4

namespace Entry

/-- The marked text of the selector. -/
def selectorText (entry : Entry) : String := Hex.marked entry.selector

/-- The signature of the function, or only its name. -/
def label (entry : Entry) (full : Bool) : String :=
  if full then entry.signature else entry.name

/-- The entry of a function named `name`. -/
def ofFragment (fragment : Fragment) (name interface : String) (family : Family) : Entry where
  selector := selectorOf fragment.signature
  name := name
  signature := fragment.signature
  inputTypes := Param.typesOf fragment.params
  inputNames := fragment.paramNames
  family := family
  interface := interface

/-- The types that the texts stand for. -/
def typesOf : List String → Except Fault (List AbiType)
  | [] => .ok []
  | s :: ss => do
    let t ← AbiType.ofText s
    let ts ← typesOf ss
    .ok (t :: ts)

/-- The interchange forms of the arguments, each under its name. -/
def nameArguments : List String → List String → List Value → Except Fault (List (String × Value))
  | [], [], [] => .ok []
  | name :: names, type :: types, v :: vs => do
    let w ← (Shape.ofText type).normalize v
    let rest ← nameArguments names types vs
    .ok ((name, w) :: rest)
  | _, _, _ => .error .wrongLength

/-- The arguments in the bytes after the selector. -/
def decode (entry : Entry) (calldata : Bytes) : Except Fault (OrderedMap String Value) :=
  if entry.inputTypes.isEmpty then .ok .empty
  else do
    let types ← typesOf entry.inputTypes
    match decodeArguments types calldata with
    | .error .layout =>
      .error (.decoding (.mismatch entry.signature entry.interface entry.selector
        (calldata.length + 4)))
    | .error .unicode => .error .notUnicode
    | .ok vs => do
      let named ← nameArguments entry.inputNames entry.inputTypes vs
      .ok (.ofList named)

end Entry

end Chronicle
