/- # Types from their text

Text is first read to an expression and the expression is then resolved to a
type: names are looked up and sizes are tested.

Key definitions: `TypeExpr.toType`, `AbiType.ofText`.
-/
import Chronicle.Abi.Type
import Chronicle.Abi.TypeExpr
import Chronicle.Fault

namespace Chronicle

namespace TypeExpr

/-- Whether the size of an integer is a whole number of bytes, at most thirty-two. -/
def isIntegerSize (bits : Nat) : Bool := 8 ≤ bits && bits ≤ 256 && bits % 8 == 0

/-- Whether a fixed-point number can have such a size and so many decimal places. -/
def isFixedSize (bits places : Nat) : Bool := isIntegerSize bits && 1 ≤ places && places ≤ 80

/-- Whether a name may have the size that is written after it. Names that are not known may have
any, but a `hash` has to have one number. -/
def allowsSize (base : String) (size : Option SizeText) : Bool :=
  match base, size with
  | "uint", some (.one bits) => isIntegerSize bits
  | "uint", some (.two ..) => false
  | "int", some (.one bits) => isIntegerSize bits
  | "int", some (.two ..) => false
  | "ufixed", some (.two bits places) => isFixedSize bits places
  | "ufixed", some (.one _) => false
  | "fixed", some (.two bits places) => isFixedSize bits places
  | "fixed", some (.one _) => false
  | "bytes", some (.one size) => size ≤ 32
  | "bytes", some (.two ..) => false
  | "hash", some (.one _) => true
  | "hash", _ => false
  | "address", some _ => false
  | "string", some _ => false
  | _, _ => true

mutual

/-- Whether all sizes in the expression are allowed. -/
def hasAllowedSizes : TypeExpr → Bool
  | .named base size _ => allowsSize base size
  | .tuple parts _ => allHaveAllowedSizes parts

/-- Whether all sizes in the expressions are allowed. -/
def allHaveAllowedSizes : List TypeExpr → Bool
  | [] => true
  | e :: es => hasAllowedSizes e && allHaveAllowedSizes es

end

/-- The type of a name with an allowed size. The name `byte` is known only inside of arrays and
tuples. -/
def resolveName (inner : Bool) (base : String) (size : Option SizeText) : Except Fault AbiType :=
  match base, size with
  | "uint", some (.one bits) => .ok (.uint bits)
  | "uint", _ => .ok (.uint 256)
  | "int", some (.one bits) => .ok (.int bits)
  | "int", _ => .ok (.int 256)
  | "ufixed", some (.two bits places) => .ok (.ufixed bits places)
  | "ufixed", _ => .ok (.ufixed 128 18)
  | "fixed", some (.two bits places) => .ok (.fixed bits places)
  | "fixed", _ => .ok (.fixed 128 18)
  | "address", _ => .ok .address
  | "bool", _ => .ok .bool
  | "bytes", some (.one size) => .ok (.fixedBytes size)
  | "bytes", _ => .ok .bytes
  | "string", _ => .ok .string
  | "function", none => .ok (.fixedBytes 24)
  | "function", some _ => .error .misplacedSize
  | "byte", none => if inner then .ok (.fixedBytes 1) else .error .unknownType
  | _, _ => .error .unknownType

/-- A type with dimensions around it. -/
def withDimensions (t : AbiType) (dimensions : List Dimension) : AbiType :=
  dimensions.foldl (fun t d => match d with
    | some n => .array t n
    | none => .sequence t) t

mutual

/-- The type of an expression inside of an array or a tuple, with allowed sizes. -/
def resolve : TypeExpr → Except Fault AbiType
  | .named base size dimensions => do
    let t ← resolveName true base size
    .ok (withDimensions t dimensions)
  | .tuple parts dimensions => do
    let ts ← resolveAll parts
    .ok (withDimensions (.tuple ts) dimensions)

/-- The types of the components of a tuple. -/
def resolveAll : List TypeExpr → Except Fault (List AbiType)
  | [] => .ok []
  | e :: es => do
    let t ← resolve e
    let ts ← resolveAll es
    .ok (t :: ts)

end

/-- The type of a whole expression. A bare name has to be known before its size is looked at; in
arrays and tuples all sizes come first. -/
def toType : TypeExpr → Except Fault AbiType
  | .named base size [] => do
    let t ← resolveName false base size
    if allowsSize base size then .ok t else .error .invalidTypeSize
  | e => if hasAllowedSizes e then resolve e else .error .invalidTypeSize

end TypeExpr

/-- Whether a text holds an opening parenthesis right before a closing one. -/
def holdsEmptyTuple : List Char → Bool
  | '(' :: ')' :: _ => true
  | _ :: rest => holdsEmptyTuple rest
  | [] => false

/-- The type that a text stands for. -/
def AbiType.ofText (s : String) : Except Fault AbiType :=
  match TypeExpr.read? s.toList with
  | some e => e.toType
  | none => .error (if holdsEmptyTuple s.toList then .emptyTupleType else .unparsableType)

end Chronicle
