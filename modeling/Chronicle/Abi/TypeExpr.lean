/- # Type expressions

A type is written as a name with an optional size, or as its components in
parentheses, followed by array dimensions, the innermost first. Sizes and
dimensions have no leading zeros.

Key definitions: `TypeExpr`, `TypeExpr.read?`, `TypeExpr.render`.
-/

namespace Chronicle

/-- The size written after the name of a type: one number, or two with an `x` between them. -/
inductive SizeText
  | one (n : Nat)
  | two (m n : Nat)
  deriving DecidableEq, Repr

/-- A dimension: a length, or none for a list of any length. -/
abbrev Dimension := Option Nat

/-- The form of a type as it is written. -/
inductive TypeExpr
  | named (base : String) (size : Option SizeText) (dimensions : List Dimension)
  | tuple (parts : List TypeExpr) (dimensions : List Dimension)
  deriving Inhabited, Repr

namespace TypeExpr

/-! ### Reading -/

/-- Reads a positive number without leading zeros. -/
def readNumber? (cs : List Char) : Option (Nat × List Char) :=
  match cs.takeWhile Char.isDigit with
  | [] => none
  | '0' :: _ => none
  | ds => some (ds.foldl (fun n d => 10 * n + (d.toNat - '0'.toNat)) 0, cs.dropWhile Char.isDigit)

/-- Reads the size after a name, if there is one. -/
def readSize (cs : List Char) : Option SizeText × List Char :=
  match readNumber? cs with
  | none => (none, cs)
  | some (m, 'x' :: rest) =>
    match readNumber? rest with
    | some (n, rest) => (some (.two m n), rest)
    | none => (some (.one m), 'x' :: rest)
  | some (m, rest) => (some (.one m), rest)

/-- Reads one dimension. -/
def readDimension? : List Char → Option (Dimension × List Char)
  | '[' :: ']' :: rest => some (none, rest)
  | '[' :: rest =>
    match readNumber? rest with
    | some (n, ']' :: rest) => some (some n, rest)
    | _ => none
  | _ => none

/-- Reads as many dimensions as there are, at most `fuel`. -/
def readDimensions : Nat → List Char → List Dimension × List Char
  | 0, cs => ([], cs)
  | fuel + 1, cs =>
    match readDimension? cs with
    | some (d, rest) =>
      let (ds, rest) := readDimensions fuel rest
      (d :: ds, rest)
    | none => ([], cs)

mutual

/-- Reads one type expression, spending one unit of fuel for each level and each component. -/
def readExpr : Nat → List Char → Option (TypeExpr × List Char)
  | 0, _ => none
  | fuel + 1, '(' :: rest => do
    let (parts, rest) ← readParts fuel rest
    let (dimensions, rest) := readDimensions rest.length rest
    some (.tuple parts dimensions, rest)
  | _ + 1, cs =>
    match cs.takeWhile Char.isAlpha with
    | [] => none
    | base =>
      let (size, rest) := readSize (cs.dropWhile Char.isAlpha)
      let (dimensions, rest) := readDimensions rest.length rest
      some (.named (String.ofList base) size dimensions, rest)

/-- Reads components with commas between them up to the closing parenthesis. -/
def readParts : Nat → List Char → Option (List TypeExpr × List Char)
  | 0, _ => none
  | fuel + 1, cs => do
    let (part, rest) ← readExpr fuel cs
    match rest with
    | ',' :: rest =>
      let (parts, rest) ← readParts fuel rest
      some (part :: parts, rest)
    | ')' :: rest => some ([part], rest)
    | _ => none

end

/-- The expression of a whole text. -/
def read? (cs : List Char) : Option TypeExpr :=
  match readExpr (cs.length + 1) cs with
  | some (e, []) => some e
  | _ => none

/-! ### Writing -/

/-- The text of a size. -/
def renderSize : SizeText → List Char
  | .one n => n.repr.toList
  | .two m n => m.repr.toList ++ 'x' :: n.repr.toList

/-- The text of a dimension. -/
def renderDimension : Dimension → List Char
  | some n => '[' :: n.repr.toList ++ [']']
  | none => ['[', ']']

mutual

/-- The text of an expression. -/
def render : TypeExpr → List Char
  | .named base size dimensions =>
    base.toList ++ size.elim [] renderSize ++ dimensions.flatMap renderDimension
  | .tuple parts dimensions =>
    '(' :: renderParts parts ++ ')' :: dimensions.flatMap renderDimension

/-- The texts of components with commas between them. -/
def renderParts : List TypeExpr → List Char
  | [] => []
  | [e] => render e
  | e :: es => render e ++ ',' :: renderParts es

end

end TypeExpr

end Chronicle
