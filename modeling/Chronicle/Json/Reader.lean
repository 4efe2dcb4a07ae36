/- # Reading JSON

A text is read to a value. Whole numbers of any length become integers and
numbers with a fraction or an exponent become floating-point numbers. Of two
fields with one name the first gives the place and the last the value. A
surrogate without its partner is refused.

Key definition: `Json.read?`.
-/
import Chronicle.OrderedMap
import Chronicle.Value

namespace Chronicle.Json

/-- The blanks of JSON. -/
def isBlank (c : Char) : Bool := c = ' ' || c = '\t' || c = '\n' || c = '\r'

/-- The text from its first character that is not blank. -/
def skipBlanks (cs : List Char) : List Char := cs.dropWhile isBlank

/-- The number of four hexadecimal digits. -/
def unit? (a b c d : Char) : Option Nat := do
  let a ← Hex.value? a
  let b ← Hex.value? b
  let c ← Hex.value? c
  let d ← Hex.value? d
  some (((a * 16 + b) * 16 + c) * 16 + d)

/-- The character that a short escape stands for. -/
def shortEscape? : Char → Option Char
  | '"' => some '"'
  | '\\' => some '\\'
  | '/' => some '/'
  | 'b' => some '\x08'
  | 'f' => some '\x0c'
  | 'n' => some '\n'
  | 'r' => some '\r'
  | 't' => some '\t'
  | _ => none

/-- Reads up to the closing quote: the code points and the escaped units in order, and the text
that follows. -/
def scanString : List Char → Option (List Nat × List Char)
  | [] => none
  | '"' :: rest => some ([], rest)
  | '\\' :: 'u' :: a :: b :: c :: d :: rest => do
    let n ← unit? a b c d
    let (ns, rest) ← scanString rest
    some (n :: ns, rest)
  | '\\' :: e :: rest => do
    let c ← shortEscape? e
    let (ns, rest) ← scanString rest
    some (c.toNat :: ns, rest)
  | c :: rest =>
    if c.toNat < 32 || c = '\\' then none
    else do
      let (ns, rest) ← scanString rest
      some (c.toNat :: ns, rest)

/-- Joins pairs of surrogates into code points. -/
def joinUnits : List Nat → Option (List Char)
  | [] => some []
  | [n] => if 0xd800 ≤ n && n < 0xe000 then none else some [Char.ofNat n]
  | n :: m :: rest =>
    if 0xd800 ≤ n && n < 0xdc00 then
      if 0xdc00 ≤ m && m < 0xe000 then
        (joinUnits rest).map (Char.ofNat (0x10000 + (n - 0xd800) * 0x400 + (m - 0xdc00)) :: ·)
      else none
    else if 0xdc00 ≤ n && n < 0xe000 then none
    else (joinUnits (m :: rest)).map (Char.ofNat n :: ·)

/-- Reads a string whose opening quote is past. -/
def readString (cs : List Char) : Option (String × List Char) := do
  let (units, rest) ← scanString cs
  let s ← joinUnits units
  some (String.ofList s, rest)

/-- The number that a list of digits stands for. -/
def ofDigits (ds : List Char) : Nat :=
  ds.foldl (fun n d => 10 * n + (d.toNat - '0'.toNat)) 0

/-- Reads the exponent of a number, if there is one. -/
def readExponent : List Char → Option (Option Int × List Char)
  | e :: cs =>
    if e = 'e' || e = 'E' then
      let (negative, cs) := match cs with
        | '-' :: cs => (true, cs)
        | '+' :: cs => (false, cs)
        | cs => (false, cs)
      let ds := cs.takeWhile Char.isDigit
      if ds.isEmpty then none
      else
        let n : Int := ofDigits ds
        some (some (if negative then -n else n), cs.dropWhile Char.isDigit)
    else some (none, e :: cs)
  | [] => some (none, [])

/-- Reads the digits of a fraction, if there is one. -/
def readFraction : List Char → Option (Option (List Char) × List Char)
  | '.' :: cs =>
    if (cs.takeWhile Char.isDigit).isEmpty then none
    else some (some (cs.takeWhile Char.isDigit), cs.dropWhile Char.isDigit)
  | cs => some (none, cs)

/-- The number with these digits: an integer, unless there is a fraction or an exponent. -/
def numberOf (negative : Bool) (whole : List Char) : Option (List Char) → Option Int → Value
  | none, none => .int (if negative then -(ofDigits whole : Int) else ofDigits whole)
  | fraction, exponent =>
    let ds := fraction.getD []
    .real (.ofDecimal negative (ofDigits (whole ++ ds)) (exponent.getD 0 - ds.length))

/-- Reads a number whose sign is past. -/
def readNumber (negative : Bool) (cs : List Char) : Option (Value × List Char) :=
  let whole := cs.takeWhile Char.isDigit
  if whole.isEmpty || (1 < whole.length && whole.head? = some '0') then none
  else do
    let (fraction, cs) ← readFraction (cs.dropWhile Char.isDigit)
    let (exponent, cs) ← readExponent cs
    some (numberOf negative whole fraction exponent, cs)

mutual

/-- Reads one value, spending one unit of fuel for each level and each item. -/
def readValue : Nat → List Char → Option (Value × List Char)
  | 0, _ => none
  | fuel + 1, cs =>
    match skipBlanks cs with
    | 'n' :: 'u' :: 'l' :: 'l' :: rest => some (.null, rest)
    | 't' :: 'r' :: 'u' :: 'e' :: rest => some (.bool true, rest)
    | 'f' :: 'a' :: 'l' :: 's' :: 'e' :: rest => some (.bool false, rest)
    | '"' :: rest => (readString rest).map fun (s, rest) => (.text s, rest)
    | '-' :: rest => readNumber true rest
    | '[' :: rest =>
      match skipBlanks rest with
      | ']' :: rest => some (.list [], rest)
      | rest => (readItems fuel rest).map fun (items, rest) => (.list items, rest)
    | '\x7b' :: rest =>
      match skipBlanks rest with
      | '\x7d' :: rest => some (.object [], rest)
      | rest => (readFields fuel rest).map fun (fields, rest) =>
          (.object (OrderedMap.ofList fields).entries, rest)
    | rest => readNumber false rest

/-- Reads the items of a list up to its closing bracket. -/
def readItems : Nat → List Char → Option (List Value × List Char)
  | 0, _ => none
  | fuel + 1, cs => do
    let (v, rest) ← readValue fuel cs
    match skipBlanks rest with
    | ',' :: rest =>
      let (vs, rest) ← readItems fuel rest
      some (v :: vs, rest)
    | ']' :: rest => some ([v], rest)
    | _ => none

/-- Reads the fields of an object up to its closing brace. -/
def readFields : Nat → List Char → Option (List (String × Value) × List Char)
  | 0, _ => none
  | fuel + 1, cs =>
    match skipBlanks cs with
    | '"' :: rest => do
      let (name, rest) ← readString rest
      match skipBlanks rest with
      | ':' :: rest =>
        let (v, rest) ← readValue fuel rest
        match skipBlanks rest with
        | ',' :: rest =>
          let (fields, rest) ← readFields fuel rest
          some ((name, v) :: fields, rest)
        | '\x7d' :: rest => some ([(name, v)], rest)
        | _ => none
      | _ => none
    | _ => none

end

/-- The value of a JSON text, which may have blanks around it. -/
def read? (s : String) : Option Value :=
  let cs := s.toList
  match readValue (cs.length + 1) cs with
  | some (v, rest) => if (skipBlanks rest).isEmpty then some v else none
  | none => none

end Chronicle.Json
