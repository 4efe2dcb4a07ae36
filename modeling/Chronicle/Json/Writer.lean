/- # Writing JSON

A value as JSON text in ASCII: other characters are written as escapes, those
beyond the basic plane as a pair of surrogates. The text is on one line or
indented; empty lists and objects stay together in either layout. Byte strings
are written as marked hexadecimal text and a member of an enumeration as the
value it carries.

Key definitions: `Json.render`, `Json.defect?`, `Json.write`.
-/
import Chronicle.Fault
import Chronicle.Numeral
import Chronicle.Text.Shown
import Chronicle.Value

namespace Chronicle.Json

/-- One line, or items on lines of their own, each level indented by that many spaces. -/
inductive Layout
  | line
  | indented (spaces : Nat)
  deriving DecidableEq, Repr

namespace Layout

/-- What stands before the first item inside a container of the given depth. -/
def opening : Layout → Nat → List Char
  | .line, _ => []
  | .indented spaces, depth => '\n' :: List.replicate (spaces * (depth + 1)) ' '

/-- What stands between two items. -/
def between : Layout → Nat → List Char
  | .line, _ => [',', ' ']
  | .indented spaces, depth => ',' :: (Layout.indented spaces).opening depth

/-- What stands after the last item. -/
def closing : Layout → Nat → List Char
  | .line, _ => []
  | .indented spaces, depth => '\n' :: List.replicate (spaces * depth) ' '

end Layout

/-- The escape of one unit of sixteen bits. -/
def unitEscape (n : Nat) : List Char := '\\' :: 'u' :: Text.hexField 4 n

/-- One character inside a string. -/
def renderChar (c : Char) : List Char :=
  if c = '"' then ['\\', '"']
  else if c = '\\' then ['\\', '\\']
  else if c = '\n' then ['\\', 'n']
  else if c = '\r' then ['\\', 'r']
  else if c = '\t' then ['\\', 't']
  else if c = '\x08' then ['\\', 'b']
  else if c = '\x0c' then ['\\', 'f']
  else if 32 ≤ c.toNat && c.toNat < 127 then [c]
  else if c.toNat < 0x10000 then unitEscape c.toNat
  else
    let n := c.toNat - 0x10000
    unitEscape (0xd800 + n / 0x400) ++ unitEscape (0xdc00 + n % 0x400)

/-- A string with its quotes. -/
def renderString (s : String) : List Char :=
  '"' :: s.toList.flatMap renderChar ++ ['"']

/-- The text of a floating-point number. -/
def renderReal (x : Binary64) : List Char :=
  match x with
  | .infinite true => "-Infinity".toList
  | .infinite false => "Infinity".toList
  | x => x.text.toList

mutual

/-- The text of a value inside containers of the given depth. There is no depth at which a value is
too deep to be written. -/
def render (layout : Layout) (depth : Nat) : Value → List Char
  | .null => "null".toList
  | .bool true => "true".toList
  | .bool false => "false".toList
  | .int n => (Numeral.text n).toList
  | .real x => renderReal x
  | .text s => renderString s
  | .bytes bs => renderString (Hex.marked bs)
  | .list [] => ['[', ']']
  | .list (v :: vs) =>
    '[' :: layout.opening depth ++ render layout (depth + 1) v ++
      (renderItems layout depth vs ++ layout.closing depth ++ [']'])
  | .object [] => ['\x7b', '\x7d']
  | .object ((name, v) :: fields) =>
    '\x7b' :: layout.opening depth ++ renderString name ++ ':' :: ' ' ::
      render layout (depth + 1) v ++
      (renderFields layout depth fields ++ layout.closing depth ++ ['\x7d'])
  | .member _ carried => render layout depth carried
  | .foreign _ => "null".toList

/-- The texts of the items after the first. -/
def renderItems (layout : Layout) (depth : Nat) : List Value → List Char
  | [] => []
  | v :: vs =>
    layout.between depth ++ render layout (depth + 1) v ++ renderItems layout depth vs

/-- The texts of the fields after the first. -/
def renderFields (layout : Layout) (depth : Nat) : List (String × Value) → List Char
  | [] => []
  | (name, v) :: fields =>
    layout.between depth ++ renderString name ++ ':' :: ' ' :: render layout (depth + 1) v ++
      renderFields layout depth fields

end

mutual

/-- The first thing, in reading order, for which a value has no JSON text. -/
def defect? : Value → Option Fault
  | .int n => if (Numeral.write? n).isSome then none else some .tooManyDigits
  | .list items => defectOfItems? items
  | .object fields => defectOfFields? fields
  | .member _ carried => defect? carried
  | .foreign _ => some .notInterchangeable
  | _ => none

/-- The first defect of the items of a list. -/
def defectOfItems? : List Value → Option Fault
  | [] => none
  | v :: vs => (defect? v).or (defectOfItems? vs)

/-- The first defect of the fields of an object. -/
def defectOfFields? : List (String × Value) → Option Fault
  | [] => none
  | (_, v) :: fields => (defect? v).or (defectOfFields? fields)

end

/-- The JSON text of a value, or the first defect. -/
def write (layout : Layout) (v : Value) : Except Fault String :=
  match defect? v with
  | some fault => .error fault
  | none => .ok (String.ofList (render layout 0 v))

end Chronicle.Json
