/- # Text as it is shown

Addresses and hashes are too long to read, so a sentence shows only their two
ends.

A text shown between quotes can be told character by character. Single quotes
are used unless the text holds a single quote and no double one. A character
that is not printable is written by its code point, in two, four or eight
hexadecimal digits after `\x`, `\u` or `\U`. Bytes are shown like text after a
`b`, where only those of ASCII are printable.

A list is wrapped into lines: items are written in quotes, each followed by a
comma and a space, and a line ends where the next item would make it too long.
The test counts the bare item and one character more, not the quotes, so a line
may end a little beyond the width; a first item that is too long leaves an empty
line before it.

Key definitions: `abbreviated`, `quoted`, `quotedBytes`, `wrapped`.
-/
import Chronicle.Text.Printable

namespace Chronicle.Text

/-- The first six and the last four characters with three points between them; a text of at most
ten characters stays whole. -/
def abbreviated (s : String) : String :=
  let cs := s.toList
  if 10 < cs.length then
    String.ofList (cs.take 6 ++ ['.', '.', '.'] ++ cs.drop (cs.length - 4))
  else s

/-! ### Text in quotes -/

/-- The last `width` hexadecimal digits of `n`, in lower case. -/
def hexField (width n : Nat) : List Char :=
  match width with
  | 0 => []
  | w + 1 => hexField w (n / 16) ++ [Nat.digitChar (n % 16)]

/-- How one character is written between two marks of the kind `mark`. -/
def quotedChar (mark c : Char) : List Char :=
  if c = mark || c = '\\' then ['\\', c]
  else if c = '\t' then ['\\', 't']
  else if c = '\n' then ['\\', 'n']
  else if c = '\r' then ['\\', 'r']
  else if isPrintable c then [c]
  else if c.toNat < 0x100 then '\\' :: 'x' :: hexField 2 c.toNat
  else if c.toNat < 0x10000 then '\\' :: 'u' :: hexField 4 c.toNat
  else '\\' :: 'U' :: hexField 8 c.toNat

/-- The quote to use around a text. -/
def quoteMark (cs : List Char) : Char :=
  if cs.contains '\'' && !cs.contains '"' then '"' else '\''

/-- A text in quotes. -/
def quoted (s : String) : String :=
  let mark := quoteMark s.toList
  String.ofList (mark :: s.toList.flatMap (quotedChar mark) ++ [mark])

/-- How one byte is written between two marks of the kind `mark`. -/
def quotedByte (mark : Char) (b : UInt8) : List Char :=
  if b.toNat < 127 then quotedChar mark (Char.ofNat b.toNat) else '\\' :: 'x' :: hexField 2 b.toNat

/-- Bytes in quotes. -/
def quotedBytes (bs : List UInt8) : String :=
  let mark := quoteMark (bs.map fun b => Char.ofNat b.toNat)
  String.ofList ('b' :: mark :: bs.flatMap (quotedByte mark) ++ [mark])

/-! ### Lists wrapped into lines -/

/-- One item as it stands in a line. -/
def quotedItem (item : String) : String :=
  "'" ++ item ++ "', "

/-- The lines of `items`, where `line` is the line begun so far. -/
def wrappedFrom (width : Int) (line : String) : List String → List String
  | [] => [line]
  | item :: items =>
    if width < line.length + item.length + 1 then
      line :: wrappedFrom width (quotedItem item) items
    else wrappedFrom width (line ++ quotedItem item) items

/-- The items in quotes, wrapped into lines of about `width` characters. -/
def wrapped (items : List String) (width : Int) : List String :=
  wrappedFrom width "" items

end Chronicle.Text
