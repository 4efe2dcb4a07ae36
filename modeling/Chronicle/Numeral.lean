/- # Decimal numerals

How an integer is written and read as text. A numeral has at most `maxDigits`
digits, in either direction. Reading is generous: blanks around the numeral, a
sign, single underscores between digits and the digits of every script are
taken.

Key definitions: `Numeral.write?`, `Numeral.read?`, `Numeral.readBytes?`.
Key theorem: `Numeral.write?_eq_some_iff`.
-/
import Chronicle.Text.Characters

namespace Chronicle.Numeral

open Text

/-- The most digits a numeral may have. -/
def maxDigits : Nat := 4300

/-- The text of an integer, however long. -/
def text : Int → String
  | .ofNat n => n.repr
  | .negSucc n => "-" ++ (n + 1).repr

/-- The text of an integer, unless it has too many digits. -/
def write? (n : Int) : Option String :=
  if n.natAbs.repr.length ≤ maxDigits then some (text n) else none

theorem write?_eq_some_iff {n : Int} {s : String} :
    write? n = some s ↔ n.natAbs.repr.length ≤ maxDigits ∧ s = text n := by
  unfold write?
  split
  · next h => simp [h, eq_comm]
  · next h => simp [h]

/-! ### Reading -/

/-- The ASCII form of a character of a numeral that holds a character beyond ASCII: blanks become
spaces and digits the digits of ASCII; nothing else beyond ASCII has a place in a numeral. -/
def asciiForm? (c : Char) : Option Char :=
  if c.toNat < 127 then some c
  else if isWideBlank c then some ' '
  else (digitValue? c).map Nat.digitChar

/-- The text with blanks and digits of all scripts brought to ASCII. -/
def toAscii? (cs : List Char) : Option (List Char) :=
  if cs.all (·.toNat < 128) then some cs else cs.mapM asciiForm?

/-- The text without the ASCII blanks at its two ends. -/
def trimmed (cs : List Char) : List Char :=
  ((cs.dropWhile isAsciiBlank).reverse.dropWhile isAsciiBlank).reverse

/-- The digits of a text in which single underscores may stand between digits. -/
def digits? : List Char → Option (List Char)
  | [] => none
  | [c] => if c.isDigit then some [c] else none
  | c :: d :: rest =>
    if c.isDigit then
      (if d = '_' then digits? rest else digits? (d :: rest)).map (c :: ·)
    else none

/-- The number that a list of digits stands for. -/
def ofDigits (ds : List Char) : Nat :=
  ds.foldl (fun n d => 10 * n + (d.toNat - '0'.toNat)) 0

/-- The number of a text of digits, unless there are too many of them. -/
def readNat? (cs : List Char) : Option Nat :=
  (digits? cs).bind fun ds => if ds.length ≤ maxDigits then some (ofDigits ds) else none

/-- The number of a signed text. -/
def readSigned? : List Char → Option Int
  | '-' :: cs => (readNat? cs).map fun n : Nat => -(n : Int)
  | '+' :: cs => (readNat? cs).map fun n : Nat => (n : Int)
  | cs => (readNat? cs).map fun n : Nat => (n : Int)

/-- The integer that a text stands for. -/
def read? (s : String) : Option Int :=
  (toAscii? s.toList).bind fun cs => readSigned? (trimmed cs)

/-- The integer that bytes stand for, which are read as ASCII text. -/
def readBytes? (bs : List UInt8) : Option Int :=
  readSigned? (trimmed (bs.map fun b => Char.ofNat b.toNat))

end Chronicle.Numeral
