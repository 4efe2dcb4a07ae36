/- # Percent escapes

Each part of an address lets some characters stand for themselves; all others
are written as the bytes of their UTF-8 form, two hexadecimal digits in upper
case after a percent sign. An escape of a character that may stand for itself
is undone, unless the part gives that character a meaning, and a percent sign
that starts no escape is itself escaped.

Key definitions: `Alphabet`, `escapeByte`, `requote`.
-/
import Chronicle.Hex

namespace Chronicle.Url

/-- The characters of one part of an address. -/
structure Alphabet where
  /-- The marks that stand for themselves, besides those of every part. -/
  marks : List Char
  /-- The marks whose escapes are kept, since they would mean something else without. -/
  kept : List Char
  /-- Whether a space is written as a plus sign. -/
  plusForSpace : Bool

namespace Alphabet

/-- The marks that stand for themselves in every part. -/
def commonMarks : List Char := ['-', '.', '_', '~', '!', '$', '\'', '(', ')', '*', ',']

/-- The characters of a user name and of a password. -/
def user : Alphabet := ⟨['+', '&', '=', ';'], [], false⟩

/-- The characters of a path. -/
def path : Alphabet := ⟨['+', '&', '=', ';', '@', ':', '/'], ['/', '+'], false⟩

/-- The characters of a query. -/
def query : Alphabet := ⟨['?', '/', ':', '@', '=', '+', '&', ';'], ['=', '+', '&', ';'], true⟩

/-- The characters of a fragment. -/
def fragment : Alphabet := ⟨['+', '&', '=', ';', '?', '/', ':', '@'], [], false⟩

/-- Whether a character stands for itself. -/
def isPlain (alphabet : Alphabet) (c : Char) : Bool :=
  c.isAlphanum || commonMarks.contains c || alphabet.marks.contains c

end Alphabet

/-- The escape of one byte. -/
def escapeByte (b : UInt8) : List Char := '%' :: (Hex.digits [b]).map Char.toUpper

/-- One character as it is written in a part. -/
def writeChar (alphabet : Alphabet) (c : Char) : List Char :=
  if alphabet.plusForSpace && c = ' ' then ['+']
  else if alphabet.isPlain c then [c]
  else (Utf8.encode (String.ofList [c])).flatMap escapeByte

/-- The escape of a byte as it is written in a part, or the character that it stands for. -/
def writeEscape (alphabet : Alphabet) (b : UInt8) : List Char :=
  let c := Char.ofNat b.toNat
  if alphabet.isPlain c && !alphabet.kept.contains c then [c] else escapeByte b

/-- A part of an address with the escapes that it needs and no others. -/
def requote (alphabet : Alphabet) : List Char → List Char
  | [] => []
  | '%' :: high :: low :: rest =>
    match Hex.byte? high low with
    | some b => writeEscape alphabet b ++ requote alphabet rest
    | none => escapeByte 0x25 ++ requote alphabet (high :: low :: rest)
  | c :: rest => writeChar alphabet c ++ requote alphabet rest

end Chronicle.Url
