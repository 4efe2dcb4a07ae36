/- # Classes of characters

A set of characters may be given by a table of ranges of code points. There are
two sets of blanks: the ASCII set holds the six characters that separate words
in plain machine text; the wide set adds the blanks of other scripts, but not
the four ASCII separators 28 to 31. The decimal digits of each script stand in a
row, so a table of the zeros says it all.

Key definitions: `inRanges`, `isAsciiBlank`, `isWideBlank`, `digitValue?`.
Key theorem: `forall_ascii`.
-/

namespace Chronicle.Text

/-- Whether the code point of `c` lies in one of the ranges of `table`. -/
def inRanges (table : List (Nat × Nat)) (c : Char) : Bool :=
  table.any fun range => range.1 ≤ c.toNat && c.toNat ≤ range.2

/-! ### ASCII characters -/

/-- What holds of each ASCII character in turn holds of a character whose code point is below
128. -/
theorem forall_ascii {P : Char → Prop} (h : ∀ k : Fin 128, P (Char.ofNat k)) {c : Char}
    (hc : c.toNat < 128) : P c := by
  have hchar := h ⟨c.toNat, hc⟩
  rwa [Char.ofNat_toNat] at hchar

theorem toNat_lt_of_isDigit {c : Char} (h : c.isDigit = true) : c.toNat < 128 := by
  have hc := Char.isDigit_iff_toNat.1 h
  have hnine : '9'.toNat = 57 := rfl
  omega

/-! ### Blanks -/

/-- Tab, line feed, vertical tab, form feed, carriage return and space. -/
def isAsciiBlank (c : Char) : Bool :=
  (9 ≤ c.toNat && c.toNat ≤ 13) || c.toNat == 32

/-- A blank beyond ASCII: next line, no-break space and the space, line and paragraph separators. -/
def isWideBlank (c : Char) : Bool :=
  [0x85, 0xa0, 0x1680, 0x2028, 0x2029, 0x202f, 0x205f, 0x3000].contains c.toNat
    || (0x2000 ≤ c.toNat && c.toNat ≤ 0x200a)

/-! ### Decimal digits -/

/-- The code points of the digit zero in every script, as in version 14 of the Unicode character
database. -/
def zeroDigits : List Nat :=
  [48, 1632, 1776, 1984, 2406, 2534, 2662, 2790, 2918, 3046, 3174, 3302, 3430, 3558, 3664, 3792,
   3872, 4160, 4240, 6112, 6160, 6470, 6608, 6784, 6800, 6992, 7088, 7232, 7248, 42528, 43216,
   43264, 43472, 43504, 43600, 44016, 65296, 66720, 68912, 69734, 69872, 69942, 70096, 70384,
   70736, 70864, 71248, 71360, 71472, 71904, 72016, 72784, 73040, 73120, 92768, 92864, 93008,
   120782, 120792, 120802, 120812, 120822, 123200, 123632, 125264, 130032]

/-- The value of `c` as a decimal digit of some script. -/
def digitValue? (c : Char) : Option Nat :=
  (zeroDigits.find? fun first => first ≤ c.toNat && c.toNat < first + 10).map (c.toNat - ·)

end Chronicle.Text
