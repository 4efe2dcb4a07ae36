/- # Byte strings

A byte string is written in hexadecimal, as lowercase pairs of digits. Two readers take them
back: the strict one, which also allows a mark `0x` or `0X` in front, and the
spaced one, which allows blanks before and after each pair.

The bytes of a text are its UTF-8 form, whose strict reader refuses overlong
forms, surrogates and code points beyond the last.

Key definitions: `Hex.digits`, `Hex.marked`, `Hex.pairs?`, `Hex.spaced?`,
`Hex.parse`, `Utf8.encode`, `Utf8.decode?`.
Key theorems: `Hex.pairs?_digits`, `Hex.spaced?_digits`, `Hex.parse_marked`,
`Hex.loose?_of_toLower`, `Utf8.decode?_encode`, `Utf8.encode_of_decode?`.
-/
import Chronicle.Text.Characters

namespace Chronicle

/-- A byte string. -/
abbrev Bytes := List UInt8

namespace Hex

open Text

/-- The lowercase hexadecimal digit of a number below sixteen. -/
def digit (n : Nat) : Char := Nat.digitChar n

/-- The value of a hexadecimal digit of either case. -/
def value? (c : Char) : Option Nat :=
  if '0' ≤ c && c ≤ '9' then some (c.toNat - '0'.toNat)
  else if 'a' ≤ c && c ≤ 'f' then some (c.toNat - 'a'.toNat + 10)
  else if 'A' ≤ c && c ≤ 'F' then some (c.toNat - 'A'.toNat + 10)
  else none

/-- The two digits of each byte. -/
def digits (bs : Bytes) : List Char :=
  bs.flatMap fun b => [digit (b.toNat / 16), digit (b.toNat % 16)]

/-- The hexadecimal text of a byte string, without a mark. -/
def plain (bs : Bytes) : String := String.ofList (digits bs)

/-- The hexadecimal text of a byte string after the mark `0x`. -/
def marked (bs : Bytes) : String := "0x" ++ plain bs

/-- The byte of two digits. -/
def byte? (high low : Char) : Option UInt8 := do
  let h ← value? high
  let l ← value? low
  some (UInt8.ofNat (16 * h + l))

/-- Reads pairs of digits and nothing else. -/
def pairs? : List Char → Option Bytes
  | [] => some []
  | [_] => none
  | high :: low :: rest => do
    let b ← byte? high low
    let bs ← pairs? rest
    some (b :: bs)

/-- Reads pairs of digits, passing over ASCII blanks before and after each pair. -/
def spaced? : List Char → Option Bytes
  | [] => some []
  | [c] => if isAsciiBlank c then some [] else none
  | c :: d :: rest =>
    if isAsciiBlank c then spaced? (d :: rest)
    else do
      let b ← byte? c d
      let bs ← spaced? rest
      some (b :: bs)

/-- The text without one leading `0x`; the mark `0X` stays. -/
def dropMark : List Char → List Char
  | '0' :: 'x' :: rest => rest
  | cs => cs

/-- The text without one leading `0x` or `0X`. -/
def dropAnyMark : List Char → List Char
  | '0' :: 'x' :: rest => rest
  | '0' :: 'X' :: rest => rest
  | cs => cs

/-- Reads a text with an optional mark `0x` in front by the spaced reader. -/
def loose? (s : String) : Option Bytes := spaced? (dropMark s.toList)

/-- Why a text is not the hexadecimal form of a byte string. -/
inductive Defect
  | foreignCharacter
  | oddLength
  deriving DecidableEq, Repr

/-- Reads a text with an optional mark `0x` or `0X` by the strict reader, and tells a character
that is no digit from a digit without a partner. -/
def parse (s : String) : Except Defect Bytes :=
  let cs := dropAnyMark s.toList
  if cs.all (value? · |>.isSome) then
    match pairs? cs with
    | some bs => .ok bs
    | none => .error .oddLength
  else .error .foreignCharacter

/-! ### Reading back -/

theorem value?_digit : ∀ n : Fin 16, value? (digit n) = some n.val := by decide

theorem isAsciiBlank_digit : ∀ n : Fin 16, isAsciiBlank (digit n) = false := by decide

theorem value?_digit_of_lt {n : Nat} (h : n < 16) : value? (digit n) = some n :=
  value?_digit ⟨n, h⟩

theorem byte?_digit (b : UInt8) : byte? (digit (b.toNat / 16)) (digit (b.toNat % 16)) = some b := by
  have hb := b.toNat_lt
  have h := value?_digit_of_lt (n := b.toNat / 16) (by omega)
  have l := value?_digit_of_lt (n := b.toNat % 16) (by omega)
  have join : 16 * (b.toNat / 16) + b.toNat % 16 = b.toNat := by omega
  simp only [byte?, h, l, Option.bind_eq_bind, Option.bind_some, join, UInt8.ofNat_toNat]

theorem digits_cons (b : UInt8) (bs : Bytes) :
    digits (b :: bs) = digit (b.toNat / 16) :: digit (b.toNat % 16) :: digits bs := rfl

/-- What holds of the sixteen digits holds of every digit of a text. -/
theorem forall_mem_digits {P : Char → Prop} (h : ∀ n : Fin 16, P (digit n)) {bs : Bytes} :
    ∀ c ∈ digits bs, P c := by
  intro c hc
  obtain ⟨b, -, hc⟩ := List.mem_flatMap.1 hc
  have hb := b.toNat_lt
  simp only [List.mem_cons, List.not_mem_nil, or_false] at hc
  rcases hc with rfl | rfl
  · exact h ⟨b.toNat / 16, by omega⟩
  · exact h ⟨b.toNat % 16, by omega⟩

theorem pairs?_digits : ∀ bs : Bytes, pairs? (digits bs) = some bs
  | [] => rfl
  | b :: bs => by simp [digits_cons, pairs?, byte?_digit, pairs?_digits bs]

theorem spaced?_digits : ∀ bs : Bytes, spaced? (digits bs) = some bs
  | [] => rfl
  | b :: bs => by
    have hb := b.toNat_lt
    have blank : isAsciiBlank (digit (b.toNat / 16)) = false :=
      isAsciiBlank_digit ⟨b.toNat / 16, by omega⟩
    simp [digits_cons, spaced?, blank, byte?_digit, spaced?_digits bs]

/-- The loose reader takes back the marked text. -/
theorem loose?_marked (bs : Bytes) : loose? (marked bs) = some bs := by
  simp [loose?, marked, plain, dropMark, spaced?_digits]

theorem marked_injective {bs cs : Bytes} (h : marked bs = marked cs) : bs = cs := by
  have hread := congrArg loose? h
  rw [loose?_marked, loose?_marked] at hread
  exact Option.some.inj hread

theorem toList_marked (bs : Bytes) : (marked bs).toList = '0' :: 'x' :: digits bs := by
  simp [marked, plain]

theorem all_digits (bs : Bytes) : (digits bs).all (value? · |>.isSome) = true :=
  List.all_eq_true.2 (forall_mem_digits fun n => by rw [value?_digit]; rfl)

theorem dropAnyMark_marked (bs : Bytes) : dropAnyMark (marked bs).toList = digits bs := by
  rw [toList_marked, dropAnyMark]

/-- The strict reader takes back the marked text. -/
theorem parse_marked (bs : Bytes) : parse (marked bs) = .ok bs := by
  simp only [parse, dropAnyMark_marked, all_digits, pairs?_digits, if_true]

theorem length_digits : ∀ bs : Bytes, (digits bs).length = 2 * bs.length
  | [] => rfl
  | b :: bs => by
    rw [digits_cons, List.length_cons, List.length_cons, length_digits bs, List.length_cons]
    omega

/-! ### Digits of either case -/

/-- Only ASCII characters are digits. -/
theorem toNat_lt_of_value? {c : Char} (h : (value? c).isSome = true) : c.toNat < 128 := by
  have hbound {last : Char} (hlast : last.toNat < 128) (hc : c ≤ last) : c.toNat < 128 :=
    Nat.lt_of_le_of_lt (UInt32.le_iff_toNat_le.1 hc) hlast
  unfold value? at h
  split at h
  · next hdigit => exact hbound (by decide) (of_decide_eq_true (Bool.and_eq_true_iff.1 hdigit).2)
  · split at h
    · next hlower => exact hbound (by decide) (of_decide_eq_true (Bool.and_eq_true_iff.1 hlower).2)
    · split at h
      · next hupper => exact hbound (by decide) (of_decide_eq_true (Bool.and_eq_true_iff.1 hupper).2)
      · cases h

/-- Only ASCII characters have a digit for their lowercase form. -/
theorem toNat_lt_of_toLower {c : Char} {n : Fin 16} (h : c.toLower = digit n) : c.toNat < 128 := by
  have hdigit : ∀ n : Fin 16, (digit n).toNat < 128 := by decide
  unfold Char.toLower at h
  split at h
  · next hupper =>
    have hle : c.toNat ≤ 90 := UInt32.le_iff_toNat_le.1 hupper.2
    omega
  · exact h ▸ hdigit n

/-- A digit of either case is read like the lowercase one. -/
theorem value?_of_toLower {c : Char} {n : Fin 16} (h : c.toLower = digit n) :
    value? c = some n.val ∧ isAsciiBlank c = false ∧ c ≠ 'x' := by
  have hall : ∀ {c : Char}, c.toNat < 128 → ∀ n : Fin 16, c.toLower = digit n →
      value? c = some n.val ∧ isAsciiBlank c = false ∧ c ≠ 'x' := by
    apply forall_ascii
    decide +kernel
  exact hall (toNat_lt_of_toLower h) n h

/-- Digits of either case are read like the lowercase ones. -/
theorem spaced?_of_toLower : ∀ {bs : Bytes} {cs : List Char},
    cs.map Char.toLower = digits bs → spaced? cs = some bs
  | [], cs, h => by rw [List.map_eq_nil_iff.1 h]; rfl
  | b :: bs, cs, h => by
    have hb := b.toNat_lt
    rw [digits_cons] at h
    obtain ⟨c, ds, rfl, hc, hds⟩ := List.map_eq_cons_iff.1 h
    obtain ⟨d, rest, rfl, hd, hrest⟩ := List.map_eq_cons_iff.1 hds
    obtain ⟨hhigh, hblank, -⟩ := value?_of_toLower (n := ⟨b.toNat / 16, by omega⟩) hc
    obtain ⟨hlow, -, -⟩ := value?_of_toLower (n := ⟨b.toNat % 16, by omega⟩) hd
    have join : 16 * (b.toNat / 16) + b.toNat % 16 = b.toNat := by omega
    simp only [spaced?, hblank, byte?, hhigh, hlow, spaced?_of_toLower hrest, Option.bind_eq_bind,
      Option.bind_some, join, UInt8.ofNat_toNat, Bool.false_eq_true, if_false]

/-- Digits of either case hold no mark. -/
theorem loose?_of_toLower {bs : Bytes} {s : String} (h : s.toList.map Char.toLower = digits bs) :
    loose? s = some bs := by
  have hmark : dropMark s.toList = s.toList := by
    unfold dropMark
    split
    · next rest hcs =>
      have hx : 'x' ∈ digits bs := by
        rw [← h, hcs]
        simp
      exact absurd rfl (forall_mem_digits (P := (· ≠ 'x')) (by decide) 'x' hx)
    · rfl
  rw [loose?, hmark, spaced?_of_toLower h]

end Hex

/-! ### Text as bytes -/

namespace Utf8

/-- The bytes of a text. -/
def encode (s : String) : Bytes := s.toUTF8.data.toList

/-- The text of a byte string, if it is well formed. -/
def decode? (bs : Bytes) : Option String := String.fromUTF8? ⟨bs.toArray⟩

theorem decode?_encode (s : String) : decode? (encode s) = some s := by
  simp [decode?, encode, String.fromUTF8?, s.isValidUTF8, String.fromUTF8]

/-- Only the bytes of a text are read as it. -/
theorem encode_of_decode? {bs : Bytes} {s : String} (h : decode? bs = some s) : encode s = bs := by
  unfold decode? String.fromUTF8? at h
  split at h
  · rw [← Option.some.inj h]
    rfl
  · cases h

end Utf8

end Chronicle
