/- # Amounts

Token amounts are whole numbers in the smallest unit of the token. A sentence
shows them in whole tokens, with the point moved by the decimals of the token
and without zeros at the end. A value that is no whole number is shown as it
is.

Key definitions: `Amount.wholeNumber`, `Amount.scaled`, `Amount.text`,
`Amount.isUnlimited`, `Amount.isZero`.
-/
import Chronicle.Value.Display

namespace Chronicle.Amount

/-- The greatest number of a word, which stands for an approval without limit. -/
def unlimited : Int := Nat.pow 2 256 - 1

/-- The whole number that a value stands for: an integer, a truth value as one or zero, a
floating-point number without its fraction, or the text or the bytes of an integer. -/
def wholeNumber : Value → Except Fault (Option Int)
  | .bool b => .ok (some (if b then 1 else 0))
  | .int n => .ok (some n)
  | .real x => match x.truncate? with
    | some n => .ok (some n)
    | none => .error .infiniteAmount
  | .text s => .ok (Numeral.read? s)
  | .bytes bs => .ok (Numeral.readBytes? bs)
  | _ => .ok none

/-- The text of a number, which must not be too long. -/
def written (n : Int) : Except Fault String :=
  match Numeral.write? n with
  | some s => .ok s
  | none => .error .tooManyDigits

/-- The digits of a fraction of `places` places, without the zeros at its end. -/
def fractionDigits (places : Nat) (digits : List Char) : List Char :=
  let padded := List.replicate (places - digits.length) '0' ++ digits
  (padded.reverse.dropWhile (· == '0')).reverse

/-- A number of smallest units in whole units of `10 ^ decimals` of them: the floor of the quotient,
and the rest as its fraction. -/
def scaled (n decimals : Int) : Except Fault String :=
  if decimals ≤ 0 then written n
  else
    let unit : Int := Nat.pow 10 decimals.toNat
    let whole := n / unit
    let rest := n % unit
    if rest = 0 then written whole
    else do
      let digits ← written rest
      let shown ← written whole
      .ok (shown ++ "." ++ String.ofList (fractionDigits decimals.toNat digits.toList))

/-- The text of an amount with the given decimals. -/
def text (v : Value) (decimals : Int) : Except Fault String := do
  match ← wholeNumber v with
  | some n => scaled n decimals
  | none => v.shown

/-- Whether a value stands for the number `n`. -/
def stands (n : Int) (v : Value) : Except Fault Bool := do
  let found ← wholeNumber v
  .ok (found = some n)

/-- Whether a value stands for an approval without limit. -/
def isUnlimited (v : Value) : Except Fault Bool := stands unlimited v

/-- Whether a value stands for zero. -/
def isZero (v : Value) : Except Fault Bool := stands 0 v

end Chronicle.Amount
