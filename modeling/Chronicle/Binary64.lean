/- # Binary floating-point numbers of 64 bits

A number is kept as its sign, its significand and its exponent, so that all of
its arithmetic is arithmetic of natural numbers. A decimal numeral is read to
the nearest number, a tie going to the even significand. A number is written
with the fewest digits that read back; of those the nearest, and of two
equally near ones the even.

Key definitions: `Binary64.ofDecimal`, `Binary64.truncate?`,
`Binary64.shortest`, `Binary64.text`.
-/

namespace Chronicle

/-- A number `± significand · 2 ^ exponent`, or an infinity. -/
inductive Binary64
  | finite (negative : Bool) (significand : Nat) (exponent : Int)
  | infinite (negative : Bool)
  deriving DecidableEq, Repr, Inhabited

namespace Binary64

/-- The quotient of two natural numbers rounded to the nearest, a tie to the even. -/
def roundDiv (num den : Nat) : Nat :=
  let q := num / den
  let r := num % den
  if 2 * r < den then q else if den < 2 * r then q + 1 else q + q % 2

/-- The smallest exponent, that of the subnormal numbers. -/
def minExponent : Int := -1074

/-- The largest exponent of a finite number. -/
def maxExponent : Int := 971

/-- The quotient of `num / den` by `2 ^ e`, rounded to the nearest. -/
def scaledRound (num den : Nat) (e : Int) : Nat :=
  if 0 ≤ e then roundDiv num (den * Nat.pow 2 e.toNat)
  else roundDiv (num * Nat.pow 2 (-e).toNat) den

/-- The number nearest to `num / den`, for a positive `den`. -/
def ofRatio (negative : Bool) (num den : Nat) : Binary64 :=
  if num = 0 then .finite negative 0 minExponent
  else
    let guess : Int := max minExponent ((Nat.log2 num : Int) - Nat.log2 den - 53)
    let fits (e : Int) : Bool :=
      if 0 ≤ e then num < Nat.pow 2 53 * (den * Nat.pow 2 e.toNat)
      else num * Nat.pow 2 (-e).toNat < Nat.pow 2 53 * den
    let e := if fits guess then guess else if fits (guess + 1) then guess + 1 else guess + 2
    let m := scaledRound num den e
    let (m, e) := if m = Nat.pow 2 53 then (Nat.pow 2 52, e + 1) else (m, e)
    if maxExponent < e then .infinite negative else .finite negative m e

/-- The number nearest to `± digits · 10 ^ exponent`. -/
def ofDecimal (negative : Bool) (digits : Nat) (exponent : Int) : Binary64 :=
  let places : Int := (Nat.toDigits 10 digits).length + exponent
  if digits = 0 || places < -330 then .finite negative 0 minExponent
  else if 310 < places then .infinite negative
  else if 0 ≤ exponent then ofRatio negative (digits * Nat.pow 10 exponent.toNat) 1
  else ofRatio negative digits (Nat.pow 10 (-exponent).toNat)

/-- The number without its fraction; an infinity has none. -/
def truncate? : Binary64 → Option Int
  | .finite negative m e =>
    let n : Nat := if 0 ≤ e then m * Nat.pow 2 e.toNat else m / Nat.pow 2 (-e).toNat
    some (if negative then -(n : Int) else n)
  | .infinite _ => none

/-! ### The shortest decimal that reads back -/

/-- The interval of the reals that read as the number `m · 2 ^ e`, as numerators over a common
denominator: the lower end, the number itself, the upper end and the denominator. -/
def readInterval (m : Nat) (e : Int) : Nat × Nat × Nat × Nat :=
  -- below a power of two the neighbours are only half as far apart
  let below := if m = Nat.pow 2 52 && minExponent < e then 1 else 2
  if 0 ≤ e then
    let unit := Nat.pow 2 e.toNat
    ((4 * m - below) * unit, 4 * m * unit, (4 * m + 2) * unit, 4)
  else (4 * m - below, 4 * m, 4 * m + 2, 4 * Nat.pow 2 (-e).toNat)

/-- The decimal `d · 10 ^ k` compared as a fraction: its numerator and the factor by which the
other side's numerator grows. -/
def decimalScale (k : Int) : Nat × Nat :=
  if 0 ≤ k then (Nat.pow 10 k.toNat, 1) else (1, Nat.pow 10 (-k).toNat)

/-- The multiple of `10 ^ k` that reads as `m · 2 ^ e` and is nearest to it, as the factor of
`10 ^ k`. -/
def onGrid? (m : Nat) (e k : Int) : Option Nat :=
  let (low, mid, high, den) := readInterval m e
  let (up, down) := decimalScale k
  let inside (d : Nat) : Bool :=
    let x := d * up * den
    if m % 2 = 0 then low * down ≤ x && x ≤ high * down else low * down < x && x < high * down
  let d := mid * down / (up * den)
  let r := mid * down % (up * den)
  match inside d, inside (d + 1) with
  | true, true =>
    if 2 * r < up * den then some d
    else if up * den < 2 * r then some (d + 1)
    else some (d + d % 2)
  | true, false => some d
  | false, true => some (d + 1)
  | false, false => none

/-- The place of the first digit of `m · 2 ^ e`: the `p` for which that number is below `10 ^ p` but
not below `10 ^ (p - 1)`. -/
def leadingPlace (m : Nat) (e : Int) : Int :=
  if 0 ≤ e then (Nat.toDigits 10 (m * Nat.pow 2 e.toNat)).length
  else
    let den := Nat.pow 2 (-e).toNat
    if den ≤ m then (Nat.toDigits 10 (m / den)).length
    else
      -- the zeros after the point
      let zeros := (Nat.toDigits 10 (den / m)).length
      if den ≤ m * Nat.pow 10 (zeros - 1) then 2 - (zeros : Int) else 1 - (zeros : Int)

/-- The grids tried, from one digit to seventeen, and the first hit as a factor and its power of
ten. -/
def firstHit (m : Nat) (e place : Int) : Nat → Nat × Int
  | 0 => (m, 0)
  | left + 1 =>
    let k := place - (17 - left : Nat)
    match onGrid? m e k with
    | some d => (d, k)
    | none => firstHit m e place left

/-- The digits of the shortest decimal that reads as the nonzero number `m · 2 ^ e`, and the place
of the first of them, counted from the point. -/
def shortest (m : Nat) (e : Int) : List Char × Int :=
  let (d, k) := firstHit m e (leadingPlace m e) 17
  let ds := Nat.toDigits 10 d
  (match (ds.reverse.dropWhile (· == '0')).reverse with
    | [] => ['0']
    | kept => kept, ds.length + k)

/-- Digits with the point after the first `place` of them, zeros filled in where there are none,
and at least one digit on either side. -/
def positional (ds : List Char) (place : Int) : List Char :=
  if place ≤ 0 then '0' :: '.' :: List.replicate (-place).toNat '0' ++ ds
  else
    let whole := ds.take place.toNat ++ List.replicate (place.toNat - ds.length) '0'
    let rest := ds.drop place.toNat
    whole ++ '.' :: (if rest.isEmpty then ['0'] else rest)

/-- Digits with the point after the first, and the power of ten, signed and with two digits or
more. -/
def exponential (ds : List Char) (place : Int) : List Char :=
  let power := place - 1
  let magnitude := Nat.toDigits 10 power.natAbs
  let mantissa := match ds with
    | [] => []
    | [d] => [d]
    | d :: rest => d :: '.' :: rest
  mantissa ++ 'e' :: (if power < 0 then '-' else '+') ::
    (List.replicate (2 - magnitude.length) '0' ++ magnitude)

/-- The text of a number: positional from `0.0001` to below `10 ^ 16`, and with a power of ten
elsewhere. -/
def text : Binary64 → String
  | .finite negative m e =>
    let body :=
      if m = 0 then ['0', '.', '0']
      else
        let (ds, place) := shortest m e
        if -4 < place && place ≤ 16 then positional ds place else exponential ds place
    String.ofList (if negative then '-' :: body else body)
  | .infinite negative => if negative then "-inf" else "inf"

/-- Whether the number is zero, of either sign. -/
def isZero : Binary64 → Bool
  | .finite _ m _ => m == 0
  | .infinite _ => false

end Binary64

end Chronicle
