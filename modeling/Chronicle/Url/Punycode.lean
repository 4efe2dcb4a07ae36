/- # Punycode

A label of a host name in ASCII alone: the ASCII characters of the label, a
hyphen if there are any, and for the others, in the order of their code
points, how many places are passed over before each is put in. These numbers
are written in thirty-six digits, the least significant first, and which digit
ends a number depends on the numbers before it.

Key definitions: `Punycode.digits`, `Punycode.adapted`, `Punycode.encode`.
-/

namespace Chronicle.Url.Punycode

/-- The digit of a number below thirty-six: a letter, or from twenty-six on a decimal digit. -/
def digit (n : Nat) : Char := Char.ofNat (if n < 26 then 97 + n else 22 + n)

/-- The least value of a digit that does not end a number, at the place `place`. -/
def threshold (bias place : Nat) : Nat := max 1 (min 26 (place - bias))

theorem one_le_threshold (bias place : Nat) : 1 ≤ threshold bias place := Nat.le_max_left _ _

/-- The digits of a number from the place `place` on. -/
def digits (bias place n : Nat) : List Char :=
  if n < threshold bias place then [digit n]
  else
    digit (threshold bias place +
        (n - threshold bias place) % (36 - threshold bias place)) ::
      digits bias (place + 36) ((n - threshold bias place) / (36 - threshold bias place))
termination_by n
decreasing_by
  have := one_le_threshold bias place
  have := Nat.div_le_self (n - threshold bias place) (36 - threshold bias place)
  omega

/-- The bias for numbers of the size of `n`, where `bias` counts the steps taken so far. -/
def scaled (bias n : Nat) : Nat :=
  if 455 < n then scaled (bias + 36) (n / 35) else bias + 36 * n / (n + 38)
termination_by n
decreasing_by omega

/-- The bias after the number `n`, when the label has `count` characters. The first number is taken
for far larger than the next. -/
def adapted (n count : Nat) (first : Bool) : Nat :=
  let n := if first then n / 700 else n / 2
  scaled 0 (n + n / count)

/-- How far a label has been written. -/
structure Progress where
  /-- The places passed over since the last character that was put in. -/
  passed : Nat
  bias : Nat
  /-- The characters that have their place. -/
  count : Nat
  written : List Char

/-- Passes over one character of the label while the characters of code point `point` are put in. -/
def step (basics point : Nat) (progress : Progress) (c : Char) : Progress :=
  if c.toNat < point then { progress with passed := progress.passed + 1 }
  else if c.toNat = point then
    { passed := 0
      bias := adapted progress.passed (progress.count + 1) (progress.count = basics)
      count := progress.count + 1
      written := progress.written ++ digits progress.bias 36 progress.passed }
  else progress

/-- Puts in the characters of the given code points, which follow each other from `next` on. -/
def putAll (label : List Char) (basics : Nat) : (points : List Nat) → (next : Nat) →
    Progress → Progress
  | [], _, progress => progress
  | point :: points, next, progress =>
    let start :=
      { progress with passed := progress.passed + (point - next) * (progress.count + 1) }
    let progress := label.foldl (step basics point) start
    putAll label basics points (point + 1) { progress with passed := progress.passed + 1 }

/-- A number put into an ascending list, unless it is there. -/
def insertPoint (n : Nat) : List Nat → List Nat
  | [] => [n]
  | m :: ms => if n < m then n :: m :: ms else if n = m then m :: ms else m :: insertPoint n ms

/-- A label in ASCII alone. -/
def encode (label : List Char) : List Char :=
  let basic := label.filter fun c => c.toNat < 128
  let others := label.filter fun c => 128 ≤ c.toNat
  let points := others.foldr (fun c points => insertPoint c.toNat points) []
  basic ++ (if basic.isEmpty then [] else ['-']) ++
    (putAll label basic.length points 128 ⟨0, 72, basic.length, []⟩).written

end Chronicle.Url.Punycode
