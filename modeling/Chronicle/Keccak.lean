/- # The Keccak-256 hash

The sponge over a state of five by five lanes of 64 bits, with a rate of 136
bytes and the padding that starts with a one bit and ends with one.

Key definitions: `Keccak.permute`, `Keccak.hash256`.
Key theorem: `Keccak.length_hash256`.
-/
import Chronicle.Hex

namespace Chronicle.Keccak

/-- The state: twenty-five lanes, row by row, each a number below the sixty-fourth power of two. -/
abbrev Lanes := List Nat

/-- The lane in column `x` of row `y`, both taken modulo five. -/
def lane (a : Lanes) (x y : Nat) : Nat := a.getD (5 * (y % 5) + x % 5) 0

/-- A state given lane by lane. -/
def lanes (f : Nat → Nat → Nat) : Lanes :=
  [f 0 0, f 1 0, f 2 0, f 3 0, f 4 0, f 0 1, f 1 1, f 2 1, f 3 1, f 4 1,
   f 0 2, f 1 2, f 2 2, f 3 2, f 4 2, f 0 3, f 1 3, f 2 3, f 3 3, f 4 3,
   f 0 4, f 1 4, f 2 4, f 3 4, f 4 4]

/-- The lane turned left by `n` places, for `n` below 64. -/
def rotate (w n : Nat) : Nat := (w <<< n) % Nat.pow 2 64 ||| w >>> (64 - n)

/-- How far the lanes are turned, row by row. -/
def offsets : List Nat :=
  [0, 1, 62, 28, 27, 36, 44, 6, 55, 20, 3, 10, 43, 25, 39, 41, 45, 15, 21, 8, 18, 2, 61, 56, 14]

/-- What the rounds add to the first lane. -/
def roundConstants : List Nat :=
  [0x0000000000000001, 0x0000000000008082, 0x800000000000808a, 0x8000000080008000,
   0x000000000000808b, 0x0000000080000001, 0x8000000080008081, 0x8000000000008009,
   0x000000000000008a, 0x0000000000000088, 0x0000000080008009, 0x000000008000000a,
   0x000000008000808b, 0x800000000000008b, 0x8000000000008089, 0x8000000000008003,
   0x8000000000008002, 0x8000000000000080, 0x000000000000800a, 0x800000008000000a,
   0x8000000080008081, 0x8000000000008080, 0x0000000080000001, 0x8000000080008008]

/-- Adds to every lane the parities of two neighbouring columns. -/
def mixColumns (a : Lanes) : Lanes :=
  let parity := [0, 1, 2, 3, 4].map fun x =>
    lane a x 0 ^^^ lane a x 1 ^^^ lane a x 2 ^^^ lane a x 3 ^^^ lane a x 4
  let added := [0, 1, 2, 3, 4].map fun x =>
    parity.getD ((x + 4) % 5) 0 ^^^ rotate (parity.getD ((x + 1) % 5) 0) 1
  lanes fun x y => lane a x y ^^^ added.getD x 0

/-- Turns the lanes and moves them: the lane that lands in column `x` of row `y` comes from column
`x + 3 y` of row `x`. -/
def scatter (a : Lanes) : Lanes :=
  let turned := List.zipWith rotate a offsets
  lanes fun x y => lane turned (x + 3 * y) x

/-- Combines every lane with the two that follow it in its row. -/
def mixRows (a : Lanes) : Lanes :=
  lanes fun x y => lane a x y ^^^ ((lane a (x + 1) y ^^^ 0xffffffffffffffff) &&& lane a (x + 2) y)

/-- Adds a round constant to the first lane. -/
def addConstant (c : Nat) : Lanes → Lanes
  | [] => []
  | w :: rest => (w ^^^ c) :: rest

/-- The permutation of the state. -/
def permute (a : Lanes) : Lanes :=
  roundConstants.foldl (fun a c => addConstant c (mixRows (scatter (mixColumns a)))) a

/-- The number of bytes taken in between two permutations. -/
def rate : Nat := 136

/-- The lanes of a byte string, the low byte first. -/
def words : Bytes → Lanes
  | b0 :: b1 :: b2 :: b3 :: b4 :: b5 :: b6 :: b7 :: rest =>
    [b7, b6, b5, b4, b3, b2, b1, b0].foldl (fun w b => 256 * w + b.toNat) 0 :: words rest
  | _ => []

/-- The eight bytes of a lane, the low byte first. -/
def laneBytes (w : Nat) : Bytes :=
  [0, 8, 16, 24, 32, 40, 48, 56].map fun n => UInt8.ofNat (w >>> n)

/-- The message filled up to a whole number of blocks. -/
def padded (message : Bytes) : Bytes :=
  let room := rate - message.length % rate
  if room = 1 then message ++ [0x81]
  else message ++ 0x01 :: List.replicate (room - 2) 0 ++ [0x80]

/-- Adds a block to the state, which keeps its lanes beyond the rate. -/
def absorb : Lanes → Lanes → Lanes
  | a :: as, w :: ws => (a ^^^ w) :: absorb as ws
  | as, [] => as
  | [], _ => []

/-- Takes in `count` blocks of the message, each before a permutation. -/
def sponge : Nat → Bytes → Lanes → Lanes
  | 0, _, a => a
  | count + 1, message, a =>
    sponge count (message.drop rate) (permute (absorb a (words (message.take rate))))

/-- The hash of a message, thirty-two bytes. -/
def hash256 (message : Bytes) : Bytes :=
  let blocks := padded message
  let state := sponge (blocks.length / rate) blocks (List.replicate 25 0)
  (state.take 4).flatMap laneBytes

/-! ### The hash has thirty-two bytes -/

theorem length_addConstant (c : Nat) (a : Lanes) : (addConstant c a).length = a.length := by
  cases a <;> rfl

theorem length_foldl_rounds : ∀ (cs : List Nat) {a : Lanes}, a.length = 25 →
    (cs.foldl (fun a c => addConstant c (mixRows (scatter (mixColumns a)))) a).length = 25
  | [], _, h => h
  | _ :: cs, _, _ => length_foldl_rounds cs (length_addConstant _ _)

theorem length_absorb : ∀ a ws : Lanes, (absorb a ws).length = a.length
  | [], [] => rfl
  | [], _ :: _ => rfl
  | _ :: _, [] => rfl
  | _ :: as, _ :: ws => congrArg (· + 1) (length_absorb as ws)

theorem length_sponge : ∀ (count : Nat) (message : Bytes) {a : Lanes}, a.length = 25 →
    (sponge count message a).length = 25
  | 0, _, _, h => h
  | count + 1, message, a, h =>
    length_sponge count (message.drop rate)
      (length_foldl_rounds roundConstants ((length_absorb a _).trans h))

theorem length_flatMap_laneBytes : ∀ a : Lanes, (a.flatMap laneBytes).length = 8 * a.length
  | [] => rfl
  | w :: a => by
    have hlane : (laneBytes w).length = 8 := rfl
    rw [List.flatMap_cons, List.length_append, hlane, length_flatMap_laneBytes a, List.length_cons]
    omega

theorem length_hash256 (message : Bytes) : (hash256 message).length = 32 := by
  have hzero : (List.replicate 25 0 : Lanes).length = 25 := List.length_replicate ..
  have hstate := length_sponge ((padded message).length / rate) (padded message) hzero
  rw [hash256, length_flatMap_laneBytes, List.length_take, hstate]
  rfl

end Chronicle.Keccak
