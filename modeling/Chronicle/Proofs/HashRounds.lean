/-
# The hash, round by round

The rounds of the hash are given by their steps on the whole state. Here a round
is written out for the twenty-five lanes, with each lane computed once and made
use of as a number. Both come to the same, and this form is the one in which
hashes of given texts can be computed in a proof.

Key definitions: `Keccak.strict`, `Keccak.round`, `Keccak.hashByRounds`.
Key theorems: `Keccak.round_eq`, `Keccak.hash256_eq`, `selectorOf_eq`.
-/
import Chronicle.Registry.Entry
import Mathlib.Tactic.Common

namespace Chronicle

namespace Keccak

/-- What `f` gives for a number. The number is known to be zero or a successor before `f` is opened,
so that it is computed only once. -/
def strict {α : Type} (n : Nat) (f : Nat → α) : α := Nat.rec (f 0) (fun n _ => f (n + 1)) n

theorem strict_eq {α : Type} (n : Nat) (f : Nat → α) : strict n f = f n := by
  cases n <;> rfl

/-- What `f` gives for five numbers, each computed once. -/
def strictly {α : Type} (a b c d e : Nat) (f : Nat → Nat → Nat → Nat → Nat → α) : α :=
  strict a fun a => strict b fun b => strict c fun c => strict d fun d => strict e fun e =>
    f a b c d e

theorem strictly_eq {α : Type} (a b c d e : Nat) (f : Nat → Nat → Nat → Nat → Nat → α) :
    strictly a b c d e f = f a b c d e := by
  simp only [strictly, strict_eq]

/-- The parity of a column. -/
def parity (a b c d e : Nat) : Nat := a ^^^ b ^^^ c ^^^ d ^^^ e

/-- A lane combined with the two that follow it in its row. -/
def combine (a b c : Nat) : Nat := a ^^^ ((b ^^^ 0xffffffffffffffff) &&& c)

/-- The lanes of a row, each combined with the two that follow it. -/
def row (a b c d e : Nat) (f : Nat → Nat → Nat → Nat → Nat → Lanes) : Lanes :=
  strictly (combine a b c) (combine b c d) (combine c d e) (combine d e a) (combine e a b) f

/-- One round, lane by lane. -/
def round (k : Nat) : Lanes → Lanes
  | [a0, a1, a2, a3, a4, a5, a6, a7, a8, a9, a10, a11, a12, a13, a14, a15, a16, a17, a18, a19, a20,
      a21, a22, a23, a24] =>
    strictly (parity a0 a5 a10 a15 a20) (parity a1 a6 a11 a16 a21) (parity a2 a7 a12 a17 a22)
      (parity a3 a8 a13 a18 a23) (parity a4 a9 a14 a19 a24) fun p0 p1 p2 p3 p4 =>
    strictly (p4 ^^^ rotate p1 1) (p0 ^^^ rotate p2 1) (p1 ^^^ rotate p3 1) (p2 ^^^ rotate p4 1)
      (p3 ^^^ rotate p0 1) fun d0 d1 d2 d3 d4 =>
    strictly (rotate (a0 ^^^ d0) 0) (rotate (a6 ^^^ d1) 44) (rotate (a12 ^^^ d2) 43)
      (rotate (a18 ^^^ d3) 21) (rotate (a24 ^^^ d4) 14) fun b0 b1 b2 b3 b4 =>
    strictly (rotate (a3 ^^^ d3) 28) (rotate (a9 ^^^ d4) 20) (rotate (a10 ^^^ d0) 3)
      (rotate (a16 ^^^ d1) 45) (rotate (a22 ^^^ d2) 61) fun b5 b6 b7 b8 b9 =>
    strictly (rotate (a1 ^^^ d1) 1) (rotate (a7 ^^^ d2) 6) (rotate (a13 ^^^ d3) 25)
      (rotate (a19 ^^^ d4) 8) (rotate (a20 ^^^ d0) 18) fun b10 b11 b12 b13 b14 =>
    strictly (rotate (a4 ^^^ d4) 27) (rotate (a5 ^^^ d0) 36) (rotate (a11 ^^^ d1) 10)
      (rotate (a17 ^^^ d2) 15) (rotate (a23 ^^^ d3) 56) fun b15 b16 b17 b18 b19 =>
    strictly (rotate (a2 ^^^ d2) 62) (rotate (a8 ^^^ d3) 55) (rotate (a14 ^^^ d4) 39)
      (rotate (a15 ^^^ d0) 41) (rotate (a21 ^^^ d1) 2) fun b20 b21 b22 b23 b24 =>
    row b0 b1 b2 b3 b4 fun r0 r1 r2 r3 r4 => row b5 b6 b7 b8 b9 fun r5 r6 r7 r8 r9 =>
    row b10 b11 b12 b13 b14 fun r10 r11 r12 r13 r14 =>
    row b15 b16 b17 b18 b19 fun r15 r16 r17 r18 r19 =>
    row b20 b21 b22 b23 b24 fun r20 r21 r22 r23 r24 => strict (r0 ^^^ k) fun r0 =>
      [r0, r1, r2, r3, r4, r5, r6, r7, r8, r9, r10, r11, r12, r13, r14, r15, r16, r17, r18, r19, r20,
        r21, r22, r23, r24]
  | _ => []

theorem round_eq (k : Nat) {a : Lanes} (h : a.length = 25) :
    addConstant k (mixRows (scatter (mixColumns a))) = round k a := by
  match a, h with
  | [a0, a1, a2, a3, a4, a5, a6, a7, a8, a9, a10, a11, a12, a13, a14, a15, a16, a17, a18, a19, a20,
      a21, a22, a23, a24], _ =>
    simp only [round, row, strictly_eq, strict_eq]
    rfl

/-- The permutation by these rounds. -/
def permuteByRounds (a : Lanes) : Lanes := roundConstants.foldl (fun a k => round k a) a

/-- The sponge with this permutation. -/
def spongeByRounds : Nat → Bytes → Lanes → Lanes
  | 0, _, a => a
  | count + 1, message, a =>
    spongeByRounds count (message.drop rate)
      (permuteByRounds (absorb a (words (message.take rate))))

/-- The hash with this sponge. -/
def hashByRounds (message : Bytes) : Bytes :=
  let blocks := padded message
  let state := spongeByRounds (blocks.length / rate) blocks (List.replicate 25 0)
  (state.take 4).flatMap laneBytes

theorem foldl_rounds_eq : ∀ (constants : List Nat) {a : Lanes}, a.length = 25 →
    constants.foldl (fun a k => addConstant k (mixRows (scatter (mixColumns a)))) a =
      constants.foldl (fun a k => round k a) a
  | [], _, _ => rfl
  | k :: constants, a, h => by
    rw [List.foldl_cons, List.foldl_cons, ← round_eq k h]
    exact foldl_rounds_eq constants (length_addConstant _ _)

theorem spongeByRounds_eq : ∀ (count : Nat) (message : Bytes) {a : Lanes}, a.length = 25 →
    sponge count message a = spongeByRounds count message a
  | 0, _, _, _ => rfl
  | count + 1, message, a, h => by
    have hlength : (absorb a (words (message.take rate))).length = 25 :=
      (length_absorb a _).trans h
    have hpermute : permute (absorb a (words (message.take rate))) =
        permuteByRounds (absorb a (words (message.take rate))) :=
      foldl_rounds_eq roundConstants hlength
    rw [sponge, spongeByRounds, ← hpermute]
    exact spongeByRounds_eq count _ (length_foldl_rounds roundConstants hlength)

/-- Both ways give the same hash. -/
theorem hash256_eq (message : Bytes) : hash256 message = hashByRounds message := by
  have hzero : (List.replicate 25 0 : Lanes).length = 25 := List.length_replicate ..
  rw [hash256, hashByRounds, spongeByRounds_eq _ _ hzero]

end Keccak

/-- A selector by the rounds of its hash. -/
def selectorByRounds (signature : String) : Bytes :=
  (Keccak.hashByRounds (Utf8.encode (String.ofList (signature.toList.filter (· ≠ ' '))))).take 4

theorem selectorOf_eq (signature : String) : selectorOf signature = selectorByRounds signature := by
  rw [selectorOf, Keccak.hash256_eq, selectorByRounds]

end Chronicle
