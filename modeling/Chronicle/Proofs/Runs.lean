/- # Runs of characters

A reader that takes characters as long as they are of one kind takes exactly
what a writer wrote, if what follows cannot continue the run. The decimal digits
of a number are such a run.

Key definition: `StopsAt`.
Key theorems: `takeWhile_append_of_stopsAt`, `dropWhile_append_of_stopsAt`,
`foldl_toDigits`.
-/
import Mathlib.Data.List.TakeWhile
import Mathlib.Tactic.Common

namespace Chronicle

/-- What holds of the members of a list is decided member by member, and not by going through all
characters there are. -/
instance (priority := 2000) decidableForallMem {p : Char → Prop} [DecidablePred p]
    (cs : List Char) : Decidable (∀ c ∈ cs, p c) := List.decidableBAll p cs

/-- The text does not go on with a character for which `p` holds. -/
def StopsAt (p : Char → Bool) (cs : List Char) : Prop := ∀ c ∈ cs.head?, p c = false

variable {p : Char → Bool} {xs rest : List Char}

theorem stopsAt_nil (p : Char → Bool) : StopsAt p [] := by simp [StopsAt]

theorem stopsAt_cons {c : Char} (h : p c = false) (cs : List Char) : StopsAt p (c :: cs) := by
  simpa [StopsAt] using h

theorem takeWhile_of_stopsAt (hr : StopsAt p rest) : rest.takeWhile p = [] := by
  cases rest with
  | nil => rfl
  | cons c cs =>
    have hc : p c = false := hr c rfl
    simp [hc]

theorem dropWhile_of_stopsAt (hr : StopsAt p rest) : rest.dropWhile p = rest := by
  cases rest with
  | nil => rfl
  | cons c cs =>
    have hc : p c = false := hr c rfl
    simp [hc]

theorem takeWhile_append_of_stopsAt (hx : ∀ c ∈ xs, p c = true) (hr : StopsAt p rest) :
    (xs ++ rest).takeWhile p = xs := by
  rw [List.takeWhile_append_of_pos hx, takeWhile_of_stopsAt hr, List.append_nil]

theorem dropWhile_append_of_stopsAt (hx : ∀ c ∈ xs, p c = true) (hr : StopsAt p rest) :
    (xs ++ rest).dropWhile p = rest := by
  rw [List.dropWhile_append_of_pos hx, dropWhile_of_stopsAt hr]

/-! ### Decimal digits -/

theorem isDigit_of_mem_toDigits {n : Nat} : ∀ c ∈ Nat.toDigits 10 n, c.isDigit = true :=
  fun _ h => Nat.isDigit_of_mem_toDigits (by decide) (by decide) h

/-- A digit is no letter. -/
theorem isAlpha_eq_false_of_isDigit {c : Char} (h : c.isDigit = true) : c.isAlpha = false := by
  have hc := Char.isDigit_iff_toNat.1 h
  have hnine : '9'.toNat = 57 := rfl
  have hupper : c.isUpper = false := by
    refine Bool.eq_false_iff.2 fun hupper => ?_
    have hletter : 'A'.val ≤ c.val := (of_decide_eq_true hupper).1
    have hle : 65 ≤ c.toNat := UInt32.le_iff_toNat_le.1 hletter
    omega
  have hlower : c.isLower = false := by
    refine Bool.eq_false_iff.2 fun hlower => ?_
    have hletter : 'a'.val ≤ c.val := of_decide_eq_true (Bool.and_eq_true_iff.1 hlower).1
    have hle : 97 ≤ c.toNat := UInt32.le_iff_toNat_le.1 hletter
    omega
  exact Bool.or_eq_false_iff.2 ⟨hupper, hlower⟩

/-- The digits of a number stand for it. -/
theorem foldl_toDigits (n : Nat) :
    (Nat.toDigits 10 n).foldl (fun n d => 10 * n + (d.toNat - '0'.toNat)) 0 = n :=
  Nat.ofDigitChars_ten_toDigits

/-- Only zero starts with a zero. -/
theorem head?_toDigits_ne_zero {n : Nat} (h : 0 < n) : (Nat.toDigits 10 n).head? ≠ some '0' := by
  induction n using Nat.strongRecOn with
  | ind n ih =>
    rw [Nat.toDigits_eq_if (by decide)]
    split
    · simp only [List.head?_cons, ne_eq, Option.some.injEq, Nat.digitChar_eq_zero]
      omega
    · have hhead := ih (n / 10) (by omega) (by omega)
      cases hdigits : Nat.toDigits 10 (n / 10) with
      | nil => exact absurd hdigits Nat.toDigits_ne_nil
      | cons d ds => rwa [hdigits] at hhead

end Chronicle
