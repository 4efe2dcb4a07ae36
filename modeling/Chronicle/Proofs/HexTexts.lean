/-
# Which texts are those of byte strings

The spaced reader takes exactly the texts that are made of pairs of digits, in
either case, with blanks between the pairs and at the ends but not inside of a
pair. The bytes are those of the pairs in order.

Key definition: `Hex.IsSpaced`.
Key theorem: `Hex.spaced?_eq_some_iff`.
-/
import Chronicle.Hex
import Mathlib.Tactic.Common

namespace Chronicle.Hex

open Text

/-- The text holds a pair of digits for each of the bytes, in order, and blanks outside of pairs. -/
inductive IsSpaced : List Char → Bytes → Prop
  | nil : IsSpaced [] []
  | blank {c : Char} {cs : List Char} {bs : Bytes} (hblank : isAsciiBlank c = true)
      (hrest : IsSpaced cs bs) : IsSpaced (c :: cs) bs
  | pair {high low : Char} {h l : Nat} {cs : List Char} {bs : Bytes} (hhigh : value? high = some h)
      (hlow : value? low = some l) (hrest : IsSpaced cs bs) :
      IsSpaced (high :: low :: cs) (UInt8.ofNat (16 * h + l) :: bs)

theorem isAsciiBlank_of_value? {c : Char} {n : Nat} (h : value? c = some n) :
    isAsciiBlank c = false := by
  have hall : ∀ {c : Char}, c.toNat < 128 → (value? c).isSome = true → isAsciiBlank c = false := by
    apply forall_ascii
    decide
  have hsome : (value? c).isSome = true := by simp [h]
  exact hall (toNat_lt_of_value? hsome) hsome

theorem spaced?_cons_of_blank {c : Char} (h : isAsciiBlank c = true) (cs : List Char) :
    spaced? (c :: cs) = spaced? cs := by
  cases cs with
  | nil => simp [spaced?, h]
  | cons d rest => simp [spaced?, h]

theorem spaced?_of_isSpaced {cs : List Char} {bs : Bytes} (h : IsSpaced cs bs) :
    spaced? cs = some bs := by
  induction h with
  | nil => rfl
  | blank hblank _ ih => rw [spaced?_cons_of_blank hblank, ih]
  | pair hhigh hlow _ ih => simp [spaced?, isAsciiBlank_of_value? hhigh, byte?, hhigh, hlow, ih]

theorem isSpaced_of_spaced? : ∀ {cs : List Char} {bs : Bytes}, spaced? cs = some bs → IsSpaced cs bs
  | [], _, h => by
    cases h
    exact .nil
  | [c], _, h => by
    unfold spaced? at h
    split at h
    · next hblank =>
      cases h
      exact .blank hblank .nil
    · cases h
  | c :: d :: rest, bs, h => by
    unfold spaced? at h
    split at h
    · next hblank => exact .blank hblank (isSpaced_of_spaced? h)
    · simp only [byte?, Option.bind_eq_bind, Option.bind_eq_some_iff, Option.some.injEq] at h
      obtain ⟨_, ⟨high, hhigh, low, hlow, rfl⟩, bytes, hrest, rfl⟩ := h
      exact .pair hhigh hlow (isSpaced_of_spaced? hrest)

/-- The spaced reader takes the spaced texts and no others. -/
theorem spaced?_eq_some_iff {cs : List Char} {bs : Bytes} :
    spaced? cs = some bs ↔ IsSpaced cs bs :=
  ⟨isSpaced_of_spaced?, spaced?_of_isSpaced⟩

end Chronicle.Hex
