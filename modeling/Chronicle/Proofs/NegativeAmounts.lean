/-
# How negative amounts are told

A negative amount is split like any other: the whole part is the floor of the
quotient, and the rest counts upwards from there. Put together, the two read as
a number that counts away from zero. So what is told of a negative amount is a
minus and the text of another number, which is greater than its opposite by twice
what this lacks to the next whole unit. It is right, and a mirror of what is told
of the opposite, exactly for amounts of whole units.

Key definitions: `Amount.shortfall`, `Amount.Overstates`.
Key theorems: `Amount.neg_ediv_and_emod`, `Amount.scaled_neg`, `Amount.text_neg`,
`Amount.text_neg_asymmetric`.
-/
import Chronicle.Proofs.DecimalTexts
import Mathlib.Algebra.Order.Field.Rat
import Mathlib.Tactic.Linarith
import Mathlib.Tactic.Positivity

namespace Chronicle.Amount

/-- What a number of smallest units lacks to the next whole unit. -/
def shortfall (n places : Nat) : Nat :=
  (Nat.pow 10 places - n % Nat.pow 10 places) % Nat.pow 10 places

/-- The text `t` of a negative amount, against the text `s` of its opposite `n`. -/
structure Overstates (n : Nat) (decimals : Int) (s t : String) : Prop where
  /-- It is a minus and the text of a number that is too great by twice the shortfall. -/
  moved : ∃ u, scaled (n + 2 * shortfall n decimals.toNat : Nat) decimals = .ok u ∧ t = "-" ++ u
  /-- This is the number that it denotes. -/
  value : denoted t = -(n + 2 * shortfall n decimals.toNat) / 10 ^ decimals.toNat
  /-- It is the mirror of the other text exactly for whole units. -/
  mirrored : t = "-" ++ s ↔ Nat.pow 10 decimals.toNat ∣ n
  /-- It denotes the amount exactly for whole units. -/
  exact : denoted t = -n / 10 ^ decimals.toNat ↔ Nat.pow 10 decimals.toNat ∣ n

/-! ### Shortfalls -/

section

variable (n places : Nat)

theorem shortfall_lt : shortfall n places < Nat.pow 10 places :=
  Nat.mod_lt _ (Nat.pow_pos (by decide))

/-- With the shortfall, a number is made of whole units. -/
theorem dvd_add_shortfall : Nat.pow 10 places ∣ n + shortfall n places := by
  have hunit : 0 < Nat.pow 10 places := Nat.pow_pos (by decide)
  unfold shortfall
  generalize Nat.pow 10 places = unit at hunit ⊢
  have hmod := Nat.mod_lt n hunit
  rw [Nat.dvd_iff_mod_eq_zero]
  by_cases hzero : n % unit = 0
  · rw [hzero, Nat.sub_zero, Nat.mod_self, Nat.add_zero, hzero]
  · have hlack : (unit - n % unit) % unit = unit - n % unit := Nat.mod_eq_of_lt (by omega)
    have hsum : n % unit + (unit - n % unit) = unit := by omega
    rw [hlack, Nat.add_mod, Nat.mod_eq_of_lt (show unit - n % unit < unit by omega), hsum,
      Nat.mod_self]

theorem shortfall_eq_zero_iff : shortfall n places = 0 ↔ Nat.pow 10 places ∣ n := by
  constructor
  · intro hzero
    have hdvd := dvd_add_shortfall n places
    rwa [hzero, Nat.add_zero] at hdvd
  · intro hdvd
    rw [shortfall, Nat.mod_eq_zero_of_dvd hdvd, Nat.sub_zero, Nat.mod_self]

/-- The floor and the rest of a negative number, by those of the number that is too great by twice
the shortfall. -/
theorem neg_ediv_and_emod :
    (-(n : Int)) / (Nat.pow 10 places : Nat) =
        -((n + 2 * shortfall n places : Nat) / (Nat.pow 10 places : Nat) : Int) ∧
      (-(n : Int)) % (Nat.pow 10 places : Nat) =
        (n + 2 * shortfall n places : Nat) % (Nat.pow 10 places : Nat) := by
  obtain ⟨k, hk⟩ := dvd_add_shortfall n places
  have hlt := shortfall_lt n places
  generalize shortfall n places = lack at hk hlt ⊢
  generalize Nat.pow 10 places = unit at hk hlt ⊢
  have hunit : (unit : Int) ≠ 0 := by omega
  have hneg : -(n : Int) = lack + unit * -(k : Int) := by
    have hcast : (n : Int) + lack = unit * k := by exact_mod_cast hk
    rw [Int.mul_neg]
    omega
  have hdouble : ((n + 2 * lack : Nat) : Int) = lack + unit * (k : Int) := by
    have hcast : (n : Int) + lack = unit * k := by exact_mod_cast hk
    push_cast
    omega
  have hquotient : (lack : Int) / unit = 0 := Int.ediv_eq_zero_of_lt (by omega) (by omega)
  rw [hneg, hdouble]
  constructor
  · rw [Int.add_mul_ediv_left _ _ hunit, Int.add_mul_ediv_left _ _ hunit, hquotient, Int.zero_add,
      Int.zero_add]
  · rw [Int.add_mul_emod_self_left, Int.add_mul_emod_self_left]

end

/-! ### Texts -/

theorem written_neg {n : Nat} (hpos : 0 < n) :
    written (-(n : Int)) = (written n).map ("-" ++ ·) := by
  obtain ⟨k, rfl⟩ := Nat.exists_eq_succ_of_ne_zero (Nat.ne_of_gt hpos)
  show written (Int.negSucc k) = (written (Int.ofNat (k + 1))).map _
  unfold written Numeral.write?
  by_cases hlength : (k + 1).repr.length ≤ Numeral.maxDigits
  · rw [if_pos (show (Int.negSucc k).natAbs.repr.length ≤ _ from hlength),
      if_pos (show (Int.ofNat (k + 1)).natAbs.repr.length ≤ _ from hlength)]
    rfl
  · rw [if_neg (show ¬ (Int.negSucc k).natAbs.repr.length ≤ _ from hlength),
      if_neg (show ¬ (Int.ofNat (k + 1)).natAbs.repr.length ≤ _ from hlength)]
    rfl

/-- A negative amount is told as a minus and the text of a number that is too great by twice the
shortfall. -/
theorem scaled_neg {n : Nat} (hpos : 0 < n) (decimals : Int) : scaled (-(n : Int)) decimals =
    (scaled (n + 2 * shortfall n decimals.toNat : Nat) decimals).map ("-" ++ ·) := by
  by_cases hdecimals : decimals ≤ 0
  · have hnone : shortfall n 0 = 0 := (shortfall_eq_zero_iff n 0).2 (Nat.one_dvd n)
    rw [scaled, if_pos hdecimals, scaled, if_pos hdecimals, Int.toNat_of_nonpos hdecimals, hnone,
      Nat.mul_zero, Nat.add_zero]
    exact written_neg hpos
  · obtain ⟨hfloor, hrest⟩ := neg_ediv_and_emod n decimals.toNat
    have hwhole : 0 < (n + 2 * shortfall n decimals.toNat) / Nat.pow 10 decimals.toNat := by
      have hle := Nat.le_of_dvd (by omega) (dvd_add_shortfall n decimals.toNat)
      exact Nat.div_pos (by omega) (Nat.pow_pos (by decide))
    unfold scaled
    dsimp only
    rw [if_neg hdecimals, if_neg hdecimals, hfloor, hrest, ← Int.natCast_ediv, written_neg hwhole]
    by_cases hzero : ((n + 2 * shortfall n decimals.toNat : Nat) : Int) %
        (Nat.pow 10 decimals.toNat : Nat) = 0
    · rw [if_pos hzero, if_pos hzero]
    · rw [if_neg hzero, if_neg hzero]
      generalize written (_ % _) = digits
      generalize written _ = whole
      cases digits with
      | error fault => rfl
      | ok digits =>
        cases whole with
        | error fault => rfl
        | ok whole =>
          refine congrArg Except.ok ?_
          rw [String.append_assoc, String.append_assoc, String.append_assoc]

theorem append_minus_injective {s u : String} (h : "-" ++ u = "-" ++ s) : u = s := by
  have hlists := congrArg String.toList h
  rw [String.toList_append, String.toList_append] at hlists
  exact String.toList_inj.1 (List.append_cancel_left hlists)

/-- Texts of an amount and of its opposite are related so, however they are given. -/
theorem overstates_of_scaled {n : Nat} (hpos : 0 < n) {decimals : Int} {s t : String}
    (hs : scaled n decimals = .ok s) (ht : scaled (-(n : Int)) decimals = .ok t) :
    Overstates n decimals s t := by
  rw [scaled_neg hpos] at ht
  obtain ⟨u, hu, rfl⟩ : ∃ u, scaled (n + 2 * shortfall n decimals.toNat : Nat) decimals = .ok u ∧
      "-" ++ u = t := by
    cases hmoved : scaled (n + 2 * shortfall n decimals.toNat : Nat) decimals with
    | error fault =>
      rw [hmoved] at ht
      cases ht
    | ok u =>
      rw [hmoved] at ht
      exact ⟨u, rfl, Except.ok.inj ht⟩
  have hvalue : denoted ("-" ++ u) =
      -(n + 2 * shortfall n decimals.toNat) / 10 ^ decimals.toNat := by
    rw [denoted_minus, (magnitude_of_scaled hu).2]
    push_cast
    rw [neg_div]
  refine ⟨⟨u, hu, rfl⟩, hvalue, ?_, ?_⟩
  · rw [← shortfall_eq_zero_iff]
    constructor
    · intro hsame
      obtain rfl := append_minus_injective hsame
      have hequal := scaled_injective hu hs
      omega
    · intro hzero
      rw [hzero, Nat.mul_zero, Nat.add_zero, hs] at hu
      cases hu
      rfl
  · rw [← shortfall_eq_zero_iff, hvalue, div_left_inj' (by positivity)]
    constructor
    · intro hequal
      have hzero : (shortfall n decimals.toNat : ℚ) = 0 := by linarith
      exact_mod_cast hzero
    · intro hzero
      rw [hzero]
      simp

/-- An amount and its opposite are told, and what is told of the opposite is too great by twice the
shortfall: it is right exactly for amounts of whole units. -/
theorem text_neg {n : Nat} {decimals : Int} {v w : Value} (hpos : 0 < n)
    (hlength : n.repr.length < Numeral.maxDigits) (hdecimals : decimals < Numeral.maxDigits)
    (hv : Gives n v) (hw : Gives (-(n : Int)) w) :
    ∃ s t, text v decimals = .ok s ∧ text w decimals = .ok t ∧ Overstates n decimals s t := by
  have hshort : (n : Int).natAbs.repr.length ≤ Numeral.maxDigits := Nat.le_of_lt hlength
  have hshort' : (-(n : Int)).natAbs.repr.length ≤ Numeral.maxDigits := by
    rw [Int.natAbs_neg]
    exact hshort
  obtain ⟨s, hs⟩ := scaled_eq_ok_of_le hshort (Int.le_of_lt hdecimals)
  obtain ⟨t, ht⟩ := scaled_eq_ok_of_le hshort' (Int.le_of_lt hdecimals)
  refine ⟨s, t, ?_, ?_, overstates_of_scaled hpos hs ht⟩
  · rw [text_of_gives hv hshort, hs]
  · rw [text_of_gives hw hshort', ht]

/-- Half a unit is missing to the next whole one, so one and a half units that are taken away read
as two and a half. -/
theorem text_neg_half : text (.text "1500000") 6 = .ok "1.5" ∧
    text (.int (-1500000)) 6 = .ok "-2.5" ∧ Overstates 1500000 6 "1.5" "-2.5" := by
  have hgives : Gives (1500000 : Nat) (.text "1500000") := Or.inr rfl
  obtain ⟨s, t, hs, ht, hoverstates⟩ := text_neg (show 0 < 1500000 by decide) (by decide)
    (show (6 : Int) < Numeral.maxDigits by decide) hgives (Or.inl rfl)
  have htext : text (.text "1500000") 6 = .ok "1.5" := by decide +kernel
  have htext' : text (.int (-(1500000 : Nat))) 6 = .ok "-2.5" := by decide +kernel
  cases htext.symm.trans hs
  cases htext'.symm.trans ht
  exact ⟨htext, htext', hoverstates⟩

/-- What is told of an amount is not always mirrored by what is told of its opposite, and the
opposite is not always told exactly. -/
theorem text_neg_asymmetric :
    ¬ ∀ (n : Nat) (decimals : Int), 0 < n → n.repr.length < Numeral.maxDigits →
      decimals < Numeral.maxDigits → ∃ s, text (.int n) decimals = .ok s ∧
        text (.int (-(n : Int))) decimals = .ok ("-" ++ s) ∧
        denoted ("-" ++ s) = -n / 10 ^ decimals.toNat := by
  intro hmirrored
  obtain ⟨s, hs, ht, -⟩ := hmirrored 1500000 6 (by decide) (by decide) (by decide)
  have htext : text (.int (1500000 : Nat)) 6 = .ok "1.5" := by decide +kernel
  have htext' : text (.int (-(1500000 : Nat))) 6 = .ok "-2.5" := by decide +kernel
  cases htext.symm.trans hs
  exact absurd (htext'.symm.trans ht) (by decide)

end Chronicle.Amount
