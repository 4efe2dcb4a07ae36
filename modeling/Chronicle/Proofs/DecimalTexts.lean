/-
# Amounts are told in canonical decimals

An amount that is not negative is told by a decimal number: a whole part without
zeros in front, and at most a fraction without zeros at its end, which has no
more places than the decimals. The number is the amount over the power of ten,
exactly. So amounts that are told alike are equal, which holds of integers and
of decimal texts, and also of texts that are too long to be read, since these
are told as they are.

Key definitions: `Amount.denoted`, `Amount.IsCanonical`, `Amount.Gives`.
Key theorems: `Amount.magnitude_of_digits`, `Amount.isCanonical_of_digits`,
`Amount.text_exact_and_injective`.
-/
import Chronicle.Proofs.AmountTexts
import Mathlib.Data.Rat.Defs
import Mathlib.Tactic.FieldSimp
import Mathlib.Tactic.NormNum

namespace Chronicle.Amount

/-! ### Decimal numbers -/

/-- The number of digits with at most one point among them. -/
def magnitude (cs : List Char) : ℚ :=
  let fraction := (cs.dropWhile (· ≠ '.')).tail
  Numeral.ofDigits (cs.takeWhile (· ≠ '.')) + Numeral.ofDigits fraction / 10 ^ fraction.length

/-- The number that a decimal text denotes, with or without a minus in front. -/
def denoted (s : String) : ℚ :=
  match s.toList with
  | '-' :: cs => -magnitude cs
  | cs => magnitude cs

/-- Digits of a whole number that do not start with a zero, or the zero. -/
structure IsWhole (cs : List Char) : Prop where
  digits : ∀ c ∈ cs, c.isDigit = true
  nonempty : cs ≠ []
  lead : cs = ['0'] ∨ cs.head? ≠ some '0'

/-- One to `places` digits that do not end in a zero. -/
structure IsFraction (places : Nat) (cs : List Char) : Prop where
  digits : ∀ c ∈ cs, c.isDigit = true
  nonempty : cs ≠ []
  length_le : cs.length ≤ places
  last : cs.getLast? ≠ some '0'

/-- A whole number, or a whole number and a fraction with the point between them. -/
inductive IsCanonical (places : Nat) : List Char → Prop
  | whole {ws : List Char} (hwhole : IsWhole ws) : IsCanonical places ws
  | fraction {ws fs : List Char} (hwhole : IsWhole ws) (hfraction : IsFraction places fs) :
    IsCanonical places (ws ++ '.' :: fs)

/-- The value is this integer, or the decimal text of it. -/
def Gives (n : Int) (v : Value) : Prop := v = .int n ∨ v = .text (Numeral.text n)

theorem ofDigits_append_zeros (ds : List Char) : ∀ k : Nat,
    Numeral.ofDigits (ds ++ List.replicate k '0') = Numeral.ofDigits ds * Nat.pow 10 k
  | 0 => by
    rw [List.replicate_zero, List.append_nil]
    exact (Nat.mul_one _).symm
  | k + 1 => by
    have hsucc : Nat.pow 10 (k + 1) = Nat.pow 10 k * 10 := rfl
    have ih := ofDigits_append_zeros ds k
    unfold Numeral.ofDigits at ih ⊢
    rw [List.replicate_succ', ← List.append_assoc, List.foldl_append, ih, hsucc]
    show 10 * (_ * Nat.pow 10 k) + 0 = _
    rw [Nat.add_zero, Nat.mul_comm 10, Nat.mul_assoc]

section

variable {places rest : Nat}

theorem length_fractionDigits_le (hplaces : 0 < places) (hrest : rest < Nat.pow 10 places) :
    (fractionDigits places (Nat.toDigits 10 rest)).length ≤ places := by
  have hlength := (Nat.length_toDigits_le_iff (by decide) hplaces).2 hrest
  have htotal := congrArg List.length (fractionDigits_append_zeros hlength)
  simp only [List.length_append, List.length_replicate] at htotal
  omega

/-- A fraction that is not zero has digits, and the last of them is not zero. -/
theorem isFraction_fractionDigits (hne : rest ≠ 0) (hrest : rest < Nat.pow 10 places) :
    IsFraction places (fractionDigits places (Nat.toDigits 10 rest)) := by
  have hplaces := places_pos hne hrest
  refine ⟨fun c hc => mem_fractionDigits hc, ?_, length_fractionDigits_le hplaces hrest, ?_⟩
  · intro hnil
    have hback := ofDigits_fractionDigits hplaces hrest
    rw [hnil, ofDigits_append_zeros] at hback
    have hnone : Numeral.ofDigits [] = 0 := rfl
    rw [hnone, Nat.zero_mul] at hback
    exact hne hback.symm
  · unfold fractionDigits
    dsimp only
    rw [List.getLast?_reverse]
    intro hzero
    have hnot := List.head?_dropWhile_not (· == '0')
      (List.replicate (places - (Nat.toDigits 10 rest).length) '0' ++ Nat.toDigits 10 rest).reverse
    rw [hzero] at hnot
    cases hnot

/-- The digits of a fraction, over the power of ten of their number, are the rest over that of the
places. -/
theorem ofDigits_fractionDigits_div (hplaces : 0 < places) (hrest : rest < Nat.pow 10 places) :
    (Numeral.ofDigits (fractionDigits places (Nat.toDigits 10 rest)) : ℚ) /
        10 ^ (fractionDigits places (Nat.toDigits 10 rest)).length = rest / 10 ^ places := by
  have hlength := length_fractionDigits_le hplaces hrest
  have hback := ofDigits_fractionDigits hplaces hrest
  rw [ofDigits_append_zeros] at hback
  generalize fractionDigits places (Nat.toDigits 10 rest) = fs at hlength hback ⊢
  obtain ⟨k, rfl⟩ := Nat.exists_eq_add_of_le hlength
  rw [Nat.add_sub_cancel_left] at hback
  have hcast : (rest : ℚ) = Numeral.ofDigits fs * 10 ^ k := by
    rw [← hback, Nat.cast_mul]
    congr 1
    exact Nat.cast_pow 10 k
  rw [hcast, pow_add]
  field_simp

/-- A whole part with what follows it denotes the sum of both. -/
theorem magnitude_of_digits (whole : Nat) (hrest : rest < Nat.pow 10 places) :
    magnitude (Nat.toDigits 10 whole ++ fractionText places rest) =
      whole + rest / 10 ^ places := by
  have hpoint : ∀ c ∈ Nat.toDigits 10 whole, decide (c ≠ '.') = true := by
    intro c hc
    have hdigit := isDigit_of_mem_toDigits c hc
    refine decide_eq_true ?_
    rintro rfl
    cases hdigit
  have hstops : StopsAt (fun c => decide (c ≠ '.')) (fractionText places rest) :=
    stopsAt_fractionText rfl places rest
  have hvalue : Numeral.ofDigits (Nat.toDigits 10 whole) = whole := foldl_toDigits whole
  unfold magnitude
  dsimp only
  rw [takeWhile_append_of_stopsAt hpoint hstops, dropWhile_append_of_stopsAt hpoint hstops, hvalue]
  congr 1
  unfold fractionText
  by_cases hzero : rest = 0
  · have hnone : Numeral.ofDigits [] = 0 := rfl
    rw [if_pos hzero, hzero, List.tail_nil, hnone]
    simp
  · rw [if_neg hzero, List.tail_cons]
    exact ofDigits_fractionDigits_div (places_pos hzero hrest) hrest

theorem isWhole_toDigits (n : Nat) : IsWhole (Nat.toDigits 10 n) := by
  refine ⟨isDigit_of_mem_toDigits, Nat.toDigits_ne_nil, ?_⟩
  rcases Nat.eq_zero_or_pos n with rfl | hpos
  · exact Or.inl rfl
  · exact Or.inr (head?_toDigits_ne_zero hpos)

theorem isCanonical_of_digits (whole : Nat) (hrest : rest < Nat.pow 10 places) :
    IsCanonical places (Nat.toDigits 10 whole ++ fractionText places rest) := by
  unfold fractionText
  by_cases hzero : rest = 0
  · rw [if_pos hzero, List.append_nil]
    exact .whole (isWhole_toDigits whole)
  · rw [if_neg hzero]
    exact .fraction (isWhole_toDigits whole) (isFraction_fractionDigits hzero hrest)

end

/-! ### Amounts -/

section

variable {n : Nat} {decimals : Int} {s : String} {v : Value}

/-- Behind a minus stands the number that is taken away. -/
theorem denoted_minus (s : String) : denoted ("-" ++ s) = -magnitude s.toList := by
  simp [denoted]

theorem denoted_of_forall (h : ∀ c ∈ s.toList, c ≠ '-') : denoted s = magnitude s.toList := by
  unfold denoted
  split
  · next cs hcs => exact absurd rfl (h '-' (by simp [hcs]))
  · rfl

/-- The quotient and the rest together are the number over the unit. -/
theorem quotient_add_rest (n places : Nat) :
    ((n / Nat.pow 10 places : Nat) : ℚ) + (n % Nat.pow 10 places : Nat) / 10 ^ places =
      n / 10 ^ places := by
  have hcast : ((Nat.pow 10 places : Nat) : ℚ) = 10 ^ places := Nat.cast_pow 10 places
  calc ((n / Nat.pow 10 places : Nat) : ℚ) + (n % Nat.pow 10 places : Nat) / 10 ^ places
      = (10 ^ places * (n / Nat.pow 10 places : Nat) + (n % Nat.pow 10 places : Nat)) /
          10 ^ places := by field_simp
    _ = n / 10 ^ places := by
        rw [← hcast, ← Nat.cast_mul, ← Nat.cast_add, Nat.div_add_mod]

/-- The text of a number in whole units is canonical, and it denotes the number over the unit. -/
theorem magnitude_of_scaled (h : scaled n decimals = .ok s) :
    IsCanonical decimals.toNat s.toList ∧ magnitude s.toList = n / 10 ^ decimals.toNat := by
  have hrest : n % Nat.pow 10 decimals.toNat < Nat.pow 10 decimals.toNat :=
    Nat.mod_lt n (Nat.pow_pos (by decide))
  rw [(toList_of_scaled h).2]
  refine ⟨isCanonical_of_digits _ hrest, ?_⟩
  rw [magnitude_of_digits _ hrest, quotient_add_rest]

theorem denoted_of_scaled (h : scaled n decimals = .ok s) :
    denoted s = n / 10 ^ decimals.toNat := by
  rw [denoted_of_forall, (magnitude_of_scaled h).2]
  rintro c hc rfl
  rcases mem_scaled h hc with hdigit | hpoint
  · cases hdigit
  · cases hpoint

/-- A text of an integer is told like the integer, or as it is if it is too long to be read. -/
theorem text_numeral (n decimals : Int) : text (.text (Numeral.text n)) decimals =
    if n.natAbs.repr.length ≤ Numeral.maxDigits then scaled n decimals else .ok (Numeral.text n) := by
  have hwhole : wholeNumber (.text (Numeral.text n)) = .ok
      (if n.natAbs.repr.length ≤ Numeral.maxDigits then some n else none) :=
    congrArg Except.ok (Numeral.read?_text_eq n)
  rw [text, bind_of_ok hwhole]
  by_cases hlength : n.natAbs.repr.length ≤ Numeral.maxDigits
  · rw [if_pos hlength, if_pos hlength]
  · rw [if_neg hlength, if_neg hlength]
    rfl

/-- An integer that is not too long is told in whole units, in either form. -/
theorem text_of_gives {n : Int} (h : Gives n v) (hlength : n.natAbs.repr.length ≤ Numeral.maxDigits)
    (decimals : Int) : text v decimals = scaled n decimals := by
  rcases h with rfl | rfl
  · rfl
  · rw [text_numeral, if_pos hlength]

/-- What is told of an integer is its text in whole units, or its digits where there are too many. -/
theorem scaled_or_long_of_gives {n : Int} (h : Gives n v) (htext : text v decimals = .ok s) :
    scaled n decimals = .ok s ∨
      Numeral.maxDigits < n.natAbs.repr.length ∧ s = Numeral.text n := by
  rcases h with rfl | rfl
  · exact Or.inl htext
  · rw [text_numeral] at htext
    by_cases hlength : n.natAbs.repr.length ≤ Numeral.maxDigits
    · rw [if_pos hlength] at htext
      exact Or.inl htext
    · rw [if_neg hlength] at htext
      cases htext
      exact Or.inr ⟨Nat.lt_of_not_le hlength, rfl⟩

/-- An amount in whole units is no text that is too long to be read: its whole part is written. -/
theorem scaled_ne_long {m : Nat} (h : scaled n decimals = .ok s)
    (hlong : Numeral.maxDigits < m.repr.length) : s ≠ Numeral.text m := by
  rintro rfl
  have hdigits : ∀ c ∈ (Numeral.text m).toList, c.isDigit = true := by
    have hlist : (Numeral.text m).toList = Nat.toDigits 10 m := Nat.toList_repr
    rw [hlist]
    exact isDigit_of_mem_toDigits
  have hwhole := takeWhile_scaled h
  rw [List.takeWhile_eq_self_iff.2 hdigits] at hwhole
  have hsame : m = n / Nat.pow 10 decimals.toNat :=
    Numeral.toDigits_injective (Nat.toList_repr.symm.trans hwhole)
  have hlength := (toList_of_scaled h).1
  rw [← hsame] at hlength
  omega

theorem gives_injective {m : Nat} {w : Value} (hv : Gives m v) (hw : Gives n w)
    (hm : text v decimals = .ok s) (hn : text w decimals = .ok s) : m = n := by
  rcases scaled_or_long_of_gives hv hm with hm | ⟨hmlong, hms⟩
  · rcases scaled_or_long_of_gives hw hn with hn | ⟨hnlong, hns⟩
    · exact scaled_injective hm hn
    · exact absurd hns (scaled_ne_long hm hnlong)
  · rcases scaled_or_long_of_gives hw hn with hn | ⟨-, hns⟩
    · exact absurd hms (scaled_ne_long hn hmlong)
    · exact Numeral.text_injective (hms.symm.trans hns)

end

/-- With any decimals, an integer that is not negative and not too long is told by a canonical
decimal text, which denotes the integer over the power of ten. Integers that are told alike, in
whatever form, are equal. -/
theorem text_exact_and_injective (decimals : Int) :
    (∀ (n : Nat) (v : Value), n.repr.length ≤ Numeral.maxDigits → Gives n v →
      ∃ s, text v decimals = .ok s ∧ IsCanonical decimals.toNat s.toList ∧
        denoted s = n / 10 ^ decimals.toNat) ∧
    (∀ (m n : Nat) (v w : Value) (s : String), Gives m v → Gives n w →
      text v decimals = .ok s → text w decimals = .ok s → m = n) := by
  refine ⟨fun n v hlength hv => ?_, fun m n v w s hv hw => gives_injective hv hw⟩
  obtain ⟨s, hs⟩ := scaled_eq_ok (Int.natCast_nonneg n) hlength decimals
  refine ⟨s, ?_, (magnitude_of_scaled hs).1, denoted_of_scaled hs⟩
  rw [text_of_gives hv hlength, hs]

/-- Inner zeros of an amount with six decimals stay, and of integers only that one is told so. -/
theorem text_exact_and_injective_six :
    (text (.text "1050000") 6 = .ok "1.05" ∧ IsCanonical 6 "1.05".toList ∧
      denoted "1.05" = 1050000 / 10 ^ 6) ∧
    ∀ n : Nat, text (.int n) 6 = .ok "1.05" → n = 1050000 := by
  obtain ⟨hexact, hinjective⟩ := text_exact_and_injective 6
  have hgives : Gives (1050000 : Nat) (.text "1050000") := Or.inr rfl
  have htext : text (.text "1050000") 6 = .ok "1.05" := by decide +kernel
  obtain ⟨s, hs, hcanonical, hdenoted⟩ := hexact 1050000 _ (by decide) hgives
  cases htext.symm.trans hs
  refine ⟨⟨htext, hcanonical, by exact_mod_cast hdenoted⟩, fun n hn => ?_⟩
  exact hinjective n 1050000 _ _ _ (Or.inl rfl) hgives hn htext

end Chronicle.Amount
