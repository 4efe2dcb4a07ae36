/-
# Amounts are told exactly

The text of an amount in whole units keeps all of its digits: the whole part is
written in full, and of the fraction only zeros at its end are left out, which
the number of its places brings back. So two amounts that are told alike, with
the same decimals, are the same number of smallest units. The text is made of
digits and at most one point, and a numeral is read back as its number.

Key definition: `Amount.fractionText`.
Key theorems: `Numeral.read?_text_eq`, `Amount.ofDigits_fractionDigits`,
`Amount.toList_of_scaled`, `Amount.scaled_injective`.
-/
import Chronicle.Proofs.Amounts

namespace Chronicle

/-! ### Numerals are read back -/

namespace Numeral

theorem toDigits_injective {m n : Nat} (h : Nat.toDigits 10 m = Nat.toDigits 10 n) : m = n := by
  have hread := congrArg (fun ds => Nat.ofDigitChars 10 ds 0) h
  simpa only [Nat.ofDigitChars_ten_toDigits] using hread

theorem text_injective {m n : Nat} (h : text m = text n) : m = n := by
  have hlists : m.repr.toList = n.repr.toList := congrArg String.toList h
  rw [Nat.toList_repr, Nat.toList_repr] at hlists
  exact toDigits_injective hlists

theorem text_injective_of_nonneg {m n : Int} (hm : 0 ≤ m) (hn : 0 ≤ n) (h : text m = text n) :
    m = n := by
  obtain ⟨m, rfl⟩ := Int.eq_ofNat_of_zero_le hm
  obtain ⟨n, rfl⟩ := Int.eq_ofNat_of_zero_le hn
  rw [text_injective h]

theorem digits?_of_isDigit : ∀ {cs : List Char}, cs ≠ [] → (∀ c ∈ cs, c.isDigit = true) →
    digits? cs = some cs
  | [], h, _ => absurd rfl h
  | [c], _, h => by
    have hc : c.isDigit = true := h c List.mem_cons_self
    unfold digits?
    rw [if_pos hc]
  | c :: d :: rest, _, h => by
    have hc : c.isDigit = true := h c List.mem_cons_self
    have hd : d ≠ '_' := by
      rintro rfl
      exact absurd (h '_' (by simp)) (by decide)
    have hrest : digits? (d :: rest) = some (d :: rest) :=
      digits?_of_isDigit (List.cons_ne_nil d rest) fun e he => h e (List.mem_cons_of_mem c he)
    unfold digits?
    rw [if_pos hc, if_neg hd, hrest, Option.map_some]

theorem isAsciiBlank_of_isDigit {c : Char} (h : c.isDigit = true) :
    Text.isAsciiBlank c = false := by
  have hall : ∀ {c : Char}, c.toNat < 128 → c.isDigit = true → Text.isAsciiBlank c = false := by
    apply Text.forall_ascii
    decide
  exact hall (Text.toNat_lt_of_isDigit h) h

/-- Without blanks at its ends nothing of a text is left out. -/
theorem trimmed_of_forall {cs : List Char} (h : ∀ c ∈ cs, Text.isAsciiBlank c = false) :
    trimmed cs = cs := by
  have hkept {ds : List Char} (hds : ∀ c ∈ ds, Text.isAsciiBlank c = false) :
      ds.dropWhile Text.isAsciiBlank = ds :=
    dropWhile_of_stopsAt fun c hc => hds c (List.mem_of_mem_head? hc)
  unfold trimmed
  rw [hkept h, hkept fun c hc => h c (List.mem_reverse.1 hc), List.reverse_reverse]

/-- The digits of a number are read as the number, unless there are too many. -/
theorem readNat?_toDigits (n : Nat) :
    readNat? (Nat.toDigits 10 n) = if n.repr.length ≤ maxDigits then some n else none := by
  have hlength : (Nat.toDigits 10 n).length = n.repr.length := by
    rw [← Nat.toList_repr, String.length_toList]
  rw [readNat?, digits?_of_isDigit Nat.toDigits_ne_nil isDigit_of_mem_toDigits, Option.bind_some,
    hlength, ofDigits, foldl_toDigits]

theorem readSigned?_of_isDigit {cs : List Char} (h : ∀ c ∈ cs, c.isDigit = true) :
    readSigned? cs = (readNat? cs).map fun n : Nat => (n : Int) := by
  unfold readSigned?
  split
  · exact absurd (h '-' List.mem_cons_self) (by decide)
  · exact absurd (h '+' List.mem_cons_self) (by decide)
  · rfl

/-- A text of digits, with or without a minus in front, is read as it is. -/
theorem read?_eq_readSigned? {s : String} (h : ∀ c ∈ s.toList, c = '-' ∨ c.isDigit = true) :
    read? s = readSigned? s.toList := by
  have hascii : s.toList.all (·.toNat < 128) = true := by
    refine List.all_eq_true.2 fun c hc => decide_eq_true ?_
    rcases h c hc with rfl | hdigit
    · decide
    · exact Text.toNat_lt_of_isDigit hdigit
  have hblank : ∀ c ∈ s.toList, Text.isAsciiBlank c = false := by
    intro c hc
    rcases h c hc with rfl | hdigit
    · decide
    · exact isAsciiBlank_of_isDigit hdigit
  rw [read?, toAscii?, if_pos hascii, Option.bind_some, trimmed_of_forall hblank]

/-- The text of an integer is read back as the integer, unless it has too many digits. -/
theorem read?_text_eq : ∀ n : Int,
    read? (text n) = if n.natAbs.repr.length ≤ maxDigits then some n else none
  | .ofNat n => by
    have hlist : (text n).toList = Nat.toDigits 10 n := Nat.toList_repr
    have hdigits : ∀ c ∈ (text n).toList, c.isDigit = true := hlist ▸ isDigit_of_mem_toDigits
    show read? (text n) = if n.repr.length ≤ maxDigits then some (n : Int) else none
    rw [read?_eq_readSigned? fun c hc => Or.inr (hdigits c hc), readSigned?_of_isDigit hdigits,
      hlist, readNat?_toDigits]
    split <;> rfl
  | .negSucc n => by
    have hlist : (text (.negSucc n)).toList = '-' :: Nat.toDigits 10 (n + 1) := by
      simp [text, Nat.toList_repr]
    have hsigned : ∀ c ∈ (text (.negSucc n)).toList, c = '-' ∨ c.isDigit = true := by
      intro c hc
      rw [hlist] at hc
      exact (List.mem_cons.1 hc).imp_right (isDigit_of_mem_toDigits c)
    show _ = if (n + 1).repr.length ≤ maxDigits then some (Int.negSucc n) else none
    rw [read?_eq_readSigned? hsigned, hlist, readSigned?, readNat?_toDigits]
    split <;> rfl

/-- A numeral without a sign, of no more digits than are allowed, is read as its number. -/
theorem read?_text {n : Nat} (h : n.repr.length ≤ maxDigits) : read? (text n) = some (n : Int) :=
  (read?_text_eq n).trans (if_pos h)

theorem ofDigits_zeros_append (ds : List Char) :
    ∀ k : Nat, ofDigits (List.replicate k '0' ++ ds) = ofDigits ds
  | 0 => rfl
  | k + 1 => by
    rw [List.replicate_succ, List.cons_append, ← ofDigits_zeros_append ds k]
    rfl

end Numeral

/-! ### Fractions -/

namespace Amount

/-- The zeros that are left out at the end of a fraction are those that bring it back to its number
of places. -/
theorem fractionDigits_append_zeros {places : Nat} {digits : List Char}
    (h : digits.length ≤ places) :
    fractionDigits places digits ++
        List.replicate (places - (fractionDigits places digits).length) '0' =
      List.replicate (places - digits.length) '0' ++ digits := by
  obtain ⟨padded, hpadded⟩ : ∃ padded,
      List.replicate (places - digits.length) '0' ++ digits = padded := ⟨_, rfl⟩
  have hlength : padded.length = places := by
    rw [← hpadded, List.length_append, List.length_replicate]
    omega
  have hkept : fractionDigits places digits =
      (padded.reverse.dropWhile (· == '0')).reverse := by
    unfold fractionDigits
    dsimp only
    rw [hpadded]
  -- What is dropped from the end is what `takeWhile` would take from the reversed digits.
  have hsplit : fractionDigits places digits ++ (padded.reverse.takeWhile (· == '0')).reverse =
      padded := by
    rw [hkept, ← List.reverse_append, List.takeWhile_append_dropWhile, List.reverse_reverse]
  have hzeros : (padded.reverse.takeWhile (· == '0')).reverse =
      List.replicate (places - (fractionDigits places digits).length) '0' := by
    refine List.eq_replicate_iff.2 ⟨?_, fun c hc => ?_⟩
    · have htotal := congrArg List.length hsplit
      rw [List.length_append, hlength] at htotal
      omega
    · have hzero := List.mem_takeWhile_imp (List.mem_reverse.1 hc)
      simpa using hzero
  rw [hpadded, ← hzeros, hsplit]

/-- With the zeros that are left out, the digits of a fraction are those of its number. -/
theorem ofDigits_fractionDigits {places rest : Nat} (hplaces : 0 < places)
    (hrest : rest < Nat.pow 10 places) : Numeral.ofDigits
      (fractionDigits places (Nat.toDigits 10 rest) ++
        List.replicate (places - (fractionDigits places (Nat.toDigits 10 rest)).length) '0') =
      rest := by
  have hlength := (Nat.length_toDigits_le_iff (by decide) hplaces).2 hrest
  rw [fractionDigits_append_zeros hlength, Numeral.ofDigits_zeros_append]
  exact foldl_toDigits rest

/-- Two fractions with the same digits are the same number of smallest units. -/
theorem fractionDigits_injective {places m n : Nat} (hplaces : 0 < places)
    (hm : m < Nat.pow 10 places) (hn : n < Nat.pow 10 places)
    (h : fractionDigits places (Nat.toDigits 10 m) = fractionDigits places (Nat.toDigits 10 n)) :
    m = n := by
  rw [← ofDigits_fractionDigits hplaces hm, ← ofDigits_fractionDigits hplaces hn, h]

theorem mem_fractionDigits {places n : Nat} {c : Char}
    (h : c ∈ fractionDigits places (Nat.toDigits 10 n)) : c.isDigit = true := by
  unfold fractionDigits at h
  have hmem := (List.dropWhile_suffix _).subset (List.mem_reverse.1 h)
  rcases List.mem_append.1 (List.mem_reverse.1 hmem) with hzero | hdigit
  · rw [(List.mem_replicate.1 hzero).2]
    rfl
  · exact isDigit_of_mem_toDigits c hdigit

/-! ### Amounts -/

/-- What follows the whole part: nothing, or a point and the digits of the fraction. -/
def fractionText (places rest : Nat) : List Char :=
  if rest = 0 then [] else '.' :: fractionDigits places (Nat.toDigits 10 rest)

theorem stopsAt_fractionText {p : Char → Bool} (hpoint : p '.' = false) (places rest : Nat) :
    StopsAt p (fractionText places rest) := by
  unfold fractionText
  split
  · exact stopsAt_nil p
  · exact stopsAt_cons hpoint _

/-- Only a fraction with places is not zero. -/
theorem places_pos {places rest : Nat} (hne : rest ≠ 0) (hrest : rest < Nat.pow 10 places) :
    0 < places := by
  refine Nat.pos_of_ne_zero fun hzero => ?_
  subst hzero
  exact hne (Nat.lt_one_iff.1 hrest)

theorem fractionText_injective {places m n : Nat} (hm : m < Nat.pow 10 places)
    (hn : n < Nat.pow 10 places) (h : fractionText places m = fractionText places n) : m = n := by
  unfold fractionText at h
  by_cases hmzero : m = 0 <;> by_cases hnzero : n = 0
  · omega
  · rw [if_pos hmzero, if_neg hnzero] at h
    cases h
  · rw [if_neg hmzero, if_pos hnzero] at h
    cases h
  · rw [if_neg hmzero, if_neg hnzero] at h
    exact fractionDigits_injective (places_pos hmzero hm) hm hn (List.cons.inj h).2

theorem written_eq_ok_iff {n : Int} {s : String} :
    written n = .ok s ↔ n.natAbs.repr.length ≤ Numeral.maxDigits ∧ s = Numeral.text n := by
  rw [← Numeral.write?_eq_some_iff]
  unfold written
  cases Numeral.write? n <;> simp

/-- The text of a number in whole units: the digits of the whole part, which are not too many, and
the fraction. -/
theorem toList_of_scaled {n : Nat} {decimals : Int} {s : String} (h : scaled n decimals = .ok s) :
    (n / Nat.pow 10 decimals.toNat).repr.length ≤ Numeral.maxDigits ∧
      s.toList = Nat.toDigits 10 (n / Nat.pow 10 decimals.toNat) ++
        fractionText decimals.toNat (n % Nat.pow 10 decimals.toNat) := by
  have hlist {k : Nat} : (Numeral.text k).toList = Nat.toDigits 10 k := Nat.toList_repr
  unfold scaled at h
  dsimp only at h
  rw [← Int.natCast_ediv, ← Int.natCast_emod] at h
  by_cases hdecimals : decimals ≤ 0
  · rw [if_pos hdecimals] at h
    obtain ⟨hlength, rfl⟩ := written_eq_ok_iff.1 h
    have hwhole : n / Nat.pow 10 0 = n := Nat.div_one n
    have hrest : n % Nat.pow 10 0 = 0 := Nat.mod_one n
    rw [Int.toNat_of_nonpos hdecimals, hwhole, hrest, fractionText, if_pos rfl, List.append_nil]
    exact ⟨hlength, hlist⟩
  · rw [if_neg hdecimals] at h
    by_cases hzero : n % Nat.pow 10 decimals.toNat = 0
    · rw [if_pos (by omega)] at h
      obtain ⟨hlength, rfl⟩ := written_eq_ok_iff.1 h
      rw [fractionText, if_pos hzero, List.append_nil]
      exact ⟨hlength, hlist⟩
    · rw [if_neg (by omega)] at h
      obtain ⟨digits, hdigits, h⟩ := bind_eq_ok.1 h
      obtain ⟨shown, hshown, h⟩ := bind_eq_ok.1 h
      obtain ⟨-, rfl⟩ := written_eq_ok_iff.1 hdigits
      obtain ⟨hlength, rfl⟩ := written_eq_ok_iff.1 hshown
      have hpoint : ".".toList = ['.'] := rfl
      rw [← Except.ok.inj h, fractionText, if_neg hzero]
      refine ⟨hlength, ?_⟩
      simp only [String.toList_append, String.toList_ofList, hlist, hpoint, List.append_assoc,
        List.singleton_append]

theorem mem_scaled {n : Nat} {decimals : Int} {s : String} (hs : scaled n decimals = .ok s)
    {c : Char} (hc : c ∈ s.toList) : c.isDigit = true ∨ c = '.' := by
  rw [(toList_of_scaled hs).2] at hc
  rcases List.mem_append.1 hc with hc | hc
  · exact Or.inl (isDigit_of_mem_toDigits c hc)
  · unfold fractionText at hc
    split at hc
    · cases hc
    · rcases List.mem_cons.1 hc with rfl | hc
      · exact Or.inr rfl
      · exact Or.inl (mem_fractionDigits hc)

/-- The whole part is what stands before the first character that is no digit. -/
theorem takeWhile_scaled {n : Nat} {decimals : Int} {s : String} (hs : scaled n decimals = .ok s) :
    s.toList.takeWhile Char.isDigit = Nat.toDigits 10 (n / Nat.pow 10 decimals.toNat) := by
  rw [(toList_of_scaled hs).2]
  exact takeWhile_append_of_stopsAt isDigit_of_mem_toDigits (stopsAt_fractionText rfl _ _)

/-- Amounts that are told alike are equal. -/
theorem scaled_injective {m n : Nat} {decimals : Int} {s : String}
    (hm : scaled m decimals = .ok s) (hn : scaled n decimals = .ok s) : m = n := by
  have hunit : 0 < Nat.pow 10 decimals.toNat := Nat.pow_pos (by decide)
  have hwhole := (takeWhile_scaled hm).symm.trans (takeWhile_scaled hn)
  have hlists := (toList_of_scaled hm).2.symm.trans (toList_of_scaled hn).2
  rw [hwhole] at hlists
  have hrest := fractionText_injective (Nat.mod_lt m hunit) (Nat.mod_lt n hunit)
    (List.append_cancel_left hlists)
  have hquotient := Numeral.toDigits_injective hwhole
  calc m = Nat.pow 10 decimals.toNat * (m / Nat.pow 10 decimals.toNat) +
        m % Nat.pow 10 decimals.toNat := (Nat.div_add_mod _ _).symm
    _ = Nat.pow 10 decimals.toNat * (n / Nat.pow 10 decimals.toNat) +
        n % Nat.pow 10 decimals.toNat := by rw [hquotient, hrest]
    _ = n := Nat.div_add_mod _ _

end Amount

end Chronicle
