/- # JSON strings and numbers read back

Every character of a string is written as units of sixteen bits or as itself,
and the units are joined again by the reader: a pair of surrogates comes only
from a character beyond the basic plane, since no character is a surrogate. An
integer is read back from its numeral if no other part of a number follows.

Key definitions: `Json.unitsOf`, `Json.continuesNumber`.
Key theorems: `Json.readString_renderString`, `Json.readNumber_toDigits`.
-/
import Chronicle.Json.Reader
import Chronicle.Json.Writer
import Chronicle.Proofs.Runs

namespace Chronicle.Json

/-! ### Strings -/

/-- The units that a character is read as. -/
def unitsOf (c : Char) : List Nat :=
  if c.toNat < 0x10000 then [c.toNat]
  else [0xd800 + (c.toNat - 0x10000) / 0x400, 0xdc00 + (c.toNat - 0x10000) % 0x400]

theorem unit?_hexField {n : Nat} (h : n < 0x10000) :
    ∃ a b c d, Text.hexField 4 n = [a, b, c, d] ∧ unit? a b c d = some n := by
  refine ⟨_, _, _, _, rfl, ?_⟩
  have ha : Hex.value? (Nat.digitChar (n / 16 / 16 / 16 % 16)) = some (n / 16 / 16 / 16 % 16) :=
    Hex.value?_digit_of_lt (by omega)
  have hb : Hex.value? (Nat.digitChar (n / 16 / 16 % 16)) = some (n / 16 / 16 % 16) :=
    Hex.value?_digit_of_lt (by omega)
  have hc : Hex.value? (Nat.digitChar (n / 16 % 16)) = some (n / 16 % 16) :=
    Hex.value?_digit_of_lt (by omega)
  have hd : Hex.value? (Nat.digitChar (n % 16)) = some (n % 16) :=
    Hex.value?_digit_of_lt (by omega)
  have hjoin : ((n / 16 / 16 / 16 % 16 * 16 + n / 16 / 16 % 16) * 16 + n / 16 % 16) * 16 + n % 16 =
      n := by omega
  simp only [unit?, ha, hb, hc, hd, Option.bind_eq_bind, Option.bind_some, hjoin]

section

variable {rest behind : List Char} {units : List Nat}

theorem scanString_unitEscape {n : Nat} (hn : n < 0x10000)
    (h : scanString rest = some (units, behind)) :
    scanString (unitEscape n ++ rest) = some (n :: units, behind) := by
  obtain ⟨a, b, c, d, hfield, hunit⟩ := unit?_hexField hn
  simp only [unitEscape, hfield, List.cons_append, List.nil_append, scanString, hunit, h,
    Option.bind_eq_bind, Option.bind_some]

theorem scanString_shortEscape {e c : Char} (he : shortEscape? e = some c) (hu : e ≠ 'u')
    (h : scanString rest = some (units, behind)) :
    scanString ('\\' :: e :: rest) = some (c.toNat :: units, behind) := by
  rw [scanString]
  · simp only [he, h, Option.bind_eq_bind, Option.bind_some]
  · intro _ _ _ _ _ hcontra _
    exact hu hcontra

theorem scanString_plain {c : Char} (hquote : c ≠ '"') (hslash : c ≠ '\\') (hlow : 32 ≤ c.toNat)
    (h : scanString rest = some (units, behind)) :
    scanString (c :: rest) = some (c.toNat :: units, behind) := by
  have hallowed : ¬ ((decide (c.toNat < 32) || decide (c = '\\')) = true) := by
    simp only [Bool.or_eq_true, decide_eq_true_eq, not_or]
    exact ⟨by omega, hslash⟩
  rw [scanString]
  · simp only [if_neg hallowed, h, Option.bind_eq_bind, Option.bind_some]
  · exact hquote
  · intro _ _ _ _ _ hcontra _
    exact hslash hcontra
  · intro _ _ hcontra _
    exact hslash hcontra

end

theorem unitsOf_of_lt {c : Char} (h : c.toNat < 0x10000) : unitsOf c = [c.toNat] := if_pos h

/-- A character is written as a short escape, as itself, or as the escapes of its units. -/
theorem renderChar_cases (c : Char) :
    (∃ e, renderChar c = ['\\', e] ∧ shortEscape? e = some c ∧ e ≠ 'u' ∧ c.toNat < 0x10000) ∨
    (renderChar c = [c] ∧ c ≠ '"' ∧ c ≠ '\\' ∧ 32 ≤ c.toNat ∧ c.toNat < 0x10000) ∨
    renderChar c = (unitsOf c).flatMap unitEscape := by
  unfold renderChar
  by_cases hquote : c = '"'
  · exact Or.inl ⟨'"', by simp [hquote, shortEscape?]⟩
  by_cases hslash : c = '\\'
  · exact Or.inl ⟨'\\', by simp [hslash, shortEscape?]⟩
  by_cases hnewline : c = '\n'
  · exact Or.inl ⟨'n', by simp [hnewline, shortEscape?]⟩
  by_cases hreturn : c = '\r'
  · exact Or.inl ⟨'r', by simp [hreturn, shortEscape?]⟩
  by_cases htab : c = '\t'
  · exact Or.inl ⟨'t', by simp [htab, shortEscape?]⟩
  by_cases hback : c = '\x08'
  · exact Or.inl ⟨'b', by simp [hback, shortEscape?]⟩
  by_cases hfeed : c = '\x0c'
  · exact Or.inl ⟨'f', by simp [hfeed, shortEscape?]⟩
  refine Or.inr ?_
  rw [if_neg hquote, if_neg hslash, if_neg hnewline, if_neg hreturn, if_neg htab, if_neg hback,
    if_neg hfeed]
  split
  · next hplain =>
    simp only [Bool.and_eq_true, decide_eq_true_eq] at hplain
    exact Or.inl ⟨rfl, hquote, hslash, hplain.1, by omega⟩
  · refine Or.inr ?_
    unfold unitsOf
    split <;> simp

/-- No character is a surrogate. -/
theorem toNat_range (c : Char) : c.toNat < 0xd800 ∨ (0xdfff < c.toNat ∧ c.toNat < 0x110000) :=
  c.valid

theorem unitsOf_lt (c : Char) : ∀ n ∈ unitsOf c, n < 0x10000 := by
  have hc := toNat_range c
  intro n hn
  unfold unitsOf at hn
  split at hn
  · rw [List.mem_singleton.1 hn]
    assumption
  · simp only [List.mem_cons, List.not_mem_nil, or_false] at hn
    omega

section

variable {rest behind : List Char} {units : List Nat}

theorem scanString_escapes (h : scanString rest = some (units, behind)) : ∀ {ns : List Nat},
    (∀ n ∈ ns, n < 0x10000) →
      scanString (ns.flatMap unitEscape ++ rest) = some (ns ++ units, behind)
  | [], _ => h
  | n :: ns, hns => by
    have ih := scanString_escapes h fun m hm => hns m (List.mem_cons_of_mem n hm)
    rw [List.flatMap_cons, List.append_assoc]
    exact scanString_unitEscape (hns n List.mem_cons_self) ih

/-- One character is scanned to its units. -/
theorem scanString_renderChar (c : Char) (h : scanString rest = some (units, behind)) :
    scanString (renderChar c ++ rest) = some (unitsOf c ++ units, behind) := by
  rcases renderChar_cases c with
    ⟨e, hrender, he, hu, hlt⟩ | ⟨hrender, hquote, hslash, hlow, hlt⟩ | hrender
  · rw [hrender, unitsOf_of_lt hlt]
    exact scanString_shortEscape he hu h
  · rw [hrender, unitsOf_of_lt hlt]
    exact scanString_plain hquote hslash hlow h
  · rw [hrender]
    exact scanString_escapes h (unitsOf_lt c)

theorem scanString_flatMap_renderChar : ∀ cs : List Char,
    scanString (cs.flatMap renderChar ++ '"' :: rest) = some (cs.flatMap unitsOf, rest)
  | [] => rfl
  | c :: cs => by
    rw [List.flatMap_cons, List.append_assoc, List.flatMap_cons]
    exact scanString_renderChar c (scanString_flatMap_renderChar cs)

/-- The units of a character are joined to it again. -/
theorem joinUnits_unitsOf (c : Char) (units : List Nat) :
    joinUnits (unitsOf c ++ units) = (joinUnits units).map (c :: ·) := by
  have hrange := toNat_range c
  unfold unitsOf
  split
  · have hhigh : ¬ ((decide (0xd800 ≤ c.toNat) && decide (c.toNat < 0xdc00)) = true) := by
      simp only [Bool.and_eq_true, decide_eq_true_eq]
      omega
    have hlow : ¬ ((decide (0xdc00 ≤ c.toNat) && decide (c.toNat < 0xe000)) = true) := by
      simp only [Bool.and_eq_true, decide_eq_true_eq]
      omega
    have hboth : ¬ ((decide (0xd800 ≤ c.toNat) && decide (c.toNat < 0xe000)) = true) := by
      simp only [Bool.and_eq_true, decide_eq_true_eq]
      omega
    cases units with
    | nil => simp only [List.append_nil, joinUnits, if_neg hboth, Char.ofNat_toNat, Option.map_some]
    | cons m ms =>
      simp only [List.cons_append, List.nil_append, joinUnits, if_neg hhigh, if_neg hlow,
        Char.ofNat_toNat]
  · have hhigh : (decide (0xd800 ≤ 0xd800 + (c.toNat - 0x10000) / 0x400) &&
        decide (0xd800 + (c.toNat - 0x10000) / 0x400 < 0xdc00)) = true := by
      simp only [Bool.and_eq_true, decide_eq_true_eq]
      omega
    have hlow : (decide (0xdc00 ≤ 0xdc00 + (c.toNat - 0x10000) % 0x400) &&
        decide (0xdc00 + (c.toNat - 0x10000) % 0x400 < 0xe000)) = true := by
      simp only [Bool.and_eq_true, decide_eq_true_eq]
      omega
    have hjoin : 0x10000 + (0xd800 + (c.toNat - 0x10000) / 0x400 - 0xd800) * 0x400 +
        (0xdc00 + (c.toNat - 0x10000) % 0x400 - 0xdc00) = c.toNat := by omega
    simp only [List.cons_append, List.nil_append, joinUnits, if_pos hhigh, if_pos hlow, hjoin,
      Char.ofNat_toNat]

theorem joinUnits_flatMap_unitsOf : ∀ cs : List Char, joinUnits (cs.flatMap unitsOf) = some cs
  | [] => rfl
  | c :: cs => by
    rw [List.flatMap_cons, joinUnits_unitsOf, joinUnits_flatMap_unitsOf cs, Option.map_some]

/-- A string is read back, whatever follows its closing quote. -/
theorem readString_renderString (s : String) (rest : List Char) :
    readString (s.toList.flatMap renderChar ++ '"' :: rest) = some (s, rest) := by
  simp only [readString, scanString_flatMap_renderChar, joinUnits_flatMap_unitsOf,
    Option.bind_eq_bind, Option.bind_some, String.ofList_toList]

end

/-! ### Numbers -/

/-- The characters that a number may go on with. -/
def continuesNumber (c : Char) : Bool := c.isDigit || c = '.' || c = 'e' || c = 'E'

section

variable {rest : List Char}

theorem stopsAt_isDigit (h : StopsAt continuesNumber rest) : StopsAt Char.isDigit rest := by
  intro c hc
  have hcontinues := h c hc
  simp only [continuesNumber, Bool.or_eq_false_iff] at hcontinues
  exact hcontinues.1.1.1

theorem readFraction_of_stopsAt (h : StopsAt continuesNumber rest) :
    readFraction rest = some (none, rest) := by
  cases rest with
  | nil => rfl
  | cons c cs =>
    have hne : c ≠ '.' := by
      rintro rfl
      cases h '.' rfl
    rw [readFraction]
    rintro _ hcontra
    exact hne (List.cons.inj hcontra).1

theorem readExponent_of_stopsAt (h : StopsAt continuesNumber rest) :
    readExponent rest = some (none, rest) := by
  cases rest with
  | nil => rfl
  | cons c cs =>
    have hne : ¬ ((decide (c = 'e') || decide (c = 'E')) = true) := by
      have hcontinues := h c rfl
      simp only [continuesNumber, Bool.or_eq_false_iff] at hcontinues
      simp [hcontinues.1.2, hcontinues.2]
    exact if_neg hne

/-- An integer is read back from its digits, if no other part of a number follows. -/
theorem readNumber_toDigits (negative : Bool) (n : Nat) (h : StopsAt continuesNumber rest) :
    readNumber negative (Nat.toDigits 10 n ++ rest) =
      some (.int (if negative then -(n : Int) else n), rest) := by
  have hdigits : (Nat.toDigits 10 n ++ rest).takeWhile Char.isDigit = Nat.toDigits 10 n :=
    takeWhile_append_of_stopsAt isDigit_of_mem_toDigits (stopsAt_isDigit h)
  have hrest : (Nat.toDigits 10 n ++ rest).dropWhile Char.isDigit = rest :=
    dropWhile_append_of_stopsAt isDigit_of_mem_toDigits (stopsAt_isDigit h)
  have hvalue : ofDigits (Nat.toDigits 10 n) = n := foldl_toDigits n
  have hform : ¬ (((Nat.toDigits 10 n).isEmpty || (decide (1 < (Nat.toDigits 10 n).length) &&
      decide ((Nat.toDigits 10 n).head? = some '0'))) = true) := by
    rcases Nat.eq_zero_or_pos n with rfl | hpos
    · decide
    · have hhead := head?_toDigits_ne_zero hpos
      have hne : Nat.toDigits 10 n ≠ [] := Nat.toDigits_ne_nil
      simp [hhead, hne]
  simp only [readNumber, hdigits, hrest, if_neg hform, readFraction_of_stopsAt h,
    readExponent_of_stopsAt h, numberOf, hvalue, Option.bind_eq_bind, Option.bind_some]

end

end Chronicle.Json
