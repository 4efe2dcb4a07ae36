/- # Addresses

An address is forty hexadecimal digits of either case, with or without a mark
in front. All spellings of one address have one normal form: the mark `0x` and
lowercase digits. The case of the digits says nothing here: where it carries a
checksum, the checksum is not tested.

Key definitions: `Address.digits?`, `Address.normal?`, `Address.spelled`.
Key theorems: `Address.spelled_marked`, `Address.lowercase_spelled`.
-/
import Chronicle.Hex
import Chronicle.Text.Lowercase

namespace Chronicle.Address

/-- The forty digits of an address, as they are spelled. -/
def digits? (s : String) : Option (List Char) :=
  let cs := Hex.dropAnyMark s.toList
  if cs.length = 40 && cs.all (Hex.value? · |>.isSome) then some cs else none

/-- Whether a text is an address. One in mixed case is, whether or not its case is a checksum. -/
def isAddress (s : String) : Bool := (digits? s).isSome

/-- The normal form of an address. -/
def normal? (s : String) : Option String :=
  (digits? s).map fun cs => String.ofList ('0' :: 'x' :: cs.map Char.toLower)

/-- The normal form of an address, and any other text in lower case. -/
def spelled (s : String) : String := (normal? s).getD (Text.lowercase s)

theorem toLower_digit : ∀ n : Fin 16, (Hex.digit n).toLower = Hex.digit n := by decide

theorem map_toLower_digits (bs : Bytes) : (Hex.digits bs).map Char.toLower = Hex.digits bs :=
  (List.map_congr_left (Hex.forall_mem_digits toLower_digit)).trans (List.map_id _)

/-- The marked text of twenty bytes is an address in its normal form. -/
theorem spelled_marked {bs : Bytes} (h : bs.length = 20) :
    spelled (Hex.marked bs) = Hex.marked bs := by
  have hdigits : digits? (Hex.marked bs) = some (Hex.digits bs) := by
    simp only [digits?, Hex.dropAnyMark_marked, Hex.length_digits, h, Hex.all_digits]
    rfl
  rw [spelled, normal?, hdigits, Option.map_some, Option.getD_some, map_toLower_digits]
  exact String.toList_inj.1 (String.toList_ofList.trans (Hex.toList_marked bs).symm)

/-- The normal form of an address is in lower case, and so is that of any ASCII text. -/
theorem lowercase_spelled {s : String} (h : isAddress s = true ∨ ∀ c ∈ s.toList, c.toNat < 128) :
    Text.lowercase (spelled s) = spelled s := by
  unfold spelled normal?
  cases hdigits : digits? s with
  | none =>
    have hascii : ∀ c ∈ s.toList, c.toNat < 128 := by
      rcases h with haddress | hascii
      · rw [isAddress, hdigits] at haddress
        cases haddress
      · exact hascii
    have hlower : Text.lowercase s = String.ofList (s.toList.map Char.toLower) := by
      refine String.toList_inj.1 ?_
      rw [Text.toList_lowercase_of_ascii s hascii, String.toList_ofList]
    show Text.lowercase (Text.lowercase s) = Text.lowercase s
    rw [hlower]
    exact Text.lowercase_map_toLower hascii
  | some cs =>
    have hascii : ∀ c ∈ '0' :: 'x' :: cs, c.toNat < 128 := by
      obtain ⟨hvalid, hcs⟩ := Option.ite_none_right_eq_some.1 hdigits
      obtain ⟨-, hall⟩ := Bool.and_eq_true_iff.1 hvalid
      rw [Option.some.inj hcs] at hall
      refine List.forall_mem_cons.2 ⟨by decide, List.forall_mem_cons.2 ⟨by decide, fun c hc => ?_⟩⟩
      exact Hex.toNat_lt_of_value? (List.all_eq_true.1 hall c hc)
    have hlower := Text.lowercase_map_toLower hascii
    rw [List.map_cons, List.map_cons] at hlower
    exact hlower

end Chronicle.Address
