/-
# The forms of a transaction hash

A hash is given as bytes, or as text in any spelling that the strict reader
takes. A text that begins with `0x`, or has no mark at all, is shown like the
bytes that it stands for. The mark `0X` is no mark to the one who shows the hash,
though the reader knows it: another `0x` is put in front, and the fourth
character of what is shown is then an `x` that the bytes never show there.

Key theorems: `Hex.Spells.lowercase_append`, `TransactionHash.shown_text`,
`TransactionHash.shown_ne_abbreviated`, `TransactionHash.shown_eq_iff`.
-/
import Chronicle.Narration.Narrator
import Chronicle.Proofs.HexGrammar

namespace Chronicle

namespace Text

/-- Only characters behind the sixth are left out when a text is abbreviated. -/
theorem getElem?_abbreviated_of_lt (s : String) {k : Nat} (h : k < 6) :
    (abbreviated s).toList[k]? = s.toList[k]? := by
  unfold abbreviated
  dsimp only
  split
  · have hsix : k < (s.toList.take 6).length := by
      rw [List.length_take]
      omega
    rw [String.toList_ofList, List.append_assoc, List.getElem?_append_left hsix,
      List.getElem?_take_of_lt h]
  · rfl

end Text

namespace Hex

variable {s : String} {ds : List Char} {bs : Bytes}

/-- The texts of the grammar are ASCII texts. -/
theorem Spells.toNat_lt (h : Spells s ds) : ∀ c ∈ s.toList, c.toNat < 128 := by
  obtain ⟨mark, hmark, hs⟩ := h.mark
  have hmarks : ∀ mark ∈ marks, ∀ c ∈ mark.toList, c.toNat < 128 := by decide
  rw [hs]
  intro c hc
  rcases List.mem_append.1 hc with hc | hc
  · exact hmarks mark hmark c hc
  · exact toNat_lt_of_value? (isSome_value?_iff.2 (h.isDigit c hc))

/-- A text of the grammar behind an ASCII text: in lower case, it is the two marks in a row and the
digits of its bytes. -/
theorem Spells.lowercase_append (h : Spells s ds) (hbytes : ds.map Char.toLower = digits bs)
    {front mark lower : String} (hs : s.toList = mark.toList ++ ds)
    (hfront : ∀ c ∈ front.toList, c.toNat < 128)
    (hlower : (front.toList ++ mark.toList).map Char.toLower = lower.toList) :
    Text.lowercase (front ++ s) = lower ++ plain bs := by
  have hascii : ∀ c ∈ (front ++ s).toList, c.toNat < 128 := by
    rw [String.toList_append]
    exact List.forall_mem_append.2 ⟨hfront, h.toNat_lt⟩
  refine String.toList_inj.1 ?_
  calc (Text.lowercase (front ++ s)).toList
      = (front ++ s).toList.map Char.toLower := Text.toList_lowercase_of_ascii _ hascii
    _ = (front.toList ++ mark.toList).map Char.toLower ++ ds.map Char.toLower := by
      rw [String.toList_append, hs, ← List.append_assoc, List.map_append]
    _ = (lower ++ plain bs).toList := by
      rw [hlower, hbytes, String.toList_append, plain, String.toList_ofList]

end Hex

namespace TransactionHash

variable {t : String} {bs : Bytes}

/-- A text of the grammar is shown like its bytes, unless its mark is `0X`, which is then left
behind another mark. -/
theorem shown_text (h : Hex.parse t = .ok bs) : (text t).shown =
    if ['0', 'X'] <+: t.toList then Text.abbreviated ("0x" ++ Hex.marked bs)
    else (bytes bs).shown := by
  obtain ⟨ds, hds, hbytes⟩ := Hex.parse_eq_ok_iff.1 h
  obtain ⟨mark, hmark, hs⟩ := hds.mark
  have hdigits (letter : Char) (hletter : letter ∉ Hex.digitChars) : ¬ ['0', letter] <+: ds := by
    intro hbegins
    have hmem : letter ∈ ds := hbegins.subset (by simp)
    exact hletter (hds.isDigit letter hmem)
  have hascii : ∀ c ∈ "0x".toList, c.toNat < 128 := by decide
  have hlower (front lower : String) (hfront : ∀ c ∈ front.toList, c.toNat < 128)
      (hlower : (front.toList ++ mark.toList).map Char.toLower = lower.toList) :
      Text.lowercase (front ++ t) = lower ++ Hex.plain bs :=
    hds.lowercase_append hbytes hs hfront hlower
  simp only [Hex.marks, List.mem_cons, List.not_mem_nil, or_false] at hmark
  unfold shown
  dsimp only
  simp only [List.isPrefixOf_iff_prefix]
  rcases hmark with rfl | rfl | rfl
  · have hnone : t.toList = ds := hs
    rw [hnone, if_neg (hdigits 'x' (by decide)), if_neg (hdigits 'X' (by decide)),
      hlower "0x" "0x" hascii rfl]
    rfl
  · have hmarked : ['0', 'x'] <+: t.toList := ⟨ds, hs.symm⟩
    have hcapital : ¬ ['0', 'X'] <+: t.toList := by
      rw [hs]
      simp
    have hsame := hlower "" "0x" (by simp) rfl
    rw [String.empty_append] at hsame
    rw [if_pos hmarked, if_neg hcapital, hsame]
    rfl
  · have hcapital : ['0', 'X'] <+: t.toList := ⟨ds, hs.symm⟩
    have hmarked : ¬ ['0', 'x'] <+: t.toList := by
      rw [hs]
      simp
    rw [if_neg hmarked, if_pos hcapital, hlower "0x" "0x0x" hascii rfl]
    rfl

/-- What is shown of bytes has no second mark. -/
theorem shown_ne_abbreviated (bs : Bytes) :
    Text.abbreviated ("0x" ++ Hex.marked bs) ≠ (bytes bs).shown := by
  intro h
  have hfourth := congrArg (fun s : String => s.toList[3]?) h
  unfold shown at hfourth
  dsimp only at hfourth
  rw [Text.getElem?_abbreviated_of_lt _ (by decide), Text.getElem?_abbreviated_of_lt _ (by decide)]
    at hfourth
  have hmem : 'x' ∈ Hex.digits bs := by
    refine List.mem_of_getElem? (i := 1) ?_
    simpa [Hex.marked, Hex.plain] using hfourth.symm
  exact Hex.forall_mem_digits (P := (· ≠ 'x')) (by decide) 'x' hmem rfl

/-- A hash as text is shown like the bytes that the reader makes of it if its mark is not `0X`, and
only then; that mark is shown as a part of the hash. -/
theorem shown_eq_iff (h : Hex.parse t = .ok bs) :
    ((text t).shown = (bytes bs).shown ↔ ¬ ['0', 'X'] <+: t.toList) ∧
      (['0', 'X'] <+: t.toList → (text t).shown = Text.abbreviated ("0x" ++ Hex.marked bs)) := by
  rw [shown_text h]
  by_cases hcapital : ['0', 'X'] <+: t.toList
  · simp [hcapital, shown_ne_abbreviated]
  · simp [hcapital]

/-- Thirty-two bytes, of which most are zero. -/
def sampleBytes : Bytes := [0xab, 0xcd] ++ List.replicate 28 0 ++ [0x12, 0x34]

/-- The digits of the bytes in both cases. -/
def sampleDigits : String := "aBCd000000000000000000000000000000000000000000000000000000001234"

/-- Behind the mark `0X` the hash that is shown begins with two marks. -/
theorem shown_capital_mark : Hex.parse ("0X" ++ sampleDigits) = .ok sampleBytes ∧
    (text ("0X" ++ sampleDigits)).shown = "0x0xab...1234" ∧
    (bytes sampleBytes).shown = "0xabcd...1234" ∧
    (text ("0X" ++ sampleDigits)).shown ≠ (bytes sampleBytes).shown := by
  have htext : (text ("0X" ++ sampleDigits)).shown = "0x0xab...1234" := by decide +kernel
  have hbytes : (bytes sampleBytes).shown = "0xabcd...1234" := by decide +kernel
  exact ⟨rfl, htext, hbytes, by rw [htext, hbytes]; decide⟩

/-- Digits without a mark are shown like the bytes. -/
theorem shown_eq_iff_unmarked : Hex.parse sampleDigits = .ok sampleBytes ∧
    (text sampleDigits).shown = (bytes sampleBytes).shown := by
  have hparse : Hex.parse sampleDigits = .ok sampleBytes := rfl
  have hmark : ¬ ['0', 'X'] <+: sampleDigits.toList := by decide +kernel
  exact ⟨hparse, (shown_eq_iff hparse).1.2 hmark⟩

end TransactionHash

end Chronicle
