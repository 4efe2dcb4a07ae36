/-
# The grammar of the strict reader

A text in the grammar is a mark `0x` or `0X`, which may be missing, and digits of
either case. The strict reader takes those of these texts whose digits come in
pairs, and the digits of the bytes that it gives are the digits of the text in
lower case. Of the other texts it tells those with a digit left over from those
outside of the grammar, and the command line says which of the two it was.

Key definitions: `Hex.Spells`, `Hex.FollowsGrammar`.
Key theorems: `Hex.spells_iff`, `Hex.pairs?_eq_some_iff`, `Hex.parse_eq_ok_iff`,
`Hex.parse_followsGrammar`.
-/
import Chronicle.CommandLine.Commands

namespace Chronicle.Hex

/-- The digits of either case. -/
def digitChars : List Char := "0123456789abcdefABCDEF".toList

/-- What may stand in front of the digits. -/
def marks : List String := ["", "0x", "0X"]

/-- The text is a mark and the digits `ds`. -/
structure Spells (s : String) (ds : List Char) : Prop where
  mark : ∃ mark ∈ marks, s.toList = mark.toList ++ ds
  isDigit : ∀ c ∈ ds, c ∈ digitChars

/-! ### Digits -/

/-- What is read as a digit is one, and its lowercase form is the digit of its value. -/
theorem of_value? {c : Char} {n : Nat} (h : value? c = some n) :
    c ∈ digitChars ∧ n < 16 ∧ c.toLower = digit n := by
  have hall : ∀ {c : Char}, c.toNat < 128 → ∀ n ∈ value? c,
      c ∈ digitChars ∧ n < 16 ∧ c.toLower = digit n := by
    apply Text.forall_ascii
    decide +kernel
  have hsome : (value? c).isSome = true := by simp [h]
  exact hall (toNat_lt_of_value? hsome) n h

theorem isSome_value?_iff {c : Char} : (value? c).isSome = true ↔ c ∈ digitChars := by
  have hall : ∀ c ∈ digitChars, (value? c).isSome = true := by decide +kernel
  refine ⟨fun h => ?_, hall c⟩
  obtain ⟨n, hn⟩ := Option.isSome_iff_exists.1 h
  exact (of_value? hn).1

theorem byte?_of_values {high low : Char} {h l : Nat} (hhigh : value? high = some h)
    (hlow : value? low = some l) : byte? high low = some (UInt8.ofNat (16 * h + l)) := by
  simp only [byte?, hhigh, hlow, Option.bind_eq_bind, Option.bind_some]

/-- Two characters are read as the byte whose digits they are in either case. -/
theorem byte?_eq_some_iff {high low : Char} {b : UInt8} : byte? high low = some b ↔
    high.toLower = digit (b.toNat / 16) ∧ low.toLower = digit (b.toNat % 16) := by
  have hb := b.toNat_lt
  constructor
  · intro hbyte
    obtain ⟨h, hhigh, hbyte⟩ := Option.bind_eq_some_iff.1 hbyte
    obtain ⟨l, hlow, hjoin⟩ := Option.bind_eq_some_iff.1 hbyte
    obtain ⟨-, hh, hdigit⟩ := of_value? hhigh
    obtain ⟨-, hl, hdigit'⟩ := of_value? hlow
    have hnat : b.toNat = 16 * h + l := by
      rw [← Option.some.inj hjoin, UInt8.toNat_ofNat']
      omega
    have hfirst : b.toNat / 16 = h := by omega
    have hsecond : b.toNat % 16 = l := by omega
    rw [hfirst, hsecond]
    exact ⟨hdigit, hdigit'⟩
  · rintro ⟨hhigh, hlow⟩
    obtain ⟨hhigh, -, -⟩ := value?_of_toLower (n := ⟨b.toNat / 16, by omega⟩) hhigh
    obtain ⟨hlow, -, -⟩ := value?_of_toLower (n := ⟨b.toNat % 16, by omega⟩) hlow
    have join : 16 * (b.toNat / 16) + b.toNat % 16 = b.toNat := by omega
    rw [byte?_of_values hhigh hlow, join, UInt8.ofNat_toNat]

/-- A pair is read before the rest. -/
theorem pairs?_cons_eq_some_iff {high low : Char} {rest : List Char} {bs : Bytes} :
    pairs? (high :: low :: rest) = some bs ↔
      ∃ b bytes, byte? high low = some b ∧ pairs? rest = some bytes ∧ b :: bytes = bs := by
  simp only [pairs?, Option.bind_eq_bind, Option.bind_eq_some_iff, Option.some.injEq,
    exists_and_left]

/-- Pairs of digits are read as the bytes whose digits they are in lower case. -/
theorem pairs?_eq_some_iff : ∀ {cs : List Char} {bs : Bytes},
    pairs? cs = some bs ↔ cs.map Char.toLower = digits bs
  | [], [] => by simp [pairs?, digits]
  | [], b :: bs => by simp [pairs?, digits_cons]
  | [c], [] => by simp [pairs?, digits]
  | [c], b :: bs => by simp [pairs?, digits_cons]
  | high :: low :: rest, [] => by simp [pairs?_cons_eq_some_iff, digits]
  | high :: low :: rest, b :: bs => by
    have hpair : byte? high low = some b ↔ _ := byte?_eq_some_iff
    have hrest : pairs? rest = some bs ↔ _ := pairs?_eq_some_iff
    simp [pairs?_cons_eq_some_iff, digits_cons, hpair, hrest, and_assoc]

/-- Digits can be read in pairs if their number is even. -/
theorem exists_pairs?_iff : ∀ {ds : List Char}, (∀ c ∈ ds, c ∈ digitChars) →
    ((∃ bs, pairs? ds = some bs) ↔ ds.length % 2 = 0)
  | [], _ => by simp [pairs?]
  | [c], _ => by simp [pairs?]
  | high :: low :: rest, h => by
    obtain ⟨hhigh, hlow, hrest⟩ : high ∈ digitChars ∧ low ∈ digitChars ∧
        ∀ c ∈ rest, c ∈ digitChars := by simpa using h
    obtain ⟨m, hm⟩ := Option.isSome_iff_exists.1 (isSome_value?_iff.2 hhigh)
    obtain ⟨k, hk⟩ := Option.isSome_iff_exists.1 (isSome_value?_iff.2 hlow)
    have hlength : (high :: low :: rest).length % 2 = rest.length % 2 := by
      rw [List.length_cons, List.length_cons]
      omega
    rw [hlength, ← exists_pairs?_iff hrest]
    constructor
    · rintro ⟨bs, hbs⟩
      obtain ⟨-, bytes, -, hbytes, -⟩ := pairs?_cons_eq_some_iff.1 hbs
      exact ⟨bytes, hbytes⟩
    · rintro ⟨bytes, hbytes⟩
      exact ⟨_, pairs?_cons_eq_some_iff.2 ⟨_, bytes, byte?_of_values hm hk, hbytes, rfl⟩⟩

/-! ### Marks -/

/-- A text of the grammar is what is behind its mark, so that there is one way to read it. -/
theorem spells_iff {s : String} {ds : List Char} : Spells s ds ↔
    dropAnyMark s.toList = ds ∧ ∀ c ∈ ds, c ∈ digitChars := by
  constructor
  · rintro ⟨⟨mark, hmark, hs⟩, hdigits⟩
    refine ⟨?_, hdigits⟩
    simp only [marks, List.mem_cons, List.not_mem_nil, or_false] at hmark
    rw [hs]
    rcases hmark with rfl | rfl | rfl
    · -- Without a mark, the second character is a digit and no letter of a mark.
      show dropAnyMark ds = ds
      unfold dropAnyMark
      split
      · exact absurd (hdigits 'x' (by simp)) (by decide)
      · exact absurd (hdigits 'X' (by simp)) (by decide)
      · rfl
    · rfl
    · rfl
  · rintro ⟨rfl, hdigits⟩
    refine ⟨?_, hdigits⟩
    unfold dropAnyMark
    split
    · next rest hs => exact ⟨"0x", by decide, hs⟩
    · next rest hs => exact ⟨"0X", by decide, hs⟩
    · exact ⟨"", by decide, rfl⟩

theorem Spells.unique {s : String} {ds es : List Char} (h : Spells s ds) (h' : Spells s es) :
    ds = es := (spells_iff.1 h).1.symm.trans (spells_iff.1 h').1

/-- Digits of bytes in either case are digits. -/
theorem mem_digitChars_of_toLower {cs : List Char} {bs : Bytes}
    (h : cs.map Char.toLower = digits bs) : ∀ c ∈ cs, c ∈ digitChars := by
  intro c hc
  have hmem : c.toLower ∈ digits bs := h ▸ List.mem_map_of_mem hc
  obtain ⟨n, hn⟩ : ∃ n : Fin 16, c.toLower = digit n :=
    forall_mem_digits (P := fun d => ∃ n : Fin 16, d = digit n) (fun n => ⟨n, rfl⟩) _ hmem
  obtain ⟨hvalue, -⟩ := value?_of_toLower hn
  exact (of_value? hvalue).1

/-! ### The three outcomes -/

theorem parse_of_spells {s : String} {ds : List Char} (h : Spells s ds) :
    parse s = match pairs? ds with
      | some bs => .ok bs
      | none => .error .oddLength := by
  obtain ⟨rfl, hdigits⟩ := spells_iff.1 h
  exact if_pos (List.all_eq_true.2 fun c hc => isSome_value?_iff.2 (hdigits c hc))

theorem parse_of_not_spells {s : String} (h : ¬ ∃ ds, Spells s ds) :
    parse s = .error .foreignCharacter := by
  refine if_neg fun hall => h ⟨_, spells_iff.2 ⟨rfl, fun c hc => ?_⟩⟩
  exact isSome_value?_iff.1 (List.all_eq_true.1 hall c hc)

/-- The strict reader gives the bytes whose digits are those of the text in lower case. -/
theorem parse_eq_ok_iff {s : String} {bs : Bytes} :
    parse s = .ok bs ↔ ∃ ds, Spells s ds ∧ ds.map Char.toLower = digits bs := by
  by_cases hspells : ∃ ds, Spells s ds
  · obtain ⟨ds, hds⟩ := hspells
    have hpairs : parse s = .ok bs ↔ pairs? ds = some bs := by
      rw [parse_of_spells hds]
      cases pairs? ds <;> simp
    rw [hpairs, pairs?_eq_some_iff]
    exact ⟨fun h => ⟨ds, hds, h⟩, fun ⟨es, hes, h⟩ => hds.unique hes ▸ h⟩
  · rw [parse_of_not_spells hspells]
    exact iff_of_false nofun fun ⟨ds, hds, _⟩ => hspells ⟨ds, hds⟩

theorem parse_eq_foreignCharacter_iff {s : String} :
    parse s = .error .foreignCharacter ↔ ¬ ∃ ds, Spells s ds := by
  refine ⟨?_, parse_of_not_spells⟩
  rintro h ⟨ds, hds⟩
  rw [parse_of_spells hds] at h
  cases hpairs : pairs? ds <;> simp [hpairs] at h

theorem parse_eq_oddLength_iff {s : String} :
    parse s = .error .oddLength ↔ ∃ ds, Spells s ds ∧ ds.length % 2 = 1 := by
  by_cases hspells : ∃ ds, Spells s ds
  · obtain ⟨ds, hds⟩ := hspells
    have hnone : parse s = .error .oddLength ↔ ¬ ∃ bs, pairs? ds = some bs := by
      rw [parse_of_spells hds]
      cases pairs? ds <;> simp
    rw [hnone, exists_pairs?_iff hds.isDigit, Nat.mod_two_not_eq_zero]
    exact ⟨fun h => ⟨ds, hds, h⟩, fun ⟨es, hes, h⟩ => hds.unique hes ▸ h⟩
  · rw [parse_of_not_spells hspells]
    exact iff_of_false nofun fun ⟨ds, hds, _⟩ => hspells ⟨ds, hds⟩

theorem exists_parse_eq_ok_iff {s : String} :
    (∃ bs, parse s = .ok bs) ↔ ∃ ds, Spells s ds ∧ ds.length % 2 = 0 := by
  simp only [parse_eq_ok_iff, ← pairs?_eq_some_iff]
  constructor
  · rintro ⟨bs, ds, hds, hbs⟩
    exact ⟨ds, hds, (exists_pairs?_iff hds.isDigit).1 ⟨bs, hbs⟩⟩
  · rintro ⟨ds, hds, heven⟩
    obtain ⟨bs, hbs⟩ := (exists_pairs?_iff hds.isDigit).2 heven
    exact ⟨bs, ds, hds, hbs⟩

/-- What the strict reader makes of a text, and what the command line says about it as calldata, by
the grammar. -/
structure FollowsGrammar (s : String) : Prop where
  /-- The reader returns if the text is a mark and pairs of digits. -/
  returns : (∃ bs, parse s = .ok bs) ↔ ∃ ds, Spells s ds ∧ ds.length % 2 = 0
  /-- The bytes have the digits of the text in lower case. -/
  value : ∀ bs ds, parse s = .ok bs → Spells s ds → digits bs = ds.map Char.toLower
  /-- The digits of bytes, in either case and with any mark, are read as these bytes. -/
  spelled : ∀ mark ∈ marks, ∀ cs bs, s.toList = mark.toList ++ cs →
    cs.map Char.toLower = digits bs → parse s = .ok bs
  foreign : parse s = .error .foreignCharacter ↔ ¬ ∃ ds, Spells s ds
  odd : parse s = .error .oddLength ↔ ∃ ds, Spells s ds ∧ ds.length % 2 = 1
  taken : ∀ bs, CommandLine.inputOf s = .ok bs ↔ parse s = .ok bs
  refused : CommandLine.inputOf s = .error (.refused "CALLDATA" ("Invalid hex string: " ++ s)) ↔
    ¬ ∃ ds, Spells s ds
  unpaired : CommandLine.inputOf s = .error (.refused "CALLDATA" "Odd-length string") ↔
    ∃ ds, Spells s ds ∧ ds.length % 2 = 1

/-- The two refusals of the command line are told apart by their first letters. -/
theorem invalid_ne_oddLength (s : String) : "Invalid hex string: " ++ s ≠ "Odd-length string" := by
  intro h
  have hfirst := congrArg (fun t : String => t.toList.head?) h
  simp at hfirst

theorem inputOf_eq (s : String) : CommandLine.inputOf s = match parse s with
    | .ok bs => .ok bs
    | .error .foreignCharacter =>
      .error (.refused "CALLDATA" ("Invalid hex string: " ++ s))
    | .error .oddLength => .error (.refused "CALLDATA" "Odd-length string") := rfl

/-- The strict reader, and with it the command line, goes by the grammar, whatever the text. -/
theorem parse_followsGrammar (s : String) : FollowsGrammar s where
  returns := exists_parse_eq_ok_iff
  value bs ds hbs hds := by
    obtain ⟨es, hes, hdigits⟩ := parse_eq_ok_iff.1 hbs
    rw [← hdigits, hds.unique hes]
  spelled mark hmark cs bs hs hdigits :=
    parse_eq_ok_iff.2 ⟨cs, ⟨⟨mark, hmark, hs⟩, mem_digitChars_of_toLower hdigits⟩, hdigits⟩
  foreign := parse_eq_foreignCharacter_iff
  odd := parse_eq_oddLength_iff
  taken bs := by
    rw [inputOf_eq]
    rcases parse s with (_ | _) | _ <;> simp
  refused := by
    rw [← parse_eq_foreignCharacter_iff, inputOf_eq]
    rcases parse s with (_ | _) | _ <;> simp [(invalid_ne_oddLength s).symm]
  unpaired := by
    rw [← parse_eq_oddLength_iff, inputOf_eq]
    rcases parse s with (_ | _) | _ <;> simp [invalid_ne_oddLength s]

/-- A mark inside of a text is no digit. -/
example : parse "0X0xab" = .error .foreignCharacter := rfl

end Chronicle.Hex
