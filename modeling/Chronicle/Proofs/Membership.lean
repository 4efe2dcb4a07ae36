/-
# Which texts are in a registry

A text is asked about as a selector: one leading mark `0x` is left out, and the
rest is read as pairs of digits in either case, with blanks around the pairs. If
the bytes of the pairs are the selector of a function that can be reached, the
text is in the registry; if they are not, whatever their number, it is not. A
text of any other kind has no answer, though it is the text of no selector.

Key definitions: `Hex.Unmarked`, `Hex.Denotes`, `Registry.Answers`.
Key theorems: `Hex.unmarked_iff`, `Hex.loose?_eq_some_iff`, `Registry.contains_of_denotes`,
`Registry.contains_answers`, `Registry.contains_no_answer`.
-/
import Chronicle.Proofs.HexTexts
import Chronicle.Proofs.Registration

namespace Chronicle

/-! ### Texts of byte strings -/

namespace Hex

/-- What is left of the text without one leading mark `0x`. -/
def Unmarked (s : String) (cs : List Char) : Prop :=
  s.toList = "0x".toList ++ cs ∨ (¬ "0x".toList <+: s.toList ∧ s.toList = cs)

/-- Without one leading mark, the text holds a pair of digits for each of the bytes, and blanks
outside of pairs. -/
def Denotes (s : String) (bs : Bytes) : Prop := ∃ cs, Unmarked s cs ∧ IsSpaced cs bs

theorem unmarked_iff {s : String} {cs : List Char} : Unmarked s cs ↔ dropMark s.toList = cs := by
  by_cases hmark : "0x".toList <+: s.toList
  · obtain ⟨rest, hrest⟩ := hmark
    have hdrop : dropMark s.toList = rest := by
      rw [← hrest]
      rfl
    rw [hdrop]
    constructor
    · rintro (h | ⟨hnone, -⟩)
      · rw [← hrest] at h
        exact List.append_cancel_left h
      · exact absurd ⟨rest, hrest⟩ hnone
    · rintro rfl
      exact Or.inl hrest.symm
  · have hdrop : dropMark s.toList = s.toList := by
      unfold dropMark
      split
      · next rest hs => exact absurd ⟨rest, hs.symm⟩ hmark
      · rfl
    rw [hdrop]
    constructor
    · rintro (h | ⟨-, h⟩)
      · exact absurd ⟨cs, h.symm⟩ hmark
      · exact h
    · exact fun h => Or.inr ⟨hmark, h⟩

theorem loose?_eq_some_iff {s : String} {bs : Bytes} : loose? s = some bs ↔ Denotes s bs := by
  rw [loose?, spaced?_eq_some_iff]
  constructor
  · exact fun h => ⟨_, unmarked_iff.2 rfl, h⟩
  · rintro ⟨cs, hcs, h⟩
    rwa [unmarked_iff.1 hcs]

/-- A text does not denote two byte strings. -/
theorem Denotes.unique {s : String} {bs cs : Bytes} (hbs : Denotes s bs) (hcs : Denotes s cs) :
    bs = cs := by
  rw [← loose?_eq_some_iff] at hbs hcs
  exact Option.some.inj (hbs.symm.trans hcs)

end Hex

/-! ### Answers -/

namespace Registry

open Hex (Denotes)

/-- Whether a text is in a registry, by the functions that can be reached. -/
structure Answers (registry : Registry) (s : String) : Prop where
  /-- The text is in the registry if it is one of the selector of a function. -/
  member : registry.contains s = .ok true ↔
    ∃ entry ∈ registry.entries, Denotes s entry.selector
  /-- It is not if it is one of other bytes. -/
  stranger : registry.contains s = .ok false ↔
    ∃ bs, Denotes s bs ∧ ∀ entry ∈ registry.entries, entry.selector ≠ bs
  /-- There is an answer exactly about texts of byte strings. -/
  returns : (∃ answer, registry.contains s = .ok answer) ↔ ∃ bs, Denotes s bs
  /-- About any other text there is none. -/
  refused : registry.contains s = .error .notSpacedHex ↔ ¬ ∃ bs, Denotes s bs

theorem contains_of_denotes (registry : Registry) {s : String} {bs : Bytes} (h : Denotes s bs) :
    registry.contains s = .ok (registry.lookup? bs).isSome := by
  rw [contains, find, Hex.loose?_eq_some_iff.2 h]
  rfl

theorem contains_of_not_denotes (registry : Registry) {s : String} (h : ¬ ∃ bs, Denotes s bs) :
    registry.contains s = .error .notSpacedHex := by
  have hnone : Hex.loose? s = none := by
    by_contra hsome
    obtain ⟨bs, hbs⟩ := Option.ne_none_iff_exists'.1 hsome
    exact h ⟨bs, Hex.loose?_eq_some_iff.1 hbs⟩
  rw [contains, find, hnone]
  rfl

variable {interfaces : List Interface} {registry : Registry}

theorem isSome_lookup?_iff (h : build interfaces = .ok registry) (selector : Bytes) :
    (registry.lookup? selector).isSome = true ↔
      ∃ entry ∈ registry.entries, entry.selector = selector := by
  simp only [Option.isSome_iff_exists, lookup?_eq_some_iff h]

/-- A registry answers about the texts of byte strings by the selectors of its functions, and about
no others. -/
theorem contains_answers (h : build interfaces = .ok registry) (s : String) :
    registry.Answers s := by
  by_cases hs : ∃ bs, Denotes s bs
  · obtain ⟨bs, hbs⟩ := hs
    have hvalue := registry.contains_of_denotes hbs
    have hreached := isSome_lookup?_iff h bs
    refine ⟨?_, ?_, ?_, ?_⟩
    · rw [hvalue, Except.ok.injEq, hreached]
      constructor
      · rintro ⟨entry, hentry, rfl⟩
        exact ⟨entry, hentry, hbs⟩
      · rintro ⟨entry, hentry, hdenotes⟩
        exact ⟨entry, hentry, hdenotes.unique hbs⟩
    · rw [hvalue, Except.ok.injEq, Bool.eq_false_iff, Ne, hreached]
      constructor
      · intro hnone
        exact ⟨bs, hbs, fun entry hentry hsame => hnone ⟨entry, hentry, hsame⟩⟩
      · rintro ⟨cs, hcs, hnone⟩ ⟨entry, hentry, hsame⟩
        exact hnone entry hentry (hsame.trans (hbs.unique hcs))
    · exact iff_of_true ⟨_, hvalue⟩ ⟨bs, hbs⟩
    · rw [hvalue]
      exact iff_of_false nofun fun hnone => hnone ⟨bs, hbs⟩
  · have hvalue := registry.contains_of_not_denotes hs
    refine ⟨?_, ?_, ?_, ?_⟩
    · rw [hvalue]
      exact iff_of_false nofun fun ⟨entry, _, hdenotes⟩ => hs ⟨entry.selector, hdenotes⟩
    · rw [hvalue]
      exact iff_of_false nofun fun ⟨bs, hbs, _⟩ => hs ⟨bs, hbs⟩
    · rw [hvalue]
      exact iff_of_false nofun hs
    · exact iff_of_true hvalue hs

/-- Blanks around the pairs and digits of either case make no difference, but a second mark does. -/
theorem contains_answers_pause :
    ∃ registry, build [⟨"Switch", .list [Known.declare "pause" []], .generic⟩] = .ok registry ∧
      registry.Answers "0x 84 56\tCb59\n" ∧ registry.contains "0x 84 56\tCb59\n" = .ok true ∧
      registry.contains "8456cb5900" = .ok false ∧
      registry.contains "0x0x8456cb59" = .error .notSpacedHex := by
  have hrun : (build [⟨"Switch", .list [Known.declare "pause" []], .generic⟩]).toOption.map
      (fun registry => (registry.contains "0x 84 56\tCb59\n", registry.contains "8456cb5900",
        registry.contains "0x0x8456cb59")) =
      some (.ok true, .ok false, .error .notSpacedHex) := by decide +kernel
  obtain ⟨registry, hbuild, hvalues⟩ := exists_ok_of_toOption hrun
  simp only [Prod.mk.injEq] at hvalues
  obtain ⟨hmember, hstranger, hrefused⟩ := hvalues
  exact ⟨registry, hbuild, contains_answers hbuild _, hmember, hstranger, hrefused⟩

/-- The known functions give no answer about a text of letters. -/
theorem contains_no_answer :
    known.contains "xyz" = .error .notSpacedHex ∧
      ¬ ∀ (interfaces : List Interface) (registry : Registry) (s : String),
        build interfaces = .ok registry → ∃ answer, registry.contains s = .ok answer := by
  have hrefused : known.contains "xyz" = .error .notSpacedHex := rfl
  refine ⟨hrefused, fun hanswers => ?_⟩
  obtain ⟨answer, hanswer⟩ := hanswers Known.interfaces known "xyz" build_known
  rw [hrefused] at hanswer
  cases hanswer

end Registry

end Chronicle
