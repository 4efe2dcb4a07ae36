/-
# Sentences that have one reading

A sentence is filled with names and amounts that hold no spaces. If each of them
is followed by words that begin with a space, or by the end of the sentence, then
the text tells where it stops. So a sentence that has a place for everything it
is filled with can be read back: from its text, and what follows the text, only
one filling comes.

Key definitions: `Sentence.Fields`, `Sentence.isSpaced`, `Sentence.Readable`.
Key theorems: `eq_of_append_space`, `Sentence.say_eq_of_flatMap`,
`Sentence.Fields.eq_of_fill_eq`.
-/
import Chronicle.Narration.Sentence
import Chronicle.Proofs.Runs

namespace Chronicle

/-! ### Names that end at a space -/

/-- The part before the first space is the same if the whole is the same. -/
theorem eq_of_append_space {first second rest other : List Char} (hfirst : ' ' ∉ first)
    (hsecond : ' ' ∉ second) (hrest : StopsAt (· != ' ') rest) (hother : StopsAt (· != ' ') other)
    (h : first ++ rest = second ++ other) : first = second ∧ rest = other := by
  have hkept {cs : List Char} (hcs : ' ' ∉ cs) : ∀ c ∈ cs, (c != ' ') = true := by
    intro c hc
    simp only [bne_iff_ne]
    rintro rfl
    exact hcs hc
  have htake := congrArg (List.takeWhile (· != ' ')) h
  rw [takeWhile_append_of_stopsAt (hkept hfirst) hrest,
    takeWhile_append_of_stopsAt (hkept hsecond) hother] at htake
  subst htake
  exact ⟨rfl, List.append_cancel_left h⟩

namespace Sentence

/-- What the places of a sentence are filled with. -/
structure Fields where
  sender : String
  contract : String
  answers : List String

/-- No name and no answer holds a space. -/
structure Fields.Solid (fields : Fields) : Prop where
  sender : ' ' ∉ fields.sender.toList
  contract : ' ' ∉ fields.contract.toList
  answers : ∀ answer ∈ fields.answers, ' ' ∉ answer.toList

/-- The text of a piece that is filled with the fields. -/
def Fields.say (fields : Fields) (piece : Piece) : String :=
  piece.text fields.sender fields.contract fields.answers

/-- The text of pieces that are filled with the fields. -/
def Fields.fill (fields : Fields) (pieces : List Piece) : String :=
  String.join (pieces.map fields.say)

/-- The pieces are at their end, or go on with words that begin with a space. -/
def goesOnApart : List Piece → Bool
  | [] => true
  | .words s :: _ => s.toList.head? == some ' '
  | _ => false

/-- Every name and every answer is followed by words that begin with a space, or by the end. -/
def isSpaced : List Piece → Bool
  | [] => true
  | .words _ :: rest => isSpaced rest
  | _ :: rest => goesOnApart rest && isSpaced rest

/-- The pieces can be read back: they have a place for the sender, for the contract and for each of
so many answers, and are set apart by spaces. -/
structure Readable (pieces : List Piece) (answers : Nat) : Prop where
  spaced : isSpaced pieces = true
  sender : Piece.sender ∈ pieces
  contract : Piece.contract ∈ pieces
  answer : ∀ index < answers, Piece.answer index ∈ pieces

instance (pieces : List Piece) (answers : Nat) : Decidable (Readable pieces answers) :=
  decidable_of_iff (isSpaced pieces = true ∧ Piece.sender ∈ pieces ∧ Piece.contract ∈ pieces ∧
      ∀ index < answers, Piece.answer index ∈ pieces)
    ⟨fun h => ⟨h.1, h.2.1, h.2.2.1, h.2.2.2⟩, fun h => ⟨h.spaced, h.sender, h.contract, h.answer⟩⟩

theorem toList_fill (fields : Fields) (pieces : List Piece) :
    (fields.fill pieces).toList = pieces.flatMap fun piece => (fields.say piece).toList := by
  rw [Fields.fill, String.toList_join, List.flatMap_map]

/-- What follows a name begins with a space if what follows the sentence does. -/
theorem stopsAt_flatMap {fields : Fields} {pieces : List Piece} {ending : List Char}
    (h : goesOnApart pieces = true) (hending : StopsAt (· != ' ') ending) :
    StopsAt (· != ' ') (pieces.flatMap (fun piece => (fields.say piece).toList) ++ ending) := by
  match pieces, h with
  | [], _ => exact hending
  | .words s :: rest, h =>
    obtain ⟨cs, hcs⟩ : ∃ cs, s.toList = ' ' :: cs := List.head?_eq_some_iff.1 (beq_iff_eq.1 h)
    have hsay : (fields.say (.words s)).toList = ' ' :: cs := hcs
    rw [List.flatMap_cons, hsay]
    exact stopsAt_cons (by decide) _

theorem Fields.Solid.say {fields : Fields} (h : fields.Solid) : ∀ {piece : Piece},
    (∀ s, piece ≠ .words s) → ' ' ∉ (fields.say piece).toList
  | .words s, hfield => absurd rfl (hfield s)
  | .sender, _ => h.sender
  | .contract, _ => h.contract
  | .answer index, _ => by
    show ' ' ∉ (fields.answers.getD index "").toList
    rw [List.getD_eq_getElem?_getD]
    cases hget : fields.answers[index]? with
    | none => decide
    | some answer => exact h.answers answer (List.mem_of_getElem? hget)

/-- Pieces with the same text are filled alike, one by one. -/
theorem say_eq_of_flatMap {fields other : Fields} (hsolid : fields.Solid) (hother : other.Solid)
    {ending : List Char} (hending : StopsAt (· != ' ') ending) : ∀ {pieces : List Piece},
      isSpaced pieces = true →
      pieces.flatMap (fun piece => (fields.say piece).toList) ++ ending =
        pieces.flatMap (fun piece => (other.say piece).toList) ++ ending →
      ∀ piece ∈ pieces, fields.say piece = other.say piece
  | [], _, _ => nofun
  | piece :: rest, hspaced, heq => by
    rw [List.flatMap_cons, List.flatMap_cons, List.append_assoc, List.append_assoc] at heq
    cases piece with
    | words s =>
      have hrest : isSpaced rest = true := hspaced
      have htail := List.append_cancel_left heq
      refine List.forall_mem_cons.2 ⟨rfl, say_eq_of_flatMap hsolid hother hending hrest htail⟩
    | sender | contract | answer =>
      obtain ⟨hapart, hrest⟩ := Bool.and_eq_true_iff.1 hspaced
      obtain ⟨hfirst, htail⟩ := eq_of_append_space
        (hsolid.say (by rintro _ ⟨⟩)) (hother.say (by rintro _ ⟨⟩))
        (stopsAt_flatMap hapart hending) (stopsAt_flatMap hapart hending) heq
      exact List.forall_mem_cons.2
        ⟨String.toList_inj.1 hfirst, say_eq_of_flatMap hsolid hother hending hrest htail⟩

/-- A text that can be read back comes from one filling. -/
theorem Fields.eq_of_fill_eq {fields other : Fields} (hsolid : fields.Solid) (hother : other.Solid)
    {pieces : List Piece} (hreadable : Readable pieces fields.answers.length)
    (hanswers : other.answers.length = fields.answers.length) {ending : String}
    (hending : ending.toList.head? = some ' ')
    (h : fields.fill pieces ++ ending = other.fill pieces ++ ending) : fields = other := by
  have hstops : StopsAt (· != ' ') ending.toList := by
    intro c hc
    rw [hending] at hc
    cases hc
    decide
  have hlists := congrArg String.toList h
  rw [String.toList_append, String.toList_append, toList_fill, toList_fill] at hlists
  have hsay := say_eq_of_flatMap hsolid hother hstops hreadable.spaced hlists
  have hsender : fields.sender = other.sender := hsay .sender hreadable.sender
  have hcontract : fields.contract = other.contract := hsay .contract hreadable.contract
  have hlist : fields.answers = other.answers := by
    refine List.ext_getElem hanswers.symm fun index hindex hindex' => ?_
    have hanswer : fields.answers.getD index "" = other.answers.getD index "" :=
      hsay (.answer index) (hreadable.answer index hindex)
    rwa [List.getD_eq_getElem?_getD, List.getD_eq_getElem?_getD, List.getElem?_eq_getElem hindex,
      List.getElem?_eq_getElem hindex', Option.getD_some, Option.getD_some] at hanswer
  cases fields
  cases other
  cases hsender
  cases hcontract
  cases hlist
  rfl

end Sentence

end Chronicle
