/-
# Narratives of addresses that are spelled in other ways

An address is brought to its normal form before it is shown, so that another
spelling of it gets the same name: `you`, the same label, or the same text. But
the decimals of a token are looked up under its address in lower case alone,
where the mark stays as it was given. So two requests that differ in spelling
get the same narrative, unless one of them names a token with the mark and the
other without it, and decimals are known for it or are asked of a service.

The two runs go side by side from one session. They stay equal while answers
are asked for one by one, as long as no service is there the known decimals
stay those of the beginning.

Key definitions: `Narration.Simulates`, `Request.Respelled`, `Narrator.Overlooks`,
`Session.Alike`.
Key theorems: `Narrator.answers_alike`, `Narrator.narrate_respelled`,
`Stable.narrate_unmarked`.
-/
import Chronicle.Proofs.BatchIndependence
import Chronicle.Proofs.Conversations
import Chronicle.Proofs.Spellings

namespace Chronicle

/-! ### Runs side by side -/

namespace Narration

variable {α β : Type} {R : Session → Session → Prop}

/-- From related sessions the computations have the same outcome, and leave related sessions. -/
def Simulates (R : Session → Session → Prop) (x y : Narration α) : Prop :=
  ∀ session other, R session other → (y.run.run other).1 = (x.run.run session).1 ∧
    R (x.run.run session).2 (y.run.run other).2

namespace Simulates

theorem ofExcept (answer : Except Fault α) :
    Simulates R (Narration.ofExcept answer) (Narration.ofExcept answer) :=
  fun _ _ hR => ⟨rfl, hR⟩

theorem modify {f g : Session → Session} (h : ∀ session other, R session other →
    R (f session) (g other)) : Simulates R (modify f) (modify g) :=
  fun session other hR => ⟨rfl, h session other hR⟩

theorem bind {x y : Narration α} {f g : α → Narration β} (hx : Simulates R x y)
    (hf : ∀ a, Simulates R (f a) (g a)) : Simulates R (x >>= f) (y >>= g) := by
  intro session other hR
  have hmid := hx session other hR
  cases hrun : x.run.run session with
  | mk outcome mid =>
    cases hrun' : y.run.run other with
    | mk outcome' mid' =>
      rw [hrun, hrun'] at hmid
      obtain ⟨rfl, hmid⟩ := hmid
      cases outcome' with
      | error fault =>
        rw [run_bind_of_error hrun, run_bind_of_error hrun']
        exact ⟨rfl, hmid⟩
      | ok a =>
        rw [run_bind_of_ok hrun, run_bind_of_ok hrun']
        exact hf a mid mid' hmid

theorem composes : Composes fun _ x y => Simulates R x y where
  ofExcept := Simulates.ofExcept
  bind := Simulates.bind

theorem tryCatch {x y : Narration α} (hx : Simulates R x y) (a : α) :
    Simulates R (tryCatch x fun _ => pure a) (tryCatch y fun _ => pure a) := by
  intro session other hR
  obtain ⟨hsame, hafter⟩ := hx session other hR
  rw [run_tryCatch, run_tryCatch, hsame]
  exact ⟨rfl, hafter⟩

end Simulates

end Narration

open Narration (Keeps Simulates)

/-! ### Requests with other spellings -/

/-- The texts are the same, or spellings of one address. -/
def Address.Respelled (a b : String) : Prop := a = b ∨ Address.Same a b

/-- The requests differ in the spelling of addresses alone. -/
structure Request.Respelled (request other : Request) : Prop where
  call : request.call.Respelled other.call
  sender : Address.Respelled request.sender other.sender
  destination : Option.Rel Address.Respelled request.destination other.destination
  hash : other.hash = request.hash
  isLocal : other.isLocal = request.isLocal
  succeeded : other.succeeded = request.succeeded

/-- A token that the requests name once with the mark and once without has decimals that may show:
they are known under its normal form, or there is a service to ask. -/
def Narrator.Overlooks (narrator : Narrator) (session : Session) (request other : Request) : Prop :=
  ∃ source ∈ narrator.tokens, ∃ asked ∈ request.asked.zip other.asked,
    Address.isMarked asked.1.1 ≠ Address.isMarked asked.2.1 ∧
      (source.hasEndpoint = true ∨ session.decimals.get? (Address.spelled asked.1.1) ≠ none)

namespace Narrator

variable {request other : Request}

/-- The destination is missing or empty for both requests, or has a spelling in each. -/
theorem contractOf_respelled (h : request.Respelled other) :
    Option.Rel Address.Respelled (contractOf request) (contractOf other) := by
  have hdestination := h.destination
  unfold contractOf
  generalize request.destination = found at hdestination ⊢
  generalize other.destination = found' at hdestination ⊢
  cases hdestination with
  | none => exact .none
  | @some a b hab =>
    rcases hab with rfl | hsame
    · cases ha : (some a).filter (· ≠ "") with
      | none => exact .none
      | some => exact .some (Or.inl rfl)
    · have hkept {s : String} (hs : s ≠ "") : (some s).filter (· ≠ "") = some s := by simp [hs]
      rw [hkept hsame.ne_empty, hkept hsame.symm.ne_empty]
      exact .some (Or.inr hsame)

theorem sentenceOf_respelled (h : request.Respelled other) :
    (sentenceOf request).Respelled (sentenceOf other) := by
  have hcontract := contractOf_respelled h
  unfold sentenceOf
  refine Call.respelled_sentence h.call ?_
  generalize contractOf request = found at hcontract ⊢
  generalize contractOf other = found' at hcontract ⊢
  cases hcontract with
  | none => exact .same .null
  | some hab =>
    rcases hab with rfl | hsame
    · exact .same _
    · exact .address hsame.lowercase

end Narrator

/-! ### What is asked about tokens -/

/-- Queries that differ in spelling ask both about a token or both about none. -/
theorem Query.asked?_respelled {query other : Query} (h : query.Respelled other) :
    Option.Rel (fun first second => second.2 = first.2 ∧ (second.1 = first.1 ∨
        ∃ a b, Address.Same a b ∧ first.1 = Text.lowercase a ∧ second.1 = Text.lowercase b))
      query.asked? other.asked? := by
  cases h with
  | scaled | party | token | plain => exact .none
  | @amount v w token token' standard hv htoken =>
    cases htoken with
    | list => exact .none
    | address hsame =>
      unfold asked?
      dsimp only
      rw [if_pos hsame.isAddress_left, if_pos hsame.isAddress_right]
      exact .some ⟨rfl, Or.inr ⟨_, _, hsame, rfl, rfl⟩⟩
    | same =>
      subst hv
      cases Query.asked? (.amount w token standard) with
      | none => exact .none
      | some => exact .some ⟨rfl, Or.inl rfl⟩

/-! ### Runs from one session -/

/-- The sessions are one, which is in `P`. -/
def Session.Alike (P : Session → Prop) (session other : Session) : Prop :=
  other = session ∧ P session

/-- Without a service to ask, the decimals that are known are these. -/
def Session.Rests (narrator : Narrator) (decimals : OrderedMap String Int) (session : Session) :
    Prop :=
  ∀ source ∈ narrator.tokens, source.hasEndpoint = false → session.decimals = decimals

theorem Narration.Keeps.simulates {α : Type} {P : Session → Prop} {x : Narration α}
    (h : Keeps P x) : Simulates (Session.Alike P) x x := by
  rintro session other ⟨rfl, hP⟩
  exact ⟨rfl, rfl, h other hP⟩

/-- Nothing but labels changes while a label is looked up. -/
theorem Resolver.labelOf_keeps {P : Session → Prop}
    (hP : ∀ session labels questions, P session →
      P { session with labels := labels, labelQuestions := questions })
    (resolver : Option Resolver) (address : String) : Keeps P (labelOf resolver address) := by
  have hask (resolver : Resolver) (key : String) : Keeps P (resolver.ask key) :=
    fun session h => hP session session.labels _ h
  cases resolver with
  | none => exact Keeps.pure none
  | some resolver =>
    refine Keeps.of_yields (Keeps.tryCatch ?_ none)
    unfold resolve
    split
    · refine Keeps.get_bind fun session => ?_
      split
      · exact Keeps.pure _
      · refine Keeps.bind (hask resolver _) fun label => ?_
        refine Keeps.bind (Keeps.modify fun session h => ?_) fun _ => Keeps.pure label
        exact hP session _ session.labelQuestions h
    · exact hask resolver address

namespace Narrator

variable {narrator : Narrator} {decimals : OrderedMap String Int}

/-- The decimals of the tokens are the same under both keys. -/
def TellsAlike (narrator : Narrator) (decimals : OrderedMap String Int) (key other : String) :
    Prop :=
  ∀ source ∈ narrator.tokens, other = key ∨
    source.hasEndpoint = false ∧ decimals.get? other = decimals.get? key

theorem displayAddress_alike (isLocal : Bool) {a b : String} (h : Address.Respelled a b) :
    Simulates (Session.Alike (Session.Rests narrator decimals))
      (narrator.displayAddress isLocal a) (narrator.displayAddress isLocal b) := by
  have hshown : narrator.displayAddress isLocal b = narrator.displayAddress isLocal a := by
    rcases h with rfl | hsame
    · rfl
    · rw [displayAddress_eq, displayAddress_eq, hsame.spelled_eq]
  rw [hshown]
  exact Keeps.simulates (displayAddress_composes Keeps.composes rfl isLocal
    (Resolver.labelOf_keeps (fun _ _ _ h => h) _ _))

theorem displayContract_alike {request other : Request} (h : request.Respelled other) :
    Simulates (Session.Alike (Session.Rests narrator decimals))
      (narrator.displayContract request) (narrator.displayContract other) := by
  have hcontract := contractOf_respelled h
  rw [displayContract_eq, displayContract_eq, h.isLocal]
  generalize contractOf request = found at hcontract ⊢
  generalize contractOf other = found' at hcontract ⊢
  cases hcontract with
  | none => exact Simulates.composes.pure _
  | some hab => exact displayAddress_alike request.isLocal hab

theorem decimalsOfKey_keeps {source : TokenSource} (hsource : source ∈ narrator.tokens)
    (key : String) (standard : Int) :
    Keeps (Session.Rests narrator decimals) (source.decimalsOfKey key standard) := by
  intro session hrests
  cases hknown : session.decimals.get? key with
  | some n =>
    rw [TokenSource.decimalsOfKey_run_of_some standard hknown]
    exact hrests
  | none =>
    rw [TokenSource.decimalsOfKey_run_of_none standard hknown]
    by_cases hendpoint : source.hasEndpoint = true
    · intro other hother hno
      cases Option.some.inj (hsource.symm.trans hother)
      rw [hendpoint] at hno
      cases hno
    · rw [if_neg hendpoint]
      exact hrests

/-- Without a service, a key that is told alike gives the same decimals and changes nothing. -/
theorem decimalsOfKey_alike {source : TokenSource} (hsource : source ∈ narrator.tokens)
    {key other : String} (h : narrator.TellsAlike decimals key other) (standard : Int) :
    Simulates (Session.Alike (Session.Rests narrator decimals))
      (source.decimalsOfKey key standard) (source.decimalsOfKey other standard) := by
  rcases h source hsource with rfl | ⟨hendpoint, hget⟩
  · exact (decimalsOfKey_keeps hsource other standard).simulates
  · rintro _ session ⟨rfl, hrests⟩
    rw [← hrests source hsource hendpoint] at hget
    have hrun : (source.decimalsOfKey other standard).run.run session =
        (source.decimalsOfKey key standard).run.run session := by
      cases hknown : session.decimals.get? key with
      | some n =>
        rw [TokenSource.decimalsOfKey_run_of_some standard hknown,
          TokenSource.decimalsOfKey_run_of_some standard (hget.trans hknown)]
      | none =>
        rw [TokenSource.decimalsOfKey_run_of_none standard hknown,
          TokenSource.decimalsOfKey_run_of_none standard (hget.trans hknown), hendpoint,
          if_neg Bool.false_ne_true, if_neg Bool.false_ne_true]
    rw [hrun]
    exact ⟨rfl, rfl, decimalsOfKey_keeps hsource key standard session hrests⟩

theorem tokenDecimals_alike {token other : Value} (htoken : token.Respelled other)
    (v : Value) (standard : Int)
    (hasked : ∀ first ∈ (Query.amount v token standard).asked?,
      ∀ second ∈ (Query.amount v other standard).asked?,
        narrator.TellsAlike decimals first.1 second.1) :
    Simulates (Session.Alike (Session.Rests narrator decimals))
      (narrator.tokenDecimals token standard) (narrator.tokenDecimals other standard) := by
  cases htoken with
  | same =>
    exact Keeps.simulates (tokenDecimals_composes Keeps.composes rfl token standard
      fun source hsource _ _ _ => decimalsOfKey_keeps hsource _ standard)
  | list => exact Simulates.composes.pure standard
  | @address a b hsame =>
    have hfirst : (Query.amount v (.text a) standard).asked? =
      some (Text.lowercase a, standard) := if_pos hsame.isAddress_left
    have hsecond : (Query.amount v (.text b) standard).asked? =
      some (Text.lowercase b, standard) := if_pos hsame.isAddress_right
    have halike : narrator.TellsAlike decimals (Text.lowercase a) (Text.lowercase b) :=
      hasked _ hfirst _ hsecond
    rw [tokenDecimals_eq, tokenDecimals_eq]
    cases hsource : narrator.tokens with
    | none => exact Simulates.composes.pure standard
    | some source =>
      dsimp only [Value.asText?]
      rw [if_pos hsame.isAddress_left, if_pos hsame.isAddress_right]
      exact decimalsOfKey_alike hsource halike standard

/-- The same query gets the same answer twice unless it is about an amount. -/
theorem answer_alike_same (isLocal : Bool) {query : Query}
    (hquery : ∀ v token standard, query ≠ .amount v token standard) :
    Simulates (Session.Alike (Session.Rests narrator decimals))
      (narrator.answer isLocal query) (narrator.answer isLocal query) := by
  rcases answer_cases query with ⟨v, token, standard, rfl⟩ | ⟨address, -, heq⟩ | ⟨shown, heq⟩
  · exact absurd rfl (hquery v token standard)
  · rw [heq]
    exact displayAddress_alike isLocal (Or.inl rfl)
  · rw [heq]
    exact Simulates.ofExcept shown

theorem partyAnswer_alike (isLocal : Bool) {v w : Value} (h : v.SameAddress w) :
    Simulates (Session.Alike (Session.Rests narrator decimals))
      (narrator.answer isLocal (.party v)) (narrator.answer isLocal (.party w)) := by
  rcases h with rfl | ⟨a, b, rfl, rfl, hsame⟩
  · exact answer_alike_same isLocal nofun
  · rw [answer_party, answer_party, if_pos hsame.isAddress_left, if_pos hsame.isAddress_right]
    exact displayAddress_alike isLocal (Or.inr hsame)

theorem tokenAnswer_alike (isLocal : Bool) {v w : Value} (h : v.Respelled w) :
    Simulates (Session.Alike (Session.Rests narrator decimals))
      (narrator.answer isLocal (.token v)) (narrator.answer isLocal (.token w)) := by
  cases h with
  | same => exact answer_alike_same isLocal nofun
  | list => exact Simulates.composes.pure _
  | address hsame =>
    rw [answer_token, answer_token, if_pos hsame.isAddress_left, if_pos hsame.isAddress_right]
    exact displayAddress_alike isLocal (Or.inr hsame)

theorem answer_alike (isLocal : Bool) {query other : Query} (h : query.Respelled other)
    (hasked : ∀ first ∈ query.asked?, ∀ second ∈ other.asked?,
      narrator.TellsAlike decimals first.1 second.1) :
    Simulates (Session.Alike (Session.Rests narrator decimals))
      (narrator.answer isLocal query) (narrator.answer isLocal other) := by
  cases h with
  | scaled hv =>
    subst hv
    exact Simulates.ofExcept _
  | plain hv =>
    subst hv
    exact Simulates.ofExcept _
  | party h => exact partyAnswer_alike isLocal h
  | token h => exact tokenAnswer_alike isLocal h
  | amount hv htoken =>
    subst hv
    rw [answer_amount, answer_amount]
    exact Simulates.bind (tokenDecimals_alike htoken _ _ hasked) fun n => Simulates.ofExcept _

/-- Queries that differ in spelling get the same answers if they ask about tokens alike. -/
theorem answers_alike (isLocal : Bool) : ∀ {queries others : List Query},
    List.Forall₂ Query.Respelled queries others →
    (∀ asked ∈ (queries.filterMap Query.asked?).zip (others.filterMap Query.asked?),
      narrator.TellsAlike decimals asked.1.1 asked.2.1) →
    Simulates (Session.Alike (Session.Rests narrator decimals))
      (narrator.answers isLocal queries) (narrator.answers isLocal others)
  | [], [], _, _ => Simulates.composes.pure []
  | query :: queries, other :: others, .cons hquery hqueries, hasked => by
    have hboth := Query.asked?_respelled hquery
    rw [List.filterMap_cons, List.filterMap_cons] at hasked
    have hfirst : ∀ first ∈ query.asked?, ∀ second ∈ other.asked?,
        narrator.TellsAlike decimals first.1 second.1 := by
      intro first hfirst second hsecond
      rw [Option.mem_def] at hfirst hsecond
      rw [hfirst, hsecond] at hasked
      exact hasked (first, second) List.mem_cons_self
    have hrest : ∀ asked ∈ (queries.filterMap Query.asked?).zip (others.filterMap Query.asked?),
        narrator.TellsAlike decimals asked.1.1 asked.2.1 := by
      intro asked hmem
      generalize query.asked? = found at hboth hasked
      generalize other.asked? = found' at hboth hasked
      cases hboth with
      | none => exact hasked asked hmem
      | some => exact hasked asked (List.mem_cons_of_mem _ hmem)
    rw [answers_cons, answers_cons]
    refine Simulates.bind (answer_alike isLocal hquery hfirst) fun first => ?_
    exact Simulates.bind (answers_alike isLocal hqueries hrest) fun rest =>
      Simulates.composes.pure _

/-! ### Narratives -/

/-- Marked keys hold no decimals of an address unless they hold them under its normal form. -/
theorem get?_lowercase_eq_none {known : OrderedMap String Int}
    (hkeys : ∀ key ∈ known.keys, Address.isMarked key = true) {a : String}
    (ha : Address.isAddress a = true)
    (hnormal : known.get? (Address.spelled (Text.lowercase a)) = none) :
    known.get? (Text.lowercase a) = none := by
  by_cases hmarked : Address.isMarked (Text.lowercase a) = true
  · rw [Address.lowercase_eq_spelled ha hmarked]
    exact hnormal
  · exact OrderedMap.get?_eq_none_iff.2 fun hkey => hmarked (hkeys _ hkey)

/-- The tokens that the requests ask about are told alike unless one of them is overlooked. -/
theorem tellsAlike_of_not_overlooks {session : Session} {request other : Request}
    (hkeys : ∀ key ∈ session.decimals.keys, Address.isMarked key = true)
    (h : request.Respelled other) (hseen : ¬ narrator.Overlooks session request other) :
    ∀ asked ∈ request.asked.zip other.asked,
      narrator.TellsAlike session.decimals asked.1.1 asked.2.1 := by
  have hqueries := (sentenceOf_respelled h).queries
  have hboth := List.rel_filterMap (fun _ _ hquery => Query.asked?_respelled hquery) hqueries
  rintro ⟨first, second⟩ hmem source hsource
  obtain ⟨-, hsame | ⟨a, b, hsame, hfirst, hsecond⟩⟩ := (List.forall₂_iff_zip.1 hboth).2 hmem
  · exact Or.inl hsame
  · by_cases hmarks : Address.isMarked first.1 = Address.isMarked second.1
    · rw [hfirst, hsecond] at hmarks ⊢
      exact Or.inl (hsame.lowercase_eq hmarks).symm
    · have hunknown : ¬ (source.hasEndpoint = true ∨
          session.decimals.get? (Address.spelled first.1) ≠ none) := fun hknown =>
        hseen ⟨source, hsource, (first, second), hmem, hmarks, hknown⟩
      rw [not_or, not_not, Bool.not_eq_true] at hunknown
      obtain ⟨hendpoint, hnormal⟩ := hunknown
      rw [hfirst] at hnormal
      have hnone := get?_lowercase_eq_none hkeys hsame.isAddress_left hnormal
      rw [hsame.lowercase.spelled_eq] at hnormal
      have hnone' := get?_lowercase_eq_none hkeys hsame.isAddress_right hnormal
      refine Or.inr ⟨hendpoint, ?_⟩
      rw [hfirst, hsecond, hnone, hnone']

/-- Requests that differ in the spelling of addresses have the same narrative and leave the same
session, unless a token is overlooked. -/
theorem narrate_respelled {session : Session} {request other : Request}
    (hkeys : ∀ key ∈ session.decimals.keys, Address.isMarked key = true)
    (h : request.Respelled other) (hseen : ¬ narrator.Overlooks session request other) :
    (narrator.narrate other).run.run session = (narrator.narrate request).run.run session := by
  have hasked := tellsAlike_of_not_overlooks hkeys h hseen
  have hsentence := sentenceOf_respelled h
  have hrun : Simulates (Session.Alike (Session.Rests narrator session.decimals))
      (narrator.narrate request) (narrator.narrate other) := by
    rw [narrate_eq, narrate_eq, h.isLocal, h.hash, h.succeeded]
    refine Simulates.bind (displayAddress_alike _ h.sender) fun sender => ?_
    refine Simulates.bind (displayContract_alike h) fun contract => ?_
    refine Simulates.bind (answers_alike _ hsentence.queries hasked) fun answers => ?_
    rw [Sentence.text, Sentence.text, hsentence.pieces]
    exact Simulates.composes.pure _
  obtain ⟨houtcome, hafter, -⟩ := hrun session session ⟨rfl, fun _ _ _ => rfl⟩
  exact Prod.ext houtcome hafter

end Narrator

/-! ### A token with six decimals -/

namespace Stable

def token : String := "0xabcdefabcdefabcdefabcdefabcdefabcdefabcd"

/-- The address of the token without the mark. -/
def unmarked : String := "abcdefabcdefabcdefabcdefabcdefabcdefabcd"

/-- The address of the token with all letters in the other case. -/
def upper : String := "0XABCDEFABCDEFABCDEFABCDEFABCDEFABCDEFABCD"

/-- A narrator without a service to ask about tokens. -/
def narrator : Narrator := ⟨⟨none, false, none⟩, none, some ⟨none, 18, fun _ _ => .failed "down"⟩⟩

/-- The decimals of the token are set beforehand. -/
def session : Session := Session.fresh.setDecimals token 6

/-- A transfer of the token by a sender without a mark, to a party with another one. -/
def transfer : Request :=
  { Sale.transferring upper with
    sender := "1111111111111111111111111111111111111111"
    call :=
      { (Sale.transferring upper).call with
        parameters := (Sale.transferring upper).call.parameters.insert "to"
          (.text "0X2222222222222222222222222222222222222222") } }

theorem same_of_normal? {a b : String} (h : (Address.normal? a).isSome = true)
    (heq : Address.normal? a = Address.normal? b) : Address.Same a b := by
  obtain ⟨normal, hnormal⟩ := Option.isSome_iff_exists.1 h
  exact ⟨normal, hnormal, heq.symm.trans hnormal⟩

/-- The two transfers of the token differ in the mark of its address alone, but only one of them is
told with its decimals. -/
theorem narrate_unmarked :
    (Sale.transferring token).Respelled (Sale.transferring unmarked) ∧
      (∀ key ∈ session.decimals.keys, Address.isMarked key = true) ∧
      ((narrator.narrate (Sale.transferring token)).run.run session).1 = .ok
        ("0x1111...1111 transferred 2.5 tokens to 0x2222...2222 via contract at " ++
          "0xabcd...abcd [tx: 0xabcd]") ∧
      ((narrator.narrate (Sale.transferring unmarked)).run.run session).1 = .ok
        ("0x1111...1111 transferred 0.0000000000025 tokens to 0x2222...2222 via contract at " ++
          "0xabcd...abcd [tx: 0xabcd]") := by
  have hsame : Address.Same token unmarked :=
    same_of_normal? (by decide +kernel) (by decide +kernel)
  refine ⟨?_, by decide +kernel, by decide +kernel, by decide +kernel⟩
  exact ⟨Call.respelled_refl _, Or.inl rfl, .some (Or.inr hsame), rfl, rfl, rfl⟩

end Stable

/-- Letter case does not count, neither of digits nor of the mark, and parties may lack the mark. -/
theorem Narrator.narrate_respelled_stable :
    (∀ key ∈ Stable.session.decimals.keys, Address.isMarked key = true) ∧
      (Sale.transferring Stable.token).Respelled Stable.transfer ∧
      ¬ Stable.narrator.Overlooks Stable.session (Sale.transferring Stable.token) Stable.transfer ∧
      (Stable.narrator.narrate Stable.transfer).run.run Stable.session =
        (Stable.narrator.narrate (Sale.transferring Stable.token)).run.run Stable.session := by
  have hkeys : ∀ key ∈ Stable.session.decimals.keys, Address.isMarked key = true := by
    decide +kernel
  have hrequest : (Sale.transferring Stable.token).Respelled Stable.transfer :=
    { call := Call.respelled_insert _ (a := "0x2222222222222222222222222222222222222222") rfl
        (Stable.same_of_normal? (by decide +kernel) (by decide +kernel)) (by decide)
      sender := Or.inr (Stable.same_of_normal? (by decide +kernel) (by decide +kernel))
      destination := .some (Or.inr (Stable.same_of_normal? (by decide +kernel) (by decide +kernel)))
      hash := rfl
      isLocal := rfl
      succeeded := rfl }
  have hseen : ¬ Stable.narrator.Overlooks Stable.session (Sale.transferring Stable.token)
      Stable.transfer := by
    have hmarks : ∀ asked ∈ (Sale.transferring Stable.token).asked.zip Stable.transfer.asked,
        Address.isMarked asked.1.1 = Address.isMarked asked.2.1 := by decide +kernel
    rintro ⟨source, -, asked, hmem, hdiffer, -⟩
    exact hdiffer (hmarks asked hmem)
  exact ⟨hkeys, hrequest, hseen, narrate_respelled hkeys hrequest hseen⟩

end Chronicle
