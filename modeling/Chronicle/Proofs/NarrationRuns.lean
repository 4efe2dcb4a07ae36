/- # Runs of narration

Narration goes through a session that it changes, and may fail. It is said to
yield a value if it succeeds from every session where an invariant holds, keeps
the invariant, and ends with a value of the wanted kind. Answers of resolvers
that fail are caught, and replies of services that cannot be used are replaced,
so that narration yields what its parts yield. Other properties of narration,
and relations between two narrators, follow from those of its parts in one way
for all of them.

Key definitions: `Narration.Yields`, `Narration.Keeps`, `Narration.Settled`,
`Narration.Composes`, `Session.DecimalsIn`, `TokenSource.Within`, `Query.Tellable`.
Key theorems: `Resolver.labelOf_yields`, `TokenSource.decimalsOf_yields`,
`Narrator.answers_yields`, `Narrator.narrate_composes`, `Narrator.narrate_yields`,
`Narrator.narrateBatch_yields`.
-/
import Chronicle.Proofs.Amounts
import Chronicle.Proofs.DecodeSound
import Chronicle.Proofs.Inquiries
import Mathlib.Data.List.Forall2

namespace Chronicle

namespace Narration

variable {α β : Type} {P : Session → Prop} {Q : α → Prop} {R : β → Prop}

/-- A computation that starts by looking at the session goes on with it. -/
theorem run_get_bind (f : Session → Narration α) (session : Session) :
    (get >>= f).run.run session = (f session).run.run session := rfl

theorem run_bind_of_ok {x : Narration α} {session mid : Session} {a : α}
    (h : x.run.run session = (.ok a, mid)) (f : α → Narration β) :
    (x >>= f).run.run session = (f a).run.run mid := by
  rw [ExceptT.run_bind, StateT.run_bind, h]
  rfl

theorem run_bind_of_error {x : Narration α} {session mid : Session} {fault : Fault}
    (h : x.run.run session = (.error fault, mid)) (f : α → Narration β) :
    (x >>= f).run.run session = (.error fault, mid) := by
  rw [ExceptT.run_bind, StateT.run_bind, h]
  rfl

/-- Computations in a row succeed if each of them does, from the session that the one before left. -/
theorem run_bind_eq_ok {x : Narration α} {f : α → Narration β} {session after : Session} {b : β}
    (h : (x >>= f).run.run session = (.ok b, after)) :
    ∃ a mid, x.run.run session = (.ok a, mid) ∧ (f a).run.run mid = (.ok b, after) := by
  cases hfirst : x.run.run session with
  | mk outcome mid =>
    cases outcome with
    | error fault =>
      rw [run_bind_of_error hfirst] at h
      cases h
    | ok a =>
      rw [run_bind_of_ok hfirst] at h
      exact ⟨a, mid, rfl, h⟩

/-- A failure is caught in the session that it left. -/
theorem run_tryCatch (x : Narration α) (a : α) (session : Session) :
    (tryCatch x fun _ => pure a).run.run session =
      (.ok ((x.run.run session).1.toOption.getD a), (x.run.run session).2) := by
  rw [ExceptT.run_tryCatch, StateT.run_bind]
  generalize x.run.run session = result
  obtain ⟨outcome, after⟩ := result
  cases outcome <;> rfl

/-- From every session in `P`, the computation succeeds with a value in `Q` and leaves a session in
`P`. -/
def Yields (P : Session → Prop) (x : Narration α) (Q : α → Prop) : Prop :=
  ∀ session, P session → ∃ a after, x.run.run session = (.ok a, after) ∧ P after ∧ Q a

namespace Yields

theorem pure {a : α} (ha : Q a) : Yields P (Pure.pure a) Q :=
  fun session hP => ⟨a, session, rfl, hP, ha⟩

theorem bind {x : Narration α} {f : α → Narration β} (hx : Yields P x Q)
    (hf : ∀ a, Q a → Yields P (f a) R) : Yields P (x >>= f) R := by
  intro session hP
  obtain ⟨a, mid, hrun, hmid, ha⟩ := hx session hP
  obtain ⟨b, after, hrest, hafter, hb⟩ := hf a ha mid hmid
  exact ⟨b, after, (run_bind_of_ok hrun f).trans hrest, hafter, hb⟩

/-- What the session holds is at hand, and is known to be in the invariant. -/
theorem get_bind {f : Session → Narration β}
    (hf : ∀ session, P session → Yields P (f session) R) : Yields P (MonadState.get >>= f) R :=
  fun session hP => hf session hP session hP

theorem ite {c : Prop} [Decidable c] {x y : Narration α} (hx : Yields P x Q) (hy : Yields P y Q) :
    Yields P (if c then x else y) Q := by
  split
  · exact hx
  · exact hy

theorem ofExcept {answer : Except Fault α} {a : α} (h : answer = .ok a) (ha : Q a) :
    Yields P (Narration.ofExcept answer) Q := by
  subst h
  exact fun session hP => ⟨a, session, rfl, hP, ha⟩

end Yields

/-! ### Runs that may fail -/

/-- Whether it succeeds or fails, the computation leaves a session in `P`. -/
def Keeps (P : Session → Prop) (x : Narration α) : Prop :=
  ∀ session, P session → P (x.run.run session).2

namespace Keeps

theorem pure (a : α) : Keeps P (Pure.pure a) := fun _ hP => hP

theorem ofExcept (answer : Except Fault α) : Keeps P (Narration.ofExcept answer) :=
  fun _ hP => hP

theorem bind {x : Narration α} {f : α → Narration β} (hx : Keeps P x) (hf : ∀ a, Keeps P (f a)) :
    Keeps P (x >>= f) := by
  intro session hP
  have hmid := hx session hP
  cases hrun : x.run.run session with
  | mk outcome mid =>
    rw [hrun] at hmid
    cases outcome with
    | error fault =>
      rw [run_bind_of_error hrun]
      exact hmid
    | ok a =>
      rw [run_bind_of_ok hrun]
      exact hf a mid hmid

theorem get_bind {f : Session → Narration α} (hf : ∀ session, Keeps P (f session)) :
    Keeps P (MonadState.get >>= f) := fun session hP => hf session session hP

theorem modify {f : Session → Session} (hf : ∀ session, P session → P (f session)) :
    Keeps P (modify f) := hf

theorem tryCatch {x : Narration α} (hx : Keeps P x) (a : α) :
    Yields P (tryCatch x fun _ => Pure.pure a) fun _ => True :=
  fun session hP => ⟨_, _, run_tryCatch x a session, hx session hP, trivial⟩

end Keeps

/-! ### Runs with one outcome -/

/-- The computation has one outcome from all sessions in `P`, and leaves a session in `P`. -/
def Settled (P : Session → Prop) (x : Narration α) : Prop :=
  ∃ outcome, ∀ session, P session → ∃ after, x.run.run session = (outcome, after) ∧ P after

namespace Settled

theorem pure (a : α) : Settled P (Pure.pure a) := ⟨.ok a, fun session hP => ⟨session, rfl, hP⟩⟩

theorem ofExcept (answer : Except Fault α) : Settled P (Narration.ofExcept answer) :=
  ⟨answer, fun session hP => ⟨session, rfl, hP⟩⟩

theorem bind {x : Narration α} {f : α → Narration β} (hx : Settled P x)
    (hf : ∀ a, Settled P (f a)) : Settled P (x >>= f) := by
  obtain ⟨outcome, hx⟩ := hx
  cases outcome with
  | error fault =>
    refine ⟨.error fault, fun session hP => ?_⟩
    obtain ⟨mid, hrun, hmid⟩ := hx session hP
    exact ⟨mid, run_bind_of_error hrun f, hmid⟩
  | ok a =>
    obtain ⟨rest, hf⟩ := hf a
    refine ⟨rest, fun session hP => ?_⟩
    obtain ⟨mid, hrun, hmid⟩ := hx session hP
    obtain ⟨after, hrest, hafter⟩ := hf mid hmid
    exact ⟨after, (run_bind_of_ok hrun f).trans hrest, hafter⟩

theorem ite {c : Prop} [Decidable c] {x y : Narration α} (hx : Settled P x) (hy : Settled P y) :
    Settled P (if c then x else y) := by
  split
  · exact hx
  · exact hy

/-- A failure is caught alike from all sessions. -/
theorem tryCatch {x : Narration α} (hx : Settled P x) (a : α) :
    Settled P (tryCatch x fun _ => Pure.pure a) := by
  obtain ⟨outcome, hx⟩ := hx
  refine ⟨.ok (outcome.toOption.getD a), fun session hP => ?_⟩
  obtain ⟨after, hrun, hafter⟩ := hx session hP
  rw [run_tryCatch, hrun]
  exact ⟨after, rfl, hafter⟩

/-- The outcome from one session is the outcome from any other. -/
theorem run_eq {x : Narration α} (hx : Settled P x) {session other : Session} (hsession : P session)
    (hother : P other) :
    (x.run.run session).1 = (x.run.run other).1 ∧ P (x.run.run session).2 := by
  obtain ⟨outcome, hx⟩ := hx
  obtain ⟨after, hrun, hafter⟩ := hx session hsession
  obtain ⟨_, hrun', -⟩ := hx other hother
  rw [hrun, hrun']
  exact ⟨rfl, hafter⟩

end Settled

/-! ### What holds of runs by their parts -/

/-- What relates two computations part by part: answers that do not depend on the session, and
computations in a row if it relates each of them. -/
structure Composes (C : (α : Type) → Narration α → Narration α → Prop) : Prop where
  ofExcept : ∀ {α : Type} (answer : Except Fault α),
    C α (Narration.ofExcept answer) (Narration.ofExcept answer)
  bind : ∀ {α β : Type} {x y : Narration α} {f g : α → Narration β}, C α x y →
    (∀ a, C β (f a) (g a)) → C β (x >>= f) (y >>= g)

namespace Composes

variable {C : (α : Type) → Narration α → Narration α → Prop}

theorem pure (h : Composes C) (a : α) : C α (Pure.pure a) (Pure.pure a) := h.ofExcept (.ok a)

theorem ite {c : Prop} [Decidable c] {x y x' y' : Narration α} (hx : C α x x') (hy : C α y y') :
    C α (if c then x else y) (if c then x' else y') := by
  split
  · exact hx
  · exact hy

end Composes

theorem Keeps.composes : Composes fun _ x _ => Keeps P x where
  ofExcept := Keeps.ofExcept
  bind := Keeps.bind

theorem Settled.composes : Composes fun _ x _ => Settled P x where
  ofExcept := Settled.ofExcept
  bind := Settled.bind

end Narration

open Narration (Yields Keeps Composes)

/-- The decimals that are known are all in `D`. -/
def Session.DecimalsIn (D : Int → Prop) (session : Session) : Prop :=
  ∀ entry ∈ session.decimals.entries, D entry.2

variable {D : Int → Prop}

/-! ### Labels -/

namespace Resolver

section

variable {resolver : Resolver} {address : String} {label : Option String} {session : Session}

theorem labelOfKey_run_of_some (h : session.labels.get? address = some label) :
    (resolver.labelOfKey address).run.run session = (.ok label, session) := by
  rw [labelOfKey, Narration.run_get_bind, h]
  rfl

theorem labelOfKey_run_of_none (h : session.labels.get? address = none) :
    (resolver.labelOfKey address).run.run session = (resolver.learn address).run.run session := by
  rw [labelOfKey, Narration.run_get_bind, h]

theorem ask_run (resolver : Resolver) (address : String) (session : Session) :
    (resolver.ask address).run.run session = (resolver.answer session.labelQuestions address,
      { session with labelQuestions := session.labelQuestions ++ [address] }) := rfl

/-- A label that the source tells is kept. -/
theorem learn_run_of_ok (h : resolver.answer session.labelQuestions address = .ok label) :
    (resolver.learn address).run.run session = (.ok label,
      { session with
        labelQuestions := session.labelQuestions ++ [address]
        labels := session.labels.insert address label }) := by
  have hask := ask_run resolver address session
  rw [h] at hask
  exact Narration.run_bind_of_ok hask _

/-- A failure of the source is not kept. -/
theorem learn_run_of_error {fault : Fault}
    (h : resolver.answer session.labelQuestions address = .error fault) :
    (resolver.learn address).run.run session = (.error fault,
      { session with labelQuestions := session.labelQuestions ++ [address] }) := by
  have hask := ask_run resolver address session
  rw [h] at hask
  exact Narration.run_bind_of_error hask _

end

theorem ask_keeps (resolver : Resolver) (address : String) :
    Keeps (Session.DecimalsIn D) (resolver.ask address) := fun _ hP => hP

theorem resolve_keeps (resolver : Resolver) (address : String) :
    Keeps (Session.DecimalsIn D) (resolver.resolve address) := by
  unfold resolve
  split
  · refine Keeps.get_bind fun session => ?_
    split
    · exact Keeps.pure _
    · refine Keeps.bind (resolver.ask_keeps _) fun label => ?_
      exact Keeps.bind (Keeps.modify fun _ hP => hP) fun _ => Keeps.pure label
  · exact resolver.ask_keeps address

/-- Whatever the resolver does, there is a label or none. -/
theorem labelOf_yields (resolver : Option Resolver) (address : String) :
    Yields (Session.DecimalsIn D) (labelOf resolver address) fun _ => True := by
  cases resolver with
  | none => exact Yields.pure trivial
  | some resolver => exact Keeps.tryCatch (resolver.resolve_keeps address) none

end Resolver

/-! ### Decimals -/

/-- The decimals in a result are a number below 256. -/
theorem range_of_decimalsOfResult? {result : String} {n : Int}
    (h : decimalsOfResult? result = some n) : 0 ≤ n ∧ n < 256 := by
  unfold decimalsOfResult? at h
  split at h
  · cases h
  · next bs hbs =>
    split at h
    · next m hdecode =>
      cases h
      have hsupported : AbiType.AllSupported [.uint 8] := ⟨rfl, trivial⟩
      have hadmits := admits_of_decodeArguments hsupported hdecode
      obtain ⟨hm, -⟩ := Bool.and_eq_true_iff.1 hadmits
      obtain ⟨hlow, hhigh⟩ := Bool.and_eq_true_iff.1 hm
      exact ⟨of_decide_eq_true hlow, of_decide_eq_true hhigh⟩
    · cases h

theorem isShort_errorMessage : ∀ {error : Value}, error.isShort = true →
    (errorMessage error).isShort = true
  | .object details, h => by
    rw [errorMessage]
    cases hmessage : Value.field? details "message" with
    | none => rfl
    | some message => exact Value.isShort_of_field? h hmessage
  | .null, h | .bool _, h | .int _, h | .real _, h | .text _, h | .bytes _, h | .list _, h
  | .member _ _, h | .foreign _, h => h

theorem isShort_resultOf {fields : List (String × Value)}
    (h : Value.areShortFields fields = true) : (resultOf fields).isShort = true := by
  rw [resultOf]
  cases hresult : (Value.field? fields "result").filter Value.holds with
  | none => rfl
  | some result =>
    obtain ⟨hfield, -⟩ := Option.filter_eq_some_iff.1 hresult
    exact Value.isShort_of_field? h hfield

/-- A reply without long numbers gives decimals below 256, or a reason why it gives none. -/
theorem decimalsOfReply_eq_ok {reply : Reply} (h : ∀ v, reply = .answered v → v.isShort = true) :
    ∃ answer, decimalsOfReply reply = .ok answer ∧ ∀ n, answer = .ok n → 0 ≤ n ∧ n < 256 := by
  unfold decimalsOfReply
  split
  · exact ⟨_, rfl, nofun⟩
  · next fields =>
    have hfields : Value.areShortFields fields = true := h _ rfl
    split
    · next error herror =>
      have herror := isShort_errorMessage (Value.isShort_of_field? hfields herror)
      obtain ⟨s, hs⟩ := Value.shown_eq_ok herror
      exact ⟨_, bind_of_ok hs _, nofun⟩
    · have hresult := isShort_resultOf hfields
      split
      · split
        · next n hn =>
          refine ⟨_, rfl, fun m hm => ?_⟩
          cases hm
          exact range_of_decimalsOfResult? hn
        · exact ⟨_, rfl, nofun⟩
      · obtain ⟨s, hs⟩ := Value.exact_eq_ok hresult
        exact ⟨_, bind_of_ok hs _, nofun⟩
  · next v _ =>
    obtain ⟨s, hs⟩ := Value.exact_eq_ok (h v rfl)
    exact ⟨_, bind_of_ok hs _, nofun⟩

namespace TokenSource

/-- Each reply of the service gives decimals in `D`, or a reason why it gives none. -/
def Within (D : Int → Prop) (source : TokenSource) : Prop :=
  ∀ asked token, ∃ answer, decimalsOfReply (source.reply asked token) = .ok answer ∧
    ∀ n, answer = .ok n → D n

variable {source : TokenSource}

section

variable {token : String} {session : Session}

theorem decimalsOfKey_run_of_some {n : Int} (fallback : Int)
    (h : session.decimals.get? token = some n) :
    (source.decimalsOfKey token fallback).run.run session = (.ok n, session) := by
  rw [decimalsOfKey, Narration.run_get_bind, h]
  rfl

theorem decimalsOfKey_run_of_none (fallback : Int) (h : session.decimals.get? token = none) :
    (source.decimalsOfKey token fallback).run.run session =
      (if source.hasEndpoint then source.learn token fallback else pure fallback :
        Narration Int).run.run session := by
  rw [decimalsOfKey, Narration.run_get_bind, h]

theorem ask_run (source : TokenSource) (token : String) (session : Session) :
    (source.ask token).run.run session =
      (decimalsOfReply (source.reply session.decimalQuestions token),
        { session with decimalQuestions := session.decimalQuestions ++ [token] }) := rfl

/-- What is logged about an answer: nothing if it gives decimals, and else a warning. -/
def recordsOf (token : String) (fallback : Int) : Except String Int → Log
  | .ok _ => []
  | .error reason => [warning (fallbackMessage token reason fallback)]

/-- The decimals that a reply gives are kept, and so is the fallback, with a warning, if it gives
none. -/
theorem learn_run_of_ok {answer : Except String Int} (fallback : Int)
    (h : decimalsOfReply (source.reply session.decimalQuestions token) = .ok answer) :
    (source.learn token fallback).run.run session = (.ok (answer.toOption.getD fallback),
      { session with
        decimalQuestions := session.decimalQuestions ++ [token]
        decimals := session.decimals.insert token (answer.toOption.getD fallback)
        log := session.log ++ recordsOf token fallback answer }) := by
  have hask := ask_run source token session
  rw [h] at hask
  cases answer with
  | ok n =>
    rw [recordsOf, List.append_nil]
    exact Narration.run_bind_of_ok hask _
  | error reason => exact Narration.run_bind_of_ok hask _

/-- A reply that no warning can be written about leaves nothing behind. -/
theorem learn_run_of_error {fault : Fault} (fallback : Int)
    (h : decimalsOfReply (source.reply session.decimalQuestions token) = .error fault) :
    (source.learn token fallback).run.run session = (.error fault,
      { session with decimalQuestions := session.decimalQuestions ++ [token] }) := by
  have hask := ask_run source token session
  rw [h] at hask
  exact Narration.run_bind_of_error hask _

end

end TokenSource

/-! ### Queries and sentences -/

namespace Narrator

variable {narrator : Narrator}

theorem displayAddress_yields (narrator : Narrator) (isLocal : Bool) (address : String) :
    Yields (Session.DecimalsIn D) (narrator.displayAddress isLocal address) fun _ => True := by
  rw [displayAddress_eq]
  refine Yields.ite (Yields.pure trivial) ?_
  exact Yields.bind (Resolver.labelOf_yields _ _) fun found _ => Yields.pure trivial

/-- A query that asks for no decimals is answered by every narrator by what an address is called, or
by what does not depend on the narrator and the session. -/
theorem answer_cases : ∀ query : Query,
    (∃ v token standard, query = .amount v token standard) ∨
    (∃ address, Address.isAddress address = true ∧ ∀ (narrator : Narrator) isLocal,
      narrator.answer isLocal query = narrator.displayAddress isLocal address) ∨
    ∃ shown, ∀ (narrator : Narrator) isLocal,
      narrator.answer isLocal query = Narration.ofExcept shown
  | .amount v token standard => Or.inl ⟨v, token, standard, rfl⟩
  | .scaled v decimals => Or.inr (Or.inr ⟨_, fun _ _ => rfl⟩)
  | .plain v => Or.inr (Or.inr ⟨_, fun _ _ => rfl⟩)
  | .party v => by
    cases v with
    | text s =>
      by_cases haddress : Address.isAddress s = true
      · exact Or.inr (Or.inl ⟨s, haddress, fun narrator isLocal =>
          (narrator.answer_party isLocal s).trans (if_pos haddress)⟩)
      · exact Or.inr (Or.inr ⟨.ok s, fun narrator isLocal =>
          (narrator.answer_party isLocal s).trans (if_neg haddress)⟩)
    | _ => exact Or.inr (Or.inr ⟨_, fun _ _ => rfl⟩)
  | .token v => by
    cases v with
    | text s =>
      by_cases haddress : Address.isAddress s = true
      · exact Or.inr (Or.inl ⟨s, haddress, fun narrator isLocal =>
          (narrator.answer_token isLocal s).trans (if_pos haddress)⟩)
      · exact Or.inr (Or.inr ⟨.ok "unknown token", fun narrator isLocal =>
          (narrator.answer_token isLocal s).trans (if_neg haddress)⟩)
    | _ => exact Or.inr (Or.inr ⟨.ok "unknown token", fun _ _ => rfl⟩)

section

variable {C : (α : Type) → Narration α → Narration α → Prop} (hC : Composes C) {other : Narrator}
include hC

/-- What composes relates the runs of an inquiry by two narrators if it relates what they answer to
its questions. -/
theorem run_composes : ∀ {x : Inquiry α} {questions : List Question}, x.Asks questions →
    (∀ question ∈ questions, C question.Answer (narrator.lookUp question)
      (other.lookUp question)) → C α (x.run narrator) (x.run other)
  | .done outcome, _, _, _ => hC.ofExcept outcome
  | .ask question next, _, hasks, h => by
    obtain ⟨rest, rfl, hnext⟩ := hasks
    obtain ⟨hfirst, hrest⟩ := List.forall_mem_cons.1 h
    exact hC.bind hfirst fun answer => run_composes (hnext answer) hrest

theorem lookUp_decimals_composes (htokens : other.tokens = narrator.tokens) {address : String}
    {standard : Int}
    (hdecimals : ∀ source ∈ narrator.tokens,
      C Int (source.decimalsOfKey (Text.lowercase address) standard)
        (source.decimalsOfKey (Text.lowercase address) standard)) :
    C Int (narrator.lookUp (.decimals address standard))
      (other.lookUp (.decimals address standard)) := by
  unfold lookUp
  rw [htokens]
  split
  · next source hsource => exact hdecimals source hsource
  · exact hC.pure standard

variable (hconfig : other.config = narrator.config)
include hconfig

theorem displayAddress_composes (isLocal : Bool) {address : String}
    (hlabel : C (Option String) (Resolver.labelOf narrator.resolver (Address.spelled address))
      (Resolver.labelOf other.resolver (Address.spelled address))) :
    C String (narrator.displayAddress isLocal address) (other.displayAddress isLocal address) := by
  unfold displayAddress
  rw [hconfig]
  refine run_composes hC (Inquiry.displayAddress_asks _ _ _) fun question hquestion => ?_
  obtain rfl := Question.mem_ofAddress hquestion
  exact hlabel

variable (htokens : other.tokens = narrator.tokens) {request : Request}
include htokens

omit hconfig in
theorem tokenDecimals_composes (token : Value) (standard : Int)
    (hdecimals : ∀ source ∈ narrator.tokens, ∀ address, token = .text address →
      Address.isAddress address = true →
        C Int (source.decimalsOfKey (Text.lowercase address) standard)
          (source.decimalsOfKey (Text.lowercase address) standard)) :
    C Int (narrator.tokenDecimals token standard) (other.tokenDecimals token standard) := by
  refine run_composes hC (Inquiry.tokenDecimals_asks _ _) fun question hquestion => ?_
  obtain ⟨address, rfl, haddress, rfl⟩ := Question.mem_ofToken hquestion
  exact lookUp_decimals_composes hC htokens fun source hsource =>
    hdecimals source hsource address rfl haddress

/-- What composes relates the narratives of two narrators if it relates what they find out: the
labels of the sender, the destination and the addresses that are named, and the decimals of the
tokens that are asked about. -/
theorem narrate_composes
    (hlabel : ∀ address, address = request.sender ∨ address ∈ request.destination ∨
        Address.isAddress address = true →
      C (Option String) (Resolver.labelOf narrator.resolver (Address.spelled address))
        (Resolver.labelOf other.resolver (Address.spelled address)))
    (hdecimals : ∀ source ∈ narrator.tokens, ∀ v address standard,
      .amount v (.text address) standard ∈ (sentenceOf request).queries →
        Address.isAddress address = true →
          C Int (source.decimalsOfKey (Text.lowercase address) standard)
            (source.decimalsOfKey (Text.lowercase address) standard)) :
    C String (narrator.narrate request) (other.narrate request) := by
  unfold narrate
  rw [hconfig]
  refine run_composes hC (Inquiry.narrative_asks _ request) fun question hquestion => ?_
  rcases Request.mem_questions hquestion with
    ⟨address, haddress, rfl⟩ | ⟨v, address, standard, hquery, haddress, rfl⟩
  · exact hlabel address haddress
  · exact lookUp_decimals_composes hC htokens fun source hsource =>
      hdecimals source hsource v address standard hquery haddress

end

end Narrator

end Chronicle
