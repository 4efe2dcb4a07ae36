/-
# Narratives name who acted, on what, and in which transaction

A narrative begins with what the sender is called and ends with the hash, after a
note if the transaction did not succeed. In between it names the contract, or
tells of a deployment and where the contract was put; and it names the selector
of a function that has no sentence of its own. What an address is called depends
on the configuration and on its label. If the resolver answers about each address
in one way, the label is the same however often it is asked for while the
narrative is made, so that all addresses are called what they are called at the
beginning.

Key definitions: `Narrator.Calls`, `Request.Mentions`, `Request.Told`.
Key theorems: `Narrator.displayAddress_settled`, `Narrator.narrate_eq_ok`,
`Narrator.narrate_told`.
-/
import Chronicle.Proofs.FullAddresses
import Chronicle.Proofs.Repetition
import Mathlib.Data.Prod.Basic

namespace Chronicle

open Narration (Settled run_bind_eq_ok)

/-! ### What a narrative has to name -/

/-- The function tells what the narrator calls each address in the session. -/
def Narrator.Calls (narrator : Narrator) (session : Session) (isLocal : Bool)
    (called : String → String) : Prop :=
  ∀ address, ((narrator.displayAddress isLocal address).run.run session).1 = .ok (called address)

namespace Request

/-- What stands between the sender and the ending of a narrative. -/
structure Mentions (request : Request) (called : String → String) (middle : String) : Prop where
  destination : request.call.family ≠ .contractCreation →
    ∀ address ∈ request.destination, address ≠ "" → (called address).toList <:+: middle.toList
  /-- An empty destination counts as none. -/
  nowhere : request.call.family ≠ .contractCreation →
    (∀ address ∈ request.destination, address = "") → "unknown contract".toList <:+: middle.toList
  deployment : request.call.family = .contractCreation →
    "deployed contract".toList <+: middle.toList
  deployed : request.call.family = .contractCreation → ∀ address,
    request.call.parameters.get? Call.deployedAddressName = some (.text address) →
      Address.isAddress address = true → (called address).toList <:+: middle.toList
  selector : request.call.family = .unknown ∨
      request.call.family = .generic ∧ request.call.functionName ∉ Phrasing.ownNames →
    request.call.selector.toList <:+: middle.toList

/-- The narrative is the sender and a blank, what it has to mention, the note on a failure if there
was one, and the hash. -/
def Told (request : Request) (called : String → String) (narrative : String) : Prop :=
  ∃ middle, narrative = called request.sender ++ " " ++ middle ++
      ((if request.succeeded then "" else " (transaction failed)") ++
        " [tx: " ++ request.hash.shown ++ "]") ∧
    request.Mentions called middle

end Request

namespace Narrator

variable {narrator : Narrator} {request : Request} {session after : Session}

/-! ### What addresses are called -/

/-- Sessions that have learned labels from the resolver and nothing else. -/
def Recalls (narrator : Narrator) (origin session : Session) : Prop :=
  Session.Follows { narrator with tokens := none } [] origin session

theorem recalls_refl (narrator : Narrator) (session : Session) :
    narrator.Recalls session session := ⟨.refl _, .refl _⟩

theorem displayAddress_settled (hfixed : narrator.LabelsFixed)
    (origin : Session) (isLocal : Bool) (address : String) :
    Settled (narrator.Recalls origin) (narrator.displayAddress isLocal address) := by
  -- Tokens have no part in what an address is called, so nothing is said about them.
  have hplain : ({ narrator with tokens := none } : Narrator).IsFixed := ⟨hfixed, nofun⟩
  exact displayAddress_composes Settled.composes rfl isLocal
    (Resolver.labelOf_settled hplain (Address.spelled address))

theorem exists_calls (narrator : Narrator) (session : Session) (isLocal : Bool) :
    ∃ called, narrator.Calls session isLocal called := by
  have hyields := fun address => displayAddress_yields (D := fun _ => True) narrator isLocal address
    session fun _ _ => trivial
  choose called after hrun _ using hyields
  exact ⟨called, fun address => by rw [hrun]⟩

/-! ### The parts of a narrative -/

/-- A narrative is made of what the sender, the destination and the queries come to, one after the
other. -/
theorem narrate_eq_ok {narrative : String}
    (h : (narrator.narrate request).run.run session = (.ok narrative, after)) :
    ∃ sender contract answers first second,
      (narrator.displayAddress request.isLocal request.sender).run.run session =
        (.ok sender, first) ∧
      (narrator.displayContract request).run.run first = (.ok contract, second) ∧
      (narrator.answers request.isLocal (sentenceOf request).queries).run.run second =
        (.ok answers, after) ∧
      narrative = (sentenceOf request).text sender contract answers ++
        ending request.succeeded request.hash := by
  rw [narrate_eq] at h
  obtain ⟨sender, first, hsender, h⟩ := run_bind_eq_ok h
  obtain ⟨contract, second, hcontract, h⟩ := run_bind_eq_ok h
  obtain ⟨answers, third, hanswers, h⟩ := run_bind_eq_ok h
  cases h
  exact ⟨sender, contract, answers, first, second, hsender, hcontract, hanswers, rfl⟩

/-- What the destination is called. -/
def contractName (called : String → String) (request : Request) : String :=
  match contractOf request with
  | some address => called address
  | none => "unknown contract"

theorem contractName_of_mem {called : String → String} {address : String}
    (h : address ∈ request.destination) (hne : address ≠ "") :
    contractName called request = called address := by
  have hkept : contractOf request = some address :=
    Option.filter_eq_some_iff.2 ⟨h, by simp [hne]⟩
  rw [contractName, hkept]

theorem contractName_of_forall {called : String → String}
    (h : ∀ address ∈ request.destination, address = "") :
    contractName called request = "unknown contract" := by
  have hnone : contractOf request = none :=
    Option.filter_eq_none_iff.2 fun address haddress => by simp [h address haddress]
  rw [contractName, hnone]

section

variable (hfixed : narrator.LabelsFixed) {origin : Session}
  {called : String → String}
include hfixed

/-- All the time an address is called what it is called at the beginning. -/
theorem displayAddress_recalls {isLocal : Bool} (hcalled : narrator.Calls origin isLocal called)
    (hrecalls : narrator.Recalls origin session) {address shown : String}
    (h : (narrator.displayAddress isLocal address).run.run session = (.ok shown, after)) :
    shown = called address ∧ narrator.Recalls origin after := by
  obtain ⟨hsame, hafter⟩ := (displayAddress_settled hfixed origin isLocal address).run_eq hrecalls
    (narrator.recalls_refl origin)
  rw [h] at hsame hafter
  exact ⟨Except.ok.inj (hsame.trans (hcalled address)), hafter⟩

theorem displayContract_recalls (hcalled : narrator.Calls origin request.isLocal called)
    (hrecalls : narrator.Recalls origin session) {contract : String}
    (h : (narrator.displayContract request).run.run session = (.ok contract, after)) :
    contract = contractName called request ∧ narrator.Recalls origin after := by
  rw [displayContract_eq] at h
  unfold contractName
  cases hcontract : contractOf request with
  | none =>
    rw [hcontract] at h
    cases h
    exact ⟨rfl, hrecalls⟩
  | some address =>
    rw [hcontract] at h
    exact displayAddress_recalls hfixed hcalled hrecalls h

/-- The one answer of a query about an address is what the address is called. -/
theorem answers_party_recalls {isLocal : Bool} (hcalled : narrator.Calls origin isLocal called)
    (hrecalls : narrator.Recalls origin session) {address : String} {answers : List String}
    (haddress : Address.isAddress address = true)
    (h : (narrator.answers isLocal [.party (.text address)]).run.run session =
      (.ok answers, after)) : answers = [called address] := by
  rw [answers_cons] at h
  obtain ⟨shown, mid, hshown, h⟩ := run_bind_eq_ok h
  obtain ⟨rest, last, hrest, h⟩ := run_bind_eq_ok h
  cases hrest
  cases h
  have hparty : narrator.answer isLocal (.party (.text address)) =
      narrator.displayAddress isLocal address :=
    (narrator.answer_party isLocal address).trans (if_pos haddress)
  rw [hparty] at hshown
  rw [(displayAddress_recalls hfixed hcalled hrecalls hshown).1]

end

end Narrator

/-! ### Deployments -/

/-- The sentence of a deployment has the address of the contract if the call has one. -/
theorem Phrasing.deployment_cases (call : Call) :
    deployment call = .told [.sender, .words " deployed contract"] ∧
        (∀ address, call.parameters.get? Call.deployedAddressName ≠ some (.text address)) ∨
      ∃ v, call.parameters.get? Call.deployedAddressName = some v ∧ deployment call =
        ⟨[.party v], [.sender, .words " deployed contract at ", .answer 0]⟩ := by
  unfold deployment paramOr
  cases hget : call.parameters.get? Call.deployedAddressName with
  | none => exact Or.inl ⟨rfl, nofun⟩
  | some v =>
    cases v with
    | null => exact Or.inl ⟨rfl, nofun⟩
    | _ => exact Or.inr ⟨_, rfl, rfl⟩

namespace Narrator

variable {narrator : Narrator} {request : Request} {session after : Session}

/-- What a sentence names that is told about another call than a deployment. -/
theorem exists_mentions_of_names {called : String → String}
    (hfamily : request.call.family ≠ .contractCreation)
    (hreturns : ¬ (sentenceOf request).Untold) (sender : String) (answers : List String) :
    ∃ middle, (sentenceOf request).text sender (contractName called request) answers =
      sender ++ " " ++ middle ∧ request.Mentions called middle := by
  obtain ⟨middle, htext, hnamed⟩ := (request.call.sentence_names _).exists_text hreturns sender
    (contractName called request) answers
  have hcontract := hnamed _ (Call.contract_mem_named hfamily)
  refine ⟨middle, htext, fun _ address hmem hne => ?_, fun _ hempty => ?_,
    fun h => absurd h hfamily, fun h => absurd h hfamily,
    fun h => hnamed _ (Call.selector_mem_named h)⟩
  · rwa [Piece.text, contractName_of_mem hmem hne] at hcontract
  · rwa [Piece.text, contractName_of_forall hempty] at hcontract

/-- Of a deployment nothing has to be mentioned but the contract that was deployed. -/
theorem mentions_of_deployment {called : String → String} {middle : String}
    (hfamily : request.call.family = .contractCreation)
    (hbegins : "deployed contract".toList <+: middle.toList)
    (hdeployed : ∀ address,
      request.call.parameters.get? Call.deployedAddressName = some (.text address) →
        Address.isAddress address = true → (called address).toList <:+: middle.toList) :
    request.Mentions called middle where
  destination h := absurd hfamily h
  nowhere h := absurd hfamily h
  deployment _ := hbegins
  deployed _ := hdeployed
  selector h := by
    rw [hfamily] at h
    rcases h with h | ⟨h, -⟩
    · cases h
    · cases h

/-- What the sentence of a deployment names, with the answers that it gets. -/
theorem exists_mentions_of_deployment (hfixed : narrator.LabelsFixed)
    {origin : Session} {called : String → String}
    (hcalled : narrator.Calls origin request.isLocal called)
    (hrecalls : narrator.Recalls origin session)
    (hfamily : request.call.family = .contractCreation) {answers : List String}
    (hanswers : (narrator.answers request.isLocal (sentenceOf request).queries).run.run session =
      (.ok answers, after)) (sender contract : String) :
    ∃ middle, (sentenceOf request).text sender contract answers = sender ++ " " ++ middle ∧
      request.Mentions called middle := by
  have hsentence : sentenceOf request = Phrasing.deployment request.call := by
    unfold sentenceOf Call.sentence
    rw [hfamily]
  rw [hsentence] at hanswers ⊢
  rcases Phrasing.deployment_cases request.call with ⟨heq, hnone⟩ | ⟨v, hv, heq⟩
  · refine ⟨"deployed contract", ?_, mentions_of_deployment hfamily List.prefix_rfl
      fun address h => absurd h (hnone address)⟩
    have hwords : " deployed contract" = " " ++ "deployed contract" := rfl
    simp [heq, Sentence.told, Sentence.text, Piece.text, hwords, String.append_assoc]
  · refine ⟨"deployed contract at " ++ answers.getD 0 "", ?_,
      mentions_of_deployment hfamily ?_ fun address h hvalid => ?_⟩
    · have hwords : " deployed contract at " = " " ++ "deployed contract at " := rfl
      simp only [heq, Sentence.text, List.map_cons, List.map_nil, Piece.text, String.join_cons,
        String.join_nil, String.append_empty, hwords, String.append_assoc]
    · have hwords : "deployed contract at " = "deployed contract" ++ " at " := rfl
      rw [hwords, String.append_assoc, String.toList_append]
      exact List.prefix_append _ _
    · obtain rfl : v = .text address := Option.some.inj (hv.symm.trans h)
      rw [heq] at hanswers
      rw [answers_party_recalls hfixed hcalled hrecalls hvalid hanswers, String.toList_append]
      exact (List.suffix_append _ _).isInfix

/-- If the resolver answers about each address in one way, a narrative tells who acted, on what, and
in which transaction, and calls each address what the narrator calls it. -/
theorem narrate_told (hfixed : narrator.LabelsFixed)
    {narrative : String}
    (hrun : (narrator.narrate request).run.run session = (.ok narrative, after)) :
    ∃ called, narrator.Calls session request.isLocal called ∧ request.Told called narrative := by
  obtain ⟨called, hcalled⟩ := narrator.exists_calls session request.isLocal
  obtain ⟨sender, contract, answers, first, second, hsender, hcontract, hanswers, rfl⟩ :=
    narrate_eq_ok hrun
  obtain ⟨rfl, hfirst⟩ :=
    displayAddress_recalls hfixed hcalled (narrator.recalls_refl session) hsender
  obtain ⟨rfl, hsecond⟩ := displayContract_recalls hfixed hcalled hfirst hcontract
  have htold : ¬ (sentenceOf request).Untold := fun huntold =>
    answers_returns_of_untold huntold request.isLocal second answers after hanswers
  suffices h : ∃ middle, (sentenceOf request).text (called request.sender)
      (contractName called request) answers = called request.sender ++ " " ++ middle ∧
        request.Mentions called middle by
    obtain ⟨middle, htext, hmentions⟩ := h
    refine ⟨called, hcalled, middle, ?_, hmentions⟩
    rw [htext]
    rfl
  by_cases hfamily : request.call.family = .contractCreation
  · exact exists_mentions_of_deployment hfixed hcalled hsecond hfamily hanswers _ _
  · exact exists_mentions_of_names hfamily htold (called request.sender) answers

end Narrator

namespace Launch

/-- A contract that has a label. -/
def vault : String := "0xabcdabcdabcdabcdabcdabcdabcdabcdabcdabcd"

/-- A sender that no label can be got for. -/
def sender : String := "0x1111111111111111111111111111111111111111"

def narrator : Narrator where
  config := ⟨none, false, none⟩
  resolver := some (.failingAt [sender] (.ofList [(vault, "VAULT")]) true)
  tokens := none

/-- A deployment that failed, with the contract spelled in capitals. -/
def request : Request where
  call := ⟨"constructor", .contractCreation, Call.zeroSelector,
    .ofList [(Call.deployedAddressName, .text "0XABCDABCDABCDABCDABCDABCDABCDABCDABCDABCD")], []⟩
  sender := sender
  destination := none
  hash := .text "0xabcd"
  isLocal := true
  succeeded := false

theorem labelsFixed_narrator : narrator.LabelsFixed := by
  rintro _ ⟨⟩ asked address
  rfl

end Launch

/-- A failed deployment names the sender, the contract by its label, and the transaction. -/
theorem Narrator.narrate_told_launch :
    Launch.narrator.LabelsFixed ∧
      ((Launch.narrator.narrate Launch.request).run.run .fresh).1 = .ok
        "0x1111...1111 deployed contract at VAULT (transaction failed) [tx: 0xabcd]" ∧
      ∃ called, Launch.narrator.Calls .fresh Launch.request.isLocal called ∧
        Launch.request.Told called
          "0x1111...1111 deployed contract at VAULT (transaction failed) [tx: 0xabcd]" := by
  have hrun : ((Launch.narrator.narrate Launch.request).run.run .fresh).1 = .ok
      "0x1111...1111 deployed contract at VAULT (transaction failed) [tx: 0xabcd]" := by
    decide +kernel
  exact ⟨Launch.labelsFixed_narrator, hrun,
    narrate_told Launch.labelsFixed_narrator (Prod.fst_eq_iff.1 hrun)⟩

end Chronicle
