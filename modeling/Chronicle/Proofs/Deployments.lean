/-
# Deployments in reports

Whether a transaction deploys a contract is asked more than once. Decoding goes
by the destination itself: only where there is none is a contract created. The
report does without a destination that is empty, as if there were none. The two
agree on every destination but the empty text, which makes a call that is no
deployment and has no destination in the report.

Key definitions: `Detail.field?`, `Detail.Places`.
Key theorems: `Registry.family_of_decodeTransaction`, `Detail.isPlaceless_iff`,
`Narrator.report_deployments`.
-/
import Chronicle.Proofs.Classification
import Chronicle.Proofs.FailureMarks

namespace Chronicle

open Narration (Returns)

/-! ### Fields of details -/

namespace Detail

/-- A field of the detail as a report tells it. -/
def field? (detail : Detail) (name : String) : Option Value :=
  match detail.toValue with
  | .object fields => Value.field? fields name
  | _ => none

/-- The detail tells a null destination. -/
def IsPlaceless (detail : Detail) : Prop := detail.field? "to" = some .null

/-- The detail tells of a contract creation. -/
def IsCreation (detail : Detail) : Prop :=
  detail.field? "contract_type" = some (.text Family.contractCreation.name)

/-- What the detail tells of a transaction with that destination, if it was decoded. -/
structure Places (detail : Detail) (destination : Option String) : Prop where
  placeless : detail.IsPlaceless ↔ destination = none ∨ destination = some ""
  creation : ∀ call, detail.outcome = .ok call → (detail.IsCreation ↔ destination = none)
  agrees : ∀ call, detail.outcome = .ok call →
    ((detail.IsPlaceless ↔ detail.IsCreation) ↔ destination ≠ some "")

theorem field?_to (detail : Detail) :
    detail.field? "to" = some ((detail.destination.map .text).getD .null) := rfl

theorem isPlaceless_iff (detail : Detail) : detail.IsPlaceless ↔ detail.destination = none := by
  unfold IsPlaceless
  rw [field?_to]
  cases detail.destination <;> simp

theorem field?_contract_type {detail : Detail} {call : Call} (h : detail.outcome = .ok call) :
    detail.field? "contract_type" = some (.text call.family.name) := by
  unfold field? toValue
  rw [h]
  rfl

theorem isCreation_iff {detail : Detail} {call : Call} (h : detail.outcome = .ok call) :
    detail.IsCreation ↔ call.family = .contractCreation := by
  unfold IsCreation
  rw [field?_contract_type h, Option.some_inj, Value.text.injEq]
  constructor
  · intro hname
    have hfamily := congrArg Family.ofName? hname
    rwa [Family.ofName?_name, Family.ofName?_name, Option.some_inj] at hfamily
  · exact congrArg Family.name

end Detail

/-! ### Destinations -/

theorem Call.family_withDeployedAddress (call : Call) (address : Option String) :
    (call.withDeployedAddress address).family = call.family := by
  unfold withDeployedAddress
  cases address with
  | none => rfl
  | some a =>
    dsimp only
    split
    · rfl
    · rfl

/-- A transaction creates a contract exactly if it has no destination. -/
theorem Registry.family_of_decodeTransaction {interfaces : List Interface} {registry : Registry}
    (hbuild : build interfaces = .ok registry) {transaction : Transaction} {call : Call}
    (hcall : registry.decodeTransaction transaction = .ok call) :
    call.family = .contractCreation ↔ transaction.destination = none := by
  unfold decodeTransaction at hcall
  obtain ⟨decoded, hdecoded, hextended⟩ := bind_eq_ok.1 hcall
  have hfamily : call.family = decoded.family := by
    split at hextended
    · split at hextended
      · cases hextended
        rfl
      · cases hextended
    · cases hextended
      rfl
  rw [hfamily]
  cases hdestination : transaction.destination with
  | none =>
    rw [hdestination] at hdecoded
    cases hdecoded
    exact iff_of_true rfl rfl
  | some destination =>
    rw [hdestination] at hdecoded
    exact iff_of_false (family_of_decode_eq_ok hbuild hdecoded).1 (Option.some_ne_none destination)

/-- The call of a draft creates a contract exactly if its transaction has no destination. -/
theorem Draft.Of.family_iff {interfaces : List Interface} {registry : Registry}
    (hbuild : Registry.build interfaces = .ok registry) {draft : Draft} {executed : Executed}
    (h : draft.Of registry executed) {call : Call} (hcall : draft.outcome = .ok call) :
    call.family = .contractCreation ↔ executed.transaction.destination = none := by
  obtain ⟨result, hresult, houtcome⟩ := h.outcome
  rw [hcall] at houtcome
  cases result with
  | error error => cases houtcome
  | ok decoded =>
    rw [executed.completed_ok] at houtcome
    cases houtcome
    rw [Call.family_withDeployedAddress]
    refine Registry.family_of_decodeTransaction hbuild ?_
    cases hdecode : registry.decodeTransaction executed.transaction with
    | ok other =>
      rw [hdecode] at hresult
      cases hresult
      rfl
    | error fault =>
      rw [hdecode] at hresult
      cases fault <;> cases hresult

/-- A destination that is told is one that is not empty. -/
theorem destination_filter_eq_none_iff (destination : Option String) :
    (destination.filter (· ≠ "")).map Text.lowercase = none ↔
      destination = none ∨ destination = some "" := by
  cases destination with
  | none => simp
  | some address => by_cases haddress : address = "" <;> simp [haddress]

theorem Draft.Of.detail_places {interfaces : List Interface} {registry : Registry}
    (hbuild : Registry.build interfaces = .ok registry) {draft : Draft} {executed : Executed}
    (h : draft.Of registry executed) (narrative : String) :
    (draft.detail narrative).Places executed.transaction.destination := by
  have hplaceless : (draft.detail narrative).IsPlaceless ↔
      executed.transaction.destination = none ∨ executed.transaction.destination = some "" := by
    rw [Detail.isPlaceless_iff, ← h.transaction]
    exact destination_filter_eq_none_iff draft.transaction.destination
  have hcreation (call : Call) (hcall : (draft.detail narrative).outcome = .ok call) :
      (draft.detail narrative).IsCreation ↔ executed.transaction.destination = none := by
    rw [Detail.isCreation_iff hcall]
    exact h.family_iff hbuild hcall
  refine ⟨hplaceless, hcreation, fun call hcall => ?_⟩
  rw [hplaceless, hcreation call hcall]
  cases executed.transaction.destination <;> simp

/-! ### Reports -/

/-- In every report a decoded call is a contract creation exactly if its transaction has no
destination, and has a null destination exactly if there is none or an empty one. -/
theorem Narrator.report_deployments {interfaces : List Interface} {registry : Registry}
    (hbuild : Registry.build interfaces = .ok registry) {narrator : Narrator}
    {transactions : List Transaction} {receipts : Option (List (Option Receipt))}
    {includeFailed : Bool} {session after : Session} {report : Report}
    (hrun : (narrator.report registry transactions receipts includeFailed).run.run session =
      (.ok report, after)) :
    List.Forall₂ (fun detail executed => Detail.Places detail executed.transaction.destination)
      report.details (Report.covered transactions receipts includeFailed) := by
  have hdetails := Narrator.report_returns (R := fun _ _ => True) (fun _ => Returns.any _) registry
    transactions receipts includeFailed session report after hrun
  refine hdetails.imp ?_
  rintro _ executed ⟨draft, narrative, rfl, -, hof⟩
  exact hof.detail_places hbuild narrative

namespace Day

/-- A transfer of nothing to an empty destination. -/
def nowhere : Transaction :=
  ⟨"0xd4", "0xdddddddddddddddddddddddddddddddddddddddd", some "", [], 0⟩

/-- The report on transactions, all of which count as successful, and the session after it. -/
def told (transactions : List Transaction) : Except Fault Report × Session :=
  (narrator.report Registry.known transactions none false).run.run .fresh

/-- The transfer has a null destination in the report, and is a call that creates no contract. -/
theorem nowhere_placeless : ∃ report after detail call,
    told [nowhere] = (.ok report, after) ∧ report.details = [detail] ∧
      detail.outcome = .ok call ∧ detail.IsPlaceless ∧ ¬ detail.IsCreation := by
  refine ⟨_, _, _, _, rfl, rfl, rfl, rfl, ?_⟩
  rw [Detail.isCreation_iff rfl]
  nofun

end Day

/-- On a day with a transfer to nowhere and a deployment, both are told without a destination, and
only the deployment as a creation. -/
theorem Narrator.report_deployments_day : ∃ report after nowhere deployment,
    Day.told [Day.nowhere, Day.deployment] = (.ok report, after) ∧
      report.details = [nowhere, deployment] ∧
      (nowhere.IsPlaceless ∧ ¬ nowhere.IsCreation) ∧
        (deployment.IsPlaceless ∧ deployment.IsCreation) := by
  obtain ⟨report, after, nowhere, deployment, hrun, hdetails, ⟨transfer, htransfer⟩,
      ⟨constructor, hconstructor⟩⟩ : ∃ report after nowhere deployment,
      Day.told [Day.nowhere, Day.deployment] = (.ok report, after) ∧
        report.details = [nowhere, deployment] ∧ (∃ call, nowhere.outcome = .ok call) ∧
          ∃ call, deployment.outcome = .ok call :=
    ⟨_, _, _, _, rfl, rfl, ⟨_, rfl⟩, _, rfl⟩
  have hplaces := Narrator.report_deployments Registry.build_known hrun
  rw [hdetails] at hplaces
  rcases hplaces with _ | ⟨hnowhere, _ | ⟨hdeployment, ⟨⟩⟩⟩
  refine ⟨report, after, nowhere, deployment, hrun, hdetails,
    ⟨hnowhere.placeless.2 (Or.inr rfl), fun hcreation => ?_⟩,
    hdeployment.placeless.2 (Or.inl rfl), (hdeployment.creation constructor hconstructor).2 rfl⟩
  have hnone : Day.nowhere.destination = none := (hnowhere.creation transfer htransfer).1 hcreation
  cases hnone

end Chronicle
