/-
# Marks of failed transactions

A report tells of a transaction in one of two ways. The sentence about a call
is marked if the transaction failed or is pending, but the generic sentence
about an input that cannot be decoded has no place for the mark. So of the
transactions that did not succeed a report marks those that were decoded, and
no others, whatever the registry, the narrator and the receipts are.

Reports with unknown registries may have no result. What is shown here of every
result goes through the same stages as the report: drafts follow the covered
transactions, narratives follow the requests, and details follow the drafts.

Key definitions: `Narration.Returns`, `Detail.Marked`, `Detail.Tells`,
`Draft.Narrated`.
Key theorems: `not_marked_undecodedNarrative`, `Narrator.narrateBatch_returns`,
`Draft.ofAll_returns`, `Narrator.report_returns`, `Narrator.report_marks`.
-/
import Chronicle.Proofs.Reports

namespace Chronicle

/-! ### Results of runs that may fail -/

namespace Narration

variable {α β : Type} {Q : α → Prop} {R : β → Prop}

/-- If the computation succeeds, from whatever session, its value is in `Q`. -/
def Returns (x : Narration α) (Q : α → Prop) : Prop :=
  ∀ session a after, x.run.run session = (.ok a, after) → Q a

namespace Returns

theorem any (x : Narration α) : Returns x fun _ => True := fun _ _ _ _ => trivial

theorem pure {a : α} (ha : Q a) : Returns (Pure.pure a) Q := by
  intro session b after hrun
  cases hrun
  exact ha

theorem throw (fault : Fault) : Returns (MonadExcept.throw fault) Q := by
  intro session a after hrun
  cases hrun

theorem ofExcept {answer : Except Fault α} (h : ∀ a, answer = .ok a → Q a) :
    Returns (Narration.ofExcept answer) Q := by
  intro session a after hrun
  have hanswer : answer = .ok a := congrArg Prod.fst hrun
  exact h a hanswer

theorem bind {x : Narration α} {f : α → Narration β} (hx : Returns x Q)
    (hf : ∀ a, Q a → Returns (f a) R) : Returns (x >>= f) R := by
  intro session b after hrun
  obtain ⟨a, mid, hfirst, hrest⟩ := run_bind_eq_ok hrun
  exact hf a (hx session a mid hfirst) mid b after hrest

end Returns

end Narration

open Narration (Returns)

/-! ### What a detail tells -/

/-- The narrative of the detail ends with the note on a failure and the hash. -/
def Detail.Marked (detail : Detail) : Prop :=
  ∃ body, detail.narrative = body ++ Narrator.failedNote ++
    (" [tx: " ++ (TransactionHash.text detail.hash).shown ++ "]")

/-- The detail tells about the transaction: the result of decoding it, a sentence about its call or
else the generic one, and a mark if it did not succeed but was decoded. -/
structure Detail.Tells (registry : Registry) (detail : Detail) (executed : Executed) : Prop where
  hash : detail.hash = executed.transaction.hash
  status : detail.status = executed.status
  outcome : ∃ result,
    Registry.placed (registry.decodeTransaction executed.transaction) = .ok result ∧
      detail.outcome = executed.completed result
  called : ∀ call, detail.outcome = .ok call → ∃ body, detail.narrative =
    body ++ Narrator.ending detail.status.succeeded (.text detail.hash)
  undecoded : ∀ error, detail.outcome = .error error →
    detail.narrative = undecodedNarrative executed.transaction
  marked : detail.status.succeeded = false →
    (detail.Marked ↔ ∃ call, detail.outcome = .ok call)

/-! ### The generic sentence has no mark -/

namespace Text

theorem length_abbreviated_le (s : String) : (abbreviated s).toList.length ≤ 13 := by
  unfold abbreviated
  dsimp only
  split
  · simp only [String.toList_ofList, List.length_append, List.length_take, List.length_drop,
      List.length_cons, List.length_nil]
    omega
  · omega

end Text

/-- Between the place of a contract and the words before it there is an end of a word that the note
does not have at any place that the contract leaves. -/
theorem failedNote_ne_place {before place body : List Char} (hplace : place.length ≤ 13) :
    before ++ ['t', ' '] ++ place ≠ body ++ Narrator.failedNote.toList := by
  intro heq
  have hreverse := congrArg List.reverse heq
  simp only [List.reverse_append, List.append_assoc] at hreverse
  have hat (k : Nat) : (place.reverse ++ (['t', ' '].reverse ++ before.reverse))[k]? =
      (Narrator.failedNote.toList.reverse ++ body.reverse)[k]? := congrArg (·[k]?) hreverse
  have hspace : (Narrator.failedNote.toList.reverse ++ body.reverse)[place.length]? = some ' ' := by
    rw [← hat, List.getElem?_append_right (by simp)]
    simp
  have hletter : (Narrator.failedNote.toList.reverse ++ body.reverse)[place.length + 1]? =
      some 't' := by
    rw [← hat, List.getElem?_append_right (by simp)]
    simp
  have hlength : Narrator.failedNote.toList.reverse.length = 21 := by decide
  rw [List.getElem?_append_left (by omega)] at hspace hletter
  -- The note is read backwards at the places that are left, none of which ends a word with `t`.
  have hnone : ∀ k ≤ 13, Narrator.failedNote.toList.reverse[k]? = some ' ' →
      Narrator.failedNote.toList.reverse[k + 1]? ≠ some 't' := by decide
  exact hnone place.length hplace hspace hletter

/-- What the generic sentence says before the hash: that a contract was deployed, or which contract
was called. -/
theorem undecodedNarrative_eq (transaction : Transaction) : ∃ head : String,
    undecodedNarrative transaction =
      head ++ (" [tx: " ++ (TransactionHash.text transaction.hash).shown ++ "]") ∧
    ((∃ sender, head = sender ++ " deployed contract") ∨
      ∃ sender place, head = sender ++ " called contract at " ++ place ∧
        place.toList.length ≤ 13) := by
  unfold undecodedNarrative
  dsimp only
  split
  · have hsplit : " deployed contract [tx: " = " deployed contract" ++ " [tx: " := rfl
    refine ⟨Text.abbreviated (Text.lowercase transaction.sender) ++ " deployed contract", ?_,
      Or.inl ⟨_, rfl⟩⟩
    simp only [hsplit, String.append_assoc]
  · next address _ =>
    refine ⟨Text.abbreviated (Text.lowercase transaction.sender) ++ " called contract at " ++
      Text.abbreviated (Text.lowercase address), ?_, Or.inr ⟨_, _, rfl, ?_⟩⟩
    · simp only [String.append_assoc]
    · exact Text.length_abbreviated_le _

/-- The generic sentence never has the mark in front of its hash. -/
theorem not_marked_undecodedNarrative (transaction : Transaction) (body : String) :
    undecodedNarrative transaction ≠ body ++ Narrator.failedNote ++
      (" [tx: " ++ (TransactionHash.text transaction.hash).shown ++ "]") := by
  obtain ⟨head, hnarrative, hhead⟩ := undecodedNarrative_eq transaction
  rw [hnarrative]
  intro heq
  have hlists := congrArg String.toList heq
  simp only [String.toList_append] at hlists
  have hbefore : head.toList = body.toList ++ Narrator.failedNote.toList :=
    List.append_cancel_right hlists
  rcases hhead with ⟨sender, rfl⟩ | ⟨sender, place, rfl, hplace⟩
  · have hlast := congrArg List.getLast? hbefore
    have hdeployed : " deployed contract".toList.getLast? = some 't' := by decide
    have hnote : Narrator.failedNote.toList.getLast? = some ')' := by decide
    rw [String.toList_append, List.getLast?_append, List.getLast?_append, hdeployed, hnote] at hlast
    cases hlast
  · have hwords : " called contract at ".toList = " called contract a".toList ++ ['t', ' '] := by
      decide
    rw [String.toList_append, String.toList_append, hwords, ← List.append_assoc] at hbefore
    exact failedNote_ne_place hplace hbefore

/-! ### Narratives of requests -/

namespace Narrator

variable {narrator : Narrator} {Q : Request → String → Prop}

/-- The values of outcomes are there if none of them is a fault. -/
theorem eq_of_collect : ∀ {outcomes : List (Except Fault String)} {texts : List String},
    collect outcomes = .ok texts → outcomes = texts.map .ok
  | [], texts, h => by
    cases h
    rfl
  | outcome :: outcomes, texts, h => by
    obtain ⟨text, rfl, hrest⟩ := bind_eq_ok.1 h
    obtain ⟨rest, hcollect, htexts⟩ := bind_eq_ok.1 hrest
    cases htexts
    rw [eq_of_collect hcollect, List.map_cons]

/-- Each outcome that is a text is one that its request can have. -/
theorem forall₂_outcomes : ∀ {requests : List Request},
    (∀ request ∈ requests, Returns (narrator.narrate request) (Q request)) → ∀ session,
      List.Forall₂ (fun request outcome => ∀ text, outcome = .ok text → Q request text) requests
        ((narrator.outcomes requests).run session).1
  | [], _, _ => .nil
  | request :: requests, h, session => by
    have hfirst := h request List.mem_cons_self session
    cases hrun : (narrator.narrate request).run.run session with
    | mk outcome mid =>
      have hrest := forall₂_outcomes (fun r hr => h r (List.mem_cons_of_mem request hr)) mid
      have houtcomes : ((narrator.outcomes (request :: requests)).run session).1 =
          outcome :: ((narrator.outcomes requests).run mid).1 := by
        rw [outcomes, StateT.run_bind, hrun]
        rfl
      rw [houtcomes]
      refine .cons (fun text htext => ?_) hrest
      subst htext
      exact hfirst text mid hrun

theorem narrateBatch_returns {requests : List Request}
    (h : ∀ request ∈ requests, Returns (narrator.narrate request) (Q request)) :
    Returns (narrator.narrateBatch requests) fun texts => List.Forall₂ Q requests texts := by
  intro session texts after hrun
  have hcollect : collect ((narrator.outcomes requests).run session).1 = .ok texts :=
    congrArg Prod.fst hrun
  have houtcomes := forall₂_outcomes h session
  rw [eq_of_collect hcollect, List.forall₂_map_right_iff] at houtcomes
  exact houtcomes.imp fun request text htext => htext text rfl

theorem narrate_returns (narrator : Narrator) (request : Request) :
    Returns (narrator.narrate request) fun narrative =>
      ∃ body, narrative = body ++ ending request.succeeded request.hash := by
  rw [narrate_eq]
  refine Returns.bind (Returns.any _) fun sender _ => ?_
  refine Returns.bind (Returns.any _) fun contract _ => ?_
  refine Returns.bind (Returns.any _) fun answers _ => ?_
  exact Returns.pure ⟨(sentenceOf request).text sender contract answers, rfl⟩

end Narrator

/-! ### Drafts of covered transactions -/

/-- The receipts of a report are those of its transactions. -/
theorem Executed.filter_isReported_of_ofReceipts {transactions : List Transaction}
    {receipts : Option (List (Option Receipt))} {executed : List Executed}
    (h : ofReceipts transactions receipts = .ok executed) (includeFailed : Bool) :
    executed.filter (·.isReported includeFailed) =
      Report.covered transactions receipts includeFailed := by
  have hreceipts : ∀ list ∈ receipts, list.length = transactions.length := by
    rintro list ⟨⟩
    unfold ofReceipts at h
    by_cases hlength : list.length = transactions.length
    · exact hlength
    · simp [hlength] at h
  obtain ⟨_, hexecuted, hcovered⟩ := ofReceipts_covered hreceipts includeFailed
  cases h.symm.trans hexecuted
  exact hcovered

namespace Draft

variable {registry : Registry}

/-- The draft is about the transaction and has the result of decoding it. -/
structure Of (registry : Registry) (draft : Draft) (executed : Executed) : Prop where
  transaction : draft.transaction = executed.transaction
  status : draft.status = executed.status
  outcome : ∃ result,
    Registry.placed (registry.decodeTransaction executed.transaction) = .ok result ∧
      draft.outcome = executed.completed result

theorem ofExecuted_returns (registry : Registry) (executed : Executed) :
    Returns (ofExecuted registry executed) fun draft => draft.Of registry executed := by
  unfold ofExecuted
  dsimp only
  split
  · next call hcall =>
    refine Returns.pure ⟨rfl, rfl, .ok call, ?_, (executed.completed_ok call).symm⟩
    rw [hcall]
    rfl
  · next error herror =>
    refine Returns.bind (Returns.any _) fun _ _ => ?_
    exact Returns.pure ⟨rfl, rfl, .error error, by rw [herror]; rfl, rfl⟩
  · exact Returns.throw _

/-- The drafts follow the covered transactions. -/
theorem ofAll_returns (registry : Registry) : ∀ covered : List Executed,
    Returns (ofAll registry covered) fun drafts => List.Forall₂ (Of registry) drafts covered
  | [] => Returns.pure .nil
  | executed :: covered => by
    refine Returns.bind (ofExecuted_returns registry executed) fun draft hdraft => ?_
    refine Returns.bind (ofAll_returns registry covered) fun drafts hdrafts => ?_
    exact Returns.pure (.cons hdraft hdrafts)

/-- What the narrative of a draft is: a sentence about its call, or else the generic one. -/
structure Told (draft : Draft) (narrative : String) : Prop where
  called : ∀ call, draft.outcome = .ok call → ∃ body, narrative =
    body ++ Narrator.ending draft.status.succeeded (.text draft.transaction.hash)
  undecoded : ∀ error, draft.outcome = .error error →
    narrative = undecodedNarrative draft.transaction

theorem told_of_request {draft : Draft} {request : Request} {narrative : String}
    (hrequest : draft.request? = some request)
    (h : ∃ body, narrative = body ++ Narrator.ending request.succeeded request.hash) :
    draft.Told narrative := by
  unfold request? at hrequest
  split at hrequest
  · next call hcall =>
    cases hrequest
    exact ⟨fun _ _ => h, fun error herror => by rw [hcall] at herror; cases herror⟩
  · cases hrequest

theorem told_undecodedNarrative {draft : Draft} {error : DecodingError}
    (h : draft.outcome = .error error) : draft.Told (undecodedNarrative draft.transaction) where
  called := fun call hcall => by rw [h] at hcall; cases hcall
  undecoded := fun _ _ => rfl

/-- A draft with its narrative makes a detail that tells about the transaction. -/
theorem Told.detail_tells {draft : Draft} {narrative : String} {executed : Executed}
    (htold : draft.Told narrative) (hof : draft.Of registry executed) :
    (draft.detail narrative).Tells registry executed where
  hash := congrArg Transaction.hash hof.transaction
  status := hof.status
  outcome := hof.outcome
  called := htold.called
  undecoded := fun error herror => by
    rw [← hof.transaction]
    exact htold.undecoded error herror
  marked := by
    intro hstatus
    constructor
    · rintro ⟨body, hbody⟩
      cases houtcome : draft.outcome with
      | ok call => exact ⟨call, houtcome⟩
      | error error =>
        have hgeneric : narrative = undecodedNarrative draft.transaction :=
          htold.undecoded error houtcome
        exact absurd (hgeneric.symm.trans hbody) (not_marked_undecodedNarrative _ body)
    · rintro ⟨call, hcall⟩
      obtain ⟨body, hbody⟩ := htold.called call hcall
      have hfailed : draft.status.succeeded = false := hstatus
      refine ⟨body, hbody.trans ?_⟩
      simp [Narrator.ending, hfailed, detail, String.append_assoc]

end Draft

/-! ### Reports -/

/-- What the narrative of a draft is: one that its request can have, or else the generic one. -/
structure Draft.Narrated (R : Request → String → Prop) (draft : Draft) (narrative : String) :
    Prop where
  asked : ∀ request, draft.request? = some request → R request narrative
  undecoded : ∀ error, draft.outcome = .error error →
    narrative = undecodedNarrative draft.transaction

theorem Draft.request?_eq_none_iff {draft : Draft} :
    draft.request? = none ↔ ∃ error, draft.outcome = .error error := by
  unfold request?
  cases draft.outcome <;> simp

/-- The details of a report follow the covered transactions one by one, and tell of each what the
narrator returns for its request, or else the generic narrative. -/
theorem Narrator.report_returns {narrator : Narrator} {R : Request → String → Prop}
    (hnarrate : ∀ request, Returns (narrator.narrate request) (R request)) (registry : Registry)
    (transactions : List Transaction) (receipts : Option (List (Option Receipt)))
    (includeFailed : Bool) :
    Returns (narrator.report registry transactions receipts includeFailed) fun report =>
      List.Forall₂ (fun detail executed => ∃ draft narrative,
        detail = Draft.detail draft narrative ∧ draft.Narrated R narrative ∧
          draft.Of registry executed) report.details
        (Report.covered transactions receipts includeFailed) := by
  refine Returns.bind (Returns.ofExcept fun _ h => h) fun executed hexecuted => ?_
  rw [Executed.filter_isReported_of_ofReceipts hexecuted]
  refine Returns.bind (Draft.ofAll_returns registry _) fun drafts hdrafts => ?_
  refine Returns.bind (narrateBatch_returns fun request _ => hnarrate request)
    fun narratives hnarratives => ?_
  have hdetails := Draft.forall₂_details (Q := Draft.Narrated R)
    (fun draft request narrative hrequest hnarrative => {
      asked := fun other hother => by
        cases hrequest.symm.trans hother
        exact hnarrative
      undecoded := fun error herror => by
        cases (Draft.request?_eq_none_iff.2 ⟨error, herror⟩).symm.trans hrequest })
    (fun draft error herror => {
      asked := fun request hrequest => by
        cases (Draft.request?_eq_none_iff.2 ⟨error, herror⟩).symm.trans hrequest
      undecoded := fun _ _ => rfl }) hnarratives
  refine Returns.pure (forall₂_trans ?_ hdetails hdrafts)
  rintro _ draft executed ⟨narrative, rfl, hnarrative⟩ hof
  exact ⟨draft, narrative, rfl, hnarrative, hof⟩

/-- The details of a report tell about the covered transactions, one by one. Those that did not
succeed are marked exactly if they were decoded. -/
theorem Narrator.report_marks {narrator : Narrator} {registry : Registry}
    {transactions : List Transaction} {receipts : Option (List (Option Receipt))}
    {includeFailed : Bool} {session after : Session} {report : Report}
    (hrun : (narrator.report registry transactions receipts includeFailed).run.run session =
      (.ok report, after)) :
    List.Forall₂ (Detail.Tells registry) report.details
      (Report.covered transactions receipts includeFailed) := by
  have hreport :
      Returns (narrator.report registry transactions receipts includeFailed) fun report =>
        List.Forall₂ (Detail.Tells registry) report.details
          (Report.covered transactions receipts includeFailed) := by
    refine Returns.bind (Returns.ofExcept fun _ h => h) fun executed hexecuted => ?_
    rw [Executed.filter_isReported_of_ofReceipts hexecuted]
    refine Returns.bind (Draft.ofAll_returns registry _) fun drafts hdrafts => ?_
    refine Returns.bind (narrateBatch_returns fun request _ => narrator.narrate_returns request)
      fun narratives hnarratives => ?_
    have hdetails := Draft.forall₂_details (Q := Draft.Told)
      (fun draft request narrative => Draft.told_of_request)
      (fun draft error => Draft.told_undecodedNarrative) hnarratives
    refine Returns.pure (forall₂_trans ?_ hdetails hdrafts)
    rintro _ draft executed ⟨narrative, rfl, htold⟩ hof
    exact htold.detail_tells hof
  exact hreport session report after hrun

/-! ### A day on which everything fails -/

namespace Day

/-- Neither of the transactions succeeded. -/
def failures : List (Option Receipt) := [some ⟨false, none⟩, some ⟨false, some "0xD0"⟩]

/-- The report on transactions with all failed ones, and the session after it. -/
def failedRun (transactions : List Transaction) (receipts : List (Option Receipt)) :
    Except Fault Report × Session :=
  (narrator.report Registry.known transactions (some receipts) true).run.run .fresh

theorem undecodedNarrative_short :
    undecodedNarrative short = "0xaaaa...aaaa called contract at 0xbbbb...bbbb [tx: 0xa1]" := by
  decide +kernel

/-- The input that is too short failed, and is reported on without the mark. -/
theorem report_unmarked : ∃ report after detail,
    failedRun [short] [some ⟨false, none⟩] = (.ok report, after) ∧ report.details = [detail] ∧
      detail.hash = "0xa1" ∧ detail.status = .failed ∧
      detail.narrative = "0xaaaa...aaaa called contract at 0xbbbb...bbbb [tx: 0xa1]" ∧
      ¬ detail.Marked := by
  refine ⟨_, _, _, rfl, rfl, rfl, rfl, undecodedNarrative_short, ?_⟩
  rintro ⟨body, hbody⟩
  exact not_marked_undecodedNarrative short body hbody

end Day

/-- Of two failures the deployment is marked, and the input that is too short is not. -/
theorem Narrator.report_marks_day : ∃ report after,
    Day.failedRun [Day.short, Day.deployment] Day.failures = (.ok report, after) ∧
      ∃ short deployment, report.details = [short, deployment] ∧
        (short.status = .failed ∧ ¬ short.Marked) ∧
          (deployment.status = .failed ∧ deployment.Marked) := by
  obtain ⟨report, after, hrun⟩ : ∃ report after,
      Day.failedRun [Day.short, Day.deployment] Day.failures = (.ok report, after) := ⟨_, _, rfl⟩
  have htells := Narrator.report_marks hrun
  obtain ⟨details, hdetails⟩ : ∃ details, report.details = details := ⟨_, rfl⟩
  rw [hdetails] at htells
  rcases htells with _ | ⟨hshort, _ | ⟨hdeployment, ⟨⟩⟩⟩
  refine ⟨report, after, hrun, _, _, hdetails, ⟨hshort.status, ?_⟩, hdeployment.status, ?_⟩
  · rw [hshort.marked (by rw [hshort.status]; rfl)]
    rintro ⟨call, hcall⟩
    obtain ⟨result, hresult, houtcome⟩ := hshort.outcome
    cases hresult
    rw [houtcome] at hcall
    cases hcall
  · rw [hdeployment.marked (by rw [hdeployment.status]; rfl)]
    obtain ⟨result, hresult, houtcome⟩ := hdeployment.outcome
    cases hresult
    exact ⟨_, houtcome⟩

end Chronicle
