/-
# Addresses in full

A narrator that shows addresses in full, and has neither a wallet nor labels,
calls everyone by the normal form of the address. Every sentence begins with the
sender, so the narrative of a decoded transaction begins with the whole address
of its sender. The generic sentence does not ask the narrator: it abbreviates the
sender all the same, and the points in the middle tell it from the whole address.

Key definitions: `Narrator.IsExplicit`, `Sentence.Begins`, `Detail.Names`.
Key theorems: `Call.sentence_begins`, `Narrator.narrate_explicit`,
`Address.abbreviated_ne_normal`, `Narrator.report_names`.
-/
import Chronicle.Proofs.FailureMarks
import Chronicle.Proofs.Payments
import Chronicle.Proofs.SentenceForms
import Chronicle.Proofs.Spellings

namespace Chronicle

open Narration (Returns)

/-! ### Sentences begin with the sender -/

/-- The sentence begins with the sender, or asks for an amount that cannot be told. -/
def Sentence.Begins (sentence : Sentence) : Prop :=
  sentence.pieces.head? = some .sender ∨
    ∃ v decimals fault, .scaled v decimals ∈ sentence.queries ∧
      Amount.text v decimals = .error fault

/-- Whatever the family and the function, the sentence begins with the sender. -/
theorem Call.sentence_begins (call : Call) (token : Value) : (call.sentence token).Begins := by
  rcases call.sentence_names token with ⟨_, _, hpieces, -, -⟩ | huntold
  · exact Or.inl (by rw [hpieces]; rfl)
  · exact Or.inr huntold

/-- The text of a sentence that begins with the sender begins with what the sender is called. -/
theorem Sentence.text_of_head {sentence : Sentence} (h : sentence.pieces.head? = some .sender)
    (sender contract : String) (answers : List String) :
    ∃ rest, sentence.text sender contract answers = sender ++ rest := by
  obtain ⟨pieces, hpieces⟩ := List.head?_eq_some_iff.1 h
  refine ⟨String.join (pieces.map (Piece.text sender contract answers)), ?_⟩
  rw [text, hpieces, List.map_cons, String.join_cons]
  rfl

/-! ### Narrators that show addresses in full -/

namespace Narrator

variable {narrator : Narrator}

/-- The narrator shows addresses in full, and has neither a wallet nor labels to show instead. -/
structure IsExplicit (narrator : Narrator) : Prop where
  wallet : narrator.config.activeWallet = none
  full : narrator.config.fullAddresses = true
  resolver : narrator.resolver = none

theorem displayAddress_explicit (h : narrator.IsExplicit) (isLocal : Bool) (address : String) :
    narrator.displayAddress isLocal address = pure (Address.spelled address) := by
  -- The source of decimals has no part in what an address is called.
  have hfrank : IsFrank { narrator with tokens := none } := ⟨h.wallet, h.full, h.resolver, rfl⟩
  have hframe := displayAddress_frank hfrank isLocal address
  rw [displayAddress_eq] at hframe ⊢
  exact hframe

/-- If one of the queries is never answered, the queries are not. -/
theorem answers_returns_of_mem {isLocal : Bool} {query : Query}
    (h : Returns (narrator.answer isLocal query) fun _ => False) : ∀ {queries : List Query},
      query ∈ queries → Returns (narrator.answers isLocal queries) fun _ => False
  | first :: queries, hmem => by
    rw [answers_cons]
    rcases List.mem_cons.1 hmem with rfl | hmem
    · exact Returns.bind h fun _ hfalse => hfalse.elim
    · refine Returns.bind (Returns.any _) fun _ _ => ?_
      exact Returns.bind (answers_returns_of_mem h hmem) fun _ hfalse => hfalse.elim

/-- The queries of a sentence that is never told are not answered. -/
theorem answers_returns_of_untold {sentence : Sentence} (h : sentence.Untold) (isLocal : Bool) :
    Returns (narrator.answers isLocal sentence.queries) fun _ => False := by
  obtain ⟨v, decimals, fault, hquery, hfault⟩ := h
  have hnever : Returns (narrator.answer isLocal (.scaled v decimals)) fun _ => False := by
    show Returns (Narration.ofExcept (Amount.text v decimals)) _
    rw [hfault]
    exact Returns.ofExcept nofun
  exact answers_returns_of_mem hnever hquery

/-- The narrative of a call begins with the whole address of the sender. -/
theorem narrate_explicit (h : narrator.IsExplicit) (request : Request) :
    Returns (narrator.narrate request) fun narrative =>
      ∃ rest, narrative = Address.spelled request.sender ++ rest := by
  rw [narrate_eq, displayAddress_explicit h, pure_bind]
  refine Returns.bind (Returns.any _) fun contract _ => ?_
  have hbegins : (sentenceOf request).Begins := request.call.sentence_begins _
  rcases hbegins with hhead | huntold
  · refine Returns.bind (Returns.any _) fun answers _ => Returns.pure ?_
    obtain ⟨rest, hrest⟩ := Sentence.text_of_head hhead (Address.spelled request.sender) contract
      answers
    exact ⟨rest ++ ending request.succeeded request.hash, by rw [hrest, String.append_assoc]⟩
  · -- Without its amount the sentence is never told, so it does not matter how it begins.
    exact Returns.bind (answers_returns_of_untold huntold _) fun _ hfalse => hfalse.elim

end Narrator

/-! ### The generic sentence abbreviates the sender -/

theorem undecodedNarrative_startsWith (transaction : Transaction) : ∃ rest,
    undecodedNarrative transaction =
      Text.abbreviated (Text.lowercase transaction.sender) ++ rest := by
  unfold undecodedNarrative
  dsimp only
  split
  · exact ⟨_, by rw [String.append_assoc, String.append_assoc]⟩
  · exact ⟨_, by simp only [String.append_assoc]; rfl⟩

/-- Behind the first six characters of a text that was abbreviated there is a point. -/
theorem Text.getElem?_abbreviated {s : String} (h : 10 < s.toList.length) :
    (abbreviated s).toList[6]? = some '.' := by
  have hsix : (s.toList.take 6).length = 6 := by
    rw [List.length_take]
    omega
  unfold abbreviated
  dsimp only
  rw [if_pos h, String.toList_ofList, List.append_assoc, List.getElem?_append_right (by omega),
    hsix]
  rfl

/-- The abbreviation of an address does not begin a text that its normal form begins. -/
theorem Address.abbreviated_ne_normal {sender normal : String} (h : normal? sender = some normal)
    (rest other : String) :
    Text.abbreviated (Text.lowercase sender) ++ rest ≠ normal ++ other := by
  obtain ⟨ds, hlength, hdigits, -, hnormal, hlower⟩ := lowercase_of_normal? h
  have hlong : 10 < (Text.lowercase sender).toList.length := by
    rcases hlower with hlower | hlower
    · rw [hlower, List.length_cons, List.length_cons]
      omega
    · rw [hlower]
      omega
  have hpoint := Text.getElem?_abbreviated hlong
  obtain ⟨hsix, -⟩ := List.getElem?_eq_some_iff.1 hpoint
  intro heq
  have hat := congrArg (fun s : String => s.toList[6]?) heq
  simp only [String.toList_append] at hat
  rw [List.getElem?_append_left hsix, hpoint, hnormal, List.cons_append, List.cons_append,
    List.getElem?_cons_succ, List.getElem?_cons_succ, List.getElem?_append_left (by omega)] at hat
  have hdigit := hdigits '.' (List.mem_of_getElem? hat.symm)
  exact absurd hdigit (by decide)

/-! ### Reports -/

namespace Detail

/-- The narrative of the detail begins with the text. -/
def StartsWith (detail : Detail) (s : String) : Prop := ∃ rest, detail.narrative = s ++ rest

/-- The narrative begins with all of the sender's address if the transaction was decoded, and only
then; else it begins with the two ends of the address. -/
structure Names (detail : Detail) (sender : String) : Prop where
  full : ∃ normal, Address.normal? sender = some normal ∧ normal.toList.length = 42 ∧
    (detail.StartsWith normal ↔ ∃ call, detail.outcome = .ok call)
  abbreviated : ∀ error, detail.outcome = .error error →
    detail.StartsWith (Text.abbreviated (Text.lowercase sender))

end Detail

/-- A draft with a call has a request, which is from its sender. -/
theorem Draft.exists_request {draft : Draft} {call : Call} (h : draft.outcome = .ok call) :
    ∃ request, draft.request? = some request ∧ request.sender = draft.transaction.sender := by
  unfold request?
  rw [h]
  exact ⟨_, rfl, rfl⟩

/-- A draft whose narrative begins with all of the sender's address, unless it is the generic one,
makes a detail that names the sender. -/
theorem Draft.Narrated.detail_names {draft : Draft} {narrative : String}
    (h : draft.Narrated (fun request narrative =>
      ∃ rest, narrative = Address.spelled request.sender ++ rest) narrative)
    (hsender : Address.isAddress draft.transaction.sender = true) :
    (draft.detail narrative).Names draft.transaction.sender where
  full := by
    have hnormal := Address.normal?_eq_some_spelled hsender
    obtain ⟨ds, hlength, -, -, hlist, -⟩ := Address.lowercase_of_normal? hnormal
    refine ⟨Address.spelled draft.transaction.sender, hnormal, ?_, ?_, ?_⟩
    · rw [hlist, List.length_cons, List.length_cons, hlength]
    · rintro ⟨other, hother⟩
      cases houtcome : draft.outcome with
      | ok call => exact ⟨call, houtcome⟩
      | error error =>
        obtain ⟨rest, hrest⟩ := undecodedNarrative_startsWith draft.transaction
        have hgeneric : narrative = undecodedNarrative draft.transaction :=
          h.undecoded error houtcome
        have heq := hrest.symm.trans (hgeneric.symm.trans hother)
        exact absurd heq (Address.abbreviated_ne_normal hnormal rest other)
    · rintro ⟨call, hcall⟩
      obtain ⟨request, hrequest, hsame⟩ := exists_request hcall
      rw [← hsame]
      exact h.asked request hrequest
  abbreviated := by
    intro error herror
    obtain ⟨rest, hrest⟩ := undecodedNarrative_startsWith draft.transaction
    exact ⟨rest, (h.undecoded error herror).trans hrest⟩

/-- A report by a narrator that shows addresses in full names the senders of all transactions that
were decoded in full, and of no others. -/
theorem Narrator.report_names {narrator : Narrator} (hnarrator : narrator.IsExplicit)
    {registry : Registry} {transactions : List Transaction}
    (hsenders : ∀ transaction ∈ transactions, Address.isAddress transaction.sender = true)
    {receipts : Option (List (Option Receipt))} {includeFailed : Bool} {session after : Session}
    {report : Report}
    (hrun : (narrator.report registry transactions receipts includeFailed).run.run session =
      (.ok report, after)) :
    List.Forall₂ (fun detail executed => Detail.Names detail executed.transaction.sender)
      report.details (Report.covered transactions receipts includeFailed) := by
  have hdetails := Narrator.report_returns (narrate_explicit hnarrator) registry transactions
    receipts includeFailed session report after hrun
  have hcovered : List.Forall₂ (fun executed other => executed = other ∧
      Address.isAddress other.transaction.sender = true)
      (Report.covered transactions receipts includeFailed)
      (Report.covered transactions receipts includeFailed) :=
    List.forall₂_same.2 fun executed hmem => ⟨rfl, hsenders _ (Report.mem_of_mem_covered hmem)⟩
  refine forall₂_trans ?_ hdetails hcovered
  rintro _ executed _ ⟨draft, narrative, rfl, hnarrated, hof⟩ ⟨rfl, hsender⟩
  rw [← hof.transaction] at hsender ⊢
  exact hnarrated.detail_names hsender

namespace Day

/-- A narrator without sources that shows addresses in full. -/
def explicitNarrator : Narrator := ⟨⟨none, true, none⟩, none, none⟩

theorem isExplicit_explicitNarrator : explicitNarrator.IsExplicit := ⟨rfl, rfl, rfl⟩

/-- The report on transactions with addresses in full, and the session after it. -/
def explicitRun (transactions : List Transaction) : Except Fault Report × Session :=
  (explicitNarrator.report Registry.known transactions none false).run.run .fresh

/-- The sender of the input that is too short is abbreviated. -/
theorem short_abbreviated : ∃ report after detail,
    explicitRun [short] = (.ok report, after) ∧ report.details = [detail] ∧
      detail.narrative = "0xaaaa...aaaa called contract at 0xbbbb...bbbb [tx: 0xa1]" ∧
      ¬ detail.StartsWith "0xaaaaaaaaaaaaaaaaaaaaaaaaaaaaaaaaaaaaaaaa" := by
  refine ⟨_, _, _, rfl, rfl, undecodedNarrative_short, ?_⟩
  rintro ⟨other, hother⟩
  obtain ⟨rest, hrest⟩ := undecodedNarrative_startsWith short
  have hnormal : Address.normal? short.sender =
      some "0xaaaaaaaaaaaaaaaaaaaaaaaaaaaaaaaaaaaaaaaa" := by decide +kernel
  exact Address.abbreviated_ne_normal hnormal rest other (hrest.symm.trans hother)

end Day

/-- With addresses in full, the sender of a deployment is named in full, and the sender of an input
that is too short is not. -/
theorem Narrator.report_names_day : ∃ report after short deployment,
    Day.explicitRun [Day.short, Day.deployment] = (.ok report, after) ∧
      report.details = [short, deployment] ∧
      ¬ short.StartsWith "0xaaaaaaaaaaaaaaaaaaaaaaaaaaaaaaaaaaaaaaaa" ∧
        deployment.StartsWith "0xcccccccccccccccccccccccccccccccccccccccc" := by
  obtain ⟨report, after, short, deployment, hrun, hdetails, ⟨error, herror⟩, ⟨call, hcall⟩⟩ :
      ∃ report after short deployment,
      Day.explicitRun [Day.short, Day.deployment] = (.ok report, after) ∧
        report.details = [short, deployment] ∧ (∃ error, short.outcome = .error error) ∧
          ∃ call, deployment.outcome = .ok call :=
    ⟨_, _, _, _, rfl, rfl, ⟨_, rfl⟩, _, rfl⟩
  have hsenders : ∀ transaction ∈ [Day.short, Day.deployment],
      Address.isAddress transaction.sender = true := by decide +kernel
  have hnames := Narrator.report_names Day.isExplicit_explicitNarrator hsenders hrun
  rw [hdetails] at hnames
  rcases hnames with _ | ⟨hshort, _ | ⟨hdeployment, ⟨⟩⟩⟩
  obtain ⟨normal, hnormal, -, hiff⟩ := hshort.full
  obtain ⟨normal', hnormal', -, hiff'⟩ := hdeployment.full
  have hfull : Address.normal? Day.short.sender =
      some "0xaaaaaaaaaaaaaaaaaaaaaaaaaaaaaaaaaaaaaaaa" := by decide +kernel
  have hfull' : Address.normal? Day.deployment.sender =
      some "0xcccccccccccccccccccccccccccccccccccccccc" := by decide +kernel
  cases hfull.symm.trans hnormal
  cases hfull'.symm.trans hnormal'
  refine ⟨report, after, short, deployment, hrun, hdetails, fun hstarts => ?_,
    hiff'.2 ⟨call, hcall⟩⟩
  obtain ⟨other, hother⟩ := hiff.1 hstarts
  rw [herror] at hother
  cases hother

end Chronicle
