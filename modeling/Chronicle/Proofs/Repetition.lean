/-
# Requests that are made again

Two requests may ask about one token at the same time. Then the answer that comes
last counts, and if the service cannot tell, it is the default of the call that
the last question belongs to. So what a narrative has read may be overwritten
while other requests are on their way. But once all of them are over, labels and
decimals come only to keys that have none, and whatever a request with a narrative
has read is there. So from then on all occurrences of the request are alike,
although the service may answer otherwise by then. And if no two requests ever
wait for the decimals of one token, the first occurrence is no different.

The exception is a reply with a number too long for the warning about it. Nothing
is kept of such a reply, so that the request, which fails then, may have a
narrative later.

Key definitions: `Narrator.LabelsFixed`, `Narrator.Garbles`, `Session.Grows`,
`Narrator.pinned`, `Inquiry.recalled`, `Narrator.Fits`, `Gathering.Apart`, `Gathering.Recurs`.
Key theorems: `Narrator.settle_learns`, `Narrator.Moves.recalls`, `Gathering.follow_recalls`,
`Gathering.follow_traced`, `Gathering.follow_recurs`.
-/
import Chronicle.Proofs.BatchIndependence
import Chronicle.Proofs.Gatherings

namespace Chronicle

namespace Narrator

/-- The resolver answers alike about each address, whatever was asked before. -/
def LabelsFixed (narrator : Narrator) : Prop :=
  ∀ resolver ∈ narrator.resolver, ∀ asked address,
    resolver.answer asked address = resolver.answer [] address

/-- The service may give a reply that no warning can be written about, for a number in it is too
long. -/
def Garbles (narrator : Narrator) (fault : Fault) : Prop :=
  ∃ source ∈ narrator.tokens, ∃ asked token,
    decimalsOfReply (source.reply asked token) = .error fault

/-- No reply of the service holds a number that is too long to be written. -/
def RepliesShort (narrator : Narrator) : Prop :=
  ∀ source ∈ narrator.tokens, ∀ asked token v,
    source.reply asked token = .answered v → v.isShort = true

theorem not_garbles_of_short {narrator : Narrator} (h : narrator.RepliesShort) (fault : Fault) :
    ¬ narrator.Garbles fault := by
  rintro ⟨source, hsource, asked, token, hreply⟩
  obtain ⟨answer, hanswer, -⟩ := decimalsOfReply_eq_ok (h source hsource asked token)
  rw [hanswer] at hreply
  cases hreply

end Narrator

/-- The session `after` holds what `before` holds, and more only where `before` holds nothing:
labels that the resolver tells, and decimals if there is a service to ask. -/
structure Session.Grows (narrator : Narrator) (before after : Session) : Prop where
  labels : OrderedMap.Follows
    (fun key label => ∃ resolver ∈ narrator.resolver, resolver.answer [] key = .ok label)
    before.labels after.labels
  decimals : OrderedMap.Follows
    (fun _ _ => ∃ source ∈ narrator.tokens, source.hasEndpoint = true)
    before.decimals after.decimals

namespace Session.Grows

variable {narrator : Narrator} {before mid after : Session}

theorem refl (session : Session) : session.Grows narrator session := ⟨.refl _, .refl _⟩

theorem trans (h : before.Grows narrator mid) (h' : mid.Grows narrator after) :
    before.Grows narrator after :=
  ⟨h.labels.trans h'.labels, h.decimals.trans h'.decimals⟩

end Session.Grows

/-- The token that a question is about, in lower case. -/
def Question.token? : Question → Option String
  | .label _ => none
  | .decimals token _ => some (Text.lowercase token)

/-- What one answer adds to what is known: a label that the resolver tells about an address without
one in `start`, or decimals of the token that was asked about. -/
structure Session.Learns (narrator : Narrator) (start : Session) (token? : Option String)
    (before after : Session) : Prop where
  labels : after.labels = before.labels ∨ ∃ resolver ∈ narrator.resolver, ∃ key label,
    start.labels.get? key = none ∧ resolver.answer [] key = .ok label ∧
      after.labels = before.labels.insert key label
  decimals : after.decimals = before.decimals ∨ ∃ token ∈ token?, ∃ n,
    (∃ source ∈ narrator.tokens, source.hasEndpoint = true) ∧
      after.decimals = before.decimals.insert token n

/-- A session goes on to grow if it has no decimals of the token that was asked about. -/
theorem Session.Learns.grows {narrator : Narrator} {start origin before after : Session}
    {token? : Option String} (h : Session.Learns narrator start token? before after)
    (hstart : start.Grows narrator before) (horigin : origin.Grows narrator before)
    (hfree : ∀ token ∈ token?, origin.decimals.get? token = none) :
    origin.Grows narrator after := by
  constructor
  · rcases h.labels with hsame | ⟨resolver, hresolver, key, label, hkey, htold, hinsert⟩
    · rw [hsame]
      exact horigin.labels
    · rw [hinsert]
      cases hknown : before.labels.get? key with
      | none =>
        exact horigin.labels.insert (horigin.labels.get?_of_none hknown) ⟨_, hresolver, htold⟩
      | some other =>
        -- The label came from the resolver before, so that it is the same.
        obtain ⟨_, hresolver', htold'⟩ := hstart.labels.fits_of_none hkey hknown
        obtain rfl := Option.mem_unique hresolver hresolver'
        rw [htold] at htold'
        cases htold'
        exact horigin.labels.insert_known hknown
  · rcases h.decimals with hsame | ⟨token, htoken, n, hsource, hinsert⟩
    · rw [hsame]
      exact horigin.decimals
    · rw [hinsert]
      exact horigin.decimals.insert (hfree token htoken) hsource

/-! ### Answers that stay -/

/-- What the resolver tells about a key, where a failure counts as no label. -/
def Resolver.told (resolver : Resolver) (key : String) : Option String :=
  (resolver.answer [] key).toOption.getD none

namespace Narrator

/-- The answer to a question that does not depend on what sources say by then: one that is known, or
one that sources give whenever they are asked. -/
def pinned (narrator : Narrator) (session : Session) : (question : Question) →
    Option question.Answer
  | .label address =>
    match narrator.resolver with
    | none => some none
    | some resolver =>
      if resolver.caching then
        some ((session.labels.get? (Text.lowercase address)).getD
          (resolver.told (Text.lowercase address)))
      else some (resolver.told address)
  | .decimals token standard =>
    match narrator.tokens with
    | none => some standard
    | some source =>
      match session.decimals.get? (Text.lowercase token) with
      | some n => some n
      | none => if source.hasEndpoint then none else some standard

end Narrator

/-- The outcome of an inquiry if all of its questions have answers that stay. -/
def Inquiry.recalled (narrator : Narrator) (session : Session) :
    Inquiry α → Option (Except Fault α)
  | .done outcome => some outcome
  | .ask question next =>
    match narrator.pinned session question with
    | some answer => (next answer).recalled narrator session
    | none => none

section

variable {narrator : Narrator} {before after : Session}

namespace Narrator

theorem pinned_label_of_none (h : narrator.resolver = none) (session : Session)
    (address : String) : narrator.pinned session (.label address) = some none := by
  unfold pinned
  rw [h]

theorem pinned_label_of_some {resolver : Resolver} (h : narrator.resolver = some resolver)
    (session : Session) (address : String) :
    narrator.pinned session (.label address) =
      if resolver.caching then
        some ((session.labels.get? (Text.lowercase address)).getD
          (resolver.told (Text.lowercase address)))
      else some (resolver.told address) := by
  unfold pinned
  rw [h]

theorem pinned_decimals_of_none (h : narrator.tokens = none) (session : Session)
    (token : String) (standard : Int) :
    narrator.pinned session (.decimals token standard) = some standard := by
  unfold pinned
  rw [h]

theorem pinned_decimals_of_some {source : TokenSource} (h : narrator.tokens = some source)
    (session : Session) (token : String) (standard : Int) :
    narrator.pinned session (.decimals token standard) =
      match session.decimals.get? (Text.lowercase token) with
      | some n => some n
      | none => if source.hasEndpoint then none else some standard := by
  unfold pinned
  rw [h]

/-- What stays in a session, stays in those that grow from it. -/
theorem pinned_of_grows (h : before.Grows narrator after) : ∀ {question : Question}
    {answer : question.Answer}, narrator.pinned before question = some answer →
      narrator.pinned after question = some answer
  | .label address, answer, hbefore => by
    cases hresolver : narrator.resolver with
    | none =>
      rw [pinned_label_of_none hresolver] at hbefore ⊢
      exact hbefore
    | some resolver =>
      rw [pinned_label_of_some hresolver] at hbefore ⊢
      rw [← hbefore]
      split
      · rcases h.labels (Text.lowercase address) with hsame | ⟨hnone, label, hlabel, other, hother,
          htold⟩
        · rw [hsame]
        · obtain rfl := Option.mem_unique hresolver hother
          rw [hnone, hlabel, Option.getD_some, Option.getD_none, Resolver.told, htold]
          rfl
      · rfl
  | .decimals token standard, answer, hbefore => by
    cases htokens : narrator.tokens with
    | none =>
      rw [pinned_decimals_of_none htokens] at hbefore ⊢
      exact hbefore
    | some source =>
      rw [pinned_decimals_of_some htokens] at hbefore ⊢
      rcases h.decimals (Text.lowercase token) with hsame | ⟨hnone, n, -, other, hother, hendpoint⟩
      · rw [hsame]
        exact hbefore
      · obtain rfl := Option.mem_unique htokens hother
        rw [hnone] at hbefore
        dsimp only at hbefore
        rw [if_pos hendpoint] at hbefore
        cases hbefore

/-- The reply to a question that has no answer in `start`. -/
def Fits (narrator : Narrator) (start : Session) : (question : Question) → question.Reply → Prop
  | .label address, reply => ∃ resolver ∈ narrator.resolver,
    if resolver.caching then start.labels.get? (Text.lowercase address) = none ∧
      reply = resolver.answer [] (Text.lowercase address)
    else reply = resolver.answer [] address
  | .decimals token _, reply => start.decimals.get? (Text.lowercase token) = none ∧
    (∃ source ∈ narrator.tokens, source.hasEndpoint = true) ∧
      ∀ fault, reply = .error fault → narrator.Garbles fault

/-- What has no answer in a session, has none in those that it grew from. -/
theorem Fits.of_grows (h : before.Grows narrator after) : ∀ {question : Question}
    {reply : question.Reply}, narrator.Fits after question reply →
      narrator.Fits before question reply
  | .label address, reply, ⟨resolver, hresolver, hreply⟩ => by
    refine ⟨resolver, hresolver, ?_⟩
    split
    · next hcaching =>
      rw [if_pos hcaching] at hreply
      exact ⟨h.labels.get?_of_none hreply.1, hreply.2⟩
    · next hcaching =>
      rw [if_neg hcaching] at hreply
      exact hreply
  | .decimals token standard, reply, ⟨hnone, hsource, hgarbles⟩ =>
    ⟨h.decimals.get?_of_none hnone, hsource, hgarbles⟩

/-- What is found without a question stays. -/
theorem pinned_of_look : ∀ {question : Question} {answer : question.Answer} {session : Session},
    narrator.look question session = .inl answer →
      narrator.pinned session question = some answer
  | .label address, answer, session, h => by
    unfold look at h
    cases hresolver : narrator.resolver with
    | none =>
      rw [hresolver] at h
      cases h
      exact pinned_label_of_none hresolver session address
    | some resolver =>
      rw [hresolver] at h
      dsimp only [Resolver.look] at h
      rw [pinned_label_of_some hresolver]
      split at h
      · next hcaching =>
        rw [if_pos hcaching]
        cases hknown : session.labels.get? (Text.lowercase address) with
        | some label =>
          rw [hknown] at h
          cases h
          rfl
        | none =>
          rw [hknown] at h
          cases h
      · cases h
  | .decimals token standard, answer, session, h => by
    unfold look at h
    cases htokens : narrator.tokens with
    | none =>
      rw [htokens] at h
      cases h
      exact pinned_decimals_of_none htokens session token standard
    | some source =>
      rw [htokens] at h
      dsimp only [TokenSource.look] at h
      rw [pinned_decimals_of_some htokens]
      cases hknown : session.decimals.get? (Text.lowercase token) with
      | some n =>
        rw [hknown] at h
        cases h
        rfl
      | none =>
        rw [hknown] at h
        dsimp only at h ⊢
        split at h
        · cases h
        · next hendpoint =>
          cases h
          exact if_neg hendpoint

/-- A question is put if there is no answer, and changes nothing that is known. -/
theorem fits_of_look (hlabels : narrator.LabelsFixed) : ∀ {question : Question}
    {reply : question.Reply} {session asked : Session},
    narrator.look question session = .inr (reply, asked) →
      narrator.Fits session question reply ∧ asked.labels = session.labels ∧
        asked.decimals = session.decimals
  | .label address, reply, session, asked, h => by
    unfold look at h
    cases hresolver : narrator.resolver with
    | none =>
      rw [hresolver] at h
      cases h
    | some resolver =>
      rw [hresolver] at h
      dsimp only [Resolver.look] at h
      have hfixed := hlabels resolver hresolver session.labelQuestions
      split at h
      · next hcaching =>
        cases hknown : session.labels.get? (Text.lowercase address) with
        | some label =>
          rw [hknown] at h
          cases h
        | none =>
          rw [hknown] at h
          cases h
          refine ⟨⟨resolver, hresolver, ?_⟩, rfl, rfl⟩
          rw [if_pos hcaching]
          exact ⟨hknown, hfixed _⟩
      · next hcaching =>
        cases h
        refine ⟨⟨resolver, hresolver, ?_⟩, rfl, rfl⟩
        rw [if_neg hcaching]
        exact hfixed _
  | .decimals token standard, reply, session, asked, h => by
    unfold look at h
    cases htokens : narrator.tokens with
    | none =>
      rw [htokens] at h
      cases h
    | some source =>
      rw [htokens] at h
      dsimp only [TokenSource.look] at h
      cases hknown : session.decimals.get? (Text.lowercase token) with
      | some n =>
        rw [hknown] at h
        cases h
      | none =>
        rw [hknown] at h
        dsimp only at h
        split at h
        · next hendpoint =>
          cases h
          exact ⟨⟨hknown, ⟨source, htokens, hendpoint⟩, fun fault hfault =>
            ⟨source, htokens, _, _, hfault⟩⟩, rfl, rfl⟩
        · cases h

variable {start session settled : Session}

/-- What comes of a reply. -/
theorem settle_learns : ∀ {question : Question} {reply : question.Reply}
    {outcome : Except Fault question.Answer}, narrator.Fits start question reply →
      (narrator.settle question reply).run.run session = (outcome, settled) →
        Session.Learns narrator start question.token? session settled
  | .label address, .ok label, outcome, ⟨resolver, hresolver, hreply⟩, hsettle => by
    rw [settle_label_ok_run, keepsLabels_of_mem narrator hresolver] at hsettle
    obtain ⟨rfl, rfl⟩ := Prod.mk.inj hsettle
    by_cases hcaching : resolver.caching = true
    · rw [if_pos hcaching] at hreply ⊢
      exact ⟨Or.inr ⟨resolver, hresolver, _, label, hreply.1, hreply.2.symm, rfl⟩, Or.inl rfl⟩
    · rw [if_neg hcaching]
      exact ⟨Or.inl rfl, Or.inl rfl⟩
  | .label address, .error fault, outcome, _, hsettle => by
    rw [settle_label_error_run] at hsettle
    obtain ⟨rfl, rfl⟩ := Prod.mk.inj hsettle
    exact ⟨Or.inl rfl, Or.inl rfl⟩
  | .decimals token standard, .ok answer, outcome, ⟨_, hsource, _⟩, hsettle => by
    rw [settle_decimals_ok_run] at hsettle
    obtain ⟨rfl, rfl⟩ := Prod.mk.inj hsettle
    exact ⟨Or.inl rfl, Or.inr ⟨_, rfl, _, hsource, rfl⟩⟩
  | .decimals token standard, .error fault, outcome, _, hsettle => by
    rw [settle_decimals_error_run] at hsettle
    obtain ⟨rfl, rfl⟩ := Prod.mk.inj hsettle
    exact ⟨Or.inl rfl, Or.inl rfl⟩

/-- The answer that a reply gives stays. -/
theorem pinned_of_settle (hgrows : start.Grows narrator session) : ∀ {question : Question}
    {reply : question.Reply} {answer : question.Answer}, narrator.Fits start question reply →
      (narrator.settle question reply).run.run session = (.ok answer, settled) →
        narrator.pinned settled question = some answer
  | .label address, .ok label, answer, ⟨resolver, hresolver, hreply⟩, hsettle => by
    rw [settle_label_ok_run, keepsLabels_of_mem narrator hresolver] at hsettle
    obtain ⟨hanswer, rfl⟩ := Prod.mk.inj hsettle
    obtain rfl := Except.ok.inj hanswer
    rw [pinned_label_of_some hresolver]
    by_cases hcaching : resolver.caching = true
    · rw [if_pos hcaching, if_pos hcaching, OrderedMap.get?_insert_self, Option.getD_some]
    · rw [if_neg hcaching] at hreply
      rw [if_neg hcaching, Resolver.told, ← hreply]
      rfl
  | .label address, .error fault, answer, ⟨resolver, hresolver, hreply⟩, hsettle => by
    rw [settle_label_error_run] at hsettle
    obtain ⟨hanswer, rfl⟩ := Prod.mk.inj hsettle
    obtain rfl := Except.ok.inj hanswer
    rw [pinned_label_of_some hresolver]
    by_cases hcaching : resolver.caching = true
    · rw [if_pos hcaching] at hreply ⊢
      obtain ⟨hfree, htold⟩ := hreply
      -- No request has got to know a label at which the resolver fails.
      cases hknown : session.labels.get? (Text.lowercase address) with
      | some label =>
        obtain ⟨other, hother, hok⟩ := hgrows.labels.fits_of_none hfree hknown
        obtain rfl := Option.mem_unique hresolver hother
        rw [← htold] at hok
        cases hok
      | none =>
        rw [Option.getD_none, Resolver.told, ← htold]
        rfl
    · rw [if_neg hcaching] at hreply ⊢
      rw [Resolver.told, ← hreply]
      rfl
  | .decimals token standard, .ok told, answer, ⟨_, ⟨source, hsource, _⟩, _⟩, hsettle => by
    rw [settle_decimals_ok_run] at hsettle
    obtain ⟨hanswer, rfl⟩ := Prod.mk.inj hsettle
    obtain rfl := Except.ok.inj hanswer
    rw [pinned_decimals_of_some hsource, OrderedMap.get?_insert_self]
  | .decimals _ _, .error fault, answer, _, hsettle => by
    rw [settle_decimals_error_run] at hsettle
    cases hsettle

/-- Only a garbled reply settles nothing, and that to a question without an answer. -/
theorem garbles_of_settle : ∀ {question : Question} {reply : question.Reply} {fault : Fault},
    narrator.Fits start question reply →
      (narrator.settle question reply).run.run session = (.error fault, settled) →
        narrator.Garbles fault ∧ narrator.pinned start question = none
  | .label address, .ok label, fault, _, hsettle => by
    rw [settle_label_ok_run] at hsettle
    cases hsettle
  | .label address, .error _, fault, _, hsettle => by
    rw [settle_label_error_run] at hsettle
    cases hsettle
  | .decimals token standard, .ok answer, fault, _, hsettle => by
    rw [settle_decimals_ok_run] at hsettle
    cases hsettle
  | .decimals token standard, .error reason, fault, ⟨hfree, ⟨source, hsource, hendpoint⟩,
      hgarbles⟩, hsettle => by
    rw [settle_decimals_error_run] at hsettle
    cases hsettle
    refine ⟨hgarbles reason rfl, ?_⟩
    rw [pinned_decimals_of_some hsource, hfree]
    exact if_pos hendpoint

end Narrator

/-- What is learned may change an answer that stays, but takes none away. -/
theorem Session.Learns.isSome_pinned {start : Session} {token? : Option String}
    (h : Session.Learns narrator start token? before after) : ∀ {question : Question},
    (narrator.pinned before question).isSome = true →
      (narrator.pinned after question).isSome = true
  | .label address, _ => by
    cases hresolver : narrator.resolver with
    | none =>
      rw [Narrator.pinned_label_of_none hresolver]
      rfl
    | some resolver =>
      rw [Narrator.pinned_label_of_some hresolver]
      split
      · rfl
      · rfl
  | .decimals token standard, hbefore => by
    cases htokens : narrator.tokens with
    | none =>
      rw [Narrator.pinned_decimals_of_none htokens]
      rfl
    | some source =>
      rw [Narrator.pinned_decimals_of_some htokens] at hbefore ⊢
      rcases h.decimals with hsame | ⟨asked, -, n, -, hinsert⟩
      · rw [hsame]
        exact hbefore
      · rw [hinsert]
        by_cases heq : asked = Text.lowercase token
        · rw [heq, OrderedMap.get?_insert_self]
          rfl
        · rw [OrderedMap.get?_insert_of_ne _ _ heq]
          exact hbefore

namespace Inquiry

/-- What is recalled stays. -/
theorem recalled_of_grows (h : before.Grows narrator after) {outcome : Except Fault α} :
    ∀ {inquiry : Inquiry α}, inquiry.recalled narrator before = some outcome →
      inquiry.recalled narrator after = some outcome
  | .done _, hbefore => hbefore
  | .ask question next, hbefore => by
    unfold recalled at hbefore ⊢
    cases hanswer : narrator.pinned before question with
    | none =>
      rw [hanswer] at hbefore
      cases hbefore
    | some answer =>
      rw [hanswer] at hbefore
      rw [Narrator.pinned_of_grows h hanswer]
      exact recalled_of_grows h hbefore

/-- An inquiry whose questions have answers that stay is recalled. -/
theorem recalled_of_asks {session : Session} : ∀ {inquiry : Inquiry α} {questions : List Question},
    inquiry.Asks questions →
      (∀ question ∈ questions, (narrator.pinned session question).isSome = true) →
        ∃ outcome, inquiry.recalled narrator session = some outcome
  | .done outcome, _, _, _ => ⟨outcome, rfl⟩
  | .ask question next, _, hasks, h => by
    obtain ⟨rest, rfl, hnext⟩ := hasks
    obtain ⟨hfirst, hrest⟩ := List.forall_mem_cons.1 h
    obtain ⟨answer, hanswer⟩ := Option.isSome_iff_exists.1 hfirst
    unfold recalled
    rw [hanswer]
    exact recalled_of_asks (hnext answer) hrest

end Inquiry

/-! ### Moves -/

namespace Stage

/-- The token whose decimals the stage waits for. -/
def token? (stage : Stage) : Option String := stage.question?.bind Question.token?

/-- If the stage waits for a reply, it is one to a question that has no answer in `start`. -/
def Fits (narrator : Narrator) (start : Session) : Stage → Prop
  | .waiting question reply _ => narrator.Fits start question reply
  | _ => True

end Stage

namespace Narrator.Moves

variable {start session session' : Session} {stage stage' : Stage}

theorem learns (hlabels : narrator.LabelsFixed) (hfits : stage.Fits narrator start)
    (h : narrator.Moves stage session stage' session') :
    Session.Learns narrator start stage.token? session session' := by
  cases h with
  | ends outcome => exact ⟨Or.inl rfl, Or.inl rfl⟩
  | finds next hlook => exact ⟨Or.inl rfl, Or.inl rfl⟩
  | puts next hlook =>
    obtain ⟨-, hsameLabels, hsameDecimals⟩ := Narrator.fits_of_look hlabels hlook
    exact ⟨Or.inl hsameLabels, Or.inl hsameDecimals⟩
  | settles next hsettle => exact Narrator.settle_learns hfits hsettle

theorem fits (hlabels : narrator.LabelsFixed) (hgrows : start.Grows narrator session)
    (h : narrator.Moves stage session stage' session') : stage'.Fits narrator start := by
  cases h with
  | ends outcome => trivial
  | finds next hlook => trivial
  | puts next hlook => exact (Narrator.fits_of_look hlabels hlook).1.of_grows hgrows
  | @settles _ _ _ _ outcome next hsettle =>
    cases outcome with
    | ok answer => trivial
    | error fault => trivial

/-- A question about decimals is put if they are not known. -/
theorem token_cases (hlabels : narrator.LabelsFixed)
    (h : narrator.Moves stage session stage' session') :
    stage'.token? = none ∨
      stage.token? = none ∧ ∀ token ∈ stage'.token?, session'.decimals.get? token = none := by
  cases h with
  | ends outcome => exact Or.inl rfl
  | finds next hlook => exact Or.inl rfl
  | @puts question _ _ _ next hlook =>
    obtain ⟨hfits, -, hdecimals⟩ := Narrator.fits_of_look hlabels hlook
    refine Or.inr ⟨rfl, fun token htoken => ?_⟩
    cases question with
    | label address => cases htoken
    | decimals asked standard =>
      obtain rfl := Option.some.inj htoken
      rw [hdecimals]
      exact hfits.1
  | @settles _ _ _ _ outcome next hsettle =>
    cases outcome with
    | ok answer => exact Or.inl rfl
    | error fault => exact Or.inl rfl

/-- With a move a stage has the same before it, or it has an answer that stays, or a garbled reply
to a question without an answer was its end. -/
theorem rest_cases (hgrows : start.Grows narrator session) (hfits : stage.Fits narrator start)
    (h : narrator.Moves stage session stage' session') :
    stage'.rest = stage.rest ∨
      (∃ (question : Question) (next : question.Answer → Inquiry String) (answer : question.Answer),
        stage.rest = .ask question next ∧ stage'.rest = next answer ∧
          narrator.pinned session' question = some answer) ∨
      ∃ (question : Question) (next : question.Answer → Inquiry String) (fault : Fault),
        stage.rest = .ask question next ∧ stage' = .finished (.error fault) ∧
          narrator.Garbles fault ∧ narrator.pinned start question = none := by
  cases h with
  | ends outcome => exact Or.inl rfl
  | finds next hlook =>
    exact Or.inr (Or.inl ⟨_, next, _, rfl, rfl, Narrator.pinned_of_look hlook⟩)
  | puts next hlook => exact Or.inl rfl
  | @settles _ _ _ _ outcome next hsettle =>
    cases outcome with
    | ok answer =>
      exact Or.inr (Or.inl ⟨_, next, answer, rfl, rfl,
        Narrator.pinned_of_settle hgrows hfits hsettle⟩)
    | error fault =>
      obtain ⟨hgarbles, hnone⟩ := Narrator.garbles_of_settle hfits hsettle
      exact Or.inr (Or.inr ⟨_, next, fault, rfl, rfl, hgarbles, hnone⟩)

variable (hstart : start.Grows narrator session) (hfits : stage.Fits narrator start)
  (h : narrator.Moves stage session stage' session')
include hstart hfits h

/-- What can be recalled at the start of all, comes true. -/
theorem recalls (hgrows : start.Grows narrator session') {outcome : Except Fault String}
    (hrecall : stage.rest.recalled narrator start = some outcome) :
    stage'.rest.recalled narrator start = some outcome := by
  rcases h.rest_cases hstart hfits with
    hsame | ⟨question, next, answer, hask, hnext, hanswer⟩ | ⟨_, _, _, hask, -, -, hnone⟩
  · rw [hsame]
    exact hrecall
  · rw [hask, Inquiry.recalled] at hrecall
    cases hpinned : narrator.pinned start question with
    | none =>
      rw [hpinned] at hrecall
      cases hrecall
    | some other =>
      rw [hpinned] at hrecall
      rw [Narrator.pinned_of_grows hgrows hpinned] at hanswer
      cases hanswer
      rw [hnext]
      exact hrecall
  · rw [hask, Inquiry.recalled, hnone] at hrecall
    cases hrecall

/-- Sessions that grow from the one that is left recall of the request what it has done, unless a
garbled reply was its end. -/
theorem traces :
    (∃ fault, stage' = .finished (.error fault) ∧ narrator.Garbles fault) ∨
      ∀ later, session'.Grows narrator later →
        stage'.rest.recalled narrator later = stage.rest.recalled narrator later := by
  rcases h.rest_cases hstart hfits with
    hsame | ⟨question, next, answer, hask, hnext, hanswer⟩ | ⟨_, _, fault, -, hover, hgarbles, -⟩
  · exact Or.inr fun later _ => by rw [hsame]
  · refine Or.inr fun later hlater => ?_
    rw [hask, hnext, Inquiry.recalled, Narrator.pinned_of_grows hlater hanswer]
  · exact Or.inl ⟨fault, hover, hgarbles⟩

end Narrator.Moves

/-! ### What happens to all requests -/

theorem Stage.Fits.free {start : Session} {token : String} : ∀ {stage : Stage},
    stage.Fits narrator start → token ∈ stage.token? → start.decimals.get? token = none
  | .waiting (.decimals _ _) _ _, ⟨hfree, _, _⟩, htoken => Option.some.inj htoken ▸ hfree

/-- The request has failed for a garbled reply, or whatever session grows from the one that is
there, recalls of the request what it has done. -/
def Task.Traced (narrator : Narrator) (session : Session) (task : Task) : Prop :=
  (∃ fault, task.stage = .finished (.error fault) ∧ narrator.Garbles fault) ∨
    ∀ later, session.Grows narrator later → task.stage.rest.recalled narrator later =
      (Inquiry.narrative narrator.config task.request).recalled narrator later

/-- All questions of the request that are not still before it have answers that stay. -/
def Task.Covered (narrator : Narrator) (session : Session) (task : Task) : Prop :=
  ∃ questions, task.stage.rest.Asks questions ∧
    ∀ question ∈ task.request.questions narrator.config,
      question ∈ questions ∨ (narrator.pinned session question).isSome = true

/-- What can be recalled of the request at the start is still before it. -/
def Task.Recalls (narrator : Narrator) (start : Session) (task : Task) : Prop :=
  ∀ outcome,
    (Inquiry.narrative narrator.config task.request).recalled narrator start = some outcome →
      task.stage.rest.recalled narrator start = some outcome

namespace Gathering

variable {start session session' : Session} {tasks before after : List Task} {request : Request}
  {stage stage' : Stage}

/-- The session has grown from `start`, and the requests wait for replies to questions that have no
answer there. -/
structure Sound (narrator : Narrator) (start : Session) (tasks : List Task) (session : Session) :
    Prop where
  grows : start.Grows narrator session
  fits : ∀ task ∈ tasks, task.stage.Fits narrator start

theorem Sound.begin (h : Sound narrator start tasks session) (request : Request) :
    Sound narrator start (tasks ++ [.begun narrator.config request]) session where
  grows := h.grows
  fits := List.forall_mem_append.2 ⟨h.fits, List.forall_mem_singleton.2 trivial⟩

theorem Sound.fits_stage (h : Sound narrator start (before ++ ⟨request, stage⟩ :: after) session) :
    stage.Fits narrator start :=
  h.fits _ (List.mem_append_right before List.mem_cons_self)

theorem Sound.move (hlabels : narrator.LabelsFixed)
    (hmove : narrator.Moves stage session stage' session')
    (h : Sound narrator start (before ++ ⟨request, stage⟩ :: after) session) :
    Sound narrator start (before ++ ⟨request, stage'⟩ :: after) session' where
  grows := (hmove.learns hlabels h.fits_stage).grows h.grows h.grows
    fun _ htoken => h.fits_stage.free htoken
  fits := forall_mem_move h.fits (fun _ hfits => hfits) fun _ => hmove.fits hlabels h.grows

theorem move_recalls (hlabels : narrator.LabelsFixed)
    (hmove : narrator.Moves stage session stage' session')
    (hsound : Sound narrator start (before ++ ⟨request, stage⟩ :: after) session)
    (h : ∀ task ∈ before ++ ⟨request, stage⟩ :: after, task.Recalls narrator start) :
    ∀ task ∈ before ++ ⟨request, stage'⟩ :: after, task.Recalls narrator start := by
  refine forall_mem_move h (fun _ hrecalls => hrecalls) fun hstage outcome hrecall => ?_
  have hgrows := (hsound.move hlabels hmove).grows
  exact hmove.recalls hsound.grows hsound.fits_stage hgrows (hstage outcome hrecall)

/-- A narrative that can be recalled at the start is the outcome. -/
theorem follow_recalls (hlabels : narrator.LabelsFixed) (events : List Event) {place : Nat}
    {outcome other : Except Fault String}
    (htells : ((idle start).follow narrator events).Tells place request outcome)
    (hrecall : (Inquiry.narrative narrator.config request).recalled narrator start = some other) :
    outcome = other := by
  have hinvariant := follow_invariant narrator
    (I := fun tasks session => Sound narrator start tasks session ∧
      ∀ task ∈ tasks, task.Recalls narrator start)
    (fun request h => ⟨h.1.begin request, List.forall_mem_append.2
      ⟨h.2, List.forall_mem_singleton.2 fun _ hrecall => hrecall⟩⟩)
    (fun hmove h => ⟨h.1.move hlabels hmove, move_recalls hlabels hmove h.1 h.2⟩)
    events (idle start) ⟨⟨.refl start, List.forall_mem_nil _⟩, List.forall_mem_nil _⟩
  have hover := hinvariant.2 _ (List.mem_of_getElem? (tells_iff.1 htells)) other hrecall
  exact Option.some.inj hover

/-- What a narrative has read is there when it is over. -/
theorem move_covered (hlabels : narrator.LabelsFixed)
    (hmove : narrator.Moves stage session stage' session')
    (hsound : Sound narrator start (before ++ ⟨request, stage⟩ :: after) session)
    (h : ∀ task ∈ before ++ ⟨request, stage⟩ :: after, task.Covered narrator session) :
    ∀ task ∈ before ++ ⟨request, stage'⟩ :: after, task.Covered narrator session' := by
  have hlearns := hmove.learns hlabels hsound.fits_stage
  have hstays (task : Task) (htask : task.Covered narrator session) :
      task.Covered narrator session' := by
    obtain ⟨questions, hasks, hcovered⟩ := htask
    exact ⟨questions, hasks, fun question hquestion =>
      (hcovered question hquestion).imp_right hlearns.isSome_pinned⟩
  refine forall_mem_move h hstays fun hstage => ?_
  obtain ⟨questions, hasks, hcovered⟩ := hstays _ hstage
  rcases hmove.rest_cases hsound.grows hsound.fits_stage with
    hsame | ⟨question, next, answer, hask, hnext, hanswer⟩ | ⟨_, _, fault, -, rfl, -, -⟩
  · exact ⟨questions, hsame.symm ▸ hasks, hcovered⟩
  · -- The question that is answered is the first of those that were left.
    have hasks' : (Inquiry.ask question next).Asks questions := hask ▸ hasks
    obtain ⟨rest, rfl, hrest⟩ := hasks'
    refine ⟨rest, hnext.symm ▸ hrest answer, fun other hother => ?_⟩
    rcases hcovered other hother with hmem | hpinned
    · rcases List.mem_cons.1 hmem with rfl | hmem
      · exact Or.inr (hanswer ▸ rfl)
      · exact Or.inl hmem
    · exact Or.inr hpinned
  · exact ⟨request.questions narrator.config, trivial, fun _ hquestion => Or.inl hquestion⟩

/-! ### Requests that do not get in each other's way -/

/-- The tokens whose decimals are waited for. -/
def awaitedTokens (tasks : List Task) : List String := tasks.filterMap (·.stage.token?)

/-- No two requests wait for the decimals of one token. -/
def Apart (tasks : List Task) : Prop := (awaitedTokens tasks).Nodup

instance : DecidablePred Apart :=
  fun tasks => inferInstanceAs (Decidable (awaitedTokens tasks).Nodup)

theorem awaitedTokens_middle (before after : List Task) (request : Request) (stage : Stage) :
    awaitedTokens (before ++ ⟨request, stage⟩ :: after) =
      awaitedTokens before ++ (stage.token?.toList ++ awaitedTokens after) := by
  unfold awaitedTokens
  rw [List.filterMap_append, List.filterMap_cons]
  cases stage.token? with
  | none => rfl
  | some token => rfl

/-- No decimals are known of a token that is waited for. -/
def Open (tasks : List Task) (session : Session) : Prop :=
  ∀ token ∈ awaitedTokens tasks, session.decimals.get? token = none

theorem Open.begin (h : Open tasks session) (request : Request) :
    Open (tasks ++ [.begun narrator.config request]) session := by
  intro token htoken
  rw [awaitedTokens_middle] at htoken
  refine h token ?_
  rcases List.mem_append.1 htoken with hmem | hmem
  · exact hmem
  · cases hmem

theorem move_grows (hlabels : narrator.LabelsFixed)
    (hmove : narrator.Moves stage session stage' session')
    (hsound : Sound narrator start (before ++ ⟨request, stage⟩ :: after) session)
    (hopen : Open (before ++ ⟨request, stage⟩ :: after) session) :
    session.Grows narrator session' := by
  refine (hmove.learns hlabels hsound.fits_stage).grows hsound.grows (.refl session) ?_
  intro token htoken
  refine hopen token ?_
  rw [awaitedTokens_middle]
  exact List.mem_append_right _ (List.mem_append_left _ (Option.mem_toList.2 htoken))

theorem move_open (hlabels : narrator.LabelsFixed)
    (hmove : narrator.Moves stage session stage' session')
    (hapart : Apart (before ++ ⟨request, stage⟩ :: after))
    (hsound : Sound narrator start (before ++ ⟨request, stage⟩ :: after) session)
    (h : Open (before ++ ⟨request, stage⟩ :: after) session) :
    Open (before ++ ⟨request, stage'⟩ :: after) session' := by
  unfold Apart at hapart
  unfold Open at h ⊢
  rw [awaitedTokens_middle] at hapart h ⊢
  have hothers : ∀ token, token ∈ awaitedTokens before ∨ token ∈ awaitedTokens after →
      session'.decimals.get? token = none := by
    intro token htoken
    have hknown : session.decimals.get? token = none := h token <|
      htoken.elim (List.mem_append_left _) fun hmem =>
        List.mem_append_right _ (List.mem_append_right _ hmem)
    rcases (hmove.learns hlabels hsound.fits_stage).decimals with
      hsame | ⟨settled, hsettled, n, -, hinsert⟩
    · rw [hsame, hknown]
    · -- The token of the reply is another one, since nobody else waits for it.
      have hne : settled ≠ token := by
        rintro rfl
        have hstage : settled ∈ stage.token?.toList := Option.mem_toList.2 hsettled
        obtain ⟨-, hrest, hbefore⟩ := List.nodup_append'.1 hapart
        obtain ⟨-, -, hafter⟩ := List.nodup_append'.1 hrest
        rcases htoken with hmem | hmem
        · exact hbefore hmem (List.mem_append_left _ hstage)
        · exact hafter hstage hmem
      rw [hinsert, OrderedMap.get?_insert_of_ne _ _ hne, hknown]
  intro token htoken
  rcases List.mem_append.1 htoken with hmem | htoken
  · exact hothers token (Or.inl hmem)
  · rcases List.mem_append.1 htoken with hmem | hmem
    · rcases hmove.token_cases hlabels with hnone | ⟨-, hfree⟩
      · rw [hnone] at hmem
        cases hmem
      · exact hfree token (Option.mem_toList.1 hmem)
    · exact hothers token (Or.inr hmem)

theorem move_traced (hlabels : narrator.LabelsFixed)
    (hmove : narrator.Moves stage session stage' session')
    (hsound : Sound narrator start (before ++ ⟨request, stage⟩ :: after) session)
    (hopen : Open (before ++ ⟨request, stage⟩ :: after) session)
    (h : ∀ task ∈ before ++ ⟨request, stage⟩ :: after, task.Traced narrator session) :
    ∀ task ∈ before ++ ⟨request, stage'⟩ :: after, task.Traced narrator session' := by
  have hgrows := move_grows hlabels hmove hsound hopen
  have hstays (task : Task) (htask : task.Traced narrator session) :
      task.Traced narrator session' :=
    htask.imp_right fun hrecall later hlater => hrecall later (hgrows.trans hlater)
  refine forall_mem_move h hstays fun hstage => ?_
  rcases hmove.traces hsound.grows hsound.fits_stage with hgarbled | hsame
  · exact Or.inl hgarbled
  · rcases hstage with ⟨fault, rfl, -⟩ | hrecall
    · cases hmove
    · exact Or.inr fun later hlater =>
        (hsame later hlater).trans (hrecall later (hgrows.trans hlater))

/-! ### Conversations -/

section

variable (hlabels : narrator.LabelsFixed) (start : Session) (events : List Event)
include hlabels

theorem follow_covered : ∀ task ∈ ((idle start).follow narrator events).tasks,
    task.Covered narrator ((idle start).follow narrator events).session :=
  (follow_invariant narrator
    (I := fun tasks session => Sound narrator start tasks session ∧
      ∀ task ∈ tasks, task.Covered narrator session)
    (fun request h => ⟨h.1.begin request, List.forall_mem_append.2
      ⟨h.2, List.forall_mem_singleton.2 ⟨_, Inquiry.narrative_asks _ request, fun _ => Or.inl⟩⟩⟩)
    (fun hmove h => ⟨h.1.move hlabels hmove, move_covered hlabels hmove h.1 h.2⟩)
    events (idle start) ⟨⟨.refl start, List.forall_mem_nil _⟩, List.forall_mem_nil _⟩).2

theorem follow_traced (hapart : (idle start).Throughout narrator Apart events) :
    ∀ task ∈ ((idle start).follow narrator events).tasks,
      task.Traced narrator ((idle start).follow narrator events).session :=
  (follow_induction narrator (P := Apart)
    (I := fun tasks session => Sound narrator start tasks session ∧ Open tasks session ∧
      ∀ task ∈ tasks, task.Traced narrator session)
    (fun request h => ⟨h.1.begin request, h.2.1.begin request, List.forall_mem_append.2
      ⟨h.2.2, List.forall_mem_singleton.2 (Or.inr fun _ _ => rfl)⟩⟩)
    (fun hnow hmove h => ⟨h.1.move hlabels hmove, move_open hlabels hmove hnow h.1 h.2.1,
      move_traced hlabels hmove h.1 h.2.1 h.2.2⟩)
    events hapart ⟨⟨.refl start, List.forall_mem_nil _⟩, List.forall_mem_nil _,
      List.forall_mem_nil _⟩).2.2

/-- A narrative that was told when all requests were over can be recalled from then on. -/
theorem recall_of_tells {place : Nat} {text : String}
    (htells : ((idle start).follow narrator events).Tells place request (.ok text)) :
    ∃ outcome, (Inquiry.narrative narrator.config request).recalled narrator
      ((idle start).follow narrator events).session = some outcome := by
  have hmem := List.mem_of_getElem? (tells_iff.1 htells)
  obtain ⟨questions, hasks, hcovered⟩ := follow_covered hlabels start events _ hmem
  obtain rfl : questions = [] := hasks
  refine Inquiry.recalled_of_asks (Inquiry.narrative_asks _ request) fun question hquestion => ?_
  exact (hcovered question hquestion).resolve_left List.not_mem_nil

end

/-- Requests that are apart have the outcomes that are recalled in the end. -/
theorem follow_alike (hlabels : narrator.LabelsFixed) (start : Session) (events : List Event)
    (hapart : (idle start).Throughout narrator Apart events) {i j : Nat}
    {outcome other : Except Fault String}
    (htells : ((idle start).follow narrator events).Tells i request outcome)
    (htells' : ((idle start).follow narrator events).Tells j request other) :
    outcome = other ∨
      ∃ fault, narrator.Garbles fault ∧ (outcome = .error fault ∨ other = .error fault) := by
  have htraced := follow_traced hlabels start events hapart
  rcases htraced _ (List.mem_of_getElem? (tells_iff.1 htells)) with
    ⟨fault, hover, hgarbles⟩ | hrecall
  · obtain rfl := Stage.finished.inj hover
    exact Or.inr ⟨fault, hgarbles, Or.inl rfl⟩
  · rcases htraced _ (List.mem_of_getElem? (tells_iff.1 htells')) with
      ⟨fault, hover, hgarbles⟩ | hrecall'
    · obtain rfl := Stage.finished.inj hover
      exact Or.inr ⟨fault, hgarbles, Or.inr rfl⟩
    · -- Both outcomes are what the last session recalls.
      have hsame := (hrecall _ (.refl _)).trans (hrecall' _ (.refl _)).symm
      exact Or.inl (Option.some.inj hsame)

/-- What is true of requests that are made again, where `later` comes after `first`. -/
structure Recurs (narrator : Narrator) (start : Session) (first later : List Event) : Prop where
  /-- If all requests are over after `first`, a request that has got a narrative by then has one
  outcome wherever it is made later, whatever happens in between. -/
  settled : AllOver ((idle start).follow narrator first).tasks → ∀ {request : Request},
    (∃ place text, ((idle start).follow narrator first).Tells place request (.ok text)) →
      ∀ {i j : Nat} {outcome other : Except Fault String},
        ((idle start).follow narrator first).tasks.length ≤ i →
        ((idle start).follow narrator first).tasks.length ≤ j →
        ((idle start).follow narrator (first ++ later)).Tells i request outcome →
        ((idle start).follow narrator (first ++ later)).Tells j request other → outcome = other
  /-- If no two requests ever wait for the decimals of one token, all occurrences of a request are
  alike, unless one of them has failed for a garbled reply. -/
  alike : (idle start).Throughout narrator Apart (first ++ later) → ∀ {request : Request}
    {i j : Nat} {outcome other : Except Fault String},
      ((idle start).follow narrator (first ++ later)).Tells i request outcome →
      ((idle start).follow narrator (first ++ later)).Tells j request other →
        outcome = other ∨
          ∃ fault, narrator.Garbles fault ∧ (outcome = .error fault ∨ other = .error fault)
  /-- All requests come to their ends. -/
  ends : ∃ places : List Nat, AllOver
    (((idle start).follow narrator (first ++ later)).follow narrator (places.map .moved)).tasks

/-- What happens after all requests are over, happens to later requests alone. -/
theorem exists_tells_idle {first : List Event}
    (hover : AllOver ((idle start).follow narrator first).tasks) (later : List Event) :
    ∃ events : List Event, ∀ {place : Nat} {request : Request} {outcome : Except Fault String},
        ((idle start).follow narrator first).tasks.length ≤ place →
        ((idle start).follow narrator (first ++ later)).Tells place request outcome →
          ((idle ((idle start).follow narrator first).session).follow narrator events).Tells
            (place - ((idle start).follow narrator first).tasks.length) request outcome := by
  obtain ⟨events, htasks, -⟩ := follow_over narrator hover
    ((idle start).follow narrator first).session ((idle start).follow narrator first).fault later
  refine ⟨events, fun {place request outcome} hplace htells => ?_⟩
  rw [follow_append] at htells
  unfold Tells at htells ⊢
  rw [htasks, List.getElem?_append_right hplace] at htells
  exact htells

/-- Requests that are made again are told as they were, apart from what the requests that were on
their way together with the first one may have changed. -/
theorem follow_recurs (hlabels : narrator.LabelsFixed) (start : Session)
    (first later : List Event) : Recurs narrator start first later where
  settled hover _ htold _ _ _ _ hi hj htells htells' := by
    obtain ⟨place, text, htext⟩ := htold
    obtain ⟨known, hknown⟩ := recall_of_tells hlabels start first htext
    obtain ⟨events, hevents⟩ := exists_tells_idle hover later
    have hsame := follow_recalls hlabels events (hevents hi htells) hknown
    have hsame' := follow_recalls hlabels events (hevents hj htells') hknown
    exact hsame.trans hsame'.symm
  alike hapart _ _ _ _ _ htells htells' := follow_alike hlabels start _ hapart htells htells'
  ends := exists_allOver narrator _

end Gathering

open Gathering in
/-- If each question is answered at once, all occurrences of a request are alike. -/
theorem Narrator.outcomes_alike {request : Request} (hlabels : narrator.LabelsFixed)
    (requests : List Request) (session : Session) {i j : Nat} {outcome other : Except Fault String}
    (hi : requests[i]? = some request) (hj : requests[j]? = some request)
    (houtcome : ((narrator.outcomes requests).run session).1[i]? = some outcome)
    (hother : ((narrator.outcomes requests).run session).1[j]? = some other) :
    outcome = other ∨
      ∃ fault, narrator.Garbles fault ∧ (outcome = .error fault ∨ other = .error fault) := by
  obtain ⟨places, fault, hfollow, hone⟩ :=
    exists_outcomes narrator requests [] session none (List.forall_mem_nil _)
  have hapart : (idle session).Throughout narrator Apart (.asked requests :: places.map .moved) :=
    ⟨List.nodup_nil, throughout_mono narrator (fun _ => nodup_of_length_awaited _) hone⟩
  have htells {place : Nat} {outcome : Except Fault String}
      (hrequest : requests[place]? = some request)
      (houtcome : ((narrator.outcomes requests).run session).1[place]? = some outcome) :
      ((idle session).follow narrator (.asked requests :: places.map .moved)).Tells place request
        outcome := by
    refine tells_iff.2 ?_
    show (follow narrator ⟨session, [] ++ requests.map _, none⟩ _).tasks[place]? = _
    rw [hfollow]
    exact List.getElem?_zipWith_eq_some.2 ⟨request, outcome, hrequest, houtcome, rfl⟩
  exact follow_alike hlabels session _ hapart (htells hi houtcome) (htells hj hother)

end

/-! ### A service that takes its time -/

namespace Wavering

/-- A service that tells six decimals when it is asked for the first time, and nothing later. -/
def source : TokenSource where
  endpoint := some "http://rpc"
  standardDecimals := 18
  reply asked _ :=
    if asked = [] then .answered (.object [("result", .text (Hex.marked (wordOf 6)))])
    else .failed "down"

/-- A narrator whose resolver keeps labels and fails at one address. -/
def narrator : Narrator where
  config := ⟨none, false, none⟩
  resolver := some (.failingAt ["0x2222222222222222222222222222222222222222"]
    (.ofList [(Sale.token, "GOLD")]) true)
  tokens := some source

/-- An investment and a transfer, which both ask about the token before one of them is answered. -/
def overlapping : List Event :=
  [.asked [Sale.investing, Sale.transferring Sale.token]] ++
    (List.replicate 5 (.moved 0) ++ List.replicate 4 (.moved 1)) ++
    (List.replicate 9 (.moved 0) ++ List.replicate 9 (.moved 1))

/-- Two more investments, one after the other. -/
def investments : List Event :=
  (.asked [Sale.investing] :: List.replicate 12 (.moved 2)) ++
    (.asked [Sale.investing] :: List.replicate 12 (.moved 3))

end Wavering

/-- The first investment is told with the decimals that the service tells, and all later ones with
those of the transfer. -/
theorem Gathering.follow_recurs_wavering :
    Wavering.narrator.LabelsFixed ∧
      let now := (idle .fresh).follow Wavering.narrator
        (Wavering.overlapping ++ Wavering.investments)
      now.Tells 0 Sale.investing (.ok ("0x1111...1111 invested 2.5 tokens (GOLD) in primary " ++
          "sale at 0x4444...4444 [tx: 0xabcd]")) ∧
        now.Tells 2 Sale.investing (.ok ("0x1111...1111 invested 0.0000000000025 tokens (GOLD) " ++
          "in primary sale at 0x4444...4444 [tx: 0xabcd]")) ∧
        ∀ outcome, now.Tells 3 Sale.investing outcome →
          outcome = .ok ("0x1111...1111 invested 0.0000000000025 tokens (GOLD) in primary sale " ++
            "at 0x4444...4444 [tx: 0xabcd]") := by
  have hlabels : Wavering.narrator.LabelsFixed := by
    rintro _ ⟨⟩ asked address
    rfl
  have hfirst : AllOver ((idle .fresh).follow Wavering.narrator Wavering.overlapping).tasks ∧
      ((idle .fresh).follow Wavering.narrator Wavering.overlapping).tasks.length = 2 ∧
      ((idle .fresh).follow Wavering.narrator Wavering.overlapping).Tells 0 Sale.investing
        (.ok ("0x1111...1111 invested 2.5 tokens (GOLD) in primary sale at 0x4444...4444 " ++
          "[tx: 0xabcd]")) := by
    decide +kernel
  obtain ⟨hover, hlength, htold⟩ := hfirst
  have hnow : ((idle .fresh).follow Wavering.narrator
        (Wavering.overlapping ++ Wavering.investments)).Tells 0 Sale.investing
          (.ok ("0x1111...1111 invested 2.5 tokens (GOLD) in primary sale at 0x4444...4444 " ++
            "[tx: 0xabcd]")) ∧
      ((idle .fresh).follow Wavering.narrator
        (Wavering.overlapping ++ Wavering.investments)).Tells 2 Sale.investing
          (.ok ("0x1111...1111 invested 0.0000000000025 tokens (GOLD) in primary sale at " ++
            "0x4444...4444 [tx: 0xabcd]")) := by
    decide +kernel
  have hrecurs := follow_recurs hlabels .fresh Wavering.overlapping Wavering.investments
  refine ⟨hlabels, hnow.1, hnow.2, fun outcome htells => ?_⟩
  have hplace {place : Nat} (h : 2 ≤ place) :
      ((idle .fresh).follow Wavering.narrator Wavering.overlapping).tasks.length ≤ place := by
    rw [hlength]
    exact h
  exact hrecurs.settled hover ⟨0, _, htold⟩ (hplace (by decide : 2 ≤ 3)) (hplace (Nat.le_refl 2))
    htells hnow.2

/-- A transfer and an investment that overlap, and the same transfer again, if the service does not
answer. -/
def Sale.overlapping : List Event :=
  [.asked [transferring token, investing]] ++
    (List.replicate 3 (.moved 0) ++ List.replicate 3 (.moved 1)) ++
    (List.replicate 3 (.moved 0) ++ List.replicate 3 (.moved 1)) ++
    (.asked [transferring token] :: List.replicate 5 (.moved 2))

/-- The transfer is told with the decimals of fungible tokens, and when it is made again, with those
of sales, which the investment has left behind. -/
theorem Gathering.follow_overlapping :
    (Sale.narrator Sale.silent).LabelsFixed ∧ (Sale.narrator Sale.silent).RepliesShort ∧
      let now := (idle .fresh).follow (Sale.narrator Sale.silent) Sale.overlapping
      now.Tells 0 (Sale.transferring Sale.token)
          (.ok ("0x1111...1111 transferred 0.0000000000025 tokens to 0x2222...2222 via contract " ++
            "at 0x3333...3333 [tx: 0xabcd]")) ∧
        now.Tells 2 (Sale.transferring Sale.token)
          (.ok ("0x1111...1111 transferred 2.5 tokens to 0x2222...2222 via contract at " ++
            "0x3333...3333 [tx: 0xabcd]")) := by
  refine ⟨?_, ?_, by decide +kernel⟩
  · rintro resolver ⟨⟩
  · rintro _ ⟨⟩ asked token v ⟨⟩

end Chronicle
