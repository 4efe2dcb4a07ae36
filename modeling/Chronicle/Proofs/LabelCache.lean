/-
# Labels that are kept

A resolver that answers about each address in one way, with a label, without
one or with a failure, may be asked directly or with its answers kept. Whatever
happens with answers kept, happens without as well, except that a request that
finds a label takes one move more, to ask for it: all requests say the same. With
answers kept, the resolver is asked about the same addresses, and as often as
without if it fails.

An answer is kept when it has come, and not before. So until then another request
may ask about the same address, and an address that is answered is asked about
once only if no two requests wait for it at a time. But once all requests are over
it is not asked about any more.

Key definitions: `Resolver.fixed`, `Session.Mirrors`, `Event.Slows`,
`Gathering.Remembers`, `Gathering.Spares`.
Key theorems: `Narrator.Moves.mirrors`, `Gathering.follow_mirrors`,
`Gathering.follow_remembers`, `Gathering.follow_count_le`, `Gathering.follow_spares`.
-/
import Chronicle.Proofs.BatchIndependence
import Chronicle.Proofs.Gatherings
import Mathlib.Data.List.Dedup

namespace Chronicle

/-- A resolver that answers about each address in one way. -/
def Resolver.fixed (answer : String → Except Fault (Option String)) (caching : Bool) : Resolver :=
  ⟨fun _ => answer, caching⟩

/-- A narrator whose resolver answers in one way. -/
def Narrator.labelled (config : Config) (answer : String → Except Fault (Option String))
    (tokens : Option TokenSource) (caching : Bool) : Narrator :=
  ⟨config, some (.fixed answer caching), tokens⟩

namespace Session

/-- The session with nothing known or asked about labels. -/
def unlabelled (session : Session) : Session :=
  { session with labels := .empty, labelQuestions := [] }

/-- The session after one more question about a label. -/
def asking (session : Session) (address : String) : Session :=
  { session with labelQuestions := session.labelQuestions ++ [address] }

theorem mem_asking {session : Session} {address other : String} :
    other ∈ (session.asking address).labelQuestions ↔
      other ∈ session.labelQuestions ∨ other = address := by
  rw [asking, List.mem_append, List.mem_singleton]

theorem count_asking (session : Session) (address other : String) :
    (session.asking address).labelQuestions.count other =
      session.labelQuestions.count other + if address = other then 1 else 0 := by
  show (session.labelQuestions ++ [address]).count other = _
  rw [List.count_append, List.count_singleton]
  congr 1
  exact if_congr beq_iff_eq rfl rfl

/-- The session `kept`, with answers kept, is what `plain` is without, apart from what is known
and asked about labels: the same addresses were asked about, and those at which the resolver fails
equally often. -/
structure Mirrors (answer : String → Except Fault (Option String)) (plain kept : Session) :
    Prop where
  decimals : kept.decimals = plain.decimals
  decimalQuestions : kept.decimalQuestions = plain.decimalQuestions
  log : kept.log = plain.log
  asked : ∀ address, address ∈ kept.labelQuestions ↔ address ∈ plain.labelQuestions
  failed : ∀ address, (answer address).isOk = false →
    kept.labelQuestions.count address = plain.labelQuestions.count address

end Session

/-! ### Questions with and without kept answers -/

section

variable {config : Config} {answer : String → Except Fault (Option String)}
  {tokens : Option TokenSource} {address : String} {plain kept : Session}

namespace Narrator

theorem look_plain (session : Session) :
    (labelled config answer tokens false).look (.label address) session =
      .inr (answer address, session.asking address) := rfl

theorem look_kept (session : Session) :
    (labelled config answer tokens true).look (.label address) session =
      match session.labels.get? (Text.lowercase address) with
      | some label => .inl label
      | none => .inr (answer (Text.lowercase address),
          session.asking (Text.lowercase address)) := rfl

end Narrator

namespace Session.Mirrors

variable (h : plain.Mirrors answer kept)
include h

/-- Both sessions ask about an address. -/
theorem ask : (plain.asking address).Mirrors answer (kept.asking address) where
  decimals := h.decimals
  decimalQuestions := h.decimalQuestions
  log := h.log
  asked other := by rw [mem_asking, mem_asking, h.asked]
  failed other hother := by rw [count_asking, count_asking, h.failed other hother]

/-- Only `plain` asks about an address that was asked about and has an answer. -/
theorem ask_known (hok : (answer address).isOk = true) (hasked : address ∈ kept.labelQuestions) :
    (plain.asking address).Mirrors answer kept where
  decimals := h.decimals
  decimalQuestions := h.decimalQuestions
  log := h.log
  asked other := by
    rw [mem_asking, ← h.asked]
    constructor
    · exact Or.inl
    · rintro (hother | rfl)
      · exact hother
      · exact hasked
  failed other hother := by
    have hne : address ≠ other := by
      rintro rfl
      rw [hok] at hother
      cases hother
    rw [count_asking, if_neg hne, h.failed other hother]
    rfl

omit h in
theorem look_decimals (caching : Bool) (token : String) (standard : Int) (session : Session) :
    (Narrator.labelled config answer tokens caching).look (.decimals token standard) session =
      match tokens with
      | none => .inl standard
      | some source => source.look token standard session := rfl

/-- Decimals that are found in one session are found in the other. -/
theorem find_decimals {token : String} {standard n : Int}
    (hlook : (Narrator.labelled config answer tokens true).look (.decimals token standard) kept =
      .inl n) :
    (Narrator.labelled config answer tokens false).look (.decimals token standard) plain =
      .inl n := by
  rw [look_decimals] at hlook ⊢
  cases tokens with
  | none => exact hlook
  | some source =>
    dsimp only [TokenSource.look] at hlook ⊢
    rw [h.decimals] at hlook
    cases hknown : plain.decimals.get? (Text.lowercase token) with
    | some known =>
      rw [hknown] at hlook
      exact hlook
    | none =>
      rw [hknown] at hlook
      dsimp only at hlook ⊢
      split at hlook
      · cases hlook
      · next hendpoint =>
        rw [if_neg hendpoint]
        exact hlook

/-- A question about decimals is put in both sessions, and the reply is the same. -/
theorem put_decimals {token : String} {standard : Int} {reply : Except Fault (Except String Int)}
    {asked : Session}
    (hlook : (Narrator.labelled config answer tokens true).look (.decimals token standard) kept =
      .inr (reply, asked)) :
    ∃ asked', (Narrator.labelled config answer tokens false).look (.decimals token standard) plain =
      .inr (reply, asked') ∧ asked'.Mirrors answer asked := by
  rw [look_decimals] at hlook ⊢
  cases tokens with
  | none => cases hlook
  | some source =>
    dsimp only [TokenSource.look] at hlook ⊢
    rw [h.decimals] at hlook
    cases hknown : plain.decimals.get? (Text.lowercase token) with
    | some known =>
      rw [hknown] at hlook
      cases hlook
    | none =>
      rw [hknown] at hlook
      dsimp only at hlook ⊢
      split at hlook
      · next hendpoint =>
        rw [if_pos hendpoint]
        rw [TokenSource.ask_run, h.decimalQuestions] at hlook
        cases hlook
        exact ⟨_, rfl, h.decimals, rfl, h.log, h.asked, h.failed⟩
      · cases hlook

end Session.Mirrors

/-! ### Moves with and without kept answers -/

/-- The address whose label the question asks for is in lower case. -/
def Question.IsLower : Question → Prop
  | .label address => Text.lowercase address = address
  | .decimals _ _ => True

/-- The address whose label the question asks for, in lower case. -/
def Question.address? : Question → Option String
  | .label address => some (Text.lowercase address)
  | .decimals _ _ => none

/-- The address whose label the stage waits for. -/
def Stage.address? (stage : Stage) : Option String := stage.question?.bind Question.address?

/-- All addresses whose labels are still before the stage are in lower case. -/
def Stage.IsLower (stage : Stage) : Prop :=
  ∃ questions, stage.rest.Asks questions ∧ ∀ question ∈ questions, question.IsLower

/-- If the stage waits for a label, it is what the resolver answers, and was asked for. -/
def Stage.Honest (answer : String → Except Fault (Option String)) (session : Session) :
    Stage → Prop
  | .waiting (.label address) reply _ =>
    reply = answer (Text.lowercase address) ∧ Text.lowercase address ∈ session.labelQuestions
  | _ => True

theorem Stage.Honest.mono {answer : String → Except Fault (Option String)}
    {session later : Session} (h : session.labelQuestions ⊆ later.labelQuestions) :
    ∀ {stage : Stage}, stage.Honest answer session → stage.Honest answer later
  | .waiting (.label _) _ _, hstage => ⟨hstage.1, h hstage.2⟩
  | .waiting (.decimals _ _) _ _, _ => trivial
  | .ready _, _ => trivial
  | .finished _, _ => trivial

theorem Stage.honest_of_none {answer : String → Except Fault (Option String)} {session : Session} :
    ∀ {stage : Stage}, stage.address? = none → stage.Honest answer session
  | .waiting (.decimals _ _) _ _, _ => trivial
  | .ready _, _ => trivial
  | .finished _, _ => trivial

theorem Question.isLower_of_asks {question : Question} {next : question.Answer → Inquiry String}
    {questions : List Question} (hasks : (Inquiry.ask question next).Asks questions)
    (h : ∀ question ∈ questions, question.IsLower) : question.IsLower := by
  obtain ⟨rest, rfl, -⟩ := hasks
  exact h question List.mem_cons_self

namespace Narrator.Moves

variable {stage stage' : Stage} {kept' : Session}

theorem isLower {narrator : Narrator} (hlower : stage.IsLower)
    (hmove : narrator.Moves stage kept stage' kept') : stage'.IsLower := by
  obtain ⟨questions, hasks, hquestions⟩ := hlower
  have hrest {question : Question} {next : question.Answer → Inquiry String}
      (hasks : (Inquiry.ask question next).Asks questions) (answer : question.Answer) :
      (Stage.ready (next answer)).IsLower := by
    obtain ⟨rest, rfl, hnext⟩ := hasks
    exact ⟨rest, hnext answer, fun other hother => hquestions other (List.mem_cons_of_mem _ hother)⟩
  cases hmove with
  | ends outcome => exact ⟨questions, hasks, hquestions⟩
  | finds next hlook => exact hrest hasks _
  | puts next hlook => exact ⟨questions, hasks, hquestions⟩
  | @settles _ _ _ _ outcome next hsettle =>
    cases outcome with
    | ok answer => exact hrest hasks answer
    | error fault => exact ⟨[], trivial, List.forall_mem_nil _⟩

/-- A move with answers kept is a move without, or two of them: then a label that is known is asked
for and told again. -/
theorem mirrors (hlower : stage.IsLower)
    (htold : ∀ {address : String} {label : Option String}, kept.labels.get? address = some label →
      answer address = .ok label ∧ address ∈ kept.labelQuestions)
    (h : plain.Mirrors answer kept)
    (hmove : (labelled config answer tokens true).Moves stage kept stage' kept') :
    ∃ plain', plain'.Mirrors answer kept' ∧
      ((labelled config answer tokens false).Moves stage plain stage' plain' ∨
        ∃ stageMid plainMid,
          (labelled config answer tokens false).Moves stage plain stageMid plainMid ∧
            (labelled config answer tokens false).Moves stageMid plainMid stage' plain') := by
  obtain ⟨questions, hasks, hquestions⟩ := hlower
  cases hmove with
  | ends outcome => exact ⟨plain, h, Or.inl (.ends outcome plain)⟩
  | @finds question found _ next hlook =>
    have hlower := Question.isLower_of_asks hasks hquestions
    cases question with
    | decimals token standard => exact ⟨plain, h, Or.inl (.finds next (h.find_decimals hlook))⟩
    | label address =>
      have hlower : Text.lowercase address = address := hlower
      rw [look_kept, hlower] at hlook
      cases hknown : kept.labels.get? address with
      | none =>
        rw [hknown] at hlook
        cases hlook
      | some label =>
        rw [hknown] at hlook
        cases hlook
        obtain ⟨hanswer, hasked⟩ := htold hknown
        have hok : (answer address).isOk = true := by
          rw [hanswer]
          rfl
        have hput : (labelled config answer tokens false).look (.label address) plain =
            .inr (.ok found, plain.asking address) := by
          rw [look_plain, hanswer]
        exact ⟨plain.asking address, h.ask_known hok hasked, Or.inr ⟨_, _, .puts next hput,
          .settles next (settle_label_ok_run _ address found _)⟩⟩
  | @puts question reply _ _ next hlook =>
    have hlower := Question.isLower_of_asks hasks hquestions
    cases question with
    | decimals token standard =>
      obtain ⟨asked, hplain, hmirrors⟩ := h.put_decimals hlook
      exact ⟨asked, hmirrors, Or.inl (.puts next hplain)⟩
    | label address =>
      have hlower : Text.lowercase address = address := hlower
      rw [look_kept, hlower] at hlook
      cases hknown : kept.labels.get? address with
      | none =>
        rw [hknown] at hlook
        cases hlook
        exact ⟨plain.asking address, h.ask, Or.inl (.puts next (look_plain plain))⟩
      | some label =>
        rw [hknown] at hlook
        cases hlook
  | @settles question reply _ _ outcome next hsettle =>
    cases question with
    | label address =>
      cases reply with
      | ok label =>
        rw [settle_label_ok_run] at hsettle
        cases hsettle
        exact ⟨plain, ⟨h.decimals, h.decimalQuestions, h.log, h.asked, h.failed⟩,
          Or.inl (.settles next (settle_label_ok_run _ address label plain))⟩
      | error fault =>
        rw [settle_label_error_run] at hsettle
        cases hsettle
        exact ⟨plain, h, Or.inl (.settles next (settle_label_error_run _ address fault plain))⟩
    | decimals token standard =>
      cases reply with
      | ok told =>
        rw [settle_decimals_ok_run] at hsettle
        cases hsettle
        refine ⟨_, ?_, Or.inl (.settles next (settle_decimals_ok_run _ token standard told plain))⟩
        rw [h.decimals, h.log]
        exact ⟨rfl, h.decimalQuestions, rfl, h.asked, h.failed⟩
      | error fault =>
        rw [settle_decimals_error_run] at hsettle
        cases hsettle
        exact ⟨plain, h,
          Or.inl (.settles next (settle_decimals_error_run _ token standard fault plain))⟩

/-- What a move with answers kept does about labels: nothing; or it asks for a label that is not
known; or it settles a reply, which is kept if it is an answer. -/
theorem label_cases (hhonest : stage.Honest answer kept)
    (hmove : (labelled config answer tokens true).Moves stage kept stage' kept') :
    (stage'.address? = stage.address? ∧ stage'.address? = none ∧ kept'.labels = kept.labels ∧
        kept'.labelQuestions = kept.labelQuestions) ∨
      (∃ address, stage.address? = none ∧ stage'.address? = some address ∧
        kept.labels.get? address = none ∧ kept'.labels = kept.labels ∧
        kept'.labelQuestions = kept.labelQuestions ++ [address] ∧ stage'.Honest answer kept') ∨
      ∃ address, stage.address? = some address ∧ stage'.address? = none ∧
        address ∈ kept.labelQuestions ∧ kept'.labelQuestions = kept.labelQuestions ∧
        ((∃ label, answer address = .ok label ∧ kept'.labels = kept.labels.insert address label) ∨
          (answer address).isOk = false ∧ kept'.labels = kept.labels) := by
  cases hmove with
  | ends outcome => exact Or.inl ⟨rfl, rfl, rfl, rfl⟩
  | finds next hlook => exact Or.inl ⟨rfl, rfl, rfl, rfl⟩
  | @puts question reply _ _ next hlook =>
    cases question with
    | decimals token standard =>
      rw [Session.Mirrors.look_decimals] at hlook
      cases tokens with
      | none => cases hlook
      | some source =>
        dsimp only [TokenSource.look] at hlook
        cases hknown : kept.decimals.get? (Text.lowercase token) with
        | some known =>
          rw [hknown] at hlook
          cases hlook
        | none =>
          rw [hknown] at hlook
          dsimp only at hlook
          split at hlook
          · cases hlook
            exact Or.inl ⟨rfl, rfl, rfl, rfl⟩
          · cases hlook
    | label address =>
      rw [look_kept] at hlook
      cases hknown : kept.labels.get? (Text.lowercase address) with
      | some label =>
        rw [hknown] at hlook
        cases hlook
      | none =>
        rw [hknown] at hlook
        cases hlook
        refine Or.inr (Or.inl ⟨Text.lowercase address, rfl, rfl, hknown, rfl, rfl, rfl, ?_⟩)
        exact List.mem_append_right _ List.mem_cons_self
  | @settles question reply _ _ outcome next hsettle =>
    have hnone : (Stage.after next outcome).address? = none := by
      cases outcome with
      | ok answer => rfl
      | error fault => rfl
    cases question with
    | label address =>
      obtain ⟨hreply, hasked⟩ := hhonest
      refine Or.inr (Or.inr ⟨Text.lowercase address, rfl, hnone, hasked, ?_⟩)
      cases reply with
      | ok label =>
        rw [settle_label_ok_run] at hsettle
        cases hsettle
        exact ⟨rfl, Or.inl ⟨label, hreply.symm, rfl⟩⟩
      | error fault =>
        rw [settle_label_error_run] at hsettle
        cases hsettle
        refine ⟨rfl, Or.inr ⟨?_, rfl⟩⟩
        rw [← hreply]
        rfl
    | decimals token standard =>
      refine Or.inl ⟨hnone, hnone, ?_⟩
      cases reply with
      | ok told =>
        rw [settle_decimals_ok_run] at hsettle
        cases hsettle
        exact ⟨rfl, rfl⟩
      | error fault =>
        rw [settle_decimals_error_run] at hsettle
        cases hsettle
        exact ⟨rfl, rfl⟩

end Narrator.Moves

namespace Gathering

variable {tasks before after : List Task} {request : Request} {stage stage' : Stage}
  {kept' : Session}

/-- The addresses whose labels are waited for. -/
def awaitedAddresses (tasks : List Task) : List String := tasks.filterMap (·.stage.address?)

theorem count_awaitedAddresses (before after : List Task) (request : Request) (stage : Stage)
    (address : String) :
    (awaitedAddresses (before ++ ⟨request, stage⟩ :: after)).count address =
      (awaitedAddresses (before ++ after)).count address +
        if stage.address? = some address then 1 else 0 := by
  unfold awaitedAddresses
  rw [List.filterMap_append, List.filterMap_append, List.count_append, List.count_append,
    Nat.add_assoc, List.filterMap_cons]
  congr 1
  cases hstage : stage.address? with
  | none => rw [if_neg nofun, Nat.add_zero]
  | some other =>
    dsimp only
    rw [List.count_cons]
    congr 1
    exact if_congr (by rw [beq_iff_eq, Option.some_inj]) rfl rfl

/-- With answers kept, the session knows what the resolver answers, and addresses that are not known
have been asked about by those who still wait for the answer. -/
structure Remembers (answer : String → Except Fault (Option String)) (tasks : List Task)
    (session : Session) : Prop where
  told : ∀ {address : String} {label : Option String},
    session.labels.get? address = some label →
      answer address = .ok label ∧ address ∈ session.labelQuestions
  honest : ∀ task ∈ tasks, task.stage.Honest answer session
  awaited : ∀ {address : String}, (answer address).isOk = true →
    session.labels.get? address = none →
      session.labelQuestions.count address = (awaitedAddresses tasks).count address

theorem Remembers.begin (h : Remembers answer tasks kept) (config : Config) (request : Request) :
    Remembers answer (tasks ++ [.begun config request]) kept where
  told := h.told
  honest := List.forall_mem_append.2 ⟨h.honest, List.forall_mem_singleton.2 trivial⟩
  awaited hok hfree := by
    rw [Task.begun, count_awaitedAddresses, List.append_nil, if_neg nofun]
    exact h.awaited hok hfree

theorem Remembers.move (h : Remembers answer (before ++ ⟨request, stage⟩ :: after) kept)
    (hmove : (Narrator.labelled config answer tokens true).Moves stage kept stage' kept') :
    Remembers answer (before ++ ⟨request, stage'⟩ :: after) kept' := by
  have hstage : stage.Honest answer kept :=
    h.honest ⟨request, stage⟩ (List.mem_append_right before List.mem_cons_self)
  have hhonest (hasked : kept.labelQuestions ⊆ kept'.labelQuestions)
      (hstage' : stage'.Honest answer kept') :
      ∀ task ∈ before ++ ⟨request, stage'⟩ :: after, task.stage.Honest answer kept' :=
    forall_mem_move h.honest (fun _ htask => htask.mono hasked) fun _ => hstage'
  have hawaited {address : String} (hok : (answer address).isOk = true)
      (hfree : kept.labels.get? address = none) :
      kept.labelQuestions.count address = (awaitedAddresses (before ++ after)).count address +
        if stage.address? = some address then 1 else 0 := by
    rw [← count_awaitedAddresses before after request stage]
    exact h.awaited hok hfree
  rcases hmove.label_cases hstage with
    ⟨hsame, hnone, hlabels, hasked⟩ |
    ⟨address, hnone, hsome, hfree, hlabels, hasked, hstage'⟩ |
    ⟨address, hsome, hnone, hmem, hasked, hsettled⟩
  · refine ⟨?_, hhonest (hasked ▸ List.Subset.refl _) (Stage.honest_of_none hnone), ?_⟩
    · rw [hlabels, hasked]
      exact h.told
    · intro address hok hfree
      rw [hlabels] at hfree
      rw [hasked, count_awaitedAddresses, hsame]
      exact hawaited hok hfree
  · refine ⟨?_, hhonest (hasked ▸ List.subset_append_left _ _) hstage', ?_⟩
    · intro other label hknown
      rw [hlabels] at hknown
      rw [hasked]
      exact (h.told hknown).imp_right (List.mem_append_left _)
    · intro other hok hfree
      rw [hlabels] at hfree
      have hcount := hawaited hok hfree
      rw [hnone, if_neg nofun, Nat.add_zero] at hcount
      rw [hasked, List.count_append, hcount, count_awaitedAddresses, hsome, List.count_singleton]
      congr 1
      exact if_congr (by rw [beq_iff_eq, Option.some_inj]) rfl rfl
  · -- Only the address of the reply is waited for once less, and it is known now or has no answer.
    have hothers {other : String} (hne : address ≠ other) (hok : (answer other).isOk = true)
        (hfree : kept.labels.get? other = none) :
        kept'.labelQuestions.count other =
          (awaitedAddresses (before ++ ⟨request, stage'⟩ :: after)).count other := by
      rw [hasked, count_awaitedAddresses, hawaited hok hfree, hsome, hnone,
        if_neg fun heq => hne (Option.some.inj heq), if_neg nofun]
    have hhonest' := hhonest (hasked ▸ List.Subset.refl _) (Stage.honest_of_none hnone)
    rcases hsettled with ⟨label, hanswer, hlabels⟩ | ⟨hfails, hlabels⟩
    · refine ⟨fun {other known} hknown => ?_, hhonest', fun {other} hok hfree => ?_⟩
      · rw [hlabels] at hknown
        rw [hasked]
        by_cases heq : address = other
        · subst heq
          rw [OrderedMap.get?_insert_self] at hknown
          cases hknown
          exact ⟨hanswer, hmem⟩
        · rw [OrderedMap.get?_insert_of_ne _ _ heq] at hknown
          exact h.told hknown
      · rw [hlabels] at hfree
        by_cases heq : address = other
        · subst heq
          rw [OrderedMap.get?_insert_self] at hfree
          cases hfree
        · rw [OrderedMap.get?_insert_of_ne _ _ heq] at hfree
          exact hothers heq hok hfree
    · refine ⟨?_, hhonest', fun {other} hok hfree => ?_⟩
      · rw [hlabels, hasked]
        exact h.told
      · rw [hlabels] at hfree
        refine hothers ?_ hok hfree
        rintro rfl
        rw [hfails] at hok
        cases hok

/-- What one move leaves as it is: how often a known address was asked about. -/
theorem count_of_known {address : String} (hhonest : stage.Honest answer kept)
    (hmove : (Narrator.labelled config answer tokens true).Moves stage kept stage' kept')
    (hknown : kept.labels.get? address ≠ none) :
    kept'.labels.get? address ≠ none ∧
      kept'.labelQuestions.count address = kept.labelQuestions.count address := by
  rcases hmove.label_cases hhonest with
    ⟨-, -, hlabels, hasked⟩ | ⟨other, -, -, hfree, hlabels, hasked, -⟩ |
    ⟨other, -, -, -, hasked, ⟨label, -, hlabels⟩ | ⟨-, hlabels⟩⟩
  · rw [hlabels, hasked]
    exact ⟨hknown, rfl⟩
  · have hne : other ≠ address := by
      rintro rfl
      exact hknown hfree
    rw [hlabels, hasked, List.count_append, List.count_singleton,
      if_neg fun heq => hne (beq_iff_eq.1 heq)]
    exact ⟨hknown, rfl⟩
  · rw [hlabels, hasked]
    refine ⟨?_, rfl⟩
    by_cases heq : other = address
    · rw [heq, OrderedMap.get?_insert_self]
      exact nofun
    · rw [OrderedMap.get?_insert_of_ne _ _ heq]
      exact hknown
  · rw [hlabels, hasked]
    exact ⟨hknown, rfl⟩

/-- An address that gets known has been asked about by those who waited for it. -/
theorem count_le_of_move {address : String} {bound : Nat} (hok : (answer address).isOk = true)
    (h : Remembers answer (before ++ ⟨request, stage⟩ :: after) kept)
    (hbound : (awaitedAddresses (before ++ ⟨request, stage⟩ :: after)).count address ≤ bound)
    (hmove : (Narrator.labelled config answer tokens true).Moves stage kept stage' kept')
    (hle : kept.labels.get? address ≠ none → kept.labelQuestions.count address ≤ bound)
    (hknown' : kept'.labels.get? address ≠ none) :
    kept'.labelQuestions.count address ≤ bound := by
  have hhonest := h.honest _ (List.mem_append_right before List.mem_cons_self)
  by_cases hknown : kept.labels.get? address = none
  · have hsame : kept'.labelQuestions = kept.labelQuestions := by
      rcases hmove.label_cases hhonest with
        ⟨-, -, -, hasked⟩ | ⟨_, -, -, -, hlabels, -, -⟩ | ⟨_, -, -, -, hasked, -⟩
      · exact hasked
      · rw [hlabels] at hknown'
        exact absurd hknown hknown'
      · exact hasked
    rw [hsame, h.awaited hok hknown]
    exact hbound
  · rw [(count_of_known hhonest hmove hknown).2]
    exact hle hknown

section

variable {gathering : Gathering}
  (h : Remembers answer gathering.tasks gathering.session) (events : List Event)
include h

variable (config tokens) in
theorem follow_remembers :
    Remembers answer (gathering.follow (Narrator.labelled config answer tokens true) events).tasks
      (gathering.follow (Narrator.labelled config answer tokens true) events).session :=
  follow_invariant _ (fun request h => h.begin _ request) (fun hmove h => h.move hmove) events _ h

/-- What is known is not asked about any more. -/
theorem follow_count_of_known {address : String}
    (hknown : gathering.session.labels.get? address ≠ none) :
    (gathering.follow (Narrator.labelled config answer tokens true)
        events).session.labelQuestions.count address =
      gathering.session.labelQuestions.count address :=
  (follow_invariant (Narrator.labelled config answer tokens true)
    (I := fun tasks session => Remembers answer tasks session ∧
      session.labels.get? address ≠ none ∧ session.labelQuestions.count address =
        gathering.session.labelQuestions.count address)
    (fun request h => ⟨h.1.begin _ request, h.2⟩)
    (fun hmove h => by
      have hhonest := h.1.honest _ (List.mem_append_right _ List.mem_cons_self)
      obtain ⟨hknown', hcount⟩ := count_of_known hhonest hmove h.2.1
      exact ⟨h.1.move hmove, hknown', hcount.trans h.2.2⟩)
    events gathering ⟨h, hknown, rfl⟩).2.2

/-- An address that is answered is asked about by as many as wait for it at a time, if nothing is
known about it at the start. -/
theorem follow_count_le {address : String} {bound : Nat} {P : List Task → Prop}
    (hok : (answer address).isOk = true) (hfree : gathering.session.labels.get? address = none)
    (hbound : ∀ tasks, P tasks → (awaitedAddresses tasks).count address ≤ bound)
    (hP : gathering.Throughout (Narrator.labelled config answer tokens true) P events) :
    (gathering.follow (Narrator.labelled config answer tokens true)
      events).session.labelQuestions.count address ≤ bound := by
  obtain ⟨hremembers, hle⟩ := follow_induction
    (Narrator.labelled config answer tokens true) (P := P)
    (I := fun tasks session => Remembers answer tasks session ∧
      (session.labels.get? address ≠ none → session.labelQuestions.count address ≤ bound))
    (fun request h => ⟨h.1.begin _ request, h.2⟩)
    (fun hnow hmove h => ⟨h.1.move hmove, count_le_of_move hok h.1 (hbound _ hnow) hmove h.2⟩)
    events hP ⟨h, fun hknown => absurd hfree hknown⟩
  by_cases hknown : (gathering.follow (Narrator.labelled config answer tokens true)
      events).session.labels.get? address = none
  · rw [hremembers.awaited hok hknown]
    exact hbound _ (last_of_throughout _ hP)
  · exact hle hknown

end

end Gathering

/-! ### Gatherings side by side -/

/-- The addresses that a request is about are ASCII texts. -/
structure Request.IsAscii (request : Request) : Prop where
  sender : ∀ c ∈ request.sender.toList, c.toNat < 128
  destination : ∀ address ∈ request.destination, ∀ c ∈ address.toList, c.toNat < 128

instance (request : Request) : Decidable request.IsAscii :=
  decidable_of_iff ((∀ c ∈ request.sender.toList, c.toNat < 128) ∧
      ∀ address ∈ request.destination, ∀ c ∈ address.toList, c.toNat < 128)
    ⟨fun h => ⟨h.1, h.2⟩, fun h => ⟨h.sender, h.destination⟩⟩

/-- Requests about ASCII texts ask for the labels of addresses in lower case. -/
theorem Task.isLower_begun {request : Request} (hascii : request.IsAscii) (config : Config) :
    (Task.begun config request).stage.IsLower := by
  refine ⟨_, Inquiry.narrative_asks config request, fun question hquestion => ?_⟩
  rcases Request.mem_questions hquestion with ⟨address, haddress, rfl⟩ | ⟨_, _, _, _, _, rfl⟩
  · refine Address.lowercase_spelled ?_
    rcases haddress with rfl | hdestination | hvalid
    · exact Or.inr hascii.sender
    · exact Or.inr (hascii.destination address hdestination)
    · exact Or.inl hvalid
  · trivial

/-- The same events, where some moves take a second one. -/
inductive Event.Slows : List Event → List Event → Prop
  | nil : Slows [] []
  | once (event : Event) {events others : List Event} :
    Slows events others → Slows (event :: events) (event :: others)
  | twice (place : Nat) {events others : List Event} :
    Slows events others → Slows (.moved place :: events) (.moved place :: .moved place :: others)

/-- The requests that are asked for. -/
def Event.requests : Event → List Request
  | .asked requests => requests
  | .moved _ => []

namespace Gathering

variable (config tokens) in
/-- A step with answers kept is a step without, or two of them. -/
theorem step_mirrors {gathering other : Gathering} (htasks : other.tasks = gathering.tasks)
    (hmirrors : other.session.Mirrors answer gathering.session)
    (hremembers : Remembers answer gathering.tasks gathering.session)
    (hlower : ∀ task ∈ gathering.tasks, task.stage.IsLower) (place : Nat) :
    ∃ count, (count = 1 ∨ count = 2) ∧
      (other.follow (Narrator.labelled config answer tokens false)
          (List.replicate count (.moved place))).tasks =
        (gathering.step (Narrator.labelled config answer tokens true) place).tasks ∧
      (other.follow (Narrator.labelled config answer tokens false)
          (List.replicate count (.moved place))).session.Mirrors answer
        (gathering.step (Narrator.labelled config answer tokens true) place).session := by
  rcases gathering.step_cases (Narrator.labelled config answer tokens true) place with
    hover | ⟨before, request, stage, stage', after, rfl, hbefore, hmove, hafter⟩
  · obtain ⟨htasks', hsession'⟩ := step_of_over (Narrator.labelled config answer tokens true) hover
    rw [← htasks] at hover
    obtain ⟨htasks'', hsession''⟩ :=
      step_of_over (Narrator.labelled config answer tokens false) hover
    refine ⟨1, Or.inl rfl, ?_⟩
    show (other.step _ place).tasks = _ ∧ (other.step _ place).session.Mirrors answer _
    rw [htasks', hsession', htasks'', hsession'']
    exact ⟨htasks, hmirrors⟩
  · have hmem : (⟨request, stage⟩ : Task) ∈ gathering.tasks := by
      rw [hbefore]
      exact List.mem_append_right before List.mem_cons_self
    obtain ⟨plain', hmirrors', hone | ⟨stageMid, plainMid, hfirst, hsecond⟩⟩ :=
      hmove.mirrors (hlower _ hmem) hremembers.told hmirrors
    · obtain ⟨htasks', hsession'⟩ := step_of_moves _ (htasks.trans hbefore) hone
      refine ⟨1, Or.inl rfl, ?_⟩
      show (other.step _ _).tasks = _ ∧ (other.step _ _).session.Mirrors answer _
      rw [htasks', hsession', hafter]
      exact ⟨rfl, hmirrors'⟩
    · obtain ⟨htasksMid, hsessionMid⟩ := step_of_moves _ (htasks.trans hbefore) hfirst
      rw [← hsessionMid] at hsecond
      obtain ⟨htasks', hsession'⟩ := step_of_moves _ htasksMid hsecond
      refine ⟨2, Or.inr rfl, ?_⟩
      show ((other.step _ _).step _ _).tasks = _ ∧
        ((other.step _ _).step _ _).session.Mirrors answer _
      rw [htasks', hsession', hafter]
      exact ⟨rfl, hmirrors'⟩

theorem step_isLower {narrator : Narrator} {gathering : Gathering}
    (h : ∀ task ∈ gathering.tasks, task.stage.IsLower) (place : Nat) :
    ∀ task ∈ (gathering.step narrator place).tasks, task.stage.IsLower := by
  rcases gathering.step_cases narrator place with
    hover | ⟨before, request, stage, stage', after, -, hbefore, hmove, hafter⟩
  · rw [(step_of_over narrator hover).1]
    exact h
  · rw [hbefore] at h
    rw [hafter]
    exact forall_mem_move h (fun _ htask => htask) hmove.isLower

variable (config tokens) in
/-- What happens with answers kept happens without. -/
theorem follow_mirrors : ∀ {events : List Event},
    (∀ event ∈ events, ∀ request ∈ event.requests, request.IsAscii) →
    ∀ gathering other : Gathering, other.tasks = gathering.tasks →
      other.session.Mirrors answer gathering.session →
      Remembers answer gathering.tasks gathering.session →
      (∀ task ∈ gathering.tasks, task.stage.IsLower) →
        ∃ others, Event.Slows events others ∧
          (other.follow (Narrator.labelled config answer tokens false) others).tasks =
            (gathering.follow (Narrator.labelled config answer tokens true) events).tasks ∧
          (other.follow (Narrator.labelled config answer tokens false) others).session.Mirrors answer
            (gathering.follow (Narrator.labelled config answer tokens true) events).session
  | [], _, _, _, htasks, hmirrors, _, _ => ⟨[], .nil, htasks, hmirrors⟩
  | .asked requests :: events, hascii, gathering, other, htasks, hmirrors, hremembers, hlower => by
    obtain ⟨hrequests, hevents⟩ := List.forall_mem_cons.1 hascii
    have hbegun : ∀ task ∈ requests.map (Task.begun config), task.stage.IsLower := by
      intro task htask
      obtain ⟨request, hrequest, rfl⟩ := List.mem_map.1 htask
      exact Task.isLower_begun (hrequests request hrequest) config
    obtain ⟨others, hslows, hafter⟩ := follow_mirrors hevents
      (gathering.ask (Narrator.labelled config answer tokens true) requests)
      (other.ask (Narrator.labelled config answer tokens false) requests)
      (congrArg (· ++ requests.map (Task.begun config)) htasks) hmirrors
      (follow_remembers config tokens hremembers [.asked requests])
      (List.forall_mem_append.2 ⟨hlower, hbegun⟩)
    exact ⟨.asked requests :: others, .once _ hslows, hafter⟩
  | .moved place :: events, hascii, gathering, other, htasks, hmirrors, hremembers, hlower => by
    obtain ⟨-, hevents⟩ := List.forall_mem_cons.1 hascii
    obtain ⟨count, hcount, htasks', hmirrors'⟩ :=
      step_mirrors config tokens htasks hmirrors hremembers hlower place
    obtain ⟨others, hslows, hafter⟩ := follow_mirrors hevents _ _ htasks' hmirrors'
      (follow_remembers config tokens hremembers [.moved place])
      (step_isLower hlower place)
    refine ⟨List.replicate count (.moved place) ++ others, ?_, ?_⟩
    · rcases hcount with rfl | rfl
      · exact .once _ hslows
      · exact .twice place hslows
    · rw [follow_append]
      exact hafter

/-- A gathering with answers kept, next to one without. -/
structure Mirrors (answer : String → Except Fault (Option String)) (plain kept : Gathering) :
    Prop where
  /-- All requests have come equally far, and those that are over have the same outcomes. -/
  tasks : kept.tasks = plain.tasks
  /-- The same addresses were asked about. -/
  same : ∀ address,
    address ∈ kept.session.labelQuestions ↔ address ∈ plain.session.labelQuestions
  /-- An address that fails was asked about each time. -/
  always : ∀ address, (answer address).isOk = false →
    kept.session.labelQuestions.count address = plain.session.labelQuestions.count address
  /-- An address that is answered was asked about at most once for each request. -/
  few : ∀ address, (answer address).isOk = true →
    kept.session.labelQuestions.count address ≤ kept.tasks.length
  /-- If all requests are over, as many answers are kept as different addresses were answered. -/
  size : AllOver kept.tasks → kept.session.labels.size =
    (plain.session.labelQuestions.filter fun address => (answer address).isOk).dedup.length

/-- What keeping the answers of a resolver changes, where `later` happens after `first`. -/
structure Spares (answer : String → Except Fault (Option String)) (plain kept : Narrator)
    (start : Session) (first later : List Event) : Prop where
  /-- The same happens without kept answers, where requests take one move more to ask for what they
  have found. -/
  mirrors : ∃ others, Event.Slows (first ++ later) others ∧
    Mirrors answer ((idle start).follow plain others) ((idle start).follow kept (first ++ later))
  /-- If no two requests ever wait for the label of one address, each address that is answered was
  asked about once. -/
  once : (idle start).Throughout kept (fun tasks => (awaitedAddresses tasks).Nodup)
      (first ++ later) →
    ∀ address ∈ ((idle start).follow kept (first ++ later)).session.labelQuestions,
      (answer address).isOk = true →
        ((idle start).follow kept (first ++ later)).session.labelQuestions.count address = 1
  /-- If all requests are over after `first`, an address that was answered by then is not asked
  about any more. -/
  settled : AllOver ((idle start).follow kept first).tasks →
    ∀ address ∈ ((idle start).follow kept first).session.labelQuestions,
      (answer address).isOk = true →
        ((idle start).follow kept (first ++ later)).session.labelQuestions.count address =
          ((idle start).follow kept first).session.labelQuestions.count address

/-- An address that was answered is known when all requests are over. -/
theorem Remembers.known_of_over {gathering : Gathering} {address : String}
    (h : Remembers answer gathering.tasks gathering.session) (hover : AllOver gathering.tasks)
    (hasked : address ∈ gathering.session.labelQuestions) (hok : (answer address).isOk = true) :
    gathering.session.labels.get? address ≠ none := by
  intro hfree
  have hnobody : awaitedAddresses gathering.tasks = [] := by
    refine List.filterMap_eq_nil_iff.2 fun task htask => ?_
    obtain ⟨outcome, houtcome⟩ := Option.isSome_iff_exists.1 (hover task htask)
    rw [Stage.outcome?_eq_some_iff.1 houtcome]
    rfl
  have hcount := h.awaited hok hfree
  rw [hnobody, List.count_nil] at hcount
  exact absurd hasked (List.count_eq_zero.1 hcount)

variable (answer) in
theorem remembers_idle (session : Session) : Remembers answer (idle session.unlabelled).tasks
    (idle session.unlabelled).session where
  told h := nomatch h
  honest := List.forall_mem_nil _
  awaited _ _ := rfl

/-- What is known is what was asked about and answered. -/
theorem Remembers.size_eq {gathering : Gathering} {asked : List String}
    (h : Remembers answer gathering.tasks gathering.session) (hover : AllOver gathering.tasks)
    (hsame : ∀ address, address ∈ gathering.session.labelQuestions ↔ address ∈ asked) :
    gathering.session.labels.size =
      (asked.filter fun address => (answer address).isOk).dedup.length := by
  have hperm : gathering.session.labels.keys.Perm
      (asked.filter fun address => (answer address).isOk).dedup := by
    refine (List.perm_ext_iff_of_nodup gathering.session.labels.nodup (List.nodup_dedup _)).2
      fun address => ?_
    rw [List.mem_dedup, List.mem_filter, ← hsame]
    constructor
    · intro hkey
      cases hknown : gathering.session.labels.get? address with
      | none => exact absurd hkey (OrderedMap.get?_eq_none_iff.1 hknown)
      | some label =>
        obtain ⟨hanswer, hasked⟩ := h.told hknown
        refine ⟨hasked, ?_⟩
        rw [hanswer]
        rfl
    · rintro ⟨hasked, hok⟩
      by_contra hkey
      exact h.known_of_over hover hasked hok (OrderedMap.get?_eq_none_iff.2 hkey)
  calc gathering.session.labels.size = gathering.session.labels.keys.length :=
        (List.length_map _).symm
    _ = _ := hperm.length_eq

/-- Keeping the answers of a resolver that answers about each address in one way changes no
narrative, and spares the resolver what it has answered to requests that are over. -/
theorem follow_spares (config : Config) (answer : String → Except Fault (Option String))
    (tokens : Option TokenSource) (session : Session) {first later : List Event}
    (hascii : ∀ event ∈ first ++ later, ∀ request ∈ event.requests, request.IsAscii) :
    Spares answer (.labelled config answer tokens false) (.labelled config answer tokens true)
      session.unlabelled first later where
  mirrors := by
    have hstart := remembers_idle answer session
    have hsame : session.unlabelled.Mirrors answer session.unlabelled :=
      ⟨rfl, rfl, rfl, fun _ => Iff.rfl, fun _ _ => rfl⟩
    obtain ⟨others, hslows, htasks, hmirrors⟩ := follow_mirrors config tokens hascii
      (idle session.unlabelled) (idle session.unlabelled) rfl hsame hstart (List.forall_mem_nil _)
    refine ⟨others, hslows, htasks.symm, hmirrors.asked, hmirrors.failed, fun address hok => ?_,
      fun hover => ?_⟩
    · refine follow_count_le hstart _ hok rfl (fun tasks hlength => ?_)
        (throughout_length_le _ _ (idle session.unlabelled))
      exact Nat.le_trans List.count_le_length (Nat.le_trans (List.length_filterMap_le _ _) hlength)
    · exact (follow_remembers config tokens hstart _).size_eq hover hmirrors.asked
  once hapart address hasked hok := by
    have hstart := remembers_idle answer session
    refine Nat.le_antisymm ?_ (List.count_pos_iff.2 hasked)
    exact follow_count_le hstart _ hok rfl
      (fun tasks hnodup => List.nodup_iff_count_le_one.1 hnodup _) hapart
  settled hover address hasked hok := by
    have hfirst := follow_remembers config tokens
      (remembers_idle answer session) first
    rw [follow_append]
    exact follow_count_of_known hfirst later (hfirst.known_of_over hover hasked hok)

end Gathering

open Gathering in
/-- If each question is answered at once, no address that is answered is asked about twice. -/
theorem Narrator.count_outcomes_le (requests : List Request) (session : Session)
    (hok : (answer address).isOk = true) :
    (((labelled config answer tokens true).outcomes requests).run
      session.unlabelled).2.labelQuestions.count address ≤ 1 := by
  obtain ⟨places, fault, hfollow, hone⟩ := exists_outcomes (labelled config answer tokens true)
    requests [] session.unlabelled none (List.forall_mem_nil _)
  have hstart := follow_remembers config tokens
    (remembers_idle answer session) [.asked requests]
  have hle := follow_count_le hstart (places.map .moved) hok rfl
    (fun tasks hlength => List.nodup_iff_count_le_one.1 (nodup_of_length_awaited _ hlength) _) hone
  have hsession :=
    congrArg (fun gathering => gathering.session.labelQuestions.count address) hfollow
  exact hsession ▸ hle

end

/-! ### A resolver that answers about one address and fails at another -/

namespace Gold

/-- The sender of all requests fails, and one token has a label. -/
def answer (address : String) : Except Fault (Option String) :=
  if address = "0x1111111111111111111111111111111111111111" then .error .labelServiceDown
  else if address = "0xabababababababababababababababababababab" then .ok (some "GOLD")
  else .ok none

def config : Config := ⟨none, false, none⟩

/-- Two transfers of the token, whose address is spelled in two ways. Both ask for its label before
one of them is answered. -/
def transfers : List Event :=
  [.asked [Sale.transferring "0xabababababababababababababababababababab",
      Sale.transferring "0xABABABABABABABABABABABABABABABABABABABAB"]] ++
    (List.replicate 3 (.moved 0) ++ List.replicate 3 (.moved 1)) ++
    (List.replicate 5 (.moved 0) ++ List.replicate 5 (.moved 1))

/-- One more transfer of the token. -/
def another : List Event :=
  .asked [Sale.transferring "0xabababababababababababababababababababab"] ::
    List.replicate 6 (.moved 2)

end Gold

/-- Both transfers of a batch ask about the token, and no later one does. -/
theorem Gathering.follow_spares_gold :
    (∀ event ∈ Gold.transfers ++ Gold.another, ∀ request ∈ event.requests, request.IsAscii) ∧
      Spares Gold.answer (.labelled Gold.config Gold.answer none false)
        (.labelled Gold.config Gold.answer none true) Session.fresh.unlabelled Gold.transfers
        Gold.another ∧
      ((idle Session.fresh.unlabelled).follow (.labelled Gold.config Gold.answer none true)
          (Gold.transfers ++ Gold.another)).session.labelQuestions.count
        "0xabababababababababababababababababababab" = 2 := by
  have hascii : ∀ event ∈ Gold.transfers ++ Gold.another,
      ∀ request ∈ event.requests, request.IsAscii := by decide
  have hspares := follow_spares Gold.config Gold.answer none .fresh hascii
  have hfirst : AllOver ((idle Session.fresh.unlabelled).follow
        (.labelled Gold.config Gold.answer none true) Gold.transfers).tasks ∧
      ((idle Session.fresh.unlabelled).follow (.labelled Gold.config Gold.answer none true)
          Gold.transfers).session.labelQuestions =
        ["0x1111111111111111111111111111111111111111",
          "0xabababababababababababababababababababab",
          "0x1111111111111111111111111111111111111111",
          "0xabababababababababababababababababababab",
          "0x2222222222222222222222222222222222222222"] := by
    decide +kernel
  obtain ⟨hover, hasked⟩ := hfirst
  have hmem : "0xabababababababababababababababababababab" ∈
      ((idle Session.fresh.unlabelled).follow (.labelled Gold.config Gold.answer none true)
        Gold.transfers).session.labelQuestions := by
    rw [hasked]
    exact List.mem_cons_of_mem _ List.mem_cons_self
  refine ⟨hascii, hspares, ?_⟩
  rw [hspares.settled hover _ hmem (by decide), hasked]
  decide

/-- The resolver answers about the token, and is asked about it twice although answers are kept. -/
theorem Gathering.follow_transfers :
    (Gold.answer "0xabababababababababababababababababababab").isOk = true ∧
      (∀ event ∈ Gold.transfers, ∀ request ∈ event.requests, request.IsAscii) ∧
      let now := (idle Session.fresh.unlabelled).follow
        (.labelled Gold.config Gold.answer none true) Gold.transfers
      AllOver now.tasks ∧
        now.session.labelQuestions.count "0xabababababababababababababababababababab" = 2 := by
  decide +kernel

end Chronicle
