/-
# Gatherings and their moves

A request of a gathering goes on in moves: it finds an answer that is known, puts
a question, settles a reply, or ends. What each move preserves, while all other
requests stand still, every course of events preserves. One course is that each
request is answered at once and to its end before the next one begins. And
whatever has happened, the requests come to an end with moves of their own; if
they take turns, they do so within the moves that are set out for them.

Key definitions: `Stage.rest`, `Narrator.Moves`, `Event`, `Gathering.follow`,
`Gathering.AllOver`.
Key theorems: `Narrator.lookUp_run`, `Gathering.step_cases`, `Gathering.follow_induction`,
`Gathering.follow_invariant`, `Gathering.exists_outcomes`, `Gathering.exists_allOver`, `Narrator.narrateInRounds_run`.
-/
import Chronicle.Narration.Gathering
import Chronicle.Proofs.Conversations
import Mathlib.Data.List.Nodup

namespace Chronicle

/-! ### Questions that are answered at once -/

namespace Narrator

variable (narrator : Narrator)

theorem keepsLabels_of_mem {resolver : Resolver} (h : resolver ∈ narrator.resolver) :
    narrator.keepsLabels = resolver.caching := by
  rw [keepsLabels, Option.mem_def.1 h]
  rfl

theorem settle_label_ok_run (address : String) (label : Option String) (session : Session) :
    (narrator.settle (.label address) (.ok label)).run.run session = (.ok label,
      if narrator.keepsLabels then
        { session with labels := session.labels.insert (Text.lowercase address) label }
      else session) := by
  unfold settle
  split
  · rfl
  · rfl

theorem settle_label_error_run (address : String) (fault : Fault) (session : Session) :
    (narrator.settle (.label address) (.error fault)).run.run session = (.ok none, session) := rfl

theorem settle_decimals_ok_run (token : String) (standard : Int) (answer : Except String Int)
    (session : Session) :
    (narrator.settle (.decimals token standard) (.ok answer)).run.run session =
      (.ok (answer.toOption.getD standard),
        { session with
          decimals :=
            session.decimals.insert (Text.lowercase token) (answer.toOption.getD standard)
          log := session.log ++
            TokenSource.recordsOf (Text.lowercase token) standard answer }) := by
  cases answer with
  | ok n =>
    rw [TokenSource.recordsOf, List.append_nil]
    rfl
  | error reason => rfl

theorem settle_decimals_error_run (token : String) (standard : Int) (fault : Fault)
    (session : Session) :
    (narrator.settle (.decimals token standard) (.error fault)).run.run session =
      (.error fault, session) := rfl

/-- To look an answer up is to find it, or to put the question and to settle the reply. -/
theorem lookUp_run : ∀ (question : Question) (session : Session),
    (narrator.lookUp question).run.run session =
      match narrator.look question session with
      | .inl answer => (.ok answer, session)
      | .inr (reply, asked) => (narrator.settle question reply).run.run asked
  | .label address, session => by
    unfold lookUp look
    cases hresolver : narrator.resolver with
    | none => rfl
    | some resolver =>
      have hkeeps := narrator.keepsLabels_of_mem hresolver
      dsimp only [Resolver.labelOf]
      rw [Narration.run_tryCatch]
      unfold Resolver.resolve Resolver.look
      cases hcaching : resolver.caching with
      | true =>
        rw [if_pos rfl, if_pos rfl]
        cases hknown : session.labels.get? (Text.lowercase address) with
        | some label => rw [Resolver.labelOfKey_run_of_some hknown]; rfl
        | none =>
          rw [Resolver.labelOfKey_run_of_none hknown]
          dsimp only
          rw [Resolver.ask_run]
          cases hanswer : resolver.answer session.labelQuestions (Text.lowercase address) with
          | ok label =>
            rw [Resolver.learn_run_of_ok hanswer]
            refine Eq.trans ?_ (narrator.settle_label_ok_run address label _).symm
            rw [hkeeps, hcaching]
            rfl
          | error fault =>
            rw [Resolver.learn_run_of_error hanswer]
            rfl
      | false =>
        rw [if_neg Bool.false_ne_true, if_neg Bool.false_ne_true, Resolver.ask_run]
        cases hanswer : resolver.answer session.labelQuestions address with
        | ok label =>
          refine Eq.trans ?_ (narrator.settle_label_ok_run address label _).symm
          rw [hkeeps, hcaching]
          rfl
        | error fault => rfl
  | .decimals token standard, session => by
    unfold lookUp look
    cases narrator.tokens with
    | none => rfl
    | some source =>
      dsimp only [TokenSource.decimalsOf, TokenSource.look]
      cases hknown : session.decimals.get? (Text.lowercase token) with
      | some n => rw [TokenSource.decimalsOfKey_run_of_some _ hknown]
      | none =>
        rw [TokenSource.decimalsOfKey_run_of_none _ hknown]
        cases hendpoint : source.hasEndpoint with
        | true =>
          rw [if_pos rfl, if_pos rfl]
          dsimp only
          rw [TokenSource.ask_run]
          cases hreply : decimalsOfReply
              (source.reply session.decimalQuestions (Text.lowercase token)) with
          | ok answer =>
            rw [TokenSource.learn_run_of_ok _ hreply]
            exact (narrator.settle_decimals_ok_run token standard answer { session with
              decimalQuestions := session.decimalQuestions ++ [Text.lowercase token] }).symm
          | error fault =>
            rw [TokenSource.learn_run_of_error _ hreply]
            rfl
        | false => rfl

end Narrator

/-! ### Moves -/

namespace Stage

/-- What a stage still has to do: a stage that waits has its question before it. -/
def rest : Stage → Inquiry String
  | .ready inquiry => inquiry
  | .waiting question _ next => .ask question next
  | .finished outcome => .done outcome

theorem outcome?_eq_some_iff {stage : Stage} {outcome : Except Fault String} :
    stage.outcome? = some outcome ↔ stage = .finished outcome := by
  cases stage with
  | finished other =>
    constructor
    · rintro ⟨⟩
      rfl
    · rintro ⟨⟩
      rfl
  | _ => exact ⟨nofun, nofun⟩

/-- The question that a stage waits for. -/
def question? : Stage → Option Question
  | .waiting question _ _ => some question
  | _ => none

/-- Where a request stands after the answer to a question. -/
def after {question : Question} (next : question.Answer → Inquiry String) :
    Except Fault question.Answer → Stage
  | .ok answer => .ready (next answer)
  | .error fault => .finished (.error fault)

end Stage

/-- The moves of requests that are not over, and what they do to the session. -/
inductive Narrator.Moves (narrator : Narrator) : Stage → Session → Stage → Session → Prop
  | ends (outcome : Except Fault String) (session : Session) :
    Moves narrator (.ready (.done outcome)) session (.finished outcome) session
  | finds {question : Question} {answer : question.Answer} {session : Session}
    (next : question.Answer → Inquiry String) :
    narrator.look question session = .inl answer →
      Moves narrator (.ready (.ask question next)) session (.ready (next answer)) session
  | puts {question : Question} {reply : question.Reply} {session asked : Session}
    (next : question.Answer → Inquiry String) :
    narrator.look question session = .inr (reply, asked) →
      Moves narrator (.ready (.ask question next)) session (.waiting question reply next) asked
  | settles {question : Question} {reply : question.Reply} {session settled : Session}
    {outcome : Except Fault question.Answer} (next : question.Answer → Inquiry String) :
    (narrator.settle question reply).run.run session = (outcome, settled) →
      Moves narrator (.waiting question reply next) session (.after next outcome) settled

namespace Narrator

variable {narrator : Narrator}

theorem move_ask (question : Question) (next : question.Answer → Inquiry String)
    (session : Session) : narrator.move (.ready (.ask question next)) session =
      match narrator.look question session with
      | .inl answer => (.ready (next answer), session)
      | .inr (reply, asked) => (.waiting question reply next, asked) := rfl

theorem move_waiting (question : Question) (reply : question.Reply)
    (next : question.Answer → Inquiry String) (session : Session) :
    narrator.move (.waiting question reply next) session =
      match (narrator.settle question reply).run.run session with
      | (.ok answer, settled) => (.ready (next answer), settled)
      | (.error fault, settled) => (.finished (.error fault), settled) := rfl

theorem Moves.move_eq {stage stage' : Stage} {session session' : Session}
    (h : narrator.Moves stage session stage' session') :
    narrator.move stage session = (stage', session') := by
  cases h with
  | ends outcome => rfl
  | finds next hlook => rw [move_ask, hlook]
  | puts next hlook => rw [move_ask, hlook]
  | @settles _ _ _ _ outcome next hsettle =>
    rw [move_waiting, hsettle]
    cases outcome with
    | ok answer => rfl
    | error fault => rfl

/-- A request is over, or it makes one of the moves. -/
theorem move_cases (stage : Stage) (session : Session) :
    (∃ outcome, stage = .finished outcome) ∨
      narrator.Moves stage session (narrator.move stage session).1
        (narrator.move stage session).2 := by
  have hmoves {stage stage' : Stage} {session session' : Session}
      (h : narrator.Moves stage session stage' session') :
      narrator.Moves stage session (narrator.move stage session).1
        (narrator.move stage session).2 := by
    rw [h.move_eq]
    exact h
  cases stage with
  | finished outcome => exact Or.inl ⟨outcome, rfl⟩
  | waiting question reply next => exact Or.inr (hmoves (.settles next rfl))
  | ready inquiry =>
    cases inquiry with
    | done outcome => exact Or.inr (hmoves (.ends outcome session))
    | ask question next =>
      cases hlook : narrator.look question session with
      | inl answer => exact Or.inr (hmoves (.finds next hlook))
      | inr put => exact Or.inr (hmoves (.puts next hlook))

end Narrator

/-! ### What happens to a gathering -/

/-- What happens to a gathering: a batch of narratives is asked for, or the request at one place
makes a move. -/
inductive Event
  | asked (requests : List Request)
  | moved (place : Nat)
  deriving DecidableEq

namespace Gathering

variable (narrator : Narrator)

/-- The gathering after one more event. -/
def take (gathering : Gathering) : Event → Gathering
  | .asked requests => gathering.ask narrator requests
  | .moved place => gathering.step narrator place

/-- The gathering after some more events. -/
def follow (gathering : Gathering) (events : List Event) : Gathering :=
  events.foldl (take narrator) gathering

/-- `P` holds before, between and after the events. -/
def Throughout (P : List Task → Prop) : Gathering → List Event → Prop
  | gathering, [] => P gathering.tasks
  | gathering, event :: events =>
    P gathering.tasks ∧ Throughout P (gathering.take narrator event) events

/-- The questions that are put and not settled yet. -/
def awaited (tasks : List Task) : List Question := tasks.filterMap (·.stage.question?)

/-- All requests have outcomes. -/
def AllOver (tasks : List Task) : Prop := ∀ task ∈ tasks, task.stage.outcome?.isSome = true

instance (tasks : List Task) : Decidable (AllOver tasks) :=
  inferInstanceAs (Decidable (∀ task ∈ tasks, task.stage.outcome?.isSome = true))

/-- The request at the place is over with the outcome. -/
def Tells (gathering : Gathering) (place : Nat) (request : Request)
    (outcome : Except Fault String) : Prop :=
  gathering.tasks[place]?.map (fun task => (task.request, task.stage.outcome?)) =
    some (request, some outcome)

instance (gathering : Gathering) (place : Nat) (request : Request)
    (outcome : Except Fault String) : Decidable (gathering.Tells place request outcome) :=
  inferInstanceAs (Decidable (_ = some (request, some outcome)))

theorem AllOver.append_singleton {tasks : List Task} (h : AllOver tasks) (request : Request)
    (outcome : Except Fault String) : AllOver (tasks ++ [⟨request, .finished outcome⟩]) := by
  intro task htask
  rcases List.mem_append.1 htask with hmem | hmem
  · exact h task hmem
  · rw [List.mem_singleton.1 hmem]
    rfl

theorem tells_iff {gathering : Gathering} {place : Nat} {request : Request}
    {outcome : Except Fault String} :
    gathering.Tells place request outcome ↔
      gathering.tasks[place]? = some ⟨request, .finished outcome⟩ := by
  unfold Tells
  constructor
  · intro h
    obtain ⟨⟨found, stage⟩, htask, hpair⟩ := Option.map_eq_some_iff.1 h
    obtain ⟨rfl, hover⟩ := Prod.mk.inj hpair
    obtain rfl := Stage.outcome?_eq_some_iff.1 hover
    exact htask
  · intro h
    rw [h]
    rfl

instance decidableThroughout (P : List Task → Prop) [DecidablePred P] :
    ∀ (gathering : Gathering) (events : List Event),
      Decidable (gathering.Throughout narrator P events)
  | gathering, [] => inferInstanceAs (Decidable (P gathering.tasks))
  | gathering, event :: events =>
    have := decidableThroughout P (gathering.take narrator event) events
    inferInstanceAs (Decidable (P gathering.tasks ∧
      (gathering.take narrator event).Throughout narrator P events))

theorem follow_append (gathering : Gathering) (first later : List Event) :
    gathering.follow narrator (first ++ later) =
      (gathering.follow narrator first).follow narrator later :=
  List.foldl_append

theorem throughout_append {P : List Task → Prop} {first later : List Event} :
    ∀ {gathering : Gathering}, gathering.Throughout narrator P first →
      (gathering.follow narrator first).Throughout narrator P later →
        gathering.Throughout narrator P (first ++ later) := by
  induction first with
  | nil => exact fun _ hlater => hlater
  | cons event first ih => exact fun hfirst hlater => ⟨hfirst.1, ih hfirst.2 hlater⟩

theorem last_of_throughout {P : List Task → Prop} {events : List Event} :
    ∀ {gathering : Gathering}, gathering.Throughout narrator P events →
      P (gathering.follow narrator events).tasks := by
  induction events with
  | nil => exact fun hP => hP
  | cons event events ih => exact fun hP => ih hP.2

theorem throughout_mono {P Q : List Task → Prop} (h : ∀ tasks, P tasks → Q tasks)
    {events : List Event} : ∀ {gathering : Gathering}, gathering.Throughout narrator P events →
      gathering.Throughout narrator Q events := by
  induction events with
  | nil => exact fun hP => h _ hP
  | cons event events ih => exact fun hP => ⟨h _ hP.1, ih hP.2⟩

theorem throughout_true (gathering : Gathering) (events : List Event) :
    gathering.Throughout narrator (fun _ => True) events := by
  induction events generalizing gathering with
  | nil => trivial
  | cons event events ih => exact ⟨trivial, ih _⟩

/-- Nothing changes if nobody is at the place who may move. -/
theorem step_of_over {gathering : Gathering} {place : Nat}
    (h : ∀ task ∈ gathering.tasks[place]?, task.stage.outcome?.isSome = true) :
    (gathering.step narrator place).tasks = gathering.tasks ∧
      (gathering.step narrator place).session = gathering.session := by
  unfold step
  cases htask : gathering.tasks[place]? with
  | none => exact ⟨rfl, rfl⟩
  | some task =>
    obtain ⟨request, stage⟩ := task
    obtain ⟨outcome, houtcome⟩ := Option.isSome_iff_exists.1 (h _ htask)
    obtain rfl : stage = .finished outcome := Stage.outcome?_eq_some_iff.1 houtcome
    obtain ⟨hplace, hget⟩ := List.getElem?_eq_some_iff.1 htask
    refine ⟨?_, rfl⟩
    show gathering.tasks.set place ⟨request, .finished outcome⟩ = _
    rw [← hget, List.set_getElem_self]

/-- The step of the request that stands after those in `before`. -/
theorem step_append (session : Session) (before after : List Task) (request : Request)
    (stage : Stage) (fault : Option Fault) :
    step narrator ⟨session, before ++ ⟨request, stage⟩ :: after, fault⟩ before.length =
      ⟨(narrator.move stage session).2,
        before ++ ⟨request, (narrator.move stage session).1⟩ :: after,
        fault <|> (narrator.move stage session).1.fault?⟩ := by
  unfold step
  rw [List.getElem?_append_right (Nat.le_refl _), Nat.sub_self, List.getElem?_cons_zero]
  dsimp only
  rw [List.set_append_right _ _ (Nat.le_refl _), Nat.sub_self, List.set_cons_zero]

theorem step_of_moves {gathering : Gathering} {before after : List Task} {request : Request}
    {stage stage' : Stage} {session' : Session}
    (htasks : gathering.tasks = before ++ ⟨request, stage⟩ :: after)
    (hmove : narrator.Moves stage gathering.session stage' session') :
    (gathering.step narrator before.length).tasks = before ++ ⟨request, stage'⟩ :: after ∧
      (gathering.step narrator before.length).session = session' := by
  obtain ⟨session, tasks, fault⟩ := gathering
  dsimp only at htasks hmove
  subst htasks
  rw [step_append, hmove.move_eq]
  exact ⟨rfl, rfl⟩

/-- Nobody is at the place who may move, or the step is a move of the request that is. -/
theorem step_cases (gathering : Gathering) (place : Nat) :
    (∀ task ∈ gathering.tasks[place]?, task.stage.outcome?.isSome = true) ∨
      ∃ before request stage stage' after, before.length = place ∧
        gathering.tasks = before ++ ⟨request, stage⟩ :: after ∧
        narrator.Moves stage gathering.session stage' (gathering.step narrator place).session ∧
        (gathering.step narrator place).tasks = before ++ ⟨request, stage'⟩ :: after := by
  cases htask : gathering.tasks[place]? with
  | none => exact Or.inl fun _ hmem => absurd hmem (Option.not_mem_none _)
  | some task =>
    obtain ⟨hplace, hget⟩ := List.getElem?_eq_some_iff.1 htask
    obtain ⟨request, stage⟩ := task
    rcases narrator.move_cases stage gathering.session with ⟨outcome, rfl⟩ | hmove
    · refine Or.inl fun task hmem => ?_
      rw [← Option.some.inj hmem]
      rfl
    · have hlength : (gathering.tasks.take place).length = place :=
        List.length_take_of_le (Nat.le_of_lt hplace)
      have htasks : gathering.tasks =
          gathering.tasks.take place ++ ⟨request, stage⟩ :: gathering.tasks.drop (place + 1) := by
        rw [← hget, List.getElem_cons_drop, List.take_append_drop]
      obtain ⟨htasks', hsession'⟩ := step_of_moves narrator htasks hmove
      rw [hlength] at htasks' hsession'
      exact Or.inr ⟨_, request, stage, _, _, hlength, htasks, hsession' ▸ hmove, htasks'⟩

/-- What a move leaves to those who stand still, and gives to the one that moves, is true of all. -/
theorem forall_mem_move {P Q : Task → Prop} {before after : List Task} {task moved : Task}
    (h : ∀ other ∈ before ++ task :: after, P other) (hothers : ∀ other, P other → Q other)
    (hmoved : P task → Q moved) : ∀ other ∈ before ++ moved :: after, Q other := by
  obtain ⟨hbefore, hrest⟩ := List.forall_mem_append.1 h
  obtain ⟨htask, hafter⟩ := List.forall_mem_cons.1 hrest
  exact List.forall_mem_append.2 ⟨fun other hother => hothers other (hbefore other hother),
    List.forall_mem_cons.2
      ⟨hmoved htask, fun other hother => hothers other (hafter other hother)⟩⟩

section

variable {I : List Task → Session → Prop} {P : List Task → Prop}

theorem ask_induction
    (hbegun : ∀ {tasks session} (request : Request), I tasks session →
      I (tasks ++ [.begun narrator.config request]) session) :
    ∀ (requests : List Request) {tasks : List Task} {session : Session}, I tasks session →
      I (tasks ++ requests.map (Task.begun narrator.config)) session
  | [], tasks, _, hI => by
    rw [List.map_nil, List.append_nil]
    exact hI
  | request :: requests, tasks, session, hI => by
    rw [List.map_cons, ← List.singleton_append, ← List.append_assoc]
    exact ask_induction hbegun requests (hbegun request hI)

/-- What moves preserve as long as `P` holds, and what is true of a request that begins, is true
after all events if `P` holds throughout. -/
theorem follow_induction
    (hbegun : ∀ {tasks session} (request : Request), I tasks session →
      I (tasks ++ [.begun narrator.config request]) session)
    (hmoves : ∀ {before after request stage session stage' session'},
      P (before ++ ⟨request, stage⟩ :: after) → narrator.Moves stage session stage' session' →
        I (before ++ ⟨request, stage⟩ :: after) session →
          I (before ++ ⟨request, stage'⟩ :: after) session') :
    ∀ (events : List Event) {gathering : Gathering},
      gathering.Throughout narrator P events →
        I gathering.tasks gathering.session →
          I (gathering.follow narrator events).tasks (gathering.follow narrator events).session
  | [], _, _, hI => hI
  | .asked requests :: events, gathering, hP, hI =>
    follow_induction hbegun hmoves events hP.2 (ask_induction narrator hbegun requests hI)
  | .moved place :: events, gathering, hP, hI => by
    refine follow_induction hbegun hmoves events hP.2 ?_
    show I (gathering.step narrator place).tasks (gathering.step narrator place).session
    rcases gathering.step_cases narrator place with
      hover | ⟨before, request, stage, stage', after, -, htasks, hmove, htasks'⟩
    · obtain ⟨htasks, hsession⟩ := step_of_over narrator hover
      rw [htasks, hsession]
      exact hI
    · have hnow := hP.1
      rw [htasks] at hnow hI
      rw [htasks']
      exact hmoves hnow hmove hI

/-- What all moves preserve, and what is true of a request that begins, is true after all events. -/
theorem follow_invariant
    (hbegun : ∀ {tasks session} (request : Request), I tasks session →
      I (tasks ++ [.begun narrator.config request]) session)
    (hmoves : ∀ {before after request stage session stage' session'},
      narrator.Moves stage session stage' session' →
        I (before ++ ⟨request, stage⟩ :: after) session →
          I (before ++ ⟨request, stage'⟩ :: after) session')
    (events : List Event) (gathering : Gathering) (hI : I gathering.tasks gathering.session) :
    I (gathering.follow narrator events).tasks (gathering.follow narrator events).session :=
  follow_induction narrator (P := fun _ => True) hbegun (fun _ hmove => hmoves hmove) events
    (throughout_true narrator gathering events) hI

end

theorem length_step (gathering : Gathering) (place : Nat) :
    (gathering.step narrator place).tasks.length = gathering.tasks.length := by
  unfold step
  cases gathering.tasks[place]? with
  | none => rfl
  | some task => exact List.length_set

theorem length_le_follow (events : List Event) : ∀ gathering : Gathering,
    gathering.tasks.length ≤ (gathering.follow narrator events).tasks.length := by
  induction events with
  | nil => exact fun gathering => Nat.le_refl _
  | cons event events ih =>
    intro gathering
    refine Nat.le_trans ?_ (ih (gathering.take narrator event))
    cases event with
    | asked requests =>
      show _ ≤ (gathering.tasks ++ _).length
      rw [List.length_append]
      exact Nat.le_add_right _ _
    | moved place => exact Nat.le_of_eq (length_step narrator gathering place).symm

/-- There are never more requests than in the end. -/
theorem throughout_length_le (events : List Event) : ∀ gathering : Gathering,
    gathering.Throughout narrator
      (fun tasks => tasks.length ≤ (gathering.follow narrator events).tasks.length) events := by
  induction events with
  | nil => exact fun gathering => Nat.le_refl _
  | cons event events ih =>
    exact fun gathering => ⟨length_le_follow narrator (event :: events) gathering, ih _⟩

/-! ### Requests that come to an end -/

theorem follow_replicate_succ (session : Session) (before after : List Task) (request : Request)
    (stage : Stage) (fault : Option Fault) (count : Nat) :
    follow narrator ⟨session, before ++ ⟨request, stage⟩ :: after, fault⟩
        (List.replicate (count + 1) (.moved before.length)) =
      follow narrator ⟨(narrator.move stage session).2,
          before ++ ⟨request, (narrator.move stage session).1⟩ :: after,
          fault <|> (narrator.move stage session).1.fault?⟩
        (List.replicate count (.moved before.length)) := by
  rw [← step_append]
  rfl

/-- Moves of one request change its stage, and that of no other. -/
theorem follow_replicate (before after : List Task) (request : Request) : ∀ (count : Nat)
    (session : Session) (stage : Stage) (fault : Option Fault), ∃ session' stage' fault',
      follow narrator ⟨session, before ++ ⟨request, stage⟩ :: after, fault⟩
          (List.replicate count (.moved before.length)) =
        ⟨session', before ++ ⟨request, stage'⟩ :: after, fault'⟩
  | 0, session, stage, fault => ⟨session, stage, fault, rfl⟩
  | count + 1, session, stage, fault => by
    rw [follow_replicate_succ]
    exact follow_replicate before after request count _ _ _

/-- A request comes to its end with moves of its own, and has the outcome that it has if each
question is answered at once. -/
theorem exists_end (before after : List Task) (request : Request) : ∀ (inquiry : Inquiry String)
    (session : Session) (fault : Option Fault), ∃ count fault',
      follow narrator ⟨session, before ++ ⟨request, .ready inquiry⟩ :: after, fault⟩
          (List.replicate count (.moved before.length)) =
        ⟨((inquiry.run narrator).run.run session).2,
          before ++ ⟨request, .finished ((inquiry.run narrator).run.run session).1⟩ :: after, fault'⟩
  | .done outcome, session, fault => by
    refine ⟨1, fault <|> (Stage.finished outcome).fault?, ?_⟩
    rw [follow_replicate_succ]
    rfl
  | .ask question next, session, fault => by
    have hlook := narrator.lookUp_run question session
    cases hfound : narrator.look question session with
    | inl answer =>
      rw [hfound] at hlook
      obtain ⟨count, fault', hend⟩ :=
        exists_end before after request (next answer) session (fault <|> none)
      refine ⟨count + 1, fault', ?_⟩
      rw [follow_replicate_succ, Narrator.move_ask, hfound, Inquiry.run,
        Narration.run_bind_of_ok hlook]
      exact hend
    | inr put =>
      obtain ⟨reply, asked⟩ := put
      rw [hfound] at hlook
      dsimp only at hlook
      cases hsettle : (narrator.settle question reply).run.run asked with
      | mk outcome settled =>
        rw [hsettle] at hlook
        cases outcome with
        | ok answer =>
          obtain ⟨count, fault', hend⟩ := exists_end before after request (next answer) settled
            ((fault <|> none) <|> none)
          refine ⟨count + 2, fault', ?_⟩
          rw [follow_replicate_succ, Narrator.move_ask, hfound, follow_replicate_succ,
            Narrator.move_waiting, hsettle, Inquiry.run, Narration.run_bind_of_ok hlook]
          exact hend
        | error reason =>
          refine ⟨2, (fault <|> none) <|> some reason, ?_⟩
          rw [follow_replicate_succ, Narrator.move_ask, hfound, follow_replicate_succ,
            Narrator.move_waiting, hsettle, Inquiry.run, Narration.run_bind_of_error hlook]
          rfl

theorem throughout_replicate {P : List Task → Prop} {before after : List Task} {request : Request}
    (h : ∀ stage, P (before ++ ⟨request, stage⟩ :: after)) (session : Session) (stage : Stage)
    (fault : Option Fault) (count : Nat) :
    Throughout narrator P ⟨session, before ++ ⟨request, stage⟩ :: after, fault⟩
      (List.replicate count (.moved before.length)) := by
  induction count generalizing session stage fault with
  | zero => exact h stage
  | succ count ih =>
    rw [List.replicate_succ]
    refine ⟨h stage, ?_⟩
    show Throughout narrator P (step narrator _ _) _
    rw [step_append]
    exact ih _ _ _

theorem awaited_over {tasks : List Task} (h : AllOver tasks) : awaited tasks = [] := by
  refine List.filterMap_eq_nil_iff.2 fun task htask => ?_
  obtain ⟨outcome, houtcome⟩ := Option.isSome_iff_exists.1 (h task htask)
  rw [Stage.outcome?_eq_some_iff.1 houtcome]
  rfl

/-- If requests wait one at a time, no two of them wait for the same. -/
theorem nodup_of_length_awaited {β : Type} (f : Question → Option β) {tasks : List Task}
    (h : (awaited tasks).length ≤ 1) :
    (tasks.filterMap fun task => task.stage.question?.bind f).Nodup := by
  have hquestions : (tasks.filterMap fun task => task.stage.question?.bind f) =
      (awaited tasks).filterMap f := List.filterMap_filterMap.symm
  rw [hquestions]
  match hawaited : awaited tasks with
  | [] => exact List.nodup_nil
  | [question] =>
    rw [List.filterMap_cons, List.filterMap_nil]
    split
    · exact List.nodup_nil
    · exact List.nodup_singleton _
  | _ :: _ :: _ =>
    rw [hawaited] at h
    exact absurd (Nat.le_of_succ_le_succ h) (Nat.not_succ_le_zero _)

theorem awaited_begun (config : Config) (requests : List Request) :
    awaited (requests.map (Task.begun config)) = [] := by
  refine List.filterMap_eq_nil_iff.2 fun task htask => ?_
  obtain ⟨request, -, rfl⟩ := List.mem_map.1 htask
  rfl

theorem awaited_append (first later : List Task) :
    awaited (first ++ later) = awaited first ++ awaited later :=
  List.filterMap_append

theorem awaited_cons (request : Request) (stage : Stage) (tasks : List Task) :
    awaited (⟨request, stage⟩ :: tasks) = stage.question?.toList ++ awaited tasks := by
  unfold awaited
  rw [List.filterMap_cons]
  cases stage.question? with
  | none => rfl
  | some question => rfl

theorem length_awaited_le_one {before : List Task} (h : AllOver before) (request : Request)
    (stage : Stage) (config : Config) (requests : List Request) :
    (awaited (before ++ ⟨request, stage⟩ :: requests.map (Task.begun config))).length ≤ 1 := by
  rw [awaited_append, awaited_cons, awaited_over h, awaited_begun, List.nil_append,
    List.append_nil]
  cases stage.question? with
  | none => exact Nat.zero_le 1
  | some question => exact Nat.le_refl 1

/-- If each question is answered at once, requests that begin together come to their ends one after
the other, and no two of them wait at a time. -/
theorem exists_outcomes : ∀ (requests : List Request) (before : List Task) (session : Session)
    (fault : Option Fault), AllOver before →
      ∃ places fault',
        let begun : Gathering :=
          ⟨session, before ++ requests.map (Task.begun narrator.config), fault⟩
        begun.follow narrator (List.map .moved places) =
            ⟨((narrator.outcomes requests).run session).2,
              before ++ List.zipWith (fun request outcome => ⟨request, .finished outcome⟩) requests
                ((narrator.outcomes requests).run session).1, fault'⟩ ∧
          begun.Throughout narrator (fun tasks => (awaited tasks).length ≤ 1)
            (List.map .moved places)
  | [], before, session, fault, hbefore => by
    refine ⟨[], fault, rfl, ?_⟩
    show (awaited (before ++ [])).length ≤ 1
    rw [List.append_nil, awaited_over hbefore]
    exact Nat.zero_le 1
  | request :: requests, before, session, fault, hbefore => by
    obtain ⟨count, fault', hend⟩ := exists_end narrator before
      (requests.map (Task.begun narrator.config)) request
      (Inquiry.narrative narrator.config request) session fault
    obtain ⟨places, fault'', hrest, halong⟩ := exists_outcomes requests _
      ((narrator.narrate request).run.run session).2 fault'
      (hbefore.append_singleton request ((narrator.narrate request).run.run session).1)
    rw [List.append_assoc, List.singleton_append] at hrest halong
    refine ⟨List.replicate count before.length ++ places, fault'', ?_⟩
    dsimp only
    rw [List.map_append, List.map_replicate, List.map_cons, follow_append]
    refine ⟨?_, throughout_append _ (throughout_replicate _ (fun stage => ?_) _ _ _ count) ?_⟩
    · show follow narrator (follow narrator ⟨session, before ++ ⟨request, .ready _⟩ :: _, fault⟩ _)
        _ = _
      rw [hend]
      refine hrest.trans ?_
      rw [List.append_assoc]
      rfl
    · exact length_awaited_le_one hbefore request stage _ requests
    · show Throughout narrator _ (follow narrator
        ⟨session, before ++ ⟨request, .ready _⟩ :: _, fault⟩ _) _
      rw [hend]
      exact halong

/-- Wherever a request stands, it comes to an end with moves of its own. -/
theorem exists_over (before after : List Task) (request : Request) (session : Session)
    (fault : Option Fault) : ∀ stage : Stage, ∃ count session' outcome fault',
      follow narrator ⟨session, before ++ ⟨request, stage⟩ :: after, fault⟩
          (List.replicate count (.moved before.length)) =
        ⟨session', before ++ ⟨request, .finished outcome⟩ :: after, fault'⟩
  | .finished outcome => ⟨0, session, outcome, fault, rfl⟩
  | .ready inquiry => by
    obtain ⟨count, fault', hend⟩ := exists_end narrator before after request inquiry session fault
    exact ⟨count, _, _, fault', hend⟩
  | .waiting question reply next => by
    cases hsettle : (narrator.settle question reply).run.run session with
    | mk outcome settled =>
      cases outcome with
      | error reason =>
        refine ⟨1, settled, .error reason, fault <|> some reason, ?_⟩
        rw [follow_replicate_succ, Narrator.move_waiting, hsettle]
        rfl
      | ok answer =>
        obtain ⟨count, fault', hend⟩ :=
          exists_end narrator before after request (next answer) settled (fault <|> none)
        refine ⟨count + 1, ?_⟩
        rw [follow_replicate_succ, Narrator.move_waiting, hsettle]
        exact ⟨_, _, fault', hend⟩

theorem exists_allOver_append (after : List Task) : ∀ (before : List Task) (session : Session)
    (fault : Option Fault), AllOver before →
      ∃ places : List Nat,
        AllOver (follow narrator ⟨session, before ++ after, fault⟩ (places.map .moved)).tasks := by
  induction after with
  | nil =>
    intro before session fault hbefore
    refine ⟨[], ?_⟩
    rw [List.append_nil]
    exact hbefore
  | cons task after ih =>
    intro before session fault hbefore
    obtain ⟨request, stage⟩ := task
    obtain ⟨count, session', outcome, fault', hend⟩ :=
      exists_over narrator before after request session fault stage
    obtain ⟨places, hover⟩ := ih _ session' fault' (hbefore.append_singleton request outcome)
    rw [List.append_assoc, List.singleton_append] at hover
    refine ⟨List.replicate count before.length ++ places, ?_⟩
    rw [List.map_append, List.map_replicate, follow_append, hend]
    exact hover

/-- Whatever has happened, the requests come to their ends one after the other if nothing else
happens any more. -/
theorem exists_allOver : ∀ gathering : Gathering,
    ∃ places : List Nat, AllOver (gathering.follow narrator (places.map .moved)).tasks
  | ⟨session, tasks, fault⟩ =>
    exists_allOver_append narrator tasks [] session fault fun _ h => nomatch h

/-- Requests that are over do not matter for what happens to others. -/
theorem follow_over {done : List Task} (hover : AllOver done) (session : Session)
    (fault : Option Fault) (events : List Event) :
    ∃ later : List Event,
      (follow narrator ⟨session, done, fault⟩ events).tasks =
          done ++ ((idle session).follow narrator later).tasks ∧
        (follow narrator ⟨session, done, fault⟩ events).session =
          ((idle session).follow narrator later).session := by
  refine follow_invariant narrator (I := fun tasks after => ∃ later : List Event,
      tasks = done ++ ((idle session).follow narrator later).tasks ∧
        after = ((idle session).follow narrator later).session)
    ?_ ?_ events _ ⟨[], (List.append_nil done).symm, rfl⟩
  · rintro _ _ request ⟨later, rfl, rfl⟩
    refine ⟨later ++ [.asked [request]], ?_, ?_⟩
    · rw [follow_append, List.append_assoc]
      rfl
    · rw [follow_append]
      rfl
  · intro before after request stage session stage' session' hmove h
    obtain ⟨later, htasks, rfl⟩ := h
    obtain ⟨rest, rfl, hrest⟩ : ∃ rest, before = done ++ rest ∧
        ((idle session).follow narrator later).tasks = rest ++ ⟨request, stage⟩ :: after := by
      rcases List.append_eq_append_iff.1 htasks with ⟨moved, rfl, hmoved⟩ | hrest
      · cases moved with
        | nil => exact ⟨[], by rw [List.append_nil, List.append_nil], hmoved.symm⟩
        | cons task moved =>
          -- A request that is over makes no moves.
          obtain ⟨rfl, -⟩ := List.cons.inj hmoved
          have hstage := hover _ (List.mem_append_right before List.mem_cons_self)
          obtain ⟨outcome, houtcome⟩ := Option.isSome_iff_exists.1 hstage
          obtain rfl : stage = .finished outcome := Stage.outcome?_eq_some_iff.1 houtcome
          cases hmove
      · exact hrest
    obtain ⟨htasks', hsession'⟩ := step_of_moves narrator hrest hmove
    refine ⟨later ++ [.moved rest.length], ?_, ?_⟩
    · rw [follow_append, List.append_assoc]
      exact congrArg (done ++ ·) htasks'.symm
    · rw [follow_append]
      exact hsession'.symm

end Gathering

/-! ### Requests that take turns -/

/-- The stage has at most so many moves before it. -/
def Stage.Within : Nat → Stage → Prop
  | moves, .ready inquiry =>
    ∃ questions, inquiry.Asks questions ∧ 2 * questions.length + 1 ≤ moves
  | moves, .waiting _ _ next =>
    ∃ questions, (∀ answer, (next answer).Asks questions) ∧ 2 * questions.length + 2 ≤ moves
  | _, .finished _ => True

theorem Stage.Within.mono {few many : Nat} (hle : few ≤ many) : ∀ {stage : Stage},
    stage.Within few → stage.Within many
  | .ready _, ⟨questions, hasks, hfew⟩ => ⟨questions, hasks, Nat.le_trans hfew hle⟩
  | .waiting _ _ _, ⟨questions, hasks, hfew⟩ => ⟨questions, hasks, Nat.le_trans hfew hle⟩
  | .finished _, _ => trivial

/-- A stage with no moves before it is over. -/
theorem Stage.isSome_outcome_of_within : ∀ {stage : Stage}, stage.Within 0 →
    stage.outcome?.isSome = true
  | .finished _, _ => rfl
  | .ready _, ⟨_, _, h⟩ => absurd h (Nat.not_succ_le_zero _)
  | .waiting _ _ _, ⟨_, _, h⟩ => absurd h (Nat.not_succ_le_zero _)

/-- Each move leaves one move less. -/
theorem Narrator.move_within {narrator : Narrator} {moves : Nat} {stage : Stage}
    (session : Session) (h : stage.Within (moves + 1)) :
    (narrator.move stage session).1.Within moves := by
  rcases narrator.move_cases stage session with ⟨outcome, rfl⟩ | hmove
  · trivial
  · generalize (narrator.move stage session).1 = stage' at hmove
    generalize (narrator.move stage session).2 = session' at hmove
    cases hmove with
    | ends outcome => trivial
    | finds next hlook =>
      obtain ⟨_, ⟨rest, rfl, hnext⟩, hmoves⟩ := h
      rw [List.length_cons] at hmoves
      exact ⟨rest, hnext _, by omega⟩
    | puts next hlook =>
      obtain ⟨_, ⟨rest, rfl, hnext⟩, hmoves⟩ := h
      rw [List.length_cons] at hmoves
      exact ⟨rest, hnext, by omega⟩
    | @settles _ _ _ _ outcome next hsettle =>
      obtain ⟨rest, hnext, hmoves⟩ := h
      cases outcome with
      | ok answer => exact ⟨rest, hnext answer, by omega⟩
      | error fault => trivial

namespace Gathering

variable {narrator : Narrator} {gathering : Gathering} {moves : Nat} {places : List Nat}

/-- Each request has at most so many moves before it, and those at the places one more. -/
def Due (moves : Nat) (places : List Nat) (gathering : Gathering) : Prop :=
  ∀ place task, gathering.tasks[place]? = some task →
    task.stage.Within moves ∨ place ∈ places ∧ task.stage.Within (moves + 1)

/-- With its step a request is no longer one that has one more move before it. -/
theorem step_due {place : Nat} (h : gathering.Due moves (place :: places)) :
    (gathering.step narrator place).Due moves places := by
  intro other task htask
  unfold step at htask
  cases hfound : gathering.tasks[place]? with
  | none =>
    rw [hfound] at htask
    rcases h other task htask with hfew | ⟨hmem, hmany⟩
    · exact Or.inl hfew
    · rcases List.mem_cons.1 hmem with rfl | hmem
      · rw [hfound] at htask
        cases htask
      · exact Or.inr ⟨hmem, hmany⟩
  | some found =>
    rw [hfound] at htask
    dsimp only at htask
    by_cases heq : place = other
    · subst heq
      obtain ⟨hplace, -⟩ := List.getElem?_eq_some_iff.1 hfound
      rw [List.getElem?_set_self hplace] at htask
      cases htask
      refine Or.inl (narrator.move_within _ ?_)
      rcases h place found hfound with hfew | ⟨-, hmany⟩
      · exact hfew.mono (Nat.le_succ moves)
      · exact hmany
    · rw [List.getElem?_set_ne heq] at htask
      rcases h other task htask with hfew | ⟨hmem, hmany⟩
      · exact Or.inl hfew
      · rcases List.mem_cons.1 hmem with rfl | hmem
        · exact absurd rfl heq
        · exact Or.inr ⟨hmem, hmany⟩

theorem Due.cons (place : Nat) (h : gathering.Due moves places) :
    gathering.Due moves (place :: places) :=
  fun other task htask => (h other task htask).imp_right (And.imp_left (List.mem_cons_of_mem place))

section

variable (takesTime : Question → Bool)

theorem goOn_due (place count : Nat) (h : gathering.Due moves places) :
    (gathering.goOn narrator takesTime place count).Due moves places := by
  induction count generalizing gathering with
  | zero => exact h
  | succ count ih =>
    unfold goOn
    dsimp only
    split
    · exact step_due (h.cons place)
    · exact ih (step_due (h.cons place))

theorem goOn_succ_due {place count : Nat} (h : gathering.Due moves (place :: places)) :
    (gathering.goOn narrator takesTime place (count + 1)).Due moves places := by
  unfold goOn
  dsimp only
  split
  · exact step_due h
  · exact goOn_due takesTime place count (step_due h)

theorem foldl_goOn_due (count : Nat) : ∀ (places : List Nat) {gathering : Gathering},
    gathering.Due moves places →
      (places.foldl (fun gathering place => gathering.goOn narrator takesTime place (count + 1))
        gathering).Due moves []
  | [], _, h => h
  | _ :: places, _, h => foldl_goOn_due count places (goOn_succ_due takesTime h)

/-- With a round each request has one move less before it. -/
theorem round_due (count : Nat) (h : gathering.Due (moves + 1) []) :
    (gathering.round narrator takesTime (count + 1)).Due moves [] := by
  refine foldl_goOn_due takesTime count _ fun place task htask => ?_
  obtain ⟨hplace, -⟩ := List.getElem?_eq_some_iff.1 htask
  rcases h place task htask with hmany | ⟨hmem, -⟩
  · exact Or.inr ⟨List.mem_range.2 hplace, hmany⟩
  · cases hmem

theorem repeat_round_due (count : Nat) : ∀ (rounds : Nat) {moves : Nat},
    gathering.Due (moves + rounds) [] →
      (Nat.repeat (round narrator takesTime (count + 1)) rounds gathering).Due moves []
  | 0, _, h => h
  | rounds + 1, moves, h => by
    refine round_due takesTime count (repeat_round_due count rounds ?_)
    rw [Nat.add_right_comm]
    exact h

variable (narrator)

/-- To go on is to make some moves. -/
theorem goOn_follow (place count : Nat) (gathering : Gathering) : ∃ places : List Nat,
    gathering.goOn narrator takesTime place count =
      gathering.follow narrator (places.map .moved) := by
  induction count generalizing gathering with
  | zero => exact ⟨[], rfl⟩
  | succ count ih =>
    unfold goOn
    dsimp only
    split
    · exact ⟨[place], rfl⟩
    · obtain ⟨places, hplaces⟩ := ih (gathering.step narrator place)
      exact ⟨place :: places, hplaces⟩

theorem foldl_goOn_follow (count : Nat) : ∀ (places : List Nat) (gathering : Gathering),
    ∃ moved : List Nat,
      places.foldl (fun gathering place => gathering.goOn narrator takesTime place count) gathering =
        gathering.follow narrator (moved.map .moved)
  | [], _ => ⟨[], rfl⟩
  | place :: places, gathering => by
    obtain ⟨first, hfirst⟩ := goOn_follow narrator takesTime place count gathering
    obtain ⟨rest, hrest⟩ := foldl_goOn_follow count places
      (gathering.goOn narrator takesTime place count)
    refine ⟨first ++ rest, ?_⟩
    rw [List.foldl_cons, hrest, hfirst, List.map_append, follow_append]

theorem repeat_round_follow (count : Nat) (gathering : Gathering) : ∀ rounds : Nat,
    ∃ moved : List Nat, Nat.repeat (round narrator takesTime count) rounds gathering =
      gathering.follow narrator (moved.map .moved)
  | 0 => ⟨[], rfl⟩
  | rounds + 1 => by
    obtain ⟨first, hfirst⟩ := repeat_round_follow count gathering rounds
    obtain ⟨rest, hrest⟩ := foldl_goOn_follow narrator takesTime count _
      (Nat.repeat (round narrator takesTime count) rounds gathering)
    refine ⟨first ++ rest, ?_⟩
    rw [List.map_append, follow_append, ← hfirst]
    exact hrest

end

/-- The moves that are set out for requests are enough for each of them. -/
theorem ask_due (narrator : Narrator) (session : Session) (requests : List Request) :
    ((idle session).ask narrator requests).Due (Narrator.movesFor narrator.config requests) [] := by
  intro place task htask
  obtain ⟨request, hrequest, rfl⟩ := List.mem_map.1 (List.mem_of_getElem? htask)
  refine Or.inl ⟨request.questions narrator.config, Inquiry.narrative_asks _ request, ?_⟩
  clear htask
  induction requests with
  | nil => cases hrequest
  | cons first rest ih =>
    rcases List.mem_cons.1 hrequest with rfl | hrest
    · exact Nat.le_max_left _ _
    · exact Nat.le_trans (ih hrest) (Nat.le_max_right _ _)

end Gathering

open Gathering in
/-- Requests that take turns come to their ends. -/
theorem Narrator.narrateInRounds_run (narrator : Narrator) (takesTime : Question → Bool)
    (requests : List Request) (session : Session) :
    ∃ places : List Nat,
      let gathering := ((idle session).ask narrator requests).follow narrator (places.map .moved)
      (narrator.narrateInRounds takesTime requests).run.run session =
          (gathering.answer, gathering.session) ∧ AllOver gathering.tasks := by
  have hdue := ask_due narrator session requests
  obtain ⟨places, hplaces⟩ := repeat_round_follow narrator takesTime
    (movesFor narrator.config requests) ((idle session).ask narrator requests)
    (movesFor narrator.config requests)
  refine ⟨places, ?_⟩
  dsimp only
  rw [← hplaces]
  refine ⟨rfl, fun task htask => ?_⟩
  obtain ⟨place, hplace⟩ := List.mem_iff_getElem?.1 htask
  cases hmoves : movesFor narrator.config requests with
  | zero =>
    rw [hmoves] at hdue hplace
    rcases hdue place task hplace with hnone | ⟨hmem, -⟩
    · exact Stage.isSome_outcome_of_within hnone
    · cases hmem
  | succ count =>
    rw [hmoves] at hdue hplace
    rw [← Nat.zero_add (count + 1)] at hdue
    rcases repeat_round_due takesTime count (count + 1) hdue place task hplace with
      hnone | ⟨hmem, -⟩
    · exact Stage.isSome_outcome_of_within hnone
    · cases hmem

end Chronicle
