/- # Requests that are worked on side by side

A source need not answer a question at once, and while it does not, the other
requests of a batch go on. What a request knows is looked up before its question
is put, and the answer is kept after it has come; in between, another request
may put the same question.

A gathering is a session together with the requests that share it, each of them
as far as it has come. It goes on by moves, and each move is one of one request.
Which request moves next is left open: all that may happen while sources take
their time is some order of moves.

Key definitions: `Narrator.look`, `Narrator.settle`, `Stage`, `Narrator.move`,
`Gathering`, `Gathering.step`, `Narrator.narrateInRounds`.
-/
import Chronicle.Narration.Narrator

namespace Chronicle

/-! ### Questions that are put and answered -/

/-- What comes back when a question is put. -/
abbrev Question.Reply : Question → Type
  | .label _ => Except Fault (Option String)
  | .decimals _ _ => Except Fault (Except String Int)

/-- The label of an address that is known, or else the reply of the source, which is asked. -/
def Resolver.look (resolver : Resolver) (address : String) (session : Session) :
    Option String ⊕ (Except Fault (Option String) × Session) :=
  if resolver.caching then
    match session.labels.get? (Text.lowercase address) with
    | some label => .inl label
    | none => .inr ((resolver.ask (Text.lowercase address)).run.run session)
  else .inr ((resolver.ask address).run.run session)

/-- The decimals of a token that are known, or else the reply of the service, which is asked if
there is one. -/
def TokenSource.look (source : TokenSource) (token : String) (standard : Int) (session : Session) :
    Int ⊕ (Except Fault (Except String Int) × Session) :=
  match session.decimals.get? (Text.lowercase token) with
  | some n => .inl n
  | none =>
    if source.hasEndpoint then .inr ((source.ask (Text.lowercase token)).run.run session)
    else .inl standard

namespace Narrator

/-- The answer to a question, if it needs not be put, or else the reply to it. -/
def look (narrator : Narrator) : (question : Question) → Session →
    question.Answer ⊕ (question.Reply × Session)
  | .label address, session =>
    match narrator.resolver with
    | none => .inl none
    | some resolver => resolver.look address session
  | .decimals token standard, session =>
    match narrator.tokens with
    | none => .inl standard
    | some source => source.look token standard session

/-- Whether labels are kept. -/
def keepsLabels (narrator : Narrator) : Bool := narrator.resolver.any (·.caching)

/-- The answer that a reply gives, which is kept. A failure to tell a label counts as no label, and
is not kept. -/
def settle (narrator : Narrator) : (question : Question) → question.Reply →
    Narration question.Answer
  | .label address, .ok label =>
    if narrator.keepsLabels then Resolver.keep (Text.lowercase address) label else pure label
  | .label _, .error _ => pure none
  | .decimals token standard, reply => do
    let answer ← Narration.ofExcept reply
    TokenSource.keep (Text.lowercase token) standard answer

end Narrator

/-! ### How far a request has come -/

/-- How far a request has come: it may go on with an inquiry, or it waits for the reply to a
question, or it has an outcome. -/
inductive Stage
  | ready (inquiry : Inquiry String)
  | waiting (question : Question) (reply : question.Reply)
      (next : question.Answer → Inquiry String)
  | finished (outcome : Except Fault String)

namespace Stage

/-- The outcome of a request that is over. -/
def outcome? : Stage → Option (Except Fault String)
  | .finished outcome => some outcome
  | _ => none

/-- The fault with which a request is over. -/
def fault? : Stage → Option Fault
  | .finished (.error fault) => some fault
  | _ => none

/-- Whether a request has nothing to do for now: it is over, or it waits for the reply to one of
the questions that take time. -/
def rests (takesTime : Question → Bool) : Stage → Bool
  | .ready _ => false
  | .waiting question _ _ => takesTime question
  | .finished _ => true

end Stage

/-- A move of a request: it ends, or it finds an answer, or it puts a question, or it settles the
reply. -/
def Narrator.move (narrator : Narrator) : Stage → Session → Stage × Session
  | .ready (.done outcome), session => (.finished outcome, session)
  | .ready (.ask question next), session =>
    match narrator.look question session with
    | .inl answer => (.ready (next answer), session)
    | .inr (reply, asked) => (.waiting question reply next, asked)
  | .waiting question reply next, session =>
    match (narrator.settle question reply).run.run session with
    | (.ok answer, settled) => (.ready (next answer), settled)
    | (.error fault, settled) => (.finished (.error fault), settled)
  | .finished outcome, session => (.finished outcome, session)

/-! ### Gatherings -/

/-- A request on its way. -/
structure Task where
  request : Request
  stage : Stage

/-- A request of which nothing is done yet. -/
def Task.begun (config : Config) (request : Request) : Task :=
  ⟨request, .ready (Inquiry.narrative config request)⟩

/-- Requests on their way, which share a session. -/
structure Gathering where
  session : Session
  tasks : List Task
  /-- The fault that came up first. -/
  fault : Option Fault

namespace Gathering

/-- A session that no request uses yet. -/
def idle (session : Session) : Gathering := ⟨session, [], none⟩

/-- Begins with more requests. -/
def ask (narrator : Narrator) (gathering : Gathering) (requests : List Request) : Gathering where
  session := gathering.session
  tasks := gathering.tasks ++ requests.map (Task.begun narrator.config)
  fault := gathering.fault

/-- Lets the request at one place make a move. -/
def step (narrator : Narrator) (gathering : Gathering) (place : Nat) : Gathering :=
  match gathering.tasks[place]? with
  | none => gathering
  | some task =>
    let (stage, session) := narrator.move task.stage gathering.session
    ⟨session, gathering.tasks.set place ⟨task.request, stage⟩, gathering.fault <|> stage.fault?⟩

/-- The outcomes of the requests that are over. -/
def outcomes (gathering : Gathering) : List (Except Fault String) :=
  gathering.tasks.filterMap (·.stage.outcome?)

/-- The narratives of requests that are over, or the fault that came up first. -/
def answer (gathering : Gathering) : Except Fault (List String) :=
  match gathering.fault with
  | none => Narrator.collect gathering.outcomes
  | some fault => .error fault

end Gathering

/-! ### Requests that take turns -/

namespace Gathering

/-- Lets the request at one place go on, for so many moves at most, until it has to wait for a
question that takes time. -/
def goOn (narrator : Narrator) (takesTime : Question → Bool) (place : Nat) :
    (moves : Nat) → Gathering → Gathering
  | 0, gathering => gathering
  | moves + 1, gathering =>
    let moved := gathering.step narrator place
    if moved.tasks[place]?.all (·.stage.rests takesTime) then moved
    else goOn narrator takesTime place moves moved

/-- Lets all requests go on, one after the other. -/
def round (narrator : Narrator) (takesTime : Question → Bool) (moves : Nat)
    (gathering : Gathering) : Gathering :=
  (List.range gathering.tasks.length).foldl
    (fun gathering place => gathering.goOn narrator takesTime place moves) gathering

end Gathering

namespace Narrator

/-- So many moves are enough for each of the requests: two for each question that it may ask, and
one to end. -/
def movesFor (config : Config) : List Request → Nat
  | [] => 0
  | request :: requests =>
    max (2 * (request.questions config).length + 1) (movesFor config requests)

/-- The narratives of requests that take turns while questions take time. All of them are worked on
even if one fails, and then the first fault is the answer. -/
def narrateInRounds (narrator : Narrator) (takesTime : Question → Bool)
    (requests : List Request) : Narration (List String) :=
  ExceptT.mk fun session =>
    let moves := movesFor narrator.config requests
    let gathering := Nat.repeat (Gathering.round narrator takesTime moves) moves
      ((Gathering.idle session).ask narrator requests)
    (gathering.answer, gathering.session)

end Narrator

end Chronicle
