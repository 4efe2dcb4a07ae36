/- # Narrators

A narrator puts decoded calls into words. Labels and token decimals come from
the sources it is given; without them, addresses are abbreviated and amounts
have the usual decimals. Every narrative ends with the hash of its transaction.

Key definitions: `Narrator`, `Request`, `Narrator.displayAddress`,
`Narrator.narrate`, `Narrator.narrateBatch`, `sequentialNarrative`.
-/
import Chronicle.Config
import Chronicle.Narration.Inquiry
import Chronicle.Narration.Labels
import Chronicle.Narration.Phrasing
import Chronicle.Narration.Tokens
import Chronicle.Text.Shown

namespace Chronicle

/-- The hash of a transaction, as text or as bytes. -/
inductive TransactionHash
  | text (s : String)
  | bytes (bs : Bytes)
  deriving DecidableEq, Repr

/-- The abbreviated lowercase form of a hash, with the mark `0x` put before a text that has
none. -/
def TransactionHash.shown : TransactionHash → String
  | .text s =>
    let marked := if ['0', 'x'].isPrefixOf s.toList then s else "0x" ++ s
    Text.abbreviated (Text.lowercase marked)
  | .bytes bs => Text.abbreviated (Hex.marked bs)

/-- What a narrative is asked for. -/
structure Request where
  call : Call
  sender : String
  /-- The destination, none for contract creations. -/
  destination : Option String
  hash : TransactionHash
  /-- Whether the active wallet is shown as `you`. -/
  isLocal : Bool
  succeeded : Bool
  deriving DecidableEq

/-- A configuration with the sources of labels and decimals. -/
structure Narrator where
  config : Config
  resolver : Option Resolver
  tokens : Option TokenSource

/-- What follows the sentence of a transaction that did not succeed. -/
def Narrator.failedNote : String := " (transaction failed)"

/-- What follows the sentence of every transaction. -/
def Narrator.ending (succeeded : Bool) (hash : TransactionHash) : String :=
  (if succeeded then "" else failedNote) ++ " [tx: " ++ hash.shown ++ "]"

/-- The destination of a request; an empty one counts as none. -/
def Narrator.contractOf (request : Request) : Option String := request.destination.filter (· ≠ "")

/-- The sentence that a request is answered with. -/
def Narrator.sentenceOf (request : Request) : Sentence :=
  request.call.sentence (match contractOf request with
    | some address => .text (Text.lowercase address)
    | none => .null)

/-! ### What a narrative has to find out -/

namespace Inquiry

/-- What an address in normal form is called if it is not `you`: its label, or the address itself,
in full or abbreviated. An empty label counts as none. -/
def nameOf (config : Config) (normal : String) (found : Option String) : String :=
  match found.filter (· ≠ "") with
  | some shown => shown
  | none => if config.fullAddresses then normal else Text.abbreviated normal

/-- What an address is called. -/
def displayAddress (config : Config) (isLocal : Bool) (address : String) : Inquiry String :=
  if isLocal && config.activeWallet = some (Address.spelled address) then pure "you"
  else do
    let found ← label (Address.spelled address)
    pure (nameOf config (Address.spelled address) found)

/-- The decimals of a token, which are the standard ones if it is no address. -/
def tokenDecimals (token : Value) (standard : Int) : Inquiry Int :=
  match token.asText? with
  | some address => if Address.isAddress address then decimals address standard else pure standard
  | none => pure standard

/-- The answer to a query. -/
def answer (config : Config) (isLocal : Bool) : Query → Inquiry String
  | .amount v token standard => do
    let decimals ← tokenDecimals token standard
    done (Amount.text v decimals)
  | .scaled v decimals => done (Amount.text v decimals)
  | .party (.text s) =>
    if Address.isAddress s then displayAddress config isLocal s else pure s
  | .party v => done v.shown
  | .token (.text s) =>
    if Address.isAddress s then displayAddress config isLocal s else pure "unknown token"
  | .token _ => pure "unknown token"
  | .plain v => done v.shown

/-- The answers to queries, put in order. -/
def answers (config : Config) (isLocal : Bool) : List Query → Inquiry (List String)
  | [] => pure []
  | query :: queries => do
    let first ← answer config isLocal query
    let rest ← answers config isLocal queries
    pure (first :: rest)

/-- What the destination of a request is called. -/
def displayContract (config : Config) (request : Request) : Inquiry String :=
  match Narrator.contractOf request with
  | some address => displayAddress config request.isLocal address
  | none => pure "unknown contract"

/-- The narrative of one call. -/
def narrative (config : Config) (request : Request) : Inquiry String := do
  let sender ← displayAddress config request.isLocal request.sender
  let contract ← displayContract config request
  let sentence := Narrator.sentenceOf request
  let answers ← answers config request.isLocal sentence.queries
  pure (sentence.text sender contract answers ++ Narrator.ending request.succeeded request.hash)

end Inquiry

/-- The question about an address, unless it is shown as `you`. -/
def Question.ofAddress (config : Config) (isLocal : Bool) (address : String) : List Question :=
  if isLocal && config.activeWallet = some (Address.spelled address) then []
  else [.label (Address.spelled address)]

/-- The question about a token, if it is an address. -/
def Question.ofToken (token : Value) (standard : Int) : List Question :=
  match token.asText? with
  | some address => if Address.isAddress address then [.decimals address standard] else []
  | none => []

/-- The questions that a query leads to. -/
def Query.questions (config : Config) (isLocal : Bool) : Query → List Question
  | .amount _ coin standard => Question.ofToken coin standard
  | .party (.text s) | .token (.text s) =>
    if Address.isAddress s then Question.ofAddress config isLocal s else []
  | _ => []

/-- The questions that the narrative of a request leads to. -/
def Request.questions (config : Config) (request : Request) : List Question :=
  Question.ofAddress config request.isLocal request.sender ++
    ((Narrator.contractOf request).toList.flatMap (Question.ofAddress config request.isLocal) ++
      (Narrator.sentenceOf request).queries.flatMap (Query.questions config request.isLocal))

/-! ### Narration without interruption -/

/-- The answer to a question. If nobody can tell, a label is none and decimals are the standard. -/
def Narrator.lookUp (narrator : Narrator) : (question : Question) → Narration question.Answer
  | .label address => Resolver.labelOf narrator.resolver address
  | .decimals token standard =>
    match narrator.tokens with
    | some source => source.decimalsOf token (some standard)
    | none => pure standard

/-- The inquiry with each question answered at once. -/
def Inquiry.run (narrator : Narrator) : Inquiry α → Narration α
  | .done outcome => Narration.ofExcept outcome
  | .ask question next => do
    let answer ← narrator.lookUp question
    (next answer).run narrator

namespace Narrator

/-- What an address is called. -/
def displayAddress (narrator : Narrator) (isLocal : Bool) (address : String) : Narration String :=
  (Inquiry.displayAddress narrator.config isLocal address).run narrator

/-- The decimals of a token, which are the standard ones if it is no address or cannot be asked. -/
def tokenDecimals (narrator : Narrator) (token : Value) (standard : Int) : Narration Int :=
  (Inquiry.tokenDecimals token standard).run narrator

/-- The answer to a query. -/
def answer (narrator : Narrator) (isLocal : Bool) (query : Query) : Narration String :=
  (Inquiry.answer narrator.config isLocal query).run narrator

/-- The answers to queries, put in order. -/
def answers (narrator : Narrator) (isLocal : Bool) (queries : List Query) :
    Narration (List String) :=
  (Inquiry.answers narrator.config isLocal queries).run narrator

/-- What the destination of a request is called. -/
def displayContract (narrator : Narrator) (request : Request) : Narration String :=
  (Inquiry.displayContract narrator.config request).run narrator

/-- The narrative of one call. -/
def narrate (narrator : Narrator) (request : Request) : Narration String :=
  (Inquiry.narrative narrator.config request).run narrator

/-! ### Narration step by step -/

variable (narrator : Narrator)

theorem run_bind : ∀ (x : Inquiry α) (f : α → Inquiry β),
    (x >>= f).run narrator = x.run narrator >>= fun a => (f a).run narrator
  | .done (.ok _), _ => rfl
  | .done (.error _), _ => rfl
  | .ask question next, f => by
    show (narrator.lookUp question >>= fun answer => (next answer >>= f).run narrator) =
      (narrator.lookUp question >>= fun answer => (next answer).run narrator) >>=
        fun a => (f a).run narrator
    rw [bind_assoc]
    exact bind_congr fun answer => run_bind (next answer) f

theorem run_label (address : String) :
    (Inquiry.label address).run narrator = Resolver.labelOf narrator.resolver address :=
  bind_pure _

theorem run_decimals (token : String) (standard : Int) :
    (Inquiry.decimals token standard).run narrator =
      match narrator.tokens with
      | some source => source.decimalsOf token (some standard)
      | none => pure standard :=
  bind_pure _

theorem run_ite (c : Prop) [Decidable c] (x y : Inquiry α) :
    (if c then x else y).run narrator = if c then x.run narrator else y.run narrator :=
  apply_ite (Inquiry.run narrator) c x y

theorem displayAddress_eq (isLocal : Bool) (address : String) :
    narrator.displayAddress isLocal address =
      if isLocal && narrator.config.activeWallet = some (Address.spelled address) then pure "you"
      else Resolver.labelOf narrator.resolver (Address.spelled address) >>= fun found =>
        pure (Inquiry.nameOf narrator.config (Address.spelled address) found) := by
  unfold displayAddress Inquiry.displayAddress
  rw [run_ite, run_bind, run_label]
  rfl

theorem tokenDecimals_eq (token : Value) (standard : Int) :
    narrator.tokenDecimals token standard =
      match narrator.tokens, token.asText? with
      | some source, some address =>
        if Address.isAddress address then source.decimalsOf address (some standard)
        else pure standard
      | _, _ => pure standard := by
  unfold tokenDecimals Inquiry.tokenDecimals
  cases token.asText? with
  | none => cases narrator.tokens <;> rfl
  | some address =>
    rw [run_ite, run_decimals]
    cases narrator.tokens with
    | none => exact ite_self _
    | some source => rfl

/-- How a query is answered. -/
theorem answer_amount (isLocal : Bool) (v token : Value) (standard : Int) :
    narrator.answer isLocal (.amount v token standard) =
      narrator.tokenDecimals token standard >>= fun decimals =>
        Narration.ofExcept (Amount.text v decimals) :=
  narrator.run_bind _ _

theorem answer_party (isLocal : Bool) (s : String) :
    narrator.answer isLocal (.party (.text s)) =
      if Address.isAddress s then narrator.displayAddress isLocal s else pure s :=
  narrator.run_ite _ _ _

theorem answer_token (isLocal : Bool) (s : String) :
    narrator.answer isLocal (.token (.text s)) =
      if Address.isAddress s then narrator.displayAddress isLocal s else pure "unknown token" :=
  narrator.run_ite _ _ _

theorem answers_cons (isLocal : Bool) (query : Query) (queries : List Query) :
    narrator.answers isLocal (query :: queries) =
      narrator.answer isLocal query >>= fun first =>
        narrator.answers isLocal queries >>= fun rest => pure (first :: rest) := by
  refine (narrator.run_bind _ _).trans (bind_congr fun first => ?_)
  exact narrator.run_bind _ _

theorem displayContract_eq (request : Request) :
    narrator.displayContract request = match contractOf request with
      | some address => narrator.displayAddress request.isLocal address
      | none => pure "unknown contract" := by
  unfold displayContract Inquiry.displayContract
  split <;> rfl

/-- A narrative is made of what the sender, the destination and the queries come to, one after the
other. -/
theorem narrate_eq (request : Request) :
    narrator.narrate request =
      narrator.displayAddress request.isLocal request.sender >>= fun sender =>
        narrator.displayContract request >>= fun contract =>
          narrator.answers request.isLocal (sentenceOf request).queries >>= fun answers =>
            pure ((sentenceOf request).text sender contract answers ++
              ending request.succeeded request.hash) := by
  refine (narrator.run_bind _ _).trans (bind_congr fun sender => ?_)
  refine (narrator.run_bind _ _).trans (bind_congr fun contract => ?_)
  exact narrator.run_bind _ _

/-- The outcomes of requests if sources answer at once: each request comes to its end before the
next one begins, and leaves its session to it. What may happen while sources take their time is any
course of moves of a gathering, of which this is one. -/
def outcomes (narrator : Narrator) : List Request → StateM Session (List (Except Fault String))
  | [] => pure []
  | request :: requests => do
    let outcome ← (narrator.narrate request).run
    let rest ← narrator.outcomes requests
    pure (outcome :: rest)

/-- The values of outcomes that all succeeded, or the first fault. -/
def collect : List (Except Fault String) → Except Fault (List String)
  | [] => .ok []
  | outcome :: outcomes => do
    let first ← outcome
    let rest ← collect outcomes
    .ok (first :: rest)

/-- The narratives of requests in order if sources answer at once. All of them are worked on even if
one fails, and then the first fault is the answer. -/
def narrateBatch (narrator : Narrator) (requests : List Request) : Narration (List String) :=
  ExceptT.mk do
    let outcomes ← narrator.outcomes requests
    pure (collect outcomes)

end Narrator

/-- Narratives joined into one text, with a word before each that tells its place. -/
def sequentialNarrative : List String → String
  | [] => "No transactions found."
  | [narrative] => narrative
  | first :: rest =>
    let last := rest.getLast?.getD ""
    "\n".intercalate
      (["First. " ++ first] ++ rest.dropLast.map ("Then. " ++ ·) ++ ["Finally. " ++ last])

end Chronicle
