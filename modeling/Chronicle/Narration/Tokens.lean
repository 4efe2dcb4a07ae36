/- # Token decimals

How many decimals a token has is asked of its contract through a service, once
per token: the answer is kept, and so is the default that stands in for an
answer that cannot be used. Without a service the default is given and not
kept.

A service address that cannot be read, whose scheme is not one of the web, or
that names no host, fails before anything is sent. The failure names its kind
and the address in its normal form, or as it was given if it cannot be read.

Key definitions: `Reply`, `TokenSource`, `decimalsOfReply`,
`TokenSource.decimalsOf`, `Endpoint.unreachable`.
-/
import Chronicle.Abi.Decode
import Chronicle.Narration.Session
import Chronicle.Text.Lowercase
import Chronicle.Url.Basic
import Chronicle.Value.Display

namespace Chronicle

/-- What comes back from the service: a value, or the reason why nothing does. -/
inductive Reply
  | answered (v : Value)
  | failed (reason : String)
  deriving DecidableEq, Repr

/-- A source of token decimals. -/
structure TokenSource where
  /-- The address of the service; an empty one counts as none. -/
  endpoint : Option String
  standardDecimals : Int
  /-- The reply to a question about a token, after the tokens that were asked about before. -/
  reply : List String → String → Reply

/-- The request that asks for the decimals of a token. -/
def decimalsRequest (token : String) : Value :=
  .object
    [("jsonrpc", .text "2.0"),
     ("id", .int 1),
     ("method", .text "eth_call"),
     ("params", .list
       [.object [("to", .text token), ("data", .text "0x313ce567")], .text "latest"])]

/-- The decimals in the result of a call, which holds a number below 256 in its first word. -/
def decimalsOfResult? (result : String) : Option Int :=
  match Hex.loose? result with
  | none => none
  | some bs => match decodeArguments [.uint 8] bs with
    | .ok [.int n] => some n
    | _ => none

/-- What an error of the service says: its message if it is an object, and else the error itself. -/
def errorMessage : Value → Value
  | .object details => (Value.field? details "message").getD .null
  | error => error

/-- The result in an answer; one that is missing or does not hold counts as no bytes. -/
def resultOf (fields : List (String × Value)) : Value :=
  ((Value.field? fields "result").filter Value.holds).getD (.text "0x")

/-- The decimals in a reply, or the reason why there are none. -/
def decimalsOfReply : Reply → Except Fault (Except String Int)
  | .failed reason => .ok (.error reason)
  | .answered (.object fields) =>
    match Value.field? fields "error" with
    | some error => do
      let shown ← (errorMessage error).shown
      .ok (.error ("Error in RPC response: " ++ shown))
    | none =>
      match resultOf fields with
      | .text s => match decimalsOfResult? s with
        | some n => .ok (.ok n)
        | none => .ok (.error ("Invalid decimals() result " ++ s))
      | result => do
        let shown ← result.exact
        .ok (.error ("Invalid decimals() result " ++ shown))
  | .answered v => do
    let shown ← v.exact
    .ok (.error ("Invalid RPC response: " ++ shown))

namespace TokenSource

/-- Whether there is a service to ask. -/
def hasEndpoint (source : TokenSource) : Bool := (source.endpoint.filter (· ≠ "")).isSome

/-- Asks the service about a token. -/
def ask (source : TokenSource) (token : String) : Narration (Except String Int) := do
  let session ← get
  set { session with decimalQuestions := session.decimalQuestions ++ [token] }
  Narration.ofExcept (decimalsOfReply (source.reply session.decimalQuestions token))

/-- The warning about a question without a usable answer. Decimals are written however long they
are: the digits of a numeral, which amounts have a limit for, are not counted here. -/
def fallbackMessage (token reason : String) (fallback : Int) : String :=
  "Failed to query decimals for " ++ token ++ " (" ++ reason ++ "), falling back to " ++
    Numeral.text fallback

/-- The decimals that an answer gives, or else the fallback with a warning. -/
def accept (token : String) (fallback : Int) : Except String Int → Narration Int
  | .ok n => pure n
  | .error reason => do
    Narration.report (warning (fallbackMessage token reason fallback))
    pure fallback

/-- Keeps what comes of the answer about a token. -/
def keep (token : String) (fallback : Int) (answer : Except String Int) : Narration Int := do
  let n ← accept token fallback answer
  modify fun session => { session with decimals := session.decimals.insert token n }
  pure n

/-- Asks the service about a token and keeps what comes of it. -/
def learn (source : TokenSource) (token : String) (fallback : Int) : Narration Int := do
  let answer ← source.ask token
  keep token fallback answer

/-- The decimals of a token in lower case, as they are known, or as the service tells them. No
record is made of decimals that are known, however many digits they have. -/
def decimalsOfKey (source : TokenSource) (token : String) (fallback : Int) : Narration Int := do
  let session ← get
  match session.decimals.get? token with
  | some n => pure n
  | none => if source.hasEndpoint then source.learn token fallback else pure fallback

/-- The decimals of a token, where `preferred` is the default to use instead of the standard one. -/
def decimalsOf (source : TokenSource) (token : String) (preferred : Option Int) : Narration Int :=
  source.decimalsOfKey (Text.lowercase token) (preferred.getD source.standardDecimals)

end TokenSource

/-! ### Services that cannot be reached -/

namespace Endpoint

/-- The schemes that a request can be sent by. -/
def webSchemes : List String := ["", "http", "https", "ws", "wss", "tcp"]

/-- The failure of an address that is not in order. -/
def invalid (address : String) : Reply := .failed ("InvalidUrlClientError: " ++ address)

/-- The failure of an address that is not one of the web. -/
def foreign (address : String) : Reply := .failed ("NonHttpUrlClientError: " ++ address)

/-- The reply of a service that cannot be reached at its address. -/
def unreachable (address : String) : Reply :=
  match Url.ofText? address with
  | none => invalid address
  | some url =>
    if webSchemes.any (·.toList = url.scheme) then
      invalid (if url.authority.host.isEmpty then url.anonymous.text else address)
    else foreign url.text

end Endpoint

end Chronicle
