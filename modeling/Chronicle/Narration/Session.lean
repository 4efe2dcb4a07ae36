/- # Narration sessions

What narration remembers from one request to the next: the labels and token
decimals that it has learned, what it has asked for on the way, and the log. A
request that fails keeps what was learned before it failed.

Key definitions: `Session`, `Narration`.
-/
import Chronicle.Fault
import Chronicle.OrderedMap
import Chronicle.Text.Lowercase

namespace Chronicle

/-- What narration has learned and asked so far. -/
structure Session where
  /-- The labels that were answered, where no label is an answer too. -/
  labels : OrderedMap String (Option String)
  /-- The addresses whose labels were asked for, in order. -/
  labelQuestions : List String
  /-- The decimals of tokens, by lowercase address. -/
  decimals : OrderedMap String Int
  /-- The tokens whose decimals were asked for, in order. -/
  decimalQuestions : List String
  log : Log
  deriving DecidableEq

namespace Session

/-- A session that has learned nothing. -/
def fresh : Session := ⟨.empty, [], .empty, [], []⟩

instance : Inhabited Session := ⟨fresh⟩

/-- Presets the decimals of a token. -/
def setDecimals (session : Session) (token : String) (decimals : Int) : Session :=
  { session with decimals := session.decimals.insert (Text.lowercase token) decimals }

end Session

/-- A computation that uses and changes a session, and may fail. -/
abbrev Narration := ExceptT Fault (StateM Session)

namespace Narration

/-- Adds a record to the log. -/
def report (record : LogRecord) : Narration Unit :=
  modify fun session => { session with log := session.log ++ [record] }

/-- An answer that does not depend on the session. -/
def ofExcept (answer : Except Fault α) : Narration α := ExceptT.mk (pure answer)

end Narration

end Chronicle
