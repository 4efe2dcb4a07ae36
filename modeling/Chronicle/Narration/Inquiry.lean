/- # Inquiries

Narration finds things out on its way: what an address is called, and how many
decimals a token has. An inquiry is a computation that stands still at each such
question and goes on with the answer. It does not say where the answer comes
from, nor what else happens until it is there.

Key definitions: `Question`, `Inquiry`.
-/
import Chronicle.Fault

namespace Chronicle

/-- What narration has to find out. -/
inductive Question
  /-- The label of an address in normal form. -/
  | label (address : String)
  /-- The decimals of a token, where `standard` is the default. -/
  | decimals (token : String) (standard : Int)
  deriving DecidableEq, Repr

/-- What answers a question. -/
abbrev Question.Answer : Question → Type
  | .label _ => Option String
  | .decimals _ _ => Int

/-- A computation that may ask questions on its way, and may fail. -/
inductive Inquiry (α : Type)
  | done (outcome : Except Fault α)
  | ask (question : Question) (next : question.Answer → Inquiry α)

namespace Inquiry

/-- Goes on with the value of an inquiry, if it has one. -/
def bind : Inquiry α → (α → Inquiry β) → Inquiry β
  | .done (.ok a), f => f a
  | .done (.error fault), _ => .done (.error fault)
  | .ask question next, f => .ask question fun answer => (next answer).bind f

instance : Monad Inquiry where
  pure a := .done (.ok a)
  bind := bind

/-- Asks for the label of an address in normal form. -/
def label (address : String) : Inquiry (Option String) := .ask (.label address) pure

/-- Asks for the decimals of a token. -/
def decimals (token : String) (standard : Int) : Inquiry Int :=
  .ask (.decimals token standard) pure

end Inquiry

end Chronicle
