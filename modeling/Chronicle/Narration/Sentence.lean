/- # Sentences

A sentence about a call is made of words, of the two parties that every
sentence can name, and of answers to queries about the call's arguments. The
queries are put in a fixed order, which need not be the order in which the
answers stand.

Key definitions: `Query`, `Piece`, `Sentence`, `Sentence.text`.
-/
import Chronicle.Value

namespace Chronicle

/-- What a sentence asks for. -/
inductive Query
  /-- An amount in whole units of a token, with decimals to use if the token has none. -/
  | amount (v token : Value) (standard : Int)
  /-- An amount with fixed decimals. -/
  | scaled (v : Value) (decimals : Int)
  /-- What an address is called; any other value is shown as it is. -/
  | party (v : Value)
  /-- What a token is called. -/
  | token (v : Value)
  /-- A value as it is. -/
  | plain (v : Value)
  deriving DecidableEq, Repr

/-- A piece of a sentence. -/
inductive Piece
  | words (s : String)
  /-- Who sent the transaction. -/
  | sender
  /-- The contract that it was sent to. -/
  | contract
  /-- The answer to the query at that place. -/
  | answer (index : Nat)
  deriving DecidableEq, Repr

/-- A sentence with the queries that it needs. -/
structure Sentence where
  queries : List Query
  pieces : List Piece
  deriving DecidableEq, Repr

namespace Piece

/-- The text of a piece. -/
def text (sender contract : String) (answers : List String) : Piece → String
  | .words s => s
  | .sender => sender
  | .contract => contract
  | .answer index => answers.getD index ""

end Piece

namespace Sentence

/-- The text of a sentence, with the answers to its queries. -/
def text (sentence : Sentence) (sender contract : String) (answers : List String) : String :=
  String.join (sentence.pieces.map (Piece.text sender contract answers))

/-- A sentence that needs no queries. -/
def told (pieces : List Piece) : Sentence := ⟨[], pieces⟩

end Sentence

end Chronicle
