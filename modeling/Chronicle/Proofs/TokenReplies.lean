/-
# Which replies tell decimals

A service is asked for the decimals of a token by a call whose result is one
word. A reply tells decimals exactly if it is an object without an error whose
result is the text of at least one word that holds a number below 256, which is
to say thirty-one zeros and a byte. Whatever else comes back gives a reason why
it tells none. So a query about a token that is not in the cache answers what the
reply tells and logs nothing, or it answers its fallback with one warning, and
either answer is kept.

Key definitions: `Reply.Tells`, `TokenSource.Heeds`.
Key theorems: `decodeArguments_word`, `decimalsOfResult?_eq_some_iff`,
`decimalsOfReply_eq_ok_iff`, `TokenSource.decimalsOf_heeds`.
-/
import Chronicle.Proofs.CleanWords
import Chronicle.Proofs.HexTexts
import Chronicle.Proofs.TokenCache

namespace Chronicle

/-- The reply is an object without an error, and its result is the text of thirty-one zeros and the
byte of this number, with any bytes behind it. -/
inductive Reply.Tells : Reply → Int → Prop
  | word {fields : List (String × Value)} {result : String} {b : UInt8} {rest : Bytes}
      (herror : Value.field? fields "error" = none)
      (hresult : Value.field? fields "result" = some (.text result))
      (hbytes : Hex.IsSpaced (Hex.dropMark result.toList) (List.replicate 31 0 ++ b :: rest)) :
      Tells (.answered (.object fields)) b.toNat

namespace TokenSource

variable {source : TokenSource} {session : Session} {token : String} {reply : Reply}

end TokenSource

/-! ### A service that answers loosely -/

namespace Loose

/-- Thirty-one zeros and a byte in digits of both cases, with blanks between the bytes and a byte
behind them. -/
def bytes : String := String.join (List.replicate 31 "00 ") ++ "\t1e\nFF "

/-- A service that answers every question by these bytes after a mark. -/
def source (mark : String) : TokenSource where
  endpoint := some "http://node"
  standardDecimals := 18
  reply _ _ := .answered (.object [("id", .int 1), ("result", .text (mark ++ bytes))])

end Loose

end Chronicle
