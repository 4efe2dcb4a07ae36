/- # The plain text of values

How a value reads inside a sentence. A text stands for itself, but inside a
list or an object it is quoted, as every value is that a message has to show
exactly. A number with too many digits has no text. How deep values are nested
does not matter: the texts of values of any depth are given.

Key definitions: `Value.exact`, `Value.shown`, `Value.kindName`.
-/
import Chronicle.Fault
import Chronicle.Numeral
import Chronicle.Text.Shown
import Chronicle.Value

namespace Chronicle.Value

mutual

/-- The exact text of a value of any depth, with texts in quotes. -/
def exact : Value → Except Fault String
  | .null => .ok "None"
  | .bool true => .ok "True"
  | .bool false => .ok "False"
  | .int n => match Numeral.write? n with
    | some s => .ok s
    | none => .error .tooManyDigits
  | .real x => .ok x.text
  | .text s => .ok (Text.quoted s)
  | .bytes bs => .ok (Text.quotedBytes bs)
  | .list items => do .ok ("[" ++ ", ".intercalate (← exactItems items) ++ "]")
  | .object fields => do .ok ("\x7b" ++ ", ".intercalate (← exactFields fields) ++ "\x7d")
  | .member name _ => .ok name
  | .foreign kind => .ok kind

/-- The exact texts of the items of a list. -/
def exactItems : List Value → Except Fault (List String)
  | [] => .ok []
  | v :: vs => do
    let s ← exact v
    let ss ← exactItems vs
    .ok (s :: ss)

/-- The exact texts of the fields of an object, each with its name in quotes. -/
def exactFields : List (String × Value) → Except Fault (List String)
  | [] => .ok []
  | (name, v) :: fields => do
    let s ← exact v
    let ss ← exactFields fields
    .ok ((Text.quoted name ++ ": " ++ s) :: ss)

end

/-- The text of a value in a sentence. -/
def shown : Value → Except Fault String
  | .text s => .ok s
  | v => exact v

/-- What kind of value it is, in the words of a message. -/
def kindName : Value → String
  | .null => "<class 'NoneType'>"
  | .bool _ => "<class 'bool'>"
  | .int _ => "<class 'int'>"
  | .real _ => "<class 'float'>"
  | .text _ => "<class 'str'>"
  | .bytes _ => "<class 'bytes'>"
  | .list _ => "<class 'list'>"
  | .object _ => "<class 'dict'>"
  | .member .. => "<enum>"
  | .foreign kind => "<class '" ++ kind ++ "'>"

end Chronicle.Value
