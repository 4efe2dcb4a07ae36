/- # Values

What a decoded argument, a call parameter or an answer of a service may be:
the values of JSON, byte strings, and the members of enumerations and foreign
objects that a caller may put into a call.

Key definitions: `Value`, `Value.holds`, `Value.field?`.
-/
import Chronicle.Binary64
import Chronicle.Hex

namespace Chronicle

/-- A value of any kind. Objects list their fields in order. -/
inductive Value
  | null
  | bool (b : Bool)
  | int (n : Int)
  | real (x : Binary64)
  | text (s : String)
  | bytes (bs : Bytes)
  | list (items : List Value)
  | object (fields : List (String × Value))
  /-- A member of an enumeration, by its name, with the value it carries. -/
  | member (name : String) (carried : Value)
  /-- An object without an interchange form, by its kind. -/
  | foreign (kind : String)
  deriving Inhabited, Repr

namespace Value

mutual

/-- Equality of values is decided by their structure. -/
def decEq : (a b : Value) → Decidable (a = b)
  | .null, b => match b with
    | .null => isTrue rfl
    | .bool _ | .int _ | .real _ | .text _ | .bytes _ | .list _ | .object _ | .member .. |
      .foreign _ => isFalse nofun
  | .bool a, b => match b with
    | .bool b => decidable_of_iff (a = b) (by simp)
    | .null | .int _ | .real _ | .text _ | .bytes _ | .list _ | .object _ | .member .. |
      .foreign _ => isFalse nofun
  | .int a, b => match b with
    | .int b => decidable_of_iff (a = b) (by simp)
    | .null | .bool _ | .real _ | .text _ | .bytes _ | .list _ | .object _ | .member .. |
      .foreign _ => isFalse nofun
  | .real a, b => match b with
    | .real b => decidable_of_iff (a = b) (by simp)
    | .null | .bool _ | .int _ | .text _ | .bytes _ | .list _ | .object _ | .member .. |
      .foreign _ => isFalse nofun
  | .text a, b => match b with
    | .text b => decidable_of_iff (a = b) (by simp)
    | .null | .bool _ | .int _ | .real _ | .bytes _ | .list _ | .object _ | .member .. |
      .foreign _ => isFalse nofun
  | .bytes a, b => match b with
    | .bytes b => decidable_of_iff (a = b) (by simp)
    | .null | .bool _ | .int _ | .real _ | .text _ | .list _ | .object _ | .member .. |
      .foreign _ => isFalse nofun
  | .list a, b => match b with
    | .list b => @decidable_of_iff _ (a = b) (by simp) (decEqItems a b)
    | .null | .bool _ | .int _ | .real _ | .text _ | .bytes _ | .object _ | .member .. |
      .foreign _ => isFalse nofun
  | .object a, b => match b with
    | .object b => @decidable_of_iff _ (a = b) (by simp) (decEqFields a b)
    | .null | .bool _ | .int _ | .real _ | .text _ | .bytes _ | .list _ | .member .. |
      .foreign _ => isFalse nofun
  | .member n a, b => match b with
    | .member m b =>
      @decidable_of_iff _ (n = m ∧ a = b) (by simp) (@instDecidableAnd _ _ _ (decEq a b))
    | .null | .bool _ | .int _ | .real _ | .text _ | .bytes _ | .list _ | .object _ |
      .foreign _ => isFalse nofun
  | .foreign a, b => match b with
    | .foreign b => decidable_of_iff (a = b) (by simp)
    | .null | .bool _ | .int _ | .real _ | .text _ | .bytes _ | .list _ | .object _ |
      .member .. => isFalse nofun

/-- Equality of lists of values. -/
def decEqItems : (a b : List Value) → Decidable (a = b)
  | [], [] => isTrue rfl
  | [], _ :: _ => isFalse nofun
  | _ :: _, [] => isFalse nofun
  | a :: as, b :: bs =>
    @decidable_of_iff _ (a = b ∧ as = bs) (by simp)
      (@instDecidableAnd _ _ (decEq a b) (decEqItems as bs))

/-- Equality of lists of fields. -/
def decEqFields : (a b : List (String × Value)) → Decidable (a = b)
  | [], [] => isTrue rfl
  | [], _ :: _ => isFalse nofun
  | _ :: _, [] => isFalse nofun
  | (k, a) :: as, (l, b) :: bs =>
    @decidable_of_iff _ ((k = l ∧ a = b) ∧ as = bs) (by simp)
      (@instDecidableAnd _ _ (@instDecidableAnd _ _ _ (decEq a b)) (decEqFields as bs))

end

instance : DecidableEq Value := decEq

/-- Whether a value counts as present: null, false, zeros and empty texts and containers do not. -/
def holds : Value → Bool
  | .null => false
  | .bool b => b
  | .int n => n != 0
  | .real x => !x.isZero
  | .text s => !s.isEmpty
  | .bytes bs => !bs.isEmpty
  | .list items => !items.isEmpty
  | .object fields => !fields.isEmpty
  | .member .. => true
  | .foreign _ => false

/-- The text of a value that is a text. -/
def asText? : Value → Option String
  | .text s => some s
  | _ => none

/-- The parts of a value that can be gone through: the items of a list, the characters of a text,
the numbers of a byte string and the names of an object's fields. -/
def parts? : Value → Option (List Value)
  | .list items => some items
  | .text s => some (s.toList.map fun c => .text (String.ofList [c]))
  | .bytes bs => some (bs.map fun b => .int b.toNat)
  | .object fields => some (fields.map fun field => .text field.1)
  | _ => none

/-- The value of a field, by its name. -/
def field? (fields : List (String × Value)) (name : String) : Option Value :=
  (fields.find? (·.1 = name)).map Prod.snd

end Value

end Chronicle
