/- # Function fragments of interfaces

Interfaces describe their functions in JSON: a name and the parameters, each
with a name and a type. A parameter of a tuple type lists its components, and
its full type is the types of the components in parentheses.

Key definitions: `Param`, `Param.type`, `Fragment.ofValue`.
-/
import Chronicle.Fault
import Chronicle.Value.Display

namespace Chronicle

/-- The type of a parameter: a text, or the components of a tuple and the array dimensions written
after it. -/
inductive Param
  | plain (type : String)
  | tuple (components : List Param) (dimensions : String)
  deriving Inhabited, Repr

namespace Param

mutual

/-- The full type of a parameter. -/
def type : Param → String
  | .plain t => t
  | .tuple components dimensions =>
    "(" ++ ",".intercalate (typesOf components) ++ ")" ++ dimensions

/-- The full types of the parameters. -/
def typesOf : List Param → List String
  | [] => []
  | p :: ps => type p :: typesOf ps

end

/-- The word that the type of a tuple parameter starts with. -/
def tupleWord : List Char := ['t', 'u', 'p', 'l', 'e']

mutual

/-- The parameter that an object describes. -/
def ofValue : Value → Except Fault Param
  | .object fields =>
    match Value.field? fields "type" with
    | none => .error (.missingField "type")
    | some (.text t) =>
      if tupleWord.isPrefixOf t.toList then do
        let components ← componentsOf fields
        .ok (.tuple components (String.ofList (t.toList.drop tupleWord.length)))
      else .ok (.plain t)
    | some v => do
      let shown ← v.shown
      .error (.typeNotText shown v.kindName)
  | _ => .error .wrongKind

/-- The parameters in the field of an object that lists its components. -/
def componentsOf : List (String × Value) → Except Fault (List Param)
  | [] => .error (.missingField "components")
  | (name, v) :: fields => if name = "components" then listOf v else componentsOf fields

/-- The parameters that a value lists. -/
def listOf : Value → Except Fault (List Param)
  | .list vs => ofItems vs
  | v => match v.parts? with
    | some [] => .ok []
    | _ => .error .wrongKind

/-- The parameters that the items of a list describe. -/
def ofItems : List Value → Except Fault (List Param)
  | [] => .ok []
  | v :: vs => do
    let p ← ofValue v
    let ps ← ofItems vs
    .ok (p :: ps)

end

end Param

/-- A function of an interface. -/
structure Fragment where
  /-- The name as it is given, which should be a text. -/
  name : Value
  /-- The name with the types of the parameters after it. -/
  signature : String
  params : List Param
  paramNames : List String

namespace Fragment

/-- The parameters of a function; without the field there are none. -/
def paramsOf (fields : List (String × Value)) : Except Fault (List Param) :=
  match Value.field? fields "inputs" with
  | none => .ok []
  | some v => Param.listOf v

/-- The signature of a function: its name and the types of its parameters. -/
def signatureOf (name : String) (params : List Param) : String :=
  name ++ "(" ++ ",".intercalate (Param.typesOf params) ++ ")"

/-- The parameters and the signature of the function that an object describes. -/
def headOf (fields : List (String × Value)) : Except Fault (Value × String × List Param) := do
  let params ← paramsOf fields
  match Value.field? fields "name" with
  | none => .error (.missingField "name")
  | some name => do
    let shown ← name.shown
    .ok (name, signatureOf shown params, params)

/-- The signature of the function that a value describes. -/
def signature? : Value → Except Fault String
  | .object fields => do
    let (_, signature, _) ← headOf fields
    .ok signature
  | _ => .error .noSuchOperation

/-- The names of the parameters that a value lists. -/
def namesOf : List Value → Except Fault (List String)
  | [] => .ok []
  | .object fields :: vs =>
    match Value.field? fields "name" with
    | none => .error (.missingField "name")
    | some (.text name) => do
      let names ← namesOf vs
      .ok (name :: names)
    | some _ => .error .wrongKind
  | _ :: _ => .error .wrongKind

/-- The function that a value describes. -/
def ofValue : Value → Except Fault Fragment
  | .object fields => do
    let (name, signature, params) ← headOf fields
    let names ← namesOf (((Value.field? fields "inputs").bind Value.parts?).getD [])
    .ok ⟨name, signature, params, names⟩
  | _ => .error .wrongKind

/-- Whether a value describes a function; it has to say what it describes. -/
def isFunction : Value → Except Fault Bool
  | .object fields =>
    match Value.field? fields "type" with
    | none => .error (.missingField "type")
    | some kind => .ok (kind = .text "function")
  | _ => .error .wrongKind

/-- The values that describe functions, of those that an interface lists. -/
def functionsOf : List Value → Except Fault (List Value)
  | [] => .ok []
  | v :: vs => do
    let keep ← isFunction v
    let kept ← functionsOf vs
    .ok (if keep then v :: kept else kept)

end Fragment

end Chronicle
