/- # Decoded calls

What a transaction asks of a contract: the function, the family it belongs to
and the arguments in the order of their declaration. A call has an interchange
form in JSON and is read back from it.

Key definitions: `Call`, `Call.toValue`, `Call.ofValue`, `Call.toJson`,
`Call.extend`, `Call.withDeployedAddress`.
Key theorem: `Call.ofValue_toValue`.
-/
import Chronicle.Family
import Chronicle.Json.Writer
import Chronicle.OrderedMap
import Chronicle.Text.Lowercase

namespace Chronicle

/-- A decoded call. -/
structure Call where
  /-- The name of the function, `constructor` for creations and `unknown` for selectors that are not
  registered. -/
  functionName : String
  family : Family
  /-- The marked text of the selector, that of four zero bytes if there is none. -/
  selector : String
  parameters : OrderedMap String Value
  /-- The whole input with the selector. -/
  input : Bytes
  deriving DecidableEq

namespace Call

/-- The selector of calls that have none. -/
def zeroSelector : String := "0x00000000"

/-- The parameter that holds the address of a deployed contract. -/
def deployedAddressName : String := "contract_address"

/-- Whether the call moves native currency without calling a function. -/
def isNativeTransfer (call : Call) : Bool :=
  call.family = .generic && call.parameters.get? "asset" = some (.text "native")

/-- The call with more parameters after those it has; a parameter of the same name is replaced. -/
def extend (call : Call) (extra : List (String × Value)) : Call :=
  { call with parameters := call.parameters.insertAll extra }

/-- The name that stands for the call itself, so that no parameter can be added under it. -/
def ownName : String := "self"

/-- The call with parameters that were given by their names. -/
def withParameters (call : Call) (extra : List (String × Value)) : Except Fault Call :=
  if extra.any (·.1 = ownName) then .error .wrongKind else .ok (call.extend extra)

/-- A contract creation with the address of the deployed contract, if a receipt tells one. -/
def withDeployedAddress (call : Call) (address : Option String) : Call :=
  match address with
  | none => call
  | some a =>
    if call.family = .contractCreation && a ≠ "" then
      call.extend [(deployedAddressName, .text (Text.lowercase a))]
    else call

/-! ### The interchange form -/

/-- The call as an object. -/
def toValue (call : Call) : Value :=
  .object
    [("function_name", .text call.functionName),
     ("contract_type", .text call.family.name),
     ("selector", .text call.selector),
     ("parameters", .object call.parameters.entries),
     ("raw_input", .text (Hex.marked call.input))]

/-- The JSON text of the call. -/
def toJson (call : Call) (layout : Json.Layout) : Except Fault String :=
  Json.write layout call.toValue

/-- The name and the value in one item of a list of parameters. -/
def pairOf (v : Value) : Except Fault (String × Value) :=
  match v.parts? with
  | none => .error .wrongKind
  | some [.text name, value] => .ok (name, value)
  | some [_, _] => .error .wrongKind
  | some _ => .error .wrongLength

/-- The parameters in a list of pairs. -/
def pairsOf : List Value → Except Fault (List (String × Value))
  | [] => .ok []
  | v :: vs => do
    let pair ← pairOf v
    let pairs ← pairsOf vs
    .ok (pair :: pairs)

/-- The parameters that a value gives: an object, or anything that lists pairs. -/
def parametersOf : Value → Except Fault (List (String × Value))
  | .object fields => .ok fields
  | v => match v.parts? with
    | none => .error .wrongKind
    | some vs => pairsOf vs

/-- The value of a field that has to be there. -/
def requireField (fields : List (String × Value)) (name : String) : Except Fault Value :=
  match Value.field? fields name with
  | some v => .ok v
  | none => .error (.missingField name)

/-- The text of a field that has to be there. -/
def requireText (fields : List (String × Value)) (name : String) : Except Fault String := do
  match ← requireField fields name with
  | .text s => .ok s
  | _ => .error .wrongKind

/-- The family of a value that names one. -/
def familyOf (v : Value) : Except Fault Family :=
  match v.asText?.bind Family.ofName? with
  | some family => .ok family
  | none => .error .unknownFamily

/-- The parameters of a call; a field that is missing or does not hold counts as empty. -/
def optionalParameters (fields : List (String × Value)) : Except Fault (List (String × Value)) :=
  match Value.field? fields "parameters" with
  | none => .ok []
  | some v => if v.holds then parametersOf v else .ok []

/-- The input of a call; a field that is missing or does not hold counts as empty. -/
def optionalInput (fields : List (String × Value)) : Except Fault Bytes :=
  match Value.field? fields "raw_input" with
  | none => .ok []
  | some v =>
    if v.holds then
      match v with
      | .text s => match Hex.loose? s with
        | some bs => .ok bs
        | none => .error .notSpacedHex
      | _ => .error .noSuchOperation
    else .ok []

/-- The call that an object describes. -/
def ofValue : Value → Except Fault Call
  | .object fields => do
    let functionName ← requireText fields "function_name"
    let family ← familyOf (← requireField fields "contract_type")
    let selector ← requireText fields "selector"
    let parameters ← optionalParameters fields
    let input ← optionalInput fields
    .ok ⟨functionName, family, selector, .ofList parameters, input⟩
  | _ => .error .noSuchOperation

theorem optionalParameters_of_field? {fields e : List (String × Value)}
    (h : Value.field? fields "parameters" = some (.object e)) :
    optionalParameters fields = .ok e := by
  simp only [optionalParameters, h, Value.holds]
  cases e <;> simp [parametersOf]

theorem optionalInput_of_field? {fields : List (String × Value)} {b : Bytes}
    (h : Value.field? fields "raw_input" = some (.text (Hex.marked b))) :
    optionalInput fields = .ok b := by
  have hne : (Hex.marked b).isEmpty = false := by
    rw [Bool.eq_false_iff, ne_eq, String.isEmpty_iff]
    intro h'
    simpa [Hex.marked] using congrArg String.toList h'
  simp [optionalInput, h, Value.holds, hne, Hex.loose?_marked]

/-- A call is read back from its object. -/
theorem ofValue_toValue (call : Call) : ofValue call.toValue = .ok call := by
  simp only [ofValue, toValue]
  rw [optionalParameters_of_field? (e := call.parameters.entries) (by simp [Value.field?]),
    optionalInput_of_field? (b := call.input) (by simp [Value.field?])]
  simp [requireText, requireField, Value.field?, familyOf, Value.asText?, Family.ofName?_name,
    OrderedMap.ofList_entries, bind, Except.bind]

end Call

end Chronicle
