/- # Transactions and their decoding

The input of a transaction is decoded by a registry: the first four bytes
select a function and the rest are its arguments. A transaction without a
destination creates a contract, one without input moves native currency, and a
selector that is not registered makes an unknown call, which is no error.

Key definitions: `Transaction`, `Receipt`, `Registry.decode`,
`Registry.decodeTransaction`, `Registry.decodeBatch`.
-/
import Chronicle.Call
import Chronicle.Registry.Basic

namespace Chronicle

/-- A transaction as a node tells it. -/
structure Transaction where
  hash : String
  sender : String
  /-- The destination, none for contract creations. -/
  destination : Option String
  input : Bytes
  /-- The native currency that is moved, in its smallest unit. -/
  value : Int
  deriving DecidableEq, Repr

/-- What a node tells about the execution of a transaction. -/
structure Receipt where
  succeeded : Bool
  /-- The address of the contract that was deployed. -/
  deployedAddress : Option String
  deriving DecidableEq, Repr

namespace Registry

/-- The call of an input whose first four bytes are its selector. -/
def decodeSelected (registry : Registry) (input : Bytes) (destination : String) :
    Except Fault Call :=
  let selector := input.take 4
  match registry.lookup? selector with
  | none => .ok ⟨"unknown", classify none (some destination), Hex.marked selector, .empty, input⟩
  | some entry => do
    let parameters ← entry.decode (input.drop 4)
    .ok ⟨entry.name, classify (some entry) (some destination), Hex.marked selector, parameters,
      input⟩

/-- The call that an input makes at a destination. -/
def decode (registry : Registry) (input : Bytes) (destination : Option String) :
    Except Fault Call :=
  match destination with
  | none => .ok ⟨"constructor", .contractCreation, Call.zeroSelector, .empty, input⟩
  | some destination =>
    if input.isEmpty then
      .ok ⟨"transfer", .generic, Call.zeroSelector, .ofList [("asset", .text "native")], []⟩
    else if input.length < 4 then .error (.decoding (.malformed input))
    else registry.decodeSelected input destination

/-- The call of a transaction, with the value that a native transfer moves. -/
def decodeTransaction (registry : Registry) (transaction : Transaction) : Except Fault Call := do
  let call ← registry.decode transaction.input transaction.destination
  if call.isNativeTransfer then
    match Numeral.write? transaction.value with
    | some value => .ok (call.extend [("value", .text value)])
    | none => .error .tooManyDigits
  else .ok call

/-- The place in a batch of a transaction with this outcome: a decoding error takes the place of
the call, and any other fault has none. -/
def placed : Except Fault Call → Except Fault (Except DecodingError Call)
  | .ok call => .ok (.ok call)
  | .error (.decoding error) => .ok (.error error)
  | .error fault => .error fault

/-- The calls of transactions, each with a decoding error in its place; any other fault ends the
batch. -/
def decodeBatch (registry : Registry) :
    List Transaction → Except Fault (List (Except DecodingError Call))
  | [] => .ok []
  | transaction :: transactions => do
    let result ← placed (registry.decodeTransaction transaction)
    let results ← registry.decodeBatch transactions
    .ok (result :: results)

end Registry

end Chronicle
