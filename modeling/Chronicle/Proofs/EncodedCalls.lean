/- # Calls that were encoded for a function

Input that is made of the selector of a registered function and the encoding of
arguments of its types is decoded to a call of that function, with the form of
each argument under its name, in the order of declaration.

Key theorem: `Registry.decode_encoded`.
-/
import Chronicle.Proofs.Classification
import Chronicle.Proofs.DecodeEncode
import Chronicle.Proofs.EntryDecoding

namespace Chronicle

open AbiType (AllSupported allAdmit canonicalOf interchangeOf)

namespace Entry

/-- The arguments of a function are decoded from their encoding. -/
theorem decode_encodeArguments {entry : Entry} {types : List ArgType} {args : List Value}
    (hlengths : entry.inputNames.length = types.length)
    (htypes : entry.inputTypes = types.map ArgType.text)
    (hsupported : AllSupported (ArgType.abiOf types))
    (hargs : allAdmit (ArgType.abiOf types) args = true)
    (hlength : (encodeArguments (ArgType.abiOf types) args).length < capacity 63) :
    entry.decode (encodeArguments (ArgType.abiOf types) args) =
      .ok (.ofList (entry.inputNames.zip (interchangeOf (ArgType.abiOf types) args))) := by
  have hdecode : decodeArguments (ArgType.abiOf types)
      (encodeArguments (ArgType.abiOf types) args ++ []) = .ok args :=
    decodeArguments_encode hsupported hargs (by rwa [List.append_nil])
  rw [List.append_nil] at hdecode
  exact decode_eq_ok hlengths htypes hsupported hdecode

end Entry

namespace Registry

variable {interfaces : List Interface} {registry : Registry}

/-- What was encoded for a registered function is decoded to a call of that function. -/
theorem decode_encoded (h : build interfaces = .ok registry) {entry : Entry}
    (hentry : entry ∈ registry.entries) (hnames : entry.inputNames.Nodup) {types : List ArgType}
    (htypes : entry.inputTypes = types.map ArgType.text)
    (hsupported : AllSupported (ArgType.abiOf types)) {args : List Value}
    (hargs : allAdmit (ArgType.abiOf types) (canonicalOf (ArgType.abiOf types) args) = true)
    (hlength : (encodeArguments (ArgType.abiOf types) args).length < capacity 63)
    (destination : String) :
    ∃ call, registry.decode (entry.selector ++ encodeArguments (ArgType.abiOf types) args)
        (some destination) = .ok call ∧
      call.functionName = entry.name ∧ call.family = entry.family ∧
      call.selector = entry.selectorText ∧
      call.parameters.keys = entry.inputNames ∧
      call.parameters.values = interchangeOf (ArgType.abiOf types) args ∧
      call.input = entry.selector ++ encodeArguments (ArgType.abiOf types) args := by
  have hformed := wellFormed_of_mem_entries h entry hentry
  have hselector := hformed.selector_length
  have hcount : entry.inputNames.length = types.length := by
    rw [hformed.names_length, htypes, List.length_map]
  have hencoding : encodeArguments (ArgType.abiOf types) (canonicalOf (ArgType.abiOf types) args) =
      encodeArguments (ArgType.abiOf types) args :=
    congrArg Part.frame (AbiType.encodeMembers_canonicalOf hargs)
  have hdecode := Entry.decode_encodeArguments hcount htypes hsupported hargs
    (by rwa [hencoding])
  rw [hencoding, AbiType.interchangeOf_canonicalOf hargs] at hdecode
  have hforms : entry.inputNames.length = (interchangeOf (ArgType.abiOf types) args).length := by
    rw [← AbiType.interchangeOf_canonicalOf hargs, AbiType.length_interchangeOf hargs,
      ArgType.length_abiOf, hcount]
  have hkeys : (entry.inputNames.zip (interchangeOf (ArgType.abiOf types) args)).map Prod.fst =
      entry.inputNames := List.map_fst_zip (Nat.le_of_eq hforms)
  have hvalues : (entry.inputNames.zip (interchangeOf (ArgType.abiOf types) args)).map Prod.snd =
      interchangeOf (ArgType.abiOf types) args := List.map_snd_zip (Nat.le_of_eq hforms.symm)
  have hentries := OrderedMap.entries_insertAll
    (entry.inputNames.zip (interchangeOf (ArgType.abiOf types) args)) .empty
    (by simpa [OrderedMap.keys, OrderedMap.empty, hkeys] using hnames)
  generalize encodeArguments (ArgType.abiOf types) args = calldata at hdecode
  have htake : (entry.selector ++ calldata).take 4 = entry.selector := by
    rw [← hselector, List.take_left]
  have hdrop : (entry.selector ++ calldata).drop 4 = calldata := by
    rw [← hselector, List.drop_left]
  have hlong : 4 ≤ (entry.selector ++ calldata).length := by
    rw [List.length_append, hselector]
    exact Nat.le_add_right 4 _
  have hlookup : registry.lookup? ((entry.selector ++ calldata).take 4) = some entry := by
    rw [htake]
    exact (lookup?_eq_some_iff h).2 ⟨hentry, rfl⟩
  rw [← hdrop] at hdecode
  refine ⟨_, (decode_registered hlong hlookup).trans (bind_of_ok hdecode _), rfl, rfl, ?_, ?_, ?_, rfl⟩
  · rw [htake]
    rfl
  · exact (congrArg (List.map Prod.fst) hentries).trans hkeys
  · exact (congrArg (List.map Prod.snd) hentries).trans hvalues

end Registry

/-! ### An example of nested arguments -/

namespace Desk

/-- An interface of one function, which takes a list of pairs of orders and a fee. -/
def interface : Interface where
  name := "Desk"
  abi := .list [.object
    [("type", .text "function"), ("name", .text "settle"),
     ("inputs", .list
       [.object
          [("name", .text "orders"), ("type", .text "tuple[2][]"),
           ("components", .list
             [.object [("name", .text "maker"), ("type", .text "address")],
              .object [("name", .text "note"), ("type", .text "string")]])],
        .object [("name", .text "fee"), ("type", .text "int24")]])]]
  family := .generic

def types : List ArgType := [.sequence (.array (.tuple [.address, .string]) 2), .int 24]

/-- The function of the interface. -/
def settle : Entry where
  selector := selectorOf "settle((address,string)[2][],int24)"
  name := "settle"
  signature := "settle((address,string)[2][],int24)"
  inputTypes := types.map ArgType.text
  inputNames := ["orders", "fee"]
  family := .generic
  interface := "Desk"

/-- Arguments with a negative number, texts that are empty or beyond ASCII and addresses that are
spelled with capitals or without a mark. -/
def arguments : List Value :=
  [.list
     [.list
       [.list [.text "0xAAAAAAAAAAAAAAAAAAAAAAAAAAAAAAAAAAAAAAAA", .text "é"],
        .list [.text "bbbbbbbbbbbbbbbbbbbbbbbbbbbbbbbbbbbbbbbb", .text ""]]],
   .int (-5)]

/-- The registry of the interface. -/
def registry : Registry := Registry.empty.add settle

theorem build_interface : Registry.build [interface] = .ok registry :=
  Registry.build_eq_ok_iff.2 ⟨[settle], rfl, rfl⟩

end Desk

/-- Nested arguments in all their forms are decoded from a call. -/
theorem Registry.decode_encoded_settle :
    Registry.build [Desk.interface] = .ok Desk.registry ∧ Desk.settle ∈ Desk.registry.entries ∧
      ∃ call, Desk.registry.decode
          (Desk.settle.selector ++ encodeArguments (ArgType.abiOf Desk.types) Desk.arguments)
          (some "") = .ok call ∧
        call.parameters.keys = ["orders", "fee"] ∧
        call.parameters.values =
          [.list
            [.list
              [.list [.text "0xaaaaaaaaaaaaaaaaaaaaaaaaaaaaaaaaaaaaaaaa", .text "é"],
               .list [.text "0xbbbbbbbbbbbbbbbbbbbbbbbbbbbbbbbbbbbbbbbb", .text ""]]],
           .text "-5"] := by
  have hmem : Desk.settle ∈ Desk.registry.entries := List.mem_singleton.2 rfl
  have htypes : Desk.settle.inputTypes = Desk.types.map ArgType.text := rfl
  have hsupported : AllSupported (ArgType.abiOf Desk.types) :=
    ⟨⟨by decide, by simp [ArgType.abiOf], trivial, trivial, trivial⟩, rfl, trivial⟩
  have hargs : allAdmit (ArgType.abiOf Desk.types)
      (canonicalOf (ArgType.abiOf Desk.types) Desk.arguments) = true := by decide +kernel
  have hlength : (encodeArguments (ArgType.abiOf Desk.types) Desk.arguments).length <
      capacity 63 := by decide +kernel
  obtain ⟨call, hcall, -, -, -, hkeys, hvalues, -⟩ :=
    Registry.decode_encoded Desk.build_interface hmem (by decide) htypes hsupported hargs hlength ""
  exact ⟨Desk.build_interface, hmem, call, hcall, hkeys, hvalues.trans (by decide +kernel)⟩

end Chronicle
