/-
# Registered functions that pay

A function that pays may be registered by any interface, with inputs of any
names. The names have no part in its signature, so its selector is that of the
known function; and calldata is decoded by the types alone, so the two make calls
of it that differ in the names of their parameters and in nothing else.

Key definitions: `Entry.Selected`, `Payment.Registered`, `Payment.callOf`.
Key theorems: `Registry.selected_of_mem_entries`, `Payment.exists_registered_known`,
`Payment.Registered.decode_eq_ok`, `Payment.Registered.decode_known_eq_ok`.
-/
import Chronicle.Proofs.HashRounds
import Chronicle.Proofs.Payments
import Chronicle.Proofs.Precedence

namespace Chronicle

open AbiType (interchangeOf)

/-! ### Selectors of registered functions -/

/-- The selector is that of the name and the types. -/
def Entry.Selected (entry : Entry) : Prop :=
  entry.selector = selectorOf (entry.name ++ "(" ++ ",".intercalate entry.inputTypes ++ ")")

/-- The signature has the text of the name and the types of the parameters. -/
def Fragment.Signs (fragment : Fragment) : Prop :=
  ∃ shown, fragment.name.shown = .ok shown ∧ fragment.signature = signatureOf shown fragment.params

theorem Fragment.signs_of_ofValue {v : Value} {fragment : Fragment}
    (h : ofValue v = .ok fragment) : fragment.Signs := by
  unfold ofValue at h
  split at h
  · obtain ⟨⟨name, signature, params⟩, hhead, hnames⟩ := bind_eq_ok.1 h
    obtain ⟨names, -, hfragment⟩ := bind_eq_ok.1 hnames
    cases hfragment
    unfold headOf at hhead
    obtain ⟨params', -, hhead⟩ := bind_eq_ok.1 hhead
    split at hhead
    · cases hhead
    · obtain ⟨shown, hshown, hhead⟩ := bind_eq_ok.1 hhead
      cases hhead
      exact ⟨shown, hshown, rfl⟩
  · cases h

namespace Interface

theorem signs_of_mem_fragmentsOf : ∀ {vs : List Value} {fragments : List Fragment},
    fragmentsOf vs = .ok fragments → ∀ fragment ∈ fragments, fragment.Signs
  | [], _, h => by
    cases h
    exact nofun
  | v :: vs, _, h => by
    obtain ⟨first, hfirst, h⟩ := bind_eq_ok.1 h
    obtain ⟨rest, hrest, hfragments⟩ := bind_eq_ok.1 h
    cases hfragments
    exact List.forall_mem_cons.2
      ⟨Fragment.signs_of_ofValue hfirst, signs_of_mem_fragmentsOf hrest⟩

theorem selected_of_mem_nameEntries {interface : Interface} : ∀ {fragments : List Fragment}
    {entries : List Entry}, (∀ fragment ∈ fragments, fragment.Signs) →
      interface.nameEntries fragments = .ok entries → ∀ entry ∈ entries, entry.Selected
  | [], _, _, h => by
    cases h
    exact nofun
  | fragment :: fragments, _, hsigns, h => by
    obtain ⟨⟨shown, hshown, hsignature⟩, hrest⟩ := List.forall_mem_cons.1 hsigns
    unfold nameEntries at h
    split at h
    · next name hname =>
      obtain ⟨rest, hentries, h⟩ := bind_eq_ok.1 h
      cases h
      refine List.forall_mem_cons.2 ⟨?_, selected_of_mem_nameEntries hrest hentries⟩
      rw [hname] at hshown
      cases hshown
      exact congrArg selectorOf hsignature
    · cases h

theorem selected_of_mem_entries {interface : Interface} {entries : List Entry}
    (h : interface.entries = .ok entries) : ∀ entry ∈ entries, entry.Selected := by
  unfold Interface.entries at h
  split at h
  · cases h
  · split at h
    · cases h
    · obtain ⟨functions, -, h⟩ := bind_eq_ok.1 h
      obtain ⟨fragments, hfragments, hnamed⟩ := bind_eq_ok.1 h
      exact selected_of_mem_nameEntries (signs_of_mem_fragmentsOf hfragments) hnamed

end Interface

namespace Registry

variable {interfaces : List Interface} {registry : Registry}

theorem selected_of_mem_listed : ∀ {interfaces : List Interface} {entries : List Entry},
    listed interfaces = .ok entries → ∀ entry ∈ entries, entry.Selected
  | [], _, h => by
    cases h
    exact nofun
  | interface :: interfaces, _, h => by
    obtain ⟨entries, hentries, h⟩ := bind_eq_ok.1 h
    obtain ⟨rest, hrest, h⟩ := bind_eq_ok.1 h
    cases h
    intro entry hmem
    rcases List.mem_append.1 hmem with hmem | hmem
    · exact Interface.selected_of_mem_entries hentries entry hmem
    · exact selected_of_mem_listed hrest entry hmem

/-- The names of a function's inputs have no part in its selector. -/
theorem selected_of_mem_entries (h : build interfaces = .ok registry) :
    ∀ entry ∈ registry.entries, entry.Selected := by
  obtain ⟨entries, hlisted, -⟩ := build_eq_ok_iff.1 h
  exact forall_entries_of_listed h hlisted (selected_of_mem_listed hlisted)

end Registry

/-- Among functions with selectors of their own, each is the first one with its selector. -/
theorem Registry.first?_of_nodup {entry : Entry} : ∀ {functions : List Entry},
    (functions.map (·.selector)).Nodup → entry ∈ functions →
      Registry.first? functions entry.selector = some entry
  | [], _, h => absurd h List.not_mem_nil
  | first :: rest, hnodup, h => by
    obtain ⟨hfirst, hrest⟩ := List.nodup_cons.1 hnodup
    rcases List.mem_cons.1 h with rfl | hmem
    · simp [first?]
    · have hne : first.selector ≠ entry.selector := fun hsame =>
        hfirst (List.mem_map.2 ⟨entry, hmem, hsame.symm⟩)
      have ih : first? rest entry.selector = some entry := first?_of_nodup hrest hmem
      simpa [first?, hne] using ih

/-- What is listed behind the first function with a selector does not count. -/
theorem Registry.first?_of_take {functions : List Entry} {count : Nat} {selector : Bytes}
    {entry : Entry} (h : Registry.first? (functions.take count) selector = some entry) :
    Registry.first? functions selector = some entry := by
  have hfound : (functions.take count).find? (·.selector = selector) = some entry := h
  rw [first?, ← List.take_append_drop count functions, List.find?_append, hfound, Option.some_or]

/-! ### Functions that pay under any names -/

namespace Payment

variable {payment : Payment} {interfaces : List Interface} {registry : Registry} {entry : Entry}

/-- The function is registered, with the inputs under whatever names. -/
structure Registered (payment : Payment) (registry : Registry) (entry : Entry) : Prop where
  mem : entry ∈ registry.entries
  family : entry.family = .fungibleToken
  name : entry.name = payment.name
  types : entry.inputTypes = payment.types.map ArgType.text

/-- The call of the function that has the values under the names. -/
def callOf (payment : Payment) (names : List String) (values : List Value) (input : Bytes) :
    Call where
  functionName := payment.name
  family := .fungibleToken
  selector := Hex.marked (input.take 4)
  parameters := .ofList (names.zip values)
  input := input

/-- The functions of fungible tokens, which are the first ones known, have selectors of their own. -/
theorem nodup_known_selectors {entries : List Entry}
    (hlisted : Registry.listed Known.interfaces = .ok entries) :
    ((entries.take 9).map (·.selector)).Nodup := by
  have hsignatures : (((Registry.listed Known.interfaces).toOption.getD []).take 9).map
      (fun entry => entry.name ++ "(" ++ ",".intercalate entry.inputTypes ++ ")") =
        ["transfer(address,uint256)", "approve(address,uint256)",
          "transferFrom(address,address,uint256)", "mint(address,uint256)", "burn(uint256)",
          "increaseAllowance(address,uint256)", "decreaseAllowance(address,uint256)", "deposit()",
          "withdraw(uint256)"] := by decide +kernel
  rw [hlisted] at hsignatures
  have hselected := Registry.selected_of_mem_listed hlisted
  have hselectors : (entries.take 9).map (·.selector) = ((entries.take 9).map fun entry =>
      entry.name ++ "(" ++ ",".intercalate entry.inputTypes ++ ")").map selectorByRounds := by
    rw [List.map_map]
    refine List.map_congr_left fun entry hentry => ?_
    exact (hselected entry (List.mem_of_mem_take hentry)).trans (selectorOf_eq _)
  have hfirst : (entries.take 9).map (fun entry =>
      entry.name ++ "(" ++ ",".intercalate entry.inputTypes ++ ")") = _ := hsignatures
  rw [hselectors, hfirst]
  decide +kernel

/-- The functions that pay are known, and none of them is shadowed. -/
theorem exists_registered_known (hpayment : payment ∈ all) :
    ∃ entry, payment.Registered Registry.known entry := by
  obtain ⟨entries, hlisted, hknown⟩ := Registry.build_eq_ok_iff.1 Registry.build_known
  have hcheck : all.all (fun payment =>
      (((Registry.listed Known.interfaces).toOption.getD []).take 9).any fun entry =>
        decide (entry.family = .fungibleToken ∧ entry.name = payment.name ∧
          entry.inputTypes = payment.types.map ArgType.text)) = true := by decide +kernel
  rw [hlisted] at hcheck
  obtain ⟨entry, hmem, hentry⟩ := List.any_eq_true.1 (List.all_eq_true.1 hcheck payment hpayment)
  obtain ⟨hfamily, hname, htypes⟩ := of_decide_eq_true hentry
  have hlookup : Registry.known.lookup? entry.selector = some entry := by
    rw [← hknown, (Registry.Tells.addAll entries Registry.Tells.empty).lookup]
    exact Registry.first?_of_take (Registry.first?_of_nodup (nodup_known_selectors hlisted) hmem)
  exact ⟨entry, ((Registry.lookup?_eq_some_iff Registry.build_known).1 hlookup).1, hfamily, hname,
    htypes⟩

namespace Registered

variable (h : payment.Registered registry entry) (hbuild : Registry.build interfaces = .ok registry)
include h hbuild

/-- The selector of the function depends on its name and types alone. -/
theorem selector_eq {other : Entry} {registry' : Registry} {interfaces' : List Interface}
    (h' : payment.Registered registry' other)
    (hbuild' : Registry.build interfaces' = .ok registry') : entry.selector = other.selector := by
  have hentry : entry.Selected := Registry.selected_of_mem_entries hbuild entry h.mem
  have hother : other.Selected := Registry.selected_of_mem_entries hbuild' other h'.mem
  rw [hentry, hother, h.name, h'.name, h.types, h'.types]

theorem length_inputNames : entry.inputNames.length = payment.types.length := by
  rw [(Registry.wellFormed_of_mem_entries hbuild entry h.mem).names_length, h.types,
    List.length_map]

variable {input : Bytes} (hselector : input.take 4 = entry.selector) (destination : String)
include hselector

theorem reaches : 4 ≤ input.length ∧ registry.lookup? (input.take 4) = some entry := by
  have hwell := Registry.wellFormed_of_mem_entries hbuild entry h.mem
  refine ⟨?_, (Registry.lookup?_eq_some_iff hbuild).2 ⟨h.mem, hselector.symm⟩⟩
  have hfour := congrArg List.length hselector
  rw [hwell.selector_length, List.length_take] at hfour
  omega

/-- Calldata that holds arguments of the types is decoded to their forms, under the names of the
inputs. -/
theorem decode_eq_ok {args : List Value}
    (hargs : decodeArguments (ArgType.abiOf payment.types) (input.drop 4) = .ok args) :
    registry.decode input (some destination) = .ok (payment.callOf entry.inputNames
      (interchangeOf (ArgType.abiOf payment.types) args) input) := by
  obtain ⟨hlength, hlookup⟩ := h.reaches hbuild hselector
  have hparameters := Entry.decode_eq_ok (h.length_inputNames hbuild) h.types
    payment.supported_types.1 hargs
  rw [Registry.decode_registered hlength hlookup, bind_of_ok hparameters, h.name, h.family]
  rfl

/-- The known function decodes the same calldata to the same forms, under the known names. -/
theorem decode_known_eq_ok (hpayment : payment ∈ all) {args : List Value}
    (hargs : decodeArguments (ArgType.abiOf payment.types) (input.drop 4) = .ok args) :
    Registry.known.decode input (some destination) = .ok (payment.callOf payment.names
      (interchangeOf (ArgType.abiOf payment.types) args) input) := by
  obtain ⟨known, hknown⟩ := exists_registered_known hpayment
  obtain ⟨hnames, -⟩ := inputs_of_mem_known hpayment hknown.mem hknown.family hknown.name
  have hsame := h.selector_eq hbuild hknown Registry.build_known
  rw [← hnames]
  exact hknown.decode_eq_ok Registry.build_known (hselector.trans hsame) destination hargs

/-- Only calldata that holds arguments of the types is decoded. -/
theorem exists_args {call : Call}
    (hcall : registry.decode input (some destination) = .ok call) :
    ∃ args, decodeArguments (ArgType.abiOf payment.types) (input.drop 4) = .ok args := by
  obtain ⟨hlength, hlookup⟩ := h.reaches hbuild hselector
  obtain ⟨parameters, hparameters, -⟩ := Registry.decode_registered_eq_ok hlength hlookup hcall
  have htypesOf : Entry.typesOf entry.inputTypes = .ok (ArgType.abiOf payment.types) := by
    rw [h.types]
    exact Entry.typesOf_text payment.supported_types.1
  have hne : ¬ (entry.inputTypes.isEmpty = true) := by
    rw [h.types]
    simp [Payment.types]
  unfold Entry.decode at hparameters
  rw [if_neg hne, bind_of_ok htypesOf] at hparameters
  cases hargs : decodeArguments (ArgType.abiOf payment.types) (input.drop 4) with
  | ok args => exact ⟨args, rfl⟩
  | error flaw =>
    rw [hargs] at hparameters
    cases flaw <;> cases hparameters

end Registered

end Payment

end Chronicle
