/- # What a function makes of its calldata

A function whose types are supported answers any calldata in one of three ways:
with the forms of its arguments under their names, with a mismatch, or with a
fault of text. The last needs a string among its types.

Key definition: `Entry.faultOf`.
Key theorems: `Entry.decode_eq_ok`, `Entry.decode_of_flaw`, `Entry.exists_args_of_decode`,
`Entry.decode_cases`, `Entry.decode_plain`.
-/
import Chronicle.Proofs.DecodeSound
import Chronicle.Proofs.Interchange

namespace Chronicle

open AbiType (AllSupported allAdmit interchangeOf)

namespace Entry

variable {entry : Entry} {types : List ArgType} {data : Bytes}

/-- Arguments that are decoded get their forms and names. -/
theorem decode_eq_ok (hlengths : entry.inputNames.length = types.length)
    (htypes : entry.inputTypes = types.map ArgType.text)
    (hsupported : AllSupported (ArgType.abiOf types)) {args : List Value}
    (hdecode : decodeArguments (ArgType.abiOf types) data = .ok args) :
    entry.decode data =
      .ok (.ofList (entry.inputNames.zip (interchangeOf (ArgType.abiOf types) args))) := by
  have hargs := admits_of_decodeArguments hsupported hdecode
  have hnamed := nameArguments_eq hlengths hsupported hargs
  unfold decode
  rw [htypes]
  split
  · next hempty =>
    have hnil : types = [] := by simpa using hempty
    subst hnil
    rw [List.length_eq_zero_iff.1 hlengths]
    rfl
  · rw [bind_of_ok (typesOf_text hsupported), hdecode]
    exact bind_of_ok hnamed _

/-- The fault that a function makes of flawed calldata of a size. -/
def faultOf (entry : Entry) (size : Nat) : Flaw → Fault
  | .layout => .decoding (.mismatch entry.signature entry.interface entry.selector (size + 4))
  | .unicode => .notUnicode

/-- Calldata that is flawed for the types of a function gives its fault. -/
theorem decode_of_flaw (htypes : entry.inputTypes = types.map ArgType.text)
    (hsupported : AllSupported (ArgType.abiOf types)) {flaw : Flaw}
    (hdecode : decodeArguments (ArgType.abiOf types) data = .error flaw) :
    entry.decode data = .error (entry.faultOf data.length flaw) := by
  have hne : ¬ (entry.inputTypes.isEmpty = true) := by
    intro hempty
    have hnil : types = [] := by simpa [htypes] using hempty
    rw [hnil] at hdecode
    cases hdecode
  have htypesOf : typesOf entry.inputTypes = .ok (ArgType.abiOf types) := by
    rw [htypes]
    exact typesOf_text hsupported
  unfold decode
  rw [if_neg hne, bind_of_ok htypesOf, hdecode]
  cases flaw with
  | layout => rfl
  | unicode => rfl

/-- Only as many arguments as there are names and types are named. -/
theorem length_of_nameArguments : ∀ {names types : List String} {vs : List Value}
    {named : List (String × Value)}, nameArguments names types vs = .ok named →
      names.length = types.length
  | [], [], [], _, _ => rfl
  | name :: names, type :: types, v :: vs, _, h => by
    obtain ⟨w, -, h⟩ := bind_eq_ok.1 h
    obtain ⟨rest, hrest, -⟩ := bind_eq_ok.1 h
    rw [List.length_cons, List.length_cons, length_of_nameArguments hrest]

/-- A function that accepts calldata has a name for each of its types, if it has types. -/
theorem length_of_decode (hne : entry.inputTypes ≠ []) {parameters : OrderedMap String Value}
    (h : entry.decode data = .ok parameters) :
    entry.inputNames.length = entry.inputTypes.length := by
  unfold decode at h
  rw [if_neg (by simpa using hne)] at h
  obtain ⟨abis, -, h⟩ := bind_eq_ok.1 h
  split at h
  · cases h
  · cases h
  · obtain ⟨named, hnamed, -⟩ := bind_eq_ok.1 h
    exact length_of_nameArguments hnamed

/-- Parameters that a function gives are the forms of arguments that its types decode. -/
theorem exists_args_of_decode (htypes : entry.inputTypes = types.map ArgType.text)
    (hsupported : AllSupported (ArgType.abiOf types)) {parameters : OrderedMap String Value}
    (h : entry.decode data = .ok parameters) :
    ∃ args, decodeArguments (ArgType.abiOf types) data = .ok args ∧
      parameters = .ofList (entry.inputNames.zip (interchangeOf (ArgType.abiOf types) args)) := by
  rcases hdecode : decodeArguments (ArgType.abiOf types) data with flaw | args
  · rw [decode_of_flaw htypes hsupported hdecode] at h
    cases h
  · refine ⟨args, rfl, ?_⟩
    by_cases hempty : entry.inputTypes = []
    · have hnil : types = [] := by simpa [htypes] using hempty
      have hnone : entry.decode data = .ok .empty := if_pos (by rw [hempty]; rfl)
      rw [← Except.ok.inj (hnone.symm.trans h), hnil, ArgType.abiOf, interchangeOf,
        List.zip_nil_right]
      · rfl
      · simp
    · have hlengths : entry.inputNames.length = types.length := by
        rw [length_of_decode hempty h, htypes, List.length_map]
      have hok := decode_eq_ok hlengths htypes hsupported hdecode
      exact Except.ok.inj (h.symm.trans hok)

/-- Any calldata is decoded, mismatches, or has a flaw of text. -/
theorem decode_cases (hlengths : entry.inputNames.length = types.length)
    (htypes : entry.inputTypes = types.map ArgType.text)
    (hsupported : AllSupported (ArgType.abiOf types)) (data : Bytes) :
    (∃ args, allAdmit (ArgType.abiOf types) args = true ∧ entry.decode data =
      .ok (.ofList (entry.inputNames.zip (interchangeOf (ArgType.abiOf types) args)))) ∨
    entry.decode data = .error (.decoding
      (.mismatch entry.signature entry.interface entry.selector (data.length + 4))) ∨
    (decodeArguments (ArgType.abiOf types) data = .error .unicode ∧
      entry.decode data = .error .notUnicode) := by
  cases hdecode : decodeArguments (ArgType.abiOf types) data with
  | ok args =>
    exact Or.inl ⟨args, admits_of_decodeArguments hsupported hdecode,
      decode_eq_ok hlengths htypes hsupported hdecode⟩
  | error flaw =>
    have hfault := decode_of_flaw htypes hsupported hdecode
    cases flaw with
    | layout => exact Or.inr (Or.inl hfault)
    | unicode => exact Or.inr (Or.inr ⟨rfl, hfault⟩)

/-- Without strings among its types, a function decodes any calldata or finds a mismatch. -/
theorem decode_plain (hlengths : entry.inputNames.length = types.length)
    (htypes : entry.inputTypes = types.map ArgType.text)
    (hsupported : AllSupported (ArgType.abiOf types))
    (hplain : AbiType.areAllPlain (ArgType.abiOf types) = true) (data : Bytes) :
    (∃ args, allAdmit (ArgType.abiOf types) args = true ∧ entry.decode data =
      .ok (.ofList (entry.inputNames.zip (interchangeOf (ArgType.abiOf types) args)))) ∨
    entry.decode data = .error (.decoding
      (.mismatch entry.signature entry.interface entry.selector (data.length + 4))) := by
  rcases decode_cases hlengths htypes hsupported data with hok | hmismatch | ⟨hflaw, -⟩
  · exact Or.inl hok
  · exact Or.inr hmismatch
  · exact absurd hflaw
      (decodeArguments_ne_unicode (AbiType.anyHasText_of_areAllPlain _ hplain) data)

end Entry

end Chronicle
