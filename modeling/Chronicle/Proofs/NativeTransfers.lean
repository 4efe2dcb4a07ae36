/-
# Transfers of native currency

A transaction with a destination and without input moves native currency, and
the call it makes is marked by an argument `asset` with the text `native`. No
contract is called under that mark unless one of the generic family takes a
string named `asset`, and is handed this very text: then its call is marked as
well, and the value of the transaction is put among its arguments, in the place
of an argument `value` if there is one.

Key definitions: `Transaction.MovesNative`, `Registry.PosesNative`,
`Registry.TakesAsset`, `Registry.MarksNative`.
Key theorems: `Registry.isNativeTransfer_iff`, `Registry.takesAsset_of_posesNative`,
`Registry.decodeTransaction_marksNative`, `Shop.decodeTransaction_posing`.
-/
import Chronicle.Proofs.Classification
import Chronicle.Proofs.DecodeSound
import Chronicle.Proofs.Runs

namespace Chronicle

/-- The transaction has a destination and no input. -/
def Transaction.MovesNative (transaction : Transaction) : Prop :=
  transaction.destination.isSome ∧ transaction.input = []

namespace Registry

/-- The input calls a function of the generic family with the text `native` for an argument
`asset`. -/
def PosesNative (registry : Registry) (input : Bytes) (destination : Option String) : Prop :=
  destination.isSome ∧ 4 ≤ input.length ∧ ∃ entry parameters,
    registry.lookup? (input.take 4) = some entry ∧ entry.family = .generic ∧
      entry.decode (input.drop 4) = .ok parameters ∧
        parameters.get? "asset" = some (.text "native")

/-- A function of the generic family takes a string named `asset`. -/
def TakesAsset (registry : Registry) : Prop :=
  ∃ entry ∈ registry.entries, entry.family = .generic ∧
    ∃ type, ("asset", type) ∈ entry.inputNames.zip entry.inputTypes ∧
      AbiType.ofText type = .ok .string

variable {registry : Registry} {input : Bytes} {destination : Option String} {call : Call}

/-- Two kinds of inputs make calls that are marked. -/
theorem isNativeTransfer_iff (hcall : registry.decode input destination = .ok call) :
    call.isNativeTransfer = true ↔
      destination.isSome ∧ input = [] ∨ registry.PosesNative input destination := by
  cases destination with
  | none =>
    cases hcall
    simp [Call.isNativeTransfer, PosesNative]
  | some destination =>
    rcases decode_cases registry input destination with
      ⟨rfl, heq⟩ | ⟨-, -, heq⟩ | ⟨hlength, hnone, heq⟩ | ⟨entry, hlength, hentry, heq⟩
    · cases heq.symm.trans hcall
      exact iff_of_true rfl (Or.inl ⟨rfl, rfl⟩)
    · cases heq.symm.trans hcall
    · cases heq.symm.trans hcall
      have hne : input ≠ [] := List.ne_nil_of_length_pos (by omega)
      simp [Call.isNativeTransfer, PosesNative, hnone, hne]
    · obtain ⟨parameters, hparameters, hok⟩ := bind_eq_ok.1 (heq.symm.trans hcall)
      cases hok
      have hne : input ≠ [] := List.ne_nil_of_length_pos (by omega)
      simp [Call.isNativeTransfer, PosesNative, hlength, hentry, hparameters, hne]

end Registry

/-! ### Texts among arguments -/

theorem Numeral.text_ne_native (n : Int) : Numeral.text n ≠ "native" := by
  intro h
  cases n with
  | ofNat n =>
    have hn : 'n' ∈ Nat.toDigits 10 n := by
      rw [← Nat.toList_repr, show n.repr = "native" from h]
      decide
    exact absurd (isDigit_of_mem_toDigits 'n' hn) (by decide)
  | negSucc n =>
    have hhead := congrArg (·.toList.head?) h
    simp [Numeral.text] at hhead

theorem Hex.marked_ne_native (bs : Bytes) : Hex.marked bs ≠ "native" := by
  intro h
  have hhead := congrArg (·.toList.head?) h
  simp [Hex.marked] at hhead

/-- A text that is read is that of a string, or the marked text of an address. -/
theorem AbiType.text_of_decodeAt {data : Bytes} {t : AbiType} {position : Nat} {s : String}
    (h : decodeAt data t position = .ok (.text s)) :
    t = .string ∨ ∃ bs : Bytes, bs.length = 20 ∧ s = Hex.marked bs := by
  cases t with
  | string => exact Or.inl rfl
  | address =>
    simp only [decodeAt, bind_eq_ok, Except.ok.injEq, Value.text.injEq] at h
    obtain ⟨word, -, -, -, rfl⟩ := h
    exact Or.inr ⟨_, length_toBigEndian 20 word, rfl⟩
  | array item length =>
    rw [decodeAt] at h
    obtain ⟨_, hlist, -, -⟩ := items_of_readItems h
    cases hlist
  | sequence item =>
    rw [decodeAt] at h
    obtain ⟨length, -, h⟩ := bind_eq_ok.1 h
    obtain ⟨_, hlist, -, -⟩ := items_of_readItems h
    cases hlist
  | _ => simp [decodeAt, bind_eq_ok, fixedPoint] at h

namespace Shape

theorem eq_native_of_normalizeLeaf {isAddress : Bool} {v : Value}
    (h : normalizeLeaf isAddress v = .ok (.text "native")) :
    ∃ s, v = .text s ∧ (s = "native" ∨ Address.spelled s = "native") := by
  unfold normalizeLeaf at h
  split at h
  · next n =>
    split at h
    · next s hs =>
      obtain ⟨-, rfl⟩ := Numeral.write?_eq_some_iff.1 hs
      exact absurd (Value.text.inj (Except.ok.inj h)) (Numeral.text_ne_native n)
    · cases h
  · next bs => exact absurd (Value.text.inj (Except.ok.inj h)) (Hex.marked_ne_native bs)
  · next s =>
    have hs := Value.text.inj (Except.ok.inj h)
    split at hs
    · exact ⟨s, rfl, Or.inr hs⟩
    · exact ⟨s, rfl, Or.inl hs⟩
  · exact ⟨"native", Except.ok.inj h, Or.inl rfl⟩

/-- The form of a value is this text only if the value is a text. -/
theorem eq_native_of_normalize {shape : Shape} {v : Value}
    (h : shape.normalize v = .ok (.text "native")) :
    ∃ s, v = .text s ∧ (s = "native" ∨ Address.spelled s = "native") := by
  cases shape with
  | address => exact eq_native_of_normalizeLeaf h
  | other => exact eq_native_of_normalizeLeaf h
  | listOf item =>
    unfold normalize at h
    split at h
    · cases h
    · simp [bind_eq_ok] at h
  | tupleOf items =>
    unfold normalize at h
    split at h
    · cases h
    · simp [bind_eq_ok] at h

end Shape

/-- Only an argument of the type of strings has this form. -/
theorem AbiType.eq_string_of_native {data : Bytes} {t : AbiType} {position : Nat} {v : Value}
    {shape : Shape} (hv : decodeAt data t position = .ok v)
    (h : shape.normalize v = .ok (.text "native")) : t = .string := by
  obtain ⟨s, rfl, hs⟩ := Shape.eq_native_of_normalize h
  rcases text_of_decodeAt hv with hstring | ⟨bs, hlength, rfl⟩
  · exact hstring
  · rw [Address.spelled_marked hlength, or_self] at hs
    exact absurd hs (Hex.marked_ne_native bs)

namespace Entry

/-- A named argument is the form of a value that was read at some position as one of the types. -/
theorem exists_of_mem_nameArguments {data : Bytes} {start : Nat} :
    ∀ {names texts : List String} {types : List AbiType} {position : Nat} {vs : List Value}
      {named : List (String × Value)}, typesOf texts = .ok types →
      AbiType.decodeMembers data start types position = .ok vs →
      nameArguments names texts vs = .ok named → ∀ {name : String} {w : Value}, (name, w) ∈ named →
        ∃ text type v p, (name, text) ∈ names.zip texts ∧ AbiType.ofText text = .ok type ∧
          AbiType.decodeAt data type p = .ok v ∧ (Shape.ofText text).normalize v = .ok w
  | names, [], _, _, _, _, htypes, hvs, hnamed, _, _, hmem => by
    cases htypes
    cases hvs
    cases names with
    | nil =>
      cases hnamed
      exact absurd hmem List.not_mem_nil
    | cons name names => cases hnamed
  | [], _ :: _, _, _, _, _, _, _, hnamed, _, _, _ => by cases hnamed
  | name :: names, text :: texts, _, position, _, _, htypes, hvs, hnamed, other, w, hmem => by
    simp only [typesOf, bind_eq_ok, Except.ok.injEq] at htypes
    obtain ⟨type, htype, types, htypes, rfl⟩ := htypes
    simp only [AbiType.decodeMembers, bind_eq_ok, Except.ok.injEq] at hvs
    obtain ⟨v, hv, vs, hvs, rfl⟩ := hvs
    simp only [nameArguments, bind_eq_ok, Except.ok.injEq] at hnamed
    obtain ⟨first, hfirst, rest, hrest, rfl⟩ := hnamed
    rcases List.mem_cons.1 hmem with heq | hmem
    · obtain ⟨rfl, rfl⟩ := Prod.mk.inj heq
      obtain ⟨p, hp⟩ := exists_of_readComponent hv
      exact ⟨text, type, v, p, List.mem_cons_self, htype, hp, hfirst⟩
    · obtain ⟨text', type', v', p, hzip, hrest⟩ :=
        exists_of_mem_nameArguments htypes hvs hrest hmem
      exact ⟨text', type', v', p, List.mem_cons_of_mem _ hzip, hrest⟩

/-- A function whose argument has this form takes a string under that name. -/
theorem takes_string_of_native {entry : Entry} {data : Bytes} {parameters : OrderedMap String Value}
    {name : String} (h : entry.decode data = .ok parameters)
    (hname : parameters.get? name = some (.text "native")) :
    ∃ type, (name, type) ∈ entry.inputNames.zip entry.inputTypes ∧
      AbiType.ofText type = .ok .string := by
  unfold decode at h
  split at h
  · cases h
    cases hname
  · obtain ⟨types, htypes, h⟩ := bind_eq_ok.1 h
    split at h
    · cases h
    · cases h
    · next vs hvs =>
      obtain ⟨named, hnamed, hok⟩ := bind_eq_ok.1 h
      cases hok
      have hmem : (name, .text "native") ∈ named := by
        rcases OrderedMap.mem_entries_insertAll (OrderedMap.mem_entries_of_get? hname) with h | h
        · exact absurd h List.not_mem_nil
        · exact h
      obtain ⟨-, -, hmembers⟩ := bind_eq_ok.1 hvs
      obtain ⟨text, type, v, p, hzip, htype, hv, hform⟩ :=
        exists_of_mem_nameArguments htypes hmembers hnamed hmem
      exact ⟨text, hzip, AbiType.eq_string_of_native hv hform ▸ htype⟩

end Entry

namespace Registry

variable {registry : Registry} {transaction : Transaction} {call : Call}

/-- The mark is given to a call of a function only if the registry has a function that can be
handed the mark. -/
theorem takesAsset_of_posesNative {input : Bytes} {destination : Option String}
    (h : registry.PosesNative input destination) : registry.TakesAsset := by
  obtain ⟨-, -, entry, parameters, hentry, hfamily, hdecode, hasset⟩ := h
  have hmem : entry ∈ registry.entries :=
    List.mem_map.2 ⟨_, OrderedMap.mem_entries_of_get? hentry, rfl⟩
  exact ⟨entry, hmem, hfamily, Entry.takes_string_of_native hdecode hasset⟩

/-- Which calls of transactions are marked, and what the value of a transaction adds to them. -/
structure MarksNative (registry : Registry) (transaction : Transaction) (call : Call) : Prop where
  marked : call.isNativeTransfer = true ↔ transaction.MovesNative ∨
    registry.PosesNative transaction.input transaction.destination
  posing : registry.PosesNative transaction.input transaction.destination → registry.TakesAsset
  /-- Any other call stays as it is. -/
  unmarked : call.isNativeTransfer = false → registry.decodeTransaction transaction = .ok call
  /-- The value of native currency comes behind the other arguments and changes nothing else. -/
  native : transaction.MovesNative → ∀ value, Numeral.write? transaction.value = some value →
    ∃ extended, registry.decodeTransaction transaction = .ok extended ∧
      extended.parameters.entries = call.parameters.entries ++ [("value", .text value)] ∧
        { extended with parameters := call.parameters } = call

/-- Where no function of the generic family takes a string named `asset`, exactly the transactions
with a destination and without input make calls that are marked; and only to these calls something
is added. -/
theorem decodeTransaction_marksNative
    (hcall : registry.decode transaction.input transaction.destination = .ok call) :
    registry.MarksNative transaction call where
  marked := isNativeTransfer_iff hcall
  posing := takesAsset_of_posesNative
  unmarked h := by
    rw [decodeTransaction, bind_of_ok hcall, if_neg (by rw [h]; decide)]
  native h value hvalue := by
    have hmarked : call.isNativeTransfer = true := (isNativeTransfer_iff hcall).2 (Or.inl h)
    refine ⟨call.extend [("value", .text value)], ?_, ?_, rfl⟩
    · rw [decodeTransaction, bind_of_ok hcall, if_pos hmarked, hvalue]
    · obtain ⟨hdestination, hinput⟩ := h
      obtain ⟨destination, hdestination⟩ := Option.isSome_iff_exists.1 hdestination
      rw [hdestination, hinput] at hcall
      cases hcall
      rfl

end Registry

/-! ### A function that is taken for a transfer -/

namespace Shop

/-- A payment in an asset that is told by its name. -/
def interface : Interface where
  name := "Shop"
  abi := .list [Known.declare "pay" [("string", "asset"), ("uint256", "value")]]
  family := .generic

/-- The function of the interface. -/
def pay : Entry where
  selector := selectorOf "pay(string,uint256)"
  name := "pay"
  signature := "pay(string,uint256)"
  inputTypes := ["string", "uint256"]
  inputNames := ["asset", "value"]
  family := .generic
  interface := "Shop"

/-- The registry of the interface. -/
def registry : Registry := Registry.empty.add pay

theorem build_interface : Registry.build [interface] = .ok registry :=
  Registry.build_eq_ok_iff.2 ⟨[pay], rfl, rfl⟩

/-- A transaction that pays seven units of an asset and moves no native currency. -/
def paying (asset : Bytes) : Transaction where
  hash := "0x1"
  sender := ""
  destination := some "0x4444444444444444444444444444444444444444"
  input := pay.selector ++ (wordOf 64 ++ wordOf 7 ++ wordOf asset.length ++ padded asset)
  value := 0

/-- What comes of a payment in an asset: whether it is marked, its value, and its value after that of
the transaction is added. -/
def outcome (asset : Bytes) : Option (Bool × Option Value × Option Value) := do
  let call ← (registry.decode (paying asset).input (paying asset).destination).toOption
  let extended ← (registry.decodeTransaction (paying asset)).toOption
  some (call.isNativeTransfer, call.parameters.get? "value", extended.parameters.get? "value")

theorem exists_of_outcome {asset : Bytes} {marked : Bool} {value extension : Option Value}
    (h : outcome asset = some (marked, value, extension)) :
    ∃ call extended, registry.decode (paying asset).input (paying asset).destination = .ok call ∧
      registry.decodeTransaction (paying asset) = .ok extended ∧ call.isNativeTransfer = marked ∧
      call.parameters.get? "value" = value ∧ extended.parameters.get? "value" = extension := by
  unfold outcome at h
  cases hcall : registry.decode (paying asset).input (paying asset).destination with
  | error fault => rw [hcall] at h; cases h
  | ok call =>
    cases hextended : registry.decodeTransaction (paying asset) with
    | error fault => rw [hcall, hextended] at h; cases h
    | ok extended =>
      rw [hcall, hextended] at h
      cases h
      exact ⟨call, extended, rfl, rfl, rfl, rfl, rfl⟩

/-- A payment in an asset of this name is taken for a transfer of native currency, and its value is
replaced by that of the transaction. -/
theorem decodeTransaction_posing :
    Registry.build [interface] = .ok registry ∧ (paying (Utf8.encode "native")).input ≠ [] ∧
    ∃ call extended,
      registry.decode (paying (Utf8.encode "native")).input
        (paying (Utf8.encode "native")).destination = .ok call ∧
      registry.decodeTransaction (paying (Utf8.encode "native")) = .ok extended ∧
      call.isNativeTransfer = true ∧ call.parameters.get? "value" = some (.text "7") ∧
      extended.parameters.get? "value" = some (.text "0") := by
  have houtcome : outcome (Utf8.encode "native") =
      some (true, some (.text "7"), some (.text "0")) := by decide +kernel
  exact ⟨build_interface, by decide +kernel, exists_of_outcome houtcome⟩

end Shop

/-- A payment in another asset keeps its value. -/
theorem Registry.decodeTransaction_marksNative_silver :
    ∃ call, Shop.registry.decode (Shop.paying (Utf8.encode "silver")).input
        (Shop.paying (Utf8.encode "silver")).destination = .ok call ∧
      Shop.registry.MarksNative (Shop.paying (Utf8.encode "silver")) call ∧
      Shop.registry.decodeTransaction (Shop.paying (Utf8.encode "silver")) = .ok call ∧
      call.parameters.get? "value" = some (.text "7") := by
  have houtcome : Shop.outcome (Utf8.encode "silver") =
      some (false, some (.text "7"), some (.text "7")) := by decide +kernel
  obtain ⟨call, -, hcall, -, hplain, hvalue, -⟩ := Shop.exists_of_outcome houtcome
  have hmarks := decodeTransaction_marksNative hcall
  exact ⟨call, hcall, hmarks, hmarks.unmarked hplain, hvalue⟩

end Chronicle
