/- # Batches of transactions

A batch has a result in each place unless one of its transactions hands a
function a text that is no UTF-8. That is the one fault of arguments that is no
decoding error: it ends the whole batch, also for the transactions before and
behind it. Functions without strings never meet it.

Key definitions: `Registry.BreaksText`, `Registry.Places`.
Key theorems: `Registry.decode_of_not_breaksText`, `Registry.decodeBatch_places`,
`Board.decodeBatch_ends`.
-/
import Chronicle.Proofs.Classification
import Chronicle.Proofs.EntryDecoding

namespace Chronicle

open AbiType (AllSupported)

namespace Registry

/-- Every function that can be reached has supported types, as signatures write them. -/
def IsSupported (registry : Registry) : Prop :=
  ∀ entry ∈ registry.entries, ∃ types : List ArgType,
    entry.inputTypes = types.map ArgType.text ∧ AllSupported (ArgType.abiOf types)

/-- The input reaches a function at whose types its first flaw is a text that is no UTF-8. -/
def BreaksText (registry : Registry) (input : Bytes) (destination : Option String) : Prop :=
  destination.isSome ∧ 4 ≤ input.length ∧ ∃ entry types,
    registry.lookup? (input.take 4) = some entry ∧ Entry.typesOf entry.inputTypes = .ok types ∧
      decodeArguments types (input.drop 4) = .error .unicode

/-- The result stands in the place of the transaction: the call that it decodes to, or its decoding
error. -/
def Places (registry : Registry) (transaction : Transaction) : Except DecodingError Call → Prop
  | .ok call => registry.decodeTransaction transaction = .ok call
  | .error error => registry.decodeTransaction transaction = .error (.decoding error)

variable {interfaces : List Interface} {registry : Registry} {input : Bytes}
  {destination : Option String} {transaction : Transaction}

/-! ### One input -/

/-- Broken text makes a fault that is no decoding error. -/
theorem decode_of_breaksText (h : registry.BreaksText input destination) :
    registry.decode input destination = .error .notUnicode := by
  obtain ⟨hsome, hlength, entry, types, hentry, htypes, hflaw⟩ := h
  obtain ⟨destination, rfl⟩ := Option.isSome_iff_exists.1 hsome
  have hne : ¬ (entry.inputTypes.isEmpty = true) := by
    intro hempty
    rw [List.isEmpty_iff.1 hempty] at htypes
    cases htypes
    cases hflaw
  have hdecode : entry.decode (input.drop 4) = .error .notUnicode := by
    rw [Entry.decode, if_neg hne, bind_of_ok htypes, hflaw]
  rw [decode_registered hlength hentry, hdecode]
  rfl

/-- Any other input makes a call or has a decoding error. -/
theorem decode_of_not_breaksText (hbuild : build interfaces = .ok registry)
    (hsupported : registry.IsSupported) (h : ¬ registry.BreaksText input destination) :
    (∃ call, registry.decode input destination = .ok call) ∨
      ∃ error, registry.decode input destination = .error (.decoding error) := by
  cases destination with
  | none => exact Or.inl ⟨_, rfl⟩
  | some destination =>
    rcases decode_cases registry input destination with
      ⟨-, heq⟩ | ⟨-, -, heq⟩ | ⟨-, -, heq⟩ | ⟨entry, hlength, hentry, heq⟩
    · exact Or.inl ⟨_, heq⟩
    · exact Or.inr ⟨_, heq⟩
    · exact Or.inl ⟨_, heq⟩
    · have hmem := ((lookup?_eq_some_iff hbuild).1 hentry).1
      obtain ⟨types, htypes, hall⟩ := hsupported entry hmem
      have hlengths : entry.inputNames.length = types.length := by
        rw [(wellFormed_of_mem_entries hbuild entry hmem).names_length, htypes, List.length_map]
      rcases Entry.decode_cases hlengths htypes hall (input.drop 4) with
        ⟨args, -, hok⟩ | hmismatch | ⟨hflaw, -⟩
      · exact Or.inl ⟨_, heq.trans (bind_of_ok hok _)⟩
      · rw [hmismatch] at heq
        exact Or.inr ⟨_, heq⟩
      · have htypesOf : Entry.typesOf entry.inputTypes = .ok (ArgType.abiOf types) := by
          rw [htypes]
          exact Entry.typesOf_text hall
        exact absurd ⟨rfl, hlength, entry, _, hentry, htypesOf, hflaw⟩ h

/-! ### One transaction -/

theorem placed_of_places : ∀ {result : Except DecodingError Call},
    registry.Places transaction result →
      placed (registry.decodeTransaction transaction) = .ok result
  | .ok _, h => congrArg placed h
  | .error _, h => congrArg placed h

/-- A transaction that breaks a text has no place in a batch. -/
theorem placed_of_breaksText
    (h : registry.BreaksText transaction.input transaction.destination) :
    placed (registry.decodeTransaction transaction) = .error .notUnicode := by
  rw [decodeTransaction, decode_of_breaksText h]
  rfl

/-- The value of a transaction can be written, so that a transaction has a result whenever its input
has one. -/
theorem exists_places (hbuild : build interfaces = .ok registry)
    (hsupported : registry.IsSupported) (hlow : 0 ≤ transaction.value)
    (hhigh : transaction.value < capacity 256)
    (h : ¬ registry.BreaksText transaction.input transaction.destination) :
    ∃ result, registry.Places transaction result := by
  rcases decode_of_not_breaksText hbuild hsupported h with ⟨call, hcall⟩ | ⟨error, herror⟩
  · have hwrite : Numeral.write? transaction.value = some (Numeral.text transaction.value) :=
      Numeral.write?_of_natAbs_le (by omega)
    by_cases hnative : call.isNativeTransfer = true
    · refine ⟨.ok (call.extend [("value", .text (Numeral.text transaction.value))]), ?_⟩
      rw [Places, decodeTransaction, bind_of_ok hcall, if_pos hnative, hwrite]
    · refine ⟨.ok call, ?_⟩
      rw [Places, decodeTransaction, bind_of_ok hcall, if_neg hnative]
  · refine ⟨.error error, ?_⟩
    rw [Places, decodeTransaction, herror]
    rfl

/-! ### Batches -/

/-- A batch in which every transaction has a result lists these results. -/
theorem decodeBatch_of_forall : ∀ {transactions : List Transaction},
    (∀ transaction ∈ transactions, ∃ result, registry.Places transaction result) →
      ∃ results, registry.decodeBatch transactions = .ok results ∧
        List.Forall₂ registry.Places transactions results
  | [], _ => ⟨[], rfl, .nil⟩
  | transaction :: transactions, h => by
    obtain ⟨result, hresult⟩ := h transaction List.mem_cons_self
    obtain ⟨results, hresults, hplaces⟩ :=
      decodeBatch_of_forall fun t ht => h t (List.mem_cons_of_mem transaction ht)
    refine ⟨result :: results, ?_, .cons hresult hplaces⟩
    rw [decodeBatch, bind_of_ok (placed_of_places hresult), bind_of_ok hresults]

/-- Where every transaction has a result or the same fault, one with the fault ends the batch. -/
theorem decodeBatch_of_exists {fault : Fault} : ∀ {transactions : List Transaction},
    (∀ transaction ∈ transactions,
      (∃ result, placed (registry.decodeTransaction transaction) = .ok result) ∨
        placed (registry.decodeTransaction transaction) = .error fault) →
      (∃ transaction ∈ transactions,
        placed (registry.decodeTransaction transaction) = .error fault) →
        registry.decodeBatch transactions = .error fault
  | [], _, h => by simp at h
  | transaction :: transactions, hall, hsome => by
    obtain ⟨hfirst, hothers⟩ := List.forall_mem_cons.1 hall
    rcases hfirst with ⟨result, hresult⟩ | herror
    · -- The fault is that of a later transaction, since this one has a result.
      have hrest : ∃ t ∈ transactions, placed (registry.decodeTransaction t) = .error fault := by
        obtain ⟨t, ht, herror⟩ := hsome
        rcases List.mem_cons.1 ht with rfl | ht
        · cases hresult.symm.trans herror
        · exact ⟨t, ht, herror⟩
      rw [decodeBatch, bind_of_ok hresult, decodeBatch_of_exists hothers hrest]
      rfl
    · rw [decodeBatch, herror]
      rfl

/-- A batch ends with a fault exactly if one of its transactions breaks a text. Any other batch has
one result for each transaction in its order, which is the call that it decodes to or its decoding
error, and no other fault comes out of decoding an input. -/
theorem decodeBatch_places (hbuild : build interfaces = .ok registry)
    (hsupported : registry.IsSupported) {transactions : List Transaction}
    (hvalues : ∀ transaction ∈ transactions,
      0 ≤ transaction.value ∧ transaction.value < capacity 256) :
    (∀ input destination,
      registry.BreaksText input destination ∧
        registry.decode input destination = .error .notUnicode ∨
      ¬ registry.BreaksText input destination ∧
        ((∃ call, registry.decode input destination = .ok call) ∨
          ∃ error, registry.decode input destination = .error (.decoding error))) ∧
    ((∃ transaction ∈ transactions,
        registry.BreaksText transaction.input transaction.destination) ∧
        registry.decodeBatch transactions = .error .notUnicode ∨
      (∀ transaction ∈ transactions,
        ¬ registry.BreaksText transaction.input transaction.destination) ∧
        ∃ results, registry.decodeBatch transactions = .ok results ∧
          List.Forall₂ registry.Places transactions results) := by
  refine ⟨fun input destination => ?_, ?_⟩
  · by_cases h : registry.BreaksText input destination
    · exact Or.inl ⟨h, decode_of_breaksText h⟩
    · exact Or.inr ⟨h, decode_of_not_breaksText hbuild hsupported h⟩
  · have hplaces (t : Transaction) (ht : t ∈ transactions)
        (h : ¬ registry.BreaksText t.input t.destination) : ∃ result, registry.Places t result :=
      exists_places hbuild hsupported (hvalues t ht).1 (hvalues t ht).2 h
    by_cases hbroken : ∃ t ∈ transactions, registry.BreaksText t.input t.destination
    · refine Or.inl ⟨hbroken, decodeBatch_of_exists (fun t ht => ?_) ?_⟩
      · by_cases h : registry.BreaksText t.input t.destination
        · exact Or.inr (placed_of_breaksText h)
        · obtain ⟨result, hresult⟩ := hplaces t ht h
          exact Or.inl ⟨result, placed_of_places hresult⟩
      · obtain ⟨t, ht, h⟩ := hbroken
        exact ⟨t, ht, placed_of_breaksText h⟩
    · have hnone : ∀ t ∈ transactions, ¬ registry.BreaksText t.input t.destination :=
        fun t ht h => hbroken ⟨t, ht, h⟩
      exact Or.inr ⟨hnone, decodeBatch_of_forall fun t ht => hplaces t ht (hnone t ht)⟩

end Registry

/-! ### A batch that ends -/

namespace Board

/-- An interface of one function, which takes a text. -/
def interface : Interface where
  name := "Board"
  abi := .list [.object
    [("type", .text "function"), ("name", .text "post"),
     ("inputs", .list [.object [("name", .text "note"), ("type", .text "string")]])]]
  family := .generic

/-- The function of the interface. -/
def post : Entry where
  selector := selectorOf "post(string)"
  name := "post"
  signature := "post(string)"
  inputTypes := ["string"]
  inputNames := ["note"]
  family := .generic
  interface := "Board"

/-- The registry of the interface. -/
def registry : Registry := Registry.empty.add post

theorem build_interface : Registry.build [interface] = .ok registry :=
  Registry.build_eq_ok_iff.2 ⟨[post], rfl, rfl⟩

theorem isSupported_registry : registry.IsSupported := by
  intro entry hentry
  obtain rfl : entry = post := List.mem_singleton.1 hentry
  exact ⟨[.string], rfl, trivial, trivial⟩

/-- A transaction that posts the bytes of a note. -/
def posting (hash : String) (note : Bytes) : Transaction where
  hash := hash
  sender := ""
  destination := some "0x4444444444444444444444444444444444444444"
  input := post.selector ++ (wordOf 32 ++ wordOf note.length ++ padded note)
  value := 0

/-- A text, a note that is no text, and an input that is too short. -/
def postings : List Transaction :=
  [posting "0x1" (Utf8.encode "hé"), posting "0x2" [0xff],
    { posting "0x3" [] with input := [0x8e, 0xe9] }]

theorem postings_values :
    ∀ transaction ∈ postings, 0 ≤ transaction.value ∧ transaction.value < capacity 256 := by decide

/-- A note that is no UTF-8 ends a batch in which the note before it makes a call. -/
theorem decodeBatch_ends :
    Registry.build [interface] = .ok registry ∧ registry.IsSupported ∧
      (∃ call, registry.decodeTransaction (posting "0x1" (Utf8.encode "hé")) = .ok call) ∧
      registry.decodeBatch postings = .error .notUnicode ∧
      ¬ ∃ results, registry.decodeBatch postings = .ok results := by
  have hends : registry.decodeBatch postings = .error .notUnicode := by decide +kernel
  refine ⟨build_interface, isSupported_registry, ?_, hends, ?_⟩
  · have hcall : (registry.decodeTransaction (posting "0x1" (Utf8.encode "hé"))).isOk = true := by
      decide +kernel
    cases hresult : registry.decodeTransaction (posting "0x1" (Utf8.encode "hé")) with
    | ok call => exact ⟨call, rfl⟩
    | error fault => rw [hresult] at hcall; cases hcall
  · rintro ⟨results, hresults⟩
    cases hends.symm.trans hresults

end Board

/-- Without that note the other two have results, a call and an error. -/
theorem Registry.decodeBatch_places_board :
    (∀ transaction ∈ Board.postings.eraseIdx 1,
        0 ≤ transaction.value ∧ transaction.value < capacity 256) ∧
      ∃ results, Board.registry.decodeBatch (Board.postings.eraseIdx 1) = .ok results ∧
        List.Forall₂ Board.registry.Places (Board.postings.eraseIdx 1) results ∧
        results.map (·.isOk) = [true, false] := by
  have hvalues : ∀ transaction ∈ Board.postings.eraseIdx 1,
      0 ≤ transaction.value ∧ transaction.value < capacity 256 :=
    fun t ht => Board.postings_values t (List.mem_of_mem_eraseIdx ht)
  have hkinds : (Board.registry.decodeBatch (Board.postings.eraseIdx 1)).map
      (List.map (·.isOk)) = .ok [true, false] := by decide +kernel
  obtain ⟨-, ⟨-, herror⟩ | ⟨-, results, hresults, hplaces⟩⟩ :=
    decodeBatch_places Board.build_interface Board.isSupported_registry hvalues
  · rw [herror] at hkinds
    cases hkinds
  · rw [hresults] at hkinds
    exact ⟨hvalues, results, hresults, hplaces, Except.ok.inj hkinds⟩

end Chronicle
