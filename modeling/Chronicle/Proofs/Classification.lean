/- # Which call or error an input gets

The answer to an input depends on its destination, its length and its first
four bytes, in this order. A missing destination is the only way to a contract
creation, and a selector that is not registered the only way to a call of the
unknown family, since no function that can be reached has a reserved family.
An error tells the length of the whole input, the bytes that stand for the
selector and the signature that was tried.

Key definition: `Registry.Classifies`.
Key theorem: `Registry.classifies_of_build`.
-/
import Chronicle.Proofs.Registration
import Chronicle.Transaction

namespace Chronicle

/-! ### Faults that are no decoding errors -/

/-- The outcome is a value or a fault that does not take the place of a call. -/
def SparesCall {α : Type} (x : Except Fault α) : Prop := ∀ error, x ≠ .error (.decoding error)

namespace SparesCall

variable {α β : Type}

theorem ok (a : α) : SparesCall (.ok a) := fun _ h => by cases h

theorem bind {x : Except Fault α} {f : α → Except Fault β} (hx : SparesCall x)
    (hf : ∀ a, SparesCall (f a)) : SparesCall (x >>= f) := by
  intro error h
  rcases bind_eq_error.1 h with h | ⟨a, -, h⟩
  · exact hx error h
  · exact hf a error h

end SparesCall

namespace TypeExpr

theorem sparesCall_resolveName (inner : Bool) (base : String) (size : Option SizeText) :
    SparesCall (resolveName inner base size) := by
  intro error h
  unfold resolveName at h
  split at h <;> first | cases h | (split at h <;> cases h)

mutual

theorem sparesCall_resolve : ∀ e : TypeExpr, SparesCall e.resolve
  | .named base size _ =>
    (sparesCall_resolveName true base size).bind fun _ => .ok _
  | .tuple parts _ => (sparesCall_resolveAll parts).bind fun _ => .ok _

theorem sparesCall_resolveAll : ∀ es : List TypeExpr, SparesCall (resolveAll es)
  | [] => .ok _
  | e :: es =>
    (sparesCall_resolve e).bind fun _ => (sparesCall_resolveAll es).bind fun _ => .ok _

end

theorem sparesCall_toType (e : TypeExpr) : SparesCall e.toType := by
  unfold toType
  split
  · refine (sparesCall_resolveName false _ _).bind fun t => ?_
    split
    · exact .ok t
    · exact fun _ h => by cases h
  · split
    · exact sparesCall_resolve _
    · exact fun _ h => by cases h

end TypeExpr

theorem AbiType.sparesCall_ofText (s : String) : SparesCall (AbiType.ofText s) := by
  unfold AbiType.ofText
  split
  · exact TypeExpr.sparesCall_toType _
  · intro error h
    split at h <;> cases h

namespace Shape

theorem sparesCall_normalizeLeaf (isAddress : Bool) (v : Value) :
    SparesCall (normalizeLeaf isAddress v) := by
  intro error h
  unfold normalizeLeaf at h
  split at h <;> first | cases h | (split at h <;> cases h)

theorem sparesCall_normalizeEach {f : Value → Except Fault Value} (hf : ∀ v, SparesCall (f v)) :
    ∀ vs : List Value, SparesCall (normalizeEach f vs)
  | [] => .ok _
  | v :: vs => (hf v).bind fun _ => (sparesCall_normalizeEach hf vs).bind fun _ => .ok _

mutual

theorem sparesCall_normalize : ∀ (shape : Shape) (v : Value), SparesCall (shape.normalize v)
  | .address, v => sparesCall_normalizeLeaf true v
  | .other, v => sparesCall_normalizeLeaf false v
  | .listOf item, v => by
    unfold normalize
    split
    · exact fun _ h => by cases h
    · exact (sparesCall_normalizeEach (sparesCall_normalize item) _).bind fun _ => .ok _
  | .tupleOf items, v => by
    unfold normalize
    split
    · exact fun _ h => by cases h
    · exact (sparesCall_normalizeMembers items _).bind fun _ => .ok _

theorem sparesCall_normalizeMembers : ∀ (shapes : List Shape) (vs : List Value),
    SparesCall (normalizeMembers shapes vs)
  | [], [] => .ok _
  | shape :: shapes, v :: vs =>
    (sparesCall_normalize shape v).bind fun _ =>
      (sparesCall_normalizeMembers shapes vs).bind fun _ => .ok _
  | [], _ :: _ => fun _ h => by cases h
  | _ :: _, [] => fun _ h => by cases h

end

end Shape

namespace Entry

theorem sparesCall_typesOf : ∀ ss : List String, SparesCall (typesOf ss)
  | [] => .ok _
  | s :: ss =>
    (AbiType.sparesCall_ofText s).bind fun _ => (sparesCall_typesOf ss).bind fun _ => .ok _

theorem sparesCall_nameArguments : ∀ (names types : List String) (vs : List Value),
    SparesCall (nameArguments names types vs)
  | [], [], [] => .ok _
  | _ :: names, type :: types, v :: vs =>
    (Shape.sparesCall_normalize (Shape.ofText type) v).bind fun _ =>
      (sparesCall_nameArguments names types vs).bind fun _ => .ok _
  | [], [], _ :: _ => fun _ h => by cases h
  | [], _ :: _, _ => fun _ h => by cases h
  | _ :: _, [], _ => fun _ h => by cases h
  | _ :: _, _ :: _, [] => fun _ h => by cases h

/-- The only decoding error of arguments is a mismatch with the function, and it counts the
selector's bytes. -/
theorem decode_eq_error {entry : Entry} {calldata : Bytes} {error : DecodingError}
    (h : entry.decode calldata = .error (.decoding error)) :
    error = .mismatch entry.signature entry.interface entry.selector (calldata.length + 4) := by
  unfold decode at h
  split at h
  · cases h
  · rcases bind_eq_error.1 h with h | ⟨types, -, h⟩
    · exact absurd h (sparesCall_typesOf _ error)
    · split at h
      · cases h
        rfl
      · cases h
      · exact absurd h ((sparesCall_nameArguments _ _ _).bind (fun _ => .ok _) error)

end Entry

/-! ### The cases of decoding -/

namespace Registry

/-- With a destination, an input moves native currency, is too short, has an unknown selector, or
is left to the function that its selector reaches. -/
theorem decode_cases (registry : Registry) (input : Bytes) (destination : String) :
    (input = [] ∧ registry.decode input (some destination) =
      .ok ⟨"transfer", .generic, Call.zeroSelector, .ofList [("asset", .text "native")], []⟩) ∨
    (1 ≤ input.length ∧ input.length ≤ 3 ∧
      registry.decode input (some destination) = .error (.decoding (.malformed input))) ∨
    (4 ≤ input.length ∧ registry.lookup? (input.take 4) = none ∧
      registry.decode input (some destination) =
        .ok ⟨"unknown", .unknown, Hex.marked (input.take 4), .empty, input⟩) ∨
    (∃ entry, 4 ≤ input.length ∧ registry.lookup? (input.take 4) = some entry ∧
      registry.decode input (some destination) = do
        let parameters ← entry.decode (input.drop 4)
        .ok ⟨entry.name, entry.family, Hex.marked (input.take 4), parameters, input⟩) := by
  unfold decode
  cases input with
  | nil => exact Or.inl ⟨rfl, rfl⟩
  | cons b rest =>
    by_cases hshort : (b :: rest).length < 4
    · refine Or.inr (Or.inl ⟨by simp, by omega, ?_⟩)
      simp only [List.isEmpty_cons, Bool.false_eq_true, if_false, if_pos hshort]
    · simp only [List.isEmpty_cons, Bool.false_eq_true, if_false, if_neg hshort, decodeSelected]
      cases registry.lookup? ((b :: rest).take 4) with
      | none => exact Or.inr (Or.inr (Or.inl ⟨by omega, rfl, rfl⟩))
      | some entry => exact Or.inr (Or.inr (Or.inr ⟨entry, by omega, rfl, rfl⟩))

/-- What an input gets at a destination. -/
structure Classifies (registry : Registry) (input : Bytes) (destination : Option String) :
    Prop where
  /-- Without a destination a contract is created, whatever the input. -/
  creation : destination = none → registry.decode input destination =
    .ok ⟨"constructor", .contractCreation, "0x00000000", .empty, input⟩
  creation_only : ∀ call, registry.decode input destination = .ok call →
    call.family = .contractCreation → destination = none
  /-- Exactly inputs of one to three bytes are malformed. -/
  malformed : (∃ error, registry.decode input destination = .error (.decoding error) ∧
      error.kind = "MalformedInput") ↔
    destination.isSome ∧ 1 ≤ input.length ∧ input.length ≤ 3
  malformed_tells : ∀ error, registry.decode input destination = .error (.decoding error) →
    error.kind = "MalformedInput" →
      error.inputLength = input.length ∧ error.signature? = none ∧
        error.selector = Hex.marked input
  /-- Exactly selectors that are not registered make calls of the unknown family. -/
  unknown : (∃ call, registry.decode input destination = .ok call ∧ call.family = .unknown) ↔
    destination.isSome ∧ 4 ≤ input.length ∧ registry.lookup? (input.take 4) = none
  /-- A mismatch is one with the function that the selector reaches. -/
  mismatch_tells : ∀ error, registry.decode input destination = .error (.decoding error) →
    error.kind = "AbiMismatch" →
      ∃ entry, 4 ≤ input.length ∧ registry.lookup? (input.take 4) = some entry ∧
        error.signature? = some entry.signature ∧ error.selector = Hex.marked (input.take 4) ∧
        error.inputLength = input.length
  /-- A call of a registered function is named and filed like the function. -/
  registered : ∀ entry call, destination.isSome → 4 ≤ input.length →
    registry.lookup? (input.take 4) = some entry → registry.decode input destination = .ok call →
      call.functionName = entry.name ∧ call.family = entry.family ∧
        call.selector = Hex.marked (input.take 4) ∧ call.input = input

variable {interfaces : List Interface} {registry : Registry}

/-- A function that can be reached has no reserved family. -/
theorem not_reserved_of_lookup? (h : build interfaces = .ok registry) {selector : Bytes}
    {entry : Entry} (hentry : registry.lookup? selector = some entry) :
    entry.family ≠ .contractCreation ∧ entry.family ≠ .unknown := by
  have hmem := ((lookup?_eq_some_iff h).1 hentry).1
  have hfamily := (wellFormed_of_mem_entries h entry hmem).not_reserved
  constructor <;> (intro heq; rw [heq] at hfamily; cases hfamily)

/-- The decoding error of a registered function tells what was tried on the whole input. -/
theorem decode_registered_eq_error (h : build interfaces = .ok registry) {input : Bytes}
    {entry : Entry} {error : DecodingError} {call : OrderedMap String Value → Call}
    (hlength : 4 ≤ input.length) (hentry : registry.lookup? (input.take 4) = some entry)
    (herror : (do let parameters ← entry.decode (input.drop 4); .ok (call parameters)) =
      (.error (.decoding error) : Except Fault Call)) :
    error = .mismatch entry.signature entry.interface (input.take 4) input.length := by
  rcases bind_eq_error.1 herror with herror | ⟨parameters, -, herror⟩
  · have hselector := ((lookup?_eq_some_iff h).1 hentry).2
    have hcount : (input.drop 4).length + 4 = input.length := by
      rw [List.length_drop]
      omega
    rw [Entry.decode_eq_error herror, hselector, hcount]
  · cases herror

theorem family_of_decode_eq_ok (h : build interfaces = .ok registry) {input : Bytes}
    {destination : String} {call : Call}
    (hcall : registry.decode input (some destination) = .ok call) :
    call.family ≠ .contractCreation ∧
      (call.family = .unknown ↔ 4 ≤ input.length ∧ registry.lookup? (input.take 4) = none) := by
  rcases decode_cases registry input destination with
    ⟨rfl, heq⟩ | ⟨-, hshort, heq⟩ | ⟨hlength, hnone, heq⟩ | ⟨entry, hlength, hentry, heq⟩
  · cases heq.symm.trans hcall
    simp
  · cases heq.symm.trans hcall
  · cases heq.symm.trans hcall
    simp [hlength, hnone]
  · obtain ⟨parameters, -, hok⟩ := bind_eq_ok.1 (heq.symm.trans hcall)
    cases hok
    simp [hentry, not_reserved_of_lookup? h hentry]

theorem decode_eq_malformed_iff (h : build interfaces = .ok registry) {input : Bytes}
    {destination : String} {error : DecodingError} :
    registry.decode input (some destination) = .error (.decoding error) ∧
        error.kind = "MalformedInput" ↔
      1 ≤ input.length ∧ input.length ≤ 3 ∧ error = .malformed input := by
  rcases decode_cases registry input destination with
    ⟨rfl, heq⟩ | ⟨hpos, hshort, heq⟩ | ⟨hlength, -, heq⟩ | ⟨entry, hlength, hentry, heq⟩
  · simp [heq]
  · simp only [heq, Except.error.injEq, Fault.decoding.injEq, hpos, hshort, true_and]
    constructor
    · rintro ⟨rfl, -⟩
      rfl
    · rintro rfl
      exact ⟨rfl, rfl⟩
  · simp only [heq, reduceCtorEq, false_and, false_iff]
    omega
  · constructor
    · rintro ⟨herror, hkind⟩
      rw [decode_registered_eq_error h hlength hentry (heq.symm.trans herror)] at hkind
      simp [DecodingError.kind] at hkind
    · omega

theorem decode_eq_mismatch (h : build interfaces = .ok registry) {input : Bytes}
    {destination : String} {error : DecodingError}
    (herror : registry.decode input (some destination) = .error (.decoding error))
    (hkind : error.kind = "AbiMismatch") :
    ∃ entry, 4 ≤ input.length ∧ registry.lookup? (input.take 4) = some entry ∧
      error = .mismatch entry.signature entry.interface (input.take 4) input.length := by
  rcases decode_cases registry input destination with
    ⟨rfl, heq⟩ | ⟨-, -, heq⟩ | ⟨-, -, heq⟩ | ⟨entry, hlength, hentry, heq⟩
  · cases heq.symm.trans herror
  · cases heq.symm.trans herror
    simp [DecodingError.kind] at hkind
  · cases heq.symm.trans herror
  · exact ⟨entry, hlength, hentry,
      decode_registered_eq_error h hlength hentry (heq.symm.trans herror)⟩

theorem decode_unregistered {input : Bytes} {destination : String} (hlength : 4 ≤ input.length)
    (hnone : registry.lookup? (input.take 4) = none) :
    registry.decode input (some destination) =
      .ok ⟨"unknown", .unknown, Hex.marked (input.take 4), .empty, input⟩ := by
  rcases decode_cases registry input destination with
    ⟨rfl, -⟩ | ⟨-, hshort, -⟩ | ⟨-, -, heq⟩ | ⟨entry, -, hentry, -⟩
  · simp at hlength
  · omega
  · exact heq
  · rw [hnone] at hentry
    cases hentry

/-- An input whose selector is registered is left to the function. -/
theorem decode_registered {input : Bytes} {destination : String} {entry : Entry}
    (hlength : 4 ≤ input.length) (hentry : registry.lookup? (input.take 4) = some entry) :
    registry.decode input (some destination) = (do
      let parameters ← entry.decode (input.drop 4)
      .ok ⟨entry.name, entry.family, Hex.marked (input.take 4), parameters, input⟩) := by
  rcases decode_cases registry input destination with
    ⟨rfl, -⟩ | ⟨-, hshort, -⟩ | ⟨-, hnone, -⟩ | ⟨other, -, hother, heq⟩
  · simp at hlength
  · omega
  · rw [hnone] at hentry
    cases hentry
  · rw [hother] at hentry
    cases hentry
    exact heq

theorem decode_registered_eq_ok {input : Bytes} {destination : String} {entry : Entry} {call : Call}
    (hlength : 4 ≤ input.length) (hentry : registry.lookup? (input.take 4) = some entry)
    (hcall : registry.decode input (some destination) = .ok call) :
    ∃ parameters, entry.decode (input.drop 4) = .ok parameters ∧
      call = ⟨entry.name, entry.family, Hex.marked (input.take 4), parameters, input⟩ := by
  rw [decode_registered hlength hentry] at hcall
  obtain ⟨parameters, hparameters, hok⟩ := bind_eq_ok.1 hcall
  cases hok
  exact ⟨parameters, hparameters, rfl⟩

/-- The answers of a registry that was built from interfaces follow the order of destination,
length and selector. -/
theorem classifies_of_build (h : build interfaces = .ok registry) (input : Bytes)
    (destination : Option String) : registry.Classifies input destination := by
  cases destination with
  | none =>
    exact
      { creation := fun _ => rfl
        creation_only := fun _ _ _ => rfl
        malformed := by simp [decode]
        malformed_tells := fun _ herror => by cases herror
        unknown := by simp [decode]
        mismatch_tells := fun _ herror => by cases herror
        registered := fun _ _ hsome => by cases hsome }
  | some destination =>
    refine
      { creation := nofun
        creation_only := fun call hcall hfamily =>
          absurd hfamily (family_of_decode_eq_ok h hcall).1
        malformed := ?_
        malformed_tells := fun error herror hkind => ?_
        unknown := ?_
        mismatch_tells := fun error herror hkind => ?_
        registered := fun entry call _ hlength hentry hcall => ?_ }
    · simp [decode_eq_malformed_iff h]
    · obtain ⟨-, -, rfl⟩ := (decode_eq_malformed_iff h).1 ⟨herror, hkind⟩
      exact ⟨rfl, rfl, rfl⟩
    · constructor
      · rintro ⟨call, hcall, hfamily⟩
        exact ⟨rfl, (family_of_decode_eq_ok h hcall).2.1 hfamily⟩
      · rintro ⟨-, hlength, hnone⟩
        exact ⟨_, decode_unregistered hlength hnone, rfl⟩
    · obtain ⟨entry, hlength, hentry, rfl⟩ := decode_eq_mismatch h herror hkind
      exact ⟨entry, hlength, hentry, rfl, rfl, rfl⟩
    · obtain ⟨parameters, -, rfl⟩ := decode_registered_eq_ok hlength hentry hcall
      exact ⟨rfl, rfl, rfl, rfl⟩

/-- An empty destination is a destination: three bytes of a known selector are malformed there. -/
theorem classifies_known_short : build Known.interfaces = .ok known ∧
    known.Classifies [0xa9, 0x05, 0x9c] (some "") :=
  ⟨build_known, classifies_of_build build_known [0xa9, 0x05, 0x9c] (some "")⟩

end Registry

end Chronicle
