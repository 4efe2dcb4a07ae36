/-
# Bytes behind the arguments

Offsets and lengths are tested against the end of the data and followed through
frames, which may overlap and come in any order. When more bytes follow the data,
every word and every byte string that was read is still read, and every offset
that was inside of the data still is. So whatever was decoded is decoded again,
and the call of a longer input is the same but for the input that it holds.

Key definition: `Lasts`.
Key theorems: `AbiType.lasts_decodeAt`, `lasts_decodeArguments`, `Registry.decode_append`.
-/
import Chronicle.Proofs.ArgumentForms

namespace Chronicle

/-- What the first outcome gives, if it gives a value, the second gives as well. -/
def Lasts {ε α : Type} (x y : Except ε α) : Prop := ∀ a, x = .ok a → y = .ok a

namespace Lasts

section

variable {ε α β : Type}

theorem refl (x : Except ε α) : Lasts x x := fun _ h => h

theorem bind {x y : Except ε α} {f g : α → Except ε β} (hx : Lasts x y)
    (hf : ∀ a, Lasts (f a) (g a)) : Lasts (x >>= f) (y >>= g) := by
  intro b h
  obtain ⟨a, ha, hb⟩ := bind_eq_ok.1 h
  rw [bind_of_ok (hx a ha)]
  exact hf a b hb

theorem map {x y : Except ε α} (hx : Lasts x y) (f : α → β) : Lasts (x.map f) (y.map f) := by
  intro b h
  cases hxa : x with
  | error e =>
    rw [hxa] at h
    cases h
  | ok a =>
    rw [hxa] at h
    rw [hx a hxa]
    exact h

theorem ite {c : Prop} [Decidable c] {x y x' y' : Except ε α} (hx : Lasts x x')
    (hy : Lasts y y') : Lasts (if c then x else y) (if c then x' else y') := by
  split
  · exact hx
  · exact hy

end

/-! ### Words, byte strings and offsets -/

variable {data suffix : Bytes}

theorem bytesAt (position count : Nat) :
    Lasts (bytesAt data position count) (bytesAt (data ++ suffix) position count) := by
  intro bs h
  obtain ⟨rfl, hlength⟩ := bytesAt_eq_ok_iff.1 h
  have hcount : count ≤ (data.drop position).length := by
    rw [List.length_take] at hlength
    omega
  have hsame : ((data ++ suffix).drop position).take count = (data.drop position).take count := by
    rw [List.drop_append, List.take_append_of_le_length hcount]
  exact bytesAt_eq_ok_iff.2 ⟨hsame.symm, hlength⟩

theorem wordAt (position : Nat) :
    Lasts (wordAt data position) (wordAt (data ++ suffix) position) :=
  (bytesAt position 32).bind fun _ => .refl _

/-- A condition that becomes no harder goes on to hold. -/
theorem require {p q : Bool} (h : p = true → q = true) : Lasts (require p) (require q) := by
  intro _ hp
  cases p with
  | false => cases hp
  | true => simpa [h rfl] using hp

theorem paddedBytesAt (position : Nat) :
    Lasts (paddedBytesAt data position) (paddedBytesAt (data ++ suffix) position) :=
  (wordAt position).bind fun _ => (refl _).bind fun _ => (bytesAt _ _).bind fun _ => .refl _

/-- An offset that is inside of the data is inside of the longer data. -/
theorem checkOffset (start stop position : Nat) :
    Lasts (checkOffset data start stop position) (checkOffset (data ++ suffix) start stop position) := by
  refine (wordAt position).bind fun offset => require fun h => ?_
  simp only [Bool.and_eq_true, decide_eq_true_eq, List.length_append] at h ⊢
  omega

theorem checkOffsets (start stop : Nat) : ∀ count position : Nat,
    Lasts (checkOffsets data start stop count position)
      (checkOffsets (data ++ suffix) start stop count position)
  | 0, _ => .refl _
  | count + 1, position =>
    (checkOffset start stop position).bind fun _ => checkOffsets start stop count (position + 32)

/-! ### Lists -/

section

variable {read read' : Nat → Except Flaw Value} (hread : ∀ position, Lasts (read position) (read' position))
include hread

theorem readEach (stride : Nat) : ∀ count position : Nat,
    Lasts (readEach read stride count position) (readEach read' stride count position)
  | 0, _ => .refl _
  | count + 1, position =>
    (hread position).bind fun _ =>
      (readEach stride count (position + stride)).bind fun _ => .refl _

theorem readComponent (start : Nat) (dynamic : Bool) (position : Nat) :
    Lasts (readComponent data start dynamic read position)
      (readComponent (data ++ suffix) start dynamic read' position) :=
  ite ((wordAt position).bind fun offset => hread (start + offset)) (hread position)

theorem readItems (item : AbiType) (length start : Nat) :
    Lasts (readItems data item read length start)
      (readItems (data ++ suffix) item read' length start) :=
  (ite (checkOffsets _ _ _ _) (refl _)).bind fun _ =>
    (readEach (readComponent hread start item.isDynamic) _ _ _).bind fun _ => .refl _

end

end Lasts

/-! ### All types -/

namespace AbiType

variable {data suffix : Bytes}

mutual

/-- What is read at a position is read there when more bytes follow. -/
theorem lasts_decodeAt : ∀ (t : AbiType) (position : Nat),
    Lasts (decodeAt data t position) (decodeAt (data ++ suffix) t position)
  | .uint _, position => (Lasts.wordAt position).bind fun _ => .refl _
  | .int _, position => (Lasts.wordAt position).bind fun _ => .refl _
  | .ufixed _ _, position => (Lasts.wordAt position).bind fun _ => .refl _
  | .fixed _ _, position => (Lasts.wordAt position).bind fun _ => .refl _
  | .address, position => (Lasts.wordAt position).bind fun _ => .refl _
  | .bool, position => (Lasts.wordAt position).bind fun _ => .refl _
  | .fixedBytes _, position => (Lasts.bytesAt position 32).bind fun _ => .refl _
  | .bytes, position => (Lasts.paddedBytesAt position).bind fun _ => .refl _
  | .string, position => (Lasts.paddedBytesAt position).bind fun _ => .refl _
  | .array item length, position => Lasts.readItems (lasts_decodeAt item) item length position
  | .sequence item, position =>
    (Lasts.wordAt position).bind fun length =>
      Lasts.readItems (lasts_decodeAt item) item length (position + 32)
  | .tuple items, position =>
    (lasts_checkHead items position).bind fun _ =>
      (lasts_decodeMembers items position).bind fun _ => .refl _

/-- A head that passes the test passes it when more bytes follow. -/
theorem lasts_checkHead : ∀ (ts : List AbiType) {start stop : Nat} (position : Nat),
    Lasts (checkHead data start stop ts position) (checkHead (data ++ suffix) start stop ts position)
  | [], _, _, _ => .refl _
  | t :: ts, start, stop, position =>
    (Lasts.ite (Lasts.checkOffset start stop position) ((lasts_decodeAt t position).map _)).bind
      fun _ => lasts_checkHead ts (position + 32 * t.words)

theorem lasts_decodeMembers : ∀ (ts : List AbiType) {start : Nat} (position : Nat),
    Lasts (decodeMembers data start ts position) (decodeMembers (data ++ suffix) start ts position)
  | [], _, _ => .refl _
  | t :: ts, start, position =>
    (Lasts.readComponent (lasts_decodeAt t) start t.isDynamic position).bind fun _ =>
      (lasts_decodeMembers ts (position + 32 * t.words)).bind fun _ => .refl _

end

end AbiType

theorem lasts_decodeArguments (types : List AbiType) (data suffix : Bytes) :
    Lasts (decodeArguments types data) (decodeArguments types (data ++ suffix)) :=
  (AbiType.lasts_checkHead types 0).bind fun _ => AbiType.lasts_decodeMembers types 0

/-! ### Functions and calls -/

namespace Entry

/-- A function that accepts calldata makes the same of it when more bytes follow. -/
theorem lasts_decode (entry : Entry) (data suffix : Bytes) :
    Lasts (entry.decode data) (entry.decode (data ++ suffix)) := by
  unfold decode
  refine Lasts.ite (.refl _) ((Lasts.refl _).bind fun types => ?_)
  intro parameters h
  -- Failures are told with the length of the data, so that only what is decoded can be compared.
  split at h
  · cases h
  · cases h
  · next vs hdecode =>
    rw [lasts_decodeArguments types data suffix vs hdecode]
    exact h

end Entry

namespace Registry

/-- Bytes behind the data change neither the parameters that any function decodes from it nor,
apart from the input that it holds, the call of an input that has a selector. -/
theorem decode_append (registry : Registry) (destination : Option String) (suffix : Bytes) :
    (∀ (entry : Entry) (data : Bytes) (parameters : OrderedMap String Value),
      entry.decode data = .ok parameters → entry.decode (data ++ suffix) = .ok parameters) ∧
    ∀ (input : Bytes) (call : Call), 4 ≤ input.length → registry.decode input destination = .ok call →
      registry.decode (input ++ suffix) destination = .ok { call with input := input ++ suffix } := by
  refine ⟨fun entry data => entry.lasts_decode data suffix, fun input call hlength h => ?_⟩
  have hlength' : 4 ≤ (input ++ suffix).length := by
    rw [List.length_append]
    omega
  have htake : (input ++ suffix).take 4 = input.take 4 := List.take_append_of_le_length hlength
  have hdrop : (input ++ suffix).drop 4 = input.drop 4 ++ suffix :=
    List.drop_append_of_le_length hlength
  cases destination with
  | none =>
    cases h
    rfl
  | some destination =>
    cases hlookup : registry.lookup? (input.take 4) with
    | none =>
      rw [decode_unregistered hlength hlookup] at h
      rw [← htake] at hlookup
      rw [decode_unregistered hlength' hlookup, htake]
      cases h
      rfl
    | some entry =>
      rw [decode_registered hlength hlookup] at h
      rw [← htake] at hlookup
      obtain ⟨parameters, hparameters, hcall⟩ := bind_eq_ok.1 h
      cases hcall
      have hagain := entry.lasts_decode _ suffix parameters hparameters
      rw [decode_registered hlength' hlookup, hdrop, bind_of_ok hagain, htake]

end Registry

/-- Overlapping data with a tag behind it is decoded like the data alone. -/
theorem Registry.decode_append_tagged :
    ∃ parameters call, Desk.settle.decode Desk.overlapping = .ok parameters ∧
      parameters.entries = [("orders", .list [Desk.item, Desk.item]), ("fee", .text "-5")] ∧
      Desk.settle.decode (Desk.overlapping ++ [0xca, 0xfe]) = .ok parameters ∧
      4 ≤ (Desk.settle.selector ++ Desk.overlapping).length ∧
      Desk.registry.decode (Desk.settle.selector ++ Desk.overlapping) (some "") = .ok call ∧
      call.parameters = parameters ∧
      Desk.registry.decode (Desk.settle.selector ++ Desk.overlapping ++ [0xca, 0xfe]) (some "") =
        .ok { call with input := Desk.settle.selector ++ Desk.overlapping ++ [0xca, 0xfe] } := by
  have hdecode := Desk.decode_overlapping
  have hmem : Desk.settle ∈ Desk.registry.entries := List.mem_singleton.2 rfl
  have hselector := (wellFormed_of_mem_entries Desk.build_interface Desk.settle hmem).selector_length
  have hlength : 4 ≤ (Desk.settle.selector ++ Desk.overlapping).length := by
    rw [List.length_append, hselector]
    exact Nat.le_add_right 4 _
  have htake : (Desk.settle.selector ++ Desk.overlapping).take 4 = Desk.settle.selector :=
    List.take_left' hselector
  have hdrop : (Desk.settle.selector ++ Desk.overlapping).drop 4 = Desk.overlapping :=
    List.drop_left' hselector
  have hlookup : Desk.registry.lookup? ((Desk.settle.selector ++ Desk.overlapping).take 4) =
      some Desk.settle :=
    (lookup?_eq_some_iff Desk.build_interface).2 ⟨hmem, htake.symm⟩
  have hcall : Desk.registry.decode (Desk.settle.selector ++ Desk.overlapping) (some "") = _ :=
    decode_registered hlength hlookup
  rw [hdrop, bind_of_ok hdecode] at hcall
  obtain ⟨hparameters, hcalls⟩ := decode_append Desk.registry (some "") [0xca, 0xfe]
  exact ⟨_, _, hdecode, rfl, hparameters _ _ _ hdecode, hlength, hcall, rfl,
    hcalls _ _ hlength hcall⟩

end Chronicle
