/- # What decoding gives

Whatever data is decoded, the values that come out belong to their types. The
only flaw besides a broken layout is text that is no UTF-8, and it is found only
where a type has strings.

Key definitions: `AbiType.hasText`, `AbiType.isPlain`.
Key theorems: `AbiType.admits_of_decodeAt`, `admits_of_decodeArguments`,
`decodeArguments_ne_unicode`.
-/
import Chronicle.Abi.Decode
import Chronicle.Abi.Encode
import Chronicle.Proofs.ArgumentTypes

namespace Chronicle

/-! ### Single words -/

section

variable {data : Bytes} {position : Nat}

theorem bytesAt_eq_ok_iff {count : Nat} {bs : Bytes} :
    bytesAt data position count = .ok bs ↔
      bs = (data.drop position).take count ∧ bs.length = count := by
  unfold bytesAt
  by_cases h : ((data.drop position).take count).length = count
  · rw [if_pos h, Except.ok.injEq]
    constructor
    · rintro rfl
      exact ⟨rfl, h⟩
    · rintro ⟨rfl, -⟩
      rfl
  · rw [if_neg h]
    constructor
    · intro hbad
      cases hbad
    · rintro ⟨rfl, hlength⟩
      exact absurd hlength h

theorem length_of_bytesAt {count : Nat} {bs : Bytes} (h : bytesAt data position count = .ok bs) :
    bs.length = count := (bytesAt_eq_ok_iff.1 h).2

theorem lt_of_require {m n : Nat} (h : require (m < n) = .ok ()) : m < n := by
  unfold require at h
  split at h
  · next hcondition => exact of_decide_eq_true hcondition
  · cases h

/-- A signed number lies in the range of its size. -/
theorem range_of_signedOf {bits word : Nat} (hpos : 0 < bits) {n : Int}
    (h : signedOf bits word = .ok n) :
    -(capacity (bits - 1) : Int) ≤ n ∧ n < capacity (bits - 1) := by
  have hdouble := capacity_eq_double hpos
  have hlow : word % capacity bits < capacity bits := Nat.mod_lt _ (Nat.pow_pos Nat.two_pos)
  dsimp only [signedOf] at h
  split at h
  · split at h
    · cases h
      omega
    · cases h
  · split at h
    · cases h
      omega
    · cases h

theorem length_of_readEach {read : Nat → Except Flaw Value} {stride : Nat} :
    ∀ {count position : Nat} {vs : List Value}, readEach read stride count position = .ok vs →
      vs.length = count
  | 0, _, _, h => by cases h; rfl
  | count + 1, position, _, h => by
    simp only [readEach, bind_eq_ok, Except.ok.injEq] at h
    obtain ⟨v, -, vs, hvs, rfl⟩ := h
    rw [List.length_cons, length_of_readEach hvs]

/-- What holds of every value that is read at some position holds of all values of a list. -/
theorem forall_of_readEach {read : Nat → Except Flaw Value} {stride : Nat} {Q : Value → Prop}
    (hread : ∀ {position v}, read position = .ok v → Q v) :
    ∀ {count position : Nat} {vs : List Value}, readEach read stride count position = .ok vs →
      ∀ v ∈ vs, Q v
  | 0, _, _, h => by cases h; simp
  | count + 1, position, _, h => by
    simp only [readEach, bind_eq_ok, Except.ok.injEq] at h
    obtain ⟨v, hv, vs, hvs, rfl⟩ := h
    intro w hw
    rcases List.mem_cons.1 hw with rfl | hw
    · exact hread hv
    · exact forall_of_readEach hread hvs w hw

/-- A component is what is read at some position. -/
theorem exists_of_readComponent {start : Nat} {dynamic : Bool} {read : Nat → Except Flaw Value}
    {v : Value} (h : readComponent data start dynamic read position = .ok v) :
    ∃ p, read p = .ok v := by
  unfold readComponent at h
  split at h
  · obtain ⟨offset, -, hread⟩ := bind_eq_ok.1 h
    exact ⟨_, hread⟩
  · exact ⟨position, h⟩

/-- The items of a list are as many as called for, and each of them is read at some position. -/
theorem items_of_readItems {item : AbiType} {read : Nat → Except Flaw Value} {length start : Nat}
    {v : Value} (h : readItems data item read length start = .ok v) :
    ∃ vs, v = .list vs ∧ vs.length = length ∧ ∀ w ∈ vs, ∃ p, read p = .ok w := by
  simp only [readItems, bind_eq_ok, Except.ok.injEq] at h
  obtain ⟨-, -, vs, hvs, rfl⟩ := h
  exact ⟨vs, rfl, length_of_readEach hvs, forall_of_readEach exists_of_readComponent hvs⟩

end

namespace AbiType

/-! ### Values belong to their types -/

mutual

/-- Whatever is decoded belongs to its type. -/
theorem admits_of_decodeAt {data : Bytes} : ∀ {t : AbiType}, t.Supported →
    ∀ {position : Nat} {v : Value}, decodeAt data t position = .ok v → t.admits v = true
  | .uint bits, _, position, v, h => by
    simp only [decodeAt, bind_eq_ok, Except.ok.injEq] at h
    obtain ⟨word, -, _, hword, rfl⟩ := h
    have hlt : (word : Int) < capacity bits := Int.ofNat_lt.2 (lt_of_require hword)
    exact Bool.and_eq_true_iff.2 ⟨decide_eq_true (Int.natCast_nonneg word), decide_eq_true hlt⟩
  | .int bits, hsupported, position, v, h => by
    simp only [decodeAt, bind_eq_ok, Except.ok.injEq] at h
    obtain ⟨word, -, n, hn, rfl⟩ := h
    obtain ⟨hlow, hhigh⟩ := range_of_signedOf (ArgType.isIntegerSize_pos hsupported) hn
    exact Bool.and_eq_true_iff.2 ⟨decide_eq_true hlow, decide_eq_true hhigh⟩
  | .address, _, position, v, h => by
    simp only [decodeAt, bind_eq_ok, Except.ok.injEq] at h
    obtain ⟨word, -, -, -, rfl⟩ := h
    refine Bool.and_eq_true_iff.2 ⟨decide_eq_true ?_, decide_eq_true ?_⟩
    · rw [addressBytes_marked, length_toBigEndian]
    · rw [addressBytes_marked]
  | .bool, _, position, v, h => by
    simp only [decodeAt, bind_eq_ok, Except.ok.injEq] at h
    obtain ⟨word, -, -, -, rfl⟩ := h
    rfl
  | .fixedBytes size, hsupported, position, v, h => by
    simp only [decodeAt, bind_eq_ok, Except.ok.injEq] at h
    obtain ⟨bs, hbs, -, -, rfl⟩ := h
    have hlength := length_of_bytesAt hbs
    refine decide_eq_true ?_
    rw [List.length_take, hlength]
    exact Nat.min_eq_left hsupported.2
  | .bytes, _, position, v, h => by
    simp only [decodeAt, bind_eq_ok, Except.ok.injEq] at h
    obtain ⟨bs, -, rfl⟩ := h
    rfl
  | .string, _, position, v, h => by
    simp only [decodeAt, bind_eq_ok] at h
    obtain ⟨bs, -, h⟩ := h
    split at h
    · cases h
      rfl
    · cases h
  | .array item length, hsupported, position, v, h => by
    rw [decodeAt] at h
    obtain ⟨vs, rfl, hlength, hvs⟩ := items_of_readItems h
    refine Bool.and_eq_true_iff.2 ⟨decide_eq_true hlength, List.all_eq_true.2 fun w hw => ?_⟩
    obtain ⟨p, hp⟩ := hvs w hw
    exact admits_of_decodeAt hsupported.2 hp
  | .sequence item, hsupported, position, v, h => by
    have hitem : item.Supported := hsupported
    rw [decodeAt] at h
    obtain ⟨length, -, h⟩ := bind_eq_ok.1 h
    obtain ⟨vs, rfl, -, hvs⟩ := items_of_readItems h
    refine List.all_eq_true.2 fun w hw => ?_
    obtain ⟨p, hp⟩ := hvs w hw
    exact admits_of_decodeAt hitem hp
  | .tuple items, hsupported, position, v, h => by
    simp only [decodeAt, bind_eq_ok, Except.ok.injEq] at h
    obtain ⟨-, -, vs, hvs, rfl⟩ := h
    exact allAdmit_of_decodeMembers hsupported.2 hvs

theorem allAdmit_of_decodeMembers {data : Bytes} : ∀ {ts : List AbiType}, AllSupported ts →
    ∀ {start position : Nat} {vs : List Value}, decodeMembers data start ts position = .ok vs →
      allAdmit ts vs = true
  | [], _, _, _, _, h => by cases h; rfl
  | t :: ts, hsupported, start, position, _, h => by
    simp only [decodeMembers, bind_eq_ok, Except.ok.injEq] at h
    obtain ⟨v, hv, vs, hvs, rfl⟩ := h
    obtain ⟨p, hp⟩ := exists_of_readComponent hv
    exact Bool.and_eq_true_iff.2
      ⟨admits_of_decodeAt hsupported.1 hp, allAdmit_of_decodeMembers hsupported.2 hvs⟩

end

end AbiType

/-- Arguments that are decoded belong to their types. -/
theorem admits_of_decodeArguments {types : List AbiType} (h : AbiType.AllSupported types)
    {data : Bytes} {vs : List Value} (hdecode : decodeArguments types data = .ok vs) :
    AbiType.allAdmit types vs = true := by
  obtain ⟨-, -, hvs⟩ := bind_eq_ok.1 hdecode
  exact AbiType.allAdmit_of_decodeMembers h hvs

/-! ### Flaws of text -/

/-- The outcome is no flaw of text. -/
def SparesText {α : Type} (x : Except Flaw α) : Prop := x ≠ .error .unicode

namespace SparesText

variable {α β : Type}

theorem ok (a : α) : SparesText (.ok a) := nofun

theorem layout : SparesText (.error .layout : Except Flaw α) := nofun

theorem bind {x : Except Flaw α} {f : α → Except Flaw β} (hx : SparesText x)
    (hf : ∀ a, SparesText (f a)) : SparesText (x >>= f) := by
  intro h
  rcases bind_eq_error.1 h with h | ⟨a, -, h⟩
  · exact hx h
  · exact hf a h

theorem ite {condition : Prop} [Decidable condition] {x y : Except Flaw α} (hx : SparesText x)
    (hy : SparesText y) : SparesText (if condition then x else y) := by
  split
  · exact hx
  · exact hy

variable {data : Bytes} {position : Nat}

theorem bytesAt (data : Bytes) (position count : Nat) : SparesText (bytesAt data position count) :=
  .ite (.ok _) .layout

theorem wordAt (data : Bytes) (position : Nat) : SparesText (wordAt data position) :=
  (bytesAt data position 32).bind fun _ => .ok _

theorem require (condition : Bool) : SparesText (require condition) := .ite (.ok _) .layout

theorem signedOf (bits word : Nat) : SparesText (signedOf bits word) :=
  .ite (.ite (.ok _) .layout) (.ite (.ok _) .layout)

theorem paddedBytesAt (data : Bytes) (position : Nat) : SparesText (paddedBytesAt data position) :=
  (wordAt data position).bind fun _ => (require _).bind fun _ =>
    (bytesAt data _ _).bind fun _ => (require _).bind fun _ => .ok _

theorem checkOffset (data : Bytes) (start stop position : Nat) :
    SparesText (checkOffset data start stop position) :=
  (wordAt data position).bind fun _ => require _

theorem checkOffsets (data : Bytes) (start stop : Nat) : ∀ count position : Nat,
    SparesText (checkOffsets data start stop count position)
  | 0, _ => .ok _
  | count + 1, position =>
    (checkOffset data start stop position).bind fun _ => checkOffsets data start stop count _

theorem readEach {read : Nat → Except Flaw Value} (hread : ∀ p, SparesText (read p))
    (stride : Nat) : ∀ count position : Nat, SparesText (readEach read stride count position)
  | 0, _ => .ok _
  | count + 1, position =>
    (hread position).bind fun _ => (readEach hread stride count _).bind fun _ => .ok _

theorem readComponent {read : Nat → Except Flaw Value} (hread : ∀ p, SparesText (read p))
    (data : Bytes) (start : Nat) (dynamic : Bool) (position : Nat) :
    SparesText (readComponent data start dynamic read position) :=
  .ite ((wordAt data position).bind fun _ => hread _) (hread position)

theorem readItems {read : Nat → Except Flaw Value} (hread : ∀ p, SparesText (read p))
    (data : Bytes) (item : AbiType) (length start : Nat) :
    SparesText (readItems data item read length start) :=
  (ite (checkOffsets data _ _ _ _) (.ok _)).bind fun _ =>
    (readEach (readComponent hread data start item.isDynamic) _ _ _).bind fun _ => .ok _

end SparesText

namespace AbiType

mutual

/-- The type has strings in it. -/
def hasText : AbiType → Bool
  | .string => true
  | .array item _ => hasText item
  | .sequence item => hasText item
  | .tuple items => anyHasText items
  | _ => false

/-- One of the types has strings in it. -/
def anyHasText : List AbiType → Bool
  | [] => false
  | t :: ts => hasText t || anyHasText ts

end

mutual

theorem sparesText_decodeAt (data : Bytes) : ∀ {t : AbiType}, t.hasText = false →
    ∀ position : Nat, SparesText (decodeAt data t position)
  | .uint _, _, position =>
    (SparesText.wordAt data position).bind fun _ => (SparesText.require _).bind fun _ => .ok _
  | .int bits, _, position =>
    (SparesText.wordAt data position).bind fun _ => (SparesText.signedOf bits _).bind fun _ => .ok _
  | .ufixed _ _, _, position =>
    (SparesText.wordAt data position).bind fun _ => (SparesText.require _).bind fun _ => .ok _
  | .fixed bits _, _, position =>
    (SparesText.wordAt data position).bind fun _ => (SparesText.signedOf bits _).bind fun _ => .ok _
  | .address, _, position =>
    (SparesText.wordAt data position).bind fun _ => (SparesText.require _).bind fun _ => .ok _
  | .bool, _, position =>
    (SparesText.wordAt data position).bind fun _ => (SparesText.require _).bind fun _ => .ok _
  | .fixedBytes _, _, position =>
    (SparesText.bytesAt data position 32).bind fun _ => (SparesText.require _).bind fun _ => .ok _
  | .bytes, _, position => (SparesText.paddedBytesAt data position).bind fun _ => .ok _
  | .array item _, h, _ =>
    have hitem : item.hasText = false := h
    SparesText.readItems (sparesText_decodeAt data hitem) data item _ _
  | .sequence item, h, position =>
    have hitem : item.hasText = false := h
    (SparesText.wordAt data position).bind fun _ =>
      SparesText.readItems (sparesText_decodeAt data hitem) data item _ _
  | .tuple _, h, _ =>
    (sparesText_checkHead data h _).bind fun _ =>
      (sparesText_decodeMembers data h _).bind fun _ => .ok _

theorem sparesText_checkHead (data : Bytes) : ∀ {ts : List AbiType}, anyHasText ts = false →
    ∀ {start stop : Nat} (position : Nat), SparesText (checkHead data start stop ts position)
  | [], _, _, _, _ => .ok _
  | t :: ts, h, _, _, position => by
    obtain ⟨ht, hts⟩ := Bool.or_eq_false_iff.1 h
    have hstatic : SparesText ((decodeAt data t position).map fun _ => ()) := by
      have hdecode := sparesText_decodeAt data ht position
      cases hx : decodeAt data t position with
      | ok v => exact .ok _
      | error flaw =>
        rw [hx] at hdecode
        intro h
        exact hdecode (congrArg Except.error (Except.error.inj h))
    exact (SparesText.ite (SparesText.checkOffset data _ _ _) hstatic).bind fun _ =>
      sparesText_checkHead data hts _

theorem sparesText_decodeMembers (data : Bytes) : ∀ {ts : List AbiType}, anyHasText ts = false →
    ∀ {start : Nat} (position : Nat), SparesText (decodeMembers data start ts position)
  | [], _, _, _ => .ok _
  | t :: ts, h, start, position => by
    obtain ⟨ht, hts⟩ := Bool.or_eq_false_iff.1 h
    exact (SparesText.readComponent (sparesText_decodeAt data ht) data start _ position).bind
      fun _ => (sparesText_decodeMembers data hts _).bind fun _ => .ok _

end

mutual

/-- The type has no signed or fixed-point numbers and no strings in it. -/
def isPlain : AbiType → Bool
  | .int _ => false
  | .ufixed _ _ => false
  | .fixed _ _ => false
  | .string => false
  | .array item _ => isPlain item
  | .sequence item => isPlain item
  | .tuple items => areAllPlain items
  | _ => true

/-- None of the types has signed or fixed-point numbers or strings in it. -/
def areAllPlain : List AbiType → Bool
  | [] => true
  | t :: ts => isPlain t && areAllPlain ts

end

mutual

theorem hasText_of_isPlain : ∀ t : AbiType, t.isPlain = true → t.hasText = false
  | .uint _, _ => rfl
  | .address, _ => rfl
  | .bool, _ => rfl
  | .fixedBytes _, _ => rfl
  | .bytes, _ => rfl
  | .array item _, h => hasText_of_isPlain item h
  | .sequence item, h => hasText_of_isPlain item h
  | .tuple items, h => anyHasText_of_areAllPlain items h

theorem anyHasText_of_areAllPlain : ∀ ts : List AbiType, areAllPlain ts = true →
    anyHasText ts = false
  | [], _ => rfl
  | t :: ts, h => by
    obtain ⟨ht, hts⟩ := Bool.and_eq_true_iff.1 h
    exact Bool.or_eq_false_iff.2 ⟨hasText_of_isPlain t ht, anyHasText_of_areAllPlain ts hts⟩

end

end AbiType

/-- Data is never flawed by its text where no type has strings. -/
theorem decodeArguments_ne_unicode {types : List AbiType} (h : AbiType.anyHasText types = false)
    (data : Bytes) : decodeArguments types data ≠ .error .unicode :=
  SparesText.bind (AbiType.sparesText_checkHead data h 0) fun _ =>
    AbiType.sparesText_decodeMembers data h 0

end Chronicle
