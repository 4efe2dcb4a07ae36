/- # Calldata of static signatures

Static arguments stand in place, one word behind the other, however they are
nested in lists and tuples. So a function whose types are all static takes
exactly the calldata that has a clean word for each leaf of them, from left to
right, and what it holds is read from these words; all else is a mismatch. The
test of the head, which measures lists and tuples in its own way, decodes the same
words and refuses nothing more.

Key definitions: `ArgType.leaves`, `Value.leaves`, `HasCleanWords`.
Key theorems: `ArgType.readWords_leaves`, `ArgType.readWords_eq_ok_iff`, `Entry.decode_static`.
-/
import Chronicle.Proofs.BoundedArguments
import Chronicle.Proofs.CleanWords

namespace Chronicle

open AbiType (AllSupported anyDynamic decodeAt decodeMembers interchange interchangeOf)

/-! ### Leaves -/

namespace Value

mutual

/-- The values in a list of lists of any depth, from left to right. -/
def leaves : Value → List Value
  | .list items => leavesOf items
  | v => [v]

/-- The values in each of the lists. -/
def leavesOf : List Value → List Value
  | [] => []
  | v :: vs => leaves v ++ leavesOf vs

end

end Value

namespace ArgType

mutual

/-- The types of the leaves of the values of a static type, from left to right. -/
def leaves : ArgType → List ArgType
  | .array item length => (List.replicate length (leaves item)).flatten
  | .tuple items => leavesOf items
  | t => [t]

/-- The types of the leaves of each of the types. -/
def leavesOf : List ArgType → List ArgType
  | [] => []
  | t :: ts => leaves t ++ leavesOf ts

end

/-- A word of its own is read for each leaf. -/
def readWords (data : Bytes) : List ArgType → Nat → Except Flaw (List Value)
  | [], _ => .ok []
  | leaf :: rest, position => do
    let v ← leaf.readWord data position
    let vs ← readWords data rest (position + 32)
    .ok (v :: vs)

mutual

/-- A static type has as many leaves as its values have words. -/
theorem length_leaves : ∀ {t : ArgType}, t.abi.isDynamic = false → t.leaves.length = t.abi.words
  | .uint _, _ => rfl
  | .int _, _ => rfl
  | .address, _ => rfl
  | .bool, _ => rfl
  | .fixedBytes _, _ => rfl
  | .function, _ => rfl
  | .array item length, h => by
    have hitem : item.abi.isDynamic = false := h
    rw [leaves, abi, AbiType.words, hitem, List.length_flatten, List.map_replicate,
      length_leaves hitem]
    simp
  | .tuple items, h => by
    have hitems : anyDynamic (abiOf items) = false := h
    rw [leaves, abi, AbiType.words, hitems, length_leavesOf hitems]
    rfl

theorem length_leavesOf : ∀ {ts : List ArgType}, anyDynamic (abiOf ts) = false →
    (leavesOf ts).length = AbiType.wordsOf (abiOf ts)
  | [], _ => rfl
  | t :: ts, h => by
    obtain ⟨ht, hts⟩ := Bool.or_eq_false_iff.1 h
    rw [leavesOf, List.length_append, length_leaves ht, length_leavesOf hts]
    rfl

end

/-! ### Nested values, word by word -/

variable {data : Bytes}

theorem readWords_append : ∀ (front back : List ArgType) (position : Nat),
    readWords data (front ++ back) position = (do
      let vs ← readWords data front position
      let ws ← readWords data back (position + 32 * front.length)
      .ok (vs ++ ws))
  | [], back, position => by
    show readWords data back position = readWords data back position >>= fun ws => .ok ws
    cases readWords data back position <;> rfl
  | leaf :: front, back, position => by
    have hbehind : position + 32 + 32 * front.length = position + 32 * (front.length + 1) := by omega
    rw [List.cons_append, readWords, readWords, readWords_append front back, hbehind]
    cases leaf.readWord data position with
    | error flaw => rfl
    | ok v =>
      cases readWords data front (position + 32) with
      | error flaw => rfl
      | ok vs => cases readWords data back (position + 32 * (front.length + 1)) <;> rfl

/-- A value in front of others is read word by word if it is, and they are. -/
theorem map_cons_eq_readWords {x : Except Flaw Value} {y : Except Flaw (List Value)}
    {first : Value → List Value} {rest all : List Value → List Value} {front back : List ArgType}
    {position : Nat} (hx : x.map first = readWords data front position)
    (hy : y.map rest = readWords data back (position + 32 * front.length))
    (hall : ∀ v vs, all (v :: vs) = first v ++ rest vs) :
    (x >>= fun v => y >>= fun vs => .ok (v :: vs)).map all =
      readWords data (front ++ back) position := by
  rw [readWords_append, ← hx, ← hy]
  cases x with
  | error flaw => rfl
  | ok v =>
    cases y with
    | error flaw => rfl
    | ok vs => exact congrArg Except.ok (hall v vs)

theorem readEach_eq_readWords {read : Nat → Except Flaw Value} {form : Value → Value}
    {leaves : List ArgType}
    (hread : ∀ position,
      (read position).map (fun v => (form v).leaves) = readWords data leaves position) :
    ∀ count position : Nat,
      (readEach read (32 * leaves.length) count position).map
          (fun vs => Value.leavesOf (vs.map form)) =
        readWords data (List.replicate count leaves).flatten position
  | 0, _ => rfl
  | count + 1, position => by
    rw [List.replicate_succ, List.flatten_cons]
    exact map_cons_eq_readWords (hread position)
      (readEach_eq_readWords hread count (position + 32 * leaves.length)) fun _ _ => rfl

/-- A static component stands at its place in the head. -/
theorem readComponent_of_static {dynamic : Bool} (h : dynamic = false) (start : Nat)
    (read : Nat → Except Flaw Value) : readComponent data start dynamic read = read := by
  subst h
  rfl

theorem readItems_of_static {item : AbiType} (h : item.isDynamic = false)
    (read : Nat → Except Flaw Value) (length start : Nat) :
    readItems data item read length start =
      (readEach read (32 * item.words) length start).map .list := by
  rw [readItems, readComponent_of_static h, h]
  cases readEach read (32 * item.words) length start <;> rfl

/-- The test of the head decodes the components of a static tuple. -/
theorem checkHead_of_static {start stop : Nat} : ∀ {ts : List AbiType} {position : Nat},
    anyDynamic ts = false → AbiType.checkHead data start stop ts position =
      (decodeMembers data start ts position).map fun _ => ()
  | [], _, _ => rfl
  | t :: ts, position, h => by
    obtain ⟨ht, hts⟩ := Bool.or_eq_false_iff.1 h
    rw [AbiType.checkHead, decodeMembers, checkHead_of_static hts, readComponent_of_static ht, ht]
    cases decodeAt data t position with
    | error flaw => rfl
    | ok v => cases decodeMembers data start ts (position + 32 * t.words) <;> rfl

/-- What is read from one word is no list. -/
theorem leaves_reading {t : ArgType} (hword : t.isWord = true) (word : Bytes) :
    (t.reading word).leaves = [t.reading word] := by
  cases t with
  | bytes => cases hword
  | string => cases hword
  | array item length => cases hword
  | sequence item => cases hword
  | tuple items => cases hword
  | _ => rfl

theorem readWords_of_isWord {t : ArgType} (hword : t.isWord = true)
    (hsupported : t.abi.Supported) (position : Nat) :
    (decodeAt data t.abi position).map (fun v => (interchange t.abi v).leaves) =
      readWords data [t] position := by
  have hmap : (decodeAt data t.abi position).map (fun v => (interchange t.abi v).leaves) =
      ((decodeAt data t.abi position).map (interchange t.abi)).map Value.leaves := by
    cases decodeAt data t.abi position <;> rfl
  rw [hmap, map_decodeAt_of_isWord hword hsupported, readWords]
  cases hread : t.readWord data position with
  | error flaw => rfl
  | ok v =>
    obtain ⟨word, -, -, rfl⟩ := readWord_eq_ok_iff.1 hread
    exact congrArg Except.ok (leaves_reading hword word)

mutual

/-- The leaves of a static value are read word by word. -/
theorem readWords_leaves : ∀ {t : ArgType}, t.abi.Supported → t.abi.isDynamic = false →
    ∀ position : Nat, (decodeAt data t.abi position).map (fun v => (interchange t.abi v).leaves) =
      readWords data t.leaves position
  | .uint _, hsupported, _, position => readWords_of_isWord rfl hsupported position
  | .int _, hsupported, _, position => readWords_of_isWord rfl hsupported position
  | .address, hsupported, _, position => readWords_of_isWord rfl hsupported position
  | .bool, hsupported, _, position => readWords_of_isWord rfl hsupported position
  | .fixedBytes _, hsupported, _, position => readWords_of_isWord rfl hsupported position
  | .function, hsupported, _, position => readWords_of_isWord rfl hsupported position
  | .array item length, hsupported, hstatic, position => by
    have hitem : item.abi.isDynamic = false := hstatic
    have hitems := readEach_eq_readWords (readWords_leaves hsupported.2 hitem) length position
    rw [length_leaves hitem] at hitems
    rw [leaves, ← hitems, abi, decodeAt, readItems_of_static hitem]
    cases readEach (decodeAt data item.abi) (32 * item.abi.words) length position <;> rfl
  | .tuple items, hsupported, hstatic, position => by
    have hitems : anyDynamic (abiOf items) = false := hstatic
    rw [leaves, ← readWords_leavesOf hsupported.2 hitems position position, abi, decodeAt,
      checkHead_of_static hitems]
    cases decodeMembers data position (abiOf items) position <;> rfl

theorem readWords_leavesOf : ∀ {ts : List ArgType}, AllSupported (abiOf ts) →
    anyDynamic (abiOf ts) = false → ∀ start position : Nat,
      (decodeMembers data start (abiOf ts) position).map
          (fun vs => Value.leavesOf (interchangeOf (abiOf ts) vs)) =
        readWords data (leavesOf ts) position
  | [], _, _, _, _ => rfl
  | t :: ts, hsupported, hstatic, start, position => by
    obtain ⟨ht, hts⟩ := Bool.or_eq_false_iff.1 hstatic
    have hfirst := readWords_leaves hsupported.1 ht position
    have hrest := readWords_leavesOf hsupported.2 hts start (position + 32 * t.abi.words)
    rw [← length_leaves ht] at hrest
    rw [leavesOf, abiOf, decodeMembers, readComponent_of_static ht, ← length_leaves ht]
    exact map_cons_eq_readWords hfirst hrest fun _ _ => rfl

end

end ArgType

/-! ### Clean words -/

/-- The word of so many words before it. -/
def nthWord (data : Bytes) (index : Nat) : Bytes := (data.drop (32 * index)).take 32

/-- The data has a word for each of the leaves, and it is clean. -/
def HasCleanWords (data : Bytes) (leaves : List ArgType) : Prop :=
  32 * leaves.length ≤ data.length ∧
    ∀ (index : Nat) (h : index < leaves.length), leaves[index].IsClean (nthWord data index)

instance decidableHasCleanWords (data : Bytes) (leaves : List ArgType) :
    Decidable (HasCleanWords data leaves) :=
  inferInstanceAs (Decidable (_ ∧ _))

namespace ArgType

variable {data : Bytes}

theorem readWord_nth_eq_ok_iff {t : ArgType} {index : Nat} {v : Value} :
    t.readWord data (32 * index) = .ok v ↔
      (32 * (index + 1) ≤ data.length ∧ t.IsClean (nthWord data index)) ∧
        v = t.reading (nthWord data index) := by
  rw [readWord_eq_ok_iff]
  constructor
  · rintro ⟨word, hword, hclean, rfl⟩
    have hend := add_le_of_bytesAt (by decide) hword
    obtain ⟨rfl, -⟩ := bytesAt_eq_ok_iff.1 hword
    exact ⟨⟨by omega, hclean⟩, rfl⟩
  · rintro ⟨⟨hend, hclean⟩, rfl⟩
    have hlength : (nthWord data index).length = 32 := by
      rw [nthWord, List.length_take, List.length_drop]
      omega
    exact ⟨_, bytesAt_eq_ok_iff.2 ⟨rfl, hlength⟩, hclean, rfl⟩

/-- From a word on, words are read exactly where each of them is there and is clean. -/
theorem readWords_nth_eq_ok_iff : ∀ {leaves : List ArgType} {start : Nat} {vs : List Value},
    readWords data leaves (32 * start) = .ok vs ↔
      (∀ (index : Nat) (h : index < leaves.length), 32 * (start + index + 1) ≤ data.length ∧
        leaves[index].IsClean (nthWord data (start + index))) ∧
      vs = leaves.mapIdx fun index leaf => leaf.reading (nthWord data (start + index))
  | [], start, vs => by
    rw [readWords, Except.ok.injEq]
    constructor
    · rintro rfl
      exact ⟨fun index h => absurd h (Nat.not_lt_zero index), rfl⟩
    · rintro ⟨-, rfl⟩
      rfl
  | leaf :: rest, start, vs => by
    have hnext : 32 * start + 32 = 32 * (start + 1) := by omega
    have hindex : ∀ index : Nat, start + 1 + index = start + (index + 1) := fun index => by omega
    simp only [readWords, hnext, bind_eq_ok, readWord_nth_eq_ok_iff, readWords_nth_eq_ok_iff, hindex,
      Except.ok.injEq, List.length_cons, Nat.forall_lt_succ_left', List.mapIdx_cons]
    constructor
    · rintro ⟨_, ⟨hfirst, rfl⟩, _, ⟨hrest, rfl⟩, rfl⟩
      exact ⟨⟨hfirst, hrest⟩, rfl⟩
    · rintro ⟨⟨hfirst, hrest⟩, rfl⟩
      exact ⟨_, ⟨hfirst, rfl⟩, _, ⟨hrest, rfl⟩, rfl⟩

/-- Words for leaves are read exactly where they are clean. -/
theorem readWords_eq_ok_iff {leaves : List ArgType} {vs : List Value} :
    readWords data leaves 0 = .ok vs ↔ HasCleanWords data leaves ∧
      vs = leaves.mapIdx fun index leaf => leaf.reading (nthWord data index) := by
  have hwords : readWords data leaves (32 * 0) = .ok vs ↔ _ := readWords_nth_eq_ok_iff
  simp only [Nat.mul_zero, Nat.zero_add] at hwords
  rw [hwords]
  refine and_congr_left' ⟨fun h => ⟨?_, fun index hindex => (h index hindex).2⟩, fun h => ?_⟩
  · by_cases hempty : leaves.length = 0
    · omega
    · have hlast := (h (leaves.length - 1) (by omega)).1
      omega
  · intro index hindex
    have hlong := h.1
    exact ⟨by omega, h.2 index hindex⟩

/-- Words that are not read are missing or not clean, and there is no text in them. -/
theorem sparesText_readWords : ∀ (leaves : List ArgType) (position : Nat),
    SparesText (readWords data leaves position)
  | [], _ => .ok _
  | _ :: rest, position =>
    ((SparesText.bytesAt data position 32).bind fun _ => .ite (.ok _) .layout).bind fun _ =>
      (sparesText_readWords rest (position + 32)).bind fun _ => .ok _

/-- The leaves of static arguments are read word by word. -/
theorem map_decodeArguments_eq_readWords {types : List ArgType}
    (hsupported : AllSupported (abiOf types)) (hstatic : anyDynamic (abiOf types) = false)
    (data : Bytes) :
    (decodeArguments (abiOf types) data).map
        (fun vs => Value.leavesOf (interchangeOf (abiOf types) vs)) =
      readWords data (leavesOf types) 0 := by
  rw [← readWords_leavesOf hsupported hstatic 0 0, decodeArguments, checkHead_of_static hstatic]
  cases decodeMembers data 0 (abiOf types) 0 <;> rfl

end ArgType

namespace Entry

/-- A function whose inputs are all static takes exactly the calldata that has a clean word for each
leaf of their types. Its parameters then have the readings of these words as their leaves, in
order, under the names of the inputs, and all other calldata is a mismatch. -/
theorem decode_static {entry : Entry} {types : List ArgType} (hnames : entry.inputNames.Nodup)
    (hlengths : entry.inputNames.length = types.length)
    (htypes : entry.inputTypes = types.map ArgType.text)
    (hsupported : AllSupported (ArgType.abiOf types))
    (hstatic : anyDynamic (ArgType.abiOf types) = false) (data : Bytes) :
    ((∃ parameters, entry.decode data = .ok parameters) ↔
      HasCleanWords data (ArgType.leavesOf types)) ∧
    (∀ parameters, entry.decode data = .ok parameters → parameters.keys = entry.inputNames ∧
      Value.leavesOf parameters.values =
        (ArgType.leavesOf types).mapIdx fun index leaf => leaf.reading (nthWord data index)) ∧
    (¬ HasCleanWords data (ArgType.leavesOf types) → entry.decode data = .error (.decoding
      (.mismatch entry.signature entry.interface entry.selector (data.length + 4)))) := by
  have hread := ArgType.map_decodeArguments_eq_readWords hsupported hstatic data
  cases hdecode : decodeArguments (ArgType.abiOf types) data with
  | ok args =>
    rw [hdecode] at hread
    obtain ⟨hclean, hleaves⟩ := ArgType.readWords_eq_ok_iff.1 hread.symm
    have hok := decode_eq_ok hlengths htypes hsupported hdecode
    refine ⟨iff_of_true ⟨_, hok⟩ hclean, fun parameters h => ?_, fun hdirty => absurd hclean hdirty⟩
    obtain rfl := Except.ok.inj (hok.symm.trans h)
    have hargs := admits_of_decodeArguments hsupported hdecode
    have hcount : entry.inputNames.length = (interchangeOf (ArgType.abiOf types) args).length := by
      rw [AbiType.length_interchangeOf hargs, ArgType.length_abiOf, hlengths]
    have hentries := OrderedMap.entries_ofList_zip hnames hcount
    constructor
    · rw [OrderedMap.keys, hentries, List.map_fst_zip (Nat.le_of_eq hcount)]
    · rw [OrderedMap.values, hentries, List.map_snd_zip (Nat.le_of_eq hcount.symm)]
      exact hleaves
  | error flaw =>
    rw [hdecode] at hread
    have hdirty : ¬ HasCleanWords data (ArgType.leavesOf types) := by
      intro hclean
      have hall := hread.trans (ArgType.readWords_eq_ok_iff.2 ⟨hclean, rfl⟩)
      cases hall
    have hlayout : flaw = .layout := by
      cases flaw with
      | layout => rfl
      | unicode => exact absurd hread.symm (ArgType.sparesText_readWords _ 0)
    have hfault := decode_of_flaw htypes hsupported hdecode
    rw [hlayout] at hfault
    refine ⟨iff_of_false ?_ hdirty, fun parameters h => ?_, fun _ => hfault⟩
    · rintro ⟨parameters, h⟩
      rw [hfault] at h
      cases h
    · rw [hfault] at h
      cases h

end Entry

/-! ### An example of nested static types -/

namespace Desk

/-- A pair of a list of pairs and a truth value, and a list of byte strings. -/
def quoteTypes : List ArgType :=
  [.tuple [.array (.tuple [.int 16, .address]) 2, .bool], .array (.fixedBytes 3) 2]

/-- A function of these static types. -/
def quote : Entry where
  selector := selectorOf "quote(((int16,address)[2],bool),bytes3[2])"
  name := "quote"
  signature := "quote(((int16,address)[2],bool),bytes3[2])"
  inputTypes := quoteTypes.map ArgType.text
  inputNames := ["legs", "tags"]
  family := .generic
  interface := "Desk"

/-- The words of calldata behind the first one, with a byte behind them. -/
def quoteRest : Bytes :=
  [10, 3, 11, 1].flatMap wordOf ++ padded [0xab, 0xcd, 0xef] ++ wordOf 0 ++ [7]

end Desk

/-- A negative number is read from a word with its sign in front, and not from its low bits. -/
theorem Entry.decode_static_quote :
    (∃ parameters,
      Desk.quote.decode (wordOf (capacity 256 - 2) ++ Desk.quoteRest) = .ok parameters ∧
      parameters.keys = ["legs", "tags"] ∧
      Value.leavesOf parameters.values =
        [.text "-2", .text "0x000000000000000000000000000000000000000a",
         .text "3", .text "0x000000000000000000000000000000000000000b",
         .bool true, .text "0xabcdef", .text "0x000000"]) ∧
    Desk.quote.decode (wordOf (capacity 16 - 2) ++ Desk.quoteRest) = .error (.decoding
      (.mismatch Desk.quote.signature "Desk" Desk.quote.selector 229)) := by
  have hsupported : AllSupported (ArgType.abiOf Desk.quoteTypes) := by
    simp [Desk.quoteTypes, ArgType.abiOf, ArgType.abi, AbiType.AllSupported, AbiType.Supported,
      TypeExpr.isIntegerSize]
  have hclean : HasCleanWords (wordOf (capacity 256 - 2) ++ Desk.quoteRest)
      (ArgType.leavesOf Desk.quoteTypes) := by decide +kernel
  have hdirty : ¬ HasCleanWords (wordOf (capacity 16 - 2) ++ Desk.quoteRest)
      (ArgType.leavesOf Desk.quoteTypes) := by decide +kernel
  have hlength : (wordOf (capacity 16 - 2) ++ Desk.quoteRest).length = 225 := by decide +kernel
  have hnames : Desk.quote.inputNames.Nodup := by decide
  obtain ⟨haccepted, hread, -⟩ := Entry.decode_static hnames rfl rfl hsupported rfl
    (wordOf (capacity 256 - 2) ++ Desk.quoteRest)
  obtain ⟨-, -, hrefused⟩ := Entry.decode_static hnames rfl rfl hsupported rfl
    (wordOf (capacity 16 - 2) ++ Desk.quoteRest)
  obtain ⟨parameters, hparameters⟩ := haccepted.2 hclean
  obtain ⟨hkeys, hleaves⟩ := hread parameters hparameters
  have hmismatch := hrefused hdirty
  rw [hlength] at hmismatch
  exact ⟨⟨parameters, hparameters, hkeys, hleaves.trans (by decide +kernel)⟩, hmismatch⟩

end Chronicle
