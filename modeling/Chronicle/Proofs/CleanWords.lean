/- # Clean words

A static value of one word is only accepted from a word that an encoder could
have written: the number of an unsigned type is below the bound of its size, that
of a signed type is extended by its sign, and the bytes in front of an address
and behind a byte string are zeros. Then the word alone says what is read.

Key definitions: `ArgType.IsClean`, `ArgType.reading`.
Key theorems: `signedOf_eq`, `bigEndian_lt_capacity_iff`, `ArgType.map_decodeAt_of_isWord`.
-/
import Chronicle.Proofs.ArgumentForms

namespace Chronicle

/-! ### Numbers of byte strings -/

theorem bigEndian_append (front back : Bytes) :
    bigEndian (front ++ back) = bigEndian front * Nat.pow 256 back.length + bigEndian back := by
  induction back using List.reverseRecOn with
  | nil => simp [bigEndian]
  | append_singleton back b ih =>
    have hsucc : Nat.pow 256 (back.length + 1) = Nat.pow 256 back.length * 256 := rfl
    rw [← List.append_assoc, bigEndian_concat, bigEndian_concat, ih, List.length_append,
      List.length_singleton, hsucc, Nat.mul_add, Nat.add_assoc, Nat.mul_left_comm, Nat.mul_comm 256]

theorem bigEndian_eq_zero_iff {bs : Bytes} : bigEndian bs = 0 ↔ ∀ b ∈ bs, b = 0 := by
  induction bs using List.reverseRecOn with
  | nil => simp [bigEndian]
  | append_singleton bs b ih =>
    have hbyte : b.toNat = 0 ↔ b = 0 := by
      rw [← UInt8.toNat_inj]
      rfl
    rw [bigEndian_concat, List.forall_mem_append, List.forall_mem_singleton, ← ih, ← hbyte]
    omega

/-- A byte string is no greater than its back can tell exactly if only zeros stand in front. -/
theorem bigEndian_append_lt_iff (front back : Bytes) :
    bigEndian (front ++ back) < Nat.pow 256 back.length ↔ ∀ b ∈ front, b = 0 := by
  have hlt : bigEndian back < Nat.pow 256 back.length := bigEndian_lt rfl
  rw [← bigEndian_eq_zero_iff, bigEndian_append]
  constructor
  · intro h
    by_contra hfront
    have hle := Nat.le_mul_of_pos_left (Nat.pow 256 back.length) (Nat.pos_of_ne_zero hfront)
    omega
  · intro h
    rw [h]
    omega

/-- A word is below the bound of an address if twelve zeros stand in front. -/
theorem bigEndian_lt_capacity_iff {word : Bytes} (hlength : word.length = 32) :
    bigEndian word < capacity 160 ↔ ∀ b ∈ word.take 12, b = 0 := by
  have hback : (word.drop 12).length = 20 := by rw [List.length_drop, hlength]
  have hpower : capacity 160 = Nat.pow 256 20 := by decide
  rw [← bigEndian_append_lt_iff (word.take 12) (word.drop 12), List.take_append_drop, hback, hpower]

/-- Behind twelve zeros, the number of a word is that of its last twenty bytes. -/
theorem toBigEndian_of_front_zero {word : Bytes} (hlength : word.length = 32)
    (hfront : ∀ b ∈ word.take 12, b = 0) : toBigEndian 20 (bigEndian word) = word.drop 12 := by
  have hback : (word.drop 12).length = 20 := by rw [List.length_drop, hlength]
  have hsplit := bigEndian_append (word.take 12) (word.drop 12)
  rw [List.take_append_drop, bigEndian_eq_zero_iff.2 hfront, Nat.zero_mul, Nat.zero_add] at hsplit
  rw [hsplit, toBigEndian_bigEndian hback]

/-! ### Signs -/

section

variable {bits n : Nat}

theorem toNat_ofNat_of_lt (hn : n < capacity 256) : (BitVec.ofNat 256 n).toNat = n := by
  rw [BitVec.toNat_ofNat]
  exact Nat.mod_eq_of_lt hn

theorem toInt_ofNat (hn : n < capacity 256) : (BitVec.ofNat 256 n).toInt =
    if n < capacity 255 then (n : Int) else n - capacity 256 := by
  have hdouble : capacity 256 = 2 * capacity 255 := capacity_eq_double (by decide)
  have hhalf : 2 * n < 2 ^ 256 ↔ n < capacity 255 := by
    have hpower : 2 ^ 256 = capacity 256 := rfl
    omega
  rw [BitVec.toInt_eq_toNat_cond, toNat_ofNat_of_lt hn]
  simp only [hhalf]
  rfl

theorem toInt_setWidth (hpos : 0 < bits) (hn : n < capacity 256) :
    ((BitVec.ofNat 256 n).setWidth bits).toInt =
      if n % capacity bits < capacity (bits - 1) then ((n % capacity bits : Nat) : Int)
      else (n % capacity bits : Nat) - capacity bits := by
  have hdouble := capacity_eq_double hpos
  have hlow : ((BitVec.ofNat 256 n).setWidth bits).toNat = n % capacity bits := by
    rw [BitVec.toNat_setWidth, toNat_ofNat_of_lt hn]
    rfl
  have hhalf : 2 * (n % capacity bits) < 2 ^ bits ↔ n % capacity bits < capacity (bits - 1) := by
    have hpower : 2 ^ bits = capacity bits := rfl
    omega
  rw [BitVec.toInt_eq_toNat_cond, hlow]
  simp only [hhalf]
  rfl

/-- A signed number is read from a word that is extended by the sign of its low bits, and it is the
number of the word in two's complement. -/
theorem signedOf_eq (hpos : 0 < bits) (hle : bits ≤ 256) (hn : n < capacity 256) :
    signedOf bits n =
      if ((BitVec.ofNat 256 n).setWidth bits).signExtend 256 = BitVec.ofNat 256 n then
        .ok (BitVec.ofNat 256 n).toInt
      else .error .layout := by
  have hdouble := capacity_eq_double hpos
  have hdouble' : capacity 256 = 2 * capacity 255 := capacity_eq_double (by decide)
  have hhalf : capacity (bits - 1) ≤ capacity 255 := capacity_le (by omega)
  have hlow : n % capacity bits < capacity bits := Nat.mod_lt _ (Nat.pow_pos Nat.two_pos)
  have hclean : ((BitVec.ofNat 256 n).setWidth bits).signExtend 256 = BitVec.ofNat 256 n ↔
      ((BitVec.ofNat 256 n).setWidth bits).toInt = (BitVec.ofNat 256 n).toInt := by
    rw [← BitVec.toInt_inj, BitVec.toInt_signExtend_of_le hle]
  rw [toInt_setWidth hpos hn, toInt_ofNat hn] at hclean
  rw [toInt_ofNat hn]
  dsimp only [signedOf]
  by_cases hsign : n % capacity bits < capacity (bits - 1)
  · have hsame : ((BitVec.ofNat 256 n).setWidth bits).signExtend 256 = BitVec.ofNat 256 n ↔
        n = n % capacity bits := by
      rw [hclean, if_pos hsign]
      split <;> omega
    rw [if_pos hsign]
    by_cases hn' : n = n % capacity bits
    · rw [if_pos hn', if_pos (hsame.2 hn'), if_pos (by omega), ← hn']
    · rw [if_neg hn', if_neg (fun h => hn' (hsame.1 h))]
  · have hsame : ((BitVec.ofNat 256 n).setWidth bits).signExtend 256 = BitVec.ofNat 256 n ↔
        n = capacity 256 - capacity bits + n % capacity bits := by
      rw [hclean, if_neg hsign]
      split <;> omega
    rw [if_neg hsign]
    by_cases hn' : n = capacity 256 - capacity bits + n % capacity bits
    · rw [if_pos hn', if_pos (hsame.2 hn'), if_neg (by omega)]
      exact congrArg Except.ok (by omega)
    · rw [if_neg hn', if_neg (fun h => hn' (hsame.1 h))]

end

/-! ### Types of one word -/

/-- The bits of a word. -/
def bitsOf (word : Bytes) : BitVec 256 := BitVec.ofNat 256 (bigEndian word)

theorem lt_capacity_of_length {word : Bytes} (hlength : word.length = 32) :
    bigEndian word < capacity 256 := by
  have hpower : Nat.pow 256 32 = capacity 256 := by decide
  exact hpower ▸ bigEndian_lt hlength

namespace ArgType

open AbiType (decodeAt interchange)

/-- Values of the type are one word that holds no offset. -/
def isWord : ArgType → Bool
  | .uint _ => true
  | .int _ => true
  | .address => true
  | .bool => true
  | .fixedBytes _ => true
  | .function => true
  | _ => false

/-- The word is one that encoders write for a value of the type: an unsigned number is below the
bound of its size, a signed number is extended by its sign, twelve zeros stand in front of an
address, a truth value is zero or one, and there are only zeros behind a byte string. -/
def IsClean : ArgType → Bytes → Prop
  | .uint bits, word => bigEndian word < capacity bits
  | .int bits, word => ((bitsOf word).setWidth bits).signExtend 256 = bitsOf word
  | .address, word => ∀ b ∈ word.take 12, b = 0
  | .bool, word => bigEndian word = 0 ∨ bigEndian word = 1
  | .fixedBytes size, word => ∀ b ∈ word.drop size, b = 0
  | .function, word => ∀ b ∈ word.drop 24, b = 0
  | _, _ => False

instance decidableIsClean : (t : ArgType) → (word : Bytes) → Decidable (t.IsClean word)
  | .uint _, _ => inferInstanceAs (Decidable (_ < _))
  | .int _, _ => inferInstanceAs (Decidable (_ = _))
  | .address, _ => inferInstanceAs (Decidable (∀ b ∈ _, b = 0))
  | .bool, _ => inferInstanceAs (Decidable (_ ∨ _))
  | .fixedBytes _, _ => inferInstanceAs (Decidable (∀ b ∈ _, b = 0))
  | .function, _ => inferInstanceAs (Decidable (∀ b ∈ _, b = 0))
  | .bytes, _ => inferInstanceAs (Decidable False)
  | .string, _ => inferInstanceAs (Decidable False)
  | .array _ _, _ => inferInstanceAs (Decidable False)
  | .sequence _, _ => inferInstanceAs (Decidable False)
  | .tuple _, _ => inferInstanceAs (Decidable False)

/-- What calls hold for a clean word of the type. -/
def reading : ArgType → Bytes → Value
  | .uint _, word => .text (Numeral.text (bigEndian word))
  | .int _, word => .text (Numeral.text (bitsOf word).toInt)
  | .address, word => .text (Hex.marked (word.drop 12))
  | .bool, word => .bool (bigEndian word = 1)
  | .fixedBytes size, word => .text (Hex.marked (word.take size))
  | .function, word => .text (Hex.marked (word.take 24))
  | _, _ => .null

/-- What calls hold for the word at a position, which has to be clean. -/
def readWord (data : Bytes) (t : ArgType) (position : Nat) : Except Flaw Value := do
  let word ← bytesAt data position 32
  if t.IsClean word then .ok (t.reading word) else .error .layout

section

variable {data : Bytes} {position : Nat} {t : ArgType} {f : Value → Value}

theorem readWord_eq_ok_iff {v : Value} : t.readWord data position = .ok v ↔
    ∃ word, bytesAt data position 32 = .ok word ∧ t.IsClean word ∧ v = t.reading word := by
  unfold readWord
  constructor
  · intro h
    obtain ⟨word, hword, h⟩ := bind_eq_ok.1 h
    by_cases hclean : t.IsClean word
    · rw [if_pos hclean] at h
      exact ⟨word, hword, hclean, (Except.ok.inj h).symm⟩
    · rw [if_neg hclean] at h
      cases h
  · rintro ⟨word, hword, hclean, rfl⟩
    rw [bind_of_ok hword, if_pos hclean]

theorem map_bind_bytesAt {read : Bytes → Except Flaw Value}
    (h : ∀ word, word.length = 32 →
      (read word).map f = if t.IsClean word then .ok (t.reading word) else .error .layout) :
    (bytesAt data position 32 >>= read).map f = t.readWord data position := by
  unfold readWord
  cases hword : bytesAt data position 32 with
  | error flaw => rfl
  | ok word => exact h word (length_of_bytesAt hword)

theorem map_bind_wordAt {read : Nat → Except Flaw Value}
    (h : ∀ word, word.length = 32 →
      (read (bigEndian word)).map f = if t.IsClean word then .ok (t.reading word) else .error .layout) :
    (wordAt data position >>= read).map f = t.readWord data position := by
  rw [← map_bind_bytesAt h]
  unfold wordAt
  cases bytesAt data position 32 <;> rfl

/-- Where the condition that is tested is that of clean words, its values are read from them. -/
theorem map_require {condition : Bool} {v : Value} {word : Bytes}
    (hclean : condition = true ↔ t.IsClean word) (hform : t.IsClean word → f v = t.reading word) :
    (require condition >>= fun _ => (.ok v : Except Flaw Value)).map f =
      if t.IsClean word then .ok (t.reading word) else .error .layout := by
  by_cases h : t.IsClean word
  · rw [if_pos h, hclean.2 h, ← hform h]
    rfl
  · have hfalse : condition = false := by simpa [← hclean] using h
    rw [if_neg h, hfalse]
    rfl

theorem forall_mem_eq_zero_iff {bs : Bytes} : bs.all (· == 0) = true ↔ ∀ b ∈ bs, b = 0 := by
  simp

/-- A type of one word takes clean words and only these. -/
theorem map_decodeAt_of_isWord : ∀ {t : ArgType}, t.isWord = true → t.abi.Supported →
    (decodeAt data t.abi position).map (interchange t.abi) = t.readWord data position
  | .uint _, _, _ => map_bind_wordAt fun _ _ => map_require decide_eq_true_iff fun _ => rfl
  | .int bits, _, hsupported => by
    refine map_bind_wordAt fun word hlength => ?_
    rw [signedOf_eq (isIntegerSize_pos hsupported) (isIntegerSize_le hsupported)
      (lt_capacity_of_length hlength)]
    by_cases hclean : IsClean (.int bits) word
    · have hbits : ((bitsOf word).setWidth bits).signExtend 256 = bitsOf word := hclean
      rw [if_pos hclean]
      exact congrArg (Except.map _) (bind_of_ok (if_pos hbits) _)
    · have hbits : ¬ ((bitsOf word).setWidth bits).signExtend 256 = bitsOf word := hclean
      rw [if_neg hclean]
      exact congrArg (fun x => Except.map _ (x >>= _)) (if_neg hbits)
  | .address, _, _ => by
    refine map_bind_wordAt fun word hlength => map_require ?_ fun hclean => ?_
    · rw [decide_eq_true_iff]
      exact bigEndian_lt_capacity_iff hlength
    · show Value.text (Hex.marked (AbiType.addressBytes (Hex.marked _))) = _
      rw [AbiType.addressBytes_marked, toBigEndian_of_front_zero hlength hclean]
      rfl
  | .bool, _, _ => by
    refine map_bind_wordAt fun word _ => map_require ?_ fun _ => rfl
    rw [decide_eq_true_iff, IsClean]
    omega
  | .fixedBytes _, _, _ => map_bind_bytesAt fun _ _ => map_require forall_mem_eq_zero_iff fun _ => rfl
  | .function, _, _ => map_bind_bytesAt fun _ _ => map_require forall_mem_eq_zero_iff fun _ => rfl

end

end ArgType

end Chronicle
