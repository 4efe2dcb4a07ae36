/- # Words of calldata

Calldata is made of words of thirty-two bytes. A number fills a word with its
high byte first, and a byte string is padded with zeros to whole words.

Key definitions: `bigEndian`, `toBigEndian`, `capacity`, `wordOf`, `padded`.
Key theorems: `bigEndian_toBigEndian`, `toBigEndian_bigEndian`.
-/
import Chronicle.Hex

namespace Chronicle

/-- The number of a byte string, the high byte first. -/
def bigEndian (bs : Bytes) : Nat := bs.foldl (fun n b => 256 * n + b.toNat) 0

/-- The `size` bytes of a number, the high byte first. -/
def toBigEndian : Nat → Nat → Bytes
  | 0, _ => []
  | size + 1, n => toBigEndian size (n / 256) ++ [UInt8.ofNat (n % 256)]

/-- How many numbers fit into so many bits. -/
def capacity (bits : Nat) : Nat := Nat.pow 2 bits

/-- The word of a number. -/
def wordOf (n : Nat) : Bytes := toBigEndian 32 n

/-- The least multiple of thirty-two that is not below `n`. -/
def paddedSize (n : Nat) : Nat := (n + 31) / 32 * 32

/-- A byte string with zeros behind it up to whole words. -/
def padded (bs : Bytes) : Bytes := bs ++ List.replicate (paddedSize bs.length - bs.length) 0

theorem capacity_le {m n : Nat} (h : m ≤ n) : capacity m ≤ capacity n :=
  Nat.pow_le_pow_right Nat.two_pos h

theorem capacity_eq_double {bits : Nat} (h : 0 < bits) : capacity bits = 2 * capacity (bits - 1) := by
  obtain ⟨n, rfl⟩ := Nat.exists_eq_succ_of_ne_zero (Nat.pos_iff_ne_zero.1 h)
  exact Nat.pow_succ'

theorem bigEndian_concat (bs : Bytes) (b : UInt8) :
    bigEndian (bs ++ [b]) = 256 * bigEndian bs + b.toNat := by
  simp [bigEndian]

@[simp] theorem length_toBigEndian (size n : Nat) : (toBigEndian size n).length = size := by
  induction size generalizing n with
  | zero => rfl
  | succ size ih => simp [toBigEndian, ih]

@[simp] theorem length_wordOf (n : Nat) : (wordOf n).length = 32 := length_toBigEndian 32 n

/-- A number that fits is read back from its bytes. -/
theorem bigEndian_toBigEndian {size n : Nat} (h : n < Nat.pow 256 size) :
    bigEndian (toBigEndian size n) = n := by
  induction size generalizing n with
  | zero =>
    have : n = 0 := by simpa using h
    subst this
    rfl
  | succ size ih =>
    have hlow : (UInt8.ofNat (n % 256)).toNat = n % 256 := by simp
    have hsucc : Nat.pow 256 (size + 1) = Nat.pow 256 size * 256 := rfl
    rw [toBigEndian, bigEndian_concat, ih (by omega), hlow]
    omega

theorem toBigEndian_concat (size n : Nat) (b : UInt8) :
    toBigEndian (size + 1) (256 * n + b.toNat) = toBigEndian size n ++ [b] := by
  have hb := b.toNat_lt
  have hhigh : (256 * n + b.toNat) / 256 = n := by omega
  have hlow : (256 * n + b.toNat) % 256 = b.toNat := by omega
  rw [toBigEndian, hhigh, hlow, UInt8.ofNat_toNat]

/-- A byte string is read back from its number. -/
theorem toBigEndian_bigEndian {size : Nat} {bs : Bytes} (h : bs.length = size) :
    toBigEndian size (bigEndian bs) = bs := by
  induction size generalizing bs with
  | zero => rw [List.length_eq_zero_iff.1 h, toBigEndian]
  | succ size ih =>
    rcases List.eq_nil_or_concat bs with rfl | ⟨front, b, rfl⟩
    · cases h
    · have hfront : front.length = size := by simpa using h
      rw [List.concat_eq_append, bigEndian_concat, toBigEndian_concat, ih hfront]

/-- A byte string of a size stands for a number that fits into that size. -/
theorem bigEndian_lt {size : Nat} {bs : Bytes} (h : bs.length = size) :
    bigEndian bs < Nat.pow 256 size := by
  induction size generalizing bs with
  | zero =>
    rw [List.length_eq_zero_iff.1 h]
    exact Nat.one_pos
  | succ size ih =>
    rcases List.eq_nil_or_concat bs with rfl | ⟨front, b, rfl⟩
    · cases h
    · have hfront : front.length = size := by simpa using h
      have hlt := ih hfront
      have hb := b.toNat_lt
      have hsucc : Nat.pow 256 (size + 1) = Nat.pow 256 size * 256 := rfl
      rw [List.concat_eq_append, bigEndian_concat]
      omega

theorem le_paddedSize (n : Nat) : n ≤ paddedSize n := by
  unfold paddedSize
  omega

@[simp] theorem length_padded (bs : Bytes) : (padded bs).length = paddedSize bs.length := by
  have := le_paddedSize bs.length
  simp only [padded, List.length_append, List.length_replicate]
  omega

end Chronicle
