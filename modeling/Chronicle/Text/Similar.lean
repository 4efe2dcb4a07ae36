/- # Similar words

How much a word resembles others, to suggest what it may have been meant to
be. Two texts share their longest overlap, and then whatever the parts before
it share and the parts behind it share. They are similar if at least six tenths
of all their characters are shared.

Key definitions: `longestOverlap`, `sharedCount`, `closest`.
Key theorem: `longestOverlap_left_add_size_le`.
-/

namespace Chronicle.Text

/-- A run of characters that stands in two texts: where it starts in each of them, and its size. -/
structure Overlap where
  left : Nat
  right : Nat
  size : Nat
  deriving DecidableEq, Repr

/-- How many characters two texts have in common from their starts on. -/
def commonStart : List Char → List Char → Nat
  | x :: xs, y :: ys => if x = y then commonStart xs ys + 1 else 0
  | _, _ => 0

/-- The longest overlap from the start of the first text on; of equally long ones the earliest in
the second. -/
def leadingOverlap (xs : List Char) : List Char → Overlap
  | [] => ⟨0, 0, 0⟩
  | y :: ys =>
    let here := commonStart xs (y :: ys)
    let later := leadingOverlap xs ys
    if later.size ≤ here then ⟨0, 0, here⟩ else ⟨0, later.right + 1, later.size⟩

/-- The longest overlap of two texts; of equally long ones the earliest in the first, and then the
earliest in the second. -/
def longestOverlap : List Char → List Char → Overlap
  | [], _ => ⟨0, 0, 0⟩
  | x :: xs, ys =>
    let here := leadingOverlap (x :: xs) ys
    let later := longestOverlap xs ys
    if later.size ≤ here.size then here else ⟨later.left + 1, later.right, later.size⟩

theorem commonStart_le : ∀ xs ys : List Char, commonStart xs ys ≤ xs.length
  | [], _ => by simp [commonStart]
  | _ :: _, [] => by simp [commonStart]
  | x :: xs, y :: ys => by
    have := commonStart_le xs ys
    unfold commonStart
    split <;> simp only [List.length_cons] <;> omega

theorem leadingOverlap_left (xs : List Char) : ∀ ys : List Char, (leadingOverlap xs ys).left = 0
  | [] => rfl
  | y :: ys => by simp only [leadingOverlap]; split <;> rfl

theorem leadingOverlap_size_le (xs : List Char) :
    ∀ ys : List Char, (leadingOverlap xs ys).size ≤ xs.length
  | [] => Nat.zero_le _
  | y :: ys => by
    simp only [leadingOverlap]
    split
    · exact commonStart_le xs (y :: ys)
    · exact leadingOverlap_size_le xs ys

/-- The longest overlap lies within the first text. -/
theorem longestOverlap_left_add_size_le :
    ∀ xs ys : List Char, (longestOverlap xs ys).left + (longestOverlap xs ys).size ≤ xs.length
  | [], _ => Nat.le_refl _
  | x :: xs, ys => by
    have ih := longestOverlap_left_add_size_le xs ys
    have h := leadingOverlap_size_le (x :: xs) ys
    simp only [longestOverlap]
    split
    · rw [leadingOverlap_left]; omega
    · simp only [List.length_cons]; omega

/-- How many characters two texts share: those of their longest overlap, and what the parts on
either side of it share. -/
def sharedCount (xs ys : List Char) : Nat :=
  if (longestOverlap xs ys).size = 0 then 0
  else
    sharedCount (xs.take (longestOverlap xs ys).left) (ys.take (longestOverlap xs ys).right) +
      (longestOverlap xs ys).size +
      sharedCount (xs.drop ((longestOverlap xs ys).left + (longestOverlap xs ys).size))
        (ys.drop ((longestOverlap xs ys).right + (longestOverlap xs ys).size))
termination_by xs.length
decreasing_by
  all_goals
    have := longestOverlap_left_add_size_le xs ys
    simp only [List.length_take, List.length_drop]
    omega

/-- How much a candidate shares with a word, and the size of both. -/
def similarity (word candidate : String) : Nat × Nat :=
  (sharedCount candidate.toList word.toList, candidate.length + word.length)

/-- Whether six tenths of all characters are shared. -/
def isSimilar (word candidate : String) : Bool :=
  3 * (similarity word candidate).2 ≤ 10 * (similarity word candidate).1

/-- Whether the first of two candidates is the better one: the more similar, and of equally similar
ones the later in order. -/
def isBetter (word a b : String) : Bool :=
  let x := (similarity word a).1 * (similarity word b).2
  let y := (similarity word b).1 * (similarity word a).2
  y < x || (y = x && decide (b ≤ a))

/-- The candidates that are similar to a word, at most the best three of them, in order. -/
def closest (word : String) (candidates : List String) : List String :=
  (((candidates.filter (isSimilar word)).mergeSort (isBetter word)).take 3).mergeSort (· ≤ ·)

end Chronicle.Text
