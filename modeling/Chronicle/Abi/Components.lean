/- # The components of a tuple type

A tuple type is written as its components in parentheses with commas between
them. The text is cut at the commas that stand outside of inner parentheses.

Key definitions: `splitOutside`, `components`.
-/

namespace Chronicle

/-- The pieces of a text between the commas at depth zero, where `depth` is the number of
parentheses that are open: the first piece and those that follow it. -/
def splitOutside (depth : Int) : List Char → List Char × List (List Char)
  | [] => ([], [])
  | c :: cs =>
    if c = ',' && depth = 0 then
      let (piece, pieces) := splitOutside depth cs
      ([], piece :: pieces)
    else
      let depth := if c = '(' then depth + 1 else if c = ')' then depth - 1 else depth
      let (piece, pieces) := splitOutside depth cs
      (c :: piece, pieces)

/-- The text before the last character for which `p` holds, or without its last character if there
is none. -/
def beforeLast (p : Char → Bool) (cs : List Char) : List Char :=
  match cs.reverse.dropWhile (!p ·) with
  | [] => cs.dropLast
  | _ :: before => before.reverse

/-- The pieces, without an empty one at the end. -/
def withoutEmptyEnd (piece : List Char) (pieces : List (List Char)) : List (List Char) :=
  let all := piece :: pieces
  if all.getLast? = some [] then all.dropLast else all

/-- The components of a tuple type: the pieces of what stands between its first character and its
last closing parenthesis. -/
def components (cs : List Char) : List (List Char) :=
  let inner := (beforeLast (· = ')') cs).drop 1
  let (piece, pieces) := splitOutside 0 inner
  withoutEmptyEnd piece pieces

/-! ### Components are shorter than the type -/

theorem length_splitOutside (depth : Int) (cs : List Char) :
    (splitOutside depth cs).1.length ≤ cs.length ∧
      ∀ piece ∈ (splitOutside depth cs).2, piece.length ≤ cs.length := by
  induction cs generalizing depth with
  | nil => simp [splitOutside]
  | cons c cs ih =>
    simp only [splitOutside]
    split
    · have h := ih depth
      refine ⟨by simp, fun piece hp => ?_⟩
      simp only [List.mem_cons] at hp
      rcases hp with rfl | hp
      · exact Nat.le_succ_of_le h.1
      · exact Nat.le_succ_of_le (h.2 piece hp)
    · have h := ih (if c = '(' then depth + 1 else if c = ')' then depth - 1 else depth)
      exact ⟨by simpa using h.1, fun piece hp => Nat.le_succ_of_le (h.2 piece hp)⟩

theorem length_beforeLast (p : Char → Bool) (cs : List Char) (h : cs ≠ []) :
    (beforeLast p cs).length < cs.length := by
  unfold beforeLast
  split
  · have := List.length_pos_iff.2 h
    simp only [List.length_dropLast]; omega
  · next c before heq =>
    have hle := (List.dropWhile_suffix (fun x => !p x) (l := cs.reverse)).length_le
    rw [heq] at hle
    simp only [List.length_reverse, List.length_cons] at hle ⊢
    omega

theorem mem_withoutEmptyEnd {piece x : List Char} {pieces : List (List Char)}
    (h : x ∈ withoutEmptyEnd piece pieces) : x = piece ∨ x ∈ pieces := by
  unfold withoutEmptyEnd at h
  have hall : x ∈ piece :: pieces := by
    simp only at h
    split at h
    · exact (List.dropLast_sublist _).subset h
    · exact h
  simpa using hall

/-- A component is shorter than the type it belongs to. -/
theorem length_lt_of_mem_components {cs piece : List Char} (hne : cs ≠ [])
    (h : piece ∈ components cs) : piece.length < cs.length := by
  have hlen := length_beforeLast (· = ')') cs hne
  have hsplit := length_splitOutside 0 ((beforeLast (· = ')') cs).drop 1)
  have hle : piece.length ≤ ((beforeLast (· = ')') cs).drop 1).length := by
    rcases mem_withoutEmptyEnd h with rfl | hp
    · exact hsplit.1
    · exact hsplit.2 piece hp
  simp only [List.length_drop] at hle
  omega

end Chronicle
