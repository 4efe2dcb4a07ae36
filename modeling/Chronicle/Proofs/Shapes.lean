/- # The shape of a type's text

Values are brought into their interchange form by the text of their type, which
is taken apart once more, from its end and at its outer commas. What comes out
is the shape of the type that was written: a text in which parentheses pair up
passes whole through the cutting, so that the pieces are the components.

Key definitions: `Passes`, `ArgType.shape`.
Key theorems: `components_eq`, `beforeLast_append`, `ArgType.ofText_shape`.
-/
import Chronicle.Abi.Normalize
import Chronicle.Proofs.ArgumentTypes

namespace Chronicle

/-! ### Cutting at commas -/

/-- At this depth the text is not cut anywhere, and the depth behind it is the same. -/
def Passes (depth : Int) (cs : List Char) : Prop :=
  ∀ rest, splitOutside depth (cs ++ rest) =
    (cs ++ (splitOutside depth rest).1, (splitOutside depth rest).2)

namespace Passes

variable {depth : Int} {as bs cs : List Char}

theorem nil (depth : Int) : Passes depth [] := fun _ => rfl

theorem append (ha : Passes depth as) (hb : Passes depth bs) : Passes depth (as ++ bs) := by
  intro rest
  rw [List.append_assoc, ha, hb, List.append_assoc]

theorem of_plain : ∀ {cs : List Char}, (∀ c ∈ cs, c ≠ ',' ∧ c ≠ '(' ∧ c ≠ ')') → Passes depth cs
  | [], _ => nil depth
  | c :: cs, h => by
    intro rest
    obtain ⟨hcomma, hopen, hclose⟩ := h c List.mem_cons_self
    have ih : Passes depth cs := of_plain fun d hd => h d (List.mem_cons_of_mem _ hd)
    simp [splitOutside, hcomma, hopen, hclose, ih rest]

/-- Inside of parentheses a comma does not cut. -/
theorem comma (hdepth : depth ≠ 0) : Passes depth [','] := by
  intro rest
  simp [splitOutside, hdepth]

theorem parentheses (h : Passes (depth + 1) cs) : Passes depth ('(' :: (cs ++ [')'])) := by
  intro rest
  have hclose : splitOutside (depth + 1) (')' :: rest) =
      (')' :: (splitOutside depth rest).1, (splitOutside depth rest).2) := by
    simp [splitOutside]
  have hcs := h (')' :: rest)
  rw [hclose] at hcs
  simp [splitOutside, hcs]

theorem intercalate (hdepth : depth ≠ 0) : ∀ {pieces : List (List Char)},
    (∀ piece ∈ pieces, Passes depth piece) → Passes depth (List.intercalate [','] pieces)
  | [], _ => nil depth
  | [piece], h => by
    rw [List.intercalate_singleton]
    exact h piece List.mem_cons_self
  | piece :: next :: pieces, h => by
    rw [List.intercalate_cons_cons]
    have ih : Passes depth (List.intercalate [','] (next :: pieces)) :=
      intercalate hdepth fun p hp => h p (List.mem_cons_of_mem _ hp)
    exact ((h piece List.mem_cons_self).append (comma hdepth)).append ih

end Passes

theorem splitOutside_intercalate : ∀ {piece : List Char} {pieces : List (List Char)},
    (∀ p ∈ piece :: pieces, Passes 0 p) →
      splitOutside 0 (List.intercalate [','] (piece :: pieces)) = (piece, pieces)
  | piece, [], h => by
    have hpiece := h piece List.mem_cons_self []
    rw [List.append_nil] at hpiece
    rw [List.intercalate_singleton, hpiece]
    simp [splitOutside]
  | piece, next :: pieces, h => by
    have ih := splitOutside_intercalate fun p hp => h p (List.mem_cons_of_mem piece hp)
    rw [List.intercalate_cons_cons, List.append_assoc, h piece List.mem_cons_self]
    simp [splitOutside, ih]

/-! ### The last of a kind -/

/-- A text is cut at its last character of a kind. -/
theorem beforeLast_append {p : Char → Bool} {c : Char} (hc : p c = true) (before : List Char)
    {tail : List Char} (htail : ∀ d ∈ tail, p d = false) :
    beforeLast p (before ++ c :: tail) = before := by
  have hdrop : ((before ++ c :: tail).reverse.dropWhile fun d => !p d) = c :: before.reverse := by
    have hreverse : (before ++ c :: tail).reverse = tail.reverse ++ (c :: before.reverse) := by simp
    rw [hreverse, List.dropWhile_append_of_pos]
    · simp [hc]
    · intro d hd
      simp [htail d (List.mem_reverse.1 hd)]
  rw [beforeLast, hdrop]
  exact List.reverse_reverse before

/-- The components of a tuple type are the pieces it was written from. What follows the closing
parenthesis does not count. -/
theorem components_eq {pieces : List (List Char)} (hpass : ∀ p ∈ pieces, Passes 0 p)
    (hne : ∀ p ∈ pieces, p ≠ []) {tail : List Char} (htail : ∀ c ∈ tail, c ≠ ')') :
    components ('(' :: (List.intercalate [','] pieces ++ ')' :: tail)) = pieces := by
  have hinner : (beforeLast (· = ')') ('(' :: (List.intercalate [','] pieces ++ ')' :: tail))).drop 1 =
      List.intercalate [','] pieces := by
    rw [← List.cons_append, beforeLast_append (by decide) _ (by simpa using htail)]
    rfl
  rw [components, hinner]
  cases pieces with
  | nil => rfl
  | cons piece pieces =>
    rw [splitOutside_intercalate hpass]
    have hlast : (piece :: pieces).getLast? ≠ some [] := by
      intro h
      exact hne [] (List.mem_of_getLast? h) rfl
    exact if_neg hlast

/-! ### Shapes -/

namespace Shape

theorem ofChars_list {cs : List Char} (item : List Char) {tail : List Char}
    (hcs : cs = item ++ '[' :: tail) (hlast : cs.getLast? = some ']')
    (htail : ∀ c ∈ tail, c ≠ '[') : ofChars cs = .listOf (ofChars item) := by
  rw [ofChars, dif_pos hlast, hcs, beforeLast_append (by decide) item (by simpa using htail)]

theorem ofChars_tuple {cs : List Char} (hopen : cs.head? = some '(')
    (hlast : cs.getLast? ≠ some ']') : ofChars cs = .tupleOf ((components cs).map ofChars) := by
  rw [ofChars, dif_neg hlast, dif_pos hopen]
  simp

theorem ofChars_other {cs : List Char} (hplain : ∀ c ∈ cs, c ≠ ']' ∧ c ≠ '(')
    (haddress : cs ≠ "address".toList) : ofChars cs = .other := by
  have hlast : cs.getLast? ≠ some ']' := fun h => (hplain _ (List.mem_of_getLast? h)).1 rfl
  have hopen : cs.head? ≠ some '(' := fun h => (hplain _ (List.mem_of_head? h)).2 rfl
  rw [ofChars, dif_neg hlast, dif_neg hopen, if_neg haddress]

end Shape

namespace ArgType

mutual

/-- The shape of a type. -/
def shape : ArgType → Shape
  | .address => .address
  | .array item _ => .listOf (shape item)
  | .sequence item => .listOf (shape item)
  | .tuple items => .tupleOf (shapesOf items)
  | _ => .other

/-- The shapes of the types. -/
def shapesOf : List ArgType → List Shape
  | [] => []
  | t :: ts => shape t :: shapesOf ts

end

/-- A number holds none of the marks that structure a type's text. -/
theorem plain_repr (n : Nat) {mark : Char} (hmark : mark.isDigit = false) :
    ∀ c ∈ n.repr.toList, c ≠ mark := by
  intro c hc
  rw [Nat.toList_repr] at hc
  rintro rfl
  rw [isDigit_of_mem_toDigits c hc] at hmark
  cases hmark

theorem passes_repr (n : Nat) (depth : Int) : Passes depth n.repr.toList :=
  .of_plain fun c hc => ⟨plain_repr n (by decide) c hc, plain_repr n (by decide) c hc,
    plain_repr n (by decide) c hc⟩

mutual

theorem passes_chars : ∀ (t : ArgType) {depth : Int}, 0 ≤ depth → Passes depth t.chars
  | .uint bits, _, _ => (Passes.of_plain (by decide)).append (passes_repr bits _)
  | .int bits, _, _ => (Passes.of_plain (by decide)).append (passes_repr bits _)
  | .address, _, _ => .of_plain (by decide)
  | .bool, _, _ => .of_plain (by decide)
  | .fixedBytes size, _, _ => (Passes.of_plain (by decide)).append (passes_repr size _)
  | .function, _, _ => .of_plain (by decide)
  | .bytes, _, _ => .of_plain (by decide)
  | .string, _, _ => .of_plain (by decide)
  | .array item length, depth, hdepth =>
    have hopen : Passes depth ['['] := .of_plain (by decide)
    have hclose : Passes depth [']'] := .of_plain (by decide)
    (passes_chars item hdepth).append (hopen.append ((passes_repr length depth).append hclose))
  | .sequence item, _, hdepth => (passes_chars item hdepth).append (.of_plain (by decide))
  | .tuple items, depth, hdepth =>
    .parentheses (.intercalate (by omega) (passes_charsOf items (by omega)))

theorem passes_charsOf : ∀ (ts : List ArgType) {depth : Int}, 0 ≤ depth →
    ∀ piece ∈ charsOf ts, Passes depth piece
  | [], _, _ => by simp [charsOf]
  | t :: ts, _, hdepth => by
    intro piece hpiece
    rcases List.mem_cons.1 hpiece with rfl | hpiece
    · exact passes_chars t hdepth
    · exact passes_charsOf ts hdepth piece hpiece

end

theorem chars_ne_nil (t : ArgType) : t.chars ≠ [] := by
  cases t with
  | uint bits => exact List.append_ne_nil_of_left_ne_nil (by decide) _
  | int bits => exact List.append_ne_nil_of_left_ne_nil (by decide) _
  | address => decide
  | bool => decide
  | fixedBytes size => exact List.append_ne_nil_of_left_ne_nil (by decide) _
  | function => decide
  | bytes => decide
  | string => decide
  | array item length => exact List.append_ne_nil_of_right_ne_nil _ (List.cons_ne_nil _ _)
  | sequence item => exact List.append_ne_nil_of_right_ne_nil _ (List.cons_ne_nil _ _)
  | tuple items => exact List.cons_ne_nil _ _

theorem charsOf_ne_nil : ∀ (ts : List ArgType), ∀ piece ∈ charsOf ts, piece ≠ []
  | [], _, h => absurd h List.not_mem_nil
  | t :: ts, piece, h => by
    rcases List.mem_cons.1 h with rfl | h
    · exact chars_ne_nil t
    · exact charsOf_ne_nil ts piece h

theorem components_tuple (items : List ArgType) : components (chars (.tuple items)) = charsOf items :=
  components_eq (passes_charsOf items (Int.le_refl 0)) (charsOf_ne_nil items)
    (fun _ h => absurd h List.not_mem_nil)

theorem ofChars_sized {name : List Char} (hname : ∀ c ∈ name, c ≠ ']' ∧ c ≠ '(')
    (hhead : ∀ digits, name ++ digits ≠ "address".toList) (n : Nat) :
    Shape.ofChars (name ++ n.repr.toList) = .other := by
  refine Shape.ofChars_other (fun c hc => ?_) (hhead _)
  rcases List.mem_append.1 hc with hc | hc
  · exact hname c hc
  · exact ⟨plain_repr n (by decide) c hc, plain_repr n (by decide) c hc⟩

mutual

theorem ofChars_chars : ∀ t : ArgType, Shape.ofChars t.chars = t.shape
  | .uint bits => ofChars_sized (by decide) (fun _ h => by simpa using congrArg List.head? h) bits
  | .int bits => ofChars_sized (by decide) (fun _ h => by simpa using congrArg List.head? h) bits
  | .address => by
    have hlast : (chars .address).getLast? ≠ some ']' := by decide
    have hopen : (chars .address).head? ≠ some '(' := by decide
    rw [Shape.ofChars, dif_neg hlast, dif_neg hopen, if_pos (by decide)]
    rfl
  | .bool => Shape.ofChars_other (by decide) (by decide)
  | .fixedBytes size =>
    ofChars_sized (by decide) (fun _ h => by simpa using congrArg List.head? h) size
  | .function => Shape.ofChars_other (by decide) (by decide)
  | .bytes => Shape.ofChars_other (by decide) (by decide)
  | .string => Shape.ofChars_other (by decide) (by decide)
  | .array item length => by
    have hlast : (chars (.array item length)).getLast? = some ']' := by
      rw [chars, ← List.cons_append, ← List.append_assoc]
      exact List.getLast?_concat
    have htail : ∀ c ∈ length.repr.toList ++ [']'], c ≠ '[' := by
      intro c hc
      rcases List.mem_append.1 hc with hc | hc
      · exact plain_repr length (by decide) c hc
      · rw [List.mem_singleton.1 hc]
        decide
    have hshape : Shape.ofChars (chars (.array item length)) = .listOf (Shape.ofChars item.chars) :=
      Shape.ofChars_list item.chars rfl hlast htail
    rw [hshape, ofChars_chars item]
    rfl
  | .sequence item => by
    have hlast : (chars (.sequence item)).getLast? = some ']' := by
      have hsplit : chars (.sequence item) = (item.chars ++ ['[']) ++ [']'] := by
        rw [chars, List.append_assoc]
        rfl
      rw [hsplit]
      exact List.getLast?_concat
    have hshape : Shape.ofChars (chars (.sequence item)) = .listOf (Shape.ofChars item.chars) :=
      Shape.ofChars_list item.chars rfl hlast (by decide)
    rw [hshape, ofChars_chars item]
    rfl
  | .tuple items => by
    have hlast : (chars (.tuple items)).getLast? ≠ some ']' := by
      rw [chars, ← List.cons_append, List.getLast?_concat]
      decide
    rw [Shape.ofChars_tuple rfl hlast, components_tuple, ofChars_charsOf items]
    rfl

theorem ofChars_charsOf : ∀ ts : List ArgType, (charsOf ts).map Shape.ofChars = shapesOf ts
  | [] => rfl
  | t :: ts => by
    rw [charsOf, List.map_cons, ofChars_chars t, ofChars_charsOf ts]
    rfl

end

/-- The shape of the text of a type is that of the type. -/
theorem ofText_shape (t : ArgType) : Shape.ofText t.text = t.shape := by
  rw [Shape.ofText, text, String.toList_ofList, ofChars_chars]

end ArgType

end Chronicle
