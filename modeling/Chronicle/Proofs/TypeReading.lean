/- # Reading the text of a type

A type expression is read back from its text: the names, sizes and dimensions
are runs of characters that their followers cannot continue, and the fuel of the
reader covers every level and every component of the text.

Key definition: `TypeExpr.WellFormed`.
Key theorem: `TypeExpr.read?_render`.
-/
import Chronicle.Abi.TypeExpr
import Chronicle.Proofs.Runs

namespace Chronicle

namespace TypeExpr

/-! ### Expressions that can be written -/

/-- Numbers of a size are positive. -/
def HasPositiveSize : Option SizeText → Prop
  | none => True
  | some (.one n) => 0 < n
  | some (.two m n) => 0 < m ∧ 0 < n

/-- Lengths of dimensions are positive. -/
def HasPositiveLengths (dimensions : List Dimension) : Prop :=
  ∀ n, some n ∈ dimensions → 0 < n

mutual

/-- The name is made of letters, a tuple has components, and all numbers are positive. -/
def WellFormed : TypeExpr → Prop
  | .named base size dimensions =>
    base.toList ≠ [] ∧ (∀ c ∈ base.toList, c.isAlpha = true) ∧ HasPositiveSize size ∧
      HasPositiveLengths dimensions
  | .tuple parts dimensions =>
    parts ≠ [] ∧ AllWellFormed parts ∧ HasPositiveLengths dimensions

/-- All expressions are well formed. -/
def AllWellFormed : List TypeExpr → Prop
  | [] => True
  | e :: es => WellFormed e ∧ AllWellFormed es

end

/-! ### Numbers, sizes and dimensions -/

theorem readNumber?_repr {n : Nat} (hn : 0 < n) {rest : List Char}
    (hr : StopsAt Char.isDigit rest) : readNumber? (n.repr.toList ++ rest) = some (n, rest) := by
  unfold readNumber?
  rw [Nat.toList_repr, takeWhile_append_of_stopsAt isDigit_of_mem_toDigits hr,
    dropWhile_append_of_stopsAt isDigit_of_mem_toDigits hr]
  split
  · next hnil => exact absurd hnil Nat.toDigits_ne_nil
  · next hzero => exact absurd (by rw [hzero]; rfl) (head?_toDigits_ne_zero hn)
  · rw [foldl_toDigits]

theorem readNumber?_eq_none {rest : List Char} (hr : StopsAt Char.isDigit rest) :
    readNumber? rest = none := by
  unfold readNumber?
  rw [takeWhile_of_stopsAt hr]

/-- A size is read back, and no size where none is written, if what follows is no digit and no
`x`. -/
theorem readSize_render {size : Option SizeText} (hs : HasPositiveSize size) {rest : List Char}
    (hdigit : StopsAt Char.isDigit rest) (hx : StopsAt (· == 'x') rest) :
    readSize (size.elim [] renderSize ++ rest) = (size, rest) := by
  unfold readSize
  match size with
  | none => rw [Option.elim_none, List.nil_append, readNumber?_eq_none hdigit]
  | some (.one n) =>
    rw [Option.elim_some, renderSize, readNumber?_repr hs hdigit]
    split
    · next h => cases h
    · next h =>
      cases h
      exact absurd (hx 'x' rfl) (by decide)
    · next h => cases h; rfl
  | some (.two m n) =>
    have hmark : StopsAt Char.isDigit ('x' :: (n.repr.toList ++ rest)) := stopsAt_cons (by decide) _
    rw [Option.elim_some, renderSize, List.append_assoc, List.cons_append,
      readNumber?_repr hs.1 hmark]
    simp only [readNumber?_repr hs.2 hdigit]

theorem renderDimension_eq_cons (d : Dimension) : ∃ tail, renderDimension d = '[' :: tail := by
  cases d <;> exact ⟨_, rfl⟩

theorem readDimension?_render {d : Dimension} (hd : ∀ n, d = some n → 0 < n) (rest : List Char) :
    readDimension? (renderDimension d ++ rest) = some (d, rest) := by
  match d with
  | none => rfl
  | some n =>
    have hstop : StopsAt Char.isDigit (']' :: rest) := stopsAt_cons (by decide) _
    have hread := readNumber?_repr (hd n rfl) hstop
    have hopen : renderDimension (some n) ++ rest = '[' :: (n.repr.toList ++ ']' :: rest) := by
      simp [renderDimension]
    rw [hopen]
    unfold readDimension?
    split
    · next heq =>
      -- A number does not start with the bracket that closes the dimension.
      have hhead : (Nat.toDigits 10 n).head? = some ']' := by
        have := congrArg List.head? (List.cons.inj heq).2
        cases hdigits : Nat.toDigits 10 n with
        | nil => exact absurd hdigits Nat.toDigits_ne_nil
        | cons c cs => simpa [hdigits] using this
      have hdigit := isDigit_of_mem_toDigits _ (List.mem_of_mem_head? hhead)
      exact absurd hdigit (by decide)
    · next heq =>
      rw [← (List.cons.inj heq).2, hread]
      rfl
    · next hne => exact absurd rfl (hne _)

theorem readDimension?_eq_none {rest : List Char} (hr : StopsAt (· == '[') rest) :
    readDimension? rest = none := by
  unfold readDimension?
  split
  · exact absurd (hr '[' rfl) (by decide)
  · exact absurd (hr '[' rfl) (by decide)
  · rfl

/-- Dimensions are read back if no further one follows. -/
theorem readDimensions_render : ∀ {dimensions : List Dimension} {fuel : Nat} {rest : List Char},
    HasPositiveLengths dimensions → dimensions.length ≤ fuel → StopsAt (· == '[') rest →
      readDimensions fuel (dimensions.flatMap renderDimension ++ rest) = (dimensions, rest)
  | [], 0, _, _, _, _ => rfl
  | [], fuel + 1, rest, _, _, hr => by
    rw [List.flatMap_nil, List.nil_append, readDimensions, readDimension?_eq_none hr]
  | d :: dimensions, fuel + 1, rest, hd, hf, hr => by
    have hfirst : ∀ n, d = some n → 0 < n := fun n h => hd n (by simp [h])
    have hrest : HasPositiveLengths dimensions := fun n h => hd n (List.mem_cons_of_mem _ h)
    have ih := readDimensions_render hrest (Nat.le_of_succ_le_succ hf) hr
    rw [List.flatMap_cons, List.append_assoc, readDimensions, readDimension?_render hfirst]
    simp only [ih]

theorem length_le_length_flatMap_renderDimension : ∀ dimensions : List Dimension,
    dimensions.length ≤ (dimensions.flatMap renderDimension).length
  | [] => Nat.le_refl 0
  | d :: dimensions => by
    obtain ⟨tail, htail⟩ := renderDimension_eq_cons d
    have ih := length_le_length_flatMap_renderDimension dimensions
    rw [List.flatMap_cons, List.length_append, htail, List.length_cons, List.length_cons]
    omega

/-- The reader allows as many dimensions as there are characters left. -/
theorem readDimensions_all {dimensions : List Dimension} {rest : List Char}
    (hd : HasPositiveLengths dimensions) (hr : StopsAt (· == '[') rest) :
    readDimensions (dimensions.flatMap renderDimension ++ rest).length
      (dimensions.flatMap renderDimension ++ rest) = (dimensions, rest) := by
  have hlength := length_le_length_flatMap_renderDimension dimensions
  exact readDimensions_render hd (by rw [List.length_append]; omega) hr

theorem stopsAt_dimensions {p : Char → Bool} (hopen : p '[' = false) (dimensions : List Dimension)
    {rest : List Char} (hr : StopsAt p rest) :
    StopsAt p (dimensions.flatMap renderDimension ++ rest) := by
  cases dimensions with
  | nil => exact hr
  | cons d dimensions =>
    obtain ⟨tail, htail⟩ := renderDimension_eq_cons d
    rw [List.flatMap_cons, htail]
    exact stopsAt_cons hopen _

/-! ### Expressions -/

/-- The text is at its end, or at the comma or the parenthesis behind a component. -/
def EndsComponent (rest : List Char) : Prop := ∀ c ∈ rest.head?, c = ',' ∨ c = ')'

theorem EndsComponent.stopsAt {rest : List Char} (hr : EndsComponent rest) {p : Char → Bool}
    (hcomma : p ',' = false) (hclose : p ')' = false) : StopsAt p rest := by
  intro c hc
  rcases hr c hc with rfl | rfl
  · exact hcomma
  · exact hclose

theorem stopsAt_size {size : Option SizeText} {rest : List Char} (hr : StopsAt Char.isAlpha rest) :
    StopsAt Char.isAlpha (size.elim [] renderSize ++ rest) := by
  have hnumber : ∀ (n : Nat) (more : List Char),
      StopsAt Char.isAlpha (n.repr.toList ++ more) := by
    intro n more
    rw [Nat.toList_repr]
    cases hdigits : Nat.toDigits 10 n with
    | nil => exact absurd hdigits Nat.toDigits_ne_nil
    | cons c cs =>
      have hc : c.isDigit = true := isDigit_of_mem_toDigits (n := n) c (by simp [hdigits])
      exact stopsAt_cons (isAlpha_eq_false_of_isDigit hc) _
  match size with
  | none => exact hr
  | some (.one n) => exact hnumber n rest
  | some (.two m n) =>
    rw [Option.elim_some, renderSize, List.append_assoc]
    exact hnumber m _

theorem render_ne_nil {e : TypeExpr} (he : e.WellFormed) : render e ≠ [] := by
  cases e with
  | named base size dimensions =>
    rw [render, List.append_assoc]
    exact List.append_ne_nil_of_left_ne_nil he.1 _
  | tuple parts dimensions => exact List.cons_ne_nil _ _

mutual

/-- The reader of an expression stops right behind it. -/
theorem readExpr_render : ∀ {e : TypeExpr} {fuel : Nat} {rest : List Char}, e.WellFormed →
    (render e).length ≤ fuel → EndsComponent rest →
      readExpr fuel (render e ++ rest) = some (e, rest)
  | e, 0, _, he, hf, _ => absurd (List.length_eq_zero_iff.1 (Nat.le_zero.1 hf)) (render_ne_nil he)
  | .named base size dimensions, fuel + 1, rest, ⟨hne, halpha, hs, hd⟩, _, hr => by
    have hdigit := stopsAt_dimensions (by decide) dimensions
      (hr.stopsAt (p := Char.isDigit) (by decide) (by decide))
    have hx := stopsAt_dimensions (by decide) dimensions
      (hr.stopsAt (p := (· == 'x')) (by decide) (by decide))
    have hletter : StopsAt Char.isAlpha
        (size.elim [] renderSize ++ (dimensions.flatMap renderDimension ++ rest)) :=
      stopsAt_size (stopsAt_dimensions (by decide) dimensions (hr.stopsAt (by decide) (by decide)))
    have hdimensions := readDimensions_all hd (hr.stopsAt (p := (· == '[')) (by decide) (by decide))
    have htext : render (.named base size dimensions) ++ rest =
        base.toList ++ (size.elim [] renderSize ++ (dimensions.flatMap renderDimension ++ rest)) := by
      simp [render]
    rw [htext, readExpr]
    · rw [takeWhile_append_of_stopsAt halpha hletter, dropWhile_append_of_stopsAt halpha hletter]
      simp only [readSize_render hs hdigit hx, hdimensions, String.ofList_toList]
    · -- A name starts with a letter and not with a parenthesis.
      intro more hopen
      cases hbase : base.toList with
      | nil => exact hne hbase
      | cons c cs =>
        rw [hbase] at hopen
        have hc := halpha c (by simp [hbase])
        rw [(List.cons.inj hopen).1] at hc
        exact absurd hc (by decide)
  | .tuple parts dimensions, fuel + 1, rest, ⟨hparts, hall, hd⟩, hf, hr => by
    have hlength : (renderParts parts).length < fuel := by
      simp only [render, List.length_cons, List.length_append] at hf
      omega
    have hread : readParts fuel
        (renderParts parts ++ ')' :: (dimensions.flatMap renderDimension ++ rest)) =
          some (parts, dimensions.flatMap renderDimension ++ rest) :=
      readParts_render hparts hall hlength
    have hdimensions := readDimensions_all hd (hr.stopsAt (p := (· == '[')) (by decide) (by decide))
    have htext : render (.tuple parts dimensions) ++ rest =
        '(' :: (renderParts parts ++ ')' :: (dimensions.flatMap renderDimension ++ rest)) := by
      simp [render]
    rw [htext, readExpr]
    simp only [hread, hdimensions, Option.bind_eq_bind, Option.bind_some]

/-- The reader of components stops behind the closing parenthesis. -/
theorem readParts_render : ∀ {es : List TypeExpr} {fuel : Nat} {rest : List Char},
    es ≠ [] → AllWellFormed es → (renderParts es).length < fuel →
      readParts fuel (renderParts es ++ ')' :: rest) = some (es, rest)
  | [], _, _, hne, _, _ => absurd rfl hne
  | [e], fuel + 1, rest, _, he, hf => by
    have hread : readExpr fuel (render e ++ ')' :: rest) = some (e, ')' :: rest) :=
      readExpr_render he.1 (Nat.le_of_lt_succ hf) (by simp [EndsComponent])
    rw [renderParts, readParts]
    simp only [hread, Option.bind_eq_bind, Option.bind_some]
  | e :: e' :: es, fuel + 1, rest, _, he, hf => by
    have htext : renderParts (e :: e' :: es) = render e ++ ',' :: renderParts (e' :: es) := rfl
    have hlength : (render e).length ≤ fuel ∧ (renderParts (e' :: es)).length < fuel := by
      rw [htext, List.length_append, List.length_cons] at hf
      omega
    have hfirst : readExpr fuel (render e ++ ',' :: (renderParts (e' :: es) ++ ')' :: rest)) =
        some (e, ',' :: (renderParts (e' :: es) ++ ')' :: rest)) :=
      readExpr_render he.1 hlength.1 (by simp [EndsComponent])
    have hrest : readParts fuel (renderParts (e' :: es) ++ ')' :: rest) = some (e' :: es, rest) :=
      readParts_render (List.cons_ne_nil e' es) he.2 hlength.2
    rw [htext, List.append_assoc, List.cons_append, readParts]
    simp only [hfirst, hrest, Option.bind_eq_bind, Option.bind_some]

end

/-- An expression is read back from its text. -/
theorem read?_render {e : TypeExpr} (he : e.WellFormed) : read? (render e) = some e := by
  have hread : readExpr ((render e).length + 1) (render e ++ []) = some (e, []) :=
    readExpr_render he (Nat.le_succ _) (by simp [EndsComponent])
  rw [List.append_nil] at hread
  rw [read?, hread]

end TypeExpr

end Chronicle
