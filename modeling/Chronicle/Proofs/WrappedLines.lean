/-
# How lists are wrapped into lines

Each line holds items in quotes, with commas between them and a comma and a space
at the end. The test for one more item counts its characters and one more, but
the item brings two quotes; so lines are filled as far as one character beyond
the width, and a line ends only where the next item would go further than that.
The first item is tested like the others, so that one that is too long by itself
leaves an empty line before it.

Key definitions: `Text.quotedList`, `Text.lineOf`, `Text.groups`, `Text.LaidOut`.
Key theorems: `Text.wrapped_eq`, `Text.flatten_groups`, `Text.isChain_groupsFrom`,
`Text.wrapped_laidOut`, `Text.wrapped_overlong`.
-/
import Chronicle.Text.Shown
import Mathlib.Tactic.Common

namespace Chronicle.Text

/-- The items in quotes, with commas between them. -/
def quotedList (items : List String) : String :=
  ", ".intercalate (items.map fun item => "'" ++ item ++ "'")

/-- The line that holds the items. -/
def lineOf (items : List String) : String := String.join (items.map quotedItem)

/-- The items of each line, where `group` holds those of the line begun so far. -/
def groupsFrom (width : Int) (group : List String) : List String → List (List String)
  | [] => [group]
  | item :: items =>
    if width < (lineOf group).length + item.length + 1 then group :: groupsFrom width [item] items
    else groupsFrom width (group ++ [item]) items

/-- The items of each line. -/
def groups (items : List String) (width : Int) : List (List String) := groupsFrom width [] items

/-! ### Lines -/

theorem length_quotedItem (item : String) : (quotedItem item).length = item.length + 4 := by
  have hopen : "'".length = 1 := rfl
  have hclose : "', ".length = 3 := rfl
  simp only [quotedItem, String.length_append]
  omega

theorem lineOf_concat (group : List String) (item : String) :
    lineOf (group ++ [item]) = lineOf group ++ quotedItem item := by
  simp [lineOf]

/-- A line with items is the list of them, and a comma and a space. -/
theorem lineOf_eq {group : List String} (h : group ≠ []) :
    lineOf group = quotedList group ++ ", " := by
  induction group with
  | nil => exact absurd rfl h
  | cons item items ih =>
    cases items with
    | nil => simp [lineOf, quotedList, quotedItem, String.append_assoc]
    | cons next items =>
      have hrest := ih (List.cons_ne_nil next items)
      have hline : lineOf (item :: next :: items) = quotedItem item ++ lineOf (next :: items) := by
        simp [lineOf]
      rw [hline, hrest]
      simp [quotedList, quotedItem, String.append_assoc]

theorem lineOf_eq_empty_iff {group : List String} : lineOf group = "" ↔ group = [] := by
  constructor
  · intro h
    by_contra hne
    have hlength := congrArg String.length h
    rw [lineOf_eq hne] at hlength
    simp at hlength
  · rintro rfl
    rfl

/-- How long a list is with one more item, by the count of the test. -/
theorem length_quotedList_concat (group : List String) (item : String) :
    (quotedList (group ++ [item])).length = (lineOf group).length + item.length + 2 := by
  have hne : group ++ [item] ≠ [] := by simp
  have hline := congrArg String.length (lineOf_eq hne)
  rw [lineOf_concat, String.length_append, String.length_append, length_quotedItem] at hline
  have hend : ", ".length = 2 := rfl
  omega

/-! ### Groups -/

section

variable (width : Int)

theorem wrappedFrom_eq (items : List String) : ∀ group : List String,
    wrappedFrom width (lineOf group) items = (groupsFrom width group items).map lineOf := by
  induction items with
  | nil => intro group; rfl
  | cons item items ih =>
    intro group
    have hsingle : quotedItem item = lineOf [item] := by simp [lineOf]
    unfold wrappedFrom groupsFrom
    by_cases hbreak : width < (lineOf group).length + item.length + 1
    · rw [if_pos hbreak, if_pos hbreak, List.map_cons, hsingle, ih]
    · rw [if_neg hbreak, if_neg hbreak, ← lineOf_concat, ih]

theorem flatten_groupsFrom (items : List String) : ∀ group : List String,
    (groupsFrom width group items).flatten = group ++ items := by
  induction items with
  | nil => intro group; simp [groupsFrom]
  | cons item items ih =>
    intro group
    unfold groupsFrom
    by_cases hbreak : width < (lineOf group).length + item.length + 1
    · rw [if_pos hbreak, List.flatten_cons, ih, List.singleton_append]
    · rw [if_neg hbreak, ih, List.append_assoc, List.singleton_append]

/-- The first line holds what it held before, and perhaps more. -/
theorem exists_groupsFrom_eq_cons (items group : List String) :
    ∃ more rest, groupsFrom width group items = (group ++ more) :: rest := by
  induction items generalizing group with
  | nil => exact ⟨[], [], by simp [groupsFrom]⟩
  | cons item items ih =>
    unfold groupsFrom
    by_cases hbreak : width < (lineOf group).length + item.length + 1
    · rw [if_pos hbreak]
      exact ⟨[], groupsFrom width [item] items, by simp⟩
    · rw [if_neg hbreak]
      obtain ⟨more, rest, hrest⟩ := ih (group ++ [item])
      exact ⟨item :: more, rest, by simp [hrest]⟩

/-- The group fits into the width and one character more, if it holds several items. -/
def Fits (group : List String) : Prop :=
  2 ≤ group.length → (quotedList group).length ≤ width + 1

/-- The next line begins with an item that had no place in the one before. -/
def Overflows (group next : List String) : Prop :=
  ∃ item ∈ next.head?, width + 1 < (quotedList (group ++ [item])).length

variable {width}

/-- If the line begun so far fits, all lines do. -/
theorem fits_groupsFrom (items group : List String) (hgroup : Fits width group) :
    ∀ line ∈ groupsFrom width group items, Fits width line := by
  induction items generalizing group with
  | nil => simpa [groupsFrom] using hgroup
  | cons item items ih =>
    have hsingle : Fits width [item] := fun hlength => absurd hlength (by simp)
    unfold groupsFrom
    by_cases hbreak : width < (lineOf group).length + item.length + 1
    · rw [if_pos hbreak]
      exact List.forall_mem_cons.2 ⟨hgroup, ih [item] hsingle⟩
    · rw [if_neg hbreak]
      apply ih
      intro _
      rw [length_quotedList_concat]
      omega

/-- Each line that ends does so before an item that had no place in it. -/
theorem isChain_groupsFrom (items group : List String) :
    (groupsFrom width group items).IsChain (Overflows width) := by
  induction items generalizing group with
  | nil => simp [groupsFrom]
  | cons item items ih =>
    unfold groupsFrom
    by_cases hbreak : width < (lineOf group).length + item.length + 1
    · rw [if_pos hbreak]
      obtain ⟨more, rest, hrest⟩ := exists_groupsFrom_eq_cons width items [item]
      have hnext : Overflows width group ([item] ++ more) := by
        refine ⟨item, by simp, ?_⟩
        rw [length_quotedList_concat]
        omega
      have hchain := ih [item]
      rw [hrest] at hchain ⊢
      exact List.isChain_cons_cons.2 ⟨hnext, hchain⟩
    · rw [if_neg hbreak]
      exact ih _

theorem ne_nil_of_mem_groupsFrom (items : List String) {group : List String} (hgroup : group ≠ []) :
    ∀ line ∈ groupsFrom width group items, line ≠ [] := by
  induction items generalizing group with
  | nil => simpa [groupsFrom] using hgroup
  | cons item items ih =>
    unfold groupsFrom
    by_cases hbreak : width < (lineOf group).length + item.length + 1
    · rw [if_pos hbreak]
      exact List.forall_mem_cons.2 ⟨hgroup, ih (List.cons_ne_nil item [])⟩
    · rw [if_neg hbreak]
      exact ih (by simp)

end

/-! ### The whole list -/

/-- How items are laid out in lines of about `width` characters. -/
structure LaidOut (items : List String) (width : Int) : Prop where
  /-- Each line holds a group of items. -/
  lines : wrapped items width = (groups items width).map lineOf
  /-- A line with items is the list of them in quotes, and a comma and a space. -/
  ended : ∀ group ∈ groups items width, group ≠ [] → lineOf group = quotedList group ++ ", "
  /-- The groups are the items in order. -/
  complete : (groups items width).flatten = items
  /-- A line with several items is one character too long at most. -/
  fits : ∀ group ∈ groups items width, Fits width group
  /-- It is too long exactly if its last item was counted up to the last character of the width. -/
  exceeds : ∀ group last, group ≠ [] → group ++ [last] ∈ groups items width →
    (width < (quotedList (group ++ [last])).length ↔
      (lineOf group).length + last.length + 1 = width)
  /-- A line ends only where the next item would go further than one character too far. -/
  full : (groups items width).IsChain (Overflows width)
  /-- There is an empty line if there are no items, or if the first one is too long. -/
  blank : "" ∈ wrapped items width ↔ items = [] ∨ ∃ item ∈ items.head?, width ≤ item.length
  /-- Only the first line can be empty. -/
  first : ∀ line ∈ (wrapped items width).tail, line ≠ ""

section

variable (items : List String) (width : Int)

theorem wrapped_eq : wrapped items width = (groups items width).map lineOf :=
  wrappedFrom_eq width items []

theorem flatten_groups : (groups items width).flatten = items :=
  flatten_groupsFrom width items []

theorem fits_groups : ∀ group ∈ groups items width, Fits width group :=
  fits_groupsFrom items [] fun hlength => absurd hlength (by simp)

/-- What is behind the first line, and whether this is empty. -/
theorem groups_cons (item : String) : groups (item :: items) width =
    if width ≤ item.length then [] :: groupsFrom width [item] items
    else groupsFrom width [item] items := by
  have htest : width < (lineOf []).length + item.length + 1 ↔ width ≤ item.length := by
    have hempty : (lineOf []).length = 0 := rfl
    rw [hempty]
    omega
  simp only [groups, groupsFrom, htest, List.nil_append]

/-- Joined, the lines are the items in quotes, each followed by a comma and a space. -/
theorem join_wrapped : String.join (wrapped items width) = String.join (items.map quotedItem) := by
  have hjoin : ∀ groups : List (List String),
      String.join (groups.map lineOf) = String.join (groups.flatten.map quotedItem) := by
    intro groups
    induction groups with
    | nil => rfl
    | cons group rest ih => simp [ih, lineOf]
  rw [wrapped_eq, hjoin, flatten_groups]

theorem empty_mem_wrapped_iff :
    "" ∈ wrapped items width ↔ items = [] ∨ ∃ item ∈ items.head?, width ≤ item.length := by
  have hgroup : "" ∈ wrapped items width ↔ [] ∈ groups items width := by
    simp [wrapped_eq, lineOf_eq_empty_iff]
  rw [hgroup]
  cases items with
  | nil => simp [groups, groupsFrom]
  | cons item items =>
    have hrest : [] ∉ groupsFrom width [item] items := fun hmem =>
      ne_nil_of_mem_groupsFrom items (List.cons_ne_nil item []) [] hmem rfl
    rw [groups_cons]
    by_cases hlong : width ≤ item.length
    · simp [hlong]
    · simp [hlong, hrest]

theorem ne_empty_of_mem_tail_wrapped : ∀ line ∈ (wrapped items width).tail, line ≠ "" := by
  intro line hline
  rw [wrapped_eq, ← List.map_tail] at hline
  obtain ⟨group, hgroup, rfl⟩ := List.mem_map.1 hline
  rw [Ne, lineOf_eq_empty_iff]
  cases items with
  | nil => simp [groups, groupsFrom] at hgroup
  | cons item items =>
    have hmem : group ∈ groupsFrom width [item] items := by
      rw [groups_cons] at hgroup
      by_cases hlong : width ≤ item.length
      · rwa [if_pos hlong] at hgroup
      · rw [if_neg hlong] at hgroup
        exact List.mem_of_mem_tail hgroup
    exact ne_nil_of_mem_groupsFrom items (List.cons_ne_nil item []) group hmem

/-- Lines are filled in order as far as one character beyond the width, and no line but the first
is empty. -/
theorem wrapped_laidOut : LaidOut items width where
  lines := wrapped_eq items width
  ended _ _ hgroup := lineOf_eq hgroup
  complete := flatten_groups items width
  fits := fits_groups items width
  exceeds group last hgroup hmem := by
    have hfits := fits_groups items width _ hmem (by
      have hpos := List.length_pos_iff.2 hgroup
      simp only [List.length_append, List.length_singleton]
      omega)
    rw [length_quotedList_concat] at hfits ⊢
    omega
  full := isChain_groupsFrom items []
  blank := empty_mem_wrapped_iff items width
  first := ne_empty_of_mem_tail_wrapped items width

end

/-- Of seven characters, the second line has one too many, and the first line has none. -/
theorem wrapped_overlong :
    wrapped ["abcdefg", "a", "b"] 7 = ["", "'abcdefg', ", "'a', 'b', "] ∧
      (¬ ∀ (items : List String) (width : Int), ∀ group ∈ groups items width, 2 ≤ group.length →
        (quotedList group).length ≤ width) ∧
      ¬ ∀ (items : List String) (width : Int), "" ∈ wrapped items width → items = [] := by
  have hlines : wrapped ["abcdefg", "a", "b"] 7 = ["", "'abcdefg', ", "'a', 'b', "] := by decide
  refine ⟨hlines, fun hfits => ?_, fun hblank => ?_⟩
  · have hlength := hfits ["abcdefg", "a", "b"] 7 ["a", "b"] (by decide) (by decide)
    exact absurd hlength (by decide)
  · have hempty : "" ∈ wrapped ["abcdefg", "a", "b"] 7 := by simp [hlines]
    exact absurd (hblank _ _ hempty) (List.cons_ne_nil _ _)

end Chronicle.Text
