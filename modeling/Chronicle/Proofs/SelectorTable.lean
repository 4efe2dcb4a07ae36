/-
# What the table of a registry lists

The table has a row for each family with a function that can be reached. The row
holds the functions of its family in the order of their texts, each whole on one
line, and the interfaces they were taken from in the order of registration. As the
families divide the functions among them, and no two functions have one selector,
every selector that reaches a function is in the table once, with that function,
and no other selector is there. So a function that is shadowed has no place of
its own.

Key definitions: `Registry.listings`, `Registry.items`, `Registry.shows`,
`TableRow.Tells`, `Registry.Tabulates`.
Key theorems: `pairwise_idxOf_eraseDups`, `Registry.perm_items`,
`Registry.entries_filter_selector`, `Registry.items_filter_shows`,
`Registry.tabulates_of_build`.
-/
import Chronicle.Proofs.Precedence
import Chronicle.Proofs.WrappedLines
import Chronicle.Registry.Table
import Mathlib.Data.List.Induction
import Mathlib.Data.List.Nodup

namespace Chronicle

/-! ### Names in the order in which they come -/

/-- Without repetitions, names stand in the order in which they came first. -/
theorem pairwise_idxOf_eraseDups (names : List String) :
    names.eraseDups.Pairwise fun a b => names.idxOf a < names.idxOf b := by
  induction names using List.reverseRecOn with
  | nil => simp
  | append_singleton names name ih =>
    have hold : ∀ a ∈ names.eraseDups, (names ++ [name]).idxOf a = names.idxOf a :=
      fun a ha => List.idxOf_append_of_mem (List.mem_eraseDups.1 ha)
    rw [List.eraseDups_append, List.pairwise_append]
    refine ⟨ih.imp_of_mem fun ha hb hlt => ?_, ?_, fun a ha b hb => ?_⟩
    · rwa [hold _ ha, hold _ hb]
    · by_cases hmem : name ∈ names
      · simp [List.removeAll, hmem]
      · simp [List.removeAll, hmem, List.eraseDups_cons]
    · obtain ⟨rfl, hmem⟩ : b = name ∧ b ∉ names := by
        simpa [List.removeAll, List.mem_eraseDups] using hb
      rw [hold a ha, List.idxOf_append_of_notMem hmem]
      have hlt := List.idxOf_lt_length_iff.2 (List.mem_eraseDups.1 ha)
      omega

/-- What makes no part of the whole can be left out before. -/
theorem flatMap_filter_of_nil {α β : Type} {p : α → Bool} {f : α → List β} {l : List α}
    (h : ∀ a ∈ l, p a = false → f a = []) : (l.filter p).flatMap f = l.flatMap f := by
  induction l with
  | nil => rfl
  | cons a l ih =>
    obtain ⟨ha, hl⟩ := List.forall_mem_cons.1 h
    by_cases hp : p a = true
    · rw [List.filter_cons_of_pos hp, List.flatMap_cons, List.flatMap_cons, ih hl]
    · rw [List.filter_cons_of_neg hp, List.flatMap_cons, ha (by simpa using hp), ih hl]
      rfl

/-! ### Rows -/

namespace Registry

/-- The functions of a family as they are listed, in the order of their texts. -/
def listings (registry : Registry) (full : Bool) (family : Family) : List String :=
  ((registry.entriesFor family).map (listing full)).mergeSort (· ≤ ·)

/-- The items of all rows of the table, one row after another. -/
def items (registry : Registry) (full : Bool) (columns : Int) : List String :=
  (registry.rows full columns).flatMap fun row => registry.listings full row.family

/-- Whether an item ends with the text of a selector. -/
def shows (selector : Bytes) (item : String) : Bool :=
  (Hex.marked selector).toList.isSuffixOf item.toList

end Registry

/-- What a row of the table of a registry tells about the functions of its family. -/
structure TableRow.Tells (row : TableRow) (registry : Registry) (full : Bool) (width : Int) :
    Prop where
  cells : row.cells =
    [row.family.name, ", ".intercalate row.interfaces, "\n".intercalate row.lines]
  /-- The interfaces are those that a function was taken from. -/
  interfaces : ∀ name, name ∈ row.interfaces ↔
    ∃ entry ∈ registry.entries, entry.family = row.family ∧ entry.interface = name
  /-- Each of them is there once, in the order of registration. -/
  order : row.interfaces.Nodup ∧ row.interfaces.Pairwise fun a b =>
    ((registry.entriesFor row.family).map (·.interface)).idxOf a <
      ((registry.entriesFor row.family).map (·.interface)).idxOf b
  /-- The items are the functions of the family. -/
  functions : (registry.listings full row.family).Perm
    ((registry.entries.filter (·.family = row.family)).map (Registry.listing full))
  sorted : (registry.listings full row.family).Pairwise (· ≤ ·)
  /-- Joined, the lines are the items in quotes, each followed by a comma and a space. -/
  joined : String.join row.lines =
    String.join ((registry.listings full row.family).map fun item => "'" ++ item ++ "', ")
  /-- Each line holds whole items. -/
  whole : row.lines = (Text.groups (registry.listings full row.family) width).map Text.lineOf ∧
    (Text.groups (registry.listings full row.family) width).flatten =
      registry.listings full row.family

namespace Registry

section

variable (registry : Registry) (full : Bool) (columns : Int)

theorem perm_listings (family : Family) : (registry.listings full family).Perm
    ((registry.entriesFor family).map (listing full)) := List.mergeSort_perm _ _

theorem sorted_listings (family : Family) :
    (registry.listings full family).Pairwise (· ≤ ·) := by
  have htrans : ∀ a b c : String, decide (a ≤ b) = true → decide (b ≤ c) = true →
      decide (a ≤ c) = true := by
    intro a b c hab hbc
    rw [decide_eq_true_eq] at *
    exact String.le_trans hab hbc
  have htotal : ∀ a b : String, (decide (a ≤ b) || decide (b ≤ a)) = true := by
    intro a b
    simpa using String.le_total a b
  have hsorted := List.pairwise_mergeSort htrans htotal
    ((registry.entriesFor family).map (listing full))
  exact hsorted.imp fun h => of_decide_eq_true h

theorem row_tells (family : Family) :
    (registry.row full columns family).Tells registry full (listingWidth columns) where
  cells := rfl
  interfaces name := by simp [row, entriesFor, List.mem_eraseDups, and_assoc]
  order := by
    have horder := pairwise_idxOf_eraseDups ((registry.entriesFor family).map (·.interface))
    refine ⟨horder.imp fun hlt hsame => ?_, horder⟩
    rw [hsame] at hlt
    exact Nat.lt_irrefl _ hlt
  functions := registry.perm_listings full family
  sorted := registry.sorted_listings full family
  joined := Text.join_wrapped _ _
  whole := ⟨Text.wrapped_eq _ _, Text.flatten_groups _ _⟩

theorem isEmpty_entriesFor (family : Family) :
    (!(registry.entriesFor family).isEmpty) = registry.entries.any (·.family = family) := by
  rw [entriesFor, Bool.eq_iff_iff]
  simp

theorem family_of_rows : (registry.rows full columns).map (·.family) =
    Family.all.filter fun family => registry.entries.any (·.family = family) := by
  rw [rows, List.map_map]
  simp only [isEmpty_entriesFor]
  exact List.map_id _

/-- The items are all functions that can be reached. -/
theorem perm_items : (registry.items full columns).Perm (registry.entries.map (listing full)) := by
  have hrows : registry.items full columns = Family.all.flatMap (registry.listings full) := by
    rw [items, rows, List.flatMap_map]
    apply flatMap_filter_of_nil
    intro family _ hempty
    have hnil : registry.entriesFor family = [] := by simpa using hempty
    simp [row, listings, hnil]
  have hfamilies : (Family.all.flatMap (registry.listings full)).Perm
      ((Family.all.flatMap registry.entriesFor).map (listing full)) := by
    rw [List.map_flatMap]
    exact List.Perm.flatMap_left _ fun family _ => registry.perm_listings full family
  rw [hrows]
  exact hfamilies.trans ((perm_flatMap_entriesFor registry).map _)

end

/-! ### Selectors -/

/-- An item ends with the text of the function's selector, and with that of no other one. -/
theorem shows_listing {entry : Entry} {selector : Bytes} (full : Bool)
    (h : entry.selector.length = selector.length) :
    shows selector (listing full entry) = true ↔ entry.selector = selector := by
  have hitem : (listing full entry).toList =
      (entry.label full ++ " ").toList ++ (Hex.marked entry.selector).toList := by
    simp [listing, Entry.selectorText]
  have hmarked : ∀ bs : Bytes, (Hex.marked bs).toList.length = 2 * bs.length + 2 := by
    intro bs
    simp [Hex.toList_marked, Hex.length_digits]
  rw [shows, List.isSuffixOf_iff_suffix, hitem]
  constructor
  · rintro ⟨before, hbefore⟩
    have hlength :
        (Hex.marked selector).toList.length = (Hex.marked entry.selector).toList.length := by
      rw [hmarked, hmarked, h]
    obtain ⟨-, hsame⟩ := List.append_inj' hbefore hlength
    exact (Hex.marked_injective (String.toList_inj.1 hsame)).symm
  · rintro rfl
    exact List.suffix_append _ _

section

variable {interfaces : List Interface} {registry : Registry}

theorem tells_of_build (h : build interfaces = .ok registry) :
    ∃ functions, registry.Tells functions := by
  obtain ⟨functions, -, rfl⟩ := build_eq_ok_iff.1 h
  exact ⟨functions, Tells.addAll functions Tells.empty⟩

/-- One function at most can be reached by a selector. -/
theorem entries_filter_selector (h : build interfaces = .ok registry) (selector : Bytes) :
    registry.entries.filter (·.selector = selector) = (registry.lookup? selector).toList := by
  obtain ⟨functions, htells⟩ := tells_of_build h
  have hmem : ∀ entry, entry ∈ registry.entries.filter (·.selector = selector) ↔
      registry.lookup? selector = some entry := by
    intro entry
    rw [lookup?_eq_some_iff h, List.mem_filter, decide_eq_true_eq]
  cases hlookup : registry.lookup? selector with
  | none =>
    rw [Option.toList_none, List.eq_nil_iff_forall_not_mem]
    intro entry hentry
    rw [hmem, hlookup] at hentry
    cases hentry
  | some kept =>
    have hnodup : registry.entries.Nodup := List.Nodup.of_map _ htells.nodup_selectors
    apply List.perm_singleton.1
    rw [List.perm_ext_iff_of_nodup (hnodup.filter _) (List.nodup_singleton kept)]
    intro entry
    rw [hmem, hlookup, List.mem_singleton, Option.some_inj, eq_comm]

/-- A selector is in the table once if it reaches a function, with that function, and else not. -/
theorem items_filter_shows (h : build interfaces = .ok registry) (full : Bool) (columns : Int)
    {selector : Bytes} (hlength : selector.length = 4) :
    (registry.items full columns).filter (shows selector) =
      (registry.lookup? selector).toList.map (listing full) := by
  have hshows : (registry.entries.map (listing full)).filter (shows selector) =
      (registry.lookup? selector).toList.map (listing full) := by
    rw [List.filter_map, ← entries_filter_selector h]
    refine congrArg _ (List.filter_congr fun entry hentry => ?_)
    have hsame := (wellFormed_of_mem_entries h entry hentry).selector_length.trans hlength.symm
    rw [Bool.eq_iff_iff, Function.comp_apply, shows_listing full hsame, decide_eq_true_eq]
  have hperm := (registry.perm_items full columns).filter (shows selector)
  rw [hshows] at hperm
  cases hlookup : registry.lookup? selector with
  | none =>
    rw [hlookup] at hperm
    exact List.perm_nil.1 hperm
  | some kept =>
    rw [hlookup] at hperm
    exact List.perm_singleton.1 hperm

/-- No two items are alike, because no two functions have one selector. -/
theorem nodup_items (h : build interfaces = .ok registry) (full : Bool) (columns : Int) :
    (registry.items full columns).Nodup := by
  obtain ⟨functions, htells⟩ := tells_of_build h
  have hselectors := htells.nodup_selectors
  rw [(registry.perm_items full columns).nodup_iff]
  apply List.Nodup.map_on _ (List.Nodup.of_map _ hselectors)
  intro entry hentry other hother hsame
  apply List.inj_on_of_nodup_map hselectors hentry hother
  have hlength := (wellFormed_of_mem_entries h entry hentry).selector_length.trans
    (wellFormed_of_mem_entries h other hother).selector_length.symm
  have hshown : shows other.selector (listing full other) = true := (shows_listing full rfl).2 rfl
  rw [← hsame, shows_listing full hlength] at hshown
  exact hshown

/-- The selector of a function that is shadowed reaches another one. -/
theorem exists_kept_of_shadowed (h : build interfaces = .ok registry) {entry : Entry}
    (hentry : entry ∈ registry.shadowed) :
    ∃ kept, registry.lookup? entry.selector = some kept := by
  obtain ⟨functions, htells⟩ := tells_of_build h
  rw [htells.shadowed_eq] at hentry
  rw [htells.lookup]
  exact exists_first?_of_mem_followers hentry

end

/-! ### The table -/

/-- What the table of a registry lists, on a screen with that many columns. -/
structure Tabulates (registry : Registry) (full : Bool) (columns : Int) : Prop where
  /-- There is a row for each family with functions that can be reached, in the order of the
  families. -/
  families : (registry.rows full columns).map (·.family) =
    Family.all.filter fun family => registry.entries.any (·.family = family)
  rows : ∀ row ∈ registry.rows full columns, row.Tells registry full (listingWidth columns)
  /-- The items of all rows are the functions that can be reached, and no two items are alike. -/
  items : (registry.items full columns).Perm (registry.entries.map (listing full)) ∧
    (registry.items full columns).Nodup
  /-- A selector is in the table once if it reaches a function, with that function, and else not. -/
  selectors : ∀ selector : Bytes, selector.length = 4 →
    (registry.items full columns).filter (shows selector) =
      (registry.lookup? selector).toList.map (listing full)
  /-- With the selector of a function that is shadowed, the one that keeps it is listed. -/
  shadowed : ∀ entry ∈ registry.shadowed, ∃ kept ∈ registry.entries,
    kept.selector = entry.selector ∧
      (registry.items full columns).filter (shows entry.selector) = [listing full kept]

/-- The table of a registry lists each function that can be reached once, and nothing else. -/
theorem tabulates_of_build {interfaces : List Interface} {registry : Registry}
    (h : build interfaces = .ok registry) (full : Bool) (columns : Int) :
    registry.Tabulates full columns where
  families := registry.family_of_rows full columns
  rows row hrow := by
    obtain ⟨family, -, rfl⟩ := List.mem_map.1 hrow
    exact registry.row_tells full columns family
  items := ⟨registry.perm_items full columns, nodup_items h full columns⟩
  selectors _ hlength := items_filter_shows h full columns hlength
  shadowed entry hentry := by
    obtain ⟨kept, hkept⟩ := exists_kept_of_shadowed h hentry
    obtain ⟨hmem, hsame⟩ := (lookup?_eq_some_iff h).1 hkept
    refine ⟨kept, hmem, hsame, ?_⟩
    have hlength : entry.selector.length = 4 :=
      hsame ▸ (wellFormed_of_mem_entries h kept hmem).selector_length
    rw [items_filter_shows h full columns hlength, hkept]
    rfl

/-- Of two interfaces, one has only functions that are shadowed, and so its family has no row. -/
theorem tabulates_of_build_furnace :
    ∃ registry, build Furnace.interfaces = .ok registry ∧ registry.Tabulates true 40 ∧
      (registry.rows true 40).map (·.family) = [.fungibleToken] ∧
      (registry.items true 40).Perm ["burn(uint256) 0x42966c68", "pause() 0x8456cb59"] ∧
      registry.shadowed.map (listing true) =
        ["collate_propagate_storage(bytes16) 0x42966c68", "burn(uint256) 0x42966c68"] := by
  have hrun : (build Furnace.interfaces).toOption.map (fun registry =>
        (Family.all.filter (fun family => registry.entries.any (·.family = family)),
          registry.entries.map (listing true), registry.shadowed.map (listing true))) =
      some ([.fungibleToken], ["burn(uint256) 0x42966c68", "pause() 0x8456cb59"],
        ["collate_propagate_storage(bytes16) 0x42966c68", "burn(uint256) 0x42966c68"]) := by
    decide +kernel
  obtain ⟨registry, hbuild, hvalues⟩ := exists_ok_of_toOption hrun
  simp only [Prod.mk.injEq] at hvalues
  obtain ⟨hfamilies, hentries, hshadowed⟩ := hvalues
  have htable := tabulates_of_build hbuild true 40
  have hitems := htable.items.1
  rw [hentries] at hitems
  exact ⟨registry, hbuild, htable, htable.families.trans hfamilies, hitems, hshadowed⟩

end Registry

end Chronicle
