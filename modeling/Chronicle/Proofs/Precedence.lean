/-
# Which functions keep their selectors

Of all functions with one selector, the first one that is listed keeps it and
all others are shadowed. So the list of functions that interfaces give is
divided in two, each part in the order of the list, and everything that can be
asked of a registry is told by that list: what a selector reaches, in whatever
spelling, which functions a family has and which warnings were made.

Key definitions: `Registry.leads`, `Registry.leaders`, `Registry.followers`,
`Registry.collisionsOf`, `Registry.FirstWins`.
Key theorems: `Registry.Tells.add`, `Registry.Tells.firstWins`, `Registry.firstWins_of_build`.
-/
import Chronicle.Proofs.Registration
import Mathlib.Data.List.Perm.Basic

namespace Chronicle

namespace Registry

/-! ### The two parts of a list of functions -/

/-- Whether no function before this place of the list has the selector of the one in it. -/
def leads (functions : List Entry) (place : Entry × Nat) : Bool :=
  (functions.take place.2).all (·.selector ≠ place.1.selector)

/-- The functions that no earlier one shares its selector with, in order. -/
def leaders (functions : List Entry) : List Entry :=
  (functions.zipIdx.filter (leads functions)).map Prod.fst

/-- All other functions, in order. -/
def followers (functions : List Entry) : List Entry :=
  (functions.zipIdx.filter (!leads functions ·)).map Prod.fst

/-- The first function with a selector. -/
def first? (functions : List Entry) (selector : Bytes) : Option Entry :=
  functions.find? (·.selector = selector)

/-- What each of the other functions collides with. -/
def collisionsOf (functions : List Entry) : List Collision :=
  (followers functions).filterMap fun follower =>
    (first? functions follower.selector).map fun first => ⟨first, follower⟩

section

variable {functions : List Entry} {entry : Entry}

theorem first?_append (functions : List Entry) (entry : Entry) (selector : Bytes) :
    first? (functions ++ [entry]) selector =
      (first? functions selector).or (if entry.selector = selector then some entry else none) := by
  unfold first?
  rw [List.find?_append]
  by_cases h : entry.selector = selector
  · simp [h]
  · simp [h]

theorem first?_eq_none_iff {selector : Bytes} :
    first? functions selector = none ↔ functions.all (·.selector ≠ selector) = true := by
  simp [first?]

/-- Whether a function comes first does not depend on what is listed behind it. -/
theorem leads_append (functions : List Entry) (entry : Entry) (p : Bool → Bool) :
    ((functions ++ [entry]).zipIdx.filter fun place =>
        p (leads (functions ++ [entry]) place)).map Prod.fst =
      (functions.zipIdx.filter fun place => p (leads functions place)).map Prod.fst ++
        if p (first? functions entry.selector).isNone then [entry] else [] := by
  have hlast : leads (functions ++ [entry]) (entry, functions.length) =
      (first? functions entry.selector).isNone := by
    rw [leads, List.take_left' rfl, Bool.eq_iff_iff, Option.isNone_iff_eq_none, first?_eq_none_iff]
  have hothers : ∀ place ∈ functions.zipIdx,
      p (leads (functions ++ [entry]) place) = p (leads functions place) := by
    intro place hplace
    have hlt : place.2 < functions.length := by simpa using List.snd_lt_of_mem_zipIdx hplace
    rw [leads, leads, List.take_append_of_le_length (Nat.le_of_lt hlt)]
  rw [List.zipIdx_append, List.filter_append, List.filter_congr hothers, List.map_append]
  refine congrArg (_ ++ ·) ?_
  rw [List.zipIdx_singleton, Nat.zero_add, List.filter_singleton, hlast]
  cases p (first? functions entry.selector).isNone
  · rfl
  · rfl

theorem leaders_append (functions : List Entry) (entry : Entry) :
    leaders (functions ++ [entry]) =
      leaders functions ++ if (first? functions entry.selector).isNone then [entry] else [] :=
  leads_append functions entry id

theorem followers_append (functions : List Entry) (entry : Entry) :
    followers (functions ++ [entry]) =
      followers functions ++ if !(first? functions entry.selector).isNone then [entry] else [] :=
  leads_append functions entry not

/-- Some function with a follower's selector is listed before the follower. -/
theorem exists_first?_of_mem_followers (h : entry ∈ followers functions) :
    ∃ first, first? functions entry.selector = some first := by
  obtain ⟨⟨_, index⟩, hplace, rfl⟩ := List.mem_map.1 h
  obtain ⟨-, hfollows⟩ := List.mem_filter.1 hplace
  rw [leads, Bool.not_eq_true', List.all_eq_false] at hfollows
  obtain ⟨earlier, hearlier, hselector⟩ := hfollows
  refine Option.isSome_iff_exists.1 (List.find?_isSome.2 ⟨earlier, List.mem_of_mem_take hearlier, ?_⟩)
  simpa using hselector

/-- No function is lost, and none is counted twice. -/
theorem length_leaders_add_length_followers (functions : List Entry) :
    (leaders functions).length + (followers functions).length = functions.length := by
  have h := List.length_eq_length_filter_add (l := functions.zipIdx) (leads functions)
  rw [List.length_zipIdx] at h
  rw [leaders, followers, List.length_map, List.length_map, h]

theorem collisionsOf_append (functions : List Entry) (entry : Entry) :
    collisionsOf (functions ++ [entry]) = collisionsOf functions ++
      ((first? functions entry.selector).map fun first => ⟨first, entry⟩).toList := by
  have hkept : ∀ follower ∈ followers functions,
      first? (functions ++ [entry]) follower.selector = first? functions follower.selector := by
    intro follower hfollower
    obtain ⟨first, hfirst⟩ := exists_first?_of_mem_followers hfollower
    rw [first?_append, hfirst, Option.some_or]
  unfold collisionsOf
  rw [followers_append]
  cases hfirst : first? functions entry.selector with
  | none =>
    rw [Option.isNone_none, if_neg (by decide), List.append_nil, Option.map_none,
      Option.toList_none, List.append_nil]
    exact List.filterMap_congr fun follower hfollower => by rw [hkept follower hfollower]
  | some first =>
    have hsame : first? (functions ++ [entry]) entry.selector = some first := by
      rw [first?_append, hfirst, Option.some_or]
    rw [Option.isNone_some, if_pos (by decide), List.filterMap_append]
    refine congrArg₂ (· ++ ·) ?_ ?_
    · exact List.filterMap_congr fun follower hfollower => by rw [hkept follower hfollower]
    · rw [List.filterMap_cons_some (by rw [hsame]; rfl)]
      rfl

theorem shadowed_collisionsOf (functions : List Entry) :
    (collisionsOf functions).map (·.shadowed) = followers functions := by
  have hsome : ∀ follower ∈ followers functions,
      ((first? functions follower.selector).map fun first => Collision.mk first follower).map
        (·.shadowed) = some follower := by
    intro follower hfollower
    obtain ⟨first, hfirst⟩ := exists_first?_of_mem_followers hfollower
    rw [hfirst]
    rfl
  rw [collisionsOf, List.map_filterMap, List.filterMap_congr hsome, List.filterMap_some]

end

/-! ### What registration makes of a list -/

/-- The registry holds what the list of functions tells. -/
structure Tells (registry : Registry) (functions : List Entry) : Prop where
  table : registry.table.entries = (leaders functions).map fun entry => (entry.selector, entry)
  lookup : ∀ selector, registry.lookup? selector = first? functions selector
  collisions : registry.collisions = collisionsOf functions

namespace Tells

theorem empty : Tells empty [] := ⟨rfl, fun _ => rfl, rfl⟩

variable {registry : Registry} {functions : List Entry}

/-- One more function is told behind those that were there. -/
theorem add (h : registry.Tells functions) (entry : Entry) :
    (registry.add entry).Tells (functions ++ [entry]) := by
  refine ⟨?_, fun selector => ?_, ?_⟩
  · rw [entries_add, h.lookup, h.table, leaders_append]
    cases first? functions entry.selector with
    | none => simp
    | some first => simp
  · rw [lookup?_add, h.lookup, first?_append]
  · rw [collisions_add, h.lookup, h.collisions, collisionsOf_append]

/-- Functions that are added in order are told behind those that were there. -/
theorem addAll : ∀ (more : List Entry) {registry : Registry} {functions : List Entry},
    registry.Tells functions → (registry.addAll more).Tells (functions ++ more)
  | [], _, functions, h => by rwa [List.append_nil]
  | entry :: more, registry, functions, h => by
    have hrest := addAll more (h.add entry)
    rwa [List.append_assoc] at hrest

end Tells

/-! ### What can be asked of a registry -/

/-- A function is listed under its own family and no other. -/
theorem count_entriesFor (registry : Registry) (family : Family) (entry : Entry) :
    (registry.entriesFor family).count entry =
      if entry.family = family then registry.entries.count entry else 0 := by
  unfold entriesFor
  split
  · next h => exact List.count_filter (decide_eq_true h)
  · next h => exact List.count_eq_zero.2 fun hmem => h (by simpa using List.of_mem_filter hmem)

/-- The families divide the functions of a registry among them. -/
theorem perm_flatMap_entriesFor (registry : Registry) :
    (Family.all.flatMap registry.entriesFor).Perm registry.entries := by
  refine List.perm_iff_count.2 fun entry => ?_
  simp only [Family.all, List.flatMap_cons, List.flatMap_nil, List.append_nil, List.count_append,
    count_entriesFor]
  cases entry.family <;> simp

/-- What a registry answers, in terms of the list of all functions that it was made of. -/
structure FirstWins (registry : Registry) (functions : List Entry) : Prop where
  /-- The functions that can be reached are those without an earlier one of the same selector. -/
  entries : registry.entries = leaders functions
  /-- The functions that are shadowed are all others. -/
  shadowed : registry.shadowed = followers functions
  size : registry.size + registry.shadowed.length = functions.length
  distinct : (registry.entries.map (·.selector)).Nodup
  lookup : ∀ selector, registry.lookup? selector = first? functions selector
  /-- A function is reached by its selector, by the marked text of it, and by its digits in any
  case. -/
  reached : ∀ entry ∈ registry.entries, registry.lookup? entry.selector = some entry ∧
    registry.find entry.selectorText = .ok (some entry) ∧
    ∀ text : String, text.toList.map Char.toLower = Hex.digits entry.selector →
      registry.find text = .ok (some entry)
  /-- The families divide the functions among them, and each keeps their order. -/
  families : (Family.all.flatMap registry.entriesFor).Perm registry.entries ∧
    ∀ family, (registry.entriesFor family).Sublist registry.entries ∧
      ∀ entry, entry ∈ registry.entriesFor family ↔
        entry ∈ registry.entries ∧ entry.family = family
  /-- There is one warning for each function that is shadowed by one of another signature. -/
  log : registry.log = (followers functions).filterMap fun follower =>
    ((first? functions follower.selector).filter (·.signature ≠ follower.signature)).map fun first =>
      warning (Collision.message ⟨first, follower⟩)

namespace Tells

variable {registry : Registry} {functions : List Entry} (h : registry.Tells functions)
include h

theorem entries_eq : registry.entries = leaders functions := by
  rw [Registry.entries, OrderedMap.values, h.table, List.map_map]
  exact List.map_id _

theorem shadowed_eq : registry.shadowed = followers functions := by
  rw [Registry.shadowed, h.collisions, shadowed_collisionsOf]

theorem nodup_selectors : (registry.entries.map (·.selector)).Nodup := by
  have hkeys : registry.table.entries.map Prod.fst = registry.entries.map (·.selector) := by
    rw [h.entries_eq, h.table, List.map_map]
    rfl
  rw [← hkeys]
  exact registry.table.nodup

theorem lookup?_selector {entry : Entry} (hentry : entry ∈ registry.entries) :
    registry.lookup? entry.selector = some entry := by
  rw [h.entries_eq] at hentry
  refine OrderedMap.get?_eq_some_iff.2 ?_
  rw [h.table]
  exact List.mem_map_of_mem hentry

theorem log_eq : registry.log = (followers functions).filterMap fun follower =>
    ((first? functions follower.selector).filter (·.signature ≠ follower.signature)).map fun first =>
      warning (Collision.message ⟨first, follower⟩) := by
  rw [Registry.log, h.collisions, collisionsOf, List.filter_filterMap, List.map_filterMap]
  refine List.filterMap_congr fun follower _ => ?_
  rw [Option.filter_map, Option.map_map]
  rfl

theorem firstWins : registry.FirstWins functions where
  entries := h.entries_eq
  shadowed := h.shadowed_eq
  size := by
    have hsize : registry.size = registry.entries.length := (List.length_map _).symm
    rw [hsize, h.entries_eq, h.shadowed_eq, length_leaders_add_length_followers]
  distinct := h.nodup_selectors
  lookup := h.lookup
  reached entry hentry := by
    have hlookup := h.lookup?_selector hentry
    refine ⟨hlookup, ?_, fun text htext => ?_⟩
    · rw [← hlookup, find, Entry.selectorText, Hex.loose?_marked]
    · rw [← hlookup, find, Hex.loose?_of_toLower htext]
  families := ⟨perm_flatMap_entriesFor registry, fun family =>
    ⟨List.filter_sublist, fun entry => by simp [entriesFor]⟩⟩
  log := h.log_eq

end Tells

/-- A registry that is built of interfaces answers in terms of the list of all their functions. -/
theorem firstWins_of_build {interfaces : List Interface} {registry : Registry}
    (h : build interfaces = .ok registry) :
    ∃ functions, listed interfaces = .ok functions ∧ registry.FirstWins functions := by
  obtain ⟨functions, hlisted, rfl⟩ := build_eq_ok_iff.1 h
  exact ⟨functions, hlisted, (Tells.addAll functions Tells.empty).firstWins⟩

end Registry

/-! ### Three functions with one selector -/

/-- Two interfaces with functions of one selector, two of which have the same signature. -/
def Furnace.interfaces : List Interface :=
  [⟨"Furnace", .list [Known.declare "burn" [("uint256", "amount")], Known.declare "pause" []],
      .fungibleToken⟩,
   ⟨"Storage", .list [Known.declare "collate_propagate_storage" [("bytes16", "data")],
      Known.declare "burn" [("uint256", "value")]], .generic⟩]

/-- The first of them keeps the selector, and there is one warning. -/
theorem Registry.firstWins_of_build_furnace :
    ∃ registry functions, build Furnace.interfaces = .ok registry ∧
      listed Furnace.interfaces = .ok functions ∧ registry.FirstWins functions ∧
      registry.shadowed.map (·.signature) =
        ["collate_propagate_storage(bytes16)", "burn(uint256)"] ∧
      registry.log = [warning ("Selector collision between burn(uint256) (Furnace) and " ++
        "collate_propagate_storage(bytes16) (Storage) on 0x42966c68.  Keeping Furnace")] := by
  have hrun : (build Furnace.interfaces).toOption.map
      (fun registry => (registry.shadowed.map (·.signature), registry.log)) =
      some (["collate_propagate_storage(bytes16)", "burn(uint256)"],
        [warning ("Selector collision between burn(uint256) (Furnace) and " ++
          "collate_propagate_storage(bytes16) (Storage) on 0x42966c68.  Keeping Furnace")]) := by
    decide +kernel
  cases hbuild : build Furnace.interfaces with
  | error failure =>
    rw [hbuild] at hrun
    cases hrun
  | ok registry =>
    rw [hbuild] at hrun
    obtain ⟨hshadowed, hlog⟩ := Prod.mk.inj (Option.some.inj hrun)
    obtain ⟨functions, hlisted, hwins⟩ := firstWins_of_build hbuild
    exact ⟨registry, functions, rfl, hlisted, hwins, hshadowed, hlog⟩

end Chronicle
