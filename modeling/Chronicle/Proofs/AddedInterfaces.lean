/-
# Interfaces added behind others

A registry that is built with more interfaces behind the same first ones holds
on to everything that the registry of the first ones can do. Its functions start
with the functions of that registry, and a selector that reached one of them
reaches it still. Only a selector that reached nothing may come to reach
something: the first of the added functions that has it. So the only inputs with
another outcome are those that were calls of the unknown family, and of these
exactly the ones whose selector is that of an added function.

Key definitions: `Registry.Settles`, `Registry.Extends`.
Key theorems: `Registry.entries_prefix_addAll`, `Registry.lookup?_addAll`,
`Registry.extends_addAll`, `Registry.build_append_extends`.
-/
import Chronicle.Proofs.Classification
import Chronicle.Proofs.Precedence

namespace Chronicle

namespace Registry

/-- The outcome of the input at the destination does not hang on an unknown selector: there is no
destination, no whole selector, or a function that the selector reaches. -/
def Settles (registry : Registry) (input : Bytes) (destination : Option String) : Prop :=
  destination = none ∨ input.length < 4 ∨ (registry.lookup? (input.take 4)).isSome

/-- The registry `extended` is what becomes of `registry` if the functions `added` are registered
behind its own. -/
structure Extends (extended registry : Registry) (added : List Entry) : Prop where
  /-- The functions that could be reached stand in front, in order. -/
  entries : registry.entries <+: extended.entries
  /-- The functions that were shadowed stay shadowed, and by the same functions. -/
  collisions : registry.collisions <+: extended.collisions
  /-- What does not hang on an unknown selector has the same call or the same fault. -/
  kept : ∀ input destination, registry.Settles input destination →
    extended.decode input destination = registry.decode input destination
  /-- Everything else made a call of the unknown family. -/
  unknown : ∀ input destination, ¬ registry.Settles input destination →
    registry.decode input destination =
      .ok ⟨"unknown", .unknown, Hex.marked (input.take 4), .empty, input⟩
  /-- It has another outcome exactly if an added function has its selector. -/
  changed : ∀ input destination, ¬ registry.Settles input destination →
    (extended.decode input destination ≠ registry.decode input destination ↔
      ∃ entry ∈ added, entry.selector = input.take 4)

/-! ### Lists of interfaces -/

theorem listed_append (interfaces : List Interface) : ∀ {added : List Interface}
    {functions : List Entry}, listed (interfaces ++ added) = .ok functions →
      ∃ front back, listed interfaces = .ok front ∧ listed added = .ok back ∧
        functions = front ++ back := by
  induction interfaces with
  | nil => exact fun {_ functions} h => ⟨[], functions, rfl, h, rfl⟩
  | cons interface interfaces ih =>
    intro added functions h
    rw [List.cons_append] at h
    simp only [listed, bind_eq_ok, Except.ok.injEq] at h ⊢
    obtain ⟨entries, hentries, rest, hrest, rfl⟩ := h
    obtain ⟨front, back, hfront, hback, rfl⟩ := ih hrest
    exact ⟨entries ++ front, back, ⟨entries, hentries, front, hfront, rfl⟩, hback,
      (List.append_assoc ..).symm⟩

/-! ### Registering behind others -/

section

variable (registry : Registry)

theorem entries_prefix_add (entry : Entry) : registry.entries <+: (registry.add entry).entries := by
  unfold Registry.entries OrderedMap.values
  rw [entries_add]
  split
  · exact List.prefix_rfl
  · rw [List.map_append]
    exact List.prefix_append _ _

theorem collisions_prefix_add (entry : Entry) :
    registry.collisions <+: (registry.add entry).collisions := by
  rw [collisions_add]
  exact List.prefix_append _ _

end

theorem entries_prefix_addAll : ∀ (added : List Entry) (registry : Registry),
    registry.entries <+: (registry.addAll added).entries
  | [], _ => List.prefix_rfl
  | entry :: added, registry =>
    (registry.entries_prefix_add entry).trans (entries_prefix_addAll added (registry.add entry))

theorem collisions_prefix_addAll : ∀ (added : List Entry) (registry : Registry),
    registry.collisions <+: (registry.addAll added).collisions
  | [], _ => List.prefix_rfl
  | entry :: added, registry =>
    (registry.collisions_prefix_add entry).trans
      (collisions_prefix_addAll added (registry.add entry))

/-- A selector reaches what it reached, or else the first added function that has it. -/
theorem lookup?_addAll : ∀ (added : List Entry) (registry : Registry) (selector : Bytes),
    (registry.addAll added).lookup? selector =
      (registry.lookup? selector).or (first? added selector)
  | [], registry, selector => by simp [addAll, first?]
  | entry :: added, registry, selector => by
    have hrest := lookup?_addAll added (registry.add entry) selector
    have hfirst : first? (entry :: added) selector =
        (if entry.selector = selector then some entry else none).or (first? added selector) := by
      by_cases h : entry.selector = selector
      · simp [first?, h]
      · simp [first?, h]
    rw [lookup?_add, Option.or_assoc, ← hfirst] at hrest
    exact hrest

/-! ### Decoding with more functions -/

section

variable {registry extended : Registry} {input : Bytes} {destination : Option String}

/-- Of all functions, decoding reads the one that the selector reaches. -/
theorem decode_congr (h : extended.lookup? (input.take 4) = registry.lookup? (input.take 4)) :
    extended.decode input destination = registry.decode input destination := by
  simp only [decode, decodeSelected, h]

theorem decode_of_unselected (h : destination = none ∨ input.length < 4) :
    extended.decode input destination = registry.decode input destination := by
  cases destination with
  | none => rfl
  | some place =>
    have hshort : input.length < 4 := by simpa using h
    simp only [decode, if_pos hshort]

theorem not_settles_iff : ¬ registry.Settles input destination ↔
    (∃ place, destination = some place) ∧ 4 ≤ input.length ∧
      registry.lookup? (input.take 4) = none := by
  simp [Settles, Option.ne_none_iff_exists', not_or]

/-- A function that can be reached makes no call of the unknown family. -/
theorem decode_registered_ne_unknown {interfaces : List Interface}
    (h : build interfaces = .ok extended) {place : String} {entry : Entry}
    (hlength : 4 ≤ input.length) (hentry : extended.lookup? (input.take 4) = some entry) {call : Call}
    (hcall : extended.decode input (some place) = .ok call) : call.family ≠ .unknown := by
  obtain ⟨parameters, -, rfl⟩ := decode_registered_eq_ok hlength hentry hcall
  exact (not_reserved_of_lookup? h hentry).2

end

/-- Functions that are registered behind those of a registry extend it. -/
theorem extends_addAll {interfaces : List Interface} {registry : Registry} {added : List Entry}
    (h : build interfaces = .ok (registry.addAll added)) :
    (registry.addAll added).Extends registry added := by
  refine ⟨entries_prefix_addAll added registry, collisions_prefix_addAll added registry, ?_, ?_, ?_⟩
  · rintro input destination (hnone | hshort | hreached)
    · exact decode_of_unselected (Or.inl hnone)
    · exact decode_of_unselected (Or.inr hshort)
    · obtain ⟨entry, hentry⟩ := Option.isSome_iff_exists.1 hreached
      apply decode_congr
      rw [lookup?_addAll, hentry, Option.some_or]
  · intro input destination hopen
    obtain ⟨⟨place, rfl⟩, hlength, hnone⟩ := not_settles_iff.1 hopen
    exact decode_unregistered hlength hnone
  · intro input destination hopen
    obtain ⟨⟨place, rfl⟩, hlength, hnone⟩ := not_settles_iff.1 hopen
    have hunknown : registry.decode input (some place) = _ := decode_unregistered hlength hnone
    have hlookup : (registry.addAll added).lookup? (input.take 4) = first? added (input.take 4) := by
      rw [lookup?_addAll, hnone, Option.none_or]
    constructor
    · intro hchanged
      by_contra hforeign
      apply hchanged
      apply decode_congr
      rw [hlookup, hnone, first?_eq_none_iff]
      simpa using hforeign
    · rintro ⟨entry, hmem, hselector⟩ hsame
      have hsome : (first? added (input.take 4)).isSome :=
        List.find?_isSome.2 ⟨entry, hmem, decide_eq_true hselector⟩
      obtain ⟨first, hfirst⟩ := Option.isSome_iff_exists.1 hsome
      exact decode_registered_ne_unknown h hlength (hlookup.trans hfirst) (hsame.trans hunknown) rfl

/-- A registry that is built with more interfaces behind the same first ones extends the registry of
the first ones by the functions of the others. -/
theorem build_append_extends {interfaces added : List Interface} {registry extended : Registry}
    (h : build interfaces = .ok registry) (hextended : build (interfaces ++ added) = .ok extended) :
    ∃ functions, listed added = .ok functions ∧ extended.Extends registry functions := by
  obtain ⟨all, hall, rfl⟩ := build_eq_ok_iff.1 hextended
  obtain ⟨front, back, hfront, hback, rfl⟩ := listed_append interfaces hall
  obtain ⟨own, hown, rfl⟩ := build_eq_ok_iff.1 h
  cases hfront.symm.trans hown
  rw [addAll_append] at hextended ⊢
  exact ⟨back, hback, extends_addAll hextended⟩

end Registry

/-! ### An interface with one selector that is taken and one that is free -/

namespace Furnace

/-- An interface with one function. -/
def own : List Interface :=
  [⟨"Furnace", .list [Known.declare "burn" [("uint256", "amount")]], .fungibleToken⟩]

/-- An interface whose first function has the same selector, with another signature. -/
def annex : List Interface :=
  [⟨"Storage", .list [Known.declare "collate_propagate_storage" [("bytes16", "data")],
      Known.declare "pause" []], .generic⟩]

/-- The calldata of a burn of seven tokens. -/
def burning : Bytes := [0x42, 0x96, 0x6c, 0x68] ++ wordOf 7

/-- The calldata of a pause. -/
def pausing : Bytes := [0x84, 0x56, 0xcb, 0x59]

end Furnace

/-- The selector that is taken keeps its function, and the one that is free comes to reach the new
function. -/
theorem Registry.build_append_extends_annex : ∃ registry extended functions,
    build Furnace.own = .ok registry ∧ build (Furnace.own ++ Furnace.annex) = .ok extended ∧
      listed Furnace.annex = .ok functions ∧ extended.Extends registry functions ∧
      extended.decode Furnace.burning (some "") = registry.decode Furnace.burning (some "") ∧
      extended.decode Furnace.pausing (some "") ≠ registry.decode Furnace.pausing (some "") := by
  have hown : (build Furnace.own).toOption.map (fun registry =>
      ((registry.lookup? (Furnace.burning.take 4)).isSome,
        (registry.lookup? (Furnace.pausing.take 4)).isSome)) = some (true, false) := by
    decide +kernel
  have hboth : (build (Furnace.own ++ Furnace.annex)).toOption.map (fun _ => ()) = some () := by
    decide +kernel
  have hannex : (listed Furnace.annex).toOption.map (fun functions =>
      functions.any (·.selector = Furnace.pausing.take 4)) = some true := by
    decide +kernel
  obtain ⟨registry, hregistry, hreached⟩ := exists_ok_of_toOption hown
  obtain ⟨extended, hextended, -⟩ := exists_ok_of_toOption hboth
  obtain ⟨functions, hfunctions, hadded⟩ := exists_ok_of_toOption hannex
  obtain ⟨hburn, hpause⟩ := Prod.mk.inj hreached
  obtain ⟨functions', hfunctions', hextends⟩ := build_append_extends hregistry hextended
  cases hfunctions.symm.trans hfunctions'
  have hopen : ¬ registry.Settles Furnace.pausing (some "") := by
    refine not_settles_iff.2 ⟨⟨"", rfl⟩, by decide, ?_⟩
    simpa using hpause
  refine ⟨registry, extended, functions, hregistry, hextended, hfunctions, hextends, ?_, ?_⟩
  · exact hextends.kept _ _ (Or.inr (Or.inr hburn))
  · apply (hextends.changed _ _ hopen).2
    simpa using hadded

end Chronicle
