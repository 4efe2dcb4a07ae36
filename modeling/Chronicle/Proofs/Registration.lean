/- # What registration keeps

A registry holds functions of the interfaces it was built from, each under its
own selector. Interfaces of reserved families are refused, so no function that
can be reached stands for a way of calling; and a function has as many names
as types, and a selector of four bytes.

Key definitions: `Entry.WellFormed`, `Registry.listed`, `Registry.Keyed`.
Key theorems: `Registry.build_eq_ok_iff`, `Registry.lookup?_eq_some_iff`,
`Registry.wellFormed_of_mem_entries`, `Registry.build_known`.
-/
import Chronicle.Fault
import Chronicle.Registry.Known

namespace Chronicle

/-- What every function of an interface has. -/
structure Entry.WellFormed (entry : Entry) : Prop where
  selector_length : entry.selector.length = 4
  names_length : entry.inputNames.length = entry.inputTypes.length
  not_reserved : entry.family.isReserved = false

/-! ### Functions of interfaces -/

theorem length_selectorOf (signature : String) : (selectorOf signature).length = 4 := by
  rw [selectorOf, List.length_take, Keccak.length_hash256]
  rfl

theorem Param.length_ofItems : ∀ {vs : List Value} {params : List Param},
    Param.ofItems vs = .ok params → params.length = vs.length
  | [], _, h => by cases h; rfl
  | v :: vs, _, h => by
    simp only [Param.ofItems, bind_eq_ok, Except.ok.injEq] at h
    obtain ⟨p, -, ps, hps, rfl⟩ := h
    rw [List.length_cons, List.length_cons, Param.length_ofItems hps]

/-- A value that lists parameters can be gone through, one part for each parameter. -/
theorem Param.parts?_of_listOf {v : Value} {params : List Param} (h : Param.listOf v = .ok params) :
    ∃ vs, v.parts? = some vs ∧ params.length = vs.length := by
  unfold Param.listOf at h
  split at h
  · next vs => exact ⟨vs, rfl, Param.length_ofItems h⟩
  · split at h
    · next hparts =>
      cases h
      exact ⟨[], hparts, rfl⟩
    · cases h

theorem Param.length_typesOf : ∀ params : List Param,
    (Param.typesOf params).length = params.length
  | [] => rfl
  | _ :: params => by
    rw [Param.typesOf, List.length_cons, List.length_cons, Param.length_typesOf params]

namespace Fragment

theorem length_namesOf : ∀ {vs : List Value} {names : List String},
    namesOf vs = .ok names → names.length = vs.length
  | [], _, h => by cases h; rfl
  | v :: vs, _, h => by
    unfold namesOf at h
    split at h
    · next heq => cases heq
    · next heq =>
      obtain ⟨rfl, rfl⟩ := List.cons.inj heq
      split at h
      · cases h
      · simp only [bind_eq_ok, Except.ok.injEq] at h
        obtain ⟨names, hnames, rfl⟩ := h
        rw [List.length_cons, List.length_cons, length_namesOf hnames]
      · cases h
    · cases h

/-- A function has as many names as parameters. -/
theorem length_paramNames {v : Value} {fragment : Fragment} (h : ofValue v = .ok fragment) :
    fragment.paramNames.length = fragment.params.length := by
  unfold ofValue at h
  split at h
  · next fields =>
    simp only [bind_eq_ok, Except.ok.injEq] at h
    obtain ⟨⟨name, signature, params⟩, hhead, names, hnames, rfl⟩ := h
    have hlen := length_namesOf hnames
    simp only [headOf, bind_eq_ok] at hhead
    obtain ⟨params', hparams, hrest⟩ := hhead
    have hsame : params' = params := by
      split at hrest
      · cases hrest
      · simp only [bind_eq_ok, Except.ok.injEq, Prod.mk.injEq] at hrest
        obtain ⟨_, _, -, -, rfl⟩ := hrest
        rfl
    subst hsame
    unfold paramsOf at hparams
    split at hparams
    · next hfield =>
      cases hparams
      simpa [hfield] using hlen
    · next v hfield =>
      obtain ⟨vs, hparts, hvs⟩ := Param.parts?_of_listOf hparams
      rw [hlen, hvs]
      simp [hfield, hparts]
  · cases h

end Fragment

namespace Interface

theorem mem_fragmentsOf : ∀ {vs : List Value} {fragments : List Fragment},
    fragmentsOf vs = .ok fragments → ∀ fragment ∈ fragments,
      fragment.paramNames.length = fragment.params.length
  | [], _, h => by cases h; simp
  | v :: vs, _, h => by
    simp only [fragmentsOf, bind_eq_ok, Except.ok.injEq] at h
    obtain ⟨first, hfirst, rest, hrest, rfl⟩ := h
    intro fragment hmem
    rcases List.mem_cons.1 hmem with rfl | hmem
    · exact Fragment.length_paramNames hfirst
    · exact mem_fragmentsOf hrest fragment hmem

theorem mem_nameEntries {interface : Interface} : ∀ {fragments : List Fragment}
    {entries : List Entry}, interface.nameEntries fragments = .ok entries → ∀ entry ∈ entries,
      ∃ fragment ∈ fragments, ∃ name,
        entry = Entry.ofFragment fragment name interface.name interface.family
  | [], _, h => by cases h; simp
  | fragment :: fragments, _, h => by
    unfold nameEntries at h
    split at h
    · next name _ =>
      simp only [bind_eq_ok, Except.ok.injEq] at h
      obtain ⟨rest, hrest, rfl⟩ := h
      intro entry hmem
      rcases List.mem_cons.1 hmem with rfl | hmem
      · exact ⟨fragment, List.mem_cons_self, name, rfl⟩
      · obtain ⟨f, hf, n, hn⟩ := mem_nameEntries hrest entry hmem
        exact ⟨f, List.mem_cons_of_mem _ hf, n, hn⟩
    · cases h

/-- An interface yields well-formed functions of its own family only. -/
theorem wellFormed_of_mem_entries {interface : Interface} {entries : List Entry}
    (h : interface.entries = .ok entries) : ∀ entry ∈ entries, entry.WellFormed := by
  unfold Interface.entries at h
  split at h
  · cases h
  · next hfamily =>
    split at h
    · cases h
    · simp only [bind_eq_ok] at h
      obtain ⟨functions, -, fragments, hfragments, hnamed⟩ := h
      intro entry hmem
      obtain ⟨fragment, hfragment, name, rfl⟩ := mem_nameEntries hnamed entry hmem
      refine ⟨length_selectorOf _, ?_, Bool.eq_false_iff.2 hfamily⟩
      have hlen := mem_fragmentsOf hfragments fragment hfragment
      exact hlen.trans (Param.length_typesOf fragment.params).symm

end Interface

/-! ### Adding functions -/

namespace Registry

/-- The functions of interfaces one after another, before any is registered. -/
def listed : List Interface → Except Fault (List Entry)
  | [] => .ok []
  | interface :: interfaces => do
    let entries ← interface.entries
    let rest ← listed interfaces
    .ok (entries ++ rest)

theorem addAll_append (registry : Registry) (entries more : List Entry) :
    registry.addAll (entries ++ more) = (registry.addAll entries).addAll more :=
  List.foldl_append ..

theorem addInterfaces_eq_ok_iff : ∀ {interfaces : List Interface} {registry result : Registry},
    registry.addInterfaces interfaces = .ok result ↔
      ∃ entries, listed interfaces = .ok entries ∧ registry.addAll entries = result
  | [], registry, result => by simp [addInterfaces, listed, addAll]
  | interface :: interfaces, registry, result => by
    unfold addInterfaces
    split
    · next hfault => simp [listed, hfault, bind, Except.bind]
    · next entries hentries =>
      rw [addInterfaces_eq_ok_iff]
      simp only [listed, hentries, bind_eq_ok, Except.ok.injEq, exists_eq_left']
      constructor
      · rintro ⟨rest, hrest, rfl⟩
        exact ⟨_, ⟨rest, hrest, rfl⟩, addAll_append registry entries rest⟩
      · rintro ⟨_, ⟨rest, hrest, rfl⟩, hresult⟩
        exact ⟨rest, hrest, (addAll_append registry entries rest).symm.trans hresult⟩

/-- A registry is built by adding all functions of its interfaces in order. -/
theorem build_eq_ok_iff {interfaces : List Interface} {registry : Registry} :
    build interfaces = .ok registry ↔
      ∃ entries, listed interfaces = .ok entries ∧ empty.addAll entries = registry :=
  addInterfaces_eq_ok_iff

theorem wellFormed_of_mem_listed : ∀ {interfaces : List Interface} {entries : List Entry},
    listed interfaces = .ok entries → ∀ entry ∈ entries, entry.WellFormed
  | [], _, h => by cases h; simp
  | interface :: interfaces, _, h => by
    simp only [listed, bind_eq_ok, Except.ok.injEq] at h
    obtain ⟨entries, hentries, rest, hrest, rfl⟩ := h
    intro entry hmem
    rcases List.mem_append.1 hmem with hmem | hmem
    · exact Interface.wellFormed_of_mem_entries hentries entry hmem
    · exact wellFormed_of_mem_listed hrest entry hmem

/-- A function is added at the end, or its selector is taken and the table stays as it is. -/
theorem entries_add (registry : Registry) (entry : Entry) :
    (registry.add entry).table.entries =
      if (registry.lookup? entry.selector).isSome then registry.table.entries
      else registry.table.entries ++ [(entry.selector, entry)] := by
  unfold add lookup?
  split
  · next hfree => simp [hfree, OrderedMap.entries_insert_of_get?_eq_none entry hfree]
  · next hkept => simp [hkept]

/-- A function takes its selector, unless another one has it. -/
theorem lookup?_add (registry : Registry) (entry : Entry) (selector : Bytes) :
    (registry.add entry).lookup? selector =
      (registry.lookup? selector).or (if entry.selector = selector then some entry else none) := by
  by_cases h : entry.selector = selector
  · subst h
    unfold add lookup?
    cases hkept : registry.table.get? entry.selector with
    | none => simp
    | some kept => simp [hkept]
  · unfold add lookup?
    cases hkept : registry.table.get? entry.selector with
    | none => simp [h, OrderedMap.get?_insert_of_ne _ _ h]
    | some kept => simp [h]

/-- A function whose selector is taken makes a collision. -/
theorem collisions_add (registry : Registry) (entry : Entry) :
    (registry.add entry).collisions = registry.collisions ++
      ((registry.lookup? entry.selector).map fun kept => ⟨kept, entry⟩).toList := by
  unfold add lookup?
  cases registry.table.get? entry.selector with
  | none => simp
  | some kept => simp

/-- Every function stands under its own selector. -/
def Keyed (registry : Registry) : Prop :=
  ∀ slot ∈ registry.table.entries, slot.1 = slot.2.selector

theorem Keyed.empty : Keyed empty := by simp [Keyed, Registry.empty, OrderedMap.empty]

theorem Keyed.add {registry : Registry} (h : registry.Keyed) (entry : Entry) :
    (registry.add entry).Keyed := by
  intro slot hslot
  rw [entries_add] at hslot
  split at hslot
  · exact h slot hslot
  · rcases List.mem_append.1 hslot with hslot | hslot
    · exact h slot hslot
    · rw [List.mem_singleton.1 hslot]

theorem Keyed.addAll : ∀ (entries : List Entry) {registry : Registry}, registry.Keyed →
    (registry.addAll entries).Keyed
  | [], _, h => h
  | entry :: entries, _, h => Keyed.addAll entries (h.add entry)

theorem mem_addAll : ∀ (entries : List Entry) {registry : Registry}
    {slot : Bytes × Entry}, slot ∈ (registry.addAll entries).table.entries →
      slot ∈ registry.table.entries ∨ slot.2 ∈ entries
  | [], _, _, h => Or.inl h
  | entry :: entries, registry, slot, h => by
    have h : slot ∈ ((registry.add entry).addAll entries).table.entries := h
    rcases mem_addAll entries h with h | h
    · rw [entries_add] at h
      split at h
      · exact Or.inl h
      · rcases List.mem_append.1 h with h | h
        · exact Or.inl h
        · exact Or.inr (by simp [List.mem_singleton.1 h])
    · exact Or.inr (List.mem_cons_of_mem _ h)

variable {interfaces : List Interface} {registry : Registry}

theorem keyed_of_build (h : build interfaces = .ok registry) : registry.Keyed := by
  obtain ⟨entries, -, rfl⟩ := build_eq_ok_iff.1 h
  exact Keyed.addAll entries Keyed.empty

/-- Every function that can be reached is well formed. -/
theorem wellFormed_of_mem_entries (h : build interfaces = .ok registry) :
    ∀ entry ∈ registry.entries, entry.WellFormed := by
  obtain ⟨entries, hlisted, rfl⟩ := build_eq_ok_iff.1 h
  intro entry hmem
  obtain ⟨slot, hslot, rfl⟩ := List.mem_map.1 hmem
  rcases mem_addAll entries hslot with hslot | hslot
  · simp [empty, OrderedMap.empty] at hslot
  · exact wellFormed_of_mem_listed hlisted _ hslot

/-- A selector reaches a function exactly if the function is registered and has that selector. -/
theorem lookup?_eq_some_iff (h : build interfaces = .ok registry) {selector : Bytes}
    {entry : Entry} :
    registry.lookup? selector = some entry ↔ entry ∈ registry.entries ∧ entry.selector = selector := by
  unfold lookup? entries OrderedMap.values
  rw [OrderedMap.get?_eq_some_iff, List.mem_map]
  constructor
  · intro hmem
    exact ⟨⟨_, hmem, rfl⟩, (keyed_of_build h _ hmem).symm⟩
  · rintro ⟨⟨⟨key, entry⟩, hmem, rfl⟩, rfl⟩
    exact keyed_of_build h _ hmem ▸ hmem

/-- The known interfaces can be registered. -/
theorem build_known : build Known.interfaces = .ok known := by
  have hlisted : (listed Known.interfaces).toOption.isSome = true := by decide +kernel
  cases hentries : listed Known.interfaces with
  | error fault => rw [hentries] at hlisted; cases hlisted
  | ok entries =>
    have hbuild := build_eq_ok_iff.2 ⟨entries, hentries, rfl⟩
    rw [known, hbuild]

end Registry

end Chronicle
