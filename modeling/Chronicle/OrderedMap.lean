/- # Maps that keep the order of insertion

A map as the list of its entries, each key once. A new key goes to the end; a
key that is already there keeps its place and takes the new value.

Key definitions: `OrderedMap`, `OrderedMap.insert`, `OrderedMap.get?`.
Key theorems: `OrderedMap.get?_insert_self`, `OrderedMap.get?_insert_of_ne`,
`OrderedMap.get?_eq_some_iff`, `OrderedMap.keys_insert`,
`OrderedMap.mem_entries_insertAll`, `OrderedMap.entries_ofList`, `OrderedMap.ofList_entries`.
-/

namespace Chronicle

variable {κ : Type u} {υ : Type v} [DecidableEq κ]

/-- The entries with `value` at `key`: in its old place, or else at the end. -/
def putEntry (key : κ) (value : υ) : List (κ × υ) → List (κ × υ)
  | [] => [(key, value)]
  | entry :: rest =>
    if entry.1 = key then (key, value) :: rest else entry :: putEntry key value rest

theorem keys_putEntry (key : κ) (value : υ) : ∀ entries : List (κ × υ),
    (putEntry key value entries).map Prod.fst =
      if key ∈ entries.map Prod.fst then entries.map Prod.fst else entries.map Prod.fst ++ [key]
  | [] => by simp [putEntry]
  | entry :: rest => by
    by_cases h : entry.1 = key
    · simp [putEntry, h]
    · have h' : key ≠ entry.1 := fun e => h e.symm
      simp only [putEntry, h, if_false, List.map_cons, keys_putEntry key value rest, List.mem_cons,
        h', false_or]
      split <;> simp

theorem nodup_putEntry (key : κ) (value : υ) (entries : List (κ × υ))
    (h : (entries.map Prod.fst).Nodup) : ((putEntry key value entries).map Prod.fst).Nodup := by
  rw [keys_putEntry]
  split
  · exact h
  · next hk => exact List.nodup_append.2 ⟨h, by simp, by
      intro a ha b hb e; simp only [List.mem_singleton] at hb; exact hk (hb ▸ e ▸ ha)⟩

/-- A map from `κ` to `υ` whose entries stand in the order in which their keys came. -/
structure OrderedMap (κ : Type u) (υ : Type v) where
  /-- The entries in order. -/
  entries : List (κ × υ)
  nodup : (entries.map Prod.fst).Nodup
  deriving DecidableEq

namespace OrderedMap

/-- The map without entries. -/
def empty : OrderedMap κ υ := ⟨[], by simp⟩

instance : Inhabited (OrderedMap κ υ) := ⟨empty⟩

/-- Sets the value at a key. -/
def insert (m : OrderedMap κ υ) (key : κ) (value : υ) : OrderedMap κ υ :=
  ⟨putEntry key value m.entries, nodup_putEntry key value m.entries m.nodup⟩

/-- The value at a key. -/
def get? (m : OrderedMap κ υ) (key : κ) : Option υ :=
  (m.entries.find? (·.1 = key)).map Prod.snd

/-- Sets the value at every key of the list, the last one counting. -/
def insertAll (m : OrderedMap κ υ) (entries : List (κ × υ)) : OrderedMap κ υ :=
  entries.foldl (fun m entry => m.insert entry.1 entry.2) m

/-- The map of a list of entries: of equal keys the first gives the place and the last the value. -/
def ofList (entries : List (κ × υ)) : OrderedMap κ υ := empty.insertAll entries

/-- The keys in order. -/
def keys (m : OrderedMap κ υ) : List κ := m.entries.map Prod.fst

/-- The values in the order of their keys. -/
def values (m : OrderedMap κ υ) : List υ := m.entries.map Prod.snd

/-- The number of entries. -/
def size (m : OrderedMap κ υ) : Nat := m.entries.length

theorem keys_insert (m : OrderedMap κ υ) (key : κ) (value : υ) :
    (m.insert key value).keys = if key ∈ m.keys then m.keys else m.keys ++ [key] :=
  keys_putEntry key value m.entries

theorem find?_putEntry (key : κ) (value : υ) (other : κ) : ∀ entries : List (κ × υ),
    (putEntry key value entries).find? (·.1 = other) =
      if key = other then some (key, value) else entries.find? (·.1 = other)
  | [] => by by_cases h : key = other <;> simp [putEntry, h]
  | entry :: rest => by
    by_cases h : key = other
    · subst h
      by_cases hk : entry.1 = key
      · simp [putEntry, hk]
      · simp [putEntry, hk, find?_putEntry key value key rest]
    · by_cases hk : entry.1 = key
      · simp [putEntry, hk, h]
      · simp [putEntry, hk, List.find?_cons, find?_putEntry key value other rest, h]

@[simp]
theorem get?_insert_self (m : OrderedMap κ υ) (key : κ) (value : υ) :
    (m.insert key value).get? key = some value := by
  simp [get?, insert, find?_putEntry]

theorem get?_insert_of_ne (m : OrderedMap κ υ) {key other : κ} (value : υ) (h : key ≠ other) :
    (m.insert key value).get? other = m.get? other := by
  simp [get?, insert, find?_putEntry, h]

theorem mem_entries_of_get? {m : OrderedMap κ υ} {key : κ} {value : υ}
    (h : m.get? key = some value) : (key, value) ∈ m.entries := by
  obtain ⟨entry, hfind, rfl⟩ := Option.map_eq_some_iff.1 h
  have hkey : entry.1 = key := by simpa using List.find?_some hfind
  exact hkey ▸ List.mem_of_find?_eq_some hfind

theorem find?_of_mem_of_nodup {key : κ} {value : υ} : ∀ {entries : List (κ × υ)},
    (entries.map Prod.fst).Nodup → (key, value) ∈ entries →
      entries.find? (·.1 = key) = some (key, value)
  | [], _, h => absurd h List.not_mem_nil
  | entry :: rest, hn, h => by
    simp only [List.map_cons, List.nodup_cons] at hn
    rcases List.mem_cons.1 h with rfl | hrest
    · simp
    · have hne : entry.1 ≠ key := fun e => hn.1 (e ▸ List.mem_map.2 ⟨_, hrest, rfl⟩)
      simp [hne, find?_of_mem_of_nodup hn.2 hrest]

theorem get?_eq_some_iff {m : OrderedMap κ υ} {key : κ} {value : υ} :
    m.get? key = some value ↔ (key, value) ∈ m.entries :=
  ⟨mem_entries_of_get?, fun h => by simp [get?, find?_of_mem_of_nodup m.nodup h]⟩

theorem get?_eq_none_iff {m : OrderedMap κ υ} {key : κ} : m.get? key = none ↔ key ∉ m.keys := by
  simp only [get?, Option.map_eq_none_iff, List.find?_eq_none, decide_eq_true_eq, keys,
    List.mem_map, not_exists, not_and]

theorem putEntry_of_not_mem (key : κ) (value : υ) : ∀ entries : List (κ × υ),
    key ∉ entries.map Prod.fst → putEntry key value entries = entries ++ [(key, value)]
  | [], _ => rfl
  | entry :: rest, h => by
    simp only [List.map_cons, List.mem_cons, not_or] at h
    simp [putEntry, Ne.symm h.1, putEntry_of_not_mem key value rest h.2]

/-- A new key goes to the end. -/
theorem entries_insert_of_get?_eq_none {m : OrderedMap κ υ} {key : κ} (value : υ)
    (h : m.get? key = none) : (m.insert key value).entries = m.entries ++ [(key, value)] :=
  putEntry_of_not_mem key value m.entries (get?_eq_none_iff.1 h)

theorem mem_putEntry {key : κ} {value : υ} {slot : κ × υ} : ∀ {entries : List (κ × υ)},
    slot ∈ putEntry key value entries → slot = (key, value) ∨ slot ∈ entries
  | [], h => Or.inl (List.mem_singleton.1 h)
  | entry :: rest, h => by
    unfold putEntry at h
    split at h
    · rcases List.mem_cons.1 h with h | h
      · exact Or.inl h
      · exact Or.inr (List.mem_cons_of_mem entry h)
    · rcases List.mem_cons.1 h with h | h
      · exact Or.inr (h ▸ List.mem_cons_self)
      · rcases mem_putEntry h with h | h
        · exact Or.inl h
        · exact Or.inr (List.mem_cons_of_mem entry h)

/-- No entries come in but the new ones. -/
theorem mem_entries_insertAll {slot : κ × υ} : ∀ {entries : List (κ × υ)} {m : OrderedMap κ υ},
    slot ∈ (m.insertAll entries).entries → slot ∈ m.entries ∨ slot ∈ entries
  | [], _, h => Or.inl h
  | entry :: rest, m, h => by
    have hrest : slot ∈ ((m.insert entry.1 entry.2).insertAll rest).entries := h
    rcases mem_entries_insertAll hrest with h | h
    · rcases mem_putEntry h with h | h
      · exact Or.inr (h ▸ List.mem_cons_self)
      · exact Or.inl h
    · exact Or.inr (List.mem_cons_of_mem entry h)

theorem entries_insertAll (entries : List (κ × υ)) : ∀ m : OrderedMap κ υ,
    (m.keys ++ entries.map Prod.fst).Nodup →
      (m.insertAll entries).entries = m.entries ++ entries := by
  induction entries with
  | nil => intro m _; simp [insertAll]
  | cons entry rest ih =>
    intro m h
    have hm : entry.1 ∉ m.keys := fun hk =>
      (List.nodup_append.1 h).2.2 _ hk _ (by simp) rfl
    have hput := putEntry_of_not_mem entry.1 entry.2 m.entries hm
    have hnext := ih (m.insert entry.1 entry.2) (by
      rw [keys_insert, if_neg hm]
      simpa [List.append_assoc] using h)
    simpa [insertAll, insert, hput] using hnext

/-- Entries with different keys stay as they are. -/
theorem entries_ofList {entries : List (κ × υ)} (h : (entries.map Prod.fst).Nodup) :
    (ofList entries).entries = entries :=
  entries_insertAll entries empty h

/-- Different keys stay in order with values of their own. -/
theorem entries_ofList_zip {keys : List κ} {values : List υ} (hnodup : keys.Nodup)
    (hlengths : keys.length = values.length) : (ofList (keys.zip values)).entries = keys.zip values :=
  entries_ofList (by rwa [List.map_fst_zip (Nat.le_of_eq hlengths)])

/-- Values under different keys are found under them, in order. -/
theorem map_get?_ofList {keys : List κ} {values : List υ} (hnodup : keys.Nodup)
    (hlengths : keys.length = values.length) :
    keys.map (ofList (keys.zip values)).get? = values.map some := by
  refine List.ext_getElem (by simp [hlengths]) fun index hindex hindex' => ?_
  rw [List.length_map] at hindex hindex'
  have hzip : index < (keys.zip values).length := by
    rw [List.length_zip]
    omega
  have hmem : (keys[index], values[index]) ∈ (ofList (keys.zip values)).entries := by
    rw [entries_ofList_zip hnodup hlengths, ← List.getElem_zip (h := hzip)]
    exact List.getElem_mem hzip
  rw [List.getElem_map, List.getElem_map]
  exact get?_eq_some_iff.2 hmem

/-- The map of its own entries is the map itself. -/
theorem ofList_entries (m : OrderedMap κ υ) : ofList m.entries = m := by
  cases m with
  | mk entries nodup =>
    have h : (ofList entries).entries = entries := entries_ofList nodup
    cases hm : ofList entries with
    | mk entries' nodup' =>
      rw [hm] at h
      cases h
      rfl

end OrderedMap

end Chronicle
