/-
# Labels laid over the well-known ones

Labels that are added to the well-known ones come behind them, unless they are
given under exactly the key of a well-known label: then they take its place. Only
after that are the keys brought to lower case, where the last entry counts. So
an address that is not among the keys, in any case, keeps its well-known label,
and else the last of its entries counts, as it does without the well-known
labels; except that an entry under the lowercase key of a well-known address has
moved to the front, so that an entry under another spelling counts though it was
given before.

Key definitions: `OrderedMap.restrict`, `Labels.spellings`, `Labels.ranked`,
`Labels.told`, `Labels.Reverts`, `Labels.Overlays`.
Key theorems: `OrderedMap.restrict_insertAll`, `Labels.get?_wellKnown`,
`Labels.ranked_of_known`, `Labels.wellKnown_overlays`.
-/
import Chronicle.Narration.Labels
import Chronicle.Proofs.SharedNames
import Mathlib.Data.List.Nodup

namespace Chronicle

/-! ### Some of the keys of a map -/

namespace OrderedMap

variable {κ υ : Type} [DecidableEq κ] (p : κ → Bool)

/-- The entries whose keys are in `p`. -/
def restrict (m : OrderedMap κ υ) : OrderedMap κ υ :=
  ⟨m.entries.filter (p ·.1), m.nodup.sublist (List.filter_sublist.map Prod.fst)⟩

theorem filter_putEntry (key : κ) (value : υ) : ∀ entries : List (κ × υ),
    (putEntry key value entries).filter (p ·.1) =
      if p key then putEntry key value (entries.filter (p ·.1)) else entries.filter (p ·.1)
  | [] => by by_cases hkey : p key <;> simp [putEntry, hkey]
  | entry :: rest => by
    by_cases hsame : entry.1 = key
    · subst hsame
      by_cases hkey : p entry.1 <;> simp [putEntry, hkey]
    · by_cases hkey : p key <;> by_cases hentry : p entry.1 <;>
        simp [putEntry, hsame, hkey, hentry, filter_putEntry key value rest]

omit [DecidableEq κ] in
theorem eq_of_entries {m n : OrderedMap κ υ} (h : m.entries = n.entries) : m = n := by
  cases m
  cases n
  cases h
  rfl

theorem restrict_insert (m : OrderedMap κ υ) (key : κ) (value : υ) :
    (m.insert key value).restrict p =
      if p key then (m.restrict p).insert key value else m.restrict p := by
  have hput := filter_putEntry p key value m.entries
  by_cases hkey : p key
  · rw [if_pos hkey] at hput ⊢
    exact eq_of_entries hput
  · rw [if_neg hkey] at hput ⊢
    exact eq_of_entries hput

/-- Entries under other keys do not matter. -/
theorem restrict_insertAll : ∀ (entries : List (κ × υ)) (m : OrderedMap κ υ),
    (m.insertAll entries).restrict p = (m.restrict p).insertAll (entries.filter (p ·.1))
  | [], _ => rfl
  | entry :: rest, m => by
    have hstep : (m.insertAll (entry :: rest)).restrict p =
        ((m.insert entry.1 entry.2).insertAll rest).restrict p := rfl
    rw [hstep, restrict_insertAll rest, restrict_insert]
    by_cases hkey : p entry.1
    · rw [if_pos hkey, List.filter_cons_of_pos (by exact hkey)]
      rfl
    · rw [if_neg hkey, List.filter_cons_of_neg (by exact hkey)]

/-- The last value under a key counts, if there is one. -/
theorem get?_insertAll (key : κ) : ∀ (entries : List (κ × υ)) (m : OrderedMap κ υ),
    (m.insertAll entries).get? key =
      ((entries.filter (·.1 = key)).getLast?.map Prod.snd).or (m.get? key)
  | [], _ => rfl
  | entry :: rest, m => by
    have hstep : (m.insertAll (entry :: rest)).get? key =
        ((m.insert entry.1 entry.2).insertAll rest).get? key := rfl
    rw [hstep, get?_insertAll key rest]
    by_cases hkey : entry.1 = key
    · subst hkey
      rw [get?_insert_self, List.filter_cons_of_pos (by simp), List.getLast?_cons]
      cases (rest.filter (·.1 = entry.1)).getLast? <;> simp
    · rw [get?_insert_of_ne m entry.2 hkey, List.filter_cons_of_neg (by simpa using hkey)]

/-- Under different keys, one entry at most is found under each. -/
theorem filter_eq_toList (key : κ) : ∀ {entries : List (κ × υ)},
    (entries.map Prod.fst).Nodup →
      entries.filter (·.1 = key) = (entries.find? (·.1 = key)).toList
  | [], _ => rfl
  | entry :: rest, h => by
    rw [List.map_cons, List.nodup_cons] at h
    by_cases hkey : entry.1 = key
    · have hrest : rest.filter (·.1 = key) = [] := by
        refine List.filter_eq_nil_iff.2 fun other hother hsame => h.1 ?_
        have hsame : other.1 = key := of_decide_eq_true hsame
        exact hkey ▸ hsame ▸ List.mem_map_of_mem hother
      simp [hkey, hrest]
    · simp [hkey, filter_eq_toList key h.2]

/-- Into a map with one entry, that key being given again: it has the new value, and all that was
given before and after it stands behind it. -/
theorem entries_insertAll_singleton {key : κ} {value other : υ} {before after : List (κ × υ)}
    {m : OrderedMap κ υ} (hm : m.entries = [(key, other)])
    (hnodup : ((before ++ (key, value) :: after).map Prod.fst).Nodup) :
    (m.insertAll (before ++ (key, value) :: after)).entries =
      (key, value) :: (before ++ after) := by
  have hall : (key :: (before.map Prod.fst ++ after.map Prod.fst)).Nodup := by
    rw [List.map_append, List.map_cons] at hnodup
    exact List.nodup_middle.1 hnodup
  have hkeys : m.keys = [key] := by rw [keys, hm]; rfl
  have hfirst : (m.insertAll before).entries = (key, other) :: before := by
    rw [entries_insertAll before m, hm]
    · rfl
    · rw [hkeys]
      exact hall.sublist ((List.sublist_append_left _ _).cons_cons key)
  have hput : ((m.insertAll before).insert key value).entries = (key, value) :: before := by
    show putEntry key value (m.insertAll before).entries = _
    rw [hfirst]
    simp [putEntry]
  have hsplit : m.insertAll (before ++ (key, value) :: after) =
      ((m.insertAll before).insert key value).insertAll after := insertAll_append ..
  rw [hsplit, entries_insertAll after, hput]
  · rfl
  · rw [keys, hput]
    exact hall

end OrderedMap

/-! ### Keys in lower case -/

namespace Labels

/-- The entries of the pairs whose keys are the address in some case, where each key counts once. -/
def spellings (pairs : List (String × String)) (address : String) : List (String × String) :=
  (OrderedMap.ofList pairs).entries.filter (Text.lowercase ·.1 = Text.lowercase address)

/-- In a map by lowercase addresses, the last entry whose key is the address in some case counts. -/
theorem get?_ofMap (labels : OrderedMap String String) (key : String) :
    (ofMap labels).get? key =
      (labels.entries.filter (Text.lowercase ·.1 = key)).getLast?.map Prod.snd := by
  rw [ofMap, OrderedMap.ofList, OrderedMap.get?_insertAll, List.filter_map, List.getLast?_map,
    Option.map_map]
  have hempty : (OrderedMap.empty : OrderedMap String String).get? key = none := rfl
  rw [hempty, Option.or_none]
  rfl

variable {extra : List (String × String)} {address : String}

/-- What a resolver with these labels says about an address. -/
def told (labels : OrderedMap String String) (session : Session) (address : String) :
    Except Fault (Option String) :=
  (((Resolver.ofMap labels false).resolve address).run.run session).1

theorem told_eq (labels : OrderedMap String String) (session : Session) (address : String) :
    told labels session address = .ok (labels.get? (Text.lowercase address)) := rfl

/-- The keys of well-known labels are different, and each is in lower case. -/
theorem lowercase_wellKnown : (wellKnownPairs.map Prod.fst).Nodup ∧
    ∀ entry ∈ wellKnownPairs, Text.lowercase entry.1 = entry.1 := by decide +kernel

/-- Without the well-known labels the last of the entries of an address counts. -/
theorem get?_ofPairs : (ofPairs extra).get? (Text.lowercase address) =
    (spellings extra address).getLast?.map Prod.snd := get?_ofMap _ _

/-- The spellings of an address, and before them the well-known label under it, in their order in the
map of all labels. -/
def ranked (extra : List (String × String)) (address : String) : List (String × String) :=
  (((OrderedMap.ofList wellKnownPairs).restrict
    (Text.lowercase · = Text.lowercase address)).insertAll (spellings extra address)).entries

theorem get?_wellKnown : (wellKnown extra).get? (Text.lowercase address) =
    (ranked extra address).getLast?.map Prod.snd := by
  rw [wellKnown, get?_ofMap, ranked, spellings, ← OrderedMap.restrict_insertAll]
  rfl

/-- The well-known entry of an address, if there is one. -/
theorem restrict_wellKnown (address : String) : ((OrderedMap.ofList wellKnownPairs).restrict
    (Text.lowercase · = Text.lowercase address)).entries =
      ((OrderedMap.ofList wellKnownPairs).entries.find? (·.1 = Text.lowercase address)).toList := by
  have hentries := OrderedMap.entries_ofList lowercase_wellKnown.1
  have hfilter : wellKnownPairs.filter (Text.lowercase ·.1 = Text.lowercase address) =
      wellKnownPairs.filter (·.1 = Text.lowercase address) := by
    refine List.filter_congr fun entry hentry => ?_
    rw [lowercase_wellKnown.2 entry hentry]
  rw [← OrderedMap.filter_eq_toList _ (OrderedMap.nodup _), hentries, ← hfilter, ← hentries]
  rfl

theorem nodup_spellings (extra : List (String × String)) (address : String) :
    ((spellings extra address).map Prod.fst).Nodup :=
  (OrderedMap.ofList extra).nodup.sublist (List.filter_sublist.map Prod.fst)

/-- The spellings of an address that is not well-known are in their own order. -/
theorem ranked_of_unknown
    (h : (OrderedMap.ofList wellKnownPairs).get? (Text.lowercase address) = none) :
    ranked extra address = spellings extra address := by
  have hnone := restrict_wellKnown address
  rw [Option.map_eq_none_iff.1 h] at hnone
  rw [ranked, OrderedMap.entries_insertAll, hnone]
  · rfl
  · rw [OrderedMap.keys, hnone]
    exact nodup_spellings extra address

/-- The label of a well-known address is before all spellings, except that it gives way to an entry
under its own key. -/
theorem ranked_of_known (extra : List (String × String)) {label : String}
    (h : (OrderedMap.ofList wellKnownPairs).get? (Text.lowercase address) = some label) :
    (Text.lowercase address ∉ (spellings extra address).map Prod.fst ∧
      ranked extra address = (Text.lowercase address, label) :: spellings extra address) ∨
    ∃ before value after,
      spellings extra address = before ++ (Text.lowercase address, value) :: after ∧
      ranked extra address = (Text.lowercase address, value) :: (before ++ after) := by
  have hfind := OrderedMap.find?_of_mem_of_nodup (OrderedMap.nodup _)
    (OrderedMap.mem_entries_of_get? h)
  have hone := restrict_wellKnown address
  rw [hfind, Option.toList_some] at hone
  have hnodup := nodup_spellings extra address
  by_cases hmem : Text.lowercase address ∈ (spellings extra address).map Prod.fst
  · obtain ⟨⟨key, value⟩, hentry, hkey⟩ := List.mem_map.1 hmem
    obtain rfl : key = Text.lowercase address := hkey
    obtain ⟨before, after, hsplit⟩ := List.append_of_mem hentry
    refine Or.inr ⟨before, value, after, hsplit, ?_⟩
    rw [hsplit] at hnodup
    rw [ranked, hsplit]
    exact OrderedMap.entries_insertAll_singleton hone hnodup
  · refine Or.inl ⟨hmem, ?_⟩
    rw [ranked, OrderedMap.entries_insertAll, hone]
    · rfl
    · rw [OrderedMap.keys, hone]
      exact List.nodup_cons.2 ⟨hmem, hnodup⟩

/-! ### Which label counts -/

/-- The address is well-known, and the last of its entries is under its lowercase key, behind one
under another key with the label `earlier`, which is another label. -/
def Reverts (extra : List (String × String)) (address earlier : String) : Prop :=
  Text.lowercase address ∈ wellKnownPairs.map Prod.fst ∧ ∃ before other label,
    spellings extra address = before ++ [(other, earlier), (Text.lowercase address, label)] ∧
      label ≠ earlier

/-- The address is well-known if its lowercase form is a key. -/
theorem exists_wellKnown (h : Text.lowercase address ∈ wellKnownPairs.map Prod.fst) :
    ∃ label, (OrderedMap.ofList wellKnownPairs).get? (Text.lowercase address) = some label := by
  refine Option.ne_none_iff_exists'.1 fun hnone => OrderedMap.get?_eq_none_iff.1 hnone ?_
  rwa [OrderedMap.keys, OrderedMap.entries_ofList lowercase_wellKnown.1]

theorem mem_wellKnown_of_get? {label : String}
    (h : (OrderedMap.ofList wellKnownPairs).get? (Text.lowercase address) = some label) :
    Text.lowercase address ∈ wellKnownPairs.map Prod.fst := by
  have hmem := OrderedMap.mem_entries_of_get? h
  rw [OrderedMap.entries_ofList lowercase_wellKnown.1] at hmem
  exact List.mem_map_of_mem hmem

/-- Where keys are different, nothing is behind an entry under the last key. -/
theorem eq_nil_of_last_key {key value label : String} {before after front : List (String × String)}
    (hnodup : ((before ++ (key, value) :: after).map Prod.fst).Nodup)
    (h : before ++ (key, value) :: after = front ++ [(key, label)]) : after = [] := by
  rcases List.eq_nil_or_concat' after with hnil | ⟨init, last, rfl⟩
  · exact hnil
  · have hlast := congrArg (fun entries => entries.getLast?.map Prod.fst) h
    have hkey : last.1 = key := by
      simpa [List.getLast?_append, List.getLast?_cons] using hlast
    rw [List.map_append, List.map_cons] at hnodup
    exact absurd (by simp [hkey]) (List.nodup_cons.1 hnodup.of_append_right).1

/-- If a label comes back, its entry is last in the map of all labels. -/
theorem getLast?_ranked_of_reverts {earlier : String} (h : Reverts extra address earlier) :
    (ranked extra address).getLast?.map Prod.snd = some earlier := by
  obtain ⟨hknown, before, other, label, hspellings, -⟩ := h
  obtain ⟨old, hold⟩ := exists_wellKnown hknown
  have hnodup := nodup_spellings extra address
  rcases ranked_of_known extra hold with
    ⟨hmem, -⟩ | ⟨front, value, after, hsplit, hranked⟩
  · rw [hspellings] at hmem
    exact absurd (by simp) hmem
  · have hsame : front ++ (Text.lowercase address, value) :: after =
        (before ++ [(other, earlier)]) ++ [(Text.lowercase address, label)] := by
      rw [← hsplit, hspellings, List.append_assoc]
      rfl
    rw [hsplit] at hnodup
    obtain rfl := eq_nil_of_last_key hnodup hsame
    obtain ⟨rfl, -⟩ := List.append_inj' hsame rfl
    rw [hranked]
    simp [List.getLast?_cons]

/-- If no label comes back, the last spelling counts, and behind all of them the well-known label. -/
theorem getLast?_ranked_of_not_reverts (h : ∀ earlier, ¬ Reverts extra address earlier) :
    (ranked extra address).getLast?.map Prod.snd =
      ((spellings extra address).getLast?.map Prod.snd).or
        ((OrderedMap.ofList wellKnownPairs).get? (Text.lowercase address)) := by
  cases hknown : (OrderedMap.ofList wellKnownPairs).get? (Text.lowercase address) with
  | none => rw [ranked_of_unknown hknown, Option.or_none]
  | some old =>
    rcases ranked_of_known extra hknown with
      ⟨-, hranked⟩ | ⟨before, value, after, hsplit, hranked⟩
    · rw [hranked, List.getLast?_cons]
      cases (spellings extra address).getLast? <;> simp
    · rw [hranked, hsplit]
      -- What moved to the front was the last of the spellings or not; if it was, the one before it
      -- is last now, and has the same label because nothing reverts.
      rcases List.eq_nil_or_concat' after with rfl | ⟨init, last, rfl⟩
      · rcases List.eq_nil_or_concat' before with rfl | ⟨front, ⟨other, earlier⟩, rfl⟩
        · simp
        · have hlabel : value = earlier := by
            by_contra hne
            refine h earlier ⟨mem_wellKnown_of_get? hknown, front, other, value, ?_, hne⟩
            rw [hsplit, List.append_assoc]
            rfl
          simp [hlabel, List.getLast?_cons]
      · simp [List.getLast?_cons, List.getLast?_append]

/-- How the labels `extra` are laid over the well-known ones at an address. -/
structure Overlays (extra : List (String × String)) (session : Session) (address : String) :
    Prop where
  /-- If the address is not among the keys in any case, its well-known label counts. -/
  outside : (∀ entry ∈ extra, Text.lowercase entry.1 ≠ Text.lowercase address) →
    told (wellKnown extra) session address =
      .ok ((OrderedMap.ofList wellKnownPairs).get? (Text.lowercase address))
  /-- If it is, the answer is the one that there is without the well-known labels. -/
  inside : (∃ entry ∈ extra, Text.lowercase entry.1 = Text.lowercase address) →
    (∀ earlier, ¬ Reverts extra address earlier) →
      told (wellKnown extra) session address = told (ofPairs extra) session address
  /-- But a label that was given before may come back. -/
  reverted : ∀ earlier, Reverts extra address earlier →
    told (wellKnown extra) session address = .ok (some earlier) ∧
      told (wellKnown extra) session address ≠ told (ofPairs extra) session address

/-- An address has no spellings if no key is equal to it up to case. -/
theorem spellings_eq_nil_iff : spellings extra address = [] ↔
    ∀ entry ∈ extra, Text.lowercase entry.1 ≠ Text.lowercase address := by
  have hkeys : ∀ key, key ∈ (OrderedMap.ofList extra).keys ↔ key ∈ extra.map Prod.fst := by
    intro key
    rw [OrderedMap.keys_ofList, List.mem_eraseDups]
  calc spellings extra address = []
      ↔ ∀ key ∈ (OrderedMap.ofList extra).keys, Text.lowercase key ≠ Text.lowercase address := by
        simp only [spellings, List.filter_eq_nil_iff, decide_eq_true_eq, OrderedMap.keys,
          List.forall_mem_map, ne_eq]
    _ ↔ ∀ key ∈ extra.map Prod.fst, Text.lowercase key ≠ Text.lowercase address := by
        simp only [hkeys]
    _ ↔ _ := List.forall_mem_map

/-- Laid over the well-known labels, a map decides about its addresses as it does alone, unless a
label that was given before comes back, and about no others. -/
theorem wellKnown_overlays (extra : List (String × String)) (session : Session)
    (address : String) : Overlays extra session address where
  outside hnone := by
    have hnil := spellings_eq_nil_iff.2 hnone
    have hreverts : ∀ earlier, ¬ Reverts extra address earlier := by
      rintro earlier ⟨-, before, other, label, hsplit, -⟩
      simp [hnil] at hsplit
    rw [told_eq, get?_wellKnown, getLast?_ranked_of_not_reverts hreverts, hnil]
    rfl
  inside hsome hreverts := by
    have hne : spellings extra address ≠ [] := by
      rw [ne_eq, spellings_eq_nil_iff]
      obtain ⟨entry, hentry, hsame⟩ := hsome
      exact fun hall => hall entry hentry hsame
    rw [told_eq, told_eq, get?_wellKnown, get?_ofPairs, getLast?_ranked_of_not_reverts hreverts,
      List.getLast?_eq_some_getLast hne]
    rfl
  reverted earlier hreverts := by
    have hlast := getLast?_ranked_of_reverts hreverts
    obtain ⟨-, before, other, label, hsplit, hne⟩ := hreverts
    rw [told_eq, told_eq, get?_wellKnown, get?_ofPairs, hlast, hsplit]
    exact ⟨rfl, by simpa [List.getLast?_append] using Ne.symm hne⟩

end Labels

/-! ### Two spellings of a well-known address -/

namespace Tether

/-- An address that has a well-known label. -/
def address : String := "0xdac17f958d2ee523a2206206994597c13d831ec7"

/-- Labels for the address with digits in upper case and then in lower case. -/
def extra : List (String × String) :=
  [("0xDAC17F958D2EE523A2206206994597C13D831EC7", "Old"), (address, "New")]

/-- Over the well-known labels, the label counts that was given first. -/
theorem told_earlier :
    Labels.told (Labels.ofPairs extra) .fresh address = .ok (some "New") ∧
      Labels.told (Labels.wellKnown extra) .fresh address = .ok (some "Old") ∧
      (∃ entry ∈ extra, Text.lowercase entry.1 = Text.lowercase address) ∧
      Labels.told (Labels.wellKnown extra) .fresh address ≠
        Labels.told (Labels.ofPairs extra) .fresh address := by
  have hnew : Labels.told (Labels.ofPairs extra) .fresh address = .ok (some "New") := by
    rw [Labels.told_eq]
    decide +kernel
  have hold : Labels.told (Labels.wellKnown extra) .fresh address = .ok (some "Old") := by
    rw [Labels.told_eq]
    decide +kernel
  refine ⟨hnew, hold, ⟨_, List.mem_cons_of_mem _ List.mem_cons_self, rfl⟩, ?_⟩
  rw [hnew, hold]
  simp

end Tether

end Chronicle
