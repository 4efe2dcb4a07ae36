/- # JSON values read back

The text of a value is read to that value in every layout. A reader of one
value is led through its text by the first character that is not blank; what
stands around the items of a container is blank but for commas and brackets, and
the fuel is enough since every level and every item has a character of its own.

Key definition: `Json.carries`.
Key theorems: `Json.readsBack`, `Json.read?_write`, `Call.read?_toJson`.
-/
import Chronicle.Call
import Chronicle.Proofs.JsonStrings
import Mathlib.Data.List.DropRight

namespace Chronicle

namespace Json

mutual

/-- Whether JSON carries a value without loss: it is made of nulls, truth values, numerals that can
be written, strings, lists, and objects whose fields have different names. -/
def carries : Value → Bool
  | .null => true
  | .bool _ => true
  | .int n => n.natAbs.repr.length ≤ Numeral.maxDigits
  | .text _ => true
  | .list items => carriesItems items
  | .object fields => (fields.map Prod.fst).Nodup && carriesFields fields
  | _ => false

/-- Whether JSON carries all items of a list. -/
def carriesItems : List Value → Bool
  | [] => true
  | v :: vs => carries v && carriesItems vs

/-- Whether JSON carries the values of all fields. -/
def carriesFields : List (String × Value) → Bool
  | [] => true
  | (_, v) :: fields => carries v && carriesFields fields

end

theorem carriesItems_eq_true_iff : ∀ {items : List Value},
    carriesItems items = true ↔ ∀ item ∈ items, carries item = true
  | [] => by simp [carriesItems]
  | v :: items => by
    rw [carriesItems, Bool.and_eq_true_iff, carriesItems_eq_true_iff, List.forall_mem_cons]

theorem carriesFields_eq_true_iff : ∀ {fields : List (String × Value)},
    carriesFields fields = true ↔ ∀ field ∈ fields, carries field.2 = true
  | [] => by simp [carriesFields]
  | (_, v) :: fields => by
    rw [carriesFields, Bool.and_eq_true_iff, carriesFields_eq_true_iff, List.forall_mem_cons]

/-! ### Writing succeeds -/

mutual

theorem defect?_of_carries : ∀ {v : Value}, carries v = true → defect? v = none
  | .null, _ => rfl
  | .bool _, _ => rfl
  | .int n, h => by
    have hwrite : Numeral.write? n = some (Numeral.text n) :=
      Numeral.write?_eq_some_iff.2 ⟨of_decide_eq_true h, rfl⟩
    rw [defect?, hwrite]
    rfl
  | .text _, _ => rfl
  | .list _, h => defectOfItems?_of_carries h
  | .object _, h => defectOfFields?_of_carries (Bool.and_eq_true_iff.1 h).2

theorem defectOfItems?_of_carries : ∀ {vs : List Value}, carriesItems vs = true →
    defectOfItems? vs = none
  | [], _ => rfl
  | v :: vs, h => by
    obtain ⟨hv, hvs⟩ := Bool.and_eq_true_iff.1 h
    rw [defectOfItems?, defect?_of_carries hv, defectOfItems?_of_carries hvs]
    rfl

theorem defectOfFields?_of_carries : ∀ {fields : List (String × Value)},
    carriesFields fields = true → defectOfFields? fields = none
  | [], _ => rfl
  | (_, v) :: fields, h => by
    obtain ⟨hv, hfields⟩ := Bool.and_eq_true_iff.1 h
    rw [defectOfFields?, defect?_of_carries hv, defectOfFields?_of_carries hfields]
    rfl

end

/-- A value that JSON carries is written. -/
theorem write_of_carries {v : Value} (h : carries v = true) (layout : Layout) :
    write layout v = .ok (String.ofList (render layout 0 v)) := by
  rw [write, defect?_of_carries h]

/-! ### Blanks -/

theorem skipBlanks_append {blanks cs : List Char} (hblanks : ∀ c ∈ blanks, isBlank c = true)
    (hcs : StopsAt isBlank cs) : skipBlanks (blanks ++ cs) = cs :=
  dropWhile_append_of_stopsAt hblanks hcs

theorem isBlank_newline_spaces (n : Nat) :
    ∀ c ∈ '\n' :: List.replicate n ' ', isBlank c = true := by
  intro c hc
  rcases List.mem_cons.1 hc with rfl | hc
  · rfl
  · rw [(List.mem_replicate.1 hc).2]
    rfl

theorem isBlank_opening (layout : Layout) (depth : Nat) :
    ∀ c ∈ layout.opening depth, isBlank c = true := by
  cases layout with
  | line => exact fun c hc => absurd hc List.not_mem_nil
  | indented spaces => exact isBlank_newline_spaces _

theorem isBlank_closing (layout : Layout) (depth : Nat) :
    ∀ c ∈ layout.closing depth, isBlank c = true := by
  cases layout with
  | line => exact fun c hc => absurd hc List.not_mem_nil
  | indented spaces => exact isBlank_newline_spaces _

/-- Between items stands a comma and then blanks. -/
theorem between_eq (layout : Layout) (depth : Nat) :
    ∃ blanks, layout.between depth = ',' :: blanks ∧ ∀ c ∈ blanks, isBlank c = true := by
  cases layout with
  | line => exact ⟨[' '], rfl, by decide⟩
  | indented spaces => exact ⟨_, rfl, isBlank_newline_spaces _⟩

/-! ### The first character of a text -/

theorem toList_text_ofNat (n : Nat) : (Numeral.text (.ofNat n)).toList = Nat.toDigits 10 n :=
  Nat.toList_repr

theorem toList_text_negSucc (n : Nat) :
    (Numeral.text (.negSucc n)).toList = '-' :: Nat.toDigits 10 (n + 1) := by
  rw [Numeral.text, String.toList_append, Nat.toList_repr]
  rfl

theorem toDigits_eq_cons (n : Nat) :
    ∃ c cs, Nat.toDigits 10 n = c :: cs ∧ c.isDigit = true := by
  cases hdigits : Nat.toDigits 10 n with
  | nil => exact absurd hdigits Nat.toDigits_ne_nil
  | cons c cs => exact ⟨c, cs, rfl, isDigit_of_mem_toDigits c (hdigits ▸ List.mem_cons_self)⟩

/-- A text starts with a character that is neither blank nor a closing bracket. -/
theorem render_eq_cons (layout : Layout) (depth : Nat) {v : Value} (h : carries v = true) :
    ∃ c cs, render layout depth v = c :: cs ∧ isBlank c = false ∧ c ≠ ']' := by
  cases v with
  | null => exact ⟨'n', _, rfl, by decide⟩
  | bool b => cases b <;> exact ⟨_, _, rfl, by decide⟩
  | int n =>
    cases n with
    | ofNat n =>
      obtain ⟨c, cs, hdigits, hc⟩ := toDigits_eq_cons n
      refine ⟨c, cs, (toList_text_ofNat n).trans hdigits, ?_, ?_⟩
      · cases hblank : isBlank c with
        | false => rfl
        | true =>
          simp only [isBlank, Bool.or_eq_true, decide_eq_true_eq] at hblank
          rcases hblank with ((rfl | rfl) | rfl) | rfl <;> cases hc
      · rintro rfl
        cases hc
    | negSucc n => exact ⟨'-', _, toList_text_negSucc n, by decide⟩
  | text s => exact ⟨'"', _, rfl, by decide⟩
  | list items => cases items <;> exact ⟨'[', _, rfl, by decide⟩
  | object fields => cases fields <;> exact ⟨'\x7b', _, rfl, by decide⟩
  | real | bytes | member | foreign => cases h

/-! ### Reading one value -/

section

variable {fuel : Nat} {cs rest : List Char}

/-- Only what stands behind the blanks counts. -/
theorem readValue_of_skipBlanks {start : List Char} (h : skipBlanks cs = start) :
    readValue (fuel + 1) cs = readValue (fuel + 1) start := by
  have hstart : skipBlanks start = start := by
    rw [← h]
    exact List.dropWhile_idempotent isBlank cs
  rw [readValue, readValue, h, hstart]

theorem readValue_null (h : skipBlanks cs = 'n' :: 'u' :: 'l' :: 'l' :: rest) :
    readValue (fuel + 1) cs = some (.null, rest) := by
  rw [readValue_of_skipBlanks h]
  rfl

theorem readValue_true (h : skipBlanks cs = 't' :: 'r' :: 'u' :: 'e' :: rest) :
    readValue (fuel + 1) cs = some (.bool true, rest) := by
  rw [readValue_of_skipBlanks h]
  rfl

theorem readValue_false (h : skipBlanks cs = 'f' :: 'a' :: 'l' :: 's' :: 'e' :: rest) :
    readValue (fuel + 1) cs = some (.bool false, rest) := by
  rw [readValue_of_skipBlanks h]
  rfl

theorem readValue_string (h : skipBlanks cs = '"' :: rest) :
    readValue (fuel + 1) cs = (readString rest).map fun (s, rest) => (.text s, rest) := by
  rw [readValue_of_skipBlanks h]
  rfl

theorem readValue_minus (h : skipBlanks cs = '-' :: rest) :
    readValue (fuel + 1) cs = readNumber true rest := by
  rw [readValue_of_skipBlanks h]
  rfl

theorem readValue_digit {c : Char} (h : skipBlanks cs = c :: rest) (hc : c.isDigit = true) :
    readValue (fuel + 1) cs = readNumber false (c :: rest) := by
  rw [readValue, h]
  split <;> first | rfl | (next heq => cases heq; cases hc)

theorem readValue_emptyList (h : skipBlanks cs = '[' :: ']' :: rest) :
    readValue (fuel + 1) cs = some (.list [], rest) := by
  rw [readValue_of_skipBlanks h]
  rfl

theorem readValue_list {c : Char} {inner : List Char} (h : skipBlanks cs = '[' :: rest)
    (hinner : skipBlanks rest = c :: inner) (hc : c ≠ ']') :
    readValue (fuel + 1) cs =
      (readItems fuel (c :: inner)).map fun (items, rest) => (.list items, rest) := by
  simp only [readValue, h, hinner]
  split
  · next heq => exact absurd (List.cons.inj heq).1 hc
  · rfl

theorem readValue_emptyObject (h : skipBlanks cs = '\x7b' :: '\x7d' :: rest) :
    readValue (fuel + 1) cs = some (.object [], rest) := by
  rw [readValue_of_skipBlanks h]
  rfl

theorem readValue_object {inner : List Char} (h : skipBlanks cs = '\x7b' :: rest)
    (hinner : skipBlanks rest = '"' :: inner) :
    readValue (fuel + 1) cs =
      (readFields fuel ('"' :: inner)).map fun (fields, rest) =>
        (.object (OrderedMap.ofList fields).entries, rest) := by
  simp only [readValue, h, hinner]
  rfl

end

/-! ### Items and fields -/

/-- The text of the value is read to it behind blanks, if there is as much fuel as text and no
number goes on after it. -/
def ReadsBack (layout : Layout) (v : Value) : Prop :=
  ∀ (depth fuel : Nat) (blanks rest : List Char), (∀ c ∈ blanks, isBlank c = true) →
    (render layout depth v).length ≤ fuel → StopsAt continuesNumber rest →
      readValue fuel (blanks ++ (render layout depth v ++ rest)) = some (v, rest)

section

variable {layout : Layout} {depth fuel : Nat} {blanks rest : List Char}

theorem stopsAt_closing {c : Char} (hc : continuesNumber c = false) (rest : List Char) :
    StopsAt continuesNumber (layout.closing depth ++ c :: rest) := by
  cases layout with
  | line => exact stopsAt_cons hc rest
  | indented spaces => exact stopsAt_cons (by decide) _

theorem stopsAt_renderItems (layout : Layout) (depth : Nat) (vs : List Value) (rest : List Char) :
    StopsAt continuesNumber (renderItems layout depth vs ++ (layout.closing depth ++ ']' :: rest)) := by
  cases vs with
  | nil => exact stopsAt_closing (by decide) rest
  | cons v vs =>
    obtain ⟨blanks, hbetween, -⟩ := between_eq layout depth
    rw [renderItems, hbetween]
    exact stopsAt_cons (by decide) _

theorem skipBlanks_closing {c : Char} (hc : isBlank c = false) (rest : List Char) :
    skipBlanks (layout.closing depth ++ c :: rest) = c :: rest :=
  skipBlanks_append (isBlank_closing layout depth) (stopsAt_cons hc rest)

/-- The items of a list are read back up to its closing bracket. -/
theorem readItems_render : ∀ {vs : List Value} {v : Value} {fuel : Nat} (blanks : List Char),
    (∀ w ∈ v :: vs, ReadsBack layout w) → (∀ c ∈ blanks, isBlank c = true) →
      (render layout (depth + 1) v).length + (renderItems layout depth vs).length < fuel →
        readItems fuel (blanks ++ (render layout (depth + 1) v ++
          (renderItems layout depth vs ++ (layout.closing depth ++ ']' :: rest)))) =
            some (v :: vs, rest)
  | _, _, 0, _, _, _, hfuel => absurd hfuel (Nat.not_lt_zero _)
  | [], v, fuel + 1, blanks, hreads, hblanks, hfuel => by
    have hlength : (render layout (depth + 1) v).length ≤ fuel := by omega
    have hv := hreads v List.mem_cons_self (depth + 1) fuel blanks _ hblanks hlength
      (stopsAt_renderItems layout depth [] rest)
    have hskip : skipBlanks (renderItems layout depth [] ++ (layout.closing depth ++ ']' :: rest)) =
        ']' :: rest := skipBlanks_closing (by decide) rest
    simp only [readItems, hv, hskip, Option.bind_eq_bind, Option.bind_some]
  | w :: ws, v, fuel + 1, blanks, hreads, hblanks, hfuel => by
    have hlength : (render layout (depth + 1) v).length ≤ fuel := by omega
    have hv := hreads v List.mem_cons_self (depth + 1) fuel blanks _ hblanks hlength
      (stopsAt_renderItems layout depth (w :: ws) rest)
    obtain ⟨between, hbetween, hblank⟩ := between_eq layout depth
    have hskip : skipBlanks (renderItems layout depth (w :: ws) ++
        (layout.closing depth ++ ']' :: rest)) = ',' :: (between ++ (render layout (depth + 1) w ++
          (renderItems layout depth ws ++ (layout.closing depth ++ ']' :: rest)))) := by
      rw [renderItems, hbetween]
      simp only [List.cons_append, List.append_assoc]
      exact dropWhile_of_stopsAt (stopsAt_cons (by decide) _)
    have hshorter : (render layout (depth + 1) w).length + (renderItems layout depth ws).length <
        fuel := by
      rw [renderItems, hbetween] at hfuel
      simp only [List.length_append, List.length_cons] at hfuel
      omega
    have hrest := readItems_render between (fun x hx => hreads x (List.mem_cons_of_mem v hx)) hblank
      hshorter
    simp only [readItems, hv, hskip, hrest, Option.bind_eq_bind, Option.bind_some]

/-- The value of a field is read behind one space. -/
theorem ReadsBack.field {v : Value} {behind : List Char} (h : ReadsBack layout v)
    (hfuel : (render layout depth v).length ≤ fuel) (hbehind : StopsAt continuesNumber behind) :
    readValue fuel (' ' :: (render layout depth v ++ behind)) = some (v, behind) := by
  have hblank : ∀ c ∈ [' '], isBlank c = true := by decide
  exact h depth fuel [' '] behind hblank hfuel hbehind

theorem skipBlanks_colon (cs : List Char) : skipBlanks (':' :: cs) = ':' :: cs := rfl

theorem renderString_append (s : String) (rest : List Char) :
    renderString s ++ rest = '"' :: (s.toList.flatMap renderChar ++ '"' :: rest) := by
  simp [renderString]

theorem skipBlanks_renderString (hblanks : ∀ c ∈ blanks, isBlank c = true) {s : String} :
    skipBlanks (blanks ++ (renderString s ++ rest)) =
      '"' :: (s.toList.flatMap renderChar ++ '"' :: rest) := by
  rw [renderString_append]
  exact skipBlanks_append hblanks (stopsAt_cons (by decide) _)

theorem stopsAt_renderFields (layout : Layout) (depth : Nat) (fields : List (String × Value))
    (rest : List Char) : StopsAt continuesNumber
      (renderFields layout depth fields ++ (layout.closing depth ++ '\x7d' :: rest)) := by
  cases fields with
  | nil => exact stopsAt_closing (by decide) rest
  | cons field fields =>
    obtain ⟨blanks, hbetween, -⟩ := between_eq layout depth
    rw [renderFields, hbetween]
    exact stopsAt_cons (by decide) _

/-- The fields of an object are read back up to its closing brace. -/
theorem readFields_render : ∀ {fields : List (String × Value)} {name : String} {v : Value}
    {fuel : Nat} (blanks : List Char), (∀ field ∈ (name, v) :: fields, ReadsBack layout field.2) →
      (∀ c ∈ blanks, isBlank c = true) →
        (render layout (depth + 1) v).length + (renderFields layout depth fields).length < fuel →
          readFields fuel (blanks ++ (renderString name ++ ':' :: ' ' ::
            (render layout (depth + 1) v ++
              (renderFields layout depth fields ++ (layout.closing depth ++ '\x7d' :: rest))))) =
                some ((name, v) :: fields, rest)
  | _, _, _, 0, _, _, _, hfuel => absurd hfuel (Nat.not_lt_zero _)
  | [], name, v, fuel + 1, blanks, hreads, hblanks, hfuel => by
    have hlength : (render layout (depth + 1) v).length ≤ fuel := by omega
    have hv := (hreads (name, v) List.mem_cons_self).field hlength
      (stopsAt_renderFields layout depth [] rest)
    have hskip : skipBlanks (renderFields layout depth [] ++
        (layout.closing depth ++ '\x7d' :: rest)) = '\x7d' :: rest :=
      skipBlanks_closing (by decide) rest
    simp only [readFields, skipBlanks_renderString hblanks, readString_renderString,
      skipBlanks_colon, hv, hskip, Option.bind_eq_bind, Option.bind_some]
  | (next, w) :: fields, name, v, fuel + 1, blanks, hreads, hblanks, hfuel => by
    have hlength : (render layout (depth + 1) v).length ≤ fuel := by omega
    have hv := (hreads (name, v) List.mem_cons_self).field hlength
      (stopsAt_renderFields layout depth ((next, w) :: fields) rest)
    obtain ⟨between, hbetween, hblank⟩ := between_eq layout depth
    have hskip : skipBlanks (renderFields layout depth ((next, w) :: fields) ++
        (layout.closing depth ++ '\x7d' :: rest)) =
          ',' :: (between ++ (renderString next ++ ':' :: ' ' ::
            (render layout (depth + 1) w ++
              (renderFields layout depth fields ++ (layout.closing depth ++ '\x7d' :: rest))))) := by
      rw [renderFields, hbetween]
      simp only [List.cons_append, List.append_assoc]
      exact dropWhile_of_stopsAt (stopsAt_cons (by decide) _)
    have hshorter : (render layout (depth + 1) w).length +
        (renderFields layout depth fields).length < fuel := by
      rw [renderFields, hbetween] at hfuel
      simp only [List.length_append, List.length_cons] at hfuel
      omega
    have hrest := readFields_render between
      (fun field hfield => hreads field (List.mem_cons_of_mem _ hfield)) hblank hshorter
    simp only [readFields, skipBlanks_renderString hblanks, readString_renderString,
      skipBlanks_colon, hv, hskip, hrest, Option.bind_eq_bind, Option.bind_some]

end

/-! ### All values -/

/-- It is enough to read the text once the blanks are past, with fuel for one level more. -/
theorem readsBack_of_succ {layout : Layout} {v : Value} (h : carries v = true)
    (hread : ∀ (depth fuel : Nat) (cs rest : List Char),
      (render layout depth v).length ≤ fuel + 1 → StopsAt continuesNumber rest →
        skipBlanks cs = render layout depth v ++ rest →
          readValue (fuel + 1) cs = some (v, rest)) : ReadsBack layout v := by
  intro depth fuel blanks rest hblanks hfuel hrest
  obtain ⟨c, tail, hrender, hc, -⟩ := render_eq_cons layout depth h
  have hskip : skipBlanks (blanks ++ (render layout depth v ++ rest)) =
      render layout depth v ++ rest := by
    rw [hrender]
    exact skipBlanks_append hblanks (stopsAt_cons hc _)
  cases fuel with
  | zero => simp [hrender] at hfuel
  | succ fuel => exact hread depth fuel _ rest hfuel hrest hskip

section

variable {layout : Layout}

theorem readsBack_int {n : Int} (h : carries (.int n) = true) : ReadsBack layout (.int n) := by
  refine readsBack_of_succ h fun depth fuel cs rest _ hrest hskip => ?_
  cases n with
  | ofNat n =>
    obtain ⟨c, tail, hdigits, hc⟩ := toDigits_eq_cons n
    have htext : skipBlanks cs = Nat.toDigits 10 n ++ rest :=
      hskip.trans (congrArg (· ++ rest) (toList_text_ofNat n))
    have hread := readNumber_toDigits false n hrest
    rw [hdigits] at htext hread
    exact (readValue_digit htext hc).trans hread
  | negSucc n =>
    have htext : skipBlanks cs = '-' :: (Nat.toDigits 10 (n + 1) ++ rest) :=
      hskip.trans (congrArg (· ++ rest) (toList_text_negSucc n))
    exact (readValue_minus htext).trans (readNumber_toDigits true (n + 1) hrest)

theorem readsBack_text (s : String) : ReadsBack layout (.text s) := by
  refine readsBack_of_succ rfl fun depth fuel cs rest _ _ hskip => ?_
  have htext : skipBlanks cs = '"' :: (s.toList.flatMap renderChar ++ '"' :: rest) := by
    rw [hskip]
    simp [render, renderString]
  rw [readValue_string htext, readString_renderString]
  rfl

theorem readsBack_list {vs : List Value} (h : carriesItems vs = true)
    (hreads : ∀ v ∈ vs, ReadsBack layout v) : ReadsBack layout (.list vs) := by
  refine readsBack_of_succ h fun depth fuel cs rest hfuel _ hskip => ?_
  cases vs with
  | nil => exact readValue_emptyList hskip
  | cons v vs =>
    obtain ⟨c, tail, hrender, hc, hbracket⟩ :=
      render_eq_cons layout (depth + 1) (Bool.and_eq_true_iff.1 h).1
    have hlist : skipBlanks cs = '[' :: (layout.opening depth ++ (render layout (depth + 1) v ++
        (renderItems layout depth vs ++ (layout.closing depth ++ ']' :: rest)))) := by
      rw [hskip]
      simp [render]
    have hinner : skipBlanks (layout.opening depth ++ (render layout (depth + 1) v ++
        (renderItems layout depth vs ++ (layout.closing depth ++ ']' :: rest)))) =
          c :: (tail ++ (renderItems layout depth vs ++ (layout.closing depth ++ ']' :: rest))) := by
      rw [hrender]
      exact skipBlanks_append (isBlank_opening layout depth) (stopsAt_cons hc _)
    have hshorter : (render layout (depth + 1) v).length + (renderItems layout depth vs).length <
        fuel := by
      simp only [render, List.length_append, List.length_cons, List.length_nil] at hfuel
      omega
    have hitems : readItems fuel (render layout (depth + 1) v ++ (renderItems layout depth vs ++
        (layout.closing depth ++ ']' :: rest))) = some (v :: vs, rest) :=
      readItems_render [] hreads (by simp) hshorter
    rw [hrender] at hitems
    rw [readValue_list hlist hinner hbracket]
    exact congrArg (Option.map _) hitems

theorem readsBack_object {fields : List (String × Value)}
    (h : carries (.object fields) = true)
    (hreads : ∀ field ∈ fields, ReadsBack layout field.2) : ReadsBack layout (.object fields) := by
  refine readsBack_of_succ h fun depth fuel cs rest hfuel _ hskip => ?_
  cases fields with
  | nil => exact readValue_emptyObject hskip
  | cons field fields =>
    obtain ⟨name, v⟩ := field
    have hobject : skipBlanks cs = '\x7b' :: (layout.opening depth ++ (renderString name ++
        ':' :: ' ' :: (render layout (depth + 1) v ++
          (renderFields layout depth fields ++ (layout.closing depth ++ '\x7d' :: rest))))) := by
      rw [hskip]
      simp [render]
    have hshorter : (render layout (depth + 1) v).length +
        (renderFields layout depth fields).length < fuel := by
      simp only [render, List.length_append, List.length_cons, List.length_nil] at hfuel
      omega
    have hfields : readFields fuel (renderString name ++ ':' :: ' ' ::
        (render layout (depth + 1) v ++ (renderFields layout depth fields ++
          (layout.closing depth ++ '\x7d' :: rest)))) = some ((name, v) :: fields, rest) :=
      readFields_render [] hreads (by simp) hshorter
    have hnames := of_decide_eq_true (Bool.and_eq_true_iff.1 h).1
    have hentries : (OrderedMap.ofList ((name, v) :: fields)).entries = (name, v) :: fields :=
      OrderedMap.entries_insertAll _ .empty hnames
    rw [renderString_append] at hfields
    rw [readValue_object hobject (skipBlanks_renderString (isBlank_opening layout depth)), hfields]
    exact congrArg (fun entries => some (Value.object entries, rest)) hentries

end

mutual

/-- Every value that JSON carries is read back from its text. -/
theorem readsBack (layout : Layout) : ∀ {v : Value}, carries v = true → ReadsBack layout v
  | .null, h => readsBack_of_succ h fun _ _ _ _ _ _ hskip => readValue_null hskip
  | .bool true, h => readsBack_of_succ h fun _ _ _ _ _ _ hskip => readValue_true hskip
  | .bool false, h => readsBack_of_succ h fun _ _ _ _ _ _ hskip => readValue_false hskip
  | .int _, h => readsBack_int h
  | .text s, _ => readsBack_text s
  | .list _, h => readsBack_list h (readsBackItems layout h)
  | .object _, h => readsBack_object h (readsBackFields layout (Bool.and_eq_true_iff.1 h).2)

theorem readsBackItems (layout : Layout) : ∀ {vs : List Value}, carriesItems vs = true →
    ∀ v ∈ vs, ReadsBack layout v
  | [], _, _, hmem => absurd hmem List.not_mem_nil
  | v :: vs, h, w, hmem => by
    obtain ⟨hv, hvs⟩ := Bool.and_eq_true_iff.1 h
    rcases List.mem_cons.1 hmem with hw | hmem
    · rw [hw]
      exact readsBack layout hv
    · exact readsBackItems layout hvs w hmem

theorem readsBackFields (layout : Layout) : ∀ {fields : List (String × Value)},
    carriesFields fields = true → ∀ field ∈ fields, ReadsBack layout field.2
  | [], _, _, hmem => absurd hmem List.not_mem_nil
  | (_, v) :: fields, h, field, hmem => by
    obtain ⟨hv, hfields⟩ := Bool.and_eq_true_iff.1 h
    rcases List.mem_cons.1 hmem with hfield | hmem
    · rw [hfield]
      exact readsBack layout hv
    · exact readsBackFields layout hfields field hmem

end

/-- A value that JSON carries is read back from its text in any layout. -/
theorem read?_write {v : Value} (h : carries v = true) (layout : Layout) :
    ∃ s, write layout v = .ok s ∧ read? s = some v := by
  refine ⟨_, write_of_carries h layout, ?_⟩
  have hread : readValue ((render layout 0 v).length + 1) (render layout 0 v) = some (v, []) := by
    have hback := readsBack layout h 0 ((render layout 0 v).length + 1) [] [] (by simp)
      (Nat.le_succ _) (stopsAt_nil _)
    rwa [List.append_nil] at hback
  have hend : (skipBlanks []).isEmpty = true := rfl
  simp only [read?, String.toList_ofList, hread, hend, if_true]

end Json

/-! ### Calls -/

namespace Call

theorem carries_toValue {call : Call}
    (h : ∀ parameter ∈ call.parameters.entries, Json.carries parameter.2 = true) :
    Json.carries call.toValue = true := by
  have hparameters : Json.carries (.object call.parameters.entries) = true :=
    Bool.and_eq_true_iff.2
      ⟨decide_eq_true call.parameters.nodup, Json.carriesFields_eq_true_iff.2 h⟩
  have hfields : Json.carriesFields
      [("function_name", .text call.functionName),
       ("contract_type", .text call.family.name),
       ("selector", .text call.selector),
       ("parameters", .object call.parameters.entries),
       ("raw_input", .text (Hex.marked call.input))] = true := by
    simp only [Json.carriesFields_eq_true_iff, List.forall_mem_cons, hparameters]
    exact ⟨rfl, rfl, rfl, trivial, rfl, by simp⟩
  rw [toValue, Json.carries, hfields]
  simp

/-- A call whose parameters JSON carries is read back from its text in any layout, and any call
from its object. -/
theorem read?_toJson {call : Call}
    (h : ∀ parameter ∈ call.parameters.entries, Json.carries parameter.2 = true)
    (layout : Json.Layout) :
    ofValue call.toValue = .ok call ∧
      ∃ s v, call.toJson layout = .ok s ∧ Json.read? s = some v ∧ ofValue v = .ok call := by
  obtain ⟨s, hwrite, hread⟩ := Json.read?_write (carries_toValue h) layout
  exact ⟨ofValue_toValue call, s, call.toValue, hwrite, hread, ofValue_toValue call⟩

/-- A call with nested and empty containers, a negative number and characters that are escaped. -/
def settled : Call where
  functionName := "settle \"é\""
  family := .generic
  selector := "0x00000000"
  parameters := .ofList
    [("orders", .list [.list [], .object [("x", .int (-7)), ("y", .null)], .bool true]),
     ("note\n", .text "𝄞\\")]
  input := [0, 255]

theorem read?_toJson_settled :
    (∀ parameter ∈ settled.parameters.entries, Json.carries parameter.2 = true) ∧
      ∃ s v, settled.toJson (.indented 2) = .ok s ∧ Json.read? s = some v ∧
        ofValue v = .ok settled := by
  have hcarries : ∀ parameter ∈ settled.parameters.entries, Json.carries parameter.2 = true := by
    decide
  exact ⟨hcarries, (read?_toJson hcarries (.indented 2)).2⟩

end Call

end Chronicle
