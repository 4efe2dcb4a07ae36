/- # Lowercase text

The full lowercase form of a text. ASCII letters and the letters of the table
move one by one; capital I with a dot becomes an i and a combining dot; a
capital sigma becomes the final form when it ends a word, which its neighbours
decide.

Key definitions: `lowerChar`, `lowercase`.
Key theorems: `toList_lowercase_of_ascii`, `lowercase_map_toLower`.
-/
import Chronicle.Text.CaseTables
import Chronicle.Text.Characters

namespace Chronicle.Text

/-- The simple lowercase form of one character. -/
def lowerChar (c : Char) : Char :=
  if c.toNat < 128 then c.toLower
  else
    match lowerRuns.find? fun (first, last, stride, _) =>
        first ≤ c.toNat && c.toNat ≤ last && (c.toNat - first) % stride == 0 with
    | some (_, _, _, shift) => Char.ofNat (c.toNat + shift).toNat
    | none => c

/-- Whether the first letter that counts in `cs` has case: the ignorable characters before it are
passed over. -/
def meetsCased (cs : List Char) : Bool :=
  match cs.dropWhile (inRanges caseIgnorable) with
  | [] => false
  | c :: _ => inRanges cased c

/-- The lowercase forms of the characters that follow `before`, which holds the text already read,
last character first. -/
def lowerFrom (before : List Char) : List Char → List Char
  | [] => []
  | c :: rest =>
    let written :=
      if c.toNat < 128 then [c.toLower]
      else if c = 'Σ' then [if meetsCased before && !meetsCased rest then 'ς' else 'σ']
      else if c = 'İ' then ['i', '\u0307']
      else [lowerChar c]
    written ++ lowerFrom (c :: before) rest

/-- The lowercase form of a text. -/
def lowercase (s : String) : String :=
  String.ofList (lowerFrom [] s.toList)

/-! ### ASCII text -/

theorem lowerFrom_of_ascii (before : List Char) :
    ∀ cs : List Char, (∀ c ∈ cs, c.toNat < 128) → lowerFrom before cs = cs.map Char.toLower
  | [], _ => rfl
  | c :: rest, h => by
    have hc : c.toNat < 128 := h c List.mem_cons_self
    have hrest := lowerFrom_of_ascii (c :: before) rest fun d hd => h d (List.mem_cons_of_mem _ hd)
    simp [lowerFrom, hc, hrest]

/-- ASCII text is lowered letter by letter. -/
theorem toList_lowercase_of_ascii (s : String) (h : ∀ c ∈ s.toList, c.toNat < 128) :
    (lowercase s).toList = s.toList.map Char.toLower := by
  rw [lowercase, String.toList_ofList, lowerFrom_of_ascii [] s.toList h]

theorem toLower_of_ascii {c : Char} (h : c.toNat < 128) :
    c.toLower.toNat < 128 ∧ c.toLower.toLower = c.toLower := by
  revert c
  apply forall_ascii
  decide

/-- ASCII text in lower case stays as it is. -/
theorem lowercase_map_toLower {cs : List Char} (h : ∀ c ∈ cs, c.toNat < 128) :
    lowercase (String.ofList (cs.map Char.toLower)) = String.ofList (cs.map Char.toLower) := by
  have hlower : ∀ c ∈ (String.ofList (cs.map Char.toLower)).toList, c.toNat < 128 := by
    intro c hc
    rw [String.toList_ofList] at hc
    obtain ⟨d, hd, rfl⟩ := List.mem_map.1 hc
    exact (toLower_of_ascii (h d hd)).1
  refine String.toList_inj.1 ?_
  rw [toList_lowercase_of_ascii _ hlower, String.toList_ofList, List.map_map]
  exact List.map_congr_left fun c hc => (toLower_of_ascii (h c hc)).2

end Chronicle.Text
