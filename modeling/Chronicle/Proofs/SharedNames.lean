/-
# Arguments that share a name

A function may give one name to several of its inputs, as descriptions do that
leave unnamed inputs with the empty name. Its calldata is decoded to one form
for each input, but the parameters of a call are kept by their names: each name
has the place of the first argument under it and the value of the last. So every
argument is kept exactly if the names differ; of arguments that share a name all
but the last are lost, and the last moves forward to the place of the first.

Key definition: `OrderedMap.Collects`.
Key theorems: `OrderedMap.keys_insertAll`, `OrderedMap.collects_ofList`,
`Entry.decode_collects`, `Hook.decode_loses`.
-/
import Chronicle.Proofs.EntryDecoding
import Chronicle.Proofs.Registration

namespace Chronicle

open AbiType (AllSupported interchangeOf)

/-! ### Maps of lists with repeated keys -/

namespace OrderedMap

variable {κ υ : Type} [DecidableEq κ]

/-- What a map keeps of values that are given under names, one for each. -/
structure Collects (names : List κ) (values : List υ) (m : OrderedMap κ υ) : Prop where
  length : values.length = names.length
  /-- Each name has one place, which is that of its first value. -/
  keys : m.keys = names.eraseDups
  /-- The value in that place is the last one under the name. -/
  last : ∀ before name value after, names.zip values = before ++ (name, value) :: after →
    name ∉ after.map Prod.fst → m.get? name = some value
  /-- Nothing is lost and all is in order exactly if no name is given twice. -/
  complete : m.entries = names.zip values ↔ names.Nodup

theorem insertAll_append (m : OrderedMap κ υ) (entries more : List (κ × υ)) :
    m.insertAll (entries ++ more) = (m.insertAll entries).insertAll more :=
  List.foldl_append ..

/-- The values under other keys stay what they are. -/
theorem get?_insertAll_of_not_mem {key : κ} : ∀ {entries : List (κ × υ)} {m : OrderedMap κ υ},
    key ∉ entries.map Prod.fst → (m.insertAll entries).get? key = m.get? key
  | [], _, _ => rfl
  | entry :: rest, m, h => by
    simp only [List.map_cons, List.mem_cons, not_or] at h
    have hrest : ((m.insert entry.1 entry.2).insertAll rest).get? key =
        (m.insert entry.1 entry.2).get? key := get?_insertAll_of_not_mem h.2
    exact hrest.trans (get?_insert_of_ne m entry.2 (Ne.symm h.1))

/-- New keys come behind the old ones, each once and in the order in which they first come. -/
theorem keys_insertAll (entries : List (κ × υ)) : ∀ m : OrderedMap κ υ,
    (m.insertAll entries).keys =
      m.keys ++ ((entries.map Prod.fst).filter (· ∉ m.keys)).eraseDups := by
  induction entries with
  | nil => intro m; simp [insertAll]
  | cons entry rest ih =>
    intro m
    have hstep : (m.insertAll (entry :: rest)).keys =
        ((m.insert entry.1 entry.2).insertAll rest).keys := rfl
    rw [hstep, ih, keys_insert, List.map_cons]
    by_cases hold : entry.1 ∈ m.keys
    · rw [if_pos hold, List.filter_cons_of_neg (by simpa using hold)]
    · rw [if_neg hold, List.filter_cons_of_pos (by simpa using hold), List.eraseDups_cons,
        List.filter_filter, List.append_assoc]
      have hothers : (rest.map Prod.fst).filter (· ∉ m.keys ++ [entry.1]) =
          (rest.map Prod.fst).filter fun key => !(key == entry.1) && decide (key ∉ m.keys) := by
        refine List.filter_congr fun key _ => ?_
        by_cases hkey : key = entry.1 <;> simp [hkey]
      rw [hothers]
      rfl

theorem keys_ofList (entries : List (κ × υ)) :
    (ofList entries).keys = (entries.map Prod.fst).eraseDups := by
  have hall : (entries.map Prod.fst).filter (· ∉ (empty : OrderedMap κ υ).keys) =
      entries.map Prod.fst := List.filter_eq_self.2 fun key _ => by simp [empty, keys]
  rw [ofList, keys_insertAll, hall]
  rfl

/-- The map of values under their names. -/
theorem collects_ofList {names : List κ} {values : List υ} (h : values.length = names.length) :
    (ofList (names.zip values)).Collects names values where
  length := h
  keys := by rw [keys_ofList, List.map_fst_zip (Nat.le_of_eq h.symm)]
  last := by
    intro before name value after hsplit hlast
    have hmap : ofList (names.zip values) =
        ((ofList before).insert name value).insertAll after := by
      rw [hsplit]
      exact insertAll_append empty before ((name, value) :: after)
    rw [hmap, get?_insertAll_of_not_mem hlast, get?_insert_self]
  complete := by
    constructor
    · intro hentries
      have hnodup := (ofList (names.zip values)).nodup
      rwa [hentries, List.map_fst_zip (Nat.le_of_eq h.symm)] at hnodup
    · intro hnodup
      exact entries_ofList_zip hnodup h.symm

end OrderedMap

/-! ### Parameters of calls -/

namespace Entry

/-- Calldata of the types of a function is decoded to one form for each input, and the parameters
keep of them what their names leave apart. -/
theorem decode_collects {v : Value} {fragment : Fragment}
    (hfragment : Fragment.ofValue v = .ok fragment) (name interface : String) (family : Family)
    {types : List ArgType} (htypes : Param.typesOf fragment.params = types.map ArgType.text)
    (hsupported : AllSupported (ArgType.abiOf types)) {data : Bytes} {args : List Value}
    (hargs : decodeArguments (ArgType.abiOf types) data = .ok args) :
    ∃ parameters, (ofFragment fragment name interface family).decode data = .ok parameters ∧
      parameters.Collects fragment.paramNames (interchangeOf (ArgType.abiOf types) args) := by
  have hcount : fragment.paramNames.length = types.length := by
    have hparams := Fragment.length_paramNames hfragment
    have htexts := congrArg List.length htypes
    rw [Param.length_typesOf, List.length_map] at htexts
    omega
  have hforms : (interchangeOf (ArgType.abiOf types) args).length = fragment.paramNames.length := by
    have hadmits := admits_of_decodeArguments hsupported hargs
    rw [AbiType.length_interchangeOf hadmits, ArgType.length_abiOf, hcount]
  exact ⟨_, decode_eq_ok hcount htypes hsupported hargs, OrderedMap.collects_ofList hforms⟩

end Entry

/-! ### A function with two unnamed inputs -/

namespace Hook

/-- The description of a function of three numbers, of which only the second has a name. -/
def description : Value :=
  Known.declare "hook" [("uint256", ""), ("uint256", "amount"), ("uint256", "")]

def fragment : Fragment where
  name := .text "hook"
  signature := "hook(uint256,uint256,uint256)"
  params := [.plain "uint256", .plain "uint256", .plain "uint256"]
  paramNames := ["", "amount", ""]

def types : List ArgType := [.uint 256, .uint 256, .uint 256]

/-- The function. -/
def hook : Entry := .ofFragment fragment "hook" "Hook" .generic

/-- The calldata of three numbers. -/
def calldata (first second third : Nat) : Bytes := [first, second, third].flatMap wordOf

theorem ofValue_description : Fragment.ofValue description = .ok fragment := rfl

/-- All three numbers are in the calldata, but the call has two parameters: the first number is
lost, and the third stands before the second. -/
theorem decode_loses :
    Fragment.ofValue description = .ok fragment ∧
      Param.typesOf fragment.params = types.map ArgType.text ∧
      decodeArguments (ArgType.abiOf types) (calldata 1 2 3) = .ok [.int 1, .int 2, .int 3] ∧
      ∃ parameters, hook.decode (calldata 1 2 3) = .ok parameters ∧
        parameters.entries = [("", .text "3"), ("amount", .text "2")] := by
  have hparameters : (hook.decode (calldata 1 2 3)).map (·.entries) =
      .ok [("", .text "3"), ("amount", .text "2")] := by decide +kernel
  refine ⟨ofValue_description, rfl, by decide +kernel, ?_⟩
  cases hdecode : hook.decode (calldata 1 2 3) with
  | error fault => rw [hdecode] at hparameters; cases hparameters
  | ok parameters =>
    rw [hdecode] at hparameters
    exact ⟨parameters, rfl, Except.ok.inj hparameters⟩

end Hook

/-- The unnamed inputs have one place together, with the value of the last. -/
theorem Entry.decode_collects_hook :
    AllSupported (ArgType.abiOf Hook.types) ∧
      ∃ parameters, Hook.hook.decode (Hook.calldata 7 8 9) = .ok parameters ∧
        parameters.keys = ["", "amount"] ∧ parameters.get? "" = some (.text "9") ∧
          parameters.get? "amount" = some (.text "8") := by
  have hsupported : AllSupported (ArgType.abiOf Hook.types) := ⟨rfl, rfl, rfl, trivial⟩
  have hargs : decodeArguments (ArgType.abiOf Hook.types) (Hook.calldata 7 8 9) =
      .ok [.int 7, .int 8, .int 9] := by decide +kernel
  obtain ⟨parameters, hdecode, -, hkeys, hlast, -⟩ :=
    decode_collects Hook.ofValue_description "hook" "Hook" .generic rfl hsupported hargs
  refine ⟨hsupported, parameters, hdecode, hkeys.trans (by decide), ?_, ?_⟩
  · exact hlast [("", .text "7"), ("amount", .text "8")] "" (.text "9") [] (by decide) (by simp)
  · exact hlast [("", .text "7")] "amount" (.text "8") [("", .text "9")] (by decide) (by simp)

end Chronicle
