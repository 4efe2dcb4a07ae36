/-
# The types of tuples and of functions

The type of a tuple parameter is written as the types of its components in
parentheses, with commas between them, and then its array dimensions. If the types
that are no tuples hold no such marks, the parentheses of every type pair up, so
that cutting the text at its outer commas gives the types of the components back,
at any depth. A signature is the name of a function and the types of its parameters
written in the same way. So the text that the selector is made of says exactly the
types that the arguments are decoded by.

Key definitions: `Param.IsLeaf`, `Param.Describes`, `Param.collapsed`,
`componentTexts`, `Fragment.Described`, `Fragment.Agrees`.
Key theorems: `Param.ofValue_of_describes`, `Param.passes_type`,
`componentTexts_typesOf`, `Fragment.agrees_of_described`, `Param.splits_collapsed`.
-/
import Chronicle.Fault
import Chronicle.Proofs.Shapes
import Chronicle.Registry.Known

namespace Chronicle

/-- The components of a tuple type as texts. -/
def componentTexts (type : String) : List String := (components type.toList).map String.ofList

namespace Param

/-- The type of a parameter that is no tuple. -/
structure IsLeaf (type : String) : Prop where
  ne_empty : type ≠ ""
  noTuple : ¬ "tuple".toList <+: type.toList
  unmarked : ∀ c ∈ type.toList, c ≠ ',' ∧ c ≠ '(' ∧ c ≠ ')'

/-- The text is made of digits and brackets, as a sequence of array dimensions is. -/
def IsDimensional (dimensions : String) : Prop :=
  ∀ c ∈ dimensions.toList, c.isDigit = true ∨ c = '[' ∨ c = ']'

mutual

/-- The value describes the parameter: by a type that is no tuple, or by the word for a tuple with
dimensions behind it and by its components. -/
inductive Describes : Value → Param → Prop
  | plain {fields : List (String × Value)} {type : String}
      (htype : Value.field? fields "type" = some (.text type)) (hleaf : IsLeaf type) :
      Describes (.object fields) (.plain type)
  | tuple {fields : List (String × Value)} {vs : List Value} {params : List Param}
      {dimensions : String}
      (htype : Value.field? fields "type" = some (.text ("tuple" ++ dimensions)))
      (hdimensions : IsDimensional dimensions)
      (hcomponents : Value.field? fields "components" = some (.list vs))
      (hall : DescribeAll vs params) :
      Describes (.object fields) (.tuple params dimensions)

/-- The values describe the parameters in order. -/
inductive DescribeAll : List Value → List Param → Prop
  | nil : DescribeAll [] []
  | cons {v : Value} {vs : List Value} {p : Param} {ps : List Param} (hfirst : Describes v p)
      (hrest : DescribeAll vs ps) : DescribeAll (v :: vs) (p :: ps)

end

/-- The full type of the parameter that a value describes. -/
def collapsed (v : Value) : Except Fault String := (ofValue v).map type

/-! ### Reading descriptions -/

theorem componentsOf_of_field? {fields : List (String × Value)} {v : Value}
    (h : Value.field? fields "components" = some v) : componentsOf fields = listOf v := by
  induction fields with
  | nil => cases h
  | cons field fields ih =>
    obtain ⟨name, w⟩ := field
    by_cases hname : name = "components"
    · subst hname
      obtain rfl : w = v := by simpa [Value.field?] using h
      simp [componentsOf]
    · have hrest : Value.field? fields "components" = some v := by
        simpa [Value.field?, hname] using h
      rw [componentsOf, if_neg hname, ih hrest]

theorem isPrefixOf_tupleWord (dimensions : String) :
    tupleWord.isPrefixOf ("tuple" ++ dimensions).toList = true := by
  rw [List.isPrefixOf_iff_prefix, String.toList_append]
  exact List.prefix_append _ _

theorem drop_tupleWord (dimensions : String) :
    String.ofList (("tuple" ++ dimensions).toList.drop tupleWord.length) = dimensions := by
  rw [String.toList_append]
  exact String.ofList_toList

mutual

/-- A description is read as the parameter that it describes. -/
theorem ofValue_of_describes : ∀ {v : Value} {p : Param}, Describes v p → ofValue v = .ok p
  | _, _, .plain htype hleaf => by
    have hplain : ¬ tupleWord.isPrefixOf _ = true :=
      fun h => hleaf.noTuple (List.isPrefixOf_iff_prefix.1 h)
    simp only [ofValue, htype, if_neg hplain]
  | _, _, .tuple htype hdimensions hcomponents hall => by
    have hitems := ofItems_of_describeAll hall
    simp only [ofValue, htype, if_pos (isPrefixOf_tupleWord _), drop_tupleWord]
    rw [componentsOf_of_field? hcomponents, listOf, hitems]
    rfl

theorem ofItems_of_describeAll : ∀ {vs : List Value} {ps : List Param},
    DescribeAll vs ps → ofItems vs = .ok ps
  | _, _, .nil => rfl
  | _, _, .cons hfirst hrest => by
    rw [ofItems, ofValue_of_describes hfirst, ofItems_of_describeAll hrest]
    rfl

end

/-- What is described has a full type. -/
theorem collapsed_of_describes {v : Value} {p : Param} (h : Describes v p) :
    collapsed v = .ok p.type := by
  rw [collapsed, ofValue_of_describes h]
  rfl

theorem forall₂_collapsed : ∀ {vs : List Value} {ps : List Param}, DescribeAll vs ps →
    List.Forall₂ (fun v type => collapsed v = .ok type) vs (typesOf ps)
  | _, _, .nil => .nil
  | _, _, .cons hfirst hrest => .cons (collapsed_of_describes hfirst) (forall₂_collapsed hrest)

/-! ### Cutting full types -/

theorem IsDimensional.unmarked {dimensions : String} (h : IsDimensional dimensions) :
    ∀ c ∈ dimensions.toList, c ≠ ',' ∧ c ≠ '(' ∧ c ≠ ')' := by
  intro c hc
  rcases h c hc with hdigit | rfl | rfl
  · have hmark : ∀ mark : Char, mark.isDigit = false → c ≠ mark := by
      rintro mark hmark rfl
      rw [hdigit] at hmark
      cases hmark
    exact ⟨hmark ',' rfl, hmark '(' rfl, hmark ')' rfl⟩
  · decide
  · decide

/-- The characters of types in parentheses. -/
theorem toList_parenthesized (types : List String) (dimensions : String) :
    ("(" ++ ",".intercalate types ++ ")" ++ dimensions).toList =
      '(' :: (List.intercalate [','] (types.map String.toList) ++ ')' :: dimensions.toList) := by
  simp

mutual

/-- A full type is cut nowhere inside. -/
theorem passes_type : ∀ {v : Value} {p : Param}, Describes v p → ∀ depth : Int, 0 ≤ depth →
    Passes depth p.type.toList
  | _, _, .plain _ hleaf, _, _ => .of_plain hleaf.unmarked
  | _, .tuple ps dimensions, .tuple _ hdimensions _ hall, depth, hdepth => by
    have hpieces := passes_typesOf hall (depth + 1) (by omega)
    have hclosed := (Passes.intercalate (by omega) hpieces).parentheses.append
      (.of_plain hdimensions.unmarked)
    rw [type, toList_parenthesized]
    simpa using hclosed

theorem passes_typesOf : ∀ {vs : List Value} {ps : List Param}, DescribeAll vs ps →
    ∀ depth : Int, 0 ≤ depth → ∀ piece ∈ (typesOf ps).map String.toList, Passes depth piece
  | _, _, .nil, _, _ => by simp [typesOf]
  | _, _, .cons hfirst hrest, depth, hdepth =>
    List.forall_mem_cons.2 ⟨passes_type hfirst depth hdepth, passes_typesOf hrest depth hdepth⟩

end

theorem type_ne_empty {v : Value} {p : Param} (h : Describes v p) : p.type ≠ "" := by
  cases h with
  | plain _ hleaf => exact hleaf.ne_empty
  | tuple _ _ _ _ =>
    intro hempty
    have htext := congrArg String.toList hempty
    rw [type, toList_parenthesized] at htext
    cases htext

theorem ne_empty_of_mem_typesOf : ∀ {vs : List Value} {ps : List Param}, DescribeAll vs ps →
    ∀ type ∈ typesOf ps, type ≠ ""
  | _, _, .nil => by simp [typesOf]
  | _, _, .cons hfirst hrest =>
    List.forall_mem_cons.2 ⟨type_ne_empty hfirst, ne_empty_of_mem_typesOf hrest⟩

/-- The types in parentheses are the components, whatever dimensions are behind them. -/
theorem componentTexts_typesOf {vs : List Value} {ps : List Param} (h : DescribeAll vs ps)
    {dimensions : String} (hdimensions : IsDimensional dimensions) :
    componentTexts ("(" ++ ",".intercalate (typesOf ps) ++ ")" ++ dimensions) = typesOf ps := by
  have hpieces : ∀ piece ∈ (typesOf ps).map String.toList, piece ≠ [] := by
    intro piece hpiece hnil
    obtain ⟨type, htype, rfl⟩ := List.mem_map.1 hpiece
    exact ne_empty_of_mem_typesOf h type htype (String.toList_eq_nil_iff.1 hnil)
  have htail : ∀ c ∈ dimensions.toList, c ≠ ')' := fun c hc => (hdimensions.unmarked c hc).2.2
  rw [componentTexts, toList_parenthesized,
    components_eq (passes_typesOf h 0 (Int.le_refl 0)) hpieces htail, List.map_map]
  simp [Function.comp_def]

end Param

/-! ### Functions -/

namespace Fragment

/-- An object describes a function by its name and by its inputs, of which it need not speak if
there are none. -/
structure Described (fields : List (String × Value)) (name : String) (inputs : List Value)
    (params : List Param) : Prop where
  named : Value.field? fields "name" = some (.text name)
  listed : Value.field? fields "inputs" = some (.list inputs) ∨
    Value.field? fields "inputs" = none ∧ inputs = []
  described : Param.DescribeAll inputs params

/-- The function is signed by its name and the text `tail`, and decoded by the types `types`. -/
structure Agrees (fields : List (String × Value)) (name : String) (inputs : List Value)
    (tail : String) (types : List String) : Prop where
  /-- The types are the full types of the inputs. -/
  collapsed : List.Forall₂ (fun input type => Param.collapsed input = .ok type) inputs types
  signed : signature? (.object fields) = .ok (name ++ tail)
  /-- They are what the text behind the name is cut into. -/
  splits : componentTexts tail = types
  /-- The entry of the function has both, and the selector is made of the same text. -/
  entry : ∀ fragment, ofValue (.object fields) = .ok fragment → fragment.name = .text name ∧
    ∀ interface family, (Entry.ofFragment fragment name interface family).signature = name ++ tail ∧
      (Entry.ofFragment fragment name interface family).selector = selectorOf (name ++ tail) ∧
      (Entry.ofFragment fragment name interface family).inputTypes = types
  /-- The function can be read if all of its inputs have names. -/
  reads : (∀ input ∈ inputs, ∃ parts inputName, input = .object parts ∧
    Value.field? parts "name" = some (.text inputName)) →
      ∃ fragment, ofValue (.object fields) = .ok fragment

theorem exists_namesOf {inputs : List Value} (h : ∀ input ∈ inputs, ∃ parts inputName,
    input = .object parts ∧ Value.field? parts "name" = some (.text inputName)) :
    ∃ names, namesOf inputs = .ok names := by
  induction inputs with
  | nil => exact ⟨[], rfl⟩
  | cons input inputs ih =>
    obtain ⟨⟨parts, inputName, rfl, hname⟩, hrest⟩ := List.forall_mem_cons.1 h
    obtain ⟨names, hnames⟩ := ih hrest
    exact ⟨inputName :: names, by simp only [namesOf, hname, hnames]; rfl⟩

variable {fields : List (String × Value)} {name : String} {inputs : List Value}
  {params : List Param}

theorem Described.paramsOf_eq (h : Described fields name inputs params) :
    paramsOf fields = .ok params := by
  have hitems := Param.ofItems_of_describeAll h.described
  rcases h.listed with hlist | ⟨hnone, rfl⟩
  · simp only [paramsOf, hlist, Param.listOf, hitems]
  · simp only [paramsOf, hnone]
    exact hitems

theorem Described.headOf_eq (h : Described fields name inputs params) :
    headOf fields = .ok (.text name, signatureOf name params, params) := by
  simp only [headOf, h.paramsOf_eq, h.named]
  rfl

theorem Described.parts_eq (h : Described fields name inputs params) :
    ((Value.field? fields "inputs").bind Value.parts?).getD [] = inputs := by
  rcases h.listed with hlist | ⟨hnone, rfl⟩
  · rw [hlist]
    rfl
  · rw [hnone]
    rfl

/-- A described function can be read as soon as the names of its inputs can. -/
theorem Described.ofValue_eq (h : Described fields name inputs params) :
    ofValue (.object fields) =
      namesOf inputs >>= fun names =>
        .ok ⟨.text name, signatureOf name params, params, names⟩ := by
  rw [ofValue, bind_of_ok h.headOf_eq, h.parts_eq]

theorem signatureOf_eq (name : String) (params : List Param) : signatureOf name params =
    name ++ ("(" ++ ",".intercalate (Param.typesOf params) ++ ")") := by
  simp [signatureOf, String.append_assoc]

/-- A function whose inputs have types without marks of their own is decoded by the types that its
signature is cut into. -/
theorem agrees_of_described (h : Described fields name inputs params) :
    Agrees fields name inputs ("(" ++ ",".intercalate (Param.typesOf params) ++ ")")
      (Param.typesOf params) where
  collapsed := Param.forall₂_collapsed h.described
  signed := by
    rw [signature?, bind_of_ok h.headOf_eq, signatureOf_eq]
  splits := by
    have hempty : Param.IsDimensional "" := by simp [Param.IsDimensional]
    have hcut := Param.componentTexts_typesOf h.described hempty
    rwa [String.append_empty] at hcut
  entry fragment hfragment := by
    rw [h.ofValue_eq] at hfragment
    obtain ⟨names, -, hread⟩ := bind_eq_ok.1 hfragment
    cases hread
    have hsigned := signatureOf_eq name params
    exact ⟨rfl, fun _ _ => ⟨hsigned, congrArg selectorOf hsigned, rfl⟩⟩
  reads hnamed := by
    obtain ⟨names, hnames⟩ := exists_namesOf hnamed
    exact ⟨_, h.ofValue_eq.trans (bind_of_ok hnames _)⟩

end Fragment

/-- The full type of a tuple is cut into the full types of its components, and the signature of a
function into the types that its arguments are decoded by. -/
theorem Param.splits_collapsed :
    (∀ (fields : List (String × Value)) (vs : List Value) (params : List Param)
        (dimensions : String), Describes (.object fields) (.tuple params dimensions) →
      Value.field? fields "components" = some (.list vs) →
      ∃ type types, collapsed (.object fields) = .ok type ∧
        List.Forall₂ (fun v type => collapsed v = .ok type) vs types ∧
        componentTexts type = types) ∧
    ∀ (fields : List (String × Value)) (name : String) (inputs : List Value)
        (params : List Param), Fragment.Described fields name inputs params →
      ∃ tail types, Fragment.Agrees fields name inputs tail types := by
  refine ⟨fun fields vs params dimensions h hcomponents => ?_, fun fields name inputs params h =>
    ⟨_, _, Fragment.agrees_of_described h⟩⟩
  refine ⟨_, typesOf params, collapsed_of_describes h, ?_⟩
  cases h with
  | tuple htype hdimensions hlist hall =>
    obtain rfl : _ = vs := by simpa [hlist] using hcomponents
    exact ⟨forall₂_collapsed hall, componentTexts_typesOf hall hdimensions⟩

namespace Basket

/-- What a basket holds: an owner, nothing, and amounts with a mark for each. -/
def parts : List Value :=
  [.object [("name", .text "owner"), ("type", .text "address")],
   .object [("name", .text "nothing"), ("type", .text "tuple"), ("components", .list [])],
   .object [("name", .text "amounts"), ("type", .text "tuple[]"),
     ("components", .list [.object [("type", .text "uint256")], .object [("type", .text "bool")]])]]

/-- The description of pairs of baskets. -/
def fields : List (String × Value) :=
  [("name", .text "baskets"), ("type", .text "tuple[2][]"), ("components", .list parts)]

/-- The parameters that the parts describe. -/
def params : List Param :=
  [.plain "address", .tuple [] "", .tuple [.plain "uint256", .plain "bool"] "[]"]

/-- The function that takes them. -/
def fill : List (String × Value) :=
  [("type", .text "function"), ("name", .text "fill"), ("inputs", .list [.object fields])]

theorem isLeaf_address : Param.IsLeaf "address" := ⟨by decide, by decide, by decide⟩

theorem isLeaf_uint256 : Param.IsLeaf "uint256" := ⟨by decide, by decide, by decide⟩

theorem isLeaf_bool : Param.IsLeaf "bool" := ⟨by decide, by decide, by decide⟩

theorem describeAll_parts : Param.DescribeAll parts params := by
  have hnone : Param.IsDimensional "" := by simp [Param.IsDimensional]
  have hlist : Param.IsDimensional "[]" := by simp [Param.IsDimensional]
  have hamounts : Param.DescribeAll
      [.object [("type", .text "uint256")], .object [("type", .text "bool")]]
      [.plain "uint256", .plain "bool"] :=
    .cons (.plain rfl isLeaf_uint256) (.cons (.plain rfl isLeaf_bool) .nil)
  exact .cons (.plain rfl isLeaf_address)
    (.cons (.tuple rfl hnone rfl .nil) (.cons (.tuple rfl hlist rfl hamounts) .nil))

theorem describes_fields : Param.Describes (.object fields) (.tuple params "[2][]") := by
  have hpairs : Param.IsDimensional "[2][]" := by simp [Param.IsDimensional]
  exact .tuple rfl hpairs rfl describeAll_parts

theorem described_fill :
    Fragment.Described fill "fill" [.object fields] [.tuple params "[2][]"] :=
  ⟨rfl, .inl rfl, .cons describes_fields .nil⟩

end Basket

/-- A tuple without components and lists of tuples are cut out whole. -/
theorem Param.splits_collapsed_basket :
    Describes (.object Basket.fields) (.tuple Basket.params "[2][]") ∧
      collapsed (.object Basket.fields) = .ok "(address,(),(uint256,bool)[])[2][]" ∧
      List.Forall₂ (fun v type => collapsed v = .ok type) Basket.parts
        ["address", "()", "(uint256,bool)[]"] ∧
      Fragment.Described Basket.fill "fill" [.object Basket.fields]
        [.tuple Basket.params "[2][]"] ∧
      ∃ tail types, Fragment.Agrees Basket.fill "fill" [.object Basket.fields] tail types := by
  obtain ⟨type, types, htype, hall, hcut⟩ := splits_collapsed.1 Basket.fields Basket.parts
    Basket.params "[2][]" Basket.describes_fields rfl
  have hfull : collapsed (.object Basket.fields) =
      .ok "(address,(),(uint256,bool)[])[2][]" := by
    rw [collapsed_of_describes Basket.describes_fields]
    decide
  obtain rfl : "(address,(),(uint256,bool)[])[2][]" = type :=
    Except.ok.inj (hfull.symm.trans htype)
  have hparts : componentTexts "(address,(),(uint256,bool)[])[2][]" =
      ["address", "()", "(uint256,bool)[]"] := by decide
  obtain rfl : types = ["address", "()", "(uint256,bool)[]"] := hcut.symm.trans hparts
  exact ⟨Basket.describes_fields, hfull, hall, Basket.described_fill,
    splits_collapsed.2 Basket.fill "fill" _ _ Basket.described_fill⟩

end Chronicle
