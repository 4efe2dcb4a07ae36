/-
# Sentences about addresses that are spelled in other ways

One address has many spellings: its digits may be of either case, and the mark
in front may be `0x`, `0X` or missing. Two calls say the same if their
parameters are the same up to the spelling of addresses and the figures among
them, which are told as numbers or as they are, do not change at all. The
sentences about such calls have the same words, and their queries differ in
spelling alone.

Key definitions: `Address.Same`, `Value.Respelled`, `Phrasing.figures`,
`Call.Respelled`, `Sentence.Respelled`.
Key theorems: `Address.Same.spelled_eq`, `Address.Same.lowercase_eq`,
`Call.respelled_insert`, `Call.respelled_sentence`.
-/
import Chronicle.Narration.Phrasing
import Chronicle.Address
import Mathlib.Data.List.Forall2
import Mathlib.Data.Option.Basic

namespace Chronicle

/-! ### Spellings of an address -/

namespace Address

/-- Both texts are spellings of one address. -/
def Same (a b : String) : Prop := ∃ normal, normal? a = some normal ∧ normal? b = some normal

/-- Whether a text begins with the mark of normal forms. -/
def isMarked (s : String) : Bool := ['0', 'x'].isPrefixOf s.toList

variable {a b : String}

theorem normal?_eq_some_spelled (h : isAddress a = true) : normal? a = some (spelled a) := by
  obtain ⟨cs, hcs⟩ := Option.isSome_iff_exists.1 h
  unfold spelled normal?
  rw [hcs, Option.map_some, Option.getD_some]

namespace Same

theorem isAddress_left (h : Same a b) : isAddress a = true := by
  obtain ⟨normal, ha, -⟩ := h
  unfold isAddress
  unfold normal? at ha
  cases hdigits : digits? a with
  | none => rw [hdigits] at ha; cases ha
  | some cs => rfl

theorem symm (h : Same a b) : Same b a := by
  obtain ⟨normal, ha, hb⟩ := h
  exact ⟨normal, hb, ha⟩

theorem isAddress_right (h : Same a b) : isAddress b = true := h.symm.isAddress_left

theorem spelled_eq (h : Same a b) : spelled a = spelled b := by
  obtain ⟨normal, ha, hb⟩ := h
  rw [spelled, spelled, ha, hb, Option.getD_some, Option.getD_some]

theorem ne_empty (h : Same a b) : a ≠ "" := by
  rintro rfl
  exact absurd h.isAddress_left (by decide)

end Same

/-- What the digits of an address are, and what stands before them. -/
theorem toList_eq_of_digits? {cs : List Char} (h : digits? a = some cs) :
    cs.length = 40 ∧ (∀ c ∈ cs, (Hex.value? c).isSome = true) ∧
      (a.toList = cs ∨ a.toList = '0' :: 'x' :: cs ∨ a.toList = '0' :: 'X' :: cs) := by
  obtain ⟨hvalid, hcs⟩ := Option.ite_none_right_eq_some.1 h
  obtain ⟨hlength, hall⟩ := Bool.and_eq_true_iff.1 hvalid
  rw [Option.some.inj hcs] at hlength hall
  refine ⟨of_decide_eq_true hlength, List.all_eq_true.1 hall, ?_⟩
  have hdrop := Option.some.inj hcs
  unfold Hex.dropAnyMark at hdrop
  split at hdrop
  · next rest hlist => exact Or.inr (Or.inl (by rw [hlist, ← hdrop]))
  · next rest hlist => exact Or.inr (Or.inr (by rw [hlist, ← hdrop]))
  · exact Or.inl hdrop

/-- A text of hexadecimal digits is not marked. -/
theorem isPrefixOf_mark_of_digits {cs : List Char}
    (h : ∀ c ∈ cs, (Hex.value? c).isSome = true) : ['0', 'x'].isPrefixOf cs = false := by
  match cs, h with
  | [], _ => rfl
  | [c], _ => simp [List.isPrefixOf]
  | c :: d :: _, h =>
    have hd : d ≠ 'x' := by
      rintro rfl
      exact absurd (h 'x' (by simp)) (by decide)
    simp [List.isPrefixOf, Ne.symm hd]

theorem value?_toLower {c : Char} (h : (Hex.value? c).isSome = true) :
    (Hex.value? c.toLower).isSome = true := by
  have hall : ∀ {c : Char}, c.toNat < 128 → (Hex.value? c).isSome = true →
      (Hex.value? c.toLower).isSome = true := by
    apply Text.forall_ascii
    decide
  exact hall (Hex.toNat_lt_of_value? h) h

/-- An address in lower case is its normal form, with the mark or without. -/
theorem lowercase_of_normal? {normal : String} (h : normal? a = some normal) :
    ∃ ds : List Char, ds.length = 40 ∧ (∀ c ∈ ds, (Hex.value? c).isSome = true) ∧
      ds.map Char.toLower = ds ∧ normal.toList = '0' :: 'x' :: ds ∧
      ((Text.lowercase a).toList = '0' :: 'x' :: ds ∨ (Text.lowercase a).toList = ds) := by
  obtain ⟨cs, hcs, rfl⟩ := Option.map_eq_some_iff.1 h
  obtain ⟨hlength, hdigits, hlist⟩ := toList_eq_of_digits? hcs
  have hascii : ∀ c ∈ cs, c.toNat < 128 := fun c hc => Hex.toNat_lt_of_value? (hdigits c hc)
  have hall : ∀ c ∈ a.toList, c.toNat < 128 := by
    rcases hlist with hlist | hlist | hlist
    · rw [hlist]
      exact hascii
    · rw [hlist]
      exact List.forall_mem_cons.2 ⟨by decide, List.forall_mem_cons.2 ⟨by decide, hascii⟩⟩
    · rw [hlist]
      exact List.forall_mem_cons.2 ⟨by decide, List.forall_mem_cons.2 ⟨by decide, hascii⟩⟩
  refine ⟨cs.map Char.toLower, by rw [List.length_map, hlength], ?_, ?_, String.toList_ofList, ?_⟩
  · intro d hd
    obtain ⟨c, hc, rfl⟩ := List.mem_map.1 hd
    exact value?_toLower (hdigits c hc)
  · rw [List.map_map]
    exact List.map_congr_left fun c hc => (Text.toLower_of_ascii (hascii c hc)).2
  · rw [Text.toList_lowercase_of_ascii a hall]
    rcases hlist with hlist | hlist | hlist
    · exact Or.inr (by rw [hlist])
    · exact Or.inl (by rw [hlist]; rfl)
    · exact Or.inl (by rw [hlist]; rfl)

/-- Lowercase digits of an address are brought to the normal form by the mark. -/
theorem normal?_of_digits {s : String} {ds : List Char} (hlength : ds.length = 40)
    (hdigits : ∀ c ∈ ds, (Hex.value? c).isSome = true) (hlower : ds.map Char.toLower = ds)
    (hs : s.toList = '0' :: 'x' :: ds ∨ s.toList = ds) :
    normal? s = some (String.ofList ('0' :: 'x' :: ds)) := by
  have hdrop : Hex.dropAnyMark s.toList = ds := by
    rcases hs with hs | hs
    · rw [hs]
      rfl
    · rw [hs]
      unfold Hex.dropAnyMark
      split
      · exact absurd (hdigits 'x' (by simp)) (by decide)
      · exact absurd (hdigits 'X' (by simp)) (by decide)
      · rfl
  have hall : ds.all (Hex.value? · |>.isSome) = true := List.all_eq_true.2 hdigits
  unfold normal? digits?
  dsimp only
  rw [hdrop, hlength, hall, if_pos (by decide), Option.map_some, hlower]

theorem normal?_lowercase {normal : String} (h : normal? a = some normal) :
    normal? (Text.lowercase a) = some normal := by
  obtain ⟨ds, hlength, hdigits, hlower, hnormal, hcase⟩ := lowercase_of_normal? h
  rw [normal?_of_digits hlength hdigits hlower hcase, ← hnormal, String.ofList_toList]

namespace Same

theorem lowercase (h : Same a b) : Same (Text.lowercase a) (Text.lowercase b) := by
  obtain ⟨normal, ha, hb⟩ := h
  exact ⟨normal, normal?_lowercase ha, normal?_lowercase hb⟩

/-- The lower case of two spellings is one text if both have the mark or neither has. -/
theorem lowercase_eq (h : Same a b)
    (hmarks : isMarked (Text.lowercase a) = isMarked (Text.lowercase b)) :
    Text.lowercase a = Text.lowercase b := by
  obtain ⟨normal, ha, hb⟩ := h
  obtain ⟨ds, -, hdigits, -, hnormal, hacase⟩ := lowercase_of_normal? ha
  obtain ⟨es, -, -, -, hnormal', hbcase⟩ := lowercase_of_normal? hb
  obtain rfl : es = ds := by
    rw [hnormal] at hnormal'
    simpa using hnormal'.symm
  have hunmarked : ['0', 'x'].isPrefixOf es = false := isPrefixOf_mark_of_digits hdigits
  have hmarked : ['0', 'x'].isPrefixOf ('0' :: 'x' :: es) = true := rfl
  unfold isMarked at hmarks
  refine String.toList_inj.1 ?_
  rcases hacase with hacase | hacase <;> rcases hbcase with hbcase | hbcase
  · rw [hacase, hbcase]
  · rw [hacase, hbcase, hmarked, hunmarked] at hmarks
    cases hmarks
  · rw [hacase, hbcase, hmarked, hunmarked] at hmarks
    cases hmarks
  · rw [hacase, hbcase]

end Same

/-- An address in lower case is its normal form unless it has no mark. -/
theorem lowercase_eq_spelled (h : isAddress a = true)
    (hmarked : isMarked (Text.lowercase a) = true) :
    Text.lowercase a = spelled (Text.lowercase a) := by
  have hnormal := normal?_eq_some_spelled h
  obtain ⟨ds, -, hdigits, -, hlist, hcase⟩ := lowercase_of_normal? hnormal
  rw [spelled, normal?_lowercase hnormal, Option.getD_some]
  rcases hcase with hcase | hcase
  · exact String.toList_inj.1 (hcase.trans hlist.symm)
  · rw [isMarked, hcase, isPrefixOf_mark_of_digits hdigits] at hmarked
    cases hmarked

end Address

/-! ### Values and calls with other spellings -/

namespace Value

/-- The values are the same, or spellings of one address, or lists of such values. -/
inductive Respelled : Value → Value → Prop
  | same (v : Value) : Respelled v v
  | address {a b : String} (h : Address.Same a b) : Respelled (.text a) (.text b)
  | list {items others : List Value} (h : List.Forall₂ Respelled items others) :
    Respelled (.list items) (.list others)

/-- The values are the same, or spellings of one address. -/
def SameAddress (v w : Value) : Prop :=
  v = w ∨ ∃ a b, v = .text a ∧ w = .text b ∧ Address.Same a b

theorem SameAddress.respelled {v w : Value} (h : v.SameAddress w) : v.Respelled w := by
  rcases h with rfl | ⟨a, b, rfl, rfl, hsame⟩
  · exact .same v
  · exact .address hsame

/-- A value that is not a list can change in spelling only. -/
theorem Respelled.sameAddress {v w : Value} (h : v.Respelled w)
    (hlist : ∀ items, v = .list items → w = .list items) : v.SameAddress w := by
  cases h with
  | same => exact Or.inl rfl
  | address h => exact Or.inr ⟨_, _, rfl, rfl, h⟩
  | list h => exact Or.inl (hlist _ rfl).symm

/-- Another spelling makes no text of what is none, and none of an address. -/
theorem Respelled.eq_iff {v w : Value} (h : v.Respelled w) {u : Value}
    (htext : ∀ s, u = .text s → Address.isAddress s = false) (hlist : ∀ items, u ≠ .list items) :
    v = u ↔ w = u := by
  cases h with
  | same => rfl
  | address h =>
    constructor
    · rintro rfl
      exact absurd h.isAddress_left (by simp [htext _ rfl])
    · rintro rfl
      exact absurd h.isAddress_right (by simp [htext _ rfl])
  | list h =>
    constructor
    · rintro rfl
      exact absurd rfl (hlist _)
    · rintro rfl
      exact absurd rfl (hlist _)

end Value

namespace Phrasing

/-- The parameters that a sentence tells as numbers or as they are, by the family and the name of
the function. -/
def figures : Family → String → List String
  | .fungibleToken, "transfer" | .fungibleToken, "approve" | .fungibleToken, "transferFrom"
  | .fungibleToken, "mint" | .fungibleToken, "burn" | .fungibleToken, "withdraw" => ["amount"]
  | .fungibleToken, "increaseAllowance" => ["addedValue"]
  | .fungibleToken, "decreaseAllowance" => ["subtractedValue"]
  | .nonFungibleToken, "transferFrom" | .nonFungibleToken, "safeTransferFrom"
  | .nonFungibleToken, "approve" => ["tokenId"]
  | .poolManager, "swapExactTokensForTokens" => ["amountIn", "amountOutMin"]
  | .poolManager, "swapTokensForExactTokens" => ["amountInMax", "amountOut"]
  | .poolManager, "swapExactETHForTokens" => ["amountOutMin"]
  | .poolManager, "swapExactTokensForETH" => ["amountIn", "amountOutMin"]
  | .poolManager, "addLiquidity" => ["amountADesired", "amountBDesired"]
  | .poolManager, "removeLiquidity" => ["liquidity"]
  | .primarySale, "invest" | .primarySale, "topUpRefunds"
  | .primarySale, "emergencyWithdrawERC20" => ["amount"]
  | .primarySale, "settleBatch" => ["batchSize"]
  | .generic, "transfer" => ["value"]
  | _, _ => []

/-- The parameters that a sentence tells as parties, where a list is shown as it is. -/
def parties : List String :=
  ["to", "from", "spender", "operator", "assetToken", "assetOwner", "recipient", "newOwner",
    Call.deployedAddressName]

end Phrasing

/-- The calls are of one function, with parameters that differ in the spelling of addresses, apart
from figures and from lists in the places of parties. -/
structure Call.Respelled (call other : Call) : Prop where
  functionName : other.functionName = call.functionName
  family : other.family = call.family
  selector : other.selector = call.selector
  parameters : ∀ name,
    Option.Rel Value.Respelled (call.parameters.get? name) (other.parameters.get? name)
  figures : ∀ name ∈ Phrasing.figures call.family call.functionName,
    other.parameters.get? name = call.parameters.get? name
  parties : ∀ name ∈ Phrasing.parties, ∀ items, call.parameters.get? name = some (.list items) →
    other.parameters.get? name = some (.list items)

namespace Call

theorem respelled_refl (call : Call) : call.Respelled call where
  functionName := rfl
  family := rfl
  selector := rfl
  parameters name := by
    cases call.parameters.get? name with
    | none => exact .none
    | some v => exact .some (.same v)
  figures _ _ := rfl
  parties _ _ _ h := h

/-- One parameter that is no figure is given another spelling of its address. -/
theorem respelled_insert (call : Call) {name a b : String}
    (hget : call.parameters.get? name = some (.text a)) (hsame : Address.Same a b)
    (hfigure : name ∉ Phrasing.figures call.family call.functionName) :
    call.Respelled { call with parameters := call.parameters.insert name (.text b) } where
  functionName := rfl
  family := rfl
  selector := rfl
  parameters other := by
    by_cases hname : name = other
    · subst hname
      rw [hget, OrderedMap.get?_insert_self]
      exact .some (.address hsame)
    · rw [OrderedMap.get?_insert_of_ne _ _ hname]
      exact (respelled_refl call).parameters other
  figures other hother := OrderedMap.get?_insert_of_ne _ _ fun hname => hfigure (hname ▸ hother)
  parties other _ items hitems := by
    have hname : name ≠ other := by
      rintro rfl
      rw [hget] at hitems
      cases hitems
    rw [OrderedMap.get?_insert_of_ne _ _ hname]
    exact hitems

end Call

/-! ### What sentences ask -/

/-- The queries differ in the spelling of addresses alone, and in nothing that is shown as it is. -/
inductive Query.Respelled : Query → Query → Prop
  | amount {v w token other : Value} {standard : Int} (hv : w = v) (h : token.Respelled other) :
    Respelled (.amount v token standard) (.amount w other standard)
  | scaled {v w : Value} {decimals : Int} (hv : w = v) :
    Respelled (.scaled v decimals) (.scaled w decimals)
  | party {v w : Value} (h : v.SameAddress w) : Respelled (.party v) (.party w)
  | token {v w : Value} (h : v.Respelled w) : Respelled (.token v) (.token w)
  | plain {v w : Value} (hv : w = v) : Respelled (.plain v) (.plain w)

/-- The sentences have the same pieces, with queries that differ in spelling alone. -/
structure Sentence.Respelled (sentence other : Sentence) : Prop where
  queries : List.Forall₂ Query.Respelled sentence.queries other.queries
  pieces : other.pieces = sentence.pieces

namespace Phrasing

variable {call other : Call} (h : call.Respelled other)
include h

theorem paramOr_respelled (name : String) (standIn : Value) :
    (paramOr call name standIn).Respelled (paramOr other name standIn) := by
  have hname := h.parameters name
  unfold paramOr
  generalize call.parameters.get? name = found at hname ⊢
  generalize other.parameters.get? name = found' at hname ⊢
  cases hname with
  | none => exact .same standIn
  | some hvalue => exact hvalue

theorem paramOr_eq_of_figure {name : String} (hname : name ∈ figures call.family call.functionName)
    (standIn : Value) : paramOr other name standIn = paramOr call name standIn := by
  rw [paramOr, paramOr, h.figures name hname]

theorem paramOr_sameAddress (name : String) (hname : name ∈ parties) (standIn : Value)
    (hstandIn : ∀ items, standIn ≠ .list items) :
    (paramOr call name standIn).SameAddress (paramOr other name standIn) := by
  refine (paramOr_respelled h name standIn).sameAddress fun items hitems => ?_
  have hget : call.parameters.get? name = some (.list items) := by
    unfold paramOr at hitems
    cases hget : call.parameters.get? name with
    | none =>
      rw [hget] at hitems
      exact absurd hitems (hstandIn items)
    | some v =>
      rw [hget] at hitems
      exact congrArg some hitems
  rw [paramOr, h.parties name hname items hget, Option.getD_some]

theorem party_respelled (name : String) (hname : name ∈ parties) :
    (Query.party (param call name)).Respelled (.party (param other name)) :=
  .party (paramOr_sameAddress h name hname _ nofun)

/-- Lists are gone through item by item. -/
theorem itemsOf_respelled (name : String) :
    List.Forall₂ Value.Respelled (itemsOf call name) (itemsOf other name) := by
  have hname := h.parameters name
  unfold itemsOf
  generalize call.parameters.get? name = found at hname ⊢
  generalize other.parameters.get? name = found' at hname ⊢
  cases hname with
  | none => exact .nil
  | some hvalue =>
    cases hvalue with
    | same v => exact List.forall₂_same.2 fun item _ => .same item
    | address => exact .nil
    | list hitems => exact hitems

theorem length_itemsOf (name : String) :
    (itemsOf other name).length = (itemsOf call name).length :=
  (itemsOf_respelled h name).length_eq.symm

omit h in
theorem head?_respelled : ∀ {items others : List Value},
    List.Forall₂ Value.Respelled items others →
      (items.head?.getD .null).Respelled (others.head?.getD .null)
  | [], [], _ => .same .null
  | _ :: _, _ :: _, .cons hitem _ => hitem

omit h in
theorem getLast?_respelled {items others : List Value}
    (hitems : List.Forall₂ Value.Respelled items others) :
    (items.getLast?.getD .null).Respelled (others.getLast?.getD .null) := by
  rw [← List.head?_reverse, ← List.head?_reverse]
  exact head?_respelled (List.forall₂_reverse_iff.2 hitems)

theorem pathStart_respelled : (pathStart call).Respelled (pathStart other) :=
  head?_respelled (itemsOf_respelled h "path")

theorem pathEnd_respelled : (pathEnd call).Respelled (pathEnd other) :=
  getLast?_respelled (itemsOf_respelled h "path")

theorem approval_respelled (hamount : "amount" ∈ figures call.family call.functionName)
    {token token' : Value} (htoken : token.Respelled token') :
    (approval call token).Respelled (approval other token') := by
  have hparam : param other "amount" = param call "amount" := paramOr_eq_of_figure h hamount _
  have hquantity : quantity other "amount" = quantity call "amount" :=
    paramOr_eq_of_figure h hamount _
  have hspender := party_respelled h "spender" (by decide)
  unfold approval
  dsimp only
  rw [hparam]
  split
  · exact ⟨.cons hspender (.cons (.scaled rfl) .nil), rfl⟩
  · split
    · exact ⟨.cons hspender .nil, rfl⟩
    · split
      · exact ⟨.cons hspender .nil, rfl⟩
      · exact ⟨.cons hspender (.cons (.amount hquantity htoken) .nil), rfl⟩

theorem fungibleToken_respelled (hfamily : call.family = .fungibleToken) {token token' : Value}
    (htoken : token.Respelled token') :
    (fungibleToken call token).Respelled (fungibleToken other token') := by
  have hfigure (name : String) (hname : name ∈ figures .fungibleToken call.functionName) :
      (Query.amount (quantity call name) token tokenDecimals).Respelled
        (.amount (quantity other name) token' tokenDecimals) := by
    rw [← hfamily] at hname
    exact .amount (paramOr_eq_of_figure h hname _) htoken
  have hto := party_respelled h "to" (by decide)
  have hfrom := party_respelled h "from" (by decide)
  have hspender := party_respelled h "spender" (by decide)
  unfold fungibleToken
  rw [h.functionName]
  split
  · next hname => exact ⟨.cons (hfigure _ (by rw [hname]; decide)) (.cons hto .nil), rfl⟩
  · next hname => exact approval_respelled h (by rw [hfamily, hname]; decide) htoken
  · next hname =>
    exact ⟨.cons (hfigure _ (by rw [hname]; decide)) (.cons hfrom (.cons hto .nil)), rfl⟩
  · next hname => exact ⟨.cons (hfigure _ (by rw [hname]; decide)) (.cons hto .nil), rfl⟩
  · next hname => exact ⟨.cons (hfigure _ (by rw [hname]; decide)) .nil, rfl⟩
  · next hname => exact ⟨.cons (hfigure _ (by rw [hname]; decide)) (.cons hspender .nil), rfl⟩
  · next hname => exact ⟨.cons (hfigure _ (by rw [hname]; decide)) (.cons hspender .nil), rfl⟩
  · exact ⟨.nil, rfl⟩
  · next hname => exact ⟨.cons (hfigure _ (by rw [hname]; decide)) .nil, rfl⟩
  · exact ⟨.nil, rfl⟩

/-- Both calls have a value that is neither a list nor an address, or neither has it. -/
theorem given_iff (name : String) {v : Value}
    (htext : ∀ s, v = .text s → Address.isAddress s = false) (hlist : ∀ items, v ≠ .list items) :
    call.parameters.get? name = some v ↔ other.parameters.get? name = some v := by
  have hname := h.parameters name
  generalize call.parameters.get? name = found at hname ⊢
  generalize other.parameters.get? name = found' at hname ⊢
  cases hname with
  | none => rfl
  | some hvalue =>
    rw [Option.some_inj, Option.some_inj]
    exact hvalue.eq_iff htext hlist

theorem operatorApproval_respelled :
    (operatorApproval call).Respelled (operatorApproval other) := by
  have hgiven := given_iff h "approved" (v := .bool true) nofun nofun
  refine ⟨.cons (party_respelled h _ (by decide)) .nil, ?_⟩
  unfold operatorApproval
  dsimp only
  simp only [hgiven]

theorem nonFungibleToken_respelled (hfamily : call.family = .nonFungibleToken) :
    (nonFungibleToken call).Respelled (nonFungibleToken other) := by
  have htokenId (hname : "tokenId" ∈ figures .nonFungibleToken call.functionName) :
      (Query.plain (param call "tokenId")).Respelled (.plain (param other "tokenId")) := by
    rw [← hfamily] at hname
    exact .plain (paramOr_eq_of_figure h hname _)
  have hto := party_respelled h "to" (by decide)
  have htransfer (hname : "tokenId" ∈ figures .nonFungibleToken call.functionName) :
      (tokenTransfer call).Respelled (tokenTransfer other) :=
    ⟨.cons (htokenId hname) (.cons (party_respelled h _ (by decide)) (.cons hto .nil)), rfl⟩
  unfold nonFungibleToken
  rw [h.functionName]
  split
  · next hname => exact htransfer (by rw [hname]; decide)
  · next hname => exact htransfer (by rw [hname]; decide)
  · next hname => exact ⟨.cons hto (.cons (htokenId (by rw [hname]; decide)) .nil), rfl⟩
  · exact operatorApproval_respelled h
  · exact ⟨.nil, rfl⟩

theorem poolManager_respelled (hfamily : call.family = .poolManager) :
    (poolManager call).Respelled (poolManager other) := by
  have hfigure (name : String) (hname : name ∈ figures .poolManager call.functionName) :
      quantity other name = quantity call name := by
    rw [← hfamily] at hname
    exact paramOr_eq_of_figure h hname _
  have hstart := pathStart_respelled h
  have hend := pathEnd_respelled h
  have htokenA := paramOr_respelled h "tokenA" .null
  have htokenB := paramOr_respelled h "tokenB" .null
  have hswap (before between : String) {spent received : String}
      (hspent : spent ∈ figures .poolManager call.functionName)
      (hreceived : received ∈ figures .poolManager call.functionName) :
      (tokenSwap spent received before between call).Respelled
        (tokenSwap spent received before between other) :=
    ⟨.cons (.amount (hfigure _ hspent) hstart) (.cons (.amount (hfigure _ hreceived) hend)
      (.cons (.token hstart) (.cons (.token hend) .nil))), rfl⟩
  unfold poolManager
  rw [h.functionName]
  split
  · next hname => exact hswap _ _ (by rw [hname]; decide) (by rw [hname]; decide)
  · next hname => exact hswap _ _ (by rw [hname]; decide) (by rw [hname]; decide)
  · next hname =>
    have hamount := hfigure "amountOutMin" (by rw [hname]; decide)
    exact ⟨.cons (.amount hamount hend) (.cons (.token hend) .nil), rfl⟩
  · next hname =>
    have hspent := hfigure "amountIn" (by rw [hname]; decide)
    have hreceived := hfigure "amountOutMin" (by rw [hname]; decide)
    exact ⟨.cons (.amount hspent hstart) (.cons (.scaled hreceived) (.cons (.token hstart) .nil)),
      rfl⟩
  · next hname =>
    have hfirst := hfigure "amountADesired" (by rw [hname]; decide)
    have hsecond := hfigure "amountBDesired" (by rw [hname]; decide)
    exact ⟨.cons (.amount hfirst htokenA) (.cons (.amount hsecond htokenB)
      (.cons (.token htokenA) (.cons (.token htokenB) .nil))), rfl⟩
  · next hname =>
    have hliquidity := hfigure "liquidity" (by rw [hname]; decide)
    exact ⟨.cons (.scaled hliquidity) (.cons (.token htokenA) (.cons (.token htokenB) .nil)), rfl⟩
  · exact ⟨.nil, rfl⟩

omit h in
/-- As many items are true, whatever the spelling of the others is. -/
theorem count_true_eq {items others : List Value}
    (hitems : List.Forall₂ Value.Respelled items others) :
    others.count (.bool true) = items.count (.bool true) := by
  induction hitems with
  | nil => rfl
  | cons hitem _ ih =>
    have htrue := hitem.eq_iff (u := .bool true) nofun nofun
    simp only [List.count_cons, ih, beq_iff_eq, htrue]

theorem primarySale_respelled (hfamily : call.family = .primarySale) :
    (primarySale call).Respelled (primarySale other) := by
  have hfigure (name : String) (hname : name ∈ figures .primarySale call.functionName) :
      quantity other name = quantity call name := by
    rw [← hfamily] at hname
    exact paramOr_eq_of_figure h hname _
  have htoken := paramOr_respelled h "token" .null
  have hamount (hname : "amount" ∈ figures .primarySale call.functionName) :
      (saleAmount call).Respelled (saleAmount other) := .amount (hfigure _ hname) htoken
  unfold primarySale
  rw [h.functionName]
  split
  · next hname => exact ⟨.cons (hamount (by rw [hname]; decide)) (.cons (.token htoken) .nil), rfl⟩
  · exact ⟨.nil, rfl⟩
  · exact ⟨.nil, rfl⟩
  · exact ⟨.cons (party_respelled h _ (by decide))
      (.cons (party_respelled h _ (by decide)) .nil), rfl⟩
  · next hname =>
    have hsize := hfigure "batchSize" (by rw [hname]; decide)
    refine ⟨.cons (.plain hsize) .nil, ?_⟩
    unfold settleBatch
    dsimp only
    rw [length_itemsOf h]
  · exact ⟨.nil, rfl⟩
  · next hname => exact ⟨.cons (hamount (by rw [hname]; decide)) (.cons (.token htoken) .nil), rfl⟩
  · exact ⟨.nil, rfl⟩
  · exact ⟨.nil, rfl⟩
  · exact ⟨.nil, rfl⟩
  · exact ⟨.nil, rfl⟩
  · next hname =>
    exact ⟨.cons (hamount (by rw [hname]; decide)) (.cons (.token htoken)
      (.cons (party_respelled h _ (by decide)) .nil)), rfl⟩
  · refine ⟨.nil, ?_⟩
    unfold setAllowedBatch
    dsimp only [Sentence.told]
    rw [length_itemsOf h, length_itemsOf h, count_true_eq (itemsOf_respelled h "flags")]
  · exact ⟨.nil, rfl⟩

theorem isNativeTransfer_eq : other.isNativeTransfer = call.isNativeTransfer := by
  have hasset := given_iff h "asset" (v := .text "native")
    (fun s hs => by cases hs; decide) nofun
  unfold Call.isNativeTransfer
  simp only [h.family, hasset]

theorem otherCall_respelled : (otherCall call).Respelled (otherCall other) := by
  refine ⟨.nil, ?_⟩
  unfold otherCall
  rw [h.functionName, h.selector]

theorem nativeTransfer_respelled (hvalue : "value" ∈ figures call.family call.functionName) :
    (nativeTransfer call).Respelled (nativeTransfer other) := by
  unfold nativeTransfer
  rw [isNativeTransfer_eq h, paramOr_eq_of_figure h hvalue]
  split
  · split
    · exact ⟨.nil, rfl⟩
    · exact ⟨.cons (.scaled rfl) .nil, rfl⟩
  · exact otherCall_respelled h

theorem generic_respelled (hfamily : call.family = .generic) :
    (generic call).Respelled (generic other) := by
  unfold generic
  rw [h.functionName]
  split
  · next hname => exact nativeTransfer_respelled h (by rw [hfamily, hname]; decide)
  · exact ⟨.cons (party_respelled h _ (by decide)) .nil, rfl⟩
  · exact ⟨.nil, rfl⟩
  · exact ⟨.nil, by rw [length_itemsOf h]⟩
  · exact otherCall_respelled h

theorem deployment_respelled : (deployment call).Respelled (deployment other) := by
  have haddress := paramOr_sameAddress h Call.deployedAddressName (by decide) .null nofun
  have hnull := haddress.respelled.eq_iff (u := .null) nofun nofun
  unfold deployment
  split
  · next hcall =>
    rw [hnull.1 hcall]
    exact ⟨.nil, rfl⟩
  · next hcall =>
    split
    · next hother => exact absurd (hnull.2 hother) hcall
    · exact ⟨.cons (.party haddress) .nil, rfl⟩

end Phrasing

/-- The sentences about calls that differ in spelling differ in the spelling of their queries. -/
theorem Call.respelled_sentence {call other : Call} (h : call.Respelled other)
    {token token' : Value} (htoken : token.Respelled token') :
    (call.sentence token).Respelled (other.sentence token') := by
  unfold sentence
  rw [h.family]
  cases hfamily : call.family with
  | fungibleToken => exact Phrasing.fungibleToken_respelled h hfamily htoken
  | nonFungibleToken => exact Phrasing.nonFungibleToken_respelled h hfamily
  | poolManager => exact Phrasing.poolManager_respelled h hfamily
  | primarySale => exact Phrasing.primarySale_respelled h hfamily
  | generic => exact Phrasing.generic_respelled h hfamily
  | unknown => exact ⟨.nil, by rw [h.selector]⟩
  | contractCreation => exact Phrasing.deployment_respelled h

end Chronicle
