/-
# What sentences name

All sentences are made in one way. The sender comes first, then words that begin
with a blank; behind them comes the contract, unless it is only being deployed,
and the selector, where the function has no sentence of its own. An approval of
what is no amount is the only one without pieces, and it is never told, because
it asks for that amount.

Key definitions: `Phrasing.ownNames`, `Call.named`, `Sentence.Names`.
Key theorems: `Call.sentence_names`, `Sentence.Names.exists_text`.
-/
import Chronicle.Narration.Phrasing

namespace Chronicle

/-- The functions of the generic family with a sentence of their own. -/
def Phrasing.ownNames : List String :=
  ["transfer", "transferOwnership", "renounceOwnership", "multicall"]

/-- What the sentence about a call names behind the sender. -/
def Call.named (call : Call) : List Piece :=
  match call.family with
  | .contractCreation => []
  | .unknown => [.contract, .words call.selector]
  | .generic =>
    if call.functionName ∈ Phrasing.ownNames then [.contract]
    else [.contract, .words call.selector]
  | _ => [.contract]

theorem Call.contract_mem_named {call : Call} (h : call.family ≠ .contractCreation) :
    .contract ∈ call.named := by
  unfold named
  split
  · next hfamily => exact absurd hfamily h
  · simp
  · split <;> simp
  · simp

theorem Call.selector_mem_named {call : Call} (h : call.family = .unknown ∨
    call.family = .generic ∧ call.functionName ∉ Phrasing.ownNames) :
    .words call.selector ∈ call.named := by
  unfold named
  rcases h with hfamily | ⟨hfamily, hname⟩
  · simp [hfamily]
  · simp [hfamily, hname]

namespace Sentence

/-- The sentence asks for an amount that cannot be told. -/
def Untold (sentence : Sentence) : Prop :=
  ∃ v decimals fault, .scaled v decimals ∈ sentence.queries ∧ Amount.text v decimals = .error fault

/-- The sentence begins with the sender and a blank, and names the pieces behind them, or it is
never told. -/
def Names (sentence : Sentence) (named : List Piece) : Prop :=
  (∃ w rest, sentence.pieces = .sender :: .words w :: rest ∧ w.toList.head? = some ' ' ∧
    named ⊆ rest) ∨ sentence.Untold

end Sentence

/-! ### Families -/

namespace Phrasing

variable (call : Call) (token : Value)

theorem approval_names : (approval call token).Names [.contract] := by
  unfold approval
  dsimp only
  split
  · next fault hfault =>
    -- The sentence has no pieces, but the last of its queries fails with the same fault.
    refine Or.inr ⟨_, _, fault, List.mem_cons_of_mem _ List.mem_cons_self, ?_⟩
    rw [Amount.text, hfault]
    rfl
  · split
    · exact Or.inl ⟨_, _, rfl, rfl, by simp⟩
    · split
      · exact Or.inl ⟨_, _, rfl, rfl, by simp⟩
      · exact Or.inl ⟨_, _, rfl, rfl, by simp⟩

theorem fungibleToken_names : (fungibleToken call token).Names [.contract] := by
  unfold fungibleToken
  split
  case h_2 => exact approval_names call token
  all_goals exact Or.inl ⟨_, _, rfl, rfl, by simp⟩

theorem nonFungibleToken_names : (nonFungibleToken call).Names [.contract] := by
  have hoperator : (operatorApproval call).Names [.contract] := by
    unfold operatorApproval
    split
    · exact Or.inl ⟨_, _, rfl, rfl, by simp⟩
    · exact Or.inl ⟨_, _, rfl, rfl, by simp⟩
  unfold nonFungibleToken
  split
  case h_4 => exact hoperator
  all_goals exact Or.inl ⟨_, _, rfl, rfl, by simp⟩

theorem poolManager_names : (poolManager call).Names [.contract] := by
  unfold poolManager
  split
  all_goals exact Or.inl ⟨_, _, rfl, rfl, by simp⟩

theorem primarySale_names : (primarySale call).Names [.contract] := by
  unfold primarySale
  split
  all_goals exact Or.inl ⟨_, _, rfl, rfl, by simp⟩

theorem otherCall_names : (otherCall call).Names [.contract, .words call.selector] :=
  Or.inl ⟨_, _, rfl, rfl, by simp⟩

theorem generic_names : (generic call).Names [.contract] := by
  have htransfer : (nativeTransfer call).Names [.contract] := by
    unfold nativeTransfer
    split
    · split
      · exact Or.inl ⟨_, _, rfl, rfl, by simp⟩
      · exact Or.inl ⟨_, _, rfl, rfl, by simp⟩
    · exact Or.inl ⟨_, _, rfl, rfl, by simp⟩
  unfold generic
  split
  case h_1 => exact htransfer
  all_goals exact Or.inl ⟨_, _, rfl, rfl, by simp⟩

/-- All other functions of the generic family share a sentence. -/
theorem generic_of_not_mem {call : Call} (h : call.functionName ∉ ownNames) :
    generic call = otherCall call := by
  simp only [ownNames, List.mem_cons, List.not_mem_nil, or_false, not_or] at h
  obtain ⟨htransfer, hownership, hrenounce, hmulticall⟩ := h
  unfold generic
  split
  · next hname => exact absurd hname htransfer
  · next hname => exact absurd hname hownership
  · next hname => exact absurd hname hrenounce
  · next hname => exact absurd hname hmulticall
  · rfl

theorem deployment_names : (deployment call).Names [] := by
  unfold deployment
  split
  · exact Or.inl ⟨_, _, rfl, rfl, by simp⟩
  · exact Or.inl ⟨_, _, rfl, rfl, by simp⟩

end Phrasing

/-- Whatever the family, the function and the parameters are, the sentence names what it has to. -/
theorem Call.sentence_names (call : Call) (token : Value) :
    (call.sentence token).Names call.named := by
  unfold sentence named
  cases call.family with
  | fungibleToken => exact Phrasing.fungibleToken_names call token
  | nonFungibleToken => exact Phrasing.nonFungibleToken_names call
  | poolManager => exact Phrasing.poolManager_names call
  | primarySale => exact Phrasing.primarySale_names call
  | generic =>
    dsimp only
    by_cases hname : call.functionName ∈ Phrasing.ownNames
    · rw [if_pos hname]
      exact Phrasing.generic_names call
    · rw [if_neg hname, Phrasing.generic_of_not_mem hname]
      exact Phrasing.otherCall_names call
  | unknown => exact Or.inl ⟨_, _, rfl, rfl, by simp⟩
  | contractCreation => exact Phrasing.deployment_names call

/-! ### Texts -/

namespace Sentence

variable {sentence : Sentence} {named : List Piece}

/-- What a piece says is in the text of pieces that it is among. -/
theorem infix_join_of_mem {piece : Piece} {pieces : List Piece} (h : piece ∈ pieces)
    (sender contract : String) (answers : List String) :
    (piece.text sender contract answers).toList <:+:
      (String.join (pieces.map (Piece.text sender contract answers))).toList := by
  rw [String.toList_join, List.flatMap_def]
  exact List.infix_of_mem_flatten (List.mem_map_of_mem (List.mem_map_of_mem h))

/-- A sentence that is told begins with the sender and a blank, and what it names stands behind
them. -/
theorem Names.exists_text (h : sentence.Names named) (htold : ¬ sentence.Untold)
    (sender contract : String) (answers : List String) : ∃ middle : String,
      sentence.text sender contract answers = sender ++ " " ++ middle ∧
        ∀ piece ∈ named, (piece.text sender contract answers).toList <:+: middle.toList := by
  obtain ⟨w, rest, hpieces, hw, hnamed⟩ := h.resolve_right htold
  obtain ⟨letters, hletters⟩ := List.head?_eq_some_iff.1 hw
  have hblank : w = " " ++ String.ofList letters := String.toList_inj.1 (by simp [hletters])
  refine ⟨String.ofList letters ++ String.join (rest.map (Piece.text sender contract answers)), ?_,
    fun piece hpiece => ?_⟩
  · have hsender : Piece.sender.text sender contract answers = sender := rfl
    have hwords : (Piece.words w).text sender contract answers = w := rfl
    rw [text, hpieces, List.map_cons, List.map_cons, String.join_cons, String.join_cons, hsender,
      hwords, hblank]
    simp only [String.append_assoc]
  · rw [String.toList_append]
    exact (infix_join_of_mem (hnamed hpiece) _ _ _).trans (List.suffix_append _ _).isInfix

end Sentence

end Chronicle
