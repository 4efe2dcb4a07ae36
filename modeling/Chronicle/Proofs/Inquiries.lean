/-
# What narration asks

The questions of a narrative are fixed beforehand: the sender, the destination
and the queries of the sentence tell what is asked and in which order. The
answers change nothing about it, except that an amount without a text ends the
narrative with a fault before the rest is asked.

Key definitions: `Inquiry.Asks`, `Query.questions`, `Request.questions`.
Key theorems: `Inquiry.Asks.bind`, `Inquiry.narrative_asks`.
-/
import Chronicle.Narration.Narrator

namespace Chronicle

namespace Inquiry

/-- Whatever the answers are, the inquiry asks these questions in order, unless it fails before it
has asked all of them. -/
def Asks : Inquiry α → List Question → Prop
  | .done (.ok _), questions => questions = []
  | .done (.error _), _ => True
  | .ask question next, questions =>
    ∃ rest, questions = question :: rest ∧ ∀ answer, (next answer).Asks rest

theorem done_asks : ∀ outcome : Except Fault α, (done outcome).Asks []
  | .ok _ => rfl
  | .error _ => trivial

theorem label_asks (address : String) : (label address).Asks [.label address] :=
  ⟨[], rfl, fun _ => rfl⟩

theorem decimals_asks (token : String) (standard : Int) :
    (decimals token standard).Asks [.decimals token standard] :=
  ⟨[], rfl, fun _ => rfl⟩

theorem Asks.bind {first later : List Question} {f : α → Inquiry β}
    (hf : ∀ a, (f a).Asks later) :
    ∀ {x : Inquiry α}, x.Asks first → (x >>= f).Asks (first ++ later)
  | .done (.ok a), hx => by
    obtain rfl : first = [] := hx
    exact hf a
  | .done (.error _), _ => trivial
  | .ask _ _, hx => by
    obtain ⟨rest, rfl, hnext⟩ := hx
    exact ⟨rest ++ later, rfl, fun answer => (hnext answer).bind hf⟩

end Inquiry

/-! ### The questions of a request -/

theorem Question.mem_ofAddress {config : Config} {isLocal : Bool} {address : String}
    {question : Question} (h : question ∈ Question.ofAddress config isLocal address) :
    question = .label (Address.spelled address) := by
  unfold Question.ofAddress at h
  split at h
  · cases h
  · exact List.mem_singleton.1 h

theorem Question.mem_ofToken {token : Value} {standard : Int} {question : Question}
    (h : question ∈ Question.ofToken token standard) :
    ∃ address, token = .text address ∧ Address.isAddress address = true ∧
      question = .decimals address standard := by
  cases token with
  | text address =>
    by_cases haddress : Address.isAddress address = true
    · have hofToken : Question.ofToken (.text address) standard = [.decimals address standard] :=
        if_pos haddress
      rw [hofToken] at h
      exact ⟨address, rfl, haddress, List.mem_singleton.1 h⟩
    · have hofToken : Question.ofToken (.text address) standard = [] := if_neg haddress
      rw [hofToken] at h
      cases h
  | _ => cases h

theorem Query.mem_questions {config : Config} {isLocal : Bool} {question : Question}
    {query : Query} (h : question ∈ query.questions config isLocal) :
    (∃ address, Address.isAddress address = true ∧ question = .label (Address.spelled address)) ∨
      ∃ v address standard, query = .amount v (.text address) standard ∧
        Address.isAddress address = true ∧ question = .decimals address standard := by
  have hnamed {s : String}
      (h : question ∈ if Address.isAddress s then Question.ofAddress config isLocal s else []) :
      ∃ address, Address.isAddress address = true ∧
        question = .label (Address.spelled address) := by
    split at h
    · next haddress => exact ⟨s, haddress, Question.mem_ofAddress h⟩
    · cases h
  unfold Query.questions at h
  split at h
  · obtain ⟨address, rfl, haddress, rfl⟩ := Question.mem_ofToken h
    exact Or.inr ⟨_, address, _, rfl, haddress, rfl⟩
  · exact Or.inl (hnamed h)
  · exact Or.inl (hnamed h)
  · cases h

/-- A request asks about the sender, the destination and the addresses that are named, and about
the tokens of amounts. -/
theorem Request.mem_questions {config : Config} {request : Request} {question : Question}
    (h : question ∈ request.questions config) :
    (∃ address, (address = request.sender ∨ address ∈ request.destination ∨
        Address.isAddress address = true) ∧ question = .label (Address.spelled address)) ∨
      ∃ v address standard, .amount v (.text address) standard ∈
          (Narrator.sentenceOf request).queries ∧
        Address.isAddress address = true ∧ question = .decimals address standard := by
  rcases List.mem_append.1 h with hsender | h
  · exact Or.inl ⟨request.sender, Or.inl rfl, Question.mem_ofAddress hsender⟩
  · rcases List.mem_append.1 h with hcontract | hqueries
    · obtain ⟨address, hmem, hquestion⟩ := List.mem_flatMap.1 hcontract
      obtain ⟨hdestination, -⟩ := Option.filter_eq_some_iff.1 (Option.mem_toList.1 hmem)
      exact Or.inl ⟨address, Or.inr (Or.inl hdestination), Question.mem_ofAddress hquestion⟩
    · obtain ⟨query, hquery, hquestion⟩ := List.mem_flatMap.1 hqueries
      rcases Query.mem_questions hquestion with
        ⟨address, haddress, rfl⟩ | ⟨v, address, standard, rfl, haddress, rfl⟩
      · exact Or.inl ⟨address, Or.inr (Or.inr haddress), rfl⟩
      · exact Or.inr ⟨v, address, standard, hquery, haddress, rfl⟩

namespace Inquiry

variable (config : Config) (isLocal : Bool)

theorem displayAddress_asks (address : String) :
    (displayAddress config isLocal address).Asks (Question.ofAddress config isLocal address) := by
  unfold displayAddress Question.ofAddress
  split
  · exact done_asks (.ok _)
  · exact Asks.bind (fun found => done_asks (.ok _)) (label_asks _)

theorem ite_asks {c : Prop} [Decidable c] {x y : Inquiry α} {questions : List Question}
    (hx : x.Asks questions) (hy : y.Asks []) :
    (if c then x else y).Asks (if c then questions else []) := by
  split
  · exact hx
  · exact hy

theorem tokenDecimals_asks (token : Value) (standard : Int) :
    (tokenDecimals token standard).Asks (Question.ofToken token standard) := by
  unfold tokenDecimals Question.ofToken
  cases token.asText? with
  | none => exact done_asks (.ok standard)
  | some address => exact ite_asks (decimals_asks address standard) (done_asks (.ok standard))

theorem answer_asks : ∀ query : Query,
    (answer config isLocal query).Asks (query.questions config isLocal)
  | .amount v token standard => by
    rw [Query.questions, ← List.append_nil (Question.ofToken token standard)]
    exact Asks.bind (fun decimals => done_asks _) (tokenDecimals_asks token standard)
  | .scaled v decimals => done_asks (Amount.text v decimals)
  | .plain v => done_asks v.shown
  | .party v => by
    cases v with
    | text s => exact ite_asks (displayAddress_asks config isLocal s) (done_asks (.ok s))
    | _ => exact done_asks (Value.shown _)
  | .token v => by
    cases v with
    | text s => exact ite_asks (displayAddress_asks config isLocal s) (done_asks (.ok _))
    | _ => exact done_asks (.ok _)

theorem answers_asks : ∀ queries : List Query,
    (answers config isLocal queries).Asks (queries.flatMap (Query.questions config isLocal))
  | [] => done_asks (.ok [])
  | query :: queries => by
    rw [List.flatMap_cons, ← List.append_nil (List.flatMap _ queries)]
    refine Asks.bind (fun first => ?_) (answer_asks config isLocal query)
    exact Asks.bind (fun rest => done_asks (.ok (first :: rest))) (answers_asks queries)

theorem displayContract_asks (request : Request) :
    (displayContract config request).Asks ((Narrator.contractOf request).toList.flatMap
      (Question.ofAddress config request.isLocal)) := by
  unfold displayContract
  cases Narrator.contractOf request with
  | none => exact done_asks (.ok _)
  | some address =>
    rw [Option.toList_some, List.flatMap_singleton]
    exact displayAddress_asks config request.isLocal address

/-- A narrative asks the questions of its request. -/
theorem narrative_asks (request : Request) :
    (narrative config request).Asks (request.questions config) := by
  refine Asks.bind (fun sender => ?_) (displayAddress_asks config _ _)
  refine Asks.bind (fun contract => ?_) (displayContract_asks config request)
  rw [← List.append_nil (List.flatMap _ _)]
  exact Asks.bind (fun answers => done_asks (.ok _)) (answers_asks config _ _)

end Inquiry

end Chronicle
