/-
# Payments in tokens and their narratives

The known functions of fungible tokens that pay, or allow to pay, take addresses
first and an amount last. So each of their calls has parties and an amount of at
most one word. A narrator that shows addresses in full, and has nothing that
could change what it shows, tells the amount in whole tokens and the parties by
their addresses, in words that depend on the function alone. Only approvals have
other words for an amount without limit and for an amount of zero.

Key definitions: `Narrator.IsFrank`, `Payment`, `Payment.Pays`, `Payment.Says`.
Key theorems: `Payment.pays_of_decodeTransaction`, `Payment.readable_pieces`,
`Payment.sentence_eq`, `Payment.narrate_says`.
-/
import Chronicle.Proofs.AmountTexts
import Chronicle.Proofs.KnownCalls
import Chronicle.Proofs.NarrationRuns
import Chronicle.Proofs.UniqueReading

namespace Chronicle

open AbiType (AllSupported allAdmit interchangeOf)

/-! ### Narrators that hide nothing -/

/-- The narrator shows addresses in full, and has neither a wallet nor any source that could change
what is shown. -/
structure Narrator.IsFrank (narrator : Narrator) : Prop where
  wallet : narrator.config.activeWallet = none
  full : narrator.config.fullAddresses = true
  resolver : narrator.resolver = none
  tokens : narrator.tokens = none

namespace Narrator

variable {narrator : Narrator} (h : narrator.IsFrank)
include h

theorem displayAddress_frank (isLocal : Bool) (address : String) :
    narrator.displayAddress isLocal address = pure (Address.spelled address) := by
  have hlabel (normal : String) :
      Resolver.labelOf narrator.resolver normal = (pure none : Narration (Option String)) := by
    rw [h.resolver]
    rfl
  rw [displayAddress_eq, h.wallet, hlabel, pure_bind, if_neg (by simp), Inquiry.nameOf, h.full]
  rfl

theorem answer_party_frank (isLocal : Bool) {address : String}
    (haddress : Address.isAddress address = true) :
    narrator.answer isLocal (.party (.text address)) = pure (Address.spelled address) := by
  rw [answer_party, if_pos haddress, displayAddress_frank h]

theorem answer_amount_frank (isLocal : Bool) {v token : Value} {standard : Int} {s : String}
    (hs : Amount.text v standard = .ok s) :
    narrator.answer isLocal (.amount v token standard) = pure s := by
  have hdecimals : narrator.tokenDecimals token standard = pure standard := by
    rw [tokenDecimals_eq, h.tokens]
  rw [answer_amount, hdecimals, pure_bind, hs]
  rfl

omit h in
theorem answers_eq_pure {isLocal : Bool} : ∀ {queries : List Query} {texts : List String},
    List.Forall₂ (fun query s => narrator.answer isLocal query = pure s) queries texts →
      narrator.answers isLocal queries = pure texts
  | [], [], _ => rfl
  | query :: queries, s :: texts, .cons hfirst hrest => by
    rw [answers_cons, hfirst, answers_eq_pure hrest, pure_bind, pure_bind]

/-- The narrative of a request with a destination is the sentence with its answers, and the
ending. -/
theorem narrate_frank {request : Request} {contract : String}
    (hcontract : contractOf request = some contract) {sentence : Sentence}
    (hsentence : sentenceOf request = sentence) {answers : List String}
    (hanswers : List.Forall₂ (fun query s => narrator.answer request.isLocal query = pure s)
      sentence.queries answers) :
    narrator.narrate request = pure (sentence.text (Address.spelled request.sender)
      (Address.spelled contract) answers ++ ending request.succeeded request.hash) := by
  have hdisplay : narrator.displayContract request = pure (Address.spelled contract) := by
    rw [displayContract_eq, hcontract]
    exact displayAddress_frank h _ _
  rw [narrate_eq, displayAddress_frank h, hdisplay, pure_bind, pure_bind, hsentence,
    answers_eq_pure hanswers, pure_bind]

end Narrator

/-! ### Functions that pay -/

/-- A function of fungible tokens that pays or allows to pay. Its parties come first among its
inputs, and the amount is the last. -/
structure Payment where
  name : String
  parties : List String
  amount : String
  deriving DecidableEq

namespace Payment

/-- The functions that pay. -/
def all : List Payment :=
  [⟨"transfer", ["to"], "amount"⟩, ⟨"approve", ["spender"], "amount"⟩,
   ⟨"transferFrom", ["from", "to"], "amount"⟩, ⟨"mint", ["to"], "amount"⟩,
   ⟨"burn", [], "amount"⟩, ⟨"increaseAllowance", ["spender"], "addedValue"⟩,
   ⟨"decreaseAllowance", ["spender"], "subtractedValue"⟩, ⟨"withdraw", [], "amount"⟩]

/-- The names of the inputs. -/
def names (payment : Payment) : List String := payment.parties ++ [payment.amount]

/-- The types of the inputs. -/
def types (payment : Payment) : List ArgType :=
  payment.parties.map (fun _ => .address) ++ [.uint 256]

theorem nodup_names : ∀ payment ∈ all, payment.names.Nodup := by decide

theorem length_names (payment : Payment) : payment.names.length = payment.types.length := by
  simp [names, types]

/-- The inputs of known functions that pay. -/
theorem inputs_of_mem_known {payment : Payment} (hpayment : payment ∈ all) {entry : Entry}
    (hentry : entry ∈ Registry.known.entries) (hfamily : entry.family = .fungibleToken)
    (hname : entry.name = payment.name) :
    entry.inputNames = payment.names ∧ entry.inputTypes = payment.types.map ArgType.text := by
  have hcheck : ((Registry.listed Known.interfaces).toOption.getD []).all (fun entry =>
      all.all fun payment => decide (entry.family = .fungibleToken → entry.name = payment.name →
        entry.inputNames = payment.names ∧ entry.inputTypes = payment.types.map ArgType.text)) =
      true := by decide +kernel
  obtain ⟨entries, hlisted, -⟩ := Registry.build_eq_ok_iff.1 Registry.build_known
  rw [hlisted] at hcheck
  have hevery := Registry.forall_entries_of_listed Registry.build_known hlisted
    fun entry hmem => List.all_eq_true.1 hcheck entry hmem
  exact of_decide_eq_true (List.all_eq_true.1 (hevery entry hentry) payment hpayment) hfamily hname

/-- The forms of arguments: a marked text for each party and a numeral for the amount. -/
def forms (parties : List Bytes) (amount : Nat) : List Value :=
  parties.map (fun bs => .text (Hex.marked bs)) ++ [.text (Numeral.text amount)]

/-- The call is one of the function, with these parties and this amount. -/
structure Pays (payment : Payment) (call : Call) (parties : List Bytes) (amount : Nat) : Prop where
  functionName : call.functionName = payment.name
  family : call.family = .fungibleToken
  parameters : call.parameters = .ofList (payment.names.zip (forms parties amount))
  length : parties.length = payment.parties.length
  address : ∀ bs ∈ parties, bs.length = 20
  bound : amount < capacity 256

/-- Arguments of addresses and one number have these forms. -/
theorem forms_of_admits (names : List String) {args : List Value}
    (h : allAdmit (ArgType.abiOf (names.map (fun _ => .address) ++ [.uint 256])) args = true) :
    ∃ parties amount,
      interchangeOf (ArgType.abiOf (names.map (fun _ => .address) ++ [.uint 256])) args =
        forms parties amount ∧
      parties.length = names.length ∧ (∀ bs ∈ parties, bs.length = 20) ∧ amount < capacity 256 := by
  induction names generalizing args with
  | nil =>
    rcases args with _ | ⟨v, rest⟩
    · cases h
    obtain ⟨hn, hrest⟩ := Bool.and_eq_true_iff.1 h
    rcases rest with _ | ⟨_, _⟩
    · cases v with
      | int n =>
        obtain ⟨hlow, hhigh⟩ := Bool.and_eq_true_iff.1 hn
        obtain ⟨amount, rfl⟩ := Int.eq_ofNat_of_zero_le (of_decide_eq_true hlow)
        have hbound : (amount : Int) < capacity 256 := of_decide_eq_true hhigh
        exact ⟨[], amount, rfl, rfl, by simp, by omega⟩
      | _ => cases hn
    · cases hrest
  | cons name names ih =>
    rcases args with _ | ⟨v, rest⟩
    · cases h
    obtain ⟨haddress, hrest⟩ := Bool.and_eq_true_iff.1 h
    cases v with
    | text s =>
      have hlength := of_decide_eq_true (Bool.and_eq_true_iff.1 haddress).1
      obtain ⟨parties, amount, hforms, hcount, hparties, hbound⟩ := ih hrest
      refine ⟨AbiType.addressBytes s :: parties, amount, ?_, ?_,
        List.forall_mem_cons.2 ⟨hlength, hparties⟩, hbound⟩
      · exact congrArg (List.cons _) hforms
      · rw [List.length_cons, hcount, List.length_cons]
    | _ => cases haddress

theorem supported_types (payment : Payment) : AllSupported (ArgType.abiOf payment.types) ∧
    AbiType.areAllPlain (ArgType.abiOf payment.types) = true := by
  refine ArgType.allSupported_of_forall fun t ht => Known.supported_plain t ?_
  rcases List.mem_append.1 ht with ht | ht
  · obtain ⟨name, -, rfl⟩ := List.mem_map.1 ht
    exact List.mem_cons_self
  · rw [List.mem_singleton.1 ht]
    exact List.mem_cons_of_mem _ List.mem_cons_self

/-- Known functions that pay make calls that pay. -/
theorem pays_of_decodeTransaction {payment : Payment} (hpayment : payment ∈ all) {entry : Entry}
    (hentry : entry ∈ Registry.known.entries) (hfamily : entry.family = .fungibleToken)
    (hname : entry.name = payment.name) {transaction : Transaction} {destination : String}
    (hdestination : transaction.destination = some destination)
    (hselector : transaction.input.take 4 = entry.selector) {call : Call}
    (hcall : Registry.known.decodeTransaction transaction = .ok call) :
    ∃ parties amount, payment.Pays call parties amount := by
  obtain ⟨hnames, htypes⟩ := inputs_of_mem_known hpayment hentry hfamily hname
  have hwell := Registry.wellFormed_of_mem_entries Registry.build_known entry hentry
  have hlength : 4 ≤ transaction.input.length := by
    have hfour := congrArg List.length hselector
    rw [hwell.selector_length, List.length_take] at hfour
    omega
  have hlookup : Registry.known.lookup? (transaction.input.take 4) = some entry :=
    (Registry.lookup?_eq_some_iff Registry.build_known).2 ⟨hentry, hselector.symm⟩
  unfold Registry.decodeTransaction at hcall
  obtain ⟨decoded, hdecoded, hcall⟩ := bind_eq_ok.1 hcall
  rw [hdestination] at hdecoded
  obtain ⟨parameters, hparameters, rfl⟩ :=
    Registry.decode_registered_eq_ok hlength hlookup hdecoded
  have hcontract : ¬ Call.isNativeTransfer ⟨entry.name, entry.family,
      Hex.marked (transaction.input.take 4), parameters, transaction.input⟩ = true := by
    simp [Call.isNativeTransfer, hfamily]
  rw [if_neg hcontract] at hcall
  cases hcall
  obtain ⟨hsupported, hplain⟩ := payment.supported_types
  have hlengths : entry.inputNames.length = payment.types.length := by
    rw [hnames, payment.length_names]
  rcases Entry.decode_plain hlengths htypes hsupported hplain (transaction.input.drop 4) with
    ⟨args, hargs, hok⟩ | herror
  · obtain ⟨parties, amount, hforms, hcount, hparties, hbound⟩ :=
      forms_of_admits payment.parties hargs
    cases hok.symm.trans hparameters
    refine ⟨parties, amount, hname, hfamily, ?_, hcount, hparties, hbound⟩
    rw [hnames, ← hforms]
    rfl
  · cases herror.symm.trans hparameters

end Payment

/-! ### What calls that pay are told as -/

namespace Payment

open Phrasing (paramOr param quantity)

variable {payment : Payment} {call : Call} {parties : List Bytes} {amount : Nat}

namespace Pays

variable (h : payment.Pays call parties amount) (hpayment : payment ∈ all)
include h hpayment

theorem map_get?_names :
    payment.names.map call.parameters.get? = (forms parties amount).map some := by
  rw [h.parameters]
  refine OrderedMap.map_get?_ofList (nodup_names payment hpayment) ?_
  simp [names, forms, h.length]

/-- The parties of the call are those of the payment. -/
theorem map_param_parties :
    payment.parties.map (param call) = parties.map fun bs => .text (Hex.marked bs) := by
  have hnames := h.map_get?_names hpayment
  unfold names forms at hnames
  rw [List.map_append, List.map_append] at hnames
  have hparties := (List.append_inj hnames (by simp [h.length])).1
  have hvalues :=
    congrArg (List.map fun found : Option Value => found.getD (.text "unknown")) hparties
  rw [List.map_map, List.map_map, List.map_map] at hvalues
  exact hvalues

theorem get?_amount : call.parameters.get? payment.amount = some (.text (Numeral.text amount)) := by
  have hnames := h.map_get?_names hpayment
  unfold names forms at hnames
  rw [List.map_append, List.map_append] at hnames
  have hamount := (List.append_inj hnames (by simp [h.length])).2
  simpa using hamount

theorem paramOr_amount (standIn : Value) :
    paramOr call payment.amount standIn = .text (Numeral.text amount) := by
  rw [paramOr, h.get?_amount hpayment, Option.getD_some]

omit hpayment in
/-- The number of a word has few digits. -/
theorem isShort_amount : amount.repr.length ≤ Numeral.maxDigits := by
  have hbound : (amount : Int).natAbs ≤ capacity 256 := Nat.le_of_lt h.bound
  exact (Numeral.write?_eq_some_iff.1 (Numeral.write?_of_natAbs_le hbound)).1

end Pays

/-- The words of the sentence about the function, which are those about a call without arguments. -/
def pieces (payment : Payment) : List Piece :=
  (Call.sentence ⟨payment.name, .fungibleToken, "", .empty, []⟩ .null).pieces

theorem readable_pieces : ∀ payment ∈ all,
    Sentence.Readable payment.pieces (payment.parties.length + 1) := by decide

/-- The approval, which has sentences of its own. -/
def approval : Payment := ⟨"approve", ["spender"], "amount"⟩

theorem eq_approval_of_name : ∀ payment ∈ all, payment.name = "approve" → payment = approval := by
  decide

/-- Except for approvals, the sentence asks for the amount and then for the parties, and its words
depend on the function alone. -/
theorem sentence_eq : ∀ payment ∈ all, payment.name ≠ "approve" → ∀ {call : Call},
    call.functionName = payment.name → call.family = .fungibleToken → ∀ token : Value,
      call.sentence token =
        ⟨.amount (quantity call payment.amount) token Phrasing.tokenDecimals ::
          payment.parties.map (fun name => .party (param call name)), payment.pieces⟩ := by
  intro payment hpayment hne call hname hfamily token
  simp only [all, List.mem_cons, List.not_mem_nil, or_false] at hpayment
  unfold Call.sentence
  rw [hfamily]
  unfold Phrasing.fungibleToken
  dsimp only
  rw [hname]
  rcases hpayment with rfl | rfl | rfl | rfl | rfl | rfl | rfl | rfl
  · rfl
  · exact absurd rfl hne
  · rfl
  · rfl
  · rfl
  · rfl
  · rfl
  · rfl

/-! ### Narratives of payments -/

/-- The text of an approval of an amount, or of an approval without limit. -/
def grant (sender contract spender shown : String) : String :=
  sender ++ " approved " ++ spender ++ " to spend " ++ shown ++ " tokens from contract at " ++
    contract

/-- The text of an approval of nothing. -/
def revocation (sender contract spender : String) : String :=
  sender ++ " revoked approval for " ++ spender ++ " to spend tokens from contract at " ++ contract

/-- How the amount of an approval is shown. -/
def Allows (amount : Nat) (shown : String) : Prop :=
  (amount : Int) = Amount.unlimited ∧ shown = "unlimited" ∨
    (amount : Int) ≠ Amount.unlimited ∧ Amount.scaled amount Phrasing.tokenDecimals = .ok shown

/-- The text tells about the payment: an approval is a revocation or a grant, and any other payment
is told by the sentence of the function, with the amount in front of the parties. -/
def Says (payment : Payment) (sender contract : String) (parties : List Bytes) (amount : Nat)
    (text : String) : Prop :=
  (payment.name ≠ "approve" ∧ ∃ shown, Amount.scaled amount Phrasing.tokenDecimals = .ok shown ∧
    text = Sentence.Fields.fill ⟨sender, contract, shown :: parties.map Hex.marked⟩
      payment.pieces) ∨
  (payment.name = "approve" ∧ ∃ spender, parties = [spender] ∧
    (amount = 0 ∧ text = revocation sender contract (Hex.marked spender) ∨
      amount ≠ 0 ∧ ∃ shown, Allows amount shown ∧
        text = grant sender contract (Hex.marked spender) shown))

section

variable {narrator : Narrator} (hfrank : narrator.IsFrank)
  (h : payment.Pays call parties amount) (hpayment : payment ∈ all)
include h

theorem wholeNumber_amount :
    Amount.wholeNumber (.text (Numeral.text amount)) = .ok (some (amount : Int)) :=
  congrArg Except.ok (Numeral.read?_text h.isShort_amount)

/-- The amount is told as a number of whole tokens. -/
theorem exists_shown : ∃ shown, Amount.scaled amount Phrasing.tokenDecimals = .ok shown ∧
    Amount.text (.text (Numeral.text amount)) Phrasing.tokenDecimals = .ok shown := by
  obtain ⟨shown, hshown⟩ := Amount.scaled_eq_ok (Int.natCast_nonneg amount) h.isShort_amount
    Phrasing.tokenDecimals
  refine ⟨shown, hshown, ?_⟩
  rw [Amount.text, bind_of_ok (wholeNumber_amount h)]
  exact hshown

theorem isAddress_marked {bs : Bytes} (hbs : bs ∈ parties) :
    Address.isAddress (Hex.marked bs) = true ∧ Address.spelled (Hex.marked bs) = Hex.marked bs := by
  have hlength := h.address bs hbs
  refine ⟨?_, Address.spelled_marked hlength⟩
  unfold Address.isAddress Address.digits?
  simp [Hex.dropAnyMark_marked, Hex.length_digits, hlength, Hex.all_digits]

include hfrank

theorem answer_party (isLocal : Bool) {bs : Bytes} (hbs : bs ∈ parties) :
    narrator.answer isLocal (.party (.text (Hex.marked bs))) = pure (Hex.marked bs) := by
  obtain ⟨haddress, hspelled⟩ := isAddress_marked h hbs
  rw [Narrator.answer_party_frank hfrank isLocal haddress, hspelled]

theorem answer_parties (isLocal : Bool) :
    List.Forall₂ (fun query s => narrator.answer isLocal query = pure s)
      (parties.map fun bs => .party (.text (Hex.marked bs))) (parties.map Hex.marked) := by
  rw [List.forall₂_map_left_iff, List.forall₂_map_right_iff, List.forall₂_same]
  exact fun bs hbs => answer_party hfrank h isLocal hbs

include hpayment

/-- The narrative of a payment that is no approval. -/
theorem narrate_payment {request : Request} (hcall : request.call = call) {contract : String}
    (hcontract : Narrator.contractOf request = some contract) (hne : payment.name ≠ "approve") :
    ∃ text, narrator.narrate request =
        pure (text ++ Narrator.ending request.succeeded request.hash) ∧
      payment.Says (Address.spelled request.sender) (Address.spelled contract) parties amount
        text := by
  obtain ⟨shown, hshown, htext⟩ := exists_shown h
  have hparties : payment.parties.map (fun name => Query.party (param call name)) =
      parties.map fun bs => .party (.text (Hex.marked bs)) := by
    have hmap := congrArg (List.map Query.party) (h.map_param_parties hpayment)
    rwa [List.map_map, List.map_map] at hmap
  have hsentence : Narrator.sentenceOf request =
      ⟨.amount (.text (Numeral.text amount)) (.text (Text.lowercase contract))
          Phrasing.tokenDecimals :: parties.map (fun bs => .party (.text (Hex.marked bs))),
        payment.pieces⟩ := by
    unfold Narrator.sentenceOf
    rw [hcontract, hcall]
    dsimp only
    rw [sentence_eq payment hpayment hne h.functionName h.family, quantity,
      h.paramOr_amount hpayment, hparties]
  have hanswers := answer_parties hfrank h request.isLocal
  have hnarrate := Narrator.narrate_frank hfrank hcontract hsentence
    (.cons (Narrator.answer_amount_frank hfrank _ htext) hanswers)
  exact ⟨_, hnarrate, Or.inl ⟨hne, shown, hshown, rfl⟩⟩

end

/-- The sentence about an approval, with the spender and the amount filled in. -/
theorem sentenceOf_approval {spender : Bytes} (h : approval.Pays call [spender] amount)
    {request : Request} (hcall : request.call = call) {contract : String}
    (hcontract : Narrator.contractOf request = some contract) :
    Narrator.sentenceOf request =
      if (amount : Int) = Amount.unlimited then
        ⟨[.party (.text (Hex.marked spender))], [.sender, .words " approved ", .answer 0,
          .words " to spend unlimited tokens from contract at ", .contract]⟩
      else if amount = 0 then
        ⟨[.party (.text (Hex.marked spender))], [.sender, .words " revoked approval for ",
          .answer 0, .words " to spend tokens from contract at ", .contract]⟩
      else
        ⟨[.party (.text (Hex.marked spender)), .amount (.text (Numeral.text amount))
            (.text (Text.lowercase contract)) Phrasing.tokenDecimals],
          [.sender, .words " approved ", .answer 0, .words " to spend ", .answer 1,
            .words " tokens from contract at ", .contract]⟩ := by
  have hpayment : approval ∈ all := by decide
  have hspender : param call "spender" = .text (Hex.marked spender) :=
    (List.cons.inj (h.map_param_parties hpayment)).1
  have hamount : param call "amount" = .text (Numeral.text amount) := h.paramOr_amount hpayment _
  have hquantity : quantity call "amount" = .text (Numeral.text amount) :=
    h.paramOr_amount hpayment _
  have hsentence : Narrator.sentenceOf request =
      Phrasing.approval call (.text (Text.lowercase contract)) := by
    unfold Narrator.sentenceOf Call.sentence
    rw [hcontract, hcall, h.family]
    unfold Phrasing.fungibleToken
    dsimp only
    rw [h.functionName]
    rfl
  rw [hsentence]
  unfold Phrasing.approval
  dsimp only
  rw [hspender, hamount, hquantity, wholeNumber_amount h]
  have hzero : some (amount : Int) = some 0 ↔ amount = 0 := by simp
  simp only [Option.some_inj, hzero]

/-- The narrative of an approval. -/
theorem narrate_approval {narrator : Narrator} (hfrank : narrator.IsFrank) {spender : Bytes}
    (h : approval.Pays call [spender] amount) {request : Request} (hcall : request.call = call)
    {contract : String} (hcontract : Narrator.contractOf request = some contract) :
    ∃ text, narrator.narrate request =
        pure (text ++ Narrator.ending request.succeeded request.hash) ∧
      approval.Says (Address.spelled request.sender) (Address.spelled contract) [spender] amount
        text := by
  have hsentence := sentenceOf_approval h hcall hcontract
  have hspender := answer_party hfrank h request.isLocal List.mem_cons_self
  by_cases hunlimited : (amount : Int) = Amount.unlimited
  · rw [if_pos hunlimited] at hsentence
    have hzero : amount ≠ 0 := by
      rintro rfl
      exact absurd hunlimited (by decide)
    refine ⟨_, Narrator.narrate_frank hfrank hcontract hsentence (.cons hspender .nil),
      Or.inr ⟨rfl, spender, rfl, Or.inr ⟨hzero, "unlimited", Or.inl ⟨hunlimited, rfl⟩, ?_⟩⟩⟩
    simp [Sentence.text, Piece.text, grant, String.join, String.append_assoc]
  · rw [if_neg hunlimited] at hsentence
    by_cases hzero : amount = 0
    · rw [if_pos hzero] at hsentence
      refine ⟨_, Narrator.narrate_frank hfrank hcontract hsentence (.cons hspender .nil),
        Or.inr ⟨rfl, spender, rfl, Or.inl ⟨hzero, ?_⟩⟩⟩
      simp [Sentence.text, Piece.text, revocation, String.join, String.append_assoc]
    · rw [if_neg hzero] at hsentence
      obtain ⟨shown, hshown, htext⟩ := exists_shown h
      have hamount : narrator.answer request.isLocal (.amount (.text (Numeral.text amount))
          (.text (Text.lowercase contract)) Phrasing.tokenDecimals) = pure shown :=
        Narrator.answer_amount_frank hfrank request.isLocal htext
      refine ⟨_, Narrator.narrate_frank hfrank hcontract hsentence
        (.cons hspender (.cons hamount .nil)), Or.inr ⟨rfl, spender, rfl,
          Or.inr ⟨hzero, shown, Or.inr ⟨hunlimited, hshown⟩, ?_⟩⟩⟩
      simp [Sentence.text, Piece.text, grant, String.join, String.append_assoc]

/-- Every payment has a narrative that tells about it. -/
theorem narrate_says {narrator : Narrator} (hfrank : narrator.IsFrank)
    (h : payment.Pays call parties amount) (hpayment : payment ∈ all) {request : Request}
    (hcall : request.call = call) {contract : String}
    (hcontract : Narrator.contractOf request = some contract) :
    ∃ text, narrator.narrate request =
        pure (text ++ Narrator.ending request.succeeded request.hash) ∧
      payment.Says (Address.spelled request.sender) (Address.spelled contract) parties amount
        text := by
  by_cases hname : payment.name = "approve"
  · obtain rfl := eq_approval_of_name payment hpayment hname
    obtain ⟨spender, rfl⟩ := List.length_eq_one_iff.1 h.length
    exact narrate_approval hfrank h hcall hcontract
  · exact narrate_payment hfrank h hpayment hcall hcontract hname

end Payment

end Chronicle
