/-
# Payments in tokens are told faithfully

The narrative of a payment says who pays, at which contract, to whom and how
much, and each of these can be read back from it: addresses and amounts hold no
spaces, amounts are written out, and no amount is written as a word. So two
payments by one function with the same narrative have the same parties and the
same amount, to the last unit.

Key definitions: `Transaction.Calls`, `Transaction.request`.
Key theorems: `Payment.Allows.injective`, `Payment.revocation_ne_grant`,
`Payment.Says.injective`, `Narrator.narrate_faithful`.
-/
import Chronicle.Proofs.Payments
import Chronicle.Proofs.Precedence
import Chronicle.Proofs.Spellings

namespace Chronicle

namespace Payment

variable {payment : Payment} {amount : Nat}

/-! ### Texts of payments are read back -/

theorem solid_spelled {address : String} (h : Address.isAddress address = true) :
    ' ' ∉ (Address.spelled address).toList := by
  have hnormal := Address.normal?_eq_some_spelled h
  obtain ⟨ds, -, hdigits, -, hlist, -⟩ := Address.lowercase_of_normal? hnormal
  rw [hlist]
  intro hspace
  simp only [List.mem_cons, Char.reduceEq, false_or] at hspace
  exact absurd (hdigits ' ' hspace) (by decide)

theorem solid_marked (bs : Bytes) : ' ' ∉ (Hex.marked bs).toList := by
  have hdigits : ∀ c ∈ Hex.digits bs, c ≠ ' ' := Hex.forall_mem_digits (by decide)
  rw [Hex.toList_marked]
  intro hspace
  simp only [List.mem_cons, Char.reduceEq, false_or] at hspace
  exact hdigits ' ' hspace rfl

theorem solid_scaled {shown : String}
    (hshown : Amount.scaled amount Phrasing.tokenDecimals = .ok shown) : ' ' ∉ shown.toList := by
  intro hspace
  rcases Amount.mem_scaled hshown hspace with h | h
  · cases h
  · cases h

theorem solid_of_allows {shown : String} (h : Allows amount shown) : ' ' ∉ shown.toList := by
  rcases h with ⟨-, rfl⟩ | ⟨-, hshown⟩
  · decide
  · exact solid_scaled hshown

/-- No number of tokens is shown as unlimited. -/
theorem scaled_ne_unlimited :
    Amount.scaled amount Phrasing.tokenDecimals ≠ .ok "unlimited" := by
  intro hshown
  have hletter : 'u' ∈ "unlimited".toList := by decide
  rcases Amount.mem_scaled hshown hletter with h | h
  · cases h
  · cases h

theorem Allows.injective {other : Nat} {shown : String} (h : Allows amount shown)
    (hother : Allows other shown) : amount = other := by
  rcases h with ⟨hamount, rfl⟩ | ⟨-, hshown⟩ <;> rcases hother with ⟨hother, hsame⟩ | ⟨-, hshown'⟩
  · omega
  · exact absurd hshown' scaled_ne_unlimited
  · subst hsame
    exact absurd hshown scaled_ne_unlimited
  · exact Amount.scaled_injective hshown hshown'

/-- The end of every narrative begins with a space. -/
theorem head?_ending (succeeded : Bool) (hash : TransactionHash) :
    (Narrator.ending succeeded hash).toList.head? = some ' ' := by
  unfold Narrator.ending
  cases succeeded <;> simp [Narrator.failedNote]

theorem grant_eq_fill (sender contract spender shown : String) :
    grant sender contract spender shown =
      Sentence.Fields.fill ⟨sender, contract, [spender, shown]⟩ approval.pieces := by
  have hpieces : approval.pieces = [.sender, .words " approved ", .answer 0, .words " to spend ",
    .answer 1, .words " tokens from contract at ", .contract] := rfl
  rw [hpieces]
  simp [Sentence.Fields.fill, Sentence.Fields.say, Piece.text, grant, String.join,
    String.append_assoc]

/-- The pieces of a revocation. -/
def revocationPieces : List Piece :=
  [.sender, .words " revoked approval for ", .answer 0,
    .words " to spend tokens from contract at ", .contract]

theorem revocation_eq_fill (sender contract spender : String) :
    revocation sender contract spender =
      Sentence.Fields.fill ⟨sender, contract, [spender]⟩ revocationPieces := by
  simp [Sentence.Fields.fill, Sentence.Fields.say, Piece.text, revocation, revocationPieces,
    String.join, String.append_assoc]

section

variable {sender sender' contract contract' ending : String} (hsender : ' ' ∉ sender.toList)
  (hsender' : ' ' ∉ sender'.toList)
include hsender hsender'

/-- Behind the sender, a revocation and a grant begin with different words. -/
theorem revocation_ne_grant (spender spender' shown : String) :
    revocation sender contract spender ++ ending ≠
      grant sender' contract' spender' shown ++ ending := by
  intro heq
  have hlists := congrArg String.toList heq
  simp only [revocation, grant, String.toList_append, List.append_assoc] at hlists
  have hrevoked : " revoked approval for ".toList = ' ' :: "revoked approval for ".toList := by
    decide
  have happroved : " approved ".toList = ' ' :: "approved ".toList := by decide
  rw [hrevoked, happroved, List.cons_append, List.cons_append] at hlists
  obtain ⟨-, hrest⟩ := eq_of_append_space hsender hsender' (stopsAt_cons (by decide) _)
    (stopsAt_cons (by decide) _) hlists
  have hwords := (List.cons.inj hrest).2
  have hfirst := congrArg List.head? hwords
  simp at hfirst

variable (hcontract : ' ' ∉ contract.toList) (hcontract' : ' ' ∉ contract'.toList)
  (hending : ending.toList.head? = some ' ')
include hcontract hcontract' hending

/-- What fills a sentence is read back from its text. -/
theorem fields_eq {pieces : List Piece} {answers answers' : List String}
    (h : Sentence.Fields.fill ⟨sender, contract, answers⟩ pieces ++ ending =
      Sentence.Fields.fill ⟨sender', contract', answers'⟩ pieces ++ ending)
    (hreadable : Sentence.Readable pieces answers.length)
    (hlength : answers'.length = answers.length)
    (hanswers : ∀ answer ∈ answers, ' ' ∉ answer.toList)
    (hanswers' : ∀ answer ∈ answers', ' ' ∉ answer.toList) :
    sender = sender' ∧ contract = contract' ∧ answers = answers' := by
  have hsolid : Sentence.Fields.Solid ⟨sender, contract, answers⟩ :=
    ⟨hsender, hcontract, hanswers⟩
  have hsolid' : Sentence.Fields.Solid ⟨sender', contract', answers'⟩ :=
    ⟨hsender', hcontract', hanswers'⟩
  cases Sentence.Fields.eq_of_fill_eq hsolid hsolid' hreadable hlength hending h
  exact ⟨rfl, rfl, rfl⟩

theorem revocation_injective {spender spender' : String} (hspender : ' ' ∉ spender.toList)
    (hspender' : ' ' ∉ spender'.toList)
    (h : revocation sender contract spender ++ ending =
      revocation sender' contract' spender' ++ ending) :
    sender = sender' ∧ contract = contract' ∧ spender = spender' := by
  rw [revocation_eq_fill, revocation_eq_fill] at h
  obtain ⟨hsame, hplace, hanswers⟩ := fields_eq hsender hsender' hcontract hcontract' hending h
    (show Sentence.Readable revocationPieces 1 by decide) rfl
    (List.forall_mem_singleton.2 hspender) (List.forall_mem_singleton.2 hspender')
  exact ⟨hsame, hplace, (List.cons.inj hanswers).1⟩

theorem grant_injective {spender spender' shown shown' : String} (hspender : ' ' ∉ spender.toList)
    (hspender' : ' ' ∉ spender'.toList) (hshown : ' ' ∉ shown.toList)
    (hshown' : ' ' ∉ shown'.toList)
    (h : grant sender contract spender shown ++ ending =
      grant sender' contract' spender' shown' ++ ending) :
    sender = sender' ∧ contract = contract' ∧ spender = spender' ∧ shown = shown' := by
  rw [grant_eq_fill, grant_eq_fill] at h
  obtain ⟨hsame, hplace, hanswers⟩ := fields_eq hsender hsender' hcontract hcontract' hending h
    (readable_pieces approval (by decide)) rfl
    (List.forall_mem_cons.2 ⟨hspender, List.forall_mem_singleton.2 hshown⟩)
    (List.forall_mem_cons.2 ⟨hspender', List.forall_mem_singleton.2 hshown'⟩)
  obtain ⟨hparty, htail⟩ := List.cons.inj hanswers
  exact ⟨hsame, hplace, hparty, (List.cons.inj htail).1⟩

/-- The sentence of a function that pays is read back with the amount and all parties. -/
theorem fill_injective (hpayment : payment ∈ all) {parties parties' : List Bytes}
    {shown shown' : String} (hlength : parties.length = payment.parties.length)
    (hlength' : parties'.length = payment.parties.length) (hshown : ' ' ∉ shown.toList)
    (hshown' : ' ' ∉ shown'.toList)
    (h : Sentence.Fields.fill ⟨sender, contract, shown :: parties.map Hex.marked⟩ payment.pieces ++
        ending =
      Sentence.Fields.fill ⟨sender', contract', shown' :: parties'.map Hex.marked⟩
        payment.pieces ++ ending) :
    sender = sender' ∧ contract = contract' ∧ parties = parties' ∧ shown = shown' := by
  have hmarked (bss : List Bytes) : ∀ answer ∈ bss.map Hex.marked, ' ' ∉ answer.toList := by
    intro answer hanswer
    obtain ⟨bs, -, rfl⟩ := List.mem_map.1 hanswer
    exact solid_marked bs
  have hreadable : Sentence.Readable payment.pieces (shown :: parties.map Hex.marked).length := by
    rw [List.length_cons, List.length_map, hlength]
    exact readable_pieces payment hpayment
  have hcount : (shown' :: parties'.map Hex.marked).length =
      (shown :: parties.map Hex.marked).length := by
    simp [hlength, hlength']
  obtain ⟨hsame, hplace, hanswers⟩ := fields_eq hsender hsender' hcontract hcontract' hending h
    hreadable hcount (List.forall_mem_cons.2 ⟨hshown, hmarked parties⟩)
    (List.forall_mem_cons.2 ⟨hshown', hmarked parties'⟩)
  obtain ⟨hamount, hparties⟩ := List.cons.inj hanswers
  have hinjective : Function.Injective Hex.marked := fun _ _ => Hex.marked_injective
  exact ⟨hsame, hplace, List.map_injective_iff.2 hinjective hparties, hamount⟩

/-- The same text tells about the same payment. -/
theorem Says.injective (hpayment : payment ∈ all) {parties parties' : List Bytes}
    {amount amount' : Nat} {text text' : String}
    (h : payment.Says sender contract parties amount text)
    (h' : payment.Says sender' contract' parties' amount' text')
    (hlength : parties.length = payment.parties.length)
    (hlength' : parties'.length = payment.parties.length)
    (heq : text ++ ending = text' ++ ending) :
    sender = sender' ∧ contract = contract' ∧ parties = parties' ∧ amount = amount' := by
  rcases h with ⟨hne, shown, hshown, rfl⟩ | ⟨hname, spender, rfl, hcase⟩
  · rcases h' with ⟨-, shown', hshown', rfl⟩ | ⟨hname, -⟩
    · obtain ⟨hsame, hplace, hparties, rfl⟩ := fill_injective hsender hsender' hcontract hcontract'
        hending hpayment hlength hlength' (solid_scaled hshown) (solid_scaled hshown') heq
      exact ⟨hsame, hplace, hparties,
        Amount.scaled_injective hshown hshown'⟩
    · exact absurd hname hne
  · rcases h' with ⟨hne, -⟩ | ⟨-, spender', rfl, hcase'⟩
    · exact absurd hname hne
    · rcases hcase with ⟨rfl, rfl⟩ | ⟨-, shown, hallows, rfl⟩
      · rcases hcase' with ⟨rfl, rfl⟩ | ⟨-, shown', -, rfl⟩
        · obtain ⟨hsame, hplace, hspender⟩ := revocation_injective hsender hsender' hcontract
            hcontract' hending (solid_marked spender) (solid_marked spender') heq
          rw [Hex.marked_injective hspender]
          exact ⟨hsame, hplace, rfl, rfl⟩
        · exact absurd heq (revocation_ne_grant hsender hsender' _ _ _)
      · rcases hcase' with ⟨rfl, rfl⟩ | ⟨-, shown', hallows', rfl⟩
        · exact absurd heq.symm (revocation_ne_grant hsender' hsender _ _ _)
        · obtain ⟨hsame, hplace, hspender, rfl⟩ := grant_injective hsender hsender' hcontract
            hcontract' hending (solid_marked spender) (solid_marked spender')
            (solid_of_allows hallows) (solid_of_allows hallows') heq
          rw [Hex.marked_injective hspender]
          exact ⟨hsame, hplace, rfl, hallows.injective hallows'⟩

end

section

variable {sender contract ending text : String} {call : Call} {parties : List Bytes}
  (h : approval.Says sender contract parties amount text)
  (hpays : approval.Pays call parties amount) (hsender : ' ' ∉ sender.toList)
include h hpays hsender

/-- Only the greatest amount is granted without limit. -/
theorem Says.unlimited_iff (hcontract : ' ' ∉ contract.toList)
    (hending : ending.toList.head? = some ' ') :
    (∃ spender, Address.isAddress spender = true ∧
      text ++ ending = grant sender contract (Address.spelled spender) "unlimited" ++ ending) ↔
        (amount : Int) = Amount.unlimited := by
  rcases h with ⟨hne, -⟩ | ⟨-, party, rfl, hcase⟩
  · exact absurd rfl hne
  obtain ⟨hparty, hspelled⟩ := isAddress_marked hpays List.mem_cons_self
  constructor
  · rintro ⟨spender, hspender, heq⟩
    rcases hcase with ⟨-, rfl⟩ | ⟨-, shown, hallows, rfl⟩
    · exact absurd heq (revocation_ne_grant hsender hsender _ _ _)
    · obtain ⟨-, -, -, rfl⟩ := grant_injective hsender hsender hcontract hcontract hending
        (solid_marked party) (solid_spelled hspender) (solid_of_allows hallows)
        (by decide) heq
      rcases hallows with ⟨hamount, -⟩ | ⟨-, hshown⟩
      · exact hamount
      · exact absurd hshown scaled_ne_unlimited
  · intro hamount
    rcases hcase with ⟨rfl, -⟩ | ⟨-, shown, hallows, rfl⟩
    · exact absurd hamount (by decide)
    · rcases hallows with ⟨-, rfl⟩ | ⟨hne, -⟩
      · exact ⟨Hex.marked party, hparty, by rw [hspelled]⟩
      · exact absurd hamount hne

/-- Only an amount of zero is a revocation. -/
theorem Says.revocation_iff :
    (∃ spender, Address.isAddress spender = true ∧
      text ++ ending = revocation sender contract (Address.spelled spender) ++ ending) ↔
        amount = 0 := by
  rcases h with ⟨hne, -⟩ | ⟨-, party, rfl, hcase⟩
  · exact absurd rfl hne
  obtain ⟨hparty, hspelled⟩ := isAddress_marked hpays List.mem_cons_self
  constructor
  · rintro ⟨spender, -, heq⟩
    rcases hcase with ⟨hzero, -⟩ | ⟨-, shown, -, rfl⟩
    · exact hzero
    · exact absurd heq.symm (revocation_ne_grant hsender hsender _ _ _)
  · intro hzero
    rcases hcase with ⟨-, rfl⟩ | ⟨hne, -⟩
    · exact ⟨Hex.marked party, hparty, by rw [hspelled]⟩
    · exact absurd hzero hne

end

end Payment

/-! ### Transactions that pay -/

namespace Transaction

/-- The transaction calls the function, and its sender and destination are addresses. -/
structure Calls (transaction : Transaction) (entry : Entry) : Prop where
  selector : transaction.input.take 4 = entry.selector
  sender : Address.isAddress transaction.sender = true
  destination : ∃ contract, transaction.destination = some contract ∧
    Address.isAddress contract = true

/-- The request for the narrative of the transaction's call. -/
def request (transaction : Transaction) (call : Call) (hash : TransactionHash)
    (isLocal succeeded : Bool) : Request :=
  ⟨call, transaction.sender, transaction.destination, hash, isLocal, succeeded⟩

/-- The narrative of an approval without limit, or of an approval that is taken back. -/
def approvalText (transaction : Transaction) (text : String → String → String → String)
    (spender : String) (hash : TransactionHash) (succeeded : Bool) : String :=
  text (Address.spelled transaction.sender)
    (Address.spelled (transaction.destination.getD "")) (Address.spelled spender) ++
      Narrator.ending succeeded hash

end Transaction

namespace Narrator

/-- A transaction that pays has a narrative, which tells about the payment. -/
theorem narrate_calls {narrator : Narrator} (hfrank : narrator.IsFrank) {payment : Payment}
    (hpayment : payment ∈ Payment.all) {entry : Entry}
    (hentry : entry ∈ Registry.known.entries) (hfamily : entry.family = .fungibleToken)
    (hname : entry.name = payment.name) {transaction : Transaction}
    (hcalls : transaction.Calls entry) {call : Call}
    (hcall : Registry.known.decodeTransaction transaction = .ok call) (hash : TransactionHash)
    (isLocal succeeded : Bool) :
    ∃ contract parties amount text, transaction.destination = some contract ∧
      Address.isAddress contract = true ∧ payment.Pays call parties amount ∧
      narrator.narrate (transaction.request call hash isLocal succeeded) =
        pure (text ++ ending succeeded hash) ∧
      payment.Says (Address.spelled transaction.sender) (Address.spelled contract) parties amount
        text := by
  obtain ⟨contract, hdestination, hcontract⟩ := hcalls.destination
  obtain ⟨parties, amount, hpays⟩ := Payment.pays_of_decodeTransaction hpayment hentry hfamily hname
    hdestination hcalls.selector hcall
  have hcontractOf : contractOf (transaction.request call hash isLocal succeeded) =
      some contract := by
    have hne : contract ≠ "" := by
      rintro rfl
      exact absurd hcontract (by decide)
    unfold contractOf Transaction.request
    dsimp only
    rw [hdestination]
    simp [hne]
  obtain ⟨text, hnarrate, htells⟩ := Payment.narrate_says hfrank hpays hpayment
    (show (transaction.request call hash isLocal succeeded).call = call from rfl) hcontractOf
  exact ⟨contract, parties, amount, text, hdestination, hcontract, hpays, hnarrate, htells⟩

/-- Two transactions that call one function that pays have the same narrative only if they are from
the same sender, to the same contract, and pay the same. Only the greatest amount is approved
without limit, and only an amount of zero takes an approval back. -/
theorem narrate_faithful {narrator : Narrator} (hfrank : narrator.IsFrank) {entry : Entry}
    (hentry : entry ∈ Registry.known.entries) (hfamily : entry.family = .fungibleToken)
    (hname : entry.name ∈ Payment.all.map (·.name)) {first second : Transaction}
    (hfirst : first.Calls entry) (hsecond : second.Calls entry) {call other : Call}
    (hcall : Registry.known.decodeTransaction first = .ok call)
    (hother : Registry.known.decodeTransaction second = .ok other) (hash : TransactionHash)
    (succeeded isLocal isLocal' : Bool) (session session' : Session) :
    ∃ text text',
      (narrator.narrate (first.request call hash isLocal succeeded)).run.run session =
        (.ok text, session) ∧
      (narrator.narrate (second.request other hash isLocal' succeeded)).run.run session' =
        (.ok text', session') ∧
      (text = text' → Address.normal? first.sender = Address.normal? second.sender ∧
        first.destination.bind Address.normal? = second.destination.bind Address.normal? ∧
        call.parameters = other.parameters) ∧
      (entry.name = "approve" →
        ((∃ spender, Address.isAddress spender = true ∧ text =
            first.approvalText (Payment.grant · · · "unlimited") spender hash succeeded) ↔
          call.parameters.get? "amount" = some (.text (Numeral.text Amount.unlimited))) ∧
        ((∃ spender, Address.isAddress spender = true ∧
            text = first.approvalText Payment.revocation spender hash succeeded) ↔
          call.parameters.get? "amount" = some (.text "0"))) := by
  obtain ⟨payment, hpayment, hpaymentName⟩ := List.mem_map.1 hname
  obtain ⟨contract, parties, amount, text, hdestination, hcontract, hpays, hnarrate, htells⟩ :=
    narrate_calls hfrank hpayment hentry hfamily hpaymentName.symm hfirst hcall hash isLocal
      succeeded
  obtain ⟨contract', parties', amount', text', hdestination', hcontract', hpays', hnarrate',
      htells'⟩ :=
    narrate_calls hfrank hpayment hentry hfamily hpaymentName.symm hsecond hother hash isLocal'
      succeeded
  have hending := Payment.head?_ending succeeded hash
  refine ⟨text ++ ending succeeded hash, text' ++ ending succeeded hash, by rw [hnarrate]; rfl,
    by rw [hnarrate']; rfl, fun heq => ?_, fun happrove => ?_⟩
  · obtain ⟨hsender, hplace, rfl, rfl⟩ := Payment.Says.injective
      (Payment.solid_spelled hfirst.sender) (Payment.solid_spelled hsecond.sender)
      (Payment.solid_spelled hcontract) (Payment.solid_spelled hcontract') hending hpayment htells
      htells' hpays.length hpays'.length heq
    refine ⟨?_, ?_, hpays.parameters.trans hpays'.parameters.symm⟩
    · rw [Address.normal?_eq_some_spelled hfirst.sender,
        Address.normal?_eq_some_spelled hsecond.sender, hsender]
    · rw [hdestination, hdestination', Option.bind_some, Option.bind_some,
        Address.normal?_eq_some_spelled hcontract, Address.normal?_eq_some_spelled hcontract',
        hplace]
  · obtain rfl := Payment.eq_approval_of_name payment hpayment (hpaymentName.trans happrove)
    have hamount : call.parameters.get? "amount" = some (.text (Numeral.text amount)) :=
      hpays.get?_amount hpayment
    have htext {n : Int} (hn : 0 ≤ n) : (amount : Int) = n ↔
        call.parameters.get? "amount" = some (.text (Numeral.text n)) := by
      rw [hamount, Option.some_inj, Value.text.injEq]
      exact ⟨fun heq => by rw [heq],
        Numeral.text_injective_of_nonneg (Int.natCast_nonneg amount) hn⟩
    have hplace : first.destination.getD "" = contract := by
      rw [hdestination, Option.getD_some]
    have hsolid := Payment.solid_spelled hfirst.sender
    unfold Transaction.approvalText
    rw [hplace, ← htext (by decide)]
    refine ⟨htells.unlimited_iff hpays hsolid (Payment.solid_spelled hcontract) hending, ?_⟩
    have hzero : (amount : Int) = 0 ↔ call.parameters.get? "amount" = some (.text "0") :=
      htext (Int.le_refl 0)
    rw [← hzero, Int.natCast_eq_zero]
    exact htells.revocation_iff hpays hsolid

end Narrator

/-! ### An approval of the greatest amount, and of almost as much -/

namespace Allowance

/-- The function as it is registered. -/
def entry : Entry where
  selector := [0x09, 0x5e, 0xa7, 0xb3]
  name := "approve"
  signature := "approve(address,uint256)"
  inputTypes := ["address", "uint256"]
  inputNames := ["spender", "amount"]
  family := .fungibleToken
  interface := "ERC20"

def narrator : Narrator := ⟨⟨none, true, none⟩, none, none⟩

def spender : Bytes := List.replicate 20 0x22

def hash : TransactionHash := .text "0xabcd"

/-- An approval of the amount, by a sender in any spelling. -/
def approving (sender : String) (amount : Nat) : Transaction where
  hash := "0xabcd"
  sender := sender
  destination := some "0x3333333333333333333333333333333333333333"
  input := entry.selector ++ (wordOf (bigEndian spender) ++ wordOf amount)
  value := 0

def greatest : Transaction :=
  approving "0x1111111111111111111111111111111111111111" (capacity 256 - 1)

def lesser : Transaction :=
  approving "1111111111111111111111111111111111111111" (capacity 256 - 2)

/-- The call of such an approval. -/
def call (transaction : Transaction) (amount : String) : Call where
  functionName := "approve"
  family := .fungibleToken
  selector := "0x095ea7b3"
  parameters := .ofList [("spender", .text (Hex.marked spender)), ("amount", .text amount)]
  input := transaction.input

theorem lookup?_known : Registry.known.lookup? entry.selector = some entry := by
  have hfirst : Registry.first? ((Registry.listed Known.interfaces).toOption.getD [])
      entry.selector = some entry := by decide +kernel
  obtain ⟨entries, hlisted, hknown⟩ := Registry.build_eq_ok_iff.1 Registry.build_known
  rw [hlisted] at hfirst
  rw [← hknown, (Registry.Tells.addAll entries Registry.Tells.empty).lookup]
  exact hfirst

theorem mem_known : entry ∈ Registry.known.entries :=
  ((Registry.lookup?_eq_some_iff Registry.build_known).1 lookup?_known).1

/-- A transaction that calls the function is decoded to its parameters. -/
theorem decodeTransaction_eq_ok {transaction : Transaction} {amount : String}
    (hcalls : transaction.Calls entry) (hlength : 4 ≤ transaction.input.length)
    (hparameters : entry.decode (transaction.input.drop 4) =
      .ok (call transaction amount).parameters) :
    Registry.known.decodeTransaction transaction = .ok (call transaction amount) := by
  obtain ⟨destination, hdestination, -⟩ := hcalls.destination
  have hlookup : Registry.known.lookup? (transaction.input.take 4) = some entry := by
    rw [hcalls.selector]
    exact lookup?_known
  unfold Registry.decodeTransaction
  rw [hdestination, Registry.decode_registered hlength hlookup, hparameters, hcalls.selector]
  rfl

end Allowance

/-- The greatest amount is told from the one before it, and is approved without limit. -/
theorem Narrator.narrate_faithful_greatest : ∃ text text',
    (Allowance.narrator.narrate (Allowance.greatest.request
        (Allowance.call Allowance.greatest (Numeral.text Amount.unlimited)) Allowance.hash
        true true)).run.run Session.fresh = (.ok text, Session.fresh) ∧
      (Allowance.narrator.narrate (Allowance.lesser.request
        (Allowance.call Allowance.lesser (Numeral.text (Amount.unlimited - 1))) Allowance.hash
        true true)).run.run Session.fresh = (.ok text', Session.fresh) ∧
      text ≠ text' ∧
      ∃ spender, Address.isAddress spender = true ∧ text = Allowance.greatest.approvalText
        (Payment.grant · · · "unlimited") spender Allowance.hash true := by
  have hgreatest : Allowance.greatest.Calls Allowance.entry :=
    ⟨by decide +kernel, by decide +kernel, _, rfl, by decide +kernel⟩
  have hlesser : Allowance.lesser.Calls Allowance.entry :=
    ⟨by decide +kernel, by decide +kernel, _, rfl, by decide +kernel⟩
  have hcall : Registry.known.decodeTransaction Allowance.greatest =
      .ok (Allowance.call Allowance.greatest (Numeral.text Amount.unlimited)) :=
    Allowance.decodeTransaction_eq_ok hgreatest (by decide +kernel) (by decide +kernel)
  have hother : Registry.known.decodeTransaction Allowance.lesser =
      .ok (Allowance.call Allowance.lesser (Numeral.text (Amount.unlimited - 1))) :=
    Allowance.decodeTransaction_eq_ok hlesser (by decide +kernel) (by decide +kernel)
  have hfrank : Allowance.narrator.IsFrank := ⟨rfl, rfl, rfl, rfl⟩
  obtain ⟨text, text', htext, htext', hfaithful, happroval⟩ :=
    Narrator.narrate_faithful hfrank Allowance.mem_known rfl (by decide) hgreatest hlesser hcall
      hother Allowance.hash true true true Session.fresh Session.fresh
  refine ⟨text, text', htext, htext', fun heq => ?_, (happroval rfl).1.2 rfl⟩
  have hparameters := (hfaithful heq).2.2
  exact absurd hparameters (by decide +kernel)

end Chronicle
