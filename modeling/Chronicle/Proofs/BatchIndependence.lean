/-
# Requests of a batch and their order

The requests of a batch share what is learned on the way. A label that was
learned is the label that would be told again, and so are decimals that the
service told. But the stand-in for a reply without decimals is kept as well, and
it is the standard of the request that asked first. So the order of a batch
does not count unless two of its requests ask about one such token with
different standards; and then it does, as amounts of tokens and amounts of
sales show.

Key definitions: `Request.asked`, `Narrator.Clashes`, `Session.Follows`.
Key theorems: `Narrator.narrate_settled`, `Narrator.narrateBatch_of_perm`,
`Sale.narrateBatch_order`.
-/
import Chronicle.Proofs.NarrationRuns

namespace Chronicle

open Narration (Settled)

/-! ### What requests ask about tokens -/

/-- The token in lower case that a query asks about, and the standard it names. -/
def Query.asked? : Query → Option (String × Int)
  | .amount _ (.text address) standard =>
    if Address.isAddress address then some (Text.lowercase address, standard) else none
  | _ => none

/-- The tokens that a request asks about, with the standards it names for them. -/
def Request.asked (request : Request) : List (String × Int) :=
  (Narrator.sentenceOf request).queries.filterMap Query.asked?

/-- The decimals that come of a question about a token, with the standard as a stand-in. -/
def TokenSource.told (source : TokenSource) (token : String) (standard : Int) :
    Except Fault Int :=
  (decimalsOfReply (source.reply [] token)).map fun answer => answer.toOption.getD standard

/-- Whether the reply to a question about a token gives no decimals. -/
def TokenSource.leavesOpen (source : TokenSource) (token : String) : Bool :=
  match decimalsOfReply (source.reply [] token) with
  | .ok (.error _) => true
  | _ => false

namespace Narrator

/-- The resolver and the service answer every question alike, whatever was asked before. -/
structure IsFixed (narrator : Narrator) : Prop where
  label : ∀ resolver ∈ narrator.resolver, ∀ asked address,
    resolver.answer asked address = resolver.answer [] address
  reply : ∀ source ∈ narrator.tokens, ∀ asked token,
    source.reply asked token = source.reply [] token

/-- Two of the requests name different standards for one token that has no decimals in the session
and gets none from the service. -/
def Clashes (narrator : Narrator) (session : Session) (requests : List Request) : Prop :=
  ∃ source ∈ narrator.tokens, source.hasEndpoint = true ∧
    ∃ first ∈ requests.flatMap Request.asked, ∃ second ∈ requests.flatMap Request.asked,
      first.1 = second.1 ∧ first.2 ≠ second.2 ∧ session.decimals.get? first.1 = none ∧
        source.leavesOpen first.1 = true

/-- What comes of a request if it is the only one. -/
def alone (narrator : Narrator) (session : Session) (request : Request) : Except Fault String :=
  ((narrator.narrate request).run.run session).1

end Narrator

theorem TokenSource.told_eq {source : TokenSource} {token : String} {standard other : Int}
    (h : standard = other ∨ source.leavesOpen token = false) :
    source.told token standard = source.told token other := by
  rcases h with rfl | h
  · rfl
  · unfold told leavesOpen at *
    split at h
    · cases h
    · next hanswer =>
      cases hreply : decimalsOfReply (source.reply [] token) with
      | error fault => rfl
      | ok answer =>
        cases answer with
        | ok n => rfl
        | error reason => exact absurd hreply (hanswer reason)

/-! ### Sessions that learn from the same sources -/

namespace OrderedMap

variable {κ υ : Type} [DecidableEq κ] {fits : κ → υ → Prop} {origin m : OrderedMap κ υ} {key : κ}
  {value : υ}

/-- The map holds what `origin` holds, and at other keys only values that fit them. -/
def Follows (fits : κ → υ → Prop) (origin m : OrderedMap κ υ) : Prop :=
  ∀ key, m.get? key = origin.get? key ∨
    origin.get? key = none ∧ ∃ value, m.get? key = some value ∧ fits key value

namespace Follows

theorem refl (m : OrderedMap κ υ) : Follows fits m m := fun _ => Or.inl rfl

/-- A key that is free was free before. -/
theorem get?_of_none (h : Follows fits origin m) (hfree : m.get? key = none) :
    origin.get? key = none := by
  rcases h key with hsame | ⟨hnone, -⟩
  · rw [← hsame, hfree]
  · exact hnone

/-- What fits a key that was free before may come to it. -/
theorem insert (h : Follows fits origin m) (hfree : origin.get? key = none)
    (hfits : fits key value) : Follows fits origin (m.insert key value) := by
  intro other
  by_cases heq : key = other
  · subst heq
    exact Or.inr ⟨hfree, value, get?_insert_self m key value, hfits⟩
  · rw [get?_insert_of_ne m value heq]
    exact h other

/-- A value that is there already changes nothing. -/
theorem insert_known (h : Follows fits origin m) (hknown : m.get? key = some value) :
    Follows fits origin (m.insert key value) := by
  intro other
  have hsame : (m.insert key value).get? other = m.get? other := by
    by_cases heq : key = other
    · subst heq
      rw [get?_insert_self, hknown]
    · exact get?_insert_of_ne m value heq
  rw [hsame]
  exact h other

theorem get?_of_some (h : Follows fits origin m) (hkey : origin.get? key = some value) :
    m.get? key = some value := by
  rcases h key with hsame | ⟨hnone, -⟩
  · rw [hsame, hkey]
  · rw [hnone] at hkey
    cases hkey

theorem trans {later : OrderedMap κ υ} (h : Follows fits origin m) (h' : Follows fits m later) :
    Follows fits origin later := by
  intro key
  rcases h' key with hsame | ⟨hnone, hvalue⟩
  · rw [hsame]
    exact h key
  · rcases h key with hsame | ⟨-, other, hother, -⟩
    · exact Or.inr ⟨hsame.symm.trans hnone, hvalue⟩
    · rw [hother] at hnone
      cases hnone

theorem fits_of_none (h : Follows fits origin m) (hkey : origin.get? key = none)
    (hvalue : m.get? key = some value) : fits key value := by
  rcases h key with hsame | ⟨-, other, hother, hfits⟩
  · rw [hsame, hkey] at hvalue
    cases hvalue
  · rw [hother] at hvalue
    exact Option.some.inj hvalue ▸ hfits

end Follows

end OrderedMap

/-- The session has learned since `origin` only labels that the resolver tells, and decimals that
come of the questions in `asked`. -/
structure Session.Follows (narrator : Narrator) (asked : List (String × Int))
    (origin session : Session) : Prop where
  labels : OrderedMap.Follows
    (fun key label => ∃ resolver ∈ narrator.resolver, resolver.answer [] key = .ok label)
    origin.labels session.labels
  decimals : OrderedMap.Follows
    (fun key n => ∃ source ∈ narrator.tokens, source.hasEndpoint = true ∧
      ∃ standard, (key, standard) ∈ asked ∧ source.told key standard = .ok n)
    origin.decimals session.decimals

/-- Which of the questions about a token is put does not count for its decimals. -/
def Narrator.Agrees (narrator : Narrator) (asked : List (String × Int)) (origin : Session) : Prop :=
  ∀ source ∈ narrator.tokens, source.hasEndpoint = true → ∀ key standard other,
    (key, standard) ∈ asked → (key, other) ∈ asked → origin.decimals.get? key = none →
      source.told key standard = source.told key other

theorem Narrator.agrees_of_not_clashes {narrator : Narrator} {session : Session}
    {requests : List Request} (h : ¬ narrator.Clashes session requests) :
    narrator.Agrees (requests.flatMap Request.asked) session := by
  intro source hsource hendpoint key standard other hstandard hother hnone
  refine TokenSource.told_eq ?_
  by_contra hdiffer
  rw [not_or, Bool.not_eq_false] at hdiffer
  exact h ⟨source, hsource, hendpoint, _, hstandard, _, hother, rfl, hdiffer.1, hnone, hdiffer.2⟩

section

variable {narrator : Narrator} {asked : List (String × Int)} {origin : Session}

/-! ### Labels -/

namespace Resolver

variable {resolver : Resolver} {address : String} {label : Option String} {session : Session}

variable (hfixed : narrator.IsFixed) (hresolver : resolver ∈ narrator.resolver)
include hfixed hresolver

theorem ask_settled (address : String) :
    Settled (Session.Follows narrator asked origin) (resolver.ask address) := by
  refine ⟨resolver.answer [] address, fun session hP => ?_⟩
  rw [ask_run, hfixed.label resolver hresolver]
  exact ⟨_, rfl, hP.labels, hP.decimals⟩

/-- A label that the resolver tells is learned for an address that is free. -/
theorem learn_follows (hP : Session.Follows narrator asked origin session)
    (hfree : session.labels.get? address = none) :
    ∃ after, (resolver.learn address).run.run session = (resolver.answer [] address, after) ∧
      Session.Follows narrator asked origin after := by
  have hsame := hfixed.label resolver hresolver session.labelQuestions address
  cases hanswer : resolver.answer [] address with
  | error fault =>
    rw [hanswer] at hsame
    exact ⟨_, learn_run_of_error hsame, hP.labels, hP.decimals⟩
  | ok label =>
    rw [hanswer] at hsame
    have hfits := hP.labels.insert (hP.labels.get?_of_none hfree) ⟨resolver, hresolver, hanswer⟩
    exact ⟨_, learn_run_of_ok hsame, hfits, hP.decimals⟩

theorem labelOfKey_settled (address : String) :
    Settled (Session.Follows narrator asked origin) (resolver.labelOfKey address) := by
  cases horigin : origin.labels.get? address with
  | some label =>
    refine ⟨.ok label, fun session hP => ⟨session, ?_, hP⟩⟩
    exact labelOfKey_run_of_some (hP.labels.get?_of_some horigin)
  | none =>
    refine ⟨resolver.answer [] address, fun session hP => ?_⟩
    cases hkept : session.labels.get? address with
    | some label =>
      obtain ⟨other, hother, hlabel⟩ := hP.labels.fits_of_none horigin hkept
      obtain rfl := Option.mem_unique hresolver hother
      exact ⟨session, (labelOfKey_run_of_some hkept).trans (by rw [hlabel]), hP⟩
    | none =>
      rw [labelOfKey_run_of_none hkept]
      exact learn_follows hfixed hresolver hP hkept

theorem resolve_settled (address : String) :
    Settled (Session.Follows narrator asked origin) (resolver.resolve address) :=
  Settled.ite (labelOfKey_settled hfixed hresolver _) (ask_settled hfixed hresolver address)

omit hresolver in
/-- Whether or not there is a resolver, an address has one label from all sessions that follow. -/
theorem labelOf_settled (address : String) :
    Settled (Session.Follows narrator asked origin) (labelOf narrator.resolver address) := by
  cases hresolver : narrator.resolver with
  | none => exact Settled.pure none
  | some resolver => exact (resolve_settled hfixed hresolver address).tryCatch none

end Resolver

/-! ### Decimals -/

namespace TokenSource

variable {source : TokenSource} {token : String} {session : Session}

variable (hfixed : narrator.IsFixed) (hsource : source ∈ narrator.tokens)
include hfixed hsource

/-- What comes of a question is kept for a token that has no decimals. -/
theorem learn_follows (hendpoint : source.hasEndpoint = true) {standard : Int}
    (hasked : (token, standard) ∈ asked) (hP : Session.Follows narrator asked origin session)
    (hfree : session.decimals.get? token = none) :
    ∃ after, (source.learn token standard).run.run session = (source.told token standard, after) ∧
      Session.Follows narrator asked origin after := by
  have hsame := hfixed.reply source hsource session.decimalQuestions token
  have hkept {n : Int} (htold : source.told token standard = .ok n) :=
    hP.decimals.insert (hP.decimals.get?_of_none hfree)
      ⟨source, hsource, hendpoint, standard, hasked, htold⟩
  unfold told at *
  rw [← hsame] at *
  cases hreply : decimalsOfReply (source.reply session.decimalQuestions token) with
  | error fault => exact ⟨_, learn_run_of_error standard hreply, hP.labels, hP.decimals⟩
  | ok answer =>
    have hrun := learn_run_of_ok standard hreply
    rw [hreply] at hkept
    exact ⟨_, hrun, hP.labels, hkept rfl⟩

/-- The decimals of a token that is asked about are the same from all sessions that follow. -/
theorem decimalsOfKey_settled (hagree : narrator.Agrees asked origin) {standard : Int}
    (hasked : (token, standard) ∈ asked) :
    Settled (Session.Follows narrator asked origin) (source.decimalsOfKey token standard) := by
  cases horigin : origin.decimals.get? token with
  | some n =>
    refine ⟨.ok n, fun session hP => ⟨session, ?_, hP⟩⟩
    exact decimalsOfKey_run_of_some standard (hP.decimals.get?_of_some horigin)
  | none =>
    by_cases hendpoint : source.hasEndpoint = true
    · refine ⟨source.told token standard, fun session hP => ?_⟩
      cases hkept : session.decimals.get? token with
      | some n =>
        -- The decimals came of an earlier question, which may have named another standard.
        obtain ⟨other, hother, -, standard', hasked', htold⟩ :=
          hP.decimals.fits_of_none horigin hkept
        obtain rfl := Option.mem_unique hsource hother
        rw [hagree source hsource hendpoint token standard standard' hasked hasked' horigin, htold]
        exact ⟨session, decimalsOfKey_run_of_some standard hkept, hP⟩
      | none =>
        rw [decimalsOfKey_run_of_none standard hkept, if_pos hendpoint]
        exact learn_follows hfixed hsource hendpoint hasked hP hkept
    · -- Without a service nothing is kept, so that no session has decimals that `origin` has not.
      refine ⟨.ok standard, fun session hP => ⟨session, ?_, hP⟩⟩
      cases hkept : session.decimals.get? token with
      | some n =>
        obtain ⟨other, hother, hendpoint', -⟩ := hP.decimals.fits_of_none horigin hkept
        obtain rfl := Option.mem_unique hsource hother
        exact absurd hendpoint' hendpoint
      | none =>
        rw [decimalsOfKey_run_of_none standard hkept, if_neg hendpoint]
        rfl

end TokenSource

/-! ### Requests and batches -/

namespace Narrator

/-- A request whose questions are among those asked has one outcome from all sessions that
follow. -/
theorem narrate_settled (hfixed : narrator.IsFixed) (hagree : narrator.Agrees asked origin)
    {request : Request} (hasked : request.asked ⊆ asked) :
    Settled (Session.Follows narrator asked origin) (narrator.narrate request) := by
  refine narrate_composes Settled.composes rfl rfl
    (fun address _ => Resolver.labelOf_settled hfixed _)
    fun source hsource v address standard hquery haddress => ?_
  have hquestion : (Text.lowercase address, standard) ∈ request.asked :=
    List.mem_filterMap.2 ⟨_, hquery, if_pos haddress⟩
  exact TokenSource.decimalsOfKey_settled hfixed hsource hagree (hasked hquestion)

/-- Requests that each have one outcome have it one after the other. -/
theorem outcomes_run {P : Session → Prop} (horigin : P origin) : ∀ {requests : List Request},
    (∀ request ∈ requests, Settled P (narrator.narrate request)) → ∀ {session : Session},
      P session →
        ((narrator.outcomes requests).run session).1 = requests.map (narrator.alone origin)
  | [], _, _, _ => rfl
  | request :: requests, h, session, hP => by
    obtain ⟨hfirst, hrest⟩ := List.forall_mem_cons.1 h
    obtain ⟨heq, hmid⟩ := hfirst.run_eq hP horigin
    have ih := outcomes_run horigin hrest hmid
    rw [List.map_cons, ← ih]
    exact congrArg (· :: _) heq

/-- In whatever order the requests of a batch are put, the outcome of each is what it is alone,
unless two of them clash about a token. -/
theorem narrateBatch_of_perm (hfixed : narrator.IsFixed) {session : Session}
    {requests permuted : List Request} (hclash : ¬ narrator.Clashes session requests)
    (hperm : permuted.Perm requests) :
    ((narrator.outcomes permuted).run session).1 = permuted.map (narrator.alone session) ∧
      ((narrator.narrateBatch permuted).run.run session).1 =
        collect (permuted.map (narrator.alone session)) := by
  have horigin : Session.Follows narrator (requests.flatMap Request.asked) session session :=
    ⟨.refl _, .refl _⟩
  -- The questions of a permuted batch are among those of the batch, which do not clash.
  have hsettled : ∀ request ∈ permuted, Settled
      (Session.Follows narrator (requests.flatMap Request.asked) session)
      (narrator.narrate request) := fun request hrequest =>
    narrate_settled hfixed (agrees_of_not_clashes hclash)
      fun _ hasked => List.mem_flatMap.2 ⟨request, hperm.subset hrequest, hasked⟩
  have houtcomes := outcomes_run horigin hsettled horigin
  refine ⟨houtcomes, ?_⟩
  rw [← houtcomes]
  rfl

end Narrator

end

/-! ### Amounts of a token and of its sale -/

namespace Sale

/-- The token that is sold. -/
def token : String := "0x3333333333333333333333333333333333333333"

/-- Another token. -/
def coin : String := "0x5555555555555555555555555555555555555555"

/-- A service that replies like this, whatever it was asked before. -/
def source (reply : String → Reply) : TokenSource :=
  ⟨some "http://rpc", 18, fun _ token => reply token⟩

/-- A narrator that asks the service. -/
def narrator (reply : String → Reply) : Narrator := ⟨⟨none, false, none⟩, none, some (source reply)⟩

theorem isFixed_narrator (reply : String → Reply) : (narrator reply).IsFixed where
  label := nofun
  reply := by
    rintro _ ⟨⟩ asked token
    rfl

/-- No token gets decimals. -/
def silent : String → Reply := fun _ => .failed "down"

/-- The token that is sold has six decimals, and no other gets any. -/
def knowing (asked : String) : Reply :=
  if asked = token then .answered (.object [("result", .text (Hex.marked (wordOf 6)))])
  else .failed "down"

/-- A request about a call with an address and an amount. -/
def request (name : String) (family : Family) (party address destination : String) : Request where
  call := ⟨name, family, "0x00000000",
    .ofList [(party, .text address), ("amount", .text "2500000")], []⟩
  sender := "0x1111111111111111111111111111111111111111"
  destination := some destination
  hash := .text "0xabcd"
  isLocal := false
  succeeded := true

/-- A transfer of a token. -/
def transferring (token : String) : Request :=
  request "transfer" .fungibleToken "to" "0x2222222222222222222222222222222222222222" token

/-- An investment in the token that is sold. -/
def investing : Request :=
  request "invest" .primarySale "token" token "0x4444444444444444444444444444444444444444"

/-- After the transfer, the investment is told with the decimals of fungible tokens. -/
theorem narrateBatch_transferring_investing :
    (((narrator silent).narrateBatch [transferring token, investing]).run.run .fresh).1 = .ok
      ["0x1111...1111 transferred 0.0000000000025 tokens to 0x2222...2222 via contract at " ++
        "0x3333...3333 [tx: 0xabcd]",
       "0x1111...1111 invested 0.0000000000025 tokens (0x3333...3333) in primary sale at " ++
        "0x4444...4444 [tx: 0xabcd]"] := by
  decide +kernel

/-- After the investment, the transfer is told with the decimals of sales. -/
theorem narrateBatch_investing_transferring :
    (((narrator silent).narrateBatch [investing, transferring token]).run.run .fresh).1 = .ok
      ["0x1111...1111 invested 2.5 tokens (0x3333...3333) in primary sale at 0x4444...4444 " ++
        "[tx: 0xabcd]",
       "0x1111...1111 transferred 2.5 tokens to 0x2222...2222 via contract at 0x3333...3333 " ++
        "[tx: 0xabcd]"] := by
  decide +kernel

/-- The order of a batch counts although every source answers alike: the reverse of this batch is
not told as the reverse of its narratives. -/
theorem narrateBatch_order :
    (narrator silent).IsFixed ∧
      (((narrator silent).narrateBatch [transferring token, investing].reverse).run.run .fresh).1 ≠
        (((narrator silent).narrateBatch [transferring token, investing]).run.run .fresh).1.map
          List.reverse := by
  refine ⟨isFixed_narrator silent, ?_⟩
  show (((narrator silent).narrateBatch [investing, transferring token]).run.run .fresh).1 ≠ _
  rw [narrateBatch_investing_transferring, narrateBatch_transferring_investing]
  decide

/-- A transfer and an investment in one token, whose decimals are known, and a transfer of a token
without decimals. -/
def requests : List Request := [transferring token, investing, transferring coin]

theorem not_clashes_knowing : ¬ (narrator knowing).Clashes .fresh requests := by
  have hasked : requests.flatMap Request.asked = [(token, 18), (token, 6), (coin, 18)] := by
    decide +kernel
  have hknown : (source knowing).leavesOpen token = false := by decide +kernel
  rintro ⟨_, ⟨⟩, -, first, hfirst, second, hsecond, hkey, hdiffer, -, hopen⟩
  have hsold : first.1 = token := by
    rw [hasked] at hfirst hsecond
    simp only [List.mem_cons, List.not_mem_nil, or_false] at hfirst hsecond
    rcases hfirst with rfl | rfl | rfl
    · rfl
    · rfl
    · rcases hsecond with rfl | rfl | rfl
      · exact hkey
      · exact hkey
      · exact absurd rfl hdiffer
  rw [hsold, hknown] at hopen
  cases hopen

end Sale

/-- Requests that do not clash are told alike in another order. -/
theorem Narrator.narrateBatch_of_perm_sale :
    ¬ (Sale.narrator Sale.knowing).Clashes .fresh Sale.requests ∧
      Sale.requests.reverse.Perm Sale.requests ∧
      (((Sale.narrator Sale.knowing).narrateBatch Sale.requests.reverse).run.run .fresh).1 =
        collect (Sale.requests.reverse.map ((Sale.narrator Sale.knowing).alone .fresh)) ∧
      (Sale.narrator Sale.knowing).alone .fresh Sale.investing = .ok
        ("0x1111...1111 invested 2.5 tokens (0x3333...3333) in primary sale at 0x4444...4444 " ++
          "[tx: 0xabcd]") := by
  have hperm := List.reverse_perm Sale.requests
  obtain ⟨-, hbatch⟩ :=
    narrateBatch_of_perm (Sale.isFixed_narrator Sale.knowing) Sale.not_clashes_knowing hperm
  exact ⟨Sale.not_clashes_knowing, hperm, hbatch, by decide +kernel⟩

end Chronicle
