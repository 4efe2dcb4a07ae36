/-
# Names of inputs in narratives

A sentence asks for the arguments of its call by the names that the inputs of
known functions have, and takes what is not there to be unknown or zero. So what
is told about a function that pays depends on the names that it was registered
with: it is told about like the known function exactly if its inputs have the
known names. One probe shows every change of a name. Its arguments are two
addresses and one unit of a token, which are all told apart, and told from what
stands in for a parameter that is missing.

Key definitions: `Probe.samples`, `Payment.answersOf`, `Registry.TellsAlike`.
Key theorems: `Payment.narrate_sampled`, `Probe.get?_eq_of_narrate`,
`Payment.Registered.inputNames_of_tellsAlike`, `Payment.told_by_names`.
-/
import Chronicle.Proofs.FaithfulPayments
import Chronicle.Proofs.RegisteredPayments

namespace Chronicle

open AbiType (interchangeOf)
open Phrasing (param quantity)

/-- Values that are all different are found in order under the keys that they were put under, and
under no others. -/
theorem OrderedMap.eq_of_map_get?_ofList {κ υ : Type} [DecidableEq κ] {keys others : List κ}
    {values : List υ} (hvalues : values.Nodup) (hkeys : keys.length = values.length)
    (hothers : others.length = values.length)
    (h : others.map (ofList (keys.zip values)).get? = values.map some) : keys = others := by
  refine List.ext_getElem (hkeys.trans hothers.symm) fun index hindex hindex' => ?_
  have hvalue : index < values.length := hkeys ▸ hindex
  have hget : (ofList (keys.zip values)).get? others[index] = some values[index] := by
    have hat := congrArg (·[index]?) h
    simpa [hindex', hvalue] using hat
  have hmem : (others[index], values[index]) ∈ keys.zip values := by
    rcases mem_entries_insertAll (mem_entries_of_get? hget) with hempty | hmem
    · exact absurd hempty List.not_mem_nil
    · exact hmem
  obtain ⟨place, hplace, heq⟩ := List.getElem_of_mem hmem
  rw [List.getElem_zip, Prod.mk.injEq] at heq
  have hsame : place = index := (List.getElem_inj hvalues).1 heq.2
  subst hsame
  exact heq.1

/-! ### Samples of arguments -/

namespace Probe

def first : String := "0x1111111111111111111111111111111111111111"

def second : String := "0x2222222222222222222222222222222222222222"

/-- The values of the inputs of the function: an address for each party, and one unit. -/
def values (payment : Payment) : List Value :=
  ([first, second].take payment.parties.length).map .text ++ [.text "1"]

/-- The calldata of these values. -/
def data (payment : Payment) : Bytes :=
  ([List.replicate 20 0x11, List.replicate 20 0x22].take payment.parties.length).flatMap
    (fun bs => wordOf (bigEndian bs)) ++ wordOf 1

/-- What can stand under a name: nothing, the unit, or one of the addresses. -/
def samples : List (Option Value) :=
  [none, some (.text "1"), some (.text first), some (.text second)]

/-- What a party is called. -/
def partyText : Option Value → String
  | some (.text s) => s
  | _ => "unknown"

/-- How an amount is shown. -/
def amountText : Option Value → String
  | some (.text s) => if s = "1" then "0.000000000000000001" else s
  | _ => "0"

/-- The parameters of the call hold samples only. -/
def Sampled (call : Call) : Prop := ∀ name, call.parameters.get? name ∈ samples

section

variable {found other : Option Value}

theorem partyText_injective : found ∈ samples → other ∈ samples →
    partyText found = partyText other → found = other := by
  have hall : ∀ found ∈ samples, ∀ other ∈ samples,
      partyText found = partyText other → found = other := by decide
  exact fun hfound hother => hall found hfound other hother

theorem amountText_injective : found ∈ samples → other ∈ samples →
    amountText found = amountText other → found = other := by
  have hall : ∀ found ∈ samples, ∀ other ∈ samples,
      amountText found = amountText other → found = other := by decide
  exact fun hfound hother => hall found hfound other hother

theorem solid : ∀ found ∈ samples,
    ' ' ∉ (partyText found).toList ∧ ' ' ∉ (amountText found).toList := by decide

theorem amount_text : ∀ found ∈ samples,
    Amount.text (found.getD (.text "0")) Phrasing.tokenDecimals = .ok (amountText found) := by
  decide +kernel

/-- No sample is an amount that approvals have other words for. -/
theorem wholeNumber_sample : ∀ found ∈ samples, ∃ n,
    Amount.wholeNumber (found.getD (.text "unknown")) = .ok n ∧
      n ≠ some Amount.unlimited ∧ n ≠ some 0 := by
  have hall : ∀ found ∈ samples,
      Amount.wholeNumber (found.getD (.text "unknown")) = .ok none ∨
        Amount.wholeNumber (found.getD (.text "unknown")) = .ok (some 1) := by decide +kernel
  intro found hfound
  rcases hall found hfound with h | h
  · exact ⟨none, h, nofun, nofun⟩
  · exact ⟨some 1, h, by decide, by decide⟩

theorem answer_party {narrator : Narrator} (hfrank : narrator.IsFrank) (isLocal : Bool)
    (hfound : found ∈ samples) :
    narrator.answer isLocal (.party (found.getD (.text "unknown"))) = pure (partyText found) := by
  have hall : ∀ found ∈ samples, found.getD (.text "unknown") = .text (partyText found) ∧
      (Address.isAddress (partyText found) = true →
        Address.spelled (partyText found) = partyText found) := by decide +kernel
  obtain ⟨hvalue, hspelled⟩ := hall found hfound
  rw [hvalue, Narrator.answer_party]
  split
  · next haddress => rw [Narrator.displayAddress_frank hfrank, hspelled haddress]
  · rfl

end

end Probe

namespace Payment

open Probe (Sampled samples partyText amountText)

variable {payment : Payment}

/-- The amount and the parties, in the order in which the function's sentence asks for them. -/
def arranged {α : Type} (payment : Payment) (amount : α) (parties : List α) : List α :=
  if payment.name = "approve" then parties ++ [amount] else amount :: parties

theorem forall₂_arranged {α β : Type} {R : α → β → Prop} {a : α} {b : β} {as : List α}
    {bs : List β} (h : R a b) (hs : List.Forall₂ R as bs) :
    List.Forall₂ R (payment.arranged a as) (payment.arranged b bs) := by
  unfold arranged
  split
  · exact List.rel_append hs (.cons h .nil)
  · exact .cons h hs

theorem arranged_inj {α : Type} {a b : α} {as bs : List α} (hlength : as.length = bs.length)
    (h : payment.arranged a as = payment.arranged b bs) : a = b ∧ as = bs := by
  unfold arranged at h
  split at h
  · obtain ⟨hs, hlast⟩ := List.append_inj h hlength
    exact ⟨List.singleton_inj.1 hlast, hs⟩
  · exact List.cons.inj h

theorem mem_arranged {α : Type} {a b : α} {as : List α} (h : b ∈ payment.arranged a as) :
    b = a ∨ b ∈ as := by
  unfold arranged at h
  split at h
  · rcases List.mem_append.1 h with h | h
    · exact Or.inr h
    · exact Or.inl (List.mem_singleton.1 h)
  · exact List.mem_cons.1 h

theorem length_arranged {α : Type} (payment : Payment) (a : α) (as : List α) :
    (payment.arranged a as).length = as.length + 1 := by
  unfold arranged
  split
  · rw [List.length_append, List.length_singleton]
  · rfl

/-- What the sentence about the function is filled with. -/
def answersOf (payment : Payment) (call : Call) : List String :=
  payment.arranged (amountText (call.parameters.get? payment.amount))
    (payment.parties.map fun name => partyText (call.parameters.get? name))

section

variable {call : Call} (hpayment : payment ∈ all) (hname : call.functionName = payment.name)
  (hfamily : call.family = .fungibleToken) (hsampled : Sampled call)
include hpayment hname hfamily hsampled

/-- The sentence about a call with samples asks for the amount and the parties by their names, and
its words depend on the function alone. -/
theorem sentence_of_sampled (token : Value) : call.sentence token =
    ⟨payment.arranged (.amount (quantity call payment.amount) token Phrasing.tokenDecimals)
        (payment.parties.map fun name => .party (param call name)), payment.pieces⟩ := by
  by_cases happrove : payment.name = "approve"
  · obtain rfl := eq_approval_of_name payment hpayment happrove
    obtain ⟨n, hnumber, hunlimited, hzero⟩ :=
      Probe.wholeNumber_sample _ (hsampled approval.amount)
    have hparam : Amount.wholeNumber (param call "amount") = .ok n := hnumber
    have hsentence : call.sentence token = Phrasing.approval call token := by
      unfold Call.sentence
      rw [hfamily]
      unfold Phrasing.fungibleToken
      dsimp only
      rw [hname]
      rfl
    rw [hsentence]
    unfold Phrasing.approval
    dsimp only
    rw [hparam]
    dsimp only
    rw [if_neg hunlimited, if_neg hzero]
    rfl
  · rw [sentence_eq payment hpayment happrove hname hfamily, arranged, if_neg happrove]

/-- A call with samples is told with the texts of what stands under the known names. -/
theorem narrate_sampled {narrator : Narrator} (hfrank : narrator.IsFrank) {request : Request}
    (hcall : request.call = call) {contract : String}
    (hcontract : Narrator.contractOf request = some contract) :
    narrator.narrate request = pure (Sentence.Fields.fill ⟨Address.spelled request.sender,
      Address.spelled contract, payment.answersOf call⟩ payment.pieces ++
        Narrator.ending request.succeeded request.hash) := by
  have hsentence : Narrator.sentenceOf request =
      ⟨payment.arranged (.amount (quantity call payment.amount) (.text (Text.lowercase contract))
          Phrasing.tokenDecimals) (payment.parties.map fun name => .party (param call name)),
        payment.pieces⟩ := by
    unfold Narrator.sentenceOf
    rw [hcontract, hcall]
    exact sentence_of_sampled hpayment hname hfamily hsampled _
  have hamount : narrator.answer request.isLocal
      (.amount (quantity call payment.amount) (.text (Text.lowercase contract))
        Phrasing.tokenDecimals) = pure (amountText (call.parameters.get? payment.amount)) :=
    Narrator.answer_amount_frank hfrank _ (Probe.amount_text _ (hsampled payment.amount))
  have hparties : List.Forall₂ (fun query s => narrator.answer request.isLocal query = pure s)
      (payment.parties.map fun name => .party (param call name))
      (payment.parties.map fun name => partyText (call.parameters.get? name)) := by
    rw [List.forall₂_map_left_iff, List.forall₂_map_right_iff, List.forall₂_same]
    exact fun name _ => Probe.answer_party hfrank _ (hsampled name)
  exact Narrator.narrate_frank hfrank hcontract hsentence (forall₂_arranged hamount hparties)

omit hpayment hname hfamily in
theorem solid_answersOf : ∀ answer ∈ payment.answersOf call, ' ' ∉ answer.toList := by
  intro answer hanswer
  rcases mem_arranged hanswer with rfl | hparty
  · exact (Probe.solid _ (hsampled payment.amount)).2
  · obtain ⟨name, -, rfl⟩ := List.mem_map.1 hparty
    exact (Probe.solid _ (hsampled name)).1

end

end Payment

namespace Probe

variable {payment : Payment} (hpayment : payment ∈ Payment.all)
include hpayment

theorem nodup_values : (values payment).Nodup := by
  have hall : ∀ payment ∈ Payment.all, (values payment).Nodup := by decide
  exact hall payment hpayment

theorem length_values : payment.names.length = (values payment).length := by
  have hall : ∀ payment ∈ Payment.all, payment.names.length = (values payment).length := by decide
  exact hall payment hpayment

/-- The calldata of a probe is decoded to its values. -/
theorem decode_data : ∃ args,
    decodeArguments (ArgType.abiOf payment.types) (data payment) = .ok args ∧
      interchangeOf (ArgType.abiOf payment.types) args = values payment := by
  have hall : ∀ payment ∈ Payment.all,
      (decodeArguments (ArgType.abiOf payment.types) (data payment)).toOption.map
        (interchangeOf (ArgType.abiOf payment.types)) = some (values payment) := by decide +kernel
  obtain ⟨args, hargs, hforms⟩ := Option.map_eq_some_iff.1 (hall payment hpayment)
  cases hdecode : decodeArguments (ArgType.abiOf payment.types) (data payment) with
  | error flaw =>
    rw [hdecode] at hargs
    cases hargs
  | ok found =>
    rw [hdecode] at hargs
    cases hargs
    exact ⟨args, rfl, hforms⟩

/-- A probe holds samples under whatever names. -/
theorem sampled_callOf (names : List String) (input : Bytes) :
    Sampled (payment.callOf names (values payment) input) := by
  have hall : ∀ payment ∈ Payment.all, ∀ v ∈ values payment, some v ∈ samples := by decide
  intro name
  cases hget : (payment.callOf names (values payment) input).parameters.get? name with
  | none => exact List.mem_cons_self
  | some v =>
    rcases OrderedMap.mem_entries_insertAll (OrderedMap.mem_entries_of_get? hget) with
      hempty | hmem
    · exact absurd hempty List.not_mem_nil
    · exact hall payment hpayment v (List.of_mem_zip hmem).2

omit hpayment in
/-- The request for the narrative of a probe. -/
def request (call : Call) : Request :=
  ⟨call, first, some second, .text "0xabcd", true, true⟩

/-- Probes that are told alike hold the same under the known names. -/
theorem get?_eq_of_narrate {call other : Call} (hname : call.functionName = payment.name)
    (hname' : other.functionName = payment.name) (hfamily : call.family = .fungibleToken)
    (hfamily' : other.family = .fungibleToken) (hsampled : Sampled call)
    (hsampled' : Sampled other)
    (h : (Allowance.narrator.narrate (request call)).run.run .fresh =
      (Allowance.narrator.narrate (request other)).run.run .fresh) :
    ∀ name ∈ payment.names, call.parameters.get? name = other.parameters.get? name := by
  have hfrank : Allowance.narrator.IsFrank := ⟨rfl, rfl, rfl, rfl⟩
  have hcontract (call : Call) : Narrator.contractOf (request call) = some second := rfl
  rw [Payment.narrate_sampled hpayment hname hfamily hsampled hfrank rfl (hcontract call),
    Payment.narrate_sampled hpayment hname' hfamily' hsampled' hfrank rfl (hcontract other)] at h
  have htext := Except.ok.inj (congrArg Prod.fst h)
  have hsolid : ' ' ∉ (Address.spelled first).toList ∧ ' ' ∉ (Address.spelled second).toList := by
    decide +kernel
  have hlength (call : Call) : (payment.answersOf call).length = payment.parties.length + 1 := by
    rw [Payment.answersOf, Payment.length_arranged, List.length_map]
  have hreadable : Sentence.Readable payment.pieces (payment.answersOf call).length := by
    rw [hlength]
    exact Payment.readable_pieces payment hpayment
  -- The words of both sentences are those of the function, so that the answers are read back.
  obtain ⟨-, -, hanswers⟩ := Payment.fields_eq hsolid.1 hsolid.1 hsolid.2 hsolid.2
    (Payment.head?_ending true (.text "0xabcd")) htext hreadable
    ((hlength other).trans (hlength call).symm) (Payment.solid_answersOf hsampled)
    (Payment.solid_answersOf hsampled')
  obtain ⟨hamount, hparties⟩ := Payment.arranged_inj (by simp) hanswers
  intro name hmem
  rcases List.mem_append.1 hmem with hparty | hlast
  · exact partyText_injective (hsampled name) (hsampled' name)
      (List.map_inj_left.1 hparties name hparty)
  · rw [List.mem_singleton.1 hlast]
    exact amountText_injective (hsampled _) (hsampled' _) hamount

end Probe

/-! ### Narratives under any names -/

/-- Every narrator says of the calls that inputs with the selector make what it says of the calls
that they make of known functions. -/
def Registry.TellsAlike (registry : Registry) (selector : Bytes) : Prop :=
  ∀ input destination call standard, input.take 4 = selector →
    registry.decode input (some destination) = .ok call →
      Registry.known.decode input (some destination) = .ok standard →
        ∀ (narrator : Narrator) (request : Request) (session : Session),
          (narrator.narrate { request with call := call }).run.run session =
            (narrator.narrate { request with call := standard }).run.run session

namespace Payment

variable {payment : Payment} {interfaces : List Interface} {registry : Registry} {entry : Entry}

namespace Registered

variable (h : payment.Registered registry entry) (hbuild : Registry.build interfaces = .ok registry)
  (hpayment : payment ∈ all)
include h hbuild hpayment

/-- Under the known names, the calls are those of the known function. -/
theorem tellsAlike_of_inputNames (hnames : entry.inputNames = payment.names) :
    registry.TellsAlike entry.selector := by
  intro input destination call standard hinput hcall hstandard narrator request session
  obtain ⟨args, hargs⟩ := h.exists_args hbuild hinput destination hcall
  have hcall' := h.decode_eq_ok hbuild hinput destination hargs
  have hstandard' := h.decode_known_eq_ok hbuild hinput destination hpayment hargs
  rw [hnames] at hcall'
  cases hcall.symm.trans hcall'
  cases hstandard.symm.trans hstandard'
  rfl

/-- If only the probe is told alike, the names are known: what stands under each of the known names
is read back from the narrative, and no other input has the same value. -/
theorem inputNames_of_tellsAlike (halike : registry.TellsAlike entry.selector) :
    entry.inputNames = payment.names := by
  obtain ⟨args, hargs, hvalues⟩ := Probe.decode_data hpayment
  have hfour := (Registry.wellFormed_of_mem_entries hbuild entry h.mem).selector_length
  have hinput : (entry.selector ++ Probe.data payment).take 4 = entry.selector :=
    List.take_left' hfour
  have hdrop : (entry.selector ++ Probe.data payment).drop 4 = Probe.data payment :=
    List.drop_left' hfour
  rw [← hdrop] at hargs
  have hcall := h.decode_eq_ok hbuild hinput "" hargs
  have hstandard := h.decode_known_eq_ok hbuild hinput "" hpayment hargs
  rw [hvalues] at hcall hstandard
  have htold := halike _ _ _ _ hinput hcall hstandard Allowance.narrator
    (Probe.request (payment.callOf [] [] [])) .fresh
  have hget := Probe.get?_eq_of_narrate hpayment rfl rfl rfl rfl
    (Probe.sampled_callOf hpayment _ _) (Probe.sampled_callOf hpayment _ _) htold
  have hlengths := Probe.length_values hpayment
  have hstandardGet : payment.names.map
      (OrderedMap.ofList (payment.names.zip (Probe.values payment))).get? =
        (Probe.values payment).map some :=
    OrderedMap.map_get?_ofList (nodup_names payment hpayment) hlengths
  refine OrderedMap.eq_of_map_get?_ofList (Probe.nodup_values hpayment) ?_ hlengths
    ((List.map_congr_left hget).trans hstandardGet)
  rw [h.length_inputNames hbuild, ← hlengths, payment.length_names]

end Registered

/-- Under different names, each value stands under its own. -/
theorem callOf_parameters (payment : Payment) {names : List String} {values : List Value}
    (hlength : names.length = values.length) (hnodup : names.Nodup) (input : Bytes) :
    (payment.callOf names values input).parameters.keys = names ∧
      (payment.callOf names values input).parameters.values = values := by
  have hentries : (payment.callOf names values input).parameters.entries = names.zip values :=
    OrderedMap.entries_ofList_zip hnodup hlength
  unfold OrderedMap.keys OrderedMap.values
  rw [hentries]
  exact ⟨List.map_fst_zip (Nat.le_of_eq hlength), List.map_snd_zip (Nat.le_of_eq hlength.symm)⟩

/-- The calls are the same but for the names of their parameters. -/
structure Renamed (names known : List String) (call standard : Call) : Prop where
  functionName : call.functionName = standard.functionName
  family : call.family = standard.family
  selector : call.selector = standard.selector
  input : call.input = standard.input
  keys : call.parameters.keys = names
  standardKeys : standard.parameters.keys = known
  /-- The values are the same in order. -/
  values : call.parameters.values = standard.parameters.values

/-- A function that pays, registered with inputs of any different names, decodes its calldata to the
values that the known function decodes it to, each under its name. It is told about in the same way
exactly if the inputs have the known names. -/
theorem told_by_names (hpayment : payment ∈ all)
    (hbuild : Registry.build interfaces = .ok registry) (h : payment.Registered registry entry)
    (hnames : entry.inputNames.Nodup) :
    (∀ input destination args, input.take 4 = entry.selector →
      decodeArguments (ArgType.abiOf payment.types) (input.drop 4) = .ok args →
        ∃ call standard, registry.decode input (some destination) = .ok call ∧
          Registry.known.decode input (some destination) = .ok standard ∧
          Renamed entry.inputNames payment.names call standard) ∧
    (registry.TellsAlike entry.selector ↔ entry.inputNames = payment.names) := by
  refine ⟨fun input destination args hinput hargs => ⟨_, _,
    h.decode_eq_ok hbuild hinput destination hargs,
    h.decode_known_eq_ok hbuild hinput destination hpayment hargs, ?_⟩,
    h.inputNames_of_tellsAlike hbuild hpayment, h.tellsAlike_of_inputNames hbuild hpayment⟩
  have hadmits := admits_of_decodeArguments payment.supported_types.1 hargs
  have hvalues :
      (interchangeOf (ArgType.abiOf payment.types) args).length = payment.types.length := by
    rw [AbiType.length_interchangeOf hadmits, ArgType.length_abiOf]
  obtain ⟨hkeys, hsame⟩ := callOf_parameters payment
    ((h.length_inputNames hbuild).trans hvalues.symm) hnames input
  obtain ⟨hknownKeys, hknownSame⟩ := callOf_parameters payment
    (payment.length_names.trans hvalues.symm) (nodup_names payment hpayment) input
  exact ⟨rfl, rfl, rfl, rfl, hkeys, hknownKeys, hsame.trans hknownSame.symm⟩

end Payment

/-! ### A token with names of its own -/

namespace Wrapped

/-- The interface of a token whose transfers have other names for their inputs. -/
def interface : Interface :=
  ⟨"Wrapped", .list [Known.declare "transfer" [("address", "dst"), ("uint256", "wad")]],
    .fungibleToken⟩

def entry : Entry where
  selector := [0xa9, 0x05, 0x9c, 0xbb]
  name := "transfer"
  signature := "transfer(address,uint256)"
  inputTypes := ["address", "uint256"]
  inputNames := ["dst", "wad"]
  family := .fungibleToken
  interface := "Wrapped"

def registry : Registry := Registry.empty.addAll [entry]

/-- The function as it is known. -/
def transfer : Payment := ⟨"transfer", ["to"], "amount"⟩

theorem build_registry : Registry.build [interface] = .ok registry := by
  have hlisted : Registry.listed [interface] = .ok [entry] := by decide +kernel
  exact Registry.build_eq_ok_iff.2 ⟨[entry], hlisted, rfl⟩

theorem registered_entry : transfer.Registered registry entry :=
  ⟨List.mem_singleton_self entry, rfl, rfl, by decide⟩

theorem transfer_mem : transfer ∈ Payment.all := by decide

/-- The calldata of a transfer of two and a half tokens. -/
def input : Bytes :=
  entry.selector ++ (wordOf (bigEndian (List.replicate 20 0x22)) ++ wordOf 2500000000000000000)

theorem take_input : input.take 4 = entry.selector := List.take_left' rfl

theorem decode_input : decodeArguments (ArgType.abiOf transfer.types) (input.drop 4) =
    .ok [.text "0x2222222222222222222222222222222222222222", .int 2500000000000000000] := by
  decide +kernel

/-- The call with the arguments of the transfer under the names. -/
def call (names : List String) : Call :=
  transfer.callOf names
    [.text "0x2222222222222222222222222222222222222222", .text "2500000000000000000"] input

/-- The narrative of a call, from a session that has learned nothing. -/
def told (call : Call) : Except Fault String × Session :=
  (Narrator.narrate ⟨⟨none, false, none⟩, none, none⟩
    ⟨call, "0x1111111111111111111111111111111111111111",
      some "0x3333333333333333333333333333333333333333", .text "0xabcd", true, true⟩).run.run .fresh

/-- One calldata, and two narratives: under names that the sentence does not ask for, the receiver
is unknown and the amount is zero. -/
theorem narratives_differ :
    Registry.build [interface] = .ok registry ∧ transfer.Registered registry entry ∧
      entry.inputNames.Nodup ∧
      registry.decode input (some "0x3333333333333333333333333333333333333333") =
        .ok (call ["dst", "wad"]) ∧
      Registry.known.decode input (some "0x3333333333333333333333333333333333333333") =
        .ok (call ["to", "amount"]) ∧
      told (call ["dst", "wad"]) = (.ok
        ("0x1111...1111 transferred 0 tokens to unknown" ++
          " via contract at 0x3333...3333 [tx: 0xabcd]"), .fresh) ∧
      told (call ["to", "amount"]) = (.ok
        ("0x1111...1111 transferred 2.5 tokens to 0x2222...2222" ++
          " via contract at 0x3333...3333 [tx: 0xabcd]"), .fresh) := by
  have hdecode := registered_entry.decode_eq_ok build_registry take_input
    "0x3333333333333333333333333333333333333333" decode_input
  have hknown := registered_entry.decode_known_eq_ok build_registry take_input
    "0x3333333333333333333333333333333333333333" transfer_mem decode_input
  refine ⟨build_registry, registered_entry, by decide, hdecode, hknown, ?_, ?_⟩
  · decide +kernel
  · decide +kernel

end Wrapped

/-- Transfers of the token are decoded as those of known tokens are, and are not told alike. -/
theorem Payment.told_by_names_wrapped :
    (∃ call standard, Wrapped.registry.decode Wrapped.input (some "") = .ok call ∧
      Registry.known.decode Wrapped.input (some "") = .ok standard ∧
      Renamed ["dst", "wad"] ["to", "amount"] call standard) ∧
    ¬ Wrapped.registry.TellsAlike Wrapped.entry.selector := by
  obtain ⟨hdecodes, halike⟩ := Payment.told_by_names Wrapped.transfer_mem Wrapped.build_registry
    Wrapped.registered_entry (by decide)
  refine ⟨hdecodes Wrapped.input "" _ Wrapped.take_input Wrapped.decode_input, fun h => ?_⟩
  exact absurd (halike.1 h) (by decide)

end Chronicle
