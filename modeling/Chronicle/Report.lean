/- # Reports on transactions

A list of transactions is decoded and narrated in order. Transactions that did
not succeed are passed over unless they are asked for. A transaction whose
input cannot be decoded has a generic narrative and is listed as an error.

Key definitions: `Status`, `Detail`, `Report`, `Narrator.report`,
`Report.toValue`.
-/
import Chronicle.Narration.Narrator
import Chronicle.Transaction

namespace Chronicle

/-- What became of a transaction. -/
inductive Status
  | success
  | failed
  | pending
  deriving DecidableEq, Repr

namespace Status

/-- The name of a status. -/
def name : Status → String
  | success => "success"
  | failed => "failed"
  | pending => "pending"

/-- Whether the transaction went through. -/
def succeeded : Status → Bool
  | success => true
  | _ => false

/-- The status that a receipt tells; without one the transaction is pending. -/
def ofReceipt : Option Receipt → Status
  | none => pending
  | some receipt => if receipt.succeeded then success else failed

end Status

/-- A transaction with its status and receipt. -/
structure Executed where
  transaction : Transaction
  status : Status
  receipt : Option Receipt
  deriving DecidableEq

/-- A transaction that is reported on, with the outcome of decoding it. -/
structure Draft where
  transaction : Transaction
  status : Status
  outcome : Except DecodingError Call

/-- What is reported on one transaction. -/
structure Detail where
  hash : String
  sender : String
  destination : Option String
  status : Status
  outcome : Except DecodingError Call
  narrative : String

/-- A report on a list of transactions. -/
structure Report where
  /-- The narratives in order, and a note if there were errors. -/
  narrative : String
  details : List Detail
  /-- The transactions that could not be decoded, by their hashes, with their errors. -/
  errors : List (String × DecodingError)
  includeFailed : Bool

/-- The narrative of a transaction whose input cannot be decoded. -/
def undecodedNarrative (transaction : Transaction) : String :=
  let sender := Text.abbreviated (Text.lowercase transaction.sender)
  let hash := (TransactionHash.text transaction.hash).shown
  match transaction.destination with
  | none => sender ++ " deployed contract [tx: " ++ hash ++ "]"
  | some address =>
    sender ++ " called contract at " ++ Text.abbreviated (Text.lowercase address) ++
      " [tx: " ++ hash ++ "]"

namespace Executed

/-- The transaction that has a receipt, or is still waiting for it. -/
def ofReceipt (transaction : Transaction) (receipt : Option Receipt) : Executed :=
  ⟨transaction, .ofReceipt receipt, receipt⟩

/-- The transactions with their receipts, one for each; without receipts all of them count as
successful. -/
def ofReceipts (transactions : List Transaction) :
    Option (List (Option Receipt)) → Except Fault (List Executed)
  | none => .ok (transactions.map fun transaction => ⟨transaction, .success, none⟩)
  | some receipts =>
    if receipts.length = transactions.length then
      .ok (List.zipWith ofReceipt transactions receipts)
    else .error (.receiptCount receipts.length transactions.length)

/-- Whether a report covers the transaction. -/
def isReported (includeFailed : Bool) (executed : Executed) : Bool :=
  executed.status.succeeded || includeFailed

end Executed

namespace Draft

/-- The warning about a transaction that cannot be decoded. -/
def failureMessage (transaction : Transaction) (error : DecodingError) : String :=
  "Could not decode transaction " ++ transaction.hash ++ ": " ++ error.message

/-- Decodes a transaction, with the deployed address that its receipt tells. -/
def ofExecuted (registry : Registry) (executed : Executed) : Narration Draft := do
  let transaction := executed.transaction
  match registry.decodeTransaction transaction with
  | .ok call =>
    let call := call.withDeployedAddress (executed.receipt.bind (·.deployedAddress))
    pure ⟨transaction, executed.status, .ok call⟩
  | .error (.decoding error) => do
    Narration.report (warning (failureMessage transaction error))
    pure ⟨transaction, executed.status, .error error⟩
  | .error fault => throw fault

/-- Decodes transactions in order. -/
def ofAll (registry : Registry) : List Executed → Narration (List Draft)
  | [] => pure []
  | executed :: rest => do
    let draft ← ofExecuted registry executed
    let drafts ← ofAll registry rest
    pure (draft :: drafts)

/-- The request for the narrative of a transaction that was decoded. -/
def request? (draft : Draft) : Option Request :=
  match draft.outcome with
  | .ok call => some
      ⟨call, draft.transaction.sender, draft.transaction.destination,
        .text draft.transaction.hash, true, draft.status.succeeded⟩
  | .error _ => none

/-- The entry in the list of errors, for a transaction that was not decoded. -/
def error? (draft : Draft) : Option (String × DecodingError) :=
  match draft.outcome with
  | .ok _ => none
  | .error error => some (draft.transaction.hash, error)

/-- What is reported, with the narrative of the transaction. -/
def detail (draft : Draft) (narrative : String) : Detail :=
  ⟨draft.transaction.hash, Text.lowercase draft.transaction.sender,
    (draft.transaction.destination.filter (· ≠ "")).map Text.lowercase, draft.status,
    draft.outcome, narrative⟩

/-- Gives the narratives of the decoded transactions to their drafts, in order. -/
def details : List Draft → List String → List Detail
  | [], _ => []
  | draft :: drafts, narratives =>
    match draft.outcome, narratives with
    | .error _, _ =>
      draft.detail (undecodedNarrative draft.transaction) :: details drafts narratives
    | .ok _, narrative :: narratives => draft.detail narrative :: details drafts narratives
    | .ok _, [] => draft.detail "" :: details drafts []

end Draft

namespace Detail

/-- The detail as an object. -/
def toValue (detail : Detail) : Value :=
  .object
    ([("hash", .text detail.hash),
      ("from", .text detail.sender),
      ("to", (detail.destination.map .text).getD .null),
      ("success", .bool detail.status.succeeded),
      ("status", .text detail.status.name)] ++
      match detail.outcome with
      | .ok call =>
        [("decoded", .bool true),
         ("function", .text call.functionName),
         ("contract_type", .text call.family.name),
         ("parameters", .object call.parameters.entries)]
      | .error error => [("decoded", .bool false), ("error", .text error.message)])

end Detail

namespace Report

/-- The note on the number of errors. -/
def note (count : Nat) : String :=
  if count = 0 then ""
  else "\n\nNote: " ++ count.repr ++ " transaction(s) failed to process."

/-- The report that has these details and errors. -/
def ofDetails (details : List Detail) (errors : List (String × DecodingError))
    (includeFailed : Bool) : Report where
  narrative := sequentialNarrative (details.map (·.narrative)) ++ note errors.length
  details := details
  errors := errors
  includeFailed := includeFailed

/-- The report on transactions, with a receipt for each if there are receipts at all, where
`narrateAll` gives the narratives of all that could be decoded. -/
def ofTransactions (narrateAll : List Request → Narration (List String)) (registry : Registry)
    (transactions : List Transaction) (receipts : Option (List (Option Receipt)))
    (includeFailed : Bool) : Narration Report := do
  let executed ← Narration.ofExcept (Executed.ofReceipts transactions receipts)
  let drafts ← Draft.ofAll registry (executed.filter (·.isReported includeFailed))
  let narratives ← narrateAll (drafts.filterMap Draft.request?)
  pure (.ofDetails (Draft.details drafts narratives) (drafts.filterMap Draft.error?) includeFailed)

/-- One error as an object. -/
def errorValue (entry : String × DecodingError) : Value :=
  .object
    [("hash", .text entry.1), ("type", .text entry.2.kind), ("message", .text entry.2.message)]

/-- The report as an object. -/
def toValue (report : Report) : Value :=
  .object
    ([("narrative", .text report.narrative),
      ("transactions_analyzed", .int (report.details.length - report.errors.length : Int)),
      ("transactions_failed", .int report.errors.length),
      ("transactions", .list (report.details.map Detail.toValue)),
      ("include_failed", .bool report.includeFailed)] ++
      (if report.errors.isEmpty then []
        else [("errors", .list (report.errors.map errorValue))]))

end Report

namespace Narrator

/-- A narrator without sources. -/
def plain : Narrator := ⟨⟨none, false, none⟩, none, none⟩

/-- The report on transactions, with a receipt for each if there are receipts at all. The requests
for narratives are put as one batch, to sources that answer at once. Only warnings and errors go to
the log, and that a transaction is passed over is neither. -/
def report (narrator : Narrator) : Registry → List Transaction →
    Option (List (Option Receipt)) → Bool → Narration Report :=
  Report.ofTransactions narrator.narrateBatch

end Narrator

end Chronicle
