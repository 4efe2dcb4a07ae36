/- # What can go wrong

Every cause for which an operation of the library gives no answer. A decoding
error concerns one transaction and is reported in its place; all other faults
end the operation. What an operation reports beside its answer goes to the log,
which keeps warnings and errors and no records of lesser weight.

A chain of steps that may fail succeeds exactly if each of its steps does.

Key definitions: `DecodingError`, `DecodingError.message`, `Fault`,
`Fault.message?`, `LogRecord`, `LogRecord.line`.
Key theorems: `bind_eq_ok`, `bind_of_ok`, `exists_ok_of_toOption`.
-/
import Chronicle.Hex

namespace Chronicle

/-- Why the input of a transaction has no decoding. -/
inductive DecodingError
  /-- The input is not empty, but shorter than a selector. -/
  | malformed (input : Bytes)
  /-- The arguments do not match the signature that the selector belongs to. -/
  | mismatch (signature interface : String) (selector : Bytes) (inputLength : Nat)
  deriving DecidableEq, Repr

namespace DecodingError

/-- The kind of the error, as reports name it. -/
def kind : DecodingError → String
  | .malformed _ => "MalformedInput"
  | .mismatch .. => "AbiMismatch"

/-- The error in words. -/
def message : DecodingError → String
  | .malformed input => "Input data too short for function selector: " ++ Hex.marked input
  | .mismatch signature interface _ _ =>
    "Calldata does not match " ++ signature ++ " (" ++ interface ++ ")"

/-- The selector in question: all of the input if it is too short to hold one. -/
def selector : DecodingError → String
  | .malformed input => Hex.marked input
  | .mismatch _ _ selector _ => Hex.marked selector

/-- The signature that was tried. -/
def signature? : DecodingError → Option String
  | .malformed _ => none
  | .mismatch signature _ _ _ => some signature

/-- The length of the whole input. -/
def inputLength : DecodingError → Nat
  | .malformed input => input.length
  | .mismatch _ _ _ inputLength => inputLength

end DecodingError

/-- Why an operation has no answer. -/
inductive Fault
  | decoding (error : DecodingError)
  /-- A text holds a character that is no hexadecimal digit. -/
  | notHex (text : String)
  /-- A hexadecimal text has a digit without a partner. -/
  | oddHexLength
  /-- A selector or a raw input is not spaced hexadecimal text. -/
  | notSpacedHex
  | invalidWallet (text : String)
  | unknownFamily
  /-- Contract creation and the unknown family are not for interfaces. -/
  | reservedFamily (interface family : String)
  | receiptCount (receipts transactions : Nat)
  /-- A number has too many digits to be written. -/
  | tooManyDigits
  /-- An infinite amount has no whole part. -/
  | infiniteAmount
  | missingField (name : String)
  /-- The type of an interface parameter is no text; how it reads and what it is. -/
  | typeNotText (shown kind : String)
  /-- A value is of a kind that the operation cannot use. -/
  | wrongKind
  /-- A list does not have as many items as are called for. -/
  | wrongLength
  /-- A value does not offer the operation asked of it. -/
  | noSuchOperation
  | unparsableType
  /-- Tuple types have at least one component. -/
  | emptyTupleType
  /-- A type name goes with a size that it cannot have. -/
  | misplacedSize
  | invalidTypeSize
  | unknownType
  /-- A string argument is not UTF-8. -/
  | notUnicode
  /-- The service that labels addresses did not answer. -/
  | labelServiceDown
  /-- A value has no interchange form. -/
  | notInterchangeable
  deriving DecidableEq, Repr

/-- A fault in words, for the faults that are put into words. -/
def Fault.message? : Fault → Option String
  | .decoding error => some error.message
  | .notHex text => some ("Invalid hex string: " ++ text)
  | .oddHexLength => some "Odd-length string"
  | .invalidWallet text => some ("Invalid active wallet address: " ++ text)
  | .reservedFamily interface family =>
    some ("Interface " ++ interface ++ " cannot be registered under the " ++ family ++ " family")
  | .receiptCount receipts transactions =>
    some ("Received " ++ receipts.repr ++ " receipts for " ++ transactions.repr ++ " transactions")
  | .typeNotText shown kind =>
    some ("The 'type' must be a string, but got " ++ shown ++ " of type " ++ kind)
  | _ => none

/-! ### The log -/

/-- How serious a record is. -/
inductive Severity
  | warning
  | error
  deriving DecidableEq, Repr

/-- One line of the log. -/
structure LogRecord where
  severity : Severity
  message : String
  deriving DecidableEq, Repr

/-- A record as it is written. -/
def LogRecord.line (record : LogRecord) : String :=
  (match record.severity with
    | .warning => "WARNING: "
    | .error => "ERROR: ") ++ record.message

/-- The records of an operation in order. -/
abbrev Log := List LogRecord

/-- A record of a warning. -/
def warning (message : String) : LogRecord := ⟨.warning, message⟩

/-! ### Outcomes taken apart -/

theorem bind_eq_ok {ε α β : Type} {x : Except ε α} {f : α → Except ε β} {b : β} :
    x >>= f = .ok b ↔ ∃ a, x = .ok a ∧ f a = .ok b := by
  cases x with
  | error e => simp [bind, Except.bind]
  | ok a => simp [bind, Except.bind]

/-- A step that succeeds hands its value on. -/
theorem bind_of_ok {ε α β : Type} {x : Except ε α} {a : α} (h : x = .ok a) (f : α → Except ε β) :
    x >>= f = f a := by
  rw [h]
  rfl

theorem bind_eq_error {ε α β : Type} {x : Except ε α} {f : α → Except ε β} {e : ε} :
    x >>= f = .error e ↔ x = .error e ∨ ∃ a, x = .ok a ∧ f a = .error e := by
  cases x with
  | error e => simp [bind, Except.bind]
  | ok a => simp [bind, Except.bind]

/-- What is known of the value, if there is one, is known of an outcome that succeeds. -/
theorem exists_ok_of_toOption {ε α β : Type} {x : Except ε α} {f : α → β} {b : β}
    (h : x.toOption.map f = some b) : ∃ a, x = .ok a ∧ f a = b := by
  cases x with
  | error e => cases h
  | ok a => exact ⟨a, rfl, Option.some.inj h⟩

end Chronicle
