/- # The commands

Three commands: `decode` prints the call that calldata makes, `narrate` tells
it in words, and `list-selectors` lists the functions that are known. Wrong
usage ends with code 2 and calldata that cannot be decoded with code 1. Where a
name is not known, the names most similar to it are suggested.

Key definitions: `Outcome`, `run`.
-/
import Chronicle.CommandLine.Options
import Chronicle.CommandLine.Terminal
import Chronicle.Narration.Tokens
import Chronicle.Registry.Known
import Chronicle.Registry.Table
import Chronicle.Report

namespace Chronicle.CommandLine

/-- What a command leaves behind. -/
structure Outcome where
  exitCode : Nat
  output : String
  log : Log
  deriving DecidableEq, Repr

/-- An outcome with its output as it is printed. -/
def Outcome.printed (outcome : Outcome) : Outcome :=
  { outcome with output := Terminal.plain outcome.output }

/-- The outcome of a command that succeeded. -/
def succeeded (output : String) (log : Log) : Outcome := ⟨0, output, log⟩

/-- The outcome of wrong usage. -/
def misused (error : UsageError) : Outcome :=
  ⟨2, if error = .noArguments then "" else "Error: " ++ error.message ++ "\n", []⟩

/-- The variables of the environment. -/
abbrev Environment := List (String × String)

/-- The variables that the commands look at. -/
def environmentNames : List String := ["NARRATOR_ACTIVE_WALLET", "JSON_RPC"]

/-! ### The options -/

/-- The option that asks for help. -/
def helpOption : OptionSpec := ⟨"help", ["--help"], false⟩

/-- The options of `decode`. -/
def decodeOptions : List OptionSpec :=
  [⟨"to", ["--to"], true⟩, ⟨"value", ["--value"], true⟩,
   ⟨"verbose", ["--verbose", "-v"], false⟩, helpOption]

/-- The options of `narrate`. -/
def narrateOptions : List OptionSpec :=
  [⟨"from", ["--from"], true⟩, ⟨"to", ["--to"], true⟩, ⟨"hash", ["--hash"], true⟩,
   ⟨"value", ["--value"], true⟩, ⟨"wallet", ["--wallet", "-w"], true⟩,
   ⟨"json-rpc", ["--json-rpc", "-rpc"], true⟩, ⟨"full-addresses", ["--full-addresses"], false⟩,
   ⟨"verbose", ["--verbose", "-v"], false⟩, helpOption]

/-- The options of `list-selectors`. -/
def listOptions : List OptionSpec :=
  [⟨"full-signatures", ["--full-signatures"], false⟩, helpOption]

/-- The help on a command. -/
def help (command : String) (specs : List OptionSpec) : Outcome :=
  succeeded
    ("Usage: " ++ command ++ " [OPTIONS]\n\nOptions:\n" ++
      String.join (specs.map fun spec => "  " ++ ", ".intercalate spec.names ++ "\n")) []

/-! ### Reading values -/

/-- The native value of the transaction, zero if none is given. -/
def valueOf (invocation : Invocation) : Except UsageError Int :=
  match invocation.value? "value" with
  | none => .ok 0
  | some word =>
    match Numeral.read? word with
    | some n => .ok n
    | none => .error (.notAnInteger "--value" word)

/-- The calldata, which is the first argument. -/
def calldataOf (invocation : Invocation) : Except UsageError String :=
  match invocation.arguments with
  | [] => .error (.argumentMissing "CALLDATA")
  | word :: _ => .ok word

/-- Passes if there are no arguments after the first `count`. -/
def noSurplus (invocation : Invocation) (count : Nat) : Except UsageError Unit :=
  match invocation.arguments.drop count with
  | [] => .ok ()
  | words => .error (.surplusArguments words)

/-- The bytes of calldata. -/
def inputOf (calldata : String) : Except UsageError Bytes :=
  match Hex.parse calldata with
  | .ok bs => .ok bs
  | .error .foreignCharacter =>
    .error (.refused "CALLDATA" ((Fault.notHex calldata).message?.getD ""))
  | .error .oddLength => .error (.refused "CALLDATA" (Fault.oddHexLength.message?.getD ""))

/-- The value of an option, or of a variable of the environment if the option is not given; an
empty one counts as none. -/
def optionOr (invocation : Invocation) (key : String) (environment : Environment)
    (name : String) : Option String :=
  match invocation.value? key with
  | some word => if word = "" then none else some word
  | none => Config.setting? environment name

/-- The address of twenty zero bytes. -/
def zeroAddress : String := Hex.marked (List.replicate 20 0)

/-- The hash of thirty-two zero bytes. -/
def zeroHash : String := Hex.marked (List.replicate 32 0)

/-! ### The commands -/

/-- Decodes calldata and prints the call. -/
def decode (invocation : Invocation) : Except UsageError Outcome := do
  let value ← valueOf invocation
  let calldata ← calldataOf invocation
  noSurplus invocation 1
  let input ← inputOf calldata
  let transaction : Transaction := ⟨"0x", zeroAddress, invocation.value? "to", input, value⟩
  match Registry.known.decodeTransaction transaction with
  | .ok call =>
    match call.toJson (.indented 2) with
    | .ok text => .ok (succeeded (text ++ "\n") [])
    | .error _ => .ok ⟨1, "", []⟩
  | .error (.decoding error) =>
    .ok ⟨1, "", [⟨.error, error.kind ++ ": " ++ error.message⟩]⟩
  | .error _ => .ok ⟨1, "", []⟩

/-- The source of token decimals at an endpoint, which nothing is sent to. -/
def tokenSource (endpoint : Option String) : TokenSource where
  endpoint := endpoint
  standardDecimals := 18
  reply := fun _ _ => Endpoint.unreachable (endpoint.getD "")

/-- The sender of the transaction. -/
def senderOf (invocation : Invocation) : Except UsageError String :=
  match invocation.value? "from" with
  | some word => .ok word
  | none => .error (.optionMissing "--from")

/-- The configuration that the options and the environment ask for. -/
def configOf (environment : Environment) (invocation : Invocation) : Except UsageError Config :=
  match Config.make (optionOr invocation "wallet" environment "NARRATOR_ACTIVE_WALLET")
      (invocation.has "full-addresses") (optionOr invocation "json-rpc" environment "JSON_RPC") with
  | .ok config => .ok config
  | .error fault => .error (.refused "--wallet" (fault.message?.getD ""))

/-- Decodes calldata and tells it in words. -/
def narrate (environment : Environment) (invocation : Invocation) : Except UsageError Outcome := do
  let value ← valueOf invocation
  let calldata ← calldataOf invocation
  let sender ← senderOf invocation
  noSurplus invocation 1
  let config ← configOf environment invocation
  let input ← inputOf calldata
  let transaction : Transaction :=
    ⟨(invocation.value? "hash").getD zeroHash, sender, invocation.value? "to", input, value⟩
  let narrator : Narrator :=
    ⟨config, some (.ofMap (Labels.wellKnown []) true), some (tokenSource config.endpoint)⟩
  match (narrator.report .known [transaction] none false).run Session.fresh with
  | (.ok report, session) => .ok (succeeded (report.narrative ++ "\n") session.log)
  | (.error _, session) => .ok ⟨1, "", session.log⟩

/-- Lists the functions that are known, row by row, and how many there are. -/
def listSelectors (invocation : Invocation) : Except UsageError Outcome := do
  noSurplus invocation 0
  let rows := Registry.known.rows (invocation.has "full-signatures") 80
  let text := rows.map fun row => "\n".intercalate row.cells
  .ok (succeeded
    ("\n\n".intercalate text ++ "\n\n" ++ Registry.known.summary ++ "\n") [])

/-- Reads the words of a command and runs it, or prints the help on it. -/
def runCommand (name : String) (specs : List OptionSpec) (words : List String)
    (command : Invocation → Except UsageError Outcome) : Except UsageError Outcome := do
  let invocation ← Invocation.parse specs words
  if invocation.has "help" then .ok (help name specs) else command invocation

/-- The names of the commands. -/
def commandNames : List String := ["decode", "list-selectors", "narrate"]

/-- The help on the program, which lists the commands. -/
def overview : Outcome := help (" | ".intercalate commandNames) [helpOption]

/-- Why words name no command: they are read as options once more, and if that asks for nothing, the
first of them is no command. -/
def unknownCommand (name : String) (words : List String) : Except UsageError Outcome := do
  let (asksHelp, _) ← Invocation.parseLeading [helpOption] (name :: words)
  if asksHelp then .ok overview
  else .error (.noSuchCommand name (Text.closest name commandNames))

/-- Runs the command of a name. -/
def dispatch (environment : Environment) (name : String) (words : List String) :
    Except UsageError Outcome :=
  match name with
  | "decode" => runCommand name decodeOptions words decode
  | "narrate" => runCommand name narrateOptions words (narrate environment)
  | "list-selectors" => runCommand name listOptions words listSelectors
  | _ => unknownCommand name words

/-- Runs the command that stands first in words. -/
def runFirst (environment : Environment) : List String → Except UsageError Outcome
  | [] => .error .commandMissing
  | name :: words => dispatch environment name words

/-- Runs a command line, where options can stand in front of the command. -/
def runWords (environment : Environment) : List String → Except UsageError Outcome
  | [] => .error .noArguments
  | word :: words => do
    let (asksHelp, rest) ← Invocation.parseLeading [helpOption] (word :: words)
    if asksHelp then .ok overview else runFirst environment rest

/-- The outcome of a command line. -/
def run (environment : Environment) (words : List String) : Outcome :=
  match runWords environment words with
  | .ok outcome => outcome.printed
  | .error error => (misused error).printed

end Chronicle.CommandLine
