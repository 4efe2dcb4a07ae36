/- # Options of the command line

A command takes options, in any order and also between its arguments. A long
option has its value after an equals sign or in the next word; short options
of one letter can share a word, whose rest is the value of the first that
takes one. After a lone `--` all words are arguments.

Key definitions: `OptionSpec`, `UsageError`, `Invocation.parse`, `Invocation.parseLeading`.
-/
import Chronicle.Text.Shown
import Chronicle.Text.Similar

namespace Chronicle.CommandLine

/-- An option that a command knows. -/
structure OptionSpec where
  /-- What the option sets. -/
  key : String
  /-- Its spellings, each with its dashes. -/
  names : List String
  takesValue : Bool
  deriving DecidableEq, Repr

/-- Why a command line cannot be used. -/
inductive UsageError
  | noArguments
  | commandMissing
  /-- An unknown command, with the commands that may have been meant. -/
  | noSuchCommand (name : String) (meant : List String)
  /-- An unknown option, with the options that may have been meant. -/
  | noSuchOption (name : String) (meant : List String)
  | valueMissing (option : String)
  | valueNotTaken (option : String)
  | notAnInteger (option word : String)
  | argumentMissing (name : String)
  | optionMissing (option : String)
  | surplusArguments (words : List String)
  /-- A value that was refused for a reason of its own. -/
  | refused (place reason : String)
  deriving DecidableEq, Repr

/-- Names that may have been meant, in words. -/
def suggestion : List String → String
  | [] => ""
  | [name] => " Did you mean " ++ Text.quoted name ++ "?"
  | names => " (Did you mean one of: " ++ ", ".intercalate (names.map Text.quoted) ++ "?)"

/-- An error in words. -/
def UsageError.message : UsageError → String
  | .noArguments => ""
  | .commandMissing => "Missing command."
  | .noSuchCommand name meant =>
    "No such command " ++ Text.quoted name ++ "." ++ suggestion meant
  | .noSuchOption name meant => "No such option " ++ Text.quoted name ++ "." ++ suggestion meant
  | .valueMissing option => "Option " ++ Text.quoted option ++ " requires an argument."
  | .valueNotTaken option => "Option " ++ Text.quoted option ++ " does not take a value."
  | .notAnInteger option word =>
    "Invalid value for " ++ Text.quoted option ++ ": " ++ Text.quoted word ++
      " is not a valid integer."
  | .argumentMissing name => "Missing argument " ++ Text.quoted name ++ "."
  | .optionMissing option => "Missing option " ++ Text.quoted option ++ "."
  | .surplusArguments [word] => "Got unexpected extra argument (" ++ word ++ ")"
  | .surplusArguments words =>
    "Got unexpected extra arguments (" ++ " ".intercalate words ++ ")"
  | .refused place reason => "Invalid value for " ++ place ++ ": " ++ reason

/-- What the words of a command line say. -/
structure Invocation where
  /-- The options that were given, each with its value, in order. -/
  settings : List (String × String)
  arguments : List String
  deriving DecidableEq, Repr

namespace Invocation

/-- The last value that was given for an option. -/
def value? (invocation : Invocation) (key : String) : Option String :=
  (invocation.settings.reverse.find? (·.1 = key)).map Prod.snd

/-- Whether an option was given. -/
def has (invocation : Invocation) (key : String) : Bool := (invocation.value? key).isSome

/-- The option of a name. -/
def named? (specs : List OptionSpec) (name : String) : Option OptionSpec :=
  specs.find? (·.names.contains name)

/-- The names of more than one letter. -/
def fullNames (specs : List OptionSpec) : List String :=
  (specs.flatMap (·.names)).filter fun name => 2 < name.length

/-- The option of one letter. -/
def lettered? (specs : List OptionSpec) (letter : Char) : Option OptionSpec :=
  named? specs (String.ofList ['-', letter])

/-- Whether a word stands for options. -/
def isOption (word : String) : Bool :=
  match word.toList with
  | '-' :: _ :: _ => true
  | _ => false

/-- What a word of options asks of the words that follow it: the settings that are complete, and
the option that still needs a value with the name it was called by. -/
abbrev Reading := List (String × String) × Option (String × OptionSpec)

/-- Splits a word at its first equals sign into a name and a value. -/
def splitWord (word : String) : String × Option String :=
  match word.toList.span (· ≠ '=') with
  | (name, _ :: value) => (String.ofList name, some (String.ofList value))
  | (_, []) => (word, none)

/-- What it says to call an option by its full name, with a value or without. -/
def readSetting (spec : OptionSpec) (name : String) : Option String → Except UsageError Reading
  | some value =>
    if spec.takesValue then .ok ([(spec.key, value)], none) else .error (.valueNotTaken name)
  | none => .ok (if spec.takesValue then ([], some (name, spec)) else ([(spec.key, "")], none))

/-- Reads a word that calls one option by its full name, of more than one letter; none if there is
no such option. -/
def readNamed (specs : List OptionSpec) (word : String) : Option (Except UsageError Reading) :=
  if (splitWord word).1.length ≤ 2 then none
  else
    (named? specs (splitWord word).1).map fun spec =>
      readSetting spec (splitWord word).1 (splitWord word).2

/-- Reads options of one letter each. -/
def readLetters (specs : List OptionSpec) : List Char → Except UsageError Reading
  | [] => .ok ([], none)
  | letter :: letters =>
    match lettered? specs letter with
    | none => .error (.noSuchOption (String.ofList ['-', letter]) [])
    | some spec =>
      if spec.takesValue then
        if letters.isEmpty then .ok ([], some (String.ofList ['-', letter], spec))
        else .ok ([(spec.key, String.ofList letters)], none)
      else do
        let (settings, pending) ← readLetters specs letters
        .ok ((spec.key, "") :: settings, pending)

/-- The error of a name that no option has. -/
def unknownName (specs : List OptionSpec) (name : String) : UsageError :=
  .noSuchOption name (Text.closest name (fullNames specs))

/-- Reads a word of options: one name, or else letters if it starts with a single dash. -/
def readWord (specs : List OptionSpec) (word : String) : Except UsageError Reading :=
  match readNamed specs word with
  | some reading => reading
  | none =>
    match word.toList with
    | '-' :: '-' :: _ => .error (unknownName specs (splitWord word).1)
    | _ => readLetters specs (word.toList.drop 1)

/-- Puts settings before those of the rest. -/
def before (settings : List (String × String)) (rest : Invocation) : Invocation :=
  { rest with settings := settings ++ rest.settings }

/-- Reads the words of a command line, where `pending` is an option that takes the next word. -/
def parseFrom (specs : List OptionSpec) (pending : Option (String × OptionSpec)) :
    List String → Except UsageError Invocation
  | [] => match pending with
    | some (name, _) => .error (.valueMissing name)
    | none => .ok ⟨[], []⟩
  | word :: words =>
    match pending with
    | some (_, spec) => do
      let rest ← parseFrom specs none words
      .ok (before [(spec.key, word)] rest)
    | none =>
      if word = "--" then .ok ⟨[], words⟩
      else if isOption word then do
        let (settings, pending) ← readWord specs word
        let rest ← parseFrom specs pending words
        .ok (before settings rest)
      else do
        let rest ← parseFrom specs none words
        .ok { rest with arguments := word :: rest.arguments }

/-- Reads the options in front of a command: whether there are any, and the words from the command
on, which a lone `--` can mark. -/
def parseLeading (specs : List OptionSpec) : List String → Except UsageError (Bool × List String)
  | [] => .ok (false, [])
  | word :: words =>
    if word = "--" then .ok (false, words)
    else if isOption word then do
      let _ ← readWord specs word
      let (_, rest) ← parseLeading specs words
      .ok (true, rest)
    else .ok (false, word :: words)

/-- Reads the words of a command line. -/
def parse (specs : List OptionSpec) (words : List String) : Except UsageError Invocation :=
  parseFrom specs none words

end Invocation

end Chronicle.CommandLine
