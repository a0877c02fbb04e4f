/-
CodegenRun/Inspect/CommandLine.lean

The arguments of the program: `inspect --options FILE [--log-format text|json]`, and requests for
help and for the version.

Arguments are read from left to right.  An option takes its value from behind an equals sign or
from the next argument, unless that one looks like an option itself.  A value from the next
argument is checked when a further option or the end is reached; an argument that cannot be
placed at all is reported before that check.
-/
import CodegenRun.Log.Record
import CodegenRun.Program
import CodegenRun.Text.Unstyled

namespace CodegenRun

/-- What the program is asked to do. -/
inductive Command where
  | inspect (path : String) (format : LogFormat)
  | help
  | inspectHelp
  | helpHelp
  | version
deriving DecidableEq, Repr

/-- What is wrong with the arguments.  Without any command the program says what it is for. -/
inductive UsageError where
  | noCommand
  | unknownCommand (argument : String)
  | unexpectedArgument (argument : String)
  | unexpectedValue (value option : String)
  | repeatedOption (option : String)
  | noValue (option : String)
  | invalidValue (value option : String)
  | missingOptions
deriving DecidableEq, Repr

/-- What the program is for. -/
def programPurpose : String := "Drizzle schema generator tooling"

/-- The first line of what is said about wrong arguments.  They are quoted without what they
tell a terminal to do. -/
def UsageError.message : UsageError → String
  | .noCommand => programPurpose
  | .unknownCommand argument =>
    "error: unrecognized subcommand '" ++ Text.unstyled argument ++ "'"
  | .unexpectedArgument argument =>
    "error: unexpected argument '" ++ Text.unstyled argument ++ "' found"
  | .unexpectedValue value option =>
    "error: unexpected value '" ++ Text.unstyled value ++ "' for '" ++ option ++
      "' found; no more were expected"
  | .repeatedOption option =>
    "error: the argument '" ++ option ++ "' cannot be used multiple times"
  | .noValue option =>
    "error: a value is required for '" ++ option ++ "' but none was supplied"
  | .invalidValue value option =>
    "error: invalid value '" ++ Text.unstyled value ++ "' for '" ++ option ++ "'"
  | .missingOptions => "error: the following required arguments were not provided:"

namespace CommandLine

/-! ### The options of an inspection -/

/-- The options that take a value. -/
inductive ValueOption where
  | options
  | logFormat
deriving DecidableEq, Repr

namespace ValueOption

/-- The option as messages name it, with its value. -/
def label : ValueOption → String
  | .options => "--options <FILE>"
  | .logFormat => "--log-format <LOG_FORMAT>"

/-- The option of a name, without the two dashes. -/
def ofName? (name : String) : Option ValueOption :=
  if name = "options" then some .options
  else if name = "log-format" then some .logFormat
  else none

end ValueOption

/-- The values given so far, and the option that still waits for its value to be checked, with
the value if it has been given. -/
structure InspectArguments where
  path? : Option String := none
  format? : Option LogFormat := none
  pending? : Option (ValueOption × Option String) := none
deriving DecidableEq, Repr

namespace InspectArguments

/-- Checks a value and keeps it.  An option that already has one is reported first. -/
def accept (given : InspectArguments) : ValueOption → String → Except UsageError InspectArguments
  | .options, value =>
    if given.path?.isSome then .error (.repeatedOption ValueOption.options.label)
    else if value = "" then .error (.noValue ValueOption.options.label)
    else .ok { given with path? := some value }
  | .logFormat, value =>
    if given.format?.isSome then .error (.repeatedOption ValueOption.logFormat.label)
    else if value = "" then .error (.noValue ValueOption.logFormat.label)
    else
      match LogFormat.ofName? value with
      | some format => .ok { given with format? := some format }
      | none => .error (.invalidValue value ValueOption.logFormat.label)

/-- Checks the value that waits, if one does. -/
def settle (given : InspectArguments) : Except UsageError InspectArguments :=
  match given.pending? with
  | none => .ok given
  | some (option, none) => .error (.noValue option.label)
  | some (option, some value) => { given with pending? := none }.accept option value

/-- The inspection that is asked for, at the end of the arguments. -/
def finish (given : InspectArguments) : Except UsageError Command := do
  let given ← given.settle
  match given.path? with
  | some path => .ok (.inspect path (given.format?.getD .text))
  | none => .error .missingOptions

end InspectArguments

/-! ### The form of an argument -/

/-- What an argument looks like. -/
inductive Shape where
  /-- Two dashes and nothing else: no options follow. -/
  | escape
  /-- An option by its long name, with the value behind an equals sign if there is one. -/
  | long (name : String) (value? : Option String)
  /-- An option by one letter, and the letters behind it. -/
  | short (letter : Char) (rest : List Char)
  | word
deriving DecidableEq, Repr

/-- The text before the first equals sign, and the one behind it if there is one. -/
def splitEquals (s : List Char) : String × Option String :=
  (String.ofList (s.takeWhile (· ≠ '=')),
    match s.dropWhile (· ≠ '=') with
    | [] => none
    | _ :: value => some (String.ofList value))

/-- The form of an argument, by its dashes. -/
def shape (argument : String) : Shape :=
  match argument.toList with
  | ['-', '-'] => .escape
  | '-' :: '-' :: s => .long (splitEquals s).1 (splitEquals s).2
  | '-' :: letter :: rest => .short letter rest
  | _ => .word

/-- An option of one letter as messages name it. -/
def shortName (letter : Char) : String := String.ofList ['-', letter]

/-! ### Reading -/

/-- Reads what follows the word `inspect`.  Behind the escape every argument is a word, and there
is no place for words that are no values. -/
def readInspect (given : InspectArguments) (escaped : Bool) :
    List String → Except UsageError Command
  | [] => given.finish
  | argument :: rest =>
    if escaped then .error (.unexpectedArgument argument)
    else
      match shape argument with
      | .escape => readInspect given true rest
      | .long name value? =>
        match ValueOption.ofName? name, value? with
        | some option, some value =>
          match given.settle.bind (·.accept option value) with
          | .ok given => readInspect given false rest
          | .error error => .error error
        | some option, none =>
          match given.settle with
          | .ok given => readInspect { given with pending? := some (option, none) } false rest
          | .error error => .error error
        | none, value? =>
          if name = "help" then
            match value? with
            | some value => .error (.unexpectedValue value "--help")
            | none => given.settle.map fun _ => .inspectHelp
          else .error (.unexpectedArgument ("--" ++ name))
      | .short letter _ =>
        if letter = 'h' then given.settle.map fun _ => .inspectHelp
        else .error (.unexpectedArgument (shortName letter))
      | .word =>
        match given.pending? with
        | some (option, none) =>
          readInspect { given with pending? := some (option, some argument) } false rest
        | _ => .error (.unexpectedArgument argument)

/-- Reads what follows the word `help`: the command to be told about. -/
def readHelp : List String → Except UsageError Command
  | [] => .ok .help
  | ["inspect"] => .ok .inspectHelp
  | ["help"] => .ok .helpHelp
  | "inspect" :: argument :: _ | "help" :: argument :: _ | argument :: _ =>
    .error (.unknownCommand argument)

/-- Reads the arguments of the program. -/
def read : List String → Except UsageError Command
  | [] => .error .noCommand
  | argument :: rest =>
    match shape argument with
    | .word =>
      if argument = "inspect" then readInspect {} false rest
      else if argument = "help" then readHelp rest
      else .error (.unknownCommand argument)
    | .escape =>
      match rest with
      | [] => .error .noCommand
      | argument :: _ =>
        if argument = "inspect" ∨ argument = "help" then .error (.unexpectedArgument argument)
        else .error (.unknownCommand argument)
    | .long name value? =>
      if name = "help" ∨ name = "version" then
        match value? with
        | some value => .error (.unexpectedValue value ("--" ++ name))
        | none => .ok (if name = "help" then .help else .version)
      else .error (.unexpectedArgument ("--" ++ name))
    | .short letter _ =>
      if letter = 'h' then .ok .help
      else if letter = 'V' then .ok .version
      else .error (.unexpectedArgument (shortName letter))

/-! ### Texts -/

def helpText : String := "\n".intercalate [
  programPurpose,
  "",
  "Usage: " ++ programName ++ " <COMMAND>",
  "",
  "Commands:",
  "  inspect  Validate generator options and print the resolved settings",
  "  help     Print this message or the help of the given subcommand(s)",
  "",
  "Options:",
  "  -h, --help     Print help",
  "  -V, --version  Print version",
  ""]

def inspectHelpText : String := "\n".intercalate [
  "Validate generator options and print the resolved settings",
  "",
  "Usage: " ++ programName ++ " inspect [OPTIONS] --options <FILE>",
  "",
  "Options:",
  "      --options <FILE>           JSON document with the host's generator options",
  "      --log-format <LOG_FORMAT>  Format of the log lines written to stderr " ++
    "[default: text] [possible values: text, json]",
  "  -h, --help                     Print help",
  ""]

def helpHelpText : String := "\n".intercalate [
  "Print this message or the help of the given subcommand(s)",
  "",
  "Usage: " ++ programName ++ " help [COMMAND]...",
  "",
  "Arguments:",
  "  [COMMAND]...  Print help for the subcommand(s)",
  ""]

def versionText : String := programName ++ " " ++ programVersion ++ "\n"

end CommandLine

end CodegenRun
