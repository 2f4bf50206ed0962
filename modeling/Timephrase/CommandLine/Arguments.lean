import Timephrase.Calendar.Rfc3339
import Timephrase.Text.Blank

/-!
# Arguments of the command line

Options come first, in any order; the last one of a kind counts.  The first argument that is no
option, or all that follows two hyphens, is the text to parse, words joined by spaces.  A text may
also be given by an option, but not twice.

## Main definitions

* `Settings`: what the options and the text amount to
* `Request`: what the command line asks for
* `UsageFault`: why a command line makes no sense
* `Settings.read`: the request that arguments make
-/

namespace Timephrase.CommandLine

/-- What options and text amount to. -/
structure Settings where
  input : Option String
  reference : Option Moment
  firstOnly : Bool
  trace : Bool
  debug : Bool
  color : Bool
  deriving DecidableEq, Repr

/-- What a command line asks for. -/
inductive Request
  | help
  | version
  | parse (settings : Settings)
  deriving DecidableEq, Repr

/-- Why a command line makes no sense. -/
inductive UsageFault
  | missingValue (option : String)
  | repeatedInput
  | badReference (value : String)
  | unknownOption (option : String)
  | unreadableInput (reason : String)
  | noInput
  deriving DecidableEq, Repr

/-- The version of the program. -/
def version : String := "0.1.0"

/-- The name of the program. -/
def program : String := "tempus"

/-- The help text. -/
def helpText : String := program ++ " " ++ version ++ "

Pull a time and a duration out of a short piece of text.

Usage:
  tempus [OPTIONS] [--] <input...>
  tempus [OPTIONS] --input <text>

Options:
  -i, --input <text>         Input text to parse. If omitted, reads remaining args
                             or stdin when no args are provided.
  --reference <timestamp>    Reference instant in RFC 3339. Default: the system clock.
  --first-only               Apply only the first match of each rule.
  --trace                    Print a per-rule report instead of the plain result.
  --debug                    Log engine events to stderr (otherwise TEMPUS_LOG is read).
  --color                    Force ANSI color output.
  --no-color                 Disable ANSI color output.
  -h, --help                 Show this help message.
  -V, --version              Print version information.

Exit codes:
  0  Success.
  1  Parse error.
  2  Invalid arguments or missing input.
"

namespace UsageFault

/-- The wording of a fault. -/
def message : UsageFault → String
  | missingValue option => "error: " ++ option ++ " expects a value"
  | repeatedInput => "error: input provided multiple times"
  | badReference value =>
    "error: invalid --reference '" ++ value ++
      "' (expected RFC 3339, e.g. 2013-02-12T04:30:00Z)"
  | unknownOption option => "error: unknown option '" ++ option ++ "'"
  | unreadableInput reason => "error: failed to read stdin: " ++ reason
  | noInput => "error: no input provided\n\n" ++ helpText

end UsageFault

namespace Settings

/-- What no arguments amount to, on a terminal or not. -/
def initial (terminal : Bool) : Settings := ⟨none, none, false, false, false, terminal⟩

/-- The settings with a text, unless there is one already. -/
def withInput (s : Settings) (text : String) : Except UsageFault Settings :=
  match s.input with
  | some _ => .error .repeatedInput
  | none => .ok { s with input := some text }

/-- The settings with the moment of reference that a timestamp denotes. -/
def withReference (s : Settings) (value : String) : Except UsageFault Settings :=
  match Moment.ofRfc3339? value with
  | some moment => .ok { s with reference := some moment }
  | none => .error (.badReference value)

/-- The settings that words amount to when they are the text. -/
def withWords (s : Settings) (words : List String) : Except UsageFault Settings :=
  s.withInput (" ".intercalate words)

/-- The settings after two hyphens: the words that follow, unless they are blank together. -/
def withRest (s : Settings) (words : List String) : Except UsageFault Settings :=
  if Blank.trim (" ".intercalate words) = "" then .ok s else s.withWords words

/-- What is left of a list of characters when another is taken off its front as often as it is
there. -/
def dropRepeated (front : List Char) : Nat → List Char → List Char
  | 0, cs => cs
  | fuel + 1, cs =>
    if front.isPrefixOf cs then dropRepeated front fuel (cs.drop front.length) else cs

/-- The value joined to an option by an equals sign, if the argument starts with the option and the
sign.  All repetitions of them are taken off. -/
def joinedValue? (option : String) (arg : String) : Option String :=
  let front := option.toList ++ ['=']
  let cs := arg.toList
  if front.isPrefixOf cs then some (String.ofList (dropRepeated front cs.length cs)) else none

/-- The request that arguments make, after the settings that those before them have made. -/
def readFrom : Settings → List String → Except UsageFault Request
  | s, [] => .ok (.parse s)
  | s, arg :: rest =>
    if arg = "-h" ∨ arg = "--help" then .ok .help
    else if arg = "-V" ∨ arg = "--version" then .ok .version
    else if arg = "--color" then readFrom { s with color := true } rest
    else if arg = "--no-color" then readFrom { s with color := false } rest
    else if arg = "--first-only" then readFrom { s with firstOnly := true } rest
    else if arg = "--trace" then readFrom { s with trace := true } rest
    else if arg = "--debug" then readFrom { s with debug := true } rest
    else if arg = "--reference" then
      match rest with
      | [] => .error (.missingValue "--reference")
      | value :: rest => do readFrom (← s.withReference value) rest
    else if arg = "--input" ∨ arg = "-i" then
      match rest with
      | [] => .error (.missingValue "--input")
      | value :: rest => do readFrom (← s.withInput value) rest
    else if arg = "--" then (s.withRest rest).map .parse
    else
      match joinedValue? "--reference" arg with
      | some value => do readFrom (← s.withReference value) rest
      | none =>
        match joinedValue? "--input" arg with
        | some value => do readFrom (← s.withInput value) rest
        | none =>
          if ['-'].isPrefixOf arg.toList then .error (.unknownOption arg)
          else (s.withWords (arg :: rest)).map .parse

/-- The request that arguments make. -/
def read (terminal : Bool) (args : List String) : Except UsageFault Request :=
  readFrom (initial terminal) args

end Settings

end Timephrase.CommandLine
