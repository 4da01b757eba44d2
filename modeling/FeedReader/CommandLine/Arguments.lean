import FeedReader.Resource.Basic
import FeedReader.Text.Decimal

/-!
# The command line

Options come before the command, which names the listing to open; without one
that is the home timeline.  An option takes its value from the argument after it
or after an equals sign, and cannot be given twice.  After `--` nothing is an
option.
-/

namespace FeedReader.CommandLine

/-! ## What can be given -/

inductive ValueKind where
  | flag
  | text
  | path
  | count
  deriving DecidableEq, Repr

def ValueKind.accepts (kind : ValueKind) (value : String) : Bool :=
  match kind with
  | .flag | .text => true
  | .path => value ≠ ""
  | .count => (Text.word? value.toList).isSome

structure Grammar where
  options : List (String × ValueKind) := []
  commands : List String := []
  words : Nat := 0
  deriving DecidableEq, Repr

def topGrammar : Grammar where
  options := [("config", .path), ("api-url", .text), ("page-size", .count), ("no-live", .flag)]
  commands :=
    ["timeline", "notifications", "comments", "users", "followers", "followees", "help"]

def commandGrammar (command : String) : Grammar :=
  if ["comments", "followers", "followees"].contains command then { words := 1 }
  else if command = "users" then { options := [("search", .text)] }
  else {}

/-! ## Reading -/

inductive Refusal where
  /-- Not a fault: help is wanted. -/
  | help
  | unknown (argument : String)
  | missingValue (option : String)
  | badValue (option value : String)
  | repeated (option : String)
  | unneededValue (option : String)
  | missingWord
  deriving DecidableEq, Repr

def Refusal.message : Refusal → String
  | .help => "Terminal client for a social network"
  | .unknown argument => s!"error: unexpected argument '{argument}'"
  | .missingValue option => s!"error: a value is required for '--{option}'"
  | .badValue option value => s!"error: invalid value '{value}' for '--{option}'"
  | .repeated option => s!"error: '--{option}' cannot be used multiple times"
  | .unneededValue option => s!"error: '--{option}' takes no value"
  | .missingWord => "error: a required argument was not provided"

def usage : String :=
  "Usage: murmur [--config FILE] [--api-url URL] [--page-size N] [--no-live] [COMMAND]\n\n" ++
    "Commands: timeline, notifications, comments POST, users [--search TEXT], followers USER, " ++
    "followees USER"

structure Given where
  values : List (String × String) := []
  words : List String := []
  command : Option (String × List String) := none
  deriving DecidableEq, Repr

namespace Given

def value? (g : Given) (option : String) : Option String :=
  (g.values.find? (·.1 = option)).map (·.2)

def withValue (g : Given) (option : String) (kind : ValueKind) (value : String) :
    Except Refusal Given :=
  if (g.value? option).isSome then .error (.repeated option)
  else if kind.accepts value then .ok { g with values := g.values ++ [(option, value)] }
  else .error (.badValue option value)

end Given

/-- Something that is meant as an option; a lone dash is not. -/
def isOption (argument : String) : Bool := argument.startsWith "-" && argument ≠ "-"

def splitOption (argument : String) : String × Option String :=
  let s := argument.toList.drop 2
  (String.ofList (s.takeWhile (· ≠ '=')),
    match s.dropWhile (· ≠ '=') with
    | _ :: value => some (String.ofList value)
    | [] => none)

def shortOption (argument : String) : Refusal :=
  if argument.startsWith "-h" then .help else .unknown argument

/-- Read arguments up to a command, or to the end; `literal` holds after `--`. -/
def scan (grammar : Grammar) (literal : Bool) (g : Given) : List String → Except Refusal Given
  | [] => .ok g
  | a :: rest =>
      if !literal && grammar.commands.contains a then .ok { g with command := some (a, rest) }
      else if !literal && a = "--" then scan grammar true g rest
      else if !literal && a.startsWith "--" then
        let (name, attached) := splitOption a
        match grammar.options.lookup name with
        | none =>
            .error (if name = "help" then
              (if attached.isSome then .unneededValue name else .help)
            else .unknown a)
        | some .flag =>
            if attached.isSome then .error (.unneededValue name)
            else do scan grammar false (← g.withValue name .flag "") rest
        | some kind =>
            match attached, rest with
            | some value, rest => do scan grammar false (← g.withValue name kind value) rest
            | none, [] => .error (.missingValue name)
            | none, value :: rest =>
                if isOption value then .error (.missingValue name)
                else do scan grammar false (← g.withValue name kind value) rest
      else if !literal && isOption a then .error (shortOption a)
      else if g.words.length < grammar.words then
        scan grammar literal { g with words := g.words ++ [a] } rest
      else .error (.unknown a)

/-! ## Options -/

structure Options where
  config : Option String := none
  apiUrl : Option String := none
  pageSize : Option Nat := none
  noLive : Bool := false
  resource : Resource := .timeline
  deriving DecidableEq, Repr

def helpOn (rest : List String) : Refusal :=
  match rest with
  | [] => .help
  | [command] => if topGrammar.commands.contains command then .help else .unknown command
  | _ :: a :: _ => .unknown a

def readCommand (command : String) (rest : List String) : Except Refusal Resource := do
  if command = "help" then throw (helpOn rest)
  let g ← scan (commandGrammar command) false {} rest
  match command, g.words with
  | "timeline", _ => return .timeline
  | "notifications", _ => return .notifications
  | "users", _ => return .users (g.value? "search")
  | "comments", [postId] => return .comments postId
  | "followers", [username] => return .followers username
  | "followees", [username] => return .followees username
  | _, _ => throw .missingWord

def parse (arguments : List String) : Except Refusal Options := do
  let g ← scan topGrammar false {} arguments
  let resource ← match g.command with
    | none => pure .timeline
    | some (command, rest) => readCommand command rest
  return {
    config := g.value? "config"
    apiUrl := g.value? "api-url"
    pageSize := (g.value? "page-size").bind fun value => Text.word? value.toList
    noLive := (g.value? "no-live").isSome
    resource }

end FeedReader.CommandLine
