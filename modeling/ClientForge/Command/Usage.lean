import ClientForge.Client.Target
import ClientForge.Format
import ClientForge.Text.Quoted
import ClientForge.Text.Similar

/-!
The usage of the program: its commands with their options, and what is told about a line of arguments
that does not fit them.
-/

namespace ClientForge

/-- The name that the program is called by. -/
def programName : String := "api-codegen"

/-! ## Options -/

/-- An option of some command. -/
inductive Flag where
  | output
  | target
  | format
  | endpoint
  | append
  | verbose
  | help
deriving DecidableEq, Repr, Inhabited

namespace Flag

/-- The long name. -/
def long : Flag → String
  | output => "--output"
  | target => "--target"
  | format => "--format"
  | endpoint => "--endpoint"
  | append => "--append"
  | verbose => "--verbose"
  | help => "--help"

/-- The letter of the short name. -/
def letter? : Flag → Option Char
  | output => some 'o'
  | target => some 't'
  | verbose => some 'v'
  | _ => none

/-- Does a value follow the option? -/
def takesValue : Flag → Bool
  | output | target | format | endpoint => true
  | append | verbose | help => false

/-- The names of an option, as they are told. -/
def names (f : Flag) : String :=
  let long := Text.quoted f.long
  match f.letter? with
  | some c => Text.quoted (.ofList ['-', c]) ++ " / " ++ long
  | none => long

/-- The values that an option can have, if they are few. -/
def choices : Flag → List String
  | target => Target.all.map Target.name
  | format => "auto" :: Format.all.map Format.name
  | _ => []

end Flag

/-! ## Commands -/

inductive Command where
  | parse
  | generate
  | run
  | targets
deriving DecidableEq, Repr, Inhabited

namespace Command

def all : List Command := [parse, generate, run, targets]

def name : Command → String
  | parse => "parse"
  | generate => "generate"
  | run => "run"
  | targets => "targets"

def ofName? (s : String) : Option Command := all.find? (·.name == s)

/-- The file that a command reads, as it is called in its usage. -/
def argument? : Command → Option String
  | parse | run => some "DOC_PATH"
  | generate => some "MODEL_PATH"
  | targets => none

/-- The options of a command. -/
def flags : Command → List Flag
  | parse => [.output, .format, .endpoint, .help]
  | generate => [.output, .target, .append, .help]
  | run => [.output, .target, .format, .endpoint, .append, .help]
  | targets => [.help]

end Command

/-- The options before the command. -/
def leadingFlags : List Flag := [.verbose, .help]

/-! ## Faults -/

/-- What is wrong with a line of arguments. -/
inductive UsageFault where
  | noCommand
  | unknownCommand (name : String)
  /-- An option that there is not, with the names like it. -/
  | unknownOption (name : String) (near : List String)
  /-- An option without its value. -/
  | noValue (name : String)
  /-- An option with a value that it does not take. -/
  | needlessValue (name : String)
  | badChoice (f : Flag) (value : String)
  | noFile (argument path : String)
  | notFile (argument path : String)
  | missingArgument (argument : String)
  | missingOption (f : Flag)
  /-- Arguments that nothing is done with. -/
  | extra (arguments : List String)
deriving DecidableEq, Repr, Inhabited

namespace UsageFault

/-- A guess at what is meant. -/
def guess : List String → String
  | [] => ""
  | [w] => " Did you mean " ++ Text.quoted w ++ "?"
  | ws => " (Did you mean one of: " ++ ", ".intercalate (ws.map Text.quoted) ++ "?)"

/-- The start of a message on a value. -/
def badValue (names : String) : String := "Invalid value for " ++ names ++ ": "

/-- The fault in words. -/
def message : UsageFault → String
  | noCommand => "Missing command."
  | unknownCommand name =>
    "No such command " ++ Text.quoted name ++ "." ++
      guess (Text.closeWords (Command.all.map Command.name) name)
  | unknownOption name near => "No such option " ++ Text.quoted name ++ "." ++ guess near
  | noValue name => "Option " ++ Text.quoted name ++ " requires an argument."
  | needlessValue name => "Option " ++ Text.quoted name ++ " does not take a value."
  | badChoice f value =>
    badValue f.names ++ Text.quoted value ++ " is not one of " ++
      ", ".intercalate (f.choices.map Text.quoted) ++ "."
  | noFile argument path =>
    badValue (Text.quoted argument) ++ "File " ++ Text.quoted path ++ " does not exist."
  | notFile argument path =>
    badValue (Text.quoted argument) ++ "File " ++ Text.quoted path ++ " is a directory."
  | missingArgument argument => "Missing argument " ++ Text.quoted argument ++ "."
  | missingOption f =>
    let choose :=
      if f.choices.isEmpty then "" else " Choose from:\n\t" ++ ",\n\t".intercalate f.choices
    "Missing option " ++ f.names ++ "." ++ choose
  | extra [argument] => "Got unexpected extra argument (" ++ argument ++ ")"
  | extra arguments => "Got unexpected extra arguments (" ++ " ".intercalate arguments ++ ")"

/-- Is the fault told without the usage? So it is if the options cannot be told from their values. -/
def standsAlone : UsageFault → Bool
  | noValue _ | needlessValue _ => true
  | _ => false

end UsageFault

/-! ## Lines -/

/-- The program, or one of its commands, as it is called. -/
def callOf : Option Command → String
  | none => programName
  | some c => programName ++ " " ++ c.name

/-- How the program, or one of its commands, is used. -/
def usageLine (scope : Option Command) : String :=
  let arguments :=
    match scope with
    | none => " COMMAND [ARGS]..."
    | some c => (c.argument?.map (" " ++ ·)).getD ""
  "Usage: " ++ callOf scope ++ " [OPTIONS]" ++ arguments

/-- A line that tells of an error. -/
def errorLine (message : String) : String := "Error: " ++ message

/-- The lines that tell of a fault in the arguments of the program, or of one of its commands. -/
def UsageFault.lines (scope : Option Command) (f : UsageFault) : List String :=
  if f.standsAlone then [errorLine f.message]
  else
    [usageLine scope, "Try '" ++ callOf scope ++ " --help' for help.", "", errorLine f.message]

end ClientForge
