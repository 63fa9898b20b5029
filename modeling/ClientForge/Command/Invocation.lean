import ClientForge.Command.Arguments
import ClientForge.Command.Transcript

/-!
Invocations: commands with all that they need to know. Of several faults in a line of arguments, the
one that is told is the first of these: a word that is no option, a bad value of an option, a missing
or bad file, a missing option, a word too many.
-/

namespace ClientForge

/-- A command with all that it needs to know. -/
inductive Invocation where
  /-- Save what a document describes. No format stands for the one that the document shows. -/
  | parse (document : FilePath) (format : Option Format) (patterns : List String) (output : FilePath)
  /-- Make a client from what was saved. -/
  | generate (model : FilePath) (target : Target) (append : Bool) (output : FilePath)
  /-- Make a client from a document. -/
  | run (document : FilePath) (format : Option Format) (patterns : List String) (target : Target)
      (append : Bool) (output : FilePath)
  | targets
deriving DecidableEq, Repr, Inhabited

/-- The options that a command is given, as far as they are checked. -/
structure Options where
  output : Option FilePath := none
  target : Option Target := none
  format : Option Format := none
deriving DecidableEq, Repr, Inhabited

namespace Command

/-- The end on a fault in the arguments of a command. -/
def fault (c : Command) (f : UsageFault) : Stop := .usage (some c) f

/-- A path that can be written to. Where it leads does not matter yet. -/
def outputPath (d : Directory) (value : String) : Except Stop FilePath :=
  match d.kindAsWritten value with
  | .error .badPath => .error (.crashed (.storage .badPath))
  | _ => .ok (.ofText value)

/-- One of the values that an option can have. -/
def chosen {α : Type} (c : Command) (f : Flag) (value : String) (found : Option α) : Except Stop α :=
  found.elim (.error (c.fault (.badChoice f value))) .ok

/-- The format of a name in the usage. -/
def formatOf? (value : String) : Option (Option Format) :=
  if value = "auto" then some none else (Format.all.find? (·.name == value)).map some

/-- Check the value of an option: of several, the last. -/
def checkFlag (c : Command) (d : Directory) (a : Arguments) (os : Options) (f : Flag) :
    Except Stop Options :=
  let value := ((a.values f).getLast?).getD ""
  match f with
  | .output => (outputPath d value).map fun p => { os with output := some p }
  | .target => (c.chosen f value (Target.ofName? value)).map fun t => { os with target := some t }
  | .format => (c.chosen f value (formatOf? value)).map fun o => { os with format := o }
  | .endpoint | .append | .verbose | .help => .ok os

/-- The file that a command reads. -/
def inputPath (c : Command) (d : Directory) (a : Arguments) : Except Stop FilePath :=
  let name := c.argument?.getD ""
  match a.words.head? with
  | none => .error (c.fault (.missingArgument name))
  | some word =>
    match d.kindAsWritten word with
    | .ok .file => .ok (.ofText word)
    | .ok .folder => .error (c.fault (.notFile name word))
    | .error .badPath => .error (.crashed (.storage .badPath))
    | .error _ => .error (c.fault (.noFile name word))

/-- The value of an option that has to be given. -/
def needed {α : Type} (c : Command) (f : Flag) (value : Option α) : Except Stop α :=
  value.elim (.error (c.fault (.missingOption f))) .ok

/-- No words are left. -/
def noMore (c : Command) (words : List String) : Except Stop Unit :=
  if words.isEmpty then .ok () else .error (c.fault (.extra words))

/-- The invocation of a command with arguments. -/
def invocation (c : Command) (d : Directory) (args : List String) : Except Stop Invocation := do
  let a ← (Arguments.scan c.flags false args).mapError c.fault
  if a.has .help then .error (.help (some c))
  let os ← a.given.foldlM (c.checkFlag d a) {}
  match c with
  | targets =>
    c.noMore a.words
    return .targets
  | parse =>
    let document ← c.inputPath d a
    let output ← c.needed .output os.output
    c.noMore a.words.tail
    return .parse document os.format (a.values .endpoint) output
  | generate =>
    let model ← c.inputPath d a
    let output ← c.needed .output os.output
    let target ← c.needed .target os.target
    c.noMore a.words.tail
    return .generate model target (a.has .append) output
  | run =>
    let document ← c.inputPath d a
    let output ← c.needed .output os.output
    let target ← c.needed .target os.target
    c.noMore a.words.tail
    return .run document os.format (a.values .endpoint) target (a.has .append) output

end Command

/-- The paths among arguments, as they are written. -/
def pathsIn (args : List String) : List String :=
  match Arguments.scan leadingFlags true args with
  | .ok { words := name :: rest, .. } =>
    match (Command.ofName? name).map fun c => Arguments.scan c.flags false rest with
    | some (.ok a) => a.words ++ a.values .output
    | _ => []
  | _ => []

/-- A word that is no command may be an option after all, and then that is what is wrong with it. -/
def wordFault (words : List String) (name : String) : Stop :=
  match Arguments.scan leadingFlags true words with
  | .error f => .usage none f
  | .ok a => if a.has .help then .help none else .usage none (.unknownCommand name)

/-- The invocation of the program with arguments, and whether it shall tell its notes. -/
def Invocation.ofArguments (d : Directory) (args : List String) : Except Stop (Bool × Invocation) := do
  if args.isEmpty then .error .idle
  let a ← (Arguments.scan leadingFlags true args).mapError (.usage none)
  if a.has .help then .error (.help none)
  match a.words with
  | [] => .error (.usage none .noCommand)
  | name :: rest =>
    match Command.ofName? name with
    | none => .error (wordFault (name :: rest) name)
    | some c => return (a.has .verbose, ← c.invocation d rest)

end ClientForge
