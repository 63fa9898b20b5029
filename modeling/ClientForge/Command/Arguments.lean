import ClientForge.Command.Usage
import ClientForge.Text.Search

/-!
Arguments: the options and other words of a line of arguments, as the command line library takes them apart. An option stands before, between or
after the other words; two hyphens end the options.
-/

namespace ClientForge

/-- The arguments of a command. -/
structure Arguments where
  /-- The options in order, each with its value. -/
  flags : List (Flag × String) := []
  /-- The other words. -/
  words : List String := []
deriving DecidableEq, Repr, Inhabited

/-- Options with their values, and the last option if its value is still to come, with its name. -/
structure FlagGroup where
  flags : List (Flag × String) := []
  waiting : Option (Flag × String) := none
deriving DecidableEq, Repr, Inhabited

namespace Arguments

/-- Put options before the others. -/
def withFlags (fs : List (Flag × String)) (a : Arguments) : Arguments := { a with flags := fs ++ a.flags }

/-- Put a word before the others. -/
def withWord (w : String) (a : Arguments) : Arguments := { a with words := w :: a.words }

/-- The options behind one hyphen, by their letters. What follows an option that takes a value is
its value. -/
def letters (known : List Flag) : List Char → Except UsageFault FlagGroup
  | [] => .ok {}
  | c :: cs =>
    let name : String := .ofList ['-', c]
    match known.find? fun f => f.letter? = some c with
    | none => .error (.unknownOption name [])
    | some f =>
      if !f.takesValue then (letters known cs).map fun g => { g with flags := (f, "") :: g.flags }
      else if cs.isEmpty then .ok { waiting := some (f, name) }
      else .ok { flags := [(f, .ofList cs)] }

/-- An option by its long name. -/
def longFlag (f : Flag) (value : Option String) : Except UsageFault FlagGroup :=
  match f.takesValue, value with
  | true, some v => .ok { flags := [(f, v)] }
  | true, none => .ok { waiting := some (f, f.long) }
  | false, some _ => .error (.needlessValue f.long)
  | false, none => .ok { flags := [(f, "")] }

/-- A long name and the value after it, if an equals sign stands between them. -/
def nameAndValue (word : List Char) : String × Option String :=
  match Text.cut? ['='] word with
  | some (name, value) => (.ofList name, some (.ofList value))
  | none => (.ofList word, none)

/-- The options of a word that starts with a hyphen. -/
def flagGroup (known : List Flag) (word : List Char) : Except UsageFault FlagGroup :=
  let (name, value) := nameAndValue word
  match known.find? (·.long == name) with
  | some f => longFlag f value
  | none =>
    match word with
    | '-' :: '-' :: _ => .error (.unknownOption name (Text.closeWords (known.map Flag.long) name))
    | _ => letters known word.tail

/-- Does the word hold options? A hyphen alone does not. -/
def holdsFlags (word : List Char) : Bool := word.head? = some '-' && 2 ≤ word.length

/-- The arguments of a line. If the options have to lead, the first other word ends them. -/
def scan (known : List Flag) (leading : Bool) : List String → Except UsageFault Arguments
  | [] => .ok {}
  | word :: rest =>
    if word = "--" then .ok { words := rest }
    else if holdsFlags word.toList then
      match flagGroup known word.toList with
      | .error e => .error e
      | .ok ⟨fs, none⟩ => (scan known leading rest).map (withFlags fs)
      | .ok ⟨fs, some (f, name)⟩ =>
        match rest with
        | [] => .error (.noValue name)
        | value :: rest => (scan known leading rest).map (withFlags (fs ++ [(f, value)]))
    else if leading then .ok { words := word :: rest }
    else (scan known leading rest).map (withWord word)

/-- Is an option given? -/
def has (a : Arguments) (f : Flag) : Bool := a.flags.any (·.1 == f)

/-- The values of an option, in order. -/
def values (a : Arguments) (f : Flag) : List String :=
  (a.flags.filter (·.1 == f)).map Prod.snd

/-- The options that are given, each once, where it is first given. -/
def given (a : Arguments) : List Flag := (a.flags.map Prod.fst).eraseDups

end Arguments

end ClientForge
