import ClientForge.Command.Usage
import ClientForge.File.Directory
import ClientForge.Traced

/-!
Transcripts: what is told on the way to a result, line by line, up to where the way ends.
-/

namespace ClientForge

/-- What nobody is told of in words. -/
inductive Crash where
  /-- A text that makes no API. -/
  | failure (f : Failure)
  /-- A model that cannot be written. -/
  | unwritable
  /-- Files or folders that do not let something be done. -/
  | storage (f : StorageFault)
deriving DecidableEq, Repr, Inhabited

/-- Why a run ends before its work is done. -/
inductive Stop where
  /-- The usage is asked for. -/
  | help (scope : Option Command)
  /-- No arguments say what to do. -/
  | idle
  | usage (scope : Option Command) (f : UsageFault)
  | failed (message : String)
  | crashed (c : Crash)
deriving DecidableEq, Repr, Inhabited

namespace Stop

/-- The lines that tell of the end. -/
def lines : Stop → List String
  | help scope => [usageLine scope]
  | idle => [usageLine none]
  | usage scope f => f.lines scope
  | failed message => [errorLine message]
  | crashed _ => []

/-- The exit code. -/
def exit : Stop → Nat
  | help _ => 0
  | idle | usage _ _ => 2
  | failed _ | crashed _ => 1

def crash? : Stop → Option Crash
  | crashed c => some c
  | _ => none

end Stop

/-- A result with the lines that are told on the way. -/
structure Transcript (α : Type) where
  lines : List String
  result : Except Stop α

namespace Transcript

def done {α : Type} (a : α) : Transcript α := ⟨[], .ok a⟩

def stop {α : Type} (s : Stop) : Transcript α := ⟨[], .error s⟩

/-- Go on after a result. -/
def andThen {α β : Type} (x : Transcript α) (f : α → Transcript β) : Transcript β :=
  match x.result with
  | .ok a => ⟨x.lines ++ (f a).lines, (f a).result⟩
  | .error s => ⟨x.lines, .error s⟩

instance : Monad Transcript where
  pure := done
  bind := andThen

/-- Tell a line. -/
def tell (line : String) : Transcript Unit := ⟨[line], .ok ()⟩

/-- A result without lines. -/
def ofExcept {ε α : Type} (asStop : ε → Stop) (x : Except ε α) : Transcript α := ⟨[], x.mapError asStop⟩

/-- A traced result. Its notes are told if they are asked for. -/
def ofTraced {α : Type} (verbose : Bool) (asStop : Failure → Stop) (x : Traced α) : Transcript α :=
  ⟨if verbose then x.notes.map Note.line else [], x.outcome.mapError asStop⟩

@[simp] theorem result_bind {α β : Type} (x : Transcript α) (f : α → Transcript β) :
    (x >>= f).result = x.result.bind fun a => (f a).result := by
  show (x.andThen f).result = _
  unfold andThen
  cases x.result <;> rfl

@[simp] theorem result_pure {α : Type} (a : α) : (pure a : Transcript α).result = .ok a := rfl

@[simp] theorem result_tell (line : String) : (tell line).result = .ok () := rfl

end Transcript

end ClientForge
