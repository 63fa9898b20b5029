import ClientForge.Api.Reader
import ClientForge.Api.Writer
import ClientForge.Client.Project
import ClientForge.Command.Invocation
import ClientForge.Json.Writer
import ClientForge.Selection
import ClientForge.Source
import ClientForge.Text.Line

/-!
Runs of the program (`parse`, `generate`, `run`, `targets`). A run reads first and writes last: all that can be wrong with its arguments, its
document or its model shows before the first file is touched.
-/

namespace ClientForge

/-! ## Reading -/

/-- What is left to do when all is read. -/
inductive Work where
  | saveModel (api : Api) (output : FilePath)
  /-- Save files below a folder, and count them in a line that ends with the words. -/
  | saveFiles (files : List Artifact) (append : Bool) (output : FilePath) (opening : String)
  | rest

/-- The text of a file. Its line ends are line feeds. -/
def textOfFile (d : Directory) (p : FilePath) : Transcript String := do
  let text ← Transcript.ofExcept (fun f => .crashed (.storage f)) (d.read p)
  return .ofList (Text.unifyLineEnds text.toList)

/-- The end on a document that gives no API. -/
def stopReading (document : FilePath) (f : Failure) : Stop :=
  match f with
  | .invalid _ _ | .broken _ => .crashed (.failure f)
  | _ => .failed ("Failed to parse " ++ document.text ++ ": " ++ f.message)

/-- The format of a document, told if it is not given. -/
def formatOf (format : Option Format) (text : String) : Transcript Format := do
  match format with
  | some f => return f
  | none =>
    let f ← Transcript.ofExcept (fun f => .crashed (.failure f)) (Format.detect text)
    Transcript.tell ("Detected format: " ++ f.name)
    return f

/-- A number of endpoints. -/
def endpointCount (n : Nat) : String := toString n ++ " endpoints."

/-- The endpoints of a document that fit the patterns (`_parse_doc`, `_select`). -/
def apiOfDocument (verbose : Bool) (d : Directory) (document : FilePath) (format : Option Format)
    (patterns : List String) : Transcript Api := do
  let formatName := (format.map Format.name).getD "auto"
  Transcript.tell ("Parsing " ++ document.text ++ " (format: " ++ formatName ++ ")...")
  let text ← textOfFile d document
  let f ← formatOf format text
  let api ← Transcript.ofTraced verbose (stopReading document) (f.read text)
  let chosen := api.select patterns
  let n := chosen.endpoints.length
  if !patterns.isEmpty then
    Transcript.tell
      ("Selected " ++ toString n ++ " of " ++ endpointCount api.endpoints.length)
  Transcript.tell ("Found " ++ endpointCount n)
  return chosen

/-- The API of a saved model. -/
def apiOfModel (d : Directory) (model : FilePath) : Transcript Api := do
  Transcript.tell ("Reading model from " ++ model.text ++ "...")
  let text ← textOfFile d model
  Transcript.ofExcept
    (fun is => .failed ("Invalid model file " ++ model.text ++ ": " ++ issuesText "ApiDescription" is))
    (Api.read text)

/-- The files of a client (`_generate`). -/
def clientFiles (verbose : Bool) (t : Target) (api : Api) : Transcript (List Artifact) := do
  Transcript.tell ("Generating " ++ t.name ++ " client...")
  Transcript.ofTraced verbose (fun f => .crashed (.failure f)) (t.generateNoted api)

/-- The work of an invocation. -/
def Invocation.work (verbose : Bool) (d : Directory) : Invocation → Transcript Work
  | parse document format patterns output => do
    let api ← apiOfDocument verbose d document format patterns
    return .saveModel api output
  | generate model target append output => do
    let api ← apiOfModel d model
    let files ← clientFiles verbose target api
    return .saveFiles files append output "Generated "
  | run document format patterns target append output => do
    let api ← apiOfDocument verbose d document format patterns
    let files ← clientFiles verbose target api
    return .saveFiles files append output "Done! Generated "
  | targets => do
    Target.all.forM fun t => Transcript.tell t.name
    return .rest

/-! ## Writing -/

/-- How far files are saved: the lines on it, how many are written, and what went wrong. -/
structure Saving where
  directory : Directory
  lines : List String := []
  written : Nat := 0
  crash? : Option Crash := none
deriving DecidableEq, Repr, Inhabited

/-- A line before the others. -/
def Saving.afterLine (line : String) (s : Saving) : Saving := { s with lines := line :: s.lines }

/-- A file before the others. -/
def Saving.afterFile (line : String) (s : Saving) : Saving :=
  { s.afterLine line with written := s.written + 1 }

/-- Does a file stay as it is? -/
def keeps (d : Directory) (append : Bool) (p : FilePath) : Except StorageFault Bool :=
  if append then (d.kind p).map Option.isSome else .ok false

/-- Save files below a folder (`_write_files`). What is there already is kept, if it is asked for. -/
def saveFiles (append : Bool) (output : FilePath) (d : Directory) : List Artifact → Saving
  | [] => { directory := d }
  | a :: as =>
    let p := output.below a.path
    match keeps d append p with
    | .error f => { directory := d, crash? := some (.storage f) }
    | .ok true => (saveFiles append output d as).afterLine ("  Skipped " ++ p.text ++ " (exists)")
    | .ok false =>
      match d.save p a.text with
      | (d', some f) => { directory := d', crash? := some (.storage f) }
      | (d', none) => (saveFiles append output d' as).afterFile ("  Created " ++ p.text)

/-- Save a model. -/
def saveModel (output : FilePath) (d : Directory) (api : Api) : Saving :=
  match d.makeFolders output.parent, api.toJson? with
  | (d', some f), _ => { directory := d', crash? := some (.storage f) }
  | (d', none), none => { directory := d', crash? := some .unwritable }
  | (d', none), some model =>
    match d'.write output (Json.indentedText model) with
    | .error f => { directory := d', crash? := some (.storage f) }
    | .ok d'' => { directory := d'', lines := ["Model saved to " ++ output.text], written := 1 }

/-- A line at the end of what is saved, if all is. -/
def Saving.ended (line : Nat → String) (s : Saving) : Saving :=
  match s.crash? with
  | some _ => s
  | none => { s with lines := s.lines ++ [line s.written] }

/-- Do the work. -/
def Work.perform (d : Directory) : Work → Saving
  | saveModel api output => ClientForge.saveModel output d api
  | saveFiles files append output opening =>
    (ClientForge.saveFiles append output d files).ended fun n =>
      opening ++ toString n ++ " files in " ++ output.text
  | rest => { directory := d }

/-! ## Runs -/

/-- What a run tells and leaves. -/
structure Outcome where
  lines : List String
  exit : Nat
  crash? : Option Crash
  directory : Directory
deriving DecidableEq, Repr, Inhabited

/-- The outcome of a run that ends before its work is done. -/
def Outcome.stopped (d : Directory) (lines : List String) (s : Stop) : Outcome :=
  { lines := lines ++ s.lines, exit := s.exit, crash? := s.crash?, directory := d }

/-- The outcome of a run with its work. -/
def Outcome.worked (lines : List String) (s : Saving) : Outcome :=
  { lines := lines ++ s.lines
    exit := if s.crash?.isSome then 1 else 0
    crash? := s.crash?
    directory := s.directory }

/-- The outcome of an invocation in a directory. -/
def Invocation.outcome (verbose : Bool) (d : Directory) (i : Invocation) : Outcome :=
  let x := i.work verbose d
  match x.result with
  | .ok work => .worked x.lines (work.perform d)
  | .error s => .stopped d x.lines s

/-- The outcome of a run with arguments in a directory. -/
def Outcome.ofArguments (d : Directory) (args : List String) : Outcome :=
  match Invocation.ofArguments d args with
  | .ok (verbose, i) => i.outcome verbose d
  | .error s => .stopped d [] s

end ClientForge
