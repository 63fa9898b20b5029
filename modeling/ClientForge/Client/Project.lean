import ClientForge.Client.Go.Project
import ClientForge.Client.Java.Project
import ClientForge.Client.Node.Project
import ClientForge.Client.Php.Project
import ClientForge.Client.Python.Project

/-!
The project of a client (`generate`): all its files, in any of the target languages.
-/

namespace ClientForge

/-- The files of a planned client (`TargetEmitter.emit`). -/
def Target.files (t : Target) (p : ClientPlan) : List Artifact :=
  match t with
  | node => Client.Node.files p
  | python => Client.Python.files p
  | go => Client.Go.files p
  | java => Client.Java.files p
  | php => Client.Php.files p

/-- The files of a client for an API, whatever texts its examples have. -/
def Target.generate (t : Target) (api : Api) : List Artifact := t.files (.ofApi t api)

/-- The files of a client (`generate`), with notes. There are none, if its plan cannot be made. -/
def Target.generateNoted (t : Target) (api : Api) : Traced (List Artifact) := do
  let plan ← ClientPlan.build t api
  let files := t.files plan
  Traced.note .info .generation ("Generated " ++ toString files.length ++ " " ++ t.name ++ " artifacts for " ++
    plan.title)
  return files

/-- The message for the name of a target that there is not. -/
def Target.unknownText (name : String) : String :=
  "Unknown target " ++ Text.quoted name ++ "; supported: " ++ names ", "

end ClientForge
