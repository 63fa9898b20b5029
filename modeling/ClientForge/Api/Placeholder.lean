import ClientForge.Api.Basic

/-!
Placeholders (`path_placeholders`): the names between braces in a path, for which a request puts values.
-/

namespace ClientForge

/-- The names between braces from a place on. `inside` is the name so far, backwards, where a brace is
open. A name is not empty and holds no brace and no slash. -/
def bracedNames (inside : Option (List Char)) : List Char → List (List Char)
  | [] => []
  | c :: s =>
    if c = '\x7b' then bracedNames (some []) s
    else
      match inside with
      | none => bracedNames none s
      | some name =>
        if c = '\x7d' then
          if name.isEmpty then bracedNames none s else name.reverse :: bracedNames none s
        else if c = '/' then bracedNames none s
        else bracedNames (some (c :: name)) s

/-- The placeholders of a path (`path_placeholders`), in order, each once. -/
def placeholders (path : String) : List String :=
  (bracedNames none path.toList).eraseDups.map String.ofList

/-- The parameters (`with_path_params`), and after them a path parameter for each placeholder of the path that has
none. -/
def withPathParams (path : String) (params : List Param) : List Param :=
  let declared := (params.filter (·.location == .path)).map (·.name)
  params ++ ((placeholders path).filter (!declared.contains ·)).map fun name =>
    { name, location := .path, required := true }

end ClientForge
