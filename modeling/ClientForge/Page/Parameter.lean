import ClientForge.Api.Basic
import ClientForge.Page.Match
import ClientForge.Text.Template

/-!
The parameters that a text mentions (`extract_parameters`): names between braces, names in a query, and names
with a colon and a value.
-/

namespace ClientForge.Page

/-- The names in a query: between a question mark or ampersand and an equals sign. -/
def queryNames : List Char → List (List Char)
  | [] => []
  | c :: s => if c == '?' || c == '&' then queryName s ++ queryNames s else queryNames s
where
  queryName (s : List Char) : List (List Char) :=
    let name := Cut.run Text.isWord s
    if !name.found.isEmpty && name.rest.head? == some '=' then [name.found] else []

/-- The length of a value after a colon, with the blanks before it; zero, if there is none. -/
def valueLength (s : List Char) : Nat :=
  let gap := Cut.run Text.isBlank s
  let value := Cut.run (fun c => isInk c && c != ',') gap.rest
  if value.found.isEmpty then 0 else gap.found.length + value.found.length

/-- The names with a value, after the first `skip` characters. -/
def valueNamesFrom (skip : Nat) : List Char → List (List Char)
  | [] => []
  | c :: s =>
    if 0 < skip then valueNamesFrom (skip - 1) s
    else
      let name := Cut.run Text.isWord (c :: s)
      match name.found, name.rest with
      | [], _ => valueNamesFrom 0 s
      | _ :: more, ':' :: rest =>
        match valueLength rest with
        | 0 => valueNamesFrom more.length s
        | n => name.found :: valueNamesFrom (more.length + 1 + n) s
      | _ :: more, _ => valueNamesFrom more.length s

/-- The names with a colon and a value. -/
def valueNames (s : List Char) : List (List Char) := valueNamesFrom 0 s

/-- The words before a colon that name no parameter. -/
def isNoParam (name : List Char) : Bool :=
  let name := Text.lower name
  (Method.all.any fun m => Text.lower m.name.toList == name) || name == "http".toList ||
    name == "https".toList

/-- A parameter that a text mentions. -/
def mentioned (location : Location) (name : List Char) : Param :=
  { name := .ofList name, location, example? := .text "" }

/-- The parameters without those whose name has been met. -/
def firstOfName (met : List String) : List Param → List Param
  | [] => []
  | p :: ps => if met.contains p.name then firstOfName met ps else p :: firstOfName (p.name :: met) ps

/-- The parameters that a text mentions (`extract_parameters`), each name once. -/
def params (s : List Char) : List Param :=
  firstOfName [] ((Text.templateNames s).map (mentioned .path) ++
    (queryNames s).map (mentioned .query) ++
    ((valueNames s).filter (!isNoParam ·)).map (mentioned .query))

end ClientForge.Page
