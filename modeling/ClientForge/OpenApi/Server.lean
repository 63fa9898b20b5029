import ClientForge.Text.Blank
import ClientForge.Text.Template
import ClientForge.Value.Access

/-!
The address of the server that an OpenAPI document describes (`_base_url`).
-/

namespace ClientForge.OpenApi

/-- What stands for a part of the address: for a variable, its default. -/
def partText (defaults : Entries) : Text.TemplatePart → Except Failure (List Char)
  | .plain c => .ok [c]
  | .name n =>
    let v := Entries.get defaults (.ofList n)
    let itself : Value := .text (.ofList (Text.braced n))
    if !v.truthy then itself.shown.map String.toList
    else
      match v with
      | .map es => ((Entries.get? es "default").getD itself).shown.map String.toList
      | _ => .error (.broken .noMembers)

/-- The address of a server, with the defaults of its variables. -/
def serverUrl (server : Entries) : Except Failure String := do
  let defaults ← (Entries.get server "variables").entriesOf "server variables"
  let url ← (Entries.get server "url").asText
  let parts ← (Text.templateParts url.toList).mapM (partText defaults)
  return .ofList parts.flatten

/-- The address made of a scheme, a host and a path. -/
def hostUrl (doc : Entries) : Except Failure String := do
  let host := Entries.get doc "host"
  if !host.truthy then return ""
  let scheme ← (Entries.get doc "schemes").firstOr (.text "https")
  let path := (Entries.get? doc "basePath").getD (.text "")
  let url := (← scheme.shown) ++ "://" ++ (← host.shown) ++ (← path.shown)
  return .ofList (Text.stripRightBy (· == '/') url.toList)

/-- The entries of the first server, if it has an address. -/
def firstServer? (doc : Entries) : Except Failure (Option Entries) := do
  let servers := Entries.get doc "servers"
  if !servers.truthy then return none
  match ← servers.first with
  | .map es => return if (Entries.get es "url").truthy then some es else none
  | _ => return none

/-- The address of the server. -/
def baseUrl (doc : Entries) : Except Failure String := do
  match ← firstServer? doc with
  | some server => serverUrl server
  | none => hostUrl doc

end ClientForge.OpenApi
