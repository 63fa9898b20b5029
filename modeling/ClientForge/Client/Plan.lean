import ClientForge.Client.Target
import ClientForge.Traced
import ClientForge.Value.Access

/-!
The plan of a client: its methods with their arguments, under the names that they have in a target
language. `ClientPlan.ofApi` is what the plan of any API comes to, and `ClientPlan.build` makes it
(`build_client_spec`), which fails where the text of an example cannot be displayed.
-/

namespace ClientForge

/-- Where an argument of a method goes. -/
inductive Place where
  | path
  | query
  | body
deriving DecidableEq, Repr, Inhabited

def Place.name : Place → String
  | path => "path"
  | query => "query"
  | body => "body"

/-- An argument of a method (`ParamSpec`). -/
structure Argument where
  /-- The name in requests. -/
  name : String
  /-- The name in the signature. -/
  ident : String
  place : Place
  required : Bool := false
  type : String := "string"
  description : String := ""
  /-- The text of an example value. -/
  sample : String := ""
deriving DecidableEq, Repr, Inhabited

/-- How a body is put into bytes. -/
inductive Encoding where
  | json
  | form
  | raw
deriving DecidableEq, Repr, Inhabited

namespace Encoding

def name : Encoding → String
  | json => "json"
  | form => "form"
  | raw => "raw"

/-- The encoding for a media type, whatever its settings and its case. -/
def ofMediaType (mediaType : String) : Encoding :=
  let essence := Text.lower (Text.trim (Text.upTo ';' mediaType.toList))
  let endsWith (s : String) : Bool := s.toList.isSuffixOf essence
  if endsWith "/json" || endsWith "+json" then json
  else if essence = "application/x-www-form-urlencoded".toList then form
  else raw

end Encoding

/-- The body of a method. -/
structure Payload where
  argument : Argument
  encoding : Encoding
  mediaType : String
deriving DecidableEq, Repr, Inhabited

/-- A method of a client (`MethodSpec`). -/
structure MethodPlan where
  name : String
  verb : Method
  path : String
  summary : String
  pathArgs : List Argument := []
  queryArgs : List Argument := []
  body : Option Payload := none
  /-- The status codes and descriptions of the responses. -/
  responses : List (String × String) := []
deriving DecidableEq, Repr, Inhabited

/-- The arguments in the order of the signature. -/
def MethodPlan.arguments (m : MethodPlan) : List Argument :=
  m.pathArgs ++ m.queryArgs ++ (m.body.map (·.argument)).toList

/-- A client (`ClientSpec`). -/
structure ClientPlan where
  title : String
  slug : String
  version : String
  description : String
  baseUrl : String
  scheme : Scheme
  methods : List MethodPlan
deriving DecidableEq, Repr, Inhabited

/-! ## Arguments -/

/-- The text of an example (`_example_value`): the declared one, unless it is a collection or empty, else the
first of the choices. -/
def Param.sample (p : Param) : String :=
  let own :=
    match p.example? with
    | .null | .list _ | .map _ => ""
    | v => v.display
  if own != "" then own
  else
    match p.choices with
    | some (v :: _) => v.display
    | _ => "1"

/-- The argument of a parameter (`from_param`), not named yet. -/
def Argument.ofParam (p : Param) (place : Place) : Argument :=
  { name := p.name, ident := "", place, required := place == .path || p.required, type := p.type,
    description := p.description, sample := p.sample }

/-- The argument of a body, not named yet. -/
def Argument.ofBody (b : Body) : Argument :=
  { name := "body", ident := "", place := .body, required := b.required, type := "object" }

/-- The name with the least number from two on that makes it other than those taken, if it is one of
them. -/
def fresh (taken : List (List Char)) (name : List Char) : List Char :=
  if taken.contains name then freeName taken name else name

/-- Name the arguments in order (`param_spec`), each different from those before it. -/
def nameArguments (t : Target) (taken : List (List Char)) : List Argument → List Argument
  | [] => []
  | a :: as =>
    let ident := fresh taken (t.paramName a.name.toList)
    { a with ident := .ofList ident } :: nameArguments t (ident :: taken) as

/-- The arguments of requests to an endpoint, named. -/
def Endpoint.arguments (t : Target) (e : Endpoint) : List Argument :=
  nameArguments t [] (
    (e.paramsIn .path).map (Argument.ofParam · .path) ++
    (e.paramsIn .query).map (Argument.ofParam · .query) ++
    (e.sentBody.map Argument.ofBody).toList)

/-! ## Methods -/

/-- The first text that is not empty, or else the last. -/
def firstFilled (texts : List String) (other : String) : String := (texts.find? (· != "")).getD other

/-- The method for an endpoint under a name (`_build_method`). -/
def MethodPlan.ofEndpoint (t : Target) (name : String) (e : Endpoint) : MethodPlan :=
  let args := e.arguments t
  let at' (p : Place) : List Argument := args.filter (·.place == p)
  { name
    verb := e.method
    path := e.path
    summary := firstFilled [e.summary, e.description] (e.method.name ++ " " ++ e.path)
    pathArgs := at' .path
    queryArgs := at' .query
    body := do
      let b ← e.sentBody
      let argument ← (at' .body).head?
      return { argument, encoding := .ofMediaType b.mediaType, mediaType := b.mediaType }
    responses := e.responses.map fun r => (r.1, r.2.description) }

/-- The name that an endpoint asks for: that of its operation id, or one of its verb and path. -/
def Endpoint.baseName (t : Target) (e : Endpoint) : List Char :=
  match t.methodName e.operationId.toList with
  | [] => t.methodName (derivedIdentifier e.method.name.toList e.path.toList)
  | name => name

/-- The name with the least number from two on that makes its key other than those taken, if it is one
of them. -/
def freshMethod (t : Target) (taken : List (List Char)) (name : List Char) : List Char :=
  let isTaken (s : List Char) : Bool := taken.contains (t.methodKey s)
  if isTaken name then numbered name (freeNumber isTaken name 2 taken.length) else name

/-- The names of methods, each of another key than those before it. -/
def methodNames (t : Target) (taken : List (List Char)) : List Endpoint → List (List Char)
  | [] => []
  | e :: es =>
    let name := freshMethod t taken (e.baseName t)
    name :: methodNames t (t.methodKey name :: taken) es

/-- The plan of a client for an API. -/
def ClientPlan.ofApi (t : Target) (api : Api) : ClientPlan :=
  { title := firstFilled [api.title] "API"
    slug := .ofList (ClientForge.slug api.title.toList "api".toList)
    version := api.version
    description := api.description
    baseUrl := api.baseUrl
    scheme := api.auth.scheme
    methods := (methodNames t [] api.endpoints).zipWith
      (fun name e => .ofEndpoint t (.ofList name) e) api.endpoints }

/-! ## Making a plan -/

/-- May the value be the example that is shown? Nothing, lists and maps may not. -/
def Value.mayShow : Value → Bool
  | null | list _ | map _ => false
  | _ => true

/-- The text of the first choice, if it can be displayed. -/
def Param.shownChoice (p : Param) : Except Failure String :=
  match p.choices with
  | some (v :: _) => v.shown
  | _ => .ok "1"

/-- The text of an example, if it can be displayed. -/
def Param.shownSample (p : Param) : Except Failure String :=
  if p.example?.mayShow then do
    let own ← p.example?.shown
    if own != "" then return own else p.shownChoice
  else p.shownChoice

/-- The texts of the examples of all parameters that calls are made with have to be displayed. -/
def Endpoint.showSamples (e : Endpoint) : Except Failure Unit :=
  (e.paramsIn .path ++ e.paramsIn .query).forM fun p => p.shownSample.map fun _ => ()

/-- The note on a method that does not get the name that it asks for. -/
def Target.noteName (t : Target) (e : Endpoint) (m : MethodPlan) : Traced Unit :=
  let base : String := .ofList (e.baseName t)
  if base = m.name then pure ()
  else
    Traced.note .debug .generation ("Method name " ++ base ++ " already used in " ++ t.name ++
      " client, using " ++ m.name)

/-- Make the plan of a client (`build_client_spec`), with notes, method by method. It is not made, if the text of an
example cannot be displayed. -/
def ClientPlan.build (t : Target) (api : Api) : Traced ClientPlan := do
  let plan := ofApi t api
  (api.endpoints.zip plan.methods).forM fun (e, m) => do
    t.noteName e m
    e.showSamples
  return plan

/-! ## Example calls -/

/-- May calls leave out the last arguments? -/
def Target.omitsTrailing : Target → Bool
  | node | python | php => true
  | go | java => false

/-- What a call passes for nothing. -/
def Target.nothing : Target → Place → String
  | node, _ => "undefined"
  | python, _ => "None"
  | go, .query => "\"\""
  | go, _ => "nil"
  | java, _ | php, _ => "null"

/-- An argument of an example call (`Renderer.example_arg`). -/
def Argument.call (t : Target) (a : Argument) : String :=
  match a.place with
  | .path => t.literal a.sample
  | p => t.nothing p

/-- The arguments of an example call (`Renderer.example_args`). -/
def MethodPlan.exampleArgs (t : Target) (m : MethodPlan) : List String :=
  (if t.omitsTrailing then m.pathArgs else m.arguments).map (·.call t)

end ClientForge
