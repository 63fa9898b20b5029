import ClientForge.Value.Basic
import ClientForge.Identifier

/-!
What an API offers (`ApiDescription`): its endpoints with their parameters, bodies and responses, and how a
client proves who it is.
-/

namespace ClientForge

/-- The verbs of requests. -/
inductive Method where
  | get
  | post
  | put
  | patch
  | delete
  | head
  | options
deriving DecidableEq, Repr, Inhabited

namespace Method

def all : List Method := [get, post, put, patch, delete, head, options]

def name : Method → String
  | get => "GET"
  | post => "POST"
  | put => "PUT"
  | patch => "PATCH"
  | delete => "DELETE"
  | head => "HEAD"
  | options => "OPTIONS"

/-- The verb of a name in capitals. -/
def ofName? (s : String) : Option Method := all.find? (·.name == s)

/-- Do requests of the verb carry a body? -/
def allowsBody : Method → Bool
  | get | delete => false
  | _ => true

end Method

/-- Where a parameter stands in a request. -/
inductive Location where
  | path
  | query
  | header
deriving DecidableEq, Repr, Inhabited

namespace Location

def all : List Location := [path, query, header]

def name : Location → String
  | path => "path"
  | query => "query"
  | header => "header"

def ofName? (s : String) : Option Location := all.find? (·.name == s)

end Location

/-- What a payload looks like (`SchemaSketch`), in outline. -/
structure Sketch where
  type : Option String := none
  properties : List (String × Value) := []
  required : List String := []
  example? : Value := .null
deriving Repr, BEq, Inhabited

/-- A parameter of a request. -/
structure Param where
  name : String
  location : Location
  required : Bool := false
  type : String := "string"
  description : String := ""
  example? : Value := .null
  format : Option String := none
  choices : Option (List Value) := none
deriving Repr, BEq, Inhabited

/-- The media type of a payload that names none. -/
def defaultMediaType : String := "application/json"

/-- The payload of a request. -/
structure Body where
  required : Bool := false
  mediaType : String := defaultMediaType
  sketch : Sketch := {}
deriving Repr, BEq, Inhabited

/-- An answer to a request. -/
structure Response where
  description : String := ""
  mediaType : String := defaultMediaType
  sketch : Option Sketch := none
deriving Repr, BEq, Inhabited

/-- The header that carries a key, where no other is named. -/
def defaultKeyHeader : String := "X-API-Key"

/-- The header that carries other credentials. -/
def credentialHeader : String := "Authorization"

/-- Where a key stands in a request. -/
inductive KeyPlace where
  | header
  | query
deriving DecidableEq, Repr, Inhabited

namespace KeyPlace

def all : List KeyPlace := [header, query]

def name : KeyPlace → String
  | header => "header"
  | query => "query"

def ofName? (s : String) : Option KeyPlace := all.find? (·.name == s)

end KeyPlace

/-- How a client proves who it is, with the name of what carries the proof. -/
inductive Scheme where
  | none
  | bearer (name : String)
  | apiKey (name : String) (place : KeyPlace)
  | basic (name : String)
  | oauth2 (name : String)
deriving DecidableEq, Repr, Inhabited

/-- The kind of a scheme. -/
def Scheme.kind : Scheme → String
  | none => "none"
  | bearer _ => "bearer"
  | apiKey _ _ => "apiKey"
  | basic _ => "basic"
  | oauth2 _ => "oauth2"

/-- The kinds of schemes. -/
def Scheme.kinds : List String := ["none", "bearer", "apiKey", "basic", "oauth2"]

/-- The header of a key. -/
def Scheme.keyHeader : Scheme → String
  | apiKey name _ => name
  | _ => defaultKeyHeader

/-- How a client proves who it is. -/
structure Auth where
  scheme : Scheme := .none
  description : Option String := none
deriving DecidableEq, Repr, Inhabited

/-- A request that the API answers (`ApiEndpoint`). -/
structure Endpoint where
  method : Method
  path : String
  operationId : String
  summary : String := ""
  description : String := ""
  parameters : List Param := []
  body : Option Body := none
  responses : List (String × Response) := []
  security : List (List (String × Value)) := []
  tags : List String := []
deriving Repr, BEq, Inhabited

namespace Endpoint

/-- The parameters for a place (`params_in`). -/
def paramsIn (e : Endpoint) (l : Location) : List Param := e.parameters.filter (·.location == l)

/-- The body that a client sends. -/
def sentBody (e : Endpoint) : Option Body := if e.method.allowsBody then e.body else none

/-- Does a client send a body (`has_body`)? -/
def hasBody (e : Endpoint) : Bool := e.sentBody.isSome

/-- The operation ids made different by numbers. -/
def withDistinctIds (es : List Endpoint) : List Endpoint :=
  let ids := distinct (es.map (·.operationId.toList))
  es.zipWith (fun e id => { e with operationId := .ofList id }) ids

end Endpoint

/-- An API. -/
structure Api where
  baseUrl : String := ""
  auth : Auth := {}
  title : String := "API"
  version : String := "1.0.0"
  description : String := ""
  endpoints : List Endpoint := []
deriving Repr, BEq, Inhabited

end ClientForge
