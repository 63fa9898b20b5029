import ClientForge.Document
import ClientForge.OpenApi.Operation
import ClientForge.OpenApi.Security
import ClientForge.OpenApi.Server
import ClientForge.Reference

/-!
Reading an OpenAPI document of the second or third version (`OpenApiNormalizer.normalize`).

A document that holds itself has references without end. What it comes to is told before its references are
looked at, so that it counts more than a reference that leads nowhere.
-/

namespace ClientForge.OpenApi

/-- The API of a document without references. -/
def ofDocument (doc : Value) : Traced Api := do
  let info ← (← doc.member "info").entriesOf "info"
  let es := doc.entries?.getD []
  let url ← baseUrl es
  let auth ← auth es
  let version ← ((Entries.get info "version").orElse (.text "1.0.0")).shown
  let endpoints ← endpoints es
  let endpoints ← Endpoint.renamed endpoints
  Api.make url auth ((Entries.get info "title").orElse (.text "API")) version
    ((Entries.get info "description").orElse (.text "")) endpoints

/-- The API that a text describes (`OpenApiNormalizer.normalize`). -/
def read (text : String) : Traced Api := do
  let doc ← Document.entries text
  if !Entries.has doc "openapi" && !Entries.has doc "swagger" then
    throw (.refused "Not an OpenAPI document: missing 'openapi' or 'swagger' version field")
  if Reference.isEndless (.map doc) then throw (.broken .tooGreat)
  ofDocument (← Reference.resolve (.map doc))

end ClientForge.OpenApi
