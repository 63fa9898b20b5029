import ClientForge.Text.Blank
import ClientForge.Text.Case
import ClientForge.Text.Word
import ClientForge.Text.Search
import ClientForge.Text.Line
import ClientForge.Text.Quoted
import ClientForge.Decimal.Notation
import ClientForge.Value.Json
import ClientForge.Yaml.Reader
import ClientForge.Html.Query
import ClientForge.Api.Reader
import ClientForge.Api.Writer
import ClientForge.Value.Access
import ClientForge.Reference
import ClientForge.Url
import ClientForge.Json.Reader
import ClientForge.Json.Writer
import ClientForge.Keyed
import ClientForge.Format
import ClientForge.Api.Part
import ClientForge.OpenApi.Reader
import ClientForge.Postman.Reader
import ClientForge.Source
import ClientForge.Client.Project
import ClientForge.Selection
import ClientForge.Command.Run
import ClientForge.Main
import ClientForge.Proofs.Words
import ClientForge.Proofs.Casing
import ClientForge.Proofs.Identifiers
import ClientForge.Proofs.MethodNames
import ClientForge.Proofs.Endpoints
import ClientForge.Proofs.Keyed
import ClientForge.Proofs.SavedModel
import ClientForge.Proofs.Steps
import ClientForge.Proofs.References.Substitution
import ClientForge.Proofs.Failures.Formats
import ClientForge.Proofs.Pages.Reading
import ClientForge.Proofs.Pages.Paths
import ClientForge.Proofs.Runs
import ClientForge.Proofs.Client.Agreement
import ClientForge.Proofs.Client.Idents
import ClientForge.Proofs.Client.SignatureForm
import ClientForge.Proofs.Client.Signatures
import ClientForge.Proofs.Client.Environment
import ClientForge.Proofs.Client.LegalNames
import ClientForge.Proofs.Client.Clashes
import ClientForge.Proofs.Client.Tests
import ClientForge.Proofs.Client.TestNames
import ClientForge.Proofs.Client.Parameters
import ClientForge.Proofs.Client.Literals
import ClientForge.Proofs.Client.Escapes
import ClientForge.Proofs.OperationIds
import ClientForge.Proofs.Renaming
import ClientForge.Proofs.Operations
import ClientForge.Proofs.Collections
import ClientForge.Proofs.Detection
import ClientForge.Proofs.Pointers
import ClientForge.Proofs.Client.Manifests
import ClientForge.Proofs.Declarations
import ClientForge.Proofs.Placeholders
import ClientForge.Proofs.Consistency
import ClientForge.Proofs.Addresses
import ClientForge.Proofs.Variables
import ClientForge.Proofs.Selections
