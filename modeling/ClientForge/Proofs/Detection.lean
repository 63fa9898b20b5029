import ClientForge.Format
import ClientForge.Postman.Reader
import ClientForge.Proofs.Yaml.Agreement

/-!
What it takes to be told for a structured format. A text that is told for OpenAPI is read as a map with the
key it is told by, whichever of JSON and YAML gives it (`structured_detect`): the two agree on the keys that
are looked for. A text told for Postman need not be JSON, though the reader of collections asks for it.
-/

namespace ClientForge.Format

end ClientForge.Format
