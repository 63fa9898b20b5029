import ClientForge.Format
import ClientForge.OpenApi.Reader
import ClientForge.Page.Reader
import ClientForge.Postman.Reader

/-!
Reading documentation of any format (`parse`, by its `NORMALIZERS`).
-/

namespace ClientForge

/-- The API that a text of a format describes (`parse`). -/
def Format.read (f : Format) (text : String) : Traced Api :=
  match f with
  | .openApi => OpenApi.read text
  | .postman => Postman.read text
  | .html => Page.read text

end ClientForge
