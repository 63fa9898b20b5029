import ClientForge.Decimal.Double

/-!
JSON values. The members of an object keep their order.
-/

namespace ClientForge

/-- A JSON value. Numbers without fraction and exponent are integers. -/
inductive Json where
  | null
  | bool (b : Bool)
  | int (n : Int)
  | float (x : Double)
  | text (s : String)
  | array (items : List Json)
  | object (members : List (String × Json))
deriving Repr, BEq, Inhabited

namespace Json

/-- Put a member into an object. A name that is there keeps its place and takes the new value. -/
def put (name : String) (value : Json) : List (String × Json) → List (String × Json)
  | [] => [(name, value)]
  | (n, v) :: ms => if n = name then (n, value) :: ms else (n, v) :: put name value ms

end Json

end ClientForge
