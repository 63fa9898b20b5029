import ClientForge.Html.Tree

/-!
Questions about a tree: the text of a node, and the nodes of a kind with what surrounds them.
-/

namespace ClientForge.Html

/-! ## Text -/

/-- Is a piece of text of `kind` part of the text of an element? Elements whose text is secluded have
their own kind alone, all others what the page shows. -/
def showsText (element : String) (kind : TextKind) : Bool :=
  if secludedElements.contains element then kind == .inside element
  else kind == .plain || kind == .cdata

mutual

/-- The pieces of text in a node, in order. -/
def Node.pieces : Node → List (TextKind × String)
  | .text kind s => [(kind, s)]
  | .element _ _ children => piecesOf children
termination_by structural n => n

def piecesOf : List Node → List (TextKind × String)
  | [] => []
  | n :: ns => n.pieces ++ piecesOf ns
termination_by structural ns => ns

end

/-- An element, or the document. -/
structure Element where
  /-- The name; empty for the document. -/
  name : String
  attributes : List (String × String)
  children : List Node
deriving Repr

namespace Element

def document (nodes : List Node) : Element := ⟨"", [], nodes⟩

/-- The pieces of text of an element. -/
def texts (e : Element) : List String :=
  (piecesOf e.children).filterMap fun (kind, s) => if showsText e.name kind then some s else none

/-- The text of an element, with `sep` between its pieces. -/
def textWith (e : Element) (sep : String) : String := sep.intercalate e.texts

/-- The text of an element without blanks around its pieces, with `sep` between those that are not
empty. -/
def trimmedText (e : Element) (sep : String) : String :=
  sep.intercalate ((e.texts.map String.trimBlank).filter (!·.isEmpty))

def attribute? (e : Element) (name : String) : Option String := e.attributes.lookup name

/-- The words of the class attribute. -/
def classes (e : Element) : List String :=
  match e.attribute? "class" with
  | none => []
  | some s => (splitBlank s.toList).map String.ofList
where
  splitBlank (s : List Char) : List (List Char) :=
    (s.splitBy fun a b => Text.isBlank a == Text.isBlank b).filter fun w => !w.all Text.isBlank

end Element

/-! ## Nodes in their places -/

/-- A node with the element around it and the nodes beside it, in the order of their distance. -/
structure Located where
  node : Node
  parent : Element
  after : List Node
  before : List Node

mutual

/-- A node and all nodes inside it, each with its place. -/
def Node.located (parent : Element) (before after : List Node) : Node → List Located
  | .text kind s => [⟨.text kind s, parent, after, before⟩]
  | .element name as children =>
    ⟨.element name as children, parent, after, before⟩ ::
      locatedIn ⟨name, as, children⟩ [] children
termination_by structural n => n

def locatedIn (parent : Element) (before : List Node) : List Node → List Located
  | [] => []
  | n :: ns => n.located parent before ns ++ locatedIn parent (n :: before) ns
termination_by structural ns => ns

end

/-- The nodes of a document in order, each with its place. -/
def allNodes (nodes : List Node) : List Located := locatedIn (.document nodes) [] nodes

/-- The element, if the node is one. -/
def Node.element? : Node → Option Element
  | .element name as children => some ⟨name, as, children⟩
  | .text _ _ => none

/-- The elements that satisfy `p`, with their places. -/
def elementsWhere (p : Element → Bool) (all : List Located) : List (Element × Located) :=
  all.filterMap fun l => (l.node.element?.filter p).map (·, l)

/-- The elements of one of some names. -/
def elementsNamed (names : List String) (all : List Located) : List (Element × Located) :=
  elementsWhere (names.contains ·.name) all

/-- The first element of a name. -/
def first? (name : String) (all : List Located) : Option Element :=
  ((elementsNamed [name] all).head?).map (·.1)

end ClientForge.Html
