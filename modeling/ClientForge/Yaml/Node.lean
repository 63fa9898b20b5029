import ClientForge.Yaml.Tag
import ClientForge.Yaml.Token

/-!
Nodes (`Parser`, `Composer`): the scalars and collections of a document, with their tags, read from its tokens. An
alias is replaced by the node it names.
-/

namespace ClientForge.Yaml

/-- A scalar or a collection. -/
inductive Node where
  | scalar (tag : Tag) (text : String)
  | sequence (tag : Tag) (items : List Node)
  | mapping (tag : Tag) (entries : List (Node × Node))
  /-- An alias inside the collection that it names. -/
  | again (name : String)
deriving Repr, Inhabited

namespace Node

/-- The tag; an alias inside the collection that it names has none that counts. -/
def tag : Node → Tag
  | scalar t _ | sequence t _ | mapping t _ => t
  | again _ => .unknown

/-- A scalar where the text has nothing. -/
def empty : Node := .scalar .null ""

/-- The node, but nothing where it is the mapping of the name again. -/
def cutAt (a : String) : Node → Node
  | again b => if a = b then .mapping .mapping [] else .again b
  | n => n

/-- The entries of a named mapping. What it includes from itself it has anyway. -/
def ownEntries (anchor : Option String) (es : List (Node × Node)) : List (Node × Node) :=
  match anchor with
  | none => es
  | some a => es.map fun (k, v) =>
    if k.tag = .merge then
      match v with
      | .sequence t xs => (k, .sequence t (xs.map (cutAt a)))
      | v => (k, v.cutAt a)
    else (k, v)

end Node

/-- What is left to read: the tokens, the named nodes, and the tag handles of the document. -/
structure Remaining where
  tokens : List Token
  names : List (String × Node)
  handles : List (String × String)

/-- Reading from tokens. -/
abbrev Parse := StateT Remaining (Except Fault)

namespace Parse

def peek : Parse Token := return (← get).tokens.headD .done

def drop : Parse Unit := modify fun r => { r with tokens := r.tokens.tail }

/-- The token that comes next may not stand here. -/
def refuse {α : Type} : Parse α := do
  match ← peek with
  | .broken f => throw f
  | _ => throw .malformed

/-- Take the token, which has to come next. -/
def expect (t : Token) : Parse Unit := do
  if (← peek) = t then drop else refuse

/-- Name a node. -/
def name (anchor : Option String) (n : Node) : Parse Unit :=
  match anchor with
  | some a => modify fun r => { r with names := (a, n) :: r.names }
  | none => return ()

/-- Each name is given once. -/
def newName (anchor : Option String) : Parse Unit := do
  let names := (← get).names
  if anchor.any fun a => (names.lookup a).isSome then throw .malformed

/-- The full name of a tag. -/
def fullTag (handle : Option String) (suffix : String) : Parse String := do
  match handle with
  | none => return suffix
  | some h =>
    match (← get).handles.lookup h with
    | some uri => return uri ++ suffix
    | none => throw .malformed

/-- The anchor that may come next. -/
def anchor? : Parse (Option String) := do
  match ← peek with
  | .anchor a => drop; return some a
  | _ => return none

/-- The tag that may come next. -/
def tag? : Parse (Option (Option String × String)) := do
  match ← peek with
  | .tag h s => drop; return some (h, s)
  | _ => return none

/-- The anchor and the full tag before a node, in either order. -/
def properties : Parse (Option String × Option String) := do
  let anchor ← anchor?
  let tag ← tag?
  let anchor ← if anchor.isNone && tag.isSome then anchor? else pure anchor
  match tag with
  | some (h, s) => return (anchor, some (← fullTag h s))
  | none => return (anchor, none)

/-- The tag of a scalar. The tag of one exclamation mark leaves the choice to the spelling. -/
def scalarTag (tag : Option String) (text : String) (plain : Bool) : Tag :=
  match tag with
  | none => if plain then .ofPlain text.toList else .text
  | some "!" => .ofPlain text.toList
  | some t => .ofName t

/-- The tag of a collection whose own kind is `kind`. -/
def collectionTag (tag : Option String) (kind : Tag) : Tag :=
  match tag with
  | none | some "!" => kind
  | some t => .ofName t

/-- Name a collection whose content is still to be read. -/
def nameOpen (anchor : Option String) : Parse Unit := name anchor (.again (anchor.getD ""))

/-- A collection with its name, which its content may refer to. -/
def collection {α : Type} (anchor : Option String) (content : Parse α) (make : α → Node) :
    Parse Node := do
  newName anchor
  drop
  nameOpen anchor
  let node := make (← content)
  name anchor node
  return node

/-- A node without content: it needs an anchor or a tag. -/
def emptyNode (anchor tag : Option String) : Parse Node := do
  if anchor.isNone && tag.isNone then refuse
  else
    newName anchor
    let n : Node := .scalar (scalarTag tag "" true) ""
    name anchor n
    return n

mutual

/-- A node. `inBlock` says whether collections in block style may stand here, `flush` whether the
entries of a sequence may stand without indentation. -/
def node (inBlock flush : Bool) : Nat → Parse Node
  | 0 => refuse
  | fuel + 1 => do
    match ← peek with
    | .alias a =>
      drop
      match (← get).names.lookup a with
      | some n => return n
      | none => throw .malformed
    | _ =>
      let (anchor, tag) ← properties
      let sequence (xs : List Node) : Node := .sequence (collectionTag tag .sequence) xs
      let mapping (es : List (Node × Node)) : Node :=
        .mapping (collectionTag tag .mapping) (Node.ownEntries anchor es)
      match ← peek with
      | .dash =>
        if flush then
          newName anchor
          nameOpen anchor
          let n := sequence (← dashes false fuel)
          name anchor n
          return n
        else emptyNode anchor tag
      | .scalar text plain =>
        newName anchor
        drop
        let n : Node := .scalar (scalarTag tag text plain) text
        name anchor n
        return n
      | .openBracket => collection anchor (bracketItems true fuel) sequence
      | .openBrace => collection anchor (braceEntries true fuel) mapping
      | .blockSequence =>
        if inBlock then collection anchor (dashes true fuel) sequence else emptyNode anchor tag
      | .blockMapping =>
        if inBlock then collection anchor (blockEntries fuel) mapping else emptyNode anchor tag
      | _ => emptyNode anchor tag
termination_by structural fuel => fuel

/-- The items after dashes. A closed sequence ends with its own token, one without indentation
before the first other token. -/
def dashes (closed : Bool) : Nat → Parse (List Node)
  | 0 => refuse
  | fuel + 1 => do
    match ← peek with
    | .dash =>
      drop
      let item ← (do
        match ← peek with
        | .dash | .blockEnd => return .empty
        | .key | .colon => if closed then node true false fuel else return .empty
        | _ => node true false fuel)
      return item :: (← dashes closed fuel)
    | _ => if closed then do expect .blockEnd; return [] else return []
termination_by structural fuel => fuel

/-- The entries of a mapping in block style. -/
def blockEntries : Nat → Parse (List (Node × Node))
  | 0 => refuse
  | fuel + 1 => do
    match ← peek with
    | .key =>
      drop
      let k ← blockPart fuel
      let v ← (do
        match ← peek with
        | .colon => drop; blockPart fuel
        | _ => return .empty)
      return (k, v) :: (← blockEntries fuel)
    | _ => expect .blockEnd; return []
termination_by structural fuel => fuel

/-- A key or a value of a mapping in block style. -/
def blockPart : Nat → Parse Node
  | 0 => refuse
  | fuel + 1 => do
    match ← peek with
    | .key | .colon | .blockEnd => return .empty
    | _ => node true true fuel
termination_by structural fuel => fuel

/-- The items of a sequence in brackets. An item may be a mapping of one entry. -/
def bracketItems (first : Bool) : Nat → Parse (List Node)
  | 0 => refuse
  | fuel + 1 => do
    if (← peek) = .closeBracket then drop; return []
    else
      if !first then expect .comma
      match ← peek with
      | .closeBracket => drop; return []
      | .key =>
        drop
        let k ← flowPart .closeBracket fuel
        let v ← flowValue .closeBracket fuel
        return .mapping .mapping [(k, v)] :: (← bracketItems false fuel)
      | _ =>
        let item ← node false false fuel
        return item :: (← bracketItems false fuel)
termination_by structural fuel => fuel

/-- The entries of a mapping in braces. A key may stand alone. -/
def braceEntries (first : Bool) : Nat → Parse (List (Node × Node))
  | 0 => refuse
  | fuel + 1 => do
    if (← peek) = .closeBrace then drop; return []
    else
      if !first then expect .comma
      match ← peek with
      | .closeBrace => drop; return []
      | .key =>
        drop
        let k ← flowPart .closeBrace fuel
        let v ← flowValue .closeBrace fuel
        return (k, v) :: (← braceEntries false fuel)
      | _ =>
        let k ← node false false fuel
        return (k, .empty) :: (← braceEntries false fuel)
termination_by structural fuel => fuel

/-- A key in flow style, which may be missing. -/
def flowPart (close : Token) : Nat → Parse Node
  | 0 => refuse
  | fuel + 1 => do
    let t ← peek
    if t = .colon || t = .comma || t = close then return .empty else node false false fuel
termination_by structural fuel => fuel

/-- A colon and a value in flow style, both of which may be missing. -/
def flowValue (close : Token) : Nat → Parse Node
  | 0 => refuse
  | fuel + 1 => do
    if (← peek) = .colon then
      drop
      let t ← peek
      if t = .comma || t = close then return .empty else node false false fuel
    else return .empty
termination_by structural fuel => fuel

end

/-! ## Documents -/

/-- The directives before a document: at most one version, which is 1 and a minor number, and
each tag handle once. -/
def directives (versioned : Bool) (handles : List (String × String)) :
    List Token → Except Fault (List (String × String) × List Token)
  | .version major :: ts =>
    if versioned || major ≠ 1 then .error .malformed else directives true handles ts
  | .handle h uri :: ts =>
    if (handles.lookup h).isSome then .error .malformed
    else directives versioned ((h, uri) :: handles) ts
  | .remark :: ts => directives versioned handles ts
  | ts => .ok (handles, ts)

/-- The handles of every document. -/
def knownHandles : List (String × String) := [("!", "!"), ("!!", "tag:yaml.org,2002:")]

/-- The tokens without the document ends at the front. -/
def dropEnds : List Token → List Token
  | .documentEnd :: ts => dropEnds ts
  | ts => ts

/-- Nothing but document ends may follow the one document. -/
def finish : Parse Unit := do
  modify fun r => { r with tokens := dropEnds r.tokens }
  if (← peek) = .done then return () else refuse

/-- The content of the one document of a text; nothing, if the text has no document. -/
def document (fuel : Nat) : Parse (Option Node) := do
  match ← peek with
  | .done => return none
  | .version _ | .handle _ _ | .remark | .documentStart => do
    match directives false [] (← get).tokens with
    | .error f => throw f
    | .ok (handles, tokens) =>
      modify fun r => { r with tokens, handles := handles ++ knownHandles }
      expect .documentStart
      match ← peek with
      | .version _ | .handle _ _ | .remark | .documentStart | .documentEnd | .done =>
        finish
        return some .empty
      | _ =>
        let n ← node true false fuel
        finish
        return some n
  | _ =>
    let n ← node true false fuel
    finish
    return some n

end Parse

/-- The one document that the tokens hold. -/
def Node.ofTokens (ts : List Token) : Except Fault (Option Node) :=
  (Parse.document (2 * ts.length + 2) ⟨ts, [], Parse.knownHandles⟩).map (·.1)

end ClientForge.Yaml
