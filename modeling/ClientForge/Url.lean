import ClientForge.Text.Case
import ClientForge.Text.Search

/-!
The parts of a web address (`urlsplit`).
-/

namespace ClientForge

/-- A web address: what stands before the colon, between the two slashes and the next sign, and
after that up to the query. -/
structure Url where
  scheme : List Char
  host : List Char
  path : List Char
deriving Repr, DecidableEq

namespace Url

/-- The characters of a scheme. -/
def isSchemeChar (c : Char) : Bool := c.isAlphanum || c == '+' || c == '-' || c == '.'

/-- The scheme and what follows its colon; no scheme, if the address does not start with one. -/
def splitScheme (s : List Char) : List Char × List Char :=
  match Text.cut? [':'] s with
  | some (scheme, rest) =>
    if scheme.head?.any Char.isAlpha && scheme.all isSchemeChar then (Text.lower scheme, rest) else ([], s)
  | none => ([], s)

/-! ## Hosts between brackets -/

def isHex (c : Char) : Bool := (Text.hexValue? c).isSome

/-- A number of a dotted address: up to 255, without leading zeros. -/
def isOctet (s : List Char) : Bool :=
  !s.isEmpty && s.all Char.isDigit && s.length ≤ 3 && (s == ['0'] || s.head? != some '0') &&
    (Text.inBase? 10 s).any (· ≤ 255)

/-- Four numbers with dots between them. -/
def isDotted (s : List Char) : Bool :=
  let parts := Text.splitAt '.' s
  parts.length == 4 && parts.all isOctet

/-- One to four hexadecimal digits. -/
def isHextet (s : List Char) : Bool := !s.isEmpty && s.length ≤ 4 && s.all isHex

/-- Are the parts between colons an address of eight groups? One inner part may be empty and stands
for the groups that are missing; beside it an end may be empty too. -/
def areGroups (parts : List (List Char)) : Bool :=
  let inner := (parts.drop 1).dropLast
  match inner.findIdx? List.isEmpty with
  | none => parts.length == 8 && parts.all isHextet
  | some i =>
    let high := parts.take (i + 1)
    let low := parts.drop (i + 2)
    let groups (side : List (List Char)) : List (List Char) := if side == [[]] then [] else side
    (groups high).all isHextet && (groups low).all isHextet &&
      (groups high).length + (groups low).length < 8

/-- The parts with a dotted last part counted as two groups, if it is an address. -/
def expandDotted (parts : List (List Char)) : Option (List (List Char)) :=
  match parts.getLast? with
  | some last =>
    if last.contains '.' then
      if isDotted last then some (parts.dropLast ++ [['0'], ['0']]) else none
    else some parts
  | none => some parts

/-- Is the text between brackets an address of the sixth version, perhaps with a zone, or of a
version to come? -/
def isBracketed (s : List Char) : Bool :=
  match s with
  | 'v' :: rest =>
    match Text.cut? ['.'] rest with
    | some (version, more) => !version.isEmpty && version.all isHex && !more.isEmpty
    | none => false
  | _ =>
    let (address, zoneOk) : List Char × Bool :=
      match Text.cut? ['%'] s with
      | some (a, zone) => (a, !zone.isEmpty && !zone.contains '%')
      | none => (s, true)
    let parts := Text.splitAt ':' address
    zoneOk && !s.contains '/' && 3 ≤ parts.length &&
      match expandDotted parts with
      | some parts => parts.length ≤ 9 && areGroups parts
      | none => false

/-- The signs that stand for a delimiter of an address, or for text with one. -/
def disguised : List Nat :=
  [0x2047, 0x2048, 0x2049, 0x2100, 0x2101, 0x2105, 0x2106, 0x2A74, 0xFE13, 0xFE16, 0xFE55, 0xFE56,
    0xFE5F, 0xFE6B, 0xFF03, 0xFF0F, 0xFF1A, 0xFF1F, 0xFF20]

/-- Is the host well formed? Its brackets come in pairs around an address, and no character of it
is a delimiter in disguise. -/
def isHost (host : List Char) : Bool :=
  let opens := host.contains '['
  let closes := host.contains ']'
  opens == closes &&
    (!opens || isBracketed (Text.upTo ']' ((host.dropWhile (· != '[')).drop 1))) &&
    !host.any fun c => disguised.contains c.toNat

/-- The parts of an address. None, if its host is malformed. Control characters and spaces before
the address do not count, and tabs and line ends nowhere. -/
def split? (address : List Char) : Option Url :=
  let s := (address.dropWhile (·.toNat ≤ 0x20)).filter fun c => c != '\t' && c != '\r' && c != '\n'
  let (scheme, s) := splitScheme s
  let (host, s) : List Char × List Char :=
    match s with
    | '/' :: '/' :: s => s.span fun c => c != '/' && c != '?' && c != '#'
    | s => ([], s)
  if isHost host then some ⟨scheme, host, Text.upTo '?' (Text.upTo '#' s)⟩ else none

end Url

end ClientForge
