import ClientForge.Command.Run
import ClientForge.Proofs.Text

/-!
Documents that name whole characters only. Escapes in JSON and YAML and references in pages name characters by number,
and a number can be that of half a character. As no text here holds halves, what the program makes of them is left
out; `namesWhole` tells the documents that name none. A literal that names none stands for just what it names: no
half is replaced (`Json.mem_of_mem_joinUnits`), and a strict reader reads it too (`Json.readText_strict_iff`).
-/

namespace ClientForge

/-! ## JSON -/

namespace Json

/-- The code points and 16-bit units of each text literal in a JSON text. -/
def literalUnits : Nat → List Char → List (List Nat)
  | 0, _ | _, [] => []
  | fuel + 1, c :: s =>
    if c = '"' then
      match readUnits [] s with
      | .ok (units, rest) => units :: literalUnits fuel rest
      | .error _ => []
    else literalUnits fuel s

/-- The literals of a text. -/
def literals (text : String) : List (List Nat) := literalUnits text.length text.toList

/-- Does no literal of a JSON text name half of a character? -/
def isWhole (text : String) : Bool := (literals text).all (!holdsHalf ·)

/-- Does no literal name half of a character in a JSON text, nor in a literal of it that is JSON itself? -/
def isWholeInside (text : String) : Bool :=
  isWhole text && (literals text).all fun units =>
    let inner : String := .ofList (joinUnits units)
    (read inner).toOption.isNone || isWhole inner

/-- Where no half of a character is named, the replacement character stands only where it is named itself. -/
theorem mem_of_mem_joinUnits {ns : List Nat} (h : holdsHalf ns = false) (hmem : '\uFFFD' ∈ joinUnits ns) :
    0xFFFD ∈ ns := by
  have hsingle : ∀ n, '\uFFFD' = Char.ofNat n → n = 0xFFFD := by
    intro n hn
    by_cases hvalid : n.isValidChar
    · rw [← Text.toNat_ofNat hvalid, ← hn]
      rfl
    · have hzero : Char.ofNat n = '\x00' := dif_neg hvalid
      rw [hzero] at hn
      exact absurd hn (by decide)
  induction ns using joinUnits.induct with
  | case1 => cases hmem
  | case2 n =>
    rw [holdsHalf] at h
    rw [joinUnits, h, if_neg Bool.false_ne_true, List.mem_singleton] at hmem
    exact List.mem_singleton.2 (hsingle n hmem).symm
  | case3 m n ns hpair ih =>
    rw [holdsHalf, if_pos hpair] at h
    rw [joinUnits, if_pos hpair] at hmem
    rcases List.mem_cons.1 hmem with hmem | hmem
    · have hvalue := hsingle _ hmem
      omega
    · exact List.mem_cons_of_mem _ (List.mem_cons_of_mem _ (ih h hmem))
  | case4 m n ns hpair hhalf _ =>
    rw [holdsHalf, if_neg hpair, hhalf, Bool.true_or] at h
    cases h
  | case5 m n ns hpair hhalf ih =>
    rw [holdsHalf, if_neg hpair, Bool.eq_false_iff.2 hhalf, Bool.false_or] at h
    rw [joinUnits, if_neg hpair, if_neg hhalf] at hmem
    rcases List.mem_cons.1 hmem with hmem | hmem
    · exact List.mem_cons.2 (Or.inl (hsingle m hmem).symm)
    · exact List.mem_cons_of_mem m (ih h hmem)

/-- A strict reader reads the same text from a literal, exactly if it names no half of a character. -/
theorem readText_strict_iff {s rest : List Char} {units : List Nat} (h : readUnits [] s = .ok (units, rest)) :
    readText true s = readText false s ↔ holdsHalf units = false := by
  unfold readText
  rw [h]
  cases hhalf : holdsHalf units <;> simp [hhalf]

end Json

/-! ## Documents of each format -/

/-- Is the code that of half a character? -/
def isHalf (n : Nat) : Bool := Json.isHighUnit n || Json.isLowUnit n

/-- The codes named by escapes in a YAML text. -/
def Yaml.escapeCodes : List Char → List Nat
  | [] => []
  | c :: s =>
    let code? := do
      let e ← s.head?
      let width ← escapeWidth? e
      Text.inBase? 16 (s.tail.take width)
    (if c = '\\' then code?.toList else []) ++ escapeCodes s

/-- The codes named by references in a page. -/
def Html.referenceCodes : List Char → List Nat
  | [] => []
  | c :: s =>
    (if c = '&' && s.head? = some '#' then (number? (referenceDigits s.tail)).toList else []) ++ referenceCodes s

/-- Does a text name no half of a character where it is read as a document of the format? -/
def Format.isWhole (f : Format) (text : String) : Bool :=
  match f with
  | openApi =>
    if (Json.read text).toOption.isSome then Json.isWhole text
    else !(Yaml.escapeCodes text.toList).any isHalf
  | postman => Json.isWholeInside text
  | html => !(Html.referenceCodes text.toList).any isHalf

/-- Does a document name no half of a character? -/
def namesWhole (d : Directory) (document : FilePath) (format : Option Format) : Bool :=
  let whole : Transcript Bool := do
    let text ← textOfFile d document
    let f ← formatOf format text
    return f.isWhole text
  match whole.result with
  | .ok isWhole => isWhole
  | .error _ => true

end ClientForge
