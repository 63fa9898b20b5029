import ClientForge.Proofs.Json.Number
import ClientForge.Proofs.OneLine
import ClientForge.Proofs.References.Inside
import ClientForge.Proofs.Words
import Mathlib.Algebra.Group.Nat.Defs

/-!
Pointers to the values in a document. An escaped key is read back (`unescape_escape`), and so are the digits of
an index, so the pointer that is written for a path leads where the path does (`lookup_pointerTo`). Any pointer
leads to a value inside the document or is refused by name, unless a list is met by digits that are no number
(`lookup_outcome`).
-/

namespace ClientForge

/-! ## Decimal numbers -/

namespace Text

theorem digitValue?_of_isDigit {c : Char} (h : c.isDigit) : digitValue? c = some (c.toNat - 48) := by
  obtain ⟨hlow, hhigh⟩ := isDigit_iff.1 h
  have hfind : digitZeros.find? (fun z => z ≤ c.toNat && c.toNat < z + 10) = some 48 :=
    List.find?_cons_of_pos (by simpa using ⟨hlow, by omega⟩)
  rw [digitValue?, hfind, Option.map_some]

theorem isDigit_of_digitValue? {c : Char} {n : Nat} (h : digitValue? c = some n) : isDigit c = true := by
  rw [isDigit, h, Option.isSome_some, Bool.true_or]

/-- One more digit after a number. -/
def pushDigit (acc : Option Nat) (c : Char) : Option Nat := do return (← acc) * 10 + (← digitValue? c)

theorem foldl_pushDigit_none (s : List Char) : s.foldl pushDigit none = none := by
  induction s with
  | nil => rfl
  | cons c s ih => exact ih

theorem foldl_pushDigit_eq_none {n : Nat} {s : List Char} :
    s.foldl pushDigit (some n) = none ↔ ∃ c ∈ s, digitValue? c = none := by
  induction s generalizing n with
  | nil => simp
  | cons c s ih =>
    rw [List.foldl_cons]
    cases hc : digitValue? c with
    | none =>
      have hpush : pushDigit (some n) c = none := by simp [pushDigit, hc]
      rw [hpush, foldl_pushDigit_none]
      exact iff_of_true rfl ⟨c, List.mem_cons_self, hc⟩
    | some d =>
      have hpush : pushDigit (some n) c = some (n * 10 + d) := by simp [pushDigit, hc]
      rw [hpush, ih]
      simp [hc]

/-- Characters make a number if there are any and each has a place value. -/
theorem number?_eq_none {s : List Char} : number? s = none ↔ s = [] ∨ ∃ c ∈ s, digitValue? c = none := by
  have hfold : number? s = if s.isEmpty then none else s.foldl pushDigit (some 0) := rfl
  rw [hfold]
  cases s with
  | nil => simp
  | cons c s => simpa using foldl_pushDigit_eq_none (n := 0) (s := c :: s)

theorem foldl_pushDigit_digits {ds : List Char} (hds : ∀ c ∈ ds, c.isDigit) (n : Nat) :
    ds.foldl pushDigit (some n) = some (ds.foldl (fun n d => n * 10 + (d.toNat - 48)) n) := by
  induction ds generalizing n with
  | nil => rfl
  | cons c ds ih =>
    obtain ⟨hc, hds⟩ := List.forall_mem_cons.1 hds
    have hpush : pushDigit (some n) c = some (n * 10 + (c.toNat - 48)) := by
      simp [pushDigit, digitValue?_of_isDigit hc]
    rw [List.foldl_cons, List.foldl_cons, hpush, ih hds]

theorem number?_repr (n : Nat) : number? (Nat.repr n).toList = some n := by
  have hfold : number? (Nat.repr n).toList = (Nat.repr n).toList.foldl pushDigit (some 0) := by
    rw [number?, if_neg (by simp)]
    rfl
  rw [hfold, foldl_pushDigit_digits fun c hc => isDigit_of_mem_repr hc]
  exact congrArg some (Json.natOf_repr n)

end Text

namespace Pointer

/-! ## Tokens -/

/-- A character that has been replaced by a pair comes back for the pair, if that was nowhere before. -/
theorem replace_pair_replace {a b c : Char} (hab : a ≠ b) {s : List Char} (h : c ≠ a → ¬[a, b] <:+: s) :
    Text.replace [a, b] [c] (Text.replace [c] [a, b] s) = s := by
  rw [Text.replace_singleton]
  induction s with
  | nil => rfl
  | cons d s ih =>
    have hrest := ih fun hc hpair => h hc (List.infix_cons hpair)
    rw [List.flatMap_cons]
    by_cases hd : d = c
    · rw [if_pos hd, hd]
      refine Eq.trans ?_ (congrArg (c :: ·) hrest)
      simp [Text.replace, Text.replaceFrom]
    · -- After `d` the text begins as before or with the first of the pair, so no pair begins with `d`.
      have hstart : ¬[a, b].isPrefixOf (d :: s.flatMap fun e => if e = c then [a, b] else [e]) := by
        rw [List.isPrefixOf_iff_prefix, Text.pair_prefix_cons_iff]
        rintro ⟨rfl, hhead⟩
        cases s with
        | nil => cases hhead
        | cons e s =>
          rw [List.flatMap_cons] at hhead
          split at hhead
          · exact hab (Option.some.inj hhead)
          · obtain rfl := Option.some.inj hhead
            exact h (Ne.symm hd) ⟨[], s, rfl⟩
      rw [if_neg hd, List.singleton_append, Text.replace, Text.replaceFrom, if_neg (Nat.lt_irrefl 0), if_neg hstart]
      exact congrArg (d :: ·) hrest

theorem not_infix_tilde_one (s : List Char) : ¬['~', '1'] <:+: Text.replace ['~'] ['~', '0'] s := by
  rw [Text.replace_singleton]
  induction s with
  | nil => simp
  | cons c s ih =>
    rw [List.flatMap_cons]
    by_cases hc : c = '~'
    · simp [hc, List.infix_cons_iff, ih]
    · have hne : '~' ≠ c := Ne.symm hc
      simp [hc, hne, List.infix_cons_iff, ih]

/-- A key is read back from its token. -/
theorem unescape_escape (key : List Char) : unescape (escape key) = key := by
  unfold unescape escape
  rw [replace_pair_replace (by decide) fun _ => not_infix_tilde_one key]
  exact replace_pair_replace (by decide) fun h => absurd rfl h

theorem slash_not_mem_escape (key : List Char) : '/' ∉ escape key := by
  unfold escape
  rw [Text.replace_singleton, List.mem_flatMap]
  rintro ⟨c, -, hc⟩
  split at hc
  · simp at hc
  · rename_i hne
    exact hne (List.mem_singleton.1 hc).symm

/-- Text without a tilde is no escape. -/
theorem unescape_of_not_mem {token : List Char} (h : '~' ∉ token) : unescape token = token := by
  have hpair : ∀ c, ¬['~', c] <:+: token := fun c hc => h (hc.subset List.mem_cons_self)
  rw [unescape, Text.replace_eq_self (hpair '1'), Text.replace_eq_self (hpair '0')]

/-! ## Paths -/

/-- A step of a path: to the value under a key of a map, or to an item of a list. -/
inductive Part where
  | key (k : String)
  | item (i : Nat)
deriving DecidableEq, Repr

/-- The part of a value that a step leads to. -/
def Part.of? : Part → Value → Option Value
  | key k, .map es => Entries.get? es k
  | item i, .list xs => xs[i]?
  | _, _ => none

/-- The value that a path leads to. -/
def valueAt? (v : Value) : List Part → Option Value
  | [] => some v
  | p :: path => (p.of? v).bind (valueAt? · path)

/-- The token for a step: the escaped key, or the index in decimal digits. -/
def Part.token : Part → List Char
  | key k => escape k.toList
  | item i => (Nat.repr i).toList

/-- The pointer that is written for a path. -/
def pointerTo (path : List Part) : String := .ofList ('#' :: '/' :: Text.join ['/'] (path.map Part.token))

/-- Is an index written with no more digits than are read? -/
def Part.Short : Part → Prop
  | key _ => True
  | item i => i < 10 ^ indexLimit

theorem slash_not_mem_token (p : Part) : '/' ∉ p.token := by
  cases p with
  | key k => exact slash_not_mem_escape k.toList
  | item i => exact fun h => absurd (isDigit_of_mem_repr h) (by decide)

theorem token_eq_nil {p : Part} (h : p.token = []) : p = .key "" := by
  cases p with
  | key k =>
    have hk : k.toList = [] := by rw [← unescape_escape k.toList, show escape k.toList = [] from h]; rfl
    rw [String.toList_eq_nil_iff.1 hk]
  | item i => exact absurd h (repr_toList_ne_nil i)

/-- A step leads to the same part by its token. -/
theorem step_token {p : Part} {v w : Value} (h : p.of? v = some w) (hshort : p.Short) :
    step v (unescape p.token) = .ok (some w) := by
  cases p with
  | key k =>
    cases v with
    | map es =>
      show Except.ok (Entries.get? es (.ofList (unescape (escape k.toList)))) = _
      rw [unescape_escape, String.ofList_toList]
      exact congrArg Except.ok h
    | _ => cases h
  | item i =>
    cases v with
    | list xs =>
      have hdigit : ∀ c ∈ (Nat.repr i).toList, c.isDigit := fun c hc => isDigit_of_mem_repr hc
      have htilde : '~' ∉ (Nat.repr i).toList := fun hc => absurd (hdigit _ hc) (by decide)
      have hall : (!(Nat.repr i).toList.isEmpty && (Nat.repr i).toList.all Text.isDigit) = true := by
        rw [Bool.and_eq_true, List.all_eq_true]
        exact ⟨by simp, fun c hc => Text.isDigit_of_digitValue? (Text.digitValue?_of_isDigit (hdigit c hc))⟩
      have hlength : ¬indexLimit < (Nat.repr i).toList.length := by
        rw [Nat.toList_repr, Nat.not_lt, Nat.length_toDigits_le_iff (by decide) (by decide)]
        exact hshort
      have hindex : index (Nat.repr i).toList = .ok i := by
        rw [index, Text.number?_repr]
        exact if_neg hlength
      show step (.list xs) (unescape (Nat.repr i).toList) = _
      rw [unescape_of_not_mem htilde, step, if_pos hall, hindex]
      exact congrArg Except.ok h
    | _ => cases h

theorem follow_tokens {path : List Part} {v w : Value} (ref : String) (h : valueAt? v path = some w)
    (hshort : ∀ p ∈ path, p.Short) : follow ref v (path.map Part.token) = .ok w := by
  induction path generalizing v with
  | nil => exact congrArg Except.ok (Option.some.inj h)
  | cons p path ih =>
    obtain ⟨x, hx, hrest⟩ := Option.bind_eq_some_iff.1 h
    obtain ⟨hp, hpath⟩ := List.forall_mem_cons.1 hshort
    rw [List.map_cons, follow, step_token hx hp]
    exact ih hrest hpath

/-- Only the path of a single empty key is written as the pointer to the root is. -/
theorem join_tokens_eq_nil {path : List Part} (h : Text.join ['/'] (path.map Part.token) = []) :
    path = [] ∨ path = [.key ""] := by
  match path with
  | [] => exact Or.inl rfl
  | [p] => exact Or.inr (by rw [token_eq_nil h])
  | p :: q :: path => simp [Text.join] at h

/-- The pointer that is written for a path leads to the value at the path. Only the single empty key has no
pointer of its own. An index has at most 4300 digits, as it has in any list that fits into a memory. -/
theorem lookup_pointerTo {doc v : Value} {path : List Part} (h : valueAt? doc path = some v)
    (hpath : path ≠ [.key ""]) (hshort : ∀ i, .item i ∈ path → i < 10 ^ indexLimit) :
    lookup doc (pointerTo path) = .ok v := by
  have hshort' : ∀ p ∈ path, p.Short := by
    intro p hp
    cases p with
    | key k => trivial
    | item i => exact hshort i hp
  have hlist : (pointerTo path).toList = '#' :: '/' :: Text.join ['/'] (path.map Part.token) := String.toList_ofList
  cases htokens : Text.join ['/'] (path.map Part.token) with
  | nil =>
    obtain rfl := (join_tokens_eq_nil htokens).resolve_right hpath
    exact congrArg Except.ok (Option.some.inj h)
  | cons c s =>
    have hne : path.map Part.token ≠ [] := by
      intro hnil
      rw [hnil] at htokens
      cases htokens
    have hsplit : Text.splitAt '/' (c :: s) = path.map Part.token := by
      rw [← htokens]
      exact splitAt_join hne fun t ht => by
        obtain ⟨p, -, rfl⟩ := List.mem_map.1 ht
        exact slash_not_mem_token p
    rw [htokens] at hlist
    simp only [lookup, hlist]
    rw [hsplit]
    exact follow_tokens _ h hshort'

/-- Keys that are empty, look like escapes and indices, and hold slashes. -/
def oddKeys : Value :=
  .map [(.text "", .map [(.text "~1", .list [.null, .map [(.text "1", .map [(.text "a/~01", .int 7)])]])])]

def oddPath : List Part := [.key "", .key "~1", .item 1, .key "1", .key "a/~01"]

theorem lookup_pointerTo_oddKeys : pointerTo oddPath = "#//~01/1/1/a~1~001" ∧
    valueAt? oddKeys oddPath = some (.int 7) ∧ oddPath ≠ [.key ""] ∧
      (∀ i, .item i ∈ oddPath → i < 10 ^ indexLimit) ∧ lookup oddKeys (pointerTo oddPath) = .ok (.int 7) := by
  have hvalue : valueAt? oddKeys oddPath = some (.int 7) := rfl
  have hshort : ∀ i, .item i ∈ oddPath → i < 10 ^ indexLimit := by
    intro i hi
    obtain rfl : i = 1 := by simpa [oddPath] using hi
    exact Nat.one_lt_pow (by decide) (by decide)
  exact ⟨by decide +kernel, hvalue, by decide, hshort, lookup_pointerTo hvalue (by decide) hshort⟩

/-! ## Pointers that lead nowhere -/

/-- Is the token made of digits, but no index? A digit in it has no place value, such as a superscript, or there are
more digits than are read. -/
def Misnumbered (token : List Char) : Prop :=
  token ≠ [] ∧ (∀ c ∈ token, Text.isDigit c) ∧
    ((∃ c ∈ token, Text.digitValue? c = none) ∨ indexLimit < token.length)

/-- Does the reference lead to a list, and go on there with digits that are no index? -/
def Stumbles (doc : Value) (ref : String) : Prop :=
  ∃ path before raw after xs, ref.toList = '#' :: '/' :: path ∧ Text.splitAt '/' path = before ++ raw :: after ∧
    follow ref doc before = .ok (.list xs) ∧ Misnumbered (unescape raw)

theorem index_eq_error {token : List Char} {f : Failure} (hne : token ≠ []) :
    index token = .error f ↔ f = .broken .badValue ∧
      ((∃ c ∈ token, Text.digitValue? c = none) ∨ indexLimit < token.length) := by
  have hnone : Text.number? token = none ↔ ∃ c ∈ token, Text.digitValue? c = none :=
    Text.number?_eq_none.trans (or_iff_right hne)
  unfold index
  cases hnumber : Text.number? token with
  | none =>
    have hvalues := hnone.1 hnumber
    exact ⟨fun h => ⟨(Except.error.inj h).symm, Or.inl hvalues⟩, fun h => congrArg Except.error h.1.symm⟩
  | some n =>
    have hvalues : ¬∃ c ∈ token, Text.digitValue? c = none := by rw [← hnone, hnumber]; simp
    show (if indexLimit < token.length then _ else _) = _ ↔ _
    split
    · rename_i hlength
      exact ⟨fun h => ⟨(Except.error.inj h).symm, Or.inr hlength⟩, fun h => congrArg Except.error h.1.symm⟩
    · rename_i hlength
      exact ⟨nofun, fun h => absurd h.2 (not_or.2 ⟨hvalues, hlength⟩)⟩

/-- A step breaks down exactly at a list, by a token of digits that is no index. -/
theorem step_eq_error {v : Value} {token : List Char} {f : Failure} :
    step v token = .error f ↔ f = .broken .badValue ∧ (∃ xs, v = .list xs) ∧ Misnumbered token := by
  cases v with
  | list xs =>
    by_cases hdigits : (!token.isEmpty && token.all Text.isDigit) = true
    · have hstep : step (.list xs) token = (index token).map fun i => xs[i]? := if_pos hdigits
      obtain ⟨hne, hall⟩ : token ≠ [] ∧ ∀ c ∈ token, Text.isDigit c = true := by simpa using hdigits
      have herror : step (.list xs) token = .error f ↔ index token = .error f := by
        rw [hstep]
        cases index token <;> simp [Except.map]
      rw [herror, index_eq_error hne]
      exact and_congr_right fun _ => ⟨fun h => ⟨⟨xs, rfl⟩, hne, hall, h⟩, fun h => h.2.2.2⟩
    · have hstep : step (.list xs) token = .ok none := if_neg hdigits
      have hnot : ¬Misnumbered token := fun h => hdigits (by simpa using ⟨h.1, h.2.1⟩)
      simp [hstep, hnot]
  | _ => simp [step]

theorem follow_append (ref : String) (v : Value) (before after : List (List Char)) :
    follow ref v (before ++ after) = (follow ref v before).bind (follow ref · after) := by
  induction before generalizing v with
  | nil => rfl
  | cons token before ih =>
    rw [List.cons_append, follow, follow]
    cases step v (unescape token) with
    | error f => rfl
    | ok found =>
      cases found with
      | none => rfl
      | some w => exact ih w

/-- Tokens that lead nowhere fail at one of them, which leads nowhere or breaks down. -/
theorem follow_eq_error {ref : String} {v : Value} {tokens : List (List Char)} {f : Failure}
    (h : follow ref v tokens = .error f) :
    (∃ key, f = .refused ("Unresolvable $ref '" ++ ref ++ "': '" ++ key ++ "' not found")) ∨
      ∃ before raw after w, tokens = before ++ raw :: after ∧ follow ref v before = .ok w ∧
        step w (unescape raw) = .error f := by
  induction tokens generalizing v with
  | nil => cases h
  | cons token tokens ih =>
    rw [follow] at h
    cases hstep : step v (unescape token) with
    | error g =>
      rw [hstep] at h
      cases h
      exact Or.inr ⟨[], token, tokens, v, rfl, rfl, hstep⟩
    | ok found =>
      rw [hstep] at h
      cases found with
      | none =>
        cases h
        exact Or.inl ⟨_, rfl⟩
      | some x =>
        refine (ih h).imp_right ?_
        rintro ⟨before, raw, after, w, rfl, hbefore, hraw⟩
        refine ⟨token :: before, raw, after, w, rfl, ?_, hraw⟩
        rw [follow, hstep]
        exact hbefore

theorem lookup_of_stumbles {doc : Value} {ref : String} (h : Stumbles doc ref) :
    lookup doc ref = .error (.broken .badValue) := by
  obtain ⟨path, before, raw, after, xs, href, hsplit, hbefore, hraw⟩ := h
  have hstep : step (.list xs) (unescape raw) = .error (.broken .badValue) :=
    step_eq_error.2 ⟨rfl, ⟨xs, rfl⟩, hraw⟩
  have hfollow : follow ref doc (Text.splitAt '/' path) = .error (.broken .badValue) := by
    rw [hsplit, follow_append, hbefore]
    show follow ref (.list xs) (raw :: after) = _
    rw [follow, hstep]
    rfl
  cases path with
  | nil =>
    -- The only token of the empty path is empty, so it is no digits.
    cases before with
    | nil => exact absurd (by rw [← (List.cons.inj hsplit).1]; rfl) hraw.1
    | cons _ before => exact absurd (List.cons.inj hsplit).2.symm (by simp)
  | cons c path => simpa only [lookup, href] using hfollow

/-- Does a refusal name the reference that it is about? -/
def Names (reason ref : String) : Prop := ref.toList <:+: reason.toList

theorem names_append (start ref rest : String) : Names (start ++ ref ++ rest) ref := by
  unfold Names
  rw [String.toList_append, String.toList_append]
  exact List.infix_append _ _ _

/-- A reference leads to a value inside the document, or it is refused by name; but it breaks down where it leads to
a list and goes on with digits that are no index. -/
theorem lookup_outcome (doc : Value) (ref : String) :
    (Stumbles doc ref → lookup doc ref = .error (.broken .badValue)) ∧
      (¬Stumbles doc ref → (∃ v, lookup doc ref = .ok v ∧ Reference.Inside v doc) ∨
        ∃ reason, lookup doc ref = .error (.refused reason) ∧ Names reason ref) := by
  refine ⟨lookup_of_stumbles, fun hstumbles => ?_⟩
  cases hlookup : lookup doc ref with
  | ok v => exact Or.inl ⟨v, rfl, Reference.inside_lookup hlookup⟩
  | error f =>
    refine Or.inr ?_
    unfold lookup at hlookup
    split at hlookup
    · cases hlookup
    · cases hlookup
    · rename_i path _ href
      rcases follow_eq_error hlookup with ⟨key, rfl⟩ | ⟨before, raw, after, w, hsplit, hbefore, hraw⟩
      · have hnames := names_append "Unresolvable $ref '" ref ("': '" ++ key ++ "' not found")
        rw [← String.append_assoc, ← String.append_assoc] at hnames
        exact ⟨_, rfl, hnames⟩
      · obtain ⟨rfl, ⟨xs, rfl⟩, hmis⟩ := step_eq_error.1 hraw
        exact absurd ⟨path, before, raw, after, xs, href, hsplit, hbefore, hmis⟩ hstumbles
    · cases hlookup
      exact ⟨_, rfl, names_append _ _ _⟩
    · cases hlookup
      exact ⟨_, rfl, names_append _ _ _⟩

/-- A superscript passes for a digit, but is no number. -/
theorem superscript_stumbles : lookup (.map [(.text "a", .list [.int 1])]) "#/a/²" = .error (.broken .badValue) ∧
    ¬∃ reason, lookup (.map [(.text "a", .list [.int 1])]) "#/a/²" = .error (.refused reason) := by
  have hlookup : lookup (.map [(.text "a", .list [.int 1])]) "#/a/²" = .error (.broken .badValue) := rfl
  rw [hlookup]
  exact ⟨rfl, nofun⟩

end Pointer

end ClientForge
