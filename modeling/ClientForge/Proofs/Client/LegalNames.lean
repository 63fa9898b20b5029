import ClientForge.Proofs.Accepted
import ClientForge.Proofs.Client.Idents
import ClientForge.Proofs.Documents

/-!
Names of methods as identifiers. They are made of letters, digits and underscores, and never empty. The casing of
names drops what stands before the first letter or digit of an operation id, so a name starts with a digit exactly if
that is one (`isIdent_methods`). No id from a document starts so, but an accepted model may have one
(`twoFactorModel_not_isIdent`).
-/

namespace ClientForge

/-! ## First characters -/

/-- Does a text start with a digit? -/
def startsDigit (s : List Char) : Bool := s.head?.any Char.isDigit

/-- Is the first letter or digit of a text a digit? -/
def digitFirst (s : List Char) : Bool := (s.find? isWordChar).any Char.isDigit

theorem startsDigit_append {s : List Char} (h : s ≠ []) (u : List Char) : startsDigit (s ++ u) = startsDigit s := by
  obtain ⟨c, w, rfl⟩ := List.exists_cons_of_ne_nil h
  rfl

theorem isDigit_toLower (c : Char) : c.toLower.isDigit = c.isDigit := by
  by_cases h : c.isUpper
  · have hle := isUpper_iff.1 h
    rw [Bool.eq_iff_iff, isDigit_iff, isDigit_iff, toLower_of_isUpper h]
    omega
  · rw [toLower_of_not_isUpper h]

theorem isDigit_toUpper (c : Char) : c.toUpper.isDigit = c.isDigit := by
  by_cases h : c.isLower
  · have hle := isLower_iff.1 h
    rw [Bool.eq_iff_iff, isDigit_iff, isDigit_iff, toUpper_of_isLower h]
    omega
  · rw [toUpper_of_not_isLower h]

theorem startsDigit_lowerWord (w : List Char) : startsDigit (lowerWord w) = startsDigit w := by
  cases w with
  | nil => rfl
  | cons c w => exact isDigit_toLower c

theorem startsDigit_capitalize (w : List Char) : startsDigit (capitalize w) = startsDigit w := by
  cases w with
  | nil => rfl
  | cons c w => exact isDigit_toUpper c

theorem startsDigit_headWord (w : List Char) : startsDigit (headWord w) = startsDigit w := by
  unfold headWord
  split
  · cases w with
    | nil => rfl
    | cons c w => exact isDigit_toLower c
  · exact startsDigit_lowerWord w

/-! ## Names -/

theorem startsDigit_methodCase (t : Target) (s : List Char) : startsDigit (t.methodCase s) = digitFirst s := by
  have hwords := head_words s
  have hok := wordsOk_words s
  unfold digitFirst
  rw [← hwords]
  cases hcut : words s with
  | nil => cases t <;> simp [Target.methodCase, camel, pascal, snake, hcut, capitalize, Text.join, startsDigit]
  | cons w ws =>
    rw [hcut] at hok
    have hw : w ≠ [] := (hok w List.mem_cons_self).1
    have hcamel : startsDigit (camel s) = startsDigit w := by
      unfold camel
      rw [hcut]
      exact (startsDigit_append (headWord_ne_nil hw) _).trans (startsDigit_headWord w)
    cases t with
    | node | java | php => exact hcamel
    | go => exact (startsDigit_capitalize (camel s)).trans hcamel
    | python =>
      have hsnake : ∃ u, snake s = lowerWord w ++ u := by
        unfold snake
        rw [hcut, List.map_cons]
        cases ws with
        | nil => exact ⟨[], (List.append_nil _).symm⟩
        | cons v vs => exact ⟨_, List.append_assoc ..⟩
      obtain ⟨u, hu⟩ := hsnake
      show startsDigit (snake s) = startsDigit w
      rw [hu, startsDigit_append (by simpa [lowerWord] using hw), startsDigit_lowerWord]

theorem startsDigit_methodName (t : Target) (s : List Char) : startsDigit (t.methodName s) = digitFirst s := by
  rw [methodName_eq, ← startsDigit_methodCase t s]
  split
  · cases t.methodCase s <;> rfl
  · rfl

/-- A small letter is before any digit. -/
theorem IsLowerCamel.digitFirst_eq {s : List Char} (h : IsLowerCamel s) : digitFirst s = false := by
  obtain ⟨c, w, rfl, hc, -⟩ := h
  have hword : isWordChar c = true := isAlphanum_of_isLower hc
  have hlower := isLower_iff.1 hc
  unfold digitFirst
  rw [List.find?_cons_of_pos hword, Option.any_some, Bool.eq_false_iff, Ne, isDigit_iff]
  omega

theorem startsDigit_baseName (t : Target) (e : Endpoint) :
    startsDigit (e.baseName t) = digitFirst e.operationId.toList := by
  have hname := startsDigit_methodName t e.operationId.toList
  unfold Endpoint.baseName
  split
  · rename_i hnil
    rw [hnil] at hname
    rw [startsDigit_methodName, (lowerCamel_derivedIdentifier e.method _).digitFirst_eq, ← hname]
    rfl
  · exact hname

theorem startsDigit_freshMethod (t : Target) (taken : List (List Char)) {name : List Char} (h : name ≠ []) :
    startsDigit (freshMethod t taken name) = startsDigit name := by
  unfold freshMethod
  dsimp only
  split
  · exact startsDigit_append h _
  · rfl

/-! ## Methods -/

/-- Letters, digits and underscores, at least one, and no digit first. -/
structure IsIdent (s : List Char) : Prop where
  ne_nil : s ≠ []
  nameChars : AllNameChars s
  startsDigit_eq : startsDigit s = false

/-- How the name of a method for an endpoint may look: letters, digits and underscores, and a digit first if the
operation id has one before any letter, and only then. -/
structure Endpoint.NamedIn (e : Endpoint) (name : List Char) : Prop where
  ne_nil : name ≠ []
  nameChars : AllNameChars name
  startsDigit_eq : startsDigit name = digitFirst e.operationId.toList

theorem namedIn_methodNames (t : Target) (taken : List (List Char)) (es : List Endpoint) :
    List.Forall₂ Endpoint.NamedIn es (methodNames t taken es) := by
  induction es generalizing taken with
  | nil => exact .nil
  | cons e es ih =>
    obtain ⟨s, hbase, hne⟩ := baseName_eq t e
    rw [← hbase] at hne
    obtain ⟨hname, hchars⟩ := allNameChars_methodNames t taken (e :: es) _ List.mem_cons_self
    refine .cons ⟨hname, hchars, ?_⟩ (ih _)
    rw [startsDigit_freshMethod t taken hne, startsDigit_baseName]

theorem Endpoint.NamedIn.isIdent_iff {e : Endpoint} {name : List Char} (h : e.NamedIn name) :
    IsIdent name ↔ digitFirst e.operationId.toList = false := by
  rw [← h.startsDigit_eq]
  exact ⟨IsIdent.startsDigit_eq, fun hstart => ⟨h.ne_nil, h.nameChars, hstart⟩⟩

theorem isIdent_of_namedIn {es : List Endpoint} {names : List (List Char)}
    (h : List.Forall₂ Endpoint.NamedIn es names) (hes : ∀ e ∈ es, digitFirst e.operationId.toList = false) :
    ∀ name ∈ names, IsIdent name := by
  induction h with
  | nil => exact fun _ hname => nomatch hname
  | cons hhead _ ih =>
    obtain ⟨he, hes⟩ := List.forall_mem_cons.1 hes
    exact List.forall_mem_cons.2 ⟨hhead.isIdent_iff.2 he, ih hes⟩

/-- Each method has a name of letters, digits and underscores. It is an identifier unless the operation id of its
endpoint has a digit before any letter. If an API comes from a document, the names of all methods are identifiers. -/
theorem isIdent_methods (t : Target) (api : Api) :
    List.Forall₂ (fun e m => m.name.toList ≠ [] ∧ AllNameChars m.name.toList ∧
        (IsIdent m.name.toList ↔ digitFirst e.operationId.toList = false))
      api.endpoints (ClientPlan.ofApi t api).methods ∧
    ∀ (f : Format) text, (f.read text).outcome = .ok api →
      ∀ m ∈ (ClientPlan.ofApi t api).methods, IsIdent m.name.toList := by
  have hnamed := namedIn_methodNames t [] api.endpoints
  refine ⟨?_, fun f text hread m hm => ?_⟩
  · rw [← map_name_methods, List.forall₂_map_right_iff] at hnamed
    exact hnamed.imp fun e m h => ⟨h.ne_nil, h.nameChars, h.isIdent_iff⟩
  · obtain ⟨es, hformed, heq⟩ := formed_read hread
    refine isIdent_of_namedIn hnamed (fun e he => ?_) _ ?_
    · rw [heq] at he
      exact (formed_withDistinctIds hformed e he).lowerCamel.digitFirst_eq
    · rw [← map_name_methods]
      exact List.mem_map_of_mem hm

/-- A model with an operation id that has a digit before any letter. -/
def twoFactorModel : Value := .map [
  (.text "endpoints", .list [.map [
    (.text "method", .text "post"),
    (.text "path", .text "/login"),
    (.text "operationId", .text "_2faLogin")]])]

/-- The methods for an accepted model need not have identifiers for names. -/
theorem twoFactorModel_not_isIdent :
    ¬∀ (v : Value) (api : Api), Api.check .document v = .ok api →
      ∀ t, ∀ m ∈ (ClientPlan.ofApi t api).methods, IsIdent m.name.toList := by
  intro hall
  have hnames : (Api.check .document twoFactorModel).toOption.map (fun api =>
      (ClientPlan.ofApi .node api).methods.map (·.name.toList)) = some ["2faLogin".toList] := by decide +kernel
  obtain ⟨api, hcheck, hlist⟩ := Api.exists_of_check hnames
  have hmem : "2faLogin".toList ∈ (ClientPlan.ofApi .node api).methods.map (·.name.toList) := by
    rw [hlist]
    exact List.mem_singleton_self _
  obtain ⟨m, hm, hname⟩ := List.mem_map.1 hmem
  have hstart := (hall _ api hcheck .node m hm).startsDigit_eq
  rw [hname] at hstart
  exact absurd hstart (by decide)

end ClientForge
