import ClientForge.Api.Part
import ClientForge.Value.Access

/-!
How reading can fail. A failure is told if it says what is wrong with the document, and with which part.
Where a value is not of a kind that is looked for, reading can also stop without a word. The lemmas here
say of every step that each of its failures has some property; the property need not hold of the
untold ones if the value that the step looks into fits.
-/

namespace ClientForge

/-- Does the failure say what is wrong with the document? -/
def Failure.isTold : Failure → Bool
  | refused _ | unfit _ _ _ | unstructured => true
  | invalid _ _ | broken _ => false

/-- The kinds of which no part of a document is named when they are not what they should be: the whole
API, and its authentication. -/
def unnamedKinds : List String := ["ApiDescription", "BearerAuth", "BasicAuth", "ApiKeyAuth", "OAuth2Auth"]

/-- The kinds of the parts of an endpoint. -/
def partKinds : List String := ["Param", "SchemaSketch", "Body", "Response"]

/-- A failure that can end the reading untold. -/
def Failure.isAbrupt : Failure → Bool
  | invalid kind _ => unnamedKinds.contains kind
  | broken _ => true
  | refused _ | unfit _ _ _ | unstructured => false

/-- The failure that an outcome is. -/
def failure? {α : Type} (x : Except Failure α) : Option Failure :=
  match x with
  | .ok _ => none
  | .error f => some f

theorem failure?_eq_some {α : Type} {x : Except Failure α} {f : Failure} : failure? x = some f ↔ x = .error f := by
  cases x <;> simp [failure?]

/-- Every failure of the outcome has the property. -/
def FailsAs {α : Type} (p : Failure → Prop) (x : Except Failure α) : Prop := ∀ f, x = .error f → p f

/-- The property of failures holds of those that are told, and of those that are not if the value does not
fit. -/
structure Admits (p : Failure → Prop) (fits : Bool) : Prop where
  told : ∀ f, f.isTold = true → p f
  abrupt : fits = true ∨ ∀ f, f.isAbrupt = true → p f

namespace Admits

variable {p : Failure → Prop} {fits more : Bool}

theorem refused (h : Admits p fits) (reason : String) : p (.refused reason) := h.told _ rfl

theorem mono (h : Admits p fits) (himp : fits = true → more = true) : Admits p more :=
  ⟨h.told, h.abrupt.imp_left himp⟩

theorem and_iff : Admits p (fits && more) ↔ Admits p fits ∧ Admits p more := by
  constructor
  · intro h
    exact ⟨h.mono fun hall => (Bool.and_eq_true_iff.1 hall).1, h.mono fun hall => (Bool.and_eq_true_iff.1 hall).2⟩
  · rintro ⟨hfirst, hmore⟩
    refine ⟨hfirst.told, ?_⟩
    rcases hfirst.abrupt with htrue | habrupt
    · rw [htrue, Bool.true_and]
      exact hmore.abrupt
    · exact Or.inr habrupt

theorem item {α : Type} {f : α → Bool} {xs : List α} (h : Admits p (xs.all f)) {x : α} (hx : x ∈ xs) :
    Admits p (f x) :=
  h.mono fun hall => List.all_eq_true.1 hall x hx

/-- What does not fit may break down. -/
theorem broken (h : Admits p fits) (hfits : fits = false) (b : Breakdown) : p (.broken b) := by
  rcases h.abrupt with htrue | habrupt
  · rw [hfits] at htrue
    cases htrue
  · exact habrupt _ rfl

/-- Failures inside a part are told with the part, but for breakdowns. -/
theorem within (h : Admits p fits) (part : String) : Admits (fun f => p (f.within part)) fits where
  told f hf := by
    cases f with
    | invalid | broken => cases hf
    | _ => exact h.told _ rfl
  abrupt := h.abrupt.imp_right fun habrupt f hf => by
    cases f with
    | invalid kind issues => exact h.told _ rfl
    | broken b => exact habrupt _ hf
    | _ => cases hf

/-- Inside a part, issues of any kind are told. -/
theorem issues (h : Admits p fits) (part kind : String) (is : List Issue) :
    p ((Failure.invalid kind is).within part) :=
  h.told _ rfl

end Admits

/-! ## Steps one after another -/

namespace FailsAs

variable {α β : Type} {p : Failure → Prop}

theorem ok (a : α) : FailsAs p (.ok a) := fun _ h => nomatch h

theorem error {f : Failure} (h : p f) : FailsAs p (.error f : Except Failure α) := by
  rintro _ ⟨⟩
  exact h

theorem bind {x : Except Failure α} {f : α → Except Failure β} (hx : FailsAs p x)
    (hf : ∀ a, x = .ok a → FailsAs p (f a)) : FailsAs p (x >>= f) := by
  cases x with
  | error e => exact error (hx e rfl)
  | ok a => exact hf a rfl

theorem map {f : α → β} {x : Except Failure α} (hx : FailsAs p x) : FailsAs p (f <$> x) := by
  cases x with
  | error e => exact error (hx e rfl)
  | ok a => exact ok _

theorem mapM {f : α → Except Failure β} {xs : List α} (h : ∀ x ∈ xs, FailsAs p (f x)) : FailsAs p (xs.mapM f) := by
  induction xs with
  | nil => exact ok _
  | cons x xs ih =>
    rw [List.mapM_cons]
    refine (h x List.mem_cons_self).bind fun _ _ => ?_
    exact (ih fun y hy => h y (List.mem_cons_of_mem x hy)).bind fun _ _ => ok _

theorem filterM {f : α → Except Failure Bool} {xs : List α} (h : ∀ x ∈ xs, FailsAs p (f x)) :
    FailsAs p (xs.filterM f) := by
  have hall : ∀ kept, FailsAs p (List.filterAuxM f xs kept) := by
    induction xs with
    | nil => exact fun _ => ok _
    | cons x xs ih =>
      exact fun _ => (h x List.mem_cons_self).bind fun _ _ => ih (fun y hy => h y (List.mem_cons_of_mem x hy)) _
  exact (hall []).bind fun _ _ => ok _

theorem findM? {f : α → Except Failure Bool} {xs : List α} (h : ∀ x ∈ xs, FailsAs p (f x)) :
    FailsAs p (xs.findM? f) := by
  induction xs with
  | nil => exact ok _
  | cons x xs ih =>
    refine (h x List.mem_cons_self).bind fun found _ => ?_
    cases found with
    | true => exact ok _
    | false => exact ih fun y hy => h y (List.mem_cons_of_mem x hy)

theorem foldlM {f : β → α → Except Failure β} {xs : List α} (h : ∀ b, ∀ x ∈ xs, FailsAs p (f b x)) (b : β) :
    FailsAs p (xs.foldlM f b) := by
  induction xs generalizing b with
  | nil => exact ok _
  | cons x xs ih =>
    rw [List.foldlM_cons]
    exact (h b x List.mem_cons_self).bind fun c _ => ih (fun b y hy => h b y (List.mem_cons_of_mem x hy)) c

/-- Steps of a reading with notes. -/
theorem andThen {x : Traced α} {f : α → Traced β} (hx : FailsAs p x.outcome)
    (hf : ∀ a, x.outcome = .ok a → FailsAs p (f a).outcome) : FailsAs p (x >>= f).outcome := by
  rw [Traced.outcome_bind]
  exact hx.bind hf

theorem within {x : Traced α} {part : String} (hx : FailsAs (fun f => p (f.within part)) x.outcome) :
    FailsAs p (Traced.within part x).outcome := by
  rw [Traced.outcome_within]
  cases h : x.outcome with
  | error e => exact error (hx e h)
  | ok a => exact ok a

/-- The failures of a part whose name may fail to be displayed. A breakdown is told without it. -/
theorem withinShown {x : Traced α} {part : Except Failure String} (hpart : FailsAs p part)
    (hx : ∀ name, FailsAs (fun f => p (f.within name)) x.outcome) : FailsAs p (Traced.withinShown part x).outcome := by
  rw [Traced.outcome_withinShown]
  cases h : x.outcome with
  | ok a => exact ok a
  | error e =>
    refine error ?_
    cases part with
    | ok name => cases e <;> exact hx name _ h
    | error g =>
      cases e with
      | broken b => exact hx "" _ h
      | _ => exact hpart g rfl

end FailsAs

theorem failsAs_asKind {α : Type} {p : Failure → Prop} {kind : String} (h : ∀ is, p (.invalid kind is))
    (x : Except (List Issue) α) : FailsAs p (asKind kind x) := by
  cases x with
  | error is => exact .error (h is)
  | ok a => exact .ok a

/-! ## Values -/

namespace Value

/-- Is the value a collection? -/
def hasItems : Value → Bool
  | list _ | tuple _ | set _ | text _ | bytes _ | map _ => true
  | _ => false

/-- Is the value empty, or a collection? -/
def itemsFit (v : Value) : Bool := !v.truthy || v.hasItems

/-- Is the value empty, or one with a first item? -/
def firstFits (v : Value) : Bool :=
  !v.truthy ||
    match v with
    | list _ | tuple _ | text _ | bytes _ => true
    | map es => (Entries.find? es (.int 0)).isSome
    | _ => false

def isAnyText : Value → Bool
  | text _ => true
  | _ => false

def isTextOrNull : Value → Bool
  | text _ | null => true
  | _ => false

/-- Is the value empty, or a text? -/
def textFits (v : Value) : Bool := !v.truthy || v.isAnyText

theorem eq_text {v : Value} (h : v.isAnyText = true) : ∃ s, v = .text s := by
  cases v with
  | text s => exact ⟨s, rfl⟩
  | _ => cases h

theorem eq_text_or_null {v : Value} (h : v.isTextOrNull = true) : (∃ s, v = .text s) ∨ v = .null := by
  cases v with
  | text s => exact Or.inl ⟨s, rfl⟩
  | null => exact Or.inr rfl
  | _ => cases h

/-- Is the value nothing or a map, do its entries fit? -/
def entriesFit (f : Entries → Bool) : Value → Bool
  | null => f []
  | map es => f es
  | _ => true

variable {p : Failure → Prop}

theorem failsAs_entriesOf {fits : Bool} (h : Admits p fits) (v : Value) (field : String) :
    FailsAs p (v.entriesOf field) := by
  unfold entriesOf
  split
  · exact .ok _
  · exact .ok _
  · exact .error (h.refused _)

/-- The entries of a value fit as the value says. -/
theorem admits_entriesOf {f : Entries → Bool} {v : Value} {field : String} {es : Entries}
    (h : Admits p (v.entriesFit f)) (hes : v.entriesOf field = .ok es) : Admits p (f es) := by
  cases v with
  | null | map =>
    cases hes
    exact h
  | _ => cases hes

theorem failsAs_items {v : Value} (h : Admits p v.hasItems) : FailsAs p v.items := by
  cases v with
  | list | tuple | set | text | bytes | map => exact .ok _
  | _ => exact .error (h.broken rfl _)

/-- A value, or another in place of an empty one, is as it should be if the other is and the value is empty
or as it should be. -/
theorem orElse_fits {f : Value → Bool} {v other : Value} (h : (!v.truthy || f v) = true) (hother : f other = true) :
    f (v.orElse other) = true := by
  unfold orElse
  cases htruthy : v.truthy with
  | false => simpa using hother
  | true => simpa [htruthy] using h

theorem failsAs_items_orElse {v : Value} (h : Admits p v.itemsFit) : FailsAs p (v.orElse (.list [])).items :=
  failsAs_items (h.mono fun hfits => orElse_fits hfits rfl)

theorem failsAs_first {v : Value} (h : Admits p v.firstFits) (htruthy : v.truthy = true) : FailsAs p v.first := by
  cases v with
  | list xs | tuple xs =>
    cases xs with
    | nil => cases htruthy
    | cons x xs => exact .ok x
  | bytes bs =>
    cases bs with
    | nil => cases htruthy
    | cons b bs => exact .ok _
  | text s =>
    simp only [first]
    split
    · exact .ok _
    · rename_i hchars
      rw [String.toList_eq_nil_iff.1 hchars] at htruthy
      cases htruthy
  | map es =>
    simp only [first]
    split
    · exact .ok _
    · rename_i hzero
      exact .error (h.broken (by simp [firstFits, htruthy, hzero]) _)
  | _ => exact .error (h.broken (by simp [firstFits, htruthy]) _)

theorem failsAs_firstOr {v other : Value} (h : Admits p v.firstFits) : FailsAs p (v.firstOr other) := by
  unfold firstOr
  split
  · rename_i htruthy
    exact failsAs_first h htruthy
  · exact .ok _

theorem failsAs_asText {v : Value} (h : Admits p v.isAnyText) : FailsAs p v.asText := by
  cases v with
  | text s => exact .ok s
  | _ => exact .error (h.broken rfl _)

theorem failsAs_asText_orElse {v : Value} (h : Admits p v.textFits) (s : String) :
    FailsAs p (v.orElse (.text s)).asText :=
  failsAs_asText (h.mono fun hfits => orElse_fits hfits rfl)

theorem failsAs_shown {v : Value} (h : Admits p v.isShort) : FailsAs p v.shown := by
  unfold shown
  split
  · exact .ok _
  · rename_i hlong
    exact .error (h.broken (Bool.eq_false_iff.2 hlong) _)

theorem failsAs_described {v : Value} (h : Admits p v.isShort) : FailsAs p v.described := by
  unfold described
  split
  · exact .ok _
  · rename_i hlong
    exact .error (h.broken (Bool.eq_false_iff.2 hlong) _)

theorem failsAs_checkKey {k : Value} (h : Admits p k.isKey) : FailsAs p k.checkKey := by
  unfold checkKey
  split
  · exact .ok ()
  · rename_i hkey
    exact .error (h.broken (Bool.eq_false_iff.2 hkey) _)

end Value

/-! ## Data that no part is named for -/

section

variable {p : Failure → Prop} {fits : Bool}

theorem failsAs_unnamed {α : Type} {kind : String} {x : Except (List Issue) α} (h : Admits p fits)
    (hkind : unnamedKinds.contains kind = true) (hok : fits = true → ∃ a, x = .ok a) :
    FailsAs p (asKind kind x) := by
  rcases h.abrupt with hfits | habrupt
  · obtain ⟨a, rfl⟩ := hok hfits
    exact .ok a
  · exact failsAs_asKind (fun is => habrupt _ hkind) x

/-- Authentication of which only the description comes from the document. -/
theorem failsAs_described {kind part : String} (hkind : kind ∈ ["bearer", "basic", "oauth2"])
    (hpart : unnamedKinds.contains part = true) {description : Value} (h : Admits p description.isTextOrNull) :
    FailsAs p (asKind part (Auth.checkKind kind [(.text "description", description)])) := by
  refine failsAs_unnamed h hpart fun hfits => ?_
  simp only [List.mem_cons, List.not_mem_nil, or_false] at hkind
  obtain ⟨s, rfl⟩ | rfl := Value.eq_text_or_null hfits <;> rcases hkind with rfl | rfl | rfl <;> exact ⟨_, rfl⟩

theorem checkKind_apiKey {name description : Value} (place : KeyPlace) (hname : name.textFits = true)
    (hdescription : description.isTextOrNull = true) :
    ∃ a, Auth.checkKind "apiKey" [(.text "description", description), (.text "name", name),
      (.text "location", .text place.name)] = .ok a := by
  have hfits : (name.orElse (.text defaultKeyHeader)).isAnyText = true := Value.orElse_fits hname rfl
  obtain ⟨n, hn⟩ := Value.eq_text hfits
  have hkey : keyName name = .ok n := by
    rw [keyName, hn]
    rfl
  have hfield : Checked.plain "name" defaultKeyHeader keyName [(.text "description", description),
      (.text "name", name), (.text "location", .text place.name)] = .ok n := by
    show Checked.within (.member "name") (keyName name) = .ok n
    rw [hkey]
    rfl
  simp only [Auth.checkKind, hfield]
  obtain ⟨s, rfl⟩ | rfl := Value.eq_text_or_null hdescription <;> cases place <;> exact ⟨_, rfl⟩

theorem failsAs_apiKey {name place description : Value}
    (h : Admits p (description.isTextOrNull && name.textFits)) :
    FailsAs p (Auth.apiKey name place description) := by
  refine failsAs_unnamed h rfl fun hfits => ?_
  rw [Bool.and_eq_true_iff] at hfits
  exact checkKind_apiKey _ hfits.2 hfits.1

theorem failsAs_make {url version : String} {auth : Auth} {title description : Value} {es : List Endpoint}
    (h : Admits p (title.isAnyText && description.isAnyText)) :
    FailsAs p (Api.make url auth title version description es) := by
  refine failsAs_unnamed h rfl fun hfits => ?_
  rw [Bool.and_eq_true_iff] at hfits
  obtain ⟨t, rfl⟩ := Value.eq_text hfits.1
  obtain ⟨d, rfl⟩ := Value.eq_text hfits.2
  exact ⟨_, rfl⟩

end

end ClientForge
