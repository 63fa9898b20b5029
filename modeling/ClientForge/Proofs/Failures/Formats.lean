import ClientForge.Proofs.Failures.OpenApi
import ClientForge.Proofs.Failures.Postman
import ClientForge.Source

/-!
How reading a document of a structured format ends: with an API, with a failure that is told, or if what the
reading looks into does not fit, maybe without a word (`told_read`). Then the values are of kinds that
nobody looked for, or the title or the authentication is not what it should be. Issues of an operation or
of a request are always told.
-/

namespace ClientForge

/-- Does what the reading looks into fit? -/
def Format.fits : Format → String → Bool
  | openApi => OpenApi.fits
  | postman => Postman.fits
  | html => fun _ => false

theorem told_read {f : Format} (text : String) (h : f ≠ .html) :
    (∃ api, (f.read text).outcome = .ok api) ∨
      (∃ e, (f.read text).outcome = .error e ∧ e.isTold = true) ∨
      f.fits text = false ∧ ∃ e, (f.read text).outcome = .error e ∧ e.isAbrupt = true := by
  let p (e : Failure) : Prop := e.isTold = true ∨ f.fits text = false ∧ e.isAbrupt = true
  have hadmits : Admits p (f.fits text) := by
    refine ⟨fun e he => Or.inl he, ?_⟩
    cases hfits : f.fits text with
    | true => exact Or.inl rfl
    | false => exact Or.inr fun e he => Or.inr ⟨hfits, he⟩
  have hfails : FailsAs p (f.read text).outcome := by
    cases f with
    | openApi => exact OpenApi.failsAs_read hadmits
    | postman => exact Postman.failsAs_read hadmits
    | html => exact absurd rfl h
  cases houtcome : (f.read text).outcome with
  | ok api => exact Or.inl ⟨api, rfl⟩
  | error e =>
    rcases hfails e houtcome with htold | ⟨hfits, habrupt⟩
    · exact Or.inr (Or.inl ⟨e, rfl, htold⟩)
    · exact Or.inr (Or.inr ⟨hfits, e, rfl, habrupt⟩)

/-- A document that fits. Its only operation is refused: the path does not start with a slash. -/
def unrootedText : String :=
  "\x7b\"openapi\":\"3.0.0\",\"paths\":\x7b\"a\":\x7b\"get\":\x7b\"parameters\":" ++
    "[\x7b\"$ref\":\"#/x\"\x7d]\x7d\x7d\x7d,\"x\":\x7b\"name\":\"n\"\x7d\x7d"

theorem told_read_unrootedText : Format.openApi ≠ .html ∧ Format.openApi.fits unrootedText = true ∧
    ((∃ api, (Format.openApi.read unrootedText).outcome = .ok api) ∨
      ∃ e, (Format.openApi.read unrootedText).outcome = .error e ∧ e.isTold = true) := by
  have hfits : Format.openApi.fits unrootedText = true := by decide +kernel
  refine ⟨by decide, hfits, ?_⟩
  rcases told_read unrootedText (f := .openApi) (by decide) with hok | htold | ⟨hunfit, -⟩
  · exact Or.inl hok
  · exact Or.inr htold
  · rw [hfits] at hunfit
    cases hunfit

/-- A document with a number for a title. -/
def numberTitleText : String := "\x7b\"openapi\":\"3.0.0\",\"info\":\x7b\"title\":5\x7d,\"paths\":\x7b\x7d\x7d"

/-- A collection with a number for the query of an address. -/
def numberQueryText : String :=
  "\x7b\"info\":\x7b\x7d,\"item\":[\x7b\"request\":\x7b\"url\":\x7b\"query\":5\x7d\x7d\x7d]\x7d"

/-- Reading can end with a failure that is not told, in either structured format. -/
theorem untold_read :
    (∃ e, (Format.openApi.read numberTitleText).outcome = .error e ∧ e.isTold = false ∧
      e = .invalid "ApiDescription" [⟨[.member "title"], .notText⟩]) ∧
    ∃ e, (Format.postman.read numberQueryText).outcome = .error e ∧ e.isTold = false ∧ e = .broken .wrongKind :=
  ⟨⟨_, failure?_eq_some.1 (by decide +kernel), rfl, rfl⟩, ⟨_, failure?_eq_some.1 (by decide +kernel), rfl, rfl⟩⟩

end ClientForge
