import ClientForge.Proofs.Accepted
import ClientForge.Proofs.Documents

/-!
Whatever document an API comes from, a key that authenticates has a name (`hasName_read`), although an API
from a document is never checked as a whole. So such an API goes together as one does that has been
checked (`consistent_read`).
-/

namespace ClientForge

theorem hasName_default : Auth.HasName {} := by
  intro name place hscheme
  cases hscheme

theorem hasName_of_asKind {part kind : String} {es : Entries} {a : Auth}
    (h : asKind part (Auth.checkKind kind es) = .ok a) : a.HasName :=
  hasName_of_checkKind (asKind_eq_ok.1 h)

/-! ## Documents of each format -/

theorem OpenApi.hasName_auth {doc : Entries} {a : Auth} (h : auth doc = .ok a) : a.HasName := by
  obtain ⟨schemes, -, h⟩ := except_bind_eq_ok.1 h
  obtain ⟨bearer, -, h⟩ := except_bind_eq_ok.1 h
  cases bearer with
  | some s => exact hasName_of_asKind h
  | none =>
    obtain ⟨basic, -, h⟩ := except_bind_eq_ok.1 h
    cases basic with
    | some s => exact hasName_of_asKind h
    | none =>
      dsimp only at h
      split at h
      · exact hasName_of_asKind h
      · split at h
        · exact hasName_of_asKind h
        · cases h
          exact hasName_default

theorem Postman.hasName_auth {v : Value} {a : Auth} (h : auth v = .ok a) : a.HasName := by
  unfold auth at h
  split at h
  · split at h
    · exact hasName_of_asKind h
    · obtain ⟨settings, -, h⟩ := except_bind_eq_ok.1 h
      exact hasName_of_asKind h
    · exact hasName_of_asKind h
    · exact hasName_of_asKind h
    · cases h
      exact hasName_default
  · cases h
    exact hasName_default

theorem Page.hasName_auth (text : String) : (auth text).HasName := by
  intro name place hscheme
  simp only [auth] at hscheme
  split at hscheme
  · cases hscheme
  · split at hscheme
    · cases hscheme
      decide
    · split at hscheme
      · cases hscheme
      · split at hscheme <;> cases hscheme

/-! ## All documents -/

theorem hasName_read {f : Format} {text : String} {api : Api} (h : (f.read text).outcome = .ok api) :
    api.auth.HasName := by
  cases f with
  | openApi =>
    obtain ⟨doc, es, -, hauth, -⟩ := OpenApi.read_cases h
    exact OpenApi.hasName_auth hauth
  | postman =>
    obtain ⟨collection, rs, es, -, hauth, -⟩ := Postman.read_cases h
    exact Postman.hasName_auth hauth
  | html =>
    obtain ⟨nodes, es, -, hauth, -⟩ := Page.read_cases h
    rw [hauth]
    exact Page.hasName_auth _

/-- What a document gives is an API with well formed endpoints and a named key. -/
theorem consistent_read {f : Format} {text : String} {api : Api} (h : (f.read text).outcome = .ok api) :
    api.auth.HasName ∧ ∀ e ∈ api.endpoints, e.Formed := by
  obtain ⟨es, hformed, heq⟩ := formed_read h
  rw [heq]
  exact ⟨hasName_read h, formed_withDistinctIds hformed⟩

end ClientForge
