import ClientForge.Api.Part
import ClientForge.Proofs.Words
import ClientForge.Text.Template

/-!
Endpoints that go together. An endpoint is made only if its verb, its path, its operation id and its
placeholders pass one check (`fault?_eq_none_iff`), and every name between braces in its path is then
that of a path parameter (`declared_of_fault?_eq_none`). What holds of an endpoint as it is made
(`Endpoint.Formed`) still holds when its operation id gets a number, although nothing is checked again
(`formed_withDistinctIds`).
-/

namespace ClientForge

open Checked

/-! ## Placeholders -/

/-- Does `name` stand between braces in the path? It is not empty and holds no brace and no slash. -/
def HasPlaceholder (path name : List Char) : Prop :=
  (∃ before after, path = before ++ Text.braced name ++ after) ∧ name ≠ [] ∧
    ∀ c ∈ name, c ≠ '\x7b' ∧ c ≠ '\x7d' ∧ c ≠ '/'

/-- After an open brace the name goes on to the closing one. -/
theorem bracedNames_some {name : List Char} (hname : ∀ c ∈ name, c ≠ '\x7b' ∧ c ≠ '\x7d' ∧ c ≠ '/')
    (acc after : List Char) (hne : acc ++ name ≠ []) :
    bracedNames (some acc) (name ++ '\x7d' :: after) = (acc.reverse ++ name) :: bracedNames none after := by
  induction name generalizing acc with
  | nil =>
    have hacc : acc ≠ [] := by simpa using hne
    simp [bracedNames, hacc]
  | cons c name ih =>
    obtain ⟨h₁, h₂, h₃⟩ := hname c List.mem_cons_self
    have hrest := ih (fun d hd => hname d (List.mem_cons_of_mem _ hd)) (c :: acc) (by simp)
    simp [bracedNames, h₁, h₂, h₃, hrest]

theorem mem_bracedNames {name : List Char} (hne : name ≠ [])
    (hname : ∀ c ∈ name, c ≠ '\x7b' ∧ c ≠ '\x7d' ∧ c ≠ '/') (before after : List Char)
    (inside : Option (List Char)) : name ∈ bracedNames inside (before ++ Text.braced name ++ after) := by
  induction before generalizing inside with
  | nil =>
    have hsome := bracedNames_some hname [] after (by simpa using hne)
    simp [Text.braced, bracedNames, hsome]
  | cons c before ih =>
    simp only [List.cons_append, bracedNames]
    split
    · exact ih _
    · split
      · exact ih _
      · split
        · split
          · exact ih _
          · exact List.mem_cons_of_mem _ (ih _)
        · split
          · exact ih _
          · exact ih _

theorem mem_placeholders {path : String} {name : List Char} (h : HasPlaceholder path.toList name) :
    String.ofList name ∈ placeholders path := by
  obtain ⟨⟨before, after, hpath⟩, hne, hname⟩ := h
  unfold placeholders
  rw [hpath]
  exact List.mem_map.2 ⟨name, List.mem_eraseDups.2 (mem_bracedNames hne hname before after none), rfl⟩

theorem nodup_eraseDups {α : Type} [BEq α] [LawfulBEq α] : ∀ xs : List α, xs.eraseDups.Nodup
  | [] => List.nodup_nil
  | x :: xs => by
    rw [List.eraseDups_cons, List.nodup_cons, List.mem_eraseDups]
    exact ⟨by simp, nodup_eraseDups _⟩
termination_by xs => xs.length
decreasing_by exact Nat.lt_succ_of_le (List.length_filter_le _ _)

theorem nodup_placeholders (path : String) : (placeholders path).Nodup :=
  (nodup_eraseDups _).map fun _ _ => String.ofList_injective

/-! ## The check of an endpoint -/

theorem ofName?_eq_some {s : String} {m : Method} : Method.ofName? s = some m ↔ s = m.name := by
  constructor
  · intro h
    have hname := List.find?_some h
    exact (beq_iff_eq.1 hname).symm
  · rintro rfl
    cases m <;> decide

theorem isEmpty_filter_not_contains {xs ys : List String} :
    (xs.filter (!ys.contains ·)).isEmpty = true ↔ ∀ n ∈ xs, n ∈ ys := by
  simp [List.isEmpty_iff, List.filter_eq_nil_iff]

/-- An endpoint passes if its verb is known, its path starts with a slash, its operation id is an
identifier, and its placeholders are declared. -/
theorem fault?_eq_none_iff {method path operationId : String} {params : List Param} :
    Endpoint.fault? method path operationId params = none ↔
      (Method.ofName? method).isSome ∧ path.startsWith "/" ∧ isIdentifier operationId.toList ∧
        ∀ n ∈ placeholders path, n ∈ (params.filter (·.location == .path)).map (·.name) := by
  rw [← isEmpty_filter_not_contains]
  unfold Endpoint.fault?
  cases Method.ofName? method with
  | none => simp
  | some m =>
    by_cases hpath : path.startsWith "/" = true
    · by_cases hid : isIdentifier operationId.toList = true
      · simp [hpath, hid]
      · simp [hpath, hid]
    · simp [hpath]

/-- The slash at the start of a path that passes. -/
theorem rooted_of_fault?_eq_none {method path operationId : String} {params : List Param}
    (h : Endpoint.fault? method path operationId params = none) : ∃ rest, path.toList = '/' :: rest := by
  have hpath := (fault?_eq_none_iff.1 h).2.1
  rw [String.startsWith_string_iff] at hpath
  obtain ⟨rest, hrest⟩ := hpath
  exact ⟨rest, by rw [← hrest]; rfl⟩

/-- Every placeholder of an endpoint that passes is one of its path parameters. -/
theorem declared_of_fault?_eq_none {method path operationId : String} {params : List Param}
    (h : Endpoint.fault? method path operationId params = none) {name : List Char}
    (hname : HasPlaceholder path.toList name) :
    ∃ p ∈ params, p.location = .path ∧ p.name.toList = name := by
  have hmem := (fault?_eq_none_iff.1 h).2.2.2 _ (mem_placeholders hname)
  obtain ⟨p, hp, hpname⟩ := List.mem_map.1 hmem
  obtain ⟨hp, hloc⟩ := List.mem_filter.1 hp
  exact ⟨p, hp, by simpa using hloc, by rw [hpname, String.toList_ofList]⟩

theorem isIdentifier_of_lowerCamel {s : List Char} (h : IsLowerCamel s) : isIdentifier s := by
  obtain ⟨c, w, rfl, hc, hw⟩ := h
  have hall : AllAlphanum (c :: w) :=
    allAlphanum_cons.2 ⟨isAlphanum_of_isLower hc, hw⟩
  have hline : (c :: w).getLast? ≠ some '\n' := by
    intro hlast
    exact absurd (hall '\n' (List.mem_of_getLast? hlast)) (by decide)
  have hstart : c.isAlpha = true := isAlpha_iff.2 (.inr hc)
  have hrest : w.all (fun d => d.isAlphanum || d == '_') = true :=
    List.all_eq_true.2 fun d hd => by simp [hw d hd]
  simp [isIdentifier, hline, hstart, hrest]

/-! ## Making an endpoint -/

theorem map_eq_ok {α β ε : Type} {f : α → β} {x : Except ε α} {b : β} :
    x.map f = .ok b ↔ ∃ a, x = .ok a ∧ f a = b := by
  cases x <;> simp [Except.map]

theorem also_eq_ok {α β : Type} {f : Checked (α → β)} {x : Checked α} {b : β} :
    f.also x = .ok b ↔ ∃ g a, f = .ok g ∧ x = .ok a ∧ g a = b := by
  cases f <;> cases x <;> simp [also]

theorem endpoint_eq_ok {f : EndpointFields} {e : Endpoint} :
    f.endpoint = .ok e ↔ ∃ method, Endpoint.fault? f.method f.path f.operationId f.parameters = none ∧
      f.method = method.name ∧ e = { f with method } := by
  constructor
  · intro h
    unfold EndpointFields.endpoint at h
    split at h
    · rename_i method hfault hmethod
      cases h
      exact ⟨method, hfault, ofName?_eq_some.1 hmethod, rfl⟩
    · simp [complain] at h
    · simp [complain] at h
  · rintro ⟨method, hfault, hmethod, rfl⟩
    unfold EndpointFields.endpoint
    rw [hfault, ofName?_eq_some.2 hmethod]

theorem except_bind_eq_ok {ε α β : Type} {x : Except ε α} {f : α → Except ε β} {b : β} :
    x.bind f = .ok b ↔ ∃ a, x = .ok a ∧ f a = .ok b := by
  cases x <;> simp [Except.bind]

/-- What can be said of an outcome is said of a result. -/
theorem toOption_map_eq_some {ε α β : Type} {x : Except ε α} {f : α → β} {b : β} :
    x.toOption.map f = some b ↔ ∃ a, x = .ok a ∧ f a = b := by
  cases x <;> simp [Except.toOption]

theorem asKind_eq_ok {α : Type} {kind : String} {x : Checked α} {a : α} :
    asKind kind x = .ok a ↔ x = .ok a := by
  cases x <;> simp [asKind, Except.mapError]

/-- What is made from fields has their verb, path, operation id, parameters, body and responses, and
these pass the check. -/
theorem make_eq_ok {f : EndpointFields} {summary description security tags : Value} {e : Endpoint}
    (h : Endpoint.make f summary description security tags = .ok e) :
    Endpoint.fault? f.method f.path f.operationId f.parameters = none ∧ f.method = e.method.name ∧
      e.path = f.path ∧ e.operationId = f.operationId ∧ e.parameters = f.parameters ∧ e.body = f.body ∧
      e.responses = f.responses := by
  unfold Endpoint.make at h
  rw [asKind_eq_ok] at h
  obtain ⟨g, hg, hend⟩ := except_bind_eq_ok.1 h
  obtain ⟨g₄, _, h₄, -, rfl⟩ := also_eq_ok.1 hg
  obtain ⟨g₃, _, h₃, -, rfl⟩ := also_eq_ok.1 h₄
  obtain ⟨g₂, _, h₂, -, rfl⟩ := also_eq_ok.1 h₃
  obtain ⟨g₁, _, h₁, -, rfl⟩ := also_eq_ok.1 h₂
  cases h₁
  obtain ⟨method, hfault, hmethod, rfl⟩ := endpoint_eq_ok.1 hend
  exact ⟨hfault, hmethod, rfl, rfl, rfl, rfl, rfl⟩

/-! ## Endpoints of documents -/

/-- Do the verb, the path, the operation id and the parameters of an endpoint go together? -/
def Endpoint.Consistent (e : Endpoint) : Prop :=
  Endpoint.fault? e.method.name e.path e.operationId e.parameters = none

/-- What is so of an endpoint as it is made from a document. -/
structure Endpoint.Formed (e : Endpoint) : Prop where
  consistent : e.Consistent
  lowerCamel : IsLowerCamel e.operationId.toList
  bodyless : e.method.allowsBody = false → e.body = none
  responses : (e.responses.map Prod.fst).Nodup

theorem formed_make {f : EndpointFields} {summary description security tags : Value} {e : Endpoint}
    (h : Endpoint.make f summary description security tags = .ok e)
    (hid : IsLowerCamel f.operationId.toList)
    (hbody : ∀ method, f.method = Method.name method → method.allowsBody = false → f.body = none)
    (hresponses : (f.responses.map Prod.fst).Nodup) : e.Formed := by
  obtain ⟨hfault, hmethod, hpath, hop, hparams, hb, hr⟩ := make_eq_ok h
  refine ⟨?_, ?_, ?_, ?_⟩
  · unfold Endpoint.Consistent
    rw [← hmethod, hpath, hop, hparams]
    exact hfault
  · rw [hop]
    exact hid
  · rw [hb]
    exact hbody _ hmethod
  · rw [hr]
    exact hresponses

/-- A new operation id of the right form keeps an endpoint well formed. -/
theorem Endpoint.Formed.rename {e : Endpoint} (h : e.Formed) {id : String} (hid : IsLowerCamel id.toList) :
    Endpoint.Formed { e with operationId := id } := by
  obtain ⟨hmethod, hpath, -, hdeclared⟩ := fault?_eq_none_iff.1 h.consistent
  exact ⟨fault?_eq_none_iff.2 ⟨hmethod, hpath, isIdentifier_of_lowerCamel hid, hdeclared⟩, hid, h.bodyless,
    h.responses⟩

/-! ## Distinct operation ids -/

theorem map_operationId_withDistinctIds (es : List Endpoint) :
    (Endpoint.withDistinctIds es).map (·.operationId.toList) = distinct (es.map (·.operationId.toList)) := by
  have hlen : (distinct (es.map (·.operationId.toList))).length ≤ es.length := by
    simp [length_distinct]
  calc (Endpoint.withDistinctIds es).map (·.operationId.toList)
      = es.zipWith (fun _ id => id) (distinct (es.map (·.operationId.toList))) := by
        simp [Endpoint.withDistinctIds, List.map_zipWith]
    _ = (es.zip (distinct (es.map (·.operationId.toList)))).map Prod.snd := by
        rw [List.map_zip_eq_zipWith]; rfl
    _ = distinct (es.map (·.operationId.toList)) := List.map_snd_zip hlen

/-- Each renamed endpoint is one of those that came in but for its operation id. -/
theorem mem_withDistinctIds {es : List Endpoint} {e : Endpoint} (h : e ∈ Endpoint.withDistinctIds es) :
    ∃ d ∈ es, ∃ id ∈ distinct (es.map (·.operationId.toList)), e = { d with operationId := .ofList id } := by
  obtain ⟨i, hi⟩ := List.mem_iff_getElem?.1 h
  obtain ⟨d, id, hd, hid, rfl⟩ := List.getElem?_zipWith_eq_some.1 hi
  exact ⟨d, List.mem_of_getElem? hd, id, List.mem_of_getElem? hid, rfl⟩

/-- What each endpoint has to do with something, whatever its operation id, it still has to do with it after
renaming. -/
theorem forall₂_withDistinctIds {α : Type} {R : α → Endpoint → Prop}
    (hR : ∀ x e id, R x e → R x { e with operationId := id }) {xs : List α} {es : List Endpoint}
    (h : List.Forall₂ R xs es) : List.Forall₂ R xs (Endpoint.withDistinctIds es) := by
  have hzip : ∀ ids : List (List Char), ids.length = es.length → List.Forall₂ R xs
      (es.zipWith (fun e id => { e with operationId := .ofList id }) ids) := by
    induction h with
    | nil => exact fun _ _ => .nil
    | @cons x e xs es hx _ ih =>
      intro ids hlen
      cases ids with
      | nil => cases hlen
      | cons id ids => exact .cons (hR x e _ hx) (ih ids (Nat.succ.inj hlen))
  exact hzip _ (by rw [length_distinct, List.length_map])

/-- The operation ids are all different, and the endpoints are as well formed as before. -/
theorem formed_withDistinctIds {es : List Endpoint} (h : ∀ e ∈ es, e.Formed) :
    ∀ e ∈ Endpoint.withDistinctIds es, e.Formed := by
  intro e he
  obtain ⟨d, hd, id, hid, rfl⟩ := mem_withDistinctIds he
  refine (h d hd).rename ?_
  rw [String.toList_ofList]
  obtain ⟨name, hname, hcase⟩ := mem_distinct hid
  obtain ⟨d', hd', rfl⟩ := List.mem_map.1 hname
  rcases hcase with rfl | ⟨k, rfl⟩
  · exact (h d' hd').lowerCamel
  · exact (h d' hd').lowerCamel.numbered k

end ClientForge
