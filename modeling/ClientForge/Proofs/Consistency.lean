import ClientForge.Proofs.Accepted
import ClientForge.Proofs.Collections
import ClientForge.Proofs.Failures.OpenApi
import ClientForge.Proofs.Failures.Postman

/-!
What the check of endpoints refuses. Readers put the fields of an endpoint together so that they pass
(`EndpointFields.Assembled`): those of requests in collections always give an endpoint, so do those of requests
on pages if the verb is known, and those of operations are refused for nothing but a path without a slash
before it (`rejects_only_unrooted`).
-/

namespace ClientForge

open Checked

/-! ## Issues of the whole -/

/-- The check of an endpoint has failed for a reason: all fields are well, but not together. -/
def Failure.Rejects (f : Failure) (reason : String) : Prop :=
  ∃ is, f = .invalid "ApiEndpoint" is ∧ ⟨[], .inconsistent reason⟩ ∈ is

section

variable {p : Failure → Prop} (hp : ∀ f, (∀ is, f ≠ .invalid "ApiEndpoint" is) → p f)

include hp

/-- What holds of all failures but those of endpoints holds of those that are told, and of those that are not. -/
theorem admits_of_beside (fits : Bool) : Admits p fits := by
  refine ⟨fun f hf => hp f ?_, Or.inr fun f hf => hp f ?_⟩
  · rintro is rfl
    cases hf
  · rintro is rfl
    revert hf
    simp [Failure.isAbrupt, unnamedKinds]

theorem holds_of_partKind {kind : String} (hkind : kind ∈ partKinds) (is : List Issue) : p (.invalid kind is) := by
  refine hp _ ?_
  rintro js ⟨⟩
  revert hkind
  simp [partKinds]

end

/-- All issues are found further in. -/
def Checked.InParts {α : Type} (x : Checked α) : Prop := ∀ is, x = .error is → ∀ i ∈ is, i.place ≠ []

theorem inParts_within {α : Type} (step : Step) (x : Checked α) : (within step x).InParts := by
  intro is h i hi
  cases x with
  | ok a => cases h
  | error js =>
    cases h
    obtain ⟨j, -, rfl⟩ := List.mem_map.1 hi
    simp

theorem Checked.InParts.also {α β : Type} {f : Checked (α → β)} {x : Checked α} (hf : f.InParts) (hx : x.InParts) :
    (f.also x).InParts := by
  intro is h i hi
  cases f with
  | ok g =>
    cases x with
    | ok a => cases h
    | error js =>
      cases h
      exact hx _ rfl i hi
  | error js =>
    cases x with
    | ok a =>
      cases h
      exact hf _ rfl i hi
    | error ks =>
      cases h
      rcases List.mem_append.1 hi with hi | hi
      · exact hf _ rfl i hi
      · exact hx _ rfl i hi

theorem inParts_ok {α : Type} (a : α) : Checked.InParts (.ok a) := by
  rintro _ ⟨⟩

/-- What stands against the whole is what is at fault with its fields. -/
theorem fault?_of_endpoint {f : EndpointFields} {is : List Issue} {reason : String}
    (h : asKind "ApiEndpoint" f.endpoint = .error (.invalid "ApiEndpoint" is))
    (hmem : ⟨[], .inconsistent reason⟩ ∈ is) :
    Endpoint.fault? f.method f.path f.operationId f.parameters = some reason := by
  unfold EndpointFields.endpoint at h
  cases hfault : Endpoint.fault? f.method f.path f.operationId f.parameters with
  | some found =>
    rw [hfault] at h
    cases h
    obtain rfl : reason = found := by simpa using hmem
    rfl
  | none =>
    obtain ⟨hmethod, -, -⟩ := fault?_eq_none_iff.1 hfault
    obtain ⟨method, hmethod⟩ := Option.isSome_iff_exists.1 hmethod
    rw [hfault, hmethod] at h
    cases h

/-- An endpoint is rejected for what is at fault with its fields. -/
theorem fault?_of_rejects {f : EndpointFields} {summary description security tags : Value} {e : Failure}
    {reason : String} (h : Endpoint.make f summary description security tags = .error e) (he : e.Rejects reason) :
    Endpoint.fault? f.method f.path f.operationId f.parameters = some reason := by
  obtain ⟨is, rfl, hmem⟩ := he
  unfold Endpoint.make at h
  extract_lets change all at h
  have hparts : all.InParts :=
    ((((inParts_ok change).also (inParts_within _ _)).also (inParts_within _ _)).also
      (inParts_within _ _)).also (inParts_within _ _)
  cases hall : all with
  | error js =>
    rw [hall] at h
    cases h
    exact absurd rfl (hparts _ hall _ hmem)
  | ok g =>
    obtain ⟨_, tags, h₄, -, hg⟩ := also_eq_ok.1 hall
    obtain ⟨_, security, h₃, -, rfl⟩ := also_eq_ok.1 h₄
    obtain ⟨_, description, h₂, -, rfl⟩ := also_eq_ok.1 h₃
    obtain ⟨_, summary, h₁, -, rfl⟩ := also_eq_ok.1 h₂
    cases h₁
    rw [hall, ← hg] at h
    exact fault?_of_endpoint (f := change summary description security tags) h hmem

/-! ## Fields that pass -/

section

variable {α : Type} {check : Value → Checked α}

theorem exists_all {xs : List (Checked α)} (h : ∀ x ∈ xs, ∃ a, x = .ok a) : ∃ ys, all xs = .ok ys := by
  induction xs with
  | nil => exact ⟨[], rfl⟩
  | cons x xs ih =>
    obtain ⟨a, rfl⟩ := h x List.mem_cons_self
    obtain ⟨ys, hys⟩ := ih fun y hy => h y (List.mem_cons_of_mem _ hy)
    exact ⟨a :: ys, also_eq_ok.2 ⟨_, ys, rfl, hys, rfl⟩⟩

theorem mem_items_ok {vs : List Value} (h : ∀ v ∈ vs, ∃ a, check v = .ok a) (i : Nat) :
    ∀ x ∈ items check i vs, ∃ a, x = .ok a := by
  induction vs generalizing i with
  | nil => simp [items]
  | cons v vs ih =>
    refine List.forall_mem_cons.2 ⟨?_, ih (fun w hw => h w (List.mem_cons_of_mem _ hw)) (i + 1)⟩
    obtain ⟨a, ha⟩ := h v List.mem_cons_self
    exact ⟨a, within_eq_ok_iff.2 ha⟩

theorem exists_list {vs : List Value} (h : ∀ v ∈ vs, ∃ a, check v = .ok a) (o : Origin) :
    ∃ ys, list o check (.list vs) = .ok ys :=
  exists_all (mem_items_ok h 0)

theorem exists_object (ms : List (String × Value)) (o : Origin) :
    ∃ fs, object o free (fields ms) = .ok fs := by
  have hentries : ∀ x ∈ (ms.map fun m => (Value.text m.1, m.2)).map (entry free), ∃ a, x = .ok a := by
    simp only [List.map_map, List.forall_mem_map]
    exact fun m _ => ⟨m, rfl⟩
  obtain ⟨fs, hfs⟩ := exists_all hentries
  exact ⟨ofNamed fs, map_eq_ok.2 ⟨fs, hfs, rfl⟩⟩

end

/-- Fields that a reader puts together, with a path that starts with a slash, are those of an endpoint. -/
theorem exists_make {f : EndpointFields} (h : f.Assembled) (hpath : f.path.startsWith "/" = true)
    {asked tags : List Value} (hasked : ∀ v ∈ asked, ∃ ms, v = fields ms) (htags : ∀ v ∈ tags, ∃ s, v = .text s)
    (summary description : String) :
    ∃ e, Endpoint.make f (.text summary) (.text description) (.list asked) (.list tags) = .ok e := by
  have hobjects : ∀ v ∈ asked, ∃ fs, object .document free v = .ok fs := by
    intro v hv
    obtain ⟨ms, rfl⟩ := hasked v hv
    exact exists_object ms .document
  have htexts : ∀ v ∈ tags, ∃ s, text v = .ok s := by
    intro v hv
    obtain ⟨s, rfl⟩ := htags v hv
    exact ⟨s, rfl⟩
  obtain ⟨security, hsecurity⟩ := exists_list hobjects .document
  obtain ⟨ts, hts⟩ := exists_list htexts .document
  obtain ⟨method, hmethod⟩ := h.method
  have hfault := h.fault?_eq
  rw [if_pos hpath] at hfault
  refine ⟨_, asKind_eq_ok.2 (except_bind_eq_ok.2 ⟨{ f with summary, description, security, tags := ts }, ?_,
    endpoint_eq_ok.2 ⟨method, hfault, hmethod, rfl⟩⟩)⟩
  refine also_eq_ok.2 ⟨_, ts, also_eq_ok.2 ⟨_, security, rfl, ?_, rfl⟩, ?_, rfl⟩
  · exact within_eq_ok_iff.2 hsecurity
  · exact within_eq_ok_iff.2 hts

namespace Postman

/-- What a request of its own asks for is given in fields. -/
theorem fields_of_security {v : Value} {asked : List Value} (h : security v = .ok asked) :
    ∀ a ∈ asked, ∃ ms, a = fields ms := by
  unfold security at h
  split at h
  · split at h
    · cases h
      simp
    · cases h
      simp
    · obtain ⟨settings, -, heq⟩ := except_bind_eq_ok.1 h
      cases heq
      simp
    · cases h
      simp
  · cases h
    simp

theorem text_of_folderTags {folders tags : List Value} (h : folderTags folders = .ok tags) :
    ∀ t ∈ tags, ∃ s, t = .text s := by
  unfold folderTags at h
  split at h
  · cases h
    simp
  · obtain ⟨names, -, heq⟩ := except_bind_eq_ok.1 h
    cases heq
    simp

/-- A request of a known verb can be broken or hold broken parts, but what is put together from it is an
endpoint. -/
theorem endpoint?_ne_invalid (r : Request) (is : List Issue) :
    (endpoint? r).outcome ≠ .error (.invalid "ApiEndpoint" is) := by
  suffices h : FailsAs (fun f => ∀ is, f ≠ .invalid "ApiEndpoint" is) (endpoint? r).outcome from
    fun hfail => h _ hfail is rfl
  refine failsAs_endpoint? (fun _ => holds_of_partKind fun _ h => h) ?_ (admits_of_beside (fun _ h => h) _)
  intro f hf hpath summary described auth asked folders tags hasked htags
  obtain ⟨e, he⟩ := exists_make hf hpath (fields_of_security hasked) (text_of_folderTags htags) summary described
  rw [he]
  exact FailsAs.ok e

end Postman

namespace Page

theorem startsWith_rooted (path : List Char) : (String.ofList (rooted path)).startsWith "/" = true := by
  unfold rooted
  split <;> simp [String.startsWith_string_iff]

/-- The endpoint of a known verb. -/
theorem exists_endpointAt (method : Method) (path : List Char) (description : String) (params : List Param) :
    ∃ e, endpointAt method.name (.ofList (rooted path)) description params = .ok e := by
  unfold endpointAt
  refine exists_make ⟨⟨method, rfl⟩, ?_, ⟨params, rfl⟩⟩ ?_ (by simp) (by simp) _ _
  · rw [String.toList_ofList]
    exact lowerCamel_derivedIdentifier method _
  · exact startsWith_rooted path

/-- A request on a page gives an endpoint, if its verb is known and its path can be told. -/
theorem exists_endpointIn? {text : String} {m : Mention} {path : List Char} {method : Method}
    (hm : request? text.toList = some m) (hpath : cleanPath m.token = .ok path)
    (hmethod : Method.ofName? (String.ofList m.verb).uppered = some method) (description : String) :
    ∃ e, (endpointIn? text description).outcome = .ok (some e) ∧ e.route = (method, .ofList path) := by
  have hverb : (String.ofList m.verb).uppered = method.name := ofName?_eq_some.1 hmethod
  obtain ⟨token, -, htidy⟩ := map_eq_ok.1 hpath
  obtain ⟨e, he⟩ : ∃ e, endpointAt method.name (.ofList path) description (params text.toList) = .ok e := by
    rw [← htidy]
    exact exists_endpointAt method _ description _
  obtain ⟨-, hname, hroute, -⟩ := make_eq_ok he
  refine ⟨e, ?_, Prod.ext (name_inj hname).symm hroute⟩
  simp only [endpointIn?, hm, Traced.outcome_bind, Traced.outcome_liftM, hpath, Except.bind, hverb, he,
    Traced.outcome_pure]

end Page

namespace OpenApi

/-- An operation is rejected only because its path does not start with a slash. -/
theorem unrooted_of_rejects {o : Operation} {f : Failure} {reason : String} (h : o.endpoint.outcome = .error f)
    (hreason : f.Rejects reason) : ∃ path, o.path = .text path ∧ path.startsWith "/" = false ∧
      reason = "path must start with '/': " ++ Text.quoted path := by
  let p (f : Failure) : Prop := ∀ reason, f.Rejects reason → ∃ path, o.path = .text path ∧
    path.startsWith "/" = false ∧ reason = "path must start with '/': " ++ Text.quoted path
  have hbeside : ∀ f, (∀ is, f ≠ .invalid "ApiEndpoint" is) → p f := by
    rintro f hf reason ⟨is, hinvalid, -⟩
    exact absurd hinvalid (hf is)
  suffices hfails : FailsAs p o.endpoint.outcome from hfails f h reason hreason
  refine Operation.failsAs_endpoint (fun _ => holds_of_partKind hbeside) ?_ (admits_of_beside hbeside _)
  intro fields hfields hpath summary description security tags f hf reason hreason
  have hfault := fault?_of_rejects hf hreason
  rw [hfields.fault?_eq] at hfault
  split at hfault
  · cases hfault
  · rename_i hrooted
    cases hfault
    exact ⟨fields.path, Postman.asText_eq_ok.1 hpath, Bool.eq_false_iff.2 hrooted, rfl⟩

end OpenApi

/-! ## All readers -/

/-- A path's placeholders that no path parameter declares get a parameter each, once, after those given. So
whatever is put together from a request in a collection or on a page, of a known verb, passes the check of
endpoints, and what is put together from an operation does if its path starts with a slash. -/
theorem rejects_only_unrooted :
    (∀ path params, ∃ added, withPathParams path params = params ++ added ∧ Completion path params added ∧
      withPathParams path (params ++ added) = params ++ added) ∧
    (∀ (r : Postman.Request) (is : List Issue),
      (Postman.endpoint? r).outcome ≠ .error (.invalid "ApiEndpoint" is)) ∧
    (∀ (text description : String) (m : Page.Mention) (path : List Char) (method : Method),
      Page.request? text.toList = some m → Page.cleanPath m.token = .ok path →
      Method.ofName? (String.ofList m.verb).uppered = some method →
      ∃ e, (Page.endpointIn? text description).outcome = .ok (some e) ∧ e.route = (method, .ofList path)) ∧
    (∀ (o : OpenApi.Operation) (f : Failure) (reason : String),
      o.endpoint.outcome = .error f → f.Rejects reason →
      ∃ path, o.path = .text path ∧ path.startsWith "/" = false ∧
        reason = "path must start with '/': " ++ Text.quoted path) := by
  refine ⟨fun path params => ?_, Postman.endpoint?_ne_invalid, ?_, fun o f reason => OpenApi.unrooted_of_rejects⟩
  · obtain ⟨added, hall, hadded⟩ := completion_withPathParams path params
    exact ⟨added, hall, hadded, by rw [← hall, withPathParams_withPathParams]⟩
  · intro text description m path method hm hpath hmethod
    exact Page.exists_endpointIn? hm hpath hmethod description

/-- An operation of a path without a slash before it. -/
def unrootedOperation : OpenApi.Operation :=
  { doc := [], path := .text "a", shared := .list [], method := .get, fields := [] }

/-- A request on a page that gives an endpoint, and an operation that is rejected. -/
theorem rejects_unrootedOperation :
    (∃ e, (Page.endpointIn? "GET /pets/\x7bid\x7d" "").outcome = .ok (some e) ∧
      e.route = (.get, "/pets/\x7bid\x7d")) ∧
    ∃ f reason, unrootedOperation.endpoint.outcome = .error f ∧ f.Rejects reason ∧
      ∃ path, unrootedOperation.path = .text path ∧ path.startsWith "/" = false ∧
        reason = "path must start with '/': " ++ Text.quoted path := by
  obtain ⟨-, -, hpage, hoperation⟩ := rejects_only_unrooted
  refine ⟨?_, ?_⟩
  · exact hpage "GET /pets/\x7bid\x7d" "" ⟨"GET".toList, "/pets/\x7bid\x7d".toList⟩ "/pets/\x7bid\x7d".toList .get
      (by decide +kernel) (by decide +kernel) (by decide +kernel)
  · have hfails : unrootedOperation.endpoint.outcome =
        .error (.invalid "ApiEndpoint" [⟨[], .inconsistent "path must start with '/': 'a'"⟩]) :=
      failure?_eq_some.1 (by decide +kernel)
    have hrejects : Failure.Rejects (.invalid "ApiEndpoint" [⟨[], .inconsistent "path must start with '/': 'a'"⟩])
        "path must start with '/': 'a'" := ⟨_, rfl, List.mem_singleton_self _⟩
    exact ⟨_, _, hfails, hrejects, hoperation _ _ _ hfails hrejects⟩

end ClientForge
