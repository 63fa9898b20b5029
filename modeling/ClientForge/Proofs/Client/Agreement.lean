import ClientForge.Proofs.Client.Building
import ClientForge.Proofs.Client.Samples
import Mathlib.Data.List.Forall2

/-!
What of an API its clients show. Two endpoints of the same shape give methods that differ in the samples of
the arguments in their paths at most (`Endpoint.SameShape.blank_arguments`). If they have the same samples
too, and the rest of the APIs agrees, the clients are the same, as far as there are any
(`Target.generateNoted_of_agrees`): an example in a query does not show, but one too long to be shown stops the
generation (`tidesApiLong_not_alike`).
-/

namespace ClientForge

/-! ## Arguments -/

/-- The argument without its type and its sample. -/
def Argument.blank (a : Argument) : Argument := { a with type := "string", sample := "" }

theorem Argument.bare_eq_blank {a : Argument} (h : a.place ≠ .path) : a.bare = a.blank := by
  unfold bare blank
  rw [if_neg h]

theorem nameArguments_blank (t : Target) (taken : List (List Char)) (as : List Argument) :
    nameArguments t taken (as.map Argument.blank) = (nameArguments t taken as).map Argument.blank := by
  induction as generalizing taken with
  | nil => rfl
  | cons a as ih => exact congrArg (_ :: ·) (ih _)

/-- What an argument passes, and where. -/
def Argument.passes (a : Argument) : Place × String := (a.place, a.sample)

theorem nameArguments_passes (t : Target) (taken : List (List Char)) (as : List Argument) :
    (nameArguments t taken as).map Argument.passes = as.map Argument.passes := by
  induction as generalizing taken with
  | nil => rfl
  | cons a as ih => exact congrArg (_ :: ·) (ih _)

theorem map_bare_eq_zipWith (as : List Argument) :
    as.map Argument.bare = (as.map Argument.blank).zipWith
      (fun a sample => { a with sample := if a.place = .path then sample else "" }) (as.map Argument.sample) := by
  induction as with
  | nil => rfl
  | cons a as ih => exact congrArg (a.bare :: ·) ih

/-- Arguments that differ in their types and samples alone show the same if their samples are the same. -/
theorem map_bare_of_blank {as bs : List Argument} (hblank : as.map Argument.blank = bs.map Argument.blank)
    (hsample : as.map Argument.sample = bs.map Argument.sample) : as.map Argument.bare = bs.map Argument.bare := by
  rw [map_bare_eq_zipWith as, hblank, hsample, ← map_bare_eq_zipWith]

/-! ## Endpoints -/

namespace Endpoint

/-- The arguments of requests to an endpoint, not named yet. -/
def unnamed (e : Endpoint) : List Argument :=
  (e.paramsIn .path).map (Argument.ofParam · .path) ++ (e.paramsIn .query).map (Argument.ofParam · .query) ++
    (e.sentBody.map Argument.ofBody).toList

/-- The arguments for a place. -/
def argumentsIn (t : Target) (e : Endpoint) (p : Place) : List Argument :=
  (e.arguments t).filter (·.place == p)

theorem place_of_mem_argumentsIn {t : Target} {e : Endpoint} {p : Place} {a : Argument}
    (h : a ∈ e.argumentsIn t p) : a.place = p := by
  simpa using (List.mem_filter.1 h).2

theorem map_bare_argumentsIn {t : Target} (e : Endpoint) {p : Place} (h : p ≠ .path) :
    (e.argumentsIn t p).map Argument.bare = (e.argumentsIn t p).map Argument.blank := by
  refine List.map_congr_left fun a ha => Argument.bare_eq_blank ?_
  rwa [place_of_mem_argumentsIn ha]

/-- What calls pass for a place is what the parameters and the body have for it. -/
theorem samples_argumentsIn (t : Target) (e : Endpoint) (p : Place) :
    (e.argumentsIn t p).map Argument.sample = (e.unnamed.filter (·.place == p)).map Argument.sample := by
  have hpasses : ∀ as : List Argument, (as.filter (·.place == p)).map Argument.sample =
      ((as.map Argument.passes).filter (·.1 == p)).map Prod.snd := by
    intro as
    rw [List.filter_map, List.map_map]
    rfl
  unfold argumentsIn
  rw [hpasses, hpasses]
  show (((nameArguments t [] e.unnamed).map _).filter _).map _ = _
  rw [nameArguments_passes]

theorem filter_ofParam (ps : List Param) (p q : Place) :
    (ps.map (Argument.ofParam · q)).filter (·.place == p) =
      if q = p then ps.map (Argument.ofParam · q) else [] := by
  by_cases h : q = p <;> simp [Argument.ofParam, h]

theorem filter_ofBody (b : Option Body) (p : Place) :
    (b.map Argument.ofBody).toList.filter (·.place == p) =
      if .body = p then (b.map Argument.ofBody).toList else [] := by
  cases b <;> cases p <;> rfl

/-- The arguments of requests to an endpoint for a place, not named yet. -/
def unnamedIn (e : Endpoint) : Place → List Argument
  | .path => (e.paramsIn .path).map (Argument.ofParam · .path)
  | .query => (e.paramsIn .query).map (Argument.ofParam · .query)
  | .body => (e.sentBody.map Argument.ofBody).toList

theorem filter_unnamed (e : Endpoint) (p : Place) : e.unnamed.filter (·.place == p) = e.unnamedIn p := by
  unfold unnamed
  rw [List.filter_append, List.filter_append, filter_ofParam, filter_ofParam, filter_ofBody]
  cases p <;> simp [unnamedIn]

/-- The samples of the parameters in the path. -/
def samples (e : Endpoint) : List String := (e.paramsIn .path).map Param.sample

theorem samples_pathArgs (t : Target) (e : Endpoint) : (e.argumentsIn t .path).map Argument.sample = e.samples := by
  rw [samples_argumentsIn, filter_unnamed]
  simp [unnamedIn, samples, Argument.ofParam]

/-- Endpoints that clients show alike, but for the samples of the parameters in their paths. -/
structure SameShape (e e' : Endpoint) : Prop where
  method : e.method = e'.method
  path : e.path = e'.path
  operationId : e.operationId = e'.operationId
  summary : e.summary = e'.summary
  description : e.description = e'.description
  pathParams : (e.paramsIn .path).map (fun p => (p.name, p.description)) =
    (e'.paramsIn .path).map fun p => (p.name, p.description)
  queryParams : (e.paramsIn .query).map (fun p => (p.name, p.required, p.description)) =
    (e'.paramsIn .query).map fun p => (p.name, p.required, p.description)
  body : e.sentBody.map (fun b => (b.required, b.mediaType)) = e'.sentBody.map fun b => (b.required, b.mediaType)
  responses : e.responses.map (fun r => (r.1, r.2.description)) = e'.responses.map fun r => (r.1, r.2.description)

/-- Endpoints that clients show alike. -/
structure ShowsAs (e e' : Endpoint) : Prop extends SameShape e e' where
  samples : e.samples = e'.samples

/-- Endpoints of one shape whose parameters in the path have the same examples and choices. The rest may differ:
other examples, types and formats, parameters in headers, what payloads look like, tags and security. -/
structure AgreesWith (e e' : Endpoint) : Prop extends SameShape e e' where
  examples : (e.paramsIn .path).map (fun p => (p.example?, p.choices)) =
    (e'.paramsIn .path).map fun p => (p.example?, p.choices)

/-- The samples of the parameters in the path come from their examples and choices. -/
theorem AgreesWith.showsAs {e e' : Endpoint} (h : e.AgreesWith e') : e.ShowsAs e' where
  toSameShape := h.toSameShape
  samples := by
    let sampleOf (x : Value × Option (List Value)) : String :=
      { name := "", location := .path, example? := x.1, choices := x.2 : Param }.sample
    have hsamples : ∀ e : Endpoint,
        e.samples = ((e.paramsIn .path).map fun p => (p.example?, p.choices)).map sampleOf := by
      intro e
      rw [List.map_map]
      rfl
    rw [hsamples, hsamples, h.examples]

namespace SameShape

variable {e e' : Endpoint}

theorem blank_unnamed (h : e.SameShape e') : e.unnamed.map Argument.blank = e'.unnamed.map Argument.blank := by
  let ofPath (x : String × String) : Argument :=
    { name := x.1, ident := "", place := .path, required := true, description := x.2 }
  let ofQuery (x : String × Bool × String) : Argument :=
    { name := x.1, ident := "", place := .query, required := x.2.1, description := x.2.2 }
  let ofBody (x : Bool × String) : Argument := { name := "body", ident := "", place := .body, required := x.1 }
  have hpath := congrArg (List.map ofPath) h.pathParams
  have hquery := congrArg (List.map ofQuery) h.queryParams
  have hbody := congrArg (Option.map ofBody) h.body
  rw [List.map_map, List.map_map] at hpath hquery
  rw [Option.map_map, Option.map_map] at hbody
  have hblank : ∀ e : Endpoint, e.unnamed.map Argument.blank =
      (e.paramsIn .path).map (ofPath ∘ fun p => (p.name, p.description)) ++
        (e.paramsIn .query).map (ofQuery ∘ fun p => (p.name, p.required, p.description)) ++
        (e.sentBody.map (ofBody ∘ fun b => (b.required, b.mediaType))).toList := by
    intro e
    unfold unnamed
    rw [List.map_append, List.map_append, List.map_map, List.map_map]
    cases e.sentBody <;> rfl
  rw [hblank, hblank, hpath, hquery, hbody]

theorem blank_arguments (h : e.SameShape e') (t : Target) :
    (e.arguments t).map Argument.blank = (e'.arguments t).map Argument.blank := by
  show (nameArguments t [] e.unnamed).map _ = (nameArguments t [] e'.unnamed).map _
  rw [← nameArguments_blank, ← nameArguments_blank, h.blank_unnamed]

theorem blank_argumentsIn (h : e.SameShape e') (t : Target) (p : Place) :
    (e.argumentsIn t p).map Argument.blank = (e'.argumentsIn t p).map Argument.blank := by
  have hfilter : ∀ as : List Argument,
      (as.filter (·.place == p)).map Argument.blank = (as.map Argument.blank).filter (·.place == p) := by
    intro as
    rw [List.filter_map]
    rfl
  unfold argumentsIn
  rw [hfilter, hfilter, h.blank_arguments]

theorem bare_argumentsIn (h : e.SameShape e') (t : Target) {p : Place} (hp : p ≠ .path) :
    (e.argumentsIn t p).map Argument.bare = (e'.argumentsIn t p).map Argument.bare := by
  rw [map_bare_argumentsIn e hp, map_bare_argumentsIn e' hp, h.blank_argumentsIn]

end SameShape

theorem ShowsAs.bare_pathArgs {e e' : Endpoint} (h : e.ShowsAs e') (t : Target) :
    (e.argumentsIn t .path).map Argument.bare = (e'.argumentsIn t .path).map Argument.bare := by
  refine map_bare_of_blank (h.blank_argumentsIn t .path) ?_
  rw [samples_pathArgs, samples_pathArgs, h.samples]

end Endpoint

/-! ## Methods -/

namespace MethodPlan

variable {e e' : Endpoint}

theorem bare_body_ofEndpoint (h : e.SameShape e') (t : Target) (name : String) :
    (ofEndpoint t name e).body.map Payload.bare = (ofEndpoint t name e').body.map Payload.bare := by
  let ofParts (mediaType : String) (a : Argument) : Payload := ⟨a, .ofMediaType mediaType, mediaType⟩
  have hparts : ∀ e : Endpoint, (ofEndpoint t name e).body.map Payload.bare =
      (e.sentBody.map fun b => (b.required, b.mediaType)).bind fun x =>
        (((e.argumentsIn t .body).map Argument.bare).head?).map (ofParts x.2) := by
    intro e
    show (e.sentBody.bind fun b => (e.argumentsIn t .body).head?.bind fun a => some _).map _ = _
    cases e.sentBody with
    | none => rfl
    | some b => cases e.argumentsIn t .body <;> rfl
  rw [hparts, hparts, h.body, h.bare_argumentsIn t (by decide)]

/-- Endpoints that clients show alike have methods that show the same. -/
theorem bare_ofEndpoint (h : e.ShowsAs e') (t : Target) (name : String) :
    (ofEndpoint t name e).bare = (ofEndpoint t name e').bare := by
  have hsummary : (ofEndpoint t name e).summary = (ofEndpoint t name e').summary := by
    show firstFilled [e.summary, e.description] (e.method.name ++ " " ++ e.path) = _
    rw [h.summary, h.description, h.method, h.path]
    rfl
  show MethodPlan.mk name e.method e.path (ofEndpoint t name e).summary ((e.argumentsIn t .path).map _)
    ((e.argumentsIn t .query).map _) ((ofEndpoint t name e).body.map _) (e.responses.map _) = _
  rw [h.method, h.path, hsummary, h.bare_pathArgs, h.bare_argumentsIn t (by decide),
    bare_body_ofEndpoint h.toSameShape, h.responses]
  rfl

end MethodPlan

/-! ## APIs -/

theorem methodNames_of_sameShape (t : Target) (taken : List (List Char)) {es es' : List Endpoint}
    (h : List.Forall₂ Endpoint.SameShape es es') : methodNames t taken es = methodNames t taken es' := by
  induction h generalizing taken with
  | nil => rfl
  | @cons e e' es es' hhead _ ih =>
    have hbase : e.baseName t = e'.baseName t := by
      unfold Endpoint.baseName
      rw [hhead.operationId, hhead.method, hhead.path]
    simp only [methodNames, hbase, ih]

/-- APIs that agree on all that clients show apart from endpoints, and whose endpoints are related. -/
structure Api.Agrees (R : Endpoint → Endpoint → Prop) (a b : Api) : Prop where
  title : a.title = b.title
  description : a.description = b.description
  baseUrl : a.baseUrl = b.baseUrl
  kind : a.auth.scheme.kind = b.auth.scheme.kind
  keyHeader : a.auth.scheme.keyHeader = b.auth.scheme.keyHeader
  endpoints : List.Forall₂ R a.endpoints b.endpoints

theorem Api.Agrees.imp {R S : Endpoint → Endpoint → Prop} {a b : Api} (h : a.Agrees R b)
    (himp : ∀ e e', R e e' → S e e') : a.Agrees S b :=
  { h with endpoints := h.endpoints.imp himp }

theorem Scheme.bare_eq {s s' : Scheme} (hkind : s.kind = s'.kind) (hheader : s.keyHeader = s'.keyHeader) :
    s.bare = s'.bare := by
  cases s <;> cases s' <;> simp_all [Scheme.kind, Scheme.keyHeader, Scheme.bare]

theorem bare_zipWith_ofEndpoint (t : Target) (names : List (List Char)) {es es' : List Endpoint}
    (h : List.Forall₂ Endpoint.ShowsAs es es') :
    (names.zipWith (fun name e => MethodPlan.ofEndpoint t (.ofList name) e) es).map MethodPlan.bare =
      (names.zipWith (fun name e => MethodPlan.ofEndpoint t (.ofList name) e) es').map MethodPlan.bare := by
  induction h generalizing names with
  | nil => rfl
  | @cons e e' es es' hhead _ ih =>
    cases names with
    | nil => rfl
    | cons name names =>
      rw [List.zipWith_cons_cons, List.zipWith_cons_cons, List.map_cons, List.map_cons,
        MethodPlan.bare_ofEndpoint hhead, ih]

/-- The plans for APIs whose endpoints clients show alike show the same. -/
theorem ClientPlan.bare_ofApi (t : Target) {a b : Api} (h : a.Agrees Endpoint.ShowsAs b) :
    (ClientPlan.ofApi t a).bare = (ClientPlan.ofApi t b).bare := by
  have hnames := methodNames_of_sameShape t [] (h.endpoints.imp fun _ _ hshows => hshows.toSameShape)
  have hmethods : (ClientPlan.ofApi t a).methods.map MethodPlan.bare =
      (ClientPlan.ofApi t b).methods.map MethodPlan.bare := by
    show ((methodNames t [] a.endpoints).zipWith _ a.endpoints).map _ = _
    rw [hnames, bare_zipWith_ofEndpoint t _ h.endpoints]
    rfl
  unfold bare
  rw [hmethods]
  simp only [ofApi, h.title, h.description, h.baseUrl, Scheme.bare_eq h.kind h.keyHeader]

theorem Target.generate_of_showsAs (t : Target) {a b : Api} (h : a.Agrees Endpoint.ShowsAs b) :
    t.generate a = t.generate b := by
  unfold generate
  rw [← t.files_bare (.ofApi t a), ClientPlan.bare_ofApi t h, t.files_bare]

/-- Parameters in paths with the same examples and choices can be shown alike. -/
theorem Endpoint.AgreesWith.showsSamplesIn_path {e e' : Endpoint} (h : e.AgreesWith e') :
    e.ShowsSamplesIn .path ↔ e'.ShowsSamplesIn .path := by
  let Shows (x : Value × Option (List Value)) : Prop :=
    { name := "", location := .path, example? := x.1, choices := x.2 : Param }.ShowsSample
  have hshows : ∀ e : Endpoint,
      e.ShowsSamplesIn .path ↔ ∀ x ∈ (e.paramsIn .path).map fun p => (p.example?, p.choices), Shows x := by
    intro e
    rw [List.forall_mem_map]
    rfl
  rw [hshows, hshows, h.examples]

theorem Api.Agrees.showsSamplesIn_path {a b : Api} (h : a.Agrees Endpoint.AgreesWith b) :
    a.ShowsSamplesIn .path ↔ b.ShowsSamplesIn .path := by
  obtain ⟨-, -, -, -, -, hendpoints⟩ := h
  unfold Api.ShowsSamplesIn
  generalize a.endpoints = es at hendpoints ⊢
  generalize b.endpoints = es' at hendpoints ⊢
  induction hendpoints with
  | nil => exact Iff.rfl
  | cons hhead _ ih => rw [List.forall_mem_cons, List.forall_mem_cons, hhead.showsSamplesIn_path, ih]

/-- Nothing reaches a client but the title, the description and the address of the API, how clients prove who
they are, and of each endpoint what `Endpoint.AgreesWith` compares. Examples in queries only decide whether there is a
client: there is none if one of them cannot be shown. -/
theorem Target.generateNoted_of_agrees (t : Target) {a b : Api} (h : a.Agrees Endpoint.AgreesWith b) :
    ∃ files : List Artifact,
      (t.generateNoted a).outcome = (if a.ShowsSamplesIn .path ∧ a.ShowsSamplesIn .query then .ok files
        else .error (.broken .badValue)) ∧
      (t.generateNoted b).outcome = (if a.ShowsSamplesIn .path ∧ b.ShowsSamplesIn .query then .ok files
        else .error (.broken .badValue)) := by
  refine ⟨t.generate a, t.outcome_generateNoted a, ?_⟩
  rw [t.outcome_generateNoted b, t.generate_of_showsAs (h.imp fun _ _ => Endpoint.AgreesWith.showsAs)]
  refine if_congr ?_ rfl rfl
  rw [h.showsSamplesIn_path]
  rfl

/-- An API with a token among its examples. -/
def tidesApi : Api :=
  { title := "Tides", version := "2.1.0"
    auth := { scheme := .apiKey "X-Tide-Key" .header, description := some "ask the harbour master" }
    endpoints := [
      { method := .put, path := "/ports/{port}", operationId := "setPort"
        parameters := [
          { name := "X-Trace", location := .header, example? := .text "s3cret" },
          { name := "port", location := .path, type := "integer", example? := .int 7 },
          { name := "day", location := .query, example? := .text "today", format := some "date" }]
        body := some { sketch := { type := some "object", example? := .text "s3cret" } }
        responses := [("200", { description := "Stored", mediaType := "text/plain" })]
        security := [[("key", .list [])]], tags := ["ports"] }] }

/-- The same without what clients do not show. -/
def tidesApiPlain : Api :=
  { title := "Tides"
    auth := { scheme := .apiKey "X-Tide-Key" .query }
    endpoints := [
      { method := .put, path := "/ports/{port}", operationId := "setPort"
        parameters := [
          { name := "day", location := .query },
          { name := "port", location := .path, example? := .int 7 }]
        body := some {}
        responses := [("200", { description := "Stored" })] }] }

theorem Target.generateNoted_tidesApi :
    tidesApi.Agrees Endpoint.AgreesWith tidesApiPlain ∧ ∃ files,
      (Target.node.generateNoted tidesApi).outcome = .ok files ∧
        (Target.node.generateNoted tidesApiPlain).outcome = .ok files := by
  have hendpoints : List.Forall₂ Endpoint.AgreesWith tidesApi.endpoints tidesApiPlain.endpoints :=
    .cons ⟨⟨rfl, rfl, rfl, rfl, rfl, rfl, rfl, rfl, rfl⟩, rfl⟩ .nil
  have hagrees : tidesApi.Agrees Endpoint.AgreesWith tidesApiPlain := ⟨rfl, rfl, rfl, rfl, rfl, hendpoints⟩
  obtain ⟨files, ha, hb⟩ := Target.node.generateNoted_of_agrees hagrees
  rw [if_pos (by decide +kernel)] at ha hb
  exact ⟨hagrees, files, ha, hb⟩

/-- The same with an example in the query that has more digits than can be shown. -/
def tidesApiLong : Api :=
  { tidesApiPlain with
    endpoints := [
      { method := .put, path := "/ports/{port}", operationId := "setPort"
        parameters := [
          { name := "day", location := .query, example? := .int (.ofNat (Nat.pow 10 Value.displayLimit)) },
          { name := "port", location := .path, example? := .int 7 }]
        body := some {}
        responses := [("200", { description := "Stored" })] }] }

/-- There is no client for it, in any language. -/
theorem tidesApiLong_not_alike : tidesApiLong.Agrees Endpoint.AgreesWith tidesApiPlain ∧
    ∀ t : Target, (t.generateNoted tidesApiLong).outcome ≠ (t.generateNoted tidesApiPlain).outcome := by
  have hendpoints : List.Forall₂ Endpoint.AgreesWith tidesApiLong.endpoints tidesApiPlain.endpoints :=
    .cons ⟨⟨rfl, rfl, rfl, rfl, rfl, rfl, rfl, rfl, rfl⟩, rfl⟩ .nil
  refine ⟨⟨rfl, rfl, rfl, rfl, rfl, hendpoints⟩, fun t heq => ?_⟩
  have hlong : ¬tidesApiLong.ShowsSamples := by decide +kernel
  have hshort : tidesApiPlain.ShowsSamples := by decide +kernel
  rw [t.outcome_generateNoted, t.outcome_generateNoted, if_neg hlong, if_pos hshort] at heq
  cases heq

end ClientForge
