import ClientForge.Proofs.Client.Agreement
import ClientForge.Proofs.Client.Arguments
import ClientForge.Proofs.Client.SavedPlan

/-!
Methods and the parameters of their endpoints. Without its ident an argument is what requests to the endpoint need,
whatever the language (`Endpoint.unnamed_argumentsIn`), so each stands for a parameter in the path, for one in the
query or for the body, and naming keeps them apart (`nodup_nameArguments`). Thus a method serves its endpoint
(`MethodPlan.serves_ofEndpoint`), and languages disagree on names alone (`map_unnamed_methods`).
-/

namespace ClientForge

/-! ## Names that keep apart -/

theorem fresh_not_mem (taken : List (List Char)) (name : List Char) : fresh taken name ∉ taken := by
  unfold fresh
  by_cases h : name ∈ taken
  · simpa [h] using freeName_not_mem taken name
  · simp [h]

/-- The idents are all different, and none was taken at the start. -/
theorem nodup_nameArguments (t : Target) (taken : List (List Char)) (as : List Argument) :
    ((nameArguments t taken as).map (·.ident.toList)).Nodup ∧
      ∀ s ∈ (nameArguments t taken as).map (·.ident.toList), s ∉ taken := by
  induction as generalizing taken with
  | nil => simp [nameArguments]
  | cons a as ih =>
    have hnew := fresh_not_mem taken (t.paramName a.name.toList)
    simpa [nameArguments] using nodup_cons_of_apart hnew (ih (fresh taken (t.paramName a.name.toList) :: taken))

theorem Endpoint.nodup_arguments (t : Target) (e : Endpoint) : ((e.arguments t).map (·.ident)).Nodup := by
  have hnodup := (nodup_nameArguments t [] e.unnamed).1
  refine List.Nodup.of_map String.toList ?_
  rwa [List.map_map]

/-! ## Plans without names -/

/-- The argument without its ident. -/
def Argument.unnamed (a : Argument) : Argument := { a with ident := "" }

def Payload.unnamed (b : Payload) : Payload := { b with argument := b.argument.unnamed }

def MethodPlan.unnamed (m : MethodPlan) : MethodPlan :=
  { m with
    name := ""
    pathArgs := m.pathArgs.map Argument.unnamed
    queryArgs := m.queryArgs.map Argument.unnamed
    body := m.body.map Payload.unnamed }

/-- The plan without the names of methods and arguments. -/
def ClientPlan.unnamed (p : ClientPlan) : ClientPlan := { p with methods := p.methods.map MethodPlan.unnamed }

theorem map_unnamed_nameArguments (t : Target) (taken : List (List Char)) (as : List Argument) :
    (nameArguments t taken as).map Argument.unnamed = as.map Argument.unnamed := by
  induction as generalizing taken with
  | nil => rfl
  | cons a as ih => exact congrArg (_ :: ·) (ih _)

namespace Endpoint

theorem unnamed_of_mem_unnamed {e : Endpoint} {a : Argument} (h : a ∈ e.unnamed) : a.unnamed = a := by
  simp only [unnamed, List.mem_append, List.mem_map, Option.mem_toList, Option.map_eq_some_iff] at h
  obtain (⟨p, -, rfl⟩ | ⟨p, -, rfl⟩) | ⟨b, -, rfl⟩ := h
  · rfl
  · rfl
  · rfl

/-- Without their idents the arguments for a place are those that requests need, whatever the language. -/
theorem unnamed_argumentsIn (t : Target) (e : Endpoint) (p : Place) :
    (e.argumentsIn t p).map Argument.unnamed = e.unnamedIn p := by
  have hfilter : ∀ as : List Argument,
      (as.filter (·.place == p)).map Argument.unnamed = (as.map Argument.unnamed).filter (·.place == p) := by
    intro as
    rw [List.filter_map]
    rfl
  calc (e.argumentsIn t p).map Argument.unnamed
      = ((nameArguments t [] e.unnamed).map Argument.unnamed).filter (·.place == p) := hfilter _
    _ = (e.unnamed.map Argument.unnamed).filter (·.place == p) := by rw [map_unnamed_nameArguments]
    _ = e.unnamed.filter (·.place == p) := by
        rw [List.map_congr_left fun a ha => unnamed_of_mem_unnamed ha, List.map_id']
    _ = e.unnamedIn p := e.filter_unnamed p

/-- The method for an endpoint before anything is named. -/
def unnamedMethod (e : Endpoint) : MethodPlan :=
  { name := ""
    verb := e.method
    path := e.path
    summary := firstFilled [e.summary, e.description] (e.method.name ++ " " ++ e.path)
    pathArgs := e.unnamedIn .path
    queryArgs := e.unnamedIn .query
    body := e.sentBody.map fun b => ⟨.ofBody b, .ofMediaType b.mediaType, b.mediaType⟩
    responses := e.responses.map fun r => (r.1, r.2.description) }

end Endpoint

namespace MethodPlan

/-- A method has a body if its endpoint has one, with an argument for it. -/
theorem unnamed_body_ofEndpoint (t : Target) (name : String) (e : Endpoint) :
    (ofEndpoint t name e).body.map Payload.unnamed = e.unnamedMethod.body := by
  have hargs : (e.argumentsIn t .body).map Argument.unnamed = (e.sentBody.map Argument.ofBody).toList :=
    e.unnamed_argumentsIn t .body
  have hbody : (ofEndpoint t name e).body = e.sentBody.bind fun b =>
      (e.argumentsIn t .body).head?.bind fun a => some ⟨a, .ofMediaType b.mediaType, b.mediaType⟩ := rfl
  unfold Endpoint.unnamedMethod
  cases hsent : e.sentBody with
  | none => simp [hbody, hsent]
  | some b =>
    rw [hsent] at hargs
    cases has : e.argumentsIn t .body with
    | nil => simp [has] at hargs
    | cons a as =>
      rw [has] at hargs
      have ha : a.unnamed = .ofBody b := (List.cons.inj hargs).1
      simp [hbody, hsent, has, Payload.unnamed, ha]

/-- Without its names a method for an endpoint is the same in all languages. -/
theorem unnamed_ofEndpoint (t : Target) (name : String) (e : Endpoint) :
    (ofEndpoint t name e).unnamed = e.unnamedMethod := by
  have hbody := unnamed_body_ofEndpoint t name e
  have hpath : (ofEndpoint t name e).pathArgs.map Argument.unnamed = e.unnamedIn .path :=
    e.unnamed_argumentsIn t .path
  have hquery : (ofEndpoint t name e).queryArgs.map Argument.unnamed = e.unnamedIn .query :=
    e.unnamed_argumentsIn t .query
  unfold unnamed
  rw [hbody, hpath, hquery]
  rfl

end MethodPlan

/-! ## What arguments stand for -/

/-- Does an argument for a place stand for a parameter? In a path it is required even if the parameter is not. -/
structure Argument.StandsFor (p : Place) (x : Param) (a : Argument) : Prop where
  name : a.name = x.name
  place : a.place = p
  required : a.required = (p == .path || x.required)
  type : a.type = x.type
  description : a.description = x.description
  sample : a.sample = x.sample

/-- Does a payload carry a body? -/
structure Payload.Carries (b : Body) (x : Payload) : Prop where
  name : x.argument.name = "body"
  place : x.argument.place = .body
  required : x.argument.required = b.required
  type : x.argument.type = "object"
  encoding : x.encoding = .ofMediaType b.mediaType
  mediaType : x.mediaType = b.mediaType

/-- Does a method serve an endpoint? Its arguments are those for the path, then those for the query, then that for the
body. They stand for the parameters in the path and in the query, each in order, and for the body if there is one.
Their idents are names, all different. -/
structure MethodPlan.Serves (e : Endpoint) (m : MethodPlan) : Prop where
  arguments : m.arguments = m.pathArgs ++ m.queryArgs ++ (m.body.map (·.argument)).toList
  pathArgs : List.Forall₂ (Argument.StandsFor .path) (e.paramsIn .path) m.pathArgs
  queryArgs : List.Forall₂ (Argument.StandsFor .query) (e.paramsIn .query) m.queryArgs
  body : Option.Rel Payload.Carries e.sentBody m.body
  nodup : (m.arguments.map (·.ident)).Nodup
  isName : ∀ a ∈ m.arguments, IsName a.ident.toList

theorem Argument.StandsFor.of_unnamed {p : Place} {x : Param} {a : Argument} (h : a.unnamed = .ofParam x p) :
    a.StandsFor p x := by
  unfold Argument.unnamed Argument.ofParam at h
  simp only [Argument.mk.injEq] at h
  obtain ⟨hname, -, hplace, hrequired, htype, hdescription, hsample⟩ := h
  exact ⟨hname, hplace, hrequired, htype, hdescription, hsample⟩

theorem standFor_of_unnamed {p : Place} {xs : List Param} {as : List Argument}
    (h : as.map Argument.unnamed = xs.map (Argument.ofParam · p)) :
    List.Forall₂ (Argument.StandsFor p) xs as := by
  have hsame : List.Forall₂ Eq (as.map Argument.unnamed) (xs.map (Argument.ofParam · p)) := by
    rw [h]
    exact List.forall₂_refl _
  rw [List.forall₂_map_left_iff, List.forall₂_map_right_iff] at hsame
  exact hsame.flip.imp fun x a ha => .of_unnamed ha

theorem carries_of_unnamed {b : Option Body} {x : Option Payload}
    (h : x.map Payload.unnamed = b.map fun b => ⟨.ofBody b, .ofMediaType b.mediaType, b.mediaType⟩) :
    Option.Rel Payload.Carries b x := by
  cases b with
  | none =>
    cases x with
    | none => exact .none
    | some x => simp at h
  | some b =>
    cases x with
    | none => simp at h
    | some x =>
      simp only [Option.map_some, Option.some.injEq, Payload.unnamed, Argument.unnamed, Argument.ofBody,
        Payload.mk.injEq, Argument.mk.injEq] at h
      obtain ⟨⟨hname, -, hplace, hrequired, htype, -⟩, hencoding, hmediaType⟩ := h
      exact .some ⟨hname, hplace, hrequired, htype, hencoding, hmediaType⟩

/-- A method serves the endpoint that it is made for. -/
theorem MethodPlan.serves_ofEndpoint (t : Target) (name : String) (e : Endpoint) : (ofEndpoint t name e).Serves e where
  arguments := rfl
  pathArgs := standFor_of_unnamed (e.unnamed_argumentsIn t .path)
  queryArgs := standFor_of_unnamed (e.unnamed_argumentsIn t .query)
  body := carries_of_unnamed (unnamed_body_ofEndpoint t name e)
  nodup := by
    rw [arguments_ofEndpoint]
    exact e.nodup_arguments t
  isName := by
    rw [arguments_ofEndpoint]
    exact isName_arguments t e

/-! ## Clients -/

/-- Without its names a client has the same methods in all languages. -/
theorem map_unnamed_methods (t : Target) (api : Api) :
    (ClientPlan.ofApi t api).methods.map MethodPlan.unnamed = api.endpoints.map Endpoint.unnamedMethod := by
  have hsame : List.Forall₂ Eq (api.endpoints.map Endpoint.unnamedMethod)
      ((ClientPlan.ofApi t api).methods.map MethodPlan.unnamed) := by
    rw [List.forall₂_map_left_iff, List.forall₂_map_right_iff]
    refine (forall₂_methods t api).imp ?_
    rintro e m ⟨name, rfl⟩
    exact (MethodPlan.unnamed_ofEndpoint t name e).symm
  rw [List.forall₂_eq_eq_eq] at hsame
  exact hsame.symm

/-- Each method of a client serves its endpoint: its arguments are the parameters in the path, all of them required,
then those in the query, then the body if there is one, under names that are all different. Those in headers are none
of its arguments. Without the names of methods and arguments the plans of clients in any two languages are the same. -/
theorem serves_methods (t : Target) (api : Api) :
    List.Forall₂ MethodPlan.Serves api.endpoints (ClientPlan.ofApi t api).methods ∧
      ∀ u, (ClientPlan.ofApi t api).unnamed = (ClientPlan.ofApi u api).unnamed := by
  refine ⟨(forall₂_methods t api).imp ?_, fun u => ?_⟩
  · rintro e m ⟨name, rfl⟩
    exact MethodPlan.serves_ofEndpoint t name e
  · unfold ClientPlan.unnamed
    rw [map_unnamed_methods t api, map_unnamed_methods u api]
    rfl

end ClientForge
