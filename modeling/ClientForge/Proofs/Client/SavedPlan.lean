import ClientForge.Proofs.Client.Agreement
import ClientForge.Proofs.MethodNames
import ClientForge.Proofs.SavedModel

/-!
The plan of a client for a saved API. JSON images of free values show in a plan as samples and nowhere
else, so clients show a saved API like the API before it was saved (`Endpoint.showsAs_image`), if saving keeps
the samples of the parameters in paths (`Api.KeepsSamples`).
-/

namespace ClientForge

/-- Has each parameter in a path the same sample when it has been saved? -/
def Endpoint.KeepsSamples (e : Endpoint) : Prop := ∀ p ∈ e.paramsIn .path, p.image.sample = p.sample

/-- Has each parameter in a path the same sample when it has been saved? -/
def Api.KeepsSamples (a : Api) : Prop := ∀ e ∈ a.endpoints, e.KeepsSamples

instance (e : Endpoint) : Decidable e.KeepsSamples :=
  inferInstanceAs (Decidable (∀ p ∈ e.paramsIn .path, p.image.sample = p.sample))

instance (a : Api) : Decidable a.KeepsSamples := inferInstanceAs (Decidable (∀ e ∈ a.endpoints, e.KeepsSamples))

/-- Saving keeps the sample of a parameter whose example and choices are values that JSON has. -/
theorem Param.sample_image_of_plain {p : Param} (h : AllPlain p.freeValues) : p.image.sample = p.sample := by
  rw [Param.image_eq_self h]

/-! ## Endpoints -/

namespace Endpoint

theorem paramsIn_image (e : Endpoint) (l : Location) : e.image.paramsIn l = (e.paramsIn l).map Param.image := by
  show (e.parameters.map Param.image).filter _ = _
  rw [List.filter_map]
  rfl

theorem sentBody_image (e : Endpoint) : e.image.sentBody = e.sentBody.map Body.image := by
  unfold sentBody
  show (if e.method.allowsBody then e.body.map Body.image else none) = _
  split <;> rfl

/-- Saving an endpoint changes nothing that clients show but samples. -/
theorem sameShape_image {e : Endpoint} (h : (e.responses.map Prod.fst).Nodup) : e.image.SameShape e where
  method := rfl
  path := rfl
  operationId := rfl
  summary := rfl
  description := rfl
  pathParams := by
    rw [paramsIn_image, List.map_map]
    rfl
  queryParams := by
    rw [paramsIn_image, List.map_map]
    rfl
  body := by
    rw [sentBody_image, Option.map_map]
    rfl
  responses := by
    show ((ofNamed e.responses).map fun r => (r.1, r.2.image)).map _ = e.responses.map _
    rw [ofNamed_eq_self h, List.map_map]
    rfl

theorem showsAs_image {e : Endpoint} (hresponses : (e.responses.map Prod.fst).Nodup) (h : e.KeepsSamples) :
    e.image.ShowsAs e where
  toSameShape := sameShape_image hresponses
  samples := by
    unfold samples
    rw [paramsIn_image, List.map_map]
    exact List.map_congr_left h

end Endpoint

/-! ## The whole -/

theorem methodNames_image (t : Target) (taken : List (List Char)) (es : List Endpoint) :
    methodNames t taken (es.map Endpoint.image) = methodNames t taken es := by
  induction es generalizing taken with
  | nil => rfl
  | cons e es ih => exact congrArg (_ :: ·) (ih _)

/-- The names and endpoints that the methods of a client are made of. -/
def namedEndpoints (t : Target) (a : Api) : List (List Char × Endpoint) :=
  (methodNames t [] a.endpoints).zip a.endpoints

theorem methods_ofApi_eq (t : Target) (a : Api) :
    (ClientPlan.ofApi t a).methods =
      (namedEndpoints t a).map fun x => .ofEndpoint t (.ofList x.1) x.2 := by
  unfold namedEndpoints
  rw [List.map_zip_eq_zipWith]
  rfl

theorem methods_ofApi_image (t : Target) (a : Api) :
    (ClientPlan.ofApi t a.image).methods =
      (namedEndpoints t a).map fun x => .ofEndpoint t (.ofList x.1) x.2.image := by
  unfold namedEndpoints
  rw [List.map_zip_eq_zipWith]
  show (methodNames t [] (a.endpoints.map _)).zipWith _ (a.endpoints.map _) = _
  rw [methodNames_image, List.zipWith_map_right]
  rfl

theorem mem_namedEndpoints {t : Target} {a : Api} {x : List Char × Endpoint} (h : x ∈ namedEndpoints t a) :
    x.2 ∈ a.endpoints := List.of_mem_zip h |>.2

theorem map_snd_namedEndpoints (t : Target) (a : Api) : (namedEndpoints t a).map Prod.snd = a.endpoints :=
  List.map_snd_zip (Nat.le_of_eq (length_methodNames t [] a.endpoints).symm)

theorem exists_namedEndpoint (t : Target) {a : Api} {e : Endpoint} (h : e ∈ a.endpoints) :
    ∃ x ∈ namedEndpoints t a, x.2 = e := by
  rw [← map_snd_namedEndpoints t a] at h
  exact List.mem_map.1 h

/-- There is one method for each endpoint, in order. -/
theorem forall₂_methods (t : Target) (a : Api) :
    List.Forall₂ (fun e m => ∃ name, m = .ofEndpoint t name e) a.endpoints (ClientPlan.ofApi t a).methods := by
  have hnamed : List.Forall₂ (fun e m => ∃ name, m = .ofEndpoint t name e)
      ((namedEndpoints t a).map Prod.snd) (ClientPlan.ofApi t a).methods := by
    rw [methods_ofApi_eq, List.forall₂_map_left_iff, List.forall₂_map_right_iff]
    exact List.forall₂_same.2 fun x _ => ⟨_, rfl⟩
  rwa [map_snd_namedEndpoints] at hnamed

/-- A client for a saved API has the files of one for the API, if saving keeps the samples that calls
pass. -/
theorem Target.generate_image (t : Target) {a : Api}
    (hresponses : ∀ e ∈ a.endpoints, (e.responses.map Prod.fst).Nodup) (h : a.KeepsSamples) :
    t.generate a.image = t.generate a := by
  refine t.generate_of_showsAs ⟨rfl, rfl, rfl, rfl, rfl, ?_⟩
  refine List.forall₂_map_left_iff.2 (List.forall₂_same.2 fun e he => ?_)
  exact Endpoint.showsAs_image (hresponses e he) (h e he)

end ClientForge
