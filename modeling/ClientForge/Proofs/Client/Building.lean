import ClientForge.Client.Project
import ClientForge.Proofs.Endpoints
import ClientForge.Proofs.MethodNames

/-!
When a client can be planned and generated (`build_client_spec`, `generate`). A plan takes the texts of examples,
for the parameters in paths and queries, and an integer of too many digits has no text. So a plan is made exactly if
all these texts can be shown (`ClientPlan.outcome_build`); it has then a method for each endpoint, under a name of its
own (`methods_build`). An accepted model need not have a plan (`longSampleModel_not_built`).
-/

namespace ClientForge

/-! ## Samples -/

namespace Param

/-- The values whose texts are taken to find the sample: the example, if it may show, and without a text from it the
first choice. -/
def asked (p : Param) : List Value :=
  let first := (p.choices.getD []).take 1
  if p.example?.mayShow then p.example? :: (if p.example?.display = "" then first else []) else first

/-- Can the texts be shown that the sample is found by? -/
def ShowsSample (p : Param) : Prop := ∀ v ∈ p.asked, v.isShort = true

instance (p : Param) : Decidable p.ShowsSample := inferInstanceAs (Decidable (∀ v ∈ p.asked, v.isShort = true))

/-- The text of the first choice, or else a digit. -/
def choice (p : Param) : String :=
  match p.choices with
  | some (v :: _) => v.display
  | _ => "1"

theorem sample_eq (p : Param) :
    p.sample = if p.example?.mayShow = true ∧ p.example?.display ≠ "" then p.example?.display else p.choice := by
  have hown : ∀ own : String, (if own != "" then own else p.choice) = if own ≠ "" then own else p.choice := by
    intro own
    simp
  unfold sample
  cases p.example? <;> exact (hown _).trans (by simp [Value.mayShow])

theorem shownChoice_eq (p : Param) :
    p.shownChoice = if ∀ v ∈ (p.choices.getD []).take 1, v.isShort = true then .ok p.choice
      else .error (.broken .badValue) := by
  unfold shownChoice choice
  rcases p.choices with _ | _ | ⟨v, vs⟩
  · simp
  · simp
  · simp [Value.shown]

/-- The sample is found exactly if the texts asked for can be shown. -/
theorem shownSample_eq (p : Param) :
    p.shownSample = if p.ShowsSample then .ok p.sample else .error (.broken .badValue) := by
  have hshows : p.ShowsSample ↔ ∀ v ∈ p.asked, v.isShort = true := Iff.rfl
  simp only [hshows, asked, shownSample, sample_eq, shownChoice_eq]
  by_cases hmay : p.example?.mayShow = true
  · by_cases hshort : p.example?.isShort = true
    · by_cases hempty : p.example?.display = "" <;>
        simp [hmay, Value.shown, hshort, hempty, bind, Except.bind, pure, Except.pure]
    · by_cases hempty : p.example?.display = "" <;>
        simp [hmay, Value.shown, hshort, hempty, bind, Except.bind]
  · simp [hmay]

end Param

/-- Steps that are to end all alike, each under a condition, end so together under all conditions. -/
theorem forM_eq_ite {ε α : Type} {p : α → Prop} [DecidablePred p] {e : ε} {f : α → Except ε Unit} {xs : List α}
    (h : ∀ x ∈ xs, f x = if p x then .ok () else .error e) :
    xs.forM f = if ∀ x ∈ xs, p x then .ok () else .error e := by
  induction xs with
  | nil => simp [List.forM, pure, Except.pure]
  | cons x xs ih =>
    show (f x >>= fun _ => xs.forM f) = _
    rw [h x List.mem_cons_self, ih fun y hy => h y (List.mem_cons_of_mem x hy)]
    by_cases hx : p x
    · simp [hx, bind, Except.bind]
    · simp [hx, bind, Except.bind]

/-- Can the samples of the parameters in a place be shown? -/
def Endpoint.ShowsSamplesIn (l : Location) (e : Endpoint) : Prop := ∀ p ∈ e.paramsIn l, p.ShowsSample

instance (l : Location) (e : Endpoint) : Decidable (e.ShowsSamplesIn l) :=
  inferInstanceAs (Decidable (∀ p ∈ e.paramsIn l, p.ShowsSample))

/-- Can the samples of the parameters be shown that calls are made with? -/
def Endpoint.ShowsSamples (e : Endpoint) : Prop := e.ShowsSamplesIn .path ∧ e.ShowsSamplesIn .query

instance (e : Endpoint) : Decidable e.ShowsSamples :=
  inferInstanceAs (Decidable (e.ShowsSamplesIn .path ∧ e.ShowsSamplesIn .query))

theorem Endpoint.showSamples_eq (e : Endpoint) :
    e.showSamples = if e.ShowsSamples then .ok () else .error (.broken .badValue) := by
  have hstep : ∀ p ∈ e.paramsIn .path ++ e.paramsIn .query,
      (p.shownSample.map fun _ => ()) = if p.ShowsSample then .ok () else .error (.broken .badValue) := by
    intro p _
    rw [p.shownSample_eq]
    split <;> rfl
  unfold showSamples
  rw [forM_eq_ite hstep]
  simp only [List.forall_mem_append]
  rfl

/-! ## Plans -/

/-- Can the samples of all parameters in a place be shown? -/
def Api.ShowsSamplesIn (l : Location) (a : Api) : Prop := ∀ e ∈ a.endpoints, e.ShowsSamplesIn l

instance (l : Location) (a : Api) : Decidable (a.ShowsSamplesIn l) :=
  inferInstanceAs (Decidable (∀ e ∈ a.endpoints, e.ShowsSamplesIn l))

/-- Can the samples of all parameters be shown that calls are made with? -/
def Api.ShowsSamples (a : Api) : Prop := a.ShowsSamplesIn .path ∧ a.ShowsSamplesIn .query

instance (a : Api) : Decidable a.ShowsSamples :=
  inferInstanceAs (Decidable (a.ShowsSamplesIn .path ∧ a.ShowsSamplesIn .query))

theorem outcome_noteName (t : Target) (e : Endpoint) (m : MethodPlan) : (t.noteName e m).outcome = .ok () := by
  unfold Target.noteName
  simp only
  split <;> rfl

/-- The plan of a client is made exactly if the samples can be shown. -/
theorem ClientPlan.outcome_build (t : Target) (a : Api) :
    (build t a).outcome = if a.ShowsSamples then .ok (ofApi t a) else .error (.broken .badValue) := by
  let step (x : Endpoint × MethodPlan) : Traced Unit := do
    t.noteName x.1 x.2
    x.1.showSamples
  have hstep : ∀ x ∈ a.endpoints.zip (ofApi t a).methods,
      (step x).outcome = if x.1.ShowsSamples then .ok () else .error (.broken .badValue) := by
    intro x _
    rw [Traced.outcome_bind, outcome_noteName]
    exact x.1.showSamples_eq
  have hlength : a.endpoints.length = (ofApi t a).methods.length := by
    simpa using congrArg List.length (map_route_methods t a).symm
  have hall : (∀ x ∈ a.endpoints.zip (ofApi t a).methods, x.1.ShowsSamples) ↔ a.ShowsSamples := by
    have hfst := List.map_fst_zip (Nat.le_of_eq hlength)
    calc (∀ x ∈ a.endpoints.zip (ofApi t a).methods, x.1.ShowsSamples)
        ↔ ∀ e ∈ (a.endpoints.zip (ofApi t a).methods).map Prod.fst, e.ShowsSamples := List.forall_mem_map.symm
      _ ↔ ∀ e ∈ a.endpoints, e.ShowsSamplesIn .path ∧ e.ShowsSamplesIn .query := by rw [hfst]; rfl
      _ ↔ a.ShowsSamples := forall₂_and
  show ((a.endpoints.zip (ofApi t a).methods).forM step >>= fun _ => pure (ofApi t a)).outcome = _
  rw [Traced.outcome_bind, Traced.outcome_forM_eq, forM_eq_ite hstep]
  simp only [hall]
  split <;> rfl

/-- The files of a client are generated exactly if the samples can be shown. -/
theorem Target.outcome_generateNoted (t : Target) (a : Api) :
    (t.generateNoted a).outcome = if a.ShowsSamples then .ok (t.generate a) else .error (.broken .badValue) := by
  unfold generateNoted generate
  rw [Traced.outcome_bind, ClientPlan.outcome_build]
  split <;> rfl

/-- A client has one method for each endpoint, in the same order and with its verb and path, if the samples can be
shown; if not, it is not planned. The keys of the names are all different, and none is that of a word that the language
or the client takes. Each name is given after those before it, so the first names depend on the first endpoints
only. -/
theorem methods_build (t : Target) (api : Api) : ∃ plan : ClientPlan,
    (ClientPlan.build t api).outcome = (if api.ShowsSamples then .ok plan else .error (.broken .badValue)) ∧
      plan.methods.map (fun m => (m.verb, m.path)) = api.endpoints.map (fun e => (e.method, e.path)) ∧
      (plan.methods.map (MethodPlan.key t)).Nodup ∧
      (∀ m ∈ plan.methods, ∀ w ∈ t.reserved ++ t.members, m.key t ≠ t.methodKey w.toList) ∧
      (∀ i e m, api.endpoints[i]? = some e → plan.methods[i]? = some m →
        NamedAfter t ((plan.methods.take i).map (MethodPlan.key t)) (e.baseName t) m.name.toList) ∧
      ∀ (other : Api) (otherPlan : ClientPlan) k, (ClientPlan.build t other).outcome = .ok otherPlan →
        other.endpoints.take k = api.endpoints.take k →
        (otherPlan.methods.take k).map (·.name) = (plan.methods.take k).map (·.name) := by
  obtain ⟨hroutes, hnodup, hfree, hnamed, hfirst⟩ := methods_ofApi t api
  refine ⟨.ofApi t api, ClientPlan.outcome_build t api, hroutes, hnodup, hfree, hnamed, ?_⟩
  intro other otherPlan k hother
  rw [ClientPlan.outcome_build] at hother
  split at hother
  · cases hother
    exact hfirst other k
  · cases hother

/-- A model as data, with an example that has more digits than can be shown. -/
def longSampleModel : Value :=
  .map [(.text "endpoints", .list [.map [
    (.text "method", .text "get"),
    (.text "path", .text "/pets/\x7bid\x7d"),
    (.text "operationId", .text "showPet"),
    (.text "parameters", .list [.map [
      (.text "name", .text "id"),
      (.text "location", .text "path"),
      (.text "example", .int (.ofNat (Nat.pow 10 Value.displayLimit)))]])]])]

/-- An accepted model need not have a plan. -/
theorem longSampleModel_not_built : ∃ a, Api.check .document longSampleModel = .ok a ∧
    ∀ t, (ClientPlan.build t a).outcome = .error (.broken .badValue) := by
  have hcheck : (Api.check .document longSampleModel).toOption.map (fun a => decide a.ShowsSamples) =
      some false := by decide +kernel
  obtain ⟨a, ha, hlong⟩ := toOption_map_eq_some.1 hcheck
  refine ⟨a, ha, fun t => ?_⟩
  rw [ClientPlan.outcome_build, if_neg (of_decide_eq_false hlong)]

end ClientForge
