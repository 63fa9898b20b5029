import ClientForge.Proofs.Client.Lines
import ClientForge.Proofs.Client.SavedPlan

/-!
Clients tell samples apart. Since a literal shows where it ends, the call of a method shows every sample that it
passes (`MethodPlan.Alike.samples_eq`), and so does the file of the tests, which calls every method. Thus a client for
a saved API has the files of one for the API only if saving keeps the samples of the parameters in paths
(`Target.generate_image_iff`).
-/

namespace ClientForge

/-! ## Calls -/

/-- As many literals, with the same texts after them, show each of their samples. -/
theorem commas_literals (t : Target) (rest : List String) {ss ss' : List String} {x x' : List Char}
    (hlength : ss.length = ss'.length)
    (h : (commas (ss.map t.literal ++ rest)).toList ++ x = (commas (ss'.map t.literal ++ rest)).toList ++ x') :
    ss = ss' := by
  -- Nothing is asked of what follows: each literal shows where it ends, so the samples come off one by one.
  induction ss generalizing ss' with
  | nil => exact (List.length_eq_zero_iff.1 hlength.symm).symm
  | cons s ss ih =>
    cases ss' with
    | nil => cases hlength
    | cons s' ss' =>
      have htail : ss.length = ss'.length := Nat.succ.inj hlength
      simp only [List.map_cons, List.cons_append, toList_commas_cons, List.append_assoc] at h
      obtain ⟨rfl, hrest⟩ := t.literal_append h
      congr 1
      cases ss with
      | nil => exact (List.length_eq_zero_iff.1 htail.symm).symm
      | cons u ss =>
        cases ss' with
        | nil => cases htail
        | cons u' ss' =>
          simp only [List.map_cons, List.cons_append, reduceCtorEq, if_false, List.append_assoc] at hrest
          exact ih htail (by simpa using List.append_cancel_left hrest)

/-- What a call passes for all but the path. -/
def MethodPlan.restArgs (t : Target) (m : MethodPlan) : List String :=
  if t.omitsTrailing then [] else (m.queryArgs ++ (m.body.map (·.argument)).toList).map (·.call t)

theorem MethodPlan.restArgs_bare (t : Target) (m : MethodPlan) : m.bare.restArgs t = m.restArgs t := by
  have hbody : (m.bare.body.map (·.argument)).toList.map (·.call t) =
      (m.body.map (·.argument)).toList.map (·.call t) := by
    show ((m.body.map Payload.bare).map _).toList.map _ = _
    cases m.body <;> simp [Payload.bare]
  unfold restArgs
  rw [List.map_append, List.map_append, map_queryArgs_bare (Argument.call_bare t), hbody]

theorem MethodPlan.exampleArgs_eq (t : Target) {m : MethodPlan} (h : ∀ a ∈ m.pathArgs, a.place = .path) :
    m.exampleArgs t = (m.pathArgs.map Argument.sample).map t.literal ++ m.restArgs t := by
  have hpath : m.pathArgs.map (·.call t) = (m.pathArgs.map Argument.sample).map t.literal := by
    rw [List.map_map]
    refine List.map_congr_left fun a ha => ?_
    simp [Argument.call, h a ha]
  unfold exampleArgs restArgs arguments
  split <;> simp [hpath]

/-- Methods that differ in what calls pass for the path at most. -/
structure MethodPlan.Alike (t : Target) (m m' : MethodPlan) : Prop where
  name : m'.name = m.name
  verb : m'.verb = m.verb
  path : m'.path = m.path
  responses : m'.responses = m.responses
  place : ∀ a ∈ m.pathArgs, a.place = .path
  place' : ∀ a ∈ m'.pathArgs, a.place = .path
  length : m'.pathArgs.length = m.pathArgs.length
  rest : m'.restArgs t = m.restArgs t

/-- What calls pass for the path. -/
def MethodPlan.samples (m : MethodPlan) : List String := m.pathArgs.map Argument.sample

namespace MethodPlan.Alike

variable {t : Target} {m m' : MethodPlan}

theorem call_eq (h : Alike t m m') (hsamples : m'.samples = m.samples) : m'.call t = m.call t := by
  unfold call
  rw [exampleArgs_eq t h.place, exampleArgs_eq t h.place', h.name, h.rest]
  unfold samples at hsamples
  rw [hsamples]

/-- A call shows what it passes for the path. -/
theorem samples_eq (h : Alike t m m') {x x' : List Char}
    (hcall : (m'.call t).toList ++ x' = (m.call t).toList ++ x) : m'.samples = m.samples := by
  unfold call at hcall
  rw [exampleArgs_eq t h.place, exampleArgs_eq t h.place', h.name, h.rest] at hcall
  simp only [String.toList_append, List.append_assoc] at hcall
  refine commas_literals t (m.restArgs t) ?_ (List.append_cancel_left (List.append_cancel_left hcall))
  simpa [samples] using h.length

end MethodPlan.Alike

/-! ## Tests -/

/-- The test of a method. -/
def Target.methodTest : Target → MethodPlan → List String
  | node => Client.Node.methodTest
  | python => Client.Python.methodTest
  | go => Client.Go.methodTest
  | java => Client.Java.methodTest
  | php => Client.Php.methodTest

/-- The lines of the test of a method before the call. -/
def Target.testOpening : Target → MethodPlan → List String
  | node => Client.Node.testOpening
  | python => Client.Python.testOpening
  | go => Client.Go.testOpening
  | java => Client.Java.testOpening
  | php => Client.Php.testOpening

/-- What stands in a test between the lines before the call and the call, and what stands after it. -/
theorem Target.methodTest_eq (t : Target) : ∃ (before after : String) (rest : List String), ∀ m : MethodPlan,
    t.methodTest m = t.testOpening m ++ (before ++ m.call t ++ after) :: rest := by
  cases t with
  | node => exact ⟨_, _, _, fun _ => rfl⟩
  | python => exact ⟨"    result = client.", "", _, fun m => by rw [String.append_empty]; rfl⟩
  | go => exact ⟨_, _, _, fun _ => rfl⟩
  | java => exact ⟨_, _, _, fun _ => rfl⟩
  | php => exact ⟨_, _, _, fun _ => rfl⟩

/-- The tests stand in one of the files. -/
theorem Target.files_tests (t : Target) : ∃ (i : Nat) (path : String) (before after : List String),
    ∀ p : ClientPlan, (t.files p)[i]? = some ⟨path, before ++ p.methods.flatMap t.methodTest ++ after⟩ := by
  cases t with
  | node => exact ⟨6, _, _, _, fun _ => rfl⟩
  | python => exact ⟨7, _, _, [], fun p => by rw [List.append_nil]; rfl⟩
  | go => exact ⟨7, _, _, [], fun p => by rw [List.append_nil]; rfl⟩
  | java => exact ⟨7, _, _, _, fun _ => rfl⟩
  | php => exact ⟨7, _, _, _, fun _ => rfl⟩

theorem MethodPlan.Alike.testOpening_eq {t : Target} {m m' : MethodPlan} (h : Alike t m m') :
    t.testOpening m' = t.testOpening m := by
  have hcomment : ∀ mark, m'.testComment t mark = m.testComment t mark := by
    intro mark
    unfold testComment route
    rw [h.verb, h.path, h.responses]
  cases t with
  | node => simp only [Target.testOpening, Client.Node.testOpening, hcomment, h.name]
  | python => simp only [Target.testOpening, Client.Python.testOpening, hcomment, h.name]
  | go => simp only [Target.testOpening, Client.Go.testOpening, hcomment, h.name]
  | java => simp only [Target.testOpening, Client.Java.testOpening, hcomment, h.name]
  | php => simp only [Target.testOpening, Client.Php.testOpening, hcomment, h.name]

/-- The test of a method shows what calls pass for the path, and where it ends. -/
theorem MethodPlan.Alike.methodTest_append {t : Target} {m m' : MethodPlan} (h : Alike t m m') {x x' : List Char}
    (htest : lineChars (t.methodTest m') ++ x' = lineChars (t.methodTest m) ++ x) :
    m'.samples = m.samples ∧ x' = x := by
  obtain ⟨before, after, rest, heq⟩ := t.methodTest_eq
  have hchars : ∀ n : MethodPlan, lineChars (t.methodTest n) = lineChars (t.testOpening n) ++ (before.toList ++
      ((n.call t).toList ++ (after.toList ++ '\n' :: lineChars rest))) := by
    intro n
    rw [heq, lineChars_append]
    simp [lineChars]
  rw [hchars, hchars, h.testOpening_eq] at htest
  simp only [List.append_assoc] at htest
  have hcall := List.append_cancel_left (List.append_cancel_left htest)
  have hsamples := h.samples_eq hcall
  rw [h.call_eq hsamples] at hcall
  have hrest := List.append_cancel_left (List.append_cancel_left hcall)
  exact ⟨hsamples, by simpa using hrest⟩

/-- Where each item shows in what is written for it, all items do in what is written for all. -/
theorem forall_of_flatMap_append {α : Type} {P : α → Prop} {f g : α → List Char} {zs : List α} {x x' : List Char}
    (h : ∀ z ∈ zs, ∀ y y', f z ++ y' = g z ++ y → P z ∧ y' = y)
    (hall : zs.flatMap f ++ x' = zs.flatMap g ++ x) : ∀ z ∈ zs, P z := by
  induction zs with
  | nil => exact fun z hz => absurd hz List.not_mem_nil
  | cons z zs ih =>
    rw [List.flatMap_cons, List.flatMap_cons, List.append_assoc, List.append_assoc] at hall
    obtain ⟨hz, hrest⟩ := h z List.mem_cons_self _ _ hall
    exact List.forall_mem_cons.2 ⟨hz, ih (fun w hw => h w (List.mem_cons_of_mem z hw)) hrest⟩

/-! ## Clients for saved models -/

theorem MethodPlan.samples_ofEndpoint (t : Target) (name : String) (e : Endpoint) :
    (MethodPlan.ofEndpoint t name e).samples = e.samples := e.samples_pathArgs t

/-- Methods for endpoints of the same shape differ in nothing but samples. -/
theorem MethodPlan.alike_ofEndpoint (t : Target) (name : String) {e e' : Endpoint} (h : e.SameShape e') :
    Alike t (MethodPlan.ofEndpoint t name e') (MethodPlan.ofEndpoint t name e) where
  name := rfl
  verb := h.method
  path := h.path
  responses := h.responses
  place _ ha := Endpoint.place_of_mem_argumentsIn ha
  place' _ ha := Endpoint.place_of_mem_argumentsIn ha
  length := by
    have hlength := congrArg List.length (h.blank_argumentsIn t .path)
    rwa [List.length_map, List.length_map] at hlength
  rest := by
    rw [← restArgs_bare, ← restArgs_bare t (ofEndpoint t name e')]
    unfold restArgs
    show (if _ then [] else
      ((e.argumentsIn t .query).map _ ++ (((ofEndpoint t name e).body.map _).map _).toList).map _) = _
    rw [h.bare_argumentsIn t (by decide), bare_body_ofEndpoint h]
    rfl

/-- A client for a saved API has the files of one for the API if and only if saving keeps the samples that
calls pass. -/
theorem Target.generate_image_iff (t : Target) {a : Api}
    (hresponses : ∀ e ∈ a.endpoints, (e.responses.map Prod.fst).Nodup) :
    (t.generate a.image).map Artifact.text = (t.generate a).map Artifact.text ↔ a.KeepsSamples := by
  constructor
  · intro htexts
    -- One file holds the tests of all methods; where it is the same, so is the test of each.
    obtain ⟨i, path, before, after, hfiles⟩ := t.files_tests
    have htest := congrArg (·[i]?) htexts
    simp only [generate, List.getElem?_map, hfiles, Option.map_some, Option.some.injEq] at htest
    have hchars := congrArg String.toList htest
    rw [Artifact.toList_text, Artifact.toList_text] at hchars
    simp only [lineChars_append, lineChars_flatMap, List.append_assoc] at hchars
    rw [methods_ofApi_image, methods_ofApi_eq, List.flatMap_map, List.flatMap_map] at hchars
    have hsamples := forall_of_flatMap_append (fun x hx y y' =>
      (MethodPlan.alike_ofEndpoint t _
        (Endpoint.sameShape_image (hresponses _ (mem_namedEndpoints hx)))).methodTest_append)
      (List.append_cancel_left hchars)
    intro e he
    obtain ⟨x, hx, rfl⟩ := exists_namedEndpoint t he
    have hsame := hsamples x hx
    rw [MethodPlan.samples_ofEndpoint, MethodPlan.samples_ofEndpoint] at hsame
    unfold Endpoint.samples at hsame
    rw [Endpoint.paramsIn_image, List.map_map] at hsame
    exact List.map_inj_left.1 hsame
  · intro hkeeps
    rw [t.generate_image hresponses hkeeps]

end ClientForge
