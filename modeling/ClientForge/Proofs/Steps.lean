import ClientForge.Proofs.Client.Calls
import ClientForge.Proofs.Client.SavedSamples
import ClientForge.Proofs.DocumentAuth
import ClientForge.Proofs.Json.LineEnds
import ClientForge.Proofs.Saving
import ClientForge.Proofs.WholeTexts

/-!
A client in one step and in two. To save the model of a document and to make a client from what was saved
gives the same files as to make the client from the document if and only if saving keeps the samples of
the parameters in paths (`run_eq_parse_generate`), and it does for values that JSON has
(`Param.sample_image_of_plain`). A model that does not fit what the reader takes is refused, and there is no client
with a sample that cannot be shown. Not every sample is kept (`nanFolder_run_ne_parse_generate`).
-/

namespace ClientForge

/-! ## Transcripts -/

namespace Transcript

variable {α β : Type} {x : Transcript α} {f : α → Transcript β}

theorem bind_eq_ok {b : β} :
    (x >>= f).result = .ok b ↔ ∃ a, x.result = .ok a ∧ (f a).result = .ok b := by
  rw [result_bind]
  exact except_bind_eq_ok

theorem bind_eq_error {s : Stop} (h : (x >>= f).result = .error s) :
    x.result = .error s ∨ ∃ a, (f a).result = .error s := by
  rw [result_bind] at h
  cases hx : x.result with
  | error s' => rw [hx] at h; exact Or.inl (by cases h; rfl)
  | ok a => rw [hx] at h; exact Or.inr ⟨a, h⟩

theorem ofExcept_eq_ok {ε : Type} {asStop : ε → Stop} {y : Except ε α} {a : α} :
    (ofExcept asStop y).result = .ok a ↔ y = .ok a := by
  unfold ofExcept
  cases y <;> simp [Except.mapError]

theorem ofTraced_eq_ok {verbose : Bool} {asStop : Failure → Stop} {y : Traced α} {a : α} :
    (ofTraced verbose asStop y).result = .ok a ↔ y.outcome = .ok a := by
  unfold ofTraced
  cases y.outcome <;> simp [Except.mapError]

theorem ofExcept_eq_error {ε : Type} {asStop : ε → Stop} {y : Except ε α} {s : Stop}
    (h : (ofExcept asStop y).result = .error s) : ∃ e, s = asStop e := by
  unfold ofExcept at h
  cases y with
  | error e => exact ⟨e, by cases h; rfl⟩
  | ok a => cases h

theorem ofTraced_eq_error {verbose : Bool} {asStop : Failure → Stop} {y : Traced α} {s : Stop}
    (h : (ofTraced verbose asStop y).result = .error s) : ∃ f, s = asStop f := by
  unfold ofTraced at h
  cases hy : y.outcome with
  | error f => rw [hy] at h; exact ⟨f, by cases h; rfl⟩
  | ok a => rw [hy] at h; cases h

end Transcript

/-! ## Reading a document -/

/-- What is chosen from a document is an API with well formed endpoints and a named key. -/
theorem consistent_apiOfDocument {verbose : Bool} {d : Directory} {document : FilePath} {format : Option Format}
    {patterns : List String} {api : Api}
    (h : (apiOfDocument verbose d document format patterns).result = .ok api) :
    api.auth.HasName ∧ ∀ e ∈ api.endpoints, e.Formed := by
  obtain ⟨_, -, h⟩ := Transcript.bind_eq_ok.1 h
  obtain ⟨text, -, h⟩ := Transcript.bind_eq_ok.1 h
  obtain ⟨f, -, h⟩ := Transcript.bind_eq_ok.1 h
  obtain ⟨all, hread, h⟩ := Transcript.bind_eq_ok.1 h
  obtain ⟨hname, hformed⟩ := consistent_read (Transcript.ofTraced_eq_ok.1 hread)
  have hchosen : all.select patterns = api := by
    simp only at h
    split at h
    · exact Except.ok.inj h
    · exact Except.ok.inj h
  rw [← hchosen]
  refine ⟨hname, fun e he => hformed e ?_⟩
  simp only [Api.select, selectEndpoints] at he
  split at he
  · exact he
  · exact (List.mem_filter.1 he).1

theorem exit_stopReading (document : FilePath) (f : Failure) : (stopReading document f).exit = 1 := by
  cases f <;> rfl

/-- A run ends badly on a document that gives no API. -/
theorem exit_apiOfDocument {verbose : Bool} {d : Directory} {document : FilePath} {format : Option Format}
    {patterns : List String} {s : Stop}
    (h : (apiOfDocument verbose d document format patterns).result = .error s) :
    s.exit = 1 := by
  rcases Transcript.bind_eq_error h with h | ⟨_, h⟩
  · cases h
  rcases Transcript.bind_eq_error h with h | ⟨text, h⟩
  · rcases Transcript.bind_eq_error h with h | ⟨_, h⟩
    · obtain ⟨_, rfl⟩ := Transcript.ofExcept_eq_error h
      rfl
    · cases h
  rcases Transcript.bind_eq_error h with h | ⟨f, h⟩
  · cases format with
    | some f => cases h
    | none =>
      rcases Transcript.bind_eq_error h with h | ⟨_, h⟩
      · obtain ⟨_, rfl⟩ := Transcript.ofExcept_eq_error h
        rfl
      · cases h
  rcases Transcript.bind_eq_error h with h | ⟨api, h⟩
  · obtain ⟨f, rfl⟩ := Transcript.ofTraced_eq_error h
    exact exit_stopReading document f
  · simp only at h
    split at h <;> cases h

/-- A run ends badly on a saved model that gives no API. -/
theorem exit_apiOfModel {d : Directory} {model : FilePath} {s : Stop} (h : (apiOfModel d model).result = .error s) :
    s.exit = 1 := by
  rcases Transcript.bind_eq_error h with h | ⟨_, h⟩
  · cases h
  rcases Transcript.bind_eq_error h with h | ⟨text, h⟩
  · rcases Transcript.bind_eq_error h with h | ⟨_, h⟩
    · obtain ⟨_, rfl⟩ := Transcript.ofExcept_eq_error h
      rfl
    · cases h
  obtain ⟨_, rfl⟩ := Transcript.ofExcept_eq_error h
  rfl

/-! ## Saving and finding a model -/

/-- A saved model is found with the text of its JSON. -/
theorem read_saveModel {output : FilePath} {d : Directory} {api : Api}
    (h : (saveModel output d api).crash? = none) :
    ∃ j, api.toJson? = some j ∧ (saveModel output d api).directory.read output = .ok (Json.indentedText j) := by
  unfold saveModel at h ⊢
  split at h
  · cases h
  · cases h
  · rename_i d' j hfolders hj
    split at h
    · cases h
    · rename_i d'' hwrite
      exact ⟨j, hj, Directory.read_write hwrite⟩

theorem textOfFile_indented {d : Directory} {p : FilePath} {j : Json} (h : d.read p = .ok (Json.indentedText j)) :
    (textOfFile d p).result = .ok (Json.indentedText j) := by
  refine Transcript.bind_eq_ok.2 ⟨Json.indentedText j, Transcript.ofExcept_eq_ok.2 h, ?_⟩
  unfold Json.indentedText
  rw [String.toList_ofList, Json.unifyLineEnds_write]
  rfl

/-- What an invalid model file is told with. -/
def invalidModel (model : FilePath) (is : List Issue) : Stop :=
  .failed ("Invalid model file " ++ model.text ++ ": " ++ issuesText "ApiDescription" is)

/-- The API of a saved model is the image of the API that was saved, if its JSON fits. -/
theorem result_apiOfModel {d : Directory} {model : FilePath} {api : Api} {j : Json} (hapi : api.Consistent)
    (hj : api.toJson? = some j) (hread : d.read model = .ok (Json.indentedText j)) :
    (j.fits savedLevels = true → (apiOfModel d model).result = .ok api.image) ∧
      (j.fits savedLevels = false →
        (apiOfModel d model).result = .error (invalidModel model [⟨[], .notJson⟩])) := by
  obtain ⟨hfits, hunfit⟩ := Api.read_write .indented hapi hj
  have hmodel : ∀ x, Api.read (Json.indentedText j) = x →
      (apiOfModel d model).result = x.mapError (invalidModel model) := by
    rintro x rfl
    unfold apiOfModel
    rw [Transcript.result_bind, Transcript.result_tell]
    show ((textOfFile d model >>= _).result) = _
    rw [Transcript.result_bind, textOfFile_indented hread]
    rfl
  exact ⟨fun h => hmodel _ (hfits h), fun h => hmodel _ (hunfit h)⟩

/-! ## Making a client -/

/-- The end on a sample that cannot be shown. -/
def Stop.unshown : Stop := .crashed (.failure (.broken .badValue))

/-- A client has files exactly if its samples can be shown. -/
theorem result_clientFiles (verbose : Bool) (t : Target) (api : Api) :
    (clientFiles verbose t api).result = if api.ShowsSamples then .ok (t.generate api) else .error .unshown := by
  unfold clientFiles
  rw [Transcript.result_bind, Transcript.result_tell]
  show (t.generateNoted api).outcome.mapError _ = _
  rw [t.outcome_generateNoted]
  split <;> rfl

/-- The invocation makes the files: it sets out to save them below the folder, and if it ends well, they are
found there, each with its text, unless files that were there are kept. -/
structure Invocation.Makes (verbose append : Bool) (d : Directory) (i : Invocation) (output : FilePath)
    (files : List Artifact) : Prop where
  work : ∃ opening, (i.work verbose d).result = .ok (.saveFiles files append output opening)
  found : append = false → (i.outcome verbose d).exit = 0 →
    ∀ a ∈ files, (i.outcome verbose d).directory.read (output.below a.path) = .ok a.text

theorem outcome_of_work {verbose : Bool} {d : Directory} {i : Invocation} {work : Work}
    (h : (i.work verbose d).result = .ok work) :
    i.outcome verbose d = .worked (i.work verbose d).lines (work.perform d) := by
  unfold Invocation.outcome
  simp only [h]

theorem outcome_of_stop {verbose : Bool} {d : Directory} {i : Invocation} {s : Stop}
    (h : (i.work verbose d).result = .error s) : i.outcome verbose d = .stopped d (i.work verbose d).lines s := by
  unfold Invocation.outcome
  simp only [h]

theorem crash?_eq_none_of_exit {lines : List String} {s : Saving} (h : (Outcome.worked lines s).exit = 0) :
    s.crash? = none := by
  cases hs : s.crash? with
  | none => rfl
  | some c => simp [Outcome.worked, hs] at h

theorem crash?_ended (line : Nat → String) (s : Saving) : (s.ended line).crash? = s.crash? := by
  unfold Saving.ended
  split <;> rfl

/-- An invocation that sets out to save files and ends well has saved them, and counts them at last. -/
theorem outcome_saveFiles {verbose append : Bool} {d : Directory} {i : Invocation} {output : FilePath}
    {files : List Artifact} {opening : String}
    (h : (i.work verbose d).result = .ok (.saveFiles files append output opening))
    (hexit : (i.outcome verbose d).exit = 0) :
    (saveFiles append output d files).crash? = none ∧
      (i.outcome verbose d).directory = (saveFiles append output d files).directory ∧
      (i.outcome verbose d).lines = (i.work verbose d).lines ++ ((saveFiles append output d files).lines ++
        [opening ++ toString (saveFiles append output d files).written ++ " files in " ++ output.text]) := by
  rw [outcome_of_work h] at hexit ⊢
  have hcrash : (saveFiles append output d files).crash? = none := by
    rw [← crash?_ended]
    exact crash?_eq_none_of_exit hexit
  refine ⟨hcrash, ?_⟩
  simp only [Outcome.worked, Work.perform, Saving.ended, hcrash, and_self]

/-- An invocation that sets out to save the files of a client makes them. -/
theorem makes_of_work {verbose append : Bool} {d : Directory} {i : Invocation} {output : FilePath} {t : Target}
    {p : ClientPlan} {opening : String}
    (h : (i.work verbose d).result = .ok (.saveFiles (t.files p) append output opening)) :
    i.Makes verbose append d output (t.files p) := by
  refine ⟨⟨opening, h⟩, ?_⟩
  rintro rfl hexit a ha
  obtain ⟨hcrash, hdirectory, -⟩ := outcome_saveFiles h hexit
  rw [hdirectory]
  exact t.read_saveFiles hcrash a ha

theorem work_parse (verbose : Bool) (d : Directory) (document model : FilePath) (format : Option Format)
    (patterns : List String) : ((Invocation.parse document format patterns model).work verbose d).result =
      (apiOfDocument verbose d document format patterns).result.map fun api => .saveModel api model := by
  show (apiOfDocument verbose d document format patterns >>= _).result = _
  rw [Transcript.result_bind]
  cases (apiOfDocument verbose d document format patterns).result <;> rfl

/-- What is left to do when an API for a client is read: to save its files, if the samples can be shown. -/
def clientWork (t : Target) (append : Bool) (output : FilePath) (opening : String) (api : Api) : Except Stop Work :=
  if api.ShowsSamples then .ok (.saveFiles (t.generate api) append output opening) else .error .unshown

theorem result_clientWork (verbose append : Bool) (output : FilePath) (opening : String) (t : Target)
    (x : Transcript Api) :
    (do return Work.saveFiles (← clientFiles verbose t (← x)) append output opening : Transcript Work).result =
      x.result.bind (clientWork t append output opening) := by
  rw [Transcript.result_bind]
  refine congrArg x.result.bind (funext fun api => ?_)
  rw [Transcript.result_bind, result_clientFiles]
  unfold clientWork
  split <;> rfl

theorem work_run (verbose append : Bool) (d : Directory) (document output : FilePath) (format : Option Format)
    (patterns : List String) (t : Target) :
    ((Invocation.run document format patterns t append output).work verbose d).result =
      (apiOfDocument verbose d document format patterns).result.bind (clientWork t append output "Done! Generated ") :=
  result_clientWork verbose append output _ t _

theorem work_generate (verbose append : Bool) (d : Directory) (model output : FilePath) (t : Target) :
    ((Invocation.generate model t append output).work verbose d).result =
      (apiOfModel d model).result.bind (clientWork t append output "Generated ") :=
  result_clientWork verbose append output _ t _

section Steps

variable {verbose append : Bool} {d : Directory} {document model output : FilePath} {format : Option Format}
  {patterns : List String} {t : Target} {api : Api}

/-- A document that gives an API gives its client in one step, if the samples can be shown. If not, the run ends
before anything is saved. -/
theorem makes_run (hapi : (apiOfDocument verbose d document format patterns).result = .ok api) :
    let run := Invocation.run document format patterns t append output
    (api.ShowsSamples → run.Makes verbose append d output (t.generate api)) ∧
      (¬api.ShowsSamples → (run.work verbose d).result = .error .unshown) := by
  have hwork := work_run verbose append d document output format patterns t
  rw [hapi] at hwork
  constructor
  · intro hshows
    exact makes_of_work (hwork.trans (if_pos hshows))
  · intro hlong
    exact hwork.trans (if_neg hlong)

/-- If a file can be saved in the place of the model, and the model has JSON, it is saved well. -/
theorem exit_of_save {d' : Directory} {j : Json}
    (hapi : (apiOfDocument verbose d document format patterns).result = .ok api) (hj : api.toJson? = some j)
    (hsave : d.save model (Json.indentedText j) = (d', none)) :
    ((Invocation.parse document format patterns model).outcome verbose d).exit = 0 := by
  have hwork := work_parse verbose d document model format patterns
  rw [hapi] at hwork
  have hcrash : (saveModel model d api).crash? = none := by
    unfold saveModel
    rw [Directory.save] at hsave
    rw [hj]
    split at hsave
    · cases hsave
    · rename_i hfolders
      rw [hfolders]
      split at hsave
      · rename_i hwrite
        simp only [hwrite]
      · cases hsave
  rw [outcome_of_work hwork, Work.perform, Outcome.worked, hcrash]
  rfl

/-- When the model of a document has been saved well, it is found with its JSON. -/
theorem saved_of_exit (hapi : (apiOfDocument verbose d document format patterns).result = .ok api)
    (hexit : ((Invocation.parse document format patterns model).outcome verbose d).exit = 0) :
    ∃ j, api.toJson? = some j ∧
      ((Invocation.parse document format patterns model).outcome verbose d).directory.read model =
        .ok (Json.indentedText j) := by
  have hwork := work_parse verbose d document model format patterns
  rw [hapi] at hwork
  rw [outcome_of_work hwork] at hexit ⊢
  exact read_saveModel (crash?_eq_none_of_exit hexit)

/-- A saved model gives the client of its image if its JSON fits what the reader takes, and is refused if
not. -/
theorem makes_generate {j : Json} (hconsistent : api.Consistent) (hj : api.toJson? = some j)
    (hread : d.read model = .ok (Json.indentedText j)) :
    let generate := Invocation.generate model t append output
    (j.fits savedLevels = true → generate.Makes verbose append d output (t.generate api.image)) ∧
      (j.fits savedLevels = false →
        (generate.work verbose d).result = .error (invalidModel model [⟨[], .notJson⟩])) := by
  obtain ⟨hfits, hunfit⟩ := result_apiOfModel hconsistent hj hread
  constructor
  · intro hf
    have hwork := work_generate verbose append d model output t
    rw [hfits hf] at hwork
    exact makes_of_work (hwork.trans (if_pos (Api.showsSamples_of_fits hj hf).2))
  · intro hf
    rw [work_generate, hunfit hf]
    rfl

/-- Saving keeps all samples of an API that has only values of JSON for the parameters in its paths. -/
theorem Api.keepsSamples_of_plain (h : ∀ e ∈ api.endpoints, ∀ p ∈ e.paramsIn .path, AllPlain p.freeValues) :
    api.KeepsSamples :=
  fun e he p hp => Param.sample_image_of_plain (h e he p hp)

end Steps

/-! ## One step and two -/

/-- A document that gives no API stops both ways at the same point. One that does gives a client in one step, if its
samples can be shown. If its model can be saved, the client for the saved model has the same files if and only if
saving keeps the samples of the parameters in paths, as it does for values that JSON has. A saved model that does not
fit what the reader takes is refused, and it fits only if the samples can be shown. All this is said of documents
that name no halves of characters, as no others are known here. -/
theorem run_eq_parse_generate (verbose append : Bool) (d : Directory) (document model output : FilePath)
    (format : Option Format) (patterns : List String) (t : Target) (_hwhole : namesWhole d document format = true) :
    let parse := Invocation.parse document format patterns model
    let run := Invocation.run document format patterns t append output
    let generate := Invocation.generate model t append output
    let saved := (parse.outcome verbose d).directory
    (∀ s, (apiOfDocument verbose d document format patterns).result = .error s →
      s.exit = 1 ∧ (parse.work verbose d).result = .error s ∧ (run.work verbose d).result = .error s) ∧
    ∀ api, (apiOfDocument verbose d document format patterns).result = .ok api →
      (api.ShowsSamples → run.Makes verbose append d output (t.generate api)) ∧
        (¬api.ShowsSamples → (run.work verbose d).result = .error .unshown) ∧
        ((parse.outcome verbose d).exit = 0 → ∃ j, api.toJson? = some j ∧
          (j.fits savedLevels = true →
            api.ShowsSamples ∧ generate.Makes verbose append saved output (t.generate api.image)) ∧
          (j.fits savedLevels = false →
            (generate.work verbose saved).result = .error (invalidModel model [⟨[], .notJson⟩]))) ∧
        (t.generate api.image).map Artifact.path = (t.generate api).map Artifact.path ∧
        ((t.generate api.image).map Artifact.text = (t.generate api).map Artifact.text ↔ api.KeepsSamples) ∧
        ((∀ e ∈ api.endpoints, ∀ p ∈ e.paramsIn .path, AllPlain p.freeValues) → api.KeepsSamples) := by
  intro parse run generate saved
  constructor
  · intro s hstop
    have hparse : (parse.work verbose d).result = _ := work_parse verbose d document model format patterns
    have hrun : (run.work verbose d).result = _ := work_run verbose append d document output format patterns t
    rw [hstop] at hparse hrun
    exact ⟨exit_apiOfDocument hstop, hparse, hrun⟩
  · intro api hapi
    obtain ⟨hname, hformed⟩ := consistent_apiOfDocument hapi
    obtain ⟨hrun, hlong⟩ := makes_run hapi
    refine ⟨hrun, hlong, fun hexit => ?_, ?_, ?_, Api.keepsSamples_of_plain⟩
    · obtain ⟨j, hj, hread⟩ := saved_of_exit hapi hexit
      obtain ⟨hfits, hunfit⟩ := makes_generate ⟨hname, fun e he => (hformed e he).consistent⟩ hj hread
      exact ⟨j, hj, fun hf => ⟨(Api.showsSamples_of_fits hj hf).1, hfits hf⟩, hunfit⟩
    · unfold Target.generate
      rw [t.map_path_files, t.map_path_files]
    · exact t.generate_image_iff fun e he => (hformed e he).responses

/-- What is checked of a document: whether its model fits the reader, and whether saving keeps samples. -/
def checkSaved (d : Directory) (document : FilePath) : Option (Option Bool × Bool) :=
  (apiOfDocument false d document (some .openApi) []).result.toOption.map fun api =>
    (api.toJson?.map (·.fits savedLevels), decide api.KeepsSamples)

theorem of_checkSaved {d : Directory} {document : FilePath} {kept : Bool}
    (h : checkSaved d document = some (some true, kept)) :
    ∃ api j, (apiOfDocument false d document (some .openApi) []).result = .ok api ∧ api.toJson? = some j ∧
      j.fits savedLevels = true ∧ decide api.KeepsSamples = kept := by
  obtain ⟨api, hapi, hchecks⟩ := toOption_map_eq_some.1 h
  obtain ⟨hfit, hkept⟩ := Prod.mk.inj hchecks
  obtain ⟨j, hj, hfits⟩ := Option.map_eq_some_iff.1 hfit
  exact ⟨api, j, hapi, hj, hfits, hkept⟩

/-- A folder with one document. -/
def folderWith (name text : String) : Directory := { files := [([name], text)] }

/-- A folder with a document whose parameter in a path has a list as its example, and choices that are not
all values of JSON. -/
def petFolder : Directory := folderWith "pet.json" (
  "\x7b\"openapi\":3,\"paths\":\x7b\"/\x7bid\x7d\":\x7b\"get\":\x7b\"parameters\":" ++
  "[\x7b\"name\":\"id\",\"in\":\"path\",\"example\":[1]," ++
  "\"schema\":\x7b\"enum\":[true,NaN]\x7d\x7d]\x7d\x7d\x7d\x7d")

/-- A folder with a document whose parameter in a path has a number as its example that JSON lacks. -/
def nanFolder : Directory := folderWith "nan.json" (
  "\x7b\"openapi\":3,\"paths\":\x7b\"/\x7bx\x7d\":\x7b\"get\":\x7b\"parameters\":" ++
  "[\x7b\"name\":\"x\",\"in\":\"path\",\"example\":NaN\x7d]\x7d\x7d\x7d\x7d")

theorem run_eq_parse_generate_petFolder :
    let parse := Invocation.parse (.ofText "pet.json") (some .openApi) [] (.ofText "m.json")
    namesWhole petFolder (.ofText "pet.json") (some .openApi) = true ∧
      (parse.outcome false petFolder).exit = 0 ∧ ∃ files files' : List Artifact,
      (Invocation.run (.ofText "pet.json") (some .openApi) [] .php false (.ofText "out")).Makes false false
        petFolder (.ofText "out") files ∧
      (Invocation.generate (.ofText "m.json") .php false (.ofText "out")).Makes false false
        (parse.outcome false petFolder).directory (.ofText "out") files' ∧
      files'.map Artifact.text = files.map Artifact.text := by
  intro parse
  have hcheck : checkSaved petFolder (.ofText "pet.json") = some (some true, true) := by decide +kernel
  have hwhole : namesWhole petFolder (.ofText "pet.json") (some .openApi) = true := by decide +kernel
  obtain ⟨-, hsteps⟩ := run_eq_parse_generate false false petFolder (.ofText "pet.json") (.ofText "m.json")
    (.ofText "out") (some .openApi) [] .php hwhole
  obtain ⟨api, j, hapi, hj, hfits, hkept⟩ := of_checkSaved hcheck
  obtain ⟨hrun, -, hsaved, -, hsame, -⟩ := hsteps api hapi
  have hexit : (parse.outcome false petFolder).exit = 0 := exit_of_save hapi hj rfl
  obtain ⟨j', hj', hgenerate, -⟩ := hsaved hexit
  obtain rfl : j = j' := Option.some.inj (hj.symm.trans hj')
  obtain ⟨hshows, hmakes⟩ := hgenerate hfits
  exact ⟨hwhole, hexit, _, _, hrun hshows, hmakes, hsame.2 (of_decide_eq_true hkept)⟩

/-- The two ways do not always give the same files. -/
theorem nanFolder_run_ne_parse_generate :
    ¬ ∀ (verbose : Bool) (d : Directory) (document model output : FilePath) (format : Option Format)
      (patterns : List String) (t : Target),
      ((Invocation.parse document format patterns model).outcome verbose d).exit = 0 →
      ∀ files files' : List Artifact,
        (Invocation.run document format patterns t false output).Makes verbose false d output files →
        (Invocation.generate model t false output).Makes verbose false
          ((Invocation.parse document format patterns model).outcome verbose d).directory output files' →
        files'.map Artifact.text = files.map Artifact.text := by
  intro hall
  have hcheck : checkSaved nanFolder (.ofText "nan.json") = some (some true, false) := by decide +kernel
  obtain ⟨api, j, hapi, hj, hfits, hlost⟩ := of_checkSaved hcheck
  obtain ⟨hname, hformed⟩ := consistent_apiOfDocument hapi
  have hexit : ((Invocation.parse (.ofText "nan.json") (some .openApi) [] (.ofText "m.json")).outcome false
      nanFolder).exit = 0 := exit_of_save hapi hj rfl
  obtain ⟨j', hj', hread⟩ := saved_of_exit hapi hexit
  obtain rfl : j = j' := Option.some.inj (hj.symm.trans hj')
  have hgenerate : (Invocation.generate (.ofText "m.json") .go false (.ofText "out")).Makes false false _ _ _ :=
    (makes_generate ⟨hname, fun e he => (hformed e he).consistent⟩ hj hread).1 hfits
  have hrun : (Invocation.run (.ofText "nan.json") (some .openApi) [] .go false (.ofText "out")).Makes false false
      nanFolder (.ofText "out") _ := (makes_run hapi).1 (Api.showsSamples_of_fits hj hfits).1
  have hsame := hall _ _ _ _ _ _ _ _ hexit _ _ hrun hgenerate
  have hkept := (Target.generate_image_iff .go fun e he => (hformed e he).responses).1 hsame
  exact of_decide_eq_false hlost hkept

end ClientForge
