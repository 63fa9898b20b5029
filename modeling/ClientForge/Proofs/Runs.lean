import ClientForge.Proofs.Steps

/-!
What runs of the program leave of the files that were there (`directory_ofArguments`). Nothing is touched
before all is read. A run that makes a client and ends well has delivered its files (`Outcome.Delivers`): each
is written, or kept because something was in its place. That need not be a file
(`crowdedFolder_not_delivered`). As arguments mean the same in every directory
(`Invocation.agree_ofArguments`), the same run once more finds all that it would write. Directories have files
and folders only (see `Directory`); where there are links, a file may be changed by another name.
-/

namespace ClientForge

/-! ## The same arguments in two directories -/

/-- Do two outcomes have the same result, if both have one? -/
def Agree {α : Type} (x y : Except Stop α) : Prop := ∀ a b, x = .ok a → y = .ok b → a = b

namespace Agree

variable {α β : Type} {x y : Except Stop α}

theorem refl (x : Except Stop α) : Agree x x := by
  rintro a b rfl h
  exact Except.ok.inj h

theorem error_left (s : Stop) (y : Except Stop α) : Agree (.error s) y := nofun

theorem error_right (x : Except Stop α) (s : Stop) : Agree x (.error s) := nofun

theorem bind {f g : α → Except Stop β} (h : Agree x y) (hf : ∀ a, Agree (f a) (g a)) : Agree (x >>= f) (y >>= g) := by
  cases x with
  | error s => exact error_left s _
  | ok a =>
    cases y with
    | error s => exact error_right _ s
    | ok b =>
      rw [h a b rfl rfl]
      exact hf b

theorem map (f : α → β) (h : Agree x y) : Agree (x.map f) (y.map f) := by
  cases x with
  | error s => exact error_left s _
  | ok a =>
    cases y with
    | error s => exact error_right _ s
    | ok b =>
      rw [h a b rfl rfl]
      exact refl _

theorem foldlM {f g : β → α → Except Stop β} (h : ∀ b a, Agree (f b a) (g b a)) (as : List α) (b : β) :
    Agree (as.foldlM f b) (as.foldlM g b) := by
  induction as generalizing b with
  | nil => exact refl _
  | cons a as ih =>
    rw [List.foldlM_cons, List.foldlM_cons]
    exact (h b a).bind ih

end Agree

namespace Command

theorem agree_outputPath (d d' : Directory) (value : String) : Agree (outputPath d value) (outputPath d' value) := by
  unfold outputPath
  split
  · exact Agree.error_left _ _
  · split
    · exact Agree.error_right _ _
    · exact Agree.refl _

theorem agree_inputPath (c : Command) (d d' : Directory) (a : Arguments) :
    Agree (c.inputPath d a) (c.inputPath d' a) := by
  have hword : ∀ (d : Directory) (p : FilePath), c.inputPath d a = .ok p →
      a.words.head?.map FilePath.ofText = some p := by
    intro d p h
    unfold inputPath at h
    split at h
    · cases h
    · rename_i word hword
      split at h <;> cases h
      rw [hword]
      rfl
  intro p q hp hq
  exact Option.some.inj ((hword d p hp).symm.trans (hword d' q hq))

theorem agree_checkFlag (c : Command) (d d' : Directory) (a : Arguments) (os : Options) (f : Flag) :
    Agree (c.checkFlag d a os f) (c.checkFlag d' a os f) := by
  cases f with
  | output => exact (agree_outputPath d d' _).map _
  | _ => exact Agree.refl _

/-- An invocation does not depend on the directory but for whether there is one. -/
theorem agree_invocation (c : Command) (d d' : Directory) (args : List String) :
    Agree (c.invocation d args) (c.invocation d' args) := by
  unfold invocation
  refine (Agree.refl _).bind fun a => ?_
  dsimp only
  split
  · exact Agree.error_left _ _
  refine (Agree.foldlM (agree_checkFlag c d d' a) _ _).bind fun os => ?_
  have hinput := agree_inputPath c d d' a
  cases c with
  | targets => exact Agree.refl _
  | _ => exact hinput.bind fun _ => Agree.refl _

end Command

theorem Invocation.agree_ofArguments (d d' : Directory) (args : List String) :
    Agree (Invocation.ofArguments d args) (Invocation.ofArguments d' args) := by
  unfold Invocation.ofArguments
  split
  · exact Agree.error_left _ _
  refine (Agree.refl _).bind fun a => ?_
  dsimp only
  cases a.has .help with
  | true => exact Agree.error_left _ _
  | false =>
    cases a.words with
    | nil => exact Agree.refl _
    | cons name rest =>
      dsimp only
      cases Command.ofName? name with
      | none => exact Agree.refl _
      | some c => exact (Command.agree_invocation c d d' rest).bind fun _ => Agree.refl _

/-! ## Clients -/

/-- The language of the client that an invocation makes, whether files shall be kept, and the folder. -/
def Invocation.client? : Invocation → Option (Target × Bool × FilePath)
  | generate _ t append output => some (t, append, output)
  | run _ _ _ t append output => some (t, append, output)
  | parse _ _ _ _ | targets => none

/-- The API that an invocation makes a client for. -/
inductive Invocation.Reads (verbose : Bool) (d : Directory) (api : Api) : Invocation → Prop
  | generate {model : FilePath} {t : Target} {append : Bool} {output : FilePath}
      (h : (apiOfModel d model).result = .ok api) : Reads verbose d api (.generate model t append output)
  | run {document : FilePath} {format : Option Format} {patterns : List String} {t : Target} {append : Bool}
      {output : FilePath} (h : (apiOfDocument verbose d document format patterns).result = .ok api) :
      Reads verbose d api (.run document format patterns t append output)

section

variable {verbose append : Bool} {d : Directory} {i : Invocation} {t : Target} {output : FilePath}

/-- What is left to do for a client is to save its files, or the run ends badly. -/
theorem result_clientWork_cases {opening : String} {api : Api} {x : Except Stop Work}
    (h : x = clientWork t append output opening api) :
    (∃ s, x = .error s ∧ s.exit = 1) ∨ x = .ok (.saveFiles (t.generate api) append output opening) := by
  rw [h]
  unfold clientWork
  split
  · exact Or.inr rfl
  · exact Or.inl ⟨.unshown, rfl, rfl⟩

/-- An invocation that makes a client sets out to save its files, or it ends badly. -/
theorem work_client (h : i.client? = some (t, append, output)) :
    (∃ s, (i.work verbose d).result = .error s ∧ s.exit = 1) ∨
      ∃ api opening, i.Reads verbose d api ∧
        (i.work verbose d).result = .ok (.saveFiles (t.generate api) append output opening) := by
  cases i with
  | generate model t' append' output' =>
    obtain ⟨rfl, rfl, rfl⟩ : t' = t ∧ append' = append ∧ output' = output := by simpa [Invocation.client?] using h
    have hwork := work_generate verbose append' d model output' t'
    cases hapi : (apiOfModel d model).result with
    | error s =>
      rw [hapi] at hwork
      exact Or.inl ⟨s, hwork, exit_apiOfModel hapi⟩
    | ok api =>
      rw [hapi] at hwork
      exact (result_clientWork_cases hwork).imp_right fun h => ⟨api, _, .generate hapi, h⟩
  | run document format patterns t' append' output' =>
    obtain ⟨rfl, rfl, rfl⟩ : t' = t ∧ append' = append ∧ output' = output := by simpa [Invocation.client?] using h
    have hwork := work_run verbose append' d document output' format patterns t'
    cases hapi : (apiOfDocument verbose d document format patterns).result with
    | error s =>
      rw [hapi] at hwork
      exact Or.inl ⟨s, hwork, exit_apiOfDocument hapi⟩
    | ok api =>
      rw [hapi] at hwork
      exact (result_clientWork_cases hwork).imp_right fun h => ⟨api, _, .run hapi, h⟩
  | parse | targets => cases h

theorem work_of_exit (h : i.client? = some (t, append, output)) (hexit : (i.outcome verbose d).exit = 0) :
    ∃ api opening, i.Reads verbose d api ∧
      (i.work verbose d).result = .ok (.saveFiles (t.generate api) append output opening) := by
  refine (work_client h).resolve_left ?_
  rintro ⟨s, hwork, hbad⟩
  rw [outcome_of_stop hwork] at hexit
  exact absurd (hbad.symm.trans hexit) (by decide)

end

theorem outcome_ofArguments {verbose : Bool} {d : Directory} {i : Invocation} {args : List String}
    (h : Invocation.ofArguments d args = .ok (verbose, i)) : Outcome.ofArguments d args = i.outcome verbose d := by
  unfold Outcome.ofArguments
  rw [h]

/-- What a run leaves that has delivered the files of a client: some of them are written. -/
structure Outcome.Delivers (o : Outcome) (d : Directory) (append : Bool) (output : FilePath)
    (files written : List Artifact) : Prop where
  /-- All are written, if nothing shall be kept. -/
  all : append = false → written = files
  some : written.Sublist files
  /-- What is written is found with its text. -/
  found : ∀ a ∈ written, o.directory.Finds (output.below a.path) a.text
  /-- What is not written was there, and is found as before. -/
  kept : ∀ a ∈ files, a ∉ written → append = true ∧ o.directory.Has (output.below a.path) ∧
    ∀ text, d.Finds (output.below a.path) text → o.directory.Finds (output.below a.path) text
  /-- What was there at the path of a file is kept, if it shall be. -/
  fresh : append = true → ∀ a ∈ written, ¬d.Has (output.below a.path)
  /-- Unless steps up to the folder lead from folders that are not there, nothing else is kept. -/
  missing : d.Grounded → d.Settles output → ∀ a ∈ files, ¬d.Has (output.below a.path) → a ∈ written
  /-- Files at other places stay as they are. -/
  others : ∀ u, u ∉ placesBelow d output written → o.directory.fileAt? u = d.fileAt? u
  /-- A line tells of each file, and the last line how many are written. -/
  told : ∃ before opening, o.lines = before ++ files.map (fun a => savedLine output (written.contains a) a) ++
    [opening ++ toString written.length ++ " files in " ++ output.text]

section

variable {verbose append : Bool} {d : Directory} {i : Invocation} {t : Target} {output : FilePath} {api : Api}
  {opening : String}

/-- A run that makes a client and ends well has delivered it. -/
theorem delivers_of_work
    (h : (i.work verbose d).result = .ok (.saveFiles (t.generate api) append output opening))
    (hexit : (i.outcome verbose d).exit = 0) :
    ∃ written, (i.outcome verbose d).Delivers d append output (t.generate api) written := by
  obtain ⟨hcrash, hdirectory, hlines⟩ := outcome_saveFiles h hexit
  obtain ⟨written, hsaves⟩ := saves_saveFiles hcrash (t.nodup_placesBelow d output _)
  refine ⟨written, hsaves.all, hsaves.sublist, ?_, ?_, hsaves.fresh, ?_, ?_, (i.work verbose d).lines, opening, ?_⟩
  · rw [hdirectory]
    exact hsaves.found
  · intro a ha hnot
    rw [hdirectory]
    refine ⟨?_, hsaves.kept a ha hnot, fun text hfinds => hsaves.finds_kept ha hnot hfinds⟩
    by_contra hall
    exact hnot (by rwa [hsaves.all (Bool.eq_false_iff.2 hall)])
  · exact fun hgrounded hsettles a ha hnone => (hsaves.mem_written_iff hgrounded hsettles ha).2 fun _ => hnone
  · rw [hdirectory]
    exact hsaves.changes.others
  · rw [hlines, hsaves.lines, hsaves.count, List.append_assoc]

/-- Everything that a delivered client has is there. -/
theorem Outcome.Delivers.has {o : Outcome} {files written : List Artifact}
    (h : o.Delivers d append output files written) {a : Artifact} (ha : a ∈ files) :
    o.directory.Has (output.below a.path) := by
  by_cases hmem : a ∈ written
  · exact (h.found a hmem).has
  · exact (h.kept a ha hmem).2.1

/-- Where a client of the language is, with all kept it is not made again. -/
theorem directory_of_has (hclient : i.client? = some (t, true, output))
    (h : ∀ path ∈ t.paths, d.Has (output.below path)) : (i.outcome verbose d).directory = d := by
  rcases work_client hclient with ⟨s, hwork, -⟩ | ⟨api, opening, -, hwork⟩
  · rw [outcome_of_stop hwork]
    rfl
  · rw [outcome_of_work hwork]
    show ((saveFiles true output d (t.generate api)).ended _).directory = d
    have hsaved : (saveFiles true output d (t.generate api)).directory = d := by
      refine saveFiles_of_has fun a ha => h a.path ?_
      rw [← t.map_path_files (ClientPlan.ofApi t api)]
      exact List.mem_map_of_mem ha
    unfold Saving.ended
    split <;> exact hsaved

end

/-! ## Runs -/

theorem fileAt?_saveModel {output : FilePath} {d : Directory} {api : Api} (h : (saveModel output d api).crash? ≠ none)
    (u : Trail) : (saveModel output d api).directory.fileAt? u = d.fileAt? u := by
  have hfolders := Directory.fileAt?_makeFolders d output.parent u
  unfold saveModel at h ⊢
  split
  · rename_i heq
    rwa [heq] at hfolders
  · rename_i heq _
    rwa [heq] at hfolders
  · rename_i d' j heq hj
    rw [heq] at h hfolders
    rw [hj] at h
    dsimp only at h ⊢
    split
    · exact hfolders
    · rename_i d'' hwrite
      rw [hwrite] at h
      exact absurd rfl h

/-- A run that makes no client and ends badly changes no file. -/
theorem fileAt?_of_exit {verbose : Bool} {d : Directory} {i : Invocation} (hclient : i.client? = none)
    (hexit : (i.outcome verbose d).exit ≠ 0) (u : Trail) :
    (i.outcome verbose d).directory.fileAt? u = d.fileAt? u := by
  cases i with
  | generate | run => cases hclient
  | targets => exact absurd rfl hexit
  | parse document format patterns model =>
    have hwork := work_parse verbose d document model format patterns
    cases hapi : (apiOfDocument verbose d document format patterns).result with
    | error s =>
      rw [hapi] at hwork
      rw [outcome_of_stop hwork]
      rfl
    | ok api =>
      rw [hapi] at hwork
      rw [outcome_of_work hwork] at hexit ⊢
      refine fileAt?_saveModel (fun hcrash => hexit ?_) u
      show (if (saveModel model d api).crash?.isSome then 1 else 0) = 0
      rw [hcrash]
      rfl

/-- What a run leaves of the files that were there. One that fails before it sets out to save anything leaves
the directory as it is, and if it makes no client it changes no file unless it ends well. A run that makes a
client and ends well has delivered the files of the client. If it kept what was there, the same run once more
leaves the directory as it is. -/
theorem directory_ofArguments (d : Directory) (args : List String) :
    (∀ s, Invocation.ofArguments d args = .error s → (Outcome.ofArguments d args).directory = d) ∧
    ∀ verbose i, Invocation.ofArguments d args = .ok (verbose, i) →
      (∀ s, (i.work verbose d).result = .error s → (Outcome.ofArguments d args).directory = d) ∧
      (i.client? = none → (Outcome.ofArguments d args).exit ≠ 0 →
        ∀ u, (Outcome.ofArguments d args).directory.fileAt? u = d.fileAt? u) ∧
      ∀ t append output, i.client? = some (t, append, output) → (Outcome.ofArguments d args).exit = 0 →
        (∃ api written, i.Reads verbose d api ∧
          (Outcome.ofArguments d args).Delivers d append output (t.generate api) written) ∧
        (append = true → (Outcome.ofArguments (Outcome.ofArguments d args).directory args).directory =
          (Outcome.ofArguments d args).directory) := by
  constructor
  · intro s hargs
    unfold Outcome.ofArguments
    rw [hargs]
    rfl
  intro verbose i hargs
  rw [outcome_ofArguments hargs]
  refine ⟨fun s hwork => by rw [outcome_of_stop hwork]; rfl, fileAt?_of_exit, ?_⟩
  intro t append output hclient hexit
  obtain ⟨api, opening, hreads, hwork⟩ := work_of_exit hclient hexit
  obtain ⟨written, hdelivers⟩ := delivers_of_work hwork hexit
  refine ⟨⟨api, written, hreads, hdelivers⟩, ?_⟩
  rintro rfl
  generalize hleft : (i.outcome verbose d).directory = d' at hdelivers ⊢
  have hhas : ∀ path ∈ t.paths, d'.Has (output.below path) := by
    intro path hpath
    rw [← t.map_path_files (ClientPlan.ofApi t api)] at hpath
    obtain ⟨a, ha, rfl⟩ := List.mem_map.1 hpath
    rw [← hleft]
    exact hdelivers.has ha
  unfold Outcome.ofArguments
  cases hagain : Invocation.ofArguments d' args with
  | error s => rfl
  | ok x =>
    rw [← Invocation.agree_ofArguments d d' args (verbose, i) x hargs hagain]
    exact directory_of_has hclient hhas

/-- A folder with a document, a file of a client with another text, and a folder in place of the last file. -/
def crowdedFolder : Directory where
  files := [(["pet.json"], "\x7b\"openapi\":3,\"paths\":\x7b\"/a\":\x7b\"get\":\x7b\x7d\x7d\x7d\x7d"),
    (["out", "go.mod"], "module pets")]
  folders := [["out"], ["out", ".env.example"]]

/-- The arguments of a run that keeps what is there. -/
def keepingArguments : List String := ["run", "pet.json", "-o", "out", "-t", "go", "--append"]

/-- The invocation of these arguments. -/
def keepingRun : Invocation := .run (.ofText "pet.json") none [] .go true (.ofText "out")

theorem ofArguments_keepingArguments :
    Invocation.ofArguments crowdedFolder keepingArguments = .ok (false, keepingRun) := by
  decide +kernel

theorem exit_keepingArguments : (Outcome.ofArguments crowdedFolder keepingArguments).exit = 0 := by
  decide +kernel

theorem directory_ofArguments_crowdedFolder :
    crowdedFolder.Grounded ∧ crowdedFolder.Settles (.ofText "out") ∧
      (∃ api written, keepingRun.Reads false crowdedFolder api ∧
        (Outcome.ofArguments crowdedFolder keepingArguments).Delivers crowdedFolder true (.ofText "out")
          (Target.go.generate api) written) ∧
      (Outcome.ofArguments (Outcome.ofArguments crowdedFolder keepingArguments).directory keepingArguments).directory =
        (Outcome.ofArguments crowdedFolder keepingArguments).directory := by
  have hgrounded : crowdedFolder.Grounded := Directory.grounded_of_parents (by decide) (by decide)
  have hsettles : crowdedFolder.Settles (.ofText "out") :=
    ⟨["out"], [], ["out"], by decide, fun _ hname => absurd hname List.not_mem_nil, by decide⟩
  obtain ⟨hdelivers, hagain⟩ := ((directory_ofArguments crowdedFolder keepingArguments).2 _ _
    ofArguments_keepingArguments).2.2 .go true (.ofText "out") rfl exit_keepingArguments
  exact ⟨hgrounded, hsettles, hdelivers, hagain rfl⟩

/-- A run that ends well need not leave each file of the client, although no file was in its place. -/
theorem crowdedFolder_not_delivered :
    ¬∀ (d : Directory) (args : List String) (verbose : Bool) (i : Invocation) (t : Target) (append : Bool)
      (output : FilePath) (api : Api), Invocation.ofArguments d args = .ok (verbose, i) →
      i.client? = some (t, append, output) → i.Reads verbose d api → (Outcome.ofArguments d args).exit = 0 →
      ∀ a ∈ t.generate api, (Outcome.ofArguments d args).directory.Finds (output.below a.path) a.text ∨
        append = true ∧ ∃ text, d.Finds (output.below a.path) text ∧
          (Outcome.ofArguments d args).directory.Finds (output.below a.path) text := by
  intro hall
  have hexit := exit_keepingArguments
  rw [outcome_ofArguments ofArguments_keepingArguments] at hexit
  obtain ⟨api, -, hreads, -⟩ := work_of_exit (i := keepingRun) rfl hexit
  have hpath : ".env.example" ∈ (Target.go.generate api).map Artifact.path := by
    rw [show (Target.go.generate api).map Artifact.path = Target.go.paths from Target.go.map_path_files _]
    decide
  obtain ⟨a, ha, hname⟩ := List.mem_map.1 hpath
  have hbefore : crowdedFolder.read ((FilePath.ofText "out").below ".env.example") = .error .isFolder := by
    decide +kernel
  have hafter : (Outcome.ofArguments crowdedFolder keepingArguments).directory.read
      ((FilePath.ofText "out").below ".env.example") = .error .isFolder := by
    decide +kernel
  have hfound := hall _ _ _ _ .go true _ api ofArguments_keepingArguments rfl hreads exit_keepingArguments a ha
  rw [hname] at hfound
  rcases hfound with hfinds | ⟨-, text, hfinds, -⟩
  · rw [hfinds.read] at hafter
    cases hafter
  · rw [hfinds.read] at hbefore
    cases hbefore

end ClientForge
