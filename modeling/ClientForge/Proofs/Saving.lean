import ClientForge.Command.Run
import ClientForge.Proofs.Directories
import ClientForge.Proofs.Text
import Mathlib.Data.List.Nodup

/-!
Saving the files of a client. Some are written and the others kept, and nothing else is touched (`Saves`,
`saves_saveFiles`). No two files of a client are at the same place (`Target.nodup_placesBelow`), so all that
are written are found with their texts (`Target.read_saveFiles`). When all files of a client are there,
saving it once more with all kept leaves the directory as it is (`saveFiles_of_has`).
-/

namespace ClientForge

/-! ## One file -/

/-- The places of files below a folder. -/
def placesBelow (d : Directory) (output : FilePath) (files : List Artifact) : List Trail :=
  files.map fun a => d.placeOf (output.below a.path)

theorem Directory.Extends.placesBelow {d d' : Directory} (h : d.Extends d') (output : FilePath)
    (files : List Artifact) : placesBelow d' output files = placesBelow d output files :=
  List.map_congr_left fun _ _ => h.placeOf _

/-- The line on a file that is written, or kept if not. -/
def savedLine (output : FilePath) (isWritten : Bool) (a : Artifact) : String :=
  if isWritten then "  Created " ++ (output.below a.path).text
  else "  Skipped " ++ (output.below a.path).text ++ " (exists)"

theorem keeps_eq_true {d : Directory} {append : Bool} {p : FilePath} (h : keeps d append p = .ok true) :
    append = true ∧ d.Has p := by
  cases append with
  | false => cases h
  | true =>
    refine ⟨rfl, ?_⟩
    simp only [keeps, if_true] at h
    cases hkind : d.kind p with
    | error f =>
      rw [hkind] at h
      cases h
    | ok k? =>
      rw [hkind] at h
      cases k? with
      | none => cases h
      | some k => exact ⟨k, hkind⟩

theorem keeps_eq_false {d : Directory} {append : Bool} {p : FilePath} (h : keeps d append p = .ok false)
    (happend : append = true) : ¬d.Has p := by
  rintro ⟨k, hkind⟩
  simp only [keeps, happend, if_true, hkind] at h
  cases h

theorem keeps_of_has {d : Directory} {p : FilePath} (h : d.Has p) : keeps d true p = .ok true := by
  obtain ⟨k, hkind⟩ := h
  simp only [keeps, if_true, hkind]
  rfl

section

variable {append : Bool} {output : FilePath} {d : Directory} {a : Artifact} {as : List Artifact}

/-- If nothing goes wrong, the first file is kept because it is there, or it is written. -/
theorem saveFiles_cons (h : (saveFiles append output d (a :: as)).crash? = none) :
    (append = true ∧ d.Has (output.below a.path) ∧ (saveFiles append output d as).crash? = none ∧
      saveFiles append output d (a :: as) = (saveFiles append output d as).afterLine (savedLine output false a)) ∨
    ((append = true → ¬d.Has (output.below a.path)) ∧ ∃ d', d.save (output.below a.path) a.text = (d', none) ∧
      (saveFiles append output d' as).crash? = none ∧
      saveFiles append output d (a :: as) = (saveFiles append output d' as).afterFile (savedLine output true a)) := by
  rw [saveFiles] at h ⊢
  cases hkeeps : keeps d append (output.below a.path) with
  | error f =>
    rw [hkeeps] at h
    cases h
  | ok kept =>
    rw [hkeeps] at h
    cases kept with
    | true =>
      obtain ⟨happend, hhas⟩ := keeps_eq_true hkeeps
      exact Or.inl ⟨happend, hhas, h, rfl⟩
    | false =>
      rcases hsave : d.save (output.below a.path) a.text with ⟨d', fault⟩
      rw [hsave] at h
      cases fault with
      | some f => cases h
      | none => exact Or.inr ⟨keeps_eq_false hkeeps, d', rfl, h, rfl⟩

end

/-! ## All files -/

/-- What saving files below a folder does, if nothing goes wrong: some of them are written. -/
structure Saves (append : Bool) (output : FilePath) (files written : List Artifact) (d : Directory) (s : Saving) :
    Prop where
  sublist : written.Sublist files
  /-- All are written, if nothing shall be kept. -/
  all : append = false → written = files
  found : ∀ a ∈ written, s.directory.Finds (output.below a.path) a.text
  /-- Where a file is not written, something stands. -/
  kept : ∀ a ∈ files, a ∉ written → s.directory.Has (output.below a.path)
  /-- What stood at the path of a file is kept, if it shall be. -/
  fresh : append = true → ∀ a ∈ written, ¬d.Has (output.below a.path)
  changes : d.ChangesAt (placesBelow d output written) s.directory
  /-- Folders are made on the way to the files only. -/
  made : ∀ t, s.directory.isFolder t = true →
    d.isFolder t = true ∨ ∃ a ∈ files, d.OnWay (output.below a.path).parent t
  lines : s.lines = files.map fun a => savedLine output (written.contains a) a
  count : s.written = written.length

namespace Saves

variable {append : Bool} {output : FilePath} {d d' : Directory} {a : Artifact} {as written : List Artifact}
  {s : Saving}

theorem nil : Saves append output [] [] d { directory := d } where
  sublist := List.Sublist.refl []
  all _ := rfl
  found _ ha := absurd ha List.not_mem_nil
  kept _ ha := absurd ha List.not_mem_nil
  fresh _ _ ha := absurd ha List.not_mem_nil
  changes := .refl _ d
  made _ := Or.inl
  lines := rfl
  count := rfl

/-- A file that is kept before the others. -/
theorem keep (h : Saves true output as written d s) (hhas : d.Has (output.below a.path)) (ha : a ∉ as) :
    Saves true output (a :: as) written d (s.afterLine (savedLine output false a)) where
  sublist := h.sublist.cons a
  all := nofun
  found := h.found
  kept := List.forall_mem_cons.2 ⟨fun _ => h.changes.has hhas, h.kept⟩
  fresh := h.fresh
  changes := h.changes
  made t ht := (h.made t ht).imp_right fun ⟨b, hb, hway⟩ => ⟨b, List.mem_cons_of_mem a hb, hway⟩
  lines := by
    have hnot : written.contains a = false := by simpa using fun hmem => ha (h.sublist.subset hmem)
    rw [List.map_cons, hnot, ← h.lines]
    rfl
  count := h.count

/-- A file that is written before the others. -/
theorem write (h : Saves append output as written d' s) (hsave : d.save (output.below a.path) a.text = (d', none))
    (hfresh : append = true → ¬d.Has (output.below a.path)) (ha : a ∉ as)
    (hplace : d.placeOf (output.below a.path) ∉ placesBelow d output as) :
    Saves append output (a :: as) (a :: written) d (s.afterFile (savedLine output true a)) := by
  have hstep := Directory.changesAt_save hsave
  have hplaces := hstep.toExtends.placesBelow output
  have hchanges := h.changes
  rw [hplaces] at hchanges
  refine ⟨h.sublist.cons_cons a, fun hall => by rw [h.all hall], ?_, ?_, ?_, hstep.trans hchanges, ?_, ?_, ?_⟩
  · refine List.forall_mem_cons.2 ⟨?_, h.found⟩
    refine hchanges.finds ?_ (Directory.finds_save hsave)
    rw [hstep.toExtends.placeOf]
    exact fun hmem => hplace ((h.sublist.map _).subset hmem)
  · refine List.forall_mem_cons.2 ⟨fun hnot => absurd List.mem_cons_self hnot, fun b hb hnot => ?_⟩
    exact h.kept b hb fun hmem => hnot (List.mem_cons_of_mem a hmem)
  · exact fun happend => List.forall_mem_cons.2
      ⟨hfresh happend, fun b hb hhas => h.fresh happend b hb (hstep.has hhas)⟩
  · intro t ht
    rcases h.made t ht with hfolder | ⟨b, hb, hway⟩
    · rcases Directory.onWay_of_isFolder_save hsave hfolder with hbefore | hway
      · exact Or.inl hbefore
      · exact Or.inr ⟨a, List.mem_cons_self, hway⟩
    · exact Or.inr ⟨b, List.mem_cons_of_mem a hb, hstep.toExtends.onWay hway⟩
  · show savedLine output true a :: s.lines = _
    rw [h.lines, List.map_cons, List.contains_cons, beq_self_eq_true, Bool.true_or]
    refine congrArg _ (List.map_congr_left fun b hb => ?_)
    have hne : (b == a) = false := beq_eq_false_iff_ne.2 fun heq => ha (heq ▸ hb)
    rw [List.contains_cons, hne, Bool.false_or]
  · exact congrArg (· + 1) h.count

end Saves

/-- Files at different places are saved each by itself. -/
theorem saves_saveFiles {append : Bool} {output : FilePath} {d : Directory} {files : List Artifact}
    (h : (saveFiles append output d files).crash? = none) (hplaces : (placesBelow d output files).Nodup) :
    ∃ written, Saves append output files written d (saveFiles append output d files) := by
  induction files generalizing d with
  | nil => exact ⟨[], .nil⟩
  | cons a as ih =>
    obtain ⟨hhead, htail⟩ := List.nodup_cons.1 hplaces
    have ha : a ∉ as := fun hmem => hhead (List.mem_map_of_mem hmem)
    rcases saveFiles_cons h with ⟨rfl, hhas, hrest, heq⟩ | ⟨hfresh, d', hsave, hrest, heq⟩
    · obtain ⟨written, hsaves⟩ := ih hrest htail
      rw [heq]
      exact ⟨written, hsaves.keep hhas ha⟩
    · have hextends := (Directory.changesAt_save hsave).toExtends
      obtain ⟨written, hsaves⟩ := ih hrest (by rwa [hextends.placesBelow])
      rw [heq]
      exact ⟨a :: written, hsaves.write hsave hfresh ha hhead⟩

/-- When all files are there and shall be kept, nothing happens. -/
theorem saveFiles_of_has {output : FilePath} {d : Directory} {files : List Artifact}
    (h : ∀ a ∈ files, d.Has (output.below a.path)) : (saveFiles true output d files).directory = d := by
  induction files with
  | nil => rfl
  | cons a as ih =>
    obtain ⟨hhead, htail⟩ := List.forall_mem_cons.1 h
    rw [saveFiles]
    rw [keeps_of_has hhead]
    exact ih htail

/-! ## The places of the files of a client -/

/-- The paths of the files of a client, whatever its plan is. -/
def Target.paths : Target → List String
  | node => [
    "package.json", "src/ApiClient.js", "src/auth/AuthHandler.js", "src/utils/RequestHandler.js",
    "src/utils/ApiError.js", "src/config/Config.js", "tests/ApiClient.test.js", "examples/basic-usage.js",
    ".env.example"]
  | python => [
    "pyproject.toml", "src/api_client/__init__.py", "src/api_client/client.py", "src/api_client/auth.py",
    "src/api_client/request.py", "src/api_client/errors.py", "src/api_client/config.py", "tests/test_client.py",
    "examples/basic_usage.py", ".env.example"]
  | go => [
    "go.mod", "client.go", "models.go", "auth.go", "request.go", "errors.go", "config.go", "client_test.go",
    "example/main.go", ".env.example"]
  | java => [
    "pom.xml", "src/main/java/com/example/ApiClient.java", "src/main/java/com/example/models/ApiResponse.java",
    "src/main/java/com/example/auth/AuthHandler.java", "src/main/java/com/example/utils/RequestHandler.java",
    "src/main/java/com/example/utils/ApiException.java", "src/main/java/com/example/config/Config.java",
    "src/test/java/com/example/ApiClientTest.java", "src/main/java/com/example/ExampleUsage.java", ".env.example"]
  | php => [
    "composer.json", "src/ApiClient.php", "src/Models/ApiResponse.php", "src/Auth/AuthHandler.php",
    "src/Utils/RequestHandler.php", "src/Utils/ApiException.php", "src/Config/Config.php",
    "tests/ApiClientTest.php", "examples/basic-usage.php", ".env.example"]

theorem Target.map_path_files (t : Target) (p : ClientPlan) : (t.files p).map Artifact.path = t.paths := by
  cases t <;> rfl

/-- Does each step of a path lead on to another place below? -/
def leadsDown (path : String) : Prop := ∀ s ∈ Text.splitAt '/' path.toList, s ≠ [] ∧ s ≠ ['.'] ∧ s ≠ ['.', '.']

instance (path : String) : Decidable (leadsDown path) :=
  inferInstanceAs (Decidable (∀ s ∈ Text.splitAt '/' path.toList, s ≠ [] ∧ s ≠ ['.'] ∧ s ≠ ['.', '.']))

theorem leadDown_pathSteps {path : String} (h : leadsDown path) : Directory.LeadDown (pathSteps path) := by
  intro name hname
  obtain ⟨s, hs, rfl⟩ := List.mem_map.1 hname
  obtain ⟨hempty, hhere, hup⟩ := h s hs
  have hne : ∀ cs : List Char, s ≠ cs → String.ofList s ≠ String.ofList cs :=
    fun cs hcs heq => hcs (String.ofList_injective heq)
  refine ⟨?_, hne _ hup⟩
  unfold isProperStep
  simpa using ⟨hempty, hne _ hhere⟩

theorem names_below (output : FilePath) {path : String} (h : leadsDown path) :
    (output.below path).names = output.names ++ pathSteps path :=
  congrArg (output.names ++ ·) (List.filter_eq_self.2 fun name hname => (leadDown_pathSteps h name hname).1)

theorem pathSteps_injective {path path' : String} (h : pathSteps path = pathSteps path') : path = path' := by
  have hpieces : Text.splitAt '/' path.toList = Text.splitAt '/' path'.toList :=
    List.map_injective_iff.2 (fun _ _ heq => String.ofList_injective heq) h
  rw [← String.toList_inj, ← intercalate_splitAt '/' path.toList, hpieces, intercalate_splitAt]

/-- Is there a point in the last step of a path, and in no other? -/
def pointsLast (path : String) : Bool :=
  let steps := Text.splitAt '/' path.toList
  steps.getLast?.all (·.contains '.') && !steps.dropLast.any (·.contains '.')

/-- The files of a client are all at different places below its folder. Their names have points, and those of
the folders around them have none. -/
theorem Target.paths_apart (t : Target) :
    t.paths.Nodup ∧ ∀ path ∈ t.paths, leadsDown path ∧ pointsLast path = true := by
  constructor
  · cases t <;> simp [paths]
  · cases t <;> decide +kernel

theorem placeOf_below (d : Directory) (output : FilePath) {path : String} (h : leadsDown path) :
    d.placeOf (output.below path) = d.placeOf output ++ pathSteps path := by
  unfold Directory.placeOf
  rw [names_below output h, List.foldl_append]
  exact Directory.foldl_step_eq_append (leadDown_pathSteps h) _

theorem Target.nodup_placesBelow (t : Target) (d : Directory) (output : FilePath) (p : ClientPlan) :
    (placesBelow d output (t.files p)).Nodup := by
  obtain ⟨hnodup, hdown⟩ := t.paths_apart
  have hplaces : placesBelow d output (t.files p) = t.paths.map fun path => d.placeOf (output.below path) := by
    rw [← t.map_path_files p, List.map_map]
    rfl
  rw [hplaces]
  refine hnodup.map_on fun path hpath path' hpath' heq => ?_
  rw [placeOf_below d output (hdown path hpath).1, placeOf_below d output (hdown path' hpath').1] at heq
  exact pathSteps_injective (List.append_cancel_left heq)

/-- A file of a client is at none of the places of some of the others. -/
theorem Target.place_not_mem (t : Target) {d : Directory} {output : FilePath} {p : ClientPlan}
    {some : List Artifact} (hsome : some.Sublist (t.files p)) {a : Artifact} (ha : a ∈ t.files p) (hnot : a ∉ some) :
    d.placeOf (output.below a.path) ∉ placesBelow d output some := by
  intro hmem
  obtain ⟨b, hb, heq⟩ := List.mem_map.1 hmem
  have hab := List.inj_on_of_nodup_map (t.nodup_placesBelow d output p) (hsome.subset hb) ha heq
  exact hnot (hab ▸ hb)

/-- Once all files of a client are saved, each is found with its text. -/
theorem Target.read_saveFiles (t : Target) {d : Directory} {output : FilePath} {p : ClientPlan}
    (h : (saveFiles false output d (t.files p)).crash? = none) :
    ∀ a ∈ t.files p, (saveFiles false output d (t.files p)).directory.read (output.below a.path) = .ok a.text := by
  obtain ⟨written, hsaves⟩ := saves_saveFiles h (t.nodup_placesBelow d output p)
  intro a ha
  rw [← hsaves.all rfl] at ha
  exact (hsaves.found a ha).read

/-! ## Which files are written -/

theorem pathSteps_ne_nil (path : String) : pathSteps path ≠ [] :=
  List.map_eq_nil_iff.not.2 (splitAt_ne_nil '/' path.toList)

/-- No file of a client is on the way to another: its name has a point. -/
theorem Target.paths_unlike (t : Target) {path path' : String} (hpath : path ∈ t.paths) (hpath' : path' ∈ t.paths) :
    ¬pathSteps path <+: (pathSteps path').dropLast := by
  intro hprefix
  have hchars : Text.splitAt '/' path.toList <+: (Text.splitAt '/' path'.toList).dropLast := by
    simpa [pathSteps, List.map_dropLast, Function.comp_def] using hprefix.map String.toList
  have hne := splitAt_ne_nil '/' path.toList
  have hmem := hchars.subset (List.getLast_mem hne)
  obtain ⟨hlast, -⟩ := Bool.and_eq_true_iff.1 (t.paths_apart.2 path hpath).2
  obtain ⟨-, hothers⟩ := Bool.and_eq_true_iff.1 (t.paths_apart.2 path' hpath').2
  rw [List.getLast?_eq_some_getLast hne, Option.all_some] at hlast
  rw [Bool.not_eq_true', List.any_eq_false] at hothers
  exact hothers _ hmem hlast

section

variable {t : Target} {d : Directory} {output : FilePath} {above below : List String} {base : Trail} {path : String}

/-- The place of a file of a client, when the steps up to the folder lead from folders that are there. -/
theorem Target.place_of_settles (houtput : output.names = above ++ below) (hdown : Directory.LeadDown below)
    (habove : d.follow (d.startOf output) above = .ok base) (hpath : path ∈ t.paths) :
    Directory.LeadDown (below ++ pathSteps path) ∧
      (output.below path).names = above ++ (below ++ pathSteps path) ∧
      d.placeOf (output.below path) = base ++ (below ++ pathSteps path) := by
  obtain ⟨hleads, -⟩ := t.paths_apart.2 path hpath
  have hsteps : Directory.LeadDown (below ++ pathSteps path) :=
    List.forall_mem_append.2 ⟨hdown, leadDown_pathSteps hleads⟩
  have hnames : (output.below path).names = above ++ (below ++ pathSteps path) := by
    rw [names_below output hleads, houtput, List.append_assoc]
  refine ⟨hsteps, hnames, ?_⟩
  unfold Directory.placeOf
  rw [hnames, List.foldl_append, ← Directory.foldl_step_eq_append hsteps, Directory.follow_eq_foldl habove]
  rfl

/-- The place of a file of a client is on the way to another only if a folder is there. -/
theorem Target.isFolder_of_onWay (hsettles : d.Settles output) {path' : String} (hpath : path ∈ t.paths)
    (hpath' : path' ∈ t.paths) (hway : d.OnWay (output.below path').parent (d.placeOf (output.below path))) :
    d.isFolder (d.placeOf (output.below path)) = true := by
  obtain ⟨above, below, base, houtput, hdown, habove⟩ := hsettles
  obtain ⟨names, hnames, hplace⟩ := hway
  have hbase := Directory.follow_eq_foldl habove
  obtain ⟨-, -, hthere⟩ := t.place_of_settles houtput hdown habove hpath
  obtain ⟨hbelow', hnames', -⟩ := t.place_of_settles houtput hdown habove hpath'
  have hparent : names <+: above ++ (below ++ (pathSteps path').dropLast) := by
    rw [← List.append_assoc, ← List.dropLast_append_of_ne_nil (pathSteps_ne_nil path'), List.append_assoc, ← hnames']
    exact hnames
  -- The steps up are made from folders, and those after them lead to no file of the client.
  rcases List.prefix_or_prefix_of_prefix hparent (List.prefix_append above _) with ⟨more, hmore⟩ | ⟨rest, rfl⟩
  · by_cases hnil : more = []
    · rw [hnil, List.append_nil] at hmore
      rw [hplace, hmore] at hthere
      have hempty := List.append_right_eq_self.1 (hthere.symm.trans hbase.symm)
      exact absurd (List.append_eq_nil_iff.1 hempty).2 (pathSteps_ne_nil path)
    · rw [hplace]
      exact Directory.isFolder_of_follow (by rw [hmore]; exact habove) hnil
  · have hrest := (List.prefix_append_right_inj above).1 hparent
    have hdownRest : Directory.LeadDown rest := fun name hname => by
      refine hbelow' name ?_
      exact (hrest.trans ((List.prefix_append_right_inj below).2 (List.dropLast_prefix _))).subset hname
    have hplaces : base ++ (below ++ pathSteps path) = base ++ rest := by
      rw [← hthere, hplace, List.foldl_append, ← Directory.foldl_step_eq_append hdownRest, hbase]
      rfl
    rw [← List.append_cancel_left hplaces] at hrest
    exact absurd ((List.prefix_append_right_inj below).1 hrest) (t.paths_unlike hpath hpath')

/-- What stands at the place of a file of a client is found by its path, if the names in it are short. -/
theorem Target.has_of_kindAt? (hgrounded : d.Grounded) (hsettles : d.Settles output) (hpath : path ∈ t.paths)
    (hshort : ∀ name ∈ (output.below path).names, name.utf8ByteSize ≤ Directory.longestName)
    (hkind : d.kindAt? (d.placeOf (output.below path)) ≠ none) : d.Has (output.below path) := by
  obtain ⟨above, below, base, houtput, hdown, habove⟩ := hsettles
  obtain ⟨hsteps, hnames, hplace⟩ := t.place_of_settles houtput hdown habove hpath
  rw [hnames] at hshort
  rw [hplace] at hkind
  have htrail : d.trail (output.below path) = .ok (base ++ (below ++ pathSteps path)) := by
    show d.follow (d.startOf output) _ = _
    rw [hnames, Directory.follow_append habove]
    exact hgrounded.follow hsteps (fun name hname => hshort name (List.mem_append_right above hname)) hkind
  obtain ⟨k, hk⟩ := Option.ne_none_iff_exists'.1 hkind
  refine ⟨k, ?_⟩
  unfold Directory.kind
  rw [htrail]
  exact congrArg Except.ok hk

end

/-- What is kept at the place of a file of a client is found there as before. -/
theorem Saves.finds_kept {append : Bool} {output : FilePath} {d : Directory} {s : Saving} {t : Target}
    {p : ClientPlan} {written : List Artifact} (h : Saves append output (t.files p) written d s) {a : Artifact}
    (ha : a ∈ t.files p) (hnot : a ∉ written) {text : String} (hfinds : d.Finds (output.below a.path) text) :
    s.directory.Finds (output.below a.path) text :=
  h.changes.finds (t.place_not_mem h.sublist ha hnot) hfinds

/-- In a directory as file systems are, exactly those files of a client are kept that shall be if there is
something at their paths, and are. -/
theorem Saves.mem_written_iff {append : Bool} {output : FilePath} {d : Directory} {s : Saving} {t : Target}
    {p : ClientPlan} {written : List Artifact} (h : Saves append output (t.files p) written d s)
    (hgrounded : d.Grounded) (hsettles : d.Settles output) {a : Artifact} (ha : a ∈ t.files p) :
    a ∈ written ↔ (append = true → ¬d.Has (output.below a.path)) := by
  refine ⟨fun hmem happend => h.fresh happend a hmem, fun hfresh => ?_⟩
  by_contra hnot
  cases happend : append with
  | false => exact hnot (by rwa [h.all happend])
  | true =>
    have hpath : ∀ b ∈ t.files p, b.path ∈ t.paths := fun b hb => by
      rw [← t.map_path_files p]
      exact List.mem_map_of_mem hb
    -- Something stands at the path in the end, and it can only have stood there before.
    obtain ⟨k, hkind⟩ := h.kept a ha hnot
    obtain ⟨u, htrail, hat⟩ := Directory.kind_eq_some hkind
    have hu : u = d.placeOf (output.below a.path) := by
      rw [Directory.trail_eq_placeOf htrail, h.changes.toExtends.placeOf]
    refine hfresh happend (t.has_of_kindAt? hgrounded hsettles (hpath a ha) (Directory.short_of_follow htrail) ?_)
    rw [← hu]
    cases hfolder : s.directory.isFolder u with
    | true =>
      have hbefore : d.isFolder u = true := by
        rcases h.made u hfolder with hbefore | ⟨b, hb, hway⟩
        · exact hbefore
        · rw [hu] at hway ⊢
          exact t.isFolder_of_onWay hsettles (hpath a ha) (hpath b hb) hway
      rw [Directory.kindAt?_eq_folder.2 hbefore]
      exact Option.some_ne_none _
    | false =>
      have hplace : u ∉ placesBelow d output written := hu ▸ t.place_not_mem h.sublist ha hnot
      intro hnone
      unfold Directory.kindAt? at hat hnone
      rw [hfolder, h.changes.others u hplace] at hat
      split at hnone
      · cases hnone
      · rw [Option.map_eq_none_iff.1 hnone] at hat
        cases hat

end ClientForge
