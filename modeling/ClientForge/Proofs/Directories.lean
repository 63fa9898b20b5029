import ClientForge.File.Directory
import Mathlib.Data.List.Basic

/-!
What is found in a directory after a file is saved. A written file is read back (`Directory.read_write`).
Files at other places are found as before, and what stands at the end of a path stays there
(`Directory.changesAt_save`, `Directory.ChangesAt.finds`, `Directory.ChangesAt.kind`). Saving makes folders
on the way to the file only (`Directory.onWay_of_isFolder`).
-/

namespace ClientForge

namespace Directory

/-! ## Steps -/

theorem kindAt?_eq_folder {d : Directory} {t : Trail} : d.kindAt? t = some .folder ↔ d.isFolder t = true := by
  unfold kindAt?
  split <;> simp_all

/-- Where steps lead does not depend on what is there, if they can be made. -/
theorem follow_eq_foldl {d : Directory} {t u : Trail} {names : List String} (h : d.follow t names = .ok u) :
    u = names.foldl step t := by
  induction names generalizing t with
  | nil => exact (Except.ok.inj h).symm
  | cons name names ih =>
    unfold follow at h
    split at h
    · split at h
      · cases h
      · exact ih h
    · cases h
    · cases h

theorem follow_append {d : Directory} {t u : Trail} {names : List String} (h : d.follow t names = .ok u)
    (more : List String) : d.follow t (names ++ more) = d.follow u more := by
  induction names generalizing t with
  | nil => rw [← Except.ok.inj h, List.nil_append]
  | cons name names ih =>
    simp only [List.cons_append, follow] at h ⊢
    split at h
    · split at h
      · cases h
      · rename_i hshort
        simp only [hshort, if_false]
        exact ih h
    · cases h
    · cases h

/-- Steps that can be made lead through folders. -/
theorem isFolder_of_follow {d : Directory} {t u : Trail} {names more : List String}
    (h : d.follow t (names ++ more) = .ok u) (hmore : more ≠ []) : d.isFolder (names.foldl step t) = true := by
  induction names generalizing t with
  | nil =>
    obtain ⟨name, rest, rfl⟩ := List.exists_cons_of_ne_nil hmore
    rw [List.nil_append] at h
    unfold follow at h
    split at h
    · rename_i hkind
      exact kindAt?_eq_folder.1 hkind
    · cases h
    · cases h
  | cons name names ih =>
    rw [List.cons_append] at h
    unfold follow at h
    split at h
    · split at h
      · cases h
      · exact ih h
    · cases h
    · cases h

theorem short_of_follow {d : Directory} {t u : Trail} {names : List String} (h : d.follow t names = .ok u) :
    ∀ name ∈ names, name.utf8ByteSize ≤ longestName := by
  induction names generalizing t with
  | nil => exact fun _ hname => absurd hname List.not_mem_nil
  | cons name names ih =>
    unfold follow at h
    split at h
    · split at h
      · cases h
      · rename_i hshort
        exact List.forall_mem_cons.2 ⟨Nat.le_of_not_lt hshort, ih h⟩
    · cases h
    · cases h

/-- Has a directory the folders of another, and do paths start at the same place? -/
structure Extends (d d' : Directory) : Prop where
  here : d'.here = d.here
  folders : ∀ t, d.isFolder t = true → d'.isFolder t = true

theorem Extends.refl (d : Directory) : Extends d d := ⟨rfl, fun _ h => h⟩

theorem Extends.trans {d d' d'' : Directory} (h : Extends d d') (h' : Extends d' d'') : Extends d d'' :=
  ⟨h'.here.trans h.here, fun t ht => h'.folders t (h.folders t ht)⟩

theorem Extends.follow {d d' : Directory} (h : Extends d d') {t u : Trail} {names : List String}
    (hfollow : d.follow t names = .ok u) : d'.follow t names = .ok u := by
  induction names generalizing t with
  | nil => exact hfollow
  | cons name names ih =>
    unfold Directory.follow at hfollow ⊢
    split at hfollow
    · rename_i hkind
      rw [kindAt?_eq_folder.2 (h.folders t (kindAt?_eq_folder.1 hkind))]
      split at hfollow
      · cases hfollow
      · rename_i hshort
        simp only [hshort, if_false]
        exact ih hfollow
    · cases hfollow
    · cases hfollow

theorem Extends.trail {d d' : Directory} (h : Extends d d') {p : FilePath} {t : Trail}
    (htrail : d.trail p = .ok t) : d'.trail p = .ok t := by
  unfold Directory.trail at htrail ⊢
  rw [h.here]
  exact h.follow htrail

/-- Does each step lead on to another place below? -/
def LeadDown (names : List String) : Prop := ∀ name ∈ names, isProperStep name = true ∧ name ≠ ".."

theorem foldl_step_eq_append {names : List String} (h : LeadDown names) (t : Trail) :
    names.foldl step t = t ++ names := by
  induction names generalizing t with
  | nil => simp
  | cons name names ih =>
    obtain ⟨⟨hproper, hup⟩, hrest⟩ := List.forall_mem_cons.1 h
    have hstep : step t name = t ++ [name] := by simp [step, hup, hproper]
    rw [List.foldl_cons, hstep, ih hrest]
    simp

/-- Does all that is there stand in a folder? -/
def Grounded (d : Directory) : Prop := ∀ t name, d.kindAt? (t ++ [name]) ≠ none → d.isFolder t = true

theorem grounded_of_parents {d : Directory} (hfiles : ∀ f ∈ d.files, d.isFolder f.1.dropLast = true)
    (hfolders : ∀ t ∈ d.folders, d.isFolder t.dropLast = true) : d.Grounded := by
  intro t name hkind
  have hparent : (t ++ [name]).dropLast = t := List.dropLast_concat
  unfold kindAt? at hkind
  split at hkind
  · rename_i hfolder
    have hmem : t ++ [name] ∈ d.folders := by simpa [isFolder] using hfolder
    rw [← hparent]
    exact hfolders _ hmem
  · obtain ⟨text, htext⟩ := Option.ne_none_iff_exists'.1 (mt Option.map_eq_none_iff.2 hkind)
    obtain ⟨before, after, hsplit, -⟩ := List.lookup_eq_some_iff.1 htext
    rw [← hparent]
    refine hfiles (t ++ [name], text) ?_
    rw [hsplit]
    exact List.mem_append_right before List.mem_cons_self

theorem Grounded.isFolder {d : Directory} (h : d.Grounded) {t : Trail} {names : List String}
    (hkind : d.kindAt? (t ++ names) ≠ none) (hnames : names ≠ []) : d.isFolder t = true := by
  induction names generalizing t with
  | nil => exact absurd rfl hnames
  | cons name names ih =>
    cases names with
    | nil => exact h t name hkind
    | cons next names =>
      rw [List.append_cons] at hkind
      refine h t name ?_
      rw [kindAt?_eq_folder.2 (ih hkind (List.cons_ne_nil next names))]
      exact Option.some_ne_none _

/-- What stands somewhere is reached by the steps down to it. -/
theorem Grounded.follow {d : Directory} (h : d.Grounded) {t : Trail} {names : List String} (hdown : LeadDown names)
    (hshort : ∀ name ∈ names, name.utf8ByteSize ≤ longestName) (hkind : d.kindAt? (t ++ names) ≠ none) :
    d.follow t names = .ok (t ++ names) := by
  induction names generalizing t with
  | nil => simp [Directory.follow]
  | cons name names ih =>
    obtain ⟨⟨hproper, hup⟩, hdown⟩ := List.forall_mem_cons.1 hdown
    obtain ⟨hname, hshort⟩ := List.forall_mem_cons.1 hshort
    have hstep : step t name = t ++ [name] := by simp [step, hup, hproper]
    unfold Directory.follow
    rw [kindAt?_eq_folder.2 (h.isFolder hkind (List.cons_ne_nil _ _)), hstep]
    simp only [Nat.not_lt.2 hname, if_false]
    rw [ih hdown hshort (by rwa [List.append_assoc]), List.append_assoc]
    rfl

/-! ## Making folders -/

theorem ensureFolder_cases (d : Directory) (p : FilePath) :
    (d.ensureFolder p).1 = d ∨
      ∃ t, d.trail p = .ok t ∧ d.kindAt? t = none ∧ (d.ensureFolder p).1 = { d with folders := t :: d.folders } := by
  unfold ensureFolder makeFolder
  cases d.trail p with
  | error f => exact Or.inl rfl
  | ok t =>
    cases h : d.kindAt? t with
    | some k => left; simp [bind, Except.bind, h]
    | none => right; exact ⟨t, rfl, h, by simp [bind, Except.bind, pure, Except.pure, h]⟩

/-- Making folders keeps what each step of making one folder on the way keeps. -/
theorem makeFolders_keeps {P : Directory → Prop} {p : FilePath}
    (hstep : ∀ (d : Directory) (names : List String) (t : Trail), names <+: p.names →
      d.trail { p with names } = .ok t → P d → d.kindAt? t = none → P { d with folders := t :: d.folders })
    {d : Directory} (h : P d) : P (d.makeFolders p).1 := by
  have hensure : ∀ (d : Directory) (names : List String), names <+: p.names → P d →
      P (d.ensureFolder { p with names }).1 := by
    intro d names hnames hd
    rcases d.ensureFolder_cases { p with names } with heq | ⟨t, htrail, hnone, heq⟩
    · rwa [heq]
    · rw [heq]
      exact hstep d names t hnames htrail hd hnone
  -- The names from the last one: those that are left are always the reverse of a beginning of the path.
  have hall : ∀ names : List String, names.reverse <+: p.names → P (d.makeFoldersFrom p.root names).1 := by
    intro names
    induction names with
    | nil => exact fun _ => h
    | cons name above ih =>
      intro hnames
      have habove : above.reverse <+: p.names := by
        rw [List.reverse_cons] at hnames
        exact (List.prefix_append _ _).trans hnames
      unfold makeFoldersFrom
      cases hlacks : d.lacksFolder { root := p.root, names := (name :: above).reverse } with
      | true =>
        cases hfault : (d.makeFoldersFrom p.root above).2 with
        | some f => simpa only [hlacks, if_true, hfault] using ih habove
        | none => simpa only [hlacks, if_true, hfault] using hensure _ _ hnames (ih habove)
      | false => simpa only [hlacks, Bool.false_eq_true, if_false] using hensure _ _ hnames h
  exact hall p.names.reverse (by simp)

theorem extends_makeFolders (d : Directory) (p : FilePath) : Extends d (d.makeFolders p).1 := by
  refine makeFolders_keeps (fun d' _ t _ _ h _ => h.trans ⟨rfl, fun u hu => ?_⟩) (Extends.refl d)
  unfold isFolder at hu ⊢
  simp only [Bool.or_eq_true, List.contains_cons] at hu ⊢
  exact hu.imp_right Or.inr

/-! ## What stays -/

/-- Is there a file with the text at a place? -/
def HasFile (d : Directory) (t : Trail) (text : String) : Prop := d.fileAt? t = some text ∧ d.isFolder t = false

theorem kindAt?_eq_file {d : Directory} {t : Trail} :
    d.kindAt? t = some .file ↔ d.isFolder t = false ∧ (d.fileAt? t).isSome = true := by
  unfold kindAt?
  cases d.isFolder t <;> cases d.fileAt? t <;> simp

/-- From one directory to another, do files and folders stay, and do only the files at some places change? -/
structure ChangesAt (ts : List Trail) (d d' : Directory) : Prop extends Extends d d' where
  files : ∀ t, d.kindAt? t = some .file → d'.kindAt? t = some .file
  others : ∀ t, t ∉ ts → d'.fileAt? t = d.fileAt? t

namespace ChangesAt

variable {ts us : List Trail} {d d' d'' : Directory}

theorem refl (ts : List Trail) (d : Directory) : ChangesAt ts d d := ⟨Extends.refl d, fun _ h => h, fun _ _ => rfl⟩

theorem trans (h : ChangesAt ts d d') (h' : ChangesAt us d' d'') : ChangesAt (ts ++ us) d d'' where
  toExtends := h.toExtends.trans h'.toExtends
  files t ht := h'.files t (h.files t ht)
  others t ht := by
    obtain ⟨hfirst, hsecond⟩ := not_or.1 (mt List.mem_append.2 ht)
    rw [h'.others t hsecond, h.others t hfirst]

theorem kindAt? (h : ChangesAt ts d d') {t : Trail} {k : FileKind} (hkind : d.kindAt? t = some k) :
    d'.kindAt? t = some k := by
  cases k with
  | file => exact h.files t hkind
  | folder => exact kindAt?_eq_folder.2 (h.folders t (kindAt?_eq_folder.1 hkind))

theorem hasFile (h : ChangesAt ts d d') {t : Trail} {text : String} (hne : t ∉ ts) (hfile : d.HasFile t text) :
    d'.HasFile t text := by
  have hkind : d.kindAt? t = some .file := kindAt?_eq_file.2 ⟨hfile.2, by rw [hfile.1]; rfl⟩
  exact ⟨by rw [h.others t hne, hfile.1], (kindAt?_eq_file.1 (h.files t hkind)).1⟩

end ChangesAt

theorem changesAt_makeFolders (d : Directory) (p : FilePath) : ChangesAt [] d (d.makeFolders p).1 where
  toExtends := d.extends_makeFolders p
  files := by
    refine makeFolders_keeps (P := fun d' => ∀ t, d.kindAt? t = some .file → d'.kindAt? t = some .file)
      (fun d' _ t _ _ h hnone u hu => ?_) (fun _ => id)
    obtain ⟨hfolder, hfile⟩ := kindAt?_eq_file.1 (h u hu)
    have hne : u ≠ t := by
      rintro rfl
      rw [h u hu] at hnone
      cases hnone
    obtain ⟨hempty, hfolders⟩ := Bool.or_eq_false_iff.1 hfolder
    refine kindAt?_eq_file.2 ⟨?_, hfile⟩
    show (u.isEmpty || (t :: d'.folders).contains u) = false
    rw [hempty, List.contains_cons, hfolders]
    simpa using hne
  others t _ := fileAt?_makeFolders d p t

/-! ## Writing -/

theorem extends_put (d : Directory) (t : Trail) (text : String) : Extends d (d.put t text) :=
  ⟨rfl, fun _ h => h⟩

theorem hasFile_put_self {d : Directory} {t : Trail} (h : d.isFolder t = false) (text : String) :
    (d.put t text).HasFile t text := ⟨fileAt?_put_self d t text, h⟩

theorem changesAt_put (d : Directory) (t : Trail) (text : String) : ChangesAt [t] d (d.put t text) where
  toExtends := extends_put d t text
  files u hu := by
    obtain ⟨hfolder, hfile⟩ := kindAt?_eq_file.1 hu
    refine kindAt?_eq_file.2 ⟨hfolder, ?_⟩
    by_cases hut : u = t
    · rw [hut, fileAt?_put_self]
      rfl
    · rwa [fileAt?_put_of_ne hut]
  others u hu := fileAt?_put_of_ne (mt List.mem_singleton.2 hu) d text

theorem write_eq_ok {d d' : Directory} {p : FilePath} {text : String} (h : d.write p text = .ok d') :
    ∃ t, d.trail p = .ok t ∧ d.isFolder t = false ∧ d' = d.put t text := by
  unfold write at h
  cases htrail : d.trail p with
  | error f => rw [htrail] at h; cases h
  | ok t =>
    rw [htrail] at h
    cases hfolder : d.isFolder t with
    | true => simp [bind, Except.bind, hfolder] at h
    | false =>
      simp only [bind, Except.bind, hfolder, Bool.false_eq_true, if_false] at h
      exact ⟨t, rfl, hfolder, (Except.ok.inj h).symm⟩

theorem read_of_hasFile {d : Directory} {p : FilePath} {t : Trail} {text : String} (htrail : d.trail p = .ok t)
    (h : d.HasFile t text) : d.read p = .ok text := by
  unfold read
  rw [htrail]
  simp [bind, Except.bind, h.1, h.2]

/-- A written file is read back. -/
theorem read_write {d d' : Directory} {p : FilePath} {text : String} (h : d.write p text = .ok d') :
    d'.read p = .ok text := by
  obtain ⟨t, htrail, hfolder, rfl⟩ := write_eq_ok h
  exact read_of_hasFile ((extends_put d t text).trail htrail) (hasFile_put_self hfolder text)

/-- The place that a path starts from. -/
def startOf (d : Directory) (p : FilePath) : Trail := if p.isFromRoot then [] else d.here

/-- The place that a path leads to, if its steps can be made. -/
def placeOf (d : Directory) (p : FilePath) : Trail := p.names.foldl step (d.startOf p)

theorem trail_eq_placeOf {d : Directory} {p : FilePath} {t : Trail} (h : d.trail p = .ok t) : t = d.placeOf p :=
  follow_eq_foldl h

theorem kind_eq_some {d : Directory} {p : FilePath} {k : FileKind} (h : d.kind p = .ok (some k)) :
    ∃ t, d.trail p = .ok t ∧ d.kindAt? t = some k := by
  unfold kind at h
  split at h
  · rename_i t htrail
    exact ⟨t, htrail, Except.ok.inj h⟩
  · cases h
  · cases h
  · cases h

/-- Does something stand at the end of a path? -/
def Has (d : Directory) (p : FilePath) : Prop := ∃ k, d.kind p = .ok (some k)

/-- Is a text found at the end of a path? -/
def Finds (d : Directory) (p : FilePath) (text : String) : Prop :=
  ∃ t, d.trail p = .ok t ∧ d.HasFile t text

theorem Finds.read {d : Directory} {p : FilePath} {text : String} (h : d.Finds p text) : d.read p = .ok text := by
  obtain ⟨t, htrail, hfile⟩ := h
  exact read_of_hasFile htrail hfile

theorem Finds.has {d : Directory} {p : FilePath} {text : String} (h : d.Finds p text) : d.Has p := by
  obtain ⟨t, htrail, hfile⟩ := h
  refine ⟨.file, ?_⟩
  unfold kind
  rw [htrail]
  exact congrArg Except.ok (kindAt?_eq_file.2 ⟨hfile.2, by rw [hfile.1]; rfl⟩)

theorem save_eq_none {d d' : Directory} {p : FilePath} {text : String} (h : d.save p text = (d', none)) :
    (d.makeFolders p.parent).1.write p text = .ok d' := by
  unfold save at h
  split at h
  · cases h
  · rename_i d₁ hfolders
    split at h
    · rename_i d₂ hwrite
      rw [hfolders]
      cases h
      exact hwrite
    · cases h

theorem Extends.placeOf {d d' : Directory} (h : Extends d d') (p : FilePath) : d'.placeOf p = d.placeOf p := by
  unfold Directory.placeOf startOf
  rw [h.here]

/-- Does a beginning of the path lead to the place? -/
def OnWay (d : Directory) (p : FilePath) (t : Trail) : Prop :=
  ∃ names, names <+: p.names ∧ t = names.foldl step (d.startOf p)

/-- The folders that are made are on the way along the path. -/
theorem onWay_of_isFolder {d : Directory} {p : FilePath} {t : Trail} (h : (d.makeFolders p).1.isFolder t = true) :
    d.isFolder t = true ∨ d.OnWay p t := by
  let P (d' : Directory) : Prop := d'.here = d.here ∧ ∀ t, d'.isFolder t = true → d.isFolder t = true ∨ d.OnWay p t
  have hmade : P (d.makeFolders p).1 := by
    refine makeFolders_keeps (fun d' names u hnames htrail hd' _ => ⟨hd'.1, fun t ht => ?_⟩) ⟨rfl, fun _ => Or.inl⟩
    obtain ⟨hhere, hfolders⟩ := hd'
    by_cases htu : t = u
    · refine Or.inr ⟨names, hnames, ?_⟩
      rw [htu, trail_eq_placeOf htrail]
      show names.foldl step (d'.startOf p) = _
      unfold startOf
      rw [hhere]
    · refine hfolders t ?_
      simpa [isFolder, htu] using ht
  exact hmade.2 t h

theorem Extends.onWay {d d' : Directory} (h : Extends d d') {p : FilePath} {t : Trail} (hway : d'.OnWay p t) :
    d.OnWay p t := by
  obtain ⟨names, hnames, rfl⟩ := hway
  refine ⟨names, hnames, ?_⟩
  unfold startOf
  rw [h.here]

/-- Do the steps up of a path lead from folders that are there? -/
def Settles (d : Directory) (p : FilePath) : Prop :=
  ∃ above below base, p.names = above ++ below ∧ LeadDown below ∧ d.follow (d.startOf p) above = .ok base

/-- What stays where it is is found by its path as before. -/
theorem ChangesAt.kind {ts : List Trail} {d d' : Directory} (h : ChangesAt ts d d') {p : FilePath} {k : FileKind}
    (hkind : d.kind p = .ok (some k)) : d'.kind p = .ok (some k) := by
  obtain ⟨t, htrail, hat⟩ := kind_eq_some hkind
  unfold Directory.kind
  rw [h.toExtends.trail htrail]
  exact congrArg Except.ok (h.kindAt? hat)

theorem ChangesAt.has {ts : List Trail} {d d' : Directory} (h : ChangesAt ts d d') {p : FilePath} (hhas : d.Has p) :
    d'.Has p := by
  obtain ⟨k, hkind⟩ := hhas
  exact ⟨k, h.kind hkind⟩

theorem ChangesAt.finds {ts : List Trail} {d d' : Directory} (h : ChangesAt ts d d') {p : FilePath} {text : String}
    (hne : d.placeOf p ∉ ts) (hfinds : d.Finds p text) : d'.Finds p text := by
  obtain ⟨t, htrail, hfile⟩ := hfinds
  refine ⟨t, h.toExtends.trail htrail, h.hasFile ?_ hfile⟩
  rwa [trail_eq_placeOf htrail]

/-- Saving changes the file at the end of the path only. -/
theorem changesAt_save {d d' : Directory} {p : FilePath} {text : String} (h : d.save p text = (d', none)) :
    ChangesAt [d.placeOf p] d d' := by
  obtain ⟨t, htrail, -, rfl⟩ := write_eq_ok (save_eq_none h)
  have hplace : t = d.placeOf p := by
    rw [trail_eq_placeOf htrail, (d.extends_makeFolders p.parent).placeOf]
  rw [← hplace]
  exact (d.changesAt_makeFolders p.parent).trans (changesAt_put _ t text)

theorem onWay_of_isFolder_save {d d' : Directory} {p : FilePath} {text : String} (h : d.save p text = (d', none))
    {t : Trail} (ht : d'.isFolder t = true) : d.isFolder t = true ∨ d.OnWay p.parent t := by
  obtain ⟨u, -, -, rfl⟩ := write_eq_ok (save_eq_none h)
  exact onWay_of_isFolder ht

theorem finds_save {d d' : Directory} {p : FilePath} {text : String} (h : d.save p text = (d', none)) :
    d'.Finds p text := by
  obtain ⟨t, htrail, hfolder, rfl⟩ := write_eq_ok (save_eq_none h)
  exact ⟨t, (extends_put _ t text).trail htrail, hasFile_put_self hfolder text⟩

end Directory

end ClientForge
