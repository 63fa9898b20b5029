import ClientForge.File.Path
import ClientForge.Keyed

/-!
Directories: the files and folders that a program finds and leaves. A file holds a text and has one place, and
no name stands for another: files that are no UTF-8 text, symbolic links and further hard links of a file are
left out, as writing through a link changes what is found elsewhere. Main statements: making folders changes
no file (`fileAt?_makeFolders`), and writing changes only the file that is written (`fileAt?_put_self`,
`fileAt?_put_of_ne`).
-/

namespace ClientForge

/-- The names from the root to a file or folder, without detours. -/
abbrev Trail := List String

/-- Why something cannot be done with a file or folder. -/
inductive StorageFault where
  /-- There is no such file or folder. -/
  | missing
  /-- A file stands where a folder should. -/
  | notFolder
  /-- A folder stands where a file should. -/
  | isFolder
  /-- Something of the name is there already. -/
  | taken
  /-- A name is longer than names can be. -/
  | longName
  /-- The path holds a character that no path can hold. -/
  | badPath
deriving DecidableEq, Repr, Inhabited

/-- What stands at a place. -/
inductive FileKind where
  | file
  | folder
deriving DecidableEq, Repr, Inhabited

/-- Files and folders, and the folder that paths start from. -/
structure Directory where
  here : Trail := []
  files : List (Trail × String) := []
  folders : List Trail := []
deriving DecidableEq, Repr, Inhabited

namespace Directory

/-- The directory with a folder and those around it, and nothing in it. -/
def within (here : Trail) : Directory :=
  { here := here, folders := (List.range (here.length + 1)).map here.take }

/-! ## Looking -/

/-- The text of the file at a place. -/
def fileAt? (d : Directory) (t : Trail) : Option String := d.files.lookup t

def isFolder (d : Directory) (t : Trail) : Bool := t.isEmpty || d.folders.contains t

def kindAt? (d : Directory) (t : Trail) : Option FileKind :=
  if d.isFolder t then some .folder else (d.fileAt? t).map fun _ => .file

/-- How many bytes a name can have. -/
def longestName : Nat := 255

/-- The place that a step leads to. -/
def step (t : Trail) (name : String) : Trail :=
  if name = ".." then t.dropLast else if isProperStep name then t ++ [name] else t

/-- The place that steps lead to, from folder to folder. -/
def follow (d : Directory) (t : Trail) : List String → Except StorageFault Trail
  | [] => .ok t
  | name :: names =>
    match d.kindAt? t with
    | some .folder => if longestName < name.utf8ByteSize then .error .longName else d.follow (step t name) names
    | some .file => .error .notFolder
    | none => .error .missing

/-- The place that a path leads to. -/
def trail (d : Directory) (p : FilePath) : Except StorageFault Trail :=
  d.follow (if p.isFromRoot then [] else d.here) p.names

/-- The places on the way along a path, if every step can be made. -/
def placesOn (d : Directory) (p : FilePath) : List Trail :=
  p.names.foldl (fun ts name => step (ts.headD []) name :: ts) [if p.isFromRoot then [] else d.here]

/-- What stands at the end of a path. -/
def kind (d : Directory) (p : FilePath) : Except StorageFault (Option FileKind) :=
  match d.trail p with
  | .ok t => .ok (d.kindAt? t)
  | .error .missing | .error .notFolder => .ok none
  | .error f => .error f

/-- Does a path end at a folder? -/
def endsAtFolder (d : Directory) (p : FilePath) : Bool :=
  match d.trail p with
  | .ok t => d.isFolder t
  | .error _ => false

/-- Is there no folder for what stands at the end of a path? -/
def lacksFolder (d : Directory) (p : FilePath) : Bool :=
  match d.trail p with
  | .error .missing => true
  | _ => false

/-- What stands at the end of a path as it is written, where every step counts. -/
def kindAsWritten (d : Directory) (s : String) : Except StorageFault FileKind :=
  if s.toList.contains '\x00' then .error .badPath
  else if s = "" then .error .missing
  else do
    let t ← d.follow (if s.toList.head? = some '/' then [] else d.here) (pathSteps s)
    (d.kindAt? t).elim (.error .missing) .ok

/-- The text of the file at the end of a path. -/
def read (d : Directory) (p : FilePath) : Except StorageFault String := do
  let t ← d.trail p
  if d.isFolder t then .error .isFolder else (d.fileAt? t).elim (.error .missing) .ok

/-! ## Making folders -/

/-- Make a folder in a folder that is there. -/
def makeFolder (d : Directory) (p : FilePath) : Except StorageFault Directory := do
  let t ← d.trail p
  match d.kindAt? t with
  | some _ => .error .taken
  | none => return { d with folders := t :: d.folders }

/-- Make a folder in a folder that is there, if it is not there itself. What cannot be done is told
with the directory as it is left. -/
def ensureFolder (d : Directory) (p : FilePath) : Directory × Option StorageFault :=
  match d.makeFolder p with
  | .ok d' => (d', none)
  | .error f => (d, if d.endsAtFolder p then none else some f)

/-- Make a folder with those around it, by the names on the way to it, the last one first. -/
def makeFoldersFrom (d : Directory) (root : String) : List String → Directory × Option StorageFault
  | [] => (d, none)
  | name :: above =>
    let p : FilePath := { root := root, names := (name :: above).reverse }
    let (d', fault) := if d.lacksFolder p then d.makeFoldersFrom root above else (d, none)
    match fault with
    | some f => (d', some f)
    | none => d'.ensureFolder p

/-- Make a folder with those around it. -/
def makeFolders (d : Directory) (p : FilePath) : Directory × Option StorageFault :=
  d.makeFoldersFrom p.root p.names.reverse

/-! ## Writing -/

/-- Put a file at a place. -/
def put (d : Directory) (t : Trail) (text : String) : Directory :=
  { d with files := putBy (fun a b => a.1 == b.1) (t, text) d.files }

/-- Write a file in a folder that is there. -/
def write (d : Directory) (p : FilePath) (text : String) : Except StorageFault Directory := do
  let t ← d.trail p
  if d.isFolder t then .error .isFolder else return d.put t text

/-- Write a file, and make its folder if need be. What cannot be done is told with the directory as it
is left. -/
def save (d : Directory) (p : FilePath) (text : String) : Directory × Option StorageFault :=
  match d.makeFolders p.parent with
  | (d', some f) => (d', some f)
  | (d', none) =>
    match d'.write p text with
    | .ok d'' => (d'', none)
    | .error f => (d', some f)

/-- The files that another directory does not have with the same text. -/
def newSince (d before : Directory) : List (Trail × String) :=
  d.files.filter fun (t, text) => before.fileAt? t != some text

/-! ## What changes -/

@[simp] theorem fileAt?_ensureFolder (d : Directory) (p : FilePath) (t : Trail) :
    (d.ensureFolder p).1.fileAt? t = d.fileAt? t := by
  unfold ensureFolder makeFolder
  cases d.trail p with
  | error f => rfl
  | ok u => cases h : d.kindAt? u <;> simp [bind, Except.bind, pure, Except.pure, h, fileAt?]

theorem fileAt?_makeFoldersFrom (d : Directory) (root : String) (names : List String) (t : Trail) :
    (d.makeFoldersFrom root names).1.fileAt? t = d.fileAt? t := by
  induction names with
  | nil => rfl
  | cons name above ih =>
    unfold makeFoldersFrom
    cases h : d.lacksFolder { root := root, names := (name :: above).reverse } with
    | true => cases hf : (d.makeFoldersFrom root above).2 <;> simp only [h, if_true, hf] <;> simp [ih]
    | false => simp only [h, Bool.false_eq_true, if_false]; simp

/-- Making folders changes no file. -/
@[simp] theorem fileAt?_makeFolders (d : Directory) (p : FilePath) (t : Trail) :
    (d.makeFolders p).1.fileAt? t = d.fileAt? t :=
  fileAt?_makeFoldersFrom d p.root p.names.reverse t

theorem lookup_putBy_self {α : Type} (t : Trail) (x : α) (xs : List (Trail × α)) :
    (putBy (fun a b => a.1 == b.1) (t, x) xs).lookup t = some x := by
  induction xs with
  | nil => simp [putBy]
  | cons y ys ih =>
    obtain ⟨u, z⟩ := y
    by_cases h : u = t
    · simp [putBy, h]
    · have h' : (t == u) = false := by simpa using Ne.symm h
      simp [putBy, h, List.lookup_cons, h', ih]

theorem lookup_putBy_of_ne {α : Type} {t u : Trail} (h : u ≠ t) (x : α) (xs : List (Trail × α)) :
    (putBy (fun a b => a.1 == b.1) (t, x) xs).lookup u = xs.lookup u := by
  have hu : (u == t) = false := by simpa using h
  induction xs with
  | nil => simp [putBy, List.lookup_cons, hu]
  | cons y ys ih =>
    obtain ⟨v, z⟩ := y
    by_cases hv : v = t
    · subst hv; simp [putBy, List.lookup_cons, hu]
    · simp [putBy, hv, List.lookup_cons, ih]

@[simp] theorem fileAt?_put_self (d : Directory) (t : Trail) (text : String) :
    (d.put t text).fileAt? t = some text := lookup_putBy_self t text d.files

theorem fileAt?_put_of_ne {t u : Trail} (h : u ≠ t) (d : Directory) (text : String) :
    (d.put t text).fileAt? u = d.fileAt? u := lookup_putBy_of_ne h text d.files

end Directory

end ClientForge
