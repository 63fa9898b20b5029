import ClientForge.Client.Project
import ClientForge.Proofs.Client.Lines

/-!
The example of an environment file. Its lines are empty, or remarks, or set one of the settings that a client for
the API has, in order and each once (`settings_environmentText?`). No text of an API adds a line: title, address and
header are put on one line, and no character is left in them that ends one.
-/

namespace ClientForge

/-! ## Settings -/

/-- The settings for a kind of authentication, and what they are set to. -/
def Scheme.settings : Scheme → List (Setting × String)
  | .none => []
  | .bearer _ => [(.bearerToken, "your-bearer-token")]
  | .apiKey header _ => [(.apiKey, "your-api-key"), (.authHeaderName, header.oneLine)]
  | .basic _ => [(.username, "your-username"), (.password, "your-password")]
  | .oauth2 _ => [(.accessToken, "your-access-token")]

/-- The settings of a client for an API, and what they are set to. -/
def Api.settings (a : Api) : List (Setting × String) :=
  [(.baseUrl, (if a.baseUrl = "" then Setting.exampleUrl else a.baseUrl).oneLine),
    (.timeout, Setting.defaultTimeout), (.maxRetries, Setting.defaultRetries),
    (.authType, a.auth.scheme.kind)] ++ a.auth.scheme.settings

/-- No variable is set twice. -/
theorem Api.nodup_settings (a : Api) : (a.settings.map (·.1.variable)).Nodup := by
  unfold settings
  cases a.auth.scheme <;> simp [Scheme.settings, Setting.variable]

/-- The text of the example of an environment file. -/
def Target.environmentText? (t : Target) (api : Api) : Option String :=
  ((t.generate api).find? (·.path == ".env.example")).map Artifact.text

namespace Environment

/-! ## Lines -/

/-- Is a line empty, or does it start with a number sign? -/
def isRemark (line : List Char) : Bool := line.head?.all (· == '#')

theorem isRemark_append {s : String} (h : s.toList ≠ []) (u : String) :
    isRemark (s ++ u).toList = isRemark s.toList := by
  unfold isRemark
  obtain ⟨c, w, hs⟩ := List.exists_cons_of_ne_nil h
  rw [String.toList_append, hs]
  rfl

theorem isRemark_assignment (s : Setting) (value : String) : isRemark (assignment s value).toList = false := by
  have hname : s.variable.toList ≠ [] ∧ isRemark s.variable.toList = false := by cases s <;> decide
  unfold assignment
  rw [String.append_assoc, isRemark_append hname.1]
  exact hname.2

theorem unbroken_assignment (s : Setting) {value : String} (h : Text.Unbroken value.toList) :
    Text.Unbroken (assignment s value).toList := by
  have hname : Text.Unbroken (s.variable ++ "=").toList := by cases s <;> decide
  unfold assignment
  rw [String.toList_append]
  exact Text.unbroken_append.2 ⟨hname, h⟩

theorem unbroken_oneLine (s : String) : Text.Unbroken s.oneLine.toList := by
  unfold String.oneLine
  rw [String.toList_ofList]
  exact Text.unbroken_oneLine _

theorem unbroken_kind (s : Scheme) : Text.Unbroken s.kind.toList := by
  have hkinds : ∀ kind ∈ Scheme.kinds, Text.Unbroken kind.toList := by decide
  exact hkinds s.kind (by cases s <;> simp [Scheme.kind, Scheme.kinds])

theorem unbroken_authLines (s : Scheme) : ∀ l ∈ authLines s, Text.Unbroken l.toList := by
  cases s with
  | apiKey header place =>
    have hremark : Text.Unbroken ("# API key, sent in the " ++ header.oneLine ++ " header").toList := by
      rw [String.toList_append, String.toList_append]
      exact Text.unbroken_append.2 ⟨Text.unbroken_append.2 ⟨by decide, unbroken_oneLine header⟩, by decide⟩
    simp only [authLines, List.forall_mem_cons, List.not_mem_nil, false_imp_iff, implies_true, and_true]
    exact ⟨by decide, hremark, unbroken_assignment _ (by decide), unbroken_assignment _ (unbroken_oneLine header)⟩
  | none | bearer | basic | oauth2 =>
    simp only [authLines]
    decide

/-- No line of the file has a line end in it. -/
theorem unbroken_file (p : ClientPlan) : ∀ l ∈ (file p).lines, Text.Unbroken l.toList := by
  have htitle : Text.Unbroken ("# " ++ p.title.oneLine ++ " API configuration").toList := by
    rw [String.toList_append, String.toList_append]
    exact Text.unbroken_append.2 ⟨Text.unbroken_append.2 ⟨by decide, unbroken_oneLine _⟩, by decide⟩
  have hkind : Text.Unbroken ("# Authentication type: " ++ p.scheme.kind).toList := by
    rw [String.toList_append]
    exact Text.unbroken_append.2 ⟨by decide, unbroken_kind _⟩
  unfold file
  refine List.forall_mem_append.2 ⟨?_, unbroken_authLines p.scheme⟩
  simp only [List.forall_mem_cons, List.not_mem_nil, false_imp_iff, implies_true, and_true]
  exact ⟨htitle, hkind, by decide, unbroken_assignment _ (unbroken_oneLine _), unbroken_assignment _ (by decide),
    unbroken_assignment _ (by decide), unbroken_assignment _ (unbroken_kind _)⟩

/-! ## What the lines set -/

/-- The lines that are no remarks. -/
def setting (lines : List String) : List String := lines.filter fun l => !isRemark l.toList

theorem setting_append (ls ks : List String) : setting (ls ++ ks) = setting ls ++ setting ks := List.filter_append ..

theorem setting_remark {l : String} (h : isRemark l.toList) (ls : List String) : setting (l :: ls) = setting ls := by
  simp [setting, h]

theorem setting_assignment (s : Setting) (value : String) (ls : List String) :
    setting (assignment s value :: ls) = assignment s value :: setting ls := by
  simp [setting, isRemark_assignment]

theorem setting_authLines (s : Scheme) :
    setting (authLines s) = s.settings.map fun x => assignment x.1 x.2 := by
  cases s with
  | none => rfl
  | apiKey header place =>
    have hremark : isRemark ("# API key, sent in the " ++ header.oneLine ++ " header").toList := by
      rw [String.append_assoc, isRemark_append (by decide)]
      rfl
    rw [authLines, setting_remark rfl, setting_remark hremark, setting_assignment, setting_assignment]
    rfl
  | bearer | basic | oauth2 =>
    rw [authLines, setting_remark rfl, setting_remark rfl]
    simp only [setting_assignment]
    rfl

theorem setting_file (t : Target) (api : Api) :
    setting (file (.ofApi t api)).lines = api.settings.map fun x => assignment x.1 x.2 := by
  have htitle (title : String) : isRemark ("# " ++ title ++ " API configuration").toList := by
    rw [String.append_assoc, isRemark_append (by decide)]
    rfl
  have hkind (kind : String) : isRemark ("# Authentication type: " ++ kind).toList := by
    rw [isRemark_append (by decide)]
    rfl
  have haddress : firstFilled [api.baseUrl] Setting.exampleUrl =
      if api.baseUrl = "" then Setting.exampleUrl else api.baseUrl := by
    unfold firstFilled
    split <;> simp [*]
  rw [file, setting_append, setting_authLines, setting_remark (htitle _), setting_remark (hkind _), setting_remark rfl]
  simp only [setting_assignment, ClientPlan.ofApi, haddress]
  rfl

/-- The file depends on nothing that differs between the languages. -/
theorem file_ofApi (t : Target) (api : Api) : file (.ofApi t api) = file (.ofApi .node api) := by
  unfold file
  rfl

end Environment

theorem Target.find?_environment (t : Target) (p : ClientPlan) :
    (t.files p).find? (·.path == ".env.example") = some (Environment.file p) := by
  cases t <;> rfl

/-- Every client for an API has the same example of an environment file. Each of its lines is a remark or sets one of
the settings of the API, and each of these is set once, in order. -/
theorem settings_environmentText? (api : Api) : ∃ text, (∀ t : Target, t.environmentText? api = some text) ∧
    ((Text.lines text.toList).filter fun l => !Environment.isRemark l) =
      (api.settings.map fun x => (Environment.assignment x.1 x.2).toList) ∧
    (api.settings.map (·.1.variable)).Nodup := by
  have hfile : ∀ t : Target, t.environmentText? api = some (Environment.file (.ofApi .node api)).text := by
    intro t
    unfold Target.environmentText? Target.generate
    rw [t.find?_environment, Environment.file_ofApi]
    rfl
  refine ⟨_, hfile, ?_, api.nodup_settings⟩
  rw [Artifact.toList_text, lines_lineChars, flatMap_writtenLines (Environment.unbroken_file _), List.filter_map]
  have hsetting := congrArg (List.map String.toList) (Environment.setting_file .node api)
  rw [List.map_map] at hsetting
  exact hsetting

end ClientForge
