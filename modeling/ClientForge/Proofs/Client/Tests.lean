import ClientForge.Proofs.Accepted
import ClientForge.Proofs.Client.Calls
import ClientForge.Proofs.Client.Comments

/-!
The responses in the file of the tests. Over the test of a method, each documented response of its endpoint is
written as the line of a comment, in order (`responses_testText?`). The description in it has the form of a comment,
but the status stands as it is, so a status with a line end in it makes more lines of it
(`importModel_breaks_comment`). In Java a description does so too, if it has an escape for a line end.
-/

namespace ClientForge

namespace Target

/-! ## The file -/

/-- The path of the file of the tests. -/
def testPath : Target → String
  | node => "tests/ApiClient.test.js"
  | python => "tests/test_client.py"
  | go => "client_test.go"
  | java => "src/test/java/com/example/ApiClientTest.java"
  | php => "tests/ApiClientTest.php"

/-- The text of the file of the tests. -/
def testText? (t : Target) (api : Api) : Option String :=
  ((t.generate api).find? (·.path == t.testPath)).map Artifact.text

/-- The indentation of the comment over a test. -/
def testIndent : Target → String
  | node => "  "
  | java | php => "    "
  | python | go => ""

/-- What starts a line comment. -/
def lineMark : Target → String
  | python => "#"
  | _ => "//"

/-- The line for a response in the tests. -/
def responseLine (t : Target) (r : String × String) : String :=
  ClientForge.responseLine t (t.testIndent ++ t.lineMark) r

/-- The tests of all methods stand in the file, between other lines. -/
theorem testText?_eq (t : Target) (api : Api) : ∃ before after, t.testText? api = some (Artifact.text
    ⟨t.testPath, before ++ (ClientPlan.ofApi t api).methods.flatMap t.methodTest ++ after⟩) := by
  cases t with
  | node | java | php => exact ⟨_, _, rfl⟩
  | python | go => exact ⟨_, [], by rw [List.append_nil]; rfl⟩

theorem testComment_eq (t : Target) (mark : String) (m : MethodPlan) : ∃ above,
    m.testComment t mark = above ++ m.responses.map (ClientForge.responseLine t mark) := by
  unfold MethodPlan.testComment
  split
  · rename_i hnone
    exact ⟨_, by rw [List.isEmpty_iff.1 hnone, List.map_nil, List.append_nil]⟩
  · exact ⟨[_, _], rfl⟩

theorem testOpening_eq (t : Target) (m : MethodPlan) : ∃ above below,
    t.testOpening m = above ++ m.testComment t (t.testIndent ++ t.lineMark) ++ below := by
  cases t with
  | python => exact ⟨["", ""], _, rfl⟩
  | node | go | java | php => exact ⟨[""], _, rfl⟩

/-- The responses stand in the test of a method, one after another. -/
theorem methodTest_responses (t : Target) (m : MethodPlan) : ∃ above below,
    t.methodTest m = above ++ m.responses.map t.responseLine ++ below := by
  obtain ⟨before, after, rest, htest⟩ := t.methodTest_eq
  obtain ⟨above, below, hopening⟩ := t.testOpening_eq m
  obtain ⟨route, hcomment⟩ := t.testComment_eq (t.testIndent ++ t.lineMark) m
  refine ⟨above ++ route, below ++ (before ++ m.call t ++ after) :: rest, ?_⟩
  rw [htest, hopening, hcomment]
  simp only [List.append_assoc]
  rfl

/-! ## Lines of responses -/

/-- What is written for a description: its comment, or that there is none. -/
def described (t : Target) (description : String) : String :=
  firstFilled [t.comment description] "no description"

theorem described_cases (t : Target) (description : String) :
    (t.comment description = "" ∧ t.described description = "no description") ∨
      t.described description = t.comment description := by
  unfold described firstFilled
  by_cases h : t.comment description = ""
  · exact Or.inl ⟨h, by simp [h]⟩
  · exact Or.inr (by simp [h])

theorem unbroken_described (t : Target) (description : String) : Text.Unbroken (t.described description).toList := by
  rcases t.described_cases description with ⟨-, h⟩ | h
  · rw [h]
    decide
  · rw [h]
    exact t.unbroken_comment description

theorem staysInComment_described (t : Target) (description : String) :
    t.StaysInComment (t.described description).toList ↔
      (t = .java → Java.NoEscapedEnd (t.comment description).toList) := by
  rcases t.described_cases description with ⟨hnone, h⟩ | h
  · have hfixed : t.StaysInComment "no description".toList := by cases t <;> decide +kernel
    have hempty : Java.NoEscapedEnd "".toList := by decide
    rw [h, hnone]
    exact iff_of_true hfixed fun _ => hempty
  · rw [h]
    exact t.staysInComment_comment description

/-- Is the character one of those before a response in its line? -/
def isMarkChar (c : Char) : Bool := c == ' ' || c == '/' || c == '#'

theorem plain_of_isMarkChar {c : Char} (h : isMarkChar c) : Text.endsLine c = false ∧ c ≠ '?' ∧ c ≠ '\\' := by
  simp only [isMarkChar, Bool.or_eq_true, beq_iff_eq] at h
  rcases h with (rfl | rfl) | rfl <;> decide

theorem toList_responseLine (t : Target) (status description : String) : ∃ opening,
    opening.all isMarkChar ∧ (t.testIndent ++ t.lineMark).toList <+: opening ∧
      (t.responseLine (status, description)).toList =
        opening ++ (status.toList ++ ':' :: ' ' :: (t.described description).toList) := by
  refine ⟨(t.testIndent ++ t.lineMark ++ "   ").toList, ?_, ?_, ?_⟩
  · cases t <;> decide
  · rw [String.toList_append (s := t.testIndent ++ t.lineMark)]
    exact List.prefix_append _ _
  · simp [responseLine, ClientForge.responseLine, described]

theorem staysInComment_opening {t : Target} {opening : List Char} (h : opening.all isMarkChar) (s : List Char) :
    t.StaysInComment (opening ++ s) ↔ t.StaysInComment s := by
  induction opening with
  | nil => rfl
  | cons c opening ih =>
    rw [List.all_cons, Bool.and_eq_true] at h
    obtain ⟨hend, htag, hescape⟩ := plain_of_isMarkChar h.1
    rw [List.cons_append, staysInComment_cons_iff hend htag hescape, ih h.2]

/-- The line of a response stays in its comment if the status does, and in Java also the description. -/
theorem staysInComment_responseLine (t : Target) (status description : String) :
    t.StaysInComment (t.responseLine (status, description)).toList ↔ t.StaysInComment status.toList ∧
      (t = .java → Java.NoEscapedEnd (t.comment description).toList) := by
  obtain ⟨opening, hopening, -, heq⟩ := t.toList_responseLine status description
  rw [heq, staysInComment_opening hopening, staysInComment_append_cons_iff,
    staysInComment_cons_iff (by decide) (by decide) (by decide), staysInComment_described]

/-- The line of a response has no line end in it if the status has none. -/
theorem unbroken_responseLine (t : Target) (status description : String) :
    Text.Unbroken (t.responseLine (status, description)).toList ↔ Text.Unbroken status.toList := by
  obtain ⟨opening, hopening, -, heq⟩ := t.toList_responseLine status description
  have hplain : Text.Unbroken opening := fun c hc => (plain_of_isMarkChar (List.all_eq_true.1 hopening c hc)).1
  rw [heq, Text.unbroken_append, and_iff_right hplain, Text.unbroken_append, Text.unbroken_cons, Text.unbroken_cons]
  exact and_iff_left ⟨by decide, by decide, t.unbroken_described description⟩

end Target

/-! ## Endpoints -/

/-- Do the lines of a test show each response of an endpoint, in order, as what is written for it? -/
def Endpoint.RespondsIn (t : Target) (e : Endpoint) (test : List (List Char)) : Prop := ∃ above below,
  test = above ++ e.responses.flatMap (fun r => writtenLines (t.responseLine (r.1, r.2.description))) ++ below

theorem Endpoint.respondsIn_methodTest (t : Target) (name : String) (e : Endpoint) :
    e.RespondsIn t ((t.methodTest (.ofEndpoint t name e)).flatMap writtenLines) := by
  obtain ⟨above, below, htest⟩ := t.methodTest_responses (.ofEndpoint t name e)
  refine ⟨above.flatMap writtenLines, below.flatMap writtenLines, ?_⟩
  rw [htest, List.flatMap_append, List.flatMap_append, List.flatMap_map]
  show _ ++ (e.responses.map _).flatMap _ ++ _ = _
  rw [List.flatMap_map]

/-- The file of the tests shows the responses of all endpoints, in order, each in the line of a comment. Such a line
is read as one if and only if the status has no line end in it. It stays a comment to its end if and only if
the status does and, in Java, no escape in the description is one for a line end. -/
theorem responses_testText? (t : Target) (api : Api) :
    (∃ text, t.testText? api = some text ∧ ∃ before tests after,
      Text.lines text.toList = before ++ tests.flatten ++ after ∧
        List.Forall₂ (Endpoint.RespondsIn t) api.endpoints tests) ∧
    ∀ status description, let line := (t.responseLine (status, description))
      (t.testIndent ++ t.lineMark).toList <+: line.toList ∧
      (writtenLines line = [line.toList] ↔ Text.Unbroken status.toList) ∧
      (t.StaysInComment line.toList ↔ t.StaysInComment status.toList ∧
        (t = .java → Java.NoEscapedEnd (t.comment description).toList)) := by
  refine ⟨?_, fun status description => ⟨?_, ?_, t.staysInComment_responseLine status description⟩⟩
  · obtain ⟨before, after, htext⟩ := t.testText?_eq api
    refine ⟨_, htext, before.flatMap writtenLines,
      (ClientPlan.ofApi t api).methods.map fun m => (t.methodTest m).flatMap writtenLines,
      after.flatMap writtenLines, ?_, ?_⟩
    · rw [Artifact.toList_text, lines_lineChars, List.flatMap_append, List.flatMap_append, List.flatMap_assoc,
        ← List.flatMap_def]
    · refine List.forall₂_map_right_iff.2 ((forall₂_methods t api).imp ?_)
      rintro e m ⟨name, rfl⟩
      exact e.respondsIn_methodTest t name
  · obtain ⟨opening, -, hmark, heq⟩ := t.toList_responseLine status description
    rw [heq]
    exact hmark.trans (List.prefix_append opening _)
  · rw [writtenLines_eq_singleton_iff, t.unbroken_responseLine]

/-- A model with a response whose status has a line end in it. -/
def importModel : Value := .map [
  (.text "endpoints", .list [.map [
    (.text "method", .text "get"),
    (.text "path", .text "/"),
    (.text "operationId", .text "find"),
    (.text "responses", .map [
      (.text "200\nimport os", .map [(.text "description", .text "found")])])]])]

/-- A response of an accepted model need not be one line of the tests. -/
theorem importModel_breaks_comment : ¬∀ (v : Value) (api : Api), Api.check .document v = .ok api →
    ∀ (t : Target) (text : String), t.testText? api = some text → ∀ e ∈ api.endpoints, ∀ r ∈ e.responses,
      (t.responseLine (r.1, r.2.description)).toList ∈ Text.lines text.toList := by
  intro hall
  have hstatuses : (Api.check .document importModel).toOption.map (fun api =>
      api.endpoints.flatMap fun e => e.responses.map Prod.fst) = some ["200\nimport os"] := by decide +kernel
  obtain ⟨api, hcheck, hlist⟩ := Api.exists_of_check hstatuses
  have hmem : "200\nimport os" ∈ api.endpoints.flatMap fun e => e.responses.map Prod.fst := by
    rw [hlist]
    exact List.mem_singleton_self _
  obtain ⟨e, he, hstatus⟩ := List.mem_flatMap.1 hmem
  obtain ⟨r, hr, hstatus⟩ := List.mem_map.1 hstatus
  obtain ⟨_, _, htext⟩ := Target.testText?_eq .python api
  have hline := hall _ api hcheck .python _ htext e he r hr
  have hunbroken := Text.unbroken_of_mem_linesFrom Text.unbroken_nil _ _ hline
  rw [Target.unbroken_responseLine, hstatus] at hunbroken
  exact absurd hunbroken (by decide)

end ClientForge
