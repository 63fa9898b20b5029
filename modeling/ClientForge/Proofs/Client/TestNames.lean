import ClientForge.Proofs.Casing
import ClientForge.Proofs.Client.Functions
import ClientForge.Proofs.Client.Idents

/-!
The names of tests. Where tests are functions, the file of the tests declares one for each method, after those that it
declares for any API (`Target.functions_testText?`). The names that methods have keep the names of their tests apart
(`Target.key_testFunction_inj`). In Go, Java and PHP no test for a method has the name of one of the others, but in
Python one has if an operation id has the words of it (`nodup_functions_testText?`), and then only the last of the two
is run (`givenConfigModel_replaces_test`).
-/

namespace ClientForge

namespace Target

/-! ## Tests as functions -/

/-- The functions that the tests for any API declare. -/
def ownFunctions : Target → List String
  | node => []
  | python => ["client", "test_client_uses_given_config"]
  | go => ["newTestClient", "TestClient_Construction"]
  | java => ["setUp", "constructsClient"]
  | php => ["setUp", "test_client_is_constructed"]

/-- How the names of functions that are tests start. -/
def testStem : Target → String
  | node | java | php => "test"
  | python => "test_"
  | go => "Test"

/-- The name of a method as it stands in the name of its test. -/
def testSubject (t : Target) (name : List Char) : List Char :=
  match t with
  | node | python | go => name
  | java | php => capitalize name

/-- The function that tests a method. -/
def testFunction (t : Target) (name : List Char) : List Char := t.testStem.toList ++ t.testSubject name

/-- The functions that the tests for an API declare, if all comments go on to the ends of their lines. -/
def testFunctions (t : Target) (api : Api) : List (List Char) :=
  t.ownFunctions.map String.toList ++ (ClientPlan.ofApi t api).methods.map fun m => t.testFunction m.name.toList

end Target

/-- Do all comments over the test for an endpoint go on to the ends of their lines? -/
structure Endpoint.StaysInComments (t : Target) (e : Endpoint) : Prop where
  path : t.StaysInComment (t.comment e.path).toList
  responses : ∀ r ∈ e.responses, t.StaysInComment (t.responseLine (r.1, r.2.description)).toList

namespace Target

variable {t : Target} {m : MethodPlan}

theorem shows_testComment (h : ∀ r ∈ m.responses, Text.Unbroken (t.responseLine r).toList) :
    t.Shows (m.testComment t (t.testIndent ++ t.lineMark)) [] := by
  have hcomment : ∀ rest : String, Text.Unbroken rest.toList → t.Shows [t.testIndent ++ t.lineMark ++ rest] [] := by
    intro rest hrest
    have hmark : Text.Unbroken (t.testIndent ++ t.lineMark).toList := by cases t <;> decide
    have hchars : (t.testIndent ++ t.lineMark ++ rest).toList = (t.testIndent ++ t.lineMark).toList ++ rest.toList :=
      String.toList_append
    refine shows_comment ⟨rest.toList, hchars.symm⟩ ?_
    rw [hchars]
    exact Text.unbroken_append.2 ⟨hmark, hrest⟩
  have hroute : t.Shows [t.testIndent ++ t.lineMark ++ " " ++ m.route t] [] := by
    have hverb : Text.Unbroken (" " ++ m.verb.name ++ " ").toList := by cases m.verb <;> decide
    rw [String.append_assoc]
    refine hcomment _ ?_
    rw [MethodPlan.route, ← String.append_assoc, ← String.append_assoc, String.toList_append]
    exact Text.unbroken_append.2 ⟨hverb, t.unbroken_comment m.path⟩
  have hresponses : t.Shows (m.responses.map t.responseLine) [] := by
    refine shows_map fun r hr => shows_comment ?_ (h r hr)
    obtain ⟨opening, -, hmark, heq⟩ := t.toList_responseLine r.1 r.2
    rw [heq]
    exact hmark.trans (List.prefix_append _ _)
  unfold MethodPlan.testComment
  split
  · exact hroute.append (hcomment " No documented responses." (by decide))
  · exact hroute.append ((hcomment " Responses:" (by decide)).append hresponses)

theorem allNameChars_testSubject {name : List Char} (h : AllNameChars name) : AllNameChars (t.testSubject name) := by
  have hcapital : AllNameChars (capitalize name) := by
    cases name with
    | nil => exact h
    | cons c w =>
      refine List.forall_mem_cons.2 ⟨?_, fun d hd => h d (List.mem_cons_of_mem c hd)⟩
      rcases h c List.mem_cons_self with hc | rfl
      · exact Or.inl ((isAlphanum_toUpper c).trans hc)
      · exact Or.inr (by decide)
  cases t with
  | node | python | go => exact h
  | java | php => exact hcapital

theorem allNameChars_testStem (t : Target) : AllNameChars t.testStem.toList := by
  have hall : t.testStem.toList.all (fun c => c.isAlphanum || c == '_') := by cases t <;> decide
  exact fun c hc => by simpa using List.all_eq_true.1 hall c hc

/-- The line that declares a test shows it. -/
theorem shows_testFunction {opening name closing : String} (h : AllNameChars name.toList)
    (hopening : opening.toList.all isInline) (hclosing : closing.toList.all isInline)
    (hstem : ∀ s, t.declared? (opening.toList ++ s) = calledName? (t.testStem.toList ++ s))
    (hparen : closing.toList.head? = some '(') :
    t.Shows [opening ++ name ++ closing] [t.testStem.toList ++ name.toList] := by
  have hne : t.testStem.toList ++ name.toList ≠ [] := by cases t <;> simp [testStem]
  obtain ⟨rest, hrest⟩ := List.head?_eq_some_iff.1 hparen
  refine shows_declaration hopening h hclosing ?_
  rw [hstem, hrest, ← List.append_assoc]
  exact calledName?_append hne (t.allNameChars_testStem.append h) rest

/-- The lines of the test of a method before the call show one function. -/
theorem shows_testOpening (ht : t ≠ .node) (hm : m.WellNamed)
    (h : ∀ r ∈ m.responses, Text.Unbroken (t.responseLine r).toList) :
    t.Shows (t.testOpening m) [t.testFunction m.name.toList] := by
  have hcomment := shows_testComment h
  have hblank : t.Shows [""] [] := by cases t <;> decide +kernel
  have hsubject : AllNameChars (String.ofList (t.testSubject m.name.toList)).toList := by
    rw [String.toList_ofList]
    exact allNameChars_testSubject hm.nameChars
  have hname : t.testFunction m.name.toList =
      t.testStem.toList ++ (String.ofList (t.testSubject m.name.toList)).toList := by
    rw [String.toList_ofList]
    rfl
  cases t with
  | node => exact absurd rfl ht
  | python =>
    have hfunction : python.Shows ["def test_" ++ m.name ++ "(client):"] [python.testFunction m.name.toList] :=
      shows_testFunction hm.nameChars (by decide) (by decide) (fun _ => rfl) (by decide)
    exact (shows_cons hblank (shows_cons hblank hcomment)).none_append
      (shows_cons (shows_ofList (by decide +kernel)) hfunction)
  | go =>
    have hfunction : go.Shows ["func Test" ++ m.name ++ "(t *testing.T) \x7b"] [go.testFunction m.name.toList] :=
      shows_testFunction hm.nameChars (by decide) (by decide) (fun _ => rfl) (by decide)
    exact (shows_cons hblank hcomment).none_append (hfunction.append_none
      (shows_cons (shows_ofList (by decide +kernel)) (shows_ofList (by decide +kernel))))
  | java =>
    have hfunction : java.Shows
        ["    void test" ++ .ofList (capitalize m.name.toList) ++ "() throws Exception \x7b"] _ :=
      shows_testFunction hsubject (by decide) (by decide) (fun _ => rfl) (by decide)
    rw [hname]
    exact (shows_cons hblank hcomment).none_append
      (shows_cons (shows_ofList (by decide +kernel)) (shows_cons (shows_ofList (by decide +kernel)) hfunction))
  | php =>
    have hfunction : php.Shows ["    public function test" ++ .ofList (capitalize m.name.toList) ++ "(): void"] _ :=
      shows_testFunction hsubject (by decide) (by decide) (fun _ => rfl) (by decide)
    rw [hname]
    exact (shows_cons hblank hcomment).none_append (hfunction.append_none
      (shows_cons (shows_ofList (by decide +kernel)) (shows_ofList (by decide +kernel))))

/-- The test of a method shows one function. -/
theorem shows_methodTest (ht : t ≠ .node) (hm : m.WellNamed)
    (h : ∀ r ∈ m.responses, Text.Unbroken (t.responseLine r).toList) :
    t.Shows (t.methodTest m) [t.testFunction m.name.toList] := by
  have hopening := shows_testOpening ht hm h
  cases t with
  | node => exact absurd rfl ht
  | python =>
    have hcall : python.Shows ["    result = client." ++ m.call .python ++ ""] [] :=
      shows_call hm.nameChars (by decide) (fun _ => rfl) (by decide)
    rw [String.append_empty] at hcall
    exact hopening.append_none (shows_cons hcall (shows_ofList (by decide +kernel)))
  | go =>
    have hcall : go.Shows ["\tif _, err := client." ++ m.call .go ++ "; err != nil \x7b"] [] :=
      shows_call hm.nameChars (by decide) (fun _ => rfl) (by decide)
    exact hopening.append_none (shows_cons hcall (shows_cons (shows_ofList (by decide +kernel))
      (shows_cons (shows_ofList (by decide +kernel)) (shows_ofList (by decide +kernel)))))
  | java =>
    have hcall : java.Shows ["        assertNotNull(client." ++ m.call .java ++ ");"] [] :=
      shows_call hm.nameChars (by decide) (fun _ => rfl) (by decide)
    exact hopening.append_none (shows_cons hcall (shows_ofList (by decide +kernel)))
  | php =>
    have hcall : php.Shows ["        $this->assertNotNull($this->client->" ++ m.call .php ++ ");"] [] :=
      shows_call hm.nameChars (by decide) (fun _ => rfl) (by decide)
    exact hopening.append_none (shows_cons hcall (shows_ofList (by decide +kernel)))

/-- The lines around the tests of methods show the functions that the tests for any API declare. -/
theorem testText?_shows (ht : t ≠ .node) (api : Api) : ∃ before after, t.testText? api = some (Artifact.text
    ⟨t.testPath, before ++ (ClientPlan.ofApi t api).methods.flatMap t.methodTest ++ after⟩) ∧
      t.Shows before (t.ownFunctions.map String.toList) ∧ t.Shows after [] := by
  cases t with
  | node => exact absurd rfl ht
  | java | php =>
    exact ⟨_, _, rfl,
      shows_of_lineChars (by repeat' first | apply lineChars_ofList_cons | exact rfl) (by decide +kernel),
      shows_ofList (by decide +kernel)⟩
  | python | go =>
    exact ⟨_, [], by rw [List.append_nil]; rfl,
      shows_of_lineChars (by repeat' first | apply lineChars_ofList_cons | exact rfl) (by decide +kernel), shows_nil⟩

/-- The tests for an API declare the functions of any tests and one for each method. -/
theorem functions_testText? (ht : t ≠ .node) {api : Api} (h : ∀ e ∈ api.endpoints, e.StaysInComments t) :
    ∃ text, t.testText? api = some text ∧ t.functions text = t.testFunctions api := by
  obtain ⟨before, after, htext, hbefore, hafter⟩ := testText?_shows ht api
  refine ⟨_, htext, Shows.functions_eq ((hbefore.append (shows_flatMap fun m hm => ?_)).append_none hafter)⟩
  obtain ⟨e, name, he, rfl⟩ : ∃ e name, e ∈ api.endpoints ∧ m = .ofEndpoint t name e := by
    obtain ⟨i, hi⟩ := List.mem_iff_getElem?.1 hm
    obtain ⟨name, e, -, he, rfl⟩ := List.getElem?_zipWith_eq_some.1 hi
    exact ⟨e, _, List.mem_of_getElem? he, rfl⟩
  refine shows_methodTest ht (MethodPlan.wellNamed_ofApi t api _ hm) fun r hr => ?_
  obtain ⟨q, hq, rfl⟩ := List.mem_map.1 hr
  exact ((h e he).responses q hq).unbroken

/-! ## Names that are kept apart -/

theorem uncapitalize_capitalize {w : List Char} (h : w.head?.any Char.isUpper = false) :
    uncapitalize (capitalize w) = w := by
  cases w with
  | nil => rfl
  | cons c w =>
    have hc : ¬c.isUpper := by simpa using h
    show c.toUpper.toLower :: w = c :: w
    rw [toLower_toUpper, toLower_of_not_isUpper hc]

/-- In Java no method starts with a capital. -/
theorem isUpper_head_java {taken : List (List Char)} {es : List Endpoint} {name : List Char}
    (h : name ∈ methodNames .java taken es) : name.head?.any Char.isUpper = false := by
  obtain ⟨e, -, hbase⟩ := mem_methodNames h
  obtain ⟨s, hs, hne⟩ := baseName_eq .java e
  have hhead : (java.methodName s).head?.any Char.isUpper = false := by
    rw [methodName_eq, show java.methodCase s = camel s from rfl]
    cases hcamel : camel s with
    | nil => split <;> rfl
    | cons c w =>
      have hc := isUpper_head_camel hcamel
      split <;> simpa using hc
  rw [hs] at hbase
  rcases hbase with rfl | ⟨n, rfl⟩
  · exact hhead
  · obtain ⟨c, w, hname⟩ := List.exists_cons_of_ne_nil hne
    rw [hname] at hhead ⊢
    exact hhead

theorem key_testFunction (t : Target) {name : List Char} (h : AllNameChars name) :
    t.methodKey (t.testFunction name) = t.methodKey t.testStem.toList ++ t.methodKey (t.testSubject name) :=
  methodKey_append t t.allNameChars_testStem.ascii (allNameChars_testSubject h).ascii

theorem php_key_capitalize {name : List Char} (h : AllNameChars name) :
    php.methodKey (capitalize name) = php.methodKey name := by
  have hcapital : AllNameChars (capitalize name) := allNameChars_testSubject (t := .php) h
  show Text.lowerAfter [] _ = Text.lowerAfter [] _
  rw [lowerAfter_ascii [] h.ascii, lowerAfter_ascii [] hcapital.ascii]
  exact lowerWord_capitalize name

/-- The name of a test tells the name of its method. -/
theorem key_testFunction_inj {taken : List (List Char)} {es : List Endpoint} {a b : List Char}
    (ha : a ∈ methodNames t taken es) (hb : b ∈ methodNames t taken es)
    (h : t.methodKey (t.testFunction a) = t.methodKey (t.testFunction b)) : t.methodKey a = t.methodKey b := by
  have hachars := (allNameChars_methodNames t taken es a ha).2
  have hbchars := (allNameChars_methodNames t taken es b hb).2
  rw [t.key_testFunction hachars, t.key_testFunction hbchars] at h
  have hsubject := List.append_cancel_left h
  cases t with
  | node | python | go => exact hsubject
  | java =>
    have huncapital := congrArg uncapitalize hsubject
    simp only [testSubject, methodKey] at huncapital
    rwa [uncapitalize_capitalize (isUpper_head_java ha), uncapitalize_capitalize (isUpper_head_java hb)] at huncapital
  | php =>
    simp only [testSubject] at hsubject
    rwa [php_key_capitalize hachars, php_key_capitalize hbchars] at hsubject

/-! ## Tests for any API -/

/-- A name that ends with neither an underscore nor a digit was changed by nothing. -/
theorem methodNames_cases {taken : List (List Char)} {es : List Endpoint} {name : List Char}
    (h : name ∈ methodNames t taken es) :
    (∃ e ∈ es, name = e.baseName t ∧ ∃ s, name = t.methodCase s) ∨
      (t.methodKey name).getLast?.any (fun c => c == '_' || c.isDigit) := by
  obtain ⟨e, he, hbase⟩ := mem_methodNames h
  rcases hbase with rfl | ⟨n, rfl⟩
  · obtain ⟨s, hs, -⟩ := baseName_eq t e
    rw [methodName_eq] at hs
    split at hs
    · right
      rw [hs, methodKey_underscored t (allNameChars_methodCase t s)]
      rfl
    · exact Or.inl ⟨e, he, rfl, s, hs⟩
  · right
    rw [methodKey_numbered t (allNameChars_baseName t e), numbered,
      List.getLast?_append_of_ne_nil _ (repr_toList_ne_nil n), List.getLast?_eq_some_getLast (repr_toList_ne_nil n)]
    rw [Option.any_some, isDigit_of_mem_repr (List.getLast_mem _), Bool.or_true]

/-- Names of methods have an underscore at the end only, or before a number. -/
theorem key_ne_of_underscore (ht : t ≠ .python) {taken : List (List Char)} {es : List Endpoint} {name k : List Char}
    (h : name ∈ methodNames t taken es) (hunder : '_' ∈ k)
    (hlast : k.getLast?.any (fun c => c == '_' || c.isDigit) = false) : t.methodKey name ≠ k := by
  rintro rfl
  rcases methodNames_cases h with ⟨e, -, -, s, rfl⟩ | hends
  · have hcase : AllAlphanum (t.methodCase s) := by
      cases t with
      | python => exact absurd rfl ht
      | go => exact allAlphanum_pascal s
      | node | java | php => exact allAlphanum_camel s
    have hkey : AllAlphanum (t.methodKey (t.methodCase s)) := by
      cases t with
      | node | python | go | java => exact hcase
      | php =>
        rw [methodKey, hcase.lower_eq]
        exact hcase.map isAlphanum_toLower
    exact absurd (hkey '_' hunder) (by decide)
  · rw [hlast] at hends
    cases hends

/-- What stands after the stem in the name of a test for any API. -/
def ownSubject : Target → List Char
  | python => "client_uses_given_config".toList
  | go => "Client_Construction".toList
  | node | java | php => "_client_is_constructed".toList

/-- A function of the tests for any API that starts like a test. In Java there is none. -/
theorem own_of_stem (t : Target) : ∀ o ∈ t.ownFunctions, t.methodKey t.testStem.toList <+: t.methodKey o.toList →
    t ≠ .java ∧ t.methodKey o.toList = t.methodKey t.testStem.toList ++ t.ownSubject := by
  cases t <;> decide +kernel

/-- The test of a method has the name of one for any API in Python only, for a method of one name. -/
theorem key_testFunction_ne_own {taken : List (List Char)} {es : List Endpoint} {name : List Char}
    (h : name ∈ methodNames t taken es) (hpython : t = .python → name ≠ python.ownSubject) :
    ∀ o ∈ t.ownFunctions, t.methodKey o.toList ≠ t.methodKey (t.testFunction name) := by
  intro o ho heq
  have hchars := (allNameChars_methodNames t taken es name h).2
  rw [t.key_testFunction hchars] at heq
  obtain ⟨hjava, hown⟩ := t.own_of_stem o ho ⟨_, heq.symm⟩
  have hsubject := List.append_cancel_left (hown.symm.trans heq)
  cases t with
  | python => exact hpython rfl hsubject.symm
  | java => exact hjava rfl
  | node | go => exact (key_ne_of_underscore (by decide) h (by decide) (by decide)) hsubject.symm
  | php =>
    rw [testSubject, php_key_capitalize hchars] at hsubject
    exact (key_ne_of_underscore (by decide) h (by decide) (by decide)) hsubject.symm

/-! ## In Python -/

theorem ownSubject_cased (s : List Char) : python.methodName s = python.ownSubject ↔ snake s = python.ownSubject := by
  have hfree : python.ownSubject ∉ python.blockedKeys := by decide +kernel
  have hcase : python.methodCase s = snake s := rfl
  rw [methodName_eq, hcase]
  split
  · rename_i hblocked
    have hlast : python.ownSubject.getLast? ≠ some '_' := by decide
    refine iff_of_false (fun heq => hlast ?_) (fun heq => hfree ?_)
    · rw [← heq, List.getLast?_append_of_ne_nil _ (List.cons_ne_nil _ _)]
      rfl
    · rw [← heq]
      simpa [methodKey] using hblocked
  · rfl

/-- The name of an operation without an id starts with its verb. -/
theorem snake_derived_ne (v : Method) (path : List Char) :
    snake (derivedIdentifier v.name.toList path) ≠ python.ownSubject := by
  intro heq
  have hverb : ∃ c, (lowerWord ((derivedIdentifier v.name.toList path).filter isWordChar)).head? = some c ∧
      c ≠ 'c' := by
    cases v <;> exact ⟨_, rfl, by decide⟩
  obtain ⟨c, hhead, hc⟩ := hverb
  rw [← filter_snake, heq] at hhead
  exact hc (Option.some.inj hhead).symm

/-- A method has the name if an operation id has its words. -/
theorem ownSubject_mem_iff (es : List Endpoint) : python.ownSubject ∈ methodNames .python [] es ↔
    ∃ e ∈ es, snake e.operationId.toList = python.ownSubject := by
  have hbase : ∀ e : Endpoint, e.baseName .python = python.ownSubject ↔
      snake e.operationId.toList = python.ownSubject := by
    intro e
    rw [← ownSubject_cased]
    unfold Endpoint.baseName
    split
    · rename_i hnone
      rw [hnone]
      refine iff_of_false (fun heq => ?_) (by decide)
      exact snake_derived_ne _ _ ((ownSubject_cased _).1 heq)
    · rfl
  constructor
  · intro h
    rcases methodNames_cases h with ⟨e, he, heq, -⟩ | hends
    · exact ⟨e, he, (hbase e).1 heq.symm⟩
    · exact absurd hends (by decide)
  · rintro ⟨e, he, heq⟩
    have hmem := key_baseName_mem (t := .python) [] he
    rw [(hbase e).2 heq] at hmem
    simpa [methodKey] using hmem

/-! ## All names -/

theorem testFunctions_eq (t : Target) (api : Api) : t.testFunctions api =
    t.ownFunctions.map String.toList ++ (methodNames t [] api.endpoints).map t.testFunction := by
  rw [← map_name_methods, List.map_map]
  rfl

/-- The names of all functions in the tests are different, but for an operation id with the words of one. -/
theorem nodup_testFunctions (t : Target) (api : Api) : ((t.testFunctions api).map t.methodKey).Nodup ↔
    (t = .python → ∀ e ∈ api.endpoints, snake e.operationId.toList ≠ python.ownSubject) := by
  have hnames : python.ownSubject ∉ methodNames .python [] api.endpoints ↔
      ∀ e ∈ api.endpoints, snake e.operationId.toList ≠ python.ownSubject := by
    rw [ownSubject_mem_iff]
    simp
  rw [testFunctions_eq, List.map_append, List.nodup_append, List.map_map, List.map_map]
  constructor
  · rintro ⟨-, -, hapart⟩ rfl
    have hown : python.methodKey "test_client_uses_given_config".toList ∈
        python.ownFunctions.map (python.methodKey ∘ String.toList) := List.mem_map_of_mem (by decide)
    exact hnames.1 fun hmem => hapart _ hown _ (List.mem_map_of_mem hmem) (by decide)
  · intro hpython
    refine ⟨by cases t <;> decide +kernel, ?_, ?_⟩
    · have hkeys := (nodup_methodNames t [] api.endpoints).1
      refine List.pairwise_map.2 (List.Pairwise.imp_of_mem ?_ (List.pairwise_map.1 hkeys))
      exact fun ha hb hne heq => hne (key_testFunction_inj ha hb heq)
    · intro k hk k' hk'
      obtain ⟨o, ho, rfl⟩ := List.mem_map.1 hk
      obtain ⟨name, hname, rfl⟩ := List.mem_map.1 hk'
      refine key_testFunction_ne_own hname (fun ht heq => ?_) o ho
      subst ht heq
      exact hnames.2 (hpython rfl) hname

end Target

/-- Where tests are functions, and all comments over them go on to the ends of their lines, the file of the tests
declares those that it declares for any API, and then one for each method. Their names are different, in PHP also but
for their case, in all languages but Python; there they are if and only if no operation id has the words of
a test for any API. -/
theorem nodup_functions_testText? {t : Target} (ht : t ≠ .node) {api : Api}
    (hcomments : ∀ e ∈ api.endpoints, e.StaysInComments t) : ∃ text, t.testText? api = some text ∧
      t.functions text = t.ownFunctions.map String.toList ++
        (ClientPlan.ofApi t api).methods.map (fun m => t.testFunction m.name.toList) ∧
      (((t.functions text).map t.methodKey).Nodup ↔
        (t = .python → ∀ e ∈ api.endpoints, snake e.operationId.toList ≠ "client_uses_given_config".toList)) := by
  obtain ⟨text, htext, hfunctions⟩ := Target.functions_testText? ht hcomments
  refine ⟨text, htext, hfunctions, ?_⟩
  rw [hfunctions]
  exact t.nodup_testFunctions api

/-- An API with one operation. -/
def petApi : Api := { endpoints := [{
  method := .get, path := "/pets", operationId := "listPets",
  responses := [("200", { description := "All pets" })] }] }

theorem nodup_functions_testText?_petApi : ∃ text, Target.python.testText? petApi = some text ∧
    Target.python.functions text = ["client", "test_client_uses_given_config", "test_list_pets"].map String.toList ∧
    ((Target.python.functions text).map Target.python.methodKey).Nodup := by
  have hcomments : ∀ e ∈ petApi.endpoints, e.StaysInComments .python :=
    List.forall_mem_singleton.2 ⟨by decide +kernel, List.forall_mem_singleton.2 (by decide +kernel)⟩
  have hfree : ∀ e ∈ petApi.endpoints, snake e.operationId.toList ≠ "client_uses_given_config".toList :=
    List.forall_mem_singleton.2 (by decide +kernel)
  obtain ⟨text, htext, hfunctions, hnodup⟩ := nodup_functions_testText? (by decide) hcomments
  exact ⟨text, htext, hfunctions.trans (by decide +kernel), hnodup.2 fun _ => hfree⟩

/-- A model with an operation id that has the words of a test for any API. -/
def givenConfigModel : Value := .map [
  (.text "endpoints", .list [.map [
    (.text "method", .text "get"),
    (.text "path", .text "/"),
    (.text "operationId", .text "clientUsesGivenConfig")]])]

/-- In the tests for an accepted model a test may have the name of another. -/
theorem givenConfigModel_replaces_test : ¬∀ (v : Value) (api : Api), Api.check .document v = .ok api →
    ∀ t : Target, t ≠ .node → ∀ text, t.testText? api = some text →
      ((t.functions text).map t.methodKey).Nodup := by
  intro hall
  have hchecked : (Api.check .document givenConfigModel).toOption.map (fun api =>
      api.endpoints.map fun e => (e.path, e.operationId, e.responses.length)) =
        some [("/", "clientUsesGivenConfig", 0)] := by decide +kernel
  obtain ⟨api, hcheck, hlist⟩ := Api.exists_of_check hchecked
  obtain ⟨e, hendpoints, he⟩ := List.map_eq_singleton_iff.1 hlist
  simp only [Prod.mk.injEq, List.length_eq_zero_iff] at he
  obtain ⟨hpath, hid, hresponses⟩ := he
  have hcomments : ∀ e ∈ api.endpoints, e.StaysInComments .python := by
    rw [hendpoints]
    refine List.forall_mem_singleton.2 ⟨?_, ?_⟩
    · rw [hpath]
      decide +kernel
    · rw [hresponses]
      exact List.forall_mem_nil _
  obtain ⟨text, htext, hfunctions⟩ := Target.functions_testText? (by decide) hcomments
  have hnodup := hall _ api hcheck .python (by decide) text htext
  rw [hfunctions, Target.nodup_testFunctions, hendpoints] at hnodup
  refine hnodup rfl e List.mem_cons_self ?_
  rw [hid]
  decide +kernel

end ClientForge
