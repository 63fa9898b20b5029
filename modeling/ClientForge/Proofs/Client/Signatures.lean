import ClientForge.Client.Project
import ClientForge.Proofs.Client.SignatureForm

/-!
The signatures in the file of a client class. Whatever texts an API has, in JavaScript, Go and Java the file shows
one signature for each endpoint, in order, with the name and as many parameters as planned, and those of the
client's own methods (`signatures_generate`). Each text of the API stands in a comment, a literal or a name, and
each of these stays on a line that starts in another way than a signature.
-/

namespace ClientForge

/-! ## Parameters -/

/-- Is the text on one line, without a mark that ends a parameter? -/
structure InParameter (p : String) : Prop where
  oneLine : OneLine p
  noComma : ',' ∉ p.toList
  noParen : ')' ∉ p.toList

instance (p : String) : Decidable (InParameter p) :=
  decidable_of_iff (OneLine p ∧ ',' ∉ p.toList ∧ ')' ∉ p.toList)
    ⟨fun h => ⟨h.1, h.2.1, h.2.2⟩, fun h => ⟨h.oneLine, h.noComma, h.noParen⟩⟩

theorem InParameter.append {p q : String} (hp : InParameter p) (hq : InParameter q) : InParameter (p ++ q) where
  oneLine := oneLine_append.2 ⟨hp.oneLine, hq.oneLine⟩
  noComma := by simp [hp.noComma, hq.noComma]
  noParen := by simp [hp.noParen, hq.noParen]

/-- Does the text stand between parentheses as one parameter? -/
structure IsParameter (p : String) : Prop extends InParameter p where
  filled : isFilled p.toList

namespace IsParameter

variable {p q : String}

theorem of_isName (h : IsName p.toList) : IsParameter p where
  oneLine := h.nameChars.not_mem (by decide) (by decide)
  noComma := h.nameChars.not_mem (by decide) (by decide)
  noParen := h.nameChars.not_mem (by decide) (by decide)
  filled := by
    obtain ⟨c, hc, hword⟩ := h.exists_alphanum
    rw [isAlphanum_iff, isAlpha_iff, isUpper_iff, isLower_iff, isDigit_iff] at hword
    refine isFilled_iff.2 ⟨c, hc, Bool.eq_false_iff.2 fun hblank => ?_⟩
    simp only [Text.isBlank, Bool.or_eq_true, Bool.and_eq_true, decide_eq_true_eq, beq_iff_eq] at hblank
    omega

theorem append_right (h : IsParameter p) (hq : InParameter q) : IsParameter (p ++ q) where
  toInParameter := h.toInParameter.append hq
  filled := by
    obtain ⟨c, hc, hword⟩ := isFilled_iff.1 h.filled
    exact isFilled_iff.2 ⟨c, by simp [hc], hword⟩

theorem append_left (h : IsParameter p) (hq : InParameter q) : IsParameter (q ++ p) where
  toInParameter := hq.append h.toInParameter
  filled := by
    obtain ⟨c, hc, hword⟩ := isFilled_iff.1 h.filled
    exact isFilled_iff.2 ⟨c, by simp [hc], hword⟩

end IsParameter

/-! ## Methods -/

@[simp] theorem Method.oneLine_name (v : Method) : OneLine v.name := by cases v <;> decide

@[simp] theorem MethodPlan.oneLine_route (t : Target) (m : MethodPlan) : OneLine (m.route t) := by
  unfold route
  simp +decide

namespace MethodPlan.WellNamed

variable {m : MethodPlan} (h : m.WellNamed)

include h

theorem oneLine_name : OneLine m.name := h.nameChars.not_mem (by decide) (by decide)

theorem isWord_name : ∀ c ∈ m.name.toList, Text.isWord c := h.nameChars.isWord

theorem isParameter_ident : ∀ a ∈ m.arguments, IsParameter a.ident := fun a ha => .of_isName (h.isName a ha)

theorem oneLine_ident : ∀ a ∈ m.arguments, OneLine a.ident := fun a ha => (h.isParameter_ident a ha).oneLine

theorem oneLine_pathArgs : ∀ a ∈ m.pathArgs, OneLine a.ident := fun a ha =>
  h.oneLine_ident a (by simp [arguments, ha])

theorem oneLine_queryArgs : ∀ a ∈ m.queryArgs, OneLine a.ident := fun a ha =>
  h.oneLine_ident a (by simp [arguments, ha])

theorem oneLine_body {b : Payload} (hb : m.body = some b) : OneLine b.argument.ident :=
  h.oneLine_ident b.argument (by simp [arguments, hb])

end MethodPlan.WellNamed

/-- The signature of a method, with parameters as they are written. -/
def MethodPlan.signature (parameter : Argument → String) (m : MethodPlan) : Signature :=
  ⟨m.name.toList, (commas (m.arguments.map parameter)).toList⟩

namespace SignatureForm

variable {f : SignatureForm} {m : MethodPlan} {parameter : Argument → String}

theorem arity_signature (h : ∀ a ∈ m.arguments, IsParameter (parameter a)) :
    (m.signature parameter).arity = m.arguments.length := by
  have hparameters : ∀ p ∈ m.arguments.map parameter, IsParameter p := List.forall_mem_map.2 h
  have harity := arity_commas m.name.toList (fun p hp => (hparameters p hp).noComma) fun p hp =>
    (hparameters p hp).filled
  rwa [List.length_map] at harity

/-- A well-named method shows its signature. -/
theorem shows_signatureLine (h : m.WellNamed) (hparameter : ∀ a ∈ m.arguments, IsParameter (parameter a))
    (hclosing : OneLine f.closing) :
    f.Shows [f.opening ++ m.name ++ "(" ++ commas (m.arguments.map parameter) ++ (")" ++ f.closing)]
      [m.signature parameter] := by
  have hparameters : ∀ p ∈ m.arguments.map parameter, IsParameter p := List.forall_mem_map.2 hparameter
  have hcommas := oneLine_commas fun p hp => (hparameters p hp).oneLine
  have hparen := not_mem_commas (by decide) fun p hp => (hparameters p hp).noParen
  refine shows_signature ?_ ?_ h.name_ne h.isWord_name hparen
  · simp
  · simp +decide [f.oneLine, h.oneLine_name, hcommas, hclosing]

end SignatureForm

/-! ## JavaScript -/

namespace Client.Node

open SignatureForm

variable {p : ClientPlan} {m : MethodPlan}

/-- How asynchronous methods open. -/
def form : SignatureForm := { opening := "  async ", closing := " \x7b" }

theorem plain_opening (p : ClientPlan) : form.AllPlain (opening p) := by
  have htitle : form.Plain (" * " ++ comment p.title ++ " API client") := by
    rw [String.append_assoc]
    exact plain_append (apart_ofList rfl (by decide)) (by simp +decide)
  have hdescription : form.Plain (" * " ++ comment p.description) :=
    plain_append (apart_ofList rfl (by decide)) (by simp)
  unfold opening
  split
  all_goals
    simp only [allPlain_append, allPlain_cons, allPlain_nil, htitle, hdescription, and_true]
    and_intros
    all_goals exact plain_ofList rfl (by decide)

theorem plain_argumentLine {a : Argument} (h : OneLine a.ident) : form.Plain (argumentLine a) := by
  unfold argumentLine
  simp only [String.append_assoc]
  refine plain_append (apart_ofList rfl (by decide)) ?_
  split <;> split <;> split <;> simp +decide [h]

theorem plain_documentation (h : m.WellNamed) : form.AllPlain (documentation m) := by
  have hsummary : form.Plain ("   * " ++ comment m.summary) := plain_append (apart_ofList rfl (by decide)) (by simp)
  have hroute : form.Plain ("   * " ++ m.route .node) := plain_append (apart_ofList rfl (by decide)) (by simp)
  have harguments : form.AllPlain (m.arguments.map argumentLine) :=
    allPlain_map.2 fun a ha => plain_argumentLine (h.oneLine_ident a ha)
  unfold documentation
  simp only [allPlain_append, allPlain_cons, allPlain_nil, hsummary, hroute, harguments, and_true, true_and]
  and_intros
  all_goals exact plain_ofList rfl (by decide)

theorem plain_pathLines (h : m.WellNamed) : form.AllPlain (pathLines m) := by
  unfold pathLines
  simp only [allPlain_cons, allPlain_map, String.append_assoc]
  refine ⟨plain_append (apart_ofList rfl (by decide)) ?_, fun a ha => plain_append (apart_ofList rfl (by decide)) ?_⟩
  · simp +decide
  · simp +decide [h.oneLine_pathArgs a ha]

theorem plain_queryArgLines {a : Argument} (h : OneLine a.ident) : form.AllPlain (queryArgLines a) := by
  unfold queryArgLines
  simp only [allPlain_cons, allPlain_nil, String.append_assoc, and_true]
  refine ⟨plain_append (apart_ofList rfl (by decide)) ?_, plain_append (apart_ofList rfl (by decide)) ?_,
    plain_ofList rfl (by decide)⟩
  · simp +decide [h]
  · simp +decide [h]

theorem plain_queryLines (h : m.WellNamed) : form.AllPlain (queryLines m) := by
  have hargs : form.AllPlain (m.queryArgs.flatMap queryArgLines) :=
    allPlain_flatMap.2 fun a ha => plain_queryArgLines (h.oneLine_queryArgs a ha)
  unfold queryLines
  split
  · exact allPlain_nil.2 trivial
  · simp only [allPlain_append, allPlain_cons, allPlain_nil, hargs, and_true]
    and_intros
    all_goals exact plain_ofList rfl (by decide)

theorem plain_encodeLine {b : Payload} (h : OneLine b.argument.ident) : form.Plain (encodeLine b) := by
  unfold encodeLine
  split
  all_goals
    rw [String.append_assoc]
    exact plain_append (apart_ofList rfl (by decide)) (by simp +decide [h])

theorem plain_sendLine (m : MethodPlan) {body : String} (h : OneLine body) : form.Plain (sendLine m body) := by
  unfold sendLine
  simp only [String.append_assoc]
  exact plain_append (apart_ofList rfl (by decide)) (by simp +decide [h])

theorem plain_sendLines (h : m.WellNamed) : form.AllPlain (sendLines m) := by
  unfold sendLines
  split
  · exact allPlain_cons.2 ⟨plain_sendLine m (by decide), allPlain_nil.2 trivial⟩
  · rename_i b hb
    have hident := h.oneLine_body hb
    simp only [allPlain_cons, allPlain_nil, String.append_assoc, and_true]
    refine ⟨plain_ofList rfl (by decide), plain_append (apart_ofList rfl (by decide)) ?_, plain_encodeLine hident,
      plain_append (apart_ofList rfl (by decide)) ?_, plain_ofList rfl (by decide), plain_sendLine m (by decide)⟩
    · simp +decide [hident]
    · simp +decide

/-- A method shows its signature and nothing else. -/
theorem shows_method (h : m.WellNamed) : form.Shows (method m) [m.signature (·.ident)] := by
  have hlines : method m = ("" :: documentation m) ++ signature m :: (pathLines m ++
      "    let requestUrl = this.config.baseUrl + requestPath;" :: (queryLines m ++
        "    const headers = this.authHandler.getAuthHeaders();" :: (sendLines m ++ ["  \x7d"]))) := by
    simp [method]
  rw [hlines]
  refine shows_among (shows_signatureLine h h.isParameter_ident (by decide)) ?_ ?_
  · exact allPlain_cons.2 ⟨plain_ofList rfl (by decide), plain_documentation h⟩
  · simp only [allPlain_append, allPlain_cons, allPlain_nil, plain_pathLines h, plain_queryLines h, plain_sendLines h,
      and_true, true_and]
    and_intros
    all_goals exact plain_ofList rfl (by decide)

/-- The client's own method shows its signature. -/
theorem shows_closing : form.Shows closing [⟨"testConnection".toList, []⟩] := by
  have hsignature : form.Shows ["  async testConnection() \x7b"] [⟨"testConnection".toList, []⟩] :=
    shows_signature (by decide) (by decide) (by decide) (List.all_eq_true.1 (by decide)) (by decide)
  have hlines : closing = closing.take 5 ++ "  async testConnection() \x7b" :: closing.drop 6 := rfl
  rw [hlines]
  unfold closing
  refine shows_among hsignature ?_ ?_
  all_goals
    simp only [List.take_succ_cons, List.take_zero, List.drop_succ_cons, List.drop_zero, allPlain_cons, allPlain_nil,
      and_true]
    and_intros
    all_goals exact plain_ofList rfl (by decide)

theorem shows_clientFile (h : ∀ m ∈ p.methods, m.WellNamed) : form.Shows (clientFile p).lines
    (p.methods.map (MethodPlan.signature (·.ident)) ++ [⟨"testConnection".toList, []⟩]) := by
  have hmethods := shows_flatMap fun m hm => shows_method (h m hm)
  exact ((shows_of_plain (plain_opening p)).append hmethods).append shows_closing

end Client.Node

/-! ## Go -/

namespace Client.Go

open SignatureForm

variable {p : ClientPlan} {m : MethodPlan}

/-- How methods open that give a response. -/
def form : SignatureForm := { opening := "func (c *Client) ", closing := " (*ApiResponse, error) \x7b" }

theorem plain_opening (p : ClientPlan) : form.AllPlain (opening p) := by
  have htitle : form.Plain ("// Client is the " ++ comment p.title ++ " API client.") := by
    rw [String.append_assoc]
    exact plain_append (apart_ofList rfl (by decide)) (by simp +decide)
  unfold opening
  simp only [allPlain_cons, allPlain_nil, htitle, and_true, true_and]
  and_intros
  all_goals exact plain_ofList rfl (by decide)

theorem plain_documentation (h : m.WellNamed) : form.AllPlain (documentation m) := by
  unfold documentation
  simp only [allPlain_cons, allPlain_nil, String.append_assoc, and_true]
  refine ⟨plain_append (apart_ofList rfl (by decide)) ?_, plain_ofList rfl (by decide),
    plain_append (apart_ofList rfl (by decide)) (by simp)⟩
  simp +decide [h.oneLine_name]

theorem plain_pathLines (h : m.WellNamed) : form.AllPlain (pathLines m) := by
  unfold pathLines
  simp only [allPlain_cons, allPlain_map, String.append_assoc]
  refine ⟨plain_append (apart_ofList rfl (by decide)) (by simp), fun a ha =>
    plain_append (apart_ofList rfl (by decide)) ?_⟩
  simp +decide [h.oneLine_pathArgs a ha]

theorem plain_queryLines (h : m.WellNamed) : form.AllPlain (queryLines m) := by
  have hentries : form.AllPlain (m.queryArgs.map queryEntry) := by
    refine allPlain_map.2 fun a ha => ?_
    unfold queryEntry
    simp only [String.append_assoc]
    exact plain_append (apart_ofList rfl (by decide)) (by simp +decide [h.oneLine_queryArgs a ha])
  unfold queryLines
  split
  all_goals
    simp only [allPlain_append, allPlain_cons, allPlain_nil, hentries, and_true]
    and_intros
    all_goals exact plain_ofList rfl (by decide)

theorem plain_sendLine (m : MethodPlan) {body : String} (h : OneLine body) : form.Plain (sendLine m body) := by
  unfold sendLine
  simp only [String.append_assoc]
  exact plain_append (apart_ofList rfl (by decide)) (by simp +decide [h])

theorem plain_sendLines (h : m.WellNamed) : form.AllPlain (sendLines m) := by
  unfold sendLines
  split
  · exact allPlain_cons.2 ⟨plain_sendLine m (by decide), allPlain_nil.2 trivial⟩
  · rename_i b hb
    have hencode : form.Plain ("\trequestBody, err := encodeBody(" ++ b.argument.ident ++ ", " ++
        literal b.encoding.name ++ ")") := by
      simp only [String.append_assoc]
      exact plain_append (apart_ofList rfl (by decide)) (by simp +decide [h.oneLine_body hb])
    have htype : form.Plain ("\t\theaders[\"Content-Type\"] = " ++ literal b.mediaType) :=
      plain_append (apart_ofList rfl (by decide)) (by simp)
    simp only [allPlain_cons, allPlain_nil, hencode, htype, plain_sendLine m (show OneLine "requestBody" by decide),
      and_true, true_and]
    and_intros
    all_goals exact plain_ofList rfl (by decide)

theorem isParameter_parameter (h : m.WellNamed) : ∀ a ∈ m.arguments, IsParameter (parameter a) := by
  intro a ha
  unfold parameter
  refine ((h.isParameter_ident a ha).append_right (by decide)).append_right ?_
  split <;> decide

/-- A method shows its signature and nothing else. -/
theorem shows_method (h : m.WellNamed) : form.Shows (method m) [m.signature parameter] := by
  have hlines : method m = ("" :: documentation m) ++ signature m :: (pathLines m ++ (queryLines m ++
      ("\theaders, err := c.authHandler.GetAuthHeaders()" :: "\tif err != nil \x7b" :: "\t\treturn nil, err" ::
        "\t\x7d" :: (sendLines m ++ ["\x7d"])))) := by
    simp [method]
  rw [hlines]
  refine shows_among (shows_signatureLine h (isParameter_parameter h) (by decide)) ?_ ?_
  · exact allPlain_cons.2 ⟨plain_ofList rfl (by decide), plain_documentation h⟩
  · simp only [allPlain_append, allPlain_cons, allPlain_nil, plain_pathLines h, plain_queryLines h, plain_sendLines h,
      and_true, true_and]
    and_intros
    all_goals exact plain_ofList rfl (by decide)

/-- The client's own method gives no response, so its line is not in the form. -/
theorem shows_closing : form.Shows closing [] := by
  have howner : form.Shows ["func (c *Client) TestConnection() bool \x7b"] [] :=
    shows_of_read? (oneLine_ofList (by decide)) fun _ => rfl
  have hlines : closing = closing.take 2 ++ ["func (c *Client) TestConnection() bool \x7b"] ++ closing.drop 3 := rfl
  rw [hlines]
  unfold closing
  refine ((shows_of_plain ?_).append howner).append (shows_of_plain ?_)
  all_goals
    simp only [List.take_succ_cons, List.take_zero, List.drop_succ_cons, List.drop_zero, allPlain_cons, allPlain_nil,
      and_true]
    and_intros
    all_goals exact plain_ofList rfl (by decide)

theorem shows_clientFile (h : ∀ m ∈ p.methods, m.WellNamed) :
    form.Shows (clientFile p).lines (p.methods.map (MethodPlan.signature parameter)) := by
  have hmethods := shows_flatMap fun m hm => shows_method (h m hm)
  have hall := ((shows_of_plain (plain_opening p)).append hmethods).append shows_closing
  rwa [List.append_nil] at hall

end Client.Go

/-! ## Java -/

namespace Client.Java

open SignatureForm

variable {p : ClientPlan} {m : MethodPlan}

/-- How methods open that give a response. -/
def form : SignatureForm := { opening := "    public ApiResponse ", closing := " throws IOException \x7b" }

theorem plain_opening (p : ClientPlan) : form.AllPlain (opening p) := by
  have htitle : form.Plain (" * " ++ comment p.title ++ " API client.") := by
    rw [String.append_assoc]
    exact plain_append (apart_ofList rfl (by decide)) (by simp +decide)
  have hdescription : form.Plain (" * <p>" ++ comment p.description) :=
    plain_append (apart_ofList rfl (by decide)) (by simp)
  unfold opening
  split
  all_goals
    simp only [allPlain_append, allPlain_cons, allPlain_nil, htitle, hdescription, and_true]
    and_intros
    all_goals exact plain_ofList rfl (by decide)

theorem plain_documentation (m : MethodPlan) : form.AllPlain (documentation m) := by
  unfold documentation
  simp only [allPlain_cons, allPlain_nil, and_true]
  refine ⟨?_, plain_append (apart_ofList rfl (by decide)) (by simp), ?_,
    plain_append (apart_ofList rfl (by decide)) (by simp), ?_⟩
  all_goals exact plain_ofList rfl (by decide)

theorem plain_pathLines (h : m.WellNamed) : form.AllPlain (pathLines m) := by
  unfold pathLines
  simp only [allPlain_cons, allPlain_map, String.append_assoc]
  refine ⟨plain_append (apart_ofList rfl (by decide)) ?_, fun a ha => plain_append (apart_ofList rfl (by decide)) ?_⟩
  · simp +decide
  · simp +decide [h.oneLine_pathArgs a ha]

theorem plain_queryLines (h : m.WellNamed) : form.AllPlain (queryLines m) := by
  have hentries : form.AllPlain (m.queryArgs.map queryEntry) := by
    refine allPlain_map.2 fun a ha => ?_
    unfold queryEntry
    simp only [String.append_assoc]
    exact plain_append (apart_ofList rfl (by decide)) (by simp +decide [h.oneLine_queryArgs a ha])
  unfold queryLines
  split
  all_goals
    simp only [allPlain_append, allPlain_cons, allPlain_nil, hentries, and_true]
    and_intros
    all_goals exact plain_ofList rfl (by decide)

theorem plain_encodeLine {b : Payload} (h : OneLine b.argument.ident) : form.Plain (encodeLine b) := by
  unfold encodeLine
  split
  all_goals
    rw [String.append_assoc]
    exact plain_append (apart_ofList rfl (by decide)) (by simp +decide [h])

theorem plain_sendLine (m : MethodPlan) {body : String} (h : OneLine body) : form.Plain (sendLine m body) := by
  unfold sendLine
  simp only [String.append_assoc]
  exact plain_append (apart_ofList rfl (by decide)) (by simp +decide [h])

theorem plain_sendLines (h : m.WellNamed) : form.AllPlain (sendLines m) := by
  unfold sendLines
  split
  · exact allPlain_cons.2 ⟨plain_sendLine m (by decide), allPlain_nil.2 trivial⟩
  · rename_i b hb
    have hident := h.oneLine_body hb
    simp only [allPlain_cons, allPlain_nil, String.append_assoc, and_true]
    refine ⟨plain_ofList rfl (by decide), plain_append (apart_ofList rfl (by decide)) ?_, plain_encodeLine hident,
      plain_append (apart_ofList rfl (by decide)) ?_, plain_ofList rfl (by decide), plain_sendLine m (by decide)⟩
    · simp +decide [hident]
    · simp +decide

theorem isParameter_parameter (h : m.WellNamed) : ∀ a ∈ m.arguments, IsParameter (parameter a) := by
  intro a ha
  unfold parameter
  refine (h.isParameter_ident a ha).append_left ?_
  split <;> decide

/-- A method shows its signature and nothing else. -/
theorem shows_method (h : m.WellNamed) : form.Shows (method m) [m.signature parameter] := by
  have hlines : method m = ("" :: documentation m) ++ signature m :: (pathLines m ++ (queryLines m ++
      ("        Map<String, String> headers = authHandler.getAuthHeaders();" :: (sendLines m ++ ["    \x7d"])))) := by
    simp [method]
  rw [hlines]
  refine shows_among (shows_signatureLine h (isParameter_parameter h) (by decide)) ?_ ?_
  · exact allPlain_cons.2 ⟨plain_ofList rfl (by decide), plain_documentation m⟩
  · simp only [allPlain_append, allPlain_cons, allPlain_nil, plain_pathLines h, plain_queryLines h, plain_sendLines h,
      and_true, true_and]
    and_intros
    all_goals exact plain_ofList rfl (by decide)

theorem plain_closing : form.AllPlain closing := by
  unfold closing
  simp only [allPlain_cons, allPlain_nil, and_true]
  and_intros
  all_goals exact plain_ofList rfl (by decide)

theorem shows_clientFile (h : ∀ m ∈ p.methods, m.WellNamed) :
    form.Shows (clientFile p).lines (p.methods.map (MethodPlan.signature parameter)) := by
  have hmethods := shows_flatMap fun m hm => shows_method (h m hm)
  have hall := ((shows_of_plain (plain_opening p)).append hmethods).append (shows_of_plain plain_closing)
  rwa [List.append_nil] at hall

end Client.Java

/-! ## Clients -/

/-- The path of the file of the client class. -/
def Target.clientPath : Target → String
  | node => "src/ApiClient.js"
  | python => "src/api_client/client.py"
  | go => "client.go"
  | java => "src/main/java/com/example/ApiClient.java"
  | php => "src/ApiClient.php"

/-- The text of the file of the client class. -/
def Target.clientText? (t : Target) (api : Api) : Option String :=
  ((t.generate api).find? (·.path == t.clientPath)).map Artifact.text

/-- The names of the methods with the numbers of their arguments. -/
def ClientPlan.arities (p : ClientPlan) : List (List Char × Nat) :=
  p.methods.map fun m => (m.name.toList, m.arguments.length)

namespace SignatureForm

variable {f : SignatureForm}

/-- The names of the methods whose signatures are in a text, with the numbers of their parameters. -/
def arities (f : SignatureForm) (text : String) : List (List Char × Nat) :=
  (f.signatures text).map fun s => (s.name, s.arity)

/-- A file that shows the signatures of well-named methods gives their names and numbers of arguments. -/
theorem Shows.arities_eq {a : Artifact} {parameter : Argument → String} {p : ClientPlan} {own : List Signature}
    (h : f.Shows a.lines (p.methods.map (MethodPlan.signature parameter) ++ own))
    (hparameter : ∀ m ∈ p.methods, ∀ x ∈ m.arguments, IsParameter (parameter x)) :
    f.arities a.text = p.arities ++ own.map fun s => (s.name, s.arity) := by
  unfold arities ClientPlan.arities
  rw [h.signatures_eq, List.map_append, List.map_map]
  congr 1
  refine List.map_congr_left fun m hm => ?_
  have harity := arity_signature (hparameter m hm)
  exact congrArg (Prod.mk m.name.toList) harity

end SignatureForm

/-- In JavaScript, Go and Java the signatures in the client class are those of the planned methods, which are one
for each endpoint. A client in JavaScript has one of its own besides. -/
theorem signatures_generate (api : Api) :
    (Target.node.clientText? api).map Client.Node.form.arities =
        some ((ClientPlan.ofApi .node api).arities ++ [("testConnection".toList, 0)]) ∧
      (Target.go.clientText? api).map Client.Go.form.arities = some (ClientPlan.ofApi .go api).arities ∧
      (Target.java.clientText? api).map Client.Java.form.arities = some (ClientPlan.ofApi .java api).arities ∧
      ∀ t, (ClientPlan.ofApi t api).methods.map (fun m => (m.verb, m.path)) =
        api.endpoints.map fun e => (e.method, e.path) := by
  have hwell : ∀ t, ∀ m ∈ (ClientPlan.ofApi t api).methods, m.WellNamed := fun t => MethodPlan.wellNamed_ofApi t api
  refine ⟨?_, ?_, ?_, fun t => map_route_methods t api⟩
  · have hfile : Target.node.clientText? api = some (Client.Node.clientFile (.ofApi .node api)).text := rfl
    have harities := (Client.Node.shows_clientFile (hwell .node)).arities_eq fun m hm =>
      (hwell .node m hm).isParameter_ident
    rw [hfile, Option.map_some, harities]
    rfl
  · have hfile : Target.go.clientText? api = some (Client.Go.clientFile (.ofApi .go api)).text := rfl
    have hshows := Client.Go.shows_clientFile (hwell .go)
    rw [← List.append_nil (List.map _ _)] at hshows
    rw [hfile, Option.map_some, hshows.arities_eq fun m hm => Client.Go.isParameter_parameter (hwell .go m hm)]
    exact congrArg some (List.append_nil _)
  · have hfile : Target.java.clientText? api = some (Client.Java.clientFile (.ofApi .java api)).text := rfl
    have hshows := Client.Java.shows_clientFile (hwell .java)
    rw [← List.append_nil (List.map _ _)] at hshows
    rw [hfile, Option.map_some, hshows.arities_eq fun m hm => Client.Java.isParameter_parameter (hwell .java m hm)]
    exact congrArg some (List.append_nil _)

end ClientForge
