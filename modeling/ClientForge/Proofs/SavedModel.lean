import ClientForge.Proofs.Accepted
import ClientForge.Proofs.SavedValue

/-!
Saved models. What is found in the JSON of an API is the API with JSON images of its free values
(`Api.check_found`), and an API is written if all its free values are (`Api.isSome_toJson?`). A model that has
been checked goes together and has no name twice, so it is found as it was if its free values are values that
JSON has and its JSON fits what the reader takes (`read_saved`). Not every such model fits
(`deepModel_not_read_saved`).
-/

namespace ClientForge

open Checked

/-! ## Images -/

/-- Free values under their names, as they are found. -/
def freeImage (ms : List (String × Value)) : List (String × Value) :=
  (ofNamed ms).map fun m => (m.1, m.2.image)

def Sketch.image (s : Sketch) : Sketch :=
  { s with properties := freeImage s.properties, example? := s.example?.image }

def Param.image (p : Param) : Param :=
  { p with example? := p.example?.image, choices := p.choices.map (·.map Value.image) }

def Body.image (b : Body) : Body := { b with sketch := b.sketch.image }

def Response.image (r : Response) : Response := { r with sketch := r.sketch.map Sketch.image }

def Endpoint.image (e : Endpoint) : Endpoint :=
  { e with
    parameters := e.parameters.map Param.image
    body := e.body.map Body.image
    responses := (ofNamed e.responses).map fun r => (r.1, r.2.image)
    security := e.security.map freeImage }

/-- The API with JSON images of its free values. -/
def Api.image (a : Api) : Api := { a with endpoints := a.endpoints.map Endpoint.image }

/-! ## Records -/

/-- An object is found with its members, if their names are apart. -/
theorem record_found {α : Type} (o : Origin) (kind : String) (check : Entries → Checked α)
    {ms : List (String × Json)} (h : (ms.map Prod.fst).Nodup) :
    record o kind check (Json.object ms).found = check (ms.map fun m => (.text m.1, m.2.found)) := by
  rw [Json.found_object_of_nodup h]
  rfl

theorem object_found_ne_null {ms : List (String × Json)} : (Json.object ms).found ≠ .null := by
  rw [Json.found_object]
  simp

theorem free_image {v : Value} {j : Json} (h : v.written? = some j) : free j.found = .ok v.image := by
  rw [Value.image_eq (Value.toJson?_of_written? h)]
  rfl

theorem freeMembers_found (o : Origin) {ms : List (String × Value)} {j : Json} (h : freeMembers ms = some j) :
    object o free j.found = .ok (freeImage ms) :=
  object_found o h fun _ _ _ hj => free_image hj

theorem Sketch.check_found (o : Origin) {s : Sketch} {j : Json} (h : s.toJson? = some j) :
    Sketch.check o j.found = .ok s.image := by
  obtain ⟨properties, hproperties, h⟩ := Option.bind_eq_some_iff.1 h
  obtain ⟨sample, hsample, h⟩ := Option.bind_eq_some_iff.1 h
  cases h
  unfold Sketch.check
  rw [record_found _ _ _ (by simp)]
  unfold plain
  rw [withDefault_found "type" none rfl (optional_text_found s.type),
    withDefault_found "properties" [] rfl (freeMembers_found o hproperties),
    withDefault_found "required" [] rfl (texts_found o s.required),
    withDefault_found "example" .null rfl (free_image hsample)]
  rfl

theorem Location.oneOf_found (l : Location) :
    oneOf (Location.all.map Location.name) Location.ofName? (Json.text l.name).found = .ok l := by
  cases l <;> decide

theorem Param.check_found (o : Origin) {p : Param} {j : Json} (h : p.toJson? = some j) :
    Param.check o j.found = .ok p.image := by
  obtain ⟨sample, hsample, h⟩ := Option.bind_eq_some_iff.1 h
  obtain ⟨choices, hchoices, h⟩ := Option.bind_eq_some_iff.1 h
  cases h
  have hlist : optional (list o free) choices.found = .ok (p.choices.map (·.map Value.image)) := by
    refine optional_found hchoices fun vs _ jvs hjvs => ⟨?_, list_found o hjvs fun _ _ _ hj => free_image hj⟩
    obtain ⟨js, -, rfl⟩ := Option.map_eq_some_iff.1 hjvs
    rw [Json.found_array]
    simp
  unfold Param.check
  rw [record_found _ _ _ (by simp)]
  unfold plain
  rw [needed_found "name" rfl (text_found p.name),
    needed_found "location" rfl (Location.oneOf_found p.location),
    withDefault_found "required" false rfl (truth_found p.required),
    withDefault_found "type" "string" rfl (text_found p.type),
    withDefault_found "description" "" rfl (text_found p.description),
    withDefault_found "example" .null rfl (free_image hsample),
    withDefault_found "format" none rfl (optional_text_found p.format),
    withDefault_found "enum" none rfl hlist]
  rfl

theorem Body.check_found (o : Origin) {b : Body} {j : Json} (h : b.toJson? = some j) :
    Body.check o j.found = .ok b.image := by
  obtain ⟨sketch, hsketch, h⟩ := Option.bind_eq_some_iff.1 h
  cases h
  unfold Body.check
  rw [record_found _ _ _ (by simp)]
  unfold plain
  rw [withDefault_found "required" false rfl (truth_found b.required),
    withDefault_found "media_type" defaultMediaType rfl (text_found b.mediaType),
    withDefault_found "schema_sketch" {} rfl (Sketch.check_found o hsketch)]
  rfl

theorem Sketch.toJson?_ne_null {s : Sketch} {j : Json} (h : s.toJson? = some j) : j.found ≠ .null := by
  obtain ⟨_, -, h⟩ := Option.bind_eq_some_iff.1 h
  obtain ⟨_, -, h⟩ := Option.bind_eq_some_iff.1 h
  cases h
  exact object_found_ne_null

theorem Body.toJson?_ne_null {b : Body} {j : Json} (h : b.toJson? = some j) : j.found ≠ .null := by
  obtain ⟨_, -, h⟩ := Option.bind_eq_some_iff.1 h
  cases h
  exact object_found_ne_null

theorem Response.check_found (o : Origin) {r : Response} {j : Json} (h : r.toJson? = some j) :
    Response.check o j.found = .ok r.image := by
  obtain ⟨sketch, hsketch, h⟩ := Option.bind_eq_some_iff.1 h
  cases h
  have hoptional : optional (Sketch.check o) sketch.found = .ok (r.sketch.map Sketch.image) :=
    optional_found hsketch fun s _ js hjs => ⟨Sketch.toJson?_ne_null hjs, Sketch.check_found o hjs⟩
  unfold Response.check
  rw [record_found _ _ _ (by simp)]
  unfold plain
  rw [withDefault_found "description" "" rfl (text_found r.description),
    withDefault_found "media_type" defaultMediaType rfl (text_found r.mediaType),
    withDefault_found "schema_sketch" none rfl hoptional]
  rfl

/-! ## Authentication -/

theorem keyName_found {name : String} (h : name ≠ "") : keyName (Json.text name).found = .ok name := by
  have hfound : (Json.text name).found = .text name := rfl
  have htruthy : Value.truthy (.text name) = true := by simpa [Value.truthy] using h
  simp [keyName, hfound, Value.orElse, htruthy, text]

theorem KeyPlace.oneOf_found (p : KeyPlace) :
    oneOf (KeyPlace.all.map KeyPlace.name) KeyPlace.ofName? (Json.text p.name).found = .ok p := by
  cases p <;> decide

/-- The entries that are found where members were written. -/
def foundEntries (ms : List (String × Json)) : Entries := ms.map fun m => (.text m.1, m.2.found)

theorem Auth.check_object (o : Origin) (kind : String) {ms : List (String × Json)} {a : Auth}
    (hnames : (ms.map Prod.fst).Nodup) (htype : ms.lookup "type" = some (.text kind))
    (hkind : Scheme.kinds.contains kind = true) (h : Auth.checkKind kind (foundEntries ms) = .ok a) :
    Auth.check o (Json.object ms).found = .ok a := by
  have hget : Entries.get? (foundEntries ms) "type" = some (.text kind) := by
    unfold foundEntries
    rw [get?_found, htype]
    rfl
  have hfound : (Json.object ms).found = .map (foundEntries ms) := Json.found_object_of_nodup hnames
  rw [hfound]
  simp only [Auth.check, hget, hkind, if_true, h]
  rfl

theorem named_found {ms : List (String × Json)} {name : String} {description : Option String}
    (make : String → Scheme) (hname : ms.lookup "name" = some (.text name))
    (hdescription : ms.lookup "description" = some (Json.textOrNull description)) :
    also ((plain "description" none (optional text) (foundEntries ms)).map fun d n => (⟨make n, d⟩ : Auth))
        (plain "name" credentialHeader text (foundEntries ms)) = .ok ⟨make name, description⟩ := by
  unfold plain foundEntries
  rw [withDefault_found "description" none hdescription (optional_text_found description),
    withDefault_found "name" credentialHeader hname (text_found name)]
  rfl

theorem Auth.check_found (o : Origin) {a : Auth} (h : a.HasName) : Auth.check o a.toJson.found = .ok a := by
  obtain ⟨scheme, description⟩ := a
  cases scheme with
  | none =>
    refine Auth.check_object o "none" (by simp) rfl rfl ?_
    show (plain "description" none (optional text) (foundEntries _)).map (fun d => (⟨.none, d⟩ : Auth)) = _
    unfold plain foundEntries
    rw [withDefault_found "description" none rfl (optional_text_found description)]
    rfl
  | bearer name => exact Auth.check_object o "bearer" (by simp) rfl rfl (named_found .bearer rfl rfl)
  | basic name => exact Auth.check_object o "basic" (by simp) rfl rfl (named_found .basic rfl rfl)
  | oauth2 name => exact Auth.check_object o "oauth2" (by simp) rfl rfl (named_found .oauth2 rfl rfl)
  | apiKey name place =>
    refine Auth.check_object o "apiKey" (by simp) rfl rfl ?_
    show also (also ((plain "description" none (optional text) (foundEntries _)).map
      fun d n p => (⟨.apiKey n p, d⟩ : Auth)) (plain "name" defaultKeyHeader keyName (foundEntries _)))
      (withDefault "in" "location" .header (oneOf (KeyPlace.all.map KeyPlace.name) KeyPlace.ofName?)
        (foundEntries _)) = _
    unfold plain foundEntries
    rw [withDefault_found "description" none rfl (optional_text_found description),
      withDefault_found "name" defaultKeyHeader rfl (keyName_found (h name place rfl)),
      withDefault_found "location" .header rfl (KeyPlace.oneOf_found place)]
    rfl

/-! ## Endpoints -/

theorem verb_found (m : Method) : verb (Json.text m.name).found = .ok m.name := by
  cases m <;> decide

/-- Images do not change what an endpoint is checked for. -/
theorem fault?_image (method path operationId : String) (params : List Param) :
    Endpoint.fault? method path operationId (params.map Param.image) =
      Endpoint.fault? method path operationId params := by
  have hdeclared : ((params.map Param.image).filter (·.location == .path)).map (·.name) =
      (params.filter (·.location == .path)).map (·.name) := by
    rw [List.filter_map, List.map_map]
    rfl
  unfold Endpoint.fault?
  rw [hdeclared]

theorem Endpoint.check_found (o : Origin) {e : Endpoint} {j : Json} (he : e.Consistent)
    (h : e.toJson? = some j) : Endpoint.check o j.found = .ok e.image := by
  obtain ⟨params, hparams, h⟩ := Option.bind_eq_some_iff.1 h
  obtain ⟨body, hbody, h⟩ := Option.bind_eq_some_iff.1 h
  obtain ⟨responses, hresponses, h⟩ := Option.bind_eq_some_iff.1 h
  obtain ⟨security, hsecurity, h⟩ := Option.bind_eq_some_iff.1 h
  cases h
  have hparams' : list o (Param.check o) params.found = .ok (e.parameters.map Param.image) :=
    list_found o hparams fun _ _ _ hj => Param.check_found o hj
  have hbody' : optional (Body.check o) body.found = .ok (e.body.map Body.image) :=
    optional_found hbody fun _ _ _ hj => ⟨Body.toJson?_ne_null hj, Body.check_found o hj⟩
  have hresponses' : object o (Response.check o) responses.found =
      .ok ((ofNamed e.responses).map fun r => (r.1, r.2.image)) :=
    object_found o hresponses fun _ _ _ hj => Response.check_found o hj
  have hsecurity' : list o (object o free) security.found = .ok (e.security.map freeImage) :=
    list_found o hsecurity fun _ _ _ hj => freeMembers_found o hj
  unfold Endpoint.check
  rw [record_found _ _ _ (by simp)]
  unfold plain
  rw [needed_found "method" rfl (verb_found e.method),
    needed_found "path" rfl (text_found e.path),
    needed_found "operation_id" rfl (text_found e.operationId),
    withDefault_found "summary" "" rfl (text_found e.summary),
    withDefault_found "description" "" rfl (text_found e.description),
    withDefault_found "parameters" [] rfl hparams',
    withDefault_found "request_body" none rfl hbody',
    withDefault_found "responses" [] rfl hresponses',
    withDefault_found "security" [] rfl hsecurity',
    withDefault_found "tags" [] rfl (texts_found o e.tags)]
  exact endpoint_eq_ok.2 ⟨e.method, (fault?_image _ _ _ _).trans he, rfl, rfl⟩

/-! ## The whole -/

/-- What is found in the JSON of an API is its image. -/
theorem Api.check_found (o : Origin) {a : Api} {j : Json} (ha : a.Consistent) (h : a.toJson? = some j) :
    Api.check o j.found = .ok a.image := by
  obtain ⟨endpoints, hendpoints, h⟩ := Option.bind_eq_some_iff.1 h
  cases h
  have hendpoints' : list o (Endpoint.check o) endpoints.found = .ok (a.endpoints.map Endpoint.image) :=
    list_found o hendpoints fun e he _ hj => Endpoint.check_found o (ha.endpoints e he) hj
  unfold Api.check
  rw [record_found _ _ _ (by simp)]
  unfold plain
  rw [withDefault_found "base_url" "" rfl (text_found a.baseUrl),
    withDefault_found "auth_method" {} rfl (Auth.check_found o ha.auth),
    withDefault_found "title" "API" rfl (text_found a.title),
    withDefault_found "version" "1.0.0" rfl (text_found a.version),
    withDefault_found "description" "" rfl (text_found a.description),
    withDefault_found "endpoints" [] rfl hendpoints']
  rfl

/-- The text of a saved model is read as the image of the API if the JSON fits, and refused if it does
not. -/
theorem Api.read_write (l : Json.Layout) {a : Api} {j : Json} (ha : a.Consistent) (h : a.toJson? = some j) :
    (j.fits savedLevels = true → Api.read (.ofList (j.write l 0)) = .ok a.image) ∧
      (j.fits savedLevels = false → Api.read (.ofList (j.write l 0)) = complain .notJson) := by
  obtain ⟨hread, hrefuse⟩ := Json.readWithin_write l savedLevels j
  constructor
  · intro hfits
    unfold Api.read
    rw [hread hfits]
    exact Api.check_found .saved ha h
  · intro hfits
    obtain ⟨e, he⟩ := hrefuse hfits
    unfold Api.read
    rw [he]

/-! ## Which models are written -/

def Sketch.freeValues (s : Sketch) : List Value := s.example? :: s.properties.map Prod.snd

def Param.freeValues (p : Param) : List Value := p.example? :: p.choices.getD []

def Endpoint.freeValues (e : Endpoint) : List Value :=
  e.parameters.flatMap Param.freeValues ++ e.body.toList.flatMap (·.sketch.freeValues) ++
    e.responses.flatMap (·.2.sketch.toList.flatMap Sketch.freeValues) ++
    e.security.flatMap (·.map Prod.snd)

/-- The values in an API that nothing is asked of: examples, choices, properties, and what security
requires. -/
def Api.freeValues (a : Api) : List Value := a.endpoints.flatMap Endpoint.freeValues

/-- Are all of some values written? -/
def AllWritten (vs : List Value) : Prop := ∀ v ∈ vs, v.written?.isSome = true

theorem allWritten_cons {v : Value} {vs : List Value} :
    AllWritten (v :: vs) ↔ v.written?.isSome = true ∧ AllWritten vs :=
  List.forall_mem_cons

theorem allWritten_append {vs ws : List Value} : AllWritten (vs ++ ws) ↔ AllWritten vs ∧ AllWritten ws :=
  List.forall_mem_append

theorem allWritten_flatMap {α : Type} {f : α → List Value} {xs : List α} :
    AllWritten (xs.flatMap f) ↔ ∀ x ∈ xs, AllWritten (f x) :=
  List.forall_mem_flatMap

theorem isSome_mapM {α β : Type} {f : α → Option β} {xs : List α} :
    (xs.mapM f).isSome = true ↔ ∀ x ∈ xs, (f x).isSome = true := by
  induction xs with
  | nil => simp
  | cons x xs ih =>
    rw [List.mapM_cons, List.forall_mem_cons, ← ih]
    cases f x <;> cases xs.mapM f <;> simp

theorem isSome_items? {α : Type} {f : α → Option Json} {xs : List α} :
    (Json.items? f xs).isSome = true ↔ ∀ x ∈ xs, (f x).isSome = true := by
  rw [Json.items?, Option.isSome_map, isSome_mapM]

theorem isSome_members? {α : Type} {f : α → Option Json} {ms : List (String × α)} :
    (Json.members? f ms).isSome = true ↔ ∀ m ∈ ms, (f m.2).isSome = true := by
  rw [Json.members?, Option.isSome_map, isSome_mapM]
  simp only [Option.isSome_map]

theorem isSome_orNull {α : Type} {f : α → Option Json} {x : Option α} :
    (Json.orNull f x).isSome = true ↔ ∀ a ∈ x, (f a).isSome = true := by
  cases x <;> simp [Json.orNull]

theorem isSome_freeMembers {ms : List (String × Value)} :
    (freeMembers ms).isSome = true ↔ AllWritten (ms.map Prod.snd) := by
  rw [freeMembers, isSome_members?, AllWritten, List.forall_mem_map]

theorem Sketch.isSome_toJson? {s : Sketch} : s.toJson?.isSome = true ↔ AllWritten s.freeValues := by
  rw [freeValues, allWritten_cons, ← isSome_freeMembers, toJson?]
  cases freeMembers s.properties <;> cases s.example?.written? <;> simp

theorem Param.isSome_toJson? {p : Param} : p.toJson?.isSome = true ↔ AllWritten p.freeValues := by
  have hchoices : (Json.orNull (Json.items? Value.written?) p.choices).isSome = true ↔
      AllWritten (p.choices.getD []) := by
    rw [isSome_orNull]
    cases p.choices <;> simp [isSome_items?, AllWritten]
  rw [freeValues, allWritten_cons, ← hchoices, toJson?]
  cases p.example?.written? <;> cases Json.orNull (Json.items? Value.written?) p.choices <;> simp

theorem Body.isSome_toJson? {b : Body} : b.toJson?.isSome = true ↔ AllWritten b.sketch.freeValues := by
  rw [← Sketch.isSome_toJson?, toJson?]
  cases b.sketch.toJson? <;> simp

theorem Response.isSome_toJson? {r : Response} :
    r.toJson?.isSome = true ↔ AllWritten (r.sketch.toList.flatMap Sketch.freeValues) := by
  have hsketch : (Json.orNull Sketch.toJson? r.sketch).isSome = true ↔
      AllWritten (r.sketch.toList.flatMap Sketch.freeValues) := by
    rw [isSome_orNull, allWritten_flatMap]
    simp only [Sketch.isSome_toJson?, Option.mem_toList, Option.mem_def]
  rw [← hsketch, toJson?]
  cases Json.orNull Sketch.toJson? r.sketch <;> simp

theorem Endpoint.isSome_toJson? {e : Endpoint} : e.toJson?.isSome = true ↔ AllWritten e.freeValues := by
  have hparams : (Json.items? Param.toJson? e.parameters).isSome = true ↔
      AllWritten (e.parameters.flatMap Param.freeValues) := by
    rw [isSome_items?, allWritten_flatMap]
    simp only [Param.isSome_toJson?]
  have hbody : (Json.orNull Body.toJson? e.body).isSome = true ↔
      AllWritten (e.body.toList.flatMap (·.sketch.freeValues)) := by
    rw [isSome_orNull, allWritten_flatMap]
    simp only [Body.isSome_toJson?, Option.mem_toList, Option.mem_def]
  have hresponses : (Json.members? Response.toJson? e.responses).isSome = true ↔
      AllWritten (e.responses.flatMap (·.2.sketch.toList.flatMap Sketch.freeValues)) := by
    rw [isSome_members?, allWritten_flatMap]
    simp only [Response.isSome_toJson?]
  have hsecurity : (Json.items? freeMembers e.security).isSome = true ↔
      AllWritten (e.security.flatMap (·.map Prod.snd)) := by
    rw [isSome_items?, allWritten_flatMap]
    simp only [isSome_freeMembers]
  rw [freeValues, allWritten_append, allWritten_append, allWritten_append, ← hparams, ← hbody, ← hresponses,
    ← hsecurity, toJson?]
  cases Json.items? Param.toJson? e.parameters <;> cases Json.orNull Body.toJson? e.body <;>
    cases Json.members? Response.toJson? e.responses <;> cases Json.items? freeMembers e.security <;> simp

/-- An API is written if all its free values are. -/
theorem Api.isSome_toJson? {a : Api} : a.toJson?.isSome = true ↔ AllWritten a.freeValues := by
  have hendpoints : (Json.items? Endpoint.toJson? a.endpoints).isSome = true ↔ AllWritten a.freeValues := by
    rw [isSome_items?, freeValues, allWritten_flatMap]
    simp only [Endpoint.isSome_toJson?]
  rw [← hendpoints, toJson?]
  cases Json.items? Endpoint.toJson? a.endpoints <;> simp

/-! ## Models whose free values JSON has -/

/-- Are all values ones that JSON has? -/
def AllPlain (vs : List Value) : Prop := ∀ v ∈ vs, v.isPlain = true

theorem map_eq_self {α : Type} {f : α → α} {xs : List α} (h : ∀ x ∈ xs, f x = x) : xs.map f = xs :=
  (List.map_congr_left h).trans (List.map_id xs)

theorem option_map_eq_self {α : Type} {f : α → α} {x : Option α} (h : ∀ a ∈ x, f a = a) : x.map f = x := by
  cases x with
  | none => rfl
  | some a => rw [Option.map_some, h a rfl]

theorem map_image_eq_self {vs : List Value} (h : AllPlain vs) : vs.map Value.image = vs :=
  map_eq_self fun v hv => Value.image_of_isPlain (h v hv)

theorem freeImage_eq_self {ms : List (String × Value)} (hnames : (ms.map Prod.fst).Nodup)
    (h : AllPlain (ms.map Prod.snd)) : freeImage ms = ms := by
  unfold freeImage
  rw [ofNamed_eq_self hnames]
  exact map_eq_self fun m hm => by rw [Value.image_of_isPlain (h m.2 (List.mem_map_of_mem hm))]

theorem Sketch.image_eq_self {s : Sketch} (hnames : s.NamesApart) (h : AllPlain s.freeValues) : s.image = s := by
  have hsample : s.example?.isPlain = true := h _ List.mem_cons_self
  have hproperties : AllPlain (s.properties.map Prod.snd) := fun v hv => h v (List.mem_cons_of_mem _ hv)
  unfold image
  rw [freeImage_eq_self hnames hproperties, Value.image_of_isPlain hsample]

theorem Param.image_eq_self {p : Param} (h : AllPlain p.freeValues) : p.image = p := by
  have hsample : p.example?.isPlain = true := h _ List.mem_cons_self
  have hchoices : ∀ vs ∈ p.choices, vs.map Value.image = vs := by
    intro vs hvs
    refine map_image_eq_self fun v hv => h v (List.mem_cons_of_mem _ ?_)
    rw [Option.mem_def.1 hvs]
    exact hv
  unfold image
  rw [option_map_eq_self hchoices, Value.image_of_isPlain hsample]

theorem Body.image_eq_self {b : Body} (hnames : b.sketch.NamesApart) (h : AllPlain b.sketch.freeValues) :
    b.image = b := by
  unfold image
  rw [Sketch.image_eq_self hnames h]

theorem Response.image_eq_self {r : Response} (hnames : ∀ s ∈ r.sketch, s.NamesApart)
    (h : AllPlain (r.sketch.toList.flatMap Sketch.freeValues)) : r.image = r := by
  have hsketch : ∀ s ∈ r.sketch, s.image = s := by
    intro s hs
    exact Sketch.image_eq_self (hnames s hs) fun v hv =>
      h v (List.mem_flatMap.2 ⟨s, Option.mem_toList.2 hs, hv⟩)
  unfold image
  rw [option_map_eq_self hsketch]

theorem Endpoint.image_eq_self {e : Endpoint} (hnames : e.NamesApart) (h : AllPlain e.freeValues) :
    e.image = e := by
  simp only [AllPlain, freeValues, List.forall_mem_append, List.forall_mem_flatMap] at h
  obtain ⟨⟨⟨hparams, hbody⟩, hresponses⟩, hsecurity⟩ := h
  have hbodySame : ∀ b ∈ e.body, b.image = b := fun b hb =>
    Body.image_eq_self (hnames.body b hb) (hbody b (Option.mem_toList.2 hb))
  have hresponsesSame : (ofNamed e.responses).map (fun r => (r.1, r.2.image)) = e.responses := by
    rw [ofNamed_eq_self hnames.responses]
    refine map_eq_self fun r hr => ?_
    rw [Response.image_eq_self (hnames.sketches r hr) (List.forall_mem_flatMap.2 (hresponses r hr))]
  unfold image
  rw [map_eq_self fun p hp => Param.image_eq_self (hparams p hp), option_map_eq_self hbodySame, hresponsesSame,
    map_eq_self fun ms hms => freeImage_eq_self (hnames.security ms hms) (hsecurity ms hms)]

/-- Saving changes no free value that JSON has. -/
theorem Api.image_eq_self {a : Api} (hnames : ∀ e ∈ a.endpoints, e.NamesApart) (h : AllPlain a.freeValues) :
    a.image = a := by
  unfold image
  rw [map_eq_self fun e he => Endpoint.image_eq_self (hnames e he) (List.forall_mem_flatMap.1 h e he)]

/-- A value that JSON has is written if it is not too deep. -/
theorem Value.isSome_written? {v : Value} (h : v.isPlain = true) :
    v.written?.isSome = true ↔ v.levels ≤ writableLevels := by
  obtain ⟨j, hj, -⟩ := found_of_isPlain v h
  simp [written?, hj]

/-- An accepted model whose free values are all values that JSON has is written exactly if none of them is too
deep. What is read back is the same model, in either layout, if the JSON fits what the reader takes. If it does
not, the text is refused. -/
theorem read_saved {o : Origin} {v : Value} {a : Api} (haccepted : Api.check o v = .ok a)
    (hplain : ∀ x ∈ a.freeValues, x.isPlain = true) :
    (a.toJson?.isSome = true ↔ ∀ x ∈ a.freeValues, x.levels ≤ Value.writableLevels) ∧
      ∀ j, a.toJson? = some j → ∀ l : Json.Layout,
        (j.fits savedLevels = true → Api.read (.ofList (j.write l 0)) = .ok a) ∧
          (j.fits savedLevels = false → Api.read (.ofList (j.write l 0)) = complain .notJson) := by
  obtain ⟨hconsistent, hnames⟩ := Api.accepted_of_check haccepted
  constructor
  · rw [Api.isSome_toJson?]
    exact forall₂_congr fun x hx => Value.isSome_written? (hplain x hx)
  · intro j hj l
    have hread := Api.read_write l hconsistent hj
    rwa [Api.image_eq_self hnames hplain] at hread

/-- A model as data, with values of several kinds where nothing is asked of them. -/
def sampleModel : Value :=
  .map [(.text "endpoints", .list [.map [
    (.text "method", .text "get"),
    (.text "path", .text "/pets/\x7bid\x7d"),
    (.text "operationId", .text "showPet"),
    (.text "parameters", .list [.map [
      (.text "name", .text "id"),
      (.text "location", .text "path"),
      (.text "example", .map [
        (.text "tag", .list [.null, .bool true, .int (-12)]), (.text "", .float ⟨0x3FF8000000000000⟩)]),
      (.text "enum", .list [])]]),
    (.text "responses", .map [(.text "200", .map [(.text "schema", .map [(.text "example", .text "\n\"")])])]),
    (.text "security", .list [.map [(.text "key", .list [])]])]])]

theorem read_saved_sampleModel : ∃ a, Api.check .document sampleModel = .ok a ∧
    (∀ x ∈ a.freeValues, x.isPlain = true) ∧
    ∃ j, a.toJson? = some j ∧ ∀ l : Json.Layout, Api.read (.ofList (j.write l 0)) = .ok a := by
  have hmodel : (Api.check .document sampleModel).toOption.map (fun a =>
      (a.freeValues.all Value.isPlain, a.toJson?.map (·.fits savedLevels))) = some (true, some true) := by
    decide +kernel
  cases hcheck : Api.check .document sampleModel with
  | error is =>
    rw [hcheck] at hmodel
    cases hmodel
  | ok a =>
    rw [hcheck] at hmodel
    obtain ⟨hplain, hfits⟩ := Prod.mk.inj (Option.some.inj hmodel)
    have hall : ∀ x ∈ a.freeValues, x.isPlain = true := List.all_eq_true.1 hplain
    obtain ⟨j, hj, hfits⟩ := Option.map_eq_some_iff.1 hfits
    obtain ⟨-, hread⟩ := read_saved hcheck hall
    exact ⟨a, rfl, hall, j, hj, fun l => (hread j hj l).1 hfits⟩

/-! ## Models that do not fit -/

/-- Lists in lists. -/
def nested : Nat → Value
  | 0 => .null
  | n + 1 => .list [nested n]

/-- A model with an example that nests too deep to be read back. -/
def deepModel : Api := {
  endpoints := [{
    method := .get
    path := "/"
    operationId := "list"
    parameters := [{ name := "page", location := .query, example? := nested 210 }] }] }

theorem consistent_deepModel : deepModel.Consistent where
  auth := by
    intro name place hscheme
    cases hscheme
  endpoints := by
    intro e he
    rw [List.mem_singleton.1 he]
    unfold Endpoint.Consistent
    decide +kernel

/-- An accepted model of plain values need not be read back. -/
theorem deepModel_not_read_saved :
    ¬ ∀ (o : Origin) (v : Value) (a : Api), Api.check o v = .ok a → (∀ x ∈ a.freeValues, x.isPlain = true) →
      ∃ j, a.toJson? = some j ∧ Api.read (Json.compactText j) = .ok a := by
  intro hall
  have hplain : ∀ x ∈ deepModel.freeValues, x.isPlain = true := List.all_eq_true.1 (by decide +kernel)
  have hnames : ∀ e ∈ deepModel.endpoints, e.NamesApart := by
    intro e he
    rw [List.mem_singleton.1 he]
    exact ⟨by simp, by simp, by simp, by simp⟩
  have hfits : (deepModel.toJson?).map (·.fits savedLevels) = some false := by decide +kernel
  obtain ⟨j, hj, hfits⟩ := Option.map_eq_some_iff.1 hfits
  have hcheck := Api.check_found .document consistent_deepModel hj
  rw [Api.image_eq_self hnames hplain] at hcheck
  obtain ⟨k, hk, hread⟩ := hall .document j.found deepModel hcheck hplain
  rw [hj] at hk
  cases hk
  have hrefused := (Api.read_write .compact consistent_deepModel hj).2 hfits
  rw [Json.compactText, hrefused] at hread
  cases hread

end ClientForge
