import ClientForge.Postman.Reader
import ClientForge.Proofs.Documents
import ClientForge.Proofs.Failures.Basic
import ClientForge.Proofs.Placeholders

/-!
How reading a Postman collection can fail. As with OpenAPI documents, every failure is told, if what the
reading looks into fits (`fits`).
-/

namespace ClientForge.Postman

variable {p : Failure → Prop}

/-! ## Collections of maps -/

/-- The maps among the items of a value. -/
def mapsOf (v : Value) : List Entries :=
  ((v.orElse (.list [])).items.toOption.getD []).filterMap Value.entries?

/-- The maps with a key that is not empty. -/
def keyedOf (v : Value) : List Entries := (mapsOf v).filter fun es => (Entries.get es "key").truthy

theorem failsAs_mapsIn {v : Value} (h : Admits p v.itemsFit) : FailsAs p (mapsIn v) :=
  (Value.failsAs_items_orElse h).bind fun _ _ => .ok _

theorem failsAs_keyedIn {v : Value} (h : Admits p v.itemsFit) : FailsAs p (keyedIn v) :=
  (failsAs_mapsIn h).bind fun _ _ => .ok _

theorem mapsIn_eq_ok {v : Value} {ms : List Entries} (h : mapsIn v = .ok ms) : ms = mapsOf v := by
  obtain ⟨items, hitems, heq⟩ := except_bind_eq_ok.1 h
  cases heq
  rw [mapsOf, hitems]
  rfl

theorem keyedIn_eq_ok {v : Value} {ms : List Entries} (h : keyedIn v = .ok ms) : ms = keyedOf v := by
  obtain ⟨maps, hmaps, heq⟩ := except_bind_eq_ok.1 h
  cases heq
  rw [keyedOf, mapsIn_eq_ok hmaps]

/-! ## Addresses and paths -/

/-- Is the text an address that can be taken apart, or none with a scheme? -/
def addressFits (raw : String) : Bool :=
  let s := afterVariable (Text.upTo '?' raw.toList)
  !Text.occurs "://".toList s || (Url.split? s).isSome

/-- Do the segments of an address fit, or the whole of it where there are none? -/
def segmentsFit (url : Entries) : Bool :=
  match Entries.get url "path" with
  | .text _ => true
  | .null =>
    match (Entries.get url "raw").orElse (.text "") with
    | .text raw => addressFits raw
    | _ => false
  | v => v.hasItems

theorem failsAs_addressPath {raw : String} (h : Admits p (addressFits raw)) :
    FailsAs p (addressPath raw.toList) := by
  simp only [addressPath]
  split
  · rename_i hscheme
    split
    · exact .ok _
    · rename_i hsplit
      exact .error (h.broken (by rw [addressFits, hscheme, hsplit]; rfl) _)
  · exact .ok _

theorem failsAs_path {url : Entries} (h : Admits p (segmentsFit url)) : FailsAs p (path url) := by
  refine FailsAs.bind ?_ fun _ _ => .ok _
  unfold segmentsFit at h
  unfold segments
  generalize Entries.get url "path" = path at h ⊢
  cases path with
  | text s => exact .ok _
  | null =>
    simp only at h ⊢
    generalize (Entries.get url "raw").orElse (.text "") = raw at h ⊢
    cases raw with
    | text raw => exact (failsAs_addressPath h).map
    | _ => exact .error (h.broken rfl _)
  | _ => exact Value.failsAs_items h

/-! ## Parameters -/

/-- Are the variables a collection, and their names texts? -/
def variablesFit (places : Value) : Bool :=
  places.itemsFit && (keyedOf places).all fun es => (Entries.get es "key").isAnyText

section

-- inside a request, issues of every kind are told
variable (hissues : ∀ kind ∈ partKinds, ∀ is, p (.invalid kind is))
include hissues

theorem failsAs_pathParams {places : Value} (h : Admits p (variablesFit places)) (path : String) :
    FailsAs p (pathParams places path) := by
  rw [variablesFit, Admits.and_iff] at h
  refine (failsAs_keyedIn h.1).bind fun keyed hkeyed => ?_
  rw [keyedIn_eq_ok hkeyed]
  refine (FailsAs.filterM fun es hes => ?_).bind fun found _ =>
    FailsAs.mapM fun es _ => failsAs_asKind (hissues _ (by decide)) _
  exact (Value.failsAs_asText (h.2.item hes)).bind fun _ _ => .ok _

theorem failsAs_queryParams {query : Value} (h : Admits p query.itemsFit) : FailsAs p (queryParams query) :=
  (failsAs_keyedIn h).bind fun _ _ => FailsAs.mapM fun _ _ => failsAs_asKind (hissues _ (by decide)) _

theorem failsAs_headerParams {headers : Value} (h : Admits p (variablesFit headers)) :
    FailsAs p (headerParams headers) := by
  rw [variablesFit, Admits.and_iff] at h
  refine (failsAs_keyedIn h.1).bind fun keyed hkeyed => ?_
  rw [keyedIn_eq_ok hkeyed]
  refine (FailsAs.filterM fun es hes => ?_).bind fun kept _ =>
    FailsAs.mapM fun es _ => failsAs_asKind (hissues _ (by decide)) _
  have hkey := h.2.item hes
  cases hname : Entries.get es "key" with
  | text s => exact .ok _
  | _ =>
    rw [hname] at hkey
    exact .error (hkey.broken rfl _)

end

/-! ## Payloads -/

/-- Are the fields of a form a collection, and their names keys? -/
def formFits (form : Value) : Bool := form.itemsFit && (keyedOf form).all fun es => (Entries.get es "key").isKey

def bodyFits (v : Value) : Bool := v.entriesFit fun es =>
  match Entries.get es "mode" with
  | .text "raw" => (Entries.get es "raw").textFits
  | .text "urlencoded" => formFits (Entries.get es "urlencoded")
  | .text "formdata" => formFits (Entries.get es "formdata")
  | _ => true

/-- Are the recorded responses a collection, and also their headers? -/
def responsesFit (v : Value) : Bool :=
  v.itemsFit && (mapsOf v).all fun es => (Entries.get es "header").itemsFit

theorem failsAs_fieldMap {value : Entries → Value} {form : List Entries}
    (h : Admits p (form.all fun es => (Entries.get es "key").isKey)) : FailsAs p (fieldMap value form) := by
  refine (FailsAs.foldlM (fun acc es hes => ?_) []).bind fun _ _ => .ok _
  exact (Value.failsAs_checkKey (h.item hes)).bind fun _ _ => .ok _

section

variable (hissues : ∀ kind ∈ partKinds, ∀ is, p (.invalid kind is))
include hissues

theorem failsAs_sampleSketch (sample : Value) : FailsAs p (sampleSketch sample) := by
  unfold sampleSketch
  exact failsAs_asKind (hissues _ (by decide)) _

theorem failsAs_rawBody {es : Entries} (h : Admits p (Entries.get es "raw").textFits) : FailsAs p (rawBody es) := by
  refine (Value.failsAs_entriesOf h _ _).bind fun options _ => ?_
  refine (Value.failsAs_entriesOf h _ _).bind fun options _ => ?_
  refine (Value.failsAs_asText_orElse h _).bind fun raw _ => ?_
  exact (failsAs_sampleSketch hissues _).bind fun _ _ => failsAs_asKind (hissues _ (by decide)) _

theorem failsAs_formBody {form : List Entries} (h : Admits p (form.all fun es => (Entries.get es "key").isKey))
    (mediaType : String) : FailsAs p (formBody form mediaType) := by
  refine (failsAs_fieldMap h).bind fun properties _ => (failsAs_fieldMap h).bind fun sample _ => ?_
  exact (failsAs_asKind (hissues _ (by decide)) _).bind fun _ _ => failsAs_asKind (hissues _ (by decide)) _

theorem failsAs_form {form : Value} (h : Admits p (formFits form)) (mediaType : String) :
    FailsAs p (do return some (← formBody (← keyedIn form) mediaType)) := by
  rw [formFits, Admits.and_iff] at h
  refine (failsAs_keyedIn h.1).bind fun keyed hkeyed => ?_
  rw [keyedIn_eq_ok hkeyed]
  exact (failsAs_formBody hissues h.2 mediaType).bind fun _ _ => .ok _

theorem failsAs_body {v : Value} (h : Admits p (bodyFits v)) : FailsAs p (body v) := by
  refine (Value.failsAs_entriesOf h v _).bind fun es hes => ?_
  have hfields := Value.admits_entriesOf h hes
  split
  · rename_i hmode
    simp only [hmode] at hfields
    exact (failsAs_rawBody hissues hfields).map
  · rename_i hmode
    simp only [hmode] at hfields
    exact failsAs_form hissues hfields _
  · rename_i hmode
    simp only [hmode] at hfields
    exact failsAs_form hissues hfields _
  · exact .ok none

theorem failsAs_response {es : Entries} (h : Admits p (Entries.get es "header").itemsFit) (number : Nat) :
    FailsAs p (response number es) := by
  refine (failsAs_mapsIn h).bind fun headers _ => ?_
  exact (failsAs_sampleSketch hissues _).bind fun _ _ => failsAs_asKind (hissues _ (by decide)) _

theorem failsAs_responses {v : Value} (h : Admits p (responsesFit v)) : FailsAs p (responses v) := by
  rw [responsesFit, Admits.and_iff] at h
  refine (Value.failsAs_items_orElse h.1).bind fun items hitems => ?_
  refine FailsAs.foldlM (fun rs e he => ?_) []
  obtain ⟨item, i⟩ := e
  cases item with
  | map es =>
    have hes : es ∈ mapsOf v := by
      rw [mapsOf, hitems]
      exact List.mem_filterMap.2 ⟨.map es, List.fst_mem_of_mem_zipIdx he, rfl⟩
    exact (failsAs_response hissues (h.2.item hes) _).bind fun _ _ => .ok _
  | _ => exact .ok _

end

/-! ## Authentication -/

/-- Are the settings of a kind of authentication a map, or a collection with keys? -/
def settingsFit (auth : Entries) (kind : String) : Bool :=
  match Entries.get auth kind with
  | .map _ => true
  | v => v.itemsFit && (mapsOf v).all fun es => (Entries.get es "key").isKey

/-- Do the settings for a key fit, if one authenticates requests? -/
def securityFits (v : Value) : Bool :=
  match v with
  | .map es => !(Entries.get es "type").isText "apikey" || settingsFit es "apikey"
  | _ => true

/-- Is also the name of the key a text? -/
def authFits (v : Value) : Bool :=
  securityFits v &&
    match v with
    | .map es =>
      match authSettings es "apikey" with
      | .ok settings => (Entries.get settings "key").textFits
      | .error _ => true
    | _ => true

theorem failsAs_authSettings {auth : Entries} {kind : String} (h : Admits p (settingsFit auth kind)) :
    FailsAs p (authSettings auth kind) := by
  unfold settingsFit at h
  unfold authSettings
  split
  · exact .ok _
  · rename_i hmap
    split at h
    · rename_i es hes
      exact absurd hes (hmap es)
    · rw [Admits.and_iff] at h
      refine (failsAs_mapsIn h.1).bind fun maps hmaps => FailsAs.foldlM (fun acc es hes => ?_) []
      rw [mapsIn_eq_ok hmaps] at hes
      exact (Value.failsAs_checkKey (h.2.item hes)).bind fun _ _ => .ok _

theorem failsAs_security {v : Value} (h : Admits p (securityFits v)) : FailsAs p (security v) := by
  unfold security
  split
  · rename_i es
    split
    · exact .ok _
    · exact .ok _
    · rename_i htype
      simp only [securityFits, htype, Value.isText] at h
      exact (failsAs_authSettings h).bind fun _ _ => .ok _
    · exact .ok _
  · exact .ok _

theorem failsAs_auth {v : Value} (h : Admits p (authFits v)) : FailsAs p (auth v) := by
  obtain ⟨hsecurity, hname⟩ := Admits.and_iff.1 h
  unfold auth
  split
  · rename_i es
    split
    · exact failsAs_described (by decide) rfl (h.mono fun _ => rfl)
    · rename_i htype
      simp only [securityFits, htype, Value.isText] at hsecurity
      refine (failsAs_authSettings hsecurity).bind fun settings hsettings => ?_
      simp only [hsettings] at hname
      exact failsAs_apiKey (Admits.and_iff.2 ⟨h.mono fun _ => rfl, hname⟩)
    · exact failsAs_described (by decide) rfl (h.mono fun _ => rfl)
    · exact failsAs_described (by decide) rfl (h.mono fun _ => rfl)
    · exact .ok _
  · exact .ok _

/-! ## Requests -/

/-- Do the address and the parameters of a request fit? -/
def urlFits (url : Entries) : Bool :=
  segmentsFit url && variablesFit (Entries.get url "variable") && (Entries.get url "query").itemsFit

/-- Do the fields of a request fit? One of an unknown verb is not looked at. -/
def requestFits (r : Request) : Bool :=
  let request := requestFields r.fields
  match Method.ofName? r.verb with
  | some method =>
    (match urlFields request with
      | .ok url => urlFits url
      | .error _ => true) && variablesFit (Entries.get request "header") &&
    securityFits (Entries.get request "auth") && (Entries.get r.fields "name").textFits &&
    (!method.allowsBody || bodyFits (Entries.get request "body")) &&
    responsesFit (Entries.get r.fields "response") && r.folders.all Value.isAnyText
  | none => true

theorem failsAs_urlFields {fits : Bool} (h : Admits p fits) (request : Entries) :
    FailsAs p (urlFields request) := by
  unfold urlFields
  split
  · exact .ok _
  · exact Value.failsAs_entriesOf h _ _

theorem failsAs_folderTags {folders : List Value} (h : Admits p (folders.all Value.isAnyText)) :
    FailsAs p (folderTags folders) := by
  unfold folderTags
  split
  · exact .ok _
  · exact (FailsAs.mapM fun v hv => Value.failsAs_asText (h.item hv)).bind fun _ _ => .ok _

theorem startsWith_path {url : Entries} {s : String} (h : path url = .ok s) : s.startsWith "/" = true := by
  obtain ⟨segments, -, heq⟩ := except_bind_eq_ok.1 h
  cases heq
  simp [String.startsWith_string_iff]

theorem failsAs_endpoint? (hissues : ∀ kind ∈ partKinds, ∀ is, p (.invalid kind is))
    (hmake : ∀ f : EndpointFields, f.Assembled → f.path.startsWith "/" = true →
      ∀ summary described auth asked folders tags, security auth = .ok asked → folderTags folders = .ok tags →
        FailsAs p (Endpoint.make f (.text summary) (.text described) (.list asked) (.list tags)))
    {r : Request} (h : Admits p (requestFits r)) : FailsAs p (endpoint? r).outcome := by
  unfold requestFits at h
  unfold endpoint?
  split
  · rename_i method hmethod
    simp only [hmethod, Admits.and_iff, and_assoc] at h
    obtain ⟨hurl, hheader, hsecurity, hname, hbody, hresponses, hfolders⟩ := h
    refine FailsAs.andThen ?_ fun _ _ => .ok _
    refine (failsAs_urlFields hname _).bind fun url hfields => ?_
    simp only [hfields, urlFits, Admits.and_iff, and_assoc] at hurl
    obtain ⟨hsegments, hvariables, hquery⟩ := hurl
    refine (failsAs_path hsegments).bind fun path hpath => ?_
    refine (failsAs_pathParams hissues hvariables path).bind fun inPath _ => ?_
    refine (failsAs_queryParams hissues hquery).bind fun inQuery _ => ?_
    refine (failsAs_headerParams hissues hheader).bind fun inHeader _ => ?_
    refine (failsAs_security hsecurity).bind fun security hasked => ?_
    refine (Value.failsAs_asText_orElse hname _).bind fun name _ => ?_
    refine FailsAs.bind ?_ fun body _ => ?_
    · unfold bodyFor
      split
      · rename_i hverb
        rw [hverb, Bool.not_true, Bool.false_or] at hbody
        exact failsAs_body hissues hbody
      · exact .ok none
    · refine (failsAs_responses hissues hresponses).bind fun responses _ => ?_
      refine (failsAs_folderTags hfolders).bind fun tags htags => ?_
      refine hmake _ ⟨⟨method, rfl⟩, ?_, ⟨_, rfl⟩⟩ (startsWith_path hpath) _ _ _ _ _ _ hasked htags
      rw [String.toList_ofList]
      exact lowerCamel_derivedIdentifier method _
  · exact FailsAs.andThen (.ok ()) fun _ _ => .ok none

theorem failsAs_endpoints {rs : List Request} (h : Admits p (rs.all requestFits)) :
    FailsAs p (endpoints rs).outcome := by
  induction rs with
  | nil => exact .ok []
  | cons r rs ih =>
    rw [List.all_cons, Admits.and_iff] at h
    refine FailsAs.andThen (FailsAs.within ?_) fun _ _ => FailsAs.andThen (ih h.2) fun _ _ => .ok _
    exact failsAs_endpoint? (fun kind _ => h.1.issues _ kind)
      (fun _ _ _ _ _ _ _ _ _ _ _ => failsAs_asKind (h.1.issues _ _) _) (h.1.within _)

/-! ## Collections -/

/-- Does a collection fit, with all its requests? -/
def collectionFits (collection : Entries) : Bool :=
  (Entries.get collection "info").entriesFit (fun info => (Entries.get info "name").textFits) &&
    (match (Entries.get collection "item").orElse (.list []) with
      | .list items => (requestsOfItems [] items).all requestFits
      | _ => true) &&
    (Entries.get collection "variable").itemsFit && authFits (Entries.get collection "auth")

theorem failsAs_ofCollection {collection : Entries} (h : Admits p (collectionFits collection)) :
    FailsAs p (ofCollection collection).outcome := by
  simp only [collectionFits, Admits.and_iff, and_assoc] at h
  obtain ⟨hinfo, hitems, hvariables, hauth⟩ := h
  refine FailsAs.andThen (Value.failsAs_entriesOf hinfo _ _) fun info hentries => ?_
  split
  · rename_i items heq
    simp only [heq] at hitems
    refine FailsAs.andThen (failsAs_endpoints hitems) fun endpoints _ => ?_
    refine FailsAs.andThen ((failsAs_mapsIn hvariables).bind fun _ _ => ?_) fun url _ => ?_
    · split <;> exact .ok _
    · refine FailsAs.andThen (failsAs_auth hauth) fun auth _ => ?_
      refine FailsAs.andThen (by rw [outcome_renamed]; exact .ok _) fun endpoints _ => ?_
      refine failsAs_make ((Value.admits_entriesOf hinfo hentries).mono fun hfits => ?_)
      rw [Bool.and_eq_true_iff]
      exact ⟨Value.orElse_fits hfits rfl, rfl⟩
  · exact .error (hinfo.refused _)

/-- Does the collection of a text fit, if there is one? -/
def fits (text : String) : Bool :=
  match Json.read text with
  | .ok (.object ms) => collectionFits (Value.ofMembers ms)
  | _ => true

theorem failsAs_read {text : String} (h : Admits p (fits text)) : FailsAs p (read text).outcome := by
  unfold fits at h
  simp only [read]
  split
  · exact .error (h.refused _)
  · split
    · exact .error (h.refused _)
    · rename_i hjson
      rw [hjson] at h
      exact failsAs_ofCollection h
    · exact .error (h.refused _)

end ClientForge.Postman
