import ClientForge.Proofs.Documents
import ClientForge.Proofs.Entries
import ClientForge.Proofs.Failures.References
import ClientForge.Proofs.Placeholders

/-!
How reading an OpenAPI document can fail. What the reading looks into has to fit: collections where items
are taken, texts where characters are looked at. In a document that fits (`fits`) every failure is told.
-/

namespace ClientForge.OpenApi

variable {p : Failure → Prop}

/-! ## Payloads -/

/-- Are the names of required properties a collection? -/
def schemaFits (schema : Value) : Bool := schema.entriesFit fun es => (Entries.get es "required").itemsFit

/-- Does the first media type fit, can it be displayed? -/
def contentFits (content : Value) : Bool := content.entriesFit fun es =>
  let first := es.head?.getD (.text defaultMediaType, .null)
  first.1.isShort && first.2.entriesFit fun media => schemaFits (Entries.get media "schema")

def bodyFits (v : Value) : Bool := v.entriesFit fun es => contentFits (Entries.get es "content")

def responseFits (produces v : Value) : Bool := v.entriesFit fun es =>
  if Entries.has es "content" then contentFits (Entries.get es "content")
  else produces.firstFits && schemaFits (Entries.get es "schema")

def responsesFit (produces v : Value) : Bool := v.entriesFit fun es =>
  es.all fun e => e.1.isShort && responseFits produces e.2

theorem failsAs_firstMedia {content : Value} (h : Admits p (contentFits content)) (part mediaPart : String) :
    FailsAs p (firstMedia content part mediaPart) := by
  refine (Value.failsAs_entriesOf h content _).bind fun es hes => ?_
  have hfirst := Value.admits_entriesOf h hes
  rw [Admits.and_iff] at hfirst
  refine (Value.failsAs_shown hfirst.1).bind fun shown _ => ?_
  exact (Value.failsAs_entriesOf h _ _).bind fun _ _ => .ok _

theorem admits_firstMedia {content : Value} {part mediaPart : String} {media : Value × Entries}
    (h : Admits p (contentFits content)) (hmedia : firstMedia content part mediaPart = .ok media) :
    Admits p (schemaFits (Entries.get media.2 "schema")) := by
  obtain ⟨es, hes, hmedia⟩ := except_bind_eq_ok.1 hmedia
  obtain ⟨shown, -, hmedia⟩ := except_bind_eq_ok.1 hmedia
  obtain ⟨fields, hfields, hmedia⟩ := except_bind_eq_ok.1 hmedia
  cases hmedia
  exact Value.admits_entriesOf (Admits.and_iff.1 (Value.admits_entriesOf h hes)).2 hfields

section

-- inside an operation, issues of every kind are told
variable (hissues : ∀ kind ∈ partKinds, ∀ is, p (.invalid kind is))
include hissues

theorem failsAs_sketch {schema : Value} (h : Admits p (schemaFits schema)) (example' : Value) :
    FailsAs p (sketch schema example') := by
  refine (Value.failsAs_entriesOf h schema _).bind fun es hes => ?_
  refine (Value.failsAs_items_orElse (Value.admits_entriesOf h hes)).bind fun required _ => ?_
  exact failsAs_asKind (hissues _ (by decide)) _

theorem failsAs_body {v : Value} (h : Admits p (bodyFits v)) : FailsAs p (body v) := by
  refine (Value.failsAs_entriesOf h v _).bind fun es hes => ?_
  split
  · exact .ok none
  · have hcontent := Value.admits_entriesOf h hes
    refine (failsAs_firstMedia hcontent _ _).bind fun media hmedia => ?_
    refine (failsAs_sketch hissues (admits_firstMedia hcontent hmedia) _).bind fun sketch _ => ?_
    exact (failsAs_asKind (hissues _ (by decide)) _).bind fun _ _ => .ok _

theorem failsAs_formBody (form : List Declaration) : FailsAs p (formBody form) :=
  (failsAs_asKind (hissues _ (by decide)) _).bind fun _ _ => failsAs_asKind (hissues _ (by decide)) _

theorem failsAs_response {code v produces : Value} (hcode : Admits p code.isShort)
    (h : Admits p (responseFits produces v)) : FailsAs p (response code v produces) := by
  refine (Value.failsAs_shown hcode).bind fun shown _ => ?_
  refine (Value.failsAs_entriesOf h v _).bind fun es hes => ?_
  have hfields := Value.admits_entriesOf h hes
  refine FailsAs.bind ?_ fun found hfound => ?_
  · split
    · rename_i hcontent
      rw [if_pos hcontent] at hfields
      exact (failsAs_firstMedia hfields _ _).bind fun _ _ => .ok _
    · rename_i hcontent
      rw [if_neg hcontent, Admits.and_iff] at hfields
      exact (Value.failsAs_firstOr hfields.1).bind fun _ _ => .ok _
  · have hschema : Admits p (schemaFits found.2.1) := by
      split at hfound
      · rename_i hcontent
        rw [if_pos hcontent] at hfields
        obtain ⟨media, hmedia, heq⟩ := except_bind_eq_ok.1 hfound
        cases heq
        exact admits_firstMedia hfields hmedia
      · rename_i hcontent
        rw [if_neg hcontent, Admits.and_iff] at hfields
        obtain ⟨mediaType, -, heq⟩ := except_bind_eq_ok.1 hfound
        cases heq
        exact hfields.2
    obtain ⟨mediaType, schema, example'⟩ := found
    dsimp only
    split
    · exact (failsAs_sketch hissues hschema _).map.bind fun _ _ => failsAs_asKind (hissues _ (by decide)) _
    · exact failsAs_asKind (hissues _ (by decide)) _

theorem failsAs_responses {v produces : Value} (h : Admits p (responsesFit produces v)) :
    FailsAs p (responses v produces) := by
  refine (Value.failsAs_entriesOf h v _).bind fun es hes => ?_
  have hall := Value.admits_entriesOf h hes
  refine FailsAs.foldlM (fun rs e he => ?_) []
  obtain ⟨hcode, hresponse⟩ := Admits.and_iff.1 (hall.item he)
  exact (failsAs_response hissues hcode hresponse).bind fun _ _ => .ok _

end

/-! ## Declarations of parameters -/

/-- The declarations of a path and of an operation. -/
def declarations (shared own : Value) : List Declaration :=
  (shared.items.toOption.getD [] ++ own.items.toOption.getD []).filterMap Declaration.ofValue?

namespace Declaration

theorem failsAs_merge {shared own : Value} (hshared : Admits p shared.hasItems) (hown : Admits p own.hasItems)
    (hkeys : Admits p ((declarations shared own).all fun d => d.key.isKey)) : FailsAs p (merge shared own) := by
  refine (Value.failsAs_items hshared).bind fun xs hxs => ?_
  refine (Value.failsAs_items hown).bind fun ys hys => ?_
  refine FailsAs.foldlM (fun ds d hd => ?_) []
  refine (Value.failsAs_checkKey (hkeys.item (x := d) ?_)).bind fun _ _ => .ok _
  simpa only [declarations, hxs, hys, Except.toOption, Option.getD_some] using hd

theorem mem_of_addTo {xs ds all : List Declaration} (h : xs.foldlM addTo ds = .ok all) :
    ∀ d ∈ all, d ∈ ds ∨ d ∈ xs := by
  induction xs generalizing ds with
  | nil =>
    cases h
    exact fun d hd => Or.inl hd
  | cons x xs ih =>
    rw [List.foldlM_cons] at h
    obtain ⟨more, hmore, h⟩ := except_bind_eq_ok.1 h
    obtain ⟨_, -, hput⟩ := except_bind_eq_ok.1 hmore
    cases hput
    intro d hd
    rcases ih h d hd with hd | hd
    · rcases mem_putBy hd with rfl | hd
      · exact Or.inr List.mem_cons_self
      · exact Or.inl hd
    · exact Or.inr (List.mem_cons_of_mem x hd)

theorem mem_of_merge {shared own : Value} {ds : List Declaration} (h : merge shared own = .ok ds) :
    ∀ d ∈ ds, d ∈ declarations shared own := by
  obtain ⟨xs, hxs, h⟩ := except_bind_eq_ok.1 h
  obtain ⟨ys, hys, h⟩ := except_bind_eq_ok.1 h
  intro d hd
  have hmem := (mem_of_addTo h d hd).resolve_left List.not_mem_nil
  simpa only [declarations, hxs, hys, Except.toOption, Option.getD_some] using hmem

end Declaration

theorem failsAs_params (hissues : ∀ kind ∈ partKinds, ∀ is, p (.invalid kind is)) (method : Method) (path : String)
    {ds : List Declaration} (h : ∀ d ∈ ds, Admits p d.name.isShort) : FailsAs p (params method path ds).outcome := by
  induction ds with
  | nil => exact .ok []
  | cons d ds ih =>
    have hrest := ih fun e he => h e (List.mem_cons_of_mem d he)
    refine FailsAs.andThen ?_ fun found _ => hrest.andThen fun _ _ => .ok _
    have hname := h d List.mem_cons_self
    unfold Declaration.param?
    split
    · refine FailsAs.andThen (Value.failsAs_described hname) fun shown _ => ?_
      refine FailsAs.andThen (Value.failsAs_entriesOf hname _ _) fun schema _ => ?_
      exact FailsAs.andThen (failsAs_asKind (hissues _ (by decide)) _) fun _ _ => .ok _
    · split <;> exact .ok none

/-! ## Operations -/

namespace Operation

/-- Does what makes the body of a request fit: the field for it, or the parameter that declares it? -/
def bodyFits (o : Operation) (ds : List Declaration) : Bool :=
  match Entries.get? o.fields "requestBody" with
  | some v => OpenApi.bodyFits v
  | none => ds.all fun d =>
    !d.isIn "body" || ((o.ownOrCommon "consumes").firstFits && schemaFits (d.field "schema"))

/-- Do the fields of the operation fit? -/
def fits (o : Operation) : Bool :=
  let own := (o.field "parameters").orElse (.list [])
  let ds := declarations o.shared own
  o.shared.hasItems && own.hasItems && (ds.all fun d => d.key.isKey) && (ds.all (·.name.isShort)) &&
    o.path.isAnyText &&
    (!o.method.allowsBody || o.bodyFits ds) && (o.field "operationId").textFits &&
    responsesFit (o.ownOrCommon "produces") ((o.field "responses").orElse (.map [])) &&
    ((Entries.get? o.fields "security").getD (Entries.get o.doc "security")).itemsFit &&
    (o.field "tags").itemsFit

variable {o : Operation}

theorem failsAs_itemsOf {v : Value} (h : Admits p v.itemsFit) : FailsAs p (itemsOf v) :=
  (Value.failsAs_items_orElse h).bind fun _ _ => .ok _

theorem failsAs_id (h : Admits p (o.field "operationId").textFits) (path : String) : FailsAs p (o.id path) := by
  refine (Value.failsAs_asText_orElse h "").bind fun given _ => ?_
  split <;> exact .ok _

theorem failsAs_operationBody (hissues : ∀ kind ∈ partKinds, ∀ is, p (.invalid kind is)) {all ds : List Declaration}
    (h : Admits p (!o.method.allowsBody || o.bodyFits all)) (hds : ∀ d ∈ ds, d ∈ all) : FailsAs p (o.body ds) := by
  unfold body
  split
  · rename_i hverb
    rw [hverb, Bool.not_true, Bool.false_or] at h
    unfold bodyFits at h
    split
    · rename_i v hv
      rw [hv] at h
      exact failsAs_body hissues h
    · rename_i hnone
      rw [hnone] at h
      unfold declaredBody
      split
      · rename_i d hd
        have hmem := hds d (List.mem_of_find?_eq_some hd)
        have hbody := h.item hmem
        rw [List.find?_some hd, Bool.not_true, Bool.false_or, Admits.and_iff] at hbody
        refine (Value.failsAs_firstOr hbody.1).bind fun mediaType _ => ?_
        refine (failsAs_sketch hissues hbody.2 _).bind fun sketch _ => ?_
        exact (failsAs_asKind (hissues _ (by decide)) _).bind fun _ _ => .ok _
      · split
        · exact .ok none
        · exact (failsAs_formBody hissues _).map
  · exact .ok none

theorem failsAs_endpoint (hissues : ∀ kind ∈ partKinds, ∀ is, p (.invalid kind is))
    (hmake : ∀ f : EndpointFields, f.Assembled → o.path.asText = .ok f.path → ∀ summary description security tags,
      FailsAs p (Endpoint.make f summary description security tags))
    (h : Admits p o.fits) : FailsAs p o.endpoint.outcome := by
  simp only [fits, Admits.and_iff, and_assoc] at h
  obtain ⟨hshared, hown, hkeys, hnames, hpath, hbody, hid, hresponses, hsecurity, htags⟩ := h
  refine FailsAs.andThen (Declaration.failsAs_merge hshared hown hkeys) fun ds hds => ?_
  have hshort : ∀ d ∈ ds, Admits p d.name.isShort := fun d hd => hnames.item (Declaration.mem_of_merge hds d hd)
  refine FailsAs.andThen (failsAs_params hissues _ _ hshort) fun params _ => ?_
  refine FailsAs.andThen (Value.failsAs_asText hpath) fun path hname => ?_
  refine FailsAs.andThen (failsAs_operationBody hissues hbody (Declaration.mem_of_merge hds)) fun body _ => ?_
  refine FailsAs.andThen (failsAs_id hid path) fun id hid => ?_
  refine FailsAs.andThen (failsAs_responses hissues hresponses) fun responses _ => ?_
  refine FailsAs.andThen (failsAs_itemsOf hsecurity) fun security _ => ?_
  refine FailsAs.andThen (failsAs_itemsOf htags) fun tags _ => ?_
  have hcamel : IsLowerCamel id.toList := @lowerCamel_id o path id hid
  refine hmake _ ?_ ?_ _ _ security tags
  · exact ⟨⟨o.method, rfl⟩, hcamel, ⟨params, rfl⟩⟩
  · exact hname

end Operation

/-! ## Paths -/

/-- Can a key of a path be told from a verb? -/
def isVerbKey : Value → Bool
  | .text _ | .bytes _ => true
  | _ => false

/-- Does what a path has under a key fit? -/
def endpointFits (doc : Entries) (path shared key v : Value) : Bool :=
  isVerbKey key &&
    match verb? key with
    | .ok (some method) =>
      path.isShort && v.entries?.all fun fields => Operation.fits { doc, path, shared, method, fields }
    | _ => true

def pathFits (doc : Entries) (path v : Value) : Bool :=
  match v with
  | .map item => item.all fun e =>
    endpointFits doc path ((Entries.get item "parameters").orElse (.list [])) e.1 e.2
  | _ => path.isShort

def pathsFit (doc : Entries) : Bool :=
  match (Entries.get doc "paths").orElse (.map []) with
  | .map paths => paths.all fun e => pathFits doc e.1 e.2
  | _ => true

theorem failsAs_verb? {key : Value} (h : Admits p (isVerbKey key)) : FailsAs p (verb? key) := by
  cases key with
  | text | bytes => exact .ok _
  | _ => exact .error (h.broken rfl _)

/-- The failures of an operation are told with its name. -/
theorem failsAs_endpoint? {doc : Entries} {path shared key v : Value}
    (h : Admits p (endpointFits doc path shared key v)) : FailsAs p (endpoint? doc path shared key v).outcome := by
  rw [endpointFits, Admits.and_iff] at h
  refine FailsAs.andThen (failsAs_verb? h.1) fun verb hverb => ?_
  have hfits := h.2
  rw [show verb? key = .ok verb from hverb] at hfits
  cases verb with
  | none => exact .ok none
  | some method =>
    obtain ⟨hpath, hfields⟩ := Admits.and_iff.1 hfits
    have hname := Value.failsAs_shown hpath
    cases v with
    | map fields =>
      refine FailsAs.andThen (FailsAs.withinShown hname.map.map fun name => ?_) fun _ _ => .ok _
      exact Operation.failsAs_endpoint (fun kind _ => h.1.issues _ kind)
        (fun _ _ _ _ _ _ _ => failsAs_asKind (h.1.issues _ _) _) (hfields.within _)
    | _ => exact FailsAs.andThen hname.map fun _ _ => .error (h.1.refused _)

theorem failsAs_endpointsOfPath {doc item : Entries} {path shared : Value}
    (h : Admits p (item.all fun e => endpointFits doc path shared e.1 e.2)) :
    FailsAs p (endpointsOfPath doc path shared item).outcome := by
  induction item with
  | nil => exact .ok []
  | cons e item ih =>
    rw [List.all_cons, Admits.and_iff] at h
    exact FailsAs.andThen (failsAs_endpoint? h.1) fun _ _ => FailsAs.andThen (ih h.2) fun _ _ => .ok _

theorem failsAs_endpointsOfPaths {doc paths : Entries} (h : Admits p (paths.all fun e => pathFits doc e.1 e.2)) :
    FailsAs p (endpointsOfPaths doc paths).outcome := by
  induction paths with
  | nil => exact .ok []
  | cons e paths ih =>
    obtain ⟨path, v⟩ := e
    rw [List.all_cons, Admits.and_iff] at h
    cases v with
    | map item =>
      refine FailsAs.andThen (failsAs_endpointsOfPath h.1) fun _ _ => ?_
      exact FailsAs.andThen (ih h.2) fun _ _ => .ok _
    | _ => exact FailsAs.andThen (Value.failsAs_shown h.1) fun _ _ => .error (h.1.refused _)

theorem failsAs_endpoints {doc : Entries} (h : Admits p (pathsFit doc)) : FailsAs p (endpoints doc).outcome := by
  unfold pathsFit at h
  unfold endpoints
  split
  · rename_i paths hpaths
    rw [hpaths] at h
    exact failsAs_endpointsOfPaths h
  · exact .error (h.refused _)

/-! ## Servers -/

/-- Is the variable empty, or a map with a default that can be displayed, if it has one? -/
def variableFits (v : Value) : Bool :=
  !v.truthy || v.entries?.any fun es => (Entries.get? es "default").all Value.isShort

/-- Is the address of a server a text, do its variables fit? -/
def serverFits (server : Entries) : Bool :=
  (Entries.get server "url").isAnyText &&
    (Entries.get server "variables").entriesFit fun es => es.all fun e => variableFits e.2

/-- Can the scheme, the host and the path of the address be displayed? -/
def hostFits (doc : Entries) : Bool :=
  !(Entries.get doc "host").truthy ||
    (Entries.get doc "schemes").firstFits && (Entries.get doc "host").isShort &&
      (match (Entries.get doc "schemes").firstOr (.text "https") with
        | .ok scheme => scheme.isShort
        | .error _ => true) &&
      ((Entries.get? doc "basePath").getD (.text "")).isShort

def serversFit (doc : Entries) : Bool :=
  (Entries.get doc "servers").firstFits &&
    match firstServer? doc with
    | .ok (some server) => serverFits server
    | .ok none => hostFits doc
    | .error _ => true

theorem failsAs_partText {defaults : Entries} (h : Admits p (defaults.all fun e => variableFits e.2))
    (part : Text.TemplatePart) : FailsAs p (partText defaults part) := by
  cases part with
  | plain c => exact .ok _
  | name n =>
    have hvariable : Admits p (variableFits (Entries.get defaults (.ofList n))) := by
      unfold Entries.get
      cases hget : Entries.get? defaults (.ofList n) with
      | none => exact ⟨h.told, Or.inl rfl⟩
      | some v => exact h.item (Entries.mem_of_get? hget)
    simp only [partText]
    split
    · exact (FailsAs.ok _).map
    · rename_i htruthy
      rw [variableFits, Bool.eq_false_iff.2 htruthy, Bool.false_or] at hvariable
      split
      · rename_i es hes
        rw [hes] at hvariable
        refine FailsAs.map (Value.failsAs_shown (hvariable.mono fun hfits => ?_))
        have hdefault : (Entries.get? es "default").all Value.isShort = true := hfits
        cases hget : Entries.get? es "default" with
        | none => rfl
        | some v => simpa [hget] using hdefault
      · rename_i hmap
        refine .error (hvariable.broken ?_ _)
        cases hget : Entries.get defaults (.ofList n) with
        | map es => exact absurd hget (hmap es)
        | _ => rfl

theorem failsAs_serverUrl {server : Entries} (h : Admits p (serverFits server)) : FailsAs p (serverUrl server) := by
  rw [serverFits, Admits.and_iff] at h
  refine (Value.failsAs_entriesOf h.2 _ _).bind fun defaults hdefaults => ?_
  refine (Value.failsAs_asText h.1).bind fun url _ => ?_
  have hall := Value.admits_entriesOf h.2 hdefaults
  exact (FailsAs.mapM fun part _ => failsAs_partText hall part).bind fun _ _ => .ok _

theorem failsAs_hostUrl {doc : Entries} (h : Admits p (hostFits doc)) : FailsAs p (hostUrl doc) := by
  simp only [hostUrl]
  split
  · exact .ok _
  · rename_i hhost
    simp only [Bool.not_eq_true] at hhost
    rw [hostFits, hhost, Bool.false_or] at h
    simp only [Admits.and_iff, and_assoc] at h
    obtain ⟨hfirst, hshown, hscheme, hpath⟩ := h
    refine (Value.failsAs_firstOr hfirst).bind fun scheme hfound => ?_
    rw [hfound] at hscheme
    refine (Value.failsAs_shown hscheme).bind fun _ _ => ?_
    refine (Value.failsAs_shown hshown).bind fun _ _ => ?_
    exact (Value.failsAs_shown hpath).bind fun _ _ => .ok _

theorem failsAs_firstServer? {doc : Entries} (h : Admits p (Entries.get doc "servers").firstFits) :
    FailsAs p (firstServer? doc) := by
  simp only [firstServer?]
  split
  · exact .ok none
  · rename_i hservers
    refine (Value.failsAs_first h (by simpa using hservers)).bind fun first _ => ?_
    split
    · split <;> exact .ok _
    · exact .ok none

theorem failsAs_baseUrl {doc : Entries} (h : Admits p (serversFit doc)) : FailsAs p (baseUrl doc) := by
  rw [serversFit, Admits.and_iff] at h
  refine (failsAs_firstServer? h.1).bind fun server hserver => ?_
  have hfits := h.2
  rw [hserver] at hfits
  cases server with
  | some server => exact failsAs_serverUrl hfits
  | none => exact failsAs_hostUrl hfits

/-! ## Security schemes -/

/-- Is the description of a scheme a text, if there is one, and also the name of its key? Can the name of the
scheme be displayed? -/
def schemeFits (scheme : Entries) : Bool :=
  (Entries.get scheme "description").isTextOrNull &&
    (!hasType "apiKey" scheme || (Entries.get scheme "name").textFits) &&
    (!hasType "http" scheme || ((Entries.get? scheme "scheme").getD (.text "")).isShort)

def schemesFit (doc : Entries) : Bool :=
  match securitySchemes doc with
  | .ok schemes => schemes.all schemeFits
  | .error _ => true

theorem failsAs_securitySchemes {fits : Bool} (h : Admits p fits) (doc : Entries) :
    FailsAs p (securitySchemes doc) :=
  (Value.failsAs_entriesOf h _ _).bind fun _ _ => (Value.failsAs_entriesOf h _ _).bind fun _ _ => .ok _

/-- What is found is one of the items. -/
theorem mem_of_findM? {α : Type} {f : α → Except Failure Bool} {xs : List α} {x : α}
    (h : xs.findM? f = .ok (some x)) : x ∈ xs := by
  induction xs with
  | nil => cases h
  | cons y xs ih =>
    obtain ⟨found, -, h⟩ := except_bind_eq_ok.1 h
    cases found with
    | true =>
      cases h
      exact List.mem_cons_self
    | false => exact List.mem_cons_of_mem y (ih h)

theorem failsAs_isHttp {name : String} {scheme : Entries} (h : Admits p (schemeFits scheme)) :
    FailsAs p (isHttp name scheme) := by
  have hshown := (Admits.and_iff.1 h).2
  unfold isHttp
  split
  · exact .ok _
  · rename_i htype
    simp only [Bool.not_eq_true, Bool.not_eq_false'] at htype
    rw [htype, Bool.not_true, Bool.false_or] at hshown
    exact (Value.failsAs_shown hshown).bind fun _ _ => .ok _

theorem failsAs_isBasic {scheme : Entries} (h : Admits p (schemeFits scheme)) : FailsAs p (isBasic scheme) := by
  unfold isBasic
  split
  · exact .ok _
  · exact failsAs_isHttp h

theorem failsAs_auth {doc : Entries} (h : Admits p (schemesFit doc)) : FailsAs p (auth doc) := by
  refine (failsAs_securitySchemes h doc).bind fun schemes hschemes => ?_
  rw [schemesFit, hschemes] at h
  have hdescription : ∀ s ∈ schemes, Admits p (Entries.get s "description").isTextOrNull := fun s hs =>
    (Admits.and_iff.1 (Admits.and_iff.1 (h.item hs)).1).1
  refine (FailsAs.findM? fun s hs => failsAs_isHttp (h.item hs)).bind fun bearer hbearer => ?_
  cases bearer with
  | some s => exact failsAs_described (by decide) rfl (hdescription s (mem_of_findM? hbearer))
  | none =>
    refine (FailsAs.findM? fun s hs => failsAs_isBasic (h.item hs)).bind fun basic hbasic => ?_
    cases basic with
    | some s => exact failsAs_described (by decide) rfl (hdescription s (mem_of_findM? hbasic))
    | none =>
      dsimp only
      split
      · rename_i s hs
        have hfits := (Admits.and_iff.1 (h.item (List.mem_of_find?_eq_some hs))).1
        rw [List.find?_some hs, Bool.not_true, Bool.false_or] at hfits
        exact failsAs_apiKey hfits
      · split
        · rename_i s hs
          exact failsAs_described (by decide) rfl (hdescription s (List.mem_of_find?_eq_some hs))
        · exact .ok _

/-! ## Documents -/

def infoFits (info : Value) : Bool := info.entriesFit fun es =>
  (Entries.get es "title").textFits && (Entries.get es "description").textFits &&
    ((Entries.get es "version").orElse (.text "1.0.0")).isShort

/-- Does a document without references fit? -/
def documentFits (doc : Value) : Bool :=
  match doc with
  | .map es => infoFits (Entries.get es "info") && serversFit es && schemesFit es && pathsFit es
  | _ => false

theorem failsAs_ofDocument {doc : Value} (h : Admits p (documentFits doc)) :
    FailsAs p (ofDocument doc).outcome := by
  cases doc with
  | map es =>
    simp only [documentFits, Admits.and_iff, and_assoc] at h
    obtain ⟨hinfo, hservers, hschemes, hpaths⟩ := h
    refine FailsAs.andThen (.ok _) fun info hget => ?_
    cases hget
    refine FailsAs.andThen (Value.failsAs_entriesOf hinfo _ _) fun info hentries => ?_
    obtain ⟨htexts, hversion⟩ := Admits.and_iff.1 (Value.admits_entriesOf hinfo hentries)
    refine FailsAs.andThen (failsAs_baseUrl hservers) fun url _ => ?_
    refine FailsAs.andThen (failsAs_auth hschemes) fun auth _ => ?_
    refine FailsAs.andThen (Value.failsAs_shown hversion) fun version _ => ?_
    refine FailsAs.andThen (failsAs_endpoints hpaths) fun endpoints _ => ?_
    refine FailsAs.andThen (by rw [outcome_renamed]; exact .ok _) fun endpoints _ => ?_
    refine failsAs_make (htexts.mono fun hfits => ?_)
    rw [Bool.and_eq_true_iff] at hfits ⊢
    exact ⟨Value.orElse_fits hfits.1 rfl, Value.orElse_fits hfits.2 rfl⟩
  | _ => exact FailsAs.andThen (.error (h.broken rfl _)) fun _ h => nomatch h

/-- Is the text JSON, or YAML all of whose scalars stand for values? -/
def scalarsFit (text : String) : Bool :=
  (Document.ofJson? text).isSome ||
    match Yaml.read text with
    | .ok _ => true
    | .error fault => fault == .malformed

/-- Does the document of a text fit, with its references replaced? It must not hold itself. -/
def fits (text : String) : Bool :=
  scalarsFit text &&
    match Document.entries text with
    | .ok doc => !Reference.isEndless (.map doc) && (Reference.refsIn (.map doc)).all Pointer.fits &&
      match (Reference.resolve (.map doc)).outcome with
      | .ok v => documentFits v
      | .error _ => true
    | .error _ => true

theorem failsAs_entries {text : String} (h : Admits p (scalarsFit text)) : FailsAs p (Document.entries text) := by
  refine FailsAs.bind ?_ fun v _ => ?_
  · unfold Document.read
    split
    · exact .ok _
    · rename_i hjson
      rw [scalarsFit, hjson] at h
      unfold Document.ofYaml
      cases hyaml : Yaml.read text with
      | ok v => exact .ok v
      | error fault =>
        rw [hyaml] at h
        refine .error ?_
        cases fault with
        | malformed => exact h.told _ rfl
        | _ => exact h.broken rfl _
  · split
    · exact .ok _
    · exact .error (h.refused _)

theorem failsAs_read {text : String} (h : Admits p (fits text)) : FailsAs p (read text).outcome := by
  obtain ⟨hscalars, hdoc⟩ := Admits.and_iff.1 h
  refine FailsAs.andThen (failsAs_entries hscalars) fun doc hentries => ?_
  rw [show Document.entries text = .ok doc from hentries] at hdoc
  obtain ⟨hends, hresolved⟩ := Admits.and_iff.1 hdoc
  obtain ⟨hends, hrefs⟩ := Admits.and_iff.1 hends
  dsimp only
  split
  · exact .error (h.refused _)
  · split
    · rename_i hendless
      exact .error (hends.broken (by rw [hendless, Bool.not_true]) _)
    · refine FailsAs.andThen (Reference.failsAs_resolve hrefs) fun v hv => ?_
      rw [hv] at hresolved
      exact failsAs_ofDocument hresolved

end ClientForge.OpenApi
