import ClientForge.Proofs.Documents
import ClientForge.Proofs.Json.Reading
import ClientForge.Proofs.Json.RoundTrip
import ClientForge.Proofs.Requests

/-!
The endpoints of a collection are those of its requests with a known verb, in the order of their places
(`endpoints_read`). A folder around requests shows in their endpoints by a tag only, so a collection with the
folder put away has the same endpoints but for their tags.
-/

namespace ClientForge.Postman

open Checked (list text given)

/-! ## Endpoints of requests -/

theorem asText_eq_ok {v : Value} {s : String} : v.asText = .ok s ↔ v = .text s := by
  cases v <;> simp [Value.asText]

/-- The names of folders can be put together if they are texts. -/
theorem mapM_asText_ok {vs : List Value} :
    (∃ ss, vs.mapM Value.asText = .ok ss) ↔ ∀ v ∈ vs, ∃ s, v = .text s := by
  induction vs with
  | nil => exact iff_of_true ⟨[], rfl⟩ (List.forall_mem_nil _)
  | cons v vs ih =>
    rw [List.mapM_cons, List.forall_mem_cons, ← ih]
    constructor
    · rintro ⟨_, h⟩
      obtain ⟨s, hs, h⟩ := except_bind_eq_ok.1 h
      obtain ⟨ss, hss, -⟩ := except_bind_eq_ok.1 h
      exact ⟨⟨s, asText_eq_ok.1 hs⟩, ss, hss⟩
    · rintro ⟨⟨s, rfl⟩, ss, hss⟩
      exact ⟨s :: ss, except_bind_eq_ok.2 ⟨s, rfl, except_bind_eq_ok.2 ⟨ss, hss, rfl⟩⟩⟩

/-- Fewer folders give a tag as well. -/
theorem folderTags_of_sublist {folders folders' tags : List Value} (h : folderTags folders = .ok tags)
    (hsub : folders'.Sublist folders) :
    ∃ tags' ts, folderTags folders' = .ok tags' ∧ list .document text (.list tags') = .ok ts := by
  by_cases hnil : folders'.isEmpty = true
  · refine ⟨[], [], ?_, rfl⟩
    rw [folderTags, if_pos hnil]
    rfl
  · have hne : ¬folders.isEmpty = true := by
      rw [List.isEmpty_iff] at hnil ⊢
      rintro rfl
      exact hnil (List.sublist_nil.1 hsub)
    rw [folderTags, if_neg hne] at h
    obtain ⟨names, hnames, -⟩ := except_bind_eq_ok.1 h
    have htexts := mapM_asText_ok.1 ⟨names, hnames⟩
    obtain ⟨names', hnames'⟩ := mapM_asText_ok.2 fun v hv => htexts v (hsub.subset hv)
    refine ⟨[.text ("/".intercalate names')], ["/".intercalate names'], ?_, rfl⟩
    rw [folderTags, if_neg hnil]
    exact except_bind_eq_ok.2 ⟨names', hnames', rfl⟩

/-- The endpoints are the same but for their tags. -/
def SameButTags (e e' : Endpoint) : Prop := e' = { e with tags := e'.tags }

/-- Other tags that pass change nothing else in what is made. -/
theorem make_of_tags {f : EndpointFields} {summary description security tags tags' : Value} {e : Endpoint}
    {ts : List String} (h : Endpoint.make f summary description security tags = .ok e)
    (htags : list .document text tags' = .ok ts) :
    ∃ e', Endpoint.make f summary description security tags' = .ok e' ∧ SameButTags e e' := by
  unfold Endpoint.make at h ⊢
  rw [asKind_eq_ok] at h
  obtain ⟨g, hg, hend⟩ := except_bind_eq_ok.1 h
  obtain ⟨g₄, _, h₄, -, rfl⟩ := also_eq_ok.1 hg
  obtain ⟨g₃, _, h₃, -, rfl⟩ := also_eq_ok.1 h₄
  obtain ⟨g₂, _, h₂, -, rfl⟩ := also_eq_ok.1 h₃
  obtain ⟨g₁, _, h₁, -, rfl⟩ := also_eq_ok.1 h₂
  cases h₁
  obtain ⟨method, hfault, hmethod, rfl⟩ := endpoint_eq_ok.1 hend
  have hgiven : given "tags" (list .document text) tags' = .ok ts := by rw [given, htags]; rfl
  have hall := also_eq_ok.2 ⟨_, ts, h₄, hgiven, rfl⟩
  exact ⟨_, asKind_eq_ok.2 (except_bind_eq_ok.2 ⟨_, hall,
    endpoint_eq_ok.2 ⟨method, hfault, hmethod, rfl⟩⟩), rfl⟩

theorem requestFields_raised {r r' : Request} (h : Raised r r') :
    requestFields r'.fields = requestFields r.fields := by
  rw [requestFields, requestFields, h.fields "request" (by decide)]

theorem verb_raised {r r' : Request} (h : Raised r r') : r'.verb = r.verb := by
  rw [Request.verb, Request.verb, requestFields_raised h]

theorem endpointWith_raised {r r' : Request} {request : Entries} {method : Method} {e : Endpoint}
    (hr : Raised r r') (h : endpointWith r request method = .ok e) :
    ∃ e', endpointWith r' request method = .ok e' ∧ SameButTags e e' := by
  obtain ⟨url, hurl, h⟩ := except_bind_eq_ok.1 h
  obtain ⟨path, hpath, h⟩ := except_bind_eq_ok.1 h
  obtain ⟨inPath, hinPath, h⟩ := except_bind_eq_ok.1 h
  obtain ⟨inQuery, hinQuery, h⟩ := except_bind_eq_ok.1 h
  obtain ⟨inHeader, hinHeader, h⟩ := except_bind_eq_ok.1 h
  obtain ⟨security, hsecurity, h⟩ := except_bind_eq_ok.1 h
  obtain ⟨name, hname, h⟩ := except_bind_eq_ok.1 h
  obtain ⟨body, hbody, h⟩ := except_bind_eq_ok.1 h
  obtain ⟨rs, hrs, h⟩ := except_bind_eq_ok.1 h
  obtain ⟨tags, htags, h⟩ := except_bind_eq_ok.1 h
  obtain ⟨tags', ts, htags', hts⟩ := folderTags_of_sublist htags hr.folders
  obtain ⟨e', hmake, hsame⟩ := make_of_tags h hts
  refine ⟨e', ?_, hsame⟩
  rw [← hr.fields "name" (by decide)] at hname
  rw [← hr.fields "response" (by decide)] at hrs
  rw [← hr.fields "description" (by decide)] at hmake
  exact except_bind_eq_ok.2 ⟨url, hurl, except_bind_eq_ok.2 ⟨path, hpath, except_bind_eq_ok.2 ⟨inPath, hinPath,
    except_bind_eq_ok.2 ⟨inQuery, hinQuery, except_bind_eq_ok.2 ⟨inHeader, hinHeader, except_bind_eq_ok.2
    ⟨security, hsecurity, except_bind_eq_ok.2 ⟨name, hname, except_bind_eq_ok.2 ⟨body, hbody,
    except_bind_eq_ok.2 ⟨rs, hrs, except_bind_eq_ok.2 ⟨tags', htags', hmake⟩⟩⟩⟩⟩⟩⟩⟩⟩⟩

/-- Does a client know the verb of the request? -/
def Request.isKnown (r : Request) : Bool := (Method.ofName? r.verb).isSome

/-- The endpoint is the one that the request describes. -/
def Describes (r : Request) (e : Endpoint) : Prop :=
  ∃ method, Method.ofName? r.verb = some method ∧ endpointWith r (requestFields r.fields) method = .ok e

theorem endpoint?_eq_ok {r : Request} {found : Option Endpoint} (h : (endpoint? r).outcome = .ok found) :
    (r.isKnown = true ∧ ∃ e, found = some e ∧ Describes r e) ∨ (r.isKnown = false ∧ found = none) := by
  unfold endpoint? at h
  split at h
  · rename_i method hmethod
    obtain ⟨e, he, hsome⟩ := Traced.bind_eq_ok.1 h
    cases hsome
    exact .inl ⟨by rw [Request.isKnown, hmethod]; rfl, e, rfl, method, hmethod, he⟩
  · rename_i hnone
    cases h
    exact .inr ⟨by rw [Request.isKnown, hnone]; rfl, rfl⟩

theorem endpoint?_of_describes {r : Request} {e : Endpoint} (h : Describes r e) :
    (endpoint? r).outcome = .ok (some e) := by
  obtain ⟨method, hmethod, he⟩ := h
  unfold endpoint?
  rw [hmethod]
  exact Traced.bind_eq_ok.2 ⟨e, he, rfl⟩

theorem endpoint?_of_not_isKnown {r : Request} (h : r.isKnown = false) :
    (endpoint? r).outcome = .ok none := by
  have hnone : Method.ofName? r.verb = none := by simpa [Request.isKnown] using h
  unfold endpoint?
  rw [hnone]
  rfl

theorem endpoints_cons_of_isKnown {r : Request} {rs : List Request} {e : Endpoint} {es : List Endpoint}
    (h : Describes r e) (hrs : (endpoints rs).outcome = .ok es) :
    (endpoints (r :: rs)).outcome = .ok (e :: es) :=
  Traced.bind_eq_ok.2 ⟨some e, within_eq_ok.2 (endpoint?_of_describes h), Traced.bind_eq_ok.2 ⟨es, hrs, rfl⟩⟩

theorem endpoints_cons_of_not_isKnown {r : Request} {rs : List Request} {es : List Endpoint}
    (h : r.isKnown = false) (hrs : (endpoints rs).outcome = .ok es) :
    (endpoints (r :: rs)).outcome = .ok es :=
  Traced.bind_eq_ok.2 ⟨none, within_eq_ok.2 (endpoint?_of_not_isKnown h), Traced.bind_eq_ok.2 ⟨es, hrs, rfl⟩⟩

/-- The endpoints are those of the requests whose verbs are known, one of each. -/
theorem endpoints_eq_ok {rs : List Request} {es : List Endpoint} :
    (endpoints rs).outcome = .ok es ↔ List.Forall₂ Describes (rs.filter Request.isKnown) es := by
  induction rs generalizing es with
  | nil =>
    constructor
    · intro h
      cases h
      exact .nil
    · intro h
      cases h
      rfl
  | cons r rs ih =>
    constructor
    · intro h
      obtain ⟨found, hfound, h⟩ := Traced.bind_eq_ok.1 h
      obtain ⟨rest, hrest, h⟩ := Traced.bind_eq_ok.1 h
      cases h
      rcases endpoint?_eq_ok (within_eq_ok.1 hfound) with ⟨hknown, e, rfl, he⟩ | ⟨hunknown, rfl⟩
      · rw [List.filter_cons_of_pos hknown]
        exact .cons he (ih.1 hrest)
      · rw [List.filter_cons_of_neg (by simp [hunknown])]
        exact ih.1 hrest
    · intro h
      by_cases hknown : r.isKnown = true
      · rw [List.filter_cons_of_pos hknown] at h
        cases h with
        | cons he hes => exact endpoints_cons_of_isKnown he (ih.2 hes)
      · rw [List.filter_cons_of_neg hknown] at h
        exact endpoints_cons_of_not_isKnown (by simpa using hknown) (ih.2 h)

/-- Requests with some of the folders around them put away give the same endpoints but for their tags. -/
theorem endpoints_raised {rs rs' : List Request} {es : List Endpoint} (hr : List.Forall₂ Raised rs rs')
    (h : (endpoints rs).outcome = .ok es) :
    ∃ es', (endpoints rs').outcome = .ok es' ∧ List.Forall₂ SameButTags es es' := by
  rw [endpoints_eq_ok] at h
  induction hr generalizing es with
  | nil =>
    cases h
    exact ⟨[], rfl, .nil⟩
  | @cons r r' rs rs' hr hrs ih =>
    by_cases hknown : r.isKnown = true
    · rw [List.filter_cons_of_pos hknown] at h
      cases h with
      | cons he hes =>
        obtain ⟨es', hes', hsame⟩ := ih hes
        obtain ⟨method, hmethod, he⟩ := he
        obtain ⟨e', he', hsame'⟩ := endpointWith_raised hr he
        have hdescribes : Describes r' e' :=
          ⟨method, by rw [verb_raised hr, hmethod], by rw [requestFields_raised hr, he']⟩
        exact ⟨e' :: es', endpoints_cons_of_isKnown hdescribes hes', .cons hsame' hsame⟩
    · rw [List.filter_cons_of_neg hknown] at h
      obtain ⟨es', hes', hsame⟩ := ih h
      have hunknown : r'.isKnown = false := by
        rw [Request.isKnown, verb_raised hr]
        simpa [Request.isKnown] using hknown
      exact ⟨es', endpoints_cons_of_not_isKnown hunknown hes', hsame⟩

/-! ## Renaming -/

/-- The endpoint is the one that the request describes, but for its operation id. -/
def MadeFrom (r : Request) (e : Endpoint) : Prop :=
  ∃ d, Describes r d ∧ e = { d with operationId := e.operationId }

/-- Renaming leaves each endpoint but for its id. -/
theorem madeFrom_withDistinctIds {rs : List Request} {es : List Endpoint} (h : List.Forall₂ Describes rs es) :
    List.Forall₂ MadeFrom rs (Endpoint.withDistinctIds es) := by
  refine forall₂_withDistinctIds (fun r e id hmade => ?_) (h.imp fun r e hr => ⟨e, hr, rfl⟩)
  obtain ⟨d, hd, he⟩ := hmade
  exact ⟨d, hd, by rw [he]⟩

theorem ids_of_sameButTags {es es' : List Endpoint} (h : List.Forall₂ SameButTags es es') :
    es'.map (·.operationId) = es.map (·.operationId) := by
  induction h with
  | nil => rfl
  | cons hsame _ ih => rw [List.map_cons, List.map_cons, ih, hsame]

/-- Endpoints that differ in their tags alone are given the same ids. -/
theorem sameButTags_withDistinctIds {es es' : List Endpoint} (h : List.Forall₂ SameButTags es es') :
    List.Forall₂ SameButTags (Endpoint.withDistinctIds es) (Endpoint.withDistinctIds es') := by
  have hids : es'.map (·.operationId.toList) = es.map (·.operationId.toList) := by
    have hmap := congrArg (List.map String.toList) (ids_of_sameButTags h)
    rwa [List.map_map, List.map_map] at hmap
  have hzip : ∀ ids : List (List Char), List.Forall₂ SameButTags
      (es.zipWith (fun e id => { e with operationId := .ofList id }) ids)
      (es'.zipWith (fun e id => { e with operationId := .ofList id }) ids) := by
    clear hids
    induction h with
    | nil => exact fun _ => .nil
    | @cons e e' es es' hsame _ ih =>
      intro ids
      cases ids with
      | nil => exact .nil
      | cons id ids =>
        refine .cons ?_ (ih ids)
        rw [SameButTags, hsame]
  rw [Endpoint.withDistinctIds, Endpoint.withDistinctIds, hids]
  exact hzip _

/-! ## Collections -/

/-- The collection that a text holds. -/
def collection? (text : String) : Option Entries :=
  match Json.read text with
  | .ok (.object ms) => some (Value.ofMembers ms)
  | _ => none

/-- A text is read by way of its collection. -/
theorem read_eq_ok {text : String} {api : Api} :
    (read text).outcome = .ok api ↔ ∃ c, collection? text = some c ∧ (ofCollection c).outcome = .ok api := by
  cases hread : Json.read text with
  | error e =>
    simp only [read, collection?, hread]
    split <;> simp [Except.bind]
  | ok j =>
    cases j with
    | object ms =>
      have hfull : ¬text.toList.all Text.isBlank = true := by
        intro hblank
        exact absurd (List.all_eq_true.1 hblank _ (Json.brace_mem_of_read_object hread)) (by decide)
      simp only [read, collection?, hread, if_neg hfull]
      simp
    | _ =>
      simp only [read, collection?, hread]
      split <;> simp [Except.bind]

/-- What an API is made of: the items of the collection and what stands beside them. -/
theorem ofCollection_eq_ok {c : Entries} {api : Api} :
    (ofCollection c).outcome = .ok api ↔ ∃ info items es, (Entries.get c "info").entriesOf "info" = .ok info ∧
      (Entries.get c "item").orElse (.list []) = .list items ∧
      (endpoints (requestsOfItems [] items)).outcome = .ok es ∧ ∃ url authWith, baseUrl c = .ok url ∧
      auth (Entries.get c "auth") = .ok authWith ∧
      Api.make url authWith ((Entries.get info "name").orElse (.text "Postman Collection"))
        ((Entries.get info "version").orElse (.text "1.0.0")).display
        (.text (description (Entries.get info "description"))) (Endpoint.withDistinctIds es) = .ok api := by
  constructor
  · intro h
    obtain ⟨info, hinfo, h⟩ := Traced.bind_eq_ok.1 h
    split at h
    · rename_i items hitems
      obtain ⟨es, hes, h⟩ := Traced.bind_eq_ok.1 h
      obtain ⟨url, hurl, h⟩ := Traced.bind_eq_ok.1 h
      obtain ⟨auth, hauth, h⟩ := Traced.bind_eq_ok.1 h
      obtain ⟨new, hnew, h⟩ := Traced.bind_eq_ok.1 h
      rw [outcome_renamed] at hnew
      cases hnew
      exact ⟨info, items, es, hinfo, hitems, hes, url, auth, hurl, hauth, h⟩
    · cases h
  · rintro ⟨info, items, es, hinfo, hitems, hes, url, auth, hurl, hauth, hmake⟩
    refine Traced.bind_eq_ok.2 ⟨info, hinfo, ?_⟩
    simp only [hitems]
    exact Traced.bind_eq_ok.2 ⟨es, hes, Traced.bind_eq_ok.2 ⟨url, hurl, Traced.bind_eq_ok.2 ⟨auth, hauth,
      Traced.bind_eq_ok.2 ⟨_, outcome_renamed es, hmake⟩⟩⟩⟩

/-- A folder at some depth of the collection is replaced by what it holds. -/
def CollectionUnfolds (c c' : Entries) : Prop :=
  ∃ items items', Entries.get c "item" = .list items ∧ Unfolds items items' ∧
    c' = Entries.insert c (.text "item") (.list items')

theorem orElse_list (xs : List Value) : (Value.list xs).orElse (.list []) = .list xs := by
  cases xs <;> rfl

/-- Other endpoints are all that changes in what is made of them. -/
theorem make_of_endpoints {url version : String} {auth : Auth} {title description : Value}
    {es es' : List Endpoint} {api : Api} (h : Api.make url auth title version description es = .ok api) :
    Api.make url auth title version description es' = .ok { api with endpoints := es' } := by
  obtain ⟨g, _, hg, hdescription, rfl⟩ := also_eq_ok.1 (asKind_eq_ok.1 h)
  obtain ⟨_, htitle, rfl⟩ := map_eq_ok.1 hg
  exact asKind_eq_ok.2 (also_eq_ok.2 ⟨_, _, map_eq_ok.2 ⟨_, htitle, rfl⟩, hdescription, rfl⟩)

theorem ofCollection_of_unfolds {c c' : Entries} {api : Api} (hc : CollectionUnfolds c c')
    (h : (ofCollection c).outcome = .ok api) :
    ∃ es', (ofCollection c').outcome = .ok { api with endpoints := es' } ∧
      List.Forall₂ SameButTags api.endpoints es' := by
  obtain ⟨items, items', hitems, hunfolds, rfl⟩ := hc
  obtain ⟨info, items₀, es, hinfo, hheld, hes, url, auth, hurl, hauth, hmake⟩ := ofCollection_eq_ok.1 h
  obtain rfl : items₀ = items := by
    rw [hitems, orElse_list] at hheld
    exact (Value.list.inj hheld).symm
  obtain ⟨es', hes', hsame⟩ := endpoints_raised (raised_of_unfolds hunfolds) hes
  obtain ⟨-, -, -, hall⟩ := fields_make hmake
  refine ⟨Endpoint.withDistinctIds es', ofCollection_eq_ok.2 ⟨info, items', es', ?_, ?_, hes', url, auth, ?_, ?_,
    make_of_endpoints hmake⟩, ?_⟩
  · rw [get_insert_item c _ (by decide), hinfo]
  · rw [get_insert_self, orElse_list]
  · rw [← hurl, baseUrl, baseUrl, get_insert_item c _ (by decide)]
  · rw [get_insert_item c _ (by decide), hauth]
  · rw [hall]
    exact sameButTags_withDistinctIds hsame

/-- The endpoints of a collection that is accepted are those of its requests with known verbs, one of each,
in the order of the places of the requests: depth first. A text whose collection has a folder, however deep,
replaced by what it holds is accepted too, with the same API but for the tags of the endpoints. -/
theorem endpoints_read {text : String} {api : Api} (h : (read text).outcome = .ok api) :
    ∃ c items leaves, collection? text = some c ∧ (Entries.get c "item").orElse (.list []) = .list items ∧
      Leaves [] items leaves ∧
      List.Forall₂ MadeFrom ((leaves.map Prod.snd).filter Request.isKnown) api.endpoints ∧
      ∀ text' c', collection? text' = some c' → CollectionUnfolds c c' →
        ∃ es', (read text').outcome = .ok { api with endpoints := es' } ∧
          List.Forall₂ SameButTags api.endpoints es' := by
  obtain ⟨c, hc, hof⟩ := read_eq_ok.1 h
  obtain ⟨info, items, es, -, hitems, hes, url, auth, -, -, hmake⟩ := ofCollection_eq_ok.1 hof
  obtain ⟨leaves, hleaves, hreq⟩ := exists_leaves [] items
  obtain ⟨-, -, -, hall⟩ := fields_make hmake
  refine ⟨c, items, leaves, hc, hitems, hleaves, ?_, fun text' c' hc' hunfolds => ?_⟩
  · rw [hreq, hall]
    exact madeFrom_withDistinctIds (endpoints_eq_ok.1 hes)
  · obtain ⟨es', hes', hsame⟩ := ofCollection_of_unfolds hunfolds hof
    exact ⟨es', read_eq_ok.2 ⟨c', hc', hes'⟩, hsame⟩

/-- An item that asks for all pets. -/
def allPets : Value := .map [(.text "name", .text "All"), (.text "request", .text "/pets")]

/-- A folder with such an item. -/
def petFolder : Entries := [(.text "name", .text "Pets"), (.text "item", .list [allPets])]

/-- A collection with one request in a folder and the same request beside it. -/
def nestedPets : String :=
  "\x7b\"item\":[\x7b\"name\":\"Pets\",\"item\":[\x7b\"name\":\"All\",\"request\":\"/pets\"\x7d]\x7d," ++
    "\x7b\"name\":\"All\",\"request\":\"/pets\"\x7d]\x7d"

/-- The same collection without the folder. -/
def raisedPets : String :=
  "\x7b\"item\":[\x7b\"name\":\"All\",\"request\":\"/pets\"\x7d," ++
    "\x7b\"name\":\"All\",\"request\":\"/pets\"\x7d]\x7d"

/-- An object that is written is the collection that is read, if it fits. -/
theorem collection?_of_written {text : String} {ms : List (String × Json)}
    (htext : text = Json.compactText (.object ms)) (hfits : (Json.object ms).fits text.length = true) :
    collection? text = some (Value.ofMembers (ofNamed (Json.rereadMembers ms))) := by
  have hread : Json.read text = .ok (.object (ofNamed (Json.rereadMembers ms))) := by
    rw [Json.read, htext]
    rw [htext] at hfits
    exact Json.readWithin_write_of_fits false .compact hfits
  rw [collection?, hread]

/-- Such an item as JSON. -/
def allPetsJson : Json := .object [("name", .text "All"), ("request", .text "/pets")]

theorem collection?_nestedPets :
    collection? nestedPets = some [(.text "item", .list [.map petFolder, allPets])] := by
  let petFolderJson : Json := .object [("name", .text "Pets"), ("item", .array [allPetsJson])]
  have htext : nestedPets = Json.compactText (.object [("item", .array [petFolderJson, allPetsJson])]) := by
    decide +kernel
  exact collection?_of_written htext (by decide +kernel)

theorem collection?_raisedPets : collection? raisedPets = some [(.text "item", .list [allPets, allPets])] := by
  have htext : raisedPets = Json.compactText (.object [("item", .array [allPetsJson, allPetsJson])]) := by
    decide +kernel
  exact collection?_of_written htext (by decide +kernel)

theorem isFolder_petFolder : IsFolder petFolder [allPets] := by
  refine ⟨?_, rfl⟩
  rintro (⟨es, h⟩ | ⟨s, h⟩) <;> cases h

theorem collectionUnfolds_pets : CollectionUnfolds [(.text "item", .list [.map petFolder, allPets])]
    [(.text "item", .list [allPets, allPets])] := by
  have hunfolds : Unfolds ([] ++ .map petFolder :: [allPets]) ([] ++ [allPets] ++ [allPets]) :=
    .here isFolder_petFolder
  exact ⟨[.map petFolder, allPets], [allPets, allPets], rfl, hunfolds, rfl⟩

/-- Without the folder the two requests keep their ids, and the first loses its tag. -/
theorem endpoints_read_nestedPets : ∃ api es', (read nestedPets).outcome = .ok api ∧
    (read raisedPets).outcome = .ok { api with endpoints := es' } ∧
    api.endpoints.map (fun e => (e.operationId, e.tags)) = [("getAll", ["Pets"]), ("getAll2", [])] ∧
    es'.map (·.operationId) = ["getAll", "getAll2"] ∧ List.Forall₂ SameButTags api.endpoints es' := by
  have hgiven : (read nestedPets).outcome.toOption.map (fun api => api.endpoints.map fun e =>
      (e.operationId, e.tags)) = some [("getAll", ["Pets"]), ("getAll2", [])] := by decide +kernel
  obtain ⟨api, hread, hpairs⟩ := toOption_map_eq_some.1 hgiven
  obtain ⟨c, -, -, hc, -, -, -, hunfold⟩ := endpoints_read hread
  rw [collection?_nestedPets] at hc
  cases hc
  obtain ⟨es', hes', hsame⟩ := hunfold raisedPets _ collection?_raisedPets collectionUnfolds_pets
  have hids := congrArg (List.map Prod.fst) hpairs
  rw [List.map_map] at hids
  exact ⟨api, es', hread, hes', hpairs, (ids_of_sameButTags hsame).trans hids, hsame⟩

end ClientForge.Postman
