import ClientForge.Proofs.Endpoints
import ClientForge.Proofs.Keyed
import ClientForge.Source

/-!
What is so of every API that a document gives. The three readers make their endpoints in one way
(`formed_make`), each from an operation id of its own and from parameters that the placeholders of the
path have been added to. Then the operation ids are made different, without another check. All the same
the ids are apart and every endpoint is sound (`sound_read`).
-/

namespace ClientForge

/-! ## Steps of reading -/

theorem name_inj {m n : Method} (h : m.name = n.name) : m = n := by
  have hm : Method.ofName? n.name = some m := ofName?_eq_some.2 h.symm
  rw [ofName?_eq_some.2 rfl] at hm
  exact (Option.some.inj hm).symm

/-- What every step keeps is so at the end, if the steps do not fail. -/
theorem foldlM_keeps {ε α β : Type} {p : β → Prop} {f : β → α → Except ε β}
    (hstep : ∀ b x c, p b → f b x = .ok c → p c) {xs : List α} {b c : β} (hb : p b)
    (h : xs.foldlM f b = .ok c) : p c := by
  induction xs generalizing b with
  | nil => cases h; exact hb
  | cons x xs ih =>
    rw [List.foldlM_cons] at h
    obtain ⟨d, hd, hrest⟩ := except_bind_eq_ok.1 h
    exact ih (hstep b x d hb hd) hrest

theorem within_eq_ok {α : Type} {part : String} {x : Traced α} {a : α} :
    (Traced.within part x).outcome = .ok a ↔ x.outcome = .ok a := by
  rw [Traced.outcome_within]
  cases x.outcome <;> simp [Except.mapError]

theorem withinShown_eq_ok {α : Type} {part : Except Failure String} {x : Traced α} {a : α} :
    (Traced.withinShown part x).outcome = .ok a ↔ x.outcome = .ok a := by
  rw [Traced.outcome_withinShown]
  cases x.outcome <;> simp [Except.mapError]

/-- New operation ids are all that renaming changes. -/
theorem outcome_renamed (es : List Endpoint) :
    (Endpoint.renamed es).outcome = .ok (Endpoint.withDistinctIds es) := by
  have hquiet : ∀ p : Endpoint × Endpoint, (p.1.renaming p.2.operationId).outcome = .ok () := by
    intro p
    unfold Endpoint.renaming
    split <;> rfl
  unfold Endpoint.renamed
  refine Traced.bind_eq_ok.2 ⟨(), Traced.outcome_forM hquiet _, rfl⟩

theorem fields_make {baseUrl version : String} {auth : Auth} {title description : Value} {es : List Endpoint}
    {api : Api} (h : Api.make baseUrl auth title version description es = .ok api) :
    api.baseUrl = baseUrl ∧ api.auth = auth ∧ api.version = version ∧ api.endpoints = es := by
  obtain ⟨_, _, hg, -, rfl⟩ := also_eq_ok.1 (asKind_eq_ok.1 h)
  obtain ⟨_, -, rfl⟩ := map_eq_ok.1 hg
  exact ⟨rfl, rfl, rfl, rfl⟩

/-! ## OpenAPI -/

namespace OpenApi

theorem lowerCamel_id {o : Operation} {path id : String} (h : o.id path = .ok id) :
    IsLowerCamel id.toList := by
  obtain ⟨given, -, h⟩ := except_bind_eq_ok.1 h
  split at h
  · cases h
    rw [String.toList_ofList]
    exact lowerCamel_derivedIdentifier _ _
  · rename_i name hne
    cases h
    rw [String.toList_ofList]
    exact (lowerCamel_identifier given.toList).resolve_left hne

theorem body_eq_none {o : Operation} {ds : List Declaration} {b : Option Body} (h : o.body ds = .ok b)
    (hverb : o.method.allowsBody = false) : b = none := by
  unfold Operation.body at h
  simp only [hverb, Bool.false_eq_true, if_false] at h
  cases h
  rfl

theorem nodup_responses {v produces : Value} {rs : List (String × Response)}
    (h : responses v produces = .ok rs) : (rs.map Prod.fst).Nodup := by
  obtain ⟨es, -, h⟩ := except_bind_eq_ok.1 h
  refine foldlM_keeps (p := fun rs => (rs.map Prod.fst).Nodup) (fun rs e ts hrs hstep => ?_)
    List.nodup_nil h
  obtain ⟨r, -, hput⟩ := except_bind_eq_ok.1 hstep
  cases hput
  exact nodup_putNamed hrs _ r

theorem formed_operation {o : Operation} {e : Endpoint} (h : o.endpoint.outcome = .ok e) : e.Formed := by
  obtain ⟨ds, -, h⟩ := Traced.bind_eq_ok.1 h
  obtain ⟨params, -, h⟩ := Traced.bind_eq_ok.1 h
  obtain ⟨path, -, h⟩ := Traced.bind_eq_ok.1 h
  obtain ⟨body, hbody, h⟩ := Traced.bind_eq_ok.1 h
  obtain ⟨id, hid, h⟩ := Traced.bind_eq_ok.1 h
  obtain ⟨rs, hrs, h⟩ := Traced.bind_eq_ok.1 h
  obtain ⟨security, -, h⟩ := Traced.bind_eq_ok.1 h
  obtain ⟨tags, -, h⟩ := Traced.bind_eq_ok.1 h
  refine formed_make h (lowerCamel_id hid) (fun method hmethod hverb => ?_) (nodup_responses hrs)
  obtain rfl := name_inj hmethod
  exact body_eq_none hbody hverb

/-- Under a key of a path stands no operation, or one that gives an endpoint. -/
theorem endpoint?_eq_ok {doc : Entries} {path shared key v : Value} {found : Option Endpoint}
    (h : (endpoint? doc path shared key v).outcome = .ok found) :
    (verb? key = .ok none ∧ found = none) ∨
      ∃ method fields e, verb? key = .ok (some method) ∧ v = .map fields ∧ found = some e ∧
        (Operation.endpoint { doc, path, shared, method, fields }).outcome = .ok e := by
  obtain ⟨verb, hverb, h⟩ := Traced.bind_eq_ok.1 h
  cases verb with
  | none =>
    cases h
    exact Or.inl ⟨hverb, rfl⟩
  | some method =>
    cases v with
    | map fields =>
      obtain ⟨e, he, hsome⟩ := Traced.bind_eq_ok.1 h
      cases hsome
      exact Or.inr ⟨method, fields, e, hverb, rfl, rfl, withinShown_eq_ok.1 he⟩
    | _ =>
      obtain ⟨_, -, h⟩ := Traced.bind_eq_ok.1 h
      cases h

/-- The first of some paths has operations by name, and so have the rest. -/
theorem endpointsOfPaths_cons_eq_ok {doc paths : Entries} {path v : Value} {es : List Endpoint}
    (h : (endpointsOfPaths doc ((path, v) :: paths)).outcome = .ok es) :
    ∃ item first rest, v = .map item ∧ es = first ++ rest ∧
      (endpointsOfPath doc path ((Entries.get item "parameters").orElse (.list [])) item).outcome = .ok first ∧
      (endpointsOfPaths doc paths).outcome = .ok rest := by
  cases v with
  | map item =>
    obtain ⟨first, hfirst, h⟩ := Traced.bind_eq_ok.1 h
    obtain ⟨rest, hrest, h⟩ := Traced.bind_eq_ok.1 h
    cases h
    exact ⟨item, first, rest, rfl, rfl, hfirst, hrest⟩
  | _ =>
    obtain ⟨_, -, h⟩ := Traced.bind_eq_ok.1 h
    cases h

theorem formed_endpoint? {doc : Entries} {path shared key v : Value} {found : Option Endpoint}
    (h : (endpoint? doc path shared key v).outcome = .ok found) : ∀ e ∈ found, e.Formed := by
  rcases endpoint?_eq_ok h with ⟨-, rfl⟩ | ⟨method, fields, e, -, -, rfl, he⟩
  · simp
  · intro d hd
    cases hd
    exact formed_operation he

theorem formed_endpointsOfPath {doc : Entries} {path shared : Value} {item : Entries} {es : List Endpoint}
    (h : (endpointsOfPath doc path shared item).outcome = .ok es) : ∀ e ∈ es, e.Formed := by
  induction item generalizing es with
  | nil => cases h; simp
  | cons entry item ih =>
    obtain ⟨found, hfound, h⟩ := Traced.bind_eq_ok.1 h
    obtain ⟨rest, hrest, h⟩ := Traced.bind_eq_ok.1 h
    cases h
    intro e he
    rcases List.mem_append.1 he with he | he
    · exact formed_endpoint? hfound e (Option.mem_toList.1 he)
    · exact ih hrest e he

theorem formed_endpointsOfPaths {doc paths : Entries} {es : List Endpoint}
    (h : (endpointsOfPaths doc paths).outcome = .ok es) : ∀ e ∈ es, e.Formed := by
  induction paths generalizing es with
  | nil => cases h; simp
  | cons entry paths ih =>
    obtain ⟨item, first, rest, -, rfl, hfirst, hrest⟩ := endpointsOfPaths_cons_eq_ok h
    intro e he
    rcases List.mem_append.1 he with he | he
    · exact formed_endpointsOfPath hfirst e he
    · exact ih hrest e he

theorem formed_endpoints {doc : Entries} {es : List Endpoint} (h : (endpoints doc).outcome = .ok es) :
    ∀ e ∈ es, e.Formed := by
  unfold endpoints at h
  split at h
  · exact formed_endpointsOfPaths h
  · cases h

/-- What the reader makes of a document without references. -/
theorem ofDocument_cases {doc : Value} {api : Api} (h : (ofDocument doc).outcome = .ok api) :
    ∃ fields es, doc = .map fields ∧ baseUrl fields = .ok api.baseUrl ∧ auth fields = .ok api.auth ∧
      (endpoints fields).outcome = .ok es ∧ api.endpoints = Endpoint.withDistinctIds es := by
  obtain ⟨infoValue, hinfo, h⟩ := Traced.bind_eq_ok.1 h
  obtain ⟨info, -, h⟩ := Traced.bind_eq_ok.1 h
  obtain ⟨url, hurl, h⟩ := Traced.bind_eq_ok.1 h
  obtain ⟨auth, hauth, h⟩ := Traced.bind_eq_ok.1 h
  obtain ⟨version, -, h⟩ := Traced.bind_eq_ok.1 h
  obtain ⟨es, hes, h⟩ := Traced.bind_eq_ok.1 h
  obtain ⟨new, hnew, h⟩ := Traced.bind_eq_ok.1 h
  rw [outcome_renamed] at hnew
  cases hnew
  obtain ⟨rfl, rfl, -, hall⟩ := fields_make h
  -- Only a map has the member that the title is taken from.
  cases doc with
  | map fields => exact ⟨fields, es, rfl, hurl, hauth, hes, hall⟩
  | _ => cases hinfo

/-- The document that a text holds, with its references replaced, if an API is read from it. -/
theorem document_of_read {text : String} {api : Api} (h : (read text).outcome = .ok api) :
    ∃ doc resolved, Document.entries text = .ok doc ∧
      (Entries.has doc "openapi" = true ∨ Entries.has doc "swagger" = true) ∧
      (Reference.resolve (.map doc)).outcome = .ok resolved ∧ (ofDocument resolved).outcome = .ok api := by
  obtain ⟨doc, hdoc, h⟩ := Traced.bind_eq_ok.1 h
  simp only at h
  split at h
  · cases h
  · rename_i hversion
    split at h
    · cases h
    · obtain ⟨resolved, hresolved, h⟩ := Traced.bind_eq_ok.1 h
      refine ⟨doc, resolved, hdoc, ?_, hresolved, h⟩
      simp only [Bool.and_eq_true, Bool.not_eq_true', not_and, Bool.not_eq_false] at hversion
      by_cases hopen : Entries.has doc "openapi" = true
      · exact Or.inl hopen
      · exact Or.inr (hversion (by simpa using hopen))

/-- What the reader makes of a text. -/
theorem read_cases {text : String} {api : Api} (h : (read text).outcome = .ok api) :
    ∃ doc es, baseUrl doc = .ok api.baseUrl ∧ auth doc = .ok api.auth ∧ (endpoints doc).outcome = .ok es ∧
      api.endpoints = Endpoint.withDistinctIds es := by
  obtain ⟨-, resolved, -, -, -, h⟩ := document_of_read h
  obtain ⟨fields, es, -, hurl, hauth, hes, hall⟩ := ofDocument_cases h
  exact ⟨fields, es, hurl, hauth, hes, hall⟩

end OpenApi

/-! ## Postman -/

namespace Postman

theorem nodup_responses {v : Value} {rs : List (String × Response)} (h : responses v = .ok rs) :
    (rs.map Prod.fst).Nodup := by
  obtain ⟨items, -, h⟩ := except_bind_eq_ok.1 h
  refine foldlM_keeps (p := fun rs => (rs.map Prod.fst).Nodup) (fun rs item ts hrs hstep => ?_)
    List.nodup_nil h
  obtain ⟨v, i⟩ := item
  cases v with
  | map es =>
    obtain ⟨r, -, hput⟩ := except_bind_eq_ok.1 hstep
    cases hput
    exact nodup_putNamed hrs _ r
  | _ => cases hstep; exact hrs

theorem bodyFor_eq_none {method : Method} {request : Entries} {b : Option Body}
    (h : bodyFor method request = .ok b) (hverb : method.allowsBody = false) : b = none := by
  unfold bodyFor at h
  simp only [hverb, Bool.false_eq_true, if_false] at h
  cases h
  rfl

/-- An endpoint is made of fields that have the path, the body and the responses of its request. -/
theorem fields_of_endpointWith {r : Request} {request : Entries} {method : Method} {e : Endpoint}
    (h : endpointWith r request method = .ok e) : ∃ (url : Entries) (f : EndpointFields),
      urlFields request = .ok url ∧ path url = .ok f.path ∧ f.method = method.name ∧
      IsLowerCamel f.operationId.toList ∧ bodyFor method request = .ok f.body ∧
      responses (Entries.get r.fields "response") = .ok f.responses ∧
      ∃ summary description security tags, Endpoint.make f summary description security tags = .ok e := by
  obtain ⟨url, hurl, h⟩ := except_bind_eq_ok.1 h
  obtain ⟨path, hpath, h⟩ := except_bind_eq_ok.1 h
  obtain ⟨inPath, -, h⟩ := except_bind_eq_ok.1 h
  obtain ⟨inQuery, -, h⟩ := except_bind_eq_ok.1 h
  obtain ⟨inHeader, -, h⟩ := except_bind_eq_ok.1 h
  obtain ⟨security, -, h⟩ := except_bind_eq_ok.1 h
  obtain ⟨name, -, h⟩ := except_bind_eq_ok.1 h
  obtain ⟨body, hbody, h⟩ := except_bind_eq_ok.1 h
  obtain ⟨rs, hrs, h⟩ := except_bind_eq_ok.1 h
  obtain ⟨tags, -, h⟩ := except_bind_eq_ok.1 h
  refine ⟨url, _, hurl, hpath, rfl, ?_, hbody, hrs, _, _, _, _, h⟩
  rw [String.toList_ofList]
  exact lowerCamel_derivedIdentifier method _

theorem formed_endpointWith {r : Request} {request : Entries} {method : Method} {e : Endpoint}
    (h : endpointWith r request method = .ok e) : e.Formed := by
  obtain ⟨-, f, -, -, hmethod, hid, hbody, hrs, _, _, _, _, hmake⟩ := fields_of_endpointWith h
  refine formed_make hmake hid (fun verb hverb hnone => ?_) (nodup_responses hrs)
  obtain rfl := name_inj (hmethod.symm.trans hverb)
  exact bodyFor_eq_none hbody hnone

theorem formed_endpoint? {r : Request} {found : Option Endpoint} (h : (endpoint? r).outcome = .ok found) :
    ∀ e ∈ found, e.Formed := by
  unfold endpoint? at h
  split at h
  · obtain ⟨e, he, hsome⟩ := Traced.bind_eq_ok.1 h
    cases hsome
    intro d hd
    cases hd
    exact formed_endpointWith he
  · cases h
    simp

theorem formed_endpoints {rs : List Request} {es : List Endpoint} (h : (endpoints rs).outcome = .ok es) :
    ∀ e ∈ es, e.Formed := by
  induction rs generalizing es with
  | nil => cases h; simp
  | cons r rs ih =>
    obtain ⟨found, hfound, h⟩ := Traced.bind_eq_ok.1 h
    obtain ⟨rest, hrest, h⟩ := Traced.bind_eq_ok.1 h
    cases h
    intro e he
    rcases List.mem_append.1 he with he | he
    · exact formed_endpoint? (within_eq_ok.1 hfound) e (Option.mem_toList.1 he)
    · exact ih hrest e he

/-- What the reader makes of a collection. -/
theorem read_cases {text : String} {api : Api} (h : (read text).outcome = .ok api) :
    ∃ (collection : Entries) (rs : List Request) (es : List Endpoint), baseUrl collection = .ok api.baseUrl ∧
      auth (Entries.get collection "auth") = .ok api.auth ∧ (endpoints rs).outcome = .ok es ∧
      api.endpoints = Endpoint.withDistinctIds es := by
  simp only [read] at h
  split at h
  · cases h
  · split at h
    · cases h
    · obtain ⟨info, -, h⟩ := Traced.bind_eq_ok.1 h
      split at h
      · obtain ⟨es, hes, h⟩ := Traced.bind_eq_ok.1 h
        obtain ⟨url, hurl, h⟩ := Traced.bind_eq_ok.1 h
        obtain ⟨auth, hauth, h⟩ := Traced.bind_eq_ok.1 h
        obtain ⟨new, hnew, h⟩ := Traced.bind_eq_ok.1 h
        rw [outcome_renamed] at hnew
        cases hnew
        obtain ⟨rfl, rfl, -, hall⟩ := fields_make h
        exact ⟨_, _, es, hurl, hauth, hes, hall⟩
      · cases h
    · cases h

end Postman

/-! ## Pages -/

/-- The verb and the path of an endpoint. -/
def Endpoint.route (e : Endpoint) : Method × String := (e.method, e.path)

theorem map_route_withDistinctIds (es : List Endpoint) :
    (Endpoint.withDistinctIds es).map Endpoint.route = es.map Endpoint.route := by
  have hlen : es.length ≤ (distinct (es.map (·.operationId.toList))).length := by simp [length_distinct]
  calc (Endpoint.withDistinctIds es).map Endpoint.route
      = es.zipWith (fun e _ => e.route) (distinct (es.map (·.operationId.toList))) := by
        simp [Endpoint.withDistinctIds, List.map_zipWith, Endpoint.route]
    _ = ((es.zip (distinct (es.map (·.operationId.toList)))).map Prod.fst).map Endpoint.route := by
        rw [List.map_map, List.map_zip_eq_zipWith]; rfl
    _ = es.map Endpoint.route := by rw [List.map_fst_zip hlen]

namespace Page

theorem formed_endpointAt {verb path description : String} {params : List Param} {e : Endpoint}
    (h : endpointAt verb path description params = .ok e) : e.Formed := by
  have hverb : verb = e.method.name := (make_eq_ok h).2.1
  refine formed_make h ?_ (fun _ _ _ => rfl) List.nodup_nil
  rw [String.toList_ofList, hverb]
  exact lowerCamel_derivedIdentifier e.method path.toList

theorem formed_endpointIn? {text description : String} {found : Option Endpoint}
    (h : (endpointIn? text description).outcome = .ok found) : ∀ e ∈ found, e.Formed := by
  unfold endpointIn? at h
  split at h
  · cases h
    simp
  · obtain ⟨path, -, h⟩ := Traced.bind_eq_ok.1 h
    simp only at h
    split at h
    · rename_i e he
      cases h
      intro d hd
      cases hd
      exact formed_endpointAt he
    · cases h
      simp

theorem formed_endpointOf? {e : Html.Element} {l : Html.Located} {found : Option Endpoint}
    (h : (endpointOf? e l).outcome = .ok found) : ∀ e ∈ found, e.Formed := by
  simp only [endpointOf?] at h
  split at h
  · cases h
    simp
  · exact formed_endpointIn? h

/-- The endpoints of a page are well formed, and none has the verb and path of another or of one that
has been met. -/
theorem formed_endpointsFrom {met : List (Method × String)} {places : List (Html.Element × Html.Located)}
    {es : List Endpoint} (h : (endpointsFrom met places).outcome = .ok es) :
    (∀ e ∈ es, Endpoint.Formed e) ∧ (es.map Endpoint.route).Nodup ∧ ∀ e ∈ es, e.route ∉ met := by
  induction places generalizing met es with
  | nil => cases h; simp
  | cons place places ih =>
    obtain ⟨found, hfound, h⟩ := Traced.bind_eq_ok.1 h
    cases found with
    | none => exact ih h
    | some e =>
      simp only at h
      split at h
      · obtain ⟨u, -, h⟩ := Traced.bind_eq_ok.1 h
        exact ih h
      · rename_i hnew
        obtain ⟨rest, hrest, h⟩ := Traced.bind_eq_ok.1 h
        cases h
        obtain ⟨hformed, hnodup, hout⟩ := ih hrest
        have hmet : e.route ∉ met := by simpa [Endpoint.route] using hnew
        refine ⟨fun d hd => ?_, ?_, fun d hd => ?_⟩
        · rcases List.mem_cons.1 hd with rfl | hd
          · exact formed_endpointOf? hfound d rfl
          · exact hformed d hd
        · refine List.nodup_cons.2 ⟨fun hmem => ?_, hnodup⟩
          obtain ⟨d, hd, hroute⟩ := List.mem_map.1 hmem
          exact hout d hd (by rw [hroute]; exact List.mem_cons_self)
        · rcases List.mem_cons.1 hd with rfl | hd
          · exact hmet
          · exact fun hmem => hout d hd (List.mem_cons_of_mem _ hmem)

/-- What the reader makes of the nodes of a page. -/
theorem ofNodes_cases {nodes : List Html.Node} {api : Api} (h : (ofNodes nodes).outcome = .ok api) :
    ∃ es, baseUrl (Html.allNodes nodes) = .ok api.baseUrl ∧
      api.auth = auth ((Html.Element.document nodes).textWith " ") ∧
      (endpoints (Html.allNodes nodes)).outcome = .ok es ∧ api.endpoints = Endpoint.withDistinctIds es := by
  obtain ⟨url, hurl, h⟩ := Traced.bind_eq_ok.1 h
  obtain ⟨es, hes, h⟩ := Traced.bind_eq_ok.1 h
  obtain ⟨new, hnew, h⟩ := Traced.bind_eq_ok.1 h
  rw [outcome_renamed] at hnew
  cases hnew
  obtain rfl := Except.ok.inj h
  dsimp only
  exact ⟨es, hurl, rfl, hes, rfl⟩

/-- What the reader makes of a page it makes of the nodes. -/
theorem read_eq_ok {text : String} {api : Api} :
    (read text).outcome = .ok api ↔ ∃ nodes, Html.read text = .ok nodes ∧ (ofNodes nodes).outcome = .ok api := by
  unfold read
  rw [Traced.bind_eq_ok]
  refine exists_congr fun nodes => and_congr_left fun _ => ?_
  rw [Traced.outcome_liftM]
  cases Html.read text <;> simp [Except.mapError]

/-- What the reader makes of a page. -/
theorem read_cases {text : String} {api : Api} (h : (read text).outcome = .ok api) :
    ∃ (nodes : List Html.Node) (es : List Endpoint), baseUrl (Html.allNodes nodes) = .ok api.baseUrl ∧
      api.auth = auth ((Html.Element.document nodes).textWith " ") ∧
      (endpoints (Html.allNodes nodes)).outcome = .ok es ∧ api.endpoints = Endpoint.withDistinctIds es := by
  obtain ⟨nodes, -, hnodes⟩ := read_eq_ok.1 h
  exact ⟨nodes, ofNodes_cases hnodes⟩

end Page

/-! ## All documents -/

/-- What a document gives is well formed, with operation ids that are apart. -/
theorem formed_read {f : Format} {text : String} {api : Api} (h : (f.read text).outcome = .ok api) :
    ∃ es, (∀ e ∈ es, Endpoint.Formed e) ∧ api.endpoints = Endpoint.withDistinctIds es := by
  cases f with
  | openApi =>
    obtain ⟨doc, es, -, -, hes, heq⟩ := OpenApi.read_cases h
    exact ⟨es, OpenApi.formed_endpoints hes, heq⟩
  | postman =>
    obtain ⟨collection, rs, es, -, -, hes, heq⟩ := Postman.read_cases h
    exact ⟨es, Postman.formed_endpoints hes, heq⟩
  | html =>
    obtain ⟨nodes, es, -, -, hes, heq⟩ := Page.read_cases h
    exact ⟨es, (Page.formed_endpointsFrom hes).1, heq⟩

/-- An endpoint that a client can be made for: its verb is one of seven, its operation id is a word in
camel case, its path starts with a slash, each name between braces in it is that of a path parameter,
and requests that only ask or delete have no body. -/
structure Endpoint.Sound (e : Endpoint) : Prop where
  verb : e.method.name ∈ ["GET", "POST", "PUT", "PATCH", "DELETE", "HEAD", "OPTIONS"]
  lowerCamel : IsLowerCamel e.operationId.toList
  rooted : ∃ rest, e.path.toList = '/' :: rest
  declared : ∀ name, HasPlaceholder e.path.toList name →
    ∃ p ∈ e.parameters, p.location = .path ∧ p.name.toList = name
  bodyless : e.method = .get ∨ e.method = .delete → e.body = none

theorem Endpoint.Formed.sound {e : Endpoint} (h : e.Formed) : e.Sound where
  verb := by cases e.method <;> decide
  lowerCamel := h.lowerCamel
  rooted := rooted_of_fault?_eq_none h.consistent
  declared := fun _ hname => declared_of_fault?_eq_none h.consistent hname
  bodyless := fun hverb => h.bodyless (by rcases hverb with hverb | hverb <;> rw [hverb] <;> rfl)

/-- Whatever document an API comes from, its operation ids are all different and its endpoints are
sound. A page gives no verb and path twice. -/
theorem sound_read {f : Format} {text : String} {api : Api} (h : (f.read text).outcome = .ok api) :
    (api.endpoints.map (·.operationId)).Nodup ∧ (∀ e ∈ api.endpoints, e.Sound) ∧
      (f = .html → (api.endpoints.map Endpoint.route).Nodup) := by
  obtain ⟨es, hformed, heq⟩ := formed_read h
  refine ⟨?_, fun e he => ?_, ?_⟩
  · have hids : ((api.endpoints.map (·.operationId)).map String.toList).Nodup := by
      rw [heq, List.map_map]
      have hmap := map_operationId_withDistinctIds es
      simp only [Function.comp_def] at hmap ⊢
      rw [hmap]
      exact nodup_distinct _
    exact hids.of_map _
  · rw [heq] at he
    exact (formed_withDistinctIds hformed e he).sound
  · rintro rfl
    obtain ⟨nodes, pages, -, -, hpages, hrenamed⟩ := Page.read_cases h
    rw [hrenamed, map_route_withDistinctIds]
    exact (Page.formed_endpointsFrom hpages).2.1

/-- A page that gives a verb and path twice, and two paths whose words are the same. -/
def petPage : String :=
  "<h2>GET /pets/\x7bid\x7d</h2><code>get /pets/\x7bid\x7d</code><code>GET /pets-\x7bid\x7d</code>"

theorem sound_read_petPage : ∃ api, (Format.html.read petPage).outcome = .ok api ∧
    api.endpoints.map (·.operationId) = ["getPetsId", "getPetsId2"] ∧
    (api.endpoints.map (·.operationId)).Nodup ∧ (∀ e ∈ api.endpoints, e.Sound) ∧
      (Format.html = .html → (api.endpoints.map Endpoint.route).Nodup) := by
  have hids : (Format.html.read petPage).outcome.toOption.map (fun api => api.endpoints.map (·.operationId)) =
      some ["getPetsId", "getPetsId2"] := by decide +kernel
  obtain ⟨api, hread, hgiven⟩ := toOption_map_eq_some.1 hids
  exact ⟨api, hread, hgiven, sound_read hread⟩

end ClientForge
