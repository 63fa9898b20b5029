import ClientForge.Proofs.Accepted
import ClientForge.Proofs.Keys
import ClientForge.Proofs.Operations

/-!
Parameters that an OpenAPI document declares. The declarations of a path are overlaid by those of an
operation (`Declaration.merge_eq_ok`): of those with one name and place the last of the operation is left, or
else the last of the path, where the first of them stood. So no two that are left have one name and place
(`Declaration.apart_overlay`). The parameters of an endpoint are made from these, one by one, and from the
placeholders that no declaration names (`Operation.paramsApart_endpoint`). A name may be declared as bytes, which
are another name to the merge than the text that they stand for, and become that text afterwards: only so are
there two parameters of one name and place (`params_apart`, `params_not_apart`).
-/

namespace ClientForge

namespace OpenApi

namespace Declaration

/-! ## Merging -/

/-- Do two declarations have one name and place? -/
def same (a b : Declaration) : Bool := a.key.sameKey b.key

/-- The declarations among some values, in order. -/
def among (vs : List Value) : List Declaration := vs.filterMap ofValue?

/-- Declarations of a path, overlaid by those of an operation: for each name and place the last of the
operation or else the last of the path, in the order in which the names and places first come. -/
def overlay (shared own : List Declaration) : List Declaration :=
  (firstsBy same (shared ++ own)).filterMap fun d => (lastBy? same d own).or (lastBy? same d shared)

theorem sameByKey {ds : List Declaration} (h : ∀ d ∈ ds, d.key.isKey = true) :
    SameByKey same (·.key.keyForm) ds :=
  fun d hd _ => Value.sameKey_iff (h d hd)

theorem addTo_eq_ok {ds out : List Declaration} {d : Declaration} :
    addTo ds d = .ok out ↔ d.key.isKey = true ∧ putBy same d ds = out := by
  have hput : ∀ u : Except Failure Unit, (u.bind fun _ => .ok (putBy same d ds)) = .ok out ↔
      u = .ok () ∧ putBy same d ds = out := by
    intro u
    cases u <;> simp [Except.bind]
  refine (hput _).trans (and_congr_left fun _ => ?_)
  unfold Value.checkKey
  split <;> simp [*]

theorem foldlM_addTo_eq_ok {ds acc out : List Declaration} :
    ds.foldlM addTo acc = .ok out ↔
      (∀ d ∈ ds, d.key.isKey = true) ∧ ds.foldl (fun acc d => putBy same d acc) acc = out := by
  induction ds generalizing acc with
  | nil => simp [pure, Except.pure]
  | cons d ds ih =>
    rw [List.foldlM_cons, List.forall_mem_cons, List.foldl_cons, and_assoc, ← ih]
    constructor
    · intro h
      obtain ⟨next, hnext, h⟩ := except_bind_eq_ok.1 h
      obtain ⟨hkey, rfl⟩ := addTo_eq_ok.1 hnext
      exact ⟨hkey, h⟩
    · rintro ⟨hkey, h⟩
      exact except_bind_eq_ok.2 ⟨_, addTo_eq_ok.2 ⟨hkey, rfl⟩, h⟩

theorem foldl_putBy_eq_overlay {shared own : List Declaration} (h : ∀ d ∈ shared ++ own, d.key.isKey = true) :
    (shared ++ own).foldl (fun acc d => putBy same d acc) [] = overlay shared own := by
  rw [foldl_putBy (sameByKey h)]
  simp only [lastBy?_append]
  rfl

/-- Declarations are merged if all names and places can be keys. -/
theorem merge_eq_ok {shared own : Value} {ds : List Declaration} :
    merge shared own = .ok ds ↔ ∃ ss os, shared.items = .ok ss ∧ own.items = .ok os ∧
      (∀ d ∈ among ss ++ among os, d.key.isKey = true) ∧ overlay (among ss) (among os) = ds := by
  have hfold : ∀ ss os : List Value, ((ss ++ os).filterMap ofValue?).foldlM addTo [] = .ok ds ↔
      (∀ d ∈ among ss ++ among os, d.key.isKey = true) ∧ overlay (among ss) (among os) = ds := by
    intro ss os
    rw [foldlM_addTo_eq_ok, List.filterMap_append]
    exact and_congr_right fun h => Eq.congr_left (foldl_putBy_eq_overlay h)
  constructor
  · intro h
    obtain ⟨ss, hss, h⟩ := except_bind_eq_ok.1 h
    obtain ⟨os, hos, h⟩ := except_bind_eq_ok.1 h
    exact ⟨ss, os, hss, hos, (hfold ss os).1 h⟩
  · rintro ⟨ss, os, hss, hos, h⟩
    exact except_bind_eq_ok.2 ⟨ss, hss, except_bind_eq_ok.2 ⟨os, hos, (hfold ss os).2 h⟩⟩

/-- No two declarations that are left have one name and place. -/
theorem apart_overlay {shared own : List Declaration} (h : ∀ d ∈ shared ++ own, d.key.isKey = true) :
    (overlay shared own).Pairwise fun a b => same a b = false := by
  rw [← foldl_putBy_eq_overlay h]
  exact pairwise_foldl_putBy (sameByKey h)

theorem mem_of_mem_overlay {shared own : List Declaration} {d : Declaration} (h : d ∈ overlay shared own) :
    d ∈ shared ++ own := by
  obtain ⟨e, -, hd⟩ := List.mem_filterMap.1 h
  rw [← lastBy?_append] at hd
  exact (of_lastBy? hd).1

/-- The value that a declaration was read from. -/
def value (d : Declaration) : Value := .map d.fields

theorem ofValue?_value {v : Value} {d : Declaration} (h : ofValue? v = some d) : ofValue? d.value = some d := by
  cases v with
  | map es =>
    obtain ⟨name, -, rfl⟩ := Option.map_eq_some_iff.1 h
    exact h
  | _ => cases h

/-- What is left of a merge is left as it is by another. -/
theorem merge_overlay {shared own : List Value} (h : ∀ d ∈ among shared ++ among own, d.key.isKey = true) :
    merge (.list []) (.list ((overlay (among shared) (among own)).map value)) =
      .ok (overlay (among shared) (among own)) := by
  have hread : among ((overlay (among shared) (among own)).map value) = overlay (among shared) (among own) := by
    unfold among
    rw [List.filterMap_map]
    refine (List.filterMap_congr fun d hd => ?_).trans List.filterMap_some
    have hmem : d ∈ (shared ++ own).filterMap ofValue? := by
      rw [List.filterMap_append]
      exact mem_of_mem_overlay hd
    obtain ⟨v, -, hv⟩ := List.mem_filterMap.1 hmem
    exact ofValue?_value hv
  have hkeys : ∀ d ∈ overlay (among shared) (among own), d.key.isKey = true := fun d hd =>
    h d (mem_of_mem_overlay hd)
  refine merge_eq_ok.2 ⟨_, _, rfl, rfl, ?_, ?_⟩
  · rw [hread]
    exact hkeys
  · rw [hread, ← foldl_putBy_eq_overlay hkeys]
    exact foldl_putBy_eq_append (apart_overlay h)

/-! ## Parameters -/

/-- A declaration names a parameter by its text. -/
def IsTextOf (d : Declaration) (p : Param) : Prop :=
  d.name = .text p.name ∧ d.place = .text p.location.name

/-- A declaration names a parameter by bytes that stand for its text. -/
def IsBytesOf (d : Declaration) (p : Param) : Prop :=
  (∃ bs, d.name = .bytes bs ∧ Value.decodeBytes? bs = some p.name) ∧ d.place = .text p.location.name

/-- A declaration names a parameter. -/
def Names (d : Declaration) (p : Param) : Prop := d.IsTextOf p ∨ d.IsBytesOf p

/-- A parameter has the name and place that it is declared with. -/
theorem names_param? {d : Declaration} {method : Method} {path : String} {p : Param}
    (h : (d.param? method path).outcome = .ok (some p)) : d.Names p := by
  unfold param? at h
  split at h
  · obtain ⟨shown, -, h⟩ := Traced.bind_eq_ok.1 h
    obtain ⟨schema, -, h⟩ := Traced.bind_eq_ok.1 h
    obtain ⟨param, hparam, h⟩ := Traced.bind_eq_ok.1 h
    cases h
    obtain ⟨hname, hlocation⟩ := Param.given_of_check (asKind_eq_ok.1 hparam)
    have htext : Checked.text d.name = .ok p.name := within_eq_ok_iff.1 hname
    have hplace : d.place = .text p.location.name := oneOf_location_eq_ok (within_eq_ok_iff.1 hlocation)
    rcases text_eq_ok.1 htext with htext | hbytes
    · exact Or.inl ⟨htext, hplace⟩
    · exact Or.inr ⟨hbytes, hplace⟩
  · split at h <;> cases h

/-- Two declarations of one parameter have one name and place, or one names it by its text and the other by
bytes. -/
theorem key_eq_or_twice {a b : Declaration} {p : Param} (ha : a.Names p) (hb : b.Names p) :
    a.key = b.key ∨ a.IsTextOf p ∧ b.IsBytesOf p ∨ b.IsTextOf p ∧ a.IsBytesOf p := by
  rcases ha with ha | ha
  · rcases hb with hb | hb
    · exact Or.inl (by rw [key, key, ha.1, ha.2, hb.1, hb.2])
    · exact Or.inr (Or.inl ⟨ha, hb⟩)
  · rcases hb with hb | hb
    · exact Or.inr (Or.inr ⟨hb, ha⟩)
    · obtain ⟨⟨as, hna, has⟩, hpa⟩ := ha
      obtain ⟨⟨bs, hnb, hbs⟩, hpb⟩ := hb
      exact Or.inl (by rw [key, key, hna, hpa, hnb, hpb, decodeBytes?_inj has hbs])

end Declaration

/-- Some declarations name a parameter both by its text and by bytes. -/
def BoundTwice (ds : List Declaration) (p : Param) : Prop :=
  (∃ d ∈ ds, d.IsTextOf p) ∧ ∃ d ∈ ds, d.IsBytesOf p

/-- Two parameters have one name and place only if the declarations name it both by text and by bytes. -/
def ApartBut (ds : List Declaration) (p q : Param) : Prop :=
  p.name = q.name → p.location = q.location → BoundTwice ds p

theorem params_named {method : Method} {path : String} {ds : List Declaration} {ps : List Param}
    (h : (params method path ds).outcome = .ok ps) : ∀ p ∈ ps, ∃ d ∈ ds, d.Names p := by
  induction ds generalizing ps with
  | nil =>
    cases h
    exact nofun
  | cons d ds ih =>
    obtain ⟨found, hfound, h⟩ := Traced.bind_eq_ok.1 h
    obtain ⟨rest, hrest, h⟩ := Traced.bind_eq_ok.1 h
    cases h
    intro p hp
    rcases List.mem_append.1 hp with hp | hp
    · obtain rfl := Option.mem_toList.1 hp
      exact ⟨d, List.mem_cons_self, Declaration.names_param? hfound⟩
    · obtain ⟨e, he, hnamed⟩ := ih hrest p hp
      exact ⟨e, List.mem_cons_of_mem d he, hnamed⟩

/-- The parameters of declarations with names and places that are apart. -/
theorem apart_params {method : Method} {path : String} {all ds : List Declaration} {ps : List Param}
    (hall : ∀ d ∈ ds, d ∈ all ∧ d.key.isKey = true)
    (hapart : ds.Pairwise fun a b => Declaration.same a b = false)
    (h : (params method path ds).outcome = .ok ps) : ps.Pairwise (ApartBut all) := by
  induction ds generalizing ps with
  | nil =>
    cases h
    exact .nil
  | cons d ds ih =>
    obtain ⟨found, hfound, h⟩ := Traced.bind_eq_ok.1 h
    obtain ⟨rest, hrest, h⟩ := Traced.bind_eq_ok.1 h
    cases h
    obtain ⟨⟨hd, hkey⟩, hds⟩ := List.forall_mem_cons.1 hall
    obtain ⟨hnew, hothers⟩ := List.pairwise_cons.1 hapart
    refine List.pairwise_append.2 ⟨?_, ih hds hothers hrest, fun p hp q hq hname hlocation => ?_⟩
    · cases found <;> simp
    · obtain rfl := Option.mem_toList.1 hp
      obtain ⟨e, he, hnamed⟩ := params_named hrest q hq
      have hnamed : e.Names p := by
        rw [Declaration.Names, Declaration.IsTextOf, Declaration.IsBytesOf, hname, hlocation]
        exact hnamed
      rcases Declaration.key_eq_or_twice (Declaration.names_param? hfound) hnamed with heq | ⟨ht, hb⟩ | ⟨ht, hb⟩
      · have hsame : Declaration.same d e = true := (Value.sameKey_iff hkey).2 (by rw [heq])
        exact absurd hsame (Bool.eq_false_iff.1 (hnew e he))
      · exact ⟨⟨d, hd, ht⟩, e, (hds e he).1, hb⟩
      · exact ⟨⟨e, (hds e he).1, ht⟩, d, hd, hb⟩

/-- The placeholders that are added have names of their own. -/
theorem apart_withPathParams {ds : List Declaration} {ps : List Param} (path : String)
    (h : ps.Pairwise (ApartBut ds)) : (withPathParams path ps).Pairwise (ApartBut ds) := by
  refine List.pairwise_append.2 ⟨h, ?_, fun p hp q hq hname hlocation => ?_⟩
  · refine List.pairwise_map.2 (((nodup_placeholders path).filter _).imp fun {a b} hne => ?_)
    exact fun hname => absurd hname hne
  · obtain ⟨name, hmem, rfl⟩ := List.mem_map.1 hq
    have hnew := (List.mem_filter.1 hmem).2
    have hdeclared : name ∈ (ps.filter (·.location == .path)).map (·.name) :=
      List.mem_map.2 ⟨p, List.mem_filter.2 ⟨hp, by simpa using hlocation⟩, hname⟩
    simp [hdeclared] at hnew

/-! ## Operations -/

namespace Operation

/-- The declarations of an operation, with those of its path. -/
def declarations (o : Operation) : Except Failure (List Declaration) :=
  Declaration.merge o.shared ((o.field "parameters").orElse (.list []))

/-- No two parameters of an endpoint have one name and place, unless the operation declares this name by its
text and by bytes. -/
def ParamsApart (o : Operation) (e : Endpoint) : Prop :=
  ∃ ds, o.declarations = .ok ds ∧ e.parameters.Pairwise (ApartBut ds)

/-- The endpoint is that of the operation, but for its operation id. -/
def Gives (o : Operation) (e : Endpoint) : Prop :=
  ∃ d, o.endpoint.outcome = .ok d ∧ e = { d with operationId := e.operationId }

theorem paramsApart_endpoint {o : Operation} {e : Endpoint} (h : o.endpoint.outcome = .ok e) :
    o.ParamsApart e := by
  obtain ⟨ds, hds, h⟩ := Traced.bind_eq_ok.1 h
  obtain ⟨ps, hps, h⟩ := Traced.bind_eq_ok.1 h
  obtain ⟨path, -, h⟩ := Traced.bind_eq_ok.1 h
  obtain ⟨body, -, h⟩ := Traced.bind_eq_ok.1 h
  obtain ⟨id, -, h⟩ := Traced.bind_eq_ok.1 h
  obtain ⟨rs, -, h⟩ := Traced.bind_eq_ok.1 h
  obtain ⟨security, -, h⟩ := Traced.bind_eq_ok.1 h
  obtain ⟨tags, -, h⟩ := Traced.bind_eq_ok.1 h
  obtain ⟨-, -, -, -, hparams, -⟩ := make_eq_ok h
  have hmerged : Declaration.merge o.shared ((o.field "parameters").orElse (.list [])) = .ok ds := hds
  refine ⟨ds, hmerged, ?_⟩
  obtain ⟨ss, os, -, -, hkeys, rfl⟩ := Declaration.merge_eq_ok.1 hmerged
  rw [hparams]
  refine apart_withPathParams path (apart_params (fun d hd => ?_) (Declaration.apart_overlay hkeys) hps)
  exact ⟨hd, hkeys d (Declaration.mem_of_mem_overlay hd)⟩

end Operation

/-- The operation that an entry of a path item stands for. None, if its key is no verb. -/
def operation? (doc item : Entries) (path : Value) (entry : Value × Value) : Option Operation :=
  match verb? entry.1, entry.2 with
  | .ok (some method), .map fields =>
    some { doc, path, shared := (Entries.get item "parameters").orElse (.list []), method, fields }
  | _, _ => none

/-- The operations of a document: over every path and every key of its item, in order. -/
def operations (doc : Value) : List Operation :=
  let es := doc.entries?.getD []
  ((Entries.get es "paths").entries?.getD []).flatMap fun p =>
    let item := p.2.entries?.getD []
    item.filterMap (operation? es item p.1)

theorem gives_endpoint? {doc item : Entries} {path key v : Value} {found : Option Endpoint}
    (h : (endpoint? doc path ((Entries.get item "parameters").orElse (.list [])) key v).outcome = .ok found) :
    List.Forall₂ Operation.Gives (operation? doc item path (key, v)).toList found.toList := by
  rcases endpoint?_eq_ok h with ⟨hverb, rfl⟩ | ⟨method, fields, e, hverb, rfl, rfl, he⟩
  · simp [operation?, hverb]
  · simp only [operation?, hverb]
    exact .cons ⟨e, he, rfl⟩ .nil

theorem gives_endpointsOfPath {doc item entries : Entries} {path : Value} {es : List Endpoint}
    (h : (endpointsOfPath doc path ((Entries.get item "parameters").orElse (.list [])) entries).outcome = .ok es) :
    List.Forall₂ Operation.Gives (entries.filterMap (operation? doc item path)) es := by
  induction entries generalizing es with
  | nil =>
    cases h
    exact .nil
  | cons entry entries ih =>
    obtain ⟨found, hfound, h⟩ := Traced.bind_eq_ok.1 h
    obtain ⟨rest, hrest, h⟩ := Traced.bind_eq_ok.1 h
    cases h
    have hhead := List.rel_append (gives_endpoint? hfound) (ih hrest)
    rw [List.filterMap_cons]
    cases hop : operation? doc item path entry <;> simpa [hop] using hhead

theorem gives_endpointsOfPaths {doc paths : Entries} {es : List Endpoint}
    (h : (endpointsOfPaths doc paths).outcome = .ok es) :
    List.Forall₂ Operation.Gives (paths.flatMap fun p =>
      (p.2.entries?.getD []).filterMap (operation? doc (p.2.entries?.getD []) p.1)) es := by
  induction paths generalizing es with
  | nil =>
    cases h
    exact .nil
  | cons entry paths ih =>
    obtain ⟨path, v⟩ := entry
    obtain ⟨item, first, rest, rfl, rfl, hfirst, hrest⟩ := endpointsOfPaths_cons_eq_ok h
    exact List.rel_append (gives_endpointsOfPath hfirst) (ih hrest)

theorem gives_endpoints {doc : Entries} {es : List Endpoint} (h : (endpoints doc).outcome = .ok es) :
    List.Forall₂ Operation.Gives (operations (.map doc)) es := by
  obtain ⟨_, rfl, h⟩ := paths_of_endpoints h
  exact gives_endpointsOfPaths h

theorem gives_ofDocument {doc : Value} {api : Api} (h : (ofDocument doc).outcome = .ok api) :
    List.Forall₂ Operation.Gives (operations doc) api.endpoints := by
  obtain ⟨fields, es, rfl, -, -, hes, heq⟩ := ofDocument_cases h
  rw [heq]
  refine forall₂_withDistinctIds (fun o e id h => ?_) (gives_endpoints hes)
  obtain ⟨d, hd, he⟩ := h
  exact ⟨d, hd, by rw [he]⟩

theorem paramsApart_of_gives {o : Operation} {e : Endpoint} (h : o.Gives e) : o.ParamsApart e := by
  obtain ⟨d, hd, he⟩ := h
  obtain ⟨ds, hds, hapart⟩ := Operation.paramsApart_endpoint hd
  refine ⟨ds, hds, ?_⟩
  rw [he]
  exact hapart

/-! ## Documents -/

open Declaration (merge among overlay same value)

/-- Where all names and places can be keys, the declarations of a path and an operation are merged. Of those with
one name and place the last of the operation is left, or else the last of the path, in the order in which the
names and places first come; another merge leaves these as they are. If an API is read from a text, its endpoints
are those of the operations of the document, one for one, and no two parameters of one have the same name and
place, unless the operation and its path declare this name there both as text and as the bytes that stand for it. -/
theorem params_apart :
    (∀ shared own : List Value, (∀ d ∈ among shared ++ among own, d.key.isKey = true) →
      ∃ ds, merge (.list shared) (.list own) = .ok ds ∧ ds = overlay (among shared) (among own) ∧
        (ds.Pairwise fun a b => same a b = false) ∧
        (∀ d ∈ among shared ++ among own, ∃ e ∈ ds, same d e = true) ∧
        merge (.list []) (.list (ds.map value)) = .ok ds) ∧
    ∀ (text : String) (api : Api), (read text).outcome = .ok api →
      ∃ doc resolved, Document.entries text = .ok doc ∧ (Reference.resolve (.map doc)).outcome = .ok resolved ∧
        List.Forall₂ (fun o e => Operation.Gives o e ∧ o.ParamsApart e) (operations resolved) api.endpoints := by
  constructor
  · intro shared own hkeys
    have hmerge : merge (.list shared) (.list own) = .ok (overlay (among shared) (among own)) :=
      Declaration.merge_eq_ok.2 ⟨shared, own, rfl, rfl, hkeys, rfl⟩
    refine ⟨_, hmerge, rfl, Declaration.apart_overlay hkeys, fun d hd => ?_, Declaration.merge_overlay hkeys⟩
    rw [← Declaration.foldl_putBy_eq_overlay hkeys]
    exact exists_mem_foldl_putBy (Declaration.sameByKey hkeys) hd
  · intro text api h
    obtain ⟨doc, resolved, hdoc, -, hresolved, h⟩ := document_of_read h
    exact ⟨doc, resolved, hdoc, hresolved, (gives_ofDocument h).imp fun o e hgives =>
      ⟨hgives, paramsApart_of_gives hgives⟩⟩

/-- A declaration with fields that are texts. -/
def declaring (fields : List (String × String)) : Value := .map (fields.map fun f => (.text f.1, .text f.2))

/-- A path whose declarations are overlaid, among values that declare nothing. -/
def pathDeclarations : List Value :=
  [declaring [("name", "a")], .int 7, declaring [("in", "query")],
    declaring [("name", "b"), ("in", "header")], declaring [("name", "a"), ("in", "path")]]

/-- Declarations of an operation, one of which comes twice. -/
def ownDeclarations : List Value :=
  [declaring [("name", "b"), ("in", "header"), ("format", "byte")],
    declaring [("name", "a"), ("in", "query"), ("format", "date")],
    declaring [("name", "b"), ("in", "header"), ("format", "uuid")]]

/-- A path that declares a parameter by its text, with an operation that declares it by bytes. -/
def bytesNamed : String :=
  "openapi: 3.0.0\npaths:\n  /a:\n    parameters:\n      - \x7bname: x, in: query\x7d\n    get:\n" ++
    "      parameters:\n      - \x7bname: !!binary eA==, in: query\x7d\n"

theorem names_bytesNamed : (read bytesNamed).outcome.toOption.map
    (fun api => api.endpoints.map fun e => e.parameters.map fun p => (p.name, p.location)) =
    some [[("x", .query), ("x", .query)]] := by
  decide +kernel

theorem exists_read_bytesNamed : ∃ api, (read bytesNamed).outcome = .ok api ∧
    api.endpoints.map (fun e => e.parameters.map fun p => (p.name, p.location)) =
      [[("x", .query), ("x", .query)]] :=
  toOption_map_eq_some.1 names_bytesNamed

theorem params_apart_bytesNamed :
    (∃ ds, merge (.list pathDeclarations) (.list ownDeclarations) = .ok ds ∧
      ds.map value = [declaring [("name", "a"), ("in", "query"), ("format", "date")],
        declaring [("name", "b"), ("in", "header"), ("format", "uuid")],
        declaring [("name", "a"), ("in", "path")]] ∧
      merge (.list []) (.list (ds.map value)) = .ok ds) ∧
    ∃ api, (read bytesNamed).outcome = .ok api ∧ ∃ doc resolved, Document.entries bytesNamed = .ok doc ∧
      (Reference.resolve (.map doc)).outcome = .ok resolved ∧
      List.Forall₂ (fun o e => Operation.Gives o e ∧ o.ParamsApart e) (operations resolved) api.endpoints := by
  constructor
  · obtain ⟨ds, hmerge, rfl, -, -, hagain⟩ := params_apart.1 pathDeclarations ownDeclarations (by decide +kernel)
    exact ⟨_, hmerge, rfl, hagain⟩
  · obtain ⟨api, hread, -⟩ := exists_read_bytesNamed
    exact ⟨api, hread, params_apart.2 bytesNamed api hread⟩

/-- A name declared by text and by bytes is that of two parameters in one place. -/
theorem params_not_apart : ∃ api, (read bytesNamed).outcome = .ok api ∧
    ∃ e ∈ api.endpoints, ¬(e.parameters.map fun p => (p.name, p.location)).Nodup := by
  obtain ⟨api, hread, hnames⟩ := exists_read_bytesNamed
  refine ⟨api, hread, ?_⟩
  have hmem : [("x", Location.query), ("x", .query)] ∈
      api.endpoints.map fun e => e.parameters.map fun p => (p.name, p.location) := by
    rw [hnames]
    exact List.mem_cons_self
  obtain ⟨e, he, hparams⟩ := List.mem_map.1 hmem
  refine ⟨e, he, ?_⟩
  rw [hparams]
  decide

end OpenApi

end ClientForge
