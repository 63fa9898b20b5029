import ClientForge.Proofs.Documents
import ClientForge.Proofs.MethodNames
import ClientForge.Proofs.Text

/-!
The operations of an OpenAPI document. Going over the paths in order, and over the keys of each path
item in order, every key that is a verb in any case gives one endpoint with that verb and path, and no
other key gives any (`routes_read`). A key is a verb in small letters exactly if it is one in capitals:
of the letters beyond ASCII none but the Kelvin sign has an ASCII letter for its lower case, and no verb
has a k (`Text.upper_of_lower_eq`).
-/

namespace ClientForge

/-! ## Letter case -/

namespace Text

/-- A shift stays beyond ASCII, and among characters; only that of the Kelvin sign goes to the letter k. -/
def CaseShift.StaysBeyond (s : CaseShift) : Prop :=
  s.first = 0x212A ∧ s.last = 0x212A ∧ s.shift = -0x20BF ∨
    0x80 ≤ (s.first : Int) + s.shift ∧
      ((s.last : Int) + s.shift < 0xD800 ∨ 0xDFFF < (s.first : Int) + s.shift ∧ (s.last : Int) + s.shift < 0x110000)

instance (s : CaseShift) : Decidable s.StaysBeyond := inferInstanceAs (Decidable (_ ∨ _))

theorem staysBeyond_lowerShifts : ∀ s ∈ lowerShifts, s.StaysBeyond := by decide +kernel

/-- Each letter that has several small ones has one beyond ASCII among them. -/
theorem exists_beyond_lowerExpansions : ∀ e ∈ lowerExpansions, ∃ n ∈ e.2, 0x80 ≤ n ∧ n < 0xD800 := by decide

theorem beyond_or_k_of_covers {s : CaseShift} (hs : s.StaysBeyond) {n : Nat} (hn : s.covers n = true) :
    Char.ofNat ((n : Int) + s.shift).toNat = 'k' ∨ 0x80 ≤ (Char.ofNat ((n : Int) + s.shift).toNat).toNat := by
  simp only [CaseShift.covers, Bool.and_eq_true, decide_eq_true_eq] at hn
  obtain ⟨⟨hfirst, hlast⟩, -⟩ := hn
  rcases hs with ⟨h₁, h₂, h₃⟩ | ⟨hlow, hvalid⟩
  · have hn : n = 0x212A := by omega
    subst hn
    rw [h₃]
    exact Or.inl (by decide)
  · have hchar : Nat.isValidChar ((n : Int) + s.shift).toNat := by
      rcases hvalid with hvalid | ⟨hlow, hhigh⟩
      · exact Or.inl (by omega)
      · exact Or.inr ⟨by omega, by omega⟩
    rw [toNat_ofNat hchar]
    exact Or.inr (by omega)

/-- The lower case of a character beyond ASCII is not all ASCII, but for the letter k. -/
theorem exists_beyond_or_k_lowerChar {c : Char} (h : 0x80 ≤ c.toNat) :
    ∃ d ∈ lowerChar c, d = 'k' ∨ 0x80 ≤ d.toNat := by
  have hnot : ¬c.toNat < 0x80 := by omega
  unfold lowerChar mapCase
  rw [if_neg hnot]
  split
  · rename_i ns hns
    obtain ⟨before, after, hsplit, -⟩ := List.lookup_eq_some_iff.1 hns
    have hmem : (c.toNat, ns) ∈ lowerExpansions := by
      rw [hsplit]
      exact List.mem_append_right _ List.mem_cons_self
    obtain ⟨n, hn, hlow, hhigh⟩ := exists_beyond_lowerExpansions _ hmem
    refine ⟨Char.ofNat n, List.mem_map_of_mem hn, Or.inr ?_⟩
    rw [toNat_ofNat (Or.inl hhigh)]
    exact hlow
  · split
    · rename_i s hs
      have hbeyond := staysBeyond_lowerShifts s (List.mem_of_find?_eq_some hs)
      have hcovers : s.covers c.toNat = true := List.find?_some (p := (CaseShift.covers · c.toNat)) hs
      exact ⟨_, List.mem_singleton.2 rfl, beyond_or_k_of_covers hbeyond hcovers⟩
    · exact ⟨c, List.mem_singleton.2 rfl, Or.inr h⟩

/-- A text is ASCII if its lower case is and has no k. -/
theorem ascii_of_lowerAfter (before : List Char) {s : List Char}
    (h : ∀ d ∈ lowerAfter before s, d ≠ 'k' ∧ d.toNat < 0x80) : ∀ c ∈ s, c.toNat < 0x80 := by
  induction s generalizing before with
  | nil => exact fun _ hc => nomatch hc
  | cons c s ih =>
    rw [lowerAfter] at h
    refine List.forall_mem_cons.2 ⟨?_, ih (c :: before) fun d hd => h d (List.mem_append_right _ hd)⟩
    by_contra hc
    split at h
    · exact absurd (h 'ς' (List.mem_append_left _ List.mem_cons_self)).2 (by decide)
    · obtain ⟨d, hd, hd'⟩ := exists_beyond_or_k_lowerChar (c := c) (by omega)
      obtain ⟨hk, hlow⟩ := h d (List.mem_append_left _ hd)
      rcases hd' with hd' | hd'
      · exact hk hd'
      · omega

theorem upper_ascii {s : List Char} (h : ∀ c ∈ s, c.toNat < 0x80) : upper s = s.map Char.toUpper := by
  induction s with
  | nil => rfl
  | cons c s ih =>
    obtain ⟨hc, hs⟩ := List.forall_mem_cons.1 h
    have hcons : upper (c :: s) = upperChar c ++ upper s := rfl
    rw [hcons, ih hs]
    simp [upperChar, hc]

theorem toUpper_toLower (c : Char) : c.toLower.toUpper = c.toUpper := by
  by_cases h : c.isUpper
  · have hle := isUpper_iff.1 h
    have hlower : c.toLower.isLower := isLower_iff.2 (by rw [toLower_of_isUpper h]; omega)
    have hnot : ¬c.isLower := fun hc => by
      have := isLower_iff.1 hc
      omega
    rw [toUpper_of_not_isLower hnot]
    apply Char.toNat_inj.1
    rw [toUpper_of_isLower hlower, toLower_of_isUpper h]
    omega
  · rw [toLower_of_not_isUpper h]

/-- A text whose lower case is ASCII without a k has the upper case of that. -/
theorem upper_of_lower_eq {s w : List Char} (h : lower s = w) (hw : ∀ d ∈ w, d ≠ 'k' ∧ d.toNat < 0x80) :
    upper s = w.map Char.toUpper := by
  have hascii : ∀ c ∈ s, c.toNat < 0x80 := by
    refine ascii_of_lowerAfter [] fun d hd => hw d ?_
    rw [← h]
    exact hd
  have hmap : w = s.map Char.toLower := by
    rw [← h]
    exact lowerAfter_ascii [] hascii
  rw [upper_ascii hascii, hmap, List.map_map]
  exact List.map_congr_left fun c _ => (toUpper_toLower c).symm

end Text

theorem uppered_of_lowered {s : String} {m : Method} (h : s.lowered = m.name.lowered) : s.uppered = m.name := by
  have hlower : Text.lower s.toList = Text.lower m.name.toList := by
    have hlist := congrArg String.toList h
    rwa [String.lowered, String.lowered, String.toList_ofList, String.toList_ofList] at hlist
  have hascii : (Text.lower m.name.toList).all (fun d => d != 'k' && decide (d.toNat < 0x80)) = true := by
    cases m <;> decide +kernel
  have hupper : (Text.lower m.name.toList).map Char.toUpper = m.name.toList := by
    cases m <;> decide +kernel
  have hlow : ∀ d ∈ Text.lower m.name.toList, d ≠ 'k' ∧ d.toNat < 0x80 := by
    intro d hd
    simpa using List.all_eq_true.1 hascii d hd
  rw [String.uppered, Text.upper_of_lower_eq hlower hlow, hupper, String.ofList_toList]

/-! ## Routes -/

namespace OpenApi

/-- The verbs of operations in small letters. -/
def verbWords : List String := ["get", "put", "post", "delete", "options", "head", "patch"]

/-- The verb in capitals and the path that a key of a path item stands for. None, if the key is no verb. -/
def route? (path : Value) : Value → Option (String × Value)
  | .text s => if verbWords.contains s.lowered then some (s.uppered, path) else none
  | _ => none

/-- The verbs and paths of the operations of a document: over every path and every key of its item, in
order. -/
def routes (doc : Value) : List (String × Value) :=
  ((Entries.get (doc.entries?.getD []) "paths").entries?.getD []).flatMap fun p =>
    (p.2.entries?.getD []).filterMap fun e => route? p.1 e.1

/-- The verb and path of an endpoint, as a document has them. -/
def routeOf (e : Endpoint) : String × Value := (e.method.name, .text e.path)

theorem contains_verbWords (w : String) :
    verbWords.contains w = true ↔ ∃ m, Method.all.find? (fun m => m.name.lowered == w) = some m := by
  rw [← Option.isSome_iff_exists, List.find?_isSome]
  have hwords : ∀ u, u ∈ verbWords ↔ ∃ m ∈ Method.all, m.name.lowered = u := by
    have hall : verbWords.Perm (Method.all.map fun m => m.name.lowered) := by decide +kernel
    intro u
    rw [hall.mem_iff, List.mem_map]
  simp [hwords]

/-- A key gives the verb that its route has, if it gives one. -/
theorem route?_of_verb? {path key : Value} {found : Option Method} (h : verb? key = .ok found) :
    route? path key = found.map fun m => (m.name, path) := by
  cases key with
  | text s =>
    obtain rfl := Except.ok.inj h
    show (if verbWords.contains s.lowered then some (s.uppered, path) else none) = _
    by_cases hs : verbWords.contains s.lowered = true
    · obtain ⟨m, hm⟩ := (contains_verbWords _).1 hs
      have hlower : m.name.lowered = s.lowered := by simpa using List.find?_some hm
      simp only [hs, if_true, hm, Option.map_some, uppered_of_lowered hlower.symm]
    · cases hfind : Method.all.find? fun m => m.name.lowered == s.lowered with
      | none => rw [if_neg hs, Option.map_none]
      | some m => exact absurd ((contains_verbWords _).2 ⟨m, hfind⟩) hs
  | bytes bs =>
    obtain rfl := Except.ok.inj h
    rfl
  | _ => cases h

/-- An operation gives an endpoint with its verb and path. -/
theorem routeOf_endpoint {o : Operation} {e : Endpoint} (h : o.endpoint.outcome = .ok e) :
    routeOf e = (o.method.name, o.path) := by
  obtain ⟨ds, -, h⟩ := Traced.bind_eq_ok.1 h
  obtain ⟨params, -, h⟩ := Traced.bind_eq_ok.1 h
  obtain ⟨path, hpath, h⟩ := Traced.bind_eq_ok.1 h
  obtain ⟨body, -, h⟩ := Traced.bind_eq_ok.1 h
  obtain ⟨id, -, h⟩ := Traced.bind_eq_ok.1 h
  obtain ⟨rs, -, h⟩ := Traced.bind_eq_ok.1 h
  obtain ⟨security, -, h⟩ := Traced.bind_eq_ok.1 h
  obtain ⟨tags, -, h⟩ := Traced.bind_eq_ok.1 h
  obtain ⟨-, hmethod, hep, -⟩ := make_eq_ok h
  have htext : o.path = .text path := by
    cases hv : o.path with
    | text s =>
      rw [hv] at hpath
      cases hpath
      rfl
    | _ =>
      rw [hv] at hpath
      cases hpath
  dsimp only at hmethod hep
  rw [routeOf, ← hmethod, hep, htext]

theorem map_routeOf_endpoint? {doc : Entries} {path shared key v : Value} {found : Option Endpoint}
    (h : (endpoint? doc path shared key v).outcome = .ok found) : found.map routeOf = route? path key := by
  rcases endpoint?_eq_ok h with ⟨hverb, rfl⟩ | ⟨method, fields, e, hverb, -, rfl, he⟩
  · rw [route?_of_verb? hverb]
    rfl
  · rw [route?_of_verb? hverb]
    exact congrArg some (routeOf_endpoint he)

theorem map_routeOf_endpointsOfPath {doc : Entries} {path shared : Value} {item : Entries} {es : List Endpoint}
    (h : (endpointsOfPath doc path shared item).outcome = .ok es) :
    es.map routeOf = item.filterMap fun e => route? path e.1 := by
  induction item generalizing es with
  | nil =>
    cases h
    rfl
  | cons entry item ih =>
    obtain ⟨found, hfound, h⟩ := Traced.bind_eq_ok.1 h
    obtain ⟨rest, hrest, h⟩ := Traced.bind_eq_ok.1 h
    cases h
    have hhead := map_routeOf_endpoint? hfound
    rw [List.map_append, ih hrest, List.filterMap_cons, ← hhead]
    cases found <;> rfl

theorem map_routeOf_endpointsOfPaths {doc paths : Entries} {es : List Endpoint}
    (h : (endpointsOfPaths doc paths).outcome = .ok es) :
    es.map routeOf = paths.flatMap fun p => (p.2.entries?.getD []).filterMap fun e => route? p.1 e.1 := by
  induction paths generalizing es with
  | nil =>
    cases h
    rfl
  | cons entry paths ih =>
    obtain ⟨path, v⟩ := entry
    obtain ⟨item, first, rest, rfl, rfl, hfirst, hrest⟩ := endpointsOfPaths_cons_eq_ok h
    rw [List.map_append, List.flatMap_cons, map_routeOf_endpointsOfPath hfirst, ih hrest]
    rfl

/-- A value that is empty has no entries. -/
theorem entries_of_not_truthy {v : Value} (h : ¬v.truthy = true) : v.entries?.getD [] = [] := by
  cases v with
  | map es => simpa [Value.truthy, Value.entries?] using h
  | _ => rfl

/-- The endpoints of a document are those of its paths. -/
theorem paths_of_endpoints {doc : Entries} {es : List Endpoint} (h : (endpoints doc).outcome = .ok es) :
    ∃ paths, paths = (Entries.get doc "paths").entries?.getD [] ∧ (endpointsOfPaths doc paths).outcome = .ok es := by
  unfold endpoints at h
  split at h
  · rename_i paths hpaths
    refine ⟨paths, ?_, h⟩
    unfold Value.orElse at hpaths
    split at hpaths
    · rw [hpaths]
      rfl
    · rename_i hempty
      cases hpaths
      exact (entries_of_not_truthy hempty).symm
  · cases h

theorem map_routeOf_endpoints {doc : Entries} {es : List Endpoint} (h : (endpoints doc).outcome = .ok es) :
    es.map routeOf = routes (.map doc) := by
  obtain ⟨paths, hpaths, h⟩ := paths_of_endpoints h
  rw [map_routeOf_endpointsOfPaths h, hpaths]
  rfl

theorem map_routeOf_withDistinctIds (es : List Endpoint) :
    (Endpoint.withDistinctIds es).map routeOf = es.map routeOf := by
  have hroute : routeOf = (fun r : Method × String => (r.1.name, Value.text r.2)) ∘ Endpoint.route := rfl
  rw [hroute, ← List.map_map, ← List.map_map, map_route_withDistinctIds]

theorem routes_ofDocument {doc : Value} {api : Api} (h : (ofDocument doc).outcome = .ok api) :
    api.endpoints.map routeOf = routes doc := by
  obtain ⟨fields, es, rfl, -, -, hes, hall⟩ := ofDocument_cases h
  rw [hall, map_routeOf_withDistinctIds, map_routeOf_endpoints hes]

/-- If an API is read from a text, the text holds a document with a version, whose references are replaced
first. The verbs and paths of the endpoints are then those of its operations, one for one and in the order
of the document. -/
theorem routes_read {text : String} {api : Api} (h : (read text).outcome = .ok api) :
    ∃ doc resolved, Document.entries text = .ok doc ∧
      (Entries.has doc "openapi" = true ∨ Entries.has doc "swagger" = true) ∧
      (Reference.resolve (.map doc)).outcome = .ok resolved ∧ api.endpoints.map routeOf = routes resolved := by
  obtain ⟨doc, resolved, hdoc, hversion, hresolved, h⟩ := document_of_read h
  exact ⟨doc, resolved, hdoc, hversion, hresolved, routes_ofDocument h⟩

/-- A path item that two paths share through a reference, with keys that are no verbs. -/
def sharedPaths : String :=
  "\x7b\"openapi\": \"3.1.0\", \"paths\": \x7b\"/pets\": \x7b\"x-note\": 1, \"GET\": \x7b\x7d, \"trace\": \x7b\x7d, " ++
    "\"parameters\": [], \"Post\": \x7b\x7d\x7d, \"/dogs\": \x7b\"$ref\": \"#/paths/~1pets\", \"get\": \x7b\x7d\x7d\x7d\x7d"

theorem routes_read_sharedPaths : ∃ api, (read sharedPaths).outcome = .ok api ∧
    api.endpoints.map routeOf = [("GET", .text "/pets"), ("POST", .text "/pets"), ("GET", .text "/dogs"),
      ("POST", .text "/dogs"), ("GET", .text "/dogs")] ∧
    ∃ doc resolved, Document.entries sharedPaths = .ok doc ∧
      (Entries.has doc "openapi" = true ∨ Entries.has doc "swagger" = true) ∧
      (Reference.resolve (.map doc)).outcome = .ok resolved ∧ api.endpoints.map routeOf = routes resolved := by
  have hroutes : (read sharedPaths).outcome.toOption.map
      (fun api => api.endpoints.map fun e => (e.method.name, e.path)) =
      some [("GET", "/pets"), ("POST", "/pets"), ("GET", "/dogs"), ("POST", "/dogs"), ("GET", "/dogs")] := by
    decide +kernel
  obtain ⟨api, hread, hpairs⟩ := toOption_map_eq_some.1 hroutes
  refine ⟨api, hread, ?_, routes_read hread⟩
  have hroute : routeOf =
      (fun r : String × String => (r.1, Value.text r.2)) ∘ fun e => (e.method.name, e.path) := rfl
  rw [hroute, ← List.map_map, hpairs]
  rfl

end OpenApi

end ClientForge
