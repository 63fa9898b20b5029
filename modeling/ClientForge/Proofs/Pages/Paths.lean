import ClientForge.Proofs.Consistency
import ClientForge.Proofs.OneLine
import ClientForge.Proofs.Pages.Reading

/-!
The paths of pages. Whatever token a path is read from, it comes out tidy, and the tidy paths are those that come
out as they are (`cleanPath_eq_self_iff`). So the endpoints of a page are compared by tidy paths: there is one for
each verb and tidy path of a request that a candidate mentions, and no other (`cleanPath_normal`).
-/

namespace ClientForge.Page

open Html (Element Located)

/-! ## Tidy paths -/

/-- A slash, then word characters and the signs of paths, without a stop at the end. -/
structure IsTidy (path : List Char) : Prop where
  starts : path.head? = some '/'
  chars : ∀ c ∈ path, Text.isWord c ∨ c ∈ ['/', '-', '\x7b', '\x7d', '.']
  ends : path.getLast? ≠ some '.'

theorem isPathChar_iff {c : Char} : isPathChar c ↔ Text.isWord c ∨ c ∈ ['/', '-', '\x7b', '\x7d', '.'] := by
  simp [isPathChar, or_assoc]

theorem rooted_eq (path : List Char) : rooted path = path ∧ path.head? = some '/' ∨ rooted path = '/' :: path := by
  unfold rooted
  split
  · exact Or.inl ⟨rfl, rfl⟩
  · exact Or.inr rfl

/-- A slash in front makes a path tidy that holds what it should and ends without a stop. -/
theorem isTidy_rooted {path : List Char} (hchars : ∀ c ∈ path, isPathChar c) (hends : path.getLast? ≠ some '.') :
    IsTidy (rooted path) := by
  rcases rooted_eq path with ⟨heq, hstarts⟩ | heq
  · rw [heq]
    exact ⟨hstarts, fun c hc => isPathChar_iff.1 (hchars c hc), hends⟩
  · rw [heq]
    refine ⟨rfl, fun c hc => ?_, ?_⟩
    · rcases List.mem_cons.1 hc with rfl | hc
      · exact Or.inr List.mem_cons_self
      · exact isPathChar_iff.1 (hchars c hc)
    · -- Where nothing was left, the slash itself is the end.
      cases path with
      | nil => decide
      | cons c path => rwa [List.getLast?_cons_cons]

theorem isTidy_tidyPath (path : List Char) : IsTidy (tidyPath path) := by
  refine isTidy_rooted (fun c hc => ?_) (Text.getLast?_stripRightBy_ne (by decide) _)
  have hkept := (Text.prefix_stripRightBy _ _).subset hc
  exact (List.mem_filter.1 hkept).2

example : tidyPath "pets/\x7bid\x7d,.?limit=1.".toList = "/pets/\x7bid\x7d".toList := by decide

namespace IsTidy

variable {path : List Char}

theorem not_mem (h : IsTidy path) {c : Char} (hc : isPathChar c = false) : c ∉ path := fun hmem =>
  Bool.eq_false_iff.1 hc (isPathChar_iff.2 (h.chars c hmem))

/-- Each step of tidying a path finds nothing to do in a tidy one. -/
theorem tidyPath_eq (h : IsTidy path) : tidyPath path = path := by
  have hquery : Text.upTo '?' path = path := Text.upTo_of_not_mem (h.not_mem (by decide))
  have hfragment : Text.upTo '#' path = path := Text.upTo_of_not_mem (h.not_mem (by decide))
  have hkept : path.filter isPathChar = path := List.filter_eq_self.2 fun c hc => isPathChar_iff.2 (h.chars c hc)
  have hstops : Text.stripRightBy (· == '.') path = path := by
    refine Text.stripRightBy_eq_self fun c hc => ?_
    have hne : c ≠ '.' := by
      rintro rfl
      exact h.ends hc
    simpa using hne
  simp only [tidyPath, hquery, hfragment, hkept, hstops]
  obtain ⟨rest, rfl⟩ := List.head?_eq_some_iff.1 h.starts
  rfl

/-- A tidy path is no web address. -/
theorem pathOf_eq (h : IsTidy path) : pathOf path = .ok path := by
  obtain ⟨rest, rfl⟩ := List.head?_eq_some_iff.1 h.starts
  rfl

end IsTidy

/-- Any path that a token stands for is tidy. -/
theorem isTidy_of_cleanPath {token path : List Char} (h : cleanPath token = .ok path) : IsTidy path := by
  obtain ⟨s, -, rfl⟩ := map_eq_ok.1 h
  exact isTidy_tidyPath s

theorem cleanPath_eq_self_iff {path : List Char} : cleanPath path = .ok path ↔ IsTidy path :=
  ⟨isTidy_of_cleanPath, fun h => map_eq_ok.2 ⟨path, h.pathOf_eq, h.tidyPath_eq⟩⟩

/-! ## Endpoints by their paths -/

/-- Is a text about a request of the verb, at a token that stands for the path? -/
def Mentions (text : String) (route : Method × String) : Prop :=
  ∃ m, request? text.toList = some m ∧ (String.ofList m.verb).uppered = route.1.name ∧
    cleanPath m.token = .ok route.2.toList

theorem not_mentions_empty (route : Method × String) : ¬Mentions "" route := by
  rintro ⟨m, hm, -⟩
  have hnone : request? "".toList = none := by decide
  rw [hnone] at hm
  cases hm

/-- The verb and path of an endpoint are those that its text mentions. -/
theorem mentions_of_endpointIn? {text description : String} {e : Endpoint}
    (h : (endpointIn? text description).outcome = .ok (some e)) : Mentions text e.route := by
  unfold endpointIn? at h
  split at h
  · cases h
  · rename_i m hm
    obtain ⟨path, hpath, h⟩ := Traced.bind_eq_ok.1 h
    dsimp only at h
    split at h
    · rename_i made hmade
      cases h
      obtain ⟨-, hverb, hroute, -⟩ := make_eq_ok hmade
      refine ⟨m, hm, hverb, ?_⟩
      rw [Endpoint.route, hroute, String.toList_ofList]
      exact hpath
    · cases h

theorem mentions_iff {e : Element} {l : Located} {found : Option Endpoint} {route : Method × String}
    (h : (endpointOf? e l).outcome = .ok found) :
    Mentions (e.trimmedText " ") route ↔ found.map Endpoint.route = some route := by
  unfold endpointOf? at h
  dsimp only at h
  split at h
  · rename_i hempty
    cases h
    rw [String.isEmpty_iff.1 hempty]
    exact iff_of_false (not_mentions_empty route) (by simp)
  · constructor
    · rintro ⟨m, hm, hverb, hpath⟩
      obtain ⟨d, hd, hroute⟩ := exists_endpointIn? hm hpath (ofName?_eq_some.2 hverb) (describe l)
      obtain rfl := Except.ok.inj (h.symm.trans hd)
      rw [Option.map_some, hroute, String.ofList_toList]
    · intro hroute
      obtain ⟨d, rfl, rfl⟩ := Option.map_eq_some_iff.1 hroute
      exact mentions_of_endpointIn? h

/-- The endpoints of some places have every verb and path that is mentioned there and has not been met. -/
theorem mem_routes_endpointsFrom {met : List (Method × String)} {places : List (Element × Located)}
    {es : List Endpoint} (h : (endpointsFrom met places).outcome = .ok es) {route : Method × String} :
    route ∈ es.map Endpoint.route ↔ route ∉ met ∧ ∃ place ∈ places, Mentions (place.1.trimmedText " ") route := by
  induction places generalizing met es with
  | nil =>
    cases h
    simp
  | cons place places ih =>
    obtain ⟨found, hfound, h⟩ := Traced.bind_eq_ok.1 h
    rw [List.exists_mem_cons_iff, mentions_iff hfound]
    cases found with
    | none =>
      rw [ih h]
      simp
    | some e =>
      dsimp only at h
      rw [Option.map_some, Option.some.injEq]
      split at h
      · -- A verb and path that has been met is not counted again.
        rename_i hmet
        have hin : e.route ∈ met := by simpa [Endpoint.route] using hmet
        obtain ⟨u, -, h⟩ := Traced.bind_eq_ok.1 h
        rw [ih h]
        refine and_congr_right fun hnew => (or_iff_right ?_).symm
        rintro rfl
        exact hnew hin
      · -- A new one is counted here, and is met for all places after this one.
        rename_i hmet
        have hout : e.route ∉ met := by simpa [Endpoint.route] using hmet
        obtain ⟨rest, hrest, h⟩ := Traced.bind_eq_ok.1 h
        cases h
        have hrec : route ∈ rest.map Endpoint.route ↔ route ∉ e.route :: met ∧ _ := ih hrest
        rw [List.map_cons, List.mem_cons, hrec, List.mem_cons]
        by_cases heq : route = e.route
        · subst heq
          simp [hout]
        · simp [heq, Ne.symm heq]

/-! ## Pages -/

section

variable {nodes : List Html.Node} {api : Api} (h : (ofNodes nodes).outcome = .ok api)

include h

theorem nodup_routes : (api.endpoints.map Endpoint.route).Nodup := by
  obtain ⟨es, -, -, hes, hrenamed⟩ := ofNodes_cases h
  rw [hrenamed, map_route_withDistinctIds]
  exact (formed_endpointsFrom hes).2.1

theorem mem_routes_iff {route : Method × String} : route ∈ api.endpoints.map Endpoint.route ↔
    ∃ place ∈ candidates (Html.allNodes nodes), Mentions (place.1.trimmedText " ") route := by
  obtain ⟨es, -, -, hes, hrenamed⟩ := ofNodes_cases h
  rw [hrenamed, map_route_withDistinctIds, mem_routes_endpointsFrom hes]
  exact and_iff_right List.not_mem_nil

theorem isTidy_of_mem_endpoints {e : Endpoint} (he : e ∈ api.endpoints) : IsTidy e.path.toList := by
  obtain ⟨place, -, m, -, -, hpath⟩ := (mem_routes_iff h).1 (List.mem_map_of_mem he)
  exact isTidy_of_cleanPath hpath

end

/-- Each token that is a path, or an address with a well-formed host, stands for a path. That path is tidy: it
starts with a slash, holds nothing but word characters and the signs of paths, and does not end with a stop. The
tidy paths are those that stand for themselves. Verbs and tidy paths are what the endpoints of a page are told apart
by: they are the verbs and paths of the requests that the candidates mention, each once. -/
theorem cleanPath_normal :
    (∀ token, tokenFits token → ∃ path, cleanPath token = .ok path ∧ IsTidy path ∧ cleanPath path = .ok path) ∧
    (∀ path, cleanPath path = .ok path ↔ IsTidy path) ∧
    ∀ text nodes api, Html.read text = .ok nodes → (Format.html.read text).outcome = .ok api →
      (∀ e ∈ api.endpoints, IsTidy e.path.toList ∧ cleanPath e.path.toList = .ok e.path.toList) ∧
      (api.endpoints.map Endpoint.route).Nodup ∧
      ∀ route, route ∈ api.endpoints.map Endpoint.route ↔
        ∃ place ∈ candidates (Html.allNodes nodes), Mentions (place.1.trimmedText " ") route := by
  refine ⟨fun token hfits => ?_, fun path => cleanPath_eq_self_iff, fun text nodes api hnodes hread => ?_⟩
  · obtain ⟨path, hpath⟩ : Decides true (cleanPath token) := hfits ▸ decides_cleanPath token
    have htidy := isTidy_of_cleanPath hpath
    exact ⟨path, hpath, htidy, cleanPath_eq_self_iff.2 htidy⟩
  · obtain ⟨_, hsame, hof⟩ := read_eq_ok.1 hread
    obtain rfl := Except.ok.inj (hnodes.symm.trans hsame)
    refine ⟨fun e he => ?_, nodup_routes hof, fun route => mem_routes_iff hof⟩
    have htidy := isTidy_of_mem_endpoints hof he
    exact ⟨htidy, cleanPath_eq_self_iff.2 htidy⟩

/-- A page that mentions one request in two ways. -/
def spellingsPage : String := "<h2>GET /pets.</h2><h3>get http://x/pets?limit=1</h3>"

theorem cleanPath_normal_spellings :
    (tokenFits "http://[::1]/pets/.?limit=1".toList = true ∧
      ∃ path, cleanPath "http://[::1]/pets/.?limit=1".toList = .ok path ∧ IsTidy path ∧ cleanPath path = .ok path) ∧
    ∃ nodes api, Html.read spellingsPage = .ok nodes ∧ (Format.html.read spellingsPage).outcome = .ok api ∧
      api.endpoints.map Endpoint.route = [(.get, "/pets")] ∧
      (∀ e ∈ api.endpoints, IsTidy e.path.toList ∧ cleanPath e.path.toList = .ok e.path.toList) ∧
      (api.endpoints.map Endpoint.route).Nodup ∧
      ∀ route, route ∈ api.endpoints.map Endpoint.route ↔
        ∃ place ∈ candidates (Html.allNodes nodes), Mentions (place.1.trimmedText " ") route := by
  obtain ⟨htoken, -, hpage⟩ := cleanPath_normal
  have hfits : tokenFits "http://[::1]/pets/.?limit=1".toList = true := by decide +kernel
  have hroutes : (Format.html.read spellingsPage).outcome.toOption.map (fun api => api.endpoints.map Endpoint.route) =
      some [(.get, "/pets")] := by decide +kernel
  obtain ⟨api, hread, heq⟩ := toOption_map_eq_some.1 hroutes
  obtain ⟨nodes, hnodes, -⟩ := read_eq_ok.1 hread
  exact ⟨⟨hfits, htoken _ hfits⟩, nodes, api, hnodes, hread, heq, hpage _ nodes api hnodes hread⟩

end ClientForge.Page
