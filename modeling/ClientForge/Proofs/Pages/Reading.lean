import ClientForge.Proofs.Documents
import ClientForge.Proofs.Failures.Basic
import ClientForge.Proofs.Pages.Markup
import ClientForge.Source

/-!
How reading a page ends (`read_page`). Markup that can be read gives an API, unless an address that the
reading takes apart has a malformed host: one that a request is mentioned at, or one in a piece of code that
is searched for the server. Whatever else a page holds, it stops no reading.
-/

namespace ClientForge

/-! ## Outcomes that a check decides -/

/-- An outcome is some result if a check passes, else the failure of a malformed address. -/
def Decides {α : Type} (fits : Bool) (x : Except Failure α) : Prop :=
  if fits then ∃ a, x = .ok a else x = .error (.broken .badValue)

namespace Decides

variable {α β : Type} {fits more : Bool}

theorem ok (a : α) : Decides true (.ok a) := ⟨a, rfl⟩

theorem bind {x : Except Failure α} {f : α → Except Failure β} (hx : Decides fits x)
    (hf : ∀ a, x = .ok a → Decides more (f a)) : Decides (fits && more) (x.bind f) := by
  cases fits with
  | true =>
    obtain ⟨a, rfl⟩ := hx
    exact hf a rfl
  | false =>
    obtain rfl : x = .error (.broken .badValue) := hx
    exact rfl

/-- Going on without a further check. -/
theorem andThen {x : Except Failure α} {f : α → Except Failure β} (hx : Decides fits x)
    (hf : ∀ a, x = .ok a → ∃ b, f a = .ok b) : Decides fits (x.bind f) := by
  have hboth : Decides (fits && true) (x.bind f) := hx.bind hf
  rwa [Bool.and_true] at hboth

end Decides

/-! ## Malformed hosts -/

namespace Url

/-- A bracket, or a sign that stands for a delimiter. -/
def isSuspect (c : Char) : Bool := c == '[' || c == ']' || disguised.contains c.toNat

theorem splitScheme_suffix (s : List Char) : (splitScheme s).2 <:+ s := by
  unfold splitScheme
  split
  · rename_i scheme rest hcut
    split
    · exact Html.suffix_of_cut? hcut
    · exact List.suffix_refl s
  · exact List.suffix_refl s

theorem isHost_of_plain {host : List Char} (h : ∀ c ∈ host, isSuspect c = false) : isHost host = true := by
  have hplain : ∀ c ∈ host, c ≠ '[' ∧ c ≠ ']' ∧ disguised.contains c.toNat = false := by
    intro c hc
    simpa [isSuspect, and_assoc] using h c hc
  have hopens : host.contains '[' = false := by
    simpa using fun hmem => (hplain '[' hmem).1 rfl
  have hcloses : host.contains ']' = false := by
    simpa using fun hmem => (hplain ']' hmem).2.1 rfl
  have hdisguised : (host.any fun c => disguised.contains c.toNat) = false :=
    List.any_eq_false.2 fun c hc => Bool.eq_false_iff.1 (hplain c hc).2.2
  unfold isHost
  rw [hopens, hcloses, hdisguised]
  rfl

/-- An address whose host is malformed shows a sign for it. -/
theorem any_isSuspect_of_split? {address : List Char} (h : split? address = none) : address.any isSuspect = true := by
  by_contra hplain
  have hall : ∀ c ∈ address, isSuspect c = false := by simpa using hplain
  let s := (address.dropWhile (·.toNat ≤ 0x20)).filter fun c => c != '\t' && c != '\r' && c != '\n'
  have hs : s ⊆ address := List.Subset.trans List.filter_sublist.subset (List.dropWhile_suffix _).subset
  have hrest : (splitScheme s).2 ⊆ address := List.Subset.trans (splitScheme_suffix s).subset hs
  unfold split? at h
  simp only [ite_eq_right_iff, reduceCtorEq, imp_false] at h
  refine h (isHost_of_plain fun c hc => hall c (hrest ?_))
  split at hc
  · rename_i t ht
    rw [show (splitScheme s).2 = '/' :: '/' :: t from ht]
    rw [List.span_eq_takeWhile_dropWhile] at hc
    exact List.mem_cons_of_mem _ (List.mem_cons_of_mem _ ((List.takeWhile_prefix _).subset hc))
  · cases hc

end Url

namespace Page

open Html (Element Located)

/-! ## Endpoints -/

/-- Is a token a path, or an address with a well-formed host? -/
def tokenFits (token : List Char) : Bool := (afterProtocol? token).isNone || (Url.split? token).isSome

/-- Is the request that a text is about, if any, at a path or at an address with a well-formed host? -/
def requestFits (text : String) : Bool := (request? text.toList).all fun m => tokenFits m.token

theorem decides_cleanPath (token : List Char) : Decides (tokenFits token) (cleanPath token) := by
  unfold tokenFits cleanPath pathOf
  cases hprotocol : afterProtocol? token with
  | none => exact Decides.ok _
  | some rest => cases Url.split? token with
    | none => exact rfl
    | some url => exact Decides.ok _

theorem decides_endpointIn? (text description : String) :
    Decides (requestFits text) (endpointIn? text description).outcome := by
  unfold endpointIn? requestFits
  cases request? text.toList with
  | none => exact Decides.ok none
  | some m =>
    simp only [Option.all_some, Traced.outcome_bind, Traced.outcome_liftM]
    refine (decides_cleanPath m.token).andThen fun path _ => ?_
    -- An endpoint that breaks a rule is passed over.
    split <;> exact ⟨_, rfl⟩

theorem requestFits_empty : requestFits "" = true := by decide

theorem decides_endpointOf? (e : Element) (l : Located) :
    Decides (requestFits (e.trimmedText " ")) (endpointOf? e l).outcome := by
  unfold endpointOf?
  by_cases hempty : (e.trimmedText " ").isEmpty = true
  · rw [String.isEmpty_iff.1 hempty, requestFits_empty]
    exact Decides.ok none
  · simp only [hempty]
    exact decides_endpointIn? _ _

theorem decides_endpointsFrom (met : List (Method × String)) (cs : List (Element × Located)) :
    Decides (cs.all fun c => requestFits (c.1.trimmedText " ")) (endpointsFrom met cs).outcome := by
  induction cs generalizing met with
  | nil => exact Decides.ok []
  | cons c cs ih =>
    obtain ⟨e, l⟩ := c
    simp only [endpointsFrom, List.all_cons, Traced.outcome_bind]
    refine (decides_endpointOf? e l).bind fun found _ => ?_
    cases found with
    | none => exact ih met
    | some endpoint =>
      dsimp only
      split
      · rw [Traced.outcome_bind, Traced.outcome_note]
        exact ih met
      · rw [Traced.outcome_bind]
        exact (ih _).andThen fun more _ => ⟨endpoint :: more, rfl⟩

/-! ## The server -/

/-- Are the addresses well formed, up to the first that names a host? -/
def addressesFit : List (List Char) → Bool
  | [] => true
  | address :: more =>
    match Url.split? address with
    | none => false
    | some url => !url.host.isEmpty || addressesFit more

theorem decides_serverOfCodes (es : List Element) :
    Decides (addressesFit (es.filterMap fun e => address? (e.textWith "").toList)) (serverOfCodes es) := by
  induction es with
  | nil => exact Decides.ok ""
  | cons e es ih =>
    simp only [serverOfCodes, serverOfCode?, List.filterMap_cons]
    cases address? (e.textWith "").toList with
    | none => exact ih
    | some address =>
      simp only [addressesFit]
      cases Url.split? address with
      | none => exact rfl
      | some url =>
        cases hhost : url.host.isEmpty with
        | true =>
          simp only [hhost]
          exact ih
        | false =>
          simp only [hhost]
          exact Decides.ok _

/-- The server that a page tells of after a phrase. -/
def toldServer? (all : List Located) : Option String :=
  serverPhrases.firstM fun p => all.firstM (serverIn? p.toList)

/-- Does the page tell its server after a phrase, or are the addresses in its code well formed up to the first
that names a host? -/
def serverFits (all : List Located) : Bool :=
  (toldServer? all).isSome ||
    addressesFit ((Html.elementsNamed ["code", "pre"] all).filterMap fun c => address? (c.1.textWith "").toList)

theorem decides_baseUrl (all : List Located) : Decides (serverFits all) (baseUrl all) := by
  unfold serverFits baseUrl
  cases htold : toldServer? all with
  | some s =>
    unfold toldServer? at htold
    rw [htold]
    exact Decides.ok s
  | none =>
    unfold toldServer? at htold
    rw [htold]
    simpa [List.filterMap_map, Function.comp_def] using
      decides_serverOfCodes ((Html.elementsNamed ["code", "pre"] all).map (·.1))

/-! ## Pages -/

/-- Are the addresses that reading the nodes takes apart well formed? -/
def fits (nodes : List Html.Node) : Bool :=
  serverFits (Html.allNodes nodes) &&
    (candidates (Html.allNodes nodes)).all fun c => requestFits (c.1.trimmedText " ")

theorem decides_ofNodes (nodes : List Html.Node) : Decides (fits nodes) (ofNodes nodes).outcome := by
  simp only [fits, ofNodes, endpoints, Traced.outcome_bind, Traced.outcome_liftM]
  refine (decides_baseUrl _).bind fun url _ => ?_
  refine (decides_endpointsFrom [] _).andThen fun es _ => ?_
  rw [outcome_renamed]
  exact ⟨_, rfl⟩

/-- The paths and addresses that reading the nodes may look at. -/
def addresses (nodes : List Html.Node) : List (List Char) :=
  (Html.elementsNamed ["code", "pre"] (Html.allNodes nodes)).filterMap (fun c => address? (c.1.textWith "").toList) ++
    (candidates (Html.allNodes nodes)).filterMap fun c => (request? (c.1.trimmedText " ").toList).map (·.token)

theorem exists_mem_of_addressesFit {as : List (List Char)} (h : addressesFit as = false) :
    ∃ address ∈ as, Url.split? address = none := by
  induction as with
  | nil => cases h
  | cons address as ih =>
    unfold addressesFit at h
    split at h
    · rename_i hsplit
      exact ⟨address, List.mem_cons_self, hsplit⟩
    · obtain ⟨found, hfound, hsplit⟩ := ih (Bool.or_eq_false_iff.1 h).2
      exact ⟨found, List.mem_cons_of_mem _ hfound, hsplit⟩

/-- If the nodes do not fit, one of their addresses has a malformed host. -/
theorem exists_mem_addresses {nodes : List Html.Node} (h : fits nodes = false) :
    ∃ address ∈ addresses nodes, Url.split? address = none := by
  rcases Bool.and_eq_false_iff.1 h with hserver | hcandidates
  · obtain ⟨address, hmem, hsplit⟩ := exists_mem_of_addressesFit (Bool.or_eq_false_iff.1 hserver).2
    exact ⟨address, List.mem_append_left _ hmem, hsplit⟩
  · obtain ⟨c, hc, hunfit⟩ := List.all_eq_false.1 hcandidates
    obtain ⟨m, hm, htoken⟩ := (Option.all_eq_false _ _).1 (Bool.eq_false_iff.2 hunfit)
    refine ⟨m.token, List.mem_append_right _ (List.mem_filterMap.2 ⟨c, hc, by rw [hm]; rfl⟩), ?_⟩
    exact Option.not_isSome_iff_eq_none.1 (Bool.eq_false_iff.1 (Bool.or_eq_false_iff.1 htoken).2)

end Page

/-- How reading a page ends. Markup that cannot be read holds what it cannot be read for. Any other page gives
an API if the addresses that the reading takes apart are well formed. Else the reading fails, and one of the
addresses is malformed: it holds a bracket or a sign that stands for a delimiter. -/
theorem read_page (text : String) :
    match Html.read text with
    | .error fault => fault.Occurs text.toList ∧ (Format.html.read text).outcome = .error (Page.failure fault)
    | .ok nodes =>
      Decides (Page.fits nodes) (Format.html.read text).outcome ∧
        (Page.fits nodes = true ∨
          ∃ address ∈ Page.addresses nodes, Url.split? address = none ∧ address.any Url.isSuspect = true) := by
  have hread : (Format.html.read text).outcome =
      ((Html.read text).mapError Page.failure).bind fun nodes => (Page.ofNodes nodes).outcome := by
    simp only [Format.read, Page.read, Traced.outcome_bind, Traced.outcome_liftM]
  rw [hread]
  cases hnodes : Html.read text with
  | error fault => exact ⟨Html.read_eq_error hnodes, rfl⟩
  | ok nodes =>
    refine ⟨Page.decides_ofNodes nodes, ?_⟩
    cases hfits : Page.fits nodes with
    | true => exact Or.inl rfl
    | false =>
      obtain ⟨address, hmem, hsplit⟩ := Page.exists_mem_addresses hfits
      exact Or.inr ⟨address, hmem, hsplit, Url.any_isSuspect_of_split? hsplit⟩

/-- A page with a request at an address whose bracket is not closed. -/
def openBracketPage : String := "<h2>GET http://[bad</h2>"

/-- Not every page gives an API. -/
theorem openBracketPage_not_read : ¬∀ text, ∃ api, (Format.html.read text).outcome = .ok api := by
  intro h
  obtain ⟨api, hapi⟩ := h openBracketPage
  have hbroken : (Format.html.read openBracketPage).outcome = .error (.broken .badValue) :=
    failure?_eq_some.1 (by decide +kernel)
  rw [hbroken] at hapi
  cases hapi

end ClientForge
