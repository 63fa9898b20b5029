import ClientForge.Proofs.Endpoints

/-!
Placeholders. Those of a path are the names that stand between braces in it (`mem_placeholders_iff`), in the
order in which they do so first (`pairwise_placeholders`). A path parameter is added for each that has none, and
then no more are missing (`completion_withPathParams`, `withPathParams_withPathParams`). The fields of an
endpoint that a reader puts together pass the check of endpoints, unless their path does not start with a
slash (`EndpointFields.Assembled.fault?_eq`).
-/

namespace ClientForge

open Text (braced)

/-! ## Scanning for names -/

/-- A name that can stand between the braces of a placeholder. -/
def IsPlaceholderName (name : List Char) : Prop :=
  name ≠ [] ∧ ∀ c ∈ name, c ≠ '\x7b' ∧ c ≠ '\x7d' ∧ c ≠ '/'

theorem IsPlaceholderName.open_not_mem {name : List Char} (h : IsPlaceholderName name) : '\x7b' ∉ name :=
  fun hmem => (h.2 _ hmem).1 rfl

theorem IsPlaceholderName.close_not_mem {name : List Char} (h : IsPlaceholderName name) : '\x7d' ∉ name :=
  fun hmem => (h.2 _ hmem).2.1 rfl

/-- The name that is open after one more character. -/
def openAfter (inside : Option (List Char)) (c : Char) : Option (List Char) :=
  if c = '\x7b' then some []
  else if c = '\x7d' ∨ c = '/' then none
  else inside.map (c :: ·)

/-- The name that a character closes. -/
def closedBy (inside : Option (List Char)) (c : Char) : Option (List Char) :=
  if c = '\x7d' then (inside.filter (!·.isEmpty)).map List.reverse else none

theorem bracedNames_cons (inside : Option (List Char)) (c : Char) (s : List Char) :
    bracedNames inside (c :: s) = (closedBy inside c).toList ++ bracedNames (openAfter inside c) s := by
  rw [bracedNames.eq_def, openAfter, closedBy]
  by_cases hopen : c = '\x7b'
  · simp [hopen]
  · cases inside with
    | none => by_cases hclose : c = '\x7d' <;> simp [hopen, hclose]
    | some name =>
      by_cases hclose : c = '\x7d'
      · cases name <;> simp [hclose, Option.filter]
      · by_cases hslash : c = '/' <;> simp [hopen, hclose, hslash]

/-- The text of the name that is open, with the brace before it. -/
def openText (inside : Option (List Char)) : List Char := (inside.map fun name => '\x7b' :: name.reverse).getD []

/-- No open name holds a brace or a slash. -/
def OpenPlain (inside : Option (List Char)) : Prop :=
  ∀ name ∈ inside, ∀ c ∈ name, c ≠ '\x7b' ∧ c ≠ '\x7d' ∧ c ≠ '/'

theorem OpenPlain.after {inside : Option (List Char)} (h : OpenPlain inside) (c : Char) :
    OpenPlain (openAfter inside c) := by
  intro name hname
  unfold openAfter at hname
  split at hname
  · cases hname
    simp
  · split at hname
    · cases hname
    · obtain ⟨before, hbefore, rfl⟩ := Option.map_eq_some_iff.1 hname
      refine List.forall_mem_cons.2 ⟨?_, h before hbefore⟩
      simp_all

theorem openText_suffix (inside : Option (List Char)) (c : Char) :
    openText (openAfter inside c) <:+ openText inside ++ [c] := by
  unfold openAfter
  split
  · rename_i hc
    exact ⟨openText inside, by simp [openText, hc]⟩
  · split
    · exact List.nil_suffix
    · cases inside <;> simp [openText]

theorem closedBy_eq_some {inside : Option (List Char)} (hplain : OpenPlain inside) {c : Char} {name : List Char}
    (h : closedBy inside c = some name) : IsPlaceholderName name ∧ openText inside ++ [c] = braced name := by
  unfold closedBy at h
  split at h
  · rename_i hc
    obtain ⟨before, hbefore, rfl⟩ := Option.map_eq_some_iff.1 h
    obtain ⟨hinside, hne⟩ := Option.filter_eq_some_iff.1 hbefore
    refine ⟨⟨by simpa using hne, fun d hd => hplain before hinside d (List.mem_reverse.1 hd)⟩, ?_⟩
    simp [openText, braced, hinside, hc]
  · cases h

/-- Up to each name that is found, the text ends with that name between braces, and the names in it are those
found so far. -/
theorem bracedNames_split {inside : Option (List Char)} (hplain : OpenPlain inside) {s name : List Char}
    {found more : List (List Char)} (h : bracedNames inside s = found ++ name :: more) :
    IsPlaceholderName name ∧ ∃ p t, s = p ++ t ∧ bracedNames inside p = found ++ [name] ∧
      braced name <:+ openText inside ++ p := by
  induction s generalizing inside found with
  | nil => simp [bracedNames] at h
  | cons c s ih =>
    rw [bracedNames_cons] at h
    -- The names after this character, with what it closes put before them.
    have hrest : ∀ found', bracedNames (openAfter inside c) s = found' ++ name :: more →
        IsPlaceholderName name ∧ ∃ p t, c :: s = p ++ t ∧
          bracedNames inside p = (closedBy inside c).toList ++ (found' ++ [name]) ∧
          braced name <:+ openText inside ++ p := by
      intro found' hfound
      obtain ⟨hname, p, t, rfl, hp, hsuffix⟩ := ih (hplain.after c) hfound
      refine ⟨hname, c :: p, t, rfl, by rw [bracedNames_cons, hp], ?_⟩
      obtain ⟨before, hbefore⟩ := openText_suffix inside c
      rw [List.append_cons, ← hbefore, List.append_assoc]
      exact hsuffix.trans (List.suffix_append _ _)
    cases hclosed : closedBy inside c with
    | none =>
      rw [hclosed] at h hrest
      exact hrest found h
    | some first =>
      rw [hclosed] at h hrest
      cases found with
      | nil =>
        obtain rfl : first = name := (List.cons.inj h).1
        obtain ⟨hname, htext⟩ := closedBy_eq_some hplain hclosed
        have hnames : bracedNames inside [c] = [first] := by rw [bracedNames_cons, hclosed]; rfl
        exact ⟨hname, [c], s, rfl, hnames, htext ▸ List.suffix_refl _⟩
      | cons before found =>
        obtain ⟨rfl, hlater⟩ := List.cons.inj h
        exact hrest found hlater

/-! ## The placeholders of a path -/

theorem hasPlaceholder_of_mem {path name : List Char} (h : name ∈ bracedNames none path) :
    HasPlaceholder path name := by
  obtain ⟨found, more, hsplit⟩ := List.append_of_mem h
  obtain ⟨hname, p, t, rfl, -, before, hbefore⟩ := bracedNames_split (by simp [OpenPlain]) hsplit
  exact ⟨⟨before, t, congrArg (· ++ t) hbefore.symm⟩, hname⟩

theorem mem_placeholders_iff {path name : String} :
    name ∈ placeholders path ↔ HasPlaceholder path.toList name.toList := by
  constructor
  · intro h
    obtain ⟨found, hfound, rfl⟩ := List.mem_map.1 h
    rw [String.toList_ofList]
    exact hasPlaceholder_of_mem (List.mem_eraseDups.1 hfound)
  · intro h
    simpa using mem_placeholders h

/-- In the path, `a` stands between braces before `b` does. -/
def Precedes (path a b : List Char) : Prop :=
  ∃ before after, path = before ++ braced a ++ after ∧ ¬braced b <:+: before ++ braced a

/-- Without repeats, items are in the order in which they come first. -/
theorem pairwise_eraseDups {α : Type} [BEq α] [LawfulBEq α] : ∀ xs : List α,
    xs.eraseDups.Pairwise fun a b => ∃ l r, xs = l ++ a :: r ∧ b ∉ l ++ [a]
  | [] => List.Pairwise.nil
  | x :: xs => by
    rw [List.eraseDups_cons, List.pairwise_cons]
    refine ⟨fun b hb => ⟨[], xs, rfl, ?_⟩, ?_⟩
    · have hne := (List.mem_filter.1 (List.mem_eraseDups.1 hb)).2
      simpa using hne
    · refine (pairwise_eraseDups _).imp_of_mem fun {a b} _ hb => ?_
      rintro ⟨l, r, hsplit, hnot⟩
      have hbx : b ≠ x := by simpa using (List.mem_filter.1 (List.mem_eraseDups.1 hb)).2
      obtain ⟨l₁, rest, rfl, rfl, hrest⟩ := List.filter_eq_append_iff.1 hsplit
      obtain ⟨l₂, r', rfl, hdropped, -, -⟩ := List.filter_eq_cons_iff.1 hrest
      refine ⟨x :: (l₁ ++ l₂), r', by simp, fun hmem => hnot ?_⟩
      have hdropped : b ∉ l₂ := fun hb => by simpa [hbx] using hdropped b hb
      simpa [hbx, hdropped] using hmem
termination_by xs => xs.length
decreasing_by exact Nat.lt_succ_of_le (List.length_filter_le _ _)

/-- The placeholders are in the order in which they stand in the path first. -/
theorem pairwise_placeholders (path : String) :
    (placeholders path).Pairwise fun a b => Precedes path.toList a.toList b.toList := by
  refine List.pairwise_map.2 ((pairwise_eraseDups _).imp_of_mem fun {a b} _ hb => ?_)
  rintro ⟨found, more, hsplit, hnew⟩
  obtain ⟨-, p, after, hpath, hnames, before, hbefore⟩ := bracedNames_split (by simp [OpenPlain]) hsplit
  obtain rfl : before ++ braced a = p := hbefore
  rw [String.toList_ofList, String.toList_ofList]
  refine ⟨before, after, hpath, ?_⟩
  rintro ⟨l, r, hb'⟩
  obtain ⟨-, hne, hplain⟩ := hasPlaceholder_of_mem (List.mem_eraseDups.1 hb)
  have hmem := mem_bracedNames hne hplain l r none
  rw [hb', hnames] at hmem
  exact hnew hmem

/-! ## Path parameters -/

/-- The parameters `added` are what a path lacks beside `params`: a required text for each of its placeholders
that none of `params` in the path declares, once, in the order of the placeholders. -/
structure Completion (path : String) (params added : List Param) : Prop where
  required : ∀ p ∈ added, p = { name := p.name, location := .path, required := true, type := "string" }
  names : ∀ name, name ∈ added.map (·.name) ↔
    HasPlaceholder path.toList name.toList ∧ ∀ p ∈ params, p.location = .path → p.name ≠ name
  nodup : (added.map (·.name)).Nodup
  ordered : (added.map (·.name)).Pairwise fun a b => Precedes path.toList a.toList b.toList

/-- The placeholders that no path parameter declares. -/
def undeclared (path : String) (params : List Param) : List String :=
  (placeholders path).filter (!((params.filter (·.location == .path)).map (·.name)).contains ·)

theorem mem_undeclared {path name : String} {params : List Param} : name ∈ undeclared path params ↔
    HasPlaceholder path.toList name.toList ∧ ∀ p ∈ params, p.location = .path → p.name ≠ name := by
  rw [undeclared, List.mem_filter, mem_placeholders_iff]
  simp

theorem completion_withPathParams (path : String) (params : List Param) :
    ∃ added, withPathParams path params = params ++ added ∧ Completion path params added := by
  refine ⟨_, rfl, ?_, ?_, ?_, ?_⟩
  · intro p hp
    obtain ⟨name, -, rfl⟩ := List.mem_map.1 hp
    rfl
  · intro name
    rw [List.map_map, ← mem_undeclared]
    simp [undeclared]
  · rw [List.map_map]
    simpa [Function.comp_def] using (nodup_placeholders path).filter _
  · rw [List.map_map]
    simpa [Function.comp_def] using (pairwise_placeholders path).filter _

/-- Every placeholder is declared once those missing are added. -/
theorem declared_withPathParams {path name : String} (params : List Param) (h : name ∈ placeholders path) :
    ∃ p ∈ withPathParams path params, p.location = .path ∧ p.name = name := by
  obtain ⟨added, hall, hadded⟩ := completion_withPathParams path params
  rw [hall]
  by_cases hdeclared : ∃ p ∈ params, p.location = .path ∧ p.name = name
  · obtain ⟨p, hp, hlocation, hname⟩ := hdeclared
    exact ⟨p, List.mem_append_left _ hp, hlocation, hname⟩
  · have hmem : name ∈ added.map (·.name) := by
      refine (hadded.names name).2 ⟨mem_placeholders_iff.1 h, fun p hp hlocation hname => ?_⟩
      exact hdeclared ⟨p, hp, hlocation, hname⟩
    obtain ⟨p, hp, hname⟩ := List.mem_map.1 hmem
    exact ⟨p, List.mem_append_right _ hp, by rw [hadded.required p hp], hname⟩

theorem withPathParams_withPathParams (path : String) (params : List Param) :
    withPathParams path (withPathParams path params) = withPathParams path params := by
  have hnone : undeclared path (withPathParams path params) = [] := by
    refine List.filter_eq_nil_iff.2 fun name hname => ?_
    obtain ⟨p, hp, hlocation, hname⟩ := declared_withPathParams params hname
    simp only [Bool.not_eq_true', Bool.not_eq_false, List.contains_iff_mem]
    exact List.mem_map.2 ⟨p, List.mem_filter.2 ⟨hp, by simp [hlocation]⟩, hname⟩
  unfold undeclared at hnone
  rw [withPathParams, hnone, List.map_nil, List.append_nil]

/-! ## The check of an endpoint -/

/-- The fields of an endpoint as readers put them together: a known verb, an operation id in camel case, and a
parameter for each placeholder of the path. -/
structure EndpointFields.Assembled (f : EndpointFields) : Prop where
  method : ∃ m, f.method = Method.name m
  lowerCamel : IsLowerCamel f.operationId.toList
  completed : ∃ params, f.parameters = withPathParams f.path params

/-- Of all that is checked only the path can be at fault. -/
theorem EndpointFields.Assembled.fault?_eq {f : EndpointFields} (h : f.Assembled) :
    Endpoint.fault? f.method f.path f.operationId f.parameters =
      if f.path.startsWith "/" then none else some ("path must start with '/': " ++ Text.quoted f.path) := by
  obtain ⟨m, hm⟩ := h.method
  obtain ⟨params, hparams⟩ := h.completed
  have hknown : Method.ofName? f.method = some m := ofName?_eq_some.2 hm
  by_cases hpath : f.path.startsWith "/" = true
  · rw [if_pos hpath, fault?_eq_none_iff, hknown, hparams]
    refine ⟨rfl, hpath, isIdentifier_of_lowerCamel h.lowerCamel, fun name hname => ?_⟩
    obtain ⟨p, hp, hlocation, rfl⟩ := declared_withPathParams params hname
    exact List.mem_map.2 ⟨p, List.mem_filter.2 ⟨hp, by simp [hlocation]⟩, rfl⟩
  · simp [Endpoint.fault?, hknown, hpath]

end ClientForge
