import ClientForge.Proofs.MethodNames

/-!
The names in the signatures of methods. Those of arguments start with a letter, and letters, digits and
underscores follow (`isName_arguments`). So signatures read the same whatever the names of parameters in
requests are.
-/

namespace ClientForge

/-! ## Names -/

/-- An ASCII letter, and letters, digits and underscores after it. -/
def IsName (s : List Char) : Prop := ∃ c w, s = c :: w ∧ c.isAlpha ∧ AllNameChars w

namespace IsName

variable {s : List Char}

theorem nameChars (h : IsName s) : AllNameChars s := by
  obtain ⟨c, w, rfl, hc, hw⟩ := h
  rintro d (_ | ⟨_, hd⟩)
  · exact Or.inl (isAlphanum_iff.2 (Or.inl hc))
  · exact hw d hd

theorem append (h : IsName s) {u : List Char} (hu : AllNameChars u) : IsName (s ++ u) := by
  obtain ⟨c, w, rfl, hc, hw⟩ := h
  exact ⟨c, w ++ u, rfl, hc, hw.append hu⟩

theorem exists_alphanum (h : IsName s) : ∃ c ∈ s, c.isAlphanum := by
  obtain ⟨c, w, rfl, hc, -⟩ := h
  exact ⟨c, List.mem_cons_self, isAlphanum_iff.2 (Or.inl hc)⟩

end IsName

theorem allNameChars_repr (n : Nat) : AllNameChars (Nat.repr n).toList := fun _ hc =>
  Or.inl (isAlphanum_of_isDigit (isDigit_of_mem_repr hc))

theorem AllNameChars.not_mem {s : List Char} (h : AllNameChars s) {c : Char} (hc : c.isAlphanum = false)
    (hunder : c ≠ '_') : c ∉ s := by
  intro hmem
  rcases h c hmem with hword | rfl
  · rw [hc] at hword
    cases hword
  · exact hunder rfl

/-! ## Arguments -/

theorem isAlphanum_head_snake {s : List Char} {c : Char} {w : List Char} (h : snake s = c :: w) :
    c.isAlphanum := by
  have hok := wordsOk_words s
  unfold snake at h
  cases hwords : words s with
  | nil => simp [hwords, Text.join] at h
  | cons v vs =>
    rw [hwords] at h hok
    obtain ⟨hne, hall⟩ := hok v List.mem_cons_self
    obtain ⟨d, u, rfl⟩ := List.exists_cons_of_ne_nil hne
    have hd : c = d.toLower := by
      cases vs <;> simp [lowerWord, Text.join] at h <;> exact h.1.symm
    rw [hd, isAlphanum_toLower]
    exact hall d List.mem_cons_self

theorem isAlphanum_head_paramCase {t : Target} {s : List Char} {c : Char} {w : List Char}
    (h : t.paramCase s = c :: w) : c.isAlphanum := by
  cases t with
  | python => exact isAlphanum_head_snake h
  | node | go | java | php =>
    have hall : AllAlphanum (c :: w) := h ▸ allAlphanum_camel s
    exact hall c List.mem_cons_self

theorem allNameChars_paramCase (t : Target) (s : List Char) : AllNameChars (t.paramCase s) := by
  cases t with
  | python => exact allNameChars_snake s
  | node | go | java | php => exact (allAlphanum_camel s).nameChars

theorem isName_paramName (t : Target) (raw : List Char) : IsName (t.paramName raw) := by
  have hreserved : ∀ ident, IsName ident →
      IsName (if t.reserved.contains (.ofList ident) then ident ++ ['_'] else ident) := by
    intro ident h
    split
    · exact h.append (by simp [AllNameChars])
    · exact h
  have hchars := allNameChars_paramCase t raw
  unfold Target.paramName
  cases hcased : t.paramCase raw with
  | nil =>
    have hword : AllAlphanum "aram".toList := List.all_eq_true.1 (by decide)
    exact hreserved _ ⟨'p', "aram".toList, rfl, by decide, hword.nameChars⟩
  | cons c w =>
    have hhead := isAlphanum_head_paramCase hcased
    rw [hcased] at hchars
    refine hreserved (if c.isDigit then 'p' :: c :: w else c :: w) ?_
    split
    · exact ⟨'p', c :: w, rfl, by decide, hchars⟩
    · rename_i hdigit
      exact ⟨c, w, rfl, by simpa [isAlphanum_iff, hdigit] using hhead, fun d hd => hchars d (.tail c hd)⟩

theorem isName_fresh (taken : List (List Char)) {name : List Char} (h : IsName name) : IsName (fresh taken name) := by
  unfold fresh
  split
  · exact h.append (allNameChars_repr _)
  · exact h

theorem isName_nameArguments (t : Target) (taken : List (List Char)) (as : List Argument) :
    ∀ a ∈ nameArguments t taken as, IsName a.ident.toList := by
  induction as generalizing taken with
  | nil => simp [nameArguments]
  | cons a as ih =>
    refine List.forall_mem_cons.2 ⟨?_, ih _⟩
    rw [String.toList_ofList]
    exact isName_fresh taken (isName_paramName t _)

theorem isName_arguments (t : Target) (e : Endpoint) : ∀ a ∈ e.arguments t, IsName a.ident.toList :=
  isName_nameArguments t [] _

/-! ## Methods -/

/-- Methods whose names fit into signatures. -/
structure MethodPlan.WellNamed (m : MethodPlan) : Prop where
  name_ne : m.name.toList ≠ []
  nameChars : AllNameChars m.name.toList
  isName : ∀ a ∈ m.arguments, IsName a.ident.toList

theorem MethodPlan.mem_arguments_ofEndpoint {t : Target} {name : String} {e : Endpoint} {a : Argument}
    (h : a ∈ (ofEndpoint t name e).arguments) : a ∈ e.arguments t := by
  unfold arguments at h
  rcases List.mem_append.1 h with h | h
  · rcases List.mem_append.1 h with h | h
    · exact List.mem_of_mem_filter h
    · exact List.mem_of_mem_filter h
  · obtain ⟨b, hb, rfl⟩ : ∃ b, (ofEndpoint t name e).body = some b ∧ b.argument = a := by simpa using h
    obtain ⟨sent, -, hhead⟩ := Option.bind_eq_some_iff.1 hb
    obtain ⟨c, hc, hpayload⟩ := Option.bind_eq_some_iff.1 hhead
    cases hpayload
    exact List.mem_of_mem_filter (List.mem_of_mem_head? hc)

theorem allNameChars_methodNames (t : Target) (taken : List (List Char)) (es : List Endpoint) :
    ∀ name ∈ methodNames t taken es, name ≠ [] ∧ AllNameChars name := by
  intro name hname
  obtain ⟨e, -, hbase⟩ := mem_methodNames hname
  obtain ⟨s, hs, hne⟩ := baseName_eq t e
  rw [← hs] at hne
  have hchars := allNameChars_baseName t e
  rcases hbase with rfl | ⟨n, rfl⟩
  · exact ⟨hne, hchars⟩
  · exact ⟨List.append_ne_nil_of_left_ne_nil hne _, hchars.append (allNameChars_repr n)⟩

/-- The methods of a client are well named. -/
theorem MethodPlan.wellNamed_ofApi (t : Target) (api : Api) :
    ∀ m ∈ (ClientPlan.ofApi t api).methods, m.WellNamed := by
  intro m hm
  have hname : m.name.toList ∈ methodNames t [] api.endpoints := by
    rw [← map_name_methods]
    exact List.mem_map_of_mem hm
  obtain ⟨hne, hchars⟩ := allNameChars_methodNames t [] api.endpoints _ hname
  obtain ⟨e, name, rfl⟩ : ∃ e name, m = ofEndpoint t name e := by
    obtain ⟨i, hi⟩ := List.mem_iff_getElem?.1 hm
    obtain ⟨name, e, -, -, rfl⟩ := List.getElem?_zipWith_eq_some.1 hi
    exact ⟨e, _, rfl⟩
  exact ⟨hne, hchars, fun a ha => isName_arguments t e a (mem_arguments_ofEndpoint ha)⟩

end ClientForge
