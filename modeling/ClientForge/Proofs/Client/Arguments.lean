import ClientForge.Proofs.Client.Idents

/-!
The arguments of methods, one by one. Naming gives each its ident and changes nothing else. An argument gets the
name that its parameter asks for, or that name with the least number that makes it new
(`namedAfter_nameArguments`). The arguments of a method are those of requests to its endpoint
(`MethodPlan.arguments_ofEndpoint`).
-/

namespace ClientForge

/-! ## Places -/

theorem mem_nameArguments {t : Target} {taken : List (List Char)} {as : List Argument} {a : Argument}
    (h : a ∈ nameArguments t taken as) : ∃ b ∈ as, a = { b with ident := a.ident } := by
  induction as generalizing taken with
  | nil => cases h
  | cons b as ih =>
    rcases List.mem_cons.1 h with rfl | h
    · exact ⟨b, List.mem_cons_self, rfl⟩
    · obtain ⟨c, hc, ha⟩ := ih h
      exact ⟨c, List.mem_cons_of_mem b hc, ha⟩

theorem nameArguments_append (t : Target) (taken : List (List Char)) (as bs : List Argument) :
    ∃ taken', nameArguments t taken (as ++ bs) = nameArguments t taken as ++ nameArguments t taken' bs := by
  induction as generalizing taken with
  | nil => exact ⟨taken, rfl⟩
  | cons a as ih =>
    obtain ⟨taken', h⟩ := ih (fresh taken (t.paramName a.name.toList) :: taken)
    exact ⟨taken', congrArg (_ :: ·) h⟩

/-- Arguments that all go to one place, once they are named. -/
theorem filter_nameArguments (t : Target) (taken : List (List Char)) {as : List Argument} {q : Place}
    (h : ∀ a ∈ as, a.place = q) (p : Place) :
    (nameArguments t taken as).filter (·.place == p) = if q = p then nameArguments t taken as else [] := by
  have hplace : ∀ a ∈ nameArguments t taken as, a.place = q := by
    intro a ha
    obtain ⟨b, hb, heq⟩ := mem_nameArguments ha
    rw [heq]
    exact h b hb
  split
  · rename_i hq
    exact List.filter_eq_self.2 fun a ha => by simp [hplace a ha, hq]
  · rename_i hq
    exact List.filter_eq_nil_iff.2 fun a ha => by simp [hplace a ha, hq]

/-- The arguments of requests to an endpoint, named: those in the path, those in the query, and the body. -/
theorem Endpoint.arguments_eq (t : Target) (e : Endpoint) : ∃ inQuery inBody, e.arguments t =
    nameArguments t [] ((e.paramsIn .path).map (Argument.ofParam · .path)) ++
      nameArguments t inQuery ((e.paramsIn .query).map (Argument.ofParam · .query)) ++
        nameArguments t inBody (e.sentBody.map Argument.ofBody).toList := by
  unfold arguments
  obtain ⟨inBody, hbody⟩ := nameArguments_append t [] ((e.paramsIn .path).map (Argument.ofParam · .path) ++
    (e.paramsIn .query).map (Argument.ofParam · .query)) (e.sentBody.map Argument.ofBody).toList
  obtain ⟨inQuery, hquery⟩ := nameArguments_append t [] ((e.paramsIn .path).map (Argument.ofParam · .path))
    ((e.paramsIn .query).map (Argument.ofParam · .query))
  exact ⟨inQuery, inBody, by rw [hbody, hquery]⟩

/-- The arguments of a method are those of requests to its endpoint. -/
theorem MethodPlan.arguments_ofEndpoint (t : Target) (name : String) (e : Endpoint) :
    (ofEndpoint t name e).arguments = e.arguments t := by
  obtain ⟨inQuery, inBody, heq⟩ := e.arguments_eq t
  have hpath : ∀ a ∈ (e.paramsIn .path).map (Argument.ofParam · .path), a.place = .path := by
    simp [Argument.ofParam]
  have hquery : ∀ a ∈ (e.paramsIn .query).map (Argument.ofParam · .query), a.place = .query := by
    simp [Argument.ofParam]
  have hbody : ∀ a ∈ (e.sentBody.map Argument.ofBody).toList, a.place = .body := by
    simp [Argument.ofBody]
  have hat : ∀ p, (e.arguments t).filter (·.place == p) =
      (if Place.path = p then nameArguments t [] ((e.paramsIn .path).map (Argument.ofParam · .path)) else []) ++
        (if Place.query = p then nameArguments t inQuery ((e.paramsIn .query).map (Argument.ofParam · .query))
          else []) ++
          if Place.body = p then nameArguments t inBody (e.sentBody.map Argument.ofBody).toList else [] := by
    intro p
    rw [heq, List.filter_append, List.filter_append, filter_nameArguments t _ hpath, filter_nameArguments t _ hquery,
      filter_nameArguments t _ hbody]
  have hsent : ((ofEndpoint t name e).body.map (·.argument)).toList =
      nameArguments t inBody (e.sentBody.map Argument.ofBody).toList := by
    simp only [ofEndpoint, hat]
    cases e.sentBody <;> rfl
  show (e.arguments t).filter (·.place == .path) ++ (e.arguments t).filter (·.place == .query) ++
    ((ofEndpoint t name e).body.map (·.argument)).toList = e.arguments t
  rw [hat, hat, hsent, heq]
  simp

/-! ## Names -/

/-- The ident of an argument, after those of others: the name that its parameter asks for, if that is new, or else
that name with the least number from two on that makes it so. -/
def Argument.NamedAfter (t : Target) (earlier : List (List Char)) (a : Argument) : Prop :=
  (t.paramName a.name.toList ∉ earlier ∧ a.ident.toList = t.paramName a.name.toList) ∨
    (t.paramName a.name.toList ∈ earlier ∧ ∃ n, a.ident.toList = numbered (t.paramName a.name.toList) n ∧
      IsLeastFree earlier.contains (t.paramName a.name.toList) 2 n)

theorem namedAfter_fresh (t : Target) (earlier : List (List Char)) (a : Argument) :
    Argument.NamedAfter t earlier { a with ident := .ofList (fresh earlier (t.paramName a.name.toList)) } := by
  unfold Argument.NamedAfter fresh
  simp only [String.toList_ofList]
  by_cases h : t.paramName a.name.toList ∈ earlier
  · obtain ⟨n, hn, hleast⟩ := freeName_eq earlier (t.paramName a.name.toList)
    exact Or.inr ⟨h, n, by simp [h, hn], hleast⟩
  · exact Or.inl ⟨h, by simp [h]⟩

/-- Each argument is named after those before it. -/
theorem namedAfter_nameArguments {t : Target} {taken : List (List Char)} {as : List Argument} {a : Argument}
    (h : a ∈ nameArguments t taken as) : ∃ earlier, a.NamedAfter t earlier ∧
      ∀ s ∈ earlier, s ∈ taken ∨ ∃ b ∈ nameArguments t taken as, b.ident.toList = s := by
  induction as generalizing taken with
  | nil => cases h
  | cons b as ih =>
    rcases List.mem_cons.1 h with rfl | h
    · exact ⟨taken, namedAfter_fresh t taken b, fun s hs => Or.inl hs⟩
    · obtain ⟨earlier, hnamed, hsub⟩ := ih h
      refine ⟨earlier, hnamed, fun s hs => ?_⟩
      rcases hsub s hs with hs | ⟨c, hc, rfl⟩
      · rcases List.mem_cons.1 hs with rfl | hs
        · exact Or.inr ⟨_, List.mem_cons_self, String.toList_ofList⟩
        · exact Or.inl hs
      · exact Or.inr ⟨c, List.mem_cons_of_mem _ hc, rfl⟩

/-- Each argument of a method is named after others of the method. -/
theorem MethodPlan.namedAfter_arguments {t : Target} {name : String} {e : Endpoint} {a : Argument}
    (h : a ∈ (ofEndpoint t name e).arguments) : ∃ earlier, a.NamedAfter t earlier ∧
      ∀ s ∈ earlier, ∃ b ∈ (ofEndpoint t name e).arguments, b.ident.toList = s := by
  rw [arguments_ofEndpoint] at h ⊢
  obtain ⟨earlier, hnamed, hsub⟩ := namedAfter_nameArguments h
  exact ⟨earlier, hnamed, fun s hs => (hsub s hs).resolve_left List.not_mem_nil⟩

end ClientForge
