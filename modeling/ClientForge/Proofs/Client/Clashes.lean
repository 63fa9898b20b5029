import ClientForge.Proofs.Accepted
import ClientForge.Proofs.Client.Arguments

/-!
Arguments and the names that are taken where they are used: the words of the language and the names in the lines of
a method. Names that parameters ask for keep away from the reserved words, and no reserved word ends with the
underscore that keeps them away. But the list of reserved words lacks some names of the lines, and two words of Go
end with a number, which a name may get after it was compared with them. These are all the clashes there are
(`ident_taken`): in Java and PHP there are none.
-/

namespace ClientForge

namespace Target

/-! ## Names that are taken -/

/-- The names that the lines of a method declare, or use without saying where they are. -/
def bodyNames : Target → List String
  | node => ["requestPath", "requestUrl", "queryParams", "queryString", "requestBody", "headers"]
  | python => [
    "self", "request_path", "request_url", "query_params", "request_body", "headers", "str", "json", "urlencode"]
  | go => [
    "c", "err", "requestPath", "requestURL", "queryParams", "requestBody", "headers", "replacePathParam",
    "buildQueryString", "encodeBody"]
  | java => [
    "config", "authHandler", "requestHandler", "requestPath", "requestUrl", "queryParams", "requestBody", "headers"]
  | php => ["this", "requestPath", "requestUrl", "queryParams", "requestBody", "headers"]

/-- The names that are taken where the arguments of a method are used. -/
def takenNames (t : Target) : List String := t.reserved ++ t.bodyNames

/-- The taken names that an argument may have all the same. -/
def unguarded : Target → List String
  | node => ["queryString"]
  | python => ["str", "json", "urlencode"]
  | go => ["float64", "int64"]
  | java | php => []

/-- A taken name never ends with an underscore. One that is not reserved is unguarded, and so is one that ends with
a digit. Only in Go there are such, and they are reserved and end with a four. -/
theorem takenNames_ends (t : Target) : ∀ w ∈ t.takenNames, w.toList.getLast? ≠ some '_' ∧
    (w ∉ t.reserved → t ≠ .go ∧ w ∈ t.unguarded) ∧
    (w.toList.getLast?.any Char.isDigit → t = .go ∧ w ∈ t.unguarded ∧ w.toList.getLast? = some '4') := by
  cases t <;> decide +kernel

/-- A name that a parameter asks for is not reserved, or it ends with an underscore. -/
theorem paramName_cases (t : Target) (raw : List Char) :
    .ofList (t.paramName raw) ∉ t.reserved ∨ (t.paramName raw).getLast? = some '_' := by
  have hreserved : ∀ ident : List Char,
      let name := if t.reserved.contains (.ofList ident) then ident ++ ['_'] else ident
      .ofList name ∉ t.reserved ∨ name.getLast? = some '_' := by
    intro ident
    dsimp only
    split
    · exact Or.inr (by simp)
    · rename_i h
      exact Or.inl (by simpa using h)
  exact hreserved _

end Target

theorem getLast?_numbered (name : List Char) (n : Nat) :
    (numbered name n).getLast? = (Nat.repr n).toList.getLast? :=
  List.getLast?_append_of_ne_nil _ (repr_toList_ne_nil n)

/-! ## Arguments with taken names -/

/-- The ident of an argument after others that has a taken name: it is unguarded. In Go it got a number, for which at
least three others must have asked for the same name; in other languages it is the name that its parameter asks for. -/
theorem Argument.NamedAfter.unguarded {t : Target} {earlier : List (List Char)} {a : Argument}
    (h : a.NamedAfter t earlier) (htaken : a.ident ∈ t.takenNames) : a.ident ∈ t.unguarded ∧
      if t = .go then ∃ n, 4 ≤ n ∧ a.ident.toList = numbered (t.paramName a.name.toList) n ∧
        t.paramName a.name.toList ∈ earlier ∧ ∀ k, 2 ≤ k → k < n → numbered (t.paramName a.name.toList) k ∈ earlier
      else a.ident.toList = t.paramName a.name.toList := by
  obtain ⟨hunderscore, hunreserved, hdigit⟩ := t.takenNames_ends a.ident htaken
  rcases h with ⟨-, hident⟩ | ⟨hearlier, n, hident, hleast⟩
  · rcases t.paramName_cases a.name.toList with hfree | hlast
    · rw [← hident, String.ofList_toList] at hfree
      obtain ⟨hgo, hunguarded⟩ := hunreserved hfree
      exact ⟨hunguarded, by rwa [if_neg hgo]⟩
    · rw [← hident] at hlast
      exact absurd hlast hunderscore
  · have hlast : a.ident.toList.getLast? = (Nat.repr n).toList.getLast? := by rw [hident, getLast?_numbered]
    have hends : a.ident.toList.getLast?.any Char.isDigit := by
      rw [hlast, List.getLast?_eq_some_getLast (repr_toList_ne_nil n), Option.any_some]
      exact isDigit_of_mem_repr (List.getLast_mem _)
    obtain ⟨hgo, hunguarded, hfour⟩ := hdigit hends
    refine ⟨hunguarded, ?_⟩
    rw [if_pos hgo]
    refine ⟨n, ?_, hident, hearlier, fun k hk hkn => by simpa using hleast.least k hk hkn⟩
    -- The number ends with a four, which two and three do not.
    by_contra hn
    have hfrom := hleast.from_le
    rw [hlast] at hfour
    obtain rfl | rfl : n = 2 ∨ n = 3 := by omega
    · exact absurd hfour (by decide)
    · exact absurd hfour (by decide)

/-! ## Arguments with unguarded names -/

/-- A model with one endpoint that takes parameters of some names in its query. -/
def queryModel (names : List String) : Value := .map [
  (.text "endpoints", .list [.map [
    (.text "method", .text "get"),
    (.text "path", .text "/"),
    (.text "operationId", .text "find"),
    (.text "parameters", .list (names.map fun name => .map [
      (.text "name", .text name),
      (.text "in", .text "query")]))]])]

/-- The idents of all arguments of the methods for an API. -/
def Api.idents (t : Target) (api : Api) : List String :=
  (ClientPlan.ofApi t api).methods.flatMap fun m => m.arguments.map (·.ident)

theorem Api.exists_of_idents {v : Value} {t : Target} {idents : List String}
    (h : (Api.check .document v).toOption.map (Api.idents t) = some idents) : ∃ api, Api.check .document v = .ok api ∧
      ∀ w ∈ idents, ∃ m ∈ (ClientPlan.ofApi t api).methods, ∃ a ∈ m.arguments, a.ident = w := by
  obtain ⟨api, hcheck, hidents⟩ := Api.exists_of_check h
  refine ⟨api, hcheck, fun w hw => ?_⟩
  rw [← hidents] at hw
  obtain ⟨m, hm, hw⟩ := List.mem_flatMap.1 hw
  obtain ⟨a, ha, rfl⟩ := List.mem_map.1 hw
  exact ⟨m, hm, a, ha, rfl⟩

/-- For each language there is a model with arguments of all unguarded names. -/
theorem exists_ident_of_unguarded (t : Target) : ∃ v api, Api.check .document v = .ok api ∧
    ∀ w ∈ t.unguarded, ∃ m ∈ (ClientPlan.ofApi t api).methods, ∃ a ∈ m.arguments, a.ident = w := by
  -- In Go four parameters ask for one name, and the last of them gets the number four.
  have hidents : ∃ names idents, (Api.check .document (queryModel names)).toOption.map (Api.idents t) = some idents ∧
      ∀ w ∈ t.unguarded, w ∈ idents := by
    cases t with
    | node => exact ⟨["queryString"], ["queryString"], by decide +kernel, by decide⟩
    | python => exact ⟨["str", "json", "urlencode"], ["str", "json", "urlencode"], by decide +kernel, by decide⟩
    | go => exact ⟨["int6", "int 6", "int-6", "int.6", "float6", "float 6", "float-6", "float.6"],
        ["int6", "int62", "int63", "int64", "float6", "float62", "float63", "float64"], by decide +kernel, by decide⟩
    | java | php => exact ⟨[], [], by decide +kernel, by decide⟩
  obtain ⟨names, idents, hcheck, hunguarded⟩ := hidents
  obtain ⟨api, hcheck, hmem⟩ := Api.exists_of_idents hcheck
  exact ⟨queryModel names, api, hcheck, fun w hw => hmem w (hunguarded w hw)⟩

/-! ## Methods -/

/-- The clashes of arguments with names that are taken where they are used. All are with unguarded names, and each of
these has an argument of some accepted model clash with it. -/
theorem ident_taken (t : Target) :
    (∀ api, ∀ m ∈ (ClientPlan.ofApi t api).methods, ∀ a ∈ m.arguments, a.ident ∈ t.takenNames → a.ident ∈ t.unguarded ∧
      if t = .go then ∃ n, 4 ≤ n ∧ a.ident.toList = numbered (t.paramName a.name.toList) n ∧
        ∀ s, s = t.paramName a.name.toList ∨ (∃ k, 2 ≤ k ∧ k < n ∧ s = numbered (t.paramName a.name.toList) k) →
          ∃ b ∈ m.arguments, b.ident.toList = s
      else a.ident.toList = t.paramName a.name.toList) ∧
    (∀ w ∈ t.unguarded, w ∈ t.takenNames) ∧
    ∃ v api, Api.check .document v = .ok api ∧
      ∀ w ∈ t.unguarded, ∃ m ∈ (ClientPlan.ofApi t api).methods, ∃ a ∈ m.arguments, a.ident = w := by
  refine ⟨fun api m hm a ha htaken => ?_, by cases t <;> decide +kernel, exists_ident_of_unguarded t⟩
  obtain ⟨i, hi⟩ := List.getElem?_of_mem hm
  obtain ⟨name, e, -, -, rfl⟩ := List.getElem?_zipWith_eq_some.1 hi
  obtain ⟨earlier, hnamed, hearlier⟩ := MethodPlan.namedAfter_arguments ha
  obtain ⟨hunguarded, hident⟩ := hnamed.unguarded htaken
  refine ⟨hunguarded, ?_⟩
  split at hident
  · rename_i hgo
    rw [if_pos hgo]
    obtain ⟨n, hn, hident, hasked, hbelow⟩ := hident
    refine ⟨n, hn, hident, fun s hs => hearlier s ?_⟩
    obtain rfl | ⟨k, hk, hkn, rfl⟩ := hs
    · exact hasked
    · exact hbelow k hk hkn
  · rename_i hgo
    rwa [if_neg hgo]

/-- An argument of an accepted model may have a name that a local of its method has. -/
theorem queryModel_clashes : ¬∀ (v : Value) (api : Api), Api.check .document v = .ok api →
    ∀ t, ∀ m ∈ (ClientPlan.ofApi t api).methods, ∀ a ∈ m.arguments, a.ident ∉ t.takenNames := by
  intro hall
  have hidents : (Api.check .document (queryModel ["queryString"])).toOption.map (Api.idents .node) =
      some ["queryString"] := by decide +kernel
  obtain ⟨api, hcheck, hmem⟩ := Api.exists_of_idents hidents
  obtain ⟨m, hm, a, ha, hident⟩ := hmem "queryString" List.mem_cons_self
  have hfree := hall _ api hcheck .node m hm a ha
  rw [hident] at hfree
  exact hfree (by decide +kernel)

end ClientForge
