import ClientForge.OpenApi.Operation
import ClientForge.Proofs.Casing
import ClientForge.Proofs.Endpoints

/-!
The identifier of a text. There is one exactly if the text has a letter or digit, and it is a small letter with
letters and digits after it. A text of this form is its own identifier, since its words after the first start with
capitals already (`isUpper_head_tail_words`); so taking the identifier twice is taking it once, and an operation
keeps a declared id of this form (`identifier_normal`).
-/

namespace ClientForge

/-! ## Capitals -/

theorem tail_attach (c : Char) (ws : List (List Char)) : (attach c ws).tail = ws.tail := by
  cases ws <;> rfl

/-- In a run of letters and digits each word but the first starts with a capital. -/
theorem isUpper_head_tail_words {s : List Char} (h : AllAlphanum s) :
    ∀ w ∈ (words s).tail, w.head?.any Char.isUpper := by
  induction s with
  | nil => simp [words]
  | cons c s ih =>
    obtain ⟨hc, hs⟩ := allAlphanum_cons.1 h
    rw [words_cons, if_pos (show isWordChar c from hc)]
    split
    · rw [tail_attach]
      exact ih hs
    · rename_i hgoes
      cases s with
      | nil => simp [words]
      | cons d more =>
        -- The next word starts with the capital at which the first one breaks off.
        have hd : isWordChar d := (allAlphanum_cons.1 hs).1
        have hstarts : startsWord c d more := by simpa [goesOn, hd] using hgoes
        have hupper : d.isUpper := (Bool.and_eq_true_iff.1 hstarts).1
        have hhead := head_words (d :: more)
        rw [List.find?_cons_of_pos hd] at hhead
        obtain ⟨v, vs, hvs⟩ := List.exists_cons_of_ne_nil (words_ne_nil hd more)
        have htail := ih hs
        rw [hvs] at hhead htail
        rw [List.tail_cons, hvs]
        refine List.forall_mem_cons.2 ⟨?_, htail⟩
        rw [show v.head? = some d from hhead]
        exact hupper

theorem capitalize_eq_self {w : List Char} (h : w.head?.any Char.isUpper) : capitalize w = w := by
  cases w with
  | nil => rfl
  | cons c w =>
    have hle := isUpper_iff.1 h
    have hnot : ¬c.isLower := by
      rw [isLower_iff]
      omega
    exact congrArg (· :: w) (toUpper_of_not_isLower hnot)

theorem headWord_eq_self {c : Char} (hc : c.isLower) (w : List Char) : headWord (c :: w) = c :: w := by
  have hle := isLower_iff.1 hc
  have hnot : ¬c.isUpper := by
    rw [isUpper_iff]
    omega
  unfold headWord
  rw [if_pos (by simp [hc])]
  exact congrArg (· :: w) (toLower_of_not_isUpper hnot)

/-! ## Identifiers -/

theorem IsLowerCamel.allAlphanum {s : List Char} (h : IsLowerCamel s) : AllAlphanum s := by
  obtain ⟨c, w, rfl, hc, hw⟩ := h
  exact allAlphanum_cons.2 ⟨isAlphanum_of_isLower hc, hw⟩

/-- Cutting a name at its capitals and joining the words gives the name. -/
theorem IsLowerCamel.camel_eq {s : List Char} (h : IsLowerCamel s) : camel s = s := by
  have hall := h.allAlphanum
  have hflat : (words s).flatten = s := (flatten_words s).trans (List.filter_eq_self.2 hall)
  have htail := isUpper_head_tail_words hall
  obtain ⟨c, w, rfl, hc, hw⟩ := h
  have hok := wordsOk_words (c :: w)
  unfold camel
  obtain ⟨v, vs, hvs⟩ := List.exists_cons_of_ne_nil (words_ne_nil (isAlphanum_of_isLower hc) w)
  rw [hvs] at hflat htail hok ⊢
  obtain ⟨d, u, rfl⟩ := List.exists_cons_of_ne_nil (hok v List.mem_cons_self).1
  obtain rfl : d = c := (List.cons.inj hflat).1
  have hrest : vs.flatMap capitalize = vs.flatten := by
    rw [List.flatMap_def]
    exact congrArg List.flatten
      ((List.map_congr_left fun u hu => capitalize_eq_self (htail u hu)).trans (List.map_id vs))
  show headWord (d :: u) ++ vs.flatMap capitalize = d :: w
  rw [headWord_eq_self hc, hrest]
  exact hflat

theorem IsLowerCamel.identifier_eq {s : List Char} (h : IsLowerCamel s) : identifier s = s := by
  have hcamel := h.camel_eq
  obtain ⟨c, w, rfl, hc, hw⟩ := h
  have hdigit : c.isDigit = false := by
    have hle := isLower_iff.1 hc
    rw [Bool.eq_false_iff, Ne, isDigit_iff]
    omega
  unfold identifier
  rw [hcamel]
  simp [hdigit]

theorem identifier_eq_nil_iff {s : List Char} : identifier s = [] ↔ ∀ c ∈ s, c.isAlphanum = false := by
  have hidentifier : identifier s = [] ↔ camel s = [] := by
    unfold identifier
    split
    · rename_i hcamel
      simp [hcamel]
    · rename_i hcamel
      rw [hcamel]
      split <;> simp
  have hletters : camel s = [] ↔ s.filter isWordChar = [] := by
    rw [← List.map_eq_nil_iff (f := Char.toLower), ← List.map_eq_nil_iff (f := Char.toLower) (l := s.filter _)]
    exact Eq.congr_left (lowerWord_camel s)
  rw [hidentifier, hletters, List.filter_eq_nil_iff]
  exact forall₂_congr fun _ _ => Bool.eq_false_iff.symm

/-- An operation that declares an id in the form of an identifier has this very id. -/
theorem OpenApi.Operation.id_eq_given {o : Operation} {given : String} (ho : o.field "operationId" = .text given)
    (h : IsLowerCamel given.toList) (path : String) : o.id path = .ok given := by
  have hne : given.toList ≠ [] := by
    obtain ⟨c, w, heq, -⟩ := h
    rw [heq]
    exact List.cons_ne_nil c w
  have htruthy : Value.truthy (.text given) := by
    simpa [Value.truthy, String.isEmpty_iff, ← String.toList_eq_nil_iff] using hne
  have hgiven : ((o.field "operationId").orElse (.text "")).asText = .ok given := by
    rw [ho, Value.orElse, if_pos htruthy]
    rfl
  refine except_bind_eq_ok.2 ⟨given, hgiven, ?_⟩
  rw [h.identifier_eq]
  split
  · rename_i hnil
    exact absurd hnil hne
  · rw [String.ofList_toList]
    rfl

/-- A text has an identifier exactly if a letter or digit of ASCII is in it, and this is a small letter with letters
and digits after it. Each text of that form is its own identifier, so the identifier of an identifier is itself, and
an operation that declares an id of that form keeps it. -/
theorem identifier_normal (s : List Char) :
    (identifier s = [] ↔ ∀ c ∈ s, c.isAlphanum = false) ∧
    (identifier s = [] ∨ IsLowerCamel (identifier s)) ∧
    (IsLowerCamel s → identifier s = s) ∧
    identifier (identifier s) = identifier s ∧
    ∀ (o : OpenApi.Operation) (path : String), o.field "operationId" = .text (.ofList s) → IsLowerCamel s →
      o.id path = .ok (.ofList s) := by
  refine ⟨identifier_eq_nil_iff, lowerCamel_identifier s, IsLowerCamel.identifier_eq, ?_, fun o path ho h => ?_⟩
  · rcases lowerCamel_identifier s with hnil | hform
    · rw [hnil]
      rfl
    · exact hform.identifier_eq
  · exact OpenApi.Operation.id_eq_given ho (by rwa [String.toList_ofList]) path

example : identifier "list HTTPServers-v2".toList = "listHTTPServersV2".toList := by decide

end ClientForge
