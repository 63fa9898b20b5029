import ClientForge.Proofs.Failures.Basic
import ClientForge.Proofs.References.Calls

/-!
How resolving references can fail: as looking up one of them does (`failsAs_resolve`). A pointer is
refused, if it leads nowhere. Only a step made of digits that are no index ends without a word.
-/

namespace ClientForge

variable {p : Failure → Prop}

/-! ## Pointers -/

namespace Pointer

/-- Is a token no row of digits, or one that is an index? -/
def indexFits (token : List Char) : Bool :=
  !token.all Text.isDigit || token.all (fun c => (Text.digitValue? c).isSome) && token.length ≤ indexLimit

/-- Are the tokens of a pointer fit for steps into lists? -/
def fits (ref : String) : Bool :=
  match ref.toList with
  | '#' :: '/' :: path => (Text.splitAt '/' path).all fun token => indexFits (unescape token)
  | _ => true

theorem number?_isSome {s : List Char} (hne : s ≠ []) (h : ∀ c ∈ s, (Text.digitValue? c).isSome = true) :
    (Text.number? s).isSome = true := by
  have hfold : ∀ (s : List Char) (n : Nat), (∀ c ∈ s, (Text.digitValue? c).isSome = true) →
      (s.foldl (fun acc c => do return (← acc) * 10 + (← Text.digitValue? c)) (some n)).isSome = true := by
    intro s
    induction s with
    | nil => exact fun _ _ => rfl
    | cons c s ih =>
      intro n h
      obtain ⟨d, hd⟩ := Option.isSome_iff_exists.1 (h c List.mem_cons_self)
      simpa [hd] using ih _ fun b hb => h b (List.mem_cons_of_mem c hb)
  unfold Text.number?
  rw [if_neg (by simpa using hne)]
  exact hfold s 0 h

theorem failsAs_index {token : List Char} (h : Admits p (indexFits token)) (hne : token ≠ [])
    (hdigits : token.all Text.isDigit = true) : FailsAs p (index token) := by
  cases hfits : indexFits token with
  | false =>
    have hbroken := h.broken hfits .badValue
    unfold index
    split
    · split
      · exact .error hbroken
      · exact .ok _
    · exact .error hbroken
  | true =>
    simp only [indexFits, hdigits, Bool.not_true, Bool.false_or, Bool.and_eq_true_iff, List.all_eq_true,
      decide_eq_true_eq] at hfits
    obtain ⟨n, hn⟩ := Option.isSome_iff_exists.1 (number?_isSome hne hfits.1)
    simp only [index, hn, if_neg (Nat.not_lt.2 hfits.2)]
    exact .ok n

theorem failsAs_step {v : Value} {token : List Char} (h : Admits p (indexFits token)) :
    FailsAs p (step v token) := by
  cases v with
  | list xs =>
    simp only [step]
    split
    · rename_i hdigits
      rw [Bool.and_eq_true_iff] at hdigits
      exact FailsAs.map (failsAs_index h (by simpa using hdigits.1) hdigits.2)
    · exact .ok _
  | _ => exact .ok _

theorem failsAs_follow {ref : String} {tokens : List (List Char)}
    (h : Admits p (tokens.all fun token => indexFits (unescape token))) (v : Value) :
    FailsAs p (follow ref v tokens) := by
  induction tokens generalizing v with
  | nil => exact .ok v
  | cons token more ih =>
    rw [List.all_cons, Admits.and_iff] at h
    refine FailsAs.bind (failsAs_step h.1) fun next _ => ?_
    cases next with
    | none => exact .error (h.1.refused _)
    | some next => exact ih h.2 next

theorem failsAs_lookup {ref : String} (h : Admits p (fits ref)) (root : Value) : FailsAs p (lookup root ref) := by
  unfold fits at h
  unfold lookup
  split
  · exact .ok _
  · exact .ok _
  · rename_i path _ hpath
    rw [hpath] at h
    exact failsAs_follow h root
  · exact .error (h.refused _)
  · exact .error (h.refused _)

end Pointer

/-! ## Documents -/

namespace Reference

theorem failsAs_each {α β : Type} {f : α → Traced β} {xs : List α} (h : ∀ x ∈ xs, FailsAs p (f x).outcome) :
    FailsAs p (Traced.each f xs).outcome := by
  induction xs with
  | nil => exact .ok _
  | cons x xs ih =>
    refine FailsAs.andThen (h x List.mem_cons_self) fun y _ => ?_
    exact FailsAs.andThen (ih fun z hz => h z (List.mem_cons_of_mem x hz)) fun _ _ => .ok _

theorem failsAs_replaceWith {follow : String → Traced Value} {s : List String} (v : Value)
    (h : ∀ r ∈ refsIn v, FailsAs p (follow r).outcome) : FailsAs p (replaceWith follow s v).outcome := by
  induction v using Value.parts_induction with
  | list xs ih =>
    rw [replaceWith, replaceItems_eq_each]
    exact FailsAs.andThen (failsAs_each fun x hx => ih x hx fun r hr => h r (mem_refsIn_list.2 ⟨x, hx, hr⟩))
      fun _ _ => .ok _
  | map es ih =>
    have hfield : ∀ e ∈ es, FailsAs p (do return (e.1, ← replaceWith follow s e.2) : Traced _).outcome :=
      fun e he => FailsAs.andThen (ih e he fun r hr => h r (mem_refsIn_map.2 (Or.inr ⟨e, he, hr⟩))) fun _ _ => .ok _
    cases href : ref? es with
    | none =>
      simp only [replaceWith, href, replaceEntries_eq_each]
      exact FailsAs.andThen (failsAs_each hfield) fun _ _ => .ok _
    | some r =>
      simp only [replaceWith, href, replaceEntries_beside, replaceEntries_eq_each]
      split
      · exact .ok _
      · refine FailsAs.andThen (h r (mem_refsIn_map.2 (Or.inl href))) fun target _ => ?_
        split
        · exact FailsAs.andThen (failsAs_each fun e he => hfield e (Entries.mem_erase.1 he).1) fun _ _ => .ok _
        · exact .ok _
  | other v hlist hmap =>
    rw [replaceWith_other hlist hmap]
    exact .ok v

theorem failsAs_resolveFrom {doc : Value} (h : Admits p ((refsIn doc).all Pointer.fits)) (chain : Nat)
    (s : List String) {v : Value} (hv : refsIn v ⊆ refsIn doc) : FailsAs p (resolveFrom doc chain s v).outcome := by
  induction chain generalizing s v with
  | zero => exact failsAs_replaceWith v fun _ _ => .ok _
  | succ chain ih =>
    refine failsAs_replaceWith v fun r hr => FailsAs.andThen ?_ fun target htarget => ?_
    · exact Pointer.failsAs_lookup (h.item (hv hr)) doc
    · exact ih (r :: s) (refsIn_lookup htarget)

theorem failsAs_resolve {doc : Value} (h : Admits p ((refsIn doc).all Pointer.fits)) :
    FailsAs p (resolve doc).outcome :=
  failsAs_resolveFrom h _ [] fun _ hr => hr

end Reference

end ClientForge
