import ClientForge.Value.Basic

/-!
Entries of maps, as they are found under text keys. Entries put over others override them
(`get?_update`), and what is then there comes from the one or the other (`mem_update`).
-/

namespace ClientForge.Entries

/-! ## Finding -/

theorem sameKey_text {k : Value} {s : String} : k.sameKey (.text s) = true ↔ k = .text s := by
  cases k <;> simp [Value.sameKey, Value.wholeNumber?]

theorem get?_nil (k : String) : get? [] k = none := rfl

theorem get?_cons (e : Value × Value) (es : Entries) (k : String) :
    get? (e :: es) k = if e.1.sameKey (.text k) then some e.2 else get? es k := by
  by_cases h : e.1.sameKey (.text k) <;> simp [get?, find?, h]

theorem get?_append (es fs : Entries) (k : String) : get? (es ++ fs) k = (get? es k).or (get? fs k) := by
  induction es with
  | nil => rfl
  | cons e es ih =>
    rw [List.cons_append, get?_cons, get?_cons, ih]
    split <;> rfl

theorem get?_map (g : Value → Value) (es : Entries) (k : String) :
    get? (es.map fun e => (e.1, g e.2)) k = (get? es k).map g := by
  induction es with
  | nil => rfl
  | cons e es ih =>
    rw [List.map_cons, get?_cons, get?_cons, ih]
    split <;> rfl

theorem mem_of_get? {es : Entries} {k : String} {v : Value} (h : get? es k = some v) :
    (.text k, v) ∈ es := by
  induction es with
  | nil => cases h
  | cons e es ih =>
    rw [get?_cons] at h
    split at h
    · rename_i hkey
      cases h
      rw [← sameKey_text.1 hkey]
      exact List.mem_cons_self
    · exact List.mem_cons_of_mem e (ih h)

theorem get?_eq_none {es : Entries} {k : String} : get? es k = none ↔ ∀ e ∈ es, e.1 ≠ .text k := by
  induction es with
  | nil => simp [get?, find?]
  | cons e es ih =>
    rw [get?_cons, List.forall_mem_cons, ← ih, ne_eq, ← sameKey_text]
    by_cases h : e.1.sameKey (.text k) <;> simp [h]

theorem mem_erase {es : Entries} {k : String} {e : Value × Value} :
    e ∈ erase es k ↔ e ∈ es ∧ e.1 ≠ .text k := by
  simp [erase, ← sameKey_text]

theorem get?_erase (es : Entries) (k : String) : get? (erase es k) k = none :=
  get?_eq_none.2 fun _ he => (mem_erase.1 he).2

/-! ## Putting -/

/-- Keys that are the same are the same text, if one of them is a text. -/
theorem sameKey_text_of_sameKey {a b : Value} (h : a.sameKey b = true) (s : String) :
    a.sameKey (.text s) = b.sameKey (.text s) := by
  by_cases hb : b = .text s
  · subst hb
    rw [h, sameKey_text.2 rfl]
  · have ha : a ≠ .text s := by
      rintro rfl
      cases b <;> simp [Value.sameKey, Value.wholeNumber?] at h
      exact hb (by rw [h])
    rw [Bool.eq_iff_iff, sameKey_text, sameKey_text]
    exact ⟨fun h => absurd h ha, fun h => absurd h hb⟩

theorem get?_insert (es : Entries) (k v : Value) (s : String) :
    get? (insert es k v) s = if k.sameKey (.text s) then some v else get? es s := by
  induction es with
  | nil => rw [insert, get?_cons]
  | cons e es ih =>
    unfold insert
    by_cases hsame : e.1.sameKey k
    · rw [if_pos hsame, get?_cons, get?_cons, sameKey_text_of_sameKey hsame]
      split <;> rfl
    · rw [if_neg hsame, get?_cons, get?_cons, ih]
      split
      · rename_i hs
        have hk : ¬k.sameKey (.text s) = true := fun hk => hsame (by rw [sameKey_text.1 hk, hs])
        rw [if_neg hk]
      · rfl

theorem mem_insert {es : Entries} {k v : Value} {e : Value × Value} (h : e ∈ insert es k v) :
    e.2 = v ∨ e ∈ es := by
  induction es with
  | nil =>
    rw [insert, List.mem_singleton] at h
    exact Or.inl (by rw [h])
  | cons f es ih =>
    unfold insert at h
    split at h
    · rcases List.mem_cons.1 h with rfl | h
      · exact Or.inl rfl
      · exact Or.inr (List.mem_cons_of_mem f h)
    · rcases List.mem_cons.1 h with rfl | h
      · exact Or.inr List.mem_cons_self
      · exact (ih h).imp_right (List.mem_cons_of_mem f)

/-- Of the entries put over others, the last under a key counts, and the others if there is none. -/
theorem get?_update_reverse (es new : Entries) (s : String) :
    get? (update es new) s = (get? new.reverse s).or (get? es s) := by
  induction new generalizing es with
  | nil => rfl
  | cons e new ih =>
    have hcons : update es (e :: new) = update (insert es e.1 e.2) new := rfl
    rw [hcons, ih, get?_insert, List.reverse_cons, get?_append, Option.or_assoc, get?_cons]
    split <;> rfl

theorem get?_ofList (es : Entries) (s : String) : get? (ofList es) s = get? es.reverse s := by
  rw [ofList, get?_update_reverse]
  exact Option.or_none

/-- The entries put over others override them. -/
theorem get?_update (es new : Entries) (s : String) :
    get? (update es new) s = (get? (ofList new) s).or (get? es s) := by
  rw [get?_update_reverse, get?_ofList]

/-- Entries without a key leave what is under it. -/
theorem get?_update_of_eq_none {new : Entries} {s : String} (hnew : get? new s = none) (es : Entries) :
    get? (update es new) s = get? es s := by
  have hnone : get? new.reverse s = none :=
    get?_eq_none.2 fun e he => get?_eq_none.1 hnew e (List.mem_reverse.1 he)
  rw [get?_update_reverse, hnone, Option.none_or]

theorem mem_update {es new : Entries} {e : Value × Value} (h : e ∈ update es new) :
    (∃ f ∈ new, e.2 = f.2) ∨ e ∈ es := by
  induction new generalizing es with
  | nil => exact Or.inr h
  | cons f new ih =>
    rcases ih h with ⟨g, hg, heq⟩ | h
    · exact Or.inl ⟨g, List.mem_cons_of_mem f hg, heq⟩
    · rcases mem_insert h with heq | h
      · exact Or.inl ⟨f, List.mem_cons_self, heq⟩
      · exact Or.inr h

end ClientForge.Entries
