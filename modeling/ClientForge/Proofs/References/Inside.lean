import ClientForge.Proofs.Entries
import ClientForge.Reference

/-!
What is inside a value by way of lists and maps, where references are looked for. The references in a value are those of the maps inside
it (`mem_refsIn`), and a pointer leads to a value inside the root (`inside_lookup`). So no reference is
met while references are followed that the document does not hold (`refsIn_lookup`).
-/

namespace ClientForge

/-- What holds of lists and maps if it holds of their items and fields holds of every value. -/
@[elab_as_elim]
theorem Value.parts_induction {motive : Value → Prop}
    (list : ∀ xs : List Value, (∀ x ∈ xs, motive x) → motive (.list xs))
    (map : ∀ es : Entries, (∀ e ∈ es, motive e.2) → motive (.map es))
    (other : ∀ v : Value, (∀ xs, v ≠ .list xs) → (∀ es, v ≠ .map es) → motive v) : ∀ v : Value, motive v
  | .list xs => list xs fun x _hx => parts_induction list map other x
  | .map es => map es fun ⟨_, x⟩ _hx => parts_induction list map other x
  | .null | .bool _ | .int _ | .float _ | .text _ | .bytes _ | .date _ | .moment _ | .tuple _ | .set _ | .again =>
    other _ (fun _ => nofun) (fun _ => nofun)
termination_by v => sizeOf v
decreasing_by
  all_goals
    have hlt := List.sizeOf_lt_of_mem _hx
    simp at hlt ⊢
    omega

namespace Reference

/-! ## Values inside each other -/

/-- A value is inside another: it is the other itself, or it is inside an item of a list or a field of a map.
Items of tuples and sets do not count, since references are not looked for there. -/
inductive Inside (w : Value) : Value → Prop
  | self : Inside w w
  | item {xs : List Value} {x : Value} : x ∈ xs → Inside w x → Inside w (.list xs)
  | field {es : Entries} {k x : Value} : (k, x) ∈ es → Inside w x → Inside w (.map es)

theorem Inside.trans {u v w : Value} (huv : Inside u v) (hvw : Inside v w) : Inside u w := by
  induction hvw with
  | self => exact huv
  | item hx _ ih => exact .item hx ih
  | field hx _ ih => exact .field hx ih

/-! ## References inside a value -/

theorem ref?_eq_some {es : Entries} {r : String} :
    ref? es = some r ↔ Entries.get? es refKey = some (.text r) := by
  unfold ref?
  split
  · rename_i q hget
    rw [hget, Option.some_inj, Option.some_inj, Value.text.injEq]
  · rename_i hget
    exact ⟨fun h => absurd h nofun, fun h => absurd h (hget r)⟩

theorem ref?_eq_none_of_get? {es : Entries} (h : Entries.get? es refKey = none) : ref? es = none := by
  rw [ref?, h]

/-- Where the key of a reference holds nothing but a text, only a map without it is no reference. -/
theorem get?_eq_none_of_ref? {es : Entries} (htext : ∀ x, Entries.get? es refKey = some x → ∃ r, x = .text r)
    (href : ref? es = none) : Entries.get? es refKey = none := by
  cases hget : Entries.get? es refKey with
  | none => rfl
  | some x =>
    obtain ⟨r, rfl⟩ := htext x hget
    rw [ref?_eq_some.2 hget] at href
    cases href

theorem mem_refsInItems {r : String} {xs : List Value} : r ∈ refsInItems xs ↔ ∃ x ∈ xs, r ∈ refsIn x := by
  induction xs with
  | nil => simp [refsInItems]
  | cons x xs ih => simp [refsInItems, ih]

theorem mem_refsInEntries {r : String} {es : Entries} :
    r ∈ refsInEntries es ↔ ∃ e ∈ es, r ∈ refsIn e.2 := by
  induction es with
  | nil => simp [refsInEntries]
  | cons e es ih => simp [refsInEntries, ih]

theorem mem_refsIn_list {r : String} {xs : List Value} :
    r ∈ refsIn (.list xs) ↔ ∃ x ∈ xs, r ∈ refsIn x := mem_refsInItems

theorem mem_refsIn_map {r : String} {es : Entries} :
    r ∈ refsIn (.map es) ↔ ref? es = some r ∨ ∃ e ∈ es, r ∈ refsIn e.2 := by
  simp [refsIn, mem_refsInEntries]

theorem refsIn_other {v : Value} (hlist : ∀ xs, v ≠ .list xs) (hmap : ∀ es, v ≠ .map es) : refsIn v = [] := by
  cases v with
  | list xs => exact absurd rfl (hlist xs)
  | map es => exact absurd rfl (hmap es)
  | _ => rfl

theorem refsIn_erase (es : Entries) : refsIn (.map (Entries.erase es refKey)) ⊆ refsIn (.map es) := by
  intro r hr
  rcases mem_refsIn_map.1 hr with href | ⟨e, he, hr⟩
  · rw [ref?_eq_none_of_get? (Entries.get?_erase es refKey)] at href
    cases href
  · exact mem_refsIn_map.2 (Or.inr ⟨e, (Entries.mem_erase.1 he).1, hr⟩)

/-- Entries without a reference that are put over others bring only what is in their fields. -/
theorem mem_refsIn_update {r : String} {es own : Entries} (hown : Entries.get? own refKey = none)
    (h : r ∈ refsIn (.map (Entries.update es own))) : r ∈ refsIn (.map es) ∨ r ∈ refsIn (.map own) := by
  rcases mem_refsIn_map.1 h with href | ⟨e, he, hr⟩
  · rw [ref?_eq_some, Entries.get?_update_of_eq_none hown, ← ref?_eq_some] at href
    exact Or.inl (mem_refsIn_map.2 (Or.inl href))
  · rcases Entries.mem_update he with ⟨f, hf, heq⟩ | he
    · rw [heq] at hr
      exact Or.inr (mem_refsIn_map.2 (Or.inr ⟨f, hf, hr⟩))
    · exact Or.inl (mem_refsIn_map.2 (Or.inr ⟨e, he, hr⟩))

theorem Inside.refsIn_subset {w v : Value} (h : Inside w v) : refsIn w ⊆ refsIn v := by
  induction h with
  | self => exact fun _ hr => hr
  | item hx _ ih => exact fun _ hr => mem_refsIn_list.2 ⟨_, hx, ih hr⟩
  | field hx _ ih => exact fun _ hr => mem_refsIn_map.2 (Or.inr ⟨_, hx, ih hr⟩)

theorem inside_of_mem_refsIn {r : String} (v : Value) (h : r ∈ refsIn v) :
    ∃ es, Inside (.map es) v ∧ ref? es = some r := by
  induction v using Value.parts_induction with
  | list xs ih =>
    obtain ⟨x, hx, hr⟩ := mem_refsIn_list.1 h
    obtain ⟨es, hes, href⟩ := ih x hx hr
    exact ⟨es, .item hx hes, href⟩
  | map es ih =>
    rcases mem_refsIn_map.1 h with href | ⟨e, he, hr⟩
    · exact ⟨es, .self, href⟩
    · obtain ⟨fs, hfs, href⟩ := ih e he hr
      exact ⟨fs, .field he hfs, href⟩
  | other v hlist hmap =>
    rw [refsIn_other hlist hmap] at h
    cases h

/-- The references in a value are those of the maps inside it. -/
theorem mem_refsIn {r : String} {v : Value} :
    r ∈ refsIn v ↔ ∃ es, Inside (.map es) v ∧ ref? es = some r :=
  ⟨inside_of_mem_refsIn v, fun ⟨_, hes, href⟩ => hes.refsIn_subset (mem_refsIn_map.2 (Or.inl href))⟩

/-! ## Where pointers lead -/

theorem inside_step {v w : Value} {token : List Char} (h : Pointer.step v token = .ok (some w)) :
    Inside w v := by
  cases v with
  | map es =>
    have hget : Entries.get? es (.ofList token) = some w := by simpa [Pointer.step] using h
    exact .field (Entries.mem_of_get? hget) .self
  | list xs =>
    simp only [Pointer.step] at h
    split at h
    · cases hi : Pointer.index token with
      | error f => simp [hi, Except.map] at h
      | ok i =>
        have hget : xs[i]? = some w := by simpa [hi, Except.map] using h
        exact .item (List.mem_of_getElem? hget) .self
    · cases h
  | _ => cases h

theorem inside_follow {ref : String} {v w : Value} {tokens : List (List Char)}
    (h : Pointer.follow ref v tokens = .ok w) : Inside w v := by
  induction tokens generalizing v with
  | nil =>
    cases h
    exact .self
  | cons token tokens ih =>
    unfold Pointer.follow at h
    cases hstep : Pointer.step v (Pointer.unescape token) with
    | error f => simp [hstep, bind, Except.bind] at h
    | ok found =>
      cases found with
      | none => simp [hstep, bind, Except.bind] at h
      | some next =>
        have hnext : Pointer.follow ref next tokens = .ok w := by simpa [hstep, bind, Except.bind] using h
        exact (ih hnext).trans (inside_step hstep)

theorem inside_lookup {doc t : Value} {r : String} (h : Pointer.lookup doc r = .ok t) : Inside t doc := by
  unfold Pointer.lookup at h
  split at h
  · cases h
    exact .self
  · cases h
    exact .self
  · exact inside_follow h
  · cases h
  · cases h

/-- Following a reference leads to no new references. -/
theorem refsIn_lookup {doc t : Value} {r : String} (h : Pointer.lookup doc r = .ok t) :
    refsIn t ⊆ refsIn doc :=
  (inside_lookup h).refsIn_subset

end Reference

end ClientForge
