import ClientForge.Proofs.References.Cycles

/-!
Documents whose references are on no cycle. There every reference has one meaning, wherever it stands
(`Acyclic.exists_meaning`), and resolving puts the meanings in place of the references. Nothing is then
left to resolve (`resolve_acyclic`).
-/

namespace ClientForge.Reference

/-! ## Meanings put in place of references -/

mutual

/-- The value with the meanings of its references in their place, with the entries beside a reference over
those of its meaning. -/
def substitute (meaning : String → Value) : Value → Value
  | .list xs => .list (substituteItems meaning xs)
  | .map es =>
    match ref? es with
    | none => .map (substituteFields meaning false es)
    | some r => overlay (meaning r) (substituteFields meaning true es)
  | v => v
termination_by structural v => v

def substituteItems (meaning : String → Value) : List Value → List Value
  | [] => []
  | x :: xs => substitute meaning x :: substituteItems meaning xs
termination_by structural xs => xs

/-- The fields with the meanings in place; without the reference itself, if `beside` is set. -/
def substituteFields (meaning : String → Value) (beside : Bool) : List (Value × Value) → List (Value × Value)
  | [] => []
  | (k, v) :: es =>
    if beside && k.sameKey (.text refKey) then substituteFields meaning beside es
    else (k, substitute meaning v) :: substituteFields meaning beside es
termination_by structural es => es

end

theorem substituteItems_eq_map (m : String → Value) (xs : List Value) :
    substituteItems m xs = xs.map (substitute m) := by
  induction xs with
  | nil => rfl
  | cons x xs ih => rw [substituteItems, ih, List.map_cons]

theorem substituteFields_eq_map (m : String → Value) (es : Entries) :
    substituteFields m false es = es.map fun e => (e.1, substitute m e.2) := by
  induction es with
  | nil => rfl
  | cons e es ih => simp [substituteFields, ih]

theorem substituteFields_beside (m : String → Value) (es : Entries) :
    substituteFields m true es = (Entries.erase es refKey).map fun e => (e.1, substitute m e.2) := by
  induction es with
  | nil => rfl
  | cons e es ih =>
    by_cases hkey : e.1.sameKey (.text refKey)
    · rw [substituteFields, hkey, Bool.and_self, if_pos rfl, ih]
      simp [Entries.erase, hkey]
    · simp [substituteFields, Entries.erase, hkey] at ih ⊢
      exact ih

theorem substitute_other {v : Value} (hlist : ∀ xs, v ≠ .list xs) (hmap : ∀ es, v ≠ .map es)
    (m : String → Value) : substitute m v = v := by
  cases v with
  | list xs => exact absurd rfl (hlist xs)
  | map es => exact absurd rfl (hmap es)
  | _ => rfl

/-- Without references there is nothing to put in place. -/
theorem substitute_eq_self {m : String → Value} {v : Value} (h : refsIn v = []) : substitute m v = v := by
  have hnone : ∀ r, r ∉ refsIn v := fun r hr => by
    rw [h] at hr
    cases hr
  clear h
  induction v using Value.parts_induction with
  | list xs ih =>
    have hitems : xs.map (substitute m) = xs :=
      (List.map_congr_left fun x hx => ih x hx fun r hr => hnone r (mem_refsIn_list.2 ⟨x, hx, hr⟩)).trans
        (List.map_id xs)
    rw [substitute, substituteItems_eq_map, hitems]
  | map es ih =>
    have href : ref? es = none := by
      cases href : ref? es with
      | none => rfl
      | some r => exact absurd (mem_refsIn_map.2 (Or.inl href)) (hnone r)
    have hfield : ∀ e ∈ es, (e.1, substitute m e.2) = e := fun e he => by
      rw [ih e he fun r hr => hnone r (mem_refsIn_map.2 (Or.inr ⟨e, he, hr⟩))]
    have hfields : (es.map fun e => (e.1, substitute m e.2)) = es :=
      (List.map_congr_left hfield).trans (List.map_id es)
    simp only [substitute, href, substituteFields_eq_map, hfields]
  | other v hlist hmap => exact substitute_other hlist hmap m

theorem each_done {α β : Type} {f : α → Traced β} {g : α → β} {xs : List α} (h : ∀ x ∈ xs, f x = .done (g x)) :
    Traced.each f xs = .done (xs.map g) := by
  induction xs with
  | nil => rfl
  | cons x xs ih =>
    rw [Traced.each, h x List.mem_cons_self, ih fun y hy => h y (List.mem_cons_of_mem x hy)]
    rfl

/-- If no reference is on the stack and each gives its meaning, the meanings are put in place. -/
theorem replaceWith_done {f : String → Traced Value} {m : String → Value} {s : List String} (v : Value)
    (h : ∀ r ∈ refsIn v, r ∉ s ∧ f r = .done (m r)) : replaceWith f s v = .done (substitute m v) := by
  induction v using Value.parts_induction with
  | list xs ih =>
    rw [replaceWith, replaceItems_eq_each, substitute, substituteItems_eq_map,
      each_done fun x hx => ih x hx fun r hr => h r (mem_refsIn_list.2 ⟨x, hx, hr⟩)]
    rfl
  | map es ih =>
    have hfield : ∀ e ∈ es, (do return (e.1, ← replaceWith f s e.2)) = Traced.done (e.1, substitute m e.2) :=
      fun e he => by
        rw [ih e he fun r hr => h r (mem_refsIn_map.2 (Or.inr ⟨e, he, hr⟩))]
        rfl
    cases href : ref? es with
    | none =>
      simp only [replaceWith, substitute, href, replaceEntries_eq_each, substituteFields_eq_map, each_done hfield]
      rfl
    | some r =>
      obtain ⟨hnew, hfollow⟩ := h r (mem_refsIn_map.2 (Or.inl href))
      have hsiblings := each_done fun e (he : e ∈ Entries.erase es refKey) => hfield e (Entries.mem_erase.1 he).1
      simp only [replaceWith, substitute, href, List.contains_eq_mem, hnew, decide_false, Bool.false_eq_true,
        if_false, hfollow, replaceEntries_beside, replaceEntries_eq_each, substituteFields_beside, hsiblings]
      cases m r <;> rfl
  | other v hlist hmap =>
    rw [replaceWith_other hlist hmap, substitute_other hlist hmap]
    rfl

/-! ## Values without references -/

/-- No map inside has the key of a reference. -/
def Free (v : Value) : Prop := ∀ es, Inside (.map es) v → Entries.get? es refKey = none

theorem free_list {xs : List Value} : Free (.list xs) ↔ ∀ x ∈ xs, Free x := by
  constructor
  · exact fun h x hx es hes => h es (.item hx hes)
  · rintro h es (_ | ⟨hx, hes⟩)
    exact h _ hx es hes

theorem free_map {es : Entries} : Free (.map es) ↔ Entries.get? es refKey = none ∧ ∀ e ∈ es, Free e.2 := by
  constructor
  · exact fun h => ⟨h es .self, fun e he fs hfs => h fs (.field he hfs)⟩
  · rintro ⟨hself, hfields⟩ fs (_ | _ | ⟨hx, hfs⟩)
    · exact hself
    · exact hfields _ hx fs hfs

theorem Free.refsIn_eq_nil {v : Value} (h : Free v) : refsIn v = [] := by
  refine List.eq_nil_iff_forall_not_mem.2 fun r hr => ?_
  obtain ⟨es, hes, href⟩ := mem_refsIn.1 hr
  rw [ref?_eq_some, h es hes] at href
  cases href

theorem free_overlay {u : Value} {own : Entries} (hu : Free u) (hkey : Entries.get? own refKey = none)
    (hown : ∀ e ∈ own, Free e.2) : Free (overlay u own) := by
  cases u with
  | map fields =>
    obtain ⟨hself, hfields⟩ := free_map.1 hu
    rw [overlay_map]
    refine free_map.2 ⟨by rw [Entries.get?_update_of_eq_none hkey, hself], fun e he => ?_⟩
    rcases Entries.mem_update he with ⟨f, hf, heq⟩ | he
    · rw [heq]
      exact hown f hf
    · exact hfields e he
  | _ => exact hu

/-- If the meanings hold no reference, none is left. -/
theorem free_substitute {m : String → Value} {v : Value} (htexts : Texts v) (h : ∀ r ∈ refsIn v, Free (m r)) :
    Free (substitute m v) := by
  induction v using Value.parts_induction with
  | list xs ih =>
    rw [substitute, substituteItems_eq_map, free_list]
    intro y hy
    obtain ⟨x, hx, rfl⟩ := List.mem_map.1 hy
    exact ih x hx (texts_list.1 htexts x hx) fun r hr => h r (mem_refsIn_list.2 ⟨x, hx, hr⟩)
  | map es ih =>
    obtain ⟨hself, hfields⟩ := texts_map.1 htexts
    have hfield : ∀ e ∈ es, Free (substitute m e.2) := fun e he =>
      ih e he (hfields e he) fun r hr => h r (mem_refsIn_map.2 (Or.inr ⟨e, he, hr⟩))
    cases href : ref? es with
    | none =>
      simp only [substitute, href, substituteFields_eq_map]
      refine free_map.2 ⟨?_, fun f hf => ?_⟩
      · rw [Entries.get?_map, get?_eq_none_of_ref? hself href]
        rfl
      · obtain ⟨e, he, rfl⟩ := List.mem_map.1 hf
        exact hfield e he
    | some r =>
      simp only [substitute, href, substituteFields_beside]
      refine free_overlay (h r (mem_refsIn_map.2 (Or.inl href))) ?_ fun f hf => ?_
      · rw [Entries.get?_map, Entries.get?_erase]
        rfl
      · obtain ⟨e, he, rfl⟩ := List.mem_map.1 hf
        exact hfield e (Entries.mem_erase.1 he).1
  | other v hlist hmap =>
    rw [substitute_other hlist hmap]
    rintro es (_ | _ | _)
    · exact absurd rfl (hmap es)
    · exact absurd rfl (hlist _)
    · exact absurd rfl (hmap _)

/-! ## One meaning for each reference -/

/-- A document whose references are texts, lead somewhere, and are on no cycle. -/
structure Acyclic (doc : Value) : Prop where
  texts : Texts doc
  found : ∀ r ∈ refsIn doc, ∃ t, Pointer.lookup doc r = .ok t
  acyclic : ∀ r ∈ refsIn doc, ¬OnCycle doc r

section

variable {doc : Value}

/-- If references lead only to references of a lower rank, none is on a cycle. -/
theorem not_onCycle_of_rank (rank : String → Nat) (h : ∀ r ∈ refsIn doc, ∀ q, Leads doc r q → rank q < rank r) :
    ∀ r ∈ refsIn doc, ¬OnCycle doc r := by
  have hlower : ∀ {r q}, Relation.TransGen (Leads doc) r q → r ∈ refsIn doc → rank q < rank r := by
    intro r q hleads hr
    induction hleads using Relation.TransGen.head_induction_on with
    | single hlast => exact h _ hr _ hlast
    | head hfirst _ ih =>
      obtain ⟨t, ht, hq⟩ := id hfirst
      exact Nat.lt_trans (ih (refsIn_lookup ht hq)) (h _ hr _ hfirst)
  exact fun r hr hcycle => Nat.lt_irrefl _ (hlower hcycle hr)

theorem Acyclic.not_mem_stack (h : Acyclic doc) {s : List String} {v : Value} (hs : Straight doc ⟨s, v⟩)
    {r : String} (hr : r ∈ refsIn v) : r ∉ s :=
  fun hstack => h.acyclic r (hs.refs hr) (hs.onCycle hr hstack)

/-- A stack with one more reference has fewer left. -/
theorem Straight.fewer {s : List String} {r : String} {t : Value} (h : Straight doc ⟨r :: s, t⟩) :
    (refsIn doc).eraseDups.length - (r :: s).length < (refsIn doc).eraseDups.length - s.length := by
  have hlen := length_le_of_nodup h.nodup h.stack
  simp only [List.length_cons] at hlen ⊢
  omega

/-- What a call gives does not depend on its stack. -/
theorem Acyclic.resolution_eq (h : Acyclic doc) {s t : List String} {v : Value} (hs : Straight doc ⟨s, v⟩)
    (ht : Straight doc ⟨t, v⟩) : resolution doc ⟨s, v⟩ = resolution doc ⟨t, v⟩ := by
  -- on the references that are not on the first stack yet
  induction hn : (refsIn doc).eraseDups.length - s.length using Nat.strongRecOn generalizing s t v with
  | ind n ih =>
    rw [resolution_eq_replaceWith hs.toWithin, resolution_eq_replaceWith ht.toWithin]
    refine replaceWith_congr v fun r hr => ?_
    have hrs := h.not_mem_stack hs hr
    have hrt := h.not_mem_stack ht hr
    refine ⟨iff_of_false hrs hrt, fun _ => ?_⟩
    obtain ⟨u, hu⟩ := h.found r (hs.refs hr)
    have hpush := hs.push hr hrs hu
    have hsame := ih _ (hn ▸ hpush.fewer) hpush (ht.push hr hrt hu) rfl
    simpa only [given, hu, Traced.liftM_ok_bind] using hsame

/-- A call gives a value without references. -/
theorem Acyclic.resolution_done (h : Acyclic doc) {s : List String} {v : Value} (hs : Straight doc ⟨s, v⟩)
    (htexts : Texts v) : ∃ w, resolution doc ⟨s, v⟩ = .done w ∧ Free w := by
  induction hn : (refsIn doc).eraseDups.length - s.length using Nat.strongRecOn generalizing s v with
  | ind n ih =>
    have hgiven : ∀ r ∈ refsIn v, ∃ u, given doc s r = .done u ∧ Free u := fun r hr => by
      obtain ⟨t, ht⟩ := h.found r (hs.refs hr)
      have hpush := hs.push hr (h.not_mem_stack hs hr) ht
      have hnext := ih _ (hn ▸ hpush.fewer) hpush (h.texts.of_inside (inside_lookup ht)) rfl
      simpa only [given, ht, Traced.liftM_ok_bind] using hnext
    choose! m hm using hgiven
    refine ⟨substitute m v, ?_, free_substitute htexts fun r hr => (hm r hr).2⟩
    rw [resolution_eq_replaceWith hs.toWithin]
    exact replaceWith_done v fun r hr => ⟨h.not_mem_stack hs hr, (hm r hr).1⟩

/-- What references mean: the same in each call. -/
theorem Acyclic.exists_meaning (h : Acyclic doc) : ∃ meaning : String → Value,
    (∀ r ∈ refsIn doc, ∃ t, Pointer.lookup doc r = .ok t ∧ meaning r = substitute meaning t ∧ Free (meaning r)) ∧
      ∀ s v, Straight doc ⟨s, v⟩ → resolution doc ⟨s, v⟩ = .done (substitute meaning v) := by
  have hroot : ∀ r ∈ refsIn doc, ∀ t, Pointer.lookup doc r = .ok t → Straight doc ⟨[r], t⟩ := fun r hr t ht =>
    (straight_nil fun _ hq => hq).push hr List.not_mem_nil ht
  have hgiven : ∀ r ∈ refsIn doc, ∃ u, given doc [] r = .done u ∧ Free u := fun r hr => by
    obtain ⟨t, ht⟩ := h.found r hr
    have hdone := h.resolution_done (hroot r hr t ht) (h.texts.of_inside (inside_lookup ht))
    simpa only [given, ht, Traced.liftM_ok_bind] using hdone
  choose! meaning hmeaning using hgiven
  have hresolution : ∀ s v, Straight doc ⟨s, v⟩ → resolution doc ⟨s, v⟩ = .done (substitute meaning v) := by
    intro s v hs
    rw [resolution_eq_replaceWith hs.toWithin]
    refine replaceWith_done v fun r hr => ⟨h.not_mem_stack hs hr, ?_⟩
    obtain ⟨t, ht⟩ := h.found r (hs.refs hr)
    have hsame := h.resolution_eq (hs.push hr (h.not_mem_stack hs hr) ht) (hroot r (hs.refs hr) t ht)
    have hfirst := (hmeaning r (hs.refs hr)).1
    simp only [given, ht, Traced.liftM_ok_bind] at hfirst ⊢
    rw [hsame, hfirst]
  refine ⟨meaning, fun r hr => ?_, hresolution⟩
  obtain ⟨t, ht⟩ := h.found r hr
  obtain ⟨hfirst, hfree⟩ := hmeaning r hr
  simp only [given, ht, Traced.liftM_ok_bind, hresolution _ t (hroot r hr t ht)] at hfirst
  exact ⟨t, ht, (Except.ok.inj (congrArg Traced.outcome hfirst)).symm, hfree⟩

end

/-- A value without references is resolved already. -/
theorem resolve_free {v : Value} (h : Free v) : resolve v = .done v := by
  have hrefs := h.refsIn_eq_nil
  have hdone := replaceWith_done (f := given v []) (m := fun _ => .null) (s := []) v (by simp [hrefs])
  rw [substitute_eq_self hrefs] at hdone
  rw [← hdone]
  exact resolution_eq_replaceWith (within_whole v)

/-- If the references of a document are on no cycle, each has one meaning: what it leads to, with the
meanings in place of the references in it. The resolver puts the meanings in place, at every call
whatever its stack, and an entry beside a reference overrides that of its meaning. No key of
a reference is left, so that resolving again changes nothing. -/
theorem resolve_acyclic {doc : Value} (h : Acyclic doc) : ∃ meaning : String → Value,
    (∀ r ∈ refsIn doc, ∃ t, Pointer.lookup doc r = .ok t ∧ meaning r = substitute meaning t) ∧
      resolve doc = .done (substitute meaning doc) ∧ Free (substitute meaning doc) ∧
      resolve (substitute meaning doc) = .done (substitute meaning doc) ∧
      (∀ c, Reached doc c → resolution doc c = .done (substitute meaning c.value) ∧
        resolution doc c = resolution doc ⟨[], c.value⟩) ∧
      ∀ es r fields, ref? es = some r → meaning r = .map fields →
        ∃ own all, substitute meaning (.map (Entries.erase es refKey)) = .map own ∧
          substitute meaning (.map es) = .map all ∧
          ∀ key, Entries.get? all key = (Entries.get? (Entries.ofList own) key).or (Entries.get? fields key) := by
  obtain ⟨meaning, hmeaning, hresolution⟩ := h.exists_meaning
  have hfree : Free (substitute meaning doc) := free_substitute h.texts fun r hr => by
    obtain ⟨_, _, _, hr⟩ := hmeaning r hr
    exact hr
  refine ⟨meaning, fun r hr => ?_, hresolution [] doc (straight_nil fun _ hq => hq), hfree, resolve_free hfree,
    fun c hc => ⟨hresolution c.stack c.value hc.straight, ?_⟩, fun es r fields href hr => ?_⟩
  · obtain ⟨t, ht, heq, _⟩ := hmeaning r hr
    exact ⟨t, ht, heq⟩
  · exact h.resolution_eq hc.straight (straight_nil hc.straight.refs)
  · refine ⟨(Entries.erase es refKey).map fun e => (e.1, substitute meaning e.2), _, ?_, ?_,
      Entries.get?_update fields _⟩
    · simp only [substitute, ref?_erase, substituteFields_eq_map]
    · simp only [substitute, href, hr, substituteFields_beside, overlay_map]

/-- A document with a reference inside what another leads to, and an entry beside that. -/
def nestedDocument : Value := .map [
  (.text "a", .map [(.text refKey, .text "#/b"), (.text "d", .int 1)]),
  (.text "b", .map [(.text "c", .map [(.text refKey, .text "#/e")]), (.text "d", .int 2)]),
  (.text "e", .list [.int 3])]

theorem acyclic_nestedDocument : Acyclic nestedDocument := by
  have hrefs : refsIn nestedDocument = ["#/b", "#/e"] := by decide +kernel
  have hb : Pointer.lookup nestedDocument "#/b" =
      .ok (.map [(.text "c", .map [(.text refKey, .text "#/e")]), (.text "d", .int 2)]) := rfl
  have he : Pointer.lookup nestedDocument "#/e" = .ok (.list [.int 3]) := rfl
  constructor
  · simp [nestedDocument, texts_map, texts_list, texts_text, texts_int, Entries.get?_cons, Entries.get?_nil,
      Entries.sameKey_text, refKey]
  · simp [hrefs, hb, he]
  · refine not_onCycle_of_rank (fun r => if r = "#/b" then 1 else 0) ?_
    simp only [hrefs, Leads]
    rintro r hr q ⟨t, ht, hq⟩
    rcases List.mem_pair.1 hr with rfl | rfl
    · rw [hb] at ht
      cases ht
      have hq : q ∈ ["#/e"] := hq
      rw [List.mem_singleton.1 hq]
      decide
    · rw [he] at ht
      cases ht
      cases hq

theorem resolve_acyclic_nestedDocument : Acyclic nestedDocument ∧ ∃ meaning : String → Value,
    (∀ r ∈ refsIn nestedDocument, ∃ t, Pointer.lookup nestedDocument r = .ok t ∧ meaning r = substitute meaning t) ∧
      resolve nestedDocument = .done (substitute meaning nestedDocument) ∧
      Free (substitute meaning nestedDocument) ∧
      resolve (substitute meaning nestedDocument) = .done (substitute meaning nestedDocument) := by
  obtain ⟨meaning, hmeaning, hdone, hfree, hagain, -⟩ := resolve_acyclic acyclic_nestedDocument
  exact ⟨acyclic_nestedDocument, meaning, hmeaning, hdone, hfree, hagain⟩

end ClientForge.Reference
