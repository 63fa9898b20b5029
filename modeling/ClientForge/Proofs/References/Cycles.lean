import ClientForge.Proofs.References.Calls

/-!
Cycles of references. A reference leads to those in the value that it stands for (`Leads`). All that is
on a stack leads to all that is met below it (`Reached.straight`), so only references on a cycle are
found on the stack again (`looksUp_of_not_onCycle`). One that is left over in the resolved document is
on a cycle, or it stands beside one that is (`refs_of_resolve`): the map of a reference that is not
followed is left with all it holds.
-/

namespace ClientForge.Reference

/-- A reference leads to those in the value that it stands for. -/
def Leads (doc : Value) (r q : String) : Prop := ∃ t, Pointer.lookup doc r = .ok t ∧ q ∈ refsIn t

/-- A reference that leads back to itself, by way of any others. -/
def OnCycle (doc : Value) (r : String) : Prop := Relation.TransGen (Leads doc) r r

/-- A reference that stands beside one on a cycle: in another entry of its map. -/
def BesideCycle (doc : Value) (q : String) : Prop :=
  ∃ es r, Inside (.map es) doc ∧ ref? es = some r ∧ OnCycle doc r ∧ ∃ e ∈ es, q ∈ refsIn e.2

/-- In every map inside, the key of a reference holds a text. -/
def Texts (v : Value) : Prop :=
  ∀ es x, Inside (.map es) v → Entries.get? es refKey = some x → ∃ r, x = .text r

theorem Texts.of_inside {w v : Value} (h : Texts v) (hw : Inside w v) : Texts w :=
  fun es x hes hget => h es x (hes.trans hw) hget

/-! ## Stacks -/

/-- A call on whose stack all references lead to those in its value. -/
structure Straight (doc : Value) (c : Call) : Prop extends Within doc c where
  leads : ∀ r ∈ c.stack, ∀ q ∈ refsIn c.value, Relation.TransGen (Leads doc) r q

theorem straight_nil {doc v : Value} (h : refsIn v ⊆ refsIn doc) : Straight doc ⟨[], v⟩ :=
  ⟨⟨List.nodup_nil, List.nil_subset _, h⟩, fun _ hr => absurd hr List.not_mem_nil⟩

theorem Straight.of_subset {doc : Value} {s : List String} {v w : Value} (h : Straight doc ⟨s, v⟩)
    (hw : refsIn w ⊆ refsIn v) : Straight doc ⟨s, w⟩ :=
  ⟨⟨h.nodup, h.stack, fun _ hq => h.refs (hw hq)⟩, fun r hr _ hq => h.leads r hr _ (hw hq)⟩

/-- The call for what a reference in the value stands for. -/
theorem Straight.push {doc : Value} {s : List String} {v t : Value} {r : String} (h : Straight doc ⟨s, v⟩)
    (hr : r ∈ refsIn v) (hnew : r ∉ s) (hlookup : Pointer.lookup doc r = .ok t) : Straight doc ⟨r :: s, t⟩ := by
  refine ⟨⟨List.nodup_cons.2 ⟨hnew, h.nodup⟩, List.cons_subset.2 ⟨h.refs hr, h.stack⟩,
    refsIn_lookup hlookup⟩, fun p hp q hq => ?_⟩
  have hlast : Leads doc r q := ⟨t, hlookup, hq⟩
  rcases List.mem_cons.1 hp with rfl | hp
  · exact .single hlast
  · exact (h.leads p hp r hr).tail hlast

theorem Straight.nested {doc : Value} {c d : Call} (h : Straight doc c) (hcall : Nested doc c d) :
    Straight doc d := by
  cases hcall with
  | item hx => exact h.of_subset fun q hq => mem_refsIn_list.2 ⟨_, hx, hq⟩
  | field href hx => exact h.of_subset fun q hq => mem_refsIn_map.2 (Or.inr ⟨_, hx, hq⟩)
  | target href hr hlookup => exact h.push (mem_refsIn_map.2 (Or.inl href)) hr hlookup
  | siblings href hr => exact h.of_subset (refsIn_erase _)

theorem Reached.straight {doc : Value} {c : Call} (h : Reached doc c) : Straight doc c := by
  induction h with
  | refl => exact straight_nil fun _ hq => hq
  | tail _ hcall ih => exact ih.nested hcall

/-- A reference in the value that is on the stack is on a cycle. -/
theorem Straight.onCycle {doc : Value} {c : Call} {r : String} (h : Straight doc c) (hr : r ∈ refsIn c.value)
    (hstack : r ∈ c.stack) : OnCycle doc r :=
  h.leads r hstack r hr

/-- In a call for the map of a reference on no cycle, the reference is looked up. -/
theorem looksUp_of_not_onCycle {doc : Value} {c : Call} {es : Entries} {r : String} (h : Reached doc c)
    (hvalue : c.value = .map es) (href : ref? es = some r) (hr : ¬OnCycle doc r) : c.LooksUp r := by
  refine ⟨es, hvalue, href, fun hstack => hr (h.straight.onCycle ?_ hstack)⟩
  rw [hvalue]
  exact mem_refsIn_map.2 (Or.inl href)

/-! ## Maps of the document -/

/-- A call for a value whose maps with the key of a reference are maps of the document. -/
def FromDocument (doc : Value) (c : Call) : Prop :=
  ∀ es, Inside (.map es) c.value → Entries.get? es refKey ≠ none → Inside (.map es) doc

theorem FromDocument.nested {doc : Value} {c d : Call} (h : FromDocument doc c) (hcall : Nested doc c d) :
    FromDocument doc d := by
  intro fs hfs hkey
  cases hcall with
  | item hx => exact h fs (.item hx hfs) hkey
  | field href hx => exact h fs (.field hx hfs) hkey
  | target href hr hlookup => exact hfs.trans (inside_lookup hlookup)
  | siblings href hr =>
    cases hfs with
    | self => exact absurd (Entries.get?_erase _ _) hkey
    | field hx hfs => exact h fs (.field (Entries.mem_erase.1 hx).1 hfs) hkey

theorem Reached.fromDocument {doc : Value} {c : Call} (h : Reached doc c) : FromDocument doc c := by
  induction h with
  | refl => exact fun _ hes _ => hes
  | tail _ hcall ih => exact ih.nested hcall

/-! ## What is left over -/

/-- What a call gives, if it gives anything. -/
inductive Gives (doc : Value) : Call → Value → Prop
  | list {s : List String} {xs ys : List Value} :
      List.Forall₂ (fun x y => (resolution doc ⟨s, x⟩).outcome = .ok y) xs ys → Gives doc ⟨s, .list xs⟩ (.list ys)
  | map {s : List String} {es fs : Entries} : ref? es = none →
      List.Forall₂ (fun e f => f.1 = e.1 ∧ (resolution doc ⟨s, e.2⟩).outcome = .ok f.2) es fs →
      Gives doc ⟨s, .map es⟩ (.map fs)
  | circular {s : List String} {es : Entries} {r : String} : ref? es = some r → r ∈ s →
      Gives doc ⟨s, .map es⟩ (.map es)
  | target {s : List String} {es : Entries} {r : String} {t u : Value} : ref? es = some r → r ∉ s →
      Pointer.lookup doc r = .ok t → (resolution doc ⟨r :: s, t⟩).outcome = .ok u → Gives doc ⟨s, .map es⟩ u
  | merged {s : List String} {es fields : Entries} {r : String} {t own : Value} : ref? es = some r → r ∉ s →
      Pointer.lookup doc r = .ok t → (resolution doc ⟨r :: s, t⟩).outcome = .ok (.map fields) →
      (resolution doc ⟨s, .map (Entries.erase es refKey)⟩).outcome = .ok own →
      Gives doc ⟨s, .map es⟩ (.map (Entries.update fields (own.entries?.getD [])))
  | other {s : List String} {v : Value} : refsIn v = [] → Gives doc ⟨s, v⟩ v

theorem each_eq_ok {α β : Type} {f : α → Traced β} {xs : List α} {ys : List β}
    (h : (Traced.each f xs).outcome = .ok ys) : List.Forall₂ (fun x y => (f x).outcome = .ok y) xs ys := by
  induction xs generalizing ys with
  | nil =>
    cases h
    exact .nil
  | cons x xs ih =>
    obtain ⟨y, hy, h⟩ := Traced.bind_eq_ok.1 h
    obtain ⟨zs, hzs, h⟩ := Traced.bind_eq_ok.1 h
    cases h
    exact .cons hy (ih hzs)

theorem gives_of_outcome {doc : Value} {c : Call} {w : Value} (hc : Within doc c)
    (h : (resolution doc c).outcome = .ok w) : Gives doc c w := by
  rw [resolution_eq_body hc] at h
  obtain ⟨s, v⟩ := c
  cases v with
  | list xs =>
    obtain ⟨ys, hys, h⟩ := Traced.bind_eq_ok.1 h
    cases h
    exact .list (each_eq_ok hys)
  | map es =>
    simp only [body] at h
    cases href : ref? es with
    | none =>
      rw [href] at h
      obtain ⟨fs, hfs, h⟩ := Traced.bind_eq_ok.1 h
      cases h
      refine .map href ((each_eq_ok hfs).imp fun e f hef => ?_)
      obtain ⟨y, hy, hf⟩ := Traced.bind_eq_ok.1 hef
      cases hf
      exact ⟨rfl, hy⟩
    | some r =>
      simp only [href] at h
      split at h
      · rename_i hr
        obtain ⟨_, -, h⟩ := Traced.bind_eq_ok.1 h
        cases h
        exact .circular href (by simpa using hr)
      · rename_i hr
        have hnew : r ∉ s := by simpa using hr
        obtain ⟨t, hlookup, h⟩ := Traced.bind_eq_ok.1 h
        obtain ⟨u, hu, h⟩ := Traced.bind_eq_ok.1 h
        split at h
        · split at h
          · cases h
            exact .target href hnew hlookup hu
          · obtain ⟨own, hown, h⟩ := Traced.bind_eq_ok.1 h
            cases h
            exact .merged href hnew hlookup hu hown
        · cases h
          exact .target href hnew hlookup hu
  | _ =>
    cases h
    exact .other rfl

theorem exists_of_forall₂ {α β : Type} {p : α → β → Prop} {xs : List α} {ys : List β}
    (h : List.Forall₂ p xs ys) {y : β} (hy : y ∈ ys) : ∃ x ∈ xs, p x y := by
  induction h with
  | nil => cases hy
  | cons hxy _ ih =>
    rcases List.mem_cons.1 hy with rfl | hy
    · exact ⟨_, List.mem_cons_self, hxy⟩
    · obtain ⟨x, hx, hp⟩ := ih hy
      exact ⟨x, List.mem_cons_of_mem _ hx, hp⟩

/-- A map without the key of a reference gives one without it. -/
theorem Gives.of_get?_eq_none {doc : Value} {s : List String} {es : Entries} {w : Value}
    (h : Gives doc ⟨s, .map es⟩ w) (hnone : Entries.get? es refKey = none) :
    ∃ fs, w = .map fs ∧ Entries.get? fs refKey = none := by
  have hno : ref? es = none := ref?_eq_none_of_get? hnone
  cases h with
  | map href hall =>
    refine ⟨_, rfl, Entries.get?_eq_none.2 fun f hf => ?_⟩
    obtain ⟨e, he, hkey, -⟩ := exists_of_forall₂ hall hf
    rw [hkey]
    exact Entries.get?_eq_none.1 hnone e he
  | other _ => exact ⟨es, rfl, hnone⟩
  | circular href | target href | merged href =>
    rw [hno] at href
    cases href

/-- What is left over in the outcome of a call is on a cycle or beside one. -/
theorem left_of_call {doc : Value} (htexts : Texts doc) {c : Call} (hc : Reached doc c) {w : Value}
    (h : (resolution doc c).outcome = .ok w) : ∀ q ∈ refsIn w, OnCycle doc q ∨ BesideCycle doc q := by
  induction c using (wellFounded_nested doc).induction generalizing w with
  | _ c ih =>
    have hnext : ∀ {d : Call} {u : Value}, Nested doc c d → (resolution doc d).outcome = .ok u →
        ∀ q ∈ refsIn u, OnCycle doc q ∨ BesideCycle doc q := fun hcall hu =>
      ih _ ⟨hc.within, hcall⟩ (hc.tail hcall) hu
    intro q hq
    cases gives_of_outcome hc.within h with
    | list hall =>
      obtain ⟨y, hy, hq⟩ := mem_refsIn_list.1 hq
      obtain ⟨x, hx, hxy⟩ := exists_of_forall₂ hall hy
      exact hnext (.item hx) hxy q hq
    | @map s es fs href hall =>
      rcases mem_refsIn_map.1 hq with hself | ⟨f, hf, hq⟩
      · have hkey : Entries.get? es refKey = none := get?_eq_none_of_ref? (fun x hx =>
          htexts es x (hc.fromDocument es .self (by simp [hx])) hx) href
        obtain ⟨gs, heq, hnone⟩ := Gives.of_get?_eq_none (.map href hall) hkey
        cases heq
        rw [ref?_eq_none_of_get? hnone] at hself
        cases hself
      · obtain ⟨e, he, -, hef⟩ := exists_of_forall₂ hall hf
        exact hnext (.field href he) hef q hq
    | @circular s es r href hr =>
      have hcycle : OnCycle doc r := hc.straight.onCycle (mem_refsIn_map.2 (Or.inl href)) hr
      rcases mem_refsIn_map.1 hq with hself | ⟨e, he, hq⟩
      · rw [href] at hself
        cases hself
        exact Or.inl hcycle
      · have hes := hc.fromDocument es .self (by simp [ref?_eq_some.1 href])
        exact Or.inr ⟨es, r, hes, href, hcycle, e, he, hq⟩
    | target href hnew hlookup hu => exact hnext (.target href hnew hlookup) hu q hq
    | @merged s es fields r t own href hnew hlookup hu hown =>
      have hgives := gives_of_outcome (hc.within.nested (.siblings href hnew)) hown
      obtain ⟨fs, rfl, hnone⟩ := hgives.of_get?_eq_none (Entries.get?_erase es refKey)
      rcases mem_refsIn_update hnone hq with hq | hq
      · exact hnext (.target href hnew hlookup) hu q hq
      · exact hnext (.siblings href hnew) hown q hq
    | other hnone =>
      rw [hnone] at hq
      cases hq

/-- Of a document that is resolved, the references that are left over are on a cycle or stand beside one
that is. One on no cycle is looked up wherever it is met, and what its target gives is put in its place,
with the entries beside it over that. -/
theorem refs_of_resolve {doc out : Value} (htexts : Texts doc) (h : (resolve doc).outcome = .ok out) :
    (∀ r ∈ refsIn out, OnCycle doc r ∨ BesideCycle doc r) ∧
      ∀ c es r w, Reached doc c → c.value = .map es → ref? es = some r → ¬OnCycle doc r →
        (resolution doc c).outcome = .ok w →
        ∃ t u, Pointer.lookup doc r = .ok t ∧ (resolution doc ⟨r :: c.stack, t⟩).outcome = .ok u ∧
          (w = u ∨ ∃ fields own, u = .map fields ∧
            (resolution doc ⟨c.stack, .map (Entries.erase es refKey)⟩).outcome = .ok (.map own) ∧
            w = .map (Entries.update fields own)) := by
  refine ⟨left_of_call htexts .refl h, fun c es r w hc hvalue href hr hw => ?_⟩
  obtain ⟨_, hsame, hself, hnew⟩ := looksUp_of_not_onCycle hc hvalue href hr
  obtain ⟨s, v⟩ := c
  cases hvalue
  cases hsame
  cases gives_of_outcome hc.within hw with
  | map hnone =>
    rw [hnone] at href
    cases href
  | circular hother hstack =>
    rw [href] at hother
    cases hother
    exact absurd hstack hnew
  | target hother _ hlookup hu =>
    rw [href] at hother
    cases hother
    exact ⟨_, w, hlookup, hu, Or.inl rfl⟩
  | merged hother _ hlookup hu hown =>
    rw [href] at hother
    cases hother
    have hgives := gives_of_outcome (hc.within.nested (.siblings href hnew)) hown
    obtain ⟨fs, rfl, -⟩ := hgives.of_get?_eq_none (Entries.get?_erase es refKey)
    exact ⟨_, _, hlookup, hu, Or.inr ⟨_, fs, rfl, hown, rfl⟩⟩
  | other hnone =>
    have hmem := mem_refsIn_map.2 (Or.inl href)
    rw [hnone] at hmem
    cases hmem

/-! ## A document -/

theorem texts_list {xs : List Value} : Texts (.list xs) ↔ ∀ x ∈ xs, Texts x := by
  constructor
  · exact fun h x hx es v hes hget => h es v (.item hx hes) hget
  · rintro h es v (_ | ⟨hx, hes⟩) hget
    exact h _ hx es v hes hget

theorem texts_map {es : Entries} :
    Texts (.map es) ↔ (∀ x, Entries.get? es refKey = some x → ∃ r, x = .text r) ∧ ∀ e ∈ es, Texts e.2 := by
  constructor
  · exact fun h => ⟨fun x hget => h es x .self hget, fun e he fs v hfs hget => h fs v (.field he hfs) hget⟩
  · rintro ⟨hself, hfields⟩ fs v (_ | _ | ⟨hx, hfs⟩) hget
    · exact hself v hget
    · exact hfields _ hx fs v hfs hget

theorem texts_other {v : Value} (hlist : ∀ xs, v ≠ .list xs) (hmap : ∀ es, v ≠ .map es) : Texts v := by
  rintro es x (_ | _ | _)
  · exact absurd rfl (hmap es)
  · exact absurd rfl (hlist _)
  · exact absurd rfl (hmap _)

theorem texts_text (s : String) : Texts (.text s) := texts_other (fun _ => nofun) (fun _ => nofun)

theorem texts_int (n : Int) : Texts (.int n) := texts_other (fun _ => nofun) (fun _ => nofun)

/-- A document with a reference to the map around it, and another beside that. -/
def loopDocument : Value := .map [
  (.text "a", .map [
    (.text "x", .map [
      (.text refKey, .text "#/a"),
      (.text "z", .map [(.text refKey, .text "#/b")])])]),
  (.text "b", .int 1)]

theorem texts_loopDocument : Texts loopDocument := by
  simp [loopDocument, texts_map, texts_text, texts_int, Entries.get?_cons, Entries.get?_nil, Entries.sameKey_text,
    refKey]

theorem refsIn_resolve_loopDocument :
    ∃ out, (resolve loopDocument).outcome = .ok out ∧ refsIn out = ["#/a", "#/b"] := by
  have hrefs : (resolve loopDocument).outcome.toOption.map refsIn = some ["#/a", "#/b"] := by decide +kernel
  cases h : (resolve loopDocument).outcome with
  | error e =>
    rw [h] at hrefs
    cases hrefs
  | ok out =>
    rw [h] at hrefs
    exact ⟨out, rfl, Option.some.inj hrefs⟩

theorem refs_of_resolve_loopDocument : ∃ out, Texts loopDocument ∧ (resolve loopDocument).outcome = .ok out ∧
    refsIn out = ["#/a", "#/b"] ∧ ∀ r ∈ refsIn out, OnCycle loopDocument r ∨ BesideCycle loopDocument r := by
  obtain ⟨out, hout, hrefs⟩ := refsIn_resolve_loopDocument
  exact ⟨out, texts_loopDocument, hout, hrefs, (refs_of_resolve texts_loopDocument hout).1⟩

/-- The reference beside the one on a cycle is left over. It is on none: it leads to a number. -/
theorem loopDocument_leaves_other : Texts loopDocument ∧ ∃ out, (resolve loopDocument).outcome = .ok out ∧
    "#/b" ∈ refsIn out ∧ ¬OnCycle loopDocument "#/b" := by
  obtain ⟨out, hout, hrefs⟩ := refsIn_resolve_loopDocument
  refine ⟨texts_loopDocument, out, hout, by rw [hrefs]; decide, fun hcycle => ?_⟩
  obtain ⟨q, ⟨t, hlookup, hq⟩, -⟩ := Relation.TransGen.head'_iff.1 hcycle
  have hnone : (Pointer.lookup loopDocument "#/b").toOption.map refsIn = some [] := by decide +kernel
  rw [hlookup] at hnone
  rw [Option.some.inj hnone] at hq
  cases hq

end ClientForge.Reference
