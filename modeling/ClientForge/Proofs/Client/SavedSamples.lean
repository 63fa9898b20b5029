import ClientForge.Proofs.Client.SavedPlan

/-!
Saved samples can be shown. A saved model that fits what the reader takes has no integer of more digits than can be
shown: neither among the values that were saved (`Value.isShort_of_fits`) nor among those that are found
(`Json.isShort_found`). So there is a client both for the API that was saved and for its image
(`Api.showsSamples_of_fits`).
-/

namespace ClientForge

/-! ## Integers -/

theorem natOf_lt {ds : List Char} (h : Json.AllDigits ds) : Json.natOf ds < Nat.pow 10 ds.length := by
  induction ds using List.reverseRecOn with
  | nil => decide
  | append_singleton ds d ih =>
    obtain ⟨hds, hd⟩ := Json.allDigits_append.1 h
    have hdigit : d.toNat ≤ 57 := by
      have hd := hd d (List.mem_singleton_self d)
      simp only [Json.isDigit, Bool.and_eq_true, decide_eq_true_eq] at hd
      exact hd.2
    have hvalue : Json.natOf (ds ++ [d]) = Json.natOf ds * 10 + (d.toNat - 48) := by
      simp [Json.natOf, List.foldl_append]
    have hlt := ih hds
    rw [Nat.pow_eq] at hlt ⊢
    rw [hvalue, List.length_append, List.length_singleton, Nat.pow_succ]
    omega

/-- An integer whose text is no longer than the reader takes can be shown. -/
theorem natAbs_lt_of_length {n : Int} (h : (toString n).toList.length ≤ Json.integerLimit) :
    n.natAbs < Nat.pow 10 Value.displayLimit := by
  have hlength : (Nat.repr n.natAbs).toList.length ≤ Json.integerLimit := by
    rw [← Json.width_repr] at h
    refine Nat.le_trans ?_ h
    unfold Json.width
    split <;> omega
  have hmono : ∀ {a b : Nat}, a ≤ b → Nat.pow 10 a ≤ Nat.pow 10 b := fun h => Nat.pow_le_pow_right (by decide) h
  calc n.natAbs = Json.natOf (Nat.repr n.natAbs).toList := (Json.natOf_repr _).symm
    _ < Nat.pow 10 (Nat.repr n.natAbs).toList.length := natOf_lt (Json.allDigits_repr _)
    _ ≤ Nat.pow 10 Value.displayLimit := hmono hlength

/-! ## Values -/

namespace Json

/-- Does the JSON fit what the reader takes, at some depth? -/
def FitsSomewhere (j : Json) : Prop := ∃ levels, j.fits levels = true

theorem FitsSomewhere.item {xs : List Json} (h : (array xs).FitsSomewhere) : ∀ x ∈ xs, x.FitsSomewhere := by
  obtain ⟨levels, h⟩ := h
  have hall : ∀ xs : List Json, itemsFit (levels - 1) xs = true → ∀ x ∈ xs, x.FitsSomewhere := by
    intro xs h x hx
    induction xs with
    | nil => cases hx
    | cons y xs ih =>
      obtain ⟨hy, hxs⟩ := Bool.and_eq_true_iff.1 h
      rcases List.mem_cons.1 hx with rfl | hx
      · exact ⟨_, hy⟩
      · exact ih hxs hx
  cases xs with
  | nil => exact nofun
  | cons x xs => exact hall _ (Bool.and_eq_true_iff.1 h).2

theorem FitsSomewhere.member {ms : List (String × Json)} (h : (object ms).FitsSomewhere) :
    ∀ m ∈ ms, m.2.FitsSomewhere := by
  obtain ⟨levels, h⟩ := h
  have hall : ∀ ms : List (String × Json), membersFit (levels - 1) ms = true → ∀ m ∈ ms, m.2.FitsSomewhere := by
    intro ms h m hm
    induction ms with
    | nil => cases hm
    | cons n ms ih =>
      obtain ⟨hn, hms⟩ := Bool.and_eq_true_iff.1 h
      rcases List.mem_cons.1 hm with rfl | hm
      · exact ⟨_, hn⟩
      · exact ih hms hm
  cases ms with
  | nil => exact nofun
  | cons m ms => exact hall _ (Bool.and_eq_true_iff.1 h).2

end Json

namespace Value

theorem areShort_iff {xs : List Value} : areShort xs = true ↔ ∀ x ∈ xs, x.isShort = true := by
  induction xs with
  | nil => simp [areShort]
  | cons x xs ih => simp [areShort, ih]

theorem entriesShort_iff {es : List (Value × Value)} :
    entriesShort es = true ↔ ∀ e ∈ es, e.1.isShort = true ∧ e.2.isShort = true := by
  induction es with
  | nil => simp [entriesShort]
  | cons e es ih => simp [entriesShort, ih]

end Value

/-- What is found where JSON fits can be shown. -/
theorem Json.isShort_found : ∀ j : Json, j.FitsSomewhere → j.found.isShort = true
  | .null, _ | .bool _, _ | .text _, _ => rfl
  | .float x, _ => by
    simp only [found, reread]
    split <;> rfl
  | .int n, h => by
    obtain ⟨levels, h⟩ := h
    have hfound : (int n).found = .int n := rfl
    rw [hfound, Value.isShort]
    exact decide_eq_true (natAbs_lt_of_length (of_decide_eq_true h))
  | .array xs, h => by
    rw [found_array]
    refine Value.areShort_iff.2 fun v hv => ?_
    obtain ⟨x, hx, rfl⟩ := List.mem_map.1 hv
    exact isShort_found x (h.item x hx)
  | .object ms, h => by
    rw [found_object]
    refine Value.entriesShort_iff.2 fun e he => ?_
    obtain ⟨⟨k, x⟩, hm, rfl⟩ := List.mem_map.1 he
    have hmem := mem_of_mem_ofNamed hm
    exact ⟨rfl, isShort_found x (h.member (k, x) hmem)⟩
termination_by j => sizeOf j
decreasing_by
  · have hlt := List.sizeOf_lt_of_mem hx
    simp only [array.sizeOf_spec]
    omega
  · have hlt := List.sizeOf_lt_of_mem hmem
    simp only [object.sizeOf_spec, Prod.mk.sizeOf_spec] at hlt ⊢
    omega

namespace Value

theorem isShort_of_memberName? {k : Value} {name : String} (h : memberName? k = some name) : k.isShort = true := by
  cases k with
  | null | bool | float | text | bytes | date | moment | again => rfl
  | int | list | tuple | set | map =>
    by_contra hlong
    simp only [memberName?, if_neg hlong] at h
    cases h

mutual

/-- A value whose JSON fits can be shown. -/
theorem isShort_of_fits : ∀ (v : Value) {j : Json}, v.toJson? = some j → j.FitsSomewhere → v.isShort = true
  | null, _, _, _ | bool _, _, _, _ | float _, _, _, _ | text _, _, _, _ | bytes _, _, _, _ | date _, _, _, _
  | moment _, _, _, _ | again, _, _, _ => rfl
  | int n, _, h, hfits => by
    have hshort := Json.isShort_found _ hfits
    rwa [← image_eq h] at hshort
  | list xs, _, h, hfits | tuple xs, _, h, hfits | set xs, _, h, hfits => by
    obtain ⟨js, hjs, rfl⟩ := Option.map_eq_some_iff.1 h
    exact areShort_of_fits xs hjs hfits.item
  | map es, _, h, hfits => by
    obtain ⟨ms, hms, rfl⟩ := Option.map_eq_some_iff.1 h
    exact entriesShort_of_fits es hms hfits.member
termination_by structural v => v

theorem areShort_of_fits : ∀ (xs : List Value) {js : List Json}, toItems? xs = some js →
    (∀ j ∈ js, j.FitsSomewhere) → areShort xs = true
  | [], _, _, _ => rfl
  | x :: xs, _, h, hfits => by
    obtain ⟨j, hj, h⟩ := Option.bind_eq_some_iff.1 h
    obtain ⟨js, hjs, h⟩ := Option.bind_eq_some_iff.1 h
    cases h
    obtain ⟨hhead, htail⟩ := List.forall_mem_cons.1 hfits
    exact Bool.and_eq_true_iff.2 ⟨isShort_of_fits x hj hhead, areShort_of_fits xs hjs htail⟩
termination_by structural xs => xs

theorem entriesShort_of_fits : ∀ (es : List (Value × Value)) {ms : List (String × Json)},
    toMembers? es = some ms → (∀ m ∈ ms, m.2.FitsSomewhere) → entriesShort es = true
  | [], _, _, _ => rfl
  | (k, v) :: es, _, h, hfits => by
    obtain ⟨name, hname, h⟩ := Option.bind_eq_some_iff.1 h
    obtain ⟨j, hj, h⟩ := Option.bind_eq_some_iff.1 h
    obtain ⟨ms, hms, h⟩ := Option.bind_eq_some_iff.1 h
    cases h
    obtain ⟨hhead, htail⟩ := List.forall_mem_cons.1 hfits
    simp only [entriesShort, isShort_of_memberName? hname, isShort_of_fits v hj hhead,
      entriesShort_of_fits es hms htail, Bool.and_self]
termination_by structural es => es

end

/-- A value whose JSON fits can be shown, and so can what is found in its place. -/
theorem isShort_of_written {v : Value} {j : Json} (h : v.written? = some j) (hfits : j.FitsSomewhere) :
    v.isShort = true ∧ v.image.isShort = true := by
  have hj := toJson?_of_written? h
  rw [image_eq hj]
  exact ⟨isShort_of_fits v hj hfits, Json.isShort_found j hfits⟩

end Value

/-! ## Models -/

/-- The items of a list that was written have JSON that fits, if that of the list does. -/
theorem Json.exists_of_items? {α : Type} {f : α → Option Json} {xs : List α} {j : Json} (h : items? f xs = some j)
    (hfits : j.FitsSomewhere) : ∀ x ∈ xs, ∃ k, f x = some k ∧ k.FitsSomewhere := by
  obtain ⟨js, hjs, rfl⟩ := Option.map_eq_some_iff.1 h
  obtain ⟨rfl, hsome⟩ := mapM_eq_some .null hjs
  intro x hx
  obtain ⟨k, hk⟩ := hsome x hx
  refine ⟨k, hk, ?_⟩
  have hitem := hfits.item _ (List.mem_map_of_mem hx)
  rwa [hk] at hitem

/-- The sample of a parameter can be shown if its example and its choices can. -/
theorem Param.showsSample_of_short {p : Param} (h : ∀ v ∈ p.freeValues, v.isShort = true) : p.ShowsSample := by
  intro v hv
  have hfirst : ∀ w ∈ (p.choices.getD []).take 1, w ∈ p.freeValues := fun w hw =>
    List.mem_cons_of_mem _ (List.mem_of_mem_take hw)
  refine h v ?_
  simp only [asked] at hv
  split at hv
  · rcases List.mem_cons.1 hv with rfl | hv
    · exact List.mem_cons_self
    · split at hv
      · exact hfirst v hv
      · cases hv
  · exact hfirst v hv

/-- The sample of a parameter whose JSON fits can be shown, before it is saved and after. -/
theorem Param.showsSample_of_fits {p : Param} {j : Json} (h : p.toJson? = some j) (hfits : j.FitsSomewhere) :
    p.ShowsSample ∧ p.image.ShowsSample := by
  obtain ⟨sample, hsample, h⟩ := Option.bind_eq_some_iff.1 h
  obtain ⟨choices, hchoices, h⟩ := Option.bind_eq_some_iff.1 h
  cases h
  obtain ⟨hown, hownImage⟩ := Value.isShort_of_written hsample (hfits.member ("example", sample) (by simp))
  have hchoice : ∀ v ∈ p.choices.getD [], v.isShort = true ∧ v.image.isShort = true := by
    have hlist := hfits.member ("enum", choices) (by simp)
    cases hp : p.choices with
    | none => exact nofun
    | some vs =>
      rw [hp] at hchoices
      intro v hv
      obtain ⟨k, hk, hkfits⟩ := Json.exists_of_items? hchoices hlist v hv
      exact Value.isShort_of_written hk hkfits
  have himage : p.image.choices.getD [] = (p.choices.getD []).map Value.image := by
    show (p.choices.map (·.map Value.image)).getD [] = _
    cases p.choices <;> rfl
  constructor
  · exact showsSample_of_short (List.forall_mem_cons.2 ⟨hown, fun v hv => (hchoice v hv).1⟩)
  · refine showsSample_of_short (List.forall_mem_cons.2 ⟨hownImage, ?_⟩)
    rw [himage, List.forall_mem_map]
    exact fun v hv => (hchoice v hv).2

/-- All samples of an API whose JSON fits can be shown, before it is saved and after. -/
theorem Api.showsSamples_of_fits {a : Api} {j : Json} (h : a.toJson? = some j) (hfits : j.fits savedLevels = true) :
    a.ShowsSamples ∧ a.image.ShowsSamples := by
  obtain ⟨endpoints, hendpoints, h⟩ := Option.bind_eq_some_iff.1 h
  cases h
  have hlist : endpoints.FitsSomewhere :=
    Json.FitsSomewhere.member ⟨_, hfits⟩ ("endpoints", endpoints) (by simp)
  have hparams : ∀ e ∈ a.endpoints, ∀ p ∈ e.parameters, p.ShowsSample ∧ p.image.ShowsSample := by
    intro e he p hp
    obtain ⟨k, hk, hkfits⟩ := Json.exists_of_items? hendpoints hlist e he
    obtain ⟨params, hparams, hk⟩ := Option.bind_eq_some_iff.1 hk
    obtain ⟨body, -, hk⟩ := Option.bind_eq_some_iff.1 hk
    obtain ⟨responses, -, hk⟩ := Option.bind_eq_some_iff.1 hk
    obtain ⟨security, -, hk⟩ := Option.bind_eq_some_iff.1 hk
    cases hk
    obtain ⟨jp, hjp, hpfits⟩ :=
      Json.exists_of_items? hparams (hkfits.member ("parameters", params) (by simp)) p hp
    exact Param.showsSample_of_fits hjp hpfits
  have hplain : ∀ l, a.ShowsSamplesIn l := fun l e he p hp => (hparams e he p (List.mem_filter.1 hp).1).1
  have himage : ∀ l, a.image.ShowsSamplesIn l := by
    intro l e' he'
    obtain ⟨e, he, rfl⟩ := List.mem_map.1 he'
    unfold Endpoint.ShowsSamplesIn
    rw [Endpoint.paramsIn_image, List.forall_mem_map]
    exact fun p hp => (hparams e he p (List.mem_filter.1 hp).1).2
  exact ⟨⟨hplain .path, hplain .query⟩, himage .path, himage .query⟩

end ClientForge
