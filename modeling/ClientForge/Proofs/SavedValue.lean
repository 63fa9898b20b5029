import ClientForge.Api.Writer
import ClientForge.Proofs.Endpoints
import ClientForge.Proofs.Json.RoundTrip

/-!
Free values in a saved model. What is found there is the JSON image of a value (`Value.image`), and this
is the value itself if it is one that JSON has (`found_of_isPlain`). Checked parts of a saved model are
found as they were written: texts, lists (`list_found`), objects (`object_found`), and the fields of a
record (`needed_found`, `withDefault_found`).
-/

namespace ClientForge

/-- The free value that is found where a JSON value was written. -/
def Json.found (j : Json) : Value := .ofJson j.reread

namespace Value

/-- The JSON image of a free value, as it is found in a saved model. -/
def image (v : Value) : Value := ((toJson? v).map Json.found).getD v

theorem image_eq {v : Value} {j : Json} (h : v.toJson? = some j) : v.image = j.found := by
  simp [image, h]

theorem toJson?_of_written? {v : Value} {j : Json} (h : v.written? = some j) : v.toJson? = some j := by
  unfold written? at h
  split at h
  · exact h
  · cases h

mutual

/-- Is the value one that JSON has: null, a truth value, an integer, a finite number whose text stands
for it, a text, a list of such values, or a map from texts to such values? -/
def isPlain : Value → Bool
  | null | bool _ | int _ | text _ => true
  | float x => x.isFinite && x.reread == x
  | list xs => arePlain xs
  | map es => entriesPlain [] es
  | _ => false
termination_by structural v => v

def arePlain : List Value → Bool
  | [] => true
  | x :: xs => isPlain x && arePlain xs
termination_by structural xs => xs

/-- Are the entries from texts that have not been `met`? -/
def entriesPlain (met : List String) : List (Value × Value) → Bool
  | [] => true
  | (text k, v) :: es => !met.contains k && isPlain v && entriesPlain (k :: met) es
  | _ :: _ => false
termination_by structural es => es

end

end Value

/-! ## What is found -/

theorem Value.ofItems_eq_map (xs : List Json) : ofItems xs = xs.map ofJson := by
  induction xs with
  | nil => rfl
  | cons x xs ih => simp [ofItems, ih]

theorem Value.ofMembers_eq_map (ms : List (String × Json)) :
    ofMembers ms = ms.map fun m => (.text m.1, ofJson m.2) := by
  induction ms with
  | nil => rfl
  | cons m ms ih => simp [ofMembers, ih]

namespace Json

theorem rereadItems_eq_map (xs : List Json) : rereadItems xs = xs.map reread := by
  induction xs with
  | nil => rfl
  | cons x xs ih => simp [rereadItems, ih]

theorem rereadMembers_eq_map (ms : List (String × Json)) :
    rereadMembers ms = ms.map fun m => (m.1, m.2.reread) := by
  induction ms with
  | nil => rfl
  | cons m ms ih => simp [rereadMembers, ih]

theorem found_array (xs : List Json) : found (.array xs) = .list (xs.map found) := by
  simp only [found, reread, Value.ofJson, Value.ofItems_eq_map, rereadItems_eq_map, List.map_map]
  rfl

theorem found_object (ms : List (String × Json)) :
    found (.object ms) = .map ((ofNamed ms).map fun m => (.text m.1, m.2.found)) := by
  simp only [found, reread, Value.ofJson, Value.ofMembers_eq_map, rereadMembers_eq_map]
  rw [ofNamed_map, List.map_map]
  rfl

/-- An object whose names are apart is found with them. -/
theorem found_object_of_nodup {ms : List (String × Json)} (h : (ms.map Prod.fst).Nodup) :
    found (.object ms) = .map (ms.map fun m => (.text m.1, m.2.found)) := by
  rw [found_object, ofNamed_eq_self h]

end Json

/-! ## Plain values -/

namespace Value

mutual

/-- A value that JSON has is found as it was. -/
theorem found_of_isPlain : ∀ v : Value, v.isPlain = true → ∃ j, v.toJson? = some j ∧ j.found = v
  | null, _ => ⟨_, rfl, rfl⟩
  | bool _, _ => ⟨_, rfl, rfl⟩
  | int _, _ => ⟨_, rfl, rfl⟩
  | text _, _ => ⟨_, rfl, rfl⟩
  | float x, h => by
    simp only [isPlain, Bool.and_eq_true, beq_iff_eq] at h
    refine ⟨_, rfl, ?_⟩
    simp [Json.found, Json.reread, ofJson, h.1, h.2]
  | list xs, h => by
    obtain ⟨js, hjs, hfound⟩ := found_of_arePlain xs h
    refine ⟨.array js, by simp [toJson?, hjs], ?_⟩
    rw [Json.found_array, hfound]
  | map es, h => by
    obtain ⟨ms, hms, hnames, -, hfound⟩ := found_of_entriesPlain [] es h
    refine ⟨.object ms, by simp [toJson?, hms], ?_⟩
    rw [Json.found_object_of_nodup hnames, hfound]
  | bytes _, h => by cases h
  | date _, h => by cases h
  | moment _, h => by cases h
  | tuple _, h => by cases h
  | set _, h => by cases h
termination_by structural v => v

theorem found_of_arePlain : ∀ xs : List Value, arePlain xs = true →
    ∃ js, toItems? xs = some js ∧ js.map Json.found = xs
  | [], _ => ⟨[], rfl, rfl⟩
  | x :: xs, h => by
    simp only [arePlain, Bool.and_eq_true] at h
    obtain ⟨j, hj, hx⟩ := found_of_isPlain x h.1
    obtain ⟨js, hjs, hxs⟩ := found_of_arePlain xs h.2
    exact ⟨j :: js, by simp [toItems?, hj, hjs], by simp [hx, hxs]⟩
termination_by structural xs => xs

theorem found_of_entriesPlain (met : List String) : ∀ es : List (Value × Value), entriesPlain met es = true →
    ∃ ms, toMembers? es = some ms ∧ (ms.map Prod.fst).Nodup ∧ (∀ m ∈ ms, m.1 ∉ met) ∧
      ms.map (fun m => (text m.1, m.2.found)) = es
  | [], _ => ⟨[], rfl, List.nodup_nil, by simp, rfl⟩
  | (text k, v) :: es, h => by
    simp only [entriesPlain, Bool.and_eq_true, Bool.not_eq_true', List.contains_eq_mem,
      decide_eq_false_iff_not] at h
    obtain ⟨⟨hk, hv⟩, hes⟩ := h
    obtain ⟨j, hj, hfound⟩ := found_of_isPlain v hv
    obtain ⟨ms, hms, hnodup, hout, hfounds⟩ := found_of_entriesPlain (k :: met) es hes
    have hname : memberName? (text k) = some k := rfl
    refine ⟨(k, j) :: ms, by simp [toMembers?, hname, hj, hms], ?_, ?_, by simp [hfound, hfounds]⟩
    · refine List.nodup_cons.2 ⟨fun hmem => ?_, hnodup⟩
      obtain ⟨m, hm, hmk⟩ := List.mem_map.1 hmem
      exact hout m hm (by rw [hmk]; exact List.mem_cons_self)
    · intro m hm
      rcases List.mem_cons.1 hm with rfl | hm
      · exact hk
      · exact fun hmem => hout m hm (List.mem_cons_of_mem _ hmem)
  | (null, _) :: _, h => by cases h
  | (bool _, _) :: _, h => by cases h
  | (int _, _) :: _, h => by cases h
  | (float _, _) :: _, h => by cases h
  | (bytes _, _) :: _, h => by cases h
  | (date _, _) :: _, h => by cases h
  | (moment _, _) :: _, h => by cases h
  | (list _, _) :: _, h => by cases h
  | (tuple _, _) :: _, h => by cases h
  | (set _, _) :: _, h => by cases h
  | (map _, _) :: _, h => by cases h
termination_by structural es => es

end

theorem image_of_isPlain {v : Value} (h : v.isPlain = true) : v.image = v := by
  obtain ⟨j, hj, hfound⟩ := found_of_isPlain v h
  rw [image_eq hj, hfound]

end Value

/-! ## Checked parts -/

namespace Checked

variable {α β : Type}

theorem all_map_ok (f : α → β) (xs : List α) : all (xs.map fun x => .ok (f x)) = .ok (xs.map f) := by
  induction xs with
  | nil => rfl
  | cons x xs ih =>
    simp only [List.map_cons, all, ih]
    rfl

theorem items_eq {check : Value → Checked β} {g : α → Value} {f : α → β} {xs : List α}
    (h : ∀ x ∈ xs, check (g x) = .ok (f x)) (i : Nat) :
    items check i (xs.map g) = xs.map fun x => .ok (f x) := by
  induction xs generalizing i with
  | nil => rfl
  | cons x xs ih =>
    have hx := h x List.mem_cons_self
    simp only [List.map_cons, items, hx, ih (fun y hy => h y (List.mem_cons_of_mem _ hy))]
    rfl

/-- A list of values that pass is a list that passes. -/
theorem list_map_ok (o : Origin) {check : Value → Checked β} {g : α → Value} {f : α → β} {xs : List α}
    (h : ∀ x ∈ xs, check (g x) = .ok (f x)) : list o check (.list (xs.map g)) = .ok (xs.map f) := by
  simp only [list]
  rw [items_eq h, all_map_ok]

/-- A map from texts to values that pass is an object that passes. -/
theorem object_map_ok (o : Origin) {check : Value → Checked β} {g : α → Value} {f : α → β}
    {ms : List (String × α)} (h : ∀ m ∈ ms, check (g m.2) = .ok (f m.2)) :
    object o check (.map (ms.map fun m => (.text m.1, g m.2))) = .ok (ofNamed (ms.map fun m => (m.1, f m.2))) := by
  have hentries : (ms.map fun m => (Value.text m.1, g m.2)).map (entry check) =
      ms.map fun m => .ok (m.1, f m.2) := by
    rw [List.map_map]
    refine List.map_congr_left fun m hm => ?_
    simp only [Function.comp_apply, entry, h m hm]
    rfl
  simp only [object, hentries]
  rw [all_map_ok]
  rfl

end Checked

/-! ## Lists and objects as they are found -/

section

variable {α β : Type}

theorem mapM_eq_some_iff {f : α → Option β} {xs : List α} {ys : List β} :
    xs.mapM f = some ys ↔ xs.map f = ys.map some := by
  induction xs generalizing ys with
  | nil => cases ys <;> simp
  | cons x xs ih =>
    rw [List.mapM_cons]
    cases ys with
    | nil => cases f x <;> cases xs.mapM f <;> simp
    | cons y ys =>
      rw [List.map_cons, List.map_cons, List.cons.injEq, ← ih]
      cases f x <;> cases xs.mapM f <;> simp

/-- Where all results are there, they are those of the items one by one. -/
theorem mapM_eq_some {f : α → Option β} (d : β) {xs : List α} {ys : List β} (h : xs.mapM f = some ys) :
    ys = xs.map (fun x => (f x).getD d) ∧ ∀ x ∈ xs, ∃ y, f x = some y := by
  have hmap := mapM_eq_some_iff.1 h
  constructor
  · have hys := congrArg (List.map (·.getD d)) hmap
    simpa [Function.comp_def] using hys.symm
  · intro x hx
    have hmem : f x ∈ ys.map some := by
      rw [← hmap]
      exact List.mem_map_of_mem hx
    obtain ⟨y, -, hy⟩ := List.mem_map.1 hmem
    exact ⟨y, hy.symm⟩

variable {write? : α → Option Json} {check : Value → Checked β} {f : α → β} {j : Json}

/-- The items of a written list are found in their order. -/
theorem list_found (o : Origin) {xs : List α} (h : Json.items? write? xs = some j)
    (hx : ∀ x ∈ xs, ∀ jx, write? x = some jx → check jx.found = .ok (f x)) :
    Checked.list o check j.found = .ok (xs.map f) := by
  obtain ⟨js, hjs, rfl⟩ := Option.map_eq_some_iff.1 h
  obtain ⟨rfl, hsome⟩ := mapM_eq_some .null hjs
  rw [Json.found_array, List.map_map]
  refine Checked.list_map_ok o fun x hmem => ?_
  obtain ⟨jx, hjx⟩ := hsome x hmem
  simp only [Function.comp_apply, hjx, Option.getD_some]
  exact hx x hmem jx hjx

/-- The members of a written object are found under their names, each name once. -/
theorem object_found (o : Origin) {ms : List (String × α)} (h : Json.members? write? ms = some j)
    (hm : ∀ m ∈ ms, ∀ jm, write? m.2 = some jm → check jm.found = .ok (f m.2)) :
    Checked.object o check j.found = .ok ((ofNamed ms).map fun m => (m.1, f m.2)) := by
  obtain ⟨js, hjs, rfl⟩ := Option.map_eq_some_iff.1 h
  obtain ⟨rfl, hsome⟩ := mapM_eq_some ("", .null) hjs
  have hmembers : (ms.map fun m => ((write? m.2).map (m.1, ·)).getD ("", .null)) =
      ms.map fun m => (m.1, (write? m.2).getD .null) := by
    refine List.map_congr_left fun m hmem => ?_
    obtain ⟨y, hy⟩ := hsome m hmem
    obtain ⟨jm, hjm, -⟩ := Option.map_eq_some_iff.1 hy
    simp [hjm]
  rw [hmembers, Json.found_object, ofNamed_map (fun a => (write? a).getD .null), List.map_map]
  have hcheck : ∀ m ∈ ofNamed ms, check ((write? m.2).getD .null).found = .ok (f m.2) := by
    intro m hmem
    obtain ⟨y, hy⟩ := hsome m (mem_of_mem_ofNamed hmem)
    obtain ⟨jm, hjm, -⟩ := Option.map_eq_some_iff.1 hy
    rw [hjm]
    exact hm m (mem_of_mem_ofNamed hmem) jm hjm
  have hnames : (((ofNamed ms).map fun m => (m.1, f m.2)).map Prod.fst).Nodup := by
    rw [List.map_map]
    exact nodup_ofNamed ms
  have hobject := Checked.object_map_ok o (g := fun a => ((write? a).getD .null).found) hcheck
  rw [ofNamed_eq_self hnames] at hobject
  exact hobject

/-- What may be missing is found where it is, and is not taken for null. -/
theorem optional_found {x : Option α} (h : Json.orNull write? x = some j)
    (hx : ∀ a ∈ x, ∀ ja, write? a = some ja → ja.found ≠ .null ∧ check ja.found = .ok (f a)) :
    Checked.optional check j.found = .ok (x.map f) := by
  cases x with
  | none =>
    cases h
    rfl
  | some a =>
    obtain ⟨hne, hcheck⟩ := hx a rfl j h
    have hsome : Checked.optional check j.found = (check j.found).map some := by
      unfold Checked.optional
      split
      · rename_i heq
        exact absurd heq hne
      · rfl
    rw [hsome, hcheck]
    rfl

end

theorem text_found (s : String) : Checked.text (Json.text s).found = .ok s := rfl

theorem truth_found (b : Bool) : Checked.truth (Json.bool b).found = .ok b := rfl

theorem optional_text_found (s : Option String) :
    Checked.optional Checked.text (Json.textOrNull s).found = .ok s := by
  cases s <;> rfl

theorem texts_found (o : Origin) (ss : List String) :
    Checked.list o Checked.text (Json.texts ss).found = .ok ss := by
  have h : Checked.list o Checked.text (.list (ss.map Value.text)) = .ok (ss.map id) :=
    Checked.list_map_ok o fun _ _ => rfl
  rw [List.map_id] at h
  rw [Json.texts, Json.found_array, List.map_map]
  exact h

/-! ## Fields as they are found -/

section

variable {α : Type} {check : Value → Checked α} {ms : List (String × Json)} {name : String} {j : Json} {a : α}

theorem get?_found (ms : List (String × Json)) (name : String) :
    Entries.get? (ms.map fun m => (.text m.1, m.2.found)) name = (ms.lookup name).map Json.found := by
  induction ms with
  | nil => rfl
  | cons m ms ih =>
    obtain ⟨n, v⟩ := m
    have hkey : Value.sameKey (.text n) (.text name) = (n == name) := rfl
    unfold Entries.get? Entries.find? at ih ⊢
    rw [List.map_cons, List.find?_cons, List.lookup_cons, hkey]
    by_cases h : n = name
    · have hself : (name == n) = true := by simp [h]
      simp [h]
    · have hself : (n == name) = false := by simpa using h
      have hself' : (name == n) = false := by simpa using Ne.symm h
      rw [hself, hself']
      exact ih

theorem withDefault_found (other : String) (value : α) (hj : ms.lookup name = some j)
    (hcheck : check j.found = .ok a) :
    Checked.withDefault name other value check (ms.map fun m => (.text m.1, m.2.found)) = .ok a := by
  unfold Checked.withDefault Checked.field?
  rw [get?_found, hj]
  simp only [Option.map_some, hcheck]
  rfl

theorem needed_found (other : String) (hj : ms.lookup name = some j) (hcheck : check j.found = .ok a) :
    Checked.needed name other check (ms.map fun m => (.text m.1, m.2.found)) = .ok a := by
  unfold Checked.needed Checked.field?
  rw [get?_found, hj]
  simp only [Option.map_some, hcheck]
  rfl

end

end ClientForge
