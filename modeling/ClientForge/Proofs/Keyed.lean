import ClientForge.Keyed
import Mathlib.Data.List.Induction
import Mathlib.Data.List.Nodup

/-!
Lists of items by a key. Of items put one by one the last under each key is left, in the place of the first
(`foldl_putBy`), and where the keys are apart already nothing changes (`foldl_putBy_eq_append`). Values under
names are one kind of them: putting a value keeps the names apart (`nodup_putNamed`), so a list that is put
together value by value has each name once (`nodup_ofNamed`).
-/

namespace ClientForge

variable {α β : Type}

/-! ## Items by a key -/

section Items

variable {κ : Type} {same : α → α → Bool} {key : α → κ}

theorem mem_putBy {x y : α} {xs : List α} (h : y ∈ putBy same x xs) : y = x ∨ y ∈ xs := by
  induction xs with
  | nil => simpa [putBy] using h
  | cons z xs ih =>
    unfold putBy at h
    split at h
    · rcases List.mem_cons.1 h with h | h
      · exact Or.inl h
      · exact Or.inr (List.mem_cons_of_mem z h)
    · rcases List.mem_cons.1 h with h | h
      · exact Or.inr (h ▸ List.mem_cons_self)
      · exact (ih h).imp_right (List.mem_cons_of_mem z)

/-- An item under a new key comes last. -/
theorem putBy_of_new {x : α} {xs : List α} (h : ∀ y ∈ xs, same y x = false) : putBy same x xs = xs ++ [x] := by
  induction xs with
  | nil => rfl
  | cons y xs ih =>
    obtain ⟨hy, hxs⟩ := List.forall_mem_cons.1 h
    rw [putBy, hy, ih hxs]
    rfl

theorem foldl_putBy_eq_append {xs ys : List α} (h : (ys ++ xs).Pairwise fun a b => same a b = false) :
    xs.foldl (fun ys x => putBy same x ys) ys = ys ++ xs := by
  induction xs generalizing ys with
  | nil => simp
  | cons x xs ih =>
    have hnew : ∀ y ∈ ys, same y x = false := fun y hy =>
      (List.pairwise_append.1 h).2.2 y hy x List.mem_cons_self
    rw [List.foldl_cons, putBy_of_new hnew, ih (by simpa using h)]
    simp

/-- The first item of each key, in order. -/
def firstsBy (same : α → α → Bool) : List α → List α
  | [] => []
  | x :: xs => x :: (firstsBy same xs).filter (!same x ·)

/-- The last item with the key of another. -/
def lastBy? (same : α → α → Bool) (x : α) (xs : List α) : Option α := xs.reverse.find? (same x)

theorem mem_of_mem_firstsBy {x : α} {xs : List α} (h : x ∈ firstsBy same xs) : x ∈ xs := by
  induction xs with
  | nil => exact h
  | cons y xs ih =>
    rcases List.mem_cons.1 h with rfl | h
    · exact List.mem_cons_self
    · exact List.mem_cons_of_mem y (ih (List.mem_filter.1 h).1)

theorem pairwise_firstsBy (same : α → α → Bool) (xs : List α) :
    (firstsBy same xs).Pairwise fun a b => same a b = false := by
  induction xs with
  | nil => exact List.Pairwise.nil
  | cons x xs ih =>
    refine List.pairwise_cons.2 ⟨fun y hy => ?_, ih.filter _⟩
    simpa using (List.mem_filter.1 hy).2

theorem firstsBy_concat (xs : List α) (x : α) :
    firstsBy same (xs ++ [x]) = firstsBy same xs ++ if xs.any (same · x) then [] else [x] := by
  induction xs with
  | nil => rfl
  | cons y xs ih =>
    rw [List.cons_append, firstsBy, firstsBy, ih, List.filter_append, List.any_cons, List.cons_append]
    cases hy : same y x <;> cases hany : xs.any (same · x) <;> simp [hy]

theorem lastBy?_concat (xs : List α) (x y : α) :
    lastBy? same y (xs ++ [x]) = if same y x then some x else lastBy? same y xs := by
  simp only [lastBy?, List.reverse_append, List.reverse_singleton, List.singleton_append, List.find?_cons]
  cases same y x <;> rfl

theorem lastBy?_append (xs ys : List α) (x : α) :
    lastBy? same x (xs ++ ys) = (lastBy? same x ys).or (lastBy? same x xs) := by
  rw [lastBy?, List.reverse_append, List.find?_append]
  rfl

theorem of_lastBy? {x y : α} {xs : List α} (h : lastBy? same x xs = some y) : y ∈ xs ∧ same x y = true :=
  ⟨List.mem_reverse.1 (List.mem_of_find?_eq_some h), List.find?_some h⟩

/-- The items stand under keys of their own: two are the same if their keys are. -/
def SameByKey (same : α → α → Bool) (key : α → κ) (xs : List α) : Prop :=
  ∀ x ∈ xs, ∀ y, same x y = true ↔ key x = key y

/-- Every key has a first item. -/
theorem exists_mem_firstsBy {xs : List α} (hkey : SameByKey same key xs) {x : α} (hx : x ∈ xs) :
    ∃ y ∈ firstsBy same xs, key y = key x := by
  induction xs with
  | nil => exact nomatch hx
  | cons z xs ih =>
    obtain ⟨hz, hxs⟩ := List.forall_mem_cons.1 hkey
    by_cases hsame : key z = key x
    · exact ⟨z, List.mem_cons_self, hsame⟩
    · have hmem : x ∈ xs := (List.mem_cons.1 hx).resolve_left fun h => hsame (congrArg key h.symm)
      obtain ⟨y, hy, hyx⟩ := ih hxs hmem
      refine ⟨y, List.mem_cons_of_mem z (List.mem_filter.2 ⟨hy, ?_⟩), hyx⟩
      have hzy : ¬same z y = true := fun h => hsame (((hz y).1 h).trans hyx)
      simpa using hzy

theorem any_firstsBy {xs : List α} (hkey : SameByKey same key xs) (x : α) :
    (firstsBy same xs).any (same · x) = xs.any (same · x) := by
  refine Bool.eq_iff_iff.2 ?_
  rw [List.any_eq_true, List.any_eq_true]
  constructor
  · rintro ⟨y, hy, hyx⟩
    exact ⟨y, mem_of_mem_firstsBy hy, hyx⟩
  · rintro ⟨y, hy, hyx⟩
    obtain ⟨z, hz, hzy⟩ := exists_mem_firstsBy hkey hy
    exact ⟨z, hz, (hkey z (mem_of_mem_firstsBy hz) x).2 (hzy.trans ((hkey y hy x).1 hyx))⟩

/-- Every key has a last item. -/
theorem exists_lastBy? {xs : List α} (hkey : SameByKey same key xs) {x : α} (hx : x ∈ xs) :
    ∃ y ∈ xs, lastBy? same x xs = some y ∧ key x = key y := by
  have hfound : (lastBy? same x xs).isSome = true :=
    List.find?_isSome.2 ⟨x, List.mem_reverse.2 hx, (hkey x hx x).2 rfl⟩
  obtain ⟨y, hy⟩ := Option.isSome_iff_exists.1 hfound
  obtain ⟨hmem, hxy⟩ := of_lastBy? hy
  exact ⟨y, hmem, hy, (hkey x hx y).1 hxy⟩

/-- Put an item into others, each of which has taken the place of one with its key. -/
theorem putBy_filterMap {f : α → Option α} {x : α} {zs : List α} (hkey : SameByKey same key zs)
    (hf : ∀ z ∈ zs, ∃ w, f z = some w ∧ same w x = same z x)
    (hapart : zs.Pairwise fun a b => same a b = false) :
    putBy same x (zs.filterMap f) =
      (zs.filterMap fun z => if same z x then some x else f z) ++ if zs.any (same · x) then [] else [x] := by
  induction zs with
  | nil => rfl
  | cons z zs ih =>
    obtain ⟨⟨w, hw, hwx⟩, hfs⟩ := List.forall_mem_cons.1 hf
    obtain ⟨hz, hzs⟩ := List.forall_mem_cons.1 hkey
    obtain ⟨hnew, hrest⟩ := List.pairwise_cons.1 hapart
    rw [List.filterMap_cons_some hw, putBy, hwx]
    cases hzx : same z x with
    | true =>
      -- No other item has the key.
      have hother : ∀ y ∈ zs, same y x = false := fun y hy => by
        refine Bool.eq_false_iff.2 fun hyx => Bool.eq_false_iff.1 (hnew y hy) ?_
        exact (hz y).2 (((hz x).1 hzx).trans ((hzs y hy x).1 hyx).symm)
      have hsame : (zs.filterMap fun y => if same y x then some x else f y) = zs.filterMap f :=
        List.filterMap_congr fun y hy => by rw [hother y hy]; rfl
      simp [hzx, hsame]
    | false =>
      rw [if_neg Bool.false_ne_true, ih hzs hfs hrest]
      simp [hzx, hw]

/-- Of items put one by one, the last under each key is left, in the place of the first. -/
theorem foldl_putBy {xs : List α} (hkey : SameByKey same key xs) :
    xs.foldl (fun ys x => putBy same x ys) [] = (firstsBy same xs).filterMap fun x => lastBy? same x xs := by
  induction xs using List.reverseRecOn with
  | nil => rfl
  | append_singleton xs x ih =>
    have hxs : SameByKey same key xs := fun y hy => hkey y (List.mem_append_left _ hy)
    have hx : ∀ y, same x y = true ↔ key x = key y := hkey x (List.mem_append_right _ List.mem_cons_self)
    have hfirsts : SameByKey same key (firstsBy same xs) := fun y hy => hxs y (mem_of_mem_firstsBy hy)
    have hlast : ∀ z ∈ firstsBy same xs, ∃ w, lastBy? same z xs = some w ∧ same w x = same z x := by
      intro z hz
      obtain ⟨w, hw, hlast, hzw⟩ := exists_lastBy? hxs (mem_of_mem_firstsBy hz)
      refine ⟨w, hlast, Bool.eq_iff_iff.2 ?_⟩
      rw [hxs w hw, hfirsts z hz, hzw]
    have hself : same x x = true := (hx x).2 rfl
    rw [List.foldl_append, List.foldl_cons, List.foldl_nil, ih hxs,
      putBy_filterMap hfirsts hlast (pairwise_firstsBy same xs), firstsBy_concat, any_firstsBy hxs,
      List.filterMap_append]
    simp only [lastBy?_concat]
    cases xs.any (same · x) <;> simp [hself]

/-- What is left of items put one by one stands under keys that are apart. -/
theorem pairwise_foldl_putBy {xs : List α} (hkey : SameByKey same key xs) :
    (xs.foldl (fun ys x => putBy same x ys) []).Pairwise fun a b => same a b = false := by
  rw [foldl_putBy hkey]
  refine ((pairwise_firstsBy same xs).imp_of_mem fun {a b} ha hb hab => ?_).filterMap _ fun _ _ h => h
  intro v hv w hw
  obtain ⟨hvmem, hav⟩ := of_lastBy? hv
  obtain ⟨-, hbw⟩ := of_lastBy? hw
  have ha := hkey a (mem_of_mem_firstsBy ha)
  have hb := hkey b (mem_of_mem_firstsBy hb)
  refine Bool.eq_false_iff.2 fun hvw => Bool.eq_false_iff.1 hab ((ha b).2 ?_)
  calc key a = key v := (ha v).1 hav
    _ = key w := (hkey v hvmem w).1 hvw
    _ = key b := ((hb w).1 hbw).symm

/-- No key is lost. -/
theorem exists_mem_foldl_putBy {xs : List α} (hkey : SameByKey same key xs) {x : α} (hx : x ∈ xs) :
    ∃ y ∈ xs.foldl (fun ys x => putBy same x ys) [], same x y = true := by
  obtain ⟨z, hz, hzx⟩ := exists_mem_firstsBy hkey hx
  obtain ⟨y, -, hlast, hzy⟩ := exists_lastBy? hkey (mem_of_mem_firstsBy hz)
  refine ⟨y, ?_, (hkey x hx y).2 (hzx.symm.trans hzy)⟩
  rw [foldl_putBy hkey]
  exact List.mem_filterMap.2 ⟨z, hz, hlast⟩

end Items

/-! ## Values under names -/

theorem putNamed_cons_self (name : String) (value v : α) (xs : List (String × α)) :
    putNamed name value ((name, v) :: xs) = (name, value) :: xs := by
  simp [putNamed, putBy]

theorem putNamed_cons_of_ne {name m : String} (h : m ≠ name) (value v : α) (xs : List (String × α)) :
    putNamed name value ((m, v) :: xs) = (m, v) :: putNamed name value xs := by
  simp [putNamed, putBy, h]

theorem mem_names_putNamed {name n : String} {value : α} {xs : List (String × α)} :
    n ∈ (putNamed name value xs).map Prod.fst ↔ n = name ∨ n ∈ xs.map Prod.fst := by
  induction xs with
  | nil => simp [putNamed, putBy]
  | cons x xs ih =>
    obtain ⟨m, v⟩ := x
    by_cases h : m = name
    · subst h
      simp [putNamed_cons_self]
    · rw [putNamed_cons_of_ne h, List.map_cons, List.map_cons, List.mem_cons, List.mem_cons, ih]
      exact or_left_comm

theorem nodup_putNamed {xs : List (String × α)} (h : (xs.map Prod.fst).Nodup) (name : String) (value : α) :
    ((putNamed name value xs).map Prod.fst).Nodup := by
  induction xs with
  | nil => simp [putNamed, putBy]
  | cons x xs ih =>
    obtain ⟨m, v⟩ := x
    obtain ⟨hm, hxs⟩ := List.nodup_cons.1 h
    by_cases hmn : m = name
    · subst hmn
      rw [putNamed_cons_self]
      exact h
    · rw [putNamed_cons_of_ne hmn, List.map_cons]
      refine List.nodup_cons.2 ⟨fun hmem => ?_, ih hxs⟩
      rcases mem_names_putNamed.1 hmem with h' | h'
      · exact hmn h'
      · exact hm h'

/-- The values put one by one after others. -/
theorem nodup_foldl_putNamed (xs : List (String × α)) {ys : List (String × α)} (h : (ys.map Prod.fst).Nodup) :
    ((xs.foldl (fun ys x => putNamed x.1 x.2 ys) ys).map Prod.fst).Nodup := by
  induction xs generalizing ys with
  | nil => exact h
  | cons x xs ih => exact ih (nodup_putNamed h x.1 x.2)

theorem nodup_ofNamed (xs : List (String × α)) : ((ofNamed xs).map Prod.fst).Nodup :=
  nodup_foldl_putNamed xs List.nodup_nil

theorem pairwise_of_nodup_names {xs : List (String × α)} (h : (xs.map Prod.fst).Nodup) :
    xs.Pairwise fun a b => (a.1 == b.1) = false := by
  refine (List.pairwise_map.1 h).imp fun {a b} hne => ?_
  simpa using hne

/-- Where each name comes once already, nothing changes. -/
theorem ofNamed_eq_self {xs : List (String × α)} (h : (xs.map Prod.fst).Nodup) : ofNamed xs = xs :=
  foldl_putBy_eq_append (pairwise_of_nodup_names h)

theorem mem_putNamed {x : String × α} {name : String} {value : α} {xs : List (String × α)}
    (h : x ∈ putNamed name value xs) : x = (name, value) ∨ x ∈ xs :=
  mem_putBy h

theorem mem_foldl_putNamed {x : String × α} {xs ys : List (String × α)}
    (h : x ∈ xs.foldl (fun zs x => putNamed x.1 x.2 zs) ys) : x ∈ xs ∨ x ∈ ys := by
  induction xs generalizing ys with
  | nil => exact Or.inr h
  | cons y xs ih =>
    rcases ih h with h | h
    · exact Or.inl (List.mem_cons_of_mem y h)
    · rcases mem_putNamed h with rfl | h
      · exact Or.inl List.mem_cons_self
      · exact Or.inr h

theorem mem_of_mem_ofNamed {xs : List (String × α)} {x : String × α} (h : x ∈ ofNamed xs) : x ∈ xs :=
  (mem_foldl_putNamed h).resolve_right List.not_mem_nil

/-! ## New values under the same names -/

theorem putNamed_map (f : α → β) (name : String) (value : α) (xs : List (String × α)) :
    putNamed name (f value) (xs.map fun x => (x.1, f x.2)) =
      (putNamed name value xs).map fun x => (x.1, f x.2) := by
  induction xs with
  | nil => rfl
  | cons x xs ih =>
    obtain ⟨m, v⟩ := x
    by_cases h : m = name
    · subst h
      rw [List.map_cons, putNamed_cons_self, putNamed_cons_self, List.map_cons]
    · rw [List.map_cons, putNamed_cons_of_ne h, putNamed_cons_of_ne h, List.map_cons, ih]

theorem foldl_putNamed_map (f : α → β) (xs ys : List (String × α)) :
    (xs.map fun x => (x.1, f x.2)).foldl (fun zs x => putNamed x.1 x.2 zs) (ys.map fun x => (x.1, f x.2)) =
      (xs.foldl (fun zs x => putNamed x.1 x.2 zs) ys).map fun x => (x.1, f x.2) := by
  induction xs generalizing ys with
  | nil => rfl
  | cons x xs ih =>
    have hput : putNamed x.1 (f x.2) (ys.map fun x => (x.1, f x.2)) =
        (putNamed x.1 x.2 ys).map fun x => (x.1, f x.2) := putNamed_map f x.1 x.2 ys
    simp only [List.map_cons, List.foldl_cons]
    rw [hput, ih]

theorem ofNamed_map (f : α → β) (xs : List (String × α)) :
    ofNamed (xs.map fun x => (x.1, f x.2)) = (ofNamed xs).map fun x => (x.1, f x.2) :=
  foldl_putNamed_map f xs []

end ClientForge
