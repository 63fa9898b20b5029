import ClientForge.Identifier
import Mathlib.Data.List.Nodup
import Mathlib.Data.List.Perm.Subperm

/-!
Names with numbers. A name that is taken gets the least number from two on that makes it free, and
with so many numbers to try as there are names taken one is always found (`freeNumber_least`). Names
numbered in this way are all different (`nodup_distinct`), and each is one of the names that came in,
perhaps with a number (`mem_distinct`).
-/

namespace ClientForge

/-! ## Numbers -/

theorem isDigit_of_mem_repr {n : Nat} {c : Char} (h : c ∈ (Nat.repr n).toList) : c.isDigit := by
  rw [Nat.toList_repr] at h
  exact Nat.isDigit_of_mem_toDigits (by decide) (by decide) h

theorem repr_toList_ne_nil (n : Nat) : (Nat.repr n).toList ≠ [] := by
  rw [Nat.toList_repr]
  exact Nat.toDigits_ne_nil

theorem repr_toList_inj {m n : Nat} (h : (Nat.repr m).toList = (Nat.repr n).toList) : m = n := by
  rw [Nat.toList_repr, Nat.toList_repr] at h
  rw [← Nat.ofDigitChars_ten_toDigits (n := m), h, Nat.ofDigitChars_ten_toDigits]

theorem numbered_inj {name : List Char} {m n : Nat} (h : numbered name m = numbered name n) : m = n :=
  repr_toList_inj (List.append_cancel_left h)

/-! ## The least free number -/

/-- `k` is the least number from `n` on that makes a name which is not taken. -/
structure IsLeastFree (taken : List Char → Bool) (name : List Char) (n k : Nat) : Prop where
  from_le : n ≤ k
  free : taken (numbered name k) = false
  least : ∀ m, n ≤ m → m < k → taken (numbered name m) = true

/-- If a number within reach is free, the search ends at the least one. -/
theorem freeNumber_least_of_free (taken : List Char → Bool) (name : List Char) {n fuel m : Nat}
    (hnm : n ≤ m) (hm : m ≤ n + fuel) (hfree : taken (numbered name m) = false) :
    IsLeastFree taken name n (freeNumber taken name n fuel) := by
  induction fuel generalizing n with
  | zero =>
    have hmn : m = n := by omega
    subst hmn
    exact ⟨Nat.le_refl _, hfree, fun i h₁ h₂ => by simp only [freeNumber] at h₂; omega⟩
  | succ fuel ih =>
    by_cases ht : taken (numbered name n) = true
    · have hne : n ≠ m := fun h => by rw [h, hfree] at ht; exact Bool.false_ne_true ht
      have hs : freeNumber taken name n (fuel + 1) = freeNumber taken name (n + 1) fuel := by
        simp [freeNumber, ht]
      obtain ⟨hle, hf, hl⟩ := ih (n := n + 1) (by omega) (by omega)
      rw [hs]
      refine ⟨by omega, hf, fun i hi hik => ?_⟩
      by_cases hin : i = n
      · rw [hin]; exact ht
      · exact hl i (by omega) hik
    · have ht' : taken (numbered name n) = false := by simpa using ht
      have hs : freeNumber taken name n (fuel + 1) = n := by simp [freeNumber, ht']
      rw [hs]
      exact ⟨Nat.le_refl _, ht', fun i hi hin => by omega⟩

/-- Of one number more than there are names taken, one is free: the numbered names are all different,
so they cannot all be taken. -/
theorem exists_free (key : List Char → List Char) (taken : List (List Char)) (name : List Char) (n : Nat)
    (hkey : ∀ i j, key (numbered name i) = key (numbered name j) → i = j) :
    ∃ m, n ≤ m ∧ m ≤ n + taken.length ∧ taken.contains (key (numbered name m)) = false := by
  by_contra hall
  have hmem : ∀ i, i ≤ taken.length → key (numbered name (n + i)) ∈ taken := by
    intro i hi
    by_contra hnot
    exact hall ⟨n + i, by omega, by omega, by simpa using hnot⟩
  have hnodup : ((List.range (taken.length + 1)).map fun i => key (numbered name (n + i))).Nodup := by
    refine List.Nodup.map_on (fun i _ j _ h => ?_) List.nodup_range
    have := hkey _ _ h
    omega
  have hsub : ((List.range (taken.length + 1)).map fun i => key (numbered name (n + i))) ⊆ taken := by
    intro s hs
    obtain ⟨i, hi, rfl⟩ := List.mem_map.1 hs
    exact hmem i (by have := List.mem_range.1 hi; omega)
  have hlen := (hnodup.subperm hsub).length_le
  rw [List.length_map, List.length_range] at hlen
  omega

/-- With one try for each name taken the search finds the least free number. -/
theorem freeNumber_least (key : List Char → List Char) (taken : List (List Char)) (name : List Char) (n : Nat)
    (hkey : ∀ i j, key (numbered name i) = key (numbered name j) → i = j) :
    IsLeastFree (fun s => taken.contains (key s)) name n
      (freeNumber (fun s => taken.contains (key s)) name n taken.length) := by
  obtain ⟨m, hnm, hm, hfree⟩ := exists_free key taken name n hkey
  exact freeNumber_least_of_free _ name hnm hm hfree

theorem freeName_eq (taken : List (List Char)) (name : List Char) :
    ∃ k, freeName taken name = numbered name k ∧ IsLeastFree taken.contains name 2 k :=
  ⟨_, rfl, freeNumber_least id taken name 2 fun _ _ h => numbered_inj h⟩

theorem freeName_not_mem (taken : List (List Char)) (name : List Char) : freeName taken name ∉ taken := by
  obtain ⟨k, hk, hleast⟩ := freeName_eq taken name
  rw [hk]
  simpa using hleast.free

/-! ## Different names -/

/-- A new name keeps names apart that keep away from it. -/
theorem nodup_cons_of_apart {name : List Char} {met names : List (List Char)} (hname : name ∉ met)
    (h : names.Nodup ∧ ∀ s ∈ names, s ∉ name :: met) :
    (name :: names).Nodup ∧ ∀ s ∈ name :: names, s ∉ met := by
  obtain ⟨hnodup, hout⟩ := h
  refine ⟨List.nodup_cons.2 ⟨fun hmem => hout _ hmem List.mem_cons_self, hnodup⟩, ?_⟩
  exact List.forall_mem_cons.2 ⟨hname, fun s hs hmet => hout s hs (List.mem_cons_of_mem _ hmet)⟩

/-- The names given are all different, and none of them has been met. What keeps later names from
clashing with a new one is that all names met, and all names to come, count as taken. -/
theorem nodup_distinctFrom {taken met names : List (List Char)} (hmet : met ⊆ taken) (hnames : names ⊆ taken) :
    (distinctFrom taken met names).Nodup ∧ ∀ s ∈ distinctFrom taken met names, s ∉ met := by
  induction names generalizing taken met with
  | nil => simp [distinctFrom]
  | cons name names ih =>
    obtain ⟨hname, hrest⟩ := List.cons_subset.1 hnames
    by_cases hc : name ∈ met
    · have hs : distinctFrom taken met (name :: names) =
          freeName taken name ::
            distinctFrom (freeName taken name :: taken) (freeName taken name :: met) names := by
        simp [distinctFrom, hc]
      rw [hs]
      refine nodup_cons_of_apart (fun h => freeName_not_mem taken name (hmet h)) ?_
      exact ih (List.cons_subset_cons _ hmet) (List.Subset.trans hrest (List.subset_cons_self _ _))
    · have hs : distinctFrom taken met (name :: names) =
          name :: distinctFrom taken (name :: met) names := by
        simp [distinctFrom, hc]
      rw [hs]
      exact nodup_cons_of_apart hc (ih (List.cons_subset.2 ⟨hname, hmet⟩) hrest)

theorem nodup_distinct (names : List (List Char)) : (distinct names).Nodup :=
  (nodup_distinctFrom (List.nil_subset _) (List.Subset.refl _)).1

theorem length_distinctFrom (taken met names : List (List Char)) :
    (distinctFrom taken met names).length = names.length := by
  induction names generalizing taken met with
  | nil => rfl
  | cons name names ih =>
    unfold distinctFrom
    split <;> simp [ih]

theorem length_distinct (names : List (List Char)) : (distinct names).length = names.length :=
  length_distinctFrom names [] names

theorem mem_distinctFrom {taken met names : List (List Char)} {s : List Char}
    (h : s ∈ distinctFrom taken met names) : ∃ name ∈ names, s = name ∨ ∃ k, s = numbered name k := by
  induction names generalizing taken met with
  | nil => simp [distinctFrom] at h
  | cons name names ih =>
    simp only [distinctFrom] at h
    split at h
    · rcases List.mem_cons.1 h with rfl | h
      · obtain ⟨k, hk, -⟩ := freeName_eq taken name
        exact ⟨name, List.mem_cons_self, Or.inr ⟨k, hk⟩⟩
      · obtain ⟨name', hmem, hs⟩ := ih h
        exact ⟨name', List.mem_cons_of_mem _ hmem, hs⟩
    · rcases List.mem_cons.1 h with rfl | h
      · exact ⟨s, List.mem_cons_self, Or.inl rfl⟩
      · obtain ⟨name', hmem, hs⟩ := ih h
        exact ⟨name', List.mem_cons_of_mem _ hmem, hs⟩

/-- Each name given is one of those that came in, perhaps with a number. -/
theorem mem_distinct {names : List (List Char)} {s : List Char} (h : s ∈ distinct names) :
    ∃ name ∈ names, s = name ∨ ∃ k, s = numbered name k := mem_distinctFrom h

end ClientForge
