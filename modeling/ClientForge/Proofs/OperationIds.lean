import ClientForge.Proofs.Documents
import Mathlib.Order.Bounds.Basic

/-!
Operation ids made different. Of endpoints with one id the first keeps it, and each later one gets the
least number from two on that makes the id none of those that came in and none given before
(`renamed_operationIds`). The numbers are tried one after another (`SearchEnds`), and since only finitely
many names are taken, the search comes to an end. Ids that are all different stay as they are, so
renaming twice is renaming once.
-/

namespace ClientForge

/-! ## Trying one number after another -/

/-- Trying the numbers from `n` on ends at `k`, the first that is free. -/
inductive SearchEnds (free : Nat → Prop) : Nat → Nat → Prop
  | here {n : Nat} (h : free n) : SearchEnds free n n
  | next {n k : Nat} (h : ¬free n) (more : SearchEnds free (n + 1) k) : SearchEnds free n k

/-- A search that ends does so at the least free number. -/
theorem SearchEnds.isLeast {free : Nat → Prop} {n k : Nat} (h : SearchEnds free n k) :
    IsLeast {m | n ≤ m ∧ free m} k := by
  induction h with
  | here hfree => exact ⟨⟨Nat.le_refl _, hfree⟩, fun m hm => hm.1⟩
  | @next n k htaken _ ih =>
    obtain ⟨⟨hle, hfree⟩, hleast⟩ := ih
    refine ⟨⟨by omega, hfree⟩, fun m hm => ?_⟩
    obtain ⟨hnm, hm⟩ := hm
    have hne : n ≠ m := by
      rintro rfl
      exact htaken hm
    exact hleast ⟨by omega, hm⟩

/-- If some number is free, the search ends: it cannot go past that number. -/
theorem searchEnds_of_free {free : Nat → Prop} {n m : Nat} (hnm : n ≤ m) (hfree : free m) :
    ∃ k, SearchEnds free n k := by
  induction hd : m - n generalizing n with
  | zero =>
    have heq : m = n := by omega
    exact ⟨n, .here (heq ▸ hfree)⟩
  | succ d ih =>
    by_cases hn : free n
    · exact ⟨n, .here hn⟩
    · obtain ⟨k, hk⟩ := ih (n := n + 1) (by omega) (by omega)
      exact ⟨k, .next hn hk⟩

theorem searchEnds_of_isLeast {free : Nat → Prop} {n k : Nat} (h : IsLeast {m | n ≤ m ∧ free m} k) :
    SearchEnds free n k := by
  obtain ⟨j, hj⟩ := searchEnds_of_free h.1.1 h.1.2
  have hjk : j = k := hj.isLeast.unique h
  exact hjk ▸ hj

/-! ## Names -/

/-- Is the name with the number neither taken nor one of `given`? -/
def FreeBeside (taken given : List (List Char)) (name : List Char) (n : Nat) : Prop :=
  numbered name n ∉ taken ∧ numbered name n ∉ given

/-- What a name is given at its place: itself if it has not been met, else its least free number. -/
structure GivenAt (taken before : List (List Char)) (met : Prop) (name given : List Char) : Prop where
  first : ¬met → given = name
  later : met → ∃ n, given = numbered name n ∧ IsLeast {m | 2 ≤ m ∧ FreeBeside taken before name m} n

theorem isLeast_of_isLeastFree {taken : List (List Char)} {name : List Char} {n k : Nat}
    (h : IsLeastFree taken.contains name n k) : IsLeast {m | n ≤ m ∧ FreeBeside taken [] name m} k := by
  refine ⟨⟨h.from_le, by simpa using h.free, List.not_mem_nil⟩, fun m hm => ?_⟩
  obtain ⟨hnm, hfree, -⟩ := hm
  by_contra hlt
  have htaken := h.least m hnm (by omega)
  exact hfree (by simpa using htaken)

/-- The name that is given first counts as taken for those after it. -/
theorem freeBeside_cons {taken given : List (List Char)} {new name : List Char} {n : Nat} :
    FreeBeside (new :: taken) given name n ↔ FreeBeside taken (new :: given) name n := by
  simp only [FreeBeside, List.mem_cons, not_or]
  tauto

/-- A name that is taken already adds nothing. -/
theorem freeBeside_cons_of_mem {taken given : List (List Char)} {new name : List Char} {n : Nat}
    (h : new ∈ taken) : FreeBeside taken given name n ↔ FreeBeside taken (new :: given) name n := by
  have hne : numbered name n ∉ taken → numbered name n ≠ new := by
    rintro hfree rfl
    exact hfree h
  simp only [FreeBeside, List.mem_cons, not_or]
  tauto

theorem GivenAt.congr {taken taken' before before' : List (List Char)} {met met' : Prop}
    {name given : List Char} (h : GivenAt taken before met name given) (hmet : met ↔ met')
    (hfree : ∀ n, FreeBeside taken before name n ↔ FreeBeside taken' before' name n) :
    GivenAt taken' before' met' name given := by
  refine ⟨fun hnew => h.first fun hold => hnew (hmet.1 hold), fun hnew => ?_⟩
  obtain ⟨n, hgiven, hleast⟩ := h.later (hmet.2 hnew)
  refine ⟨n, hgiven, ?_⟩
  simpa only [hfree] using hleast

theorem distinctFrom_of_mem {taken met names : List (List Char)} {name : List Char} (h : name ∈ met) :
    distinctFrom taken met (name :: names) = freeName taken name ::
      distinctFrom (freeName taken name :: taken) (freeName taken name :: met) names := by
  simp [distinctFrom, h]

theorem distinctFrom_of_not_mem {taken met names : List (List Char)} {name : List Char} (h : name ∉ met) :
    distinctFrom taken met (name :: names) = name :: distinctFrom taken (name :: met) names := by
  simp [distinctFrom, h]

/-- At each place a name is given as it should be. Names that came in are taken from the start, so a
numbered name is never one of those, and having been met is a matter of the names that came in. -/
theorem givenAt_distinctFrom {taken met names : List (List Char)} (hmet : met ⊆ taken)
    (hnames : names ⊆ taken) {i : Nat} {name : List Char} (hi : names[i]? = some name) :
    ∃ given, (distinctFrom taken met names)[i]? = some given ∧
      GivenAt taken ((distinctFrom taken met names).take i) (name ∈ met ∨ name ∈ names.take i) name given := by
  induction names generalizing taken met i with
  | nil => cases hi
  | cons first names ih =>
    obtain ⟨hfirst, hrest⟩ := List.cons_subset.1 hnames
    by_cases hc : first ∈ met
    · rw [distinctFrom_of_mem hc]
      cases i with
      | zero =>
        obtain rfl := Option.some.inj hi
        obtain ⟨k, hk, hleast⟩ := freeName_eq taken first
        refine ⟨_, rfl, fun hnew => absurd (Or.inl hc) hnew, fun _ => ⟨k, hk, ?_⟩⟩
        exact isLeast_of_isLeastFree hleast
      | succ i =>
        have hname : name ∈ taken := hrest (List.mem_of_getElem? hi)
        have hne : name ≠ freeName taken first := by
          rintro rfl
          exact freeName_not_mem taken first hname
        obtain ⟨given, hgiven, hat⟩ := ih (List.cons_subset_cons _ hmet)
          (List.Subset.trans hrest (List.subset_cons_self _ _)) hi
        refine ⟨given, hgiven, hat.congr ?_ fun n => ?_⟩
        · have hold : name = first → name ∈ met := fun h => h ▸ hc
          simp only [List.take_succ_cons, List.mem_cons, hne, false_or]
          tauto
        · rw [List.take_succ_cons]
          exact freeBeside_cons
    · rw [distinctFrom_of_not_mem hc]
      cases i with
      | zero =>
        obtain rfl := Option.some.inj hi
        refine ⟨first, rfl, fun _ => rfl, fun hold => ?_⟩
        rcases hold with hold | hold
        · exact absurd hold hc
        · cases hold
      | succ i =>
        obtain ⟨given, hgiven, hat⟩ := ih (List.cons_subset.2 ⟨hfirst, hmet⟩) hrest hi
        refine ⟨given, hgiven, hat.congr ?_ fun n => ?_⟩
        · simp only [List.take_succ_cons, List.mem_cons]
          tauto
        · rw [List.take_succ_cons]
          exact freeBeside_cons_of_mem hfirst

/-- Names that are all different stay as they are. -/
theorem distinctFrom_eq_self {taken met names : List (List Char)} (hnodup : names.Nodup)
    (hapart : ∀ s ∈ names, s ∉ met) : distinctFrom taken met names = names := by
  induction names generalizing met with
  | nil => rfl
  | cons name names ih =>
    obtain ⟨hname, hnodup⟩ := List.nodup_cons.1 hnodup
    obtain ⟨hnew, hapart⟩ := List.forall_mem_cons.1 hapart
    rw [distinctFrom_of_not_mem hnew, ih hnodup fun s hs hmet => ?_]
    rcases List.mem_cons.1 hmet with rfl | hmet
    · exact hname hs
    · exact hapart s hs hmet

/-! ## Endpoints -/

namespace Endpoint

/-- The operation ids of some endpoints. -/
def ids (es : List Endpoint) : List String := es.map (·.operationId)

theorem map_toList_ids (es : List Endpoint) : (ids es).map String.toList = es.map (·.operationId.toList) := by
  rw [ids, List.map_map]
  rfl

theorem ofList_numbered (id : String) (n : Nat) : String.ofList (numbered id.toList n) = id ++ toString n := by
  rw [numbered, String.ofList_append, String.ofList_toList, String.ofList_toList]
  rfl

theorem numbered_mem_iff {id : String} {n : Nat} {es : List Endpoint} :
    numbered id.toList n ∈ es.map (·.operationId.toList) ↔ id ++ toString n ∈ ids es := by
  rw [← map_toList_ids, ← ofList_numbered]
  constructor
  · intro h
    obtain ⟨s, hs, heq⟩ := List.mem_map.1 h
    rwa [← heq, String.ofList_toList]
  · intro h
    exact List.mem_map.2 ⟨_, h, String.toList_ofList⟩

theorem toList_mem_iff {id : String} {es : List Endpoint} :
    id.toList ∈ es.map (·.operationId.toList) ↔ id ∈ ids es := by
  rw [← map_toList_ids]
  exact List.mem_map_of_injective fun _ _ h => String.toList_inj.1 h

/-- Is the id with the number none of the ids of `es`, and none of those of `given`? -/
def FreeIn (es given : List Endpoint) (id : String) (n : Nat) : Prop :=
  id ++ toString n ∉ ids es ∧ id ++ toString n ∉ ids given

/-- What becomes of the endpoint `e` at place `i` of `es`, if renaming gives `ds`. Only its id can change.
The first endpoint with an id keeps it; for a later one the search for a number ends, at the least that is
free. -/
structure RenamedAt (es ds : List Endpoint) (i : Nat) (e d : Endpoint) : Prop where
  same : d = { e with operationId := d.operationId }
  first : e.operationId ∉ ids (es.take i) → d.operationId = e.operationId
  later : e.operationId ∈ ids (es.take i) → ∃ n, d.operationId = e.operationId ++ toString n ∧
    SearchEnds (FreeIn es (ds.take i) e.operationId) 2 n ∧
    IsLeast {m | 2 ≤ m ∧ FreeIn es (ds.take i) e.operationId m} n

theorem getElem?_withDistinctIds {es : List Endpoint} {i : Nat} {e : Endpoint} {id : List Char}
    (he : es[i]? = some e) (hid : (distinct (es.map (·.operationId.toList)))[i]? = some id) :
    (withDistinctIds es)[i]? = some { e with operationId := .ofList id } :=
  List.getElem?_zipWith_eq_some.2 ⟨e, id, he, hid, rfl⟩

theorem freeBeside_iff {es ds : List Endpoint} {id : String} {n : Nat} :
    FreeBeside (es.map (·.operationId.toList)) (ds.map (·.operationId.toList)) id.toList n ↔
      FreeIn es ds id n := by
  simp only [FreeBeside, FreeIn, numbered_mem_iff]

theorem renamedAt_withDistinctIds {es : List Endpoint} {i : Nat} {e : Endpoint} (he : es[i]? = some e) :
    ∃ d, (withDistinctIds es)[i]? = some d ∧ RenamedAt es (withDistinctIds es) i e d := by
  have hi : (es.map (·.operationId.toList))[i]? = some e.operationId.toList := by
    rw [List.getElem?_map, he]
    rfl
  obtain ⟨id, hid, hat⟩ := givenAt_distinctFrom (List.nil_subset _) (List.Subset.refl _) hi
  have hbefore : (distinctFrom (es.map (·.operationId.toList)) [] (es.map (·.operationId.toList))).take i =
      ((withDistinctIds es).take i).map (·.operationId.toList) := by
    rw [List.map_take, map_operationId_withDistinctIds]
    rfl
  have hmet : e.operationId.toList ∈ [] ∨ e.operationId.toList ∈ (es.map (·.operationId.toList)).take i ↔
      e.operationId ∈ ids (es.take i) := by
    rw [← List.map_take, toList_mem_iff]
    simp
  rw [hbefore] at hat
  refine ⟨_, getElem?_withDistinctIds he hid, rfl, fun hnew => ?_, fun hold => ?_⟩
  · have hsame := hat.first fun h => hnew (hmet.1 h)
    simp only [hsame, String.ofList_toList]
  · obtain ⟨n, hgiven, hleast⟩ := hat.later (hmet.2 hold)
    simp only [freeBeside_iff] at hleast
    refine ⟨n, ?_, searchEnds_of_isLeast hleast, hleast⟩
    rw [hgiven, ofList_numbered]

theorem nodup_ids_withDistinctIds (es : List Endpoint) : (ids (withDistinctIds es)).Nodup := by
  have hnodup : ((ids (withDistinctIds es)).map String.toList).Nodup := by
    rw [map_toList_ids, map_operationId_withDistinctIds]
    exact nodup_distinct _
  exact hnodup.of_map _

/-- Endpoints whose ids are all different stay as they are. -/
theorem withDistinctIds_eq_self {es : List Endpoint} (h : (ids es).Nodup) : withDistinctIds es = es := by
  have hnodup : (es.map (·.operationId.toList)).Nodup := by
    rw [← map_toList_ids]
    exact h.map fun _ _ heq => String.toList_inj.1 heq
  have hsame : distinct (es.map (·.operationId.toList)) = es.map (·.operationId.toList) :=
    distinctFrom_eq_self hnodup fun _ _ => List.not_mem_nil
  unfold withDistinctIds
  rw [hsame, List.zipWith_map_right, List.zipWith_self]
  simp

/-- Renaming never fails and leaves as many endpoints as there were, in their order. Each differs from the
one in its place at most by its id: the first with an id keeps it, and a later one gets the least number
from two on that makes the id none of those that came in and none given before; the search for that number
always ends. The ids are then all different, and renaming again changes nothing. -/
theorem renamed_operationIds (es : List Endpoint) :
    ∃ ds, (renamed es).outcome = .ok ds ∧ ds.length = es.length ∧
      (∀ i e, es[i]? = some e → ∃ d, ds[i]? = some d ∧ RenamedAt es ds i e d) ∧
      (ids ds).Nodup ∧ (renamed ds).outcome = .ok ds := by
  refine ⟨withDistinctIds es, outcome_renamed es, ?_, fun i e he => renamedAt_withDistinctIds he,
    nodup_ids_withDistinctIds es, ?_⟩
  · simp [withDistinctIds, length_distinct]
  · rw [outcome_renamed, withDistinctIds_eq_self (nodup_ids_withDistinctIds es)]

/-- A numbered id passes over numbers that other ids have. -/
example : (ids (withDistinctIds (["a", "a", "a2", "a", "a2"].map fun id => ⟨.get, "/", id, "", "", [], none, [],
    [], []⟩))) = ["a", "a3", "a2", "a4", "a22"] := by decide +kernel

end Endpoint

end ClientForge
