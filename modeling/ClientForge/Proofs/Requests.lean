import ClientForge.Postman.Reader
import ClientForge.Proofs.Entries
import Mathlib.Data.List.Forall2

/-!
The requests of a collection. Each stands at a place, the numbers of the items on the way down to it, and
the requests come in the order of their places (`Leaves`). Where the items of a folder are put in the
folder's place, the requests are the same but for the folders around them (`raised_of_unfolds`).
-/

namespace ClientForge.Postman

/-! ## Items -/

/-- Does the item have a request of its own, written out or as an address? -/
def HasRequest (item : Entries) : Prop :=
  (∃ es, Entries.get item "request" = .map es) ∨ ∃ s, Entries.get item "request" = .text s

/-- The item is a folder of some items. -/
structure IsFolder (item : Entries) (children : List Value) : Prop where
  bare : ¬HasRequest item
  holds : Entries.get item "item" = .list children

/-- The name that a folder gives to the requests in it. -/
def folderName (item : Entries) : Value := (Entries.get item "name").orElse (.text "unnamed")

/-- The item is neither a request nor a folder. -/
structure IsOther (x : Value) : Prop where
  noRequest : ∀ item, x = .map item → ¬HasRequest item
  noFolder : ∀ item children, x = .map item → ¬IsFolder item children

theorem get?_of_get_list {es : Entries} {k : String} {xs : List Value} (h : Entries.get es k = .list xs) :
    Entries.get? es k = some (.list xs) := by
  cases hget : Entries.get? es k with
  | none => simp [Entries.get, hget] at h
  | some v => rw [← h, Entries.get, hget, Option.getD_some]

theorem sizeOf_children_lt {item : Entries} {children xs : List Value} (h : IsFolder item children) :
    sizeOf children < sizeOf (Value.map item :: xs) := by
  have hlt := List.sizeOf_lt_of_mem (Entries.mem_of_get? (get?_of_get_list h.holds))
  simp at hlt ⊢
  omega

/-- What holds of no items, and of items if it holds of those after the first and of those in it, if it is
a folder, holds of all items. -/
@[elab_as_elim]
theorem items_induction {motive : List Value → Prop} (nil : motive [])
    (request : ∀ (item : Entries) (xs : List Value), HasRequest item → motive xs → motive (.map item :: xs))
    (folder : ∀ (item : Entries) (children xs : List Value), IsFolder item children → motive children →
      motive xs → motive (.map item :: xs))
    (other : ∀ (x : Value) (xs : List Value), IsOther x → motive xs → motive (x :: xs)) :
    ∀ items : List Value, motive items
  | [] => nil
  | x :: xs => by
    have hxs : motive xs := items_induction nil request folder other xs
    by_cases hrequest : ∃ item, x = .map item ∧ HasRequest item
    · obtain ⟨item, rfl, hitem⟩ := hrequest
      exact request item xs hitem hxs
    · by_cases hfolder : ∃ item children, x = .map item ∧ IsFolder item children
      · obtain ⟨item, children, rfl, hitem⟩ := hfolder
        have hlt : sizeOf children < sizeOf (Value.map item :: xs) := sizeOf_children_lt hitem
        exact folder item children xs hitem (items_induction nil request folder other children) hxs
      · refine other x xs ⟨fun item hx hitem => hrequest ⟨item, hx, hitem⟩, ?_⟩ hxs
        exact fun item children hx hitem => hfolder ⟨item, children, hx, hitem⟩
termination_by items => sizeOf items

/-! ## Requests of items -/

/-- The requests of a list of items, which is what a folder should hold. -/
def requestsOfHeld (folders : List Value) : Value → List Request
  | .list items => requestsOfItems folders items
  | _ => []

theorem requestsInFolder_cons (folders : List Value) (e : Value × Value) (es : Entries) :
    requestsInFolder folders (e :: es) =
      if e.1.sameKey (.text "item") then requestsOfHeld folders e.2 else requestsInFolder folders es := by
  obtain ⟨k, v⟩ := e
  cases v <;> rfl

theorem requestsInFolder_eq (folders : List Value) (es : Entries) :
    requestsInFolder folders es = requestsOfHeld folders (Entries.get es "item") := by
  induction es with
  | nil => rfl
  | cons e es ih =>
    rw [requestsInFolder_cons, ih, Entries.get, Entries.get, Entries.get?_cons]
    split <;> rfl

theorem requestsOf_of_hasRequest {folders : List Value} {item : Entries} (h : HasRequest item) :
    requestsOf folders (.map item) = [⟨folders, item⟩] := by
  rcases h with ⟨es, hes⟩ | ⟨s, hs⟩
  · simp only [requestsOf, hes]
  · simp only [requestsOf, hs]

theorem requestsOf_of_not_hasRequest {folders : List Value} {item : Entries} (h : ¬HasRequest item) :
    requestsOf folders (.map item) = requestsInFolder (folders ++ [folderName item]) item := by
  rw [requestsOf]
  split
  · rename_i es hes
    exact absurd (.inl ⟨es, hes⟩) h
  · rename_i s hs
    exact absurd (.inr ⟨s, hs⟩) h
  · rfl

theorem requestsOf_of_isFolder {folders : List Value} {item : Entries} {children : List Value}
    (h : IsFolder item children) :
    requestsOf folders (.map item) = requestsOfItems (folders ++ [folderName item]) children := by
  rw [requestsOf_of_not_hasRequest h.bare, requestsInFolder_eq, h.holds]
  rfl

theorem requestsOf_of_isOther {folders : List Value} {x : Value} (h : IsOther x) : requestsOf folders x = [] := by
  cases x with
  | map item =>
    have hbare := h.noRequest item rfl
    rw [requestsOf_of_not_hasRequest hbare, requestsInFolder_eq]
    cases hheld : Entries.get item "item" with
    | list children => exact absurd ⟨hbare, hheld⟩ (h.noFolder item children rfl)
    | _ => rfl
  | _ => rfl

theorem requestsOfItems_append (folders xs ys : List Value) :
    requestsOfItems folders (xs ++ ys) = requestsOfItems folders xs ++ requestsOfItems folders ys := by
  induction xs with
  | nil => rfl
  | cons x xs ih => rw [List.cons_append, requestsOfItems, requestsOfItems, ih, List.append_assoc]

/-! ## Places -/

/-- Under the folders around some items, a request stands at a place: the numbers of the items on the way
down to it, each in its list. -/
inductive RequestAt : List Value → List Value → List Nat → Request → Prop
  | own {folders items : List Value} {i : Nat} {item : Entries} (hi : items[i]? = some (.map item))
      (h : HasRequest item) : RequestAt folders items [i] ⟨folders, item⟩
  | inside {folders items children : List Value} {i : Nat} {item : Entries} {place : List Nat} {r : Request}
      (hi : items[i]? = some (.map item)) (h : IsFolder item children)
      (more : RequestAt (folders ++ [folderName item]) children place r) :
      RequestAt folders items (i :: place) r

/-- All requests of some items with their places, in the order of the places: depth first. -/
structure Leaves (folders items : List Value) (leaves : List (List Nat × Request)) : Prop where
  sorted : leaves.Pairwise fun l m => l.1 < m.1
  exact : ∀ place r, (place, r) ∈ leaves ↔ RequestAt folders items place r

/-- A request of one item, with its place below the item. -/
def RequestOf (folders : List Value) (x : Value) (place : List Nat) (r : Request) : Prop :=
  (∃ item, x = .map item ∧ HasRequest item ∧ place = [] ∧ r = ⟨folders, item⟩) ∨
    ∃ item children, x = .map item ∧ IsFolder item children ∧
      RequestAt (folders ++ [folderName item]) children place r

section

variable {folders : List Value} {place : List Nat} {r : Request}

theorem requestOf_iff_of_hasRequest {item : Entries} (h : HasRequest item) :
    RequestOf folders (.map item) place r ↔ place = [] ∧ r = ⟨folders, item⟩ := by
  constructor
  · rintro (⟨item', heq, -, rfl, rfl⟩ | ⟨item', children, heq, hfolder, -⟩)
    · cases heq
      exact ⟨rfl, rfl⟩
    · cases heq
      exact absurd h hfolder.bare
  · rintro ⟨rfl, rfl⟩
    exact .inl ⟨item, rfl, h, rfl, rfl⟩

theorem requestOf_iff_of_isFolder {item : Entries} {children : List Value} (h : IsFolder item children) :
    RequestOf folders (.map item) place r ↔ RequestAt (folders ++ [folderName item]) children place r := by
  constructor
  · rintro (⟨item', heq, hrequest, -⟩ | ⟨item', children', heq, hfolder, hat⟩)
    · cases heq
      exact absurd hrequest h.bare
    · cases heq
      cases h.holds.symm.trans hfolder.holds
      exact hat
  · exact fun hat => .inr ⟨item, children, rfl, h, hat⟩

theorem not_requestOf_of_isOther {x : Value} (h : IsOther x) : ¬RequestOf folders x place r := by
  rintro (⟨item, heq, hrequest, -⟩ | ⟨item, children, heq, hfolder, -⟩)
  · exact h.noRequest item heq hrequest
  · exact h.noFolder item children heq hfolder

end

/-- A place, as it is when one more item stands in front. -/
def later : List Nat → List Nat
  | [] => []
  | i :: place => (i + 1) :: place

theorem later_lt_later {p q : List Nat} (h : p < q) : later p < later q := by
  cases p with
  | nil =>
    cases q with
    | nil => exact h
    | cons j q => exact List.nil_lt_cons _ _
  | cons i p =>
    cases q with
    | nil => exact absurd h (List.not_lt_nil _)
    | cons j q =>
      rcases List.cons_lt_cons_iff.1 h with hlt | ⟨rfl, hlt⟩
      · exact List.cons_lt_cons_iff.2 (.inl (Nat.succ_lt_succ hlt))
      · exact List.cons_lt_cons_iff.2 (.inr ⟨rfl, hlt⟩)

theorem requestAt_cons {folders xs : List Value} {x : Value} {place : List Nat} {r : Request} :
    RequestAt folders (x :: xs) place r ↔ (∃ p, place = 0 :: p ∧ RequestOf folders x p r) ∨
      ∃ p, place = later p ∧ RequestAt folders xs p r := by
  constructor
  · intro h
    cases h with
    | @own _ _ i item hi h =>
      cases i with
      | zero => exact .inl ⟨[], rfl, .inl ⟨item, Option.some.inj hi, h, rfl, rfl⟩⟩
      | succ i => exact .inr ⟨[i], rfl, .own hi h⟩
    | @inside _ _ children i item p _ hi h more =>
      cases i with
      | zero => exact .inl ⟨p, rfl, .inr ⟨item, children, Option.some.inj hi, h, more⟩⟩
      | succ i => exact .inr ⟨i :: p, rfl, .inside hi h more⟩
  · rintro (⟨p, rfl, ⟨item, rfl, h, rfl, rfl⟩ | ⟨item, children, rfl, h, more⟩⟩ | ⟨p, rfl, h⟩)
    · exact .own rfl h
    · exact .inside rfl h more
    · cases h with
      | own hi h => exact .own hi h
      | inside hi h more => exact .inside hi h more

theorem not_requestAt_nil {folders : List Value} {place : List Nat} {r : Request} :
    ¬RequestAt folders [] place r := by
  intro h
  cases h with
  | own hi => cases hi
  | inside hi => cases hi

/-- The requests of a first item, then those of the others, with their places in the whole list. -/
def joined (first rest : List (List Nat × Request)) : List (List Nat × Request) :=
  first.map (fun l => (0 :: l.1, l.2)) ++ rest.map fun l => (later l.1, l.2)

theorem map_snd_joined (first rest : List (List Nat × Request)) :
    (joined first rest).map Prod.snd = first.map Prod.snd ++ rest.map Prod.snd := by
  simp [joined, Function.comp_def]

/-- The requests of the first item come before those of the others. -/
theorem Leaves.cons {folders xs : List Value} {x : Value} (first : List (List Nat × Request))
    {rest : List (List Nat × Request)}
    (hsorted : first.Pairwise fun l m => l.1 < m.1)
    (hfirst : ∀ place r, (place, r) ∈ first ↔ RequestOf folders x place r) (hrest : Leaves folders xs rest) :
    Leaves folders (x :: xs) (joined first rest) := by
  constructor
  · refine List.pairwise_append.2 ⟨?_, ?_, ?_⟩
    · refine List.pairwise_map.2 (hsorted.imp fun hlt => ?_)
      exact List.cons_lt_cons_iff.2 (.inr ⟨rfl, hlt⟩)
    · exact List.pairwise_map.2 (hrest.sorted.imp later_lt_later)
    · intro l hl m hm
      obtain ⟨⟨p, r⟩, -, rfl⟩ := List.mem_map.1 hl
      obtain ⟨⟨q, s⟩, hq, rfl⟩ := List.mem_map.1 hm
      have hat := (hrest.exact q s).1 hq
      cases hat <;> exact List.cons_lt_cons_iff.2 (.inl (Nat.succ_pos _))
  · intro place r
    rw [joined, List.mem_append, requestAt_cons]
    refine or_congr ?_ ?_
    · constructor
      · intro h
        obtain ⟨⟨p, s⟩, hp, heq⟩ := List.mem_map.1 h
        cases heq
        exact ⟨p, rfl, (hfirst p s).1 hp⟩
      · rintro ⟨p, rfl, hp⟩
        exact List.mem_map.2 ⟨(p, r), (hfirst p r).2 hp, rfl⟩
    · constructor
      · intro h
        obtain ⟨⟨p, s⟩, hp, heq⟩ := List.mem_map.1 h
        cases heq
        exact ⟨p, rfl, (hrest.exact p s).1 hp⟩
      · rintro ⟨p, rfl, hp⟩
        exact List.mem_map.2 ⟨(p, r), (hrest.exact p r).2 hp, rfl⟩

/-- The requests are read in the order of their places. -/
theorem exists_leaves (folders items : List Value) :
    ∃ leaves, Leaves folders items leaves ∧ leaves.map Prod.snd = requestsOfItems folders items := by
  induction items using items_induction generalizing folders with
  | nil =>
    refine ⟨[], ⟨List.Pairwise.nil, fun place r => ?_⟩, rfl⟩
    simp only [List.not_mem_nil, false_iff]
    exact not_requestAt_nil
  | request item xs hitem ih =>
    obtain ⟨rest, hrest, hreq⟩ := ih folders
    refine ⟨_, Leaves.cons [([], ⟨folders, item⟩)] (List.pairwise_singleton _ _) (fun place r => ?_) hrest, ?_⟩
    · rw [List.mem_singleton, Prod.mk.injEq, requestOf_iff_of_hasRequest hitem]
    · rw [map_snd_joined, requestsOfItems, requestsOf_of_hasRequest hitem, hreq]
      rfl
  | folder item children xs hitem ihchildren ih =>
    obtain ⟨first, hfirst, hreqFirst⟩ := ihchildren (folders ++ [folderName item])
    obtain ⟨rest, hrest, hreq⟩ := ih folders
    refine ⟨_, Leaves.cons first hfirst.sorted (fun place r => ?_) hrest, ?_⟩
    · rw [hfirst.exact, requestOf_iff_of_isFolder hitem]
    · rw [map_snd_joined, requestsOfItems, requestsOf_of_isFolder hitem, hreqFirst, hreq]
  | other x xs hx ih =>
    obtain ⟨rest, hrest, hreq⟩ := ih folders
    refine ⟨_, Leaves.cons [] List.Pairwise.nil (fun place r => ?_) hrest, ?_⟩
    · simp only [List.not_mem_nil, false_iff]
      exact not_requestOf_of_isOther hx
    · rw [map_snd_joined, requestsOfItems, requestsOf_of_isOther hx, hreq]
      rfl

/-! ## Folders put away -/

/-- A folder at some depth of the items is replaced by what it holds. -/
inductive Unfolds : List Value → List Value → Prop
  | here {item : Entries} {children before after : List Value} (h : IsFolder item children) :
      Unfolds (before ++ .map item :: after) (before ++ children ++ after)
  | inside {item : Entries} {children children' before after : List Value}
      (h : Entries.get item "item" = .list children) (more : Unfolds children children') :
      Unfolds (before ++ .map item :: after)
        (before ++ .map (Entries.insert item (.text "item") (.list children')) :: after)

/-- The same request, with some of the folders around it put away. Whatever items stand beside it in its own
item, nothing reads them. -/
structure Raised (r r' : Request) : Prop where
  folders : r'.folders.Sublist r.folders
  fields : ∀ k, k ≠ "item" → Entries.get r'.fields k = Entries.get r.fields k

theorem Raised.refl (r : Request) : Raised r r := ⟨List.Sublist.refl _, fun _ _ => rfl⟩

/-- Folders put away around some items are put away around each request. -/
theorem raised_of_sublist {items folders folders' : List Value} (h : folders'.Sublist folders) :
    List.Forall₂ Raised (requestsOfItems folders items) (requestsOfItems folders' items) := by
  induction items using items_induction generalizing folders folders' with
  | nil => exact .nil
  | request item xs hitem ih =>
    rw [requestsOfItems, requestsOfItems, requestsOf_of_hasRequest hitem, requestsOf_of_hasRequest hitem]
    exact .cons ⟨h, fun _ _ => rfl⟩ (ih h)
  | folder item children xs hitem ihchildren ih =>
    rw [requestsOfItems, requestsOfItems, requestsOf_of_isFolder hitem, requestsOf_of_isFolder hitem]
    exact List.rel_append (ihchildren (h.append_right _)) (ih h)
  | other x xs hx ih =>
    rw [requestsOfItems, requestsOfItems, requestsOf_of_isOther hx, requestsOf_of_isOther hx]
    exact ih h

theorem get_insert_item (es : Entries) (v : Value) {k : String} (hk : k ≠ "item") :
    Entries.get (Entries.insert es (.text "item") v) k = Entries.get es k := by
  have hkey : ¬(Value.text "item").sameKey (.text k) = true := by
    rw [Entries.sameKey_text, Value.text.injEq]
    exact fun h => hk h.symm
  rw [Entries.get, Entries.get?_insert, if_neg hkey, Entries.get]

theorem get_insert_self (es : Entries) (v : Value) :
    Entries.get (Entries.insert es (.text "item") v) "item" = v := by
  rw [Entries.get, Entries.get?_insert, if_pos (Entries.sameKey_text.2 rfl), Option.getD_some]

theorem hasRequest_insert {item : Entries} {v : Value} :
    HasRequest (Entries.insert item (.text "item") v) ↔ HasRequest item := by
  rw [HasRequest, HasRequest, get_insert_item item v (by decide)]

/-- The requests stay, and their order. -/
theorem raised_of_unfolds {items items' folders : List Value} (h : Unfolds items items') :
    List.Forall₂ Raised (requestsOfItems folders items) (requestsOfItems folders items') := by
  have hsame : ∀ xs, List.Forall₂ Raised (requestsOfItems folders xs) (requestsOfItems folders xs) :=
    fun _ => raised_of_sublist (List.Sublist.refl _)
  induction h generalizing folders with
  | @here item children before after hitem =>
    rw [List.append_assoc, requestsOfItems_append, requestsOfItems_append, requestsOfItems_append,
      requestsOfItems, requestsOf_of_isFolder hitem]
    refine List.rel_append (hsame before) (List.rel_append ?_ (hsame after))
    exact raised_of_sublist (List.sublist_append_left _ _)
  | @inside item children children' before after hitem more ih =>
    rw [requestsOfItems_append, requestsOfItems_append, requestsOfItems, requestsOfItems]
    refine List.rel_append (hsame before) (List.rel_append ?_ (hsame after))
    by_cases hrequest : HasRequest item
    · rw [requestsOf_of_hasRequest hrequest, requestsOf_of_hasRequest (hasRequest_insert.2 hrequest)]
      exact .cons ⟨List.Sublist.refl _, fun _ hk => get_insert_item item _ hk⟩ .nil
    · have hnew : IsFolder (Entries.insert item (.text "item") (.list children')) children' :=
        ⟨fun h => hrequest (hasRequest_insert.1 h), get_insert_self _ _⟩
      have hname : folderName (Entries.insert item (.text "item") (.list children')) = folderName item := by
        rw [folderName, folderName, get_insert_item item _ (by decide)]
      rw [requestsOf_of_isFolder ⟨hrequest, hitem⟩, requestsOf_of_isFolder hnew, hname]
      exact ih fun _ => raised_of_sublist (List.Sublist.refl _)

end ClientForge.Postman
