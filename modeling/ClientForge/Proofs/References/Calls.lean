import ClientForge.Proofs.References.Inside
import ClientForge.Value.Access
import Mathlib.Data.List.Perm.Subperm
import Mathlib.Logic.Relation

/-!
How a document is resolved: by calls for the parts of a value, for what its reference leads to, and for
the entries beside the reference (`body`). A call has a stack, the references followed on the way to
it. Along nested calls the stack grows within the references of the document, none of them twice, or
else the value gets smaller (`Nested.descends`). So every run comes to an end, and no chain of references
inside each other is longer than the number of different references (`resolve_ends`).
-/

namespace ClientForge

/-! ## Steps one after another -/

namespace Traced

theorem liftM_ok_bind {α β : Type} (a : α) (f : α → Traced β) :
    ((liftM (.ok a : Except Failure α) : Traced α) >>= f) = f a := rfl

theorem liftM_error_bind {α β : Type} (e : Failure) (f : α → Traced β) :
    ((liftM (.error e : Except Failure α) : Traced α) >>= f) = throw e := rfl

theorem bind_assoc {α β γ : Type} (x : Traced α) (f : α → Traced β) (g : β → Traced γ) :
    (x >>= f) >>= g = x >>= fun a => f a >>= g := by
  obtain ⟨notes, outcome⟩ := x
  cases outcome with
  | error e => rfl
  | ok a =>
    show andThen (andThen ⟨notes, .ok a⟩ f) g = andThen ⟨notes, .ok a⟩ fun a => andThen (f a) g
    cases h : (f a).outcome <;> simp [andThen, h, List.append_assoc]

/-- A step for each item, in order. -/
def each {α β : Type} (f : α → Traced β) : List α → Traced (List β)
  | [] => return []
  | x :: xs => do return (← f x) :: (← each f xs)

theorem each_congr {α β : Type} {f g : α → Traced β} {xs : List α} (h : ∀ x ∈ xs, f x = g x) :
    each f xs = each g xs := by
  induction xs with
  | nil => rfl
  | cons x xs ih =>
    rw [each, each, h x List.mem_cons_self, ih fun y hy => h y (List.mem_cons_of_mem x hy)]

end Traced

namespace Reference

/-! ## Replacing as far as the references go -/

theorem replaceItems_eq_each (f : String → Traced Value) (s : List String) (xs : List Value) :
    replaceItems f s xs = Traced.each (replaceWith f s) xs := by
  induction xs with
  | nil => rfl
  | cons x xs ih => rw [replaceItems, Traced.each, ih]

theorem replaceEntries_eq_each (f : String → Traced Value) (s : List String) (es : Entries) :
    replaceEntries f s false es = Traced.each (fun e => do return (e.1, ← replaceWith f s e.2)) es := by
  induction es with
  | nil => rfl
  | cons e es ih =>
    rw [replaceEntries, Traced.each, ih, Traced.bind_assoc]
    rfl

/-- The entries beside a reference are those of the map without it. -/
theorem replaceEntries_beside (f : String → Traced Value) (s : List String) (es : Entries) :
    replaceEntries f s true es = replaceEntries f s false (Entries.erase es refKey) := by
  induction es with
  | nil => rfl
  | cons e es ih =>
    obtain ⟨k, v⟩ := e
    by_cases hkey : k.sameKey (.text refKey)
    · simp only [replaceEntries, Entries.erase, hkey, Bool.and_true, if_true, ih, List.filter_cons,
        Bool.not_true, Bool.false_eq_true, if_false]
    · simp only [replaceEntries, Entries.erase, hkey, Bool.and_false, Bool.false_eq_true, if_false, ih,
        List.filter_cons, Bool.not_false, if_true]

theorem replaceEntries_congr {f g : String → Traced Value} {s t : List String} {es : Entries}
    (h : ∀ e ∈ es, replaceWith f s e.2 = replaceWith g t e.2) :
    replaceEntries f s false es = replaceEntries g t false es := by
  rw [replaceEntries_eq_each, replaceEntries_eq_each, Traced.each_congr fun e he => by rw [h e he]]

theorem replaceWith_other {v : Value} (hlist : ∀ xs, v ≠ .list xs) (hmap : ∀ es, v ≠ .map es)
    (f : String → Traced Value) (s : List String) : replaceWith f s v = return v := by
  cases v with
  | list xs => exact absurd rfl (hlist xs)
  | map es => exact absurd rfl (hmap es)
  | _ => rfl

/-- What is put in place of a value depends only on what its references give, and on which of them are
on the stack. -/
theorem replaceWith_congr {f g : String → Traced Value} {s t : List String} (v : Value)
    (h : ∀ r ∈ refsIn v, (r ∈ s ↔ r ∈ t) ∧ (r ∉ s → f r = g r)) : replaceWith f s v = replaceWith g t v := by
  induction v using Value.parts_induction with
  | list xs ih =>
    rw [replaceWith, replaceWith, replaceItems_eq_each, replaceItems_eq_each, Traced.each_congr fun x hx =>
      ih x hx fun r hr => h r (mem_refsIn_list.2 ⟨x, hx, hr⟩)]
  | map es ih =>
    have hfield : ∀ e ∈ es, replaceWith f s e.2 = replaceWith g t e.2 := fun e he =>
      ih e he fun r hr => h r (mem_refsIn_map.2 (Or.inr ⟨e, he, hr⟩))
    cases href : ref? es with
    | none =>
      have hfields := replaceEntries_congr hfield
      simp only [replaceWith, href, hfields]
    | some r =>
      have hsiblings : replaceEntries f s false (Entries.erase es refKey) =
          replaceEntries g t false (Entries.erase es refKey) :=
        replaceEntries_congr fun e he => hfield e (Entries.mem_erase.1 he).1
      obtain ⟨hstack, hfollow⟩ := h r (mem_refsIn_map.2 (Or.inl href))
      by_cases hr : r ∈ s
      · simp [replaceWith, href, hr, hstack.1 hr]
      · simp [replaceWith, href, hr, mt hstack.2 hr, hfollow hr, replaceEntries_beside, hsiblings]
  | other v hlist hmap => rw [replaceWith_other hlist hmap, replaceWith_other hlist hmap]

theorem ref?_erase (es : Entries) : ref? (Entries.erase es refKey) = none :=
  ref?_eq_none_of_get? (Entries.get?_erase es refKey)

/-! ## Calls -/

/-- A call of the resolver: for a value, while the references on the stack are being followed. -/
structure Call where
  stack : List String
  value : Value

/-- What a call does, given what its nested calls do. -/
def body (doc : Value) (call : Call → Traced Value) (c : Call) : Traced Value :=
  match c.value with
  | .list xs => do return .list (← Traced.each (fun x => call ⟨c.stack, x⟩) xs)
  | .map es =>
    match ref? es with
    | none => do return .map (← Traced.each (fun e => do return (e.1, ← call ⟨c.stack, e.2⟩)) es)
    | some r =>
      if c.stack.contains r then do
        Traced.note .debug .references ("Circular $ref " ++ r ++ " left unresolved")
        return .map es
      else do
        let target ← Pointer.lookup doc r
        let found ← call ⟨r :: c.stack, target⟩
        let siblings := Entries.erase es refKey
        match found with
        | .map fields =>
          if siblings.isEmpty then return found
          else do
            let own ← call ⟨c.stack, .map siblings⟩
            return .map (Entries.update fields (own.entries?.getD []))
        | _ => return found
  | v => return v

/-- The calls that a call may make: for an item, for a field, for what a reference that is not on the
stack leads to, and for the entries beside it. -/
inductive Nested (doc : Value) : Call → Call → Prop
  | item {s : List String} {xs : List Value} {x : Value} : x ∈ xs → Nested doc ⟨s, .list xs⟩ ⟨s, x⟩
  | field {s : List String} {es : Entries} {k x : Value} : ref? es = none → (k, x) ∈ es →
      Nested doc ⟨s, .map es⟩ ⟨s, x⟩
  | target {s : List String} {es : Entries} {r : String} {t : Value} : ref? es = some r → r ∉ s →
      Pointer.lookup doc r = .ok t → Nested doc ⟨s, .map es⟩ ⟨r :: s, t⟩
  | siblings {s : List String} {es : Entries} {r : String} : ref? es = some r → r ∉ s →
      Nested doc ⟨s, .map es⟩ ⟨s, .map (Entries.erase es refKey)⟩

/-- The call for a whole document. -/
def Call.whole (doc : Value) : Call := ⟨[], doc⟩

/-- A call that is made while the document is resolved. -/
def Reached (doc : Value) (c : Call) : Prop := Relation.ReflTransGen (Nested doc) (Call.whole doc) c

/-- What the resolver gives for a call. -/
def resolution (doc : Value) (c : Call) : Traced Value :=
  resolveFrom doc (refsIn doc).eraseDups.length c.stack c.value

/-- A call does nothing but what its nested calls do. -/
theorem body_congr {doc : Value} {f g : Call → Traced Value} {c : Call} (h : ∀ d, Nested doc c d → f d = g d) :
    body doc f c = body doc g c := by
  obtain ⟨s, v⟩ := c
  cases v with
  | list xs =>
    have hitems : Traced.each (fun x => f ⟨s, x⟩) xs = Traced.each (fun x => g ⟨s, x⟩) xs :=
      Traced.each_congr fun x hx => h _ (.item hx)
    simp only [body, hitems]
  | map es =>
    cases href : ref? es with
    | none =>
      have hfields : Traced.each (fun e => do return (e.1, ← f ⟨s, e.2⟩)) es =
          Traced.each (fun e => do return (e.1, ← g ⟨s, e.2⟩)) es :=
        Traced.each_congr fun e he => by rw [h ⟨s, e.2⟩ (.field href he)]
      simp only [body, href, hfields]
    | some r =>
      by_cases hr : r ∈ s
      · simp [body, href, hr]
      · have hsiblings := h _ (.siblings href hr)
        cases hlookup : Pointer.lookup doc r with
        | error e => simp [body, href, hr, hlookup, Traced.liftM_error_bind]
        | ok t =>
          have htarget := h _ (.target href hr hlookup)
          simp [body, href, hr, hlookup, Traced.liftM_ok_bind, hsiblings, htarget]
  | _ => rfl

/-! ## The stack -/

/-- A call with a stack of different references of the document, for a value with none but those. -/
structure Within (doc : Value) (c : Call) : Prop where
  nodup : c.stack.Nodup
  stack : c.stack ⊆ refsIn doc
  refs : refsIn c.value ⊆ refsIn doc

theorem within_whole (doc : Value) : Within doc (Call.whole doc) :=
  ⟨List.nodup_nil, List.nil_subset _, fun _ hr => hr⟩

theorem Within.nested {doc : Value} {c d : Call} (h : Within doc c) (hcall : Nested doc c d) : Within doc d := by
  obtain ⟨hnodup, hstack, hrefs⟩ := h
  cases hcall with
  | item hx => exact ⟨hnodup, hstack, fun r hr => hrefs (mem_refsIn_list.2 ⟨_, hx, hr⟩)⟩
  | field href hx => exact ⟨hnodup, hstack, fun r hr => hrefs (mem_refsIn_map.2 (Or.inr ⟨_, hx, hr⟩))⟩
  | target href hr hlookup =>
    exact ⟨List.nodup_cons.2 ⟨hr, hnodup⟩,
      List.cons_subset.2 ⟨hrefs (mem_refsIn_map.2 (Or.inl href)), hstack⟩, refsIn_lookup hlookup⟩
  | siblings href hr => exact ⟨hnodup, hstack, fun r hr => hrefs (refsIn_erase _ hr)⟩

theorem Reached.within {doc : Value} {c : Call} (h : Reached doc c) : Within doc c := by
  induction h with
  | refl => exact within_whole doc
  | tail _ hcall ih => exact ih.nested hcall

/-- References on a stack are as many as they are different. -/
theorem length_le_of_nodup {doc : Value} {s : List String} (hnodup : s.Nodup) (hs : s ⊆ refsIn doc) :
    s.length ≤ (refsIn doc).eraseDups.length :=
  (List.subperm_of_subset hnodup fun _ hr => List.mem_eraseDups.2 (hs hr)).length_le

/-- A stack that is as long as there are references holds all of them. -/
theorem mem_of_length_le {doc : Value} {s : List String} (hnodup : s.Nodup) (hs : s ⊆ refsIn doc)
    (hfull : (refsIn doc).eraseDups.length ≤ s.length) {r : String} (hr : r ∈ refsIn doc) : r ∈ s := by
  have hsub : s.Subperm (refsIn doc).eraseDups :=
    List.subperm_of_subset hnodup fun _ hr => List.mem_eraseDups.2 (hs hr)
  exact (hsub.perm_of_length_le hfull).mem_iff.2 (List.mem_eraseDups.2 hr)

/-! ## Every run ends -/

theorem sizeOf_erase_lt {es : Entries} {k : String} (h : (Entries.get? es k).isSome) :
    sizeOf (Entries.erase es k) < sizeOf es := by
  have hle : ∀ fs : Entries, sizeOf (Entries.erase fs k) ≤ sizeOf fs := fun fs => by
    induction fs with
    | nil => exact Nat.le_refl _
    | cons f fs ih =>
      by_cases hkey : f.1.sameKey (.text k)
      · simp [Entries.erase, hkey] at ih ⊢
        omega
      · simp [Entries.erase, hkey] at ih ⊢
        omega
  induction es with
  | nil => cases h
  | cons e es ih =>
    by_cases hkey : e.1.sameKey (.text k)
    · have hrest := hle es
      simp [Entries.erase, hkey] at hrest ⊢
      omega
    · rw [Entries.get?_cons, if_neg hkey] at h
      have hrest := ih h
      simp [Entries.erase, hkey] at hrest ⊢
      omega

/-- How far a call may still go: the references that are not on its stack, then the size of its value. -/
noncomputable def Call.reach (doc : Value) (c : Call) : Nat × Nat :=
  ((refsIn doc).eraseDups.length - c.stack.length, sizeOf c.value)

theorem Nested.descends {doc : Value} {c d : Call} (h : Within doc c) (hcall : Nested doc c d) :
    Prod.Lex (· < ·) (· < ·) (d.reach doc) (c.reach doc) := by
  have hd := h.nested hcall
  cases hcall with
  | item hx =>
    refine Prod.Lex.right _ ?_
    have hlt := List.sizeOf_lt_of_mem hx
    simp at hlt ⊢
    omega
  | field href hx =>
    refine Prod.Lex.right _ ?_
    have hlt := List.sizeOf_lt_of_mem hx
    simp at hlt ⊢
    omega
  | target href hr hlookup =>
    refine Prod.Lex.left _ _ ?_
    have hlen := length_le_of_nodup hd.nodup hd.stack
    simp at hlen ⊢
    omega
  | siblings href hr =>
    refine Prod.Lex.right _ ?_
    have hlt := sizeOf_erase_lt (by rw [ref?_eq_some.1 href]; rfl)
    simpa using hlt

/-- Nested calls do not go on for ever. -/
theorem wellFounded_nested (doc : Value) : WellFounded fun d c => Within doc c ∧ Nested doc c d :=
  Subrelation.wf (fun h => h.2.descends h.1)
    (InvImage.wf (Call.reach doc) (Prod.lex Nat.lt_wfRel Nat.lt_wfRel).wf)

/-! ## The resolver does what calls do -/

/-- More chain than there are references left to follow changes nothing. -/
theorem resolveFrom_succ {doc : Value} {chain : Nat} {s : List String} {v : Value} (hnodup : s.Nodup)
    (hs : s ⊆ refsIn doc) (hv : refsIn v ⊆ refsIn doc)
    (hchain : (refsIn doc).eraseDups.length ≤ chain + s.length) :
    resolveFrom doc chain s v = resolveFrom doc (chain + 1) s v := by
  induction chain generalizing s v with
  | zero =>
    -- all references are on the stack, so that none is followed
    refine replaceWith_congr v fun r hr => ⟨Iff.rfl, fun hnew => ?_⟩
    exact absurd (mem_of_length_le hnodup hs (by simpa using hchain) (hv hr)) hnew
  | succ chain ih =>
    refine replaceWith_congr v fun r hr => ⟨Iff.rfl, fun hnew => ?_⟩
    cases hlookup : Pointer.lookup doc r with
    | error e => rfl
    | ok t =>
      exact ih (List.nodup_cons.2 ⟨hnew, hnodup⟩) (List.cons_subset.2 ⟨hv hr, hs⟩) (refsIn_lookup hlookup)
        (by rw [List.length_cons]; omega)

/-- What a reference gives in a call: what the value gives that it leads to. -/
def given (doc : Value) (s : List String) (r : String) : Traced Value := do
  let target ← Pointer.lookup doc r
  resolution doc ⟨r :: s, target⟩

theorem resolution_eq_replaceWith {doc : Value} {c : Call} (h : Within doc c) :
    resolution doc c = replaceWith (given doc c.stack) c.stack c.value :=
  resolveFrom_succ h.nodup h.stack h.refs (Nat.le_add_right _ _)

theorem overlay_map (fields own : Entries) : overlay (.map fields) own = .map (Entries.update fields own) := by
  cases own <;> rfl

/-- The resolver does in a call what the nested calls do that it makes. -/
theorem resolution_eq_body {doc : Value} {c : Call} (h : Within doc c) :
    resolution doc c = body doc (resolution doc) c := by
  rw [resolution_eq_replaceWith h]
  obtain ⟨s, v⟩ := c
  cases v with
  | list xs =>
    have hitems : Traced.each (replaceWith (given doc s) s) xs =
        Traced.each (fun x => resolution doc ⟨s, x⟩) xs :=
      Traced.each_congr fun x hx => (resolution_eq_replaceWith (h.nested (.item hx))).symm
    simp only [body, replaceWith, replaceItems_eq_each, hitems]
  | map es =>
    cases href : ref? es with
    | none =>
      have hfields : Traced.each (fun e => do return (e.1, ← replaceWith (given doc s) s e.2)) es =
          Traced.each (fun e => do return (e.1, ← resolution doc ⟨s, e.2⟩)) es :=
        Traced.each_congr fun e he => by rw [resolution_eq_replaceWith (h.nested (.field href he))]
      simp only [body, replaceWith, href, replaceEntries_eq_each, hfields]
    | some r =>
      by_cases hr : r ∈ s
      · simp [body, replaceWith, href, hr]
      · have hsiblings := resolution_eq_replaceWith (h.nested (.siblings href hr))
        cases hlookup : Pointer.lookup doc r with
        | error e => simp [body, replaceWith, href, hr, given, hlookup, Traced.liftM_error_bind]; rfl
        | ok t =>
          simp only [body, replaceWith, href, hr, given, hlookup, Traced.liftM_ok_bind, List.contains_eq_mem,
            decide_false, Bool.false_eq_true, if_false]
          refine congrArg (resolution doc ⟨r :: s, t⟩ >>= ·) (funext fun found => ?_)
          cases found with
          | map fields =>
            simp only [overlay_map, replaceEntries_beside]
            by_cases hempty : (Entries.erase es refKey).isEmpty
            · rw [List.isEmpty_iff.1 hempty]
              rfl
            · simp only [hempty, Bool.false_eq_true, if_false, hsiblings, replaceWith, ref?_erase,
                Traced.bind_assoc]
              rfl
          | _ => rfl
  | _ => rfl

/-- Whatever does in every call what the nested calls do that it makes is the resolver. -/
theorem eq_resolution_of_body {doc : Value} {run : Call → Traced Value}
    (hrun : ∀ c, Reached doc c → run c = body doc run c) {c : Call} (h : Reached doc c) :
    run c = resolution doc c := by
  induction c using (wellFounded_nested doc).induction with
  | _ c ih =>
    rw [hrun c h, resolution_eq_body h.within]
    exact body_congr fun d hcall => ih d ⟨h.within, hcall⟩ (h.tail hcall)

/-- A reference is looked up in a call for its map, unless it is being followed already. -/
def Call.LooksUp (c : Call) (r : String) : Prop := ∃ es, c.value = .map es ∧ ref? es = some r ∧ r ∉ c.stack

theorem Within.length_le {doc : Value} {c : Call} {r : String} (h : Within doc c) (hr : c.LooksUp r) :
    (r :: c.stack).length ≤ (refsIn doc).eraseDups.length := by
  obtain ⟨es, hvalue, href, hnew⟩ := hr
  have hmem : r ∈ refsIn doc := h.refs (by
    rw [hvalue]
    exact mem_refsIn_map.2 (Or.inl href))
  exact length_le_of_nodup (List.nodup_cons.2 ⟨hnew, h.nodup⟩) (List.cons_subset.2 ⟨hmem, h.stack⟩)

/-- Resolving a document comes to an end, whatever its references lead to: calls are not nested in each
other without end, so there is one result of doing what the calls say, and the resolver gives it. The
references looked up inside each other are different ones of the document, no more than it has. -/
theorem resolve_ends (doc : Value) :
    (WellFounded fun d c => Reached doc c ∧ Nested doc c d) ∧
      (∀ c, Reached doc c → resolution doc c = body doc (resolution doc) c) ∧
      (∀ run : Call → Traced Value, (∀ c, Reached doc c → run c = body doc run c) →
        run (Call.whole doc) = resolve doc) ∧
      ∀ c, Reached doc c → c.stack.Nodup ∧ c.stack ⊆ refsIn doc ∧
        c.stack.length ≤ (refsIn doc).eraseDups.length ∧
        ∀ r, c.LooksUp r → (r :: c.stack).length ≤ (refsIn doc).eraseDups.length := by
  refine ⟨Subrelation.wf (fun h => ⟨h.1.within, h.2⟩) (wellFounded_nested doc),
    fun c hc => resolution_eq_body hc.within, fun run hrun => ?_, fun c hc => ?_⟩
  · exact eq_resolution_of_body hrun .refl
  · have hwithin := hc.within
    exact ⟨hwithin.nodup, hwithin.stack, length_le_of_nodup hwithin.nodup hwithin.stack,
      fun r hr => hwithin.length_le hr⟩

end Reference

end ClientForge
