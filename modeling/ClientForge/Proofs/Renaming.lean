import ClientForge.Proofs.Accepted
import ClientForge.Proofs.Entries
import ClientForge.Proofs.OperationIds

/-!
Renamed endpoints under the check of models. Renaming checks nothing, but an endpoint under another operation id is
accepted if the id is an identifier (`Endpoint.accepted_rename_iff`). An identifier with a number after it is one,
unless it ends with a line feed, which an identifier may (`isIdentifier_numbered_iff`). So what the check accepts it
accepts again after renaming, but for endpoints whose id ends so and comes again (`Endpoint.accepted_renamed_iff`).
-/

namespace ClientForge

open Checked

/-! ## Identifiers with numbers -/

theorem isIdentifier_cons {c : Char} {w : List Char} (h : (c :: w).getLast? ≠ some '\n') :
    isIdentifier (c :: w) = ((c.isAlpha || c == '_') && w.all fun d => d.isAlphanum || d == '_') := by
  simp [isIdentifier, h]

/-- A number can follow the characters of an identifier, but not the line feed at its end. -/
theorem isIdentifier_numbered_iff {s : List Char} (h : isIdentifier s) (n : Nat) :
    isIdentifier (numbered s n) ↔ s.getLast? ≠ some '\n' := by
  cases s with
  | nil => exact absurd h (by decide)
  | cons c w =>
    have hdigits : ∀ d ∈ (Nat.repr n).toList, d.isDigit := fun d hd => isDigit_of_mem_repr hd
    have hlast : (c :: (w ++ (Nat.repr n).toList)).getLast? ≠ some '\n' := by
      intro hlast
      rw [← List.cons_append, List.getLast?_append_of_ne_nil _ (repr_toList_ne_nil n)] at hlast
      exact absurd (hdigits _ (List.mem_of_getLast? hlast)) (by decide)
    have hnumber : ((Nat.repr n).toList.all fun d => d.isAlphanum || d == '_') = true :=
      List.all_eq_true.2 fun d hd => by simp [isAlphanum_of_isDigit (hdigits d hd)]
    show isIdentifier (c :: (w ++ (Nat.repr n).toList)) ↔ _
    rw [isIdentifier_cons hlast, List.all_append, hnumber, Bool.and_true]
    by_cases hend : (c :: w).getLast? = some '\n'
    · -- The line feed stands among the characters now.
      refine iff_of_false (fun hall => ?_) fun hne => hne hend
      obtain ⟨hc, hw⟩ := Bool.and_eq_true_iff.1 hall
      rcases List.mem_cons.1 (List.mem_of_getLast? hend) with rfl | hmem
      · exact absurd hc (by decide)
      · exact absurd (List.all_eq_true.1 hw _ hmem) (by decide)
    · rw [isIdentifier_cons hend] at h
      exact iff_of_true h hend

namespace Endpoint

/-! ## Renaming one endpoint -/

/-- Is the endpoint one that the check makes of some value? -/
def Accepted (e : Endpoint) : Prop := ∃ o v, Endpoint.check o v = .ok e

theorem Accepted.isIdentifier {e : Endpoint} (h : e.Accepted) : isIdentifier e.operationId.toList := by
  obtain ⟨o, v, hv⟩ := h
  exact (fault?_eq_none_iff.1 (accepted_of_check hv).1).2.2.1

/-- The entries with an operation id. -/
def withId (es : Entries) (id : String) : Entries := Entries.insert es (.text "operationId") (.text id)

theorem get?_withId (es : Entries) (id name : String) :
    Entries.get? (withId es id) name = if "operationId" = name then some (.text id) else Entries.get? es name := by
  unfold withId
  rw [Entries.get?_insert]
  simp only [Entries.sameKey_text, Value.text.injEq]

theorem field?_withId_of_ne {es : Entries} {id name other : String} (hname : "operationId" ≠ name)
    (hother : "operationId" ≠ other) : field? name other (withId es id) = field? name other es := by
  unfold field?
  rw [get?_withId, get?_withId, if_neg hname, if_neg hother]

section

variable {α : Type} {check : Value → Checked α} {es : Entries} {id name other : String}

theorem needed_withId (hname : "operationId" ≠ name) (hother : "operationId" ≠ other) :
    needed name other check (withId es id) = needed name other check es := by
  unfold needed
  rw [field?_withId_of_ne hname hother]

theorem withDefault_withId {value : α} (hname : "operationId" ≠ name) (hother : "operationId" ≠ other) :
    withDefault name other value check (withId es id) = withDefault name other value check es := by
  unfold withDefault
  rw [field?_withId_of_ne hname hother]

end

theorem needed_operationId_withId (es : Entries) (id : String) :
    needed "operationId" "operation_id" text (withId es id) = .ok id := by
  unfold needed field?
  rw [get?_withId, if_pos rfl]
  rfl

/-- With another operation id among the entries it is made from, the same endpoint is made under that id, if this is
an identifier. -/
theorem check_withId {o : Origin} {es : Entries} {e : Endpoint} (h : Endpoint.check o (.map es) = .ok e) {id : String}
    (hid : ClientForge.isIdentifier id.toList) :
    Endpoint.check o (.map (withId es id)) = .ok { e with operationId := id } := by
  obtain ⟨fields, h, hend⟩ := except_bind_eq_ok.1 h
  obtain ⟨_, tags, h₁, htags, rfl⟩ := also_eq_ok.1 h
  obtain ⟨_, security, h₂, hsecurity, rfl⟩ := also_eq_ok.1 h₁
  obtain ⟨_, responses, h₃, hresponses, rfl⟩ := also_eq_ok.1 h₂
  obtain ⟨_, body, h₄, hbody, rfl⟩ := also_eq_ok.1 h₃
  obtain ⟨_, parameters, h₅, hparameters, rfl⟩ := also_eq_ok.1 h₄
  obtain ⟨_, description, h₆, hdescription, rfl⟩ := also_eq_ok.1 h₅
  obtain ⟨_, summary, h₇, hsummary, rfl⟩ := also_eq_ok.1 h₆
  obtain ⟨_, old, h₈, -, rfl⟩ := also_eq_ok.1 h₇
  obtain ⟨_, path, h₉, hpath, rfl⟩ := also_eq_ok.1 h₈
  obtain ⟨_, method, h₁₀, hmethod, rfl⟩ := also_eq_ok.1 h₉
  cases h₁₀
  obtain ⟨verb, hfault, hverb, rfl⟩ := endpoint_eq_ok.1 hend
  obtain ⟨hknown, hrooted, -, hdeclared⟩ := fault?_eq_none_iff.1 hfault
  unfold Endpoint.check record plain at *
  dsimp only
  simp (disch := decide) only [needed_withId, withDefault_withId, needed_operationId_withId, hmethod, hpath, hsummary,
    hdescription, hparameters, hbody, hresponses, hsecurity, htags]
  exact endpoint_eq_ok.2 ⟨verb, fault?_eq_none_iff.2 ⟨hknown, hrooted, hid, hdeclared⟩, hverb, rfl⟩

/-- An accepted endpoint is accepted under another id exactly if this is an identifier. -/
theorem accepted_rename_iff {e : Endpoint} (h : e.Accepted) (id : String) :
    Accepted { e with operationId := id } ↔ ClientForge.isIdentifier id.toList := by
  refine ⟨Accepted.isIdentifier, fun hid => ?_⟩
  obtain ⟨o, v, hv⟩ := h
  cases v with
  | map es => exact ⟨o, .map (withId es id), check_withId hv hid⟩
  | _ => cases hv

/-! ## Renaming all -/

/-- Does the id end with a line feed, after an endpoint with the same id? -/
def EndsLineAgain (es : List Endpoint) (i : Nat) (e : Endpoint) : Prop :=
  e.operationId ∈ ids (es.take i) ∧ e.operationId.toList.getLast? = some '\n'

theorem isIdentifier_renamedAt {es ds : List Endpoint} {i : Nat} {e d : Endpoint} (h : RenamedAt es ds i e d)
    (he : ClientForge.isIdentifier e.operationId.toList) :
    ClientForge.isIdentifier d.operationId.toList ↔ ¬EndsLineAgain es i e := by
  by_cases hagain : e.operationId ∈ ids (es.take i)
  · obtain ⟨n, hid, -⟩ := h.later hagain
    have hnumbered : d.operationId.toList = numbered e.operationId.toList n := by
      rw [hid, ← ofList_numbered, String.toList_ofList]
    rw [hnumbered, isIdentifier_numbered_iff he]
    exact not_congr (and_iff_right hagain).symm
  · rw [h.first hagain]
    exact iff_of_true he fun hends => hagain hends.1

/-- Each endpoint that comes out of renaming is one of the accepted ones that came in, perhaps under a new id. It is
accepted again exactly if its id is an identifier, and that is so unless an endpoint before it had the same id and
this ends with a line feed. -/
theorem accepted_renamed_iff {es : List Endpoint} (h : ∀ e ∈ es, e.Accepted) :
    ∃ ds, (renamed es).outcome = .ok ds ∧ ∀ i d, ds[i]? = some d → ∃ e, es[i]? = some e ∧
      d = { e with operationId := d.operationId } ∧
      (d.Accepted ↔ ClientForge.isIdentifier d.operationId.toList) ∧ (d.Accepted ↔ ¬EndsLineAgain es i e) := by
  refine ⟨withDistinctIds es, outcome_renamed es, fun i d hd => ?_⟩
  obtain ⟨e, id, he, hid, -⟩ := List.getElem?_zipWith_eq_some.1 hd
  obtain ⟨d', hd', hrenamed⟩ := renamedAt_withDistinctIds he
  obtain rfl : d = d' := Option.some.inj (hd.symm.trans hd')
  have haccepted := h e (List.mem_of_getElem? he)
  have hagain : d.Accepted ↔ ClientForge.isIdentifier d.operationId.toList := by
    rw [hrenamed.same]
    exact accepted_rename_iff haccepted _
  exact ⟨e, he, hrenamed.same, hagain,
    hagain.trans (isIdentifier_renamedAt hrenamed haccepted.isIdentifier)⟩

/-- An endpoint with an operation id and little else. -/
def listing (id : String) : Endpoint := { method := .get, path := "/", operationId := id }

theorem accepted_listing {id : String} (h : ClientForge.isIdentifier id.toList) : (listing id).Accepted := by
  have hfault : Endpoint.fault? "GET" "/" id [] = none :=
    fault?_eq_none_iff.2 ⟨by decide, by decide +kernel, h, by decide +kernel⟩
  exact ⟨.document, .map [(.text "method", .text "GET"), (.text "path", .text "/"), (.text "operationId", .text id)],
    except_bind_eq_ok.2 ⟨_, rfl, endpoint_eq_ok.2 ⟨.get, hfault, rfl, rfl⟩⟩⟩

/-- Two endpoints with one id are accepted again. -/
theorem accepted_renamed_listings :
    (∀ e ∈ [listing "list", listing "list"], e.Accepted) ∧
      ∃ ds, (renamed [listing "list", listing "list"]).outcome = .ok ds ∧ ∀ i d, ds[i]? = some d →
        ∃ e, [listing "list", listing "list"][i]? = some e ∧ d = { e with operationId := d.operationId } ∧
          (d.Accepted ↔ ClientForge.isIdentifier d.operationId.toList) ∧
          (d.Accepted ↔ ¬EndsLineAgain [listing "list", listing "list"] i e) := by
  have haccepted : ∀ e ∈ [listing "list", listing "list"], e.Accepted := by
    simp only [List.forall_mem_cons, List.not_mem_nil, false_imp_iff, implies_true, and_true]
    exact ⟨accepted_listing (by decide), accepted_listing (by decide)⟩
  exact ⟨haccepted, accepted_renamed_iff haccepted⟩

/-- Not every endpoint is accepted again after renaming: with a number after it, an id that ends with a line feed is
no identifier. -/
theorem lineEnd_not_accepted : ¬∀ es : List Endpoint, (∀ e ∈ es, e.Accepted) → ∀ ds, (renamed es).outcome = .ok ds →
    ∀ d ∈ ds, d.Accepted := by
  intro hall
  have haccepted : (listing "a\n").Accepted := accepted_listing (by decide)
  have hboth : ∀ e ∈ [listing "a\n", listing "a\n"], e.Accepted := by simp [haccepted]
  have hmem : "a\n2" ∈ ids (withDistinctIds [listing "a\n", listing "a\n"]) := by decide +kernel
  obtain ⟨d, hd, hid⟩ := List.mem_map.1 hmem
  have hidentifier := (hall _ hboth _ (outcome_renamed _) d hd).isIdentifier
  rw [hid] at hidentifier
  exact absurd hidentifier (by decide)

end Endpoint

end ClientForge
