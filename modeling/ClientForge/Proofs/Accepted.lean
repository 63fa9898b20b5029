import ClientForge.Proofs.Endpoints
import ClientForge.Proofs.Keyed

/-!
What a check says that passes. Every part of an accepted model has passed the check of its kind, so its
endpoints go together, the key that authenticates has a name, and no object in it has a name twice
(`accepted_of_check`).
-/

namespace ClientForge

open Checked

/-! ## Parts that pass -/

section

variable {α : Type} {check : Value → Checked α}

theorem mem_of_all_eq_ok {xs : List (Checked α)} {ys : List α} (h : all xs = .ok ys) :
    ∀ y ∈ ys, .ok y ∈ xs := by
  induction xs generalizing ys with
  | nil =>
    cases h
    simp
  | cons x xs ih =>
    obtain ⟨g, zs, hg, hzs, rfl⟩ := also_eq_ok.1 h
    cases x with
    | error is => cases hg
    | ok a =>
      cases hg
      intro y hy
      rcases List.mem_cons.1 hy with rfl | hy
      · exact List.mem_cons_self
      · exact List.mem_cons_of_mem _ (ih hzs y hy)

theorem within_eq_ok_iff {step : Step} {x : Checked α} {a : α} : within step x = .ok a ↔ x = .ok a := by
  cases x <;> simp [within, Except.mapError]

theorem mem_items {xs : List Value} {i : Nat} {a : α} (h : .ok a ∈ items check i xs) :
    ∃ x, check x = .ok a := by
  induction xs generalizing i with
  | nil => cases h
  | cons x xs ih =>
    rcases List.mem_cons.1 h with h | h
    · exact ⟨x, within_eq_ok_iff.1 h.symm⟩
    · exact ih h

theorem passed_of_list {o : Origin} {v : Value} {ys : List α} (h : list o check v = .ok ys) :
    ∀ y ∈ ys, ∃ x, check x = .ok y := by
  intro y hy
  cases v with
  | list xs => exact mem_items (mem_of_all_eq_ok h y hy)
  | tuple xs => exact mem_items (mem_of_all_eq_ok h y hy)
  | set xs => exact mem_items (mem_of_all_eq_ok h y hy)
  | _ => cases h

theorem passed_of_object {o : Origin} {v : Value} {ms : List (String × α)} (h : object o check v = .ok ms) :
    (ms.map Prod.fst).Nodup ∧ ∀ m ∈ ms, ∃ x, check x = .ok m.2 := by
  cases v with
  | map es =>
    obtain ⟨ns, hall, rfl⟩ := map_eq_ok.1 h
    refine ⟨nodup_ofNamed ns, fun m hm => ?_⟩
    obtain ⟨e, -, he⟩ := List.mem_map.1 (mem_of_all_eq_ok hall m (mem_of_mem_ofNamed hm))
    obtain ⟨g, a, hg, ha, rfl⟩ := also_eq_ok.1 he
    obtain ⟨n, -, rfl⟩ := map_eq_ok.1 hg
    exact ⟨e.2, within_eq_ok_iff.1 ha⟩
  | _ => cases h

theorem passed_of_optional {v : Value} {x : Option α} (h : Checked.optional check v = .ok x) :
    ∀ a ∈ x, ∃ w, check w = .ok a := by
  intro a ha
  cases ha
  unfold Checked.optional at h
  split at h
  · cases h
  · obtain ⟨b, hb, hab⟩ := map_eq_ok.1 h
    cases hab
    exact ⟨v, hb⟩

theorem passed_of_withDefault {name other : String} {value : α} {es : Entries} {a : α}
    (h : withDefault name other value check es = .ok a) : a = value ∨ ∃ v, check v = .ok a := by
  unfold withDefault at h
  split at h
  · exact Or.inr ⟨_, within_eq_ok_iff.1 h⟩
  · cases h
    exact Or.inl rfl

theorem passed_of_record {o : Origin} {kind : String} {check : Entries → Checked α} {v : Value} {a : α}
    (h : record o kind check v = .ok a) : ∃ es, check es = .ok a := by
  cases v with
  | map es => exact ⟨es, h⟩
  | _ => cases h

end

/-! ## Texts and places -/

/-- Bytes are known by the text that they stand for. -/
theorem decodeBytes?_inj {as bs : List UInt8} {s : String} (ha : Value.decodeBytes? as = some s)
    (hb : Value.decodeBytes? bs = some s) : as = bs := by
  have hbytes : ∀ {cs : List UInt8}, Value.decodeBytes? cs = some s → s.toByteArray = ⟨cs.toArray⟩ := by
    intro cs h
    unfold Value.decodeBytes? String.fromUTF8? at h
    split at h
    · obtain rfl := Option.some.inj h
      rfl
    · cases h
  have heq := (hbytes ha).symm.trans (hbytes hb)
  simpa using congrArg (fun b : ByteArray => b.data.toList) heq

theorem text_eq_ok {v : Value} {s : String} :
    text v = .ok s ↔ v = .text s ∨ ∃ bs, v = .bytes bs ∧ Value.decodeBytes? bs = some s := by
  cases v with
  | text t => simp [text]
  | bytes bs => cases hs : Value.decodeBytes? bs <;> simp [text, complain, hs]
  | _ => simp [text, complain]

/-- The place of a parameter is written as its name. -/
theorem oneOf_location_eq_ok {v : Value} {l : Location}
    (h : oneOf (Location.all.map Location.name) Location.ofName? v = .ok l) : v = .text l.name := by
  cases v with
  | text s =>
    unfold oneOf at h
    cases hs : Location.ofName? s with
    | some l' =>
      simp only [hs] at h
      cases h
      have hname : l.name = s := by simpa using List.find?_some hs
      rw [hname]
    | none => simp [hs, complain] at h
  | _ => cases h

/-- A parameter that passes has the name and the place that it was given. -/
theorem Param.given_of_check {o : Origin} {es : Entries} {p : Param} (h : Param.check o (.map es) = .ok p) :
    needed "name" "name" text es = .ok p.name ∧
      needed "in" "location" (oneOf (Location.all.map Location.name) Location.ofName?) es =
        .ok p.location := by
  obtain ⟨_, _, h₁, -, rfl⟩ := also_eq_ok.1 h
  obtain ⟨_, _, h₂, -, rfl⟩ := also_eq_ok.1 h₁
  obtain ⟨_, _, h₃, -, rfl⟩ := also_eq_ok.1 h₂
  obtain ⟨_, _, h₄, -, rfl⟩ := also_eq_ok.1 h₃
  obtain ⟨_, _, h₅, -, rfl⟩ := also_eq_ok.1 h₄
  obtain ⟨_, _, h₆, -, rfl⟩ := also_eq_ok.1 h₅
  obtain ⟨_, location, h₇, hlocation, rfl⟩ := also_eq_ok.1 h₆
  obtain ⟨_, name, h₈, hname, rfl⟩ := also_eq_ok.1 h₇
  cases h₈
  exact ⟨hname, hlocation⟩

/-! ## Names that are apart -/

def Sketch.NamesApart (s : Sketch) : Prop := (s.properties.map Prod.fst).Nodup

/-- Does no object in an endpoint have a name twice? -/
structure Endpoint.NamesApart (e : Endpoint) : Prop where
  body : ∀ b ∈ e.body, b.sketch.NamesApart
  responses : (e.responses.map Prod.fst).Nodup
  sketches : ∀ r ∈ e.responses, ∀ s ∈ r.2.sketch, s.NamesApart
  security : ∀ ms ∈ e.security, (ms.map Prod.fst).Nodup

theorem Sketch.namesApart_of_check {o : Origin} {v : Value} {s : Sketch} (h : Sketch.check o v = .ok s) :
    s.NamesApart := by
  obtain ⟨es, h⟩ := passed_of_record h
  obtain ⟨_, _, h₁, -, rfl⟩ := also_eq_ok.1 h
  obtain ⟨_, _, h₂, -, rfl⟩ := also_eq_ok.1 h₁
  obtain ⟨_, properties, h₃, hproperties, rfl⟩ := also_eq_ok.1 h₂
  obtain ⟨_, _, h₄, -, rfl⟩ := also_eq_ok.1 h₃
  cases h₄
  rcases passed_of_withDefault hproperties with rfl | ⟨v, hv⟩
  · exact List.nodup_nil
  · exact (passed_of_object hv).1

theorem Body.namesApart_of_check {o : Origin} {v : Value} {b : Body} (h : Body.check o v = .ok b) :
    b.sketch.NamesApart := by
  obtain ⟨es, h⟩ := passed_of_record h
  obtain ⟨_, sketch, h₁, hsketch, rfl⟩ := also_eq_ok.1 h
  obtain ⟨_, _, h₂, -, rfl⟩ := also_eq_ok.1 h₁
  obtain ⟨_, _, h₃, -, rfl⟩ := also_eq_ok.1 h₂
  cases h₃
  rcases passed_of_withDefault hsketch with rfl | ⟨v, hv⟩
  · exact List.nodup_nil
  · exact Sketch.namesApart_of_check hv

theorem Response.namesApart_of_check {o : Origin} {v : Value} {r : Response} (h : Response.check o v = .ok r) :
    ∀ s ∈ r.sketch, s.NamesApart := by
  obtain ⟨es, h⟩ := passed_of_record h
  obtain ⟨_, sketch, h₁, hsketch, rfl⟩ := also_eq_ok.1 h
  obtain ⟨_, _, h₂, -, rfl⟩ := also_eq_ok.1 h₁
  obtain ⟨_, _, h₃, -, rfl⟩ := also_eq_ok.1 h₂
  cases h₃
  intro s hs
  rcases passed_of_withDefault hsketch with rfl | ⟨v, hv⟩
  · cases hs
  · obtain ⟨w, hw⟩ := passed_of_optional hv s hs
    exact Sketch.namesApart_of_check hw

theorem Endpoint.accepted_of_check {o : Origin} {v : Value} {e : Endpoint} (h : Endpoint.check o v = .ok e) :
    e.Consistent ∧ e.NamesApart := by
  obtain ⟨es, h⟩ := passed_of_record h
  obtain ⟨fields, h, hend⟩ := except_bind_eq_ok.1 h
  obtain ⟨_, _, h₁, -, rfl⟩ := also_eq_ok.1 h
  obtain ⟨_, security, h₂, hsecurity, rfl⟩ := also_eq_ok.1 h₁
  obtain ⟨_, responses, h₃, hresponses, rfl⟩ := also_eq_ok.1 h₂
  obtain ⟨_, body, h₄, hbody, rfl⟩ := also_eq_ok.1 h₃
  obtain ⟨_, _, h₅, -, rfl⟩ := also_eq_ok.1 h₄
  obtain ⟨_, _, h₆, -, rfl⟩ := also_eq_ok.1 h₅
  obtain ⟨_, _, h₇, -, rfl⟩ := also_eq_ok.1 h₆
  obtain ⟨_, _, h₈, -, rfl⟩ := also_eq_ok.1 h₇
  obtain ⟨_, _, h₉, -, rfl⟩ := also_eq_ok.1 h₈
  obtain ⟨_, _, h₁₀, -, rfl⟩ := also_eq_ok.1 h₉
  cases h₁₀
  obtain ⟨method, hfault, hmethod, rfl⟩ := endpoint_eq_ok.1 hend
  refine ⟨?_, ?_, ?_, ?_, ?_⟩
  · unfold Endpoint.Consistent
    rw [← hmethod]
    exact hfault
  · intro b hb
    rcases passed_of_withDefault hbody with rfl | ⟨v, hv⟩
    · cases hb
    · obtain ⟨w, hw⟩ := passed_of_optional hv b hb
      exact Body.namesApart_of_check hw
  · rcases passed_of_withDefault hresponses with rfl | ⟨v, hv⟩
    · exact List.nodup_nil
    · exact (passed_of_object hv).1
  · intro r hr
    rcases passed_of_withDefault hresponses with rfl | ⟨v, hv⟩
    · cases hr
    · obtain ⟨w, hw⟩ := (passed_of_object hv).2 r hr
      exact Response.namesApart_of_check hw
  · intro ms hms
    rcases passed_of_withDefault hsecurity with rfl | ⟨v, hv⟩
    · cases hms
    · obtain ⟨w, hw⟩ := passed_of_list hv ms hms
      exact (passed_of_object hw).1

/-! ## Authentication -/

/-- A key has a name. -/
def Auth.HasName (a : Auth) : Prop := ∀ name place, a.scheme = .apiKey name place → name ≠ ""

/-- Bytes that are the text of nothing are no bytes. -/
theorem decodeBytes?_ne_empty {bs : List UInt8} (hbs : bs ≠ []) {s : String}
    (h : Value.decodeBytes? bs = some s) : s ≠ "" := by
  rintro rfl
  exact hbs (decodeBytes?_inj h (by decide))

theorem keyName_ne_empty {v : Value} {name : String} (h : keyName v = .ok name) : name ≠ "" := by
  unfold keyName Value.orElse at h
  split at h
  · rename_i htruthy
    cases v with
    | text s =>
      cases h
      simpa [Value.truthy] using htruthy
    | bytes bs =>
      simp only [text] at h
      split at h
      · rename_i s hs
        cases h
        refine decodeBytes?_ne_empty ?_ hs
        simpa [Value.truthy] using htruthy
      · cases h
    | _ => cases h
  · cases h
    decide

/-- The text of a name that is not given is not empty either. -/
theorem hasName_of_named {make : String → Scheme} (hmake : ∀ n name place, make n ≠ .apiKey name place)
    {x : Checked (Option String)} {y : Checked String} {a : Auth}
    (h : also (x.map fun d n => (⟨make n, d⟩ : Auth)) y = .ok a) : a.HasName := by
  obtain ⟨g, n, hg, -, rfl⟩ := also_eq_ok.1 h
  obtain ⟨d, -, rfl⟩ := map_eq_ok.1 hg
  intro name place hscheme
  exact absurd hscheme (hmake n name place)

theorem hasName_of_checkKind {kind : String} {es : Entries} {a : Auth} (h : Auth.checkKind kind es = .ok a) :
    a.HasName := by
  unfold Auth.checkKind at h
  simp only at h
  split at h
  · exact hasName_of_named (by simp) h
  · exact hasName_of_named (by simp) h
  · exact hasName_of_named (by simp) h
  · obtain ⟨_, place, h₁, -, rfl⟩ := also_eq_ok.1 h
    obtain ⟨_, name, h₂, hname, rfl⟩ := also_eq_ok.1 h₁
    obtain ⟨d, -, rfl⟩ := map_eq_ok.1 h₂
    intro n p hscheme
    cases hscheme
    rcases passed_of_withDefault hname with rfl | ⟨v, hv⟩
    · decide
    · exact keyName_ne_empty hv
  · obtain ⟨d, -, rfl⟩ := map_eq_ok.1 h
    intro name place hscheme
    cases hscheme

theorem hasName_of_check {o : Origin} {v : Value} {a : Auth} (h : Auth.check o v = .ok a) : a.HasName := by
  unfold Auth.check at h
  split at h
  · split at h
    · cases h
    · split at h
      · exact hasName_of_checkKind (within_eq_ok_iff.1 h)
      · cases h
    · cases h
  · cases h

/-! ## The whole -/

/-- Do all endpoints of an API go together, and has a key a name? -/
structure Api.Consistent (a : Api) : Prop where
  auth : a.auth.HasName
  endpoints : ∀ e ∈ a.endpoints, e.Consistent

/-- A model that is accepted goes together, and no object in it has a name twice. -/
theorem Api.accepted_of_check {o : Origin} {v : Value} {a : Api} (h : Api.check o v = .ok a) :
    a.Consistent ∧ ∀ e ∈ a.endpoints, e.NamesApart := by
  obtain ⟨es, h⟩ := passed_of_record h
  obtain ⟨_, endpoints, h₁, hendpoints, rfl⟩ := also_eq_ok.1 h
  obtain ⟨_, _, h₂, -, rfl⟩ := also_eq_ok.1 h₁
  obtain ⟨_, _, h₃, -, rfl⟩ := also_eq_ok.1 h₂
  obtain ⟨_, _, h₄, -, rfl⟩ := also_eq_ok.1 h₃
  obtain ⟨_, auth, h₅, hauth, rfl⟩ := also_eq_ok.1 h₄
  obtain ⟨_, _, h₆, -, rfl⟩ := also_eq_ok.1 h₅
  cases h₆
  have hpassed : ∀ e ∈ endpoints, e.Consistent ∧ e.NamesApart := by
    intro e he
    rcases passed_of_withDefault hendpoints with rfl | ⟨v, hv⟩
    · cases he
    · obtain ⟨w, hw⟩ := passed_of_list hv e he
      exact Endpoint.accepted_of_check hw
  refine ⟨⟨?_, fun e he => (hpassed e he).1⟩, fun e he => (hpassed e he).2⟩
  rcases passed_of_withDefault hauth with rfl | ⟨v, hv⟩
  · intro name place hscheme
    cases hscheme
  · exact hasName_of_check hv

/-- A model is accepted if something can be said of the API that it gives. -/
theorem Api.exists_of_check {α : Type} {o : Origin} {v : Value} {f : Api → α} {a : α}
    (h : (Api.check o v).toOption.map f = some a) : ∃ api, Api.check o v = .ok api ∧ f api = a :=
  toOption_map_eq_some.1 h

end ClientForge
