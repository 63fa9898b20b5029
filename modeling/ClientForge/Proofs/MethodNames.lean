import ClientForge.Client.Plan
import ClientForge.Proofs.Words

/-!
The names of methods. A name is never a word that the target language or the client takes, not even
with a number after it: a name that would be taken ends with an underscore, and the only taken words
that end with a digit start with a small letter where methods start with a capital
(`methodKey_numbered_not_blocked`). Names are given one by one; each is its base, or its base with the
least number that makes its key new (`methodNames_named`), so all keys are different
(`nodup_methodNames`) and later endpoints never change earlier names (`methodNames_take`).
-/

namespace ClientForge

/-! ## The characters of names -/

/-- Are all characters ASCII letters, digits and underscores? -/
def AllNameChars (s : List Char) : Prop := ∀ c ∈ s, c.isAlphanum ∨ c = '_'

theorem AllAlphanum.nameChars {s : List Char} (h : AllAlphanum s) : AllNameChars s :=
  fun c hc => Or.inl (h c hc)

theorem AllNameChars.append {s t : List Char} (hs : AllNameChars s) (ht : AllNameChars t) :
    AllNameChars (s ++ t) := by
  intro c hc
  rcases List.mem_append.1 hc with hc | hc
  · exact hs c hc
  · exact ht c hc

theorem AllNameChars.ascii {s : List Char} (h : AllNameChars s) : ∀ c ∈ s, c.toNat < 0x80 := by
  intro c hc
  rcases h c hc with ha | rfl
  · exact toNat_lt_of_isAlphanum ha
  · decide

theorem AllNameChars.isWord {s : List Char} (h : AllNameChars s) : ∀ c ∈ s, Text.isWord c := by
  intro c hc
  unfold Text.isWord
  rw [if_pos (h.ascii c hc)]
  simpa using h c hc

theorem allNameChars_snake (s : List Char) : AllNameChars (snake s) := by
  have hok : ∀ ws : List (List Char), WordsOk ws → AllNameChars (Text.join ['_'] (ws.map lowerWord)) := by
    intro ws
    induction ws with
    | nil => intro _; simp [Text.join, AllNameChars]
    | cons w ws ih =>
      intro h
      have hw : AllNameChars (lowerWord w) :=
        ((h w List.mem_cons_self).2.map isAlphanum_toLower).nameChars
      cases ws with
      | nil => exact hw
      | cons v vs =>
        have hrest := ih fun u hu => h u (List.mem_cons_of_mem _ hu)
        exact (hw.append (by simp [AllNameChars])).append hrest
  exact hok _ (wordsOk_words s)

theorem allNameChars_methodCase (t : Target) (s : List Char) : AllNameChars (t.methodCase s) := by
  cases t with
  | python => exact allNameChars_snake s
  | go => exact (allAlphanum_pascal s).nameChars
  | node => exact (allAlphanum_camel s).nameChars
  | java => exact (allAlphanum_camel s).nameChars
  | php => exact (allAlphanum_camel s).nameChars

theorem methodName_eq (t : Target) (s : List Char) :
    t.methodName s =
      if t.blockedKeys.contains (t.methodKey (t.methodCase s)) then t.methodCase s ++ ['_']
      else t.methodCase s := rfl

theorem allNameChars_methodName (t : Target) (s : List Char) : AllNameChars (t.methodName s) := by
  rw [methodName_eq]
  split
  · exact (allNameChars_methodCase t s).append (by simp [AllNameChars])
  · exact allNameChars_methodCase t s

/-! ## Keys -/

theorem methodKey_append (t : Target) {s u : List Char} (hs : ∀ c ∈ s, c.toNat < 0x80)
    (hu : ∀ c ∈ u, c.toNat < 0x80) : t.methodKey (s ++ u) = t.methodKey s ++ t.methodKey u := by
  cases t with
  | php =>
    have hsu : ∀ c ∈ s ++ u, c.toNat < 0x80 := fun c hc => (List.mem_append.1 hc).elim (hs c) (hu c)
    simp only [Target.methodKey, Text.lower]
    rw [lowerAfter_ascii [] hs, lowerAfter_ascii [] hu, lowerAfter_ascii [] hsu, List.map_append]
  | _ => rfl

theorem toNat_lt_of_mem_repr {n : Nat} {c : Char} (h : c ∈ (Nat.repr n).toList) : c.toNat < 0x80 :=
  toNat_lt_of_isAlphanum (isAlphanum_of_isDigit (isDigit_of_mem_repr h))

theorem toLower_of_isDigit {c : Char} (h : c.isDigit) : c.toLower = c := by
  refine toLower_of_not_isUpper fun hupper => ?_
  have hdigit := isDigit_iff.1 h
  have hle := isUpper_iff.1 hupper
  omega

theorem methodKey_repr (t : Target) (n : Nat) : t.methodKey (Nat.repr n).toList = (Nat.repr n).toList := by
  cases t with
  | php =>
    simp only [Target.methodKey, Text.lower]
    rw [lowerAfter_ascii [] fun c hc => toNat_lt_of_mem_repr hc]
    exact (List.map_congr_left fun c hc => toLower_of_isDigit (isDigit_of_mem_repr hc)).trans
      (List.map_id _)
  | _ => rfl

/-- The key of a numbered name is the numbered key. -/
theorem methodKey_numbered (t : Target) {name : List Char} (h : AllNameChars name) (n : Nat) :
    t.methodKey (numbered name n) = numbered (t.methodKey name) n := by
  have hrepr : ∀ c ∈ (Nat.repr n).toList, c.toNat < 0x80 := fun c hc => toNat_lt_of_mem_repr hc
  unfold numbered
  rw [methodKey_append t h.ascii hrepr, methodKey_repr]

theorem methodKey_numbered_inj (t : Target) {name : List Char} (h : AllNameChars name) (m n : Nat)
    (heq : t.methodKey (numbered name m) = t.methodKey (numbered name n)) : m = n := by
  rw [methodKey_numbered t h, methodKey_numbered t h] at heq
  exact numbered_inj heq

/-! ## Words that are taken -/

/-- A taken word never ends with an underscore. One that ends with a digit is one of Go, and starts with a
small letter. -/
theorem blockedKeys_ends (t : Target) : ∀ k ∈ t.blockedKeys, k.getLast? ≠ some '_' ∧
    (k.getLast?.any Char.isDigit → t = .go ∧ k.head?.any Char.isLower) := by
  cases t <;> decide +kernel

theorem methodKey_underscored (t : Target) {s : List Char} (h : AllNameChars s) :
    (t.methodKey (s ++ ['_'])).getLast? = some '_' := by
  rw [methodKey_append t h.ascii (List.forall_mem_singleton.2 (by decide))]
  cases t <;> simp [Target.methodKey, Text.lower, Text.lowerAfter, Text.lowerChar]

theorem methodKey_methodName_not_blocked (t : Target) (s : List Char) :
    t.methodKey (t.methodName s) ∉ t.blockedKeys := by
  rw [methodName_eq]
  split
  · intro hmem
    exact (blockedKeys_ends t _ hmem).1 (methodKey_underscored t (allNameChars_methodCase t s))
  · rename_i h
    simpa using h

/-- In Go a method starts with no small letter. -/
theorem go_methodName_head (s : List Char) :
    ¬ (Target.go.methodName s).head?.any Char.isLower := by
  have hcap : ∀ w : List Char, ¬ (capitalize w).head?.any Char.isLower := by
    intro w
    cases w with
    | nil => simp [capitalize]
    | cons c w => exact Bool.eq_false_iff.1 (isLower_toUpper c)
  have hcase : Target.go.methodCase s = capitalize (camel s) := rfl
  rw [methodName_eq, hcase]
  split
  · cases hcs : capitalize (camel s) with
    | nil => simp
    | cons c w =>
      have := hcap (camel s)
      rw [hcs] at this
      simpa using this
  · exact hcap (camel s)

/-- A number does not turn a method name into a word that is taken. -/
theorem methodKey_numbered_not_blocked (t : Target) (s : List Char) (n : Nat) (hne : t.methodName s ≠ []) :
    t.methodKey (numbered (t.methodName s) n) ∉ t.blockedKeys := by
  intro hmem
  -- A name with a number is not compared with the words that are taken, so their own letters have to tell
  -- them apart from it.
  have hlast : (t.methodKey (numbered (t.methodName s) n)).getLast?.any Char.isDigit := by
    rw [methodKey_numbered t (allNameChars_methodName t s), numbered,
      List.getLast?_append_of_ne_nil _ (repr_toList_ne_nil n),
      List.getLast?_eq_some_getLast (repr_toList_ne_nil n), Option.any_some]
    exact isDigit_of_mem_repr (List.getLast_mem _)
  obtain ⟨rfl, hhead⟩ := (blockedKeys_ends t _ hmem).2 hlast
  refine go_methodName_head s ?_
  obtain ⟨c, w, hcw⟩ := List.exists_cons_of_ne_nil hne
  simp only [Target.methodKey, numbered] at hhead
  rw [hcw] at hhead ⊢
  simpa using hhead

/-! ## The base of a name -/

theorem join_ne_nil (sep : List Char) {w : List Char} (hw : w ≠ []) (ws : List (List Char)) :
    Text.join sep (w :: ws) ≠ [] := by
  cases ws <;> simp [Text.join, hw]

theorem methodCase_ne_nil (t : Target) {s : List Char} (h : words s ≠ []) : t.methodCase s ≠ [] := by
  obtain ⟨w, ws, hs⟩ := List.exists_cons_of_ne_nil h
  have hw : w ≠ [] := (wordsOk_words s w (by rw [hs]; exact List.mem_cons_self)).1
  have hcamel : camel s ≠ [] := by
    simp [camel, hs, headWord_ne_nil hw]
  cases t with
  | python =>
    have hlower : lowerWord w ≠ [] := by simpa [lowerWord] using hw
    simp only [Target.methodCase, snake, hs, List.map_cons]
    exact join_ne_nil _ hlower _
  | go =>
    obtain ⟨c, u, hu⟩ := List.exists_cons_of_ne_nil hcamel
    simp [Target.methodCase, pascal, hu, capitalize]
  | node => exact hcamel
  | java => exact hcamel
  | php => exact hcamel

/-- An endpoint asks for a name that some text gives, and not for an empty one. -/
theorem baseName_eq (t : Target) (e : Endpoint) :
    ∃ s, e.baseName t = t.methodName s ∧ t.methodName s ≠ [] := by
  unfold Endpoint.baseName
  split
  · refine ⟨_, rfl, ?_⟩
    obtain ⟨c, w, hs, hc, -⟩ := lowerCamel_derivedIdentifier e.method e.path.toList
    have hcase := methodCase_ne_nil t (words_ne_nil (isAlphanum_of_isLower hc) w)
    rw [hs, methodName_eq]
    split <;> simp [hcase]
  · rename_i name hne
    exact ⟨_, rfl, hne⟩

theorem allNameChars_baseName (t : Target) (e : Endpoint) : AllNameChars (e.baseName t) := by
  obtain ⟨s, hs, -⟩ := baseName_eq t e
  rw [hs]
  exact allNameChars_methodName t s

/-! ## Names one by one -/

/-- The name for a base, after methods whose keys are `earlier`: the base itself, if its key is new,
or else the base with the least number from two on that makes it so. -/
def NamedAfter (t : Target) (earlier : List (List Char)) (base name : List Char) : Prop :=
  (t.methodKey base ∉ earlier ∧ name = base) ∨
    (t.methodKey base ∈ earlier ∧ ∃ n, name = numbered base n ∧
      IsLeastFree (fun s => earlier.contains (t.methodKey s)) base 2 n)

theorem freshMethod_named (t : Target) (earlier : List (List Char)) {base : List Char} (h : AllNameChars base) :
    NamedAfter t earlier base (freshMethod t earlier base) := by
  unfold freshMethod
  by_cases hmem : t.methodKey base ∈ earlier
  · right
    refine ⟨hmem, _, ?_, freeNumber_least t.methodKey earlier base 2 (methodKey_numbered_inj t h)⟩
    simp [hmem]
  · left
    refine ⟨hmem, ?_⟩
    simp [hmem]

theorem NamedAfter.key_not_mem {t : Target} {earlier : List (List Char)} {base name : List Char}
    (h : NamedAfter t earlier base name) : t.methodKey name ∉ earlier := by
  rcases h with ⟨hnew, rfl⟩ | ⟨-, n, rfl, hleast⟩
  · exact hnew
  · simpa using hleast.free

theorem NamedAfter.not_blocked {t : Target} {earlier : List (List Char)} {e : Endpoint} {name : List Char}
    (h : NamedAfter t earlier (e.baseName t) name) : t.methodKey name ∉ t.blockedKeys := by
  obtain ⟨s, hs, hne⟩ := baseName_eq t e
  rw [hs] at h
  rcases h with ⟨-, rfl⟩ | ⟨-, n, rfl, -⟩
  · exact methodKey_methodName_not_blocked t s
  · exact methodKey_numbered_not_blocked t s n hne

/-! ## The names of a client -/

theorem length_methodNames (t : Target) (taken : List (List Char)) (es : List Endpoint) :
    (methodNames t taken es).length = es.length := by
  induction es generalizing taken with
  | nil => rfl
  | cons e es ih => simp [methodNames, ih]

/-- Each name is one that an endpoint asks for, perhaps with a number. -/
theorem mem_methodNames {t : Target} {taken : List (List Char)} {es : List Endpoint} {name : List Char}
    (h : name ∈ methodNames t taken es) :
    ∃ e ∈ es, name = e.baseName t ∨ ∃ n, name = numbered (e.baseName t) n := by
  induction es generalizing taken with
  | nil => cases h
  | cons e es ih =>
    rcases List.mem_cons.1 h with rfl | h
    · refine ⟨e, List.mem_cons_self, ?_⟩
      rcases freshMethod_named t taken (allNameChars_baseName t e) with ⟨-, hname⟩ | ⟨-, n, hname, -⟩
      · exact Or.inl hname
      · exact Or.inr ⟨n, hname⟩
    · obtain ⟨f, hf, hname⟩ := ih h
      exact ⟨f, List.mem_cons_of_mem e hf, hname⟩

/-- The name that an endpoint asks for is given to a method, but for its case, or was taken before. -/
theorem key_baseName_mem {t : Target} (taken : List (List Char)) {es : List Endpoint} {e : Endpoint} (h : e ∈ es) :
    t.methodKey (e.baseName t) ∈ taken ++ (methodNames t taken es).map t.methodKey := by
  induction es generalizing taken with
  | nil => cases h
  | cons f es ih =>
    rw [methodNames, List.map_cons, List.mem_append, List.mem_cons]
    rcases List.mem_cons.1 h with rfl | h
    · rcases freshMethod_named t taken (allNameChars_baseName t e) with ⟨-, hname⟩ | ⟨hmem, -⟩
      · exact Or.inr (Or.inl (congrArg t.methodKey hname.symm))
      · exact Or.inl hmem
    · have hmem := ih (t.methodKey (freshMethod t taken (f.baseName t)) :: taken) h
      rw [List.cons_append, List.mem_cons, List.mem_append] at hmem
      exact or_left_comm.1 hmem

/-- Whatever follows, the first names stay the same. -/
theorem methodNames_take (t : Target) (taken : List (List Char)) (es : List Endpoint) (k : Nat) :
    methodNames t taken (es.take k) = (methodNames t taken es).take k := by
  induction es generalizing taken k with
  | nil => simp [methodNames]
  | cons e es ih =>
    cases k with
    | zero => simp [methodNames]
    | succ k => simp [methodNames, ih]

/-- Keys are taken in any order. -/
theorem NamedAfter.congr {t : Target} {earlier earlier' : List (List Char)} {base name : List Char}
    (hmem : ∀ s, s ∈ earlier ↔ s ∈ earlier') (h : NamedAfter t earlier base name) :
    NamedAfter t earlier' base name := by
  have hcontains : ∀ s, earlier.contains s = earlier'.contains s := by
    intro s
    rw [Bool.eq_iff_iff, List.contains_iff_mem, List.contains_iff_mem]
    exact hmem s
  unfold NamedAfter at h ⊢
  simpa only [hmem, hcontains] using h

/-- Each name is given after the keys of those before it, and of those that were taken at the start. -/
theorem methodNames_named (t : Target) (taken : List (List Char)) (es : List Endpoint) (i : Nat)
    (e : Endpoint) (name : List Char) (he : es[i]? = some e) (hn : (methodNames t taken es)[i]? = some name) :
    NamedAfter t (taken ++ ((methodNames t taken es).take i).map t.methodKey) (e.baseName t) name := by
  induction es generalizing taken i with
  | nil => simp at he
  | cons f es ih =>
    cases i with
    | zero =>
      simp only [methodNames, List.getElem?_cons_zero, Option.some.injEq] at he hn
      subst he hn
      simpa using freshMethod_named t taken (allNameChars_baseName t f)
    | succ i =>
      simp only [methodNames, List.getElem?_cons_succ] at he hn
      refine (ih _ i he hn).congr fun s => ?_
      simp only [methodNames, List.take_succ_cons, List.map_cons, List.cons_append, List.mem_cons,
        List.mem_append]
      exact or_left_comm

/-- All keys are different, and none was taken at the start. -/
theorem nodup_methodNames (t : Target) (taken : List (List Char)) (es : List Endpoint) :
    ((methodNames t taken es).map t.methodKey).Nodup ∧
      ∀ k ∈ (methodNames t taken es).map t.methodKey, k ∉ taken := by
  induction es generalizing taken with
  | nil => simp [methodNames]
  | cons e es ih =>
    have hnew := (freshMethod_named t taken (allNameChars_baseName t e)).key_not_mem
    exact nodup_cons_of_apart hnew (ih (t.methodKey (freshMethod t taken (e.baseName t)) :: taken))

/-! ## The plan of a client -/

/-- What makes the name of a method the same as another. -/
def MethodPlan.key (t : Target) (m : MethodPlan) : List Char := t.methodKey m.name.toList

theorem map_name_methods (t : Target) (api : Api) :
    (ClientPlan.ofApi t api).methods.map (·.name.toList) = methodNames t [] api.endpoints := by
  have hlen := length_methodNames t [] api.endpoints
  calc (ClientPlan.ofApi t api).methods.map (·.name.toList)
      = (methodNames t [] api.endpoints).zipWith (fun name _ => name) api.endpoints := by
        simp [ClientPlan.ofApi, MethodPlan.ofEndpoint, List.map_zipWith]
    _ = ((methodNames t [] api.endpoints).zip api.endpoints).map Prod.fst := by
        rw [List.map_zip_eq_zipWith]; rfl
    _ = methodNames t [] api.endpoints := List.map_fst_zip (Nat.le_of_eq hlen)

theorem map_route_methods (t : Target) (api : Api) :
    (ClientPlan.ofApi t api).methods.map (fun m => (m.verb, m.path)) =
      api.endpoints.map fun e => (e.method, e.path) := by
  have hlen := length_methodNames t [] api.endpoints
  calc (ClientPlan.ofApi t api).methods.map (fun m => (m.verb, m.path))
      = (methodNames t [] api.endpoints).zipWith (fun _ e => (e.method, e.path)) api.endpoints := by
        simp [ClientPlan.ofApi, MethodPlan.ofEndpoint, List.map_zipWith]
    _ = ((methodNames t [] api.endpoints).zip api.endpoints).map (fun p => (p.2.method, p.2.path)) := by
        rw [List.map_zip_eq_zipWith]; rfl
    _ = (((methodNames t [] api.endpoints).zip api.endpoints).map Prod.snd).map
          (fun e => (e.method, e.path)) := by rw [List.map_map]; rfl
    _ = api.endpoints.map fun e => (e.method, e.path) := by
        rw [List.map_snd_zip (Nat.le_of_eq hlen.symm)]

theorem map_key_methods (t : Target) (api : Api) :
    (ClientPlan.ofApi t api).methods.map (MethodPlan.key t) =
      (methodNames t [] api.endpoints).map t.methodKey := by
  rw [← map_name_methods, List.map_map]
  rfl

/-- A client has one method for each endpoint, in the same order and with its verb and path. The keys
of their names are all different, and none is that of a word that the language or the client takes.
Each name is given after those before it, so the first names depend on the first endpoints only. -/
theorem methods_ofApi (t : Target) (api : Api) :
    (ClientPlan.ofApi t api).methods.map (fun m => (m.verb, m.path)) =
        api.endpoints.map (fun e => (e.method, e.path)) ∧
      ((ClientPlan.ofApi t api).methods.map (MethodPlan.key t)).Nodup ∧
      (∀ m ∈ (ClientPlan.ofApi t api).methods, ∀ w ∈ t.reserved ++ t.members,
        m.key t ≠ t.methodKey w.toList) ∧
      (∀ i e m, api.endpoints[i]? = some e → (ClientPlan.ofApi t api).methods[i]? = some m →
        NamedAfter t (((ClientPlan.ofApi t api).methods.take i).map (MethodPlan.key t)) (e.baseName t)
          m.name.toList) ∧
      (∀ (other : Api) k, other.endpoints.take k = api.endpoints.take k →
        ((ClientPlan.ofApi t other).methods.take k).map (·.name) =
          ((ClientPlan.ofApi t api).methods.take k).map (·.name)) := by
  have hnames := map_name_methods t api
  have hkeys := map_key_methods t api
  have hnamed : ∀ i e m, api.endpoints[i]? = some e → (ClientPlan.ofApi t api).methods[i]? = some m →
      NamedAfter t (((ClientPlan.ofApi t api).methods.take i).map (MethodPlan.key t)) (e.baseName t)
        m.name.toList := by
    intro i e m he hm
    have hn : (methodNames t [] api.endpoints)[i]? = some m.name.toList := by
      rw [← hnames, List.getElem?_map, hm]
      rfl
    have h := methodNames_named t [] api.endpoints i e m.name.toList he hn
    rwa [List.nil_append, List.map_take, ← hkeys, ← List.map_take] at h
  refine ⟨map_route_methods t api, ?_, ?_, hnamed, ?_⟩
  · rw [hkeys]
    exact (nodup_methodNames t [] api.endpoints).1
  · intro m hm w hw heq
    obtain ⟨i, hi⟩ := List.mem_iff_getElem?.1 hm
    have hlen : i < api.endpoints.length := by
      have h := congrArg List.length (map_route_methods t api)
      have h' := (List.getElem?_eq_some_iff.1 hi).1
      simp only [List.length_map] at h
      omega
    have h := hnamed i _ m (List.getElem?_eq_getElem hlen) hi
    exact h.not_blocked (List.mem_map.2 ⟨w, hw, heq.symm⟩)
  · intro other k hk
    have h : ∀ a : Api, ((ClientPlan.ofApi t a).methods.take k).map (·.name.toList) =
        methodNames t [] (a.endpoints.take k) := by
      intro a
      rw [methodNames_take, ← map_name_methods, List.map_take]
    have hlists := (h other).trans ((congrArg _ hk).trans (h api).symm)
    have hofList := congrArg (List.map String.ofList) hlists
    simpa only [List.map_map, Function.comp_def, String.ofList_toList] using hofList

end ClientForge
