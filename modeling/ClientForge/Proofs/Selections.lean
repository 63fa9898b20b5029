import ClientForge.Proofs.Documents
import ClientForge.Proofs.OneLine
import ClientForge.Selection

/-!
What a single pattern selects. A pattern is trimmed and cut at its last space, and what stands before the cut is
the verb. So a pattern made of an endpoint's path, perhaps after its verb, selects the endpoints like it exactly if
the path has no space and ends with no blank (`selectEndpoints_exact_iff`).
-/

namespace ClientForge

/-! ## Plain globs -/

theorem CharSet.has_single (c d : Char) : (CharSet.single c).has d = decide (d = c) := by
  have hbetween : (c ≤ d && d ≤ c) = decide (d = c) := by
    rw [← Bool.decide_and, decide_eq_decide]
    constructor
    · rintro ⟨hlow, hhigh⟩
      exact Char.le_antisymm hhigh hlow
    · rintro rfl
      exact ⟨Char.le_refl d, Char.le_refl d⟩
  simp [CharSet.has, CharSet.single, hbetween]

namespace Glob

/-- No character stands for others. -/
def Plain (s : List Char) : Prop := ∀ c ∈ s, c ≠ '*' ∧ c ≠ '?' ∧ c ≠ '['

theorem itemsFrom_plain {s : List Char} (h : Plain s) : itemsFrom 0 s = s.map fun c => .one (.single c) := by
  induction s with
  | nil => rfl
  | cons c s ih =>
    obtain ⟨⟨hrun, hone, hset⟩, hs⟩ := List.forall_mem_cons.1 h
    simp [itemsFrom, hrun, hone, hset, ih hs]

/-- A plain glob matches its own text only. -/
theorem accepts_plain {s : List Char} (h : Plain s) (t : List Char) : accepts (itemsFrom 0 s) t = decide (t = s) := by
  rw [itemsFrom_plain h]
  clear h
  induction s generalizing t with
  | nil => cases t <;> simp
  | cons c s ih => cases t <;> simp [CharSet.has_single, ih]

end Glob

/-! ## Cutting and trimming -/

namespace Text

theorem cutLast_append {c : Char} {after : List Char} (h : c ∉ after) (before : List Char) :
    cutLast c (before ++ c :: after) = (before, after) := by
  have hrev : (before ++ c :: after).reverse = after.reverse ++ c :: before.reverse := by simp
  have hafter : (after.reverse ++ c :: before.reverse).takeWhile (· != c) = after.reverse :=
    upTo_append_cons (by simpa using h) _
  have hlength : (before ++ c :: after).length - after.length - 1 = before.length := by
    simp only [List.length_append, List.length_cons]
    omega
  simp only [cutLast, hrev, hafter, List.reverse_reverse, hlength, List.take_left]

theorem cutLast_of_not_mem {c : Char} {s : List Char} (h : c ∉ s) : cutLast c s = ([], s) := by
  have hall : s.reverse.takeWhile (· != c) = s.reverse := upTo_of_not_mem (by simpa using h)
  simp [cutLast, hall]

theorem exists_last {c : Char} {s : List Char} (h : c ∈ s) : ∃ before after, s = before ++ c :: after ∧ c ∉ after := by
  obtain ⟨after, before, hs, hafter⟩ := List.eq_append_cons_of_mem (List.mem_reverse.2 h)
  refine ⟨before.reverse, after.reverse, ?_, by simpa using hafter⟩
  rw [← List.reverse_reverse s, hs]
  simp

theorem trim_eq_trimRight {s : List Char} (h : ∀ c, s.head? = some c → isBlank c = false) : trim s = trimRight s := by
  rw [trim, stripBy, dropWhile_eq_self h]
  rfl

theorem trimRight_append {t : List Char} (ht : trimRight t ≠ []) (s : List Char) :
    trimRight (s ++ t) = s ++ trimRight t := by
  unfold trimRight stripRightBy at ht ⊢
  have hne : t.reverse.dropWhile isBlank ≠ [] := by simpa using ht
  rw [List.reverse_append, List.dropWhile_append, if_neg (by simpa using hne), List.reverse_append,
    List.reverse_reverse]

theorem mem_dropWhile {p : Char → Bool} {s : List Char} {c : Char} (hmem : c ∈ s) (hc : p c = false) :
    c ∈ s.dropWhile p := by
  rw [← List.takeWhile_append_dropWhile (p := p) (l := s)] at hmem
  refine (List.mem_append.1 hmem).resolve_left fun hin => ?_
  rw [List.mem_takeWhile_imp hin] at hc
  cases hc

/-- What is trimmed keeps all other characters. -/
theorem mem_stripBy {p : Char → Bool} {s : List Char} {c : Char} (hmem : c ∈ s) (hc : p c = false) :
    c ∈ stripBy p s :=
  List.mem_reverse.2 (mem_dropWhile (List.mem_reverse.2 (mem_dropWhile hmem hc)) hc)

theorem upperChar_of_isBlank {c : Char} (h : isBlank c = true) : upperChar c = [c] := by
  let blanks := List.range' 0x9 5 ++ List.range' 0x1C 5 ++ List.range' 0x2000 11 ++
    [0x85, 0xA0, 0x1680, 0x2028, 0x2029, 0x202F, 0x205F, 0x3000]
  have hblank : c.toNat ∈ blanks := by
    simp only [isBlank, Bool.or_eq_true, Bool.and_eq_true, decide_eq_true_eq, beq_iff_eq] at h
    simp only [blanks, List.mem_append, List.mem_range'_1, List.mem_cons, List.not_mem_nil, or_false]
    omega
  have hall : ∀ n ∈ blanks, upperChar (Char.ofNat n) = [Char.ofNat n] := by decide +kernel
  have hupper := hall c.toNat hblank
  rwa [Char.ofNat_toNat] at hupper

/-- A path keeps the slash it starts with. -/
theorem exists_trimRight_slash (rest : List Char) : ∃ q, trimRight ('/' :: rest) = '/' :: q := by
  have hmem : '/' ∈ trimRight ('/' :: rest) :=
    List.mem_reverse.2 (mem_dropWhile (List.mem_reverse.2 List.mem_cons_self) (by decide))
  have hprefix : trimRight ('/' :: rest) <+: '/' :: rest := prefix_stripRightBy _ _
  cases htrim : trimRight ('/' :: rest) with
  | nil =>
    rw [htrim] at hmem
    cases hmem
  | cons c q =>
    rw [htrim] at hprefix
    exact ⟨q, by rw [(List.cons_prefix_cons.1 hprefix).1]⟩

end Text

/-! ## Patterns -/

namespace EndpointPattern

open Text

theorem fits_iff {s : String} {verb path : List Char} (hcut : cutLast ' ' (trim s.toList) = (verb, path))
    (hplain : Glob.Plain path) (e : Endpoint) : (ofText s).fits e = true ↔
      (upper (trim verb) = [] ∨ upper (trim verb) = e.method.name.toList) ∧ e.path.toList = path := by
  simp [ofText, fits, hcut, Glob.accepts_plain hplain]

/-- No verb has a slash. -/
theorem not_fits_of_slash {s : String} {verb path : List Char} (hcut : cutLast ' ' (trim s.toList) = (verb, path))
    (hslash : '/' ∈ verb) (e : Endpoint) : (ofText s).fits e = false := by
  have hmem : '/' ∈ upper (trim verb) :=
    List.mem_flatMap.2 ⟨'/', mem_stripBy hslash (by decide), by decide⟩
  have hne : upper (trim verb) ≠ [] := List.ne_nil_of_mem hmem
  have hname : upper (trim verb) ≠ e.method.name.toList := by
    intro heq
    rw [heq] at hmem
    revert hmem
    cases e.method <;> decide +kernel
  simp [ofText, fits, hcut, hne, hname]

/-- What a pattern has before its path: nothing, or a verb and a space. -/
inductive Opens : List Char → List Char → Prop
  | bare : Opens [] []
  | verb {v : List Char} (hne : v ≠ []) (hblank : ∀ c ∈ v, isBlank c = false) : Opens v (v ++ [' '])

/-- A path that trimming and cutting leave whole. -/
def StaysWhole (path : List Char) : Prop := ' ' ∉ path ∧ ∀ c, path.getLast? = some c → isBlank c = false

variable {verb opening rest : List Char} {s : String}

theorem Opens.trim_eq (h : Opens verb opening) (hs : s.toList = opening ++ '/' :: rest) :
    trim s.toList = opening ++ trimRight ('/' :: rest) := by
  obtain ⟨q, hq⟩ := exists_trimRight_slash rest
  rw [hs, trim_eq_trimRight, trimRight_append (by simp [hq])]
  intro c hc
  cases h with
  | bare =>
    obtain rfl : '/' = c := Option.some.inj hc
    decide
  | verb hne hblank =>
    rw [List.append_assoc, List.head?_append_of_ne_nil _ hne] at hc
    exact hblank c (List.mem_of_head? hc)

theorem Opens.cut (h : Opens verb opening) {q : List Char} (hq : ' ' ∉ q) :
    cutLast ' ' (opening ++ q) = (verb, q) := by
  cases h with
  | bare => exact cutLast_of_not_mem hq
  | verb hne hblank =>
    rw [List.append_assoc]
    exact cutLast_append hq verb

/-- A pattern whose path has a space within selects nothing. -/
theorem Opens.not_fits (h : Opens verb opening) (hs : s.toList = opening ++ '/' :: rest)
    (hspace : ' ' ∈ trimRight ('/' :: rest)) (e : Endpoint) : (ofText s).fits e = false := by
  obtain ⟨q, hq⟩ := exists_trimRight_slash rest
  obtain ⟨before, after, hcut, hafter⟩ := exists_last hspace
  have hslash : '/' ∈ before := by
    rw [hq] at hcut
    cases before with
    | nil => cases hcut
    | cons c before => exact (List.cons.inj hcut).1 ▸ List.mem_cons_self
  have hpattern : cutLast ' ' (trim s.toList) = (opening ++ before, after) := by
    rw [h.trim_eq hs, hcut, ← List.append_assoc]
    exact cutLast_append hafter (opening ++ before)
  exact not_fits_of_slash hpattern (List.mem_append_right opening hslash) e

theorem Opens.trim_verb (h : Opens verb opening) : trim verb = verb := by
  cases h with
  | bare => rfl
  | verb hne hblank =>
    exact stripBy_eq_self (fun c hc => hblank c (List.mem_of_head? hc)) fun c hc => hblank c (List.mem_of_getLast? hc)

theorem Opens.fits_iff (h : Opens verb opening) (hs : s.toList = opening ++ '/' :: rest)
    (hplain : Glob.Plain ('/' :: rest)) (hspace : ' ' ∉ trimRight ('/' :: rest)) (e : Endpoint) :
    (ofText s).fits e = true ↔
      (upper verb = [] ∨ upper verb = e.method.name.toList) ∧ e.path.toList = trimRight ('/' :: rest) := by
  have hcut : cutLast ' ' (trim s.toList) = (verb, trimRight ('/' :: rest)) := by
    rw [h.trim_eq hs]
    exact h.cut hspace
  have hkept : Glob.Plain (trimRight ('/' :: rest)) := fun c hc => hplain c ((prefix_stripRightBy _ _).subset hc)
  rw [EndpointPattern.fits_iff hcut hkept, h.trim_verb]

/-- A pattern for the path of an endpoint selects all endpoints of this path, and of the verb if there is one,
exactly if the path stays whole. -/
theorem Opens.selects_iff (h : Opens verb opening) {e : Endpoint} {es : List Endpoint} (he : e ∈ es)
    (hs : s.toList = opening ++ e.path.toList) (hroot : e.path.toList = '/' :: rest) (hplain : Glob.Plain e.path.toList)
    (hverb : upper verb = [] ∨ upper verb = e.method.name.toList) :
    selectEndpoints [s] es =
        es.filter (fun d => (upper verb = [] ∨ upper verb = d.method.name.toList) ∧ d.path = e.path) ↔
      StaysWhole e.path.toList := by
  have hselect : selectEndpoints [s] es = es.filter (ofText s).fits := by simp [selectEndpoints]
  rw [hroot] at hs hplain
  rw [hselect]
  constructor
  · intro hsame
    have hmem : e ∈ es.filter (ofText s).fits := by
      rw [hsame]
      exact List.mem_filter.2 ⟨he, by simpa using hverb⟩
    have hfits := (List.mem_filter.1 hmem).2
    by_cases hspace : ' ' ∈ trimRight ('/' :: rest)
    · rw [h.not_fits hs hspace] at hfits
      cases hfits
    · have hpath := ((h.fits_iff hs hplain hspace e).1 hfits).2
      rw [hpath]
      exact ⟨hspace, fun c hc => Bool.eq_false_iff.2 fun hblank => getLast?_stripRightBy_ne hblank _ hc⟩
  · intro hwhole
    have htrim : trimRight ('/' :: rest) = e.path.toList := by
      rw [← hroot]
      exact stripRightBy_eq_self hwhole.2
    have hspace : ' ' ∉ trimRight ('/' :: rest) := htrim ▸ hwhole.1
    refine List.filter_congr fun d _ => ?_
    rw [Bool.eq_iff_iff, h.fits_iff hs hplain hspace, htrim, String.toList_inj]
    simp

end EndpointPattern

theorem isBlank_name (m : Method) : ∀ c ∈ m.name.toList, Text.isBlank c = false := by
  cases m <;> simp [Method.name, Text.isBlank]

open EndpointPattern in
/-- What is a verb but for case has no blanks. -/
theorem opens_verb {verb : String} {m : Method} (h : Text.upper verb.toList = m.name.toList) :
    Opens verb.toList (verb.toList ++ [' ']) := by
  refine .verb (fun hnil => ?_) (fun c hc => Bool.eq_false_iff.2 fun hblank => ?_)
  · rw [hnil] at h
    cases m <;> cases h
  · have hmem : c ∈ m.name.toList := by
      rw [← h]
      exact List.mem_flatMap.2 ⟨c, hc, by simp [Text.upperChar_of_isBlank hblank]⟩
    rw [isBlank_name m c hmem] at hblank
    cases hblank

open EndpointPattern in
/-- The pattern of an endpoint's verb in any case, a space and its path selects the endpoints of the same verb and
path, and that of its path alone those of the same path, exactly if the path has no space and ends with no blank. -/
theorem selectEndpoints_exact_iff {es : List Endpoint} {e : Endpoint} (he : e ∈ es)
    (hroot : e.path.startsWith "/" = true) (hplain : Glob.Plain e.path.toList) {verb : String}
    (hverb : verb.uppered = e.method.name) :
    (selectEndpoints [verb ++ " " ++ e.path] es = es.filter (fun d => d.method = e.method ∧ d.path = e.path) ↔
      StaysWhole e.path.toList) ∧
    (selectEndpoints [e.path] es = es.filter (fun d => d.path = e.path) ↔ StaysWhole e.path.toList) := by
  obtain ⟨rest, hrest⟩ := String.startsWith_string_iff.1 hroot
  have hslash : e.path.toList = '/' :: rest := hrest.symm
  constructor
  · have hupper : Text.upper verb.toList = e.method.name.toList := by
      rw [← hverb, String.uppered, String.toList_ofList]
    have hpattern : (verb ++ " " ++ e.path).toList = verb.toList ++ [' '] ++ e.path.toList := by simp
    have hsame : es.filter (fun d => d.method = e.method ∧ d.path = e.path) =
        es.filter (fun d => (Text.upper verb.toList = [] ∨ Text.upper verb.toList = d.method.name.toList) ∧
          d.path = e.path) := by
      refine List.filter_congr fun d _ => decide_eq_decide.2 (and_congr_left' ?_)
      rw [hupper, String.toList_inj]
      constructor
      · intro h
        exact Or.inr (congrArg Method.name h.symm)
      · rintro (hnil | hname)
        · cases hm : e.method <;> simp [hm, Method.name] at hnil
        · exact (name_inj hname).symm
    rw [hsame]
    exact (opens_verb hupper).selects_iff he hpattern hslash hplain (Or.inr hupper)
  · have hbare := Opens.bare.selects_iff he (s := e.path) rfl hslash hplain (Or.inl rfl)
    simpa [Text.upper] using hbare

/-- The endpoint of a verb and a path, with nothing else. -/
def bareEndpoint (method : Method) (path : String) : Endpoint :=
  { method, path, operationId := "call" }

def petEndpoints : List Endpoint := [bareEndpoint .get "/pets", bareEndpoint .post "/pets", bareEndpoint .get "/users"]

theorem selectEndpoints_exact_petEndpoints :
    selectEndpoints ["get /pets"] petEndpoints = [bareEndpoint .get "/pets"] ∧
    selectEndpoints ["/pets"] petEndpoints = [bareEndpoint .get "/pets", bareEndpoint .post "/pets"] := by
  have he : bareEndpoint .get "/pets" ∈ petEndpoints := List.mem_cons_self
  have hplain : Glob.Plain "/pets".toList := by simp [Glob.Plain]
  have hwhole : EndpointPattern.StaysWhole "/pets".toList := ⟨by decide +kernel, by simp [Text.isBlank]⟩
  have hcase : "get".uppered = Method.get.name := by decide +kernel
  obtain ⟨hverb, hbare⟩ := selectEndpoints_exact_iff he (by decide +kernel) hplain hcase
  exact ⟨(hverb.2 hwhole).trans (by simp [petEndpoints, bareEndpoint]),
    (hbare.2 hwhole).trans (by simp [petEndpoints, bareEndpoint])⟩

/-- A path with a space is not selected by its own pattern, nor by that for it alone. -/
theorem selectEndpoints_not_exact : Glob.Plain "/a b".toList ∧ "/a b".startsWith "/" = true ∧
    "GET".uppered = Method.get.name ∧ selectEndpoints ["GET /a b"] [bareEndpoint .get "/a b"] = [] ∧
    selectEndpoints ["/a b"] [bareEndpoint .get "/a b"] = [] :=
  ⟨by simp [Glob.Plain], by decide +kernel, by decide +kernel, by decide +kernel, by decide +kernel⟩

end ClientForge
