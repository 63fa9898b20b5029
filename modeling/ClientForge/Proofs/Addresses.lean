import ClientForge.Postman.Path
import ClientForge.Proofs.OneLine
import ClientForge.Proofs.Pages.Reading

/-!
The ways of writing the address of a request. A path is the same if it is written as its segments, as their
text, or within an address after a variable or a host, with or without a query (`path_of_writes`).
-/

namespace ClientForge.Postman

open Text (braced)

/-! ## Segments -/

/-- The text that a segment is written as, without blanks around it. -/
def written (v : Value) : List Char :=
  let v :=
    match v with
    | .map es => (Entries.get es "value").orElse (.text "")
    | v => v
  Text.trim v.display.toList

/-- A variable between double braces. -/
def referenceText (name : List Char) : List Char := '\x7b' :: braced name ++ ['\x7d']

/-- How segments stand in the path: the name after a colon and that of a variable between braces, all else as
it is written. -/
inductive Placed : List Char → List Char → Prop
  | named {name : List Char} (hne : name ≠ []) : Placed (':' :: name) (braced name)
  | reference {name : List Char} (hne : name ≠ []) (hname : '\x7d' ∉ name) : Placed (referenceText name) (braced name)
  | plain {s : List Char} (hnamed : ∀ name, s = ':' :: name → name = [])
      (hreference : ∀ name, s = referenceText name → name = [] ∨ '\x7d' ∈ name) : Placed s s

/-- A segment without blanks and without signs that end it. -/
structure IsSegment (s : List Char) : Prop where
  ne_nil : s ≠ []
  chars : ∀ c ∈ s, 0x20 < c.toNat ∧ c.toNat < 0x7F ∧ c ≠ '/' ∧ c ≠ '?' ∧ c ≠ '#'

/-- The name that a variable is given by what stands between its braces: blanks around it do not count. -/
def spoken (inner : List Char) : List Char :=
  if inner.all Text.isBlank then inner.getLast?.toList else Text.trim inner

theorem variableName?_referenceText {inner : List Char} (hne : inner ≠ []) (h : '\x7d' ∉ inner) :
    variableName? (referenceText inner) = some (spoken inner) := by
  have hlast := List.getLast?_eq_some_getLast hne
  have htake : (inner ++ ['\x7d', '\x7d']).takeWhile (· != '\x7d') = inner := Text.upTo_append_cons h _
  have hopen : Text.after? ['\x7b', '\x7b'] (referenceText inner) = some (inner ++ ['\x7d', '\x7d']) :=
    Text.after?_eq_some_iff.2 (by simp [referenceText, braced])
  unfold variableName? spoken
  rw [hopen]
  simp only [Option.bind_eq_bind, Option.bind_some, htake, hlast, List.drop_left, bne_self_eq_false,
    Bool.false_eq_true, if_false, Option.toList_some]
  split <;> rfl

/-- Nothing else than variables between double braces has the name of one. -/
theorem exists_referenceText {s name : List Char} (h : variableName? s = some name) :
    ∃ inner, inner ≠ [] ∧ '\x7d' ∉ inner ∧ s = referenceText inner := by
  unfold variableName? at h
  obtain ⟨rest, hopen, hrest⟩ := Option.bind_eq_some_iff.1 h
  obtain ⟨last, hlast, hclosed⟩ := Option.bind_eq_some_iff.1 hrest
  obtain ⟨tail, htail⟩ := List.takeWhile_prefix (· != '\x7d') (l := rest)
  split at hclosed
  · cases hclosed
  · rename_i hclose
    refine ⟨rest.takeWhile (· != '\x7d'), ?_, ?_, ?_⟩
    · intro hnil
      rw [hnil] at hlast
      cases hlast
    · intro hmem
      simpa using List.mem_takeWhile_imp hmem
    · rw [Text.after?_eq_some_iff.1 hopen]
      generalize rest.takeWhile (· != '\x7d') = inner at hclose htail ⊢
      subst htail
      obtain rfl : tail = ['\x7d', '\x7d'] := by simpa using hclose
      simp [referenceText, braced]

/-- The text of a segment as it stands in the path. -/
def placed (s : List Char) : List Char :=
  match s with
  | ':' :: c :: name => braced (c :: name)
  | _ =>
    match variableName? s with
    | some name => braced name
    | none => s

theorem segmentText_eq (v : Value) : segmentText v = placed (written v) := rfl

theorem placed_named {name : List Char} (hne : name ≠ []) : placed (':' :: name) = braced name := by
  cases name with
  | nil => exact absurd rfl hne
  | cons c name => rfl

theorem placed_referenceText {inner : List Char} (hne : inner ≠ []) (h : '\x7d' ∉ inner) :
    placed (referenceText inner) = braced (spoken inner) := by
  have hname := variableName?_referenceText hne h
  unfold placed
  split
  · rename_i hcolon
    cases hcolon
  · rw [hname]

theorem placed_eq_self {s : List Char} (hnamed : ∀ name, s = ':' :: name → name = [])
    (hreference : ∀ inner, s = referenceText inner → inner = [] ∨ '\x7d' ∈ inner) : placed s = s := by
  unfold placed
  split
  · rename_i c name
    cases hnamed (c :: name) rfl
  · split
    · rename_i name hname
      obtain ⟨inner, hne, hinner, hs⟩ := exists_referenceText hname
      exact absurd (hreference inner hs) (not_or.2 ⟨hne, hinner⟩)
    · rfl

/-! ## Plain segments -/

theorem IsSegment.not_isBlank {s : List Char} (h : IsSegment s) : ∀ c ∈ s, Text.isBlank c = false := by
  intro c hc
  obtain ⟨hlow, hhigh, -⟩ := h.chars c hc
  simp only [Text.isBlank, Bool.or_eq_false_iff, Bool.and_eq_false_iff, decide_eq_false_iff_not, beq_eq_false_iff_ne]
  omega

theorem trim_eq_self {s : List Char} (h : ∀ c ∈ s, Text.isBlank c = false) : Text.trim s = s :=
  Text.stripBy_eq_self (fun c hc => h c (List.mem_of_head? hc)) fun c hc => h c (List.mem_of_getLast? hc)

theorem spoken_eq_self {inner : List Char} (hne : inner ≠ []) (h : ∀ c ∈ inner, Text.isBlank c = false) :
    spoken inner = inner := by
  obtain ⟨c, hc⟩ := List.exists_mem_of_ne_nil inner hne
  have hall : ¬inner.all Text.isBlank = true := fun hall => by simpa [h c hc] using List.all_eq_true.1 hall c hc
  rw [spoken, if_neg hall, trim_eq_self h]

theorem placed_of_isSegment {s : List Char} (h : IsSegment s) : Placed s (placed s) := by
  by_cases hnamed : ∃ name, name ≠ [] ∧ s = ':' :: name
  · obtain ⟨name, hne, rfl⟩ := hnamed
    rw [placed_named hne]
    exact .named hne
  · by_cases hreference : ∃ inner, inner ≠ [] ∧ '\x7d' ∉ inner ∧ s = referenceText inner
    · obtain ⟨inner, hne, hinner, rfl⟩ := hreference
      have hblank : ∀ c ∈ inner, Text.isBlank c = false :=
        fun c hc => h.not_isBlank c (by simp [referenceText, braced, hc])
      rw [placed_referenceText hne hinner, spoken_eq_self hne hblank]
      exact .reference hne hinner
    · have hnamed : ∀ name, s = ':' :: name → name = [] :=
        fun name hs => by_contra fun hne => hnamed ⟨name, hne, hs⟩
      have hreference : ∀ inner, s = referenceText inner → inner = [] ∨ '\x7d' ∈ inner :=
        fun inner hs => by_contra fun hname => hreference ⟨inner, not_or.1 hname |>.1, not_or.1 hname |>.2, hs⟩
      rw [placed_eq_self hnamed hreference]
      exact .plain hnamed hreference

theorem placed_ne_nil {s : List Char} (h : s ≠ []) : placed s ≠ [] := by
  unfold placed
  split
  · simp [braced]
  · split
    · simp [braced]
    · exact h

/-! ## Segments one after another -/

/-- The path of some segments. -/
def pathOf (segs : List (List Char)) : List Char := '/' :: Text.join ['/'] segs

theorem pathOf_cons (s : List Char) (segs : List (List Char)) :
    pathOf (s :: segs) = '/' :: (s ++ if segs.isEmpty then [] else pathOf segs) := by
  cases segs <;> simp [pathOf, Text.join]

theorem mem_pathOf {segs : List (List Char)} {c : Char} (h : c ∈ pathOf segs) : c = '/' ∨ ∃ s ∈ segs, c ∈ s := by
  induction segs with
  | nil => simpa [pathOf, Text.join] using h
  | cons s segs ih =>
    rw [pathOf_cons, List.mem_cons, List.mem_append] at h
    rcases h with rfl | hs | hrest
    · exact Or.inl rfl
    · exact Or.inr ⟨s, List.mem_cons_self, hs⟩
    · split at hrest
      · cases hrest
      · refine (ih hrest).imp_right ?_
        rintro ⟨t, ht, hc⟩
        exact ⟨t, List.mem_cons_of_mem _ ht, hc⟩

/-- No sign that ends a path is in one of plain segments. -/
theorem chars_pathOf {segs : List (List Char)} (h : ∀ s ∈ segs, IsSegment s) :
    ∀ c ∈ pathOf segs, 0x20 < c.toNat ∧ c ≠ '?' ∧ c ≠ '#' := by
  intro c hc
  rcases mem_pathOf hc with rfl | ⟨s, hs, hc⟩
  · decide
  · obtain ⟨hlow, -, -, hquery, hfragment⟩ := (h s hs).chars c hc
    exact ⟨hlow, hquery, hfragment⟩

theorem not_infix_slashes {segs : List (List Char)} (h : ∀ s ∈ segs, IsSegment s) :
    ¬['/', '/'] <:+: pathOf segs := by
  induction segs with
  | nil => simp [pathOf, Text.join, List.infix_cons_iff]
  | cons s segs ih =>
    obtain ⟨hs, hsegs⟩ := List.forall_mem_cons.1 h
    have hslash : '/' ∉ s := fun hmem => (hs.chars _ hmem).2.2.1 rfl
    have hlast : s.getLast hs.ne_nil ∉ ['/', '/'] := by
      have hne := ne_of_mem_of_not_mem (List.getLast_mem hs.ne_nil) hslash
      simpa using hne
    rw [pathOf_cons, List.infix_cons_iff, Text.pair_prefix_cons_iff]
    rintro (⟨-, hhead⟩ | hrest)
    · rw [List.head?_append_of_ne_nil _ hs.ne_nil] at hhead
      exact hslash (List.mem_of_head? hhead)
    · rcases Text.infix_of_infix_append hs.ne_nil hlast hrest with hin | hrest
      · exact hslash (hin.subset List.mem_cons_self)
      · split at hrest
        · simp at hrest
        · exact ih hsegs hrest

/-! ## Addresses -/

/-- The server that an address starts with: a variable, or a host after a scheme. -/
inductive IsServer : List Char → Prop
  | reference {name : List Char} (hname : ∀ c ∈ name, c ≠ '\x7d' ∧ c ≠ '?') : IsServer (referenceText name)
  | host {scheme host : List Char} (hscheme : scheme = "http".toList ∨ scheme = "https".toList)
      (hhost : ∀ c ∈ host, c.isAlphanum = true ∨ c = '.') : IsServer (scheme ++ "://".toList ++ host)

theorem IsServer.mark_not_mem {server : List Char} (h : IsServer server) : '?' ∉ server := by
  cases h with
  | @reference name hname =>
    have hmark : '?' ∉ name := fun hmem => (hname _ hmem).2 rfl
    simpa [referenceText, braced] using hmark
  | @host scheme host hscheme hhost =>
    have hmark : '?' ∉ host := fun hmem => by simpa using hhost _ hmem
    rcases hscheme with rfl | rfl <;> simpa using hmark

theorem afterVariable_referenceText {name : List Char} (h : '\x7d' ∉ name) (s : List Char) :
    afterVariable (referenceText name ++ s) = s := by
  have hopen : Text.after? ['\x7b', '\x7b'] (referenceText name ++ s) = some (name ++ '\x7d' :: '\x7d' :: s) :=
    Text.after?_eq_some_iff.2 (by simp [referenceText, braced])
  have hclose : Text.after? ['\x7d', '\x7d'] ('\x7d' :: '\x7d' :: s) = some s := Text.after?_append ['\x7d', '\x7d'] s
  simp only [afterVariable, hopen, Text.dropWhile_append_cons h, hclose, Option.getD_some]

theorem splitScheme_append {scheme : List Char} (h : scheme = "http".toList ∨ scheme = "https".toList)
    (s : List Char) : Url.splitScheme (scheme ++ ':' :: s) = (scheme, s) := by
  have hcolon : ':' ∉ scheme := by rcases h with rfl | rfl <;> decide
  rw [Url.splitScheme, Text.cut?_append hcolon]
  rcases h with rfl | rfl <;> rfl

/-- The characters of hosts stand for themselves. -/
theorem hostChar {c : Char} (h : c.isAlphanum = true ∨ c = '.') :
    0x20 < c.toNat ∧ (c != '/' && c != '?' && c != '#') = true ∧ Url.isSuspect c = false := by
  rcases h with halnum | rfl
  · have hascii : ∀ n < 128, (Char.ofNat n).isAlphanum = true → 0x20 < (Char.ofNat n).toNat ∧
        (Char.ofNat n != '/' && Char.ofNat n != '?' && Char.ofNat n != '#') = true ∧
        Url.isSuspect (Char.ofNat n) = false := by decide +kernel
    have hlt : c.toNat < 128 := by
      rw [isAlphanum_iff, isAlpha_iff, isUpper_iff, isLower_iff, isDigit_iff] at halnum
      omega
    have hchar := hascii c.toNat hlt
    rw [Char.ofNat_toNat] at hchar
    exact hchar halnum
  · decide

theorem split?_host {scheme host path : List Char} (hscheme : scheme = "http".toList ∨ scheme = "https".toList)
    (hhost : ∀ c ∈ host, c.isAlphanum = true ∨ c = '.')
    (hpath : ∀ c ∈ '/' :: path, 0x20 < c.toNat ∧ c ≠ '?' ∧ c ≠ '#') :
    Url.split? (scheme ++ "://".toList ++ host ++ '/' :: path) = some ⟨scheme, host, '/' :: path⟩ := by
  have haddress : scheme ++ "://".toList ++ host ++ '/' :: path =
      scheme ++ ':' :: '/' :: '/' :: (host ++ '/' :: path) := by simp
  have hlow : ∀ c ∈ scheme ++ "://".toList ++ host ++ '/' :: path, 0x20 < c.toNat := by
    intro c hc
    rcases List.mem_append.1 hc with hserver | hrest
    · rcases List.mem_append.1 hserver with hsign | hhostChar
      · have hsigns : ∀ d ∈ scheme ++ "://".toList, 0x20 < d.toNat := by rcases hscheme with rfl | rfl <;> simp
        exact hsigns c hsign
      · exact (hostChar (hhost c hhostChar)).1
    · exact (hpath c hrest).1
  have hends : ∀ c ∈ host, (c != '/' && c != '?' && c != '#') = true := fun c hc => (hostChar (hhost c hc)).2.1
  have hvalid : Url.isHost host = true := Url.isHost_of_plain fun c hc => (hostChar (hhost c hc)).2.2
  have hquery : '?' ∉ '/' :: path := fun hmem => (hpath _ hmem).2.1 rfl
  have hfragment : '#' ∉ '/' :: path := fun hmem => (hpath _ hmem).2.2 rfl
  unfold Url.split?
  rw [Text.dropWhile_eq_self, List.filter_eq_self.2]
  · simp only [haddress, splitScheme_append hscheme, List.span_eq_takeWhile_dropWhile,
      List.takeWhile_append_of_pos hends, List.dropWhile_append_of_pos hends]
    simp [hvalid, Text.upTo_of_not_mem hfragment, Text.upTo_of_not_mem hquery]
  · intro c hc
    have hne : ∀ d : Char, d.toNat ≤ 0x20 → c ≠ d := by
      rintro d hd rfl
      exact absurd (hlow c hc) (Nat.not_lt.2 hd)
    simp [hne '\t' (by decide), hne '\r' (by decide), hne '\n' (by decide)]
  · intro c hc
    simpa using hlow c (List.mem_of_head? hc)

/-- After the server an address goes on with its path, up to the query. -/
theorem addressPath_server {server query : List Char} {segs : List (List Char)} (hserver : IsServer server)
    (hquery : query = [] ∨ ∃ more, query = '?' :: more) (hsegs : ∀ s ∈ segs, IsSegment s) :
    addressPath (server ++ pathOf segs ++ query) = .ok (pathOf segs) := by
  have hplain := chars_pathOf hsegs
  have hmark : '?' ∉ server ++ pathOf segs :=
    List.not_mem_append hserver.mark_not_mem fun hmem => (hplain _ hmem).2.1 rfl
  have hcut : Text.upTo '?' (server ++ pathOf segs ++ query) = server ++ pathOf segs := by
    rcases hquery with rfl | ⟨more, rfl⟩
    · rw [List.append_nil, Text.upTo_of_not_mem hmark]
    · exact Text.upTo_append_cons hmark more
  unfold addressPath
  rw [hcut]
  cases hserver with
  | @reference name hname =>
    have hscheme : Text.occurs "://".toList (pathOf segs) = false := by
      rw [Bool.eq_false_iff, Ne, Text.occurs_iff (by decide)]
      exact fun hin => not_infix_slashes hsegs (List.IsInfix.trans ⟨[':'], [], rfl⟩ hin)
    simp only [afterVariable_referenceText fun hmem => (hname _ hmem).1 rfl, hscheme]
    rfl
  | @host scheme host hscheme hhost =>
    have hscheme' : Text.occurs "://".toList (scheme ++ "://".toList ++ host ++ pathOf segs) = true := by
      rw [Text.occurs_iff (by decide)]
      exact ⟨scheme, host ++ pathOf segs, by simp⟩
    have hstart : afterVariable (scheme ++ "://".toList ++ host ++ pathOf segs) =
        scheme ++ "://".toList ++ host ++ pathOf segs := by
      rcases hscheme with rfl | rfl <;> rfl
    have hsplit : Url.split? (scheme ++ "://".toList ++ host ++ pathOf segs) = some ⟨scheme, host, pathOf segs⟩ :=
      split?_host hscheme hhost hplain
    simp only [hstart, hscheme', hsplit]
    rfl

/-! ## Ways of writing a path -/

/-- The parts of the path that some segments become. -/
def partsOf (vs : List Value) : List (List Char) := (vs.map segmentText).filter (!·.isEmpty)

theorem path_of_segments {url : Entries} {vs : List Value} (h : segments url = .ok vs) :
    path url = .ok (.ofList (pathOf (partsOf vs))) := by
  unfold path
  rw [h]
  rfl

theorem written_text {s : List Char} (h : IsSegment s) : written (.text (.ofList s)) = s := by
  simpa [written, Value.display] using trim_eq_self h.not_isBlank

theorem partsOf_texts {segs : List (List Char)} (h : ∀ s ∈ segs, IsSegment s) :
    partsOf (segs.map fun s => .text (.ofList s)) = segs.map placed := by
  have hparts : (segs.map fun s => Value.text (.ofList s)).map segmentText = segs.map placed := by
    rw [List.map_map]
    exact List.map_congr_left fun s hs => congrArg placed (written_text (h s hs))
  rw [partsOf, hparts, List.filter_eq_self]
  intro part hpart
  obtain ⟨s, hs, rfl⟩ := List.mem_map.1 hpart
  simpa using placed_ne_nil (h s hs).ne_nil

/-- What the text of segments is cut into are these segments, beside empty ones. -/
theorem partsOf_join {segs : List (List Char)} (h : ∀ s ∈ segs, IsSegment s) :
    partsOf (pathSegments (Text.join ['/'] segs)) = segs.map placed := by
  cases segs with
  | nil => rfl
  | cons s segs =>
    have hslash : ∀ t ∈ s :: segs, '/' ∉ t := fun t ht hmem => ((h t ht).chars _ hmem).2.2.1 rfl
    rw [pathSegments, splitAt_join (by simp) hslash]
    exact partsOf_texts h

theorem partsOf_pathOf {segs : List (List Char)} (h : ∀ s ∈ segs, IsSegment s) :
    partsOf (pathSegments (pathOf segs)) = segs.map placed := by
  rw [← partsOf_join h]
  rfl

/-- The ways of writing some segments: one by one, with slashes between them, or after a server in an address
that may go on with a query. -/
inductive Writes (segs : List (List Char)) (url : Entries) : Prop
  | listed (hpath : Entries.get url "path" = .list (segs.map fun s => .text (.ofList s)))
  | joined (hpath : Entries.get url "path" = .text (.ofList (Text.join ['/'] segs)))
  | raw {server query : List Char} (hserver : IsServer server) (hquery : query = [] ∨ ∃ more, query = '?' :: more)
      (hpath : Entries.get url "path" = .null)
      (hraw : Entries.get url "raw" = .text (.ofList (server ++ pathOf segs ++ query)))

theorem segments_raw {url : Entries} {raw : List Char} {path : List Char} (hne : raw ≠ [])
    (hpath : Entries.get url "path" = .null) (hraw : Entries.get url "raw" = .text (.ofList raw))
    (haddress : addressPath raw = .ok path) : segments url = .ok (pathSegments path) := by
  have htruthy : (Value.text (.ofList raw)).orElse (.text "") = .text (.ofList raw) := by
    simp [Value.orElse, Value.truthy, hne]
  simp only [segments, hpath, hraw, htruthy, String.toList_ofList, haddress]
  rfl

/-- Whichever way plain segments are written, the path is made of them in order, with the name after a colon and
that of a variable between braces. -/
theorem path_of_writes {segs : List (List Char)} (hsegs : ∀ s ∈ segs, IsSegment s) :
    ∃ parts, List.Forall₂ Placed segs parts ∧
      ∀ url, Writes segs url → path url = .ok (.ofList (pathOf parts)) := by
  refine ⟨segs.map placed, ?_, ?_⟩
  · exact List.forall₂_map_right_iff.2 (List.forall₂_same.2 fun s hs => placed_of_isSegment (hsegs s hs))
  · rintro url (hpath | hpath | ⟨hserver, hquery, hpath, hraw⟩)
    · have hsegments : segments url = .ok (segs.map fun s => .text (.ofList s)) := by
        simp only [segments, hpath]
        rfl
      rw [path_of_segments hsegments, partsOf_texts hsegs]
    · have hsegments : segments url = .ok (pathSegments (Text.join ['/'] segs)) := by
        simp only [segments, hpath, String.toList_ofList]
      rw [path_of_segments hsegments, partsOf_join hsegs]
    · have hsegments := segments_raw (by simp [pathOf]) hpath hraw (addressPath_server hserver hquery hsegs)
      rw [path_of_segments hsegments, partsOf_pathOf hsegs]

/-- Segments of all three kinds. -/
def petSegments : List (List Char) := ["pets".toList, ":id".toList, "\x7b\x7bpart\x7d\x7d".toList]

/-- An address with these segments. -/
def petAddress : Entries := [(.text "raw", .text "\x7b\x7bserver\x7d\x7d/pets/:id/\x7b\x7bpart\x7d\x7d?limit=5")]

theorem path_of_writes_petAddress : (∀ s ∈ petSegments, IsSegment s) ∧ Writes petSegments petAddress ∧
    ∃ parts, List.Forall₂ Placed petSegments parts ∧ path petAddress = .ok (.ofList (pathOf parts)) := by
  have hsegs : ∀ s ∈ petSegments, IsSegment s := by
    intro s hs
    refine ⟨?_, ?_⟩
    · rintro rfl
      revert hs
      decide
    · intro c hc
      have hall : ∀ s ∈ petSegments, ∀ c ∈ s, 0x20 < c.toNat ∧ c.toNat < 0x7F ∧ c ≠ '/' ∧ c ≠ '?' ∧ c ≠ '#' := by
        simp [petSegments]
      exact hall s hs c hc
  have hwrites : Writes petSegments petAddress :=
    .raw (@IsServer.reference "server".toList (by simp)) (Or.inr ⟨"limit=5".toList, rfl⟩) rfl rfl
  obtain ⟨parts, hparts, hpath⟩ := path_of_writes hsegs
  exact ⟨hsegs, hwrites, parts, hparts, hpath petAddress hwrites⟩

end ClientForge.Postman
