import ClientForge.Proofs.Addresses
import ClientForge.Proofs.Collections
import ClientForge.Proofs.Placeholders

/-!
Variables in addresses. A variable between double braces that is a whole segment of the path becomes a
placeholder; within a segment it stays as it is. So no two braces are left together in the path exactly if all
variables are whole segments, and then no brace at all is left once the placeholders have values
(`placeholders_of_references`).
-/

namespace ClientForge.Postman

open Text (braced)

/-! ## Segments in pieces -/

/-- A piece of a segment: a character, a placeholder, or a variable between double braces. -/
inductive Piece where
  | plain (c : Char)
  | hole (name : List Char)
  | reference (name : List Char)

/-- What a piece is written as. -/
def Piece.text : Piece → List Char
  | plain c => [c]
  | hole name => braced name
  | reference name => referenceText name

/-- Is the character no brace, can the name stand in a placeholder? -/
def Piece.Ok : Piece → Prop
  | plain c => c ≠ '\x7b' ∧ c ≠ '\x7d'
  | hole name | reference name => IsPlaceholderName name

def textOf (ps : List Piece) : List Char := ps.flatMap Piece.text

@[simp] theorem textOf_nil : textOf [] = [] := rfl

@[simp] theorem textOf_cons (p : Piece) (ps : List Piece) : textOf (p :: ps) = p.text ++ textOf ps := rfl

/-- Some segments are written in pieces. All their braces belong to placeholders and variables, and after a
colon there is neither a placeholder nor a slash. -/
structure WrittenAs (vs : List Value) (segs : List (List Piece)) : Prop where
  texts : vs.map written = segs.map textOf
  ok : ∀ seg ∈ segs, ∀ p ∈ seg, p.Ok
  named : ∀ seg ∈ segs, seg.head? = some (.plain ':') → ∀ p ∈ seg, p ≠ .plain '/' ∧ ∀ name, p ≠ .hole name

/-- All variables are whole segments. -/
def ReferencesWhole (segs : List (List Piece)) : Prop :=
  ∀ seg ∈ segs, ∀ name, .reference name ∈ seg → seg = [.reference name]

/-! ## Texts with placeholders -/

/-- The text has no brace in it. -/
def NoBrace (s : List Char) : Prop := ∀ c ∈ s, c ≠ '\x7b' ∧ c ≠ '\x7d'

/-- A text whose only braces are those of placeholders with names of a kind. -/
inductive Settled (P : List Char → Prop) : List Char → Prop
  | nil : Settled P []
  | plain {c : Char} {s : List Char} (hc : c ≠ '\x7b' ∧ c ≠ '\x7d') (hs : Settled P s) : Settled P (c :: s)
  | hole {name s : List Char} (hname : IsPlaceholderName name) (hP : P name) (hs : Settled P s) :
      Settled P (braced name ++ s)

namespace Settled

variable {P Q : List Char → Prop} {s t : List Char}

theorem append (hs : Settled P s) (ht : Settled P t) : Settled P (s ++ t) := by
  induction hs with
  | nil => exact ht
  | plain hc _ ih => exact .plain hc ih
  | hole hname hP _ ih =>
    rw [List.append_assoc]
    exact .hole hname hP ih

theorem of_noBrace (h : NoBrace s) : Settled P s := by
  induction s with
  | nil => exact .nil
  | cons c s ih =>
    obtain ⟨hc, hs⟩ := List.forall_mem_cons.1 h
    exact .plain hc (ih hs)

theorem mono (h : Settled P s) (himp : ∀ name, IsPlaceholderName name → P name → Q name) : Settled Q s := by
  induction h with
  | nil => exact .nil
  | plain hc _ ih => exact .plain hc ih
  | hole hname hP _ ih => exact .hole hname (himp _ hname hP) ih

/-- The names are those of placeholders of the text. -/
theorem hasPlaceholder (h : Settled P s) : Settled (HasPlaceholder s) s := by
  suffices hin : ∀ before, Settled (HasPlaceholder (before ++ s)) s by simpa using hin []
  induction h with
  | nil => exact fun _ => .nil
  | @plain c s hc _ ih =>
    intro before
    refine .plain hc ?_
    simpa using ih (before ++ [c])
  | @hole name s hname _ _ ih =>
    intro before
    refine .hole hname ⟨⟨before, s, (List.append_assoc _ _ _).symm⟩, hname⟩ ?_
    simpa using ih (before ++ braced name)

theorem noBrace (h : Settled (fun _ => False) s) : NoBrace s := by
  induction h with
  | nil => simp [NoBrace]
  | plain hc _ ih => exact List.forall_mem_cons.2 ⟨hc, ih⟩
  | hole _ hP _ _ => exact hP.elim

theorem head?_ne (h : Settled P s) : s.head? ≠ some '\x7d' := by
  cases h with
  | nil => simp
  | plain hc _ => simpa using hc.2
  | hole _ _ _ => simp [braced]

/-- No two braces of a kind stand together. -/
theorem not_infix_double (h : Settled P s) : ¬['\x7b', '\x7b'] <:+: s ∧ ¬['\x7d', '\x7d'] <:+: s := by
  induction h with
  | nil => simp
  | plain hc _ ih => simp [List.infix_cons_iff, Ne.symm hc.1, Ne.symm hc.2, ih.1, ih.2]
  | @hole name s hname _ hs ih =>
    obtain ⟨hne, hchars⟩ := hname
    -- A pair would have to begin before the name or after it.
    have hskip : ∀ b, b ∉ name → ([b, b] <:+: name ++ '\x7d' :: s → [b, b] <:+: '\x7d' :: s) := by
      intro b hb hin
      have hlast : name.getLast hne ∉ [b, b] := by
        simpa using ne_of_mem_of_not_mem (List.getLast_mem hne) hb
      exact (Text.infix_of_infix_append hne hlast hin).resolve_left fun hmem => hb (hmem.subset List.mem_cons_self)
    have hbraced : braced name ++ s = '\x7b' :: (name ++ '\x7d' :: s) := by simp [braced]
    have hfirst : (name ++ '\x7d' :: s).head? ≠ some '\x7b' := by
      rw [List.head?_append_of_ne_nil _ hne]
      exact fun hhead => (hchars _ (List.mem_of_head? hhead)).1 rfl
    rw [hbraced]
    constructor
    · rw [List.infix_cons_iff, Text.pair_prefix_cons_iff]
      rintro (⟨-, hhead⟩ | hin)
      · exact hfirst hhead
      · have hrest := hskip '\x7b' (fun hmem => (hchars _ hmem).1 rfl) hin
        simp [List.infix_cons_iff, ih.1] at hrest
    · rw [List.infix_cons_iff, Text.pair_prefix_cons_iff]
      rintro (⟨hbrace, -⟩ | hin)
      · exact absurd hbrace (by decide)
      · have hrest := hskip '\x7d' (fun hmem => (hchars _ hmem).2.1 rfl) hin
        rw [List.infix_cons_iff, Text.pair_prefix_cons_iff] at hrest
        rcases hrest with ⟨-, hhead⟩ | hin
        · exact hs.head?_ne hhead
        · exact ih.2 hin

/-! ### Values for placeholders -/

/-- A placeholder begins with another only if it is the same. -/
theorem eq_of_braced_begins {name other : List Char} (hname : '\x7d' ∉ name) (hother : '\x7d' ∉ other)
    (h : braced name <+: braced other ++ s) : name = other := by
  obtain ⟨rest, hrest⟩ := h
  have htail : name ++ '\x7d' :: rest = other ++ '\x7d' :: s := by simpa [braced] using hrest
  calc name = Text.upTo '\x7d' (name ++ '\x7d' :: rest) := (Text.upTo_append_cons hname rest).symm
    _ = Text.upTo '\x7d' (other ++ '\x7d' :: s) := by rw [htail]
    _ = other := Text.upTo_append_cons hother s

/-- A value in place of a placeholder. -/
theorem replace (h : Settled P s) {name value : List Char} (hname : IsPlaceholderName name) (hvalue : NoBrace value) :
    Settled (fun other => P other ∧ other ≠ name) (Text.replace (braced name) value s) := by
  induction h with
  | nil => exact .nil
  | @plain c s hc _ ih =>
    have hstart : ¬braced name <+: c :: s := fun hp => hc.1 (List.cons_prefix_cons.1 hp).1.symm
    rw [Text.replace_cons_of_not_begins hstart]
    exact .plain hc ih
  | @hole other s hother hP hs ih =>
    by_cases heq : other = name
    · rw [heq, Text.replace_append_self (by simp [braced])]
      exact (of_noBrace hvalue).append ih
    · have hstart : ¬braced name <+: braced other ++ s :=
        fun hp => heq (eq_of_braced_begins hname.close_not_mem hother.close_not_mem hp).symm
      have hopen : '\x7b' ∉ other ++ ['\x7d'] := by simpa using hother.open_not_mem
      have hkept : Text.replace (braced name) value (braced other ++ s) =
          braced other ++ Text.replace (braced name) value s := by
        have hafter := Text.replace_append_of_not_mem hopen (name ++ ['\x7d']) value s
        have hcons := Text.replace_cons_of_not_begins (c := '\x7b') (s := other ++ ['\x7d'] ++ s) hstart value
        exact hcons.trans (congrArg ('\x7b' :: ·) hafter)
      rw [hkept]
      exact .hole hother ⟨hP, heq⟩ ih

end Settled

/-- A path with a value for each of its placeholders, put in one after another. -/
def filled (value : String → List Char) (path : String) : List Char :=
  (placeholders path).foldl (fun s name => Text.replace (braced name.toList) (value name) s) path.toList

theorem settled_foldl {P : List Char → Prop} {value : String → List Char} (hvalue : ∀ name, NoBrace (value name))
    {names : List String} (hnames : ∀ name ∈ names, IsPlaceholderName name.toList) {s : List Char} (h : Settled P s) :
    Settled (fun other => P other ∧ ∀ name ∈ names, other ≠ name.toList)
      (names.foldl (fun s name => Text.replace (braced name.toList) (value name) s) s) := by
  induction names generalizing P s with
  | nil => exact h.mono fun other _ hP => ⟨hP, by simp⟩
  | cons name names ih =>
    obtain ⟨hname, hnames⟩ := List.forall_mem_cons.1 hnames
    refine (ih hnames (h.replace hname (hvalue name))).mono ?_
    rintro other - ⟨⟨hP, hne⟩, hrest⟩
    exact ⟨hP, List.forall_mem_cons.2 ⟨hne, hrest⟩⟩

/-- Values in place of all placeholders leave no brace, if there are no others. -/
theorem noBrace_filled {path : String} {P : List Char → Prop} (h : Settled P path.toList)
    {value : String → List Char} (hvalue : ∀ name, NoBrace (value name)) : NoBrace (filled value path) := by
  have hnames : ∀ name ∈ placeholders path, IsPlaceholderName name.toList :=
    fun name hname => (mem_placeholders_iff.1 hname).2
  refine ((settled_foldl hvalue hnames h.hasPlaceholder).mono ?_).noBrace
  rintro other - ⟨hother, hne⟩
  exact hne _ (mem_placeholders hother) (by simp)

/-! ## Segments in the path -/

theorem isPlaceholderName_spoken {name : List Char} (h : IsPlaceholderName name) : IsPlaceholderName (spoken name) := by
  obtain ⟨hne, hchars⟩ := h
  unfold spoken
  split
  · rw [List.getLast?_eq_some_getLast hne, Option.toList_some]
    exact ⟨by simp, List.forall_mem_singleton.2 (hchars _ (List.getLast_mem hne))⟩
  · rename_i hall
    refine ⟨fun hnil => hall ?_, fun c hc => hchars c (Text.mem_of_mem_stripBy hc)⟩
    exact List.all_eq_true.2 (Text.stripBy_eq_nil_iff.1 hnil)

/-- Pieces that are no variables are characters and placeholders. -/
theorem settled_textOf {ps : List Piece} (hok : ∀ p ∈ ps, p.Ok) (hplain : ∀ name, .reference name ∉ ps) :
    Settled (fun _ => True) (textOf ps) := by
  induction ps with
  | nil => exact .nil
  | cons p ps ih =>
    obtain ⟨hp, hps⟩ := List.forall_mem_cons.1 hok
    have hrest := ih hps fun name hmem => hplain name (List.mem_cons_of_mem _ hmem)
    cases p with
    | plain c => exact .plain hp hrest
    | hole name => exact .hole hp trivial hrest
    | reference name => exact absurd List.mem_cons_self (hplain name)

theorem textOf_eq_nil {ps : List Piece} (h : textOf ps = []) : ps = [] := by
  cases ps with
  | nil => rfl
  | cons p ps => cases p <;> simp [Piece.text, braced, referenceText] at h

/-- A text begins with one variable only, and is not more than it. -/
theorem referenceText_append_eq {name inner s : List Char} (hname : '\x7d' ∉ name) (hinner : '\x7d' ∉ inner)
    (h : referenceText name ++ s = referenceText inner) : name = inner ∧ s = [] := by
  have htail : name ++ '\x7d' :: '\x7d' :: s = inner ++ ['\x7d', '\x7d'] := by
    simpa [referenceText, braced] using h
  have hsame : name = inner :=
    calc name = Text.upTo '\x7d' (name ++ '\x7d' :: '\x7d' :: s) := (Text.upTo_append_cons hname _).symm
      _ = Text.upTo '\x7d' (inner ++ ['\x7d', '\x7d']) := by rw [htail]
      _ = inner := Text.upTo_append_cons hinner _
  rw [hsame] at htail
  exact ⟨hsame, by simpa using htail⟩

/-- A segment stands in the path as it is written, if it is no variable and no name after a colon. -/
theorem placed_textOf {ps : List Piece} (hok : ∀ p ∈ ps, p.Ok) (hwhole : ∀ name, ps ≠ [.reference name])
    (hnamed : ∀ rest, ps = .plain ':' :: rest → rest = []) : placed (textOf ps) = textOf ps := by
  refine placed_eq_self (fun name hname => ?_) (fun inner hinner => ?_)
  · cases ps with
    | nil => cases hname
    | cons p ps =>
      cases p with
      | plain c =>
        obtain ⟨rfl, htail⟩ := List.cons.inj hname
        rw [hnamed ps rfl] at htail
        exact htail.symm
      | hole other => cases hname
      | reference other => cases hname
  · by_contra hne
    obtain ⟨-, hclose⟩ := not_or.1 hne
    cases ps with
    | nil => cases hinner
    | cons p ps =>
      have hp := hok p List.mem_cons_self
      cases p with
      | plain c => exact hp.1 (List.cons.inj hinner).1
      | hole other =>
        cases other with
        | nil => exact hp.1 rfl
        | cons c other =>
          have hc : c = '\x7b' := (List.cons.inj (List.cons.inj hinner).2).1
          exact hp.open_not_mem (hc ▸ List.mem_cons_self)
      | reference other =>
        obtain ⟨-, hrest⟩ := referenceText_append_eq hp.close_not_mem hclose hinner
        exact hwhole other (by rw [textOf_eq_nil hrest])

theorem placed_colon {rest : List Piece} (hne : rest ≠ []) :
    placed (textOf (.plain ':' :: rest)) = braced (textOf rest) :=
  placed_named fun hnil => hne (textOf_eq_nil hnil)

/-- After a colon there is a name for a placeholder, if there are only characters and no slash. -/
theorem isPlaceholderName_textOf {ps : List Piece} (hne : ps ≠ []) (hok : ∀ p ∈ ps, p.Ok)
    (hplain : ∀ name, .reference name ∉ ps) (hnamed : ∀ p ∈ ps, p ≠ .plain '/' ∧ ∀ name, p ≠ .hole name) :
    IsPlaceholderName (textOf ps) := by
  refine ⟨fun hnil => hne (textOf_eq_nil hnil), fun c hc => ?_⟩
  obtain ⟨p, hp, hc⟩ := List.mem_flatMap.1 hc
  cases p with
  | plain d =>
    obtain rfl := List.mem_singleton.1 hc
    exact ⟨(hok _ hp).1, (hok _ hp).2, fun hslash => (hnamed _ hp).1 (congrArg Piece.plain hslash)⟩
  | hole name => exact absurd rfl ((hnamed _ hp).2 name)
  | reference name => exact absurd hp (hplain name)

section

variable {seg : List Piece} (hok : ∀ p ∈ seg, p.Ok)

include hok

/-- A segment all of whose variables are the whole of it brings only placeholders to the path. -/
theorem settled_placed (hwhole : ∀ name, .reference name ∈ seg → seg = [.reference name])
    (hnamed : seg.head? = some (.plain ':') → ∀ p ∈ seg, p ≠ .plain '/' ∧ ∀ name, p ≠ .hole name) :
    Settled (fun _ => True) (placed (textOf seg)) := by
  by_cases href : ∃ name, seg = [.reference name]
  · obtain ⟨name, rfl⟩ := href
    have hname : IsPlaceholderName name := hok _ List.mem_cons_self
    have htext : textOf [.reference name] = referenceText name := List.append_nil _
    rw [htext, placed_referenceText hname.1 hname.close_not_mem, ← List.append_nil (braced _)]
    exact .hole (isPlaceholderName_spoken hname) trivial .nil
  · have hplain : ∀ name, .reference name ∉ seg := fun name hmem => href ⟨name, hwhole name hmem⟩
    by_cases hcolon : ∃ rest, rest ≠ [] ∧ seg = .plain ':' :: rest
    · obtain ⟨rest, hne, rfl⟩ := hcolon
      have hname : IsPlaceholderName (textOf rest) :=
        isPlaceholderName_textOf hne (fun p hp => hok p (List.mem_cons_of_mem _ hp))
          (fun name hmem => hplain name (List.mem_cons_of_mem _ hmem))
          fun p hp => hnamed rfl p (List.mem_cons_of_mem _ hp)
      rw [placed_colon hne, ← List.append_nil (braced _)]
      exact .hole hname trivial .nil
    · rw [placed_textOf hok (fun name hseg => href ⟨name, hseg⟩)
        fun rest hseg => by_contra fun hne => hcolon ⟨rest, hne, hseg⟩]
      exact settled_textOf hok hplain

/-- Any other variable of a segment is left in the path. -/
theorem double_infix_placed {name : List Char} (hmem : .reference name ∈ seg) (hne : seg ≠ [.reference name]) :
    ['\x7b', '\x7b'] <:+: placed (textOf seg) := by
  have hin : ∀ {ps : List Piece}, .reference name ∈ ps → ['\x7b', '\x7b'] <:+: textOf ps := by
    intro ps hmem
    obtain ⟨before, after, rfl⟩ := List.append_of_mem hmem
    exact ⟨textOf before, name ++ '\x7d' :: '\x7d' :: textOf after, by simp [textOf, Piece.text, referenceText, braced]⟩
  by_cases hcolon : ∃ rest, rest ≠ [] ∧ seg = .plain ':' :: rest
  · obtain ⟨rest, hrest, rfl⟩ := hcolon
    have hmem : .reference name ∈ rest := by simpa using hmem
    rw [placed_colon hrest]
    exact (hin hmem).trans ⟨['\x7b'], ['\x7d'], rfl⟩
  · have hwhole : ∀ other, seg ≠ [.reference other] := by
      rintro other rfl
      have hsame : Piece.reference name = .reference other := by simpa using hmem
      exact hne (by rw [hsame])
    rw [placed_textOf hok hwhole fun rest hseg => by_contra fun hne => hcolon ⟨rest, hne, hseg⟩]
    exact hin hmem

end

/-! ## Paths -/

theorem infix_pathOf {parts : List (List Char)} {part : List Char} (h : part ∈ parts) : part <:+: pathOf parts := by
  induction parts with
  | nil => cases h
  | cons first parts ih =>
    rw [pathOf_cons]
    rcases List.mem_cons.1 h with rfl | hmem
    · exact ⟨['/'], _, rfl⟩
    · have hne : parts.isEmpty = false := by
        cases parts with
        | nil => cases hmem
        | cons => rfl
      rw [hne]
      exact (ih hmem).trans ⟨'/' :: first, [], by simp⟩

theorem settled_pathOf {P : List Char → Prop} {parts : List (List Char)} (h : ∀ part ∈ parts, Settled P part) :
    Settled P (pathOf parts) := by
  induction parts with
  | nil => exact .plain (by decide) .nil
  | cons part parts ih =>
    obtain ⟨hpart, hparts⟩ := List.forall_mem_cons.1 h
    rw [pathOf_cons]
    refine .plain (by decide) (hpart.append ?_)
    split
    · exact .nil
    · exact ih hparts

theorem mem_partsOf {vs : List Value} {part : List Char} :
    part ∈ partsOf vs ↔ (∃ s ∈ vs.map written, placed s = part) ∧ part ≠ [] := by
  simp [partsOf, segmentText_eq]

/-- The path of an endpoint is made of the segments of the address. -/
theorem path_of_describes {r : Request} {e : Endpoint} (h : Describes r e) :
    ∃ url vs, urlFields (requestFields r.fields) = .ok url ∧ segments url = .ok vs ∧
      e.path.toList = pathOf (partsOf vs) := by
  obtain ⟨method, -, h⟩ := h
  obtain ⟨url, f, hurl, hpath, -, -, -, -, _, _, _, _, hmake⟩ := fields_of_endpointWith h
  obtain ⟨-, -, hsame, -⟩ := make_eq_ok hmake
  obtain ⟨vs, hvs, -⟩ := except_bind_eq_ok.1 hpath
  rw [path_of_segments hvs, ← hsame] at hpath
  exact ⟨url, vs, hurl, hvs, by rw [← Except.ok.inj hpath, String.toList_ofList]⟩

/-- Each variable that is a whole segment of a request's address stands in the path of its endpoint as a
placeholder. If all braces of the address belong to placeholders and variables, no two braces are left together
exactly if every variable is a whole segment; then values for the placeholders leave no brace. -/
theorem placeholders_of_references {r : Request} {e : Endpoint} (h : (endpoint? r).outcome = .ok (some e)) :
    ∃ url vs, urlFields (requestFields r.fields) = .ok url ∧ segments url = .ok vs ∧
      (∀ v ∈ vs, ∀ name, IsPlaceholderName name → written v = referenceText name →
        HasPlaceholder e.path.toList (spoken name)) ∧
      ∀ segs, WrittenAs vs segs →
        ((¬['\x7b', '\x7b'] <:+: e.path.toList ∧ ¬['\x7d', '\x7d'] <:+: e.path.toList) ↔ ReferencesWhole segs) ∧
        (ReferencesWhole segs → ∀ value : String → List Char, (∀ name, NoBrace (value name)) →
          NoBrace (filled value e.path)) := by
  obtain ⟨-, e, ⟨rfl⟩, hdescribes⟩ | ⟨-, hnone⟩ := endpoint?_eq_ok h
  swap
  · cases hnone
  obtain ⟨url, vs, hurl, hvs, hpath⟩ := path_of_describes hdescribes
  refine ⟨url, vs, hurl, hvs, ?_, fun segs hsegs => ?_⟩
  · intro v hv name hname hwritten
    have hpart : braced (spoken name) ∈ partsOf vs := by
      refine mem_partsOf.2 ⟨⟨written v, List.mem_map_of_mem hv, ?_⟩, by simp [braced]⟩
      rw [hwritten, placed_referenceText hname.1 hname.close_not_mem]
    obtain ⟨before, after, hin⟩ := infix_pathOf hpart
    exact ⟨⟨before, after, by rw [hpath, hin]⟩, isPlaceholderName_spoken hname⟩
  · have hparts : ∀ part, part ∈ partsOf vs ↔ (∃ seg ∈ segs, placed (textOf seg) = part) ∧ part ≠ [] := by
      intro part
      rw [mem_partsOf, hsegs.texts]
      simp
    have hsettled : ReferencesWhole segs → Settled (fun _ => True) e.path.toList := by
      intro hwhole
      rw [hpath]
      refine settled_pathOf fun part hpart => ?_
      obtain ⟨⟨seg, hseg, rfl⟩, -⟩ := (hparts part).1 hpart
      exact settled_placed (hsegs.ok seg hseg) (hwhole seg hseg) (hsegs.named seg hseg)
    refine ⟨⟨fun hdouble seg hseg name hmem => ?_, fun hwhole => (hsettled hwhole).not_infix_double⟩,
      fun hwhole value hvalue => noBrace_filled (hsettled hwhole) hvalue⟩
    by_contra hne
    have hin := double_infix_placed (hsegs.ok seg hseg) hmem hne
    have hpart : placed (textOf seg) ∈ partsOf vs :=
      (hparts _).2 ⟨⟨seg, hseg, rfl⟩, fun hnil => by simp [hnil] at hin⟩
    exact hdouble.1 (hpath ▸ hin.trans (infix_pathOf hpart))

theorem exists_endpoint (r : Request) (path : String)
    (h : (endpoint? r).outcome.toOption.map (·.map Endpoint.path) = some (some path)) :
    ∃ e, (endpoint? r).outcome = .ok (some e) ∧ e.path = path := by
  obtain ⟨found, houtcome, hfound⟩ := toOption_map_eq_some.1 h
  obtain ⟨e, rfl, hpath⟩ := Option.map_eq_some_iff.1 hfound
  exact ⟨e, houtcome, hpath⟩

/-- A request whose address has a variable and a name after a colon for segments. -/
def petRequest : Request := ⟨[], [(.text "request", .text "/pets/\x7b\x7bid\x7d\x7d/:part")]⟩

def petPieces : List (List Piece) :=
  [[], "pets".toList.map .plain, [.reference "id".toList], ":part".toList.map .plain]

theorem placeholders_of_references_petRequest : ∃ e, (endpoint? petRequest).outcome = .ok (some e) ∧
    e.path = "/pets/\x7bid\x7d/\x7bpart\x7d" ∧ HasPlaceholder e.path.toList "id".toList ∧
      ¬['\x7b', '\x7b'] <:+: e.path.toList ∧ NoBrace (filled (fun _ => "7".toList) e.path) := by
  obtain ⟨e, he, hpath⟩ := exists_endpoint petRequest "/pets/\x7bid\x7d/\x7bpart\x7d" (by decide +kernel)
  obtain ⟨url, vs, hurl, hvs, hreferences, hpieces⟩ := placeholders_of_references he
  have hurl' : url = [(.text "raw", .text "/pets/\x7b\x7bid\x7d\x7d/:part")] := (Except.ok.inj hurl).symm
  rw [hurl'] at hvs
  obtain rfl : [.text "", .text "pets", .text "\x7b\x7bid\x7d\x7d", .text ":part"] = vs := Except.ok.inj hvs
  have hwritten : WrittenAs [.text "", .text "pets", .text "\x7b\x7bid\x7d\x7d", .text ":part"] petPieces := by
    refine ⟨by decide +kernel, ?_, ?_⟩
    · simp [petPieces, Piece.Ok, IsPlaceholderName]
    · simp [petPieces]
  have hwhole : ReferencesWhole petPieces := by simp [ReferencesWhole, petPieces]
  obtain ⟨hdouble, hfilled⟩ := hpieces petPieces hwritten
  refine ⟨e, he, hpath, ?_, (hdouble.2 hwhole).1, hfilled hwhole _ fun _ => by simp [NoBrace]⟩
  exact hreferences (.text "\x7b\x7bid\x7d\x7d") (by simp) "id".toList (by simp [IsPlaceholderName]) (by decide +kernel)

/-- An address with a variable within a segment. -/
def versionAddress : String := "/v\x7b\x7bversion\x7d\x7d"

/-- A variable within a segment stays between double braces. -/
theorem reference_stays : ∃ e, (endpoint? ⟨[], [(.text "request", .text versionAddress)]⟩).outcome = .ok (some e) ∧
    segments [(.text "raw", .text versionAddress)] =
      .ok [.text "", .text (.ofList ('v' :: referenceText "version".toList))] ∧
    e.path = versionAddress ∧ ['\x7b', '\x7b'] <:+: e.path.toList := by
  obtain ⟨e, he, hpath⟩ := exists_endpoint ⟨[], [(.text "request", .text versionAddress)]⟩ versionAddress
    (by decide +kernel)
  refine ⟨e, he, rfl, hpath, ?_⟩
  rw [hpath]
  decide

end ClientForge.Postman
