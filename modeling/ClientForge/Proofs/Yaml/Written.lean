import ClientForge.Proofs.Yaml.Scanning

/-!
The tokens of a JSON text in YAML. Where scanning does not break off, the tokens of a value are those that
its form calls for (`Written`): brackets and commas where JSON has them, and before each name of a member the
announcement of a key, if the colon comes soon enough (`scan_json`).
-/

namespace ClientForge.Yaml

open Json (skipBlanks readValue readItems readMembers)

/-! ## Tokens that JSON values are written with -/

/-- What a value is, seen from its tokens: of an object the names of its members. -/
inductive Shape where
  | scalar
  | list
  | object (names : List String)

/-- What some tokens are: a value, or what follows an opening bracket or brace up to the closing one. -/
inductive Part where
  | value (shape : Shape)
  | items
  | members (names : List String)

/-- The tokens of a part. A name that is not announced as a key may be followed by anything. -/
inductive Written : Part → List Token → Prop
  | scalar (text : String) (plain : Bool) : Written (.value .scalar) [.scalar text plain]
  | emptyList : Written (.value .list) [.openBracket, .closeBracket]
  | list {ts : List Token} (items : Written .items ts) : Written (.value .list) (.openBracket :: ts)
  | emptyObject : Written (.value (.object [])) [.openBrace, .closeBrace]
  | object {names : List String} {ts : List Token} (members : Written (.members names) ts) :
      Written (.value (.object names)) (.openBrace :: ts)
  | lastItem {shape : Shape} {ts : List Token} (item : Written (.value shape) ts) :
      Written .items (ts ++ [.closeBracket])
  | item {shape : Shape} {ts us : List Token} (item : Written (.value shape) ts) (more : Written .items us) :
      Written .items (ts ++ .comma :: us)
  | lastMember {name : String} {shape : Shape} {ts : List Token} (value : Written (.value shape) ts) :
      Written (.members [name]) (.key :: .scalar name false :: .colon :: ts ++ [.closeBrace])
  | member {name : String} {names : List String} {shape : Shape} {ts us : List Token}
      (value : Written (.value shape) ts) (more : Written (.members names) us) :
      Written (.members (name :: names)) (.key :: .scalar name false :: .colon :: ts ++ .comma :: us)
  | unannounced (name : String) (ts : List Token) :
      Written (.members []) (.scalar name false :: .colon :: ts)

/-- The shape is that of the value. Names of members are those of the object, if they are words. -/
def Fits (v : Json) : Shape → Prop
  | .scalar => Json.IsScalar v
  | .list => ∃ xs, v = .array xs
  | .object names => ∃ ms, v = .object ms ∧ ∀ name ∈ names, IsWord name → name ∈ ms.map Prod.fst

section
variable {text : String} {shape : Shape} {front ts us : List Token} {names : List String}

/-- A member at the end, whether its name is announced or not. -/
theorem written_lastMember
    (hfront : front = [.key, .scalar text false, .colon] ∨ front = [.scalar text false, .colon])
    (hts : Written (.value shape) ts) :
    ∃ names, (∀ name ∈ names, name = text) ∧ Written (.members names) (front ++ ts ++ [.closeBrace]) := by
  rcases hfront with rfl | rfl
  · exact ⟨[text], List.forall_mem_singleton.2 rfl, .lastMember hts⟩
  · exact ⟨[], List.forall_mem_nil _, .unannounced text (ts ++ [Token.closeBrace])⟩

/-- A member before others, whether its name is announced or not. -/
theorem written_member
    (hfront : front = [.key, .scalar text false, .colon] ∨ front = [.scalar text false, .colon])
    (hts : Written (.value shape) ts) (hus : Written (.members names) us) :
    ∃ all, (∀ name ∈ all, name = text ∨ name ∈ names) ∧ Written (.members all) (front ++ ts ++ .comma :: us) := by
  rcases hfront with rfl | rfl
  · exact ⟨text :: names, fun _ hname => List.mem_cons.1 hname, .member hts hus⟩
  · exact ⟨[], List.forall_mem_nil _, .unannounced text (ts ++ .comma :: us)⟩

end

namespace Scan

/-! ## Values -/

theorem follows_of_inFlow {σ : Scan} (hflow : 1 < σ.candidates.length) {t u : List Char} {c : Char}
    (ht : t = c :: u) (hc : c = ',' ∨ c = ']' ∨ c = '\x7d') : Follows σ.inFlow t :=
  .inr ⟨decide_eq_true hflow, c, u, ht, hc⟩

/-- A value has been scanned: its tokens are those of its shape. -/
def ReadsAs (v : Json) (rest : List Char) (σ υ : Scan) : Prop :=
  ∃ shape ts, Fits v shape ∧ Written (.value shape) ts ∧ After σ υ rest σ.candidates.length ts.reverse

/-- Items up to the closing bracket have been scanned. -/
def ReadsAsItems (rest : List Char) (σ υ : Scan) : Prop :=
  ∃ ts, Written .items ts ∧ After σ υ rest (σ.candidates.length - 1) ts.reverse

/-- Members up to the closing brace have been scanned. Those that are announced are members of the object,
if their names are words. -/
def ReadsAsMembers (ms : List (String × Json)) (rest : List Char) (σ υ : Scan) : Prop :=
  ∃ names ts, (∀ name ∈ names, IsWord name → name ∈ ms.map Prod.fst) ∧ Written (.members names) ts ∧
    After σ υ rest (σ.candidates.length - 1) ts.reverse

variable {strict : Bool}

mutual

/-- A value is scanned as it is read in JSON. -/
theorem leads_value (n levels : Nat) : ∀ (fuel : Nat) {σ : Scan} {s rest : List Char} {v : Json},
    readValue strict levels fuel s = .ok (v, rest) → Flowing σ → skipBlanks σ.cursor.rest = s →
      Follows σ.inFlow (skipBlanks rest) → Leads (n + 1) σ (ReadsAs v rest σ)
  | 0, _, _, _, _, h, _, _, _ => nomatch h
  | fuel + 1, σ, s, rest, v, h, hσ, hs, hfollow => by
    have hpos : 0 < σ.candidates.length := List.length_pos_iff.2 hσ.inSome
    rcases Json.readValue_cases h with ⟨t, name, rfl, rfl, hread⟩ | ⟨t, xs, rfl, rfl, hitems⟩ |
      ⟨t, ms, rfl, rfl, hmembers⟩ | hread
    · refine (leads_text hσ hs hread).mono ?_
      rintro υ ⟨text, hυ, -, -⟩
      exact ⟨.scalar, _, by simp [Fits, Json.IsScalar], .scalar text false, hυ⟩
    · refine (leads_open hσ (.inl ⟨rfl, rfl⟩) hs).trans ?_
      rintro τ ⟨hτ, -⟩
      have hdepth : τ.candidates.length - 1 = σ.candidates.length := by rw [hτ.depth, Nat.add_sub_cancel]
      rcases hitems with ⟨rfl, hclose⟩ | hitems
      · refine (leads_close hτ.flowing (.inl ⟨rfl, rfl⟩) (hτ.rest.trans hclose)).mono fun υ hυ => ?_
        rw [hdepth] at hυ
        exact ⟨.list, _, ⟨_, rfl⟩, .emptyList, hτ.trans hυ⟩
      · refine (leads_items n _ fuel hitems hτ.flowing (by rw [hτ.depth]; omega) hτ.rest).mono ?_
        rintro υ ⟨ts, hts, hυ⟩
        rw [hdepth] at hυ
        refine ⟨.list, _, ⟨xs, rfl⟩, .list hts, ?_⟩
        rw [List.reverse_cons]
        exact hτ.trans hυ
    · refine (leads_open hσ (.inr ⟨rfl, rfl⟩) hs).trans ?_
      rintro τ ⟨hτ, hno⟩
      have hdepth : τ.candidates.length - 1 = σ.candidates.length := by rw [hτ.depth, Nat.add_sub_cancel]
      rcases hmembers with ⟨rfl, hclose⟩ | hmembers
      · refine (leads_close hτ.flowing (.inr ⟨rfl, rfl⟩) (hτ.rest.trans hclose)).mono fun υ hυ => ?_
        rw [hdepth] at hυ
        exact ⟨.object [], _, ⟨_, rfl, List.forall_mem_nil _⟩, .emptyObject, hτ.trans hυ⟩
      · refine (leads_members n _ fuel hmembers hτ.flowing (by rw [hτ.depth]; omega) hno hτ.rest).mono ?_
        rintro υ ⟨names, ts, hnames, hts, hυ⟩
        rw [hdepth] at hυ
        refine ⟨.object names, _, ⟨ms, rfl, hnames⟩, .object hts, ?_⟩
        rw [List.reverse_cons]
        exact hτ.trans hυ
    · obtain ⟨⟨c, t, rfl, hstart, htakes⟩, hscalar⟩ := Json.readScalar_cases hread
      refine (leads_scalar hσ hs hstart htakes hfollow).mono ?_
      rintro υ ⟨text, hυ⟩
      exact ⟨.scalar, _, hscalar, .scalar text true, hυ⟩
termination_by fuel => fuel

/-- The items of an array are scanned as they are read in JSON. -/
theorem leads_items (n levels : Nat) : ∀ (fuel : Nat) {σ : Scan} {s rest : List Char} {acc xs : List Json},
    readItems strict levels fuel acc s = .ok (xs, rest) → Flowing σ → 1 < σ.candidates.length →
      skipBlanks σ.cursor.rest = s → Leads (n + 1) σ (ReadsAsItems rest σ)
  | 0, _, _, _, _, _, h, _, _, _ => nomatch h
  | fuel + 1, σ, s, rest, acc, xs, h, hσ, hflow, hs => by
    obtain ⟨v, t, hvalue, hclose | ⟨u, hcomma, hmore⟩⟩ := Json.readItems_cases h
    · have hfollow := follows_of_inFlow hflow hclose (.inr (.inl rfl))
      refine (leads_value n levels fuel hvalue hσ hs hfollow).trans ?_
      rintro τ ⟨shape, ts, -, hts, hτ⟩
      refine (leads_close hτ.flowing (.inl ⟨rfl, rfl⟩) (hτ.rest.trans hclose)).mono fun υ hυ => ?_
      rw [hτ.depth] at hυ
      refine ⟨_, .lastItem hts, ?_⟩
      rw [List.reverse_append]
      exact hτ.trans hυ
    · have hfollow := follows_of_inFlow hflow hcomma (.inl rfl)
      refine (leads_value n levels fuel hvalue hσ hs hfollow).trans ?_
      rintro τ ⟨shape, ts, -, hts, hτ⟩
      refine (leads_comma hτ.flowing (hτ.rest.trans hcomma)).trans ?_
      rintro ρ ⟨hρ, -⟩
      have hdepth : ρ.candidates.length = σ.candidates.length := hρ.depth.trans hτ.depth
      refine (leads_items n levels fuel hmore hρ.flowing (by rw [hdepth]; exact hflow) hρ.rest).mono ?_
      rintro υ ⟨us, hus, hυ⟩
      rw [hdepth] at hυ
      refine ⟨_, .item hts hus, ?_⟩
      rw [List.reverse_append, List.reverse_cons]
      exact hτ.trans (hρ.trans hυ)
termination_by fuel => fuel

/-- The members of an object are scanned as they are read in JSON, unless a colon comes too late. -/
theorem leads_members (n levels : Nat) : ∀ (fuel : Nat) {σ : Scan} {s rest : List Char}
    {acc ms : List (String × Json)}, readMembers strict levels fuel acc s = .ok (ms, rest) → Flowing σ →
      1 < σ.candidates.length → NoKey σ → skipBlanks σ.cursor.rest = s →
      Leads (n + 1) σ (ReadsAsMembers ms rest σ)
  | 0, _, _, _, _, _, h, _, _, _, _ => nomatch h
  | fuel + 1, σ, s, rest, acc, ms, h, hσ, hflow, hno, hs => by
    obtain ⟨q, name, t, u, v, w, rfl, hname, hcolon, hvalue, hend⟩ := Json.readMembers_cases h
    refine (leads_text hσ hs hname).trans ?_
    rintro τ ⟨text, hτ, hsame, hkey⟩
    refine (leads_colon hτ hflow (hkey hno) hcolon).trans ?_
    rintro ρ ⟨front, hρ, hfront⟩
    have hdepth : 1 < ρ.candidates.length := by rw [hρ.depth]; exact hflow
    rcases hend with ⟨hclose, rfl⟩ | ⟨x, hcomma, hmore⟩
    · have hfollow := follows_of_inFlow hdepth hclose (.inr (.inr rfl))
      refine (leads_value n levels fuel hvalue hρ.flowing hρ.rest hfollow).trans ?_
      rintro κ ⟨shape, ts, -, hts, hκ⟩
      refine (leads_close hκ.flowing (.inr ⟨rfl, rfl⟩) (hκ.rest.trans hclose)).mono fun υ hυ => ?_
      rw [hκ.depth, hρ.depth] at hυ
      obtain ⟨names, hnames, hwritten⟩ := written_lastMember hfront hts
      refine ⟨names, _, fun k hk hword => ?_, hwritten, by simpa using hρ.trans (hκ.trans hυ)⟩
      obtain rfl := hnames k hk
      exact Json.mem_names_put.2 (.inl (hsame hword))
    · have hfollow := follows_of_inFlow hdepth hcomma (.inl rfl)
      refine (leads_value n levels fuel hvalue hρ.flowing hρ.rest hfollow).trans ?_
      rintro κ ⟨shape, ts, -, hts, hκ⟩
      refine (leads_comma hκ.flowing (hκ.rest.trans hcomma)).trans ?_
      rintro μ ⟨hμ, hno'⟩
      have hdepth' : μ.candidates.length = σ.candidates.length := by rw [hμ.depth, hκ.depth, hρ.depth]
      refine (leads_members n levels fuel hmore hμ.flowing (by rw [hdepth']; exact hflow) hno' hμ.rest).mono ?_
      rintro υ ⟨names, us, hnames, hus, hυ⟩
      rw [hdepth'] at hυ
      obtain ⟨all, hall, hwritten⟩ := written_member hfront hts hus
      refine ⟨all, _, fun k hk hword => ?_, hwritten, by simpa using hρ.trans (hκ.trans (hμ.trans hυ))⟩
      rcases hall k hk with rfl | hk
      · rw [hsame hword]
        exact Json.names_of_readMembers hmore (Json.mem_names_put.2 (.inl rfl))
      · exact hnames k hk hword
termination_by fuel => fuel

end

/-! ## Documents -/

end Scan

end ClientForge.Yaml
