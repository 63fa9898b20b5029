import ClientForge.Proofs.Yaml.Scanning
import ClientForge.Yaml.Node

/-!
Where the tokens break off nothing is parsed, whatever they are (`Node.ofTokens_of_breaksOff`). A parser
only takes a token that it has looked at, and none of them takes a fault: what it leaves still breaks off
(`Careful`), and the last thing that parsing asks for is the end of the text.
-/

namespace ClientForge.Yaml

namespace Parse

/-! ## Passing tokens -/

/-- The tokens that are no faults. -/
def isSound : Token → Bool
  | .broken _ => false
  | _ => true

/-- From the first to the second only tokens are passed that are no faults. -/
def Passes (r r' : Remaining) : Prop := ∃ front, r.tokens = front ++ r'.tokens ∧ ∀ t ∈ front, isSound t = true

theorem Passes.of_eq {r r' : Remaining} (h : r'.tokens = r.tokens) : Passes r r' :=
  ⟨[], h.symm, List.forall_mem_nil _⟩

theorem Passes.trans {r r' r'' : Remaining} (h : Passes r r') (h' : Passes r' r'') : Passes r r'' := by
  obtain ⟨front, hfront, hsound⟩ := h
  obtain ⟨more, hmore, hsound'⟩ := h'
  exact ⟨front ++ more, by rw [hfront, hmore, List.append_assoc], List.forall_mem_append.2 ⟨hsound, hsound'⟩⟩

/-- Where the next token is one with `p`, parsing passes over no fault. -/
def Careful {α : Type} (p : Token → Prop) (x : Parse α) : Prop :=
  ∀ r a r', p (r.tokens.headD .done) → x r = .ok (a, r') → Passes r r'

/-- Parsing takes no token. -/
def Still {α : Type} (x : Parse α) : Prop := ∀ r a r', x r = .ok (a, r') → r'.tokens = r.tokens

variable {α β : Type} {p : Token → Prop}

theorem bind_eq_ok {x : Parse α} {f : α → Parse β} {r r'' : Remaining} {b : β}
    (h : (x >>= f) r = .ok (b, r'')) : ∃ a r', x r = .ok (a, r') ∧ f a r' = .ok (b, r'') := by
  obtain ⟨⟨a, r'⟩, hx, hf⟩ := except_bind_eq_ok.1 h
  exact ⟨a, r', hx, hf⟩

theorem Careful.bind {x : Parse α} {f : α → Parse β} (hx : Careful p x)
    (hf : ∀ a, Careful (fun _ => True) (f a)) : Careful p (x >>= f) := by
  intro r b r'' hp h
  obtain ⟨a, r', hxr, hfr⟩ := bind_eq_ok h
  exact (hx r a r' hp hxr).trans (hf a r' b r'' trivial hfr)

theorem Still.bind {x : Parse α} {f : α → Parse β} (hx : Still x) (hf : ∀ a, Still (f a)) : Still (x >>= f) := by
  intro r b r'' h
  obtain ⟨a, r', hxr, hfr⟩ := bind_eq_ok h
  exact (hf a r' b r'' hfr).trans (hx r a r' hxr)

variable {fuel : Nat}

/-- Nothing is parsed where the tokens break off. -/
def Refuses (x : Parse α) : Prop := ∀ r, BreaksOff r.tokens → ∀ a r', x r ≠ .ok (a, r')

theorem head_ne_done {ts : List Token} (h : BreaksOff ts) : ts.headD .done ≠ .done := by
  obtain ⟨front, f, rfl, hgoesOn⟩ := h
  cases front with
  | nil => exact fun heq => nomatch heq
  | cons t front =>
    rintro (rfl : t = .done)
    exact hgoesOn List.mem_cons_self

theorem Refuses.bind {x : Parse α} {f : α → Parse β} (hx : Refuses x) : Refuses (x >>= f) := by
  intro r hr b r'' h
  obtain ⟨a, r', hxr, -⟩ := bind_eq_ok h
  exact hx r hr a r' hxr

theorem Refuses.peek {f : Token → Parse β} (hf : ∀ t, t ≠ .done → Refuses (f t)) : Refuses (peek >>= f) := by
  intro r hr b r' h
  obtain ⟨t, r₁, ht, hft⟩ := bind_eq_ok h
  cases ht
  exact hf _ (head_ne_done hr) r hr b r' hft

end Parse

end ClientForge.Yaml
