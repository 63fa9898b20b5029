import ClientForge.Proofs.Json.RoundTrip
import ClientForge.Text.Line

/-!
The text of a JSON value has no carriage returns: its numbers have none, its literals escape them, and
its lines end with line feeds (`Json.noReturn_write`). So it is the same text when all line ends of a
text file become line feeds (`Json.unifyLineEnds_write`).
-/

namespace ClientForge

/-- Is there no carriage return in the text? -/
def NoReturn (s : List Char) : Prop := ∀ c ∈ s, c ≠ '\r'

instance (s : List Char) : Decidable (NoReturn s) := List.decidableBAll _ s

theorem noReturn_append {s t : List Char} : NoReturn (s ++ t) ↔ NoReturn s ∧ NoReturn t :=
  List.forall_mem_append

theorem noReturn_cons {c : Char} {s : List Char} : NoReturn (c :: s) ↔ c ≠ '\r' ∧ NoReturn s :=
  List.forall_mem_cons

theorem noReturn_nil : NoReturn [] := List.forall_mem_nil _

theorem unifyLineEnds_of_noReturn {s : List Char} (h : NoReturn s) : Text.unifyLineEnds s = s := by
  induction s with
  | nil => rfl
  | cons c s ih =>
    obtain ⟨hc, hs⟩ := noReturn_cons.1 h
    rw [Text.unifyLineEnds.eq_def]
    split <;> simp_all

namespace Json

/-! ## Scalars -/

theorem AllDigits.noReturn {s : List Char} (h : AllDigits s) : NoReturn s := by
  rintro c hc rfl
  exact absurd (h _ hc) (by decide)

theorem IsWhole.noReturn {s : List Char} (h : IsWhole s) : NoReturn s := by
  rcases h with rfl | ⟨_, _, _, _, h⟩
  · exact noReturn_cons.2 ⟨by decide, noReturn_nil⟩
  · exact h.noReturn

theorem IsDecimal.noReturn {s : List Char} {digits : Nat} {exponent : Int} (h : IsDecimal s digits exponent) :
    NoReturn s := by
  have hsign : ∀ negative, signOf negative ≠ '\r' := by decide
  cases h with
  | positional hwhole _ _ hplaces =>
    exact noReturn_append.2 ⟨hwhole.noReturn, noReturn_cons.2 ⟨by decide, hplaces.noReturn⟩⟩
  | scientific negative hwhole _ _ hds =>
    refine noReturn_append.2 ⟨hwhole.noReturn, noReturn_cons.2 ⟨by decide, ?_⟩⟩
    exact noReturn_cons.2 ⟨hsign negative, hds.noReturn⟩
  | both negative hwhole _ _ hplaces _ hds =>
    refine noReturn_append.2 ⟨noReturn_append.2 ⟨hwhole.noReturn, ?_⟩, noReturn_cons.2 ⟨by decide, ?_⟩⟩
    · exact noReturn_cons.2 ⟨by decide, hplaces.noReturn⟩
    · exact noReturn_cons.2 ⟨hsign negative, hds.noReturn⟩

theorem noReturn_toString_int (n : Int) : NoReturn (toString n).toList := by
  have hdigits := (allDigits_repr n.natAbs).noReturn
  rw [toList_toString_int]
  split
  · exact noReturn_cons.2 ⟨by decide, hdigits⟩
  · exact hdigits

theorem noReturn_writeFloat (x : Double) : NoReturn (writeFloat x) := by
  obtain ⟨_, _, hdecimal⟩ := Decimal.isDecimal_saved x
  unfold writeFloat Decimal.Notation.write
  split
  · split
    · exact noReturn_cons.2 ⟨by decide, hdecimal.noReturn⟩
    · exact hdecimal.noReturn
  · decide

theorem noReturn_encode (s : List Char) : NoReturn (encode s) := by
  rintro c hc rfl
  exact absurd (toNat_le_of_mem_encode hc) (by decide)

/-! ## The whole -/

theorem noReturn_newLine (l : Layout) (level : Nat) : NoReturn (l.newLine level) := by
  cases l with
  | compact => exact noReturn_nil
  | indented =>
    refine noReturn_cons.2 ⟨by decide, fun c hc => ?_⟩
    rw [List.eq_of_mem_replicate hc]
    decide

theorem noReturn_comma (last : Bool) : NoReturn (if last then [] else [',']) := by
  cases last <;> decide

mutual

theorem noReturn_write (l : Layout) (level : Nat) : ∀ v : Json, NoReturn (write l level v)
  | null => (by decide : NoReturn "null".toList)
  | bool true => (by decide : NoReturn "true".toList)
  | bool false => (by decide : NoReturn "false".toList)
  | int n => noReturn_toString_int n
  | float x => noReturn_writeFloat x
  | text s => noReturn_encode s.toList
  | array [] => (by decide : NoReturn ['[', ']'])
  | array (x :: xs) => by
    have hitems := noReturn_writeItems l (level + 1) (x :: xs)
    simp only [write, noReturn_append]
    exact ⟨⟨noReturn_cons.2 ⟨by decide, hitems⟩, noReturn_newLine l level⟩, by decide⟩
  | object [] => (by decide : NoReturn ['\x7b', '\x7d'])
  | object (m :: ms) => by
    have hmembers := noReturn_writeMembers l (level + 1) (m :: ms)
    simp only [write, noReturn_append]
    exact ⟨⟨noReturn_cons.2 ⟨by decide, hmembers⟩, noReturn_newLine l level⟩, by decide⟩
termination_by structural v => v

theorem noReturn_writeItems (l : Layout) (level : Nat) : ∀ xs : List Json, NoReturn (writeItems l level xs)
  | [] => noReturn_nil
  | x :: xs => by
    have hx := noReturn_write l level x
    have hxs := noReturn_writeItems l level xs
    simp only [writeItems, noReturn_append]
    exact ⟨⟨⟨noReturn_newLine l level, hx⟩, noReturn_comma _⟩, hxs⟩
termination_by structural xs => xs

theorem noReturn_writeMembers (l : Layout) (level : Nat) :
    ∀ ms : List (String × Json), NoReturn (writeMembers l level ms)
  | [] => noReturn_nil
  | (k, v) :: ms => by
    have hv := noReturn_write l level v
    have hms := noReturn_writeMembers l level ms
    have hcolon : NoReturn l.colon := by cases l <;> decide
    simp only [writeMembers, noReturn_append]
    exact ⟨⟨⟨⟨⟨noReturn_newLine l level, noReturn_encode k.toList⟩, hcolon⟩, hv⟩, noReturn_comma _⟩, hms⟩
termination_by structural ms => ms

end

/-- The text of a JSON value is the same when all line ends become line feeds. -/
theorem unifyLineEnds_write (l : Layout) (level : Nat) (v : Json) :
    Text.unifyLineEnds (write l level v) = write l level v :=
  unifyLineEnds_of_noReturn (noReturn_write l level v)

end Json

end ClientForge
