import ClientForge.Failure

/-!
Traced results: an outcome, and the notes taken on the way to it. Notes are kept when the outcome is
a failure, and never change it.
-/

namespace ClientForge

/-- How much a note matters. -/
inductive Level where
  | debug
  | info
deriving DecidableEq, Repr, Inhabited

def Level.name : Level → String
  | debug => "DEBUG"
  | info => "INFO"

/-- The part of the program that takes a note, as it is shown. -/
inductive Topic where
  | naming
  | references
  | openApi
  | postman
  | html
  | generation
deriving DecidableEq, Repr, Inhabited

def Topic.name : Topic → String
  | naming => "api_codegen.naming"
  | references => "api_codegen.parser.refs"
  | openApi => "api_codegen.parser.swagger"
  | postman => "api_codegen.parser.postman"
  | html => "api_codegen.parser.html"
  | generation => "api_codegen.generator.engine"

/-- A remark on what is being done. -/
structure Note where
  level : Level
  topic : Topic
  text : String
deriving DecidableEq, Repr, Inhabited

/-- A note on one line. -/
def Note.line (n : Note) : String := n.level.name ++ " " ++ n.topic.name ++ ": " ++ n.text

/-- An outcome with the notes taken on the way. -/
structure Traced (α : Type) where
  notes : List Note
  outcome : Except Failure α

namespace Traced

def done {α : Type} (a : α) : Traced α := ⟨[], .ok a⟩

def fail {α : Type} (f : Failure) : Traced α := ⟨[], .error f⟩

/-- Go on after an outcome that is no failure. -/
def andThen {α β : Type} (x : Traced α) (f : α → Traced β) : Traced β :=
  match x.outcome with
  | .ok a => ⟨x.notes ++ (f a).notes, (f a).outcome⟩
  | .error e => ⟨x.notes, .error e⟩

instance : Monad Traced where
  pure := done
  bind := andThen

instance : MonadExcept Failure Traced where
  throw := fail
  tryCatch x handle :=
    match x.outcome with
    | .ok _ => x
    | .error e => ⟨x.notes ++ (handle e).notes, (handle e).outcome⟩

/-- An outcome without notes. -/
def ofExcept {α : Type} (x : Except Failure α) : Traced α := ⟨[], x⟩

instance : MonadLift (Except Failure) Traced := ⟨ofExcept⟩

/-- Take a note. -/
def note (level : Level) (topic : Topic) (text : String) : Traced Unit :=
  ⟨[⟨level, topic, text⟩], .ok ()⟩

/-- The failures of a part, told with the part. -/
def within {α : Type} (part : String) (x : Traced α) : Traced α :=
  ⟨x.notes, x.outcome.mapError (·.within part)⟩

/-- The failures of a part, told with the part if it can be displayed. -/
def withinShown {α : Type} (part : Except Failure String) (x : Traced α) : Traced α :=
  ⟨x.notes, x.outcome.mapError (·.withinShown part)⟩

@[simp] theorem outcome_bind {α β : Type} (x : Traced α) (f : α → Traced β) :
    (x >>= f).outcome = x.outcome.bind fun a => (f a).outcome := by
  show (x.andThen f).outcome = _
  unfold andThen
  cases x.outcome <;> rfl

@[simp] theorem outcome_pure {α : Type} (a : α) : (pure a : Traced α).outcome = .ok a := rfl

@[simp] theorem outcome_note (l : Level) (t : Topic) (s : String) : (note l t s).outcome = .ok () := rfl

@[simp] theorem outcome_throw {α : Type} (f : Failure) : (throw f : Traced α).outcome = .error f := rfl

@[simp] theorem outcome_liftM {α : Type} (x : Except Failure α) : (liftM x : Traced α).outcome = x := rfl

@[simp] theorem outcome_map {α β : Type} (f : α → β) (x : Traced α) :
    (f <$> x).outcome = x.outcome.map f := by
  show (x >>= fun a => pure (f a)).outcome = _
  rw [outcome_bind]
  cases x.outcome <;> rfl

@[simp] theorem outcome_within {α : Type} (part : String) (x : Traced α) :
    (within part x).outcome = x.outcome.mapError (·.within part) := rfl

@[simp] theorem outcome_withinShown {α : Type} (part : Except Failure String) (x : Traced α) :
    (withinShown part x).outcome = x.outcome.mapError (·.withinShown part) := rfl

theorem bind_eq_ok {α β : Type} {x : Traced α} {f : α → Traced β} {b : β} :
    (x >>= f).outcome = .ok b ↔ ∃ a, x.outcome = .ok a ∧ (f a).outcome = .ok b := by
  rw [outcome_bind]
  cases x.outcome <;> simp [Except.bind]

/-- Steps one for each item end as the steps without notes do. -/
theorem outcome_forM_eq {α : Type} (f : α → Traced Unit) (xs : List α) :
    (xs.forM f).outcome = xs.forM fun x => (f x).outcome := by
  induction xs with
  | nil => rfl
  | cons x xs ih =>
    have hcons : (x :: xs).forM f = (f x >>= fun _ => xs.forM f) := rfl
    rw [hcons, outcome_bind, ih]
    rfl

/-- Steps that cannot fail, one for each item, do not fail together. -/
theorem outcome_forM {α : Type} {f : α → Traced Unit} (h : ∀ a, (f a).outcome = .ok ()) (xs : List α) :
    (xs.forM f).outcome = .ok () := by
  rw [outcome_forM_eq]
  induction xs with
  | nil => rfl
  | cons x xs ih =>
    show ((f x).outcome >>= fun _ => xs.forM fun y => (f y).outcome) = .ok ()
    rw [h]
    exact ih

end Traced

/-- Checked data of a kind, as a step of reading a document. -/
def asKind {α : Type} (kind : String) (x : Except (List Issue) α) : Except Failure α :=
  x.mapError (.invalid kind)

end ClientForge
