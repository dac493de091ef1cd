import DnsView.Event
import Mathlib.Tactic.Common

/-!
# Steps that may fail

A sequence of steps succeeds exactly when each step does, and fails with the error of the first step
that does not.
-/

namespace DnsView

variable {ε ε' α β : Type}

theorem bind_eq_ok {x : Except ε α} {f : α → Except ε β} {b : β} :
    (x >>= f) = .ok b ↔ ∃ a, x = .ok a ∧ f a = .ok b := by
  cases x with
  | error e =>
      simp [bind, Except.bind]
  | ok a =>
      simp [bind, Except.bind]

theorem map_eq_ok {x : Except ε α} {f : α → β} {b : β} :
    (f <$> x) = .ok b ↔ ∃ a, x = .ok a ∧ f a = b := by
  cases x with
  | error e =>
      simp [Functor.map, Except.map]
  | ok a =>
      simp [Functor.map, Except.map]

theorem pure_eq_ok {a b : α} : (pure a : Except ε α) = .ok b ↔ a = b := by
  simp [pure, Except.pure]

theorem bind_congr_ok {x : Except ε α} {f g : α → Except ε β} (h : ∀ a, x = .ok a → f a = g a) :
    x >>= f = x >>= g := by
  cases x with
  | error e =>
      rfl
  | ok a =>
      exact h a rfl

theorem mapError_eq_ok {f : ε → ε'} {x : Except ε α} {a : α} :
    x.mapError f = .ok a ↔ x = .ok a := by
  cases x with
  | error e =>
      simp [Except.mapError]
  | ok a' =>
      simp [Except.mapError]

/-!
## Errors
-/

def errorOf? : Except ε α → Option ε
  | .error e => some e
  | .ok _ => none

theorem errorOf?_eq_some_iff {x : Except ε α} {e : ε} : errorOf? x = some e ↔ x = .error e := by
  cases x with
  | error e' =>
      simp [errorOf?]
  | ok a =>
      simp [errorOf?]

theorem errorOf?_eq_none_iff {x : Except ε α} : errorOf? x = none ↔ ∃ a, x = .ok a := by
  cases x with
  | error e =>
      simp [errorOf?]
  | ok a =>
      simp [errorOf?]

theorem errorOf?_mapError (f : ε → ε') (x : Except ε α) :
    errorOf? (x.mapError f) = (errorOf? x).map f := by
  cases x with
  | error e =>
      rfl
  | ok a =>
      rfl

theorem errorOf?_bind {x : Except ε α} {f : α → Except ε β} {e : Option ε}
    (h : ∀ a, x = .ok a → errorOf? (f a) = e) : errorOf? (x >>= f) = (errorOf? x).or e := by
  cases x with
  | error e =>
      rfl
  | ok a =>
      exact h a rfl

/-!
## Attempts

The outcome of a sequence of attempts depends on their outcomes only, and what they tell is told up
to the one that fails.
-/

namespace Attempt

theorem outcome_bind (x : Attempt ε α) (f : α → Attempt ε β) :
    (x >>= f).outcome = x.outcome >>= fun a => (f a).outcome := by
  rcases x with ⟨e | a, events⟩
  · rfl
  · rfl

theorem outcome_mapError (f : ε → ε') (x : Attempt ε α) :
    (x.mapError f).outcome = x.outcome.mapError f :=
  rfl

theorem bind_of_ok {x : Attempt ε α} {a : α} {events : List Event} (h : x = ⟨.ok a, events⟩)
    (f : α → Attempt ε β) : x >>= f = ⟨(f a).outcome, events ++ (f a).events⟩ := by
  rw [h]
  rfl

theorem bind_of_error {x : Attempt ε α} {e : ε} {events : List Event}
    (h : x = ⟨.error e, events⟩) (f : α → Attempt ε β) : x >>= f = ⟨.error e, events⟩ := by
  rw [h]
  rfl

theorem events_prefix_bind (x : Attempt ε α) (f : α → Attempt ε β) :
    x.events <+: (x >>= f).events := by
  rcases x with ⟨e | a, events⟩
  · exact List.prefix_refl events
  · exact List.prefix_append events (f a).events

theorem events_bind_pure (x : Attempt ε α) (f : α → β) :
    (x >>= fun a => pure (f a)).events = x.events := by
  rcases x with ⟨e | a, events⟩
  · rfl
  · exact List.append_nil events

theorem bind_assoc {γ : Type} (x : Attempt ε α) (f : α → Attempt ε β) (g : β → Attempt ε γ) :
    x >>= f >>= g = x >>= fun a => f a >>= g := by
  rcases x with ⟨e | a, events⟩
  · rfl
  · rw [bind_of_ok rfl f, bind_of_ok rfl fun a => f a >>= g]
    rcases f a with ⟨e | b, further⟩
    · rfl
    · show (⟨_, events ++ further ++ _⟩ : Attempt ε γ) = ⟨_, events ++ (further ++ _)⟩
      rw [List.append_assoc]
      rfl

end Attempt

theorem errorOf?_settled (x : Attempt ε α) : errorOf? x.settled = errorOf? x.outcome := by
  rcases x with ⟨e | a, events⟩
  · rfl
  · rfl

end DnsView
