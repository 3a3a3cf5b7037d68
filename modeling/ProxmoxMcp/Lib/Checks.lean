/-
  File:      ProxmoxMcp/Lib/Checks.lean
  Subject:   CHAINS OF CHECKS in `Except`: what a chain that succeeds has passed, and where one that
             fails has stopped. Nothing here names the repository.
-/
import Mathlib

namespace Checks

variable {ε α β : Type}

/-- `if (c) throw m`. -/
def failIf (c : Bool) (m : ε) : Except ε Unit := if c then .error m else .ok ()

@[simp] theorem failIf_eq_ok {c : Bool} {m : ε} {u : Unit} : failIf c m = .ok u ↔ c = false := by
  cases c with
  | false => exact ⟨fun _ => rfl, fun _ => rfl⟩
  | true => exact ⟨fun h => (nomatch h), fun h => (nomatch h)⟩

@[simp] theorem failIf_eq_error {c : Bool} {m e : ε} :
    failIf c m = .error e ↔ c = true ∧ m = e := by
  cases c with
  | false => exact ⟨fun h => (nomatch h), fun h => (nomatch h.1)⟩
  | true => exact ⟨fun h => ⟨rfl, Except.error.inj h⟩, fun h => congrArg _ h.2⟩

/-- **A chain succeeds** where its first part does and what follows it. -/
theorem bind_eq_ok {x : Except ε α} {f : α → Except ε β} {b : β} :
    (x >>= f) = .ok b ↔ ∃ a, x = .ok a ∧ f a = .ok b := by
  cases x with
  | error e => exact ⟨fun h => (nomatch h), fun ⟨a, h, _⟩ => (nomatch h)⟩
  | ok a => exact ⟨fun h => ⟨a, rfl, h⟩, fun ⟨a', ha, h⟩ => by cases ha; exact h⟩

/-- **A chain fails** in its first part, or after it. -/
theorem bind_eq_error {x : Except ε α} {f : α → Except ε β} {e : ε} :
    (x >>= f) = .error e ↔ x = .error e ∨ ∃ a, x = .ok a ∧ f a = .error e := by
  cases x with
  | error m =>
    constructor
    · intro h
      have he : m = e := Except.error.inj h
      exact Or.inl (congrArg _ he)
    · intro h
      rcases h with h | ⟨a, ha, -⟩
      · rw [Except.error.inj h]
        rfl
      · cases ha
  | ok a =>
    constructor
    · intro h
      exact Or.inr ⟨a, rfl, h⟩
    · intro h
      rcases h with h | ⟨a', ha, h⟩
      · cases h
      · cases ha
        exact h

/-- **A longer chain fails** where a chain fails that begins with the same part. -/
theorem bind_error_congr {γ : Type} {x : Except ε α} {f : α → Except ε β} {g : α → Except ε γ} {e : ε}
    (h : (x >>= f) = .error e) (hfg : ∀ a, x = .ok a → f a = .error e → g a = .error e) :
    (x >>= g) = .error e := by
  rcases bind_eq_error.mp h with hx | ⟨a, ha, hf⟩
  · exact bind_eq_error.mpr (Or.inl hx)
  · exact bind_eq_error.mpr (Or.inr ⟨a, ha, hfg a ha hf⟩)

theorem ok_bind {a : α} {f : α → Except ε β} : ((.ok a : Except ε α) >>= f) = f a := rfl

end Checks
