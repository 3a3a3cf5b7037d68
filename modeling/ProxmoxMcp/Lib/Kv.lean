/-
  File:      ProxmoxMcp/Lib/Kv.lean
  Subject:   A KEY-VALUE ENGINE that a program talks to: its states, its three operations and the
             laws a caller relies on. Nothing here names the repository.
-/
import Mathlib

namespace Kv

/-- An engine that keeps one value under a key. -/
structure Engine (κ ν : Type) [DecidableEq κ] where
  State : Type
  empty : State
  get : State → κ → Option ν
  put : State → κ → ν → State
  delete : State → κ → State
  get_empty : ∀ k, get empty k = none
  get_put : ∀ s k v k', get (put s k v) k' = if k = k' then some v else get s k'
  get_delete : ∀ s k k', get (delete s k) k' = if k = k' then none else get s k'

variable {κ ν : Type} [DecidableEq κ]

namespace Engine

variable (engine : Engine κ ν) {s : engine.State} {k k' : κ} {v : ν}

theorem get_put_self : engine.get (engine.put s k v) k = some v := by
  rw [engine.get_put, if_pos rfl]

theorem get_put_ne (h : k ≠ k') : engine.get (engine.put s k v) k' = engine.get s k' := by
  rw [engine.get_put, if_neg h]

theorem get_delete_self : engine.get (engine.delete s k) k = none := by
  rw [engine.get_delete, if_pos rfl]

theorem get_delete_ne (h : k ≠ k') : engine.get (engine.delete s k) k' = engine.get s k' := by
  rw [engine.get_delete, if_neg h]

end Engine

/-- The engine whose states are functions. -/
def table : Engine κ ν where
  State := κ → Option ν
  empty := fun _ => none
  get := fun s k => s k
  put := fun s k v k' => if k = k' then some v else s k'
  delete := fun s k k' => if k = k' then none else s k'
  get_empty := fun _ => rfl
  get_put := fun _ _ _ _ => rfl
  get_delete := fun _ _ _ => rfl

end Kv
