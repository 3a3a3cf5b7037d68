/-
  File:      ProxmoxMcp/Lib/Runs.lean
  Subject:   RUNS OF A STEP FUNCTION over events, and the one induction over them. Nothing here names
             the repository.

  A step answers `none` where its event cannot happen in the state.
-/
import Mathlib

namespace Runs

variable {σ ε : Type} (step : σ → ε → Option σ)

/-- The state after the events, where each of them can happen. -/
def run (s : σ) : List ε → Option σ
  | [] => some s
  | e :: es => (step s e).bind fun s' => run s' es

variable {step}

@[simp] theorem run_nil {s : σ} : run step s [] = some s := rfl

theorem run_cons {s t : σ} {e : ε} {es : List ε} :
    run step s (e :: es) = some t ↔ ∃ u, step s e = some u ∧ run step u es = some t := by
  rw [run, Option.bind_eq_some_iff]

/-- A run may stop and go on. -/
theorem run_append {s t : σ} : ∀ {es es' : List ε},
    run step s (es ++ es') = some t ↔ ∃ u, run step s es = some u ∧ run step u es' = some t
  | [], es' => by simp
  | e :: es, es' => by
      rw [List.cons_append, run_cons]
      constructor
      · intro hparts
        obtain ⟨u, hu, h⟩ := hparts
        obtain ⟨v, hv, h⟩ := run_append.mp h
        exact ⟨v, run_cons.mpr ⟨u, hu, hv⟩, h⟩
      · intro hparts
        obtain ⟨v, hv, h⟩ := hparts
        obtain ⟨u, hu, hv⟩ := run_cons.mp hv
        exact ⟨u, hu, run_append.mpr ⟨v, hv, h⟩⟩

/-- **What a step keeps, a run keeps.** -/
theorem invariant {P : σ → Prop} (hstep : ∀ {s e t}, P s → step s e = some t → P t) :
    ∀ {es : List ε} {s t : σ}, P s → run step s es = some t → P t
  | [], s, t, hs, h => by
      cases h
      exact hs
  | e :: es, s, t, hs, h => by
      obtain ⟨u, hu, h⟩ := run_cons.mp h
      exact invariant hstep (hstep hs hu) h

/-- Every step of the run is taken where the condition holds. -/
def Along (step : σ → ε → Option σ) (P : σ → ε → Prop) (s : σ) : List ε → Prop
  | [] => True
  | e :: es => P s e ∧ ∀ t, step s e = some t → Along step P t es

/-- **What a step keeps under a condition**, a run keeps whose steps all meet it. -/
theorem invariant_along {P : σ → Prop} {C : σ → ε → Prop}
    (hstep : ∀ {s e t}, P s → C s e → step s e = some t → P t) :
    ∀ {es : List ε} {s t : σ}, P s → Along step C s es → run step s es = some t → P t
  | [], s, t, hs, _, h => by
      cases h
      exact hs
  | e :: es, s, t, hs, hc, h => by
      obtain ⟨u, hu, h⟩ := run_cons.mp h
      exact invariant_along hstep (hstep hs hc.1 hu) (hc.2 u hu) h

/-- A condition along a run, step by step. -/
theorem along_cons {P : σ → ε → Prop} {s t : σ} {e : ε} {es : List ε} (hs : step s e = some t)
    (h : P s e) (ht : Along step P t es) : Along step P s (e :: es) := by
  refine ⟨h, fun u hu => ?_⟩
  rw [hs] at hu
  cases hu
  exact ht

/-- The last step of a run. -/
theorem run_concat {s t : σ} {es : List ε} {e : ε} :
    run step s (es ++ [e]) = some t ↔ ∃ u, run step s es = some u ∧ step u e = some t := by
  rw [run_append]
  refine exists_congr fun u => and_congr_right fun _ => ?_
  rw [run_cons]
  exact ⟨fun ⟨v, hv, h⟩ => by cases h; exact hv, fun h => ⟨t, h, rfl⟩⟩

/-- A condition along a run holds along what it begins with. -/
theorem along_of_append {P : σ → ε → Prop} {s : σ} : ∀ {es es' : List ε},
    Along step P s (es ++ es') → Along step P s es
  | [], _, _ => trivial
  | _ :: _, _, h => ⟨h.1, fun u hu => along_of_append (h.2 u hu)⟩

/-- A condition along a run, and along what it goes on with. -/
theorem along_append {P : σ → ε → Prop} : ∀ {es es' : List ε} {s : σ}, Along step P s es →
    (∀ t, run step s es = some t → Along step P t es') → Along step P s (es ++ es')
  | [], _, s, _, h => h s rfl
  | _ :: _, _, _, hes, h =>
      ⟨hes.1, fun u hu => along_append (hes.2 u hu) fun t ht => h t (run_cons.mpr ⟨u, hu, ht⟩)⟩

/-- A condition that holds wherever the run has got to holds along it. -/
theorem along_of_at {P : σ → ε → Prop} : ∀ {es : List ε} {s : σ},
    (∀ es₁ e es₂ t, es = es₁ ++ e :: es₂ → run step s es₁ = some t → P t e) → Along step P s es
  | [], _, _ => trivial
  | e :: es, s, h => by
      refine ⟨h [] e es s rfl rfl, fun u hu => along_of_at fun es₁ e' es₂ t hes ht => ?_⟩
      refine h (e :: es₁) e' es₂ t ?_ (run_cons.mpr ⟨u, hu, ht⟩)
      rw [hes]
      rfl

end Runs
