/-
  File:      ProxmoxMcp/Lib/Worlds.lean
  Subject:   PROGRAMS IN A WORLD WITH A STATE: each effect takes the world from a state to a state,
             and its reply depends on both. Nothing here names the repository.

  The world is a relation `W s e r s'`: in the state `s` the effect `e` may be answered with `r`
  and leave the state `s'`. A world that fails, loses replies or acts on its own is one that
  relates more.

  * `After W s t s'` -- the trace `t` is one that the world gives, and takes it from `s` to `s'`;
  * `Ends W p s Q` -- every run of `p` that begins in `s` ends as `Q` says, of the outcome and the
    state, with one rule for each construct.
-/
import ProxmoxMcp.Lib.Prog

namespace Effects

namespace Prog

variable {E : Type} {R : E → Type} {ε α β σ : Type}

/-! ## 1. The state after a trace -/

/-- The world gives the trace, and goes from one state to the other. -/
def After (W : σ → (e : E) → R e → σ → Prop) : σ → Trace R → σ → Prop
  | s, [], s' => s' = s
  | s, ⟨e, r⟩ :: t, s' => ∃ u, W s e r u ∧ After W u t s'

/-- Every run of the program in the world, begun in the state, ends so. -/
def Ends (W : σ → (e : E) → R e → σ → Prop) (p : Prog E R ε α) (s : σ)
    (Q : Outcome ε α → σ → Prop) : Prop :=
  ∀ t o s', Run p t o → After W s t s' → Q o s'

variable {W : σ → (e : E) → R e → σ → Prop} {s : σ} {Q : Outcome ε α → σ → Prop}

theorem after_append {s' : σ} : ∀ {t : Trace R} {t' : Trace R} {s : σ},
    After W s (t ++ t') s' ↔ ∃ u, After W s t u ∧ After W u t' s'
  | [], t', s => by simp [After]
  | ⟨e, r⟩ :: t, t', s => by
      constructor
      · intro hparts
        obtain ⟨v, hv, h⟩ := hparts
        obtain ⟨u, hu, h⟩ := after_append.mp h
        exact ⟨u, ⟨v, hv, hu⟩, h⟩
      · intro hparts
        obtain ⟨u, ⟨v, hv, hu⟩, h⟩ := hparts
        exact ⟨v, hv, after_append.mpr ⟨u, hu, h⟩⟩

/-! ## 2. The rules -/

theorem Ends.mono {p : Prog E R ε α} {Q' : Outcome ε α → σ → Prop} (h : Ends W p s Q)
    (hQ : ∀ o s', Q o s' → Q' o s') : Ends W p s Q' :=
  fun t o s' hrun hafter => hQ o s' (h t o s' hrun hafter)

theorem ends_pure {a : α} (h : Q (.ok a) s) : Ends W (Pure.pure a) s Q := by
  intro t o s' hrun hafter
  obtain ⟨rfl, rfl⟩ := run_pure.mp hrun
  cases hafter
  exact h

theorem ends_throw {m : ε} (h : Q (.error m) s) : Ends W (throw m) s Q := by
  intro t o s' hrun hafter
  obtain ⟨rfl, rfl⟩ := run_throw.mp hrun
  cases hafter
  exact h

theorem ends_ofExcept {x : Except ε α} (h : Q (.ofExcept x) s) : Ends W (ofExcept x) s Q := by
  intro t o s' hrun hafter
  obtain ⟨rfl, rfl⟩ := run_ofExcept.mp hrun
  cases hafter
  exact h

theorem ends_perform {e : E} {Q : Outcome ε (R e) → σ → Prop} (h : ∀ r s', W s e r s' → Q (.ok r) s') :
    Ends W (perform e) s Q := by
  intro t o s' hrun hafter
  obtain ⟨r, rfl, rfl⟩ := run_perform.mp hrun
  obtain ⟨u, hu, rfl⟩ := hafter
  exact h r _ hu

/-- How a sequence has to end, by how its first part does. -/
def EndsBind (W : σ → (e : E) → R e → σ → Prop) (f : α → Prog E R ε β)
    (Q : Outcome ε β → σ → Prop) : Outcome ε α → σ → Prop
  | .ok a, s => Ends W (f a) s Q
  | .error m, s => Q (.error m) s
  | .cut, s => Q .cut s

/-- **The rule for a sequence.** -/
theorem ends_bind {p : Prog E R ε α} {f : α → Prog E R ε β} {Q : Outcome ε β → σ → Prop}
    (h : Ends W p s (EndsBind W f Q)) : Ends W (p >>= f) s Q := by
  intro t o s' hrun hafter
  obtain ⟨t₁, t₂, o₁, rfl, hp, hf⟩ := run_bind.mp hrun
  obtain ⟨u, hu, hafter⟩ := after_append.mp hafter
  have hQ := h t₁ o₁ u hp hu
  cases o₁ with
  | ok a => exact hQ t₂ o s' hf hafter
  | error m =>
    obtain ⟨rfl, rfl⟩ := hf
    cases hafter
    exact hQ
  | cut =>
    obtain ⟨rfl, rfl⟩ := hf
    cases hafter
    exact hQ

/-- How a handled program has to end, by how the program does. -/
def EndsCatch (W : σ → (e : E) → R e → σ → Prop) (f : ε → Prog E R ε α)
    (Q : Outcome ε α → σ → Prop) : Outcome ε α → σ → Prop
  | .error m, s => Ends W (f m) s Q
  | o, s => Q o s

/-- **The rule for a handler.** -/
theorem ends_tryCatch {p : Prog E R ε α} {f : ε → Prog E R ε α}
    (h : Ends W p s (EndsCatch W f Q)) : Ends W (tryCatch p f) s Q := by
  intro t o s' hrun hafter
  obtain ⟨t₁, t₂, o₁, rfl, hp, hf⟩ := run_tryCatch.mp hrun
  obtain ⟨u, hu, hafter⟩ := after_append.mp hafter
  have hQ := h t₁ o₁ u hp hu
  cases o₁ with
  | ok a =>
    obtain ⟨rfl, rfl⟩ := hf
    cases hafter
    exact hQ
  | error m => exact hQ t₂ o s' hf hafter
  | cut =>
    obtain ⟨rfl, rfl⟩ := hf
    cases hafter
    exact hQ

/-- **The rule for effects that the world takes no notice of.** -/
theorem ends_of_only {p : Prog E R ε α} (hp : Only (fun e => ∀ s r s', W s e r s' → s' = s) p) :
    Ends W p s fun _ s' => s' = s := by
  intro t o s' hrun hafter
  have hsame : ∀ (t : Trace R) (s : σ), (∀ step ∈ t, ∀ s r s', W s step.1 r s' → s' = s) →
      After W s t s' → s' = s := by
    intro t
    induction t with
    | nil => exact fun s _ h => h
    | cons step t ih =>
      intro s hquiet hparts
      obtain ⟨u, hu, h⟩ := hparts
      have hus := hquiet step List.mem_cons_self s step.2 u hu
      subst hus
      exact ih u (fun x hx => hquiet x (List.mem_cons_of_mem _ hx)) h
  exact hsame t s (fun step hstep => hp t o hrun step hstep) hafter

/-- A sequence that begins with such effects. -/
theorem ends_quiet_bind {p : Prog E R ε α} {f : α → Prog E R ε β} {Q : Outcome ε β → σ → Prop}
    (hp : Only (fun e => ∀ s r s', W s e r s' → s' = s) p) (hf : ∀ a, Ends W (f a) s Q)
    (herror : ∀ m, Q (.error m) s) (hcut : Q .cut s) : Ends W (p >>= f) s Q := by
  refine ends_bind ((ends_of_only hp).mono fun o s' hs => ?_)
  subst hs
  cases o with
  | ok a => exact hf a
  | error m => exact herror m
  | cut => exact hcut

/-! ## 3. Worlds that are functions -/

/-- The run in the world whose states and replies are a function of the state and the effect. -/
def runIn (world : σ → (e : E) → R e × σ) : Prog E R ε α → σ → Trace R × Outcome ε α × σ
  | .pure a, s => ([], .ok a, s)
  | .fail m, s => ([], .error m, s)
  | .cut, s => ([], .cut, s)
  | .call e k, s =>
      let answer := world s e
      let rest := runIn world (k answer.1) answer.2
      (⟨e, answer.1⟩ :: rest.1, rest.2)

theorem run_runIn (world : σ → (e : E) → R e × σ) (p : Prog E R ε α) : ∀ s : σ,
    Run p (p.runIn world s).1 (p.runIn world s).2.1 := by
  induction p with
  | pure a => exact fun _ => .pure a
  | fail m => exact fun _ => .fail m
  | cut => exact fun _ => .cut
  | call e k ih => exact fun s => .call e k _ _ _ (ih _ _)

/-- **That run is one of every world that relates what the function answers.** -/
theorem after_runIn {world : σ → (e : E) → R e × σ}
    (hworld : ∀ s e, W s e (world s e).1 (world s e).2) (p : Prog E R ε α) : ∀ s : σ,
    After W s (p.runIn world s).1 (p.runIn world s).2.2 := by
  induction p with
  | pure a => exact fun _ => rfl
  | fail m => exact fun _ => rfl
  | cut => exact fun _ => rfl
  | call e k ih => exact fun s => ⟨_, hworld s e, ih _ _⟩

end Prog

end Effects
