/-
  File:      ProxmoxMcp/Lib/Marks.lean
  Subject:   PROGRAMS WHOSE EFFECTS CARRY A MARK: what a caller says along with an effect and the
             effect itself does not show. Nothing here names the repository.

  * `mark m p` -- `p`, every effect of which carries the mark that `m` gives it;
  * `erase p` -- `p` without its marks, a morphism: it keeps sequencing, failures and handlers;
  * `run_erase` -- the runs of `erase p` are those of `p`, marks dropped;
  * `only_mark` -- what holds of the effects of `p` holds of those of `mark m p`.
-/
import ProxmoxMcp.Lib.Prog

namespace Effects

/-- An effect with a mark. -/
structure Marked (E K : Type) : Type where
  effect : E
  mark : K

/-- A mark does not change what an effect is answered with. -/
@[reducible] def MarkedReply {E : Type} (R : E → Type) (K : Type) (e : Marked E K) : Type :=
  R e.effect

namespace Prog

variable {E K : Type} {R : E → Type} {ε α β : Type}

/-! ## 1. Marking and erasing -/

/-- The program, each of whose effects carries the mark that `m` gives it. -/
def mark (m : E → K) : Prog E R ε α → Prog (Marked E K) (MarkedReply R K) ε α
  | .pure a => .pure a
  | .fail e => .fail e
  | .cut => .cut
  | .call e k => .call ⟨e, m e⟩ fun r => (k r).mark m

/-- The program without its marks. -/
def erase : Prog (Marked E K) (MarkedReply R K) ε α → Prog E R ε α
  | .pure a => .pure a
  | .fail e => .fail e
  | .cut => .cut
  | .call e k => .call e.effect fun r => (k r).erase

@[simp] theorem erase_pure (a : α) :
    (Pure.pure a : Prog (Marked E K) (MarkedReply R K) ε α).erase = Pure.pure a := rfl

@[simp] theorem erase_throw (e : ε) :
    (throw e : Prog (Marked E K) (MarkedReply R K) ε α).erase = throw e := rfl

/-- **Erasing keeps sequencing.** -/
@[simp] theorem erase_bind (p : Prog (Marked E K) (MarkedReply R K) ε α)
    (f : α → Prog (Marked E K) (MarkedReply R K) ε β) :
    (p >>= f).erase = p.erase >>= fun a => (f a).erase := by
  show (p.bind f).erase = p.erase.bind fun a => (f a).erase
  induction p with
  | pure a => rfl
  | fail e => rfl
  | cut => rfl
  | call e k ih => exact congrArg (Prog.call e.effect) (funext ih)

@[simp] theorem erase_map (p : Prog (Marked E K) (MarkedReply R K) ε α) (f : α → β) :
    (f <$> p).erase = f <$> p.erase := by
  rw [← bind_pure_comp, ← bind_pure_comp, erase_bind]
  rfl

/-- **Erasing keeps handlers.** -/
@[simp] theorem erase_tryCatch (p : Prog (Marked E K) (MarkedReply R K) ε α)
    (f : ε → Prog (Marked E K) (MarkedReply R K) ε α) :
    (tryCatch p f).erase = tryCatch p.erase fun e => (f e).erase := by
  show (p.catch' f).erase = p.erase.catch' fun e => (f e).erase
  induction p with
  | pure a => rfl
  | fail e => rfl
  | cut => rfl
  | call e k ih => exact congrArg (Prog.call e.effect) (funext ih)

@[simp] theorem erase_ofExcept (x : Except ε α) :
    (ofExcept x : Prog (Marked E K) (MarkedReply R K) ε α).erase = ofExcept x := by
  cases x <;> rfl

/-- **Erasing undoes marking.** -/
@[simp] theorem erase_mark (m : E → K) (p : Prog E R ε α) : (p.mark m).erase = p := by
  induction p with
  | pure a => rfl
  | fail e => rfl
  | cut => rfl
  | call e k ih => exact congrArg (Prog.call e) (funext ih)

/-- **Erasing keeps loops.** -/
@[simp] theorem erase_forEach (f : α → Prog (Marked E K) (MarkedReply R K) ε β) :
    ∀ as : List α, (forEach f as).erase = forEach (fun a => (f a).erase) as
  | [] => rfl
  | a :: as => by
      simp only [forEach, erase_bind, erase_pure, erase_forEach f as]

/-! ## 2. Runs -/

/-- What a marked run did and was answered. -/
def unmarked (t : Trace (MarkedReply R K)) : Trace R := t.map fun s => ⟨s.1.effect, s.2⟩

/-- **The runs of the erased program are the marked ones without their marks.** -/
theorem run_erase {p : Prog (Marked E K) (MarkedReply R K) ε α} {t : Trace R} {o : Outcome ε α} :
    Run p.erase t o ↔ ∃ u, unmarked u = t ∧ Run p u o := by
  induction p generalizing t with
  | pure a =>
    constructor
    · intro h
      cases h
      exact ⟨[], rfl, .pure a⟩
    · intro hparts
      obtain ⟨u, hu, h⟩ := hparts
      cases h
      cases hu
      exact .pure a
  | fail e =>
    constructor
    · intro h
      cases h
      exact ⟨[], rfl, .fail e⟩
    · intro hparts
      obtain ⟨u, hu, h⟩ := hparts
      cases h
      cases hu
      exact .fail e
  | cut =>
    constructor
    · intro h
      cases h
      exact ⟨[], rfl, .cut⟩
    · intro hparts
      obtain ⟨u, hu, h⟩ := hparts
      cases h
      cases hu
      exact .cut
  | call e k ih =>
    constructor
    · intro h
      cases h with
      | call _ _ r t _ h =>
        obtain ⟨u, rfl, hrun⟩ := (ih r).mp h
        exact ⟨⟨e, r⟩ :: u, rfl, .call e k r u o hrun⟩
    · intro hparts
      obtain ⟨u, hu, h⟩ := hparts
      cases h with
      | call _ _ r u _ h =>
        subst hu
        exact .call e.effect _ r _ o ((ih r).mpr ⟨u, rfl, h⟩)

/-- A run of a marked program is one of the program, and each effect carries its mark. -/
theorem run_mark {m : E → K} {p : Prog E R ε α} {u : Trace (MarkedReply R K)} {o : Outcome ε α}
    (h : Run (p.mark m) u o) : Run p (unmarked u) o ∧ ∀ s ∈ u, s.1.mark = m s.1.effect := by
  induction p generalizing u with
  | pure a =>
    cases h
    exact ⟨.pure a, fun s hs => nomatch hs⟩
  | fail e =>
    cases h
    exact ⟨.fail e, fun s hs => nomatch hs⟩
  | cut =>
    cases h
    exact ⟨.cut, fun s hs => nomatch hs⟩
  | call e k ih =>
    cases h with
    | call _ _ r u _ h =>
      obtain ⟨hrun, hmarks⟩ := ih r h
      refine ⟨.call e k r _ o hrun, fun s hs => ?_⟩
      rcases List.mem_cons.mp hs with rfl | hs
      · rfl
      · exact hmarks s hs

/-- **What holds of every effect of a program, with its mark, holds of the marked one.** -/
theorem only_mark {P : Marked E K → Prop} {m : E → K} {p : Prog E R ε α}
    (hp : Only (fun e => P ⟨e, m e⟩) p) : Only P (p.mark m) := by
  intro u o hrun s hs
  obtain ⟨hplain, hmarks⟩ := run_mark hrun
  have hP : P ⟨s.1.effect, m s.1.effect⟩ :=
    hp _ o hplain ⟨s.1.effect, s.2⟩ (List.mem_map.mpr ⟨s, hs, rfl⟩)
  rw [← hmarks s hs] at hP
  exact hP

end Prog

end Effects
