/-
  File:      ProxmoxMcp/Lib/Prog.lean
  Subject:   PROGRAMS OVER AN EFFECT SIGNATURE: a program either ends or performs an effect and
             goes on with the reply. Nothing here names the repository.

  A server is a program whose effects (requests, log lines, clock reads) are answered by the
  world. A property of its TRACES (what was done, in which order, and what came back) has to hold
  whatever the world answers, so a run is a choice of replies:

  * `Prog E R ε α` -- a program with effects `e : E`, replies in `R e`, failures in `ε`;
  * `Run p t o` -- some run of `p` performs the trace `t` and ends with `o`;
  * `wp ok p Q h` -- after the history `h`, every effect of `p` is admitted by `ok` (which reads
    the history) and every way to end meets `Q`;
  * `wp_iff_run` -- the two say the same: `wp` is exactly "in every run".

  `cut` ends a run that is only observed up to here (a polling loop whose budget of rounds is
  used up); it is not a failure, and no handler catches it.
-/
import Mathlib

namespace Effects

/-- A program over the effects `E`, the effect `e` being answered by an `R e`. -/
inductive Prog (E : Type) (R : E → Type) (ε : Type) (α : Type) : Type where
  | pure (a : α) : Prog E R ε α
  | fail (m : ε) : Prog E R ε α
  | cut : Prog E R ε α
  | call (e : E) (k : R e → Prog E R ε α) : Prog E R ε α

/-- How a run ends. -/
inductive Outcome (ε α : Type) : Type where
  | ok (a : α) : Outcome ε α
  | error (m : ε) : Outcome ε α
  | cut : Outcome ε α
  deriving Repr, DecidableEq

/-- How a failing value ends. -/
def Outcome.ofExcept {ε α : Type} : Except ε α → Outcome ε α
  | .ok a => .ok a
  | .error m => .error m

theorem Outcome.eq_ok_of_ofExcept {ε α : Type} {x : Except ε α} {a : α}
    (h : Outcome.ok a = .ofExcept x) : x = .ok a := by
  cases x with
  | ok b => cases h; rfl
  | error m => cases h

/-- What was done and what came back, in order. -/
abbrev Trace {E : Type} (R : E → Type) : Type := List (Σ e : E, R e)

namespace Prog

variable {E : Type} {R : E → Type} {ε α β : Type}

/-! ## 1. The monad -/

/-- Sequencing. -/
def bind : Prog E R ε α → (α → Prog E R ε β) → Prog E R ε β
  | .pure a, f => f a
  | .fail m, _ => .fail m
  | .cut, _ => .cut
  | .call e k, f => .call e fun r => (k r).bind f

/-- `p`, and `f` on the failure of `p`. A cut is not a failure. -/
def catch' : Prog E R ε α → (ε → Prog E R ε α) → Prog E R ε α
  | .pure a, _ => .pure a
  | .fail m, f => f m
  | .cut, _ => .cut
  | .call e k, f => .call e fun r => (k r).catch' f

instance : Monad (Prog E R ε) where
  pure := .pure
  bind := bind

instance : MonadExceptOf ε (Prog E R ε) where
  throw := .fail
  tryCatch := catch'

/-- Perform one effect and return its reply. -/
def perform (e : E) : Prog E R ε (R e) := .call e .pure

/-- A failing value as a program. -/
def ofExcept : Except ε α → Prog E R ε α
  | .ok a => .pure a
  | .error m => .fail m

@[simp] theorem ofExcept_ok_bind (a : α) (f : α → Prog E R ε β) :
    (ofExcept (.ok a) >>= f) = f a := rfl

theorem bind_returns (p : Prog E R ε α) : p.bind .pure = p := by
  induction p with
  | pure a => rfl
  | fail m => rfl
  | cut => rfl
  | call e k ih => exact congrArg (Prog.call e) (funext ih)

theorem bind_bind {γ : Type} (p : Prog E R ε α) (f : α → Prog E R ε β) (g : β → Prog E R ε γ) :
    (p.bind f).bind g = p.bind fun a => (f a).bind g := by
  induction p with
  | pure a => rfl
  | fail m => rfl
  | cut => rfl
  | call e k ih => exact congrArg (Prog.call e) (funext ih)

instance : LawfulMonad (Prog E R ε) :=
  LawfulMonad.mk' _ bind_returns (fun _ _ => rfl) bind_bind

/-! ## 2. Runs -/

/-- **A run**: a choice of replies, the trace it leaves and the way it ends. -/
inductive Run : Prog E R ε α → Trace R → Outcome ε α → Prop where
  | pure (a : α) : Run (.pure a) [] (.ok a)
  | fail (m : ε) : Run (.fail m) [] (.error m)
  | cut : Run .cut [] .cut
  | call (e : E) (k : R e → Prog E R ε α) (r : R e) (t : Trace R) (o : Outcome ε α)
      (h : Run (k r) t o) : Run (.call e k) (⟨e, r⟩ :: t) o

/-- How `p >>= f` runs once `p` has ended with `o`. -/
def BindRun (f : α → Prog E R ε β) (t : Trace R) (o' : Outcome ε β) : Outcome ε α → Prop
  | .ok a => Run (f a) t o'
  | .error m => t = [] ∧ o' = .error m
  | .cut => t = [] ∧ o' = .cut

/-- **A run of `p >>= f`** is a run of `p`, followed by one of `f` where `p` returns. -/
theorem run_bind {p : Prog E R ε α} {f : α → Prog E R ε β} {t : Trace R} {o' : Outcome ε β} :
    Run (p >>= f) t o' ↔ ∃ t₁ t₂ o, t = t₁ ++ t₂ ∧ Run p t₁ o ∧ BindRun f t₂ o' o := by
  show Run (p.bind f) t o' ↔ _
  induction p generalizing t with
  | pure a =>
    refine ⟨fun h => ⟨[], t, _, rfl, .pure a, h⟩, ?_⟩
    rintro ⟨t₁, t₂, o, rfl, ⟨⟩, h⟩
    exact h
  | fail m =>
    constructor
    · rintro ⟨⟩
      exact ⟨[], [], _, rfl, .fail m, rfl, rfl⟩
    · rintro ⟨t₁, t₂, o, rfl, ⟨⟩, rfl, rfl⟩
      exact .fail m
  | cut =>
    constructor
    · rintro ⟨⟩
      exact ⟨[], [], _, rfl, .cut, rfl, rfl⟩
    · rintro ⟨t₁, t₂, o, rfl, ⟨⟩, rfl, rfl⟩
      exact .cut
  | call e k ih =>
    constructor
    · intro h
      cases h with
      | call _ _ r t _ h =>
        obtain ⟨t₁, t₂, o, rfl, h1, h2⟩ := (ih r).mp h
        exact ⟨_, t₂, o, rfl, .call e k r t₁ o h1, h2⟩
    · rintro ⟨t₁, t₂, o, rfl, h1, h2⟩
      cases h1 with
      | call _ _ r t₁ _ h1 =>
        exact .call _ _ r _ _ ((ih r).mpr ⟨t₁, t₂, o, rfl, h1, h2⟩)

/-- A sequence that returns. -/
theorem run_bind_ok {p : Prog E R ε α} {f : α → Prog E R ε β} {t : Trace R} {b : β}
    (h : Run (p >>= f) t (.ok b)) :
    ∃ t₁ t₂ a, t = t₁ ++ t₂ ∧ Run p t₁ (.ok a) ∧ Run (f a) t₂ (.ok b) := by
  obtain ⟨t₁, t₂, o, e, h1, h2⟩ := run_bind.mp h
  cases o with
  | ok a => exact ⟨t₁, t₂, a, e, h1, h2⟩
  | error m => cases h2.2
  | cut => cases h2.2

/-- A sequence whose first part returns. -/
theorem Run.seq {p : Prog E R ε α} {f : α → Prog E R ε β} {t₁ t₂ : Trace R} {a : α}
    {o : Outcome ε β} (h₁ : Run p t₁ (.ok a)) (h₂ : Run (f a) t₂ o) :
    Run (p >>= f) (t₁ ++ t₂) o := run_bind.mpr ⟨t₁, t₂, .ok a, rfl, h₁, h₂⟩

/-- A sequence whose first part fails. -/
theorem Run.stop {p : Prog E R ε α} {f : α → Prog E R ε β} {t : Trace R} {m : ε}
    (h : Run p t (.error m)) : Run (p >>= f) t (.error m) :=
  run_bind.mpr ⟨t, [], .error m, (List.append_nil t).symm, h, rfl, rfl⟩

/-- How `tryCatch p f` runs once `p` has ended with `o`. -/
def CatchRun (f : ε → Prog E R ε α) (t : Trace R) (o' : Outcome ε α) : Outcome ε α → Prop
  | .ok a => t = [] ∧ o' = .ok a
  | .error m => Run (f m) t o'
  | .cut => t = [] ∧ o' = .cut

/-- **A run of `tryCatch p f`** is a run of `p`, followed by one of `f` where `p` fails. -/
theorem run_tryCatch {p : Prog E R ε α} {f : ε → Prog E R ε α} {t : Trace R} {o' : Outcome ε α} :
    Run (tryCatch p f) t o' ↔ ∃ t₁ t₂ o, t = t₁ ++ t₂ ∧ Run p t₁ o ∧ CatchRun f t₂ o' o := by
  show Run (p.catch' f) t o' ↔ _
  induction p generalizing t with
  | pure a =>
    constructor
    · rintro ⟨⟩
      exact ⟨[], [], _, rfl, .pure a, rfl, rfl⟩
    · rintro ⟨t₁, t₂, o, rfl, ⟨⟩, rfl, rfl⟩
      exact .pure a
  | fail m =>
    refine ⟨fun h => ⟨[], t, _, rfl, .fail m, h⟩, ?_⟩
    rintro ⟨t₁, t₂, o, rfl, ⟨⟩, h⟩
    exact h
  | cut =>
    constructor
    · rintro ⟨⟩
      exact ⟨[], [], _, rfl, .cut, rfl, rfl⟩
    · rintro ⟨t₁, t₂, o, rfl, ⟨⟩, rfl, rfl⟩
      exact .cut
  | call e k ih =>
    constructor
    · intro h
      cases h with
      | call _ _ r t _ h =>
        obtain ⟨t₁, t₂, o, rfl, h1, h2⟩ := (ih r).mp h
        exact ⟨_, t₂, o, rfl, .call e k r t₁ o h1, h2⟩
    · rintro ⟨t₁, t₂, o, rfl, h1, h2⟩
      cases h1 with
      | call _ _ r t₁ _ h1 =>
        exact .call _ _ r _ _ ((ih r).mpr ⟨t₁, t₂, o, rfl, h1, h2⟩)

@[simp] theorem run_pure {a : α} {t : Trace R} {o : Outcome ε α} :
    Run (Pure.pure a : Prog E R ε α) t o ↔ t = [] ∧ o = .ok a :=
  ⟨fun h => by cases h; exact ⟨rfl, rfl⟩, fun ⟨ht, ho⟩ => ht ▸ ho ▸ .pure a⟩

@[simp] theorem run_throw {m : ε} {t : Trace R} {o : Outcome ε α} :
    Run (throw m : Prog E R ε α) t o ↔ t = [] ∧ o = .error m :=
  ⟨fun h => by cases h; exact ⟨rfl, rfl⟩, fun ⟨ht, ho⟩ => ht ▸ ho ▸ .fail m⟩

@[simp] theorem run_perform {e : E} {t : Trace R} {o : Outcome ε (R e)} :
    Run (perform e : Prog E R ε (R e)) t o ↔ ∃ r, t = [⟨e, r⟩] ∧ o = .ok r := by
  constructor
  · intro h
    cases h with
    | call _ _ r t _ h =>
      cases h
      exact ⟨r, rfl, rfl⟩
  · rintro ⟨r, rfl, rfl⟩
    exact .call e .pure r _ _ (.pure r)

/-- A run that begins with an effect. -/
theorem run_perform_bind {e : E} {f : R e → Prog E R ε α} {t : Trace R} {o : Outcome ε α} :
    Run (perform e >>= f) t o ↔ ∃ r t', t = ⟨e, r⟩ :: t' ∧ Run (f r) t' o := by
  constructor
  · intro h
    cases h with
    | call _ _ r t _ h => exact ⟨r, t, rfl, h⟩
  · rintro ⟨r, t', rfl, h⟩
    exact .call e _ r t' o h

@[simp] theorem run_ofExcept {x : Except ε α} {t : Trace R} {o : Outcome ε α} :
    Run (ofExcept x : Prog E R ε α) t o ↔ t = [] ∧ o = Outcome.ofExcept x := by
  cases x with
  | ok a => exact run_pure
  | error m => exact run_throw

/-- A sequence that returns, and begins with what may fail. -/
theorem run_ofExcept_bind_ok {x : Except ε α} {f : α → Prog E R ε β} {t : Trace R} {b : β}
    (h : Run (ofExcept x >>= f) t (.ok b)) : ∃ a, x = .ok a ∧ Run (f a) t (.ok b) := by
  obtain ⟨t₁, t₂, a, rfl, h₁, h₂⟩ := run_bind_ok h
  obtain ⟨rfl, hx⟩ := run_ofExcept.mp h₁
  exact ⟨a, Outcome.eq_ok_of_ofExcept hx, h₂⟩

/-- A program whose value is not used. -/
theorem run_discard {p : Prog E R ε α} {t : Trace R} {a : α} (h : Run p t (.ok a)) :
    Run (p >>= fun _ => Pure.pure ()) t (.ok ()) := by
  have hpure : Run (Pure.pure () : Prog E R ε Unit) [] (.ok ()) := .pure ()
  exact List.append_nil t ▸ h.seq hpure

/-- **A run is determined by its replies**: of two runs, one of which was answered as the other
    and possibly longer, both are the same. -/
theorem Run.unique {p : Prog E R ε α} {t t' u u' : Trace R} {o o' : Outcome ε α}
    (h : Run p t o) (h' : Run p t' o') (hu : t ++ u = t' ++ u') : t = t' ∧ o = o' := by
  induction h generalizing t' with
  | pure a => cases h'; exact ⟨rfl, rfl⟩
  | fail m => cases h'; exact ⟨rfl, rfl⟩
  | cut => cases h'; exact ⟨rfl, rfl⟩
  | call e k r t o h ih =>
    cases h' with
    | call _ _ r' t' o' h' =>
      simp only [List.cons_append, List.cons.injEq, Sigma.mk.injEq, true_and, heq_eq_eq] at hu
      obtain ⟨rfl, hu⟩ := hu
      obtain ⟨rfl, rfl⟩ := ih h' hu
      exact ⟨rfl, rfl⟩

/-- The run in which the world answers by `answer`, which reads the history. -/
def replay (answer : Trace R → (e : E) → R e) : Prog E R ε α → Trace R → Trace R × Outcome ε α
  | .pure a, _ => ([], .ok a)
  | .fail m, _ => ([], .error m)
  | .cut, _ => ([], .cut)
  | .call e k, h =>
      let r := answer h e
      let rest := replay answer (k r) (h ++ [⟨e, r⟩])
      (⟨e, r⟩ :: rest.1, rest.2)

theorem run_replay (answer : Trace R → (e : E) → R e) (p : Prog E R ε α) : ∀ h : Trace R,
    Run p (p.replay answer h).1 (p.replay answer h).2 := by
  induction p with
  | pure a => exact fun _ => .pure a
  | fail m => exact fun _ => .fail m
  | cut => exact fun _ => .cut
  | call e k ih => exact fun h => .call e k _ _ _ (ih _ _)

/-- Each reply of that run answers the history before it. -/
theorem getElem?_replay {answer : Trace R → (e : E) → R e} {p : Prog E R ε α} {s : Σ e : E, R e} :
    ∀ {h : Trace R} {i : Nat}, (p.replay answer h).1[i]? = some s →
      s.2 = answer (h ++ (p.replay answer h).1.take i) s.1 := by
  induction p with
  | pure a => exact fun hs => nomatch hs
  | fail m => exact fun hs => nomatch hs
  | cut => exact fun hs => nomatch hs
  | call e k ih =>
    intro h i hs
    cases i with
    | zero =>
      cases hs
      exact congrArg (answer · e) (List.append_nil h).symm
    | succ i =>
      have hrest := ih _ hs
      rwa [List.append_assoc] at hrest

/-- Every reply of that run is one of `answer`. -/
theorem mem_replay {answer : Trace R → (e : E) → R e} {p : Prog E R ε α} {s : Σ e : E, R e}
    {h : Trace R} (hs : s ∈ (p.replay answer h).1) : ∃ h', s.2 = answer h' s.1 := by
  obtain ⟨i, hi⟩ := List.getElem?_of_mem hs
  exact ⟨_, getElem?_replay hi⟩

/-- How `p >>= f` goes on in the world that answers by `answer`, once `p` has left a trace. -/
def thenReplay (answer : Trace R → (e : E) → R e) (f : α → Prog E R ε β) (h : Trace R) :
    Trace R × Outcome ε α → Trace R × Outcome ε β
  | (t, .ok a) => (t ++ ((f a).replay answer (h ++ t)).1, ((f a).replay answer (h ++ t)).2)
  | (t, .error m) => (t, .error m)
  | (t, .cut) => (t, .cut)

theorem replay_bind (answer : Trace R → (e : E) → R e) (p : Prog E R ε α) (f : α → Prog E R ε β) :
    ∀ h : Trace R, (p >>= f).replay answer h = thenReplay answer f h (p.replay answer h) := by
  show ∀ h : Trace R, (p.bind f).replay answer h = _
  induction p with
  | pure a =>
    intro h
    simp only [bind, replay, thenReplay, List.nil_append, List.append_nil]
  | fail m => exact fun h => rfl
  | cut => exact fun h => rfl
  | call e k ih =>
    intro h
    simp only [bind, replay, ih]
    cases hrest : (k (answer h e)).replay answer (h ++ [⟨e, answer h e⟩]) with
    | mk t o => cases o <;> simp [thenReplay]

/-- A program that begins with an effect. -/
theorem replay_perform_bind (answer : Trace R → (e : E) → R e) (e : E) (f : R e → Prog E R ε α)
    (h : Trace R) :
    ((perform e >>= f).replay answer h).2 =
      ((f (answer h e)).replay answer (h ++ [⟨e, answer h e⟩])).2 := rfl

/-- How `tryCatch p f` goes on in that world. -/
def catchReplay (answer : Trace R → (e : E) → R e) (f : ε → Prog E R ε α) (h : Trace R) :
    Trace R × Outcome ε α → Trace R × Outcome ε α
  | (t, .ok a) => (t, .ok a)
  | (t, .error m) => (t ++ ((f m).replay answer (h ++ t)).1, ((f m).replay answer (h ++ t)).2)
  | (t, .cut) => (t, .cut)

theorem replay_tryCatch (answer : Trace R → (e : E) → R e) (p : Prog E R ε α)
    (f : ε → Prog E R ε α) :
    ∀ h : Trace R, (tryCatch p f).replay answer h = catchReplay answer f h (p.replay answer h) := by
  show ∀ h : Trace R, (p.catch' f).replay answer h = _
  induction p with
  | pure a => exact fun h => rfl
  | fail m =>
    intro h
    simp only [catch', replay, catchReplay, List.nil_append, List.append_nil]
  | cut => exact fun h => rfl
  | call e k ih =>
    intro h
    simp only [catch', replay, ih]
    cases hrest : (k (answer h e)).replay answer (h ++ [⟨e, answer h e⟩]) with
    | mk t o => cases o <;> simp [catchReplay]

/-- **Two worlds give the same run, or they part at a step that they answer differently.** -/
theorem replay_diverge (answer answer' : Trace R → (e : E) → R e) (p : Prog E R ε α) :
    ∀ h : Trace R, p.replay answer h = p.replay answer' h ∨
      ∃ pre e post post',
        (p.replay answer h).1 = pre ++ ⟨e, answer (h ++ pre) e⟩ :: post ∧
        (p.replay answer' h).1 = pre ++ ⟨e, answer' (h ++ pre) e⟩ :: post' ∧
        answer (h ++ pre) e ≠ answer' (h ++ pre) e := by
  induction p with
  | pure a => exact fun _ => .inl rfl
  | fail m => exact fun _ => .inl rfl
  | cut => exact fun _ => .inl rfl
  | call e k ih =>
    intro h
    by_cases heq : answer h e = answer' h e
    · rcases ih (answer h e) (h ++ [⟨e, answer h e⟩]) with hsame | ⟨pre, e', post, post', h1, h2, hne⟩
      · left
        simp only [replay]
        rw [← heq, hsame]
      · right
        rw [List.append_assoc] at h1 h2 hne
        refine ⟨⟨e, answer h e⟩ :: pre, e', post, post', ?_, ?_, hne⟩
        · exact congrArg (⟨e, answer h e⟩ :: ·) h1
        · simp only [replay]
          rw [← heq]
          exact congrArg (⟨e, answer h e⟩ :: ·) h2
    · right
      refine ⟨[], e, (replay answer (k (answer h e)) (h ++ [⟨e, answer h e⟩])).1,
        (replay answer' (k (answer' h e)) (h ++ [⟨e, answer' h e⟩])).1, ?_, ?_, ?_⟩
      · rw [List.append_nil]
        rfl
      · rw [List.append_nil]
        rfl
      · rwa [List.append_nil]

/-- The trace `t`, performed after the history `h`, is admitted by `ok` at every step. -/
def Respects (ok : Trace R → E → Prop) : Trace R → Trace R → Prop
  | _, [] => True
  | h, s :: t => ok h s.1 ∧ Respects ok (h ++ [s]) t

/-- `Respects` read at a split of the trace. -/
theorem respects_iff (ok : Trace R → E → Prop) : ∀ (t h : Trace R),
    Respects ok h t ↔ ∀ pre s post, t = pre ++ s :: post → ok (h ++ pre) s.1
  | [], h => by simp [Respects]
  | a :: t, h => by
      rw [Respects, respects_iff ok t (h ++ [a])]
      constructor
      · rintro ⟨ha, ht⟩ pre s post e
        cases pre with
        | nil =>
            simp only [List.nil_append, List.cons.injEq] at e
            simpa [← e.1] using ha
        | cons b pre =>
            simp only [List.cons_append, List.cons.injEq] at e
            obtain ⟨rfl, e⟩ := e
            simpa using ht pre s post e
      · intro H
        refine ⟨by simpa using H [] a t rfl, fun pre s post e => ?_⟩
        have := H (a :: pre) s post (by rw [e, List.cons_append])
        simpa using this

/-! ## 3. Weakest preconditions -/

/-- **Every effect is admitted and every end meets `Q`**, whatever the replies are. -/
def wp (ok : Trace R → E → Prop) :
    Prog E R ε α → (Outcome ε α → Trace R → Prop) → Trace R → Prop
  | .pure a, Q, h => Q (.ok a) h
  | .fail m, Q, h => Q (.error m) h
  | .cut, Q, h => Q .cut h
  | .call e k, Q, h => ok h e ∧ ∀ r, wp ok (k r) Q (h ++ [⟨e, r⟩])

/-- **`wp` is "in every run"**: admitted at every step, and `Q` at the end. -/
theorem wp_iff_run (ok : Trace R → E → Prop) (p : Prog E R ε α)
    (Q : Outcome ε α → Trace R → Prop) (h : Trace R) (hR : ∀ e, Nonempty (R e)) :
    wp ok p Q h ↔ ∀ t o, Run p t o → Respects ok h t ∧ Q o (h ++ t) := by
  induction p generalizing h with
  | pure a =>
    constructor
    · rintro hw t o ⟨⟩
      exact ⟨trivial, by simpa [wp] using hw⟩
    · intro H
      simpa [wp] using (H [] (.ok a) (.pure a)).2
  | fail m =>
    constructor
    · rintro hw t o ⟨⟩
      exact ⟨trivial, by simpa [wp] using hw⟩
    · intro H
      simpa [wp] using (H [] (.error m) (.fail m)).2
  | cut =>
    constructor
    · rintro hw t o ⟨⟩
      exact ⟨trivial, by simpa [wp] using hw⟩
    · intro H
      simpa [wp] using (H [] .cut .cut).2
  | call e k ih =>
    constructor
    · rintro ⟨hok, hk⟩ t o hrun
      cases hrun with
      | call _ _ r t o hrun =>
        obtain ⟨h1, h2⟩ := (ih r (h ++ [⟨e, r⟩])).mp (hk r) t o hrun
        exact ⟨⟨hok, h1⟩, by simpa using h2⟩
    · intro H
      have hstep : ∀ r t o, Run (k r) t o →
          Respects ok h (⟨e, r⟩ :: t) ∧ Q o (h ++ ⟨e, r⟩ :: t) :=
        fun r t o hr => H _ _ (.call e k r t o hr)
      refine ⟨?_, fun r => (ih r _).mpr fun t o hr => ?_⟩
      · obtain ⟨r⟩ := hR e
        obtain ⟨t, o, hr⟩ := exists_run hR (k r)
        exact (hstep r t o hr).1.1
      · obtain ⟨h1, h2⟩ := hstep r t o hr
        exact ⟨h1.2, by simpa using h2⟩
where
  /-- Every program has a run: each effect has some reply. -/
  exists_run (hR : ∀ e, Nonempty (R e)) : ∀ p : Prog E R ε α, ∃ t o, Run p t o
    | .pure a => ⟨_, _, .pure a⟩
    | .fail m => ⟨_, _, .fail m⟩
    | .cut => ⟨_, _, .cut⟩
    | .call e k => by
        obtain ⟨r⟩ := hR e
        obtain ⟨t, o, h⟩ := exists_run hR (k r)
        exact ⟨_, _, .call e k r t o h⟩

variable {ok : Trace R → E → Prop} {Q Q' : Outcome ε α → Trace R → Prop} {h : Trace R}

/-! ## 4. The rules -/

@[simp] theorem wp_pure (a : α) : wp ok (Pure.pure a : Prog E R ε α) Q h ↔ Q (.ok a) h := Iff.rfl

@[simp] theorem wp_throw (m : ε) : wp ok (throw m : Prog E R ε α) Q h ↔ Q (.error m) h := Iff.rfl

@[simp] theorem wp_cut : wp ok (.cut : Prog E R ε α) Q h ↔ Q .cut h := Iff.rfl

@[simp] theorem wp_perform (e : E) (Q : Outcome ε (R e) → Trace R → Prop) :
    wp ok (perform e : Prog E R ε (R e)) Q h ↔ ok h e ∧ ∀ r, Q (.ok r) (h ++ [⟨e, r⟩]) := Iff.rfl

/-- The postcondition `Q` of `p >>= f`, read after `p`. -/
def afterBind (ok : Trace R → E → Prop) (f : α → Prog E R ε β)
    (Q : Outcome ε β → Trace R → Prop) : Outcome ε α → Trace R → Prop
  | .ok a, h => wp ok (f a) Q h
  | .error m, h => Q (.error m) h
  | .cut, h => Q .cut h

@[simp] theorem afterBind_ok (f : α → Prog E R ε β) (Q : Outcome ε β → Trace R → Prop) (a : α) :
    afterBind ok f Q (.ok a) h = wp ok (f a) Q h := rfl

@[simp] theorem afterBind_error (f : α → Prog E R ε β) (Q : Outcome ε β → Trace R → Prop) (m : ε) :
    afterBind ok f Q (.error m) h = Q (.error m) h := rfl

@[simp] theorem afterBind_cut (f : α → Prog E R ε β) (Q : Outcome ε β → Trace R → Prop) :
    afterBind ok f Q .cut h = Q .cut h := rfl

/-- **The rule for sequencing.** -/
@[simp] theorem wp_bind (p : Prog E R ε α) (f : α → Prog E R ε β)
    (Q : Outcome ε β → Trace R → Prop) :
    wp ok (p >>= f) Q h ↔ wp ok p (afterBind ok f Q) h := by
  show wp ok (p.bind f) Q h ↔ _
  induction p generalizing h with
  | pure a => rfl
  | fail m => rfl
  | cut => rfl
  | call e k ih => exact and_congr_right fun _ => forall_congr' fun r => ih r

/-- The postcondition `Q` of `tryCatch p f`, read after `p`. -/
def afterCatch (ok : Trace R → E → Prop) (f : ε → Prog E R ε α)
    (Q : Outcome ε α → Trace R → Prop) : Outcome ε α → Trace R → Prop
  | .ok a, h => Q (.ok a) h
  | .error m, h => wp ok (f m) Q h
  | .cut, h => Q .cut h

@[simp] theorem afterCatch_ok (f : ε → Prog E R ε α) (a : α) :
    afterCatch ok f Q (.ok a) h = Q (.ok a) h := rfl

@[simp] theorem afterCatch_error (f : ε → Prog E R ε α) (m : ε) :
    afterCatch ok f Q (.error m) h = wp ok (f m) Q h := rfl

@[simp] theorem afterCatch_cut (f : ε → Prog E R ε α) :
    afterCatch ok f Q .cut h = Q .cut h := rfl

/-- **The rule for handlers.** -/
@[simp] theorem wp_tryCatch (p : Prog E R ε α) (f : ε → Prog E R ε α) :
    wp ok (tryCatch p f) Q h ↔ wp ok p (afterCatch ok f Q) h := by
  show wp ok (p.catch' f) Q h ↔ _
  induction p generalizing h with
  | pure a => rfl
  | fail m => rfl
  | cut => rfl
  | call e k ih => exact and_congr_right fun _ => forall_congr' fun r => ih r

theorem wp_ofExcept (x : Except ε α) :
    wp ok (ofExcept x : Prog E R ε α) Q h ↔ Q (.ofExcept x) h := by
  cases x <;> exact Iff.rfl

@[simp] theorem wp_ofExcept_ok (a : α) :
    wp ok (ofExcept (.ok a) : Prog E R ε α) Q h ↔ Q (.ok a) h := Iff.rfl

@[simp] theorem wp_ofExcept_error (m : ε) :
    wp ok (ofExcept (.error m) : Prog E R ε α) Q h ↔ Q (.error m) h := Iff.rfl

@[simp] theorem wp_map (p : Prog E R ε α) (f : α → β) (Q : Outcome ε β → Trace R → Prop) :
    wp ok (f <$> p) Q h ↔ wp ok p (afterBind ok (fun a => Pure.pure (f a)) Q) h := by
  rw [← wp_bind]; rfl

/-- A weaker postcondition, and the histories it is read at extend the one before. -/
theorem wp_mono {p : Prog E R ε α} (hw : wp ok p Q h)
    (hQ : ∀ o h', h <+: h' → Q o h' → Q' o h') : wp ok p Q' h := by
  induction p generalizing h with
  | pure a => exact hQ _ _ (List.prefix_refl h) hw
  | fail m => exact hQ _ _ (List.prefix_refl h) hw
  | cut => exact hQ _ _ (List.prefix_refl h) hw
  | call e k ih =>
    exact ⟨hw.1, fun r => ih r (hw.2 r) fun o h' hp hq =>
      hQ o h' ((List.prefix_append h _).trans hp) hq⟩

/-- Effects that are always admitted. -/
theorem wp_true {p : Prog E R ε α} (hok : ∀ h e, ok h e) (hQ : ∀ o h', h <+: h' → Q o h') :
    wp ok p Q h := by
  induction p generalizing h with
  | pure a => exact hQ _ _ (List.prefix_refl h)
  | fail m => exact hQ _ _ (List.prefix_refl h)
  | cut => exact hQ _ _ (List.prefix_refl h)
  | call e k ih =>
    exact ⟨hok h e, fun r => ih r fun o h' hp => hQ o h' ((List.prefix_append h _).trans hp)⟩

/-! ## 5. Safety -/

/-- **Every effect is admitted, and whatever is returned meets `P`.** Of a failure nothing is asked
    but that it came about by admitted effects. -/
structure Safe (ok : Trace R → E → Prop) (p : Prog E R ε α) (P : α → Trace R → Prop)
    (h : Trace R) : Prop where
  holds : wp ok p (fun o h' => ∀ a, o = .ok a → P a h') h

/-- Nothing is asked of the result. -/
abbrev Admitted (ok : Trace R → E → Prop) (p : Prog E R ε α) (h : Trace R) : Prop :=
  Safe ok p (fun _ _ => True) h

variable {P : α → Trace R → Prop} {P' : β → Trace R → Prop}

theorem Safe.mono {p : Prog E R ε α} {P₂ : α → Trace R → Prop} (hp : Safe ok p P h)
    (hP : ∀ a h', h <+: h' → P a h' → P₂ a h') : Safe ok p P₂ h :=
  ⟨wp_mono hp.holds fun _ h' hle hq a ha => hP a h' hle (hq a ha)⟩

theorem Safe.admitted {p : Prog E R ε α} (hp : Safe ok p P h) : Admitted ok p h :=
  hp.mono fun _ _ _ _ => trivial

theorem safe_pure {a : α} (ha : P a h) : Safe ok (Pure.pure a : Prog E R ε α) P h :=
  ⟨fun _ e => by cases e; exact ha⟩

theorem safe_throw {m : ε} : Safe ok (throw m : Prog E R ε α) P h := ⟨fun _ e => nomatch e⟩

theorem safe_cut : Safe ok (.cut : Prog E R ε α) P h := ⟨fun _ e => nomatch e⟩

theorem safe_perform {e : E} {P : R e → Trace R → Prop} (he : ok h e)
    (hP : ∀ r, P r (h ++ [⟨e, r⟩])) : Safe ok (perform e : Prog E R ε (R e)) P h :=
  ⟨he, fun r _ e => by cases e; exact hP r⟩

theorem safe_ofExcept {x : Except ε α} (hP : ∀ a, x = .ok a → P a h) :
    Safe ok (ofExcept x : Prog E R ε α) P h := by
  cases x with
  | ok a => exact safe_pure (hP a rfl)
  | error m => exact safe_throw

/-- **The rule for sequencing**: the rest is safe after every history the first part leads to. -/
theorem safe_bind {p : Prog E R ε α} {f : α → Prog E R ε β} (hp : Safe ok p P h)
    (hf : ∀ a h', h <+: h' → P a h' → Safe ok (f a) P' h') : Safe ok (p >>= f) P' h := by
  refine ⟨(wp_bind p f _).mpr (wp_mono hp.holds fun o h' hle hq => ?_)⟩
  cases o with
  | ok a => exact (hf a h' hle (hq a rfl)).holds
  | error m => exact fun b hb => nomatch hb
  | cut => exact fun b hb => nomatch hb

/-- A value that is there goes on, a failure ends. -/
theorem safe_ofExcept_bind {x : Except ε α} {f : α → Prog E R ε β}
    (hf : ∀ a, x = .ok a → Safe ok (f a) P' h) : Safe ok (ofExcept x >>= f) P' h := by
  cases x with
  | ok a => exact hf a rfl
  | error m => exact safe_throw

/-- An effect that is admitted, and what follows each reply. -/
theorem safe_perform_bind {e : E} {f : R e → Prog E R ε α} (he : ok h e)
    (hf : ∀ r, Safe ok (f r) P (h ++ [⟨e, r⟩])) : Safe ok (perform e >>= f) P h :=
  ⟨he, fun r => (hf r).holds⟩

/-- **The rule for handlers.** -/
theorem safe_tryCatch {p : Prog E R ε α} {f : ε → Prog E R ε α} (hp : Safe ok p P h)
    (hf : ∀ m h', h <+: h' → Safe ok (f m) P h') : Safe ok (tryCatch p f) P h := by
  refine ⟨(wp_tryCatch p f).mpr (wp_mono hp.holds fun o h' hle hq => ?_)⟩
  cases o with
  | ok a => exact hq
  | error m => exact (hf m h' hle).holds
  | cut => exact hq

/-- **Safety is a statement about every run.** -/
theorem safe_iff_run {p : Prog E R ε α} (hR : ∀ e, Nonempty (R e)) :
    Safe ok p P h ↔ ∀ t o, Run p t o → Respects ok h t ∧ ∀ a, o = .ok a → P a (h ++ t) :=
  ⟨fun hp => (wp_iff_run ok p _ h hR).mp hp.holds, fun H => ⟨(wp_iff_run ok p _ h hR).mpr H⟩⟩

/-! ## 6. Loops over a list -/

/-- One program for each element, in order; `List.mapM` written by recursion. -/
def forEach (f : α → Prog E R ε β) : List α → Prog E R ε (List β)
  | [] => Pure.pure []
  | a :: as => do
      let b ← f a
      let bs ← forEach f as
      Pure.pure (b :: bs)

/-- **The rule for a loop**: rounds that are safe after every history make a safe loop. -/
theorem safe_forEach {f : α → Prog E R ε β} : ∀ (as : List α) (h : Trace R),
    (∀ a ∈ as, ∀ h', h <+: h' → Admitted ok (f a) h') → Admitted ok (forEach f as) h
  | [], h, _ => safe_pure trivial
  | a :: as, h, hf => by
      rw [forEach]
      refine safe_bind (hf a List.mem_cons_self h (List.prefix_refl h)) fun b h₁ hle₁ _ => ?_
      refine safe_bind (safe_forEach as h₁ fun x hx h' hle => ?_) fun bs h₂ _ _ => ?_
      · exact hf x (List.mem_cons_of_mem _ hx) h' (hle₁.trans hle)
      · exact safe_pure trivial

/-! ## 7. Programs of some effects -/

/-- Every effect the program performs, in any run, is one of `P`. -/
def Only (P : E → Prop) (p : Prog E R ε α) : Prop := ∀ t o, Run p t o → ∀ s ∈ t, P s.1

variable {P : E → Prop}

theorem only_pure {a : α} : Only P (Pure.pure a : Prog E R ε α) := by
  intro t o h s hs
  rw [(run_pure.mp h).1] at hs
  cases hs

theorem only_throw {m : ε} : Only P (throw m : Prog E R ε α) := by
  intro t o h s hs
  rw [(run_throw.mp h).1] at hs
  cases hs

theorem only_ofExcept {x : Except ε α} : Only P (ofExcept x : Prog E R ε α) := by
  intro t o h s hs
  rw [(run_ofExcept.mp h).1] at hs
  cases hs

theorem only_perform {e : E} (he : P e) : Only P (perform e : Prog E R ε (R e)) := by
  intro t o h s hs
  obtain ⟨r, rfl, -⟩ := run_perform.mp h
  rw [List.mem_singleton.mp hs]
  exact he

theorem only_bind {p : Prog E R ε α} {f : α → Prog E R ε β} (hp : Only P p)
    (hf : ∀ a, Only P (f a)) : Only P (p >>= f) := by
  intro t o h s hs
  obtain ⟨t₁, t₂, o₁, rfl, h1, h2⟩ := run_bind.mp h
  rcases List.mem_append.mp hs with hs | hs
  · exact hp t₁ o₁ h1 s hs
  · cases o₁ with
    | ok a => exact hf a t₂ o h2 s hs
    | error m =>
      rw [h2.1] at hs
      cases hs
    | cut =>
      rw [h2.1] at hs
      cases hs

theorem only_tryCatch {p : Prog E R ε α} {f : ε → Prog E R ε α} (hp : Only P p)
    (hf : ∀ m, Only P (f m)) : Only P (tryCatch p f) := by
  intro t o h s hs
  obtain ⟨t₁, t₂, o₁, rfl, h1, h2⟩ := run_tryCatch.mp h
  rcases List.mem_append.mp hs with hs | hs
  · exact hp t₁ o₁ h1 s hs
  · cases o₁ with
    | ok a =>
      rw [h2.1] at hs
      cases hs
    | error m => exact hf m t₂ o h2 s hs
    | cut =>
      rw [h2.1] at hs
      cases hs

/-- A loop of such programs is one. -/
theorem only_forEach {f : α → Prog E R ε β} (hf : ∀ a, Only P (f a)) (as : List α) :
    Only P (forEach f as) := by
  induction as with
  | nil => exact only_pure
  | cons a as ih => exact only_bind (hf a) fun b => only_bind ih fun bs => only_pure

/-- Effects that are admitted by what they are. -/
theorem only_of_admitted {p : Prog E R ε α} (hR : ∀ e, Nonempty (R e))
    (hp : Admitted (fun _ e => P e) p []) : Only P p := by
  intro t o hrun s hs
  obtain ⟨pre, post, rfl⟩ := List.append_of_mem hs
  have hrespects := ((safe_iff_run hR).mp hp _ o hrun).1
  exact (respects_iff _ _ _).mp hrespects pre s post rfl

/-! ## 8. Effects that a world may answer apart -/

section Apart

variable (quiet : E → Bool)

/-- The history without the effects that are not quiet. -/
def quietPart (h : Trace R) : Trace R := h.filter fun s => quiet s.1

@[simp] theorem quietPart_append (h h' : Trace R) :
    quietPart quiet (h ++ h') = quietPart quiet h ++ quietPart quiet h' :=
  List.filter_append ..

/-- The world answers the quiet effects as `base` does, which knows of no other. -/
def AnswersApart (base answer : Trace R → (e : E) → R e) : Prop :=
  ∀ h e, quiet e = true → answer h e = base (quietPart quiet h) e

variable {quiet}

/-- The trace of a quiet program is quiet. -/
theorem quietPart_replay {p : Prog E R ε α} (hp : Only (fun e => quiet e = true) p)
    (answer : Trace R → (e : E) → R e) (h : Trace R) :
    quietPart quiet (p.replay answer h).1 = (p.replay answer h).1 :=
  List.filter_eq_self.mpr fun s hs => hp _ _ (run_replay answer p h) s hs

/-- **A quiet program does not notice the other effects.** -/
theorem replay_quiet {base answer : Trace R → (e : E) → R e}
    (hanswer : AnswersApart quiet base answer) {p : Prog E R ε α}
    (hp : Only (fun e => quiet e = true) p) :
    ∀ h : Trace R, p.replay answer h = p.replay base (quietPart quiet h) := by
  induction p with
  | pure a => exact fun h => rfl
  | fail m => exact fun h => rfl
  | cut => exact fun h => rfl
  | call e k ih =>
    intro h
    have hrest : ∀ r, Only (fun e => quiet e = true) (k r) := fun r t o hrun s hs =>
      hp _ o (.call e k r t o hrun) s (List.mem_cons_of_mem _ hs)
    have he : quiet e = true :=
      hp _ _ (.call e k _ _ _ (run_replay answer (k (answer h e)) [])) _ List.mem_cons_self
    have hsame := hanswer h e he
    have hpart : ∀ r : R e, quietPart quiet (h ++ [(⟨e, r⟩ : Σ e : E, R e)]) =
        quietPart quiet h ++ [⟨e, r⟩] := by
      intro r
      rw [quietPart_append]
      simp [quietPart, he]
    simp only [replay, ih _ (hrest _), hsame, hpart]

end Apart

/-! ## 9. Worlds that know no history -/

section FixedWorlds

variable {w : (e : E) → R e}

/-- How `p` ends where every effect has its one reply. -/
def endsIn (w : (e : E) → R e) : Prog E R ε α → Outcome ε α
  | .pure a => .ok a
  | .fail m => .error m
  | .cut => .cut
  | .call e k => endsIn w (k (w e))

/-- Does `p` perform an effect of this kind there? -/
def Does (P : E → Prop) (w : (e : E) → R e) : Prog E R ε α → Prop
  | .call e k => P e ∨ Does P w (k (w e))
  | _ => False

/-- The run of that world. -/
theorem exists_run_endsIn (w : (e : E) → R e) (p : Prog E R ε α) :
    ∃ t, Run p t (p.endsIn w) ∧ ∀ P : E → Prop, Does P w p ↔ ∃ s ∈ t, P s.1 := by
  induction p with
  | pure a => exact ⟨[], .pure a, fun P => by simp [Does]⟩
  | fail m => exact ⟨[], .fail m, fun P => by simp [Does]⟩
  | cut => exact ⟨[], .cut, fun P => by simp [Does]⟩
  | call e k ih =>
    obtain ⟨t, hrun, hdoes⟩ := ih (w e)
    refine ⟨⟨e, w e⟩ :: t, .call e k _ _ _ hrun, fun P => ?_⟩
    simp [Does, hdoes]

@[simp] theorem endsIn_pure (a : α) : (Pure.pure a : Prog E R ε α).endsIn w = .ok a := rfl

@[simp] theorem endsIn_throw (m : ε) : (throw m : Prog E R ε α).endsIn w = .error m := rfl

@[simp] theorem endsIn_perform (e : E) : (perform e : Prog E R ε (R e)).endsIn w = .ok (w e) := rfl

@[simp] theorem endsIn_ofExcept (x : Except ε α) :
    (ofExcept x : Prog E R ε α).endsIn w = .ofExcept x := by
  cases x <;> rfl

/-- How `p >>= f` ends, by how `p` does. -/
def endsBind (w : (e : E) → R e) (f : α → Prog E R ε β) : Outcome ε α → Outcome ε β
  | .ok a => (f a).endsIn w
  | .error m => .error m
  | .cut => .cut

theorem endsIn_bind (p : Prog E R ε α) (f : α → Prog E R ε β) :
    (p >>= f).endsIn w = endsBind w f (p.endsIn w) := by
  show (p.bind f).endsIn w = _
  induction p with
  | pure a => rfl
  | fail m => rfl
  | cut => rfl
  | call e k ih => exact ih (w e)

/-- How `tryCatch p f` ends, by how `p` does. -/
def endsCatch (w : (e : E) → R e) (f : ε → Prog E R ε α) : Outcome ε α → Outcome ε α
  | .error m => (f m).endsIn w
  | o => o

theorem endsIn_tryCatch (p : Prog E R ε α) (f : ε → Prog E R ε α) :
    (tryCatch p f).endsIn w = endsCatch w f (p.endsIn w) := by
  show (p.catch' f).endsIn w = _
  induction p with
  | pure a => rfl
  | fail m => rfl
  | cut => rfl
  | call e k ih => exact ih (w e)

/-- A sequence that returns there. -/
theorem endsIn_bind_ok {p : Prog E R ε α} {f : α → Prog E R ε β} {b : β} :
    (p >>= f).endsIn w = .ok b ↔ ∃ a, p.endsIn w = .ok a ∧ (f a).endsIn w = .ok b := by
  rw [endsIn_bind]
  cases p.endsIn w <;> simp [endsBind]

/-- **A loop that returns there** has returned in every round. -/
theorem endsIn_forEach_ok {f : α → Prog E R ε β} : ∀ {as : List α} {bs : List β},
    (forEach f as).endsIn w = .ok bs → List.Forall₂ (fun a b => (f a).endsIn w = .ok b) as bs
  | [], bs, h => by
      cases h
      exact .nil
  | a :: as, bs, h => by
      obtain ⟨b, hb, h1⟩ := endsIn_bind_ok.mp h
      obtain ⟨bs', hbs, h2⟩ := endsIn_bind_ok.mp h1
      cases h2
      exact .cons hb (endsIn_forEach_ok hbs)

variable {P : E → Prop}

@[simp] theorem does_pure (a : α) : Does P w (Pure.pure a : Prog E R ε α) ↔ False := Iff.rfl

@[simp] theorem does_throw (m : ε) : Does P w (throw m : Prog E R ε α) ↔ False := Iff.rfl

@[simp] theorem does_perform (e : E) : Does P w (perform e : Prog E R ε (R e)) ↔ P e :=
  or_iff_left id

@[simp] theorem does_ofExcept (x : Except ε α) :
    Does P w (ofExcept x : Prog E R ε α) ↔ False := by
  cases x <;> rfl

/-- **A sequence does what its parts do.** -/
theorem does_bind {p : Prog E R ε α} {f : α → Prog E R ε β} :
    Does P w (p >>= f) ↔ Does P w p ∨ ∃ a, p.endsIn w = .ok a ∧ Does P w (f a) := by
  show Does P w (p.bind f) ↔ _
  induction p with
  | pure a => simp [bind, Does, endsIn]
  | fail m => simp [bind, Does, endsIn]
  | cut => simp [bind, Does, endsIn]
  | call e k ih =>
    show (P e ∨ Does P w ((k (w e)).bind f)) ↔ _
    rw [ih (w e), or_assoc.symm]
    rfl

theorem does_tryCatch {p : Prog E R ε α} {f : ε → Prog E R ε α} :
    Does P w (tryCatch p f) ↔ Does P w p ∨ ∃ m, p.endsIn w = .error m ∧ Does P w (f m) := by
  show Does P w (p.catch' f) ↔ _
  induction p with
  | pure a => simp [catch', Does, endsIn]
  | fail m => simp [catch', Does, endsIn]
  | cut => simp [catch', Does, endsIn]
  | call e k ih =>
    show (P e ∨ Does P w ((k (w e)).catch' f)) ↔ _
    rw [ih (w e), or_assoc.symm]
    rfl

/-- After a part that does nothing of the kind and returns. -/
theorem does_bind_of_ok {p : Prog E R ε α} {f : α → Prog E R ε β} {a : α} (hp : ¬Does P w p)
    (ha : p.endsIn w = .ok a) : Does P w (p >>= f) ↔ Does P w (f a) := by
  rw [does_bind, ha]
  simp [hp]

/-- A program that performs no effect of the kind does not do so there. -/
theorem not_does_of_only {p : Prog E R ε α} (hp : Only (fun e => ¬P e) p) : ¬Does P w p := by
  intro hdoes
  obtain ⟨t, hrun, ht⟩ := exists_run_endsIn w p
  obtain ⟨s, hs, hP⟩ := (ht P).mp hdoes
  exact hp t _ hrun s hs hP

end FixedWorlds

end Prog

end Effects
