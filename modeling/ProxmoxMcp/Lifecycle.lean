/-
  File:      ProxmoxMcp/Lifecycle.lean
  Subject:   WHEN A MANAGED CLUSTER IS RECONCILED (`ManagedAuthLifecycle`): callers, timers and
             settlements in any order.

  What runs between two awaits of the source is one step here. A reconcile is a flight: it runs
  from the call that starts it until its function returns (`ended`), and is settled for those who
  wait once the `finally` callback has cleared `repairPromise`. A call waits for one flight at a
  time; `initialize` has the clusters left to repair besides.
-/
import ProxmoxMcp.Reconcile
import ProxmoxMcp.World
import ProxmoxMcp.Lib.Runs

namespace ProxmoxMcp

open Js

/-! ## 1. States -/

/-- How far a reconcile is. -/
inductive FlightStatus where
  | running
  | ended (outcome : Except String Unit)
  | settled (outcome : Except String Unit)

/-- `repairPromise` holds a flight until its `finally` callback has run. -/
def FlightStatus.isPromised : FlightStatus → Prop
  | .running | .ended _ => True
  | .settled _ => False

/-- A reconcile of a cluster. -/
structure Flight where
  cluster : String
  status : FlightStatus

/-- How far a call is. -/
inductive CallStatus where
  | waiting (flight : Nat)
  | settled (outcome : Except String Unit)

/-- A call of `ensureCluster`, `repairCluster` or `initialize`; the last has more clusters to
    repair. -/
structure Call where
  status : CallStatus
  todo : List String := []

/-- The lifecycle: the managed names in order, the state its reconciles write, the flights and the
    calls so far, and the timers that are pending. A flight, a call and a timer are named by their
    place in the order of creation. -/
structure Lifecycle where
  managed : List String
  runtime : LifecycleState
  repairPromise : String → Option Nat := fun _ => none
  flights : List Flight := []
  rotationTimer : String → Option Nat := fun _ => none
  timers : List (Nat × String) := []
  timersSet : Nat := 0
  calls : List Call := []

/-! ## 2. What a call does before its first await -/

/-- `repairCluster` for a name that is managed: the flight it waits for. -/
def Lifecycle.repair (s : Lifecycle) (cluster : String) : Lifecycle × Nat :=
  match s.repairPromise cluster with
  | some flight => (s, flight)
  | none =>
    ({ s with
        flights := s.flights ++ [⟨cluster, .running⟩]
        repairPromise := Function.update s.repairPromise cluster (some s.flights.length) },
      s.flights.length)

/-- The call is in the books. -/
def Lifecycle.addCall (s : Lifecycle) (call : Call) : Lifecycle :=
  { s with calls := s.calls ++ [call] }

/-- `repairCluster`. -/
def Lifecycle.repairCluster (s : Lifecycle) (clusterName : String) : Lifecycle :=
  match resolveManagedClusterName s.managed clusterName with
  | none => s.addCall { status := .settled (.ok ()) }
  | some cluster => (s.repair cluster).1.addCall { status := .waiting (s.repair cluster).2 }

/-- `x < n` in the language's comparison. -/
def exceeds (n : Number) (x : Nat) : Bool :=
  match n with
  | .nan => false
  | .infinity negative => !negative
  | .rat q => (x : Rat) < q

/-- `ROTATION_SAFETY_WINDOW_MS`. -/
def ROTATION_SAFETY_WINDOW_MS : Nat := 30 * 1000

/-- `Number.MAX_SAFE_INTEGER`. -/
def MAX_SAFE_INTEGER : Nat := 2 ^ 53 - 1

/-- `Date.now() + ROTATION_SAFETY_WINDOW_MS < deadline`: the window ends before both expiries. -/
def ManagedAuthRuntimeState.isFresh (state : ManagedAuthRuntimeState) (now : Nat) : Bool :=
  exceeds (.rat (state.passwordExpiresAt.getD MAX_SAFE_INTEGER)) (now + ROTATION_SAFETY_WINDOW_MS) &&
    exceeds (state.tokenExpiresAt.getD (.rat MAX_SAFE_INTEGER)) (now + ROTATION_SAFETY_WINDOW_MS)

/-- `ensureCluster`. -/
def Lifecycle.ensureCluster (s : Lifecycle) (clusterName : String) (now : Nat) : Lifecycle :=
  match resolveManagedClusterName s.managed clusterName with
  | none => s.addCall { status := .settled (.ok ()) }
  | some cluster =>
    match s.repairPromise cluster with
    | some flight => s.addCall { status := .waiting flight }
    | none =>
      if (s.runtime.managedClusters cluster).all (·.isFresh now) then
        s.addCall { status := .settled (.ok ()) }
      else s.repairCluster cluster

/-- `initialize`, up to its first await. -/
def Lifecycle.initializeClusters (s : Lifecycle) : Lifecycle :=
  match s.managed with
  | [] => s.addCall { status := .settled (.ok ()) }
  | cluster :: rest =>
    (s.repair cluster).1.addCall { status := .waiting (s.repair cluster).2, todo := rest }

/-! ## 3. Steps -/

/-- `scheduleRotation`: the timer that `rotationTimer` names is cleared. -/
def Lifecycle.scheduleRotation (s : Lifecycle) (cluster : String) : Lifecycle :=
  { s with
    timers := s.timers.filter (fun t => s.rotationTimer cluster ≠ some t.1) ++
      [(s.timersSet, cluster)]
    rotationTimer := Function.update s.rotationTimer cluster (some s.timersSet)
    timersSet := s.timersSet + 1 }

/-- What can happen: a call, a timer, the end of a reconcile (with the password it generated, how
    the audit and the script ended, and the time), the `finally` callback of a flight, and a
    waiting call going on. -/
inductive LifecycleEvent where
  | ensureCluster (clusterName : String) (now : Nat)
  | repairCluster (clusterName : String)
  | initializeClusters
  | timerFires (timer : Nat)
  | reconcileEnds (flight : Nat) (password : String) (audit : Except String Unit)
      (script : Except String String) (now : Nat)
  | finallyRuns (flight : Nat)
  | resumes (call : Nat)

/-- A waiting call goes on with the outcome of its flight. -/
def Lifecycle.resume (s : Lifecycle) (call : Nat) (todo : List String)
    (outcome : Except String Unit) : Lifecycle :=
  match outcome, todo with
  | .ok (), cluster :: rest =>
    let next := s.repair cluster
    { next.1 with calls := next.1.calls.set call ⟨.waiting next.2, rest⟩ }
  | outcome, _ => { s with calls := s.calls.set call ⟨.settled outcome, []⟩ }

/-- One step of the lifecycle. -/
def Lifecycle.step (s : Lifecycle) : LifecycleEvent → Option Lifecycle
  | .ensureCluster clusterName now => some (s.ensureCluster clusterName now)
  | .repairCluster clusterName => some (s.repairCluster clusterName)
  | .initializeClusters => some s.initializeClusters
  | .timerFires timer =>
    match s.timers.find? (fun t => t.1 = timer) with
    | none => none
    | some (_, cluster) =>
      some (Lifecycle.repairCluster { s with timers := s.timers.filter (fun t => t.1 ≠ timer) } cluster)
  | .reconcileEnds flight password audit script now =>
    match s.flights[flight]? with
    | some ⟨cluster, .running⟩ =>
      let result := reconcileCluster cluster password audit script now s.runtime
      let s := { s with
        runtime := result.2
        flights := s.flights.set flight ⟨cluster, .ended result.1⟩ }
      match result.1 with
      | .ok () => some (s.scheduleRotation cluster)
      | .error _ => some s
    | _ => none
  | .finallyRuns flight =>
    match s.flights[flight]? with
    | some ⟨cluster, .ended outcome⟩ => some { s with
        flights := s.flights.set flight ⟨cluster, .settled outcome⟩
        repairPromise := Function.update s.repairPromise cluster none }
    | _ => none
  | .resumes call =>
    match s.calls[call]? with
    | some ⟨.waiting flight, todo⟩ =>
      match s.flights[flight]? with
      | some ⟨_, .settled outcome⟩ => some (s.resume call todo outcome)
      | _ => none
    | _ => none

/-- A lifecycle that was just built. -/
def Lifecycle.built (managed : List String) (runtime : LifecycleState) : Lifecycle where
  managed := managed
  runtime := runtime

/-! ## 4. The invariant -/

/-- `repairPromise` names exactly the flights that are not settled, and `rotationTimer` every timer
    that is pending. -/
structure Lifecycle.Inv (s : Lifecycle) : Prop where
  promised : ∀ cluster flight, s.repairPromise cluster = some flight →
    ∃ status, s.flights[flight]? = some ⟨cluster, status⟩ ∧ status.isPromised
  unsettled : ∀ flight cluster status, s.flights[flight]? = some ⟨cluster, status⟩ →
    status.isPromised → s.repairPromise cluster = some flight
  handles : ∀ timer cluster, (timer, cluster) ∈ s.timers → s.rotationTimer cluster = some timer
  distinct : s.timers.Nodup
  old : ∀ timer cluster, (timer, cluster) ∈ s.timers → timer < s.timersSet

theorem inv_built (managed : List String) (runtime : LifecycleState) :
    (Lifecycle.built managed runtime).Inv where
  promised _ _ h := by cases h
  unsettled _ _ _ h := by simp [Lifecycle.built] at h
  handles _ _ h := by simp [Lifecycle.built] at h
  distinct := List.nodup_nil
  old _ _ h := by simp [Lifecycle.built] at h

namespace Lifecycle.Inv

variable {s : Lifecycle}

/-- The books of the calls are not part of it. -/
theorem setCalls (h : s.Inv) (calls : List Call) : Inv { s with calls := calls } :=
  ⟨h.promised, h.unsettled, h.handles, h.distinct, h.old⟩

/-- A repair keeps it, and waits for the flight that is promised then. -/
theorem repair (h : s.Inv) (cluster : String) :
    (s.repair cluster).1.Inv ∧ (s.repair cluster).1.repairPromise cluster =
      some (s.repair cluster).2 := by
  unfold Lifecycle.repair
  rcases hp : s.repairPromise cluster with _ | flight
  · refine ⟨⟨?_, ?_, h.handles, h.distinct, h.old⟩, Function.update_self ..⟩
    · intro c r hc
      rcases eq_or_ne c cluster with rfl | hne
      · simp only [Function.update_self, Option.some.injEq] at hc
        subst hc
        exact ⟨.running, List.getElem?_concat_length, trivial⟩
      · simp only [Function.update_of_ne hne] at hc
        obtain ⟨status, hr, hs⟩ := h.promised c r hc
        exact ⟨status, List.getElem?_append_left (List.getElem?_eq_some_iff.mp hr).1 ▸ hr, hs⟩
    · intro r c status hr hs
      simp only at hr ⊢
      rcases lt_trichotomy r s.flights.length with hlt | heq | hgt
      · rw [List.getElem?_append_left hlt] at hr
        have hc := h.unsettled r c status hr hs
        have hne : c ≠ cluster := fun e => by rw [e, hp] at hc; cases hc
        rw [Function.update_of_ne hne, hc]
      · subst heq
        rw [List.getElem?_concat_length] at hr
        cases hr
        exact Function.update_self ..
      · rw [List.getElem?_eq_none (by simp; omega)] at hr
        cases hr
  · exact ⟨h, hp⟩

theorem repairCluster (h : s.Inv) (name : String) : (s.repairCluster name).Inv := by
  unfold Lifecycle.repairCluster
  split
  · exact h.setCalls _
  · exact (h.repair _).1.setCalls _

theorem ensureCluster (h : s.Inv) (name : String) (now : Nat) :
    (s.ensureCluster name now).Inv := by
  unfold Lifecycle.ensureCluster
  split
  · exact h.setCalls _
  · split
    · exact h.setCalls _
    · split
      · exact h.setCalls _
      · exact h.repairCluster _

theorem initializeClusters (h : s.Inv) : s.initializeClusters.Inv := by
  unfold Lifecycle.initializeClusters
  split
  · exact h.setCalls _
  · exact (h.repair _).1.setCalls _

theorem resume (h : s.Inv) (call : Nat) (todo : List String) (outcome : Except String Unit) :
    (s.resume call todo outcome).Inv := by
  unfold Lifecycle.resume
  split
  · exact (h.repair _).1.setCalls _
  · exact h.setCalls _

/-- A timer that has fired is pending no more. -/
theorem dropTimer (h : s.Inv) (timer : Nat) :
    Inv { s with timers := s.timers.filter (fun t => t.1 ≠ timer) } :=
  ⟨h.promised, h.unsettled, fun t c hm => h.handles t c (List.mem_filter.mp hm).1,
    h.distinct.filter _, fun t c hm => h.old t c (List.mem_filter.mp hm).1⟩

/-- A running flight ends. -/
theorem endFlight (h : s.Inv) {flight : Nat} {cluster : String}
    (hf : s.flights[flight]? = some ⟨cluster, .running⟩) (outcome : Except String Unit)
    (runtime : LifecycleState) :
    Inv { s with runtime := runtime, flights := s.flights.set flight ⟨cluster, .ended outcome⟩ } := by
  have hlt := (List.getElem?_eq_some_iff.mp hf).1
  refine ⟨?_, ?_, h.handles, h.distinct, h.old⟩
  · intro c r hc
    obtain ⟨status, hr, hs⟩ := h.promised c r hc
    rcases eq_or_ne r flight with rfl | hne
    · rw [hf] at hr
      cases hr
      exact ⟨.ended outcome, List.getElem?_set_self hlt, trivial⟩
    · exact ⟨status, (List.getElem?_set_ne hne.symm).trans hr, hs⟩
  · intro r c status hr hs
    rcases eq_or_ne r flight with rfl | hne
    · rw [List.getElem?_set_self hlt] at hr
      cases hr
      exact h.unsettled r cluster .running hf trivial
    · rw [List.getElem?_set_ne hne.symm] at hr
      exact h.unsettled r c status hr hs

/-- The `finally` callback clears the promise of the flight that ended. -/
theorem settleFlight (h : s.Inv) {flight : Nat} {cluster : String} {outcome : Except String Unit}
    (hf : s.flights[flight]? = some ⟨cluster, .ended outcome⟩) :
    Inv { s with
      flights := s.flights.set flight ⟨cluster, .settled outcome⟩
      repairPromise := Function.update s.repairPromise cluster none } := by
  have hlt := (List.getElem?_eq_some_iff.mp hf).1
  have hp := h.unsettled flight cluster _ hf trivial
  refine ⟨?_, ?_, h.handles, h.distinct, h.old⟩
  · intro c r hc
    rcases eq_or_ne c cluster with rfl | hne
    · simp [Function.update_self] at hc
    · simp only [Function.update_of_ne hne] at hc
      obtain ⟨status, hr, hs⟩ := h.promised c r hc
      have hr' : r ≠ flight := by
        intro e
        rw [e, hf] at hr
        cases hr
        exact hne rfl
      exact ⟨status, (List.getElem?_set_ne hr'.symm).trans hr, hs⟩
  · intro r c status hr hs
    rcases eq_or_ne r flight with rfl | hne
    · rw [List.getElem?_set_self hlt] at hr
      cases hr
      exact absurd hs id
    · rw [List.getElem?_set_ne hne.symm] at hr
      have hc := h.unsettled r c status hr hs
      have hcl : c ≠ cluster := by
        intro e
        rw [e, hp] at hc
        exact hne (Option.some.inj hc).symm
      simp only [Function.update_of_ne hcl]
      exact hc

/-- A new rotation replaces the pending one. -/
theorem scheduleRotation (h : s.Inv) (cluster : String) : (s.scheduleRotation cluster).Inv := by
  refine ⟨h.promised, h.unsettled, ?_, ?_, ?_⟩
  · intro t c hm
    rcases List.mem_append.mp hm with hm | hm
    · obtain ⟨hm, hk⟩ := List.mem_filter.mp hm
      have ht := h.handles t c hm
      have hne : c ≠ cluster := by
        intro e
        rw [e] at ht
        simp [ht] at hk
      simp only [Lifecycle.scheduleRotation, Function.update_of_ne hne]
      exact ht
    · cases List.mem_singleton.mp hm
      exact Function.update_self ..
  · refine List.nodup_append.mpr ⟨h.distinct.filter _, List.nodup_singleton _, ?_⟩
    intro a ha b hb e
    cases List.mem_singleton.mp hb
    subst e
    exact absurd (h.old _ _ (List.mem_filter.mp ha).1) (Nat.lt_irrefl _)
  · intro t c hm
    show t < s.timersSet + 1
    rcases List.mem_append.mp hm with hm | hm
    · exact Nat.lt_succ_of_lt (h.old t c (List.mem_filter.mp hm).1)
    · cases List.mem_singleton.mp hm
      exact Nat.lt_succ_self _

/-- **Every step keeps the invariant.** -/
theorem step (h : s.Inv) {event : LifecycleEvent} {t : Lifecycle} (hs : s.step event = some t) :
    t.Inv := by
  cases event with
  | ensureCluster name now =>
      cases hs
      exact h.ensureCluster name now
  | repairCluster name =>
      cases hs
      exact h.repairCluster name
  | initializeClusters =>
      cases hs
      exact h.initializeClusters
  | timerFires timer =>
      rw [Lifecycle.step] at hs
      split at hs
      · cases hs
      · cases hs
        exact (h.dropTimer timer).repairCluster _
  | reconcileEnds flight password audit script now =>
      rw [Lifecycle.step] at hs
      split at hs
      · rename_i cluster hf
        have he := h.endFlight hf
          (reconcileCluster cluster password audit script now s.runtime).1
          (reconcileCluster cluster password audit script now s.runtime).2
        simp only at hs
        split at hs
        · cases hs
          exact he.scheduleRotation cluster
        · cases hs
          exact he
      · cases hs
  | finallyRuns flight =>
      rw [Lifecycle.step] at hs
      split at hs
      · rename_i hf
        cases hs
        exact h.settleFlight hf
      · cases hs
  | resumes call =>
      rw [Lifecycle.step] at hs
      split at hs
      · split at hs
        · cases hs
          exact h.resume ..
        · cases hs
      · cases hs

/-- **Every reachable state has the invariant.** -/
theorem run {managed : List String} {runtime : LifecycleState} {events : List LifecycleEvent}
    (h : Runs.run Lifecycle.step (.built managed runtime) events = some s) : s.Inv :=
  Runs.invariant (fun hi hs => step hi hs) (inv_built managed runtime) h

end Lifecycle.Inv

/-! ## 5. What a step leaves alone -/

section Frame

variable {s t : Lifecycle} {event : LifecycleEvent}

@[simp] theorem repair_calls (s : Lifecycle) (cluster : String) :
    (s.repair cluster).1.calls = s.calls := by
  unfold Lifecycle.repair
  split <;> rfl

theorem repair_flights {flight : Nat} {f : Flight} (cluster : String)
    (h : s.flights[flight]? = some f) : (s.repair cluster).1.flights[flight]? = some f := by
  unfold Lifecycle.repair
  split
  · exact h
  · exact (List.getElem?_append_left (List.getElem?_eq_some_iff.mp h).1).trans h

/-- A call that is in the books stays in its place when another is added. -/
theorem addCall_calls {call : Nat} {c : Call} (new : Call) (h : s.calls[call]? = some c) :
    (s.addCall new).calls[call]? = some c :=
  (List.getElem?_append_left (List.getElem?_eq_some_iff.mp h).1).trans h

theorem repairCluster_calls {call : Nat} {c : Call} (name : String)
    (h : s.calls[call]? = some c) : (s.repairCluster name).calls[call]? = some c := by
  unfold Lifecycle.repairCluster
  split
  · exact addCall_calls _ h
  · rename_i cluster _
    exact addCall_calls _ ((congrArg (·[call]?) (repair_calls s cluster)).trans h)

theorem repairCluster_flights {flight : Nat} {f : Flight} (name : String)
    (h : s.flights[flight]? = some f) : (s.repairCluster name).flights[flight]? = some f := by
  unfold Lifecycle.repairCluster
  split
  · exact h
  · exact repair_flights _ h

/-- **A flight stays in its place**: it changes only where its reconcile ends, or its `finally`
    callback hands its outcome on. -/
theorem step_flights (hs : s.step event = some t) {flight : Nat} {cluster : String}
    {status : FlightStatus} (h : s.flights[flight]? = some ⟨cluster, status⟩) :
    t.flights[flight]? = some ⟨cluster, status⟩ ∨
    (status = .running ∧ ∃ password audit script now outcome,
      event = .reconcileEnds flight password audit script now ∧
      t.flights[flight]? = some ⟨cluster, .ended outcome⟩) ∨
    ∃ outcome, status = .ended outcome ∧ t.flights[flight]? = some ⟨cluster, .settled outcome⟩ := by
  have hlt := (List.getElem?_eq_some_iff.mp h).1
  cases event with
  | ensureCluster name now =>
      cases hs
      refine Or.inl ?_
      unfold Lifecycle.ensureCluster
      split
      · exact h
      · split
        · exact h
        · split
          · exact h
          · exact repairCluster_flights _ h
  | repairCluster name =>
      cases hs
      exact Or.inl (repairCluster_flights name h)
  | initializeClusters =>
      cases hs
      refine Or.inl ?_
      unfold Lifecycle.initializeClusters
      split
      · exact h
      · exact repair_flights _ h
  | timerFires timer =>
      rw [Lifecycle.step] at hs
      split at hs
      · cases hs
      · cases hs
        exact Or.inl (repairCluster_flights _ h)
  | reconcileEnds r password audit script now =>
      rw [Lifecycle.step] at hs
      split at hs
      · rename_i c hf
        have key : ∀ outcome, (s.flights.set r ⟨c, .ended outcome⟩)[flight]? =
              some ⟨cluster, status⟩ ∨
            (status = .running ∧ r = flight ∧
              (s.flights.set r ⟨c, .ended outcome⟩)[flight]? = some ⟨cluster, .ended outcome⟩) := by
          intro outcome
          rcases eq_or_ne r flight with rfl | hne
          · rw [h] at hf
            cases hf
            exact Or.inr ⟨rfl, rfl, List.getElem?_set_self hlt⟩
          · exact Or.inl ((List.getElem?_set_ne hne).trans h)
        simp only at hs
        split at hs
        all_goals
          cases hs
          rcases key _ with h | ⟨rfl, rfl, h⟩
          · exact Or.inl h
          · exact Or.inr (Or.inl ⟨rfl, _, _, _, _, _, rfl, h⟩)
      · cases hs
  | finallyRuns r =>
      rw [Lifecycle.step] at hs
      split at hs
      · rename_i c outcome hf
        cases hs
        rcases eq_or_ne r flight with rfl | hne
        · rw [h] at hf
          cases hf
          exact Or.inr (Or.inr ⟨outcome, rfl, List.getElem?_set_self hlt⟩)
        · exact Or.inl ((List.getElem?_set_ne hne).trans h)
      · cases hs
  | resumes call =>
      rw [Lifecycle.step] at hs
      split at hs
      · split at hs
        · cases hs
          refine Or.inl ?_
          unfold Lifecycle.resume
          split
          · exact repair_flights _ h
          · exact h
        · cases hs
      · cases hs

/-- Whatever happens to a flight, it stays one of its cluster. -/
theorem step_flight_cluster (hs : s.step event = some t) {flight : Nat} {cluster : String}
    {status : FlightStatus} (h : s.flights[flight]? = some ⟨cluster, status⟩) :
    ∃ later, t.flights[flight]? = some ⟨cluster, later⟩ := by
  rcases step_flights hs h with h | ⟨_, _, _, _, _, _, _, h⟩ | ⟨_, _, h⟩
  · exact ⟨_, h⟩
  · exact ⟨_, h⟩
  · exact ⟨_, h⟩

/-- A settled flight keeps its outcome. -/
theorem step_flight_settled (hs : s.step event = some t) {flight : Nat} {cluster : String}
    {outcome : Except String Unit} (h : s.flights[flight]? = some ⟨cluster, .settled outcome⟩) :
    t.flights[flight]? = some ⟨cluster, .settled outcome⟩ := by
  rcases step_flights hs h with h | ⟨e, _⟩ | ⟨_, e, _⟩
  · exact h
  · cases e
  · cases e

/-- **A call changes only where it goes on**, with the outcome of the flight it waited for. -/
theorem step_calls (hs : s.step event = some t) {call : Nat} {c : Call}
    (h : s.calls[call]? = some c) :
    t.calls[call]? = some c ∨ ∃ flight todo cluster outcome, c = ⟨.waiting flight, todo⟩ ∧
      s.flights[flight]? = some ⟨cluster, .settled outcome⟩ ∧ t = s.resume call todo outcome := by
  cases event with
  | ensureCluster name now =>
      cases hs
      refine Or.inl ?_
      unfold Lifecycle.ensureCluster
      split
      · exact addCall_calls _ h
      · split
        · exact addCall_calls _ h
        · split
          · exact addCall_calls _ h
          · exact repairCluster_calls _ h
  | repairCluster name =>
      cases hs
      exact Or.inl (repairCluster_calls name h)
  | initializeClusters =>
      cases hs
      refine Or.inl ?_
      unfold Lifecycle.initializeClusters
      split
      · exact addCall_calls _ h
      · exact addCall_calls _ ((congrArg (·[call]?) (repair_calls s _)).trans h)
  | timerFires timer =>
      rw [Lifecycle.step] at hs
      split at hs
      · cases hs
      · cases hs
        exact Or.inl (repairCluster_calls _ h)
  | reconcileEnds r password audit script now =>
      rw [Lifecycle.step] at hs
      split at hs
      · simp only at hs
        split at hs
        · cases hs
          exact Or.inl h
        · cases hs
          exact Or.inl h
      · cases hs
  | finallyRuns r =>
      rw [Lifecycle.step] at hs
      split at hs
      · cases hs
        exact Or.inl h
      · cases hs
  | resumes other =>
      rw [Lifecycle.step] at hs
      split at hs
      · rename_i flight todo hc
        split at hs
        · rename_i cluster outcome hf
          cases hs
          rcases eq_or_ne other call with rfl | hne
          · rw [h] at hc
            exact Or.inr ⟨flight, todo, cluster, outcome, Option.some.inj hc, hf, rfl⟩
          · refine Or.inl ?_
            unfold Lifecycle.resume
            split
            · exact (List.getElem?_set_ne hne).trans
                ((congrArg (·[call]?) (repair_calls s _)).trans h)
            · exact (List.getElem?_set_ne hne).trans h
        · cases hs
      · cases hs

@[simp] theorem repair_runtime (s : Lifecycle) (cluster : String) :
    (s.repair cluster).1.runtime = s.runtime := by
  unfold Lifecycle.repair
  split <;> rfl

@[simp] theorem repair_managed (s : Lifecycle) (cluster : String) :
    (s.repair cluster).1.managed = s.managed := by
  unfold Lifecycle.repair
  split <;> rfl

theorem repairCluster_runtime (s : Lifecycle) (name : String) :
    (s.repairCluster name).runtime = s.runtime ∧ (s.repairCluster name).managed = s.managed := by
  unfold Lifecycle.repairCluster
  split
  · exact ⟨rfl, rfl⟩
  · exact ⟨repair_runtime s _, repair_managed s _⟩

theorem ensureCluster_runtime (s : Lifecycle) (name : String) (now : Nat) :
    (s.ensureCluster name now).runtime = s.runtime ∧
      (s.ensureCluster name now).managed = s.managed := by
  unfold Lifecycle.ensureCluster
  split
  · exact ⟨rfl, rfl⟩
  · split
    · exact ⟨rfl, rfl⟩
    · split
      · exact ⟨rfl, rfl⟩
      · exact repairCluster_runtime s _

/-- **Only the end of a reconcile writes the state**, and no step changes the managed names. -/
theorem step_runtime (hs : s.step event = some t) :
    t.managed = s.managed ∧ (t.runtime = s.runtime ∨
      ∃ flight password audit script now cluster,
        event = .reconcileEnds flight password audit script now ∧
        s.flights[flight]? = some ⟨cluster, .running⟩ ∧
        t.runtime = (reconcileCluster cluster password audit script now s.runtime).2) := by
  cases event with
  | ensureCluster name now =>
      cases hs
      exact ⟨(ensureCluster_runtime s name now).2, Or.inl (ensureCluster_runtime s name now).1⟩
  | repairCluster name =>
      cases hs
      exact ⟨(repairCluster_runtime s name).2, Or.inl (repairCluster_runtime s name).1⟩
  | initializeClusters =>
      cases hs
      unfold Lifecycle.initializeClusters
      split
      · exact ⟨rfl, Or.inl rfl⟩
      · exact ⟨repair_managed s _, Or.inl (repair_runtime s _)⟩
  | timerFires timer =>
      rw [Lifecycle.step] at hs
      split at hs
      · cases hs
      · rename_i cluster _
        cases hs
        have h := repairCluster_runtime
          { s with timers := s.timers.filter (fun t => t.1 ≠ timer) } cluster
        exact ⟨h.2, Or.inl h.1⟩
  | reconcileEnds flight password audit script now =>
      rw [Lifecycle.step] at hs
      split at hs
      · rename_i cluster hf
        simp only at hs
        split at hs
        all_goals
          cases hs
          exact ⟨rfl, Or.inr ⟨_, _, _, _, _, cluster, rfl, hf, rfl⟩⟩
      · cases hs
  | finallyRuns flight =>
      rw [Lifecycle.step] at hs
      split at hs
      · cases hs
        exact ⟨rfl, Or.inl rfl⟩
      · cases hs
  | resumes call =>
      rw [Lifecycle.step] at hs
      split at hs
      · split at hs
        · cases hs
          unfold Lifecycle.resume
          split
          · exact ⟨repair_managed s _, Or.inl (repair_runtime s _)⟩
          · exact ⟨rfl, Or.inl rfl⟩
        · cases hs
      · cases hs

end Frame

/-! ## 6. Single flight -/

/-- The call waits for the flight, or is settled with its outcome. -/
def Lifecycle.Joined (cluster : String) (flight call : Nat) (s : Lifecycle) : Prop :=
  (s.calls[call]? = some ⟨.waiting flight, []⟩ ∧
    ∃ status, s.flights[flight]? = some ⟨cluster, status⟩) ∨
  ∃ outcome, s.calls[call]? = some ⟨.settled outcome, []⟩ ∧
    s.flights[flight]? = some ⟨cluster, .settled outcome⟩

/-- A call that has joined a flight stays with it. -/
theorem joined_step {cluster : String} {flight call : Nat} {s t : Lifecycle}
    {event : LifecycleEvent} (h : s.Joined cluster flight call) (hs : s.step event = some t) :
    t.Joined cluster flight call := by
  rcases h with ⟨hc, status, hf⟩ | ⟨outcome, hc, hf⟩
  · rcases step_calls hs hc with h | ⟨flight', todo, cluster', outcome, he, hf', rfl⟩
    · exact Or.inl ⟨h, step_flight_cluster hs hf⟩
    · cases he
      rw [hf'] at hf
      cases hf
      have hlt := (List.getElem?_eq_some_iff.mp hc).1
      cases outcome with
      | error message => exact Or.inr ⟨_, List.getElem?_set_self hlt, hf'⟩
      | ok _ => exact Or.inr ⟨_, List.getElem?_set_self hlt, hf'⟩
  · rcases step_calls hs hc with h | ⟨_, _, _, _, he, _⟩
    · exact Or.inr ⟨outcome, h, step_flight_settled hs hf⟩
    · cases he

/-- At most one reconcile of a cluster is in progress. -/
def Lifecycle.OneInProgress (s : Lifecycle) : Prop :=
  ∀ (cluster : String) (flight flight' : Nat), s.flights[flight]? = some ⟨cluster, .running⟩ →
    s.flights[flight']? = some ⟨cluster, .running⟩ → flight = flight'

/-- At most one rotation timer of a cluster is pending. -/
def Lifecycle.OneTimer (s : Lifecycle) : Prop :=
  ∀ cluster, (s.timers.filter fun t => t.2 = cluster).length ≤ 1

/-- A call, by a name, of one of the two functions. -/
def LifecycleEvent.Calls (clusterName : String) : LifecycleEvent → Prop
  | .ensureCluster name _ => name = clusterName
  | .repairCluster name => name = clusterName
  | _ => False

/-- A call made while a reconcile of its cluster is in progress starts none, and in every later
    state it waits for that one or is settled with its outcome; where that one is settled, the
    call can go on. -/
def Lifecycle.CallsJoin (s : Lifecycle) : Prop :=
  ∀ (cluster : String) (flight : Nat) (clusterName : String) (event : LifecycleEvent),
    s.flights[flight]? = some ⟨cluster, .running⟩ →
    resolveManagedClusterName s.managed clusterName = some cluster →
    event.Calls clusterName →
    ∃ s' : Lifecycle, s.step event = some s' ∧ s'.flights = s.flights ∧
      ∀ (events : List LifecycleEvent) (t : Lifecycle), Runs.run Lifecycle.step s' events = some t →
        t.Joined cluster flight s.calls.length ∧
        ∀ outcome, t.flights[flight]? = some ⟨cluster, .settled outcome⟩ →
          t.calls[s.calls.length]? = some ⟨.waiting flight, []⟩ →
          ∃ t' : Lifecycle, t.step (.resumes s.calls.length) = some t' ∧
            t'.calls[s.calls.length]? = some ⟨.settled outcome, []⟩

/-- No reconcile of the cluster is unsettled. -/
def Lifecycle.AllSettled (s : Lifecycle) (cluster : String) : Prop :=
  ∀ (flight : Nat) (status : FlightStatus), s.flights[flight]? = some ⟨cluster, status⟩ →
    ∃ outcome, status = .settled outcome

/-- Once the reconcile of a cluster has ended, well or badly, its `finally` callback can run and
    leaves none unsettled; where none is unsettled, a repair starts one. -/
def Lifecycle.RepairStarts (s : Lifecycle) : Prop :=
  (∀ (cluster : String) (flight : Nat) (outcome : Except String Unit), s.flights[flight]? = some ⟨cluster, .ended outcome⟩ →
    ∃ s' : Lifecycle, s.step (.finallyRuns flight) = some s' ∧ s'.AllSettled cluster) ∧
  ∀ cluster clusterName, resolveManagedClusterName s.managed clusterName = some cluster →
    s.AllSettled cluster →
    ∃ s' : Lifecycle, s.step (.repairCluster clusterName) = some s' ∧
      s'.flights = s.flights ++ [⟨cluster, .running⟩] ∧
      s'.calls = s.calls ++ [⟨.waiting s.flights.length, []⟩]

section Inv

variable {s : Lifecycle}

theorem oneInProgress_of_inv (h : s.Inv) : s.OneInProgress := by
  intro cluster flight flight' hf hf'
  have h1 := h.unsettled flight cluster .running hf trivial
  have h2 := h.unsettled flight' cluster .running hf' trivial
  exact Option.some.inj (h1.symm.trans h2)

theorem oneTimer_of_inv (h : s.Inv) : s.OneTimer := by
  intro cluster
  have hd : (s.timers.filter fun t => t.2 = cluster).Nodup := h.distinct.filter _
  have hall : ∀ a ∈ s.timers.filter (fun t => t.2 = cluster),
      ∀ b ∈ s.timers.filter (fun t => t.2 = cluster), a = b := by
    intro a ha b hb
    obtain ⟨ha, hac⟩ := List.mem_filter.mp ha
    obtain ⟨hb, hbc⟩ := List.mem_filter.mp hb
    have hac : a.2 = cluster := of_decide_eq_true hac
    have hbc : b.2 = cluster := of_decide_eq_true hbc
    have h1 := h.handles a.1 a.2 ha
    have h2 := h.handles b.1 b.2 hb
    rw [hac] at h1
    rw [hbc, h1] at h2
    exact Prod.ext (Option.some.inj h2) (hac.trans hbc.symm)
  rcases e : s.timers.filter (fun t => t.2 = cluster) with _ | ⟨a, _ | ⟨b, rest⟩⟩
  · rw [e]
    simp
  · rw [e]
    simp
  · rw [e] at hd hall
    have hab := hall a List.mem_cons_self b (List.mem_cons_of_mem _ List.mem_cons_self)
    exact absurd (hab ▸ List.mem_cons_self) (List.nodup_cons.mp hd).1

/-- A call made while a flight is promised joins it. -/
theorem step_joins {cluster clusterName : String} {flight : Nat} {event : LifecycleEvent}
    (hp : s.repairPromise cluster = some flight)
    (hr : resolveManagedClusterName s.managed clusterName = some cluster)
    (hc : event.Calls clusterName) :
    s.step event = some (s.addCall ⟨.waiting flight, []⟩) := by
  have hrepair : s.repair cluster = (s, flight) := by simp only [Lifecycle.repair, hp]
  cases event with
  | ensureCluster name now =>
      cases hc
      simp only [Lifecycle.step, Lifecycle.ensureCluster, hr, hp]
  | repairCluster name =>
      cases hc
      simp only [Lifecycle.step, Lifecycle.repairCluster, hr, hrepair]
  | _ => exact absurd hc id

theorem callsJoin_of_inv (h : s.Inv) : s.CallsJoin := by
  intro cluster flight clusterName event hf hr hc
  have hp := h.unsettled flight cluster .running hf trivial
  refine ⟨_, step_joins hp hr hc, rfl, fun events t ht => ?_⟩
  have hjoined : (s.addCall ⟨.waiting flight, []⟩).Joined cluster flight s.calls.length :=
    Or.inl ⟨List.getElem?_concat_length, .running, hf⟩
  refine ⟨Runs.invariant (fun hj hs => joined_step hj hs) hjoined ht, fun outcome hs hw => ?_⟩
  have hlt := (List.getElem?_eq_some_iff.mp hw).1
  refine ⟨t.resume s.calls.length [] outcome, ?_, ?_⟩
  · simp only [Lifecycle.step, hw, hs]
  · cases outcome <;> exact List.getElem?_set_self hlt

theorem repairStarts_of_inv (h : s.Inv) : s.RepairStarts := by
  refine ⟨fun cluster flight outcome hf => ?_, fun cluster clusterName hr hall => ?_⟩
  · have hi := h.settleFlight hf
    refine ⟨{ s with
      flights := s.flights.set flight ⟨cluster, .settled outcome⟩
      repairPromise := Function.update s.repairPromise cluster none }, ?_, fun r status hr => ?_⟩
    · simp only [Lifecycle.step, hf]
    cases status with
    | settled outcome => exact ⟨outcome, rfl⟩
    | running =>
        have := hi.unsettled r cluster .running hr trivial
        simp [Function.update_self] at this
    | ended outcome =>
        have := hi.unsettled r cluster (.ended outcome) hr trivial
        simp [Function.update_self] at this
  · have hp : s.repairPromise cluster = none := by
      rcases hp : s.repairPromise cluster with _ | flight
      · rfl
      · obtain ⟨status, hf, hs⟩ := h.promised cluster flight hp
        obtain ⟨outcome, rfl⟩ := hall flight status hf
        exact absurd hs id
    refine ⟨_, rfl, ?_, ?_⟩
    · simp only [Lifecycle.repairCluster, hr, Lifecycle.repair, hp, Lifecycle.addCall]
    · simp only [Lifecycle.repairCluster, hr, Lifecycle.repair, hp, Lifecycle.addCall]

end Inv

/-- **Single flight.** In every reachable state at most one reconcile of a cluster is in progress,
    a call made during one joins it, a repair after it starts another, and at most one rotation
    timer is pending. -/
theorem lifecycle_singleFlight (managed : List String) (runtime : LifecycleState)
    (events : List LifecycleEvent) (s : Lifecycle)
    (h : Runs.run Lifecycle.step (.built managed runtime) events = some s) :
    s.OneInProgress ∧ s.CallsJoin ∧ s.RepairStarts ∧ s.OneTimer :=
  have hi := Lifecycle.Inv.run h
  ⟨oneInProgress_of_inv hi, callsJoin_of_inv hi, repairStarts_of_inv hi, oneTimer_of_inv hi⟩

/-- Two repairs, by two names, wait for one reconcile, which fails and is settled. -/
def twoRepairs : List LifecycleEvent :=
  [.repairCluster "default", .repairCluster "other",
    .reconcileEnds 0 "pw" (.ok ()) (.error "no route to host") 0, .finallyRuns 0, .resumes 0,
    .resumes 1]

theorem lifecycle_singleFlight_twoRepairs :
    ∃ s, Runs.run Lifecycle.step (.built ["default"] bootstrapState) twoRepairs = some s ∧
      s.OneInProgress ∧ s.CallsJoin ∧ s.RepairStarts ∧ s.OneTimer :=
  ⟨_, rfl, lifecycle_singleFlight ["default"] bootstrapState twoRepairs _ rfl⟩

end ProxmoxMcp
