/-
  File:      ProxmoxMcp/Traffic.lean
  Subject:   REQUESTS TO A MANAGED CLUSTER WHILE ITS TOKEN CHANGES: `apiRequest` beside timers and
             repairs, and the host that accepts the token it issued last.

  The host runs the script of a reconcile while the reconcile is in progress: the old token is
  deleted and a new one issued. Only the end of the reconcile brings the new token to
  `cluster.auth`. A request reads `cluster.auth` when it is sent, the host looks at it when it
  processes the request, and the reply arrives later still.
-/
import ProxmoxMcp.Lifecycle

namespace ProxmoxMcp

open Js

/-! ## 1. Requests and the host -/

/-- How far an `apiRequest` is. -/
inductive RequestPhase where
  | ensuring (call : Nat)
  | sent (secret : Value)
  | processed (accepted : Bool)
  | repairing (call : Nat)
  | finished
  | authError
  deriving DecidableEq

/-- An `apiRequest`; its retry is the one without `allowRepair`. -/
structure ApiRequest where
  clusterName : String
  isRetry : Bool := false
  phase : RequestPhase
  deriving DecidableEq

/-- The lifecycle, the host of the cluster, and the requests so far: the token the host accepts,
    and the one it issued to a reconcile that has not ended. -/
structure Traffic where
  life : Lifecycle
  hostToken : String
  script : Option (Nat × String) := none
  requests : List ApiRequest := []

/-- `cluster.auth.secret`. -/
def RuntimeAuth.secret : RuntimeAuth → Value
  | .reconciled _ _ _ secret => secret
  | .configured (.api_token _ _ _ secret) => .str secret
  | .configured _ => .undefined

/-- The secret that a request to the cluster is sent with. -/
def Traffic.secret (s : Traffic) (cluster : String) : Value :=
  (s.life.runtime.clusterMap cluster).elim .undefined fun c => c.auth.secret

/-- What can happen: a step of the lifecycle, the script of a running reconcile on the host, a new
    request, and the steps of a request. The message of a failed request may read as an
    authentication failure whatever the status (`isApiAuthError`). -/
inductive TrafficEvent where
  | lifecycle (event : LifecycleEvent)
  | hostIssues (flight : Nat) (token : String)
  | apiRequest (clusterName : String) (now : Nat)
  | sends (request : Nat)
  | hostProcesses (request : Nat)
  | replyArrives (request : Nat) (readsAsAuth : Bool)
  | retries (request : Nat) (now : Nat)

/-- The reconcile succeeds with the token. -/
def succeedsWith (token : String) (audit : Except String Unit) (script : Except String String) :
    Bool :=
  match audit, script with
  | .ok (), .ok stdout => (bootstrapReply stdout).any fun reply => reply.value == token
  | _, _ => false

/-- A step of the lifecycle. A reconcile of the cluster ends well: its script has run, and its reply
    holds the token issued. -/
def Traffic.lifecycleStep (cluster : String) (s : Traffic) (event : LifecycleEvent) :
    Option Traffic :=
  match event with
  | .reconcileEnds flight _ audit script _ =>
    if (s.life.flights[flight]?).any fun f => f.cluster == cluster then
      match s.script with
      | some (r, token) =>
        if r = flight ∧ succeedsWith token audit script then
          (s.life.step event).map fun life => { s with life := life, script := none }
        else none
      | none => none
    else (s.life.step event).map fun life => { s with life := life }
  | event => (s.life.step event).map fun life => { s with life := life }

/-- The request goes on to a phase. -/
def Traffic.setPhase (s : Traffic) (request : Nat) (r : ApiRequest) (phase : RequestPhase) :
    Traffic :=
  { s with requests := s.requests.set request { r with phase := phase } }

/-- One step. -/
def Traffic.step (cluster : String) (s : Traffic) : TrafficEvent → Option Traffic
  | .lifecycle event => s.lifecycleStep cluster event
  | .hostIssues flight token =>
    match s.life.flights[flight]? with
    | some ⟨c, .running⟩ =>
      if c = cluster ∧ s.script = none ∧ token ≠ s.hostToken then
        some { s with hostToken := token, script := some (flight, token) }
      else none
    | _ => none
  | .apiRequest clusterName now =>
    if resolveManagedClusterName s.life.managed clusterName = some cluster then
      some { s with
        life := s.life.ensureCluster clusterName now
        requests := s.requests ++
          [{ clusterName := clusterName, phase := .ensuring s.life.calls.length }] }
    else none
  | .sends request =>
    match s.requests[request]? with
    | some ⟨clusterName, isRetry, .ensuring call⟩ =>
      match s.life.calls[call]? with
      | some ⟨.settled (.ok ()), _⟩ =>
        some (s.setPhase request ⟨clusterName, isRetry, .ensuring call⟩ (.sent (s.secret cluster)))
      | some ⟨.settled (.error _), _⟩ =>
        some (s.setPhase request ⟨clusterName, isRetry, .ensuring call⟩ .finished)
      | _ => none
    | _ => none
  | .hostProcesses request =>
    match s.requests[request]? with
    | some ⟨clusterName, isRetry, .sent secret⟩ =>
      some (s.setPhase request ⟨clusterName, isRetry, .sent secret⟩
        (.processed (secret == .str s.hostToken)))
    | _ => none
  | .replyArrives request readsAsAuth =>
    match s.requests[request]? with
    | some ⟨clusterName, isRetry, .processed accepted⟩ =>
      if accepted && !readsAsAuth then
        some (s.setPhase request ⟨clusterName, isRetry, .processed accepted⟩ .finished)
      else if isRetry then
        some (s.setPhase request ⟨clusterName, isRetry, .processed accepted⟩
          (if accepted then .finished else .authError))
      else
        some ({ s with life := s.life.repairCluster clusterName }.setPhase request
          ⟨clusterName, isRetry, .processed accepted⟩ (.repairing s.life.calls.length))
    | _ => none
  | .retries request now =>
    match s.requests[request]? with
    | some ⟨clusterName, isRetry, .repairing call⟩ =>
      match s.life.calls[call]? with
      | some ⟨.settled (.ok ()), _⟩ =>
        some ({ s with life := s.life.ensureCluster clusterName now }.setPhase request
          ⟨clusterName, true, .repairing call⟩ (.ensuring s.life.calls.length))
      | some ⟨.settled (.error _), _⟩ =>
        some (s.setPhase request ⟨clusterName, isRetry, .repairing call⟩ .finished)
      | _ => none
    | _ => none

/-! ## 2. Calls that are let through -/

/-- The call is settled, or the reconcile it waits for has ended. -/
def Lifecycle.LetThrough (s : Lifecycle) (call : Nat) : Prop :=
  (∃ outcome, s.calls[call]? = some ⟨.settled outcome, []⟩) ∨
  ∃ flight f, s.calls[call]? = some ⟨.waiting flight, []⟩ ∧ s.flights[flight]? = some f ∧
    f.status ≠ .running

/-- The call is one of `ensureCluster` for the cluster: settled, or waiting for a reconcile of it. -/
def Lifecycle.Tracked (cluster : String) (s : Lifecycle) (call : Nat) : Prop :=
  (∃ outcome, s.calls[call]? = some ⟨.settled outcome, []⟩) ∨
  ∃ flight status, s.calls[call]? = some ⟨.waiting flight, []⟩ ∧
    s.flights[flight]? = some ⟨cluster, status⟩

section Calls

variable {cluster : String} {s t : Lifecycle} {event : LifecycleEvent} {call : Nat}

theorem resume_settled {flight : Nat} {outcome : Except String Unit}
    (h : s.calls[call]? = some ⟨.waiting flight, []⟩) :
    (s.resume call [] outcome).calls[call]? = some ⟨.settled outcome, []⟩ := by
  have hlt := (List.getElem?_eq_some_iff.mp h).1
  cases outcome <;> exact List.getElem?_set_self hlt

theorem tracked_step (h : s.Tracked cluster call) (hs : s.step event = some t) :
    t.Tracked cluster call := by
  rcases h with ⟨outcome, hc⟩ | ⟨flight, status, hc, hf⟩
  · rcases step_calls hs hc with h | ⟨_, _, _, _, he, _⟩
    · exact Or.inl ⟨outcome, h⟩
    · cases he
  · rcases step_calls hs hc with h | ⟨flight', todo, cluster', outcome, he, hf', rfl⟩
    · obtain ⟨later, hl⟩ := step_flight_cluster hs hf
      exact Or.inr ⟨flight, later, h, hl⟩
    · cases he
      exact Or.inl ⟨outcome, resume_settled hc⟩

/-- **A call is let through only when a reconcile of its cluster ends.** -/
theorem letThrough_step (h : s.Tracked cluster call) (hs : s.step event = some t)
    (ht : t.LetThrough call) :
    s.LetThrough call ∨ ∃ flight password audit script now,
      event = .reconcileEnds flight password audit script now ∧
      s.flights[flight]? = some ⟨cluster, .running⟩ := by
  rcases h with ⟨outcome, hc⟩ | ⟨flight, status, hc, hf⟩
  · exact Or.inl (Or.inl ⟨outcome, hc⟩)
  · by_cases hr : status = .running
    · subst hr
      have hc' : t.calls[call]? = some ⟨.waiting flight, []⟩ := by
        rcases step_calls hs hc with h | ⟨_, _, _, _, he, hf', _⟩
        · exact h
        · cases he
          rw [hf] at hf'
          cases hf'
      rcases step_flights hs hf with h | ⟨_, _, _, _, _, _, rfl, _⟩ | ⟨_, he, _⟩
      · rcases ht with ⟨_, ht⟩ | ⟨_, f, ht, hft, hne⟩
        · rw [hc'] at ht
          cases ht
        · rw [hc'] at ht
          cases ht
          rw [h] at hft
          cases hft
          exact absurd rfl hne
      · exact Or.inr ⟨flight, _, _, _, _, rfl, hf⟩
      · cases he
    · exact Or.inl (Or.inr ⟨flight, _, hc, hf, hr⟩)

theorem resolve_self {managed : List String} {name : String}
    (h : resolveManagedClusterName managed name = some cluster) :
    resolveManagedClusterName managed cluster = some cluster := by
  have hm : cluster ∈ managed := by
    unfold resolveManagedClusterName at h
    split at h
    · cases h
      assumption
    · split at h
      · cases h
        exact List.mem_singleton_self _
      · cases h
  unfold resolveManagedClusterName
  exact if_pos hm

/-- **A new `ensureCluster` is let through only while no reconcile of the cluster is running.** -/
theorem ensureCluster_new (hi : s.Inv) {name : String} (now : Nat)
    (hr : resolveManagedClusterName s.managed name = some cluster) :
    (s.ensureCluster name now).Tracked cluster s.calls.length ∧
      ((s.ensureCluster name now).LetThrough s.calls.length →
        ∀ flight : Nat, s.flights[flight]? ≠ some ⟨cluster, .running⟩) := by
  rcases hp : s.repairPromise cluster with _ | flight
  · have hnone : ∀ flight : Nat, s.flights[flight]? ≠ some ⟨cluster, .running⟩ := by
      intro flight hf
      have := hi.unsettled flight cluster .running hf trivial
      rw [hp] at this
      cases this
    refine ⟨?_, fun _ => hnone⟩
    by_cases hfresh : (s.runtime.managedClusters cluster).all (·.isFresh now) = true
    · simp only [Lifecycle.ensureCluster, hr, hp, hfresh, if_true]
      exact Or.inl ⟨_, List.getElem?_concat_length⟩
    · simp only [Lifecycle.ensureCluster, hr, hp, hfresh, Bool.false_eq_true, if_false,
        Lifecycle.repairCluster, resolve_self hr, Lifecycle.repair]
      exact Or.inr ⟨s.flights.length, .running, List.getElem?_concat_length,
        List.getElem?_concat_length⟩
  · obtain ⟨status, hf, _⟩ := hi.promised cluster flight hp
    simp only [Lifecycle.ensureCluster, hr, hp]
    refine ⟨Or.inr ⟨flight, status, List.getElem?_concat_length, hf⟩, fun ht r hrun => ?_⟩
    have hc : (s.addCall ⟨.waiting flight, []⟩).calls[s.calls.length]? =
        some ⟨.waiting flight, []⟩ := List.getElem?_concat_length
    have hr' := hi.unsettled r cluster .running hrun trivial
    rw [hp] at hr'
    cases hr'
    rcases ht with ⟨_, ht⟩ | ⟨_, f, ht, hft, hne⟩
    · rw [hc] at ht
      cases ht
    · rw [hc] at ht
      cases ht
      have hft : s.flights[flight]? = some f := hft
      rw [hrun] at hft
      cases hft
      exact hne rfl

end Calls

/-! ## 3. The invariant -/

/-- A retry that the next token would take by surprise: it is on its way to the host, or was let
    through and is about to be sent. -/
def Traffic.Exposed (s : Traffic) (r : ApiRequest) : Prop :=
  r.isRetry = true ∧
    ((∃ secret, r.phase = .sent secret) ∨ ∃ call, r.phase = .ensuring call ∧ s.life.LetThrough call)

/-- The host issues no token while a retry is exposed. -/
def Traffic.Undisturbed (s : Traffic) : TrafficEvent → Prop
  | .hostIssues _ _ => ∀ r ∈ s.requests, ¬ s.Exposed r
  | _ => True

/-- What holds of a request. -/
structure Traffic.RequestOk (cluster : String) (s : Traffic) (r : ApiRequest) : Prop where
  named : resolveManagedClusterName s.life.managed r.clusterName = some cluster
  tracked : r.isRetry = true → ∀ call, r.phase = .ensuring call → s.life.Tracked cluster call
  exposed : s.Exposed r → s.script = none
  sent : r.isRetry = true → ∀ secret, r.phase = .sent secret → secret = .str s.hostToken
  accepted : r.isRetry = true → r.phase ≠ .processed false
  noError : r.phase ≠ .authError

/-- **The invariant**: `cluster.auth` holds the token of the host except while a running reconcile
    has had another one issued, and every request is well. -/
structure Traffic.Inv (cluster : String) (s : Traffic) : Prop where
  life : s.life.Inv
  managed : (s.life.runtime.managedClusters cluster).isSome
  known : (s.life.runtime.clusterMap cluster).isSome
  auth : s.script = none → (s.life.runtime.clusterMap cluster).map RuntimeCluster.auth =
    some (.reconciled "mcp" "pam" "mcp" (.str s.hostToken))
  script : ∀ flight token, s.script = some (flight, token) →
    s.life.flights[flight]? = some ⟨cluster, .running⟩ ∧ token = s.hostToken
  requests : ∀ r ∈ s.requests, s.RequestOk cluster r

section Inv

variable {cluster : String} {s t : Traffic}

/-- The secret a request is sent with is the host's, unless a new one is on its way. -/
theorem Traffic.Inv.secret (h : s.Inv cluster) (hs : s.script = none) :
    s.secret cluster = .str s.hostToken := by
  have ha := h.auth hs
  rcases hc : s.life.runtime.clusterMap cluster with _ | c
  · rw [hc] at ha
    cases ha
  · rw [hc, Option.map_some, Option.some.injEq] at ha
    simp only [Traffic.secret, hc, Option.elim_some, ha, RuntimeAuth.secret]

/-- A request goes on to a phase in which it is well. -/
theorem Traffic.Inv.setPhase (h : s.Inv cluster) {request : Nat} {r : ApiRequest}
    {phase : RequestPhase} (hr : s.RequestOk cluster { r with phase := phase }) :
    (s.setPhase request r phase).Inv cluster where
  life := h.life
  managed := h.managed
  known := h.known
  auth := h.auth
  script := h.script
  requests := by
    intro r' hm
    rcases List.mem_or_eq_of_mem_set hm with hm | rfl
    · have := h.requests r' hm
      exact ⟨this.named, this.tracked, this.exposed, this.sent, this.accepted, this.noError⟩
    · exact ⟨hr.named, hr.tracked, hr.exposed, hr.sent, hr.accepted, hr.noError⟩

/-- A request is well in a phase without a claim on it. -/
theorem Traffic.RequestOk.idle {r : ApiRequest} {phase : RequestPhase}
    (h : s.RequestOk cluster r) (h1 : ∀ call, phase ≠ .ensuring call)
    (h2 : ∀ secret, phase ≠ .sent secret) (h3 : r.isRetry = true → phase ≠ .processed false)
    (h4 : phase ≠ .authError) : s.RequestOk cluster { r with phase := phase } where
  named := h.named
  tracked _ call e := absurd e (h1 call)
  exposed := by
    intro hparts
    obtain ⟨_, he⟩ := hparts
    rcases he with ⟨secret, e⟩ | ⟨call, e, _⟩
    · exact absurd e (h2 secret)
    · exact absurd e (h1 call)
  sent _ secret e := absurd e (h2 secret)
  accepted := h3
  noError := h4

/-- A request that is no retry is well in every phase but an error. -/
theorem Traffic.RequestOk.first {name : String} {phase : RequestPhase}
    (hn : resolveManagedClusterName s.life.managed name = some cluster)
    (h : phase ≠ .authError) : s.RequestOk cluster ⟨name, false, phase⟩ where
  named := hn
  tracked e := by cases e
  exposed e := by cases e.1
  sent e := by cases e
  accepted e := by cases e
  noError := h

/-- A step of the lifecycle that ends no reconcile of the cluster keeps the invariant. -/
theorem Traffic.Inv.lifeStep (h : s.Inv cluster) (event : LifecycleEvent) {life : Lifecycle}
    (hs : s.life.step event = some life)
    (hne : ∀ flight password audit script now,
      event = .reconcileEnds flight password audit script now →
      ∀ status, s.life.flights[flight]? ≠ some ⟨cluster, status⟩) :
    Traffic.Inv cluster { s with life := life } := by
  have hrt : life.runtime.clusterMap cluster = s.life.runtime.clusterMap cluster ∧
      life.runtime.managedClusters cluster = s.life.runtime.managedClusters cluster := by
    rcases (step_runtime hs).2 with e | ⟨flight, password, audit, script, now, c, e, hf, hr⟩
    · rw [e]
      exact ⟨rfl, rfl⟩
    · have hc : cluster ≠ c := by
        intro hc
        subst hc
        exact hne _ _ _ _ _ e _ hf
      rw [hr]
      exact reconcileCluster_other hc password audit script now s.life.runtime
  have hm := (step_runtime hs).1
  refine ⟨h.life.step hs, ?_, ?_, fun hn => ?_, fun flight token hsc => ?_, fun r hr => ?_⟩
  · rw [hrt.2]
    exact h.managed
  · rw [hrt.1]
    exact h.known
  · rw [hrt.1]
    exact h.auth hn
  · obtain ⟨hf, htok⟩ := h.script flight token hsc
    refine ⟨?_, htok⟩
    rcases step_flights hs hf with h' | ⟨_, _, _, _, _, _, e, _⟩ | ⟨_, e, _⟩
    · exact h'
    · exact absurd hf (hne _ _ _ _ _ e _)
    · cases e
  · have ho := h.requests r hr
    refine ⟨hm ▸ ho.named, fun hret call hp => tracked_step (ho.tracked hret call hp) hs,
      fun he => ?_, ho.sent, ho.accepted, ho.noError⟩
    obtain ⟨hret, ⟨secret, hp⟩ | ⟨call, hp, hl⟩⟩ := he
    · exact ho.exposed ⟨hret, Or.inl ⟨secret, hp⟩⟩
    · rcases letThrough_step (ho.tracked hret call hp) hs hl with hl | ⟨_, _, _, _, _, e, hf⟩
      · exact ho.exposed ⟨hret, Or.inr ⟨call, hp, hl⟩⟩
      · exact absurd hf (hne _ _ _ _ _ e _)

/-- What a step of the lifecycle is: none that ends a reconcile of the cluster, or one that ends it
    with the token the host issued to it. -/
theorem lifecycleStep_cases {event : LifecycleEvent}
    (h : s.lifecycleStep cluster event = some t) :
    ∃ life, s.life.step event = some life ∧
      ((t = { s with life := life } ∧ ∀ flight password audit script now,
          event = .reconcileEnds flight password audit script now →
          ∀ status, s.life.flights[flight]? ≠ some ⟨cluster, status⟩) ∨
        ∃ flight password audit script now token,
          event = .reconcileEnds flight password audit script now ∧
          s.script = some (flight, token) ∧ succeedsWith token audit script = true ∧
          t = { s with life := life, script := none }) := by
  have other : (∀ flight password audit script now,
      event ≠ .reconcileEnds flight password audit script now) →
      (s.life.step event).map (fun life => { s with life := life }) = some t →
      ∃ life, s.life.step event = some life ∧
        ((t = { s with life := life } ∧ ∀ flight password audit script now,
            event = .reconcileEnds flight password audit script now →
            ∀ status, s.life.flights[flight]? ≠ some ⟨cluster, status⟩) ∨
          ∃ flight password audit script now token,
            event = .reconcileEnds flight password audit script now ∧
            s.script = some (flight, token) ∧ succeedsWith token audit script = true ∧
            t = { s with life := life, script := none }) := by
    intro hne h
    obtain ⟨life, hl, rfl⟩ := Option.map_eq_some_iff.mp h
    exact ⟨life, hl, Or.inl ⟨rfl, fun _ _ _ _ _ e => absurd e (hne _ _ _ _ _)⟩⟩
  cases event with
  | reconcileEnds flight password audit script now =>
      simp only [Traffic.lifecycleStep] at h
      split at h
      · split at h
        · rename_i r token hsc
          split at h
          · rename_i hok
            obtain ⟨rfl, hok⟩ := hok
            obtain ⟨life, hl, rfl⟩ := Option.map_eq_some_iff.mp h
            exact ⟨life, hl, Or.inr ⟨_, _, _, _, _, token, rfl, hsc, hok, rfl⟩⟩
          · cases h
        · cases h
      · rename_i hno
        obtain ⟨life, hl, rfl⟩ := Option.map_eq_some_iff.mp h
        refine ⟨life, hl, Or.inl ⟨rfl, fun _ _ _ _ _ e status hf => ?_⟩⟩
        cases e
        simp [hf] at hno
  | ensureCluster => exact other (fun _ _ _ _ _ e => by cases e) h
  | repairCluster => exact other (fun _ _ _ _ _ e => by cases e) h
  | initializeClusters => exact other (fun _ _ _ _ _ e => by cases e) h
  | timerFires => exact other (fun _ _ _ _ _ e => by cases e) h
  | finallyRuns => exact other (fun _ _ _ _ _ e => by cases e) h
  | resumes => exact other (fun _ _ _ _ _ e => by cases e) h

theorem succeedsWith_iff {token : String} {audit : Except String Unit}
    {script : Except String String} :
    succeedsWith token audit script = true ↔ ∃ stdout reply, audit = .ok () ∧
      script = .ok stdout ∧ bootstrapReply stdout = some reply ∧ reply.value = token := by
  constructor
  · intro h
    unfold succeedsWith at h
    split at h
    · rename_i stdout
      obtain ⟨reply, hr, hv⟩ := (Option.any_eq_true _ _).mp h
      exact ⟨stdout, reply, rfl, rfl, hr, beq_iff_eq.mp hv⟩
    · cases h
  · intro hparts
    obtain ⟨stdout, reply, ha, hs, hr, hv⟩ := hparts
    subst ha hs
    simp [succeedsWith, hr, hv]

/-- **The end of a reconcile brings the host's token to the cluster.** -/
theorem Traffic.Inv.endReconcile (h : s.Inv cluster) {flight : Nat} {password token : String}
    {audit : Except String Unit} {script : Except String String} {now : Nat} {life : Lifecycle}
    (hs : s.life.step (.reconcileEnds flight password audit script now) = some life)
    (hsc : s.script = some (flight, token)) (hok : succeedsWith token audit script = true) :
    Traffic.Inv cluster { s with life := life, script := none } := by
  obtain ⟨hf, htok⟩ := h.script flight token hsc
  obtain ⟨stdout, reply, rfl, rfl, hr, hv⟩ := succeedsWith_iff.mp hok
  obtain ⟨state, hm⟩ := Option.isSome_iff_exists.mp h.managed
  obtain ⟨c, hc⟩ := Option.isSome_iff_exists.mp h.known
  have hrefl := (reconcileCluster_reflects password now hm hc hr).2
  have hrt : life.runtime =
      (reconcileCluster cluster password (.ok ()) (.ok stdout) now s.life.runtime).2 := by
    simp only [Lifecycle.step, hf] at hs
    split at hs
    all_goals
      cases hs
      rfl
  rw [← hrt] at hrefl
  have hauth : (life.runtime.clusterMap cluster).map RuntimeCluster.auth =
      some (.reconciled "mcp" "pam" "mcp" (.str s.hostToken)) := by
    rw [hrefl.auth, hv, htok]
  refine ⟨h.life.step hs, ?_, ?_, fun _ => hauth, fun _ _ e => (by cases e), fun r hr => ?_⟩
  · have := hrefl.token
    rcases hl : life.runtime.managedClusters cluster with _ | _
    · rw [hl] at this
      cases this
    · rfl
  · rcases hl : life.runtime.clusterMap cluster with _ | _
    · rw [hl] at hauth
      cases hauth
    · rfl
  · have ho := h.requests r hr
    exact ⟨(step_runtime hs).1 ▸ ho.named,
      fun hret call hp => tracked_step (ho.tracked hret call hp) hs, fun _ => rfl, ho.sent,
      ho.accepted, ho.noError⟩

/-- A token is issued: no retry is exposed to it. -/
theorem Traffic.Inv.issue (h : s.Inv cluster) {flight : Nat} {token : String}
    (hf : s.life.flights[flight]? = some ⟨cluster, .running⟩)
    (hc : ∀ r ∈ s.requests, ¬ s.Exposed r) :
    Traffic.Inv cluster { s with hostToken := token, script := some (flight, token) } := by
  refine ⟨h.life, h.managed, h.known, fun e => (by cases e), fun r tok e => ?_, fun r hr => ?_⟩
  · cases e
    exact ⟨hf, rfl⟩
  · have ho := h.requests r hr
    refine ⟨ho.named, ho.tracked, fun he => absurd he (hc r hr), fun hret secret hp => ?_,
      ho.accepted, ho.noError⟩
    exact absurd ⟨hret, Or.inl ⟨secret, hp⟩⟩ (hc r hr)

/-- **Every undisturbed step keeps the invariant.** -/
theorem Traffic.Inv.step (h : s.Inv cluster) {event : TrafficEvent} (hc : s.Undisturbed event)
    (hs : s.step cluster event = some t) : t.Inv cluster := by
  cases event with
  | lifecycle event =>
      obtain ⟨life, hl, ⟨rfl, hne⟩ | ⟨flight, password, audit, script, now, token, rfl, hsc, hok,
        rfl⟩⟩ := lifecycleStep_cases hs
      · exact h.lifeStep _ hl hne
      · exact h.endReconcile hl hsc hok
  | hostIssues flight token =>
      simp only [Traffic.step] at hs
      split at hs
      · rename_i c hf
        split at hs
        · rename_i hg
          obtain ⟨rfl, _⟩ := hg
          cases hs
          exact h.issue hf hc
        · cases hs
      · cases hs
  | apiRequest clusterName now =>
      simp only [Traffic.step] at hs
      split at hs
      · rename_i hn
        cases hs
        have h' := h.lifeStep (.ensureCluster clusterName now) rfl
          (fun _ _ _ _ _ e => by cases e)
        refine ⟨h'.life, h'.managed, h'.known, h'.auth, h'.script, fun r hr => ?_⟩
        rcases List.mem_append.mp hr with hr | hr
        · have ho := h'.requests r hr
          exact ⟨ho.named, ho.tracked, ho.exposed, ho.sent, ho.accepted, ho.noError⟩
        · cases List.mem_singleton.mp hr
          exact .first ((ensureCluster_runtime s.life clusterName now).2 ▸ hn) (by simp)
      · cases hs
  | sends request =>
      simp only [Traffic.step] at hs
      split at hs
      · rename_i name isRetry call hr
        have ho := h.requests _ (List.mem_of_getElem? hr)
        split at hs
        · rename_i todo hcall
          cases hs
          refine h.setPhase ?_
          cases isRetry with
          | false => exact .first ho.named (by simp)
          | true =>
              -- the call is settled, so the retry was exposed already and no new token is on its way
              have hlet : s.life.LetThrough call := by
                rcases ho.tracked rfl call rfl with ⟨outcome, hc'⟩ | ⟨flight, status, hc', _⟩
                · exact Or.inl ⟨outcome, hc'⟩
                · rw [hcall] at hc'
                  cases hc'
              have hnone := ho.exposed ⟨rfl, Or.inr ⟨call, rfl, hlet⟩⟩
              exact ⟨ho.named, fun _ _ e => (by cases e), fun _ => hnone,
                fun _ secret e => by cases e; exact h.secret hnone, fun _ e => (by cases e),
                fun e => (by cases e)⟩
        · cases hs
          exact h.setPhase (ho.idle (by simp) (by simp) (by simp) (by simp))
        · cases hs
      · cases hs
  | hostProcesses request =>
      simp only [Traffic.step] at hs
      split at hs
      · rename_i name isRetry secret hr
        have ho := h.requests _ (List.mem_of_getElem? hr)
        cases hs
        refine h.setPhase (ho.idle (by simp) (by simp) (fun hret => ?_) (by simp))
        rw [ho.sent hret secret rfl]
        simp
      · cases hs
  | replyArrives request readsAsAuth =>
      simp only [Traffic.step] at hs
      split at hs
      · rename_i name isRetry accepted hr
        have ho := h.requests _ (List.mem_of_getElem? hr)
        split at hs
        · cases hs
          exact h.setPhase (ho.idle (by simp) (by simp) (by simp) (by simp))
        · split at hs
          · rename_i hret
            subst hret
            have hacc : accepted = true := by
              cases accepted with
              | true => rfl
              | false => exact absurd rfl (ho.accepted rfl)
            subst hacc
            cases hs
            exact h.setPhase (ho.idle (by simp) (by simp) (by simp) (by simp))
          · rename_i hret
            have hfirst : isRetry = false := by simpa using hret
            subst hfirst
            cases hs
            have h' := h.lifeStep (.repairCluster name) rfl
              (fun _ _ _ _ _ e => by cases e)
            exact h'.setPhase (.first ((repairCluster_runtime s.life name).2 ▸ ho.named) (by simp))
      · cases hs
  | retries request now =>
      simp only [Traffic.step] at hs
      split at hs
      · rename_i name isRetry call hr
        have ho := h.requests _ (List.mem_of_getElem? hr)
        split at hs
        · cases hs
          have h' := h.lifeStep (.ensureCluster name now) rfl
            (fun _ _ _ _ _ e => by cases e)
          obtain ⟨htr, hlet⟩ := ensureCluster_new h.life now ho.named
          refine h'.setPhase ⟨(ensureCluster_runtime s.life name now).2 ▸ ho.named,
            fun _ c e => ?_, fun he => ?_, fun _ _ e => (by cases e), fun _ e => (by cases e),
            fun e => (by cases e)⟩
          · cases e
            exact htr
          · obtain ⟨_, ⟨_, e⟩ | ⟨c, e, hl⟩⟩ := he
            · cases e
            · cases e
              rcases hsc : s.script with _ | ⟨flight, token⟩
              · rfl
              · exact absurd (h.script flight token hsc).1 (hlet hl flight)
        · cases hs
          exact h.setPhase (ho.idle (by simp) (by simp) (by simp) (by simp))
        · cases hs
      · cases hs

end Inv

/-! ## 4. Runs -/

/-- The cluster as the start-up leaves it: every reconcile is settled, and `cluster.auth` holds the
    token of the host. -/
structure Started (cluster : String) where
  life : Lifecycle
  token : String
  inv : life.Inv
  settled : life.AllSettled cluster
  managed : (life.runtime.managedClusters cluster).isSome
  auth : (life.runtime.clusterMap cluster).map RuntimeCluster.auth =
    some (.reconciled "mcp" "pam" "mcp" (.str token))

/-- No request has been made yet. -/
def Started.traffic {cluster : String} (start : Started cluster) : Traffic where
  life := start.life
  hostToken := start.token

theorem Started.traffic_inv {cluster : String} (start : Started cluster) :
    start.traffic.Inv cluster where
  life := start.inv
  managed := start.managed
  known := by
    have := start.auth
    rcases hc : start.life.runtime.clusterMap cluster with _ | _
    · rw [hc] at this
      cases this
    · exact Option.isSome_iff_exists.mpr ⟨_, hc⟩
  auth _ := start.auth
  script _ _ e := by cases e
  requests r hr := by cases hr

/-- **No request ends with an authentication error** in a run in which the host issues no token
    while a retry is exposed. -/
theorem traffic_noAuthError (cluster : String) (start : Started cluster)
    (events : List TrafficEvent) (s : Traffic)
    (hc : Runs.Along (Traffic.step cluster) Traffic.Undisturbed start.traffic events)
    (hs : Runs.run (Traffic.step cluster) start.traffic events = some s) :
    ∀ r ∈ s.requests, r.phase ≠ .authError := by
  have hi : s.Inv cluster :=
    Runs.invariant_along (fun h hc hs => h.step hc hs) start.traffic_inv hc hs
  exact fun r hr => (hi.requests r hr).noError

/-- The condition is no idle one: where a token is issued while a retry is on its way to the host,
    the retry ends with an authentication error as soon as the host and the reply get to it. -/
theorem traffic_disturbed {cluster : String} {s t : Traffic} {flight : Nat} {token : String}
    (hs : s.step cluster (.hostIssues flight token) = some t) {request : Nat} {name : String}
    (hr : s.requests[request]? = some ⟨name, true, .sent (.str s.hostToken)⟩) (readsAsAuth : Bool) :
    ∃ u, Runs.run (Traffic.step cluster) t
        [.hostProcesses request, .replyArrives request readsAsAuth] = some u ∧
      u.requests[request]? = some ⟨name, true, .authError⟩ := by
  have ht : t.requests = s.requests ∧ t.hostToken ≠ s.hostToken := by
    simp only [Traffic.step] at hs
    split at hs
    · split at hs
      · rename_i hg
        cases hs
        exact ⟨rfl, hg.2.2⟩
      · cases hs
    · cases hs
  have hlt := (List.getElem?_eq_some_iff.mp hr).1
  have hrefused : (Value.str s.hostToken == .str t.hostToken) = false := by
    simpa using ht.2.symm
  have h1 : t.step cluster (.hostProcesses request) =
      some (t.setPhase request ⟨name, true, .sent (.str s.hostToken)⟩ (.processed false)) := by
    simp only [Traffic.step, ht.1, hr, hrefused]
  have h2 : (t.setPhase request ⟨name, true, .sent (.str s.hostToken)⟩
      (.processed false)).requests[request]? = some ⟨name, true, .processed false⟩ :=
    List.getElem?_set_self (ht.1 ▸ hlt)
  have hlt' : request < (t.setPhase request ⟨name, true, .sent (.str s.hostToken)⟩
      (.processed false)).requests.length := (List.getElem?_eq_some_iff.mp h2).1
  refine ⟨(t.setPhase request ⟨name, true, .sent (.str s.hostToken)⟩
    (.processed false)).setPhase request ⟨name, true, .processed false⟩ .authError, ?_,
    List.getElem?_set_self hlt'⟩
  refine Runs.run_cons.mpr ⟨_, h1, Runs.run_cons.mpr ⟨_, ?_, rfl⟩⟩
  simp only [Traffic.step, h2]
  rfl

/-- The cluster `default` after a start-up that was issued the token `t1`. -/
def startedDefault : Started "default" where
  life := .built ["default"]
    { managedClusters := Function.update (fun _ => none) "default"
        (some { bootstrap := { host := "pve", username := "root", password := "p" } })
      clusterMap := Function.update (fun _ => none) "default"
        (some { auth := .reconciled "mcp" "pam" "mcp" (.str "t1") })
      sshProfiles := bootstrapState.sshProfiles
      sshProfileMap := fun _ => none }
  token := "t1"
  inv := inv_built _ _
  settled := fun _ _ h => by cases h
  managed := rfl
  auth := rfl

/-- The reply of the script, with its token. -/
def issuedReply (token : String) : String :=
  "\x7b\"node\":\"pve\",\"value\":\"" ++ token ++ "\",\"expire\":2000\x7d"

/-- Two requests are refused after a rotation. The first one repairs and retries with `t3`; then the
    refusal of the second arrives, and its repair has `t4` issued before the host gets to the
    retry. -/
def staleRefusal : List TrafficEvent :=
  [.apiRequest "default" 0, .apiRequest "default" 0, .sends 0, .sends 1,
    .lifecycle (.repairCluster "default"), .hostIssues 0 "t2",
    .lifecycle (.reconcileEnds 0 "p2" (.ok ()) (.ok (issuedReply "t2")) 0),
    .hostProcesses 0, .hostProcesses 1, .lifecycle (.finallyRuns 0),
    .replyArrives 0 true, .hostIssues 1 "t3",
    .lifecycle (.reconcileEnds 1 "p3" (.ok ()) (.ok (issuedReply "t3")) 0),
    .lifecycle (.finallyRuns 1), .lifecycle (.resumes 3), .retries 0 0, .sends 0,
    .replyArrives 1 true, .hostIssues 2 "t4", .hostProcesses 0, .replyArrives 0 true]

/-- The retry of the first request ends with an authentication error. -/
theorem traffic_staleRefusal :
    ¬ ∀ events s, Runs.run (Traffic.step "default") startedDefault.traffic events = some s →
      ∀ r ∈ s.requests, r.phase ≠ .authError := by
  intro h
  have hr : (Runs.run (Traffic.step "default") startedDefault.traffic staleRefusal).map
      Traffic.requests =
        some [⟨"default", true, .authError⟩, ⟨"default", false, .repairing 5⟩] := by
    decide +kernel
  obtain ⟨s, hs, hq⟩ := Option.map_eq_some_iff.mp hr
  exact h staleRefusal s hs ⟨"default", true, .authError⟩ (hq ▸ List.mem_cons_self) rfl

/-- A rotation while the first attempt of a request is on its way. -/
def rotationInFlight : List TrafficEvent :=
  [.apiRequest "default" 0, .sends 0, .lifecycle (.repairCluster "default"), .hostIssues 0 "t2",
    .hostProcesses 0, .replyArrives 0 true]

theorem traffic_noAuthError_rotation :
    ∃ s, Runs.run (Traffic.step "default") startedDefault.traffic rotationInFlight = some s ∧
      ∀ r ∈ s.requests, r.phase ≠ .authError := by
  have hfirst : ∀ (t : Traffic) (phase : RequestPhase),
      t.requests = [⟨"default", false, phase⟩] → ∀ r ∈ t.requests, ¬ t.Exposed r := by
    intro t phase ht r hr he
    rw [ht] at hr
    cases List.mem_singleton.mp hr
    cases he.1
  refine ⟨_, rfl, traffic_noAuthError "default" startedDefault rotationInFlight _ ?_ rfl⟩
  refine Runs.along_cons rfl trivial (Runs.along_cons rfl trivial (Runs.along_cons rfl trivial ?_))
  refine Runs.along_cons rfl (hfirst _ _ rfl) ?_
  exact Runs.along_cons rfl trivial (Runs.along_cons rfl trivial trivial)

end ProxmoxMcp
