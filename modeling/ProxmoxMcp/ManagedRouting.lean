/-
  File:      ProxmoxMcp/ManagedRouting.lean
  Subject:   WHOSE CREDENTIALS A REQUEST REPAIRS: the name of a request is resolved twice, by
             `getCluster` for the request and by `resolveManagedClusterName` for its credentials.

  `getCluster` falls back to the one configured cluster, `resolveManagedClusterName` to the one
  managed cluster. The configuration is the one that the lifecycle was built from: a reconcile
  replaces the `ssh_bootstrap` entries it works on.
-/
import ProxmoxMcp.AuthRetry
import ProxmoxMcp.Rules
import ProxmoxMcp.Traffic

namespace ProxmoxMcp

open Js Effects Prog

variable [Text.Unicode]

/-! ## 1. The lifecycle of a configuration -/

/-- `auth.type === "ssh_bootstrap"`. -/
def ClusterConfig.isManaged (cluster : ClusterConfig) : Bool :=
  match cluster.auth with
  | .ssh_bootstrap _ _ _ _ _ => true
  | _ => false

/-- The keys of `managedClusters`, in the order they were first set. -/
def RuntimeConfig.managedNames (config : RuntimeConfig) : List String :=
  ((config.clusters.filter (·.isManaged)).map (·.name)).eraseDups

/-- The service of `initializeRuntimeConfig`: it has a lifecycle where some cluster is managed. -/
def RuntimeConfig.service (config : RuntimeConfig) (catalog : List ApiMethodDescriptor) : Service where
  config := config
  catalog := catalog
  managed := if config.clusters.any (·.isManaged) then some config.managedNames else none

omit [Text.Unicode] in
theorem mem_managedNames {config : RuntimeConfig} {name : String} :
    name ∈ config.managedNames ↔ ∃ c ∈ config.clusters, c.isManaged = true ∧ c.name = name := by
  simp only [RuntimeConfig.managedNames, List.mem_eraseDups, List.mem_map, List.mem_filter,
    and_assoc]

omit [Text.Unicode] in
/-- **What a name resolves to**: itself, or the one name that is managed. -/
theorem resolveManagedClusterName_some {managed : List String} {name cluster : String} :
    resolveManagedClusterName managed name = some cluster ↔
      (name ∈ managed ∧ cluster = name) ∨ (name ∉ managed ∧ managed = [cluster]) := by
  unfold resolveManagedClusterName
  by_cases hname : name ∈ managed
  · simp [hname, eq_comm]
  · rw [if_neg hname]
    match managed with
    | [] => simp
    | [only] => simp [hname]
    | _ :: _ :: _ => simp [hname]

omit [Text.Unicode] in
theorem hasManagedCluster_service {config : RuntimeConfig} {catalog : List ApiMethodDescriptor}
    {name : String} : (config.service catalog).hasManagedCluster name =
      (resolveManagedClusterName config.managedNames name).isSome := by
  unfold Service.hasManagedCluster RuntimeConfig.service
  by_cases hany : config.clusters.any (·.isManaged) = true
  · simp only [hany, if_true]
  · have hnone : config.managedNames = [] := by
      refine List.eq_nil_iff_forall_not_mem.mpr fun name hname => hany ?_
      obtain ⟨c, hc, hmanaged, -⟩ := mem_managedNames.mp hname
      exact List.any_eq_true.mpr ⟨c, hc, hmanaged⟩
    simp only [hany, Bool.false_eq_true, if_false, hnone]
    rfl

/-! ## 2. What a request asks of the lifecycle -/

/-- The call of the lifecycle that an effect is. -/
def Effect.lifecycleCall (now : Nat) : Effect → Option LifecycleEvent
  | .ensureCluster cluster => some (.ensureCluster cluster now)
  | .repairCluster cluster _ => some (.repairCluster cluster)
  | _ => none

/-- The call that a step has made is served by `cluster`: it waits for a reconcile of that cluster,
    one that was in progress or the one it starts, or it is let through while the credentials of
    that cluster are fresh. -/
def Lifecycle.Serves (s s' : Lifecycle) (event : LifecycleEvent) (cluster : String) : Prop :=
  (∃ flight status, s'.calls = s.calls ++ [⟨.waiting flight, []⟩] ∧
      s'.flights[flight]? = some ⟨cluster, status⟩ ∧
      (s'.flights = s.flights ∨ s'.flights = s.flights ++ [⟨cluster, .running⟩])) ∨
    ∃ name now, event = .ensureCluster name now ∧ s' = s.addCall { status := .settled (.ok ()) } ∧
      (s.runtime.managedClusters cluster).all (·.isFresh now) = true

/-- The lifecycle of a configuration has got to this state. -/
def Lifecycle.Reaches (config : RuntimeConfig) (s : Lifecycle) : Prop :=
  ∃ runtime events, Runs.run Lifecycle.step (Lifecycle.built config.managedNames runtime) events = some s

/-- **The credentials of a request are those of its cluster.** Where `cluster` is managed, a request
    under `name` begins by asking for fresh credentials, and whatever it asks of the lifecycle is
    served by `cluster`; where it is not, a request asks nothing of the lifecycle and is sent at
    most once. -/
structure CredentialsOf (config : RuntimeConfig) (catalog : List ApiMethodDescriptor) (name : String)
    (cluster : ClusterConfig) : Prop where
  managed : cluster.isManaged = true → ∀ purpose method path args t o,
    Run ((config.service catalog).apiRequest purpose name method path args) t o →
      (∃ r t', t = ⟨.ensureCluster name, r⟩ :: t') ∧
      ∀ e ∈ t, ∀ now event, e.1.lifecycleCall now = some event →
        ∀ s, Lifecycle.Reaches config s →
          ∃ s', s.step event = some s' ∧ s.Serves s' event cluster.name
  unmanaged : cluster.isManaged = false → ∀ purpose method path args t o,
    Run ((config.service catalog).apiRequest purpose name method path args) t o →
      (∀ e ∈ t, ∀ now, e.1.lifecycleCall now = none) ∧ (sends t).length ≤ 1

/-! ## 3. What serves a call -/

section Serves

variable {s : Lifecycle} {name cluster : String}

omit [Text.Unicode] in
theorem Lifecycle.Reaches.inv {config : RuntimeConfig} (h : s.Reaches config) :
    s.Inv ∧ s.managed = config.managedNames := by
  obtain ⟨runtime, events, hrun⟩ := h
  refine ⟨Lifecycle.Inv.run hrun, ?_⟩
  have hstep : ∀ {s e t}, s.managed = config.managedNames → Lifecycle.step s e = some t →
      t.managed = config.managedNames :=
    fun hs hstep => (step_runtime hstep).1.trans hs
  exact Runs.invariant hstep rfl hrun

omit [Text.Unicode] in
/-- A repair waits for a reconcile of the cluster its name resolves to. -/
theorem serves_repairCluster (hi : s.Inv)
    (hr : resolveManagedClusterName s.managed name = some cluster) (event : LifecycleEvent) :
    s.Serves (s.repairCluster name) event cluster := by
  refine Or.inl ⟨(s.repair cluster).2, ?_⟩
  simp only [Lifecycle.repairCluster, hr]
  unfold Lifecycle.repair
  split
  · rename_i flight hp
    obtain ⟨status, hflight, -⟩ := hi.promised cluster flight hp
    exact ⟨status, rfl, hflight, Or.inl rfl⟩
  · exact ⟨.running, rfl, List.getElem?_concat_length, Or.inr rfl⟩

omit [Text.Unicode] in
theorem serves_ensureCluster (hi : s.Inv)
    (hr : resolveManagedClusterName s.managed name = some cluster) (now : Nat) :
    s.Serves (s.ensureCluster name now) (.ensureCluster name now) cluster := by
  unfold Lifecycle.ensureCluster
  rw [hr]
  dsimp only
  split
  · rename_i flight hp
    obtain ⟨status, hflight, -⟩ := hi.promised cluster flight hp
    exact Or.inl ⟨flight, status, rfl, hflight, Or.inl rfl⟩
  · split
    · rename_i hfresh
      exact Or.inr ⟨name, now, rfl, rfl, hfresh⟩
    · exact serves_repairCluster hi (resolve_self hr) _

omit [Text.Unicode] in
/-- **A call by a name is served by what the name resolves to.** -/
theorem serves_of_calls (hi : s.Inv)
    (hr : resolveManagedClusterName s.managed name = some cluster) {event : LifecycleEvent}
    (he : event.Calls name) : ∃ s', s.step event = some s' ∧ s.Serves s' event cluster := by
  cases event with
  | ensureCluster clusterName now =>
    obtain rfl : clusterName = name := he
    exact ⟨_, rfl, serves_ensureCluster hi hr now⟩
  | repairCluster clusterName =>
    obtain rfl : clusterName = name := he
    exact ⟨_, rfl, serves_repairCluster hi hr _⟩
  | _ => exact he.elim

end Serves

/-! ## 4. What a request does -/

section Requests

variable {S : Service} {purpose : Purpose} {name method path : String}
  {args : List (String × Value)} {t : History} {o : Outcome String Value}

/-- The effect calls the lifecycle by this name, or not at all. -/
def Effect.CallsBy (name : String) (e : Effect) : Prop :=
  ∀ now event, e.lifecycleCall now = some event → event.Calls name

omit [Text.Unicode] in
theorem Effect.callsBy_of_none {e : Effect} (h : ∀ now, e.lifecycleCall now = none) :
    e.CallsBy name := by
  intro now event hevent
  rw [h now] at hevent
  cases hevent

/-- An attempt calls the lifecycle not at all. -/
theorem only_request_quiet :
    Only (fun e => ∀ now, e.lifecycleCall now = none) (S.request purpose name method path args) := by
  refine only_bind only_ofExcept fun config => ?_
  refine only_bind only_ofExcept fun request => ?_
  refine only_bind (only_bind (only_perform fun _ => rfl) fun auth => ?_) fun _ => ?_
  · cases auth with
    | api_token => exact only_pure
    | secret_ref => exact only_throw
    | ssh_bootstrap => exact only_throw
    | ticket =>
      refine only_bind (only_attempt fun _ => rfl) fun b => ?_
      split
      · exact only_throw
      · exact only_pure
  · exact only_bind (only_attempt fun _ => rfl) fun reply => only_ofExcept

theorem only_request_callsBy :
    Only (Effect.CallsBy name) (S.request purpose name method path args) :=
  fun t o hrun e he => Effect.callsBy_of_none (only_request_quiet t o hrun e he)

omit [Text.Unicode] in
theorem only_ensureCluster_callsBy : Only (Effect.CallsBy name) (S.ensureCluster name) := by
  unfold Service.ensureCluster
  split
  · refine only_attempt fun now event hevent => ?_
    cases hevent
    rfl
  · exact only_pure

/-- **A request calls the lifecycle by its own name only.** -/
theorem only_apiRequest_callsBy :
    Only (Effect.CallsBy name) (S.apiRequest purpose name method path args) := by
  refine only_bind only_ensureCluster_callsBy fun _ => ?_
  refine only_tryCatch only_request_callsBy fun m => ?_
  split
  · refine only_bind (only_attempt fun now event hevent => ?_) fun _ => ?_
    · cases hevent
      rfl
    · exact only_bind only_ensureCluster_callsBy fun _ => only_request_callsBy
  · exact only_throw

/-- Where the name has a lifecycle, the request begins with it. -/
theorem run_apiRequest_managed (hm : S.hasManagedCluster name = true)
    (h : Run (S.apiRequest purpose name method path args) t o) :
    ∃ r t', t = ⟨.ensureCluster name, r⟩ :: t' := by
  obtain ⟨t₁, t₂, o₁, ht, hensure, -⟩ := run_bind.mp h
  rw [Service.ensureCluster, if_pos hm] at hensure
  obtain ⟨r, ht₁, -⟩ := run_attempt.mp hensure
  refine ⟨r, t₂, ?_⟩
  rw [ht, ht₁]
  rfl

/-- It ends there where that fails. -/
theorem run_apiRequest_refused (hm : S.hasManagedCluster name = true) (message : String) :
    Run (S.apiRequest purpose name method path args) [⟨.ensureCluster name, .error message⟩]
      (.error message) := by
  have hensure : Run (S.ensureCluster name) [⟨.ensureCluster name, .error message⟩]
      (.error message) := by
    rw [Service.ensureCluster, if_pos hm]
    exact run_attempt.mpr ⟨.error message, rfl, rfl⟩
  exact Run.stop hensure

/-- **Where it has none**, the request calls no lifecycle and is sent at most once. -/
theorem run_apiRequest_unmanaged (hm : S.hasManagedCluster name = false) {config : ClusterConfig}
    (hc : getCluster S.config name = .ok config)
    (h : Run (S.apiRequest purpose name method path args) t o) :
    (∀ e ∈ t, ∀ now, e.1.lifecycleCall now = none) ∧ (sends t).length ≤ 1 := by
  obtain ⟨request, hb⟩ := exists_buildRequest config method path args
  obtain ⟨t₁, t₂, o₁, ht, hensure, hrest⟩ := run_bind.mp h
  rw [Service.ensureCluster, if_neg (by rw [hm]; exact Bool.false_ne_true)] at hensure
  obtain ⟨ht₁, ho₁⟩ := run_pure.mp hensure
  subst ho₁
  obtain ⟨t₃, t₄, o₃, ht₂, hrequest, hcatch⟩ := run_tryCatch.mp hrest
  have ht₄ : t₄ = [] := by
    cases o₃ with
    | ok data => exact hcatch.1
    | cut => exact hcatch.1
    | error m =>
      rw [CatchRun, hm, Bool.false_and, if_neg Bool.false_ne_true] at hcatch
      exact (run_throw.mp hcatch).1
  rw [ht, ht₁, ht₂, ht₄, List.nil_append, List.append_nil]
  refine ⟨fun e he => only_request_quiet t₃ o₃ hrequest e he, ?_⟩
  rcases run_request hc hb hrequest with ⟨hnone, -⟩ | ⟨reply, hone, -⟩
  · rw [hnone]
    exact Nat.zero_le _
  · rw [hone]
    exact Nat.le_refl _

end Requests

/-! ## 5. The two resolutions -/

section Routing

variable {config : RuntimeConfig} {catalog : List ApiMethodDescriptor} {name : String}
  {cluster : ClusterConfig}

omit [Text.Unicode] in
/-- `getCluster` resolves to an entry, of that name or the only one. -/
theorem getCluster_cases (hc : getCluster config name = .ok cluster) :
    (cluster ∈ config.clusters ∧ cluster.name = name) ∨ config.clusters = [cluster] := by
  unfold getCluster at hc
  split at hc
  · rename_i c hmap
    cases hc
    exact Or.inl ⟨List.mem_reverse.mp (List.mem_of_find?_eq_some hmap), clusterMap_name hmap⟩
  · split at hc
    · rename_i c hclusters
      cases hc
      exact Or.inr hclusters
    · cases hc

omit [Text.Unicode] in
theorem managedNames_single (hclusters : config.clusters = [cluster]) :
    config.managedNames = if cluster.isManaged then [cluster.name] else [] := by
  rw [RuntimeConfig.managedNames, hclusters, List.filter_singleton]
  cases cluster.isManaged <;> rfl

omit [Text.Unicode] in
/-- **A name that `getCluster` resolves to a managed cluster** resolves to that cluster for the
    lifecycle too. -/
theorem resolve_of_managed (hc : getCluster config name = .ok cluster)
    (hmanaged : cluster.isManaged = true) :
    resolveManagedClusterName config.managedNames name = some cluster.name := by
  refine resolveManagedClusterName_some.mpr ?_
  rcases getCluster_cases hc with ⟨hmem, hname⟩ | hclusters
  · exact Or.inl ⟨mem_managedNames.mpr ⟨cluster, hmem, hmanaged, hname⟩, hname⟩
  · have hnames := managedNames_single hclusters
    rw [if_pos hmanaged] at hnames
    by_cases hname : name = cluster.name
    · rw [hname, hnames]
      exact Or.inl ⟨List.mem_singleton_self _, rfl⟩
    · rw [hnames]
      exact Or.inr ⟨fun h => hname (List.mem_singleton.mp h), rfl⟩

omit [Text.Unicode] in
/-- **A name that `getCluster` resolves to a cluster that is not managed** resolves to none for the
    lifecycle exactly if no managed entry has the name of the cluster and the managed names are
    not one. -/
theorem resolve_of_unmanaged (hc : getCluster config name = .ok cluster)
    (hunmanaged : cluster.isManaged = false) :
    resolveManagedClusterName config.managedNames name = none ↔
      config.managedNames.length ≠ 1 ∧ cluster.name ∉ config.managedNames := by
  rcases getCluster_cases hc with ⟨-, hname⟩ | hclusters
  · rw [Option.eq_none_iff_forall_ne_some, hname]
    simp only [Ne, resolveManagedClusterName_some, not_or, not_and, List.length_eq_one_iff]
    constructor
    · intro h
      have hnot : name ∉ config.managedNames := fun hmem => (h name).1 hmem rfl
      exact ⟨fun ⟨only, honly⟩ => (h only).2 hnot honly, hnot⟩
    · intro hparts other
      obtain ⟨hone, hnot⟩ := hparts
      exact ⟨fun hmem => absurd hmem hnot, fun _ honly => hone ⟨other, honly⟩⟩
  · have hnames := managedNames_single hclusters
    rw [hunmanaged, if_neg Bool.false_ne_true] at hnames
    rw [hnames]
    exact ⟨fun _ => ⟨by decide, List.not_mem_nil⟩, fun _ => rfl⟩

/-- **When the credentials of a request are those of its cluster**: where that cluster is managed,
    or where the managed names are not one and its own is none of them. -/
theorem managedRouting_iff (config : RuntimeConfig) (catalog : List ApiMethodDescriptor)
    (name : String) (cluster : ClusterConfig) (hc : getCluster config name = .ok cluster) :
    CredentialsOf config catalog name cluster ↔ cluster.isManaged = true ∨
      (config.managedNames.length ≠ 1 ∧ cluster.name ∉ config.managedNames) := by
  cases hmanaged : cluster.isManaged with
  | true =>
    refine ⟨fun _ => Or.inl rfl, fun _ => ⟨fun _ purpose method path args t o hrun => ?_,
      fun h => by rw [hmanaged] at h; cases h⟩⟩
    have hresolve := resolve_of_managed hc hmanaged
    have hhas : (config.service catalog).hasManagedCluster name = true := by
      rw [hasManagedCluster_service, hresolve]
      rfl
    refine ⟨run_apiRequest_managed hhas hrun, fun e he now event hevent s hs => ?_⟩
    obtain ⟨hi, hnames⟩ := hs.inv
    rw [← hnames] at hresolve
    exact serves_of_calls hi hresolve (only_apiRequest_callsBy t o hrun e he now event hevent)
  | false =>
    have hresolve := resolve_of_unmanaged hc hmanaged
    constructor
    · intro h
      refine Or.inr (hresolve.mp ?_)
      -- otherwise a request asks for fresh credentials, and may end there
      rcases hname : resolveManagedClusterName config.managedNames name with _ | other
      · rfl
      · have hhas : (config.service catalog).hasManagedCluster name = true := by
          rw [hasManagedCluster_service, hname]
          rfl
        have hrun := h.unmanaged hmanaged examplePurpose "GET" "/version" [] _ _
          (run_apiRequest_refused hhas "failed")
        have hnone := hrun.1 _ List.mem_cons_self 0
        cases hnone
    · intro h
      rcases h with h | h
      · cases h
      · have hhas : (config.service catalog).hasManagedCluster name = false := by
          rw [hasManagedCluster_service, hresolve.mpr h]
          rfl
        refine ⟨fun h => ?_, fun _ purpose method path args t o hrun => ?_⟩
        · rw [hmanaged] at h
          cases h
        · exact run_apiRequest_unmanaged hhas hc hrun

end Routing

/-- A managed cluster `a`, and a cluster `b` with a token of its own. -/
def mixedConfig : RuntimeConfig where
  clusters := [{ exampleCluster with name := "a", auth := .ssh_bootstrap "root" "s" "root" "pam" "mcp" },
    { exampleCluster with name := "b" }]
  policies := []

omit [Text.Unicode] in
/-- Requests under the name of the managed cluster repair its own credentials. -/
theorem managedRouting_iff_managed :
    letI := Text.asciiCase
    CredentialsOf mixedConfig [] "a"
      { exampleCluster with name := "a", auth := .ssh_bootstrap "root" "s" "root" "pam" "mcp" } := by
  let := Text.asciiCase
  exact (managedRouting_iff mixedConfig [] "a" _ rfl).mpr (Or.inl rfl)

omit [Text.Unicode] in
/-- A request to `b` repairs the credentials of `a`. -/
theorem managedRouting_otherCluster :
    letI := Text.asciiCase
    ¬∀ (config : RuntimeConfig) (catalog : List ApiMethodDescriptor) (name : String)
      (cluster : ClusterConfig), getCluster config name = .ok cluster →
        CredentialsOf config catalog name cluster := by
  let := Text.asciiCase
  intro h
  have hb := h mixedConfig [] "b" { exampleCluster with name := "b" } rfl
  have hhas : (mixedConfig.service []).hasManagedCluster "b" = true := by decide
  have hrun := hb.unmanaged rfl examplePurpose "GET" "/version" [] _ _
    (run_apiRequest_refused hhas "failed")
  have hnone := hrun.1 _ List.mem_cons_self 0
  cases hnone

end ProxmoxMcp
