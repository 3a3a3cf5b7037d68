/-
  File:      ProxmoxMcp/Reload.lean
  Subject:   HYDRATION AND RELOAD OF THE STEADY-STATE SECRETS (`startup.ts`): what `reloadSecrets`
             writes into the running configuration.

  `hydrateSteadyStateSecrets` goes by `cluster.auth.type`, and writes it. A cluster is an object of
  the list that `clusterMap` holds too; no two clusters have one name, so that the iteration of one
  leaves the others alone. A store is read as it stands: updates come between reloads.
-/
import ProxmoxMcp.Secrets
import ProxmoxMcp.Lib.Runs

namespace ProxmoxMcp

/-! ## 1. The configuration it writes -/

/-- `config.clusters`, by name. -/
structure Clusters where
  list : List ClusterConfig
  distinct : Named.Distinct ClusterConfig.name list

/-- `config.clusterMap.get(name)`. -/
def Clusters.find (clusters : Clusters) (name : String) : Option ClusterConfig :=
  Named.find ClusterConfig.name name clusters.list

/-- `cluster.auth = auth`. -/
def Clusters.setAuth (clusters : Clusters) (name : String) (auth : ClusterAuthConfig) :
    Clusters where
  list := Named.modify ClusterConfig.name name (fun c => { c with auth := auth }) clusters.list
  distinct := by
    refine Named.distinct_modify ?_ clusters.distinct
    exact fun _ => rfl

/-- `cluster.nodes = f(cluster.nodes)`. -/
def Clusters.setNodes (clusters : Clusters) (name : String)
    (f : List ClusterNodeConfig → List ClusterNodeConfig) : Clusters where
  list := Named.modify ClusterConfig.name name (fun c => { c with nodes := f c.nodes }) clusters.list
  distinct := by
    refine Named.distinct_modify ?_ clusters.distinct
    exact fun _ => rfl

@[simp] theorem Clusters.find_setAuth (clusters : Clusters) (name name' : String)
    (auth : ClusterAuthConfig) : (clusters.setAuth name' auth).find name =
      if name' = name then (clusters.find name).map fun c => { c with auth := auth }
      else clusters.find name := by
  refine Named.find_modify ?_
  exact fun _ => rfl

@[simp] theorem Clusters.find_setNodes (clusters : Clusters) (name name' : String)
    (f : List ClusterNodeConfig → List ClusterNodeConfig) :
    (clusters.setNodes name' f).find name =
      if name' = name then (clusters.find name).map fun c => { c with nodes := f c.nodes }
      else clusters.find name := by
  refine Named.find_modify ?_
  exact fun _ => rfl

/-- What hydration reads and writes of the configuration. -/
structure HydratedConfig where
  clusters : Clusters
  sshProfiles : SshProfiles := {}
  sshProfileMap : String → Option SshProfileConfig := fun _ => none
  secretStoreType : String := "env"

/-- `refreshRuntimeIndexes`. -/
def HydratedConfig.refreshRuntimeIndexes (config : HydratedConfig) : HydratedConfig :=
  { config with sshProfileMap := config.sshProfiles.index }

/-! ## 2. Hydration -/

/-- `runtimeShellProfileForCluster`. -/
def runtimeShellProfileForCluster (clusterName : String) : String :=
  "__runtime_shell_" ++ clusterName

/-- The profile of a shell identity. -/
def runtimeShellProfile (cluster : ClusterConfig) (shell : ShellSshSecretRecord) :
    SshProfileConfig where
  name := runtimeShellProfileForCluster cluster.name
  username := shell.username
  port := shell.port.getD cluster.sshPort
  privateKey := shell.privateKey
  privateKeyPath := shell.privateKeyPath
  publicKey := shell.publicKey
  publicKeyPath := shell.publicKeyPath
  passphrase := shell.passphrase
  hostKeyPolicy := shell.hostKeyPolicy.getD .strict
  expectedHostKey := some shell.expectedHostKey
  shell := shell.shell.getD "/bin/sh"
  prefixCommand := shell.prefixCommand.getD []

/-- The nodes of a cluster once it has a shell profile: the default node is among them, and those
    with a runtime profile have this one. -/
def nodesWithShell (cluster : ClusterConfig) (nodes : List ClusterNodeConfig) :
    List ClusterNodeConfig :=
  let profileName := runtimeShellProfileForCluster cluster.name
  let withDefault : List ClusterNodeConfig := match cluster.defaultNode with
    | some node =>
      if node ≠ "" ∧ ¬ nodes.any (fun entry => entry.name == node) then
        nodes ++ [⟨node, cluster.host, cluster.sshPort, profileName⟩]
      else nodes
    | none => nodes
  withDefault.map fun entry =>
    if entry.sshProfile = profileName ∨
        "__runtime_shell_".toList.isPrefixOf entry.sshProfile.toList then
      { entry with sshProfile := profileName }
    else entry

/-- `applyRuntimeShellSecret`. -/
def applyRuntimeShellSecret (config : HydratedConfig) (clusterName : String)
    (bundle : Option RuntimeSecretBundle) : Except String HydratedConfig :=
  match config.clusters.find clusterName with
  | none => .error s!"Unknown cluster '{clusterName}'"
  | some cluster =>
    match bundle.bind RuntimeSecretBundle.shellSsh with
    | some shell =>
      if shellSecretConfigured bundle then
        .ok (HydratedConfig.refreshRuntimeIndexes { config with
          sshProfiles := config.sshProfiles.upsert (runtimeShellProfile cluster shell)
          clusters := config.clusters.setNodes clusterName (nodesWithShell cluster) })
      else .ok (HydratedConfig.refreshRuntimeIndexes { config with
        sshProfiles := config.sshProfiles.remove (runtimeShellProfileForCluster clusterName) })
    | none => .ok (HydratedConfig.refreshRuntimeIndexes { config with
        sshProfiles := config.sshProfiles.remove (runtimeShellProfileForCluster clusterName) })

/-- `applyRuntimeApiSecret`. -/
def applyRuntimeApiSecret (config : HydratedConfig) (clusterName : String)
    (bundle : Option RuntimeSecretBundle) : Except String HydratedConfig :=
  match config.clusters.find clusterName with
  | none => .error s!"Unknown cluster '{clusterName}'"
  | some _ =>
    match bundle.bind RuntimeSecretBundle.apiToken with
    | some token =>
      if apiTokenConfigured bundle then
        let auth := .api_token token.user token.realm token.tokenId token.secret
        .ok { config with clusters := config.clusters.setAuth clusterName auth }
      else
        let backend := config.secretStoreType
        .error s!"Missing steady-state API token secret for cluster '{clusterName}' in {backend} backend"
    | none =>
      let backend := config.secretStoreType
      .error s!"Missing steady-state API token secret for cluster '{clusterName}' in {backend} backend"

/-- A secret store as it stands: what it holds, and whether reading it fails. -/
structure SecretBackend where
  bundles : String → Option RuntimeSecretBundle
  failure : Option String := none

/-- `secretStore.getClusterSecrets`. -/
def SecretBackend.getClusterSecrets (store : SecretBackend) (cluster : String) :
    Except String (Option RuntimeSecretBundle) :=
  match store.failure with
  | some message => .error message
  | none => .ok (store.bundles cluster)

/-- The name under which the store holds the secrets of a cluster that refers to it. -/
def secretCluster? (cluster : ClusterConfig) : Option String :=
  match cluster.auth with
  | .secret_ref secretCluster => some (secretCluster.getD cluster.name)
  | _ => none

/-- The clusters of `hydrateSteadyStateSecrets`, one after the other. What was written before an
    error stays. -/
def hydrateClusters (store : SecretBackend) :
    List ClusterConfig → HydratedConfig → Except String Unit × HydratedConfig
  | [], config => (.ok (), config.refreshRuntimeIndexes)
  | cluster :: rest, config =>
    match secretCluster? cluster with
    | none => hydrateClusters store rest config
    | some secretCluster =>
      match store.getClusterSecrets secretCluster with
      | .error message => (.error message, config)
      | .ok bundle =>
        match applyRuntimeApiSecret config cluster.name bundle with
        | .error message => (.error message, config)
        | .ok withToken =>
          match applyRuntimeShellSecret withToken cluster.name bundle with
          | .error message => (.error message, withToken)
          | .ok hydrated => hydrateClusters store rest hydrated

/-- `hydrateSteadyStateSecrets`, which is `reloadSecrets`. -/
def hydrateSteadyStateSecrets (config : HydratedConfig) (store : SecretBackend) :
    Except String Unit × HydratedConfig :=
  hydrateClusters store config.clusters.list config

/-! ## 3. What the store holds for a cluster -/

/-- The authentication that the store's API token is. -/
def storeAuth (bundle : Option RuntimeSecretBundle) : Option ClusterAuthConfig :=
  (bundle.bind RuntimeSecretBundle.apiToken).map fun token =>
    .api_token token.user token.realm token.tokenId token.secret

/-- The profile that the store's shell identity is, where it has one. -/
def storeShell (cluster : ClusterConfig) (bundle : Option RuntimeSecretBundle) :
    Option SshProfileConfig :=
  if shellSecretConfigured bundle then
    (bundle.bind RuntimeSecretBundle.shellSsh).map (runtimeShellProfile cluster)
  else none

/-- The running configuration has the token and the shell identity that the store holds for the
    cluster under the name. -/
def Current (store : SecretBackend) (config : HydratedConfig) (cluster : ClusterConfig)
    (secretCluster : String) : Prop :=
  (config.clusters.find cluster.name).map ClusterConfig.auth =
      storeAuth (store.bundles secretCluster) ∧
    config.sshProfileMap (runtimeShellProfileForCluster cluster.name) =
      storeShell cluster (store.bundles secretCluster)

/-- Two stores hold the same token and the same shell identity for the cluster. -/
def SameIdentity (cluster : ClusterConfig) (secretCluster : String) (store store' : SecretBackend) :
    Prop :=
  storeAuth (store'.bundles secretCluster) = storeAuth (store.bundles secretCluster) ∧
    storeShell cluster (store'.bundles secretCluster) =
      storeShell cluster (store.bundles secretCluster)

/-! ## 4. One hydration -/

theorem runtimeShellProfileForCluster_inj {name name' : String} :
    runtimeShellProfileForCluster name = runtimeShellProfileForCluster name' ↔ name = name' := by
  unfold runtimeShellProfileForCluster
  exact String.append_right_inj _

section Hydrate

variable {config out : HydratedConfig} {cluster : ClusterConfig}
  {bundle : Option RuntimeSecretBundle}

/-- **The API token of the bundle** goes to the cluster, and nothing else is written. -/
theorem applyRuntimeApiSecret_ok (hc : config.clusters.find cluster.name = some cluster)
    (h : applyRuntimeApiSecret config cluster.name bundle = .ok out) :
    ∃ auth, storeAuth bundle = some auth ∧
      out = { config with clusters := config.clusters.setAuth cluster.name auth } := by
  simp only [applyRuntimeApiSecret, hc] at h
  split at h
  · rename_i token ht
    split at h
    · cases h
      exact ⟨_, by rw [storeAuth, ht, Option.map_some], rfl⟩
    · cases h
  · cases h

/-- **The shell identity of the bundle** becomes the profile of the cluster, and no other cluster's
    authentication or profile is written. -/
theorem applyRuntimeShellSecret_ok {known : ClusterConfig}
    (hc : config.clusters.find cluster.name = some known) (hname : known.name = cluster.name)
    (hport : known.sshPort = cluster.sshPort)
    (h : applyRuntimeShellSecret config cluster.name bundle = .ok out) :
    out.sshProfiles.find (runtimeShellProfileForCluster cluster.name) = storeShell cluster bundle ∧
      (out.clusters.find cluster.name).map ClusterConfig.auth = some known.auth ∧
      ∀ name, name ≠ cluster.name → out.clusters.find name = config.clusters.find name ∧
        out.sshProfiles.find (runtimeShellProfileForCluster name) =
          config.sshProfiles.find (runtimeShellProfileForCluster name) := by
  have hother : ∀ name, name ≠ cluster.name →
      runtimeShellProfileForCluster cluster.name ≠ runtimeShellProfileForCluster name :=
    fun name hne e => hne (runtimeShellProfileForCluster_inj.mp e).symm
  have hremove : shellSecretConfigured bundle = false →
      out = HydratedConfig.refreshRuntimeIndexes { config with
        sshProfiles := config.sshProfiles.remove (runtimeShellProfileForCluster cluster.name) } →
      out.sshProfiles.find (runtimeShellProfileForCluster cluster.name) =
          storeShell cluster bundle ∧
        (out.clusters.find cluster.name).map ClusterConfig.auth = some known.auth ∧
        ∀ name, name ≠ cluster.name → out.clusters.find name = config.clusters.find name ∧
          out.sshProfiles.find (runtimeShellProfileForCluster name) =
            config.sshProfiles.find (runtimeShellProfileForCluster name) := by
    intro hs e
    subst e
    refine ⟨?_, ?_, fun name hne => ⟨rfl, ?_⟩⟩
    · simp [HydratedConfig.refreshRuntimeIndexes, storeShell, hs]
    · simp [HydratedConfig.refreshRuntimeIndexes, hc]
    · simp [HydratedConfig.refreshRuntimeIndexes, hother name hne]
  simp only [applyRuntimeShellSecret, hc] at h
  split at h
  · rename_i shell hshell
    split at h
    · rename_i hs
      cases h
      have hprofile : runtimeShellProfile known shell = runtimeShellProfile cluster shell := by
        simp only [runtimeShellProfile, hname, hport]
      refine ⟨?_, ?_, fun name hne => ⟨?_, ?_⟩⟩
      · simp only [HydratedConfig.refreshRuntimeIndexes, hprofile, SshProfiles.find_upsert,
          storeShell, hs, if_true, hshell, Option.map_some]
        exact if_pos rfl
      · simp [HydratedConfig.refreshRuntimeIndexes, hc]
      · simp [HydratedConfig.refreshRuntimeIndexes, hne.symm]
      · simp only [HydratedConfig.refreshRuntimeIndexes, hprofile, SshProfiles.find_upsert]
        exact if_neg (hother name hne)
    · rename_i hs
      cases h
      exact hremove (by simpa using hs) rfl
  · rename_i hshell
    cases h
    refine hremove ?_ rfl
    rw [shellSecretConfigured, hshell]
    rfl

/-- **One iteration** brings the bundle's identity to its cluster and leaves the others alone. -/
theorem hydrateCluster_ok {withToken : HydratedConfig}
    (hc : config.clusters.find cluster.name = some cluster)
    (ht : applyRuntimeApiSecret config cluster.name bundle = .ok withToken)
    (hs : applyRuntimeShellSecret withToken cluster.name bundle = .ok out) :
    (out.clusters.find cluster.name).map ClusterConfig.auth = storeAuth bundle ∧
      (storeAuth bundle).isSome ∧
      out.sshProfiles.find (runtimeShellProfileForCluster cluster.name) =
        storeShell cluster bundle ∧
      ∀ name, name ≠ cluster.name → out.clusters.find name = config.clusters.find name ∧
        out.sshProfiles.find (runtimeShellProfileForCluster name) =
          config.sshProfiles.find (runtimeShellProfileForCluster name) := by
  obtain ⟨auth, ha, rfl⟩ := applyRuntimeApiSecret_ok hc ht
  have hknown : (config.clusters.setAuth cluster.name auth).find cluster.name =
      some { cluster with auth := auth } := by
    rw [Clusters.find_setAuth, if_pos rfl, hc, Option.map_some]
  obtain ⟨hshell, hauth, hother⟩ :=
    @applyRuntimeShellSecret_ok _ _ cluster _ { cluster with auth := auth } hknown rfl rfl hs
  refine ⟨hauth.trans ha.symm, by simp [ha], hshell, fun name hne => ?_⟩
  obtain ⟨h1, h2⟩ := hother name hne
  refine ⟨?_, h2⟩
  rw [h1, Clusters.find_setAuth, if_neg hne.symm]

end Hydrate

/-- **What a successful hydration leaves**: every cluster of the list that referred to the store has
    what the store holds, the others are as they were, and the map is that of the profiles. -/
theorem hydrateClusters_ok {store : SecretBackend} {out : HydratedConfig} :
    ∀ {l : List ClusterConfig} {config : HydratedConfig}, Named.Distinct ClusterConfig.name l →
    (∀ c ∈ l, config.clusters.find c.name = some c) →
    hydrateClusters store l config = (.ok (), out) →
    (∀ c ∈ l, ∀ secretCluster, secretCluster? c = some secretCluster →
      Current store out c secretCluster ∧ (storeAuth (store.bundles secretCluster)).isSome) ∧
    (∀ c ∈ l, secretCluster? c = none → out.clusters.find c.name = some c) ∧
    (∀ name, name ∉ l.map ClusterConfig.name → out.clusters.find name = config.clusters.find name ∧
      out.sshProfiles.find (runtimeShellProfileForCluster name) =
        config.sshProfiles.find (runtimeShellProfileForCluster name)) ∧
    out.sshProfileMap = out.sshProfiles.index
  | [], config, _, _, h => by
      cases h
      exact ⟨fun _ h => (by cases h), fun _ h => (by cases h), fun _ _ => ⟨rfl, rfl⟩, rfl⟩
  | cluster :: rest, config, hd, hfind, h => by
      have hnot : cluster.name ∉ rest.map ClusterConfig.name := (List.nodup_cons.mp hd).1
      have hrest : Named.Distinct ClusterConfig.name rest := (List.nodup_cons.mp hd).2
      have hc := hfind cluster List.mem_cons_self
      rw [hydrateClusters] at h
      split at h
      · rename_i hnone
        obtain ⟨h1, h2, h3, h4⟩ := hydrateClusters_ok hrest
          (fun c hm => hfind c (List.mem_cons_of_mem _ hm)) h
        refine ⟨fun c hm sc hsc => ?_, fun c hm hsc => ?_, fun name hn => ?_, h4⟩
        · rcases List.mem_cons.mp hm with rfl | hm
          · rw [hnone] at hsc
            cases hsc
          · exact h1 c hm sc hsc
        · rcases List.mem_cons.mp hm with rfl | hm
          · exact (h3 c.name hnot).1.trans hc
          · exact h2 c hm hsc
        · exact h3 name fun hm => hn (List.mem_cons_of_mem _ hm)
      · rename_i secretCluster hsc
        split at h
        · cases h
        · rename_i bundle hb
          have hb : bundle = store.bundles secretCluster := by
            rw [SecretBackend.getClusterSecrets] at hb
            split at hb
            · cases hb
            · exact (Except.ok.inj hb).symm
          split at h
          · cases h
          · rename_i withToken ht
            split at h
            · cases h
            · rename_i hydrated hs
              obtain ⟨hauth, hsome, hshell, hother⟩ := hydrateCluster_ok hc ht hs
              have hfind' : ∀ c ∈ rest, hydrated.clusters.find c.name = some c := by
                intro c hm
                have hne : c.name ≠ cluster.name :=
                  fun e => hnot (e ▸ List.mem_map_of_mem hm)
                rw [(hother c.name hne).1]
                exact hfind c (List.mem_cons_of_mem _ hm)
              obtain ⟨h1, h2, h3, h4⟩ := hydrateClusters_ok hrest hfind' h
              refine ⟨fun c hm sc hsc' => ?_, fun c hm hsc' => ?_, fun name hn => ?_, h4⟩
              · rcases List.mem_cons.mp hm with rfl | hm
                · rw [hsc] at hsc'
                  cases hsc'
                  refine ⟨⟨?_, ?_⟩, hb ▸ hsome⟩
                  · rw [(h3 c.name hnot).1, hauth, hb]
                  · rw [h4, SshProfiles.index_eq, (h3 c.name hnot).2, hshell, hb]
                · exact h1 c hm sc hsc'
              · rcases List.mem_cons.mp hm with rfl | hm
                · rw [hsc] at hsc'
                  cases hsc'
                · exact h2 c hm hsc'
              · have hne : name ≠ cluster.name := fun e => hn (e ▸ List.mem_cons_self)
                have hn' : name ∉ rest.map ClusterConfig.name :=
                  fun hm => hn (List.mem_cons_of_mem _ hm)
                obtain ⟨e1, e2⟩ := h3 name hn'
                obtain ⟨e3, e4⟩ := hother name hne
                exact ⟨e1.trans e3, e2.trans e4⟩

/-- Where no cluster refers to the store, hydration does not read it. -/
theorem hydrateClusters_noRefs {store : SecretBackend} {config : HydratedConfig} :
    ∀ {l : List ClusterConfig}, (∀ c ∈ l, secretCluster? c = none) →
    hydrateClusters store l config = (.ok (), config.refreshRuntimeIndexes)
  | [], _ => rfl
  | cluster :: rest, h => by
      simp only [hydrateClusters, h cluster List.mem_cons_self]
      exact hydrateClusters_noRefs fun c hm => h c (List.mem_cons_of_mem _ hm)

/-! ## 5. Runs of updates and reloads -/

/-- An update of the store, or `SIGHUP`. -/
inductive ReloadEvent where
  | update (store : SecretBackend)
  | reloadSecrets

/-- The configuration of a running server, and the store. -/
structure ReloadState where
  config : HydratedConfig
  store : SecretBackend

/-- One step. -/
def ReloadState.step (s : ReloadState) : ReloadEvent → Option ReloadState
  | .update store => some { s with store := store }
  | .reloadSecrets => some { s with config := (hydrateSteadyStateSecrets s.config s.store).2 }

/-- A server that has started: `initializeRuntimeConfig` hydrated the loaded configuration. -/
structure ServerStart where
  loaded : HydratedConfig
  store : SecretBackend
  started : (hydrateSteadyStateSecrets loaded store).1 = .ok ()

/-- The state the start leaves. -/
def ServerStart.state (start : ServerStart) : ReloadState where
  config := (hydrateSteadyStateSecrets start.loaded start.store).2
  store := start.store

/-- After the start, and after every successful reload of the run, every cluster that was configured
    as `secret_ref` has the token and the shell identity that the store holds at that moment. -/
def ReloadsCurrent (start : ServerStart) (events : List ReloadEvent) : Prop :=
  ∀ cluster ∈ start.loaded.clusters.list, ∀ secretCluster,
    secretCluster? cluster = some secretCluster →
    Current start.store start.state.config cluster secretCluster ∧
    ∀ before after s, events = before ++ .reloadSecrets :: after →
      Runs.run ReloadState.step start.state before = some s →
      (hydrateSteadyStateSecrets s.config s.store).1 = .ok () →
      Current s.store (hydrateSteadyStateSecrets s.config s.store).2 cluster secretCluster

/-- The store after the events. -/
def storeAfter (store : SecretBackend) : List ReloadEvent → SecretBackend
  | [] => store
  | .update store' :: events => storeAfter store' events
  | .reloadSecrets :: events => storeAfter store events

/-- What the start leaves. -/
theorem ServerStart.hydrated (start : ServerStart) :
    (∀ c ∈ start.loaded.clusters.list, ∀ secretCluster, secretCluster? c = some secretCluster →
      Current start.store start.state.config c secretCluster ∧
        (storeAuth (start.store.bundles secretCluster)).isSome) ∧
    (∀ c ∈ start.loaded.clusters.list, secretCluster? c = none →
      start.state.config.clusters.find c.name = some c) ∧
    (∀ name, name ∉ start.loaded.clusters.list.map ClusterConfig.name →
      start.state.config.clusters.find name = start.loaded.clusters.find name) ∧
    start.state.config.sshProfileMap = start.state.config.sshProfiles.index := by
  have h : hydrateClusters start.store start.loaded.clusters.list start.loaded =
      (.ok (), start.state.config) := Prod.ext start.started rfl
  obtain ⟨h1, h2, h3, h4⟩ := hydrateClusters_ok start.loaded.clusters.distinct
    (fun c hc => Named.find_of_mem start.loaded.clusters.distinct hc) h
  exact ⟨h1, h2, fun name hn => (h3 name hn).1, h4⟩

theorem storeAuth_ne_ref {bundle : Option RuntimeSecretBundle} {cluster : ClusterConfig}
    (h : storeAuth bundle = some cluster.auth) : secretCluster? cluster = none := by
  rw [storeAuth, Option.map_eq_some_iff] at h
  obtain ⟨token, _, e⟩ := h
  rw [secretCluster?, ← e]

/-- **No cluster refers to the store once the server has started**: hydration has written the field
    that it goes by. -/
theorem ServerStart.noRefs (start : ServerStart) :
    ∀ c ∈ start.state.config.clusters.list, secretCluster? c = none := by
  obtain ⟨h1, h2, h3, _⟩ := start.hydrated
  intro c hc
  have hfind : start.state.config.clusters.find c.name = some c :=
    Named.find_of_mem start.state.config.clusters.distinct hc
  by_cases hm : c.name ∈ start.loaded.clusters.list.map ClusterConfig.name
  · obtain ⟨c', hc', hname⟩ := List.mem_map.mp hm
    rcases hsc : secretCluster? c' with _ | secretCluster
    · have := h2 c' hc' hsc
      rw [hname, hfind] at this
      exact Option.some.inj this ▸ hsc
    · have hauth := (h1 c' hc' secretCluster hsc).1.1
      rw [hname, hfind, Option.map_some] at hauth
      exact storeAuth_ne_ref hauth.symm
  · have := h3 c.name hm
    rw [hfind] at this
    have hmem := Named.find_some (this.symm : start.loaded.clusters.find c.name = some c)
    exact absurd (List.mem_map_of_mem hmem.1) hm

/-- **A reload after the start succeeds and changes nothing.** -/
theorem ServerStart.reload (start : ServerStart) (store : SecretBackend) :
    hydrateSteadyStateSecrets start.state.config store = (.ok (), start.state.config) := by
  have hmap := start.hydrated.2.2.2
  rw [hydrateSteadyStateSecrets, hydrateClusters_noRefs start.noRefs,
    HydratedConfig.refreshRuntimeIndexes, ← hmap]

/-- **Along every run** the configuration stays what the start left, whatever the store becomes. -/
theorem ServerStart.run (start : ServerStart) {events : List ReloadEvent} {store : SecretBackend}
    {s : ReloadState}
    (h : Runs.run ReloadState.step ⟨start.state.config, store⟩ events = some s) :
    s = ⟨start.state.config, storeAfter store events⟩ := by
  induction events generalizing store with
  | nil =>
      cases h
      rfl
  | cons event events ih =>
      obtain ⟨t, hu, h⟩ := Runs.run_cons.mp h
      cases event with
      | update store' =>
          cases hu
          exact ih h
      | reloadSecrets =>
          rw [ReloadState.step, start.reload store] at hu
          cases hu
          exact ih h

/-- Every event can happen at any time. -/
theorem exists_run (s : ReloadState) : ∀ events : List ReloadEvent,
    ∃ t, Runs.run ReloadState.step s events = some t := by
  intro events
  induction events generalizing s with
  | nil => exact ⟨s, rfl⟩
  | cons event events ih =>
      cases event with
      | update store => exact ih _
      | reloadSecrets => exact ih _

/-- **When the reloads of a run keep the configuration current**: exactly where, at each of them,
    the store holds for every cluster that was configured as `secret_ref` the token and the shell
    identity that it held when the server started. -/
theorem reloadsCurrent_iff (start : ServerStart) (events : List ReloadEvent) :
    ReloadsCurrent start events ↔
      ∀ cluster ∈ start.loaded.clusters.list, ∀ secretCluster,
        secretCluster? cluster = some secretCluster →
        ∀ before after, events = before ++ .reloadSecrets :: after →
          SameIdentity cluster secretCluster start.store (storeAfter start.store before) := by
  constructor
  · intro h cluster hm secretCluster hsc before after he
    obtain ⟨hstart, hafter⟩ := h cluster hm secretCluster hsc
    obtain ⟨s, hs⟩ := exists_run start.state before
    have hrun := start.run hs
    have hreload := start.reload (storeAfter start.store before)
    have hcur := hafter before after s he hs (by rw [hrun, hreload])
    rw [hrun, hreload] at hcur
    exact ⟨hcur.1.symm.trans hstart.1, hcur.2.symm.trans hstart.2⟩
  · intro h cluster hm secretCluster hsc
    have hstart := (start.hydrated.1 cluster hm secretCluster hsc).1
    refine ⟨hstart, fun before after s he hs _ => ?_⟩
    have hrun := start.run hs
    obtain ⟨h1, h2⟩ := h cluster hm secretCluster hsc before after he
    rw [hrun, start.reload]
    exact ⟨hstart.1.trans h1.symm, hstart.2.trans h2.symm⟩

/-- A store with a token of the secret. -/
def storeWithToken (secret : String) : SecretBackend where
  bundles := fun _ => some { cluster := "default", apiToken := some ⟨"u", "pam", "t", secret, none, none⟩ }

theorem isAuthority_pve : Url.IsAuthority "pve:8006".toList := by decide

/-- A server whose store held the secret `old` at the start. -/
def startedOld : ServerStart where
  loaded :=
    { clusters :=
        { list := [{ name := "default", authority := ⟨"pve:8006", isAuthority_pve⟩,
                     auth := .secret_ref (some "default") }]
          distinct := List.nodup_singleton _ }
      sshProfiles := ⟨[], List.nodup_nil⟩ }
  store := storeWithToken "old"
  started := by decide

/-- The store is updated and the server told to reload: the cluster keeps the old token. -/
theorem reloadsCurrent_rotated :
    ¬ ReloadsCurrent startedOld [.update (storeWithToken "new"), .reloadSecrets] := by
  intro h
  have hcur := (h _ List.mem_cons_self "default" rfl).2 [.update (storeWithToken "new")] [] _ rfl rfl
    (by decide)
  exact absurd hcur.1 (by decide)

end ProxmoxMcp
