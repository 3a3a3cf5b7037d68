/-
  File:      ProxmoxMcp/Reconcile.lean
  Subject:   THE RECONCILE OF A MANAGED CLUSTER (`managed-auth.ts`): the reply of the bootstrap
             script becomes the runtime credentials.

  The reply is parsed and cast, never checked, so whatever its fields hold goes into the state, the
  cluster and the node list: these hold values of any kind here. A statement that throws leaves
  what the statements before it wrote. `initialize` has named every entry of `managedClusters`
  after its cluster, so the name is the key alone; `clusterMap` holds the objects of the cluster
  list, so that a rebuilt map holds the same ones. When the reconcile runs, and its timer, are the
  subject of `Lifecycle`.
-/
import ProxmoxMcp.Config
import ProxmoxMcp.Lib.Json

namespace ProxmoxMcp

open Js

/-! ## 1. The state it writes -/

/-- `ManagedBootstrapSpec`. -/
structure ManagedBootstrapSpec where
  host : String
  sshPort : Nat := 22
  username : String
  password : String
  hostKeyPolicy : HostKeyPolicy := .strict
  expectedHostKey : Option String := none
  deriving DecidableEq, Repr

/-- `ManagedAuthRuntimeState`; a time is in milliseconds. -/
structure ManagedAuthRuntimeState where
  bootstrap : ManagedBootstrapSpec
  nodeName : Value := .undefined
  currentPassword : Option String := none
  currentToken : Value := .undefined
  passwordExpiresAt : Option Nat := none
  tokenExpiresAt : Option Number := none
  deriving DecidableEq

/-- `cluster.auth` of a running server: as configured, or the API token a reconcile wrote, whose
    secret is whatever the reply held. -/
inductive RuntimeAuth where
  | configured (auth : ClusterAuthConfig)
  | reconciled (user realm tokenId : String) (secret : Value)
  deriving DecidableEq

/-- An entry of `cluster.nodes` of a running server. -/
structure RuntimeNode where
  name : Value
  host : String
  port : Nat
  sshProfile : String
  deriving DecidableEq

/-- What a reconcile reads and writes of a cluster. -/
structure RuntimeCluster where
  auth : RuntimeAuth
  nodes : List RuntimeNode := []
  defaultNode : Value := .undefined
  deriving DecidableEq

/-- The state of the lifecycle and of the configuration it writes. -/
structure LifecycleState where
  managedClusters : String → Option ManagedAuthRuntimeState
  clusterMap : String → Option RuntimeCluster
  sshProfiles : SshProfiles
  sshProfileMap : String → Option SshProfileConfig

/-- A write to the fields of a managed cluster's state. -/
def LifecycleState.setManaged (s : LifecycleState) (clusterName : String)
    (f : ManagedAuthRuntimeState → ManagedAuthRuntimeState) : LifecycleState :=
  { s with managedClusters :=
      Function.update s.managedClusters clusterName ((s.managedClusters clusterName).map f) }

/-- A write to the fields of a cluster. -/
def LifecycleState.setCluster (s : LifecycleState) (clusterName : String)
    (f : RuntimeCluster → RuntimeCluster) : LifecycleState :=
  { s with clusterMap := Function.update s.clusterMap clusterName ((s.clusterMap clusterName).map f) }

/-- `refreshRuntimeIndexes`. -/
def LifecycleState.refreshRuntimeIndexes (s : LifecycleState) : LifecycleState :=
  { s with sshProfileMap := s.sshProfiles.index }

/-! ## 2. The reconcile -/

/-- `DEFAULT_ROTATION_INTERVAL_MS`. -/
def DEFAULT_ROTATION_INTERVAL_MS : Nat := 15 * 60 * 1000

/-- `buildBootstrapProfile`. -/
def buildBootstrapProfile (clusterName : String) (bootstrap : ManagedBootstrapSpec) :
    SshProfileConfig where
  name := "__bootstrap_" ++ clusterName
  username := bootstrap.username
  password := some bootstrap.password
  port := bootstrap.sshPort
  hostKeyPolicy := bootstrap.hostKeyPolicy
  expectedHostKey := bootstrap.expectedHostKey

/-- `buildManagedProfile`. -/
def buildManagedProfile (clusterName password : String) (bootstrap : ManagedBootstrapSpec) :
    SshProfileConfig where
  name := "__managed_" ++ clusterName
  username := "mcp"
  password := some password
  port := bootstrap.sshPort
  hostKeyPolicy := bootstrap.hostKeyPolicy
  expectedHostKey := bootstrap.expectedHostKey

/-- `entry.name === nodeName`, where the name comes out of a new reply: an object in it is no other
    object. -/
def sameName (name nodeName : Value) : Bool := !nodeName.isObject && name == nodeName

/-- The node entry takes the place of the first one of its name, or goes to the end. -/
def upsertNode (entry : RuntimeNode) : List RuntimeNode → List RuntimeNode
  | [] => [entry]
  | n :: ns => if sameName n.name entry.name then entry :: ns else n :: upsertNode entry ns

/-- The entry of the bootstrap host. -/
def nodeEntry (clusterName : String) (bootstrap : ManagedBootstrapSpec) (nodeName : Value) :
    RuntimeNode where
  name := nodeName
  host := bootstrap.host
  port := bootstrap.sshPort
  sshProfile := (buildBootstrapProfile clusterName bootstrap).name

/-- `upsertRuntimeProfiles`. -/
def upsertRuntimeProfiles (clusterName : String) (bootstrap : ManagedBootstrapSpec)
    (password : String) (nodeName : Value) (s : LifecycleState) :
    Except String Unit × LifecycleState :=
  match s.clusterMap clusterName with
  | none => (.error s!"Unknown cluster '{clusterName}'", s)
  | some _ =>
    let profiles := s.sshProfiles.upsert (buildManagedProfile clusterName password bootstrap)
    let s := { s with sshProfiles := profiles.upsert (buildBootstrapProfile clusterName bootstrap) }
    let s := s.setCluster clusterName fun cluster =>
      { cluster with nodes := upsertNode (nodeEntry clusterName bootstrap nodeName) cluster.nodes }
    let s := s.setCluster clusterName fun cluster =>
      if cluster.defaultNode.truthy then cluster else { cluster with defaultNode := nodeName }
    (.ok (), s)

/-- What `reconcileCluster` does with the parsed reply. -/
def applyReply (clusterName password : String) (now : Nat) (parsed : Value)
    (bootstrap : ManagedBootstrapSpec) (s : LifecycleState) : Except String Unit × LifecycleState :=
  match parsed with
  | .null => (.error "Cannot read properties of null (reading 'node')", s)
  | parsed =>
    let s := s.setManaged clusterName fun state =>
      { state with
        nodeName := parsed.get "node"
        currentPassword := some password
        currentToken := parsed.get "value"
        passwordExpiresAt := some (now + DEFAULT_ROTATION_INTERVAL_MS) }
    match toNumber (parsed.get "expire") with
    | .error message => (.error message, s)
    | .ok expire =>
      let s := s.setManaged clusterName fun state =>
        { state with tokenExpiresAt := some (expire.times 1000) }
      let s := s.setCluster clusterName fun cluster =>
        { cluster with auth := .reconciled "mcp" "pam" "mcp" (parsed.get "value") }
      match upsertRuntimeProfiles clusterName bootstrap password (parsed.get "node") s with
      | (.error message, s) => (.error message, s)
      | (.ok (), s) => (.ok (), s.refreshRuntimeIndexes)

/-- `reconcileCluster`, given the generated password, how the audit record and the script end, and
    the time. -/
def reconcileCluster (clusterName password : String) (audit : Except String Unit)
    (script : Except String String) (now : Nat) (s : LifecycleState) :
    Except String Unit × LifecycleState :=
  match s.managedClusters clusterName, s.clusterMap clusterName with
  | some state, some _ =>
    match audit with
    | .error message => (.error message, s)
    | .ok () =>
      match script with
      | .error message => (.error message, s)
      | .ok stdout =>
        match Js.parse stdout with
        | none => (.error "the reply is no JSON text", s)
        | some parsed => applyReply clusterName password now parsed state.bootstrap s
  | _, _ => (.error s!"Unknown managed cluster '{clusterName}'", s)

/-! ## 3. What a reply should hold -/

/-- A reply with a name, a token and a time of expiry. The sibling of this path, the enrollment,
    asks as much of its reply (`commandResultSchema`). -/
structure BootstrapReply where
  node : String
  value : String
  expire : Nat
  node_ne : node ≠ ""
  value_ne : value ≠ ""
  expire_pos : 0 < expire

/-- The reply in a parsed text, where it is one. -/
def BootstrapReply.ofValue (parsed : Value) : Option BootstrapReply :=
  match parsed.get "node", parsed.get "value", parsed.get "expire" with
  | .str node, .str value, .num (.rat q) =>
      if h : node ≠ "" ∧ value ≠ "" ∧ q.den = 1 ∧ 0 < q.num then
        some ⟨node, value, q.num.toNat, h.1, h.2.1, Int.pos_iff_toNat_pos.mp h.2.2.2⟩
      else none
  | _, _, _ => none

/-- The reply in the text of the script. -/
def bootstrapReply (stdout : String) : Option BootstrapReply :=
  (Js.parse stdout).bind BootstrapReply.ofValue

theorem BootstrapReply.ofValue_some {parsed : Value} {reply : BootstrapReply}
    (h : ofValue parsed = some reply) :
    parsed.get "node" = .str reply.node ∧ parsed.get "value" = .str reply.value ∧
      parsed.get "expire" = .nat reply.expire := by
  rw [ofValue] at h
  split at h
  · rename_i node value q hn hv he
    split at h
    · rename_i hq
      cases h
      refine ⟨hn, hv, ?_⟩
      have hnum : ((q.num.toNat : Nat) : Int) = q.num := Int.toNat_of_nonneg (by omega)
      have hq' : q = ((q.num.toNat : Nat) : Rat) :=
        Rat.ext (by rw [Rat.num_natCast, hnum]) (by rw [Rat.den_natCast, hq.2.2.1])
      rw [he, Value.nat, ← hq']
    · cases h
  · cases h

/-- **The state reflects the reply**: the fields of the cluster's state, its authentication, the two
    profiles, the node entry, and the map of the profiles. -/
structure Reflects (clusterName password : String) (bootstrap : ManagedBootstrapSpec)
    (reply : BootstrapReply) (s : LifecycleState) : Prop where
  token : (s.managedClusters clusterName).map ManagedAuthRuntimeState.currentToken =
    some (.str reply.value)
  expiry : (s.managedClusters clusterName).map ManagedAuthRuntimeState.tokenExpiresAt =
    some (some (.rat (reply.expire * 1000)))
  auth : (s.clusterMap clusterName).map RuntimeCluster.auth =
    some (.reconciled "mcp" "pam" "mcp" (.str reply.value))
  node : (s.clusterMap clusterName).bind (fun cluster =>
      cluster.nodes.find? fun n => n.name = .str reply.node) =
    some (nodeEntry clusterName bootstrap (.str reply.node))
  managedProfile : s.sshProfiles.find ("__managed_" ++ clusterName) =
    some (buildManagedProfile clusterName password bootstrap)
  bootstrapProfile : s.sshProfiles.find ("__bootstrap_" ++ clusterName) =
    some (buildBootstrapProfile clusterName bootstrap)
  maps : ∀ name, s.sshProfileMap name = s.sshProfiles.find name

theorem find_upsertNode (entry : RuntimeNode) (h : entry.name.isObject = false) :
    ∀ ns : List RuntimeNode, (upsertNode entry ns).find? (fun n => n.name = entry.name) = some entry
  | [] => by simp [upsertNode]
  | n :: ns => by
      rw [upsertNode]
      by_cases hn : n.name = entry.name
      · simp [sameName, h, hn]
      · have hs : sameName n.name entry.name = false := by simp [sameName, hn]
        rw [hs, if_neg (by simp), List.find?_cons_of_neg (by simpa using hn)]
        exact find_upsertNode entry h ns

theorem managedName_ne_bootstrapName (clusterName : String) :
    "__managed_" ++ clusterName ≠ "__bootstrap_" ++ clusterName := by
  intro h
  have := congrArg String.toList h
  simp at this

section Reply

variable {clusterName password : String} {now : Nat} {parsed : Value} {s : LifecycleState}
  {state : ManagedAuthRuntimeState} {cluster : RuntimeCluster}

/-- Where the expiry is no number, the reconcile throws after it wrote the token. -/
theorem applyReply_throws (hne : parsed ≠ .null) {message : String}
    (he : toNumber (parsed.get "expire") = .error message) :
    applyReply clusterName password now parsed state.bootstrap s =
      (.error message, s.setManaged clusterName fun state =>
        { state with
          nodeName := parsed.get "node"
          currentPassword := some password
          currentToken := parsed.get "value"
          passwordExpiresAt := some (now + DEFAULT_ROTATION_INTERVAL_MS) }) := by
  cases parsed <;> first | exact absurd rfl hne | simp only [applyReply, he]

/-- The state after a reply whose expiry is a number. -/
def reconciled (clusterName password : String) (now : Nat) (parsed : Value) (expire : Number)
    (bootstrap : ManagedBootstrapSpec) (s : LifecycleState) : LifecycleState :=
  let s := s.setManaged clusterName fun state =>
    { state with
      nodeName := parsed.get "node"
      currentPassword := some password
      currentToken := parsed.get "value"
      passwordExpiresAt := some (now + DEFAULT_ROTATION_INTERVAL_MS)
      tokenExpiresAt := some (expire.times 1000) }
  let s := s.setCluster clusterName fun cluster =>
    { auth := .reconciled "mcp" "pam" "mcp" (parsed.get "value")
      nodes := upsertNode (nodeEntry clusterName bootstrap (parsed.get "node")) cluster.nodes
      defaultNode := if cluster.defaultNode.truthy then cluster.defaultNode else parsed.get "node" }
  let profiles := s.sshProfiles.upsert (buildManagedProfile clusterName password bootstrap)
  { s with sshProfiles := profiles.upsert (buildBootstrapProfile clusterName bootstrap) }
    |>.refreshRuntimeIndexes

/-- Where the expiry is a number, whatever the rest of the reply, the reconcile succeeds. -/
theorem applyReply_succeeds (hm : s.managedClusters clusterName = some state)
    (hc : s.clusterMap clusterName = some cluster)
    (hne : parsed ≠ .null) {expire : Number} (he : toNumber (parsed.get "expire") = .ok expire) :
    applyReply clusterName password now parsed state.bootstrap s =
      (.ok (), reconciled clusterName password now parsed expire state.bootstrap s) := by
  have h : ∀ p, p = parsed → applyReply clusterName password now p state.bootstrap s =
      (.ok (), reconciled clusterName password now parsed expire state.bootstrap s) := by
    intro p hp
    unfold applyReply
    split
    · exact absurd hp.symm hne
    · subst hp
      rw [he]
      simp only [upsertRuntimeProfiles, LifecycleState.setManaged, LifecycleState.setCluster,
        LifecycleState.refreshRuntimeIndexes, reconciled, Function.update_self,
        Function.update_idem, hm, hc, Option.map_some]
      split <;> rfl
  exact h parsed rfl

/-- **A good reply arrives in full.** -/
theorem reconciled_reflects (hm : s.managedClusters clusterName = some state)
    (hc : s.clusterMap clusterName = some cluster) {reply : BootstrapReply}
    (hn : parsed.get "node" = .str reply.node) (hv : parsed.get "value" = .str reply.value) :
    Reflects clusterName password state.bootstrap reply
      (reconciled clusterName password now parsed (.rat reply.expire) state.bootstrap s) where
  token := by
    simp [reconciled, LifecycleState.setManaged, LifecycleState.setCluster,
      LifecycleState.refreshRuntimeIndexes, hm, hv]
  expiry := by
    simp [reconciled, LifecycleState.setManaged, LifecycleState.setCluster,
      LifecycleState.refreshRuntimeIndexes, hm, Number.times]
  auth := by
    simp [reconciled, LifecycleState.setManaged, LifecycleState.setCluster,
      LifecycleState.refreshRuntimeIndexes, hc, hv]
  node := by
    have hfind := find_upsertNode (nodeEntry clusterName state.bootstrap (.str reply.node))
      rfl cluster.nodes
    simp only [reconciled, LifecycleState.setManaged, LifecycleState.setCluster,
      LifecycleState.refreshRuntimeIndexes, Function.update_self, hc, hn, Option.map_some,
      Option.bind_some]
    exact hfind
  managedProfile := by
    have hne := managedName_ne_bootstrapName clusterName
    simp [reconciled, LifecycleState.setManaged, LifecycleState.setCluster,
      LifecycleState.refreshRuntimeIndexes, buildManagedProfile, buildBootstrapProfile, hne.symm]
  bootstrapProfile := by
    simp [reconciled, LifecycleState.setManaged, LifecycleState.setCluster,
      LifecycleState.refreshRuntimeIndexes, buildBootstrapProfile]
  maps name := by simp [reconciled, LifecycleState.refreshRuntimeIndexes]

end Reply

theorem bootstrapReply_eq_some {stdout : String} {reply : BootstrapReply} {parsed : Value}
    (hp : Js.parse stdout = some parsed) :
    bootstrapReply stdout = some reply ↔ BootstrapReply.ofValue parsed = some reply := by
  rw [bootstrapReply, hp, Option.bind_some]

/-- **What a reconcile can do to the state**: nothing, a write to its managed cluster's fields, or
    all of a reply. -/
theorem reconcileCluster_cases (clusterName password : String) (audit : Except String Unit)
    (script : Except String String) (now : Nat) (s : LifecycleState) :
    (reconcileCluster clusterName password audit script now s).2 = s ∨
    (∃ f, (reconcileCluster clusterName password audit script now s).2 =
      s.setManaged clusterName f) ∨
    ∃ parsed expire bootstrap, (reconcileCluster clusterName password audit script now s).2 =
      reconciled clusterName password now parsed expire bootstrap s := by
  unfold reconcileCluster
  split
  · rename_i state cluster hm hc
    split
    · exact Or.inl rfl
    · split
      · exact Or.inl rfl
      · split
        · exact Or.inl rfl
        · rename_i parsed _
          by_cases hnull : parsed = .null
          · subst hnull
            exact Or.inl rfl
          · rcases he : toNumber (parsed.get "expire") with message | expire
            · rw [applyReply_throws hnull he]
              exact Or.inr (Or.inl ⟨_, rfl⟩)
            · rw [applyReply_succeeds hm hc hnull he]
              exact Or.inr (Or.inr ⟨_, _, _, rfl⟩)
  · exact Or.inl rfl

/-- Another cluster is left alone. -/
theorem reconcileCluster_other {clusterName name : String} (h : name ≠ clusterName)
    (password : String) (audit : Except String Unit) (script : Except String String) (now : Nat)
    (s : LifecycleState) :
    (reconcileCluster clusterName password audit script now s).2.clusterMap name =
        s.clusterMap name ∧
      (reconcileCluster clusterName password audit script now s).2.managedClusters name =
        s.managedClusters name := by
  rcases reconcileCluster_cases clusterName password audit script now s with
    e | ⟨f, e⟩ | ⟨parsed, expire, bootstrap, e⟩
  · rw [e]
    exact ⟨rfl, rfl⟩
  · rw [e]
    exact ⟨rfl, Function.update_of_ne h ..⟩
  · rw [e]
    exact ⟨Function.update_of_ne h .., Function.update_of_ne h ..⟩

/-- **A good reply is applied**: the reconcile succeeds, and the state reflects the reply. -/
theorem reconcileCluster_reflects (password : String) (now : Nat) {clusterName stdout : String}
    {s : LifecycleState} {state : ManagedAuthRuntimeState} {cluster : RuntimeCluster}
    {reply : BootstrapReply} (hm : s.managedClusters clusterName = some state)
    (hc : s.clusterMap clusterName = some cluster) (hr : bootstrapReply stdout = some reply) :
    (reconcileCluster clusterName password (.ok ()) (.ok stdout) now s).1 = .ok () ∧
      Reflects clusterName password state.bootstrap reply
        (reconcileCluster clusterName password (.ok ()) (.ok stdout) now s).2 := by
  rcases hp : Js.parse stdout with _ | parsed
  · rw [bootstrapReply, hp] at hr
    cases hr
  · obtain ⟨hn, hv, hexp⟩ := BootstrapReply.ofValue_some ((bootstrapReply_eq_some hp).mp hr)
    have hnull : parsed ≠ .null := by
      intro e
      rw [e] at hn
      cases hn
    have he : toNumber (parsed.get "expire") = .ok (.rat reply.expire) := by
      rw [hexp]
      rfl
    simp only [reconcileCluster, hm, hc, hp, applyReply_succeeds hm hc hnull he, true_and]
    exact reconciled_reflects hm hc hn hv

/-- A managed cluster before its first reconcile. -/
def bootstrapState : LifecycleState where
  managedClusters := Function.update (fun _ => none) "default"
    (some { bootstrap := { host := "pve", username := "root", password := "p" } })
  clusterMap := Function.update (fun _ => none) "default"
    (some { auth := .configured (.ssh_bootstrap "root" "p" "root" "pam" "proxmox-mcp") })
  sshProfiles := {}
  sshProfileMap := fun _ => none

end ProxmoxMcp
