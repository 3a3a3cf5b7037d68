/-
  File:      ProxmoxMcp/Transports.lean
  Subject:   WHERE AN OPERATION GOES (`services.ts`): the cluster resources and their cache, the
             location of a VM or container, the SSH target of a node, and one command over SSH.
-/
import ProxmoxMcp.Requests

namespace ProxmoxMcp

open Js Effects

variable [Text.Unicode]

/-! ## 1. Cluster resources -/

/-- A number that is a natural. -/
def natOf : Value → Option Nat
  | .num (.rat q) => if q.den = 1 ∧ 0 ≤ q.num then some q.num.toNat else none
  | _ => none

/-- The string in a value, if it is one. -/
def stringOf : Value → Option String
  | .str s => some s
  | _ => none

/-- An entry of `/cluster/resources`. -/
def resourceOf (entry : Value) : ClusterResource where
  id := (stringOf (entry.get "id")).getD ""
  type := (stringOf (entry.get "type")).getD ""
  node := stringOf (entry.get "node")
  vmid := natOf (entry.get "vmid")
  name := stringOf (entry.get "name")
  status := stringOf (entry.get "status")
  template := natOf (entry.get "template")

/-- The entries of a reply; one that is no array has no `find` and no `filter`. -/
def listResources : Value → Except String (List ClusterResource)
  | .arr entries => .ok (entries.map resourceOf)
  | _ => .error "resources.find is not a function"

/-- The resources in the cache, if they are fresh. -/
def Service.cachedResources (S : Service) (cluster : String) : M (Option Value) := do
  let cached : Option CachedResourceState ← Prog.perform (Effect.cacheGet cluster)
  match cached with
  | none => return none
  | some state =>
    let now : Nat ← Prog.perform Effect.now
    return if now < state.fetchedAt + S.config.inventoryCacheTtlMs then some state.resources
      else none

/-- The resources from the cluster, which go into the cache. -/
def Service.fetchResources (S : Service) (purpose : Purpose) (cluster : String) : M Value := do
  let resources ← S.apiRequest purpose cluster "GET" "/cluster/resources"
  let now : Nat ← Prog.perform Effect.now
  Prog.perform (Effect.cacheSet cluster ⟨now, resources⟩)
  return resources

/-- `getClusterResources`. -/
def Service.getClusterResources (S : Service) (purpose : Purpose) (cluster : String)
    (forceRefresh : Bool := false) : M Value :=
  if forceRefresh then S.fetchResources purpose cluster
  else do
    match ← S.cachedResources cluster with
    | some resources => return resources
    | none => S.fetchResources purpose cluster

/-- The kinds of `getVmLocation`. -/
inductive GuestType where
  | qemu
  | lxc
  deriving DecidableEq, Repr

def GuestType.text : GuestType → String
  | .qemu => "qemu"
  | .lxc => "lxc"

/-- The kind of target a guest is. -/
def GuestType.kind : GuestType → TargetKind
  | .qemu => .qemu_vm
  | .lxc => .lxc_container

/-- The node of a guest in the cluster resources; an empty name is none. -/
def locate (resources : List ClusterResource) (kind : GuestType) (vmid : Nat) : Option String :=
  match resources.find? fun entry => entry.type = kind.text ∧ entry.vmid = some vmid with
  | some resource =>
    match resource.node with
    | some node => if node = "" then none else some node
    | none => none
  | none => none

/-- `getVmLocation`, of which its callers read the node. -/
def Service.getVmLocation (S : Service) (purpose : Purpose) (cluster : String) (kind : GuestType)
    (vmid : Nat) : M String := do
  let resources ← S.getClusterResources purpose cluster true
  match locate (← Prog.ofExcept (listResources resources)) kind vmid with
  | some node => return node
  | none => throw s!"Unable to locate {kind.text} {vmid} in cluster {cluster}"

/-! ## 2. Node targets -/

/-- `ResolvedNodeTarget`. -/
structure ResolvedNodeTarget where
  cluster : String
  node : String
  host : String
  port : Nat
  sshProfile : String
  deriving DecidableEq, Repr

/-- `getNodeTarget`. -/
def getNodeTarget (config : RuntimeConfig) (cluster node : String) :
    Except String ResolvedNodeTarget := do
  let clusterConfig ← getCluster config cluster
  match clusterConfig.nodes.find? fun entry => entry.name = node with
  | some entry => return ⟨cluster, node, entry.host, entry.port, entry.sshProfile⟩
  | none => throw s!"No shell-capable node mapping is configured for {cluster}/{node}. Enroll a shell identity or configure steady-state shell SSH secrets for this cluster."

/-- `getNodeSshTarget`. -/
def getNodeSshTarget (config : RuntimeConfig) (target : ResolvedNodeTarget) :
    Except String Transport :=
  match config.sshProfileMap target.sshProfile with
  | some profile => .ok (.ssh target.host (some target.port) profile.name)
  | none => .error s!"Shell access is not configured for {target.cluster}/{target.node}. Missing SSH profile '{target.sshProfile}'. Configure or enroll the steady-state shell identity first."

/-- `resolveDefaultNode`. -/
def resolveDefaultNode (config : RuntimeConfig) (clusterName : String)
    (requestedNode : Option String) : Except String String :=
  match requestedNode.filter (· ≠ "") with
  | some node => .ok node
  | none => do
    let cluster ← getCluster config clusterName
    match cluster.defaultNode.filter (· ≠ "") with
    | some node => return node
    | none =>
      match cluster.nodes with
      | [only] => return only.name
      | _ => throw s!"Cluster {clusterName} requires an explicit node because no defaultNode is configured and multiple nodes are present"

/-- `resolveDefaultSnippetStorage`. -/
def resolveDefaultSnippetStorage (config : RuntimeConfig) (clusterName : String)
    (requestedStorage : Option String) : Except String String :=
  match requestedStorage with
  | some storage => .ok storage
  | none => return (← getCluster config clusterName).defaultSnippetStorage

/-! ## 3. Commands over SSH -/

/-- One attempt of `runSshCommand`. -/
def Service.sshExec (S : Service) (purpose : Purpose) (site : TargetRef)
    (resolved : ResolvedNodeTarget) (command : String) : M CommandResult := do
  let transport ← Prog.ofExcept (getNodeSshTarget S.config resolved)
  attempt (.exec ⟨purpose, resolved.cluster, site, transport, command⟩) rfl

/-- `runSshCommand`. -/
def Service.runSshCommand (S : Service) (purpose : Purpose) (site : TargetRef)
    (resolved : ResolvedNodeTarget) (command : String) : M CommandResult := do
  S.ensureCluster resolved.cluster
  tryCatch (S.sshExec purpose site resolved command) fun m => do
    if S.hasManagedCluster resolved.cluster && isSshAuthError m then
      attempt (.repairCluster resolved.cluster "ssh_auth_failure") rfl
      S.ensureCluster resolved.cluster
      S.sshExec purpose site resolved command
    else throw m

/-- The node itself, as the site of a command. -/
def nodeSite (cluster node : String) : TargetRef :=
  { cluster := cluster, kind := .node, node := some node }

/-- A guest on its node, as the site of a command. -/
def guestSite (cluster : String) (kind : GuestType) (node : String) (vmid : Nat) : TargetRef :=
  { cluster := cluster, kind := kind.kind, node := some node, vmid := some vmid }

/-- `result.stderr || message`, thrown where the exit code is not 0. -/
def checkExit (result : CommandResult) (message : String) : Except String Unit :=
  if result.exitCode ≠ 0 then .error (if result.stderr = "" then message else result.stderr)
  else .ok ()

end ProxmoxMcp
