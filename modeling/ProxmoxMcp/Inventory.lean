/-
  File:      ProxmoxMcp/Inventory.lean
  Subject:   THE INVENTORY (`inventoryOverview`): what it says a node, a VM or a container can do,
             and the transports that the shell and file operations select for it.

  The guest configurations are read one after the other here, where the source reads them at once;
  nothing depends on their order.
-/
import ProxmoxMcp.Endpoint
import ProxmoxMcp.Rules

namespace ProxmoxMcp

open Js Effects Prog

variable [Text.Unicode]

/-! ## 1. Summaries -/

/-- `CAPABILITY_NAMES`. -/
inductive CapabilityName where
  | inventory
  | lifecycle
  | config
  | task_wait
  | console
  | guest_exec
  | guest_file_io
  | host_shell
  | guest_shell
  | docker_shell
  deriving DecidableEq, Repr

/-- The values of `preferredTransport`. -/
inductive PreferredTransport where
  | ssh
  | api_only
  | proxmox_guest_agent
  | winrm
  | pct_over_ssh
  deriving DecidableEq, Repr

/-- `BaseSummary`. -/
structure BaseSummary where
  target : TargetRef
  displayName : String
  status : Option String
  capabilities : List CapabilityName
  preferredTransport : PreferredTransport
  reachable : Option Bool
  deriving DecidableEq, Repr

/-- `NodeSummary`. -/
structure NodeSummary extends BaseSummary where
  node : String
  deriving DecidableEq, Repr

/-- `VmSummary`. -/
structure VmSummary extends BaseSummary where
  vmid : Nat
  node : String
  guestKind : GuestKind
  guestAgentAvailable : Bool
  deriving DecidableEq, Repr

/-- `LxcSummary`. -/
structure LxcSummary extends BaseSummary where
  vmid : Nat
  node : String
  deriving DecidableEq, Repr

/-- `ClusterSummary`. -/
structure ClusterSummary where
  cluster : String
  version : Value
  status : Value
  nodes : List NodeSummary
  qemuVms : List VmSummary
  lxcContainers : List LxcSummary
  storages : List Value

/-- The options of `inventoryOverview`. -/
structure InventoryOptions where
  probeRemote : Bool := false
  forceRefresh : Bool := false

/-! ## 2. `inventoryOverview` -/

/-- `nodeConfigured`. -/
def nodeConfigured (config : RuntimeConfig) (cluster : String) (node : Option String) :
    Except String Bool := do
  let clusterConfig ← getCluster config cluster
  return clusterConfig.nodes.any fun entry => some entry.name = node

/-- The summary of a node. -/
def nodeSummary (config : RuntimeConfig) (cluster : String) (options : InventoryOptions)
    (entry : ClusterResource) : Except String NodeSummary := do
  let node := entry.node.getD entry.id
  let configured ← nodeConfigured config cluster entry.node
  return {
    target := nodeSite cluster node
    displayName := node
    status := entry.status
    capabilities := [.inventory, .config, .task_wait, .console] ++
      (if configured then [.host_shell] else [])
    preferredTransport := if configured then .ssh else .api_only
    reachable := if options.probeRemote then some configured else none
    node := node }

/-- The summary of a container `vmid` on `node`. -/
def lxcSummary (config : RuntimeConfig) (cluster : String) (entry : ClusterResource)
    (node : String) (vmid : Nat) : Except String LxcSummary := do
  let configured ← nodeConfigured config cluster (some node)
  return {
    target := guestSite cluster .lxc node vmid
    displayName := entry.name.getD ("ct-" ++ toString vmid)
    status := entry.status
    capabilities := [.inventory, .lifecycle, .config, .task_wait, .console] ++
      (if configured then [.guest_shell, .guest_file_io] else [])
    preferredTransport := if configured then .pct_over_ssh else .api_only
    reachable := none
    vmid := vmid
    node := node }

/-- The capabilities of a VM, before Docker is probed. -/
def vmCapabilities (config : RuntimeConfig) (cluster : String) (vmid : Nat)
    (details : GuestKind × Bool) : List CapabilityName :=
  [.inventory, .lifecycle, .config, .task_wait, .console] ++
    (if details.2 then [.guest_exec, .guest_file_io, .guest_shell]
    else if details.1 = .linux_guest ∧ (getLinuxGuestConfig config cluster vmid).isSome then
      [.guest_shell]
    else if details.1 = .windows_guest ∧ (getWindowsGuestConfig config cluster vmid).isSome then
      [.guest_shell]
    else [])

/-- What inventory requests are for: they are asked of the cluster. -/
def inventoryPurpose (cluster : String) : Purpose :=
  ⟨.direct, { cluster := cluster, kind := .cluster }, none⟩

/-- `probeDocker`. -/
def Service.probeDocker (S : Service) (target : TargetRef) (rounds : Nat) : M Bool :=
  tryCatch (do
    let windows := target.kind == .windows_guest
    let result ← S.proxmoxShellRun target
      { command := if windows then "Get-Command docker -ErrorAction SilentlyContinue"
          else "command -v docker"
        interpreter := if windows then .powershell else .sh } (fun _ => Pure.pure ()) rounds
    return result.exitCode == 0) fun _ => return false

/-- The summary of a VM `vmid` on `node`. -/
def Service.vmSummary (S : Service) (cluster : String) (options : InventoryOptions) (rounds : Nat)
    (entry : ClusterResource) (node : String) (vmid : Nat) : M VmSummary := do
  let details ← S.detectVmGuest (inventoryPurpose cluster) cluster node vmid
  let capabilities := vmCapabilities S.config cluster vmid details
  let docker ← (if options.probeRemote && capabilities.contains .guest_shell then
      S.probeDocker
        { cluster := cluster
          kind := if details.1 = .windows_guest then .windows_guest else .linux_guest
          node := some node
          vmid := some vmid } rounds
    else return false)
  return {
    target := guestSite cluster .qemu node vmid
    displayName := entry.name.getD ("vm-" ++ toString vmid)
    status := entry.status
    capabilities := capabilities ++ (if docker then [.docker_shell] else [])
    preferredTransport := if details.2 then .proxmox_guest_agent
      else if details.1 = .windows_guest then .winrm else .ssh
    reachable := none
    vmid := vmid
    node := node
    guestKind := details.1
    guestAgentAvailable := details.2 }

/-- A guest of the list: its entry, node and id. -/
structure Listed where
  entry : ClusterResource
  node : String
  vmid : Nat
  deriving DecidableEq, Repr

/-- The guests of a kind: `entry.type === kind && entry.vmid !== undefined && entry.node`. -/
def guestsOf (kind : GuestType) (resources : List ClusterResource) : List Listed :=
  resources.filterMap fun entry =>
    if entry.type = kind.text then do
      let vmid ← entry.vmid
      let node ← nonEmpty entry.node
      return ⟨entry, node, vmid⟩
    else none

/-- `resources.filter` on a reply; one that is no array has none. -/
def filterResources (data : Value) : Except String (List ClusterResource) :=
  (listResources data).mapError fun _ => "resources.filter is not a function"

/-- The entries of a type, as they came. -/
def entriesOf (type : String) : Value → List Value
  | .arr entries => entries.filter fun entry => (resourceOf entry).type = type
  | _ => []

/-- `inventoryOverview`; a probe of a guest is followed for so many rounds of polling. -/
def Service.inventoryOverview (S : Service) (cluster : String) (options : InventoryOptions)
    (rounds : Nat) : M ClusterSummary := do
  let data ← S.getClusterResources (inventoryPurpose cluster) cluster options.forceRefresh
  let version ← S.apiRequest (inventoryPurpose cluster) cluster "GET" "/version"
  let status ← S.apiRequest (inventoryPurpose cluster) cluster "GET" "/cluster/status"
  let resources ← Prog.ofExcept (filterResources data)
  let nodes ← Prog.ofExcept
    ((resources.filter fun entry => entry.type = "node").mapM (nodeSummary S.config cluster options))
  let vms ← forEach (fun vm => S.vmSummary cluster options rounds vm.entry vm.node vm.vmid)
    (guestsOf .qemu resources)
  let containers ← Prog.ofExcept
    ((guestsOf .lxc resources).mapM fun ct => lxcSummary S.config cluster ct.entry ct.node ct.vmid)
  return ⟨cluster, version, status, nodes, vms, containers, entriesOf "storage" data⟩

/-! ## 3. A world of fixed answers -/

/-- Proxmox answers each request with its text, and nothing fails. -/
def asking (proxmox : RestRequest → String) : (e : Effect) → e.Reply
  | .send sent => .ok ⟨200, proxmox sent.request⟩
  | e => quietAnswer e

/-- What a request to the cluster returns there. -/
def answerTo (proxmox : RestRequest → String) (config : ClusterConfig) (method path : String)
    (args : List (String × Value) := []) : Value :=
  match buildRequest config method path args with
  | .ok request => unwrapData (HttpReply.payload ⟨200, proxmox request⟩)
  | .error _ => .undefined

section World

variable {S : Service} {proxmox : RestRequest → String} {cluster : String} {config : ClusterConfig}
  {purpose : Purpose} {method path : String} {args : List (String × Value)}

omit [Text.Unicode] in
theorem endsIn_attempt {α : Type} {e : Effect} {he : e.Reply = Except String α}
    {w : (e : Effect) → e.Reply} : (attempt e he : M α).endsIn w = .ofExcept (he ▸ w e) := by
  rw [attempt, endsIn_bind, endsIn_perform]
  exact endsIn_ofExcept _

omit [Text.Unicode] in
theorem endsIn_ensureCluster : (S.ensureCluster cluster).endsIn (asking proxmox) = .ok () := by
  unfold Service.ensureCluster
  split
  · exact endsIn_attempt.trans rfl
  · rfl

theorem endsIn_request (hconfig : getCluster S.config cluster = .ok config) :
    (S.request purpose cluster method path args).endsIn (asking proxmox) =
      .ok (answerTo proxmox config method path args) := by
  obtain ⟨request, hb⟩ := exists_buildRequest config method path args
  have hheaders : (buildHeaders cluster config).endsIn (asking proxmox) = .ok () := rfl
  simp only [Service.request, hconfig, hb, ofExcept_ok_bind, answerTo]
  rw [endsIn_bind, hheaders]
  simp only [endsBind]
  rw [endsIn_bind, endsIn_attempt]
  exact endsIn_ofExcept _

/-- **A request returns the answer of Proxmox.** -/
theorem endsIn_apiRequest (hconfig : getCluster S.config cluster = .ok config) :
    (S.apiRequest purpose cluster method path args).endsIn (asking proxmox) =
      .ok (answerTo proxmox config method path args) := by
  rw [Service.apiRequest, endsIn_bind, endsIn_ensureCluster]
  simp only [endsBind]
  rw [endsIn_tryCatch, endsIn_request hconfig]
  rfl

/-- **The resources are those of Proxmox**: there is nothing in the cache. -/
theorem endsIn_getClusterResources (hconfig : getCluster S.config cluster = .ok config)
    (forceRefresh : Bool) :
    (S.getClusterResources purpose cluster forceRefresh).endsIn (asking proxmox) =
      .ok (answerTo proxmox config "GET" "/cluster/resources") := by
  have hfetch : (S.fetchResources purpose cluster).endsIn (asking proxmox) =
      .ok (answerTo proxmox config "GET" "/cluster/resources") := by
    rw [Service.fetchResources, endsIn_bind, endsIn_apiRequest hconfig]
    rfl
  cases forceRefresh with
  | true => exact hfetch
  | false =>
    have hcached : (S.cachedResources cluster).endsIn (asking proxmox) = .ok none := rfl
    rw [Service.getClusterResources, if_neg Bool.false_ne_true, endsIn_bind, hcached]
    exact hfetch

/-- The list of the cluster's resources. -/
def Listing (proxmox : RestRequest → String) (config : ClusterConfig)
    (resources : List ClusterResource) : Prop :=
  listResources (answerTo proxmox config "GET" "/cluster/resources") = .ok resources

/-- A guest is located in the list. -/
theorem endsIn_getVmLocation (hconfig : getCluster S.config cluster = .ok config)
    {resources : List ClusterResource} (hlist : Listing proxmox config resources)
    {kind : GuestType} {vmid : Nat} :
    (S.getVmLocation purpose cluster kind vmid).endsIn (asking proxmox) =
      match locate resources kind vmid with
      | some node => .ok node
      | none => .error s!"Unable to locate {kind.text} {vmid} in cluster {cluster}" := by
  rw [Service.getVmLocation, endsIn_bind, endsIn_getClusterResources hconfig]
  simp only [endsBind]
  rw [endsIn_bind, endsIn_ofExcept, show listResources _ = _ from hlist]
  cases hlocate : locate resources kind vmid <;> simp [Outcome.ofExcept, endsBind, hlocate]

/-- What `detectVmGuest` makes of the configuration of a VM. -/
def guestDetails (vm : Value) : GuestKind × Bool :=
  (if "win".toList.isPrefixOf (ostypeText vm) then .windows_guest
    else if (ostypeText vm).isEmpty then .unknown else .linux_guest,
    normalizeBoolean (vm.get "agent"))

/-- The configuration of a VM. -/
def vmConfig (proxmox : RestRequest → String) (config : ClusterConfig) (node : String)
    (vmid : Nat) : Value :=
  answerTo proxmox config "GET" (qemuPath node vmid "/config")

/-- What is detected of a VM. -/
def vmDetails (proxmox : RestRequest → String) (config : ClusterConfig) (node : String)
    (vmid : Nat) : GuestKind × Bool :=
  guestDetails (vmConfig proxmox config node vmid)

/-- A VM's guest is detected, unless its configuration is nothing. -/
theorem endsIn_detectVmGuest (hconfig : getCluster S.config cluster = .ok config)
    {node : String} {vmid : Nat} {details : GuestKind × Bool} :
    (S.detectVmGuest purpose cluster node vmid).endsIn (asking proxmox) = .ok details ↔
      (∃ v, readProperty (vmConfig proxmox config node vmid) "ostype" = .ok v) ∧
        details = vmDetails proxmox config node vmid := by
  rw [Service.detectVmGuest, endsIn_bind, endsIn_apiRequest hconfig]
  simp only [endsBind]
  rw [vmDetails, ← vmConfig]
  generalize vmConfig proxmox config node vmid = vm
  rw [endsIn_bind, endsIn_ofExcept]
  cases readProperty vm "ostype" with
  | error m => simp [Outcome.ofExcept, endsBind]
  | ok v =>
    simp only [Outcome.ofExcept, endsBind, endsIn_pure, Outcome.ok.injEq, Except.ok.injEq,
      exists_eq', true_and]
    exact eq_comm

end World

/-! ## 4. Transports that are selected -/

/-- A policy that forbids nothing. -/
def openPolicy : PolicyConfig where
  allowApiWrite := true
  allowRawCli := true
  allowShell := true
  allowFileRead := true
  allowFileWrite := true
  allowSudo := true

/-- The service, its policies apart. -/
def Service.ignoringPolicy (S : Service) : Service :=
  { S with config := { S.config with policies := [openPolicy] } }

/-- The effects of a transport: a command, or a request to a guest's agent. -/
def Effect.IsTransport : Effect → Prop
  | .exec _ => True
  | .send sent => sent.purpose.guest.isSome = true
  | _ => False

/-- The operation selects a transport that can be resolved. -/
def Selects {α : Type} (proxmox : RestRequest → String) (p : M α) : Prop :=
  Does Effect.IsTransport (asking proxmox) p

/-- The node is mapped. -/
def ClusterConfig.Maps (config : ClusterConfig) (node : String) : Prop :=
  ∃ entry ∈ config.nodes, entry.name = node

/-- The node is mapped, and the SSH profile of its mapping is there. -/
def ClusterConfig.HasShell (config : ClusterConfig) (runtime : RuntimeConfig) (node : String) :
    Prop :=
  ∃ entry, config.nodes.find? (fun entry => entry.name = node) = some entry ∧
    (runtime.sshProfileMap entry.sshProfile).isSome

omit [Text.Unicode] in
theorem ClusterConfig.HasShell.maps {config : ClusterConfig} {runtime : RuntimeConfig}
    {node : String} (h : config.HasShell runtime node) : config.Maps node := by
  obtain ⟨entry, hentry, -⟩ := h
  exact ⟨entry, List.mem_of_find?_eq_some hentry, by simpa using List.find?_some hentry⟩

/-- A Linux guest is configured with a host and an SSH profile that is there. -/
def LinuxReachable (runtime : RuntimeConfig) (cluster : String) (vmid : Nat) : Prop :=
  ∃ guest host profile, getLinuxGuestConfig runtime cluster vmid = some guest ∧
    nonEmpty guest.host = some host ∧ nonEmpty guest.sshProfile = some profile ∧
    (runtime.sshProfileMap profile).isSome

/-- A Windows guest is configured with a host and a WinRM profile that is there. -/
def WindowsReachable (runtime : RuntimeConfig) (cluster : String) (vmid : Nat) : Prop :=
  ∃ guest host profile, getWindowsGuestConfig runtime cluster vmid = some guest ∧
    nonEmpty guest.host = some host ∧ nonEmpty guest.winrmProfile = some profile ∧
    (runtime.winrmProfileMap profile).isSome

/-- The VM has a shell: its agent, or a guest configuration that fits its kind. -/
def VmHasShell (runtime : RuntimeConfig) (cluster : String) (vmid : Nat)
    (details : GuestKind × Bool) : Prop :=
  details.2 = true ∨
    (details.1 ≠ .windows_guest ∧ LinuxReachable runtime cluster vmid) ∨
    (details.1 = .windows_guest ∧ WindowsReachable runtime cluster vmid)

section Selection

variable {S : Service} {proxmox : RestRequest → String} {cluster node : String}
  {config : ClusterConfig} {purpose : Purpose} {method path : String}
  {args : List (String × Value)} {vmid : Nat} {input : ShellInput}
  {onProgress : ProgressSnapshot → M Unit} {rounds : Nat} {resources : List ClusterResource}

omit [Text.Unicode] in
theorem quiet_transport : Quiet fun _ e => ¬e.IsTransport := by
  intro h e he htransport
  cases e <;> first | exact htransport | cases he

omit [Text.Unicode] in
/-- What is admitted selects nothing. -/
theorem not_selects {α : Type} {p : M α} (hp : ∀ h, Admitted (fun _ e => ¬e.IsTransport) p h) :
    ¬Selects proxmox p :=
  not_does_of_only (only_of_admitted reply_nonempty (hp []))

omit [Text.Unicode] in
theorem admitsSends_transport [Text.Unicode] (hguest : purpose.guest = none) (h : History) :
    AdmitsSends (fun _ e => ¬e.IsTransport) purpose cluster method h := by
  intro h' _ call hcall htransport
  have hsome : call.purpose.guest.isSome = true := htransport
  rw [hcall.1, hguest] at hsome
  cases hsome

theorem not_selects_apiRequest (hguest : purpose.guest = none) :
    ¬Selects proxmox (S.apiRequest purpose cluster method path args) :=
  not_selects fun h => safe_apiRequest quiet_transport (admitsSends_transport hguest h)

theorem not_selects_getVmLocation (hguest : purpose.guest = none) {kind : GuestType} :
    ¬Selects proxmox (S.getVmLocation purpose cluster kind vmid) :=
  not_selects fun h =>
    (safe_getVmLocation quiet_transport (admitsSends_transport hguest h)).admitted

theorem not_selects_detectVmGuest (hguest : purpose.guest = none) :
    ¬Selects proxmox (S.detectVmGuest purpose cluster node vmid) :=
  not_selects fun h => safe_detectVmGuest quiet_transport (admitsSends_transport hguest h)

omit [Text.Unicode] in
/-- What selects nothing only returns. -/
theorem selects_bind {α β : Type} {p : M α} {f : α → M β} (hp : ¬Selects proxmox p) :
    Selects proxmox (p >>= f) ↔
      ∃ a, p.endsIn (asking proxmox) = .ok a ∧ Selects proxmox (f a) :=
  does_bind.trans (or_iff_right hp)

omit [Text.Unicode] in
/-- What follows may select nothing. -/
theorem selects_bind_left {α β : Type} {p : M α} {f : α → M β} (hf : ∀ a, ¬Selects proxmox (f a)) :
    Selects proxmox (p >>= f) ↔ Selects proxmox p :=
  does_bind.trans (or_iff_left fun ⟨a, _, ha⟩ => hf a ha)

/-- Nothing is selected before the assertions and the audit record, which all go through. -/
theorem selects_shell {α : Type} {target : TargetRef} {action : String}
    {fields : List (String × Value)} {useSudo : Bool} {p : M α} :
    Selects proxmox (do
      S.ignoringPolicy.assertShell target useSudo
      S.ignoringPolicy.auditRecord action target fields
      p) ↔ Selects proxmox p := by
  have hassert : (S.ignoringPolicy.assertShell target useSudo).endsIn (asking proxmox) = .ok () := by
    cases useSudo <;> rfl
  have haudit : (S.ignoringPolicy.auditRecord action target fields).endsIn (asking proxmox) =
      .ok () := rfl
  refine (does_bind_of_ok ?_ hassert).trans (does_bind_of_ok ?_ haudit)
  · exact not_selects fun h => (safe_assertShell quiet_transport).admitted
  · exact not_selects fun h => (safe_auditRecord quiet_transport).admitted

/-- The same for reading a file. -/
theorem selects_file {α : Type} {target : TargetRef} {action : String}
    {fields : List (String × Value)} {p : M α} :
    Selects proxmox (do
      S.ignoringPolicy.assertPermission target (.file false)
      S.ignoringPolicy.auditRecord action target fields
      p) ↔ Selects proxmox p := by
  have hassert : (S.ignoringPolicy.assertPermission target (.file false)).endsIn (asking proxmox) =
      .ok () := rfl
  have haudit : (S.ignoringPolicy.auditRecord action target fields).endsIn (asking proxmox) =
      .ok () := rfl
  refine (does_bind_of_ok ?_ hassert).trans (does_bind_of_ok ?_ haudit)
  · exact not_selects fun h => (safe_assertPermission quiet_transport).admitted
  · exact not_selects fun h => (safe_auditRecord quiet_transport).admitted

/-- **A command over SSH is sent exactly if its profile is there.** -/
theorem selects_runSshCommand {site : TargetRef} {resolved : ResolvedNodeTarget}
    {command : String} :
    Selects proxmox (S.runSshCommand purpose site resolved command) ↔
      (S.config.sshProfileMap resolved.sshProfile).isSome := by
  refine (does_bind_of_ok ?_ endsIn_ensureCluster).trans ?_
  · exact not_selects fun h => safe_ensureCluster quiet_transport
  cases hprofile : S.config.sshProfileMap resolved.sshProfile with
  | some profile =>
    refine iff_of_true (does_tryCatch.mpr (.inl ?_)) rfl
    rw [Service.sshExec, getNodeSshTarget, hprofile]
    exact .inl trivial
  | none =>
    have hexec : ∃ m, S.sshExec purpose site resolved command = throw m := by
      rw [Service.sshExec, getNodeSshTarget, hprofile]
      exact ⟨_, rfl⟩
    obtain ⟨m, hexec⟩ := hexec
    refine iff_of_false ?_ nofun
    rw [hexec]
    refine not_selects fun h => safe_tryCatch safe_throw fun m h₁ _ => ?_
    split
    · refine safe_bind (safe_attempt (quiet_transport h₁ _ rfl)).admitted fun _ h₂ _ _ => ?_
      exact safe_bind (safe_ensureCluster quiet_transport) fun _ h₃ _ _ => safe_throw
    · exact safe_throw

omit [Text.Unicode] in
/-- A command for a node. -/
theorem selects_onNode {α : Type} {p : ResolvedNodeTarget → M α}
    (hp : ∀ resolved, Selects proxmox (p resolved) ↔
      (S.config.sshProfileMap resolved.sshProfile).isSome)
    (hconfig : getCluster S.config cluster = .ok config) :
    Selects proxmox (Prog.ofExcept (getNodeTarget S.config cluster node) >>= p) ↔
      config.HasShell S.config node := by
  cases hnode : config.nodes.find? (fun entry => entry.name = node) with
  | none =>
    have hresolved : ∃ m, getNodeTarget S.config cluster node = .error m := by
      simp only [getNodeTarget, hconfig, Bind.bind, Except.bind, hnode]
      exact ⟨_, rfl⟩
    obtain ⟨m, hresolved⟩ := hresolved
    rw [hresolved]
    refine iff_of_false (fun h => h) fun ⟨entry, hentry, _⟩ => ?_
    rw [hnode] at hentry
    cases hentry
  | some entry =>
    have hresolved : getNodeTarget S.config cluster node =
        .ok ⟨cluster, node, entry.host, entry.port, entry.sshProfile⟩ := by
      simp only [getNodeTarget, hconfig, Bind.bind, Except.bind, hnode]
      rfl
    rw [hresolved, ofExcept_ok_bind, hp]
    simp [ClusterConfig.HasShell, hnode]

/-- **`nodeTerminalRun` selects a transport exactly for a node with a shell.** -/
theorem selects_nodeTerminalRun (hconfig : getCluster S.config cluster = .ok config) :
    Selects proxmox (S.ignoringPolicy.nodeTerminalRun cluster node input) ↔
      config.HasShell S.config node := by
  unfold Service.nodeTerminalRun
  refine selects_shell.trans ?_
  exact selects_onNode (S := S.ignoringPolicy) (fun _ => selects_runSshCommand) hconfig

/-- What follows a location. -/
theorem selects_located {α : Type} {kind : GuestType} {f : String → M α}
    (hconfig : getCluster S.config cluster = .ok config)
    (hlist : Listing proxmox config resources) (hguest : purpose.guest = none) :
    Selects proxmox (S.getVmLocation purpose cluster kind vmid >>= f) ↔
      ∃ node, locate resources kind vmid = some node ∧ Selects proxmox (f node) := by
  rw [selects_bind (not_selects_getVmLocation hguest), endsIn_getVmLocation hconfig hlist]
  cases locate resources kind vmid <;> simp

/-- **`proxmoxShellRun` on a container** needs the shell of the node that it is located on. -/
theorem selects_lxcShellRun (hconfig : getCluster S.config cluster = .ok config)
    (hlist : Listing proxmox config resources) :
    Selects proxmox (S.ignoringPolicy.proxmoxShellRun (guestSite cluster .lxc node vmid) input
      onProgress rounds) ↔
      ∃ located, locate resources .lxc vmid = some located ∧ config.HasShell S.config located := by
  unfold Service.proxmoxShellRun
  refine selects_shell.trans ?_
  refine (selects_located (S := S.ignoringPolicy) hconfig hlist rfl).trans ?_
  refine exists_congr fun located => and_congr_right fun _ => ?_
  exact selects_onNode (S := S.ignoringPolicy) (fun _ => selects_runSshCommand) hconfig

/-- **`proxmoxFileReadBytes` on a container** needs the same. -/
theorem selects_lxcFileReadBytes {filePath : String}
    (hconfig : getCluster S.config cluster = .ok config)
    (hlist : Listing proxmox config resources) :
    Selects proxmox (S.ignoringPolicy.proxmoxFileReadBytes (guestSite cluster .lxc node vmid)
      filePath) ↔
      ∃ located, locate resources .lxc vmid = some located ∧ config.HasShell S.config located := by
  unfold Service.proxmoxFileReadBytes
  refine selects_file.trans ?_
  refine (selects_located (S := S.ignoringPolicy) hconfig hlist rfl).trans ?_
  refine exists_congr fun located => and_congr_right fun _ => ?_
  refine selects_onNode (S := S.ignoringPolicy) (fun resolved => ?_) hconfig
  refine (selects_bind_left fun result => ?_).trans selects_runSshCommand
  exact not_selects fun h => safe_ofExcept_bind fun _ _ => safe_pure trivial

omit [Text.Unicode] in
theorem does_attempt {α : Type} {P : Effect → Prop} {w : (e : Effect) → e.Reply} {e : Effect}
    {he : e.Reply = Except String α} : Does P w (attempt e he) ↔ P e := by
  rw [attempt, does_bind]
  simp

/-- A request to a guest's agent is sent. -/
theorem selects_apiRequest (hconfig : getCluster S.config cluster = .ok config)
    (hguest : purpose.guest.isSome = true) :
    Selects proxmox (S.apiRequest purpose cluster method path args) := by
  obtain ⟨request, hb⟩ := exists_buildRequest config method path args
  have hheaders : (buildHeaders cluster config).endsIn (asking proxmox) = .ok () := rfl
  have hrequest : Selects proxmox (S.request purpose cluster method path args) := by
    simp only [Service.request, hconfig, hb, ofExcept_ok_bind]
    exact does_bind.mpr (.inr ⟨(), hheaders, does_bind.mpr (.inl (does_attempt.mpr hguest))⟩)
  exact does_bind.mpr (.inr ⟨(), endsIn_ensureCluster, does_tryCatch.mpr (.inl hrequest)⟩)

/-- What follows a detection. -/
theorem selects_detected {α : Type} {f : GuestKind × Bool → M α}
    (hconfig : getCluster S.config cluster = .ok config) (hguest : purpose.guest = none) :
    Selects proxmox (S.detectVmGuest purpose cluster node vmid >>= f) ↔
      (∃ v, readProperty (vmConfig proxmox config node vmid) "ostype" = .ok v) ∧
        Selects proxmox (f (vmDetails proxmox config node vmid)) := by
  rw [selects_bind (not_selects_detectVmGuest hguest)]
  simp only [endsIn_detectVmGuest hconfig]
  constructor
  · intro hparts
    obtain ⟨details, ⟨hread, hdetails⟩, h⟩ := hparts
    exact ⟨hread, hdetails ▸ h⟩
  · intro hparts
    obtain ⟨hread, h⟩ := hparts
    exact ⟨_, ⟨hread, rfl⟩, h⟩

omit [Text.Unicode] in
/-- A command for a Linux guest. -/
theorem selects_linuxGuest {m : String} {unknown : String → String}
    {command : String → SshProfileConfig → RemoteCommand} :
    Selects proxmox (match getLinuxGuestConfig S.config cluster vmid with
      | some guest =>
        match nonEmpty guest.host, nonEmpty guest.sshProfile with
        | some host, some sshProfile =>
          match S.config.sshProfileMap sshProfile with
          | none => throw (unknown sshProfile)
          | some profile => attempt (.exec (command host profile)) rfl
        | _, _ => throw m
      | none => (throw m : M CommandResult)) ↔ LinuxReachable S.config cluster vmid := by
  unfold LinuxReachable
  cases getLinuxGuestConfig S.config cluster vmid with
  | none => simp [Selects]
  | some guest =>
    cases hhost : nonEmpty guest.host with
    | none => simp [Selects, hhost]
    | some host =>
      cases hprofile : nonEmpty guest.sshProfile with
      | none => simp [Selects, hhost, hprofile]
      | some sshProfile =>
        cases hfound : S.config.sshProfileMap sshProfile <;>
          simp [Selects, hhost, hprofile, hfound, does_attempt, Effect.IsTransport]

omit [Text.Unicode] in
/-- A command for a Windows guest. -/
theorem selects_windowsGuest {m : String} {unknown : String → String}
    {command : String → WinRmProfileConfig → RemoteCommand} :
    Selects proxmox (match getWindowsGuestConfig S.config cluster vmid with
      | some guest =>
        match nonEmpty guest.host, nonEmpty guest.winrmProfile with
        | some host, some winrmProfile =>
          match S.config.winrmProfileMap winrmProfile with
          | none => throw (unknown winrmProfile)
          | some profile => attempt (.exec (command host profile)) rfl
        | _, _ => throw m
      | none => (throw m : M CommandResult)) ↔ WindowsReachable S.config cluster vmid := by
  unfold WindowsReachable
  cases getWindowsGuestConfig S.config cluster vmid with
  | none => simp [Selects]
  | some guest =>
    cases hhost : nonEmpty guest.host with
    | none => simp [Selects, hhost]
    | some host =>
      cases hprofile : nonEmpty guest.winrmProfile with
      | none => simp [Selects, hhost, hprofile]
      | some winrmProfile =>
        cases hfound : S.config.winrmProfileMap winrmProfile <;>
          simp [Selects, hhost, hprofile, hfound, does_attempt, Effect.IsTransport]

/-- **`proxmoxShellRun` on a VM** needs the agent, or the guest configuration of its kind. -/
theorem selects_vmShellRun (hconfig : getCluster S.config cluster = .ok config)
    (hlist : Listing proxmox config resources) :
    Selects proxmox (S.ignoringPolicy.proxmoxShellRun (guestSite cluster .qemu node vmid) input
      onProgress rounds) ↔
      ∃ located, locate resources .qemu vmid = some located ∧
        (∃ v, readProperty (vmConfig proxmox config located vmid) "ostype" = .ok v) ∧
        VmHasShell S.config cluster vmid (vmDetails proxmox config located vmid) := by
  unfold Service.proxmoxShellRun
  refine selects_shell.trans ?_
  refine (selects_located (S := S.ignoringPolicy) hconfig hlist rfl).trans ?_
  refine exists_congr fun located => and_congr_right fun _ => ?_
  refine (selects_detected (S := S.ignoringPolicy) hconfig rfl).trans ?_
  refine and_congr_right fun _ => ?_
  obtain ⟨kind, agent⟩ := vmDetails proxmox config located vmid
  dsimp only
  cases agent with
  | true =>
    rw [if_pos rfl]
    exact iff_of_true (does_bind.mpr (.inl (selects_apiRequest (S := S.ignoringPolicy) hconfig rfl)))
      (.inl rfl)
  | false =>
    rw [if_neg Bool.false_ne_true, VmHasShell, or_iff_right Bool.false_ne_true]
    by_cases hkind : kind = .windows_guest
    · rw [if_neg (not_not.mpr hkind), or_iff_right fun h => h.1 hkind, and_iff_right hkind]
      exact selects_windowsGuest
    · rw [if_pos hkind, or_iff_left fun h => hkind h.1, and_iff_right hkind]
      exact selects_linuxGuest

/-- **`proxmoxFileReadBytes` on a VM** needs the agent. -/
theorem selects_vmFileReadBytes {filePath : String}
    (hconfig : getCluster S.config cluster = .ok config)
    (hlist : Listing proxmox config resources) :
    Selects proxmox (S.ignoringPolicy.proxmoxFileReadBytes (guestSite cluster .qemu node vmid)
      filePath) ↔
      ∃ located, locate resources .qemu vmid = some located ∧
        (∃ v, readProperty (vmConfig proxmox config located vmid) "ostype" = .ok v) ∧
        (vmDetails proxmox config located vmid).2 = true := by
  unfold Service.proxmoxFileReadBytes
  refine selects_file.trans ?_
  refine (selects_located (S := S.ignoringPolicy) hconfig hlist rfl).trans ?_
  refine exists_congr fun located => and_congr_right fun _ => ?_
  refine (selects_detected (S := S.ignoringPolicy) hconfig rfl).trans ?_
  refine and_congr_right fun _ => ?_
  obtain ⟨kind, agent⟩ := vmDetails proxmox config located vmid
  dsimp only
  cases agent with
  | true =>
    rw [if_pos rfl]
    exact iff_of_true (does_bind.mpr (.inl (selects_apiRequest (S := S.ignoringPolicy) hconfig rfl)))
      rfl
  | false =>
    rw [if_neg Bool.false_ne_true]
    exact iff_of_false (fun h => h) Bool.false_ne_true

end Selection

/-! ## 5. What the overview says -/

section Overview

variable {S : Service} {proxmox : RestRequest → String} {cluster : String} {config : ClusterConfig}
  {options : InventoryOptions} {rounds : Nat} {resources : List ClusterResource}
  {summary : ClusterSummary}

omit [Text.Unicode] in
theorem mapM_ok {α β : Type} {f : α → Except String β} : ∀ {as : List α} {bs : List β},
    as.mapM f = .ok bs → List.Forall₂ (fun a b => f a = .ok b) as bs
  | [], bs, h => by
      cases h
      exact .nil
  | a :: as, bs, h => by
      rw [List.mapM_cons] at h
      cases ha : f a with
      | error m =>
        rw [ha] at h
        cases h
      | ok b =>
        cases has : as.mapM f with
        | error m =>
          rw [ha, has] at h
          cases h
        | ok bs' =>
          rw [ha, has] at h
          cases h
          exact .cons ha (mapM_ok has)

omit [Text.Unicode] in
/-- Of two lists in correspondence, one has all of a property if the other has all of its
    counterpart. -/
theorem forall₂_forall_iff {α β : Type} {R : α → β → Prop} {Q : β → Prop} (P : α → Prop)
    (hR : ∀ a b, R a b → (Q b ↔ P a)) : ∀ {as : List α} {bs : List β}, List.Forall₂ R as bs →
      ((∀ b ∈ bs, Q b) ↔ ∀ a ∈ as, P a)
  | _, _, .nil => by simp
  | _, _, .cons hab h => by
      rw [List.forall_mem_cons, List.forall_mem_cons, hR _ _ hab, forall₂_forall_iff P hR h]

/-- **An overview that is returned** has a summary for each entry of the list. -/
theorem overview_summaries (hconfig : getCluster S.config cluster = .ok config)
    (hlist : Listing proxmox config resources)
    (hoverview : (S.inventoryOverview cluster options rounds).endsIn (asking proxmox) =
      .ok summary) :
    List.Forall₂ (fun entry node => nodeSummary S.config cluster options entry = .ok node)
      (resources.filter fun entry => entry.type = "node") summary.nodes ∧
    List.Forall₂ (fun vm s => (S.vmSummary cluster options rounds vm.entry vm.node vm.vmid).endsIn
      (asking proxmox) = .ok s) (guestsOf .qemu resources) summary.qemuVms ∧
    List.Forall₂ (fun ct s => lxcSummary S.config cluster ct.entry ct.node ct.vmid = .ok s)
      (guestsOf .lxc resources) summary.lxcContainers := by
  obtain ⟨data, hdata, h1⟩ := endsIn_bind_ok.mp hoverview
  rw [endsIn_getClusterResources hconfig] at hdata
  rw [← Outcome.ok.inj hdata] at h1
  obtain ⟨version, -, h2⟩ := endsIn_bind_ok.mp h1
  obtain ⟨status, -, h3⟩ := endsIn_bind_ok.mp h2
  have hfilter : filterResources (answerTo proxmox config "GET" "/cluster/resources") =
      .ok resources := by
    rw [filterResources, show listResources _ = _ from hlist]
    rfl
  rw [hfilter, ofExcept_ok_bind] at h3
  obtain ⟨nodes, hnodes, h4⟩ := endsIn_bind_ok.mp h3
  obtain ⟨vms, hvms, h5⟩ := endsIn_bind_ok.mp h4
  obtain ⟨containers, hcontainers, h6⟩ := endsIn_bind_ok.mp h5
  cases h6
  rw [endsIn_ofExcept] at hnodes hcontainers
  exact ⟨mapM_ok (Outcome.eq_ok_of_ofExcept hnodes.symm), endsIn_forEach_ok hvms,
    mapM_ok (Outcome.eq_ok_of_ofExcept hcontainers.symm)⟩

omit [Text.Unicode] in
/-- Whether a node is configured. -/
theorem nodeConfigured_ok (hconfig : getCluster S.config cluster = .ok config)
    (node : Option String) :
    nodeConfigured S.config cluster node =
      .ok (config.nodes.any fun entry => some entry.name = node) := by
  simp only [nodeConfigured, hconfig, Bind.bind, Except.bind]
  rfl

omit [Text.Unicode] in
/-- What the summary of a node says. -/
theorem nodeSummary_ok {entry : ClusterResource} {node : NodeSummary}
    (hconfig : getCluster S.config cluster = .ok config)
    (h : nodeSummary S.config cluster options entry = .ok node) :
    node.node = entry.node.getD entry.id ∧
      (.host_shell ∈ node.capabilities ↔ ∃ name, entry.node = some name ∧ config.Maps name) := by
  simp only [nodeSummary, nodeConfigured_ok hconfig, Bind.bind, Except.bind] at h
  cases h
  refine ⟨rfl, ?_⟩
  cases entry.node with
  | none => simp
  | some name => simp [ClusterConfig.Maps]

omit [Text.Unicode] in
/-- What the summary of a container says. -/
theorem lxcSummary_ok {entry : ClusterResource} {node : String} {vmid : Nat} {ct : LxcSummary}
    (hconfig : getCluster S.config cluster = .ok config)
    (h : lxcSummary S.config cluster entry node vmid = .ok ct) :
    ct.target = guestSite cluster .lxc node vmid ∧
      (.guest_shell ∈ ct.capabilities ↔ config.Maps node) ∧
      (.guest_file_io ∈ ct.capabilities ↔ config.Maps node) := by
  simp only [lxcSummary, nodeConfigured_ok hconfig, Bind.bind, Except.bind] at h
  cases h
  refine ⟨rfl, ?_, ?_⟩ <;> simp [ClusterConfig.Maps]

/-- The overview says that the VM has a shell: its agent, or any guest configuration. -/
def VmAdvertisesShell (runtime : RuntimeConfig) (cluster : String) (vmid : Nat)
    (details : GuestKind × Bool) : Prop :=
  details.2 = true ∨
    (details.1 = .linux_guest ∧ (getLinuxGuestConfig runtime cluster vmid).isSome) ∨
    (details.1 = .windows_guest ∧ (getWindowsGuestConfig runtime cluster vmid).isSome)

omit [Text.Unicode] in
theorem mem_vmCapabilities {runtime : RuntimeConfig} {vmid : Nat} {details : GuestKind × Bool} :
    (.guest_shell ∈ vmCapabilities runtime cluster vmid details ↔
      VmAdvertisesShell runtime cluster vmid details) ∧
    (.guest_file_io ∈ vmCapabilities runtime cluster vmid details ↔ details.2 = true) := by
  obtain ⟨kind, agent⟩ := details
  unfold vmCapabilities VmAdvertisesShell
  cases agent with
  | true => simp
  | false =>
    simp only [Bool.false_eq_true, if_false, false_or]
    split
    · rename_i h
      simp [h]
    · rename_i hlinux
      split
      · rename_i h
        simp [h]
      · rename_i hwindows
        simp [hlinux, hwindows]

/-- What the summary of a VM says. -/
theorem vmSummary_ok {entry : ClusterResource} {node : String} {vmid : Nat} {vm : VmSummary}
    (hconfig : getCluster S.config cluster = .ok config)
    (h : (S.vmSummary cluster options rounds entry node vmid).endsIn (asking proxmox) = .ok vm) :
    (∃ v, readProperty (vmConfig proxmox config node vmid) "ostype" = .ok v) ∧
      vm.target = guestSite cluster .qemu node vmid ∧
      (.guest_shell ∈ vm.capabilities ↔ VmAdvertisesShell S.config cluster vmid
        (vmDetails proxmox config node vmid)) ∧
      (.guest_file_io ∈ vm.capabilities ↔
        (vmDetails proxmox config node vmid).2 = true) := by
  obtain ⟨details, hdetails, h1⟩ := endsIn_bind_ok.mp h
  obtain ⟨hread, rfl⟩ := (endsIn_detectVmGuest hconfig).mp hdetails
  obtain ⟨docker, -, h2⟩ := endsIn_bind_ok.mp h1
  cases h2
  obtain ⟨hshell, hfile⟩ := @mem_vmCapabilities cluster S.config vmid
    (vmDetails proxmox config node vmid)
  refine ⟨hread, rfl, Iff.trans ?_ hshell, Iff.trans ?_ hfile⟩ <;> cases docker <;> simp

end Overview

/-! ## 6. When what is said agrees with what is selected -/

/-- **The capabilities advertised are the transports selected**, policy apart. -/
structure CapabilitiesAgree (S : Service) (proxmox : RestRequest → String) (cluster : String)
    (summary : ClusterSummary) : Prop where
  node : ∀ s ∈ summary.nodes, ∀ input, .host_shell ∈ s.capabilities ↔
    Selects proxmox (S.ignoringPolicy.nodeTerminalRun cluster s.node input)
  lxcShell : ∀ s ∈ summary.lxcContainers, ∀ input onProgress rounds,
    .guest_shell ∈ s.capabilities ↔
      Selects proxmox (S.ignoringPolicy.proxmoxShellRun s.target input onProgress rounds)
  lxcFile : ∀ s ∈ summary.lxcContainers, ∀ filePath, .guest_file_io ∈ s.capabilities ↔
    Selects proxmox (S.ignoringPolicy.proxmoxFileReadBytes s.target filePath)
  vmShell : ∀ s ∈ summary.qemuVms, ∀ input onProgress rounds,
    .guest_shell ∈ s.capabilities ↔
      Selects proxmox (S.ignoringPolicy.proxmoxShellRun s.target input onProgress rounds)
  vmFile : ∀ s ∈ summary.qemuVms, ∀ filePath, .guest_file_io ∈ s.capabilities ↔
    Selects proxmox (S.ignoringPolicy.proxmoxFileReadBytes s.target filePath)

/-- The listing is the one that `getVmLocation` finds. -/
def Listed.IsFirst (guest : Listed) (kind : GuestType) (resources : List ClusterResource) : Prop :=
  locate resources kind guest.vmid = some guest.node

/-- A node that is mapped has its profile loaded; one without a name goes by its id in the
    overview, and no mapping goes by that. -/
def NodeProvisioned (runtime : RuntimeConfig) (config : ClusterConfig) (entry : ClusterResource) :
    Prop :=
  match entry.node with
  | some name => config.Maps name → config.HasShell runtime name
  | none => ¬config.HasShell runtime entry.id

/-- A VM without an agent: the guest configuration of its kind is complete where it is there, and
    where the kind is unknown, no Linux guest is configured that could be reached. -/
def VmProvisioned (runtime : RuntimeConfig) (cluster : String) (vmid : Nat) : GuestKind → Prop
  | .linux_guest => (getLinuxGuestConfig runtime cluster vmid).isSome →
      LinuxReachable runtime cluster vmid
  | .windows_guest => (getWindowsGuestConfig runtime cluster vmid).isSome →
      WindowsReachable runtime cluster vmid
  | .unknown => ¬LinuxReachable runtime cluster vmid

/-- What is configured is complete; a guest that is listed again fares there as where it is found. -/
structure ShellsProvisioned (runtime : RuntimeConfig) (config : ClusterConfig) (cluster : String)
    (resources : List ClusterResource) (details : String → Nat → GuestKind × Bool) : Prop where
  node : ∀ entry ∈ resources, entry.type = "node" → NodeProvisioned runtime config entry
  lxc : ∀ ct ∈ guestsOf .lxc resources, ct.IsFirst .lxc resources →
    config.Maps ct.node → config.HasShell runtime ct.node
  vm : ∀ vm ∈ guestsOf .qemu resources, vm.IsFirst .qemu resources →
    (details vm.node vm.vmid).2 = false →
      VmProvisioned runtime cluster vm.vmid (details vm.node vm.vmid).1
  lxcAgain : ∀ ct ∈ guestsOf .lxc resources, ¬ct.IsFirst .lxc resources →
    (config.Maps ct.node ↔ ∃ located, locate resources .lxc ct.vmid = some located ∧
      config.HasShell runtime located)
  vmAgain : ∀ vm ∈ guestsOf .qemu resources, ¬vm.IsFirst .qemu resources →
    (VmAdvertisesShell runtime cluster vm.vmid (details vm.node vm.vmid) ↔
      ∃ located, locate resources .qemu vm.vmid = some located ∧
        VmHasShell runtime cluster vm.vmid (details located vm.vmid)) ∧
    ((details vm.node vm.vmid).2 = true ↔
      ∃ located, locate resources .qemu vm.vmid = some located ∧
        (details located vm.vmid).2 = true)

section Agreement

variable {S : Service} {proxmox : RestRequest → String} {cluster : String} {config : ClusterConfig}
  {options : InventoryOptions} {rounds : Nat} {resources : List ClusterResource}
  {summary : ClusterSummary} {runtime : RuntimeConfig}

omit [Text.Unicode] in
/-- A guest that is located is listed. -/
theorem locate_listed {kind : GuestType} {vmid : Nat} {node : String}
    (h : locate resources kind vmid = some node) :
    ∃ entry, ⟨entry, node, vmid⟩ ∈ guestsOf kind resources := by
  unfold locate at h
  split at h
  · rename_i entry hentry
    split at h
    · rename_i name hname
      split at h
      · cases h
      · rename_i hne
        cases h
        have hfound := List.find?_some hentry
        simp only [decide_eq_true_eq] at hfound
        refine ⟨entry, List.mem_filterMap.mpr ⟨entry, List.mem_of_find?_eq_some hentry, ?_⟩⟩
        have hnode : nonEmpty (some node) = some node := by simp [nonEmpty, Option.filter, hne]
        rw [if_pos hfound.1, hfound.2, hname, hnode]
        rfl
    · cases h
  · cases h

omit [Text.Unicode] in
/-- Where the listing is the one that is found, nothing else is. -/
theorem Listed.IsFirst.located {guest : Listed} {kind : GuestType}
    (h : guest.IsFirst kind resources) {P : String → Prop} :
    (∃ located, locate resources kind guest.vmid = some located ∧ P located) ↔ P guest.node := by
  rw [show locate resources kind guest.vmid = some guest.node from h]
  simp

omit [Text.Unicode] in
theorem nodeProvisioned_iff {entry : ClusterResource} :
    ((∃ name, entry.node = some name ∧ config.Maps name) ↔
      config.HasShell runtime (entry.node.getD entry.id)) ↔
        NodeProvisioned runtime config entry := by
  unfold NodeProvisioned
  cases entry.node with
  | none => simp
  | some name =>
    simp only [Option.some.injEq, exists_eq_left', Option.getD_some]
    exact ⟨fun h => h.mp, fun h => ⟨h, ClusterConfig.HasShell.maps⟩⟩

omit [Text.Unicode] in
theorem LinuxReachable.isSome {vmid : Nat} (h : LinuxReachable runtime cluster vmid) :
    (getLinuxGuestConfig runtime cluster vmid).isSome := by
  obtain ⟨guest, _, _, hguest, _⟩ := h
  rw [hguest]
  rfl

omit [Text.Unicode] in
theorem WindowsReachable.isSome {vmid : Nat} (h : WindowsReachable runtime cluster vmid) :
    (getWindowsGuestConfig runtime cluster vmid).isSome := by
  obtain ⟨guest, _, _, hguest, _⟩ := h
  rw [hguest]
  rfl

omit [Text.Unicode] in
/-- **A VM's shell is advertised as it is selected** exactly if its agent is there or its guest
    configuration is complete. -/
theorem vmProvisioned_iff {vmid : Nat} {details : GuestKind × Bool} :
    (VmAdvertisesShell runtime cluster vmid details ↔ VmHasShell runtime cluster vmid details) ↔
      (details.2 = false → VmProvisioned runtime cluster vmid details.1) := by
  obtain ⟨kind, agent⟩ := details
  unfold VmAdvertisesShell VmHasShell
  cases agent with
  | true => simp
  | false =>
    cases kind with
    | linux_guest =>
      have hback : LinuxReachable runtime cluster vmid →
        (getLinuxGuestConfig runtime cluster vmid).isSome = true := LinuxReachable.isSome
      simp only [VmProvisioned, Bool.false_eq_true, false_or, true_and, reduceCtorEq, false_and,
        or_false, ne_eq, not_false_eq_true, forall_const]
      exact ⟨fun h => h.mp, fun h => ⟨h, hback⟩⟩
    | windows_guest =>
      have hback : WindowsReachable runtime cluster vmid →
        (getWindowsGuestConfig runtime cluster vmid).isSome = true := WindowsReachable.isSome
      simp only [VmProvisioned, Bool.false_eq_true, false_or, true_and, reduceCtorEq, false_and,
        ne_eq, not_true_eq_false, forall_const]
      exact ⟨fun h => h.mp, fun h => ⟨h, hback⟩⟩
    | unknown => simp [VmProvisioned]

omit [Text.Unicode] in
/-- A container, by whether its listing is the one that is found. -/
theorem lxcAgree_iff {ct : Listed} :
    (config.Maps ct.node ↔ ∃ located, locate resources .lxc ct.vmid = some located ∧
      config.HasShell runtime located) ↔
    ((ct.IsFirst .lxc resources → config.Maps ct.node → config.HasShell runtime ct.node) ∧
      (¬ct.IsFirst .lxc resources → (config.Maps ct.node ↔
        ∃ located, locate resources .lxc ct.vmid = some located ∧
          config.HasShell runtime located))) := by
  by_cases hfirst : ct.IsFirst .lxc resources
  · rw [hfirst.located]
    simp only [hfirst, forall_const, not_true_eq_false, IsEmpty.forall_iff, and_true]
    exact ⟨fun h => h.mp, fun h => ⟨h, ClusterConfig.HasShell.maps⟩⟩
  · simp only [hfirst, IsEmpty.forall_iff, not_false_eq_true, forall_const, true_and]

omit [Text.Unicode] in
/-- A VM, by the same. -/
theorem vmAgree_iff {vm : Listed} {details : String → Nat → GuestKind × Bool} :
    ((VmAdvertisesShell runtime cluster vm.vmid (details vm.node vm.vmid) ↔
        ∃ located, locate resources .qemu vm.vmid = some located ∧
          VmHasShell runtime cluster vm.vmid (details located vm.vmid)) ∧
      ((details vm.node vm.vmid).2 = true ↔
        ∃ located, locate resources .qemu vm.vmid = some located ∧
          (details located vm.vmid).2 = true)) ↔
    ((vm.IsFirst .qemu resources → (details vm.node vm.vmid).2 = false →
        VmProvisioned runtime cluster vm.vmid (details vm.node vm.vmid).1) ∧
      (¬vm.IsFirst .qemu resources →
        (VmAdvertisesShell runtime cluster vm.vmid (details vm.node vm.vmid) ↔
          ∃ located, locate resources .qemu vm.vmid = some located ∧
            VmHasShell runtime cluster vm.vmid (details located vm.vmid)) ∧
        ((details vm.node vm.vmid).2 = true ↔
          ∃ located, locate resources .qemu vm.vmid = some located ∧
            (details located vm.vmid).2 = true))) := by
  by_cases hfirst : vm.IsFirst .qemu resources
  · rw [hfirst.located, hfirst.located, vmProvisioned_iff]
    simp only [hfirst, forall_const, not_true_eq_false, IsEmpty.forall_iff, and_true]
  · simp only [hfirst, IsEmpty.forall_iff, not_false_eq_true, forall_const, true_and]

section Returned

variable (hconfig : getCluster S.config cluster = .ok config)
  (hlist : Listing proxmox config resources)
  (hoverview : (S.inventoryOverview cluster options rounds).endsIn (asking proxmox) = .ok summary)
include hconfig hlist hoverview

theorem nodes_agree_iff :
    (∀ s ∈ summary.nodes, ∀ input, .host_shell ∈ s.capabilities ↔
      Selects proxmox (S.ignoringPolicy.nodeTerminalRun cluster s.node input)) ↔
    ∀ entry ∈ resources, entry.type = "node" → NodeProvisioned S.config config entry := by
  have hsummaries := (overview_summaries hconfig hlist hoverview).1
  refine (forall₂_forall_iff (NodeProvisioned S.config config) (fun entry s h => ?_)
    hsummaries).trans ?_
  · obtain ⟨hnode, hshell⟩ := nodeSummary_ok hconfig h
    simp only [selects_nodeTerminalRun hconfig, hnode, hshell]
    exact ⟨fun h => nodeProvisioned_iff.mp (h ⟨"", .sh, false⟩),
      fun h _ => nodeProvisioned_iff.mpr h⟩
  · simp

theorem containers_agree_iff :
    ((∀ s ∈ summary.lxcContainers, ∀ input onProgress rounds, .guest_shell ∈ s.capabilities ↔
        Selects proxmox (S.ignoringPolicy.proxmoxShellRun s.target input onProgress rounds)) ↔
      ∀ ct ∈ guestsOf .lxc resources, (config.Maps ct.node ↔
        ∃ located, locate resources .lxc ct.vmid = some located ∧
          config.HasShell S.config located)) ∧
    ((∀ s ∈ summary.lxcContainers, ∀ filePath, .guest_file_io ∈ s.capabilities ↔
        Selects proxmox (S.ignoringPolicy.proxmoxFileReadBytes s.target filePath)) ↔
      ∀ ct ∈ guestsOf .lxc resources, (config.Maps ct.node ↔
        ∃ located, locate resources .lxc ct.vmid = some located ∧
          config.HasShell S.config located)) := by
  have hsummaries := (overview_summaries hconfig hlist hoverview).2.2
  refine ⟨forall₂_forall_iff _ (fun ct s h => ?_) hsummaries,
    forall₂_forall_iff _ (fun ct s h => ?_) hsummaries⟩
  · obtain ⟨htarget, hshell, -⟩ := lxcSummary_ok hconfig h
    simp only [htarget, hshell, selects_lxcShellRun hconfig hlist]
    exact ⟨fun h => h ⟨"", .sh, false⟩ (fun _ => Pure.pure ()) 0, fun h _ _ _ => h⟩
  · obtain ⟨htarget, -, hfile⟩ := lxcSummary_ok hconfig h
    simp only [htarget, hfile, selects_lxcFileReadBytes hconfig hlist]
    exact ⟨fun h => h "", fun h _ => h⟩

/-- The configuration of a VM that is located has been read for the overview. -/
theorem located_readable {vmid : Nat} {located : String}
    (hlocated : locate resources .qemu vmid = some located) :
    ∃ v, readProperty (vmConfig proxmox config located vmid) "ostype" = .ok v := by
  obtain ⟨entry, hlisted⟩ := locate_listed hlocated
  have hsummaries := (overview_summaries hconfig hlist hoverview).2.1
  have hread : (∀ s ∈ summary.qemuVms, True) ↔ ∀ vm ∈ guestsOf .qemu resources, ∃ v,
      readProperty (vmConfig proxmox config vm.node vm.vmid) "ostype" = .ok v := by
    refine forall₂_forall_iff _ (fun vm s h => ?_) hsummaries
    exact iff_of_true trivial (vmSummary_ok hconfig h).1
  have hvm := hread.mp (fun _ _ => trivial) ⟨entry, located, vmid⟩ hlisted
  exact hvm

theorem vms_agree_iff :
    ((∀ s ∈ summary.qemuVms, ∀ input onProgress rounds, .guest_shell ∈ s.capabilities ↔
        Selects proxmox (S.ignoringPolicy.proxmoxShellRun s.target input onProgress rounds)) ↔
      ∀ vm ∈ guestsOf .qemu resources,
        (VmAdvertisesShell S.config cluster vm.vmid
          (vmDetails proxmox config vm.node vm.vmid) ↔
        ∃ located, locate resources .qemu vm.vmid = some located ∧
          VmHasShell S.config cluster vm.vmid
            (vmDetails proxmox config located vm.vmid))) ∧
    ((∀ s ∈ summary.qemuVms, ∀ filePath, .guest_file_io ∈ s.capabilities ↔
        Selects proxmox (S.ignoringPolicy.proxmoxFileReadBytes s.target filePath)) ↔
      ∀ vm ∈ guestsOf .qemu resources,
        ((vmDetails proxmox config vm.node vm.vmid).2 = true ↔
        ∃ located, locate resources .qemu vm.vmid = some located ∧
          (vmDetails proxmox config located vm.vmid).2 = true)) := by
  have hsummaries := (overview_summaries hconfig hlist hoverview).2.1
  have hdrop : ∀ (vmid : Nat) (P : String → Prop),
      (∃ located, locate resources .qemu vmid = some located ∧
        (∃ v, readProperty (vmConfig proxmox config located vmid) "ostype" = .ok v) ∧ P located) ↔
      ∃ located, locate resources .qemu vmid = some located ∧ P located := by
    intro vmid P
    refine exists_congr fun located => and_congr_right fun hlocated => ?_
    exact and_iff_right (located_readable hconfig hlist hoverview hlocated)
  refine ⟨forall₂_forall_iff _ (fun vm s h => ?_) hsummaries,
    forall₂_forall_iff _ (fun vm s h => ?_) hsummaries⟩
  · obtain ⟨-, htarget, hshell, -⟩ := vmSummary_ok hconfig h
    simp only [htarget, hshell, selects_vmShellRun hconfig hlist, hdrop]
    exact ⟨fun h => h ⟨"", .sh, false⟩ (fun _ => Pure.pure ()) 0, fun h _ _ _ => h⟩
  · obtain ⟨-, htarget, -, hfile⟩ := vmSummary_ok hconfig h
    simp only [htarget, hfile, selects_vmFileReadBytes hconfig hlist, hdrop]
    exact ⟨fun h => h "", fun h _ => h⟩

end Returned

end Agreement

/-- **The overview agrees with the transports exactly if** what is configured is complete: each
    mapped node has its profile, each guest configuration its host and profile, and no VM of
    unknown kind has one. -/
theorem capabilities_agree_iff (S : Service) (proxmox : RestRequest → String) (cluster : String)
    (options : InventoryOptions) (rounds : Nat) (config : ClusterConfig)
    (resources : List ClusterResource) (summary : ClusterSummary)
    (hconfig : getCluster S.config cluster = .ok config)
    (hlist : Listing proxmox config resources)
    (hoverview : (S.inventoryOverview cluster options rounds).endsIn (asking proxmox) =
      .ok summary) :
    CapabilitiesAgree S proxmox cluster summary ↔
      ShellsProvisioned S.config config cluster resources (vmDetails proxmox config) := by
  have hnodes := nodes_agree_iff hconfig hlist hoverview
  obtain ⟨hlxcShell, hlxcFile⟩ := containers_agree_iff hconfig hlist hoverview
  obtain ⟨hvmShell, hvmFile⟩ := vms_agree_iff hconfig hlist hoverview
  generalize vmDetails proxmox config = details at hvmShell hvmFile ⊢
  constructor
  · intro h
    have hlxc := fun ct hct => lxcAgree_iff.mp (hlxcShell.mp h.lxcShell ct hct)
    have hvm := fun vm hmem => (@vmAgree_iff cluster resources S.config vm details).mp
      ⟨hvmShell.mp h.vmShell vm hmem, hvmFile.mp h.vmFile vm hmem⟩
    exact ⟨hnodes.mp h.node, fun ct hct => (hlxc ct hct).1, fun vm hmem => (hvm vm hmem).1,
      fun ct hct => (hlxc ct hct).2, fun vm hmem => (hvm vm hmem).2⟩
  · intro h
    have hlxc := fun ct hct => lxcAgree_iff.mpr ⟨h.lxc ct hct, h.lxcAgain ct hct⟩
    have hvm := fun vm hmem => (@vmAgree_iff cluster resources S.config vm details).mpr
      ⟨h.vm vm hmem, h.vmAgain vm hmem⟩
    exact ⟨hnodes.mpr h.node, hlxcShell.mpr hlxc, hlxcFile.mpr hlxc,
      hvmShell.mpr fun vm hmem => (hvm vm hmem).1, hvmFile.mpr fun vm hmem => (hvm vm hmem).2⟩

/-- A cluster whose node is mapped to the profile that `applyRuntimeShellSecret` writes. -/
def mappedCluster : ClusterConfig :=
  { exampleCluster with nodes := [⟨"pve", "10.0.0.1", 22, "__runtime_shell_default"⟩] }

/-- A service of that cluster, with or without the profile. -/
def mappedService (profiles : List SshProfileConfig) : Service where
  config := { clusters := [mappedCluster], sshProfiles := profiles }
  catalog := []

/-- What Proxmox answers in the examples: one node. -/
def oneNodeText : String :=
  "\x7b\"data\":[\x7b\"id\":\"node/pve\",\"type\":\"node\",\"node\":\"pve\"\x7d]\x7d"

def oneNode : RestRequest → String := fun _ => oneNodeText

/-- The resources that it lists. -/
def oneNodeResources : List ClusterResource :=
  [{ id := "node/pve", type := "node", node := some "pve" }]

omit [Text.Unicode] in
theorem unwrapData_oneNodeText : unwrapData (HttpReply.payload ⟨200, oneNodeText⟩) =
    .arr [.obj [("id", .str "node/pve"), ("type", .str "node"), ("node", .str "pve")]] := by
  decide +kernel

theorem listing_oneNode : Listing oneNode mappedCluster oneNodeResources := by
  obtain ⟨request, hb⟩ := exists_buildRequest mappedCluster "GET" "/cluster/resources" []
  rw [Listing, answerTo, hb]
  simp only [oneNode, unwrapData_oneNodeText]
  rfl

/-- The overview of the examples. -/
theorem exists_overview_oneNode (profiles : List SshProfileConfig) : ∃ summary,
    ((mappedService profiles).inventoryOverview "default" {} 0).endsIn (asking oneNode) =
      .ok summary := by
  have hconfig : getCluster (mappedService profiles).config "default" = .ok mappedCluster := rfl
  have hfilter : filterResources (answerTo oneNode mappedCluster "GET" "/cluster/resources") =
      .ok oneNodeResources := by
    rw [filterResources, show listResources _ = _ from listing_oneNode]
    rfl
  obtain ⟨node, hnode⟩ : ∃ node, oneNodeResources.mapM
      (nodeSummary (mappedService profiles).config "default" {}) = .ok [node] := ⟨_, rfl⟩
  refine ⟨⟨"default", answerTo oneNode mappedCluster "GET" "/version",
    answerTo oneNode mappedCluster "GET" "/cluster/status", [node], [], [],
    entriesOf "storage" (answerTo oneNode mappedCluster "GET" "/cluster/resources")⟩, ?_⟩
  refine endsIn_bind_ok.mpr ⟨_, endsIn_getClusterResources hconfig _, ?_⟩
  refine endsIn_bind_ok.mpr ⟨_, endsIn_apiRequest hconfig, ?_⟩
  refine endsIn_bind_ok.mpr ⟨_, endsIn_apiRequest hconfig, ?_⟩
  rw [hfilter, ofExcept_ok_bind]
  refine endsIn_bind_ok.mpr ⟨[node], (endsIn_ofExcept _).trans (congrArg Outcome.ofExcept hnode), ?_⟩
  rfl

omit [Text.Unicode] in
/-- Where the profile is loaded, the overview agrees. -/
theorem capabilities_agree_iff_loaded :
    letI := Text.asciiCase
    ∃ summary, ((mappedService [{ name := "__runtime_shell_default", username := "root" }]).inventoryOverview
        "default" {} 0).endsIn (asking oneNode) = .ok summary ∧
      CapabilitiesAgree (mappedService [{ name := "__runtime_shell_default", username := "root" }])
        oneNode "default" summary := by
  let := Text.asciiCase
  obtain ⟨summary, hsummary⟩ :=
    exists_overview_oneNode [{ name := "__runtime_shell_default", username := "root" }]
  refine ⟨summary, hsummary, (capabilities_agree_iff _ oneNode "default" {} 0 mappedCluster
    oneNodeResources summary rfl listing_oneNode hsummary).mpr ?_⟩
  constructor
  · intro entry hentry _
    obtain rfl := List.mem_singleton.mp hentry
    exact fun _ => ⟨_, rfl, rfl⟩
  · exact fun ct hct => nomatch hct
  · exact fun vm hvm => nomatch hvm
  · exact fun ct hct => nomatch hct
  · exact fun vm hvm => nomatch hvm

omit [Text.Unicode] in
/-- A node whose profile was never loaded is said to have a shell. -/
theorem capabilities_unloadedProfile :
    letI := Text.asciiCase
    ¬∀ (S : Service) (proxmox : RestRequest → String) (cluster : String)
      (options : InventoryOptions) (rounds : Nat) (config : ClusterConfig)
      (resources : List ClusterResource) (summary : ClusterSummary),
      getCluster S.config cluster = .ok config → Listing proxmox config resources →
      (S.inventoryOverview cluster options rounds).endsIn (asking proxmox) = .ok summary →
        CapabilitiesAgree S proxmox cluster summary := by
  let := Text.asciiCase
  intro h
  obtain ⟨summary, hsummary⟩ := exists_overview_oneNode []
  have hagree := h (mappedService []) oneNode "default" {} 0 mappedCluster oneNodeResources summary
    rfl listing_oneNode hsummary
  have hprovisioned := (nodes_agree_iff rfl listing_oneNode hsummary).mp hagree.node _
    List.mem_cons_self rfl
  obtain ⟨entry, hentry, hprofile⟩ := hprovisioned ⟨_, List.mem_cons_self, rfl⟩
  cases hprofile

end ProxmoxMcp
