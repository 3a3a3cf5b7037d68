/-
  File:      ProxmoxMcp/Tools.lean
  Subject:   THE TOOLS AND RESOURCES OF THE SERVER (`tools/*/register.ts`, `domain-services.ts`): what
             each registered tool does with the arguments its schema has let through, and what each
             resource reads.

  * `ToolCall` -- a call of one of the sixty tools, with its arguments;
  * `ToolCall.perform` -- what the handler does: the operations it calls, the job it starts, and the
    wait for that job;
  * `ResourceRead.perform` -- the same for the three resources.

  A handler is followed for what it does. The summary it returns is a copy of what it has read and
  is left out, and with it the artifact that a large content is published as.
-/
import ProxmoxMcp.Cancellation
import ProxmoxMcp.Timeouts
import ProxmoxMcp.TokenRotation
import ProxmoxMcp.RootDisk
import ProxmoxMcp.BootInspection
import ProxmoxMcp.Artifacts

namespace ProxmoxMcp

open Js Effects

variable [Text.Unicode]

/-! ## 1. Operations that only read -/

/-- `ClusterDomainService.getStatus`. -/
def Service.getClusterStatus (S : Service) (cluster : String) : M (Value × Value) := do
  let status ← S.proxmoxApiCall (clusterSite cluster) "GET" "/cluster/status" []
  let version ← S.proxmoxApiCall (clusterSite cluster) "GET" "/version" []
  return (status.data, version.data)

/-- A GET of the cluster. -/
def Service.clusterRead (S : Service) (cluster path : String)
    (args : List (String × Value) := []) : M ApiResult :=
  S.proxmoxApiCall (clusterSite cluster) "GET" path args

/-- `listPciMappings`. -/
def Service.listPciMappings (S : Service) (cluster : String) (checkNode : Option String) :
    M ApiResult :=
  S.clusterRead cluster "/cluster/mapping/pci"
    ((nonEmpty checkNode).map fun node => ("check-node", Value.str node)).toList

/-- `getPciMapping`. -/
def Service.getPciMapping (S : Service) (cluster id : String) : M ApiResult :=
  S.clusterRead cluster ("/cluster/mapping/pci/" ++ Url.encodeURIComponent id)

/-- `StorageDomainService.list`. -/
def Service.storageList (S : Service) (cluster : String) : M ApiResult :=
  S.clusterRead cluster "/storage"

/-- `StorageDomainService.get`. -/
def Service.storageGet (S : Service) (cluster storage : String) : M ApiResult :=
  S.clusterRead cluster ("/storage/" ++ storage)

/-- `listUsers`. -/
def Service.listUsers (S : Service) (cluster : String) : M ApiResult :=
  S.clusterRead cluster "/access/users"

/-- `backupJobs`. -/
def Service.backupJobs (S : Service) (cluster : String) : M ApiResult :=
  S.clusterRead cluster "/cluster/backup"

/-- `cephStatus`. -/
def Service.cephStatus (S : Service) (cluster : String) : M ApiResult :=
  S.clusterRead cluster "/cluster/ceph/status"

/-- `sdnList`. -/
def Service.sdnList (S : Service) (cluster : String) : M ApiResult :=
  S.clusterRead cluster "/cluster/sdn"

/-- A GET of a node. -/
def Service.nodeRead (S : Service) (cluster node suffix : String) : M ApiResult :=
  S.proxmoxApiCall (nodeSite cluster node) "GET" ("/nodes/" ++ node ++ suffix) []

/-- `NodeDomainService.get`. -/
def Service.nodeGet (S : Service) (cluster node : String) : M ApiResult :=
  S.nodeRead cluster node "/status"

/-- `listNetwork`. -/
def Service.listNetwork (S : Service) (cluster node : String) : M ApiResult :=
  S.nodeRead cluster node "/network"

/-- `taskList`. -/
def Service.taskList (S : Service) (cluster node : String) : M ApiResult :=
  S.nodeRead cluster node "/tasks"

/-- `taskGet`. -/
def Service.taskGet (S : Service) (cluster node upid : String) : M (Value × Value) := do
  let status ← S.getTaskStatus cluster node upid
  let log ← S.getTaskLog cluster node upid
  return (status, log)

/-- `LxcDomainService.get`. -/
def Service.lxcGet (S : Service) (cluster : String) (vmid rounds : Nat) :
    M (LxcSummary × Value × Value) := do
  let inventory ← S.inventoryOverview cluster {} rounds
  match inventory.lxcContainers.find? fun entry => entry.vmid = vmid with
  | none => throw s!"Container {vmid} not found in cluster {cluster}"
  | some container =>
    let target := guestSite cluster .lxc container.node vmid
    let status ← S.proxmoxApiCall target "GET"
      (guestEndpoint .lxc container.node vmid "/status/current") []
    let config ← S.proxmoxApiCall target "GET" (guestEndpoint .lxc container.node vmid "/config") []
    return (container, status.data, config.data)

/-- `listVmTemplates`. -/
def Service.listVmTemplates (S : Service) (cluster : String) : M (List Listed) := do
  let data ← S.getClusterResources (inventoryPurpose cluster) cluster true
  let resources ← Prog.ofExcept (filterResources data)
  return (guestsOf .qemu resources).filter fun guest => guest.entry.template = some 1

/-- `getVmTemplate`: the template and its configuration. -/
def Service.getVmTemplate (S : Service) (cluster : String) (vmid : Nat) : M (Listed × Value) := do
  let templates ← S.listVmTemplates cluster
  match templates.find? fun template => template.vmid = vmid with
  | none => throw s!"Template {vmid} not found in cluster {cluster}"
  | some template =>
    let config ← S.proxmoxApiCall (guestSite cluster .qemu template.node vmid) "GET"
      (guestEndpoint .qemu template.node vmid "/config") []
    return (template, config.data)

/-- The scopes of `proxmox_firewall_get`. -/
inductive FirewallScope where
  | cluster
  | node
  | qemu_vm
  | lxc_container
  deriving DecidableEq, Repr

/-- The sections of a firewall. -/
inductive FirewallSection where
  | options
  | rules
  | aliases
  | ipset
  | log
  | refs
  deriving DecidableEq, Repr

def FirewallSection.text : FirewallSection → String
  | .options => "options"
  | .rules => "rules"
  | .aliases => "aliases"
  | .ipset => "ipset"
  | .log => "log"
  | .refs => "refs"

/-- The target and the path of `proxmox_firewall_get`. -/
def firewallPath (cluster : String) (scope : FirewallScope) (node : Option String)
    (vmid : Option Nat) (part : FirewallSection) : Except String (TargetRef × String) :=
  let suffix := "/firewall/" ++ part.text
  match scope, nonEmpty node, vmid with
  | .cluster, _, _ => .ok (clusterSite cluster, "/cluster" ++ suffix)
  | .node, some node, _ => .ok (nodeSite cluster node, "/nodes/" ++ node ++ suffix)
  | .qemu_vm, some node, some vmid =>
      .ok (guestSite cluster .qemu node vmid, guestEndpoint .qemu node vmid suffix)
  | .lxc_container, some node, some vmid =>
      .ok (guestSite cluster .lxc node vmid, guestEndpoint .lxc node vmid suffix)
  | _, _, _ => .error "Invalid firewall scope arguments"

/-- `proxmox_firewall_get`. -/
def Service.firewallGet (S : Service) (cluster : String) (scope : FirewallScope)
    (node : Option String) (vmid : Option Nat) (part : FirewallSection) : M ApiResult := do
  let (target, path) ← Prog.ofExcept (firewallPath cluster scope node vmid part)
  S.proxmoxApiCall target "GET" path []

/-! ## 2. Console tickets -/

/-- The targets of `proxmox_console_ticket`. -/
inductive ConsoleTarget where
  | node
  | qemu_vm
  | lxc_container
  deriving DecidableEq, Repr

/-- `ConsoleScope`. -/
inductive ConsoleScope where
  | shell
  | vnc
  deriving DecidableEq, Repr

/-- The target and the path of a ticket. -/
def consolePath (cluster : String) (targetKind : ConsoleTarget) (node : Option String)
    (vmid : Option Nat) (scope : ConsoleScope) : Except String (TargetRef × String) :=
  let proxy := if scope = .vnc then "/vncproxy" else "/termproxy"
  match targetKind, nonEmpty node, vmid with
  | .node, some node, _ =>
      .ok (nodeSite cluster node,
        "/nodes/" ++ node ++ (if scope = .vnc then "/vncshell" else "/termproxy"))
  | .qemu_vm, some node, some vmid =>
      .ok (guestSite cluster .qemu node vmid, guestEndpoint .qemu node vmid proxy)
  | .lxc_container, some node, some vmid =>
      .ok (guestSite cluster .lxc node vmid, guestEndpoint .lxc node vmid proxy)
  | _, _, _ => .error "Unsupported console target"

/-- `consoleTicket`. -/
def Service.consoleTicket (S : Service) (cluster : String) (targetKind : ConsoleTarget)
    (node : Option String) (vmid : Option Nat) (scope : ConsoleScope) : M ApiResult := do
  let (target, path) ← Prog.ofExcept (consolePath cluster targetKind node vmid scope)
  S.proxmoxApiCall target "POST" path []

/-! ## 3. Artifacts as input -/

/-- `readArtifactBuffer`. -/
def Service.readArtifactBuffer (S : Service) (reference : ArtifactReference) : M (List UInt8) := do
  let artifactId ← Prog.ofExcept (resolveArtifactId reference)
  match ← (attempt (.getArtifact artifactId)
      (show _ = Except String ArtifactBacking from rfl) : M ArtifactBacking) with
  | .memory data => return data
  | .temp_file path | .local_file path =>
      attempt (.readFile path) (show _ = Except String (List UInt8) from rfl)
  | .proxmox_file target filePath => return (← S.proxmoxFileReadBytes target filePath).1

/-- `readArtifactText`. -/
def Service.readArtifactText (S : Service) (reference : ArtifactReference) : M String := do
  let buffer ← S.readArtifactBuffer reference
  return String.ofList (Utf8.decode buffer)

/-- The content that a writing tool is given: text, or a reference to an artifact. -/
structure ContentInput where
  content : Option String := none
  artifact : ArtifactReference := {}

/-- `artifactId || resourceUri`. -/
def ContentInput.refers (input : ContentInput) : Bool :=
  (nonEmpty input.artifact.artifactId).isSome || (nonEmpty input.artifact.resourceUri).isSome

/-- The text of a snippet that is put. -/
def Service.snippetContent (S : Service) (input : ContentInput) : M String :=
  if input.refers then S.readArtifactText input.artifact
  else match input.content with
    | some content => return content
    | none => throw "Snippet write requires content, artifactId, or resourceUri"

/-- `proxmox_cloud_init_snippet_put`. -/
def Service.snippetPutTool (S : Service) (cluster : String) (node storage : Option String)
    (snippetPath : String) (input : ContentInput) : M CloudInitSnippetRef := do
  let content ← S.snippetContent input
  S.putCloudInitSnippet cluster node storage snippetPath content

/-- `proxmox_file_write`. -/
def Service.fileWriteTool (S : Service) (target : TargetRef) (filePath : String)
    (input : ContentInput) : M String :=
  if input.refers then do
    let data ← S.readArtifactBuffer input.artifact
    S.proxmoxFileWriteBytes target filePath data
  else match input.content with
    | some content => S.proxmoxFileWrite target filePath content
    | none => throw "File write requires content, artifactId, or resourceUri"

/-! ## 4. Arguments -/

/-- The target kinds of the shell and file tools. -/
inductive ToolTargetKind where
  | node
  | qemu_vm
  | lxc_container
  | linux_guest
  | windows_guest
  deriving DecidableEq, Repr

def ToolTargetKind.kind : ToolTargetKind → TargetKind
  | .node => .node
  | .qemu_vm => .qemu_vm
  | .lxc_container => .lxc_container
  | .linux_guest => .linux_guest
  | .windows_guest => .windows_guest

/-- What the shell and file tools are told about their target. -/
structure ToolTarget where
  cluster : String
  targetKind : ToolTargetKind
  node : Option String := none
  vmid : Option Nat := none

/-- `{ cluster, kind: targetKind, ...(node ? { node } : {}), ...(vmid !== undefined ? { vmid } : {}) }`. -/
def ToolTarget.target (t : ToolTarget) : TargetRef where
  cluster := t.cluster
  kind := t.targetKind.kind
  node := nonEmpty t.node
  vmid := t.vmid

/-- The entry of an argument that may be missing. -/
def optionalArg {α : Type} (key : String) (value : α → Value) (arg : Option α) :
    List (String × Value) :=
  (arg.map fun a => (key, value a)).toList

/-- A list of strings as an argument. -/
def stringsValue (xs : List String) : Value := .arr (xs.map .str)

/-- The arguments of `proxmox_pci_mapping_create` and, with a map that may be missing, of
    `proxmox_pci_mapping_update`. -/
structure PciMappingArgs where
  id : String
  map : Option (List String) := none
  description : Option String := none
  mdev : Option Bool := none
  liveMigrationCapable : Option Bool := none
  delete : Option String := none
  digest : Option String := none

/-- The arguments as they go to Proxmox. -/
def PciMappingArgs.toArgs (args : PciMappingArgs) : List (String × Value) :=
  [("id", .str args.id)] ++ optionalArg "map" stringsValue args.map ++
    optionalArg "description" .str args.description ++ optionalArg "mdev" .bool args.mdev ++
    optionalArg "live-migration-capable" .bool args.liveMigrationCapable ++
    optionalArg "delete" .str args.delete ++ optionalArg "digest" .str args.digest

/-- The actions of `proxmox_node_action`. -/
inductive NodeActionName where
  | reboot
  | shutdown
  | wakeonlan
  | startall
  | stopall
  | suspendall
  | migrateall
  deriving DecidableEq, Repr

def NodeActionName.text : NodeActionName → String
  | .reboot => "reboot"
  | .shutdown => "shutdown"
  | .wakeonlan => "wakeonlan"
  | .startall => "startall"
  | .stopall => "stopall"
  | .suspendall => "suspendall"
  | .migrateall => "migrateall"

/-- The actions of `proxmox_vm_action`; those of `proxmox_lxc_action` are the same without
    `reset`. -/
inductive GuestActionName where
  | start
  | stop
  | shutdown
  | reboot
  | reset
  | suspend
  | resume
  deriving DecidableEq, Repr

def GuestActionName.text : GuestActionName → String
  | .start => "start"
  | .stop => "stop"
  | .shutdown => "shutdown"
  | .reboot => "reboot"
  | .reset => "reset"
  | .suspend => "suspend"
  | .resume => "resume"

/-- The modes of `proxmox_backup_start`. -/
inductive BackupMode where
  | snapshot
  | suspend
  | stop
  deriving DecidableEq, Repr

def BackupMode.text : BackupMode → String
  | .snapshot => "snapshot"
  | .suspend => "suspend"
  | .stop => "stop"

/-- The arguments of `proxmox_backup_start`. -/
structure BackupArgs where
  vmid : Option (List Nat) := none
  storage : Option String := none
  mode : Option BackupMode := none
  compress : Option String := none

/-- `vmid.join(",")`. -/
def joinVmids (vmids : List Nat) : String :=
  String.ofList (Text.joinWith [','] (vmids.map fun vmid => (toString vmid).toList))

/-- The arguments as they go to Proxmox. -/
def BackupArgs.toArgs (args : BackupArgs) : List (String × Value) :=
  optionalArg "vmid" (fun vmids => .str (joinVmids vmids)) args.vmid ++
    optionalArg "storage" .str (nonEmpty args.storage) ++
    optionalArg "mode" (fun mode => .str mode.text) args.mode ++
    optionalArg "compress" .str (nonEmpty args.compress)

/-- The flags of `proxmox_vm_destroy`. -/
structure DestroyArgs where
  destroyUnreferencedDisks : Option Bool := none
  purge : Option Bool := none
  skiplock : Option Bool := none

/-- The flags as they go to Proxmox. -/
def DestroyArgs.toArgs (args : DestroyArgs) : List (String × Value) :=
  optionalArg "destroy-unreferenced-disks" .bool args.destroyUnreferencedDisks ++
    optionalArg "purge" .bool args.purge ++ optionalArg "skiplock" .bool args.skiplock

/-- `timeoutMs`, as the operations take it. -/
def Execution.timeout (execution : Execution) : Option Number :=
  execution.timeoutMs.map fun ms => .rat ms

/-! ## 5. The tools -/

/-- **A call of a tool.** The tools are named as in the registrations, without `proxmox_`. -/
inductive ToolCall where
  | inventoryOverview (cluster : String) (probeRemote forceRefresh : Bool)
  | clusterStatus (cluster : String)
  | pciMappingList (cluster : String) (checkNode : Option String)
  | pciMappingGet (cluster id : String)
  | pciMappingCreate (cluster id : String) (map : List String) (description : Option String)
      (mdev liveMigrationCapable : Option Bool)
  | pciMappingUpdate (cluster : String) (args : PciMappingArgs)
  | pciMappingDelete (cluster id : String)
  | nodeList (cluster : String)
  | nodeGet (cluster node : String)
  | nodeAction (cluster node : String) (action : NodeActionName) (args : List (String × Value))
  | networkList (cluster node : String)
  | nodeTerminalRun (cluster node : String) (input : ShellInput)
  | vmList (cluster : String)
  | vmGet (cluster : String) (vmid : Nat)
  | vmGuestAgentDiagnose (cluster : String) (vmid : Nat) (node : Option String)
  | vmAgentPing (cluster : String) (vmid : Nat) (node : Option String)
  | vmAgentInfo (cluster : String) (vmid : Nat) (node : Option String)
  | vmAction (cluster : String) (vmid : Nat) (action : GuestActionName)
      (args : List (String × Value))
  | vmGuestExec (cluster : String) (vmid : Nat) (command : String) (interpreter : Interpreter)
  | vmTemplateList (cluster : String)
  | vmTemplateGet (cluster : String) (vmid : Nat)
  | vmCreate (cluster node : String) (vmid : Nat) (args : List (String × Value))
  | vmUpdateConfig (cluster : String) (vmid : Nat) (node : Option String)
      (args : List (String × Value))
  | vmPciAttach (cluster : String) (vmid : Nat) (node : Option String)
      (options : VmPciPassthroughOptions)
  | vmPciDetach (cluster : String) (vmid : Nat) (node : Option String) (slot : Nat)
  | vmConvertToTemplate (cluster : String) (vmid : Nat) (node disk : Option String)
  | vmClone (cluster : String) (vmid : Nat) (node : Option String) (options : VmCloneOptions)
  | vmDestroy (cluster : String) (vmid : Nat) (node : Option String) (args : DestroyArgs)
  | vmBootDiagnose (cluster : String) (vmid : Nat) (node : Option String)
  | lxcList (cluster : String)
  | lxcGet (cluster : String) (vmid : Nat)
  | lxcAction (cluster : String) (vmid : Nat) (action : GuestActionName)
      (args : List (String × Value))
  | storageList (cluster : String)
  | storageGet (cluster storage : String)
  | storageDownloadUrl (cluster node storage : String) (options : StorageDownloadUrlOptions)
  | cloudInitSnippetList (cluster : String) (node storage : Option String)
  | cloudInitSnippetGet (cluster : String) (node storage : Option String) (snippetPath : String)
  | cloudInitSnippetPut (cluster : String) (node storage : Option String) (snippetPath : String)
      (input : ContentInput)
  | cloudInitSnippetDelete (cluster : String) (node storage : Option String) (snippetPath : String)
  | vmCloudInitDump (cluster : String) (vmid : Nat) (part : CloudInitSection)
  | userList (cluster : String)
  | firewallGet (cluster : String) (scope : FirewallScope) (node : Option String)
      (vmid : Option Nat) (part : FirewallSection)
  | backupJobs (cluster : String)
  | backupStart (cluster node : String) (args : BackupArgs)
  | cephStatus (cluster : String)
  | sdnList (cluster : String)
  | taskList (cluster node : String)
  | taskGet (cluster node upid : String)
  | consoleTicket (cluster : String) (targetKind : ConsoleTarget) (node : Option String)
      (vmid : Option Nat) (scope : ConsoleScope)
  | apiCall (call : RawCall)
  | cliRun (cluster node family : String) (args : List String) (rawCommand : Option String)
  | shellRun (target : ToolTarget) (input : ShellInput)
  | fileRead (target : ToolTarget) (filePath : String)
  | fileWrite (target : ToolTarget) (filePath : String) (input : ContentInput)
  | jobGet (jobId : String)
  | jobWait (jobId : String) (timeoutMs : Option Nat)
  | jobCancel (jobId : String)
  | jobLogs (jobId : String) (limit : Nat)
  | bootstrapNodeAccess (cluster node : String) (options : BootstrapNodeAccessOptions)
  | capabilities

/-- A VM as the target of a tool: its node is there where the client gave one. -/
def vmTarget (cluster : String) (vmid : Nat) (node : Option String) : TargetRef :=
  { cluster := cluster, kind := .qemu_vm, node := nonEmpty node, vmid := some vmid }

/-- A job of this process, started and waited for. -/
def CommandJob.tool (S : Service) (execution : Execution) (job : CommandJob)
    (finished running : String) : M Unit := do
  let jobId : String ← Prog.perform Effect.newJobId
  let record ← createJob (newJob jobId job.target job.operation)
  awaited (runAndSettle execution record (job.executor S execution) finished running)

/-- A PCI update as the tools report it: the slot, and its value where it is attached. -/
structure PciUpdate where
  cluster : String
  vmid : Nat
  slot : Nat
  configValue : Option String := none

/-- `VmPciPassthroughResult` of an update by REST. -/
def PciUpdate.result (update : PciUpdate) (node : String) (response : ApiResult) :
    List (String × Value) :=
  [("cluster", .str update.cluster), ("node", .str node), ("vmid", .nat update.vmid),
    ("slot", .nat update.slot), ("configKey", .str (hostpciKey update.slot))] ++
    optionalArg "configValue" .str update.configValue ++
    [("appliedVia", .str "rest"), ("data", response.data), ("upid", optionText response.upid)]

/-- The end of the PCI tools: the VM is read again once the update is through. -/
def Service.pciTool (S : Service) (execution : Execution) (update : PciUpdate)
    (applied : String × PciApplied) (operation finished running : String) : M Unit :=
  let read := S.qemuGet update.cluster update.vmid execution.rounds
  match applied with
  | (node, .rest ⟨data, some upid⟩) => do
      let target := guestSite update.cluster .qemu node update.vmid
      let job ← createJob (newUpidJob target operation upid)
      awaited (runAndSettle execution job (do
        let task ← S.upidExecutor execution update.cluster upid
        let latest ← read
        return .obj (update.result node ⟨data, some upid⟩ ++
          [("task", task), ("config", latest.2.2)])) finished running)
  | _ => awaited read

/-- `proxmox_vm_pci_attach`. -/
def Service.vmPciAttachTool (S : Service) (execution : Execution) (cluster : String) (vmid : Nat)
    (node : Option String) (options : VmPciPassthroughOptions) : M Unit :=
  if (nonEmpty options.host).isSome = (nonEmpty options.mapping).isSome then
    throw "PCI attach requires exactly one of host or mapping."
  else do
    let applied ← S.vmAttachPciDevice cluster vmid options node
    S.pciTool execution ⟨cluster, vmid, options.slot, some (buildHostpciConfigValue options)⟩ applied
      "vm:pci_attach" s!"VM {vmid} PCI slot {options.slot} attach finished"
      s!"VM {vmid} PCI slot {options.slot} attaching"

/-- `proxmox_vm_pci_detach`. -/
def Service.vmPciDetachTool (S : Service) (execution : Execution) (cluster : String) (vmid : Nat)
    (node : Option String) (slot : Nat) : M Unit := do
  let applied ← S.vmDetachPciDevice cluster vmid slot node
  S.pciTool execution ⟨cluster, vmid, slot, none⟩ applied "vm:pci_detach"
    s!"VM {vmid} PCI slot {slot} detach finished" s!"VM {vmid} PCI slot {slot} detaching"

/-- The script that `diagnoseVmBoot` runs on a node. -/
def bootInspectionScript (vmid : Nat) (config : Value) : String :=
  let options := match config with
    | .obj ps => ps
    | _ => []
  buildOfflineVmBootInspectionScript ("/dev/pve/" ++ inferRootDiskVolumeId vmid options) vmid

/-- The end of a tool whose request may start a task. -/
def Service.taskTool (S : Service) (execution : Execution) (target : TargetRef)
    (operation : String) (request : M ApiResult) (done finished running : String) : M Unit := do
  let response ← request
  awaited (S.taskResult execution target operation response done finished running)

/-- **What the handler of a tool does.** -/
def ToolCall.perform (S : Service) (execution : Execution) : ToolCall → M Unit
  | .inventoryOverview cluster probeRemote forceRefresh =>
      awaited (S.inventoryOverview cluster ⟨probeRemote, forceRefresh⟩ execution.rounds)
  | .clusterStatus cluster => awaited (S.getClusterStatus cluster)
  | .pciMappingList cluster checkNode => awaited (S.listPciMappings cluster checkNode)
  | .pciMappingGet cluster id => awaited (S.getPciMapping cluster id)
  | .pciMappingCreate cluster id map description mdev liveMigrationCapable =>
      let args : PciMappingArgs :=
        { id := id
          map := some map
          description := description
          mdev := mdev
          liveMigrationCapable := liveMigrationCapable }
      awaited (S.createPciMapping execution.timeout cluster args.toArgs).erase
  | .pciMappingUpdate cluster args =>
      awaited (S.updatePciMapping execution.timeout cluster args.id args.toArgs).erase
  | .pciMappingDelete cluster id => awaited (S.deletePciMapping execution.timeout cluster id).erase
  | .nodeList cluster => awaited (S.inventoryOverview cluster {} execution.rounds)
  | .nodeGet cluster node => awaited (S.nodeGet cluster node)
  | .nodeAction cluster node action args =>
      S.taskTool execution (nodeSite cluster node) ("node:" ++ action.text)
        (S.nodeAction execution.timeout cluster node action.text args).erase
        s!"Node action {action.text} completed" s!"Node action {action.text} finished"
        s!"Node action {action.text} running"
  | .networkList cluster node => awaited (S.listNetwork cluster node)
  | .nodeTerminalRun cluster node input =>
      (CommandJob.nodeTerminalRun cluster node input).tool S execution
        s!"Node terminal command finished on {node}" s!"Node terminal command running on {node}"
  | .vmList cluster => awaited (S.inventoryOverview cluster {} execution.rounds)
  | .vmGet cluster vmid => awaited (S.qemuGet cluster vmid execution.rounds)
  | .vmGuestAgentDiagnose cluster vmid node =>
      awaited (S.diagnoseGuestAgent execution.timeout cluster vmid node execution.rounds).erase
  | .vmAgentPing cluster vmid node =>
      awaited (S.agentPing execution.timeout cluster vmid node execution.rounds).erase
  | .vmAgentInfo cluster vmid node =>
      awaited (S.agentInfo execution.timeout cluster vmid node execution.rounds).erase
  | .vmAction cluster vmid action args =>
      S.taskTool execution (vmTarget cluster vmid none) ("vm:" ++ action.text)
        (S.vmAction cluster vmid action.text args) s!"VM action {action.text} completed"
        s!"VM action {action.text} finished" s!"VM action {action.text} running"
  | .vmGuestExec cluster vmid command interpreter =>
      (CommandJob.vmGuestExec cluster vmid command interpreter).tool S execution
        "VM guest command finished" "VM guest command running"
  | .vmTemplateList cluster => awaited (S.listVmTemplates cluster)
  | .vmTemplateGet cluster vmid => awaited (S.getVmTemplate cluster vmid)
  | .vmCreate cluster node vmid args =>
      S.taskTool execution (nodeSite cluster node) "vm:create" (S.vmCreate cluster node vmid args)
        s!"VM {vmid} created" s!"VM {vmid} creation finished" s!"VM {vmid} creating"
  | .vmUpdateConfig cluster vmid node args =>
      S.taskTool execution (vmTarget cluster vmid node) "vm:update_config"
        (S.vmUpdateConfigWithin execution.timeout cluster vmid args node).erase
        s!"VM {vmid} config updated" s!"VM {vmid} config update finished"
        s!"VM {vmid} config updating"
  | .vmPciAttach cluster vmid node options => S.vmPciAttachTool execution cluster vmid node options
  | .vmPciDetach cluster vmid node slot => S.vmPciDetachTool execution cluster vmid node slot
  | .vmConvertToTemplate cluster vmid node disk =>
      S.taskTool execution (vmTarget cluster vmid node) "vm:convert_to_template"
        (S.vmConvertToTemplate cluster vmid (optionalArg "disk" .str (nonEmpty disk)) node)
        s!"VM {vmid} converted to template" s!"VM {vmid} template conversion finished"
        s!"VM {vmid} converting to template"
  | .vmClone cluster vmid node options =>
      S.taskTool execution (vmTarget cluster vmid node) "vm:clone"
        (S.vmClone cluster vmid options node) s!"VM {vmid} cloned to {options.newid}"
        s!"VM {vmid} clone to {options.newid} finished" s!"VM {vmid} cloning to {options.newid}"
  | .vmDestroy cluster vmid node args =>
      S.taskTool execution (vmTarget cluster vmid node) "vm:destroy"
        (S.vmDestroy cluster vmid args.toArgs node) s!"VM {vmid} destroyed"
        s!"VM {vmid} destroy finished" s!"VM {vmid} destroying"
  | .vmBootDiagnose cluster vmid node =>
      awaited (S.diagnoseVmBoot execution.timeout cluster vmid node bootInspectionScript
        execution.rounds).erase
  | .lxcList cluster => awaited (S.inventoryOverview cluster {} execution.rounds)
  | .lxcGet cluster vmid => awaited (S.lxcGet cluster vmid execution.rounds)
  | .lxcAction cluster vmid action args =>
      S.taskTool execution { cluster := cluster, kind := .lxc_container, vmid := some vmid }
        ("lxc:" ++ action.text) (S.lxcAction cluster vmid action.text args)
        s!"LXC action {action.text} completed" s!"LXC action {action.text} finished"
        s!"LXC action {action.text} running"
  | .storageList cluster => awaited (S.storageList cluster)
  | .storageGet cluster storage => awaited (S.storageGet cluster storage)
  | .storageDownloadUrl cluster node storage options =>
      S.taskTool execution (nodeSite cluster node) "storage:download_url"
        (S.storageDownloadUrl execution.timeout cluster node storage options).erase
        s!"Storage download to {storage} completed" s!"Storage download to {storage} finished"
        s!"Storage download to {storage} running"
  | .cloudInitSnippetList cluster node storage =>
      awaited (S.listCloudInitSnippets cluster node storage)
  | .cloudInitSnippetGet cluster node storage snippetPath =>
      awaited (S.getCloudInitSnippet cluster node storage snippetPath)
  | .cloudInitSnippetPut cluster node storage snippetPath input =>
      awaited (S.snippetPutTool cluster node storage snippetPath input)
  | .cloudInitSnippetDelete cluster node storage snippetPath =>
      awaited (S.deleteCloudInitSnippet cluster node storage snippetPath)
  | .vmCloudInitDump cluster vmid part => awaited (S.dumpVmCloudInit cluster vmid part)
  | .userList cluster => awaited (S.listUsers cluster)
  | .firewallGet cluster scope node vmid part =>
      awaited (S.firewallGet cluster scope node vmid part)
  | .backupJobs cluster => awaited (S.backupJobs cluster)
  | .backupStart cluster node args =>
      S.taskTool execution (nodeSite cluster node) "backup:start"
        (S.proxmoxApiCall (nodeSite cluster node) "POST" ("/nodes/" ++ node ++ "/vzdump")
          args.toArgs) s!"Backup started on {node}" "Backup finished" "Backup running"
  | .cephStatus cluster => awaited (S.cephStatus cluster)
  | .sdnList cluster => awaited (S.sdnList cluster)
  | .taskList cluster node => awaited (S.taskList cluster node)
  | .taskGet cluster node upid => awaited (S.taskGet cluster node upid)
  | .consoleTicket cluster targetKind node vmid scope =>
      awaited (S.consoleTicket cluster targetKind node vmid scope)
  | .apiCall call => awaited (S.proxmoxApiCallTool execution call)
  | .cliRun cluster node family args rawCommand =>
      (CommandJob.cliRun cluster node family args rawCommand).tool S execution
        s!"CLI {family} finished" s!"CLI {family} running"
  | .shellRun target input =>
      (CommandJob.shellRun target.target input).tool S execution "Shell command finished"
        "Shell command running"
  | .fileRead target filePath => awaited (S.proxmoxFileReadBytes target.target filePath)
  | .fileWrite target filePath input => awaited (S.fileWriteTool target.target filePath input)
  | .jobGet jobId => awaited (S.jobGet jobId)
  | .jobWait jobId timeoutMs => awaited (S.jobWait jobId timeoutMs execution.rounds)
  | .jobCancel jobId => awaited (S.jobCancel jobId)
  | .jobLogs jobId limit => awaited (S.jobLogs jobId limit)
  | .bootstrapNodeAccess cluster node options =>
      awaited (S.bootstrapNodeAccess cluster node options)
  | .capabilities => pure ()

/-- The name under which a tool is registered. -/
def ToolCall.name : ToolCall → String
  | .inventoryOverview .. => "proxmox_inventory_overview"
  | .clusterStatus .. => "proxmox_cluster_status"
  | .pciMappingList .. => "proxmox_pci_mapping_list"
  | .pciMappingGet .. => "proxmox_pci_mapping_get"
  | .pciMappingCreate .. => "proxmox_pci_mapping_create"
  | .pciMappingUpdate .. => "proxmox_pci_mapping_update"
  | .pciMappingDelete .. => "proxmox_pci_mapping_delete"
  | .nodeList .. => "proxmox_node_list"
  | .nodeGet .. => "proxmox_node_get"
  | .nodeAction .. => "proxmox_node_action"
  | .networkList .. => "proxmox_network_list"
  | .nodeTerminalRun .. => "proxmox_node_terminal_run"
  | .vmList .. => "proxmox_vm_list"
  | .vmGet .. => "proxmox_vm_get"
  | .vmGuestAgentDiagnose .. => "proxmox_vm_guest_agent_diagnose"
  | .vmAgentPing .. => "proxmox_vm_agent_ping"
  | .vmAgentInfo .. => "proxmox_vm_agent_info"
  | .vmAction .. => "proxmox_vm_action"
  | .vmGuestExec .. => "proxmox_vm_guest_exec"
  | .vmTemplateList .. => "proxmox_vm_template_list"
  | .vmTemplateGet .. => "proxmox_vm_template_get"
  | .vmCreate .. => "proxmox_vm_create"
  | .vmUpdateConfig .. => "proxmox_vm_update_config"
  | .vmPciAttach .. => "proxmox_vm_pci_attach"
  | .vmPciDetach .. => "proxmox_vm_pci_detach"
  | .vmConvertToTemplate .. => "proxmox_vm_convert_to_template"
  | .vmClone .. => "proxmox_vm_clone"
  | .vmDestroy .. => "proxmox_vm_destroy"
  | .vmBootDiagnose .. => "proxmox_vm_boot_diagnose"
  | .lxcList .. => "proxmox_lxc_list"
  | .lxcGet .. => "proxmox_lxc_get"
  | .lxcAction .. => "proxmox_lxc_action"
  | .storageList .. => "proxmox_storage_list"
  | .storageGet .. => "proxmox_storage_get"
  | .storageDownloadUrl .. => "proxmox_storage_download_url"
  | .cloudInitSnippetList .. => "proxmox_cloud_init_snippet_list"
  | .cloudInitSnippetGet .. => "proxmox_cloud_init_snippet_get"
  | .cloudInitSnippetPut .. => "proxmox_cloud_init_snippet_put"
  | .cloudInitSnippetDelete .. => "proxmox_cloud_init_snippet_delete"
  | .vmCloudInitDump .. => "proxmox_vm_cloud_init_dump"
  | .userList .. => "proxmox_user_list"
  | .firewallGet .. => "proxmox_firewall_get"
  | .backupJobs .. => "proxmox_backup_jobs"
  | .backupStart .. => "proxmox_backup_start"
  | .cephStatus .. => "proxmox_ceph_status"
  | .sdnList .. => "proxmox_sdn_list"
  | .taskList .. => "proxmox_task_list"
  | .taskGet .. => "proxmox_task_get"
  | .consoleTicket .. => "proxmox_console_ticket"
  | .apiCall .. => "proxmox_api_call"
  | .cliRun .. => "proxmox_cli_run"
  | .shellRun .. => "proxmox_shell_run"
  | .fileRead .. => "proxmox_file_read"
  | .fileWrite .. => "proxmox_file_write"
  | .jobGet .. => "job_get"
  | .jobWait .. => "job_wait"
  | .jobCancel .. => "job_cancel"
  | .jobLogs .. => "job_logs"
  | .bootstrapNodeAccess .. => "proxmox_bootstrap_node_access"
  | .capabilities => "proxmox_capabilities"

/-! ## 6. The resources -/

/-- A read of one of the resources; the parameter is the one in the URI. -/
inductive ResourceRead where
  | artifact (artifactId : String)
  | inventory (cluster : String)
  | jobLog (jobId : String)

/-- `readResource`: the record is looked up, and again for its content. -/
def Service.artifactResource (S : Service) (artifactId : String) : M (List UInt8) := do
  if artifactId.isEmpty then throw "Missing artifactId parameter"
  let _ : ArtifactBacking ← attempt (.getArtifact artifactId)
    (show _ = Except String ArtifactBacking from rfl)
  S.readArtifactBuffer { artifactId := some artifactId }

/-- `inventory-resource`. -/
def Service.inventoryResource (S : Service) (cluster : String) (rounds : Nat) :
    M ClusterSummary := do
  if cluster.isEmpty then throw "Missing cluster parameter"
  S.inventoryOverview cluster { forceRefresh := true } rounds

/-- What a read of a resource does. -/
def ResourceRead.perform (S : Service) (rounds : Nat) : ResourceRead → M Unit
  | .artifact artifactId => awaited (S.artifactResource artifactId)
  | .inventory cluster => awaited (S.inventoryResource cluster rounds)
  | .jobLog jobId => awaited (S.jobLogResource jobId)

end ProxmoxMcp
