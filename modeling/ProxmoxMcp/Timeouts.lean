/-
  File:      ProxmoxMcp/Timeouts.lean
  Subject:   THE TIMEOUTS OF THE OPERATIONS: what each operation that accepts a `timeoutMs` hands
             to the transports it uses, and `PolicyService.clampTimeout`, which none of them calls.

  The operations of the other modules leave the timeout out, as nothing else depends on it. Here
  they are written again with the timeout they pass on, an effect being marked with what is handed
  to its transport; without the marks they are the operations of those modules (section 6).

  `proxmoxApiCall` passes the timeout it is given to its request, and to the second request after
  a repair. Nothing else is given one: not the lookups and the agent requests, whose callers pass
  no `timeoutMs`, and not the executors of commands, which take none. A ticket login is part of
  the transport, which shows it no timeout either.
-/
import ProxmoxMcp.InventoryCache
import ProxmoxMcp.RawCalls
import ProxmoxMcp.Lib.Marks

namespace ProxmoxMcp

open Js Effects Prog

variable [Text.Unicode]

/-! ## 1. What is handed to a transport -/

/-- Which call of an operation an effect belongs to. -/
inductive Origin where
  /-- the call of `proxmoxApiCall` that the operation gives its `timeoutMs` -/
  | apiCall
  /-- any other call: none of them is given a timeout -/
  | aside
  deriving DecidableEq, Repr

/-- What goes along with an effect. -/
structure Handover where
  origin : Origin
  timeoutMs : Option Number
  deriving DecidableEq

/-- An operation that accepts a timeout. -/
abbrev TimedM (α : Type) : Type :=
  Prog (Marked Effect Handover) (MarkedReply Effect.Reply Handover) String α

/-- A call that is given no timeout. -/
def untimed {α : Type} (p : M α) : TimedM α := p.mark fun _ => ⟨.aside, none⟩

/-- The target of what goes to a transport: a REST request or a command. -/
def Effect.handedFor : Effect → Option TargetRef
  | .send sent => some sent.purpose.target
  | .exec command => some command.purpose.target
  | _ => none

/-- `options.timeoutMs ? setTimeout(…, options.timeoutMs) : undefined`. -/
def timerOf (timeoutMs : Option Number) : Option Number :=
  timeoutMs.filter fun n => (Value.num n).truthy

/-! ## 2. REST -/

/-- `request` with `options.timeoutMs`. -/
def Service.requestWithin (S : Service) (timeoutMs : Option Number) (purpose : Purpose)
    (clusterName method pathname : String) (args : List (String × Value)) : TimedM Value := do
  let cluster ← Prog.ofExcept (getCluster S.config clusterName)
  let request ← Prog.ofExcept (buildRequest cluster method pathname args)
  untimed (buildHeaders clusterName cluster)
  let reply ← (attempt (.send ⟨purpose, clusterName, request⟩)
    (show _ = Except String HttpReply from rfl) : M HttpReply).mark
    fun _ => ⟨.apiCall, timeoutMs⟩
  Prog.ofExcept (readReply method pathname reply)

/-- `apiRequest` with `allowRepair = false`. -/
def Service.apiRequestFinalWithin (S : Service) (timeoutMs : Option Number) (purpose : Purpose)
    (clusterName method path : String) (args : List (String × Value)) : TimedM Value := do
  untimed (S.ensureCluster clusterName)
  S.requestWithin timeoutMs purpose clusterName method path args

/-- `apiRequest`. -/
def Service.apiRequestWithin (S : Service) (timeoutMs : Option Number) (purpose : Purpose)
    (clusterName method path : String) (args : List (String × Value)) : TimedM Value := do
  untimed (S.ensureCluster clusterName)
  tryCatch (S.requestWithin timeoutMs purpose clusterName method path args) fun m => do
    if S.hasManagedCluster clusterName && isApiAuthError m then
      untimed (attempt (.repairCluster clusterName "api_auth_failure")
        (show _ = Except String Unit from rfl))
      S.apiRequestFinalWithin timeoutMs purpose clusterName method path args
    else throw m

/-- `proxmoxApiCall`. -/
def Service.proxmoxApiCallWithin (S : Service) (timeoutMs : Option Number) (target : TargetRef)
    (method path : String) (args : List (String × Value)) : TimedM ApiResult := do
  untimed (S.assertPermission target (.api method))
  let validated ← Prog.ofExcept (validate S.catalog method path args)
  untimed (S.auditRecord "proxmox_api_call" target
    [("method", .str method), ("path", .str path), ("args", .obj validated.args)])
  let data ← S.apiRequestWithin timeoutMs ⟨.direct, target, none⟩ target.cluster method path
    validated.args
  return ⟨data, isUpid data⟩

/-! ## 3. The operations -/

/-- `{ ...defaults, ...args }`. -/
def spread (defaults args : List (String × Value)) : List (String × Value) :=
  args.foldl (fun ps arg => setKey arg.1 arg.2 ps) defaults

/-- The target of the operations on a whole cluster. -/
def clusterSite (cluster : String) : TargetRef := { cluster := cluster, kind := .cluster }

/-- `createPciMapping`. -/
def Service.createPciMapping (S : Service) (timeoutMs : Option Number) (cluster : String)
    (args : List (String × Value)) : TimedM ApiResult :=
  S.proxmoxApiCallWithin timeoutMs (clusterSite cluster) "POST" "/cluster/mapping/pci" args

/-- `updatePciMapping`. -/
def Service.updatePciMapping (S : Service) (timeoutMs : Option Number) (cluster id : String)
    (args : List (String × Value)) : TimedM ApiResult :=
  S.proxmoxApiCallWithin timeoutMs (clusterSite cluster) "PUT"
    ("/cluster/mapping/pci/" ++ Url.encodeURIComponent id) args

/-- `deletePciMapping`. -/
def Service.deletePciMapping (S : Service) (timeoutMs : Option Number) (cluster id : String) :
    TimedM ApiResult :=
  S.proxmoxApiCallWithin timeoutMs (clusterSite cluster) "DELETE"
    ("/cluster/mapping/pci/" ++ Url.encodeURIComponent id) [("id", .str id)]

/-- The content types of `storageDownloadUrl`. -/
inductive DownloadContent where
  | iso
  | vztmpl
  | import_
  deriving DecidableEq, Repr

def DownloadContent.text : DownloadContent → String
  | .iso => "iso"
  | .vztmpl => "vztmpl"
  | .import_ => "import"

/-- The checksum algorithms of `storageDownloadUrl`. -/
inductive ChecksumAlgorithm where
  | md5
  | sha1
  | sha224
  | sha256
  | sha384
  | sha512
  deriving DecidableEq, Repr

def ChecksumAlgorithm.text : ChecksumAlgorithm → String
  | .md5 => "md5"
  | .sha1 => "sha1"
  | .sha224 => "sha224"
  | .sha256 => "sha256"
  | .sha384 => "sha384"
  | .sha512 => "sha512"

/-- `StorageDownloadUrlOptions`. -/
structure StorageDownloadUrlOptions where
  content : DownloadContent
  filename : String
  url : String
  verifyCertificates : Option Bool := none
  checksum : Option String := none
  checksumAlgorithm : Option ChecksumAlgorithm := none

/-- `storageDownloadUrl`. -/
def Service.storageDownloadUrl (S : Service) (timeoutMs : Option Number)
    (cluster node storage : String) (options : StorageDownloadUrlOptions) : TimedM ApiResult :=
  S.proxmoxApiCallWithin timeoutMs (nodeSite cluster node) "POST"
    ("/nodes/" ++ node ++ "/storage/" ++ storage ++ "/download-url")
    ([("storage", .str storage), ("node", .str node), ("content", .str options.content.text),
      ("filename", .str options.filename), ("url", .str options.url)] ++
      (options.verifyCertificates.map fun b => ("verify-certificates", Value.bool b)).toList ++
      ((nonEmpty options.checksum).map fun s => ("checksum", Value.str s)).toList ++
      (options.checksumAlgorithm.map fun a => ("checksum-algorithm", Value.str a.text)).toList)

/-- `vmCreate`. -/
def Service.vmCreateWithin (S : Service) (timeoutMs : Option Number) (cluster node : String)
    (vmid : Nat) (args : List (String × Value)) : TimedM ApiResult :=
  S.proxmoxApiCallWithin timeoutMs (nodeSite cluster node) "POST" ("/nodes/" ++ node ++ "/qemu")
    (assign "vmid" (.nat vmid) args)

/-- An endpoint of a VM whose node is looked up where it is not given: `vmUpdateConfig`,
    `vmConvertToTemplate`, `vmClone`. -/
def Service.vmEndpointWithin (S : Service) (timeoutMs : Option Number) (cluster : String)
    (vmid : Nat) (nodeInput : Option String) (method suffix : String)
    (args : List (String × Value)) : TimedM ApiResult := do
  let node ← untimed (S.vmNode cluster vmid nodeInput)
  S.proxmoxApiCallWithin timeoutMs (guestSite cluster .qemu node vmid) method
    (guestEndpoint .qemu node vmid suffix) args

/-- `vmUpdateConfig`. -/
def Service.vmUpdateConfigWithin (S : Service) (timeoutMs : Option Number) (cluster : String)
    (vmid : Nat) (args : List (String × Value)) (nodeInput : Option String) : TimedM ApiResult :=
  S.vmEndpointWithin timeoutMs cluster vmid nodeInput "PUT" "/config" args

/-- `vmConvertToTemplate`. -/
def Service.vmConvertToTemplateWithin (S : Service) (timeoutMs : Option Number) (cluster : String)
    (vmid : Nat) (args : List (String × Value)) (nodeInput : Option String) : TimedM ApiResult :=
  S.vmEndpointWithin timeoutMs cluster vmid nodeInput "POST" "/template" args

/-- `vmClone`. -/
def Service.vmCloneWithin (S : Service) (timeoutMs : Option Number) (cluster : String)
    (vmid : Nat) (options : VmCloneOptions) (nodeInput : Option String) : TimedM ApiResult :=
  S.vmEndpointWithin timeoutMs cluster vmid nodeInput "POST" "/clone" options.toArgs

/-- `vmDestroy`. -/
def Service.vmDestroyWithin (S : Service) (timeoutMs : Option Number) (cluster : String)
    (vmid : Nat) (args : List (String × Value)) (nodeInput : Option String) :
    TimedM ApiResult := do
  let response ← S.vmEndpointWithin timeoutMs cluster vmid nodeInput "DELETE" "" args
  untimed (Prog.perform (Effect.cacheDelete cluster))
  return response

/-- `vmAction` and `lxcAction`. -/
def Service.guestActionWithin (S : Service) (timeoutMs : Option Number) (kind : GuestType)
    (cluster : String) (vmid : Nat) (action : String) (args : List (String × Value)) :
    TimedM ApiResult := do
  let node ← untimed (S.getVmLocation
    ⟨.direct, { cluster := cluster, kind := kind.kind, vmid := some vmid }, none⟩ cluster kind vmid)
  S.proxmoxApiCallWithin timeoutMs (guestSite cluster kind node vmid) "POST"
    (guestEndpoint kind node vmid ("/status/" ++ action)) args

/-- `mapping[action]` of `nodeAction`: the end of the path and the default arguments. -/
def nodeActionMapping : String → Option (String × List (String × Value))
  | "reboot" => some ("/status", [("command", .str "reboot")])
  | "shutdown" => some ("/status", [("command", .str "shutdown")])
  | "wakeonlan" => some ("/wakeonlan", [])
  | "startall" => some ("/startall", [])
  | "stopall" => some ("/stopall", [])
  | "suspendall" => some ("/suspendall", [])
  | "migrateall" => some ("/migrateall", [])
  | _ => none

/-- `nodeAction`. An action named like a member of `Object.prototype` is found in the mapping, and
    has no method. -/
def Service.nodeAction (S : Service) (timeoutMs : Option Number) (cluster node action : String)
    (args : List (String × Value)) : TimedM ApiResult := do
  match nodeActionMapping action with
  | some (suffix, defaultArgs) =>
      S.proxmoxApiCallWithin timeoutMs (nodeSite cluster node) "POST" ("/nodes/" ++ node ++ suffix)
        (spread defaultArgs args)
  | none =>
      if action ∈ objectPrototype then
        let _ ← Prog.ofExcept (getPolicy S.config.policies (nodeSite cluster node))
        throw "Cannot read properties of undefined (reading 'toUpperCase')"
      else throw s!"Unsupported node action '{action}'"

/-- `proxmoxCliRun`, which does not read its timeout. -/
def Service.proxmoxCliRunWithin (S : Service) (_timeoutMs : Option Number) (target : TargetRef)
    (family : String) (args : List String) (rawCommand : Option String) : TimedM CommandResult :=
  untimed (S.proxmoxCliRun target family args rawCommand)

/-- `proxmoxShellRun` and `guestExec`, which do not read their timeout. -/
def Service.proxmoxShellRunWithin (S : Service) (_timeoutMs : Option Number) (target : TargetRef)
    (input : ShellInput) (onProgress : ProgressSnapshot → M Unit) (rounds : Nat) :
    TimedM CommandResult :=
  untimed (S.proxmoxShellRun target input onProgress rounds)

/-- The update of `hostpciN`, by REST or by `qm set`. -/
def Service.updateHostpciWithin (S : Service) (timeoutMs : Option Number) (cluster node : String)
    (vmid : Nat) (args : List (String × Value)) (mayFallBack : String → Bool)
    (qmArgs : List String) (message : String) : TimedM PciApplied :=
  tryCatch (do
    let response ← S.proxmoxApiCallWithin timeoutMs
      { cluster := cluster, kind := .qemu_vm, node := some node, vmid := some vmid } "PUT"
      ("/nodes/" ++ node ++ "/qemu/" ++ toString vmid ++ "/config") args
    return .rest response) fun m => do
    if mayFallBack m then
      let cliResult ← S.proxmoxCliRunWithin timeoutMs (nodeSite cluster node) "qm" qmArgs none
      Prog.ofExcept (checkExit cliResult message)
      return .qm_cli_fallback m cliResult
    else throw m

/-- `vmAttachPciDevice`. -/
def Service.vmAttachPciDeviceWithin (S : Service) (timeoutMs : Option Number) (cluster : String)
    (vmid : Nat) (options : VmPciPassthroughOptions) (nodeInput : Option String) :
    TimedM (String × PciApplied) := do
  let host := (nonEmpty options.host).isSome
  let mapping := (nonEmpty options.mapping).isSome
  if host = mapping then throw "PCI attach requires exactly one of host or mapping."
  else
    let node ← untimed (S.vmNode cluster vmid nodeInput)
    let configKey := hostpciKey options.slot
    let configValue := buildHostpciConfigValue options
    let applied ← S.updateHostpciWithin timeoutMs cluster node vmid [(configKey, .str configValue)]
      (fun m => host && !mapping && isHostpciPermissionFallbackError m configKey)
      ["set", toString vmid, "-" ++ configKey, configValue] s!"qm set failed for {configKey}"
    return (node, applied)

/-- `vmDetachPciDevice`. -/
def Service.vmDetachPciDeviceWithin (S : Service) (timeoutMs : Option Number) (cluster : String)
    (vmid slot : Nat) (nodeInput : Option String) : TimedM (String × PciApplied) := do
  let node ← untimed (S.vmNode cluster vmid nodeInput)
  let configKey := hostpciKey slot
  let applied ← S.updateHostpciWithin timeoutMs cluster node vmid [("delete", .str configKey)]
    (isHostpciPermissionFallbackError · configKey) ["set", toString vmid, "-delete", configKey]
    s!"qm set -delete failed for {configKey}"
  return (node, applied)

/-- `nodeInput ?? (await this.list(cluster)).find(…)?.node`, where an empty name is none. -/
def Service.agentNode (S : Service) (cluster : String) (vmid : Nat) (nodeInput : Option String)
    (rounds : Nat) : M String := do
  let found ← (match nodeInput with
    | some node => return some node
    | none => do
        let inventory ← S.inventoryOverview cluster {} rounds
        return (inventory.qemuVms.find? fun entry => entry.vmid = vmid).map (·.node))
  match nonEmpty found with
  | some node => return node
  | none => throw s!"VM {vmid} not found in cluster {cluster}"

/-- `agentPing` and `agentInfo`. -/
def Service.agentCall (S : Service) (timeoutMs : Option Number) (cluster : String) (vmid : Nat)
    (nodeInput : Option String) (method suffix : String) (rounds : Nat) : TimedM ApiResult := do
  let node ← untimed (S.agentNode cluster vmid nodeInput rounds)
  S.proxmoxApiCallWithin timeoutMs (guestSite cluster .qemu node vmid) method
    (guestEndpoint .qemu node vmid suffix) []

/-- `agentPing`. -/
def Service.agentPing (S : Service) (timeoutMs : Option Number) (cluster : String) (vmid : Nat)
    (nodeInput : Option String) (rounds : Nat) : TimedM ApiResult :=
  S.agentCall timeoutMs cluster vmid nodeInput "POST" "/agent/ping" rounds

/-- `agentInfo`. -/
def Service.agentInfo (S : Service) (timeoutMs : Option Number) (cluster : String) (vmid : Nat)
    (nodeInput : Option String) (rounds : Nat) : TimedM ApiResult :=
  S.agentCall timeoutMs cluster vmid nodeInput "GET" "/agent/info" rounds

/-! ## 4. The diagnoses -/

/-- `QemuDomainService.get`: the summary of a VM, its status and its configuration. -/
def Service.qemuGet (S : Service) (cluster : String) (vmid rounds : Nat) :
    M (VmSummary × Value × Value) := do
  let inventory ← S.inventoryOverview cluster {} rounds
  match inventory.qemuVms.find? fun entry => entry.vmid = vmid with
  | none => throw s!"VM {vmid} not found in cluster {cluster}"
  | some vm =>
    let target := guestSite cluster .qemu vm.node vmid
    let status ← S.proxmoxApiCall target "GET"
      (guestEndpoint .qemu vm.node vmid "/status/current") []
    let config ← S.proxmoxApiCall target "GET" (guestEndpoint .qemu vm.node vmid "/config") []
    return (vm, status.data, config.data)

/-- A failure is reported, not thrown. -/
def caught {α : Type} (p : TimedM α) : TimedM (Except String α) :=
  tryCatch (Except.ok <$> p) fun m => return .error m

/-- What `diagnoseGuestAgent` found out; its findings are read off this. -/
structure GuestAgentDiagnosis where
  vm : VmSummary
  node : String
  status : Value
  config : Value
  pingResult : Except String ApiResult
  infoResult : Except String ApiResult
  cloudInitSections : List (CloudInitSection × Except String String)

/-- `diagnoseGuestAgent`. The sections are dumped one after the other here, where the source dumps
    them at once. -/
def Service.diagnoseGuestAgent (S : Service) (timeoutMs : Option Number) (cluster : String)
    (vmid : Nat) (nodeInput : Option String) (rounds : Nat) : TimedM GuestAgentDiagnosis := do
  let (vm, status, config) ← untimed (S.qemuGet cluster vmid rounds)
  let node := nodeInput.getD vm.node
  let _ ← Prog.ofExcept (readProperty config "cicustom")
  let pingResult ← caught (S.agentPing timeoutMs cluster vmid (some node) rounds)
  let infoResult ← caught (S.agentInfo timeoutMs cluster vmid (some node) rounds)
  let cloudInitSections ← forEach (fun part => do
    let dumped ← caught (untimed (S.dumpVmCloudInit cluster vmid part))
    return (part, dumped.map (·.2))) [CloudInitSection.user, .network, .metadata]
  let _ ← Prog.ofExcept (readProperty status "status")
  return ⟨vm, node, status, config, pingResult, infoResult, cloudInitSections⟩

/-- `diagnoseVmBoot`: the diagnosis of the agent, and the output of the script that inspects the
    disk. `script` is the text of that script, which is built from the configuration. -/
def Service.diagnoseVmBoot (S : Service) (timeoutMs : Option Number) (cluster : String)
    (vmid : Nat) (nodeInput : Option String) (script : Nat → Value → String) (rounds : Nat) :
    TimedM (GuestAgentDiagnosis × Except String CommandResult) := do
  let guestAgentDiagnosis ← S.diagnoseGuestAgent timeoutMs cluster vmid nodeInput rounds
  let (vm, _, config) ← untimed (S.qemuGet cluster vmid rounds)
  let _ ← Prog.ofExcept (readProperty config "boot")
  let node := nodeInput.getD vm.node
  let offlineInspection ← caught (untimed (S.nodeTerminalRun cluster node
    { command := script vmid config
      interpreter := .bash }))
  return (guestAgentDiagnosis, offlineInspection)

/-! ## 5. All of them -/

/-- **The operations that accept a timeout.** -/
inductive TimedOperation where
  | proxmoxApiCall (target : TargetRef) (method path : String) (args : List (String × Value))
  | proxmoxCliRun (target : TargetRef) (family : String) (args : List String)
      (rawCommand : Option String)
  | proxmoxShellRun (target : TargetRef) (input : ShellInput)
      (onProgress : ProgressSnapshot → M Unit) (rounds : Nat)
  | createPciMapping (cluster : String) (args : List (String × Value))
  | updatePciMapping (cluster id : String) (args : List (String × Value))
  | deletePciMapping (cluster id : String)
  | storageDownloadUrl (cluster node storage : String) (options : StorageDownloadUrlOptions)
  | vmCreate (cluster node : String) (vmid : Nat) (args : List (String × Value))
  | vmUpdateConfig (cluster : String) (vmid : Nat) (args : List (String × Value))
      (nodeInput : Option String)
  | vmAttachPciDevice (cluster : String) (vmid : Nat) (options : VmPciPassthroughOptions)
      (nodeInput : Option String)
  | vmDetachPciDevice (cluster : String) (vmid slot : Nat) (nodeInput : Option String)
  | vmConvertToTemplate (cluster : String) (vmid : Nat) (args : List (String × Value))
      (nodeInput : Option String)
  | vmClone (cluster : String) (vmid : Nat) (options : VmCloneOptions) (nodeInput : Option String)
  | vmDestroy (cluster : String) (vmid : Nat) (args : List (String × Value))
      (nodeInput : Option String)
  | nodeAction (cluster node action : String) (args : List (String × Value))
  | guestAction (kind : GuestType) (cluster : String) (vmid : Nat) (action : String)
      (args : List (String × Value))
  | agentPing (cluster : String) (vmid : Nat) (nodeInput : Option String) (rounds : Nat)
  | agentInfo (cluster : String) (vmid : Nat) (nodeInput : Option String) (rounds : Nat)
  | diagnoseGuestAgent (cluster : String) (vmid : Nat) (nodeInput : Option String) (rounds : Nat)
  | diagnoseVmBoot (cluster : String) (vmid : Nat) (nodeInput : Option String)
      (script : Nat → Value → String) (rounds : Nat)

/-- What an operation returns. -/
inductive TimedResult where
  | api (result : ApiResult)
  | command (result : CommandResult)
  | pci (result : String × PciApplied)
  | agent (diagnosis : GuestAgentDiagnosis)
  | boot (diagnosis : GuestAgentDiagnosis × Except String CommandResult)

/-- The operation, asked for with a timeout. -/
def TimedOperation.perform (S : Service) (timeoutMs : Option Number) :
    TimedOperation → TimedM TimedResult
  | .proxmoxApiCall target method path args =>
      .api <$> S.proxmoxApiCallWithin timeoutMs target method path args
  | .proxmoxCliRun target family args rawCommand =>
      .command <$> S.proxmoxCliRunWithin timeoutMs target family args rawCommand
  | .proxmoxShellRun target input onProgress rounds =>
      .command <$> S.proxmoxShellRunWithin timeoutMs target input onProgress rounds
  | .createPciMapping cluster args => .api <$> S.createPciMapping timeoutMs cluster args
  | .updatePciMapping cluster id args => .api <$> S.updatePciMapping timeoutMs cluster id args
  | .deletePciMapping cluster id => .api <$> S.deletePciMapping timeoutMs cluster id
  | .storageDownloadUrl cluster node storage options =>
      .api <$> S.storageDownloadUrl timeoutMs cluster node storage options
  | .vmCreate cluster node vmid args => .api <$> S.vmCreateWithin timeoutMs cluster node vmid args
  | .vmUpdateConfig cluster vmid args nodeInput =>
      .api <$> S.vmUpdateConfigWithin timeoutMs cluster vmid args nodeInput
  | .vmAttachPciDevice cluster vmid options nodeInput =>
      .pci <$> S.vmAttachPciDeviceWithin timeoutMs cluster vmid options nodeInput
  | .vmDetachPciDevice cluster vmid slot nodeInput =>
      .pci <$> S.vmDetachPciDeviceWithin timeoutMs cluster vmid slot nodeInput
  | .vmConvertToTemplate cluster vmid args nodeInput =>
      .api <$> S.vmConvertToTemplateWithin timeoutMs cluster vmid args nodeInput
  | .vmClone cluster vmid options nodeInput =>
      .api <$> S.vmCloneWithin timeoutMs cluster vmid options nodeInput
  | .vmDestroy cluster vmid args nodeInput =>
      .api <$> S.vmDestroyWithin timeoutMs cluster vmid args nodeInput
  | .nodeAction cluster node action args => .api <$> S.nodeAction timeoutMs cluster node action args
  | .guestAction kind cluster vmid action args =>
      .api <$> S.guestActionWithin timeoutMs kind cluster vmid action args
  | .agentPing cluster vmid nodeInput rounds =>
      .api <$> S.agentPing timeoutMs cluster vmid nodeInput rounds
  | .agentInfo cluster vmid nodeInput rounds =>
      .api <$> S.agentInfo timeoutMs cluster vmid nodeInput rounds
  | .diagnoseGuestAgent cluster vmid nodeInput rounds =>
      .agent <$> S.diagnoseGuestAgent timeoutMs cluster vmid nodeInput rounds
  | .diagnoseVmBoot cluster vmid nodeInput script rounds =>
      .boot <$> S.diagnoseVmBoot timeoutMs cluster vmid nodeInput script rounds

/-! ## 6. Without the marks -/

section Erased

variable {S : Service} {timeoutMs : Option Number} {purpose : Purpose} {cluster method path : String}
  {target : TargetRef} {args : List (String × Value)}

omit [Text.Unicode] in
@[simp] theorem erase_untimed {α : Type} (p : M α) : (untimed p).erase = p := erase_mark _ p

theorem erase_requestWithin : (S.requestWithin timeoutMs purpose cluster method path args).erase =
    S.request purpose cluster method path args := by
  simp only [Service.requestWithin, Service.request, erase_bind, erase_ofExcept, erase_untimed,
    erase_mark]

theorem erase_apiRequestWithin :
    (S.apiRequestWithin timeoutMs purpose cluster method path args).erase =
      S.apiRequest purpose cluster method path args := by
  simp only [Service.apiRequestWithin, Service.apiRequest, erase_bind, erase_untimed,
    erase_tryCatch, erase_requestWithin]
  congr 1
  funext u
  congr 1
  funext m
  split
  · simp only [erase_bind, erase_untimed, Service.apiRequestFinalWithin, Service.apiRequestFinal,
      erase_requestWithin]
  · rfl

/-- **Without its timeout, the call is `proxmoxApiCall`.** -/
theorem erase_proxmoxApiCallWithin :
    (S.proxmoxApiCallWithin timeoutMs target method path args).erase =
      S.proxmoxApiCall target method path args := by
  simp only [Service.proxmoxApiCallWithin, Service.proxmoxApiCall, erase_bind, erase_untimed,
    erase_ofExcept, erase_apiRequestWithin, erase_pure]

/-- An endpoint of a VM, without its timeout. -/
theorem erase_vmEndpointWithin {vmid : Nat} {nodeInput : Option String} {suffix : String} :
    (S.vmEndpointWithin timeoutMs cluster vmid nodeInput method suffix args).erase =
      S.vmNode cluster vmid nodeInput >>= fun node =>
        S.proxmoxApiCall (guestSite cluster .qemu node vmid) method
          (guestEndpoint .qemu node vmid suffix) args := by
  simp only [Service.vmEndpointWithin, erase_bind, erase_untimed, erase_proxmoxApiCallWithin]

theorem erase_vmCreateWithin {node : String} {vmid : Nat} :
    (S.vmCreateWithin timeoutMs cluster node vmid args).erase = S.vmCreate cluster node vmid args :=
  erase_proxmoxApiCallWithin

theorem erase_vmConvertToTemplateWithin {vmid : Nat} {nodeInput : Option String} :
    (S.vmConvertToTemplateWithin timeoutMs cluster vmid args nodeInput).erase =
      S.vmConvertToTemplate cluster vmid args nodeInput :=
  erase_vmEndpointWithin

theorem erase_vmCloneWithin {vmid : Nat} {options : VmCloneOptions} {nodeInput : Option String} :
    (S.vmCloneWithin timeoutMs cluster vmid options nodeInput).erase =
      S.vmClone cluster vmid options nodeInput :=
  erase_vmEndpointWithin

theorem erase_vmDestroyWithin {vmid : Nat} {nodeInput : Option String} :
    (S.vmDestroyWithin timeoutMs cluster vmid args nodeInput).erase =
      S.vmDestroy cluster vmid args nodeInput := by
  simp only [Service.vmDestroyWithin, Service.vmDestroy, erase_bind, erase_untimed, erase_pure,
    erase_vmEndpointWithin, bind_assoc]

theorem erase_guestActionWithin {kind : GuestType} {vmid : Nat} {action : String} :
    (S.guestActionWithin timeoutMs kind cluster vmid action args).erase =
      S.guestAction kind cluster vmid action args := by
  simp only [Service.guestActionWithin, Service.guestAction, erase_bind, erase_untimed,
    erase_proxmoxApiCallWithin]

theorem erase_updateHostpciWithin {node : String} {vmid : Nat} {mayFallBack : String → Bool}
    {qmArgs : List String} {message : String} :
    (S.updateHostpciWithin timeoutMs cluster node vmid args mayFallBack qmArgs message).erase =
      S.updateHostpci cluster node vmid args mayFallBack qmArgs message := by
  simp only [Service.updateHostpciWithin, Service.updateHostpci, erase_tryCatch, erase_bind,
    erase_proxmoxApiCallWithin, erase_pure]
  congr 1
  funext m
  split
  · simp only [Service.proxmoxCliRunWithin, erase_bind, erase_untimed, erase_ofExcept, erase_pure]
  · rfl

theorem erase_vmAttachPciDeviceWithin {vmid : Nat} {options : VmPciPassthroughOptions}
    {nodeInput : Option String} :
    (S.vmAttachPciDeviceWithin timeoutMs cluster vmid options nodeInput).erase =
      S.vmAttachPciDevice cluster vmid options nodeInput := by
  simp only [Service.vmAttachPciDeviceWithin, Service.vmAttachPciDevice]
  split
  · rfl
  · simp only [erase_bind, erase_untimed, erase_updateHostpciWithin, erase_pure]

theorem erase_vmDetachPciDeviceWithin {vmid slot : Nat} {nodeInput : Option String} :
    (S.vmDetachPciDeviceWithin timeoutMs cluster vmid slot nodeInput).erase =
      S.vmDetachPciDevice cluster vmid slot nodeInput := by
  simp only [Service.vmDetachPciDeviceWithin, Service.vmDetachPciDevice, erase_bind, erase_untimed,
    erase_updateHostpciWithin, erase_pure]

end Erased

/-! ## 7. What is passed on -/

/-- The call that is given the timeout passes it on, the others pass none. -/
def PassesOn (timeoutMs : Option Number) (e : Marked Effect Handover) : Prop :=
  e.mark.timeoutMs = (match e.mark.origin with
    | .apiCall => timeoutMs
    | .aside => none)

section PassesOn

variable {S : Service} {timeoutMs : Option Number} {purpose : Purpose} {cluster method path : String}
  {target : TargetRef} {args : List (String × Value)}

omit [Text.Unicode] in
theorem only_untimed {α : Type} (p : M α) : Only (PassesOn timeoutMs) (untimed p) :=
  only_mark fun _ _ _ _ _ => rfl

theorem only_requestWithin :
    Only (PassesOn timeoutMs) (S.requestWithin timeoutMs purpose cluster method path args) := by
  refine only_bind only_ofExcept fun config => only_bind only_ofExcept fun request => ?_
  refine only_bind (only_untimed _) fun u => only_bind ?_ fun reply => only_ofExcept
  exact only_mark fun _ _ _ _ _ => rfl

theorem only_apiRequestWithin :
    Only (PassesOn timeoutMs) (S.apiRequestWithin timeoutMs purpose cluster method path args) := by
  refine only_bind (only_untimed _) fun u => only_tryCatch only_requestWithin fun m => ?_
  split
  · refine only_bind (only_untimed _) fun u => ?_
    exact only_bind (only_untimed _) fun u => only_requestWithin
  · exact only_throw

theorem only_proxmoxApiCallWithin :
    Only (PassesOn timeoutMs) (S.proxmoxApiCallWithin timeoutMs target method path args) := by
  refine only_bind (only_untimed _) fun u => only_bind only_ofExcept fun validated => ?_
  refine only_bind (only_untimed _) fun u => ?_
  exact only_bind only_apiRequestWithin fun data => only_pure

theorem only_vmEndpointWithin {vmid : Nat} {nodeInput : Option String} {suffix : String} :
    Only (PassesOn timeoutMs)
      (S.vmEndpointWithin timeoutMs cluster vmid nodeInput method suffix args) :=
  only_bind (only_untimed _) fun _ => only_proxmoxApiCallWithin

theorem only_updateHostpciWithin {node : String} {vmid : Nat} {mayFallBack : String → Bool}
    {qmArgs : List String} {message : String} :
    Only (PassesOn timeoutMs)
      (S.updateHostpciWithin timeoutMs cluster node vmid args mayFallBack qmArgs message) := by
  refine only_tryCatch ?_ fun m => ?_
  · exact only_bind only_proxmoxApiCallWithin fun response => only_pure
  · split
    · refine only_bind (only_untimed _) fun result => ?_
      exact only_bind only_ofExcept fun u => only_pure
    · exact only_throw

theorem only_agentCall {vmid : Nat} {nodeInput : Option String} {suffix : String} {rounds : Nat} :
    Only (PassesOn timeoutMs)
      (S.agentCall timeoutMs cluster vmid nodeInput method suffix rounds) :=
  only_bind (only_untimed _) fun _ => only_proxmoxApiCallWithin

omit [Text.Unicode] in
theorem only_caught {α : Type} {p : TimedM α} (hp : Only (PassesOn timeoutMs) p) :
    Only (PassesOn timeoutMs) (caught p) := by
  refine only_tryCatch ?_ fun m => only_pure
  rw [← bind_pure_comp]
  exact only_bind hp fun a => only_pure

theorem only_diagnoseGuestAgent {vmid : Nat} {nodeInput : Option String} {rounds : Nat} :
    Only (PassesOn timeoutMs) (S.diagnoseGuestAgent timeoutMs cluster vmid nodeInput rounds) := by
  refine only_bind (only_untimed _) fun found => only_bind only_ofExcept fun v => ?_
  refine only_bind (only_caught only_agentCall) fun ping => ?_
  refine only_bind (only_caught only_agentCall) fun info => ?_
  refine only_bind ?_ fun sections => only_bind only_ofExcept fun v => only_pure
  refine only_forEach (fun part => ?_) _
  exact only_bind (only_caught (only_untimed _)) fun dumped => only_pure

/-- **What an operation hands to its transports**: its timeout to the REST request that
    `proxmoxApiCall` makes for it, and none to anything else. -/
theorem only_operation (op : TimedOperation) :
    Only (PassesOn timeoutMs) (op.perform S timeoutMs) := by
  have hmap : ∀ {α : Type} {p : TimedM α} {f : α → TimedResult},
      Only (PassesOn timeoutMs) p → Only (PassesOn timeoutMs) (f <$> p) := by
    intro α p f hp
    rw [← bind_pure_comp]
    exact only_bind hp fun a => only_pure
  cases op with
  | proxmoxApiCall => exact hmap only_proxmoxApiCallWithin
  | proxmoxCliRun => exact hmap (only_untimed _)
  | proxmoxShellRun => exact hmap (only_untimed _)
  | createPciMapping => exact hmap only_proxmoxApiCallWithin
  | updatePciMapping => exact hmap only_proxmoxApiCallWithin
  | deletePciMapping => exact hmap only_proxmoxApiCallWithin
  | storageDownloadUrl => exact hmap only_proxmoxApiCallWithin
  | vmCreate => exact hmap only_proxmoxApiCallWithin
  | vmUpdateConfig => exact hmap only_vmEndpointWithin
  | vmAttachPciDevice cluster vmid options nodeInput =>
    refine hmap ?_
    simp only [Service.vmAttachPciDeviceWithin]
    split
    · exact only_throw
    · refine only_bind (only_untimed _) fun node => ?_
      exact only_bind only_updateHostpciWithin fun applied => only_pure
  | vmDetachPciDevice =>
    refine hmap (only_bind (only_untimed _) fun node => ?_)
    exact only_bind only_updateHostpciWithin fun applied => only_pure
  | vmConvertToTemplate => exact hmap only_vmEndpointWithin
  | vmClone => exact hmap only_vmEndpointWithin
  | vmDestroy =>
    refine hmap (only_bind only_vmEndpointWithin fun response => ?_)
    exact only_bind (only_untimed _) fun u => only_pure
  | nodeAction cluster node action args =>
    refine hmap ?_
    simp only [Service.nodeAction]
    split
    · exact only_proxmoxApiCallWithin
    · split
      · exact only_bind only_ofExcept fun effective => only_throw
      · exact only_throw
  | guestAction => exact hmap (only_bind (only_untimed _) fun node => only_proxmoxApiCallWithin)
  | agentPing => exact hmap only_agentCall
  | agentInfo => exact hmap only_agentCall
  | diagnoseGuestAgent => exact hmap only_diagnoseGuestAgent
  | diagnoseVmBoot =>
    refine hmap (only_bind only_diagnoseGuestAgent fun diagnosis => ?_)
    refine only_bind (only_untimed _) fun found => only_bind only_ofExcept fun v => ?_
    exact only_bind (only_caught (only_untimed _)) fun inspection => only_pure

end PassesOn

/-! ## 8. The ceiling -/

/-- What a run hands to transports, each time with the target it is for. -/
def handovers (t : Trace (MarkedReply Effect.Reply Handover)) : List (TargetRef × Handover) :=
  t.filterMap fun s => s.1.effect.handedFor.map fun target => (target, s.1.mark)

/-- The transport waits for the clamped timeout: its timer is set, and to that. -/
def Clamped (policies : List PolicyConfig) (requested : Option Number) (defaultTimeoutMs : Number)
    (handed : TargetRef × Handover) : Prop :=
  ∃ limit, clampTimeout policies handed.1 requested defaultTimeoutMs = .ok limit ∧
    timerOf handed.2.timeoutMs = some limit

/-- The timeout asked for keeps to the policy by itself: there is one, it sets a timer, and it is
    not above the ceiling of the target. -/
def Fits (policies : List PolicyConfig) (target : TargetRef) (requested : Option Number) : Prop :=
  ∃ n effective, requested = some n ∧ (Value.num n).truthy = true ∧
    getPolicy policies target = .ok effective ∧ n.atMost (.rat effective.maxTimeoutMs) = true

/-- In every run of the operation, every transport waits for the clamped timeout. -/
def TimeoutLaw (S : Service) (op : TimedOperation) (requested : Option Number)
    (defaultTimeoutMs : Number) : Prop :=
  ∀ t o, Run (op.perform S requested) t o →
    ∀ handed ∈ handovers t, Clamped S.config.policies requested defaultTimeoutMs handed

section Ceiling

variable {policies : List PolicyConfig} {target : TargetRef} {requested timeoutMs : Option Number}
  {defaultTimeoutMs : Number}

omit [Text.Unicode] in
/-- A timer is set to a number. -/
theorem timerOf_eq_some {n : Number} :
    timerOf timeoutMs = some n ↔ timeoutMs = some n ∧ (Value.num n).truthy = true := by
  rw [timerOf, Option.filter_eq_some_iff]

omit [Text.Unicode] in
theorem ne_nan_of_truthy {n : Number} (h : (Value.num n).truthy = true) : n ≠ .nan := by
  intro e
  rw [e] at h
  cases h

theorem clampTimeout_eq_ok {limit : Number} :
    clampTimeout policies target requested defaultTimeoutMs = .ok limit ↔
      ∃ effective, getPolicy policies target = .ok effective ∧
        (requested.getD defaultTimeoutMs).min (.rat effective.maxTimeoutMs) = limit := by
  rw [clampTimeout]
  cases getPolicy policies target with
  | error m =>
    refine iff_of_false (fun h => nomatch h) fun h => ?_
    obtain ⟨effective, e, _⟩ := h
    cases e
  | ok effective =>
    constructor
    · intro h
      cases h
      exact ⟨effective, rfl, rfl⟩
    · intro h
      obtain ⟨effective', e, hmin⟩ := h
      cases e
      exact congrArg Except.ok hmin

/-- **A clamped transport is bounded**, and not above the ceiling of its target. -/
theorem Clamped.bounded {handed : TargetRef × Handover}
    (h : Clamped policies requested defaultTimeoutMs handed) :
    ∃ limit effective, timerOf handed.2.timeoutMs = some limit ∧
      getPolicy policies handed.1 = .ok effective ∧
        limit.atMost (.rat effective.maxTimeoutMs) = true := by
  obtain ⟨limit, hclamp, htimer⟩ := h
  obtain ⟨effective, hpolicy, hmin⟩ := clampTimeout_eq_ok.mp hclamp
  have hne : limit ≠ .nan := ne_nan_of_truthy (timerOf_eq_some.mp htimer).2
  subst hmin
  exact ⟨_, effective, htimer, hpolicy, Number.min_atMost hne⟩

/-- Handing on what was asked for clamps it exactly if it fits. -/
theorem clamped_requested {origin : Origin} :
    Clamped policies requested defaultTimeoutMs (target, ⟨origin, requested⟩) ↔
      Fits policies target requested := by
  constructor
  · intro h
    obtain ⟨n, hclamp, htimer⟩ := h
    obtain ⟨hsome, htruthy⟩ := timerOf_eq_some.mp htimer
    obtain ⟨effective, hpolicy, hmin⟩ := clampTimeout_eq_ok.mp hclamp
    simp only at hsome
    rw [hsome] at hmin
    have hle := (Number.min_eq_left (ne_nan_of_truthy htruthy)).mp hmin
    exact ⟨n, effective, hsome, htruthy, hpolicy, hle⟩
  · intro h
    obtain ⟨n, effective, hsome, htruthy, hpolicy, hle⟩ := h
    have hmin := (Number.min_eq_left (ne_nan_of_truthy htruthy)).mpr hle
    refine ⟨n, clampTimeout_eq_ok.mpr ⟨effective, hpolicy, ?_⟩, timerOf_eq_some.mpr ⟨hsome, htruthy⟩⟩
    rw [hsome]
    exact hmin

end Ceiling

/-- **When a transport waits for the clamped timeout**: in every run of every operation, what is
    handed to a transport bounds it as `clampTimeout` would exactly if it is the REST request that
    `proxmoxApiCall` makes for the operation, and the timeout asked for fits the policy already. -/
theorem clamped_iff {S : Service} {op : TimedOperation} {requested : Option Number}
    {defaultTimeoutMs : Number} {t : Trace (MarkedReply Effect.Reply Handover)}
    {o : Outcome String TimedResult} (hrun : Run (op.perform S requested) t o)
    {handed : TargetRef × Handover} (hhanded : handed ∈ handovers t) :
    Clamped S.config.policies requested defaultTimeoutMs handed ↔
      handed.2.origin = .apiCall ∧ Fits S.config.policies handed.1 requested := by
  obtain ⟨s, hs, hfor⟩ := List.mem_filterMap.mp hhanded
  have hpass := only_operation op t o hrun s hs
  obtain ⟨target, _, rfl⟩ := Option.map_eq_some_iff.mp hfor
  rw [PassesOn] at hpass
  generalize s.1.mark = handover at hpass ⊢
  obtain ⟨origin, timeoutMs⟩ := handover
  cases origin with
  | apiCall =>
    cases hpass
    exact clamped_requested.trans (and_iff_right rfl).symm
  | aside =>
    cases hpass
    refine iff_of_false (fun h => ?_) fun h => nomatch h.1
    obtain ⟨limit, _, htimer⟩ := h
    cases htimer

/-- A raw call that runs a command in a VM. -/
def agentExecCall : TimedOperation :=
  .proxmoxApiCall (clusterSite "default") "POST" "/nodes/pve/qemu/100/agent/exec"
    [("command", .arr [.str "id"])]

omit [Text.Unicode] in
/-- The world where nothing fails. -/
def quietMarked (_ : Trace (MarkedReply Effect.Reply Handover)) (e : Marked Effect Handover) :
    MarkedReply Effect.Reply Handover e := quietAnswer e.effect

/-- What that call hands to its transport there. -/
def agentExecHandovers (timeoutMs : Option Number) : List (TargetRef × Handover) :=
  handovers ((agentExecCall.perform productionService timeoutMs).replay quietMarked []).1

omit [Text.Unicode] in
/-- Five seconds fit the production policy, and the request waits that long. -/
theorem clamped_iff_agentExec :
    letI := Text.asciiCase
    agentExecHandovers (some (.rat 5000)) =
        [(clusterSite "default", ⟨.apiCall, some (.rat 5000)⟩)] ∧
      Clamped productionService.config.policies (some (.rat 5000)) (.rat 120000)
        (clusterSite "default", ⟨.apiCall, some (.rat 5000)⟩) := by
  let := Text.asciiCase
  have hhanded : agentExecHandovers (some (.rat 5000)) =
      [(clusterSite "default", ⟨.apiCall, some (.rat 5000)⟩)] := by decide +kernel
  have hrun := run_replay quietMarked
    (agentExecCall.perform productionService (some (.rat 5000))) []
  have hmem := List.mem_of_mem_head? (congrArg List.head? hhanded)
  have hfits : Fits productionService.config.policies (clusterSite "default")
      (some (.rat 5000)) := ⟨_, _, rfl, rfl, rfl, by decide⟩
  exact ⟨hhanded, (clamped_iff hrun hmem).mpr ⟨rfl, hfits⟩⟩

omit [Text.Unicode] in
/-- **Asked for without a timeout, the call may wait for ever.** -/
theorem agentExec_unbounded :
    letI := Text.asciiCase
    agentExecHandovers none = [(clusterSite "default", ⟨.apiCall, none⟩)] ∧
      ¬ TimeoutLaw productionService agentExecCall none (.rat 120000) := by
  let := Text.asciiCase
  have hhanded : agentExecHandovers none = [(clusterSite "default", ⟨.apiCall, none⟩)] := by
    decide +kernel
  refine ⟨hhanded, fun hlaw => ?_⟩
  have hrun := run_replay quietMarked (agentExecCall.perform productionService none) []
  have hmem := List.mem_of_mem_head? (congrArg List.head? hhanded)
  obtain ⟨limit, _, htimer⟩ := hlaw _ _ hrun _ hmem
  cases htimer

end ProxmoxMcp
