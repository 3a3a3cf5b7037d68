/-
  File:      ProxmoxMcp/NodeOperations.lean
  Subject:   OPERATIONS THAT RUN A COMMAND ON A NODE AND READ ITS EXIT CODE (`services.ts`): the
             cloud-init snippets, the public key of a node, the dump of cloud-init, and the PCI
             devices that fall back to `qm set`.
-/
import ProxmoxMcp.Guests

namespace ProxmoxMcp

open Js Effects

variable [Text.Unicode]

/-! ## 1. Scripts on a node -/

/-- `runNodeScript`. -/
def Service.runNodeScript (S : Service) (purpose : Purpose) (cluster node script : String) :
    M CommandResult := do
  let resolved ← Prog.ofExcept (getNodeTarget S.config cluster node)
  S.runSshCommand purpose (nodeSite cluster node) resolved (shellScript (nodeScript script))

/-- `normalizeSnippetPath`. -/
def normalizeSnippetPath (snippetPath : String) : Except String String :=
  let normalized := Text.trim
    ((Text.replaceChar '\\' ['/'] snippetPath.toList).dropWhile (· = '/'))
  if normalized = [] ∨ Text.includes "..".toList normalized then
    .error s!"Invalid snippet path '{snippetPath}'"
  else .ok (String.ofList normalized)

/-- `snippetVolumeId`. -/
def snippetVolumeId (storage snippetPath : String) : Except String String := do
  return storage ++ ":snippets/" ++ (← normalizeSnippetPath snippetPath)

/-- The lines that read the content types of a storage. -/
def contentTypesLines : List String := [
  "current=$(",
  "  awk -v storage=\"$STORAGE\" '",
  "    $1 ~ /^[^[:space:]]+:$/ && $2 == storage \x7b in_block=1; next \x7d",
  "    $1 ~ /^[^[:space:]]+:$/ \x7b if (in_block) exit; in_block=0 \x7d",
  "    in_block && $1 == \"content\" \x7b",
  "      $1 = \"\"",
  "      sub(/^[[:space:]]+/, \"\", $0)",
  "      print",
  "      exit",
  "    \x7d",
  "  ' /etc/pve/storage.cfg",
  ")"]

/-- The lines that read the path of a storage and make its snippet directory. -/
def rootPathLines : List String := [
  "root_path=$(",
  "  awk -v storage=\"$STORAGE\" '",
  "    $1 ~ /^[^[:space:]]+:$/ && $2 == storage \x7b in_block=1; next \x7d",
  "    $1 ~ /^[^[:space:]]+:$/ \x7b if (in_block) exit; in_block=0 \x7d",
  "    in_block && $1 == \"path\" \x7b",
  "      $1 = \"\"",
  "      sub(/^[[:space:]]+/, \"\", $0)",
  "      print",
  "      exit",
  "    \x7d",
  "  ' /etc/pve/storage.cfg",
  ")",
  "if [ -z \"$root_path\" ]; then",
  "  echo \"Storage '$STORAGE' does not expose a filesystem path.\" >&2",
  "  exit 1",
  "fi",
  "mkdir -p \"$root_path/snippets\""]

/-- The script of `getSnippetStorageRoot`. -/
def snippetRootScript (storage : String) (ensureSnippets : Bool) : String :=
  joinLines (["set -euo pipefail", "STORAGE=" ++ shellQuote storage] ++ contentTypesLines ++ [
    "if [ -z \"$current\" ]; then",
    "  echo \"Unable to determine content types for storage '$STORAGE'.\" >&2",
    "  exit 1",
    "fi",
    "case \",$current,\" in",
    "  *,snippets,*) ;;",
    "  *) " ++ (if ensureSnippets then
        "pvesm set \"$STORAGE\" --content \"$current,snippets\" >/dev/null"
      else "echo \"Storage '\"$STORAGE\"' does not support snippets.\" >&2; exit 1") ++ " ;;",
    "esac"] ++ rootPathLines ++ ["printf '%s' \"$root_path\""])

/-- `getSnippetStorageRoot`. -/
def Service.getSnippetStorageRoot (S : Service) (purpose : Purpose) (cluster node storage : String)
    (ensureSnippets : Bool) : M String := do
  let result ← S.runNodeScript purpose cluster node (snippetRootScript storage ensureSnippets)
  Prog.ofExcept (checkExit result s!"Failed to resolve snippet storage root for {storage}")
  return String.ofList (Text.trim result.stdout.toList)

/-! ## 2. Snippets -/

/-- `CloudInitSnippetRef`. -/
structure CloudInitSnippetRef where
  cluster : String
  node : String
  storage : String
  path : String
  volumeId : String
  deriving DecidableEq, Repr

/-- The reference to a snippet. -/
def snippetRef (cluster node storage path : String) : Except String CloudInitSnippetRef := do
  return ⟨cluster, node, storage, path, ← snippetVolumeId storage path⟩

/-- The references to snippets, in order. -/
def snippetRefs (cluster node storage : String) : List String →
    Except String (List CloudInitSnippetRef)
  | [] => return []
  | path :: paths => do
      let ref ← snippetRef cluster node storage path
      let refs ← snippetRefs cluster node storage paths
      return ref :: refs

/-- The assertions and the audit record of a snippet operation. -/
def Service.snippetAccess (S : Service) (target : TargetRef) (write : Bool) (action : String)
    (fields : List (String × Value)) : M Unit := do
  S.assertPermission target .shell
  S.assertPermission target (.file write)
  S.auditRecord action target fields

/-- The script of `listCloudInitSnippets`. -/
def snippetListScript (storage : String) : String :=
  joinLines (["set -euo pipefail", "STORAGE=" ++ shellQuote storage] ++ contentTypesLines ++ [
    "case \",$current,\" in",
    "  *,snippets,*) ;;",
    "  *) echo \"Storage '$STORAGE' does not support snippets.\" >&2; exit 1 ;;",
    "esac"] ++ rootPathLines ++
    ["find \"$root_path/snippets\" -type f | sed \"s|^$root_path/snippets/||\" | sort"])

/-- The entries of a listing. A carriage return in front of a line break is trimmed away. -/
def listedEntries (stdout : String) : List String :=
  (((Text.splitOn '\n' stdout.toList).map Text.trim).filter (· ≠ [])).map String.ofList

/-- `listCloudInitSnippets`. -/
def Service.listCloudInitSnippets (S : Service) (cluster : String)
    (nodeInput storageInput : Option String) : M (List CloudInitSnippetRef) := do
  let node ← Prog.ofExcept (resolveDefaultNode S.config cluster nodeInput)
  let storage ← Prog.ofExcept (resolveDefaultSnippetStorage S.config cluster storageInput)
  let target := nodeSite cluster node
  S.snippetAccess target false "proxmox_cloud_init_snippet_list" [("storage", .str storage)]
  let result ← S.runNodeScript ⟨.shell, target, none⟩ cluster node (snippetListScript storage)
  Prog.ofExcept (checkExit result s!"Failed to list snippets for {cluster}/{node}")
  Prog.ofExcept (snippetRefs cluster node storage (listedEntries result.stdout))

/-- `getCloudInitSnippet`. -/
def Service.getCloudInitSnippet (S : Service) (cluster : String)
    (nodeInput storageInput : Option String) (snippetPath : String) :
    M (CloudInitSnippetRef × String) := do
  let node ← Prog.ofExcept (resolveDefaultNode S.config cluster nodeInput)
  let storage ← Prog.ofExcept (resolveDefaultSnippetStorage S.config cluster storageInput)
  let normalizedPath ← Prog.ofExcept (normalizeSnippetPath snippetPath)
  let target := nodeSite cluster node
  S.snippetAccess target false "proxmox_cloud_init_snippet_get"
    [("storage", .str storage), ("path", .str normalizedPath)]
  let storageRoot ← S.getSnippetStorageRoot ⟨.shell, target, none⟩ cluster node storage false
  let content ← S.proxmoxFileRead target (storageRoot ++ "/snippets/" ++ normalizedPath)
  let ref ← Prog.ofExcept (snippetRef cluster node storage normalizedPath)
  return (ref, content)

/-- `normalizedPath.slice(0, normalizedPath.lastIndexOf("/"))`, empty where there is no slash. -/
def snippetDirectory (normalizedPath : String) : String :=
  match normalizedPath.toList.reverse.dropWhile (· ≠ '/') with
  | [] => ""
  | _ :: directory => String.ofList directory.reverse

/-- The directory of a snippet, made where the path has one. -/
def Service.ensureSnippetDirectory (S : Service) (purpose : Purpose)
    (cluster node storageRoot normalizedPath : String) : M Unit := do
  let directory := snippetDirectory normalizedPath
  if directory = "" then pure ()
  else
    let ensureResult ← S.runNodeScript purpose cluster node ("set -euo pipefail\nmkdir -p " ++
      shellQuote (storageRoot ++ "/snippets/" ++ directory))
    Prog.ofExcept (checkExit ensureResult s!"Failed to prepare snippet directory {directory}")

/-- `putCloudInitSnippet`. -/
def Service.putCloudInitSnippet (S : Service) (cluster : String)
    (nodeInput storageInput : Option String) (snippetPath content : String) :
    M CloudInitSnippetRef := do
  let node ← Prog.ofExcept (resolveDefaultNode S.config cluster nodeInput)
  let storage ← Prog.ofExcept (resolveDefaultSnippetStorage S.config cluster storageInput)
  let normalizedPath ← Prog.ofExcept (normalizeSnippetPath snippetPath)
  let target := nodeSite cluster node
  S.snippetAccess target true "proxmox_cloud_init_snippet_put" [("storage", .str storage),
    ("path", .str normalizedPath), ("contentLength", .nat (Text.utf16Length content))]
  let purpose : Purpose := ⟨.shell, target, none⟩
  let storageRoot ← S.getSnippetStorageRoot purpose cluster node storage true
  S.ensureSnippetDirectory purpose cluster node storageRoot normalizedPath
  let _ ← S.proxmoxFileWrite target (storageRoot ++ "/snippets/" ++ normalizedPath) content
  Prog.ofExcept (snippetRef cluster node storage normalizedPath)

/-- `deleteCloudInitSnippet`. -/
def Service.deleteCloudInitSnippet (S : Service) (cluster : String)
    (nodeInput storageInput : Option String) (snippetPath : String) : M CloudInitSnippetRef := do
  let node ← Prog.ofExcept (resolveDefaultNode S.config cluster nodeInput)
  let storage ← Prog.ofExcept (resolveDefaultSnippetStorage S.config cluster storageInput)
  let normalizedPath ← Prog.ofExcept (normalizeSnippetPath snippetPath)
  let target := nodeSite cluster node
  S.snippetAccess target true "proxmox_cloud_init_snippet_delete"
    [("storage", .str storage), ("path", .str normalizedPath)]
  let purpose : Purpose := ⟨.shell, target, none⟩
  let storageRoot ← S.getSnippetStorageRoot purpose cluster node storage false
  let result ← S.runNodeScript purpose cluster node ("set -euo pipefail\nrm -f " ++
    shellQuote (storageRoot ++ "/snippets/" ++ normalizedPath))
  Prog.ofExcept (checkExit result s!"Failed to delete snippet {normalizedPath}")
  Prog.ofExcept (snippetRef cluster node storage normalizedPath)

/-! ## 3. The public key of a node -/

/-- `profile.publicKey ?? (profile.publicKeyPath ? await fs.readFile(…) : undefined)`. -/
def publicKeyText (profile : SshProfileConfig) : M (Option String) :=
  match profile.publicKey, nonEmpty profile.publicKeyPath with
  | some key, _ => return some key
  | none, some path => do
      let bytes : List UInt8 ← attempt (.readFile path) rfl
      return some (String.ofList (Utf8.decode bytes))
  | none, none => return none

/-- `getSshPublicKey`. -/
def Service.getSshPublicKey (S : Service) (profileName : String) : M String := do
  match S.config.sshProfileMap profileName with
  | none => throw s!"Unknown SSH profile '{profileName}'"
  | some profile =>
    let key ← publicKeyText profile
    match nonEmpty (key.map fun text => String.ofList (Text.trim text.toList)) with
    | some normalized => return normalized
    | none => throw s!"SSH profile '{profileName}' is missing publicKey or publicKeyPath for enrollment"

/-- The command of `installNodePublicKey`. -/
def installKeyScript (publicKey : String) : String :=
  "umask 077 && mkdir -p ~/.ssh && touch ~/.ssh/authorized_keys && grep -qxF " ++
    shellQuote publicKey ++ " ~/.ssh/authorized_keys || printf '%s\\n' " ++ shellQuote publicKey ++
    " >> ~/.ssh/authorized_keys"

/-- `installNodePublicKey`. -/
def Service.installNodePublicKey (S : Service) (cluster node : String) : M Unit := do
  let resolved ← Prog.ofExcept (getNodeTarget S.config cluster node)
  let publicKey ← S.getSshPublicKey resolved.sshProfile
  let result ← S.runSshCommand ⟨.shell, nodeSite cluster node, none⟩ (nodeSite cluster node)
    resolved (shellScript (installKeyScript publicKey))
  Prog.ofExcept (checkExit result s!"Failed to install SSH public key on {cluster}/{node}")

/-! ## 4. `qm` -/

/-- The sections of a dump. -/
inductive CloudInitSection where
  | metadata
  | network
  | user
  deriving DecidableEq, Repr

def CloudInitSection.text : CloudInitSection → String
  | .metadata => "meta"
  | .network => "network"
  | .user => "user"

/-- `dumpVmCloudInit`: the node and the content. -/
def Service.dumpVmCloudInit (S : Service) (cluster : String) (vmid : Nat)
    (part : CloudInitSection) : M (String × String) := do
  let node ← S.getVmLocation
    ⟨.cli "qm", { cluster := cluster, kind := .qemu_vm, vmid := some vmid }, none⟩ cluster .qemu vmid
  let target := nodeSite cluster node
  S.assertPermission target (.cli "qm" false)
  S.auditRecord "proxmox_vm_cloud_init_dump" target [("section", .str part.text)]
  let result ← S.proxmoxCliRun target "qm" ["cloudinit", "dump", toString vmid, part.text] none
  Prog.ofExcept (checkExit result s!"Failed to dump cloud-init {part.text} for VM {vmid}")
  return (node, result.stdout)

/-- `VmPciPassthroughOptions`. -/
structure VmPciPassthroughOptions where
  slot : Nat
  host : Option String := none
  mapping : Option String := none
  deviceId : Option String := none
  driver : Option String := none
  legacyIgd : Option Bool := none
  mdev : Option String := none
  pcie : Option Bool := none
  rombar : Option Bool := none
  romfile : Option String := none
  subDeviceId : Option String := none
  subVendorId : Option String := none
  vendorId : Option String := none
  xVga : Option Bool := none

/-- A part of the value that is there where its text is. -/
def textPart (key : String) (text : Option String) : List String :=
  ((nonEmpty text).map fun s => key ++ "=" ++ s).toList

/-- A part of the value that is there where its flag is given. -/
def flagPart (key : String) (flag : Option Bool) : List String :=
  (flag.map fun b => key ++ "=" ++ (if b then "1" else "0")).toList

/-- `buildHostpciConfigValue`. -/
def buildHostpciConfigValue (options : VmPciPassthroughOptions) : String :=
  let parts := textPart "host" options.host ++ textPart "mapping" options.mapping ++
    textPart "device-id" options.deviceId ++ textPart "driver" options.driver ++
    flagPart "legacy-igd" options.legacyIgd ++ textPart "mdev" options.mdev ++
    flagPart "pcie" options.pcie ++ flagPart "rombar" options.rombar ++
    textPart "romfile" options.romfile ++ textPart "sub-device-id" options.subDeviceId ++
    textPart "sub-vendor-id" options.subVendorId ++ textPart "vendor-id" options.vendorId ++
    flagPart "x-vga" options.xVga
  String.ofList (Text.joinWith [','] (parts.map String.toList))

/-- `hostpciN`. -/
def hostpciKey (slot : Nat) : String := "hostpci" ++ toString slot

/-- `isHostpciPermissionFallbackError`, for a key without special characters. -/
def isHostpciPermissionFallbackError (message configKey : String) : Bool :=
  includesFold ("only root can set '" ++ configKey ++ "' config for non-mapped devices").toList
    message.toList

/-- `nodeInput ?? (await getVmLocation(cluster, "qemu", vmid)).node`. -/
def Service.vmNode (S : Service) (cluster : String) (vmid : Nat) (nodeInput : Option String) :
    M String :=
  match nodeInput with
  | some node => return node
  | none => S.getVmLocation
      ⟨.direct, { cluster := cluster, kind := .qemu_vm, vmid := some vmid }, none⟩ cluster .qemu vmid

/-- How a PCI update was applied, with what came back. -/
inductive PciApplied where
  | rest (response : ApiResult)
  | qm_cli_fallback (fallbackReason : String) (data : CommandResult)

/-- The update of `hostpciN`: a REST call, and where `mayFallBack` says so of its error, `qm set`
    with the arguments. -/
def Service.updateHostpci (S : Service) (cluster node : String) (vmid : Nat)
    (args : List (String × Value)) (mayFallBack : String → Bool) (qmArgs : List String)
    (message : String) : M PciApplied :=
  tryCatch (do
    let response ← S.proxmoxApiCall
      { cluster := cluster, kind := .qemu_vm, node := some node, vmid := some vmid } "PUT"
      ("/nodes/" ++ node ++ "/qemu/" ++ toString vmid ++ "/config") args
    return .rest response) fun m => do
    if mayFallBack m then
      let cliResult ← S.proxmoxCliRun (nodeSite cluster node) "qm" qmArgs none
      Prog.ofExcept (checkExit cliResult message)
      return .qm_cli_fallback m cliResult
    else throw m

/-- `vmAttachPciDevice`: the node, and how it was applied. -/
def Service.vmAttachPciDevice (S : Service) (cluster : String) (vmid : Nat)
    (options : VmPciPassthroughOptions) (nodeInput : Option String) : M (String × PciApplied) := do
  let host := (nonEmpty options.host).isSome
  let mapping := (nonEmpty options.mapping).isSome
  if host = mapping then throw "PCI attach requires exactly one of host or mapping."
  else
    let node ← S.vmNode cluster vmid nodeInput
    let configKey := hostpciKey options.slot
    let configValue := buildHostpciConfigValue options
    let applied ← S.updateHostpci cluster node vmid [(configKey, .str configValue)]
      (fun m => host && !mapping && isHostpciPermissionFallbackError m configKey)
      ["set", toString vmid, "-" ++ configKey, configValue] s!"qm set failed for {configKey}"
    return (node, applied)

/-- `vmDetachPciDevice`: the node, and how it was applied. -/
def Service.vmDetachPciDevice (S : Service) (cluster : String) (vmid slot : Nat)
    (nodeInput : Option String) : M (String × PciApplied) := do
  let node ← S.vmNode cluster vmid nodeInput
  let configKey := hostpciKey slot
  let applied ← S.updateHostpci cluster node vmid [("delete", .str configKey)]
    (isHostpciPermissionFallbackError · configKey) ["set", toString vmid, "-delete", configKey]
    s!"qm set -delete failed for {configKey}"
  return (node, applied)

end ProxmoxMcp
