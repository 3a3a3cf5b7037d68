/-
  File:      ProxmoxMcp/Guests.lean
  Subject:   SHELL, FILES AND CLI (`services.ts`): the operations that leave the REST API, each with
             its assertions, its audit record and its choice of transport.
-/
import ProxmoxMcp.Transports

namespace ProxmoxMcp

open Js Effects

variable [Text.Unicode]

/-! ## 1. Values of guest replies -/

/-- `/(^|[,;])\s*w/i`; the first argument says that the text begins here or a separator has just
    been read. -/
def afterSeparator (w : List Char) : Bool → List Char → Bool
  | start, [] => start && w.isEmpty
  | start, c :: s =>
      (start && prefixFold w ((c :: s).dropWhile Text.isSpace)) ||
        afterSeparator w (c == ',' || c == ';') s

/-- `normalizeBoolean`. -/
def normalizeBoolean : Value → Bool
  | .bool b => b
  | .num n => n ≠ .rat 0
  | .str s =>
      let normalized := Text.trim (Text.toLowerCase s).toList
      normalized ∈ ["1".toList, "true".toList, "yes".toList, "on".toList] ||
        afterSeparator "enabled=1".toList true normalized
  | _ => false

/-- The text without white space, if it may be base64. -/
def base64Candidate (value : List Char) : Option (List Char) :=
  let normalized := value.filter fun c => !Text.isSpace c
  if normalized = [] ∨ normalized.length % 4 ≠ 0 ∨ !normalized.all Base64.isStandard then none
  else some normalized

/-- `.replace(/=+$/, "")`. -/
def stripPadding (s : List Char) : List Char := (s.reverse.dropWhile (· = '=')).reverse

/-- `decodeMaybeBase64Buffer`. -/
def decodeMaybeBase64Buffer (value : List Char) : List UInt8 :=
  match base64Candidate value with
  | none => Utf8.encode value
  | some normalized =>
    let decoded := Base64.decode normalized
    if stripPadding (Base64.encode decoded) = stripPadding normalized then decoded
    else Utf8.encode value

/-- `decodeMaybeBase64`. -/
def decodeMaybeBase64 (value : List Char) : List Char :=
  match base64Candidate value with
  | none => value
  | some normalized =>
    let decoded := Utf8.decode (Base64.decode normalized)
    if stripPadding (Base64.encode (Utf8.encode decoded)) = stripPadding normalized then decoded
    else value

/-- `decodeMaybeBase64(typeof value === "string" ? value : undefined)`. -/
def guestText (value : Value) : String :=
  match value with
  | .str s => String.ofList (decodeMaybeBase64 s.toList)
  | _ => ""

/-! ## 2. The guest agent -/

/-- `guestKind`. -/
inductive GuestKind where
  | linux_guest
  | windows_guest
  | unknown
  deriving DecidableEq, Repr

/-- The path of a VM's endpoint. -/
def qemuPath (node : String) (vmid : Nat) (suffix : String) : String :=
  "/nodes/" ++ Url.encodeURIComponent node ++ "/qemu/" ++ toString vmid ++ suffix

/-- `String(config.ostype ?? "")`. -/
def ostypeText (config : Value) : List Char :=
  match config.get "ostype" with
  | .undefined | .null => []
  | v => textOf v

/-- `detectVmGuest`: the kind of guest, and whether its agent is enabled. -/
def Service.detectVmGuest (S : Service) (purpose : Purpose) (cluster node : String) (vmid : Nat) :
    M (GuestKind × Bool) := do
  let config ← S.apiRequest purpose cluster "GET" (qemuPath node vmid "/config")
  let _ ← Prog.ofExcept (readProperty config "ostype")
  let ostype := ostypeText config
  let guestKind : GuestKind :=
    if "win".toList.isPrefixOf ostype then .windows_guest
    else if ostype.isEmpty then .unknown else .linux_guest
  return (guestKind, normalizeBoolean (config.get "agent"))

/-- The loop of `runQemuGuestAgentCommand`; after `fuel` rounds the run is followed no further. -/
def Service.pollAgentExec (S : Service) (purpose : Purpose) (cluster node : String) (vmid : Nat)
    (start : Value) (onProgress : ProgressSnapshot → M Unit) : Nat → Nat → M CommandResult
  | 0, _ => .cut
  | fuel + 1, attempts => do
      if ← (Prog.perform Effect.aborted : M Bool) then
        throw "Guest agent command aborted"
      let pid ← Prog.ofExcept (readProperty start "pid")
      let status ← S.apiRequest purpose cluster "GET" (qemuPath node vmid "/agent/exec-status")
        [("pid", pid)]
      if normalizeBoolean (← Prog.ofExcept (readProperty status "exited")) then
        return { stdout := guestText (status.get "out-data")
                 stderr := guestText (status.get "err-data")
                 exitCode := match status.get "exitcode" with
                   | .num (.rat q) => q.num
                   | _ => 0
                 signal := match status.get "signal" with
                   | .num n => some (String.ofList n.text)
                   | _ => none }
      onProgress ⟨attempts + 1, none,
        some s!"Waiting for guest-agent command PID {toText pid}"⟩
      attempt (.sleep 1000) rfl
      S.pollAgentExec purpose cluster node vmid start onProgress fuel (attempts + 1)

/-- `runQemuGuestAgentCommand`. -/
def Service.runQemuGuestAgentCommand (S : Service) (purpose : Purpose) (cluster node : String)
    (vmid : Nat) (command : List String) (onProgress : ProgressSnapshot → M Unit) (rounds : Nat) :
    M CommandResult := do
  let purpose := { purpose with guest := some (guestSite cluster .qemu node vmid) }
  let start ← S.apiRequest purpose cluster "POST" (qemuPath node vmid "/agent/exec")
    [("command", .arr (command.map .str))]
  S.pollAgentExec purpose cluster node vmid start onProgress rounds 0

/-! ## 3. Shell commands -/

/-- The input of the shell operations. -/
structure ShellInput where
  command : String
  interpreter : Interpreter := .sh
  useSudo : Bool := false
  deriving DecidableEq, Repr

/-- The word of an interpreter. -/
def Interpreter.text : Interpreter → String
  | .sh => "sh"
  | .bash => "bash"
  | .powershell => "powershell"
  | .cmd => "cmd"

def ShellInput.toValue (input : ShellInput) : Value :=
  .obj [("command", .str input.command), ("interpreter", .str input.interpreter.text),
    ("useSudo", .bool input.useSudo)]

/-- The argument vector for the guest agent. -/
def agentCommand (guestKind : GuestKind) (input : ShellInput) : List String :=
  if guestKind = .windows_guest ∨ input.interpreter = .powershell ∨ input.interpreter = .cmd then
    if input.interpreter = .cmd then ["cmd.exe", "/c", input.command]
    else ["powershell.exe", "-NoProfile", "-NonInteractive", "-Command", input.command]
  else [input.interpreter.linuxPath, "-lc", input.command]

/-- `getLinuxGuestConfig` for a VM. -/
def getLinuxGuestConfig (config : RuntimeConfig) (cluster : String) (vmid : Nat) :
    Option LinuxGuestConfig :=
  config.linuxGuests.find? fun entry =>
    entry.cluster = cluster ∧ entry.kind = .qemu_vm ∧ entry.vmid = vmid

/-- `getWindowsGuestConfig`. -/
def getWindowsGuestConfig (config : RuntimeConfig) (cluster : String) (vmid : Nat) :
    Option WindowsGuestConfig :=
  config.windowsGuests.find? fun entry => entry.cluster = cluster ∧ entry.vmid = vmid

/-- A string that is there and not empty. -/
def nonEmpty (s : Option String) : Option String := s.filter (· ≠ "")

/-- The assertions at the head of a shell operation. -/
def Service.assertShell (S : Service) (target : TargetRef) (useSudo : Bool) : M Unit := do
  S.assertPermission target .shell
  if useSudo then
    S.assertPermission target .sudo

/-- The last line of `proxmoxShellRun`. -/
def noShellTransport (target : TargetRef) : String :=
  s!"No supported shell transport found for {target.kind.text} on cluster {target.cluster}"

/-- `proxmoxShellRun` on a VM. -/
def Service.vmShellRun (S : Service) (purpose : Purpose) (target : TargetRef) (vmid : Nat)
    (input : ShellInput) (onProgress : ProgressSnapshot → M Unit) (rounds : Nat) :
    M CommandResult := do
  let node ← S.getVmLocation purpose target.cluster .qemu vmid
  let (guestKind, guestAgentAvailable) ← S.detectVmGuest purpose target.cluster node vmid
  let site := guestSite target.cluster .qemu node vmid
  if guestAgentAvailable then
    S.runQemuGuestAgentCommand purpose target.cluster node vmid (agentCommand guestKind input)
      onProgress rounds
  else if guestKind ≠ .windows_guest then
    match getLinuxGuestConfig S.config target.cluster vmid with
    | some guest =>
      match nonEmpty guest.host, nonEmpty guest.sshProfile with
      | some host, some sshProfile =>
        match S.config.sshProfileMap sshProfile with
        | none => throw s!"Unknown SSH profile '{sshProfile}'"
        | some profile =>
          attempt (.exec ⟨purpose, target.cluster, site, .ssh host none profile.name,
            buildLinuxShellCommand input.interpreter input.command⟩) rfl
      | _, _ => throw (noShellTransport target)
    | none => throw (noShellTransport target)
  else
    match getWindowsGuestConfig S.config target.cluster vmid with
    | some guest =>
      match nonEmpty guest.host, nonEmpty guest.winrmProfile with
      | some host, some winrmProfile =>
        match S.config.winrmProfileMap winrmProfile with
        | none => throw s!"Unknown WinRM profile: {winrmProfile}"
        | some profile =>
          attempt (.exec ⟨purpose, target.cluster, site, .winrm host profile.name,
            input.command⟩) rfl
      | _, _ => throw (noShellTransport target)
    | none => throw (noShellTransport target)

/-- Which transport an operation takes on a target. -/
inductive Route where
  | node (node : String)
  | lxc (vmid : Nat)
  | qemu (vmid : Nat)
  | none
  deriving DecidableEq, Repr

/-- The transport of `proxmoxShellRun`. -/
def shellRoute (target : TargetRef) : Route :=
  match target.kind, nonEmpty target.node, target.vmid with
  | .node, some node, _ => .node node
  | .lxc_container, _, some vmid => .lxc vmid
  | .qemu_vm, _, some vmid | .linux_guest, _, some vmid | .windows_guest, _, some vmid => .qemu vmid
  | _, _, _ => .none

/-- `proxmoxShellRun`. -/
def Service.proxmoxShellRun (S : Service) (target : TargetRef) (input : ShellInput)
    (onProgress : ProgressSnapshot → M Unit) (rounds : Nat) : M CommandResult := do
  let purpose : Purpose := ⟨.shell, target, none⟩
  S.assertShell target input.useSudo
  S.auditRecord "proxmox_shell_run" target [("input", input.toValue)]
  match shellRoute target with
  | .node node =>
      let resolved ← Prog.ofExcept (getNodeTarget S.config target.cluster node)
      S.runSshCommand purpose (nodeSite target.cluster node) resolved
        (sudoPrefixed input.useSudo (buildLinuxShellCommand input.interpreter input.command))
  | .lxc vmid =>
      let node ← S.getVmLocation purpose target.cluster .lxc vmid
      let resolved ← Prog.ofExcept (getNodeTarget S.config target.cluster node)
      S.runSshCommand purpose (guestSite target.cluster .lxc node vmid) resolved
        (pctExec vmid (sudoPrefixed input.useSudo
          (buildLinuxShellCommand input.interpreter input.command)))
  | .qemu vmid => S.vmShellRun purpose target vmid input onProgress rounds
  | .none => throw (noShellTransport target)

/-- `nodeTerminalRun`. -/
def Service.nodeTerminalRun (S : Service) (cluster node : String) (input : ShellInput) :
    M CommandResult := do
  let target := nodeSite cluster node
  S.assertShell target input.useSudo
  S.auditRecord "proxmox_node_terminal_run" target [("input", input.toValue)]
  let resolved ← Prog.ofExcept (getNodeTarget S.config cluster node)
  S.runSshCommand ⟨.shell, target, none⟩ (nodeSite cluster node) resolved
    (sudoPrefixed input.useSudo (buildLinuxShellCommand input.interpreter input.command))

/-! ## 4. Files -/

/-- The transport of the file operations: any target with a `vmid` that is no container is taken
    for a VM. -/
def fileRoute (target : TargetRef) : Route :=
  match target.kind, nonEmpty target.node, target.vmid with
  | .node, some node, _ => .node node
  | .lxc_container, _, some vmid => .lxc vmid
  | _, _, some vmid => .qemu vmid
  | _, _, none => .none

/-- `decodeMaybeBase64Buffer` on a value of any type. -/
def fileContent : Value → Except String (List UInt8)
  | .str content => .ok (decodeMaybeBase64Buffer content.toList)
  | .undefined | .null | .bool false | .num .nan => .ok []
  | .num n => if n = .rat 0 then .ok [] else .error "value.replace is not a function"
  | _ => .error "value.replace is not a function"

/-- `proxmoxFileReadBytes`: the bytes and their source. -/
def Service.proxmoxFileReadBytes (S : Service) (target : TargetRef) (filePath : String) :
    M (List UInt8 × String) := do
  let purpose : Purpose := ⟨.file false, target, none⟩
  S.assertPermission target (.file false)
  S.auditRecord "proxmox_file_read" target [("filePath", .str filePath)]
  match fileRoute target with
  | .node node =>
      let resolved ← Prog.ofExcept (getNodeTarget S.config target.cluster node)
      let result ← S.runSshCommand purpose (nodeSite target.cluster node) resolved
        (readScript filePath)
      Prog.ofExcept (checkExit result s!"Failed to read {filePath}")
      return (Base64.decode (Text.trim result.stdout.toList), "ssh")
  | .lxc vmid =>
      let node ← S.getVmLocation purpose target.cluster .lxc vmid
      let resolved ← Prog.ofExcept (getNodeTarget S.config target.cluster node)
      let result ← S.runSshCommand purpose (guestSite target.cluster .lxc node vmid) resolved
        (pctExec vmid (shellScript (readScript filePath)))
      Prog.ofExcept (checkExit result s!"Failed to read {filePath}")
      return (Base64.decode (Text.trim result.stdout.toList), "pct")
  | .qemu vmid =>
      let node ← S.getVmLocation purpose target.cluster .qemu vmid
      let (_, guestAgentAvailable) ← S.detectVmGuest purpose target.cluster node vmid
      if guestAgentAvailable then
        let data ← S.apiRequest
          { purpose with guest := some (guestSite target.cluster .qemu node vmid) }
          target.cluster "GET" (qemuPath node vmid "/agent/file-read") [("file", .str filePath)]
        let content ← Prog.ofExcept (readProperty data "content")
        return (← Prog.ofExcept (fileContent content), "guest_agent")
      else throw s!"No supported file read transport found for {target.kind.text}"
  | .none => throw s!"No supported file read transport found for {target.kind.text}"

/-- `proxmoxFileRead`. -/
def Service.proxmoxFileRead (S : Service) (target : TargetRef) (filePath : String) : M String := do
  let (content, _) ← S.proxmoxFileReadBytes target filePath
  return String.ofList (Utf8.decode content)

/-- `proxmoxFileWriteBytes`: where the bytes went. -/
def Service.proxmoxFileWriteBytes (S : Service) (target : TargetRef) (filePath : String)
    (content : List UInt8) : M String := do
  let purpose : Purpose := ⟨.file true, target, none⟩
  S.assertPermission target (.file true)
  S.auditRecord "proxmox_file_write" target
    [("filePath", .str filePath), ("contentLength", .nat content.length)]
  match fileRoute target with
  | .node node =>
      let resolved ← Prog.ofExcept (getNodeTarget S.config target.cluster node)
      let result ← S.runSshCommand purpose (nodeSite target.cluster node) resolved
        (shellScript (writeScript content filePath))
      Prog.ofExcept (checkExit result s!"Failed to write {filePath}")
      return "ssh"
  | .lxc vmid =>
      let node ← S.getVmLocation purpose target.cluster .lxc vmid
      let resolved ← Prog.ofExcept (getNodeTarget S.config target.cluster node)
      let result ← S.runSshCommand purpose (guestSite target.cluster .lxc node vmid) resolved
        (pctExec vmid (shellScript (writeScript content filePath)))
      Prog.ofExcept (checkExit result s!"Failed to write {filePath}")
      return "pct"
  | .qemu vmid =>
      let node ← S.getVmLocation purpose target.cluster .qemu vmid
      let (_, guestAgentAvailable) ← S.detectVmGuest purpose target.cluster node vmid
      if guestAgentAvailable then
        let _ ← S.apiRequest
          { purpose with guest := some (guestSite target.cluster .qemu node vmid) }
          target.cluster "POST" (qemuPath node vmid "/agent/file-write")
          [("file", .str filePath), ("content", .str (base64Text content)), ("encode", .bool true)]
        return "guest_agent"
      else throw s!"No supported file write transport found for {target.kind.text}"
  | .none => throw s!"No supported file write transport found for {target.kind.text}"

/-- `proxmoxFileWrite`. -/
def Service.proxmoxFileWrite (S : Service) (target : TargetRef) (filePath content : String) :
    M String := S.proxmoxFileWriteBytes target filePath (utf8Bytes content)

/-! ## 5. CLI families -/

/-- `proxmoxCliRun`. -/
def Service.proxmoxCliRun (S : Service) (target : TargetRef) (family : String)
    (args : List String) (rawCommand : Option String) : M CommandResult := do
  match target.kind, nonEmpty target.node with
  | .node, some node =>
      S.assertPermission target (.cli family rawCommand.isSome)
      let resolved ← Prog.ofExcept (getNodeTarget S.config target.cluster node)
      let command := rawCommand.getD (shellJoin (family :: args))
      S.auditRecord "proxmox_cli_run" target [("family", .str family),
        ("rawCommand", match rawCommand with
          | some raw => .str raw
          | none => .undefined), ("args", .arr (args.map .str))]
      S.runSshCommand ⟨.cli family, target, none⟩ (nodeSite target.cluster node) resolved command
  | _, _ => throw "CLI execution requires a node target"

end ProxmoxMcp
