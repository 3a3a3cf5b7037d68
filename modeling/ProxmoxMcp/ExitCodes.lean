/-
  File:      ProxmoxMcp/ExitCodes.lean
  Subject:   HOW A PROCESS ENDS AND WHAT AN OPERATION MAKES OF IT: the events of an SSH channel, the
             exit code `SshExecutor.exec` gives for them, and the operations that take a non-zero
             one for a failure.

  A process that is killed reports a signal and no code, and a channel that is lost reports nothing.
  The executor gives 0 for both, so an operation is as sure of its success as of the report.
-/
import ProxmoxMcp.Endpoint
import ProxmoxMcp.NodeOperations
import ProxmoxMcp.Rules

namespace ProxmoxMcp

open Js Effects Prog

/-! ## 1. The channel -/

/-- What the executor hears of a command, in any order. `failed` is an error of the connection, of
    the start of the command, or the abort. -/
inductive SshEvent where
  | stdout (text : String)
  | stderr (text : String)
  | exit (code : Option Int) (signal : Option String)
  | close
  | failed (message : String)
  deriving DecidableEq, Repr

/-- What `exec` has collected. -/
structure SshChannel where
  stdout : String := ""
  stderr : String := ""
  exitCode : Int := 0
  signalName : Option String := none

/-- `SshExecutor.exec` from here on: the first `close` or failure settles it. `none` where nothing
    has settled it yet. -/
def SshChannel.exec (channel : SshChannel) : List SshEvent → Option (Except String CommandResult)
  | [] => none
  | .stdout text :: events => { channel with stdout := channel.stdout ++ text }.exec events
  | .stderr text :: events => { channel with stderr := channel.stderr ++ text }.exec events
  | .exit code signal :: events =>
      { channel with exitCode := code.getD 0, signalName := signal }.exec events
  | .close :: _ =>
      some (.ok ⟨channel.stdout, channel.stderr, channel.exitCode, channel.signalName⟩)
  | .failed message :: _ => some (.error message)

/-- `SshExecutor.exec`. -/
def SshExecutor.exec (events : List SshEvent) : Option (Except String CommandResult) :=
  ({} : SshChannel).exec events

/-- How a process ended: with an exit code, by a signal, or unheard of. -/
inductive ProcessEnd where
  | exited (code : Int)
  | killed (signal : Option String)
  | lost
  deriving DecidableEq, Repr

/-- The end that a report tells of. -/
def reportedEnd (code : Option Int) (signal : Option String) : ProcessEnd :=
  match code with
  | some code => .exited code
  | none => .killed signal

/-- The end of the process: what was reported last before the channel closed. -/
def endFrom (known : ProcessEnd) : List SshEvent → ProcessEnd
  | [] => known
  | .exit code signal :: events => endFrom (reportedEnd code signal) events
  | .close :: _ => known
  | .failed _ :: _ => known
  | _ :: events => endFrom known events

/-- The end of the process behind the events. -/
def endOf (events : List SshEvent) : ProcessEnd := endFrom .lost events

/-- What the executor makes of an end. -/
def ProcessEnd.exitCode : ProcessEnd → Int
  | .exited code => code
  | _ => 0

theorem reportedEnd_exitCode (code : Option Int) (signal : Option String) :
    (reportedEnd code signal).exitCode = code.getD 0 := by
  cases code <;> rfl

/-- What has been collected agrees with the end known so far. -/
theorem exec_exitCode {events : List SshEvent} {channel : SshChannel} {known : ProcessEnd}
    {result : CommandResult} (hk : channel.exitCode = known.exitCode)
    (h : channel.exec events = some (.ok result)) :
    result.exitCode = (endFrom known events).exitCode := by
  induction events generalizing channel known with
  | nil => cases h
  | cons event events ih =>
    cases event with
    | stdout text => exact @ih { channel with stdout := channel.stdout ++ text } known hk h
    | stderr text => exact @ih { channel with stderr := channel.stderr ++ text } known hk h
    | exit code signal =>
      exact @ih { channel with exitCode := code.getD 0, signalName := signal } _
        (reportedEnd_exitCode code signal).symm h
    | close =>
      cases h
      exact hk
    | failed message => cases h

/-- **The exit code that is read is that of the process, and 0 where it reported none.** -/
theorem exec_endOf {events : List SshEvent} {result : CommandResult}
    (h : SshExecutor.exec events = some (.ok result)) :
    result.exitCode = (endOf events).exitCode := exec_exitCode rfl h

/-- The exit code 0 says how the process ended only where it reported a code. -/
theorem exited_zero_iff {events : List SshEvent} {result : CommandResult}
    (h : SshExecutor.exec events = some (.ok result)) (hzero : result.exitCode = 0) :
    endOf events = .exited 0 ↔ ∃ code, endOf events = .exited code := by
  constructor
  · intro he
    exact ⟨0, he⟩
  · intro he
    obtain ⟨code, he⟩ := he
    have hcode : result.exitCode = code := by rw [exec_endOf h, he]; rfl
    rw [he, ← hcode, hzero]

/-! ## 2. Programs that check what they run -/

/-- Every command of the history that gave a result gave the exit code 0. -/
def ExitsZero (h : History) : Prop :=
  ∀ command result, ⟨.exec command, .ok result⟩ ∈ h → result.exitCode = 0

/-- A program that returns only after commands with the exit code 0. -/
def Checked {α : Type} (p : M α) : Prop := ∀ t a, Run p t (.ok a) → ExitsZero t

/-- A program that ends with the result of its command, once a command has given one. -/
def Answers (p : M CommandResult) : Prop :=
  ∀ t o, Run p t o → ∀ command result, ⟨.exec command, .ok result⟩ ∈ t → o = .ok result

section

variable {α β : Type}

theorem Plain.not_mem {p : M α} (hp : Plain p) {t : History} {o : Outcome String α}
    (hrun : Run p t o) {command : RemoteCommand} {reply : Except String CommandResult} :
    ⟨.exec command, reply⟩ ∉ t := by
  intro hm
  cases hp t o hrun _ hm

theorem Plain.checked {p : M α} (hp : Plain p) : Checked p := by
  intro t a hrun command result hm
  exact absurd hm (hp.not_mem hrun)

/-- **The rule for sequencing.** -/
theorem checked_bind {p : M α} {f : α → M β} (hp : Checked p) (hf : ∀ a, Checked (f a)) :
    Checked (p >>= f) := by
  intro t b hrun command result hm
  obtain ⟨t₁, t₂, a, rfl, h1, h2⟩ := run_bind_ok hrun
  rcases List.mem_append.mp hm with hm | hm
  · exact hp t₁ a h1 command result hm
  · exact hf a t₂ b h2 command result hm

/-- **The rule for a fallback**: what fails before it has run a command may be tried otherwise. -/
theorem checked_tryCatch {p : M α} {f : String → M α} (hp : Plain p)
    (hf : ∀ m, Checked (f m)) : Checked (tryCatch p f) := by
  intro t a hrun command result hm
  obtain ⟨t₁, t₂, o, rfl, h1, h2⟩ := run_tryCatch.mp hrun
  rcases List.mem_append.mp hm with hm | hm
  · exact absurd hm (hp.not_mem h1)
  · cases o with
    | ok b =>
      rw [h2.1] at hm
      cases hm
    | error m => exact hf m t₂ a h2 command result hm
    | cut => cases h2.2

/-- **The rule for a command whose exit code is checked.** -/
theorem checked_exit {p : M CommandResult} {message : String} {f : CommandResult → M α}
    (hp : Answers p) (hf : ∀ result, Checked (f result)) :
    Checked (p >>= fun result => Prog.ofExcept (checkExit result message) >>= fun _ => f result) := by
  intro t a hrun command result hm
  obtain ⟨t₁, t₂, result', rfl, h1, h2⟩ := run_bind_ok hrun
  obtain ⟨t₃, t₄, _, rfl, h3, h4⟩ := run_bind_ok h2
  obtain ⟨rfl, hcheck⟩ := run_ofExcept.mp h3
  rcases List.mem_append.mp hm with hm | hm
  · cases hp t₁ _ h1 command result hm
    by_contra hne
    rw [checkExit, if_pos hne] at hcheck
    cases hcheck
  · exact hf result' t₄ a h4 command result hm

/-- The same where nothing follows the check. -/
theorem checked_lastExit {p : M CommandResult} {message : String} (hp : Answers p) :
    Checked (p >>= fun result => Prog.ofExcept (checkExit result message)) := by
  have hunit := @checked_exit Unit p message (fun _ => Pure.pure ()) hp fun _ =>
    Plain.checked only_pure
  have hpure : ∀ x : M Unit, (x >>= fun _ => Pure.pure ()) = x := bind_pure
  simpa only [hpure] using hunit

theorem answers_bind {p : M α} {f : α → M CommandResult} (hp : Plain p)
    (hf : ∀ a, Answers (f a)) : Answers (p >>= f) := by
  intro t o hrun command result hm
  obtain ⟨t₁, t₂, o₁, rfl, h1, h2⟩ := run_bind.mp hrun
  rcases List.mem_append.mp hm with hm | hm
  · exact absurd hm (hp.not_mem h1)
  · cases o₁ with
    | ok a => exact hf a t₂ o h2 command result hm
    | error m =>
      rw [h2.1] at hm
      cases hm
    | cut =>
      rw [h2.1] at hm
      cases hm

/-- A retry follows a failure, and a failure gave no result. -/
theorem answers_tryCatch {p : M CommandResult} {f : String → M CommandResult} (hp : Answers p)
    (hf : ∀ m, Answers (f m)) : Answers (tryCatch p f) := by
  intro t o hrun command result hm
  obtain ⟨t₁, t₂, o₁, rfl, h1, h2⟩ := run_tryCatch.mp hrun
  rcases List.mem_append.mp hm with hm | hm
  · cases hp t₁ o₁ h1 command result hm
    exact h2.2
  · cases o₁ with
    | ok a =>
      rw [h2.1] at hm
      cases hm
    | error m => exact hf m t₂ o h2 command result hm
    | cut =>
      rw [h2.1] at hm
      cases hm

theorem Plain.answers {p : M CommandResult} (hp : Plain p) : Answers p := by
  intro t o hrun command result hm
  exact absurd hm (hp.not_mem hrun)

theorem answers_exec {command : RemoteCommand} : Answers (attempt (.exec command) rfl) := by
  intro t o hrun command' result hm
  obtain ⟨reply, rfl, rfl⟩ := run_attempt.mp hrun
  cases List.mem_singleton.mp hm
  rfl

end

/-! ## 3. The building blocks -/

section

variable [Text.Unicode] {S : Service} {purpose : Purpose} {cluster node method path : String}
  {args : List (String × Value)} {target : TargetRef}

theorem plain_proxmoxApiCall : Plain (S.proxmoxApiCall target method path args) := by
  refine only_bind plain_assertPermission fun _ => ?_
  refine only_bind only_ofExcept fun validated => ?_
  refine only_bind plain_auditRecord fun _ => ?_
  exact only_bind plain_apiRequest fun data => only_pure

omit [Text.Unicode] in
theorem plain_publicKeyText {profile : SshProfileConfig} :
    Plain (publicKeyText profile) := by
  unfold publicKeyText
  split
  · exact only_pure
  · exact only_bind (plain_attempt rfl) fun _ => only_pure
  · exact only_pure

omit [Text.Unicode] in
theorem plain_getSshPublicKey {profileName : String} :
    Plain (S.getSshPublicKey profileName) := by
  unfold Service.getSshPublicKey
  split
  · exact only_throw
  · refine only_bind plain_publicKeyText fun key => ?_
    split
    · exact only_pure
    · exact only_throw

theorem plain_vmNode {vmid : Nat} {nodeInput : Option String} :
    Plain (S.vmNode cluster vmid nodeInput) := by
  unfold Service.vmNode
  split
  · exact only_pure
  · exact plain_getVmLocation

theorem plain_snippetAccess {write : Bool} {action : String}
    {fields : List (String × Value)} :
    Plain (S.snippetAccess target write action fields) := by
  refine only_bind plain_assertPermission fun _ => ?_
  exact only_bind plain_assertPermission fun _ => plain_auditRecord

omit [Text.Unicode] in
theorem answers_sshExec {site : TargetRef} {resolved : ResolvedNodeTarget} {command : String} :
    Answers (S.sshExec purpose site resolved command) :=
  answers_bind only_ofExcept fun _ => answers_exec

/-- **A command over SSH ends with the result of the process it ran.** -/
theorem answers_runSshCommand {site : TargetRef} {resolved : ResolvedNodeTarget}
    {command : String} : Answers (S.runSshCommand purpose site resolved command) := by
  refine answers_bind plain_ensureCluster fun _ => ?_
  refine answers_tryCatch answers_sshExec fun m => ?_
  split
  · refine answers_bind (plain_attempt rfl) fun _ => ?_
    exact answers_bind plain_ensureCluster fun _ => answers_sshExec
  · exact Plain.answers only_throw

theorem answers_runNodeScript {script : String} :
    Answers (S.runNodeScript purpose cluster node script) :=
  answers_bind only_ofExcept fun _ => answers_runSshCommand

theorem answers_proxmoxCliRun {family : String} {words : List String}
    {rawCommand : Option String} : Answers (S.proxmoxCliRun target family words rawCommand) := by
  unfold Service.proxmoxCliRun
  split
  · refine answers_bind plain_assertPermission fun _ => ?_
    refine answers_bind only_ofExcept fun resolved => ?_
    exact answers_bind plain_auditRecord fun _ => answers_runSshCommand
  · exact Plain.answers only_throw

/-! ## 4. The operations -/

theorem checked_proxmoxFileReadBytes {filePath : String} :
    Checked (S.proxmoxFileReadBytes target filePath) := by
  unfold Service.proxmoxFileReadBytes
  dsimp only
  refine checked_bind plain_assertPermission.checked fun _ => ?_
  refine checked_bind plain_auditRecord.checked fun _ => ?_
  split
  · refine checked_bind (Plain.checked only_ofExcept) fun resolved => ?_
    exact checked_exit answers_runSshCommand fun result => Plain.checked only_pure
  · refine checked_bind plain_getVmLocation.checked fun node => ?_
    refine checked_bind (Plain.checked only_ofExcept) fun resolved => ?_
    exact checked_exit answers_runSshCommand fun result => Plain.checked only_pure
  · refine checked_bind plain_getVmLocation.checked fun node => ?_
    refine checked_bind plain_detectVmGuest.checked fun guest => ?_
    split
    · refine checked_bind plain_apiRequest.checked fun data => ?_
      refine checked_bind (Plain.checked only_ofExcept) fun content => ?_
      exact checked_bind (Plain.checked only_ofExcept) fun _ => Plain.checked only_pure
    · exact Plain.checked only_throw
  · exact Plain.checked only_throw

theorem checked_proxmoxFileWriteBytes {filePath : String} {content : List UInt8} :
    Checked (S.proxmoxFileWriteBytes target filePath content) := by
  unfold Service.proxmoxFileWriteBytes
  dsimp only
  refine checked_bind plain_assertPermission.checked fun _ => ?_
  refine checked_bind plain_auditRecord.checked fun _ => ?_
  split
  · refine checked_bind (Plain.checked only_ofExcept) fun resolved => ?_
    exact checked_exit answers_runSshCommand fun result => Plain.checked only_pure
  · refine checked_bind plain_getVmLocation.checked fun node => ?_
    refine checked_bind (Plain.checked only_ofExcept) fun resolved => ?_
    exact checked_exit answers_runSshCommand fun result => Plain.checked only_pure
  · refine checked_bind plain_getVmLocation.checked fun node => ?_
    refine checked_bind plain_detectVmGuest.checked fun guest => ?_
    split
    · exact checked_bind plain_apiRequest.checked fun _ => Plain.checked only_pure
    · exact Plain.checked only_throw
  · exact Plain.checked only_throw

theorem checked_getSnippetStorageRoot {storage : String} {ensureSnippets : Bool} :
    Checked (S.getSnippetStorageRoot purpose cluster node storage ensureSnippets) :=
  checked_exit answers_runNodeScript fun _ => Plain.checked only_pure

theorem checked_listCloudInitSnippets {nodeInput storageInput : Option String} :
    Checked (S.listCloudInitSnippets cluster nodeInput storageInput) := by
  unfold Service.listCloudInitSnippets
  refine checked_bind (Plain.checked only_ofExcept) fun node => ?_
  refine checked_bind (Plain.checked only_ofExcept) fun storage => ?_
  refine checked_bind plain_snippetAccess.checked fun _ => ?_
  exact checked_exit answers_runNodeScript fun _ => Plain.checked only_ofExcept

theorem checked_getCloudInitSnippet {nodeInput storageInput : Option String}
    {snippetPath : String} :
    Checked (S.getCloudInitSnippet cluster nodeInput storageInput snippetPath) := by
  unfold Service.getCloudInitSnippet
  refine checked_bind (Plain.checked only_ofExcept) fun node => ?_
  refine checked_bind (Plain.checked only_ofExcept) fun storage => ?_
  refine checked_bind (Plain.checked only_ofExcept) fun normalizedPath => ?_
  refine checked_bind plain_snippetAccess.checked fun _ => ?_
  refine checked_bind checked_getSnippetStorageRoot fun storageRoot => ?_
  refine checked_bind (checked_bind checked_proxmoxFileReadBytes fun _ =>
    Plain.checked only_pure) fun content => ?_
  exact checked_bind (Plain.checked only_ofExcept) fun ref => Plain.checked only_pure

theorem checked_ensureSnippetDirectory {storageRoot normalizedPath : String} :
    Checked (S.ensureSnippetDirectory purpose cluster node storageRoot normalizedPath) := by
  unfold Service.ensureSnippetDirectory
  dsimp only
  split
  · exact Plain.checked only_pure
  · exact checked_lastExit answers_runNodeScript

theorem checked_putCloudInitSnippet {nodeInput storageInput : Option String}
    {snippetPath content : String} :
    Checked (S.putCloudInitSnippet cluster nodeInput storageInput snippetPath content) := by
  unfold Service.putCloudInitSnippet
  refine checked_bind (Plain.checked only_ofExcept) fun node => ?_
  refine checked_bind (Plain.checked only_ofExcept) fun storage => ?_
  refine checked_bind (Plain.checked only_ofExcept) fun normalizedPath => ?_
  refine checked_bind plain_snippetAccess.checked fun _ => ?_
  refine checked_bind checked_getSnippetStorageRoot fun storageRoot => ?_
  refine checked_bind checked_ensureSnippetDirectory fun _ => ?_
  exact checked_bind checked_proxmoxFileWriteBytes fun _ => Plain.checked only_ofExcept

theorem checked_deleteCloudInitSnippet {nodeInput storageInput : Option String}
    {snippetPath : String} :
    Checked (S.deleteCloudInitSnippet cluster nodeInput storageInput snippetPath) := by
  unfold Service.deleteCloudInitSnippet
  refine checked_bind (Plain.checked only_ofExcept) fun node => ?_
  refine checked_bind (Plain.checked only_ofExcept) fun storage => ?_
  refine checked_bind (Plain.checked only_ofExcept) fun normalizedPath => ?_
  refine checked_bind plain_snippetAccess.checked fun _ => ?_
  refine checked_bind checked_getSnippetStorageRoot fun storageRoot => ?_
  exact checked_exit answers_runNodeScript fun _ => Plain.checked only_ofExcept

theorem checked_installNodePublicKey : Checked (S.installNodePublicKey cluster node) := by
  unfold Service.installNodePublicKey
  refine checked_bind (Plain.checked only_ofExcept) fun resolved => ?_
  refine checked_bind plain_getSshPublicKey.checked fun publicKey => ?_
  exact checked_lastExit answers_runSshCommand

theorem checked_dumpVmCloudInit {vmid : Nat} {part : CloudInitSection} :
    Checked (S.dumpVmCloudInit cluster vmid part) := by
  unfold Service.dumpVmCloudInit
  refine checked_bind plain_getVmLocation.checked fun node => ?_
  refine checked_bind plain_assertPermission.checked fun _ => ?_
  refine checked_bind plain_auditRecord.checked fun _ => ?_
  exact checked_exit answers_proxmoxCliRun fun _ => Plain.checked only_pure

theorem checked_updateHostpci {vmid : Nat} {mayFallBack : String → Bool} {qmArgs : List String}
    {message : String} :
    Checked (S.updateHostpci cluster node vmid args mayFallBack qmArgs message) := by
  unfold Service.updateHostpci
  refine checked_tryCatch (only_bind plain_proxmoxApiCall fun _ => only_pure) fun m => ?_
  split
  · exact checked_exit answers_proxmoxCliRun fun _ => Plain.checked only_pure
  · exact Plain.checked only_throw

theorem checked_vmAttachPciDevice {vmid : Nat} {options : VmPciPassthroughOptions}
    {nodeInput : Option String} :
    Checked (S.vmAttachPciDevice cluster vmid options nodeInput) := by
  unfold Service.vmAttachPciDevice
  dsimp only
  split
  · exact Plain.checked only_throw
  · refine checked_bind plain_vmNode.checked fun node => ?_
    exact checked_bind checked_updateHostpci fun _ => Plain.checked only_pure

theorem checked_vmDetachPciDevice {vmid slot : Nat} {nodeInput : Option String} :
    Checked (S.vmDetachPciDevice cluster vmid slot nodeInput) := by
  refine checked_bind plain_vmNode.checked fun node => ?_
  exact checked_bind checked_updateHostpci fun _ => Plain.checked only_pure

end

/-! ## 5. Success -/

/-- The operations that take a non-zero exit code for a failure. -/
inductive CheckedOperation where
  | fileRead (target : TargetRef) (filePath : String)
  | fileWrite (target : TargetRef) (filePath : String) (content : List UInt8)
  | snippetList (cluster : String) (node storage : Option String)
  | snippetGet (cluster : String) (node storage : Option String) (snippetPath : String)
  | snippetPut (cluster : String) (node storage : Option String) (snippetPath content : String)
  | snippetDelete (cluster : String) (node storage : Option String) (snippetPath : String)
  | installKey (cluster node : String)
  | cloudInitDump (cluster : String) (vmid : Nat) (part : CloudInitSection)
  | pciAttach (cluster : String) (vmid : Nat) (options : VmPciPassthroughOptions)
      (node : Option String)
  | pciDetach (cluster : String) (vmid slot : Nat) (node : Option String)

variable [Text.Unicode]

/-- What a caller of the operation learns of its success. -/
def CheckedOperation.perform (S : Service) : CheckedOperation → M Unit
  | .fileRead target filePath => do let _ ← S.proxmoxFileReadBytes target filePath
  | .fileWrite target filePath content => do let _ ← S.proxmoxFileWriteBytes target filePath content
  | .snippetList cluster node storage => do let _ ← S.listCloudInitSnippets cluster node storage
  | .snippetGet cluster node storage path => do
      let _ ← S.getCloudInitSnippet cluster node storage path
  | .snippetPut cluster node storage path content => do
      let _ ← S.putCloudInitSnippet cluster node storage path content
  | .snippetDelete cluster node storage path => do
      let _ ← S.deleteCloudInitSnippet cluster node storage path
  | .installKey cluster node => do let _ ← S.installNodePublicKey cluster node
  | .cloudInitDump cluster vmid part => do let _ ← S.dumpVmCloudInit cluster vmid part
  | .pciAttach cluster vmid options node => do
      let _ ← S.vmAttachPciDevice cluster vmid options node
  | .pciDetach cluster vmid slot node => do let _ ← S.vmDetachPciDevice cluster vmid slot node

/-- **An operation succeeds only on the exit code 0 of each of its commands.** -/
theorem checked_perform (S : Service) (operation : CheckedOperation) :
    Checked (operation.perform S) := by
  cases operation with
  | fileRead => exact checked_bind checked_proxmoxFileReadBytes fun _ => Plain.checked only_pure
  | fileWrite =>
    exact checked_bind checked_proxmoxFileWriteBytes fun _ => Plain.checked only_pure
  | snippetList =>
    exact checked_bind checked_listCloudInitSnippets fun _ => Plain.checked only_pure
  | snippetGet =>
    exact checked_bind checked_getCloudInitSnippet fun _ => Plain.checked only_pure
  | snippetPut =>
    exact checked_bind checked_putCloudInitSnippet fun _ => Plain.checked only_pure
  | snippetDelete =>
    exact checked_bind checked_deleteCloudInitSnippet fun _ => Plain.checked only_pure
  | installKey =>
    exact checked_bind checked_installNodePublicKey fun _ => Plain.checked only_pure
  | cloudInitDump =>
    exact checked_bind checked_dumpVmCloudInit fun _ => Plain.checked only_pure
  | pciAttach =>
    exact checked_bind checked_vmAttachPciDevice fun _ => Plain.checked only_pure
  | pciDetach =>
    exact checked_bind checked_vmDetachPciDevice fun _ => Plain.checked only_pure

/-- Each command of the history is answered with what the executor makes of the events on its
    channel, which are given by its place in the history. -/
def Channels (h : History) (events : Nat → List SshEvent) : Prop :=
  ∀ (i : Nat) command reply, h[i]? = some ⟨.exec command, reply⟩ →
    SshExecutor.exec (events i) = some reply

/-- Every process that gave a result ended as `ended` says. -/
def EveryEnd (h : History) (events : Nat → List SshEvent) (ended : ProcessEnd → Prop) : Prop :=
  ∀ (i : Nat) command result, h[i]? = some ⟨.exec command, .ok result⟩ → ended (endOf (events i))

/-- **An operation that succeeds has seen every process end with the exit code 0 exactly where
    every process reported an exit code.** -/
theorem succeeded_iff {S : Service} {operation : CheckedOperation} {h : History}
    {events : Nat → List SshEvent} (hrun : Run (operation.perform S) h (.ok ()))
    (hchannels : Channels h events) :
    EveryEnd h events (fun ended => ended = .exited 0) ↔
      EveryEnd h events (fun ended => ∃ code, ended = .exited code) := by
  have hzero := checked_perform S operation h () hrun
  refine forall_congr' fun i => forall_congr' fun command => forall_congr' fun result => ?_
  refine imp_congr_right fun hi => ?_
  have hexit := hzero command result (List.mem_of_getElem? hi)
  exact exited_zero_iff (hchannels i command _ hi) hexit

/-! ### Reading a file -/

/-- A service with one node. -/
def nodeService : Service where
  config :=
    { clusters := [{ exampleCluster with nodes := [⟨"pve", "pve", 22, "shell"⟩] }]
      sshProfiles := [{ name := "shell", username := "root" }]
      policies := [defaultAdminPolicy] }
  catalog := []

/-- The file of the example. -/
def hostsRead : CheckedOperation := .fileRead (nodeSite "default" "pve") "/etc/hosts"

/-- The result that the executor gives for a command. -/
def commandAnswer (result : CommandResult) : (e : Effect) → e.Reply
  | .exec _ => .ok result
  | e => quietAnswer e

/-- The run in which every command gives this result. -/
def hostsRun (result : CommandResult) : History × Outcome String Unit :=
  letI := Text.asciiCase
  (hostsRead.perform nodeService).replay (fun _ => commandAnswer result) []

omit [Text.Unicode] in
theorem run_hostsRun (result : CommandResult) :
    letI := Text.asciiCase
    Run (hostsRead.perform nodeService) (hostsRun result).1 (hostsRun result).2 :=
  run_replay ..

omit [Text.Unicode] in
theorem channels_hostsRun {result : CommandResult} {events : List SshEvent}
    (h : SshExecutor.exec events = some (.ok result)) :
    Channels (hostsRun result).1 fun _ => events := by
  intro i command reply hi
  obtain ⟨_, e⟩ := mem_replay (List.mem_of_getElem? hi)
  exact h.trans (congrArg some e.symm)

/-- A process that is killed after the first bytes. -/
def killedEvents : List SshEvent := [.stdout "MTI3", .exit none (some "KILL"), .close]

omit [Text.Unicode] in
/-- **A reader that is killed is a read that succeeds.** -/
theorem succeeded_killed :
    letI := Text.asciiCase
    Run (hostsRead.perform nodeService) (hostsRun ⟨"MTI3", "", 0, some "KILL"⟩).1 (.ok ()) ∧
      Channels (hostsRun ⟨"MTI3", "", 0, some "KILL"⟩).1 (fun _ => killedEvents) ∧
      ¬ EveryEnd (hostsRun ⟨"MTI3", "", 0, some "KILL"⟩).1 (fun _ => killedEvents)
        (fun ended => ended = .exited 0) := by
  have hok : (hostsRun ⟨"MTI3", "", 0, some "KILL"⟩).2 = .ok () := by decide +kernel
  refine ⟨hok ▸ run_hostsRun _, channels_hostsRun rfl, fun h => ?_⟩
  exact nomatch h 2 _ _ rfl

/-- A process that ends by itself. -/
def exitedEvents : List SshEvent := [.stdout "MTI3", .exit (some 0) none, .close]

omit [Text.Unicode] in
theorem succeeded_exited :
    EveryEnd (hostsRun ⟨"MTI3", "", 0, none⟩).1 (fun _ => exitedEvents)
      (fun ended => ended = .exited 0) := by
  have hok : (hostsRun ⟨"MTI3", "", 0, none⟩).2 = .ok () := by decide +kernel
  refine (@succeeded_iff Text.asciiCase nodeService hostsRead _ (fun _ => exitedEvents)
    (hok ▸ run_hostsRun _) (channels_hostsRun rfl)).mpr fun i command result hi => ?_
  exact ⟨0, rfl⟩

end ProxmoxMcp
