/-
  File:      ProxmoxMcp/ToolPolicy.lean
  Subject:   NO TOOL ACTS UNASKED: in every run of every tool, what acts on the cluster, on a node or
             in a guest comes after a passed policy assertion on the target it is done for, and after
             an audit record of that target.

  The assertion is about what the effect needs: the method of a request, the shell, the CLI family,
  the reading or the writing of a file, and `sudo` where the call asks for it. The one exception is
  the cancellation of a job that stands for a task: the request that deletes the task is sent
  without an assertion and without a record, for whatever cluster and task the job id names.

  * `Effect.acts`, `Mediated` -- what acts, and what it must come after;
  * `tool_mediated` -- every tool, every run, every effect.
-/
import ProxmoxMcp.ToolRules

namespace ProxmoxMcp

open Js Effects Prog

variable [Text.Unicode]

/-! ## 1. Effects that act -/

/-- What acts: a command, a request to the agent of a guest, and a request that is no GET. -/
def Effect.acts : Effect → Bool
  | .exec _ => true
  | .send sent => sent.purpose.guest.isSome || sent.request.method != "GET"
  | _ => false

/-- The permissions an operation rests on; `method` is there for a request. -/
def Operation.RestsOn : Operation → Option String → Permission → Prop
  | .direct, some method, p => ∃ m, p = .api m ∧ Text.toUpperCase m = method
  | .direct, none, _ => False
  | .shell, _, p => p = .shell
  | .file write, _, p => p = .file write
  | .cli family, _, p => ∃ raw, p = .cli family raw

/-- The target an effect is done for, and a permission it rests on. -/
def Effect.RestsOn : Effect → TargetRef → Permission → Prop
  | .send sent, target, p =>
      sent.purpose.target = target ∧ sent.purpose.operation.RestsOn (some sent.request.method) p
  | .exec command, target, p =>
      command.purpose.target = target ∧ command.purpose.operation.RestsOn none p
  | _, _, _ => False

/-- **The effect comes after the assertions it rests on**, which the policies passed, and after a
    record of its target. `more` is what the call needs besides. -/
def Mediated (S : Service) (more : List Permission) (h : History) (e : Effect) : Prop :=
  ∃ target p, e.RestsOn target p ∧ Asserted S target (p :: more) h

/-- What acts is mediated, or one of the exceptions. -/
def ActsMediated (S : Service) (more : List Permission) (exempt : History → Effect → Prop)
    (h : History) (e : Effect) : Prop :=
  e.acts = true → Mediated S more h e ∨ exempt h e

section Rules

variable {S : Service} {more : List Permission} {exempt : History → Effect → Prop} {h : History}
  {target : TargetRef} {p : Permission} {op : Operation} {cluster node method : String}
  {vmid rounds : Nat} {execution : Execution}

/-- A method is upper-case. -/
@[simp] theorem ApiMethod.toUpperCase_text (method : ApiMethod) :
    Text.toUpperCase method.text = method.text := by
  cases method <;>
    · rw [Text.toUpperCase, Text.flatMap_upper_ascii (Text.ascii_of_all (by decide))]
      rfl

theorem restsOn_api : Operation.direct.RestsOn (some (Text.toUpperCase method)) (.api method) :=
  ⟨method, rfl, rfl⟩

theorem restsOn_shell (method : Option String) : Operation.shell.RestsOn method .shell := rfl

theorem restsOn_file {write : Bool} (method : Option String) :
    (Operation.file write).RestsOn method (.file write) := rfl

theorem restsOn_cli {family : String} {raw : Bool} :
    (Operation.cli family).RestsOn none (.cli family raw) := ⟨raw, rfl⟩

theorem toUpperCase_get : Text.toUpperCase "GET" = "GET" := ApiMethod.toUpperCase_text .GET

theorem looking_of_acts {ok : History → Effect → Prop} (hok : ∀ h e, e.acts = false → ok h e) :
    Looking ok where
  quiet h e he := hok h e (by cases e <;> first | rfl | cases he)
  gets {purpose cluster h} hguest h' _ call his := by
    obtain ⟨hpurpose, -, hmethod⟩ := his
    refine hok h' _ ?_
    rw [Effect.acts, hpurpose, hguest, hmethod, toUpperCase_get]
    rfl

theorem looking_actsMediated : Looking (ActsMediated S more exempt) :=
  looking_of_acts fun h e he hacts => by
    rw [he] at hacts
    cases hacts

/-- Whatever is done for the target and rests on the permission is admitted from now on. -/
def AdmitsResting (ok : History → Effect → Prop) (target : TargetRef) (p : Permission)
    (h : History) : Prop :=
  ∀ h', h <+: h' → ∀ e : Effect, e.RestsOn target p → ok h' e

section Resting

variable {ok : History → Effect → Prop} {guest : Option TargetRef} {site : TargetRef}

theorem AdmitsResting.mono {h' : History} (hok : AdmitsResting ok target p h) (hle : h <+: h') :
    AdmitsResting ok target p h' :=
  fun h'' hle' => hok h'' (hle.trans hle')

theorem AdmitsResting.sends (hok : AdmitsResting ok target p h)
    (hop : op.RestsOn (some (Text.toUpperCase method)) p) :
    AdmitsSends ok ⟨op, target, guest⟩ cluster method h := by
  intro h' hle sent his
  obtain ⟨hpurpose, -, hmethod⟩ := his
  refine hok h' hle _ ⟨?_, ?_⟩
  · rw [hpurpose]
  · rw [hpurpose, hmethod]
    exact hop

theorem AdmitsResting.execs (hok : AdmitsResting ok target p h) (hop : op.RestsOn none p) :
    AdmitsExecs ok ⟨op, target, none⟩ site h := by
  intro h' hle command hpurpose _
  refine hok h' hle _ ⟨?_, ?_⟩
  · rw [hpurpose]
  · rw [hpurpose]
    exact hop

/-- A route on the target. -/
theorem AdmitsResting.route {route : Route} (hr : Looking ok) (hok : AdmitsResting ok target p h)
    (hop : ∀ method, op.RestsOn method p) :
    AdmitsRoute ok ⟨op, target, none⟩ cluster route h where
  reads := hr.gets rfl
  execs _ _ hle _ := (hok.mono hle).execs (hop none)
  sends _ _ hle _ _ := (hok.mono hle).sends (hop _)

end Resting

/-- **What is asserted and recorded admits what rests on it.** -/
theorem Asserted.resting (ha : Asserted S target (p :: more) h) :
    AdmitsResting (ActsMediated S more exempt) target p h :=
  fun _ hle _ he _ => .inl ⟨target, p, he, ha.mono hle⟩

/-- Of two permissions that are asserted, the first may be rested on. -/
theorem Asserted.first {q : Permission} (ha : Asserted S target [p, q] h) :
    Asserted S target [p] h := by
  obtain ⟨hpermits, hpassed, haudited⟩ := ha
  have hmem : ∀ r, r ∈ [p] → r ∈ [p, q] := fun r hr => by
    rw [List.mem_singleton.mp hr]
    exact List.mem_cons_self
  exact ⟨fun r hr => hpermits r (hmem r hr), fun r hr => hpassed r (hmem r hr), haudited⟩

/-! ## 2. The operations -/

/-- **`proxmoxApiCall` is mediated**, whatever it is asked to send. -/
theorem mediated_proxmoxApiCall {path : String} {args : List (String × Value)} :
    Admitted (ActsMediated S [] exempt) (S.proxmoxApiCall target method path args) h :=
  safe_proxmoxApiCall looking_actsMediated fun _ _ ha =>
    (ha.resting.sends restsOn_api).admitsPath

theorem mediated_vmEndpoint {nodeInput : Option String} {timeoutMs : Option Number}
    {suffix : String} {args : List (String × Value)} :
    Admitted (ActsMediated S [] exempt)
      (S.vmEndpointWithin timeoutMs cluster vmid nodeInput method suffix args).erase h :=
  safe_vmEndpoint looking_actsMediated fun _ _ _ ha => (ha.resting.sends restsOn_api).admitsPath

theorem mediated_guestAction {kind : GuestType} {action : String} {args : List (String × Value)} :
    Admitted (ActsMediated S [] exempt) (S.guestAction kind cluster vmid action args) h :=
  safe_bind (safe_locate looking_actsMediated rfl) fun _ _ _ _ => mediated_proxmoxApiCall

theorem mediated_nodeAction {timeoutMs : Option Number} {action : String}
    {args : List (String × Value)} :
    Admitted (ActsMediated S [] exempt) (S.nodeAction timeoutMs cluster node action args).erase h := by
  unfold Service.nodeAction
  split
  · rw [erase_proxmoxApiCallWithin]
    exact mediated_proxmoxApiCall
  · split
    · rw [erase_bind, erase_ofExcept]
      exact safe_ofExcept_bind fun _ _ => safe_throw
    · exact safe_throw

/-- **A CLI command is mediated.** -/
theorem mediated_proxmoxCliRun {family : String} {words : List String}
    {rawCommand : Option String} :
    Admitted (ActsMediated S [] exempt) (S.proxmoxCliRun target family words rawCommand) h :=
  safe_proxmoxCliRun looking_actsMediated fun _ _ _ _ ha => (ha.resting.execs restsOn_cli).line

/-- A PCI update is mediated both ways: by REST, and by `qm set` on the node. -/
theorem mediated_updateHostpci {args : List (String × Value)} {mayFallBack : String → Bool}
    {qmArgs : List String} {message : String} :
    Admitted (ActsMediated S [] exempt)
      (S.updateHostpci cluster node vmid args mayFallBack qmArgs message) h := by
  refine safe_tryCatch ?_ fun m h₁ _ => ?_
  · exact safe_bind mediated_proxmoxApiCall fun response _ _ _ => safe_pure trivial
  · split
    · refine safe_bind mediated_proxmoxCliRun fun result _ _ _ => ?_
      exact safe_ofExcept_bind fun _ _ => safe_pure trivial
    · exact safe_throw

theorem mediated_vmAttachPciDevice {options : VmPciPassthroughOptions}
    {nodeInput : Option String} :
    Admitted (ActsMediated S [] exempt) (S.vmAttachPciDevice cluster vmid options nodeInput) h := by
  unfold Service.vmAttachPciDevice
  dsimp only
  split
  · exact safe_throw
  · refine safe_bind (safe_vmNode looking_actsMediated) fun node _ _ _ => ?_
    exact safe_bind mediated_updateHostpci fun applied _ _ _ => safe_pure trivial

theorem mediated_vmDetachPciDevice {slot : Nat} {nodeInput : Option String} :
    Admitted (ActsMediated S [] exempt) (S.vmDetachPciDevice cluster vmid slot nodeInput) h := by
  unfold Service.vmDetachPciDevice
  refine safe_bind (safe_vmNode looking_actsMediated) fun node _ _ _ => ?_
  exact safe_bind mediated_updateHostpci fun applied _ _ _ => safe_pure trivial

/-- The rest of a PCI tool only looks. -/
theorem mediated_pciTool {update : PciUpdate} {applied : String × PciApplied}
    {operation finished running : String} :
    Admitted (ActsMediated S [] exempt)
      (S.pciTool execution update applied operation finished running) h := by
  unfold Service.pciTool
  dsimp only
  split
  · refine safe_bind (safe_perform_bind (looking_actsMediated.quiet h _ rfl) fun _ =>
      safe_pure trivial) fun job h₁ _ (_ : True) => ?_
    refine safe_awaited (safe_runAndSettle looking_actsMediated fun h₂ _ => ?_)
    refine safe_bind (safe_upidExecutor looking_actsMediated) fun task _ _ _ => ?_
    exact safe_bind (safe_qemuGet looking_actsMediated) fun latest _ _ _ => safe_pure trivial
  · exact safe_awaited (safe_qemuGet looking_actsMediated)

/-- What the assertions of a shell leave asked for besides the shell. -/
theorem Asserted.shell {useSudo : Bool}
    (ha : Asserted S target (if useSudo then [.shell, .sudo] else [.shell]) h)
    (hmore : (if useSudo then [.sudo] else []) = more) :
    Asserted S target (.shell :: more) h := by
  subst hmore
  cases useSudo with
  | false => exact ha
  | true => exact ha

/-- **A shell command is mediated**, and `sudo` with it where it is asked for. -/
theorem mediated_proxmoxShellRun {input : ShellInput}
    (hmore : (if input.useSudo then [.sudo] else []) = more) :
    Admitted (ActsMediated S more exempt)
      (S.proxmoxShellRun target input (jobProgress execution) rounds) h :=
  safe_proxmoxShellRun looking_actsMediated.quiet (quietProgress_job looking_actsMediated)
    fun _ _ ha => (ha.shell hmore).resting.route looking_actsMediated restsOn_shell

theorem mediated_nodeTerminalRun {input : ShellInput}
    (hmore : (if input.useSudo then [.sudo] else []) = more) :
    Admitted (ActsMediated S more exempt) (S.nodeTerminalRun cluster node input) h :=
  safe_nodeTerminalRun looking_actsMediated fun _ _ ha =>
    ((ha.shell hmore).resting.execs (restsOn_shell none)).line

/-- **The read of a file is mediated.** -/
theorem mediated_proxmoxFileReadBytes {filePath : String} :
    Admitted (ActsMediated S [] exempt) (S.proxmoxFileReadBytes target filePath) h :=
  safe_proxmoxFileReadBytes looking_actsMediated.quiet fun _ _ ha => ha.resting.route looking_actsMediated restsOn_file

/-- **The write of a file is mediated.** -/
theorem mediated_proxmoxFileWriteBytes {filePath : String} {content : List UInt8} :
    Admitted (ActsMediated S [] exempt) (S.proxmoxFileWriteBytes target filePath content) h :=
  safe_proxmoxFileWriteBytes looking_actsMediated.quiet fun _ _ ha => ha.resting.route looking_actsMediated restsOn_file

theorem mediated_readArtifactBuffer {reference : ArtifactReference} :
    Admitted (ActsMediated S [] exempt) (S.readArtifactBuffer reference) h := by
  have hquiet : Quiet (ActsMediated S [] exempt) := looking_actsMediated.quiet
  refine safe_ofExcept_bind fun artifactId _ => ?_
  refine safe_bind (safe_attempt (hquiet h _ rfl)).admitted fun backing h₁ _ _ => ?_
  cases backing with
  | memory data => exact safe_pure trivial
  | temp_file path => exact (safe_attempt (hquiet h₁ _ rfl)).admitted
  | local_file path => exact (safe_attempt (hquiet h₁ _ rfl)).admitted
  | proxmox_file target filePath =>
    exact safe_bind mediated_proxmoxFileReadBytes fun content _ _ _ => safe_pure trivial

theorem mediated_fileWriteTool {filePath : String} {input : ContentInput} :
    Admitted (ActsMediated S [] exempt) (S.fileWriteTool target filePath input) h := by
  unfold Service.fileWriteTool
  split
  · exact safe_bind mediated_readArtifactBuffer fun data _ _ _ => mediated_proxmoxFileWriteBytes
  · split
    · exact mediated_proxmoxFileWriteBytes
    · exact safe_throw

theorem mediated_vmPciAttachTool {options : VmPciPassthroughOptions} {nodeInput : Option String} :
    Admitted (ActsMediated S [] exempt)
      (S.vmPciAttachTool execution cluster vmid nodeInput options) h := by
  unfold Service.vmPciAttachTool
  split
  · exact safe_throw
  · exact safe_bind mediated_vmAttachPciDevice fun _ _ _ _ => mediated_pciTool

/-! ## 3. Snippets and keys -/

/-- A node whose shell is asserted runs the scripts. -/
theorem Asserted.script {script : String} (ha : Asserted S (nodeSite cluster node) [.shell] h) :
    AdmitsScript (ActsMediated S [] exempt) ⟨.shell, nodeSite cluster node, none⟩ cluster node
      script h :=
  (ha.resting.execs (restsOn_shell none)).line

theorem mediated_listCloudInitSnippets {nodeInput storageInput : Option String} :
    Admitted (ActsMediated S [] exempt)
      (S.listCloudInitSnippets cluster nodeInput storageInput) h :=
  safe_listCloudInitSnippets looking_actsMediated fun _ _ _ _ ha => ha.first.script

theorem mediated_getCloudInitSnippet {nodeInput storageInput : Option String}
    {snippetPath : String} :
    Admitted (ActsMediated S [] exempt)
      (S.getCloudInitSnippet cluster nodeInput storageInput snippetPath) h :=
  safe_getCloudInitSnippet looking_actsMediated (fun _ _ _ _ ha => ha.first.script)
    fun _ _ _ _ _ _ ha => (ha.resting.execs (restsOn_file none)).line

/-- **The write of a snippet is mediated**: its scripts, and the file. -/
theorem mediated_putCloudInitSnippet {nodeInput storageInput : Option String}
    {snippetPath content : String} :
    Admitted (ActsMediated S [] exempt)
      (S.putCloudInitSnippet cluster nodeInput storageInput snippetPath content) h := by
  unfold Service.putCloudInitSnippet
  refine safe_ofExcept_bind fun node _ => ?_
  refine safe_ofExcept_bind fun storage _ => ?_
  refine safe_ofExcept_bind fun normalizedPath _ => ?_
  refine safe_bind (safe_snippetAccess looking_actsMediated) fun _ h₁ _ ha => ?_
  refine safe_bind (safe_getSnippetStorageRoot looking_actsMediated ha.first.script)
    fun storageRoot h₂ hle₂ _ => ?_
  refine safe_bind (P := fun _ _ => True) ?_ fun _ h₃ _ _ => ?_
  · unfold Service.ensureSnippetDirectory
    dsimp only
    split
    · exact safe_pure trivial
    · refine safe_bind (safe_runNodeScript looking_actsMediated (ha.first.mono hle₂).script)
        fun result _ _ _ => ?_
      exact safe_ofExcept fun _ _ => trivial
  · refine safe_bind mediated_proxmoxFileWriteBytes fun _ _ _ _ => ?_
    exact safe_ofExcept fun _ _ => trivial

theorem mediated_snippetPutTool {nodeInput storageInput : Option String} {snippetPath : String}
    {input : ContentInput} :
    Admitted (ActsMediated S [] exempt)
      (S.snippetPutTool cluster nodeInput storageInput snippetPath input) h := by
  refine safe_bind (P := fun _ _ => True) ?_ fun content _ _ _ => mediated_putCloudInitSnippet
  unfold Service.snippetContent
  split
  · exact safe_bind mediated_readArtifactBuffer fun _ _ _ _ => safe_pure trivial
  · split
    · exact safe_pure trivial
    · exact safe_throw

theorem mediated_deleteCloudInitSnippet {nodeInput storageInput : Option String}
    {snippetPath : String} :
    Admitted (ActsMediated S [] exempt)
      (S.deleteCloudInitSnippet cluster nodeInput storageInput snippetPath) h := by
  unfold Service.deleteCloudInitSnippet
  refine safe_ofExcept_bind fun node _ => ?_
  refine safe_ofExcept_bind fun storage _ => ?_
  refine safe_ofExcept_bind fun normalizedPath _ => ?_
  refine safe_bind (safe_snippetAccess looking_actsMediated) fun _ h₁ _ ha => ?_
  refine safe_bind (safe_getSnippetStorageRoot looking_actsMediated ha.first.script)
    fun storageRoot h₂ hle₂ _ => ?_
  refine safe_bind (safe_runNodeScript looking_actsMediated (ha.first.mono hle₂).script)
    fun result _ _ _ => ?_
  exact safe_ofExcept_bind fun _ _ => safe_ofExcept fun _ _ => trivial

theorem mediated_dumpVmCloudInit {part : CloudInitSection} :
    Admitted (ActsMediated S [] exempt) (S.dumpVmCloudInit cluster vmid part) h :=
  safe_dumpVmCloudInit looking_actsMediated fun _ _ _ ha => (ha.resting.execs restsOn_cli).line

/-- The key of a node is read, and installed by one command. -/
theorem mediated_installNodePublicKey (ha : Asserted S (nodeSite cluster node) [.shell] h) :
    Admitted (ActsMediated S [] exempt) (S.installNodePublicKey cluster node) h := by
  have hquiet : Quiet (ActsMediated S [] exempt) := looking_actsMediated.quiet
  unfold Service.installNodePublicKey
  refine safe_ofExcept_bind fun resolved _ => ?_
  refine safe_bind (P := fun _ _ => True) ?_ fun publicKey h₁ hle₁ _ => ?_
  · unfold Service.getSshPublicKey
    split
    · exact safe_throw
    · refine safe_bind (P := fun _ _ => True) ?_ fun key _ _ _ => ?_
      · unfold publicKeyText
        split
        · exact safe_pure trivial
        · refine safe_bind (safe_attempt (hquiet h _ rfl)).admitted fun bytes _ _ _ => ?_
          exact safe_pure trivial
        · exact safe_pure trivial
      · split
        · exact safe_pure trivial
        · exact safe_throw
  · refine safe_bind (safe_runSshCommand hquiet ((ha.mono hle₁).resting.execs (restsOn_shell none))) fun result _ _ _ => ?_
    exact safe_ofExcept fun _ _ => trivial

/-- **A bootstrap is mediated**: the record of the node comes first, and the key is installed after
    the assertions of its shell and its files. -/
theorem mediated_bootstrapNodeAccess {options : BootstrapNodeAccessOptions} :
    Admitted (ActsMediated S [] exempt) (S.bootstrapNodeAccess cluster node options) h := by
  have hr : Looking (ActsMediated S [] exempt) := looking_actsMediated
  unfold Service.bootstrapNodeAccess
  refine safe_bind (safe_auditRecord hr.quiet) fun _ h₁ _ haudit => ?_
  refine safe_bind (P := fun _ _ => True) ?_ fun _ h₂ _ _ => ?_
  · unfold Service.bootstrapKey
    split
    · refine safe_bind (safe_assertPermission hr.quiet) fun _ h₂ hle₂ hshell => ?_
      refine safe_bind (safe_assertPermission hr.quiet) fun _ h₃ hle₃ _ => ?_
      exact mediated_installNodePublicKey ⟨by simpa using hshell.1,
        by simpa using hle₃.subset hshell.2, _, rfl, (hle₂.trans hle₃).subset haudit⟩
    · exact safe_pure trivial
  · refine safe_bind (P := fun _ _ => True) ?_ fun _ h₃ _ _ => ?_
    · unfold Service.dropToken
      split
      · refine safe_tryCatch ?_ fun m _ _ => safe_pure trivial
        exact safe_bind mediated_proxmoxApiCall fun _ _ _ _ => safe_pure trivial
      · exact safe_pure trivial
    · refine safe_bind mediated_proxmoxApiCall fun tokenResponse h₄ _ _ => ?_
      refine safe_ofExcept_bind fun fullTokenId _ => ?_
      refine safe_bind (P := fun _ _ => True) ?_ fun _ _ _ _ => safe_pure trivial
      unfold Service.activateToken
      split
      · exact safe_ofExcept_bind fun _ _ => safe_perform (hr.quiet _ _ rfl) fun _ => trivial
      · exact safe_pure trivial

/-! ## 4. Diagnoses and probes -/

theorem admitsDiagnosis : AdmitsDiagnosis S (ActsMediated S [] exempt) cluster vmid h where
  ping _ _ _ ha := (ha.resting.sends restsOn_api).admitsPath
  dump _ _ _ _ ha := (ha.resting.execs restsOn_cli).line

theorem mediated_diagnoseVmBoot {timeoutMs : Option Number} {nodeInput : Option String}
    {script : Nat → Value → String} :
    Admitted (ActsMediated S [] exempt)
      (S.diagnoseVmBoot timeoutMs cluster vmid nodeInput script rounds).erase h :=
  safe_diagnoseVmBoot looking_actsMediated admitsDiagnosis fun _ _ _ _ ha =>
    (ha.resting.execs (restsOn_shell none)).line

/-- An overview is mediated where it probes guests. -/
theorem mediated_inventoryOverview {options : InventoryOptions} :
    Admitted (ActsMediated S [] exempt) (S.inventoryOverview cluster options rounds) h := by
  refine safe_inventoryOverview looking_actsMediated fun _ h' node vmid kind _ hkind => ?_
  refine safe_probeDocker looking_actsMediated hkind fun h'' _ ha => ?_
  exact {
    agent := fun _ _ => (ha.resting.sends (restsOn_shell _)).built
    status := fun _ => ha.resting.sends (restsOn_shell _)
    ssh := fun _ => (ha.resting.execs (restsOn_shell none)).line
    winrm := fun _ => (ha.resting.execs (restsOn_shell none)).line }

/-! ## 5. Jobs -/

/-- **The command of a job is mediated**; what the job logs and reports reaches nothing. -/
theorem mediated_commandJob {job : CommandJob} {finished running : String} {more : List Permission}
    (hexec : ∀ h, Admitted (ActsMediated S more exempt) (job.executor S execution) h) :
    Admitted (ActsMediated S more exempt) (job.tool S execution finished running) h := by
  refine safe_perform_bind (looking_actsMediated.quiet h _ rfl) fun jobId => ?_
  refine safe_bind (safe_perform_bind (looking_actsMediated.quiet _ _ rfl) fun _ =>
    safe_pure trivial) fun record h₁ _ (_ : True) => ?_
  exact safe_awaited (safe_runAndSettle looking_actsMediated fun h₂ _ => hexec h₂)

theorem mediated_loggedResult {result : CommandResult} :
    Admitted (ActsMediated S more exempt) (loggedResult result) h := by
  refine safe_perform_bind (looking_actsMediated.quiet _ _ rfl) fun _ => ?_
  exact safe_perform_bind (looking_actsMediated.quiet _ _ rfl) fun _ => safe_pure trivial

end Rules

/-! ## 6. The exception -/

/-- The request that deletes the task of the job `jobId`. The cluster and the task are those in the
    id, or those of the job that this process knows under it. -/
def DeletesTask (S : Service) (jobId : String) (h : History) (e : Effect) : Prop :=
  ∃ found cluster upid node config request, ⟨.findJob jobId, found⟩ ∈ h ∧
    cancelHandle found jobId = some (cluster, upid) ∧ upidNode upid = .ok node ∧
    getCluster S.config cluster = .ok config ∧
    buildRequest config "DELETE" (taskPath node upid "") [] = .ok request ∧
    e = .send ⟨taskPurpose cluster, cluster, request⟩

/-- The effects of a tool that are exempt. -/
def ToolCall.Exempt (S : Service) : ToolCall → History → Effect → Prop
  | .jobCancel jobId, h, e => DeletesTask S jobId h e
  | _, _, _ => False

/-- What a call needs besides the permission of each effect. -/
def ToolCall.more : ToolCall → List Permission
  | .nodeTerminalRun _ _ input | .shellRun _ input => if input.useSudo then [.sudo] else []
  | _ => []

theorem mediated_jobCancel {S : Service} {jobId : String} {h : History} :
    Admitted (ActsMediated S [] (DeletesTask S jobId)) (S.jobCancel jobId) h := by
  have hr : Looking (ActsMediated S [] (DeletesTask S jobId)) := looking_actsMediated
  refine safe_perform_bind (hr.quiet h _ rfl) fun found => ?_
  cases hcancel : cancelHandle found jobId with
  | none =>
    exact safe_bind (safe_knownJob hr rfl) fun _ _ _ _ => safe_reportLocal hr
  | some task =>
    obtain ⟨cluster, upid⟩ := task
    refine safe_bind (P := fun _ _ => True) ?_ fun _ h₁ _ _ => ?_
    · refine safe_tryCatch ?_ fun m _ _ => safe_pure trivial
      refine safe_ofExcept_bind fun node hnode => ?_
      refine safe_bind (safe_apiRequest_built hr.quiet ?_) fun _ _ _ _ => safe_pure trivial
      intro h' hle config request hconfig hbuilt _
      refine .inr ⟨found, cluster, upid, node, config, request, hle.subset ?_, hcancel, hnode,
        hconfig, hbuilt, rfl⟩
      exact List.mem_append_right _ List.mem_cons_self
    · exact safe_bind (safe_readUpidJobSnapshot hr) fun _ _ _ _ => safe_pure trivial

/-! ## 7. Every tool -/

/-- **What a tool does is mediated.** -/
theorem mediated_perform {S : Service} {execution : Execution} {h : History} (call : ToolCall) :
    Admitted (ActsMediated S call.more (call.Exempt S)) (call.perform S execution) h := by
  have hr : ∀ {more exempt}, Looking (ActsMediated S more exempt) := looking_actsMediated
  have hcreate : ∀ {timeoutMs target method path args h},
      Admitted (ActsMediated S [] fun _ _ => False)
        (S.proxmoxApiCallWithin timeoutMs target method path args).erase h := by
    intro timeoutMs target method path args h
    rw [erase_proxmoxApiCallWithin]
    exact mediated_proxmoxApiCall
  cases call with
  | inventoryOverview => exact safe_awaited mediated_inventoryOverview
  | clusterStatus =>
    refine safe_awaited (safe_bind (safe_apiGet hr) fun _ _ _ _ => ?_)
    exact safe_bind (safe_apiGet hr) fun _ _ _ _ => safe_pure trivial
  | pciMappingList => exact safe_awaited (safe_apiGet hr)
  | pciMappingGet => exact safe_awaited (safe_apiGet hr)
  | pciMappingCreate => exact safe_awaited hcreate
  | pciMappingUpdate => exact safe_awaited hcreate
  | pciMappingDelete => exact safe_awaited hcreate
  | nodeList => exact safe_awaited mediated_inventoryOverview
  | nodeGet => exact safe_awaited (safe_apiGet hr)
  | nodeAction => exact safe_taskTool hr mediated_nodeAction
  | networkList => exact safe_awaited (safe_apiGet hr)
  | nodeTerminalRun =>
    refine mediated_commandJob fun h => ?_
    exact safe_bind (mediated_nodeTerminalRun rfl) fun _ _ _ _ => mediated_loggedResult
  | vmList => exact safe_awaited mediated_inventoryOverview
  | vmGet => exact safe_awaited (safe_qemuGet hr)
  | vmGuestAgentDiagnose => exact safe_awaited (safe_diagnoseGuestAgent hr admitsDiagnosis)
  | vmAgentPing =>
    exact safe_awaited (safe_agentCall hr fun _ _ _ ha => (ha.resting.sends restsOn_api).admitsPath)
  | vmAgentInfo => exact safe_awaited (safe_agentInfo hr)
  | vmAction => exact safe_taskTool hr mediated_guestAction
  | vmGuestExec =>
    refine mediated_commandJob fun h => ?_
    exact safe_bind (mediated_proxmoxShellRun rfl) fun _ _ _ _ => safe_pure trivial
  | vmTemplateList => exact safe_awaited (safe_listVmTemplates hr)
  | vmTemplateGet => exact safe_awaited (safe_getVmTemplate hr)
  | vmCreate => exact safe_taskTool hr mediated_proxmoxApiCall
  | vmUpdateConfig => exact safe_taskTool hr mediated_vmEndpoint
  | vmPciAttach => exact mediated_vmPciAttachTool
  | vmPciDetach => exact safe_bind mediated_vmDetachPciDevice fun _ _ _ _ => mediated_pciTool
  | vmConvertToTemplate =>
    refine safe_taskTool hr ?_
    exact safe_bind (safe_vmNode hr) fun node _ _ _ => mediated_proxmoxApiCall
  | vmClone =>
    refine safe_taskTool hr ?_
    exact safe_bind (safe_vmNode hr) fun node _ _ _ => mediated_proxmoxApiCall
  | vmDestroy =>
    refine safe_taskTool hr (safe_bind (safe_vmNode hr) fun node _ _ _ => ?_)
    refine safe_bind mediated_proxmoxApiCall fun response _ _ _ => ?_
    exact safe_perform_bind (hr.quiet _ _ rfl) fun _ => safe_pure trivial
  | vmBootDiagnose => exact safe_awaited mediated_diagnoseVmBoot
  | lxcList => exact safe_awaited mediated_inventoryOverview
  | lxcGet => exact safe_awaited (safe_lxcGet hr)
  | lxcAction => exact safe_taskTool hr mediated_guestAction
  | storageList => exact safe_awaited (safe_apiGet hr)
  | storageGet => exact safe_awaited (safe_apiGet hr)
  | storageDownloadUrl => exact safe_taskTool hr hcreate
  | cloudInitSnippetList => exact safe_awaited mediated_listCloudInitSnippets
  | cloudInitSnippetGet => exact safe_awaited mediated_getCloudInitSnippet
  | cloudInitSnippetPut => exact safe_awaited mediated_snippetPutTool
  | cloudInitSnippetDelete => exact safe_awaited mediated_deleteCloudInitSnippet
  | vmCloudInitDump => exact safe_awaited mediated_dumpVmCloudInit
  | userList => exact safe_awaited (safe_apiGet hr)
  | firewallGet => exact safe_awaited (safe_ofExcept_bind fun _ _ => safe_apiGet hr)
  | backupJobs => exact safe_awaited (safe_apiGet hr)
  | backupStart => exact safe_taskTool hr mediated_proxmoxApiCall
  | cephStatus => exact safe_awaited (safe_apiGet hr)
  | sdnList => exact safe_awaited (safe_apiGet hr)
  | taskList => exact safe_awaited (safe_apiGet hr)
  | taskGet =>
    refine safe_awaited (safe_bind (safe_get hr rfl) fun _ _ _ _ => ?_)
    exact safe_bind (safe_get hr rfl) fun _ _ _ _ => safe_pure trivial
  | consoleTicket =>
    exact safe_awaited (safe_ofExcept_bind fun _ _ => mediated_proxmoxApiCall)
  | apiCall =>
    exact safe_awaited (safe_bind mediated_proxmoxApiCall fun _ _ _ _ => safe_taskResult hr)
  | cliRun =>
    refine mediated_commandJob fun h => ?_
    exact safe_bind mediated_proxmoxCliRun fun _ _ _ _ => mediated_loggedResult
  | shellRun =>
    refine mediated_commandJob fun h => ?_
    exact safe_bind (mediated_proxmoxShellRun rfl) fun _ _ _ _ => safe_pure trivial
  | fileRead => exact safe_awaited mediated_proxmoxFileReadBytes
  | fileWrite => exact safe_awaited mediated_fileWriteTool
  | jobGet => exact safe_awaited (safe_jobGet hr)
  | jobWait => exact safe_awaited (safe_jobWait hr)
  | jobCancel => exact safe_awaited mediated_jobCancel
  | jobLogs => exact safe_awaited (safe_bind (safe_logsOf hr) fun _ _ _ _ => safe_pure trivial)
  | bootstrapNodeAccess => exact safe_awaited mediated_bootstrapNodeAccess
  | capabilities => exact safe_pure trivial

/-- What a run of a tool does at a place. -/
theorem actsMediated_of_run {S : Service} {execution : Execution} {call : ToolCall} {t : History}
    {o : Outcome String Unit} (hrun : Run (call.perform S execution) t o) {pre post : History}
    {step : Σ e : Effect, e.Reply} (hsplit : t = pre ++ step :: post) :
    ActsMediated S call.more (call.Exempt S) pre step.1 := by
  have hsafe := (safe_iff_run reply_nonempty).mp (mediated_perform call (h := [])) t o hrun
  have hstep := (respects_iff _ t []).mp hsafe.1 pre step post hsplit
  rw [List.nil_append] at hstep
  exact hstep

/-- A file of a node, as `proxmox_file_read` asks for it. -/
def hostsTool : ToolCall := .fileRead ⟨"default", .node, some "pve", none⟩ "/etc/hosts"

/-- The run in which nothing fails. -/
def hostsToolRun : History × Outcome String Unit :=
  letI := Text.asciiCase
  (hostsTool.perform nodeService { rounds := 1 }).replay (fun _ => quietAnswer) []

end ProxmoxMcp
