/-
  File:      ProxmoxMcp/ToolRules.lean
  Subject:   WHAT THE OPERATIONS BEHIND THE TOOLS SEND: one safety rule for each operation that a tool
             calls, in the way of Rules.lean.

  Two kinds of effects are told apart. Those that only look (`Looking`: whatever reaches nothing, and
  the GETs that address no guest agent) are admitted at any time. The others act, and the rule of
  an operation asks that they be admitted once the operation has asserted and recorded its target.
-/
import ProxmoxMcp.Tools

namespace ProxmoxMcp

open Js Effects Prog

variable [Text.Unicode]

/-- Looking is admitted at any time: what reaches nothing, and the GETs that address no agent. -/
structure Looking (ok : History → Effect → Prop) : Prop where
  quiet : Quiet ok
  gets : ∀ {purpose : Purpose} {cluster : String} {h : History}, purpose.guest = none →
    AdmitsSends ok purpose cluster "GET" h

/-- The requests of an endpoint are admitted from now on, whatever their arguments. -/
def AdmitsPath (S : Service) (ok : History → Effect → Prop) (purpose : Purpose)
    (cluster method path : String) (h : History) : Prop :=
  ∀ args, AdmitsBuilt S ok purpose cluster method path args h

/-- The script is admitted on the node from now on. -/
def AdmitsScript (ok : History → Effect → Prop) (purpose : Purpose) (cluster node script : String)
    (h : History) : Prop :=
  AdmitsLine ok purpose (nodeSite cluster node) cluster (shellScript (nodeScript script)) h

section Rules

variable {S : Service} {ok : History → Effect → Prop} {h : History} {purpose : Purpose}
  {cluster node method path : String} {vmid rounds : Nat} {target : TargetRef}
  {args : List (String × Value)} {execution : Execution}

theorem AdmitsSends.admitsPath (hok : AdmitsSends ok purpose cluster method h) :
    AdmitsPath S ok purpose cluster method path h := fun _ => hok.built

theorem Asserted.mono {permissions : List Permission} {h' : History}
    (ha : Asserted S target permissions h) (hle : h <+: h') : Asserted S target permissions h' := by
  obtain ⟨hpermits, hpassed, entry, hentry, haudit⟩ := ha
  exact ⟨hpermits, fun p hp => hle.subset (hpassed p hp), entry, hentry, hle.subset haudit⟩

/-! ## 1. Requests -/

theorem safe_get (hr : Looking ok) (hguest : purpose.guest = none) :
    Admitted ok (S.apiRequest purpose cluster "GET" path args) h :=
  safe_apiRequest hr.quiet (hr.gets hguest)

theorem safe_locate (hr : Looking ok) (hguest : purpose.guest = none) {kind : GuestType} :
    Admitted ok (S.getVmLocation purpose cluster kind vmid) h :=
  (safe_getVmLocation hr.quiet (hr.gets hguest)).admitted

theorem safe_vmNode (hr : Looking ok) {nodeInput : Option String} :
    Admitted ok (S.vmNode cluster vmid nodeInput) h := by
  cases nodeInput with
  | some node => exact safe_pure trivial
  | none => exact safe_locate hr rfl

/-- **`proxmoxApiCall` sends what it has asserted, validated and recorded.** -/
theorem safe_proxmoxApiCall_validated (hr : Looking ok)
    (hok : ∀ h' validated, h <+: h' → Asserted S target [.api method] h' →
      validate S.catalog method path args = .ok validated →
      AdmitsBuilt S ok ⟨.direct, target, none⟩ target.cluster method path validated.args h') :
    Admitted ok (S.proxmoxApiCall target method path args) h := by
  unfold Service.proxmoxApiCall
  refine safe_bind (safe_assertPermission hr.quiet) fun _ h₁ hle₁ hpass => ?_
  refine safe_ofExcept_bind fun validated hvalid => ?_
  refine safe_bind (safe_auditRecord hr.quiet) fun _ h₂ hle₂ haudit => ?_
  have hasserted : Asserted S target [.api method] h₂ :=
    ⟨by simpa using hpass.1, by simpa using hle₂.subset hpass.2, _, rfl, haudit⟩
  have hsend := hok h₂ validated (hle₁.trans hle₂) hasserted hvalid
  exact safe_bind (safe_apiRequest_built hr.quiet hsend) fun data _ _ _ => safe_pure trivial

theorem safe_proxmoxApiCall (hr : Looking ok)
    (hok : ∀ h', h <+: h' → Asserted S target [.api method] h' →
      AdmitsPath S ok ⟨.direct, target, none⟩ target.cluster method path h') :
    Admitted ok (S.proxmoxApiCall target method path args) h :=
  safe_proxmoxApiCall_validated hr fun h' validated hle hasserted _ =>
    hok h' hle hasserted validated.args

/-- A GET is admitted anyway. -/
theorem safe_apiGet (hr : Looking ok) : Admitted ok (S.proxmoxApiCall target "GET" path args) h :=
  safe_proxmoxApiCall hr fun _ _ _ => (hr.gets rfl).admitsPath

/-- An endpoint of a VM, on the node that is given or found. -/
theorem safe_vmEndpoint (hr : Looking ok) {timeoutMs : Option Number} {nodeInput : Option String}
    {suffix : String}
    (hok : ∀ h' node, h <+: h' → Asserted S (guestSite cluster .qemu node vmid) [.api method] h' →
      AdmitsPath S ok ⟨.direct, guestSite cluster .qemu node vmid, none⟩ cluster method
        (guestEndpoint .qemu node vmid suffix) h') :
    Admitted ok
      (S.vmEndpointWithin timeoutMs cluster vmid nodeInput method suffix args).erase h := by
  rw [erase_vmEndpointWithin]
  refine safe_bind (safe_vmNode hr) fun node h₁ hle₁ _ => ?_
  exact safe_proxmoxApiCall hr fun h' hle => hok h' node (hle₁.trans hle)

omit [Text.Unicode] in
theorem safe_awaited {α : Type} {p : M α} (hp : Admitted ok p h) : Admitted ok (awaited p) h :=
  safe_bind hp fun _ _ _ _ => safe_pure trivial

omit [Text.Unicode] in
theorem safe_map {α β : Type} {p : M α} {f : α → β} (hp : Admitted ok p h) :
    Admitted ok (f <$> p) h := by
  rw [← bind_pure_comp]
  exact safe_bind hp fun _ _ _ _ => safe_pure trivial

/-! ## 2. Tasks and jobs -/

theorem safe_pollUpid (hr : Looking ok) {upid : String} {pollIntervalMs : Nat}
    {onProgress : ProgressSnapshot → M Unit} (hprogress : QuietProgress ok onProgress) :
    ∀ (fuel attempts : Nat) (h : History),
      Admitted ok (S.pollUpid cluster node upid pollIntervalMs onProgress fuel attempts) h
  | 0, _, _ => safe_cut
  | fuel + 1, attempts, h => by
      unfold Service.pollUpid
      refine safe_perform_bind (hr.quiet h _ rfl) fun aborted => ?_
      cases aborted with
      | true => exact safe_throw
      | false =>
        refine safe_bind (safe_get hr rfl) fun status h₁ _ _ => ?_
        refine safe_ofExcept_bind fun word _ => ?_
        split
        · exact safe_pure trivial
        · refine safe_bind (hprogress _ h₁) fun _ h₂ _ _ => ?_
          refine safe_bind (safe_attempt (hr.quiet h₂ _ rfl)).admitted fun _ h₃ _ _ => ?_
          exact safe_pollUpid hr hprogress fuel (attempts + 1) h₃

theorem quietProgress_job (hr : Looking ok) : QuietProgress ok (jobProgress execution) := by
  intro snapshot h
  unfold jobProgress
  refine safe_perform_bind (hr.quiet _ _ rfl) fun _ => ?_
  split
  · exact (safe_attempt (hr.quiet _ _ rfl)).admitted
  · exact safe_pure trivial

/-- **Waiting for a task only looks.** -/
theorem safe_upidExecutor (hr : Looking ok) {upid : String} :
    Admitted ok (S.upidExecutor execution cluster upid) h := by
  unfold Service.upidExecutor Service.waitForUpid
  refine safe_ofExcept_bind fun node _ => ?_
  refine safe_bind (safe_pollUpid hr (quietProgress_job hr) _ _ _) fun status h₁ _ _ => ?_
  exact safe_bind (safe_get hr rfl) fun log _ _ _ => safe_pure trivial

/-- **A job does what its executor does.** -/
theorem safe_runAndSettle (hr : Looking ok) {job : ServerJob} {executor : M Value}
    {finished running : String} (hexec : ∀ h', h <+: h' → Admitted ok executor h') :
    Admitted ok (runAndSettle execution job executor finished running) h := by
  have hstarted : ∀ {r : Unit}, h <+: h ++ [⟨.storeJob { job with state := .running }, r⟩] :=
    List.prefix_append h _
  refine safe_bind (P := fun _ _ => True) ?_ fun final h₁ _ _ => ?_
  · refine safe_perform_bind (hr.quiet h _ rfl) fun r => ?_
    refine safe_bind (P := fun _ _ => True) ?_ fun final h₂ _ _ => ?_
    · refine safe_tryCatch ?_ fun m h₂ _ => ?_
      · exact safe_bind (hexec _ hstarted) fun result _ _ _ => safe_pure trivial
      · exact safe_perform_bind (hr.quiet h₂ _ rfl) fun aborted => safe_pure trivial
    · exact safe_perform_bind (hr.quiet h₂ _ rfl) fun _ => safe_pure trivial
  · refine safe_bind (P := fun _ _ => True) ?_ fun settled h₂ _ _ => ?_
    · cases hmode : execution.waitMode with
      | deferred => exact safe_pure trivial
      | wait => exact safe_pure trivial
      | auto => exact safe_perform_bind (hr.quiet h₁ _ rfl) fun inTime => safe_pure trivial
    · cases settled with
      | none => exact safe_pure trivial
      | some settled => exact safe_perform_bind (hr.quiet h₂ _ rfl) fun logs => safe_pure trivial

theorem safe_taskResult (hr : Looking ok) {operation title finished running : String}
    {response : ApiResult} :
    Admitted ok (S.taskResult execution target operation response title finished running) h := by
  unfold Service.taskResult
  split
  · exact safe_pure trivial
  · refine safe_bind (safe_perform_bind (hr.quiet h _ rfl) fun _ => safe_pure trivial)
      fun job h₁ _ (_ : True) => ?_
    exact safe_runAndSettle hr fun _ _ => safe_upidExecutor hr

theorem safe_taskTool (hr : Looking ok) {operation done finished running : String}
    {request : M ApiResult} (hrequest : Admitted ok request h) :
    Admitted ok (S.taskTool execution target operation request done finished running) h :=
  safe_bind hrequest fun _ _ _ _ => safe_awaited (safe_taskResult hr)

/-- The snapshot of a job is read off its task. -/
theorem safe_readUpidJobSnapshot (hr : Looking ok) {jobId : String} :
    Admitted ok (S.readUpidJobSnapshot jobId) h := by
  unfold Service.readUpidJobSnapshot
  split
  · exact safe_throw
  · refine safe_ofExcept_bind fun node _ => ?_
    refine safe_bind (safe_get hr rfl) fun status _ _ _ => ?_
    exact safe_bind (safe_get hr rfl) fun log _ _ _ => safe_pure trivial

theorem safe_waitForUpidJobSnapshot (hr : Looking ok) {jobId : String} {timeoutMs : Option Nat}
    {started : Nat} : ∀ (fuel : Nat) (h : History),
      Admitted ok (S.waitForUpidJobSnapshot jobId timeoutMs started fuel) h
  | 0, _ => safe_cut
  | fuel + 1, h => by
      refine safe_bind (safe_readUpidJobSnapshot hr) fun snapshot h₁ _ _ => ?_
      split
      · exact safe_pure trivial
      · refine safe_perform_bind (hr.quiet h₁ _ rfl) fun now => ?_
        split
        · exact safe_pure trivial
        · refine safe_bind (safe_attempt (hr.quiet _ _ rfl)).admitted fun _ h₂ _ _ => ?_
          exact safe_waitForUpidJobSnapshot hr fuel h₂

theorem safe_knownJob (hr : Looking ok) {jobId : String} {e : Effect} {he : e.Reply = Option ServerJob}
    (hquiet : e.reaches = false) :
    Admitted ok (knownJob jobId e he) h := by
  refine safe_perform_bind (hr.quiet _ _ hquiet) fun found => ?_
  cases he ▸ found with
  | some job => exact safe_pure trivial
  | none => exact safe_throw

theorem safe_reportLocal (hr : Looking ok) {job : ServerJob} {note : String} :
    Admitted ok (reportLocal job note) h :=
  safe_perform_bind (hr.quiet _ _ rfl) fun _ => safe_pure trivial

theorem safe_jobGet (hr : Looking ok) {jobId : String} :
    Admitted ok (S.jobGet jobId) h := by
  refine safe_perform_bind (hr.quiet _ _ rfl) fun found => ?_
  cases found with
  | some job => exact safe_reportLocal hr
  | none =>
    exact safe_bind (safe_readUpidJobSnapshot hr) fun _ _ _ _ => safe_pure trivial

theorem safe_jobWait (hr : Looking ok) {jobId : String} {timeoutMs : Option Nat} :
    Admitted ok (S.jobWait jobId timeoutMs rounds) h := by
  refine safe_perform_bind (hr.quiet _ _ rfl) fun found => ?_
  cases found with
  | some job => exact safe_bind (safe_knownJob hr rfl) fun _ _ _ _ => safe_reportLocal hr
  | none =>
    refine safe_perform_bind (hr.quiet _ _ rfl) fun started => ?_
    exact safe_bind (safe_waitForUpidJobSnapshot hr rounds _) fun _ _ _ _ =>
      safe_pure trivial

theorem safe_logsOf (hr : Looking ok) {jobId : String} :
    Admitted ok (S.logsOf jobId) h := by
  refine safe_perform_bind (hr.quiet _ _ rfl) fun found => ?_
  cases found with
  | some job => exact safe_perform (hr.quiet _ _ rfl) fun _ => trivial
  | none =>
    exact safe_bind (safe_readUpidJobSnapshot hr) fun _ _ _ _ => safe_pure trivial

/-! ## 3. Shell commands -/

/-- What a shell command may do on a VM: give its words to the agent and ask for their status, or
    run its line over SSH or WinRM. -/
structure AdmitsVmShell (S : Service) (ok : History → Effect → Prop) (purpose : Purpose)
    (cluster : String) (vmid : Nat) (input : ShellInput) (h : History) : Prop where
  agent : ∀ node guestKind, AdmitsBuilt S ok
    { purpose with guest := some (guestSite cluster .qemu node vmid) } cluster "POST"
    (qemuPath node vmid "/agent/exec")
    [("command", .arr ((agentCommand guestKind input).map .str))] h
  status : ∀ node, AdmitsSends ok
    { purpose with guest := some (guestSite cluster .qemu node vmid) } cluster "GET" h
  ssh : ∀ node, AdmitsLine ok purpose (guestSite cluster .qemu node vmid) cluster
    (buildLinuxShellCommand input.interpreter input.command) h
  winrm : ∀ node, AdmitsLine ok purpose (guestSite cluster .qemu node vmid) cluster input.command h

theorem AdmitsVmShell.mono {input : ShellInput} {h' : History}
    (hok : AdmitsVmShell S ok purpose cluster vmid input h) (hle : h <+: h') :
    AdmitsVmShell S ok purpose cluster vmid input h' where
  agent node guestKind := (hok.agent node guestKind).mono hle
  status node := (hok.status node).mono hle
  ssh node := (hok.ssh node).mono hle
  winrm node := (hok.winrm node).mono hle

/-- **A shell command in a VM**: one command by the agent, by SSH or by WinRM. -/
theorem safe_vmShellRun_lines (hr : Looking ok) (hguest : purpose.guest = none) {input : ShellInput}
    {onProgress : ProgressSnapshot → M Unit} (hprogress : QuietProgress ok onProgress)
    (hok : AdmitsVmShell S ok purpose target.cluster vmid input h) :
    Admitted ok (S.vmShellRun purpose target vmid input onProgress rounds) h := by
  unfold Service.vmShellRun
  refine safe_bind (safe_locate hr hguest) fun node h₁ hle₁ _ => ?_
  refine safe_bind (safe_detectVmGuest hr.quiet (hr.gets hguest)) fun details h₂ hle₂ _ => ?_
  have hok₂ := hok.mono (hle₁.trans hle₂)
  obtain ⟨guestKind, available⟩ := details
  dsimp only
  split
  · unfold Service.runQemuGuestAgentCommand
    refine safe_bind (safe_apiRequest_built hr.quiet (hok₂.agent node guestKind))
      fun start h₃ hle₃ _ => ?_
    exact safe_pollAgentExec hr.quiet hprogress rounds 0 h₃ ((hok₂.status node).mono hle₃)
  · split
    · split
      · split
        · split
          · exact safe_throw
          · exact (safe_attempt (hok₂.ssh node h₂ (List.prefix_refl h₂) _)).admitted
        · exact safe_throw
      · exact safe_throw
    · split
      · split
        · split
          · exact safe_throw
          · exact (safe_attempt (hok₂.winrm node h₂ (List.prefix_refl h₂) _)).admitted
        · exact safe_throw
      · exact safe_throw

/-- What a docker probe is given. -/
def dockerProbe (kind : TargetKind) : ShellInput where
  command := if kind == .windows_guest then "Get-Command docker -ErrorAction SilentlyContinue"
    else "command -v docker"
  interpreter := if kind == .windows_guest then .powershell else .sh

/-- The target of a probe. -/
def probeTarget (cluster : String) (kind : TargetKind) (node : String) (vmid : Nat) : TargetRef :=
  { cluster := cluster, kind := kind, node := some node, vmid := some vmid }

/-- **A docker probe** asserts the shell of the guest and runs its command there. -/
theorem safe_probeDocker (hr : Looking ok) {kind : TargetKind}
    (hkind : kind = .linux_guest ∨ kind = .windows_guest)
    (hok : ∀ h', h <+: h' → Asserted S (probeTarget cluster kind node vmid) [.shell] h' →
      AdmitsVmShell S ok ⟨.shell, probeTarget cluster kind node vmid, none⟩ cluster vmid
        (dockerProbe kind) h') :
    Admitted ok (S.probeDocker (probeTarget cluster kind node vmid) rounds) h := by
  have hroute : shellRoute (probeTarget cluster kind node vmid) = .qemu vmid := by
    rcases hkind with rfl | rfl <;> rfl
  refine safe_tryCatch ?_ fun m h' _ => safe_pure trivial
  refine safe_bind (P := fun _ _ => True) ?_ fun result h' _ _ => safe_pure trivial
  show Admitted ok (S.proxmoxShellRun (probeTarget cluster kind node vmid) (dockerProbe kind)
    (fun _ => Pure.pure ()) rounds) h
  unfold Service.proxmoxShellRun
  dsimp only
  refine safe_bind (safe_assertShell hr.quiet) fun _ h₁ hle₁ hpass => ?_
  refine safe_bind (safe_auditRecord hr.quiet) fun _ h₂ hle₂ haudit => ?_
  have hasserted : Asserted S (probeTarget cluster kind node vmid) [.shell] h₂ :=
    ⟨fun p hp => (hpass p hp).1, fun p hp => hle₂.subset (hpass p hp).2, _, rfl, haudit⟩
  rw [hroute]
  exact safe_vmShellRun_lines hr rfl (fun _ _ => safe_pure trivial)
    (hok h₂ (hle₁.trans hle₂) hasserted)

omit [Text.Unicode] in
/-- A node that is resolved belongs to the cluster it was asked for. -/
theorem getNodeTarget_cluster {config : RuntimeConfig} {resolved : ResolvedNodeTarget}
    (hresolved : getNodeTarget config cluster node = .ok resolved) :
    resolved.cluster = cluster := by
  unfold getNodeTarget at hresolved
  cases hcluster : getCluster config cluster with
  | error m =>
    rw [hcluster] at hresolved
    cases hresolved
  | ok clusterConfig =>
    rw [hcluster] at hresolved
    simp only [Except.bind, Bind.bind] at hresolved
    split at hresolved
    · cases hresolved
      rfl
    · cases hresolved

/-- **A terminal command** asserts the shell of its node and runs one line there. -/
theorem safe_nodeTerminalRun (hr : Looking ok) {input : ShellInput}
    (hok : ∀ h', h <+: h' → Asserted S (nodeSite cluster node)
        (if input.useSudo then [.shell, .sudo] else [.shell]) h' →
      AdmitsLine ok ⟨.shell, nodeSite cluster node, none⟩ (nodeSite cluster node) cluster
        (sudoPrefixed input.useSudo (buildLinuxShellCommand input.interpreter input.command)) h') :
    Admitted ok (S.nodeTerminalRun cluster node input) h := by
  unfold Service.nodeTerminalRun
  dsimp only
  refine safe_bind (safe_assertShell hr.quiet) fun _ h₁ hle₁ hpass => ?_
  refine safe_bind (safe_auditRecord hr.quiet) fun _ h₂ hle₂ haudit => ?_
  refine safe_ofExcept_bind fun resolved hresolved => ?_
  refine safe_runSshCommand_line hr.quiet ?_
  rw [getNodeTarget_cluster hresolved]
  exact hok h₂ (hle₁.trans hle₂)
    ⟨fun p hp => (hpass p hp).1, fun p hp => hle₂.subset (hpass p hp).2, _, rfl, haudit⟩

/-- **A CLI command** asserts its family and runs one line on its node. -/
theorem safe_proxmoxCliRun (hr : Looking ok) {family : String} {words : List String}
    {rawCommand : Option String}
    (hok : ∀ h' node, h <+: h' → target.node = some node →
      Asserted S target [.cli family rawCommand.isSome] h' →
      AdmitsLine ok ⟨.cli family, target, none⟩ (nodeSite target.cluster node) target.cluster
        (rawCommand.getD (shellJoin (family :: words))) h') :
    Admitted ok (S.proxmoxCliRun target family words rawCommand) h := by
  unfold Service.proxmoxCliRun
  split
  · rename_i node _ hnode
    refine safe_bind (safe_assertPermission hr.quiet) fun _ h₁ hle₁ hpass => ?_
    refine safe_ofExcept_bind fun resolved hresolved => ?_
    refine safe_bind (safe_auditRecord hr.quiet) fun _ h₂ hle₂ haudit => ?_
    refine safe_runSshCommand_line hr.quiet ?_
    rw [getNodeTarget_cluster hresolved]
    exact hok h₂ node (hle₁.trans hle₂) (Option.filter_eq_some_iff.mp hnode).1
      ⟨by simpa using hpass.1, by simpa using hle₂.subset hpass.2, _, rfl, haudit⟩
  · exact safe_throw

/-! ## 4. The inventory and the reads of a guest -/

theorem safe_vmSummary (hr : Looking ok) {options : InventoryOptions} {entry : ClusterResource}
    (hprobe : options.probeRemote = true → ∀ h' kind, h <+: h' →
      kind = .linux_guest ∨ kind = .windows_guest →
        Admitted ok (S.probeDocker (probeTarget cluster kind node vmid) rounds) h') :
    Admitted ok (S.vmSummary cluster options rounds entry node vmid) h := by
  unfold Service.vmSummary
  refine safe_bind (safe_detectVmGuest hr.quiet (hr.gets rfl)) fun details h₁ hle₁ _ => ?_
  refine safe_bind (P := fun _ _ => True) ?_ fun docker h₂ _ _ => safe_pure trivial
  split
  · rename_i hremote
    refine hprobe (Bool.and_eq_true_iff.mp hremote).1 h₁ _ hle₁ ?_
    split
    · exact .inr rfl
    · exact .inl rfl
  · exact safe_pure trivial

/-- **An overview only looks**, and probes the guests where it is asked to. -/
theorem safe_inventoryOverview (hr : Looking ok) {options : InventoryOptions}
    (hprobe : options.probeRemote = true → ∀ h' node vmid kind, h <+: h' →
      kind = .linux_guest ∨ kind = .windows_guest →
        Admitted ok (S.probeDocker (probeTarget cluster kind node vmid) rounds) h') :
    Admitted ok (S.inventoryOverview cluster options rounds) h := by
  unfold Service.inventoryOverview
  refine safe_bind (safe_getClusterResources hr.quiet (hr.gets rfl)) fun data h₁ hle₁ _ => ?_
  refine safe_bind (safe_get hr rfl) fun version h₂ hle₂ _ => ?_
  refine safe_bind (safe_get hr rfl) fun status h₃ hle₃ _ => ?_
  refine safe_ofExcept_bind fun resources _ => ?_
  refine safe_ofExcept_bind fun nodes _ => ?_
  refine safe_bind (safe_forEach _ _ fun vm _ h₄ hle₄ => ?_) fun vms _ _ _ => ?_
  · refine safe_vmSummary hr fun hremote h' kind hle hkind => ?_
    exact hprobe hremote h' _ _ kind (hle₁.trans (hle₂.trans (hle₃.trans (hle₄.trans hle)))) hkind
  · exact safe_ofExcept_bind fun containers _ => safe_pure trivial

/-- An overview that probes nothing. -/
theorem safe_overview (hr : Looking ok) {options : InventoryOptions}
    (hremote : options.probeRemote = false) :
    Admitted ok (S.inventoryOverview cluster options rounds) h := by
  refine safe_inventoryOverview hr fun h' => ?_
  rw [hremote] at h'
  cases h'

theorem safe_qemuGet (hr : Looking ok) : Admitted ok (S.qemuGet cluster vmid rounds) h := by
  unfold Service.qemuGet
  refine safe_bind (safe_overview hr rfl) fun inventory _ _ _ => ?_
  split
  · exact safe_throw
  · refine safe_bind (safe_apiGet hr) fun status _ _ _ => ?_
    exact safe_bind (safe_apiGet hr) fun config _ _ _ => safe_pure trivial

theorem safe_lxcGet (hr : Looking ok) : Admitted ok (S.lxcGet cluster vmid rounds) h := by
  unfold Service.lxcGet
  refine safe_bind (safe_overview hr rfl) fun inventory _ _ _ => ?_
  split
  · exact safe_throw
  · refine safe_bind (safe_apiGet hr) fun status _ _ _ => ?_
    exact safe_bind (safe_apiGet hr) fun config _ _ _ => safe_pure trivial

theorem safe_listVmTemplates (hr : Looking ok) : Admitted ok (S.listVmTemplates cluster) h := by
  refine safe_bind (safe_getClusterResources hr.quiet (hr.gets rfl)) fun data _ _ _ => ?_
  exact safe_ofExcept_bind fun resources _ => safe_pure trivial

theorem safe_getVmTemplate (hr : Looking ok) : Admitted ok (S.getVmTemplate cluster vmid) h := by
  refine safe_bind (safe_listVmTemplates hr) fun templates _ _ _ => ?_
  split
  · exact safe_throw
  · exact safe_bind (safe_apiGet hr) fun config _ _ _ => safe_pure trivial

theorem safe_agentNode (hr : Looking ok) {nodeInput : Option String} :
    Admitted ok (S.agentNode cluster vmid nodeInput rounds) h := by
  unfold Service.agentNode
  refine safe_bind (P := fun _ _ => True) ?_ fun found h₁ _ _ => ?_
  · cases nodeInput with
    | some node => exact safe_pure trivial
    | none => exact safe_bind (safe_overview hr rfl) fun inventory _ _ _ => safe_pure trivial
  · split
    · exact safe_pure trivial
    · exact safe_throw

/-! ## 5. Scripts and files on a node -/

theorem safe_runNodeScript (hr : Looking ok) {script : String}
    (hok : AdmitsScript ok purpose cluster node script h) :
    Admitted ok (S.runNodeScript purpose cluster node script) h := by
  refine safe_ofExcept_bind fun resolved hresolved => ?_
  refine safe_runSshCommand_line hr.quiet ?_
  rw [getNodeTarget_cluster hresolved]
  exact hok

/-- The head of a snippet operation. -/
theorem safe_snippetAccess (hr : Looking ok) {write : Bool} {action : String}
    {fields : List (String × Value)} :
    Safe ok (S.snippetAccess target write action fields)
      (fun _ h' => Asserted S target [.shell, .file write] h') h := by
  refine safe_bind (safe_assertPermission hr.quiet) fun _ h₁ _ hshell => ?_
  refine safe_bind (safe_assertPermission hr.quiet) fun _ h₂ hle₂ hfile => ?_
  refine (safe_auditRecord hr.quiet).mono fun _ h₃ hle₃ haudit => ⟨?_, ?_, _, rfl, haudit⟩
  · intro p hp
    rcases List.mem_pair.mp hp with rfl | rfl
    · exact hshell.1
    · exact hfile.1
  · intro p hp
    rcases List.mem_pair.mp hp with rfl | rfl
    · exact (hle₂.trans hle₃).subset hshell.2
    · exact hle₃.subset hfile.2

theorem safe_getSnippetStorageRoot (hr : Looking ok) {storage : String} {ensureSnippets : Bool}
    (hok : AdmitsScript ok purpose cluster node (snippetRootScript storage ensureSnippets) h) :
    Admitted ok (S.getSnippetStorageRoot purpose cluster node storage ensureSnippets) h := by
  refine safe_bind (safe_runNodeScript hr hok) fun result _ _ _ => ?_
  exact safe_ofExcept_bind fun _ _ => safe_pure trivial

/-- The read of a file on a node is one line. -/
theorem safe_fileRead_node (hr : Looking ok) {filePath : String}
    (hok : ∀ h', h <+: h' → Asserted S (nodeSite cluster node) [.file false] h' →
      AdmitsLine ok ⟨.file false, nodeSite cluster node, none⟩ (nodeSite cluster node) cluster
        (readScript filePath) h') :
    Admitted ok (S.proxmoxFileReadBytes (nodeSite cluster node) filePath) h := by
  have hroute : ∀ name, nonEmpty (some node) = some name → node = name := fun name hname =>
    Option.some.inj (Option.filter_eq_some_iff.mp hname).1
  unfold Service.proxmoxFileReadBytes
  dsimp only
  refine safe_bind (safe_assertPermission hr.quiet) fun _ h₁ hle₁ hpass => ?_
  refine safe_bind (safe_auditRecord hr.quiet) fun _ h₂ hle₂ haudit => ?_
  have hasserted : Asserted S (nodeSite cluster node) [.file false] h₂ :=
    ⟨by simpa using hpass.1, by simpa using hle₂.subset hpass.2, _, rfl, haudit⟩
  cases hnode : nonEmpty (some node) with
  | none =>
    rw [show fileRoute (nodeSite cluster node) = .none by simp only [fileRoute, nodeSite, hnode]]
    exact safe_throw
  | some name =>
    obtain rfl := hroute name hnode
    rw [show fileRoute (nodeSite cluster node) = .node node by
      simp only [fileRoute, nodeSite, hnode]]
    refine safe_ofExcept_bind fun resolved hresolved => ?_
    refine safe_bind ?_ fun result h₃ _ (_ : True) => ?_
    · refine safe_runSshCommand_line hr.quiet ?_
      rw [getNodeTarget_cluster hresolved]
      exact hok h₂ (hle₁.trans hle₂) hasserted
    · exact safe_ofExcept_bind fun _ _ => safe_pure trivial

/-- **The list of the snippets** is one script on the node. -/
theorem safe_listCloudInitSnippets (hr : Looking ok) {nodeInput storageInput : Option String}
    (hok : ∀ h' node storage, h <+: h' →
      Asserted S (nodeSite cluster node) [.shell, .file false] h' →
      AdmitsScript ok ⟨.shell, nodeSite cluster node, none⟩ cluster node
        (snippetListScript storage) h') :
    Admitted ok (S.listCloudInitSnippets cluster nodeInput storageInput) h := by
  unfold Service.listCloudInitSnippets
  refine safe_ofExcept_bind fun node _ => ?_
  refine safe_ofExcept_bind fun storage _ => ?_
  refine safe_bind (safe_snippetAccess hr) fun _ h₁ hle₁ hasserted => ?_
  refine safe_bind (safe_runNodeScript hr (hok h₁ node storage hle₁ hasserted))
    fun result _ _ _ => ?_
  exact safe_ofExcept_bind fun _ _ => safe_ofExcept fun _ _ => trivial

/-- **The read of a snippet** is the script that finds its storage, and the read of a file. -/
theorem safe_getCloudInitSnippet (hr : Looking ok) {nodeInput storageInput : Option String}
    {snippetPath : String}
    (hroot : ∀ h' node storage, h <+: h' →
      Asserted S (nodeSite cluster node) [.shell, .file false] h' →
      AdmitsScript ok ⟨.shell, nodeSite cluster node, none⟩ cluster node
        (snippetRootScript storage false) h')
    (hread : ∀ h' node root normalizedPath, h <+: h' →
      normalizeSnippetPath snippetPath = .ok normalizedPath →
      Asserted S (nodeSite cluster node) [.file false] h' →
      AdmitsLine ok ⟨.file false, nodeSite cluster node, none⟩ (nodeSite cluster node) cluster
        (readScript (root ++ "/snippets/" ++ normalizedPath)) h') :
    Admitted ok (S.getCloudInitSnippet cluster nodeInput storageInput snippetPath) h := by
  unfold Service.getCloudInitSnippet Service.proxmoxFileRead
  refine safe_ofExcept_bind fun node _ => ?_
  refine safe_ofExcept_bind fun storage _ => ?_
  refine safe_ofExcept_bind fun normalizedPath hpath => ?_
  refine safe_bind (safe_snippetAccess hr) fun _ h₁ hle₁ hasserted => ?_
  refine safe_bind (safe_getSnippetStorageRoot hr (hroot h₁ node storage hle₁ hasserted))
    fun storageRoot h₂ hle₂ _ => ?_
  refine safe_bind (safe_bind (safe_fileRead_node hr fun h' hle => ?_)
    fun content _ _ _ => safe_pure trivial) fun content _ _ (_ : True) => ?_
  · exact hread h' node _ _ (hle₁.trans (hle₂.trans hle)) hpath
  · exact safe_ofExcept_bind fun ref _ => safe_pure trivial

/-- **A dump of cloud-init** is one `qm` line on the node of the VM. -/
theorem safe_dumpVmCloudInit (hr : Looking ok) {part : CloudInitSection}
    (hok : ∀ h' node, h <+: h' → Asserted S (nodeSite cluster node) [.cli "qm" false] h' →
      AdmitsLine ok ⟨.cli "qm", nodeSite cluster node, none⟩ (nodeSite cluster node) cluster
        (shellJoin ["qm", "cloudinit", "dump", toString vmid, part.text]) h') :
    Admitted ok (S.dumpVmCloudInit cluster vmid part) h := by
  unfold Service.dumpVmCloudInit
  refine safe_bind (safe_locate hr rfl) fun node h₁ hle₁ _ => ?_
  refine safe_bind (safe_assertPermission hr.quiet) fun _ h₂ hle₂ _ => ?_
  refine safe_bind (safe_auditRecord hr.quiet) fun _ h₃ hle₃ _ => ?_
  refine safe_bind (safe_proxmoxCliRun hr fun h' name hle hname hasserted => ?_)
    fun result _ _ _ => ?_
  · obtain rfl : node = name := Option.some.inj hname
    exact hok h' node (hle₁.trans (hle₂.trans (hle₃.trans hle))) hasserted
  · exact safe_ofExcept_bind fun _ _ => safe_pure trivial

/-! ## 6. The diagnoses -/

/-- A ping or an inquiry of the agent. -/
theorem safe_agentCall (hr : Looking ok) {timeoutMs : Option Number} {nodeInput : Option String}
    {suffix : String}
    (hok : ∀ h' node, h <+: h' →
      Asserted S (guestSite cluster .qemu node vmid) [.api method] h' →
      AdmitsPath S ok ⟨.direct, guestSite cluster .qemu node vmid, none⟩ cluster method
        (guestEndpoint .qemu node vmid suffix) h') :
    Admitted ok (S.agentCall timeoutMs cluster vmid nodeInput method suffix rounds).erase h := by
  simp only [Service.agentCall, erase_bind, erase_untimed, erase_proxmoxApiCallWithin]
  refine safe_bind (safe_agentNode hr) fun node h₁ hle₁ _ => ?_
  exact safe_proxmoxApiCall hr fun h' hle => hok h' node (hle₁.trans hle)

theorem safe_agentInfo (hr : Looking ok) {timeoutMs : Option Number} {nodeInput : Option String} :
    Admitted ok (S.agentInfo timeoutMs cluster vmid nodeInput rounds).erase h :=
  safe_agentCall hr fun _ _ _ _ => (hr.gets rfl).admitsPath

omit [Text.Unicode] in
theorem safe_caught {α : Type} {p : TimedM α} (hp : Admitted ok p.erase h) :
    Admitted ok (caught p).erase h := by
  simp only [caught, erase_tryCatch, erase_map, erase_pure]
  exact safe_tryCatch (safe_map hp) fun m _ _ => safe_pure trivial

/-- What a diagnosis of the agent does: it pings the agent and dumps the sections of cloud-init. -/
structure AdmitsDiagnosis (S : Service) (ok : History → Effect → Prop) (cluster : String)
    (vmid : Nat) (h : History) : Prop where
  ping : ∀ h' node, h <+: h' → Asserted S (guestSite cluster .qemu node vmid) [.api "POST"] h' →
    AdmitsPath S ok ⟨.direct, guestSite cluster .qemu node vmid, none⟩ cluster "POST"
      (guestEndpoint .qemu node vmid "/agent/ping") h'
  dump : ∀ h' node part, h <+: h' → Asserted S (nodeSite cluster node) [.cli "qm" false] h' →
    AdmitsLine ok ⟨.cli "qm", nodeSite cluster node, none⟩ (nodeSite cluster node) cluster
      (shellJoin ["qm", "cloudinit", "dump", toString vmid, CloudInitSection.text part]) h'

theorem AdmitsDiagnosis.mono {h' : History} (hok : AdmitsDiagnosis S ok cluster vmid h)
    (hle : h <+: h') : AdmitsDiagnosis S ok cluster vmid h' where
  ping h'' node hle' := hok.ping h'' node (hle.trans hle')
  dump h'' node part hle' := hok.dump h'' node part (hle.trans hle')

theorem safe_diagnoseGuestAgent (hr : Looking ok) {timeoutMs : Option Number}
    {nodeInput : Option String} (hok : AdmitsDiagnosis S ok cluster vmid h) :
    Admitted ok (S.diagnoseGuestAgent timeoutMs cluster vmid nodeInput rounds).erase h := by
  simp only [Service.diagnoseGuestAgent, erase_bind, erase_untimed, erase_ofExcept, erase_forEach,
    erase_pure]
  refine safe_bind (safe_qemuGet hr) fun found h₁ hle₁ _ => ?_
  refine safe_ofExcept_bind fun _ _ => ?_
  refine safe_bind (safe_caught (safe_agentCall hr fun h' node hle => ?_)) fun ping h₂ hle₂ _ => ?_
  · exact hok.ping h' node (hle₁.trans hle)
  · refine safe_bind (safe_caught (safe_agentInfo hr)) fun info h₃ hle₃ _ => ?_
    refine safe_bind (safe_forEach _ _ fun part _ h₄ hle₄ => ?_) fun sections _ _ _ => ?_
    · refine safe_bind (safe_caught ?_) fun dumped _ _ _ => safe_pure trivial
      rw [erase_untimed]
      refine safe_dumpVmCloudInit hr fun h' node hle => ?_
      exact hok.dump h' node part (hle₁.trans (hle₂.trans (hle₃.trans (hle₄.trans hle))))
    · exact safe_ofExcept_bind fun _ _ => safe_pure trivial

/-- **The diagnosis of a boot** does one thing more: it runs its script on the node. -/
theorem safe_diagnoseVmBoot (hr : Looking ok) {timeoutMs : Option Number}
    {nodeInput : Option String} {script : Nat → Value → String}
    (hok : AdmitsDiagnosis S ok cluster vmid h)
    (hscript : ∀ h' node config, h <+: h' → Asserted S (nodeSite cluster node) [.shell] h' →
      AdmitsLine ok ⟨.shell, nodeSite cluster node, none⟩ (nodeSite cluster node) cluster
        (buildLinuxShellCommand .bash (script vmid config)) h') :
    Admitted ok (S.diagnoseVmBoot timeoutMs cluster vmid nodeInput script rounds).erase h := by
  simp only [Service.diagnoseVmBoot, erase_bind, erase_untimed, erase_ofExcept, erase_pure]
  refine safe_bind (safe_diagnoseGuestAgent hr hok) fun diagnosis h₁ hle₁ _ => ?_
  refine safe_bind (safe_qemuGet hr) fun found h₂ hle₂ _ => ?_
  refine safe_ofExcept_bind fun _ _ => ?_
  refine safe_bind (safe_caught ?_) fun inspection _ _ _ => safe_pure trivial
  rw [erase_untimed]
  refine safe_nodeTerminalRun hr fun h' hle hasserted => ?_
  exact hscript h' _ _ (hle₁.trans (hle₂.trans hle)) hasserted

end Rules

end ProxmoxMcp
