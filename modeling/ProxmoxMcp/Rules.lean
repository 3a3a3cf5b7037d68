/-
  File:      ProxmoxMcp/Rules.lean
  Subject:   WHAT THE OPERATIONS SEND: one safety rule for each building block of the service.

  Only requests and commands are restricted: `Quiet ok` says that `ok` admits every other effect.
  Under it the rule of an operation asks that each request and each command it makes be admitted,
  after whatever history it is made, and says what the operation returns.
-/
import ProxmoxMcp.Guests

namespace ProxmoxMcp

open Js Effects Prog

variable [Text.Unicode]

/-- The effects that reach Proxmox. -/
def Effect.reaches : Effect → Bool
  | .send _ | .exec _ => true
  | _ => false

/-- Only what reaches Proxmox is restricted. -/
def Quiet (ok : History → Effect → Prop) : Prop := ∀ h e, e.reaches = false → ok h e

/-- A request with the method `method` for `purpose`. -/
def RestCall.Is (call : RestCall) (purpose : Purpose) (cluster method : String) : Prop :=
  call.purpose = purpose ∧ call.cluster = cluster ∧ call.request.method = Text.toUpperCase method

/-- Every request of this purpose and method is admitted from now on. -/
def AdmitsSends (ok : History → Effect → Prop) (purpose : Purpose) (cluster method : String)
    (h : History) : Prop :=
  ∀ h', h <+: h' → ∀ call : RestCall, call.Is purpose cluster method → ok h' (.send call)

/-- Every command of this purpose on this site is admitted from now on. -/
def AdmitsExecs (ok : History → Effect → Prop) (purpose : Purpose) (site : TargetRef)
    (h : History) : Prop :=
  ∀ h', h <+: h' → ∀ command : RemoteCommand, command.purpose = purpose → command.site = site →
    ok h' (.exec command)

section Rules

variable {S : Service} {ok : History → Effect → Prop} {h : History}
  {purpose : Purpose} {cluster method path : String} {args : List (String × Value)}

omit [Text.Unicode] in
theorem AdmitsSends.mono [Text.Unicode] {h' : History} (hok : AdmitsSends ok purpose cluster method h)
    (hle : h <+: h') : AdmitsSends ok purpose cluster method h' :=
  fun h'' hle' => hok h'' (hle.trans hle')

omit [Text.Unicode] in
theorem AdmitsExecs.mono {site : TargetRef} {h' : History} (hok : AdmitsExecs ok purpose site h)
    (hle : h <+: h') : AdmitsExecs ok purpose site h' :=
  fun h'' hle' => hok h'' (hle.trans hle')

/-! ## 1. Effects that reach nothing -/

omit [Text.Unicode] in
theorem safe_quiet {e : Effect} (hq : Quiet ok) (he : e.reaches = false) :
    Safe ok (perform e : M e.Reply) (fun r h' => h' = h ++ [⟨e, r⟩]) h :=
  safe_perform (hq h e he) fun _ => rfl

omit [Text.Unicode] in
/-- An attempt at an effect that is admitted. -/
theorem safe_attempt {α : Type} {e : Effect} {he : e.Reply = Except String α} (hok : ok h e) :
    Safe ok (attempt e he) (fun a h' => ∃ r, he ▸ r = Except.ok a ∧ h' = h ++ [⟨e, r⟩]) h :=
  safe_perform_bind hok fun r => safe_ofExcept fun _ ha => ⟨r, ha, rfl⟩

omit [Text.Unicode] in
theorem safe_ensureCluster (hq : Quiet ok) : Admitted ok (S.ensureCluster cluster) h := by
  unfold Service.ensureCluster
  split
  · exact (safe_attempt (hq h _ rfl)).admitted
  · exact safe_pure trivial

/-- **An assertion passes and leaves its mark, or the operation ends here.** -/
theorem safe_assertPermission (hq : Quiet ok) {target : TargetRef} {p : Permission} :
    Safe ok (S.assertPermission target p) (fun _ h' => Permits S.config.policies target p ∧
      ⟨.passed p target, ()⟩ ∈ h') h := by
  unfold Service.assertPermission
  refine safe_ofExcept_bind fun _ hpass => ?_
  exact safe_perform (hq h _ rfl) fun _ => ⟨hpass, by simp⟩

omit [Text.Unicode] in
/-- An audit record is written, or the operation ends here. -/
theorem safe_auditRecord (hq : Quiet ok) {action : String} {target : TargetRef}
    {fields : List (String × Value)} :
    Safe ok (S.auditRecord action target fields)
      (fun _ h' => ⟨.audit ⟨action, target, fields⟩, .ok ()⟩ ∈ h') h :=
  (safe_attempt (hq h _ rfl)).mono fun _ _ _ ⟨_, hr, e⟩ => by simp [e, ← hr]

/-! ## 2. Requests -/

omit [Text.Unicode] in
theorem safe_buildHeaders (hq : Quiet ok) {config : ClusterConfig} :
    Admitted ok (buildHeaders cluster config) h := by
  unfold buildHeaders
  refine safe_bind (safe_quiet hq rfl).admitted fun auth h₁ _ _ => ?_
  cases auth with
  | api_token => exact safe_pure trivial
  | secret_ref => exact safe_throw
  | ssh_bootstrap => exact safe_throw
  | ticket =>
    refine safe_bind (safe_attempt (hq h₁ _ rfl)).admitted fun b h₂ _ _ => ?_
    split
    · exact safe_throw
    · exact safe_pure trivial

/-- The method of a request. -/
theorem method_buildRequest {config : ClusterConfig} {request : RestRequest}
    (hb : buildRequest config method path args = .ok request) :
    request.method = Text.toUpperCase method := by
  unfold buildRequest at hb
  dsimp only at hb
  split at hb
  · cases hb
  · split at hb
    · split at hb <;> cases hb <;> rfl
    · cases hb
      rfl

/-- The requests that are built for a call are admitted from now on. -/
def AdmitsBuilt (S : Service) (ok : History → Effect → Prop) (purpose : Purpose)
    (cluster method path : String) (args : List (String × Value)) (h : History) : Prop :=
  ∀ h', h <+: h' → ∀ config request, getCluster S.config cluster = .ok config →
    buildRequest config method path args = .ok request → ok h' (.send ⟨purpose, cluster, request⟩)

omit [Text.Unicode] in
theorem AdmitsBuilt.mono [Text.Unicode] {h' : History}
    (hok : AdmitsBuilt S ok purpose cluster method path args h) (hle : h <+: h') :
    AdmitsBuilt S ok purpose cluster method path args h' :=
  fun h'' hle' => hok h'' (hle.trans hle')

theorem AdmitsSends.built (hok : AdmitsSends ok purpose cluster method h) :
    AdmitsBuilt S ok purpose cluster method path args h := by
  intro h' hle config request _ hb
  exact hok h' hle ⟨purpose, cluster, request⟩ ⟨rfl, rfl, method_buildRequest hb⟩

theorem safe_request_built (hq : Quiet ok)
    (hok : AdmitsBuilt S ok purpose cluster method path args h) :
    Admitted ok (S.request purpose cluster method path args) h := by
  unfold Service.request
  refine safe_ofExcept_bind fun config hconfig => ?_
  refine safe_ofExcept_bind fun request hb => ?_
  refine safe_bind (safe_buildHeaders hq) fun _ h₁ hle₁ _ => ?_
  have hsend := hok h₁ hle₁ config request hconfig hb
  refine safe_bind (safe_attempt hsend).admitted fun reply h₂ _ _ => ?_
  exact safe_ofExcept fun _ _ => trivial

/-- **`apiRequest` sends what is built for it**, possibly twice. -/
theorem safe_apiRequest_built (hq : Quiet ok)
    (hok : AdmitsBuilt S ok purpose cluster method path args h) :
    Admitted ok (S.apiRequest purpose cluster method path args) h := by
  unfold Service.apiRequest
  refine safe_bind (safe_ensureCluster hq) fun _ h₁ hle₁ _ => ?_
  refine safe_tryCatch (safe_request_built hq (hok.mono hle₁)) fun m h₂ hle₂ => ?_
  split
  · refine safe_bind (safe_attempt (hq h₂ _ rfl)).admitted fun _ h₃ hle₃ _ => ?_
    refine safe_bind (safe_ensureCluster hq) fun _ h₄ hle₄ _ => ?_
    exact safe_request_built hq (hok.mono (hle₁.trans (hle₂.trans (hle₃.trans hle₄))))
  · exact safe_throw

theorem safe_apiRequest (hq : Quiet ok) (hok : AdmitsSends ok purpose cluster method h) :
    Admitted ok (S.apiRequest purpose cluster method path args) h :=
  safe_apiRequest_built hq hok.built

/-! ## 3. Where an operation goes -/

/-- What is fetched is put in the cache. -/
theorem safe_fetchResources (hq : Quiet ok) (hok : AdmitsSends ok purpose cluster "GET" h) :
    Safe ok (S.fetchResources purpose cluster) (fun resources h' =>
      ∃ now, ⟨.cacheSet cluster ⟨now, resources⟩, ()⟩ ∈ h') h := by
  unfold Service.fetchResources
  refine safe_bind (safe_apiRequest hq hok) fun resources h₁ _ _ => ?_
  refine safe_perform_bind (hq _ _ rfl) fun now => ?_
  refine safe_perform_bind (hq _ _ rfl) fun _ => ?_
  exact safe_pure ⟨now, by simp⟩

/-- The resources come from the cache, or from one request. -/
theorem safe_getClusterResources (hq : Quiet ok) (hok : AdmitsSends ok purpose cluster "GET" h)
    {forceRefresh : Bool} :
    Admitted ok (S.getClusterResources purpose cluster forceRefresh) h := by
  unfold Service.getClusterResources
  split
  · exact (safe_fetchResources hq hok).admitted
  · refine safe_bind (P := fun _ _ => True) ?_ fun cached h₁ hle₁ _ => ?_
    · unfold Service.cachedResources
      refine safe_perform_bind (hq h _ rfl) fun cached => ?_
      cases cached with
      | none => exact safe_pure trivial
      | some state => exact safe_perform_bind (hq _ _ rfl) fun now => safe_pure trivial
    · cases cached with
      | some resources => exact safe_pure trivial
      | none => exact (safe_fetchResources hq (hok.mono hle₁)).admitted

/-- The node of a guest in the resources that have just been fetched. -/
def LocatedBy (h : History) (cluster : String) (kind : GuestType) (vmid : Nat) (node : String) :
    Prop :=
  ∃ now resources entries, ⟨.cacheSet cluster ⟨now, resources⟩, ()⟩ ∈ h ∧
    listResources resources = .ok entries ∧ locate entries kind vmid = some node

/-- **A guest is located in the resources that have just been fetched.** -/
theorem safe_getVmLocation (hq : Quiet ok) (hok : AdmitsSends ok purpose cluster "GET" h)
    {kind : GuestType} {vmid : Nat} :
    Safe ok (S.getVmLocation purpose cluster kind vmid)
      (fun node h' => LocatedBy h' cluster kind vmid node) h := by
  unfold Service.getVmLocation
  refine safe_bind (safe_fetchResources hq hok) fun resources h₁ _ ⟨now, hset⟩ => ?_
  refine safe_ofExcept_bind fun entries hentries => ?_
  split
  · rename_i node hnode
    exact safe_pure ⟨now, resources, entries, hset, hentries, hnode⟩
  · exact safe_throw

/-! ## 4. Commands -/

/-- This command line is admitted on the site from now on. -/
def AdmitsLine (ok : History → Effect → Prop) (purpose : Purpose) (site : TargetRef)
    (cluster command : String) (h : History) : Prop :=
  ∀ h', h <+: h' → ∀ transport, ok h' (.exec ⟨purpose, cluster, site, transport, command⟩)

omit [Text.Unicode] in
theorem AdmitsLine.mono {site : TargetRef} {command : String} {h' : History}
    (hok : AdmitsLine ok purpose site cluster command h) (hle : h <+: h') :
    AdmitsLine ok purpose site cluster command h' :=
  fun h'' hle' => hok h'' (hle.trans hle')

omit [Text.Unicode] in
theorem AdmitsExecs.line {site : TargetRef} {command : String} (hok : AdmitsExecs ok purpose site h) :
    AdmitsLine ok purpose site cluster command h :=
  fun h' hle _ => hok h' hle _ rfl rfl

omit [Text.Unicode] in
theorem safe_sshExec {site : TargetRef} {resolved : ResolvedNodeTarget} {command : String}
    (hok : AdmitsLine ok purpose site resolved.cluster command h) :
    Admitted ok (S.sshExec purpose site resolved command) h := by
  unfold Service.sshExec
  refine safe_ofExcept_bind fun transport _ => ?_
  exact (safe_attempt (hok h (List.prefix_refl h) _)).admitted

/-- **`runSshCommand` runs its command line on its site**, possibly twice. -/
theorem safe_runSshCommand_line (hq : Quiet ok) {site : TargetRef} {resolved : ResolvedNodeTarget}
    {command : String} (hok : AdmitsLine ok purpose site resolved.cluster command h) :
    Admitted ok (S.runSshCommand purpose site resolved command) h := by
  unfold Service.runSshCommand
  refine safe_bind (safe_ensureCluster hq) fun _ h₁ hle₁ _ => ?_
  refine safe_tryCatch (safe_sshExec (hok.mono hle₁)) fun m h₂ hle₂ => ?_
  split
  · refine safe_bind (safe_attempt (hq h₂ _ rfl)).admitted fun _ h₃ hle₃ _ => ?_
    refine safe_bind (safe_ensureCluster hq) fun _ h₄ hle₄ _ => ?_
    exact safe_sshExec (hok.mono (hle₁.trans (hle₂.trans (hle₃.trans hle₄))))
  · exact safe_throw

theorem safe_runSshCommand (hq : Quiet ok) {site : TargetRef} {resolved : ResolvedNodeTarget}
    {command : String} (hok : AdmitsExecs ok purpose site h) :
    Admitted ok (S.runSshCommand purpose site resolved command) h :=
  safe_runSshCommand_line hq hok.line

/-! ## 5. The guest agent -/

/-- A report of progress that reaches nothing. -/
def QuietProgress (ok : History → Effect → Prop) (onProgress : ProgressSnapshot → M Unit) : Prop :=
  ∀ snapshot h, Admitted ok (onProgress snapshot) h

theorem safe_detectVmGuest (hq : Quiet ok) (hok : AdmitsSends ok purpose cluster "GET" h)
    {node : String} {vmid : Nat} : Admitted ok (S.detectVmGuest purpose cluster node vmid) h := by
  unfold Service.detectVmGuest
  refine safe_bind (safe_apiRequest hq hok) fun config h₁ _ _ => ?_
  exact safe_ofExcept_bind fun _ _ => safe_pure trivial

theorem safe_pollAgentExec (hq : Quiet ok) {node : String} {vmid : Nat} {start : Value}
    {onProgress : ProgressSnapshot → M Unit} (hprogress : QuietProgress ok onProgress) :
    ∀ (fuel attempts : Nat) (h : History), AdmitsSends ok purpose cluster "GET" h →
      Admitted ok (S.pollAgentExec purpose cluster node vmid start onProgress fuel attempts) h
  | 0, _, _, _ => safe_cut
  | fuel + 1, attempts, h, hok => by
      unfold Service.pollAgentExec
      refine safe_perform_bind (hq h _ rfl) fun aborted => ?_
      have hok₁ := hok.mono (List.prefix_append h [⟨.aborted, aborted⟩])
      cases aborted with
      | true => exact safe_throw
      | false =>
        refine safe_ofExcept_bind fun pid _ => ?_
        refine safe_bind (safe_apiRequest hq hok₁) fun status h₂ hle₂ _ => ?_
        refine safe_ofExcept_bind fun exited _ => ?_
        split
        · exact safe_pure trivial
        · refine safe_bind (hprogress _ h₂) fun _ h₃ hle₃ _ => ?_
          refine safe_bind (safe_attempt (hq h₃ _ rfl)).admitted fun _ h₄ hle₄ _ => ?_
          exact safe_pollAgentExec hq hprogress fuel (attempts + 1) h₄
            (hok₁.mono (hle₂.trans (hle₃.trans hle₄)))

/-- **A guest-agent command is one POST to the agent and then GETs of its status.** -/
theorem safe_runQemuGuestAgentCommand (hq : Quiet ok) {node : String} {vmid : Nat}
    {command : List String} {onProgress : ProgressSnapshot → M Unit}
    (hprogress : QuietProgress ok onProgress) {rounds : Nat}
    (hok : ∀ method, AdmitsSends ok
      { purpose with guest := some (guestSite cluster .qemu node vmid) } cluster method h) :
    Admitted ok (S.runQemuGuestAgentCommand purpose cluster node vmid command onProgress rounds)
      h := by
  unfold Service.runQemuGuestAgentCommand
  refine safe_bind (safe_apiRequest hq (hok "POST")) fun start h₁ hle₁ _ => ?_
  exact safe_pollAgentExec hq hprogress rounds 0 h₁ ((hok "GET").mono hle₁)

/-! ## 6. Shell and files -/

/-- A target that has been asserted and recorded. -/
structure Asserted (S : Service) (target : TargetRef) (permissions : List Permission)
    (h : History) : Prop where
  permits : ∀ p ∈ permissions, Permits S.config.policies target p
  passed : ∀ p ∈ permissions, ⟨.passed p target, ()⟩ ∈ h
  audited : ∃ entry : AuditEntry, entry.target = target ∧ ⟨.audit entry, .ok ()⟩ ∈ h

/-- Where a route arrives. -/
def Arrives (cluster : String) : Route → TargetRef → History → Prop
  | .node node, site, _ => site = nodeSite cluster node
  | .lxc vmid, site, h =>
      ∃ node, site = guestSite cluster .lxc node vmid ∧ LocatedBy h cluster .lxc vmid node
  | .qemu vmid, site, h =>
      ∃ node, site = guestSite cluster .qemu node vmid ∧ LocatedBy h cluster .qemu vmid node
  | .none, _, _ => False

/-- What an operation may do on its route: read the cluster, and act where it arrives. -/
structure AdmitsRoute (ok : History → Effect → Prop) (purpose : Purpose) (cluster : String)
    (route : Route) (h : History) : Prop where
  reads : AdmitsSends ok purpose cluster "GET" h
  execs : ∀ h' site, h <+: h' → Arrives cluster route site h' → AdmitsExecs ok purpose site h'
  sends : ∀ h' site, h <+: h' → Arrives cluster route site h' → ∀ method,
    AdmitsSends ok { purpose with guest := some site } cluster method h'

theorem safe_assertShell (hq : Quiet ok) {target : TargetRef} {useSudo : Bool} :
    Safe ok (S.assertShell target useSudo) (fun _ h' =>
      ∀ p ∈ (if useSudo then [Permission.shell, .sudo] else [.shell]),
        Permits S.config.policies target p ∧ ⟨.passed p target, ()⟩ ∈ h') h := by
  unfold Service.assertShell
  refine safe_bind (safe_assertPermission hq) fun _ h₁ _ hshell => ?_
  cases useSudo with
  | false =>
    refine safe_pure fun p hp => ?_
    obtain rfl := List.mem_singleton.mp hp
    exact hshell
  | true =>
    refine (safe_assertPermission hq).mono fun _ h₂ hle₂ hsudo p hp => ?_
    rcases List.mem_pair.mp hp with rfl | rfl
    · exact ⟨hshell.1, hle₂.subset hshell.2⟩
    · exact hsudo

/-- A shell command in a VM goes to its agent, to SSH or to WinRM. -/
theorem safe_vmShellRun (hq : Quiet ok) {target : TargetRef} {vmid : Nat} {input : ShellInput}
    {onProgress : ProgressSnapshot → M Unit} (hprogress : QuietProgress ok onProgress)
    {rounds : Nat} (hok : AdmitsRoute ok purpose target.cluster (.qemu vmid) h) :
    Admitted ok (S.vmShellRun purpose target vmid input onProgress rounds) h := by
  unfold Service.vmShellRun
  refine safe_bind (safe_getVmLocation hq hok.reads) fun node h₁ hle₁ hnode => ?_
  refine safe_bind (safe_detectVmGuest hq (hok.reads.mono hle₁)) fun ⟨guestKind, available⟩ h₂ hle₂ _ => ?_
  have hexec := (hok.execs h₁ _ hle₁ ⟨node, rfl, hnode⟩).mono hle₂
  have hsend := fun method => (hok.sends h₁ _ hle₁ ⟨node, rfl, hnode⟩ method).mono hle₂
  dsimp only
  split
  · exact safe_runQemuGuestAgentCommand hq hprogress hsend
  · split
    · split
      · split
        · split
          · exact safe_throw
          · exact (safe_attempt (hexec h₂ (List.prefix_refl h₂) _ rfl rfl)).admitted
        · exact safe_throw
      · exact safe_throw
    · split
      · split
        · split
          · exact safe_throw
          · exact (safe_attempt (hexec h₂ (List.prefix_refl h₂) _ rfl rfl)).admitted
        · exact safe_throw
      · exact safe_throw

/-- **A shell command acts only where its route arrives, and only on an asserted target.** -/
theorem safe_proxmoxShellRun (hq : Quiet ok) {target : TargetRef} {input : ShellInput}
    {onProgress : ProgressSnapshot → M Unit} (hprogress : QuietProgress ok onProgress)
    {rounds : Nat}
    (hok : ∀ h', h <+: h' →
      Asserted S target (if input.useSudo then [.shell, .sudo] else [.shell]) h' →
      AdmitsRoute ok ⟨.shell, target, none⟩ target.cluster (shellRoute target) h') :
    Admitted ok (S.proxmoxShellRun target input onProgress rounds) h := by
  unfold Service.proxmoxShellRun
  dsimp only
  refine safe_bind (safe_assertShell hq) fun _ h₁ hle₁ hpass => ?_
  refine safe_bind (safe_auditRecord hq) fun _ h₂ hle₂ haudit => ?_
  have hroute := hok h₂ (hle₁.trans hle₂) ⟨fun p hp => (hpass p hp).1,
    fun p hp => hle₂.subset (hpass p hp).2, _, rfl, haudit⟩
  split
  · rename_i node e
    refine safe_ofExcept_bind fun resolved _ => ?_
    exact safe_runSshCommand hq (hroute.execs h₂ _ (List.prefix_refl h₂) (by rw [e]; exact rfl))
  · rename_i vmid e
    refine safe_bind (safe_getVmLocation hq hroute.reads) fun node h₃ hle₃ hnode => ?_
    refine safe_ofExcept_bind fun resolved _ => ?_
    exact safe_runSshCommand hq (hroute.execs h₃ _ hle₃ (by rw [e]; exact ⟨node, rfl, hnode⟩))
  · rename_i vmid e
    exact safe_vmShellRun hq hprogress (e ▸ hroute)
  · exact safe_throw

/-- **A file is read only where the route arrives, and only on an asserted target.** -/
theorem safe_proxmoxFileReadBytes (hq : Quiet ok) {target : TargetRef} {filePath : String}
    (hok : ∀ h', h <+: h' → Asserted S target [.file false] h' →
      AdmitsRoute ok ⟨.file false, target, none⟩ target.cluster (fileRoute target) h') :
    Admitted ok (S.proxmoxFileReadBytes target filePath) h := by
  unfold Service.proxmoxFileReadBytes
  dsimp only
  refine safe_bind (safe_assertPermission hq) fun _ h₁ hle₁ hpass => ?_
  refine safe_bind (safe_auditRecord hq) fun _ h₂ hle₂ haudit => ?_
  have hroute := hok h₂ (hle₁.trans hle₂) ⟨by simpa using hpass.1,
    by simpa using hle₂.subset hpass.2, _, rfl, haudit⟩
  split
  · rename_i node e
    refine safe_ofExcept_bind fun resolved _ => ?_
    refine safe_bind (safe_runSshCommand hq (hroute.execs h₂ _ (List.prefix_refl h₂)
      (by rw [e]; exact rfl))) fun result h₃ _ _ => ?_
    exact safe_ofExcept_bind fun _ _ => safe_pure trivial
  · rename_i vmid e
    refine safe_bind (safe_getVmLocation hq hroute.reads) fun node h₃ hle₃ hnode => ?_
    refine safe_ofExcept_bind fun resolved _ => ?_
    refine safe_bind (safe_runSshCommand hq (hroute.execs h₃ _ hle₃
      (by rw [e]; exact ⟨node, rfl, hnode⟩))) fun result h₄ _ _ => ?_
    exact safe_ofExcept_bind fun _ _ => safe_pure trivial
  · rename_i vmid e
    refine safe_bind (safe_getVmLocation hq hroute.reads) fun node h₃ hle₃ hnode => ?_
    refine safe_bind (safe_detectVmGuest hq (hroute.reads.mono hle₃))
      fun ⟨_, available⟩ h₄ hle₄ _ => ?_
    dsimp only
    split
    · refine safe_bind (safe_apiRequest hq ((hroute.sends h₃ _ hle₃
        (by rw [e]; exact ⟨node, rfl, hnode⟩) "GET").mono hle₄)) fun data h₅ _ _ => ?_
      refine safe_ofExcept_bind fun content _ => ?_
      exact safe_ofExcept_bind fun bytes _ => safe_pure trivial
    · exact safe_throw
  · exact safe_throw

/-- **A file is written only where the route arrives, and only on an asserted target.** -/
theorem safe_proxmoxFileWriteBytes (hq : Quiet ok) {target : TargetRef} {filePath : String}
    {content : List UInt8}
    (hok : ∀ h', h <+: h' → Asserted S target [.file true] h' →
      AdmitsRoute ok ⟨.file true, target, none⟩ target.cluster (fileRoute target) h') :
    Admitted ok (S.proxmoxFileWriteBytes target filePath content) h := by
  unfold Service.proxmoxFileWriteBytes
  dsimp only
  refine safe_bind (safe_assertPermission hq) fun _ h₁ hle₁ hpass => ?_
  refine safe_bind (safe_auditRecord hq) fun _ h₂ hle₂ haudit => ?_
  have hroute := hok h₂ (hle₁.trans hle₂) ⟨by simpa using hpass.1,
    by simpa using hle₂.subset hpass.2, _, rfl, haudit⟩
  split
  · rename_i node e
    refine safe_ofExcept_bind fun resolved _ => ?_
    refine safe_bind (safe_runSshCommand hq (hroute.execs h₂ _ (List.prefix_refl h₂)
      (by rw [e]; exact rfl))) fun result h₃ _ _ => ?_
    exact safe_ofExcept_bind fun _ _ => safe_pure trivial
  · rename_i vmid e
    refine safe_bind (safe_getVmLocation hq hroute.reads) fun node h₃ hle₃ hnode => ?_
    refine safe_ofExcept_bind fun resolved _ => ?_
    refine safe_bind (safe_runSshCommand hq (hroute.execs h₃ _ hle₃
      (by rw [e]; exact ⟨node, rfl, hnode⟩))) fun result h₄ _ _ => ?_
    exact safe_ofExcept_bind fun _ _ => safe_pure trivial
  · rename_i vmid e
    refine safe_bind (safe_getVmLocation hq hroute.reads) fun node h₃ hle₃ hnode => ?_
    refine safe_bind (safe_detectVmGuest hq (hroute.reads.mono hle₃))
      fun ⟨_, available⟩ h₄ hle₄ _ => ?_
    dsimp only
    split
    · refine safe_bind (safe_apiRequest hq ((hroute.sends h₃ _ hle₃
        (by rw [e]; exact ⟨node, rfl, hnode⟩) "POST").mono hle₄)) fun data h₅ _ _ => ?_
      exact safe_pure trivial
    · exact safe_throw
  · exact safe_throw

/-! ## 7. What a request does besides sending -/

/-- The effects of a REST request: its credentials, their repair, and the request itself. -/
def Effect.isRequest : Effect → Bool
  | .ensureCluster _ | .repairCluster _ _ | .currentAuth _ | .ticketLogin _ | .send _ => true
  | _ => false

section Requests

variable {P : Effect → Prop}

omit [Text.Unicode] in
theorem only_attempt {α : Type} {e : Effect} {he : e.Reply = Except String α} (hP : P e) :
    Only P (attempt e he) :=
  only_bind (only_perform hP) fun _ => only_ofExcept

omit [Text.Unicode] in
theorem only_ensureCluster (hP : ∀ e : Effect, e.isRequest = true → P e) :
    Only P (S.ensureCluster cluster) := by
  unfold Service.ensureCluster
  split
  · exact only_attempt (hP _ rfl)
  · exact only_pure

omit [Text.Unicode] in
theorem only_buildHeaders (hP : ∀ e : Effect, e.isRequest = true → P e) {config : ClusterConfig} :
    Only P (buildHeaders cluster config) := by
  refine only_bind (only_perform (hP _ rfl)) fun auth => ?_
  cases auth with
  | api_token => exact only_pure
  | secret_ref => exact only_throw
  | ssh_bootstrap => exact only_throw
  | ticket =>
    refine only_bind (only_attempt (hP _ rfl)) fun b => ?_
    split
    · exact only_throw
    · exact only_pure

theorem only_request (hP : ∀ e : Effect, e.isRequest = true → P e) :
    Only P (S.request purpose cluster method path args) := by
  refine only_bind only_ofExcept fun config => ?_
  refine only_bind only_ofExcept fun request => ?_
  refine only_bind (only_buildHeaders hP) fun _ => ?_
  exact only_bind (only_attempt (hP _ rfl)) fun reply => only_ofExcept

/-- **A request does nothing but what requests do.** -/
theorem only_apiRequest (hP : ∀ e : Effect, e.isRequest = true → P e) :
    Only P (S.apiRequest purpose cluster method path args) := by
  refine only_bind (only_ensureCluster hP) fun _ => ?_
  refine only_tryCatch (only_request hP) fun m => ?_
  split
  · refine only_bind (only_attempt (hP _ rfl)) fun _ => ?_
    exact only_bind (only_ensureCluster hP) fun _ => only_request hP
  · exact only_throw

end Requests

/-! ## 8. What runs no command and reads no signal -/

/-- The effect is neither a command nor a look at the signal. -/
def Effect.plain : Effect → Bool
  | .exec _ | .aborted => false
  | _ => true

/-- A program of plain effects. -/
def Plain {α : Type} (p : M α) : Prop := Prog.Only (fun e => e.plain = true) p

section Plain

variable {node : String} {target : TargetRef}

omit [Text.Unicode] in
theorem plain_attempt {α : Type} {e : Effect} {he : e.Reply = Except String α}
    (hplain : e.plain = true) : Plain (attempt e he) :=
  only_attempt hplain

theorem plain_assertPermission {permission : Permission} :
    Plain (S.assertPermission target permission) :=
  only_bind only_ofExcept fun _ => only_perform rfl

omit [Text.Unicode] in
theorem plain_auditRecord {action : String} {fields : List (String × Value)} :
    Plain (S.auditRecord action target fields) := plain_attempt rfl

omit [Text.Unicode] in
theorem Effect.plain_of_isRequest (e : Effect) (h : e.isRequest = true) : e.plain = true := by
  cases e <;> first | rfl | cases h

omit [Text.Unicode] in
theorem plain_ensureCluster : Plain (S.ensureCluster cluster) :=
  only_ensureCluster Effect.plain_of_isRequest

theorem plain_apiRequest : Plain (S.apiRequest purpose cluster method path args) :=
  only_apiRequest Effect.plain_of_isRequest

theorem plain_getVmLocation {kind : GuestType} {vmid : Nat} :
    Plain (S.getVmLocation purpose cluster kind vmid) := by
  refine only_bind (only_bind plain_apiRequest fun resources => ?_) fun resources => ?_
  · exact only_bind (only_perform rfl) fun now =>
      only_bind (only_perform rfl) fun _ => only_pure
  · refine only_bind only_ofExcept fun entries => ?_
    split
    · exact only_pure
    · exact only_throw

theorem plain_detectVmGuest {vmid : Nat} : Plain (S.detectVmGuest purpose cluster node vmid) :=
  only_bind plain_apiRequest fun _ => only_bind only_ofExcept fun _ => only_pure

end Plain

end Rules

end ProxmoxMcp
