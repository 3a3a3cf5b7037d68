/-
  File:      ProxmoxMcp/Cancellation.lean
  Subject:   A JOB THAT IS CANCELLED WHILE IT RUNS: the four tools whose job ends in one command,
             and what they still start once the signal has fired.

  The signal is read by the listeners of a transport that is under way and by the loop that waits
  for the guest agent, and by nothing else.

  * `CommandJob.run`: the job of a tool, from its first record to its last;
  * `Orderly`: nothing is started after the signal has been noticed;
  * `startsNothing_iff`: when a cancel keeps the job from starting its command.
-/
import ProxmoxMcp.ExitCodes
import ProxmoxMcp.Jobs

namespace ProxmoxMcp

open Js Effects Prog

variable [Text.Unicode]

/-! ## 1. The jobs -/

/-- A `CommandResult` as the result of a job. -/
def CommandResult.toValue (result : CommandResult) : Value :=
  .obj [("stdout", .str result.stdout), ("stderr", .str result.stderr),
    ("exitCode", .num (.rat result.exitCode)), ("signal", optionText result.signal)]

/-- The jobs of `proxmox_cli_run`, `proxmox_shell_run`, `proxmox_node_terminal_run` and
    `proxmox_vm_guest_exec`. -/
inductive CommandJob where
  | cliRun (cluster node family : String) (args : List String) (rawCommand : Option String)
  | shellRun (target : TargetRef) (input : ShellInput)
  | nodeTerminalRun (cluster node : String) (input : ShellInput)
  | vmGuestExec (cluster : String) (vmid : Nat) (command : String) (interpreter : Interpreter)

/-- The target of the job. -/
def CommandJob.target : CommandJob → TargetRef
  | .cliRun cluster node _ _ _ => nodeSite cluster node
  | .shellRun target _ => target
  | .nodeTerminalRun cluster node _ => nodeSite cluster node
  | .vmGuestExec cluster vmid _ _ => { cluster := cluster, kind := .qemu_vm, vmid := some vmid }

/-- The operation of the job. -/
def CommandJob.operation : CommandJob → String
  | .cliRun _ _ family _ _ => "cli:" ++ family
  | .shellRun _ _ => "shell_run"
  | .nodeTerminalRun _ _ _ => "node_terminal_run"
  | .vmGuestExec _ _ _ _ => "vm_guest_exec"

/-- A result, after its two streams have been logged. -/
def loggedResult (result : CommandResult) : M Value := do
  Prog.perform (Effect.appendLog result.stdout)
  Prog.perform (Effect.appendLog result.stderr)
  return result.toValue

/-- The executor of the job. -/
def CommandJob.executor (S : Service) (execution : Execution) : CommandJob → M Value
  | .cliRun cluster node family args rawCommand => do
      let result ← S.proxmoxCliRun (nodeSite cluster node) family args rawCommand
      loggedResult result
  | .shellRun target input => do
      let result ← S.proxmoxShellRun target input (jobProgress execution) execution.rounds
      return result.toValue
  | .nodeTerminalRun cluster node input => do
      let result ← S.nodeTerminalRun cluster node input
      loggedResult result
  | .vmGuestExec cluster vmid command interpreter => do
      let result ← S.proxmoxShellRun { cluster := cluster, kind := .qemu_vm, vmid := some vmid }
        ⟨command, interpreter, false⟩ (jobProgress execution) execution.rounds
      return result.toValue

/-- The job, under the id `jobId`. -/
def CommandJob.run (S : Service) (execution : Execution) (jobId : String) (job : CommandJob) :
    M ServerJob :=
  runJob (newJob jobId job.target job.operation) (job.executor S execution)

/-! ## 2. The signal -/

/-- The effect starts an SSH command, a PowerShell process or a guest-agent command. -/
def Effect.starts : Effect → Bool
  | .exec _ => true
  | .send sent => sent.purpose.guest.isSome && sent.request.method == "POST"
  | _ => false

/-- What a transport fails with when the signal fires while it is under way. -/
def Transport.aborted : Transport → String
  | .ssh _ _ _ => "SSH command aborted"
  | .winrm _ _ => "PowerShell remoting aborted"

/-- A world in which nobody cancels. -/
def uncancelled (answer : History → (e : Effect) → e.Reply) (h : History) :
    (e : Effect) → e.Reply
  | .aborted => false
  | e => answer h e

/-- The same world with a cancel that arrives while the effect of number `k` is awaited: a
    transport that is under way fails, and the signal is aborted from then on. -/
def cancelledAt (k : Nat) (answer : History → (e : Effect) → e.Reply) (h : History) :
    (e : Effect) → e.Reply
  | .aborted => decide (k < h.length)
  | .exec command =>
      if h.length = k then .error command.transport.aborted else answer h (.exec command)
  | e => answer h e

/-- Nothing is started after the effect of number `k`. -/
def StartsNothingAfter (k : Nat) (t : History) : Prop :=
  ∀ j s, k < j → t[j]? = some s → s.1.starts = false

/-- The effect of number `k` is a command over SSH or PowerShell. -/
def InFlight (k : Nat) (t : History) : Prop :=
  ∃ command reply, t[k]? = some ⟨.exec command, reply⟩

/-- The step takes notice of the signal. -/
def Notices : (Σ e : Effect, e.Reply) → Prop
  | ⟨.aborted, _⟩ => True
  | ⟨.exec command, reply⟩ => reply = .error command.transport.aborted
  | _ => False

/-- A program that starts nothing once it has taken notice of the signal. -/
def Orderly {α : Type} (p : M α) : Prop :=
  ∀ t o, Run p t o → t.Pairwise fun s s' => Notices s → s'.1.starts = false

/-- A program that starts nothing. -/
def StartsNothing {α : Type} (p : M α) : Prop := Prog.Only (fun e => e.starts = false) p

section

omit [Text.Unicode]

variable {α β : Type}

theorem Notices.not_plain {s : Σ e : Effect, e.Reply} (h : Notices s) : s.1.plain = false := by
  obtain ⟨e, reply⟩ := s
  cases e <;> first | rfl | exact h.elim

/-! ## 3. Orderly programs -/

theorem StartsNothing.orderly {p : M α} (hp : StartsNothing p) : Orderly p := by
  intro t o hrun
  exact List.pairwise_of_forall_mem_list fun _ _ s' hs' _ => hp t o hrun s' hs'

theorem Plain.orderly {p : M α} (hp : Plain p) : Orderly p := by
  intro t o hrun
  refine List.pairwise_of_forall_mem_list fun s hs s' _ hnotices => ?_
  exact nomatch hnotices.not_plain.symm.trans (hp t o hrun s hs)

/-- **The rule for sequencing**: what comes before takes no notice. -/
theorem orderly_bind {p : M α} {f : α → M β} (hp : Plain p) (hf : ∀ a, Orderly (f a)) :
    Orderly (p >>= f) := by
  intro t o hrun
  obtain ⟨t₁, t₂, o₁, rfl, h1, h2⟩ := run_bind.mp hrun
  have ht₂ : t₂.Pairwise fun s s' => Notices s → s'.1.starts = false := by
    cases o₁ with
    | ok a => exact hf a t₂ o h2
    | error m => rw [h2.1]; exact .nil
    | cut => rw [h2.1]; exact .nil
  refine List.pairwise_append.mpr ⟨hp.orderly t₁ o₁ h1, ht₂, fun s hs s' _ hnotices => ?_⟩
  exact nomatch hnotices.not_plain.symm.trans (hp t₁ o₁ h1 s hs)

/-- What comes after starts nothing. -/
theorem orderly_bind_rest {p : M α} {f : α → M β} (hp : Orderly p)
    (hf : ∀ a, StartsNothing (f a)) : Orderly (p >>= f) := by
  intro t o hrun
  obtain ⟨t₁, t₂, o₁, rfl, h1, h2⟩ := run_bind.mp hrun
  have ht₂ : ∀ s ∈ t₂, s.1.starts = false := by
    cases o₁ with
    | ok a => exact hf a t₂ o h2
    | error m => rw [h2.1]; exact fun _ hs => nomatch hs
    | cut => rw [h2.1]; exact fun _ hs => nomatch hs
  refine List.pairwise_append.mpr ⟨hp t₁ o₁ h1, ?_, fun _ _ s' hs' _ => ht₂ s' hs'⟩
  exact List.pairwise_of_forall_mem_list fun _ _ s' hs' _ => ht₂ s' hs'

/-- **The rule for a second attempt**: there is none after a failure that has taken notice. -/
theorem orderly_tryCatch {p : M α} {f : String → M α} (hp : Orderly p) (hf : ∀ m, Orderly (f m))
    (hstop : ∀ t m, Run p t (.error m) → ∀ s ∈ t, Notices s → StartsNothing (f m)) :
    Orderly (tryCatch p f) := by
  intro t o hrun
  obtain ⟨t₁, t₂, o₁, rfl, h1, h2⟩ := run_tryCatch.mp hrun
  cases o₁ with
  | ok a =>
    rw [h2.1, List.append_nil]
    exact hp t₁ _ h1
  | error m =>
    refine List.pairwise_append.mpr ⟨hp t₁ _ h1, hf m t₂ o h2, fun s hs s' hs' hnotices => ?_⟩
    exact hstop t₁ m h1 s hs hnotices t₂ o h2 s' hs'
  | cut =>
    rw [h2.1, List.append_nil]
    exact hp t₁ _ h1

theorem orderly_attempt {γ : Type} {e : Effect} {he : e.Reply = Except String γ} :
    Orderly (attempt e he) := by
  intro t o hrun
  obtain ⟨reply, rfl, -⟩ := run_attempt.mp hrun
  exact List.pairwise_singleton _ _

end

/-! ## 4. The transports are orderly -/

section

variable {S : Service} {purpose : Purpose} {cluster node : String} {vmid : Nat}
  {target site : TargetRef} {resolved : ResolvedNodeTarget} {command : String}
  {input : ShellInput} {execution : Execution}

theorem prefixFold_ascii : ∀ {w s : List Char}, (∀ c ∈ w, c.toNat < 128) →
    (∀ c ∈ s, c.toNat < 128) → prefixFold w s = @prefixFold Text.asciiCase w s
  | [], _, _, _ => rfl
  | _ :: _, [], _, _ => rfl
  | c :: w, d :: s, hw, hs => by
      have ih := prefixFold_ascii (fun c hc => hw c (List.mem_cons_of_mem _ hc))
        (fun c hc => hs c (List.mem_cons_of_mem _ hc))
      rw [prefixFold, ih, Regex.CaseFold.fold_ascii d (hs d List.mem_cons_self),
        Regex.CaseFold.fold_ascii c (hw c List.mem_cons_self)]
      rfl

/-- On ASCII text, the `i` flag is that of ASCII. -/
theorem includesFold_ascii {w : List Char} (hw : ∀ c ∈ w, c.toNat < 128) : ∀ {s : List Char},
    (∀ c ∈ s, c.toNat < 128) → includesFold w s = @includesFold Text.asciiCase w s
  | [], _ => rfl
  | c :: s, hs => by
      rw [includesFold, prefixFold_ascii hw hs,
        includesFold_ascii hw fun c hc => hs c (List.mem_cons_of_mem _ hc)]
      rfl

/-- An abort is no failure of authentication. -/
theorem isSshAuthError_aborted : isSshAuthError "SSH command aborted" = false := by
  have htext : ∀ c ∈ "SSH command aborted".toList, c.toNat < 128 := Text.ascii_of_all (by decide)
  rw [isSshAuthError, includesFold_ascii (Text.ascii_of_all (by decide)) htext,
    includesFold_ascii (Text.ascii_of_all (by decide)) htext,
    includesFold_ascii (Text.ascii_of_all (by decide)) htext]
  decide +kernel

omit [Text.Unicode] in
theorem orderly_sshExec : Orderly (S.sshExec purpose site resolved command) :=
  orderly_bind only_ofExcept fun _ => orderly_attempt

omit [Text.Unicode] in
/-- A command over SSH that takes notice fails with the abort. -/
theorem error_sshExec {t : History} {m : String}
    (hrun : Run (S.sshExec purpose site resolved command) t (.error m))
    {s : Σ e : Effect, e.Reply} (hs : s ∈ t) (hnotices : Notices s) :
    m = "SSH command aborted" := by
  obtain ⟨t₁, t₂, o, rfl, h1, h2⟩ := run_bind.mp hrun
  obtain ⟨rfl, rfl⟩ := run_ofExcept.mp h1
  cases htarget : getNodeSshTarget S.config resolved with
  | error m' =>
    rw [htarget] at h2
    rw [h2.1] at hs
    cases hs
  | ok transport =>
    rw [htarget] at h2
    obtain ⟨reply, rfl, hreply⟩ := run_attempt.mp h2
    obtain rfl := List.mem_singleton.mp hs
    have habort : reply = .error transport.aborted := hnotices
    have hssh : transport.aborted = "SSH command aborted" := by
      unfold getNodeSshTarget at htarget
      split at htarget <;> cases htarget
      rfl
    rw [habort] at hreply
    cases hreply
    exact hssh

/-- **A command over SSH is not repeated once its abort has been noticed.** -/
theorem orderly_runSshCommand : Orderly (S.runSshCommand purpose site resolved command) := by
  refine orderly_bind plain_ensureCluster fun _ => ?_
  refine orderly_tryCatch orderly_sshExec (fun m => ?_) fun t m hrun s hs hnotices => ?_
  · split
    · refine orderly_bind (plain_attempt rfl) fun _ => ?_
      exact orderly_bind plain_ensureCluster fun _ => orderly_sshExec
    · exact Plain.orderly only_throw
  · rw [error_sshExec hrun hs hnotices, isSshAuthError_aborted, Bool.and_false]
    exact only_throw

omit [Text.Unicode] in
theorem quiet_starts : Quiet fun _ e => e.starts = false := by
  intro _ e he
  cases e <;> first | rfl | cases he

/-- A read starts nothing. -/
theorem admitsSends_starts {h : History} :
    AdmitsSends (fun _ e => e.starts = false) purpose cluster "GET" h := by
  intro _ _ sent his
  have hget : Text.toUpperCase "GET" = "GET" := by
    rw [Text.toUpperCase, Text.flatMap_upper_ascii (Text.ascii_of_all (by decide))]
    rfl
  have hmethod : (sent.request.method == "POST") = false := by
    rw [his.2.2, hget]
    rfl
  show (_ && _) = false
  rw [hmethod, Bool.and_false]

/-- **The guest agent is given its command once, before anybody looks at the signal.** -/
theorem orderly_runQemuGuestAgentCommand {words : List String}
    {onProgress : ProgressSnapshot → M Unit} {rounds : Nat}
    (hprogress : QuietProgress (fun _ e => e.starts = false) onProgress) :
    Orderly (S.runQemuGuestAgentCommand purpose cluster node vmid words onProgress rounds) := by
  refine orderly_bind plain_apiRequest fun start => StartsNothing.orderly ?_
  exact only_of_admitted reply_nonempty
    (safe_pollAgentExec quiet_starts hprogress rounds 0 [] admitsSends_starts)

omit [Text.Unicode] in
theorem quiet_jobProgress :
    QuietProgress (fun _ e => e.starts = false) (jobProgress execution) := by
  intro snapshot h
  refine safe_perform_bind rfl fun _ => ?_
  split
  · exact (safe_attempt rfl).admitted
  · exact safe_pure trivial

theorem orderly_vmShellRun :
    Orderly (S.vmShellRun purpose target vmid input (jobProgress execution) execution.rounds) := by
  unfold Service.vmShellRun
  refine orderly_bind plain_getVmLocation fun node => ?_
  refine orderly_bind plain_detectVmGuest fun guest => ?_
  dsimp only
  split
  · exact orderly_runQemuGuestAgentCommand quiet_jobProgress
  · split
    · split
      · split
        · split
          · exact Plain.orderly only_throw
          · exact orderly_attempt
        · exact Plain.orderly only_throw
      · exact Plain.orderly only_throw
    · split
      · split
        · split
          · exact Plain.orderly only_throw
          · exact orderly_attempt
        · exact Plain.orderly only_throw
      · exact Plain.orderly only_throw

theorem plain_assertShell {useSudo : Bool} : Plain (S.assertShell target useSudo) := by
  refine only_bind plain_assertPermission fun _ => ?_
  split
  · exact plain_assertPermission
  · exact only_pure

theorem orderly_proxmoxShellRun : Orderly
    (S.proxmoxShellRun target input (jobProgress execution) execution.rounds) := by
  refine orderly_bind plain_assertShell fun _ => ?_
  refine orderly_bind plain_auditRecord fun _ => ?_
  split
  · exact orderly_bind only_ofExcept fun _ => orderly_runSshCommand
  · refine orderly_bind plain_getVmLocation fun node => ?_
    exact orderly_bind only_ofExcept fun _ => orderly_runSshCommand
  · exact orderly_vmShellRun
  · exact Plain.orderly only_throw

theorem orderly_nodeTerminalRun : Orderly (S.nodeTerminalRun cluster node input) := by
  refine orderly_bind plain_assertShell fun _ => ?_
  refine orderly_bind plain_auditRecord fun _ => ?_
  exact orderly_bind only_ofExcept fun _ => orderly_runSshCommand

theorem orderly_proxmoxCliRun {family : String} {args : List String}
    {rawCommand : Option String} : Orderly (S.proxmoxCliRun target family args rawCommand) := by
  unfold Service.proxmoxCliRun
  split
  · refine orderly_bind plain_assertPermission fun _ => ?_
    refine orderly_bind only_ofExcept fun _ => ?_
    exact orderly_bind plain_auditRecord fun _ => orderly_runSshCommand
  · exact Plain.orderly only_throw

omit [Text.Unicode] in
theorem startsNothing_loggedResult {result : CommandResult} :
    StartsNothing (loggedResult result) :=
  only_bind (only_perform rfl) fun _ => only_bind (only_perform rfl) fun _ => only_pure

theorem orderly_executor (job : CommandJob) : Orderly (job.executor S execution) := by
  cases job with
  | cliRun => exact orderly_bind_rest orderly_proxmoxCliRun fun _ => startsNothing_loggedResult
  | shellRun => exact orderly_bind_rest orderly_proxmoxShellRun fun _ => only_pure
  | nodeTerminalRun =>
    exact orderly_bind_rest orderly_nodeTerminalRun fun _ => startsNothing_loggedResult
  | vmGuestExec => exact orderly_bind_rest orderly_proxmoxShellRun fun _ => only_pure

/-- **A job starts nothing once it has taken notice of the signal.** -/
theorem orderly_run (job : CommandJob) (jobId : String) :
    Orderly (job.run S execution jobId) := by
  refine orderly_bind (only_perform rfl) fun _ => ?_
  refine orderly_bind_rest (orderly_tryCatch ?_ (fun m => ?_) fun _ m _ _ _ _ => ?_) fun final => ?_
  · exact orderly_bind_rest (orderly_executor job) fun _ => only_pure
  · exact StartsNothing.orderly (only_bind (only_perform rfl) fun _ => only_pure)
  · exact only_bind (only_perform rfl) fun _ => only_pure
  · exact only_bind (only_perform rfl) fun _ => only_pure

end

/-! ## 5. What a cancel keeps from starting -/

section

omit [Text.Unicode]

variable {answer : History → (e : Effect) → e.Reply} {k : Nat} {t : History}

/-- Where two worlds part that differ in the cancel only. -/
theorem cancelledAt_ne {h : History} {e : Effect}
    (hne : uncancelled answer h e ≠ cancelledAt k answer h e) :
    (e = .aborted ∧ k < h.length) ∨ ((∃ command, e = .exec command) ∧ h.length = k) := by
  cases e with
  | aborted =>
    refine .inl ⟨rfl, ?_⟩
    by_contra hlt
    exact hne (decide_eq_false hlt).symm
  | exec command =>
    refine .inr ⟨⟨command, rfl⟩, ?_⟩
    by_contra hlen
    exact hne (if_neg hlen).symm
  | _ => exact absurd rfl hne

/-- A command that is under way when the signal fires takes notice of it. -/
theorem notices_inFlight {α : Type} {p : M α}
    (hflight : InFlight k (p.replay (cancelledAt k answer) []).1) :
    ∃ s, (p.replay (cancelledAt k answer) []).1[k]? = some s ∧ Notices s := by
  obtain ⟨command, reply, hk⟩ := hflight
  refine ⟨_, hk, (getElem?_replay hk).trans (if_pos ?_)⟩
  have hlt := (List.getElem?_eq_some_iff.mp hk).1
  rw [List.nil_append, List.length_take, Nat.min_eq_left hlt.le]

/-- Nothing is started after a step that has taken notice. -/
theorem startsNothingAfter_of_notices {s : Σ e : Effect, e.Reply}
    (ht : t.Pairwise fun s s' => Notices s → s'.1.starts = false) (hk : t[k]? = some s)
    (hnotices : Notices s) : StartsNothingAfter k t := by
  intro j s' hj hs'
  obtain ⟨hlt, rfl⟩ := List.getElem?_eq_some_iff.mp hk
  obtain ⟨hlt', rfl⟩ := List.getElem?_eq_some_iff.mp hs'
  exact List.pairwise_iff_getElem.mp ht k j hlt hlt' hj hnotices

/-- What is started after `k` is started before a later look at the signal. -/
theorem startsNothingAfter_append {pre post : History} {reply : Bool}
    (ht : (pre ++ ⟨.aborted, reply⟩ :: post).Pairwise fun s s' => Notices s → s'.1.starts = false) :
    StartsNothingAfter k (pre ++ ⟨.aborted, reply⟩ :: post) ↔ StartsNothingAfter k pre := by
  constructor
  · intro h j s hj hs
    refine h j s hj ?_
    rwa [List.getElem?_append_left (List.getElem?_eq_some_iff.mp hs).1]
  · intro h j s hj hs
    rw [List.getElem?_append] at hs
    split at hs
    · exact h j s hj hs
    · rcases List.mem_cons.mp (List.mem_of_getElem? hs) with rfl | hmem
      · rfl
      · exact (List.pairwise_cons.mp (List.pairwise_append.mp ht).2.1).1 s hmem trivial

theorem inFlight_append {pre post : History} {command : RemoteCommand}
    {reply : Except String CommandResult} :
    InFlight pre.length (pre ++ ⟨.exec command, reply⟩ :: post) := by
  refine ⟨command, reply, ?_⟩
  rw [List.getElem?_append_right (le_refl _), Nat.sub_self]
  rfl

/-- **A cancel changes what a program starts only where a command is under way.** -/
theorem Orderly.cancelled_iff {α : Type} {p : M α} (hp : Orderly p)
    (answer : History → (e : Effect) → e.Reply) (k : Nat) :
    StartsNothingAfter k (p.replay (cancelledAt k answer) []).1 ↔
      InFlight k (p.replay (uncancelled answer) []).1 ∨
        StartsNothingAfter k (p.replay (uncancelled answer) []).1 := by
  have horder := hp _ _ (run_replay (uncancelled answer) p [])
  have horder' := hp _ _ (run_replay (cancelledAt k answer) p [])
  have hflight : InFlight k (p.replay (cancelledAt k answer) []).1 →
      StartsNothingAfter k (p.replay (cancelledAt k answer) []).1 := by
    intro h
    obtain ⟨s, hk, hnotices⟩ := notices_inFlight h
    exact startsNothingAfter_of_notices horder' hk hnotices
  rcases replay_diverge (uncancelled answer) (cancelledAt k answer) p []
    with heq | ⟨pre, e, post, post', h1, h2, hne⟩
  · rw [heq]
    exact ⟨.inr, fun h => h.elim hflight id⟩
  · rcases cancelledAt_ne hne with ⟨rfl, hlt⟩ | ⟨⟨command, rfl⟩, hlen⟩
    · -- a look at the signal after `k`: before it the runs are the same
      rw [List.nil_append] at hlt
      have hiff := startsNothingAfter_append (k := k) (h1 ▸ horder)
      have hiff' := startsNothingAfter_append (k := k) (h2 ▸ horder')
      have hsame : InFlight k (p.replay (uncancelled answer) []).1 →
          InFlight k (p.replay (cancelledAt k answer) []).1 := by
        intro h
        obtain ⟨command, reply, hk⟩ := h
        rw [h1, List.getElem?_append_left hlt] at hk
        refine ⟨command, reply, ?_⟩
        rwa [h2, List.getElem?_append_left hlt]
      constructor
      · intro h
        rw [h2] at h
        rw [h1]
        exact .inr (hiff.mpr (hiff'.mp h))
      · intro h
        rcases h with h | h
        · exact hflight (hsame h)
        · rw [h1] at h
          rw [h2]
          exact hiff'.mpr (hiff.mp h)
    · -- the command under way when the signal fires
      rw [List.nil_append] at hlen
      refine iff_of_true (hflight ?_) (.inl ?_)
      · rw [h2, ← hlen]
        exact inFlight_append
      · rw [h1, ← hlen]
        exact inFlight_append

end

/-- What the job does and is answered, in the world `answer`. -/
def CommandJob.history (S : Service) (execution : Execution) (jobId : String) (job : CommandJob)
    (answer : History → (e : Effect) → e.Reply) : History :=
  ((job.run S execution jobId).replay answer []).1

/-- **When a cancelled job starts nothing more**: if the signal finds a command under way, or if
    the job would have started nothing more anyway. At any other moment the cancel is not heard. -/
theorem startsNothing_iff (S : Service) (execution : Execution) (jobId : String)
    (job : CommandJob) (answer : History → (e : Effect) → e.Reply) (k : Nat) :
    StartsNothingAfter k (job.history S execution jobId (cancelledAt k answer)) ↔
      InFlight k (job.history S execution jobId (uncancelled answer)) ∨
        StartsNothingAfter k (job.history S execution jobId (uncancelled answer)) :=
  (orderly_run job jobId).cancelled_iff answer k

omit [Text.Unicode] in
/-- **A job that is cancelled while its audit record is written runs its command.** -/
theorem starts_cancelledAudit :
    letI := Text.asciiCase
    ¬ StartsNothingAfter 2 ((CommandJob.cliRun "default" "pve" "qm" ["list"] none).history
      nodeService { rounds := 0 } "job" (cancelledAt 2 fun _ => quietAnswer)) := by
  intro h
  exact nomatch h 3 _ (by decide) rfl

end ProxmoxMcp
