/-
  File:      ProxmoxMcp/TaskProgress.lean
  Subject:   PROGRESS NOTIFICATIONS AND THE JOB THEY TELL OF: the same replies of Proxmox, and a
             client that takes the notifications, rejects them or asked for none.

  `waitForUpid` awaits its progress callback, and the callbacks of the tools await `emitProgress`:
  a notification that is rejected rejects the wait. The first one is due once a status has been
  read that is not `stopped`.
-/
import ProxmoxMcp.JobOutcome
import ProxmoxMcp.Rules

namespace ProxmoxMcp

open Js Effects Prog

variable [Text.Unicode]

/-! ## 1. Worlds -/

/-- Every effect but a notification. -/
def Effect.isQuiet : Effect → Bool
  | .progress _ => false
  | _ => true

/-- How the stream of the client takes a notification. -/
abbrev Notify : Type := History → ProgressSnapshot → Except String Unit

/-- A world: `base` answers everything but the notifications, and knows of none. -/
def notifying (base : History → (e : Effect) → e.Reply) (notify : Notify) :
    History → (e : Effect) → e.Reply
  | h, .progress snapshot => notify h snapshot
  | h, e => base (quietPart Effect.isQuiet h) e

omit [Text.Unicode] in
theorem notifying_apart (base : History → (e : Effect) → e.Reply) (notify : Notify) :
    AnswersApart Effect.isQuiet base (notifying base notify) := by
  intro h e he
  cases e <;> first | rfl | cases he

omit [Text.Unicode] in
/-- A reply to anything but a notification. -/
theorem notifying_quiet (base : History → (e : Effect) → e.Reply) (notify : Notify) (h : History)
    {e : Effect} (he : e.isQuiet = true) :
    notifying base notify h e = base (quietPart Effect.isQuiet h) e :=
  notifying_apart base notify h e he

/-- A program that notifies no one. -/
def NotifiesNoOne {α : Type} (p : M α) : Prop := Only (fun e => e.isQuiet = true) p

omit [Text.Unicode] in
theorem Effect.isQuiet_of_isRequest (e : Effect) (h : e.isRequest = true) : e.isQuiet = true := by
  cases e <;> first | rfl | cases h

/-! ## 2. The job of a task -/

/-- What an executor does once its task has stopped; the PCI tools read the VM again. It notifies
    no one. -/
structure AfterTask where
  run : Value → M Value
  notifiesNoOne : ∀ task, NotifiesNoOne (run task)

/-- Most executors return the task. -/
def AfterTask.returns : AfterTask := ⟨fun task => Pure.pure task, fun _ => only_pure⟩

/-- The executor of a UPID-backed job with what it does afterwards. -/
def Service.taskExecutor (S : Service) (execution : Execution) (cluster upid : String)
    (after : AfterTask) : M Value := do
  let task ← S.upidExecutor execution cluster upid
  after.run task

/-- The job of a task. -/
def Service.taskJob (S : Service) (execution : Execution) (target : TargetRef)
    (operation upid : String) (after : AfterTask) : M ServerJob :=
  runJob (newUpidJob target operation upid)
    (S.taskExecutor execution target.cluster upid after)

/-- One round of `waitForUpid`: the status, and whether the task has stopped. -/
def Service.pollOnce (S : Service) (cluster node upid : String) : M (Value × Bool) := do
  let aborted : Bool ← Prog.perform Effect.aborted
  if aborted then throw "Task wait aborted"
  else do
    let status ← S.getTaskStatus cluster node upid
    let word ← Prog.ofExcept (readProperty status "status")
    return (status, word == .str "stopped")

theorem notifiesNoOne_pollOnce {S : Service} {cluster node upid : String} :
    NotifiesNoOne (S.pollOnce cluster node upid) := by
  refine only_bind (only_perform rfl) fun aborted => ?_
  split
  · exact only_throw
  · refine only_bind (only_apiRequest Effect.isQuiet_of_isRequest) fun status => ?_
    exact only_bind only_ofExcept fun word => only_pure

/-- A round, and what follows it. -/
theorem pollUpid_succ (S : Service) (cluster node upid : String) (pollIntervalMs : Nat)
    (onProgress : ProgressSnapshot → M Unit) (fuel attempts : Nat) :
    S.pollUpid cluster node upid pollIntervalMs onProgress (fuel + 1) attempts = (do
      let seen ← S.pollOnce cluster node upid
      if seen.2 then return seen.1
      else do
        onProgress ⟨attempts + 1, none, some s!"Waiting for task {upid}"⟩
        attempt (.sleep pollIntervalMs) rfl
        S.pollUpid cluster node upid pollIntervalMs onProgress fuel (attempts + 1)) := by
  rw [Service.pollUpid, Service.pollOnce, bind_assoc]
  refine congrArg (Prog.perform Effect.aborted >>= ·) (funext fun aborted => ?_)
  cases aborted with
  | true => rfl
  | false =>
    show (S.getTaskStatus cluster node upid >>= _) = _
    simp only [Bool.false_eq_true, if_false, bind_assoc, pure_bind]
    refine congrArg (S.getTaskStatus cluster node upid >>= ·) (funext fun status => ?_)
    refine congrArg (Prog.ofExcept _ >>= ·) (funext fun word => ?_)
    split
    · rfl
    · rename_i hne
      rw [if_neg]
      intro h
      exact hne (eq_of_beq h)

/-! ## 3. Terminal records -/

/-- The history that an executor begins with. -/
def startedHistory (job : ServerJob) : History :=
  [⟨.storeJob { job with state := .running }, ()⟩]

/-- The record of a job, if its executor comes to an end. -/
def recordOf (job : ServerJob) (aborted : Bool) : Outcome String Value → Outcome String ServerJob
  | .ok v => .ok (endedJob job false (.ok v))
  | .error m => .ok (endedJob job aborted (.error m))
  | .cut => .cut

omit [Text.Unicode] in
/-- **The record of a job**, by how its executor ends in the world. -/
theorem replay_runJob (answer : History → (e : Effect) → e.Reply) (job : ServerJob)
    {executor : M Value} {t : History} {o : Outcome String Value}
    (h : executor.replay answer (startedHistory job) = (t, o)) :
    ((runJob job executor).replay answer []).2 =
      recordOf job (answer (startedHistory job ++ t) .aborted) o := by
  rw [runJob, replay_perform_bind]
  show (Prog.replay answer (tryCatch _ _ >>= _) (startedHistory job)).2 = _
  rw [replay_bind, replay_tryCatch, replay_bind, h]
  cases o with
  | ok v => rfl
  | error m => rfl
  | cut => rfl

variable {S : Service} {execution : Execution} {target : TargetRef} {operation upid : String}
  {after : AfterTask} {base : History → (e : Effect) → e.Reply}

/-- The job comes to this record, in the world with these notifications; `token` says whether the
    client asked for them. -/
def EndsWith (S : Service) (execution : Execution) (target : TargetRef) (operation upid : String)
    (after : AfterTask) (base : History → (e : Effect) → e.Reply) (token : Bool) (notify : Notify)
    (final : ServerJob) : Prop :=
  ∃ rounds, ((S.taskJob { execution with progressToken := token, rounds := rounds } target operation
    upid after).replay (notifying base notify) []).2 = .ok final

/-- **The client's stream is of no consequence**: whatever becomes of the notifications, the job
    comes to the same state, result and error. -/
def StreamIndependent (S : Service) (execution : Execution) (target : TargetRef)
    (operation upid : String) (after : AfterTask) (base : History → (e : Effect) → e.Reply) :
    Prop :=
  ∀ token token' notify notify' final,
    EndsWith S execution target operation upid after base token notify final ↔
      EndsWith S execution target operation upid after base token' notify' final

/-- The first status that is read does not say `stopped`. -/
def FirstReadRunning (S : Service) (target : TargetRef) (operation upid : String)
    (base : History → (e : Effect) → e.Reply) : Prop :=
  ∃ node status, upidNode upid = .ok node ∧
    ((S.pollOnce target.cluster node upid).replay base
      (startedHistory (newUpidJob target operation upid))).2 = .ok (status, false)

/-! ## 4. A task that is read once -/

/-- The executor, where the first round is the last. -/
def Service.readOnce (S : Service) (cluster upid : String) (after : AfterTask) : M Value := do
  let node ← Prog.ofExcept (upidNode upid)
  let seen ← S.pollOnce cluster node upid
  let log ← S.getTaskLog cluster node upid
  after.run (.obj [("status", seen.1), ("log", log)])

theorem notifiesNoOne_readOnce {cluster : String} :
    NotifiesNoOne (S.readOnce cluster upid after) := by
  refine only_bind only_ofExcept fun node => ?_
  refine only_bind notifiesNoOne_pollOnce fun seen => ?_
  refine only_bind (only_apiRequest Effect.isQuiet_of_isRequest) fun log => ?_
  exact after.notifiesNoOne _

/-- The executor, its node and its first round apart. -/
theorem taskExecutor_succ (S : Service) (execution : Execution) (cluster upid : String)
    (after : AfterTask) (fuel : Nat) :
    S.taskExecutor { execution with rounds := fuel + 1 } cluster upid after = (do
      let node ← Prog.ofExcept (upidNode upid)
      let seen ← S.pollOnce cluster node upid
      let status ← (if seen.2 then Pure.pure seen.1
        else do
          jobProgress execution ⟨0 + 1, none, some s!"Waiting for task {upid}"⟩
          attempt (.sleep (execution.pollIntervalMs.getD 2000)) rfl
          S.pollUpid cluster node upid (execution.pollIntervalMs.getD 2000)
            (jobProgress execution) fuel (0 + 1))
      let log ← S.getTaskLog cluster node upid
      after.run (.obj [("status", status), ("log", log)])) := by
  simp only [Service.taskExecutor, Service.upidExecutor, Service.waitForUpid, pollUpid_succ,
    bind_assoc, pure_bind]
  rfl

/-- **Where the first round is the last**, the executor does what `readOnce` does. -/
theorem replay_taskExecutor (S : Service) (execution : Execution) (cluster upid : String)
    (after : AfterTask) (answer : History → (e : Effect) → e.Reply) (h : History)
    (honce : ∀ node, upidNode upid = .ok node → ∀ status,
      ((S.pollOnce cluster node upid).replay answer h).2 ≠ .ok (status, false)) (fuel : Nat) :
    (S.taskExecutor { execution with rounds := fuel + 1 } cluster upid after).replay answer h =
      (S.readOnce cluster upid after).replay answer h := by
  rw [taskExecutor_succ, Service.readOnce]
  cases hnode : upidNode upid with
  | error m => rfl
  | ok node =>
    simp only [ofExcept_ok_bind]
    rw [replay_bind, replay_bind]
    have honce' := honce node hnode
    cases hseen : (S.pollOnce cluster node upid).replay answer h with
    | mk t o =>
      rw [hseen] at honce'
      cases o with
      | error m => rfl
      | cut => rfl
      | ok seen =>
        obtain ⟨status, stopped⟩ := seen
        cases stopped with
        | false => exact absurd rfl (honce' status)
        | true => rfl

/-- Without a round, a run is followed no further than to the first one. -/
theorem replay_taskExecutor_zero (S : Service) (execution : Execution) (cluster upid : String)
    (after : AfterTask) (answer : History → (e : Effect) → e.Reply) (h : History) :
    (S.taskExecutor { execution with rounds := 0 } cluster upid after).replay answer h =
      ([], match upidNode upid with
        | .ok _ => .cut
        | .error m => .error m) := by
  simp only [Service.taskExecutor, Service.upidExecutor, Service.waitForUpid]
  cases upidNode upid <;> rfl

/-- **A task that is read once** comes to the same record, whatever the client does. -/
theorem streamIndependent_of_readOnce
    (h : ¬FirstReadRunning S target operation upid base) :
    StreamIndependent S execution target operation upid after base := by
  -- a round of polling is as quiet as the start of the job
  have hstart : quietPart Effect.isQuiet (startedHistory (newUpidJob target operation upid)) =
      startedHistory (newUpidJob target operation upid) := rfl
  have hreplay : ∀ (token : Bool) (notify : Notify) (fuel : Nat),
      (S.taskExecutor { execution with progressToken := token, rounds := fuel + 1 } target.cluster
          upid after).replay (notifying base notify)
        (startedHistory (newUpidJob target operation upid)) =
      (S.readOnce target.cluster upid after).replay base
        (startedHistory (newUpidJob target operation upid)) := by
    intro token notify fuel
    refine (replay_taskExecutor S { execution with progressToken := token } target.cluster upid
      after (notifying base notify) _ (fun node hnode status hseen => ?_) fuel).trans ?_
    · rw [replay_quiet (notifying_apart base notify) notifiesNoOne_pollOnce, hstart] at hseen
      exact h ⟨node, status, hnode, hseen⟩
    · rw [replay_quiet (notifying_apart base notify) notifiesNoOne_readOnce, hstart]
  have hmono : ∀ token token' notify notify' final,
      EndsWith S execution target operation upid after base token notify final →
        EndsWith S execution target operation upid after base token' notify' final := by
    intro token token' notify notify' final hparts
    obtain ⟨rounds, hfinal⟩ := hparts
    refine ⟨rounds, ?_⟩
    rw [← hfinal]
    -- both executors leave one trace, without a notification in it
    have hexecutor : ∃ t o, t = quietPart Effect.isQuiet t ∧
        (S.taskExecutor { execution with progressToken := token, rounds := rounds } target.cluster
          upid after).replay (notifying base notify)
          (startedHistory (newUpidJob target operation upid)) = (t, o) ∧
        (S.taskExecutor { execution with progressToken := token', rounds := rounds } target.cluster
          upid after).replay (notifying base notify')
          (startedHistory (newUpidJob target operation upid)) = (t, o) := by
      cases rounds with
      | zero =>
        exact ⟨[], _, rfl,
          replay_taskExecutor_zero S { execution with progressToken := token } _ upid after _ _,
          replay_taskExecutor_zero S { execution with progressToken := token' } _ upid after _ _⟩
      | succ fuel =>
        exact ⟨_, _, (quietPart_replay notifiesNoOne_readOnce base _).symm,
          hreplay token notify fuel, hreplay token' notify' fuel⟩
    obtain ⟨t, o, ht, h1, h2⟩ := hexecutor
    have haborted : ∀ notify : Notify,
        notifying base notify (startedHistory (newUpidJob target operation upid) ++ t) .aborted =
          base (startedHistory (newUpidJob target operation upid) ++ t) .aborted := by
      intro notify
      rw [notifying_quiet base notify _ rfl, quietPart_append, hstart, ← ht]
    rw [Service.taskJob, Service.taskJob, replay_runJob _ _ h1, replay_runJob _ _ h2, haborted,
      haborted]
  exact fun token token' notify notify' final =>
    ⟨hmono token token' notify notify' final, hmono token' token notify' notify final⟩

/-! ## 5. A notification that is rejected -/

/-- A client that rejects every notification. -/
def rejecting (m : String) : Notify := fun _ _ => .error m

/-- **Where a notification is due and rejected**, the job ends with its message. -/
theorem record_of_rejecting (execution : Execution) (after : AfterTask)
    (h : FirstReadRunning S target operation upid base) (m : String) (fuel : Nat) :
    ∃ final, ((S.taskJob { execution with progressToken := true, rounds := fuel + 1 } target
      operation upid after).replay (notifying base (rejecting m)) []).2 = .ok final ∧
      final.error = some m := by
  obtain ⟨node, status, hnode, hseen⟩ := h
  have hstart : quietPart Effect.isQuiet (startedHistory (newUpidJob target operation upid)) =
      startedHistory (newUpidJob target operation upid) := rfl
  have hfails : ∃ t, (S.taskExecutor { execution with progressToken := true, rounds := fuel + 1 }
      target.cluster upid after).replay (notifying base (rejecting m))
        (startedHistory (newUpidJob target operation upid)) = (t, .error m) := by
    rw [show S.taskExecutor { execution with progressToken := true, rounds := fuel + 1 }
      target.cluster upid after = _ from
        taskExecutor_succ S { execution with progressToken := true } target.cluster upid after fuel]
    simp only [hnode, ofExcept_ok_bind]
    rw [replay_bind, replay_quiet (notifying_apart base _) notifiesNoOne_pollOnce, hstart]
    cases hpoll : (S.pollOnce target.cluster node upid).replay base
        (startedHistory (newUpidJob target operation upid)) with
    | mk t o =>
      rw [hpoll] at hseen
      cases hseen
      exact ⟨_, rfl⟩
  obtain ⟨t, ht⟩ := hfails
  refine ⟨_, (replay_runJob _ _ ht).trans rfl, rfl⟩

/-- So the record is the stream's. -/
theorem not_streamIndependent (execution : Execution) (after : AfterTask)
    (h : FirstReadRunning S target operation upid base) :
    ¬StreamIndependent S execution target operation upid after base := by
  intro hindependent
  obtain ⟨final, hfinal, herror⟩ := record_of_rejecting execution after h "a" 0
  obtain ⟨rounds, hfinal'⟩ := (hindependent true true (rejecting "a") (rejecting "b") final).mp
    ⟨1, hfinal⟩
  cases rounds with
  | zero =>
    rw [Service.taskJob, replay_runJob _ _ (replay_taskExecutor_zero S
      { execution with progressToken := true } _ upid after _ _)] at hfinal'
    obtain ⟨node, status, hnode, -⟩ := h
    rw [hnode] at hfinal'
    cases hfinal'
  | succ fuel =>
    obtain ⟨other, hother, herror'⟩ := record_of_rejecting execution after h "b" fuel
    rw [hother] at hfinal'
    cases hfinal'
    rw [herror] at herror'
    exact absurd (Option.some.inj herror') (by decide)

/-! ## 6. Notifications that are taken -/

/-- The two programs come to the same end and the same quiet trace. -/
def Alike {α : Type} (base : History → (e : Effect) → e.Reply) (notify notify' : Notify)
    (p q : M α) : Prop :=
  ∀ h h', quietPart Effect.isQuiet h = quietPart Effect.isQuiet h' →
    (p.replay (notifying base notify) h).2 = (q.replay (notifying base notify') h').2 ∧
    quietPart Effect.isQuiet (p.replay (notifying base notify) h).1 =
      quietPart Effect.isQuiet (q.replay (notifying base notify') h').1

section Alike

variable {α β : Type} {notify notify' : Notify}

omit [Text.Unicode] in
theorem alike_quiet {p : M α} (hp : NotifiesNoOne p) : Alike base notify notify' p p := by
  intro h h' hh
  rw [replay_quiet (notifying_apart base notify) hp, replay_quiet (notifying_apart base notify') hp,
    hh]
  exact ⟨rfl, rfl⟩

omit [Text.Unicode] in
theorem alike_bind {p q : M α} {f g : α → M β} (hp : Alike base notify notify' p q)
    (hf : ∀ a, Alike base notify notify' (f a) (g a)) :
    Alike base notify notify' (p >>= f) (q >>= g) := by
  intro h h' hh
  obtain ⟨ho, ht⟩ := hp h h' hh
  rw [replay_bind, replay_bind]
  cases hrun : p.replay (notifying base notify) h with
  | mk t o =>
    cases hrun' : q.replay (notifying base notify') h' with
    | mk t' o' =>
      rw [hrun, hrun'] at ho ht
      cases ho
      cases o with
      | error m => exact ⟨rfl, ht⟩
      | cut => exact ⟨rfl, ht⟩
      | ok a =>
        have hrest := hf a (h ++ t) (h' ++ t') (by rw [quietPart_append, quietPart_append, hh, ht])
        refine ⟨hrest.1, ?_⟩
        simp only [thenReplay, quietPart_append, ht, hrest.2]

omit [Text.Unicode] in
theorem alike_tryCatch {p q : M α} {f g : String → M α} (hp : Alike base notify notify' p q)
    (hf : ∀ m, Alike base notify notify' (f m) (g m)) :
    Alike base notify notify' (tryCatch p f) (tryCatch q g) := by
  intro h h' hh
  obtain ⟨ho, ht⟩ := hp h h' hh
  rw [replay_tryCatch, replay_tryCatch]
  cases hrun : p.replay (notifying base notify) h with
  | mk t o =>
    cases hrun' : q.replay (notifying base notify') h' with
    | mk t' o' =>
      rw [hrun, hrun'] at ho ht
      cases ho
      cases o with
      | ok a => exact ⟨rfl, ht⟩
      | cut => exact ⟨rfl, ht⟩
      | error m =>
        have hrest := hf m (h ++ t) (h' ++ t') (by rw [quietPart_append, quietPart_append, hh, ht])
        refine ⟨hrest.1, ?_⟩
        simp only [catchReplay, quietPart_append, ht, hrest.2]

omit [Text.Unicode] in
/-- A tick of progress: where the client takes it, it is as if nobody were told. -/
theorem alike_jobProgress (htaken : ∀ h snapshot, notify h snapshot = .ok ())
    (snapshot : ProgressSnapshot) :
    Alike base notify notify' (jobProgress { execution with progressToken := true } snapshot)
      (jobProgress { execution with progressToken := false } snapshot) := by
  refine alike_bind (alike_quiet (only_perform rfl)) fun _ => ?_
  intro h h' _
  have hreplay : (attempt (Effect.progress snapshot) rfl : M Unit).replay (notifying base notify) h =
      ([⟨Effect.progress snapshot, notify h snapshot⟩], .ofExcept (notify h snapshot)) := by
    rw [attempt, replay_bind]
    have hreply : notifying base notify h (.progress snapshot) = notify h snapshot := rfl
    have hperform : (Prog.perform (Effect.progress snapshot) : M _).replay (notifying base notify) h =
        ([⟨Effect.progress snapshot, notifying base notify h (.progress snapshot)⟩],
          .ok (notifying base notify h (.progress snapshot))) := rfl
    rw [hperform, hreply]
    cases notify h snapshot <;> rfl
  show ((attempt (Effect.progress snapshot) rfl : M Unit).replay (notifying base notify) h).2 = _ ∧
    quietPart Effect.isQuiet ((attempt (Effect.progress snapshot) rfl : M Unit).replay
      (notifying base notify) h).1 = _
  rw [hreplay, htaken]
  exact ⟨rfl, rfl⟩

theorem alike_pollUpid (execution : Execution) (htaken : ∀ h snapshot, notify h snapshot = .ok ())
    (cluster node upid : String) (ms : Nat) : ∀ fuel attempts,
    Alike base notify notify'
      (S.pollUpid cluster node upid ms (jobProgress { execution with progressToken := true }) fuel
        attempts)
      (S.pollUpid cluster node upid ms (jobProgress { execution with progressToken := false }) fuel
        attempts)
  | 0, _ => fun _ _ _ => ⟨rfl, rfl⟩
  | fuel + 1, attempts => by
      rw [pollUpid_succ, pollUpid_succ]
      refine alike_bind (alike_quiet notifiesNoOne_pollOnce) fun seen => ?_
      split
      · exact alike_quiet only_pure
      · refine alike_bind (alike_jobProgress htaken _) fun _ => ?_
        refine alike_bind (alike_quiet (only_attempt rfl)) fun _ => ?_
        exact alike_pollUpid execution htaken cluster node upid ms fuel (attempts + 1)

/-- **Only a rejection matters**: where the client takes every notification, the job comes to the
    record it comes to where it asked for none. -/
theorem endsWith_of_taken (htaken : ∀ h snapshot, notify h snapshot = .ok ()) (final : ServerJob) :
    EndsWith S execution target operation upid after base true notify final ↔
      EndsWith S execution target operation upid after base false notify' final := by
  refine exists_congr fun rounds => ?_
  have hjob : Alike base notify notify'
      (S.taskJob { execution with progressToken := true, rounds := rounds } target operation upid
        after)
      (S.taskJob { execution with progressToken := false, rounds := rounds } target operation upid
        after) := by
    refine alike_bind (alike_quiet (only_perform rfl)) fun _ => ?_
    refine alike_bind (alike_tryCatch (alike_bind (alike_bind (alike_bind (alike_quiet
      only_ofExcept) fun node => alike_bind ?_ fun status => ?_) fun task => ?_) fun result => ?_)
      fun m => ?_) fun final => ?_
    · exact alike_pollUpid { execution with rounds := rounds } htaken target.cluster node upid _
        rounds 0
    · refine alike_quiet (only_bind (only_apiRequest Effect.isQuiet_of_isRequest) fun log => ?_)
      exact only_pure
    · exact alike_quiet (after.notifiesNoOne task)
    · exact alike_quiet only_pure
    · exact alike_quiet (only_bind (only_perform rfl) fun _ => only_pure)
    · exact alike_quiet (only_bind (only_perform rfl) fun _ => only_pure)
  rw [(hjob [] [] rfl).1]

end Alike

/-! ## 7. When the stream is of no consequence -/

/-- **The stream of the client is of no consequence exactly if** no notification comes to be due:
    the first status that is read says `stopped`, or reading it fails. -/
theorem streamIndependent_iff (S : Service) (execution : Execution) (target : TargetRef)
    (operation upid : String) (after : AfterTask) (base : History → (e : Effect) → e.Reply) :
    StreamIndependent S execution target operation upid after base ↔
      ¬FirstReadRunning S target operation upid base :=
  ⟨fun h hrunning => not_streamIndependent execution after hrunning h,
    streamIndependent_of_readOnce⟩

/-- A world in which the task is running. -/
def runningTask : History → (e : Effect) → e.Reply
  | _, .send _ => .ok ⟨200, "\x7b\"data\":\x7b\"status\":\"running\"\x7d\x7d"⟩
  | _, e => quietAnswer e

omit [Text.Unicode] in
theorem firstReadRunning_runningTask :
    letI := Text.asciiCase
    FirstReadRunning exampleService exampleTarget "api" exampleUpid runningTask := by
  let := Text.asciiCase
  refine ⟨"pve", .obj [("status", .str "running")], upidNode_exampleUpid, ?_⟩
  decide +kernel

omit [Text.Unicode] in
/-- A client that closes its stream changes the record of the job. -/
theorem streamDependent :
    letI := Text.asciiCase
    ¬∀ (S : Service) (execution : Execution) (target : TargetRef) (operation upid : String)
      (after : AfterTask) (base : History → (e : Effect) → e.Reply),
      StreamIndependent S execution target operation upid after base := by
  let := Text.asciiCase
  intro h
  exact not_streamIndependent { rounds := 0 } .returns firstReadRunning_runningTask
    (h exampleService { rounds := 0 } exampleTarget "api" exampleUpid .returns runningTask)

end ProxmoxMcp
