/-
  File:      ProxmoxMcp/JobOutcome.lean
  Subject:   TWO REPORTS OF ONE TASK: the record that `JobManager.run` keeps, and the snapshot that
             another process reads from Proxmox.

  `waitForUpid` returns whatever the exit status is, and a job whose executor returns is completed;
  `classifyUpidState` reads the exit status.

  * `run_runJob`: what the record is, by how the executor ended;
  * `run_readUpidJobSnapshot`: what the snapshot is, by the status that was read;
  * `jobOutcome_agree_iff`: when the two report the same state, error and `isError`.
-/
import ProxmoxMcp.JobIds
import ProxmoxMcp.AuthRetry

namespace ProxmoxMcp

open Js Effects

variable [Text.Unicode]

/-! ## 1. What is reported -/

/-- The state, the error and `isError` of a report. -/
def ToolResult.outcome (r : ToolResult) : Value × Value × Bool :=
  (r.structuredContent.get "state", r.structuredContent.get "error", r.isError)

omit [Text.Unicode] in
theorem JobState.text_injective {s s' : JobState} (h : s.text = s'.text) : s = s' := by
  cases s <;> cases s' <;> first | rfl | (revert h; decide)

omit [Text.Unicode] in
theorem optionText_injective {a b : Option String} (h : optionText a = optionText b) : a = b := by
  cases a <;> cases b <;> cases h <;> rfl

omit [Text.Unicode] in
/-- **Two records are reported alike exactly if they have the same state and error.** -/
theorem outcome_completedJobResult_eq_iff (job job' : ServerJob) (logs logs' : List String)
    (note note' : String) :
    (completedJobResult job logs note).outcome = (completedJobResult job' logs' note').outcome ↔
      job.state = job'.state ∧ job.error = job'.error := by
  have hout : ∀ (j : ServerJob) l n, (completedJobResult j l n).outcome =
      (.str j.state.text, optionText j.error, j.state == .failed || j.state == .cancelled) :=
    fun _ _ _ => rfl
  rw [hout, hout]
  constructor
  · intro h
    simp only [Prod.mk.injEq, Value.str.injEq] at h
    exact ⟨JobState.text_injective h.1, optionText_injective h.2.1⟩
  · rintro ⟨hs, he⟩
    rw [hs, he]

/-! ## 2. Runs of a job -/

/-- The record a job ends with, by how its executor ended. -/
def endedJob (job : ServerJob) (aborted : Bool) : Outcome String Value → ServerJob
  | .ok result => { job with state := .completed, result := result }
  | .error m => { job with state := if aborted then .cancelled else .failed, error := some m }
  | .cut => job

/-- Was the job's signal found aborted? -/
def sawAbort (t : History) : Bool :=
  t.any fun
    | ⟨.aborted, b⟩ => b
    | _ => false

omit [Text.Unicode] in
/-- **How a job runs**: its executor, then the record. -/
theorem run_runJob {job final : ServerJob} {executor : M Value} {t : History}
    (h : Prog.Run (runJob job executor) t (.ok final)) :
    ∃ t₁ t₂ w, t = ⟨.storeJob { job with state := .running }, ()⟩ :: (t₁ ++ t₂) ∧
      Prog.Run executor t₁ w ∧ w ≠ .cut ∧ final = endedJob job (sawAbort t₂) w := by
  obtain ⟨-, t', rfl, h⟩ := Prog.run_perform_bind.mp h
  obtain ⟨t₃, t₄, record, rfl, h3, h4⟩ := Prog.run_bind_ok h
  obtain ⟨-, t₇, rfl, h7⟩ := Prog.run_perform_bind.mp h4
  obtain ⟨rfl, hfinal⟩ := Prog.run_pure.mp h7
  cases hfinal
  obtain ⟨t₅, t₆, o₅, rfl, h5, h6⟩ := Prog.run_tryCatch.mp h3
  obtain ⟨t₁, t₈, w, rfl, hw, h8⟩ := Prog.run_bind.mp h5
  cases w with
  | ok result =>
    obtain ⟨rfl, rfl⟩ := Prog.run_pure.mp h8
    obtain ⟨rfl, hrecord⟩ := h6
    cases hrecord
    exact ⟨t₁, [⟨.storeJob (endedJob job false (.ok result)), ()⟩], _, by simp [endedJob], hw,
      nofun, rfl⟩
  | cut =>
    obtain ⟨rfl, rfl⟩ := h8
    cases h6.2
  | error m =>
    obtain ⟨rfl, rfl⟩ := h8
    obtain ⟨aborted, t₉, rfl, h9⟩ := Prog.run_perform_bind.mp h6
    obtain ⟨rfl, hrecord⟩ := Prog.run_pure.mp h9
    cases hrecord
    exact ⟨t₁, [⟨.aborted, aborted⟩, ⟨.storeJob (endedJob job aborted (.error m)), ()⟩], _,
      by simp [endedJob], hw, nofun, by cases aborted <;> rfl⟩

omit [Text.Unicode] in
theorem run_reportLocal {job : ServerJob} {note : String} {t : History} {r : ToolResult}
    (h : Prog.Run (reportLocal job note) t (.ok r)) :
    ∃ logs, r = completedJobResult job logs note := by
  obtain ⟨logs, t', -, h1⟩ := Prog.run_perform_bind.mp h
  cases (Prog.run_pure.mp h1).2
  exact ⟨logs, rfl⟩

/-- The reports of a job of this process that has ended with the record `final`. -/
inductive ReportedLocally (S : Service) (final : ServerJob) : ToolResult → Prop where
  | get (jobId : String) (t : History) (r : ToolResult)
      (h : Prog.Run (S.jobGet jobId) (⟨.findJob jobId, some final⟩ :: t) (.ok r)) :
      ReportedLocally S final r
  | wait (jobId : String) (timeoutMs : Option Nat) (rounds : Nat) (found : ServerJob)
      (t : History) (r : ToolResult)
      (h : Prog.Run (S.jobWait jobId timeoutMs rounds)
        (⟨.findJob jobId, some found⟩ :: ⟨.waitJob jobId, some final⟩ :: t) (.ok r)) :
      ReportedLocally S final r
  | tool (execution : Execution) (job : ServerJob) (finished running : String) (t : History)
      (r : ToolResult) (hwait : execution.waitMode = .wait)
      (h : Prog.Run (settledResult execution job final finished running) t (.ok r)) :
      ReportedLocally S final r
  | toolInTime (execution : Execution) (job : ServerJob) (finished running : String) (t : History)
      (r : ToolResult) (hauto : execution.waitMode = .auto)
      (h : Prog.Run (settledResult execution job final finished running)
        (⟨.settledInTime, true⟩ :: t) (.ok r)) :
      ReportedLocally S final r

/-- **Every local report is the report of the record.** -/
theorem ReportedLocally.eq {S : Service} {final : ServerJob} {r : ToolResult}
    (h : ReportedLocally S final r) : ∃ logs note, r = completedJobResult final logs note := by
  cases h with
  | get jobId t r h =>
    obtain ⟨found, t', e, h⟩ := Prog.run_perform_bind.mp h
    cases e
    obtain ⟨logs, e⟩ := run_reportLocal h
    exact ⟨logs, _, e⟩
  | wait jobId timeoutMs rounds found t r h =>
    obtain ⟨found', t', e, h1⟩ := Prog.run_perform_bind.mp h
    cases e
    obtain ⟨t₁, t₂, job, e, h2, h3⟩ := Prog.run_bind_ok h1
    obtain ⟨known, t₃, rfl, h4⟩ := Prog.run_perform_bind.mp h2
    cases e
    cases (Prog.run_pure.mp h4).2
    obtain ⟨logs, e⟩ := run_reportLocal h3
    exact ⟨logs, _, e⟩
  | tool execution job finished running t r hwait h =>
    simp only [settledResult, settleJob, hwait] at h
    obtain ⟨logs, e⟩ := run_reportLocal h
    exact ⟨logs, _, e⟩
  | toolInTime execution job finished running t r hauto h =>
    simp only [settledResult, settleJob, hauto] at h
    obtain ⟨inTime, t', e, h⟩ := Prog.run_perform_bind.mp h
    cases e
    obtain ⟨logs, e⟩ := run_reportLocal h
    exact ⟨logs, _, e⟩

/-! ## 3. Runs of a snapshot -/

/-- The classification of a task that has stopped. -/
theorem classifyUpidState_stopped {status : Value} (h : status.get "status" = .str "stopped") :
    classifyUpidState status =
      if exitsOk (exitStatusOf status) then (.completed, none)
      else (if mentionsCancel (exitStatusOf status) then .cancelled else .failed,
        some (String.ofList (exitStatusOf status))) := by
  simp only [classifyUpidState, h]
  cases mentionsCancel (exitStatusOf status) <;> rfl

/-- **What a snapshot says**: the classification of the status it holds. -/
theorem run_readUpidJobSnapshot {S : Service} {jobId : String} {t : History}
    {snapshot : ServerJob × List String}
    (h : Prog.Run (S.readUpidJobSnapshot jobId) t (.ok snapshot)) :
    (snapshot.1.state, snapshot.1.error) =
      classifyUpidState (snapshot.1.result.get "status") := by
  unfold Service.readUpidJobSnapshot at h
  split at h
  · cases h
  · obtain ⟨_, _, node, _, _, h1⟩ := Prog.run_bind_ok h
    obtain ⟨_, _, status, _, _, h2⟩ := Prog.run_bind_ok h1
    obtain ⟨_, _, log, _, _, h3⟩ := Prog.run_bind_ok h2
    cases (Prog.run_pure.mp h3).2
    rfl

/-- The reports of another process, which does not know the job. -/
inductive Rehydrated (S : Service) (jobId : String) : ToolResult → Prop where
  | get (t : History) (r : ToolResult)
      (h : Prog.Run (S.jobGet jobId) (⟨.findJob jobId, none⟩ :: t) (.ok r)) :
      Rehydrated S jobId r
  | wait (timeoutMs : Option Nat) (rounds : Nat) (t : History) (r : ToolResult)
      (h : Prog.Run (S.jobWait jobId timeoutMs rounds) (⟨.findJob jobId, none⟩ :: t) (.ok r)) :
      Rehydrated S jobId r
  | cancel (handle : UpidJobHandlePayload) (t : History) (r : ToolResult)
      (hid : parseUpidJobId jobId = some handle)
      (h : Prog.Run (S.jobCancel jobId) (⟨.findJob jobId, none⟩ :: t) (.ok r)) :
      Rehydrated S jobId r

/-- The last snapshot of a wait. -/
theorem run_waitForUpidJobSnapshot {S : Service} {jobId : String} {timeoutMs : Option Nat}
    {started : Nat} {snapshot : ServerJob × List String} : ∀ {fuel : Nat} {t : History},
    Prog.Run (S.waitForUpidJobSnapshot jobId timeoutMs started fuel) t (.ok snapshot) →
      ∃ t', Prog.Run (S.readUpidJobSnapshot jobId) t' (.ok snapshot)
  | 0, _, h => by cases h
  | fuel + 1, t, h => by
      obtain ⟨t₁, t₂, first, _, h1, h2⟩ := Prog.run_bind_ok h
      split at h2
      · cases (Prog.run_pure.mp h2).2
        exact ⟨t₁, h1⟩
      · obtain ⟨now, t₃, -, h3⟩ := Prog.run_perform_bind.mp h2
        split at h3
        · cases (Prog.run_pure.mp h3).2
          exact ⟨t₁, h1⟩
        · obtain ⟨_, t₄, _, _, _, h4⟩ := Prog.run_bind_ok h3
          exact run_waitForUpidJobSnapshot h4

/-- **Every report of another process is that of a snapshot.** -/
theorem Rehydrated.eq {S : Service} {jobId : String} {r : ToolResult} (h : Rehydrated S jobId r) :
    ∃ t snapshot note, Prog.Run (S.readUpidJobSnapshot jobId) t (.ok snapshot) ∧
      r = completedJobResult snapshot.1 snapshot.2 note := by
  cases h with
  | get t r h =>
    obtain ⟨found, t', e, h1⟩ := Prog.run_perform_bind.mp h
    cases e
    obtain ⟨t₁, _, snapshot, _, h2, h3⟩ := Prog.run_bind_ok h1
    cases (Prog.run_pure.mp h3).2
    exact ⟨t₁, snapshot, _, h2, rfl⟩
  | wait timeoutMs rounds t r h =>
    obtain ⟨found, t', e, h1⟩ := Prog.run_perform_bind.mp h
    cases e
    obtain ⟨started, t₀, -, h2⟩ := Prog.run_perform_bind.mp h1
    obtain ⟨t₁, _, snapshot, _, h3, h4⟩ := Prog.run_bind_ok h2
    cases (Prog.run_pure.mp h4).2
    obtain ⟨t', h5⟩ := run_waitForUpidJobSnapshot h3
    exact ⟨t', snapshot, _, h5, rfl⟩
  | cancel handle t r hid h =>
    obtain ⟨found, t', e, h1⟩ := Prog.run_perform_bind.mp h
    cases e
    simp only [cancelHandle, hid] at h1
    obtain ⟨_, t₀, _, _, _, h2⟩ := Prog.run_bind_ok h1
    obtain ⟨t₁, _, snapshot, _, h3, h4⟩ := Prog.run_bind_ok h2
    cases (Prog.run_pure.mp h4).2
    exact ⟨t₁, snapshot, _, h3, rfl⟩

/-- The status a report of a task holds. -/
def ToolResult.taskStatus (r : ToolResult) : Value :=
  (r.structuredContent.get "result").get "status"

/-- What another process reports is the classification of the status. -/
theorem Rehydrated.outcome_eq {S : Service} {jobId : String} {r : ToolResult}
    (h : Rehydrated S jobId r) :
    r.outcome = (.str (classifyUpidState r.taskStatus).1.text,
      optionText (classifyUpidState r.taskStatus).2,
      (classifyUpidState r.taskStatus).1 == .failed ||
        (classifyUpidState r.taskStatus).1 == .cancelled) := by
  obtain ⟨t, snapshot, note, hsnap, rfl⟩ := h.eq
  have hclass := run_readUpidJobSnapshot hsnap
  have hstatus : (completedJobResult snapshot.1 snapshot.2 note).taskStatus =
      snapshot.1.result.get "status" := rfl
  rw [hstatus, ← hclass]
  rfl

/-! ## 4. When they agree -/

/-- The wait ended without a failure and the task is well; or it failed, with a text that is
    letter for letter the exit status, and the job's signal fits it. -/
def OutcomesAgree (status : Value) (aborted : Bool) : Outcome String Value → Prop
  | .ok _ => exitsOk (exitStatusOf status) = true
  | .error m => exitsOk (exitStatusOf status) = false ∧
      m = String.ofList (exitStatusOf status) ∧ aborted = mentionsCancel (exitStatusOf status)
  | .cut => False

/-- **The two reports agree exactly if the wait went through and the task is well**, or the wait
    failed with the very text of the exit status. -/
theorem jobOutcome_agree_iff (S S' : Service) (execution : Execution) (target : TargetRef)
    (operation upid : String) (t₁ t₂ : History) (w : Outcome String Value) (final : ServerJob)
    (r r' : ToolResult)
    (hwait : Prog.Run (S.upidExecutor execution target.cluster upid) t₁ w)
    (hjob : Prog.Run
      (runJob (newUpidJob target operation upid) (S.upidExecutor execution target.cluster upid))
      (⟨.storeJob { newUpidJob target operation upid with state := .running }, ()⟩ :: (t₁ ++ t₂))
      (.ok final))
    (hr : ReportedLocally S final r)
    (hr' : Rehydrated S' (makeUpidJobId target operation upid) r')
    (hstopped : r'.taskStatus.get "status" = .str "stopped")
    (hsame : ∀ v, w = .ok v → v.get "status" = r'.taskStatus) :
    r.outcome = r'.outcome ↔ OutcomesAgree r'.taskStatus (sawAbort t₂) w := by
  -- the record and the snapshot
  obtain ⟨logs, note, rfl⟩ := hr.eq
  obtain ⟨t', snapshot, note', hsnap, rfl⟩ := hr'.eq
  have hclass := run_readUpidJobSnapshot hsnap
  have hstatus : (completedJobResult snapshot.1 snapshot.2 note').taskStatus =
      snapshot.1.result.get "status" := rfl
  rw [hstatus] at hstopped hsame ⊢
  rw [outcome_completedJobResult_eq_iff]
  generalize snapshot.1.result.get "status" = status at *
  rw [classifyUpidState_stopped hstopped] at hclass
  -- the record says how the wait ended
  obtain ⟨s₁, s₂, w', hs, hw', hcut, rfl⟩ := run_runJob hjob
  obtain ⟨rfl, rfl⟩ := hwait.unique hw' (List.cons.inj hs).2
  obtain rfl := List.append_cancel_left (List.cons.inj hs).2
  generalize snapshot.1.state = state, snapshot.1.error = error at *
  cases w with
  | cut => exact absurd rfl hcut
  | ok v =>
    show (JobState.completed = state ∧ none = error) ↔ exitsOk (exitStatusOf status) = true
    cases hok : exitsOk (exitStatusOf status) <;> rw [hok] at hclass <;> cases hclass <;> simp
  | error m =>
    show ((if sawAbort t₂ then JobState.cancelled else .failed) = state ∧ some m = error) ↔
      exitsOk (exitStatusOf status) = false ∧ m = String.ofList (exitStatusOf status) ∧
        sawAbort t₂ = mentionsCancel (exitStatusOf status)
    cases hok : exitsOk (exitStatusOf status) <;> rw [hok] at hclass <;> cases hclass
    · cases sawAbort t₂ <;> cases mentionsCancel (exitStatusOf status) <;> simp
    · simp

/-- A service with one cluster. -/
def exampleService : Service where
  config := { clusters := [exampleCluster], policies := [defaultAdminPolicy] }
  catalog := statusEndpoints

/-- The task of the examples. -/
def exampleUpid : String := "UPID:pve:1"

omit [Text.Unicode] in
theorem upidNode_exampleUpid : upidNode exampleUpid = .ok "pve" := by decide +kernel

/-- A request of the example that goes through. -/
theorem exists_run_example (method path : String) (args : List (String × Value))
    (reply : HttpReply) (hok : reply.ok = true) :
    ∃ t, Prog.Run (exampleService.apiRequest (taskPurpose "default") "default" method path args) t
      (.ok (unwrapData reply.payload)) := by
  obtain ⟨request, hb⟩ := exists_buildRequest exampleCluster method path args
  rw [← attemptOutcome_ok method path hok]
  exact ⟨_, run_apiRequest_plain (taskPurpose "default") rfl rfl hb (.ok reply)⟩

/-- A wait that finds its task stopped at once, and its log. -/
theorem exists_run_wait {reply : HttpReply} {status : Value} (hok : reply.ok = true)
    (hdata : unwrapData reply.payload = status) (hstopped : status.get "status" = .str "stopped") :
    ∃ t log, Prog.Run (exampleService.upidExecutor { rounds := 1 } "default" exampleUpid) t
      (.ok (.obj [("status", status), ("log", log)])) := by
  obtain ⟨t₁, h1⟩ := exists_run_example "GET" (taskPath "pve" exampleUpid "/status") []
    reply hok
  obtain ⟨t₂, h2⟩ := exists_run_example "GET" (taskPath "pve" exampleUpid "/log") []
    ⟨200, ""⟩ rfl
  rw [hdata] at h1
  have hread : readProperty status "status" = .ok (.str "stopped") := by
    cases status with
    | obj ps => exact congrArg Except.ok hstopped
    | _ => cases hstopped
  have hpoll : Prog.Run (exampleService.pollUpid "default" "pve" exampleUpid 2000
      (jobProgress { rounds := 1 }) 1 0) (⟨.aborted, false⟩ :: (t₁ ++ [])) (.ok status) := by
    refine Prog.run_perform_bind.mpr ⟨false, _, rfl, ?_⟩
    refine Prog.run_bind.mpr ⟨t₁, [], .ok status, rfl, h1, ?_⟩
    simp only [Prog.BindRun, hread, Prog.ofExcept_ok_bind]
    exact .pure status
  refine ⟨_, _, Prog.run_bind.mpr ⟨[], _, .ok "pve", rfl, ?_, Prog.run_bind.mpr
    ⟨_, _, .ok status, rfl, hpoll, Prog.run_bind.mpr ⟨t₂, [], .ok _, rfl, h2, .pure _⟩⟩⟩⟩
  rw [upidNode_exampleUpid]
  exact .pure _

omit [Text.Unicode] in
/-- A task's id is read back as the task it names. -/
theorem parseUpidJobId_unnamed (target : TargetRef) (operation upid : String) :
    parseUpidJobId (makeUpidJobId target operation upid) =
      some ⟨operation, target.toJobTarget, upid⟩ := by
  have htarget : NamedTargetRef.toValue ⟨target, none⟩ = target.toValue := by
    simp [NamedTargetRef.toValue, NamedTargetRef.properties, TargetRef.toValue]
  rw [← UpidJob.id_unnamed, UpidJob.parse_id, htarget, TargetRef.toJobTarget]

/-- A snapshot of the example. -/
theorem exists_run_snapshot {jobId : String} {reply : HttpReply} (hok : reply.ok = true)
    (hid : parseUpidJobId jobId = some ⟨"api", exampleTarget.toJobTarget, exampleUpid⟩) :
    ∃ t snapshot, Prog.Run (exampleService.readUpidJobSnapshot jobId) t (.ok snapshot) ∧
      snapshot.1.result.get "status" = unwrapData reply.payload := by
  obtain ⟨t₁, h1⟩ := exists_run_example "GET" (taskPath "pve" exampleUpid "/status") []
    reply hok
  obtain ⟨t₂, h2⟩ := exists_run_example "GET" (taskPath "pve" exampleUpid "/log") []
    ⟨200, ""⟩ rfl
  unfold Service.readUpidJobSnapshot
  rw [hid]
  refine ⟨_, _, Prog.run_bind.mpr ⟨[], _, .ok "pve", rfl, ?_, Prog.run_bind.mpr
    ⟨t₁, _, .ok _, rfl, h1, Prog.run_bind.mpr ⟨t₂, [], .ok _, rfl, h2, .pure _⟩⟩⟩, rfl⟩
  rw [upidNode_exampleUpid]
  exact .pure _

/-- A job of the example that ends, with its local report and that of another process. -/
theorem exists_reports (reply : HttpReply) (status : Value) (hok : reply.ok = true)
    (hdata : unwrapData reply.payload = status) (hstopped : status.get "status" = .str "stopped") :
    ∃ t₁ t₂ v final r r',
      Prog.Run (exampleService.upidExecutor { rounds := 1 } exampleTarget.cluster exampleUpid) t₁
        (.ok v) ∧
      Prog.Run (runJob (newUpidJob exampleTarget "api" exampleUpid)
          (exampleService.upidExecutor { rounds := 1 } exampleTarget.cluster exampleUpid))
        (⟨.storeJob { newUpidJob exampleTarget "api" exampleUpid with state := .running }, ()⟩ ::
          (t₁ ++ t₂)) (.ok final) ∧
      ReportedLocally exampleService final r ∧
      Rehydrated exampleService (makeUpidJobId exampleTarget "api" exampleUpid) r' ∧
      r'.taskStatus = status ∧ v.get "status" = status ∧
      r.outcome = (.str "completed", .undefined, false) := by
  obtain ⟨t₁, log, hwait⟩ := exists_run_wait hok hdata hstopped
  obtain ⟨t', snapshot, hsnap, hstatus⟩ := exists_run_snapshot hok
    (parseUpidJobId_unnamed exampleTarget "api" exampleUpid)
  let job := newUpidJob exampleTarget "api" exampleUpid
  let final := endedJob job false (.ok (.obj [("status", status), ("log", log)]))
  refine ⟨t₁, [⟨.storeJob final, ()⟩], _, final,
    completedJobResult final [] s!"Job {job.jobId}",
    completedJobResult snapshot.1 snapshot.2 s!"Job {job.jobId}", hwait, ?_,
    .get job.jobId [⟨.jobLogs job.jobId, []⟩] _ ?_, .get (t' ++ []) _ ?_, ?_, rfl, rfl⟩
  · refine Prog.run_perform_bind.mpr ⟨(), _, rfl, ?_⟩
    refine Prog.run_bind.mpr ⟨t₁, [⟨.storeJob final, ()⟩], .ok final, rfl, ?_, ?_⟩
    · refine Prog.run_tryCatch.mpr ⟨t₁, [], .ok final, (List.append_nil _).symm, ?_, rfl, rfl⟩
      exact Prog.run_bind.mpr ⟨t₁, [], _, (List.append_nil _).symm, hwait, .pure _⟩
    · exact Prog.run_perform_bind.mpr ⟨(), [], rfl, .pure _⟩
  · refine Prog.run_perform_bind.mpr ⟨some final, _, rfl, ?_⟩
    exact Prog.run_perform_bind.mpr ⟨[], [], rfl, .pure _⟩
  · refine Prog.run_perform_bind.mpr ⟨none, _, rfl, ?_⟩
    exact Prog.run_bind.mpr ⟨t', [], _, rfl, hsnap, .pure _⟩
  · show snapshot.1.result.get "status" = status
    rw [hstatus, hdata]

omit [Text.Unicode] in
/-- A task that ends well is reported alike. -/
theorem jobOutcome_agree_iff_ok :
    letI := Text.asciiCase
    ∃ final r r', ReportedLocally exampleService final r ∧
      Rehydrated exampleService (makeUpidJobId exampleTarget "api" exampleUpid) r' ∧
      r'.taskStatus = .obj [("status", .str "stopped"), ("exitstatus", .str "OK")] ∧
      r.outcome = r'.outcome := by
  let := Text.asciiCase
  obtain ⟨t₁, t₂, v, final, r, r', hwait, hjob, hr, hr', hstatus, hv, -⟩ :=
    exists_reports ⟨200, "\x7b\"data\":\x7b\"status\":\"stopped\",\"exitstatus\":\"OK\"\x7d\x7d"⟩
      (.obj [("status", .str "stopped"), ("exitstatus", .str "OK")]) rfl
      (by decide +kernel) rfl
  refine ⟨final, r, r', hr, hr', hstatus, ?_⟩
  refine (jobOutcome_agree_iff exampleService exampleService { rounds := 1 } exampleTarget "api"
    exampleUpid t₁ t₂ (.ok v) final r r' hwait hjob hr hr' ?_ ?_).mpr ?_
  · rw [hstatus]
    rfl
  · rintro v' ⟨⟩
    rw [hv, hstatus]
  · rw [hstatus]
    show exitsOk _ = true
    decide +kernel

omit [Text.Unicode] in
/-- A task that fails is a completed job in the process that started it, and a failed one in
    another. -/
theorem jobOutcome_failedTask :
    letI := Text.asciiCase
    ∃ t final r r',
      Prog.Run (runJob (newUpidJob exampleTarget "api" exampleUpid)
        (exampleService.upidExecutor { rounds := 1 } exampleTarget.cluster exampleUpid)) t
        (.ok final) ∧
      ReportedLocally exampleService final r ∧
      Rehydrated exampleService (makeUpidJobId exampleTarget "api" exampleUpid) r' ∧
      r'.taskStatus = .obj [("status", .str "stopped"), ("exitstatus", .str "job errors")] ∧
      r.outcome = (.str "completed", .undefined, false) ∧
      r'.outcome = (.str "failed", .str "job errors", true) := by
  let := Text.asciiCase
  obtain ⟨t₁, t₂, v, final, r, r', -, hjob, hr, hr', hstatus, -, hlocal⟩ :=
    exists_reports
      ⟨200, "\x7b\"data\":\x7b\"status\":\"stopped\",\"exitstatus\":\"job errors\"\x7d\x7d"⟩
      (.obj [("status", .str "stopped"), ("exitstatus", .str "job errors")]) rfl
      (by decide +kernel) rfl
  refine ⟨_, final, r, r', hjob, hr, hr', hstatus, hlocal, ?_⟩
  have hclass : classifyUpidState r'.taskStatus = (.failed, some "job errors") := by
    rw [hstatus]
    decide +kernel
  rw [hr'.outcome_eq, hclass]
  rfl

end ProxmoxMcp
