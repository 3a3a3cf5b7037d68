/-
  File:      ProxmoxMcp/JobLogs.lean
  Subject:   TWO SOURCES OF A JOB'S LOGS (`job_logs`, `job-log-resource`): the record of the process
             that runs the job, and the task log of Proxmox that any other process reads.

  The executors of tasks call `setProgress`, and none of them calls `appendLog`: the record of a
  task has no line, at any point of its life.
-/
import ProxmoxMcp.JobIds
import ProxmoxMcp.JobManager
import ProxmoxMcp.TaskProgress

namespace ProxmoxMcp

open Js Effects Runs

/-! ## 1. The logs of a record -/

section Records

variable {m m' : JobManager} {e : JobEvent} {es : List JobEvent}

theorem logs_refersToResult (r : JobRecord) : r.refersToResult.logs = r.logs := rfl

theorem logs_complete (r : JobRecord) (result : Value) : (r.complete result).logs = r.logs := rfl

theorem logs_reject (r : JobRecord) (aborted : Bool) (reason : Rejection) :
    (r.reject aborted reason).logs = r.logs := by
  unfold JobRecord.reject
  dsimp only
  split <;> rfl

theorem jobId_reject (r : JobRecord) (aborted : Bool) (reason : Rejection) :
    (r.reject aborted reason).jobId = r.jobId := by
  unfold JobRecord.reject
  dsimp only
  split <;> rfl

/-- A record is filed under its id. -/
def Filed (m : JobManager) : Prop := ∀ j record, m.jobs j = some record → record.jobId = j

theorem Filed.write (h : Filed m) (jobId : String) {f : JobRecord → JobRecord}
    (hf : ∀ r, (f r).jobId = r.jobId) : Filed (m.write jobId f) := by
  intro j record hrecord
  rw [jobs_write] at hrecord
  split at hrecord
  · obtain ⟨record₀, hrecord₀, rfl⟩ := Option.map_eq_some_iff.mp hrecord
    rw [hf]
    exact h j record₀ hrecord₀
  · exact h j record hrecord

theorem Filed.step (h : Filed m) (hstep : m.Steps e m') : Filed m' := by
  cases hstep with
  | create jobId target operation relatedUpid =>
    intro j record hrecord
    rw [jobs_create] at hrecord
    split at hrecord
    · cases hrecord
      rename_i hj
      exact hj.symm
    · exact h j record hrecord
  | run jobId =>
    cases hjob : m.jobs jobId with
    | none =>
      rw [JobManager.run, hjob]
      exact h
    | some record₀ =>
      rw [run_eq hjob]
      exact h.write jobId fun _ => rfl
  | callback _ run r f hrun hf => exact h.write r.jobId hf.jobId
  | resolves run result jobId aborted hrun => exact h.write jobId fun _ => rfl
  | rejects run reason jobId aborted hrun =>
    exact h.write jobId fun r => jobId_reject r aborted reason
  | cancel jobId =>
    intro j record hrecord
    rw [jobs_cancel] at hrecord
    exact h j record hrecord

/-- **A record is filed under its id**, after any events. -/
theorem filed_run (hm : JobManager.after es = some m) : Filed m :=
  invariant (fun h hstep => Filed.step h (steps_of_step hstep)) (by
    intro j record h
    cases h) hm

/-- A call of `run` stays the call for its job. -/
theorem jobId_of_step (hstep : m.Steps e m') {k : Nat} {r : JobRun} (hr : m.runs[k]? = some r) :
    ∃ r', m'.runs[k]? = some r' ∧ r'.jobId = r.jobId := by
  have hsettle : ∀ (run : Nat) (jobRun : JobRun) (f : JobRecord → JobRecord) (c : Completion),
      m.runs[run]? = some jobRun →
      ∃ r', (m.settle run jobRun f c).runs[k]? = some r' ∧ r'.jobId = r.jobId := by
    intro run jobRun f c hrun
    by_cases hk : k = run
    · rw [hk, hrun] at hr
      cases hr
      exact ⟨_, (getElem?_set_run hrun).mpr (.inl ⟨hk, rfl⟩), rfl⟩
    · exact ⟨r, (getElem?_set_run hrun).mpr (.inr ⟨hk, hr⟩), rfl⟩
  cases hstep with
  | create | callback => exact ⟨r, hr, rfl⟩
  | run jobId =>
    cases hjob : m.jobs jobId with
    | none =>
      rw [JobManager.run, hjob]
      exact ⟨r, hr, rfl⟩
    | some record =>
      rw [run_eq hjob]
      exact ⟨r, getElem?_concat.mpr (.inl hr), rfl⟩
  | resolves run result jobId aborted hrun => exact hsettle _ _ _ _ hrun
  | rejects run reason jobId aborted hrun => exact hsettle _ _ _ _ hrun
  | cancel jobId =>
    obtain ⟨r', hr', hjob, _⟩ := cancel_of_run hr
    exact ⟨r', hr', hjob⟩

/-- No executor of the job has called `appendLog`. -/
def NoLineIn (es : List JobEvent) (m : JobManager) (jobId : String) : Prop :=
  ∀ k r message, m.runs[k]? = some r → r.jobId = jobId → JobEvent.appendLog k message ∉ es

/-- A record without lines, under a write that keeps them. -/
theorem logs_write {jobId j : String} {f : JobRecord → JobRecord} (hf : ∀ r, (f r).logs = r.logs)
    (h : ∀ record, m.jobs j = some record → record.logs = []) :
    ∀ record, (m.write jobId f).jobs j = some record → record.logs = [] := by
  intro record hrecord
  rw [jobs_write] at hrecord
  split at hrecord
  · obtain ⟨record₀, hrecord₀, rfl⟩ := Option.map_eq_some_iff.mp hrecord
    rw [hf]
    exact h record₀ hrecord₀
  · exact h record hrecord

/-- **Without a call of `appendLog` a record has no line**, whatever else happens. -/
theorem logs_run : ∀ {es : List JobEvent} {m : JobManager}, JobManager.after es = some m →
    ∀ j, NoLineIn es m j → ∀ record, m.jobs j = some record → record.logs = [] := by
  intro es
  induction es using List.reverseRecOn with
  | nil =>
    intro m hm j _ record hrecord
    cases hm
    cases hrecord
  | append_singleton es e ih =>
    intro m hm j hnone
    obtain ⟨m₀, hm₀, hstep⟩ := run_concat.mp hm
    have hsteps := steps_of_step hstep
    have hbefore : NoLineIn es m₀ j := by
      intro k r message hr hj hmem
      obtain ⟨r', hr', hj'⟩ := jobId_of_step hsteps hr
      exact hnone k r' message hr' (hj'.trans hj) (List.mem_append_left _ hmem)
    have hold := ih hm₀ j hbefore
    cases hsteps with
    | create jobId target operation relatedUpid =>
      intro record hrecord
      rw [jobs_create] at hrecord
      split at hrecord
      · cases hrecord
        rfl
      · exact hold record hrecord
    | run jobId =>
      cases hjob : m₀.jobs jobId with
      | none =>
        rw [JobManager.run, hjob]
        exact hold
      | some record₀ =>
        rw [run_eq hjob]
        exact logs_write (m := m₀) (fun _ => rfl) hold
    | callback _ run r f hrun hf hjob hlogs =>
      rcases hlogs with ⟨message, rfl⟩ | hlogs
      · intro record hrecord
        rw [jobs_write, if_neg] at hrecord
        · exact hold record hrecord
        · intro hj
          exact hnone run r message hrun hj.symm (by simp)
      · exact logs_write hlogs hold
    | resolves run result jobId aborted hrun =>
      exact logs_write (fun r => logs_complete r result) hold
    | rejects run reason jobId aborted hrun =>
      exact logs_write (fun r => logs_reject r aborted reason) hold
    | cancel jobId =>
      rw [jobs_cancel]
      exact hold

end Records

open Prog

variable [Text.Unicode]

/-! ## 2. The executors of tasks -/

/-- Every effect but a line. -/
def Effect.isUnlogged : Effect → Bool
  | .appendLog _ => false
  | _ => true

omit [Text.Unicode] in
theorem Effect.isUnlogged_of_isRequest (e : Effect) (h : e.isRequest = true) :
    e.isUnlogged = true := by
  cases e <;> first | rfl | cases h

/-- A program that logs no line. -/
def LogsNothing {α : Type} (p : M α) : Prop := Only (fun e => e.isUnlogged = true) p

/-- What an executor of a task does afterwards: it logs nothing. -/
structure UnloggedAfter extends AfterTask where
  logsNothing : ∀ task, LogsNothing (run task)

/-- Most executors return the task. -/
def UnloggedAfter.returns : UnloggedAfter := ⟨.returns, fun _ => only_pure⟩

variable {S : Service}

omit [Text.Unicode] in
theorem logsNothing_jobProgress {execution : Execution} {snapshot : ProgressSnapshot} :
    LogsNothing (jobProgress execution snapshot) := by
  refine only_bind (only_perform rfl) fun _ => ?_
  split
  · exact only_attempt rfl
  · exact only_pure

theorem logsNothing_pollOnce {cluster node upid : String} :
    LogsNothing (S.pollOnce cluster node upid) := by
  refine only_bind (only_perform rfl) fun aborted => ?_
  split
  · exact only_throw
  · refine only_bind (only_apiRequest Effect.isUnlogged_of_isRequest) fun status => ?_
    exact only_bind only_ofExcept fun word => only_pure

theorem logsNothing_pollUpid {execution : Execution} {cluster node upid : String} {ms : Nat} :
    ∀ fuel attempts, LogsNothing
      (S.pollUpid cluster node upid ms (jobProgress execution) fuel attempts) := by
  intro fuel
  induction fuel with
  | zero =>
    intro attempts t o h s hs
    cases h
    cases hs
  | succ fuel ih =>
    intro attempts
    rw [pollUpid_succ]
    refine only_bind logsNothing_pollOnce fun seen => ?_
    split
    · exact only_pure
    · refine only_bind logsNothing_jobProgress fun _ => ?_
      exact only_bind (only_attempt rfl) fun _ => ih (attempts + 1)

/-- **The executor of a task logs no line.** -/
theorem logsNothing_taskExecutor {execution : Execution} {cluster upid : String}
    (after : UnloggedAfter) :
    LogsNothing (S.taskExecutor execution cluster upid after.toAfterTask) := by
  refine only_bind (only_bind only_ofExcept fun node => ?_) fun task => after.logsNothing task
  refine only_bind (logsNothing_pollUpid _ _) fun status => ?_
  refine only_bind (only_apiRequest Effect.isUnlogged_of_isRequest) fun log => ?_
  exact only_pure

/-- The call of an executor's context that an effect is. -/
def contextEvent (run : Nat) : (Σ e : Effect, e.Reply) → Option JobEvent
  | ⟨.appendLog line, _⟩ => some (.appendLog run line)
  | ⟨.setProgress snapshot, _⟩ => some (.setProgress run snapshot)
  | _ => none

/-- The lines that the runs of a job have logged are lines of its task's executors. -/
def LogsAsTask (S : Service) (es : List JobEvent) (m : JobManager) (target : TargetRef)
    (operation upid : String) : Prop :=
  ∀ (k : Nat) (r : JobRun) (message : String), m.runs[k]? = some r →
    r.jobId = makeUpidJobId target operation upid → JobEvent.appendLog k message ∈ es →
    ∃ (execution : Execution) (after : UnloggedAfter) (t : History) (o : Outcome String Value),
      Prog.Run (S.taskExecutor execution target.cluster upid after.toAfterTask) t o ∧
        JobEvent.appendLog k message ∈ t.filterMap (contextEvent k)

section Reports

variable {m : JobManager} {es : List JobEvent} {target : TargetRef} {operation upid : String}

theorem LogsAsTask.noLineIn (h : LogsAsTask S es m target operation upid) :
    NoLineIn es m (makeUpidJobId target operation upid) := by
  intro k r message hr hj hmem
  obtain ⟨execution, after, t, o, hrun, hline⟩ := h k r message hr hj hmem
  obtain ⟨⟨e, reply⟩, hs, he⟩ := List.mem_filterMap.mp hline
  have hunlogged := logsNothing_taskExecutor after t o hrun _ hs
  cases e with
  | appendLog line => exact Bool.false_ne_true hunlogged
  | _ => cases he

/-! ## 3. Two sources of lines -/

/-- The registry answers what is asked of it. -/
def AnsweredBy (m : JobManager) (t : History) : Prop :=
  ∀ s ∈ t, match s with
    | ⟨.findJob jobId, found⟩ => found = (m.jobs jobId).map (·.toServerJob)
    | ⟨.jobLogs jobId, logs⟩ => ∀ record, m.jobs jobId = some record → logs = record.logs
    | _ => True

/-- Another process: it does not know the job, and reads the log of the task. -/
def ReadElsewhere (S : Service) (target : TargetRef) (operation upid : String) (log : Value)
    (t : History) : Prop :=
  ∃ node t₁ t₂, t = ⟨.findJob (makeUpidJobId target operation upid), none⟩ :: (t₁ ++ t₂) ∧
    upidNode upid = .ok node ∧ (∃ status, Prog.Run (S.getTaskStatus target.cluster node upid) t₁
      (.ok status)) ∧ Prog.Run (S.getTaskLog target.cluster node upid) t₂ (.ok log)

/-- What the two readers of logs return under these histories: the lines, the last `limit` of them
    for `job_logs`. -/
structure ReportsLines (S : Service) (jobId : String) (limit : Nat) (answered : History → Prop)
    (lines : List String) : Prop where
  tool : ∀ t r, answered t → Prog.Run (S.jobLogs jobId limit) t (.ok r) →
    r.structuredContent.get "logs" = .arr ((lines.drop (lines.length - limit)).map .str)
  resource : ∀ t text, answered t → Prog.Run (S.jobLogResource jobId) t (.ok text) →
    text = String.join lines

/-- The lines of the task's log are what both processes report. -/
structure LogsAgree (S S' : Service) (m : JobManager) (target : TargetRef)
    (operation upid : String) (log : Value) (limit : Nat) : Prop where
  here : ReportsLines S (makeUpidJobId target operation upid) limit (AnsweredBy m)
    (normalizeTaskLogs log)
  elsewhere : ReportsLines S' (makeUpidJobId target operation upid) limit
    (ReadElsewhere S' target operation upid log) (normalizeTaskLogs log)

variable {limit : Nat} {log : Value} {record : JobRecord}

theorem reportsLines_of {jobId : String} {answered : History → Prop} {lines : List String}
    (h : ∀ t logs, answered t → Prog.Run (S.logsOf jobId) t (.ok logs) → logs = lines) :
    ReportsLines S jobId limit answered lines := by
  refine ⟨fun t r ht hrun => ?_, fun t text ht hrun => ?_⟩
  · obtain ⟨t₁, t₂, logs, rfl, h1, h2⟩ := run_bind_ok hrun
    obtain ⟨rfl, hr⟩ := run_pure.mp h2
    cases hr
    rw [List.append_nil] at ht
    rw [← h t₁ logs ht h1]
    rfl
  · rw [Service.jobLogResource] at hrun
    split at hrun
    · cases (run_throw.mp hrun).2
    · obtain ⟨t₁, t₂, logs, rfl, h1, h2⟩ := run_bind_ok hrun
      obtain ⟨rfl, htext⟩ := run_pure.mp h2
      cases htext
      rw [List.append_nil] at ht
      rw [h t₁ logs ht h1]

omit [Text.Unicode] in
/-- The id of a task is never empty. -/
theorem makeUpidJobId_isEmpty (target : TargetRef) (operation upid : String) :
    (makeUpidJobId target operation upid).isEmpty = false := by
  rw [Bool.eq_false_iff]
  intro h
  have hnil := congrArg String.toList (String.isEmpty_iff.mp h)
  rw [makeUpidJobId, String.toList_ofList] at hnil
  cases hnil

/-- **Where the job is known, its record answers.** -/
theorem reportsLines_here {jobId : String} (hfiled : record.jobId = jobId)
    (hjob : m.jobs jobId = some record) :
    ReportsLines S jobId limit (AnsweredBy m) record.logs := by
  refine reportsLines_of fun t logs ht hrun => ?_
  obtain ⟨found, t', rfl, h1⟩ := run_perform_bind.mp hrun
  have hfound : found = (m.jobs jobId).map (·.toServerJob) := ht _ List.mem_cons_self
  rw [hjob] at hfound
  cases hfound
  obtain ⟨reply, rfl, hlogs⟩ := run_perform.mp h1
  cases hlogs
  refine ht ⟨.jobLogs record.jobId, logs⟩ (by simp) record ?_
  rw [hfiled]
  exact hjob

/-- **Where it is not, the log of the task does.** -/
theorem reportsLines_elsewhere :
    ReportsLines S (makeUpidJobId target operation upid) limit
      (ReadElsewhere S target operation upid log) (normalizeTaskLogs log) := by
  -- the id says which task it is
  have hparse : parseUpidJobId (makeUpidJobId target operation upid) =
      some ⟨operation, ⟨target.cluster, NamedTargetRef.toValue ⟨target, none⟩⟩, upid⟩ := by
    rw [← UpidJob.id_unnamed]
    exact UpidJob.parse_id _
  refine reportsLines_of fun t logs ht hrun => ?_
  unfold ReadElsewhere at ht
  generalize makeUpidJobId target operation upid = jobId at ht hparse hrun
  obtain ⟨node, t₁, t₂, rfl, hnode, ⟨status, hstatus⟩, hlog⟩ := ht
  obtain ⟨found, t', e, h1⟩ := run_perform_bind.mp hrun
  cases e
  obtain ⟨t₃, t₄, snapshot, e, h2, h3⟩ := run_bind_ok h1
  obtain ⟨rfl, hlogs⟩ := run_pure.mp h3
  cases hlogs
  rw [Service.readUpidJobSnapshot, hparse] at h2
  simp only [hnode, ofExcept_ok_bind] at h2
  obtain ⟨u₁, u₂, status', rfl, h4, h5⟩ := run_bind_ok h2
  obtain ⟨u₃, u₄, log', rfl, h6, h7⟩ := run_bind_ok h5
  obtain ⟨rfl, hsnapshot⟩ := run_pure.mp h7
  cases hsnapshot
  simp only [List.append_nil] at e
  obtain ⟨rfl, -⟩ := hstatus.unique h4 e
  have hlogs : t₂ ++ [] = u₃ ++ [] := by simpa using List.append_cancel_left e
  obtain ⟨-, hsame⟩ := hlog.unique h6 hlogs
  cases hsame
  rfl

/-! ## 4. When the two sources agree -/

/-- The record of a task's job has no line, at any point of its life. -/
theorem logs_of_task (hm : JobManager.after es = some m)
    (hjob : m.jobs (makeUpidJobId target operation upid) = some record)
    (htask : LogsAsTask S es m target operation upid) :
    record.jobId = makeUpidJobId target operation upid ∧ record.logs = [] :=
  ⟨filed_run hm _ record hjob, logs_run hm _ htask.noLineIn record hjob⟩

/-- A process that knows the job always has an answer: no line. -/
theorem noLine_of_logsAgree {S' : Service} (hm : JobManager.after es = some m)
    (hjob : m.jobs (makeUpidJobId target operation upid) = some record)
    (htask : LogsAsTask S es m target operation upid) (hlimit : 1 ≤ limit)
    (h : LogsAgree S S' m target operation upid log limit) : normalizeTaskLogs log = [] := by
  obtain ⟨hfiled, hnone⟩ := logs_of_task hm hjob htask
  have hrun : Prog.Run (S.jobLogs (makeUpidJobId target operation upid) limit)
      ([⟨.findJob (makeUpidJobId target operation upid), some record.toServerJob⟩,
        ⟨.jobLogs record.jobId, []⟩] ++ []) (.ok _) :=
    Run.seq (run_perform_bind.mpr ⟨some record.toServerJob, _, rfl,
      run_perform.mpr ⟨[], rfl, rfl⟩⟩) (.pure _)
  have hanswered : AnsweredBy m
      ([⟨.findJob (makeUpidJobId target operation upid), some record.toServerJob⟩,
        ⟨.jobLogs record.jobId, []⟩] ++ []) := by
    intro s hs
    rcases List.mem_pair.mp hs with rfl | rfl
    · exact congrArg (Option.map (·.toServerJob)) hjob.symm
    · intro record' hrecord'
      rw [hfiled, hjob] at hrecord'
      cases hrecord'
      exact hnone.symm
  have hrecord : ReportsLines S (makeUpidJobId target operation upid) limit (AnsweredBy m)
      record.logs := reportsLines_here hfiled hjob
  have hhere := hrecord.tool _ _ hanswered hrun
  rw [hnone] at hhere
  have hsame := hhere.symm.trans (h.here.tool _ _ hanswered hrun)
  have hlast := List.map_injective_iff.mpr (fun _ _ => Value.str.inj) (Value.arr.inj hsame)
  have hlength := List.drop_eq_nil_iff.mp (hlast.symm.trans List.drop_nil)
  exact List.eq_nil_of_length_eq_zero (by omega)

end Reports

/-- **Both processes report the log of the task exactly if it has no line**: at any point of the
    job's life, the record of the process that runs it is without one. -/
theorem jobLogs_agree_iff (S S' : Service) (es : List JobEvent) (m : JobManager)
    (target : TargetRef) (operation upid : String) (record : JobRecord) (log : Value) (limit : Nat)
    (hm : JobManager.after es = some m)
    (hjob : m.jobs (makeUpidJobId target operation upid) = some record)
    (htask : LogsAsTask S es m target operation upid) (hlimit : 1 ≤ limit) :
    LogsAgree S S' m target operation upid log limit ↔ normalizeTaskLogs log = [] := by
  constructor
  · exact noLine_of_logsAgree hm hjob htask hlimit
  · intro h
    obtain ⟨hfiled, hnone⟩ := logs_of_task hm hjob htask
    refine ⟨?_, reportsLines_elsewhere⟩
    rw [h, ← hnone]
    exact reportsLines_here hfiled hjob

/-- The job of the example, started. -/
def exampleJobEvents : List JobEvent :=
  [.create (makeUpidJobId exampleTarget "api" exampleUpid) exampleTarget "api" (some exampleUpid),
    .run (makeUpidJobId exampleTarget "api" exampleUpid)]

omit [Text.Unicode] in
theorem exists_exampleJob : ∃ m record, JobManager.after exampleJobEvents = some m ∧
    m.jobs (makeUpidJobId exampleTarget "api" exampleUpid) = some record := by
  unfold exampleJobEvents
  generalize makeUpidJobId exampleTarget "api" exampleUpid = jobId
  have hcreated := jobs_create (m := {}) jobId jobId exampleTarget "api" (some exampleUpid)
  rw [if_pos rfl] at hcreated
  have hrunning := jobs_write (m := JobManager.create {} jobId exampleTarget "api" (some exampleUpid))
    jobId jobId fun r => { r with state := .running }
  rw [if_pos rfl, hcreated, Option.map_some] at hrunning
  exact ⟨_, _, congrArg some (run_eq hcreated), hrunning⟩

theorem logsAsTask_exampleJob (m : JobManager) :
    LogsAsTask S exampleJobEvents m exampleTarget "api" exampleUpid := by
  intro k r message _ _ hmem
  simp [exampleJobEvents] at hmem

omit [Text.Unicode] in
/-- A task without a line is reported alike. -/
theorem jobLogs_agree_iff_empty :
    letI := Text.asciiCase
    ∃ m record, JobManager.after exampleJobEvents = some m ∧
      m.jobs (makeUpidJobId exampleTarget "api" exampleUpid) = some record ∧
      LogsAgree exampleService exampleService m exampleTarget "api" exampleUpid (.arr []) 200 := by
  let := Text.asciiCase
  obtain ⟨m, record, hm, hjob⟩ := exists_exampleJob
  exact ⟨m, record, hm, hjob, (jobLogs_agree_iff exampleService exampleService exampleJobEvents m
    exampleTarget "api" exampleUpid record (.arr []) 200 hm hjob (logsAsTask_exampleJob m)
    (by decide)).mpr rfl⟩

omit [Text.Unicode] in
/-- A line of the task is reported by another process only. -/
theorem jobLogs_disagree :
    letI := Text.asciiCase
    ¬∀ (S S' : Service) (es : List JobEvent) (m : JobManager) (target : TargetRef)
      (operation upid : String) (record : JobRecord) (log : Value) (limit : Nat),
      JobManager.after es = some m →
      m.jobs (makeUpidJobId target operation upid) = some record →
      LogsAsTask S es m target operation upid → 1 ≤ limit →
        LogsAgree S S' m target operation upid log limit := by
  let := Text.asciiCase
  intro h
  obtain ⟨m, record, hm, hjob⟩ := exists_exampleJob
  have hagree := h exampleService exampleService exampleJobEvents m exampleTarget "api"
    exampleUpid record (.arr [.obj [("n", .nat 1), ("t", .str "TASK OK")]]) 200 hm hjob
    (logsAsTask_exampleJob m) (by decide)
  have hnil := noLine_of_logsAgree hm hjob (logsAsTask_exampleJob m) (by decide) hagree
  cases hnil

end ProxmoxMcp
