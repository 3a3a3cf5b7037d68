/-
  File:      ProxmoxMcp/Jobs.lean
  Subject:   JOBS (`jobs.ts`, `mcp-common.ts`, the `job_*` tools): what a tool returns, job ids that
             carry a UPID, the job state machine, and the snapshot another process reads.

  A background job is run here to its end before the tool that started it settles: what the job
  does, it does on behalf of that call. The registry of jobs is the world's, and `storeJob` is
  every write of a record's state.
-/
import ProxmoxMcp.Transports
import ProxmoxMcp.Lib.Base64
import ProxmoxMcp.Lib.Utf8

namespace ProxmoxMcp

open Js Effects
open Base64 (base64url decode_base64url)

variable [Text.Unicode]

/-! ## 1. Results of tools -/

/-- What a tool returns; the text is its title and the JSON of the structured content. -/
structure ToolResult where
  title : String
  structuredContent : Value
  isError : Bool := false

/-- `textResult`. -/
def textResult (title : String) (data : Value) (isError : Bool := false) : ToolResult where
  title := title
  structuredContent := match data with
    | .obj ps => .obj ps
    | v => .obj [("data", v)]
  isError := isError

/-- The word of a state. -/
def JobState.text : JobState → String
  | .pending => "pending"
  | .running => "running"
  | .completed => "completed"
  | .failed => "failed"
  | .cancelled => "cancelled"

/-- An optional string, `undefined` where there is none. -/
def optionText : Option String → Value
  | some s => .str s
  | none => .undefined

def durability (job : ServerJob) : Value :=
  .str (match job.relatedUpid with
    | some upid => if upid.isEmpty then "process_local" else "proxmox_upid"
    | none => "process_local")

/-- `jobHandleResult`. -/
def jobHandleResult (job : ServerJob) (note : String) : ToolResult :=
  textResult note (.obj [("jobId", .str job.jobId), ("state", .str job.state.text),
    ("operation", .str job.operation), ("target", job.target.json),
    ("relatedUpid", optionText job.relatedUpid), ("durability", durability job)])

/-- `completedJobResult`. -/
def completedJobResult (job : ServerJob) (logs : List String) (note : String) : ToolResult :=
  textResult note
    (.obj [("jobId", .str job.jobId), ("state", .str job.state.text),
      ("operation", .str job.operation), ("target", job.target.json),
      ("relatedUpid", optionText job.relatedUpid), ("durability", durability job),
      ("result", job.result), ("error", optionText job.error),
      ("logs", .arr ((logs.drop (logs.length - 200)).map .str))])
    (job.state == .failed || job.state == .cancelled)

/-! ## 2. Job ids -/

def upidJobPrefix : List Char := "proxmox_upid_job_".toList

/-- `UpidJobHandlePayload`. -/
structure UpidJobHandlePayload where
  operation : String
  target : JobTarget
  upid : String

/-- The payload of a job id. -/
def upidPayload (target : TargetRef) (operation upid : String) : Value :=
  .obj [("v", .nat 1), ("operation", .str operation), ("target", target.toValue),
    ("upid", .str upid)]

/-- `makeUpidJobId`. -/
def makeUpidJobId (target : TargetRef) (operation upid : String) : String :=
  String.ofList (upidJobPrefix ++
    base64url (Utf8.encode (stringifyText (upidPayload target operation upid)).toList))

/-- `parseUpidJobId`. -/
def parseUpidJobId (jobId : String) : Option UpidJobHandlePayload :=
  if !upidJobPrefix.isPrefixOf jobId.toList then none
  else
    let encoded := jobId.toList.drop upidJobPrefix.length
    if encoded.isEmpty then none
    else
      match parse (String.ofList (Utf8.decode (Base64.decode encoded))) with
      | none => none
      | some parsed =>
        match parsed.get "v" with
        | .num (.rat q) =>
          if q ≠ 1 then none
          else do
            let operation ← stringOf (parsed.get "operation")
            let cluster ← stringOf ((parsed.get "target").get "cluster")
            let _ ← stringOf ((parsed.get "target").get "kind")
            let upid ← stringOf (parsed.get "upid")
            return ⟨operation, ⟨cluster, parsed.get "target"⟩, upid⟩
        | _ => none

omit [Text.Unicode] in
/-- **A job id parses back**, where its JSON does. -/
theorem parseUpidJobId_makeUpidJobId {target : TargetRef} {operation upid : String}
    (h : parse (stringifyText (upidPayload target operation upid)) =
      some (upidPayload target operation upid)) :
    parseUpidJobId (makeUpidJobId target operation upid) =
      some ⟨operation, target.toJobTarget, upid⟩ := by
  have hprefix : upidJobPrefix.isPrefixOf (upidJobPrefix ++
      base64url (Utf8.encode (stringifyText (upidPayload target operation upid)).toList)) = true :=
    List.isPrefixOf_iff_prefix.mpr (List.prefix_append _ _)
  have hne : (base64url (Utf8.encode
      (stringifyText (upidPayload target operation upid)).toList)).isEmpty = false := by
    rw [Bool.eq_false_iff, ne_eq, List.isEmpty_iff]
    intro hnil
    have hbytes := decode_base64url
      (Utf8.encode (stringifyText (upidPayload target operation upid)).toList)
    rw [hnil] at hbytes
    have htext := Utf8.encode_injective (s := []) hbytes
    rw [String.toList_eq_nil_iff.mp htext.symm] at h
    exact nomatch (show parse "" = none by decide).symm.trans h
  simp only [parseUpidJobId, makeUpidJobId, String.toList_ofList, hprefix, List.drop_left, hne,
    decode_base64url, Utf8.decode_encode, String.ofList_toList, h]
  simp [upidPayload, TargetRef.toValue, TargetRef.toJobTarget, Value.get, lookup, Value.nat, stringOf]

/-! ## 3. The job state machine -/

/-- The record `create` begins with. -/
def newJob (jobId : String) (target : TargetRef) (operation : String)
    (relatedUpid : Option String := none) : ServerJob where
  jobId := jobId
  target := target.toJobTarget
  operation := operation
  state := .pending
  relatedUpid := relatedUpid

/-- The record of a job that stands for a Proxmox task. -/
def newUpidJob (target : TargetRef) (operation upid : String) : ServerJob :=
  newJob (makeUpidJobId target operation upid) target operation (some upid)

/-- `create`, and `createUpidJob` on the record of a task. -/
def createJob (job : ServerJob) : M ServerJob := do
  Prog.perform (Effect.storeJob job)
  return job

/-- `run`: the executor between the states `running` and `completed`, `failed` or `cancelled`. -/
def runJob (job : ServerJob) (executor : M Value) : M ServerJob := do
  Prog.perform (Effect.storeJob { job with state := .running })
  let final ← tryCatch
    (do
      let result ← executor
      return { job with state := .completed, result := result })
    fun m => do
      let aborted : Bool ← Prog.perform Effect.aborted
      return { job with state := if aborted then .cancelled else .failed, error := some m }
  Prog.perform (Effect.storeJob final)
  return final

/-- The execution arguments that tools share, whether the client asked for progress, and for how
    many rounds of polling a run is followed. -/
structure Execution where
  waitMode : WaitMode := .auto
  timeoutMs : Option Nat := none
  pollIntervalMs : Option Nat := none
  progressToken : Bool := false
  rounds : Nat

/-- `settleJob`. -/
def settleJob (waitMode : WaitMode) (final : ServerJob) : M (Option ServerJob) :=
  match waitMode with
  | .deferred => return none
  | .wait => return some final
  | .auto => do
      let inTime : Bool ← Prog.perform Effect.settledInTime
      return if inTime then some final else none

/-- What a job's progress callback does, and `emitProgress`. -/
def jobProgress (execution : Execution) (snapshot : ProgressSnapshot) : M Unit := do
  Prog.perform (Effect.setProgress snapshot)
  if execution.progressToken then
    attempt (.progress snapshot) rfl

/-- The executor of a UPID-backed job. -/
def Service.upidExecutor (S : Service) (execution : Execution) (cluster upid : String) : M Value :=
  S.waitForUpid cluster upid (execution.pollIntervalMs.getD 2000) (jobProgress execution)
    execution.rounds

/-- The report of a job of this process. -/
def reportLocal (job : ServerJob) (note : String) : M ToolResult := do
  let logs : List String ← Prog.perform (Effect.jobLogs job.jobId)
  return completedJobResult job logs note

/-- What the tool that started a job returns: the ended job if it settled, else its handle. -/
def settledResult (execution : Execution) (job final : ServerJob) (finished running : String) :
    M ToolResult := do
  match ← settleJob execution.waitMode final with
  | some settled => reportLocal settled finished
  | none => return jobHandleResult { job with state := .running } running

/-- A job, run and settled as a tool does it. -/
def runAndSettle (execution : Execution) (job : ServerJob) (executor : M Value)
    (finished running : String) : M ToolResult := do
  let final ← runJob job executor
  settledResult execution job final finished running

/-- **The end of every tool whose request may start a task**: the data at once, or a UPID-backed
    job. -/
def Service.taskResult (S : Service) (execution : Execution) (target : TargetRef)
    (operation : String) (response : ApiResult) (title finished running : String) :
    M ToolResult :=
  match response.upid with
  | none => return textResult title response.data
  | some upid => do
      let job ← createJob (newUpidJob target operation upid)
      runAndSettle execution job (S.upidExecutor execution target.cluster upid) finished running

/-! ## 4. The snapshot of another process -/

/-- `normalizeTaskLogs`. -/
def normalizeTaskLogs : Value → List String
  | .arr entries => entries.map fun entry =>
      match entry with
      | .str s => s
      | entry =>
        match entry.get "t" with
        | .str s => s
        | _ => stringifyText entry
  | _ => []

/-- The trimmed exit status, empty where it is no string. -/
def exitStatusOf (status : Value) : List Char :=
  match status.get "exitstatus" with
  | .str s => Text.trim s.toList
  | _ => []

/-- `!exitStatus || exitStatus.toUpperCase() === "OK"`. -/
def exitsOk (exitStatus : List Char) : Bool :=
  exitStatus.isEmpty || Text.toUpperCase (String.ofList exitStatus) == "OK"

/-- `/(abort|cancel|interrupt)/i`. -/
def mentionsCancel (exitStatus : List Char) : Bool :=
  includesFold "abort".toList exitStatus || includesFold "cancel".toList exitStatus ||
    includesFold "interrupt".toList exitStatus

/-- `classifyUpidState`. -/
def classifyUpidState (status : Value) : JobState × Option String :=
  match status.get "status" with
  | .str "stopped" =>
    let exitStatus := exitStatusOf status
    if exitsOk exitStatus then (.completed, none)
    else if mentionsCancel exitStatus then (.cancelled, some (String.ofList exitStatus))
    else (.failed, some (String.ofList exitStatus))
  | _ => (.running, none)

/-- `readUpidJobSnapshot`: the record, and its logs. -/
def Service.readUpidJobSnapshot (S : Service) (jobId : String) : M (ServerJob × List String) := do
  match parseUpidJobId jobId with
  | none => throw s!"Unknown job '{jobId}'"
  | some handle =>
    let node ← Prog.ofExcept (upidNode handle.upid)
    let status ← S.getTaskStatus handle.target.cluster node handle.upid
    let log ← S.getTaskLog handle.target.cluster node handle.upid
    let classified := classifyUpidState status
    return ({ jobId := jobId, target := handle.target, operation := handle.operation,
              state := classified.1, relatedUpid := some handle.upid,
              result := .obj [("status", status), ("log", log)], error := classified.2 },
      normalizeTaskLogs log)

/-- `waitForUpidJobSnapshot`. -/
def Service.waitForUpidJobSnapshot (S : Service) (jobId : String) (timeoutMs : Option Nat)
    (started : Nat) : Nat → M (ServerJob × List String)
  | 0 => .cut
  | fuel + 1 => do
      let snapshot ← S.readUpidJobSnapshot jobId
      if snapshot.1.state ≠ .running then return snapshot
      let now : Nat ← Prog.perform Effect.now
      if timeoutMs.any fun limit => limit ≤ now - started then return snapshot
      attempt (.sleep 1000) rfl
      S.waitForUpidJobSnapshot jobId timeoutMs started fuel

/-! ## 5. The `job_*` tools -/

/-- `jobManager.wait` and `jobManager.cancel`, which throw for a job they do not know. -/
def knownJob (jobId : String) (e : Effect) (h : e.Reply = Option ServerJob) : M ServerJob := do
  match (h ▸ (← Prog.perform e) : Option ServerJob) with
  | some job => return job
  | none => throw s!"Unknown job '{jobId}'"

/-- `job_get`. -/
def Service.jobGet (S : Service) (jobId : String) : M ToolResult := do
  let localJob : Option ServerJob ← Prog.perform (Effect.findJob jobId)
  match localJob with
  | some job => reportLocal job s!"Job {jobId}"
  | none =>
    let snapshot ← S.readUpidJobSnapshot jobId
    return completedJobResult snapshot.1 snapshot.2 s!"Job {jobId}"

/-- `job_wait`. -/
def Service.jobWait (S : Service) (jobId : String) (timeoutMs : Option Nat) (rounds : Nat) :
    M ToolResult := do
  let localJob : Option ServerJob ← Prog.perform (Effect.findJob jobId)
  match localJob with
  | some _ => reportLocal (← knownJob jobId (.waitJob jobId) rfl) s!"Job {jobId}"
  | none =>
    let started : Nat ← Prog.perform Effect.now
    let snapshot ← S.waitForUpidJobSnapshot jobId timeoutMs started rounds
    return completedJobResult snapshot.1 snapshot.2 s!"Job {jobId}"

/-- The task `job_cancel` cancels at Proxmox, if the job has one. -/
def cancelHandle (localJob : Option ServerJob) (jobId : String) : Option (String × String) :=
  match parseUpidJobId jobId with
  | some handle => some (handle.target.cluster, handle.upid)
  | none =>
    match localJob with
    | some job =>
      match job.relatedUpid with
      | some upid => if upid.isEmpty then none else some (job.target.cluster, upid)
      | none => none
    | none => none

/-- `job_cancel`. -/
def Service.jobCancel (S : Service) (jobId : String) : M ToolResult := do
  let localJob : Option ServerJob ← Prog.perform (Effect.findJob jobId)
  match cancelHandle localJob jobId with
  | some (cluster, upid) =>
    -- best effort: a failed request is forgotten
    tryCatch (S.cancelUpid cluster upid) fun _ => pure ()
    let snapshot ← S.readUpidJobSnapshot jobId
    return completedJobResult snapshot.1 snapshot.2 s!"Cancellation requested for {jobId}"
  | none => reportLocal (← knownJob jobId (.cancelJob jobId) rfl) s!"Job {jobId} cancelled"

/-- The logs of a job, local or read from Proxmox. -/
def Service.logsOf (S : Service) (jobId : String) : M (List String) := do
  let localJob : Option ServerJob ← Prog.perform (Effect.findJob jobId)
  match localJob with
  | some job => Prog.perform (Effect.jobLogs job.jobId)
  | none => return (← S.readUpidJobSnapshot jobId).2

/-- `job_logs`. -/
def Service.jobLogs (S : Service) (jobId : String) (limit : Nat) : M ToolResult := do
  let logs ← S.logsOf jobId
  return textResult s!"Logs for {jobId}" (.obj [("jobId", .str jobId),
    ("logs", .arr ((logs.drop (logs.length - limit)).map .str))])

/-- The resource `proxmox://jobs/{jobId}/logs`. -/
def Service.jobLogResource (S : Service) (jobId : String) : M String := do
  if jobId.isEmpty then throw "Missing jobId parameter"
  return String.join (← S.logsOf jobId)

end ProxmoxMcp
