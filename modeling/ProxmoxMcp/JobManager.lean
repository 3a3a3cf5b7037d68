/-
  File:      ProxmoxMcp/JobManager.lean
  Subject:   THE REGISTRY OF JOBS (`JobManager`): records, abort controllers and the promises of
             `run`, under executors and clients in any order.

  What runs between two awaits of the source is one step. An executor settles in the step in which
  `run` goes on after awaiting it: what was called before that was called while the job was
  running. A call of `run` is named by its place in the order of the calls; its abort controller
  and its promise go by the same name.
-/
import ProxmoxMcp.Jobs
import ProxmoxMcp.Lib.Runs

namespace ProxmoxMcp

open Js Runs

/-! ## 1. Records -/

/-- `resultRef`. -/
inductive ResultRef where
  | proxmox_upid (value : String)
  | memory (value : String)
  deriving DecidableEq, Repr

/-- A `ServerJob` with what its executor writes to it. -/
structure JobRecord extends ServerJob where
  logs : List String := []
  logsAvailable : Bool := false
  progress : Option ProgressSnapshot := none
  resultRef : Option ResultRef := none
  artifacts : Option (List Value) := none

/-- `options.relatedUpid` where it is set and not empty. -/
def givenUpid (relatedUpid : Option String) : Option String :=
  relatedUpid.filter fun upid => !upid.isEmpty

/-- The record that `create` begins with. -/
def JobRecord.created (jobId : String) (target : TargetRef) (operation : String)
    (relatedUpid : Option String) : JobRecord :=
  { newJob jobId target operation (givenUpid relatedUpid) with
    resultRef := (givenUpid relatedUpid).map .proxmox_upid }

/-- What an executor rejects with: the text of `error instanceof Error ? error.message :
    String(error)`, where it has one, and the result of a `JobExecutionError`. -/
structure Rejection where
  message : Option String
  result : Option Value := none

/-- `resultRef` names the registry where it names nothing else. -/
def JobRecord.refersToResult (r : JobRecord) : JobRecord :=
  { r with resultRef := r.resultRef.or (some (.memory r.jobId)) }

/-- The record of a job whose executor has resolved. -/
def JobRecord.complete (r : JobRecord) (result : Value) : JobRecord :=
  { r with state := .completed, result := result }.refersToResult

/-- The state of a job whose executor has rejected. -/
def rejectedState (aborted : Bool) : JobState := if aborted then .cancelled else .failed

/-- The record of a job whose executor has rejected. Where the reason has no text, `String(error)`
    throws once the state is written. -/
def JobRecord.reject (r : JobRecord) (aborted : Bool) (reason : Rejection) : JobRecord :=
  let r := { r with state := rejectedState aborted }
  match reason.message, reason.result with
  | none, _ => r
  | some message, none => { r with error := some message }
  | some message, some result =>
    { r with error := some message, result := result }.refersToResult

/-! ## 2. The registry -/

/-- How far the promise of a `run` is. -/
inductive Completion where
  | pending
  | fulfilled
  | rejected
  deriving DecidableEq, Repr

/-- A call of `run`: its job, `controller.signal.aborted` and its promise. -/
structure JobRun where
  jobId : String
  aborted : Bool := false
  completion : Completion := .pending
  deriving DecidableEq, Repr

/-- `JobManager`, and the calls of `run` so far. -/
structure JobManager where
  jobs : String → Option JobRecord := fun _ => none
  abortControllers : String → Option Nat := fun _ => none
  completions : String → Option Nat := fun _ => none
  runs : List JobRun := []

/-- A write to a record; for an unknown job `get` throws and nothing is written. -/
def JobManager.write (m : JobManager) (jobId : String) (f : JobRecord → JobRecord) : JobManager :=
  { m with jobs := Function.update m.jobs jobId ((m.jobs jobId).map f) }

/-- `create`. -/
def JobManager.create (m : JobManager) (jobId : String) (target : TargetRef) (operation : String)
    (relatedUpid : Option String) : JobManager :=
  { m with
    jobs := Function.update m.jobs jobId
      (some (JobRecord.created jobId target operation relatedUpid)) }

/-- `run`, up to its first await. -/
def JobManager.run (m : JobManager) (jobId : String) : JobManager :=
  if (m.jobs jobId).isNone then m
  else
    { m.write jobId fun r => { r with state := .running } with
      abortControllers := Function.update m.abortControllers jobId (some m.runs.length)
      completions := Function.update m.completions jobId (some m.runs.length)
      runs := m.runs ++ [{ jobId := jobId }] }

/-- What `run` does after its await, with its `finally`. -/
def JobManager.settle (m : JobManager) (run : Nat) (jobRun : JobRun) (f : JobRecord → JobRecord)
    (completion : Completion) : JobManager :=
  { m.write jobRun.jobId f with
    abortControllers := Function.update m.abortControllers jobRun.jobId none
    runs := m.runs.set run { jobRun with
      completion := if (m.jobs jobRun.jobId).isNone then .rejected else completion } }

/-- `cancel`, up to its `wait`. -/
def JobManager.cancel (m : JobManager) (jobId : String) : JobManager :=
  match m.abortControllers jobId with
  | none => m
  | some run => { m with runs := m.runs.modify run fun r => { r with aborted := true } }

/-! ## 3. Steps -/

/-- What can happen: a call of the registry, a call of an executor's context, and an executor that
    settles. -/
inductive JobEvent where
  | create (jobId : String) (target : TargetRef) (operation : String) (relatedUpid : Option String)
  | run (jobId : String)
  | appendLog (run : Nat) (message : String)
  | setProgress (run : Nat) (snapshot : ProgressSnapshot)
  | setRelatedUpid (run : Nat) (upid : String)
  | setArtifacts (run : Nat) (artifacts : List Value)
  | resolves (run : Nat) (result : Value)
  | rejects (run : Nat) (reason : Rejection)
  | cancel (jobId : String)

def JobRecord.appendLog (r : JobRecord) (message : String) : JobRecord :=
  { r with logs := r.logs ++ [message], logsAvailable := true }

def JobRecord.setRelatedUpid (r : JobRecord) (upid : String) : JobRecord :=
  { r with relatedUpid := some upid, resultRef := some (.proxmox_upid upid) }

/-- A callback of the context that a `run` gave its executor. -/
def JobManager.callback (m : JobManager) (run : Nat) (f : JobRecord → JobRecord) :
    Option JobManager :=
  m.runs[run]?.map fun jobRun => m.write jobRun.jobId f

/-- An executor settles once. -/
def JobManager.settles (m : JobManager) (run : Nat) (f : JobRun → JobRecord → JobRecord)
    (completion : Completion) : Option JobManager :=
  match m.runs[run]? with
  | some ⟨jobId, aborted, .pending⟩ =>
    some (m.settle run ⟨jobId, aborted, .pending⟩ (f ⟨jobId, aborted, .pending⟩) completion)
  | _ => none

/-- One step of the registry. -/
def JobManager.step (m : JobManager) : JobEvent → Option JobManager
  | .create jobId target operation relatedUpid => some (m.create jobId target operation relatedUpid)
  | .run jobId => some (m.run jobId)
  | .appendLog run message => m.callback run (·.appendLog message)
  | .setProgress run snapshot => m.callback run fun r => { r with progress := some snapshot }
  | .setRelatedUpid run upid => m.callback run (·.setRelatedUpid upid)
  | .setArtifacts run artifacts => m.callback run fun r => { r with artifacts := some artifacts }
  | .resolves run result => m.settles run (fun _ r => r.complete result) .fulfilled
  | .rejects run reason =>
    m.settles run (fun jobRun r => r.reject jobRun.aborted reason)
      (if reason.message.isSome then .fulfilled else .rejected)
  | .cancel jobId => some (m.cancel jobId)

/-- The job that an event is about. -/
def JobManager.jobOf (m : JobManager) : JobEvent → Option String
  | .create jobId _ _ _ | .run jobId | .cancel jobId => some jobId
  | .appendLog run _ | .setProgress run _ | .setRelatedUpid run _ | .setArtifacts run _
  | .resolves run _ | .rejects run _ => m.runs[run]?.map (·.jobId)

/-- Ids are fresh, and a job is run once. -/
def JobManager.Lawful (m : JobManager) : JobEvent → Prop
  | .create jobId _ _ _ => m.jobs jobId = none
  | .run jobId => ∀ r ∈ m.runs, r.jobId ≠ jobId
  | _ => True

/-! ## 4. What a step can do -/

/-- A write that leaves the id, the state, the result and the error as they are. -/
structure Keeps (f : JobRecord → JobRecord) : Prop where
  jobId : ∀ r, (f r).jobId = r.jobId
  state : ∀ r, (f r).state = r.state
  result : ∀ r, (f r).result = r.result
  error : ∀ r, (f r).error = r.error

/-- A step, by the kind of its event. -/
inductive JobManager.Steps (m : JobManager) : JobEvent → JobManager → Prop
  | create (jobId : String) (target : TargetRef) (operation : String) (relatedUpid : Option String) :
      Steps m (.create jobId target operation relatedUpid)
        (m.create jobId target operation relatedUpid)
  | run (jobId : String) : Steps m (.run jobId) (m.run jobId)
  | callback (e : JobEvent) (run : Nat) (r : JobRun) (f : JobRecord → JobRecord)
      (hrun : m.runs[run]? = some r) (hf : Keeps f) (hjob : m.jobOf e = some r.jobId)
      (hlogs : (∃ message, e = .appendLog run message) ∨ ∀ r, (f r).logs = r.logs)
      (hresolves : ∀ k result, e ≠ .resolves k result) (hrejects : ∀ k reason, e ≠ .rejects k reason)
      (hcancel : ∀ jobId, e ≠ .cancel jobId) : Steps m e (m.write r.jobId f)
  | resolves (run : Nat) (result : Value) (jobId : String) (aborted : Bool)
      (hrun : m.runs[run]? = some ⟨jobId, aborted, .pending⟩) :
      Steps m (.resolves run result)
        (m.settle run ⟨jobId, aborted, .pending⟩ (·.complete result) .fulfilled)
  | rejects (run : Nat) (reason : Rejection) (jobId : String) (aborted : Bool)
      (hrun : m.runs[run]? = some ⟨jobId, aborted, .pending⟩) :
      Steps m (.rejects run reason)
        (m.settle run ⟨jobId, aborted, .pending⟩ (·.reject aborted reason)
          (if reason.message.isSome then .fulfilled else .rejected))
  | cancel (jobId : String) : Steps m (.cancel jobId) (m.cancel jobId)

variable {m m' : JobManager} {e : JobEvent}

theorem callback_eq {run : Nat} {f : JobRecord → JobRecord} (h : m.callback run f = some m') :
    ∃ r, m.runs[run]? = some r ∧ m' = m.write r.jobId f := by
  obtain ⟨r, hr, rfl⟩ := Option.map_eq_some_iff.mp h
  exact ⟨r, hr, rfl⟩

theorem settles_eq {run : Nat} {f : JobRun → JobRecord → JobRecord} {c : Completion}
    (h : m.settles run f c = some m') :
    ∃ jobId aborted, m.runs[run]? = some ⟨jobId, aborted, .pending⟩ ∧
      m' = m.settle run ⟨jobId, aborted, .pending⟩ (f ⟨jobId, aborted, .pending⟩) c := by
  unfold JobManager.settles at h
  split at h
  · rename_i jobId aborted hr
    exact ⟨jobId, aborted, hr, by cases h; rfl⟩
  · cases h

theorem steps_of_step (h : m.step e = some m') : m.Steps e m' := by
  cases e with
  | create jobId target operation relatedUpid =>
    cases h
    exact .create jobId target operation relatedUpid
  | run jobId =>
    cases h
    exact .run jobId
  | appendLog run message =>
    obtain ⟨r, hr, rfl⟩ := callback_eq h
    exact .callback _ run r _ hr ⟨fun _ => rfl, fun _ => rfl, fun _ => rfl, fun _ => rfl⟩
      (by simp [JobManager.jobOf, hr]) (.inl ⟨message, rfl⟩) nofun nofun nofun
  | setProgress run snapshot =>
    obtain ⟨r, hr, rfl⟩ := callback_eq h
    exact .callback _ run r _ hr ⟨fun _ => rfl, fun _ => rfl, fun _ => rfl, fun _ => rfl⟩
      (by simp [JobManager.jobOf, hr]) (.inr fun _ => rfl) nofun nofun nofun
  | setRelatedUpid run upid =>
    obtain ⟨r, hr, rfl⟩ := callback_eq h
    exact .callback _ run r _ hr ⟨fun _ => rfl, fun _ => rfl, fun _ => rfl, fun _ => rfl⟩
      (by simp [JobManager.jobOf, hr]) (.inr fun _ => rfl) nofun nofun nofun
  | setArtifacts run artifacts =>
    obtain ⟨r, hr, rfl⟩ := callback_eq h
    exact .callback _ run r _ hr ⟨fun _ => rfl, fun _ => rfl, fun _ => rfl, fun _ => rfl⟩
      (by simp [JobManager.jobOf, hr]) (.inr fun _ => rfl) nofun nofun nofun
  | resolves run result =>
    simp only [JobManager.step] at h
    obtain ⟨jobId, aborted, hr, rfl⟩ := settles_eq h
    exact .resolves run result jobId aborted hr
  | rejects run reason =>
    simp only [JobManager.step] at h
    obtain ⟨jobId, aborted, hr, rfl⟩ := settles_eq h
    exact .rejects run reason jobId aborted hr
  | cancel jobId =>
    cases h
    exact .cancel jobId

theorem jobs_write (jobId j : String) (f : JobRecord → JobRecord) :
    (m.write jobId f).jobs j = if j = jobId then (m.jobs j).map f else m.jobs j := by
  by_cases h : j = jobId
  · rw [h]
    simp [JobManager.write]
  · simp [JobManager.write, h]

@[simp] theorem runs_write (jobId : String) (f : JobRecord → JobRecord) :
    (m.write jobId f).runs = m.runs := rfl

@[simp] theorem abortControllers_write (jobId : String) (f : JobRecord → JobRecord) :
    (m.write jobId f).abortControllers = m.abortControllers := rfl

/-- Whatever is written, the record is there. -/
theorem jobs_write_isSome {jobId j : String} {f : JobRecord → JobRecord} {r : JobRecord}
    (h : m.jobs j = some r) :
    (m.write jobId f).jobs j = some (if j = jobId then f r else r) := by
  rw [jobs_write, h]
  split <;> rfl

/-! ## 5. The invariant -/

/-- `completed`, `failed` and `cancelled`. -/
def JobState.IsFinal : JobState → Prop
  | .completed | .failed | .cancelled => True
  | .pending | .running => False

/-- The record of a job that is run: it runs as long as the promise of its `run` is pending. -/
structure JobRun.Matches (run : JobRun) (r : JobRecord) : Prop where
  running : run.completion = .pending → r.state = .running
  ended : run.completion ≠ .pending → r.state.IsFinal

/-- A job is run once, its record follows that run, and the controllers registered are those of
    the runs that are pending. -/
structure JobManager.Inv (m : JobManager) : Prop where
  distinct : ∀ {k k' : Nat} {r r' : JobRun}, m.runs[k]? = some r → m.runs[k']? = some r' →
    r.jobId = r'.jobId → k = k'
  ran : ∀ {k : Nat} {r : JobRun}, m.runs[k]? = some r →
    ∃ record, m.jobs r.jobId = some record ∧ r.Matches record
  unrun : ∀ {j : String} {record : JobRecord}, m.jobs j = some record →
    record.state = .pending ∨ ∃ (k : Nat) (r : JobRun), m.runs[k]? = some r ∧ r.jobId = j
  controllers : ∀ {j : String} {k : Nat}, m.abortControllers j = some k ↔
    ∃ r, m.runs[k]? = some r ∧ r.jobId = j ∧ r.completion = .pending

/-- The job has a record that says `running`. -/
def JobManager.IsRunning (m : JobManager) (jobId : String) : Prop :=
  ∃ record, m.jobs jobId = some record ∧ record.state = .running

theorem JobState.IsFinal.ne_running {s : JobState} (h : s.IsFinal) : s ≠ .running := by
  intro e
  rw [e] at h
  exact h

/-- A running job is that of a pending run. -/
theorem JobManager.Inv.run_of_running (hinv : m.Inv) {j : String} (h : m.IsRunning j) :
    ∃ (k : Nat) (r : JobRun), m.runs[k]? = some r ∧ r.jobId = j ∧ r.completion = .pending := by
  obtain ⟨record, hrecord, hstate⟩ := h
  rcases hinv.unrun hrecord with hpending | ⟨k, r, hr, hj⟩
  · rw [hpending] at hstate
    cases hstate
  · refine ⟨k, r, hr, hj, ?_⟩
    obtain ⟨record', hrecord', hmatches⟩ := hinv.ran hr
    rw [hj, hrecord] at hrecord'
    cases hrecord'
    by_contra hc
    exact (hmatches.ended hc).ne_running hstate

/-- **An abort controller is registered iff the job is running.** -/
theorem JobManager.Inv.controller_iff_running (hinv : m.Inv) (j : String) :
    (m.abortControllers j).isSome ↔ m.IsRunning j := by
  constructor
  · intro h
    obtain ⟨k, hk⟩ := Option.isSome_iff_exists.mp h
    obtain ⟨r, hr, hj, hc⟩ := hinv.controllers.mp hk
    obtain ⟨record, hrecord, hmatches⟩ := hinv.ran hr
    exact ⟨record, hj ▸ hrecord, hmatches.running hc⟩
  · intro h
    obtain ⟨k, r, hr, hj, hc⟩ := hinv.run_of_running h
    exact Option.isSome_iff_exists.mpr ⟨k, hinv.controllers.mpr ⟨r, hr, hj, hc⟩⟩

theorem jobs_create (jobId j : String) (target : TargetRef) (operation : String)
    (relatedUpid : Option String) :
    (m.create jobId target operation relatedUpid).jobs j =
      if j = jobId then some (JobRecord.created jobId target operation relatedUpid)
      else m.jobs j := by
  by_cases h : j = jobId
  · rw [h]
    simp [JobManager.create]
  · simp [JobManager.create, h]

/-- A fresh record is no job that is run. -/
theorem JobManager.Inv.create (hinv : m.Inv) {jobId : String} (hfresh : m.jobs jobId = none)
    (target : TargetRef) (operation : String) (relatedUpid : Option String) :
    (m.create jobId target operation relatedUpid).Inv where
  distinct := hinv.distinct
  ran hr := by
    obtain ⟨record, hrecord, hmatches⟩ := hinv.ran hr
    refine ⟨record, ?_, hmatches⟩
    rw [jobs_create, if_neg, hrecord]
    intro e
    rw [e, hfresh] at hrecord
    cases hrecord
  unrun hrecord := by
    rw [jobs_create] at hrecord
    split at hrecord
    · cases hrecord
      exact .inl rfl
    · exact hinv.unrun hrecord
  controllers := hinv.controllers

/-- A write that keeps the state of a record keeps the invariant. -/
theorem JobManager.Inv.write (hinv : m.Inv) (jobId : String) {f : JobRecord → JobRecord}
    (hf : ∀ r, (f r).state = r.state) : (m.write jobId f).Inv where
  distinct := hinv.distinct
  ran hr := by
    obtain ⟨record, hrecord, hmatches⟩ := hinv.ran hr
    refine ⟨_, jobs_write_isSome hrecord, ?_⟩
    split
    · exact ⟨fun hc => (hf record).trans (hmatches.running hc),
        fun hc => (hf record).symm ▸ hmatches.ended hc⟩
    · exact hmatches
  unrun {j record'} hrecord' := by
    rw [jobs_write] at hrecord'
    split at hrecord'
    · obtain ⟨record, hrecord, rfl⟩ := Option.map_eq_some_iff.mp hrecord'
      rw [hf]
      exact hinv.unrun hrecord
    · exact hinv.unrun hrecord'
  controllers := hinv.controllers

/-- The run of a job that exists. -/
theorem run_eq {jobId : String} {record : JobRecord} (h : m.jobs jobId = some record) :
    m.run jobId =
      { m.write jobId (fun r => { r with state := .running }) with
        abortControllers := Function.update m.abortControllers jobId (some m.runs.length)
        completions := Function.update m.completions jobId (some m.runs.length)
        runs := m.runs ++ [{ jobId := jobId }] } := by
  rw [JobManager.run, h]
  rfl

/-- A run is an older one or the new one. -/
theorem getElem?_concat {runs : List JobRun} {r r' : JobRun} {k : Nat} :
    (runs ++ [r'])[k]? = some r ↔ runs[k]? = some r ∨ (k = runs.length ∧ r = r') := by
  rw [List.getElem?_append]
  split
  · rename_i hlt
    exact ⟨.inl, fun h => h.resolve_right fun he => absurd he.1 (Nat.ne_of_lt hlt)⟩
  · rename_i hge
    rw [List.getElem?_eq_none (Nat.not_lt.mp hge), List.getElem?_singleton]
    constructor
    · intro h
      split at h
      · cases h
        exact .inr ⟨by omega, rfl⟩
      · cases h
    · intro h
      rcases h with h | ⟨h, rfl⟩
      · cases h
      · rw [if_pos (by omega)]

/-- A job that was not run begins to run. -/
theorem JobManager.Inv.run (hinv : m.Inv) {jobId : String}
    (honce : ∀ r ∈ m.runs, r.jobId ≠ jobId) : (m.run jobId).Inv := by
  cases hjob : m.jobs jobId with
  | none =>
    rw [JobManager.run, hjob]
    exact hinv
  | some record₀ =>
    have hother : ∀ {k : Nat} {r : JobRun}, m.runs[k]? = some r → r.jobId ≠ jobId :=
      fun hr => honce _ (List.mem_of_getElem? hr)
    rw [run_eq hjob]
    refine ⟨?_, ?_, ?_, ?_⟩
    · intro k k' r r' hr hr' hsame
      rcases getElem?_concat.mp hr with hr | ⟨rfl, rfl⟩
      · rcases getElem?_concat.mp hr' with hr' | ⟨rfl, rfl⟩
        · exact hinv.distinct hr hr' hsame
        · exact absurd hsame (hother hr)
      · rcases getElem?_concat.mp hr' with hr' | ⟨rfl, rfl⟩
        · exact absurd hsame.symm (hother hr')
        · rfl
    · intro k r hr
      rcases getElem?_concat.mp hr with hr | ⟨rfl, rfl⟩
      · obtain ⟨record, hrecord, hmatches⟩ := hinv.ran hr
        refine ⟨record, ?_, hmatches⟩
        show (m.write jobId _).jobs r.jobId = _
        rw [jobs_write, if_neg (hother hr), hrecord]
      · refine ⟨_, jobs_write_isSome hjob, ?_⟩
        rw [if_pos rfl]
        exact ⟨fun _ => rfl, fun hc => absurd rfl hc⟩
    · intro j record hrecord
      change (m.write jobId _).jobs j = _ at hrecord
      rw [jobs_write] at hrecord
      split at hrecord
      · rename_i hj
        exact .inr ⟨m.runs.length, _, getElem?_concat.mpr (.inr ⟨rfl, rfl⟩), hj.symm⟩
      · rcases hinv.unrun hrecord with hpending | ⟨k, r, hr, hj⟩
        · exact .inl hpending
        · exact .inr ⟨k, r, getElem?_concat.mpr (.inl hr), hj⟩
    · intro j k
      show Function.update m.abortControllers jobId _ j = some k ↔ _
      by_cases hj : j = jobId
      · rw [hj, Function.update_self]
        constructor
        · intro h
          cases h
          exact ⟨_, getElem?_concat.mpr (.inr ⟨rfl, rfl⟩), rfl, rfl⟩
        · intro hparts
          obtain ⟨r, hr, hjob', _⟩ := hparts
          rcases getElem?_concat.mp hr with hr | ⟨rfl, rfl⟩
          · exact absurd hjob' (hother hr)
          · rfl
      · rw [Function.update_of_ne hj, hinv.controllers]
        refine exists_congr fun r => and_congr_left fun ⟨hjob', _⟩ => ?_
        rw [getElem?_concat]
        refine ⟨.inl, fun h => h.resolve_right ?_⟩
        intro hparts
        obtain ⟨_, e⟩ := hparts
        rw [e] at hjob'
        exact hj hjob'.symm

/-- A run after one of them was written anew. -/
theorem getElem?_set_run {runs : List JobRun} {run k : Nat} {old new r : JobRun}
    (hold : runs[run]? = some old) :
    (runs.set run new)[k]? = some r ↔ (k = run ∧ r = new) ∨ (k ≠ run ∧ runs[k]? = some r) := by
  rw [List.getElem?_set]
  have hlt := (List.getElem?_eq_some_iff.mp hold).1
  by_cases h : run = k
  · rw [if_pos h, if_pos (h ▸ hlt)]
    constructor
    · intro e
      cases e
      exact .inl ⟨h.symm, rfl⟩
    · intro e
      rcases e with ⟨_, rfl⟩ | ⟨hne, _⟩
      · rfl
      · exact absurd h.symm hne
  · rw [if_neg h]
    exact ⟨fun e => .inr ⟨Ne.symm h, e⟩,
      fun e => e.elim (fun e => absurd e.1.symm h) And.right⟩

/-- The end of a run whose record is there. -/
theorem JobManager.Inv.settle_eq (hinv : m.Inv) {run : Nat} {jobRun : JobRun}
    (hrun : m.runs[run]? = some jobRun) (f : JobRecord → JobRecord) (c : Completion) :
    m.settle run jobRun f c =
      { m.write jobRun.jobId f with
        abortControllers := Function.update m.abortControllers jobRun.jobId none
        runs := m.runs.set run { jobRun with completion := c } } := by
  obtain ⟨record, hrecord, _⟩ := hinv.ran hrun
  rw [JobManager.settle, hrecord]
  rfl

/-- A run that settles leaves the books of the runs in order. -/
theorem JobManager.Inv.settle (hinv : m.Inv) {run : Nat} {jobRun : JobRun}
    (hrun : m.runs[run]? = some jobRun) {f : JobRecord → JobRecord}
    (hf : ∀ r, (f r).state.IsFinal) {c : Completion} (hc : c ≠ .pending) :
    (m.settle run jobRun f c).Inv := by
  rw [hinv.settle_eq hrun]
  have hother : ∀ {k : Nat} {r : JobRun}, k ≠ run → m.runs[k]? = some r → r.jobId ≠ jobRun.jobId :=
    fun hk hr e => hk (hinv.distinct hr hrun e)
  refine ⟨?_, ?_, ?_, ?_⟩
  · intro k k' r r' hr hr' hsame
    rcases (getElem?_set_run hrun).mp hr with ⟨hk, rfl⟩ | ⟨hk, hr₀⟩
    · rcases (getElem?_set_run hrun).mp hr' with ⟨hk', rfl⟩ | ⟨hk', hr₀'⟩
      · exact hk.trans hk'.symm
      · exact absurd hsame.symm (hother hk' hr₀')
    · rcases (getElem?_set_run hrun).mp hr' with ⟨hk', rfl⟩ | ⟨hk', hr₀'⟩
      · exact absurd hsame (hother hk hr₀)
      · exact hinv.distinct hr₀ hr₀' hsame
  · intro k r hr
    rcases (getElem?_set_run hrun).mp hr with ⟨rfl, rfl⟩ | ⟨hk, hr⟩
    · obtain ⟨record, hrecord, _⟩ := hinv.ran hrun
      refine ⟨_, jobs_write_isSome hrecord, ?_⟩
      rw [if_pos rfl]
      exact ⟨fun e => absurd e hc, fun _ => hf record⟩
    · obtain ⟨record, hrecord, hmatches⟩ := hinv.ran hr
      refine ⟨_, jobs_write_isSome hrecord, ?_⟩
      rw [if_neg (hother hk hr)]
      exact hmatches
  · intro j record hrecord
    change (m.write jobRun.jobId f).jobs j = _ at hrecord
    rw [jobs_write] at hrecord
    split at hrecord
    · rename_i hj
      exact .inr ⟨run, _, (getElem?_set_run hrun).mpr (.inl ⟨rfl, rfl⟩), hj.symm⟩
    · rename_i hj
      rcases hinv.unrun hrecord with hpending | ⟨k, r, hr, hjob⟩
      · exact .inl hpending
      · refine .inr ⟨k, r, (getElem?_set_run hrun).mpr (.inr ⟨?_, hr⟩), hjob⟩
        intro e
        rw [e, hrun] at hr
        cases hr
        exact hj hjob.symm
  · intro j k
    show Function.update m.abortControllers jobRun.jobId none j = some k ↔ _
    by_cases hj : j = jobRun.jobId
    · rw [hj, Function.update_self]
      refine ⟨nofun, fun ⟨r, hr, hjob, hpending⟩ => ?_⟩
      rcases (getElem?_set_run hrun).mp hr with ⟨rfl, rfl⟩ | ⟨hk, hr⟩
      · exact absurd hpending hc
      · exact absurd hjob (hother hk hr)
    · rw [Function.update_of_ne hj, hinv.controllers]
      refine exists_congr fun r => and_congr_left fun ⟨hjob, _⟩ => ?_
      rw [getElem?_set_run hrun]
      constructor
      · intro hr
        refine .inr ⟨fun e => ?_, hr⟩
        rw [e, hrun] at hr
        cases hr
        exact hj hjob.symm
      · intro h
        rcases h with ⟨_, rfl⟩ | ⟨_, hr⟩
        · exact absurd hjob.symm hj
        · exact hr

/-- The calls of `run` after a cancel: the one whose controller was registered is aborted. -/
theorem runs_cancel (jobId : String) (k : Nat) :
    (m.cancel jobId).runs[k]? = m.runs[k]?.map fun r =>
      if m.abortControllers jobId = some k then { r with aborted := true } else r := by
  unfold JobManager.cancel
  split
  · rename_i hnone
    simp [hnone]
  · rename_i run hsome
    show (m.runs.modify run _)[k]? = _
    rw [List.getElem?_modify, hsome]
    congr 1
    funext r
    by_cases h : run = k
    · rw [if_pos h, if_pos (congrArg some h)]
    · rw [if_neg h, if_neg fun e => h (Option.some.inj e)]

@[simp] theorem jobs_cancel (jobId : String) : (m.cancel jobId).jobs = m.jobs := by
  unfold JobManager.cancel
  split <;> rfl

@[simp] theorem abortControllers_cancel (jobId : String) :
    (m.cancel jobId).abortControllers = m.abortControllers := by
  unfold JobManager.cancel
  split <;> rfl

/-- A run after a cancel was there before, but for its signal. -/
theorem run_of_cancel {jobId : String} {k : Nat} {r : JobRun}
    (h : (m.cancel jobId).runs[k]? = some r) :
    ∃ r₀, m.runs[k]? = some r₀ ∧ r₀.jobId = r.jobId ∧ r₀.completion = r.completion ∧
      r.aborted = (r₀.aborted || decide (m.abortControllers jobId = some k)) := by
  rw [runs_cancel] at h
  obtain ⟨r₀, hr₀, rfl⟩ := Option.map_eq_some_iff.mp h
  refine ⟨r₀, hr₀, ?_, ?_, ?_⟩
  all_goals split <;> simp_all

/-- Whatever is cancelled, a run stays the run of its job. -/
theorem cancel_of_run {jobId : String} {k : Nat} {r : JobRun} (h : m.runs[k]? = some r) :
    ∃ r', (m.cancel jobId).runs[k]? = some r' ∧ r'.jobId = r.jobId ∧
      r'.completion = r.completion := by
  rw [runs_cancel, h]
  refine ⟨_, rfl, ?_, ?_⟩
  all_goals split <;> rfl

theorem JobManager.Inv.cancel (hinv : m.Inv) (jobId : String) : (m.cancel jobId).Inv where
  distinct hr hr' hsame := by
    obtain ⟨r₀, hr₀, hjob, _⟩ := run_of_cancel hr
    obtain ⟨r₀', hr₀', hjob', _⟩ := run_of_cancel hr'
    exact hinv.distinct hr₀ hr₀' (hjob.trans (hsame.trans hjob'.symm))
  ran hr := by
    obtain ⟨r₀, hr₀, hjob, hcompletion, _⟩ := run_of_cancel hr
    obtain ⟨record, hrecord, hmatches⟩ := hinv.ran hr₀
    refine ⟨record, by rw [jobs_cancel, ← hjob, hrecord], ?_⟩
    exact ⟨fun h => hmatches.running (hcompletion.trans h),
      fun h => hmatches.ended (hcompletion ▸ h)⟩
  unrun hrecord := by
    rw [jobs_cancel] at hrecord
    refine (hinv.unrun hrecord).imp_right fun ⟨k, r, hr, hj⟩ => ?_
    obtain ⟨r', hr', hjob, _⟩ := cancel_of_run hr
    exact ⟨k, r', hr', hjob.trans hj⟩
  controllers {j k} := by
    rw [abortControllers_cancel, hinv.controllers]
    constructor
    · intro hparts
      obtain ⟨r, hr, hj, hpending⟩ := hparts
      obtain ⟨r', hr', hjob, hcompletion⟩ := cancel_of_run hr
      exact ⟨r', hr', hjob.trans hj, hcompletion.trans hpending⟩
    · intro hparts
      obtain ⟨r, hr, hj, hpending⟩ := hparts
      obtain ⟨r₀, hr₀, hjob, hcompletion, _⟩ := run_of_cancel hr
      exact ⟨r₀, hr₀, hjob.trans hj, hcompletion.trans hpending⟩

theorem rejectedState_final (aborted : Bool) : (rejectedState aborted).IsFinal := by
  cases aborted <;> trivial

theorem complete_state (r : JobRecord) (result : Value) :
    (r.complete result).state = .completed := rfl

/-- An executor that rejects leaves the state that its signal says. -/
theorem reject_state (r : JobRecord) (aborted : Bool) (reason : Rejection) :
    (r.reject aborted reason).state = rejectedState aborted := by
  unfold JobRecord.reject
  dsimp only
  split <;> rfl

theorem JobManager.inv_built : JobManager.Inv {} where
  distinct hr := by simp at hr
  ran hr := by simp at hr
  unrun hrecord := nomatch hrecord
  controllers := ⟨nofun, fun ⟨r, hr, _⟩ => by simp at hr⟩

/-- **A lawful step keeps the invariant.** -/
theorem JobManager.Inv.step (hinv : m.Inv) (hlawful : m.Lawful e) (h : m.Steps e m') : m'.Inv := by
  cases h with
  | create jobId target operation relatedUpid =>
    exact hinv.create hlawful target operation relatedUpid
  | run jobId => exact hinv.run hlawful
  | callback _ run r f hrun hf => exact hinv.write r.jobId hf.state
  | resolves run result jobId aborted hrun =>
    refine hinv.settle hrun (fun r => ?_) nofun
    rw [complete_state]
    trivial
  | rejects run reason jobId aborted hrun =>
    refine hinv.settle hrun (fun r => ?_) ?_
    · rw [reject_state]
      exact rejectedState_final aborted
    · split <;> nofun
  | cancel jobId => exact hinv.cancel jobId

/-! ## 6. How a job came to its state -/

/-- The registry after the events. -/
abbrev JobManager.after (es : List JobEvent) : Option JobManager := Runs.run JobManager.step {} es

/-- The executor of the run has resolved. -/
def ResolvedIn (es : List JobEvent) (run : Nat) : Prop :=
  ∃ result, JobEvent.resolves run result ∈ es

/-- The executor of the run has rejected. -/
def RejectedIn (es : List JobEvent) (run : Nat) : Prop :=
  ∃ reason, JobEvent.rejects run reason ∈ es

/-- A cancel was issued while the job was running. -/
def CancelledIn (es : List JobEvent) (jobId : String) : Prop :=
  ∃ before after m, es = before ++ .cancel jobId :: after ∧ JobManager.after before = some m ∧
    m.IsRunning jobId

/-- The executor of the run has rejected after such a cancel. -/
def RejectedAfterCancel (es : List JobEvent) (run : Nat) (jobId : String) : Prop :=
  ∃ before after, es = before ++ after ∧ CancelledIn before jobId ∧ RejectedIn after run

variable {es : List JobEvent}

theorem resolvedIn_concat (run : Nat) :
    ResolvedIn (es ++ [e]) run ↔ ResolvedIn es run ∨ ∃ result, e = .resolves run result := by
  simp only [ResolvedIn, List.mem_append, List.mem_singleton, exists_or]
  simp only [eq_comm]

theorem rejectedIn_concat (run : Nat) :
    RejectedIn (es ++ [e]) run ↔ RejectedIn es run ∨ ∃ reason, e = .rejects run reason := by
  simp only [RejectedIn, List.mem_append, List.mem_singleton, exists_or]
  simp only [eq_comm]

/-- A list that ends with `e`, split before one of its elements. -/
theorem concat_eq_split {before after : List JobEvent} {a : JobEvent}
    (h : es ++ [e] = before ++ a :: after) :
    (es = before ∧ e = a) ∨ ∃ after', after = after' ++ [e] ∧ es = before ++ a :: after' := by
  rcases List.eq_nil_or_concat after with rfl | ⟨after', b, rfl⟩
  · obtain ⟨h1, h2⟩ := List.append_inj' h rfl
    exact .inl ⟨h1, by simpa using h2⟩
  · rw [List.concat_eq_append] at h ⊢
    rw [← List.cons_append, ← List.append_assoc] at h
    obtain ⟨h1, h2⟩ := List.append_inj' h rfl
    rw [List.singleton_inj] at h2
    exact .inr ⟨after', by rw [h2], h1⟩

theorem CancelledIn.append {jobId : String} (h : CancelledIn es jobId) (es' : List JobEvent) :
    CancelledIn (es ++ es') jobId := by
  obtain ⟨before, after, m, rfl, hm, hrunning⟩ := h
  exact ⟨before, after ++ es', m, by rw [List.append_assoc]; rfl, hm, hrunning⟩

theorem cancelledIn_concat (hm : JobManager.after es = some m) (jobId : String) :
    CancelledIn (es ++ [e]) jobId ↔
      CancelledIn es jobId ∨ (e = .cancel jobId ∧ m.IsRunning jobId) := by
  constructor
  · intro hparts
    obtain ⟨before, after, m₀, hes, hm₀, hrunning⟩ := hparts
    rcases concat_eq_split hes with ⟨rfl, rfl⟩ | ⟨after', _, hes'⟩
    · rw [hm] at hm₀
      cases hm₀
      exact .inr ⟨rfl, hrunning⟩
    · exact .inl ⟨before, after', m₀, hes', hm₀, hrunning⟩
  · intro h
    rcases h with h | ⟨rfl, hrunning⟩
    · exact h.append [e]
    · exact ⟨es, [], m, rfl, hm, hrunning⟩

theorem rejectedAfterCancel_concat (run : Nat) (jobId : String) :
    RejectedAfterCancel (es ++ [e]) run jobId ↔
      RejectedAfterCancel es run jobId ∨
        (CancelledIn es jobId ∧ ∃ reason, e = .rejects run reason) := by
  constructor
  · intro hparts
    obtain ⟨before, after, hes, hcancelled, hrejected⟩ := hparts
    rcases List.eq_nil_or_concat after with rfl | ⟨after', b, rfl⟩
    · obtain ⟨reason, hmem⟩ := hrejected
      cases hmem
    · rw [List.concat_eq_append, ← List.append_assoc] at hes
      obtain ⟨hes', hb⟩ := List.append_inj' hes rfl
      rw [List.singleton_inj] at hb
      subst hb
      rw [List.concat_eq_append] at hrejected
      rcases (rejectedIn_concat run).mp hrejected with hrejected | hlast
      · exact .inl ⟨before, after', hes', hcancelled, hrejected⟩
      · exact .inr ⟨hes' ▸ hcancelled.append after', hlast⟩
  · intro h
    rcases h with ⟨before, after, rfl, hcancelled, hrejected⟩ | ⟨hcancelled, hlast⟩
    · exact ⟨before, after ++ [e], by rw [List.append_assoc], hcancelled,
        (rejectedIn_concat run).mpr (.inl hrejected)⟩
    · exact ⟨es, [e], rfl, hcancelled, (@rejectedIn_concat _ [] run).mpr (.inr hlast)⟩

/-- The state of the job of a run, read off the events. -/
structure Ends (es : List JobEvent) (run : Nat) (jobId : String) (state : JobState) : Prop where
  completed : state = .completed ↔ ResolvedIn es run
  cancelled : state = .cancelled ↔ RejectedAfterCancel es run jobId
  failed : state = .failed ↔ RejectedIn es run ∧ ¬RejectedAfterCancel es run jobId

/-- Another run's end, or none, changes nothing. -/
theorem Ends.concat {run : Nat} {jobId : String} {state : JobState} (h : Ends es run jobId state)
    (hresolves : ∀ result, e ≠ .resolves run result)
    (hrejects : ∀ reason, e ≠ .rejects run reason) : Ends (es ++ [e]) run jobId state := by
  have h1 : ResolvedIn (es ++ [e]) run ↔ ResolvedIn es run :=
    (resolvedIn_concat run).trans (or_iff_left fun ⟨v, hv⟩ => hresolves v hv)
  have h2 : RejectedIn (es ++ [e]) run ↔ RejectedIn es run :=
    (rejectedIn_concat run).trans (or_iff_left fun ⟨v, hv⟩ => hrejects v hv)
  have h3 : RejectedAfterCancel (es ++ [e]) run jobId ↔ RejectedAfterCancel es run jobId :=
    (rejectedAfterCancel_concat run jobId).trans (or_iff_left fun ⟨_, v, hv⟩ => hrejects v hv)
  exact ⟨h.completed.trans h1.symm, h.cancelled.trans h3.symm,
    h.failed.trans (by rw [h2, h3])⟩

theorem RejectedAfterCancel.rejectedIn {run : Nat} {jobId : String}
    (h : RejectedAfterCancel es run jobId) : RejectedIn es run := by
  obtain ⟨before, after, rfl, _, reason, hmem⟩ := h
  exact ⟨reason, List.mem_append_right _ hmem⟩

/-- The executor of a running job has not settled. -/
theorem Ends.unsettled {run : Nat} {jobId : String} (h : Ends es run jobId .running) :
    ¬ResolvedIn es run ∧ ¬RejectedIn es run := by
  refine ⟨fun hr => absurd (h.completed.mpr hr) nofun, fun hr => ?_⟩
  by_cases hc : RejectedAfterCancel es run jobId
  · exact nomatch h.cancelled.mpr hc
  · exact nomatch h.failed.mpr ⟨hr, hc⟩

/-- Conversely, a run that has not settled runs. -/
theorem ends_running {run : Nat} {jobId : String} (h1 : ¬ResolvedIn es run)
    (h2 : ¬RejectedIn es run) : Ends es run jobId .running :=
  ⟨⟨nofun, fun h => absurd h h1⟩, ⟨nofun, fun h => absurd h.rejectedIn h2⟩,
    ⟨nofun, fun h => absurd h.1 h2⟩⟩

/-- The end of a running job by a resolving executor. -/
theorem Ends.resolve {run : Nat} {jobId : String} (h : Ends es run jobId .running)
    (result : Value) : Ends (es ++ [.resolves run result]) run jobId .completed := by
  have hrejected : ¬RejectedIn (es ++ [.resolves run result]) run := by
    rw [rejectedIn_concat]
    exact fun hr => hr.elim h.unsettled.2 fun ⟨_, hv⟩ => nomatch hv
  exact ⟨⟨fun _ => (resolvedIn_concat run).mpr (.inr ⟨result, rfl⟩), fun _ => rfl⟩,
    ⟨nofun, fun hc => absurd hc.rejectedIn hrejected⟩, ⟨nofun, fun hf => absurd hf.1 hrejected⟩⟩

/-- The end of a running job by a rejecting executor: its signal says whether a cancel came
    before. -/
theorem Ends.reject {run : Nat} {jobId : String} (h : Ends es run jobId .running)
    (reason : Rejection) {aborted : Bool} (haborted : aborted = true ↔ CancelledIn es jobId) :
    Ends (es ++ [.rejects run reason]) run jobId (rejectedState aborted) := by
  have hresolved : ¬ResolvedIn (es ++ [.rejects run reason]) run := by
    rw [resolvedIn_concat]
    exact fun hr => hr.elim h.unsettled.1 fun ⟨_, hv⟩ => nomatch hv
  have hrejected : RejectedIn (es ++ [.rejects run reason]) run :=
    (rejectedIn_concat run).mpr (.inr ⟨reason, rfl⟩)
  have hcancelled : RejectedAfterCancel (es ++ [.rejects run reason]) run jobId ↔
      aborted = true := by
    rw [rejectedAfterCancel_concat, haborted]
    refine ⟨fun hc => hc.elim (fun hc => absurd hc.rejectedIn h.unsettled.2) And.left, fun hc => ?_⟩
    exact .inr ⟨hc, reason, rfl⟩
  cases aborted with
  | true => exact ⟨⟨nofun, fun hr => absurd hr hresolved⟩, ⟨fun _ => hcancelled.mpr rfl, fun _ => rfl⟩,
      ⟨nofun, fun hf => absurd (hcancelled.mpr rfl) hf.2⟩⟩
  | false => exact ⟨⟨nofun, fun hr => absurd hr hresolved⟩, ⟨nofun, fun hc => nomatch hcancelled.mp hc⟩,
      ⟨fun _ => ⟨hrejected, fun hc => nomatch hcancelled.mp hc⟩, fun _ => rfl⟩⟩

/-! ## 7. The invariant over a run -/

/-- The registry with its history: the signal of a pending run says whether its job was cancelled,
    and the state of a job that was run how its executor has settled. -/
structure Recorded (es : List JobEvent) (m : JobManager) : Prop where
  inv : m.Inv
  aborted : ∀ {k : Nat} {r : JobRun}, m.runs[k]? = some r → r.completion = .pending →
    (r.aborted = true ↔ CancelledIn es r.jobId)
  ends : ∀ {k : Nat} {r : JobRun} {record : JobRecord}, m.runs[k]? = some r →
    m.jobs r.jobId = some record → Ends es k r.jobId record.state
  settled : ∀ {k : Nat}, ResolvedIn es k ∨ RejectedIn es k → k < m.runs.length
  cancels : ∀ {j : String}, CancelledIn es j → ∃ r ∈ m.runs, r.jobId = j

/-- No executor settles in this event, and none is cancelled. -/
structure JobEvent.IsPlain (e : JobEvent) : Prop where
  resolves : ∀ k result, e ≠ .resolves k result
  rejects : ∀ k reason, e ≠ .rejects k reason
  cancel : ∀ jobId, e ≠ .cancel jobId

theorem JobEvent.IsPlain.cancelledIn (he : e.IsPlain) (hm : JobManager.after es = some m)
    {j : String} : CancelledIn (es ++ [e]) j ↔ CancelledIn es j :=
  (cancelledIn_concat hm j).trans (or_iff_left fun h => he.cancel j h.1)

theorem JobEvent.IsPlain.settled (he : e.IsPlain) {k : Nat} :
    ResolvedIn (es ++ [e]) k ∨ RejectedIn (es ++ [e]) k ↔ ResolvedIn es k ∨ RejectedIn es k := by
  have h1 : ResolvedIn (es ++ [e]) k ↔ ResolvedIn es k :=
    (resolvedIn_concat k).trans (or_iff_left fun ⟨v, hv⟩ => he.resolves k v hv)
  have h2 : RejectedIn (es ++ [e]) k ↔ RejectedIn es k :=
    (rejectedIn_concat k).trans (or_iff_left fun ⟨v, hv⟩ => he.rejects k v hv)
  rw [h1, h2]

/-- A plain event that leaves the calls of `run` and the states of their jobs alone. -/
theorem Recorded.plain (h : Recorded es m) (hm : JobManager.after es = some m) (he : e.IsPlain)
    (hinv : m'.Inv) (hruns : m'.runs = m.runs)
    (hjobs : ∀ r ∈ m.runs, ∀ record, m'.jobs r.jobId = some record →
      ∃ record₀, m.jobs r.jobId = some record₀ ∧ record.state = record₀.state) :
    Recorded (es ++ [e]) m' where
  inv := hinv
  aborted hr hc := by
    rw [hruns] at hr
    exact (h.aborted hr hc).trans (he.cancelledIn hm).symm
  ends hr hrecord := by
    rw [hruns] at hr
    obtain ⟨record₀, hrecord₀, hstate⟩ := hjobs _ (List.mem_of_getElem? hr) _ hrecord
    rw [hstate]
    exact (h.ends hr hrecord₀).concat (he.resolves _) (he.rejects _)
  settled hk := by
    rw [hruns]
    exact h.settled (he.settled.mp hk)
  cancels hj := by
    rw [hruns]
    exact h.cancels ((he.cancelledIn hm).mp hj)

/-- A job begins to run. -/
theorem Recorded.run (h : Recorded es m) (hm : JobManager.after es = some m) {jobId : String}
    (honce : ∀ r ∈ m.runs, r.jobId ≠ jobId) : Recorded (es ++ [.run jobId]) (m.run jobId) := by
  have he : (JobEvent.run jobId).IsPlain := ⟨nofun, nofun, nofun⟩
  have hinv := h.inv.run honce
  cases hjob : m.jobs jobId with
  | none =>
    have hsame : m.run jobId = m := by
      rw [JobManager.run, hjob]
      rfl
    rw [hsame] at hinv ⊢
    exact h.plain hm he hinv rfl fun r _ record hrecord => ⟨record, hrecord, rfl⟩
  | some record₀ =>
    rw [run_eq hjob] at hinv ⊢
    refine ⟨hinv, ?_, ?_, ?_, ?_⟩
    · intro k r hr hc
      rw [he.cancelledIn hm]
      rcases getElem?_concat.mp hr with hr | ⟨rfl, rfl⟩
      · exact h.aborted hr hc
      · refine ⟨nofun, fun hcancelled => ?_⟩
        obtain ⟨r, hr, hj⟩ := h.cancels hcancelled
        exact absurd hj (honce r hr)
    · intro k r record hr hrecord
      change (m.write jobId _).jobs r.jobId = _ at hrecord
      rw [jobs_write] at hrecord
      rcases getElem?_concat.mp hr with hr | ⟨rfl, rfl⟩
      · rw [if_neg (honce r (List.mem_of_getElem? hr))] at hrecord
        exact (h.ends hr hrecord).concat (he.resolves _) (he.rejects _)
      · rw [if_pos rfl, hjob] at hrecord
        cases hrecord
        have hnew : ¬(ResolvedIn es m.runs.length ∨ RejectedIn es m.runs.length) :=
          fun hk => Nat.lt_irrefl _ (h.settled hk)
        have hends : Ends es m.runs.length jobId .running :=
          ends_running (fun hk => hnew (.inl hk)) fun hk => hnew (.inr hk)
        exact hends.concat (he.resolves _) (he.rejects _)
    · intro k hk
      show k < (m.runs ++ [_]).length
      rw [List.length_append]
      exact Nat.lt_of_lt_of_le (h.settled (he.settled.mp hk)) (Nat.le_add_right _ _)
    · intro j hj
      obtain ⟨r, hr, hjob'⟩ := h.cancels ((he.cancelledIn hm).mp hj)
      exact ⟨r, List.mem_append_left _ hr, hjob'⟩

/-- An executor settles: the state its job is left in is the one the events tell. -/
theorem Recorded.settle (h : Recorded es m) (hm : JobManager.after es = some m) {run : Nat}
    {jobRun : JobRun} (hrun : m.runs[run]? = some jobRun)
    {f : JobRecord → JobRecord} (hf : ∀ r, (f r).state.IsFinal) {c : Completion} (hc : c ≠ .pending)
    (hends : ∀ r, m.jobs jobRun.jobId = some r → Ends (es ++ [e]) run jobRun.jobId (f r).state)
    (hresolves : ∀ k result, e = .resolves k result → k = run)
    (hrejects : ∀ k reason, e = .rejects k reason → k = run) (hcancel : ∀ j, e ≠ .cancel j) :
    Recorded (es ++ [e]) (m.settle run jobRun f c) := by
  have hcancelled : ∀ j, CancelledIn (es ++ [e]) j ↔ CancelledIn es j :=
    fun j => (cancelledIn_concat hm j).trans (or_iff_left fun he => hcancel j he.1)
  have hinv := h.inv.settle hrun hf hc
  rw [h.inv.settle_eq hrun] at hinv ⊢
  refine ⟨hinv, ?_, ?_, ?_, ?_⟩
  · intro k r hr hpending
    rw [hcancelled]
    rcases (getElem?_set_run hrun).mp hr with ⟨rfl, rfl⟩ | ⟨_, hr⟩
    · exact absurd hpending hc
    · exact h.aborted hr hpending
  · intro k r record hr hrecord
    change (m.write jobRun.jobId f).jobs r.jobId = _ at hrecord
    rw [jobs_write] at hrecord
    rcases (getElem?_set_run hrun).mp hr with ⟨rfl, rfl⟩ | ⟨hk, hr⟩
    · rw [if_pos rfl] at hrecord
      obtain ⟨record₀, hrecord₀, rfl⟩ := Option.map_eq_some_iff.mp hrecord
      exact hends record₀ hrecord₀
    · rw [if_neg fun he => hk (h.inv.distinct hr hrun he)] at hrecord
      exact (h.ends hr hrecord).concat (fun v hv => hk (hresolves _ v hv))
        fun v hv => hk (hrejects _ v hv)
  · intro k hk
    show k < (m.runs.set run _).length
    rw [List.length_set]
    rw [resolvedIn_concat, rejectedIn_concat] at hk
    have hlt := (List.getElem?_eq_some_iff.mp hrun).1
    rcases hk with (hk | ⟨v, hv⟩) | (hk | ⟨v, hv⟩)
    · exact h.settled (.inl hk)
    · exact hresolves k v hv ▸ hlt
    · exact h.settled (.inr hk)
    · exact hrejects k v hv ▸ hlt
  · intro j hj
    obtain ⟨r, hr, hjob⟩ := h.cancels ((hcancelled j).mp hj)
    obtain ⟨k, hk⟩ := List.mem_iff_getElem?.mp hr
    by_cases hrunk : k = run
    · rw [hrunk, hrun] at hk
      cases hk
      exact ⟨_, List.mem_of_getElem? ((getElem?_set_run hrun).mpr (.inl ⟨rfl, rfl⟩)), hjob⟩
    · exact ⟨r, List.mem_of_getElem? ((getElem?_set_run hrun).mpr (.inr ⟨hrunk, hk⟩)), hjob⟩

/-- A cancel. -/
theorem Recorded.cancel (h : Recorded es m) (hm : JobManager.after es = some m) (jobId : String) :
    Recorded (es ++ [.cancel jobId]) (m.cancel jobId) where
  inv := h.inv.cancel jobId
  aborted {k r} hr hpending := by
    obtain ⟨r₀, hr₀, hjob, hcompletion, haborted⟩ := run_of_cancel hr
    have hold := h.aborted hr₀ (hcompletion.trans hpending)
    rw [cancelledIn_concat hm, haborted, Bool.or_eq_true, hold, hjob, decide_eq_true_eq,
      h.inv.controllers]
    refine or_congr_right ?_
    constructor
    · intro hparts
      obtain ⟨r₁, hr₁, hj, _⟩ := hparts
      rw [hr₀] at hr₁
      cases hr₁
      rw [← hjob, hj]
      exact ⟨rfl, (h.inv.controller_iff_running jobId).mp (Option.isSome_iff_exists.mpr
        ⟨k, h.inv.controllers.mpr ⟨_, hr₀, hj, hcompletion.trans hpending⟩⟩)⟩
    · intro hparts
      obtain ⟨he, _⟩ := hparts
      cases he
      exact ⟨r₀, hr₀, hjob, hcompletion.trans hpending⟩
  ends hr hrecord := by
    obtain ⟨r₀, hr₀, hjob, _⟩ := run_of_cancel hr
    rw [jobs_cancel, ← hjob] at hrecord
    rw [← hjob]
    exact (h.ends hr₀ hrecord).concat nofun nofun
  settled {k} hk := by
    have hlength : (m.cancel jobId).runs.length = m.runs.length := by
      unfold JobManager.cancel
      split
      · rfl
      · exact List.length_modify ..
    rw [hlength]
    rw [resolvedIn_concat, rejectedIn_concat] at hk
    rcases hk with (hk | ⟨_, he⟩) | (hk | ⟨_, he⟩)
    · exact h.settled (.inl hk)
    · cases he
    · exact h.settled (.inr hk)
    · cases he
  cancels {j} hj := by
    have hrun : ∃ r ∈ m.runs, r.jobId = j := by
      rcases (cancelledIn_concat hm j).mp hj with hj | ⟨he, hrunning⟩
      · exact h.cancels hj
      · obtain ⟨k, r, hr, hjob, _⟩ := h.inv.run_of_running hrunning
        exact ⟨r, List.mem_of_getElem? hr, hjob⟩
    obtain ⟨r, hr, hjob⟩ := hrun
    obtain ⟨k, hk⟩ := List.mem_iff_getElem?.mp hr
    obtain ⟨r', hr', hjob', _⟩ := @cancel_of_run _ jobId _ _ hk
    exact ⟨r', List.mem_of_getElem? hr', hjob'.trans hjob⟩

/-- **A lawful step keeps the registry in line with its history.** -/
theorem Recorded.step (h : Recorded es m) (hm : JobManager.after es = some m)
    (hlawful : m.Lawful e) (hstep : m.Steps e m') : Recorded (es ++ [e]) m' := by
  have hinv := h.inv.step hlawful hstep
  cases hstep with
  | create jobId target operation relatedUpid =>
    refine h.plain hm ⟨nofun, nofun, nofun⟩ hinv rfl fun r hr record hrecord => ?_
    rw [jobs_create] at hrecord
    split at hrecord
    · rename_i hj
      obtain ⟨k, hk⟩ := List.mem_iff_getElem?.mp hr
      obtain ⟨record₀, hrecord₀, _⟩ := h.inv.ran hk
      rw [hj, show m.jobs jobId = none from hlawful] at hrecord₀
      cases hrecord₀
    · exact ⟨record, hrecord, rfl⟩
  | run jobId => exact h.run hm hlawful
  | callback _ run r f hrun hf _ _ hresolves hrejects hcancel =>
    refine h.plain hm ⟨hresolves, hrejects, hcancel⟩ hinv rfl fun r' _ record hrecord => ?_
    rw [jobs_write] at hrecord
    split at hrecord
    · obtain ⟨record₀, hrecord₀, rfl⟩ := Option.map_eq_some_iff.mp hrecord
      exact ⟨record₀, hrecord₀, hf.state record₀⟩
    · exact ⟨record, hrecord, rfl⟩
  | resolves run result jobId aborted hrun =>
    refine h.settle hm hrun (fun r => ?_) nofun (fun r hr => ?_) (fun k v he => ?_) nofun nofun
    · rw [complete_state]
      trivial
    · obtain ⟨record, hrecord, hmatches⟩ := h.inv.ran hrun
      have hends := h.ends hrun hrecord
      rw [hmatches.running rfl] at hends
      exact hends.resolve result
    · cases he
      rfl
  | rejects run reason jobId aborted hrun =>
    refine h.settle hm hrun (fun r => ?_) ?_ (fun r hr => ?_) nofun (fun k v he => ?_) nofun
    · rw [reject_state]
      exact rejectedState_final aborted
    · split <;> nofun
    · obtain ⟨record, hrecord, hmatches⟩ := h.inv.ran hrun
      have hends := h.ends hrun hrecord
      rw [hmatches.running rfl] at hends
      rw [reject_state]
      exact hends.reject reason (h.aborted hrun rfl)
    · cases he
      rfl
  | cancel jobId => exact h.cancel hm jobId

/-- The job was run, and its run is in the list of those that did so. -/
def JobManager.RanWith (m : JobManager) (jobId : String) (P : Nat → Prop) : Prop :=
  ∃ run r, m.runs[run]? = some r ∧ r.jobId = jobId ∧ P run

/-- What holds of the registry `m` after the events `es`: how a job ended is how its executor
    settled, an abort controller is registered iff its job is running, and no promise of `run` is
    rejected. -/
structure Kept (es : List JobEvent) (m : JobManager) : Prop where
  completed : ∀ j record, m.jobs j = some record →
    (record.state = .completed ↔ m.RanWith j (ResolvedIn es))
  cancelled : ∀ j record, m.jobs j = some record →
    (record.state = .cancelled ↔ m.RanWith j fun run => RejectedAfterCancel es run j)
  failed : ∀ j record, m.jobs j = some record →
    (record.state = .failed ↔
      m.RanWith j fun run => RejectedIn es run ∧ ¬RejectedAfterCancel es run j)
  controllers : ∀ j, (m.abortControllers j).isSome ↔ m.IsRunning j
  promises : ∀ r ∈ m.runs, r.completion ≠ .rejected

/-- What is told of the one run of a job is told of the job. -/
theorem Recorded.ranWith_iff (h : Recorded es m) {j : String} {record : JobRecord}
    (hrecord : m.jobs j = some record) {P : Nat → Prop} {s : JobState} (hs : s ≠ .pending)
    (hP : ∀ run, Ends es run j record.state → (record.state = s ↔ P run)) :
    record.state = s ↔ m.RanWith j P := by
  constructor
  · intro hstate
    rcases h.inv.unrun hrecord with hpending | ⟨k, r, hr, hj⟩
    · exact absurd (hstate.symm.trans hpending) hs
    · have hends := h.ends hr (hj ▸ hrecord)
      rw [hj] at hends
      exact ⟨k, r, hr, hj, (hP k hends).mp hstate⟩
  · intro hparts
    obtain ⟨k, r, hr, hj, hk⟩ := hparts
    have hends := h.ends hr (hj ▸ hrecord)
    rw [hj] at hends
    exact (hP k hends).mpr hk

/-- All of the law but the promises. -/
theorem Recorded.kept (h : Recorded es m) (hpromises : ∀ r ∈ m.runs, r.completion ≠ .rejected) :
    Kept es m where
  completed _ _ hrecord := h.ranWith_iff hrecord nofun fun _ hends => hends.completed
  cancelled _ _ hrecord := h.ranWith_iff hrecord nofun fun _ hends => hends.cancelled
  failed _ _ hrecord := h.ranWith_iff hrecord nofun fun _ hends => hends.failed
  controllers := h.inv.controller_iff_running
  promises := hpromises

end ProxmoxMcp
