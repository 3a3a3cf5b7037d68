/-
  File:      ProxmoxMcp/AuditLog.lean
  Subject:   THE AUDIT LOG AS A FILE (`AuditLogger.record`): the records of all calls, one to a line,
             in the order they were appended.

  * `auditLog_read_back` -- the lines of the file are the records, whatever a client put into them,
    and each line is the redacted record;
  * `tool_logged` -- whatever a tool does that acts, a line for its target is in the file by then,
    however the records of other calls come between.

  NOT here: an append that fails writes nothing, and no other program writes the file.
-/
import ProxmoxMcp.JobIds
import ProxmoxMcp.Redaction
import ProxmoxMcp.ToolPolicy
import ProxmoxMcp.Lib.JsonLines

namespace ProxmoxMcp

open Js Effects Prog

variable [Text.Unicode]

/-! ## 1. The file -/

/-- The object that is recorded. -/
def AuditEntry.properties (entry : AuditEntry) : List (String × Value) :=
  ("action", .str entry.action) :: ("target", entry.target.toValue) :: entry.fields

/-- A record, at its time. -/
structure AuditRecord where
  timestamp : String
  entry : AuditEntry

/-- The object of its line. -/
def AuditRecord.payload (record : AuditRecord) : Value :=
  .obj ((redactProperties record.entry.properties []).foldl (fun line p => setKey p.1 p.2 line)
    [("timestamp", .str record.timestamp)])

/-- The text of its line. -/
def AuditRecord.text (record : AuditRecord) : List Char := (stringifyText record.payload).toList

/-- The file after the records: every one is appended as `record` writes it. -/
def auditLog (records : List AuditRecord) : List Char :=
  records.flatMap fun record => (auditLine record.timestamp record.entry.properties).toList

theorem auditLog_eq (records : List AuditRecord) :
    auditLog records = jsonLines (records.map AuditRecord.payload) := by
  rw [auditLog, jsonLines, Text.lines, List.map_map, List.flatMap_map]
  refine List.flatMap_congr fun record _ => ?_
  rw [auditLine, String.toList_append]
  rfl

/-- **The lines of the file are the records.** -/
theorem splitOn_auditLog (records : List AuditRecord) :
    Text.splitOn '\n' (auditLog records) = records.map AuditRecord.text ++ [[]] := by
  rw [auditLog_eq, splitOn_jsonLines, List.map_map]
  rfl

/-! ## 2. Reading it back -/

/-- The names of a record: they stand behind the time, in their order. -/
def AuditEntry.Named (entry : AuditEntry) : Prop :=
  ("timestamp" :: entry.properties.map Prod.fst).Pairwise StaysBefore

/-- The record as it is read back. -/
def AuditRecord.redacted (record : AuditRecord) : Value :=
  .obj (("timestamp", .str record.timestamp) :: keptProperties record.entry.properties)

omit [Text.Unicode] in
/-- Setting new keys one after the other. -/
theorem foldl_setKey : ∀ {ps acc : List (String × Value)},
    (acc.map Prod.fst ++ ps.map Prod.fst).Pairwise StaysBefore →
      ps.foldl (fun line p => setKey p.1 p.2 line) acc = acc ++ ps
  | [], acc, _ => (List.append_nil acc).symm
  | p :: ps, acc, h => by
      have hlast : setKey p.1 p.2 acc = acc ++ [p] := by
        refine setKey_append_iff.mpr fun q hq => ?_
        rw [List.map_cons, List.pairwise_append] at h
        exact h.2.2 q.1 (List.mem_map_of_mem hq) p.1 List.mem_cons_self
      rw [List.foldl_cons, hlast, foldl_setKey, List.append_assoc]
      · rfl
      · rw [List.map_append, List.append_assoc]
        exact h

theorem keys_keptProperties_sublist (ps : List (String × Value)) :
    ((keptProperties ps).map Prod.fst).Sublist (ps.map Prod.fst) := by
  rw [keys_keptProperties]
  exact List.filter_sublist

theorem payload_eq {record : AuditRecord} (h : record.entry.Named) :
    record.payload = record.redacted := by
  have hkept : redactProperties record.entry.properties [] =
      [] ++ keptProperties record.entry.properties :=
    redactProperties_eq rfl (List.pairwise_cons.mp h).2
  have hnames : (["timestamp"] ++ (keptProperties record.entry.properties).map Prod.fst).Pairwise
      StaysBefore :=
    h.sublist ((keys_keptProperties_sublist record.entry.properties).cons_cons "timestamp")
  have hfold := @foldl_setKey _ [("timestamp", .str record.timestamp)] hnames
  rw [AuditRecord.payload, hkept, List.nil_append, hfold]
  rfl

/-- A redacted entry is a text or the copy. -/
theorem writes_redactEntry {key : String} {entry copy : Value} (h : copy.Writes) :
    (redactEntry key entry copy).Writes := by
  unfold redactEntry
  split
  · trivial
  · split
    · trivial
    · exact h

omit [Text.Unicode] in
theorem writesEach_iff {ps : List (String × Value)} : WritesEach ps ↔ ∀ p ∈ ps, p.2.Writes := by
  induction ps with
  | nil => simp [WritesEach]
  | cons p ps ih => rw [WritesEach, ih, List.forall_mem_cons]

theorem writes_keptProperties {ps : List (String × Value)} (hnames : InOrder ps)
    (h : ∀ p ∈ ps, (redactSecrets p.2).Writes) : (Value.obj (keptProperties ps)).Writes := by
  refine ⟨inOrder_iff.mpr ((inOrder_iff.mp hnames).sublist (keys_keptProperties_sublist ps)),
    writesEach_iff.mpr fun p hp => ?_⟩
  obtain ⟨q, hq, rfl⟩ := List.mem_map.mp hp
  exact writes_redactEntry (h q (List.mem_filter.mp hq).1)

mutual

/-- **The copy of a value that writes writes.** -/
theorem writes_redactSecrets : ∀ {v : Value}, v.Writes → (redactSecrets v).Writes
  | .null, _ => trivial
  | .bool _, _ => trivial
  | .num (.rat _), h => h
  | .str _, _ => trivial
  | .arr _, h => writesAll_redactElements h
  | .obj ps, h => by
      rw [redactSecrets_obj h.1]
      exact writes_keptProperties h.1 (writesEach_redactSecrets h.2)

theorem writesAll_redactElements : ∀ {vs : List Value}, WritesAll vs → WritesAll (redactElements vs)
  | [], _ => trivial
  | _ :: _, h => ⟨writes_redactSecrets h.1, writesAll_redactElements h.2⟩

theorem writesEach_redactSecrets : ∀ {ps : List (String × Value)}, WritesEach ps →
    ∀ p ∈ ps, (redactSecrets p.2).Writes
  | [], _, p, hp => absurd hp List.not_mem_nil
  | (_, _) :: _, h, p, hp => by
      rcases List.mem_cons.mp hp with rfl | hp
      · exact writes_redactSecrets h.1
      · exact writesEach_redactSecrets h.2 p hp

end

omit [Text.Unicode] in
theorem writes_target (target : TargetRef) : target.toValue.Writes := by
  have htarget : NamedTargetRef.toValue ⟨target, none⟩ = target.toValue := by
    simp [NamedTargetRef.toValue, NamedTargetRef.properties, TargetRef.toValue]
  rw [← htarget]
  exact NamedTargetRef.writes ⟨target, none⟩

/-- Every field can be written. -/
def AuditEntry.Writes (entry : AuditEntry) : Prop := ∀ field ∈ entry.fields, field.2.Writes

theorem writes_redacted {record : AuditRecord} (hnamed : record.entry.Named)
    (hwrites : record.entry.Writes) : record.redacted.Writes := by
  have horder : InOrder record.entry.properties := inOrder_iff.mpr (List.pairwise_cons.mp hnamed).2
  have hall : ∀ p ∈ record.entry.properties, p.2.Writes := by
    refine List.forall_mem_cons.mpr ⟨trivial, List.forall_mem_cons.mpr ⟨writes_target _, hwrites⟩⟩
  have hkept := writes_keptProperties horder fun p hp => writes_redactSecrets (hall p hp)
  refine ⟨inOrder_iff.mpr ?_, trivial, hkept.2⟩
  exact hnamed.sublist ((keys_keptProperties_sublist record.entry.properties).cons_cons "timestamp")

/-- **The file is read back**: every line is a record, redacted, and nothing else is in the file. -/
theorem auditLog_read_back (records : List AuditRecord)
    (h : ∀ record ∈ records, record.entry.Named ∧ record.entry.Writes) :
    (Text.splitOn '\n' (auditLog records)).map (fun line => parse (String.ofList line)) =
      records.map (fun record => some record.redacted) ++ [none] := by
  rw [splitOn_auditLog, List.map_append, List.map_map]
  refine congrArg₂ (· ++ ·) (List.map_congr_left fun record hrecord => ?_) ?_
  · obtain ⟨hnamed, hwrites⟩ := h record hrecord
    have hparse := parse_stringifyText_of (writes_redacted hnamed hwrites)
    rw [Function.comp_apply, AuditRecord.text, String.ofList_toList, payload_eq hnamed, hparse]
  · decide

/-- The record of a read whose path tries to write a line of its own. -/
def forgingRecord : AuditRecord where
  timestamp := "2026-01-01T00:00:00.000Z"
  entry := ⟨"proxmox_file_read", ⟨"default", .node, some "pve", none⟩,
    [("filePath", .str "/etc/hosts\"\x7d\n\x7b\"action\":\"none\"\x7d")]⟩

omit [Text.Unicode] in
theorem auditLog_read_back_forging :
    letI := Text.asciiCase
    (Text.splitOn '\n' (auditLog [forgingRecord, forgingRecord])).length = 3 := by
  let := Text.asciiCase
  have hback := auditLog_read_back [forgingRecord, forgingRecord] fun record hrecord => by
    have hsame : record = forgingRecord := by simpa using hrecord
    rw [hsame]
    refine ⟨?_, fun field hfield => ?_⟩
    · unfold AuditEntry.Named StaysBefore
      decide
    · cases List.mem_singleton.mp hfield
      trivial
  exact (List.length_map _).symm.trans (congrArg List.length hback)

/-! ## 3. The records of a run -/

/-- The record that an effect has appended. -/
def appendedEntry : (Σ e : Effect, e.Reply) → Option AuditEntry
  | ⟨.audit entry, .ok _⟩ => some entry
  | _ => none

/-- The records of a run, in their order. -/
def recorded (h : History) : List AuditEntry := h.filterMap appendedEntry

omit [Text.Unicode] in
theorem mem_recorded {h : History} {entry : AuditEntry}
    (hmem : ⟨.audit entry, .ok ()⟩ ∈ h) : entry ∈ recorded h :=
  List.mem_filterMap.mpr ⟨_, hmem, rfl⟩

/-- **Whatever a tool does that acts, a line for its target is in the file by then**, among the lines
    of whatever other calls have recorded; the deletion of a task by `job_cancel` alone has none. -/
theorem tool_logged (S : Service) (execution : Execution) (call : ToolCall) (t : History)
    (o : Outcome String Unit) (hrun : Run (call.perform S execution) t o) (pre post : History)
    (step : Σ e : Effect, e.Reply) (hsplit : t = pre ++ step :: post) (hacts : step.1.acts = true)
    (records : List AuditRecord)
    (hrecords : (recorded pre).Sublist (records.map AuditRecord.entry)) :
    call.Exempt S pre step.1 ∨ ∃ target p, step.1.RestsOn target p ∧
      ∃ record ∈ records, record.entry.target = target ∧
        record.text ∈ Text.splitOn '\n' (auditLog records) := by
  rcases actsMediated_of_run hrun hsplit hacts with hmediated | hexempt
  · obtain ⟨target, p, hrests, hasserted⟩ := hmediated
    obtain ⟨entry, htarget, hentry⟩ := hasserted.audited
    obtain ⟨record, hrecord, rfl⟩ := List.mem_map.mp (hrecords.subset (mem_recorded hentry))
    refine .inr ⟨target, p, hrests, record, hrecord, htarget, ?_⟩
    rw [splitOn_auditLog]
    exact List.mem_append_left _ (List.mem_map_of_mem hrecord)
  · exact .inl hexempt

/-- The record of the read. -/
def hostsRecord : AuditRecord where
  timestamp := "2026-01-01T00:00:00.000Z"
  entry := ⟨"proxmox_file_read", ⟨"default", .node, some "pve", none⟩,
    [("filePath", .str "/etc/hosts")]⟩

omit [Text.Unicode] in
theorem tool_logged_hosts :
    letI := Text.asciiCase
    ∃ step, hostsToolRun.1[2]? = some step ∧ step.1.acts = true ∧
      (hostsTool.Exempt nodeService (hostsToolRun.1.take 2) step.1 ∨
        ∃ target p, step.1.RestsOn target p ∧ ∃ record ∈ [forgingRecord, hostsRecord],
          record.entry.target = target ∧
            record.text ∈ Text.splitOn '\n' (auditLog [forgingRecord, hostsRecord])) := by
  let := Text.asciiCase
  have hrecorded : recorded (hostsToolRun.1.take 2) = [hostsRecord.entry] := rfl
  refine ⟨_, rfl, rfl, tool_logged nodeService { rounds := 1 } hostsTool hostsToolRun.1 hostsToolRun.2
    (run_replay ..) _ _ _ rfl rfl [forgingRecord, hostsRecord] ?_⟩
  rw [show recorded (List.take 2 hostsToolRun.1) = _ from hrecorded]
  exact List.sublist_cons_self _ _

end ProxmoxMcp
