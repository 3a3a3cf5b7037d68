/-
  File:      ProxmoxMcp/AdminStore.lean
  Subject:   THE SECRET STORE UNDER THE ADMIN OPERATIONS: what `enroll`, `rotate` and `deprovision`
             leave of the other records, and what they do on the host where the store is read-only.

  `enroll` writes a document that holds its own two records and `deprovision` deletes the whole
  document, so the records of another cluster, node or user that share the store are lost.
-/
import ProxmoxMcp.AdminEnroll

namespace ProxmoxMcp

open Js Effects

/-! ## 1. The store over a history -/

/-- The records the store holds after one effect: a write replaces the document and a deletion
    leaves an empty one. -/
def storeStep (records : List SecretRecord) :
    (Σ e : AdminEffect, AdminEffect.Reply e) → List SecretRecord
  | ⟨.storeWrite document, .ok _⟩ => document.records
  | ⟨.storeDelete, .ok _⟩ => []
  | _ => records

/-- The records the store holds after a history. -/
def recordsAfter (records : List SecretRecord) (h : AdminHistory) : List SecretRecord :=
  h.foldl storeStep records

/-- The records a read answered. -/
def readAnswer : (Σ e : AdminEffect, AdminEffect.Reply e) → Option (List SecretRecord)
  | ⟨.storeRead, .ok document⟩ => some document.records
  | _ => none

/-- Every read of a history answers what the store holds at its time. -/
def Consistent : List SecretRecord → AdminHistory → Prop
  | _, [] => True
  | records, s :: h =>
    (∀ answered ∈ readAnswer s, answered = records) ∧ Consistent (storeStep records s) h

instance : ∀ (records : List SecretRecord) (h : AdminHistory), Decidable (Consistent records h)
  | _, [] => inferInstanceAs (Decidable True)
  | records, s :: h =>
    let := instDecidableConsistent (storeStep records s) h
    inferInstanceAs (Decidable (_ ∧ _))

/-- The effects that write to the store. -/
def AdminEffect.writesStore : AdminEffect → Bool
  | .storeWrite _ => true
  | .storeDelete => true
  | _ => false

theorem storeStep_keeps {records : List SecretRecord}
    {s : Σ e : AdminEffect, AdminEffect.Reply e} (h : s.1.writesStore = false) :
    storeStep records s = records := by
  obtain ⟨e, r⟩ := s
  cases e with
  | storeWrite document => cases h
  | storeDelete => cases h
  | _ => rfl

theorem recordsAfter_append (records : List SecretRecord) (h h' : AdminHistory) :
    recordsAfter records (h ++ h') = recordsAfter (recordsAfter records h) h' :=
  List.foldl_append

/-- No effect of the history writes to the store. -/
def KeepsStore (h : AdminHistory) : Prop := ∀ s ∈ h, s.1.writesStore = false

theorem KeepsStore.recordsAfter {records : List SecretRecord} : ∀ {h : AdminHistory}, KeepsStore h →
    recordsAfter records h = records
  | [], _ => rfl
  | s :: h, hq => by
      have hs := @storeStep_keeps records s (hq s List.mem_cons_self)
      have ih := @KeepsStore.recordsAfter records h fun s hs => hq s (List.mem_cons_of_mem _ hs)
      rw [ProxmoxMcp.recordsAfter, List.foldl_cons, hs]
      exact ih

/-- The last write decides. -/
theorem recordsAfter_write {records : List SecretRecord} {h h' : AdminHistory}
    {document : SecretDocument} {u : Unit} (hq : KeepsStore h') :
    recordsAfter records (h ++ ⟨.storeWrite document, .ok u⟩ :: h') = document.records := by
  rw [recordsAfter_append]
  exact hq.recordsAfter

theorem keepsStore_append {h h' : AdminHistory} (hq : KeepsStore h) (hq' : KeepsStore h') : KeepsStore (h ++ h') :=
  fun s hs => (List.mem_append.mp hs).elim (hq s) (hq' s)

/-! ## 2. What does not write -/

/-- No run of the operation writes to the store. -/
abbrev Silent {α : Type} (p : Admin α) : Prop := Prog.Only (AdminEffect.writesStore · = false) p

theorem Silent.keepsStore {α : Type} {p : Admin α} {h : AdminHistory} {o : Outcome String α}
    (hp : Silent p) (hr : Prog.Run p h o) : KeepsStore h := hp h o hr

theorem silent_pure {α : Type} {a : α} : Silent (pure a : Admin α) := Prog.only_pure

theorem silent_execBootstrapCommand (connection : BootstrapConnection) (command : String) :
    Silent (execBootstrapCommand connection command) := by
  refine Prog.only_bind (Prog.only_perform rfl) fun reply => ?_
  refine Prog.only_bind Prog.only_ofExcept fun result => ?_
  exact Prog.only_ofExcept

theorem silent_detectBootstrapMode (connection : BootstrapConnection) :
    Silent (detectBootstrapMode connection) := by
  refine Prog.only_bind (silent_execBootstrapCommand _ _) fun direct => ?_
  split
  · exact Prog.only_pure
  · cases connection.password with
    | none => exact Prog.only_throw
    | some password =>
      dsimp only
      split
      · exact Prog.only_throw
      · refine Prog.only_bind (silent_execBootstrapCommand _ _) fun sudoCheck => ?_
        split
        · exact Prog.only_throw
        · exact Prog.only_pure

theorem silent_runAdminScript (connection : BootstrapConnection) (script : String) :
    Silent (runAdminScript connection script) := by
  refine Prog.only_bind (silent_detectBootstrapMode connection) fun mode => ?_
  rcases mode with _ | password
  · exact silent_execBootstrapCommand _ _
  · exact silent_execBootstrapCommand _ _

theorem silent_validateApiToken (o : AdminOptions) (document : SecretDocument) :
    Silent (validateApiToken o document) := by
  unfold validateApiToken
  split
  · exact Prog.only_bind (Prog.only_perform rfl) fun reply => Prog.only_ofExcept
  · exact Prog.only_throw

theorem silent_validateShellKey (o : AdminOptions) (document : SecretDocument) :
    Silent (validateShellKey o document) := by
  unfold validateShellKey
  split
  · refine Prog.only_bind (Prog.only_perform rfl) fun reply => ?_
    refine Prog.only_bind Prog.only_ofExcept fun result => ?_
    exact Prog.only_bind Prog.only_ofExcept fun text => Prog.only_pure
  · exact Prog.only_throw

/-! ## 3. What an enrollment writes -/

theorem silent_makeSecretBase (id : String) (metadata : List (String × Value))
    (detail : SecretDetail) : Silent (makeSecretBase id metadata detail) :=
  Prog.only_bind (Prog.only_perform rfl) fun _ => Prog.only_pure

theorem silent_upsertSecretNow (document : SecretDocument) (record : SecretRecord) :
    Silent (upsertSecretNow document record) := by
  refine Prog.only_bind (Prog.only_perform rfl) fun recordNow => ?_
  exact Prog.only_bind (Prog.only_perform rfl) fun now => Prog.only_pure

theorem silent_enrollmentDocument (o : AdminOptions) (keyPair : ShellKeyPair)
    (tokenSecret expireAt : String) :
    Silent (enrollmentDocument o keyPair tokenSecret expireAt) := by
  refine Prog.only_bind (Prog.only_perform rfl) fun created => ?_
  refine Prog.only_bind (silent_makeSecretBase _ _ _) fun token => ?_
  refine Prog.only_bind (silent_upsertSecretNow _ _) fun withToken => ?_
  refine Prog.only_bind ?_ fun shell => silent_upsertSecretNow _ _
  split
  · exact silent_makeSecretBase _ _ _
  · exact silent_makeSecretBase _ _ _

/-! ## 3. What an enrollment writes -/

/-- `makeSecretBase` gives the record its id. -/
theorem makeSecretBase_id {id : String} {metadata : List (String × Value)} {detail : SecretDetail}
    {h : AdminHistory} {record : SecretRecord}
    (hr : Prog.Run (makeSecretBase id metadata detail) h (.ok record)) : record.id = id := by
  obtain ⟨now, t, -, h1⟩ := Prog.run_perform_bind.mp hr
  obtain ⟨-, e⟩ := Prog.run_pure.mp h1
  cases e
  rfl

/-- An upsert adds the id of its record, none other. -/
theorem upsertSecretNow_ids {document next : SecretDocument} {record : SecretRecord}
    {h : AdminHistory} (hr : Prog.Run (upsertSecretNow document record) h (.ok next)) :
    ∀ r ∈ next.records, r.id = record.id ∨ r ∈ document.records := by
  obtain ⟨recordNow, t, -, h1⟩ := Prog.run_perform_bind.mp hr
  obtain ⟨now, t, -, h2⟩ := Prog.run_perform_bind.mp h1
  obtain ⟨-, e⟩ := Prog.run_pure.mp h2
  cases e
  intro r hr
  rcases List.mem_append.mp hr with hr | hr
  · exact .inr (List.mem_of_mem_filter hr)
  · rw [List.mem_singleton.mp hr]
    exact .inl rfl

/-- **The document of an enrollment holds records of its own ids only**: it starts from an empty
    one. -/
theorem enrollmentDocument_ids {o : AdminOptions} {keyPair : ShellKeyPair}
    {tokenSecret expireAt : String} {h : AdminHistory} {document : SecretDocument}
    (hr : Prog.Run (enrollmentDocument o keyPair tokenSecret expireAt) h (.ok document)) :
    ∀ r ∈ document.records, r.id ∈ secretIds o := by
  obtain ⟨created, t, -, h1⟩ := Prog.run_perform_bind.mp hr
  obtain ⟨t₁, t₂, token, -, htoken, h2⟩ := Prog.run_bind_ok h1
  obtain ⟨t₃, t₄, withToken, -, hwith, h3⟩ := Prog.run_bind_ok h2
  obtain ⟨t₅, t₆, shell, -, hshell, h4⟩ := Prog.run_bind_ok h3
  have htid : token.id ∈ secretIds o := by
    rw [makeSecretBase_id htoken]
    exact List.mem_cons_self
  have hsid : shell.id ∈ secretIds o := by
    split at hshell
    · rw [makeSecretBase_id hshell]
      simp [secretIds]
    · rw [makeSecretBase_id hshell]
      simp [secretIds]
  intro r hr
  rcases upsertSecretNow_ids h4 r hr with e | hr
  · rw [e]
    exact hsid
  · rcases upsertSecretNow_ids hwith r hr with e | hr
    · rw [e]
      exact htid
    · cases hr

/-- **An enrollment that succeeds writes once**: what its script replied is read, the document is put
    together and written, and nothing else goes to the store. -/
theorem run_enrollWith {o : AdminOptions} {keyPair : ShellKeyPair} {h : AdminHistory}
    {result : ProvisionedEnrollmentResult} (hr : Prog.Run (enrollWith o keyPair) h (.ok result)) :
    ∃ before after document u, h = before ++ ⟨.storeWrite document, .ok u⟩ :: after ∧
      KeepsStore before ∧ KeepsStore after ∧ ∃ reply expireAt script stdout t t',
        Prog.Run (enrollmentDocument o keyPair reply.value expireAt) t (.ok document) ∧
        t' ⊆ before ∧ Prog.Run (runAdminScript o.bootstrap script) t' (.ok stdout) ∧
        enrollmentReply stdout = .ok reply := by
  obtain ⟨ms, t, rfl, h1⟩ := Prog.run_perform_bind.mp hr
  obtain ⟨t₁, t₂, stdout, rfl, hscript, h2⟩ := Prog.run_bind_ok h1
  obtain ⟨t₃, t₄, parsed, rfl, hparsed, h3⟩ := Prog.run_bind_ok h2
  obtain ⟨text, t₅, rfl, h4⟩ := Prog.run_perform_bind.mp h3
  obtain ⟨t₆, t₇, expireAt, rfl, hexpire, h5⟩ := Prog.run_bind_ok h4
  obtain ⟨t₈, t₉, document, rfl, hdocument, h6⟩ := Prog.run_bind_ok h5
  obtain ⟨written, t₁₀, rfl, h7⟩ := Prog.run_perform_bind.mp h6
  obtain ⟨t₁₁, t₁₂, u, rfl, hwritten, h8⟩ := Prog.run_bind_ok h7
  obtain ⟨t₁₃, t₁₄, v, rfl, htoken, h9⟩ := Prog.run_bind_ok h8
  obtain ⟨t₁₅, t₁₆, w, rfl, hshell, h10⟩ := Prog.run_bind_ok h9
  obtain ⟨rfl, e⟩ := Prog.run_ofExcept.mp hwritten
  obtain ⟨rfl, -⟩ := Prog.run_ofExcept.mp hexpire
  obtain ⟨rfl, hreply⟩ := Prog.run_ofExcept.mp hparsed
  cases written with
  | error m => cases e
  | ok u' =>
    have hvalidated : KeepsStore t₁₅ := by
      split at hshell
      · exact silent_pure.keepsStore hshell
      · exact (silent_validateShellKey o document).keepsStore hshell
    have hafter : KeepsStore (t₁₃ ++ (t₁₅ ++ t₁₆)) :=
      keepsStore_append ((silent_validateApiToken o document).keepsStore htoken)
        (keepsStore_append hvalidated (silent_pure.keepsStore h10))
    have hbefore : KeepsStore (⟨.dateNow, ms⟩ :: (t₁ ++
        ⟨.isoTime (parsed.expire * 1000), text⟩ :: t₈)) := by
      refine List.forall_mem_cons.mpr ⟨rfl, ?_⟩
      refine keepsStore_append ((silent_runAdminScript _ _).keepsStore hscript) ?_
      exact List.forall_mem_cons.mpr ⟨rfl, (silent_enrollmentDocument _ _ _ _).keepsStore hdocument⟩
    refine ⟨_, _, document, u', ?_, hbefore, hafter, parsed, expireAt, _, stdout, t₈, t₁, hdocument,
      ?_, hscript, ?_⟩
    · simp only [List.cons_append, List.append_assoc, List.nil_append]
    · exact fun s hs => List.mem_cons_of_mem _ (List.mem_append_left _ hs)
    · exact Outcome.eq_ok_of_ofExcept hreply

/-- **After an enrollment** the store holds records of its own ids only. -/
theorem enrollWith_records {o : AdminOptions} {keyPair : ShellKeyPair} {h : AdminHistory}
    {result : ProvisionedEnrollmentResult} (records : List SecretRecord)
    (hr : Prog.Run (enrollWith o keyPair) h (.ok result)) :
    ∀ r ∈ recordsAfter records h, r.id ∈ secretIds o := by
  obtain ⟨before, after, document, u, rfl, -, hafter, reply, expireAt, script, stdout, t, t',
    hdocument, -⟩ := run_enrollWith hr
  rw [recordsAfter_write hafter]
  exact enrollmentDocument_ids hdocument

theorem enroll_records {o : AdminOptions} {h : AdminHistory} {result : ProvisionedEnrollmentResult}
    (records : List SecretRecord) (hr : Prog.Run (enroll o) h (.ok result)) :
    ∀ r ∈ recordsAfter records h, r.id ∈ secretIds o := by
  unfold enroll at hr
  split at hr
  · exact enrollWith_records records hr
  · obtain ⟨keyPair, t, rfl, h1⟩ := Prog.run_perform_bind.mp hr
    exact @enrollWith_records o keyPair t result records h1

theorem rotate_records {o : AdminOptions} {h : AdminHistory}
    {result : ProvisionedEnrollmentResult × List String} (records : List SecretRecord)
    (hr : Prog.Run (rotate o) h (.ok result)) :
    ∀ r ∈ recordsAfter records h, r.id ∈ secretIds o := by
  obtain ⟨reply, t, rfl, h1⟩ := Prog.run_perform_bind.mp hr
  obtain ⟨t₁, t₂, current, rfl, hcurrent, h2⟩ := Prog.run_bind_ok h1
  obtain ⟨t₃, t₄, enrollment, rfl, henroll, h3⟩ := Prog.run_bind_ok h2
  obtain ⟨rfl, -⟩ := Prog.run_ofExcept.mp hcurrent
  obtain ⟨rfl, -⟩ := Prog.run_pure.mp h3
  rw [List.append_nil]
  exact @enroll_records o t₃ enrollment records henroll

/-- The test of `deprovision`: no record has one of the ids. -/
theorem noRecord_iff {o : AdminOptions} {document : SecretDocument} :
    ((secretIds o).all fun id => (getSecret document id).isNone) = true ↔
      ∀ r ∈ document.records, r.id ∉ secretIds o := by
  simp only [List.all_eq_true, Option.isNone_iff_eq_none, getSecret, Named.find_eq_none]
  constructor
  · intro h r hr hid
    exact h r.id hid r hr rfl
  · intro h id hid r hr e
    exact h r hr (e ▸ hid)

/-- **A deprovisioning leaves the store as it is or empty**: as it is exactly where no record has
    one of its ids. -/
theorem deprovision_records {o : AdminOptions} {h : AdminHistory} {result : Bool × List String}
    {records : List SecretRecord} (hc : Consistent records h)
    (hr : Prog.Run (deprovision o) h (.ok result)) :
    recordsAfter records h =
      if ∀ r ∈ records, r.id ∉ secretIds o then records else [] := by
  obtain ⟨reply, t, rfl, h1⟩ := Prog.run_perform_bind.mp hr
  obtain ⟨t₁, t₂, document, rfl, hread, h2⟩ := Prog.run_bind_ok h1
  obtain ⟨rfl, e⟩ := Prog.run_ofExcept.mp hread
  cases reply with
  | error m => cases e
  | ok document' =>
    cases e
    have hcurrent : document.records = records := hc.1 _ rfl
    subst hcurrent
    rw [← if_congr noRecord_iff rfl rfl]
    split at h2
    · rename_i hnone
      obtain ⟨rfl, -⟩ := Prog.run_pure.mp h2
      rw [if_pos hnone]
      rfl
    · rename_i hsome
      obtain ⟨t₃, t₄, stdout, rfl, hscript, h3⟩ := Prog.run_bind_ok h2
      obtain ⟨deleted, t₅, rfl, h4⟩ := Prog.run_perform_bind.mp h3
      obtain ⟨t₆, t₇, u, rfl, hdeleted, h5⟩ := Prog.run_bind_ok h4
      obtain ⟨rfl, e⟩ := Prog.run_ofExcept.mp hdeleted
      obtain ⟨rfl, -⟩ := Prog.run_pure.mp h5
      cases deleted with
      | error m => cases e
      | ok u' =>
        rw [if_neg hsome, List.nil_append, recordsAfter, List.foldl_cons, List.foldl_append]
        rfl

/-! ## 4. The frame of an operation -/

/-- What an operation may do to the records: an enrollment and a rotation leave every record of
    another id as it is, and a deprovisioning takes out exactly the records of its ids. -/
def FrameKept (o : AdminOptions) (before after : List SecretRecord) : AdminOperation → Prop
  | .deprovision => ∀ r, r ∈ after ↔ r ∈ before ∧ r.id ∉ secretIds o
  | _ => ∀ r ∈ before, r.id ∉ secretIds o → r ∈ after

/-- No record of another id is in the way. -/
def Alone (o : AdminOptions) (before : List SecretRecord) : AdminOperation → Prop
  | .deprovision => (∀ r ∈ before, r.id ∈ secretIds o) ∨ ∀ r ∈ before, r.id ∉ secretIds o
  | _ => ∀ r ∈ before, r.id ∈ secretIds o

/-- Where only its own ids are left, the frame is kept exactly if there were no others. -/
theorem kept_iff_alone {o : AdminOptions} {before after : List SecretRecord}
    (ha : ∀ r ∈ after, r.id ∈ secretIds o) :
    (∀ r ∈ before, r.id ∉ secretIds o → r ∈ after) ↔ ∀ r ∈ before, r.id ∈ secretIds o := by
  constructor
  · intro h r hr
    by_contra hid
    exact hid (ha r (h r hr hid))
  · intro h r hr hid
    exact absurd (h r hr) hid

/-- **An admin operation that succeeds keeps the frame exactly where the store holds no record of
    another id** (or, for a deprovisioning, none of its own). -/
theorem adminFrame_iff (op : AdminOperation) (o : AdminOptions) (before : List SecretRecord)
    (h : AdminHistory) (hrun : Prog.Run (op.perform o) h (.ok ())) (hc : Consistent before h) :
    FrameKept o before (recordsAfter before h) op ↔ Alone o before op := by
  cases op with
  | enroll =>
    obtain ⟨t₁, t₂, result, rfl, h1, h2⟩ := Prog.run_bind_ok hrun
    obtain ⟨rfl, -⟩ := Prog.run_pure.mp h2
    rw [List.append_nil]
    exact kept_iff_alone (enroll_records before h1)
  | rotate =>
    obtain ⟨t₁, t₂, result, rfl, h1, h2⟩ := Prog.run_bind_ok hrun
    obtain ⟨rfl, -⟩ := Prog.run_pure.mp h2
    rw [List.append_nil]
    exact kept_iff_alone (rotate_records before h1)
  | deprovision =>
    obtain ⟨t₁, t₂, result, rfl, h1, h2⟩ := Prog.run_bind_ok hrun
    obtain ⟨rfl, -⟩ := Prog.run_pure.mp h2
    rw [List.append_nil] at hc ⊢
    rw [deprovision_records hc h1]
    split
    · rename_i hnone
      refine ⟨fun _ => .inr hnone, fun _ r => ?_⟩
      exact ⟨fun hr => ⟨hr, hnone r hr⟩, And.left⟩
    · rename_i hsome
      refine ⟨fun hkept => .inl fun r hr => ?_, fun halone r => ?_⟩
      · by_contra hid
        cases (hkept r).mpr ⟨hr, hid⟩
      · rcases halone with hall | hnone
        · exact ⟨fun hr => (nomatch hr), fun hr => absurd (hall r hr.1) hr.2⟩
        · exact absurd hnone hsome

/-- The record of another cluster. -/
def otherRecord : SecretRecord where
  id := "lab:shell-reference:n1:ops"
  createdAt := "2026-01-01T00:00:00.000Z"
  updatedAt := "2026-01-01T00:00:00.000Z"
  detail := .shell_ssh_reference "ops" "vault"

/-- An enrollment by reference, from root. -/
def referenceOptions : AdminOptions where
  cluster := "prod"
  node := "n1"
  apiUser := "mcp"
  apiRealm := "pve"
  tokenId := "t"
  shellUsername := "mcp"
  shellReference := some "vault"
  bootstrap := { host := "h", username := "root", privateKey := some "k" }
  shellKeyPair := some ⟨"private", "public"⟩

/-- The commands on the host. -/
def AdminEffect.isExec : AdminEffect → Bool
  | .exec .. => true
  | _ => false

/-- What the world answers in the examples: root on the host, the reply of the script, a store that
    holds `records` and takes what it is given. -/
def plainAnswers (records : List SecretRecord) (h : AdminHistory) :
    (e : AdminEffect) → AdminEffect.Reply e
  | .exec .. =>
    let reply := "\x7b\"node\":\"n1\",\"fullTokenId\":\"f\",\"value\":\"v\",\"expire\":9\x7d"
    .ok ⟨if h.any (fun s => s.1.isExec) then reply else "0", "", 0, none⟩
  | .dateNow => 0
  | .nowIso => "2026-01-02T00:00:00.000Z"
  | .isoTime _ => .ok "1970-01-01T00:00:09.000Z"
  | .generateShellKeyPair _ => ⟨"private", "public"⟩
  | .storeRead => .ok ⟨"2026-01-01T00:00:00.000Z", records⟩
  | .storeWrite _ => .ok ()
  | .storeDelete => .ok ()
  | .validateApiToken .. => .ok ()

/-- An enrollment that succeeds loses the record of the other cluster. -/
theorem adminFrame_otherCluster :
    let run := (AdminOperation.enroll.perform referenceOptions).replay
      (plainAnswers [otherRecord]) []
    run.2 = .ok () ∧ Consistent [otherRecord] run.1 ∧
      ¬ FrameKept referenceOptions [otherRecord] (recordsAfter [otherRecord] run.1) .enroll := by
  -- one evaluation of the run
  have hrun : ∀ run, run = (AdminOperation.enroll.perform referenceOptions).replay
      (plainAnswers [otherRecord]) [] → run.2 = .ok () ∧ Consistent [otherRecord] run.1 ∧
        otherRecord ∉ recordsAfter [otherRecord] run.1 := by
    intro run h
    subst h
    decide +kernel
  obtain ⟨hok, hconsistent, hlost⟩ := hrun _ rfl
  exact ⟨hok, hconsistent, fun h => hlost (h otherRecord List.mem_cons_self (by decide))⟩

/-- A deprovisioning whose store holds its own record only. -/
theorem adminFrame_own :
    let own := [{ otherRecord with id := buildApiTokenSecretId referenceOptions }]
    let run := (AdminOperation.deprovision.perform referenceOptions).replay (plainAnswers own) []
    FrameKept referenceOptions own (recordsAfter own run.1) .deprovision := by
  intro own run
  have hok : run.2 = .ok () := by decide +kernel
  have hrun : Prog.Run (AdminOperation.deprovision.perform referenceOptions) run.1 (.ok ()) :=
    hok ▸ Prog.run_replay ..
  exact (adminFrame_iff .deprovision referenceOptions own run.1 hrun (by decide +kernel)).mpr
    (.inl (by decide))

/-! ## 5. Read-only stores -/

/-- A store with `readOnly = true`: what its `read` answers; its `write` and `delete` reject. -/
structure ReadOnlyStore where
  read : Except String SecretDocument

/-- `EnvSecretStore`, over the text of its variable. -/
def EnvSecretStore (now : String) (raw : Option String) : ReadOnlyStore where
  read :=
    match raw with
    | none => .ok (createSecretDocument now)
    | some raw =>
      if trimmed raw = "" then .ok (createSecretDocument now)
      else match Js.parse raw with
        | none => .error "the variable holds no JSON text"
        | some v => match normalizeSecretDocument now v with
          | none => .error "the document does not pass the schema"
          | some document => .ok document

/-- The reply is one of the store's. -/
def ReadOnlyStore.Answered (store : ReadOnlyStore) : (Σ e : AdminEffect, AdminEffect.Reply e) → Prop
  | ⟨.storeRead, reply⟩ => reply = store.read
  | ⟨.storeWrite _, reply⟩ => ∃ m, reply = .error m
  | ⟨.storeDelete, reply⟩ => ∃ m, reply = .error m
  | _ => True

/-- Every effect on the store is answered by this one. -/
def ReadOnlyStore.Answers (store : ReadOnlyStore) (h : AdminHistory) : Prop :=
  ∀ s ∈ h, store.Answered s

/-- A command that ran on the host, whatever its exit code. -/
def commandRan : (Σ e : AdminEffect, AdminEffect.Reply e) → Bool
  | ⟨.exec .., .ok _⟩ => true
  | _ => false

/-- The operation rejects, and no command has run. -/
def RejectsFirst (h : AdminHistory) (result : Outcome String Unit) : Prop :=
  (∃ m, result = .error m) ∧ ∀ s ∈ h, commandRan s = false

/-- A script that the host refuses with a non-zero exit code. -/
theorem runAdminScript_refused (connection : BootstrapConnection) (script : String) :
    ∃ s, commandRan s = true ∧ (∀ store : ReadOnlyStore, store.Answered s) ∧
      Prog.Run (runAdminScript connection script) [s] (.error "refused") := by
  have hexec : Prog.Run (execBootstrapCommand connection "/bin/sh -lc 'id -u'")
      [⟨.exec connection.host (connection.port.getD 22) (adminBootstrapProfile connection)
        "/bin/sh -lc 'id -u'", .ok ⟨"", "refused", 1, none⟩⟩] (.error "refused") :=
    .call _ _ _ _ _ (.fail _)
  refine ⟨_, ?_, ?_, Prog.Run.stop (Prog.Run.stop hexec)⟩
  · rfl
  · exact fun _ => trivial

/-- **An enrollment never rejects first**: its script runs before the store is written. -/
theorem enroll_refused (o : AdminOptions) (store : ReadOnlyStore) :
    ∃ h, store.Answers h ∧ (∃ s ∈ h, commandRan s = true) ∧
      Prog.Run (enroll o) h (.error "refused") := by
  have hwith : ∀ keyPair, ∃ h, store.Answers h ∧ (∃ s ∈ h, commandRan s = true) ∧
      Prog.Run (enrollWith o keyPair) h (.error "refused") := by
    intro keyPair
    obtain ⟨s, hran, hs, hrun⟩ := runAdminScript_refused o.bootstrap
      (buildEnrollmentScript o keyPair.publicKey "enroll" 0)
    refine ⟨[⟨.dateNow, 0⟩, s], ?_, ⟨s, by simp, hran⟩, ?_⟩
    · exact List.forall_mem_cons.mpr ⟨trivial, List.forall_mem_singleton.mpr (hs store)⟩
    · exact Prog.run_perform_bind.mpr ⟨0, _, rfl, Prog.Run.stop hrun⟩
  unfold enroll
  split
  · exact hwith _
  · obtain ⟨h, hs, ⟨s, hmem, hran⟩, hrun⟩ := hwith ⟨"", ""⟩
    refine ⟨⟨.generateShellKeyPair o.shellUsername, ⟨"", ""⟩⟩ :: h, ?_,
      ⟨s, List.mem_cons_of_mem _ hmem, hran⟩, ?_⟩
    · exact List.forall_mem_cons.mpr ⟨trivial, hs⟩
    · exact Prog.run_perform_bind.mpr ⟨_, _, rfl, hrun⟩

/-- Some run of the operation, on this store, does not reject first. -/
def Escapes (store : ReadOnlyStore) (o : AdminOptions) (op : AdminOperation) : Prop :=
  ∃ h result, Prog.Run (op.perform o) h result ∧ store.Answers h ∧ ¬ RejectsFirst h result

/-- A part of the operation that ran a command and failed. -/
theorem escapes_of_ran {store : ReadOnlyStore} {o : AdminOptions} {op : AdminOperation}
    {h : AdminHistory} {result : Outcome String Unit} (hrun : Prog.Run (op.perform o) h result)
    (ha : store.Answers h) (hran : ∃ s ∈ h, commandRan s = true) : Escapes store o op := by
  obtain ⟨s, hs, hran⟩ := hran
  exact ⟨h, result, hrun, ha, fun hfirst => Bool.false_ne_true ((hfirst.2 s hs).symm.trans hran)⟩

theorem escapes_enroll (store : ReadOnlyStore) (o : AdminOptions) : Escapes store o .enroll := by
  obtain ⟨h, ha, hran, hrun⟩ := enroll_refused o store
  exact escapes_of_ran hrun.stop ha hran

/-- A rotation goes on to the enrollment once the store was read. -/
theorem escapes_rotate {store : ReadOnlyStore} {document : SecretDocument}
    (hread : store.read = .ok document) (o : AdminOptions) : Escapes store o .rotate := by
  obtain ⟨h, ha, ⟨s, hs, hran⟩, hrun⟩ := enroll_refused o store
  have hrotate : Prog.Run (rotate o) (⟨.storeRead, .ok document⟩ :: h) (.error "refused") :=
    Prog.run_perform_bind.mpr ⟨.ok document, h, rfl, hrun.stop⟩
  exact escapes_of_ran hrotate.stop (List.forall_mem_cons.mpr ⟨hread.symm, ha⟩)
    ⟨s, List.mem_cons_of_mem _ hs, hran⟩

/-- A deprovisioning that could read the store resolves where there is nothing to delete, and runs
    its script otherwise. -/
theorem escapes_deprovision {store : ReadOnlyStore} {document : SecretDocument}
    (hread : store.read = .ok document) (o : AdminOptions) : Escapes store o .deprovision := by
  have hstore : store.Answers [⟨.storeRead, .ok document⟩] :=
    List.forall_mem_singleton.mpr hread.symm
  by_cases hnone : ((secretIds o).all fun id => (getSecret document id).isNone) = true
  · have hrun : Prog.Run (deprovision o) [⟨.storeRead, .ok document⟩]
        (.ok (false, document.records.map SecretRecord.id)) := by
      refine Prog.run_perform_bind.mpr ⟨.ok document, [], rfl, ?_⟩
      rw [Prog.ofExcept_ok_bind, if_pos hnone]
      exact .pure _
    refine ⟨_, _, hrun.seq (.pure ()), hstore, fun hfirst => ?_⟩
    obtain ⟨m, e⟩ := hfirst.1
    cases e
  · obtain ⟨s, hran, hs, hscript⟩ :=
      runAdminScript_refused o.bootstrap (buildDeprovisionScript o)
    have hrun : Prog.Run (deprovision o) [⟨.storeRead, .ok document⟩, s] (.error "refused") := by
      refine Prog.run_perform_bind.mpr ⟨.ok document, [s], rfl, ?_⟩
      rw [Prog.ofExcept_ok_bind, if_neg hnone]
      exact hscript.stop
    exact escapes_of_ran hrun.stop (List.forall_mem_cons.mpr
      ⟨hread.symm, List.forall_mem_singleton.mpr (hs store)⟩) ⟨s, by simp, hran⟩

/-- An operation that begins with a read rejects first where the read rejects, whatever would have
    followed. -/
theorem rejectsFirst_of_read {α : Type} {store : ReadOnlyStore} {m : String}
    (hread : store.read = .error m) {f : SecretDocument → Admin α} {h : AdminHistory}
    {result : Outcome String Unit}
    (hrun : Prog.Run (do
      let _ ← (do
        let reply ← Prog.perform .storeRead
        let document ← Prog.ofExcept reply
        f document)
      return ()) h result) (ha : store.Answers h) : RejectsFirst h result := by
  obtain ⟨t₁, t₂, o, rfl, hfirst, hrest⟩ := Prog.run_bind.mp hrun
  obtain ⟨reply, t, rfl, h1⟩ := Prog.run_perform_bind.mp hfirst
  have hreply : reply = store.read := ha ⟨.storeRead, reply⟩ List.mem_cons_self
  rw [hreply, hread] at h1
  obtain ⟨rfl, rfl⟩ := Prog.run_throw.mp h1
  obtain ⟨rfl, rfl⟩ := hrest
  exact ⟨⟨m, rfl⟩, List.forall_mem_singleton.mpr rfl⟩

/-- **With a read-only store an operation rejects before any command runs, whatever the host
    answers, exactly if it is a rotation or a deprovisioning and the store cannot even be read.** -/
theorem rejectsFirst_iff (op : AdminOperation) (o : AdminOptions) (store : ReadOnlyStore) :
    (∀ h result, Prog.Run (op.perform o) h result → store.Answers h → RejectsFirst h result) ↔
      op ≠ .enroll ∧ ∃ m, store.read = .error m := by
  constructor
  · intro H
    have hno : ¬ Escapes store o op := by
      intro hparts
      obtain ⟨h, result, hrun, ha, hescape⟩ := hparts
      exact hescape (H h result hrun ha)
    rcases hread : store.read with m | document
    · refine ⟨fun e => ?_, m, rfl⟩
      subst e
      exact hno (escapes_enroll store o)
    · cases op with
      | enroll => exact absurd (escapes_enroll store o) hno
      | rotate => exact absurd (escapes_rotate hread o) hno
      | deprovision => exact absurd (escapes_deprovision hread o) hno
  · intro hparts h result hrun ha
    obtain ⟨hop, m, hread⟩ := hparts
    cases op with
    | enroll => exact absurd rfl hop
    | rotate => exact rejectsFirst_of_read hread hrun ha
    | deprovision => exact rejectsFirst_of_read hread hrun ha

/-- What the world of the examples answers with the store of the environment. -/
def envAnswers (h : AdminHistory) : (e : AdminEffect) → AdminEffect.Reply e
  | .storeRead => (EnvSecretStore "2026-01-01T00:00:00.000Z" none).read
  | .storeWrite _ => .error "EnvSecretStore is read-only"
  | .storeDelete => .error "EnvSecretStore is read-only"
  | e => plainAnswers [] h e

/-- An enrollment into the environment: the script has made the token, and the write rejects. -/
theorem rejectsFirst_environment :
    let store := EnvSecretStore "2026-01-01T00:00:00.000Z" none
    let run := (AdminOperation.enroll.perform referenceOptions).replay envAnswers []
    Prog.Run (AdminOperation.enroll.perform referenceOptions) run.1 run.2 ∧ store.Answers run.1 ∧
      run.2 = .error "EnvSecretStore is read-only" ∧ ∃ s ∈ run.1, commandRan s = true := by
  refine ⟨Prog.run_replay .., fun s hs => ?_, by decide +kernel, by decide +kernel⟩
  obtain ⟨h', e⟩ := Prog.mem_replay hs
  obtain ⟨effect, reply⟩ := s
  cases effect with
  | storeRead => exact e
  | storeWrite document => exact ⟨_, e⟩
  | storeDelete => exact ⟨_, e⟩
  | _ => trivial

end ProxmoxMcp
