/-
  File:      ProxmoxMcp/EnrolledBundle.lean
  Subject:   THE SECRETS OF AN ENROLLMENT AT RUNTIME: the admin stores write (`admin-secrets.ts`)
             what the runtime stores read (`secrets.ts`).

  Both modules keep one document in a file. In Vault the admin tool keeps one document at
  `/v1/<mount>/data/<path>`, and the runtime looks for one of each cluster below
  `/v1/<mount>/<path>`.
-/
import ProxmoxMcp.AdminStore
import ProxmoxMcp.SecretStores

namespace ProxmoxMcp

open Js Effects

/-! ## 1. What a write stores -/

/-- The documents a history wrote. -/
def documentsWritten (h : AdminHistory) : List SecretDocument :=
  h.filterMap fun s => match s with
    | ⟨.storeWrite document, .ok _⟩ => some document
    | _ => none

/-- `secretDocumentSchema.parse(document)`, which every `write` sends. -/
def writtenValue (document : SecretDocument) : Option Value :=
  (parseDocument "" document.toValue).map SecretDocument.toValue

/-- A write that succeeded has passed the schema. -/
def SchemaChecked (h : AdminHistory) : Prop :=
  ∀ document ∈ documentsWritten h, (writtenValue document).isSome

/-- A text that was required is not empty. -/
theorem ne_of_requiredText {s t : String} (h : requiredText (.str s) = some t) : s ≠ "" := by
  intro e
  rw [e] at h
  cases h

/-- What the schema asks of the detail of a record. -/
theorem required_of_parseDetail {record : SecretRecord} {detail : SecretDetail}
    (h : parseDetail record.toValue = some detail) : ∀ text ∈ record.detail.required, text ≠ "" := by
  obtain ⟨id, createdAt, updatedAt, metadata, detail⟩ := record
  cases detail with
  | proxmox_api_token user realm tokenId secret comment expireAt =>
      simp [parseDetail, SecretRecord.toValue, SecretDetail.fields, SecretDetail.kind, Value.get,
        lookup, requiredText, Option.bind_eq_some_iff] at h
      simp [SecretDetail.required, h]
  | shell_ssh_key username privateKey publicKey passphrase =>
      simp [parseDetail, SecretRecord.toValue, SecretDetail.fields, SecretDetail.kind, Value.get,
        lookup, requiredText, Option.bind_eq_some_iff] at h
      simp [SecretDetail.required, h]
  | shell_ssh_reference username reference =>
      simp [parseDetail, SecretRecord.toValue, SecretDetail.fields, SecretDetail.kind, Value.get,
        lookup, requiredText, Option.bind_eq_some_iff] at h
      simp [SecretDetail.required, h]

/-- A record that the schema passes has its texts. -/
theorem texts_of_parseRecord {record record' : SecretRecord}
    (h : parseRecord record.toValue = some record') :
    ∀ text ∈ [record.id, record.createdAt, record.updatedAt] ++ record.detail.required,
      text ≠ "" := by
  simp only [parseRecord, Option.bind_eq_bind, Option.bind_eq_some_iff] at h
  obtain ⟨id, hid, createdAt, hc, updatedAt, hu, metadata, -, detail, hd, -⟩ := h
  intro text ht
  rcases List.mem_append.mp ht with ht | ht
  · simp only [List.mem_cons, List.not_mem_nil, or_false] at ht
    rcases ht with rfl | rfl | rfl
    · exact ne_of_requiredText hid
    · exact ne_of_requiredText hc
    · exact ne_of_requiredText hu
  · exact required_of_parseDetail hd text ht

theorem parse_of_parseRecords : ∀ {records records' : List SecretRecord},
    parseRecords (records.map SecretRecord.toValue) = some records' →
    ∀ record ∈ records, ∃ record', parseRecord record.toValue = some record'
  | [], _, _ => fun r hr => nomatch hr
  | record :: records, records', h => by
      simp only [List.map_cons, parseRecords, Option.bind_eq_bind, Option.bind_eq_some_iff] at h
      obtain ⟨first, hfirst, rest, hrest, -⟩ := h
      intro r hr
      rcases List.mem_cons.mp hr with rfl | hr
      · exact ⟨first, hfirst⟩
      · exact parse_of_parseRecords hrest r hr

/-- **A document that a write stored is valid**, and stored as it is. -/
theorem valid_of_writtenValue {document : SecretDocument} (hs : (writtenValue document).isSome)
    (hd : Named.Distinct SecretRecord.id document.records)
    (hm : ∀ record ∈ document.records, ∀ p ∈ record.metadata, p.1 ≠ "__proto__") :
    document.Valid ∧ writtenValue document = some document.toValue := by
  obtain ⟨value, hvalue⟩ := Option.isSome_iff_exists.mp hs
  rw [writtenValue, Option.map_eq_some_iff] at hvalue
  obtain ⟨parsed, hparsed, -⟩ := hvalue
  have hfields : parseDocument "" document.toValue = (do
      let updatedAt ← requiredText (.str document.updatedAt)
      let records ← parseRecords (document.records.map SecretRecord.toValue)
      if (records.map SecretRecord.id).Nodup then some ⟨updatedAt, records⟩ else none) := rfl
  rw [hfields] at hparsed
  simp only [Option.bind_eq_bind, Option.bind_eq_some_iff] at hparsed
  obtain ⟨updatedAt, hu, records, hr, -⟩ := hparsed
  have hvalid : document.Valid := {
    updatedAt := ne_of_requiredText hu
    distinct := hd
    texts := fun record hmem => by
      obtain ⟨record', hrecord⟩ := parse_of_parseRecords hr record hmem
      exact texts_of_parseRecord hrecord
    metadata := hm }
  have hback : parseDocument "" document.toValue = some document :=
    normalizeSecretDocument_toValue "" hvalid
  exact ⟨hvalid, by rw [writtenValue, hback]; rfl⟩

/-! ## 2. The document of an enrollment -/

/-- What an enrollment without a reference made and got: the key pair, and the secret in the reply
    of its script. -/
structure Enrolled (o : AdminOptions) (h : AdminHistory) (keyPair : ShellKeyPair)
    (tokenSecret : String) : Prop where
  keyPair : o.shellKeyPair = some keyPair ∨
    ⟨.generateShellKeyPair o.shellUsername, keyPair⟩ ∈ h
  secret : ∃ host port profile command result reply,
    (⟨.exec host port profile command, .ok result⟩ : Σ e : AdminEffect, AdminEffect.Reply e) ∈ h ∧
      enrollmentReply (trimmed result.stdout) = .ok reply ∧ reply.value = tokenSecret

/-- The document of an enrollment, with the times it was put together at. -/
def enrolledDocument (o : AdminOptions) (keyPair : ShellKeyPair)
    (tokenSecret expireAt : String) (t₁ t₂ t₃ t₄ t₅ : String) : SecretDocument where
  updatedAt := t₅
  records := [
    { id := buildApiTokenSecretId o
      createdAt := t₁
      updatedAt := t₂
      metadata := [("lifecycle", .str "active"), ("cluster", .str o.cluster), ("node", .str o.node),
        ("purpose", .str "typed-api")]
      detail := .proxmox_api_token o.apiUser o.apiRealm o.tokenId tokenSecret o.tokenComment
        (some expireAt) },
    { id := buildShellKeySecretId o
      createdAt := t₃
      updatedAt := t₄
      metadata := ("lifecycle", .str "active") :: shellMetadata o "high-risk-shell"
      detail := .shell_ssh_key o.shellUsername keyPair.privateKey keyPair.publicKey none }]

/-- The id of a token is none of a shell key. -/
theorem tokenId_ne_shellId (o : AdminOptions) :
    buildApiTokenSecretId o ≠ buildShellKeySecretId o := by
  intro h
  have hlist := congrArg String.toList h
  simp [buildApiTokenSecretId, buildShellKeySecretId] at hlist

/-- **Without a reference the document holds the token and the shell key.** -/
theorem run_enrollmentDocument {o : AdminOptions} {keyPair : ShellKeyPair}
    {tokenSecret expireAt : String} {h : AdminHistory} {document : SecretDocument}
    (href : isPresent o.shellReference = false)
    (hr : Prog.Run (enrollmentDocument o keyPair tokenSecret expireAt) h (.ok document)) :
    ∃ t₁ t₂ t₃ t₄ t₅,
      document = enrolledDocument o keyPair tokenSecret expireAt t₁ t₂ t₃ t₄ t₅ := by
  obtain ⟨created, u₁, -, h1⟩ := Prog.run_perform_bind.mp hr
  obtain ⟨u₂, u₃, token, -, htoken, h2⟩ := Prog.run_bind_ok h1
  obtain ⟨u₄, u₅, withToken, -, hwith, h3⟩ := Prog.run_bind_ok h2
  obtain ⟨u₆, u₇, shell, -, hshell, h4⟩ := Prog.run_bind_ok h3
  rw [if_neg (by simp [href])] at hshell
  obtain ⟨t₁, v₁, -, htoken⟩ := Prog.run_perform_bind.mp htoken
  obtain ⟨-, e₁⟩ := Prog.run_pure.mp htoken
  obtain ⟨t₂, v₂, -, hwith⟩ := Prog.run_perform_bind.mp hwith
  obtain ⟨now, v₃, -, hwith⟩ := Prog.run_perform_bind.mp hwith
  obtain ⟨-, e₂⟩ := Prog.run_pure.mp hwith
  obtain ⟨t₃, v₄, -, hshell⟩ := Prog.run_perform_bind.mp hshell
  obtain ⟨-, e₃⟩ := Prog.run_pure.mp hshell
  obtain ⟨t₄, v₅, -, h4⟩ := Prog.run_perform_bind.mp h4
  obtain ⟨t₅, v₆, -, h4⟩ := Prog.run_perform_bind.mp h4
  obtain ⟨-, e₄⟩ := Prog.run_pure.mp h4
  cases e₁
  cases e₂
  cases e₃
  cases e₄
  refine ⟨t₁, t₂, t₃, t₄, t₅, ?_⟩
  have hids := tokenId_ne_shellId o
  simp [enrolledDocument, upsertSecret, createSecretDocument, Named.without, hids]

/-- What a history wrote, part by part. -/
theorem documentsWritten_append (h h' : AdminHistory) :
    documentsWritten (h ++ h') = documentsWritten h ++ documentsWritten h' :=
  List.filterMap_append

theorem documentsWritten_keepsStore : ∀ {h : AdminHistory}, KeepsStore h → documentsWritten h = []
  | [], _ => rfl
  | ⟨e, r⟩ :: h, hk => by
      have ih := documentsWritten_keepsStore fun s hs => hk s (List.mem_cons_of_mem _ hs)
      have he := hk ⟨e, r⟩ List.mem_cons_self
      cases e with
      | storeWrite document => cases he
      | _ => exact ih

/-- The output of a command on the host. -/
theorem run_execBootstrapCommand {connection : BootstrapConnection} {command stdout : String}
    {h : AdminHistory} (hr : Prog.Run (execBootstrapCommand connection command) h (.ok stdout)) :
    ∃ host port profile command result,
      (⟨.exec host port profile command, .ok result⟩ : Σ e : AdminEffect, AdminEffect.Reply e) ∈ h ∧
        trimmed result.stdout = stdout := by
  obtain ⟨reply, t, rfl, h1⟩ := Prog.run_perform_bind.mp hr
  obtain ⟨t₁, t₂, result, rfl, hreply, h2⟩ := Prog.run_bind_ok h1
  obtain ⟨rfl, e⟩ := Prog.run_ofExcept.mp hreply
  have hok := Outcome.eq_ok_of_ofExcept e
  subst hok
  obtain ⟨-, e'⟩ := Prog.run_ofExcept.mp h2
  have hout := Outcome.eq_ok_of_ofExcept e'
  rw [commandOutput] at hout
  split at hout
  · cases hout
  · exact ⟨_, _, _, _, result, List.mem_cons_self, Except.ok.inj hout⟩

/-- The output of a script is that of its last command. -/
theorem run_runAdminScript {connection : BootstrapConnection} {script stdout : String}
    {h : AdminHistory} (hr : Prog.Run (runAdminScript connection script) h (.ok stdout)) :
    ∃ host port profile command result,
      (⟨.exec host port profile command, .ok result⟩ : Σ e : AdminEffect, AdminEffect.Reply e) ∈ h ∧
        trimmed result.stdout = stdout := by
  obtain ⟨t₁, t₂, mode, rfl, -, h2⟩ := Prog.run_bind_ok hr
  have hlast : ∃ command, Prog.Run (execBootstrapCommand connection command) t₂ (.ok stdout) := by
    rcases mode with _ | password
    · exact ⟨_, h2⟩
    · exact ⟨_, h2⟩
  obtain ⟨command, hexec⟩ := hlast
  obtain ⟨host, port, profile, command, result, hmem, hout⟩ := run_execBootstrapCommand hexec
  exact ⟨host, port, profile, command, result, List.mem_append_right _ hmem, hout⟩

/-- **A successful enrollment without a reference writes the document of what it enrolled.** -/
theorem run_enroll {o : AdminOptions} {h : AdminHistory} {result : ProvisionedEnrollmentResult}
    (href : isPresent o.shellReference = false) (hr : Prog.Run (enroll o) h (.ok result)) :
    ∃ keyPair tokenSecret expireAt t₁ t₂ t₃ t₄ t₅, Enrolled o h keyPair tokenSecret ∧
      documentsWritten h =
        [enrolledDocument o keyPair tokenSecret expireAt t₁ t₂ t₃ t₄ t₅] := by
  have hwith : ∀ {keyPair : ShellKeyPair} {t : AdminHistory},
      Prog.Run (enrollWith o keyPair) t (.ok result) → t ⊆ h →
      (o.shellKeyPair = some keyPair ∨ ⟨.generateShellKeyPair o.shellUsername, keyPair⟩ ∈ h) →
      ∃ tokenSecret expireAt t₁ t₂ t₃ t₄ t₅, Enrolled o h keyPair tokenSecret ∧
        documentsWritten t =
          [enrolledDocument o keyPair tokenSecret expireAt t₁ t₂ t₃ t₄ t₅] := by
    intro keyPair t ht hsub hkey
    obtain ⟨before, after, document, u, rfl, hbefore, hafter, reply, expireAt, script, stdout, u₁,
      u₂, hdocument, hu₂, hscript, hreply⟩ := run_enrollWith ht
    obtain ⟨t₁, t₂, t₃, t₄, t₅, rfl⟩ := run_enrollmentDocument href hdocument
    obtain ⟨host, port, profile, command, out, hmem, hout⟩ := run_runAdminScript hscript
    refine ⟨reply.value, expireAt, t₁, t₂, t₃, t₄, t₅, ⟨hkey, ?_⟩, ?_⟩
    · exact ⟨host, port, profile, command, out, reply,
        hsub (List.mem_append_left _ (hu₂ hmem)), by rw [hout, hreply], rfl⟩
    · rw [documentsWritten_append, documentsWritten_keepsStore hbefore, List.nil_append]
      exact congrArg _ (documentsWritten_keepsStore hafter)
  unfold enroll at hr
  split at hr
  · rename_i keyPair hkey
    exact ⟨keyPair, hwith hr (List.Subset.refl h) (.inl hkey)⟩
  · obtain ⟨keyPair, t, rfl, h1⟩ := Prog.run_perform_bind.mp hr
    have hdone := hwith h1 (List.subset_cons_self _ _) (.inr List.mem_cons_self)
    exact ⟨keyPair, hdone⟩

/-! ## 3. The bundle of the document -/

/-- The bundle that is read of the document of an enrollment. -/
def enrolledBundle (o : AdminOptions) (keyPair : ShellKeyPair)
    (tokenSecret expireAt hostKey t₁ t₃ : String) : RuntimeSecretBundle where
  cluster := o.cluster
  apiToken := some {
    user := o.apiUser
    realm := o.apiRealm
    tokenId := o.tokenId
    secret := tokenSecret
    createdAt := some t₁
    expiresAt := some expireAt }
  shellSsh := some {
    username := o.shellUsername
    privateKey := some keyPair.privateKey
    publicKey := some keyPair.publicKey
    expectedHostKey := hostKey
    hostKeyPolicy := some (.ofText (o.bootstrap.hostKeyPolicy.getD .strict).text)
    createdAt := some t₃ }

/-- **A bundle carries an enrollment**: it is configured for the API and for the shell, and has the
    token, the key pair, the host key and the policy of the enrollment. -/
structure Carries (o : AdminOptions) (keyPair : ShellKeyPair) (tokenSecret hostKey : String)
    (bundle : RuntimeSecretBundle) : Prop where
  api : apiTokenConfigured (some bundle) = true
  shell : shellSecretConfigured (some bundle) = true
  token : ∃ token, bundle.apiToken = some token ∧ token.user = o.apiUser ∧
    token.realm = o.apiRealm ∧ token.tokenId = o.tokenId ∧ token.secret = tokenSecret
  key : ∃ shell, bundle.shellSsh = some shell ∧ shell.username = o.shellUsername ∧
    shell.privateKey = some keyPair.privateKey ∧ shell.publicKey = some keyPair.publicKey ∧
    shell.passphrase = none ∧ shell.expectedHostKey = hostKey ∧
    shell.hostKeyPolicy.map HostKeyPolicy.text =
      some (o.bootstrap.hostKeyPolicy.getD .strict).text

section

variable {o : AdminOptions} {keyPair : ShellKeyPair}
  {tokenSecret expireAt hostKey t₁ t₂ t₃ t₄ t₅ : String}

/-- No record of an enrollment has the one key of the metadata that a schema drops. -/
theorem metadata_enrolledDocument : ∀ record ∈
    (enrolledDocument o keyPair tokenSecret expireAt t₁ t₂ t₃ t₄ t₅).records,
    ∀ p ∈ record.metadata, p.1 ≠ "__proto__" := by
  have hkeys : ∀ record ∈
      (enrolledDocument o keyPair tokenSecret expireAt t₁ t₂ t₃ t₄ t₅).records,
      "__proto__" ∉ record.metadata.map Prod.fst := by
    cases hkey : o.bootstrap.expectedHostKey <;>
      simp [enrolledDocument, shellMetadata, optionalField, hkey]
  intro record hr p hp e
  exact hkeys record hr (e ▸ List.mem_map_of_mem hp)

theorem distinct_enrolledDocument : Named.Distinct SecretRecord.id
    (enrolledDocument o keyPair tokenSecret expireAt t₁ t₂ t₃ t₄ t₅).records := by
  simp [Named.Distinct, enrolledDocument, tokenId_ne_shellId]

/-- **The runtime selects both records** of the document. -/
theorem bundle_enrolledDocument (localeCompare : String → String → Int)
    (hkey : o.bootstrap.expectedHostKey = some hostKey) :
    bundleFromAdminSecretDocument localeCompare
        (enrolledDocument o keyPair tokenSecret expireAt t₁ t₂ t₃ t₄ t₅) o.cluster =
      some (enrolledBundle o keyPair tokenSecret expireAt hostKey t₁ t₃) := by
  have htoken : latestActiveRecord localeCompare
      (enrolledDocument o keyPair tokenSecret expireAt t₁ t₂ t₃ t₄ t₅).records
      "proxmox_api_token" o.cluster =
      (enrolledDocument o keyPair tokenSecret expireAt t₁ t₂ t₃ t₄ t₅).records[0]? := by
    simp [latestActiveRecord, enrolledDocument, isActiveRecord, SecretDetail.kind, lookup]
  have hshell : latestActiveRecord localeCompare
      (enrolledDocument o keyPair tokenSecret expireAt t₁ t₂ t₃ t₄ t₅).records
      "shell_ssh_key" o.cluster =
      (enrolledDocument o keyPair tokenSecret expireAt t₁ t₂ t₃ t₄ t₅).records[1]? := by
    simp [latestActiveRecord, enrolledDocument, isActiveRecord, SecretDetail.kind, lookup,
      shellMetadata]
  rw [bundleFromAdminSecretDocument, htoken, hshell]
  simp [enrolledDocument, apiTokenOf, shellSshOf, storedHostKeyPolicy, shellMetadata, optionalField,
    lookup, hkey, enrolledBundle]

/-- The bundle of a valid document is configured. -/
theorem carries_enrolledBundle (hne : hostKey ≠ "")
    (hvalid : (enrolledDocument o keyPair tokenSecret expireAt t₁ t₂ t₃ t₄ t₅).Valid) :
    Carries o keyPair tokenSecret hostKey
      (enrolledBundle o keyPair tokenSecret expireAt hostKey t₁ t₃) := by
  have htexts := hvalid.texts
  simp only [enrolledDocument, SecretDetail.required, List.mem_cons, List.not_mem_nil, or_false,
    forall_eq_or_imp, forall_eq, List.cons_append, List.nil_append] at htexts
  obtain ⟨⟨-, -, -, huser, hrealm, htoken, hsecret⟩, -, -, -, -, hprivate, -⟩ := htexts
  exact {
    api := by simp [apiTokenConfigured, enrolledBundle, huser, hrealm, htoken, hsecret]
    shell := by simp [shellSecretConfigured, enrolledBundle, isPresent, hprivate, hne]
    token := ⟨_, rfl, rfl, rfl, rfl, rfl⟩
    key := ⟨_, rfl, rfl, rfl, rfl, rfl, rfl, by simp⟩ }

end

/-! ## 4. Both sides of a backend -/

/-- The settings of the admin `VaultSecretStore`. -/
structure AdminVaultConfig where
  baseUrl : VaultAddress
  mountPath : String := "secret"
  secretPath : String := "proxmox-mcp"

/-- `documentUrl`. -/
def AdminVaultConfig.documentUrl (config : AdminVaultConfig) : Url.Parsed :=
  Url.resolvePath config.baseUrl.authority.val.toList ("/v1/".toList ++
    stripSlashes config.mountPath.toList ++ "/data/".toList ++
    config.secretPath.toList.dropWhile (· = '/'))

/-- The runtime pointed at the same location. -/
def AdminVaultConfig.runtime (config : AdminVaultConfig) (kvVersion : KvVersion) : VaultConfig where
  address := config.baseUrl
  secretPath := config.mountPath ++ "/" ++ config.secretPath
  kvVersion := kvVersion

/-- A mutable backend, by what both sides are told of it. -/
inductive EnrollBackend where
  | file
  | vault (config : AdminVaultConfig) (kvVersion : KvVersion)

/-- The file after a history: `write` replaces it. -/
def fileAfter (file : Option Value) (h : AdminHistory) : Option Value :=
  (documentsWritten h).foldl (fun _ document => writtenValue document) file

/-- `write` to Vault, of a document the schema passes. -/
def AdminVaultConfig.write (config : AdminVaultConfig) (engine : Kv.Engine Url.Parsed Value)
    (s : engine.State) (document : SecretDocument) : engine.State :=
  match writtenValue document with
  | none => s
  | some value => engine.put s (requested config.documentUrl) (.obj [("data", value)])

/-- The engine after a history. -/
def vaultAfter (config : AdminVaultConfig) (engine : Kv.Engine Url.Parsed Value) (s : engine.State)
    (h : AdminHistory) : engine.State :=
  (documentsWritten h).foldl (config.write engine) s

/-- What was read is the bundle of the enrollment. -/
def FoundEnrolled (o : AdminOptions) (hostKey : String) (h : AdminHistory)
    (found : Except String Member) : Prop :=
  ∃ keyPair tokenSecret bundle, Enrolled o h keyPair tokenSecret ∧
    found = .ok (.own bundle.toValue) ∧ Carries o keyPair tokenSecret hostKey bundle

/-- After the enrollment the runtime store returns its bundle, whatever the backend held before. -/
def CarriedAfter (localeCompare : String → String → Int) (now : String)
    (engine : Kv.Engine Url.Parsed Value) (o : AdminOptions) (hostKey : String) (h : AdminHistory) :
    EnrollBackend → Prop
  | .file => ∀ file, FoundEnrolled o hostKey h
      ((FileSecretStore localeCompare now).getClusterSecrets (fileAfter file h) o.cluster)
  | .vault config kvVersion => ∀ s, FoundEnrolled o hostKey h
      ((VaultSecretStore localeCompare now engine (config.runtime kvVersion)).getClusterSecrets
        (vaultAfter config engine s h) o.cluster)

/-- **Both sides use one location**: a file, or a Vault of the second version whose two URLs are the
    same. -/
def SameLocation (cluster : String) : EnrollBackend → Prop
  | .file => True
  | .vault config kvVersion => kvVersion = .v2 ∧
      (config.runtime kvVersion).request cluster = .ok (requested config.documentUrl)

theorem not_foundEnrolled_missing {o : AdminOptions} {hostKey : String} {h : AdminHistory} :
    ¬ FoundEnrolled o hostKey h (.ok .missing) := by
  intro hparts
  obtain ⟨keyPair, tokenSecret, bundle, _, e, _⟩ := hparts
  cases e

/-- **What an enrollment wrote reads as its bundle**, wherever it is found. -/
theorem enrolled_value (localeCompare : String → String → Int) (now : String) {o : AdminOptions}
    {hostKey : String} (hkey : o.bootstrap.expectedHostKey = some hostKey) (hne : hostKey ≠ "")
    (href : isPresent o.shellReference = false) {h : AdminHistory}
    {result : ProvisionedEnrollmentResult} (hrun : Prog.Run (enroll o) h (.ok result))
    (hchecked : SchemaChecked h) :
    ∃ document value, documentsWritten h = [document] ∧ writtenValue document = some value ∧
      FoundEnrolled o hostKey h
        (bundleFromUnknownDocument localeCompare now o.cluster value) := by
  obtain ⟨keyPair, tokenSecret, expireAt, t₁, t₂, t₃, t₄, t₅, henrolled, hwritten⟩ :=
    run_enroll href hrun
  have hsome : (writtenValue
      (enrolledDocument o keyPair tokenSecret expireAt t₁ t₂ t₃ t₄ t₅)).isSome :=
    hchecked _ (by rw [hwritten]; exact List.mem_cons_self)
  obtain ⟨hvalid, hvalue⟩ :=
    valid_of_writtenValue hsome distinct_enrolledDocument metadata_enrolledDocument
  have hread := @getClusterSecrets_file localeCompare now (.records ⟨_, hvalid⟩) o.cluster
  rw [Stored.read, bundle_enrolledDocument localeCompare hkey] at hread
  exact ⟨_, _, hwritten, hvalue, keyPair, tokenSecret, _, henrolled, hread,
    carries_enrolledBundle hne hvalid⟩

/-- In Vault the document is found exactly if the two URLs are the same and the engine keeps
    versions. -/
theorem foundEnrolled_vault (localeCompare : String → String → Int) (now : String)
    (engine : Kv.Engine Url.Parsed Value) (config : AdminVaultConfig) (kvVersion : KvVersion)
    {o : AdminOptions} {hostKey : String} {h : AdminHistory} {document : SecretDocument}
    {value : Value} (hwritten : documentsWritten h = [document])
    (hvalue : writtenValue document = some value)
    (hfound : FoundEnrolled o hostKey h
      (bundleFromUnknownDocument localeCompare now o.cluster value)) :
    CarriedAfter localeCompare now engine o hostKey h (.vault config kvVersion) ↔
      SameLocation o.cluster (.vault config kvVersion) := by
  obtain ⟨url, hurl⟩ := exists_request (config.runtime kvVersion) o.cluster
  have hafter : ∀ s, vaultAfter config engine s h =
      engine.put s (requested config.documentUrl) (.obj [("data", value)]) := by
    intro s
    rw [vaultAfter, hwritten, List.foldl_cons, AdminVaultConfig.write, hvalue]
    rfl
  simp only [CarriedAfter, SameLocation, hafter, getClusterSecrets_stored hurl, hurl,
    Except.ok.injEq]
  by_cases hsame : requested config.documentUrl = url
  · simp only [hsame, and_true]
    cases kvVersion with
    | v1 =>
      -- the first version reads the body itself, which has neither records nor clusters
      refine iff_of_false (fun H => not_foundEnrolled_missing (H engine.empty)) ?_
      exact fun hv => nomatch hv
    | v2 => exact iff_of_true (fun _ => hfound) rfl
  · simp only [if_neg hsame, Ne.symm hsame, and_false, iff_false]
    intro H
    have hempty := H engine.empty
    rw [getClusterSecrets_vault hurl, engine.get_empty] at hempty
    exact not_foundEnrolled_missing hempty

/-- **After an enrollment with a host key and without a reference the runtime store returns its
    bundle exactly if both sides use one location.** -/
theorem carriedAfter_iff (localeCompare : String → String → Int) (now : String)
    (engine : Kv.Engine Url.Parsed Value) (backend : EnrollBackend) (o : AdminOptions)
    (hostKey : String) (hkey : o.bootstrap.expectedHostKey = some hostKey) (hne : hostKey ≠ "")
    (href : isPresent o.shellReference = false) (h : AdminHistory)
    (result : ProvisionedEnrollmentResult) (hrun : Prog.Run (enroll o) h (.ok result))
    (hchecked : SchemaChecked h) :
    CarriedAfter localeCompare now engine o hostKey h backend ↔ SameLocation o.cluster backend := by
  obtain ⟨document, value, hwritten, hvalue, hfound⟩ :=
    enrolled_value localeCompare now hkey hne href hrun hchecked
  cases backend with
  | file =>
    refine iff_of_true (fun file => ?_) trivial
    have hafter : fileAfter file h = some value := by
      rw [fileAfter, hwritten]
      exact hvalue
    rw [hafter]
    exact hfound
  | vault config kvVersion =>
    exact foundEnrolled_vault localeCompare now engine config kvVersion hwritten hvalue hfound

/-- An enrollment with a key pair and a host key. -/
def keyOptions : AdminOptions :=
  { referenceOptions with
    shellReference := none
    bootstrap := { referenceOptions.bootstrap with expectedHostKey := some "SHA256:x" } }

/-- The enrollment, as it runs in the world of the examples. -/
def keyRun : AdminHistory × Outcome String ProvisionedEnrollmentResult :=
  (enroll keyOptions).replay (plainAnswers []) []

/-- It ends with a result, and its document passes the schema. -/
theorem keyRun_ends :
    (match keyRun.2 with
      | .ok _ => true
      | _ => false) = true ∧
      ∀ document ∈ documentsWritten keyRun.1, (writtenValue document).isSome := by
  decide +kernel

theorem keyRun_ok : ∃ result, Prog.Run (enroll keyOptions) keyRun.1 (.ok result) := by
  have hrun : Prog.Run (enroll keyOptions) keyRun.1 keyRun.2 := Prog.run_replay ..
  have hok := keyRun_ends.1
  cases he : keyRun.2 with
  | ok result => exact ⟨result, he ▸ hrun⟩
  | error m => rw [he] at hok; cases hok
  | cut => rw [he] at hok; cases hok

theorem keyRun_checked : SchemaChecked keyRun.1 := keyRun_ends.2

/-- The enrollment into a file. -/
theorem carriedAfter_file :
    CarriedAfter (fun _ _ => 0) "" Kv.table keyOptions "SHA256:x" keyRun.1 .file := by
  obtain ⟨result, hrun⟩ := keyRun_ok
  exact (carriedAfter_iff (fun _ _ => 0) "" Kv.table .file keyOptions "SHA256:x" rfl (by decide)
    rfl keyRun.1 result hrun keyRun_checked).mpr trivial

/-- With the defaults of both sides the runtime looks for the document of the enrollment under
    another URL. -/
theorem carriedAfter_defaultVault :
    ¬ CarriedAfter (fun _ _ => 0) "" Kv.table keyOptions "SHA256:x" keyRun.1
      (.vault { baseUrl := defaultVault.address } .v2) := by
  obtain ⟨result, hrun⟩ := keyRun_ok
  obtain ⟨document, value, hwritten, hvalue, hfound⟩ :=
    enrolled_value (fun _ _ => 0) "" rfl (by decide) rfl hrun keyRun_checked
  rw [foundEnrolled_vault _ _ _ _ _ hwritten hvalue hfound]
  intro hloc
  have hsame := hloc.2
  revert hsame
  decide

end ProxmoxMcp
