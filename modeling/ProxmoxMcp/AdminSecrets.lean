/-
  File:      ProxmoxMcp/AdminSecrets.lean
  Subject:   THE SECRET DOCUMENT OF THE ADMIN TOOL (`admin-secrets.ts`): records, the schema a stored
             document passes, and its shape as JSON.

  A time is the text `nowIso` gives. What a schema reports is left out: a document passes or it
  does not. A record always has metadata, since the schema fills in the missing ones.
-/
import ProxmoxMcp.Lib.Named
import ProxmoxMcp.Lib.Json

namespace ProxmoxMcp

open Js

/-! ## 1. Records and documents -/

/-- What a record holds beyond its base, by its kind. -/
inductive SecretDetail where
  | proxmox_api_token (user realm tokenId secret : String) (comment expireAt : Option String)
  | shell_ssh_key (username privateKey publicKey : String) (passphrase : Option String)
  | shell_ssh_reference (username reference : String)
  deriving DecidableEq, Repr

/-- The kind as the document spells it. -/
def SecretDetail.kind : SecretDetail → String
  | .proxmox_api_token .. => "proxmox_api_token"
  | .shell_ssh_key .. => "shell_ssh_key"
  | .shell_ssh_reference .. => "shell_ssh_reference"

/-- `SecretRecord`. -/
structure SecretRecord where
  id : String
  createdAt : String
  updatedAt : String
  metadata : List (String × Value) := []
  detail : SecretDetail
  deriving DecidableEq

/-- `SecretDocument`; its version is 1. -/
structure SecretDocument where
  updatedAt : String
  records : List SecretRecord := []
  deriving DecidableEq

/-- `createSecretDocument()`. -/
def createSecretDocument (now : String) : SecretDocument where
  updatedAt := now

/-- `getSecret`. -/
def getSecret (document : SecretDocument) (id : String) : Option SecretRecord :=
  Named.find SecretRecord.id id document.records

/-- `upsertSecret`: the record goes to the end, with the time of the write. The clock is read for
    the record and again for the document. -/
def upsertSecret (recordNow now : String) (document : SecretDocument) (record : SecretRecord) :
    SecretDocument where
  updatedAt := now
  records := Named.without SecretRecord.id record.id document.records ++
    [{ record with updatedAt := recordNow }]

/-- `removeSecret`. -/
def removeSecret (now : String) (document : SecretDocument) (id : String) : SecretDocument where
  updatedAt := now
  records := Named.without SecretRecord.id id document.records

/-! ## 2. The schema -/

/-- `z.string().min(1)`. -/
def requiredText (v : Value) : Option String :=
  match v with
  | .str s => if s = "" then none else some s
  | _ => none

/-- `z.string().optional()`. -/
def optionalText (v : Value) : Option (Option String) :=
  match v with
  | .undefined => some none
  | .str s => some (some s)
  | _ => none

/-- `secretMetadataSchema.optional()`: a record of anything, `{}` where it is missing. -/
def parseMetadata (v : Value) : Option (List (String × Value)) :=
  match v with
  | .undefined => some []
  | .obj ps => some (ps.filter fun p => p.1 ≠ "__proto__")
  | _ => none

/-- The part of `secretRecordSchema` that goes by the kind. -/
def parseDetail (v : Value) : Option SecretDetail :=
  if v.get "kind" = .str "proxmox_api_token" then do
    let user ← requiredText (v.get "user")
    let realm ← requiredText (v.get "realm")
    let tokenId ← requiredText (v.get "tokenId")
    let secret ← requiredText (v.get "secret")
    let comment ← optionalText (v.get "comment")
    let expireAt ← optionalText (v.get "expireAt")
    return .proxmox_api_token user realm tokenId secret comment expireAt
  else if v.get "kind" = .str "shell_ssh_key" then do
    let username ← requiredText (v.get "username")
    let privateKey ← requiredText (v.get "privateKey")
    let publicKey ← requiredText (v.get "publicKey")
    let passphrase ← optionalText (v.get "passphrase")
    return .shell_ssh_key username privateKey publicKey passphrase
  else if v.get "kind" = .str "shell_ssh_reference" then do
    let username ← requiredText (v.get "username")
    let reference ← requiredText (v.get "reference")
    return .shell_ssh_reference username reference
  else none

/-- `secretRecordSchema`. -/
def parseRecord (v : Value) : Option SecretRecord := do
  let id ← requiredText (v.get "id")
  let createdAt ← requiredText (v.get "createdAt")
  let updatedAt ← requiredText (v.get "updatedAt")
  let metadata ← parseMetadata (v.get "metadata")
  let detail ← parseDetail v
  return ⟨id, createdAt, updatedAt, metadata, detail⟩

/-- The records of a document, in order. -/
def parseRecords : List Value → Option (List SecretRecord)
  | [] => some []
  | v :: vs => do
      let record ← parseRecord v
      let records ← parseRecords vs
      return record :: records

/-- `secretDocumentSchema`: missing fields get their defaults, and no two records have one id. -/
def parseDocument (now : String) (v : Value) : Option SecretDocument := do
  if v.get "version" ≠ .nat 1 then none
  else
    let updatedAt ← match v.get "updatedAt" with
      | .undefined => some now
      | text => requiredText text
    let records ← match v.get "records" with
      | .undefined => some []
      | .arr vs => parseRecords vs
      | _ => none
    if (records.map SecretRecord.id).Nodup then some ⟨updatedAt, records⟩ else none

/-- `normalizeSecretDocument`. -/
def normalizeSecretDocument (now : String) (v : Value) : Option SecretDocument :=
  match v with
  | .arr vs => parseDocument now (.obj [("version", .nat 1), ("records", .arr vs)])
  | .obj ps =>
      if hasKey "version" ps then parseDocument now (.obj ps)
      else if hasKey "records" ps then parseDocument now (.obj (setKey "version" (.nat 1) ps))
      else some (createSecretDocument now)
  | _ => some (createSecretDocument now)

/-! ## 3. Documents as JSON -/

/-- A field that may be missing. -/
def optionalField (key : String) (text : Option String) : List (String × Value) :=
  (text.map fun s => (key, Value.str s)).toList

/-- The fields of a detail, in the order of the schema. -/
def SecretDetail.fields : SecretDetail → List (String × Value)
  | .proxmox_api_token user realm tokenId secret comment expireAt =>
      [("user", .str user), ("realm", .str realm), ("tokenId", .str tokenId),
        ("secret", .str secret)] ++ optionalField "comment" comment ++
        optionalField "expireAt" expireAt
  | .shell_ssh_key username privateKey publicKey passphrase =>
      [("username", .str username), ("privateKey", .str privateKey),
        ("publicKey", .str publicKey)] ++ optionalField "passphrase" passphrase
  | .shell_ssh_reference username reference =>
      [("username", .str username), ("reference", .str reference)]

/-- A record as the document holds it. -/
def SecretRecord.toValue (record : SecretRecord) : Value :=
  .obj ([("id", .str record.id), ("kind", .str record.detail.kind),
    ("createdAt", .str record.createdAt), ("updatedAt", .str record.updatedAt),
    ("metadata", .obj record.metadata)] ++ record.detail.fields)

/-- `JSON.parse(JSON.stringify(document))`: the document as it is read back. -/
def SecretDocument.toValue (document : SecretDocument) : Value :=
  .obj [("version", .nat 1), ("updatedAt", .str document.updatedAt),
    ("records", .arr (document.records.map SecretRecord.toValue))]

/-- The texts of a detail that the schema wants non-empty. -/
def SecretDetail.required : SecretDetail → List String
  | .proxmox_api_token user realm tokenId secret _ _ => [user, realm, tokenId, secret]
  | .shell_ssh_key username privateKey publicKey _ => [username, privateKey, publicKey]
  | .shell_ssh_reference username reference => [username, reference]

/-- A document the schema passes as it is. -/
structure SecretDocument.Valid (document : SecretDocument) : Prop where
  updatedAt : document.updatedAt ≠ ""
  distinct : Named.Distinct SecretRecord.id document.records
  texts : ∀ record ∈ document.records, ∀ text ∈
    [record.id, record.createdAt, record.updatedAt] ++ record.detail.required, text ≠ ""
  metadata : ∀ record ∈ document.records, ∀ p ∈ record.metadata, p.1 ≠ "__proto__"

theorem requiredText_str {s : String} (h : s ≠ "") : requiredText (.str s) = some s := if_neg h

theorem parseMetadata_obj {ps : List (String × Value)} (h : ∀ p ∈ ps, p.1 ≠ "__proto__") :
    parseMetadata (.obj ps) = some ps := by
  have hf : ps.filter (fun p => p.1 ≠ "__proto__") = ps :=
    List.filter_eq_self.mpr fun p hp => by simpa using h p hp
  rw [parseMetadata, hf]

/-- **The schema reads a record back** from its JSON. -/
theorem parseRecord_toValue {record : SecretRecord}
    (ht : ∀ text ∈ [record.id, record.createdAt, record.updatedAt] ++ record.detail.required,
      text ≠ "") (hm : ∀ p ∈ record.metadata, p.1 ≠ "__proto__") :
    parseRecord record.toValue = some record := by
  obtain ⟨id, createdAt, updatedAt, metadata, detail⟩ := record
  have hmeta := parseMetadata_obj hm
  cases detail with
  | proxmox_api_token user realm tokenId secret comment expireAt =>
      simp only [SecretDetail.required, List.cons_append, List.nil_append, List.mem_cons,
        List.not_mem_nil, or_false, forall_eq_or_imp, forall_eq] at ht
      obtain ⟨h1, h2, h3, h4, h5, h6, h7⟩ := ht
      cases comment <;> cases expireAt <;>
        simp [parseRecord, SecretRecord.toValue, SecretDetail.fields, SecretDetail.kind,
          optionalField, Value.get, lookup, requiredText, optionalText, parseDetail, hmeta, h1, h2,
          h3, h4, h5, h6, h7]
  | shell_ssh_key username privateKey publicKey passphrase =>
      simp only [SecretDetail.required, List.cons_append, List.nil_append, List.mem_cons,
        List.not_mem_nil, or_false, forall_eq_or_imp, forall_eq] at ht
      obtain ⟨h1, h2, h3, h4, h5, h6⟩ := ht
      cases passphrase <;>
        simp [parseRecord, SecretRecord.toValue, SecretDetail.fields, SecretDetail.kind,
          optionalField, Value.get, lookup, requiredText, optionalText, parseDetail, hmeta, h1, h2,
          h3, h4, h5, h6]
  | shell_ssh_reference username reference =>
      simp only [SecretDetail.required, List.cons_append, List.nil_append, List.mem_cons,
        List.not_mem_nil, or_false, forall_eq_or_imp, forall_eq] at ht
      obtain ⟨h1, h2, h3, h4, h5⟩ := ht
      simp [parseRecord, SecretRecord.toValue, SecretDetail.fields, SecretDetail.kind, Value.get,
        lookup, requiredText, parseDetail, hmeta, h1, h2, h3, h4, h5]

theorem parseRecords_map : ∀ {records : List SecretRecord},
    (∀ record ∈ records, parseRecord record.toValue = some record) →
    parseRecords (records.map SecretRecord.toValue) = some records
  | [], _ => rfl
  | record :: records, h => by
      have h1 := h record List.mem_cons_self
      have h2 := parseRecords_map fun r hr => h r (List.mem_cons_of_mem _ hr)
      rw [List.map_cons, parseRecords, h1, h2]
      rfl

/-- **A valid document is read back** from its JSON. -/
theorem normalizeSecretDocument_toValue (now : String) {document : SecretDocument}
    (h : document.Valid) : normalizeSecretDocument now document.toValue = some document := by
  have hrecords := parseRecords_map fun record hr =>
    parseRecord_toValue (h.texts record hr) (h.metadata record hr)
  have hdistinct : (document.records.map SecretRecord.id).Nodup := h.distinct
  simp [normalizeSecretDocument, SecretDocument.toValue, hasKey, parseDocument, Value.get, lookup,
    requiredText, h.updatedAt, hrecords, hdistinct]

end ProxmoxMcp
