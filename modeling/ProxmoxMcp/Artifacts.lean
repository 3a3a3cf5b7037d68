/-
  File:      ProxmoxMcp/Artifacts.lean
  Subject:   THE ARTIFACTS (`ArtifactManager`): the records of a process, the temp files behind some of
             them, and the clock by which they expire.

  A call runs to its end before the next one begins. What comes from outside is part of the call:
  the UUID and the temp directory, both new, and what Proxmox answers to a read. A record that has
  expired is dropped by the lookup that meets it, and its file is not.

  * `ArtifactManager.Sound`: what holds in every state;
  * `artifactLaw_iff`: the runs in which no file is left behind.
-/
import ProxmoxMcp.World
import ProxmoxMcp.JobIds
import ProxmoxMcp.Lib.Runs
import ProxmoxMcp.Lib.Utf8
import ProxmoxMcp.Lib.Base64

namespace ProxmoxMcp

open Js Runs

/-! ## 1. Records -/

inductive ArtifactKind where
  | log
  | config
  | cloud_init
  | report
  | export_
  | file
  | binary
  deriving DecidableEq, Repr

inductive ArtifactEncoding where
  | utf8
  | base64
  deriving DecidableEq, Repr

/-- `ArtifactRecord`; the times are in milliseconds. -/
structure ArtifactRecord where
  artifactId : String
  kind : ArtifactKind
  mimeType : String
  backing : ArtifactBacking
  size : Nat
  encoding : ArtifactEncoding
  createdAt : Int
  expiresAt : Option Int
  cleanupPath : Bool := false
  deriving DecidableEq, Repr

/-- `record.uri`. -/
def artifactUri (artifactId : String) : String := "proxmox://artifacts/" ++ artifactId

/-- The name of a backing. -/
def ArtifactBacking.name : ArtifactBacking → String
  | .memory _ => "memory"
  | .temp_file _ => "temp_file"
  | .local_file _ => "local_file"
  | .proxmox_file _ _ => "proxmox_file"

/-- `ArtifactRef`. -/
structure ArtifactRef where
  artifactId : String
  uri : String
  kind : ArtifactKind
  mimeType : String
  backing : String
  size : Nat
  encoding : ArtifactEncoding
  createdAt : Int
  expiresAt : Option Int
  deriving DecidableEq, Repr

/-- `publicRef`. -/
def publicRef (record : ArtifactRecord) : ArtifactRef where
  artifactId := record.artifactId
  uri := artifactUri record.artifactId
  kind := record.kind
  mimeType := record.mimeType
  backing := record.backing.name
  size := record.size
  encoding := record.encoding
  createdAt := record.createdAt
  expiresAt := record.expiresAt

/-! ## 2. The manager -/

/-- `ArtifactManager`, with the clock, the local files, and the temp files that it has written and
    not deleted. -/
structure ArtifactManager where
  now : Int
  files : String → Option (List UInt8)
  artifacts : String → Option ArtifactRecord := fun _ => none
  written : List String := []

def inlineTextThresholdBytes : Nat := 16 * 1024

def inlineBinaryThresholdBytes : Nat := 64 * 1024

def defaultTtlMs : Int := 60 * 60 * 1000

/-- `new Date(ms).toISOString()`, which throws outside the range of dates. -/
def toISOString (ms : Int) : Except String Int :=
  if -8640000000000000 ≤ ms ∧ ms ≤ 8640000000000000 then .ok ms
  else .error "Invalid time value"

/-- `createBaseRecord`. -/
def ArtifactManager.createBaseRecord (m : ArtifactManager) (uuid : String) (kind : ArtifactKind)
    (mimeType : String) (size : Nat) (encoding : ArtifactEncoding) (backing : ArtifactBacking)
    (expiresInMs : Option Int) : Except String ArtifactRecord := do
  let createdAt ← toISOString m.now
  let expiresAt ← if expiresInMs = some 0 then .ok none
    else (toISOString (m.now + expiresInMs.getD defaultTtlMs)).map some
  return { artifactId := makeId "artifact" uuid, kind, mimeType, backing, size, encoding,
           createdAt, expiresAt }

/-- `artifacts.set(record.artifactId, record)`. -/
def ArtifactManager.set (m : ArtifactManager) (record : ArtifactRecord) : ArtifactManager :=
  { m with artifacts := Function.update m.artifacts record.artifactId (some record) }

/-- `artifacts.delete(artifactId)`. -/
def ArtifactManager.delete (m : ArtifactManager) (artifactId : String) : ArtifactManager :=
  { m with artifacts := Function.update m.artifacts artifactId none }

/-- `writeTempFile`, to a path in the directory that `mkdtemp` made. -/
def ArtifactManager.writeTempFile (m : ArtifactManager) (path : String) (data : List UInt8) :
    ArtifactManager :=
  { m with files := Function.update m.files path (some data), written := path :: m.written }

/-- `fs.rm(path, { force: true })`. -/
def ArtifactManager.rm (m : ArtifactManager) (path : String) : ArtifactManager :=
  { m with files := Function.update m.files path none, written := m.written.filter (· ≠ path) }

/-- The options of a creation. -/
structure CreateOptions where
  expiresInMs : Option Int := none
  preferTempFile : Bool := false
  encoding : ArtifactEncoding := .base64

/-- `shouldUseTempFile`. -/
def shouldUseTempFile (options : CreateOptions) (data : List UInt8) : Bool :=
  options.preferTempFile ||
    match options.encoding with
    | .utf8 => inlineTextThresholdBytes < data.length
    | .base64 => inlineBinaryThresholdBytes < data.length

/-- `createBinaryArtifact`. -/
def ArtifactManager.createBinaryArtifact (m : ArtifactManager) (uuid path : String)
    (kind : ArtifactKind) (mimeType : String) (data : List UInt8) (options : CreateOptions) :
    ArtifactManager × Except String ArtifactRef :=
  let useTempFile := shouldUseTempFile options data
  let backing := if useTempFile then .temp_file path else .memory data
  match m.createBaseRecord uuid kind mimeType data.length options.encoding backing
      options.expiresInMs with
  | .error message => (m, .error message)
  | .ok base =>
    let record := { base with cleanupPath := useTempFile }
    let m := if useTempFile then m.writeTempFile path data else m
    (m.set record, .ok (publicRef record))

/-- `createTextArtifact`. -/
def ArtifactManager.createTextArtifact (m : ArtifactManager) (uuid path : String)
    (kind : ArtifactKind) (mimeType : String) (text : List Char) (options : CreateOptions) :
    ArtifactManager × Except String ArtifactRef :=
  m.createBinaryArtifact uuid path kind mimeType (Utf8.encode text)
    { options with encoding := .utf8 }

/-- `linkLocalFile` and `linkProxmoxFile`: a record of a file that exists elsewhere. -/
def ArtifactManager.link (m : ArtifactManager) (uuid : String) (kind : ArtifactKind)
    (mimeType : String) (backing : ArtifactBacking) (size : Nat) (encoding : ArtifactEncoding)
    (expiresInMs : Option Int) : ArtifactManager × Except String ArtifactRef :=
  match m.createBaseRecord uuid kind mimeType size encoding backing expiresInMs with
  | .error message => (m, .error message)
  | .ok record => (m.set record, .ok (publicRef record))

/-- `linkLocalFile`. -/
def ArtifactManager.linkLocalFile (m : ArtifactManager) (uuid : String) (kind : ArtifactKind)
    (mimeType filePath : String) (size : Nat) (encoding : Option ArtifactEncoding)
    (expiresInMs : Option Int) : ArtifactManager × Except String ArtifactRef :=
  m.link uuid kind mimeType (.local_file filePath) size (encoding.getD .base64) expiresInMs

/-- `linkProxmoxFile`. -/
def ArtifactManager.linkProxmoxFile (m : ArtifactManager) (uuid : String) (kind : ArtifactKind)
    (mimeType : String) (target : TargetRef) (filePath : String) (size : Option Nat)
    (encoding : Option ArtifactEncoding) (expiresInMs : Option Int) :
    ArtifactManager × Except String ArtifactRef :=
  m.link uuid kind mimeType (.proxmox_file target filePath) (size.getD 0) (encoding.getD .base64)
    expiresInMs

/-- `record.expiresAt && Date.parse(record.expiresAt) <= Date.now()`. -/
def ArtifactRecord.expired (record : ArtifactRecord) (now : Int) : Bool :=
  match record.expiresAt with
  | some expiresAt => expiresAt ≤ now
  | none => false

/-- `get`. -/
def ArtifactManager.get (m : ArtifactManager) (artifactId : String) :
    ArtifactManager × Except String ArtifactRecord :=
  match m.artifacts artifactId with
  | none => (m, .error s!"Unknown artifact '{artifactId}'")
  | some record =>
    if record.expired m.now then (m.delete artifactId, .error s!"Artifact '{artifactId}' has expired")
    else (m, .ok record)

/-- `remove`. -/
def ArtifactManager.remove (m : ArtifactManager) (artifactId : String) : ArtifactManager :=
  match m.artifacts artifactId with
  | none => m
  | some record =>
    let m := m.delete artifactId
    match record.backing with
    | .temp_file path | .local_file path => if record.cleanupPath then m.rm path else m
    | _ => m

/-! ## 3. Reading -/

/-- A reference to an artifact. -/
structure ArtifactReference where
  artifactId : Option String := none
  resourceUri : Option String := none

/-- `/^proxmox:\/\/artifacts\/([^/?#]+)$/`. -/
def matchResourceUri (uri : List Char) : Option (List Char) :=
  if "proxmox://artifacts/".toList.isPrefixOf uri then
    let rest := uri.drop "proxmox://artifacts/".toList.length
    if rest ≠ [] ∧ rest.all (fun c => c ∉ ['/', '?', '#']) then some rest else none
  else none

/-- `resolveArtifactId`. -/
def resolveArtifactId (reference : ArtifactReference) : Except String String :=
  match reference.artifactId.filter (· ≠ "") with
  | some artifactId => .ok artifactId
  | none =>
    match reference.resourceUri.filter (· ≠ "") with
    | some resourceUri =>
      match matchResourceUri resourceUri.toList with
      | some artifactId => .ok (String.ofList artifactId)
      | none => .error s!"Unsupported artifact resource URI '{resourceUri}'"
    | none => .error "Artifact reference requires artifactId or resourceUri"

/-- What is behind a record; `remote` is what Proxmox answers to the read of a file. -/
def ArtifactManager.readBacking (m : ArtifactManager) (remote : Except String (List UInt8)) :
    ArtifactBacking → Except String (List UInt8)
  | .memory data => .ok data
  | .temp_file path | .local_file path =>
    match m.files path with
    | some data => .ok data
    | none => .error s!"ENOENT: no such file or directory, open '{path}'"
  | .proxmox_file _ _ => remote

/-- `readArtifactBuffer`. -/
def ArtifactManager.readArtifactBuffer (m : ArtifactManager) (reference : ArtifactReference)
    (remote : Except String (List UInt8)) : ArtifactManager × Except String (List UInt8) :=
  match resolveArtifactId reference with
  | .error message => (m, .error message)
  | .ok artifactId =>
    match m.get artifactId with
    | (m, .error message) => (m, .error message)
    | (m, .ok record) => (m, m.readBacking remote record.backing)

/-- `readArtifactText`. -/
def ArtifactManager.readArtifactText (m : ArtifactManager) (reference : ArtifactReference)
    (remote : Except String (List UInt8)) : ArtifactManager × Except String (List Char) :=
  let (m, buffer) := m.readArtifactBuffer reference remote
  (m, buffer.map Utf8.decode)

/-- The contents of a resource: a text, or a blob in base64. -/
inductive ResourceContents where
  | text (uri mimeType : String) (text : List Char)
  | blob (uri mimeType : String) (blob : List Char)
  deriving DecidableEq, Repr

/-- `readResource`. -/
def ArtifactManager.readResource (m : ArtifactManager) (artifactId : String)
    (remote : Except String (List UInt8)) : ArtifactManager × Except String ResourceContents :=
  match m.get artifactId with
  | (m, .error message) => (m, .error message)
  | (m, .ok record) =>
    match m.readArtifactBuffer { artifactId := some artifactId } remote with
    | (m, .error message) => (m, .error message)
    | (m, .ok data) =>
      let uri := artifactUri record.artifactId
      match record.encoding with
      | .utf8 => (m, .ok (.text uri record.mimeType (Utf8.decode data)))
      | .base64 => (m, .ok (.blob uri record.mimeType (Base64.encode data)))

/-- `getPublic`. -/
def ArtifactManager.getPublic (m : ArtifactManager) (artifactId : String) :
    ArtifactManager × Except String ArtifactRef :=
  let (m, record) := m.get artifactId
  (m, record.map publicRef)

/-! ## 4. Calls -/

/-- A call of the manager, with what comes from outside; or the clock goes on. -/
inductive ArtifactCall where
  | createTextArtifact (uuid path : String) (kind : ArtifactKind) (mimeType : String)
      (text : List Char) (options : CreateOptions)
  | createBinaryArtifact (uuid path : String) (kind : ArtifactKind) (mimeType : String)
      (data : List UInt8) (options : CreateOptions)
  | linkLocalFile (uuid : String) (kind : ArtifactKind) (mimeType filePath : String) (size : Nat)
      (encoding : Option ArtifactEncoding) (expiresInMs : Option Int)
  | linkProxmoxFile (uuid : String) (kind : ArtifactKind) (mimeType : String) (target : TargetRef)
      (filePath : String) (size : Option Nat) (encoding : Option ArtifactEncoding)
      (expiresInMs : Option Int)
  | readArtifactBuffer (reference : ArtifactReference) (remote : Except String (List UInt8))
  | readArtifactText (reference : ArtifactReference) (remote : Except String (List UInt8))
  | readResource (artifactId : String) (remote : Except String (List UInt8))
  | getPublic (artifactId : String)
  | remove (artifactId : String)
  | advance (ms : Nat)

/-- What a call returns. -/
inductive ArtifactReply where
  | ref (ref : ArtifactRef)
  | buffer (data : List UInt8)
  | text (text : List Char)
  | resource (contents : ResourceContents)
  | done

/-- What comes from outside is new: the UUID, and the file in the directory of `mkdtemp`. -/
def ArtifactManager.Fresh (m : ArtifactManager) : ArtifactCall → Prop
  | .createTextArtifact uuid path .. | .createBinaryArtifact uuid path .. =>
      m.artifacts (makeId "artifact" uuid) = none ∧ m.files path = none
  | .linkLocalFile uuid .. | .linkProxmoxFile uuid .. =>
      m.artifacts (makeId "artifact" uuid) = none
  | _ => True

instance (m : ArtifactManager) (c : ArtifactCall) : Decidable (m.Fresh c) :=
  match c with
  | .createTextArtifact .. | .createBinaryArtifact .. => inferInstanceAs (Decidable (_ ∧ _))
  | .linkLocalFile .. | .linkProxmoxFile .. => inferInstanceAs (Decidable (_ = _))
  | .readArtifactBuffer .. | .readArtifactText .. | .readResource .. | .getPublic _ | .remove _
  | .advance _ => inferInstanceAs (Decidable True)

/-- The reply of a call, as what it returns. -/
def replied {α : Type} (f : α → ArtifactReply) (r : ArtifactManager × Except String α) :
    ArtifactManager × Except String ArtifactReply := (r.1, r.2.map f)

/-- A call: the manager afterwards, and the reply. -/
def ArtifactManager.perform (m : ArtifactManager) :
    ArtifactCall → ArtifactManager × Except String ArtifactReply
  | .createTextArtifact uuid path kind mimeType text options =>
      replied .ref (m.createTextArtifact uuid path kind mimeType text options)
  | .createBinaryArtifact uuid path kind mimeType data options =>
      replied .ref (m.createBinaryArtifact uuid path kind mimeType data options)
  | .linkLocalFile uuid kind mimeType filePath size encoding expiresInMs =>
      replied .ref (m.linkLocalFile uuid kind mimeType filePath size encoding expiresInMs)
  | .linkProxmoxFile uuid kind mimeType target filePath size encoding expiresInMs =>
      replied .ref (m.linkProxmoxFile uuid kind mimeType target filePath size encoding expiresInMs)
  | .readArtifactBuffer reference remote => replied .buffer (m.readArtifactBuffer reference remote)
  | .readArtifactText reference remote => replied .text (m.readArtifactText reference remote)
  | .readResource artifactId remote => replied .resource (m.readResource artifactId remote)
  | .getPublic artifactId => replied .ref (m.getPublic artifactId)
  | .remove artifactId => (m.remove artifactId, .ok .done)
  | .advance ms => ({ m with now := m.now + ms }, .ok .done)

/-- A step of the manager. -/
def ArtifactManager.step (m : ArtifactManager) (c : ArtifactCall) : Option ArtifactManager :=
  if m.Fresh c then some (m.perform c).1 else none

/-- A new manager: no records, and no file of its own. -/
def ArtifactManager.new (now : Int) (files : String → Option (List UInt8)) : ArtifactManager :=
  { now, files }

/-- The record that a call looks up. -/
def ArtifactCall.looksUp : ArtifactCall → Option String
  | .readArtifactBuffer reference _ | .readArtifactText reference _ =>
      (resolveArtifactId reference).toOption
  | .readResource artifactId _ | .getPublic artifactId => some artifactId
  | _ => none

/-! ## 5. What a call does -/

/-- **What a call does to the records and the files**, by its kind. -/
inductive ArtifactManager.Does (m : ArtifactManager) : ArtifactCall → ArtifactManager → Prop where
  | nothing {c} : m.Does c m
  | advances {ms} : m.Does (.advance ms) { m with now := m.now + ms }
  | adds {c} (record : ArtifactRecord) (fresh : m.artifacts record.artifactId = none)
      (kept : record.cleanupPath = false) (backing : ∀ path, record.backing ≠ .temp_file path) :
      m.Does c (m.set record)
  | writes {c} (record : ArtifactRecord) (path : String) (data : List UInt8)
      (fresh : m.artifacts record.artifactId = none) (new : m.files path = none)
      (owned : record.cleanupPath = true) (backing : record.backing = .temp_file path) :
      m.Does c ((m.writeTempFile path data).set record)
  | drops {c} (artifactId : String) (record : ArtifactRecord) (looked : c.looksUp = some artifactId)
      (present : m.artifacts artifactId = some record) (expired : record.expired m.now = true) :
      m.Does c (m.delete artifactId)
  | removes (artifactId : String) (record : ArtifactRecord)
      (present : m.artifacts artifactId = some record)
      (unowned : record.cleanupPath = false ∨ ∀ path, record.backing ≠ .temp_file path ∧
        record.backing ≠ .local_file path) :
      m.Does (.remove artifactId) (m.delete artifactId)
  | deletes (artifactId path : String) (record : ArtifactRecord)
      (present : m.artifacts artifactId = some record) (owned : record.cleanupPath = true)
      (backing : record.backing = .temp_file path ∨ record.backing = .local_file path) :
      m.Does (.remove artifactId) ((m.delete artifactId).rm path)

theorem createBaseRecord_ok {m : ArtifactManager} {uuid mimeType : String} {kind : ArtifactKind}
    {size : Nat} {encoding : ArtifactEncoding} {backing : ArtifactBacking}
    {expiresInMs : Option Int} {record : ArtifactRecord}
    (h : m.createBaseRecord uuid kind mimeType size encoding backing expiresInMs = .ok record) :
    record.artifactId = makeId "artifact" uuid ∧ record.backing = backing ∧
      record.cleanupPath = false ∧ record.encoding = encoding ∧
        record.expiresAt = (if expiresInMs = some 0 then none
          else some (m.now + expiresInMs.getD defaultTtlMs)) := by
  have hdate : ∀ {ms date : Int}, toISOString ms = .ok date → date = ms := by
    intro ms date hms
    unfold toISOString at hms
    split at hms
    · exact (Except.ok.inj hms).symm
    · cases hms
  unfold ArtifactManager.createBaseRecord at h
  cases hc : toISOString m.now with
  | error message =>
    rw [hc] at h
    cases h
  | ok createdAt =>
    rw [hc] at h
    by_cases hzero : expiresInMs = some 0
    · simp only [hzero, if_pos] at h ⊢
      cases h
      exact ⟨rfl, rfl, rfl, rfl, rfl⟩
    · simp only [if_neg hzero] at h ⊢
      cases he : toISOString (m.now + expiresInMs.getD defaultTtlMs) with
      | error message =>
        rw [he] at h
        cases h
      | ok expiresAt =>
        rw [he] at h
        cases h
        exact ⟨rfl, rfl, rfl, rfl, by rw [hdate he]⟩

/-- **A lookup** finds nothing, drops a record that has expired, or finds one that has not. -/
theorem get_cases (m : ArtifactManager) (artifactId : String) :
    (m.artifacts artifactId = none ∧ ∃ message, m.get artifactId = (m, .error message)) ∨
      (∃ record, m.artifacts artifactId = some record ∧ record.expired m.now = true ∧
        ∃ message, m.get artifactId = (m.delete artifactId, .error message)) ∨
      ∃ record, m.artifacts artifactId = some record ∧ record.expired m.now = false ∧
        m.get artifactId = (m, .ok record) := by
  unfold ArtifactManager.get
  cases hr : m.artifacts artifactId with
  | none => exact .inl ⟨rfl, _, rfl⟩
  | some record =>
    cases he : record.expired m.now with
    | true => exact .inr (.inl ⟨record, rfl, he, _, if_pos he⟩)
    | false => exact .inr (.inr ⟨record, rfl, he, if_neg (by rw [he]; decide)⟩)

theorem does_get {m : ArtifactManager} {c : ArtifactCall} {artifactId : String}
    (h : c.looksUp = some artifactId) : m.Does c (m.get artifactId).1 := by
  rcases get_cases m artifactId with ⟨_, _, hg⟩ | ⟨record, hr, he, _, hg⟩ | ⟨_, _, _, hg⟩
  · rw [hg]
    exact .nothing
  · rw [hg]
    exact .drops artifactId record h hr he
  · rw [hg]
    exact .nothing

/-- A read is the lookup, as for the manager. -/
theorem fst_readArtifactBuffer (m : ArtifactManager) (reference : ArtifactReference)
    (remote : Except String (List UInt8)) :
    (m.readArtifactBuffer reference remote).1 =
      match resolveArtifactId reference with
      | .error _ => m
      | .ok artifactId => (m.get artifactId).1 := by
  unfold ArtifactManager.readArtifactBuffer
  cases resolveArtifactId reference with
  | error message => rfl
  | ok artifactId =>
    rcases hg : m.get artifactId with ⟨m', _ | record⟩
    · simp only [hg]
    · simp only [hg]

theorem fst_readResource (m : ArtifactManager) (artifactId : String)
    (remote : Except String (List UInt8)) :
    (m.readResource artifactId remote).1 = (m.get artifactId).1 := by
  unfold ArtifactManager.readResource
  rcases get_cases m artifactId with ⟨_, _, hg⟩ | ⟨_, _, _, _, hg⟩ | ⟨record, _, _, hg⟩
  · rw [hg]
  · rw [hg]
  · rw [hg]
    -- the second lookup meets the same record
    have hread : (m.readArtifactBuffer { artifactId := some artifactId } remote).1 = m := by
      rw [fst_readArtifactBuffer]
      cases hid : resolveArtifactId { artifactId := some artifactId } with
      | error message => rfl
      | ok id =>
        have hsame : id = artifactId := by
          unfold resolveArtifactId at hid
          rw [Option.filter_some] at hid
          split at hid
          · rename_i h
            split at h
            · exact (Except.ok.inj hid).symm.trans (Option.some.inj h).symm
            · cases h
          · cases hid
        simp only [hsame, hg]
    rcases hb : m.readArtifactBuffer { artifactId := some artifactId } remote with ⟨m', _ | data⟩
    · rw [hb] at hread
      simp only [hb]
      exact hread
    · rw [hb] at hread
      simp only [hb]
      cases record.encoding with
      | utf8 => exact hread
      | base64 => exact hread

theorem does_create {m : ArtifactManager} {c : ArtifactCall} {uuid path mimeType : String}
    {kind : ArtifactKind} {data : List UInt8} {options : CreateOptions}
    (hid : m.artifacts (makeId "artifact" uuid) = none) (hpath : m.files path = none) :
    m.Does c (m.createBinaryArtifact uuid path kind mimeType data options).1 := by
  unfold ArtifactManager.createBinaryArtifact
  dsimp only
  split
  · exact .nothing
  · rename_i base hbase
    obtain ⟨hartifact, hbacking, hcleanup, _⟩ := createBaseRecord_ok hbase
    cases ht : shouldUseTempFile options data with
    | true =>
      rw [ht] at hbacking
      exact .writes { base with cleanupPath := true } path data (by rw [hartifact]; exact hid) hpath
        rfl hbacking
    | false =>
      rw [ht] at hbacking
      refine .adds { base with cleanupPath := false } (by rw [hartifact]; exact hid) rfl ?_
      intro path' he
      rw [hbacking] at he
      cases he

theorem does_link {m : ArtifactManager} {c : ArtifactCall} {uuid mimeType : String}
    {kind : ArtifactKind} {backing : ArtifactBacking} {size : Nat} {encoding : ArtifactEncoding}
    {expiresInMs : Option Int} (hid : m.artifacts (makeId "artifact" uuid) = none)
    (hfile : ∀ path, backing ≠ .temp_file path) :
    m.Does c (m.link uuid kind mimeType backing size encoding expiresInMs).1 := by
  unfold ArtifactManager.link
  split
  · exact .nothing
  · rename_i record hrecord
    obtain ⟨hartifact, hbacking, hcleanup, _⟩ := createBaseRecord_ok hrecord
    refine .adds record (by rw [hartifact]; exact hid) hcleanup ?_
    rw [hbacking]
    exact hfile

theorem does_remove (m : ArtifactManager) (artifactId : String) :
    m.Does (.remove artifactId) (m.remove artifactId) := by
  unfold ArtifactManager.remove
  cases hr : m.artifacts artifactId with
  | none => exact .nothing
  | some record =>
    dsimp only
    have hplain : (∀ path, record.backing ≠ .temp_file path ∧ record.backing ≠ .local_file path) →
        m.Does (.remove artifactId) (m.delete artifactId) :=
      fun h => .removes artifactId record hr (.inr h)
    have hfile : ∀ path, record.backing = .temp_file path ∨ record.backing = .local_file path →
        m.Does (.remove artifactId)
          (if record.cleanupPath then (m.delete artifactId).rm path else m.delete artifactId) := by
      intro path hb
      cases hc : record.cleanupPath with
      | true => exact .deletes artifactId path record hr hc hb
      | false => exact .removes artifactId record hr (.inl hc)
    cases hb : record.backing with
    | memory data => exact hplain fun path => ⟨by rw [hb]; simp, by rw [hb]; simp⟩
    | temp_file path => exact hfile path (.inl hb)
    | local_file path => exact hfile path (.inr hb)
    | proxmox_file target path => exact hplain fun path => ⟨by rw [hb]; simp, by rw [hb]; simp⟩

/-- **A call that looks a record up** changes nothing else. -/
theorem fst_perform {m : ArtifactManager} {c : ArtifactCall} {artifactId : String}
    (h : c.looksUp = some artifactId) : (m.perform c).1 = (m.get artifactId).1 := by
  have hresolve : ∀ {reference : ArtifactReference} {remote : Except String (List UInt8)},
      (resolveArtifactId reference).toOption = some artifactId →
        (m.readArtifactBuffer reference remote).1 = (m.get artifactId).1 := by
    intro reference remote hid
    rw [fst_readArtifactBuffer]
    cases hr : resolveArtifactId reference with
    | error message =>
      rw [hr] at hid
      cases hid
    | ok id =>
      rw [hr] at hid
      rw [← Option.some.inj hid]
  cases c with
  | readArtifactBuffer reference remote => exact hresolve h
  | readArtifactText reference remote => exact hresolve h
  | readResource id remote =>
    cases h
    exact fst_readResource m artifactId remote
  | getPublic id =>
    cases h
    rfl
  | _ => cases h

/-- **Every call does one of these.** -/
theorem does_perform {m : ArtifactManager} {c : ArtifactCall} (h : m.Fresh c) :
    m.Does c (m.perform c).1 := by
  cases hc : c.looksUp with
  | some artifactId =>
    rw [fst_perform hc]
    exact does_get hc
  | none =>
    cases c with
    | createTextArtifact uuid path kind mimeType text options => exact does_create h.1 h.2
    | createBinaryArtifact uuid path kind mimeType data options => exact does_create h.1 h.2
    | linkLocalFile => exact does_link h fun _ e => nomatch e
    | linkProxmoxFile => exact does_link h fun _ e => nomatch e
    | readArtifactBuffer reference remote =>
      have hfst := fst_readArtifactBuffer m reference remote
      cases hr : resolveArtifactId reference with
      | error message =>
        rw [hr] at hfst
        show m.Does _ (m.readArtifactBuffer reference remote).1
        rw [hfst]
        exact .nothing
      | ok id =>
        rw [ArtifactCall.looksUp, hr] at hc
        cases hc
    | readArtifactText reference remote =>
      have hfst := fst_readArtifactBuffer m reference remote
      cases hr : resolveArtifactId reference with
      | error message =>
        rw [hr] at hfst
        show m.Does _ (m.readArtifactBuffer reference remote).1
        rw [hfst]
        exact .nothing
      | ok id =>
        rw [ArtifactCall.looksUp, hr] at hc
        cases hc
    | remove artifactId => exact does_remove m artifactId
    | advance ms => exact .advances
    | _ => cases hc

/-- **What a step does.** -/
theorem step_does {m m' : ArtifactManager} {c : ArtifactCall} (h : m.step c = some m') :
    m.Does c m' := by
  unfold ArtifactManager.step at h
  split at h
  · rename_i hfresh
    cases h
    exact does_perform hfresh
  · cases h

/-! ## 6. What holds in every state -/

theorem artifacts_set (m : ArtifactManager) (record : ArtifactRecord) (artifactId : String) :
    (m.set record).artifacts artifactId =
      if artifactId = record.artifactId then some record else m.artifacts artifactId :=
  Function.update_apply ..

theorem artifacts_delete (m : ArtifactManager) (artifactId id : String) :
    (m.delete artifactId).artifacts id = if id = artifactId then none else m.artifacts id :=
  Function.update_apply ..

theorem set_eq_some {m : ArtifactManager} {record r : ArtifactRecord} {artifactId : String}
    (h : (m.set record).artifacts artifactId = some r) :
    (artifactId = record.artifactId ∧ r = record) ∨ m.artifacts artifactId = some r := by
  by_cases he : artifactId = record.artifactId
  · rw [artifacts_set, if_pos he] at h
    exact .inl ⟨he, (Option.some.inj h).symm⟩
  · rw [artifacts_set, if_neg he] at h
    exact .inr h

theorem delete_eq_some {m : ArtifactManager} {artifactId id : String} {r : ArtifactRecord} :
    (m.delete artifactId).artifacts id = some r ↔ id ≠ artifactId ∧ m.artifacts id = some r := by
  rw [artifacts_delete]
  split
  · rename_i he
    exact iff_of_false (fun h => nomatch h) fun h => h.1 he
  · rename_i he
    exact (and_iff_right he).symm

theorem set_self (m : ArtifactManager) (record : ArtifactRecord) :
    (m.set record).artifacts record.artifactId = some record := by
  rw [artifacts_set, if_pos rfl]

theorem set_of_some {m : ArtifactManager} {record r : ArtifactRecord} {id : String}
    (hfresh : m.artifacts record.artifactId = none) (h : m.artifacts id = some r) :
    (m.set record).artifacts id = some r := by
  have hne : id ≠ record.artifactId := by
    intro e
    rw [e, hfresh] at h
    cases h
  rw [artifacts_set, if_neg hne]
  exact h

/-- The path of the temp file behind a record. -/
def ArtifactManager.Backs (m : ArtifactManager) (artifactId path : String) : Prop :=
  ∃ record, m.artifacts artifactId = some record ∧ record.backing = .temp_file path

/-- **What holds in every state**: the records with temp files, and only these, clean up; their
    files are there, written by the manager, and all different. -/
structure ArtifactManager.Sound (m : ArtifactManager) : Prop where
  cleanup : ∀ id record, m.artifacts id = some record →
    (record.cleanupPath = true ↔ ∃ path, record.backing = .temp_file path)
  present : ∀ path ∈ m.written, m.files path ≠ none
  held : ∀ id path, m.Backs id path → path ∈ m.written
  distinct : ∀ id id' path, m.Backs id path → m.Backs id' path → id = id'

/-- **The temp files that were written and not deleted are those of the records**, each of one
    record. -/
structure ArtifactManager.Owned (m : ArtifactManager) : Prop where
  files : ∀ path, path ∈ m.written ↔ ∃ id, m.Backs id path
  distinct : ∀ id id' path, m.Backs id path → m.Backs id' path → id = id'

/-- A lookup that drops a record with its temp file left behind. -/
def ArtifactManager.Strands (m : ArtifactManager) (c : ArtifactCall) : Prop :=
  ∃ artifactId record path, c.looksUp = some artifactId ∧ m.artifacts artifactId = some record ∧
    record.expired m.now = true ∧ record.backing = .temp_file path

theorem sound_new (now : Int) (files : String → Option (List UInt8)) :
    (ArtifactManager.new now files).Sound where
  cleanup := fun _ _ h => nomatch h
  present := fun _ h => nomatch h
  held := fun _ _ ⟨_, h, _⟩ => nomatch h
  distinct := fun _ _ _ ⟨_, h, _⟩ => nomatch h

theorem owned_new (now : Int) (files : String → Option (List UInt8)) :
    (ArtifactManager.new now files).Owned where
  files := fun _ => ⟨fun h => (nomatch h), fun ⟨_, _, h, _⟩ => nomatch h⟩
  distinct := fun _ _ _ ⟨_, h, _⟩ => nomatch h

section Backs

variable {m : ArtifactManager} {id path : String}

theorem backs_delete {artifactId : String} :
    (m.delete artifactId).Backs id path ↔ id ≠ artifactId ∧ m.Backs id path := by
  constructor
  · intro hparts
    obtain ⟨r, hr, hb⟩ := hparts
    have h := delete_eq_some.mp hr
    exact ⟨h.1, r, h.2, hb⟩
  · intro hparts
    obtain ⟨hne, r, hr, hb⟩ := hparts
    exact ⟨r, delete_eq_some.mpr ⟨hne, hr⟩, hb⟩

/-- A record without a temp file adds none. -/
theorem backs_add {record : ArtifactRecord} (hfresh : m.artifacts record.artifactId = none)
    (hbacking : ∀ path, record.backing ≠ .temp_file path) :
    (m.set record).Backs id path ↔ m.Backs id path := by
  constructor
  · intro hparts
    obtain ⟨r, hr, hb⟩ := hparts
    rcases set_eq_some hr with ⟨_, e⟩ | hr
    · exact absurd (e ▸ hb) (hbacking path)
    · exact ⟨r, hr, hb⟩
  · intro hparts
    obtain ⟨r, hr, hb⟩ := hparts
    exact ⟨r, set_of_some hfresh hr, hb⟩

/-- A record with a temp file adds this one. -/
theorem backs_write {record : ArtifactRecord} {path' : String} {data : List UInt8}
    (hfresh : m.artifacts record.artifactId = none) (hbacking : record.backing = .temp_file path') :
    ((m.writeTempFile path' data).set record).Backs id path ↔
      (id = record.artifactId ∧ path = path') ∨ m.Backs id path := by
  constructor
  · intro hparts
    obtain ⟨r, hr, hb⟩ := hparts
    rcases set_eq_some hr with ⟨hid, e⟩ | hr
    · rw [e, hbacking] at hb
      exact .inl ⟨hid, (ArtifactBacking.temp_file.inj hb).symm⟩
    · exact .inr ⟨r, hr, hb⟩
  · intro h
    rcases h with ⟨hid, hp⟩ | ⟨r, hr, hb⟩
    · rw [hid, hp]
      exact ⟨record, set_self _ _, hbacking⟩
    · exact ⟨r, set_of_some (m := m.writeTempFile path' data) hfresh hr, hb⟩

end Backs

theorem sound_delete {m : ArtifactManager} (hs : m.Sound) (artifactId : String) :
    (m.delete artifactId).Sound where
  cleanup := fun id r hr => hs.cleanup id r (delete_eq_some.mp hr).2
  present := hs.present
  held := fun id path hb => hs.held id path (backs_delete.mp hb).2
  distinct := fun id id' path hb hb' =>
    hs.distinct id id' path (backs_delete.mp hb).2 (backs_delete.mp hb').2

/-- A record that cleans up has a temp file. -/
theorem backs_of_cleanup {m : ArtifactManager} {artifactId path : String} {record : ArtifactRecord}
    (hs : m.Sound) (hr : m.artifacts artifactId = some record) (hc : record.cleanupPath = true)
    (hb : record.backing = .temp_file path ∨ record.backing = .local_file path) :
    m.Backs artifactId path := by
  rcases hb with hb | hb
  · exact ⟨record, hr, hb⟩
  · obtain ⟨path', hb'⟩ := (hs.cleanup artifactId record hr).mp hc
    rw [hb] at hb'
    cases hb'

theorem files_rm (m : ArtifactManager) (path p : String) :
    (m.rm path).files p = if p = path then none else m.files p := Function.update_apply ..

/-- **What holds in every state is kept by every step.** -/
theorem sound_does {m m' : ArtifactManager} {c : ArtifactCall} (hs : m.Sound) (h : m.Does c m') :
    m'.Sound := by
  cases h with
  | nothing => exact hs
  | advances => exact ⟨hs.cleanup, hs.present, hs.held, hs.distinct⟩
  | adds record hfresh hkept hbacking =>
    refine ⟨fun id r hr => ?_, hs.present, fun id path hb => ?_, fun id id' path hb hb' => ?_⟩
    · rcases set_eq_some hr with ⟨_, e⟩ | hr
      · rw [e, hkept]
        exact iff_of_false Bool.false_ne_true fun ⟨path, hb⟩ => hbacking path hb
      · exact hs.cleanup id r hr
    · exact hs.held id path ((backs_add hfresh hbacking).mp hb)
    · exact hs.distinct id id' path ((backs_add hfresh hbacking).mp hb)
        ((backs_add hfresh hbacking).mp hb')
  | writes record path data hfresh hnew howned hbacking =>
    -- a file that was written before is another one
    have hother : ∀ {id p}, m.Backs id p → p ≠ path := by
      intro id p hb e
      exact hs.present p (hs.held id p hb) (e ▸ hnew)
    refine ⟨fun id r hr => ?_, fun p hp => ?_, fun id p hb => ?_, fun id id' p hb hb' => ?_⟩
    · rcases set_eq_some hr with ⟨_, e⟩ | hr
      · rw [e, howned]
        exact iff_of_true rfl ⟨path, hbacking⟩
      · exact hs.cleanup id r hr
    · show Function.update m.files path (some data) p ≠ none
      by_cases he : p = path
      · rw [he, Function.update_self]
        exact Option.some_ne_none _
      · rw [Function.update_of_ne he]
        rcases List.mem_cons.mp hp with hp | hp
        · exact absurd hp he
        · exact hs.present p hp
    · rcases (backs_write hfresh hbacking).mp hb with ⟨_, hp⟩ | hb
      · rw [hp]
        exact List.mem_cons_self
      · exact List.mem_cons_of_mem _ (hs.held id p hb)
    · rcases (backs_write hfresh hbacking).mp hb with ⟨hid, hp⟩ | hb
      · rcases (backs_write hfresh hbacking).mp hb' with ⟨hid', _⟩ | hb'
        · rw [hid, hid']
        · exact absurd hp (hother hb')
      · rcases (backs_write hfresh hbacking).mp hb' with ⟨_, hp⟩ | hb'
        · exact absurd hp (hother hb)
        · exact hs.distinct id id' p hb hb'
  | drops artifactId record _ _ _ => exact sound_delete hs artifactId
  | removes artifactId record _ _ => exact sound_delete hs artifactId
  | deletes artifactId path record hr howned hbacking =>
    have hbacks := backs_of_cleanup hs hr howned hbacking
    have hne : ∀ {id p}, id ≠ artifactId → m.Backs id p → p ≠ path := by
      intro id p hid hb e
      exact hid (hs.distinct id artifactId path (e ▸ hb) hbacks)
    refine ⟨fun id r hr => ?_, fun p hp => ?_, fun id p hb => ?_, fun id id' p hb hb' => ?_⟩
    · exact hs.cleanup id r (delete_eq_some.mp hr).2
    · rw [ArtifactManager.rm, List.mem_filter, decide_eq_true_eq] at hp
      rw [files_rm, if_neg hp.2]
      exact hs.present p hp.1
    · have hb := backs_delete.mp hb
      rw [ArtifactManager.rm, List.mem_filter, decide_eq_true_eq]
      exact ⟨hs.held id p hb.2, hne hb.1 hb.2⟩
    · exact hs.distinct id id' p (backs_delete.mp hb).2 (backs_delete.mp hb').2

/-- **Without a file left behind**, the files stay those of the records. -/
theorem owned_does {m m' : ArtifactManager} {c : ArtifactCall} (hs : m.Sound) (ho : m.Owned)
    (hn : ¬ m.Strands c) (h : m.Does c m') : m'.Owned := by
  have hs' := sound_does hs h
  refine ⟨fun p => ⟨fun hp => ?_, fun ⟨id, hb⟩ => hs'.held id p hb⟩, hs'.distinct⟩
  -- a record that is dropped without its file has none
  have hdelete : ∀ {artifactId : String} {record : ArtifactRecord},
      m.artifacts artifactId = some record → (∀ path, record.backing ≠ .temp_file path) →
        p ∈ m.written → ∃ id, (m.delete artifactId).Backs id p := by
    intro artifactId record hr hbacking hp
    obtain ⟨id, hb⟩ := (ho.files p).mp hp
    refine ⟨id, backs_delete.mpr ⟨fun e => ?_, hb⟩⟩
    obtain ⟨r, hr', hb⟩ := hb
    rw [e, hr] at hr'
    exact hbacking p (Option.some.inj hr' ▸ hb)
  cases h with
  | nothing => exact (ho.files p).mp hp
  | advances => exact (ho.files p).mp hp
  | adds record hfresh hkept hbacking =>
    obtain ⟨id, hb⟩ := (ho.files p).mp hp
    exact ⟨id, (backs_add hfresh hbacking).mpr hb⟩
  | writes record path data hfresh hnew howned hbacking =>
    rcases List.mem_cons.mp hp with hp | hp
    · exact ⟨record.artifactId, (backs_write hfresh hbacking).mpr (.inl ⟨rfl, hp⟩)⟩
    · obtain ⟨id, hb⟩ := (ho.files p).mp hp
      exact ⟨id, (backs_write hfresh hbacking).mpr (.inr hb)⟩
  | drops artifactId record hlooked hr hexpired =>
    exact hdelete hr (fun path hb => hn ⟨artifactId, record, path, hlooked, hr, hexpired, hb⟩) hp
  | removes artifactId record hr hunowned =>
    refine hdelete hr (fun path hb => ?_) hp
    rcases hunowned with hc | hb'
    · rw [(hs.cleanup artifactId record hr).mpr ⟨path, hb⟩] at hc
      cases hc
    · exact (hb' path).1 hb
  | deletes artifactId path record hr howned hbacking =>
    rw [ArtifactManager.rm, List.mem_filter, decide_eq_true_eq] at hp
    obtain ⟨id, hb⟩ := (ho.files p).mp hp.1
    refine ⟨id, backs_delete.mpr ⟨fun e => ?_, hb⟩⟩
    obtain ⟨r, hr', hb⟩ := hb
    obtain ⟨r', hr'', hb'⟩ := backs_of_cleanup hs hr howned hbacking
    rw [e, hr''] at hr'
    rw [← Option.some.inj hr', hb'] at hb
    exact hp.2 (ArtifactBacking.temp_file.inj hb).symm

/-! ## 7. The law of the artifacts -/

/-- What a call keeps to: it reads no record that has expired, and a file that it deletes is one that
    the manager wrote. -/
structure CallLaw (m : ArtifactManager) (c : ArtifactCall) : Prop where
  unexpired : ∀ artifactId reply, c.looksUp = some artifactId → (m.perform c).2 = .ok reply →
    ∃ record, m.artifacts artifactId = some record ∧ record.expired m.now = false
  deletes : ∀ path, m.files path ≠ none → (m.perform c).1.files path = none → path ∈ m.written

/-- In every state of the run the temp files are those of the records, and every call keeps to its
    law. -/
structure ArtifactLaw (now : Int) (files : String → Option (List UInt8))
    (calls : List ArtifactCall) : Prop where
  states : ∀ before after m, calls = before ++ after →
    run ArtifactManager.step (.new now files) before = some m → m.Owned
  calls : ∀ before c after m, calls = before ++ c :: after →
    run ArtifactManager.step (.new now files) before = some m → m.Fresh c → CallLaw m c

/-- Where the lookup throws, the call does. -/
theorem snd_perform_error {m m' : ArtifactManager} {c : ArtifactCall} {artifactId message : String}
    (h : c.looksUp = some artifactId) (hg : m.get artifactId = (m', .error message)) :
    (m.perform c).2 = .error message := by
  have hread : ∀ {reference : ArtifactReference} {remote : Except String (List UInt8)},
      (resolveArtifactId reference).toOption = some artifactId →
        m.readArtifactBuffer reference remote = (m', .error message) := by
    intro reference remote hid
    unfold ArtifactManager.readArtifactBuffer
    cases hr : resolveArtifactId reference with
    | error message =>
      rw [hr] at hid
      cases hid
    | ok id =>
      rw [hr] at hid
      have hsame : id = artifactId := Option.some.inj hid
      simp only [hsame, hg]
  cases c with
  | readArtifactBuffer reference remote =>
    show (replied _ (m.readArtifactBuffer reference remote)).2 = _
    rw [hread h]
    rfl
  | readArtifactText reference remote =>
    show (replied _ (m.readArtifactText reference remote)).2 = _
    rw [ArtifactManager.readArtifactText, hread h]
    rfl
  | readResource id remote =>
    cases h
    show (replied _ (m.readResource artifactId remote)).2 = _
    rw [ArtifactManager.readResource, hg]
    rfl
  | getPublic id =>
    cases h
    show (replied _ (m.getPublic artifactId)).2 = _
    rw [ArtifactManager.getPublic, hg]
    rfl
  | _ => cases h

/-- **Every call keeps to its law.** -/
theorem callLaw_of_sound {m : ArtifactManager} {c : ArtifactCall} (hs : m.Sound)
    (hfresh : m.Fresh c) : CallLaw m c := by
  constructor
  · intro artifactId reply hlooked hreply
    have herror : ∀ {m' message}, m.get artifactId ≠ (m', .error message) := by
      intro m' message hg
      rw [snd_perform_error hlooked hg] at hreply
      cases hreply
    rcases get_cases m artifactId with ⟨_, _, hg⟩ | ⟨_, _, _, _, hg⟩ | ⟨record, hr, he, _⟩
    · exact absurd hg herror
    · exact absurd hg herror
    · exact ⟨record, hr, he⟩
  · intro path hthere hgone
    have hdoes := does_perform hfresh
    generalize (m.perform c).1 = m' at hdoes hgone
    cases hdoes with
    | nothing => exact absurd hgone hthere
    | advances => exact absurd hgone hthere
    | adds => exact absurd hgone hthere
    | writes record path' data =>
      have hfile : Function.update m.files path' (some data) path = none := hgone
      rw [Function.update_apply] at hfile
      split at hfile
      · cases hfile
      · exact absurd hfile hthere
    | drops => exact absurd hgone hthere
    | removes => exact absurd hgone hthere
    | deletes artifactId path' record hr howned hbacking =>
      rw [files_rm] at hgone
      split at hgone
      · rename_i he
        rw [he]
        exact hs.held artifactId path' (backs_of_cleanup hs hr howned hbacking)
      · exact absurd hgone hthere

/-- **A lookup that drops a record leaves its temp file behind.** -/
theorem not_owned_of_strands {m : ArtifactManager} {c : ArtifactCall} (ho : m.Owned)
    (h : m.Strands c) : m.step c = some (m.perform c).1 ∧ ¬ (m.perform c).1.Owned := by
  obtain ⟨artifactId, record, path, hlooked, hr, hexpired, hb⟩ := h
  have hfresh : m.Fresh c := by
    cases c <;> first | exact True.intro | cases hlooked
  refine ⟨if_pos hfresh, fun ho' => ?_⟩
  have hdelete : (m.perform c).1 = m.delete artifactId := by
    rw [fst_perform hlooked]
    rcases get_cases m artifactId with ⟨hnone, _⟩ | ⟨_, _, _, _, hg⟩ | ⟨_, hr', he, _⟩
    · rw [hnone] at hr
      cases hr
    · rw [hg]
    · rw [hr, Option.some_inj] at hr'
      rw [← hr', hexpired] at he
      cases he
  rw [hdelete] at ho'
  obtain ⟨id, hb'⟩ := (ho'.files path).mp ((ho.files path).mpr ⟨artifactId, record, hr, hb⟩)
  have hother := backs_delete.mp hb'
  exact hother.1 (ho.distinct id artifactId path hother.2 ⟨record, hr, hb⟩)

/-- **The law of the artifacts**, exactly: in a run the temp files are those of the records if no
    lookup meets a record with a temp file that has expired. -/
theorem artifactLaw_iff (now : Int) (files : String → Option (List UInt8))
    (calls : List ArtifactCall) :
    ArtifactLaw now files calls ↔
      Along ArtifactManager.step (fun m c => ¬ m.Strands c) (.new now files) calls := by
  constructor
  · intro h
    refine along_of_at fun before c after m hcalls hrun hstrands => ?_
    have ho := h.states before (c :: after) m hcalls hrun
    obtain ⟨hstep, hnot⟩ := not_owned_of_strands ho hstrands
    refine hnot (h.states (before ++ [c]) after _ ?_ (run_concat.mpr ⟨m, hrun, hstep⟩))
    rw [hcalls, List.append_assoc]
    rfl
  · intro h
    constructor
    · intro before after m hcalls hrun
      rw [hcalls] at h
      have hkept : ∀ {m c m'}, m.Sound ∧ m.Owned → ¬ m.Strands c →
          ArtifactManager.step m c = some m' → m'.Sound ∧ m'.Owned := fun hs hn hstep =>
        ⟨sound_does hs.1 (step_does hstep), owned_does hs.1 hs.2 hn (step_does hstep)⟩
      exact (invariant_along (P := fun m => m.Sound ∧ m.Owned) hkept
        ⟨sound_new now files, owned_new now files⟩ (along_of_append h) hrun).2
    · intro before c after m _ hrun hfresh
      have hs := invariant (P := ArtifactManager.Sound)
        (fun hs hstep => sound_does hs (step_does hstep)) (sound_new now files) hrun
      exact callLaw_of_sound hs hfresh

/-- A manager with one temp file, when it has expired. -/
def expiredManager : ArtifactManager :=
  let m := ArtifactManager.new 0 fun _ => none
  let m := (m.perform (.createBinaryArtifact "u" "/tmp/proxmox-mcp-artifacts-a/artifact.bin" .binary
    "application/octet-stream" [0, 255] { preferTempFile := true })).1
  (m.perform (.advance 3600000)).1

/-- The file of an artifact that is looked up when it has expired is left behind. -/
theorem expired_left_behind :
    ¬ ∀ (now : Int) (files : String → Option (List UInt8)) (calls : List ArtifactCall),
      ArtifactLaw now files calls := by
  intro h
  have hlaw := h 0 (fun _ => none)
    [.createBinaryArtifact "u" "/tmp/proxmox-mcp-artifacts-a/artifact.bin" .binary
      "application/octet-stream" [0, 255] { preferTempFile := true },
      .advance 3600000, .getPublic "artifact_u"]
  have hrun : run ArtifactManager.step (.new 0 fun _ => none)
      [.createBinaryArtifact "u" "/tmp/proxmox-mcp-artifacts-a/artifact.bin" .binary
        "application/octet-stream" [0, 255] { preferTempFile := true }, .advance 3600000] =
        some expiredManager :=
    run_cons.mpr ⟨_, if_pos ⟨rfl, rfl⟩, run_cons.mpr ⟨_, if_pos trivial, rfl⟩⟩
  have hstrands : expiredManager.Strands (.getPublic "artifact_u") :=
    ⟨"artifact_u", _, _, rfl, rfl, rfl, rfl⟩
  obtain ⟨hstep, hnot⟩ := not_owned_of_strands (hlaw.states _ [_] _ rfl hrun) hstrands
  exact hnot (hlaw.states _ [] _ (List.append_nil _).symm (run_concat.mpr ⟨_, hrun, hstep⟩))

end ProxmoxMcp
