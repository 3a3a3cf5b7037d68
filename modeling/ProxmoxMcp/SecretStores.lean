/-
  File:      ProxmoxMcp/SecretStores.lean
  Subject:   THE RUNTIME SECRET STORES (`secrets.ts`): what they read of a stored document, and
             `put`, `get` and `delete` of the bundle of a cluster on a file and on Vault.

  A read knows two documents, the records of the admin tool and the bundles by cluster. A write to a
  file makes the second of either, and Vault is given the bare bundle, which is neither.

  A file is the value of its text, and a bundle that is returned the value it has as JSON. A
  `clusters` member that is no object is in neither format, and is answered with an error here.
-/
import ProxmoxMcp.AdminSecrets
import ProxmoxMcp.Secrets
import ProxmoxMcp.Lib.Kv
import ProxmoxMcp.Lib.Url

namespace ProxmoxMcp

open Js

/-! ## 1. Bundles as JSON -/

/-- An API token as JSON. -/
def ApiTokenSecretRecord.toValue (token : ApiTokenSecretRecord) : Value :=
  .obj ([("user", .str token.user), ("realm", .str token.realm), ("tokenId", .str token.tokenId),
    ("secret", .str token.secret)] ++ optionalField "createdAt" token.createdAt ++
    optionalField "expiresAt" token.expiresAt)

/-- A shell secret as JSON. -/
def ShellSshSecretRecord.toValue (shell : ShellSshSecretRecord) : Value :=
  .obj ([("username", .str shell.username)] ++
    (shell.port.map fun port => ("port", Value.nat port)).toList ++
    optionalField "privateKey" shell.privateKey ++
    optionalField "privateKeyPath" shell.privateKeyPath ++
    optionalField "publicKey" shell.publicKey ++
    optionalField "publicKeyPath" shell.publicKeyPath ++
    optionalField "passphrase" shell.passphrase ++
    [("expectedHostKey", .str shell.expectedHostKey)] ++
    optionalField "hostKeyPolicy" (shell.hostKeyPolicy.map HostKeyPolicy.text) ++
    optionalField "shell" shell.shell ++
    (shell.prefixCommand.map fun words => ("prefixCommand", Value.arr (words.map .str))).toList ++
    optionalField "createdAt" shell.createdAt ++
    optionalField "expiresAt" shell.expiresAt)

/-- A bundle as JSON. -/
def RuntimeSecretBundle.toValue (bundle : RuntimeSecretBundle) : Value :=
  .obj ([("cluster", .str bundle.cluster)] ++
    (bundle.apiToken.map fun token => ("apiToken", token.toValue)).toList ++
    (bundle.shellSsh.map fun shell => ("shellSsh", shell.toValue)).toList ++
    (bundle.metadata.map fun metadata =>
      ("metadata", Value.obj (metadata.map fun p => (p.1, .str p.2)))).toList)

/-! ## 2. Reading a document -/

section

variable (localeCompare : String → String → Int)

/-- An active record of the kind and the cluster. -/
def isActiveRecord (kind cluster : String) (record : SecretRecord) : Bool :=
  record.detail.kind = kind && lookup "cluster" record.metadata = .str cluster &&
    lookup "lifecycle" record.metadata ≠ .str "retired"

/-- `latestActiveRecord`. The order of two texts is that of the locale. -/
def latestActiveRecord (records : List SecretRecord) (kind cluster : String) :
    Option SecretRecord :=
  ((records.filter (isActiveRecord kind cluster)).mergeSort fun left right =>
    localeCompare right.updatedAt left.updatedAt ≤ 0).head?

/-- The API token of a record. -/
def apiTokenOf (record : SecretRecord) : Option ApiTokenSecretRecord :=
  match record.detail with
  | .proxmox_api_token user realm tokenId secret _ expireAt =>
      some {
        user := user
        realm := realm
        tokenId := tokenId
        secret := secret
        createdAt := some record.createdAt
        expiresAt := expireAt }
  | _ => none

/-- The policy in the metadata, `strict` where it is no text. -/
def storedHostKeyPolicy (metadata : List (String × Value)) : HostKeyPolicy :=
  match lookup "hostKeyPolicy" metadata with
  | .str text => .ofText text
  | _ => .strict

/-- The shell secret of a record, which needs a host key. -/
def shellSshOf (record : SecretRecord) : Option ShellSshSecretRecord :=
  match record.detail, lookup "expectedHostKey" record.metadata with
  | .shell_ssh_key username privateKey publicKey passphrase, .str hostKey =>
      some {
        username := username
        privateKey := some privateKey
        publicKey := some publicKey
        passphrase := passphrase
        expectedHostKey := hostKey
        hostKeyPolicy := some (storedHostKeyPolicy record.metadata)
        createdAt := some record.createdAt }
  | _, _ => none

/-- `bundleFromAdminSecretDocument`. -/
def bundleFromAdminSecretDocument (document : SecretDocument) (cluster : String) :
    Option RuntimeSecretBundle :=
  let apiToken :=
    (latestActiveRecord localeCompare document.records "proxmox_api_token" cluster).bind apiTokenOf
  let shellSsh :=
    (latestActiveRecord localeCompare document.records "shell_ssh_key" cluster).bind shellSshOf
  if apiToken.isSome || shellSsh.isSome then
    some { cluster := cluster, apiToken := apiToken, shellSsh := shellSsh }
  else none

/-- What a bundle that was put together reads as. -/
def foundBundle : Option RuntimeSecretBundle → Member
  | some bundle => .own bundle.toValue
  | none => .missing

/-- `bundleFromUnknownDocument`. -/
def bundleFromUnknownDocument (now cluster : String) (value : Value) : Except String Member :=
  match value with
  | .obj ps =>
    if hasKey "records" ps then
      match normalizeSecretDocument now value with
      | none => .error "the document does not pass the schema"
      | some document => .ok (foundBundle (bundleFromAdminSecretDocument localeCompare document cluster))
    else match lookup "clusters" ps with
      | .undefined | .null => .ok .missing
      | .obj clusters => .ok (member cluster clusters)
      | _ => .error "clusters is no object"
  | .undefined | .null => .error "Cannot read properties of undefined (reading 'clusters')"
  | _ => .ok .missing

end

/-! ## 3. The stores -/

/-- A store that supports mutation. -/
structure MutableSecretStore where
  State : Type
  getClusterSecrets : State → String → Except String Member
  putClusterSecrets : State → String → RuntimeSecretBundle → Except String State
  deleteClusterSecrets : State → String → Except String State

/-- `readJsonFile`: the bundles by cluster, none where the file is missing. -/
def readJsonFile : Option Value → Except String (List (String × Value))
  | none => .ok []
  | some (.obj ps) =>
      match lookup "clusters" ps with
      | .undefined | .null => .ok []
      | .obj clusters => .ok clusters
      | _ => .error "clusters is no object"
  | some .undefined | some .null => .error "Cannot read properties of null (reading 'clusters')"
  | some _ => .ok []

/-- `writeDocument`: the document of the bundles. -/
def clustersDocument (clusters : List (String × Value)) : Value :=
  .obj [("version", .nat 1), ("clusters", .obj clusters)]

/-- `FileSecretStore`, on the value of the file; none where it is missing. -/
def FileSecretStore (localeCompare : String → String → Int) (now : String) : MutableSecretStore where
  State := Option Value
  getClusterSecrets := fun file cluster =>
    match file with
    | none => .ok .missing
    | some value => bundleFromUnknownDocument localeCompare now cluster value
  putClusterSecrets := fun file cluster bundle => do
    let clusters ← readJsonFile file
    return some (clustersDocument (assign cluster bundle.toValue clusters))
  deleteClusterSecrets := fun file cluster => do
    let clusters ← readJsonFile file
    return some (clustersDocument (eraseKey cluster clusters))

/-- `s.replace(/\/+$/, "")`. -/
def stripEndSlashes (s : List Char) : List Char := (s.reverse.dropWhile (· = '/')).reverse

/-- `s.replace(/^\/+|\/+$/g, "")`. -/
def stripSlashes (s : List Char) : List Char := stripEndSlashes (s.dropWhile (· = '/'))

/-- The address of a Vault: its authority, and the segments of its path. The scheme plays no part. -/
structure VaultAddress where
  authority : { a : String // Url.IsAuthority a.toList }
  segments : List String := []

/-- The segments, each behind its slash. -/
def slashed (segments : List String) : List Char := segments.flatMap fun s => '/' :: s.toList

/-- The address as it is written. -/
def VaultAddress.text (address : VaultAddress) : List Char :=
  "https://".toList ++ address.authority.val.toList ++ slashed address.segments

/-- `kvVersion`. -/
inductive KvVersion where
  | v1
  | v2
  deriving DecidableEq

/-- The settings of the runtime `VaultSecretStore`; the token and the namespace go into headers. -/
structure VaultConfig where
  address : VaultAddress
  secretPath : String
  kvVersion : KvVersion := .v2

/-- `endpoint`. -/
def VaultConfig.endpoint (config : VaultConfig) (cluster : String) : List Char :=
  let base := stripEndSlashes config.address.text
  let cleanedPath := stripSlashes config.secretPath.toList
  match config.kvVersion with
  | .v2 => base ++ "/v1/".toList ++ cleanedPath ++ "/data/".toList ++
      (Url.encodeURIComponent cluster).toList
  | .v1 => base ++ "/v1/".toList ++ cleanedPath ++ "/".toList ++
      (Url.encodeURIComponent cluster).toList

/-- What a request addresses: a URL without its fragment. -/
def requested (url : Url.Parsed) : Url.Parsed := { url with tail := { url.tail with fragment := none } }

/-- What a request for the cluster addresses. -/
def VaultConfig.request (config : VaultConfig) (cluster : String) : Except String Url.Parsed :=
  match Url.parseHttps (config.endpoint cluster) with
  | none => .error "Invalid URL"
  | some url => .ok (requested url)

/-- What is read of the body that is stored. -/
def VaultConfig.readBody (config : VaultConfig) (localeCompare : String → String → Int)
    (now cluster : String) (body : Value) : Except String Member :=
  match config.kvVersion with
  | .v2 => bundleFromUnknownDocument localeCompare now cluster (body.get "data")
  | .v1 => bundleFromUnknownDocument localeCompare now cluster body

/-- `VaultSecretStore`, on an engine that answers with the body it was last sent. -/
def VaultSecretStore (localeCompare : String → String → Int) (now : String)
    (engine : Kv.Engine Url.Parsed Value) (config : VaultConfig) : MutableSecretStore where
  State := engine.State
  getClusterSecrets := fun s cluster => do
    let url ← config.request cluster
    match engine.get s url with
    | none => return .missing
    | some body => config.readBody localeCompare now cluster body
  putClusterSecrets := fun s cluster bundle => do
    let url ← config.request cluster
    let body := match config.kvVersion with
      | .v2 => Value.obj [("data", bundle.toValue)]
      | .v1 => bundle.toValue
    return engine.put s url body
  deleteClusterSecrets := fun s cluster => do
    let url ← config.request cluster
    return engine.delete s url

/-! ## 4. The laws of a map -/

/-- A mutation of the bundle of a cluster. -/
inductive Mutation where
  | put (bundle : RuntimeSecretBundle)
  | delete

/-- The state after a mutation. -/
def MutableSecretStore.mutate (store : MutableSecretStore) (s : store.State) (cluster : String) :
    Mutation → Except String store.State
  | .put bundle => store.putClusterSecrets s cluster bundle
  | .delete => store.deleteClusterSecrets s cluster

/-- What a read of the mutated cluster is to answer. -/
def Mutation.answer : Mutation → Member
  | .put bundle => .own bundle.toValue
  | .delete => .missing

/-- **The laws of a map**: after the mutation of `c` a read of `c` answers the bundle, or nothing
    after a deletion, and a read of `c'` what it answered before. -/
def MapLaw (store : MutableSecretStore) (s : store.State) (c c' : String) (m : Mutation) : Prop :=
  ∃ s', store.mutate s c m = .ok s' ∧ store.getClusterSecrets s' c = .ok m.answer ∧
    store.getClusterSecrets s' c' = store.getClusterSecrets s c'

/-- What a file holds: nothing, or a document of one of the two formats. -/
inductive Stored where
  | missing
  | clusters (entries : List (String × Value))
  | records (document : { document : SecretDocument // document.Valid })

/-- The value of the file. -/
def Stored.file : Stored → Option Value
  | .missing => none
  | .clusters entries => some (clustersDocument entries)
  | .records document => some document.val.toValue

/-- The bundles by cluster that a write starts from: none of a document of records. -/
def Stored.entries : Stored → List (String × Value)
  | .clusters entries => entries
  | _ => []

/-- What a read of a file answers. -/
def Stored.read (localeCompare : String → String → Int) (cluster : String) : Stored → Member
  | .missing => .missing
  | .clusters entries => member cluster entries
  | .records document =>
      foundBundle (bundleFromAdminSecretDocument localeCompare document.val cluster)

section

variable {localeCompare : String → String → Int} {now : String}

theorem read_clustersDocument {cluster : String} {entries : List (String × Value)} :
    (FileSecretStore localeCompare now).getClusterSecrets (some (clustersDocument entries)) cluster =
      .ok (member cluster entries) := rfl

/-- The store reads each format as it is meant. -/
theorem getClusterSecrets_file (stored : Stored) (cluster : String) :
    (FileSecretStore localeCompare now).getClusterSecrets stored.file cluster =
      .ok (stored.read localeCompare cluster) := by
  cases stored with
  | missing => rfl
  | clusters entries => rfl
  | records document =>
    have hnormal := normalizeSecretDocument_toValue now document.property
    have hread : bundleFromUnknownDocument localeCompare now cluster document.val.toValue =
        match normalizeSecretDocument now document.val.toValue with
        | none => .error "the document does not pass the schema"
        | some document =>
          .ok (foundBundle (bundleFromAdminSecretDocument localeCompare document cluster)) := rfl
    exact hread.trans (by rw [hnormal]; rfl)

theorem readJsonFile_file (stored : Stored) : readJsonFile stored.file = .ok stored.entries := by
  cases stored with
  | missing => rfl
  | clusters entries => rfl
  | records document => rfl

/-- **A write to a file makes a document of bundles by cluster** of whatever was there. -/
theorem mutate_file (stored : Stored) (cluster : String) (m : Mutation) :
    (FileSecretStore localeCompare now).mutate stored.file cluster m =
      .ok (some (clustersDocument (match m with
        | .put bundle => assign cluster bundle.toValue stored.entries
        | .delete => eraseKey cluster stored.entries))) := by
  have hread := readJsonFile_file stored
  cases m with
  | put bundle =>
    show (do
      let clusters ← readJsonFile stored.file
      return some (clustersDocument (assign cluster bundle.toValue clusters))) = _
    rw [hread]
    rfl
  | delete =>
    show (do
      let clusters ← readJsonFile stored.file
      return some (clustersDocument (eraseKey cluster clusters))) = _
    rw [hread]
    rfl

/-- The cluster that is written keeps its law: the name of a put reaches the properties, and that of
    a deletion is not inherited. -/
def OwnKept (entries : List (String × Value)) (c : String) : Mutation → Prop
  | .put _ => c ≠ "__proto__" ∨ hasKey c entries = true
  | .delete => c ∉ objectPrototype

/-- Another cluster keeps its bundle: the document was one of bundles by cluster, or it held none of
    this cluster, whose name is not inherited either. -/
def OtherKept (localeCompare : String → String → Int) (c' : String) : Stored → Prop
  | .missing => c' ∉ objectPrototype
  | .clusters _ => True
  | .records document =>
      c' ∉ objectPrototype ∧ bundleFromAdminSecretDocument localeCompare document.val c' = none

theorem member_nil {key : String} {found : Option RuntimeSecretBundle} :
    member key [] = foundBundle found ↔ key ∉ objectPrototype ∧ found = none := by
  rw [member, hasKey_nil, if_neg Bool.false_ne_true]
  cases found <;> by_cases h : key ∈ objectPrototype <;> simp [foundBundle, h]

/-- What another cluster reads once the file has the second format. -/
theorem member_entries_iff (stored : Stored) (c' : String) :
    member c' stored.entries = stored.read localeCompare c' ↔
      OtherKept localeCompare c' stored := by
  cases stored with
  | missing => exact member_nil.trans (and_iff_left rfl)
  | clusters entries => exact iff_of_true rfl trivial
  | records document => exact member_nil

/-- **A file keeps the laws exactly where the name reaches the properties and the format stays.** -/
theorem mapLaw_file (stored : Stored) {c c' : String} (hne : c' ≠ c) (m : Mutation) :
    MapLaw (FileSecretStore localeCompare now) stored.file c c' m ↔
      OwnKept stored.entries c m ∧ OtherKept localeCompare c' stored := by
  have hlaw : MapLaw (FileSecretStore localeCompare now) stored.file c c' m ↔
      member c (match m with
        | .put bundle => assign c bundle.toValue stored.entries
        | .delete => eraseKey c stored.entries) = m.answer ∧
      member c' (match m with
        | .put bundle => assign c bundle.toValue stored.entries
        | .delete => eraseKey c stored.entries) = stored.read localeCompare c' := by
    unfold MapLaw
    rw [mutate_file]
    constructor
    · intro hparts
      obtain ⟨s', hs, hown, hother⟩ := hparts
      cases hs
      rw [getClusterSecrets_file] at hother
      exact ⟨Except.ok.inj hown, Except.ok.inj hother⟩
    · intro hparts
      obtain ⟨hown, hother⟩ := hparts
      refine ⟨_, rfl, congrArg Except.ok hown, ?_⟩
      rw [getClusterSecrets_file]
      exact congrArg Except.ok hother
  rw [hlaw, ← member_entries_iff]
  cases m with
  | put bundle => exact and_congr member_assign_self (by rw [member_assign_ne hne])
  | delete => exact and_congr member_eraseKey_self (by rw [member_eraseKey_ne hne])

end

/-! ## 5. Vault -/

theorem stripEndSlashes_append {p t : List Char} {c : Char} (hc : c ≠ '/') :
    stripEndSlashes (p ++ c :: t) = p ++ c :: stripEndSlashes t := by
  have hrev : (p ++ c :: t).reverse = t.reverse ++ c :: p.reverse := by simp
  have hstop : (c :: p.reverse).dropWhile (· = '/') = c :: p.reverse := by
    rw [List.dropWhile_cons_of_neg (by simp [hc])]
  rw [stripEndSlashes, hrev, List.dropWhile_append, hstop]
  split
  · rename_i h
    rw [List.isEmpty_iff] at h
    simp [stripEndSlashes, h]
  · simp [stripEndSlashes]

theorem stripEndSlashes_prefix (t : List Char) : stripEndSlashes t <+: t := by
  have h := List.reverse_prefix.mpr (List.dropWhile_suffix (p := (· = '/')) (l := t.reverse))
  rwa [List.reverse_reverse] at h

/-- What comes after the authority of an endpoint. -/
def VaultConfig.target (config : VaultConfig) (cluster : String) : List Char :=
  stripEndSlashes (slashed config.address.segments) ++ "/v1/".toList ++
    stripSlashes config.secretPath.toList ++
    (match config.kvVersion with
      | .v2 => "/data/".toList
      | .v1 => "/".toList) ++ (Url.encodeURIComponent cluster).toList

/-- The slashes at the end of an address are those of its path. -/
theorem stripEndSlashes_authority {scheme a : List Char} (ha : Url.IsAuthority a) (path : List Char) :
    stripEndSlashes (scheme ++ a ++ path) = scheme ++ a ++ stripEndSlashes path := by
  obtain ⟨hne, hplain⟩ := ha
  rcases List.eq_nil_or_concat a with rfl | ⟨p, c, rfl⟩
  · exact absurd rfl hne
  · have hc : c ≠ '/' := by
      rintro rfl
      exact absurd (hplain '/' (by simp)).1 (by decide)
    have hsplit : ∀ q, scheme ++ p.concat c ++ q = (scheme ++ p) ++ c :: q := by simp
    rw [hsplit, hsplit, stripEndSlashes_append hc]

theorem endpoint_eq (config : VaultConfig) (cluster : String) :
    config.endpoint cluster =
      "https://".toList ++ config.address.authority.val.toList ++ config.target cluster := by
  unfold VaultConfig.endpoint VaultConfig.target VaultAddress.text
  generalize "https://".toList = scheme
  rw [stripEndSlashes_authority config.address.authority.property]
  cases config.kvVersion
  · simp only [List.append_assoc]
  · simp only [List.append_assoc]

/-- What is left of the path of an address starts with a slash, if anything is left. -/
theorem stripEndSlashes_slashed {segments : List String} {c : Char} {base : List Char}
    (h : stripEndSlashes (slashed segments) = c :: base) : c = '/' := by
  obtain ⟨rest, hrest⟩ := stripEndSlashes_prefix (slashed segments)
  rw [h] at hrest
  cases segments with
  | nil => cases hrest
  | cons segment segments => exact (List.cons.inj hrest).1

/-- The target starts with a slash. -/
theorem target_slash (config : VaultConfig) (cluster : String) :
    ∃ t, config.target cluster = '/' :: t := by
  rw [VaultConfig.target]
  rcases h : stripEndSlashes (slashed config.address.segments) with _ | ⟨c, base⟩
  · exact ⟨_, rfl⟩
  · rw [stripEndSlashes_slashed h]
    exact ⟨_, rfl⟩

/-- An endpoint is always a URL. -/
theorem request_ok (config : VaultConfig) (cluster : String) :
    ∃ t, config.target cluster = '/' :: t ∧ config.request cluster = .ok
      (requested ⟨config.address.authority.val.toList, Url.pathState [] [] (Url.trimmed t)⟩) := by
  obtain ⟨t, ht⟩ := target_slash config cluster
  refine ⟨t, ht, ?_⟩
  rw [VaultConfig.request, endpoint_eq, ht,
    Url.parseHttps_path config.address.authority.property]

theorem exists_request (config : VaultConfig) (cluster : String) :
    ∃ url, config.request cluster = .ok url := by
  obtain ⟨t, -, h⟩ := request_ok config cluster
  exact ⟨_, h⟩

section

variable {localeCompare : String → String → Int} {now : String}
  {engine : Kv.Engine Url.Parsed Value}

/-- A bare bundle is a document of neither format. -/
theorem read_bareBundle (bundle : RuntimeSecretBundle) (cluster : String) :
    bundleFromUnknownDocument localeCompare now cluster bundle.toValue = .ok .missing := by
  obtain ⟨name, apiToken, shellSsh, metadata⟩ := bundle
  cases apiToken <;> cases shellSsh <;> cases metadata <;> rfl

/-- A write to Vault keeps the laws never, and a deletion where the other cluster is stored under
    another URL or has no bundle there. -/
def VaultKept (localeCompare : String → String → Int) (now : String)
    (engine : Kv.Engine Url.Parsed Value) (config : VaultConfig) (s : engine.State) (c c' : String) :
    Mutation → Prop
  | .put _ => False
  | .delete => config.request c ≠ config.request c' ∨ ∀ url body, config.request c' = .ok url →
      engine.get s url = some body → config.readBody localeCompare now c' body = .ok .missing

/-- What a read answers, once its URL is known. -/
theorem getClusterSecrets_vault {config : VaultConfig} {s : engine.State} {cluster : String}
    {url : Url.Parsed} (h : config.request cluster = .ok url) :
    (VaultSecretStore localeCompare now engine config).getClusterSecrets s cluster =
      match engine.get s url with
      | none => .ok .missing
      | some body => config.readBody localeCompare now cluster body := by
  show (do
    let url ← config.request cluster
    match engine.get s url with
    | none => return Member.missing
    | some body => config.readBody localeCompare now cluster body) = _
  rw [h]
  rfl

/-- A read after a body was stored under some URL. -/
theorem getClusterSecrets_stored {config : VaultConfig} {s : engine.State} {cluster : String}
    {url url' : Url.Parsed} {body : Value} (h : config.request cluster = .ok url) :
    (VaultSecretStore localeCompare now engine config).getClusterSecrets
        (engine.put s url' body) cluster =
      if url' = url then config.readBody localeCompare now cluster body
      else (VaultSecretStore localeCompare now engine config).getClusterSecrets s cluster := by
  rw [getClusterSecrets_vault h, getClusterSecrets_vault h, engine.get_put]
  by_cases he : url' = url
  · rw [if_pos he, if_pos he]
  · rw [if_neg he, if_neg he]

/-- **A bundle that was put into Vault is not read back**: the document has neither format. -/
theorem mapLaw_vault_put (config : VaultConfig) (s : engine.State) (c c' : String)
    (bundle : RuntimeSecretBundle) :
    ¬ MapLaw (VaultSecretStore localeCompare now engine config) s c c' (.put bundle) := by
  intro hparts
  obtain ⟨s', hs, hown, _⟩ := hparts
  obtain ⟨url, hurl⟩ := exists_request config c
  have hput : (VaultSecretStore localeCompare now engine config).mutate s c (.put bundle) =
      .ok (engine.put s url (match config.kvVersion with
        | .v2 => Value.obj [("data", bundle.toValue)]
        | .v1 => bundle.toValue)) := by
    show (do
      let url ← config.request c
      let body := match config.kvVersion with
        | .v2 => Value.obj [("data", bundle.toValue)]
        | .v1 => bundle.toValue
      return engine.put s url body) = _
    rw [hurl]
    rfl
  rw [hput] at hs
  cases hs
  rw [getClusterSecrets_stored hurl, if_pos rfl] at hown
  have hread : config.readBody localeCompare now c (match config.kvVersion with
      | .v2 => Value.obj [("data", bundle.toValue)]
      | .v1 => bundle.toValue) = .ok .missing := by
    rw [VaultConfig.readBody]
    cases config.kvVersion
    · exact read_bareBundle bundle c
    · exact read_bareBundle bundle c
  have hmissing : (Except.ok Member.missing : Except String Member) = .ok (.own bundle.toValue) :=
    hread.symm.trans hown
  cases hmissing

/-- **A deletion from Vault** leaves the other clusters alone but for those under its URL. -/
theorem mapLaw_vault_delete (config : VaultConfig) (s : engine.State) (c c' : String) :
    MapLaw (VaultSecretStore localeCompare now engine config) s c c' .delete ↔
      VaultKept localeCompare now engine config s c c' .delete := by
  obtain ⟨url, hurl⟩ := exists_request config c
  obtain ⟨url', hurl'⟩ := exists_request config c'
  have hdelete : (VaultSecretStore localeCompare now engine config).mutate s c .delete =
      .ok (engine.delete s url) := by
    show (do
      let url ← config.request c
      return engine.delete s url) = _
    rw [hurl]
    rfl
  have hgone : (VaultSecretStore localeCompare now engine config).getClusterSecrets
      (engine.delete s url) c = .ok .missing := by
    rw [getClusterSecrets_vault hurl, engine.get_delete_self]
  have hlaw : MapLaw (VaultSecretStore localeCompare now engine config) s c c' .delete ↔
      (VaultSecretStore localeCompare now engine config).getClusterSecrets
        (engine.delete s url) c' =
      (VaultSecretStore localeCompare now engine config).getClusterSecrets s c' := by
    unfold MapLaw
    rw [hdelete]
    constructor
    · intro hparts
      obtain ⟨s', hs, _, hother⟩ := hparts
      cases hs
      exact hother
    · intro hother
      exact ⟨_, rfl, hgone, hother⟩
  rw [hlaw, VaultKept, hurl, hurl', getClusterSecrets_vault hurl', getClusterSecrets_vault hurl']
  by_cases he : url = url'
  · subst he
    rw [engine.get_delete_self]
    rcases hbody : engine.get s url with _ | body
    · refine iff_of_true rfl (.inr fun u body hu hb => ?_)
      cases hu
      rw [hbody] at hb
      cases hb
    · refine ⟨fun h => .inr fun u body' hu hb => ?_, fun h => ?_⟩
      · cases hu
        rw [hbody] at hb
        cases hb
        exact h.symm
      · rcases h with h | h
        · exact absurd rfl h
        · exact (h url body rfl hbody).symm
  · rw [engine.get_delete_ne he]
    exact iff_of_true rfl (.inl fun e => he (Except.ok.inj e))

/-! ## 6. Every backend -/

/-- A store that supports mutation, with what it holds. -/
inductive Backend (engine : Kv.Engine Url.Parsed Value) where
  | file (stored : Stored)
  | vault (config : VaultConfig) (s : engine.State)

/-- The laws of a map, for a backend. -/
def BackendLaw (localeCompare : String → String → Int) (now : String) (c c' : String)
    (m : Mutation) : Backend engine → Prop
  | .file stored => MapLaw (FileSecretStore localeCompare now) stored.file c c' m
  | .vault config s => MapLaw (VaultSecretStore localeCompare now engine config) s c c' m

/-- Where a backend keeps them. -/
def BackendKept (localeCompare : String → String → Int) (now : String) (c c' : String)
    (m : Mutation) : Backend engine → Prop
  | .file stored => OwnKept stored.entries c m ∧ OtherKept localeCompare c' stored
  | .vault config s => VaultKept localeCompare now engine config s c c' m

/-- **A backend keeps the laws of a map exactly so**: a file, where the name of the cluster reaches
    the properties of an object and the other cluster is not in a document of the other format;
    Vault, for a deletion of what is stored under a URL of its own, and never for a put. -/
theorem mapLaw_iff (localeCompare : String → String → Int) (now : String) (backend : Backend engine)
    (c c' : String) (hne : c' ≠ c) (m : Mutation) :
    BackendLaw localeCompare now c c' m backend ↔ BackendKept localeCompare now c c' m backend := by
  cases backend with
  | file stored => exact mapLaw_file stored hne m
  | vault config s =>
    cases m with
    | put bundle => exact iff_of_false (mapLaw_vault_put config s c c' bundle) id
    | delete => exact mapLaw_vault_delete config s c c'

/-- A file of two clusters, one of which is written. -/
theorem mapLaw_twoClusters :
    @BackendLaw Kv.table (fun _ _ => 0) "" "prod" "lab" (.put { cluster := "prod" })
      (.file (.clusters [("lab", .obj [("cluster", .str "lab")])])) :=
  (mapLaw_iff (fun _ _ => 0) "" _ "prod" "lab" (by decide) _).mpr ⟨.inl (by decide), trivial⟩

/-- The Vault of the defaults. -/
def defaultVault : VaultConfig where
  address := { authority := ⟨"vault:8200", by decide⟩ }
  secretPath := "secret/proxmox-mcp"

/-- A bundle put into an empty Vault is not there, and one put into the file of an enrollment takes
    the other cluster away. -/
theorem mapLaw_lost :
    let document : SecretDocument := ⟨"t", [⟨"i", "t", "t", [("cluster", .str "lab")],
      .proxmox_api_token "u" "r" "t" "s" none none⟩]⟩
    (∃ hv : document.Valid, ¬ @BackendLaw Kv.table (fun _ _ => 0) "" "prod" "lab"
      (.put { cluster := "prod" }) (.file (.records ⟨document, hv⟩))) ∧
    ¬ @BackendLaw Kv.table (fun _ _ => 0) "" "prod" "lab" (.put { cluster := "prod" })
      (.vault defaultVault Kv.table.empty) := by
  intro document
  have hv : document.Valid := ⟨by decide, List.nodup_singleton _, by decide, by decide⟩
  refine ⟨⟨hv, fun h => ?_⟩, mapLaw_vault_put _ _ _ _ _⟩
  have hkept := (mapLaw_file (.records ⟨document, hv⟩) (by decide) _).mp h
  have hfound : bundleFromAdminSecretDocument (fun _ _ => 0) document "lab" ≠ none := by
    simp [document, bundleFromAdminSecretDocument, latestActiveRecord, isActiveRecord,
      SecretDetail.kind, lookup, apiTokenOf]
  exact hfound hkept.2.2

end

end ProxmoxMcp
