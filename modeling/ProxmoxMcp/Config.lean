/-
  File:      ProxmoxMcp/Config.lean
  Subject:   THE RUNTIME CONFIGURATION (`config.ts`): clusters, SSH and WinRM profiles, guests,
             policies, and the lookups over them.

  Only what request handling reads is here; the schema's parsing of the environment, the secret
  store and the HTTP listener are not. `clusterMap` and its siblings are rebuilt from the lists
  by `refreshRuntimeIndexes`, so a lookup is a search in the list: of two entries of one name,
  the later one is in the map.
-/
import ProxmoxMcp.Types
import ProxmoxMcp.Lib.Named
import ProxmoxMcp.Lib.Url

namespace ProxmoxMcp

/-! ## 1. Entries -/

/-- `cluster.auth`: how requests to the cluster authenticate. -/
inductive ClusterAuthConfig where
  | api_token (user realm tokenId secret : String)
  | ticket (username password realm : String) (otp : Option String)
  | secret_ref (secretCluster : Option String)
  | ssh_bootstrap (sshUsername sshPassword apiUser apiRealm tokenId : String)
  deriving DecidableEq, Repr

/-- An entry of `cluster.nodes`. -/
structure ClusterNodeConfig where
  name : String
  host : String
  port : Nat
  sshProfile : String
  deriving DecidableEq, Repr

/-- Host and port of an API URL. -/
abbrev Authority : Type := { a : String // Url.IsAuthority a.toList }

/-- `ClusterConfig`. `apiUrl` is `https://${authority}`: `loadConfig` writes
    `https://${host}:${apiPort}`. -/
structure ClusterConfig where
  name : String
  host : String := ""
  sshPort : Nat := 22
  authority : Authority
  auth : ClusterAuthConfig
  nodes : List ClusterNodeConfig := []
  defaultNode : Option String := none
  defaultBridge : String := "vmbr0"
  defaultVmStorage : Option String := none
  defaultSnippetStorage : String := "local"
  deriving DecidableEq, Repr

/-- `cluster.apiUrl`. -/
def ClusterConfig.apiUrl (c : ClusterConfig) : String := "https://" ++ c.authority.val

/-- `hostKeyPolicy`. A stored text is cast to it unchecked, so it may be none of the three. -/
inductive HostKeyPolicy where
  | strict
  | accept_new
  | insecure
  | unlisted (text : String)
  deriving DecidableEq, Repr

/-- `SshProfileConfig`: what the executor connects with. -/
structure SshProfileConfig where
  name : String
  username : String
  port : Nat := 22
  privateKeyPath : Option String := none
  privateKey : Option String := none
  publicKeyPath : Option String := none
  publicKey : Option String := none
  passphrase : Option String := none
  password : Option String := none
  hostKeyPolicy : HostKeyPolicy := .strict
  expectedHostKey : Option String := none
  shell : String := "/bin/sh"
  prefixCommand : List String := []
  deriving DecidableEq, Repr

/-- `WinRmProfileConfig`, by its name. -/
structure WinRmProfileConfig where
  name : String
  deriving DecidableEq, Repr

/-- `LinuxGuestConfig`; `kind` is `qemu_vm` or `lxc_container`. -/
structure LinuxGuestConfig where
  cluster : String
  kind : TargetKind
  vmid : Nat
  host : Option String := none
  sshProfile : Option String := none
  deriving DecidableEq, Repr

/-- `WindowsGuestConfig`. -/
structure WindowsGuestConfig where
  cluster : String
  vmid : Nat
  host : Option String := none
  winrmProfile : Option String := none
  deriving DecidableEq, Repr

/-- `policy.match`: a missing list matches everything. -/
structure PolicyMatch where
  clusters : Option (List String) := none
  targetKinds : Option (List String) := none
  targetIds : Option (List String) := none
  nodeNames : Option (List String) := none
  deriving DecidableEq, Repr

/-- `PolicyConfig`; the defaults are those of `policySchema`. -/
structure PolicyConfig where
  match_ : PolicyMatch := {}
  allowApiRead : Bool := true
  allowApiWrite : Bool := false
  allowCliFamilies : List String := []
  allowRawCli : Bool := false
  allowShell : Bool := false
  allowFileRead : Bool := false
  allowFileWrite : Bool := false
  allowSudo : Bool := false
  maxTimeoutMs : Nat := 300000
  deriving DecidableEq, Repr

/-- `defaultAdminPolicy`. -/
def defaultAdminPolicy : PolicyConfig where
  match_ :=
    { clusters := some ["*"]
      targetKinds := some ["cluster", "node", "qemu_vm", "lxc_container", "linux_guest",
        "windows_guest"] }
  allowApiRead := true
  allowApiWrite := true
  allowCliFamilies := ["pvesh", "qm", "pct", "pvesm", "pveum", "pvenode", "pvecm", "pveceph",
    "pvesr", "vzdump", "apt"]
  allowRawCli := false
  allowShell := true
  allowFileRead := true
  allowFileWrite := true
  allowSudo := true

/-- `defaultProductionPolicy`: typed operations, and nothing that escapes them. -/
def defaultProductionPolicy : PolicyConfig where
  match_ :=
    { clusters := some ["*"]
      targetKinds := some ["cluster", "node", "qemu_vm", "lxc_container", "linux_guest",
        "windows_guest"] }
  allowApiRead := true
  allowApiWrite := true

/-- `config.mcpAuth.mode`. -/
inductive McpAuthMode where
  | none
  | oidc
  deriving DecidableEq, Repr

/-- `RuntimeConfig`. -/
structure RuntimeConfig where
  mcpAuth : McpAuthMode := .none
  clusters : List ClusterConfig := []
  sshProfiles : List SshProfileConfig := []
  winrmProfiles : List WinRmProfileConfig := []
  linuxGuests : List LinuxGuestConfig := []
  windowsGuests : List WindowsGuestConfig := []
  policies : List PolicyConfig := []
  inventoryCacheTtlMs : Nat := 10000
  deriving DecidableEq, Repr

/-! ## 2. Lookups -/

/-- `config.clusterMap.get(name)`. -/
def RuntimeConfig.clusterMap (config : RuntimeConfig) (name : String) : Option ClusterConfig :=
  config.clusters.reverse.find? fun c => c.name = name

/-- `config.sshProfileMap.get(name)`. -/
def RuntimeConfig.sshProfileMap (config : RuntimeConfig) (name : String) :
    Option SshProfileConfig :=
  config.sshProfiles.reverse.find? fun p => p.name = name

/-- `config.winrmProfileMap.get(name)`. -/
def RuntimeConfig.winrmProfileMap (config : RuntimeConfig) (name : String) :
    Option WinRmProfileConfig :=
  config.winrmProfiles.reverse.find? fun p => p.name = name

/-- `getCluster`: the entry of that name, else the only entry there is. -/
def getCluster (config : RuntimeConfig) (clusterName : String) : Except String ClusterConfig :=
  match config.clusterMap clusterName with
  | some cluster => .ok cluster
  | none =>
    match config.clusters with
    | [cluster] => .ok cluster
    | _ => .error s!"Unknown cluster '{clusterName}'"

/-- A name that is in the map resolves to an entry of that name. -/
theorem clusterMap_name {config : RuntimeConfig} {name : String} {c : ClusterConfig}
    (h : config.clusterMap name = some c) : c.name = name := by
  simpa using List.find?_some h

/-- **What `getCluster` resolves to**: an entry of that very name, or the only entry. -/
theorem getCluster_ok {config : RuntimeConfig} {clusterName : String} {c : ClusterConfig}
    (h : getCluster config clusterName = .ok c) :
    c.name = clusterName ∨ config.clusters = [c] := by
  unfold getCluster at h
  split at h
  · rename_i c' hc
    cases h
    exact Or.inl (clusterMap_name hc)
  · split at h
    · rename_i c' hc
      cases h
      exact Or.inr hc
    · cases h

/-- The configuration of `buildEnvOnlyConfig`: one cluster named `default`. -/
def envOnlyConfig (authority : Authority) (auth : ClusterAuthConfig)
    (policies : List PolicyConfig) : RuntimeConfig where
  clusters := [{ name := "default", authority := authority, auth := auth }]
  policies := policies
  inventoryCacheTtlMs := 15000

/-- `targetIdForPolicy`: the identifier policies match a target by. -/
def targetIdForPolicy (kind : TargetKind) (node : Option String) (vmid : Option Nat) : String :=
  if kind = .node then node.getD "*"
  else
    match vmid with
    | some n => toString n
    | none => kind.text

/-! ## 3. The profiles of a running server -/

/-- `config.sshProfiles` of a running server. `loadConfig` leaves it empty, and it is written by
    name only, so that no name is there twice. -/
structure SshProfiles where
  list : List SshProfileConfig := []
  distinct : Named.Distinct SshProfileConfig.name list := by simp [Named.Distinct]

/-- The profile of a name. -/
def SshProfiles.find (profiles : SshProfiles) (name : String) : Option SshProfileConfig :=
  Named.find SshProfileConfig.name name profiles.list

/-- The map that `refreshRuntimeIndexes` builds from the list. -/
def SshProfiles.index (profiles : SshProfiles) (name : String) : Option SshProfileConfig :=
  Named.index SshProfileConfig.name name profiles.list

/-- `upsertProfile`, `upsertSshProfile`. -/
def SshProfiles.upsert (profiles : SshProfiles) (profile : SshProfileConfig) : SshProfiles where
  list := Named.replaceOrPush SshProfileConfig.name profile profiles.list
  distinct := Named.distinct_replaceOrPush profiles.distinct

/-- `removeSshProfile`. -/
def SshProfiles.remove (profiles : SshProfiles) (name : String) : SshProfiles where
  list := Named.removeFirst SshProfileConfig.name name profiles.list
  distinct := Named.distinct_removeFirst profiles.distinct

@[simp] theorem SshProfiles.index_eq (profiles : SshProfiles) (name : String) :
    profiles.index name = profiles.find name :=
  Named.index_eq_find profiles.distinct

@[simp] theorem SshProfiles.find_upsert (profiles : SshProfiles) (profile : SshProfileConfig)
    (name : String) : (profiles.upsert profile).find name =
      if profile.name = name then some profile else profiles.find name :=
  Named.find_replaceOrPush

@[simp] theorem SshProfiles.find_remove (profiles : SshProfiles) (name name' : String) :
    (profiles.remove name').find name = if name' = name then none else profiles.find name :=
  Named.find_removeFirst profiles.distinct

end ProxmoxMcp
