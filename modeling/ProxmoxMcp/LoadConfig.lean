/-
  File:      ProxmoxMcp/LoadConfig.lean
  Subject:   LOADING THE CONFIGURATION (`loadConfig`): what the environment sets, and which policies
             follow from it.

  `z.string().url()` is a parameter, and the issues of a `ZodError` are not here: what the schema
  rejects is one error. `escapeGrants_iff`: when the permissions of a target escape the typed
  operations only where the configuration says `escapeEnabled`.
-/
import ProxmoxMcp.PolicyFold
import ProxmoxMcp.Schema
import ProxmoxMcp.Selectors
import ProxmoxMcp.Lib.Checks

namespace ProxmoxMcp

open Js Checks

variable [Text.Unicode]

/-! ## 1. Reading the environment -/

/-- `process.env`. -/
abbrev Env : Type := String → Option String

/-- What `loadConfig` throws. -/
inductive LoadError where
  | thrown (message : String)
  | zod
  deriving DecidableEq, Repr

/-- `value.trim()`. -/
def trimText (value : String) : String := String.ofList (Text.trim value.toList)

/-- `process.env[key]?.trim()`. -/
def Env.trimmed (env : Env) (key : String) : Option String := (env key).map trimText

/-- `process.env[key]?.trim() || undefined`. -/
def Env.given (env : Env) (key : String) : Option String :=
  (env.trimmed key).filter fun value => value ≠ ""

/-- `process.env[key]?.trim() || fallback`. -/
def Env.orElse (env : Env) (key fallback : String) : String := (env.given key).getD fallback

/-- `parseOptionalPositiveInt`. -/
def parseOptionalPositiveInt : Option String → Except LoadError (Option Nat)
  | none => .ok none
  | some value =>
    if trimText value = "" then .ok none
    else
      match parseInt value.toList with
      | .rat q =>
          if q ≤ 0 then .error (.thrown s!"Expected a positive integer, received '{value}'")
          else .ok (some q.num.toNat)
      | _ => .error (.thrown s!"Expected a positive integer, received '{value}'")

/-- `parseOptionalBoolean`. -/
def parseOptionalBoolean : Option String → Option Bool
  | none => none
  | some value =>
    if trimText value = "" then none
    else some (Text.toLowerCase value ∈ ["1", "true", "yes", "on"])

/-! ## 2. The configuration -/

/-- `config.mode`. -/
inductive ServerMode where
  | stdio
  | http
  | both
  deriving DecidableEq, Repr

/-- `serverModeSchema`. -/
def ServerMode.ofText (text : String) : Option ServerMode :=
  if text = "stdio" then some .stdio
  else if text = "http" then some .http
  else if text = "both" then some .both
  else none

/-- `config.mcpAuth`. -/
inductive McpAuthConfig where
  | none
  | oidc (issuer audience : String) (jwksUrl resource : Option String)
  deriving DecidableEq, Repr

/-- `config.http`. -/
structure HttpServerConfig where
  host : String
  port : Nat
  path : String
  publicBaseUrl : Option String
  stateless : Bool
  deriving DecidableEq, Repr

/-- `config.secretStore`. -/
inductive SecretStoreConfig where
  | env
  | file (path : String)
  | vault (address path : String) (token : Option String) (tokenEnvVar : String)
      (namespace_ : Option String) (kvVersion : String)
  deriving DecidableEq, Repr

/-- `config.localBootstrap`. -/
structure LocalBootstrapConfig where
  enabled : Bool
  sshUsername : Option String
  sshPassword : Option String
  sshPort : Nat
  hostKeyPolicy : String
  expectedHostKey : Option String
  apiUser : String
  apiRealm : String
  tokenId : String
  comment : String
  privsep : Bool
  deriving DecidableEq, Repr

/-- The cluster of `buildEnvOnlyConfig`. Its authentication is `ssh_bootstrap` where the local
    bootstrap is enabled, else `secret_ref`. -/
structure EnvClusterConfig where
  host : String
  apiPort : Nat
  sshPort : Nat
  defaultNode : Option String
  defaultBridge : String
  defaultVmStorage : Option String
  defaultSnippetStorage : String
  rejectUnauthorized : Bool
  caFile : Option String
  deriving DecidableEq, Repr

/-- The `apiUrl` of that cluster. -/
def EnvClusterConfig.apiUrl (cluster : EnvClusterConfig) : String :=
  s!"https://{cluster.host}:{cluster.apiPort}"

/-- The configuration, its mode a text before the schema has read it. -/
structure RemoteConnectConfig (Mode : Type) where
  mode : Mode
  mcpAuth : McpAuthConfig
  http : HttpServerConfig
  secretStore : SecretStoreConfig
  localBootstrap : LocalBootstrapConfig
  escapeEnabled : Bool
  cluster : EnvClusterConfig
  policies : List PolicyConfig := []
  auditLogPath : String
  inventoryCacheTtlMs : Nat := 15000
  defaultTimeoutMs : Nat := 60000

/-- `os.devNull`. -/
def devNull : String := "/dev/null"

/-- `PROXMOX_MCP_MODE`. -/
def Env.mode (env : Env) : String := (env.trimmed "PROXMOX_MCP_MODE").getD "stdio"

/-- `PROXMOX_MCP_AUTH_MODE`. -/
def Env.authMode (env : Env) : String := (env.trimmed "PROXMOX_MCP_AUTH_MODE").getD "none"

/-- `localBootstrapEnabled`. -/
def Env.localBootstrapEnabled (env : Env) : Bool :=
  (parseOptionalBoolean (env "PROXMOX_MCP_LOCAL_BOOTSTRAP")).getD false

/-- `escapeEnabled`. -/
def Env.escapeEnabled (env : Env) : Bool :=
  (parseOptionalBoolean (env "PROXMOX_MCP_ENABLE_ESCAPE")).getD
    (env.mode = "stdio" && env.authMode = "none" && env.localBootstrapEnabled)

/-- `secretStore`. -/
def Env.secretStore (env : Env) : SecretStoreConfig :=
  match (env.trimmed "PROXMOX_MCP_SECRET_BACKEND").getD "env" with
  | "file" => .file (env.orElse "PROXMOX_MCP_SECRET_FILE_PATH" ".proxmox-mcp-secrets.json")
  | "vault" => .vault (env.orElse "PROXMOX_MCP_SECRET_VAULT_ADDR" "")
      (env.orElse "PROXMOX_MCP_SECRET_VAULT_PATH" "secret/proxmox-mcp")
      (env "PROXMOX_MCP_SECRET_VAULT_TOKEN")
      (env.orElse "PROXMOX_MCP_SECRET_VAULT_TOKEN_ENV" "VAULT_TOKEN")
      (env.given "PROXMOX_MCP_SECRET_VAULT_NAMESPACE")
      ((env.trimmed "PROXMOX_MCP_SECRET_VAULT_KV_VERSION").getD "v2")
  | _ => .env

/-- `localBootstrap`. -/
def Env.localBootstrap (env : Env) (sshPort : Nat) : LocalBootstrapConfig where
  enabled := env.localBootstrapEnabled
  sshUsername := (env.given "PROXMOX_BOOTSTRAP_SSH_USERNAME").or (env.given "PROXMOX_SSH_USERNAME")
  sshPassword := (env "PROXMOX_BOOTSTRAP_SSH_PASSWORD").or (env "PROXMOX_SSH_PASSWORD")
  sshPort := sshPort
  hostKeyPolicy := (env.trimmed "PROXMOX_BOOTSTRAP_HOST_KEY_POLICY").getD "strict"
  expectedHostKey := env.given "PROXMOX_BOOTSTRAP_EXPECTED_HOST_KEY"
  apiUser := env.orElse "PROXMOX_BOOTSTRAP_API_USER" "root"
  apiRealm := env.orElse "PROXMOX_BOOTSTRAP_API_REALM" "pam"
  tokenId := env.orElse "PROXMOX_BOOTSTRAP_TOKEN_ID" "proxmox-mcp"
  comment := env.orElse "PROXMOX_BOOTSTRAP_COMMENT" "proxmox-mcp local bootstrap"
  privsep := (parseOptionalBoolean (env "PROXMOX_BOOTSTRAP_PRIVSEP")).getD false

/-- `mcpAuth`. -/
def Env.mcpAuth (env : Env) : McpAuthConfig :=
  if env.authMode = "oidc" then
    .oidc (env.orElse "PROXMOX_MCP_OIDC_ISSUER" "") (env.orElse "PROXMOX_MCP_OIDC_AUDIENCE" "")
      (env.given "PROXMOX_MCP_OIDC_JWKS_URL") (env.given "PROXMOX_MCP_OIDC_RESOURCE")
  else .none

/-- `buildEnvOnlyConfig`, for the host that is set. -/
def buildEnvOnlyConfig (env : Env) (host : String) :
    Except LoadError (RemoteConnectConfig String) := do
  let apiPort ← parseOptionalPositiveInt (env "PROXMOX_API_PORT")
  let sshPort ← parseOptionalPositiveInt (env "PROXMOX_SSH_PORT")
  let httpPort ← parseOptionalPositiveInt (env "PROXMOX_MCP_HTTP_PORT")
  return {
    mode := env.mode
    mcpAuth := env.mcpAuth
    http := {
      host := env.orElse "PROXMOX_MCP_HTTP_HOST" "127.0.0.1"
      port := httpPort.getD 8080
      path := env.orElse "PROXMOX_MCP_HTTP_PATH" "/mcp"
      publicBaseUrl := env.given "PROXMOX_MCP_HTTP_PUBLIC_BASE_URL"
      stateless := (parseOptionalBoolean (env "PROXMOX_MCP_HTTP_STATELESS")).getD false }
    secretStore := env.secretStore
    localBootstrap := env.localBootstrap (sshPort.getD 22)
    escapeEnabled := env.escapeEnabled
    cluster := {
      host := host
      apiPort := apiPort.getD 8006
      sshPort := sshPort.getD 22
      defaultNode := env.given "PROXMOX_DEFAULT_NODE"
      defaultBridge := env.orElse "PROXMOX_DEFAULT_BRIDGE" "vmbr0"
      defaultVmStorage := env.given "PROXMOX_DEFAULT_VM_STORAGE"
      defaultSnippetStorage := env.orElse "PROXMOX_DEFAULT_SNIPPET_STORAGE" "local"
      rejectUnauthorized :=
        (parseOptionalBoolean (env "PROXMOX_TLS_REJECT_UNAUTHORIZED")).getD false
      caFile := env.given "PROXMOX_TLS_CA_FILE" }
    auditLogPath := env.orElse "PROXMOX_MCP_AUDIT_LOG_PATH"
      (if env.mode = "stdio" ∧ env.authMode = "none" then devNull else ".proxmox-mcp-audit.log") }

/-! ## 3. The schema -/

/-- `z.number().int().positive()`, of a positive integer: a safe one. -/
def isSafeInteger (n : Nat) : Bool := n < 2 ^ 53

/-- `z.enum(["strict", "accept-new", "insecure"])`. -/
def isHostKeyPolicy (text : String) : Bool := text ∈ ["strict", "accept-new", "insecure"]

/-- `mcpAuthSchema`. -/
def McpAuthConfig.accepted (isUrl : String → Bool) : McpAuthConfig → Bool
  | .none => true
  | .oidc issuer audience jwksUrl resource =>
      isUrl issuer && audience != "" && jwksUrl.all isUrl && resource.all isUrl

/-- `secretStoreSchema`. -/
def SecretStoreConfig.accepted (isUrl : String → Bool) : SecretStoreConfig → Bool
  | .env => true
  | .file path => path != ""
  | .vault address path _ _ _ kvVersion =>
      isUrl address && path != "" && decide (kvVersion ∈ ["v1", "v2"])

/-- What `configSchema` asks of the rest. -/
def RemoteConnectConfig.accepted {Mode : Type} (isUrl : String → Bool)
    (config : RemoteConnectConfig Mode) : Bool :=
  config.mcpAuth.accepted isUrl && config.secretStore.accepted isUrl &&
    isSafeInteger config.http.port && config.http.publicBaseUrl.all isUrl &&
    isHostKeyPolicy config.localBootstrap.hostKeyPolicy &&
    isSafeInteger config.cluster.apiPort && isSafeInteger config.cluster.sshPort &&
    isUrl config.cluster.apiUrl &&
    (!config.localBootstrap.enabled ||
      (config.localBootstrap.sshUsername.getD "" != "" &&
        config.localBootstrap.sshPassword.getD "" != ""))

/-- `configSchema.parse`. -/
def parseConfig (isUrl : String → Bool) (config : RemoteConnectConfig String) :
    Except LoadError (RemoteConnectConfig ServerMode) :=
  match ServerMode.ofText config.mode with
  | none => .error .zod
  | some mode => if config.accepted isUrl then .ok { config with mode := mode } else .error .zod

/-! ## 4. Policies -/

/-- The production policy with the escapes. -/
def productionPolicyWithEscape : PolicyConfig :=
  { defaultProductionPolicy with
    allowCliFamilies := defaultAdminPolicy.allowCliFamilies
    allowShell := true
    allowFileRead := true
    allowFileWrite := true
    allowSudo := true }

/-- `buildPolicyDefaults`. -/
def buildPolicyDefaults (config : RemoteConnectConfig ServerMode) : List PolicyConfig :=
  if config.policies ≠ [] then config.policies
  else if config.mode = .stdio ∧ config.mcpAuth = .none ∧ config.localBootstrap.enabled then
    [defaultAdminPolicy]
  else if config.escapeEnabled then [productionPolicyWithEscape]
  else [defaultProductionPolicy]

/-- `applyRuntimeDefaults`. -/
def applyRuntimeDefaults (config : RemoteConnectConfig ServerMode) :
    RemoteConnectConfig ServerMode :=
  { config with policies := buildPolicyDefaults config }

/-- The checks of `loadConfig` after the schema. -/
def checkRuntime (hydrated : RemoteConnectConfig ServerMode) : Except LoadError Unit := do
  failIf (hydrated.mode ≠ .stdio ∧ hydrated.mcpAuth = .none)
    (.thrown "HTTP mode requires PROXMOX_MCP_AUTH_MODE=oidc or explicit local stdio-only mode.")
  failIf (match hydrated.mcpAuth with
      | .oidc issuer audience _ _ => issuer == "" || audience == ""
      | .none => false)
    (.thrown "OIDC auth requires PROXMOX_MCP_OIDC_ISSUER and PROXMOX_MCP_OIDC_AUDIENCE.")
  failIf (match hydrated.secretStore with
      | .vault address _ _ _ _ _ => address == ""
      | _ => false)
    (.thrown "Vault secret backend requires PROXMOX_MCP_SECRET_VAULT_ADDR.")
  failIf (hydrated.localBootstrap.enabled &&
      (hydrated.localBootstrap.sshUsername.getD "" == "" ||
        hydrated.localBootstrap.sshPassword.getD "" == ""))
    (.thrown "Local bootstrap mode requires PROXMOX_BOOTSTRAP_SSH_USERNAME/PROXMOX_BOOTSTRAP_SSH_PASSWORD or legacy PROXMOX_SSH_USERNAME/PROXMOX_SSH_PASSWORD.")

/-- `loadConfig`. -/
def loadConfig (isUrl : String → Bool) (env : Env) :
    Except LoadError (RemoteConnectConfig ServerMode) :=
  match env.given "PROXMOX_HOST" with
  | none => .error (.thrown "Missing required MCP env config. Set PROXMOX_HOST and choose either steady-state secrets (for example PROXMOX_API_TOKEN_*) or explicit local bootstrap envs in your client config.")
  | some host => do
    let envOnlyConfig ← buildEnvOnlyConfig env host
    let hydrated := applyRuntimeDefaults (← parseConfig isUrl envOnlyConfig)
    checkRuntime hydrated
    return hydrated

/-! ## 5. What is loaded -/

/-- The environment asks for the local bootstrap of a server that nobody else can reach. -/
def Env.isMaintainer (env : Env) : Bool :=
  env.mode = "stdio" && env.authMode ≠ "oidc" && env.localBootstrapEnabled

/-- The policies that follow from the environment. -/
def Env.policies (env : Env) : List PolicyConfig :=
  if env.isMaintainer then [defaultAdminPolicy]
  else if env.escapeEnabled then [productionPolicyWithEscape]
  else [defaultProductionPolicy]

omit [Text.Unicode] in
theorem ofText_stdio {text : String} {mode : ServerMode} (h : ServerMode.ofText text = some mode) :
    mode = .stdio ↔ text = "stdio" := by
  unfold ServerMode.ofText at h
  split at h
  · rename_i htext
    cases h
    exact ⟨fun _ => htext, fun _ => rfl⟩
  · rename_i htext
    split at h
    · cases h
      exact ⟨fun e => (nomatch e), fun e => absurd e htext⟩
    · split at h
      · cases h
        exact ⟨fun e => (nomatch e), fun e => absurd e htext⟩
      · cases h

omit [Text.Unicode] in
theorem mcpAuth_none {env : Env} : env.mcpAuth = .none ↔ env.authMode ≠ "oidc" := by
  unfold Env.mcpAuth
  split
  · rename_i h
    exact ⟨fun e => (nomatch e), fun hne => absurd h hne⟩
  · rename_i h
    exact ⟨fun _ => h, fun _ => rfl⟩

theorem buildEnvOnlyConfig_ok {env : Env} {host : String} {raw : RemoteConnectConfig String}
    (h : buildEnvOnlyConfig env host = .ok raw) :
    raw.mode = env.mode ∧ raw.mcpAuth = env.mcpAuth ∧
      raw.localBootstrap.enabled = env.localBootstrapEnabled ∧
      raw.escapeEnabled = env.escapeEnabled ∧ raw.policies = [] := by
  obtain ⟨apiPort, -, h⟩ := bind_eq_ok.mp h
  obtain ⟨sshPort, -, h⟩ := bind_eq_ok.mp h
  obtain ⟨httpPort, -, h⟩ := bind_eq_ok.mp h
  cases h
  exact ⟨rfl, rfl, rfl, rfl, rfl⟩

omit [Text.Unicode] in
theorem parseConfig_ok {isUrl : String → Bool} {raw : RemoteConnectConfig String}
    {parsed : RemoteConnectConfig ServerMode} (h : parseConfig isUrl raw = .ok parsed) :
    (parsed.mode = .stdio ↔ raw.mode = "stdio") ∧ parsed.mcpAuth = raw.mcpAuth ∧
      parsed.localBootstrap = raw.localBootstrap ∧ parsed.escapeEnabled = raw.escapeEnabled ∧
      parsed.policies = raw.policies := by
  unfold parseConfig at h
  split at h
  · cases h
  · rename_i mode hmode
    split at h
    · cases h
      exact ⟨ofText_stdio hmode, rfl, rfl, rfl, rfl⟩
    · cases h

/-- **What the environment loads**: its flag and its policies. -/
theorem loadConfig_ok {isUrl : String → Bool} {env : Env} {config : RemoteConnectConfig ServerMode}
    (h : loadConfig isUrl env = .ok config) :
    config.escapeEnabled = env.escapeEnabled ∧ config.policies = env.policies := by
  unfold loadConfig at h
  split at h
  · cases h
  · obtain ⟨raw, hraw, h⟩ := bind_eq_ok.mp h
    obtain ⟨parsed, hparsed, h⟩ := bind_eq_ok.mp h
    obtain ⟨_, -, h⟩ := bind_eq_ok.mp h
    obtain ⟨hmode, hauth, hbootstrap, hescape, hpolicies⟩ := buildEnvOnlyConfig_ok hraw
    obtain ⟨hmode', hauth', hbootstrap', hescape', hpolicies'⟩ := parseConfig_ok hparsed
    cases h
    have hmaintainer : (parsed.mode = .stdio ∧ parsed.mcpAuth = .none ∧
        parsed.localBootstrap.enabled = true) ↔ env.isMaintainer = true := by
      rw [hmode', hmode, hauth', hauth, hbootstrap', hbootstrap, mcpAuth_none]
      simp [Env.isMaintainer, and_assoc]
    refine ⟨hescape'.trans hescape, ?_⟩
    show buildPolicyDefaults parsed = env.policies
    rw [buildPolicyDefaults, Env.policies, hpolicies', hpolicies, hescape', hescape,
      if_neg (fun hne => hne rfl)]
    by_cases hm : env.isMaintainer = true
    · rw [if_pos (hmaintainer.mpr hm), if_pos hm]
    · rw [if_neg (fun hc => hm (hmaintainer.mp hc)), if_neg hm]

/-! ## 6. Which targets escape -/

/-- The permissions go beyond the typed operations. -/
def EffectivePolicy.GrantsEscape (effective : EffectivePolicy) : Prop :=
  effective.allowCliFamilies ≠ [] ∨ effective.allowShell = true ∨ effective.allowFileRead = true ∨
    effective.allowFileWrite = true ∨ effective.allowSudo = true

instance (effective : EffectivePolicy) : Decidable effective.GrantsEscape := by
  unfold EffectivePolicy.GrantsEscape
  infer_instance

/-- The text of a kind is among those a default policy lists, and matches itself. -/
theorem someMatches_kind (kind : TargetKind) :
    someMatches kind.text ["cluster", "node", "qemu_vm", "lxc_container", "linux_guest",
      "windows_guest"] = .ok true := by
  have hplain : ∀ p ∈ ["cluster", "node", "qemu_vm", "lxc_container", "linux_guest",
      "windows_guest"], '?' ∉ p.toList := by decide
  have hmem : kind.text ∈ ["cluster", "node", "qemu_vm", "lxc_container", "linux_guest",
      "windows_guest"] := by cases kind <;> decide
  have hstar : '*' ∉ kind.text.toList := by cases kind <;> decide
  obtain ⟨answer, hanswer, hiff⟩ := @someMatches_wildcards _ kind.text _ hplain
  have htrue : answer = true :=
    hiff.mpr ⟨kind.text, hmem, Wildcard.matches_self hstar, Nat.le_refl _⟩
  rw [hanswer, htrue]

/-- The `*` matches what is on one line. -/
theorem someMatches_star (value : String) : someMatches value ["*"] =
    .ok (decide (Wildcard.lines value.toList = 0)) := by
  obtain ⟨answer, hanswer, hiff⟩ := @someMatches_wildcards _ value ["*"] (by decide)
  have hstar : Wildcard.Matches "*".toList value.toList := by
    have hall : Wildcard.Matches ['*'] (value.toList ++ []) := .star value.toList .nil
    rwa [List.append_nil] at hall
  have hlines : Wildcard.lines "*".toList = 0 := by decide
  have htrue : answer = true ↔ Wildcard.lines value.toList = 0 := by
    rw [hiff]
    constructor
    · intro hparts
      obtain ⟨p, hp, _, hle⟩ := hparts
      rw [List.mem_singleton.mp hp, hlines] at hle
      exact Nat.le_zero.mp hle
    · intro hzero
      exact ⟨"*", List.mem_singleton_self _, hstar, by rw [hzero]; exact Nat.zero_le _⟩
  rw [hanswer, ← Bool.eq_iff_iff.mpr (htrue.trans decide_eq_true_iff.symm)]

/-- The permissions under one of the default policies: its own where the name of the cluster is on
    one line, the fallback's otherwise. -/
theorem getPolicy_default {policy : PolicyConfig} (h : policy.match_ = defaultAdminPolicy.match_)
    (target : TargetRef) : getPolicy [policy] target =
      .ok (if Wildcard.lines target.cluster.toList = 0 then defaultPolicy.overlay policy
        else defaultPolicy) := by
  have hmatches : matchesPolicy policy target =
      .ok (decide (Wildcard.lines target.cluster.toList = 0)) := by
    have hclusters : matchesPattern (some target.cluster) policy.match_.clusters =
        .ok (decide (Wildcard.lines target.cluster.toList = 0)) := by
      rw [h]
      exact someMatches_star target.cluster
    have hkinds : matchesPattern (some target.kind.text) policy.match_.targetKinds = .ok true := by
      rw [h]
      exact someMatches_kind target.kind
    have hids : ∀ id, matchesPattern id policy.match_.targetIds = .ok true := by
      rw [h]
      exact fun _ => rfl
    have hnodes : ∀ node, matchesPattern node policy.match_.nodeNames = .ok true := by
      rw [h]
      exact fun _ => rfl
    rw [matchesPolicy, hclusters, hkinds, hids, hnodes]
    cases decide (Wildcard.lines target.cluster.toList = 0) <;> rfl
  rw [getPolicy_singleton, policyStep, hmatches]
  by_cases hzero : Wildcard.lines target.cluster.toList = 0
  · rw [decide_eq_true hzero, if_pos hzero]
    rfl
  · rw [decide_eq_false hzero, if_neg hzero]
    rfl

/-- Only the typed operations are granted unless the configuration says otherwise, and never where
    the environment switches the escapes off. -/
def EscapesOnlyIfEnabled (env : Env) (config : RemoteConnectConfig ServerMode)
    (target : TargetRef) : Prop :=
  ∀ effective, getPolicy config.policies target = .ok effective → effective.GrantsEscape →
    config.escapeEnabled = true ∧
      parseOptionalBoolean (env "PROXMOX_MCP_ENABLE_ESCAPE") ≠ some false

/-- **Escapes are granted only where they are enabled** exactly if the environment enables them, or
    asks for no local bootstrap and the name of the cluster is on one line. -/
theorem escapeGrants_iff {isUrl : String → Bool} {env : Env}
    {config : RemoteConnectConfig ServerMode} (h : loadConfig isUrl env = .ok config)
    (target : TargetRef) : EscapesOnlyIfEnabled env config target ↔
      env.escapeEnabled = true ∨
        env.isMaintainer = false ∧ Wildcard.lines target.cluster.toList = 0 := by
  obtain ⟨hescape, hpolicies⟩ := loadConfig_ok h
  have hexplicit : env.escapeEnabled = true →
      parseOptionalBoolean (env "PROXMOX_MCP_ENABLE_ESCAPE") ≠ some false := by
    intro henabled hfalse
    rw [Env.escapeEnabled, hfalse] at henabled
    cases henabled
  have hfallback : defaultPolicy.GrantsEscape := by decide
  have hadmin : (defaultPolicy.overlay defaultAdminPolicy).GrantsEscape := by decide
  have hproduction : ¬(defaultPolicy.overlay defaultProductionPolicy).GrantsEscape := by decide
  unfold EscapesOnlyIfEnabled
  rw [hescape, hpolicies]
  by_cases henabled : env.escapeEnabled = true
  · exact ⟨fun _ => Or.inl henabled, fun _ _ _ _ => ⟨henabled, hexplicit henabled⟩⟩
  · rw [or_iff_right henabled]
    by_cases hmaintainer : env.isMaintainer = true
    · -- the local bootstrap grants everything, or the fallback grants file reads
      have hgranted := @getPolicy_default _ defaultAdminPolicy rfl target
      rw [Env.policies, if_pos hmaintainer]
      constructor
      · intro hlaw
        refine absurd (hlaw _ hgranted ?_).1 henabled
        split
        · exact hadmin
        · exact hfallback
      · intro hcond
        rw [hmaintainer] at hcond
        cases hcond.1
    · have hgranted := @getPolicy_default _ defaultProductionPolicy rfl target
      rw [Env.policies, if_neg hmaintainer, if_neg henabled]
      constructor
      · intro hlaw
        refine ⟨Bool.eq_false_iff.mpr hmaintainer, ?_⟩
        by_contra hlines
        rw [if_neg hlines] at hgranted
        exact henabled (hlaw _ hgranted hfallback).1
      · intro hcond effective heffective hgrants
        rw [if_pos hcond.2] at hgranted
        rw [hgranted] at heffective
        cases heffective
        exact absurd hgrants hproduction

/-- The environment of these settings. -/
def Env.ofList (settings : List (String × String)) : Env := fun key => settings.lookup key

/-- The host alone. -/
def hostOnly : Env := Env.ofList [("PROXMOX_HOST", "pve")]

/-- A local bootstrap, with the escapes switched off. -/
def bootstrapWithoutEscape : Env := Env.ofList [("PROXMOX_HOST", "pve"),
  ("PROXMOX_MCP_LOCAL_BOOTSTRAP", "1"), ("PROXMOX_SSH_USERNAME", "root"),
  ("PROXMOX_SSH_PASSWORD", "secret"), ("PROXMOX_MCP_ENABLE_ESCAPE", "false")]

/-- The one URL of both. -/
def isExampleUrl (text : String) : Bool := text = "https://pve:8006"

omit [Text.Unicode] in
theorem exists_loadConfig : letI := Text.asciiCase
    (∃ config, loadConfig isExampleUrl hostOnly = .ok config) ∧
      ∃ config, loadConfig isExampleUrl bootstrapWithoutEscape = .ok config := by
  let := Text.asciiCase
  exact ⟨⟨_, rfl⟩, _, rfl⟩

omit [Text.Unicode] in
/-- With the host alone, a node of the cluster is granted no escape. -/
theorem escapeGrants_iff_host : letI := Text.asciiCase
    ∃ config, loadConfig isExampleUrl hostOnly = .ok config ∧
      EscapesOnlyIfEnabled hostOnly config
        { cluster := "default", kind := .node, node := some "pve" } := by
  let := Text.asciiCase
  obtain ⟨config, hconfig⟩ := exists_loadConfig.1
  exact ⟨config, hconfig, (escapeGrants_iff hconfig _).mpr (by decide)⟩

omit [Text.Unicode] in
/-- The local bootstrap grants a shell although the escapes are switched off; and without it, a line
    break in the name of the cluster reads files. -/
theorem escapes_granted : letI := Text.asciiCase
    (∃ config, loadConfig isExampleUrl bootstrapWithoutEscape = .ok config ∧
      config.escapeEnabled = false ∧
      Permits config.policies { cluster := "default", kind := .node, node := some "pve" } .shell) ∧
    ∃ config, loadConfig isExampleUrl hostOnly = .ok config ∧ config.escapeEnabled = false ∧
      Permits config.policies { cluster := "a\nb", kind := .node, node := some "pve" }
        (.file false) := by
  let := Text.asciiCase
  obtain ⟨⟨plain, hplain⟩, bootstrap, hbootstrap⟩ := exists_loadConfig
  refine ⟨⟨bootstrap, hbootstrap, ?_⟩, plain, hplain, ?_⟩
  · rw [(loadConfig_ok hbootstrap).1, (loadConfig_ok hbootstrap).2]
    decide
  · rw [(loadConfig_ok hplain).1, (loadConfig_ok hplain).2]
    decide

end ProxmoxMcp
