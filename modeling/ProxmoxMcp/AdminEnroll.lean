/-
  File:      ProxmoxMcp/AdminEnroll.lean
  Subject:   THE ADMIN OPERATIONS (`admin-enroll.ts`): `enroll`, `rotate` and `deprovision` on the
             bootstrap host and the secret store.

  An operation is a program over what it does: commands on the host, reads of the clock, the key
  generator, the secret store, and the request that validates a token. The text of a time
  (`toISOString`, which throws outside its range) is answered by the world as well.
-/
import ProxmoxMcp.AdminSecrets
import ProxmoxMcp.Secrets
import ProxmoxMcp.Ssh
import ProxmoxMcp.Lib.Prog

namespace ProxmoxMcp

open Js Effects

/-! ## 1. Options -/

/-- `BootstrapConnection`. -/
structure BootstrapConnection where
  host : String
  port : Option Nat := none
  username : String
  password : Option String := none
  privateKey : Option String := none
  passphrase : Option String := none
  hostKeyPolicy : Option HostKeyPolicy := none
  expectedHostKey : Option String := none
  deriving DecidableEq

/-- `generateShellKeyPair`'s result. -/
structure ShellKeyPair where
  privateKey : String
  publicKey : String
  deriving DecidableEq

/-- `AdminIdentityOptions` with the bootstrap connection and the key pair of an enrollment; the
    secret store is an effect. -/
structure AdminOptions where
  cluster : String
  node : String
  apiUser : String
  apiRealm : String
  tokenId : String
  tokenComment : Option String := none
  tokenExpireSeconds : Option Nat := none
  shellUsername : String
  sudoersAllowlist : Option (List String) := none
  shellReference : Option String := none
  bootstrap : BootstrapConnection
  shellKeyPair : Option ShellKeyPair := none
  deriving DecidableEq

/-- `buildApiTokenSecretId`. -/
def buildApiTokenSecretId (o : AdminOptions) : String :=
  o.cluster ++ ":api-token:" ++ o.apiUser ++ "@" ++ o.apiRealm ++ "!" ++ o.tokenId

/-- `buildShellKeySecretId`. -/
def buildShellKeySecretId (o : AdminOptions) : String :=
  o.cluster ++ ":shell-key:" ++ o.node ++ ":" ++ o.shellUsername

/-- `buildShellReferenceSecretId`. -/
def buildShellReferenceSecretId (o : AdminOptions) : String :=
  o.cluster ++ ":shell-reference:" ++ o.node ++ ":" ++ o.shellUsername

/-- The three ids built from the options. -/
def secretIds (o : AdminOptions) : List String :=
  [buildApiTokenSecretId o, buildShellKeySecretId o, buildShellReferenceSecretId o]

/-! ## 2. Effects -/

inductive AdminEffect where
  | exec (host : String) (port : Nat) (profile : SshProfileConfig) (command : String)
  | dateNow
  | nowIso
  | isoTime (ms : Nat)
  | generateShellKeyPair (comment : String)
  | storeRead
  | storeWrite (document : SecretDocument)
  | storeDelete
  | validateApiToken (host user realm tokenId secret : String)

/-- What an effect is answered with. -/
@[reducible] def AdminEffect.Reply : AdminEffect → Type
  | .exec .. => Except String CommandResult
  | .dateNow => Nat
  | .nowIso => String
  | .isoTime _ => Except String String
  | .generateShellKeyPair _ => ShellKeyPair
  | .storeRead => Except String SecretDocument
  | .storeWrite _ => Except String Unit
  | .storeDelete => Except String Unit
  | .validateApiToken .. => Except String Unit

/-- An admin operation. -/
abbrev Admin (α : Type) : Type := Prog AdminEffect AdminEffect.Reply String α

/-- What an operation does and is answered. -/
abbrev AdminHistory : Type := Trace AdminEffect.Reply

/-! ## 3. The bootstrap host -/

/-- `buildBootstrapProfile`. -/
def adminBootstrapProfile (connection : BootstrapConnection) : SshProfileConfig where
  name := "__admin_bootstrap__"
  username := connection.username
  port := connection.port.getD 22
  password := connection.password
  privateKey := connection.privateKey
  passphrase := connection.passphrase
  hostKeyPolicy := connection.hostKeyPolicy.getD .strict
  expectedHostKey := connection.expectedHostKey

/-- `s.trim()`. -/
def trimmed (s : String) : String := String.ofList (Text.trim s.toList)

/-- A non-zero exit code is an error: what the command wrote, or the message. -/
def commandOutput (message : String) (result : CommandResult) : Except String String :=
  if result.exitCode ≠ 0 then .error (if result.stderr = "" then message else result.stderr)
  else .ok (trimmed result.stdout)

/-- `execBootstrapCommand`. -/
def execBootstrapCommand (connection : BootstrapConnection) (command : String) : Admin String := do
  let reply ← Prog.perform (.exec connection.host (connection.port.getD 22)
    (adminBootstrapProfile connection) command)
  let result ← Prog.ofExcept reply
  Prog.ofExcept (commandOutput s!"Bootstrap command failed for {connection.host}" result)

/-- The two ways to run as root. -/
inductive BootstrapMode where
  | root
  | sudo (password : String)

/-- `detectBootstrapMode`. -/
def detectBootstrapMode (connection : BootstrapConnection) : Admin BootstrapMode := do
  let direct ← execBootstrapCommand connection "/bin/sh -lc 'id -u'"
  if trimmed direct = "0" then return .root
  else match connection.password with
    | none => throw "Bootstrap SSH access requires root or password-based sudo"
    | some password =>
      if password = "" then throw "Bootstrap SSH access requires root or password-based sudo"
      else
        let check := shellScript
          ("printf '%s\n' " ++ shellQuote password ++ " | sudo -S -p '' id -u")
        let sudoCheck ← execBootstrapCommand connection check
        if trimmed sudoCheck ≠ "0" then
          throw "Bootstrap account does not have root or password-based sudo access"
        else return .sudo password

/-- `runBootstrapScript`. -/
def runAdminScript (connection : BootstrapConnection) (script : String) : Admin String := do
  match ← detectBootstrapMode connection with
  | .root => execBootstrapCommand connection (shellScript (nodeScript script))
  | .sudo password => execBootstrapCommand connection (shellScript
      ("printf '%s\n' " ++ shellQuote password ++ " | sudo -S -p '' /bin/bash -lc " ++
        shellQuote (nodeScript script)))

/-! ## 4. The scripts -/

/-- `allowlistDefaults`. -/
def allowlistDefaults : List String :=
  ["/usr/bin/pvesh", "/usr/sbin/qm", "/usr/sbin/pct", "/usr/bin/pvesm", "/usr/sbin/pveum",
    "/usr/bin/pvenode", "/usr/bin/pvecm", "/usr/bin/pveceph", "/usr/bin/pvesr", "/usr/bin/vzdump",
    "/usr/bin/apt"]

/-- `buildSudoersLine`. -/
def buildSudoersLine (shellUsername : String) (allowlist : Option (List String)) : String :=
  let normalized := match allowlist with
    | some (entry :: entries) => entry :: entries
    | _ => allowlistDefaults
  shellUsername ++ " ALL=(ALL) NOPASSWD: " ++
    String.ofList (Text.joinWith [',', ' '] (normalized.map String.toList))

/-- `buildEnrollmentScript`, with the text of `tokenExpire`. -/
def enrollmentScript (o : AdminOptions) (shellPublicKey mode tokenExpire : String) : String :=
  let allowlist := buildSudoersLine o.shellUsername o.sudoersAllowlist
  joinLines [
    "set -euo pipefail",
    "api_user=" ++ shellQuote o.apiUser,
    "api_realm=" ++ shellQuote o.apiRealm,
    "api_userid=" ++ shellQuote (o.apiUser ++ "@" ++ o.apiRealm),
    "token_id=" ++ shellQuote o.tokenId,
    "token_comment=" ++ shellQuote (o.tokenComment.getD "proxmox-mcp admin enrollment"),
    "token_expire=" ++ shellQuote tokenExpire,
    "shell_user=" ++ shellQuote o.shellUsername,
    "shell_home=" ++ shellQuote ("/home/" ++ o.shellUsername),
    "shell_pubkey=" ++ shellQuote shellPublicKey,
    "sudoers_path=" ++ shellQuote "/etc/sudoers.d/proxmox-mcp-shell",
    "sudoers_line=" ++ shellQuote allowlist,
    "node_name=$(hostname -s 2>/dev/null || hostname)",
    "if ! id -u \"$shell_user\" >/dev/null 2>&1; then useradd -m -s /bin/bash \"$shell_user\"; fi",
    "install -d -m 0700 \"$shell_home/.ssh\"",
    "cat > \"$shell_home/.ssh/authorized_keys\" <<'EOF'",
    shellPublicKey,
    "EOF",
    "chown -R \"$shell_user:$shell_user\" \"$shell_home/.ssh\"",
    "chmod 0600 \"$shell_home/.ssh/authorized_keys\"",
    "install -d -m 0755 /etc/sudoers.d",
    "cat > \"$sudoers_path\" <<'EOF'",
    allowlist,
    "EOF",
    "chmod 0440 \"$sudoers_path\"",
    "if command -v visudo >/dev/null 2>&1; then visudo -cf \"$sudoers_path\" >/dev/null; fi",
    "pveum user add \"$api_userid\" --comment \"$token_comment\" >/dev/null 2>&1 || true",
    "pveum user modify \"$api_userid\" --enable 1 --comment \"$token_comment\" >/dev/null 2>&1 || true",
    "pveum acl modify / --users \"$api_userid\" --roles Administrator >/dev/null",
    "pveum user token delete \"$api_userid\" \"$token_id\" >/dev/null 2>&1 || true",
    "token_json=$(pveum user token add \"$api_userid\" \"$token_id\" --comment \"$token_comment\" --privsep 0 --expire \"$token_expire\" --output-format json)",
    "export TOKEN_JSON=\"$token_json\"",
    "export NODE_NAME=\"$node_name\"",
    "python3 - <<'PY'",
    "import json, os",
    "token = json.loads(os.environ['TOKEN_JSON'])",
    "print(json.dumps(\x7b",
    "  'node': os.environ['NODE_NAME'],",
    "  'fullTokenId': token['full-tokenid'],",
    "  'value': token['value'],",
    "  'expire': " ++ tokenExpire ++ ",",
    "  'mode': \"" ++ mode ++ "\",",
    "\x7d))",
    "PY"]

/-- `buildEnrollmentScript`, at the time in seconds. -/
def buildEnrollmentScript (o : AdminOptions) (shellPublicKey mode : String) (seconds : Nat) :
    String :=
  enrollmentScript o shellPublicKey mode
    (toString (seconds + o.tokenExpireSeconds.getD (20 * 60)))

/-- The script of `deprovision`. -/
def buildDeprovisionScript (o : AdminOptions) : String :=
  joinLines [
    "set -euo pipefail",
    "api_userid=" ++ shellQuote (o.apiUser ++ "@" ++ o.apiRealm),
    "token_id=" ++ shellQuote o.tokenId,
    "shell_user=" ++ shellQuote o.shellUsername,
    "pveum user token delete \"$api_userid\" \"$token_id\" >/dev/null 2>&1 || true",
    "pveum user delete \"$api_userid\" >/dev/null 2>&1 || true",
    "rm -f /etc/sudoers.d/proxmox-mcp-shell",
    "if id -u \"$shell_user\" >/dev/null 2>&1; then userdel -r \"$shell_user\" >/dev/null 2>&1 || true; fi"]

/-! ## 5. Replies and records -/

/-- What `commandResultSchema` asks of the script's reply. -/
structure EnrollmentReply where
  node : String
  fullTokenId : String
  value : String
  expire : Nat

/-- `z.number().int().positive()`: an integer a double holds exactly. -/
def positiveInt (v : Value) : Option Nat :=
  match v with
  | .num (.rat q) => if q.den = 1 ∧ 0 < q.num ∧ q.num < 2 ^ 53 then some q.num.toNat else none
  | _ => none

/-- `commandResultSchema`. -/
def parseCommandResult (v : Value) : Option EnrollmentReply := do
  let node ← requiredText (v.get "node")
  let fullTokenId ← requiredText (v.get "fullTokenId")
  let value ← requiredText (v.get "value")
  let expire ← positiveInt (v.get "expire")
  return ⟨node, fullTokenId, value, expire⟩

/-- `commandResultSchema.parse(JSON.parse(stdout))`. -/
def enrollmentReply (stdout : String) : Except String EnrollmentReply :=
  match Js.parse stdout with
  | none => .error "the reply is no JSON text"
  | some v =>
    match parseCommandResult v with
    | none => .error "the reply does not pass the schema"
    | some reply => .ok reply

/-- `makeSecretBase`: both times are one reading of the clock. -/
def makeSecretBase (id : String) (metadata : List (String × Value)) (detail : SecretDetail) :
    Admin SecretRecord := do
  let timestamp ← Prog.perform .nowIso
  return ⟨id, timestamp, timestamp, ("lifecycle", .str "active") :: metadata, detail⟩

/-- `makeApiTokenRecord`. -/
def makeApiTokenRecord (o : AdminOptions) (tokenSecret expireAt : String) : Admin SecretRecord :=
  makeSecretBase (buildApiTokenSecretId o)
    [("cluster", .str o.cluster), ("node", .str o.node), ("purpose", .str "typed-api")]
    (.proxmox_api_token o.apiUser o.apiRealm o.tokenId tokenSecret o.tokenComment (some expireAt))

/-- The metadata of a shell record: a missing host key is no property of the stored document. -/
def shellMetadata (o : AdminOptions) (purpose : String) : List (String × Value) :=
  [("cluster", .str o.cluster), ("node", .str o.node), ("purpose", .str purpose),
    ("hostKeyPolicy", .str (o.bootstrap.hostKeyPolicy.getD .strict).text)] ++
    optionalField "expectedHostKey" o.bootstrap.expectedHostKey

/-- `makeShellKeyRecord`. -/
def makeShellKeyRecord (o : AdminOptions) (keyPair : ShellKeyPair) : Admin SecretRecord :=
  makeSecretBase (buildShellKeySecretId o) (shellMetadata o "high-risk-shell")
    (.shell_ssh_key o.shellUsername keyPair.privateKey keyPair.publicKey none)

/-- `makeShellReferenceRecord`. -/
def makeShellReferenceRecord (o : AdminOptions) (reference : String) : Admin SecretRecord :=
  makeSecretBase (buildShellReferenceSecretId o) (shellMetadata o "high-risk-shell-reference")
    (.shell_ssh_reference o.shellUsername reference)

/-- `upsertSecret`, with its two readings of the clock. -/
def upsertSecretNow (document : SecretDocument) (record : SecretRecord) : Admin SecretDocument := do
  let recordNow ← Prog.perform .nowIso
  let now ← Prog.perform .nowIso
  return upsertSecret recordNow now document record

/-! ## 6. The operations -/

/-- The profile of `validateShellKey`. -/
def validatedShellProfile (connection : BootstrapConnection) (username privateKey : String)
    (passphrase : Option String) : SshProfileConfig where
  name := "__validated_shell__"
  username := username
  port := connection.port.getD 22
  privateKey := some privateKey
  passphrase := passphrase
  hostKeyPolicy := connection.hostKeyPolicy.getD .strict
  expectedHostKey := connection.expectedHostKey

/-- `validateApiToken(…, getSecret(nextDocument, …))`. -/
def validateApiToken (o : AdminOptions) (document : SecretDocument) : Admin Unit := do
  match (getSecret document (buildApiTokenSecretId o)).map SecretRecord.detail with
  | some (.proxmox_api_token user realm tokenId secret _ _) =>
    let reply ← Prog.perform (.validateApiToken o.bootstrap.host user realm tokenId secret)
    Prog.ofExcept reply
  | _ => throw "Cannot read properties of undefined (reading 'user')"

/-- `validateShellKey(…, getSecret(nextDocument, …))`. -/
def validateShellKey (o : AdminOptions) (document : SecretDocument) : Admin Unit := do
  match (getSecret document (buildShellKeySecretId o)).map SecretRecord.detail with
  | some (.shell_ssh_key username privateKey _ passphrase) =>
    let reply ← Prog.perform (.exec o.bootstrap.host (o.bootstrap.port.getD 22)
      (validatedShellProfile o.bootstrap username privateKey passphrase) "id -u && hostname -s")
    let result ← Prog.ofExcept reply
    let _ ← Prog.ofExcept
      (commandOutput s!"Shell validation failed for {o.shellUsername}" result)
  | _ => throw "Cannot read properties of undefined (reading 'username')"

/-- The part of `enroll` that puts the document together. -/
def enrollmentDocument (o : AdminOptions) (keyPair : ShellKeyPair) (tokenSecret expireAt : String) :
    Admin SecretDocument := do
  let created ← Prog.perform .nowIso
  let token ← makeApiTokenRecord o tokenSecret expireAt
  let withToken ← upsertSecretNow (createSecretDocument created) token
  let shell ← (if isPresent o.shellReference then
      makeShellReferenceRecord o (o.shellReference.getD "")
    else makeShellKeyRecord o keyPair : Admin SecretRecord)
  upsertSecretNow withToken shell

/-- `ProvisionedEnrollmentResult`. -/
structure ProvisionedEnrollmentResult where
  cluster : String
  node : String
  apiTokenId : String
  shellUsername : String
  shellReference : String
  secretIds : List String
  hostKeyPolicy : HostKeyPolicy
  tokenExpiresAt : String

/-- `enroll`, once the key pair is there. -/
def enrollWith (o : AdminOptions) (keyPair : ShellKeyPair) : Admin ProvisionedEnrollmentResult := do
  let ms ← Prog.perform .dateNow
  let stdout ← runAdminScript o.bootstrap
    (buildEnrollmentScript o keyPair.publicKey "enroll" (ms / 1000))
  let parsed ← Prog.ofExcept (enrollmentReply stdout)
  let text ← Prog.perform (.isoTime (parsed.expire * 1000))
  let expireAt ← Prog.ofExcept text
  let nextDocument ← enrollmentDocument o keyPair parsed.value expireAt
  let written ← Prog.perform (.storeWrite nextDocument)
  Prog.ofExcept written
  validateApiToken o nextDocument
  (if isPresent o.shellReference then pure () else validateShellKey o nextDocument : Admin Unit)
  return {
    cluster := o.cluster
    node := parsed.node
    apiTokenId := buildApiTokenSecretId o
    shellUsername := o.shellUsername
    shellReference := o.shellReference.getD (o.cluster ++ ":" ++ o.node ++ ":" ++ o.shellUsername)
    secretIds := nextDocument.records.map SecretRecord.id
    hostKeyPolicy := o.bootstrap.hostKeyPolicy.getD .strict
    tokenExpiresAt := expireAt }

/-- `enroll`. -/
def enroll (o : AdminOptions) : Admin ProvisionedEnrollmentResult := do
  match o.shellKeyPair with
  | some keyPair => enrollWith o keyPair
  | none =>
    let keyPair ← Prog.perform (.generateShellKeyPair o.shellUsername)
    enrollWith o keyPair

/-- `rotate`: the ids that were there, and an enrollment. -/
def rotate (o : AdminOptions) : Admin (ProvisionedEnrollmentResult × List String) := do
  let reply ← Prog.perform .storeRead
  let current ← Prog.ofExcept reply
  let enrollment ← enroll o
  return (enrollment, current.records.map SecretRecord.id)

/-- `deprovision`: was anything deleted, and the ids that were there. -/
def deprovision (o : AdminOptions) : Admin (Bool × List String) := do
  let reply ← Prog.perform .storeRead
  let document ← Prog.ofExcept reply
  let ids := document.records.map SecretRecord.id
  if (secretIds o).all fun id => (getSecret document id).isNone then return (false, ids)
  else
    let _ ← runAdminScript o.bootstrap (buildDeprovisionScript o)
    let deleted ← Prog.perform .storeDelete
    Prog.ofExcept deleted
    return (true, ids)

/-- The operations that write. -/
inductive AdminOperation where
  | enroll
  | rotate
  | deprovision
  deriving DecidableEq

/-- The operation, whatever it returns. -/
def AdminOperation.perform (o : AdminOptions) : AdminOperation → Admin Unit
  | .enroll => do
    let _ ← ProxmoxMcp.enroll o
    return ()
  | .rotate => do
    let _ ← ProxmoxMcp.rotate o
    return ()
  | .deprovision => do
    let _ ← ProxmoxMcp.deprovision o
    return ()

end ProxmoxMcp
