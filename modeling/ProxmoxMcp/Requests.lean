/-
  File:      ProxmoxMcp/Requests.lean
  Subject:   REST REQUESTS OF THE SERVICE (`services.ts`, `ProxmoxApiClient.request`): one attempt,
             the repair and the second attempt, the validated call, and the waits on tasks.
-/
import ProxmoxMcp.World

namespace ProxmoxMcp

open Js Effects

variable [Text.Unicode]

/-! ## 1. One attempt -/

/-- `buildHeaders`: which authentications can send at all. -/
def buildHeaders (clusterName : String) (cluster : ClusterConfig) : M Unit := do
  let auth : ClusterAuthConfig ← Prog.perform (Effect.currentAuth clusterName)
  match auth with
  | .api_token .. => pure ()
  | .secret_ref _ =>
      throw s!"Cluster {cluster.name} is not hydrated with steady-state API credentials yet"
  | .ssh_bootstrap .. =>
      throw s!"Cluster {cluster.name} is still configured for local bootstrap and is not valid for normal API runtime"
  | .ticket .. =>
      if !(← attempt (.ticketLogin clusterName) rfl) then
        throw s!"Proxmox ticket authentication failed for cluster {cluster.name}"

/-- `getApiClient(clusterName).request(method, pathname, args)`. -/
def Service.request (S : Service) (purpose : Purpose) (clusterName method pathname : String)
    (args : List (String × Value)) : M Value := do
  let cluster ← Prog.ofExcept (getCluster S.config clusterName)
  let request ← Prog.ofExcept (buildRequest cluster method pathname args)
  buildHeaders clusterName cluster
  let reply ← attempt (.send ⟨purpose, clusterName, request⟩) rfl
  Prog.ofExcept (readReply method pathname reply)

/-! ## 2. Repair and second attempt -/

/-- `\w`. -/
def isRegexWord (c : Char) : Bool := c.isAlphanum || c == '_'

/-- Does a text continue a word? -/
def startsWithWord : List Char → Bool
  | [] => false
  | c :: _ => isRegexWord c

/-- `/\bw\b/`, for a `w` that begins and ends with word characters; `inWord` says that the
    character before is one. -/
def hasWord (w : List Char) : Bool → List Char → Bool
  | _, [] => false
  | inWord, c :: s =>
      (!inWord && w.isPrefixOf (c :: s) && !startsWithWord ((c :: s).drop w.length)) ||
        hasWord w (isRegexWord c) s

/-- Does the text begin with `w`, up to case? -/
def prefixFold : List Char → List Char → Bool
  | [], _ => true
  | _ :: _, [] => false
  | c :: w, d :: s => Regex.CaseFold.fold d == Regex.CaseFold.fold c && prefixFold w s

/-- `/w/i`. -/
def includesFold (w : List Char) : List Char → Bool
  | [] => w.isEmpty
  | c :: s => prefixFold w (c :: s) || includesFold w s

/-- The three alternatives of `isApiAuthError`, on one text. -/
def mentionsAuth (text : List Char) : Bool :=
  hasWord "401".toList false text || includesFold "ticket authentication failed".toList text ||
    includesFold "authentication".toList text

/-- `isApiAuthError`. -/
def isApiAuthError (message : String) : Bool := mentionsAuth message.toList

/-- `isSshAuthError`. -/
def isSshAuthError (message : String) : Bool :=
  includesFold "permission denied".toList message.toList ||
    includesFold "authentication failed".toList message.toList ||
    includesFold "all configured authentication methods failed".toList message.toList

/-- `apiRequest` with `allowRepair = false`. -/
def Service.apiRequestFinal (S : Service) (purpose : Purpose)
    (clusterName method path : String) (args : List (String × Value)) : M Value := do
  S.ensureCluster clusterName
  S.request purpose clusterName method path args

/-- `apiRequest`. -/
def Service.apiRequest (S : Service) (purpose : Purpose) (clusterName method path : String)
    (args : List (String × Value) := []) : M Value := do
  S.ensureCluster clusterName
  tryCatch (S.request purpose clusterName method path args) fun m => do
    if S.hasManagedCluster clusterName && isApiAuthError m then
      attempt (.repairCluster clusterName "api_auth_failure") rfl
      S.apiRequestFinal purpose clusterName method path args
    else throw m

/-! ## 3. Validated calls -/

/-- An assertion of the policy service. A denial fails the call, a pass leaves its mark. -/
def Service.assertPermission (S : Service) (target : TargetRef) (permission : Permission) :
    M Unit := do
  Prog.ofExcept (assertAccess S.config.policies target permission)
  Prog.perform (Effect.passed permission target)

/-- `audit.record`. -/
def Service.auditRecord (_S : Service) (action : String) (target : TargetRef)
    (fields : List (String × Value)) : M Unit := attempt (.audit ⟨action, target, fields⟩) rfl

/-- What `proxmoxApiCall` returns. -/
structure ApiResult where
  data : Value
  upid : Option String

/-- `proxmoxApiCall`. -/
def Service.proxmoxApiCall (S : Service) (target : TargetRef) (method path : String)
    (args : List (String × Value)) : M ApiResult := do
  S.assertPermission target (.api method)
  let validated ← Prog.ofExcept (validate S.catalog method path args)
  S.auditRecord "proxmox_api_call" target
    [("method", .str method), ("path", .str path), ("args", .obj validated.args)]
  let data ← S.apiRequest ⟨.direct, target, none⟩ target.cluster method path validated.args
  return ⟨data, isUpid data⟩

/-! ## 4. Tasks -/

/-- `upid.split(":")[1]`, if it is there and not empty. -/
def upidNode (upid : String) : Except String String :=
  match Text.splitOn ':' upid.toList with
  | _ :: node :: _ =>
      if node.isEmpty then .error s!"Invalid UPID '{upid}'" else .ok (String.ofList node)
  | _ => .error s!"Invalid UPID '{upid}'"

/-- The path of a task. -/
def taskPath (node upid suffix : String) : String :=
  "/nodes/" ++ Url.encodeURIComponent node ++ "/tasks/" ++ Url.encodeURIComponent upid ++ suffix

/-- `value.key`, which throws on `undefined` and `null`. -/
def readProperty (value : Value) (key : String) : Except String Value :=
  match value with
  | .undefined => .error s!"Cannot read properties of undefined (reading '{key}')"
  | .null => .error s!"Cannot read properties of null (reading '{key}')"
  | v => .ok (v.get key)

/-- What task requests are for: they are asked of the cluster. -/
def taskPurpose (cluster : String) : Purpose := ⟨.direct, { cluster := cluster, kind := .cluster }, none⟩

/-- `getTaskStatus`. -/
def Service.getTaskStatus (S : Service) (cluster node upid : String) : M Value :=
  S.apiRequest (taskPurpose cluster) cluster "GET" (taskPath node upid "/status")

/-- `getTaskLog`. -/
def Service.getTaskLog (S : Service) (cluster node upid : String) : M Value :=
  S.apiRequest (taskPurpose cluster) cluster "GET" (taskPath node upid "/log")

/-- `cancelUpid`. -/
def Service.cancelUpid (S : Service) (cluster upid : String) : M Unit := do
  let node ← Prog.ofExcept (upidNode upid)
  let _ ← S.apiRequest (taskPurpose cluster) cluster "DELETE" (taskPath node upid "")

/-- The loop of `waitForUpid`: poll until the task has stopped. After `fuel` rounds the run is
    followed no further. -/
def Service.pollUpid (S : Service) (cluster node upid : String) (pollIntervalMs : Nat)
    (onProgress : ProgressSnapshot → M Unit) : Nat → Nat → M Value
  | 0, _ => .cut
  | fuel + 1, attempts => do
      if ← (Prog.perform Effect.aborted : M Bool) then
        throw "Task wait aborted"
      let status ← S.getTaskStatus cluster node upid
      match ← Prog.ofExcept (readProperty status "status") with
      | .str "stopped" => return status
      | _ =>
        onProgress ⟨attempts + 1, none, some s!"Waiting for task {upid}"⟩
        attempt (.sleep pollIntervalMs) rfl
        S.pollUpid cluster node upid pollIntervalMs onProgress fuel (attempts + 1)

/-- `waitForUpid`: the last status and the log. -/
def Service.waitForUpid (S : Service) (cluster upid : String) (pollIntervalMs : Nat)
    (onProgress : ProgressSnapshot → M Unit) (fuel : Nat) : M Value := do
  let node ← Prog.ofExcept (upidNode upid)
  let status ← S.pollUpid cluster node upid pollIntervalMs onProgress fuel 0
  let log ← S.getTaskLog cluster node upid
  return .obj [("status", status), ("log", log)]

end ProxmoxMcp
