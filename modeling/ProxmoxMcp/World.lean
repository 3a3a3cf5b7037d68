/-
  File:      ProxmoxMcp/World.lean
  Subject:   WHAT THE SERVER DOES TO THE WORLD: its effects, what they are answered with, and the
             service they are performed by.

  A call of the server is a program over these effects; the world answers each of them. The
  configuration and the catalog do not change during a call, but the authentication of a cluster
  does (a repair writes it), so reading it is an effect.

  An effect that reaches Proxmox says what it is done for and which resource it reaches. These
  marks are not in the source: `purpose` names the operation whose transport the request or
  command is (`direct` where the REST call itself was asked for) and the target it was asked on,
  `guest` the VM whose agent a request addresses, `site` the node, container or VM on which a
  command runs.
-/
import ProxmoxMcp.Lib.Prog
import ProxmoxMcp.Api
import ProxmoxMcp.Policy
import ProxmoxMcp.Ssh

namespace ProxmoxMcp

open Js Effects

/-! ## 1. What reaches Proxmox -/

/-- The operation a request or a command implements. -/
inductive Operation where
  | direct
  | shell
  | file (write : Bool)
  | cli (family : String)
  deriving DecidableEq, Repr

/-- What a request or a command is for. -/
structure Purpose where
  operation : Operation
  target : TargetRef
  guest : Option TargetRef := none
  deriving DecidableEq, Repr

/-- A REST request on behalf of a call. -/
structure RestCall where
  purpose : Purpose
  cluster : String
  request : RestRequest
  deriving DecidableEq, Repr

/-- How a command gets to its machine. -/
inductive Transport where
  | ssh (host : String) (port : Option Nat) (profile : String)
  | winrm (host : String) (profile : String)
  deriving DecidableEq, Repr

/-- A command on behalf of a call. -/
structure RemoteCommand where
  purpose : Purpose
  cluster : String
  site : TargetRef
  transport : Transport
  command : String
  deriving DecidableEq, Repr

/-- `ClusterResource`, an entry of `/cluster/resources`. -/
structure ClusterResource where
  id : String
  type : String
  node : Option String := none
  vmid : Option Nat := none
  name : Option String := none
  status : Option String := none
  template : Option Nat := none
  deriving DecidableEq, Repr

/-- `CachedResourceState`; the resources are the reply as it came. -/
structure CachedResourceState where
  fetchedAt : Nat
  resources : Value

/-- An audit record: the action, its target and its other fields. -/
structure AuditEntry where
  action : String
  target : TargetRef
  fields : List (String × Value) := []

/-! ## 2. Jobs and artifacts -/

/-- `ArtifactBacking`, with what is behind it. -/
inductive ArtifactBacking where
  | memory (data : List UInt8)
  | temp_file (path : String)
  | local_file (path : String)
  | proxmox_file (target : TargetRef) (filePath : String)
  deriving DecidableEq, Repr

/-- The target of a job: a `TargetRef`, or the object that a job id holds in its place. -/
structure JobTarget where
  cluster : String
  json : Value

/-- A target as the object of the source. -/
def TargetRef.toValue (t : TargetRef) : Value :=
  .obj ([("cluster", .str t.cluster), ("kind", .str t.kind.text)] ++
    (t.node.map fun n => ("node", Value.str n)).toList ++
    (t.vmid.map fun n => ("vmid", Value.nat n)).toList)

def TargetRef.toJobTarget (t : TargetRef) : JobTarget := ⟨t.cluster, t.toValue⟩

/-- `ServerJob`; its timestamps are left out, and its logs and progress are the effects that
    write them. -/
structure ServerJob where
  jobId : String
  target : JobTarget
  operation : String
  state : JobState
  relatedUpid : Option String := none
  result : Value := .undefined
  error : Option String := none

/-! ## 3. Effects -/

inductive Effect where
  | passed (permission : Permission) (target : TargetRef)
  | audit (entry : AuditEntry)
  | ensureCluster (cluster : String)
  | repairCluster (cluster reason : String)
  | currentAuth (cluster : String)
  | setClusterAuth (cluster : String) (auth : ClusterAuthConfig)
  | ticketLogin (cluster : String)
  | send (call : RestCall)
  | exec (command : RemoteCommand)
  | cacheGet (cluster : String)
  | cacheSet (cluster : String) (state : CachedResourceState)
  | cacheDelete (cluster : String)
  | now
  | aborted
  | sleep (ms : Nat)
  | progress (snapshot : ProgressSnapshot)
  | appendLog (line : String)
  | setProgress (snapshot : ProgressSnapshot)
  | readFile (path : String)
  | findJob (jobId : String)
  | jobLogs (jobId : String)
  | storeJob (job : ServerJob)
  | waitJob (jobId : String)
  | cancelJob (jobId : String)
  | newJobId
  | settledInTime
  | getArtifact (artifactId : String)

/-- What an effect is answered with. `ticketLogin` answers whether there is a ticket, cached or
    new; `findJob` and its siblings read the registry of this process. -/
@[reducible] def Effect.Reply : Effect → Type
  | .passed _ _ => Unit
  | .audit _ => Except String Unit
  | .ensureCluster _ => Except String Unit
  | .repairCluster _ _ => Except String Unit
  | .currentAuth _ => ClusterAuthConfig
  | .setClusterAuth _ _ => Unit
  | .ticketLogin _ => Except String Bool
  | .send _ => Except String HttpReply
  | .exec _ => Except String CommandResult
  | .cacheGet _ => Option CachedResourceState
  | .cacheSet _ _ => Unit
  | .cacheDelete _ => Unit
  | .now => Nat
  | .aborted => Bool
  | .sleep _ => Except String Unit
  | .progress _ => Except String Unit
  | .appendLog _ => Unit
  | .setProgress _ => Unit
  | .readFile _ => Except String (List UInt8)
  | .findJob _ => Option ServerJob
  | .jobLogs _ => List String
  | .storeJob _ => Unit
  | .waitJob _ => Option ServerJob
  | .cancelJob _ => Option ServerJob
  | .newJobId => String
  | .settledInTime => Bool
  | .getArtifact _ => Except String ArtifactBacking

/-- A call of the server. -/
abbrev M (α : Type) : Type := Prog Effect Effect.Reply String α

/-- What a call does and is answered. -/
abbrev History : Type := Trace Effect.Reply

/-- An answer to every effect: nothing fails, and nothing is found. -/
def quietAnswer : (e : Effect) → e.Reply
  | .passed _ _ | .setClusterAuth _ _ | .cacheSet _ _ | .cacheDelete _ | .appendLog _
  | .setProgress _ | .storeJob _ => ()
  | .audit _ | .ensureCluster _ | .repairCluster _ _ | .sleep _ | .progress _ => .ok ()
  | .currentAuth _ => .api_token "root" "pam" "mcp" "s"
  | .ticketLogin _ => .ok true
  | .send _ => .ok ⟨200, ""⟩
  | .exec _ => .ok ⟨"", "", 0, none⟩
  | .cacheGet _ | .findJob _ | .waitJob _ | .cancelJob _ => none
  | .now => (0 : Nat)
  | .aborted => false
  | .settledInTime => true
  | .readFile _ => .ok []
  | .jobLogs _ => []
  | .newJobId => ""
  | .getArtifact _ => .ok (.memory [])

theorem reply_nonempty (e : Effect) : Nonempty e.Reply := ⟨quietAnswer e⟩

/-- The requests of a history, each with its reply. -/
def sends (h : History) : List (RestCall × Except String HttpReply) :=
  h.filterMap fun
    | ⟨.send call, reply⟩ => some (call, reply)
    | _ => none

@[simp] theorem sends_nil : sends [] = [] := rfl

@[simp] theorem sends_append (h h' : History) : sends (h ++ h') = sends h ++ sends h' :=
  List.filterMap_append

/-- Perform an effect that may fail, and fail with it. -/
def attempt {α : Type} (e : Effect) (h : e.Reply = Except String α) : M α := do
  Prog.ofExcept (h ▸ (← Prog.perform e))

/-- An attempt ends as its reply says. -/
theorem run_attempt {α : Type} {e : Effect} {h : e.Reply = Except String α} {t : History}
    {o : Outcome String α} :
    Prog.Run (attempt e h) t o ↔ ∃ r, t = [⟨e, r⟩] ∧ o = .ofExcept (h ▸ r) := by
  rw [attempt, Prog.run_bind]
  constructor
  · rintro ⟨t₁, t₂, o', rfl, h1, h2⟩
    obtain ⟨r, rfl, rfl⟩ := Prog.run_perform.mp h1
    obtain ⟨rfl, rfl⟩ := Prog.run_ofExcept.mp h2
    exact ⟨r, rfl, rfl⟩
  · rintro ⟨r, rfl, rfl⟩
    exact ⟨[⟨e, r⟩], [], .ok r, rfl, Prog.run_perform.mpr ⟨r, rfl, rfl⟩,
      Prog.run_ofExcept.mpr ⟨rfl, rfl⟩⟩

@[simp] theorem wp_attempt {α : Type} {ok : History → Effect → Prop} {e : Effect}
    {he : e.Reply = Except String α} {Q : Outcome String α → History → Prop} {h : History} :
    Prog.wp ok (attempt e he) Q h ↔ ok h e ∧ ∀ r, Q (.ofExcept (he ▸ r)) (h ++ [⟨e, r⟩]) := by
  simp only [attempt, Prog.wp_bind, Prog.wp_perform, Prog.afterBind_ok, Prog.wp_ofExcept]

/-! ## 4. The service -/

/-- `ProxmoxService` with what it was built from: the configuration, the catalog, and the clusters
    whose credentials a `ManagedAuthLifecycle` keeps (`none` where there is no lifecycle). -/
structure Service where
  config : RuntimeConfig
  catalog : List ApiMethodDescriptor
  managed : Option (List String) := none

/-- `resolveManagedClusterName`. -/
def resolveManagedClusterName (managed : List String) (clusterName : String) : Option String :=
  if clusterName ∈ managed then some clusterName
  else match managed with
    | [only] => some only
    | _ => none

/-- `authLifecycle?.hasManagedCluster(clusterName)`. -/
def Service.hasManagedCluster (S : Service) (clusterName : String) : Bool :=
  match S.managed with
  | none => false
  | some managed => (resolveManagedClusterName managed clusterName).isSome

/-- `authLifecycle?.ensureCluster(clusterName)`: nothing happens for a cluster that is not
    managed. -/
def Service.ensureCluster (S : Service) (clusterName : String) : M Unit :=
  if S.hasManagedCluster clusterName then attempt (.ensureCluster clusterName) rfl else pure ()

end ProxmoxMcp
