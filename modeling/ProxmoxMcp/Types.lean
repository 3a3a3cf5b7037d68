/-
  File:      ProxmoxMcp/Types.lean
  Subject:   THE SHARED TYPES (`types.ts`): targets, jobs, command results, effective policies.

  An optional field of the source is an `Option` here. A VM or container id is a natural number:
  the tool schemas admit positive integers only.
-/
import ProxmoxMcp.Lib.Text

namespace ProxmoxMcp

/-! ## 1. Targets -/

/-- `TARGET_KINDS`. -/
inductive TargetKind where
  | cluster
  | node
  | qemu_vm
  | lxc_container
  | linux_guest
  | windows_guest
  deriving DecidableEq, Repr

/-- The text of a kind, as policies and messages spell it. -/
def TargetKind.text : TargetKind → String
  | .cluster => "cluster"
  | .node => "node"
  | .qemu_vm => "qemu_vm"
  | .lxc_container => "lxc_container"
  | .linux_guest => "linux_guest"
  | .windows_guest => "windows_guest"

/-- `TargetRef`; `guestName` is read by nothing. -/
structure TargetRef where
  cluster : String
  kind : TargetKind
  node : Option String := none
  vmid : Option Nat := none
  deriving DecidableEq, Repr

/-! ## 2. Results -/

/-- `CommandResult`. -/
structure CommandResult where
  stdout : String
  stderr : String
  exitCode : Int
  signal : Option String := none
  deriving DecidableEq, Repr

/-- `ProgressSnapshot`. -/
structure ProgressSnapshot where
  progress : Nat
  total : Option Nat := none
  message : Option String := none
  deriving DecidableEq, Repr

/-- `WaitMode`. -/
inductive WaitMode where
  | wait
  | deferred
  | auto
  deriving DecidableEq, Repr

/-- `JobState`. -/
inductive JobState where
  | pending
  | running
  | completed
  | failed
  | cancelled
  deriving DecidableEq, Repr

/-- `EffectivePolicy`. -/
structure EffectivePolicy where
  allowApiRead : Bool
  allowApiWrite : Bool
  allowCliFamilies : List String
  allowRawCli : Bool
  allowShell : Bool
  allowFileRead : Bool
  allowFileWrite : Bool
  allowSudo : Bool
  maxTimeoutMs : Nat
  deriving DecidableEq, Repr

end ProxmoxMcp
