/-
  File:      ProxmoxMcp/Policy.lean
  Subject:   THE POLICY SERVICE (`policy.ts`): the permissions of a target are folded from the
             policy entries that match it, and every assertion reads the folded permissions.

  A check throws in two ways: the permission is missing, or a selector of some entry is no
  regular expression. Both are an `.error` here.
-/
import ProxmoxMcp.Utils
import ProxmoxMcp.Lib.Json

namespace ProxmoxMcp

variable [Text.Unicode]

/-! ## 1. Effective permissions -/

/-- `defaultPolicy`: what holds where no entry matches. -/
def defaultPolicy : EffectivePolicy where
  allowApiRead := true
  allowApiWrite := false
  allowCliFamilies := []
  allowRawCli := false
  allowShell := false
  allowFileRead := true
  allowFileWrite := false
  allowSudo := false
  maxTimeoutMs := 300000

/-- `matchesPolicy`: four selectors, each read only if the ones before it matched. -/
def matchesPolicy (policy : PolicyConfig) (target : TargetRef) : Except String Bool := do
  if !(← matchesPattern (some target.cluster) policy.match_.clusters) then
    return false
  if !(← matchesPattern (some target.kind.text) policy.match_.targetKinds) then
    return false
  if !(← matchesPattern (some (targetIdForPolicy target.kind target.node target.vmid))
      policy.match_.targetIds) then
    return false
  matchesPattern target.node policy.match_.nodeNames

/-- `[...new Set([...xs, ...ys])]`. -/
def unionFamilies (xs ys : List String) : List String :=
  (xs ++ ys).foldl (fun acc f => if f ∈ acc then acc else acc ++ [f]) []

/-- A matching entry laid over the permissions so far: CLI families add up, the rest is
    replaced. -/
def EffectivePolicy.overlay (current : EffectivePolicy) (policy : PolicyConfig) :
    EffectivePolicy where
  allowApiRead := policy.allowApiRead
  allowApiWrite := policy.allowApiWrite
  allowCliFamilies := unionFamilies current.allowCliFamilies policy.allowCliFamilies
  allowRawCli := policy.allowRawCli
  allowShell := policy.allowShell
  allowFileRead := policy.allowFileRead
  allowFileWrite := policy.allowFileWrite
  allowSudo := policy.allowSudo
  maxTimeoutMs := policy.maxTimeoutMs

/-- One round of the `reduce` in `getPolicy`. -/
def policyStep (target : TargetRef) (current : EffectivePolicy) (policy : PolicyConfig) :
    Except String EffectivePolicy := do
  if ← matchesPolicy policy target then return current.overlay policy else return current

/-- `getPolicy`. -/
def getPolicy (policies : List PolicyConfig) (target : TargetRef) :
    Except String EffectivePolicy :=
  policies.foldlM (policyStep target) defaultPolicy

/-- `clampTimeout`. -/
def clampTimeout (policies : List PolicyConfig) (target : TargetRef)
    (requested : Option Js.Number) (fallback : Js.Number) : Except String Js.Number := do
  let effective ← getPolicy policies target
  let desired := requested.getD fallback
  return desired.min (.rat effective.maxTimeoutMs)

/-! ## 2. Assertions -/

/-- What an assertion asks for. -/
inductive Permission where
  | api (method : String)
  | cli (family : String) (raw : Bool)
  | shell
  | file (write : Bool)
  | sudo
  deriving DecidableEq, Repr

/-- Does the assertion read a GET permission? -/
def isRead (method : String) : Bool := Text.toUpperCase method = "GET"

/-- The message an assertion throws with, `none` where it passes. -/
def denial (effective : EffectivePolicy) (target : TargetRef) : Permission → Option String
  | .api method =>
      if isRead method then
        if effective.allowApiRead then none
        else some s!"Policy denies {Text.toUpperCase method} access for {target.kind.text} on cluster {target.cluster}"
      else if effective.allowApiWrite then none
      else some s!"Policy denies {Text.toUpperCase method} access for {target.kind.text} on cluster {target.cluster}"
  | .cli family raw =>
      if family ∈ effective.allowCliFamilies then
        if raw && !effective.allowRawCli then
          some s!"Policy denies raw CLI mode for {target.kind.text} on cluster {target.cluster}"
        else none
      else some s!"Policy denies CLI family '{family}' for {target.kind.text} on cluster {target.cluster}"
  | .shell =>
      if effective.allowShell then none
      else some s!"Policy denies shell access for {target.kind.text} on cluster {target.cluster}"
  | .file false =>
      if effective.allowFileRead then none
      else some s!"Policy denies file read access for {target.kind.text} on cluster {target.cluster}"
  | .file true =>
      if effective.allowFileWrite then none
      else some s!"Policy denies file write access for {target.kind.text} on cluster {target.cluster}"
  | .sudo =>
      if effective.allowSudo then none
      else some s!"Policy denies sudo access for {target.kind.text} on cluster {target.cluster}"

/-- What the five assertions share: the permission asked for is read off the effective policy. -/
def assertAccess (policies : List PolicyConfig) (target : TargetRef) (p : Permission) :
    Except String Unit := do
  match denial (← getPolicy policies target) target p with
  | none => return ()
  | some m => throw m

def assertApiAccess (policies : List PolicyConfig) (target : TargetRef) (method : String) :
    Except String Unit := assertAccess policies target (.api method)

def assertCliAccess (policies : List PolicyConfig) (target : TargetRef) (family : String)
    (raw : Bool := false) : Except String Unit := assertAccess policies target (.cli family raw)

def assertShellAccess (policies : List PolicyConfig) (target : TargetRef) : Except String Unit :=
  assertAccess policies target .shell

def assertFileAccess (policies : List PolicyConfig) (target : TargetRef) (write : Bool) :
    Except String Unit := assertAccess policies target (.file write)

def assertSudoAccess (policies : List PolicyConfig) (target : TargetRef) : Except String Unit :=
  assertAccess policies target .sudo

/-- The assertion passes. -/
def Permits (policies : List PolicyConfig) (target : TargetRef) (p : Permission) : Prop :=
  assertAccess policies target p = .ok ()

instance (policies : List PolicyConfig) (target : TargetRef) (p : Permission) :
    Decidable (Permits policies target p) :=
  match h : assertAccess policies target p with
  | .ok () => isTrue h
  | .error m => isFalse (by rw [Permits, h]; exact fun e => by cases e)

/-- With no entry, the default holds. -/
@[simp] theorem getPolicy_nil (target : TargetRef) : getPolicy [] target = .ok defaultPolicy := rfl

/-- With one entry, the default or the entry over it. -/
theorem getPolicy_singleton (policy : PolicyConfig) (target : TargetRef) :
    getPolicy [policy] target = policyStep target defaultPolicy policy := by
  simp only [getPolicy, List.foldlM_cons, List.foldlM_nil]
  cases policyStep target defaultPolicy policy <;> rfl

end ProxmoxMcp
