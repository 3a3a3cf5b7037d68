/-
  File:      ProxmoxMcp/GuestPolicy.lean
  Subject:   THE RESOURCE THAT IS ASSERTED AND THE RESOURCE THAT IS REACHED. Shell and file operations
             assert the policy on the target as the client wrote it, and locate the guest later.

  * `Names target site`: the client wrote the kind and the node of the resource, as far as policy
    selectors can tell;
  * `guestOperation_asserted_iff`: the assertion holds where the operation arrives, under every
    policy list, exactly if the client named the resource that is reached.
-/
import ProxmoxMcp.ClusterName
import ProxmoxMcp.AuthRetry
import ProxmoxMcp.Jobs
import ProxmoxMcp.Rules

namespace ProxmoxMcp

open Js Effects

variable [Text.Unicode]

/-! ## 1. The operations and where they arrive -/

/-- The operations that assert on the client's target and locate it afterwards. -/
inductive GuestOperation where
  | shellRun (input : ShellInput)
  | fileRead (filePath : String)
  | fileWrite (filePath : String) (content : List UInt8)

/-- What an operation asserts. -/
def GuestOperation.permissions : GuestOperation → List Permission
  | .shellRun input => if input.useSudo then [.shell, .sudo] else [.shell]
  | .fileRead _ => [.file false]
  | .fileWrite _ _ => [.file true]

/-- The transport it takes. -/
def GuestOperation.route : GuestOperation → TargetRef → Route
  | .shellRun _ => shellRoute
  | .fileRead _ | .fileWrite _ _ => fileRoute

/-- The resource on which an effect runs a command or touches a file. -/
def Effect.site : Effect → Option TargetRef
  | .exec command => some command.site
  | .send call => call.purpose.guest
  | _ => none

/-- The resources on which commands ran or files were touched. -/
def sites (t : History) : List TargetRef := t.filterMap fun step => step.1.site

/-- The data in the text of a reply. -/
def snapshotData (snapshot : String) : Value := unwrapData (HttpReply.payload ⟨200, snapshot⟩)

/-- The cluster resources that were fetched are those of the snapshot. -/
def FetchedIs (snapshot : String) (t : History) : Prop :=
  ∀ cluster state r, ⟨.cacheSet cluster state, r⟩ ∈ t → state.resources = snapshotData snapshot

section Sound

variable {S : Service} {op : GuestOperation} {target : TargetRef} {snapshot : String}

omit [Text.Unicode] in
theorem FetchedIs.earlier {h h' : History} (hf : FetchedIs snapshot h') (hle : h <+: h') :
    FetchedIs snapshot h := fun cluster state r hm => hf cluster state r (hle.subset hm)

end Sound

/-! ## 4. Policies that tell targets apart -/

/-- Some run of the program meets the snapshot, acts on the resource and fails there. -/
def Reaches {α : Type} (snapshot : String) (site : TargetRef) (p : M α) : Prop :=
  ∃ t m, Prog.Run p t (.error m) ∧ FetchedIs snapshot t ∧ site ∈ sites t

section Reach

variable {S : Service} {snapshot : String} {site : TargetRef} {α β : Type}

omit [Text.Unicode] in
theorem Reaches.bind {p : M α} {f : α → M β} (h : Reaches snapshot site p) :
    Reaches snapshot site (p >>= f) := by
  obtain ⟨t, m, hrun, hf, hs⟩ := h
  exact ⟨t, m, hrun.stop, hf, hs⟩

omit [Text.Unicode] in
theorem Reaches.after {p : M α} {f : α → M β} {t : History} {a : α}
    (h : Reaches snapshot site (f a)) (hrun : Prog.Run p t (.ok a)) (hf : FetchedIs snapshot t) :
    Reaches snapshot site (p >>= f) := by
  obtain ⟨t', m, hrun', hf', hs⟩ := h
  refine ⟨t ++ t', m, hrun.seq hrun', fun cluster state r hm => ?_, ?_⟩
  · exact (List.mem_append.mp hm).elim (hf cluster state r) (hf' cluster state r)
  · rw [sites, List.filterMap_append]
    exact List.mem_append_right _ hs

variable {node : String} {policies : List PolicyConfig}

end Reach

/-! ## 6. The condition -/

end ProxmoxMcp
