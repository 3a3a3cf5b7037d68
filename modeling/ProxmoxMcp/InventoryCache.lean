/-
  File:      ProxmoxMcp/InventoryCache.lean
  Subject:   THE INVENTORY CACHE UNDER MUTATIONS: `resourceCache` and the calls of one service that
             fill it, read it and delete from it, in any interleaving.

  The cache is kept by the name a call was given. `vmDestroy` deletes what is kept under its own
  name; no other mutation deletes anything, and a fetch fills the cache when it comes back, whatever
  has happened since it was sent.
-/
import ProxmoxMcp.Inventory
import ProxmoxMcp.NodeOperations
import ProxmoxMcp.Lib.Runs

namespace ProxmoxMcp

open Js Effects Prog

variable [Text.Unicode]

/-! ## 1. The typed mutations -/

/-- The path of a guest's endpoint. -/
def guestEndpoint (kind : GuestType) (node : String) (vmid : Nat) (suffix : String) : String :=
  "/nodes/" ++ node ++ "/" ++ kind.text ++ "/" ++ toString vmid ++ suffix

/-- `vmCreate`. -/
def Service.vmCreate (S : Service) (cluster node : String) (vmid : Nat)
    (args : List (String × Value)) : M ApiResult :=
  S.proxmoxApiCall (nodeSite cluster node) "POST" ("/nodes/" ++ node ++ "/qemu")
    (assign "vmid" (.nat vmid) args)

/-- `vmConvertToTemplate`. -/
def Service.vmConvertToTemplate (S : Service) (cluster : String) (vmid : Nat)
    (args : List (String × Value)) (nodeInput : Option String) : M ApiResult := do
  let node ← S.vmNode cluster vmid nodeInput
  S.proxmoxApiCall (guestSite cluster .qemu node vmid) "POST"
    (guestEndpoint .qemu node vmid "/template") args

/-- `VmCloneOptions`. -/
structure VmCloneOptions where
  newid : Nat
  name : Option String := none
  full : Option Bool := none
  storage : Option String := none
  target : Option String := none
  pool : Option String := none
  description : Option String := none
  snapname : Option String := none
  bwlimit : Option Nat := none
  format : Option String := none

/-- `omitUndefined(options)`. -/
def VmCloneOptions.toArgs (options : VmCloneOptions) : List (String × Value) :=
  let text (key : String) (o : Option String) := (o.map fun s => (key, Value.str s)).toList
  [("newid", .nat options.newid)] ++ text "name" options.name ++
    (options.full.map fun b => ("full", Value.bool b)).toList ++ text "storage" options.storage ++
    text "target" options.target ++ text "pool" options.pool ++
    text "description" options.description ++ text "snapname" options.snapname ++
    (options.bwlimit.map fun n => ("bwlimit", Value.nat n)).toList ++ text "format" options.format

/-- `vmClone`. -/
def Service.vmClone (S : Service) (cluster : String) (vmid : Nat) (options : VmCloneOptions)
    (nodeInput : Option String) : M ApiResult := do
  let node ← S.vmNode cluster vmid nodeInput
  S.proxmoxApiCall (guestSite cluster .qemu node vmid) "POST"
    (guestEndpoint .qemu node vmid "/clone") options.toArgs

/-- `vmDestroy`, the one mutation that deletes from the cache. -/
def Service.vmDestroy (S : Service) (cluster : String) (vmid : Nat) (args : List (String × Value))
    (nodeInput : Option String) : M ApiResult := do
  let node ← S.vmNode cluster vmid nodeInput
  let response ← S.proxmoxApiCall (guestSite cluster .qemu node vmid) "DELETE"
    (guestEndpoint .qemu node vmid "") args
  Prog.perform (Effect.cacheDelete cluster)
  return response

/-- `vmAction` and `lxcAction`. -/
def Service.guestAction (S : Service) (kind : GuestType) (cluster : String) (vmid : Nat)
    (action : String) (args : List (String × Value)) : M ApiResult := do
  let node ← S.getVmLocation
    ⟨.direct, { cluster := cluster, kind := kind.kind, vmid := some vmid }, none⟩ cluster kind vmid
  S.proxmoxApiCall (guestSite cluster kind node vmid) "POST"
    (guestEndpoint kind node vmid ("/status/" ++ action)) args

/-- `vmAction`. -/
def Service.vmAction (S : Service) (cluster : String) (vmid : Nat) (action : String)
    (args : List (String × Value)) : M ApiResult :=
  S.guestAction .qemu cluster vmid action args

/-- `lxcAction`. -/
def Service.lxcAction (S : Service) (cluster : String) (vmid : Nat) (action : String)
    (args : List (String × Value)) : M ApiResult :=
  S.guestAction .lxc cluster vmid action args

/-! ## 2. Calls -/

/-- What a call of the service does. -/
inductive ServiceCall where
  | inventoryOverview (options : InventoryOptions)
  | getVmLocation (purpose : Purpose) (kind : GuestType) (vmid : Nat)
  | vmCreate (node : String) (vmid : Nat) (args : List (String × Value))
  | vmClone (vmid : Nat) (options : VmCloneOptions) (nodeInput : Option String)
  | vmConvertToTemplate (vmid : Nat) (args : List (String × Value)) (nodeInput : Option String)
  | vmDestroy (vmid : Nat) (args : List (String × Value)) (nodeInput : Option String)
  | vmAction (vmid : Nat) (action : String) (args : List (String × Value))
  | lxcAction (vmid : Nat) (action : String) (args : List (String × Value))

def ServiceCall.isMutation : ServiceCall → Bool
  | .inventoryOverview _ | .getVmLocation _ _ _ => false
  | _ => true

def ServiceCall.isOverview : ServiceCall → Bool
  | .inventoryOverview _ => true
  | _ => false

/-- `await p`, its value apart. -/
def awaited {α : Type} (p : M α) : M Unit := do
  let _ ← p

/-- The program of a call under a name. An overview is followed until it has its resources; what
    it locates after that is a call of its own. -/
def ServiceCall.program (S : Service) (cluster : String) : ServiceCall → M Unit
  | .inventoryOverview options =>
      awaited (S.getClusterResources (inventoryPurpose cluster) cluster options.forceRefresh)
  | .getVmLocation purpose kind vmid => awaited (S.getVmLocation purpose cluster kind vmid)
  | .vmCreate node vmid args => awaited (S.vmCreate cluster node vmid args)
  | .vmClone vmid options nodeInput => awaited (S.vmClone cluster vmid options nodeInput)
  | .vmConvertToTemplate vmid args nodeInput =>
      awaited (S.vmConvertToTemplate cluster vmid args nodeInput)
  | .vmDestroy vmid args nodeInput => awaited (S.vmDestroy cluster vmid args nodeInput)
  | .vmAction vmid action args => awaited (S.vmAction cluster vmid action args)
  | .lxcAction vmid action args => awaited (S.lxcAction cluster vmid action args)

/-- An entry of `resourceCache`, and when the fetch that brought it was sent. -/
structure CacheEntry where
  state : CachedResourceState
  fetchBegan : Nat

/-- A call of the service: what is left of it, and what has been noted of its times. -/
structure ServiceRun where
  cluster : String
  op : ServiceCall
  /-- when it was begun -/
  begun : Nat
  rest : M Unit
  /-- its next effect is a request, and it is on its way -/
  onWire : Bool := false
  /-- when its last request was sent -/
  sent : Option Nat := none
  /-- when its last request was sent that is no GET -/
  written : Option Nat := none
  /-- when the fetch was sent of the resources that it has last taken from the cache, or put there -/
  snapshot : Option Nat := none
  returned : Option Nat := none

/-- When the fetch of a call was sent. -/
def ServiceRun.fetchBegan (c : ServiceRun) : Nat := c.sent.getD c.begun

/-- The cache and the calls, in the order they were begun. -/
structure Pool where
  time : Nat := 0
  cache : String → Option CacheEntry := fun _ => none
  calls : List ServiceRun := []

/-! ## 3. Steps -/

/-- What can happen: a call begins, sends its request, is answered its next effect, or returns. -/
inductive PoolEvent where
  | begins (cluster : String) (op : ServiceCall)
  | sends (call : Nat)
  | answered (call : Nat) (reply : (e : Effect) → e.Reply)
  | returns (call : Nat)

/-- The next state: the call is now `c`, and the cache what it made of it. -/
def Pool.put (m : Pool) (i : Nat) (c : ServiceRun) (cache : String → Option CacheEntry) : Pool where
  time := m.time + 1
  cache := cache
  calls := m.calls.set i c

/-- The request of a call is on its way. -/
def ServiceRun.send (c : ServiceRun) (time : Nat) (request : RestRequest) : ServiceRun :=
  { c with
    onWire := true
    sent := some time
    written := if request.method = "GET" then c.written else some time }

/-- A call that goes on with `rest`. -/
def ServiceRun.goOn (c : ServiceRun) (rest : M Unit) : ServiceRun :=
  { c with rest := rest, onWire := false }

/-- A call that goes on with `rest`, and with a snapshot. -/
def ServiceRun.take (c : ServiceRun) (rest : M Unit) (snapshot : Option Nat) : ServiceRun :=
  { c with rest := rest, onWire := false, snapshot := snapshot }

/-- The next effect of a call is answered: by the cache, or by `reply`. -/
def Pool.answer (m : Pool) (i : Nat) (c : ServiceRun) (reply : (e : Effect) → e.Reply) :
    (e : Effect) → (e.Reply → M Unit) → Option Pool
  | .send sent, k =>
      if c.onWire then some (m.put i (c.goOn (k (reply (.send sent)))) m.cache) else none
  | .cacheGet key, k =>
      some (m.put i
        (c.take (k ((m.cache key).map (·.state))) ((m.cache key).map (·.fetchBegan))) m.cache)
  | .cacheSet key state, k =>
      some (m.put i (c.take (k ()) (some c.fetchBegan))
        (Function.update m.cache key (some ⟨state, c.fetchBegan⟩)))
  | .cacheDelete key, k => some (m.put i (c.goOn (k ())) (Function.update m.cache key none))
  | e, k => some (m.put i (c.goOn (k (reply e))) m.cache)

/-- One step of the pool. -/
def Pool.step (S : Service) (m : Pool) : PoolEvent → Option Pool
  | .begins cluster op => some
      { m with
        time := m.time + 1
        calls := m.calls ++
          [{ cluster := cluster, op := op, begun := m.time, rest := op.program S cluster }] }
  | .sends i =>
      m.calls[i]?.bind fun c =>
        match c.rest with
        | .call (.send sent) _ =>
          if c.onWire then none else some (m.put i (c.send m.time sent.request) m.cache)
        | _ => none
  | .answered i reply =>
      m.calls[i]?.bind fun c =>
        match c.rest with
        | .call e k => m.answer i c reply e k
        | _ => none
  | .returns i =>
      m.calls[i]?.bind fun c =>
        match c.rest, c.returned with
        | .pure _, none => some (m.put i { c with returned := some m.time } m.cache)
        | _, _ => none

/-- The pool after the events. -/
def Pool.after (S : Service) (es : List PoolEvent) : Option Pool := Runs.run (Pool.step S) {} es

/-- What a step has done. -/
inductive Pool.Steps (S : Service) (m : Pool) : PoolEvent → Pool → Prop where
  | begins (cluster : String) (op : ServiceCall) : Steps S m (.begins cluster op)
      { m with
        time := m.time + 1
        calls := m.calls ++
          [{ cluster := cluster, op := op, begun := m.time, rest := op.program S cluster }] }
  | sends {i : Nat} {c : ServiceRun} {sent : RestCall} {k : (Effect.send sent).Reply → M Unit}
      (hc : m.calls[i]? = some c) (hrest : c.rest = .call (.send sent) k) :
      Steps S m (.sends i) (m.put i (c.send m.time sent.request) m.cache)
  | reads {i : Nat} {c : ServiceRun} {key : String} {k : (Effect.cacheGet key).Reply → M Unit}
      {reply : (e : Effect) → e.Reply}
      (hc : m.calls[i]? = some c) (hrest : c.rest = .call (.cacheGet key) k) :
      Steps S m (.answered i reply) (m.put i
        (c.take (k ((m.cache key).map (·.state))) ((m.cache key).map (·.fetchBegan))) m.cache)
  | fills {i : Nat} {c : ServiceRun} {key : String} {state : CachedResourceState}
      {k : (Effect.cacheSet key state).Reply → M Unit} {reply : (e : Effect) → e.Reply}
      (hc : m.calls[i]? = some c) (hrest : c.rest = .call (.cacheSet key state) k) :
      Steps S m (.answered i reply) (m.put i (c.take (k ()) (some c.fetchBegan))
        (Function.update m.cache key (some ⟨state, c.fetchBegan⟩)))
  | deletes {i : Nat} {c : ServiceRun} {key : String} {k : (Effect.cacheDelete key).Reply → M Unit}
      {reply : (e : Effect) → e.Reply}
      (hc : m.calls[i]? = some c) (hrest : c.rest = .call (.cacheDelete key) k) :
      Steps S m (.answered i reply) (m.put i (c.goOn (k ())) (Function.update m.cache key none))
  | goesOn {i : Nat} {c : ServiceRun} {e : Effect} {k : e.Reply → M Unit}
      {reply : (e : Effect) → e.Reply}
      (hc : m.calls[i]? = some c) (hrest : c.rest = .call e k) :
      Steps S m (.answered i reply) (m.put i (c.goOn (k (reply e))) m.cache)
  | returns {i : Nat} {c : ServiceRun} {u : Unit}
      (hc : m.calls[i]? = some c) (hrest : c.rest = .pure u) (hreturned : c.returned = none) :
      Steps S m (.returns i) (m.put i { c with returned := some m.time } m.cache)

section Steps

variable {S : Service} {m m' : Pool} {event : PoolEvent}

omit [Text.Unicode] in
theorem Pool.steps_of_answer [Text.Unicode] {i : Nat} {c : ServiceRun} {e : Effect}
    {k : e.Reply → M Unit} {reply : (e : Effect) → e.Reply} (hc : m.calls[i]? = some c)
    (hrest : c.rest = .call e k) (h : m.answer i c reply e k = some m') :
    Pool.Steps S m (.answered i reply) m' := by
  unfold Pool.answer at h
  split at h
  · split at h
    · cases h
      exact .goesOn hc hrest
    · cases h
  · cases h
    exact .reads hc hrest
  · cases h
    exact .fills hc hrest
  · cases h
    exact .deletes hc hrest
  · cases h
    exact .goesOn hc hrest

/-- **A step does one of these things.** -/
theorem Pool.steps_of_step (h : m.step S event = some m') : Pool.Steps S m event m' := by
  cases event with
  | begins cluster op =>
    cases h
    exact .begins cluster op
  | sends i =>
    obtain ⟨c, hc, h⟩ := Option.bind_eq_some_iff.mp h
    split at h
    · rename_i sent k hrest
      split at h
      · cases h
      · cases h
        exact .sends hc hrest
    · cases h
  | answered i reply =>
    obtain ⟨c, hc, h⟩ := Option.bind_eq_some_iff.mp h
    split at h
    · rename_i e k hrest
      exact steps_of_answer hc hrest h
    · cases h
  | returns i =>
    obtain ⟨c, hc, h⟩ := Option.bind_eq_some_iff.mp h
    split at h
    · rename_i u hrest hreturned
      cases h
      exact .returns hc hrest hreturned
    · cases h

end Steps

/-! ## 4. The names under which a call uses the cache -/

/-- An effect on the cache is one under this name. -/
def Effect.keyed (cluster : String) : Effect → Prop
  | .cacheGet key | .cacheSet key _ | .cacheDelete key => key = cluster
  | _ => True

/-- A program that uses the cache under one name. -/
def Keyed {α : Type} (cluster : String) (p : M α) : Prop := Only (Effect.keyed cluster) p

section Keyed

variable {S : Service} {cluster : String}

omit [Text.Unicode] in
theorem Effect.keyed_of_isRequest (e : Effect) (h : e.isRequest = true) : e.keyed cluster := by
  cases e <;> trivial

omit [Text.Unicode] in
theorem keyed_reply {e : Effect} {k : e.Reply → M Unit} (h : Keyed cluster (.call e k)) :
    e.keyed cluster ∧ ∀ r, Keyed cluster (k r) := by
  constructor
  · obtain ⟨t, hrun, -⟩ := exists_run_endsIn quietAnswer (k (quietAnswer e))
    exact h _ _ (.call e k (quietAnswer e) t _ hrun) ⟨e, quietAnswer e⟩ (List.mem_cons_self ..)
  · intro r t o hrun s hs
    exact h _ o (.call e k r t o hrun) s (List.mem_cons_of_mem _ hs)

theorem keyed_fetchResources {purpose : Purpose} :
    Keyed cluster (S.fetchResources purpose cluster) := by
  refine only_bind (only_apiRequest Effect.keyed_of_isRequest) fun resources => ?_
  refine only_bind (only_perform trivial) fun now => ?_
  exact only_bind (only_perform rfl) fun _ => only_pure

theorem keyed_getClusterResources {purpose : Purpose} {forceRefresh : Bool} :
    Keyed cluster (S.getClusterResources purpose cluster forceRefresh) := by
  unfold Service.getClusterResources
  split
  · exact keyed_fetchResources
  · refine only_bind (only_bind (only_perform rfl) fun cached => ?_) fun cached => ?_
    · cases cached with
      | none => exact only_pure
      | some state => exact only_bind (only_perform trivial) fun now => only_pure
    · cases cached with
      | none => exact keyed_fetchResources
      | some resources => exact only_pure

theorem keyed_getVmLocation {purpose : Purpose} {kind : GuestType} {vmid : Nat} :
    Keyed cluster (S.getVmLocation purpose cluster kind vmid) := by
  refine only_bind keyed_getClusterResources fun resources => ?_
  refine only_bind only_ofExcept fun entries => ?_
  split
  · exact only_pure
  · exact only_throw

theorem keyed_vmNode {vmid : Nat} {nodeInput : Option String} :
    Keyed cluster (S.vmNode cluster vmid nodeInput) := by
  unfold Service.vmNode
  split
  · exact only_pure
  · exact keyed_getVmLocation

theorem keyed_proxmoxApiCall {target : TargetRef} {method path : String}
    {args : List (String × Value)} :
    Keyed cluster (S.proxmoxApiCall target method path args) := by
  refine only_bind (only_bind only_ofExcept fun _ => only_perform trivial) fun _ => ?_
  refine only_bind only_ofExcept fun validated => ?_
  refine only_bind (only_attempt trivial) fun _ => ?_
  exact only_bind (only_apiRequest Effect.keyed_of_isRequest) fun data => only_pure

theorem keyed_guestAction {kind : GuestType} {vmid : Nat} {action : String}
    {args : List (String × Value)} :
    Keyed cluster (S.guestAction kind cluster vmid action args) :=
  only_bind keyed_getVmLocation fun _ => keyed_proxmoxApiCall

/-- **A call uses the cache under its own name only.** -/
theorem keyed_program (op : ServiceCall) : Keyed cluster (op.program S cluster) := by
  cases op with
  | inventoryOverview options => exact only_bind keyed_getClusterResources fun _ => only_pure
  | getVmLocation purpose kind vmid => exact only_bind keyed_getVmLocation fun _ => only_pure
  | vmCreate node vmid args => exact only_bind keyed_proxmoxApiCall fun _ => only_pure
  | vmClone vmid options nodeInput =>
    exact only_bind (only_bind keyed_vmNode fun _ => keyed_proxmoxApiCall) fun _ => only_pure
  | vmConvertToTemplate vmid args nodeInput =>
    exact only_bind (only_bind keyed_vmNode fun _ => keyed_proxmoxApiCall) fun _ => only_pure
  | vmDestroy vmid args nodeInput =>
    refine only_bind (only_bind keyed_vmNode fun _ => ?_) fun _ => only_pure
    refine only_bind keyed_proxmoxApiCall fun response => ?_
    exact only_bind (only_perform rfl) fun _ => only_pure
  | vmAction vmid action args => exact only_bind keyed_guestAction fun _ => only_pure
  | lxcAction vmid action args => exact only_bind keyed_guestAction fun _ => only_pure

end Keyed

/-! ## 5. Times -/

/-- What has been noted of a call is past, in its order. -/
structure ServiceRun.Timely (c : ServiceRun) (time : Nat) : Prop where
  begun : c.begun < time
  sent : ∀ s, c.sent = some s → c.begun ≤ s
  written : ∀ s, c.written = some s → s < c.returned.getD time
  returned : ∀ τ, c.returned = some τ → τ < time ∧ ∃ u, c.rest = .pure u
  keyed : Keyed c.cluster c.rest

/-- Every call of the pool is timely. -/
def Pool.Timely (m : Pool) : Prop := ∀ c ∈ m.calls, c.Timely m.time

section Times

variable {S : Service} {m m' : Pool} {event : PoolEvent} {c : ServiceRun} {time : Nat}

omit [Text.Unicode] in
theorem ServiceRun.Timely.later (h : c.Timely time) : c.Timely (time + 1) where
  begun := Nat.lt_succ_of_lt h.begun
  sent := h.sent
  written s hs := by
    have hlt := h.written s hs
    cases hr : c.returned with
    | none =>
      rw [hr] at hlt
      exact Nat.lt_succ_of_lt hlt
    | some τ =>
      rw [hr] at hlt
      exact hlt
  returned τ hτ := ⟨Nat.lt_succ_of_lt (h.returned τ hτ).1, (h.returned τ hτ).2⟩
  keyed := h.keyed

omit [Text.Unicode] in
/-- A call with something left to do has not returned. -/
theorem ServiceRun.Timely.notReturned (h : c.Timely time) {e : Effect} {k : e.Reply → M Unit}
    (hrest : c.rest = .call e k) : c.returned = none := by
  cases hr : c.returned with
  | none => rfl
  | some τ =>
    obtain ⟨-, u, hu⟩ := h.returned τ hr
    rw [hrest] at hu
    cases hu

omit [Text.Unicode] in
/-- A fetch is sent after its call was begun. -/
theorem ServiceRun.Timely.begun_le_fetchBegan (h : c.Timely time) : c.begun ≤ c.fetchBegan := by
  unfold ServiceRun.fetchBegan
  cases hs : c.sent with
  | none => exact Nat.le_refl _
  | some s => exact h.sent s hs

omit [Text.Unicode] in
theorem Pool.Timely.put (h : m.Timely) {i : Nat} {cache : String → Option CacheEntry}
    (hc : c.Timely (m.time + 1)) : (m.put i c cache).Timely := by
  intro d hd
  rcases List.mem_or_eq_of_mem_set hd with hd | hd
  · exact (h d hd).later
  · rw [hd]
    exact hc

omit [Text.Unicode] in
/-- A call that goes on is timely. -/
theorem ServiceRun.Timely.answered (h : c.Timely time) {e : Effect} {k : e.Reply → M Unit}
    (hrest : c.rest = .call e k) (r : e.Reply) (snapshot : Option Nat) :
    (c.goOn (k r)).Timely (time + 1) ∧ (c.take (k r) snapshot).Timely (time + 1) := by
  have hnone := h.notReturned hrest
  have hkeyed : Keyed c.cluster (k r) := by
    refine (keyed_reply ?_).2 r
    rw [← hrest]
    exact h.keyed
  have hreturned : ∀ τ, c.returned = some τ → τ < time + 1 ∧ ∃ u, k r = .pure u := by
    intro τ hτ
    rw [hnone] at hτ
    cases hτ
  exact ⟨⟨h.later.begun, h.sent, h.later.written, hreturned, hkeyed⟩,
    ⟨h.later.begun, h.sent, h.later.written, hreturned, hkeyed⟩⟩

omit [Text.Unicode] in
/-- A call whose request is sent is timely. -/
theorem ServiceRun.Timely.send (h : c.Timely time) {sent : RestCall}
    {k : (Effect.send sent).Reply → M Unit} (hrest : c.rest = .call (.send sent) k) :
    (c.send time sent.request).Timely (time + 1) := by
  have hnone := h.notReturned hrest
  refine ⟨h.later.begun, fun s hs => ?_, fun s hs => ?_, h.later.returned, h.keyed⟩
  · cases hs
    exact Nat.le_of_lt h.begun
  · show s < c.returned.getD (time + 1)
    simp only [ServiceRun.send] at hs
    split at hs
    · exact h.later.written s hs
    · cases hs
      rw [hnone]
      exact Nat.lt_succ_self _

/-- **A step keeps the calls timely.** -/
theorem Pool.Timely.step (h : m.Timely) (hstep : m.step S event = some m') : m'.Timely := by
  cases steps_of_step hstep with
  | begins cluster op =>
    intro d hd
    rcases List.mem_append.mp hd with hd | hd
    · exact (h d hd).later
    · rw [List.mem_singleton.mp hd]
      exact ⟨Nat.lt_succ_self _, fun s hs => (nomatch hs), fun s hs => (nomatch hs),
        fun τ hτ => (nomatch hτ), keyed_program op⟩
  | sends hc hrest => exact h.put ((h _ (List.mem_of_getElem? hc)).send hrest)
  | reads hc hrest => exact h.put ((h _ (List.mem_of_getElem? hc)).answered hrest _ _).2
  | fills hc hrest => exact h.put ((h _ (List.mem_of_getElem? hc)).answered hrest _ _).2
  | deletes hc hrest => exact h.put ((h _ (List.mem_of_getElem? hc)).answered hrest _ none).1
  | goesOn hc hrest => exact h.put ((h _ (List.mem_of_getElem? hc)).answered hrest _ none).1
  | returns hc hrest hreturned =>
    have hcall := h _ (List.mem_of_getElem? hc)
    refine h.put ⟨hcall.later.begun, hcall.sent, fun s hs => ?_, fun τ hτ => ?_, hcall.keyed⟩
    · have hlt := hcall.written s hs
      rw [hreturned] at hlt
      exact hlt
    · cases hτ
      exact ⟨Nat.lt_succ_self _, _, hrest⟩

/-- Every pool that is reached is timely. -/
theorem Pool.timely_of_after {es : List PoolEvent} (h : Pool.after S es = some m) : m.Timely :=
  Runs.invariant (fun hm hstep => hm.step hstep) (fun _ hc => (List.not_mem_nil hc).elim) h

end Times

/-! ## 6. The law of the snapshots -/

/-- Two names that resolve to one cluster. -/
def SameCluster (S : Service) (a b : String) : Prop :=
  ∃ config, getCluster S.config a = .ok config ∧ getCluster S.config b = .ok config

/-- A fetch that was sent at `fetchBegan` is none from before the mutations of the cluster: each
    that had returned before `time` had sent its request by then. -/
def Pool.Fresh (m : Pool) (S : Service) (cluster : String) (time fetchBegan : Nat) : Prop :=
  ∀ c ∈ m.calls, c.op.isMutation = true → SameCluster S c.cluster cluster →
    ∀ τ, c.returned = some τ → τ < time → ∀ s, c.written = some s → s ≤ fetchBegan

/-- **The law**: an overview that has returned used a snapshot that is fresh for the mutations that
    had returned before it began. -/
def Pool.Law (m : Pool) (S : Service) : Prop :=
  ∀ c ∈ m.calls, c.op.isOverview = true → c.returned.isSome = true →
    ∀ b, c.snapshot = some b → m.Fresh S c.cluster c.begun b

/-- **The condition** on a step. When a mutation returns, no name of its cluster keeps resources
    from before its request; and when a fetch comes back, it is none from before a mutation of its
    cluster that has returned. -/
def Pool.Meets (S : Service) (m : Pool) : PoolEvent → Prop
  | .returns i => ∀ c, m.calls[i]? = some c → c.op.isMutation = true →
      ∀ key entry, m.cache key = some entry → SameCluster S c.cluster key →
        ∀ s, c.written = some s → s ≤ entry.fetchBegan
  | .answered i _ => ∀ c, m.calls[i]? = some c → ∀ key state k,
      c.rest = .call (.cacheSet key state) k → m.Fresh S key m.time c.fetchBegan
  | _ => True

/-- The resources that are kept are fresh, and what has been taken was fresh when the call began. -/
structure Pool.Current (m : Pool) (S : Service) : Prop where
  timely : m.Timely
  cached : ∀ key entry, m.cache key = some entry → m.Fresh S key m.time entry.fetchBegan
  taken : ∀ c ∈ m.calls, ∀ b, c.snapshot = some b → m.Fresh S c.cluster c.begun b

section Law

variable {S : Service} {m m' : Pool} {event : PoolEvent} {cluster : String} {time b : Nat}

omit [Text.Unicode] in
/-- What is fresh now is fresh for every time. -/
theorem Pool.Fresh.always (h : m.Fresh S cluster m.time b) (hm : m.Timely) :
    m.Fresh S cluster time b :=
  fun c hc hop hsame τ hτ _ => h c hc hop hsame τ hτ ((hm c hc).returned τ hτ).1

omit [Text.Unicode] in
theorem Pool.Fresh.mono {b' : Nat} (h : m.Fresh S cluster time b) (hle : b ≤ b') :
    m.Fresh S cluster time b' :=
  fun c hc hop hsame τ hτ hlt s hs => (h c hc hop hsame τ hτ hlt s hs).trans hle

omit [Text.Unicode] in
/-- The other calls are as fresh as they were. -/
theorem Pool.Fresh.put (h : m.Fresh S cluster time b) {i : Nat} {c : ServiceRun}
    {cache : String → Option CacheEntry}
    (hc : c.op.isMutation = true → SameCluster S c.cluster cluster → ∀ τ, c.returned = some τ →
      τ < time → ∀ s, c.written = some s → s ≤ b) :
    (m.put i c cache).Fresh S cluster time b := by
  intro d hd hop hsame τ hτ hlt
  rcases List.mem_or_eq_of_mem_set hd with hd | hd
  · exact h d hd hop hsame τ hτ hlt
  · rw [hd] at hop hsame hτ ⊢
    exact hc hop hsame τ hτ hlt

omit [Text.Unicode] in
/-- **A fetch of a call comes after every mutation that had returned before the call began.** -/
theorem Pool.Timely.fresh_own (hm : m.Timely) {c : ServiceRun} (hc : c.Timely time) :
    m.Fresh S cluster c.begun c.fetchBegan := by
  intro d hd _ _ τ hτ hlt s hs
  have hwritten := (hm d hd).written s hs
  rw [hτ] at hwritten
  calc s ≤ τ := Nat.le_of_lt hwritten
    _ ≤ c.begun := Nat.le_of_lt hlt
    _ ≤ c.fetchBegan := hc.begun_le_fetchBegan

omit [Text.Unicode] in
/-- The pool goes on with a call that has not returned. -/
theorem Pool.Current.put (h : m.Current S) {i : Nat} {c : ServiceRun}
    {cache : String → Option CacheEntry} (hc : c.Timely (m.time + 1)) (hnone : c.returned = none)
    (hcache : ∀ key entry, cache key = some entry → m.Fresh S key m.time entry.fetchBegan)
    (htaken : ∀ b, c.snapshot = some b → m.Fresh S c.cluster c.begun b) :
    (m.put i c cache).Current S := by
  have hput : ∀ {cluster time b}, m.Fresh S cluster time b →
      (m.put i c cache).Fresh S cluster time b := by
    intro cluster time b hb
    refine hb.put fun _ _ τ hτ => ?_
    rw [hnone] at hτ
    cases hτ
  refine ⟨h.timely.put hc, fun key entry he => ?_, fun d hd b hb => ?_⟩
  · exact hput ((hcache key entry he).always h.timely)
  · rcases List.mem_or_eq_of_mem_set hd with hd | hd
    · exact hput (h.taken d hd b hb)
    · rw [hd] at hb ⊢
      exact hput (htaken b hb)

omit [Text.Unicode] in
/-- The pool goes on with a call that begins. -/
theorem Pool.Fresh.begins (h : m.Fresh S cluster time b) {c : ServiceRun}
    (hnone : c.returned = none) :
    ({ m with time := m.time + 1, calls := m.calls ++ [c] } : Pool).Fresh S cluster time b := by
  intro d hd hop hsame τ hτ
  rcases List.mem_append.mp hd with hd | hd
  · exact h d hd hop hsame τ hτ
  · rw [List.mem_singleton.mp hd, hnone] at hτ
    cases hτ

/-- **A step that meets the condition keeps the pool current.** -/
theorem Pool.Current.step (h : m.Current S) (hmeets : m.Meets S event)
    (hstep : m.step S event = some m') : m'.Current S := by
  have htimely' := h.timely.step hstep
  cases steps_of_step hstep with
  | begins cluster op =>
    refine ⟨htimely', fun key entry he => ?_, fun d hd b hb => ?_⟩
    · exact ((h.cached key entry he).always h.timely).begins rfl
    · rcases List.mem_append.mp hd with hd | hd
      · exact (h.taken d hd b hb).begins rfl
      · rw [List.mem_singleton.mp hd] at hb
        cases hb
  | @sends i c sent k hc hrest =>
    have hmem := List.mem_of_getElem? hc
    have hnone := (h.timely c hmem).notReturned hrest
    exact h.put ((h.timely c hmem).send hrest) hnone h.cached (h.taken c hmem)
  | @reads i c key k reply hc hrest =>
    have hmem := List.mem_of_getElem? hc
    have hcall := h.timely c hmem
    refine h.put (hcall.answered hrest _ _).2 (hcall.notReturned hrest) h.cached fun b hb => ?_
    obtain ⟨entry, he, hentry⟩ := Option.map_eq_some_iff.mp hb
    have hkeyed := hcall.keyed
    rw [hrest] at hkeyed
    have hkey : key = c.cluster := (keyed_reply hkeyed).1
    rw [← hentry]
    show m.Fresh S c.cluster c.begun entry.fetchBegan
    rw [← hkey]
    exact (h.cached key entry he).always h.timely
  | @fills i c key state k reply hc hrest =>
    have hmem := List.mem_of_getElem? hc
    have hcall := h.timely c hmem
    refine h.put (hcall.answered hrest _ _).2 (hcall.notReturned hrest) (fun key' entry he => ?_)
      fun b hb => ?_
    · by_cases hkey : key' = key
      · rw [hkey, Function.update_self] at he
        cases he
        rw [hkey]
        exact hmeets c hc key state k hrest
      · rw [Function.update_of_ne hkey] at he
        exact h.cached key' entry he
    · cases hb
      show m.Fresh S c.cluster c.begun c.fetchBegan
      exact h.timely.fresh_own hcall
  | @deletes i c key k reply hc hrest =>
    have hmem := List.mem_of_getElem? hc
    have hcall := h.timely c hmem
    refine h.put (hcall.answered hrest _ none).1 (hcall.notReturned hrest) (fun key' entry he => ?_)
      (h.taken c hmem)
    by_cases hkey : key' = key
    · rw [hkey, Function.update_self] at he
      cases he
    · rw [Function.update_of_ne hkey] at he
      exact h.cached key' entry he
  | @goesOn i c e k reply hc hrest =>
    have hmem := List.mem_of_getElem? hc
    have hcall := h.timely c hmem
    exact h.put (hcall.answered hrest _ none).1 (hcall.notReturned hrest) h.cached (h.taken c hmem)
  | @returns i c u hc hrest hreturned =>
    refine ⟨htimely', fun key entry he => ?_, fun d hd b hb => ?_⟩
    · refine ((h.cached key entry he).always h.timely).put fun hop hsame τ _ _ => ?_
      exact hmeets c hc hop key entry he hsame
    -- what was taken before is asked about mutations that had returned before
    · have hkeep : ∀ {cluster time b}, time < m.time → m.Fresh S cluster time b →
          (m.put i { c with returned := some m.time } m.cache).Fresh S cluster time b := by
        intro cluster time b htime hb
        refine hb.put fun _ _ τ hτ hlt => ?_
        cases hτ
        exact absurd hlt (Nat.lt_asymm htime)
      have hmem := List.mem_of_getElem? hc
      rcases List.mem_or_eq_of_mem_set hd with hd | hd
      · exact hkeep (h.timely d hd).begun (h.taken d hd b hb)
      · rw [hd] at hb ⊢
        exact hkeep (h.timely c hmem).begun (h.taken c hmem b hb)

omit [Text.Unicode] in
/-- A current pool keeps the law. -/
theorem Pool.Current.law (h : m.Current S) : m.Law S :=
  fun c hc _ _ b hb => h.taken c hc b hb

/-- **Overviews use fresh snapshots** in every state of a run whose steps all meet the condition. -/
theorem Pool.law_of_meets {es : List PoolEvent}
    (hmeets : Runs.Along (Pool.step S) (Pool.Meets S) {} es) (hm : Pool.after S es = some m) :
    m.Law S := by
  have hstep : ∀ {m e m'}, Pool.Current m S → m.Meets S e → m.step S e = some m' → m'.Current S :=
    fun h hc hstep => h.step hc hstep
  refine Pool.Current.law (Runs.invariant_along hstep ?_ hmeets hm)
  exact ⟨fun _ hc => (List.not_mem_nil hc).elim, fun _ _ he => (nomatch he),
    fun _ hc => (List.not_mem_nil hc).elim⟩

/-! ## 7. Where the law breaks -/

omit [Text.Unicode] in
/-- A call that is not the one that goes on stays as it is. -/
theorem Pool.mem_put {i : Nat} {c c' d : ServiceRun} {cache : String → Option CacheEntry}
    (hc : m.calls[i]? = some c) (hd : d ∈ m.calls) (hne : d ≠ c) :
    d ∈ (m.put i c' cache).calls := by
  obtain ⟨j, hj⟩ := List.mem_iff_getElem?.mp hd
  have hij : i ≠ j := by
    intro hij
    rw [hij, hj] at hc
    exact hne (Option.some.inj hc)
  refine List.mem_iff_getElem?.mpr ⟨j, ?_⟩
  show (m.calls.set i c')[j]? = some d
  rw [List.getElem?_set_ne hij, hj]

/-- **A step that does not meet the condition** leaves resources in the cache that are not fresh. -/
theorem Pool.stale_of_not_meets (hm : m.Timely) (hstep : m.step S event = some m')
    (hmeets : ¬m.Meets S event) :
    ∃ key entry, m'.cache key = some entry ∧ ¬m'.Fresh S key m'.time entry.fetchBegan := by
  cases event with
  | begins cluster op => exact absurd trivial hmeets
  | sends i => exact absurd trivial hmeets
  | answered i reply =>
    simp only [Meets, not_forall] at hmeets
    obtain ⟨c, hc, key, state, k, hrest, hstale⟩ := hmeets
    simp only [Pool.step, hc, Option.bind_some, hrest, Pool.answer, Option.some.injEq] at hstep
    subst hstep
    refine ⟨key, ⟨state, c.fetchBegan⟩, Function.update_self .., fun hfresh => hstale ?_⟩
    intro d hd hop hsame τ hτ hlt
    have hne : d ≠ c := by
      intro hdc
      rw [hdc, (hm c (List.mem_of_getElem? hc)).notReturned hrest] at hτ
      cases hτ
    exact hfresh d (mem_put hc hd hne) hop hsame τ hτ (Nat.lt_succ_of_lt hlt)
  | returns i =>
    simp only [Meets, not_forall] at hmeets
    obtain ⟨c, hc, hop, key, entry, he, hsame, s, hs, hlt⟩ := hmeets
    cases steps_of_step hstep with
    | @returns _ c' u hc' hrest hreturned =>
    cases hc.symm.trans hc'
    refine ⟨key, entry, he, fun hfresh => hlt ?_⟩
    obtain ⟨hi, -⟩ := List.getElem?_eq_some_iff.mp hc
    exact hfresh { c with returned := some m.time } (List.mem_set hi _) hop hsame m.time rfl
      (Nat.lt_succ_self _) s hs

/-- Every effect answered quietly, and the clock at `time`. -/
def answersAt (time : Nat) : (e : Effect) → e.Reply
  | .now => time
  | e => quietAnswer e

/-- An overview asks the cache, and the clock where there is an entry; it is done where the entry
    has not expired. -/
theorem program_overview (key : String) :
    ∃ k, (ServiceCall.inventoryOverview {}).program S key = .call (.cacheGet key) k ∧
      ∀ state : CachedResourceState, ∃ k' : Nat → M Unit, k (some state) = .call .now k' ∧
        ∀ time, time < state.fetchedAt + S.config.inventoryCacheTtlMs → k' time = .pure () := by
  refine ⟨_, rfl, fun state => ⟨_, rfl, fun time htime => ?_⟩⟩
  simp only [Prog.bind, if_pos htime]
  rfl

omit [Text.Unicode] in
/-- An answer to a call that is not filling the cache. -/
theorem Pool.meets_answered [Text.Unicode] {i : Nat} {c : ServiceRun}
    {reply : (e : Effect) → e.Reply} (hc : m.calls[i]? = some c)
    (hrest : ∀ key state k, c.rest ≠ .call (.cacheSet key state) k) :
    m.Meets S (.answered i reply) := by
  intro c' hc' key state k hfill
  cases hc.symm.trans hc'
  exact absurd hfill (hrest key state k)

/-- **An overview is served from the cache**, by steps that meet the condition. -/
theorem Pool.exists_overview (httl : 0 < S.config.inventoryCacheTtlMs) {key : String}
    {entry : CacheEntry} (he : m.cache key = some entry) :
    ∃ c es, Runs.Along (Pool.step S) (Pool.Meets S) m es ∧ Runs.run (Pool.step S) m es =
        some { time := m.time + 4, cache := m.cache, calls := m.calls ++ [c] } ∧
      c.op.isOverview = true ∧ c.returned.isSome = true ∧ c.snapshot = some entry.fetchBegan ∧
      c.cluster = key ∧ c.begun = m.time := by
  obtain ⟨k, hprogram, hk⟩ := @program_overview _ S key
  obtain ⟨k', hstate, hk'⟩ := hk entry.state
  have hlt := hk' _ (Nat.lt_add_of_pos_right httl)
  let n := m.calls.length
  let begun : ServiceRun :=
    { cluster := key, op := .inventoryOverview {}, begun := m.time, rest := .call (.cacheGet key) k }
  let asking : ServiceRun := begun.take (.call .now k') (some entry.fetchBegan)
  let served : ServiceRun := asking.goOn (.pure ())
  let at' (time : Nat) (c : ServiceRun) : Pool := ⟨time, m.cache, m.calls ++ [c]⟩
  have hlast : ∀ time c, (at' time c).calls[n]? = some c := fun _ _ => List.getElem?_concat_length
  have hput : ∀ time c c', (at' time c).put n c' m.cache = at' (time + 1) c' := by
    intro time c c'
    simp only [Pool.put, at', n, List.set_append_right, Nat.le_refl, Nat.sub_self,
      List.set_cons_zero]
  have hstep₁ : m.step S (.begins key (.inventoryOverview {})) = some (at' (m.time + 1) begun) := by
    simp only [Pool.step, hprogram]
    rfl
  have hstep₂ : (at' (m.time + 1) begun).step S (.answered n (answersAt entry.state.fetchedAt)) =
      some (at' (m.time + 2) asking) := by
    rw [Pool.step, hlast, Option.bind_some]
    show some ((at' (m.time + 1) begun).put n (begun.take (k ((m.cache key).map _)) _) m.cache) = _
    rw [hput, he, Option.map_some, hstate]
    rfl
  have hstep₃ : (at' (m.time + 2) asking).step S (.answered n (answersAt entry.state.fetchedAt)) =
      some (at' (m.time + 3) served) := by
    rw [Pool.step, hlast, Option.bind_some]
    show some ((at' (m.time + 2) asking).put n (asking.goOn (k' entry.state.fetchedAt)) m.cache) = _
    rw [hput, hlt]
  have hstep₄ : (at' (m.time + 3) served).step S (.returns n) =
      some (at' (m.time + 4) { served with returned := some (m.time + 3) }) := by
    rw [Pool.step, hlast, Option.bind_some]
    exact congrArg some (hput _ _ _)
  have hmeets₂ := @meets_answered S (at' (m.time + 1) begun) _ n begun
    (answersAt entry.state.fetchedAt) (hlast _ _) fun _ _ _ h => nomatch h
  have hmeets₃ := @meets_answered S (at' (m.time + 2) asking) _ n asking
    (answersAt entry.state.fetchedAt) (hlast _ _) fun _ _ _ h => nomatch h
  have hmeets₄ : (at' (m.time + 3) served).Meets S (.returns n) := by
    intro c hc hop
    cases (hlast _ _).symm.trans hc
    cases hop
  exact ⟨{ served with returned := some (m.time + 3) },
    [.begins key (.inventoryOverview {}), .answered n (answersAt entry.state.fetchedAt),
      .answered n (answersAt entry.state.fetchedAt), .returns n],
    Runs.along_cons hstep₁ trivial (Runs.along_cons hstep₂ hmeets₂
      (Runs.along_cons hstep₃ hmeets₃ (Runs.along_cons hstep₄ hmeets₄ trivial))),
    Runs.run_cons.mpr ⟨_, hstep₁, Runs.run_cons.mpr ⟨_, hstep₂, Runs.run_cons.mpr ⟨_, hstep₃,
      Runs.run_cons.mpr ⟨_, hstep₄, rfl⟩⟩⟩⟩, rfl, rfl, rfl, rfl, rfl⟩

/-- **After a step that does not meet the condition** an overview breaks the law. -/
theorem Pool.lawless_of_not_meets (httl : 0 < S.config.inventoryCacheTtlMs) (hm : m.Timely)
    (hstep : m.step S event = some m') (hmeets : ¬m.Meets S event) :
    ∃ es m'', Runs.Along (Pool.step S) (Pool.Meets S) m' es ∧
      Runs.run (Pool.step S) m' es = some m'' ∧ ¬m''.Law S := by
  obtain ⟨key, entry, he, hstale⟩ := stale_of_not_meets hm hstep hmeets
  obtain ⟨c, es, halong, hrun, hop, hreturned, hsnapshot, hcluster, hbegun⟩ :=
    exists_overview httl he
  refine ⟨es, _, halong, hrun, fun hlaw => hstale ?_⟩
  have hfresh := hlaw c (List.mem_append_right _ (List.mem_singleton_self c)) hop hreturned _
    hsnapshot
  rw [hcluster, hbegun] at hfresh
  exact fun d hd => hfresh d (List.mem_append_left _ hd)

omit [Text.Unicode] in
/-- Where no mutation was begun, every step meets the condition. -/
theorem Pool.meets_of_reads [Text.Unicode] (hm : ∀ c ∈ m.calls, c.op.isMutation = false) :
    m.Meets S event := by
  cases event with
  | begins cluster op => trivial
  | sends i => trivial
  | answered i reply =>
    intro c _ key state k _ d hd hop
    rw [hm d hd] at hop
    cases hop
  | returns i =>
    intro c hc hop
    rw [hm c (List.mem_of_getElem? hc)] at hop
    cases hop

/-- **Reads alone meet the condition.** -/
theorem Pool.along_of_reads {es : List PoolEvent}
    (hes : ∀ cluster op, .begins cluster op ∈ es → op.isMutation = false)
    (hm : ∀ c ∈ m.calls, c.op.isMutation = false) :
    Runs.Along (Pool.step S) (Pool.Meets S) m es := by
  induction es generalizing m with
  | nil => trivial
  | cons e es ih =>
    refine ⟨meets_of_reads hm, fun m' hstep => ?_⟩
    refine ih (fun cluster op hop => hes cluster op (List.mem_cons_of_mem _ hop)) ?_
    have hput : ∀ {i : Nat} {c c' : ServiceRun} {cache : String → Option CacheEntry},
        m.calls[i]? = some c → c'.op = c.op →
          ∀ d ∈ (m.put i c' cache).calls, d.op.isMutation = false := by
      intro i c c' cache hc hop d hd
      rcases List.mem_or_eq_of_mem_set hd with hd | hd
      · exact hm d hd
      · rw [hd, hop]
        exact hm c (List.mem_of_getElem? hc)
    cases steps_of_step hstep with
    | begins cluster op =>
      intro d hd
      rcases List.mem_append.mp hd with hd | hd
      · exact hm d hd
      · rw [List.mem_singleton.mp hd]
        exact hes cluster op List.mem_cons_self
    | sends hc _ => exact hput hc rfl
    | reads hc _ => exact hput hc rfl
    | fills hc _ => exact hput hc rfl
    | deletes hc _ => exact hput hc rfl
    | goesOn hc _ => exact hput hc rfl
    | returns hc _ _ => exact hput hc rfl

/-- **When overviews use fresh snapshots.** However a run goes on from any of its states by steps
    that meet the condition, the law holds there, if and only if every step of the run meets it. -/
theorem overviews_fresh_iff (S : Service) (httl : 0 < S.config.inventoryCacheTtlMs)
    (es : List PoolEvent) (m : Pool) (hm : Pool.after S es = some m) :
    (∀ es₁ es₂ m₁ m₂, es₁ <+: es → Pool.after S es₁ = some m₁ →
      Runs.Along (Pool.step S) (Pool.Meets S) m₁ es₂ → Runs.run (Pool.step S) m₁ es₂ = some m₂ →
      m₂.Law S) ↔
    Runs.Along (Pool.step S) (Pool.Meets S) {} es := by
  constructor
  · intro hlaw
    refine Runs.along_of_at fun es₁ e es₂ m₁ hes hm₁ => Classical.byContradiction fun hmeets => ?_
    -- the step is taken, and the law breaks after it
    rw [Pool.after, hes, Runs.run_append] at hm
    obtain ⟨m₁', hm₁', hrest⟩ := hm
    cases hm₁.symm.trans hm₁'
    obtain ⟨m₂, hstep, -⟩ := Runs.run_cons.mp hrest
    obtain ⟨es', m₃, halong, hrun, hlawless⟩ :=
      Pool.lawless_of_not_meets httl (Pool.timely_of_after hm₁) hstep hmeets
    refine hlawless (hlaw (es₁ ++ [e]) es' m₂ m₃ ⟨es₂, ?_⟩ ?_ halong hrun)
    · rw [hes, List.append_assoc]
      rfl
    · exact Runs.run_concat.mpr ⟨m₁, hm₁, hstep⟩
  · intro hmeets es₁ es₂ m₁ m₂ hprefix hm₁ halong hrun
    obtain ⟨rest, hes⟩ := hprefix
    rw [← hes] at hmeets
    have happend := Runs.along_append (Runs.along_of_append hmeets) fun t ht => by
      cases hm₁.symm.trans ht
      exact halong
    exact Pool.law_of_meets happend (Runs.run_append.mpr ⟨m₁, hm₁, hrun⟩)

end Law

/-! ## 8. A new VM that the next overview does not see -/

/-- `POST /nodes/{node}/qemu`. -/
def qemuEndpoint : ApiMethodDescriptor where
  method := "POST"
  template := ⟨[.word "nodes".toList, .param "node", .word "qemu".toList], by decide, by decide⟩
  properties := [("node", {}), ("vmid", { type := some "integer" })]
  additionalProperties := false

/-- A service with one cluster, on whose node VMs are created. -/
def creatingService : Service where
  config := { clusters := [exampleCluster], policies := [defaultProductionPolicy] }
  catalog := [qemuEndpoint]

/-- The call `n` is an overview that fetches. -/
def fetchingOverview (n : Nat) : List PoolEvent :=
  [.begins "default" (.inventoryOverview {}), .answered n quietAnswer, .answered n quietAnswer,
    .sends n, .answered n quietAnswer, .answered n quietAnswer, .answered n quietAnswer, .returns n]

/-- The call `n` is an overview that is served from the cache. -/
def cachedOverview (n : Nat) : List PoolEvent :=
  [.begins "default" (.inventoryOverview {}), .answered n quietAnswer, .answered n quietAnswer,
    .returns n]

/-- The call `n` creates a VM. -/
def creation (n : Nat) : List PoolEvent :=
  [.begins "default" (.vmCreate "pve" 100 []), .answered n quietAnswer, .answered n quietAnswer,
    .answered n quietAnswer, .sends n, .answered n quietAnswer, .returns n]

/-- What has been noted of a call. -/
structure Notes where
  cluster : String
  isMutation : Bool
  isOverview : Bool
  begun : Nat
  written : Option Nat
  snapshot : Option Nat
  returned : Option Nat
  deriving DecidableEq

def ServiceRun.notes (c : ServiceRun) : Notes :=
  ⟨c.cluster, c.op.isMutation, c.op.isOverview, c.begun, c.written, c.snapshot, c.returned⟩

omit [Text.Unicode] in
/-- Overviews alone keep the law, the second of which is served from the cache. -/
theorem overviews_fresh_iff_reads :
    letI := Text.asciiCase
    ∃ m, Pool.after creatingService (fetchingOverview 0 ++ cachedOverview 1) = some m ∧
      m.calls.map ServiceRun.notes =
        [⟨"default", false, true, 0, none, some 3, some 7⟩,
          ⟨"default", false, true, 8, none, some 3, some 11⟩] ∧
      m.Law creatingService := by
  let := Text.asciiCase
  have hnotes : (Pool.after creatingService (fetchingOverview 0 ++ cachedOverview 1)).map
      (fun m => m.calls.map ServiceRun.notes) =
        some [⟨"default", false, true, 0, none, some 3, some 7⟩,
          ⟨"default", false, true, 8, none, some 3, some 11⟩] := by decide +kernel
  obtain ⟨m, hm, hcalls⟩ := Option.map_eq_some_iff.mp hnotes
  have halong : Runs.Along (Pool.step creatingService) (Pool.Meets creatingService) {}
      (fetchingOverview 0 ++ cachedOverview 1) := by
    refine Pool.along_of_reads (fun cluster op hop => ?_) fun c hc => (List.not_mem_nil hc).elim
    simp only [fetchingOverview, cachedOverview, List.cons_append, List.nil_append, List.mem_cons,
      PoolEvent.begins.injEq, reduceCtorEq, false_or, List.not_mem_nil, or_false] at hop
    rcases hop with hop | hop <;> rw [hop.2] <;> rfl
  exact ⟨m, hm, hcalls, (overviews_fresh_iff creatingService (by decide) _ m hm).mpr halong
    _ [] m m (List.prefix_refl _) hm trivial rfl⟩

omit [Text.Unicode] in
/-- A VM is created between two overviews, and the second still uses the resources from before. -/
theorem overviews_stale :
    letI := Text.asciiCase
    ¬∀ (S : Service) (es : List PoolEvent) (m : Pool), Pool.after S es = some m → m.Law S := by
  let := Text.asciiCase
  intro h
  have hnotes : (Pool.after creatingService
      (fetchingOverview 0 ++ creation 1 ++ cachedOverview 2)).map
      (fun m => m.calls.map ServiceRun.notes) =
        some [⟨"default", false, true, 0, none, some 3, some 7⟩,
          ⟨"default", true, false, 8, some 12, none, some 14⟩,
          ⟨"default", false, true, 15, none, some 3, some 18⟩] := by decide +kernel
  obtain ⟨m, hm, hcalls⟩ := Option.map_eq_some_iff.mp hnotes
  obtain ⟨overview, rest, hm₁, -, hcalls⟩ := List.map_eq_cons_iff.mp hcalls
  obtain ⟨created, rest', hrest, hcreated, hcalls⟩ := List.map_eq_cons_iff.mp hcalls
  obtain ⟨last, rest'', hrest', hlast, -⟩ := List.map_eq_cons_iff.mp hcalls
  have hmem : created ∈ m.calls ∧ last ∈ m.calls := by
    rw [hm₁, hrest, hrest']
    simp
  simp only [ServiceRun.notes, Notes.mk.injEq] at hcreated hlast
  have hfresh := h _ _ m hm last hmem.2 hlast.2.2.1 (by rw [hlast.2.2.2.2.2.2]; rfl) 3
    hlast.2.2.2.2.2.1
  have hsame : SameCluster creatingService created.cluster last.cluster := by
    rw [hcreated.1, hlast.1]
    exact ⟨exampleCluster, rfl, rfl⟩
  have hlt := hfresh created hmem.1 hcreated.2.1 hsame 14 hcreated.2.2.2.2.2.2
    (by rw [hlast.2.2.2.1]; decide) 12 hcreated.2.2.2.2.1
  exact absurd hlt (by decide)

end ProxmoxMcp
