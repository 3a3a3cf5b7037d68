/-
  File:      ProxmoxMcp/ApiSessions.lean
  Subject:   THE API CLIENTS AND THEIR LOGINS (`getApiClient`, `ensureTicket`, `buildHeaders`) under
             overlapping requests and changing credentials.

  A step is one turn of the event loop: a request begins, a login is answered, the headers of a
  request are built and sent, its reply comes, or the credentials of a cluster change. As history
  the state keeps the logins, the tickets they were granted, and what was sent.

  * `sent_credentials` -- a request carries the token its cluster has, or cookie and CSRF token of
    one login that this cluster granted, made with credentials of the same fingerprint;
  * `sent_own_login` -- the credentials of that login are those of the request;
  * `ticket_never_renewed` -- a client that is logged in sends its ticket from then on, whatever is
    answered to it;
  * `logins_not_shared` -- requests that begin before a login is answered send one each.

  NOT here: the turns between a login and the request behind it other than as one event, the
  lifetime of a ticket, and what the service does with a failed request.
-/
import ProxmoxMcp.Requests
import ProxmoxMcp.Endpoint
import ProxmoxMcp.Lib.Checks
import ProxmoxMcp.Lib.Runs

namespace ProxmoxMcp

open Js Checks

/-! ## 1. Logins -/

/-- The reply to a login: its status, and what `response.json()` comes to. -/
structure LoginReply where
  ok : Bool
  json : Except String Value

/-- `ensureTicket`, from the reply on: cookie and CSRF token. -/
def readLogin (clusterName : String) (reply : Except String LoginReply) :
    Except String (String × Value) := do
  let response ← reply
  let payload ← response.json
  failIf (!response.ok) s!"Proxmox ticket authentication failed for cluster {clusterName}"
  let data ← readProperty payload "data"
  failIf (!(data.get "ticket").truthy)
    s!"Proxmox ticket authentication failed for cluster {clusterName}"
  let ticket ← toStringValue (data.get "ticket")
  return ("PVEAuthCookie=" ++ ticket, data.get "CSRFPreventionToken")

/-- `getApiClientFingerprint` of a cluster of that name. -/
def ClusterAuthConfig.fingerprint (clusterName : String) : ClusterAuthConfig → String
  | .api_token user realm tokenId secret => s!"api_token:{user}:{realm}:{tokenId}:{secret}"
  | .ticket username password realm otp =>
      let code := otp.getD ""
      s!"ticket:{username}:{realm}:{password}:{code}"
  | .secret_ref secretCluster =>
      let cluster := secretCluster.getD clusterName
      s!"secret_ref:{cluster}"
  | .ssh_bootstrap sshUsername _ apiUser apiRealm tokenId =>
      s!"ssh_bootstrap:{sshUsername}:{apiUser}:{apiRealm}:{tokenId}"

/-- The headers that authenticate a request. -/
inductive AuthHeaders where
  | token (authorization : String)
  | session (cookie : String) (csrf : Option Value)

/-- The token header of `buildHeaders`. -/
def tokenHeader (user realm tokenId secret : String) : String :=
  s!"PVEAPIToken={user}@{realm}!{tokenId}={secret}"

/-- The CSRF header of `buildHeaders`. -/
def csrfHeader (method : String) (csrfToken : Value) : Option Value :=
  if method ≠ "GET" ∧ method ≠ "HEAD" ∧ csrfToken.truthy = true then some csrfToken else none

/-! ## 2. The pool of clients -/

/-- `ProxmoxApiClient`, with the fingerprint it is kept under. -/
structure ApiClient where
  cluster : String
  fingerprint : String
  ticketCookie : Option String := none
  csrfToken : Value := .undefined

/-- `this.ticketCookie && this.csrfToken`. -/
def ApiClient.loggedIn (client : ApiClient) : Bool :=
  client.ticketCookie.any (· ≠ "") && client.csrfToken.truthy

/-- A request, and the credentials its cluster had when it got its client. -/
structure ClientRequest where
  cluster : String
  method : String
  auth : ClusterAuthConfig

/-- Where a request is. -/
inductive ApiStage where
  | login (client : Nat)
  | session (client : Nat)
  | token (authorization : String)
  | sent

/-- A login that was granted. -/
structure TicketGrant where
  client : Nat
  cluster : String
  auth : ClusterAuthConfig
  cookie : String
  csrfToken : Value

/-- A request that was sent, and the client whose ticket it carries. -/
structure SentRequest where
  request : ClientRequest
  headers : AuthHeaders
  client : Option Nat := none

/-- The clients between two turns. -/
structure ApiPool where
  auth : String → ClusterAuthConfig
  /-- `apiClients` -/
  apiClients : String → Option Nat := fun _ => none
  client : Nat → ApiClient := fun _ => ⟨"", "", none, .undefined⟩
  next : Nat := 0
  calls : Nat → Option (ClientRequest × ApiStage) := fun _ => none
  /-- the clients of the logins that were sent, newest first -/
  logins : List Nat := []
  grants : List TicketGrant := []
  requests : List SentRequest := []

/-- A turn of the event loop. -/
inductive ApiEvent where
  | begin (call : Nat) (clusterName method : String)
  | answered (call : Nat) (reply : Except String LoginReply)
  | send (call : Nat)
  | replied (call : Nat) (reply : Except String HttpReply)
  | setAuth (cluster : String) (auth : ClusterAuthConfig)

/-- `new ProxmoxApiClient(cluster)`, kept under the name. -/
def ApiPool.makeClient (m : ApiPool) (clusterName cluster fingerprint : String) : ApiPool × Nat :=
  ({ m with
    apiClients := Function.update m.apiClients clusterName (some m.next)
    client := Function.update m.client m.next ⟨cluster, fingerprint, none, .undefined⟩
    next := m.next + 1 }, m.next)

/-- `getApiClient`, of the cluster that the name resolves to: the client's number. -/
def ApiPool.getApiClient (m : ApiPool) (clusterName cluster : String) : ApiPool × Nat :=
  let fingerprint := (m.auth cluster).fingerprint cluster
  match m.apiClients clusterName with
  | some k =>
    if (m.client k).fingerprint = fingerprint then (m, k)
    else m.makeClient clusterName cluster fingerprint
  | none => m.makeClient clusterName cluster fingerprint

/-- Where the request is from now on. -/
def ApiPool.setCall (m : ApiPool) (call : Nat) (stage : Option (ClientRequest × ApiStage)) : ApiPool :=
  { m with calls := Function.update m.calls call stage }

/-- `request` with that client, up to its first `await`: `buildHeaders` with the credentials that
    the cluster has now. -/
def ApiPool.authenticate (m : ApiPool) (call k : Nat) (cluster method : String) : ApiPool :=
  let request : ClientRequest := ⟨cluster, method, m.auth cluster⟩
  match m.auth cluster with
  | .api_token user realm tokenId secret =>
      m.setCall call (some (request, .token (tokenHeader user realm tokenId secret)))
  | .ticket _ _ _ _ =>
      if (m.client k).loggedIn then m.setCall call (some (request, .session k))
      else { m.setCall call (some (request, .login k)) with logins := k :: m.logins }
  -- both throw
  | .secret_ref _ => m
  | .ssh_bootstrap _ _ _ _ _ => m

/-- One turn. -/
def ApiPool.step [Text.Unicode] (config : RuntimeConfig) (m : ApiPool) :
    ApiEvent → Option ApiPool
  | .begin call clusterName method =>
      match m.calls call, getCluster config clusterName with
      | some _, _ => none
      | none, .error _ => some m
      | none, .ok cluster =>
          let found := m.getApiClient clusterName cluster.name
          some (found.1.authenticate call found.2 cluster.name (Text.toUpperCase method))
  | .answered call reply =>
      match m.calls call with
      | some (request, .login k) =>
        match readLogin request.cluster reply with
        | .error _ => some (m.setCall call none)
        | .ok (cookie, csrf) =>
            some { m.setCall call (some (request, .session k)) with
              client := Function.update m.client k
                { m.client k with ticketCookie := some cookie, csrfToken := csrf }
              grants := ⟨k, request.cluster, request.auth, cookie, csrf⟩ :: m.grants }
      | _ => none
  | .send call =>
      match m.calls call with
      | some (request, .session k) =>
          some { m.setCall call (some (request, .sent)) with
            requests := ⟨request, .session ((m.client k).ticketCookie.getD "")
              (csrfHeader request.method (m.client k).csrfToken), some k⟩ :: m.requests }
      | some (request, .token authorization) =>
          some { m.setCall call (some (request, .sent)) with
            requests := ⟨request, .token authorization, none⟩ :: m.requests }
      | _ => none
  -- the client reads its reply, and keeps its ticket whatever it is
  | .replied call _ =>
      match m.calls call with
      | some (_, .sent) => some (m.setCall call none)
      | _ => none
  | .setAuth cluster auth => some { m with auth := Function.update m.auth cluster auth }

/-! ## 3. The cases of a turn -/

/-- The cases of a turn. -/
inductive ApiPool.Turn [Text.Unicode] (config : RuntimeConfig) (m : ApiPool) : ApiEvent → ApiPool → Prop
  | unknown (call : Nat) (clusterName method : String) :
      Turn config m (.begin call clusterName method) m
  | begins (call : Nat) (clusterName method : String) (cluster : ClusterConfig)
      (hcluster : getCluster config clusterName = .ok cluster) :
      Turn config m (.begin call clusterName method)
        ((m.getApiClient clusterName cluster.name).1.authenticate call
          (m.getApiClient clusterName cluster.name).2 cluster.name (Text.toUpperCase method))
  | refused (call : Nat) (reply : Except String LoginReply) :
      Turn config m (.answered call reply) (m.setCall call none)
  | granted (call k : Nat) (reply : Except String LoginReply) (request : ClientRequest)
      (cookie : String) (csrf : Value) (hcall : m.calls call = some (request, .login k)) :
      Turn config m (.answered call reply)
        { m.setCall call (some (request, .session k)) with
          client := Function.update m.client k
            { m.client k with ticketCookie := some cookie, csrfToken := csrf }
          grants := ⟨k, request.cluster, request.auth, cookie, csrf⟩ :: m.grants }
  | sendsTicket (call k : Nat) (request : ClientRequest)
      (hcall : m.calls call = some (request, .session k)) :
      Turn config m (.send call)
        { m.setCall call (some (request, .sent)) with
          requests := ⟨request, .session ((m.client k).ticketCookie.getD "")
            (csrfHeader request.method (m.client k).csrfToken), some k⟩ :: m.requests }
  | sendsToken (call : Nat) (request : ClientRequest) (authorization : String)
      (hcall : m.calls call = some (request, .token authorization)) :
      Turn config m (.send call)
        { m.setCall call (some (request, .sent)) with
          requests := ⟨request, .token authorization, none⟩ :: m.requests }
  | ends (call : Nat) (reply : Except String HttpReply) :
      Turn config m (.replied call reply) (m.setCall call none)
  | changes (cluster : String) (auth : ClusterAuthConfig) :
      Turn config m (.setAuth cluster auth) { m with auth := Function.update m.auth cluster auth }

/-- **What a turn does.** -/
theorem ApiPool.turn_of_step [Text.Unicode] {config : RuntimeConfig} {m m' : ApiPool} {e : ApiEvent}
    (h : m.step config e = some m') : m.Turn config e m' := by
  cases e with
  | begin call clusterName method =>
    unfold ApiPool.step at h
    dsimp only at h
    split at h
    · cases h
    · cases h
      exact .unknown call clusterName method
    · rename_i cluster _ hcluster
      cases h
      exact .begins call clusterName method cluster hcluster
  | answered call reply =>
    unfold ApiPool.step at h
    dsimp only at h
    split at h
    · rename_i request k hcall
      split at h
      · cases h
        exact .refused call reply
      · cases h
        exact .granted call k reply request _ _ hcall
    · cases h
  | send call =>
    unfold ApiPool.step at h
    dsimp only at h
    split at h
    · rename_i request k hcall
      cases h
      exact .sendsTicket call k request hcall
    · rename_i request authorization hcall
      cases h
      exact .sendsToken call request authorization hcall
    · cases h
  | replied call reply =>
    unfold ApiPool.step at h
    dsimp only at h
    split at h
    · cases h
      exact .ends call reply
    · cases h
  | setAuth cluster auth =>
    cases h
    exact .changes cluster auth

/-! ## 4. What a request carries -/

/-- The token of these credentials. -/
def ClusterAuthConfig.HasToken (auth : ClusterAuthConfig) (authorization : String) : Prop :=
  ∃ user realm tokenId secret, auth = .api_token user realm tokenId secret ∧
    authorization = tokenHeader user realm tokenId secret

/-- What was sent is the token of the cluster's credentials, or cookie and CSRF token of one login that
    this cluster granted, made with credentials of the fingerprint that these have. -/
def SentRequest.Backed (grants : List TicketGrant) (sent : SentRequest) : Prop :=
  match sent.headers with
  | .token authorization => sent.request.auth.HasToken authorization
  | .session cookie csrf => ∃ grant ∈ grants, grant.cookie = cookie ∧
      csrf = csrfHeader sent.request.method grant.csrfToken ∧ grant.cluster = sent.request.cluster ∧
      grant.auth.fingerprint grant.cluster = sent.request.auth.fingerprint sent.request.cluster

/-- What a client is kept for: its cluster, and the fingerprint of the credentials. -/
def ApiClient.key (client : ApiClient) : String × String := (client.cluster, client.fingerprint)

/-- What client the request needs. -/
def ClientRequest.key (request : ClientRequest) : String × String :=
  (request.cluster, request.auth.fingerprint request.cluster)

/-- What client the login was made for. -/
def TicketGrant.key (grant : TicketGrant) : String × String :=
  (grant.cluster, grant.auth.fingerprint grant.cluster)

/-- The request may be at that stage. -/
def ApiStage.Sound (m : ApiPool) (request : ClientRequest) : ApiStage → Prop
  | .login k => k < m.next ∧ request.key = (m.client k).key
  | .session k => k < m.next ∧ request.key = (m.client k).key ∧
      (m.client k).ticketCookie.isSome = true
  | .token authorization => request.auth.HasToken authorization
  | .sent => True

/-- The invariant. -/
structure ApiPool.Inv (config : RuntimeConfig) (m : ApiPool) : Prop where
  apiClients : ∀ name k, m.apiClients name = some k → k < m.next ∧
    ∀ cluster, getCluster config name = .ok cluster → (m.client k).cluster = cluster.name
  cookie : ∀ k cookie, (m.client k).ticketCookie = some cookie → ∃ grant ∈ m.grants,
    grant.client = k ∧ grant.cookie = cookie ∧ grant.csrfToken = (m.client k).csrfToken
  grants : ∀ grant ∈ m.grants, grant.client < m.next ∧ grant.key = (m.client grant.client).key
  calls : ∀ call request stage, m.calls call = some (request, stage) → stage.Sound m request
  requests : ∀ sent ∈ m.requests, sent.Backed m.grants

/-- The clients are still there, each for what it was kept for, and those that were logged in still
    are. -/
structure ApiPool.Grows (m m' : ApiPool) : Prop where
  next : m.next ≤ m'.next
  key : ∀ k < m.next, (m'.client k).key = (m.client k).key
  cookie : ∀ k < m.next, (m.client k).ticketCookie.isSome = true →
    (m'.client k).ticketCookie.isSome = true

section Inv

variable {config : RuntimeConfig} {m m' : ApiPool} {request : ClientRequest} {stage : ApiStage}
  {k call : Nat}

theorem ApiPool.Grows.refl (m : ApiPool) : m.Grows m where
  next := Nat.le_refl _
  key := fun _ _ => rfl
  cookie := fun _ _ h => h

theorem ApiStage.Sound.mono (h : stage.Sound m request) (hgrows : m.Grows m') :
    stage.Sound m' request := by
  cases stage with
  | login k =>
    obtain ⟨hk, hprint⟩ := h
    exact ⟨Nat.lt_of_lt_of_le hk hgrows.next, hprint.trans (hgrows.key k hk).symm⟩
  | session k =>
    obtain ⟨hk, hprint, hcookie⟩ := h
    exact ⟨Nat.lt_of_lt_of_le hk hgrows.next, hprint.trans (hgrows.key k hk).symm,
      hgrows.cookie k hk hcookie⟩
  | token authorization => exact h
  | sent => trivial

theorem SentRequest.Backed.mono {grants grants' : List TicketGrant} {sent : SentRequest}
    (h : sent.Backed grants) (hsub : grants ⊆ grants') : sent.Backed grants' := by
  unfold SentRequest.Backed at h ⊢
  split
  · rename_i authorization hheaders
    rw [hheaders] at h
    exact h
  · rename_i cookie csrf hheaders
    rw [hheaders] at h
    obtain ⟨grant, hgrant, hall⟩ := h
    exact ⟨grant, hsub hgrant, hall⟩

/-- The calls after one of them has gone on. -/
theorem ApiPool.Inv.updateCall (hm : m.Inv config) (hgrows : m.Grows m')
    {next : Option (ClientRequest × ApiStage)}
    (hnext : ∀ r s, next = some (r, s) → s.Sound m' r) :
    ∀ other r s, Function.update m.calls call next other = some (r, s) → s.Sound m' r := by
  intro other r s h
  by_cases heq : other = call
  · rw [heq, Function.update_self] at h
    exact hnext r s h
  · rw [Function.update_of_ne heq] at h
    exact (hm.calls other r s h).mono hgrows

theorem ApiPool.Inv.setCall (hm : m.Inv config) {next : Option (ClientRequest × ApiStage)}
    (hnext : ∀ r s, next = some (r, s) → s.Sound m r) : (m.setCall call next).Inv config where
  apiClients := hm.apiClients
  cookie := hm.cookie
  grants := hm.grants
  calls := fun other r s h =>
    ((hm.updateCall (ApiPool.Grows.refl m) hnext) other r s h).mono
      ⟨Nat.le_refl _, fun _ _ => rfl, fun _ _ h => h⟩
  requests := hm.requests

/-! ## 5. The invariant -/

theorem ApiPool.Inv.makeClient (hm : m.Inv config) {clusterName cluster : String}
    (hcluster : ∀ c, getCluster config clusterName = .ok c → cluster = c.name) (fingerprint : String) :
    (m.makeClient clusterName cluster fingerprint).1.Inv config := by
  have hclient : ∀ j < m.next, Function.update m.client m.next
      ⟨cluster, fingerprint, none, .undefined⟩ j = m.client j := fun j hj =>
    Function.update_of_ne (Nat.ne_of_lt hj) _ _
  have hgrows : m.Grows (m.makeClient clusterName cluster fingerprint).1 := {
    next := Nat.le_succ _
    key := fun j hj => congrArg ApiClient.key (hclient j hj)
    cookie := fun j hj h => by
      show ((Function.update m.client m.next _ j).ticketCookie).isSome = true
      rw [hclient j hj]
      exact h }
  exact {
    apiClients := fun name j h => by
      by_cases heq : name = clusterName
      · rw [ApiPool.makeClient, heq] at h
        dsimp only at h
        rw [Function.update_self] at h
        cases h
        refine ⟨Nat.lt_succ_self _, fun c hc => ?_⟩
        rw [ApiPool.makeClient]
        dsimp only
        rw [Function.update_self]
        exact hcluster c (heq ▸ hc)
      · rw [ApiPool.makeClient] at h
        dsimp only at h
        rw [Function.update_of_ne heq] at h
        obtain ⟨hj, hserves⟩ := hm.apiClients name j h
        refine ⟨Nat.lt_succ_of_lt hj, fun c hc => ?_⟩
        exact (congrArg ApiClient.cluster (hclient j hj)).trans (hserves c hc)
    cookie := fun j cookie h => by
      rw [ApiPool.makeClient] at h ⊢
      dsimp only at h ⊢
      by_cases heq : j = m.next
      · rw [heq, Function.update_self] at h
        cases h
      · rw [Function.update_of_ne heq] at h ⊢
        exact hm.cookie j cookie h
    grants := fun grant hgrant => by
      obtain ⟨hlt, hprint⟩ := hm.grants grant hgrant
      exact ⟨Nat.lt_succ_of_lt hlt, hprint.trans (hgrows.key _ hlt).symm⟩
    calls := fun call r s h => (hm.calls call r s h).mono hgrows
    requests := hm.requests }

/-- **`getApiClient` gives a client of the cluster and the fingerprint.** -/
theorem ApiPool.Inv.getApiClient (hm : m.Inv config) {clusterName : String} {cluster : ClusterConfig}
    (hcluster : getCluster config clusterName = .ok cluster) :
    (m.getApiClient clusterName cluster.name).1.Inv config ∧
      (m.getApiClient clusterName cluster.name).2 < (m.getApiClient clusterName cluster.name).1.next ∧
      ((m.getApiClient clusterName cluster.name).1.client
        (m.getApiClient clusterName cluster.name).2).key =
          (cluster.name, (m.auth cluster.name).fingerprint cluster.name) ∧
      (m.getApiClient clusterName cluster.name).1.auth = m.auth := by
  have hname : ∀ c, getCluster config clusterName = .ok c → cluster.name = c.name := by
    intro c hc
    rw [hcluster] at hc
    cases hc
    rfl
  have hmake := hm.makeClient hname ((m.auth cluster.name).fingerprint cluster.name)
  have hmade : ((m.makeClient clusterName cluster.name
      ((m.auth cluster.name).fingerprint cluster.name)).1.client m.next).key =
        (cluster.name, (m.auth cluster.name).fingerprint cluster.name) := by
    rw [ApiPool.makeClient]
    dsimp only
    rw [Function.update_self]
    rfl
  unfold ApiPool.getApiClient
  dsimp only
  split
  · rename_i k hk
    split
    · rename_i hprint
      obtain ⟨hlt, hserves⟩ := hm.apiClients clusterName k hk
      exact ⟨hm, hlt, Prod.ext (hserves cluster hcluster) hprint, rfl⟩
    · exact ⟨hmake, Nat.lt_succ_self _, hmade, rfl⟩
  · exact ⟨hmake, Nat.lt_succ_self _, hmade, rfl⟩

/-- **`request` with a client that serves it keeps the invariant.** -/
theorem ApiPool.Inv.authenticate (hm : m.Inv config) {cluster method : String} (hk : k < m.next)
    (hprint : (m.client k).key = (cluster, (m.auth cluster).fingerprint cluster)) :
    (m.authenticate call k cluster method).Inv config := by
  unfold ApiPool.authenticate
  dsimp only
  cases hauth : m.auth cluster with
  | api_token user realm tokenId secret =>
    refine hm.setCall fun r s h => ?_
    cases h
    exact ⟨user, realm, tokenId, secret, rfl, rfl⟩
  | ticket username password realm otp =>
    rw [hauth] at hprint
    dsimp only
    split
    · rename_i hlogged
      refine hm.setCall fun r s h => ?_
      cases h
      refine ⟨hk, hprint.symm, ?_⟩
      rw [ApiClient.loggedIn, Bool.and_eq_true] at hlogged
      cases hcookie : (m.client k).ticketCookie with
      | none =>
        rw [hcookie] at hlogged
        cases hlogged.1
      | some cookie => rfl
    · have hset : (m.setCall call (some (⟨cluster, method, .ticket username password realm otp⟩,
          .login k))).Inv config := hm.setCall fun r s h => by
        cases h
        exact ⟨hk, hprint.symm⟩
      exact {
        apiClients := hset.apiClients
        cookie := hset.cookie
        grants := hset.grants
        calls := fun other r s h => (hset.calls other r s h).mono ⟨Nat.le_refl _, fun _ _ => rfl,
          fun _ _ h => h⟩
        requests := hset.requests }
  | secret_ref secretCluster => exact hm
  | ssh_bootstrap sshUsername sshPassword apiUser apiRealm tokenId => exact hm

/-- **A granted login keeps the invariant.** -/
theorem ApiPool.Inv.granted (hm : m.Inv config) {cookie : String} {csrf : Value}
    (hcall : m.calls call = some (request, .login k)) :
    ApiPool.Inv config { m.setCall call (some (request, .session k)) with
      client := Function.update m.client k
        { m.client k with ticketCookie := some cookie, csrfToken := csrf }
      grants := ⟨k, request.cluster, request.auth, cookie, csrf⟩ :: m.grants } := by
  obtain ⟨hk, hprint⟩ := hm.calls call request _ hcall
  have hprints : ∀ j, (Function.update m.client k
      { m.client k with ticketCookie := some cookie, csrfToken := csrf } j).key =
        (m.client j).key := by
    intro j
    by_cases heq : j = k
    · rw [heq, Function.update_self]
      rfl
    · rw [Function.update_of_ne heq]
  have hgrows : m.Grows { m.setCall call (some (request, .session k)) with
      client := Function.update m.client k
        { m.client k with ticketCookie := some cookie, csrfToken := csrf }
      grants := ⟨k, request.cluster, request.auth, cookie, csrf⟩ :: m.grants } := {
    next := Nat.le_refl _
    key := fun j _ => hprints j
    cookie := fun j _ h => by
      dsimp only
      by_cases heq : j = k
      · rw [heq, Function.update_self]
        rfl
      · rw [Function.update_of_ne heq]
        exact h }
  exact {
    apiClients := fun name j h => by
      obtain ⟨hj, hserves⟩ := hm.apiClients name j h
      exact ⟨hj, fun c hc => (congrArg Prod.fst (hprints j)).trans (hserves c hc)⟩
    cookie := fun j c h => by
      dsimp only at h ⊢
      by_cases heq : j = k
      · subst heq
        rw [Function.update_self] at h ⊢
        cases h
        exact ⟨_, List.mem_cons_self, rfl, rfl, rfl⟩
      · rw [Function.update_of_ne heq] at h ⊢
        obtain ⟨grant, hgrant, hall⟩ := hm.cookie j c h
        exact ⟨grant, List.mem_cons_of_mem _ hgrant, hall⟩
    grants := fun grant hgrant => by
      rcases List.mem_cons.mp hgrant with rfl | hgrant
      · exact ⟨hk, hprint.trans (hprints k).symm⟩
      · obtain ⟨hlt, hsame⟩ := hm.grants grant hgrant
        exact ⟨hlt, hsame.trans (hprints _).symm⟩
    calls := hm.updateCall hgrows fun r s h => by
      cases h
      refine ⟨hk, hprint.trans (hprints k).symm, ?_⟩
      dsimp only
      rw [Function.update_self]
      rfl
    requests := fun sent hsent => (hm.requests sent hsent).mono (List.subset_cons_self _ _) }

/-- What is sent keeps the invariant. -/
theorem ApiPool.Inv.sends (hm : m.Inv config) {headers : AuthHeaders} {client : Option Nat}
    (hsent : SentRequest.Backed m.grants ⟨request, headers, client⟩) :
    ApiPool.Inv config { m.setCall call (some (request, .sent)) with
      requests := ⟨request, headers, client⟩ :: m.requests } := by
  have hset : (m.setCall call (some (request, .sent))).Inv config := hm.setCall fun r s h => by
    cases h
    trivial
  exact {
    apiClients := hset.apiClients
    cookie := hset.cookie
    grants := hset.grants
    calls := fun other r s h => (hset.calls other r s h).mono ⟨Nat.le_refl _, fun _ _ => rfl,
      fun _ _ h => h⟩
    requests := List.forall_mem_cons.mpr ⟨hsent, hset.requests⟩ }

/-- **A turn keeps the invariant.** -/
theorem ApiPool.Inv.step [Text.Unicode] {e : ApiEvent} (hm : m.Inv config)
    (h : m.step config e = some m') : m'.Inv config := by
  cases ApiPool.turn_of_step h with
  | unknown call clusterName method => exact hm
  | begins call clusterName method cluster hcluster =>
    obtain ⟨hinv, hk, hprint, hauth⟩ := hm.getApiClient hcluster
    exact hinv.authenticate hk (by rw [hauth]; exact hprint)
  | refused call reply => exact hm.setCall fun r s h => by cases h
  | granted call k reply request cookie csrf hcall => exact hm.granted hcall
  | sendsTicket call k request hcall =>
    obtain ⟨hk, hprint, hlogged⟩ := hm.calls call request _ hcall
    obtain ⟨cookie, hcookie⟩ := Option.isSome_iff_exists.mp hlogged
    obtain ⟨grant, hgrant, rfl, hsame, hcsrf⟩ := hm.cookie k cookie hcookie
    have hkeys : grant.key = request.key := (hm.grants grant hgrant).2.trans hprint.symm
    refine hm.sends ⟨grant, hgrant, ?_, ?_, congrArg Prod.fst hkeys, congrArg Prod.snd hkeys⟩
    · rw [hcookie]
      exact hsame
    · rw [hcsrf]
  | sendsToken call request authorization hcall => exact hm.sends (hm.calls call request _ hcall)
  | ends call reply => exact hm.setCall fun r s h => by cases h
  | changes cluster auth =>
    exact {
      apiClients := hm.apiClients
      cookie := hm.cookie
      grants := hm.grants
      calls := fun call r s h => (hm.calls call r s h).mono ⟨Nat.le_refl _, fun _ _ => rfl,
        fun _ _ h => h⟩
      requests := hm.requests }

end Inv

/-! ## 6. Every run -/

/-- The pool before the first request. -/
def ApiPool.start (auth : String → ClusterAuthConfig) : ApiPool := { auth := auth }

theorem inv_start (config : RuntimeConfig) (auth : String → ClusterAuthConfig) :
    (ApiPool.start auth).Inv config where
  apiClients := fun _ _ h => by cases h
  cookie := fun _ _ h => by cases h
  grants := fun _ h => absurd h List.not_mem_nil
  calls := fun _ _ _ h => by cases h
  requests := fun _ h => absurd h List.not_mem_nil

/-- The credentials of the examples. -/
def exampleTicketAuth : ClusterAuthConfig := .ticket "root" "secret" "pam" none

/-- A cluster with these credentials. -/
def ticketConfig : RuntimeConfig :=
  envOnlyConfig exampleCluster.authority exampleTicketAuth []

/-- The reply to a login that is granted. -/
def grantedLogin (ticket csrf : String) : LoginReply :=
  ⟨true, .ok (.obj [("data", .obj [("ticket", .str ticket), ("CSRFPreventionToken", .str csrf)])])⟩

/-- A login that is granted, as the first request asks for it. -/
def firstLogin : List ApiEvent :=
  [.begin 0 "default" "POST", .answered 0 (.ok (grantedLogin "T" "C"))]

section Run

variable [Text.Unicode] {config : RuntimeConfig} {m m' : ApiPool} {es : List ApiEvent}

/-- **A request carries the token of its cluster, or cookie and CSRF token of one login that this
    cluster granted**, made with credentials of the fingerprint that those of the cluster had when it
    got its client. -/
theorem sent_credentials (auth : String → ClusterAuthConfig)
    (hrun : Runs.run (ApiPool.step config) (ApiPool.start auth) es = some m) :
    ∀ sent ∈ m.requests, sent.Backed m.grants :=
  (Runs.invariant (fun hm hs => hm.step hs) (inv_start config auth) hrun).requests

omit [Text.Unicode] in
/-- A `POST` with ticket credentials: a login, and a request with cookie and CSRF token. -/
theorem sent_credentials_login :
    letI := Text.asciiCase
    ∃ m, Runs.run (ApiPool.step ticketConfig) (ApiPool.start fun _ => exampleTicketAuth)
        (firstLogin ++ [.send 0]) = some m ∧
      m.requests.map (·.headers) = [.session "PVEAuthCookie=T" (some (.str "C"))] ∧
      ∀ sent ∈ m.requests, sent.Backed m.grants := by
  let := Text.asciiCase
  have hrun : Runs.run (ApiPool.step ticketConfig) (ApiPool.start fun _ => exampleTicketAuth)
    (firstLogin ++ [.send 0]) = some _ := rfl
  exact ⟨_, hrun, rfl, sent_credentials (fun _ => exampleTicketAuth) hrun⟩

end Run

/-! ## 7. The login of these very credentials -/

/-- The parts of the fingerprint are free of the colon that joins them, other than the password. -/
def ClusterAuthConfig.Delimited : ClusterAuthConfig → Prop
  | .ticket username _ realm otp =>
      ':' ∉ username.toList ∧ ':' ∉ realm.toList ∧ ':' ∉ (otp.getD "").toList
  | _ => True

/-- The credentials that the event brings. -/
def ApiEvent.Delimited : ApiEvent → Prop
  | .setAuth _ auth => auth.Delimited
  | _ => True

instance : ∀ auth : ClusterAuthConfig, Decidable auth.Delimited
  | .ticket _ _ _ _ => inferInstanceAs (Decidable (_ ∧ _ ∧ _))
  | .api_token _ _ _ _ => isTrue trivial
  | .secret_ref _ => isTrue trivial
  | .ssh_bootstrap _ _ _ _ _ => isTrue trivial

instance : ∀ e : ApiEvent, Decidable e.Delimited
  | .setAuth _ auth => inferInstanceAs (Decidable auth.Delimited)
  | .begin _ _ _ => isTrue trivial
  | .answered _ _ => isTrue trivial
  | .send _ => isTrue trivial
  | .replied _ _ => isTrue trivial

theorem fingerprint_toList (cluster username password realm : String) (otp : Option String) :
    ((ClusterAuthConfig.ticket username password realm otp).fingerprint cluster).toList =
      "ticket".toList ++ ':' :: (username.toList ++ ':' :: (realm.toList ++ ':' ::
        (password.toList ++ ':' :: (otp.getD "").toList))) := by
  have hkind : "ticket:".toList = "ticket".toList ++ [':'] := by decide
  have hcolon : ":".toList = [':'] := by decide
  unfold ClusterAuthConfig.fingerprint toString instToStringString
  simp only [String.toList_append, hkind, hcolon, List.append_assoc, List.cons_append,
    List.nil_append]

/-- The first letter of a fingerprint that is none of a login. -/
theorem fingerprint_head (cluster : String) {auth : ClusterAuthConfig}
    (h : ∀ username password realm otp, auth ≠ .ticket username password realm otp) :
    (auth.fingerprint cluster).toList.head? ≠ some 't' := by
  have htoken : "api_token:".toList.head? = some 'a' := by decide
  have hsecret : "secret_ref:".toList.head? = some 's' := by decide
  have hssh : "ssh_bootstrap:".toList.head? = some 's' := by decide
  cases auth with
  | ticket username password realm otp => exact absurd rfl (h username password realm otp)
  | api_token user realm tokenId secret =>
    unfold ClusterAuthConfig.fingerprint toString instToStringString
    simp only [String.toList_append, List.head?_append, htoken, Option.some_or]
    decide
  | secret_ref secretCluster =>
    unfold ClusterAuthConfig.fingerprint toString instToStringString
    simp only [String.toList_append, List.head?_append, hsecret, Option.some_or]
    decide
  | ssh_bootstrap sshUsername sshPassword apiUser apiRealm tokenId =>
    unfold ClusterAuthConfig.fingerprint toString instToStringString
    simp only [String.toList_append, List.head?_append, hssh, Option.some_or]
    decide
/-- **The fingerprint of a login tells who logs in, and with what.** -/
theorem ticket_of_fingerprint {cluster cluster' username password realm : String}
    {otp : Option String} {auth : ClusterAuthConfig}
    (hdelim : (ClusterAuthConfig.ticket username password realm otp).Delimited)
    (hauth : auth.Delimited) (h : auth.fingerprint cluster' =
      (ClusterAuthConfig.ticket username password realm otp).fingerprint cluster) :
    ∃ otp', auth = .ticket username password realm otp' ∧ otp'.getD "" = otp.getD "" := by
  have hlist := congrArg String.toList h
  rw [fingerprint_toList] at hlist
  have hlogin : "ticket".toList.head? = some 't' := by decide
  have hhead := congrArg List.head? hlist
  rw [List.head?_append, hlogin, Option.some_or] at hhead
  cases auth with
  | api_token user realm tokenId secret =>
    exact absurd hhead (fingerprint_head cluster' fun _ _ _ _ h => by cases h)
  | secret_ref secretCluster =>
    exact absurd hhead (fingerprint_head cluster' fun _ _ _ _ h => by cases h)
  | ssh_bootstrap sshUsername sshPassword apiUser apiRealm tokenId =>
    exact absurd hhead (fingerprint_head cluster' fun _ _ _ _ h => by cases h)
  | ticket username' password' realm' otp' =>
    rw [fingerprint_toList] at hlist
    obtain ⟨huser, hrealm, hotp⟩ := hdelim
    obtain ⟨huser', hrealm', hotp'⟩ := hauth
    obtain ⟨-, hlist⟩ := Text.cut_first (by decide) (by decide) hlist
    obtain ⟨hu, hlist⟩ := Text.cut_first huser' huser hlist
    obtain ⟨hr, hlist⟩ := Text.cut_first hrealm' hrealm hlist
    obtain ⟨hp, ho⟩ := Text.cut_last hotp' hotp hlist
    exact ⟨otp', by rw [String.toList_inj.mp hu, String.toList_inj.mp hr, String.toList_inj.mp hp],
      String.toList_inj.mp ho⟩

/-- All credentials that are there, or were, are delimited. -/
structure ApiPool.Delimited (m : ApiPool) : Prop where
  auth : ∀ cluster, (m.auth cluster).Delimited
  calls : ∀ call request stage, m.calls call = some (request, stage) → request.auth.Delimited
  grants : ∀ grant ∈ m.grants, grant.auth.Delimited
  requests : ∀ sent ∈ m.requests, sent.request.auth.Delimited

section Delimited

variable {config : RuntimeConfig} {m m' : ApiPool} {call : Nat}

/-- The calls after one of them has gone on. -/
theorem ApiPool.Delimited.updateCall (hm : m.Delimited) {next : Option (ClientRequest × ApiStage)}
    (hnext : ∀ r s, next = some (r, s) → r.auth.Delimited) :
    ∀ other r s, Function.update m.calls call next other = some (r, s) → r.auth.Delimited := by
  intro other r s h
  by_cases heq : other = call
  · rw [heq, Function.update_self] at h
    exact hnext r s h
  · rw [Function.update_of_ne heq] at h
    exact hm.calls other r s h

theorem ApiPool.Delimited.setCall (hm : m.Delimited) {next : Option (ClientRequest × ApiStage)}
    (hnext : ∀ r s, next = some (r, s) → r.auth.Delimited) : (m.setCall call next).Delimited where
  auth := hm.auth
  calls := hm.updateCall hnext
  grants := hm.grants
  requests := hm.requests

theorem ApiPool.Delimited.getApiClient (hm : m.Delimited) (clusterName cluster : String) :
    (m.getApiClient clusterName cluster).1.Delimited := by
  have hmake : ∀ fingerprint, (m.makeClient clusterName cluster fingerprint).1.Delimited :=
    fun _ => ⟨hm.auth, hm.calls, hm.grants, hm.requests⟩
  unfold ApiPool.getApiClient
  dsimp only
  split
  · split
    · exact hm
    · exact hmake _
  · exact hmake _

theorem ApiPool.Delimited.authenticate (hm : m.Delimited) {k : Nat} {cluster method : String} :
    (m.authenticate call k cluster method).Delimited := by
  have hset : ∀ stage, (m.setCall call
      (some (⟨cluster, method, m.auth cluster⟩, stage))).Delimited := fun stage =>
    hm.setCall fun r s h => by
      cases h
      exact hm.auth cluster
  unfold ApiPool.authenticate
  dsimp only
  split
  · exact hset _
  · split
    · exact hset _
    · exact ⟨hm.auth, (hset _).calls, hm.grants, hm.requests⟩
  · exact hm
  · exact hm

/-- What is sent keeps the credentials. -/
theorem ApiPool.Delimited.sends (hm : m.Delimited) {request : ClientRequest} {stage : ApiStage}
    {headers : AuthHeaders} {client : Option Nat} (hcall : m.calls call = some (request, stage)) :
    ApiPool.Delimited { m.setCall call (some (request, .sent)) with
      requests := ⟨request, headers, client⟩ :: m.requests } where
  auth := hm.auth
  calls := hm.updateCall fun r s h => by
    cases h
    exact hm.calls call request stage hcall
  grants := hm.grants
  requests := List.forall_mem_cons.mpr ⟨hm.calls call request stage hcall, hm.requests⟩

theorem ApiPool.Delimited.step [Text.Unicode] {e : ApiEvent} (hm : m.Delimited)
    (he : e.Delimited) (h : m.step config e = some m') : m'.Delimited := by
  cases ApiPool.turn_of_step h with
  | unknown call clusterName method => exact hm
  | begins call clusterName method cluster hcluster =>
    exact (hm.getApiClient clusterName cluster.name).authenticate
  | refused call reply => exact hm.setCall fun r s h => by cases h
  | granted call k reply request cookie csrf hcall =>
    have hrequest := hm.calls call request _ hcall
    exact {
      auth := hm.auth
      calls := hm.updateCall fun r s h => by
        cases h
        exact hrequest
      grants := List.forall_mem_cons.mpr ⟨hrequest, hm.grants⟩
      requests := hm.requests }
  | sendsTicket call k request hcall => exact hm.sends hcall
  | sendsToken call request authorization hcall => exact hm.sends hcall
  | ends call reply => exact hm.setCall fun r s h => by cases h
  | changes cluster auth =>
    exact {
      auth := fun other => by
        by_cases heq : other = cluster
        · rw [heq]
          dsimp only
          rw [Function.update_self]
          exact he
        · dsimp only
          rw [Function.update_of_ne heq]
          exact hm.auth other
      calls := hm.calls
      grants := hm.grants
      requests := hm.requests }

/-- **A request with ticket credentials carries a login of these very credentials**, granted by its own
    cluster, whatever logins and changes of credentials it overlaps with. -/
theorem sent_own_login [Text.Unicode] {es : List ApiEvent} {auth : String → ClusterAuthConfig}
    (hauth : ∀ cluster, (auth cluster).Delimited) (hes : ∀ e ∈ es, e.Delimited)
    (hrun : Runs.run (ApiPool.step config) (ApiPool.start auth) es = some m) :
    ∀ sent ∈ m.requests, ∀ username password realm otp,
      sent.request.auth = .ticket username password realm otp →
        ∃ grant ∈ m.grants, grant.cluster = sent.request.cluster ∧
          (∃ otp', grant.auth = .ticket username password realm otp' ∧
            otp'.getD "" = otp.getD "") ∧
          sent.headers = .session grant.cookie (csrfHeader sent.request.method grant.csrfToken) := by
  intro sent hsent username password realm otp hticket
  have hinv := Runs.invariant (fun hm hs => hm.step hs) (inv_start config auth) hrun
  have hstart : (ApiPool.start auth).Delimited := {
    auth := hauth
    calls := fun _ _ _ h => by cases h
    grants := fun _ h => absurd h List.not_mem_nil
    requests := fun _ h => absurd h List.not_mem_nil }
  have halong : Runs.Along (ApiPool.step config) (fun _ e => e.Delimited) (ApiPool.start auth) es :=
    Runs.along_of_at fun es₁ e es₂ _ hsplit _ => hes e (by rw [hsplit]; simp)
  have hdelim := Runs.invariant_along (fun hm he hs => hm.step he hs) hstart halong hrun
  have hbacked := hinv.requests sent hsent
  unfold SentRequest.Backed at hbacked
  cases hheaders : sent.headers with
  | token authorization =>
    rw [hheaders] at hbacked
    obtain ⟨_, _, _, _, htoken, -⟩ := hbacked
    rw [hticket] at htoken
    cases htoken
  | session cookie csrf =>
    rw [hheaders] at hbacked
    obtain ⟨grant, hgrant, rfl, rfl, hcluster, hprint⟩ := hbacked
    rw [hticket] at hprint
    refine ⟨grant, hgrant, hcluster, ?_, rfl⟩
    exact ticket_of_fingerprint (hticket ▸ hdelim.requests sent hsent) (hdelim.grants grant hgrant)
      hprint

/-- The password changes after the first request, and the second one logs in with the new one. -/
def passwordChanged : List ApiEvent :=
  firstLogin ++ [.send 0, .setAuth "default" (.ticket "root" "sec:ret" "pam" none),
    .begin 1 "default" "POST", .answered 1 (.ok (grantedLogin "U" "D")), .send 1]

/-- The second request carries the second login. -/
theorem sent_own_login_changed :
    letI := Text.asciiCase
    ∃ m, Runs.run (ApiPool.step ticketConfig) (ApiPool.start fun _ => exampleTicketAuth)
        passwordChanged = some m ∧
      m.requests.map (·.headers) = [.session "PVEAuthCookie=U" (some (.str "D")),
        .session "PVEAuthCookie=T" (some (.str "C"))] ∧
      ∀ sent ∈ m.requests, ∀ username password realm otp,
        sent.request.auth = .ticket username password realm otp →
          ∃ grant ∈ m.grants, grant.cluster = sent.request.cluster ∧
            (∃ otp', grant.auth = .ticket username password realm otp' ∧
              otp'.getD "" = otp.getD "") ∧
            sent.headers = .session grant.cookie (csrfHeader sent.request.method grant.csrfToken) := by
  let := Text.asciiCase
  have hrun : Runs.run (ApiPool.step ticketConfig) (ApiPool.start fun _ => exampleTicketAuth)
    passwordChanged = some _ := rfl
  exact ⟨_, hrun, rfl, sent_own_login (fun _ => by decide) (by decide) hrun⟩

end Delimited

/-! ## 8. A client that is logged in -/

/-- The client is logged in with that ticket, it is in no login, and what it has sent since carries
    the ticket. -/
structure ApiPool.Keeps (k : Nat) (kept : ApiClient) (logins : List Nat)
    (earlier : List SentRequest) (m : ApiPool) : Prop where
  known : k < m.next
  client : m.client k = kept
  waiting : ∀ call request j, m.calls call = some (request, .login j) → j ≠ k
  logins : m.logins.filter (· = k) = logins
  requests : ∃ since, m.requests = since ++ earlier ∧ ∀ sent ∈ since, sent.client = some k →
    sent.headers = .session (kept.ticketCookie.getD "")
      (csrfHeader sent.request.method kept.csrfToken)

/-- What `getApiClient` leaves as it is. -/
structure ApiPool.Finds (m m' : ApiPool) : Prop where
  next : m.next ≤ m'.next
  client : ∀ k < m.next, m'.client k = m.client k
  calls : m'.calls = m.calls
  logins : m'.logins = m.logins
  requests : m'.requests = m.requests

theorem finds_makeClient (m : ApiPool) (clusterName cluster fingerprint : String) :
    m.Finds (m.makeClient clusterName cluster fingerprint).1 where
  next := Nat.le_succ _
  client := fun _ hk => Function.update_of_ne (Nat.ne_of_lt hk) _ _
  calls := rfl
  logins := rfl
  requests := rfl

theorem finds_getApiClient (m : ApiPool) (clusterName cluster : String) :
    m.Finds (m.getApiClient clusterName cluster).1 := by
  unfold ApiPool.getApiClient
  dsimp only
  split
  · split
    · exact ⟨Nat.le_refl _, fun _ _ => rfl, rfl, rfl, rfl⟩
    · exact finds_makeClient ..
  · exact finds_makeClient ..

section Keeps

variable {config : RuntimeConfig} {m m' : ApiPool} {k call : Nat} {client : ApiClient}
  {logins : List Nat} {earlier : List SentRequest}

theorem ApiPool.Keeps.finds (hm : m.Keeps k client logins earlier) (h : m.Finds m') :
    m'.Keeps k client logins earlier where
  known := Nat.lt_of_lt_of_le hm.known h.next
  client := (h.client k hm.known).trans hm.client
  waiting := by
    rw [h.calls]
    exact hm.waiting
  logins := by
    rw [h.logins]
    exact hm.logins
  requests := by
    rw [h.requests]
    exact hm.requests

/-- The waiting calls after one of them has gone on. -/
theorem ApiPool.Keeps.waits (hm : m.Keeps k client logins earlier)
    {next : Option (ClientRequest × ApiStage)}
    (hnext : ∀ request j, next = some (request, .login j) → j ≠ k) :
    ∀ other request j, Function.update m.calls call next other = some (request, .login j) → j ≠ k := by
  intro other request j h
  by_cases heq : other = call
  · rw [heq, Function.update_self] at h
    exact hnext request j h
  · rw [Function.update_of_ne heq] at h
    exact hm.waiting other request j h

theorem ApiPool.Keeps.setCall (hm : m.Keeps k client logins earlier)
    {next : Option (ClientRequest × ApiStage)}
    (hnext : ∀ request j, next = some (request, .login j) → j ≠ k) :
    (m.setCall call next).Keeps k client logins earlier where
  known := hm.known
  client := hm.client
  waiting := hm.waits hnext
  logins := hm.logins
  requests := hm.requests

/-- **A client that is logged in does not log in.** -/
theorem ApiPool.Keeps.authenticate (hm : m.Keeps k client logins earlier)
    (hlogged : client.loggedIn = true) {j : Nat} {cluster method : String} :
    (m.authenticate call j cluster method).Keeps k client logins earlier := by
  unfold ApiPool.authenticate
  dsimp only
  cases m.auth cluster with
  | api_token user realm tokenId secret => exact hm.setCall fun request j h => by cases h
  | ticket username password realm otp =>
    dsimp only
    split
    · exact hm.setCall fun request j h => by cases h
    · rename_i hout
      have hne : j ≠ k := by
        intro heq
        rw [heq, hm.client] at hout
        exact hout hlogged
      have hset : (m.setCall call (some (⟨cluster, method, .ticket username password realm otp⟩,
          .login j))).Keeps k client logins earlier := hm.setCall fun request j' h => by
        cases h
        exact hne
      exact {
        known := hset.known
        client := hset.client
        waiting := hset.waiting
        logins := by
          rw [List.filter_cons_of_neg (by simpa using hne)]
          exact hset.logins
        requests := hset.requests }
  | secret_ref secretCluster => exact hm
  | ssh_bootstrap sshUsername sshPassword apiUser apiRealm tokenId => exact hm

/-- A request is sent. -/
theorem ApiPool.Keeps.sends (hm : m.Keeps k client logins earlier) {request : ClientRequest}
    {headers : AuthHeaders} {source : Option Nat}
    (hcarries : source = some k → headers = .session (client.ticketCookie.getD "")
      (csrfHeader request.method client.csrfToken)) :
    ApiPool.Keeps k client logins earlier { m.setCall call (some (request, .sent)) with
      requests := ⟨request, headers, source⟩ :: m.requests } where
  known := hm.known
  client := hm.client
  waiting := hm.waits fun _ _ h => by cases h
  logins := hm.logins
  requests := by
    obtain ⟨since, hsince, hall⟩ := hm.requests
    exact ⟨⟨request, headers, source⟩ :: since, by rw [hsince]; rfl,
      List.forall_mem_cons.mpr ⟨hcarries, hall⟩⟩

/-- **A turn leaves a client alone that is logged in.** -/
theorem ApiPool.Keeps.step [Text.Unicode] {e : ApiEvent} (hm : m.Keeps k client logins earlier)
    (hlogged : client.loggedIn = true) (h : m.step config e = some m') :
    m'.Keeps k client logins earlier := by
  cases ApiPool.turn_of_step h with
  | unknown call clusterName method => exact hm
  | begins call clusterName method cluster hcluster =>
    exact (hm.finds (finds_getApiClient m clusterName cluster.name)).authenticate hlogged
  | refused call reply => exact hm.setCall fun request j h => by cases h
  | granted call j reply request cookie csrf hcall =>
    have hne : j ≠ k := hm.waiting call request j hcall
    exact {
      known := hm.known
      client := (Function.update_of_ne hne.symm _ _).trans hm.client
      waiting := hm.waits fun _ _ h => by cases h
      logins := hm.logins
      requests := hm.requests }
  | sendsTicket call j request hcall =>
    refine hm.sends fun hsource => ?_
    cases hsource
    rw [hm.client]
  | sendsToken call request authorization hcall => exact hm.sends fun hsource => by cases hsource
  | ends call reply => exact hm.setCall fun request j h => by cases h
  | changes cluster auth =>
    exact {
      known := hm.known
      client := hm.client
      waiting := hm.waiting
      logins := hm.logins
      requests := hm.requests }

/-- **A ticket is never renewed**: a client that is logged in does not log in again, and sends its
    ticket with every request, whatever is answered to it. -/
theorem ticket_never_renewed [Text.Unicode] {es : List ApiEvent} (hknown : k < m.next)
    (hlogged : (m.client k).loggedIn = true)
    (hwaiting : ∀ call request j, m.calls call = some (request, .login j) → j ≠ k)
    (hrun : Runs.run (ApiPool.step config) m es = some m') :
    m'.client k = m.client k ∧ m'.logins.filter (· = k) = m.logins.filter (· = k) ∧
      ∃ since, m'.requests = since ++ m.requests ∧ ∀ sent ∈ since, sent.client = some k →
        sent.headers = .session ((m.client k).ticketCookie.getD "")
          (csrfHeader sent.request.method (m.client k).csrfToken) := by
  have hstart : m.Keeps k (m.client k) (m.logins.filter (· = k)) m.requests := {
    known := hknown
    client := rfl
    waiting := hwaiting
    logins := rfl
    requests := ⟨[], rfl, fun sent hsent => absurd hsent List.not_mem_nil⟩ }
  have hend := Runs.invariant (fun hm hs => hm.step hlogged hs) hstart hrun
  exact ⟨hend.client, hend.logins, hend.requests⟩

/-- The first request gets status 401 for its reply, and a second one is sent. -/
def refusedOnce : List ApiEvent :=
  [.send 0, .replied 0 (.ok ⟨401, ""⟩), .begin 1 "default" "POST", .send 1]

/-- A reply of status 401 does not make the client log in again: the next request carries the ticket. -/
theorem ticket_never_renewed_refused :
    letI := Text.asciiCase
    ∃ m m', Runs.run (ApiPool.step ticketConfig) (ApiPool.start fun _ => exampleTicketAuth)
        firstLogin = some m ∧
      Runs.run (ApiPool.step ticketConfig) m refusedOnce = some m' ∧
      m'.requests.map (·.client) = [some 0, some 0] ∧
      m'.client 0 = m.client 0 ∧ m'.logins.filter (· = 0) = m.logins.filter (· = 0) ∧
      ∃ since, m'.requests = since ++ m.requests ∧ ∀ sent ∈ since, sent.client = some 0 →
        sent.headers = .session ((m.client 0).ticketCookie.getD "")
          (csrfHeader sent.request.method (m.client 0).csrfToken) := by
  let := Text.asciiCase
  refine ⟨_, _, rfl, rfl, rfl,
    @ticket_never_renewed ticketConfig _ _ 0 _ refusedOnce (by decide) rfl ?_ rfl⟩
  intro call request j h
  by_cases heq : call = 0
  · subst heq
    cases h
  · have hother : Function.update (Function.update (fun _ => none) 0 _) 0 _ call =
        some (request, ApiStage.login j) := h
    rw [Function.update_of_ne heq, Function.update_of_ne heq] at hother
    cases hother

end Keeps

/-! ## 9. Logins that overlap -/

/-- The name has a client that is logged out, for the ticket credentials of its cluster. -/
structure ApiPool.LoggedOut (config : RuntimeConfig) (clusterName : String) (k : Nat) (m : ApiPool) :
    Prop where
  client : m.apiClients clusterName = some k
  out : (m.client k).loggedIn = false
  cluster : ∃ cluster username password realm otp, getCluster config clusterName = .ok cluster ∧
    m.auth cluster.name = .ticket username password realm otp ∧
    (m.client k).fingerprint = (m.auth cluster.name).fingerprint cluster.name

section LoggedOut

variable [Text.Unicode] {config : RuntimeConfig} {clusterName : String} {k : Nat}

/-- **A request that begins meanwhile sends a login of its own.** -/
theorem ApiPool.LoggedOut.begins {m : ApiPool} (hm : m.LoggedOut config clusterName k) {call : Nat}
    (hcall : m.calls call = none) (method : String) :
    ∃ m', m.step config (.begin call clusterName method) = some m' ∧
      m'.LoggedOut config clusterName k ∧ m'.logins = k :: m.logins ∧
      ∀ other, other ≠ call → m'.calls other = m.calls other := by
  obtain ⟨cluster, username, password, realm, otp, hcluster, hticket, hprint⟩ := hm.cluster
  have hout : ¬ (m.client k).loggedIn = true := by
    rw [hm.out]
    exact Bool.false_ne_true
  have hfound : m.getApiClient clusterName cluster.name = (m, k) := by
    unfold ApiPool.getApiClient
    simp only [hm.client, if_pos hprint]
  have hstep : m.step config (.begin call clusterName method) = some
      { m.setCall call (some (⟨cluster.name, Text.toUpperCase method, m.auth cluster.name⟩,
        .login k)) with logins := k :: m.logins } := by
    unfold ApiPool.step
    simp only [hcall, hcluster, hfound]
    unfold ApiPool.authenticate
    simp only [hticket, if_neg hout]
  refine ⟨_, hstep, ?_, rfl, fun other hother => Function.update_of_ne hother _ _⟩
  exact {
    client := hm.client
    out := hm.out
    cluster := ⟨cluster, username, password, realm, otp, hcluster, hticket, hprint⟩ }

/-- **Requests do not share a login**: as many as begin before one is answered, so many logins are sent. -/
theorem logins_not_shared (method : String) : ∀ {calls : List Nat} {m : ApiPool},
    m.LoggedOut config clusterName k → calls.Nodup → (∀ call ∈ calls, m.calls call = none) →
      ∃ m', Runs.run (ApiPool.step config) m (calls.map fun call => .begin call clusterName method) =
        some m' ∧ m'.logins = List.replicate calls.length k ++ m.logins
  | [], m, _, _, _ => ⟨m, rfl, rfl⟩
  | call :: calls, m, hm, hnodup, hfree => by
      obtain ⟨hnew, hnodup⟩ := List.nodup_cons.mp hnodup
      obtain ⟨m₁, hstep, hm₁, hlogin, hothers⟩ := hm.begins (hfree call List.mem_cons_self) method
      have hfree₁ : ∀ other ∈ calls, m₁.calls other = none := by
        intro other hother
        rw [hothers other fun heq => hnew (heq ▸ hother)]
        exact hfree other (List.mem_cons_of_mem _ hother)
      obtain ⟨m', hrun, hlogins⟩ := logins_not_shared method hm₁ hnodup hfree₁
      refine ⟨m', Runs.run_cons.mpr ⟨m₁, hstep, hrun⟩, ?_⟩
      rw [hlogins, hlogin, List.length_cons, List.replicate_succ', List.append_assoc]
      rfl

/-- The client of `default` before its first login. -/
def newClient : ApiPool :=
  ((ApiPool.start fun _ => exampleTicketAuth).makeClient "default" "default"
    (exampleTicketAuth.fingerprint "default")).1

omit [Text.Unicode] in
/-- Three requests send three logins. -/
theorem logins_not_shared_three :
    letI := Text.asciiCase
    ∃ m', Runs.run (ApiPool.step ticketConfig) newClient
        ([0, 1, 2].map fun call => .begin call "default" "GET") = some m' ∧ m'.logins = [0, 0, 0] := by
  let := Text.asciiCase
  have hout : newClient.LoggedOut ticketConfig "default" 0 := {
    client := rfl
    out := rfl
    cluster := ⟨_, _, _, _, _, rfl, rfl, rfl⟩ }
  have hnodup : [0, 1, 2].Nodup := by decide
  exact logins_not_shared "GET" hout hnodup fun _ _ => rfl

end LoggedOut

end ProxmoxMcp
