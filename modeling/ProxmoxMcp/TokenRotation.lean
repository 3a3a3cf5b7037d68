/-
  File:      ProxmoxMcp/TokenRotation.lean
  Subject:   THE BOOTSTRAP OF A NODE'S ACCESS (`bootstrapNodeAccess`): the API token it deletes,
             creates and activates, and the credential the cluster is left with.

  The requests that replace a token are sent with the credential of the cluster. Where that is the
  token to be replaced, the deletion takes away what the creation would have been sent with; its
  failure is thrown, and the deleted token stays the credential of the cluster.

  * `RestStep`, `hostStep`: the host, its tokens and what a request does to them, whatever becomes
    of the request and of its reply;
  * `credential_kept_iff`: when the credential of the cluster is still accepted afterwards.
-/
import ProxmoxMcp.Rules
import ProxmoxMcp.NodeOperations
import ProxmoxMcp.Endpoint
import ProxmoxMcp.Lib.JsonText
import ProxmoxMcp.Lib.Worlds

namespace ProxmoxMcp

open Js Effects Prog

variable [Text.Unicode]

/-! ## 1. The operation -/

/-- A token of a user. -/
structure TokenName where
  userid : String
  tokenId : String
  deriving DecidableEq, Repr

/-- `tokenPath`. -/
def TokenName.path (token : TokenName) : String :=
  "/access/users/" ++ Url.encodeURIComponent token.userid ++ "/token/" ++
    Url.encodeURIComponent token.tokenId

/-- `BootstrapNodeAccessOptions`. -/
structure BootstrapNodeAccessOptions where
  apiUser : String
  apiRealm : String
  tokenId : String
  comment : Option String := none
  expire : Option Nat := none
  privsep : Bool
  replaceExistingToken : Bool
  installSshPublicKey : Bool
  activateApiToken : Bool
  deriving DecidableEq, Repr

def BootstrapNodeAccessOptions.toValue (options : BootstrapNodeAccessOptions) : Value :=
  .obj [("apiUser", .str options.apiUser), ("apiRealm", .str options.apiRealm),
    ("tokenId", .str options.tokenId),
    ("comment", (options.comment.map Value.str).getD .undefined),
    ("expire", (options.expire.map Value.nat).getD .undefined),
    ("privsep", .bool options.privsep),
    ("replaceExistingToken", .bool options.replaceExistingToken),
    ("installSshPublicKey", .bool options.installSshPublicKey),
    ("activateApiToken", .bool options.activateApiToken)]

/-- The token the options name. -/
def BootstrapNodeAccessOptions.token (options : BootstrapNodeAccessOptions) : TokenName :=
  ⟨options.apiUser ++ "@" ++ options.apiRealm, options.tokenId⟩

/-- The arguments of the creation. -/
def BootstrapNodeAccessOptions.createArgs (options : BootstrapNodeAccessOptions) :
    List (String × Value) :=
  ((nonEmpty options.comment).map fun comment => ("comment", Value.str comment)).toList ++
    (options.expire.map fun expire => ("expire", Value.nat expire)).toList ++
    [("privsep", .bool options.privsep)]

/-- `tokenInfo`; what the host sent is kept as it came. -/
structure BootstrapTokenInfo where
  token : TokenName
  fullTokenId : Value
  value : Value
  privsep : Value
  expire : Value
  comment : Value

/-- `BootstrapNodeAccessResult`, of a call that returns. -/
structure BootstrapNodeAccessResult where
  cluster : String
  node : String
  sshPublicKeyInstalled : Bool
  tokenAuthActivated : Bool
  tokenInfo : BootstrapTokenInfo

/-- `a ?? b`. -/
def nullishOr (a b : Value) : Value :=
  match a with
  | .undefined | .null => b
  | a => a

/-- The target of the token requests. -/
def tokenTarget (cluster : String) : TargetRef := { cluster := cluster, kind := .cluster }

/-- The installation of the key, where it is asked for. -/
def Service.bootstrapKey (S : Service) (cluster node : String) (install : Bool) : M Unit :=
  if install then do
    S.assertPermission (nodeSite cluster node) .shell
    S.assertPermission (nodeSite cluster node) (.file true)
    S.installNodePublicKey cluster node
  else Pure.pure ()

/-- The deletion of the token, where it is asked for. A failure is swallowed. -/
def Service.dropToken (S : Service) (cluster : String) (token : TokenName) (replace : Bool) :
    M Unit :=
  if replace then
    tryCatch (do
      let _ ← S.proxmoxApiCall (tokenTarget cluster) "DELETE" token.path []) fun _ => Pure.pure ()
  else Pure.pure ()

/-- `setClusterAuth`. -/
def Service.setClusterAuth (S : Service) (clusterName : String) (auth : ClusterAuthConfig) :
    M Unit := do
  let _ ← Prog.ofExcept (getCluster S.config clusterName)
  Prog.perform (Effect.setClusterAuth clusterName auth)

/-- The activation of the token, where it is asked for. A secret that is no string is kept as the
    text it has in the header. -/
def Service.activateToken (S : Service) (cluster : String) (options : BootstrapNodeAccessOptions)
    (value : Value) : M Unit :=
  if options.activateApiToken then
    S.setClusterAuth cluster
      (.api_token options.apiUser options.apiRealm options.tokenId (toText value))
  else Pure.pure ()

/-- `bootstrapNodeAccess`. -/
def Service.bootstrapNodeAccess (S : Service) (cluster node : String)
    (options : BootstrapNodeAccessOptions) : M BootstrapNodeAccessResult := do
  S.auditRecord "proxmox_bootstrap_node_access" (nodeSite cluster node)
    [("options", options.toValue)]
  S.bootstrapKey cluster node options.installSshPublicKey
  S.dropToken cluster options.token options.replaceExistingToken
  let tokenResponse ← S.proxmoxApiCall (tokenTarget cluster) "POST" options.token.path
    options.createArgs
  let fullTokenId ← Prog.ofExcept (readProperty tokenResponse.data "full-tokenid")
  let value := tokenResponse.data.get "value"
  let info := tokenResponse.data.get "info"
  S.activateToken cluster options value
  return {
    cluster := cluster
    node := node
    sshPublicKeyInstalled := options.installSshPublicKey
    tokenAuthActivated := options.activateApiToken
    tokenInfo := {
      token := options.token
      fullTokenId := fullTokenId
      value := value
      privsep := nullishOr (info.get "privsep") (.bool options.privsep)
      expire := info.get "expire"
      comment := info.get "comment" } }

/-! ## 2. The host -/

/-- The address of a token: the path of the URL that its requests are sent to. -/
def TokenName.address (token : TokenName) : List (List Char) :=
  (Url.pathState ["api2".toList, "json".toList] [] (Url.trimmed (token.path.toList.drop 1))).path

/-- The tokens of the host, by their addresses, each with its secret. -/
abbrev TokenTable : Type := List (List Char) → Option String

/-- The token of a credential. -/
def ClusterAuthConfig.token : ClusterAuthConfig → Option TokenName
  | .api_token user realm tokenId _ => some ⟨user ++ "@" ++ realm, tokenId⟩
  | _ => none

/-- The host accepts the credential. -/
def Accepts (tokens : TokenTable) : ClusterAuthConfig → Prop
  | .api_token user realm tokenId secret =>
      tokens (TokenName.address ⟨user ++ "@" ++ realm, tokenId⟩) = some secret
  | _ => False

/-- What a request did at the host. -/
inductive RestOutcome where
  | nothing
  | deleted
  | created (secret : String)
  deriving DecidableEq, Repr

/-- **What the host may do with a request**, with its reply and what is left of the tokens. A
    request may get lost, before it reaches the host or on the way back; a credential that is not
    accepted gets a 401; a creation answers with the new secret, and fails where the token exists.
-/
inductive RestStep (tokens : TokenTable) (auth : ClusterAuthConfig) (request : RestRequest) :
    Except String HttpReply → RestOutcome → TokenTable → Prop where
  | lost (m : String) : RestStep tokens auth request (.error m) .nothing tokens
  | unauthorized (text : String) (hauth : ¬ Accepts tokens auth) :
      RestStep tokens auth request (.ok ⟨401, text⟩) .nothing tokens
  | refused (reply : HttpReply) (hauth : Accepts tokens auth) (hreply : reply.ok = false) :
      RestStep tokens auth request (.ok reply) .nothing tokens
  | deleted (reply : Except String HttpReply) (hauth : Accepts tokens auth)
      (hmethod : request.method = "DELETE") :
      RestStep tokens auth request reply .deleted
        (Function.update tokens request.url.tail.path none)
  | created (reply : Except String HttpReply) (secret : String) (hauth : Accepts tokens auth)
      (hmethod : request.method = "POST") (hnew : tokens request.url.tail.path = none)
      (hreply : ∀ r, reply = .ok r → r.ok = true →
        (unwrapData r.payload).get "value" = .str secret) :
      RestStep tokens auth request reply (.created secret)
        (Function.update tokens request.url.tail.path (some secret))
  | other (reply : Except String HttpReply) (hauth : Accepts tokens auth)
      (hother : (request.method ≠ "DELETE" ∧ request.method ≠ "POST") ∨
        ∀ token : TokenName, request.url.tail.path ≠ token.address) :
      RestStep tokens auth request reply .nothing tokens

/-- The host and the credential of the cluster, with what the requests have done so far. -/
structure HostState where
  tokens : TokenTable
  auth : ClusterAuthConfig
  outcomes : List RestOutcome := []

/-- One effect of a call. -/
def hostStep (s : HostState) : (e : Effect) → e.Reply → HostState → Prop
  | .currentAuth _, auth, s' => auth = s.auth ∧ s' = s
  | .setClusterAuth _ auth, _, s' => s' = { s with auth := auth }
  | .send sent, reply, s' => ∃ outcome tokens,
      RestStep s.tokens s.auth sent.request reply outcome tokens ∧
        s' = ⟨tokens, s.auth, s.outcomes ++ [outcome]⟩
  | _, _, s' => s' = s

/-! ## 3. What the parts do -/

section Parts

variable {S : Service} {cluster node : String} {token : TokenName} {s : HostState}

/-- The host takes no notice of the effect, and the credential stays. -/
def Effect.Unnoticed (e : Effect) : Prop := ∀ s r s', hostStep s e r s' → s' = s

theorem only_bootstrapKey {install : Bool} :
    Only Effect.Unnoticed (S.bootstrapKey cluster node install) := by
  have hassert : ∀ {permission : Permission},
      Only Effect.Unnoticed (S.assertPermission (nodeSite cluster node) permission) :=
    only_bind only_ofExcept fun _ => only_perform fun _ _ _ h => h
  have hensure : ∀ {name : String}, Only Effect.Unnoticed (S.ensureCluster name) := by
    intro name
    unfold Service.ensureCluster
    split
    · exact only_attempt fun _ _ _ h => h
    · exact only_pure
  have hexec : ∀ {purpose : Purpose} {site : TargetRef} {resolved : ResolvedNodeTarget}
      {command : String}, Only Effect.Unnoticed (S.sshExec purpose site resolved command) :=
    only_bind only_ofExcept fun _ => only_attempt fun _ _ _ h => h
  have hrun : ∀ {purpose : Purpose} {site : TargetRef} {resolved : ResolvedNodeTarget}
      {command : String}, Only Effect.Unnoticed (S.runSshCommand purpose site resolved command) := by
    intro purpose site resolved command
    refine only_bind hensure fun _ => only_tryCatch hexec fun m => ?_
    split
    · refine only_bind (only_attempt fun _ _ _ h => h) fun _ => ?_
      exact only_bind hensure fun _ => hexec
    · exact only_throw
  have hkey : ∀ {profile : SshProfileConfig}, Only Effect.Unnoticed (publicKeyText profile) := by
    intro profile
    unfold publicKeyText
    split
    · exact only_pure
    · exact only_bind (only_attempt fun _ _ _ h => h) fun _ => only_pure
    · exact only_pure
  unfold Service.bootstrapKey
  split
  · refine only_bind hassert fun _ => only_bind hassert fun _ => ?_
    refine only_bind only_ofExcept fun resolved => only_bind ?_ fun publicKey => ?_
    · unfold Service.getSshPublicKey
      split
      · exact only_throw
      · refine only_bind hkey fun key => ?_
        split
        · exact only_pure
        · exact only_throw
    · exact only_bind hrun fun result => only_ofExcept
  · exact only_pure

/-- The parts of a token's path. -/
def TokenName.parts (token : TokenName) : List String :=
  ["access", "users", token.userid, "token", token.tokenId]

omit [Text.Unicode] in
theorem toList_append_append (a b c d : String) :
    (a ++ b ++ c ++ d).toList = a.toList ++ b.toList ++ c.toList ++ d.toList := by
  rw [String.toList_append, String.toList_append, String.toList_append]

omit [Text.Unicode] in
/-- The path of a token is made of its parts, percent-encoded. -/
theorem TokenName.path_parts (token : TokenName) :
    token.path.toList = '/' :: Text.joinWith ['/'] (token.parts.map Url.component) := by
  have hwords : ["access", "users", "token"].map Url.component =
      ["access".toList, "users".toList, "token".toList] := by decide +kernel
  simp only [List.map_cons, List.map_nil, List.cons.injEq, and_true] at hwords
  obtain ⟨haccess, husers, htoken⟩ := hwords
  have hpath : token.path.toList = "/access/users/".toList ++ Url.component token.userid ++
      "/token/".toList ++ Url.component token.tokenId := by
    unfold TokenName.path
    exact toList_append_append ..
  simp only [TokenName.parts, List.map_cons, List.map_nil, haccess, husers, htoken]
  rw [hpath]
  generalize Url.component token.userid = user
  generalize Url.component token.tokenId = id
  simp only [Text.joinWith, List.append_assoc]
  rfl

omit [Text.Unicode] in
/-- The path of a token begins with a slash. -/
theorem TokenName.path_slash (token : TokenName) :
    token.path.toList = '/' :: token.path.toList.drop 1 := by
  rw [token.path_parts]
  rfl

/-- A name that no URL resolves away. -/
def TokenName.Ordinary (token : TokenName) : Prop := ∀ part ∈ token.parts, part ≠ "." ∧ part ≠ ".."

instance (token : TokenName) : Decidable token.Ordinary :=
  inferInstanceAs (Decidable (∀ part ∈ token.parts, part ≠ "." ∧ part ≠ ".."))

omit [Text.Unicode] in
/-- **The address of an ordinary token is its own.** -/
theorem TokenName.address_inj {a b : TokenName} (ha : a.Ordinary) (hb : b.Ordinary) :
    a.address = b.address ↔ a = b := by
  have hbase : ∀ x ∈ ["api2".toList, "json".toList], '\\' ∉ x := by decide
  have haddress : ∀ {token : TokenName}, token.Ordinary →
      token.address = ["api2".toList, "json".toList] ++ token.parts.map Url.component := by
    intro token h
    rw [TokenName.address, token.path_parts, List.drop_one, List.tail_cons]
    exact Url.pathState_components (List.cons_ne_nil _ _) hbase h
  refine ⟨fun h => ?_, fun h => h ▸ rfl⟩
  rw [haddress ha, haddress hb] at h
  have hparts := List.append_cancel_left h
  simp only [TokenName.parts, List.map_cons, List.map_nil, List.cons.injEq, true_and,
    and_true] at hparts
  have hinj : ∀ {s t : String}, Url.component s = Url.component t → s = t :=
    fun h => Url.encodeURIComponent_injective (String.toList_injective h)
  obtain ⟨userid, tokenId⟩ := a
  obtain ⟨userid', tokenId'⟩ := b
  have huser : userid = userid' := hinj hparts.1
  have htoken : tokenId = tokenId' := hinj hparts.2
  rw [huser, htoken]

/-- The requests of a token go to its address. -/
theorem address_request {config : ClusterConfig} {method : String} {args : List (String × Value)}
    {request : RestRequest} (h : buildRequest config method token.path args = .ok request) :
    request.method = Text.toUpperCase method ∧ request.url.tail.path = token.address := by
  have hpath := path_buildRequest (parseHttps_baseUrl config token.path_slash) h
  dsimp only at hpath
  exact ⟨method_buildRequest h, hpath⟩

/-- What became of a token request: it was not sent, or it was sent once and returns what the host
    answered. -/
def TokenCalled {α : Type} (s : HostState) (method : String) (token : TokenName) (data : α → Value)
    (o : Outcome String α) (s' : HostState) : Prop :=
  ((∀ a, o ≠ .ok a) ∧ s' = s) ∨ ∃ request reply outcome tokens,
    request.method = Text.toUpperCase method ∧ request.url.tail.path = token.address ∧
    RestStep s.tokens s.auth request reply outcome tokens ∧
    s' = ⟨tokens, s.auth, s.outcomes ++ [outcome]⟩ ∧
    ∀ a, o = .ok a → ∃ r, reply = .ok r ∧ r.ok = true ∧ data a = unwrapData r.payload

theorem TokenCalled.unsent {α : Type} {method : String} {data : α → Value} (m : String) :
    TokenCalled s method token data (.error m) s := .inl ⟨fun _ h => (nomatch h), rfl⟩

theorem TokenCalled.unsent_cut {α : Type} {method : String} {data : α → Value} :
    TokenCalled s method token data .cut s := .inl ⟨fun _ h => (nomatch h), rfl⟩

/-- A token request that does not return is one, whatever it was to return. -/
theorem TokenCalled.failed {α β : Type} {method : String} {data : α → Value} {data' : β → Value}
    {o : Outcome String α} {o' : Outcome String β} {s' : HostState} (ho : ∀ a, o' ≠ .ok a)
    (h : TokenCalled s method token data o s') : TokenCalled s method token data' o' s' := by
  rcases h with ⟨_, hs⟩ | ⟨request, reply, outcome, tokens, hmethod, hpath, hstep, hs, _⟩
  · exact .inl ⟨ho, hs⟩
  · exact .inr ⟨request, reply, outcome, tokens, hmethod, hpath, hstep, hs,
      fun a ha => absurd ha (ho a)⟩

omit [Text.Unicode] in
/-- A credential that is a token is ready. -/
theorem ends_buildHeaders (hauth : s.auth.token.isSome = true) {config : ClusterConfig} :
    Prog.Ends hostStep (buildHeaders cluster config) s fun o s' => o = .ok () ∧ s' = s := by
  refine ends_bind (ends_perform fun auth s' h => ?_)
  obtain ⟨rfl, rfl⟩ := h
  show Prog.Ends hostStep _ s' _
  cases hs : s'.auth with
  | api_token => exact ends_pure ⟨rfl, rfl⟩
  | _ =>
    rw [hs] at hauth
    cases hauth

/-- What a reply returns. -/
theorem ofExcept_readReply {method path : String} {r : HttpReply} {v : Value}
    (h : Outcome.ofExcept (readReply method path r) = .ok v) :
    r.ok = true ∧ v = unwrapData r.payload := by
  have hok := Outcome.eq_ok_of_ofExcept h.symm
  unfold readReply at hok
  split at hok
  · rename_i hr
    cases hok
    exact ⟨hr, rfl⟩
  · cases hok

theorem ends_tokenRequest (hauth : s.auth.token.isSome = true) {purpose : Purpose}
    {method : String} {args : List (String × Value)} :
    Prog.Ends hostStep (S.request purpose cluster method token.path args) s
      (TokenCalled s method token id) := by
  refine ends_quiet_bind only_ofExcept (fun config => ?_) TokenCalled.unsent TokenCalled.unsent_cut
  cases hb : buildRequest config method token.path args with
  | error m => exact ends_throw (.unsent m)
  | ok request =>
    obtain ⟨hmethod, hpath⟩ := address_request hb
    rw [ofExcept_ok_bind]
    refine ends_bind ((ends_buildHeaders hauth).mono fun o s₀ h => ?_)
    obtain ⟨rfl, rfl⟩ := h
    refine ends_bind (ends_bind (ends_perform fun reply s₁ h => ends_ofExcept ?_))
    obtain ⟨outcome, tokens, hstep, rfl⟩ := h
    have hcalled : ∀ {o : Outcome String Value},
        (∀ v, o = .ok v → ∃ r, reply = .ok r ∧ r.ok = true ∧ v = unwrapData r.payload) →
        TokenCalled s₀ method token id o ⟨tokens, s₀.auth, s₀.outcomes ++ [outcome]⟩ :=
      fun h => .inr ⟨request, reply, outcome, tokens, hmethod, hpath, hstep, rfl, h⟩
    cases reply with
    | error m => exact hcalled fun v h => nomatch h
    | ok r => exact ends_ofExcept (hcalled fun v h => ⟨r, rfl, ofExcept_readReply h⟩)

/-- **A token request, where there is no lifecycle**: nothing is repaired, nothing sent again. -/
theorem ends_tokenCall (hmanaged : S.managed = none) (hauth : s.auth.token.isSome = true)
    {target : TargetRef} {method : String} {args : List (String × Value)} :
    Prog.Ends hostStep (S.proxmoxApiCall target method token.path args) s
      (TokenCalled s method token ApiResult.data) := by
  have hnone : ∀ name, S.hasManagedCluster name = false := by
    intro name
    rw [Service.hasManagedCluster, hmanaged]
  have hassert : Only Effect.Unnoticed (S.assertPermission target (.api method)) :=
    only_bind only_ofExcept fun _ => only_perform fun _ _ _ h => h
  refine ends_quiet_bind hassert (fun _ => ?_) TokenCalled.unsent TokenCalled.unsent_cut
  refine ends_quiet_bind only_ofExcept (fun validated => ?_) TokenCalled.unsent TokenCalled.unsent_cut
  refine ends_quiet_bind (only_attempt fun _ _ _ h => h) (fun _ => ?_) TokenCalled.unsent
    TokenCalled.unsent_cut
  have hrequest : Prog.Ends hostStep (S.apiRequest ⟨.direct, target, none⟩ target.cluster method
      token.path validated.args) s (TokenCalled s method token id) := by
    unfold Service.apiRequest Service.ensureCluster
    rw [hnone, if_neg Bool.false_ne_true, pure_bind]
    refine ends_tryCatch ((ends_tokenRequest hauth).mono fun o s' hcalled => ?_)
    cases o with
    | ok v => exact hcalled
    | cut => exact hcalled
    | error m =>
      simp only [EndsCatch, Bool.false_and, Bool.false_eq_true, if_false]
      exact ends_throw hcalled
  refine ends_bind (hrequest.mono fun o s' hcalled => ?_)
  cases o with
  | ok v =>
    refine ends_pure ?_
    rcases hcalled with ⟨hno, hs⟩ | ⟨request, reply, outcome, tokens, hm, hp, hstep, hs, hret⟩
    · exact absurd rfl (hno v)
    · refine .inr ⟨request, reply, outcome, tokens, hm, hp, hstep, hs, fun a ha => ?_⟩
      cases ha
      exact hret v rfl
  | error m => exact hcalled.failed fun _ h => by cases h
  | cut => exact hcalled.failed fun _ h => by cases h

end Parts

/-! ## 4. The credential -/

section Credential

variable {S : Service} {cluster node : String} {options : BootstrapNodeAccessOptions}
  {token : TokenName} {auth : ClusterAuthConfig} {s s' : HostState}

/-- The token of the credential is the one named, and it has been deleted. -/
def OwnTokenDeleted (auth : ClusterAuthConfig) (token : TokenName) (s : HostState) : Prop :=
  .deleted ∈ s.outcomes ∧ auth.token.map TokenName.address = some token.address

/-- While the token is replaced: the credential has not changed, and it is accepted unless it was
    deleted. -/
def Replacing (auth : ClusterAuthConfig) (token : TokenName) (s : HostState) : Prop :=
  s.auth = auth ∧ (Accepts s.tokens auth ↔ ¬ OwnTokenDeleted auth token s)

omit [Text.Unicode] in
/-- A credential that is accepted is a token the host knows. -/
theorem Accepts.known {tokens : TokenTable} (h : Accepts tokens auth) :
    ∃ own secret, auth.token = some own ∧ tokens own.address = some secret := by
  cases auth with
  | api_token user realm tokenId secret => exact ⟨_, secret, rfl, h⟩
  | _ => cases h

omit [Text.Unicode] in
/-- Another token does not matter to a credential. -/
theorem accepts_update {tokens : TokenTable} {own : TokenName} (hown : auth.token = some own)
    {address : List (List Char)} (hne : own.address ≠ address) {entry : Option String} :
    Accepts (Function.update tokens address entry) auth ↔ Accepts tokens auth := by
  cases auth with
  | api_token user realm tokenId secret =>
    cases hown
    rw [Accepts, Accepts, Function.update_of_ne hne]
  | _ => cases hown

omit [Text.Unicode] in
/-- Nor does one that was not there before. -/
theorem Accepts.update_new {tokens : TokenTable} (h : Accepts tokens auth)
    {address : List (List Char)} (hnew : tokens address = none) {entry : Option String} :
    Accepts (Function.update tokens address entry) auth ↔ Accepts tokens auth := by
  obtain ⟨own, secret, hown, hsecret⟩ := h.known
  refine accepts_update hown fun e => ?_
  rw [e, hnew] at hsecret
  cases hsecret

omit [Text.Unicode] in
/-- A token that is gone is not accepted. -/
theorem not_accepts_of_none {tokens : TokenTable} {own : TokenName} (hown : auth.token = some own)
    (hnone : tokens own.address = none) : ¬ Accepts tokens auth := by
  intro h
  obtain ⟨own', secret, htoken, hsecret⟩ := h.known
  rw [hown] at htoken
  cases htoken
  rw [hnone] at hsecret
  cases hsecret

omit [Text.Unicode] in
/-- **A request of the token keeps to that**, whatever becomes of it. -/
theorem Replacing.step {request : RestRequest} {reply : Except String HttpReply}
    {outcome : RestOutcome} {tokens : TokenTable} (h : Replacing auth token s)
    (hpath : request.url.tail.path = token.address)
    (hstep : RestStep s.tokens s.auth request reply outcome tokens) :
    Replacing auth token ⟨tokens, s.auth, s.outcomes ++ [outcome]⟩ := by
  obtain ⟨rfl, hiff⟩ := h
  -- an outcome other than a deletion does not change what was deleted
  have hdeleted : ∀ {outcome : RestOutcome} {tokens : TokenTable}, outcome ≠ .deleted →
      (OwnTokenDeleted s.auth token ⟨tokens, s.auth, s.outcomes ++ [outcome]⟩ ↔
        OwnTokenDeleted s.auth token s) := by
    intro outcome tokens hne
    unfold OwnTokenDeleted
    simp [List.mem_append, Ne.symm hne]
  refine ⟨rfl, ?_⟩
  cases hstep with
  | lost m => exact hiff.trans (not_congr (hdeleted (by simp)).symm)
  | unauthorized text hauth => exact hiff.trans (not_congr (hdeleted (by simp)).symm)
  | refused reply hauth hreply => exact hiff.trans (not_congr (hdeleted (by simp)).symm)
  | other reply hauth hother => exact hiff.trans (not_congr (hdeleted (by simp)).symm)
  | deleted reply hauth hmethod =>
    obtain ⟨own, secret, hown, hsecret⟩ := hauth.known
    have hlost : OwnTokenDeleted s.auth token ⟨Function.update s.tokens request.url.tail.path none,
        s.auth, s.outcomes ++ [.deleted]⟩ ↔ own.address = token.address := by
      unfold OwnTokenDeleted
      simp [hown]
    rw [hlost, hpath]
    by_cases hsame : own.address = token.address
    · have hgone : Function.update s.tokens token.address none own.address = none := by
        rw [hsame, Function.update_self]
      dsimp only
      exact iff_of_false (not_accepts_of_none hown hgone) (not_not.mpr hsame)
    · refine iff_of_true ?_ hsame
      dsimp only
      rw [accepts_update hown hsame]
      exact hauth
  | created reply secret hauth hmethod hnew hreply =>
    rw [hdeleted (by simp)]
    dsimp only
    rw [hauth.update_new hnew]
    exact hiff

/-- So does a call of the token's endpoint. -/
theorem Replacing.called {α : Type} {method : String} {data : α → Value} {o : Outcome String α}
    (h : Replacing auth token s) (hcalled : TokenCalled s method token data o s') :
    Replacing auth token s' := by
  rcases hcalled with ⟨_, rfl⟩ | ⟨request, reply, outcome, tokens, _, hpath, hstep, rfl, _⟩
  · exact h
  · exact h.step hpath hstep

theorem toUpperCase_post : Text.toUpperCase "POST" = "POST" := by
  rw [Text.toUpperCase, Text.flatMap_upper_ascii (Text.ascii_of_all (by decide))]
  rfl

/-- **A creation that returns** has created the token: its secret is what the host answered, and
    the credential that asked for it is still accepted. -/
theorem TokenCalled.returned {α : Type} {data : α → Value} {a : α}
    (h : TokenCalled s "POST" token data (.ok a) s') (hauth : Replacing auth token s) :
    ∃ secret, (data a).get "value" = .str secret ∧ s'.tokens token.address = some secret ∧
      Accepts s'.tokens auth := by
  rcases h with ⟨hno, _⟩ | ⟨request, reply, outcome, tokens, hmethod, hpath, hstep, rfl, hret⟩
  · exact absurd rfl (hno a)
  · obtain ⟨r, rfl, hr, hdata⟩ := hret a rfl
    rw [toUpperCase_post] at hmethod
    cases hstep with
    | unauthorized text hauth =>
      have h401 : HttpReply.ok ⟨401, text⟩ = false := rfl
      rw [h401] at hr
      cases hr
    | refused reply hauth hreply =>
      rw [hr] at hreply
      cases hreply
    | deleted reply hauth hdelete =>
      rw [hmethod] at hdelete
      exact absurd hdelete (by decide)
    | other reply hauth hother =>
      rcases hother with hother | hother
      · exact absurd hmethod hother.2
      · exact absurd hpath (hother token)
    | created reply secret haccepts _ hnew hreply =>
      refine ⟨secret, ?_, ?_, ?_⟩
      · rw [hdata]
        exact hreply r rfl hr
      · dsimp only
        rw [hpath, Function.update_self]
      · obtain ⟨rfl, _⟩ := hauth
        dsimp only
        rw [haccepts.update_new hnew]
        exact haccepts

/-- The deletion keeps to it, and returns in any case. -/
theorem ends_dropToken (hmanaged : S.managed = none) (htoken : auth.token.isSome = true)
    (hs : Replacing auth token s) {replace : Bool} :
    Prog.Ends hostStep (S.dropToken cluster token replace) s fun _ s' => Replacing auth token s' := by
  unfold Service.dropToken
  split
  · have hauth : s.auth.token.isSome = true := by rw [hs.1]; exact htoken
    refine ends_tryCatch (ends_bind ((ends_tokenCall hmanaged hauth).mono fun o s' h => ?_))
    cases o with
    | ok result => exact ends_pure (hs.called h)
    | error m => exact ends_pure (hs.called h)
    | cut => exact hs.called h
  · exact ends_pure hs

omit [Text.Unicode] in
/-- The activation puts an accepted credential in the place of an accepted one. -/
theorem ends_activateToken (hs : Replacing auth options.token s) {value : Value} {secret : String}
    (hvalue : value = .str secret) (hnew : s.tokens options.token.address = some secret)
    (haccepted : Accepts s.tokens auth) :
    Prog.Ends hostStep (S.activateToken cluster options value) s fun _ s' =>
      (Accepts s'.tokens s'.auth ↔ ¬ OwnTokenDeleted auth options.token s') := by
  have hkept : ¬ OwnTokenDeleted auth options.token s := hs.2.mp haccepted
  have hstop : Accepts s.tokens s.auth ↔ ¬ OwnTokenDeleted auth options.token s := by
    rw [hs.1]
    exact hs.2
  unfold Service.activateToken
  split
  · refine ends_quiet_bind only_ofExcept (fun config => ?_) (fun _ => hstop) hstop
    refine ends_perform fun _ s' h => ?_
    cases h
    have htext : toText value = secret := by
      rw [hvalue]
      exact String.ofList_toList
    rw [htext]
    exact iff_of_true hnew hkept
  · exact ends_pure hstop

/-- After every bootstrap that begins in the state, the host accepts the credential of the cluster. -/
def CredentialLaw (S : Service) (cluster node : String) (options : BootstrapNodeAccessOptions)
    (s : HostState) : Prop :=
  ∀ t o s', Run (S.bootstrapNodeAccess cluster node options) t o → After hostStep s t s' →
    Accepts s'.tokens s'.auth

/-- **When the credential of the cluster is still accepted.** After a bootstrap in a cluster that
    no lifecycle manages, begun with a token the host accepts, and whatever the host did with each
    of its requests: exactly if the host has not deleted the cluster's own token for it. -/
theorem credential_kept_iff (hmanaged : S.managed = none) (haccepts : Accepts s.tokens s.auth)
    (hfresh : s.outcomes = []) {t : History} {o : Outcome String BootstrapNodeAccessResult}
    (hrun : Run (S.bootstrapNodeAccess cluster node options) t o) (hhost : After hostStep s t s') :
    Accepts s'.tokens s'.auth ↔
      ¬ (.deleted ∈ s'.outcomes ∧
        s.auth.token.map TokenName.address = some options.token.address) := by
  obtain ⟨own, secret, hown, _⟩ := haccepts.known
  have htoken : s.auth.token.isSome = true := by rw [hown]; rfl
  have hs : Replacing s.auth options.token s := by
    refine ⟨rfl, iff_of_true haccepts fun h => ?_⟩
    rw [OwnTokenDeleted, hfresh] at h
    exact absurd h.1 List.not_mem_nil
  generalize s.auth = auth at htoken hs ⊢
  -- a call that ends before the activation leaves the credential as it was
  have hstop : ∀ {s₁ : HostState}, Replacing auth options.token s₁ →
      (Accepts s₁.tokens s₁.auth ↔ ¬ OwnTokenDeleted auth options.token s₁) := by
    intro s₁ h
    rw [h.1]
    exact h.2
  have hends : Prog.Ends hostStep (S.bootstrapNodeAccess cluster node options) s fun _ s' =>
      (Accepts s'.tokens s'.auth ↔ ¬ OwnTokenDeleted auth options.token s') := by
    refine ends_quiet_bind (only_attempt fun _ _ _ h => h) (fun _ => ?_) (fun _ => hstop hs) (hstop hs)
    refine ends_quiet_bind only_bootstrapKey (fun _ => ?_) (fun _ => hstop hs) (hstop hs)
    refine ends_bind ((ends_dropToken hmanaged htoken hs).mono fun o s₁ hs₁ => ?_)
    cases o with
    | error m => exact hstop hs₁
    | cut => exact hstop hs₁
    | ok u =>
      have hauth : s₁.auth.token.isSome = true := by rw [hs₁.1]; exact htoken
      refine ends_bind ((ends_tokenCall hmanaged hauth).mono fun o s₂ hcalled => ?_)
      have hs₂ := hs₁.called hcalled
      cases o with
      | error m => exact hstop hs₂
      | cut => exact hstop hs₂
      | ok tokenResponse =>
        obtain ⟨secret, hvalue, hnew, haccepted⟩ := hcalled.returned hs₁
        refine ends_quiet_bind only_ofExcept (fun fullTokenId => ?_) (fun _ => hstop hs₂) (hstop hs₂)
        refine ends_bind ((ends_activateToken hs₂ hvalue hnew haccepted).mono fun o s₃ hs₃ => ?_)
        cases o with
        | ok u => exact ends_pure hs₃
        | error m => exact hs₃
        | cut => exact hs₃
  exact hends t o s' hrun hhost

end Credential

/-! ## 5. A host that does as it is told -/

/-- The host accepts the credential, as a program. -/
def accepts (tokens : TokenTable) : ClusterAuthConfig → Bool
  | .api_token user realm tokenId secret =>
      tokens (TokenName.address ⟨user ++ "@" ++ realm, tokenId⟩) = some secret
  | _ => false

omit [Text.Unicode] in
theorem accepts_iff {tokens : TokenTable} {auth : ClusterAuthConfig} :
    accepts tokens auth = true ↔ Accepts tokens auth := by
  cases auth with
  | api_token => exact decide_eq_true_iff
  | _ => exact ⟨fun h => (nomatch h), fun h => nomatch h⟩

/-- The reply to a creation. -/
def createdText (secret : String) : String :=
  stringifyText (.obj [("data", .obj [("value", .str secret)])])

omit [Text.Unicode] in
/-- It holds the secret. -/
theorem created_secret (secret : String) :
    (unwrapData (HttpReply.payload ⟨200, createdText secret⟩)).get "value" = .str secret := by
  have hwrites : (Value.obj [("data", .obj [("value", .str secret)])]).Writes :=
    ⟨inOrder_single (by decide), ⟨inOrder_single (by decide), trivial, trivial⟩, trivial⟩
  have hparse := parse_stringifyText_of hwrites
  have htext : createdText secret ≠ "" := by
    intro h
    rw [createdText] at h
    rw [h] at hparse
    cases hparse
  rw [HttpReply.payload, if_neg htext, createdText, hparse]
  rfl

/-- A host that carries out every request that it may carry out, and loses no reply. The secret it
    gives to a new token is always the same. -/
def obedient (secret : String) (s : HostState) : (e : Effect) → e.Reply × HostState
  | .currentAuth _ => (s.auth, s)
  | .setClusterAuth _ auth => ((), { s with auth := auth })
  | .send sent =>
      let address := sent.request.url.tail.path
      let unchanged : HostState := { s with outcomes := s.outcomes ++ [.nothing] }
      if !accepts s.tokens s.auth then (.ok ⟨401, ""⟩, unchanged)
      else if sent.request.method = "DELETE" then
        (.ok ⟨200, ""⟩,
          ⟨Function.update s.tokens address none, s.auth, s.outcomes ++ [.deleted]⟩)
      else if sent.request.method = "POST" ∧ s.tokens address = none then
        (.ok ⟨200, createdText secret⟩,
          ⟨Function.update s.tokens address (some secret), s.auth,
            s.outcomes ++ [.created secret]⟩)
      else (.ok ⟨400, ""⟩, unchanged)
  | e => (quietAnswer e, s)

omit [Text.Unicode] in
/-- **It is one of the hosts considered.** -/
theorem hostStep_obedient {secret : String} (s : HostState) (e : Effect) :
    hostStep s e (obedient secret s e).1 (obedient secret s e).2 := by
  cases e with
  | currentAuth name => exact ⟨rfl, rfl⟩
  | send sent =>
    simp only [obedient]
    split
    · rename_i hauth
      have hnot : ¬ Accepts s.tokens s.auth := by
        rw [← accepts_iff]
        simpa using hauth
      exact ⟨.nothing, s.tokens, .unauthorized "" hnot, rfl⟩
    · rename_i hauth
      have haccepts : Accepts s.tokens s.auth := by
        rw [← accepts_iff]
        simpa using hauth
      split
      · rename_i hdelete
        exact ⟨.deleted, _, .deleted _ haccepts hdelete, rfl⟩
      · split
        · rename_i hpost
          refine ⟨.created secret, _, .created _ secret haccepts hpost.1 hpost.2 ?_, rfl⟩
          intro r hr _
          cases hr
          exact created_secret secret
        · exact ⟨.nothing, s.tokens, .refused ⟨400, ""⟩ haccepts rfl, rfl⟩
  | _ => rfl

/-- A token's endpoint. -/
def tokenTemplate : Template :=
  ⟨[.word "access".toList, .word "users".toList, .param "userid", .word "token".toList,
    .param "tokenid"], by decide, by decide⟩

/-- The endpoints that delete and create a token. -/
def tokenEndpoints : List ApiMethodDescriptor :=
  [{ method := "DELETE"
     template := tokenTemplate
     properties := [("userid", {}), ("tokenid", {})]
     additionalProperties := false },
   { method := "POST"
     template := tokenTemplate
     properties := [("comment", { type := some "string", optional := true }),
       ("expire", { type := some "integer", optional := true }),
       ("privsep", { type := some "boolean", optional := true }), ("userid", {}), ("tokenid", {})]
     additionalProperties := false }]

/-- A server of one cluster, under the production policy. -/
def bootstrapService : Service where
  config := { clusters := [exampleCluster], policies := [defaultProductionPolicy] }
  catalog := tokenEndpoints

/-- The replacement of a token of `root@pam`, and its activation. -/
def replacement (tokenId : String) : BootstrapNodeAccessOptions where
  apiUser := "root"
  apiRealm := "pam"
  tokenId := tokenId
  privsep := true
  replaceExistingToken := true
  installSshPublicKey := false
  activateApiToken := true

/-- The host knows the token of the cluster, `root@pam!mcp`, and no other. -/
def hostBefore : HostState where
  tokens := fun address =>
    if address = TokenName.address ⟨"root" ++ "@" ++ "pam", "mcp"⟩ then some "s" else none
  auth := exampleCluster.auth

/-- What the replacement leaves behind at an obedient host. -/
def hostAfter (tokenId : String) : HostState :=
  ((bootstrapService.bootstrapNodeAccess "default" "pve" (replacement tokenId)).runIn
    (obedient "new") hostBefore).2.2

/-- It is left behind by a run. -/
theorem run_hostAfter (tokenId : String) : ∃ t o,
    Run (bootstrapService.bootstrapNodeAccess "default" "pve" (replacement tokenId)) t o ∧
      After hostStep hostBefore t (hostAfter tokenId) := by
  unfold hostAfter
  exact ⟨_, _, run_runIn _ _ _, after_runIn hostStep_obedient _ _⟩

omit [Text.Unicode] in
/-- The host accepts the credential of the cluster before. -/
theorem accepts_hostBefore : Accepts hostBefore.tokens hostBefore.auth := by
  have hauth : hostBefore.auth = .api_token "root" "pam" "mcp" "s" := rfl
  rw [hauth, Accepts, hostBefore]
  dsimp only
  rw [if_pos rfl]

omit [Text.Unicode] in
/-- **Another token can be replaced**: the cluster is left with the new one, which is accepted. -/
theorem credential_kept_iff_other :
    letI := Text.asciiCase
    (hostAfter "mcp2").auth = .api_token "root" "pam" "mcp2" "new" ∧
      Accepts (hostAfter "mcp2").tokens (hostAfter "mcp2").auth := by
  let := Text.asciiCase
  obtain ⟨t, o, hrun, hafter⟩ := run_hostAfter "mcp2"
  have hother : hostBefore.auth.token.map TokenName.address ≠
      some (replacement "mcp2").token.address := by
    intro h
    have haddress : TokenName.address ⟨"root" ++ "@" ++ "pam", "mcp"⟩ =
        TokenName.address ⟨"root" ++ "@" ++ "pam", "mcp2"⟩ := Option.some_inj.mp h
    rw [TokenName.address_inj (by decide) (by decide)] at haddress
    exact absurd haddress (by decide)
  refine ⟨by decide +kernel, ?_⟩
  generalize hostAfter "mcp2" = s' at hafter ⊢
  have hkept := credential_kept_iff rfl accepts_hostBefore rfl hrun hafter
  exact hkept.mpr fun h => hother h.2

omit [Text.Unicode] in
/-- **The cluster's own token cannot**: it is deleted, the creation is answered with a 401, and the
    cluster keeps the token that is gone. -/
theorem ownToken_lost :
    letI := Text.asciiCase
    (hostAfter "mcp").outcomes = [.deleted, .nothing] ∧
      Accepts hostBefore.tokens hostBefore.auth ∧
      ¬ CredentialLaw bootstrapService "default" "pve" (replacement "mcp") hostBefore := by
  let := Text.asciiCase
  have hlost : (hostAfter "mcp").outcomes = [.deleted, .nothing] ∧
      accepts (hostAfter "mcp").tokens (hostAfter "mcp").auth = false := by decide +kernel
  obtain ⟨houtcomes, hgone⟩ := hlost
  refine ⟨houtcomes, accepts_hostBefore, fun hlaw => ?_⟩
  obtain ⟨t, o, hrun, hafter⟩ := run_hostAfter "mcp"
  generalize hostAfter "mcp" = s' at hafter hgone
  have haccepts := accepts_iff.mpr (hlaw t o s' hrun hafter)
  rw [hgone] at haccepts
  cases haccepts

end ProxmoxMcp
