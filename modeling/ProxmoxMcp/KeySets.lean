/-
  File:      ProxmoxMcp/KeySets.lean
  Subject:   THE CACHE OF THE KEY SET (`JwksCache`) under overlapping verifications: what a key set
             that the issuer has replaced can still verify, and for how long.

  A step is one turn of the event loop: a call of `verifyToken` begins, the discovery document comes
  to a call, or the key set does. A turn reads one time. The state keeps, beside the cache, the
  calls that wait, and as history the key sets that were fetched, the verdicts and the last time
  read; no step looks at the history.

  * `Heard` -- the INVARIANT: the cache is a fetched key set, and every accepted token was signed
    under a key set that was fetched less than the lifetime before the call, or for it;
  * `replaced_keys_refused` -- so what no key set verifies any more from some time on is refused
    from the lifetime after that time on, however the calls overlap;
  * `fresh_cache_decides` -- and until then the cache alone decides: a key it does not have is not
    asked for.

  NOT here: the order of two turns that come to the same call, and the time WebCrypto takes.
-/
import ProxmoxMcp.HttpAuth
import ProxmoxMcp.Lib.Runs

namespace ProxmoxMcp

open Js Checks

/-! ## 1. Fetches -/

/-- The `Response` of a fetch: what the cache reads of it. -/
structure FetchResponse where
  ok : Bool
  status : Nat
  statusText : String
  /-- what `response.json()` comes to -/
  json : Except String Value

/-- `JwksCache.fetchJson`; the reply is an error where the fetch is rejected. -/
def fetchJson (url : String) (reply : Except String FetchResponse) : Except String Value := do
  let response ← reply
  if response.ok then response.json
  else .error s!"Failed to fetch {url}: {response.status} {response.statusText}"

/-- `OidcJwtVerifierOptions`, with what the fetch of the key set reads. -/
structure JwksOptions extends OidcJwtVerifierOptions where
  jwksUri : Option UrlInput := none
  cacheTtlMs : Option Int := none

/-- `DEFAULT_CACHE_TTL_MS`. -/
def DEFAULT_CACHE_TTL_MS : Int := 5 * 60 * 1000

/-- `cacheTtlMs ?? DEFAULT_CACHE_TTL_MS`. -/
def JwksOptions.ttlMs (options : JwksOptions) : Int := options.cacheTtlMs.getD DEFAULT_CACHE_TTL_MS

/-- The platform, with what the discovery takes from URLs. -/
structure FetchPlatform extends Platform where
  /-- `url.pathname` -/
  urlPath : String → String
  /-- `url.origin` -/
  origin : String → String
  /-- `new URL(path, base).href`, `none` where it throws -/
  resolve : String → String → Option String

/-- `resolveWellKnownUrl`. -/
def FetchPlatform.resolveWellKnownUrl (P : FetchPlatform) (base leaf : String) :
    Except String String :=
  let pathname := if (P.urlPath base).endsWith "/" then P.urlPath base else P.urlPath base ++ "/"
  match P.resolve (pathname ++ leaf) (P.origin base) with
  | some href => .ok href
  | none => .error "Invalid URL"

/-- What a call waits for. -/
inductive KeySetStage where
  | discovery (url : String)
  | keySet (url : String)

/-- `resolveJwksUri`, up to its first `await`; an empty URI is none. -/
def FetchPlatform.resolveJwksUri (P : FetchPlatform) (options : JwksOptions) :
    Except String KeySetStage :=
  match options.jwksUri with
  | none | some (.text "") => do
      let issuer ← P.toUrl options.issuer
      return .discovery (← P.resolveWellKnownUrl issuer ".well-known/openid-configuration")
  | some uri => do return .keySet (← P.toUrl uri)

/-- `resolveJwksUri`, from the discovery document on. -/
def FetchPlatform.discoveredUri (P : FetchPlatform) (url : String)
    (reply : Except String FetchResponse) : Except String String := do
  let discovery ← fetchJson url reply
  let uri ← readProperty discovery "jwks_uri"
  failIf (!uri.truthy) s!"OIDC discovery document at {url} did not include jwks_uri"
  let text ← toStringValue uri
  P.toUrl (.text text)

/-- The keys of a fetched key set. -/
def fetchedKeys (url : String) (reply : Except String FetchResponse) : Except String (List Value) := do
  jwksKeys url (← fetchJson url reply)

/-! ## 2. Calls -/

/-- `verifyToken`, up to `getJwks`. -/
def Platform.presents (P : Platform) (options : OidcJwtVerifierOptions) (nowMs : Nat)
    (token : String) : Except String Unit :=
  match Text.splitOn '.' token.toList with
  | [headerPart, payloadPart, _] => do
      let header ← P.parseJsonSegment headerPart
      let alg ← readProperty header "alg"
      failIf (!alg.truthy) "JWT header is missing alg"
      let claims ← P.parseJsonSegment payloadPart
      P.validateClaims options nowMs claims
  | _ => .error "Bearer token is not a JWT"

/-- `CachedJwks`. -/
structure CachedJwks where
  fetchedAt : Nat
  keys : List Value

/-- `Date.now() - this.cached.fetchedAt < ttlMs`. -/
def CachedJwks.isFresh (cached : CachedJwks) (options : JwksOptions) (nowMs : Nat) : Bool :=
  (nowMs : Int) - cached.fetchedAt < options.ttlMs

/-- A call of `verifyToken` that waits. -/
structure WaitingCall where
  token : String
  askedAt : Nat
  stage : KeySetStage

/-- What a call of `verifyToken` came to. -/
structure TokenVerdict where
  token : String
  askedAt : Nat
  outcome : Except String VerifiedBearerToken

/-- The verifier between two turns. -/
structure Verifier where
  cached : Option CachedJwks := none
  waiting : Nat → Option WaitingCall := fun _ => none
  /-- the key sets that came, newest first -/
  fetched : List CachedJwks := []
  /-- the calls that ended, newest first -/
  verdicts : List TokenVerdict := []
  /-- the last time read -/
  clock : Nat := 0

/-- A turn of the event loop. -/
inductive VerifierEvent where
  | verify (call nowMs : Nat) (token : String)
  | discovered (call : Nat) (reply : Except String FetchResponse)
  | answered (call nowMs : Nat) (reply : Except String FetchResponse)

/-- What the turn reads of the clock. -/
def VerifierEvent.time : VerifierEvent → Option Nat
  | .verify _ nowMs _ => some nowMs
  | .discovered _ _ => none
  | .answered _ nowMs _ => some nowMs

section Step

variable (P : FetchPlatform) (options : JwksOptions)

/-- The call ends with that key set, or with what `getJwks` threw. -/
def Verifier.conclude (m : Verifier) (token : String) (askedAt : Nat)
    (jwks : Except String (List Value)) : Verifier :=
  { m with verdicts := ⟨token, askedAt, P.verifyToken options.toOidcJwtVerifierOptions jwks askedAt
      token⟩ :: m.verdicts }

/-- The call waits, or no longer. -/
def Verifier.setWaiting (m : Verifier) (call : Nat) (waits : Option WaitingCall) : Verifier :=
  { m with waiting := Function.update m.waiting call waits }

/-- `getJwks` of a call, up to its first `await`. -/
def Verifier.getJwks (m : Verifier) (call nowMs : Nat) (token : String) : Verifier :=
  match m.cached.filter fun cached => cached.isFresh options nowMs with
  | some cached => m.conclude P options token nowMs (.ok cached.keys)
  | none =>
    match P.resolveJwksUri options with
    | .error message => m.conclude P options token nowMs (.error message)
    | .ok stage => m.setWaiting call (some ⟨token, nowMs, stage⟩)

/-- One turn. -/
def Verifier.step (m : Verifier) : VerifierEvent → Option Verifier
  | .verify call nowMs token =>
      if (m.waiting call).isSome then none
      else
        let read := { m with clock := nowMs }
        match P.presents options.toOidcJwtVerifierOptions nowMs token with
        -- the rest of `verifyToken` is not reached: no key set is asked for
        | .error message =>
            some { read with verdicts := ⟨token, nowMs, .error message⟩ :: m.verdicts }
        | .ok _ => some (read.getJwks P options call nowMs token)
  | .discovered call reply =>
      match m.waiting call with
      | some ⟨token, askedAt, .discovery url⟩ =>
        match P.discoveredUri url reply with
        | .error message =>
            some ((m.setWaiting call none).conclude P options token askedAt (.error message))
        | .ok uri => some (m.setWaiting call (some ⟨token, askedAt, .keySet uri⟩))
      | _ => none
  | .answered call nowMs reply =>
      match m.waiting call with
      | some ⟨token, askedAt, .keySet url⟩ =>
        let read := { m.setWaiting call none with clock := nowMs }
        match fetchedKeys url reply with
        | .error message => some (read.conclude P options token askedAt (.error message))
        | .ok keys =>
            some ({ read with
              cached := some ⟨nowMs, keys⟩
              fetched := ⟨nowMs, keys⟩ :: m.fetched }.conclude P options token askedAt (.ok keys))
      | _ => none

end Step

/-! ## 3. What a turn does -/

section Turn

variable {P : FetchPlatform} {options : JwksOptions} {m m' : Verifier} {e : VerifierEvent}
  {nowMs call : Nat} {token : String}

/-- The cases of a turn. -/
inductive Verifier.Turn (P : FetchPlatform) (options : JwksOptions) (m : Verifier) :
    VerifierEvent → Verifier → Prop
  | refused (call nowMs : Nat) (token message : String)
      (h : P.presents options.toOidcJwtVerifierOptions nowMs token = .error message) :
      Turn P options m (.verify call nowMs token)
        { m with clock := nowMs, verdicts := ⟨token, nowMs, .error message⟩ :: m.verdicts }
  | hit (call nowMs : Nat) (token : String) (cached : CachedJwks) (hcached : m.cached = some cached)
      (hfresh : cached.isFresh options nowMs = true) :
      Turn P options m (.verify call nowMs token)
        ({ m with clock := nowMs }.conclude P options token nowMs (.ok cached.keys))
  | unresolved (call nowMs : Nat) (token message : String)
      (hmiss : ∀ cached, m.cached = some cached → cached.isFresh options nowMs = false) :
      Turn P options m (.verify call nowMs token)
        ({ m with clock := nowMs }.conclude P options token nowMs (.error message))
  | asks (call nowMs : Nat) (token : String) (stage : KeySetStage)
      (hmiss : ∀ cached, m.cached = some cached → cached.isFresh options nowMs = false) :
      Turn P options m (.verify call nowMs token)
        ({ m with clock := nowMs }.setWaiting call (some ⟨token, nowMs, stage⟩))
  | undiscovered (call : Nat) (reply : Except String FetchResponse) (waits : WaitingCall)
      (message : String) (hwaits : m.waiting call = some waits) :
      Turn P options m (.discovered call reply)
        ((m.setWaiting call none).conclude P options waits.token waits.askedAt (.error message))
  | discovers (call : Nat) (reply : Except String FetchResponse) (waits : WaitingCall)
      (stage : KeySetStage) (hwaits : m.waiting call = some waits) :
      Turn P options m (.discovered call reply)
        (m.setWaiting call (some ⟨waits.token, waits.askedAt, stage⟩))
  | unanswered (call nowMs : Nat) (reply : Except String FetchResponse) (waits : WaitingCall)
      (message : String) (hwaits : m.waiting call = some waits) :
      Turn P options m (.answered call nowMs reply)
        ({ m.setWaiting call none with clock := nowMs }.conclude P options waits.token waits.askedAt
          (.error message))
  | answers (call nowMs : Nat) (reply : Except String FetchResponse) (waits : WaitingCall)
      (keys : List Value) (hwaits : m.waiting call = some waits) :
      Turn P options m (.answered call nowMs reply)
        ({ m.setWaiting call none with
          clock := nowMs
          cached := some ⟨nowMs, keys⟩
          fetched := ⟨nowMs, keys⟩ :: m.fetched }.conclude P options waits.token waits.askedAt
            (.ok keys))

theorem filter_fresh_eq_none (h : (m.cached.filter fun c => c.isFresh options nowMs) = none) :
    ∀ cached, m.cached = some cached → cached.isFresh options nowMs = false := by
  intro cached hcached
  rw [hcached, Option.filter_eq_none_iff] at h
  exact Bool.not_eq_true _ ▸ h cached rfl

theorem turn_getJwks {token : String} :
    Verifier.Turn P options m (.verify call nowMs token)
      (({ m with clock := nowMs } : Verifier).getJwks P options call nowMs token) := by
  unfold Verifier.getJwks
  dsimp only
  cases hfilter : m.cached.filter fun c => c.isFresh options nowMs with
  | some cached =>
    obtain ⟨hcached, hfresh⟩ := Option.filter_eq_some_iff.mp hfilter
    exact .hit call nowMs token cached hcached hfresh
  | none =>
    have hmiss := filter_fresh_eq_none hfilter
    cases P.resolveJwksUri options with
    | error message => exact .unresolved call nowMs token message hmiss
    | ok stage => exact .asks call nowMs token stage hmiss

/-- **What a turn does.** -/
theorem step_turn (h : m.step P options e = some m') : m.Turn P options e m' := by
  cases e with
  | verify call nowMs token =>
    unfold Verifier.step at h
    dsimp only at h
    split at h
    · cases h
    · cases hpresents : P.presents options.toOidcJwtVerifierOptions nowMs token with
      | error message =>
        rw [hpresents] at h
        cases h
        exact .refused call nowMs token message hpresents
      | ok _ =>
        rw [hpresents] at h
        cases h
        exact turn_getJwks
  | discovered call reply =>
    unfold Verifier.step at h
    dsimp only at h
    split at h
    · rename_i token askedAt url hwaits
      split at h
      · cases h
        exact .undiscovered call reply _ _ hwaits
      · cases h
        exact .discovers call reply _ _ hwaits
    · cases h
  | answered call nowMs reply =>
    unfold Verifier.step at h
    dsimp only at h
    split at h
    · rename_i token askedAt url hwaits
      split at h
      · cases h
        exact .unanswered call nowMs reply _ _ hwaits
      · cases h
        exact .answers call nowMs reply _ _ hwaits
    · cases h

end Turn

/-! ## 4. Where no key set is asked for -/

section Presents

variable {P : Platform} {options : OidcJwtVerifierOptions} {jwks : Except String (List Value)}
  {nowMs : Nat} {token : String}

/-- A token that is refused before `getJwks` is refused under every key set. -/
theorem verifyToken_of_presents {message : String}
    (h : P.presents options nowMs token = .error message) :
    P.verifyToken options jwks nowMs token = .error message := by
  have hsigned : P.verifySignature options jwks nowMs token = .error message := by
    unfold Platform.presents at h
    unfold Platform.verifySignature
    generalize Text.splitOn '.' token.toList = parts at h ⊢
    rcases parts with _ | ⟨headerPart, _ | ⟨payloadPart, _ | ⟨signaturePart, _ | ⟨part, parts⟩⟩⟩⟩
    -- three segments are the fourth case
    case cons.cons.cons.nil =>
      refine bind_error_congr h fun header _ h => bind_error_congr h fun alg _ h => ?_
      refine bind_error_congr h fun _ _ h => bind_error_congr h fun claims _ h => ?_
      exact bind_eq_error.mpr (.inl h)
    all_goals
      cases h
      rfl
  unfold Platform.verifyToken
  rw [hsigned]
  rfl

/-- A key set is asked for where a token is accepted under one. -/
theorem presents_of_accepted {v : VerifiedBearerToken}
    (h : P.verifyToken options jwks nowMs token = .ok v) : P.presents options nowMs token = .ok () := by
  cases hpresents : P.presents options nowMs token with
  | ok _ => rfl
  | error message =>
    rw [verifyToken_of_presents hpresents] at h
    cases h

/-- What is accepted is signed under the key set. -/
theorem accepted_signed {v : VerifiedBearerToken}
    (h : P.verifyToken options jwks nowMs token = .ok v) : ∃ keys, jwks = .ok keys ∧
      P.Signed keys (fun header key => MayVerify header keys key) token v.claims := by
  obtain ⟨claims, hclaims, hgrant⟩ := bind_eq_ok.mp h
  obtain ⟨keys, hkeys, -, -, hsigned⟩ := verifySignature_eq_ok.mp hclaims
  obtain ⟨-, hgranted, -⟩ := grantToken_eq_ok hgrant
  rw [hgranted]
  exact ⟨keys, hkeys, hsigned⟩

end Presents

/-! ## 5. Every run -/

section Runs

variable {P : FetchPlatform} {options : JwksOptions} {m m' : Verifier} {e : VerifierEvent}

/-- The accepted token was signed under a key set that was fetched less than the lifetime before the
    call, or after it. -/
def TokenVerdict.Backed (P : FetchPlatform) (options : JwksOptions) (fetched : List CachedJwks)
    (verdict : TokenVerdict) : Prop :=
  ∀ v, verdict.outcome = .ok v → ∃ set ∈ fetched,
    ((verdict.askedAt : Int) < set.fetchedAt + options.ttlMs ∨ verdict.askedAt ≤ set.fetchedAt) ∧
      P.Signed set.keys (fun header key => MayVerify header set.keys key) verdict.token v.claims

/-- The invariant. -/
structure Verifier.Heard (P : FetchPlatform) (options : JwksOptions) (m : Verifier) : Prop where
  cached : ∀ set, m.cached = some set → set ∈ m.fetched
  waiting : ∀ call waits, m.waiting call = some waits → waits.askedAt ≤ m.clock
  verdicts : ∀ verdict ∈ m.verdicts, verdict.Backed P options m.fetched

/-- The clock does not go back. -/
def Verifier.OnTime (m : Verifier) (e : VerifierEvent) : Prop := ∀ nowMs ∈ e.time, m.clock ≤ nowMs

theorem TokenVerdict.Backed.mono {fetched fetched' : List CachedJwks} {verdict : TokenVerdict}
    (h : verdict.Backed P options fetched) (hsub : fetched ⊆ fetched') :
    verdict.Backed P options fetched' := by
  intro v hv
  obtain ⟨set, hset, hrecent⟩ := h v hv
  exact ⟨set, hsub hset, hrecent⟩

theorem backed_error {fetched : List CachedJwks} {token message : String} {askedAt : Nat} :
    TokenVerdict.Backed P options fetched ⟨token, askedAt, .error message⟩ := by
  intro v hv
  cases hv

/-- A call that ends without a key set accepts nothing. -/
theorem backed_of_failed {fetched : List CachedJwks} {token message : String} {askedAt : Nat} :
    TokenVerdict.Backed P options fetched ⟨token, askedAt,
      P.verifyToken options.toOidcJwtVerifierOptions (.error message) askedAt token⟩ := by
  intro v hv
  obtain ⟨keys, hkeys, -⟩ := accepted_signed hv
  cases hkeys

/-- A call that ends with a fetched key set. -/
theorem backed_of_keys {fetched : List CachedJwks} (set : CachedJwks) {token : String}
    {askedAt : Nat} (hset : set ∈ fetched)
    (hrecent : (askedAt : Int) < set.fetchedAt + options.ttlMs ∨ askedAt ≤ set.fetchedAt) :
    TokenVerdict.Backed P options fetched ⟨token, askedAt,
      P.verifyToken options.toOidcJwtVerifierOptions (.ok set.keys) askedAt token⟩ := by
  intro v hv
  obtain ⟨keys, hkeys, hsigned⟩ := accepted_signed hv
  cases hkeys
  exact ⟨set, hset, hrecent, hsigned⟩

/-- The waiting calls after one of them ends or goes on. -/
theorem Verifier.Heard.update (hm : m.Heard P options) {call clock : Nat}
    {waits : Option WaitingCall} (hclock : m.clock ≤ clock)
    (hwaits : ∀ w, waits = some w → w.askedAt ≤ clock) :
    ∀ other w, Function.update m.waiting call waits other = some w → w.askedAt ≤ clock := by
  intro other w hw
  by_cases heq : other = call
  · rw [heq, Function.update_self] at hw
    exact hwaits w hw
  · rw [Function.update_of_ne heq] at hw
    exact Nat.le_trans (hm.waiting other w hw) hclock

theorem heard_initial : Verifier.Heard P options {} where
  cached := fun _ h => by cases h
  waiting := fun _ _ h => by cases h
  verdicts := fun _ h => by cases h

/-- **A turn keeps the invariant**, where the clock does not go back. -/
theorem Verifier.Heard.step (hm : m.Heard P options) (htime : m.OnTime e)
    (h : m.step P options e = some m') : m'.Heard P options := by
  cases step_turn h with
  | refused call nowMs token message hrefused =>
    have hclock : m.clock ≤ nowMs := htime nowMs rfl
    exact {
      cached := hm.cached
      waiting := fun other w hw => Nat.le_trans (hm.waiting other w hw) hclock
      verdicts := List.forall_mem_cons.mpr ⟨backed_error, hm.verdicts⟩ }
  | hit call nowMs token cached hcached hfresh =>
    have hclock : m.clock ≤ nowMs := htime nowMs rfl
    have hrecent : (nowMs : Int) < cached.fetchedAt + options.ttlMs := by
      have hlt := of_decide_eq_true hfresh
      omega
    exact {
      cached := hm.cached
      waiting := fun other w hw => Nat.le_trans (hm.waiting other w hw) hclock
      verdicts := List.forall_mem_cons.mpr
        ⟨backed_of_keys cached (hm.cached cached hcached) (.inl hrecent), hm.verdicts⟩ }
  | unresolved call nowMs token message hmiss =>
    have hclock : m.clock ≤ nowMs := htime nowMs rfl
    exact {
      cached := hm.cached
      waiting := fun other w hw => Nat.le_trans (hm.waiting other w hw) hclock
      verdicts := List.forall_mem_cons.mpr ⟨backed_of_failed, hm.verdicts⟩ }
  | asks call nowMs token stage hmiss =>
    have hclock : m.clock ≤ nowMs := htime nowMs rfl
    exact {
      cached := hm.cached
      waiting := hm.update hclock fun w hw => by
        cases hw
        exact Nat.le_refl nowMs
      verdicts := hm.verdicts }
  | undiscovered call reply waits message hwaits =>
    exact {
      cached := hm.cached
      waiting := hm.update (Nat.le_refl _) fun w hw => by cases hw
      verdicts := List.forall_mem_cons.mpr ⟨backed_of_failed, hm.verdicts⟩ }
  | discovers call reply waits stage hwaits =>
    exact {
      cached := hm.cached
      waiting := hm.update (Nat.le_refl _) fun w hw => by
        cases hw
        exact hm.waiting call waits hwaits
      verdicts := hm.verdicts }
  | unanswered call nowMs reply waits message hwaits =>
    have hclock : m.clock ≤ nowMs := htime nowMs rfl
    exact {
      cached := hm.cached
      waiting := hm.update hclock fun w hw => by cases hw
      verdicts := List.forall_mem_cons.mpr ⟨backed_of_failed, hm.verdicts⟩ }
  | answers call nowMs reply waits keys hwaits =>
    have hclock : m.clock ≤ nowMs := htime nowMs rfl
    have hasked : waits.askedAt ≤ nowMs := Nat.le_trans (hm.waiting call waits hwaits) hclock
    exact {
      cached := fun set hset => by
        cases hset
        exact List.mem_cons_self
      waiting := hm.update hclock fun w hw => by cases hw
      verdicts := List.forall_mem_cons.mpr
        ⟨backed_of_keys ⟨nowMs, keys⟩ List.mem_cons_self (.inr hasked),
          fun verdict hverdict => (hm.verdicts verdict hverdict).mono (List.subset_cons_self _ _)⟩ }

/-- What a run with a clock that does not go back has heard. -/
theorem heard_run {es : List VerifierEvent} (hrun : Runs.run (Verifier.step P options) {} es = some m)
    (htime : Runs.Along (Verifier.step P options) Verifier.OnTime {} es) : m.Heard P options :=
  Runs.invariant_along (fun hm ht hs => hm.step ht hs) heard_initial htime hrun

/-- **What no key set verifies from some time on is refused** to every call that begins the lifetime
    after that time, however the calls overlap. -/
theorem replaced_keys_refused {es : List VerifierEvent}
    (hrun : Runs.run (Verifier.step P options) {} es = some m)
    (htime : Runs.Along (Verifier.step P options) Verifier.OnTime {} es) (token : String) (since : Nat)
    (hreplaced : ∀ set ∈ m.fetched, since ≤ set.fetchedAt → ∀ claims,
      ¬ P.Signed set.keys (fun header key => MayVerify header set.keys key) token claims)
    (verdict : TokenVerdict) (hverdict : verdict ∈ m.verdicts) (htoken : verdict.token = token)
    (hafter : since ≤ verdict.askedAt) (hlate : since + options.ttlMs ≤ verdict.askedAt) :
    ∃ message, verdict.outcome = .error message := by
  cases houtcome : verdict.outcome with
  | error message => exact ⟨message, rfl⟩
  | ok v =>
    obtain ⟨set, hset, hrecent, hsigned⟩ := (heard_run hrun htime).verdicts verdict hverdict v houtcome
    have hsince : since ≤ set.fetchedAt := by
      rcases hrecent with hfresh | hown
      · omega
      · exact Nat.le_trans hafter hown
    rw [htoken] at hsigned
    exact absurd hsigned (hreplaced set hset hsince v.claims)

/-! ## 6. Between two fetches -/

/-- The turn comes before the cached key set expires. -/
def VerifierEvent.Before (deadline : Int) (e : VerifierEvent) : Prop :=
  ∀ nowMs ∈ e.time, (nowMs : Int) < deadline

/-- The verdict is the one under these keys. -/
def TokenVerdict.Under (P : FetchPlatform) (options : JwksOptions) (keys : List Value)
    (verdict : TokenVerdict) : Prop :=
  verdict.outcome =
    P.verifyToken options.toOidcJwtVerifierOptions (.ok keys) verdict.askedAt verdict.token

/-- No call waits, the key set is cached, and the verdicts since are the ones under it. -/
structure Verifier.Decided (P : FetchPlatform) (options : JwksOptions) (set : CachedJwks)
    (earlier : List TokenVerdict) (m : Verifier) : Prop where
  cached : m.cached = some set
  waiting : ∀ call, m.waiting call = none
  verdicts : ∃ since, m.verdicts = since ++ earlier ∧ ∀ v ∈ since, v.Under P options set.keys

variable {set : CachedJwks} {earlier : List TokenVerdict}

theorem Verifier.Decided.concludes (hm : m.Decided P options set earlier) {token : String}
    {askedAt clock : Nat} {outcome : Except String VerifiedBearerToken}
    (hunder : outcome =
      P.verifyToken options.toOidcJwtVerifierOptions (.ok set.keys) askedAt token) :
    Verifier.Decided P options set earlier
      { m with clock := clock, verdicts := ⟨token, askedAt, outcome⟩ :: m.verdicts } := by
  obtain ⟨since, hsince, hall⟩ := hm.verdicts
  exact {
    cached := hm.cached
    waiting := hm.waiting
    verdicts := ⟨⟨token, askedAt, outcome⟩ :: since, by rw [hsince]; rfl, List.forall_mem_cons.mpr ⟨hunder, hall⟩⟩ }

/-- **A turn before the deadline asks for no key set.** -/
theorem Verifier.Decided.step (hm : m.Decided P options set earlier)
    (hbefore : e.Before (set.fetchedAt + options.ttlMs)) (h : m.step P options e = some m') :
    m'.Decided P options set earlier := by
  have hfresh : ∀ nowMs ∈ e.time, set.isFresh options nowMs = true := by
    intro nowMs hnow
    have hlt := hbefore nowMs hnow
    exact decide_eq_true (by omega)
  cases step_turn h with
  | refused call nowMs token message hrefused =>
    exact hm.concludes (verifyToken_of_presents hrefused).symm
  | hit call nowMs token cached hcached _ =>
    cases hm.cached.symm.trans hcached
    exact hm.concludes rfl
  | unresolved call nowMs token message hmiss =>
    have hstale := hmiss set hm.cached
    rw [hfresh nowMs rfl] at hstale
    cases hstale
  | asks call nowMs token stage hmiss =>
    have hstale := hmiss set hm.cached
    rw [hfresh nowMs rfl] at hstale
    cases hstale
  | undiscovered call reply waits message hwaits => cases (hm.waiting call).symm.trans hwaits
  | discovers call reply waits stage hwaits => cases (hm.waiting call).symm.trans hwaits
  | unanswered call nowMs reply waits message hwaits => cases (hm.waiting call).symm.trans hwaits
  | answers call nowMs reply waits keys hwaits => cases (hm.waiting call).symm.trans hwaits

/-- **As long as the cached key set has not expired it alone decides**, whatever the issuer publishes:
    a key that it does not have is not asked for. -/
theorem fresh_cache_decides {es : List VerifierEvent} (hcached : m.cached = some set)
    (hwaiting : ∀ call, m.waiting call = none)
    (hrun : Runs.run (Verifier.step P options) m es = some m')
    (hbefore : ∀ e ∈ es, e.Before (set.fetchedAt + options.ttlMs)) :
    m'.cached = some set ∧ ∃ since, m'.verdicts = since ++ m.verdicts ∧
      ∀ v ∈ since, v.outcome =
        P.verifyToken options.toOidcJwtVerifierOptions (.ok set.keys) v.askedAt v.token := by
  have hstart : m.Decided P options set m.verdicts := {
    cached := hcached
    waiting := hwaiting
    verdicts := ⟨[], rfl, fun v hv => absurd hv List.not_mem_nil⟩ }
  have halong : Runs.Along (Verifier.step P options)
      (fun _ e => e.Before (set.fetchedAt + options.ttlMs)) m es := by
    refine Runs.along_of_at fun es₁ e es₂ t hes _ => hbefore e ?_
    rw [hes]
    exact List.mem_append_right es₁ List.mem_cons_self
  have hend := Runs.invariant_along (fun hm ht hs => hm.step ht hs) hstart halong hrun
  exact ⟨hend.cached, hend.verdicts⟩

end Runs

/-! ## 7. A key that is withdrawn -/

section Steps

variable {P : FetchPlatform} {options : JwksOptions} {m : Verifier} {nowMs call askedAt : Nat}
  {token url : String}

theorem step_asks {stage : KeySetStage} (hwaiting : m.waiting call = none)
    (hpresents : P.presents options.toOidcJwtVerifierOptions nowMs token = .ok ())
    (hmiss : (m.cached.filter fun c => c.isFresh options nowMs) = none)
    (hstage : P.resolveJwksUri options = .ok stage) :
    m.step P options (.verify call nowMs token) =
      some ({ m with clock := nowMs }.setWaiting call (some ⟨token, nowMs, stage⟩)) := by
  unfold Verifier.step
  dsimp only
  rw [hwaiting, hpresents]
  dsimp only [Option.isSome_none]
  unfold Verifier.getJwks
  dsimp only
  rw [hmiss, hstage]
  rfl

theorem step_answers {reply : Except String FetchResponse} {keys : List Value}
    (hwaiting : m.waiting call = some ⟨token, askedAt, .keySet url⟩)
    (hkeys : fetchedKeys url reply = .ok keys) :
    m.step P options (.answered call nowMs reply) =
      some ({ m.setWaiting call none with
        clock := nowMs
        cached := some ⟨nowMs, keys⟩
        fetched := ⟨nowMs, keys⟩ :: m.fetched }.conclude P options token askedAt (.ok keys)) := by
  unfold Verifier.step
  dsimp only
  rw [hwaiting]
  dsimp only
  rw [hkeys]

end Steps

/-- The provider, with its key set at a known place. -/
def exampleFetchPlatform : FetchPlatform := { examplePlatform with
  urlPath := fun _ => "/"
  origin := fun _ => "https://issuer.example"
  resolve := fun path base => some (base ++ path) }

def exampleJwksOptions : JwksOptions := { exampleVerifier with
  jwksUri := some (.url "https://issuer.example/jwks") }

/-- The reply with these keys. -/
def keySetReply (keys : List Value) : Except String FetchResponse :=
  .ok ⟨true, 200, "OK", .ok (.obj [("keys", .arr keys)])⟩

/-- The token that never expires. -/
def lastingToken : String := compactJwt exampleHeader exampleLasting (decodeBase64Url
  "5pzBegb8ytMRwxxrPJEh_rZwg8u0xI2Cv_riOT2x6qif5wuVeD-WKttGV3AtQLIkQN_audrVm1fog-qf2-IRsQ".toList)

theorem accepted_lastingToken (nowMs : Nat) : ∃ v, examplePlatform.verifyToken exampleVerifier
    (.ok [exampleJwk]) nowMs lastingToken = .ok v := by
  have hpass : examplePlatform.ClaimsPass exampleVerifier nowMs exampleLasting :=
    ⟨⟨_, rfl, by decide⟩, .inl (by decide), rfl, rfl⟩
  have hmem : (exampleLasting, _) ∈ exampleSigned := List.mem_cons_of_mem _ List.mem_cons_self
  obtain ⟨v, haccepted, -⟩ := verifyToken_succeeds.mpr ⟨by decide, hpass,
    exampleSigned_signed hmem exampleLasting_writes exampleJwk_mayVerify,
    fun _ h => absurd h List.not_mem_nil, none, rfl⟩
  exact ⟨v, haccepted⟩

theorem presents_lastingToken (nowMs : Nat) :
    examplePlatform.presents exampleVerifier nowMs lastingToken = .ok () := by
  obtain ⟨v, haccepted⟩ := accepted_lastingToken nowMs
  exact presents_of_accepted haccepted

/-- After a call that fetched the key set. -/
def Verifier.refetched (m : Verifier) (askedAt fetchedAt : Nat) (keys : List Value) : Verifier where
  cached := some ⟨fetchedAt, keys⟩
  waiting := m.waiting
  fetched := ⟨fetchedAt, keys⟩ :: m.fetched
  verdicts := ⟨lastingToken, askedAt, examplePlatform.verifyToken exampleVerifier (.ok keys) askedAt
    lastingToken⟩ :: m.verdicts
  clock := fetchedAt

/-- A call that fetches the key set. -/
def refetch (call askedAt fetchedAt : Nat) (keys : List Value) : List VerifierEvent := [
  .verify call askedAt lastingToken,
  .answered call fetchedAt (keySetReply keys)]

theorem run_refetch {m : Verifier} {call askedAt fetchedAt : Nat} {keys : List Value}
    (hwaiting : m.waiting call = none)
    (hmiss : (m.cached.filter fun c => c.isFresh exampleJwksOptions askedAt) = none)
    (hclock : m.clock ≤ askedAt) (htimes : askedAt ≤ fetchedAt) :
    Runs.run (Verifier.step exampleFetchPlatform exampleJwksOptions) m
        (refetch call askedAt fetchedAt keys) = some (m.refetched askedAt fetchedAt keys) ∧
      Runs.Along (Verifier.step exampleFetchPlatform exampleJwksOptions) Verifier.OnTime m
        (refetch call askedAt fetchedAt keys) := by
  have hasks := @step_asks exampleFetchPlatform exampleJwksOptions m askedAt call lastingToken _
    hwaiting (presents_lastingToken askedAt) hmiss rfl
  have hback (waits : Option WaitingCall) :
      Function.update (Function.update m.waiting call waits) call none = m.waiting := by
    rw [Function.update_idem, ← hwaiting, Function.update_eq_self]
  have hanswers := @step_answers exampleFetchPlatform exampleJwksOptions
    ({ m with clock := askedAt }.setWaiting call
      (some ⟨lastingToken, askedAt, .keySet "https://issuer.example/jwks"⟩))
    fetchedAt call askedAt lastingToken _ (keySetReply keys) keys (Function.update_self ..) rfl
  constructor
  · refine Runs.run_cons.mpr ⟨_, hasks, Runs.run_cons.mpr ⟨_, hanswers, ?_⟩⟩
    exact congrArg (fun w => some { m.refetched askedAt fetchedAt keys with waiting := w }) (hback _)
  · refine Runs.along_cons hasks (fun t ht => ?_)
      (Runs.along_cons hanswers (fun t ht => ?_) trivial)
    · cases ht
      exact hclock
    · cases ht
      exact htimes

/-- The key set is fetched with the key, and five minutes later without it. -/
def withdrawal : List VerifierEvent :=
  refetch 0 1700000000000 1700000000000 [exampleJwk] ++ refetch 1 1700000300001 1700000300002 []

theorem run_withdrawal :
    Runs.run (Verifier.step exampleFetchPlatform exampleJwksOptions) {} withdrawal =
        some ((Verifier.refetched {} 1700000000000 1700000000000 [exampleJwk]).refetched
          1700000300001 1700000300002 []) ∧
      Runs.Along (Verifier.step exampleFetchPlatform exampleJwksOptions) Verifier.OnTime {}
        withdrawal := by
  have hfirst := @run_refetch {} 0 1700000000000 1700000000000 [exampleJwk] rfl rfl (by decide)
    (by decide)
  have hsecond := @run_refetch (Verifier.refetched {} 1700000000000 1700000000000 [exampleJwk]) 1
    1700000300001 1700000300002 [] rfl rfl (by decide) (by decide)
  refine ⟨Runs.run_append.mpr ⟨_, hfirst.1, hsecond.1⟩,
    Runs.along_append hfirst.2 fun t ht => ?_⟩
  cases hfirst.1.symm.trans ht
  exact hsecond.2

/-- **The withdrawn key verifies nothing any more.** -/
theorem replaced_keys_refused_withdrawal : ∃ message, examplePlatform.verifyToken exampleVerifier
    (.ok []) 1700000300001 lastingToken = .error message := by
  refine replaced_keys_refused run_withdrawal.1 run_withdrawal.2 lastingToken 1700000000001 ?_
    ⟨lastingToken, 1700000300001, _⟩ List.mem_cons_self rfl (by decide) (by decide)
  intro set hset hsince claims hsigned
  rcases List.mem_cons.mp hset with rfl | hset
  · obtain ⟨_, _, _, _, _, _, _, key, hkey, -⟩ := hsigned
    exact List.not_mem_nil hkey
  · cases List.mem_singleton.mp hset
    exact absurd hsince (by decide)

/-- Until the cached key set expires a new key is of no use. -/
theorem fresh_cache_decides_rotation :
    ∃ m', Runs.run (Verifier.step exampleFetchPlatform exampleJwksOptions)
        (Verifier.refetched {} 1700000000000 1700000000000 [])
        [.verify 1 1700000299999 lastingToken] = some m' ∧
      m'.cached = some ⟨1700000000000, []⟩ := by
  have hstep : (Verifier.refetched {} 1700000000000 1700000000000 []).step exampleFetchPlatform
      exampleJwksOptions (.verify 1 1700000299999 lastingToken) =
        some ({ Verifier.refetched {} 1700000000000 1700000000000 [] with
          clock := 1700000299999 }.conclude exampleFetchPlatform exampleJwksOptions lastingToken
            1700000299999 (.ok [])) := by
    unfold Verifier.step
    dsimp only
    rw [show exampleFetchPlatform.presents exampleJwksOptions.toOidcJwtVerifierOptions 1700000299999
      lastingToken = .ok () from presents_lastingToken _]
    rfl
  have hrun := Runs.run_cons.mpr ⟨_, hstep, Runs.run_nil⟩
  refine ⟨_, hrun, (fresh_cache_decides rfl (fun _ => rfl) hrun ?_).1⟩
  intro e he nowMs hnow
  cases List.mem_singleton.mp he
  cases hnow
  decide

end ProxmoxMcp
