/-
  File:      ProxmoxMcp/HttpAuth.lean
  Subject:   BEARER TOKENS (`OidcJwtVerifier`): which tokens are accepted, and what an accepted one
             grants.

  The platform is a parameter: the URL parser, the message of a failed `JSON.parse`, and the two
  functions of WebCrypto. A rejection of WebCrypto is `none`; the loop that tries the keys drops its
  reason. The key set is what `getJwks` gave for the call.
-/
import ProxmoxMcp.Requests
import ProxmoxMcp.Lib.Base64
import ProxmoxMcp.Lib.JsonText
import ProxmoxMcp.Lib.Utf8
import ProxmoxMcp.Lib.Checks

namespace ProxmoxMcp

open Js Checks

/-! ## 1. Scopes -/

/-- `ProxmoxMcpScope`. -/
inductive ProxmoxMcpScope where
  | read
  | mutate
  | escape
  | admin
  deriving DecidableEq, Repr

def ProxmoxMcpScope.text : ProxmoxMcpScope → String
  | .read => "proxmox.read"
  | .mutate => "proxmox.mutate"
  | .escape => "proxmox.escape"
  | .admin => "proxmox.admin"

/-- `PROXMOX_MCP_SCOPES`. -/
def PROXMOX_MCP_SCOPES : List ProxmoxMcpScope := [.read, .mutate, .escape, .admin]

/-- The known scope of that text. -/
def ProxmoxMcpScope.ofText (text : List Char) : Option ProxmoxMcpScope :=
  PROXMOX_MCP_SCOPES.find? fun scope => scope.text.toList = text

/-- `uniqueStrings`. -/
def uniqueStrings (values : List (List Char)) : List (List Char) :=
  (values.filter fun value => value ≠ []).eraseDups

/-- `normalizeScopeTokens`. -/
def normalizeScopeTokens (values : List (List Char)) : List ProxmoxMcpScope :=
  (uniqueStrings values).filterMap ProxmoxMcpScope.ofText

/-- `[,\s]`. -/
def isScopeSeparator (c : Char) : Bool := c == ',' || Text.isSpace c

/-- The tokens of an entry: `typeof entry === "string" ? entry.split(/[,\s]+/) : []`. -/
def scopeTokens : Value → List (List Char)
  | .str s => Text.splitRuns isScopeSeparator false s.toList
  | _ => []

/-- `parseProxmoxMcpScopes`. -/
def parseProxmoxMcpScopes : Value → List ProxmoxMcpScope
  | .arr entries => normalizeScopeTokens (entries.flatMap scopeTokens)
  | value => normalizeScopeTokens (scopeTokens value)

/-- `hasRequiredScopes`. -/
def hasRequiredScopes (scopes required : List ProxmoxMcpScope) : Bool :=
  required.all fun scope => scope ∈ scopes

/-! ## 2. The platform -/

/-- The parameters of a signature algorithm. -/
structure AlgorithmParams where
  name : String
  hash : Option String := none
  namedCurve : Option String := none
  saltLength : Option Nat := none
  deriving DecidableEq, Repr

/-- What the verifier takes from its platform. -/
structure Platform where
  /-- `new URL(text).href`, `none` where it throws -/
  href : String → Option String
  /-- the message of `JSON.parse(text)`, where it throws -/
  jsonError : String → String
  /-- `CryptoKey` -/
  Key : Type
  /-- `subtle.importKey("jwk", jwk, algorithm, false, ["verify"])` -/
  importKey : Value → AlgorithmParams → Option Key
  /-- `subtle.verify(algorithm, key, signature, data)` -/
  verify : AlgorithmParams → Key → List UInt8 → List UInt8 → Option Bool

/-- `string | URL`; a URL is its `href`. -/
inductive UrlInput where
  | text (value : String)
  | url (href : String)
  deriving DecidableEq, Repr

/-- `toUrl(value).href`. -/
def Platform.toUrl (P : Platform) : UrlInput → Except String String
  | .url href => .ok href
  | .text value =>
    match P.href value with
    | some href => .ok href
    | none => .error "Invalid URL"

/-- `OidcJwtVerifierOptions`, less what only the fetch of the key set reads. -/
structure OidcJwtVerifierOptions where
  issuer : UrlInput
  audience : String
  resourceServerUrl : Option UrlInput := none
  requiredScopes : Option (List ProxmoxMcpScope) := none
  clockSkewSeconds : Option Number := none

/-- `DEFAULT_CLOCK_SKEW_SECONDS`. -/
def DEFAULT_CLOCK_SKEW_SECONDS : Number := .rat 30

/-! ## 3. Segments -/

/-- `s.padEnd(n, "=")`. -/
def padEnd (s : List Char) (n : Nat) : List Char :=
  s ++ List.replicate (n - Text.utf16Length (String.ofList s)) '='

/-- `decodeBase64Url`. -/
def decodeBase64Url (input : List Char) : List UInt8 :=
  let normalized := Text.replaceChar '_' ['/'] (Text.replaceChar '-' ['+'] input)
  Base64.decode (padEnd normalized ((Text.utf16Length (String.ofList normalized) + 3) / 4 * 4))

/-- The text of a segment. -/
def segmentText (segment : List Char) : String :=
  String.ofList (Utf8.decode (decodeBase64Url segment))

/-- `parseJsonSegment`. -/
def Platform.parseJsonSegment (P : Platform) (segment : List Char) : Except String Value :=
  match parse (segmentText segment) with
  | some value => .ok value
  | none => .error (P.jsonError (segmentText segment))

/-! ## 4. Keys -/

/-- The document of a JWKS, as `getJwks` checks it: its keys. -/
def jwksKeys (jwksUri : String) (document : Value) : Except String (List Value) :=
  match document.get "keys" with
  | .arr keys => .ok keys
  | _ => .error s!"Invalid JWKS document at {jwksUri}"

/-- The first pass of `selectCandidateKeys` keeps the key. -/
def keepsKey (header key : Value) : Bool :=
  if (key.get "use").truthy && !(key.get "use").strictEquals (.str "sig") then false
  else if (header.get "kid").truthy && (key.get "kid").truthy &&
      !(key.get "kid").strictEquals (header.get "kid") then false
  else true

/-- `selectCandidateKeys`; reading a property of `null` throws. -/
def selectCandidateKeys (keys : List Value) (header : Value) : Except String (List Value) :=
  if keys.any fun key => key = .null then .error "Cannot read properties of null (reading 'kid')"
  else
    let candidates := keys.filter (keepsKey header)
    if candidates.isEmpty && (header.get "kid").truthy then
      .ok (keys.filter fun key => (key.get "kid").strictEquals (header.get "kid"))
    else .ok candidates

/-- `getJwtSigningAlgorithm`, `none` where it throws. -/
def getJwtSigningAlgorithm : Value → Option AlgorithmParams
  | .str "RS256" => some { name := "RSASSA-PKCS1-v1_5", hash := some "SHA-256" }
  | .str "PS256" => some { name := "RSA-PSS", hash := some "SHA-256" }
  | .str "ES256" => some { name := "ECDSA", namedCurve := some "P-256" }
  | .str "ES384" => some { name := "ECDSA", namedCurve := some "P-384" }
  | .str "ES512" => some { name := "ECDSA", namedCurve := some "P-521" }
  | _ => none

/-- `getJwtVerifyAlgorithm`, `none` where it throws. -/
def getJwtVerifyAlgorithm : Value → Option AlgorithmParams
  | .str "RS256" => some { name := "RSASSA-PKCS1-v1_5" }
  | .str "PS256" => some { name := "RSA-PSS", saltLength := some 32 }
  | .str "ES256" => some { name := "ECDSA", hash := some "SHA-256" }
  | .str "ES384" => some { name := "ECDSA", hash := some "SHA-384" }
  | .str "ES512" => some { name := "ECDSA", hash := some "SHA-512" }
  | _ => none

/-- `importVerificationKey`. -/
def Platform.importVerificationKey (P : Platform) (jwk alg : Value) : Option P.Key := do
  P.importKey jwk (← getJwtSigningAlgorithm alg)

/-- What the body of the loop makes of a key: its answer, or `false` where something throws. -/
def Platform.tryKey (P : Platform) (alg : Value) (signature encoded : List UInt8) (jwk : Value) :
    Bool :=
  let verified : Option Bool := do
    let key ← P.importVerificationKey jwk alg
    P.verify (← getJwtVerifyAlgorithm alg) key signature encoded
  verified.getD false

/-- The loop over the candidates. -/
def Platform.tryKeys (P : Platform) (alg : Value) (signature encoded : List UInt8) :
    List Value → Bool
  | [] => false
  | jwk :: candidates =>
      if P.tryKey alg signature encoded jwk then true
      else P.tryKeys alg signature encoded candidates

/-! ## 5. Claims -/

/-- `normalizeAudience`. -/
def normalizeAudience : Value → List String
  | .str audience => [audience]
  | .arr entries => entries.filterMap fun entry =>
      match entry with
      | .str audience => some audience
      | _ => none
  | _ => []

/-- `Math.floor(Date.now() / 1000)`. -/
def nowSeconds (nowMs : Nat) : Number := .rat (nowMs / 1000 : Nat)

/-- `clockSkewSeconds ?? DEFAULT_CLOCK_SKEW_SECONDS`. -/
def OidcJwtVerifierOptions.skewSeconds (options : OidcJwtVerifierOptions) : Number :=
  options.clockSkewSeconds.getD DEFAULT_CLOCK_SKEW_SECONDS

/-- `nowSeconds - skewSeconds >= claims.exp`, where that is a number. -/
def OidcJwtVerifierOptions.hasExpired (options : OidcJwtVerifierOptions) (nowMs : Nat) :
    Value → Bool
  | .num exp => exp.atMost ((nowSeconds nowMs).plus options.skewSeconds.negated)
  | _ => false

/-- `nowSeconds + skewSeconds < claims.nbf`, where that is a number. -/
def OidcJwtVerifierOptions.isEarly (options : OidcJwtVerifierOptions) (nowMs : Nat) : Value → Bool
  | .num nbf => ((nowSeconds nowMs).plus options.skewSeconds).below nbf
  | _ => false

/-- `audiences.join(", ")`. -/
def joinAudiences (audiences : List String) : String :=
  String.ofList (Text.joinWith [',', ' '] (audiences.map String.toList))

/-- The comparison of the issuer. -/
def checkIssuer (issuer : String) (iss : Value) : Except String Unit :=
  if iss.strictEquals (.str issuer) then .ok ()
  else do
    let text ← toStringValue iss
    .error s!"JWT issuer '{text}' does not match expected issuer '{issuer}'"

/-- `validateClaims`. -/
def Platform.validateClaims (P : Platform) (options : OidcJwtVerifierOptions) (nowMs : Nat)
    (claims : Value) : Except String Unit := do
  let issuer ← P.toUrl options.issuer
  let iss ← readProperty claims "iss"
  checkIssuer issuer iss
  let audiences := normalizeAudience (claims.get "aud")
  failIf (!audiences.contains options.audience)
    s!"JWT audience '{joinAudiences audiences}' does not include expected audience '{options.audience}'"
  failIf (options.hasExpired nowMs (claims.get "exp")) "JWT has expired"
  failIf (options.isEarly nowMs (claims.get "nbf")) "JWT is not yet valid"

/-! ## 6. Tokens -/

/-- `VerifiedBearerToken`; its `extra` are the claims. -/
structure VerifiedBearerToken where
  token : String
  clientId : String
  scopes : List ProxmoxMcpScope
  expiresAt : Option Number
  resource : Option String
  claims : Value
  deriving DecidableEq

/-- `verifyToken` of three segments, up to the verified signature: the claims. -/
def Platform.verifySegments (P : Platform) (options : OidcJwtVerifierOptions)
    (jwks : Except String (List Value)) (nowMs : Nat)
    (headerPart payloadPart signaturePart : List Char) : Except String Value := do
  let header ← P.parseJsonSegment headerPart
  let alg ← readProperty header "alg"
  failIf (!alg.truthy) "JWT header is missing alg"
  let claims ← P.parseJsonSegment payloadPart
  P.validateClaims options nowMs claims
  let keys ← jwks
  let candidates ← selectCandidateKeys keys header
  failIf candidates.isEmpty "No matching JWK found for bearer token"
  let encoded := Utf8.encode (headerPart ++ '.' :: payloadPart)
  let signature := decodeBase64Url signaturePart
  failIf (!P.tryKeys alg signature encoded candidates) "Bearer token signature verification failed"
  return claims

/-- `verifyToken`, up to the verified signature. -/
def Platform.verifySignature (P : Platform) (options : OidcJwtVerifierOptions)
    (jwks : Except String (List Value)) (nowMs : Nat) (token : String) : Except String Value :=
  match Text.splitOn '.' token.toList with
  | [headerPart, payloadPart, signaturePart] =>
      P.verifySegments options jwks nowMs headerPart payloadPart signaturePart
  | _ => .error "Bearer token is not a JWT"

/-- `claims.scope ?? claims.scp`. -/
def scopeClaim (claims : Value) : Value :=
  match claims.get "scope" with
  | .undefined | .null => claims.get "scp"
  | scope => scope

/-- The client of the claims. -/
def clientIdOf (claims : Value) : String :=
  match claims.get "azp", claims.get "client_id", claims.get "sub" with
  | .str azp, _, _ => azp
  | _, .str client, _ => client
  | _, _, .str sub => sub
  | _, _, _ => "unknown"

/-- The scopes that are missing, as the message lists them. -/
def missingScopes (scopes required : List ProxmoxMcpScope) : String :=
  String.ofList (Text.joinWith [' ']
    ((required.filter fun scope => scope ∉ scopes).map fun scope => scope.text.toList))

/-- `resourceServerUrl ? toUrl(resourceServerUrl) : undefined`; an empty string is none. -/
def Platform.resourceOf (P : Platform) : Option UrlInput → Except String (Option String)
  | none | some (.text "") => .ok none
  | some url => do return some (← P.toUrl url)

/-- `verifyToken`, from the scopes on. -/
def Platform.grantToken (P : Platform) (options : OidcJwtVerifierOptions) (token : String)
    (claims : Value) : Except String VerifiedBearerToken := do
  let scopes := parseProxmoxMcpScopes (scopeClaim claims)
  let required := options.requiredScopes.getD []
  failIf (!hasRequiredScopes scopes required)
    s!"Bearer token is missing required scope(s): {missingScopes scopes required}"
  let resource ← P.resourceOf options.resourceServerUrl
  return {
    token := token
    clientId := clientIdOf claims
    scopes := scopes
    expiresAt := match claims.get "exp" with
      | .num exp => some exp
      | _ => none
    resource := resource
    claims := claims }

/-- `verifyToken`. -/
def Platform.verifyToken (P : Platform) (options : OidcJwtVerifierOptions)
    (jwks : Except String (List Value)) (nowMs : Nat) (token : String) :
    Except String VerifiedBearerToken := do
  P.grantToken options token (← P.verifySignature options jwks nowMs token)

/-! ## 7. What the scopes are -/

theorem ProxmoxMcpScope.ofText_eq_some {text : List Char} {scope : ProxmoxMcpScope} :
    ofText text = some scope ↔ scope.text.toList = text := by
  constructor
  · intro h
    unfold ofText at h
    have htext := List.find?_some h
    exact of_decide_eq_true htext
  · intro h
    rw [← h]
    cases scope <;> decide

theorem mem_normalizeScopeTokens {values : List (List Char)} {scope : ProxmoxMcpScope} :
    scope ∈ normalizeScopeTokens values ↔ scope.text.toList ∈ values := by
  have hne : scope.text.toList ≠ [] := by cases scope <;> decide
  simp only [normalizeScopeTokens, uniqueStrings, List.mem_filterMap, List.mem_eraseDups,
    List.mem_filter, ProxmoxMcpScope.ofText_eq_some, decide_eq_true_eq]
  constructor
  · intro hparts
    obtain ⟨text, ⟨hmem, _⟩, htext⟩ := hparts
    rw [htext]
    exact hmem
  · intro h
    exact ⟨_, ⟨h, hne⟩, rfl⟩

/-- The text names the scope: its name is a word of it, between commas and spaces. -/
def TextNames (text : String) (scope : ProxmoxMcpScope) : Prop :=
  Text.IsWord isScopeSeparator scope.text.toList text.toList

/-- A claim names a scope: it is a text that does, or an array that holds one. -/
def NamesScope (claim : Value) (scope : ProxmoxMcpScope) : Prop :=
  (∃ text, claim = .str text ∧ TextNames text scope) ∨
    ∃ entries text, claim = .arr entries ∧ .str text ∈ entries ∧ TextNames text scope

theorem mem_scopeTokens {value : Value} {scope : ProxmoxMcpScope} :
    scope.text.toList ∈ scopeTokens value ↔ ∃ text, value = .str text ∧ TextNames text scope := by
  have hne : scope.text.toList ≠ [] := by cases scope <;> decide
  cases value with
  | str text =>
    rw [scopeTokens, Text.mem_splitRuns hne]
    constructor
    · intro h
      exact ⟨text, rfl, h⟩
    · intro hparts
      obtain ⟨text', htext, h⟩ := hparts
      cases htext
      exact h
  | _ => exact ⟨fun h => (nomatch h), fun ⟨_, htext, _⟩ => (nomatch htext)⟩

/-- **The scopes of a claim are the known ones that it names.** -/
theorem mem_parseProxmoxMcpScopes {claim : Value} {scope : ProxmoxMcpScope} :
    scope ∈ parseProxmoxMcpScopes claim ↔ NamesScope claim scope := by
  unfold parseProxmoxMcpScopes NamesScope
  split
  · rename_i entries
    rw [mem_normalizeScopeTokens, List.mem_flatMap]
    constructor
    · intro hparts
      obtain ⟨entry, hentry, hmem⟩ := hparts
      obtain ⟨text, htext, hnames⟩ := mem_scopeTokens.mp hmem
      rw [htext] at hentry
      exact Or.inr ⟨entries, text, rfl, hentry, hnames⟩
    · intro h
      rcases h with ⟨text, htext, -⟩ | ⟨entries', text, hentries, hmem, hnames⟩
      · cases htext
      · cases hentries
        exact ⟨.str text, hmem, mem_scopeTokens.mpr ⟨text, rfl, hnames⟩⟩
  · rename_i claim harr
    rw [mem_normalizeScopeTokens, mem_scopeTokens]
    constructor
    · intro h
      exact Or.inl h
    · intro h
      rcases h with h | ⟨entries, text, hentries, -⟩
      · exact h
      · exact absurd hentries (harr entries)

theorem hasRequiredScopes_iff {scopes required : List ProxmoxMcpScope} :
    hasRequiredScopes scopes required = true ↔ ∀ scope ∈ required, scope ∈ scopes := by
  simp only [hasRequiredScopes, List.all_eq_true, decide_eq_true_eq]

/-! ## 8. Which key verifies -/

/-- The algorithms that are supported. -/
def supportedAlgorithms : List String := ["RS256", "PS256", "ES256", "ES384", "ES512"]

/-- WebCrypto verifies the signature of the data under the key, by a supported algorithm. -/
def Platform.Verifies (P : Platform) (alg jwk : Value) (signature data : List UInt8) : Prop :=
  ∃ name ∈ supportedAlgorithms, alg = .str name ∧ ∃ signing verifying key,
    getJwtSigningAlgorithm alg = some signing ∧ getJwtVerifyAlgorithm alg = some verifying ∧
    P.importKey jwk signing = some key ∧ P.verify verifying key signature data = some true

/-- The key is for signatures: its `use` is absent, or falsy, or `sig`. -/
def IsForSignatures (key : Value) : Prop :=
  (key.get "use").truthy = false ∨ key.get "use" = .str "sig"

/-- The `kid` of the key contradicts the one of the header: both are given, and differ. -/
def ContradictsKid (header key : Value) : Prop :=
  (header.get "kid").truthy = true ∧ (key.get "kid").truthy = true ∧
    (key.get "kid").strictEquals (header.get "kid") = false

/-- The key may verify: it is for signatures and its `kid` does not contradict the header's, or it
    has the header's `kid` and no key of the set is such a one. -/
def MayVerify (header : Value) (keys : List Value) (key : Value) : Prop :=
  (IsForSignatures key ∧ ¬ContradictsKid header key) ∨
    ((∀ k ∈ keys, ¬(IsForSignatures k ∧ ¬ContradictsKid header k)) ∧
      (header.get "kid").truthy = true ∧ (key.get "kid").strictEquals (header.get "kid") = true)

section Keys

variable {P : Platform} {alg header : Value} {signature data : List UInt8} {keys : List Value}

theorem mem_supportedAlgorithms {params : AlgorithmParams}
    (h : getJwtSigningAlgorithm alg = some params) :
    ∃ name ∈ supportedAlgorithms, alg = .str name := by
  unfold getJwtSigningAlgorithm at h
  split at h
  · exact ⟨_, by decide, rfl⟩
  · exact ⟨_, by decide, rfl⟩
  · exact ⟨_, by decide, rfl⟩
  · exact ⟨_, by decide, rfl⟩
  · exact ⟨_, by decide, rfl⟩
  · cases h

theorem tryKey_iff {jwk : Value} :
    P.tryKey alg signature data jwk = true ↔ P.Verifies alg jwk signature data := by
  unfold Platform.tryKey Platform.importVerificationKey Platform.Verifies
  constructor
  · intro h
    rw [Option.getD_eq_iff] at h
    rcases h with h | h
    · obtain ⟨key, himport, h⟩ := Option.bind_eq_some_iff.mp h
      obtain ⟨signing, hsigning, himport⟩ := Option.bind_eq_some_iff.mp himport
      obtain ⟨verifying, hverifying, hverify⟩ := Option.bind_eq_some_iff.mp h
      obtain ⟨name, hname, halg⟩ := mem_supportedAlgorithms hsigning
      exact ⟨name, hname, halg, signing, verifying, key, hsigning, hverifying, himport, hverify⟩
    · cases h.2
  · intro hparts
    obtain ⟨name, _, _, signing, verifying, key, hsigning, hverifying, himport, hverify⟩ := hparts
    simp [hsigning, hverifying, himport, hverify]

/-- **The loop verifies** where one of the keys does. -/
theorem tryKeys_iff : P.tryKeys alg signature data keys = true ↔
    ∃ jwk ∈ keys, P.Verifies alg jwk signature data := by
  induction keys with
  | nil => exact ⟨fun h => (nomatch h), fun ⟨_, h, _⟩ => (nomatch h)⟩
  | cons jwk keys ih =>
    rw [Platform.tryKeys, List.exists_mem_cons_iff, ← tryKey_iff]
    by_cases h : P.tryKey alg signature data jwk = true
    · rw [if_pos h]
      exact ⟨fun _ => Or.inl h, fun _ => rfl⟩
    · rw [if_neg h, ih]
      exact ⟨Or.inr, fun h' => h'.resolve_left h⟩

theorem keepsKey_iff {key : Value} :
    keepsKey header key = true ↔ IsForSignatures key ∧ ¬ContradictsKid header key := by
  unfold keepsKey IsForSignatures ContradictsKid
  rw [← Value.strictEquals_str]
  cases (key.get "use").truthy <;> cases (key.get "use").strictEquals (.str "sig") <;>
    cases (header.get "kid").truthy <;> cases (key.get "kid").truthy <;>
    cases (key.get "kid").strictEquals (header.get "kid") <;> decide

/-- Where no key is `null`, there are candidates to select from. -/
theorem exists_candidates (hnull : ∀ key ∈ keys, key ≠ .null) :
    ∃ candidates, selectCandidateKeys keys header = .ok candidates := by
  have hany : (keys.any fun key => decide (key = .null)) = false :=
    List.any_eq_false.mpr fun key hkey => by simpa using hnull key hkey
  unfold selectCandidateKeys
  rw [if_neg (by rw [hany]; decide)]
  dsimp only
  split
  · exact ⟨_, rfl⟩
  · exact ⟨_, rfl⟩

/-- **The candidates** are the keys that may verify; `null` is no key. -/
theorem selectCandidateKeys_eq_ok {candidates : List Value}
    (h : selectCandidateKeys keys header = .ok candidates) :
    (∀ key ∈ keys, key ≠ .null) ∧
      ∀ key, key ∈ candidates ↔ key ∈ keys ∧ MayVerify header keys key := by
  unfold selectCandidateKeys at h
  split at h
  · cases h
  · rename_i hany
    refine ⟨fun key hkey hnull => hany (List.any_eq_true.mpr ⟨key, hkey, decide_eq_true hnull⟩), ?_⟩
    intro key
    -- the second pass is made where the first keeps no key
    have hempty : (keys.filter (keepsKey header)).isEmpty = true ↔
        ∀ k ∈ keys, ¬(IsForSignatures k ∧ ¬ContradictsKid header k) := by
      simp only [List.isEmpty_iff, List.filter_eq_nil_iff, keepsKey_iff]
    dsimp only at h
    unfold MayVerify
    rw [← hempty]
    split at h
    · rename_i hsecond
      rw [Bool.and_eq_true] at hsecond
      cases h
      rw [List.mem_filter]
      constructor
      · intro hparts
        obtain ⟨hkey, hkid⟩ := hparts
        exact ⟨hkey, Or.inr ⟨hsecond.1, hsecond.2, hkid⟩⟩
      · intro hparts
        obtain ⟨hkey, hmay⟩ := hparts
        rcases hmay with hfirst | ⟨-, -, hkid⟩
        · exact absurd hfirst (hempty.mp hsecond.1 key hkey)
        · exact ⟨hkey, hkid⟩
    · rename_i hsecond
      cases h
      rw [List.mem_filter, keepsKey_iff]
      constructor
      · intro hparts
        obtain ⟨hkey, hfirst⟩ := hparts
        exact ⟨hkey, Or.inl hfirst⟩
      · intro hparts
        obtain ⟨hkey, hmay⟩ := hparts
        rcases hmay with hfirst | ⟨hnone, hkid, -⟩
        · exact ⟨hkey, hfirst⟩
        · exact absurd (by rw [hnone, hkid]; rfl) hsecond

end Keys

/-! ## 9. Which claims pass -/

/-- `aud` is the audience, or an array that holds it. -/
def HasAudience (aud : Value) (audience : String) : Prop :=
  aud = .str audience ∨ ∃ entries, aud = .arr entries ∧ .str audience ∈ entries

/-- The claims pass: they name the issuer, as `href` writes it, and the audience, and where they say
    when they expire or begin, the time is right. -/
structure Platform.ClaimsPass (P : Platform) (options : OidcJwtVerifierOptions) (nowMs : Nat)
    (claims : Value) : Prop where
  issuer : ∃ issuer, P.toUrl options.issuer = .ok issuer ∧ claims.get "iss" = .str issuer
  audience : HasAudience (claims.get "aud") options.audience
  expires : options.hasExpired nowMs (claims.get "exp") = false
  begins : options.isEarly nowMs (claims.get "nbf") = false

section Claims

variable {P : Platform} {options : OidcJwtVerifierOptions} {nowMs : Nat} {claims : Value}

theorem mem_normalizeAudience {aud : Value} {audience : String} :
    audience ∈ normalizeAudience aud ↔ HasAudience aud audience := by
  unfold normalizeAudience HasAudience
  split
  · rename_i text
    simp [eq_comm]
  · rename_i entries
    rw [List.mem_filterMap]
    constructor
    · intro hparts
      obtain ⟨entry, hentry, htext⟩ := hparts
      split at htext
      · cases htext
        exact Or.inr ⟨entries, rfl, hentry⟩
      · cases htext
    · intro h
      rcases h with h | ⟨entries', hentries, hmem⟩
      · cases h
      · cases hentries
        exact ⟨.str audience, hmem, rfl⟩
  · rename_i hstr harr
    constructor
    · intro h
      cases h
    · intro h
      rcases h with h | ⟨entries, h, -⟩
      · exact absurd h (hstr audience)
      · exact absurd h (harr entries)

/-- A property that is there was not read from `null`. -/
theorem readProperty_get {v : Value} {key : String} (h : v.get key ≠ .undefined) :
    readProperty v key = .ok (v.get key) := by
  cases v with
  | undefined => exact absurd rfl h
  | null => exact absurd rfl h
  | _ => rfl

theorem eq_get_of_readProperty {v w : Value} {key : String} (h : readProperty v key = .ok w) :
    w = v.get key := by
  cases v with
  | undefined => cases h
  | null => cases h
  | _ => exact (Except.ok.inj h).symm

theorem checkIssuer_eq_ok {issuer : String} {iss : Value} {u : Unit} :
    checkIssuer issuer iss = .ok u ↔ iss = .str issuer := by
  unfold checkIssuer
  rw [← Value.strictEquals_str]
  split
  · rename_i h
    exact ⟨fun _ => h, fun _ => rfl⟩
  · rename_i h
    constructor
    · intro h'
      obtain ⟨text, -, h'⟩ := bind_eq_ok.mp h'
      cases h'
    · intro h'
      exact absurd h' h

theorem validateClaims_eq_ok {u : Unit} :
    P.validateClaims options nowMs claims = .ok u ↔ P.ClaimsPass options nowMs claims := by
  constructor
  · intro h
    obtain ⟨issuer, hissuer, h⟩ := bind_eq_ok.mp h
    obtain ⟨iss, hiss, h⟩ := bind_eq_ok.mp h
    obtain ⟨_, hcheck, h⟩ := bind_eq_ok.mp h
    obtain ⟨_, haud, h⟩ := bind_eq_ok.mp h
    obtain ⟨_, hexp, hnbf⟩ := bind_eq_ok.mp h
    rw [checkIssuer_eq_ok, eq_get_of_readProperty hiss] at hcheck
    rw [failIf_eq_ok, Bool.not_eq_false', List.contains_iff_mem, mem_normalizeAudience] at haud
    exact ⟨⟨issuer, hissuer, hcheck⟩, haud, failIf_eq_ok.mp hexp, failIf_eq_ok.mp hnbf⟩
  · intro h
    obtain ⟨issuer, hissuer, hiss⟩ := h.issuer
    have hread : readProperty claims "iss" = .ok (.str issuer) := by
      rw [readProperty_get (by rw [hiss]; exact fun e => nomatch e), hiss]
    have haud := List.contains_iff_mem.mpr (mem_normalizeAudience.mpr h.audience)
    refine bind_eq_ok.mpr ⟨issuer, hissuer, bind_eq_ok.mpr ⟨.str issuer, hread, ?_⟩⟩
    refine bind_eq_ok.mpr ⟨(), checkIssuer_eq_ok.mpr rfl, ?_⟩
    refine bind_eq_ok.mpr ⟨(), failIf_eq_ok.mpr (by rw [haud]; rfl), ?_⟩
    exact bind_eq_ok.mpr ⟨(), failIf_eq_ok.mpr h.expires, failIf_eq_ok.mpr h.begins⟩

end Claims

/-! ## 10. Which tokens are signed -/

/-- The token has three segments. -/
structure HasSegments (token : String) (headerPart payloadPart signaturePart : List Char) : Prop where
  text : token.toList = headerPart ++ '.' :: (payloadPart ++ '.' :: signaturePart)
  header : '.' ∉ headerPart
  payload : '.' ∉ payloadPart
  signature : '.' ∉ signaturePart

/-- The claims are those of a token of three segments whose signature over header and payload
    verifies under a key of the set that `may` verify it. -/
def Platform.Signed (P : Platform) (keys : List Value) (may : Value → Value → Prop) (token : String)
    (claims : Value) : Prop :=
  ∃ headerPart payloadPart signaturePart header,
    HasSegments token headerPart payloadPart signaturePart ∧
    parse (segmentText headerPart) = some header ∧ parse (segmentText payloadPart) = some claims ∧
    ∃ key ∈ keys, may header key ∧ P.Verifies (header.get "alg") key
      (decodeBase64Url signaturePart) (Utf8.encode (headerPart ++ '.' :: payloadPart))

section Signed

variable {P : Platform} {options : OidcJwtVerifierOptions} {nowMs : Nat} {claims : Value}
  {token : String} {jwks : Except String (List Value)}
  {headerPart payloadPart signaturePart : List Char}

theorem splitOn_eq_segments : Text.splitOn '.' token.toList =
      [headerPart, payloadPart, signaturePart] ↔
    HasSegments token headerPart payloadPart signaturePart := by
  constructor
  · intro h
    have htext := Text.joinWith_splitOn '.' token.toList
    have hdot : ∀ w ∈ [headerPart, payloadPart, signaturePart], '.' ∉ w := by
      intro w hw
      rw [← h] at hw
      exact Text.not_mem_of_mem_splitOn hw
    rw [h] at htext
    refine ⟨?_, hdot _ (by simp), hdot _ (by simp), hdot _ (by simp)⟩
    rw [← htext]
    simp [Text.joinWith]
  · intro h
    rw [h.text, Text.splitOn_append _ h.header, Text.splitOn_append _ h.payload,
      Text.splitOn_of_not_mem h.signature]

theorem parseJsonSegment_eq_ok {segment : List Char} {value : Value} :
    P.parseJsonSegment segment = .ok value ↔ parse (segmentText segment) = some value := by
  unfold Platform.parseJsonSegment
  split
  · rename_i value' hparse
    rw [hparse]
    exact ⟨fun h => congrArg some (Except.ok.inj h), fun h => congrArg Except.ok (Option.some.inj h)⟩
  · rename_i hparse
    rw [hparse]
    exact ⟨fun h => (nomatch h), fun h => (nomatch h)⟩

theorem verifySegments_eq_ok :
    P.verifySegments options jwks nowMs headerPart payloadPart signaturePart = .ok claims ↔
    ∃ keys header, jwks = .ok keys ∧ (∀ key ∈ keys, key ≠ .null) ∧
      parse (segmentText headerPart) = some header ∧
      parse (segmentText payloadPart) = some claims ∧ P.ClaimsPass options nowMs claims ∧
      ∃ key ∈ keys, MayVerify header keys key ∧ P.Verifies (header.get "alg") key
        (decodeBase64Url signaturePart) (Utf8.encode (headerPart ++ '.' :: payloadPart)) := by
  constructor
  · intro h
    obtain ⟨header, hheader, h⟩ := bind_eq_ok.mp h
    obtain ⟨alg, halg, h⟩ := bind_eq_ok.mp h
    obtain ⟨_, -, h⟩ := bind_eq_ok.mp h
    obtain ⟨claims', hclaims, h⟩ := bind_eq_ok.mp h
    obtain ⟨_, hpass, h⟩ := bind_eq_ok.mp h
    obtain ⟨keys, hkeys, h⟩ := bind_eq_ok.mp h
    obtain ⟨candidates, hcandidates, h⟩ := bind_eq_ok.mp h
    obtain ⟨_, -, h⟩ := bind_eq_ok.mp h
    obtain ⟨_, hverified, h⟩ := bind_eq_ok.mp h
    cases h
    obtain ⟨hnull, hmem⟩ := selectCandidateKeys_eq_ok hcandidates
    rw [failIf_eq_ok, Bool.not_eq_false', tryKeys_iff, eq_get_of_readProperty halg] at hverified
    obtain ⟨key, hkey, hverifies⟩ := hverified
    exact ⟨keys, header, hkeys, hnull, parseJsonSegment_eq_ok.mp hheader,
      parseJsonSegment_eq_ok.mp hclaims, validateClaims_eq_ok.mp hpass, key, ((hmem key).mp hkey).1,
      ((hmem key).mp hkey).2, hverifies⟩
  · intro hparts
    obtain ⟨keys, header, hkeys, hnull, hheader, hclaims, hpass, key, hkey, hmay, hverifies⟩ := hparts
    obtain ⟨candidates, hcandidates⟩ := exists_candidates hnull
    have hmem := ((selectCandidateKeys_eq_ok hcandidates).2 key).mpr ⟨hkey, hmay⟩
    obtain ⟨name, hname, halg, -⟩ := id hverifies
    have hread : readProperty header "alg" = .ok (header.get "alg") :=
      readProperty_get (by rw [halg]; exact fun e => nomatch e)
    have htruthy : (header.get "alg").truthy = true := by
      rw [halg]
      have hall : ∀ name ∈ supportedAlgorithms, (Value.str name).truthy = true := by decide
      exact hall name hname
    have hverified := tryKeys_iff.mpr ⟨key, hmem, hverifies⟩
    have hnonempty : candidates.isEmpty = false := by
      cases candidates with
      | nil => cases hmem
      | cons => rfl
    refine bind_eq_ok.mpr ⟨header, parseJsonSegment_eq_ok.mpr hheader, ?_⟩
    refine bind_eq_ok.mpr ⟨_, hread, bind_eq_ok.mpr ⟨(), failIf_eq_ok.mpr (by rw [htruthy]; rfl), ?_⟩⟩
    refine bind_eq_ok.mpr ⟨claims, parseJsonSegment_eq_ok.mpr hclaims, ?_⟩
    refine bind_eq_ok.mpr ⟨(), validateClaims_eq_ok.mpr hpass, bind_eq_ok.mpr ⟨keys, hkeys, ?_⟩⟩
    refine bind_eq_ok.mpr ⟨candidates, hcandidates, ?_⟩
    refine bind_eq_ok.mpr ⟨(), failIf_eq_ok.mpr hnonempty, ?_⟩
    exact bind_eq_ok.mpr ⟨(), failIf_eq_ok.mpr (by rw [hverified]; rfl), rfl⟩

/-- **What is verified** is a signed token whose claims pass. -/
theorem verifySignature_eq_ok : P.verifySignature options jwks nowMs token = .ok claims ↔
    ∃ keys, jwks = .ok keys ∧ (∀ key ∈ keys, key ≠ .null) ∧ P.ClaimsPass options nowMs claims ∧
      P.Signed keys (fun header key => MayVerify header keys key) token claims := by
  constructor
  · intro h
    unfold Platform.verifySignature at h
    split at h
    · rename_i headerPart payloadPart signaturePart hsplit
      obtain ⟨keys, header, hkeys, hnull, hheader, hclaims, hpass, hkey⟩ := verifySegments_eq_ok.mp h
      exact ⟨keys, hkeys, hnull, hpass, headerPart, payloadPart, signaturePart, header,
        splitOn_eq_segments.mp hsplit, hheader, hclaims, hkey⟩
    · cases h
  · intro hparts
    obtain ⟨keys, hkeys, hnull, hpass, headerPart, payloadPart, signaturePart, header, hsegments,
      hheader, hclaims, hkey⟩ := hparts
    unfold Platform.verifySignature
    rw [splitOn_eq_segments.mpr hsegments]
    exact verifySegments_eq_ok.mpr ⟨keys, header, hkeys, hnull, hheader, hclaims, hpass, hkey⟩

/-- The claims of a token are read one way. -/
theorem Platform.Signed.unique {keys keys' : List Value} {may may' : Value → Value → Prop}
    {claims' : Value} (h : P.Signed keys may token claims) (h' : P.Signed keys' may' token claims') :
    claims = claims' := by
  obtain ⟨headerPart, payloadPart, signaturePart, header, hsegments, -, hclaims, -⟩ := h
  obtain ⟨headerPart', payloadPart', signaturePart', header', hsegments', -, hclaims', -⟩ := h'
  have hsplit := (splitOn_eq_segments.mpr hsegments).symm.trans (splitOn_eq_segments.mpr hsegments')
  simp only [List.cons.injEq, and_true] at hsplit
  rw [hsplit.2.1, hclaims'] at hclaims
  exact (Option.some.inj hclaims).symm

/-- The two replacements write the standard alphabet. -/
theorem normalized_eq (input : List Char) :
    Text.replaceChar '_' ['/'] (Text.replaceChar '-' ['+'] input) = input.map Base64.standard := by
  induction input with
  | nil => rfl
  | cons c s ih =>
    rw [List.map_cons, ← ih]
    by_cases hminus : c = '-'
    · rw [hminus]
      rfl
    · by_cases hscore : c = '_'
      · rw [hscore]
        rfl
      · simp [Text.replaceChar, Base64.standard, hminus, hscore]

/-- The replacements and the padding do not matter. -/
theorem decodeBase64Url_eq (input : List Char) : decodeBase64Url input = Base64.decode input := by
  rw [decodeBase64Url, normalized_eq, padEnd, Base64.decode, Base64.sixBits_map_standard]
  rfl

/-- The compact form of a signed token: header, claims and signature. -/
def compactJwt (header claims : Value) (signature : List UInt8) : String :=
  String.ofList (Base64.base64url (Utf8.encode (stringifyText header).toList) ++ '.' ::
    (Base64.base64url (Utf8.encode (stringifyText claims).toList) ++ '.' ::
      Base64.base64url signature))

/-- What is signed of it. -/
def signingInput (header claims : Value) : List UInt8 :=
  Utf8.encode (Base64.base64url (Utf8.encode (stringifyText header).toList) ++ '.' ::
    Base64.base64url (Utf8.encode (stringifyText claims).toList))

/-- A segment is read as the value it was written for. -/
theorem parse_segmentText {v : Value} (h : v.Writes) :
    parse (segmentText (Base64.base64url (Utf8.encode (stringifyText v).toList))) = some v := by
  rw [segmentText, decodeBase64Url_eq, Base64.decode_base64url, Utf8.decode_encode,
    String.ofList_toList, parse_stringifyText_of h]

/-- **A token in the compact form is signed** where its signature verifies. -/
theorem signed_compactJwt {keys : List Value} {may : Value → Value → Prop} {header key : Value}
    {signature : List UInt8} (hheader : header.Writes) (hclaims : claims.Writes) (hkey : key ∈ keys)
    (hmay : may header key)
    (hverifies : P.Verifies (header.get "alg") key signature (signingInput header claims)) :
    P.Signed keys may (compactJwt header claims signature) claims := by
  have hdot : ∀ b, '.' ∉ Base64.base64url b := fun b =>
    Base64.not_mem_base64url b (by decide) (by decide) (by decide)
  refine ⟨_, _, _, header, ⟨String.toList_ofList, hdot _, hdot _, hdot _⟩, parse_segmentText hheader,
    parse_segmentText hclaims, key, hkey, hmay, ?_⟩
  rw [decodeBase64Url_eq, Base64.decode_base64url]
  exact hverifies

end Signed

/-! ## 11. What an accepted token is worth -/

/-- The issuer of a token is the configured one: it names the same URL, and it is the configured
    text where that is the text of its URL. -/
def Platform.IsIssuer (P : Platform) : UrlInput → String → Prop
  | .url href, iss => iss = href
  | .text value, iss => ∃ href, P.href value = some href ∧ P.href iss = some href ∧
      (href = value → iss = value)

/-- The key is for signatures, or says nothing of its use, and its `kid` does not contradict. -/
def IsSigningKey (header key : Value) : Prop :=
  (key.get "use" = .undefined ∨ key.get "use" = .str "sig") ∧ ¬ContradictsKid header key

/-- What is known of a token that is accepted. -/
structure Platform.Sound (P : Platform) (options : OidcJwtVerifierOptions) (keys : List Value)
    (nowMs : Nat) (token : String) (v : VerifiedBearerToken) : Prop where
  same : v.token = token
  signed : P.Signed keys IsSigningKey token v.claims
  issuer : ∃ iss, v.claims.get "iss" = .str iss ∧ P.IsIssuer options.issuer iss
  audience : HasAudience (v.claims.get "aud") options.audience
  expires : ∀ exp, v.claims.get "exp" = .num exp →
    exp.atMost ((nowSeconds nowMs).plus options.skewSeconds.negated) = false
  begins : ∀ nbf, v.claims.get "nbf" = .num nbf →
    ((nowSeconds nowMs).plus options.skewSeconds).below nbf = false
  scopes_nodup : v.scopes.Nodup
  scopes : ∀ scope, scope ∈ v.scopes ↔ NamesScope (scopeClaim v.claims) scope
  required : ∀ scope ∈ options.requiredScopes.getD [], scope ∈ v.scopes

section Sound

variable {P : Platform} {options : OidcJwtVerifierOptions} {nowMs : Nat} {claims : Value}
  {token : String} {v : VerifiedBearerToken} {jwks : Except String (List Value)}
  {keys : List Value}

/-- What is granted, and when. -/
theorem grantToken_eq_ok (h : P.grantToken options token claims = .ok v) :
    v.token = token ∧ v.claims = claims ∧ v.scopes = parseProxmoxMcpScopes (scopeClaim claims) ∧
      ∀ scope ∈ options.requiredScopes.getD [], scope ∈ v.scopes := by
  obtain ⟨_, hscopes, h⟩ := bind_eq_ok.mp h
  obtain ⟨resource, -, h⟩ := bind_eq_ok.mp h
  cases h
  rw [failIf_eq_ok, Bool.not_eq_false', hasRequiredScopes_iff] at hscopes
  exact ⟨rfl, rfl, rfl, hscopes⟩

/-- **A token is granted** where it names the required scopes and the resource is a URL. -/
theorem grantToken_succeeds :
    (∃ v, P.grantToken options token claims = .ok v) ↔
      (∀ scope ∈ options.requiredScopes.getD [], NamesScope (scopeClaim claims) scope) ∧
        ∃ resource, P.resourceOf options.resourceServerUrl = .ok resource := by
  have hscopes : hasRequiredScopes (parseProxmoxMcpScopes (scopeClaim claims))
        (options.requiredScopes.getD []) = true ↔
      ∀ scope ∈ options.requiredScopes.getD [], NamesScope (scopeClaim claims) scope := by
    simp only [hasRequiredScopes_iff, mem_parseProxmoxMcpScopes]
  constructor
  · intro hparts
    obtain ⟨v, h⟩ := hparts
    obtain ⟨_, hrequired, h⟩ := bind_eq_ok.mp h
    obtain ⟨resource, hresource, -⟩ := bind_eq_ok.mp h
    rw [failIf_eq_ok, Bool.not_eq_false', hscopes] at hrequired
    exact ⟨hrequired, resource, hresource⟩
  · intro hparts
    obtain ⟨hrequired, resource, hresource⟩ := hparts
    refine ⟨_, bind_eq_ok.mpr ⟨(), failIf_eq_ok.mpr ?_, bind_eq_ok.mpr ⟨resource, hresource, rfl⟩⟩⟩
    rw [hscopes.mpr hrequired]
    rfl

/-- **When a token is accepted.** -/
theorem verifyToken_succeeds :
    (∃ v, P.verifyToken options (.ok keys) nowMs token = .ok v ∧ v.claims = claims) ↔
      (∀ key ∈ keys, key ≠ .null) ∧ P.ClaimsPass options nowMs claims ∧
      P.Signed keys (fun header key => MayVerify header keys key) token claims ∧
      (∀ scope ∈ options.requiredScopes.getD [], NamesScope (scopeClaim claims) scope) ∧
      ∃ resource, P.resourceOf options.resourceServerUrl = .ok resource := by
  constructor
  · intro hparts
    obtain ⟨v, h, hv⟩ := hparts
    obtain ⟨claims', hverified, hgrant⟩ := bind_eq_ok.mp h
    have hclaims : claims' = claims := (grantToken_eq_ok hgrant).2.1.symm.trans hv
    cases hclaims
    obtain ⟨keys', hkeys, hnull, hpass, hsigned⟩ := verifySignature_eq_ok.mp hverified
    cases hkeys
    exact ⟨hnull, hpass, hsigned, grantToken_succeeds.mp ⟨v, hgrant⟩⟩
  · intro hparts
    obtain ⟨hnull, hpass, hsigned, hgranted⟩ := hparts
    obtain ⟨v, hgrant⟩ := grantToken_succeeds.mpr hgranted
    have hverified := verifySignature_eq_ok.mpr ⟨keys, rfl, hnull, hpass, hsigned⟩
    exact ⟨v, bind_eq_ok.mpr ⟨claims, hverified, hgrant⟩, (grantToken_eq_ok hgrant).2.1⟩

theorem Platform.Signed.mono {may may' : Value → Value → Prop}
    (hmay : ∀ header key signature data, may header key →
      P.Verifies (header.get "alg") key signature data → may' header key)
    (h : P.Signed keys may token claims) : P.Signed keys may' token claims := by
  obtain ⟨headerPart, payloadPart, signaturePart, header, hsegments, hheader, hclaims, key, hkey,
    hmay', hverifies⟩ := h
  exact ⟨headerPart, payloadPart, signaturePart, header, hsegments, hheader, hclaims, key, hkey,
    hmay _ _ _ _ hmay' hverifies, hverifies⟩

end Sound

/-- A key of a provider, for ES256. -/
def exampleJwk : Value := .obj [("kty", .str "EC"), ("crv", .str "P-256"),
  ("x", .str "d-9Yc8_-Yx0MYVdhl2aqL3jYL5E377cw0hFGGW-LR5k"),
  ("y", .str "SX10Opz-zh4BNhoAfJDbSI-NlQOXyRYfoJKLHKJMWvM"), ("kid", .str "k1"), ("use", .str "sig")]

/-- The header of its tokens. -/
def exampleHeader : Value := .obj [("alg", .str "ES256"), ("kid", .str "k1")]

/-- Claims that expire. -/
def exampleExpiring : Value := .obj [("iss", .str "https://issuer.example/"),
  ("aud", .str "proxmox-mcp"), ("exp", .nat 1700000300), ("scope", .str "proxmox.read openid")]

/-- Claims that do not. -/
def exampleLasting : Value := .obj [("iss", .str "https://issuer.example/"),
  ("aud", .str "proxmox-mcp")]

/-- Claims with the issuer's text as it is configured. -/
def exampleUnslashed : Value := .obj [("iss", .str "https://issuer.example"),
  ("aud", .str "proxmox-mcp"), ("exp", .nat 1700000300)]

/-- The claims that were signed, with their signatures. -/
def exampleSigned : List (Value × List UInt8) := [
  (exampleExpiring, decodeBase64Url
    "y6tKPgwXgDFQuZHhTBo5EXWoQjqC2UX_8jOSR6pl3dzxpf3tHcYrx6YmbcdArcoj5Kigu9CKP6Rv3GZCaEejrQ".toList),
  (exampleLasting, decodeBase64Url
    "5pzBegb8ytMRwxxrPJEh_rZwg8u0xI2Cv_riOT2x6qif5wuVeD-WKttGV3AtQLIkQN_audrVm1fog-qf2-IRsQ".toList),
  (exampleUnslashed, decodeBase64Url
    "iO3vgPkLvA4c1zzFxxpEmHWeR5k_BQrCBDE4MaXOogDGPxTso0LrbmIxYUL7TxEswsf9CoBmjr49SCddxuf90A".toList)]

/-- Its key is imported for ES256. -/
def exampleImport (jwk : Value) (params : AlgorithmParams) : Option Unit :=
  if jwk = exampleJwk ∧ params = { name := "ECDSA", namedCurve := some "P-256" } then some ()
  else none

/-- The platform, at the texts and the tokens of this provider. -/
def examplePlatform : Platform where
  href text :=
    if text = "https://issuer.example" ∨ text = "https://issuer.example/" then
      some "https://issuer.example/"
    else none
  jsonError _ := "Unexpected end of JSON input"
  Key := Unit
  importKey := exampleImport
  verify _ _ signature data := some <| exampleSigned.any fun signed =>
    decide (signature = signed.2) && decide (data = signingInput exampleHeader signed.1)

/-- The verifier of `https://issuer.example`. -/
def exampleVerifier : OidcJwtVerifierOptions where
  issuer := .text "https://issuer.example"
  audience := "proxmox-mcp"

/-- What the provider signed is signed. -/
theorem exampleSigned_signed {claims : Value} {signature : List UInt8}
    {may : Value → Value → Prop} (h : (claims, signature) ∈ exampleSigned)
    (hclaims : claims.Writes) (hmay : may exampleHeader exampleJwk) :
    examplePlatform.Signed [exampleJwk] may (compactJwt exampleHeader claims signature) claims := by
  have hheader : exampleHeader.Writes :=
    ⟨inOrder_of_names (by decide) (by unfold DistinctKeys; decide), trivial, trivial, trivial⟩
  have himport : exampleImport exampleJwk { name := "ECDSA", namedCurve := some "P-256" } = some () :=
    if_pos ⟨rfl, rfl⟩
  refine signed_compactJwt hheader hclaims List.mem_cons_self hmay ⟨"ES256", by decide, by decide,
    _, _, (), rfl, rfl, himport, ?_⟩
  refine congrArg some (List.any_eq_true.mpr ⟨_, h, ?_⟩)
  simp only [decide_true, Bool.and_true]

theorem exampleJwk_mayVerify : MayVerify exampleHeader [exampleJwk] exampleJwk :=
  Or.inl (keepsKey_iff.mp (by decide))

theorem exampleExpiring_writes : exampleExpiring.Writes :=
  ⟨inOrder_of_names (by decide) (by unfold DistinctKeys; decide), trivial, trivial, ⟨_, rfl⟩, trivial,
    trivial⟩

theorem exampleUnslashed_writes : exampleUnslashed.Writes :=
  ⟨inOrder_of_names (by decide) (by unfold DistinctKeys; decide), trivial, trivial, ⟨_, rfl⟩, trivial⟩

theorem exampleLasting_writes : exampleLasting.Writes :=
  ⟨inOrder_of_names (by decide) (by unfold DistinctKeys; decide), trivial, trivial, trivial⟩

/-- The key is for signatures, or says nothing of its use, and it has the `kid` of the header. -/
def HasKidOf (header key : Value) : Prop :=
  (key.get "use" = .undefined ∨ key.get "use" = .str "sig") ∧
    (key.get "kid").strictEquals (header.get "kid") = true

/-- The token deserves acceptance: it is signed by the provider, it names the issuer as it is
    configured and the audience, it is in time, and it names the required scopes. -/
structure Platform.Deserves (P : Platform) (options : OidcJwtVerifierOptions) (issuer : String)
    (keys : List Value) (nowMs : Nat) (token : String) (claims : Value) : Prop where
  signed : P.Signed keys HasKidOf token claims
  issuer : claims.get "iss" = .str issuer
  audience : HasAudience (claims.get "aud") options.audience
  expires : ∀ exp, claims.get "exp" = .num exp →
    exp.atMost ((nowSeconds nowMs).plus options.skewSeconds.negated) = false
  begins : ∀ nbf, claims.get "nbf" = .num nbf →
    ((nowSeconds nowMs).plus options.skewSeconds).below nbf = false
  required : ∀ scope ∈ options.requiredScopes.getD [], NamesScope (scopeClaim claims) scope

section Deserves

variable {P : Platform} {options : OidcJwtVerifierOptions} {nowMs : Nat} {claims : Value}
  {token issuer href : String} {keys : List Value}

theorem mayVerify_of_hasKidOf {header key : Value} (h : HasKidOf header key) :
    MayVerify header keys key := by
  obtain ⟨huse, hkid⟩ := h
  refine Or.inl ⟨?_, ?_⟩
  · rcases huse with huse | huse
    · rw [IsForSignatures, huse]
      exact Or.inl rfl
    · exact Or.inr huse
  · intro hcontradicts
    rw [hcontradicts.2.2] at hkid
    cases hkid

theorem hasExpired_eq_false {exp : Value} : options.hasExpired nowMs exp = false ↔
    ∀ n, exp = .num n →
      n.atMost ((nowSeconds nowMs).plus options.skewSeconds.negated) = false := by
  cases exp with
  | num exp => exact ⟨fun h n hn => by cases hn; exact h, fun h => h exp rfl⟩
  | _ => exact ⟨fun _ n hn => (nomatch hn), fun _ => rfl⟩

theorem isEarly_eq_false {nbf : Value} : options.isEarly nowMs nbf = false ↔
    ∀ n, nbf = .num n → ((nowSeconds nowMs).plus options.skewSeconds).below n = false := by
  cases nbf with
  | num nbf => exact ⟨fun h n hn => by cases hn; exact h, fun h => h nbf rfl⟩
  | _ => exact ⟨fun _ n hn => (nomatch hn), fun _ => rfl⟩

/-- The claims of a deserving token pass where the text of the issuer is the one of its URL. -/
theorem claimsPass_iff (hissuer : options.issuer = .text issuer) (hurl : P.href issuer = some href)
    (h : P.Deserves options issuer keys nowMs token claims) :
    P.ClaimsPass options nowMs claims ↔ href = issuer := by
  have htoUrl : P.toUrl options.issuer = .ok href := by
    rw [hissuer, Platform.toUrl, hurl]
  constructor
  · intro hpass
    obtain ⟨issuer', hissuer', hiss⟩ := hpass.issuer
    rw [htoUrl] at hissuer'
    rw [h.issuer] at hiss
    cases hissuer'
    exact (Value.str.inj hiss).symm
  · intro hhref
    rw [hhref] at htoUrl
    exact ⟨⟨issuer, htoUrl, h.issuer⟩, h.audience, hasExpired_eq_false.mpr h.expires,
      isEarly_eq_false.mpr h.begins⟩

/-- **A deserving token is accepted** exactly where the issuer is configured as the text of its URL,
    no key of the set is `null`, and the resource is a URL. -/
theorem deserving_accepted_iff (hissuer : options.issuer = .text issuer)
    (hurl : P.href issuer = some href) (h : P.Deserves options issuer keys nowMs token claims) :
    (∃ v, P.verifyToken options (.ok keys) nowMs token = .ok v) ↔
      href = issuer ∧ (∀ key ∈ keys, key ≠ .null) ∧
        ∃ resource, P.resourceOf options.resourceServerUrl = .ok resource := by
  have hsigned : P.Signed keys (fun header key => MayVerify header keys key) token claims :=
    h.signed.mono fun _ _ _ _ hkid _ => mayVerify_of_hasKidOf hkid
  constructor
  · intro hparts
    obtain ⟨v, haccepted⟩ := hparts
    obtain ⟨hnull, hpass, hsigned', -, hresource⟩ := verifyToken_succeeds.mp ⟨v, haccepted, rfl⟩
    rw [hsigned'.unique hsigned] at hpass
    exact ⟨(claimsPass_iff hissuer hurl h).mp hpass, hnull, hresource⟩
  · intro hparts
    obtain ⟨hhref, hnull, hresource⟩ := hparts
    have hpass := (claimsPass_iff hissuer hurl h).mpr hhref
    obtain ⟨v, haccepted, -⟩ :=
      verifyToken_succeeds.mpr ⟨hnull, hpass, hsigned, h.required, hresource⟩
    exact ⟨v, haccepted⟩

end Deserves

theorem exampleJwk_hasKidOf : HasKidOf exampleHeader exampleJwk :=
  ⟨Or.inr (by decide), by decide⟩

/-- The token with the slash is accepted where the issuer is configured with it. -/
theorem deserving_accepted_iff_expiring : ∃ token v,
    examplePlatform.verifyToken { exampleVerifier with issuer := .text "https://issuer.example/" }
      (.ok [exampleJwk]) 1700000000000 token = .ok v := by
  have hdeserves : examplePlatform.Deserves
      { exampleVerifier with issuer := .text "https://issuer.example/" } "https://issuer.example/"
      [exampleJwk] 1700000000000 _ exampleExpiring :=
    ⟨exampleSigned_signed List.mem_cons_self exampleExpiring_writes exampleJwk_hasKidOf, by decide,
      Or.inl (by decide), hasExpired_eq_false.mp (by decide +kernel),
      isEarly_eq_false.mp (by decide), fun _ h => absurd h List.not_mem_nil⟩
  have hiff := deserving_accepted_iff (P := examplePlatform) rfl rfl hdeserves
  exact ⟨_, hiff.mpr ⟨rfl, by decide, none, rfl⟩⟩

/-- Where the issuer is configured without the slash, the provider that writes it so is rejected. -/
theorem unslashed_issuer_rejected : ∃ token,
    examplePlatform.href "https://issuer.example" = some "https://issuer.example/" ∧
    examplePlatform.Deserves exampleVerifier "https://issuer.example" [exampleJwk] 1700000000000 token
      exampleUnslashed ∧
    ∀ v, examplePlatform.verifyToken exampleVerifier (.ok [exampleJwk]) 1700000000000 token ≠
      .ok v := by
  have hmem : (exampleUnslashed, _) ∈ exampleSigned :=
    List.mem_cons_of_mem _ (List.mem_cons_of_mem _ List.mem_cons_self)
  have hsigned := exampleSigned_signed hmem exampleUnslashed_writes exampleJwk_hasKidOf
  refine ⟨_, by decide, ⟨hsigned, by decide, Or.inl (by decide),
    hasExpired_eq_false.mp (by decide +kernel), isEarly_eq_false.mp (by decide),
    fun _ h => absurd h List.not_mem_nil⟩, ?_⟩
  intro v haccepted
  obtain ⟨-, hpass, hsigned', -⟩ := verifyToken_succeeds.mp ⟨v, haccepted, rfl⟩
  obtain ⟨issuer, hissuer, hiss⟩ := hpass.issuer
  rw [hsigned'.unique hsigned] at hiss
  cases hissuer
  exact absurd hiss (by decide)

end ProxmoxMcp
