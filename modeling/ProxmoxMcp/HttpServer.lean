/-
  File:      ProxmoxMcp/HttpServer.lean
  Subject:   THE HTTP SERVER (`createProxmoxMcpHttpServer`): what a request is answered with, what is
             handed over to the transport, and what a tool call over HTTP has to show.

  The platform is a parameter: the pathname and the origin of a URL, and what bearer tokens need
  (HttpAuth.lean). The transport takes over a request with the token that the server has put on it,
  and calls the tools and resources that its body asks for with the scopes of that token.

  * `served_effect` -- every effect of a request rests on a verified token, whose claims name the
    scopes of the tool;
  * `handle_throws_iff` -- when the handler throws while it answers, so that the request stays open;
  * `forgedToken_throws` -- a client without a token can bring that about.
-/
import ProxmoxMcp.ToolScopes

namespace ProxmoxMcp

open Js Effects Prog Checks

variable [Text.Unicode]

/-! ## 1. Requests and responses -/

/-- What the server reads of an `IncomingMessage`; of a header that came twice, the first. -/
structure IncomingMessage where
  method : Option String := none
  url : Option String := none
  authorization : Option String := none
  contentType : Option String := none
  forwardedProto : Option String := none
  forwardedHost : Option String := none
  host : Option String := none
  chunks : List (List UInt8) := []

/-- The body of a response. -/
inductive ResponseBody where
  | json (payload : Value)
  | text (text : String)

/-- What is written to a `ServerResponse`. -/
structure ServerResponse where
  statusCode : Nat
  headers : List (String × String)
  body : ResponseBody

/-- What becomes of a request: it is answered, handed over to the transport, or left open by an
    exception out of the handler. -/
inductive Handled where
  | answered (response : ServerResponse)
  | handed (auth : Option VerifiedBearerToken) (parsedBody : Value)
  | thrown (message : String)

/-- The platform of the HTTP server. -/
structure HttpPlatform extends Platform where
  /-- `new URL(text, "http://localhost").pathname`, `none` where it throws -/
  pathname : String → Option String

/-- `OidcHttpAuthOptions`, and what the server keeps of the other options: the URLs as their `href`,
    and of the public one the parts that stand in for missing headers. -/
structure HttpServerOptions where
  path : Option String := none
  publicUrl : String
  publicHost : String
  publicProtocol : String
  metadataUrl : String
  resourceName : Option String := none
  resourceDocumentation : Option UrlInput := none
  auth : Option OidcJwtVerifierOptions := none

/-- `normalizePath`. -/
def normalizePath (path : String) : String :=
  if path = "" then "/" else if ['/'].isPrefixOf path.toList then path else "/" ++ path

/-- `normalizePath(options.path ?? "/mcp")`. -/
def HttpServerOptions.mcpPath (options : HttpServerOptions) : String :=
  normalizePath (options.path.getD "/mcp")

/-- `getMetadataPath`. -/
def getMetadataPath (mcpPath : String) : String :=
  let normalized := normalizePath mcpPath
  "/.well-known/oauth-protected-resource" ++ if normalized = "/" then "" else normalized

/-! ## 2. Headers -/

/-- A character of a header value; Node refuses the others. -/
def isHeaderChar (c : Char) : Bool :=
  c == '\t' || (decide (32 ≤ c.toNat) && decide (c.toNat ≤ 126)) ||
    (decide (128 ≤ c.toNat) && decide (c.toNat ≤ 255))

/-- `res.setHeader` on every header. -/
def setHeaders (headers : List (String × String)) : Except String Unit :=
  match headers.find? fun header => !header.2.toList.all isHeaderChar with
  | some (name, _) => .error s!"Invalid character in header content [\"{name}\"]"
  | none => .ok ()

/-- `writeText`. -/
def writeText (statusCode : Nat) (text : String) (headers : List (String × String) := []) :
    Handled :=
  match setHeaders headers with
  | .ok () =>
      .answered ⟨statusCode, headers ++ [("content-type", "text/plain; charset=utf-8")], .text text⟩
  | .error m => .thrown m

/-- `writeJson`. -/
def writeJson (statusCode : Nat) (payload : Value) : Handled :=
  .answered ⟨statusCode, [("content-type", "application/json; charset=utf-8")], .json payload⟩

/-- `"${name}=\"${text}\""`. -/
def challengePart (name text : String) : String := name ++ "=\"" ++ text ++ "\""

/-- `description.replace(/"/g, "'")`. -/
def challengeDescription (description : String) : String :=
  String.ofList (Text.replaceChar '"' ['\''] description.toList)

/-- `buildBearerChallenge`. -/
def buildBearerChallenge (metadataUrl code description : String) (scope : Option String) : String :=
  let parts := [challengePart "Bearer error" code,
    challengePart "error_description" (challengeDescription description)] ++
    ((nonEmpty scope).map fun scope => challengePart "scope" scope).toList ++
    [challengePart "resource_metadata" metadataUrl]
  String.ofList (Text.joinWith [',', ' '] (parts.map String.toList))

/-! ## 3. Authentication -/

/-- A failure of `authenticateRequest`. -/
structure BearerAuthFailure where
  statusCode : Nat
  code : String
  description : String
  scope : Option String := none

/-- The rest of the header behind `/^Bearer\s+/i`. -/
def bearerToken (header : String) : Option (List Char) :=
  if prefixFold "Bearer".toList header.toList then
    match header.toList.drop 6 with
    | [] => none
    | c :: rest => if Text.isSpace c then some (rest.dropWhile Text.isSpace) else none
  else none

/-- `Missing bearer token`. -/
def missingToken : BearerAuthFailure := ⟨401, "invalid_token", "Missing bearer token", none⟩

/-- The failure that the message of a verification stands for. -/
def verificationFailure (options : OidcJwtVerifierOptions) (message : String) :
    BearerAuthFailure :=
  if includesFold "missing required scope".toList message.toList then
    { statusCode := 403
      code := "insufficient_scope"
      description := message
      scope := options.requiredScopes.map fun required =>
        String.ofList (Text.joinWith [' '] (required.map fun scope => scope.text.toList)) }
  else ⟨401, "invalid_token", message, none⟩

/-- `authenticateRequest`, with the header and the key set. -/
def Platform.authenticateRequest (P : Platform) (options : OidcJwtVerifierOptions)
    (jwks : Except String (List Value)) (nowMs : Nat) (header : Option String) :
    Except BearerAuthFailure VerifiedBearerToken :=
  match header.bind bearerToken with
  | none => .error missingToken
  | some rest =>
    let token := String.ofList (Text.trim rest)
    if token = "" then .error missingToken
    else
      match P.verifyToken options jwks nowMs token with
      | .ok verified => .ok verified
      | .error m => .error (verificationFailure options m)

/-- The options of the verifier. -/
def HttpServerOptions.verifier (options : HttpServerOptions) (auth : OidcJwtVerifierOptions) :
    OidcJwtVerifierOptions :=
  { auth with resourceServerUrl := some (auth.resourceServerUrl.getD (.url options.publicUrl)) }

/-! ## 4. The handler -/

/-- `resolveRequestResourceUrl`, before it is parsed. -/
def requestResourceUrl (options : HttpServerOptions) (msg : IncomingMessage) : String :=
  let host := msg.forwardedHost.getD (msg.host.getD options.publicHost)
  let withoutColon := if options.publicProtocol.toList.getLast? = some ':' then
    String.ofList options.publicProtocol.toList.dropLast else options.publicProtocol
  let protocol := msg.forwardedProto.getD withoutColon
  (if protocol = "" then "http" else protocol) ++ "://" ++ host ++ options.mcpPath

/-- `createProtectedResourceMetadata`, for this request. -/
def Platform.protectedResourceMetadata (P : Platform) (options : HttpServerOptions)
    (msg : IncomingMessage) : Except String Value := do
  let resource ← P.toUrl (.text (requestResourceUrl options msg))
  let issuer ← P.toUrl ((options.auth.map fun auth => auth.issuer).getD (.url options.publicUrl))
  let documentation ← P.resourceOf options.resourceDocumentation
  let scopes := (options.auth.bind fun auth => auth.requiredScopes).getD PROXMOX_MCP_SCOPES
  return .obj ([("resource", .str resource), ("authorization_servers", .arr [.str issuer]),
    ("scopes_supported", .arr (scopes.map fun scope => .str scope.text)),
    ("bearer_methods_supported", .arr [.str "header"])] ++
    optionalArg "resource_name" .str options.resourceName ++
    optionalArg "resource_documentation" .str documentation)

/-- `readRequestBody`. -/
def Platform.readRequestBody (P : Platform) (contentType : Option String)
    (chunks : List (List UInt8)) : Except String Value :=
  let raw := Text.trim (Utf8.decode chunks.flatten)
  if chunks.isEmpty || raw.isEmpty then .ok .undefined
  else if Text.includes "application/json".toList (contentType.getD "").toList ||
      ['{'].isPrefixOf raw || ['['].isPrefixOf raw then
    match parse (String.ofList raw) with
    | some value => .ok value
    | none => .error (P.jsonError (String.ofList raw))
  else .ok (.str (String.ofList raw))

/-- The failure of a request that is not allowed to pass. -/
def writeFailure (options : HttpServerOptions) (failure : BearerAuthFailure) : Handled :=
  writeText failure.statusCode failure.description
    [("www-authenticate", buildBearerChallenge options.metadataUrl failure.code failure.description
      failure.scope)]

/-- What an exception that is no failure of the authentication ends in. -/
def serverError : Handled := writeText 500 "Internal Server Error"

/-- The token that is put on the request. -/
def Platform.authenticate (P : Platform) (options : HttpServerOptions)
    (jwks : Except String (List Value)) (nowMs : Nat) (msg : IncomingMessage) :
    Except BearerAuthFailure (Option VerifiedBearerToken) :=
  match options.auth with
  | none => .ok none
  | some auth =>
    (P.authenticateRequest (options.verifier auth) jwks nowMs msg.authorization).map some

/-- The methods of the transport. -/
def transportMethods : List String := ["GET", "POST", "DELETE"]

/-- The end of the handler. -/
def Platform.handOver (P : Platform) (msg : IncomingMessage) (auth : Option VerifiedBearerToken) :
    Handled :=
  if msg.method.getD "" ∉ transportMethods then
    writeText 405 "Method Not Allowed" [("allow", "GET, POST, DELETE")]
  else if msg.method = some "GET" then .handed auth .undefined
  else match P.readRequestBody msg.contentType msg.chunks with
    | .ok parsedBody => .handed auth parsedBody
    | .error _ => serverError

/-- **The handler of `http.createServer`.** -/
def HttpPlatform.handle (P : HttpPlatform) (options : HttpServerOptions)
    (jwks : Except String (List Value)) (nowMs : Nat) (msg : IncomingMessage) : Handled :=
  match P.pathname (msg.url.getD "/") with
  | none => serverError
  | some pathname =>
    if msg.method = some "GET" ∧ pathname = getMetadataPath options.mcpPath then
      match P.protectedResourceMetadata options msg with
      | .ok metadata => writeJson 200 metadata
      | .error _ => serverError
    else if pathname ≠ options.mcpPath then writeText 404 "Not Found"
    else match P.authenticate options jwks nowMs msg with
      | .error failure => writeFailure options failure
      | .ok auth => P.handOver msg auth

section Handler

variable {P : HttpPlatform} {options : HttpServerOptions} {jwks : Except String (List Value)}
  {nowMs : Nat} {msg : IncomingMessage} {auth : OidcJwtVerifierOptions}

/-! ## 5. What passes -/

/-- The header carries the token. -/
def CarriesToken (header token : String) : Prop :=
  ∃ rest, bearerToken header = some rest ∧ token = String.ofList (Text.trim rest)

theorem authenticateRequest_ok {P : Platform} {header : Option String}
    {verified : VerifiedBearerToken}
    (hok : P.authenticateRequest auth jwks nowMs header = .ok verified) :
    ∃ text token, header = some text ∧ CarriesToken text token ∧
      P.verifyToken auth jwks nowMs token = .ok verified := by
  unfold Platform.authenticateRequest at hok
  cases hheader : header.bind bearerToken with
  | none =>
    rw [hheader] at hok
    cases hok
  | some rest =>
    rw [hheader] at hok
    dsimp only at hok
    obtain ⟨text, htext, hrest⟩ := Option.bind_eq_some_iff.mp hheader
    split at hok
    · cases hok
    · refine ⟨text, _, htext, ⟨rest, hrest, rfl⟩, ?_⟩
      split at hok
      · rename_i hverify
        rw [hverify]
        exact congrArg Except.ok (Except.ok.inj hok)
      · cases hok

/-- What is handed over has passed the authentication. -/
theorem handle_handed {granted : Option VerifiedBearerToken} {body : Value}
    (hhanded : P.handle options jwks nowMs msg = .handed granted body) :
    P.authenticate options jwks nowMs msg = .ok granted := by
  have hwrite : ∀ {code text headers}, writeText code text headers ≠ .handed granted body := by
    intro code text headers h
    unfold writeText at h
    split at h <;> cases h
  unfold HttpPlatform.handle at hhanded
  split at hhanded
  · exact absurd hhanded hwrite
  · split at hhanded
    · split at hhanded
      · cases hhanded
      · exact absurd hhanded hwrite
    · split at hhanded
      · exact absurd hhanded hwrite
      · split at hhanded
        · exact absurd hhanded hwrite
        · rename_i token hauth
          rw [hauth]
          unfold Platform.handOver at hhanded
          split at hhanded
          · exact absurd hhanded hwrite
          · split at hhanded
            · cases hhanded
              rfl
            · split at hhanded
              · cases hhanded
                rfl
              · exact absurd hhanded hwrite

/-! ## 6. What is not answered -/

/-- The text has a character that no header can carry. -/
def Unprintable (text : String) : Prop := ∃ c ∈ text.toList, isHeaderChar c = false

omit [Text.Unicode] in
theorem writeText_thrown {code : Nat} {text name value : String} :
    (∃ m, writeText code text [(name, value)] = .thrown m) ↔ Unprintable value := by
  unfold writeText setHeaders Unprintable
  cases hall : value.toList.all isHeaderChar with
  | true =>
    have hprintable := List.all_eq_true.mp hall
    simp only [List.find?_cons, hall, Bool.not_true, List.find?_nil]
    refine iff_of_false (fun h => ?_) (fun h => ?_)
    · obtain ⟨m, h⟩ := h
      cases h
    · obtain ⟨c, hc, hbad⟩ := h
      rw [hprintable c hc] at hbad
      cases hbad
  | false =>
    obtain ⟨c, hc, hbad⟩ := List.all_eq_false.mp hall
    simp only [List.find?_cons, hall, Bool.not_false]
    exact iff_of_true ⟨_, rfl⟩ ⟨c, hc, by simpa using hbad⟩

omit [Text.Unicode] in
theorem unprintable_iff {text : String} :
    Unprintable text ↔ text.toList.all isHeaderChar = false := by
  simp [Unprintable, List.all_eq_false]

omit [Text.Unicode] in
theorem all_challengePart {name text : String} (hname : name.toList.all isHeaderChar = true) :
    (challengePart name text).toList.all isHeaderChar = text.toList.all isHeaderChar := by
  have hopen : "=\"".toList.all isHeaderChar = true := by decide
  have hclose : "\"".toList.all isHeaderChar = true := by decide
  simp only [challengePart, String.toList_append, List.all_append, hname, hopen, hclose,
    Bool.true_and, Bool.and_true]

omit [Text.Unicode] in
/-- The replaced quotes are printable, before and after. -/
theorem all_challengeDescription (description : String) :
    (challengeDescription description).toList.all isHeaderChar =
      description.toList.all isHeaderChar := by
  rw [challengeDescription, String.toList_ofList]
  induction description.toList with
  | nil => rfl
  | cons c s ih =>
    by_cases hc : c = '"'
    · rw [hc]
      exact ih
    · rw [Text.replaceChar, List.flatMap_cons, if_neg hc]
      exact congrArg (isHeaderChar c && ·) ih

omit [Text.Unicode] in
/-- **A challenge is as printable as its description.** -/
theorem all_buildBearerChallenge {metadataUrl code description : String} {scope : Option String}
    (hurl : metadataUrl.toList.all isHeaderChar = true)
    (hcode : code.toList.all isHeaderChar = true)
    (hscope : ∀ s ∈ scope, s.toList.all isHeaderChar = true) :
    (buildBearerChallenge metadataUrl code description scope).toList.all isHeaderChar =
      description.toList.all isHeaderChar := by
  have hscopePart : (((nonEmpty scope).map fun s => challengePart "scope" s).toList.map
      String.toList).all (fun w => w.all isHeaderChar) = true := by
    cases hsome : nonEmpty scope with
    | none => rfl
    | some s =>
      have hs := hscope s (Option.filter_eq_some_iff.mp hsome).1
      simp [all_challengePart (show "scope".toList.all isHeaderChar = true by decide), hs]
  rw [buildBearerChallenge, String.toList_ofList, Text.all_joinWith (by decide)]
  simp only [List.map_append, List.all_append, hscopePart]
  simp only [List.map_cons, List.map_nil, List.all_cons, List.all_nil,
    all_challengePart (show "Bearer error".toList.all isHeaderChar = true by decide),
    all_challengePart (show "error_description".toList.all isHeaderChar = true by decide),
    all_challengePart (show "resource_metadata".toList.all isHeaderChar = true by decide),
    all_challengeDescription, hurl, hcode, Bool.true_and, Bool.and_true]

omit [Text.Unicode] in
/-- The path of the metadata is longer than the path of the server. -/
theorem getMetadataPath_ne (path : String) : getMetadataPath path ≠ normalizePath path := by
  intro h
  have hlength := congrArg String.length h
  unfold getMetadataPath at hlength
  dsimp only at hlength
  split at hlength
  · rename_i hroot
    rw [hroot] at hlength
    revert hlength
    decide
  · rw [String.length_append, show "/.well-known/oauth-protected-resource".length = 37 by decide] at hlength
    omega

omit [Text.Unicode] in
theorem normalizePath_normalizePath (path : String) :
    normalizePath (normalizePath path) = normalizePath path := by
  by_cases hempty : path = ""
  · rw [hempty]
    decide
  · by_cases hslash : ['/'].isPrefixOf path.toList
    · rw [normalizePath, normalizePath, if_neg hempty, if_pos hslash, if_neg hempty, if_pos hslash]
    · have hlong : normalizePath path = "/" ++ path := by
        rw [normalizePath, if_neg hempty, if_neg hslash]
      have hne : "/" ++ path ≠ "" := fun e => by
        have hlist := congrArg String.toList e
        rw [String.toList_append] at hlist
        cases hlist
      have hprefix : ['/'].isPrefixOf ("/" ++ path).toList = true := by
        rw [String.toList_append]
        rfl
      rw [hlong, normalizePath, if_neg hne, if_pos hprefix]

omit [Text.Unicode] in
/-- A request for the server is none for its metadata. -/
theorem mcpPath_ne (options : HttpServerOptions) :
    options.mcpPath ≠ getMetadataPath options.mcpPath := by
  intro h
  refine getMetadataPath_ne options.mcpPath (h.symm.trans ?_)
  rw [HttpServerOptions.mcpPath, normalizePath_normalizePath]

omit [Text.Unicode] in
/-- The scopes of a challenge are printable. -/
theorem all_requiredScopes (required : List ProxmoxMcpScope) :
    (Text.joinWith [' '] (required.map fun scope => scope.text.toList)).all isHeaderChar = true := by
  rw [Text.all_joinWith (by decide), List.all_map, List.all_eq_true]
  intro scope _
  cases scope <;> decide

/-- The message of a failure as it is written for the client. -/
structure BearerAuthFailure.Plain (failure : BearerAuthFailure) : Prop where
  code : failure.code.toList.all isHeaderChar = true
  scope : ∀ s ∈ failure.scope, s.toList.all isHeaderChar = true

omit [Text.Unicode] in
theorem plain_missingToken : missingToken.Plain where
  code := by decide
  scope s hs := by cases hs

theorem plain_verificationFailure (options : OidcJwtVerifierOptions) (message : String) :
    (verificationFailure options message).Plain ∧
      (verificationFailure options message).description = message := by
  unfold verificationFailure
  split
  · refine ⟨⟨show "insufficient_scope".toList.all isHeaderChar = true by decide, fun s hs => ?_⟩, rfl⟩
    obtain ⟨required, -, rfl⟩ := Option.map_eq_some_iff.mp hs
    rw [String.toList_ofList]
    exact all_requiredScopes required
  · exact ⟨⟨show "invalid_token".toList.all isHeaderChar = true by decide, fun s hs => by cases hs⟩,
      rfl⟩

omit [Text.Unicode] in
theorem writeFailure_thrown {failure : BearerAuthFailure}
    (hurl : options.metadataUrl.toList.all isHeaderChar = true) (hplain : failure.Plain) :
    (∃ m, writeFailure options failure = .thrown m) ↔ Unprintable failure.description := by
  rw [writeFailure, writeText_thrown, unprintable_iff, unprintable_iff,
    all_buildBearerChallenge hurl hplain.code hplain.scope]

/-- **A request is refused** because it carries no token, or because its token is. -/
theorem authenticateRequest_error {P : Platform} {header : Option String}
    {failure : BearerAuthFailure}
    (herror : P.authenticateRequest auth jwks nowMs header = .error failure) :
    failure = missingToken ∨ ∃ text token m, header = some text ∧ CarriesToken text token ∧
      P.verifyToken auth jwks nowMs token = .error m ∧ failure = verificationFailure auth m := by
  unfold Platform.authenticateRequest at herror
  cases hheader : header.bind bearerToken with
  | none =>
    rw [hheader] at herror
    exact .inl (Except.error.inj herror).symm
  | some rest =>
    rw [hheader] at herror
    dsimp only at herror
    obtain ⟨text, htext, hrest⟩ := Option.bind_eq_some_iff.mp hheader
    split at herror
    · exact .inl (Except.error.inj herror).symm
    · split at herror
      · cases herror
      · rename_i m hverify
        exact .inr ⟨text, _, m, htext, ⟨rest, hrest, rfl⟩, hverify, (Except.error.inj herror).symm⟩

/-- A request with a token ends as the token does. -/
theorem authenticateRequest_carries {P : Platform} {text token : String}
    (hcarries : CarriesToken text token) (hne : token ≠ "") :
    P.authenticateRequest auth jwks nowMs (some text) =
      (P.verifyToken auth jwks nowMs token).mapError (verificationFailure auth) := by
  obtain ⟨rest, hrest, rfl⟩ := hcarries
  unfold Platform.authenticateRequest
  rw [Option.bind_some, hrest]
  dsimp only
  rw [if_neg hne]
  cases P.verifyToken auth jwks nowMs (String.ofList (Text.trim rest)) <;> rfl

omit [Text.Unicode] in
theorem writeText_not_thrown {code : Nat} {text name value m : String}
    (hprintable : value.toList.all isHeaderChar = true) :
    writeText code text [(name, value)] ≠ .thrown m := by
  intro h
  have hbad := writeText_thrown.mp ⟨m, h⟩
  rw [unprintable_iff, hprintable] at hbad
  cases hbad

omit [Text.Unicode] in
/-- The end of the handler does not throw. -/
theorem handOver_not_thrown {P : Platform} {granted : Option VerifiedBearerToken} {m : String} :
    P.handOver msg granted ≠ .thrown m := by
  unfold Platform.handOver
  split
  · exact writeText_not_thrown (by decide)
  · split
    · exact fun h => by cases h
    · split
      · exact fun h => by cases h
      · exact fun h => by cases h

/-- Only a refusal is thrown out of the handler. -/
theorem handle_thrown_iff :
    (∃ m, P.handle options jwks nowMs msg = .thrown m) ↔
      P.pathname (msg.url.getD "/") = some options.mcpPath ∧
        ∃ failure, P.authenticate options jwks nowMs msg = .error failure ∧
          ∃ m, writeFailure options failure = .thrown m := by
  unfold HttpPlatform.handle
  cases hpathname : P.pathname (msg.url.getD "/") with
  | none =>
    refine iff_of_false (fun h => ?_) (fun h => ?_)
    · obtain ⟨m, h⟩ := h
      cases h
    · cases h.1
  | some pathname =>
    dsimp only
    rw [Option.some.injEq]
    split
    · rename_i hmetadata
      refine iff_of_false (fun h => ?_) (fun h => ?_)
      · obtain ⟨m, h⟩ := h
        split at h <;> cases h
      · exact mcpPath_ne options (h.1.symm.trans hmetadata.2)
    · split
      · rename_i hother
        refine iff_of_false (fun h => ?_) (fun h => hother h.1)
        obtain ⟨m, h⟩ := h
        cases h
      · rename_i hpath
        rw [not_not] at hpath
        cases hauth : P.authenticate options jwks nowMs msg with
        | error failure => simp [hpath]
        | ok granted =>
          refine iff_of_false (fun h => ?_) (fun h => ?_)
          · obtain ⟨m, h⟩ := h
            exact handOver_not_thrown h
          · obtain ⟨-, failure, h, -⟩ := h
            cases h

omit [Text.Unicode] in
theorem not_unprintable {text : String} (h : text.toList.all isHeaderChar = true) :
    ¬ Unprintable text := by
  rw [unprintable_iff, h]
  decide

omit [Text.Unicode] in
/-- The empty token is refused as it should be. -/
theorem verifyToken_empty {P : Platform} :
    P.verifyToken auth jwks nowMs "" = .error "Bearer token is not a JWT" := rfl

/-- A token that is refused with such a message leaves the request open. -/
theorem throws_of_refused {text token m : String}
    (hurl : options.metadataUrl.toList.all isHeaderChar = true)
    (hpath : P.pathname (msg.url.getD "/") = some options.mcpPath) (hauth : options.auth = some auth)
    (htext : msg.authorization = some text) (hcarries : CarriesToken text token)
    (hverify : P.verifyToken (options.verifier auth) jwks nowMs token = .error m)
    (hbad : Unprintable m) : ∃ m, P.handle options jwks nowMs msg = .thrown m := by
  have hne : token ≠ "" := by
    rintro rfl
    rw [verifyToken_empty] at hverify
    cases hverify
    exact not_unprintable (by decide) hbad
  obtain ⟨hplain, hdescription⟩ := plain_verificationFailure (options.verifier auth) m
  refine handle_thrown_iff.mpr ⟨hpath, verificationFailure (options.verifier auth) m, ?_, ?_⟩
  · unfold Platform.authenticate
    rw [hauth, htext]
    dsimp only
    rw [authenticateRequest_carries hcarries hne, hverify]
    rfl
  · rw [writeFailure_thrown hurl hplain, hdescription]
    exact hbad

/-- **The handler throws while it answers exactly where a token is refused with a message that no
    header can carry.** -/
theorem handle_throws_iff (hurl : options.metadataUrl.toList.all isHeaderChar = true) :
    (∃ m, P.handle options jwks nowMs msg = .thrown m) ↔
      P.pathname (msg.url.getD "/") = some options.mcpPath ∧
        ∃ auth text token m, options.auth = some auth ∧ msg.authorization = some text ∧
          CarriesToken text token ∧ P.verifyToken (options.verifier auth) jwks nowMs token = .error m ∧
          Unprintable m := by
  constructor
  · intro hthrows
    obtain ⟨hpath, failure, hfailure, hthrown⟩ := handle_thrown_iff.mp hthrows
    refine ⟨hpath, ?_⟩
    unfold Platform.authenticate at hfailure
    cases hauth : options.auth with
    | none =>
      rw [hauth] at hfailure
      cases hfailure
    | some auth =>
      rw [hauth] at hfailure
      have herror : P.authenticateRequest (options.verifier auth) jwks nowMs msg.authorization =
          .error failure := by
        cases hrequest : P.authenticateRequest (options.verifier auth) jwks nowMs
            msg.authorization with
        | ok verified =>
          simp only [hrequest] at hfailure
          cases hfailure
        | error failure' =>
          simp only [hrequest] at hfailure
          exact congrArg Except.error (Except.error.inj hfailure)
      rcases authenticateRequest_error herror with rfl | ⟨text, token, m, htext, hcarries, hverify, rfl⟩
      · exact absurd ((writeFailure_thrown hurl plain_missingToken).mp hthrown)
          (not_unprintable (show "Missing bearer token".toList.all isHeaderChar = true by decide))
      · obtain ⟨hplain, hdescription⟩ := plain_verificationFailure (options.verifier auth) m
        have hbad := (writeFailure_thrown hurl hplain).mp hthrown
        rw [hdescription] at hbad
        exact ⟨auth, text, token, m, rfl, htext, hcarries, hverify, hbad⟩
  · intro hparts
    obtain ⟨hpath, auth, text, token, m, hauth, htext, hcarries, hverify, hbad⟩ := hparts
    exact throws_of_refused hurl hpath hauth htext hcarries hverify hbad

/-! ## 7. A forged token -/

/-- A text begins with itself, up to case. -/
theorem prefixFold_itself : ∀ w s : List Char, prefixFold w (w ++ s) = true
  | [], _ => rfl
  | c :: w, s => by
      rw [List.cons_append, prefixFold, prefixFold_itself w s, Bool.and_true]
      exact beq_self_eq_true _

/-- **A token without spaces is carried** behind `Bearer`. -/
theorem carriesToken_bearer {token : String} (hplain : ∀ c ∈ token.toList, Text.isSpace c = false) :
    CarriesToken ("Bearer " ++ token) token := by
  have hspace : token.toList.dropWhile Text.isSpace = token.toList := by
    cases hlist : token.toList with
    | nil => rfl
    | cons c s =>
      have hc := hplain c (by rw [hlist]; exact List.mem_cons_self)
      rw [List.dropWhile_cons_of_neg (by rw [hc]; decide)]
  have htrim : Text.trim token.toList = token.toList :=
    Text.trim_eq_self (fun c hc => hplain c (List.mem_of_head? hc))
      fun c hc => hplain c (List.mem_of_getLast? hc)
  refine ⟨token.toList, ?_, by rw [htrim, String.ofList_toList]⟩
  have hlist : ("Bearer " ++ token).toList = "Bearer".toList ++ ' ' :: token.toList := by
    rw [String.toList_append]
    rfl
  rw [bearerToken, hlist, if_pos (prefixFold_itself _ _)]
  exact congrArg some hspace

/-- A token that nobody signed; its issuer is the euro sign. -/
def forgedToken : String := "eyJhbGciOiJSUzI1NiJ9.eyJpc3MiOiLigqwifQ."

omit [Text.Unicode] in
theorem parse_forged :
    parse (segmentText "eyJhbGciOiJSUzI1NiJ9".toList) = some (.obj [("alg", .str "RS256")]) ∧
      parse (segmentText "eyJpc3MiOiLigqwifQ".toList) = some (.obj [("iss", .str "€")]) := by
  decide +kernel

omit [Text.Unicode] in
/-- Its issuer is compared before its signature is. -/
theorem verifyToken_forged {P : Platform} {issuer : String}
    (hissuer : P.toUrl auth.issuer = .ok issuer) (hother : issuer ≠ "€") :
    P.verifyToken auth jwks nowMs forgedToken =
      .error s!"JWT issuer '€' does not match expected issuer '{issuer}'" := by
  have hsplit : Text.splitOn '.' forgedToken.toList =
      ["eyJhbGciOiJSUzI1NiJ9".toList, "eyJpc3MiOiLigqwifQ".toList, []] := by decide
  have hheader := parseJsonSegment_eq_ok (P := P) |>.mpr parse_forged.1
  have hclaims := parseJsonSegment_eq_ok (P := P) |>.mpr parse_forged.2
  have hne : (Value.str "€").strictEquals (.str issuer) = false := by
    rw [Bool.eq_false_iff, ne_eq, Value.strictEquals_str]
    exact fun e => hother (Value.str.inj e).symm
  have hcheck : checkIssuer issuer (.str "€") =
      .error s!"JWT issuer '€' does not match expected issuer '{issuer}'" := by
    rw [checkIssuer, hne]
    rfl
  have hread : readProperty (.obj [("iss", .str "€")]) "iss" = .ok (.str "€") := by decide
  have hvalidate : P.validateClaims auth nowMs (.obj [("iss", .str "€")]) =
      .error s!"JWT issuer '€' does not match expected issuer '{issuer}'" := by
    simp only [Platform.validateClaims, hissuer, hread, hcheck, Bind.bind, Except.bind]
  have halg : readProperty (.obj [("alg", .str "RS256")]) "alg" = .ok (.str "RS256") := by decide
  have htruthy : failIf (!(Value.str "RS256").truthy) "JWT header is missing alg" = .ok () := by decide
  simp only [Platform.verifyToken, Platform.verifySignature, hsplit, Platform.verifySegments, hheader,
    hclaims, hvalidate, halg, htruthy, Bind.bind, Except.bind]

omit [Text.Unicode] in
/-- The message that refuses it carries the euro sign. -/
theorem unprintable_forged (issuer : String) :
    Unprintable s!"JWT issuer '€' does not match expected issuer '{issuer}'" := by
  refine ⟨'€', ?_, by decide⟩
  simp only [toString, String.toList_append, List.mem_append]
  exact .inl (.inl (by decide))

theorem carriesToken_forged : CarriesToken ("Bearer " ++ forgedToken) forgedToken := by
  have hplain : (forgedToken.toList.all fun c => !Text.isSpace c) = true := by decide
  exact carriesToken_bearer fun c hc => by simpa using List.all_eq_true.mp hplain c hc

/-- **Whoever can reach the server leaves a request open with it**, whatever the keys are. -/
theorem forgedToken_throws (hurl : options.metadataUrl.toList.all isHeaderChar = true)
    (hauth : options.auth = some auth) {issuer : String} (hissuer : P.toUrl auth.issuer = .ok issuer)
    (hother : issuer ≠ "€") (hpath : P.pathname (msg.url.getD "/") = some options.mcpPath)
    (hheader : msg.authorization = some ("Bearer " ++ forgedToken)) :
    ∃ m, P.handle options jwks nowMs msg = .thrown m :=
  throws_of_refused hurl hpath hauth hheader carriesToken_forged (verifyToken_forged hissuer hother)
    (unprintable_forged issuer)

/-- **A POST with an accepted token is handed over** with the token. -/
theorem handle_accepted {token : String} {verified : VerifiedBearerToken}
    (hauth : options.auth = some auth) (hpath : P.pathname (msg.url.getD "/") = some options.mcpPath)
    (hmethod : msg.method = some "POST") (hempty : msg.chunks = [])
    (hheader : msg.authorization = some ("Bearer " ++ token))
    (hplain : ∀ c ∈ token.toList, Text.isSpace c = false) (hne : token ≠ "")
    (haccepted : P.verifyToken (options.verifier auth) jwks nowMs token = .ok verified) :
    P.handle options jwks nowMs msg = .handed (some verified) .undefined := by
  have hcarries := carriesToken_bearer hplain
  have hrequest : P.authenticate options jwks nowMs msg = .ok (some verified) := by
    unfold Platform.authenticate
    rw [hauth, hheader]
    dsimp only
    rw [authenticateRequest_carries hcarries hne, haccepted]
    rfl
  have hover : P.handOver msg (some verified) = .handed (some verified) .undefined := by
    unfold Platform.handOver Platform.readRequestBody
    rw [hmethod, hempty]
    rfl
  unfold HttpPlatform.handle
  rw [hpath, hrequest, hmethod]
  dsimp only
  rw [if_neg (by simp), if_neg (by simp), hover]

end Handler

/-! ## 8. What a request does -/

/-- What the transport is asked for in a body. -/
inductive Asked where
  | tool (call : ToolCall)
  | resource (read : ResourceRead)

/-- The scopes it needs. -/
def Asked.scopes : Asked → List ProxmoxMcpScope
  | .tool asked => asked.scopes
  | .resource _ => []

/-- What the transport does about it, with the token that is on the request. -/
def Asked.perform (S : Service) (execution : Execution) (granted : Option VerifiedBearerToken) :
    Asked → M Unit
  | .tool asked => S.callTool (granted.map fun token => token.scopes) execution asked
  | .resource read => read.perform S execution.rounds

/-- **The header carries a token that is signed under a key of the set, whose claims pass and name
    the scopes.** -/
def Platform.Authorizes (P : Platform) (auth : OidcJwtVerifierOptions)
    (jwks : Except String (List Value)) (nowMs : Nat) (header : Option String)
    (scopes : List ProxmoxMcpScope) : Prop :=
  ∃ text token keys claims, header = some text ∧ CarriesToken text token ∧ jwks = .ok keys ∧
    P.ClaimsPass auth nowMs claims ∧
    P.Signed keys (fun header key => MayVerify header keys key) token claims ∧
    ∀ scope ∈ scopes, NamesScope (scopeClaim claims) scope

/-- A verified token authorizes what its scopes allow. -/
theorem authorizes_of_verified {P : Platform} {auth : OidcJwtVerifierOptions}
    {jwks : Except String (List Value)} {nowMs : Nat} {header : Option String}
    {verified : VerifiedBearerToken} {scopes : List ProxmoxMcpScope}
    (hok : P.authenticateRequest auth jwks nowMs header = .ok verified)
    (hscopes : scopes ⊆ verified.scopes) : P.Authorizes auth jwks nowMs header scopes := by
  obtain ⟨text, token, htext, hcarries, hverify⟩ := authenticateRequest_ok hok
  obtain ⟨claims, hclaims, hgrant⟩ := bind_eq_ok.mp hverify
  obtain ⟨keys, hkeys, -, hpass, hsigned⟩ := verifySignature_eq_ok.mp hclaims
  refine ⟨text, token, keys, claims, htext, hcarries, hkeys, hpass, hsigned, fun scope hscope => ?_⟩
  obtain ⟨-, -, hgranted, -⟩ := grantToken_eq_ok hgrant
  rw [← mem_parseProxmoxMcpScopes, ← hgranted]
  exact hscopes hscope

/-- **Every effect of a request rests on a signed token that names the scopes of what it does.** -/
theorem served_effect (P : HttpPlatform) (options : HttpServerOptions)
    (auth : OidcJwtVerifierOptions) (hauth : options.auth = some auth) (S : Service)
    (hmode : S.config.mcpAuth = .oidc) (jwks : Except String (List Value)) (nowMs : Nat)
    (msg : IncomingMessage) (granted : Option VerifiedBearerToken) (body : Value)
    (hhanded : P.handle options jwks nowMs msg = .handed granted body) (execution : Execution)
    (asked : Asked) (t : History) (o : Outcome String Unit)
    (hrun : Run (asked.perform S execution granted) t o) (heffect : t ≠ []) :
    P.Authorizes (options.verifier auth) jwks nowMs msg.authorization asked.scopes := by
  have hgranted := handle_handed hhanded
  unfold Platform.authenticate at hgranted
  rw [hauth] at hgranted
  dsimp only at hgranted
  cases hrequest : P.authenticateRequest (options.verifier auth) jwks nowMs msg.authorization with
  | error failure =>
    rw [hrequest] at hgranted
    cases hgranted
  | ok verified =>
    rw [hrequest] at hgranted
    cases hgranted
    refine authorizes_of_verified hrequest ?_
    cases asked with
    | resource read => exact List.nil_subset _
    | tool call =>
      rcases callTool_run hrun with ⟨hscoped, -⟩ | ⟨-, hnone, -⟩
      · obtain ⟨scopes, hscopes, hsub⟩ := hscoped hmode
        cases hscopes
        exact hsub
      · exact absurd hnone heffect

/-- What the platform of HttpAuth.lean is told of URLs. -/
def exampleHttpPlatform : HttpPlatform := { examplePlatform with pathname := some }

/-- A server with the verifier of HttpAuth.lean. -/
def exampleHttpOptions : HttpServerOptions where
  publicUrl := "http://127.0.0.1:3000/mcp"
  publicHost := "127.0.0.1:3000"
  publicProtocol := "http:"
  metadataUrl := "http://127.0.0.1:3000/.well-known/oauth-protected-resource/mcp"
  auth := some exampleVerifier

/-- A POST with that token. -/
def examplePost (token : String) : IncomingMessage where
  method := some "POST"
  url := some "/mcp"
  authorization := some ("Bearer " ++ token)

omit [Text.Unicode] in
/-- There is no space in a token of the compact form. -/
theorem compactJwt_plain (header claims : Value) (signature : List UInt8) :
    ∀ c ∈ (compactJwt header claims signature).toList, Text.isSpace c = false := by
  have hspaces : ∀ c, Text.isSpace c = true →
      Base64.isStandard c = false ∧ c ≠ '-' ∧ c ≠ '_' ∧ c ≠ '.' := by
    intro c hc
    simp only [Text.isSpace, decide_eq_true_eq] at hc
    have hall := (List.all_eq_true (p := fun c => !Base64.isStandard c && c != '-' && c != '_' &&
      c != '.')).mp (by decide) c hc
    simpa [and_assoc] using hall
  intro c hc
  by_contra hspace
  obtain ⟨hstandard, hminus, hscore, hdot⟩ := hspaces c (Bool.not_eq_false _ |>.mp hspace)
  have habsent : ∀ b, c ∉ Base64.base64url b := fun b =>
    Base64.not_mem_base64url b hstandard hminus hscore
  simp [compactJwt, habsent, hdot] at hc

omit [Text.Unicode] in
theorem compactJwt_ne_empty (header claims : Value) (signature : List UInt8) :
    compactJwt header claims signature ≠ "" := by
  intro e
  have hlist := congrArg String.toList e
  simp [compactJwt] at hlist

/-- The token that was signed for the ping. -/
def pingToken : String := compactJwt exampleHeader exampleExpiring (decodeBase64Url
  "y6tKPgwXgDFQuZHhTBo5EXWoQjqC2UX_8jOSR6pl3dzxpf3tHcYrx6YmbcdArcoj5Kigu9CKP6Rv3GZCaEejrQ".toList)

omit [Text.Unicode] in
theorem accepted_pingToken : ∃ verified, examplePlatform.verifyToken
    (exampleHttpOptions.verifier exampleVerifier) (.ok [exampleJwk]) 1700000000000 pingToken =
      .ok verified ∧ verified.claims = exampleExpiring := by
  have hpass : examplePlatform.ClaimsPass (exampleHttpOptions.verifier exampleVerifier)
      1700000000000 exampleExpiring :=
    ⟨⟨_, rfl, by decide⟩, .inl (by decide), by decide +kernel, by decide⟩
  exact verifyToken_succeeds.mpr ⟨by decide, hpass, exampleSigned_signed List.mem_cons_self
    exampleExpiring_writes exampleJwk_mayVerify, fun _ h => absurd h List.not_mem_nil, _, rfl⟩

omit [Text.Unicode] in
theorem served_effect_ping :
    letI := Text.asciiCase
    examplePlatform.Authorizes (exampleHttpOptions.verifier exampleVerifier) (.ok [exampleJwk])
      1700000000000 (examplePost pingToken).authorization [.read] := by
  let := Text.asciiCase
  obtain ⟨verified, haccepted, hclaims⟩ := accepted_pingToken
  have hhanded := @handle_accepted _ exampleHttpPlatform exampleHttpOptions (.ok [exampleJwk])
    1700000000000 (examplePost pingToken) exampleVerifier pingToken verified rfl rfl rfl rfl rfl
    (compactJwt_plain _ _ _) (compactJwt_ne_empty _ _ _) haccepted
  have hscopes : verified.scopes = [.read] := by
    obtain ⟨claims, -, hgrant⟩ := bind_eq_ok.mp haccepted
    obtain ⟨-, hgranted, hparsed, -⟩ := grantToken_eq_ok hgrant
    rw [hparsed, ← hgranted, hclaims]
    decide +kernel
  have hrun : Run ((Asked.tool pingTool).perform oidcService { rounds := 1 } (some verified))
      pingRun.1 pingRun.2 := by
    show Run (oidcService.callTool (some verified.scopes) { rounds := 1 } pingTool) _ _
    rw [hscopes]
    exact run_replay ..
  have hlength : pingRun.1.length ≠ 0 := by decide +kernel
  have hping : (Asked.tool pingTool).scopes = [.read] := rfl
  rw [← hping]
  exact served_effect exampleHttpPlatform exampleHttpOptions exampleVerifier rfl oidcService rfl
    (.ok [exampleJwk]) 1700000000000 (examplePost pingToken) (some verified) .undefined hhanded
    { rounds := 1 } (.tool pingTool) pingRun.1 pingRun.2 hrun fun e => hlength (by rw [e]; rfl)

omit [Text.Unicode] in
/-- **A forged token leaves the example open.** -/
theorem forgedToken_throws_example :
    letI := Text.asciiCase
    ∃ m, exampleHttpPlatform.handle exampleHttpOptions (.error "offline") 0
      (examplePost forgedToken) = .thrown m := by
  let := Text.asciiCase
  exact forgedToken_throws (by decide) rfl rfl (by decide) rfl rfl

omit [Text.Unicode] in
theorem handle_throws_iff_forged :
    letI := Text.asciiCase
    ∃ m, exampleHttpPlatform.handle exampleHttpOptions (.ok [exampleJwk]) 1700000000000
      (examplePost forgedToken) = .thrown m := by
  let := Text.asciiCase
  exact (handle_throws_iff (by decide)).mpr ⟨rfl, exampleVerifier, _, forgedToken, _, rfl, rfl,
    carriesToken_forged, verifyToken_forged rfl (by decide), unprintable_forged _⟩

end ProxmoxMcp
