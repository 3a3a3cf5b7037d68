/-
  File:      ProxmoxMcp/Endpoint.lean
  Subject:   THE ENDPOINT A REQUEST ADDRESSES, against the endpoint that was validated.

  `validate` matches the path as a string; the client gives the same string to the URL parser.
  `sameEndpoint_iff`: the two mean the same endpoint exactly if the path is a plain path, that is,
  has no `?`, `#` or `\`, no dot segment, and nothing the parser strips.
-/
import ProxmoxMcp.Api

namespace ProxmoxMcp

open Js

variable [Text.Unicode]

/-- **The request addresses the endpoint of the match**: the URL path below `/api2/json` is one of
    the same template with the same parameters, percent-encoded, and the parameters sent are
    those of the arguments. -/
def SameEndpoint (m : ApiMatch) (r : RestRequest) : Prop :=
  ∃ segments, r.url.tail.path = "api2".toList :: "json".toList :: segments ∧
    matchSegments m.descriptor.template.segments segments =
      some (m.pathParams.map Url.encSegment) ∧
    r.params = m.args.flatMap argPairs

omit [Text.Unicode] in
/-- A path that matches a template starts with a slash. -/
theorem exec_slash {t : Template} {path : List Char} {ps : List (List Char)}
    (h : t.exec path = some ps) : ∃ s, path = '/' :: s ∧
      matchSegments t.segments (Text.splitOn '/' s) = some ps := by
  unfold Template.exec at h
  cases path with
  | nil =>
    rcases hs : t.segments with _ | ⟨x, xs⟩
    · exact absurd hs t.nonempty
    · rw [Text.splitOn] at h
      simp only [hs] at h
      cases x <;> cases h
  | cons c s =>
    rw [Text.splitOn] at h
    by_cases hc : c = '/'
    · rw [if_pos hc] at h
      exact ⟨s, by rw [hc], h⟩
    · rw [if_neg hc] at h
      rcases hs : Text.splitOn '/' s with _ | ⟨w, ws⟩
      · exact absurd hs (Text.splitOn_ne_nil _ _)
      · rw [hs] at h
        cases h

omit [Text.Unicode] in
/-- The base URL of a path, as the parser reads it. -/
theorem parseHttps_baseUrl (cluster : ClusterConfig) {pathname : String} {s : List Char}
    (hp : pathname.toList = '/' :: s) :
    Url.parseHttps (baseUrl cluster pathname) = some ⟨cluster.authority.val.toList,
      Url.pathState ["api2".toList, "json".toList] [] (Url.trimmed s)⟩ := by
  have hbase : "api2/json".toList.all (fun c => !Url.isTabOrNewline c) = true := by decide
  have hclean : ∀ c ∈ "api2/json".toList, Url.isTabOrNewline c = false := by
    simpa using List.all_eq_true.mp hbase
  rw [baseUrl_eq, hp, Url.parseHttps_path cluster.authority.property, Url.trimmed_append hclean]
  rfl

/-- `coerceNamed` keeps the keys distinct. -/
theorem distinctKeys_coerceNamed {method : String} {d : MatchedMethod} :
    ∀ {ps : List (String × SchemaProperty)} {args args' : List (String × Value)},
    DistinctKeys args → coerceNamed method d ps args = .ok args' → DistinctKeys args'
  | [], args, args', hd, h => by
      cases h
      exact hd
  | (name, property) :: ps, args, args', hd, h => by
      rw [coerceNamed] at h
      split at h
      · exact distinctKeys_coerceNamed hd h
      · split at h
        · split at h
          · exact distinctKeys_coerceNamed hd h
          · cases h
        · simp only [bind, Except.bind] at h
          split at h
          · cases h
          · exact distinctKeys_coerceNamed (distinctKeys_assign hd) h

theorem keys_coerceIndexed {d : MatchedMethod} : ∀ {args args' : List (String × Value)},
    coerceIndexed d args = .ok args' → args'.map Prod.fst = args.map Prod.fst
  | [], args', h => by
      cases h
      rfl
  | (name, value) :: args, args', h => by
      simp only [coerceIndexed, bind, Except.bind] at h
      split at h
      · cases h
      · split at h
        · cases h
        · rename_i rest hrest
          cases h
          rw [List.map_cons, List.map_cons, keys_coerceIndexed hrest]

/-- What `validateArgs` returns is an object again. -/
theorem distinctKeys_validateArgs {method : String} {d : MatchedMethod}
    {args args' : List (String × Value)} (hd : DistinctKeys args)
    (h : validateArgs method d args = .ok args') : DistinctKeys args' := by
  simp only [validateArgs, bind, Except.bind] at h
  split at h
  · cases h
  · split at h
    · cases h
    · rename_i hnamed
      rw [DistinctKeys, keys_coerceIndexed h]
      exact distinctKeys_coerceNamed hd hnamed

/-- What `validate` returns is an object again. -/
theorem distinctKeys_validate {catalog : List ApiMethodDescriptor} {method path : String}
    {args : List (String × Value)} {m : ApiMatch} (hd : DistinctKeys args)
    (h : validate catalog method path args = .ok m) : DistinctKeys m.args :=
  distinctKeys_validateArgs hd (validate_eq_ok.mp h).2

/-- **The request that is sent addresses the endpoint that was validated exactly if the path is a
    plain path.** -/
theorem sameEndpoint_iff (catalog : List ApiMethodDescriptor) (cluster : ClusterConfig)
    (method path : String) (args : List (String × Value)) (m : ApiMatch)
    (hargs : DistinctKeys args) (h : validate catalog method path args = .ok m) :
    ∃ r, buildRequest cluster method path m.args = .ok r ∧
      (SameEndpoint m r ↔ Url.PlainPath (path.toList.drop 1)) := by
  obtain ⟨-, -, hexec⟩ := validate_ok h
  obtain ⟨s, hp, hmatch⟩ := exec_slash hexec
  have hurl := parseHttps_baseUrl cluster hp
  obtain ⟨r, hr⟩ := exists_buildRequest cluster method path m.args
  refine ⟨r, hr, ?_⟩
  have hpath := path_buildRequest hurl hr
  have hbase : ∀ x ∈ ["api2".toList, "json".toList], '\\' ∉ x := by decide
  rw [hp, List.drop_one, List.tail_cons]
  constructor
  · rintro ⟨segments, hseg, hm, -⟩
    rw [matchSegments_encoded m.descriptor.template.words_plain hmatch] at hm
    rw [← Url.pathState_trimmed_iff _ s hbase]
    rw [hpath, hm] at hseg
    exact hseg
  · intro hplain
    have htail := Url.pathState_trimmed_iff.plain_pathState ["api2".toList, "json".toList] hplain
    rw [hplain.untrimmed, htail] at hurl
    refine ⟨(Text.splitOn '/' s).map Url.encSegment, ?_, ?_, ?_⟩
    · rw [path_buildRequest hurl hr]
      rfl
    · rw [matchSegments_encoded m.descriptor.template.words_plain hmatch]
    · exact params_buildRequest (distinctKeys_validate hargs h) hurl rfl hr

/-- Two endpoints of the schema. -/
def statusEndpoints : List ApiMethodDescriptor :=
  [{ method := "GET"
     template := ⟨[.word "nodes".toList, .param "node", .word "status".toList], by decide, by decide⟩
     properties := [("node", {})]
     additionalProperties := false },
   { method := "POST"
     template := ⟨[.word "nodes".toList, .param "node", .word "status".toList], by decide, by decide⟩
     properties := [("command", { type := some "string" }), ("node", {})]
     additionalProperties := false }]

/-- The cluster of the examples. -/
def exampleCluster : ClusterConfig where
  name := "default"
  authority := ⟨"pve:8006", by decide⟩
  auth := .api_token "root" "pam" "mcp" "s"

/-- The target of the examples. -/
def exampleTarget : TargetRef := { cluster := "default", kind := .cluster }

omit [Text.Unicode] in
/-- A node name with a space is percent-encoded and addresses the node. -/
theorem sameEndpoint_iff_space :
    letI := Text.asciiCase
    ∃ m r, validate statusEndpoints "post" "/nodes/my node/status" [("command", .str "reboot")] =
        .ok m ∧
      buildRequest exampleCluster "post" "/nodes/my node/status" m.args = .ok r ∧
      SameEndpoint m r := by
  let := Text.asciiCase
  have hd : DistinctKeys [("command", Value.str "reboot")] := by simp [DistinctKeys]
  obtain ⟨r, hr, hiff⟩ := sameEndpoint_iff statusEndpoints exampleCluster "post"
    "/nodes/my node/status" [("command", .str "reboot")] _ hd rfl
  exact ⟨_, r, rfl, hr, hiff.mpr (by decide +kernel)⟩

omit [Text.Unicode] in
/-- The node name `..` passes the schema as `/nodes/{node}/status` and is sent to `/status`. -/
theorem sameEndpoint_dots :
    letI := Text.asciiCase
    ∃ m r, validate statusEndpoints "GET" "/nodes/../status" [] = .ok m ∧
      m.pathParams = ["..".toList] ∧
      buildRequest exampleCluster "GET" "/nodes/../status" m.args = .ok r ∧
      r.url.tail.path = ["api2".toList, "json".toList, "status".toList] ∧
      ¬ SameEndpoint m r := by
  let := Text.asciiCase
  refine ⟨_, _, rfl, rfl, rfl, by decide +kernel, ?_⟩
  rintro ⟨segments, hpath, hmatch, -⟩
  have hseg : segments = ["status".toList] := by
    have h : ["api2".toList, "json".toList, "status".toList] =
      "api2".toList :: "json".toList :: segments := hpath
    simpa using h.symm
  rw [hseg] at hmatch
  revert hmatch
  decide +kernel

end ProxmoxMcp
