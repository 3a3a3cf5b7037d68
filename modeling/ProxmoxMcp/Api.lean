/-
  File:      ProxmoxMcp/Api.lean
  Subject:   THE REST CLIENT (`api.ts`): the request that is built from a method, a path and
             arguments, and the payload that is read off a reply.

  What goes over the wire is the parsed URL and the body; timeouts and abort signals only decide
  whether a reply arrives at all.
-/
import ProxmoxMcp.Config
import ProxmoxMcp.Schema

namespace ProxmoxMcp

open Js

variable [Text.Unicode]

/-! ## 1. Parameters -/

/-- `encodeFormValue`. -/
def encodeFormValue : Value → List Char
  | .bool true => ['1']
  | .bool false => ['0']
  | v => if v.isObject then (stringifyText v).toList else textOf v

/-- `appendParam`: an array repeats the key, any other value replaces what the key had. -/
def appendParam (params : List (List Char × List Char)) (arg : String × Value) :
    List (List Char × List Char) :=
  match arg.2 with
  | .arr vs => vs.foldl (fun ps v => Url.appendPair arg.1.toList (encodeFormValue v) ps) params
  | v => Url.setPair arg.1.toList (encodeFormValue v) params

/-- Does the argument write anything? -/
def writesParam (arg : String × Value) : Bool :=
  match arg.2 with
  | .arr [] => false
  | _ => true

/-- The pairs of one argument. -/
def argPairs (arg : String × Value) : List (List Char × List Char) :=
  match arg.2 with
  | .arr vs => vs.map fun v => (arg.1.toList, encodeFormValue v)
  | v => [(arg.1.toList, encodeFormValue v)]

/-! ## 2. Requests -/

/-- What is sent: method, URL and form body. -/
structure RestRequest where
  method : String
  url : Url.Parsed
  body : Option (List Char) := none
  deriving DecidableEq, Repr

/-- The parameters the server reads: those of the query and those of the form. -/
def RestRequest.params (r : RestRequest) : List (List Char × List Char) :=
  Url.parseForm (r.url.tail.query.getD []) ++ Url.parseForm (r.body.getD [])

/-- `baseUrl`. -/
def baseUrl (cluster : ClusterConfig) (pathname : String) : List Char :=
  (cluster.apiUrl.toList.reverse.dropWhile (· = '/')).reverse ++ "/api2/json".toList ++
    pathname.toList

/-- The part of `request` before it is sent: `url` and `body`. -/
def buildRequest (cluster : ClusterConfig) (method pathname : String)
    (args : List (String × Value)) : Except String RestRequest :=
  let upperMethod := Text.toUpperCase method
  match Url.parseHttps (baseUrl cluster pathname) with
  | none => .error "Invalid URL"
  | some url =>
    if upperMethod = "GET" ∨ upperMethod = "DELETE" then
      -- every write to `url.searchParams` writes the whole query anew
      let query := args.foldl appendParam (Url.parseForm (url.tail.query.getD []))
      if args.any writesParam then
        .ok ⟨upperMethod, { url with tail := { url.tail with query := some (Url.serializeForm query) } },
          none⟩
      else .ok ⟨upperMethod, url, none⟩
    else .ok ⟨upperMethod, url, some (Url.serializeForm (args.foldl appendParam []))⟩

omit [Text.Unicode] in
/-- There is no slash to take off an API URL: the authority ends it. -/
theorem baseUrl_eq (cluster : ClusterConfig) (pathname : String) :
    baseUrl cluster pathname = "https://".toList ++ cluster.authority.val.toList ++
      '/' :: ("api2/json".toList ++ pathname.toList) := by
  have ha := cluster.authority.property
  have hbase : (cluster.apiUrl.toList.reverse.dropWhile (· = '/')).reverse =
      "https://".toList ++ cluster.authority.val.toList := by
    have htext : cluster.apiUrl.toList = "https://".toList ++ cluster.authority.val.toList := by
      rw [ClusterConfig.apiUrl, String.toList_append]
    rw [htext, List.reverse_append]
    rcases hr : cluster.authority.val.toList.reverse with _ | ⟨c, r⟩
    · exact absurd (List.reverse_eq_nil_iff.mp hr) ha.1
    · have hc : c ≠ '/' := by
        rintro rfl
        have := (ha.2 '/' (List.mem_reverse.mp (by rw [hr]; exact List.mem_cons_self))).1
        revert this
        decide
      rw [List.cons_append, List.dropWhile_cons_of_neg (by simp [hc]), ← List.cons_append, ← hr]
      simp
  rw [baseUrl, hbase]
  simp

/-- **Every path makes a request.** -/
theorem exists_buildRequest (cluster : ClusterConfig) (method pathname : String)
    (args : List (String × Value)) : ∃ r, buildRequest cluster method pathname args = .ok r := by
  have hurl := Url.parseHttps_path cluster.authority.property
    ("api2/json".toList ++ pathname.toList)
  simp only [buildRequest, baseUrl_eq, hurl]
  split
  · split <;> exact ⟨_, rfl⟩
  · exact ⟨_, rfl⟩

/-! ## 3. Replies -/

/-- An HTTP reply. -/
structure HttpReply where
  status : Nat
  text : String
  deriving DecidableEq, Repr

/-- `response.ok`. -/
def HttpReply.ok (r : HttpReply) : Bool := 200 ≤ r.status ∧ r.status < 300

/-- The payload: nothing, JSON, or the text as it came. -/
def HttpReply.payload (r : HttpReply) : Value :=
  if r.text = "" then .undefined
  else match Js.parse r.text with
    | some v => v
    | none => .str r.text

/-- `{ data: … }` unwrapped, anything else as it is. -/
def unwrapData (payload : Value) : Value :=
  match payload with
  | .obj ps => if hasKey "data" ps then lookup "data" ps else payload
  | _ => payload

/-- The end of `request`: the data, or the failure with method, path, status and payload. -/
def readReply (method pathname : String) (r : HttpReply) : Except String Value :=
  if r.ok then .ok (unwrapData r.payload)
  else .error s!"Proxmox API {Text.toUpperCase method} {pathname} failed: {r.status} {stringifyText r.payload}"

/-- `isUpid`. -/
def isUpid : Value → Option String
  | .str s => if "UPID:".toList.isPrefixOf s.toList then some s else none
  | _ => none

/-! ## 4. Parameters survive the wire -/

omit [Text.Unicode] in
theorem foldl_appendPair (key : List Char) : ∀ (vs : List Value)
    (params : List (List Char × List Char)),
    vs.foldl (fun ps v => Url.appendPair key (encodeFormValue v) ps) params =
      params ++ vs.map fun v => (key, encodeFormValue v)
  | [], params => by simp
  | v :: vs, params => by
      rw [List.foldl_cons, foldl_appendPair key vs, Url.appendPair, List.append_assoc]
      rfl

omit [Text.Unicode] in
/-- An argument under a new key appends its pairs. -/
theorem appendParam_new {params : List (List Char × List Char)} {arg : String × Value}
    (h : ∀ p ∈ params, p.1 ≠ arg.1.toList) : appendParam params arg = params ++ argPairs arg := by
  unfold appendParam argPairs
  split
  · exact foldl_appendPair _ _ _
  · exact Url.setPair_new h

omit [Text.Unicode] in
theorem fst_mem_argPairs {arg : String × Value} {p : List Char × List Char}
    (h : p ∈ argPairs arg) : p.1 = arg.1.toList := by
  unfold argPairs at h
  split at h
  · obtain ⟨v, -, rfl⟩ := List.mem_map.mp h
    rfl
  · rw [List.mem_singleton] at h
    rw [h]

omit [Text.Unicode] in
/-- **The arguments of an object, appended one after the other, are their pairs.** -/
theorem foldl_appendParam : ∀ (args : List (String × Value))
    (params : List (List Char × List Char)), DistinctKeys args →
    (∀ p ∈ params, ∀ a ∈ args, p.1 ≠ a.1.toList) →
    args.foldl appendParam params = params ++ args.flatMap argPairs
  | [], params, _, _ => by simp
  | a :: args, params, hd, hp => by
      have ha : a.1 ∉ args.map Prod.fst := (List.nodup_cons.mp hd).1
      rw [List.foldl_cons, appendParam_new fun p h => hp p h a List.mem_cons_self,
        foldl_appendParam args _ (List.nodup_cons.mp hd).2, List.flatMap_cons, List.append_assoc]
      intro p hpm b hb
      rcases List.mem_append.mp hpm with hpm | hpm
      · exact hp p hpm b (List.mem_cons_of_mem _ hb)
      · rw [fst_mem_argPairs hpm]
        intro e
        exact ha (List.mem_map.mpr ⟨b, hb, (String.toList_injective e).symm⟩)

omit [Text.Unicode] in
/-- Arguments that write nothing have no pairs. -/
theorem flatMap_argPairs_eq_nil {args : List (String × Value)} (h : args.any writesParam = false) :
    args.flatMap argPairs = [] := by
  rw [List.flatMap_eq_nil_iff]
  intro a ha
  have hw : writesParam a = false := by
    have := List.any_eq_false.mp h a ha
    simpa using this
  unfold writesParam at hw
  split at hw
  · rename_i e
    simp [argPairs, e]
  · cases hw

/-- **The request for a path without query carries exactly the arguments.** -/
theorem params_buildRequest {cluster : ClusterConfig} {method pathname : String}
    {args : List (String × Value)} {url : Url.Parsed} {r : RestRequest}
    (hargs : DistinctKeys args) (hurl : Url.parseHttps (baseUrl cluster pathname) = some url)
    (hquery : url.tail.query = none) (h : buildRequest cluster method pathname args = .ok r) :
    r.params = args.flatMap argPairs := by
  have hfold := foldl_appendParam args [] hargs (by simp)
  rw [List.nil_append] at hfold
  have hnil : Url.parseForm [] = [] := rfl
  simp only [buildRequest, hurl, hquery, Option.getD_none, hnil, hfold] at h
  split at h
  · split at h
    · cases h
      simp [RestRequest.params, Url.parseForm_serializeForm, hnil]
    · rename_i hw
      cases h
      rw [flatMap_argPairs_eq_nil (by simpa using hw)]
      simp [RestRequest.params, hquery, hnil]
  · cases h
    simp [RestRequest.params, hquery, Url.parseForm_serializeForm, hnil]

/-- The URL of a request is that of its path; only the query is written anew. -/
theorem path_buildRequest {cluster : ClusterConfig} {method pathname : String}
    {args : List (String × Value)} {url : Url.Parsed} {r : RestRequest}
    (hurl : Url.parseHttps (baseUrl cluster pathname) = some url)
    (h : buildRequest cluster method pathname args = .ok r) :
    r.url.tail.path = url.tail.path := by
  simp only [buildRequest, hurl] at h
  split at h
  · split at h <;> cases h <;> rfl
  · cases h
    rfl

end ProxmoxMcp
