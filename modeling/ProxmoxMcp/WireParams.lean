/-
  File:      ProxmoxMcp/WireParams.lean
  Subject:   THE PAIRS ON THE WIRE: what of the validated arguments goes into the query of a GET or
             DELETE, or into the form of any other method.

  The form starts empty; the query starts with what the path brings along, and `set` and `append`
  work on that.

  * `rewritten_iff` -- the arguments replace the query of the path exactly if it begins them;
  * `pairsLaw_iff` -- each argument has its pairs, on both channels alike, exactly if none is
    `undefined` or `null` and the query of the path is replaced.
-/
import ProxmoxMcp.Validation

namespace ProxmoxMcp

open Js

variable [Text.Unicode]

/-! ## 1. The two channels -/

/-- The pairs on the wire: those of the form, or those of the query where there is no form. -/
def RestRequest.pairs (r : RestRequest) : List (List Char × List Char) :=
  match r.body with
  | some body => Url.parseForm body
  | none => Url.parseForm (r.url.tail.query.getD [])

/-- The pairs Proxmox is to read for an argument: none for `undefined` and `null`, one for each
    element of an array, one for anything else. -/
def proxmoxPairs (arg : String × Value) : List (List Char × List Char) :=
  match arg.2 with
  | .undefined | .null => []
  | .arr vs => vs.map fun v => (arg.1.toList, encodeFormValue v)
  | v => [(arg.1.toList, encodeFormValue v)]

/-- `url.searchParams` before anything is written: the query that the path brings along. -/
def searchParams (cluster : ClusterConfig) (pathname : String) : List (List Char × List Char) :=
  match Url.parseHttps (baseUrl cluster pathname) with
  | some url => Url.parseForm (url.tail.query.getD [])
  | none => []

omit [Text.Unicode] in
/-- Arguments that write nothing leave the pairs as they are. -/
theorem foldl_appendParam_none {args : List (String × Value)} (h : args.any writesParam = false)
    (params : List (List Char × List Char)) : args.foldl appendParam params = params := by
  induction args generalizing params with
  | nil => rfl
  | cons a args ih =>
    rw [List.any_cons, Bool.or_eq_false_iff] at h
    have ha : appendParam params a = params := by
      have hw := h.1
      unfold writesParam at hw
      split at hw
      · rename_i e
        simp [appendParam, e]
      · cases hw
    rw [List.foldl_cons, ha, ih h.2]

/-- **The pairs of a request**: the arguments written over the query of the path, or into an empty
    form. -/
theorem pairs_buildRequest {cluster : ClusterConfig} {method pathname : String}
    {args : List (String × Value)} {r : RestRequest}
    (h : buildRequest cluster method pathname args = .ok r) :
    r.pairs = args.foldl appendParam
      (if Text.toUpperCase method = "GET" ∨ Text.toUpperCase method = "DELETE" then
        searchParams cluster pathname else []) := by
  rcases hurl : Url.parseHttps (baseUrl cluster pathname) with _ | url
  · simp [buildRequest, hurl] at h
  · have hseed : searchParams cluster pathname = Url.parseForm (url.tail.query.getD []) := by
      rw [searchParams, hurl]
    rw [hseed]
    simp only [buildRequest, hurl] at h
    split at h
    · rename_i hquery
      rw [if_pos hquery]
      split at h
      · cases h
        rw [RestRequest.pairs, Option.getD_some, Url.parseForm_serializeForm]
      · rename_i hw
        cases h
        rw [foldl_appendParam_none (by simpa using hw)]
        rfl
    · rename_i hbody
      rw [if_neg hbody]
      cases h
      exact Url.parseForm_serializeForm _

omit [Text.Unicode] in
theorem argPairs_eq {arg : String × Value} (h : arg.2 ≠ .undefined) (hnull : arg.2 ≠ .null) :
    argPairs arg = proxmoxPairs arg := by
  unfold argPairs proxmoxPairs
  split <;> simp_all

/-! ## 2. Arguments written over a query -/

/-- **The query begins the arguments**: its names, in the order of their first occurrence, are the
    names of the first arguments that write something, and none of those is an array. -/
def Rewritten : List (List Char × List Char) → List (String × Value) → Prop
  | [], _ => True
  | _ :: _, [] => False
  | p :: query, (key, value) :: args =>
      match value with
      | .arr [] => Rewritten (p :: query) args
      | .arr _ => False
      | _ => p.1 = key.toList ∧ Rewritten (query.filter fun q => q.1 ≠ key.toList) args

omit [Text.Unicode] in
/-- `set` behind pairs of other names. -/
theorem setPair_append {key value : List Char} {front back : List (List Char × List Char)}
    (h : ∀ p ∈ front, p.1 ≠ key) :
    Url.setPair key value (front ++ back) = front ++ Url.setPair key value back := by
  induction front with
  | nil => rfl
  | cons p front ih =>
    rw [List.cons_append, Url.setPair, if_neg (h p List.mem_cons_self),
      ih fun q hq => h q (List.mem_cons_of_mem _ hq), List.cons_append]

omit [Text.Unicode] in
/-- The arguments leave the pairs of other names where they are. -/
theorem appendParam_append {front back : List (List Char × List Char)} {a : String × Value}
    (h : ∀ p ∈ front, p.1 ≠ a.1.toList) :
    appendParam (front ++ back) a = front ++ appendParam back a := by
  unfold appendParam
  split
  · rw [foldl_appendPair, foldl_appendPair, List.append_assoc]
  · exact setPair_append h

omit [Text.Unicode] in
theorem foldl_appendParam_append {front : List (List Char × List Char)} :
    ∀ {args : List (String × Value)} {back : List (List Char × List Char)},
    (∀ p ∈ front, ∀ a ∈ args, p.1 ≠ a.1.toList) →
    args.foldl appendParam (front ++ back) = front ++ args.foldl appendParam back
  | [], back, _ => rfl
  | a :: args, back, h => by
      rw [List.foldl_cons, List.foldl_cons,
        appendParam_append fun p hp => h p hp a List.mem_cons_self,
        foldl_appendParam_append fun p hp b hb => h p hp b (List.mem_cons_of_mem _ hb)]

omit [Text.Unicode] in
/-- The first pair keeps its name. -/
theorem appendParam_head {p : List Char × List Char} {query : List (List Char × List Char)}
    {a : String × Value} :
    ∃ q rest, appendParam (p :: query) a = q :: rest ∧ q.1 = p.1 := by
  unfold appendParam
  split
  · rw [foldl_appendPair]
    exact ⟨p, _, rfl, rfl⟩
  · rw [Url.setPair]
    split
    · rename_i h
      exact ⟨_, _, rfl, h.symm⟩
    · exact ⟨p, _, rfl, rfl⟩

omit [Text.Unicode] in
theorem foldl_appendParam_head : ∀ {args : List (String × Value)} {p : List Char × List Char}
    {query : List (List Char × List Char)},
    ∃ q rest, args.foldl appendParam (p :: query) = q :: rest ∧ q.1 = p.1
  | [], p, query => ⟨p, query, rfl, rfl⟩
  | a :: args, p, query => by
      obtain ⟨q, rest, h, hname⟩ := @appendParam_head p query a
      obtain ⟨q', rest', h', hname'⟩ := @foldl_appendParam_head args q rest
      exact ⟨q', rest', by rw [List.foldl_cons, h, h'], hname'.trans hname⟩

omit [Text.Unicode] in
/-- The arguments keep the pairs of names that are not theirs. -/
theorem filter_appendParam {name : List Char} {params : List (List Char × List Char)}
    {a : String × Value} (h : name ≠ a.1.toList) :
    (appendParam params a).filter (fun p => p.1 = name) = params.filter fun p => p.1 = name := by
  unfold appendParam
  split
  · rename_i vs _
    have hnone : (vs.map fun v => (a.1.toList, encodeFormValue v)).filter
        (fun p => p.1 = name) = [] := by
      rw [List.filter_eq_nil_iff]
      intro p hp
      obtain ⟨v, _, rfl⟩ := List.mem_map.mp hp
      simpa using Ne.symm h
    rw [foldl_appendPair, List.filter_append, hnone, List.append_nil]
  · induction params with
    | nil => simp [Url.setPair, Ne.symm h]
    | cons p params ih =>
      rw [Url.setPair]
      split
      · rename_i hp
        have hne : p.1 ≠ name := fun e => h (e.symm.trans hp)
        rw [List.filter_cons_of_neg (by simpa using Ne.symm h), List.filter_cons_of_neg (by simpa),
          List.filter_filter]
        refine List.filter_congr fun q _ => ?_
        by_cases hq : q.1 = name
        · simp [hq, h]
        · simp [hq]
      · rw [List.filter_cons, List.filter_cons, ih]

omit [Text.Unicode] in
theorem filter_foldl_appendParam {name : List Char} : ∀ {args : List (String × Value)}
    {params : List (List Char × List Char)}, (∀ a ∈ args, name ≠ a.1.toList) →
    (args.foldl appendParam params).filter (fun p => p.1 = name) =
      params.filter fun p => p.1 = name
  | [], _, _ => rfl
  | a :: args, params, h => by
      rw [List.foldl_cons, filter_foldl_appendParam fun b hb => h b (List.mem_cons_of_mem _ hb),
        filter_appendParam (h a List.mem_cons_self)]

omit [Text.Unicode] in
/-- A name that is no argument's has no pair among theirs. -/
theorem filter_flatMap_argPairs {name : List Char} {args : List (String × Value)}
    (h : ∀ a ∈ args, name ≠ a.1.toList) :
    (args.flatMap argPairs).filter (fun p => p.1 = name) = [] := by
  rw [List.filter_eq_nil_iff]
  intro p hp
  obtain ⟨a, ha, hpa⟩ := List.mem_flatMap.mp hp
  have hne := h a ha
  rw [← fst_mem_argPairs hpa] at hne
  simpa using Ne.symm hne

omit [Text.Unicode] in
theorem rewritten_nil (args : List (String × Value)) : Rewritten [] args := by
  unfold Rewritten
  trivial

omit [Text.Unicode] in
/-- **The arguments, written over a query, are their own pairs exactly if the query begins them.** -/
theorem rewritten_iff : ∀ {args : List (String × Value)} {query : List (List Char × List Char)},
    DistinctKeys args →
    (args.foldl appendParam query = args.flatMap argPairs ↔ Rewritten query args)
  | args, [], hd => by
      refine iff_of_true ?_ (rewritten_nil args)
      rw [foldl_appendParam args [] hd (by simp), List.nil_append]
  | [], p :: query, _ => by simp [Rewritten]
  | (key, value) :: args, p :: query, hd => by
      have hkeys : ∀ a ∈ args, key.toList ≠ a.1.toList := by
        intro a ha e
        refine (List.nodup_cons.mp hd).1 ?_
        show key ∈ args.map Prod.fst
        rw [String.toList_injective e]
        exact List.mem_map_of_mem ha
      have hargs : DistinctKeys args := (List.nodup_cons.mp hd).2
      rw [List.foldl_cons, List.flatMap_cons]
      -- a scalar takes the place of the first pair, if that is of its name
      have hscalar : ∀ {v : List Char},
          (args.foldl appendParam (Url.setPair key.toList v (p :: query)) =
            [(key.toList, v)] ++ args.flatMap argPairs ↔
          p.1 = key.toList ∧ Rewritten (query.filter fun q => q.1 ≠ key.toList) args) := by
        intro v
        have ih := @rewritten_iff args (query.filter fun q => q.1 ≠ key.toList) hargs
        by_cases hp : p.1 = key.toList
        · have hfront : ∀ q ∈ [(key.toList, v)], ∀ a ∈ args, q.1 ≠ a.1.toList := by
            intro q hq a ha
            rw [List.mem_singleton.mp hq]
            exact hkeys a ha
          rw [Url.setPair, if_pos hp, ← List.singleton_append, foldl_appendParam_append hfront,
            List.append_cancel_left_eq, ih]
          simp [hp]
        · obtain ⟨q, rest, hfold, hname⟩ :=
            @foldl_appendParam_head args p (Url.setPair key.toList v query)
          rw [Url.setPair, if_neg hp, hfold, List.singleton_append, List.cons.injEq]
          refine iff_of_false (fun h => hp ?_) fun h => hp h.1
          rw [← hname, h.1]
      cases value with
      | arr vs =>
        cases vs with
        | nil =>
          have ih := @rewritten_iff args (p :: query) hargs
          simpa [appendParam, argPairs, Rewritten] using ih
        | cons v vs =>
          -- the pairs of the array stand behind the query, and the first of them in front
          refine iff_of_false (fun h => ?_) (by simp [Rewritten])
          have hcount := congrArg
            (fun ps : List (List Char × List Char) => ps.filter fun q => q.1 = key.toList) h
          have hfirst : p.1 = key.toList := by
            obtain ⟨q, rest, hfold, hname⟩ := @foldl_appendParam_head args p
              (query ++ (v :: vs).map fun v => (key.toList, encodeFormValue v))
            rw [← List.cons_append, ← foldl_appendPair] at hfold
            have hhead := congrArg List.head? (hfold.symm.trans h)
            rw [List.head?_cons] at hhead
            rw [← hname, Option.some.inj hhead]
          simp only [appendParam, foldl_appendPair, argPairs, List.filter_append,
            filter_foldl_appendParam hkeys, filter_flatMap_argPairs hkeys, List.append_nil] at hcount
          have hlen := congrArg List.length hcount
          rw [List.length_append, List.filter_cons_of_pos (by simpa using hfirst),
            List.length_cons] at hlen
          omega
      | _ => exact hscalar

/-! ## 3. Each argument on the wire -/

/-- **The wire carries the arguments**: each has its pairs there, and any other method carries the
    same pairs, on either channel. -/
def PairsLaw (cluster : ClusterConfig) (method pathname : String) (args : List (String × Value)) :
    Prop :=
  ∀ r, buildRequest cluster method pathname args = .ok r →
    (∀ a ∈ args, r.pairs.filter (fun p => p.1 = a.1.toList) = proxmoxPairs a) ∧
    ∀ method' r', buildRequest cluster method' pathname args = .ok r' → r'.pairs = r.pairs

omit [Text.Unicode] in
/-- The pairs of one name are those of its argument. -/
theorem filter_argPairs : ∀ {args : List (String × Value)} {a : String × Value},
    DistinctKeys args → a ∈ args →
    (args.flatMap argPairs).filter (fun p => p.1 = a.1.toList) = argPairs a
  | [], _, _, ha => by cases ha
  | b :: args, a, hd, ha => by
      have hb : b.1 ∉ args.map Prod.fst := (List.nodup_cons.mp hd).1
      have hother : ∀ c : String × Value, c.1 ≠ a.1 →
          (argPairs c).filter (fun p => p.1 = a.1.toList) = [] := by
        intro c hne
        rw [List.filter_eq_nil_iff]
        intro p hp
        rw [fst_mem_argPairs hp, decide_eq_true_eq]
        exact fun e => hne (String.toList_injective e)
      rw [List.flatMap_cons, List.filter_append]
      rcases List.mem_cons.mp ha with rfl | ha
      · have hself : (argPairs a).filter (fun p => p.1 = a.1.toList) = argPairs a := by
          rw [List.filter_eq_self]
          intro p hp
          rw [fst_mem_argPairs hp, decide_eq_true_eq]
        have hrest : (args.flatMap argPairs).filter (fun p => p.1 = a.1.toList) = [] := by
          refine filter_flatMap_argPairs fun c hc e => hb ?_
          rw [String.toList_injective e]
          exact List.mem_map_of_mem hc
        rw [hself, hrest, List.append_nil]
      · have hne : b.1 ≠ a.1 := fun e => hb (e ▸ List.mem_map_of_mem ha)
        rw [hother b hne, List.nil_append, filter_argPairs (List.nodup_cons.mp hd).2 ha]

omit [Text.Unicode] in
/-- `undefined` and `null` are written as words. -/
theorem argPairs_absent {a : String × Value} (h : a.2 = .undefined ∨ a.2 = .null) :
    argPairs a ≠ proxmoxPairs a := by
  obtain ⟨key, value⟩ := a
  rcases h with rfl | rfl <;> exact nofun

/-- **Each argument has its pairs on the wire, on both channels alike, exactly if no argument is
    `undefined` or `null` and the path brings no query along that the arguments do not replace.** -/
theorem pairsLaw_iff (cluster : ClusterConfig) (method pathname : String) (d : MatchedMethod)
    (args args' : List (String × Value)) (hnames : (d.properties.map Prod.fst).Nodup)
    (hargs : DistinctKeys args) (h : validateArgs method d args = .ok args') :
    PairsLaw cluster method pathname args' ↔
      (∀ a ∈ args, a.2 ≠ .undefined ∧ a.2 ≠ .null) ∧
        Rewritten (searchParams cluster pathname) args' := by
  have hargs' := distinctKeys_validateArgs hargs h
  have hempty : args'.foldl appendParam [] = args'.flatMap argPairs := by
    rw [foldl_appendParam args' [] hargs' (by simp), List.nil_append]
  have hquery := @rewritten_iff args' (searchParams cluster pathname) hargs'
  -- `validate` keeps what is absent
  have habsent : (∀ a ∈ args', a.2 ≠ .undefined ∧ a.2 ≠ .null) ↔
      ∀ a ∈ args, a.2 ≠ .undefined ∧ a.2 ≠ .null := by
    have hundef := not_congr (validateArgs_absent hnames hargs h (Or.inl rfl))
    have hnull := not_congr (validateArgs_absent hnames hargs h (Or.inr rfl))
    simp only [not_exists, not_and] at hundef hnull
    simp only [forall_and, ne_eq]
    exact and_congr hundef hnull
  rw [← habsent, ← hquery]
  constructor
  · intro hlaw
    obtain ⟨r, hr⟩ := exists_buildRequest cluster method pathname args'
    obtain ⟨hown, hsame⟩ := hlaw r hr
    obtain ⟨rq, hrq⟩ := exists_buildRequest cluster "GET" pathname args'
    obtain ⟨rf, hrf⟩ := exists_buildRequest cluster "POST" pathname args'
    have hget : Text.toUpperCase "GET" = "GET" := by
      rw [Text.toUpperCase, Text.flatMap_upper_ascii (Text.ascii_of_all (by decide))]
      rfl
    have hpost : Text.toUpperCase "POST" = "POST" := by
      rw [Text.toUpperCase, Text.flatMap_upper_ascii (Text.ascii_of_all (by decide))]
      rfl
    have hq := pairs_buildRequest hrq
    have hf := pairs_buildRequest hrf
    rw [hsame _ _ hrq, hget, if_pos (Or.inl rfl)] at hq
    rw [hsame _ _ hrf, hpost, if_neg (by decide), hempty] at hf
    refine ⟨fun a ha => ?_, hq.symm.trans hf⟩
    have hpairs := hown a ha
    rw [hf, filter_argPairs hargs' ha] at hpairs
    exact ⟨fun e => argPairs_absent (Or.inl e) hpairs, fun e => argPairs_absent (Or.inr e) hpairs⟩
  · intro hparts r hr
    obtain ⟨hvalues, hrewritten⟩ := hparts
    have hpairs : ∀ {method r}, buildRequest cluster method pathname args' = .ok r →
        r.pairs = args'.flatMap argPairs := by
      intro method r hr
      rw [pairs_buildRequest hr]
      split
      · exact hrewritten
      · exact hempty
    refine ⟨fun a ha => ?_, fun method' r' hr' => by rw [hpairs hr', hpairs hr]⟩
    rw [hpairs hr, filter_argPairs hargs' ha]
    exact argPairs_eq (hvalues a ha).1 (hvalues a ha).2

omit [Text.Unicode] in
/-- One argument with a value, and a path without query. -/
theorem pairsLaw_iff_vmid :
    letI := Text.asciiCase
    PairsLaw exampleCluster "GET" "/cluster/nextid" [("vmid", .num (.rat 100))] := by
  let := Text.asciiCase
  refine (pairsLaw_iff exampleCluster "GET" "/cluster/nextid" nextidMethod [("vmid", .str "100")]
    [("vmid", .num (.rat 100))] (by decide) (by simp [DistinctKeys]) rfl).mpr ⟨?_, ?_⟩
  · intro a ha
    rw [List.mem_singleton] at ha
    rw [ha]
    exact ⟨fun e => (by cases e), fun e => (by cases e)⟩
  · have hquery : searchParams exampleCluster "/cluster/nextid" = [] := by decide +kernel
    rw [hquery]
    trivial

omit [Text.Unicode] in
/-- An optional argument that is `null` is sent as the word. -/
theorem null_sent :
    letI := Text.asciiCase
    ∃ r, validateArgs "GET" nextidMethod [("vmid", .null)] = .ok [("vmid", .null)] ∧
      buildRequest exampleCluster "GET" "/cluster/nextid" [("vmid", .null)] = .ok r ∧
      r.pairs = [("vmid".toList, "null".toList)] ∧
      ¬ PairsLaw exampleCluster "GET" "/cluster/nextid" [("vmid", .null)] := by
  let := Text.asciiCase
  obtain ⟨r, hr⟩ := exists_buildRequest exampleCluster "GET" "/cluster/nextid" [("vmid", .null)]
  have hquery : searchParams exampleCluster "/cluster/nextid" = [] := by decide +kernel
  have hpairs : r.pairs = [("vmid".toList, "null".toList)] := by
    rw [pairs_buildRequest hr, hquery, ite_self]
    rfl
  refine ⟨r, rfl, hr, hpairs, fun hlaw => ?_⟩
  have hown := (hlaw r hr).1 _ List.mem_cons_self
  rw [hpairs] at hown
  exact absurd hown (by decide)

end ProxmoxMcp
