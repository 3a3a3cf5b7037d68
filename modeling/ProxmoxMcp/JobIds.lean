/-
  File:      ProxmoxMcp/JobIds.lean
  Subject:   THE IDS OF JOBS: what `makeUpidJobId` writes into an id, `parseUpidJobId` reads out of
             it, and no id of `makeId` is taken for such an id.
-/
import ProxmoxMcp.Jobs
import ProxmoxMcp.Lib.JsonText

namespace ProxmoxMcp

open Js
open Base64 (base64url decode_base64url)

/-! ## 1. Payloads -/

/-- `TargetRef` with `guestName`, which only the id of a job carries on. -/
structure NamedTargetRef extends TargetRef where
  guestName : Option String := none
  deriving DecidableEq, Repr

/-- The properties of a target. -/
def NamedTargetRef.properties (t : NamedTargetRef) : List (String × Value) :=
  [("cluster", .str t.cluster), ("kind", .str t.kind.text)] ++
    (t.node.map fun n => ("node", Value.str n)).toList ++
    (t.vmid.map fun n => ("vmid", Value.nat n)).toList ++
    (t.guestName.map fun n => ("guestName", Value.str n)).toList

def NamedTargetRef.toValue (t : NamedTargetRef) : Value := .obj t.properties

/-- What an id is made of. -/
structure UpidJob where
  target : NamedTargetRef
  operation : String
  upid : String
  deriving DecidableEq, Repr

/-- The `payload` of `makeUpidJobId`. -/
def UpidJob.payload (job : UpidJob) : Value :=
  .obj [("v", .nat 1), ("operation", .str job.operation), ("target", job.target.toValue),
    ("upid", .str job.upid)]

/-- `makeUpidJobId`. -/
def UpidJob.id (job : UpidJob) : String :=
  String.ofList (upidJobPrefix ++ base64url (Utf8.encode (stringifyText job.payload).toList))

/-- A target without the name of a guest. -/
theorem UpidJob.id_unnamed (target : TargetRef) (operation upid : String) :
    UpidJob.id ⟨⟨target, none⟩, operation, upid⟩ = makeUpidJobId target operation upid := by
  have htarget : NamedTargetRef.toValue ⟨target, none⟩ = target.toValue := by
    simp [NamedTargetRef.toValue, NamedTargetRef.properties, TargetRef.toValue]
  simp only [UpidJob.id, UpidJob.payload, htarget, makeUpidJobId, upidPayload]

/-- `makeId`, with what `crypto.randomUUID()` returned. -/
def makeId (pre uuid : String) : String := pre ++ "_" ++ uuid

/-- What `makeId` is called with. -/
def makeIdPrefixes : List String := ["job", "artifact"]

/-! ## 2. The payload is JSON that reads back -/

/-- The keys of a target, all of them names. -/
def targetKeys : List String := ["cluster", "kind", "node", "vmid", "guestName"]

theorem NamedTargetRef.keys_sublist (t : NamedTargetRef) :
    (t.properties.map Prod.fst).Sublist targetKeys := by
  have hoptional : ∀ {α : Type} (key : String) (value : α → Value) (o : Option α),
      ((o.map fun a => (key, value a)).toList.map Prod.fst).Sublist [key] := by
    intro α key value o
    cases o with
    | none => exact List.nil_sublist _
    | some a => exact List.Sublist.refl _
  simp only [NamedTargetRef.properties, List.map_append]
  exact (((List.Sublist.refl ["cluster", "kind"]).append (hoptional "node" Value.str t.node)).append
    (hoptional "vmid" Value.nat t.vmid)).append (hoptional "guestName" Value.str t.guestName)

theorem arrayIndex_targetKeys : ∀ key ∈ targetKeys, arrayIndex key = none := by decide

theorem NamedTargetRef.inOrder (t : NamedTargetRef) : InOrder t.properties := by
  refine inOrder_of_names (fun p hp => ?_) ?_
  · exact arrayIndex_targetKeys p.1 (t.keys_sublist.subset (List.mem_map_of_mem hp))
  · exact t.keys_sublist.nodup (by decide)

theorem NamedTargetRef.writes (t : NamedTargetRef) : t.toValue.Writes := by
  refine ⟨t.inOrder, ?_⟩
  have hvmid : ∀ n : Nat, (Value.nat n).Writes := fun n => ⟨n, rfl⟩
  unfold NamedTargetRef.properties
  cases t.node <;> cases t.vmid <;> cases t.guestName <;>
    simp [WritesEach, Value.Writes, hvmid]

theorem UpidJob.payload_writes (job : UpidJob) : job.payload.Writes := by
  have hnames : ∀ key ∈ ["v", "operation", "target", "upid"], arrayIndex key = none := by decide
  refine ⟨inOrder_of_names ?_ ?_, ⟨1, rfl⟩, trivial, job.target.writes, trivial, trivial⟩
  · exact fun p hp => hnames p.1 (List.mem_map_of_mem hp)
  · show List.Nodup ["v", "operation", "target", "upid"]
    decide

/-! ## 3. The round trip -/

/-- A text after the prefix of the ids is what is decoded. -/
theorem parseUpidJobId_encode {text : String} {v : Value} (h : parse text = some v) :
    parseUpidJobId (String.ofList (upidJobPrefix ++ base64url (Utf8.encode text.toList))) =
      match v.get "v" with
      | .num (.rat q) =>
        if q ≠ 1 then none
        else do
          let operation ← stringOf (v.get "operation")
          let cluster ← stringOf ((v.get "target").get "cluster")
          let _ ← stringOf ((v.get "target").get "kind")
          let upid ← stringOf (v.get "upid")
          return ⟨operation, ⟨cluster, v.get "target"⟩, upid⟩
      | _ => none := by
  have hprefix : upidJobPrefix.isPrefixOf
      (upidJobPrefix ++ base64url (Utf8.encode text.toList)) = true :=
    List.isPrefixOf_iff_prefix.mpr (List.prefix_append _ _)
  have hne : (base64url (Utf8.encode text.toList)).isEmpty = false := by
    rw [Bool.eq_false_iff, ne_eq, List.isEmpty_iff]
    intro hnil
    have hbytes := decode_base64url (Utf8.encode text.toList)
    rw [hnil] at hbytes
    have htext := Utf8.encode_injective (s := []) hbytes
    rw [String.toList_eq_nil_iff.mp htext.symm] at h
    exact nomatch (show parse "" = none by decide).symm.trans h
  simp only [parseUpidJobId, String.toList_ofList, hprefix, List.drop_left, hne, decode_base64url,
    Utf8.decode_encode, String.ofList_toList, h, Bool.not_true, Bool.false_eq_true,
    if_false] <;> rfl

/-- **An id reads back as what it was made of.** -/
theorem UpidJob.parse_id (job : UpidJob) :
    parseUpidJobId job.id =
      some ⟨job.operation, ⟨job.target.cluster, job.target.toValue⟩, job.upid⟩ := by
  rw [UpidJob.id, parseUpidJobId_encode (parse_stringifyText_of job.payload_writes)]
  simp [UpidJob.payload, NamedTargetRef.toValue, NamedTargetRef.properties, Value.get, lookup,
    Value.nat, stringOf]

theorem TargetKind.text_injective : ∀ k k' : TargetKind, k.text = k'.text → k = k' := by
  intro k k' h
  cases k <;> cases k' <;> first | rfl | exact absurd h (by decide)

/-- The value of an optional property. -/
def optionalValue {α : Type} (value : α → Value) (o : Option α) : Value :=
  (o.map value).getD .undefined

theorem optionalValue_injective {α : Type} {value : α → Value}
    (hvalue : ∀ a b, value a = value b → a = b) (hdefined : ∀ a, value a ≠ .undefined)
    {o o' : Option α} (h : optionalValue value o = optionalValue value o') : o = o' := by
  cases o with
  | none =>
    cases o' with
    | none => rfl
    | some a => exact absurd h.symm (hdefined a)
  | some a =>
    cases o' with
    | none => exact absurd h (hdefined a)
    | some b => exact congrArg some (hvalue a b h)

/-- The properties of a target, one by one. -/
theorem NamedTargetRef.get_toValue (t : NamedTargetRef) :
    t.toValue.get "cluster" = .str t.cluster ∧ t.toValue.get "kind" = .str t.kind.text ∧
      t.toValue.get "node" = optionalValue .str t.node ∧
      t.toValue.get "vmid" = optionalValue .nat t.vmid ∧
      t.toValue.get "guestName" = optionalValue .str t.guestName := by
  unfold NamedTargetRef.toValue NamedTargetRef.properties
  cases t.node <;> cases t.vmid <;> cases t.guestName <;>
    exact ⟨rfl, rfl, rfl, rfl, rfl⟩

/-- A target is known by its object. -/
theorem NamedTargetRef.toValue_injective {t t' : NamedTargetRef} (h : t.toValue = t'.toValue) :
    t = t' := by
  obtain ⟨hcluster, hkind, hnode, hvmid, hguest⟩ := t.get_toValue
  obtain ⟨hcluster', hkind', hnode', hvmid', hguest'⟩ := t'.get_toValue
  rw [← h] at hcluster' hkind' hnode' hvmid' hguest'
  have hstr : ∀ s s' : String, Value.str s = .str s' → s = s' := fun _ _ e => Value.str.inj e
  have hnat : ∀ n n' : Nat, Value.nat n = .nat n' → n = n' := fun _ _ e => by
    simpa [Value.nat] using e
  have h1 := hstr _ _ (hcluster.symm.trans hcluster')
  have h2 := TargetKind.text_injective _ _ (hstr _ _ (hkind.symm.trans hkind'))
  have hstrGiven : ∀ s, Value.str s ≠ .undefined := fun s e => by cases e
  have hnatGiven : ∀ n, Value.nat n ≠ .undefined := fun n e => by cases e
  have h3 := optionalValue_injective hstr hstrGiven (hnode.symm.trans hnode')
  have h4 := optionalValue_injective hnat hnatGiven (hvmid.symm.trans hvmid')
  have h5 := optionalValue_injective hstr hstrGiven (hguest.symm.trans hguest')
  obtain ⟨⟨cluster, kind, node, vmid⟩, guestName⟩ := t
  obtain ⟨⟨cluster', kind', node', vmid'⟩, guestName'⟩ := t'
  cases h1
  cases h2
  cases h3
  cases h4
  cases h5
  rfl

/-- The ids of different jobs differ. -/
theorem UpidJob.id_injective {job job' : UpidJob} (h : job.id = job'.id) : job = job' := by
  have hparse := job.parse_id
  rw [h, job'.parse_id, Option.some.injEq, UpidJobHandlePayload.mk.injEq,
    JobTarget.mk.injEq] at hparse
  obtain ⟨hoperation, ⟨_, htarget⟩, hupid⟩ := hparse
  obtain ⟨target, operation, upid⟩ := job
  obtain ⟨target', operation', upid'⟩ := job'
  cases hoperation
  cases hupid
  cases NamedTargetRef.toValue_injective htarget
  rfl

/-- An id that does not begin with the prefix is no handle. -/
theorem parseUpidJobId_other {jobId : String} (h : ¬upidJobPrefix <+: jobId.toList) :
    parseUpidJobId jobId = none := by
  have hprefix : upidJobPrefix.isPrefixOf jobId.toList = false := by
    rw [Bool.eq_false_iff, ne_eq, List.isPrefixOf_iff_prefix]
    exact h
  rw [parseUpidJobId, hprefix]
  rfl

theorem makeId_other {pre : String} (h : pre ∈ makeIdPrefixes) (uuid : String) :
    ¬upidJobPrefix <+: (makeId pre uuid).toList := by
  intro hprefix
  obtain ⟨rest, hrest⟩ := hprefix
  rw [makeId, String.toList_append, String.toList_append] at hrest
  simp only [makeIdPrefixes, List.mem_cons, List.not_mem_nil, or_false] at h
  rcases h with rfl | rfl
  · exact absurd (List.cons.inj hrest).1 (by decide)
  · exact absurd (List.cons.inj hrest).1 (by decide)

/-- **Job ids**: the id of a job reads back as exactly its operation, target and UPID, different
    jobs have different ids, and no id of `makeId` is read as one. -/
theorem upidJobId_roundTrip :
    (∀ job : UpidJob, parseUpidJobId job.id =
      some ⟨job.operation, ⟨job.target.cluster, job.target.toValue⟩, job.upid⟩) ∧
    (∀ job job' : UpidJob, job ≠ job' → job.id ≠ job'.id) ∧
    ∀ pre ∈ makeIdPrefixes, ∀ uuid, parseUpidJobId (makeId pre uuid) = none := by
  refine ⟨UpidJob.parse_id, fun job job' hne h => hne (UpidJob.id_injective h), ?_⟩
  intro pre hpre uuid
  exact parseUpidJobId_other (makeId_other hpre uuid)

end ProxmoxMcp
