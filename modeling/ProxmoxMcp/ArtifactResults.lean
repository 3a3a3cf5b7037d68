/-
  File:      ProxmoxMcp/ArtifactResults.lean
  Subject:   WHAT A CLIENT GETS BACK of the data of a tool (`artifactResult` in `mcp-common.ts`): a
             short text inline, the rest as an artifact that it reads as a resource.

  Whether data is text is guessed from its decoding, which marks what is no UTF-8. Without a mark
  the decoding encodes back to the data; with one the data goes as base64.

  * `keeps_run`: an artifact keeps its data until it expires or is removed;
  * `artifactResult_recovers`: the client gets back exactly the data.
-/
import ProxmoxMcp.Artifacts

namespace ProxmoxMcp

open Js Runs

/-! ## 1. An artifact keeps its data -/

/-- The record is there, with the data behind it. -/
structure ArtifactManager.Keeps (m : ArtifactManager) (artifactId : String)
    (record : ArtifactRecord) (data : List UInt8) : Prop where
  present : m.artifacts artifactId = some record
  backing : record.backing = .memory data ∨
    ∃ path, record.backing = .temp_file path ∧ m.files path = some data

/-- What is behind a record stays there while its file does. -/
theorem ArtifactManager.Keeps.mono {m m' : ArtifactManager} {artifactId : String}
    {record : ArtifactRecord} {data : List UInt8} (hk : m.Keeps artifactId record data)
    (hpresent : m'.artifacts artifactId = some record)
    (hfiles : ∀ path, record.backing = .temp_file path → m.files path = some data →
      m'.files path = some data) : m'.Keeps artifactId record data := by
  refine ⟨hpresent, ?_⟩
  rcases hk.backing with hb | ⟨path, hb, hf⟩
  · exact .inl hb
  · exact .inr ⟨path, hb, hfiles path hb hf⟩

/-- **A step keeps an artifact** that has not expired and that it does not remove. -/
theorem keeps_does {m m' : ArtifactManager} {c : ArtifactCall} {artifactId : String}
    {record : ArtifactRecord} {data : List UInt8} (hs : m.Sound)
    (hk : m.Keeps artifactId record data) (hlive : record.expired m.now = false)
    (hc : c ≠ .remove artifactId) (h : m.Does c m') : m'.Keeps artifactId record data := by
  cases h with
  | nothing => exact hk
  | advances => exact hk.mono hk.present fun _ _ hf => hf
  | adds record' hfresh => exact hk.mono (set_of_some hfresh hk.present) fun _ _ hf => hf
  | writes record' path' data' hfresh hnew =>
    refine hk.mono (set_of_some hfresh hk.present) fun path _ hf => ?_
    -- the new file is another one
    have hne : path ≠ path' := by
      intro e
      rw [e, hnew] at hf
      cases hf
    exact (Function.update_of_ne hne ..).trans hf
  | drops other record' _ hr hexpired =>
    have hne : artifactId ≠ other := by
      intro e
      rw [← e, hk.present] at hr
      rw [Option.some.inj hr, hexpired] at hlive
      cases hlive
    exact hk.mono (delete_eq_some.mpr ⟨hne, hk.present⟩) fun _ _ hf => hf
  | removes other record' =>
    have hne : artifactId ≠ other := fun e => hc (congrArg _ e.symm)
    exact hk.mono (delete_eq_some.mpr ⟨hne, hk.present⟩) fun _ _ hf => hf
  | deletes other path' record' hr howned hbacking =>
    have hne : artifactId ≠ other := fun e => hc (congrArg _ e.symm)
    refine hk.mono (delete_eq_some.mpr ⟨hne, hk.present⟩) fun path hb hf => ?_
    -- the deleted file belongs to the other record alone
    have hother : path ≠ path' := by
      intro e
      have hbacks := backs_of_cleanup hs hr howned hbacking
      exact hne (hs.distinct artifactId other path ⟨record, hk.present, hb⟩ (e ▸ hbacks))
    rw [files_rm, if_neg hother]
    exact hf

/-- The clock does not go back. -/
theorem now_le_does {m m' : ArtifactManager} {c : ArtifactCall} (h : m.Does c m') :
    m.now ≤ m'.now := by
  cases h with
  | advances => exact Int.le_add_of_nonneg_right (Int.natCast_nonneg _)
  | _ => exact Int.le_refl _

theorem now_le_run {m m' : ArtifactManager} {calls : List ArtifactCall}
    (h : run ArtifactManager.step m calls = some m') : m.now ≤ m'.now :=
  invariant (P := fun s => m.now ≤ s.now)
    (fun hs hstep => Int.le_trans hs (now_le_does (step_does hstep))) (Int.le_refl _) h

theorem expired_mono {record : ArtifactRecord} {now now' : Int} (hle : now ≤ now')
    (h : record.expired now' = false) : record.expired now = false := by
  unfold ArtifactRecord.expired at h ⊢
  cases he : record.expiresAt with
  | none => rfl
  | some expiresAt =>
    rw [he] at h
    have hlater : ¬ expiresAt ≤ now' := of_decide_eq_false h
    exact decide_eq_false fun hearlier => hlater (Int.le_trans hearlier hle)

/-- **An artifact keeps its data** until it expires or is removed. -/
theorem keeps_run {artifactId : String} {record : ArtifactRecord} {data : List UInt8}
    {calls : List ArtifactCall} : ∀ {m m' : ArtifactManager}, m.Sound →
    m.Keeps artifactId record data → .remove artifactId ∉ calls →
    run ArtifactManager.step m calls = some m' → record.expired m'.now = false →
    m'.Keeps artifactId record data := by
  induction calls with
  | nil =>
    intro m m' _ hk _ hrun _
    cases hrun
    exact hk
  | cons c calls ih =>
    intro m m' hs hk hc hrun hlive
    have hnow := now_le_run hrun
    obtain ⟨u, hstep, hrun⟩ := run_cons.mp hrun
    have hdoes := step_does hstep
    have hne : c ≠ .remove artifactId := fun e => hc (e ▸ List.mem_cons_self)
    have hk' := keeps_does hs hk (expired_mono hnow hlive) hne hdoes
    exact ih (sound_does hs hdoes) hk' (fun h => hc (List.mem_cons_of_mem _ h)) hrun hlive

/-! ## 2. Creating and reading -/

/-- **A creation keeps the data** behind its new record. -/
theorem createBinaryArtifact_ok {m m' : ArtifactManager} {uuid path mimeType : String}
    {kind : ArtifactKind} {data : List UInt8} {options : CreateOptions} {ref : ArtifactRef}
    (h : m.createBinaryArtifact uuid path kind mimeType data options = (m', .ok ref)) :
    ∃ record, m'.Keeps record.artifactId record data ∧ ref = publicRef record ∧
      record.artifactId = makeId "artifact" uuid ∧ record.encoding = options.encoding ∧
      record.expiresAt = (if options.expiresInMs = some 0 then none
        else some (m.now + options.expiresInMs.getD defaultTtlMs)) ∧ m'.now = m.now := by
  unfold ArtifactManager.createBinaryArtifact at h
  dsimp only at h
  split at h
  · cases h
  · rename_i base hbase
    obtain ⟨hid, hbacking, _, hencoding, hexpires⟩ := createBaseRecord_ok hbase
    cases ht : shouldUseTempFile options data with
    | true =>
      rw [ht] at h hbacking
      cases h
      refine ⟨{ base with cleanupPath := true }, ⟨set_self _ _, .inr ⟨path, hbacking, ?_⟩⟩, rfl, hid,
        hencoding, hexpires, rfl⟩
      exact Function.update_self ..
    | false =>
      rw [ht] at h hbacking
      cases h
      exact ⟨{ base with cleanupPath := false }, ⟨set_self _ _, .inl hbacking⟩, rfl, hid, hencoding,
        hexpires, rfl⟩

/-- A creation succeeds while the clock is in the range of dates. -/
theorem createBinaryArtifact_succeeds {m : ArtifactManager} (uuid path : String)
    (kind : ArtifactKind) (mimeType : String) (data : List UInt8) {options : CreateOptions}
    (hnow : -8640000000000000 ≤ m.now) (hlast : m.now + defaultTtlMs ≤ 8640000000000000)
    (hdefault : options.expiresInMs = none) :
    ∃ ref, (m.createBinaryArtifact uuid path kind mimeType data options).2 = .ok ref := by
  have hlater : m.now ≤ m.now + defaultTtlMs := Int.le_add_of_nonneg_right (by decide)
  have hcreated : toISOString m.now = .ok m.now := if_pos ⟨hnow, Int.le_trans hlater hlast⟩
  have hexpires : toISOString (m.now + defaultTtlMs) = .ok (m.now + defaultTtlMs) :=
    if_pos ⟨Int.le_trans hnow hlater, hlast⟩
  unfold ArtifactManager.createBinaryArtifact ArtifactManager.createBaseRecord
  rw [hdefault, hcreated, Option.getD_none, hexpires]
  exact ⟨_, rfl⟩

theorem sound_create {m : ArtifactManager} {uuid path : String} (hs : m.Sound)
    (hid : m.artifacts (makeId "artifact" uuid) = none) (hpath : m.files path = none)
    (kind : ArtifactKind) (mimeType : String) (data : List UInt8) (options : CreateOptions) :
    (m.createBinaryArtifact uuid path kind mimeType data options).1.Sound :=
  sound_does hs
    (does_create (c := .createBinaryArtifact uuid path kind mimeType data options) hid hpath)

/-- A read finds the bytes of a record that is kept. -/
theorem readArtifactBuffer_keeps {m : ArtifactManager} {artifactId : String}
    {record : ArtifactRecord} {data : List UInt8} (hk : m.Keeps artifactId record data)
    (hlive : record.expired m.now = false) (hid : artifactId ≠ "")
    (remote : Except String (List UInt8)) :
    m.get artifactId = (m, .ok record) ∧
      m.readArtifactBuffer { artifactId := some artifactId } remote = (m, .ok data) := by
  have hget : m.get artifactId = (m, .ok record) := by
    rcases get_cases m artifactId with ⟨hnone, _⟩ | ⟨r, hr, he, _⟩ | ⟨r, hr, _, hg⟩
    · rw [hk.present] at hnone
      cases hnone
    · rw [hk.present, Option.some_inj] at hr
      rw [← hr, hlive] at he
      cases he
    · rw [hk.present, Option.some_inj] at hr
      rw [hg, hr]
  have hresolve : resolveArtifactId { artifactId := some artifactId } = .ok artifactId := by
    unfold resolveArtifactId
    rw [Option.filter_some, if_pos (decide_eq_true hid)]
  have hread : m.readBacking remote record.backing = .ok data := by
    rcases hk.backing with hb | ⟨path, hb, hf⟩
    · rw [hb]
      rfl
    · rw [hb, ArtifactManager.readBacking, hf]
  refine ⟨hget, ?_⟩
  unfold ArtifactManager.readArtifactBuffer
  rw [hresolve]
  simp only [hget, hread]

/-- The bytes of what a client reads: a text as UTF-8, a blob as base64. -/
def ResourceContents.bytes : ResourceContents → List UInt8
  | .text _ _ s => Utf8.encode s
  | .blob _ _ s => Base64.decode s

/-- **A read of a record that is kept** answers with its bytes, where a text is the decoding of what
    encodes back. -/
theorem readResource_keeps {m : ArtifactManager} {artifactId : String} {record : ArtifactRecord}
    {data : List UInt8} (hk : m.Keeps artifactId record data)
    (hlive : record.expired m.now = false) (hid : artifactId ≠ "")
    (htext : record.encoding = .utf8 → Utf8.encode (Utf8.decode data) = data)
    (remote : Except String (List UInt8)) :
    ∃ contents, (m.readResource artifactId remote).2 = .ok contents ∧ contents.bytes = data := by
  obtain ⟨hget, hread⟩ := readArtifactBuffer_keeps hk hlive hid remote
  unfold ArtifactManager.readResource
  simp only [hget, hread]
  cases he : record.encoding with
  | utf8 => exact ⟨_, rfl, htext he⟩
  | base64 => exact ⟨_, rfl, Base64.decode_encode data⟩

/-- The id of an artifact is not empty. -/
theorem makeId_artifact_ne (uuid : String) : makeId "artifact" uuid ≠ "" := by
  intro h
  have hlist := congrArg String.toList h
  rw [makeId, String.toList_append, String.toList_append] at hlist
  cases hlist

/-! ## 3. Results with artifacts -/

/-- `isProbablyTextBuffer`. -/
def isProbablyTextBuffer (data : List UInt8) : Bool :=
  if data.length = 0 then true
  else (Utf8.decode data).count Utf8.replacement = 0

/-- **Data without a mark is text**: its decoding encodes back to it. -/
theorem encode_decode_of_text {data : List UInt8} (h : isProbablyTextBuffer data = true) :
    Utf8.encode (Utf8.decode data) = data := by
  unfold isProbablyTextBuffer at h
  split at h
  · rename_i hempty
    rw [List.length_eq_zero_iff.mp hempty]
    rfl
  · have hcount := of_decide_eq_true h
    exact Utf8.encode_decode (List.count_eq_zero.mp hcount)

/-- A tool result with artifacts, which are kept apart from the rest of its structured content. -/
structure ArtifactToolResult extends ToolResult where
  artifacts : List ArtifactRef := []

/-- The options of `artifactResult`. -/
structure ArtifactResultOptions where
  kind : ArtifactKind
  mimeType : String
  data : List UInt8
  summary : List (String × Value)
  isError : Bool := false
  preferTempFile : Bool := false

/-- `artifactResult`. -/
def ArtifactManager.artifactResult (m : ArtifactManager) (uuid path title : String)
    (options : ArtifactResultOptions) : ArtifactManager × Except String ArtifactToolResult :=
  if isProbablyTextBuffer options.data ∧ options.data.length ≤ 16 * 1024 then
    let content := Value.str (String.ofList (Utf8.decode options.data))
    (m, .ok { textResult title (.obj (setKey "content" content options.summary)) options.isError
              with })
  else
    let (m, artifact) :=
      if isProbablyTextBuffer options.data then
        m.createTextArtifact uuid path options.kind options.mimeType (Utf8.decode options.data)
          { preferTempFile := options.preferTempFile }
      else
        m.createBinaryArtifact uuid path options.kind options.mimeType options.data
          { preferTempFile := options.preferTempFile }
    (m, artifact.map fun artifact =>
      { textResult title (.obj options.summary) options.isError with artifacts := [artifact] })

/-- The client gets the data back: from the content, if the result is inline, else by a read of the
    published artifact at any time before it expires. -/
def ArtifactToolResult.Recovers (result : ArtifactToolResult) (m : ArtifactManager)
    (data : List UInt8) : Prop :=
  match result.artifacts with
  | [] => ∃ text, result.structuredContent.get "content" = .str text ∧
      Utf8.encode text.toList = data
  | ref :: _ => ref.expiresAt = some (m.now + defaultTtlMs) ∧
      ∀ calls m', run ArtifactManager.step m calls = some m' → .remove ref.artifactId ∉ calls →
        m'.now < m.now + defaultTtlMs → ∀ remote, ∃ contents,
          (m'.readResource ref.artifactId remote).2 = .ok contents ∧ contents.bytes = data

/-- The options under which data is published. -/
def ArtifactResultOptions.create (options : ArtifactResultOptions) : CreateOptions where
  preferTempFile := options.preferTempFile
  encoding := if isProbablyTextBuffer options.data then .utf8 else .base64

/-- What is not inline is published byte for byte, as text or in base64. -/
theorem artifactResult_published (m : ArtifactManager) (uuid path title : String)
    {options : ArtifactResultOptions}
    (h : ¬ (isProbablyTextBuffer options.data ∧ options.data.length ≤ 16 * 1024)) :
    m.artifactResult uuid path title options =
      let created := m.createBinaryArtifact uuid path options.kind options.mimeType options.data
        options.create
      (created.1, created.2.map fun artifact =>
        { textResult title (.obj options.summary) options.isError with artifacts := [artifact] }) := by
  unfold ArtifactManager.artifactResult ArtifactResultOptions.create
  rw [if_neg h]
  cases htext : isProbablyTextBuffer options.data with
  | true =>
    simp only [ArtifactManager.createTextArtifact, encode_decode_of_text htext, if_true]
  | false => rfl

/-- A text that is published encodes back. -/
theorem encode_decode_of_create {options : ArtifactResultOptions}
    (h : options.create.encoding = .utf8) :
    Utf8.encode (Utf8.decode options.data) = options.data := by
  unfold ArtifactResultOptions.create at h
  cases htext : isProbablyTextBuffer options.data with
  | true => exact encode_decode_of_text htext
  | false =>
    rw [htext] at h
    cases h

/-- **What is published is got back**, until it expires. -/
theorem recovers_published {m m' : ArtifactManager} {uuid path title : String}
    {options : ArtifactResultOptions} {ref : ArtifactRef} (hs : m'.Sound)
    (h : m.createBinaryArtifact uuid path options.kind options.mimeType options.data
      options.create = (m', .ok ref)) :
    ArtifactToolResult.Recovers
      { textResult title (.obj options.summary) options.isError with artifacts := [ref] }
      m' options.data := by
  obtain ⟨record, hk, href, hartifact, hencoding, hexpires, hnow⟩ := createBinaryArtifact_ok h
  have hexpiry : record.expiresAt = some (m'.now + defaultTtlMs) := by
    rw [hexpires, hnow]
    rfl
  rw [href]
  refine ⟨hexpiry, fun calls u hrun hkept hbefore remote => ?_⟩
  have hlive : record.expired u.now = false := by
    unfold ArtifactRecord.expired
    rw [hexpiry]
    exact decide_eq_false (Int.not_le.mpr hbefore)
  have hku := keeps_run hs hk hkept hrun hlive
  have hne : record.artifactId ≠ "" := by
    rw [hartifact]
    exact makeId_artifact_ne uuid
  refine readResource_keeps hku hlive hne (fun hutf8 => ?_) remote
  rw [hencoding] at hutf8
  exact encode_decode_of_create hutf8

/-- **The client gets back exactly the data** of every result, in every state that a new manager
    reaches: inline or published, from memory or from a temp file; and there is a result while the
    clock is in the range of dates. -/
theorem artifactResult_recovers {now : Int} {files : String → Option (List UInt8)}
    {calls : List ArtifactCall} {m : ArtifactManager}
    (hrun : run ArtifactManager.step (.new now files) calls = some m) {uuid path : String}
    (hid : m.artifacts (makeId "artifact" uuid) = none) (hpath : m.files path = none)
    (title : String) (options : ArtifactResultOptions) :
    (∀ result, (m.artifactResult uuid path title options).2 = .ok result →
      result.Recovers (m.artifactResult uuid path title options).1 options.data) ∧
    (-8640000000000000 ≤ m.now → m.now + defaultTtlMs ≤ 8640000000000000 →
      ∃ result, (m.artifactResult uuid path title options).2 = .ok result) := by
  have hs : m.Sound := invariant (P := ArtifactManager.Sound)
    (fun hs hstep => sound_does hs (step_does hstep)) (sound_new now files) hrun
  by_cases hinline : isProbablyTextBuffer options.data ∧ options.data.length ≤ 16 * 1024
  · unfold ArtifactManager.artifactResult
    rw [if_pos hinline]
    refine ⟨fun result hresult => ?_, fun _ _ => ⟨_, rfl⟩⟩
    cases hresult
    refine ⟨_, (lookup_setKey ..).trans (if_pos rfl), ?_⟩
    rw [String.toList_ofList]
    exact encode_decode_of_text hinline.1
  · rw [artifactResult_published m uuid path title hinline]
    have hs' := sound_create hs hid hpath options.kind options.mimeType options.data options.create
    constructor
    · intro result hresult
      rcases hcreate : m.createBinaryArtifact uuid path options.kind options.mimeType options.data
        options.create with ⟨m', message | ref⟩
      · rw [hcreate] at hresult
        cases hresult
      · rw [hcreate] at hresult hs'
        cases hresult
        exact recovers_published hs' hcreate
    · intro hfirst hlast
      have hdefault : options.create.expiresInMs = none := rfl
      obtain ⟨ref, href⟩ := createBinaryArtifact_succeeds uuid path options.kind options.mimeType
        options.data hfirst hlast hdefault
      dsimp only
      rw [href]
      exact ⟨_, rfl⟩

/-- A byte that is no UTF-8, published by a new manager. -/
theorem artifactResult_recovers_byte :
    let m := ArtifactManager.new 0 fun _ => none
    let options : ArtifactResultOptions :=
      { kind := .binary, mimeType := "application/octet-stream", data := [255], summary := [],
        preferTempFile := true }
    let path := "/tmp/proxmox-mcp-artifacts-a/artifact.bin"
    (∀ result, (m.artifactResult "u" path "Read" options).2 = .ok result →
      result.Recovers (m.artifactResult "u" path "Read" options).1 [255]) ∧
    (-8640000000000000 ≤ m.now → m.now + defaultTtlMs ≤ 8640000000000000 →
      ∃ result, (m.artifactResult "u" path "Read" options).2 = .ok result) :=
  @artifactResult_recovers 0 (fun _ => none) [] _ rfl "u" _ rfl rfl "Read" _

end ProxmoxMcp
