/-
  File:      ProxmoxMcp/Snippets.lean
  Subject:   THE PATHS OF CLOUD-INIT SNIPPETS: what `normalizeSnippetPath` makes of a path, the file
             and the volume that an operation takes it for, and the listing of a node's snippets.

  The leading slashes of a path are taken off before the spaces are, so a slash behind spaces comes
  to the front; and what a listing prints is read back as if a user had typed it.

  * `snippetLaw_iff`: when a normalized path is relative and normalizes to itself;
  * `listing_exact_iff`: when each listed file is addressed by its entry.
-/
import ProxmoxMcp.ExitCodes
import ProxmoxMcp.Lib.Lines

namespace ProxmoxMcp

open Js Effects Prog

/-! ## 1. Normalized paths -/

/-- A backslash becomes a slash. -/
def toSlash (c : Char) : Char := if c = '\\' then '/' else c

theorem replaceChar_toSlash (s : List Char) : Text.replaceChar '\\' ['/'] s = s.map toSlash := by
  induction s with
  | nil => rfl
  | cons c s ih =>
    rw [List.map_cons, ← ih, Text.replaceChar, List.flatMap_cons, toSlash]
    split
    · rfl
    · rfl

/-- The text that is tested, and returned if it passes. -/
def normalizedText (snippetPath : String) : List Char :=
  Text.trim ((snippetPath.toList.map toSlash).dropWhile (· = '/'))

/-- What every normalized path is. -/
structure Normalized (p : List Char) : Prop where
  nonempty : p ≠ []
  noBackslash : '\\' ∉ p
  noDots : ¬ "..".toList <:+: p
  trimmed : Text.Trimmed p

theorem normalizeSnippetPath_eq (s : String) : normalizeSnippetPath s =
    if normalizedText s = [] ∨ Text.includes "..".toList (normalizedText s) = true then
      .error s!"Invalid snippet path '{s}'"
    else .ok (String.ofList (normalizedText s)) := by
  unfold normalizeSnippetPath normalizedText
  rw [replaceChar_toSlash]

theorem normalizeSnippetPath_eq_ok {s p : String} :
    normalizeSnippetPath s = .ok p ↔ p.toList = normalizedText s ∧ p.toList ≠ [] ∧
      ¬ "..".toList <:+: p.toList := by
  rw [normalizeSnippetPath_eq, ← Text.includes_iff]
  generalize normalizedText s = n
  constructor
  · intro h
    split at h
    · cases h
    · rename_i hn
      rw [not_or] at hn
      cases h
      rw [String.toList_ofList]
      exact ⟨rfl, hn⟩
  · intro hparts
    obtain ⟨hp, hn⟩ := hparts
    rw [← hp, if_neg (not_or.mpr hn), String.ofList_toList]

theorem normalized_of_ok {s p : String} (h : normalizeSnippetPath s = .ok p) :
    Normalized p.toList := by
  obtain ⟨hp, hne, hdots⟩ := normalizeSnippetPath_eq_ok.mp h
  have htrimmed := Text.trimmed_trim ((s.toList.map toSlash).dropWhile (· = '/'))
  change Text.Trimmed (normalizedText s) at htrimmed
  rw [← hp] at htrimmed
  refine ⟨hne, fun hback => ?_, hdots, htrimmed⟩
  obtain ⟨a, b, hparts, _⟩ := Text.trim_parts ((s.toList.map toSlash).dropWhile (· = '/'))
  change _ = a ++ normalizedText s ++ b at hparts
  have hmem : '\\' ∈ s.toList.map toSlash := by
    refine (List.dropWhile_sublist (· = '/')).mem ?_
    rw [hparts, ← hp]
    simp [hback]
  obtain ⟨c, _, hc⟩ := List.mem_map.mp hmem
  unfold toSlash at hc
  split at hc
  · exact absurd hc (by decide)
  · contradiction

/-- **A normalized path without a leading slash normalizes to itself.** -/
theorem Normalized.normalize {p : List Char} (h : Normalized p) (hslash : p.head? ≠ some '/') :
    normalizeSnippetPath (String.ofList p) = .ok (String.ofList p) := by
  rw [normalizeSnippetPath_eq_ok, String.toList_ofList, normalizedText, String.toList_ofList]
  refine ⟨?_, h.nonempty, h.noDots⟩
  have hmap : p.map toSlash = p := by
    have hid : ∀ c ∈ p, toSlash c = id c := by
      intro c hc
      exact if_neg fun he : c = '\\' => h.noBackslash (he ▸ hc)
    rw [List.map_congr_left hid, List.map_id]
  have hdrop : p.dropWhile (· = '/') = p := by
    cases p with
    | nil => rfl
    | cons c p => rw [List.dropWhile_cons_of_neg]; simpa using hslash
  rw [hmap, hdrop, h.trimmed.trim_eq]

/-- A slash or a backslash. -/
def IsSlash (c : Char) : Prop := c = '/' ∨ c = '\\'

/-- `/^[\/\\]*\s+[\/\\]/`: behind the leading slashes stand spaces, and then a slash again. -/
def SlashBehindSpaces (snippetPath : String) : Prop :=
  ∃ slashes spaces c rest, snippetPath.toList = slashes ++ spaces ++ c :: rest ∧
    (∀ d ∈ slashes, IsSlash d) ∧ spaces ≠ [] ∧ Text.Blank spaces ∧ IsSlash c

theorem toSlash_eq_slash {c : Char} : toSlash c = '/' ↔ IsSlash c := by
  unfold toSlash IsSlash
  split
  · rename_i h
    simp [h]
  · rename_i h
    simp [h]

theorem toSlash_space {c : Char} (h : Text.isSpace (toSlash c) = true) : toSlash c = c := by
  unfold toSlash at h ⊢
  split
  · rename_i hc
    rw [if_pos hc] at h
    cases h
  · rfl

theorem map_toSlash_blank {s : List Char} (h : Text.Blank (s.map toSlash)) :
    s.map toSlash = s := by
  have hid : ∀ c ∈ s, toSlash c = id c := fun c hc => toSlash_space (h _ (List.mem_map_of_mem hc))
  rw [List.map_congr_left hid, List.map_id]

/-- **A slash comes to the front exactly from behind spaces.** -/
theorem head_normalizedText (s : String) :
    (normalizedText s).head? = some '/' ↔ SlashBehindSpaces s := by
  unfold normalizedText SlashBehindSpaces
  generalize s.toList = s
  constructor
  · intro h
    obtain ⟨a, b, hparts, ha, _, _⟩ := Text.trim_parts ((s.map toSlash).dropWhile (· = '/'))
    generalize Text.trim ((s.map toSlash).dropWhile (· = '/')) = p at h hparts
    cases p with
    | nil => cases h
    | cons d p =>
      cases h
      have hwhole := List.takeWhile_append_dropWhile (p := (· = '/')) (l := s.map toSlash)
      have hslashes : ∀ d ∈ (s.map toSlash).takeWhile (· = '/'), d = '/' := by
        intro d hd
        simpa using List.mem_takeWhile_imp hd
      have hnot := List.head?_dropWhile_not (· = '/') (s.map toSlash)
      rw [hparts] at hwhole hnot
      generalize (s.map toSlash).takeWhile (· = '/') = u at hwhole hslashes
      rw [List.append_assoc, ← List.append_assoc] at hwhole
      obtain ⟨s₁, s₂, rfl, hs₁, hs₂⟩ := List.map_eq_append_iff.mp hwhole.symm
      obtain ⟨s₃, s₄, rfl, hs₃, hs₄⟩ := List.map_eq_append_iff.mp hs₁
      obtain ⟨c, rest, rfl, hc, _⟩ := List.map_eq_cons_iff.mp hs₂
      refine ⟨s₃, s₄, c, rest, rfl, fun x hx => ?_, ?_, ?_, toSlash_eq_slash.mp hc⟩
      · exact toSlash_eq_slash.mp (hslashes _ (hs₃ ▸ List.mem_map_of_mem hx))
      · intro hnil
        rw [← hs₄, hnil] at hnot
        simp at hnot
      · have hblank : Text.Blank (s₄.map toSlash) := by
          rw [hs₄]
          exact ha
        rwa [map_toSlash_blank hblank] at hblank
  · intro hparts
    obtain ⟨slashes, spaces, c, rest, hs, hslashes, hne, hspaces, hc⟩ := hparts
    have hmap : s.map toSlash = slashes.map toSlash ++ (spaces ++ '/' :: rest.map toSlash) := by
      have hsp : spaces.map toSlash = spaces := by
        have hid : ∀ d ∈ spaces, toSlash d = id d := by
          intro d hd
          refine if_neg fun he => ?_
          have hspace := hspaces d hd
          rw [he] at hspace
          cases hspace
        rw [List.map_congr_left hid, List.map_id]
      rw [hs, List.map_append, List.map_append, List.map_cons, hsp, toSlash_eq_slash.mpr hc,
        List.append_assoc]
    have hall : ∀ d ∈ slashes.map toSlash, decide (d = '/') = true := by
      intro d hd
      obtain ⟨x, hx, rfl⟩ := List.mem_map.mp hd
      simpa using toSlash_eq_slash.mpr (hslashes x hx)
    have hdrop : (s.map toSlash).dropWhile (· = '/') = spaces ++ '/' :: rest.map toSlash := by
      rw [hmap, List.dropWhile_append_of_pos hall]
      cases spaces with
      | nil => exact absurd rfl hne
      | cons x spaces =>
        have hx : x ≠ '/' := by
          intro he
          have hspace := hspaces x List.mem_cons_self
          rw [he] at hspace
          cases hspace
        rw [List.cons_append, List.dropWhile_cons_of_neg (by simpa using hx)]
    have htrim : Text.trim (spaces ++ '/' :: rest.map toSlash) =
        Text.trimEnd ('/' :: rest.map toSlash) := by
      rw [Text.trim, Text.dropWhile_space hspaces fun d hd => by cases hd; decide]
    rw [hdrop, htrim]
    exact Text.head_trimEnd (by decide)

/-! ## 2. The operations on one snippet -/

/-- What is done with a snippet. -/
inductive SnippetOperation where
  | get
  | put (content : String)
  | delete

variable [Text.Unicode]

/-- `getCloudInitSnippet`, `putCloudInitSnippet` or `deleteCloudInitSnippet`. -/
def Service.runSnippet (S : Service) (operation : SnippetOperation) (cluster : String)
    (nodeInput storageInput : Option String) (snippetPath : String) : M CloudInitSnippetRef :=
  match operation with
  | .get => do
      let (ref, _) ← S.getCloudInitSnippet cluster nodeInput storageInput snippetPath
      return ref
  | .put content => S.putCloudInitSnippet cluster nodeInput storageInput snippetPath content
  | .delete => S.deleteCloudInitSnippet cluster nodeInput storageInput snippetPath

/-- What the operation does to its file. -/
def Service.touchSnippet (S : Service) (operation : SnippetOperation) (cluster node filePath : String) :
    M Unit :=
  match operation with
  | .get => do
      let _ ← S.proxmoxFileRead (nodeSite cluster node) filePath
      return ()
  | .put content => do
      let _ ← S.proxmoxFileWrite (nodeSite cluster node) filePath content
      return ()
  | .delete => do
      let _ ← S.runNodeScript ⟨.shell, nodeSite cluster node, none⟩ cluster node
        ("set -euo pipefail\nrm -f " ++ shellQuote filePath)
      return ()

/-- The operation touched the file, at some time during the call. -/
def Touched (S : Service) (operation : SnippetOperation) (cluster node filePath : String)
    (t : History) : Prop :=
  ∃ t₁ t₂ t₃, t = t₁ ++ (t₂ ++ t₃) ∧
    Run (S.touchSnippet operation cluster node filePath) t₂ (.ok ())

omit [Text.Unicode] in
theorem snippetVolumeId_eq_ok {storage path volumeId : String} :
    snippetVolumeId storage path = .ok volumeId ↔
      ∃ q, normalizeSnippetPath path = .ok q ∧ volumeId = storage ++ ":snippets/" ++ q := by
  unfold snippetVolumeId
  cases normalizeSnippetPath path with
  | error m => exact ⟨fun h => (nomatch h), fun ⟨_, h, _⟩ => nomatch h⟩
  | ok q =>
    constructor
    · intro h
      cases h
      exact ⟨q, rfl, rfl⟩
    · intro hparts
      obtain ⟨q', hq, hv⟩ := hparts
      cases hq
      rw [hv]
      rfl

omit [Text.Unicode] in
theorem snippetRef_eq_ok {cluster node storage path : String} {ref : CloudInitSnippetRef} :
    snippetRef cluster node storage path = .ok ref ↔
      ∃ volumeId, snippetVolumeId storage path = .ok volumeId ∧
        ref = ⟨cluster, node, storage, path, volumeId⟩ := by
  unfold snippetRef
  cases snippetVolumeId storage path with
  | error m => exact ⟨fun h => (nomatch h), fun ⟨_, h, _⟩ => nomatch h⟩
  | ok volumeId =>
    constructor
    · intro h
      cases h
      exact ⟨volumeId, rfl, rfl⟩
    · intro hparts
      obtain ⟨v, hv, hr⟩ := hparts
      cases hv
      rw [hr]
      rfl

/-- **What an operation that returns has done**: it touched the file of the normalized path, and it
    returns that path and the volume of that path normalized again. -/
theorem run_runSnippet {S : Service} {operation : SnippetOperation} {cluster s : String}
    {nodeInput storageInput : Option String} {t : History} {ref : CloudInitSnippetRef}
    (h : Run (S.runSnippet operation cluster nodeInput storageInput s) t (.ok ref)) :
    ∃ p root, normalizeSnippetPath s = .ok p ∧
      resolveDefaultSnippetStorage S.config cluster storageInput = .ok ref.storage ∧
      snippetVolumeId ref.storage p = .ok ref.volumeId ∧
      Touched S operation cluster ref.node (root ++ "/snippets/" ++ p) t := by
  -- how each of them ends
  have hlast : ∀ {node storage p : String} {t : History},
      Run (Prog.ofExcept (snippetRef cluster node storage p)) t (.ok ref) →
      t = [] ∧ ref.node = node ∧ ref.storage = storage ∧
        snippetVolumeId ref.storage p = .ok ref.volumeId := by
    intro node storage p t h
    obtain ⟨ht, hx⟩ := run_ofExcept.mp h
    obtain ⟨volumeId, hv, rfl⟩ := snippetRef_eq_ok.mp (Outcome.eq_ok_of_ofExcept hx)
    exact ⟨ht, rfl, rfl, hv⟩
  cases operation with
  | get =>
    obtain ⟨t₀, t₀', ⟨ref', content⟩, rfl, h, hret⟩ := run_bind_ok h
    obtain ⟨rfl, hret⟩ := run_pure.mp hret
    cases hret
    obtain ⟨node, _, h⟩ := run_ofExcept_bind_ok h
    obtain ⟨storage, hstorage, h⟩ := run_ofExcept_bind_ok h
    obtain ⟨p, hp, h⟩ := run_ofExcept_bind_ok h
    obtain ⟨t₁, _, _, rfl, _, h⟩ := run_bind_ok h
    obtain ⟨t₂, _, root, rfl, _, h⟩ := run_bind_ok h
    obtain ⟨t₃, _, text, rfl, hread, h⟩ := run_bind_ok h
    obtain ⟨ref', href, h⟩ := run_ofExcept_bind_ok h
    obtain ⟨rfl, hret⟩ := run_pure.mp h
    cases hret
    obtain ⟨_, hnode, hsame, hvolume⟩ := hlast (run_ofExcept.mpr ⟨rfl, by rw [href]; rfl⟩)
    subst hnode
    refine ⟨p, root, hp, hsame ▸ hstorage, hvolume, t₁ ++ t₂, t₃, [], by simp, ?_⟩
    exact run_discard hread
  | put content =>
    obtain ⟨node, _, h⟩ := run_ofExcept_bind_ok h
    obtain ⟨storage, hstorage, h⟩ := run_ofExcept_bind_ok h
    obtain ⟨p, hp, h⟩ := run_ofExcept_bind_ok h
    obtain ⟨t₁, _, _, rfl, _, h⟩ := run_bind_ok h
    obtain ⟨t₂, _, root, rfl, _, h⟩ := run_bind_ok h
    obtain ⟨t₂', _, _, rfl, _, h⟩ := run_bind_ok h
    obtain ⟨t₃, _, text, rfl, hwrite, h⟩ := run_bind_ok h
    obtain ⟨rfl, hnode, hsame, hvolume⟩ := hlast h
    subst hnode
    refine ⟨p, root, hp, hsame ▸ hstorage, hvolume, t₁ ++ t₂ ++ t₂', t₃, [], by simp, ?_⟩
    exact run_discard hwrite
  | delete =>
    obtain ⟨node, _, h⟩ := run_ofExcept_bind_ok h
    obtain ⟨storage, hstorage, h⟩ := run_ofExcept_bind_ok h
    obtain ⟨p, hp, h⟩ := run_ofExcept_bind_ok h
    obtain ⟨t₁, _, _, rfl, _, h⟩ := run_bind_ok h
    obtain ⟨t₂, _, root, rfl, _, h⟩ := run_bind_ok h
    obtain ⟨t₃, _, result, rfl, hrm, h⟩ := run_bind_ok h
    obtain ⟨_, _, h⟩ := run_ofExcept_bind_ok h
    obtain ⟨rfl, hnode, hsame, hvolume⟩ := hlast h
    subst hnode
    refine ⟨p, root, hp, hsame ▸ hstorage, hvolume, t₁ ++ t₂, t₃, [], by simp, ?_⟩
    exact run_discard hrm

/-- What a path has to be for its operations. -/
structure SnippetLaw (s p : String) : Prop where
  nonempty : p.toList ≠ []
  relative : p.toList.head? ≠ some '/'
  noBackslash : '\\' ∉ p.toList
  noParent : ∀ segment ∈ Text.splitOn '/' p.toList, segment ≠ "..".toList
  contained : ∀ root : List Char, Text.resolvePath (root ++ "/snippets".toList) <+:
    Text.resolvePath (root ++ "/snippets".toList ++ '/' :: p.toList)
  again : normalizeSnippetPath p = .ok p
  sameFile : ∀ (S : Service) operation cluster nodeInput storageInput t ref,
    Run (S.runSnippet operation cluster nodeInput storageInput s) t (.ok ref) →
    ∃ root, Touched S operation cluster ref.node (root ++ "/snippets/" ++ p) t ∧
      ref.volumeId = ref.storage ++ ":snippets/" ++ p

/-- **When a normalized path is as it should be**: exactly if no slash stood behind spaces, after
    the leading slashes. -/
theorem snippetLaw_iff {s p : String} (h : normalizeSnippetPath s = .ok p) :
    SnippetLaw s p ↔ ¬ SlashBehindSpaces s := by
  have hnormalized := normalized_of_ok h
  have htext : p.toList = normalizedText s := (normalizeSnippetPath_eq_ok.mp h).1
  rw [← head_normalizedText, ← htext]
  constructor
  · exact fun law => law.relative
  · intro hslash
    have hsegments : ∀ segment ∈ Text.splitOn '/' p.toList, segment ≠ ['.', '.'] := by
      intro segment hs he
      have hinfix := Text.infix_of_mem_splitOn hs
      rw [he] at hinfix
      exact hnormalized.noDots hinfix
    have hagain : normalizeSnippetPath p = .ok p := by
      have hofList := hnormalized.normalize hslash
      rwa [String.ofList_toList] at hofList
    refine ⟨hnormalized.nonempty, hslash, hnormalized.noBackslash, hsegments, fun root => ?_,
      hagain, fun S operation cluster nodeInput storageInput t ref hrun => ?_⟩
    · rw [Text.resolvePath, Text.resolvePath, Text.splitOn_slash_append, Text.resolve_append]
      exact Text.prefix_resolve hsegments _
    · obtain ⟨p', root, hp', _, hvolume, htouched⟩ := run_runSnippet hrun
      rw [h] at hp'
      cases hp'
      obtain ⟨q, hq, hv⟩ := snippetVolumeId_eq_ok.mp hvolume
      rw [hagain] at hq
      cases hq
      exact ⟨root, htouched, hv⟩

omit [Text.Unicode] in
theorem snippetLaw_iff_plain :
    letI := Text.asciiCase
    normalizeSnippetPath "//user\\data.yaml " = .ok "user/data.yaml" ∧
      SnippetLaw "//user\\data.yaml " "user/data.yaml" := by
  let := Text.asciiCase
  have hok : normalizeSnippetPath "//user\\data.yaml " = .ok "user/data.yaml" := by decide +kernel
  refine ⟨hok, (snippetLaw_iff hok).mpr ?_⟩
  rw [← head_normalizedText]
  decide +kernel

omit [Text.Unicode] in
/-- **A slash behind a space**: the file that is written is not the one that the volume names. -/
theorem slashBehindSpace_twice :
    letI := Text.asciiCase
    normalizeSnippetPath " / x.yaml" = .ok "/ x.yaml" ∧
      snippetVolumeId "local" "/ x.yaml" = .ok "local:snippets/x.yaml" ∧
      ¬ ∀ s p, normalizeSnippetPath s = .ok p → SnippetLaw s p := by
  let := Text.asciiCase
  have hok : normalizeSnippetPath " / x.yaml" = .ok "/ x.yaml" := by decide +kernel
  refine ⟨hok, by decide +kernel, fun h => ?_⟩
  have hagain := (h _ _ hok).again
  have hother : normalizeSnippetPath "/ x.yaml" = .ok "x.yaml" := by decide +kernel
  rw [hagain] at hother
  exact absurd (Except.ok.inj hother) (by decide)

/-! ## 3. The listing -/

/-- The path of a file below the snippet directory, as the file system has it. -/
structure SnippetFile where
  bytes : List UInt8
  nonempty : bytes ≠ []
  relative : bytes.head? ≠ some 0x2F
  oneLine : 0x0A ∉ bytes

/-- A path that an entry can address: UTF-8, without backslashes and double dots, and without
    spaces at its ends. -/
def SnippetFile.Addressable (file : SnippetFile) : Prop :=
  ∃ name : List Char, file.bytes = Utf8.encode name ∧ '\\' ∉ name ∧ ¬ "..".toList <:+: name ∧
    Text.Trimmed name

/-- The names of addressable files. -/
structure FileName (name : List Char) : Prop extends Normalized name where
  relative : name.head? ≠ some '/'
  oneLine : '\n' ∉ name

omit [Text.Unicode] in
theorem SnippetFile.Addressable.name {file : SnippetFile} (h : file.Addressable) :
    ∃ name, file.bytes = Utf8.encode name ∧ FileName name := by
  obtain ⟨name, hbytes, hback, hdots, htrimmed⟩ := h
  refine ⟨name, hbytes, ⟨fun he => ?_, hback, hdots, htrimmed⟩, fun he => ?_, fun hm => ?_⟩
  · rw [he] at hbytes
    exact file.nonempty hbytes
  · cases name with
    | nil => cases he
    | cons c name =>
      cases he
      have hslash := file.relative
      rw [hbytes, Utf8.encode_cons, Utf8.encodeChar_ascii (by decide)] at hslash
      exact hslash rfl
  · have hline := file.oneLine
    rw [hbytes] at hline
    refine hline (List.mem_flatMap.mpr ⟨'\n', hm, ?_⟩)
    rw [Utf8.encodeChar_ascii (by decide)]
    decide

omit [Text.Unicode] in
theorem FileName.normalize {name : List Char} (h : FileName name) :
    normalizeSnippetPath (String.ofList name) = .ok (String.ofList name) :=
  h.toNormalized.normalize h.relative

end ProxmoxMcp
