/-
  File:      ProxmoxMcp/RootDisk.lean
  Subject:   THE ROOT DISK OF A VM (`inferRootDiskVolumeId`): the volume that is mounted to inspect a
             guest, found through the field `boot` of its configuration.

  The whole list behind `order=` is looked up as one name. So a list of one device is followed, and
  of a longer list no device is found.

  * `rootDiskLaw_iff`: the configurations whose boot order is followed all the same.
-/
import ProxmoxMcp.Lib.Json
import ProxmoxMcp.Lib.Lines

namespace ProxmoxMcp

open Js

/-! ## 1. The volume of a drive -/

/-- What follows a text in a longer one. -/
def dropText (t : String) (s : List Char) : Option (List Char) :=
  if t.toList.isPrefixOf s then some (s.drop t.toList.length) else none

/-- `-disk-\d+$`, from here on. -/
def isDiskNumber (s : List Char) : Bool :=
  match dropText "-disk-" s with
  | some n => n ≠ [] ∧ n.all Char.isDigit
  | none => false

/-- `\d+-disk-\d+$`, from here on. -/
def isNumberedDisk (s : List Char) : Bool :=
  s.takeWhile Char.isDigit ≠ [] && isDiskNumber (s.dropWhile Char.isDigit)

/-- `/^(vm|base)-\d+-disk-\d+$/`. -/
def isDiskVolume (s : List Char) : Bool :=
  match (dropText "vm-" s).or (dropText "base-" s) with
  | some rest => isNumberedDisk rest
  | none => false

/-- The volume that a drive holds: what the loop does with the value of a candidate. -/
def heldVolume : Value → Option (List Char)
  | .str raw =>
      if Text.includes [':'] raw.toList = false then none
      else
        let parts := (Text.splitOn ':' raw.toList).take 2
        let right := parts[1]?.getD []
        if right = [] then none
        else
          let volumeId := Text.trim ((Text.splitOn ',' right).headD [])
          if volumeId = [] then none
          else if isDiskVolume volumeId then some volumeId
          else none
  | _ => none

/-! ## 2. The candidates -/

/-- `/[^,\s]/`. -/
def isKeyChar (c : Char) : Bool := c ≠ ',' && !Text.isSpace c

/-- The first group of `/order=([^,\s]+)/`, where the expression first matches. -/
def orderMatch : List Char → Option (List Char)
  | [] => none
  | c :: s =>
      match (dropText "order=" (c :: s)).map (List.takeWhile isKeyChar) with
      | some (d :: key) => some (d :: key)
      | _ => orderMatch s

/-- The key that is tried first. -/
def bootOrder (config : List (String × Value)) : Option (List Char) :=
  match lookup "boot" config with
  | .str boot => orderMatch boot.toList
  | _ => none

/-- The keys that are tried then. -/
def rootDiskKeys : List (List Char) :=
  ["scsi0".toList, "virtio0".toList, "sata0".toList, "ide0".toList]

/-- The volume of the first of these keys that holds one. -/
def firstHeld (config : List (String × Value)) (keys : List (List Char)) : Option (List Char) :=
  keys.findSome? fun key => heldVolume (lookup (String.ofList key) config)

/-- `inferRootDiskVolumeId`. -/
def inferRootDiskVolumeId (vmid : Nat) (config : List (String × Value)) : String :=
  match firstHeld config ((bootOrder config).toList ++ rootDiskKeys) with
  | some volumeId => String.ofList volumeId
  | none => "vm-" ++ toString vmid ++ "-disk-0"

/-! ## 3. What a drive holds -/

/-- A volume of the recognised form. -/
def DiskVolume (v : List Char) : Prop :=
  ∃ kind ∈ ["vm-", "base-"], ∃ owner disk : List Char, owner ≠ [] ∧ owner.all Char.isDigit = true ∧
    disk ≠ [] ∧ disk.all Char.isDigit = true ∧
      v = kind.toList ++ owner ++ "-disk-".toList ++ disk

/-- A drive that holds a volume: a storage, the volume behind its colon, and options. -/
def Holds (raw v : List Char) : Prop :=
  DiskVolume v ∧ ∃ storage a b rest, raw = storage ++ ':' :: (a ++ v ++ b ++ rest) ∧
    ':' ∉ storage ∧ Text.Blank a ∧ Text.Blank b ∧
      (rest = [] ∨ rest.head? = some ',' ∨ rest.head? = some ':')

theorem dropText_eq_some {t : String} {s rest : List Char} :
    dropText t s = some rest ↔ s = t.toList ++ rest := by
  unfold dropText
  split
  · rename_i h
    obtain ⟨tail, rfl⟩ := List.isPrefixOf_iff_prefix.mp h
    rw [List.drop_left, Option.some_inj, List.append_cancel_left_eq]
  · rename_i h
    refine iff_of_false (by simp) fun e => h ?_
    rw [e]
    exact List.isPrefixOf_iff_prefix.mpr (List.prefix_append _ _)

theorem isDiskNumber_iff {s : List Char} :
    isDiskNumber s = true ↔
      ∃ disk, s = "-disk-".toList ++ disk ∧ disk ≠ [] ∧ disk.all Char.isDigit = true := by
  unfold isDiskNumber
  constructor
  · intro h
    split at h
    · rename_i disk hd
      exact ⟨disk, dropText_eq_some.mp hd, by simpa using h⟩
    · cases h
  · intro hparts
    obtain ⟨disk, hs, hne, hall⟩ := hparts
    rw [dropText_eq_some.mpr hs]
    simpa using ⟨hne, by simpa using hall⟩

/-- Digits in front of a text that does not begin with one. -/
theorem takeWhile_digits {ds rest : List Char} (hds : ds.all Char.isDigit = true)
    (hrest : ∀ c ∈ rest.head?, Char.isDigit c = false) :
    (ds ++ rest).takeWhile Char.isDigit = ds ∧ (ds ++ rest).dropWhile Char.isDigit = rest := by
  have hall : ∀ c ∈ ds, Char.isDigit c = true := List.all_eq_true.mp hds
  rw [List.takeWhile_append_of_pos hall, List.dropWhile_append_of_pos hall]
  cases rest with
  | nil => exact ⟨List.append_nil _, rfl⟩
  | cons c rest =>
    have hc : ¬ Char.isDigit c = true := by simp [hrest c rfl]
    rw [List.takeWhile_cons_of_neg hc, List.dropWhile_cons_of_neg hc]
    exact ⟨List.append_nil _, rfl⟩

theorem isNumberedDisk_iff {s : List Char} :
    isNumberedDisk s = true ↔ ∃ owner disk : List Char, owner ≠ [] ∧
      owner.all Char.isDigit = true ∧ disk ≠ [] ∧ disk.all Char.isDigit = true ∧
        s = owner ++ "-disk-".toList ++ disk := by
  rw [isNumberedDisk, Bool.and_eq_true, isDiskNumber_iff]
  constructor
  · intro hparts
    obtain ⟨howner, disk, hs, hne, hall⟩ := hparts
    refine ⟨s.takeWhile Char.isDigit, disk, by simpa using howner, ?_, hne, hall, ?_⟩
    · exact List.all_eq_true.mpr fun c hc => List.mem_takeWhile_imp hc
    · rw [List.append_assoc, ← hs, List.takeWhile_append_dropWhile]
  · intro hparts
    obtain ⟨owner, disk, hne, hall, hdisk, hdall, hs⟩ := hparts
    obtain ⟨htake, hdrop⟩ := @takeWhile_digits owner ("-disk-".toList ++ disk) hall (by
      intro c hc
      cases hc
      rfl)
    rw [hs, List.append_assoc, htake, hdrop]
    exact ⟨by simpa using hne, disk, rfl, hdisk, hdall⟩

theorem isDiskVolume_iff {v : List Char} : isDiskVolume v = true ↔ DiskVolume v := by
  unfold isDiskVolume
  constructor
  · intro h
    split at h
    · rename_i rest hrest
      obtain ⟨owner, disk, hne, hall, hdisk, hdall, hs⟩ := isNumberedDisk_iff.mp h
      rcases Option.or_eq_some_iff.mp hrest with hkind | ⟨_, hkind⟩
      · refine ⟨"vm-", List.mem_cons_self, owner, disk, hne, hall, hdisk, hdall, ?_⟩
        rw [dropText_eq_some.mp hkind, hs]
        simp only [List.append_assoc]
      · refine ⟨"base-", by simp, owner, disk, hne, hall, hdisk, hdall, ?_⟩
        rw [dropText_eq_some.mp hkind, hs]
        simp only [List.append_assoc]
    · cases h
  · intro hparts
    obtain ⟨kind, hkind, owner, disk, hne, hall, hdisk, hdall, hv⟩ := hparts
    have hrest := isNumberedDisk_iff.mpr ⟨owner, disk, hne, hall, hdisk, hdall, rfl⟩
    have hdrop : dropText kind v = some (owner ++ "-disk-".toList ++ disk) :=
      dropText_eq_some.mpr (by rw [hv]; simp only [List.append_assoc])
    rcases List.mem_cons.mp hkind with hvm | hkind
    · rw [← hvm, hdrop, Option.some_or]
      exact hrest
    · have hbase := List.mem_singleton.mp hkind
      have hnone : dropText "vm-" v = none := by
        rw [Option.eq_none_iff_forall_ne_some]
        intro rest he
        have hv' := dropText_eq_some.mp he
        rw [hv, hbase] at hv'
        cases hv'
      rw [hnone, ← hbase, hdrop, Option.none_or]
      exact hrest

/-- The characters of a volume are no separators. -/
theorem not_mem_diskVolume {v : List Char} (h : DiskVolume v) {c : Char}
    (hdigit : Char.isDigit c = false) (hc : c ∉ "vm-base-disk-".toList) : c ∉ v := by
  obtain ⟨kind, hkind, owner, disk, _, hall, _, hdall, hv⟩ := h
  have hno : ∀ {ds : List Char}, ds.all Char.isDigit = true → c ∉ ds := by
    intro ds hds hm
    rw [List.all_eq_true.mp hds c hm] at hdigit
    cases hdigit
  have hkinds : ∀ kind ∈ ["vm-", "base-"], kind.toList ⊆ "vm-base-disk-".toList := by
    decide +kernel
  have hdisk : "-disk-".toList ⊆ "vm-base-disk-".toList := by decide +kernel
  rw [hv]
  refine List.not_mem_append (List.not_mem_append (List.not_mem_append ?_ (hno hall)) ?_)
    (hno hdall)
  · exact fun hm => hc (hkinds kind hkind hm)
  · exact fun hm => hc (hdisk hm)

/-- A volume is trimmed. -/
theorem trimmed_diskVolume {v : List Char} (h : DiskVolume v) : Text.Trimmed v := by
  refine Text.trimmed_of_no_space fun c hc => ?_
  by_contra hspace
  rw [Bool.not_eq_false] at hspace
  have hspaces : (!c.isDigit && !"vm-base-disk-".toList.elem c) = true :=
    (@List.all_eq_true _ (fun c : Char => !c.isDigit && !"vm-base-disk-".toList.elem c) _).mp
      (by decide +kernel) c (of_decide_eq_true hspace)
  rw [Bool.and_eq_true, Bool.not_eq_true', Bool.not_eq_true'] at hspaces
  refine not_mem_diskVolume h hspaces.1 (fun hm => ?_) hc
  rw [List.elem_eq_true_of_mem hm] at hspaces
  exact Bool.noConfusion hspaces.2

theorem diskVolume_ne_nil {v : List Char} (h : DiskVolume v) : v ≠ [] := by
  obtain ⟨kind, _, owner, disk, _, _, hne, _, hv⟩ := h
  intro e
  rw [hv, List.append_eq_nil_iff] at e
  exact hne e.2

/-- **The steps of the loop in one**: the first field behind the first colon. -/
theorem heldVolume_parts {raw : String} {v : List Char} :
    heldVolume (.str raw) = some v ↔ ∃ storage right us,
      Text.splitOn ':' raw.toList = storage :: right :: us ∧
        Text.trim ((Text.splitOn ',' right).headD []) = v ∧ DiskVolume v := by
  rw [heldVolume]
  constructor
  · intro h
    split at h
    · cases h
    · simp only at h
      split at h
      · cases h
      · rename_i hright
        split at h
        · cases h
        · split at h
          · rename_i hvolume
            cases h
            cases hs : Text.splitOn ':' raw.toList with
            | nil => exact absurd hs (Text.splitOn_ne_nil _ _)
            | cons storage ws =>
              rw [hs] at hright hvolume
              cases ws with
              | nil => exact absurd rfl hright
              | cons right us => exact ⟨storage, right, us, rfl, rfl, isDiskVolume_iff.mp hvolume⟩
          · cases h
  · intro hparts
    obtain ⟨storage, right, us, hs, htrim, hvolume⟩ := hparts
    have hcolon : ¬ Text.includes [':'] raw.toList = false := by
      rw [Bool.not_eq_false, Text.includes_iff, ← Text.joinWith_splitOn ':' raw.toList, hs]
      exact ⟨storage, Text.joinWith [':'] (right :: us), rfl⟩
    have hright : right ≠ [] := by
      intro e
      rw [e] at htrim
      exact diskVolume_ne_nil hvolume (htrim.symm.trans rfl)
    have hget : ((Text.splitOn ':' raw.toList).take 2)[1]?.getD [] = right := by
      rw [hs]
      rfl
    rw [if_neg hcolon]
    simp only [hget]
    rw [if_neg hright, htrim, if_neg (diskVolume_ne_nil hvolume),
      if_pos (isDiskVolume_iff.mpr hvolume)]

/-- What stands behind the first part of a split text. -/
def Behind (sep : Char) (rest : List Char) : Prop := rest = [] ∨ rest.head? = some sep

theorem splitOn_behind {sep : Char} {s w : List Char} {ws : List (List Char)}
    (h : Text.splitOn sep s = w :: ws) : ∃ rest, s = w ++ rest ∧ Behind sep rest := by
  obtain ⟨_, ⟨hs, _⟩ | ⟨rest, hs, _⟩⟩ := Text.splitOn_parts h
  · exact ⟨[], by rw [hs, List.append_nil], .inl rfl⟩
  · exact ⟨sep :: rest, hs, .inr rfl⟩

/-- The first field of what a colon or a comma follows. -/
theorem first_field {core rest right : List Char} {us : List (List Char)}
    (hcolon : ':' ∉ core) (hcomma : ',' ∉ core)
    (hrest : rest = [] ∨ rest.head? = some ',' ∨ rest.head? = some ':')
    (h : Text.splitOn ':' (core ++ rest) = right :: us) :
    (Text.splitOn ',' right).headD [] = core := by
  cases hu : Text.splitOn ':' rest with
  | nil => exact absurd hu (Text.splitOn_ne_nil _ _)
  | cons u us' =>
    rw [Text.splitOn_prefix hcolon hu, List.cons.injEq] at h
    obtain ⟨hnot, _⟩ := Text.splitOn_parts hu
    obtain ⟨tail, htail, _⟩ := splitOn_behind hu
    rw [← h.1]
    cases u with
    | nil =>
      rw [List.append_nil, Text.splitOn_of_not_mem hcomma]
      rfl
    | cons c u =>
      -- the first part of the rest begins as the rest does
      have hc : c = ',' := by
        rw [htail] at hrest
        rcases hrest with hrest | hrest | hrest
        · cases hrest
        · exact Option.some.inj hrest
        · exact absurd (Option.some.inj hrest ▸ List.mem_cons_self) hnot
      rw [hc, Text.splitOn_append _ hcomma]
      rfl

/-- **The volume that is found is the one that the drive holds.** -/
theorem heldVolume_eq_some {raw : String} {v : List Char} :
    heldVolume (.str raw) = some v ↔ Holds raw.toList v := by
  rw [heldVolume_parts]
  constructor
  · intro hparts
    obtain ⟨storage, right, us, hs, htrim, hvolume⟩ := hparts
    refine ⟨hvolume, ?_⟩
    obtain ⟨hstorage, ⟨_, hws⟩ | ⟨tail, hraw, hws⟩⟩ := Text.splitOn_parts hs
    · cases hws
    · obtain ⟨rest, htail, hrest⟩ := splitOn_behind hws.symm
      cases hf : Text.splitOn ',' right with
      | nil => exact absurd hf (Text.splitOn_ne_nil _ _)
      | cons first fs =>
        obtain ⟨options, hright, hoptions⟩ := splitOn_behind hf
        obtain ⟨a, b, hfirst, ha, hb, _⟩ := Text.trim_parts first
        rw [hf] at htrim
        rw [List.headD_cons] at htrim
        rw [htrim] at hfirst
        refine ⟨storage, a, b, options ++ rest, ?_, hstorage, ha, hb, ?_⟩
        · rw [hraw, htail, hright, hfirst]
          simp only [List.append_assoc]
        · rcases hoptions with hnil | hhead
          · rw [hnil, List.nil_append]
            exact hrest.imp_right .inr
          · exact .inr (.inl (by rw [List.head?_append, hhead, Option.some_or]))
  · intro hparts
    obtain ⟨hvolume, storage, a, b, rest, hraw, hstorage, ha, hb, hrest⟩ := hparts
    have hblank : ∀ {a : List Char} {c : Char}, Text.Blank a → Text.isSpace c = false → c ∉ a := by
      intro a c ha hc hm
      rw [ha c hm] at hc
      cases hc
    have hcore : ∀ {c : Char}, Text.isSpace c = false → Char.isDigit c = false →
        c ∉ "vm-base-disk-".toList → c ∉ a ++ v ++ b := fun hspace hdigit hc =>
      List.not_mem_append (List.not_mem_append (hblank ha hspace)
        (not_mem_diskVolume hvolume hdigit hc)) (hblank hb hspace)
    cases hr : Text.splitOn ':' (a ++ v ++ b ++ rest) with
    | nil => exact absurd hr (Text.splitOn_ne_nil _ _)
    | cons right us =>
      refine ⟨storage, right, us, ?_, ?_, hvolume⟩
      · rw [hraw, Text.splitOn_append _ hstorage, hr]
      · rw [first_field (hcore (by decide) (by decide) (by decide +kernel))
          (hcore (by decide) (by decide) (by decide +kernel)) hrest hr,
          Text.trim_of_parts ha (trimmed_diskVolume hvolume) hb]

/-! ## 4. The boot order -/

/-- The name of a device. -/
structure Device (d : List Char) : Prop where
  nonempty : d ≠ []
  plain : ∀ c ∈ d, c ≠ ';' ∧ isKeyChar c = true

/-- `[[legacy=]<[acdn]{1,4}>] [,`, in front of `order=`. -/
def Legacy (l : List Char) : Prop :=
  l = [] ∨ ∃ key ∈ [[], "legacy=".toList], ∃ drives : List Char, drives ⊆ "acdn".toList ∧
    1 ≤ drives.length ∧ drives.length ≤ 4 ∧ l = key ++ drives ++ [',']

/-- **The documented form** of a boot order: `order=<device>[;<device>...]`. -/
structure BootForm (boot : List Char) (devices : List (List Char)) : Prop where
  nonempty : devices ≠ []
  named : ∀ d ∈ devices, Device d
  text : ∃ legacy, Legacy legacy ∧ boot = legacy ++ ("order=".toList ++ Text.joinWith [';'] devices)

theorem orderMatch_skip {s l : List Char} (h : 'o' ∉ l) : orderMatch (l ++ s) = orderMatch s := by
  induction l with
  | nil => rfl
  | cons c l ih =>
    have hnone : dropText "order=" (c :: (l ++ s)) = none := by
      rw [Option.eq_none_iff_forall_ne_some]
      intro rest he
      have hc : c = 'o' := (List.cons.inj (dropText_eq_some.mp he)).1
      exact h (hc ▸ List.mem_cons_self)
    rw [List.cons_append, orderMatch, hnone]
    exact ih fun hm => h (List.mem_cons_of_mem _ hm)

theorem orderMatch_order {key : List Char} (hne : key ≠ []) (hkey : ∀ c ∈ key, isKeyChar c = true) :
    orderMatch ("order=".toList ++ key) = some key := by
  have hdrop : dropText "order=" ("order=".toList ++ key) = some key := dropText_eq_some.mpr rfl
  have htake : key.takeWhile isKeyChar = key := List.takeWhile_eq_self_iff.mpr hkey
  have hmatch : ∀ c s, dropText "order=" (c :: s) = some key → orderMatch (c :: s) = some key := by
    intro c s h
    rw [orderMatch, h, Option.map_some, htake]
    cases key with
    | nil => exact absurd rfl hne
    | cons d key => rfl
  exact hmatch _ _ hdrop

theorem not_mem_legacy {l : List Char} (h : Legacy l) : 'o' ∉ l := by
  rcases h with h | ⟨key, hkey, drives, hdrives, _, _, h⟩
  · rw [h]
    exact List.not_mem_nil
  · have hkeys : ∀ key ∈ [[], "legacy=".toList], 'o' ∉ key := by decide +kernel
    have hacdn : 'o' ∉ "acdn".toList := by decide +kernel
    rw [h]
    exact List.not_mem_append
      (List.not_mem_append (hkeys key hkey) fun hm => hacdn (hdrives hm)) (by decide)

/-- **The list of a boot order is tried as one key.** -/
theorem orderMatch_form {boot : List Char} {devices : List (List Char)}
    (h : BootForm boot devices) : orderMatch boot = some (Text.joinWith [';'] devices) := by
  obtain ⟨legacy, hlegacy, hboot⟩ := h.text
  rw [hboot, orderMatch_skip (not_mem_legacy hlegacy)]
  refine orderMatch_order ?_ ?_
  · obtain ⟨d, ds, hds⟩ := List.exists_cons_of_ne_nil h.nonempty
    intro e
    obtain ⟨c, w, hw⟩ := List.exists_cons_of_ne_nil (h.named d (hds ▸ List.mem_cons_self)).nonempty
    rw [hds, hw] at e
    cases ds with
    | nil => cases e
    | cons d' ds => cases e
  · intro c hc
    rcases Text.mem_joinWith hc with ⟨d, hd, hc⟩ | hc
    · exact ((h.named d hd).plain c hc).2
    · rw [List.mem_singleton.mp hc]
      decide

/-- A boot order lists its devices in one way. -/
theorem bootForm_unique {boot : List Char} {ds ds' : List (List Char)} (h : BootForm boot ds)
    (h' : BootForm boot ds') : ds = ds' := by
  have hjoin := Option.some.inj ((orderMatch_form h).symm.trans (orderMatch_form h'))
  have hplain : ∀ {ds : List (List Char)}, BootForm boot ds → ∀ d ∈ ds, ';' ∉ d :=
    fun h d hd hm => ((h.named d hd).plain ';' hm).1 rfl
  rw [← Text.splitOn_joinWith h.nonempty (hplain h), hjoin,
    Text.splitOn_joinWith h'.nonempty (hplain h')]

/-! ## 5. The law of the root disk -/

/-- The configuration of a VM. The names of its options have no `;`. -/
structure VmConfig where
  options : List (String × Value)
  names : ∀ p ∈ options, ';' ∉ p.1.toList

/-- The devices that the boot order of a configuration lists. -/
def Lists (config : VmConfig) (devices : List (List Char)) : Prop :=
  ∃ boot, lookup "boot" config.options = .str boot ∧ BootForm boot.toList devices

/-- The volume of the first of the four disks that holds one, or the usual name. -/
def usualDisk (vmid : Nat) (config : VmConfig) : String :=
  match firstHeld config.options rootDiskKeys with
  | some v => String.ofList v
  | none => "vm-" ++ toString vmid ++ "-disk-0"

/-- **The root disk**: the volume of the first listed device that holds one, and without one the
    usual disk. -/
inductive RootDisk (vmid : Nat) (config : VmConfig) : String → Prop where
  | listed {devices : List (List Char)} {v : List Char} (lists : Lists config devices)
      (first : firstHeld config.options devices = some v) : RootDisk vmid config (String.ofList v)
  | usual (none : ∀ devices, Lists config devices → firstHeld config.options devices = none) :
      RootDisk vmid config (usualDisk vmid config)

/-- The root disk is inferred. -/
def RootDiskLaw (vmid : Nat) (config : VmConfig) : Prop :=
  RootDisk vmid config (inferRootDiskVolumeId vmid config.options)

/-- A boot order that leads to the root disk: it lists one device, or the first listed device with
    a volume holds the usual disk; and a text of another form names no disk but the usual one. -/
structure Followed (vmid : Nat) (config : VmConfig) : Prop where
  single : ∀ devices v, Lists config devices → 2 ≤ devices.length →
    firstHeld config.options devices = some v → String.ofList v = usualDisk vmid config
  other : ∀ boot key v, lookup "boot" config.options = .str boot →
    (∀ devices, ¬ BootForm boot.toList devices) → orderMatch boot.toList = some key →
      heldVolume (lookup (String.ofList key) config.options) = some v →
        String.ofList v = usualDisk vmid config

theorem lists_unique {config : VmConfig} {ds ds' : List (List Char)} (h : Lists config ds)
    (h' : Lists config ds') : ds = ds' := by
  obtain ⟨boot, hboot, h⟩ := h
  obtain ⟨boot', hboot', h'⟩ := h'
  rw [hboot, Value.str.injEq] at hboot'
  exact bootForm_unique h (hboot' ▸ h')

theorem rootDisk_iff_listed {vmid : Nat} {config : VmConfig} {ds : List (List Char)}
    {v : List Char} (h : Lists config ds) (hv : firstHeld config.options ds = some v) (s : String) :
    RootDisk vmid config s ↔ s = String.ofList v := by
  constructor
  · intro hs
    cases hs with
    | listed h' hv' =>
      rw [lists_unique h' h, hv] at hv'
      rw [Option.some.inj hv']
    | usual hnone =>
      rw [hnone ds h] at hv
      cases hv
  · intro hs
    rw [hs]
    exact .listed h hv

theorem rootDisk_iff_usual {vmid : Nat} {config : VmConfig}
    (h : ∀ ds, Lists config ds → firstHeld config.options ds = none) (s : String) :
    RootDisk vmid config s ↔ s = usualDisk vmid config := by
  constructor
  · intro hs
    cases hs with
    | listed h' hv' =>
      rw [h _ h'] at hv'
      cases hv'
    | usual _ => rfl
  · intro hs
    rw [hs]
    exact .usual h

/-- No option has a name with a `;`. -/
theorem lookup_list {config : VmConfig} {key : List Char} (h : ';' ∈ key) :
    lookup (String.ofList key) config.options = .undefined := by
  obtain ⟨options, names⟩ := config
  induction options with
  | nil => rfl
  | cons p options ih =>
    have hne : p.1 ≠ String.ofList key := by
      intro e
      have hp := names p List.mem_cons_self
      rw [e, String.toList_ofList] at hp
      exact hp h
    rw [lookup, if_neg hne]
    exact ih fun q hq => names q (List.mem_cons_of_mem _ hq)

/-- What is inferred, by the key that is tried first. -/
theorem infer_eq (vmid : Nat) (config : VmConfig) :
    inferRootDiskVolumeId vmid config.options =
      match firstHeld config.options (bootOrder config.options).toList with
      | some v => String.ofList v
      | none => usualDisk vmid config := by
  rw [inferRootDiskVolumeId, firstHeld, List.findSome?_append]
  change (match (firstHeld _ _).or (firstHeld _ _) with | some v => _ | none => _) = _
  cases firstHeld config.options (bootOrder config.options).toList with
  | none => rw [Option.none_or]; rfl
  | some v => rfl

theorem firstHeld_single (config : List (String × Value)) (key : List Char) :
    firstHeld config [key] = heldVolume (lookup (String.ofList key) config) := by
  rw [firstHeld, List.findSome?_cons]
  cases heldVolume (lookup (String.ofList key) config) with
  | none => rfl
  | some v => rfl

/-- **A list of one device is followed.** -/
theorem rootDisk_single {vmid : Nat} {config : VmConfig} {d : List Char} (h : Lists config [d]) :
    RootDiskLaw vmid config := by
  have hinfer := infer_eq vmid config
  obtain ⟨boot, hboot, hform⟩ := h
  have horder : bootOrder config.options = some d := by
    rw [bootOrder, hboot]
    exact orderMatch_form hform
  rw [horder, Option.toList_some] at hinfer
  have hlists : Lists config [d] := ⟨boot, hboot, hform⟩
  cases hv : firstHeld config.options [d] with
  | some v =>
    rw [hv] at hinfer
    exact (rootDisk_iff_listed hlists hv _).mpr hinfer
  | none =>
    rw [hv] at hinfer
    refine (rootDisk_iff_usual (fun ds hds => ?_) _).mpr hinfer
    rw [lists_unique hds hlists, hv]

/-- **Of a longer list no device is found.** -/
theorem infer_longer {vmid : Nat} {config : VmConfig} {ds : List (List Char)}
    (h : Lists config ds) (hlong : 2 ≤ ds.length) :
    inferRootDiskVolumeId vmid config.options = usualDisk vmid config := by
  obtain ⟨boot, hboot, hform⟩ := h
  have horder : bootOrder config.options = some (Text.joinWith [';'] ds) := by
    rw [bootOrder, hboot]
    exact orderMatch_form hform
  have hsep : ';' ∈ Text.joinWith [';'] ds := by
    match ds, hlong with
    | d :: d' :: ds, _ => exact List.mem_append_left _ (List.mem_append_right _ List.mem_cons_self)
  rw [infer_eq, horder, Option.toList_some, firstHeld_single, lookup_list hsep]
  rfl

/-- **Without a boot order in the documented form**, what stands behind `order=` is tried. -/
theorem infer_other {vmid : Nat} {config : VmConfig} (h : ∀ ds, ¬ Lists config ds) :
    inferRootDiskVolumeId vmid config.options = usualDisk vmid config ↔
      ∀ boot key v, lookup "boot" config.options = .str boot →
        (∀ devices, ¬ BootForm boot.toList devices) → orderMatch boot.toList = some key →
          heldVolume (lookup (String.ofList key) config.options) = some v →
            String.ofList v = usualDisk vmid config := by
  rw [infer_eq]
  cases ho : bootOrder config.options with
  | none =>
    refine iff_of_true rfl fun boot key v hboot _ hkey _ => ?_
    rw [bootOrder, hboot] at ho
    exact absurd (hkey.symm.trans ho) (Option.some_ne_none key)
  | some key =>
    rw [Option.toList_some, firstHeld_single]
    have hmatch : ∀ boot, lookup "boot" config.options = .str boot →
        orderMatch boot.toList = some key := by
      intro boot hboot
      rw [bootOrder, hboot] at ho
      exact ho
    constructor
    · intro hsame boot key' v hboot _ hkey hv
      rw [hmatch boot hboot, Option.some_inj] at hkey
      rw [hkey, hv] at hsame
      exact hsame
    · intro hother
      cases hv : heldVolume (lookup (String.ofList key) config.options) with
      | none => rfl
      | some v =>
        cases hboot : lookup "boot" config.options with
        | str boot =>
          exact hother boot key v hboot (fun ds hds => h ds ⟨boot, hboot, hds⟩)
            (hmatch boot hboot) hv
        | _ =>
          rw [bootOrder, hboot] at ho
          cases ho

/-- **The law of the root disk**, exactly: it is inferred if the boot order is followed. A list of
    several devices is followed only where it leads to the usual disk anyway. -/
theorem rootDiskLaw_iff (vmid : Nat) (config : VmConfig) :
    RootDiskLaw vmid config ↔ Followed vmid config := by
  by_cases h : ∃ ds, Lists config ds
  · obtain ⟨ds, hds⟩ := h
    have hother : ∀ boot, lookup "boot" config.options = .str boot →
        ¬ ∀ devices, ¬ BootForm boot.toList devices := by
      intro boot hboot hnone
      obtain ⟨boot', hboot', hform⟩ := hds
      rw [hboot, Value.str.injEq] at hboot'
      exact hnone ds (hboot' ▸ hform)
    have hfollowed : Followed vmid config ↔ (2 ≤ ds.length →
        ∀ v, firstHeld config.options ds = some v → String.ofList v = usualDisk vmid config) := by
      constructor
      · exact fun hf hlong v hv => hf.single ds v hds hlong hv
      · refine fun hf => ⟨fun ds' v hds' hlong hv => ?_, fun boot _ _ hboot hnone => ?_⟩
        · rw [lists_unique hds' hds] at hlong hv
          exact hf hlong v hv
        · exact absurd hnone (hother boot hboot)
    rw [hfollowed]
    by_cases hlong : 2 ≤ ds.length
    · have hinfer := @infer_longer vmid config ds hds hlong
      cases hv : firstHeld config.options ds with
      | some v =>
        rw [RootDiskLaw, rootDisk_iff_listed hds hv, hinfer]
        refine ⟨fun e _ w hw => ?_, fun hf => (hf hlong v rfl).symm⟩
        rw [← Option.some.inj hw, e]
      | none =>
        refine iff_of_true ?_ fun _ w hw => nomatch hw
        refine (rootDisk_iff_usual (fun ds' hds' => ?_) _).mpr hinfer
        rw [lists_unique hds' hds, hv]
    · refine iff_of_true ?_ fun hl => absurd hl hlong
      match ds, hds, hlong with
      | [], hds, _ =>
        obtain ⟨_, _, hform⟩ := hds
        exact absurd rfl hform.nonempty
      | [d], hds, _ => exact rootDisk_single hds
      | d :: d' :: ds, _, hlong => exact absurd (by simp) hlong
  · have hnone : ∀ ds, ¬ Lists config ds := fun ds hds => h ⟨ds, hds⟩
    rw [RootDiskLaw, rootDisk_iff_usual fun ds hds => absurd hds (hnone ds), infer_other hnone]
    exact ⟨fun hf => ⟨fun ds _ hds => absurd hds (hnone ds), hf⟩, fun hf => hf.other⟩

/-- A VM that boots from its CD-ROM drive or else from its second disk. -/
def secondDisk : VmConfig where
  options := [("boot", .str "order=ide2;scsi1"),
    ("ide2", .str "local:iso/debian.iso,media=cdrom"),
    ("scsi1", .str "local-lvm:vm-100-disk-1,size=32G")]
  names := by decide +kernel

/-- Its root disk is not the one that is inferred. -/
theorem secondDisk_missed : ¬ ∀ (vmid : Nat) (config : VmConfig), RootDiskLaw vmid config := by
  intro h
  have hlists : Lists secondDisk ["ide2".toList, "scsi1".toList] := by
    refine ⟨"order=ide2;scsi1", rfl, by decide, fun d hd => ?_, [], .inl rfl, by decide +kernel⟩
    have hdevice : ∀ d ∈ ["ide2".toList, "scsi1".toList],
        d ≠ [] ∧ d.all (fun c => c ≠ ';' ∧ isKeyChar c) = true := by decide +kernel
    obtain ⟨hne, hall⟩ := hdevice d hd
    exact ⟨hne, fun c hc => by simpa using List.all_eq_true.mp hall c hc⟩
  have hfirst : firstHeld secondDisk.options ["ide2".toList, "scsi1".toList] =
      some "vm-100-disk-1".toList := by decide +kernel
  have hinfer : inferRootDiskVolumeId 100 secondDisk.options = "vm-100-disk-0" := by
    decide +kernel
  have hlaw := (rootDisk_iff_listed hlists hfirst _).mp (h 100 secondDisk)
  rw [hinfer] at hlaw
  exact absurd hlaw (by decide +kernel)

end ProxmoxMcp
