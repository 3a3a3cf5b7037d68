/-
  File:      ProxmoxMcp/PciAttach.lean
  Subject:   WHAT A PCI ATTACHMENT WRITES (`buildHostpciConfigValue`, `vmAttachPciDevice`): the value
             of `hostpciN`, and the two ways it goes.

  The texts of the options go into the value as they are. A comma in one of them begins another
  entry.

  * `attachLaw_iff`: the options whose entries are exactly those that were given.
-/
import ProxmoxMcp.NodeOperations
import ProxmoxMcp.Quoting
import ProxmoxMcp.Rules
import ProxmoxMcp.Lib.Entries

namespace ProxmoxMcp

open Js Effects Prog

variable [Text.Unicode]

/-! ## 1. The options that are given -/

/-- The options of a PCI device, besides its slot. -/
inductive PciOption where
  | host
  | mapping
  | deviceId
  | driver
  | legacyIgd
  | mdev
  | pcie
  | rombar
  | romfile
  | subDeviceId
  | subVendorId
  | vendorId
  | xVga
  deriving DecidableEq, Repr

/-- The key of an option in Proxmox. -/
def PciOption.key : PciOption → List Char
  | .host => "host".toList
  | .mapping => "mapping".toList
  | .deviceId => "device-id".toList
  | .driver => "driver".toList
  | .legacyIgd => "legacy-igd".toList
  | .mdev => "mdev".toList
  | .pcie => "pcie".toList
  | .rombar => "rombar".toList
  | .romfile => "romfile".toList
  | .subDeviceId => "sub-device-id".toList
  | .subVendorId => "sub-vendor-id".toList
  | .vendorId => "vendor-id".toList
  | .xVga => "x-vga".toList

def pciOptions : List PciOption :=
  [.host, .mapping, .deviceId, .driver, .legacyIgd, .mdev, .pcie, .rombar, .romfile, .subDeviceId,
    .subVendorId, .vendorId, .xVga]

/-- A text that is given. An empty one counts as none, as for `host` and `mapping` themselves. -/
def givenText (text : Option String) : Option (List Char) := (nonEmpty text).map String.toList

/-- A flag that is given: `1` or `0`. -/
def givenFlag (flag : Option Bool) : Option (List Char) :=
  flag.map fun b => if b then ['1'] else ['0']

/-- The value that is given for an option. -/
def VmPciPassthroughOptions.given (options : VmPciPassthroughOptions) :
    PciOption → Option (List Char)
  | .host => givenText options.host
  | .mapping => givenText options.mapping
  | .deviceId => givenText options.deviceId
  | .driver => givenText options.driver
  | .legacyIgd => givenFlag options.legacyIgd
  | .mdev => givenText options.mdev
  | .pcie => givenFlag options.pcie
  | .rombar => givenFlag options.rombar
  | .romfile => givenText options.romfile
  | .subDeviceId => givenText options.subDeviceId
  | .subVendorId => givenText options.subVendorId
  | .vendorId => givenText options.vendorId
  | .xVga => givenFlag options.xVga

/-- The options that are given, each with its key and its value. -/
def VmPciPassthroughOptions.entries (options : VmPciPassthroughOptions) :
    List (List Char × List Char) :=
  pciOptions.flatMap fun o => ((options.given o).map fun v => (o.key, v)).toList

/-- What `vmAttachPciDevice` accepts: exactly one of a host device and a mapping. -/
def VmPciPassthroughOptions.Accepted (options : VmPciPassthroughOptions) : Prop :=
  (nonEmpty options.host).isSome ≠ (nonEmpty options.mapping).isSome

instance (options : VmPciPassthroughOptions) : Decidable options.Accepted :=
  inferInstanceAs (Decidable (_ ≠ _))

omit [Text.Unicode] in
theorem map_textPart (key : String) (text : Option String) :
    (textPart key text).map String.toList =
      (((givenText text).map fun v => (key.toList, v)).toList).map Text.printEntry := by
  rw [textPart, givenText]
  cases nonEmpty text with
  | none => rfl
  | some s =>
    have hprint : (key ++ "=" ++ s).toList = Text.printEntry (key.toList, s.toList) := by
      rw [String.toList_append, String.toList_append, List.append_assoc]
      rfl
    exact congrArg (fun l => [l]) hprint

omit [Text.Unicode] in
theorem map_flagPart (key : String) (flag : Option Bool) :
    (flagPart key flag).map String.toList =
      (((givenFlag flag).map fun v => (key.toList, v)).toList).map Text.printEntry := by
  cases flag with
  | none => rfl
  | some b =>
    have hprint : ∀ s : String, (key ++ "=" ++ s).toList = Text.printEntry (key.toList, s.toList) := by
      intro s
      rw [String.toList_append, String.toList_append, List.append_assoc]
      rfl
    cases b with
    | false => exact congrArg (fun l => [l]) (hprint "0")
    | true => exact congrArg (fun l => [l]) (hprint "1")

omit [Text.Unicode] in
/-- **The value is the given options, printed.** -/
theorem buildHostpciConfigValue_eq (options : VmPciPassthroughOptions) :
    (buildHostpciConfigValue options).toList = Text.printEntries options.entries := by
  rw [buildHostpciConfigValue, String.toList_ofList, Text.printEntries]
  refine congrArg (Text.joinWith [',']) ?_
  simp only [List.map_append, map_textPart, map_flagPart]
  simp only [VmPciPassthroughOptions.entries, pciOptions, List.flatMap_cons, List.flatMap_nil,
    List.append_nil, List.map_append, List.append_assoc]
  rfl

omit [Text.Unicode] in
/-- The keys are keys. -/
theorem entryKey_of_mem {options : VmPciPassthroughOptions} :
    ∀ p ∈ options.entries, Text.EntryKey p.1 := by
  intro p hp
  obtain ⟨o, _, ho⟩ := List.mem_flatMap.mp hp
  have hkey : p.1 = o.key := by
    cases hg : options.given o with
    | none =>
      rw [hg] at ho
      cases ho
    | some v =>
      rw [hg] at ho
      rw [List.mem_singleton.mp ho]
  have hkeys : ∀ o : PciOption, ',' ∉ o.key ∧ '=' ∉ o.key := by
    intro o
    cases o <;> decide +kernel
  rw [hkey]
  exact ⟨(hkeys o).1, (hkeys o).2⟩

omit [Text.Unicode] in
/-- What is accepted gives an option. -/
theorem entries_ne_nil {options : VmPciPassthroughOptions} (h : options.Accepted) :
    options.entries ≠ [] := by
  have hmem : ∀ o ∈ pciOptions, ∀ v, options.given o = some v → (o.key, v) ∈ options.entries := by
    intro o ho v hv
    refine List.mem_flatMap.mpr ⟨o, ho, ?_⟩
    rw [hv]
    exact List.mem_singleton_self _
  cases hh : nonEmpty options.host with
  | some s =>
    have hgiven : options.given .host = some s.toList := by
      rw [VmPciPassthroughOptions.given, givenText, hh]
      rfl
    exact List.ne_nil_of_mem (hmem .host (by decide) _ hgiven)
  | none =>
    cases hm : nonEmpty options.mapping with
    | some s =>
      have hgiven : options.given .mapping = some s.toList := by
        rw [VmPciPassthroughOptions.given, givenText, hm]
        rfl
      exact List.ne_nil_of_mem (hmem .mapping (by decide) _ hgiven)
    | none => exact absurd (by rw [hh, hm]) h

/-! ## 2. The two ways -/

/-- Where the configuration of a VM is written. -/
def vmConfigPath (node : String) (vmid : Nat) : String :=
  "/nodes/" ++ node ++ "/qemu/" ++ toString vmid ++ "/config"

/-- The words of `qm set`. -/
def qmSetWords (vmid slot : Nat) (value : String) : List String :=
  ["qm", "set", toString vmid, "-" ++ hostpciKey slot, value]

/-- An effect that writes nothing but this value of this slot: a request is a read, or the update
    with the one argument `hostpciN`; a command is `qm set` with that argument, on the same node. -/
def Applies (S : Service) (cluster : String) (vmid slot : Nat) (value node : String) :
    Effect → Prop
  | .send sent =>
      sent.request.method = Text.toUpperCase "GET" ∨ ∃ config m,
        getCluster S.config cluster = .ok config ∧
          validate S.catalog "PUT" (vmConfigPath node vmid) [(hostpciKey slot, .str value)] = .ok m ∧
            buildRequest config "PUT" (vmConfigPath node vmid) m.args = .ok sent.request
  | .exec command =>
      command.site = nodeSite cluster node ∧
        Shell.readPipeline command.command.toList =
          some [⟨(qmSetWords vmid slot value).map String.toList, none⟩]
  | _ => True

section Ways

variable {S : Service} {cluster node value : String} {vmid slot : Nat}

theorem quiet_applies : Quiet fun _ e => Applies S cluster vmid slot value node e := by
  intro _ e he
  cases e with
  | send sent => cases he
  | exec command => cases he
  | _ => trivial

/-- Reads are no updates. -/
theorem admitsSends_applies {purpose : Purpose} {h : History} :
    AdmitsSends (fun _ e => Applies S cluster vmid slot value node e) purpose cluster "GET" h :=
  fun _ _ _ his => .inl his.2.2

omit [Text.Unicode] in
/-- **The command line of `qm set` has its words.** -/
theorem readPipeline_qmSet :
    Shell.readPipeline (shellJoin (qmSetWords vmid slot value)).toList =
      some [⟨(qmSetWords vmid slot value).map String.toList, none⟩] := by
  have hlex := lex_shellJoin (qmSetWords vmid slot value)
  have hwords : (qmSetWords vmid slot value).map (fun p => Shell.Token.word true p.toList) =
      ((qmSetWords vmid slot value).map fun p => (true, p.toList)).map
        fun w => Shell.Token.word w.1 w.2 := by
    rw [List.map_map]
    rfl
  rw [hwords] at hlex
  have hread := readPipeline_words hlex rfl
  rw [hread]
  rfl

/-- **The update applies the value, either way.** -/
theorem admitted_updateHostpci {mayFallBack : String → Bool} {message : String} {h : History} :
    Admitted (fun _ e => Applies S cluster vmid slot value node e)
      (S.updateHostpci cluster node vmid [(hostpciKey slot, .str value)] mayFallBack
        ["set", toString vmid, "-" ++ hostpciKey slot, value] message) h := by
  unfold Service.updateHostpci
  refine safe_tryCatch ?_ fun m h₁ _ => ?_
  · refine safe_bind (P := fun _ _ => True) ?_ fun response h₁ _ _ => safe_pure trivial
    unfold Service.proxmoxApiCall
    refine safe_bind (safe_assertPermission quiet_applies).admitted fun _ h₁ _ _ => ?_
    refine safe_ofExcept_bind fun validated hvalid => ?_
    refine safe_bind (safe_auditRecord quiet_applies).admitted fun _ h₂ _ _ => ?_
    refine safe_bind (P := fun _ _ => True) ?_ fun data h₃ _ _ => safe_pure trivial
    refine safe_apiRequest_built quiet_applies fun h₃ _ config request hconfig hrequest => ?_
    exact .inr ⟨config, validated, hconfig, hvalid, hrequest⟩
  · split
    · refine safe_bind (P := fun _ _ => True) ?_ fun result h₂ _ _ => ?_
      · unfold Service.proxmoxCliRun
        split
        · rename_i named _ hnamed
          have hnode : named = node := by
            rw [nodeSite, nonEmpty, Option.filter_eq_some_iff] at hnamed
            exact (Option.some.inj hnamed.1).symm
          refine safe_bind (safe_assertPermission quiet_applies).admitted fun _ h₂ _ _ => ?_
          refine safe_ofExcept_bind fun resolved _ => ?_
          refine safe_bind (safe_auditRecord quiet_applies).admitted fun _ h₃ _ _ => ?_
          refine safe_runSshCommand_line quiet_applies fun h₄ _ transport => ?_
          refine ⟨?_, readPipeline_qmSet⟩
          rw [hnode]
          rfl
        · exact safe_throw
      · exact safe_ofExcept_bind fun _ _ => safe_pure trivial
    · exact safe_throw

/-- The node that is asked for, or the one on which the VM is located. -/
theorem admitted_vmNode {nodeInput : Option String} :
    Admitted (fun _ e => Applies S cluster vmid slot value node e)
      (S.vmNode cluster vmid nodeInput) [] := by
  unfold Service.vmNode
  cases nodeInput with
  | some named => exact safe_pure trivial
  | none => exact (safe_getVmLocation quiet_applies admitsSends_applies).admitted

end Ways

/-! ## 3. The law of the attachment -/

/-- The entries of the value are the options that were given, each once and no other, and both ways
    apply this value to the slot. -/
structure AttachLaw (options : VmPciPassthroughOptions) : Prop where
  entries : (Text.readEntries (buildHostpciConfigValue options).toList).Perm
    (options.entries.map fun p => (p.1, some p.2))
  applied : ∀ (S : Service) (cluster : String) (vmid : Nat) (nodeInput : Option String) t o,
    Run (S.vmAttachPciDevice cluster vmid options nodeInput) t o →
      ∃ node, (∀ named, nodeInput = some named → node = named) ∧
        ∀ s ∈ t, Applies S cluster vmid options.slot (buildHostpciConfigValue options) node s.1

/-- **Both ways apply the value to the slot**, in every run. -/
theorem applies_vmAttachPciDevice {S : Service} {cluster : String} {vmid : Nat}
    {options : VmPciPassthroughOptions} {nodeInput : Option String} {t : Trace Effect.Reply}
    {o : Outcome String (String × PciApplied)}
    (h : Run (S.vmAttachPciDevice cluster vmid options nodeInput) t o) :
    ∃ node, (∀ named, nodeInput = some named → node = named) ∧
      ∀ s ∈ t, Applies S cluster vmid options.slot (buildHostpciConfigValue options) node s.1 := by
  unfold Service.vmAttachPciDevice at h
  dsimp only at h
  split at h
  · rw [(run_throw.mp h).1]
    exact ⟨nodeInput.getD "", fun named e => by rw [e]; rfl, fun s hs => absurd hs List.not_mem_nil⟩
  · obtain ⟨t₁, t₂, o₁, ht, hnode, hrest⟩ := run_bind.mp h
    have hlocate : ∀ node, ∀ s ∈ t₁,
        Applies S cluster vmid options.slot (buildHostpciConfigValue options) node s.1 :=
      fun node => only_of_admitted reply_nonempty admitted_vmNode t₁ o₁ hnode
    have hempty : t₂ = [] → ∃ node, (∀ named, nodeInput = some named → node = named) ∧
        ∀ s ∈ t, Applies S cluster vmid options.slot (buildHostpciConfigValue options) node
          s.1 := by
      intro e
      rw [ht, e, List.append_nil]
      exact ⟨nodeInput.getD "", fun named e => by rw [e]; rfl, hlocate _⟩
    cases o₁ with
    | error m => exact hempty hrest.1
    | cut => exact hempty hrest.1
    | ok node =>
      refine ⟨node, fun named e => ?_, fun s hs => ?_⟩
      · rw [e] at hnode
        exact Outcome.ok.inj (run_pure.mp hnode).2
      · rw [ht] at hs
        rcases List.mem_append.mp hs with hs | hs
        · exact hlocate node s hs
        · exact only_bind (only_of_admitted reply_nonempty admitted_updateHostpci)
            (fun _ => only_pure) t₂ o hrest s hs

/-- **The law of the attachment**, exactly: every value that is given is without commas. -/
theorem attachLaw_iff (options : VmPciPassthroughOptions) (h : options.Accepted) :
    AttachLaw options ↔ ∀ p ∈ options.entries, ',' ∉ p.2 := by
  have hentries := Text.readEntries_iff (entries_ne_nil h) entryKey_of_mem
  rw [← buildHostpciConfigValue_eq] at hentries
  rw [← hentries]
  exact ⟨fun hlaw => hlaw.entries, fun hperm => ⟨hperm, fun _ _ _ _ _ _ => applies_vmAttachPciDevice⟩⟩

/-- A device that is given with two flags. -/
def plainDevice : VmPciPassthroughOptions where
  slot := 1
  host := some "0000:22:00"
  pcie := some true
  rombar := some false

omit [Text.Unicode] in
/-- Its entries are those that were given. -/
theorem attachLaw_iff_plain :
    letI := Text.asciiCase
    AttachLaw plainDevice ↔ ∀ p ∈ plainDevice.entries, ',' ∉ p.2 := by
  let := Text.asciiCase
  exact attachLaw_iff plainDevice (by decide)

/-- A ROM file whose name goes on as another option. -/
def smuggledFlag : VmPciPassthroughOptions where
  slot := 0
  host := some "0000:01:00"
  romfile := some "vbios.bin,x-vga=1"

omit [Text.Unicode] in
/-- The device becomes the primary VGA device, which was not asked for. -/
theorem smuggledFlag_given :
    letI := Text.asciiCase
    ¬ ∀ options : VmPciPassthroughOptions, options.Accepted → AttachLaw options := by
  let := Text.asciiCase
  intro h
  have hlength := (h smuggledFlag (by decide)).entries.length_eq
  exact absurd hlength (by decide +kernel)

end ProxmoxMcp
