/-
  File:      ProxmoxMcp/BootInspection.lean
  Subject:   THE OFFLINE INSPECTION OF A GUEST'S DISK (`boot/diagnostics.ts`): the script that prints
             its findings in sections, and the parser that reads them back.

  The marks of the sections are lines of the output they mark off, which is text from the disk of
  the guest. A text that does not end its last line swallows the end mark; a line of it that begins
  as a mark is taken for one.

  * `inspectionLaw_iff`: the texts that are read back, trimmed, whatever else is printed.
-/
import ProxmoxMcp.Guests
import ProxmoxMcp.Lib.Lines
import ProxmoxMcp.Lib.JsonText

namespace ProxmoxMcp

open Js

/-! ## 1. The script -/

/-- The keys of the sections. -/
inductive SectionKey where
  | OS_RELEASE
  | BOOTSTRAP_STACK
  | CLOUD_STATE_FILES
  | CLOUD_INIT_OUTPUT
  | CLOUD_INIT_JOURNAL
  | TINY_CLOUD_MESSAGES
  | APK_LOG
  | DPKG_STATUS
  deriving DecidableEq, Repr

/-- The sections, in the order of the script. -/
def sectionKeys : List SectionKey :=
  [.OS_RELEASE, .BOOTSTRAP_STACK, .CLOUD_STATE_FILES, .CLOUD_INIT_OUTPUT, .CLOUD_INIT_JOURNAL,
    .TINY_CLOUD_MESSAGES, .APK_LOG, .DPKG_STATUS]

def SectionKey.text : SectionKey → String
  | .OS_RELEASE => "OS_RELEASE"
  | .BOOTSTRAP_STACK => "BOOTSTRAP_STACK"
  | .CLOUD_STATE_FILES => "CLOUD_STATE_FILES"
  | .CLOUD_INIT_OUTPUT => "CLOUD_INIT_OUTPUT"
  | .CLOUD_INIT_JOURNAL => "CLOUD_INIT_JOURNAL"
  | .TINY_CLOUD_MESSAGES => "TINY_CLOUD_MESSAGES"
  | .APK_LOG => "APK_LOG"
  | .DPKG_STATUS => "DPKG_STATUS"

/-- The commands of a section. -/
def SectionKey.body : SectionKey → String
  | .OS_RELEASE => "cat \"$WORKDIR/etc/os-release\" 2>/dev/null || true"
  | .BOOTSTRAP_STACK => joinLines [
      "if [ -f \"$WORKDIR/etc/tiny-cloud.conf\" ]; then echo tiny-cloud; fi",
      "if [ -x \"$WORKDIR/usr/bin/cloud-init\" ] || [ -d \"$WORKDIR/etc/cloud\" ]; then " ++
        "echo cloud-init; fi",
      "if [ ! -f \"$WORKDIR/etc/tiny-cloud.conf\" ] && [ ! -x \"$WORKDIR/usr/bin/cloud-init\" ] " ++
        "&& [ ! -d \"$WORKDIR/etc/cloud\" ]; then echo unknown; fi"]
  | .CLOUD_STATE_FILES =>
      "find \"$WORKDIR/var/lib/cloud\" -maxdepth 4 -type f 2>/dev/null | sort | " ++
        "sed -n '1,120p' || true"
  | .CLOUD_INIT_OUTPUT =>
      "sed -n '1,220p' \"$WORKDIR/var/log/cloud-init-output.log\" 2>/dev/null || true"
  | .CLOUD_INIT_JOURNAL =>
      "journalctl --directory=\"$WORKDIR/var/log/journal\" --no-pager 2>/dev/null | " ++
        "egrep 'cloud-init|ds-identify|DataSource|NoCloud|qemu-guest-agent' | " ++
        "sed -n '1,220p' || true"
  | .TINY_CLOUD_MESSAGES =>
      "egrep -i 'tiny-cloud|cloud|qemu|apk|rc-service|doas' \"$WORKDIR/var/log/messages\" " ++
        "2>/dev/null | sed -n '1,220p' || true"
  | .APK_LOG => "sed -n '1,220p' \"$WORKDIR/var/log/apk.log\" 2>/dev/null || true"
  | .DPKG_STATUS =>
      "grep -E 'Package: (cloud-init|qemu-guest-agent)$' -A3 \"$WORKDIR/var/lib/dpkg/status\" " ++
        "2>/dev/null || true"

/-- A part of the script: a line that prints a mark, or the commands of a section. -/
inductive ScriptPart where
  | echo (mark : String)
  | commands (body : String)

def ScriptPart.source : ScriptPart → String
  | .echo mark => "echo '" ++ mark ++ "'"
  | .commands body => body

/-- What a part prints, where `run` says what the commands do. -/
def ScriptPart.output (run : String → List Char) : ScriptPart → List Char
  | .echo mark => mark.toList ++ ['\n']
  | .commands body => run body

/-- `addSection`. -/
def addSection (key : SectionKey) : List ScriptPart :=
  [.echo ("__RCMCP_BEGIN__:" ++ key.text), .commands key.body, .echo ("__RCMCP_END__:" ++ key.text)]

/-- The lines in front of the sections; the last one prints the mount. -/
def scriptHeader (blockDevicePath : String) (vmid : Nat) : List String := [
  "set -euo pipefail",
  "if [ \"$(id -u)\" -ne 0 ]; then",
  "  echo '__RCMCP_ERROR__:root_required'",
  "  exit 0",
  "fi",
  "BLOCK_DEVICE=" ++ shellQuote blockDevicePath,
  "WORKDIR=" ++ shellQuote ("/tmp/rcmcp-boot-" ++ toString vmid),
  "mkdir -p \"$WORKDIR\"",
  "mountpoint -q \"$WORKDIR\" && umount \"$WORKDIR\" || true",
  "losetup -D >/dev/null 2>&1 || true",
  "if [ ! -b \"$BLOCK_DEVICE\" ]; then",
  "  echo '__RCMCP_ERROR__:block_device_missing'",
  "  exit 0",
  "fi",
  "loopdev=$(losetup -Pf --show \"$BLOCK_DEVICE\")",
  "mounted=''",
  "for candidate in \"$loopdev\" \"$\x7bloopdev\x7dp1\" \"$\x7bloopdev\x7dp2\"" ++
    " \"$\x7bloopdev\x7dp3\" \"$\x7bloopdev\x7dp4\" \"$\x7bloopdev\x7dp5\"; do",
  "  if [ -b \"$candidate\" ] && mount \"$candidate\" \"$WORKDIR\" 2>/dev/null; then",
  "    mounted=\"$candidate\"",
  "    if [ -f \"$WORKDIR/etc/os-release\" ]; then",
  "      break",
  "    fi",
  "    umount \"$WORKDIR\"",
  "    mounted=''",
  "  fi",
  "done",
  "if [ -z \"$mounted\" ]; then",
  "  echo '__RCMCP_ERROR__:mount_failed'",
  "  losetup -d \"$loopdev\" >/dev/null 2>&1 || true",
  "  exit 0",
  "fi",
  "cleanup() \x7b",
  "  mountpoint -q \"$WORKDIR\" && umount \"$WORKDIR\" || true",
  "  losetup -d \"$loopdev\" >/dev/null 2>&1 || true",
  "\x7d",
  "trap cleanup EXIT",
  "echo '__RCMCP_MOUNT__:'\"$mounted\""]

/-- `buildOfflineVmBootInspectionScript`. -/
def buildOfflineVmBootInspectionScript (blockDevicePath : String) (vmid : Nat) : String :=
  joinLines (scriptHeader blockDevicePath vmid ++
    (sectionKeys.flatMap addSection).map ScriptPart.source)

/-! ## 2. The parser -/

/-- A line that begins as a mark does. -/
inductive Mark where
  | mount (source : List Char)
  | error (message : List Char)
  | beginning (key : List Char)
  | ending (key : List Char)
  deriving DecidableEq, Repr

/-- `line.slice(mark.length).trim()`. -/
def behindMark (mark : String) (line : List Char) : List Char :=
  Text.trim (line.drop mark.toList.length)

/-- The tests of `line.startsWith`, in order. -/
def readMark (line : List Char) : Option Mark :=
  if "__RCMCP_MOUNT__:".toList.isPrefixOf line then
    some (.mount (behindMark "__RCMCP_MOUNT__:" line))
  else if "__RCMCP_ERROR__:".toList.isPrefixOf line then
    some (.error (behindMark "__RCMCP_ERROR__:" line))
  else if "__RCMCP_BEGIN__:".toList.isPrefixOf line then
    some (.beginning (behindMark "__RCMCP_BEGIN__:" line))
  else if "__RCMCP_END__:".toList.isPrefixOf line then
    some (.ending (behindMark "__RCMCP_END__:" line))
  else none

/-- The variables of the loop. -/
structure InspectionState where
  sections : List (String × Value) := []
  errors : List String := []
  currentSection : Option String := none
  currentBuffer : List (List Char) := []
  mountSource : Option String := none

/-- One line. -/
def InspectionState.line (s : InspectionState) (line : List Char) : InspectionState :=
  match readMark line with
  | some (.mount source) => { s with mountSource := nonEmpty (some (String.ofList source)) }
  | some (.error message) => { s with errors := s.errors ++ [String.ofList message] }
  | some (.beginning key) =>
      { s with currentSection := some (String.ofList key), currentBuffer := [] }
  | some (.ending key) =>
      if s.currentSection = some (String.ofList key) then
        { s with
          sections := assign (String.ofList key)
            (.str (String.ofList (Text.trim (Text.joinWith ['\n'] s.currentBuffer)))) s.sections
          currentSection := none
          currentBuffer := [] }
      else s
  | none =>
      match nonEmpty s.currentSection with
      | some _ => { s with currentBuffer := s.currentBuffer ++ [line] }
      | none => s

/-- `OfflineBootInspection`. -/
structure OfflineBootInspection where
  attempted : Bool
  supported : Bool
  privilegedNodeShellRequired : Bool
  blockDevicePath : String
  mountSource : Option String
  bootstrapStack : String
  osRelease : Option String
  sections : List (String × Value)
  errors : List String

/-- `sections[key]`, where there is one. -/
def sectionText (sections : List (String × Value)) (key : SectionKey) : Option String :=
  match lookup key.text sections with
  | .str s => some s
  | _ => none

/-- The first line of the section `BOOTSTRAP_STACK` that is not empty. -/
def bootstrapStack (sections : List (String × Value)) : String :=
  let text := (sectionText sections .BOOTSTRAP_STACK).getD ""
  let lines := (Text.splitLines text.toList).map Text.trim
  match lines.filter (· ≠ []) with
  | line :: _ => String.ofList line
  | [] => "unknown"

/-- `parseOfflineVmBootInspection`. -/
def parseOfflineVmBootInspection (result : CommandResult) (blockDevicePath : String) :
    OfflineBootInspection :=
  let s := (Text.splitLines result.stdout.toList).foldl InspectionState.line {}
  let stderr := Text.trim result.stderr.toList
  let errors := if stderr = [] then s.errors else s.errors ++ [String.ofList stderr]
  { attempted := true
    supported := errors.isEmpty || (sectionText s.sections .OS_RELEASE).isSome
    privilegedNodeShellRequired := true
    blockDevicePath := blockDevicePath
    mountSource := s.mountSource
    bootstrapStack := bootstrapStack s.sections
    osRelease := sectionText s.sections .OS_RELEASE
    sections := s.sections
    errors := errors }

/-! ## 3. What the script prints -/

def beginLine (key : SectionKey) : List Char := "__RCMCP_BEGIN__:".toList ++ key.text.toList

def endLine (key : SectionKey) : List Char := "__RCMCP_END__:".toList ++ key.text.toList

/-- A section as it is printed: its text between the lines of its marks. -/
def framed (p : SectionKey × List Char) : List Char :=
  beginLine p.1 ++ ['\n'] ++ p.2 ++ (endLine p.1 ++ ['\n'])

/-- What an inspection found: the device that was mounted, and the texts of some sections. -/
structure Inspection where
  mounted : List Char
  sections : List (SectionKey × List Char)
  oneLine : '\n' ∉ mounted ∧ '\r' ∉ mounted
  distinct : (sections.map Prod.fst).Nodup

def mountLine (mounted : List Char) : List Char := "__RCMCP_MOUNT__:".toList ++ mounted

/-- The output of the script. -/
def Inspection.stdout (i : Inspection) : List Char :=
  mountLine i.mounted ++ ['\n'] ++ i.sections.flatMap framed

theorem output_addSection (run : String → List Char) (key : SectionKey) :
    (addSection key).flatMap (ScriptPart.output run) = framed (key, run key.body) := by
  have hecho : ∀ mark name : String,
      ScriptPart.output run (.echo (mark ++ name)) = mark.toList ++ name.toList ++ ['\n'] := by
    intro mark name
    rw [ScriptPart.output, String.toList_append]
  rw [addSection, List.flatMap_cons, List.flatMap_cons, List.flatMap_cons, List.flatMap_nil, hecho,
    hecho, List.append_nil, framed]
  exact (List.append_assoc _ _ _).symm

/-- **The sections of the script print this**, whatever their commands do. -/
theorem output_sections (run : String → List Char) :
    (sectionKeys.flatMap addSection).flatMap (ScriptPart.output run) =
      (sectionKeys.map fun key => (key, run key.body)).flatMap framed := by
  generalize sectionKeys = keys
  rw [List.flatMap_assoc, List.flatMap_map]
  exact List.flatMap_congr fun key _ => output_addSection run key

/-- The lines of a section. -/
def sectionLines (p : SectionKey × List Char) : List (List Char) :=
  beginLine p.1 :: (Text.endedLines p.2 ++ [Text.openLine p.2 ++ endLine p.1])

theorem newline_not_mem_beginLine (key : SectionKey) :
    '\n' ∉ beginLine key ∧ '\r' ∉ beginLine key := by
  cases key <;> decide +kernel

theorem newline_not_mem_endLine (key : SectionKey) :
    '\n' ∉ endLine key ∧ '\r' ∉ endLine key := by
  cases key <;> decide +kernel

theorem head?_endLine (key : SectionKey) : (endLine key).head? = some '_' := by
  cases key <;> rfl

/-- No carriage return ends a line with its newline. -/
theorem getLast?_line {l : List Char} : (l ++ ['\n']).getLast? ≠ some '\r' := by
  rw [List.getLast?_concat]
  decide

theorem newline_not_mem_sectionLines {p : SectionKey × List Char} :
    ∀ l ∈ sectionLines p, '\n' ∉ l := by
  intro l hl
  rcases List.mem_cons.mp hl with hl | hl
  · rw [hl]
    exact (newline_not_mem_beginLine p.1).1
  · rcases List.mem_append.mp hl with hl | hl
    · exact Text.newline_not_mem_ended hl
    · rw [List.mem_singleton.mp hl]
      exact List.not_mem_append (Text.newline_not_mem_open _) (newline_not_mem_endLine p.1).1

/-- Without its carriage returns a section is its lines. -/
theorem dropCr_framed (p : SectionKey × List Char) (rest : List Char) :
    Text.dropCr (framed p ++ rest) = Text.lines (sectionLines p) ++ Text.dropCr rest := by
  have hcr : ∀ {l : List Char}, '\r' ∉ l → '\r' ∉ l ++ ['\n'] := by
    intro l hl hm
    rcases List.mem_append.mp hm with hm | hm
    · exact hl hm
    · cases List.mem_singleton.mp hm
  have hbegin := hcr (newline_not_mem_beginLine p.1).2
  have hend := hcr (newline_not_mem_endLine p.1).2
  have hhead : ((endLine p.1 ++ ['\n']) ++ rest).head? ≠ some '\n' := by
    rw [List.append_assoc, List.head?_append, head?_endLine, Option.some_or]
    decide
  rw [framed, List.append_assoc, List.append_assoc,
    Text.dropCr_append (fun h => absurd h getLast?_line), Text.dropCr_append (fun _ => hhead),
    Text.dropCr_append (fun h => absurd h getLast?_line), Text.dropCr_of_not_mem hbegin,
    Text.dropCr_of_not_mem hend, Text.dropCr_eq_lines p.2]
  simp [Text.lines, sectionLines]

/-- **The lines of the output.** -/
theorem splitLines_stdout (i : Inspection) :
    Text.splitLines i.stdout = mountLine i.mounted :: i.sections.flatMap sectionLines ++ [[]] := by
  have hmark : '\n' ∉ "__RCMCP_MOUNT__:".toList ∧ '\r' ∉ "__RCMCP_MOUNT__:".toList := by
    decide +kernel
  have hmount : '\r' ∉ mountLine i.mounted ++ ['\n'] :=
    List.not_mem_append (List.not_mem_append hmark.2 i.oneLine.2) (by decide)
  have hnewline : '\n' ∉ mountLine i.mounted := List.not_mem_append hmark.1 i.oneLine.1
  have hsections : ∀ ps : List (SectionKey × List Char),
      Text.dropCr (ps.flatMap framed) = Text.lines (ps.flatMap sectionLines) := by
    intro ps
    induction ps with
    | nil => rfl
    | cons p ps ih =>
      rw [List.flatMap_cons, dropCr_framed, ih, List.flatMap_cons, Text.lines, Text.lines,
        Text.lines, List.flatMap_append]
  have hlines : Text.dropCr i.stdout =
      Text.lines (mountLine i.mounted :: i.sections.flatMap sectionLines) ++ [] := by
    rw [Inspection.stdout, Text.dropCr_append (fun h => absurd h getLast?_line),
      Text.dropCr_of_not_mem hmount, hsections]
    simp [Text.lines]
  rw [Text.splitLines, hlines, Text.splitOn_lines]
  · rfl
  · intro l hl
    rcases List.mem_cons.mp hl with hl | hl
    · rw [hl]
      exact hnewline
    · obtain ⟨p, _, hl⟩ := List.mem_flatMap.mp hl
      exact newline_not_mem_sectionLines l hl

/-! ## 4. What the parser keeps -/

/-- The ink of a section. -/
def sectionInk (sections : List (String × Value)) (key : SectionKey) : Nat :=
  Text.ink ((sectionText sections key).getD "").toList

/-- The ink of the sections with these keys. -/
def keptInk (keys : List SectionKey) (sections : List (String × Value)) : Nat :=
  (keys.map (sectionInk sections)).sum

/-- The ink of a line that is no mark. -/
def plainInk (line : List Char) : Nat := if readMark line = none then Text.ink line else 0

theorem plainInk_le (line : List Char) : plainInk line ≤ Text.ink line := by
  rw [plainInk]
  split
  · exact Nat.le_refl _
  · exact Nat.zero_le _

theorem SectionKey.text_inj {key k : SectionKey} (h : key.text = k.text) : key = k := by
  cases key <;> cases k <;> first | rfl | exact absurd h (by decide)

theorem SectionKey.text_ne (key : SectionKey) : key.text ≠ "__proto__" ∧ key.text ≠ "" := by
  cases key <;> decide

theorem sectionText_assign_ne {key : String} {v : Value} {sections : List (String × Value)}
    {k : SectionKey} (h : key ≠ k.text) :
    sectionText (assign key v sections) k = sectionText sections k := by
  have hlookup : lookup k.text (assign key v sections) = lookup k.text sections := by
    rw [assign]
    split
    · rfl
    · rw [lookup_setKey, if_neg h]
  rw [sectionText, sectionText, hlookup]

theorem sectionText_assign {s : String} {sections : List (String × Value)} (k : SectionKey) :
    sectionText (assign k.text (.str s) sections) k = some s := by
  rw [sectionText, assign, if_neg fun h => k.text_ne.1 h.1, lookup_setKey, if_pos rfl]

/-- A section that is stored brings no more than its own ink. -/
theorem keptInk_assign {keys : List SectionKey} (h : keys.Nodup) (key : String) (s : String)
    (sections : List (String × Value)) :
    keptInk keys (assign key (.str s) sections) ≤ keptInk keys sections + Text.ink s.toList := by
  induction keys with
  | nil => exact Nat.zero_le _
  | cons k keys ih =>
    have hnodup := List.nodup_cons.mp h
    simp only [keptInk, List.map_cons, List.sum_cons] at ih ⊢
    by_cases hk : key = k.text
    · have hrest : keys.map (sectionInk (assign key (.str s) sections)) =
          keys.map (sectionInk sections) := by
        refine List.map_congr_left fun k' hk' => ?_
        have hne : key ≠ k'.text := by
          intro e
          exact hnodup.1 (SectionKey.text_inj (hk.symm.trans e) ▸ hk')
        rw [sectionInk, sectionInk, sectionText_assign_ne hne]
      have hself : sectionInk (assign key (.str s) sections) k = Text.ink s.toList := by
        rw [hk, sectionInk, sectionText_assign]
        rfl
      rw [hrest, hself]
      omega
    · have hself : sectionInk (assign key (.str s) sections) k = sectionInk sections k := by
        rw [sectionInk, sectionInk, sectionText_assign_ne hk]
      have ih := ih hnodup.2
      rw [hself]
      omega

/-- The ink that the parser holds, in sections and in the lines it collects. -/
def InspectionState.ink (keys : List SectionKey) (s : InspectionState) : Nat :=
  keptInk keys s.sections + (s.currentBuffer.map Text.ink).sum

/-- **A mark brings no ink**, and only the collected lines end up in a section. -/
theorem ink_line {keys : List SectionKey} (h : keys.Nodup) (s : InspectionState)
    (line : List Char) :
    (s.line line).ink keys ≤ s.ink keys + plainInk line ∧
      keptInk keys (s.line line).sections ≤ s.ink keys := by
  have hkept : keptInk keys s.sections ≤ s.ink keys := Nat.le_add_right _ _
  cases hm : readMark line with
  | none =>
    have hplain : plainInk line = Text.ink line := if_pos hm
    rw [InspectionState.line, hm]
    simp only
    split
    · refine ⟨?_, hkept⟩
      rw [InspectionState.ink, InspectionState.ink, hplain, List.map_append, List.sum_append,
        List.map_singleton, List.sum_singleton]
      exact Nat.le_of_eq (Nat.add_assoc _ _ _).symm
    · exact ⟨Nat.le_add_right _ _, hkept⟩
  | some mark =>
    have hzero : plainInk line = 0 := if_neg (by rw [hm]; exact Option.some_ne_none _)
    rw [hzero, Nat.add_zero, InspectionState.line, hm]
    cases mark with
    | mount source => exact ⟨Nat.le_refl _, hkept⟩
    | error message => exact ⟨Nat.le_refl _, hkept⟩
    | beginning key => exact ⟨hkept, hkept⟩
    | ending key =>
      simp only
      split
      · -- the lines that were collected are the section, whatever key the mark has
        have hstored := keptInk_assign h (String.ofList key)
          (String.ofList (Text.trim (Text.joinWith ['\n'] s.currentBuffer))) s.sections
        rw [String.toList_ofList, Text.ink_trim, Text.ink_joinWith] at hstored
        exact ⟨hstored, hstored⟩
      · exact ⟨Nat.le_refl _, hkept⟩

/-- The ink of a section that the parser can keep. -/
def plainSectionInk (p : SectionKey × List Char) : Nat :=
  ((Text.endedLines p.2).map plainInk).sum

theorem ink_lines {keys : List SectionKey} (h : keys.Nodup) (ls : List (List Char)) :
    ∀ s : InspectionState,
      (ls.foldl InspectionState.line s).ink keys ≤ s.ink keys + (ls.map plainInk).sum := by
  induction ls with
  | nil => exact fun s => Nat.le_refl _
  | cons l ls ih =>
    intro s
    have hline := (ink_line h s l).1
    have hrest := ih (s.line l)
    rw [List.foldl_cons, List.map_cons, List.sum_cons]
    omega

/-- What a begin mark leaves. -/
theorem line_beginLine (s : InspectionState) (key : SectionKey) :
    s.line (beginLine key) = { s with currentSection := some key.text, currentBuffer := [] } := by
  have hmark : readMark (beginLine key) = some (.beginning key.text.toList) := by
    cases key <;> decide +kernel
  rw [InspectionState.line, hmark]
  simp only [String.ofList_toList]

/-- **A section adds at most the ink of its lines** that are no marks. -/
theorem keptInk_section {keys : List SectionKey} (h : keys.Nodup) (p : SectionKey × List Char)
    (s : InspectionState) :
    keptInk keys ((sectionLines p).foldl InspectionState.line s).sections ≤
      keptInk keys s.sections + plainSectionInk p := by
  have hlines := ink_lines h (Text.endedLines p.2) (s.line (beginLine p.1))
  have hbegin : (s.line (beginLine p.1)).ink keys = keptInk keys s.sections := by
    rw [line_beginLine]
    rfl
  rw [sectionLines, List.foldl_cons, List.foldl_append, List.foldl_cons, List.foldl_nil]
  refine Nat.le_trans (ink_line h _ _).2 ?_
  rw [← hbegin]
  exact hlines

theorem keptInk_sections {keys : List SectionKey} (h : keys.Nodup)
    (ps : List (SectionKey × List Char)) : ∀ s : InspectionState,
    keptInk keys ((ps.flatMap sectionLines).foldl InspectionState.line s).sections ≤
      keptInk keys s.sections + (ps.map plainSectionInk).sum := by
  induction ps with
  | nil => exact fun s => Nat.le_refl _
  | cons p ps ih =>
    intro s
    have hsection := keptInk_section h p s
    have hrest := ih ((sectionLines p).foldl InspectionState.line s)
    rw [List.flatMap_cons, List.foldl_append, List.map_cons, List.sum_cons]
    omega

/-! ## 5. Sections without marks -/

/-- No line of the text is a mark, and only spaces stand behind its last newline. -/
structure Unmarked (text : List Char) : Prop where
  plain : ∀ l ∈ Text.endedLines text, readMark l = none
  blank : Text.Blank (Text.openLine text)

/-- Lines that are no marks are collected. -/
theorem lines_plain {key : SectionKey} {ls : List (List Char)}
    (hplain : ∀ l ∈ ls, readMark l = none) : ∀ s : InspectionState,
    s.currentSection = some key.text →
      ls.foldl InspectionState.line s = { s with currentBuffer := s.currentBuffer ++ ls } := by
  induction ls with
  | nil =>
    intro s _
    rw [List.foldl_nil, List.append_nil]
  | cons l ls ih =>
    intro s hs
    have hline : s.line l = { s with currentBuffer := s.currentBuffer ++ [l] } := by
      have hkey : nonEmpty s.currentSection = some key.text := by
        rw [hs, nonEmpty, Option.filter_some, if_pos (decide_eq_true key.text_ne.2)]
      rw [InspectionState.line, hplain l List.mem_cons_self]
      simp only [hkey]
    have hrest := ih (fun l' hl' => hplain l' (List.mem_cons_of_mem _ hl'))
      { s with currentBuffer := s.currentBuffer ++ [l] } hs
    rw [List.foldl_cons, hline, hrest]
    simp only [List.append_assoc, List.cons_append, List.nil_append]

/-- What an end mark leaves. -/
theorem line_endLine {s : InspectionState} {key : SectionKey}
    (hs : s.currentSection = some key.text) :
    s.line (endLine key) =
      { s with
        sections := assign key.text
          (.str (String.ofList (Text.trim (Text.joinWith ['\n'] s.currentBuffer)))) s.sections
        currentSection := none
        currentBuffer := [] } := by
  have hmark : readMark (endLine key) = some (.ending key.text.toList) := by
    cases key <;> decide +kernel
  rw [InspectionState.line, hmark]
  simp only [String.ofList_toList, if_pos hs]

/-- A line that begins with a space is no mark. -/
theorem readMark_space {c : Char} (hc : Text.isSpace c = true) (l : List Char) :
    readMark (c :: l) = none := by
  have hhead : ∀ mark : List Char, mark.head? = some '_' → mark.isPrefixOf (c :: l) = false := by
    intro mark h
    cases mark with
    | nil => cases h
    | cons d mark =>
      have hd : d = '_' := Option.some.inj h
      have hne : (d == c) = false := by
        rw [beq_eq_false_iff_ne, hd]
        intro e
        rw [← e] at hc
        exact absurd hc (by decide)
      rw [List.isPrefixOf, hne, Bool.false_and]
  rw [readMark, hhead _ rfl, hhead _ rfl, hhead _ rfl, hhead _ rfl]
  rfl

/-- **A section without marks** is stored if its text ends with a newline, and lost otherwise. -/
theorem read_section {p : SectionKey × List Char} (h : Unmarked p.2) (s : InspectionState) :
    ((sectionLines p).foldl InspectionState.line s).mountSource = s.mountSource ∧
      ((sectionLines p).foldl InspectionState.line s).errors = s.errors ∧
      ((sectionLines p).foldl InspectionState.line s).sections =
        if Text.openLine p.2 = [] then
          assign p.1.text (.str (String.ofList (Text.trim (Text.dropCr p.2)))) s.sections
        else s.sections := by
  have hcollect := @lines_plain p.1 _ h.plain (s.line (beginLine p.1))
    (by rw [line_beginLine])
  rw [sectionLines, List.foldl_cons, List.foldl_append, hcollect, line_beginLine, List.foldl_cons,
    List.foldl_nil]
  simp only [List.nil_append]
  cases ho : Text.openLine p.2 with
  | nil =>
    have htext : Text.trim (Text.joinWith ['\n'] (Text.endedLines p.2)) =
        Text.trim (Text.dropCr p.2) := by
      rw [Text.dropCr_eq_lines p.2, ho, List.append_nil, Text.trim_lines]
    rw [List.nil_append, line_endLine rfl, if_pos rfl]
    simp only [htext, and_self]
  | cons c l =>
    have hc : Text.isSpace c = true := h.blank c (ho ▸ List.mem_cons_self)
    have hline := @lines_plain p.1 [c :: l ++ endLine p.1]
      (fun l' hl' => by rw [List.mem_singleton.mp hl']; exact readMark_space hc _)
      { s with currentSection := some p.1.text, currentBuffer := Text.endedLines p.2 } rfl
    rw [List.foldl_cons, List.foldl_nil] at hline
    rw [hline, if_neg (List.cons_ne_nil c l)]
    exact ⟨rfl, rfl, rfl⟩

/-- **Sections without marks, in any order**: no section changes another. -/
theorem read_sections (ps : List (SectionKey × List Char)) (hdistinct : (ps.map Prod.fst).Nodup)
    (h : ∀ p ∈ ps, Unmarked p.2) (s : InspectionState) :
    ((ps.flatMap sectionLines).foldl InspectionState.line s).mountSource = s.mountSource ∧
      ((ps.flatMap sectionLines).foldl InspectionState.line s).errors = s.errors ∧
      (∀ key, key ∉ ps.map Prod.fst →
        sectionText ((ps.flatMap sectionLines).foldl InspectionState.line s).sections key =
          sectionText s.sections key) ∧
      ∀ p ∈ ps, sectionText ((ps.flatMap sectionLines).foldl InspectionState.line s).sections p.1 =
        if Text.openLine p.2 = [] then some (String.ofList (Text.trim (Text.dropCr p.2)))
        else sectionText s.sections p.1 := by
  induction ps generalizing s with
  | nil => exact ⟨rfl, rfl, fun _ _ => rfl, fun p hp => absurd hp List.not_mem_nil⟩
  | cons p ps ih =>
    have hnodup := List.nodup_cons.mp hdistinct
    obtain ⟨hmount, herrors, hsections⟩ := read_section (h p List.mem_cons_self) s
    obtain ⟨ihmount, iherrors, ihother, ihself⟩ := ih hnodup.2
      (fun q hq => h q (List.mem_cons_of_mem _ hq)) ((sectionLines p).foldl InspectionState.line s)
    have hother : ∀ key, key ≠ p.1 →
        sectionText ((sectionLines p).foldl InspectionState.line s).sections key =
          sectionText s.sections key := by
      intro key hne
      rw [hsections]
      split
      · exact sectionText_assign_ne fun e => hne (SectionKey.text_inj e.symm)
      · rfl
    rw [List.flatMap_cons, List.foldl_append]
    refine ⟨ihmount.trans hmount, iherrors.trans herrors, ?_, ?_⟩
    · intro key hkey
      rw [List.map_cons, List.mem_cons, not_or] at hkey
      rw [ihother key hkey.2, hother key hkey.1]
    · intro q hq
      rcases List.mem_cons.mp hq with hq | hq
      · rw [hq, ihother p.1 hnodup.1, hsections]
        split
        · exact sectionText_assign p.1
        · rfl
      · have hne : q.1 ≠ p.1 := by
          intro e
          exact hnodup.1 (e ▸ List.mem_map_of_mem hq)
        rw [ihself q hq, hother q.1 hne]

/-! ## 6. The law of the inspection -/

/-- A report of what was found: the text of each section, trimmed, and nothing from a text in the
    mount or among the errors. -/
structure Reported (i : Inspection) (stderr : List Char) (r : OfflineBootInspection) : Prop where
  sections : ∀ p ∈ i.sections, sectionText r.sections p.1 = some (String.ofList (Text.trim p.2))
  mountSource : r.mountSource = nonEmpty (some (String.ofList (Text.trim i.mounted)))
  errors : r.errors =
    if Text.trim stderr = [] then [] else [String.ofList (Text.trim stderr)]

/-- What was found is reported, whatever the command writes to its standard error. -/
def InspectionLaw (i : Inspection) : Prop :=
  ∀ (result : CommandResult) (blockDevicePath : String), result.stdout = String.ofList i.stdout →
    Reported i result.stderr.toList (parseOfflineVmBootInspection result blockDevicePath)

/-- A text that keeps inside its frame: it ends its last line, no line of it begins as a mark, and
    no newline within it has a carriage return in front. -/
structure Framed (text : List Char) : Prop where
  ended : text = [] ∨ text.getLast? = some '\n'
  plain : ∀ l ∈ Text.splitLines text, readMark l = none
  newlines : ¬ ['\r', '\n'] <:+: Text.trim text

theorem behindMark_append (mark : String) (l : List Char) :
    behindMark mark (mark.toList ++ l) = Text.trim l := by
  rw [behindMark, List.drop_left]

/-- What the mount line leaves. -/
theorem line_mountLine (s : InspectionState) (mounted : List Char) :
    s.line (mountLine mounted) =
      { s with mountSource := nonEmpty (some (String.ofList (Text.trim mounted))) } := by
  have hprefix : "__RCMCP_MOUNT__:".toList.isPrefixOf (mountLine mounted) = true :=
    List.isPrefixOf_iff_prefix.mpr (List.prefix_append _ _)
  have hmark : readMark (mountLine mounted) = some (.mount (Text.trim mounted)) :=
    (if_pos hprefix).trans (congrArg (fun s => some (Mark.mount s)) (behindMark_append _ _))
  rw [InspectionState.line, hmark]

/-- The empty line behind the last newline changes nothing that is reported. -/
theorem line_nil (s : InspectionState) :
    (s.line []).sections = s.sections ∧ (s.line []).mountSource = s.mountSource ∧
      (s.line []).errors = s.errors := by
  have hmark : readMark [] = none := by decide +kernel
  rw [InspectionState.line, hmark]
  simp only
  split
  · exact ⟨rfl, rfl, rfl⟩
  · exact ⟨rfl, rfl, rfl⟩

/-- The state of the parser behind the sections. -/
def Inspection.read (i : Inspection) : InspectionState :=
  (i.sections.flatMap sectionLines).foldl InspectionState.line
    { mountSource := nonEmpty (some (String.ofList (Text.trim i.mounted))) }

/-- **What is reported** of the output of the script. -/
theorem parse_stdout {i : Inspection} {result : CommandResult} (blockDevicePath : String)
    (h : result.stdout = String.ofList i.stdout) :
    (parseOfflineVmBootInspection result blockDevicePath).sections = i.read.sections ∧
      (parseOfflineVmBootInspection result blockDevicePath).mountSource = i.read.mountSource ∧
      (parseOfflineVmBootInspection result blockDevicePath).errors =
        if Text.trim result.stderr.toList = [] then i.read.errors
        else i.read.errors ++ [String.ofList (Text.trim result.stderr.toList)] := by
  have hstate : (Text.splitLines result.stdout.toList).foldl InspectionState.line {} =
      i.read.line [] := by
    rw [h, String.toList_ofList, splitLines_stdout, List.cons_append, List.foldl_cons,
      line_mountLine, List.foldl_append, List.foldl_cons, List.foldl_nil]
    rfl
  obtain ⟨hsections, hmount, herrors⟩ := line_nil i.read
  unfold parseOfflineVmBootInspection
  simp only [hstate, hsections, hmount, herrors, and_self]

/-- **Texts that keep inside their frames are reported.** -/
theorem reported_of_framed {i : Inspection} (h : ∀ p ∈ i.sections, Framed p.2) :
    InspectionLaw i := by
  have hopen : ∀ p ∈ i.sections, Text.openLine p.2 = [] := fun p hp =>
    Text.openLine_eq_nil_iff.mpr (h p hp).ended
  have hquiet : ∀ p ∈ i.sections, Unmarked p.2 := by
    intro p hp
    refine ⟨fun l hl => (h p hp).plain l (List.dropLast_subset _ hl), ?_⟩
    rw [hopen p hp]
    exact Text.blank_nil
  intro result blockDevicePath hresult
  obtain ⟨hsections, hmount, herrors⟩ := parse_stdout blockDevicePath hresult
  obtain ⟨rmount, rerrors, _, rself⟩ := read_sections i.sections i.distinct hquiet
    { mountSource := nonEmpty (some (String.ofList (Text.trim i.mounted))) }
  constructor
  · intro p hp
    have htrim := Text.trim_dropCr_iff.mpr (h p hp).newlines
    have hself := rself p hp
    rw [if_pos (hopen p hp), htrim] at hself
    rw [hsections]
    exact hself
  · exact hmount.trans rmount
  · have hnone : i.read.errors = [] := rerrors
    rw [herrors, hnone, List.nil_append]

/-- **Only texts without marks have all their ink reported.** -/
theorem quiet_of_reported {i : Inspection}
    (h : ∀ p ∈ i.sections,
      sectionText i.read.sections p.1 = some (String.ofList (Text.trim p.2))) :
    ∀ p ∈ i.sections, Unmarked p.2 := by
  have hkept := keptInk_sections i.distinct i.sections
    { mountSource := nonEmpty (some (String.ofList (Text.trim i.mounted))) }
  have hnone : ∀ keys : List SectionKey, keptInk keys [] = 0 := by
    intro keys
    induction keys with
    | nil => rfl
    | cons key keys ih =>
      have hkey : sectionInk [] key = 0 := rfl
      rw [keptInk, List.map_cons, List.sum_cons, hkey, Nat.zero_add]
      exact ih
  have hink : keptInk (i.sections.map Prod.fst) i.read.sections =
      (i.sections.map fun p => Text.ink p.2).sum := by
    rw [keptInk, List.map_map]
    refine congrArg List.sum (List.map_congr_left fun p hp => ?_)
    rw [Function.comp_apply, sectionInk, h p hp, Option.getD_some, String.toList_ofList,
      Text.ink_trim]
  have hle : ∀ p ∈ i.sections, plainSectionInk p ≤ Text.ink p.2 := by
    intro p _
    have hparts := Text.ink_splitLines p.2
    have hlines := List.sum_le_sum fun l (_ : l ∈ Text.endedLines p.2) => plainInk_le l
    rw [plainSectionInk]
    omega
  intro p hp
  -- an inked line that is a mark, or stands behind the last newline, would be missing
  have hall : plainSectionInk p = Text.ink p.2 := by
    refine Nat.le_antisymm (hle p hp) (Nat.not_lt.mp fun hlt => ?_)
    have hsum := List.sum_lt_sum plainSectionInk (fun p => Text.ink p.2) hle ⟨p, hp, hlt⟩
    have hread : keptInk (i.sections.map Prod.fst) i.read.sections ≤ _ := hkept
    rw [hink, hnone, Nat.zero_add] at hread
    exact absurd hsum (Nat.not_lt.mpr hread)
  have hparts := Text.ink_splitLines p.2
  have hlines := List.sum_le_sum fun l (_ : l ∈ Text.endedLines p.2) => plainInk_le l
  rw [plainSectionInk] at hall
  constructor
  · intro l hl
    by_contra hmark
    have hzero : plainInk l = 0 := if_neg hmark
    have hinked : 0 < Text.ink l := by
      rw [Nat.pos_iff_ne_zero, Ne, Text.ink_eq_zero_iff]
      intro hblank
      cases l with
      | nil => exact hmark (by decide +kernel)
      | cons c l => exact hmark (readMark_space (hblank c List.mem_cons_self) l)
    have hsum := List.sum_lt_sum (l := Text.endedLines p.2) plainInk Text.ink
      (fun l _ => plainInk_le l) ⟨l, hl, hzero ▸ hinked⟩
    omega
  · rw [← Text.ink_eq_zero_iff]
    omega

/-- **The law of the inspection**, exactly: what was found is reported if every text keeps inside
    its frame. A text that does not end its last line takes the end mark with it, a line that
    begins as a mark is not text, and `\r\n` within a text is read as `\n`. -/
theorem inspectionLaw_iff (i : Inspection) :
    InspectionLaw i ↔ ∀ p ∈ i.sections, Framed p.2 := by
  refine ⟨fun h => ?_, reported_of_framed⟩
  have hstdout : (⟨String.ofList i.stdout, "", 0, none⟩ : CommandResult).stdout =
    String.ofList i.stdout := rfl
  have hreported := h _ "" hstdout
  have hread : ∀ p ∈ i.sections,
      sectionText i.read.sections p.1 = some (String.ofList (Text.trim p.2)) := by
    intro p hp
    rw [← (parse_stdout "" hstdout).1]
    exact hreported.sections p hp
  have hquiet := quiet_of_reported hread
  obtain ⟨_, _, _, rself⟩ := read_sections i.sections i.distinct hquiet
    { mountSource := nonEmpty (some (String.ofList (Text.trim i.mounted))) }
  intro p hp
  have hself := rself p hp
  have hsame := hread p hp
  rw [Inspection.read, hself] at hsame
  have hopen : Text.openLine p.2 = [] := by
    by_contra hne
    rw [if_neg hne] at hsame
    cases hsame
  rw [if_pos hopen] at hsame
  constructor
  · exact Text.openLine_eq_nil_iff.mp hopen
  · intro l hl
    rw [Text.splitLines_eq, hopen] at hl
    rcases List.mem_append.mp hl with hl | hl
    · exact (hquiet p hp).plain l hl
    · rw [List.mem_singleton.mp hl]
      decide +kernel
  · exact Text.trim_dropCr_iff.mp (String.ofList_injective (Option.some.inj hsame))

/-- An `os-release` whose last line is not ended. -/
def unendedRelease : Inspection where
  mounted := "/dev/loop0p1".toList
  sections := [(.OS_RELEASE, "ID=debian".toList), (.BOOTSTRAP_STACK, "cloud-init\n".toList)]
  oneLine := by decide +kernel
  distinct := by decide

/-- It is not reported: the end mark stands on its line. -/
theorem unendedRelease_lost : ¬ ∀ i : Inspection, InspectionLaw i := by
  intro h
  have hreported := (h unendedRelease ⟨String.ofList unendedRelease.stdout, "", 0, none⟩ ""
    rfl).sections (.OS_RELEASE, "ID=debian".toList) List.mem_cons_self
  rw [(parse_stdout "" rfl).1] at hreported
  have hlost : sectionText unendedRelease.read.sections .OS_RELEASE = none := by decide +kernel
  rw [hlost] at hreported
  cases hreported

end ProxmoxMcp
