/-
  File:      ProxmoxMcp/EnrollmentScript.lean
  Subject:   THE ENROLLMENT SCRIPT AS THE SHELL READS IT: what it writes to `authorized_keys` and to
             the sudoers file, and which commands run.

  The options and the key reach the script twice: in quoted assignments, and as the lines of two
  here-documents whose delimiter is the fixed word `EOF`.

  * `enrollmentScript_parts` -- the text in its parts;
  * `does_front`, `does_between`, `events_back` -- the events of each part;
  * `enrollment_contained_iff` -- for which options and keys the script writes what it should, and
    runs its own commands alone.
-/
import ProxmoxMcp.AdminEnroll
import ProxmoxMcp.Quoting
import ProxmoxMcp.Lib.JsonText
import ProxmoxMcp.Lib.Script
import ProxmoxMcp.Lib.Sudoers

namespace ProxmoxMcp

open Js Shell Sudoers
open Text (lines splitOn joinWith)

/-! ## 1. The parts of the script -/

/-- `mode`. -/
inductive EnrollmentMode where
  | enroll
  | rotate
  deriving DecidableEq, Repr

def EnrollmentMode.text : EnrollmentMode → String
  | .enroll => "enroll"
  | .rotate => "rotate"

/-- The assignments, each with what is quoted. -/
def assignments (o : AdminOptions) (shellPublicKey tokenExpire : String) :
    List (String × String) :=
  [("api_user=", o.apiUser), ("api_realm=", o.apiRealm),
    ("api_userid=", o.apiUser ++ "@" ++ o.apiRealm), ("token_id=", o.tokenId),
    ("token_comment=", o.tokenComment.getD "proxmox-mcp admin enrollment"),
    ("token_expire=", tokenExpire), ("shell_user=", o.shellUsername),
    ("shell_home=", "/home/" ++ o.shellUsername), ("shell_pubkey=", shellPublicKey),
    ("sudoers_path=", "/etc/sudoers.d/proxmox-mcp-shell"),
    ("sudoers_line=", buildSudoersLine o.shellUsername o.sudoersAllowlist)]

/-- The commands before the key is written. -/
def commandsBefore : List String :=
  ["node_name=$(hostname -s 2>/dev/null || hostname)",
    "if ! id -u \"$shell_user\" >/dev/null 2>&1; then useradd -m -s /bin/bash \"$shell_user\"; fi",
    "install -d -m 0700 \"$shell_home/.ssh\""]

/-- The commands between the two files. -/
def commandsBetween : List String :=
  ["chown -R \"$shell_user:$shell_user\" \"$shell_home/.ssh\"",
    "chmod 0600 \"$shell_home/.ssh/authorized_keys\"",
    "install -d -m 0755 /etc/sudoers.d"]

/-- The commands after them. -/
def commandsAfter : List String :=
  ["chmod 0440 \"$sudoers_path\"",
    "if command -v visudo >/dev/null 2>&1; then visudo -cf \"$sudoers_path\" >/dev/null; fi",
    "pveum user add \"$api_userid\" --comment \"$token_comment\" >/dev/null 2>&1 || true",
    "pveum user modify \"$api_userid\" --enable 1 --comment \"$token_comment\" >/dev/null 2>&1 || true",
    "pveum acl modify / --users \"$api_userid\" --roles Administrator >/dev/null",
    "pveum user token delete \"$api_userid\" \"$token_id\" >/dev/null 2>&1 || true",
    "token_json=$(pveum user token add \"$api_userid\" \"$token_id\" --comment \"$token_comment\" --privsep 0 --expire \"$token_expire\" --output-format json)",
    "export TOKEN_JSON=\"$token_json\"",
    "export NODE_NAME=\"$node_name\""]

/-- The lines of the program for `python3`. -/
def programLines (mode tokenExpire : String) : List String :=
  ["import json, os", "token = json.loads(os.environ['TOKEN_JSON'])", "print(json.dumps(\x7b",
    "  'node': os.environ['NODE_NAME'],", "  'fullTokenId': token['full-tokenid'],",
    "  'value': token['value'],", "  'expire': " ++ tokenExpire ++ ",",
    "  'mode': \"" ++ mode ++ "\",", "\x7d))"]

def keysLine : String := "cat > \"$shell_home/.ssh/authorized_keys\" <<'EOF'"

def sudoersFileLine : String := "cat > \"$sudoers_path\" <<'EOF'"

def programLine : String := "python3 - <<'PY'"

/-- **The script in its parts.** -/
theorem enrollmentScript_parts (o : AdminOptions) (shellPublicKey mode tokenExpire : String) :
    enrollmentScript o shellPublicKey mode tokenExpire = joinLines (
      ("set -euo pipefail" ::
        (assignments o shellPublicKey tokenExpire).map (fun p => p.1 ++ shellQuote p.2) ++
        commandsBefore ++ [keysLine, shellPublicKey, "EOF"] ++ commandsBetween ++
        [sudoersFileLine, buildSudoersLine o.shellUsername o.sudoersAllowlist, "EOF"] ++
        commandsAfter ++ programLine :: programLines mode tokenExpire) ++ ["PY"]) := rfl

/-! ## 2. The fixed lines -/

/-- The texts of all commands of the script. -/
def enrollmentCommands : List (List Char) :=
  (("set -euo pipefail" :: commandsBefore ++ commandsBetween ++ commandsAfter).map String.toList) ++
    ["python3 - ".toList]

theorem isCall_before : ∀ l ∈ "set -euo pipefail" :: commandsBefore, IsCall l.toList := by
  simp only [commandsBefore, List.forall_mem_cons]
  exact ⟨isCall_ofList rfl, isCall_ofList rfl, isCall_ofList rfl, isCall_ofList rfl,
    fun _ h => nomatch h⟩

theorem isCall_between : ∀ l ∈ commandsBetween, IsCall l.toList := by
  simp only [commandsBetween, List.forall_mem_cons]
  exact ⟨isCall_ofList rfl, isCall_ofList rfl, isCall_ofList rfl, fun _ h => nomatch h⟩

set_option maxRecDepth 2000 in
theorem isCall_after : ∀ l ∈ commandsAfter, IsCall l.toList := by
  simp only [commandsAfter, List.forall_mem_cons]
  exact ⟨isCall_ofList rfl, isCall_ofList rfl, isCall_ofList rfl, isCall_ofList rfl,
    isCall_ofList rfl, isCall_ofList rfl, isCall_ofList rfl, isCall_ofList rfl, isCall_ofList rfl,
    fun _ h => nomatch h⟩

/-- The names that are assigned. -/
theorem assignment_names (o : AdminOptions) (shellPublicKey tokenExpire : String) :
    ∀ p ∈ assignments o shellPublicKey tokenExpire,
      p.1.toList = p.1.toList.dropLast ++ ['='] ∧ isName p.1.toList.dropLast = true := by
  simp only [assignments, List.forall_mem_cons]
  decide

/-- The variables and their values. -/
def assigned (o : AdminOptions) (shellPublicKey tokenExpire : String) : Variables :=
  (assignments o shellPublicKey tokenExpire).map fun p => (p.1.toList.dropLast, p.2.toList)

theorem get_shell_home (o : AdminOptions) (shellPublicKey tokenExpire : String) :
    Variables.get (assigned o shellPublicKey tokenExpire).reverse "shell_home".toList =
      ("/home/" ++ o.shellUsername).toList := by
  have hname : "shell_home".toList = "shell_home=".toList.dropLast := by decide
  rw [hname, assigned, assignments]
  simp only [List.map_cons, List.reverse_cons, List.cons_append, List.nil_append,
    List.reverse_nil, List.map_nil]
  rw [Variables.get_of_ne (by decide), Variables.get_of_ne (by decide), Variables.get_of_ne (by decide),
    Variables.get_same]

theorem get_sudoers_path (o : AdminOptions) (shellPublicKey tokenExpire : String) :
    Variables.get (assigned o shellPublicKey tokenExpire).reverse "sudoers_path".toList =
      "/etc/sudoers.d/proxmox-mcp-shell".toList := by
  have hname : "sudoers_path".toList = "sudoers_path=".toList.dropLast := by decide
  rw [hname, assigned, assignments]
  simp only [List.map_cons, List.reverse_cons, List.cons_append, List.nil_append,
    List.reverse_nil, List.map_nil]
  rw [Variables.get_of_ne (by decide), Variables.get_same]

/-- The line that opens the first document. -/
theorem opens_keys : Opens keysLine.toList ("cat > \"".toList ++
    ('$' :: "shell_home".toList ++ "/.ssh/authorized_keys".toList) ++ ['"', ' ']) "EOF".toList := by
  have hparts : keysLine.toList = "cat > \"".toList ++
      ('$' :: "shell_home".toList ++ "/.ssh/authorized_keys".toList) ++ ['"', ' '] ++
        ['<', '<', '\''] ++ ("EOF".toList ++ ['\'']) := by decide
  rw [hparts]
  exact opens_of_closed (by decide) (by decide)

theorem opens_sudoers : Opens sudoersFileLine.toList ("cat > \"".toList ++
    ('$' :: "sudoers_path".toList ++ []) ++ ['"', ' ']) "EOF".toList := by
  have hparts : sudoersFileLine.toList = "cat > \"".toList ++
      ('$' :: "sudoers_path".toList ++ []) ++ ['"', ' '] ++
        ['<', '<', '\''] ++ ("EOF".toList ++ ['\'']) := by decide
  rw [hparts]
  exact opens_of_closed (by decide) (by decide)

theorem opens_program : Opens programLine.toList "python3 - ".toList "PY".toList := by
  have hparts : programLine.toList = "python3 - ".toList ++ ['<', '<', '\''] ++
      ("PY".toList ++ ['\'']) := by decide
  rw [hparts]
  exact opens_of_closed (by decide) (by decide)

/-! ## 3. The events of the script -/

/-- `$shell_home/.ssh/authorized_keys`. -/
def authorizedKeysPath (o : AdminOptions) : List Char :=
  ("/home/" ++ o.shellUsername).toList ++ "/.ssh/authorized_keys".toList

/-- `$sudoers_path`. -/
def sudoersPath : List Char := "/etc/sudoers.d/proxmox-mcp-shell".toList

/-- What happens before the first file is opened. -/
def frontEvents (o : AdminOptions) (shellPublicKey tokenExpire : String) : List Event :=
  .run "set -euo pipefail".toList none ::
    ((assigned o shellPublicKey tokenExpire).map (fun p => .assign p.1 p.2) ++
      (commandsBefore.map String.toList).map (.run · none))

/-- What happens between the files. -/
def betweenEvents : List Event := (commandsBetween.map String.toList).map (.run · none)

/-- What happens after them. -/
def backEvents (mode tokenExpire : String) : List Event :=
  (commandsAfter.map String.toList).map (.run · none) ++
    [.run "python3 - ".toList
      (some (joinWith ['\n'] ((programLines mode tokenExpire).map String.toList) ++ ['\n']))]

section Parts

variable (o : AdminOptions) (shellPublicKey mode tokenExpire : String)

theorem calls_of_all {rows : List String} (h : ∀ l ∈ rows, IsCall l.toList) (env : Variables) :
    Does env (lines (rows.map String.toList)) env ((rows.map String.toList).map (.run · none)) := by
  refine Does.calls fun l hl => ?_
  obtain ⟨r, hr, rfl⟩ := List.mem_map.mp hl
  exact h r hr

/-- The assignments, as they are written. -/
theorem assignment_lines : ((assignments o shellPublicKey tokenExpire).map
      fun p => p.1 ++ shellQuote p.2).map String.toList =
    (assigned o shellPublicKey tokenExpire).map fun p => p.1 ++ '=' :: quote p.2 := by
  rw [assigned, List.map_map, List.map_map]
  refine List.map_congr_left fun p hp => ?_
  have hname := (assignment_names o shellPublicKey tokenExpire p hp).1
  dsimp only [Function.comp]
  rw [toList_quoted]
  conv_lhs => rw [hname]
  rw [List.append_assoc]
  rfl

theorem does_front : Does [] (lines (("set -euo pipefail" ::
      (assignments o shellPublicKey tokenExpire).map (fun p => p.1 ++ shellQuote p.2) ++
        commandsBefore).map String.toList))
    (assigned o shellPublicKey tokenExpire).reverse (frontEvents o shellPublicKey tokenExpire) := by
  have hfirst : Does [] ("set -euo pipefail".toList ++ ['\n']) [] [.run _ none] :=
    Does.call (isCall_before _ List.mem_cons_self)
  have hnames : ∀ p ∈ assigned o shellPublicKey tokenExpire, isName p.1 = true := by
    intro p hp
    obtain ⟨q, hq, rfl⟩ := List.mem_map.mp hp
    exact (assignment_names o shellPublicKey tokenExpire q hq).2
  have hassigns : Does [] _ ((assigned o shellPublicKey tokenExpire).reverse ++ []) _ :=
    Does.assigns hnames
  have hcalls := calls_of_all (fun l hl => isCall_before l (List.mem_cons_of_mem _ hl))
    (assigned o shellPublicKey tokenExpire).reverse
  rw [List.append_nil] at hassigns
  rw [List.cons_append, List.map_cons, List.map_append, assignment_lines, lines, List.flatMap_cons,
    List.flatMap_append]
  exact hfirst.append (hassigns.append hcalls)

theorem does_between (env : Variables) :
    Does env (lines (commandsBetween.map String.toList)) env betweenEvents :=
  calls_of_all isCall_between env

/-- The file of the first document. -/
theorem keys_event (content : List Char) :
    documentEvent (assigned o shellPublicKey tokenExpire).reverse ("cat > \"".toList ++
        ('$' :: "shell_home".toList ++ "/.ssh/authorized_keys".toList) ++ ['"', ' ']) content =
      .write (authorizedKeysPath o) content := by
  rw [documentEvent, catTarget_quoted (by decide)]
  dsimp only
  rw [expand_variable _ (by decide) (by decide) (by decide), get_shell_home]
  rfl

/-- The file of the second one. -/
theorem sudoers_event (content : List Char) :
    documentEvent (assigned o shellPublicKey tokenExpire).reverse ("cat > \"".toList ++
        ('$' :: "sudoers_path".toList ++ []) ++ ['"', ' ']) content =
      .write sudoersPath content := by
  rw [documentEvent, catTarget_quoted (by decide)]
  dsimp only
  rw [expand_variable _ (by decide) List.not_mem_nil (by decide), get_sudoers_path,
    List.append_nil]
  rfl

/-- The text after the second file. -/
def backText (mode tokenExpire : String) : List Char :=
  lines (commandsAfter.map String.toList) ++ (programLine.toList ++ ['\n'] ++
    (joinWith ['\n'] ((programLines mode tokenExpire).map String.toList) ++ ['\n'] ++ "PY".toList))

/-- **The text of the script**: the front, a file, the commands between, a file, and the rest. -/
theorem toList_enrollmentScript : (enrollmentScript o shellPublicKey mode tokenExpire).toList =
    lines (("set -euo pipefail" ::
      (assignments o shellPublicKey tokenExpire).map (fun p => p.1 ++ shellQuote p.2) ++
        commandsBefore).map String.toList) ++
    (keysLine.toList ++ ['\n'] ++ (shellPublicKey.toList ++ ['\n'] ++ ("EOF".toList ++ ['\n'] ++
    (lines (commandsBetween.map String.toList) ++
    (sudoersFileLine.toList ++ ['\n'] ++
      ((buildSudoersLine o.shellUsername o.sudoersAllowlist).toList ++ ['\n'] ++
        ("EOF".toList ++ ['\n'] ++ backText mode tokenExpire))))))) := by
  have hprogram : lines ((programLines mode tokenExpire).map String.toList) =
      joinWith ['\n'] ((programLines mode tokenExpire).map String.toList) ++ ['\n'] :=
    Text.lines_eq_joinWith (List.cons_ne_nil _ _)
  rw [enrollmentScript_parts, joinLines, String.toList_ofList, List.map_append, List.map_singleton,
    Text.joinWith_concat, backText, ← hprogram]
  generalize programLines mode tokenExpire = program
  generalize assignments o shellPublicKey tokenExpire = pairs
  generalize "set -euo pipefail" :: pairs.map (fun p => p.1 ++ shellQuote p.2) ++
    commandsBefore = front
  simp only [lines, List.map_append, List.map_cons, List.map_nil, List.flatMap_append,
    List.flatMap_cons, List.flatMap_nil, List.append_nil, List.append_assoc]

/-- A line of the program: no newline, and not the delimiter. -/
def IsProgramLine (l : List Char) : Prop := '\n' ∉ l ∧ l ≠ "PY".toList

omit o shellPublicKey mode tokenExpire in
/-- A literal is checked by its characters. -/
theorem isProgramLine_ofList {cs : List Char}
    (h : (cs.all (· != '\n') && cs != ['P', 'Y']) = true) :
    IsProgramLine (String.ofList cs).toList := by
  rw [Bool.and_eq_true, bne_iff_ne] at h
  rw [String.toList_ofList]
  exact ⟨fun hmem => absurd (List.all_eq_true.mp h.1 _ hmem) (by decide), h.2⟩

/-- The lines of the program have no newline, and none of them is its delimiter. -/
theorem program_lines (m : EnrollmentMode) (hexpire : '\n' ∉ tokenExpire.toList) :
    ∀ l ∈ (programLines m.text tokenExpire).map String.toList, IsProgramLine l := by
  have hline : ("  'expire': " ++ tokenExpire ++ ",").toList =
      ' ' :: (" 'expire': ".toList ++ tokenExpire.toList ++ [',']) := by
    have hfront : "  'expire': ".toList = ' ' :: " 'expire': ".toList := by decide
    rw [String.toList_append, String.toList_append, hfront]
    rfl
  have hnumber : IsProgramLine ("  'expire': " ++ tokenExpire ++ ",").toList := by
    rw [hline]
    refine ⟨fun h => ?_, fun h => ?_⟩
    · rw [List.mem_cons, List.mem_append, List.mem_append] at h
      obtain h | (h | h) | h := h
      · exact absurd h (by decide)
      · exact absurd h (by decide)
      · exact hexpire h
      · exact absurd h (by decide)
    · have hhead : some ' ' = "PY".toList.head? := congrArg List.head? h
      exact absurd hhead (by decide)
  have hmode : IsProgramLine ("  'mode': \"" ++ m.text ++ "\",").toList := by
    cases m with
    | enroll => exact ⟨by decide, by decide⟩
    | rotate => exact ⟨by decide, by decide⟩
  simp only [programLines, List.map_cons, List.map_nil, List.forall_mem_cons]
  exact ⟨isProgramLine_ofList rfl, isProgramLine_ofList rfl, isProgramLine_ofList rfl,
    isProgramLine_ofList rfl, isProgramLine_ofList rfl, isProgramLine_ofList rfl, hnumber, hmode,
    isProgramLine_ofList rfl, fun _ h => nomatch h⟩

/-- The rest of the script runs its commands, and the program. -/
theorem events_back (m : EnrollmentMode) (hexpire : '\n' ∉ tokenExpire.toList) (env : Variables) :
    events env (Shell.readScript (.command []) (backText m.text tokenExpire)) =
      backEvents m.text tokenExpire := by
  have hlines := program_lines tokenExpire m hexpire
  have hdelimiter : "PY".toList ∉ (programLines m.text tokenExpire).map String.toList :=
    fun h => (hlines _ h).2 rfl
  have hsplit : splitOn '\n' (joinWith ['\n']
      ((programLines m.text tokenExpire).map String.toList)) = _ :=
    Text.splitOn_joinWith (List.cons_ne_nil _ _) fun l hl => (hlines l hl).1
  have hprogram := events_document_last opens_program (by decide) (hsplit ▸ hdelimiter) env
  have hpython : ∀ content, documentEvent env "python3 - ".toList content =
      .run "python3 - ".toList (some content) := fun content => rfl
  rw [backText, (calls_of_all isCall_after env).readScript, hprogram, hpython, backEvents]

end Parts

/-! ## 4. Containment -/

/-- The commands that the sudoers line lists. -/
def listedCommands (o : AdminOptions) : List (List Char) :=
  (match o.sudoersAllowlist with
    | some (entry :: entries) => entry :: entries
    | _ => allowlistDefaults).map String.toList

theorem listedCommands_ne_nil (o : AdminOptions) : listedCommands o ≠ [] := by
  unfold listedCommands
  split <;> exact List.cons_ne_nil _ _

theorem isCommand_ofList {cs : List Char} (h : isCommand cs = true) :
    isCommand (String.ofList cs).toList = true := by
  rwa [String.toList_ofList]

/-- Every default is a command. -/
theorem isCommand_defaults : ∀ c ∈ allowlistDefaults, isCommand c.toList = true := by
  simp only [allowlistDefaults, List.forall_mem_cons]
  exact ⟨isCommand_ofList rfl, isCommand_ofList rfl, isCommand_ofList rfl, isCommand_ofList rfl,
    isCommand_ofList rfl, isCommand_ofList rfl, isCommand_ofList rfl, isCommand_ofList rfl,
    isCommand_ofList rfl, isCommand_ofList rfl, isCommand_ofList rfl, fun _ h => nomatch h⟩

/-- The sudoers line is that of the user and the listed commands. -/
theorem toList_buildSudoersLine (o : AdminOptions) :
    (buildSudoersLine o.shellUsername o.sudoersAllowlist).toList =
      grantLine o.shellUsername.toList (listedCommands o) := by
  have hjoin : ∀ (u middle : String) (cs : List Char),
      (u ++ middle ++ String.ofList cs).toList = u.toList ++ middle.toList ++ cs := by
    intro u middle cs
    rw [String.toList_append, String.toList_append, String.toList_ofList]
  exact hjoin ..

/-- **What the script has to do**: the key and a newline are all that is written to
    `authorized_keys`, one line is all that is written to the sudoers file, which grants the listed
    commands to the shell user, no other file is written, and only the commands of the script
    run. -/
structure Contained (o : AdminOptions) (shellPublicKey : String) (es : List Event) : Prop where
  keys : writesTo (authorizedKeysPath o) es = [shellPublicKey.toList ++ ['\n']]
  sudoers : ∃ file, writesTo sudoersPath es = [file] ∧
    readGrant file = some ⟨o.shellUsername.toList, (listedCommands o).map trimBlanks⟩
  files : ∀ path content, .write path content ∈ es →
    path = authorizedKeysPath o ∨ path = sudoersPath
  commands : ∀ c ∈ commandsRun es, c ∈ enrollmentCommands

theorem paths_ne (o : AdminOptions) : authorizedKeysPath o ≠ sudoersPath := by
  have hhome : "/home/".toList = ['/', 'h', 'o', 'm', 'e', '/'] := by decide
  have hkeys : (authorizedKeysPath o)[1]? = some 'h' := by
    rw [authorizedKeysPath, String.toList_append, hhome]
    rfl
  have hsudoers : sudoersPath[1]? = some 'e' := by decide
  intro h
  rw [h, hsudoers] at hkeys
  exact absurd hkeys (by decide)

section Law

variable {o : AdminOptions} {shellPublicKey : String} {mode : EnrollmentMode} {tokenExpire : String}

theorem writesTo_front (path : List Char) :
    writesTo path (frontEvents o shellPublicKey tokenExpire) = [] := by
  simp [frontEvents, writesTo]

theorem writesTo_between (path : List Char) : writesTo path betweenEvents = [] := by
  simp [betweenEvents, writesTo]

theorem writesTo_back (path : List Char) (mode : String) :
    writesTo path (backEvents mode tokenExpire) = [] := by
  simp [backEvents, writesTo]

theorem writesTo_append (path : List Char) (es es' : List Event) :
    writesTo path (es ++ es') = writesTo path es ++ writesTo path es' := List.filterMap_append

theorem writesTo_cons (path p content : List Char) (es : List Event) :
    writesTo path (.write p content :: es) =
      (if p = path then [content] else []) ++ writesTo path es := by
  by_cases h : p = path
  · rw [if_pos h]
    exact List.filterMap_cons_some (if_pos h)
  · rw [if_neg h]
    exact List.filterMap_cons_none (if_neg h)

/-- **A key with the delimiter among its lines** is not what is written. -/
theorem keys_early (hmem : "EOF".toList ∈ splitOn '\n' shellPublicKey.toList) :
    ∃ content, content ≠ shellPublicKey.toList ++ ['\n'] ∧ ∃ later,
      runScript (enrollmentScript o shellPublicKey mode.text tokenExpire).toList =
        frontEvents o shellPublicKey tokenExpire ++
          .write (authorizedKeysPath o) content :: later := by
  obtain ⟨content, hne, later, hevents⟩ := events_document_early opens_keys (by decide) hmem
    (assigned o shellPublicKey tokenExpire).reverse _
  refine ⟨content, hne, later, ?_⟩
  rw [runScript, toList_enrollmentScript,
    (does_front o shellPublicKey tokenExpire).readScript, hevents, keys_event]

/-- **Otherwise the key is written**, and the sudoers file after it. -/
theorem keys_written (hkey : "EOF".toList ∉ splitOn '\n' shellPublicKey.toList) :
    runScript (enrollmentScript o shellPublicKey mode.text tokenExpire).toList =
      frontEvents o shellPublicKey tokenExpire ++
        (.write (authorizedKeysPath o) (shellPublicKey.toList ++ ['\n']) :: (betweenEvents ++
          events (assigned o shellPublicKey tokenExpire).reverse
            (Shell.readScript (.command []) (sudoersFileLine.toList ++ ['\n'] ++
              (grantLine o.shellUsername.toList (listedCommands o) ++ ['\n'] ++
                ("EOF".toList ++ ['\n'] ++ backText mode.text tokenExpire)))))) := by
  have hdocument : Does (assigned o shellPublicKey tokenExpire).reverse _ _ _ :=
    Does.document opens_keys (by decide) hkey
  rw [keys_event] at hdocument
  rw [runScript, toList_enrollmentScript, (does_front o shellPublicKey tokenExpire).readScript,
    toList_buildSudoersLine]
  have hregroup : ∀ a b c d : List Char, a ++ (b ++ (c ++ d)) = a ++ (b ++ c) ++ d := by
    intro a b c d
    rw [List.append_assoc, List.append_assoc]
  rw [hregroup, hdocument.readScript, (does_between _).readScript]
  rfl

/-- A line without newlines is no delimiter. -/
theorem delimiter_not_mem_line (hline : '\n' ∉ grantLine o.shellUsername.toList (listedCommands o)) :
    "EOF".toList ∉ splitOn '\n' (grantLine o.shellUsername.toList (listedCommands o)) := by
  have hblank : ' ' ∈ grantLine o.shellUsername.toList (listedCommands o) := by
    rw [grantLine, List.mem_append, List.mem_append]
    exact .inl (.inr (by decide))
  rw [Text.splitOn_of_not_mem hline, List.mem_singleton]
  intro h
  rw [← h] at hblank
  exact absurd hblank (by decide)

/-- **The sudoers file is written**, and the rest of the script runs. -/
theorem sudoers_written (hexpire : '\n' ∉ tokenExpire.toList)
    (hline : '\n' ∉ grantLine o.shellUsername.toList (listedCommands o)) :
    events (assigned o shellPublicKey tokenExpire).reverse
        (Shell.readScript (.command []) (sudoersFileLine.toList ++ ['\n'] ++
          (grantLine o.shellUsername.toList (listedCommands o) ++ ['\n'] ++
            ("EOF".toList ++ ['\n'] ++ backText mode.text tokenExpire)))) =
      .write sudoersPath (grantLine o.shellUsername.toList (listedCommands o) ++ ['\n']) ::
        backEvents mode.text tokenExpire := by
  have hdocument : Does (assigned o shellPublicKey tokenExpire).reverse _ _ _ :=
    Does.document opens_sudoers (by decide) (delimiter_not_mem_line hline)
  rw [sudoers_event] at hdocument
  have hregroup : ∀ a b c d : List Char, a ++ (b ++ (c ++ d)) = a ++ (b ++ c) ++ d := by
    intro a b c d
    rw [List.append_assoc, List.append_assoc]
  rw [hregroup, hdocument.readScript, events_back tokenExpire mode hexpire]
  rfl

/-- The events of a script that writes both files. -/
def enrollmentEvents (o : AdminOptions) (shellPublicKey mode tokenExpire : String) : List Event :=
  frontEvents o shellPublicKey tokenExpire ++
    (.write (authorizedKeysPath o) (shellPublicKey.toList ++ ['\n']) :: (betweenEvents ++
      .write sudoersPath (grantLine o.shellUsername.toList (listedCommands o) ++ ['\n']) ::
        backEvents mode tokenExpire))

/-- **The run of the script**, where no line of its documents is their delimiter. -/
theorem runScript_enrollment (hexpire : '\n' ∉ tokenExpire.toList)
    (hkey : "EOF".toList ∉ splitOn '\n' shellPublicKey.toList)
    (hline : '\n' ∉ grantLine o.shellUsername.toList (listedCommands o)) :
    runScript (enrollmentScript o shellPublicKey mode.text tokenExpire).toList =
      enrollmentEvents o shellPublicKey mode.text tokenExpire := by
  rw [keys_written hkey, sudoers_written hexpire hline, enrollmentEvents]

/-- The files it writes. -/
theorem writesTo_enrollment (path : List Char) (mode : String) :
    writesTo path (enrollmentEvents o shellPublicKey mode tokenExpire) =
      (if authorizedKeysPath o = path then [shellPublicKey.toList ++ ['\n']] else []) ++
        if sudoersPath = path then
          [grantLine o.shellUsername.toList (listedCommands o) ++ ['\n']] else [] := by
  rw [enrollmentEvents, writesTo_append, writesTo_front, writesTo_cons, writesTo_append,
    writesTo_between, writesTo_cons, writesTo_back, List.append_nil, List.nil_append,
    List.nil_append]

theorem commandsRun_append (es es' : List Event) :
    commandsRun (es ++ es') = commandsRun es ++ commandsRun es' := List.filterMap_append

theorem commandsRun_calls (texts : List (List Char)) :
    commandsRun (texts.map (.run · none)) = texts := by
  induction texts with
  | nil => rfl
  | cons t texts ih => exact congrArg (t :: ·) ih

theorem commandsRun_assigns (pairs : Variables) :
    commandsRun (pairs.map fun p => .assign p.1 p.2) = [] := by
  induction pairs with
  | nil => rfl
  | cons p pairs ih => exact ih

/-- **The commands it runs are its own**, in their order. -/
theorem commandsRun_enrollment (mode : String) :
    commandsRun (enrollmentEvents o shellPublicKey mode tokenExpire) = enrollmentCommands := by
  have hwrite : ∀ p c es, commandsRun (.write p c :: es) = commandsRun es := fun _ _ _ => rfl
  have hrun : ∀ t i es, commandsRun (.run t i :: es) = t :: commandsRun es := fun _ _ _ => rfl
  rw [enrollmentEvents, commandsRun_append, frontEvents, hrun, commandsRun_append,
    commandsRun_assigns, commandsRun_calls, hwrite, commandsRun_append, betweenEvents,
    commandsRun_calls, hwrite, backEvents, commandsRun_append, commandsRun_calls, hrun,
    enrollmentCommands]
  simp only [List.map_append, List.map_cons, List.nil_append, List.append_assoc, List.cons_append]
  rfl

/-- It writes no other file. -/
theorem files_enrollment {mode : String} {path content : List Char}
    (h : .write path content ∈ enrollmentEvents o shellPublicKey mode tokenExpire) :
    path = authorizedKeysPath o ∨ path = sudoersPath := by
  have hmem : content ∈ writesTo path (enrollmentEvents o shellPublicKey mode tokenExpire) :=
    List.mem_filterMap.mpr ⟨_, h, if_pos rfl⟩
  rw [writesTo_enrollment, List.mem_append] at hmem
  obtain hmem | hmem := hmem
  · split at hmem
    · rename_i hpath
      exact .inl hpath.symm
    · cases hmem
  · split at hmem
    · rename_i hpath
      exact .inr hpath.symm
    · cases hmem

/-- **A line of the key after the delimiter runs as a command.** -/
theorem key_command_runs {content command : List Char}
    (hkey : shellPublicKey.toList = content ++ ['\n'] ++ ("EOF".toList ++ ['\n'] ++ command))
    (hcontent : "EOF".toList ∉ splitOn '\n' content) (hcommand : IsCall command) :
    ∃ later, runScript (enrollmentScript o shellPublicKey mode.text tokenExpire).toList =
      frontEvents o shellPublicKey tokenExpire ++
        .write (authorizedKeysPath o) (content ++ ['\n']) :: .run command none :: later := by
  have hdocument : Does (assigned o shellPublicKey tokenExpire).reverse _ _ _ :=
    Does.document opens_keys (by decide) hcontent
  rw [keys_event] at hdocument
  have hread : ∀ s, events (assigned o shellPublicKey tokenExpire).reverse
      (Shell.readScript (.command [])
        (keysLine.toList ++ ['\n'] ++ (shellPublicKey.toList ++ ['\n'] ++ s))) =
      .write (authorizedKeysPath o) (content ++ ['\n']) :: .run command none ::
        events (assigned o shellPublicKey tokenExpire).reverse
          (Shell.readScript (.command []) s) := by
    intro s
    have hparts : keysLine.toList ++ ['\n'] ++ (shellPublicKey.toList ++ ['\n'] ++ s) =
        keysLine.toList ++ ['\n'] ++ (content ++ ['\n'] ++ ("EOF".toList ++ ['\n'])) ++
          (command ++ ['\n'] ++ s) := by
      rw [hkey]
      simp only [List.append_assoc]
    rw [hparts, hdocument.readScript, (Does.call hcommand).readScript]
    rfl
  rw [runScript, toList_enrollmentScript, (does_front o shellPublicKey tokenExpire).readScript,
    hread]
  exact ⟨_, rfl⟩

/-- The key has to have no line that is the delimiter. -/
theorem Contained.key (h : Contained o shellPublicKey
      (runScript (enrollmentScript o shellPublicKey mode.text tokenExpire).toList)) :
    "EOF".toList ∉ splitOn '\n' shellPublicKey.toList := by
  intro hmem
  obtain ⟨content, hne, later, hevents⟩ := @keys_early o shellPublicKey mode tokenExpire hmem
  have hkeys := h.keys
  rw [hevents, writesTo_append, writesTo_front, writesTo_cons, if_pos rfl] at hkeys
  exact hne (List.cons.inj hkeys).1

/-- What the sudoers file grants has no newlines, so its line is one line. -/
theorem Contained.line {es : List Event} (h : Contained o shellPublicKey es) :
    '\n' ∉ grantLine o.shellUsername.toList (listedCommands o) := by
  obtain ⟨file, -, hgrant⟩ := h.sudoers
  obtain ⟨huser, hcommands⟩ := newline_not_mem_grant hgrant
  refine newline_not_mem_grantLine huser fun c hc => ?_
  rw [← mem_trimBlanks rfl]
  exact hcommands _ (List.mem_map_of_mem hc)

end Law

/-- **When the script is contained**: exactly if no line of the key is `EOF`, the shell user is one
    user name of a sudoers file, and every listed command is one command of it. -/
theorem enrollment_contained_iff (o : AdminOptions) (shellPublicKey : String)
    (mode : EnrollmentMode) (tokenExpire : Number) :
    Contained o shellPublicKey (runScript
        (enrollmentScript o shellPublicKey mode.text (String.ofList tokenExpire.text)).toList) ↔
      "EOF".toList ∉ splitOn '\n' shellPublicKey.toList ∧
        isUserName o.shellUsername.toList = true ∧
          ∀ c ∈ listedCommands o, isCommand c = true := by
  have hexpire : '\n' ∉ (String.ofList tokenExpire.text).toList := by
    rw [String.toList_ofList]
    exact newline_not_mem_number tokenExpire
  have hpaths := paths_ne o
  constructor
  · intro h
    have hkey := h.key
    have hline := h.line
    obtain ⟨file, hwrites, hgrant⟩ := h.sudoers
    rw [runScript_enrollment hexpire hkey hline, writesTo_enrollment, if_neg hpaths,
      if_pos rfl] at hwrites
    have hfile := (List.cons.inj hwrites).1
    rw [← hfile] at hgrant
    exact ⟨hkey, (readGrant_iff (listedCommands_ne_nil o)).mp hgrant⟩
  · intro h
    obtain ⟨hkey, hwords⟩ := h
    have hgrant := (readGrant_iff (listedCommands_ne_nil o)).mpr hwords
    have hnewline : '\n' ∉ o.shellUsername.toList := (newline_not_mem_grant hgrant).1
    have hline := newline_not_mem_grantLine hnewline fun c hc => isCommand_newline (hwords.2 c hc)
    rw [runScript_enrollment hexpire hkey hline]
    refine ⟨?_, ⟨_, ?_, hgrant⟩, fun path content hmem => files_enrollment hmem, fun c hc => ?_⟩
    · rw [writesTo_enrollment, if_pos rfl, if_neg (Ne.symm hpaths)]
      rfl
    · rw [writesTo_enrollment, if_neg hpaths, if_pos rfl]
      rfl
    · rwa [commandsRun_enrollment] at hc

/-- An enrollment with the defaults. -/
def labOptions : AdminOptions :=
  { cluster := "lab", node := "pve-example", apiUser := "mcp", apiRealm := "pam", tokenId := "mcp",
    shellUsername := "proxmox-mcp-shell",
    bootstrap := { host := "proxmox.example.internal", username := "root" } }

/-- A key file with the delimiter on a line of its own. -/
theorem labOptions_not_contained : ¬ Contained labOptions "ssh-ed25519 AAAA\nEOF\nid"
    (runScript (enrollmentScript labOptions "ssh-ed25519 AAAA\nEOF\nid"
      EnrollmentMode.enroll.text "1200").toList) :=
  fun h => h.key (by decide)

end ProxmoxMcp
