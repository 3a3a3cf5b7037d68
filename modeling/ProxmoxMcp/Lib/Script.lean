/-
  File:      ProxmoxMcp/Lib/Script.lean
  Subject:   A SCRIPT WITH HERE-DOCUMENTS: the lines of commands a shell reads from a text without
             NUL, the documents under them, and what the plain ones among the commands do. Nothing
             here names the repository.

  * `scan` -- the reader, one character at a time: an end of line outside quotes ends a command,
    and a quoted delimiter after `<<` makes the lines up to itself the input of the command;
  * `scan_quoted`, `scan_document`, `scan_document_early` -- a quoted text stays inside its line; a
    document stays whole exactly if none of its lines is the delimiter;
  * `events` -- assignments of a quoted word, files written by `cat`, and every other command by
    its text.

  NOT here: what other commands do. From a `\`, a backquote, a `#` and from a here-document of
  another form on, the text counts as one command that is not looked into.
-/
import ProxmoxMcp.Lib.Lines
import ProxmoxMcp.Lib.Shell

namespace Shell

open Text

/-! ## 1. The reader -/

/-- A line of commands, its text up to the here-document, and the document. -/
structure ScriptLine where
  text : List Char
  document : Option (List Char) := none
  deriving DecidableEq, Repr

/-- What the reader is in the middle of: a line, after a `<` or `$`, inside quotes, inside the
    delimiter of a here-document or behind it, inside a document, or in what it does not look
    into. -/
inductive ScriptMode where
  | command (text : List Char)
  | mark (text : List Char) (c : Char)
  | single (text : List Char)
  | double (text : List Char)
  | opener (text : List Char)
  | delimiter (text word : List Char)
  | closed (text word : List Char)
  | document (text word content line : List Char)
  | rest (text : List Char)
  deriving DecidableEq, Repr

/-- A character outside all quotes. -/
def commandStep (t : List Char) (c : Char) : ScriptMode × List ScriptLine :=
  if c = '\n' then (.command [], if t = [] then [] else [⟨t, none⟩])
  else if c = '\'' then (.single (t ++ [c]), [])
  else if c = '"' then (.double (t ++ [c]), [])
  else if c = '<' ∨ c = '$' then (.mark t c, [])
  else if c = '\\' ∨ c = '`' ∨ c = '#' then (.rest (t ++ [c]), [])
  else (.command (t ++ [c]), [])

/-- One character, and the line that it ends. -/
def ScriptMode.step : ScriptMode → Char → ScriptMode × List ScriptLine
  | .command t, c => commandStep t c
  | .mark t m, c =>
      if m = '<' ∧ c = '<' then (.opener t, [])
      else if m = '$' ∧ (c = '\'' ∨ c = '"') then (.rest (t ++ [m, c]), [])
      else commandStep (t ++ [m]) c
  | .single t, c => (if c = '\'' then .command (t ++ [c]) else .single (t ++ [c]), [])
  | .double t, c =>
      (if c = '"' then .command (t ++ [c])
        else if c = '\\' ∨ c = '`' ∨ c = '(' then .rest (t ++ [c])
        else .double (t ++ [c]), [])
  | .opener t, c => (if c = '\'' then .delimiter t [] else .rest (t ++ ['<', '<', c]), [])
  | .delimiter t w, c => (if c = '\'' then .closed t w else .delimiter t (w ++ [c]), [])
  | .closed t w, c =>
      (if c = '\n' then .document t w [] []
        else .rest (t ++ '<' :: '<' :: '\'' :: w ++ ['\'', c]), [])
  | .document t w content line, c =>
      if c = '\n' then
        if line = w then (.command [], [⟨t, some content⟩])
        else (.document t w (content ++ line ++ ['\n']) [], [])
      else (.document t w content (line ++ [c]), [])
  | .rest t, c => (.rest (t ++ [c]), [])

/-- The line that the end of the script ends. A document ends there too; open quotes are an
    error. -/
def ScriptMode.finish : ScriptMode → List ScriptLine
  | .command t => if t = [] then [] else [⟨t, none⟩]
  | .mark t c => [⟨t ++ [c], none⟩]
  | .closed t _ => [⟨t, some []⟩]
  | .document t w content line => [⟨t, some (if line = w then content else content ++ line)⟩]
  | .rest t => [⟨t, none⟩]
  | _ => []

/-- A text, from a mode to a mode, and the lines it ends. -/
def scan (m : ScriptMode) : List Char → ScriptMode × List ScriptLine
  | [] => (m, [])
  | c :: s =>
      let next := m.step c
      let later := scan next.1 s
      (later.1, next.2 ++ later.2)

/-- **The lines of a script.** -/
def readScript (m : ScriptMode) (s : List Char) : List ScriptLine :=
  (scan m s).2 ++ (scan m s).1.finish

/-! ## 2. The rules -/

variable {m m' : ScriptMode} {t w : List Char} {s s' : List Char} {ls ls' : List ScriptLine}

theorem scan_append (m : ScriptMode) (s s' : List Char) : scan m (s ++ s') =
    ((scan (scan m s).1 s').1, (scan m s).2 ++ (scan (scan m s).1 s').2) := by
  induction s generalizing m with
  | nil => rfl
  | cons c s ih =>
    rw [List.cons_append, scan, ih]
    simp only [scan, List.append_assoc]

/-- One text after the other. -/
theorem scan_trans (h : scan m s = (m', ls)) (s' : List Char) :
    scan m (s ++ s') = ((scan m' s').1, ls ++ (scan m' s').2) := by
  rw [scan_append, h]

theorem readScript_trans (h : scan m s = (m', ls)) (s' : List Char) :
    readScript m (s ++ s') = ls ++ readScript m' s' := by
  rw [readScript, scan_trans h, readScript, List.append_assoc]

/-- A text without a quote stays inside the single quotes. -/
theorem scan_single {v : List Char} (hv : '\'' ∉ v) :
    scan (.single t) v = (.single (t ++ v), []) := by
  induction v generalizing t with
  | nil => rw [List.append_nil, scan]
  | cons c v ih =>
    rw [List.mem_cons, not_or] at hv
    have hstep : ScriptMode.step (.single t) c = (.single (t ++ [c]), []) := by
      rw [ScriptMode.step, if_neg (Ne.symm hv.1)]
    rw [scan, hstep, ih hv.2, List.append_assoc]
    rfl

/-- A quote inside, written `'"'"'`. -/
theorem scan_quote_in_quotes : scan (.single t) ['\'', '"', '\'', '"', '\''] =
    (.single (t ++ ['\'', '"', '\'', '"', '\'']), []) := by
  simp [scan, ScriptMode.step, commandStep]

theorem scan_single_replaced (v : List Char) :
    scan (.single t) (replaceChar '\'' ['\'', '"', '\'', '"', '\''] v) =
      (.single (t ++ replaceChar '\'' ['\'', '"', '\'', '"', '\''] v), []) := by
  induction v generalizing t with
  | nil => exact scan_single List.not_mem_nil
  | cons c v ih =>
    rw [replaceChar, List.flatMap_cons, ← replaceChar]
    by_cases hc : c = '\''
    · rw [if_pos hc, scan_trans scan_quote_in_quotes, ih, List.append_assoc]
      rfl
    · rw [if_neg hc, scan_trans (scan_single (by simpa using Ne.symm hc)), ih, List.append_assoc]
      rfl

/-- **A quoted text stays inside its line**, with all the lines of its own. -/
theorem scan_quoted (v : List Char) :
    scan (.command t) (quote v) = (.command (t ++ quote v), []) := by
  have hopen : scan (.command t) ['\''] = (.single (t ++ ['\'']), []) := by
    simp [scan, ScriptMode.step, commandStep]
  have hclose : ∀ u, scan (.single u) ['\''] = (.command (u ++ ['\'']), []) := by
    intro u
    simp [scan, ScriptMode.step]
  have hquote : quote v = ['\''] ++ (replaceChar '\'' ['\'', '"', '\'', '"', '\''] v ++ ['\'']) :=
    rfl
  rw [hquote, scan_trans hopen, scan_trans (scan_single_replaced v), hclose]
  simp

/-- Where a line is among its quotes. -/
inductive Quotes where
  | plain
  | mark (c : Char)
  | single
  | double
  deriving DecidableEq, Repr

/-- One character outside all quotes; `none` at the end of the line and where the reader stops
    looking. -/
def plainNext (c : Char) : Option Quotes :=
  if c = '\n' then none
  else if c = '\'' then some .single
  else if c = '"' then some .double
  else if c = '<' ∨ c = '$' then some (.mark c)
  else if c = '\\' ∨ c = '`' ∨ c = '#' then none
  else some .plain

def Quotes.next : Quotes → Char → Option Quotes
  | .plain, c => plainNext c
  | .mark m, c =>
      if m = '<' ∧ c = '<' then none
      else if m = '$' ∧ (c = '\'' ∨ c = '"') then none
      else plainNext c
  | .single, c => some (if c = '\'' then .plain else .single)
  | .double, c =>
      if c = '"' then some .plain
      else if c = '\\' ∨ c = '`' ∨ c = '(' then none
      else some .double

/-- The quotes after a part of a line. -/
def Quotes.walk (q : Quotes) : List Char → Option Quotes
  | [] => some q
  | c :: s => (q.next c).bind fun q' => walk q' s

/-- The mode after the part `p` of a line. -/
def Quotes.At (p : List Char) : Quotes → ScriptMode → Prop
  | .plain, m => m = .command p
  | .mark c, m => ∃ t, p = t ++ [c] ∧ m = .mark t c
  | .single, m => m = .single p
  | .double, m => m = .double p

theorem at_commandStep {q : Quotes} {c : Char} (h : plainNext c = some q) (p : List Char) :
    ∃ m, commandStep p c = (m, []) ∧ q.At (p ++ [c]) m := by
  unfold plainNext at h
  unfold commandStep
  split at h
  · cases h
  rw [if_neg ‹_›]
  split at h
  · cases h
    exact ⟨_, if_pos ‹_›, rfl⟩
  rw [if_neg ‹_›]
  split at h
  · cases h
    exact ⟨_, if_pos ‹_›, rfl⟩
  rw [if_neg ‹_›]
  split at h
  · cases h
    exact ⟨_, if_pos ‹_›, p, rfl, rfl⟩
  rw [if_neg ‹_›]
  split at h
  · cases h
  cases h
  exact ⟨_, if_neg ‹_›, rfl⟩

theorem at_step {q q' : Quotes} {c : Char} {p : List Char} (h : q.next c = some q')
    (hm : q.At p m) : ∃ m', m.step c = (m', []) ∧ q'.At (p ++ [c]) m' := by
  cases q with
  | plain =>
    subst hm
    exact at_commandStep h p
  | mark d =>
    obtain ⟨t, rfl, rfl⟩ := hm
    rw [Quotes.next] at h
    rw [ScriptMode.step]
    split at h
    · cases h
    rw [if_neg ‹_›]
    split at h
    · cases h
    rw [if_neg ‹_›]
    exact at_commandStep h _
  | single =>
    subst hm
    cases h
    refine ⟨_, rfl, ?_⟩
    by_cases hc : c = '\''
    · rw [if_pos hc, if_pos hc]
      rfl
    · rw [if_neg hc, if_neg hc]
      rfl
  | double =>
    subst hm
    refine ⟨_, rfl, ?_⟩
    rw [Quotes.next] at h
    split at h
    · cases h
      exact if_pos ‹_›
    rw [if_neg ‹_›]
    split at h
    · cases h
    cases h
    exact if_neg ‹_›

/-- **A part of a line is read as it stands**, its quotes alone decide about the rest. -/
theorem at_scan {q q' : Quotes} {p : List Char} (hm : q.At p m) (h : q.walk s = some q') :
    ∃ m', scan m s = (m', []) ∧ q'.At (p ++ s) m' := by
  induction s generalizing q p m with
  | nil =>
    cases h
    exact ⟨m, rfl, by rwa [List.append_nil]⟩
  | cons c s ih =>
    rw [Quotes.walk, Option.bind_eq_some_iff] at h
    obtain ⟨r, hr, hs⟩ := h
    obtain ⟨n, hstep, hn⟩ := at_step hr hm
    obtain ⟨m', hscan, hm'⟩ := ih hn hs
    refine ⟨m', ?_, ?_⟩
    · rw [scan, hstep, hscan]
      rfl
    · rwa [List.append_assoc, List.singleton_append] at hm'

/-- A line whose quotes are closed. -/
theorem scan_closed (h : Quotes.plain.walk s = some .plain) :
    scan (.command []) s = (.command s, []) := by
  have hstart : Quotes.At [] .plain (.command []) := rfl
  obtain ⟨m', hscan, hm'⟩ := at_scan hstart h
  rw [hscan]
  exact congrArg (·, []) hm'

/-! ## 3. Here-documents -/

/-- The characters of a line of a document. -/
theorem scan_document_chars {content line l : List Char} (hl : '\n' ∉ l) :
    scan (.document t w content line) l = (.document t w content (line ++ l), []) := by
  induction l generalizing line with
  | nil => rw [List.append_nil, scan]
  | cons c l ih =>
    rw [List.mem_cons, not_or] at hl
    have hstep : ScriptMode.step (.document t w content line) c =
        (.document t w content (line ++ [c]), []) := by
      rw [ScriptMode.step, if_neg (Ne.symm hl.1)]
    rw [scan, hstep, ih hl.2, List.append_assoc]
    rfl

/-- A line that is not the delimiter. -/
theorem scan_document_line {content l : List Char} (hl : '\n' ∉ l) (hne : l ≠ w) :
    scan (.document t w content []) (l ++ ['\n']) =
      (.document t w (content ++ (l ++ ['\n'])) [], []) := by
  rw [scan_trans (scan_document_chars hl)]
  simp [scan, ScriptMode.step, hne]

/-- The line that is. -/
theorem scan_document_end {content : List Char} (hw : '\n' ∉ w) :
    scan (.document t w content []) (w ++ ['\n']) = (.command [], [⟨t, some content⟩]) := by
  rw [scan_trans (scan_document_chars hw)]
  simp [scan, ScriptMode.step]

/-- Lines none of which is the delimiter. -/
theorem scan_document_lines {content : List Char} {rows : List (List Char)}
    (hrows : ∀ l ∈ rows, '\n' ∉ l) (hne : w ∉ rows) :
    scan (.document t w content []) (lines rows) =
      (.document t w (content ++ lines rows) [], []) := by
  induction rows generalizing content with
  | nil =>
    rw [lines, List.flatMap_nil, List.append_nil, scan]
  | cons l rows ih =>
    rw [List.mem_cons, not_or] at hne
    have hline : scan (.document t w content []) (l ++ ['\n']) =
        (.document t w (content ++ (l ++ ['\n'])) [], []) :=
      scan_document_line (hrows l List.mem_cons_self) (Ne.symm hne.1)
    rw [lines, List.flatMap_cons, ← lines, scan_trans hline,
      ih (fun r hr => hrows r (List.mem_cons_of_mem _ hr)) hne.2, List.append_assoc]
    rfl

theorem lines_splitOn (text : List Char) : lines (splitOn '\n' text) = text ++ ['\n'] := by
  rw [lines_eq_joinWith (splitOn_ne_nil _ _), joinWith_splitOn]

/-- **A document is read whole** if none of its lines is the delimiter. -/
theorem scan_document {text : List Char} (hw : '\n' ∉ w) (hne : w ∉ splitOn '\n' text) :
    scan (.document t w [] []) (text ++ ['\n'] ++ (w ++ ['\n'])) =
      (.command [], [⟨t, some (text ++ ['\n'])⟩]) := by
  rw [← lines_splitOn,
    scan_trans (scan_document_lines (fun l hl => not_mem_of_mem_splitOn hl) hne),
    scan_document_end hw]
  rfl

/-- **A line that is the delimiter ends it**: what follows is read as commands. -/
theorem scan_document_early {text : List Char} (hw : '\n' ∉ w) (hmem : w ∈ splitOn '\n' text) :
    ∃ content, content ≠ text ++ ['\n'] ∧ ∃ mode later,
      scan (.document t w [] []) (text ++ ['\n']) = (mode, ⟨t, some content⟩ :: later) := by
  obtain ⟨before, after, hsplit, hbefore⟩ := List.eq_append_cons_of_mem hmem
  have hrows : ∀ l ∈ before, '\n' ∉ l := fun l hl => by
    apply not_mem_of_mem_splitOn (s := text)
    rw [hsplit]
    exact List.mem_append_left _ hl
  have hparts : text ++ ['\n'] = lines before ++ ((w ++ ['\n']) ++ lines after) := by
    rw [← lines_splitOn, hsplit]
    simp [lines]
  refine ⟨lines before, fun h => ?_, (scan (.command []) (lines after)).1,
    (scan (.command []) (lines after)).2, ?_⟩
  · have hlength := congrArg List.length (h.trans hparts)
    simp at hlength
  · rw [hparts, scan_trans (scan_document_lines hrows hbefore), scan_trans (scan_document_end hw)]
    rfl

/-! ## 4. What the lines do -/

/-- What a shell variable is made of. -/
def isNameChar (c : Char) : Bool := c.isAlphanum || c == '_'

/-- A name of a variable. -/
def isName (name : List Char) : Bool :=
  !name.isEmpty && name.all isNameChar && name.head?.all fun c => !c.isDigit

/-- The variable and the value of a line `name='…'`. -/
def assignment (t : List Char) : Option (List Char × List Char) :=
  let name := t.takeWhile isNameChar
  if isName name then
    match t.drop name.length with
    | '=' :: '\'' :: s =>
        match lex .blank ('\'' :: s) with
        | some [.word _ v] => some (name, v)
        | _ => none
    | _ => none
  else none

/-- The file in double quotes of a line `cat > "…" `, before its here-document. -/
def catTarget (t : List Char) : Option (List Char) :=
  if "cat > \"".toList.isPrefixOf t then
    let target := (t.drop 7).takeWhile (· != '"')
    if t.drop (7 + target.length) = ['"', ' '] then some target else none
  else none

/-- The variables, the newest first. -/
abbrev Variables := List (List Char × List Char)

/-- The value of a variable; nothing where it was never set. -/
def Variables.get (env : Variables) (name : List Char) : List Char :=
  match env with
  | [] => []
  | (n, v) :: env => if n = name then v else Variables.get env name

theorem Variables.get_same (name v : List Char) (env : Variables) :
    Variables.get ((name, v) :: env) name = v := if_pos rfl

theorem Variables.get_of_ne {n name : List Char} (h : n ≠ name) (v : List Char) (env : Variables) :
    Variables.get ((n, v) :: env) name = Variables.get env name := if_neg h

/-- A text in double quotes, its variables replaced. The first argument is the name that is being
    read. -/
def expand (env : Variables) : Option (List Char) → List Char → List Char
  | none, [] => []
  | some name, [] => env.get name
  | none, c :: s => if c = '$' then expand env (some []) s else c :: expand env none s
  | some name, c :: s =>
      if isNameChar c then expand env (some (name ++ [c])) s
      else env.get name ++ if c = '$' then expand env (some []) s else c :: expand env none s

/-- What a line does: a variable is set, a file gets a content, or a command runs, with its input
    where it has a document. -/
inductive Event where
  | assign (name value : List Char)
  | write (path content : List Char)
  | run (text : List Char) (input : Option (List Char))
  deriving DecidableEq, Repr

/-- One line. A command that is not one of the two plain forms leaves the variables. -/
def ScriptLine.perform (env : Variables) (l : ScriptLine) : Variables × Event :=
  match l.document with
  | none =>
      match assignment l.text with
      | some (name, value) => ((name, value) :: env, .assign name value)
      | none => (env, .run l.text none)
  | some content =>
      match catTarget l.text with
      | some target => (env, .write (expand env none target) content)
      | none => (env, .run l.text (some content))

/-- **The events of a script whose commands all succeed.** One that is stopped at a command that
    fails did the first of them. -/
def events (env : Variables) : List ScriptLine → List Event
  | [] => []
  | l :: ls => (l.perform env).2 :: events (l.perform env).1 ls

/-- The variables after some lines. -/
def envAfter (env : Variables) (ls : List ScriptLine) : Variables :=
  ls.foldl (fun env l => (l.perform env).1) env

/-- The events of a script. -/
def runScript (script : List Char) : List Event := events [] (readScript (.command []) script)

theorem envAfter_append (env : Variables) (ls ls' : List ScriptLine) :
    envAfter env (ls ++ ls') = envAfter (envAfter env ls) ls' := List.foldl_append

theorem events_append (env : Variables) (ls ls' : List ScriptLine) :
    events env (ls ++ ls') = events env ls ++ events (envAfter env ls) ls' := by
  induction ls generalizing env with
  | nil => rfl
  | cons l ls ih =>
    rw [List.cons_append, events, ih]
    rfl

/-- The contents written to a file. -/
def writesTo (path : List Char) (es : List Event) : List (List Char) :=
  es.filterMap fun
    | .write p content => if p = path then some content else none
    | _ => none

/-- The texts of the commands that ran. -/
def commandsRun (es : List Event) : List (List Char) :=
  es.filterMap fun
    | .run text _ => some text
    | _ => none

/-! ## 5. The rules of the events -/

/-- A text, read from the start of a line to the start of a line, does these events. -/
def Does (env : Variables) (s : List Char) (env' : Variables) (es : List Event) : Prop :=
  ∃ ls, scan (.command []) s = (.command [], ls) ∧ events env ls = es ∧ envAfter env ls = env'

variable {env env' env'' : Variables} {es es' : List Event}

theorem Does.append (h : Does env s env' es) (h' : Does env' s' env'' es') :
    Does env (s ++ s') env'' (es ++ es') := by
  obtain ⟨ls, hscan, hevents, henv⟩ := h
  obtain ⟨ls', hscan', hevents', henv'⟩ := h'
  refine ⟨ls ++ ls', ?_, ?_, ?_⟩
  · rw [scan_trans hscan, hscan']
  · rw [events_append, hevents, henv, hevents']
  · rw [envAfter_append, henv, henv']

/-- **A script after a text**: first the events of the text. -/
theorem Does.readScript (h : Does env s env' es) (s' : List Char) :
    events env (readScript (.command []) (s ++ s')) =
      es ++ events env' (Shell.readScript (.command []) s') := by
  obtain ⟨ls, hscan, hevents, henv⟩ := h
  rw [readScript_trans hscan, events_append, hevents, henv]

/-- A line that is one command, and no assignment of a quoted word. -/
def IsCall (l : List Char) : Prop :=
  scan (.command []) (l ++ ['\n']) = (.command [], [⟨l, none⟩]) ∧ assignment l = none

/-- Its quotes are closed at its end. -/
def isClosedCall (l : List Char) : Bool :=
  Quotes.plain.walk l == some .plain && !l.isEmpty && (assignment l).isNone

theorem isCall_of_closed {l : List Char} (h : isClosedCall l = true) : IsCall l := by
  simp only [isClosedCall, Bool.and_eq_true, beq_iff_eq, Bool.not_eq_true', List.isEmpty_eq_false_iff,
    Option.isNone_iff_eq_none] at h
  obtain ⟨⟨hwalk, hne⟩, hcall⟩ := h
  refine ⟨?_, hcall⟩
  rw [scan_trans (scan_closed hwalk)]
  simp [scan, ScriptMode.step, commandStep, hne]

/-- A literal is read by its characters. -/
theorem isCall_ofList {cs : List Char} (h : isClosedCall cs = true) :
    IsCall (String.ofList cs).toList := by
  rw [String.toList_ofList]
  exact isCall_of_closed h

theorem Does.call {l : List Char} (h : IsCall l) : Does env (l ++ ['\n']) env [.run l none] := by
  refine ⟨[⟨l, none⟩], h.1, ?_, ?_⟩
  · simp only [events, ScriptLine.perform, h.2]
  · simp only [envAfter, List.foldl_cons, List.foldl_nil, ScriptLine.perform, h.2]

theorem Does.calls {rows : List (List Char)} (h : ∀ l ∈ rows, IsCall l) :
    Does env (lines rows) env (rows.map (.run · none)) := by
  induction rows with
  | nil => exact ⟨[], rfl, rfl, rfl⟩
  | cons l rows ih =>
    rw [lines, List.flatMap_cons, ← lines]
    exact (Does.call (h l List.mem_cons_self)).append
      (ih fun r hr => h r (List.mem_cons_of_mem _ hr))

/-- The characters of a name stand for themselves. -/
theorem scan_name {name : List Char} (hname : ∀ c ∈ name, isNameChar c = true) :
    scan (.command t) name = (.command (t ++ name), []) := by
  induction name generalizing t with
  | nil => rw [List.append_nil, scan]
  | cons c name ih =>
    have hc := hname c List.mem_cons_self
    have hne : ∀ d : Char, isNameChar d = false → c ≠ d := by
      intro d hd h
      rw [h, hd] at hc
      cases hc
    have hstep : ScriptMode.step (.command t) c = (.command (t ++ [c]), []) := by
      simp only [ScriptMode.step, commandStep, hne '\n' rfl, hne '\'' rfl, hne '"' rfl,
        hne '<' rfl, hne '$' rfl, hne '\\' rfl, hne '`' rfl, hne '#' rfl, or_self, if_false]
    rw [scan, hstep, ih fun d hd => hname d (List.mem_cons_of_mem _ hd), List.append_assoc]
    rfl

theorem isName_chars {name : List Char} (h : isName name = true) :
    ∀ c ∈ name, isNameChar c = true := by
  simp only [isName, Bool.and_eq_true] at h
  exact List.all_eq_true.mp h.1.2

theorem assignment_quoted {name : List Char} (hname : isName name = true) (v : List Char) :
    assignment (name ++ '=' :: quote v) = some (name, v) := by
  have htake : (name ++ '=' :: quote v).takeWhile isNameChar = name := by
    rw [List.takeWhile_append_of_pos (isName_chars hname), List.takeWhile_cons_of_neg (by decide),
      List.append_nil]
  have hlex : lex .blank (quote v) = some [.word true v] := by
    have := lex_quoted (m := .blank) (s := []) rfl v
    rw [List.append_nil, lex_word_nil] at this
    exact this
  obtain ⟨u, hu⟩ : ∃ u, quote v = '\'' :: u := ⟨_, rfl⟩
  rw [hu] at hlex htake ⊢
  simp only [assignment, htake, hname, if_true, List.drop_left, hlex]

/-- **An assignment of a quoted value** sets the variable to the value, and does nothing else. -/
theorem Does.assign {name : List Char} (hname : isName name = true) (v : List Char) :
    Does env (name ++ '=' :: quote v ++ ['\n']) ((name, v) :: env) [.assign name v] := by
  refine ⟨[⟨name ++ '=' :: quote v, none⟩], ?_, ?_, ?_⟩
  · have hparts : name ++ '=' :: quote v ++ ['\n'] = name ++ (['='] ++ (quote v ++ ['\n'])) := by
      simp
    have hequals : ∀ u, scan (.command u) ['='] = (.command (u ++ ['=']), []) := by
      intro u
      simp [scan, ScriptMode.step, commandStep]
    have hend : ∀ u, u ≠ [] →
        scan (.command u) ['\n'] = (.command [], [⟨u, none⟩]) := by
      intro u hu
      simp [scan, ScriptMode.step, commandStep, hu]
    rw [hparts, scan_trans (scan_name (isName_chars hname)), scan_trans (hequals _),
      scan_trans (scan_quoted v), hend _ (by simp)]
    simp
  · simp only [events, ScriptLine.perform, assignment_quoted hname]
  · simp only [envAfter, List.foldl_cons, List.foldl_nil, ScriptLine.perform,
      assignment_quoted hname]

/-- Several of them. -/
theorem Does.assigns {pairs : List (List Char × List Char)} (h : ∀ p ∈ pairs, isName p.1 = true) :
    Does env (lines (pairs.map fun p => p.1 ++ '=' :: quote p.2)) (pairs.reverse ++ env)
      (pairs.map fun p => .assign p.1 p.2) := by
  induction pairs generalizing env with
  | nil => exact ⟨[], rfl, rfl, rfl⟩
  | cons p pairs ih =>
    have hfirst : Does env (p.1 ++ '=' :: quote p.2 ++ ['\n']) (p :: env) [.assign p.1 p.2] :=
      Does.assign (h p List.mem_cons_self) p.2
    have hlater : Does (p :: env) _ _ _ := ih fun q hq => h q (List.mem_cons_of_mem _ hq)
    rw [List.reverse_cons, List.append_assoc]
    exact hfirst.append hlater

/-- A variable in double quotes, and what follows its name. -/
theorem expand_variable (env : Variables) {name rest : List Char}
    (hname : name.all isNameChar = true) (hrest : '$' ∉ rest)
    (hhead : rest.head?.all (fun c => !isNameChar c) = true) :
    expand env none ('$' :: name ++ rest) = env.get name ++ rest := by
  have hplain : ∀ s : List Char, '$' ∉ s → expand env none s = s := by
    intro s hs
    induction s with
    | nil => rfl
    | cons c s ih =>
      rw [List.mem_cons, not_or] at hs
      rw [expand, if_neg (Ne.symm hs.1), ih hs.2]
  have hread : ∀ done : List Char,
      expand env (some done) (name ++ rest) = env.get (done ++ name) ++ rest := by
    induction name with
    | nil =>
      intro done
      rw [List.nil_append, List.append_nil]
      cases rest with
      | nil => rw [expand, List.append_nil]
      | cons c rest =>
        have hc := hplain _ hrest
        rw [List.mem_cons, not_or] at hrest
        rw [expand, (Bool.not_eq_true' _).mp hhead, if_neg Bool.false_ne_true,
          if_neg (Ne.symm hrest.1), hplain _ hrest.2]
    | cons c name ih =>
      intro done
      rw [List.all_cons, Bool.and_eq_true] at hname
      rw [List.cons_append, expand, if_pos hname.1, ih hname.2, List.append_assoc]
      rfl
  rw [List.cons_append, expand, if_pos rfl, hread, List.nil_append]

/-- The file of a `cat` is the text in the double quotes. -/
theorem catTarget_quoted {target : List Char} (h : '"' ∉ target) :
    catTarget ("cat > \"".toList ++ target ++ ['"', ' ']) = some target := by
  have hlit : "cat > \"".toList = ['c', 'a', 't', ' ', '>', ' ', '"'] := by decide
  have htake : (target ++ ['"', ' ']).takeWhile (· != '"') = target := by
    have hall : ∀ c ∈ target, (c != '"') = true := by
      intro c hc
      simp only [bne_iff_ne, ne_eq]
      exact fun e => h (e ▸ hc)
    rw [List.takeWhile_append_of_pos hall, List.takeWhile_cons_of_neg (by decide),
      List.append_nil]
  have hdrop : ('c' :: 'a' :: 't' :: ' ' :: '>' :: ' ' :: '"' :: (target ++ ['"', ' '])).drop
      (7 + target.length) = ['"', ' '] := by
    rw [← List.drop_drop]
    exact List.drop_left
  rw [hlit]
  simp only [catTarget, hlit, List.cons_append, List.nil_append, List.isPrefixOf_cons_cons, beq_self_eq_true,
    List.isPrefixOf_nil_left, Bool.and_self, if_true, List.drop_succ_cons, List.drop_zero, htake,
    hdrop]

/-- The line that opens a here-document: the command and the delimiter. -/
def Opens (l t w : List Char) : Prop :=
  scan (.command []) (l ++ ['\n']) = (.document t w [] [], [])

theorem opens_of_closed (h : Quotes.plain.walk t = some .plain) (hw : '\'' ∉ w) :
    Opens (t ++ ['<', '<', '\''] ++ (w ++ ['\''])) t w := by
  have hopen : scan (.command t) ['<', '<', '\''] = (.delimiter t [], []) := by
    simp [scan, ScriptMode.step, commandStep]
  have hword : ∀ done, scan (.delimiter t done) w = (.delimiter t (done ++ w), []) := by
    induction w with
    | nil =>
      intro done
      rw [List.append_nil, scan]
    | cons c w ih =>
      intro done
      rw [List.mem_cons, not_or] at hw
      have hstep : ScriptMode.step (.delimiter t done) c = (.delimiter t (done ++ [c]), []) := by
        rw [ScriptMode.step, if_neg (Ne.symm hw.1)]
      rw [scan, hstep, ih hw.2, List.append_assoc]
      rfl
  have hclose : scan (.delimiter t w) ['\'', '\n'] = (.document t w [] [], []) := by
    simp [scan, ScriptMode.step]
  have hparts : t ++ ['<', '<', '\''] ++ (w ++ ['\'']) ++ ['\n'] =
      t ++ (['<', '<', '\''] ++ (w ++ ['\'', '\n'])) := by simp
  rw [Opens, hparts, scan_trans (scan_closed h), scan_trans hopen, scan_trans (hword []),
    List.nil_append, hclose]
  rfl

/-- What a command with a document does. -/
def documentEvent (env : Variables) (t content : List Char) : Event :=
  match catTarget t with
  | some target => .write (expand env none target) content
  | none => .run t (some content)

theorem perform_document (env : Variables) (t content : List Char) :
    ScriptLine.perform env ⟨t, some content⟩ = (env, documentEvent env t content) := by
  unfold ScriptLine.perform documentEvent
  cases catTarget t <;> rfl

/-- **A here-document** none of whose lines is its delimiter. -/
theorem Does.document {l text : List Char} (hl : Opens l t w) (hw : '\n' ∉ w)
    (hne : w ∉ splitOn '\n' text) :
    Does env (l ++ ['\n'] ++ (text ++ ['\n'] ++ (w ++ ['\n']))) env
      [documentEvent env t (text ++ ['\n'])] := by
  refine ⟨[⟨t, some (text ++ ['\n'])⟩], ?_, ?_, ?_⟩
  · rw [scan_trans hl, scan_document hw hne, List.nil_append]
  · rw [events, perform_document, events]
  · rw [envAfter, List.foldl_cons, perform_document, List.foldl_nil]

/-- **A here-document with its delimiter among its lines**: the command gets another content, and
    the rest of the text is read as commands. -/
theorem events_document_early {l text : List Char} (hl : Opens l t w) (hw : '\n' ∉ w)
    (hmem : w ∈ splitOn '\n' text) (env : Variables) (s : List Char) :
    ∃ content, content ≠ text ++ ['\n'] ∧ ∃ later,
      events env (readScript (.command []) (l ++ ['\n'] ++ (text ++ ['\n'] ++ s))) =
        documentEvent env t content :: later := by
  obtain ⟨content, hne, mode, later, hscan⟩ := scan_document_early (t := t) hw hmem
  refine ⟨content, hne, events env (later ++ readScript mode s), ?_⟩
  rw [readScript_trans hl, readScript_trans hscan, List.nil_append, List.cons_append, events,
    perform_document]

/-- **The last document**, which ends with the script. -/
theorem events_document_last {l text : List Char} (hl : Opens l t w) (hw : '\n' ∉ w)
    (hne : w ∉ splitOn '\n' text) (env : Variables) :
    events env (readScript (.command []) (l ++ ['\n'] ++ (text ++ ['\n'] ++ w))) =
      [documentEvent env t (text ++ ['\n'])] := by
  have hbody : scan (.document t w [] []) (text ++ ['\n'] ++ w) =
      (.document t w (text ++ ['\n']) w, []) := by
    rw [← lines_splitOn,
      scan_trans (scan_document_lines (fun l hl => not_mem_of_mem_splitOn hl) hne),
      scan_document_chars hw]
    rfl
  have hread : readScript (.document t w [] []) (text ++ ['\n'] ++ w) =
      [⟨t, some (text ++ ['\n'])⟩] := by
    rw [readScript, hbody]
    simp only [ScriptMode.finish, if_true, List.nil_append]
  rw [readScript_trans hl, hread, List.nil_append, events, perform_document, events]

end Shell
