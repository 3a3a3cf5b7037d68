/-
  File:      ProxmoxMcp/Lib/Sudoers.lean
  Subject:   A SUDOERS FILE OF ONE LINE: the user and the commands that a line `user ALL=(ALL)
             NOPASSWD: command, command` grants, with the characters that are structure. Nothing
             here names the repository.

  A comma separates commands, `:` and `=` separate parts of a line, `#` begins a comment, and a
  backslash makes the next character part of its word. Tags and digests in front of a command are
  not read.

  * `readGrant`     -- what a file of one such line grants; lines of other forms are not read;
  * `readGrant_iff` -- a user and commands that were joined to a line are granted exactly if each
    of them is one word of its kind.
-/
import ProxmoxMcp.Lib.Lines

namespace Sudoers

open Text

/-! ## 1. Words -/

/-- Characters that are no structure in a user name. -/
def isOrdinary (c : Char) : Bool :=
  !(c ∈ ['!', '=', ':', ',', '(', ')', '\\', '"', '#', ' ', '\t', '\n'])

/-- Words that begin a line of another kind, and the one that means everybody. -/
def reserved : List (List Char) :=
  ["ALL".toList, "Defaults".toList, "User_Alias".toList, "Runas_Alias".toList,
    "Host_Alias".toList, "Cmnd_Alias".toList, "@include".toList, "@includedir".toList]

/-- One user by its name: no group, no netgroup, no reserved word. -/
def isUserName (u : List Char) : Bool :=
  u.all isOrdinary && !u.isEmpty && !(u ∈ reserved) &&
    u.head?.all (fun c => !(c ∈ ['%', '+'])) &&
    !("Defaults@".toList.isPrefixOf u || "Defaults>".toList.isPrefixOf u)

/-- Blanks around a command mean nothing. -/
def isBlank (c : Char) : Bool := c == ' ' || c == '\t'

def trimBlanks (s : List Char) : List Char :=
  ((s.dropWhile isBlank).reverse.dropWhile isBlank).reverse

/-- No structure outside escapes, and no escape left open. The first argument: is the next
    character escaped? -/
def isPlain (escaped : Bool) : List Char → Bool
  | [] => !escaped
  | c :: s =>
      if escaped then isPlain false s
      else !(c ∈ [',', ':', '=', '#']) && isPlain (c == '\\') s

/-- One command that is granted: a path, a name in capitals, or `sudoedit`, with its arguments. -/
def isCommand (c : List Char) : Bool :=
  let word := c.dropWhile isBlank
  isPlain false c && !('\n' ∈ c) &&
    (word.head?.any (fun d => d == '/' || d.isUpper) || "sudoedit".toList.isPrefixOf word)

/-- The commands of a list, at the commas that are not escaped. -/
def splitCommands (escaped : Bool) : List Char → List (List Char)
  | [] => [[]]
  | c :: s =>
      if escaped then consFirst c (splitCommands false s)
      else if c = ',' then [] :: splitCommands false s
      else consFirst c (splitCommands (c == '\\') s)

/-! ## 2. The reader -/

/-- What a line grants. -/
structure Grant where
  user : List Char
  commands : List (List Char)
  deriving DecidableEq, Repr

/-- Between the user and the commands. -/
def middle : List Char := " ALL=(ALL) NOPASSWD:".toList

/-- **What a file of one line grants.** -/
def readGrant (file : List Char) : Option Grant :=
  match splitOn '\n' file with
  | [line, []] =>
      let user := line.takeWhile isOrdinary
      let rest := line.drop user.length
      if isUserName user ∧ middle.isPrefixOf rest then
        let commands := splitCommands false (rest.drop middle.length)
        if commands.all isCommand then some ⟨user, commands.map trimBlanks⟩ else none
      else none
  | _ => none

/-! ## 3. Splitting -/

variable {s p c : List Char} {ps cs : List (List Char)} {e : Bool}

theorem splitCommands_ne_nil (e : Bool) (s : List Char) : splitCommands e s ≠ [] := by
  cases s with
  | nil => exact List.cons_ne_nil _ _
  | cons c s =>
    have hcons : ∀ ws, consFirst c ws ≠ [] := by
      intro ws
      cases ws <;> exact List.cons_ne_nil _ _
    rw [splitCommands]
    split
    · exact hcons _
    · split
      · exact List.cons_ne_nil _ _
      · exact hcons _

theorem consFirst_cons (d : Char) : consFirst d (p :: ps) = (d :: p) :: ps := rfl

/-- A plain command in front of a comma is the first part. -/
theorem splitCommands_plain (h : isPlain e c = true) (s : List Char) :
    splitCommands e (c ++ ',' :: s) = c :: splitCommands false s := by
  induction c generalizing e with
  | nil =>
    cases e with
    | true => cases h
    | false => rfl
  | cons d c ih =>
    rw [List.cons_append, splitCommands]
    cases e with
    | true => rw [if_pos rfl, ih h, consFirst_cons]
    | false =>
      rw [isPlain, if_neg Bool.false_ne_true, Bool.and_eq_true] at h
      have hd : d ≠ ',' := by
        intro hd
        rw [hd] at h
        exact absurd h.1 (by decide)
      rw [if_neg Bool.false_ne_true, if_neg hd, ih h.2, consFirst_cons]

/-- Alone it is the only one. -/
theorem splitCommands_plain_end (h : isPlain e c = true) : splitCommands e c = [c] := by
  induction c generalizing e with
  | nil => rfl
  | cons d c ih =>
    rw [splitCommands]
    cases e with
    | true => rw [if_pos rfl, ih h, consFirst_cons]
    | false =>
      rw [isPlain, if_neg Bool.false_ne_true, Bool.and_eq_true] at h
      have hd : d ≠ ',' := by
        intro hd
        rw [hd] at h
        exact absurd h.1 (by decide)
      rw [if_neg Bool.false_ne_true, if_neg hd, ih h.2, consFirst_cons]

/-- **The first part is the first command**, if it has as many commas. -/
theorem splitCommands_first (h : splitCommands e (c ++ ',' :: s) = p :: ps)
    (hcount : p.count ',' = c.count ',') : p = c ∧ ps = splitCommands false s := by
  induction c generalizing e p with
  | nil =>
    rw [List.nil_append, splitCommands] at h
    cases e with
    | true =>
      obtain ⟨q, qs, hq⟩ := List.exists_cons_of_ne_nil (splitCommands_ne_nil false s)
      rw [if_pos rfl, hq, consFirst_cons] at h
      cases h
      simp at hcount
    | false =>
      rw [if_neg Bool.false_ne_true, if_pos rfl] at h
      cases h
      exact ⟨rfl, rfl⟩
  | cons d c ih =>
    -- a character that stays in the first part
    have hkeep : ∀ e', consFirst d (splitCommands e' (c ++ ',' :: s)) = p :: ps →
        p = d :: c ∧ ps = splitCommands false s := by
      intro e' h'
      obtain ⟨q, qs, hq⟩ := List.exists_cons_of_ne_nil (splitCommands_ne_nil e' (c ++ ',' :: s))
      rw [hq, consFirst_cons] at h'
      cases h'
      have hcounts : q.count ',' = c.count ',' := by
        rw [List.count_cons, List.count_cons] at hcount
        exact Nat.add_right_cancel hcount
      obtain ⟨hqc, hps⟩ := ih hq hcounts
      exact ⟨by rw [hqc], hps⟩
    rw [List.cons_append, splitCommands] at h
    cases e with
    | true => exact hkeep _ h
    | false =>
      rw [if_neg Bool.false_ne_true] at h
      by_cases hd : d = ','
      · rw [if_pos hd] at h
        cases h
        rw [hd, List.count_nil, List.count_cons_self] at hcount
        exact absurd hcount.symm (Nat.succ_ne_zero _)
      · rw [if_neg hd] at h
        exact hkeep _ h

/-- A text with one part is this part. -/
theorem splitCommands_single (h : splitCommands e c = [p]) : p = c := by
  induction c generalizing e p with
  | nil =>
    cases h
    rfl
  | cons d c ih =>
    have hkeep : ∀ e', consFirst d (splitCommands e' c) = [p] → p = d :: c := by
      intro e' h'
      obtain ⟨q, qs, hq⟩ := List.exists_cons_of_ne_nil (splitCommands_ne_nil e' c)
      rw [hq, consFirst_cons] at h'
      cases h'
      rw [ih hq]
    rw [splitCommands] at h
    cases e with
    | true => exact hkeep _ h
    | false =>
      rw [if_neg Bool.false_ne_true] at h
      by_cases hd : d = ','
      · rw [if_pos hd] at h
        exact absurd (List.cons.inj h).2 (splitCommands_ne_nil _ _)
      · rw [if_neg hd] at h
        exact hkeep _ h

/-- Trimming takes nothing but blanks. -/
theorem count_dropBlanks {d : Char} (hd : isBlank d = false) (s : List Char) :
    (s.dropWhile isBlank).count d = s.count d := by
  induction s with
  | nil => rfl
  | cons c s ih =>
    by_cases hc : isBlank c = true
    · have hne : c ≠ d := by
        intro h
        rw [h, hd] at hc
        cases hc
      rw [List.dropWhile_cons_of_pos hc, ih, List.count_cons_of_ne hne]
    · rw [List.dropWhile_cons_of_neg hc]

theorem count_trimBlanks {d : Char} (hd : isBlank d = false) (s : List Char) :
    (trimBlanks s).count d = s.count d := by
  rw [trimBlanks, List.count_reverse, count_dropBlanks hd, List.count_reverse, count_dropBlanks hd]

theorem mem_trimBlanks {d : Char} (hd : isBlank d = false) {s : List Char} :
    d ∈ trimBlanks s ↔ d ∈ s := by
  rw [← List.count_pos_iff, count_trimBlanks hd, List.count_pos_iff]

/-- **Plain commands, joined by commas, are split again.** -/
theorem splitCommands_join : ∀ {cs : List (List Char)}, cs ≠ [] →
    (∀ c ∈ cs, isPlain false c = true) → splitCommands false (joinWith [','] cs) = cs
  | [], hne, _ => absurd rfl hne
  | [c], _, h => splitCommands_plain_end (h c List.mem_cons_self)
  | c :: d :: cs, _, h => by
      have ih := splitCommands_join (List.cons_ne_nil d cs) fun x hx =>
        h x (List.mem_cons_of_mem _ hx)
      show splitCommands false (c ++ [','] ++ joinWith [','] (d :: cs)) = _
      rw [List.append_assoc, List.singleton_append,
        splitCommands_plain (h c List.mem_cons_self), ih]

/-- **Commands that are split as they were joined**: the blanks around them do not hide another
    split. -/
theorem splitCommands_of_trimmed : ∀ {cs : List (List Char)}, cs ≠ [] →
    (splitCommands false (joinWith [','] cs)).map trimBlanks = cs.map trimBlanks →
    splitCommands false (joinWith [','] cs) = cs
  | [], hne, _ => absurd rfl hne
  | [c], _, h => by
      obtain ⟨p, ps, hp⟩ := List.exists_cons_of_ne_nil (splitCommands_ne_nil false c)
      change (splitCommands false c).map trimBlanks = _ at h
      change splitCommands false c = _
      rw [hp] at h ⊢
      obtain rfl := List.map_eq_nil_iff.mp (List.cons.inj h).2
      rw [splitCommands_single hp]
  | c :: d :: cs, _, h => by
      change (splitCommands false (c ++ [','] ++ joinWith [','] (d :: cs))).map trimBlanks = _ at h
      show splitCommands false (c ++ [','] ++ joinWith [','] (d :: cs)) = _
      rw [List.append_assoc, List.singleton_append] at h ⊢
      obtain ⟨p, ps, hp⟩ := List.exists_cons_of_ne_nil
        (splitCommands_ne_nil false (c ++ ',' :: joinWith [','] (d :: cs)))
      rw [hp] at h ⊢
      obtain ⟨hfirst, hlater⟩ := List.cons.inj h
      have hcount : p.count ',' = c.count ',' := by
        rw [← count_trimBlanks rfl p, ← count_trimBlanks rfl c]
        exact congrArg (List.count ',') hfirst
      obtain ⟨rfl, rfl⟩ := splitCommands_first hp hcount
      rw [splitCommands_of_trimmed (List.cons_ne_nil d cs) hlater]

/-! ## 4. A line that was put together -/

/-- The line of a user and commands. -/
def grantLine (u : List Char) (cs : List (List Char)) : List Char :=
  u ++ " ALL=(ALL) NOPASSWD: ".toList ++ joinWith [',', ' '] cs

/-- The blank after a comma belongs to the command as well as to the comma. -/
theorem joinWith_blank : ∀ {cs : List (List Char)}, cs ≠ [] →
    ' ' :: joinWith [',', ' '] cs = joinWith [','] (cs.map fun c => ' ' :: c)
  | [], hne => absurd rfl hne
  | [c], _ => rfl
  | c :: d :: cs, _ => by
      have ih := joinWith_blank (List.cons_ne_nil d cs)
      show ' ' :: (c ++ [',', ' '] ++ joinWith [',', ' '] (d :: cs)) =
        ' ' :: c ++ [','] ++ joinWith [','] ((d :: cs).map fun c => ' ' :: c)
      rw [← ih]
      simp

theorem grantLine_eq (u : List Char) (hne : cs ≠ []) :
    grantLine u cs = u ++ (middle ++ joinWith [','] (cs.map fun c => ' ' :: c)) := by
  have hmiddle : " ALL=(ALL) NOPASSWD: ".toList = middle ++ [' '] := by decide
  rw [grantLine, ← joinWith_blank hne, hmiddle]
  simp

theorem isCommand_blank (c : List Char) : isCommand (' ' :: c) = isCommand c := by
  have hplain : isPlain false (' ' :: c) = isPlain false c := rfl
  have hline : decide ('\n' ∈ ' ' :: c) = decide ('\n' ∈ c) := by simp
  have hdrop : (' ' :: c).dropWhile isBlank = c.dropWhile isBlank := rfl
  rw [isCommand, hplain, hline, hdrop, ← isCommand]

theorem trimBlanks_blank (c : List Char) : trimBlanks (' ' :: c) = trimBlanks c := rfl

/-- The user field ends at the blank behind it. -/
theorem takeWhile_user {u : List Char} (hu : u.all isOrdinary = true) (s : List Char) :
    (u ++ (middle ++ s)).takeWhile isOrdinary = u := by
  have hmiddle : middle ++ s = ' ' :: ("ALL=(ALL) NOPASSWD:".toList ++ s) := by
    have h : middle = ' ' :: "ALL=(ALL) NOPASSWD:".toList := by decide
    rw [h, List.cons_append]
  rw [List.takeWhile_append_of_pos (List.all_eq_true.mp hu), hmiddle,
    List.takeWhile_cons_of_neg (by decide), List.append_nil]

/-- What is read of a line without newlines. -/
theorem readGrant_line {u : List Char} (hu : u.all isOrdinary = true) (hne : cs ≠ [])
    (hline : '\n' ∉ grantLine u cs) : readGrant (grantLine u cs ++ ['\n']) =
      if isUserName u then
        let commands := splitCommands false (joinWith [','] (cs.map fun c => ' ' :: c))
        if commands.all isCommand then some ⟨u, commands.map trimBlanks⟩ else none
      else none := by
  have hsplit : splitOn '\n' (grantLine u cs ++ ['\n']) = [grantLine u cs, []] :=
    splitOn_append [] hline
  have hprefix : middle.isPrefixOf (middle ++ joinWith [','] (cs.map fun c => ' ' :: c)) = true :=
    List.isPrefixOf_iff_prefix.mpr (List.prefix_append _ _)
  rw [readGrant, hsplit]
  simp only [grantLine_eq u hne, takeWhile_user hu, List.drop_left, hprefix, and_true]

theorem newline_not_ordinary : isOrdinary '\n' = false := by decide

/-- A line that was joined has a newline only where its parts have one. -/
theorem newline_not_mem_grantLine {u : List Char} (hu : '\n' ∉ u) (hcs : ∀ c ∈ cs, '\n' ∉ c) :
    '\n' ∉ grantLine u cs := by
  intro h
  rw [grantLine, List.mem_append, List.mem_append] at h
  obtain (h | h) | h := h
  · exact hu h
  · exact absurd h (by decide)
  · rcases mem_joinWith h with ⟨c, hc, hmem⟩ | hsep
    · exact hcs c hc hmem
    · exact absurd hsep (by decide)

theorem isCommand_newline {c : List Char} (h : isCommand c = true) : '\n' ∉ c := by
  rw [isCommand, Bool.and_eq_true, Bool.and_eq_true] at h
  simpa using h.1.2

theorem isUserName_ordinary {u : List Char} (h : isUserName u = true) :
    u.all isOrdinary = true := by
  simp only [isUserName, Bool.and_eq_true] at h
  exact h.1.1.1.1

/-- What is read has no newline. -/
theorem newline_not_mem_grant {file : List Char} {g : Grant} (h : readGrant file = some g) :
    '\n' ∉ g.user ∧ ∀ c ∈ g.commands, '\n' ∉ c := by
  rw [readGrant] at h
  split at h
  · dsimp only at h
    split at h
    · split at h
      · rename_i hall
        cases h
        refine ⟨fun hmem => ?_, fun c hc => ?_⟩
        · have hordinary := List.all_eq_true.mp List.all_takeWhile _ hmem
          rw [newline_not_ordinary] at hordinary
          cases hordinary
        · obtain ⟨d, hd, rfl⟩ := List.mem_map.mp hc
          rw [mem_trimBlanks rfl]
          exact isCommand_newline (List.all_eq_true.mp hall d hd)
      · cases h
    · cases h
  · cases h

/-- **What is granted**: the user and the commands of the line, exactly if each is one word of its
    kind. -/
theorem readGrant_iff {u : List Char} (hne : cs ≠ []) :
    readGrant (grantLine u cs ++ ['\n']) = some ⟨u, cs.map trimBlanks⟩ ↔
      isUserName u = true ∧ ∀ c ∈ cs, isCommand c = true := by
  have hne' : (cs.map fun c => ' ' :: c) ≠ [] := by simpa using hne
  have htrim : (cs.map fun c => ' ' :: c).map trimBlanks = cs.map trimBlanks := by
    rw [List.map_map]
    rfl
  constructor
  · intro h
    -- the file is one line, and its user field is the user
    have hline : '\n' ∉ grantLine u cs ∧ u.all isOrdinary = true := by
      rw [readGrant] at h
      split at h
      · rename_i line hsplit
        have hjoin := joinWith_splitOn '\n' (grantLine u cs ++ ['\n'])
        rw [hsplit] at hjoin
        have hsame : line = grantLine u cs := by
          refine List.append_cancel_right (?_ : line ++ ['\n'] = grantLine u cs ++ ['\n'])
          rw [← hjoin, joinWith, joinWith, List.append_nil]
          exact fun h => by cases h
        subst hsame
        refine ⟨not_mem_of_mem_splitOn (hsplit ▸ List.mem_cons_self), ?_⟩
        dsimp only at h
        split at h
        · split at h
          · have huser := congrArg Grant.user (Option.some.inj h)
            dsimp only at huser
            rw [← huser]
            exact List.all_takeWhile
          · cases h
        · cases h
      · cases h
    rw [readGrant_line hline.2 hne hline.1] at h
    split at h
    · rename_i hname
      dsimp only at h
      split at h
      · rename_i hall
        have hcommands := congrArg Grant.commands (Option.some.inj h)
        dsimp only at hcommands
        rw [← htrim] at hcommands
        rw [splitCommands_of_trimmed hne' hcommands, List.all_eq_true] at hall
        refine ⟨hname, fun c hc => ?_⟩
        rw [← isCommand_blank]
        exact hall _ (List.mem_map_of_mem hc)
      · cases h
    · cases h
  · intro h
    obtain ⟨hname, hcs⟩ := h
    have hu := isUserName_ordinary hname
    have hnewline : '\n' ∉ u := fun hmem =>
      absurd (List.all_eq_true.mp hu _ hmem) (by rw [newline_not_ordinary]; decide)
    have hblank : ∀ c ∈ cs.map (fun c => ' ' :: c), isCommand c = true := by
      intro c hc
      obtain ⟨d, hd, rfl⟩ := List.mem_map.mp hc
      rw [isCommand_blank]
      exact hcs d hd
    have hplain : ∀ c ∈ cs.map (fun c => ' ' :: c), isPlain false c = true := by
      intro c hc
      have hcommand := hblank c hc
      rw [isCommand, Bool.and_eq_true, Bool.and_eq_true] at hcommand
      exact hcommand.1.1
    have hline := newline_not_mem_grantLine hnewline fun c hc => isCommand_newline (hcs c hc)
    rw [readGrant_line hu hne hline, if_pos hname]
    dsimp only
    rw [splitCommands_join hne' hplain, if_pos (List.all_eq_true.mpr hblank), htrim]

end Sudoers
