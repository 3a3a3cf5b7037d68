/-
  File:      ProxmoxMcp/Quoting.lean
  Subject:   WHAT THE REMOTE SHELLS READ: every command line of `Ssh.lean`, tokenised level by
             level.

  `commandLines_delivered` puts them together: the words of `shellJoin` are its arguments, every
  nested form starts exactly one shell, which gets exactly the script meant for it, and the
  base64 pipelines carry exactly the bytes meant for their end.
-/
import ProxmoxMcp.Ssh

namespace ProxmoxMcp

open Shell

/-! ## 1. Quoting -/

@[simp] theorem toList_shellQuote (value : String) :
    (shellQuote value).toList = quote value.toList := by
  simp [shellQuote, quote]

theorem toList_quoted (front value : String) :
    (front ++ shellQuote value).toList = front.toList ++ quote value.toList := by
  rw [String.toList_append, toList_shellQuote]

theorem toList_quoted_pair (front value middle last : String) :
    (front ++ shellQuote value ++ middle ++ shellQuote last).toList =
      front.toList ++ quote value.toList ++ middle.toList ++ quote last.toList := by
  rw [toList_quoted, String.toList_append, toList_quoted]

@[simp] theorem toList_shellJoin (parts : List String) :
    (shellJoin parts).toList = Text.joinWith [' '] ((parts.map String.toList).map quote) := by
  rw [shellJoin, String.toList_ofList, List.map_map]
  exact congrArg (Text.joinWith [' ']) (List.map_congr_left fun p _ => toList_shellQuote p)

/-- **`shellJoin` is read as exactly its parts.** -/
theorem lex_shellJoin (parts : List String) :
    lex .blank (shellJoin parts).toList = some (parts.map fun p => .word true p.toList) := by
  rw [toList_shellJoin, lex_quoted_words, List.map_map]
  rfl

/-- A decimal digit is plain. -/
theorem isPlain_of_isDigit {c : Char} (hd : c.isDigit = true) : isPlain c = true := by
  simp only [Char.isDigit, Bool.and_eq_true, decide_eq_true_eq] at hd
  have hlow : 48 ≤ c.toNat := hd.1
  have hhigh : c.toNat ≤ 57 := hd.2
  have hc : Char.ofNat c.toNat = c := Char.ofNat_toNat c
  generalize c.toNat = n at hlow hhigh hc
  subst hc
  interval_cases n <;> rfl

/-- A numeral is a plain word. -/
theorem plain_toString (n : Nat) :
    (toString n).toList ≠ [] ∧ (toString n).toList.all isPlain = true := by
  have h : (toString n).toList = Nat.toDigits 10 n := by
    rw [Nat.toString_eq_ofList_toDigits, String.toList_ofList]
  refine ⟨?_, ?_⟩
  · rw [h]
    exact Nat.toDigits_ne_nil
  · rw [h, List.all_eq_true]
    intro c hc
    exact isPlain_of_isDigit (Nat.isDigit_of_mem_toDigits (by decide) (by decide) hc)

/-! ## 2. Pipelines of words -/

/-- The tokens of one command that are all words. -/
theorem readCommand_words (ws : List (Bool × List Char)) :
    readCommand (ws.map fun w => .word w.1 w.2) = some (ws.map Prod.snd, none) := by
  induction ws with
  | nil => rfl
  | cons w ws ih =>
    rw [List.map_cons, readCommand.eq_def]
    simp only [ih]
    rfl

/-- Without a `|`, a line is one command. -/
theorem splitPipe_words (ws : List (Bool × List Char)) :
    splitPipe (ws.map fun w => Token.word w.1 w.2) = [ws.map fun w => .word w.1 w.2] := by
  induction ws with
  | nil => rfl
  | cons w ws ih =>
    rw [List.map_cons, splitPipe, if_neg (by simp), ih]

/-- **A line of words is the command of these words**, if the first one names a command. -/
theorem readPipeline_words {line : List Char} {w : Bool × List Char} {ws : List (Bool × List Char)}
    (h : lex .blank line = some ((w :: ws).map fun w => .word w.1 w.2))
    (hw : namesCommand (.word w.1 w.2) = true) :
    readPipeline line = some [⟨(w :: ws).map Prod.snd, none⟩] := by
  rw [readPipeline, h, Option.bind_some, splitPipe_words]
  have hone : readOne ((w :: ws).map fun w => .word w.1 w.2) =
      some ⟨(w :: ws).map Prod.snd, none⟩ := by
    have hc := readCommand_words (w :: ws)
    rw [List.map_cons] at hc
    rw [List.map_cons, readOne, if_pos hw, hc]
    rfl
  rw [List.mapM_cons, hone]
  rfl

/-! ## 3. One shell and its script -/

/-- The words of `sudo -n` or none, and those of a shell with its script. -/
def shellWords (asRoot quoted : Bool) (interpreter script : List Char) : List (Bool × List Char) :=
  (if asRoot then [(false, "sudo".toList), (false, "-n".toList)] else []) ++
    [(quoted, interpreter), (quoted, "-lc".toList), (true, script)]

/-- The words of `buildLinuxShellCommand`, with or without `sudo`. -/
theorem lex_sudoPrefixed (interpreter : Interpreter) (useSudo : Bool) (command : String) :
    lex .blank (sudoPrefixed useSudo (buildLinuxShellCommand interpreter command)).toList =
      some ((shellWords useSudo true interpreter.linuxPath.toList command.toList).map
        fun w => .word w.1 w.2) := by
  have h := lex_shellJoin [interpreter.linuxPath, "-lc", command]
  cases useSudo
  · exact h
  · have hsplit : (sudoPrefixed true (buildLinuxShellCommand interpreter command)).toList =
        "sudo".toList ++ ' ' :: ("-n".toList ++ ' ' ::
          (buildLinuxShellCommand interpreter command).toList) := by
      simp [sudoPrefixed]
    rw [hsplit, lex_plain_word (by decide) (by decide), lex_plain_word (by decide) (by decide),
      buildLinuxShellCommand, h]
    rfl

/-- The words of `/bin/sh -lc SCRIPT`. -/
theorem lex_shellScript (script : String) :
    lex .blank (shellScript script).toList =
      some ((shellWords false false "/bin/sh".toList script.toList).map fun w => .word w.1 w.2) := by
  have hsplit : (shellScript script).toList =
      "/bin/sh".toList ++ ' ' :: ("-lc".toList ++ ' ' :: (quote script.toList ++ [])) := by
    simp [shellScript]
  rw [hsplit, lex_plain_word (by decide) (by decide), lex_plain_word (by decide) (by decide),
    lex_quoted rfl, lex_word_nil]
  rfl

/-- The words of `pct exec` in front of others. -/
theorem lex_pctExec (vmid : Nat) {command : String} {ts : List Token}
    (h : lex .blank command.toList = some ts) :
    lex .blank (pctExec vmid command).toList =
      some (.word false "pct".toList :: .word false "exec".toList ::
        .word false (toString vmid).toList :: .word false "--".toList :: ts) := by
  have hsplit : (pctExec vmid command).toList = "pct".toList ++ ' ' :: ("exec".toList ++ ' ' ::
      ((toString vmid).toList ++ ' ' :: ("--".toList ++ ' ' :: command.toList))) := by
    simp [pctExec]
  rw [hsplit, lex_plain_word (by decide) (by decide), lex_plain_word (by decide) (by decide),
    lex_plain_word (plain_toString vmid).1 (plain_toString vmid).2,
    lex_plain_word (by decide) (by decide), h]
  rfl

/-- **A line of shell words starts that shell with that script.** -/
theorem shellCall_words {line : String} {asRoot quoted : Bool} {i : Interpreter}
    {script : List Char}
    (h : lex .blank line.toList =
      some ((shellWords asRoot quoted i.linuxPath.toList script).map
        fun w => .word w.1 w.2)) :
    shellCall line = some ⟨asRoot, none, i.linuxPath.toList, script⟩ := by
  cases asRoot
  · rw [shellCall, readPipeline_words h (by cases quoted <;> cases i <;> decide)]
    cases i <;> rfl
  · rw [shellCall, readPipeline_words h (by decide)]
    cases i <;> rfl

/-- **The same in a container.** -/
theorem shellCall_pctExec {command : String} (vmid : Nat) {asRoot quoted : Bool}
    {i : Interpreter} {script : List Char}
    (h : lex .blank command.toList =
      some ((shellWords asRoot quoted i.linuxPath.toList script).map
        fun w => .word w.1 w.2)) :
    shellCall (pctExec vmid command) =
      some ⟨asRoot, some (toString vmid).toList, i.linuxPath.toList, script⟩ := by
  have hl := lex_pctExec vmid h
  rw [shellCall, @readPipeline_words _ (false, "pct".toList)
    ((false, "exec".toList) :: (false, (toString vmid).toList) :: (false, "--".toList) ::
      shellWords asRoot quoted i.linuxPath.toList script) hl (by decide)]
  cases asRoot <;> cases i <;> rfl

/-! ## 4. The base64 pipelines -/

@[simp] theorem toList_base64Text (bytes : List UInt8) :
    (base64Text bytes).toList = Base64.encode bytes := String.toList_ofList

/-- `printf %s TEXT |` in front of a pipeline. -/
theorem lex_printf (text : String) {rest : List Char} {ts : List Token}
    (h : lex .blank rest = some ts) :
    lex .blank ("printf %s ".toList ++ quote text.toList ++ " | ".toList ++ rest) =
      some (.word false "printf".toList :: .word false "%s".toList :: .word true text.toList ::
        .op ['|'] :: ts) := by
  have hsplit : "printf %s ".toList ++ quote text.toList ++ " | ".toList ++ rest =
      "printf".toList ++ ' ' :: ("%s".toList ++ ' ' :: (quote text.toList ++ ' ' :: '|' :: ' ' ::
        rest)) := by simp
  rw [hsplit, lex_plain_word (by decide) (by decide), lex_plain_word (by decide) (by decide),
    lex_quoted rfl, lex_word_space, lex_op (by decide) (by decide) (by decide), h]
  rfl

/-- **A script for `bash`**: `printf` writes the text, `base64 -d` decodes it, `bash` reads it. -/
theorem readPipeline_nodeScript (script : String) :
    readPipeline (nodeScript script).toList =
      some [⟨["printf".toList, "%s".toList, Base64.encode (utf8Bytes script)], none⟩,
        ⟨["base64".toList, "-d".toList], none⟩, ⟨["bash".toList], none⟩] := by
  have hrest : lex .blank "base64 -d | bash".toList =
      some [.word false "base64".toList, .word false "-d".toList, .op ['|'],
        .word false "bash".toList] := by
    have hsplit : "base64 -d | bash".toList = "base64".toList ++ ' ' ::
        ("-d".toList ++ ' ' :: '|' :: ' ' :: "bash".toList) := by decide
    rw [hsplit, lex_plain_word (by decide) (by decide), lex_plain_word (by decide) (by decide),
      lex_op (by decide) (by decide) (by decide)]
    rfl
  have hsplit : (nodeScript script).toList = "printf %s ".toList ++
      quote (base64Text (utf8Bytes script)).toList ++ " | ".toList ++ "base64 -d | bash".toList := by
    simp [nodeScript]
  rw [readPipeline, hsplit, lex_printf _ hrest, toList_base64Text]
  generalize Base64.encode (utf8Bytes script) = text
  rfl

/-- **A file to write**: the decoded text goes to the path. -/
theorem readPipeline_writeScript (content : List UInt8) (filePath : String) :
    readPipeline (writeScript content filePath).toList =
      some [⟨["printf".toList, "%s".toList, Base64.encode content], none⟩,
        ⟨["base64".toList, "-d".toList], some filePath.toList⟩] := by
  have hrest : lex .blank ("base64 -d > ".toList ++ quote filePath.toList) =
      some [.word false "base64".toList, .word false "-d".toList, .op ['>'],
        .word true filePath.toList] := by
    have hsplit : "base64 -d > ".toList ++ quote filePath.toList = "base64".toList ++ ' ' ::
        ("-d".toList ++ ' ' :: '>' :: ' ' :: (quote filePath.toList ++ [])) := by simp
    rw [hsplit, lex_plain_word (by decide) (by decide), lex_plain_word (by decide) (by decide),
      lex_op (by decide) (by decide) (by decide), lex_quoted rfl, lex_word_nil]
    rfl
  have hsplit : (writeScript content filePath).toList = "printf %s ".toList ++
      quote (base64Text content).toList ++ " | ".toList ++
      ("base64 -d > ".toList ++ quote filePath.toList) := by
    simp [writeScript]
  rw [readPipeline, hsplit, lex_printf _ hrest, toList_base64Text]
  generalize Base64.encode content = text
  generalize filePath.toList = path
  rfl

/-- **A file to read**: the path is the one operand. -/
theorem readPipeline_readScript (filePath : String) :
    readPipeline (readScript filePath).toList =
      some [⟨["base64".toList, "-w0".toList, "--".toList, filePath.toList], none⟩] := by
  have hlex : lex .blank (readScript filePath).toList =
      some ([(false, "base64".toList), (false, "-w0".toList), (false, "--".toList),
        (true, filePath.toList)].map fun w => .word w.1 w.2) := by
    have hsplit : (readScript filePath).toList = "base64".toList ++ ' ' :: ("-w0".toList ++ ' ' ::
        ("--".toList ++ ' ' :: (quote filePath.toList ++ []))) := by
      have hfront : "base64 -w0 -- ".toList =
          "base64".toList ++ ' ' :: ("-w0".toList ++ ' ' :: ("--".toList ++ [' '])) := by decide
      have hparts : (readScript filePath).toList = "base64 -w0 -- ".toList ++ quote filePath.toList :=
        toList_quoted ..
      rw [hparts, hfront]
      simp only [List.append_assoc, List.cons_append, List.nil_append, List.append_nil]
    rw [hsplit, lex_plain_word (by decide) (by decide), lex_plain_word (by decide) (by decide),
      lex_plain_word (by decide) (by decide), lex_quoted rfl, lex_word_nil]
    rfl
  exact readPipeline_words hlex (by decide)

/-- **The bootstrap script under `sudo`**: the password goes to `sudo`, the script to `bash`. -/
theorem readPipeline_sudoBootstrapScript (password script : String) :
    readPipeline (sudoBootstrapScript password script).toList =
      some [⟨["printf".toList, "%s\\n".toList, password.toList], none⟩,
        ⟨["sudo".toList, "-S".toList, "-p".toList, [], "/bin/bash".toList, "-lc".toList,
          (nodeScript script).toList], none⟩] := by
  have hsplit : (sudoBootstrapScript password script).toList =
      "printf".toList ++ ' ' :: (quote "%s\\n".toList ++ ' ' :: (quote password.toList ++ ' ' ::
        '|' :: ' ' :: ("sudo".toList ++ ' ' :: ("-S".toList ++ ' ' :: ("-p".toList ++ ' ' ::
          (quote [] ++ ' ' :: ("/bin/bash".toList ++ ' ' :: ("-lc".toList ++ ' ' ::
            (quote (nodeScript script).toList ++ []))))))))) := by
    have hformat : "printf '%s\\n' ".toList =
        "printf".toList ++ ' ' :: (quote "%s\\n".toList ++ [' ']) := by decide
    have hsudo : " | sudo -S -p '' /bin/bash -lc ".toList =
        ' ' :: '|' :: ' ' :: ("sudo".toList ++ ' ' :: ("-S".toList ++ ' ' :: ("-p".toList ++ ' ' ::
          (quote [] ++ ' ' :: ("/bin/bash".toList ++ ' ' :: ("-lc".toList ++ [' '])))))) := by decide
    have hparts : (sudoBootstrapScript password script).toList = "printf '%s\\n' ".toList ++
        quote password.toList ++ " | sudo -S -p '' /bin/bash -lc ".toList ++
          quote (nodeScript script).toList := toList_quoted_pair ..
    rw [hparts, hformat, hsudo]
    simp only [List.append_assoc, List.cons_append, List.nil_append, List.append_nil]
  rw [readPipeline, hsplit, lex_plain_word (by decide) (by decide), lex_quoted rfl, lex_word_space,
    lex_quoted rfl, lex_word_space, lex_op (by decide) (by decide) (by decide),
    lex_plain_word (by decide) (by decide), lex_plain_word (by decide) (by decide),
    lex_plain_word (by decide) (by decide), lex_quoted rfl, lex_word_space,
    lex_plain_word (by decide) (by decide), lex_plain_word (by decide) (by decide),
    lex_quoted rfl, lex_word_nil]
  generalize (nodeScript script).toList = body
  generalize password.toList = secret
  rfl

/-! ## 5. All lines -/

/-- **Every command line reaches its end as it was meant.** The words of `shellJoin` are its
    parts; a node shell, a container shell and a wrapped script each start one shell with one
    script; the base64 pipelines are three or two plain commands whose text decodes to the bytes
    meant for `bash` or for the file. -/
theorem commandLines_delivered :
    (∀ parts : List String,
      lex .blank (shellJoin parts).toList = some (parts.map fun p => .word true p.toList)) ∧
    (∀ interpreter useSudo command,
      shellCall (sudoPrefixed useSudo (buildLinuxShellCommand interpreter command)) =
        some ⟨useSudo, none, interpreter.linuxPath.toList, command.toList⟩) ∧
    (∀ vmid interpreter useSudo command,
      shellCall (pctExec vmid (sudoPrefixed useSudo (buildLinuxShellCommand interpreter command))) =
        some ⟨useSudo, some (toString vmid).toList, interpreter.linuxPath.toList,
          command.toList⟩) ∧
    (∀ script, shellCall (shellScript script) =
      some ⟨false, none, "/bin/sh".toList, script.toList⟩) ∧
    (∀ vmid script, shellCall (pctExec vmid (shellScript script)) =
      some ⟨false, some (toString vmid).toList, "/bin/sh".toList, script.toList⟩) ∧
    (∀ script, ∃ text, readPipeline (nodeScript script).toList =
        some [⟨["printf".toList, "%s".toList, text], none⟩,
          ⟨["base64".toList, "-d".toList], none⟩, ⟨["bash".toList], none⟩] ∧
      Utf8.decode (Base64.decode text) = script.toList) ∧
    (∀ content filePath, ∃ text, readPipeline (writeScript content filePath).toList =
        some [⟨["printf".toList, "%s".toList, text], none⟩,
          ⟨["base64".toList, "-d".toList], some filePath.toList⟩] ∧
      Base64.decode text = content) ∧
    (∀ filePath, readPipeline (readScript filePath).toList =
      some [⟨["base64".toList, "-w0".toList, "--".toList, filePath.toList], none⟩]) ∧
    (∀ password script, readPipeline (sudoBootstrapScript password script).toList =
      some [⟨["printf".toList, "%s\\n".toList, password.toList], none⟩,
        ⟨["sudo".toList, "-S".toList, "-p".toList, [], "/bin/bash".toList, "-lc".toList,
          (nodeScript script).toList], none⟩]) := by
  refine ⟨lex_shellJoin, fun i u c => shellCall_words (lex_sudoPrefixed i u c),
    fun n i u c => shellCall_pctExec n (lex_sudoPrefixed i u c),
    fun s => shellCall_words (i := .sh) (lex_shellScript s),
    fun n s => shellCall_pctExec (i := .sh) n (lex_shellScript s),
    fun s => ⟨_, readPipeline_nodeScript s, ?_⟩,
    fun b p => ⟨_, readPipeline_writeScript b p, Base64.decode_encode b⟩,
    readPipeline_readScript, readPipeline_sudoBootstrapScript⟩
  rw [Base64.decode_encode, utf8Bytes, Utf8.decode_encode]

end ProxmoxMcp
