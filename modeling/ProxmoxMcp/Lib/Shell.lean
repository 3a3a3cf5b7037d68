/-
  File:      ProxmoxMcp/Lib/Shell.lean
  Subject:   TOKENS OF THE POSIX SHELL: quoting with backslash, single and double quotes, operators,
             and the places where an expansion would take place. Nothing here names the
             repository.

  * `lex` -- the tokens of a line; a word says whether any part of it was quoted, for a quoted word
    is no reserved word and no assignment;
  * `lex_quoted` -- a text in single quotes, its own quotes written `'"'"'`, is read as itself in
    the middle of a word;
  * `readPipeline` -- a line that is a plain pipeline: words, `|`, and a `>` at the end.
-/
import ProxmoxMcp.Lib.Text

namespace Shell

/-! ## 1. Tokens -/

/-- A token. `expansion` marks a character by which the shell would replace part of the word. -/
inductive Token where
  | word (quoted : Bool) (text : List Char)
  | op (text : List Char)
  | expansion (c : Char)
  deriving DecidableEq, Repr

/-- What the lexer is in the middle of. -/
inductive Mode where
  | blank
  | comment
  | word (quoted : Bool) (text : List Char)
  | single (text : List Char)
  | double (text : List Char)
  deriving DecidableEq, Repr

/-- The text of the word read so far. -/
def Mode.text : Mode → List Char
  | .word _ w | .single w | .double w => w
  | _ => []

/-- Was a part of the word quoted? -/
def Mode.quoted : Mode → Bool
  | .word q _ => q
  | .single _ | .double _ => true
  | _ => false

/-- The word that ends here, if there is one. -/
def Mode.flush : Mode → List Token
  | .word q w => [.word q w]
  | _ => []

/-- Between words, or inside one outside all quotes. -/
def Mode.unquoted : Mode → Bool
  | .blank | .word _ _ => true
  | _ => false

def isOpChar (c : Char) : Bool := c ∈ ['|', '&', ';', '<', '>', '(', ')', '\n']

/-- The operators of two characters. -/
def isOpPair (c d : Char) : Bool :=
  (c, d) ∈ [('&', '&'), ('|', '|'), (';', ';'), ('<', '<'), ('>', '>'), ('<', '&'), ('>', '&'),
    ('<', '>'), ('>', '|')]

/-- Characters by which an unquoted word is expanded, wherever they stand. -/
def isExpansionChar (c : Char) : Bool := c ∈ ['$', '`', '*', '?', '[']

/-- **The tokens of a line**, `none` where a quote is left open. -/
def lex (m : Mode) : List Char → Option (List Token)
  | [] =>
      match m with
      | .single _ | .double _ => none
      | m => some m.flush
  | c :: s =>
      match m with
      | .comment => if c = '\n' then (lex .blank s).map (.op [c] :: ·) else lex .comment s
      | .single w => if c = '\'' then lex (.word true w) s else lex (.single (w ++ [c])) s
      | .double w =>
          if c = '"' then lex (.word true w) s
          else if c = '\\' then
            match s with
            | [] => none
            | d :: s' =>
                if d ∈ ['$', '`', '"', '\\'] then lex (.double (w ++ [d])) s'
                else if d = '\n' then lex (.double w) s'
                else lex (.double (w ++ ['\\', d])) s'
          else if c = '$' ∨ c = '`' then (lex (.double (w ++ [c])) s).map (.expansion c :: ·)
          else lex (.double (w ++ [c])) s
      | m =>
          if c = ' ' ∨ c = '\t' then (lex .blank s).map (m.flush ++ ·)
          else if isOpChar c then
            match s with
            | [] => some (m.flush ++ [.op [c]])
            | d :: s' =>
                if isOpPair c d then (lex .blank s').map (m.flush ++ .op [c, d] :: ·)
                else (lex .blank (d :: s')).map (m.flush ++ .op [c] :: ·)
          else if c = '\'' then lex (.single m.text) s
          else if c = '"' then lex (.double m.text) s
          else if c = '\\' then
            match s with
            | [] => some [.word m.quoted (m.text ++ ['\\'])]
            | d :: s' => if d = '\n' then lex m s' else lex (.word true (m.text ++ [d])) s'
          else if c = '#' ∧ m = .blank then lex .comment s
          else if isExpansionChar c ∨ c = '~' ∧ m = .blank then
            (lex (.word m.quoted (m.text ++ [c])) s).map (.expansion c :: ·)
          else lex (.word m.quoted (m.text ++ [c])) s

/-- The end of the line ends a word. -/
example : lex (.word false ['a']) [] = some [.word false ['a']] := by
  rw [lex.eq_def]
  rfl

/-! ## 2. The rules -/

variable {m : Mode} {w : List Char} {s : List Char} {q : Bool}

@[simp] theorem lex_single_quote : lex (.single w) ('\'' :: s) = lex (.word true w) s := by
  rw [lex.eq_def]; rfl

theorem lex_single {c : Char} (h : c ≠ '\'') :
    lex (.single w) (c :: s) = lex (.single (w ++ [c])) s := by
  rw [lex.eq_def]
  simp only [if_neg h]

/-- An opening quote inside or in front of a word. -/
theorem lex_open (hm : m.unquoted = true) : lex m ('\'' :: s) = lex (.single m.text) s := by
  cases m with
  | blank => rw [lex.eq_def]; rfl
  | word q w => rw [lex.eq_def]; rfl
  | comment => cases hm
  | single w => cases hm
  | double w => cases hm

/-- `'"'"'` leaves the single quotes, reads a quote, and enters them again. -/
theorem lex_quote_in_quotes :
    lex (.single w) ('\'' :: '"' :: '\'' :: '"' :: '\'' :: s) = lex (.single (w ++ ['\''])) s := by
  have h1 : lex (.word true w) ('"' :: '\'' :: '"' :: '\'' :: s) =
      lex (.double w) ('\'' :: '"' :: '\'' :: s) := by rw [lex.eq_def]; rfl
  have h2 : lex (.double w) ('\'' :: '"' :: '\'' :: s) =
      lex (.double (w ++ ['\''])) ('"' :: '\'' :: s) := by rw [lex.eq_def]; rfl
  have h3 : lex (.double (w ++ ['\''])) ('"' :: '\'' :: s) =
      lex (.word true (w ++ ['\''])) ('\'' :: s) := by rw [lex.eq_def]; rfl
  rw [lex_single_quote, h1, h2, h3, lex_open rfl]
  rfl

/-- A blank after a word ends it. -/
@[simp] theorem lex_word_space : lex (.word q w) (' ' :: s) = (lex .blank s).map (.word q w :: ·) := by
  rw [lex.eq_def]; rfl

@[simp] theorem lex_blank_space : lex .blank (' ' :: s) = lex .blank s := by
  rw [lex.eq_def]
  show (lex .blank s).map ([] ++ ·) = _
  cases lex .blank s <;> rfl

@[simp] theorem lex_word_nil : lex (.word q w) [] = some [.word q w] := by rw [lex.eq_def]; rfl

/-- Characters that stand for themselves outside all quotes. -/
def isPlain (c : Char) : Bool :=
  !(isOpChar c || isExpansionChar c || c ∈ [' ', '\t', '\'', '"', '\\', '#', '~'])

/-- A plain character continues or begins a word. -/
theorem lex_plain {c : Char} (hm : m.unquoted = true) (hc : isPlain c = true) :
    lex m (c :: s) = lex (.word m.quoted (m.text ++ [c])) s := by
  simp only [isPlain, Bool.not_eq_true', Bool.or_eq_false_iff, decide_eq_false_iff_not,
    List.mem_cons, List.not_mem_nil, or_false, not_or] at hc
  obtain ⟨⟨h1, h2⟩, h3, h4, h5, h6, h7, h8, h9⟩ := hc
  cases m with
  | comment => cases hm
  | single w => cases hm
  | double w => cases hm
  | blank =>
    rw [lex.eq_def]
    simp only [if_neg (not_or.mpr ⟨h3, h4⟩), h1, if_neg h5, if_neg h6, if_neg h7, h8, h2, h9,
      Bool.false_eq_true, if_false, false_and, or_false]
  | word q w =>
    rw [lex.eq_def]
    simp only [if_neg (not_or.mpr ⟨h3, h4⟩), h1, if_neg h5, if_neg h6, if_neg h7, h8, h2, h9,
      Bool.false_eq_true, if_false, false_and, or_false]

/-- Plain characters are read one by one. -/
theorem lex_plains : ∀ {p : List Char} {q : Bool} {w : List Char}, p.all isPlain = true →
    lex (.word q w) (p ++ s) = lex (.word q (w ++ p)) s
  | [], _, _, _ => by simp
  | c :: p, q, w, h => by
      rw [List.all_cons, Bool.and_eq_true] at h
      rw [List.cons_append, lex_plain rfl h.1, lex_plains h.2]
      simp [Mode.text, Mode.quoted]

/-- **A plain word and a blank.** -/
theorem lex_plain_word {p : List Char} (hne : p ≠ []) (h : p.all isPlain = true) :
    lex .blank (p ++ ' ' :: s) = (lex .blank s).map (.word false p :: ·) := by
  cases p with
  | nil => exact absurd rfl hne
  | cons c p =>
    rw [List.all_cons, Bool.and_eq_true] at h
    rw [List.cons_append, lex_plain rfl h.1, lex_plains h.2, lex_word_space]
    rfl

/-- A plain word at the end of the line. -/
theorem lex_plain_end {p : List Char} (hne : p ≠ []) (h : p.all isPlain = true) :
    lex .blank p = some [.word false p] := by
  cases p with
  | nil => exact absurd rfl hne
  | cons c p =>
    rw [List.all_cons, Bool.and_eq_true] at h
    have := lex_plains (s := []) (q := false) (w := [c]) h.2
    rw [List.append_nil] at this
    rw [lex_plain rfl h.1]
    exact this

/-- An operator of one character between blanks. -/
theorem lex_op {c : Char} (hc : isOpChar c = true) (hb : c ≠ ' ' ∧ c ≠ '\t')
    (hp : isOpPair c ' ' = false) :
    lex .blank (c :: ' ' :: s) = (lex .blank s).map (.op [c] :: ·) := by
  rw [lex.eq_def]
  simp only [if_neg (not_or.mpr hb), hc, hp, if_true, Bool.false_eq_true, if_false]
  rw [lex_blank_space]
  rfl

/-! ## 3. Quoted texts -/

/-- A text in single quotes, its own quotes written `'"'"'`. -/
def quote (s : List Char) : List Char :=
  '\'' :: Text.replaceChar '\'' ['\'', '"', '\'', '"', '\''] s ++ ['\'']

theorem lex_single_replaced : ∀ (v : List Char) (w : List Char),
    lex (.single w) (Text.replaceChar '\'' ['\'', '"', '\'', '"', '\''] v ++ '\'' :: s) =
      lex (.word true (w ++ v)) s
  | [], w => by simp [Text.replaceChar]
  | c :: v, w => by
      have ih := lex_single_replaced v (w ++ [c])
      rw [List.append_assoc, List.singleton_append] at ih
      rw [← ih]
      by_cases hc : c = '\''
      · subst hc
        exact lex_quote_in_quotes
      · have h : Text.replaceChar '\'' ['\'', '"', '\'', '"', '\''] (c :: v) =
            c :: Text.replaceChar '\'' ['\'', '"', '\'', '"', '\''] v := by
          simp [Text.replaceChar, hc]
        rw [h, List.cons_append, lex_single hc]

/-- **A quoted text is read as itself**, in front of a word or in the middle of one. -/
theorem lex_quoted (hm : m.unquoted = true) (v : List Char) :
    lex m (quote v ++ s) = lex (.word true (m.text ++ v)) s := by
  have h : quote v ++ s = '\'' ::
      (Text.replaceChar '\'' ['\'', '"', '\'', '"', '\''] v ++ '\'' :: s) := by simp [quote]
  rw [h, lex_open hm, lex_single_replaced]

/-- **Quoted words, joined by blanks, are read as exactly these words.** -/
theorem lex_quoted_words : ∀ ws : List (List Char),
    lex .blank (Text.joinWith [' '] (ws.map quote)) = some (ws.map (.word true))
  | [] => by
      rw [lex.eq_def]
      rfl
  | [w] => by
      have := lex_quoted (m := .blank) (s := []) rfl w
      rw [List.append_nil] at this
      rw [List.map_singleton, Text.joinWith, this, lex_word_nil]
      rfl
  | w :: v :: ws => by
      have ih := lex_quoted_words (v :: ws)
      show lex .blank (quote w ++ [' '] ++ Text.joinWith [' '] ((v :: ws).map quote)) = _
      rw [List.append_assoc, lex_quoted rfl, List.singleton_append, lex_word_space, ih]
      rfl

/-! ## 4. Pipelines -/

/-- A command of a pipeline, with the file its output goes to. -/
structure Command where
  argv : List (List Char)
  output : Option (List Char) := none
  deriving DecidableEq, Repr

/-- The words of the grammar that are no commands when they are written without quotes. -/
def reserved : List (List Char) :=
  ["!".toList, "\x7b".toList, "\x7d".toList, "case".toList, "do".toList, "done".toList, "elif".toList,
    "else".toList, "esac".toList, "fi".toList, "for".toList, "if".toList, "in".toList,
    "then".toList, "until".toList, "while".toList]

/-- May the word name a command? An unquoted word with a `=` is an assignment. -/
def namesCommand : Token → Bool
  | .word true _ => true
  | .word false w => !(w ∈ reserved || '=' ∈ w)
  | _ => false

/-- The words of one command, and its `>` at the end. -/
def readCommand : List Token → Option (List (List Char) × Option (List Char))
  | [] => some ([], none)
  | [.op ['>'], .word _ w] => some ([], some w)
  | .word _ w :: ts => (readCommand ts).map fun (ws, o) => (w :: ws, o)
  | _ => none

/-- The commands of a pipeline, by their tokens. -/
def splitPipe : List Token → List (List Token)
  | [] => [[]]
  | t :: ts =>
      if t = .op ['|'] then [] :: splitPipe ts
      else
        match splitPipe ts with
        | [] => [[t]]
        | w :: ws => (t :: w) :: ws

/-- One command: at least a name. -/
def readOne (ts : List Token) : Option Command :=
  match ts with
  | t :: _ => if namesCommand t then (readCommand ts).map fun (ws, o) => ⟨ws, o⟩ else none
  | [] => none

/-- **A line that is one plain pipeline**: no expansion, no other operator, nothing left open. -/
def readPipeline (line : List Char) : Option (List Command) :=
  (lex .blank line).bind fun ts => (splitPipe ts).mapM readOne

end Shell
