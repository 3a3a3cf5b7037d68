/-
  File:      ProxmoxMcp/Lib/Url.lean
  Subject:   THE URL STANDARD, for `https:` URLs: percent-encoding, the path, query and fragment
             states of the parser, and `URLSearchParams`. Nothing here names the repository.

  The authority is kept as it is written; host parsing is left out.

  * `pathState` -- path, query and fragment, character by character, with dot segments;
  * `pathState_trimmed_iff` -- which texts come through the parser as nothing but their own
    segments, percent-encoded: those with no `?`, `#` or `\\`, no dot segment and nothing to strip;
  * `parseForm_serializeForm` -- form-encoded pairs come back as they were.
-/
import ProxmoxMcp.Lib.Text
import ProxmoxMcp.Lib.Utf8

namespace Url

/-! ## 1. Percent-encoding -/

/-- An upper-case hexadecimal digit. -/
def hexUpper (n : Nat) : Char := if n < 10 then Char.ofNat (48 + n) else Char.ofNat (55 + n)

/-- `%XX`. -/
def percentByte (b : UInt8) : List Char :=
  ['%', hexUpper (b.toNat / 16), hexUpper (b.toNat % 16)]

/-- A character, percent-encoded if it is in the set. -/
def percentEncode (set : Char → Bool) (c : Char) : List Char :=
  if set c then (Utf8.encodeChar c).flatMap percentByte else [c]

/-- The C0 control percent-encode set. -/
def c0Set (c : Char) : Bool := decide (c.toNat < 32) || decide (126 < c.toNat)

def fragmentSet (c : Char) : Bool := c0Set c || c ∈ [' ', '"', '<', '>', '`']

def querySet (c : Char) : Bool := c0Set c || c ∈ [' ', '"', '#', '<', '>']

def specialQuerySet (c : Char) : Bool := querySet c || c == '\''

def pathSet (c : Char) : Bool := querySet c || c ∈ ['?', '^', '`', '{', '}']

/-- `encodeURIComponent` leaves letters, digits and ``-_.!~*'()`` alone. -/
def componentSet (c : Char) : Bool :=
  !(c.isAlphanum || c ∈ ['-', '_', '.', '!', '~', '*', '\'', '(', ')'])

def encodeURIComponent (s : String) : String :=
  String.ofList (s.toList.flatMap (percentEncode componentSet))

/-- One character as the path state writes it. -/
abbrev encPath : Char → List Char := percentEncode pathSet

/-- A segment as the path state writes it. -/
def encSegment (s : List Char) : List Char := s.flatMap encPath

theorem percentEncode_length_pos (set : Char → Bool) (c : Char) :
    0 < (percentEncode set c).length := by
  unfold percentEncode
  split
  · rcases h : Utf8.encodeChar c with _ | ⟨b, bs⟩
    · exact absurd h (Utf8.encodeChar_ne_nil c)
    · simp [percentByte]
  · simp

/-- Percent-encoding writes `%` and digits, or the character itself. -/
theorem mem_percentEncode {set : Char → Bool} {c d : Char} (h : d ∈ percentEncode set c) :
    d = c ∧ set c = false ∨ d = '%' ∨ ∃ n < 16, d = hexUpper n := by
  unfold percentEncode at h
  split at h
  · obtain ⟨b, -, hb⟩ := List.mem_flatMap.mp h
    simp only [percentByte, List.mem_cons, List.not_mem_nil, or_false] at hb
    have h256 : b.toNat < 256 := b.toNat_lt
    rcases hb with h | h | h
    · exact Or.inr (Or.inl h)
    · exact Or.inr (Or.inr ⟨_, by omega, h⟩)
    · exact Or.inr (Or.inr ⟨_, by omega, h⟩)
  · rename_i hs
    rw [List.mem_singleton] at h
    exact Or.inl ⟨h, by simpa using hs⟩

theorem hexUpper_alphanum : ∀ n < 16, (hexUpper n).isAlphanum = true := by decide

/-! ## 2. Parsing -/

/-- What comes after the authority. -/
structure Tail where
  path : List (List Char)
  query : Option (List Char)
  fragment : Option (List Char)
  deriving DecidableEq, Repr

/-- A parsed `https:` URL. -/
structure Parsed where
  authority : List Char
  tail : Tail
  deriving DecidableEq, Repr

/-- `.` or `%2e`. -/
def isSingleDot (s : List Char) : Bool :=
  s = ['.'] || s = ['%', '2', 'e'] || s = ['%', '2', 'E']

/-- `..`, each dot also as `%2e`. -/
def isDoubleDot (s : List Char) : Bool :=
  s ∈ [['.', '.'],
    ['.', '%', '2', 'e'], ['.', '%', '2', 'E'], ['%', '2', 'e', '.'], ['%', '2', 'E', '.'],
    ['%', '2', 'e', '%', '2', 'e'], ['%', '2', 'e', '%', '2', 'E'],
    ['%', '2', 'E', '%', '2', 'e'], ['%', '2', 'E', '%', '2', 'E']]

/-- A segment that the path state resolves instead of keeping it. -/
def isDotSegment (s : List Char) : Bool := isSingleDot s || isDoubleDot s

/-- The end of a segment; `slash` says that another one follows. -/
def endSegment (slash : Bool) (path : List (List Char)) (buffer : List Char) :
    List (List Char) :=
  if isDoubleDot buffer then if slash then path.dropLast else path.dropLast ++ [[]]
  else if isSingleDot buffer then if slash then path else path ++ [[]]
  else path ++ [buffer]

/-- The fragment state. -/
def fragmentState (s : List Char) : List Char := s.flatMap (percentEncode fragmentSet)

/-- The query state, and the fragment after it. -/
def queryState (buffer : List Char) : List Char → List Char × Option (List Char)
  | [] => (buffer, none)
  | c :: s =>
      if c = '#' then (buffer, some (fragmentState s))
      else queryState (buffer ++ percentEncode specialQuerySet c) s

/-- The path state of a special URL: `\` counts as `/`. -/
def pathState (path : List (List Char)) (buffer : List Char) : List Char → Tail
  | [] => ⟨endSegment false path buffer, none, none⟩
  | c :: s =>
      if c = '/' ∨ c = '\\' then pathState (endSegment true path buffer) [] s
      else if c = '?' then
        ⟨endSegment false path buffer, some (queryState [] s).1, (queryState [] s).2⟩
      else if c = '#' then ⟨endSegment false path buffer, none, some (fragmentState s)⟩
      else pathState path (buffer ++ encPath c) s

/-- The path start state. -/
def pathStart : List Char → Tail
  | [] => ⟨[[]], none, none⟩
  | c :: s => if c = '/' ∨ c = '\\' then pathState [] [] s else pathState [] [] (c :: s)

/-- A C0 control or a space: stripped at both ends of the input. -/
def isC0OrSpace (c : Char) : Bool := decide (c.toNat ≤ 32)

/-- A tab or a line break: removed wherever it stands. -/
def isTabOrNewline (c : Char) : Bool := c == '\t' || c == '\n' || c == '\r'

/-- Does the authority end here? -/
def endsAuthority (c : Char) : Bool := c == '/' || c == '\\' || c == '?' || c == '#'

def stripEnd (s : List Char) : List Char := (s.reverse.dropWhile isC0OrSpace).reverse

/-- What the parser reads of its input. -/
def clean (s : List Char) : List Char :=
  (stripEnd (s.dropWhile isC0OrSpace)).filter fun c => !isTabOrNewline c

/-- `new URL(input)`, for an input of the scheme `https`; `none` where it throws. -/
def parseHttps (input : List Char) : Option Parsed :=
  match clean input with
  | 'h' :: 't' :: 't' :: 'p' :: 's' :: ':' :: s =>
      let s := s.dropWhile fun c => c == '/' || c == '\\'
      let authority := s.takeWhile fun c => !endsAuthority c
      if authority.isEmpty then none
      else some ⟨authority, pathStart (s.dropWhile fun c => !endsAuthority c)⟩
  | _ => none

/-- `new URL(input, base)`, for an input that begins with one slash: the path of the base is gone. -/
def resolvePath (authority input : List Char) : Parsed := ⟨authority, pathStart (clean input)⟩

/-! ## 3. The path state on plain texts -/

/-- The segments between the slashes of a text, percent-encoded, the first one behind `buffer`. -/
def segmentsFrom (buffer : List Char) : List Char → List (List Char)
  | [] => [buffer]
  | c :: s =>
      if c = '/' ∨ c = '\\' then buffer :: segmentsFrom [] s
      else segmentsFrom (buffer ++ encPath c) s

/-- The length of a path as it is written, each segment behind its slash. -/
def pathSize (path : List (List Char)) : Nat := (path.map fun s => s.length + 1).sum

@[simp] theorem pathSize_nil : pathSize [] = 0 := rfl

@[simp] theorem pathSize_append (p q : List (List Char)) :
    pathSize (p ++ q) = pathSize p + pathSize q := by simp [pathSize]

@[simp] theorem pathSize_singleton (s : List Char) : pathSize [s] = s.length + 1 := by
  simp [pathSize]

@[simp] theorem pathSize_cons (s : List Char) (p : List (List Char)) :
    pathSize (s :: p) = s.length + 1 + pathSize p := by simp [pathSize]

theorem pathSize_dropLast (p : List (List Char)) : pathSize p.dropLast ≤ pathSize p := by
  rcases List.eq_nil_or_concat p with rfl | ⟨q, s, rfl⟩
  · simp [pathSize]
  · simp

theorem isSingleDot_length {s : List Char} (h : isSingleDot s = true) : 0 < s.length := by
  simp only [isSingleDot, Bool.or_eq_true, decide_eq_true_eq] at h
  rcases h with (rfl | rfl) | rfl <;> decide

theorem isDoubleDot_length {s : List Char} (h : isDoubleDot s = true) : 1 < s.length := by
  simp only [isDoubleDot, List.mem_cons, List.not_mem_nil, or_false, decide_eq_true_eq] at h
  rcases h with rfl | rfl | rfl | rfl | rfl | rfl | rfl | rfl | rfl <;> decide

/-- **Ending a segment** keeps a plain segment and shortens the path at a dot segment. -/
theorem endSegment_cases (slash : Bool) (path : List (List Char)) (buffer : List Char) :
    (isDotSegment buffer = false ∧ endSegment slash path buffer = path ++ [buffer]) ∨
      (isDotSegment buffer = true ∧
        pathSize (endSegment slash path buffer) < pathSize path + buffer.length + 1) := by
  unfold endSegment isDotSegment
  by_cases h2 : isDoubleDot buffer = true
  · have hlen := isDoubleDot_length h2
    have hdrop := pathSize_dropLast path
    refine Or.inr ⟨by simp [h2], ?_⟩
    rw [if_pos h2]
    cases slash
    · simp only [Bool.false_eq_true, if_false, pathSize_append, pathSize_singleton, List.length_nil]
      omega
    · simp only [if_true]
      omega
  · rw [if_neg h2]
    by_cases h1 : isSingleDot buffer = true
    · have hlen := isSingleDot_length h1
      refine Or.inr ⟨by simp [h1], ?_⟩
      rw [if_pos h1]
      cases slash
      · simp only [Bool.false_eq_true, if_false, pathSize_append, pathSize_singleton,
          List.length_nil]
        omega
      · simp only [if_true]
        omega
    · refine Or.inl ⟨by simp [h1, h2], ?_⟩
      rw [if_neg h1]

theorem encPath_slash : encPath '/' = ['/'] := by decide

theorem encPath_backslash : encPath '\\' = ['\\'] := by decide

theorem length_encSegment_cons (c : Char) (s : List Char) :
    (encSegment (c :: s)).length = (encPath c).length + (encSegment s).length := by
  simp [encSegment]

/-- **The path state never writes more than it reads.** If it writes as much, the text has no
    `?` and no `#`, none of its segments is a dot segment, and the path is these segments. -/
theorem pathState_size : ∀ (s : List Char) (path : List (List Char)) (buffer : List Char),
    pathSize (pathState path buffer s).path ≤
        pathSize path + buffer.length + (encSegment s).length + 1 ∧
      (pathSize (pathState path buffer s).path =
          pathSize path + buffer.length + (encSegment s).length + 1 →
        ('?' ∉ s ∧ '#' ∉ s) ∧ ∀ x ∈ segmentsFrom buffer s, isDotSegment x = false)
  | [], path, buffer => by
      rw [pathState, segmentsFrom]
      rcases endSegment_cases false path buffer with ⟨h, e⟩ | ⟨h, e⟩
      · rw [e]
        simp [encSegment, h, Nat.add_assoc]
      · simp only [encSegment, List.flatMap_nil, List.length_nil] at *
        exact ⟨by omega, fun h' => by omega⟩
  | c :: s, path, buffer => by
      rw [pathState, segmentsFrom, length_encSegment_cons]
      by_cases hslash : c = '/' ∨ c = '\\'
      · have hlen : (encPath c).length = 1 := by
          rcases hslash with rfl | rfl
          · rw [encPath_slash]; rfl
          · rw [encPath_backslash]; rfl
        have hq : '?' ≠ c ∧ '#' ≠ c := by rcases hslash with rfl | rfl <;> decide
        simp only [if_pos hslash, hlen]
        obtain ⟨ih1, ih2⟩ := pathState_size s (endSegment true path buffer) []
        rw [List.length_nil] at ih1 ih2
        rcases endSegment_cases true path buffer with ⟨h, e⟩ | ⟨h, e⟩
        · have hsz : pathSize (endSegment true path buffer) = pathSize path + buffer.length + 1 := by
            rw [e]; simp [Nat.add_assoc]
          refine ⟨by omega, fun heq => ?_⟩
          obtain ⟨⟨h1, h2⟩, h3⟩ := ih2 (by omega)
          refine ⟨⟨by simp [hq.1, h1], by simp [hq.2, h2]⟩, fun x hx => ?_⟩
          rcases List.mem_cons.mp hx with rfl | hx
          · exact h
          · exact h3 x hx
        · exact ⟨by omega, fun heq => by omega⟩
      · simp only [if_neg hslash]
        have hend : ∀ b, pathSize (endSegment b path buffer) ≤ pathSize path + buffer.length + 1 := by
          intro b
          rcases endSegment_cases b path buffer with ⟨-, e⟩ | ⟨-, e⟩
          · rw [e]; simp [Nat.add_assoc]
          · omega
        have hpos : 0 < (encPath c).length := percentEncode_length_pos _ _
        have hcut : pathSize (endSegment false path buffer) <
            pathSize path + buffer.length + ((encPath c).length + (encSegment s).length) + 1 := by
          have := hend false
          omega
        by_cases hq : c = '?'
        · simp only [if_pos hq]
          exact ⟨by omega, fun h => by omega⟩
        · simp only [if_neg hq]
          by_cases hh : c = '#'
          · simp only [if_pos hh]
            exact ⟨by omega, fun h => by omega⟩
          · simp only [if_neg hh]
            obtain ⟨ih1, ih2⟩ := pathState_size s path (buffer ++ encPath c)
            rw [List.length_append] at ih1 ih2
            refine ⟨by omega, fun heq => ?_⟩
            obtain ⟨⟨h1, h2⟩, h3⟩ := ih2 (by omega)
            exact ⟨⟨by simp [Ne.symm hq, h1], by simp [Ne.symm hh, h2]⟩, h3⟩

/-- **A text without `?`, `#` and dot segments comes through as its segments.** -/
theorem pathState_plain : ∀ (s : List Char) (path : List (List Char)) (buffer : List Char),
    '?' ∉ s → '#' ∉ s → (∀ x ∈ segmentsFrom buffer s, isDotSegment x = false) →
    pathState path buffer s = ⟨path ++ segmentsFrom buffer s, none, none⟩
  | [], path, buffer, _, _, hd => by
      have hb := hd buffer (by rw [segmentsFrom]; exact List.mem_cons_self)
      rcases endSegment_cases false path buffer with ⟨_, e⟩ | ⟨h, _⟩
      · rw [pathState, segmentsFrom, e]
      · rw [hb] at h; cases h
  | c :: s, path, buffer, h1, h2, hd => by
      simp only [List.mem_cons, not_or] at h1 h2
      rw [pathState]
      rw [segmentsFrom] at hd ⊢
      by_cases hslash : c = '/' ∨ c = '\\'
      · simp only [if_pos hslash] at hd ⊢
        have hb := hd buffer List.mem_cons_self
        rcases endSegment_cases true path buffer with ⟨_, e⟩ | ⟨h, _⟩
        · rw [e, pathState_plain s _ _ h1.2 h2.2 fun x hx => hd x (List.mem_cons_of_mem _ hx)]
          simp
        · rw [hb] at h; cases h
      · simp only [if_neg hslash] at hd ⊢
        rw [if_neg (Ne.symm h1.1), if_neg (Ne.symm h2.1)]
        exact pathState_plain s _ _ h1.2 h2.2 hd

/-- Without a backslash the segments are those between the `/`. -/
theorem segmentsFrom_eq_splitOn : ∀ (s : List Char) (buffer : List Char), '\\' ∉ s →
    segmentsFrom buffer s =
      match Text.splitOn '/' s with
      | [] => [buffer]
      | w :: ws => (buffer ++ encSegment w) :: ws.map encSegment
  | [], buffer, _ => by simp [segmentsFrom, Text.splitOn, encSegment]
  | c :: s, buffer, h => by
      simp only [List.mem_cons, not_or] at h
      rw [segmentsFrom, Text.splitOn]
      by_cases hc : c = '/'
      · rw [if_pos (Or.inl hc), if_pos hc, segmentsFrom_eq_splitOn s [] h.2]
        rcases hs : Text.splitOn '/' s with _ | ⟨w, ws⟩
        · exact absurd hs (Text.splitOn_ne_nil _ _)
        · simp [encSegment]
      · rw [if_neg (by rintro (e | e); exacts [hc e, h.1 e.symm]), if_neg hc,
          segmentsFrom_eq_splitOn s _ h.2]
        rcases hs : Text.splitOn '/' s with _ | ⟨w, ws⟩
        · exact absurd hs (Text.splitOn_ne_nil _ _)
        · simp [encSegment]

/-- The path state writes no backslash. -/
theorem pathState_no_backslash : ∀ (s : List Char) (path : List (List Char)) (buffer : List Char),
    (∀ x ∈ path, '\\' ∉ x) → '\\' ∉ buffer →
    ∀ x ∈ (pathState path buffer s).path, '\\' ∉ x := by
  have hend : ∀ (b : Bool) (path : List (List Char)) (buffer : List Char),
      (∀ x ∈ path, '\\' ∉ x) → '\\' ∉ buffer → ∀ x ∈ endSegment b path buffer, '\\' ∉ x := by
    intro b path buffer hp hb x hx
    have hmem : x ∈ path ∨ x = [] ∨ x = buffer := by
      unfold endSegment at hx
      split at hx
      · split at hx
        · exact Or.inl (List.dropLast_subset _ hx)
        · rcases List.mem_append.mp hx with hx | hx
          · exact Or.inl (List.dropLast_subset _ hx)
          · exact Or.inr (Or.inl (by simpa using hx))
      · split at hx
        · split at hx
          · exact Or.inl hx
          · rcases List.mem_append.mp hx with hx | hx
            · exact Or.inl hx
            · exact Or.inr (Or.inl (by simpa using hx))
        · rcases List.mem_append.mp hx with hx | hx
          · exact Or.inl hx
          · exact Or.inr (Or.inr (by simpa using hx))
    rcases hmem with h | rfl | rfl
    · exact hp x h
    · simp
    · exact hb
  intro s
  induction s with
  | nil => intro path buffer hp hb; exact hend false path buffer hp hb
  | cons c s ih =>
    intro path buffer hp hb
    rw [pathState]
    by_cases hslash : c = '/' ∨ c = '\\'
    · simp only [if_pos hslash]
      exact ih _ _ (hend true path buffer hp hb) (by simp)
    · simp only [if_neg hslash]
      split
      · exact hend false path buffer hp hb
      · split
        · exact hend false path buffer hp hb
        · refine ih _ _ hp fun hmem => ?_
          rcases List.mem_append.mp hmem with hmem | hmem
          · exact hb hmem
          · rcases mem_percentEncode hmem with ⟨h, _⟩ | h | ⟨n, hn, h⟩
            · exact hslash (Or.inr h.symm)
            · cases h
            · have := hexUpper_alphanum n hn
              rw [← h] at this
              cases this

/-! ## 4. Which texts are paths -/

/-- What is left of the text behind a slash when the parser reads it. -/
def trimmed (t : List Char) : List Char := (stripEnd t).filter fun c => !isTabOrNewline c

theorem stripEnd_append {p t : List Char} {c : Char} (hc : isC0OrSpace c = false) :
    stripEnd (p ++ c :: t) = p ++ c :: stripEnd t := by
  have hrev : (p ++ c :: t).reverse = t.reverse ++ c :: p.reverse := by simp
  have hstop : (c :: p.reverse).dropWhile isC0OrSpace = c :: p.reverse := by
    rw [List.dropWhile_cons_of_neg (by simp [hc])]
  rw [stripEnd, hrev, List.dropWhile_append, hstop]
  split
  · rename_i h
    rw [List.isEmpty_iff] at h
    simp [stripEnd, h]
  · simp [stripEnd]

theorem stripEnd_sublist (t : List Char) : (stripEnd t).Sublist t := by
  rw [stripEnd]
  have := (List.dropWhile_sublist isC0OrSpace (l := t.reverse)).reverse
  rwa [List.reverse_reverse] at this

theorem trimmed_sublist (t : List Char) : (trimmed t).Sublist t :=
  List.filter_sublist.trans (stripEnd_sublist t)

/-- A part of a text is written shorter than the text. -/
theorem length_encSegment_sublist {s t : List Char} (h : s.Sublist t) :
    (encSegment s).length ≤ (encSegment t).length ∧
      ((encSegment s).length = (encSegment t).length → s = t) := by
  induction h with
  | slnil => simp
  | cons c h ih =>
    have hpos : 0 < (encPath c).length := percentEncode_length_pos _ _
    rw [length_encSegment_cons]
    exact ⟨by omega, fun e => by omega⟩
  | cons_cons c h ih =>
    rw [length_encSegment_cons, length_encSegment_cons]
    exact ⟨by omega, fun e => by rw [ih.2 (by omega)]⟩

/-- **A plain path**: nothing is stripped from it, it has no `?`, `#` or `\`, and none of its
    segments is a dot segment, however the dots are spelled. -/
structure PlainPath (t : List Char) : Prop where
  untrimmed : trimmed t = t
  no_query : '?' ∉ t
  no_fragment : '#' ∉ t
  no_backslash : '\\' ∉ t
  no_dots : ∀ x ∈ Text.splitOn '/' t, isDotSegment (encSegment x) = false

instance (t : List Char) : Decidable (PlainPath t) :=
  decidable_of_iff (trimmed t = t ∧ '?' ∉ t ∧ '#' ∉ t ∧ '\\' ∉ t ∧
      ∀ x ∈ Text.splitOn '/' t, isDotSegment (encSegment x) = false)
    ⟨fun ⟨a, b, c, d, e⟩ => ⟨a, b, c, d, e⟩, fun ⟨a, b, c, d, e⟩ => ⟨a, b, c, d, e⟩⟩

/-- The segments of a text, percent-encoded, fill as much as the text with a slash in front. -/
theorem pathSize_splitOn : ∀ t : List Char,
    pathSize ((Text.splitOn '/' t).map encSegment) = (encSegment t).length + 1
  | [] => rfl
  | c :: t => by
      have ih := pathSize_splitOn t
      rw [Text.splitOn, length_encSegment_cons]
      by_cases hc : c = '/'
      · rw [if_pos hc, hc, encPath_slash, List.map_cons, pathSize_cons, ih]
        simp [encSegment]
        omega
      · rw [if_neg hc]
        rcases hs : Text.splitOn '/' t with _ | ⟨w, ws⟩
        · exact absurd hs (Text.splitOn_ne_nil _ _)
        · rw [hs, List.map_cons, pathSize_cons] at ih
          simp only [List.map_cons, pathSize_cons, length_encSegment_cons]
          omega

/-- The segments of a text with a backslash keep it. -/
theorem backslash_mem_segment : ∀ {t : List Char}, '\\' ∈ t →
    ∃ x ∈ (Text.splitOn '/' t).map encSegment, '\\' ∈ x
  | c :: t, h => by
      rw [Text.splitOn]
      by_cases hc : c = '/'
      · rw [if_pos hc]
        have ht : '\\' ∈ t := by
          rcases List.mem_cons.mp h with h | h
          · rw [hc] at h; cases h
          · exact h
        obtain ⟨x, hx, hb⟩ := backslash_mem_segment ht
        exact ⟨x, List.mem_cons_of_mem _ hx, hb⟩
      · rw [if_neg hc]
        rcases hs : Text.splitOn '/' t with _ | ⟨w, ws⟩
        · exact absurd hs (Text.splitOn_ne_nil _ _)
        · have hcons : encSegment (c :: w) = encPath c ++ encSegment w := rfl
          rcases List.mem_cons.mp h with rfl | h
          · exact ⟨encSegment ('\\' :: w), List.mem_cons_self, by rw [hcons, encPath_backslash]; simp⟩
          · obtain ⟨x, hx, hb⟩ := backslash_mem_segment h
            rw [hs] at hx
            rcases List.mem_cons.mp hx with rfl | hx
            · exact ⟨encSegment (c :: w), List.mem_cons_self, by rw [hcons]; simp [hb]⟩
            · exact ⟨x, List.mem_cons_of_mem _ hx, hb⟩

/-- **A text behind a slash comes through the parser as its own segments, percent-encoded, exactly
    if it is a plain path.** -/
theorem pathState_trimmed_iff (base : List (List Char)) (t : List Char)
    (hbase : ∀ x ∈ base, '\\' ∉ x) :
    (pathState base [] (trimmed t)).path = base ++ (Text.splitOn '/' t).map encSegment ↔
      PlainPath t := by
  constructor
  · intro h
    obtain ⟨hle, heq⟩ := pathState_size (trimmed t) base []
    obtain ⟨hsub, hsubeq⟩ := length_encSegment_sublist (trimmed_sublist t)
    have hsize : pathSize (pathState base [] (trimmed t)).path =
        pathSize base + (encSegment t).length + 1 := by
      rw [h, pathSize_append, pathSize_splitOn]
      omega
    rw [List.length_nil] at hle heq
    have hun : trimmed t = t := hsubeq (by omega)
    rw [hun] at h heq
    obtain ⟨⟨hq, hf⟩, hd⟩ := heq (by rw [hun] at hsize; omega)
    have hb : '\\' ∉ t := fun hmem => by
      obtain ⟨x, hx, hxb⟩ := backslash_mem_segment hmem
      refine pathState_no_backslash t base [] hbase (by simp) x ?_ hxb
      rw [h]
      exact List.mem_append_right _ hx
    rw [segmentsFrom_eq_splitOn t [] hb] at hd
    refine ⟨hun, hq, hf, hb, fun x hx => hd _ ?_⟩
    rcases hs : Text.splitOn '/' t with _ | ⟨w, ws⟩
    · exact absurd hs (Text.splitOn_ne_nil _ _)
    · rw [hs] at hx
      rcases List.mem_cons.mp hx with rfl | hx
      · exact List.mem_cons_self
      · exact List.mem_cons_of_mem _ (List.mem_map_of_mem hx)
  · intro h
    rw [h.untrimmed]
    rw [(plain_pathState base h)]
where
  /-- The path state on a plain path. -/
  plain_pathState (base : List (List Char)) {t : List Char} (h : PlainPath t) :
      pathState base [] t = ⟨base ++ (Text.splitOn '/' t).map encSegment, none, none⟩ := by
    have hseg : segmentsFrom [] t = (Text.splitOn '/' t).map encSegment := by
      rw [segmentsFrom_eq_splitOn t [] h.no_backslash]
      rcases hs : Text.splitOn '/' t with _ | ⟨w, ws⟩
      · exact absurd hs (Text.splitOn_ne_nil _ _)
      · rfl
    rw [← hseg]
    refine pathState_plain t base [] h.no_query h.no_fragment fun x hx => ?_
    rw [hseg] at hx
    obtain ⟨y, hy, rfl⟩ := List.mem_map.mp hx
    exact h.no_dots y hy

/-- Trimming behind a slash. -/
theorem trimmed_append {p t : List Char} (hp : ∀ c ∈ p, isTabOrNewline c = false) :
    trimmed (p ++ '/' :: t) = p ++ '/' :: trimmed t := by
  have hf : p.filter (fun c => !isTabOrNewline c) = p := by
    rw [List.filter_eq_self]
    intro c hc
    simp [hp c hc]
  rw [trimmed, stripEnd_append (by decide), List.filter_append, hf]
  rfl

/-- An authority as it stands in a URL: not empty, and without any character that ends it or that
    the parser strips. -/
def IsAuthority (a : List Char) : Prop :=
  a ≠ [] ∧ ∀ c ∈ a, endsAuthority c = false ∧ isC0OrSpace c = false

instance (a : List Char) : Decidable (IsAuthority a) :=
  decidable_of_iff (a ≠ [] ∧ a.all (fun c => !endsAuthority c && !isC0OrSpace c) = true)
    (by simp [IsAuthority, List.all_eq_true])

/-- **An `https:` URL with a path is its authority and the path state of the rest.** -/
theorem parseHttps_path {a : List Char} (ha : IsAuthority a) (t : List Char) :
    parseHttps ("https://".toList ++ a ++ '/' :: t) = some ⟨a, pathState [] [] (trimmed t)⟩ := by
  have hclean : clean ("https://".toList ++ a ++ '/' :: t) =
      "https://".toList ++ a ++ '/' :: trimmed t := by
    have hhead : ("https://".toList ++ a ++ '/' :: t).dropWhile isC0OrSpace =
        "https://".toList ++ a ++ '/' :: t := rfl
    have hfa : a.filter (fun c => !isTabOrNewline c) = a := by
      rw [List.filter_eq_self]
      intro c hc
      have hsp := (ha.2 c hc).2
      simp only [isTabOrNewline, Bool.not_eq_true', Bool.or_eq_false_iff, beq_eq_false_iff_ne]
      refine ⟨⟨?_, ?_⟩, ?_⟩ <;>
      · rintro rfl
        revert hsp
        decide
    have hfp : "https://".toList.filter (fun c => !isTabOrNewline c) = "https://".toList := by decide
    have hfs : ('/' :: stripEnd t).filter (fun c => !isTabOrNewline c) = '/' :: trimmed t := rfl
    rw [clean, hhead, stripEnd_append (by decide), List.filter_append, List.filter_append, hfa, hfp,
      hfs]
  have hstart : ∀ c ∈ a, (!endsAuthority c) = true := fun c hc => by simp [(ha.2 c hc).1]
  have hslash : (a ++ '/' :: trimmed t).dropWhile (fun c => c == '/' || c == '\\') =
      a ++ '/' :: trimmed t := by
    rcases a with _ | ⟨c, a⟩
    · exact absurd rfl ha.1
    · have hc := (ha.2 c List.mem_cons_self).1
      simp only [endsAuthority, Bool.or_eq_false_iff] at hc
      rw [List.cons_append, List.dropWhile_cons_of_neg (by simp [hc.1.1.1, hc.1.1.2])]
  have htake : (a ++ '/' :: trimmed t).takeWhile (fun c => !endsAuthority c) = a := by
    rw [List.takeWhile_append_of_pos hstart, List.takeWhile_cons_of_neg (by decide), List.append_nil]
  have hdrop : (a ++ '/' :: trimmed t).dropWhile (fun c => !endsAuthority c) =
      '/' :: trimmed t := by
    rw [List.dropWhile_append_of_pos hstart, List.dropWhile_cons_of_neg (by decide)]
  have hne : a.isEmpty = false := by simpa using ha.1
  have hscheme : "https://".toList ++ a ++ '/' :: trimmed t =
      'h' :: 't' :: 't' :: 'p' :: 's' :: ':' :: '/' :: '/' :: (a ++ '/' :: trimmed t) := rfl
  rw [parseHttps, hclean, hscheme]
  have hskip : ('/' :: '/' :: (a ++ '/' :: trimmed t)).dropWhile (fun c => c == '/' || c == '\\') =
      a ++ '/' :: trimmed t := by
    rw [List.dropWhile_cons_of_pos (by decide), List.dropWhile_cons_of_pos (by decide), hslash]
  simp only [hskip, htake, hdrop, hne]
  rfl

/-! ## 5. URLSearchParams -/

/-- A byte of a name or a value. -/
def formByte (b : UInt8) : List Char :=
  if b.toNat = 32 then ['+']
  else
    let c := Char.ofNat b.toNat
    if b.toNat < 128 ∧ (c.isAlphanum ∨ c ∈ ['*', '-', '.', '_']) then [c] else percentByte b

/-- A name or a value, form-encoded. -/
def formEncode (s : List Char) : List Char := (Utf8.encode s).flatMap formByte

/-- `params.toString()`. -/
def serializeForm (ps : List (List Char × List Char)) : List Char :=
  Text.joinWith ['&'] (ps.map fun p => formEncode p.1 ++ '=' :: formEncode p.2)

/-- The value of a hexadecimal digit. -/
def hexValue (c : Char) : Option Nat :=
  if '0' ≤ c ∧ c ≤ '9' then some (c.toNat - 48)
  else if 'a' ≤ c ∧ c ≤ 'f' then some (c.toNat - 87)
  else if 'A' ≤ c ∧ c ≤ 'F' then some (c.toNat - 55)
  else none

/-- The bytes of a form-encoded name or value; a `%` without two digits is itself. -/
def formBytes : List Char → List UInt8
  | [] => []
  | '%' :: a :: b :: s =>
      match hexValue a, hexValue b with
      | some x, some y => .ofNat (x * 16 + y) :: formBytes s
      | _, _ => .ofNat 37 :: formBytes (a :: b :: s)
  | '+' :: s => .ofNat 32 :: formBytes s
  | c :: s => Utf8.encodeChar c ++ formBytes s

/-- A form-encoded name or value, decoded. -/
def formDecode (s : List Char) : List Char := Utf8.decode (formBytes s)

/-- One `name=value`. -/
def parsePair (s : List Char) : List Char × List Char :=
  (formDecode (s.takeWhile (· ≠ '=')), formDecode ((s.dropWhile (· ≠ '=')).drop 1))

/-- `new URLSearchParams(text)`. -/
def parseForm (s : List Char) : List (List Char × List Char) :=
  ((Text.splitOn '&' s).filter fun p => !p.isEmpty).map parsePair

/-- `params.append(key, value)`. -/
def appendPair (key value : List Char) (ps : List (List Char × List Char)) :
    List (List Char × List Char) := ps ++ [(key, value)]

/-- `params.set(key, value)`: the first pair of that name takes the value, the others go. -/
def setPair (key value : List Char) : List (List Char × List Char) →
    List (List Char × List Char)
  | [] => [(key, value)]
  | p :: ps =>
      if p.1 = key then (key, value) :: ps.filter fun q => q.1 ≠ key
      else p :: setPair key value ps

/-- A new name goes to the end. -/
theorem setPair_new {key value : List Char} : ∀ {ps : List (List Char × List Char)},
    (∀ p ∈ ps, p.1 ≠ key) → setPair key value ps = ps ++ [(key, value)]
  | [], _ => rfl
  | p :: ps, h => by
      rw [setPair, if_neg (h p List.mem_cons_self),
        setPair_new fun q hq => h q (List.mem_cons_of_mem _ hq), List.cons_append]

theorem toNat_ofNat_of_lt {n : Nat} (h : n < 128) : (Char.ofNat n).toNat = n := by
  have hb : ∀ k : Fin 128, (Char.ofNat k.val).toNat = k.val := by decide +kernel
  exact hb ⟨n, h⟩

theorem hexValue_hexUpper : ∀ n < 16, hexValue (hexUpper n) = some n := by decide

/-- A byte, percent-encoded, is read back. -/
theorem formBytes_percentByte (b : UInt8) (s : List Char) :
    formBytes (percentByte b ++ s) = b :: formBytes s := by
  have h256 : b.toNat < 256 := b.toNat_lt
  have hb : UInt8.ofNat b.toNat = b := by simp
  rw [percentByte, List.cons_append, List.cons_append, List.cons_append, List.nil_append, formBytes]
  simp only [hexValue_hexUpper _ (show b.toNat / 16 < 16 by omega),
    hexValue_hexUpper _ (show b.toNat % 16 < 16 by omega)]
  rw [show b.toNat / 16 * 16 + b.toNat % 16 = b.toNat by omega, hb]

/-- A form-encoded byte is read back. -/
theorem formBytes_formByte (b : UInt8) (s : List Char) :
    formBytes (formByte b ++ s) = b :: formBytes s := by
  have h256 : b.toNat < 256 := b.toNat_lt
  have hb : UInt8.ofNat b.toNat = b := by simp
  unfold formByte
  split
  · rename_i h
    rw [List.singleton_append, formBytes.eq_def]
    simp only [List.cons.injEq, and_true]
    rw [← hb, h]
  · simp only
    split
    · rename_i h32 h
      have hne : Char.ofNat b.toNat ≠ '%' ∧ Char.ofNat b.toNat ≠ '+' := by
        constructor <;>
        · intro e
          rcases h.2 with h' | h' <;> rw [e] at h' <;> revert h' <;> decide
      have henc : Utf8.encodeChar (Char.ofNat b.toNat) = [b] := by
        have hn : (Char.ofNat b.toNat).toNat = b.toNat := by
          exact toNat_ofNat_of_lt h.1
        rw [Utf8.encodeChar_ascii (by omega), hn, hb]
      rw [List.singleton_append, formBytes.eq_def]
      split
      · rename_i e; cases e
      · rename_i e; injection e with e _; exact absurd e hne.1
      · rename_i e; injection e with e _; exact absurd e hne.2
      · rename_i e
        injection e with e e'
        rw [← e, ← e', henc, List.singleton_append]
    · exact formBytes_percentByte b s

theorem formBytes_flatMap (bs : List UInt8) : formBytes (bs.flatMap formByte) = bs := by
  induction bs with
  | nil => rfl
  | cons b bs ih => rw [List.flatMap_cons, formBytes_formByte, ih]

/-- **A name or value comes back.** -/
theorem formDecode_formEncode (s : List Char) : formDecode (formEncode s) = s := by
  rw [formDecode, formEncode, formBytes_flatMap, Utf8.decode_encode]

/-- A form-encoded text holds no separator. -/
theorem not_mem_formEncode {s : List Char} {c : Char} (hc : c = '&' ∨ c = '=') :
    c ∉ formEncode s := by
  intro h
  obtain ⟨b, -, hb⟩ := List.mem_flatMap.mp h
  have h256 : b.toNat < 256 := b.toNat_lt
  unfold formByte at hb
  split at hb
  · rw [List.mem_singleton] at hb
    rcases hc with rfl | rfl <;> cases hb
  · simp only at hb
    split at hb
    · rename_i hsafe
      rw [List.mem_singleton] at hb
      rw [← hb] at hsafe
      rcases hc with rfl | rfl <;> revert hsafe <;> simp
    · simp only [percentByte, List.mem_cons, List.not_mem_nil, or_false] at hb
      have hx : ∀ n < 16, c ≠ hexUpper n := by
        intro n hn e
        have := hexUpper_alphanum n hn
        rw [← e] at this
        rcases hc with rfl | rfl <;> cases this
      rcases hb with h | h | h
      · rcases hc with rfl | rfl <;> cases h
      · exact hx _ (by omega) h
      · exact hx _ (by omega) h

theorem parsePair_pair (k v : List Char) :
    parsePair (formEncode k ++ '=' :: formEncode v) = (k, v) := by
  have hk : ∀ c ∈ formEncode k, (decide (c ≠ '=')) = true := by
    intro c hc
    simp only [ne_eq, decide_not, Bool.not_eq_eq_eq_not, Bool.not_true, decide_eq_false_iff_not]
    rintro rfl
    exact not_mem_formEncode (Or.inr rfl) hc
  have h1 : (formEncode k ++ '=' :: formEncode v).takeWhile (fun c => decide (c ≠ '=')) =
      formEncode k := by
    rw [List.takeWhile_append_of_pos hk]
    simp
  have h2 : (formEncode k ++ '=' :: formEncode v).dropWhile (fun c => decide (c ≠ '=')) =
      '=' :: formEncode v := by
    rw [List.dropWhile_append_of_pos hk]
    simp
  rw [parsePair, h1, h2, List.drop_one, List.tail_cons, formDecode_formEncode,
    formDecode_formEncode]

/-- **Form-encoded pairs come back as they were.** -/
theorem parseForm_serializeForm (ps : List (List Char × List Char)) :
    parseForm (serializeForm ps) = ps := by
  cases ps with
  | nil => rfl
  | cons p ps =>
    have hne : ((p :: ps).map fun p => formEncode p.1 ++ '=' :: formEncode p.2) ≠ [] := by simp
    have hsep : ∀ w ∈ (p :: ps).map fun p => formEncode p.1 ++ '=' :: formEncode p.2, '&' ∉ w := by
      intro w hw hmem
      obtain ⟨q, -, rfl⟩ := List.mem_map.mp hw
      rcases List.mem_append.mp hmem with h | h
      · exact not_mem_formEncode (Or.inl rfl) h
      · rcases List.mem_cons.mp h with h | h
        · cases h
        · exact not_mem_formEncode (Or.inl rfl) h
    have hfilter : ((p :: ps).map fun p => formEncode p.1 ++ '=' :: formEncode p.2).filter
        (fun w => !w.isEmpty) = (p :: ps).map fun p => formEncode p.1 ++ '=' :: formEncode p.2 := by
      rw [List.filter_eq_self]
      intro w hw
      obtain ⟨q, -, rfl⟩ := List.mem_map.mp hw
      simp
    rw [parseForm, serializeForm, Text.splitOn_joinWith hne hsep, hfilter, List.map_map]
    have hpair : (parsePair ∘ fun p : List Char × List Char =>
        formEncode p.1 ++ '=' :: formEncode p.2) = id := funext fun q => parsePair_pair q.1 q.2
    rw [hpair, List.map_id]

/-! ## 6. Components -/

/-- What `encodeURIComponent` writes: letters, digits, its marks, and `%`. -/
def isComponentChar (c : Char) : Bool := !componentSet c || c == '%'

theorem isComponentChar_ascii {c : Char} (h : isComponentChar c = true) : c.toNat < 128 := by
  by_contra hc
  have halnum : c.isAlphanum = false := by
    simp only [Char.isAlphanum, Char.isAlpha, Char.isUpper, Char.isLower, Char.isDigit,
      ge_iff_le, UInt32.le_iff_toNat_le, Bool.or_eq_false_iff, decide_eq_false_iff_not, not_and]
    simp
    omega
  have hne : ∀ d : Char, d.toNat < 128 → c ≠ d := fun d hd e => hc (e ▸ hd)
  have hmarks : ∀ d ∈ ['-', '_', '.', '!', '~', '*', '\'', '(', ')', '%'], c ≠ d := by
    intro d hd
    refine hne d (of_decide_eq_true ?_)
    exact (@List.all_eq_true _ (fun d : Char => decide (d.toNat < 128)) _).mp (by decide) d hd
  simp only [isComponentChar, componentSet, halnum, List.mem_cons, List.not_mem_nil] at h
  simp [hmarks] at h

/-- What the parser of a path leaves alone: it writes the character as it is, and neither strips it
    nor ends anything there. -/
structure PathSafe (c : Char) : Prop where
  same : encPath c = [c]
  not_stripped : isC0OrSpace c = false
  not_removed : isTabOrNewline c = false
  ne_slash : c ≠ '/'
  ne_backslash : c ≠ '\\'
  ne_query : c ≠ '?'
  ne_fragment : c ≠ '#'

theorem pathSafe_of_component {c : Char} (h : isComponentChar c = true) : PathSafe c := by
  have hall : ∀ n < 128, isComponentChar (Char.ofNat n) = true →
      encPath (Char.ofNat n) = [Char.ofNat n] ∧ isC0OrSpace (Char.ofNat n) = false ∧
        isTabOrNewline (Char.ofNat n) = false ∧ Char.ofNat n ≠ '/' ∧ Char.ofNat n ≠ '\\' ∧
        Char.ofNat n ≠ '?' ∧ Char.ofNat n ≠ '#' := by
    decide +kernel
  have hc := hall c.toNat (isComponentChar_ascii h)
  rw [Char.ofNat_toNat] at hc
  obtain ⟨h1, h2, h3, h4, h5, h6, h7⟩ := hc h
  exact ⟨h1, h2, h3, h4, h5, h6, h7⟩

/-- A component is made of such characters. -/
theorem isComponentChar_of_mem {s : String} {c : Char} (h : c ∈ (encodeURIComponent s).toList) :
    isComponentChar c = true := by
  rw [encodeURIComponent, String.toList_ofList] at h
  obtain ⟨d, _, hd⟩ := List.mem_flatMap.mp h
  rcases mem_percentEncode hd with ⟨rfl, hset⟩ | rfl | ⟨n, hn, rfl⟩
  · rw [isComponentChar, hset]
    rfl
  · rfl
  · rw [isComponentChar, componentSet, hexUpper_alphanum n hn]
    rfl

/-- A character, percent-encoded or not, is read back. -/
theorem formBytes_component (c : Char) (s : List Char) :
    formBytes (percentEncode componentSet c ++ s) = Utf8.encodeChar c ++ formBytes s := by
  unfold percentEncode
  split
  · induction Utf8.encodeChar c with
    | nil => rfl
    | cons b bs ih =>
      rw [List.flatMap_cons, List.append_assoc, formBytes_percentByte, ih]
      rfl
  · rename_i hset
    have hplain : c ≠ '%' ∧ c ≠ '+' := by
      constructor
      · intro e
        exact hset (e ▸ rfl)
      · intro e
        exact hset (e ▸ rfl)
    rw [List.singleton_append, formBytes.eq_def]
    split
    · rename_i e
      cases e
    · rename_i e
      injection e with e _
      exact absurd e hplain.1
    · rename_i e
      injection e with e _
      exact absurd e hplain.2
    · rename_i e
      injection e with e e'
      rw [e, e']

/-- **A component comes back.** -/
theorem formDecode_encodeURIComponent (s : String) :
    formDecode (encodeURIComponent s).toList = s.toList := by
  have hbytes : ∀ t : List Char,
      formBytes (t.flatMap (percentEncode componentSet)) = Utf8.encode t := by
    intro t
    induction t with
    | nil => rfl
    | cons c t ih => rw [List.flatMap_cons, formBytes_component, ih, Utf8.encode_cons]
  rw [formDecode, encodeURIComponent, String.toList_ofList, hbytes, Utf8.decode_encode]

theorem encodeURIComponent_injective {s t : String}
    (h : encodeURIComponent s = encodeURIComponent t) : s = t := by
  have hs := formDecode_encodeURIComponent s
  rw [h, formDecode_encodeURIComponent] at hs
  exact (String.toList_injective hs).symm

/-- A component is a dot segment only where it was one before. -/
theorem isDotSegment_encodeURIComponent {s : String} (h : s ≠ "." ∧ s ≠ "..") :
    isDotSegment (encodeURIComponent s).toList = false := by
  have hdots : ∀ x : List Char, isDotSegment x = true → formDecode x = ['.'] ∨ formDecode x = ['.', '.'] := by
    intro x hx
    simp only [isDotSegment, isSingleDot, isDoubleDot, Bool.or_eq_true, decide_eq_true_eq,
      List.mem_cons, List.not_mem_nil, or_false] at hx
    rcases hx with ((rfl | rfl) | rfl) | rfl | rfl | rfl | rfl | rfl | rfl | rfl | rfl | rfl <;>
      decide
  rw [Bool.eq_false_iff]
  intro hx
  rcases hdots _ hx with e | e
  · rw [formDecode_encodeURIComponent] at e
    exact h.1 (String.toList_injective e)
  · rw [formDecode_encodeURIComponent] at e
    exact h.2 (String.toList_injective e)

theorem encSegment_of_safe {w : List Char} (h : ∀ c ∈ w, PathSafe c) : encSegment w = w := by
  induction w with
  | nil => rfl
  | cons c w ih =>
    rw [encSegment, List.flatMap_cons, (h c List.mem_cons_self).same]
    exact congrArg (c :: ·) (ih fun d hd => h d (List.mem_cons_of_mem _ hd))

/-- A text without what the parser strips or removes is read as it is. -/
theorem trimmed_of_kept {t : List Char}
    (hkept : ∀ c ∈ t, isC0OrSpace c = false ∧ isTabOrNewline c = false) : trimmed t = t := by
  have hend : stripEnd t = t := by
    rw [stripEnd]
    rcases List.eq_nil_or_concat t with rfl | ⟨p, c, rfl⟩
    · rfl
    · have hc := (hkept c (by simp)).1
      simp [hc]
  rw [trimmed, hend, List.filter_eq_self]
  intro c hc
  rw [(hkept c hc).2]
  rfl

/-- **Safe segments that are no dot segments make a plain path.** -/
theorem plainPath_joinWith {ws : List (List Char)} (hne : ws ≠ [])
    (hsafe : ∀ w ∈ ws, ∀ c ∈ w, PathSafe c) (hdots : ∀ w ∈ ws, isDotSegment w = false) :
    PlainPath (Text.joinWith ['/'] ws) := by
  have hmem : ∀ c ∈ Text.joinWith ['/'] ws, PathSafe c ∨ c = '/' := by
    intro c hc
    rcases Text.mem_joinWith hc with ⟨w, hw, hcw⟩ | hsep
    · exact .inl (hsafe w hw c hcw)
    · exact .inr (List.mem_singleton.mp hsep)
  have hkept : ∀ c ∈ Text.joinWith ['/'] ws, isC0OrSpace c = false ∧ isTabOrNewline c = false := by
    intro c hc
    rcases hmem c hc with h | rfl
    · exact ⟨h.not_stripped, h.not_removed⟩
    · decide
  have hslash : ∀ w ∈ ws, '/' ∉ w := fun w hw h => (hsafe w hw '/' h).ne_slash rfl
  refine ⟨?_, ?_, ?_, ?_, ?_⟩
  · exact trimmed_of_kept hkept
  · intro h
    rcases hmem _ h with hsafe | e
    · exact hsafe.ne_query rfl
    · cases e
  · intro h
    rcases hmem _ h with hsafe | e
    · exact hsafe.ne_fragment rfl
    · cases e
  · intro h
    rcases hmem _ h with hsafe | e
    · exact hsafe.ne_backslash rfl
    · cases e
  · intro w hw
    rw [Text.splitOn_joinWith hne hslash] at hw
    rw [encSegment_of_safe (hsafe w hw)]
    exact hdots w hw

/-- The segment of a component. -/
def component (s : String) : List Char := (encodeURIComponent s).toList

/-- **Components that are no dots come through the parser as they are.** -/
theorem pathState_components {base : List (List Char)} {parts : List String} (hne : parts ≠ [])
    (hbase : ∀ x ∈ base, '\\' ∉ x) (hdots : ∀ s ∈ parts, s ≠ "." ∧ s ≠ "..") :
    (pathState base [] (trimmed (Text.joinWith ['/'] (parts.map component)))).path =
      base ++ parts.map component := by
  have hne' : parts.map component ≠ [] := by simpa using hne
  have hsafe : ∀ w ∈ parts.map component, ∀ c ∈ w, PathSafe c := by
    intro w hw c hc
    obtain ⟨s, _, rfl⟩ := List.mem_map.mp hw
    exact pathSafe_of_component (isComponentChar_of_mem hc)
  have hplain := plainPath_joinWith hne' hsafe fun w hw => by
    obtain ⟨s, hs, rfl⟩ := List.mem_map.mp hw
    exact isDotSegment_encodeURIComponent (hdots s hs)
  have hslash : ∀ w ∈ parts.map component, '/' ∉ w := fun w hw hc => (hsafe w hw '/' hc).ne_slash rfl
  rw [(pathState_trimmed_iff _ _ hbase).mpr hplain, Text.splitOn_joinWith hne' hslash]
  congr 1
  refine (List.map_congr_left fun w hw => ?_).trans (List.map_id _)
  exact encSegment_of_safe (hsafe w hw)

/-! ## 7. Backslashes -/

/-- A safe word is read into the buffer. -/
theorem pathState_word (base : List (List Char)) : ∀ {w : List Char} (buffer s : List Char),
    (∀ c ∈ w, PathSafe c) → pathState base buffer (w ++ s) = pathState base (buffer ++ w) s
  | [], buffer, s, _ => by rw [List.append_nil, List.nil_append]
  | c :: w, buffer, s, hsafe => by
      have hc := hsafe c List.mem_cons_self
      have hw := pathState_word base (buffer ++ [c]) s fun d hd => hsafe d (List.mem_cons_of_mem c hd)
      rw [List.cons_append, pathState, if_neg (by simp [hc.ne_slash, hc.ne_backslash]),
        if_neg hc.ne_query, if_neg hc.ne_fragment, hc.same, hw, List.append_assoc]
      rfl

theorem endSegment_of_plain {slash : Bool} {path : List (List Char)} {buffer : List Char}
    (hdots : isDotSegment buffer = false) : endSegment slash path buffer = path ++ [buffer] := by
  rw [isDotSegment, Bool.or_eq_false_iff] at hdots
  rw [endSegment, hdots.1, hdots.2]
  rfl

/-- **Words between backslashes, and a fragment behind them, are the path of the words.** -/
theorem pathState_words (rest : List Char) : ∀ {ws : List (List Char)} (base : List (List Char)),
    ws ≠ [] → (∀ w ∈ ws, ∀ c ∈ w, PathSafe c) → (∀ w ∈ ws, isDotSegment w = false) →
    pathState base [] (Text.joinWith ['\\'] ws ++ '#' :: rest) =
      ⟨base ++ ws, none, some (fragmentState rest)⟩
  | [], _, hne, _, _ => absurd rfl hne
  | [w], base, _, hsafe, hdots => by
      rw [Text.joinWith, pathState_word base [] _ (hsafe w List.mem_cons_self), pathState,
        if_neg (by decide), if_neg (by decide), if_pos rfl, List.nil_append,
        endSegment_of_plain (hdots w List.mem_cons_self)]
  | w :: w' :: ws, base, _, hsafe, hdots => by
      have hrest := pathState_words rest (base ++ [w]) (List.cons_ne_nil w' ws)
        (fun v hv => hsafe v (List.mem_cons_of_mem w hv))
        fun v hv => hdots v (List.mem_cons_of_mem w hv)
      have hjoin : Text.joinWith ['\\'] (w :: w' :: ws) =
          w ++ ['\\'] ++ Text.joinWith ['\\'] (w' :: ws) := rfl
      rw [hjoin, List.append_assoc, List.append_assoc,
        pathState_word base [] _ (hsafe w List.mem_cons_self), List.singleton_append, pathState,
        if_pos (.inr rfl), List.nil_append, endSegment_of_plain (hdots w List.mem_cons_self), hrest,
        List.append_assoc]
      rfl

end Url
