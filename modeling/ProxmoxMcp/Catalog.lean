/-
  File:      ProxmoxMcp/Catalog.lean
  Subject:   THE CATALOG AS IT IS COMPILED (`schema.ts`): the tree of the schema, the expression made
             of each template path, and the endpoint found for a path.

  A template is compiled by two rounds of replacement: its special characters are escaped, then
  each placeholder, escaped as it now is, becomes a group. Strings are sequences of code units.

  * `regex_template` -- for names without special characters, those replacements make one group of
    each placeholder, in order, and leave the rest literal;
  * `find_iff` -- so `find` finds the first descriptor whose template the path is filled into.
-/
import ProxmoxMcp.Lib.Groups
import ProxmoxMcp.Schema

namespace ProxmoxMcp.Catalog

open Groups
open Js (Value)

variable {α : Type} [DecidableEq α] [CodeUnit α]

/-! ## 1. Placeholders -/

/-- A unit of a template that is no part of a placeholder, or a placeholder. -/
inductive Piece (α : Type) where
  | lit (c : α)
  | param (name : List α)
  deriving DecidableEq

/-- What comes before the first `}`, and after it. -/
def untilClose : List α → Option (List α × List α)
  | [] => none
  | c :: s =>
      if c = unit '\x7d' then some ([], s) else (untilClose s).map fun (name, rest) => (c :: name, rest)

/-- `/\{([^}]+)\}/` at the front: the name, and what follows. -/
def placeholder : List α → Option (List α × List α)
  | [] => none
  | c :: s =>
      if c = unit '\x7b' then
        match untilClose s with
        | some ([], _) => none
        | found => found
      else none

/-- The pieces of a template, as `matchAll` cuts it. -/
def piecesFrom : Nat → List α → List (Piece α)
  | 0, _ => []
  | _ + 1, [] => []
  | fuel + 1, c :: s =>
      match placeholder (c :: s) with
      | some (name, rest) => .param name :: piecesFrom fuel rest
      | none => .lit c :: piecesFrom fuel s

/-- Each piece takes at least one unit. -/
def pieces (template : List α) : List (Piece α) := piecesFrom template.length template

/-- The names of the placeholders. -/
def names : List (Piece α) → List (List α)
  | [] => []
  | .lit _ :: ps => names ps
  | .param name :: ps => name :: names ps

/-- `pathParams` of a template. -/
def pathParams (templatePath : List α) : List (List α) := names (pieces templatePath)

/-- The template with a text in place of each placeholder. -/
def fill (values : List α → List α) : List (Piece α) → List α
  | [] => []
  | .lit c :: ps => c :: fill values ps
  | .param name :: ps => values name ++ fill values ps

/-- `{name}`. -/
def braced (name : List α) : List α := unit '\x7b' :: name ++ [unit '\x7d']

theorem untilClose_eq_some {s name rest : List α} :
    untilClose s = some (name, rest) ↔ s = name ++ unit '\x7d' :: rest ∧ unit '\x7d' ∉ name := by
  induction s generalizing name with
  | nil => simp [untilClose]
  | cons c s ih =>
    rw [untilClose]
    split
    · rename_i hc
      subst hc
      cases name with
      | nil => simp [eq_comm]
      | cons d name => simp_all
    · rename_i hc
      rw [Option.map_eq_some_iff]
      constructor
      · intro hparts
        obtain ⟨⟨name', rest'⟩, h, e⟩ := hparts
        cases e
        obtain ⟨hs, hno⟩ := ih.mp h
        refine ⟨by rw [hs]; rfl, ?_⟩
        rw [List.mem_cons, not_or]
        exact ⟨Ne.symm hc, hno⟩
      · intro hparts
        obtain ⟨hs, hno⟩ := hparts
        cases name with
        | nil =>
          rw [List.nil_append, List.cons.injEq] at hs
          exact absurd hs.1 hc
        | cons d name =>
          rw [List.cons_append, List.cons.injEq] at hs
          rw [List.mem_cons, not_or] at hno
          exact ⟨(name, rest), ih.mpr ⟨hs.2, hno.2⟩, by rw [hs.1]⟩

/-- **A placeholder** is a name in braces, not empty and without a closing one. -/
theorem placeholder_eq_some {s name rest : List α} :
    placeholder s = some (name, rest) ↔
      s = braced name ++ rest ∧ name ≠ [] ∧ unit '\x7d' ∉ name := by
  unfold placeholder braced
  cases s with
  | nil => simp
  | cons c s =>
    have hshape : (c :: s = unit '\x7b' :: name ++ [unit '\x7d'] ++ rest ↔
        c = unit '\x7b' ∧ s = name ++ unit '\x7d' :: rest) := by simp
    rw [hshape]
    by_cases hc : c = unit '\x7b'
    · simp only [hc, if_true, true_and]
      have huntil := @untilClose_eq_some α _ _ s name rest
      split
      · rename_i rest' h
        have hempty := untilClose_eq_some.mp h
        refine iff_of_false nofun fun hname => hname.2.1 ?_
        have h' := huntil.mpr ⟨hname.1, hname.2.2⟩
        rw [h] at h'
        cases h'
        rfl
      · rename_i hne
        rw [huntil]
        constructor
        · intro h
          refine ⟨h.1, fun hnil => ?_, h.2⟩
          rw [hnil] at huntil
          exact hne rest (huntil.mpr ⟨by rw [h.1, hnil], List.not_mem_nil⟩)
        · intro h
          exact ⟨h.1, h.2.2⟩
    · simp [hc]

/-- The template again. -/
def text : List (Piece α) → List α
  | [] => []
  | .lit c :: ps => c :: text ps
  | .param name :: ps => braced name ++ text ps

/-- **What `matchAll` leaves over**: no `{` that is left begins a placeholder, and the names are
    not empty and have no `}`. -/
def Scanned : List (Piece α) → Prop
  | [] => True
  | .lit c :: ps => placeholder (c :: text ps) = none ∧ Scanned ps
  | .param name :: ps => name ≠ [] ∧ unit '\x7d' ∉ name ∧ Scanned ps

theorem text_piecesFrom : ∀ {fuel : Nat} {s : List α}, s.length ≤ fuel →
    text (piecesFrom fuel s) = s ∧ Scanned (piecesFrom fuel s)
  | 0, s, h => by
      rw [List.length_eq_zero_iff.mp (Nat.le_zero.mp h)]
      exact ⟨rfl, trivial⟩
  | fuel + 1, [], _ => ⟨rfl, trivial⟩
  | fuel + 1, c :: s, h => by
      rw [piecesFrom]
      split
      · rename_i name rest hp
        obtain ⟨hs, hne, hno⟩ := placeholder_eq_some.mp hp
        have hlen : rest.length ≤ fuel := by
          have := congrArg List.length hs
          rw [List.length_append, braced, List.length_append, List.length_cons] at this
          rw [List.length_cons] at h this
          simp only [List.length_singleton] at this
          omega
        obtain ⟨htext, hscanned⟩ := text_piecesFrom hlen
        exact ⟨by rw [text, htext, hs], hne, hno, hscanned⟩
      · rename_i hp
        rw [List.length_cons] at h
        obtain ⟨htext, hscanned⟩ := @text_piecesFrom fuel s (by omega)
        refine ⟨by rw [text, htext], ?_, hscanned⟩
        rw [htext]
        exact hp

/-- The pieces make up the template. -/
theorem text_pieces (template : List α) : text (pieces template) = template :=
  (text_piecesFrom (Nat.le_refl _)).1

theorem scanned_pieces (template : List α) : Scanned (pieces template) :=
  (text_piecesFrom (Nat.le_refl _)).2

/-! ## 2. The compiled template -/

/-- `text.replace(/[.+^${}()|[\]\\]/g, "\\$&")`. -/
def escape (s : List α) : List α := s.flatMap fun c => if isMeta c then [unit '\\', c] else [c]

/-- `p${index}`. -/
def groupName (index : Nat) : List α := unit 'p' :: (Nat.toDigits 10 index).map unit

/-- `(?<p0>[^/]+)`. -/
def groupText (index : Nat) : List α := ascii "(?<" ++ groupName index ++ ascii ">[^/]+)"

/-- `\{name\}`. -/
def escapedParam (name : List α) : List α := ascii "\\\x7b" ++ name ++ ascii "\\\x7d"

/-- The rounds of replacement, from the placeholder of this index on. -/
def replaceParams : Nat → List (List α) → List α → List α
  | _, [], pattern => pattern
  | index, name :: params, pattern =>
      replaceParams (index + 1) params
        (replaceFirst (escapedParam name) (groupText index) pattern)

/-- What `pathTemplateToRegex` returns. The expression is `none` where it has another form than
    literals and groups. -/
structure Compiled (α : Type) where
  regex : Option (List (Item α))
  pathParams : List (List α)
  groupNames : List (List α)

/-- `pathTemplateToRegex`. -/
def pathTemplateToRegex (templatePath : List α) : Compiled α :=
  let params := pathParams templatePath
  { regex := parse .plain (replaceParams 0 params (escape templatePath))
    pathParams := params
    groupNames := (List.range params.length).map groupName }

/-- **A plain template**: its names are distinct and have no special character, and the rest of it
    has no `*` and no `?`. -/
structure Plain (templatePath : List α) : Prop where
  distinct : (pathParams templatePath).Nodup
  names_plain : ∀ name ∈ pathParams templatePath, ∀ c ∈ name, isSyntax c = false
  rest_plain : ∀ c, Piece.lit c ∈ pieces templatePath → c ≠ unit '*' ∧ c ≠ unit '?'

/-- `Plain`, as a test. -/
def isPlain (templatePath : List α) : Bool :=
  decide (pathParams templatePath).Nodup &&
    (pathParams templatePath).all (fun name => name.all fun c => !isSyntax c) &&
    (pieces templatePath).all fun
      | .lit c => c ≠ unit '*' ∧ c ≠ unit '?'
      | .param _ => true

theorem isPlain_iff {templatePath : List α} : isPlain templatePath = true ↔ Plain templatePath := by
  simp only [isPlain, Bool.and_eq_true, decide_eq_true_eq, List.all_eq_true, Bool.not_eq_true']
  constructor
  · intro hparts
    obtain ⟨⟨hdistinct, hnames⟩, hrest⟩ := hparts
    refine ⟨hdistinct, hnames, fun c hc => ?_⟩
    have h := hrest (.lit c) hc
    exact of_decide_eq_true h
  · intro h
    refine ⟨⟨h.distinct, h.names_plain⟩, fun p hp => ?_⟩
    cases p with
    | lit c => exact decide_eq_true (h.rest_plain c hp)
    | param name => rfl

instance (templatePath : List α) : Decidable (Plain templatePath) :=
  decidable_of_iff _ isPlain_iff

/-- The pattern in which the first `done` placeholders are groups, from this index on. -/
def patternFrom : Nat → Nat → List (Piece α) → List α
  | _, _, [] => []
  | index, done, .lit c :: ps =>
      (if isMeta c then [unit '\\', c] else [c]) ++ patternFrom index done ps
  | index, 0, .param name :: ps => escapedParam name ++ patternFrom (index + 1) 0 ps
  | index, done + 1, .param _ :: ps => groupText index ++ patternFrom (index + 1) done ps

/-- The items of the pieces. -/
def itemsFrom : Nat → List (Piece α) → List (Item α)
  | _, [] => []
  | index, .lit c :: ps => .lit c :: itemsFrom index ps
  | index, .param _ :: ps => .group (groupName index) :: itemsFrom (index + 1) ps

/-- Text without special characters is escaped as it is. -/
theorem escape_plain {s : List α} (h : ∀ c ∈ s, isMeta c = false) : escape s = s := by
  induction s with
  | nil => rfl
  | cons c s ih =>
    have hc := h c List.mem_cons_self
    have hs := ih fun d hd => h d (List.mem_cons_of_mem _ hd)
    unfold escape at hs ⊢
    rw [List.flatMap_cons, hc, hs]
    rfl

theorem escape_append (s t : List α) : escape (s ++ t) = escape s ++ escape t :=
  List.flatMap_append

theorem escape_braced {name : List α} (h : ∀ c ∈ name, isMeta c = false) :
    escape (braced name) = escapedParam name := by
  have hopen : escape [(unit '\x7b' : α)] = ascii "\\\x7b" := by
    simp only [escape, List.flatMap_singleton, isMeta_unit (α := α) (c := '\x7b') (by decide)]
    rfl
  have hclose : escape [(unit '\x7d' : α)] = ascii "\\\x7d" := by
    simp only [escape, List.flatMap_singleton, isMeta_unit (α := α) (c := '\x7d') (by decide)]
    rfl
  have hshape : braced name = [unit '\x7b'] ++ name ++ [unit '\x7d'] := rfl
  rw [hshape, escape_append, escape_append, escape_plain h, hopen, hclose, escapedParam]

/-- The escaped template has no group yet. -/
theorem escape_text {index : Nat} : ∀ {ps : List (Piece α)},
    (∀ name ∈ names ps, ∀ c ∈ name, isMeta c = false) →
    escape (text ps) = patternFrom index 0 ps := by
  intro ps
  induction ps generalizing index with
  | nil => exact fun _ => rfl
  | cons p ps ih =>
    intro h
    cases p with
    | lit c =>
      have hcons : text (.lit c :: ps) = [c] ++ text ps := rfl
      rw [hcons, escape_append, ih h, patternFrom]
      rw [escape, List.flatMap_singleton]
    | param name =>
      rw [text, escape_append, escape_braced (h name List.mem_cons_self),
        ih fun n hn => h n (List.mem_cons_of_mem _ hn), patternFrom]

/-- A `{` does not begin a pattern: it is escaped. -/
theorem patternFrom_head {index done : Nat} {ps : List (Piece α)} {s : List α} :
    patternFrom index done ps ≠ unit '\x7b' :: s := by
  intro h
  cases ps with
  | nil => cases h
  | cons p ps =>
    cases p with
    | lit c =>
      rw [patternFrom] at h
      split at h
      · exact unit_ne (by decide) (List.cons.inj h).1
      · rename_i hc
        rw [(List.cons.inj h).1, isMeta_unit (by decide)] at hc
        exact hc rfl
    | param name =>
      cases done with
      | zero => exact unit_ne (by decide) (List.cons.inj h).1
      | succ done => exact unit_ne (by decide) (List.cons.inj h).1

/-- **Only a name in braces looks like one once it is escaped.** -/
theorem text_of_pattern {index done : Nat} : ∀ {name : List α} {ps : List (Piece α)},
    (∀ c ∈ name, isMeta c = false) →
    name ++ ascii "\\\x7d" <+: patternFrom index done ps →
    ∃ rest, text ps = name ++ unit '\x7d' :: rest := by
  intro name
  induction name with
  | nil =>
    intro ps _ h
    obtain ⟨rest, h⟩ := h
    cases ps with
    | nil => cases h
    | cons p ps =>
      cases p with
      | lit c =>
        rw [patternFrom] at h
        split at h
        · have hc := (List.cons.inj (List.cons.inj h).2).1
          exact ⟨text ps, by rw [text, ← hc]; rfl⟩
        · rename_i hc
          rw [← (List.cons.inj h).1, isMeta_unit (by decide)] at hc
          exact absurd rfl hc
      | param n =>
        cases done with
        | zero => exact absurd (List.cons.inj (List.cons.inj h).2).1 (unit_ne (by decide))
        | succ done => exact absurd (List.cons.inj h).1 (unit_ne (by decide))
  | cons d name ih =>
    intro ps hplain h
    have hd : isMeta d = false := hplain d List.mem_cons_self
    have hmeta : ∀ {e : Char}, e ∈ ".+^$\x7b\x7d()|[]\\".toList → d ≠ unit e := by
      intro e he heq
      rw [heq, isMeta_unit he] at hd
      cases hd
    obtain ⟨rest, h⟩ := h
    cases ps with
    | nil => cases h
    | cons p ps =>
      cases p with
      | lit c =>
        rw [patternFrom] at h
        split at h
        · exact absurd (List.cons.inj h).1 (hmeta (by decide))
        · obtain ⟨hc, hrest⟩ := List.cons.inj h
          obtain ⟨rest', htext⟩ := ih (fun e he => hplain e (List.mem_cons_of_mem _ he)) ⟨rest, hrest⟩
          exact ⟨rest', by rw [text, htext, ← hc]; rfl⟩
      | param n =>
        cases done with
        | zero => exact absurd (List.cons.inj h).1 (hmeta (by decide))
        | succ done => exact absurd (List.cons.inj h).1 (hmeta (by decide))

theorem scanned_names : ∀ {ps : List (Piece α)}, Scanned ps →
    ∀ name ∈ names ps, name ≠ [] ∧ unit '\x7d' ∉ name
  | [], _, name, h => by cases h
  | .lit _ :: _, hs, name, h => scanned_names hs.2 name h
  | .param n :: ps, hs, name, h => by
      rcases List.mem_cons.mp h with rfl | h
      · exact ⟨hs.1, hs.2.1⟩
      · exact scanned_names hs.2.2 name h

omit [DecidableEq α] in
theorem not_mem_groupName {c : Char} {index : Nat} (hc : c.toNat < 128) (hp : c ≠ 'p')
    (hdigit : c.isDigit = false) : (unit c : α) ∉ groupName index := by
  have hdigits : c ∉ Nat.toDigits 10 index := by
    intro hm
    rw [Nat.isDigit_of_mem_toDigits (by decide) (by decide) hm] at hdigit
    cases hdigit
  have hall : (Nat.toDigits 10 index).all (fun d => decide (d.toNat < 128)) = true := by
    rw [List.all_eq_true]
    intro d hd
    have hdig := Nat.isDigit_of_mem_toDigits (by decide) (by decide) hd
    simp only [Char.isDigit, Bool.and_eq_true, decide_eq_true_eq] at hdig
    have hle : d.toNat ≤ 57 := hdig.2
    exact decide_eq_true (by omega)
  rw [groupName, List.mem_cons, unit_mem_map hc hall]
  exact fun hm => hm.elim (fun he => hp (CodeUnit.unit_inj hc (by decide) he)) hdigits

omit [DecidableEq α] in
/-- There is no `\` in a group. -/
theorem not_mem_groupText {index : Nat} : (unit '\\' : α) ∉ groupText index := by
  unfold groupText ascii
  rw [List.mem_append, List.mem_append, unit_mem_map (by decide) (by decide),
    unit_mem_map (by decide) (by decide)]
  intro hm
  rcases hm with (hm | hm) | hm
  · revert hm
    decide
  · exact not_mem_groupName (by decide) (by decide) (by decide) hm
  · revert hm
    decide

/-- **One round of replacement makes a group of the next placeholder.** -/
theorem replaceFirst_patternFrom {name : List α} : ∀ {ps : List (Piece α)} {index done : Nat},
    Scanned ps → (∀ n ∈ names ps, ∀ c ∈ n, isMeta c = false) → (names ps)[done]? = some name →
    replaceFirst (escapedParam name) (groupText (index + done)) (patternFrom index done ps) =
      patternFrom index (done + 1) ps := by
  intro ps
  induction ps with
  | nil =>
    intro index done _ _ h
    cases h
  | cons p ps ih =>
    intro index done hscanned hplain h
    have hneedle : ∀ n : List α, escapedParam n =
        unit '\\' :: (unit '\x7b' :: (n ++ ascii "\\\x7d")) := fun n => rfl
    cases p with
    | lit c =>
      have ih := @ih index done hscanned.2 hplain h
      have hmem : name ∈ names ps := List.mem_of_getElem? h
      -- no placeholder begins here, so neither does its escaped form
      have hno : ¬ escapedParam name <+: unit '\\' :: c :: patternFrom index done ps := by
        intro hp
        rw [hneedle, List.cons_prefix_cons, List.cons_prefix_cons] at hp
        obtain ⟨_, hc, hp⟩ := hp
        obtain ⟨rest, htext⟩ := text_of_pattern (hplain name hmem) hp
        have hnone := hscanned.1
        have hsome : placeholder (c :: text ps) = some (name, rest) := by
          obtain ⟨hne, hclose⟩ := scanned_names hscanned.2 name hmem
          refine placeholder_eq_some.mpr ⟨?_, hne, hclose⟩
          rw [htext, ← hc, braced]
          simp
        rw [hnone] at hsome
        cases hsome
      rw [patternFrom, patternFrom]
      split
      · have hsecond : ¬ escapedParam name <+: c :: patternFrom index done ps := by
          intro hp
          rw [hneedle, List.cons_prefix_cons] at hp
          obtain ⟨rest, hp⟩ := hp.2
          exact patternFrom_head hp.symm
        rw [List.cons_append, List.cons_append, List.nil_append, replaceFirst_cons hno,
          replaceFirst_cons hsecond, ih]
        rfl
      · rename_i hc
        have hfirst : ¬ escapedParam name <+: c :: patternFrom index done ps := by
          intro hp
          rw [hneedle, List.cons_prefix_cons] at hp
          rw [← hp.1, isMeta_unit (by decide)] at hc
          exact hc rfl
        rw [List.cons_append, List.nil_append, replaceFirst_cons hfirst, ih]
        rfl
    | param n =>
      cases done with
      | zero =>
        have hn : n = name := by simpa [names] using h
        rw [patternFrom, patternFrom, hn, replaceFirst_front (by rw [hneedle]; exact nofun)]
        rfl
      | succ done =>
        have hnext : (names ps)[done]? = some name := by simpa [names] using h
        have ih := @ih (index + 1) done hscanned.2.2
          (fun m hm => hplain m (List.mem_cons_of_mem _ hm)) hnext
        have hskip : (unit '\\' : α) ∉ groupText index := not_mem_groupText
        rw [patternFrom, patternFrom, hneedle, replaceFirst_skip hskip, ← hneedle]
        rw [show index + (done + 1) = index + 1 + done by omega, ih]

/-- **The rounds of replacement make groups of all placeholders.** -/
theorem replaceParams_patternFrom {ps : List (Piece α)} (hscanned : Scanned ps)
    (hplain : ∀ n ∈ names ps, ∀ c ∈ n, isMeta c = false) : ∀ {rest done : List (List α)},
    names ps = done ++ rest →
    replaceParams done.length rest (patternFrom 0 done.length ps) =
      patternFrom 0 (names ps).length ps := by
  intro rest
  induction rest with
  | nil =>
    intro done h
    rw [h, List.append_nil, replaceParams]
  | cons name rest ih =>
    intro done h
    have hnext : (names ps)[done.length]? = some name := by
      rw [h, List.getElem?_append_right (Nat.le_refl _), Nat.sub_self]
      rfl
    have hstep : replaceFirst (escapedParam name) (groupText (0 + done.length))
        (patternFrom 0 done.length ps) = patternFrom 0 (done.length + 1) ps :=
      replaceFirst_patternFrom hscanned hplain hnext
    have hrest := @ih (done ++ [name]) (by rw [h]; simp)
    rw [List.length_append, List.length_singleton] at hrest
    rw [Nat.zero_add] at hstep
    rw [replaceParams, hstep, hrest]

/-- The pattern is read as the items of the pieces. -/
theorem parse_patternFrom : ∀ {ps : List (Piece α)} {index : Nat},
    (∀ c, Piece.lit c ∈ ps → c ≠ unit '*' ∧ c ≠ unit '?') →
    parse .plain (patternFrom index (names ps).length ps) = some (itemsFrom index ps) := by
  intro ps
  induction ps with
  | nil => exact fun _ => rfl
  | cons p ps ih =>
    intro index h
    have hrest := fun c hc => h c (List.mem_cons_of_mem _ hc)
    cases p with
    | lit c =>
      have hlit := h c List.mem_cons_self
      rw [patternFrom, names, itemsFrom]
      split
      · rename_i hc
        have hsyntax : isSyntax c = true := by simp [isSyntax, hc]
        rw [List.cons_append, List.cons_append, List.nil_append, parse, if_pos rfl, parse,
          if_pos hsyntax, ih hrest]
        rfl
      · rename_i hc
        have hne : ∀ {d : Char}, d ∈ ".+^$\x7b\x7d()|[]\\".toList → c ≠ unit d := by
          intro d hd e
          rw [e, isMeta_unit hd] at hc
          exact hc rfl
        have hsyntax : ¬ isSyntax c = true := by simp [isSyntax, hc, hlit.1, hlit.2]
        rw [List.cons_append, List.nil_append, parse, if_neg (hne (by decide)),
          if_neg (hne (by decide)), if_neg hsyntax, ih hrest]
        rfl
    | param n =>
      have hclose : (unit ')' : α) ∉ groupName index :=
        not_mem_groupName (by decide) (by decide) (by decide)
      rw [names, List.length_cons, patternFrom, groupText, parse_groupText hclose, ih hrest]
      rfl

/-- **The expression of a plain template** has a group for each placeholder, in order, and is
    literal elsewhere. -/
theorem regex_template {templatePath : List α} (h : Plain templatePath) :
    (pathTemplateToRegex templatePath).regex = some (itemsFrom 0 (pieces templatePath)) := by
  have hplain : ∀ n ∈ names (pieces templatePath), ∀ c ∈ n, isMeta c = false := by
    intro n hn c hc
    have hsyntax := h.names_plain n hn c hc
    simp only [isSyntax, Bool.or_eq_false_iff] at hsyntax
    exact hsyntax.1.1
  have hescape : escape templatePath = patternFrom 0 0 (pieces templatePath) := by
    have htext : escape (text (pieces templatePath)) = patternFrom 0 0 (pieces templatePath) :=
      escape_text hplain
    rwa [text_pieces] at htext
  have hrounds : replaceParams ([] : List (List α)).length (names (pieces templatePath))
      (patternFrom 0 ([] : List (List α)).length (pieces templatePath)) =
        patternFrom 0 (names (pieces templatePath)).length (pieces templatePath) :=
    replaceParams_patternFrom (scanned_pieces templatePath) hplain rfl
  rw [List.length_nil] at hrounds
  rw [pathTemplateToRegex]
  simp only [pathParams, hescape, hrounds]
  exact parse_patternFrom h.rest_plain

/-! ## 3. The catalog -/

/-- `RawMethodInfo`, as far as it is read. -/
structure RawMethodInfo (α : Type) where
  properties : List (List α × SchemaProperty) := []
  additionalProperties : Bool := true

/-- `RawNode`: a node of the schema, its path and methods where it has them, and its children. -/
inductive RawNode (α : Type) where
  | node (path : Option (List α)) (info : Option (List (String × RawMethodInfo α)))
      (children : List (RawNode α))

/-- `ApiMethodDescriptor`. -/
structure ApiMethodDescriptor (α : Type) where
  method : String
  templatePath : List α
  compiled : Compiled α
  info : RawMethodInfo α

/-- The descriptors of one node. -/
def nodeDescriptors (path : Option (List α)) (info : Option (List (String × RawMethodInfo α))) :
    List (ApiMethodDescriptor α) :=
  match path, info with
  | some path, some info =>
      if path = [] then []
      else info.map fun (method, info) =>
        { method := method
          templatePath := path
          compiled := pathTemplateToRegex path
          info := info }
  | _, _ => []

mutual

/-- One step of `walk`: a node, then its children. -/
def walkNode : RawNode α → List (ApiMethodDescriptor α)
  | .node path info children => nodeDescriptors path info ++ walk children

/-- `walk`. -/
def walk : List (RawNode α) → List (ApiMethodDescriptor α)
  | [] => []
  | n :: nodes => walkNode n ++ walk nodes

end

mutual

theorem compiled_walkNode : ∀ {n : RawNode α} {d : ApiMethodDescriptor α}, d ∈ walkNode n →
    d.compiled = pathTemplateToRegex d.templatePath
  | .node path info children, d, h => by
      rw [walkNode, List.mem_append] at h
      rcases h with h | h
      · unfold nodeDescriptors at h
        split at h
        · split at h
          · cases h
          · obtain ⟨_, _, rfl⟩ := List.mem_map.mp h
            rfl
        · cases h
      · exact compiled_walk h

/-- Every descriptor holds what its template compiles to. -/
theorem compiled_walk : ∀ {nodes : List (RawNode α)} {d : ApiMethodDescriptor α}, d ∈ walk nodes →
    d.compiled = pathTemplateToRegex d.templatePath
  | [], _, h => by cases h
  | n :: nodes, d, h => by
      rw [walk, List.mem_append] at h
      rcases h with h | h
      · exact compiled_walkNode h
      · exact compiled_walk h

end

/-- `ApiMatch`. -/
structure ApiMatch (α : Type) where
  descriptor : ApiMethodDescriptor α
  pathParams : List (List α × List α)
  args : List (List α × Value)

/-- `match.groups?.[name] ?? ""`. -/
def groupValue (groups : List (List α × List α)) (name : List α) : List α :=
  match groups.find? fun g => g.1 = name with
  | some g => g.2
  | none => []

/-- `o[name] = value`. -/
def setEntry (name value : List α) : List (List α × List α) → List (List α × List α)
  | [] => [(name, value)]
  | e :: es => if e.1 = name then (name, value) :: es else e :: setEntry name value es

/-- `Object.fromEntries(entries)`, as the names and their values. -/
def fromEntries (entries : List (List α × List α)) : List (List α × List α) :=
  entries.foldl (fun o e => setEntry e.1 e.2 o) []

/-- The body of the loop of `find`, for a descriptor of the method. -/
def matchDescriptor (d : ApiMethodDescriptor α) (actualPath : List α) : Option (ApiMatch α) :=
  (d.compiled.regex.bind fun items => exec items actualPath).map fun groups =>
    { descriptor := d
      pathParams := fromEntries (d.compiled.pathParams.zipIdx.map fun (name, index) =>
        (name, groupValue groups (d.compiled.groupNames[index]?.getD [])))
      args := (d.info.properties.filter fun p => p.1 ∉ d.compiled.pathParams).map fun p =>
        (p.1, .undefined) }

/-- The failure of `find`: ``No Proxmox API endpoint matches ${method} ${path}``. -/
structure NoEndpoint (α : Type) where
  method : String
  path : List α

variable [Text.Unicode]

/-- `find`. -/
def find (descriptors : List (ApiMethodDescriptor α)) (method : String) (actualPath : List α) :
    Except (NoEndpoint α) (ApiMatch α) :=
  let normalizedMethod := Text.toUpperCase method
  match descriptors.findSome? fun d =>
      if d.method = normalizedMethod then matchDescriptor d actualPath else none with
  | some m => .ok m
  | none => .error ⟨normalizedMethod, actualPath⟩

/-! ## 4. The endpoint of a path -/

/-- **The path is filled into the template**: a text without `/` stands in place of each
    placeholder, and none is empty. -/
def Filled (templatePath actualPath : List α) : Prop :=
  ∃ values : List α → List α,
    (∀ name ∈ pathParams templatePath, values name ≠ [] ∧ unit '/' ∉ values name) ∧
    actualPath = fill values (pieces templatePath)

/-- **The path parameters, substituted back into the template.** -/
def substitute (templatePath : List α) (params : List (List α × List α)) : List α :=
  fill (groupValue params) (pieces templatePath)

omit [DecidableEq α] [Text.Unicode] in
/-- What the items of a template spell is the template, filled with the values of the groups. -/
theorem spells_items : ∀ {ps : List (Piece α)} {index : Nat} {s : List α}
    {groups : List (List α × List α)}, Spells (itemsFrom index ps) s groups →
    groups.map Prod.fst = (List.range' index (names ps).length).map groupName ∧
      (∀ g ∈ groups, g.2 ≠ [] ∧ unit '/' ∉ g.2) ∧
      ∀ values : List α → List α, (names ps).map values = groups.map Prod.snd → fill values ps = s
  | [], _, _, _, h => by
      cases h
      exact ⟨rfl, fun _ hg => absurd hg List.not_mem_nil, fun _ _ => rfl⟩
  | .lit c :: ps, index, _, groups, h => by
      cases h with
      | lit h =>
        obtain ⟨hfst, hval, hfill⟩ := spells_items h
        exact ⟨hfst, hval, fun values hv => by rw [fill, hfill values hv]⟩
  | .param name :: ps, index, _, _, h => by
      cases h with
      | group hne hslash h =>
        obtain ⟨hfst, hval, hfill⟩ := spells_items h
        refine ⟨?_, ?_, ?_⟩
        · rw [List.map_cons, hfst, names, List.length_cons, List.range'_succ, List.map_cons]
        · intro g hg
          rcases List.mem_cons.mp hg with rfl | hg
          · exact ⟨hne, hslash⟩
          · exact hval g hg
        · intro values hv
          rw [names, List.map_cons, List.map_cons, List.cons.injEq] at hv
          rw [fill, hv.1, hfill values hv.2]

omit [DecidableEq α] [Text.Unicode] in
/-- A filled template is spelled by its items. -/
theorem spells_fill {values : List α → List α} : ∀ {ps : List (Piece α)} {index : Nat},
    (∀ name ∈ names ps, values name ≠ [] ∧ unit '/' ∉ values name) →
    ∃ groups, Spells (itemsFrom index ps) (fill values ps) groups
  | [], _, _ => ⟨[], .nil⟩
  | .lit c :: ps, index, h => by
      obtain ⟨groups, hs⟩ := @spells_fill values ps index h
      exact ⟨groups, .lit hs⟩
  | .param name :: ps, index, h => by
      obtain ⟨groups, hs⟩ := @spells_fill values ps (index + 1)
        fun n hn => h n (List.mem_cons_of_mem _ hn)
      obtain ⟨hne, hslash⟩ := h name List.mem_cons_self
      exact ⟨_, .group hne hslash hs⟩

omit [CodeUnit α] [Text.Unicode] in
theorem groupValue_of_mem {g : List α × List α} : ∀ {groups : List (List α × List α)},
    (groups.map Prod.fst).Nodup → g ∈ groups → groupValue groups g.1 = g.2
  | [], _, h => by cases h
  | e :: groups, hd, h => by
      rw [groupValue, List.find?_cons]
      rcases List.mem_cons.mp h with rfl | h
      · simp
      · have hne : e.1 ≠ g.1 := by
          intro he
          exact (List.nodup_cons.mp hd).1 (he ▸ List.mem_map_of_mem h)
        have ih := groupValue_of_mem (List.nodup_cons.mp hd).2 h
        rw [groupValue] at ih
        simpa [hne] using ih

omit [CodeUnit α] [Text.Unicode] in
/-- Values looked up under distinct names come in the order of the names. -/
theorem map_groupValue {groups : List (List α × List α)} (h : (groups.map Prod.fst).Nodup) :
    (groups.map Prod.fst).map (groupValue groups) = groups.map Prod.snd := by
  rw [List.map_map]
  exact List.map_congr_left fun g hg => groupValue_of_mem h hg

omit [CodeUnit α] [Text.Unicode] in
theorem setEntry_new {name value : List α} : ∀ {es : List (List α × List α)},
    name ∉ es.map Prod.fst → setEntry name value es = es ++ [(name, value)]
  | [], _ => rfl
  | e :: es, h => by
      rw [List.map_cons, List.mem_cons, not_or] at h
      rw [setEntry, if_neg (Ne.symm h.1), setEntry_new h.2, List.cons_append]

omit [CodeUnit α] [Text.Unicode] in
/-- Entries of distinct names are an object as they are. -/
theorem fromEntries_distinct {es : List (List α × List α)} (h : (es.map Prod.fst).Nodup) :
    fromEntries es = es := by
  have hgen : ∀ {es front : List (List α × List α)}, ((front ++ es).map Prod.fst).Nodup →
      es.foldl (fun o e => setEntry e.1 e.2 o) front = front ++ es := by
    intro es
    induction es with
    | nil => exact fun _ => (List.append_nil _).symm
    | cons e es ih =>
      intro front hd
      have hnew : e.1 ∉ front.map Prod.fst := by
        intro hm
        rw [List.map_append] at hd
        exact (List.nodup_append.mp hd).2.2 e.1 hm e.1 List.mem_cons_self rfl
      have hrest := @ih (front ++ [e]) (by rwa [List.append_assoc])
      rw [List.foldl_cons, setEntry_new hnew, hrest, List.append_assoc]
      rfl
  exact @hgen es [] h

omit [DecidableEq α] [Text.Unicode] in
/-- Groups of different indices have different names. -/
theorem groupName_inj {i j : Nat} (h : (groupName i : List α) = groupName j) : i = j := by
  have hdigits : ∀ {n : Nat} {d : Char}, d ∈ Nat.toDigits 10 n → d.toNat < 128 := by
    intro n d hd
    have hdig := Nat.isDigit_of_mem_toDigits (by decide) (by decide) hd
    simp only [Char.isDigit, Bool.and_eq_true, decide_eq_true_eq] at hdig
    have hle : d.toNat ≤ 57 := hdig.2
    omega
  have hmap : ∀ {s t : List Char}, (∀ d ∈ s, d.toNat < 128) → (∀ d ∈ t, d.toNat < 128) →
      s.map (unit : Char → α) = t.map unit → s = t := by
    intro s
    induction s with
    | nil =>
      intro t _ _ he
      exact (List.map_eq_nil_iff.mp he.symm).symm
    | cons c s ih =>
      intro t hs ht he
      cases t with
      | nil => cases he
      | cons d t =>
        rw [List.map_cons, List.map_cons, List.cons.injEq] at he
        rw [CodeUnit.unit_inj (hs c List.mem_cons_self) (ht d List.mem_cons_self) he.1,
          ih (fun e hm => hs e (List.mem_cons_of_mem _ hm))
            (fun e hm => ht e (List.mem_cons_of_mem _ hm)) he.2]
  have heq := hmap (fun _ => hdigits) (fun _ => hdigits) (List.cons.inj h).2
  have hback := congrArg (fun s => Nat.ofDigitChars 10 s 0) heq
  rwa [Nat.ofDigitChars_ten_toDigits, Nat.ofDigitChars_ten_toDigits] at hback

omit [Text.Unicode] in
/-- **The path parameters of a match** are the names of the template with the values of the
    groups. -/
theorem params_of_groups {templatePath : List α} {s : List α} {groups : List (List α × List α)}
    (hplain : Plain templatePath) (h : Spells (itemsFrom 0 (pieces templatePath)) s groups) :
    fromEntries ((pathTemplateToRegex templatePath).pathParams.zipIdx.map fun (name, index) =>
        (name, groupValue groups ((pathTemplateToRegex templatePath).groupNames[index]?.getD []))) =
      (pathParams templatePath).zip (groups.map Prod.snd) := by
  obtain ⟨hfst, _, _⟩ := spells_items h
  have hlen : groups.length = (pathParams templatePath).length := by
    have := congrArg List.length hfst
    simpa [pathParams] using this
  have hnodup : (groups.map Prod.fst).Nodup := by
    rw [hfst]
    exact List.Nodup.map (fun _ _ => groupName_inj) List.nodup_range'
  have hentries : ((pathTemplateToRegex templatePath).pathParams.zipIdx.map fun (name, index) =>
        (name, groupValue groups ((pathTemplateToRegex templatePath).groupNames[index]?.getD []))) =
      (pathParams templatePath).zip (groups.map Prod.snd) := by
    refine List.ext_getElem ?_ fun i hi hi' => ?_
    · simp [pathTemplateToRegex, hlen]
    · have hparam : i < (pathParams templatePath).length := by simpa [pathTemplateToRegex] using hi
      have hgroup : i < groups.length := by rwa [hlen]
      have hname : groups[i].1 = groupName i := by
        have hrange : i < (names (pieces templatePath)).length := hparam
        have hget := congrArg (fun l : List (List α) => l[i]?) hfst
        rw [List.getElem?_map, List.getElem?_eq_getElem hgroup, List.getElem?_map,
          List.getElem?_range' hrange, Option.map_some, Option.map_some] at hget
        simpa using hget
      have hvalue := groupValue_of_mem hnodup (List.getElem_mem hgroup)
      rw [hname] at hvalue
      simp only [pathTemplateToRegex, List.getElem_map, List.getElem_zipIdx, List.getElem_zip,
        Nat.zero_add, List.getElem?_map, List.getElem?_range hparam, Option.map_some,
        Option.getD_some, hvalue]
  rw [hentries]
  refine fromEntries_distinct ?_
  rw [List.map_fst_zip (by simp [hlen])]
  exact hplain.distinct

omit [Text.Unicode] in
/-- **A descriptor matches a path** with the values of the placeholders as its parameters. -/
theorem matchDescriptor_eq_some {d : ApiMethodDescriptor α} {actualPath : List α} {m : ApiMatch α}
    (hcompiled : d.compiled = pathTemplateToRegex d.templatePath) (hplain : Plain d.templatePath)
    (h : matchDescriptor d actualPath = some m) :
    m.descriptor = d ∧ Filled d.templatePath actualPath ∧
      substitute d.templatePath m.pathParams = actualPath := by
  unfold matchDescriptor at h
  rw [hcompiled, regex_template hplain, Option.bind_some, Option.map_eq_some_iff] at h
  obtain ⟨groups, hexec, rfl⟩ := h
  have hspells := exec_sound hexec
  obtain ⟨hfst, hvalues, hfill⟩ := spells_items hspells
  have hparams := params_of_groups hplain hspells
  have hlen : (pathParams d.templatePath).length = (groups.map Prod.snd).length := by
    have := congrArg List.length hfst
    simpa [pathParams] using this.symm
  have hnames : ((pathParams d.templatePath).zip (groups.map Prod.snd)).map Prod.fst =
      pathParams d.templatePath := List.map_fst_zip (le_of_eq hlen)
  have hsnd : (pathParams d.templatePath).map
      (groupValue ((pathParams d.templatePath).zip (groups.map Prod.snd))) =
      groups.map Prod.snd := by
    have hdistinct : (((pathParams d.templatePath).zip (groups.map Prod.snd)).map
        Prod.fst).Nodup := by
      rw [hnames]
      exact hplain.distinct
    have hmap := map_groupValue hdistinct
    rwa [hnames, List.map_snd_zip (le_of_eq hlen.symm)] at hmap
  refine ⟨rfl, ⟨groupValue ((pathParams d.templatePath).zip (groups.map Prod.snd)), ?_, ?_⟩, ?_⟩
  · intro name hname
    have hmem := List.mem_map_of_mem
      (f := groupValue ((pathParams d.templatePath).zip (groups.map Prod.snd))) hname
    rw [hsnd] at hmem
    obtain ⟨g, hg, he⟩ := List.mem_map.mp hmem
    rw [← he]
    exact hvalues g hg
  · exact (hfill _ hsnd).symm
  · rw [substitute]
    simp only [hparams]
    exact hfill _ hsnd

omit [Text.Unicode] in
/-- **A path that is filled into the template is matched.** -/
theorem matchDescriptor_isSome {d : ApiMethodDescriptor α} {actualPath : List α}
    (hcompiled : d.compiled = pathTemplateToRegex d.templatePath) (hplain : Plain d.templatePath)
    (h : Filled d.templatePath actualPath) : (matchDescriptor d actualPath).isSome = true := by
  obtain ⟨values, hvalues, rfl⟩ := h
  obtain ⟨groups, hspells⟩ : ∃ groups, Spells (itemsFrom 0 (pieces d.templatePath))
      (fill values (pieces d.templatePath)) groups := spells_fill hvalues
  rw [matchDescriptor, hcompiled, regex_template hplain, Option.isSome_map, Option.bind_some]
  exact exec_complete hspells

/-- **`find` finds the first descriptor of the method whose template the path is filled into**, and
    the path parameters give the path back. -/
theorem find_iff (roots : List (RawNode α)) (method : String) (actualPath : List α)
    (hplain : ∀ d ∈ walk roots, Plain d.templatePath) :
    ((∃ m, find (walk roots) method actualPath = .ok m) ↔
      ∃ d ∈ walk roots, d.method = Text.toUpperCase method ∧ Filled d.templatePath actualPath) ∧
    ∀ m, find (walk roots) method actualPath = .ok m →
      m.descriptor.method = Text.toUpperCase method ∧
      Filled m.descriptor.templatePath actualPath ∧
      (∃ before after, walk roots = before ++ m.descriptor :: after ∧
        ∀ d ∈ before, ¬ (d.method = Text.toUpperCase method ∧ Filled d.templatePath actualPath)) ∧
      substitute m.descriptor.templatePath m.pathParams = actualPath := by
  have hnone : ∀ d ∈ walk roots, (if d.method = Text.toUpperCase method then
      matchDescriptor d actualPath else none) = none →
      ¬ (d.method = Text.toUpperCase method ∧ Filled d.templatePath actualPath) := by
    intro d hd hno hparts
    obtain ⟨hmethod, hfilled⟩ := hparts
    rw [if_pos hmethod] at hno
    have hsome := matchDescriptor_isSome (compiled_walk hd) (hplain d hd) hfilled
    rw [hno] at hsome
    cases hsome
  have hfound : ∀ {m}, find (walk roots) method actualPath = .ok m →
      m.descriptor.method = Text.toUpperCase method ∧
      Filled m.descriptor.templatePath actualPath ∧
      (∃ before after, walk roots = before ++ m.descriptor :: after ∧
        ∀ d ∈ before, ¬ (d.method = Text.toUpperCase method ∧ Filled d.templatePath actualPath)) ∧
      substitute m.descriptor.templatePath m.pathParams = actualPath := by
    intro m h
    simp only [find] at h
    split at h
    · rename_i m' hf
      cases h
      obtain ⟨before, d, after, hwalk, hm, hbefore⟩ := List.findSome?_eq_some_iff.mp hf
      have hd : d ∈ walk roots := by rw [hwalk]; simp
      split at hm
      · rename_i hmethod
        obtain ⟨rfl, hfilled, hsub⟩ := matchDescriptor_eq_some (compiled_walk hd) (hplain d hd) hm
        refine ⟨hmethod, hfilled, ⟨before, after, hwalk, fun e he => ?_⟩, hsub⟩
        exact hnone e (by rw [hwalk]; exact List.mem_append_left _ he) (hbefore e he)
      · cases hm
    · cases h
  refine ⟨⟨?_, ?_⟩, fun m => hfound⟩
  · intro hparts
    obtain ⟨m, h⟩ := hparts
    obtain ⟨hmethod, hfilled, ⟨before, after, hwalk, _⟩, _⟩ := hfound h
    exact ⟨m.descriptor, by rw [hwalk]; simp, hmethod, hfilled⟩
  · intro hparts
    obtain ⟨d, hd, hmatch⟩ := hparts
    simp only [find]
    split
    · exact ⟨_, rfl⟩
    · rename_i hf
      exact absurd hmatch (hnone d hd (List.findSome?_eq_none_iff.mp hf d hd))

/-- A node of the schema with a path parameter, and one below it with another. -/
def qemuTree : List (RawNode UInt16) :=
  [.node (some (ascii "/nodes/\x7bnode\x7d")) (some [("GET", {})])
    [.node none none
      [.node (some (ascii "/nodes/\x7bnode\x7d/qemu/\x7bvmid\x7d")) (some [("GET", {}), ("DELETE", {})])
        []]]]

omit [Text.Unicode] in
/-- The path of a guest. -/
theorem find_iff_qemu :
    letI := Text.asciiCase
    ∃ m, find (walk qemuTree) "get" (ascii "/nodes/pve/qemu/100") = .ok m ∧
      substitute m.descriptor.templatePath m.pathParams = ascii "/nodes/pve/qemu/100" := by
  let := Text.asciiCase
  have hplain : ∀ d ∈ walk qemuTree, Plain d.templatePath := by
    intro d hd
    have hall : (walk qemuTree).all (fun d => isPlain d.templatePath) = true := by decide +kernel
    exact isPlain_iff.mp (List.all_eq_true.mp hall d hd)
  have hfind := find_iff qemuTree "get" (ascii "/nodes/pve/qemu/100") hplain
  have hsome : ∃ m, find (walk qemuTree) "get" (ascii "/nodes/pve/qemu/100") = .ok m := by
    refine hfind.1.mpr ⟨_, List.mem_cons_of_mem _ List.mem_cons_self, by decide +kernel,
      fun name => if name = ascii "node" then ascii "pve" else ascii "100", ?_, ?_⟩
    · decide +kernel
    · decide +kernel
  obtain ⟨m, hm⟩ := hsome
  exact ⟨m, hm, (hfind.2 m hm).2.2.2⟩

end ProxmoxMcp.Catalog
