/-
  File:      ProxmoxMcp/Lib/Groups.lean
  Subject:   EXPRESSIONS OF LITERALS AND NAMED GROUPS `(?<name>[^/]+)` between `^` and `$`, over any
             alphabet of code units. Nothing here names the repository.

  A string of the language is a sequence of code units, and its expressions match unit by unit; what
  they say about syntax concerns ASCII alone. So the alphabet is a parameter.

  * `replaceFirst_skip` -- what `text.replace(needle, …)` passes over;
  * `exec_sound`, `exec_complete` -- backtracking finds a match exactly if there is one.
-/
import Mathlib

namespace Groups

/-! ## 1. Code units -/

/-- An alphabet with a unit for each ASCII character. -/
class CodeUnit (α : Type) where
  unit : Char → α
  unit_inj : ∀ {c d : Char}, c.toNat < 128 → d.toNat < 128 → unit c = unit d → c = d

export CodeUnit (unit)

/-- The characters themselves. -/
instance : CodeUnit Char := ⟨id, fun _ _ h => h⟩

/-- UTF-16. -/
instance : CodeUnit UInt16 where
  unit c := c.toNat.toUInt16
  unit_inj := by
    intro c d hc hd h
    have hnat := congrArg UInt16.toNat h
    rw [Nat.toUInt16_eq, Nat.toUInt16_eq, UInt16.toNat_ofNat', UInt16.toNat_ofNat',
      Nat.mod_eq_of_lt (by omega), Nat.mod_eq_of_lt (by omega)] at hnat
    exact Char.toNat_inj.mp hnat

variable {α : Type} [DecidableEq α] [CodeUnit α]

/-- A text of ASCII characters. -/
def ascii (s : String) : List α := s.toList.map unit

omit [DecidableEq α] in
theorem unit_ne {c d : Char} (h : c.toNat < 128 ∧ d.toNat < 128 ∧ c ≠ d) :
    (unit c : α) ≠ unit d := fun e => h.2.2 (CodeUnit.unit_inj h.1 h.2.1 e)

/-! ## 2. Replacement -/

/-- `text.replace(needle, replacement)`, for a replacement without `$`. -/
def replaceFirst (needle replacement : List α) : List α → List α
  | [] => if needle = [] then replacement else []
  | c :: s =>
      match needle.isPrefixOf? (c :: s) with
      | some rest => replacement ++ rest
      | none => c :: replaceFirst needle replacement s

omit [CodeUnit α] in
theorem isPrefixOf?_eq_some {needle s rest : List α} :
    needle.isPrefixOf? s = some rest ↔ s = needle ++ rest := by
  induction needle generalizing s with
  | nil => simp [List.isPrefixOf?, eq_comm]
  | cons c needle ih =>
    cases s with
    | nil => simp [List.isPrefixOf?]
    | cons d s =>
      rw [List.isPrefixOf?]
      by_cases h : c = d
      · simp [h, ih]
      · simp [h, Ne.symm h]

omit [CodeUnit α] in
/-- The needle in front is replaced. -/
theorem replaceFirst_front {needle replacement rest : List α} (h : needle ≠ []) :
    replaceFirst needle replacement (needle ++ rest) = replacement ++ rest := by
  have hp : needle.isPrefixOf? (needle ++ rest) = some rest := isPrefixOf?_eq_some.mpr rfl
  cases needle with
  | nil => exact absurd rfl h
  | cons c needle =>
    rw [List.cons_append] at hp ⊢
    rw [replaceFirst, hp]

omit [CodeUnit α] in
/-- A unit that does not begin the needle is passed over. -/
theorem replaceFirst_cons {needle replacement : List α} {c : α} {s : List α}
    (h : ¬ needle <+: c :: s) :
    replaceFirst needle replacement (c :: s) = c :: replaceFirst needle replacement s := by
  rw [replaceFirst]
  split
  · rename_i rest hp
    exact absurd ⟨rest, (isPrefixOf?_eq_some.mp hp).symm⟩ h
  · rfl

omit [CodeUnit α] in
/-- **A text without the first unit of the needle is passed over.** -/
theorem replaceFirst_skip {d : α} {needle replacement rest : List α} :
    ∀ {w : List α}, d ∉ w →
    replaceFirst (d :: needle) replacement (w ++ rest) =
      w ++ replaceFirst (d :: needle) replacement rest
  | [], _ => rfl
  | c :: w, h => by
      have hc : ¬ d :: needle <+: c :: (w ++ rest) := by
        intro hp
        exact h ((List.cons_prefix_cons.mp hp).1 ▸ List.mem_cons_self)
      rw [List.cons_append, replaceFirst_cons hc,
        replaceFirst_skip fun hm => h (List.mem_cons_of_mem _ hm), List.cons_append]

/-! ## 3. Expressions -/

/-- One item of an expression: a unit to match, or a group `(?<name>[^/]+)`. -/
inductive Item (α : Type) where
  | lit (c : α)
  | group (name : List α)
  deriving DecidableEq

/-- The characters of the class that escapes them. -/
def isMeta (c : α) : Bool := (ascii ".+^$\x7b\x7d()|[]\\").contains c

/-- The characters with a meaning of their own. -/
def isSyntax (c : α) : Bool := isMeta c || c = unit '*' || c = unit '?'

/-- Where the reader of an expression stands: between items, behind a `\`, or in parentheses. -/
inductive Reading (α : Type) where
  | plain
  | escaped
  | group (text : List α)

/-- The name in the parentheses. -/
def groupOf (text : List α) : Option (List α) :=
  ((ascii "?<").isPrefixOf? text).bind fun rest => (ascii ">[^/]+").isSuffixOf? rest

/-- The items of an expression; `none` for one of another form. -/
def parse : Reading α → List α → Option (List (Item α))
  | .plain, [] => some []
  | .plain, c :: s =>
      if c = unit '\\' then parse .escaped s
      else if c = unit '(' then parse (.group []) s
      else if isSyntax c then none
      else (parse .plain s).map (.lit c :: ·)
  | .escaped, [] => none
  | .escaped, c :: s => if isSyntax c then (parse .plain s).map (.lit c :: ·) else none
  | .group _, [] => none
  | .group text, c :: s =>
      if c = unit ')' then (groupOf text).bind fun name => (parse .plain s).map (.group name :: ·)
      else parse (.group (text ++ [c])) s

/-- The longest front of at most `k` units for which the rest succeeds. -/
def longest {β : Type} (rest : List α → Option β) (s : List α) : Nat → Option (List α × β)
  | 0 => none
  | k + 1 =>
      match rest (s.drop (k + 1)) with
      | some b => some (s.take (k + 1), b)
      | none => longest rest s k

/-- `new RegExp("^…$").exec(s)`: the values of the groups, greedy, with backtracking. -/
def exec : List (Item α) → List α → Option (List (List α × List α))
  | [], s => if s = [] then some [] else none
  | .lit _ :: _, [] => none
  | .lit c :: items, d :: s => if d = c then exec items s else none
  | .group name :: items, s =>
      (longest (exec items) s (s.takeWhile (· ≠ unit '/')).length).map
        fun (value, groups) => (name, value) :: groups

theorem isMeta_unit {c : Char} (h : c ∈ ".+^$\x7b\x7d()|[]\\".toList) :
    isMeta (unit c : α) = true :=
  List.contains_iff_mem.mpr (List.mem_map_of_mem h)

omit [DecidableEq α] in
/-- ASCII texts have the units of their characters. -/
theorem unit_mem_map {c : Char} {s : List Char} (hc : c.toNat < 128)
    (hs : s.all (fun d => decide (d.toNat < 128)) = true) :
    (unit c : α) ∈ s.map unit ↔ c ∈ s := by
  constructor
  · intro h
    obtain ⟨d, hd, he⟩ := List.mem_map.mp h
    have hascii := of_decide_eq_true (List.all_eq_true.mp hs d hd)
    rwa [← CodeUnit.unit_inj hascii hc he]
  · exact List.mem_map_of_mem

/-- The name between its brackets. -/
theorem groupOf_text (name : List α) :
    groupOf (ascii "?<" ++ name ++ ascii ">[^/]+") = some name := by
  have hprefix : (ascii "?<").isPrefixOf? (ascii "?<" ++ name ++ ascii ">[^/]+") =
      some (name ++ ascii ">[^/]+") := by
    rw [isPrefixOf?_eq_some, List.append_assoc]
  rw [groupOf, hprefix, Option.bind_some, List.isSuffixOf?_eq_some_iff_append_eq]

/-- The reader goes on to the closing parenthesis. -/
theorem parse_group {rest : List α} : ∀ {w acc : List α}, unit ')' ∉ w →
    parse (.group acc) (w ++ unit ')' :: rest) =
      (groupOf (acc ++ w)).bind fun name => (parse .plain rest).map (.group name :: ·)
  | [], acc, _ => by rw [List.nil_append, parse, if_pos rfl, List.append_nil]
  | c :: w, acc, h => by
      have hc : c ≠ unit ')' := fun e => h (e ▸ List.mem_cons_self)
      rw [List.cons_append, parse, if_neg hc, parse_group fun hm => h (List.mem_cons_of_mem _ hm),
        List.append_assoc, List.singleton_append]

/-- **A group is read as one.** -/
theorem parse_groupText {name rest : List α} (h : unit ')' ∉ name) :
    parse .plain (ascii "(?<" ++ name ++ ascii ">[^/]+)" ++ rest) =
      (parse .plain rest).map (.group name :: ·) := by
  have hshape : ascii "(?<" ++ name ++ ascii ">[^/]+)" ++ rest =
      unit '(' :: ((ascii "?<" ++ name ++ ascii ">[^/]+") ++ unit ')' :: rest) := by
    simp [ascii]
  have hclose : (unit ')' : α) ∉ ascii "?<" ++ name ++ ascii ">[^/]+" := by
    have hfront : (unit ')' : α) ∉ ascii "?<" := by
      rw [ascii, unit_mem_map (by decide) (by decide)]
      decide
    have hback : (unit ')' : α) ∉ ascii ">[^/]+" := by
      rw [ascii, unit_mem_map (by decide) (by decide)]
      decide
    rw [List.mem_append, List.mem_append]
    exact fun hm => hm.elim (fun hm => hm.elim hfront h) hback
  rw [hshape, parse, if_neg (unit_ne (by decide)), if_pos rfl, parse_group hclose, List.nil_append,
    groupOf_text, Option.bind_some]

/-- **A text that the items spell**, with these values of the groups. -/
inductive Spells : List (Item α) → List α → List (List α × List α) → Prop where
  | nil : Spells [] [] []
  | lit {c : α} {items : List (Item α)} {s : List α} {groups : List (List α × List α)} :
      Spells items s groups → Spells (.lit c :: items) (c :: s) groups
  | group {name value : List α} {items : List (Item α)} {s : List α}
      {groups : List (List α × List α)} :
      value ≠ [] → unit '/' ∉ value → Spells items s groups →
      Spells (.group name :: items) (value ++ s) ((name, value) :: groups)

omit [CodeUnit α] [DecidableEq α] in
theorem longest_eq_some {β : Type} {rest : List α → Option β} {s v : List α} {b : β} :
    ∀ {k : Nat}, longest rest s k = some (v, b) →
      ∃ j, 0 < j ∧ j ≤ k ∧ v = s.take j ∧ rest (s.drop j) = some b
  | 0, h => by cases h
  | k + 1, h => by
      rw [longest] at h
      split at h
      · rename_i b' hb
        cases h
        exact ⟨k + 1, Nat.succ_pos k, Nat.le_refl _, rfl, hb⟩
      · obtain ⟨j, hpos, hle, hv, hr⟩ := longest_eq_some h
        exact ⟨j, hpos, Nat.le_succ_of_le hle, hv, hr⟩

omit [CodeUnit α] [DecidableEq α] in
theorem longest_isSome {β : Type} {rest : List α → Option β} {s : List α} {j : Nat} (hpos : 0 < j)
    (h : (rest (s.drop j)).isSome = true) : ∀ {k : Nat}, j ≤ k → (longest rest s k).isSome = true
  | 0, hle => absurd hpos (by omega)
  | k + 1, hle => by
      rw [longest]
      split
      · rfl
      · rename_i hnone
        rcases Nat.lt_or_eq_of_le hle with hlt | rfl
        · exact longest_isSome hpos h (Nat.le_of_lt_succ hlt)
        · rw [hnone] at h
          cases h

omit [CodeUnit α] [DecidableEq α] in
/-- The front of a run is in the run. -/
theorem mem_takeWhile_take {p : α → Bool} {s : List α} {j : Nat}
    (hle : j ≤ (s.takeWhile p).length) {c : α} (h : c ∈ s.take j) : p c = true := by
  have hpre : s.take j <+: s.takeWhile p := by
    have htake : (s.takeWhile p).take j = s.take j := by
      conv_rhs => rw [← List.takeWhile_append_dropWhile (p := p) (l := s)]
      rw [List.take_append_of_le_length hle]
    rw [← htake]
    exact List.take_prefix _ _
  exact List.all_eq_true.mp List.all_takeWhile c (hpre.subset h)

/-- **A match found is one.** -/
theorem exec_sound : ∀ {items : List (Item α)} {s : List α} {groups : List (List α × List α)},
    exec items s = some groups → Spells items s groups
  | [], s, groups, h => by
      rw [exec] at h
      split at h
      · rename_i hs
        cases h
        rw [hs]
        exact .nil
      · cases h
  | .lit c :: items, [], groups, h => by cases h
  | .lit c :: items, d :: s, groups, h => by
      rw [exec] at h
      split at h
      · rename_i hc
        rw [hc]
        exact .lit (exec_sound h)
      · cases h
  | .group name :: items, s, groups, h => by
      rw [exec, Option.map_eq_some_iff] at h
      obtain ⟨⟨value, rest⟩, hlongest, rfl⟩ := h
      obtain ⟨j, hpos, hle, rfl, hr⟩ := longest_eq_some hlongest
      have hslash : unit '/' ∉ s.take j := by
        intro hm
        simpa using mem_takeWhile_take hle hm
      have hlen : (s.takeWhile (· ≠ unit '/')).length ≤ s.length :=
        (List.takeWhile_prefix _).length_le
      have hne : s.take j ≠ [] := by
        intro he
        have := congrArg List.length he
        rw [List.length_take, List.length_nil] at this
        omega
      have hspells : Spells (.group name :: items) (s.take j ++ s.drop j) ((name, s.take j) :: _) :=
        .group hne hslash (exec_sound hr)
      rwa [List.take_append_drop] at hspells

/-- **A match there is, is found.** -/
theorem exec_complete {items : List (Item α)} {s : List α} {groups : List (List α × List α)}
    (h : Spells items s groups) : (exec items s).isSome = true := by
  induction h with
  | nil => rfl
  | lit _ ih => rw [exec, if_pos rfl, ih]
  | @group name value items s groups hne hslash _ ih =>
    rw [exec, Option.isSome_map]
    have hall : ∀ c ∈ value, decide (c ≠ unit '/') = true := by
      intro c hc
      rw [decide_eq_true_eq]
      exact fun e => hslash (e ▸ hc)
    have hrun : value.length ≤ ((value ++ s).takeWhile (· ≠ unit '/')).length := by
      rw [List.takeWhile_append_of_pos hall, List.length_append]
      exact Nat.le_add_right _ _
    refine longest_isSome (List.length_pos_iff.mpr hne) ?_ hrun
    rw [List.drop_left]
    exact ih

end Groups
