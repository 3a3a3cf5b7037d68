/-
  File:      ProxmoxMcp/Lib/Named.lean
  Subject:   LISTS OF NAMED ENTRIES: a list whose entries are found by a key, as programs keep them
             beside an index. Nothing here names the repository.

  * `find`           -- the first entry of a key;
  * `index`          -- what a map built from the list holds: the last entry of a key;
  * `replaceOrPush`  -- an entry in the place of the first of its key, else at the end;
  * `removeFirst`    -- the first entry of a key taken out;
  * `without`        -- every entry of a key taken out;
  * `modify`         -- the entries of a key written in place.
-/
import Mathlib

namespace Named

variable {α κ : Type} [DecidableEq κ] (key : α → κ)

/-! ## 1. Operations -/

/-- The first entry of a key. -/
def find (k : κ) (l : List α) : Option α := l.find? fun a => key a = k

/-- What a map built from the list holds under a key: a later entry replaces an earlier one. -/
def index (k : κ) (l : List α) : Option α := find key k l.reverse

/-- The entry takes the place of the first one of its key, or goes to the end. -/
def replaceOrPush (a : α) : List α → List α
  | [] => [a]
  | b :: l => if key b = key a then a :: l else b :: replaceOrPush a l

/-- The first entry of a key is taken out. -/
def removeFirst (k : κ) (l : List α) : List α := l.eraseP fun a => key a = k

/-- Every entry of a key is taken out. -/
def without (k : κ) (l : List α) : List α := l.filter fun a => key a ≠ k

/-- The entries of a key are written in place. -/
def modify (k : κ) (f : α → α) (l : List α) : List α := l.map fun a => if key a = k then f a else a

/-- No key is there twice. -/
def Distinct (l : List α) : Prop := (l.map key).Nodup

variable {key}

/-! ## 2. Finding -/

theorem find_cons {k : κ} {a : α} {l : List α} :
    find key k (a :: l) = if key a = k then some a else find key k l := by
  by_cases h : key a = k <;> simp [find, h]

theorem find_some {k : κ} {a : α} {l : List α} (h : find key k l = some a) :
    a ∈ l ∧ key a = k :=
  ⟨List.mem_of_find?_eq_some h, by simpa using List.find?_some h⟩

theorem find_eq_none {k : κ} {l : List α} : find key k l = none ↔ ∀ a ∈ l, key a ≠ k := by
  simp [find]

/-- Where no key is there twice, an entry is what its key finds. -/
theorem find_of_mem {a : α} : ∀ {l : List α}, Distinct key l → a ∈ l → find key (key a) l = some a
  | b :: l, hd, h => by
      have hb : key b ∉ l.map key := (List.nodup_cons.mp hd).1
      rw [find_cons]
      rcases List.mem_cons.mp h with rfl | h
      · rw [if_pos rfl]
      · have hne : key b ≠ key a := fun e => hb (e ▸ List.mem_map_of_mem h)
        rw [if_neg hne]
        exact find_of_mem (List.nodup_cons.mp hd).2 h

/-- **Where no key is there twice, the index agrees with the list.** -/
theorem index_eq_find {k : κ} {l : List α} (hd : Distinct key l) :
    index key k l = find key k l := by
  have hr : Distinct key l.reverse := by
    rw [Distinct, List.map_reverse]
    exact List.nodup_reverse.mpr hd
  rcases e : find key k l with _ | a
  · rw [index, find_eq_none]
    intro a ha
    exact find_eq_none.mp e a (List.mem_reverse.mp ha)
  · obtain ⟨ha, rfl⟩ := find_some e
    exact find_of_mem hr (List.mem_reverse.mpr ha)

/-! ## 3. Writing -/

/-- **After an entry is written**, its key finds it and every other key what it found before. -/
theorem find_replaceOrPush {k : κ} {a : α} : ∀ {l : List α},
    find key k (replaceOrPush key a l) = if key a = k then some a else find key k l
  | [] => find_cons
  | b :: l => by
      have ih := @find_replaceOrPush k a l
      rw [replaceOrPush]
      split
      · rename_i hb
        rw [find_cons, find_cons, hb]
        split <;> rfl
      · rename_i hb
        rw [find_cons, find_cons, ih]
        by_cases hk : key b = k
        · have ha : key a ≠ k := fun e => hb (hk.trans e.symm)
          rw [if_pos hk, if_pos hk, if_neg ha]
        · rw [if_neg hk, if_neg hk]

theorem mem_keys_replaceOrPush {k : κ} {a : α} : ∀ {l : List α},
    k ∈ (replaceOrPush key a l).map key ↔ k = key a ∨ k ∈ l.map key
  | [] => by simp [replaceOrPush]
  | b :: l => by
      have ih := @mem_keys_replaceOrPush k a l
      rw [replaceOrPush]
      split
      · rename_i hb
        rw [List.map_cons, List.map_cons, List.mem_cons, List.mem_cons, hb]
        exact ⟨fun h => h.elim Or.inl fun h => Or.inr (Or.inr h), fun h => h.elim Or.inl id⟩
      · rw [List.map_cons, List.map_cons, List.mem_cons, List.mem_cons, ih]
        exact or_left_comm

/-- Writing an entry keeps the keys distinct. -/
theorem distinct_replaceOrPush {a : α} : ∀ {l : List α}, Distinct key l →
    Distinct key (replaceOrPush key a l)
  | [], _ => List.nodup_singleton _
  | b :: l, hd => by
      have hb : key b ∉ l.map key := (List.nodup_cons.mp hd).1
      have hl : Distinct key l := (List.nodup_cons.mp hd).2
      rw [replaceOrPush]
      split
      · rename_i hab
        exact List.nodup_cons.mpr ⟨hab ▸ hb, hl⟩
      · rename_i hab
        refine List.nodup_cons.mpr ⟨fun hm => ?_, distinct_replaceOrPush hl⟩
        exact (mem_keys_replaceOrPush.mp hm).elim hab hb

/-! ## 4. Taking out -/

/-- **After a key is taken out of distinct ones**, it finds nothing, and the others what they
    found before. -/
theorem find_removeFirst {k k' : κ} : ∀ {l : List α}, Distinct key l →
    find key k (removeFirst key k' l) = if k' = k then none else find key k l
  | [], _ => by simp [removeFirst, find]
  | b :: l, hd => by
      have hb : key b ∉ l.map key := (List.nodup_cons.mp hd).1
      by_cases hk' : key b = k'
      · rw [removeFirst, List.eraseP_cons_of_pos (by simpa using hk'), find_cons, hk']
        by_cases hk : k' = k
        · rw [if_pos hk, find_eq_none]
          intro a ha e
          exact hb (hk'.trans (hk.trans e.symm) ▸ List.mem_map_of_mem ha)
        · rw [if_neg hk, if_neg hk]
      · rw [removeFirst, List.eraseP_cons_of_neg (by simpa using hk'), find_cons, find_cons]
        have ih := @find_removeFirst k k' l (List.nodup_cons.mp hd).2
        rw [removeFirst] at ih
        rw [ih]
        by_cases hk : k' = k
        · rw [if_pos hk, if_pos hk, if_neg fun e => hk' (e.trans hk.symm)]
        · rw [if_neg hk, if_neg hk]

/-- Taking a key out keeps the keys distinct. -/
theorem distinct_removeFirst {k : κ} {l : List α} (hd : Distinct key l) :
    Distinct key (removeFirst key k l) :=
  List.Nodup.sublist (List.Sublist.map key List.eraseP_sublist) hd

theorem mem_without {k : κ} {a : α} {l : List α} : a ∈ without key k l ↔ a ∈ l ∧ key a ≠ k := by
  simp [without]

/-- **After every entry of a key is taken out**, it finds nothing, and the others what they found
    before. -/
theorem find_without {k k' : κ} : ∀ {l : List α},
    find key k (without key k' l) = if k' = k then none else find key k l
  | [] => by simp [without, find]
  | b :: l => by
      have ih := @find_without k k' l
      rw [without] at ih
      by_cases hk' : key b = k'
      · rw [without, List.filter_cons_of_neg (by simpa using hk'), ih, find_cons, hk']
        split <;> rfl
      · rw [without, List.filter_cons_of_pos (by simpa using hk'), find_cons, find_cons, ih]
        by_cases hk : k' = k
        · rw [if_pos hk, if_pos hk, if_neg fun e => hk' (e.trans hk.symm)]
        · rw [if_neg hk, if_neg hk]

theorem find_append {k : κ} {l l' : List α} :
    find key k (l ++ l') = (find key k l).or (find key k l') :=
  List.find?_append

/-! ## 5. Writing in place -/

section Modify

variable {f : α → α} (hf : ∀ a, key (f a) = key a)

include hf in
theorem map_modify {k : κ} {l : List α} : (modify key k f l).map key = l.map key := by
  rw [modify, List.map_map]
  refine List.map_congr_left fun a _ => ?_
  show key (if key a = k then f a else a) = key a
  split
  · exact hf a
  · rfl

include hf in
/-- Writing in place keeps the keys distinct. -/
theorem distinct_modify {k : κ} {l : List α} (hd : Distinct key l) :
    Distinct key (modify key k f l) := by
  rw [Distinct, map_modify hf]
  exact hd

include hf in
/-- **After an entry is written in place**, its key finds what was written. -/
theorem find_modify {k k' : κ} : ∀ {l : List α},
    find key k (modify key k' f l) = if k' = k then (find key k l).map f else find key k l
  | [] => by simp [modify, find]
  | b :: l => by
      have ih := @find_modify k k' l
      rw [modify, List.map_cons, ← modify, find_cons, find_cons, ih]
      by_cases hb : key b = k'
      · rw [if_pos hb, hf b]
        by_cases hk : k' = k
        · rw [if_pos hk, if_pos hk, if_pos (hb.trans hk), if_pos (hb.trans hk), Option.map_some]
        · have hbk : key b ≠ k := fun e => hk (hb.symm.trans e)
          rw [if_neg hk, if_neg hk, if_neg hbk, if_neg hbk]
      · rw [if_neg hb]
        by_cases hk : k' = k
        · have hbk : key b ≠ k := fun e => hb (e.trans hk.symm)
          rw [if_pos hk, if_pos hk, if_neg hbk, if_neg hbk]
        · rw [if_neg hk, if_neg hk]

end Modify

end Named
