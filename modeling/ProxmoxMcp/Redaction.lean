/-
  File:      ProxmoxMcp/Redaction.lean
  Subject:   WHAT THE AUDIT LOG SEES OF AN ENTRY (`redactSecrets`, `AuditLogger.record`).

  What is stored under a secret key leaves no trace in the log. The rest stays where it is, but for
  a property named `__proto__`: the copy is made by assignment, which takes that name for the
  prototype of the copy.

  * `redactSecrets_sameOutside`: two entries that differ only below secret keys;
  * `redactSecrets_faithful_iff`: when the rest of an entry is kept.
-/
import ProxmoxMcp.Requests
import ProxmoxMcp.Lib.Places

namespace ProxmoxMcp

open Js

variable [Text.Unicode]

/-! ## 1. Keys -/

/-- `/^.?key/i`: one code unit that ends no line may stand in front. -/
def keyFollows : List Char → Bool
  | [] => false
  | c :: s => prefixFold "key".toList (c :: s) ||
      (c.toNat < 65536 && !Regex.isLineTerminator c && prefixFold "key".toList s)

/-- `/private.?key/i`. -/
def includesPrivateKey : List Char → Bool
  | [] => false
  | c :: s => (prefixFold "private".toList (c :: s) && keyFollows (s.drop 6)) ||
      includesPrivateKey s

/-- The alternatives of the pattern that are words. -/
def secretWords : List String :=
  ["pass", "secret", "token", "ticket", "cookie", "authorization", "otp"]

/-- `/(pass|secret|token|ticket|cookie|authorization|private.?key|otp)/i.test(key)`. -/
def isSecretKey (key : String) : Bool :=
  secretWords.any (fun word => includesFold word.toList key.toList) || includesPrivateKey key.toList

/-- `/content/i.test(key)`. -/
def isContentKey (key : String) : Bool := includesFold "content".toList key.toList

/-! ## 2. The copy -/

/-- The length of an entry that is too long a text for its key. -/
def longContent (key : String) (entry : Value) : Option Nat :=
  match entry with
  | .str s => if isContentKey key ∧ 256 < Text.utf16Length s then some (Text.utf16Length s) else none
  | _ => none

/-- What is stored for an entry whose own copy is `copy`. -/
def redactEntry (key : String) (entry copy : Value) : Value :=
  if isSecretKey key then .str "<redacted>"
  else match longContent key entry with
    | some length => .str ("<redacted:" ++ toString length ++ "chars>")
    | none => copy

mutual

/-- `redactSecrets`. -/
def redactSecrets : Value → Value
  | .undefined => .undefined
  | .null => .null
  | .bool b => .bool b
  | .num n => .num n
  | .str s => .str s
  | .arr vs => .arr (redactElements vs)
  | .obj ps => .obj (redactProperties ps [])

def redactElements : List Value → List Value
  | [] => []
  | v :: vs => redactSecrets v :: redactElements vs

/-- The loop over the entries of an object. -/
def redactProperties : List (String × Value) → List (String × Value) → List (String × Value)
  | [], result => result
  | (key, entry) :: ps, result =>
      redactProperties ps (assign key (redactEntry key entry (redactSecrets entry)) result)

end

/-- The line of `record`. -/
def auditLine (timestamp : String) (entry : List (String × Value)) : String :=
  stringifyText (.obj ((redactProperties entry []).foldl (fun line p => setKey p.1 p.2 line)
    [("timestamp", .str timestamp)])) ++ "\n"

/-! ## 3. Secrets -/

mutual

/-- **No trace of a secret**: entries that differ only below secret keys have one copy. -/
theorem redactSecrets_sameOutside : ∀ {v w : Value}, v.Proper → w.Proper →
    SameOutside isSecretKey v w → redactSecrets v = redactSecrets w
  | .arr vs, w, hv, hw, h => by
      cases h.node with
      | leaf hleaf => cases hleaf
      | arr =>
        rw [redactSecrets, redactSecrets, redactElements_sameOutside hv hw (sameOutside_arr h)]
  | .obj ps, w, hv, hw, h => by
      cases h.node with
      | leaf hleaf => cases hleaf
      | obj =>
        have hall := sameOutside_obj hv.1.distinct hw.1.distinct h
        rw [redactSecrets, redactSecrets, redactProperties_sameOutside hv.2 hw.2 hall]
  | .undefined, w, _, _, h | .null, w, _, _, h | .bool b, w, _, _, h | .num n, w, _, _, h
  | .str s, w, _, _, h => by
      cases h.node
      rfl

theorem redactElements_sameOutside : ∀ {vs ws : List Value}, ProperAll vs → ProperAll ws →
    List.Forall₂ (SameOutside isSecretKey) vs ws → redactElements vs = redactElements ws
  | [], [], _, _, _ => rfl
  | v :: vs, w :: ws, hv, hw, h => by
      cases h with
      | cons hhead htail =>
        rw [redactElements, redactElements, redactSecrets_sameOutside hv.1 hw.1 hhead,
          redactElements_sameOutside hv.2 hw.2 htail]

theorem redactProperties_sameOutside : ∀ {ps qs result : List (String × Value)}, ProperEach ps →
    ProperEach qs → List.Forall₂ (fun p q => p.1 = q.1 ∧
      (isSecretKey p.1 = false → SameOutside isSecretKey p.2 q.2)) ps qs →
    redactProperties ps result = redactProperties qs result
  | [], [], _, _, _, _ => rfl
  | (k, v) :: ps, (l, w) :: qs, result, hv, hw, h => by
      cases h with
      | cons hhead htail =>
        obtain ⟨hkey, hsame⟩ := hhead
        dsimp only at hkey hsame
        subst hkey
        have hentry : redactEntry k v (redactSecrets v) = redactEntry k w (redactSecrets w) := by
          unfold redactEntry
          split
          · rfl
          · rename_i hopen
            have hvw := hsame (by simpa using hopen)
            have hlong : longContent k v = longContent k w := by
              cases hvw.node with
              | leaf hleaf => rfl
              | arr => rfl
              | obj => rfl
            rw [hlong, redactSecrets_sameOutside hv.1 hw.1 hvw]
        rw [redactProperties, redactProperties, hentry,
          redactProperties_sameOutside hv.2 hw.2 htail]

end

/-- **No secret reaches the log.** -/
theorem auditLine_sameOutside {timestamp : String} {ps qs : List (String × Value)}
    (hps : (Value.obj ps).Proper) (hqs : (Value.obj qs).Proper)
    (h : SameOutside isSecretKey (.obj ps) (.obj qs)) :
    auditLine timestamp ps = auditLine timestamp qs := by
  have hall := sameOutside_obj hps.1.distinct hqs.1.distinct h
  rw [auditLine, auditLine, redactProperties_sameOutside hps.2 hqs.2 hall]

/-! ## 4. What is kept -/

/-- The copy of a property. -/
def redactPair (p : String × Value) : String × Value :=
  (p.1, redactEntry p.1 p.2 (redactSecrets p.2))

/-- The properties of the copy of an object. -/
def keptProperties (ps : List (String × Value)) : List (String × Value) :=
  (ps.filter fun p => p.1 ≠ "__proto__").map redactPair

omit [Text.Unicode] in
theorem keys_filter (ps : List (String × Value)) (test : String → Bool) :
    (ps.filter fun p => test p.1).map Prod.fst = (ps.map Prod.fst).filter test := by
  rw [List.filter_map]
  rfl

theorem keys_keptProperties (ps : List (String × Value)) :
    (keptProperties ps).map Prod.fst = (ps.map Prod.fst).filter (· ≠ "__proto__") := by
  rw [keptProperties, List.map_map, ← keys_filter]
  rfl

/-- The loop adds one property after the other. -/
theorem redactProperties_eq : ∀ {ps result : List (String × Value)},
    hasKey "__proto__" result = false →
    (result.map Prod.fst ++ ps.map Prod.fst).Pairwise StaysBefore →
    redactProperties ps result = result ++ keptProperties ps
  | [], result, _, _ => by rw [redactProperties, keptProperties, List.filter_nil, List.map_nil,
      List.append_nil]
  | (key, entry) :: ps, result, hno, horder => by
      rw [redactProperties, assign]
      by_cases hkey : key = "__proto__"
      · rw [if_pos ⟨hkey, by rw [hkey, hno]⟩, redactProperties_eq hno, keptProperties,
          keptProperties, List.filter_cons_of_neg (by simp [hkey])]
        exact horder.sublist (List.Sublist.append_left (List.sublist_cons_self _ _) _)
      · rw [if_neg fun h => hkey h.1]
        have hlast : setKey key (redactEntry key entry (redactSecrets entry)) result =
            result ++ [redactPair (key, entry)] := by
          refine setKey_append_iff.mpr fun p hp => ?_
          rw [List.map_cons, List.pairwise_append] at horder
          exact horder.2.2 p.1 (List.mem_map_of_mem hp) key List.mem_cons_self
        rw [hlast, redactProperties_eq, List.append_assoc, keptProperties, keptProperties,
          List.filter_cons_of_pos (by simp [hkey])]
        · rfl
        · rw [Bool.eq_false_iff, ne_eq, hasKey_iff, List.map_append, List.mem_append, not_or]
          rw [Bool.eq_false_iff, ne_eq, hasKey_iff] at hno
          refine ⟨hno, fun h => hkey ?_⟩
          exact (List.mem_singleton.mp h).symm
        · rw [List.map_append, List.append_assoc]
          exact horder

/-- **The copy of an object.** -/
theorem redactSecrets_obj {ps : List (String × Value)} (h : InOrder ps) :
    redactSecrets (.obj ps) = .obj (keptProperties ps) := by
  have hloop : redactProperties ps [] = [] ++ keptProperties ps :=
    redactProperties_eq rfl (inOrder_iff.mp h)
  rw [redactSecrets, hloop, List.nil_append]

theorem distinct_keptProperties {ps : List (String × Value)} (h : InOrder ps) :
    DistinctKeys (keptProperties ps) := by
  rw [DistinctKeys, keys_keptProperties]
  exact h.distinct.filter _

theorem redactElements_eq (vs : List Value) : redactElements vs = vs.map redactSecrets := by
  induction vs with
  | nil => rfl
  | cons v vs ih => rw [redactElements, ih, List.map_cons]

/-- The copy of what a step leads to. -/
def redactChild (s : Step) (c : Value) : Value :=
  match s with
  | .index _ => redactSecrets c
  | .key k => redactEntry k c (redactSecrets c)

/-- **What a step leads to in the copy.** -/
theorem child_redactSecrets {v c : Value} (hv : v.Proper) {s : Step} (hc : v.child s = some c)
    (hs : s ≠ .key "__proto__") : (redactSecrets v).child s = some (redactChild s c) := by
  cases v with
  | arr vs =>
    cases s with
    | index n =>
      have hget : vs[n]? = some c := hc
      rw [redactSecrets, redactElements_eq, Value.child, List.getElem?_map, hget]
      rfl
    | key k => cases hc
  | obj ps =>
    cases s with
    | index n => cases hc
    | key k =>
      have hk : k ≠ "__proto__" := fun h => hs (h ▸ rfl)
      have hmem : redactPair (k, c) ∈ keptProperties ps :=
        List.mem_map_of_mem (List.mem_filter.mpr ⟨mem_of_child hv.1.distinct hc, by simp [hk]⟩)
      rw [redactSecrets_obj hv.1]
      exact child_key (distinct_keptProperties hv.1) hmem
  | _ =>
    rw [Value.child_leaf rfl] at hc
    cases hc

/-- The copy of an object has no property of that name. -/
theorem child_proto {v : Value} (hv : v.Proper) :
    (redactSecrets v).child (.key "__proto__") = none := by
  cases v with
  | arr vs => rfl
  | obj ps =>
    have hno : hasKey "__proto__" (keptProperties ps) = false := by
      rw [Bool.eq_false_iff, ne_eq, hasKey_iff, keys_keptProperties]
      simp
    rw [redactSecrets_obj hv.1, Value.child, hno]
    rfl
  | _ => rfl

/-- At the place stands a text that is too long for the key it is stored under. -/
def Shortened (path : List Step) (x : Value) : Prop :=
  ∃ front key, path = front ++ [.key key] ∧ (longContent key x).isSome = true

omit [Text.Unicode] in
theorem not_shortened_nil [Text.Unicode] {x : Value} : ¬ Shortened [] x := by
  intro hparts
  obtain ⟨front, key, h, _⟩ := hparts
  exact absurd h.symm (List.append_ne_nil_of_right_ne_nil _ (List.cons_ne_nil _ _))

theorem Shortened.cons {s : Step} {path : List Step} {x : Value} (h : Shortened path x) :
    Shortened (s :: path) x := by
  obtain ⟨front, key, rfl, hlong⟩ := h
  exact ⟨s :: front, key, rfl, hlong⟩

/-- A child is copied, or it is a text that is shortened, and nothing is below it. -/
theorem redactChild_eq {s : Step} {c x : Value} {path : List Step} (hs : Open isSecretKey [s])
    (hx : c.at path = some x) (hshort : ¬ Shortened (s :: path) x) :
    redactChild s c = redactSecrets c := by
  cases s with
  | index n => rfl
  | key k =>
    rw [redactChild, redactEntry, if_neg (by simp [(open_key.mp hs).1])]
    cases hlong : longContent k c with
    | none => rfl
    | some length =>
      have hleaf : c.isObject = false := by
        cases c with
        | arr => cases hlong
        | obj => cases hlong
        | _ => rfl
      cases path with
      | nil =>
        cases hx
        exact absurd ⟨[], k, rfl, by rw [hlong]; rfl⟩ hshort
      | cons s' path =>
        rw [Value.at, Value.child_leaf hleaf] at hx
        cases hx

/-- **A place in the copy.** -/
theorem at_redactSecrets {x : Value} : ∀ {path : List Step} {v : Value}, v.Proper →
    Open isSecretKey path → Step.key "__proto__" ∉ path → v.at path = some x →
    ¬ Shortened path x → (redactSecrets v).at path = some (redactSecrets x)
  | [], v, _, _, _, hx, _ => by
      cases hx
      rfl
  | s :: path, v, hv, hopen, hproto, hx, hshort => by
      obtain ⟨c, hc, hx⟩ := Value.at_cons_some hx
      have hs : s ≠ .key "__proto__" := fun h => hproto (h ▸ List.mem_cons_self)
      have hstep : Open isSecretKey [s] := fun k hk =>
        hopen k (List.mem_cons.mpr (.inl (List.mem_singleton.mp hk)))
      have hchild := child_redactSecrets hv hc hs
      rw [redactChild_eq hstep hx hshort] at hchild
      rw [Value.at_cons hchild]
      refine at_redactSecrets (hv.child hc) (fun k hk => hopen k (List.mem_cons_of_mem _ hk))
        (fun h => hproto (List.mem_cons_of_mem _ h)) hx fun h => hshort h.cons

/-- A place that a property of that name leads to is not in the copy. -/
theorem at_proto {x : Value} : ∀ {path : List Step} {v : Value}, v.Proper →
    Open isSecretKey path → Step.key "__proto__" ∈ path → v.at path = some x →
    ¬ Shortened path x → (redactSecrets v).at path = none
  | [], _, _, _, hproto, _, _ => absurd hproto List.not_mem_nil
  | s :: path, v, hv, hopen, hproto, hx, hshort => by
      obtain ⟨c, hc, hx⟩ := Value.at_cons_some hx
      by_cases hs : s = .key "__proto__"
      · rw [hs, Value.at, child_proto hv]
        rfl
      · have hstep : Open isSecretKey [s] := fun k hk =>
          hopen k (List.mem_cons.mpr (.inl (List.mem_singleton.mp hk)))
        have hchild := child_redactSecrets hv hc hs
        rw [redactChild_eq hstep hx hshort] at hchild
        rw [Value.at_cons hchild]
        have hrest : Step.key "__proto__" ∈ path :=
          (List.mem_cons.mp hproto).resolve_left fun h => hs h.symm
        refine at_proto (hv.child hc) (fun k hk => hopen k (List.mem_cons_of_mem _ hk)) hrest hx
          fun h => hshort h.cons

/-! ## 5. When everything else is kept -/

/-- What is outside the secrets, and is no text that is shortened, is in the copy at the same place:
    the leaves, the lengths of arrays, the keys of objects. -/
def Preserves (v copy : Value) : Prop :=
  ∀ path x, Open isSecretKey path → v.at path = some x → ¬ Shortened path x →
    ∃ y, copy.at path = some y ∧ SameNode x y

/-- Outside the secrets some object has a property named `__proto__`. -/
def NamesPrototype (v : Value) : Prop :=
  ∃ path ps, Open isSecretKey path ∧ v.at path = some (.obj ps) ∧ hasKey "__proto__" ps = true

/-- A path with that name goes through an object that has the property. -/
theorem namesPrototype_of_mem {x : Value} : ∀ {path : List Step} {v : Value},
    Open isSecretKey path → Step.key "__proto__" ∈ path → v.at path = some x → NamesPrototype v
  | [], _, _, hproto, _ => absurd hproto List.not_mem_nil
  | s :: path, v, hopen, hproto, hx => by
      obtain ⟨c, hc, hx⟩ := Value.at_cons_some hx
      rcases List.mem_cons.mp hproto with he | hrest
      · subst he
        cases v with
        | obj ps =>
          refine ⟨[], ps, open_nil, rfl, ?_⟩
          rw [Value.child] at hc
          split at hc
          · assumption
          · cases hc
        | _ => cases hc
      · have htail : Open isSecretKey path := fun k hk => hopen k (List.mem_cons_of_mem _ hk)
        obtain ⟨path', ps, hpath', hat, hps⟩ := namesPrototype_of_mem htail hrest hx
        refine ⟨s :: path', ps, fun k hk => ?_, by rw [Value.at_cons hc, hat], hps⟩
        rcases List.mem_cons.mp hk with he | hk
        · exact hopen k (List.mem_cons.mpr (.inl he))
        · exact hpath' k hk

/-- A node is kept, but for properties of that name. -/
theorem sameNode_redactSecrets {v : Value} (hv : v.Proper)
    (hno : ∀ ps, v = .obj ps → hasKey "__proto__" ps = false) : SameNode v (redactSecrets v) := by
  cases v with
  | arr vs =>
    rw [redactSecrets, redactElements_eq]
    exact .arr (List.length_map redactSecrets).symm
  | obj ps =>
    rw [redactSecrets_obj hv.1]
    refine .obj ?_
    rw [keys_keptProperties, List.filter_eq_self.mpr]
    intro k hk
    have hkey := hno ps rfl
    rw [Bool.eq_false_iff, ne_eq, hasKey_iff] at hkey
    simpa using fun h : k = "__proto__" => hkey (h ▸ hk)
  | _ => exact .leaf rfl

/-- **What is outside the secrets is kept, exactly if no property there is named `__proto__`.** -/
theorem preserves_iff {v : Value} (hv : v.Proper) :
    Preserves v (redactSecrets v) ↔ ¬ NamesPrototype v := by
  constructor
  · intro h hparts
    obtain ⟨path, ps, hopen, hat, hps⟩ := hparts
    have hshort : ¬ Shortened path (.obj ps) := by
      intro hparts
      obtain ⟨_, key, _, hlong⟩ := hparts
      cases hlong
    obtain ⟨y, hy, hnode⟩ := h path _ hopen hat hshort
    by_cases hproto : Step.key "__proto__" ∈ path
    · rw [at_proto hv hopen hproto hat hshort] at hy
      cases hy
    · rw [at_redactSecrets hv hopen hproto hat hshort, redactSecrets_obj (hv.at hat).1] at hy
      rw [← Option.some_inj.mp hy] at hnode
      have hmem := hasKey_iff.mp hps
      rw [hnode.keys, keys_keptProperties] at hmem
      simp at hmem
  · intro h path x hopen hat hshort
    have hproto : Step.key "__proto__" ∉ path := fun hp => h (namesPrototype_of_mem hopen hp hat)
    refine ⟨redactSecrets x, at_redactSecrets hv hopen hproto hat hshort, ?_⟩
    refine sameNode_redactSecrets (hv.at hat) fun ps he => ?_
    subst he
    rw [Bool.eq_false_iff]
    exact fun hps => h ⟨path, ps, hopen, hat, hps⟩

/-- What the redaction is for: nothing but the secrets is lost, and they are lost. -/
def RedactionLaw (v : ProperValue) : Prop :=
  (∀ w : ProperValue, SameOutside isSecretKey v.val w.val →
    redactSecrets v.val = redactSecrets w.val) ∧ Preserves v.val (redactSecrets v.val)

/-- **When an entry is redacted as it should be**: exactly if no property outside its secrets is
    named `__proto__`. -/
theorem redactionLaw_iff (v : ProperValue) : RedactionLaw v ↔ ¬ NamesPrototype v.val := by
  rw [← preserves_iff v.property]
  constructor
  · exact fun h => h.2
  · exact fun h => ⟨fun w hw => redactSecrets_sameOutside v.property w.property hw, h⟩

/-- An entry as JSON gives it: `{"args":{"__proto__":1}}`. -/
def protoEntry : ProperValue :=
  ⟨.obj [("args", .obj [("__proto__", .nat 1)])],
    inOrder_single (by decide), ⟨inOrder_single (by decide), trivial, trivial⟩, trivial⟩

omit [Text.Unicode] in
/-- **The property is lost.** -/
theorem protoEntry_lost :
    letI := Text.asciiCase
    redactSecrets protoEntry.val = .obj [("args", .obj [])] ∧ ¬ ∀ v, RedactionLaw v := by
  let := Text.asciiCase
  have hopen : Open isSecretKey [.key "args"] := open_key.mpr ⟨by decide +kernel, open_nil⟩
  refine ⟨by decide +kernel, fun h => ?_⟩
  have hkept := preserves_iff protoEntry.property
  exact hkept.mp (h protoEntry).2 ⟨_, _, hopen, rfl, rfl⟩

end ProxmoxMcp
