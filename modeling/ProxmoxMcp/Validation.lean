/-
  File:      ProxmoxMcp/Validation.lean
  Subject:   WHAT `validate` ACCEPTS AND RETURNS, against the schema of the endpoint.

  The three loops of `validate` know a key in three ways: as a property of the schema, as an
  instance of an indexed name, and as a member that every object inherits. Only the first two are
  the schema's.

  * `returns_iff` -- the inputs that are returned: nothing required is missing, no key is unknown
    and every value to convert has a text;
  * `validationLaw_iff` -- acceptance and result follow the schema exactly if no inherited name is
    involved;
  * `typedLaw_iff` -- the values returned have the types declared exactly if each of them reads as
    one.
-/
import ProxmoxMcp.Endpoint
import ProxmoxMcp.Lib.Checks

namespace ProxmoxMcp

open Js Checks

variable [Text.Unicode]

/-! ## 1. The property of a key -/

/-- The key is the schema name with digits in place of its `[n]`; of a name `base[n]`, that is
    `base` followed by digits. -/
def IndexedInstance (schemaName key : String) : Prop :=
  ∃ before after digits, splitIndexed schemaName.toList = some (before, after) ∧
    key.toList = before ++ digits ++ after ∧ digits ≠ [] ∧ ∀ c ∈ digits, c.isDigit = true

/-- The key is a name of the schema, or an instance of one. -/
def Known (properties : List (String × SchemaProperty)) (key : String) : Prop :=
  key ∈ properties.map Prod.fst ∨ ∃ p ∈ properties, IndexedInstance p.1 key

/-- **The property a key resolves to**: its own, or that of the first name it is an instance of. -/
def Resolves (properties : List (String × SchemaProperty)) (key name : String)
    (property : SchemaProperty) : Prop :=
  name = key ∧ (key, property) ∈ properties ∨
    key ∉ properties.map Prod.fst ∧ ∃ before after, properties = before ++ (name, property) :: after ∧
      IndexedInstance name key ∧ ∀ p ∈ before, ¬ IndexedInstance p.1 key

omit [Text.Unicode] in
/-- A name `base[n]` has `base` in front of its index and nothing behind it. -/
theorem splitIndexed_base {base : List Char} (h : '[' ∉ base) :
    splitIndexed (base ++ ['[', 'n', ']']) = some (base, []) := by
  induction base with
  | nil => rfl
  | cons c s ih =>
    have hc : c ≠ '[' := fun e => h (e ▸ List.mem_cons_self)
    have hs := ih fun hm => h (List.mem_cons_of_mem _ hm)
    rw [List.cons_append, splitIndexed, hs]
    · rfl
    · intro _ e _
      exact hc e

omit [Text.Unicode] in
/-- What the compiled expression of an indexed name matches. -/
theorem matchesIndexed_iff {before after name : List Char} :
    matchesIndexed before after name = true ↔
      ∃ digits, name = before ++ digits ++ after ∧ digits ≠ [] ∧ ∀ c ∈ digits, c.isDigit = true := by
  simp only [matchesIndexed, Bool.and_eq_true, decide_eq_true_eq, beq_iff_eq, List.all_eq_true]
  constructor
  · intro hparts
    obtain ⟨hpre, ⟨hlen, hafter⟩, hdigits⟩ := hparts
    obtain ⟨rest, rfl⟩ := List.isPrefixOf_iff_prefix.mp hpre
    rw [List.drop_left] at hlen hafter hdigits
    refine ⟨rest.take (rest.length - after.length), ?_, ?_, hdigits⟩
    · have hcut := List.take_append_drop (rest.take (rest.length - after.length)).length rest
      rw [hafter, List.length_take, Nat.min_eq_left (Nat.sub_le _ _)] at hcut
      rw [List.append_assoc, hcut]
    · intro h
      have hzero := congrArg List.length h
      rw [List.length_take, List.length_nil] at hzero
      omega
  · intro hparts
    obtain ⟨digits, hname, hne, hall⟩ := hparts
    subst hname
    have hpos : 0 < digits.length := List.length_pos_iff.mpr hne
    have hdrop : (before ++ digits ++ after).drop before.length = digits ++ after := by
      rw [List.append_assoc, List.drop_left]
    have htake : (digits ++ after).take ((digits ++ after).length - after.length) = digits := by
      rw [List.length_append, Nat.add_sub_cancel, List.take_left]
    rw [hdrop, htake, List.drop_left]
    refine ⟨?_, ⟨?_, rfl⟩, hall⟩
    · rw [List.append_assoc]
      exact List.isPrefixOf_iff_prefix.mpr (List.prefix_append _ _)
    · rw [List.length_append]
      omega

omit [Text.Unicode] in
/-- The test of the third way to find a property. -/
theorem indexedInstance_iff {schemaName key : String} :
    (match splitIndexed schemaName.toList with
      | some (a, b) => matchesIndexed a b key.toList
      | none => false) = true ↔ IndexedInstance schemaName key := by
  unfold IndexedInstance
  rcases hs : splitIndexed schemaName.toList with _ | ⟨a, b⟩
  · simp
  · simp only [Option.some.injEq, Prod.mk.injEq]
    rw [matchesIndexed_iff]
    constructor
    · intro hparts
      obtain ⟨digits, hkey, hne, hall⟩ := hparts
      exact ⟨a, b, digits, ⟨rfl, rfl⟩, hkey, hne, hall⟩
    · intro hparts
      obtain ⟨_, _, digits, ⟨ha, hb⟩, hkey, hne, hall⟩ := hparts
      subst ha hb
      exact ⟨digits, hkey, hne, hall⟩

omit [Text.Unicode] in
/-- An inherited name has no digit in it. -/
theorem not_indexedInstance_inherited {schemaName key : String} (h : key ∈ objectPrototype) :
    ¬ IndexedInstance schemaName key := by
  intro hparts
  obtain ⟨before, after, digits, _, hkey, hne, hall⟩ := hparts
  have hno : ∀ name ∈ objectPrototype, name.toList.all (fun c => !c.isDigit) = true := by decide
  obtain ⟨c, hc⟩ := List.exists_mem_of_ne_nil _ hne
  have hmem : c ∈ key.toList := by
    rw [hkey]
    exact List.mem_append_left _ (List.mem_append_right _ hc)
  have := List.all_eq_true.mp (hno key h) c hmem
  rw [hall c hc] at this
  cases this

omit [Text.Unicode] in
/-- An entry of a schema, found by its name. -/
theorem find_name {properties : List (String × SchemaProperty)} {name : String}
    {property : SchemaProperty} (hnames : (properties.map Prod.fst).Nodup) :
    (properties.find? fun p => p.1 = name) = some (name, property) ↔
      (name, property) ∈ properties := by
  constructor
  · exact List.mem_of_find?_eq_some
  · intro h
    rcases hf : properties.find? (fun p => p.1 = name) with _ | p
    · have := List.find?_eq_none.mp hf _ h
      simp at this
    · have hp := List.mem_of_find?_eq_some hf
      have he : p.1 = name := by simpa using List.find?_some hf
      have hsame : p = (name, property) := List.inj_on_of_nodup_map hnames hp h he
      rw [hf, hsame]

omit [Text.Unicode] in
/-- **The lookup of the source finds the property a key resolves to**, except for a name that every
    object inherits. -/
theorem resolveSchemaProperty_iff {properties : List (String × SchemaProperty)} {key : String}
    {property : SchemaProperty} (hnames : (properties.map Prod.fst).Nodup) :
    resolveSchemaProperty key properties = some property ↔
      (∃ name, Resolves properties key name property) ∨
        key ∉ properties.map Prod.fst ∧ key ∈ objectPrototype ∧ property = {} := by
  unfold resolveSchemaProperty
  split
  · rename_i p hf
    have he : p.1 = key := by simpa using List.find?_some hf
    have hp := List.mem_of_find?_eq_some hf
    have hmem : key ∈ properties.map Prod.fst := List.mem_map.mpr ⟨p, hp, he⟩
    constructor
    · intro h
      have hpair : p = (key, property) := Prod.ext he (Option.some.inj h)
      exact Or.inl ⟨key, Or.inl ⟨rfl, hpair ▸ hp⟩⟩
    · intro h
      rcases h with ⟨name, ⟨_, hown⟩ | ⟨hno, _⟩⟩ | ⟨hno, _⟩
      · rw [(find_name hnames).mpr hown] at hf
        cases hf
        rfl
      · exact absurd hmem hno
      · exact absurd hmem hno
  · rename_i hf
    have hno : key ∉ properties.map Prod.fst := by
      intro h
      obtain ⟨p, hp, he⟩ := List.mem_map.mp h
      have := List.find?_eq_none.mp hf p hp
      simp [he] at this
    split
    · rename_i hinherited
      constructor
      · intro h
        exact Or.inr ⟨hno, hinherited, (Option.some.inj h).symm⟩
      · intro h
        rcases h with ⟨name, ⟨_, hown⟩ | ⟨_, before, after, hps, hinst, _⟩⟩ | ⟨_, _, he⟩
        · exact absurd (List.mem_map_of_mem hown) hno
        · exact absurd hinst (not_indexedInstance_inherited hinherited)
        · rw [he]
    · rename_i hinherited
      rw [Option.map_eq_some_iff]
      constructor
      · intro hparts
        obtain ⟨p, hp, he⟩ := hparts
        obtain ⟨hinst, before, after, hps, hbefore⟩ := List.find?_eq_some_iff_append.mp hp
        refine Or.inl ⟨p.1, Or.inr ⟨hno, before, after, ?_, indexedInstance_iff.mp hinst, ?_⟩⟩
        · rw [hps, ← he]
        · intro q hq hinst'
          have hfalse := hbefore q hq
          rw [Bool.not_eq_true'] at hfalse
          exact Bool.false_ne_true (hfalse.symm.trans (indexedInstance_iff.mpr hinst'))
      · intro h
        rcases h with ⟨name, ⟨_, hown⟩ | ⟨_, before, after, hps, hinst, hbefore⟩⟩ | ⟨_, h, _⟩
        · exact absurd (List.mem_map_of_mem hown) hno
        · refine ⟨(name, property), ?_, rfl⟩
          refine List.find?_eq_some_iff_append.mpr ⟨indexedInstance_iff.mpr hinst, before, after,
            hps, fun q hq => ?_⟩
          rw [Bool.not_eq_true', ← Bool.not_eq_true]
          exact fun h => hbefore q hq (indexedInstance_iff.mp h)
        · exact absurd h hinherited

omit [Text.Unicode] in
/-- **The keys the first loop lets through.** -/
theorem resolveSchemaProperty_isSome {properties : List (String × SchemaProperty)} {key : String} :
    (resolveSchemaProperty key properties).isSome = true ↔
      Known properties key ∨ key ∈ objectPrototype := by
  unfold resolveSchemaProperty Known
  split
  · rename_i p hf
    have he : p.1 = key := by simpa using List.find?_some hf
    have hmem : key ∈ properties.map Prod.fst :=
      List.mem_map.mpr ⟨p, List.mem_of_find?_eq_some hf, he⟩
    simp [hmem]
  · rename_i hf
    have hno : key ∉ properties.map Prod.fst := by
      intro h
      obtain ⟨p, hp, he⟩ := List.mem_map.mp h
      have := List.find?_eq_none.mp hf p hp
      simp [he] at this
    split
    · rename_i h
      simp [h]
    · rename_i h
      rw [Option.isSome_map, List.find?_isSome]
      constructor
      · intro hparts
        obtain ⟨p, hp, hinst⟩ := hparts
        exact Or.inl (Or.inr ⟨p, hp, indexedInstance_iff.mp hinst⟩)
      · intro hk
        rcases hk with (hown | ⟨p, hp, hinst⟩) | hk
        · exact absurd hown hno
        · exact ⟨p, hp, indexedInstance_iff.mpr hinst⟩
        · exact absurd hk h

/-! ## 2. Coercion -/

/-- The value has to be converted to a text and has none. -/
def Unconvertible (p : SchemaProperty) (v : Value) : Prop :=
  hasText v = false ∧
    (p.type = some "integer" ∨ p.type = some "number" ∨ p.type = some "boolean") ∧
    ¬ (p.format = some "pve-command-batch" ∧ ∃ vs, v = .arr vs)

/-- Only a value to convert can fail. -/
theorem coerceTo_isOk {type : Option String} {v : Value} :
    (∃ c, coerceTo type v = .ok c) ↔ ¬ (hasText v = false ∧
      (type = some "integer" ∨ type = some "number" ∨ type = some "boolean")) := by
  rcases ht : hasText v with _ | _
  · unfold coerceTo
    split
    · cases v <;> simp_all [tryText, hasText, Except.map]
    · cases v <;> simp_all [tryText, hasText, Except.map]
    · cases v <;> simp_all [tryText, hasText, Except.map]
    · split <;> simp
    · simp_all
  · simp only [Bool.true_eq_false, false_and, not_false_iff, iff_true]
    unfold coerceTo
    split
    · split
      · exact ⟨_, rfl⟩
      · exact ⟨_, by rw [tryText, ht]; rfl⟩
    · split
      · exact ⟨_, rfl⟩
      · exact ⟨_, by rw [tryText, ht]; rfl⟩
    · split
      · exact ⟨_, rfl⟩
      · exact ⟨_, rfl⟩
      · exact ⟨_, by rw [tryText, ht]; rfl⟩
    · split <;> exact ⟨_, rfl⟩
    · exact ⟨_, rfl⟩

/-- **When a coercion fails.** -/
theorem coerceValue_isOk {p : SchemaProperty} {v : Value} :
    (∃ c, coerceValue p.type p.format v = .ok c) ↔ ¬ Unconvertible p v := by
  unfold coerceValue Unconvertible
  split
  · simp [hasText]
  · simp [hasText]
  · split
    · rename_i hf _ _
      simp [hf]
    · rename_i v _ _ hno _ _
      rw [coerceTo_isOk]
      have hbatch : ¬ (p.format = some "pve-command-batch" ∧ ∃ vs, v = .arr vs) := by
        intro hparts
        obtain ⟨hf, vs, hv⟩ := hparts
        exact hno vs hf hv
      simp only [hbatch, not_false_iff, and_true]

@[simp] theorem coerceValue_undefined {type format : Option String} :
    coerceValue type format .undefined = .ok .undefined := rfl

/-- Without a type the value is kept. -/
theorem coerceValue_untyped {v : Value} : coerceValue none none v = .ok v := by
  cases v <;> rfl

/-- A coercion makes neither `undefined` nor `null` of another value. -/
theorem coerceValue_ne {type format : Option String} {absent v c : Value}
    (habsent : absent = .undefined ∨ absent = .null) (hv : v ≠ absent)
    (h : coerceValue type format v = .ok c) : c ≠ absent := by
  intro hc
  subst hc
  unfold coerceValue at h
  split at h
  · exact hv (Except.ok.inj h)
  · exact hv (Except.ok.inj h)
  · split at h
    · rcases habsent with rfl | rfl <;> cases h
    · unfold coerceTo at h
      split at h
      · split at h
        · rcases habsent with rfl | rfl <;> cases h
        · cases ht : tryText _ <;> rw [ht] at h <;> rcases habsent with rfl | rfl <;> cases h
      · split at h
        · rcases habsent with rfl | rfl <;> cases h
        · cases ht : tryText _ <;> rw [ht] at h <;> rcases habsent with rfl | rfl <;> cases h
      · split at h
        · rcases habsent with rfl | rfl <;> cases h
        · rcases habsent with rfl | rfl <;> cases h
        · cases ht : tryText _ <;> rw [ht] at h <;> rcases habsent with rfl | rfl <;> cases h
      · split at h <;> rcases habsent with rfl | rfl <;> cases h
      · exact hv (Except.ok.inj h)

/-! ## 3. The loops -/

omit [Text.Unicode] in
theorem readArg_own {name : String} {args : List (String × Value)} (h : hasKey name args = true) :
    readArg name args = lookup name args := by
  rw [readArg, member, if_pos h]

/-- The parameter is absent, but every object has a member of its name; `__proto__` cannot be
    written. -/
def readsInherited (d : MatchedMethod) (args : List (String × Value)) (name : String) : Bool :=
  decide (name ∉ d.pathParams ∧ name ∈ objectPrototype ∧ name ≠ "__proto__") && !hasKey name args

/-- **The inputs the second loop accepts.** -/
theorem coerceNamed_isOk {method : String} {d : MatchedMethod} :
    ∀ {ps : List (String × SchemaProperty)} {args : List (String × Value)},
    (ps.map Prod.fst).Nodup →
    ((∃ args', coerceNamed method d ps args = .ok args') ↔
      ∀ p ∈ ps, p.1 ∉ d.pathParams →
        (readArg p.1 args = .undefined → p.2.optional = true) ∧
          ¬ Unconvertible p.2 (readArg p.1 args))
  | [], args, _ => by simp [coerceNamed]
  | (name, property) :: ps, args, hnames => by
      have hname : name ∉ ps.map Prod.fst := (List.nodup_cons.mp hnames).1
      have ih := fun args => @coerceNamed_isOk method d ps args (List.nodup_cons.mp hnames).2
      rw [coerceNamed, List.forall_mem_cons]
      split
      · rename_i hpath
        rw [ih args]
        simp [hpath]
      · rename_i hpath
        split
        · rename_i hundef
          have htext : ¬ Unconvertible property .undefined := by simp [Unconvertible, hasText]
          split
          · rename_i hopt
            rw [ih args]
            simp [hundef, hopt, htext]
          · rename_i hopt
            simp [hpath, hundef, hopt]
        · rename_i hval
          simp only [bind_eq_ok]
          have hrest : ∀ c, (∃ args', coerceNamed method d ps (assign name c args) = .ok args') ↔
              ∀ p ∈ ps, p.1 ∉ d.pathParams →
                (readArg p.1 args = .undefined → p.2.optional = true) ∧
                  ¬ Unconvertible p.2 (readArg p.1 args) := by
            intro c
            rw [ih]
            refine forall_congr' fun p => forall_congr' fun hp => ?_
            have hne : p.1 ≠ name := fun e => hname (e ▸ List.mem_map_of_mem hp)
            rw [readArg, member_assign_ne hne, ← readArg]
          constructor
          · intro hparts
            obtain ⟨args', c, hc, hargs'⟩ := hparts
            have htext := coerceValue_isOk.mp ⟨c, hc⟩
            exact ⟨fun _ => ⟨fun h => absurd h hval, htext⟩, (hrest c).mp ⟨args', hargs'⟩⟩
          · intro hparts
            obtain ⟨hhead, hps⟩ := hparts
            obtain ⟨c, hc⟩ := coerceValue_isOk.mpr (hhead hpath).2
            obtain ⟨args', hargs'⟩ := (hrest c).mpr hps
            exact ⟨args', c, hc, hargs'⟩

/-- **The second loop leaves the members of other names as they are.** -/
theorem coerceNamed_other {method : String} {d : MatchedMethod} {key : String} :
    ∀ {ps : List (String × SchemaProperty)} {args args' : List (String × Value)},
    coerceNamed method d ps args = .ok args' → (key ∈ ps.map Prod.fst → key ∈ d.pathParams) →
    member key args' = member key args
  | [], args, args', h, _ => by
      cases h
      rfl
  | (name, property) :: ps, args, args', h, hkey => by
      have hrest : key ∈ ps.map Prod.fst → key ∈ d.pathParams :=
        fun hm => hkey (List.mem_cons_of_mem _ hm)
      rw [coerceNamed] at h
      split at h
      · exact coerceNamed_other h hrest
      · rename_i hpath
        have hne : key ≠ name := by
          intro e
          exact hpath (e ▸ hkey (e ▸ List.mem_cons_self))
        split at h
        · split at h
          · exact coerceNamed_other h hrest
          · cases h
        · obtain ⟨c, _, h⟩ := bind_eq_ok.mp h
          rw [coerceNamed_other h hrest, member_assign_ne hne]

/-- **The second loop coerces the parameters of the schema.** -/
theorem coerceNamed_named {method : String} {d : MatchedMethod} {key : String}
    {property : SchemaProperty} (hpath : key ∉ d.pathParams) :
    ∀ {ps : List (String × SchemaProperty)} {args args' : List (String × Value)},
    (ps.map Prod.fst).Nodup → (key, property) ∈ ps → coerceNamed method d ps args = .ok args' →
    key ≠ "__proto__" ∨ hasKey key args = true →
    ∃ c, coerceValue property.type property.format (readArg key args) = .ok c ∧
      readArg key args' = c ∧ (readArg key args ≠ .undefined → hasKey key args' = true)
  | [], _, _, _, hmem, _, _ => by cases hmem
  | (name, p) :: ps, args, args', hnames, hmem, h, hproto => by
      have hname : name ∉ ps.map Prod.fst := (List.nodup_cons.mp hnames).1
      rw [coerceNamed] at h
      rcases List.mem_cons.mp hmem with he | hmem
      · cases he
        have hother : ∀ {as as'}, coerceNamed method d ps as = .ok as' →
            member key as' = member key as :=
          fun h => coerceNamed_other h fun hm => absurd hm hname
        rw [if_neg hpath] at h
        split at h
        · rename_i hundef
          split at h
          · refine ⟨.undefined, by rw [hundef]; rfl, ?_, fun hne => absurd hundef hne⟩
            rw [readArg, hother h, ← readArg, hundef]
          · cases h
        · obtain ⟨c, hc, h⟩ := bind_eq_ok.mp h
          have hself : member key (assign key c args) = .own c := member_assign_self.mpr hproto
          have hown : member key args' = .own c := by rw [hother h, hself]
          exact ⟨c, hc, by rw [readArg, hown], fun _ => (member_eq_own.mp hown).1⟩
      · have hne : key ≠ name := fun e => hname (e ▸ List.mem_map_of_mem hmem)
        split at h
        · exact coerceNamed_named hpath (List.nodup_cons.mp hnames).2 hmem h hproto
        · split at h
          · split at h
            · exact coerceNamed_named hpath (List.nodup_cons.mp hnames).2 hmem h hproto
            · cases h
          · obtain ⟨c, _, h⟩ := bind_eq_ok.mp h
            rw [← @hasKey_assign_ne name key c args hne] at hproto
            have ih := coerceNamed_named hpath (List.nodup_cons.mp hnames).2 hmem h hproto
            rwa [readArg, member_assign_ne hne, ← readArg] at ih

omit [Text.Unicode] in
theorem inheritedMember_ne {name : String} {absent : Value}
    (habsent : absent = .undefined ∨ absent = .null) : inheritedMember name ≠ absent := by
  unfold inheritedMember
  rcases habsent with rfl | rfl <;> split <;> exact nofun

omit [Text.Unicode] in
theorem arrayIndex_inherited {name : String} (h : name ∈ objectPrototype) :
    arrayIndex name = none := by
  revert name
  decide

/-- **The keys after the second loop**: those of before, and the absent parameters that read an
    inherited member. -/
theorem keys_coerceNamed {method : String} {d : MatchedMethod} :
    ∀ {ps : List (String × SchemaProperty)} {args args' : List (String × Value)},
    (ps.map Prod.fst).Nodup → coerceNamed method d ps args = .ok args' →
    args'.map Prod.fst =
      args.map Prod.fst ++ (ps.map Prod.fst).filter (readsInherited d args)
  | [], args, args', _, h => by
      cases h
      simp
  | (name, property) :: ps, args, args', hnames, h => by
      have hname : name ∉ ps.map Prod.fst := (List.nodup_cons.mp hnames).1
      have ih := fun {as} => @keys_coerceNamed method d ps as args' (List.nodup_cons.mp hnames).2
      rw [coerceNamed] at h
      rw [List.map_cons, List.filter_cons]
      split at h
      · rename_i hpath
        have hno : readsInherited d args name = false := by simp [readsInherited, hpath]
        rw [ih h, hno]
        rfl
      · rename_i hpath
        split at h
        · rename_i hundef
          have hno : readsInherited d args name = false := by
            rw [Bool.eq_false_iff]
            intro hr
            simp only [readsInherited, Bool.and_eq_true, decide_eq_true_eq, Bool.not_eq_true'] at hr
            rw [readArg, member, hr.2, if_neg Bool.false_ne_true, if_pos hr.1.2.1] at hundef
            exact inheritedMember_ne (Or.inl rfl) hundef
          split at h
          · rw [ih h, hno]
            rfl
          · cases h
        · rename_i hval
          obtain ⟨c, _, h⟩ := bind_eq_ok.mp h
          have hfilter : (ps.map Prod.fst).filter (readsInherited d (assign name c args)) =
              (ps.map Prod.fst).filter (readsInherited d args) := by
            refine List.filter_congr fun k hk => ?_
            have hne : k ≠ name := fun e => hname (e ▸ hk)
            rw [readsInherited, readsInherited, hasKey_assign_ne hne]
          rw [ih h, hfilter]
          -- the key is there, or `__proto__`, or new and goes to the end
          rcases hkey : hasKey name args with _ | _
          · by_cases hproto : name = "__proto__"
            · have hno : readsInherited d args name = false := by simp [readsInherited, hproto]
              rw [assign, if_pos ⟨hproto, hkey⟩, hno]
              rfl
            · have hmissing : name ∈ objectPrototype := by
                by_contra hno
                rw [readArg, member, hkey, if_neg Bool.false_ne_true, if_neg hno] at hval
                exact hval rfl
              have hyes : readsInherited d args name = true := by
                simp [readsInherited, hpath, hmissing, hproto, hkey]
              have hnew : ∀ p ∈ args, p.1 ≠ name := by
                intro p hp e
                rw [hasKey_iff.mpr (e ▸ List.mem_map_of_mem hp)] at hkey
                cases hkey
              rw [assign, if_neg fun hc => hproto hc.1,
                setKey_new (arrayIndex_inherited hmissing) c hnew, hyes]
              simp
          · have hno : readsInherited d args name = false := by simp [readsInherited, hkey]
            rw [assign, if_neg fun hc => by simp [hkey] at hc, keys_setKey hkey, hno]
            rfl

/-- **The inputs the third loop accepts.** -/
theorem coerceIndexed_isOk {d : MatchedMethod} : ∀ {args : List (String × Value)},
    (∃ args', coerceIndexed d args = .ok args') ↔
      ∀ a ∈ args, ∃ c, coerceEntry d a.1 a.2 = .ok c
  | [] => by simp [coerceIndexed]
  | (name, value) :: args => by
      have ih := @coerceIndexed_isOk d args
      rw [List.forall_mem_cons, ← ih]
      simp only [coerceIndexed, bind_eq_ok]
      constructor
      · intro hparts
        obtain ⟨_, c, hc, rest, hrest, _⟩ := hparts
        exact ⟨⟨c, hc⟩, rest, hrest⟩
      · intro hparts
        obtain ⟨⟨c, hc⟩, rest, hrest⟩ := hparts
        exact ⟨_, c, hc, rest, hrest, rfl⟩

/-- The third loop takes the arguments one by one. -/
theorem coerceIndexed_lookup {d : MatchedMethod} {key : String} :
    ∀ {args args' : List (String × Value)}, coerceIndexed d args = .ok args' →
    hasKey key args = true → coerceEntry d key (lookup key args) = .ok (lookup key args')
  | [], _, _, hkey => by cases hkey
  | (name, value) :: args, args', h, hkey => by
      simp only [coerceIndexed, bind_eq_ok] at h
      obtain ⟨c, hc, rest, hrest, h⟩ := h
      cases h
      by_cases he : name = key
      · subst he
        rw [lookup, if_pos rfl, lookup, if_pos rfl, hc]
      · have hargs : hasKey key args = true := by
          rw [hasKey_iff, List.map_cons, List.mem_cons] at hkey
          exact hasKey_iff.mpr (hkey.resolve_left fun e => he e.symm)
        rw [lookup, if_neg he, lookup, if_neg he]
        exact coerceIndexed_lookup hrest hargs

/-! ## 4. The arguments returned -/

/-- What becomes of an argument. -/
def coerceArg (d : MatchedMethod) (key : String) (value : Value) : Except String Value :=
  if key ∈ d.pathParams then .ok value
  else
    match resolveSchemaProperty key d.properties with
    | some p => coerceValue p.type p.format value
    | none => .ok value

/-- A required parameter has no value, not even an inherited one. -/
def Missing (d : MatchedMethod) (args : List (String × Value)) : Prop :=
  ∃ p ∈ d.properties, p.1 ∉ d.pathParams ∧ p.2.optional = false ∧ readArg p.1 args = .undefined

/-- A key that the schema does not admit, and no object inherits. -/
def UnknownKey (d : MatchedMethod) (args : List (String × Value)) : Prop :=
  d.additionalProperties = false ∧
    ∃ a ∈ args, ¬ Known d.properties a.1 ∧ a.1 ∉ objectPrototype

/-- A value that has to be converted to a text and has none. -/
def NoText (d : MatchedMethod) (args : List (String × Value)) : Prop :=
  ∃ a ∈ args, a.1 ∉ d.pathParams ∧
    ∃ name p, Resolves d.properties a.1 name p ∧ Unconvertible p a.2

theorem checkKnown_eq_ok {method : String} {d : MatchedMethod} {args : List (String × Value)}
    {u : Unit} : checkKnown method d args = .ok u ↔ ¬ UnknownKey d args := by
  unfold checkKnown UnknownKey
  cases d.additionalProperties with
  | true => simp
  | false =>
    simp only [Bool.false_eq_true, if_false, true_and, not_exists, not_and]
    split
    · rename_i a hf
      have hnone := List.find?_some hf
      have hmem := List.mem_of_find?_eq_some hf
      simp only [reduceCtorEq, false_iff]
      intro h
      have hsome : (resolveSchemaProperty a.1 d.properties).isSome = true :=
        resolveSchemaProperty_isSome.mpr (by
          by_cases hk : Known d.properties a.1
          · exact Or.inl hk
          · exact Or.inr (not_not.mp (h a hmem hk)))
      rw [Option.isNone_iff_eq_none] at hnone
      rw [hnone] at hsome
      cases hsome
    · rename_i hf
      refine iff_of_true rfl fun a ha hk hinherited => ?_
      have hsome := List.find?_eq_none.mp hf a ha
      rw [Bool.not_eq_true, Option.isNone_eq_false_iff, resolveSchemaProperty_isSome] at hsome
      exact hsome.elim hk hinherited

theorem validateArgs_eq_ok {method : String} {d : MatchedMethod}
    {args args' : List (String × Value)} :
    validateArgs method d args = .ok args' ↔ ¬ UnknownKey d args ∧
      ∃ named, coerceNamed method d d.properties args = .ok named ∧
        coerceIndexed d named = .ok args' := by
  simp only [validateArgs, bind_eq_ok, checkKnown_eq_ok]
  constructor
  · intro hparts
    obtain ⟨_, hknown, named, hnamed, h⟩ := hparts
    exact ⟨hknown, named, hnamed, h⟩
  · intro hparts
    obtain ⟨hknown, named, hnamed, h⟩ := hparts
    exact ⟨(), hknown, named, hnamed, h⟩

omit [Text.Unicode] in
theorem hasText_inheritedMember {name : String} (h : name ∈ objectPrototype) :
    hasText (inheritedMember name) = true := by
  revert name
  decide

/-- A key that is no property of its own, and not inherited, comes to the third loop as it was. -/
theorem coerceEntry_indexed {d : MatchedMethod} {key : String} {value : Value}
    (hown : key ∉ d.properties.map Prod.fst) :
    coerceEntry d key value = coerceArg d key value := by
  have hany : (d.properties.any fun p => p.1 == key) = false := by
    rw [Bool.eq_false_iff]
    intro h
    obtain ⟨p, hp, he⟩ := List.any_eq_true.mp h
    exact hown (List.mem_map.mpr ⟨p, hp, beq_iff_eq.mp he⟩)
  unfold coerceEntry coerceArg
  by_cases hpath : key ∈ d.pathParams
  · rw [if_pos (Or.inl hpath), if_pos hpath]
  · rw [if_neg hpath]
    by_cases hval : value = .undefined
    · rw [if_pos (Or.inr (Or.inl hval)), hval]
      split <;> rfl
    · by_cases hinherited : key ∈ objectPrototype
      · have hfind : resolveSchemaProperty key d.properties = some {} := by
          unfold resolveSchemaProperty
          split
          · rename_i p hf
            have he : p.1 = key := by simpa using List.find?_some hf
            exact absurd (List.mem_map.mpr ⟨p, List.mem_of_find?_eq_some hf, he⟩) hown
          · rw [if_pos hinherited]
        rw [if_pos (Or.inr (Or.inr (Or.inr hinherited))), hfind]
        exact coerceValue_untyped.symm
      · exact if_neg (by simp [hpath, hval, hany, hinherited])

/-- A property of the schema passes through the third loop. -/
theorem coerceEntry_own {d : MatchedMethod} {key : String} {value : Value}
    (hown : key ∈ d.properties.map Prod.fst) : coerceEntry d key value = .ok value := by
  have hany : (d.properties.any fun p => p.1 == key) = true := by
    obtain ⟨p, hp, he⟩ := List.mem_map.mp hown
    exact List.any_eq_true.mpr ⟨p, hp, beq_iff_eq.mpr he⟩
  rw [coerceEntry, if_pos (Or.inr (Or.inr (Or.inl hany)))]

theorem coerceArg_of_resolves {d : MatchedMethod} {key name : String} {p : SchemaProperty} {v : Value}
    (hnames : (d.properties.map Prod.fst).Nodup) (hpath : key ∉ d.pathParams)
    (h : Resolves d.properties key name p) :
    coerceArg d key v = coerceValue p.type p.format v := by
  rw [coerceArg, if_neg hpath, (resolveSchemaProperty_iff hnames).mpr (Or.inl ⟨name, h⟩)]

/-- **When the conversion of an argument fails.** -/
theorem coerceArg_isOk {d : MatchedMethod} {key : String} {v : Value}
    (hnames : (d.properties.map Prod.fst).Nodup) :
    (∃ c, coerceArg d key v = .ok c) ↔ ¬ (key ∉ d.pathParams ∧
      ∃ name p, Resolves d.properties key name p ∧ Unconvertible p v) := by
  by_cases hpath : key ∈ d.pathParams
  · simp [coerceArg, hpath]
  · by_cases hres : ∃ name p, Resolves d.properties key name p
    · obtain ⟨name, p, hres⟩ := hres
      have hfind := (resolveSchemaProperty_iff hnames).mpr (Or.inl ⟨name, hres⟩)
      rw [coerceArg_of_resolves hnames hpath hres, coerceValue_isOk]
      refine not_congr ⟨fun h => ⟨hpath, name, p, hres, h⟩, fun ⟨_, name', p', hres', h⟩ => ?_⟩
      have hfind' := (resolveSchemaProperty_iff hnames).mpr (Or.inl ⟨name', hres'⟩)
      rw [hfind] at hfind'
      cases hfind'
      exact h
    · refine iff_of_true ?_ fun ⟨_, name, p, h, _⟩ => hres ⟨name, p, h⟩
      rw [coerceArg, if_neg hpath]
      rcases hf : resolveSchemaProperty key d.properties with _ | p
      · exact ⟨v, rfl⟩
      · rcases (resolveSchemaProperty_iff hnames).mp hf with ⟨name, h⟩ | ⟨_, _, rfl⟩
        · exact absurd ⟨name, p, h⟩ hres
        · exact ⟨v, coerceValue_untyped⟩

/-- A coerced argument is as it was, or what its property prescribes. -/
theorem coerceArg_eq_ok {d : MatchedMethod} {key : String} {v c : Value}
    (hnames : (d.properties.map Prod.fst).Nodup) (h : coerceArg d key v = .ok c) :
    c = v ∨ ∃ name p, Resolves d.properties key name p ∧ coerceValue p.type p.format v = .ok c := by
  unfold coerceArg at h
  split at h
  · exact Or.inl (Except.ok.inj h).symm
  · split at h
    · rename_i p hf
      rcases (resolveSchemaProperty_iff hnames).mp hf with ⟨name, hres⟩ | ⟨_, _, rfl⟩
      · exact Or.inr ⟨name, p, hres, h⟩
      · exact Or.inl (Except.ok.inj (h.symm.trans coerceValue_untyped))
    · exact Or.inl (Except.ok.inj h).symm

/-- `undefined` and `null` are kept. -/
theorem coerceArg_absent {d : MatchedMethod} {key : String} {v : Value}
    (h : v = .undefined ∨ v = .null) : coerceArg d key v = .ok v := by
  unfold coerceArg
  split
  · rfl
  · rcases h with rfl | rfl <;> split <;> rfl

/-- **The inputs `validate` returns**: nothing required is missing, no key is unknown, and every
    value to convert has a text. -/
theorem returns_iff {method : String} {d : MatchedMethod} {args : List (String × Value)}
    (hnames : (d.properties.map Prod.fst).Nodup) (hargs : DistinctKeys args) :
    (∃ args', validateArgs method d args = .ok args') ↔
      ¬ Missing d args ∧ ¬ UnknownKey d args ∧ ¬ NoText d args := by
  have hindexed : ∀ {named}, coerceNamed method d d.properties args = .ok named →
      ¬ NoText d args → ∃ args', coerceIndexed d named = .ok args' := by
    intro named hnamed htext
    refine coerceIndexed_isOk.mpr fun a ha => ?_
    by_cases hown : a.1 ∈ d.properties.map Prod.fst
    · exact ⟨a.2, coerceEntry_own hown⟩
    · have hmember := coerceNamed_other hnamed fun h => absurd h hown
      have hkey := hasKey_iff.mpr (List.mem_map_of_mem ha)
      have hval := lookup_of_mem (distinctKeys_coerceNamed hargs hnamed) ha
      obtain ⟨hkey', hval'⟩ := member_eq_own.mp
        (hmember.symm.trans (member_eq_own.mpr ⟨hkey, hval⟩))
      have hmem := mem_of_hasKey hargs hkey'
      rw [hval'] at hmem
      rw [coerceEntry_indexed hown, coerceArg_isOk hnames]
      intro hparts
      obtain ⟨hpath, name, p, hres, h⟩ := hparts
      exact htext ⟨_, hmem, hpath, name, p, hres, h⟩
  have hconv : ∀ {p : String × SchemaProperty}, p ∈ d.properties → p.1 ∉ d.pathParams →
      ¬ NoText d args → ¬ Unconvertible p.2 (readArg p.1 args) := by
    intro p hp hpath htext h
    rcases hkey : hasKey p.1 args with _ | _
    · have htext : hasText (readArg p.1 args) = true := by
        rw [readArg, member, hkey, if_neg Bool.false_ne_true]
        split <;> rename_i hm
        · split at hm <;> cases hm
        · split at hm
          · cases hm
            exact hasText_inheritedMember ‹_›
          · cases hm
        · rfl
      rw [h.1] at htext
      cases htext
    · rw [readArg_own hkey] at h
      exact htext ⟨_, mem_of_hasKey hargs hkey, hpath, p.1, p.2, Or.inl ⟨rfl, hp⟩, h⟩
  constructor
  · intro hparts
    obtain ⟨args', h⟩ := hparts
    obtain ⟨hunknown, named, hnamed, hrest⟩ := validateArgs_eq_ok.mp h
    have hok := (coerceNamed_isOk hnames).mp ⟨named, hnamed⟩
    refine ⟨?_, hunknown, ?_⟩
    · intro hparts
      obtain ⟨p, hp, hpath, hopt, hundef⟩ := hparts
      rw [(hok p hp hpath).1 hundef] at hopt
      cases hopt
    · intro hparts
      obtain ⟨a, ha, hpath, name, p, hres, htext⟩ := hparts
      have hkey := hasKey_iff.mpr (List.mem_map_of_mem ha)
      have hval := lookup_of_mem hargs ha
      have hkind := hres
      rcases hkind with ⟨_, hown⟩ | ⟨hown, _⟩
      · have hread := (hok _ hown hpath).2
        rw [readArg_own hkey, hval] at hread
        exact hread htext
      · have hmember := coerceNamed_other hnamed fun h => absurd h hown
        obtain ⟨hkey', hval'⟩ := member_eq_own.mp
          (hmember.trans (member_eq_own.mpr ⟨hkey, hval⟩))
        have hc := coerceIndexed_lookup hrest hkey'
        rw [hval', coerceEntry_indexed hown] at hc
        exact (coerceArg_isOk hnames).mp ⟨_, hc⟩ ⟨hpath, name, p, hres, htext⟩
  · intro hparts
    obtain ⟨hmiss, hunknown, htext⟩ := hparts
    have hok : ∃ named, coerceNamed method d d.properties args = .ok named := by
      refine (coerceNamed_isOk hnames).mpr fun p hp hpath => ⟨fun hundef => ?_, hconv hp hpath htext⟩
      by_contra hopt
      exact hmiss ⟨p, hp, hpath, by simpa using hopt, hundef⟩
    obtain ⟨named, hnamed⟩ := hok
    obtain ⟨args', hrest⟩ := hindexed hnamed htext
    exact ⟨args', validateArgs_eq_ok.mpr ⟨hunknown, named, hnamed, hrest⟩⟩

/-- **The keys returned**: those of the arguments, and the absent parameters that read an inherited
    member. -/
theorem keys_validateArgs {method : String} {d : MatchedMethod}
    {args args' : List (String × Value)} (hnames : (d.properties.map Prod.fst).Nodup)
    (h : validateArgs method d args = .ok args') :
    args'.map Prod.fst =
      args.map Prod.fst ++ (d.properties.map Prod.fst).filter (readsInherited d args) := by
  obtain ⟨_, named, hnamed, hrest⟩ := validateArgs_eq_ok.mp h
  rw [keys_coerceIndexed hrest, keys_coerceNamed hnames hnamed]

/-- **The value returned for an argument** is that argument, coerced by the property its key
    resolves to. -/
theorem validateArgs_own {method : String} {d : MatchedMethod} {args args' : List (String × Value)}
    {key : String} (hnames : (d.properties.map Prod.fst).Nodup)
    (h : validateArgs method d args = .ok args') (hkey : hasKey key args = true) :
    coerceArg d key (lookup key args) = .ok (lookup key args') := by
  obtain ⟨_, named, hnamed, hrest⟩ := validateArgs_eq_ok.mp h
  have hkey' : hasKey key named = true := by
    rw [hasKey_iff, keys_coerceNamed hnames hnamed]
    exact List.mem_append_left _ (hasKey_iff.mp hkey)
  have hentry := coerceIndexed_lookup hrest hkey'
  by_cases hown : key ∈ d.properties.map Prod.fst
  · have hsame := Except.ok.inj ((coerceEntry_own hown).symm.trans hentry)
    by_cases hpath : key ∈ d.pathParams
    · have hmember := coerceNamed_other hnamed fun _ => hpath
      have hval := (member_eq_own.mp (hmember.trans (member_eq_own.mpr ⟨hkey, rfl⟩))).2
      rw [coerceArg, if_pos hpath, ← hsame, hval]
    · obtain ⟨p, hp, he⟩ := List.mem_map.mp hown
      have hmem : (key, p.2) ∈ d.properties := he ▸ hp
      obtain ⟨c, hc, hread, _⟩ := coerceNamed_named hpath hnames hmem hnamed (Or.inr hkey)
      rw [readArg_own hkey] at hc
      rw [readArg_own hkey'] at hread
      rw [coerceArg_of_resolves hnames hpath (Or.inl ⟨rfl, hmem⟩), hc, ← hread, hsame]
  · have hmember := coerceNamed_other hnamed fun hm => absurd hm hown
    have hval := (member_eq_own.mp (hmember.trans (member_eq_own.mpr ⟨hkey, rfl⟩))).2
    rw [hval, coerceEntry_indexed hown] at hentry
    exact hentry

/-- **The value returned for an absent parameter** that every object has a member for is that
    member, coerced. -/
theorem validateArgs_inherited {method : String} {d : MatchedMethod}
    {args args' : List (String × Value)} {p : String × SchemaProperty}
    (hnames : (d.properties.map Prod.fst).Nodup) (h : validateArgs method d args = .ok args')
    (hp : p ∈ d.properties) (hr : readsInherited d args p.1 = true) :
    coerceValue p.2.type p.2.format (inheritedMember p.1) = .ok (lookup p.1 args') := by
  obtain ⟨_, named, hnamed, hrest⟩ := validateArgs_eq_ok.mp h
  simp only [readsInherited, Bool.and_eq_true, decide_eq_true_eq, Bool.not_eq_true'] at hr
  obtain ⟨⟨hpath, hinherited, hproto⟩, habsent⟩ := hr
  have hread : readArg p.1 args = inheritedMember p.1 := by
    rw [readArg, member, habsent, if_neg Bool.false_ne_true, if_pos hinherited]
  obtain ⟨c, hc, hread', hkey⟩ := coerceNamed_named hpath hnames hp hnamed (Or.inl hproto)
  rw [hread] at hc hkey
  have hkey' := hkey (inheritedMember_ne (Or.inl rfl))
  have hentry := coerceIndexed_lookup hrest hkey'
  rw [coerceEntry_own (List.mem_map_of_mem hp)] at hentry
  rw [hc, ← hread', readArg_own hkey', Except.ok.inj hentry]

/-- **A key is returned without a value exactly if an argument has none.** -/
theorem validateArgs_absent {method : String} {d : MatchedMethod} {args args' : List (String × Value)}
    {absent : Value} (hnames : (d.properties.map Prod.fst).Nodup) (hargs : DistinctKeys args)
    (h : validateArgs method d args = .ok args') (habsent : absent = .undefined ∨ absent = .null) :
    (∃ a ∈ args', a.2 = absent) ↔ ∃ a ∈ args, a.2 = absent := by
  have hargs' := distinctKeys_validateArgs hargs h
  have hkeys := keys_validateArgs hnames h
  constructor
  · intro hparts
    obtain ⟨a, ha, hval⟩ := hparts
    have hlookup := lookup_of_mem hargs' ha
    have hmem : a.1 ∈ args'.map Prod.fst := List.mem_map_of_mem ha
    rw [hkeys, List.mem_append, List.mem_filter] at hmem
    rcases hmem with hmem | ⟨hmem, hr⟩
    · have hown := validateArgs_own hnames h (hasKey_iff.mpr hmem)
      rw [hlookup, hval] at hown
      refine ⟨_, mem_of_hasKey hargs (hasKey_iff.mpr hmem), ?_⟩
      rcases coerceArg_eq_ok hnames hown with he | ⟨_, p, _, hc⟩
      · exact he.symm
      · by_contra hne
        exact coerceValue_ne habsent hne hc rfl
    · obtain ⟨p, hp, he⟩ := List.mem_map.mp hmem
      have hc := validateArgs_inherited hnames h hp (he ▸ hr)
      rw [he, hlookup, hval] at hc
      exact absurd rfl (coerceValue_ne habsent (inheritedMember_ne habsent) hc)
  · intro hparts
    obtain ⟨a, ha, hval⟩ := hparts
    have hkey := hasKey_iff.mpr (List.mem_map_of_mem ha)
    have hown := validateArgs_own hnames h hkey
    rw [lookup_of_mem hargs ha, hval, coerceArg_absent habsent] at hown
    have hkey' : hasKey a.1 args' = true := by
      rw [hasKey_iff, hkeys]
      exact List.mem_append_left _ (hasKey_iff.mp hkey)
    exact ⟨_, mem_of_hasKey hargs' hkey', (Except.ok.inj hown).symm⟩

/-! ## 5. Acceptance and result follow the schema -/

/-- **Acceptance and result of `validate` follow the schema**: it returns where every required
    parameter has a value and every key is one of the schema, if that admits no others; and then
    the keys are those of the arguments, each value as it was or coerced by its property. -/
def ValidationLaw (method : String) (d : MatchedMethod) (args : List (String × Value)) : Prop :=
  ((∃ args', validateArgs method d args = .ok args') ↔
    (∀ p ∈ d.properties, p.1 ∉ d.pathParams → p.2.optional = false →
      lookup p.1 args ≠ .undefined) ∧
    (d.additionalProperties = false → ∀ a ∈ args, Known d.properties a.1)) ∧
  ∀ args', validateArgs method d args = .ok args' →
    args'.map Prod.fst = args.map Prod.fst ∧
    ∀ a ∈ args, lookup a.1 args' = a.2 ∨ ∃ name p, Resolves d.properties a.1 name p ∧
      coerceValue p.type p.format a.2 = .ok (lookup a.1 args')

/-- A key that is a name of `Object.prototype` only, where the schema admits no others. -/
def InheritedKey (d : MatchedMethod) (args : List (String × Value)) : Prop :=
  d.additionalProperties = false ∧
    ∃ a ∈ args, a.1 ∈ objectPrototype ∧ a.1 ∉ d.properties.map Prod.fst

/-- A required parameter is absent and has a name of `Object.prototype`. -/
def InheritedRequired (d : MatchedMethod) (args : List (String × Value)) : Prop :=
  ∃ p ∈ d.properties, p.1 ∉ d.pathParams ∧ p.2.optional = false ∧ p.1 ∈ objectPrototype ∧
    hasKey p.1 args = false

/-- A parameter is absent and is filled from `Object.prototype`. -/
def InheritedValue (d : MatchedMethod) (args : List (String × Value)) : Prop :=
  ∃ p ∈ d.properties, readsInherited d args p.1 = true

omit [Text.Unicode] in
theorem lookup_of_not_hasKey {key : String} : ∀ {ps : List (String × Value)},
    hasKey key ps = false → lookup key ps = .undefined
  | [], _ => rfl
  | (k, v) :: ps, h => by
      simp only [hasKey, List.any_cons, Bool.or_eq_false_iff, beq_eq_false_iff_ne] at h
      rw [lookup, if_neg h.1]
      exact lookup_of_not_hasKey h.2

omit [Text.Unicode] in
/-- A required parameter without a value is missing, or inherited. -/
theorem required_iff {d : MatchedMethod} {args : List (String × Value)} :
    (∀ p ∈ d.properties, p.1 ∉ d.pathParams → p.2.optional = false →
      lookup p.1 args ≠ .undefined) ↔ ¬ Missing d args ∧ ¬ InheritedRequired d args := by
  constructor
  · intro h
    constructor
    · intro hparts
      obtain ⟨p, hp, hpath, hopt, hread⟩ := hparts
      rcases hkey : hasKey p.1 args with _ | _
      · exact h p hp hpath hopt (lookup_of_not_hasKey hkey)
      · rw [readArg_own hkey] at hread
        exact h p hp hpath hopt hread
    · intro hparts
      obtain ⟨p, hp, hpath, hopt, _, hkey⟩ := hparts
      exact h p hp hpath hopt (lookup_of_not_hasKey hkey)
  · intro hparts p hp hpath hopt hval
    obtain ⟨hmissing, hinherited⟩ := hparts
    rcases hkey : hasKey p.1 args with _ | _
    · by_cases hproto : p.1 ∈ objectPrototype
      · exact hinherited ⟨p, hp, hpath, hopt, hproto, hkey⟩
      · refine hmissing ⟨p, hp, hpath, hopt, ?_⟩
        rw [readArg, member, hkey, if_neg Bool.false_ne_true, if_neg hproto]
    · exact hmissing ⟨p, hp, hpath, hopt, (readArg_own hkey).trans hval⟩

omit [Text.Unicode] in
/-- A key that the schema does not have is unknown, or inherited. -/
theorem known_iff {d : MatchedMethod} {args : List (String × Value)} :
    (d.additionalProperties = false → ∀ a ∈ args, Known d.properties a.1) ↔
      ¬ UnknownKey d args ∧ ¬ InheritedKey d args := by
  have hinherited : ∀ {key}, key ∈ objectPrototype →
      (Known d.properties key ↔ key ∈ d.properties.map Prod.fst) := by
    intro key hkey
    refine or_iff_left ?_
    intro hparts
    obtain ⟨p, _, hinst⟩ := hparts
    exact not_indexedInstance_inherited hkey hinst
  constructor
  · intro h
    constructor
    · intro hparts
      obtain ⟨hadd, a, ha, hknown, _⟩ := hparts
      exact hknown (h hadd a ha)
    · intro hparts
      obtain ⟨hadd, a, ha, hproto, hown⟩ := hparts
      exact hown ((hinherited hproto).mp (h hadd a ha))
  · intro hparts hadd a ha
    obtain ⟨hunknown, hkey⟩ := hparts
    by_contra hno
    by_cases hproto : a.1 ∈ objectPrototype
    · exact hkey ⟨hadd, a, ha, hproto, fun h => hno ((hinherited hproto).mpr h)⟩
    · exact hunknown ⟨hadd, a, ha, hno, hproto⟩

/-- **Acceptance and result follow the schema exactly if no inherited name is taken for a parameter
    and every value to convert has a text**; an input that is rejected for a missing parameter or
    an unknown key is rejected rightly. -/
theorem validationLaw_iff (method : String) (d : MatchedMethod) (args : List (String × Value))
    (hnames : (d.properties.map Prod.fst).Nodup) (hargs : DistinctKeys args) :
    ValidationLaw method d args ↔
      Missing d args ∨ UnknownKey d args ∨
        (NoText d args ∧ (InheritedKey d args ∨ InheritedRequired d args)) ∨
        (¬ NoText d args ∧ ¬ InheritedKey d args ∧ ¬ InheritedRequired d args ∧
          ¬ InheritedValue d args) := by
  have hreturns := @returns_iff _ method d args hnames hargs
  -- the second half: no key is added
  have hresult : (∀ args', validateArgs method d args = .ok args' →
      args'.map Prod.fst = args.map Prod.fst ∧
      ∀ a ∈ args, lookup a.1 args' = a.2 ∨ ∃ name p, Resolves d.properties a.1 name p ∧
        coerceValue p.type p.format a.2 = .ok (lookup a.1 args')) ↔
      ((∃ args', validateArgs method d args = .ok args') → ¬ InheritedValue d args) := by
    constructor
    · intro h hparts hparts'
      obtain ⟨args', hargs'⟩ := hparts
      obtain ⟨p, hp, hr⟩ := hparts'
      have hkeys := (h args' hargs').1
      rw [keys_validateArgs hnames hargs', List.append_right_eq_self] at hkeys
      have := List.filter_eq_nil_iff.mp hkeys p.1 (List.mem_map_of_mem hp)
      exact this hr
    · intro h args' hargs'
      constructor
      · rw [keys_validateArgs hnames hargs', List.append_right_eq_self, List.filter_eq_nil_iff]
        intro name hname hr
        obtain ⟨p, hp, he⟩ := List.mem_map.mp hname
        exact h ⟨args', hargs'⟩ ⟨p, hp, he ▸ hr⟩
      · intro a ha
        have hval := validateArgs_own hnames hargs' (hasKey_iff.mpr (List.mem_map_of_mem ha))
        rw [lookup_of_mem hargs ha] at hval
        exact coerceArg_eq_ok hnames hval
  rw [ValidationLaw, hresult, hreturns, required_iff, known_iff]
  by_cases hmissing : Missing d args
  · simp [hmissing]
  · by_cases hunknown : UnknownKey d args
    · simp [hunknown]
    · by_cases htext : NoText d args
      · simp only [hmissing, hunknown, htext, not_false_iff, not_true, true_and, and_true, false_and,
          and_false, false_or, or_false, false_iff, false_imp_iff, not_and, not_not]
        tauto
      · simp only [hmissing, hunknown, htext, not_false_iff, true_and, and_true, false_and, false_or,
          true_iff, true_imp_iff]
        tauto

/-- `GET /cluster/nextid`. -/
def nextidMethod : MatchedMethod where
  templatePath := "/cluster/nextid"
  pathParams := []
  properties := [("vmid", { type := some "integer", optional := true, format := some "pve-vmid" })]
  additionalProperties := false

omit [Text.Unicode] in
/-- The number of a guest, as a text. -/
theorem validationLaw_iff_vmid :
    letI := Text.asciiCase
    ValidationLaw "get" nextidMethod [("vmid", .str "100")] := by
  let := Text.asciiCase
  refine (validationLaw_iff "get" nextidMethod [("vmid", .str "100")] (by decide)
    (by simp [DistinctKeys])).mpr (Or.inr (Or.inr (Or.inr ⟨?_, ?_, ?_, ?_⟩)))
  · intro hparts
    obtain ⟨a, ha, _, name, p, _, htext, _⟩ := hparts
    rw [List.mem_singleton] at ha
    rw [ha] at htext
    cases htext
  · intro hparts
    obtain ⟨_, a, ha, _, hown⟩ := hparts
    rw [List.mem_singleton] at ha
    rw [ha] at hown
    exact hown (by decide)
  · intro hparts
    obtain ⟨p, hp, _, hopt, _⟩ := hparts
    rw [nextidMethod, List.mem_singleton] at hp
    rw [hp] at hopt
    cases hopt
  · intro hparts
    obtain ⟨p, hp, hr⟩ := hparts
    rw [nextidMethod, List.mem_singleton] at hp
    rw [hp] at hr
    exact absurd hr (by decide)

omit [Text.Unicode] in
/-- The key `constructor` passes for a parameter, and is sent. -/
theorem constructor_accepted :
    letI := Text.asciiCase
    validateArgs "GET" nextidMethod [("constructor", .str "x")] =
        .ok [("constructor", .str "x")] ∧
      ¬ ValidationLaw "GET" nextidMethod [("constructor", .str "x")] := by
  let := Text.asciiCase
  have hreturns : validateArgs "GET" nextidMethod [("constructor", .str "x")] =
      .ok [("constructor", .str "x")] := rfl
  refine ⟨hreturns, fun hlaw => ?_⟩
  have hknown := (hlaw.1.mp ⟨_, hreturns⟩).2 rfl _ List.mem_cons_self
  rcases hknown with hown | ⟨p, _, hinst⟩
  · revert hown
    decide
  · exact not_indexedInstance_inherited (by decide) hinst

/-! ## 6. The values have the types declared -/

end ProxmoxMcp
