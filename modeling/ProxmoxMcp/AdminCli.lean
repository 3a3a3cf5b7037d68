/-
  File:      ProxmoxMcp/AdminCli.lean
  Subject:   THE ARGUMENTS OF THE ADMIN COMMANDS: `parseAdminArgs` over any sequence of flags, and
             what `options[key]` holds of the values each flag was given.

  The loop reads `options[key]` before it adds a value, so a bare occurrence counts as the value
  `true`, and a name of `Object.prototype` as a value that is already there.

  * `parseAdminArgs_flags` -- a command and flags parse to one `take` for each flag;
  * `read_flags` -- what a key holds is a fold over its own occurrences;
  * `keepsValues_iff` -- when every key holds exactly the values it was given.
-/
import ProxmoxMcp.Schema
import ProxmoxMcp.AdminEnroll

namespace ProxmoxMcp

open Js

/-! ## 1. The options object -/

/-- What `options[key]` reads: nothing, one of the three types of the record, or something
    inherited, of which `String` makes the text. -/
inductive OptionValue where
  | undefined
  | text (s : String)
  | bool (b : Bool)
  | list (ts : List String)
  | inherited (text : String)
  deriving DecidableEq, Repr

/-- `String(value)`. -/
def OptionValue.string : OptionValue → String
  | .undefined => "undefined"
  | .text s => s
  | .bool b => toString b
  | .list ts => String.ofList (Text.joinWith [','] (ts.map String.toList))
  | .inherited t => t

/-- `Record<string, string | boolean | string[]>`: its own properties, and the array that an
    assignment to `__proto__` made its prototype. -/
structure ParsedOptions where
  own : String → OptionValue := fun _ => .undefined
  proto : Option (List String) := none

/-- The functions every array has from `Array.prototype`. -/
def arrayPrototype : List String :=
  ["at", "concat", "copyWithin", "fill", "find", "findIndex", "findLast", "findLastIndex",
    "lastIndexOf", "pop", "push", "reverse", "shift", "unshift", "slice", "sort", "splice",
    "includes", "indexOf", "join", "keys", "entries", "values", "forEach", "filter", "flat",
    "flatMap", "map", "every", "some", "reduce", "reduceRight", "toReversed", "toSorted",
    "toSpliced", "with"]

/-- What an object inherits from `Object.prototype`. -/
def objectMember (key : String) : OptionValue :=
  if key ∈ objectPrototype then .inherited (toText (inheritedMember key)) else .undefined

/-- What an object inherits from an array. -/
def arrayMember (ts : List String) (key : String) : OptionValue :=
  if key = "__proto__" then .list ts
  else if key = "length" then .inherited (toString ts.length)
  else if key = "constructor" then .inherited "function Array() \x7b [native code] \x7d"
  else if key ∈ arrayPrototype then .inherited (toText (inheritedMember key))
  else
    match (arrayIndex key).bind fun n => ts[n]? with
    | some t => .text t
    | none => objectMember key

namespace ParsedOptions

/-- `options[key]`. -/
def read (o : ParsedOptions) (key : String) : OptionValue :=
  match o.own key, o.proto with
  | .undefined, none => objectMember key
  | .undefined, some ts => arrayMember ts key
  | v, _ => v

/-- `options[key] = value`. `__proto__` is a setter: it takes an array as the prototype, and
    ignores a text or a boolean. -/
def set (o : ParsedOptions) (key : String) (v : OptionValue) : ParsedOptions :=
  if key = "__proto__" then
    match v with
    | .list ts => { o with proto := some ts }
    | _ => o
  else { o with own := Function.update o.own key v }

/-- `next` after what `options[key]` holds: alone, pushed to the array, or second in a new one. -/
def withNext (current : OptionValue) (next : String) : OptionValue :=
  match current with
  | .undefined => .text next
  | .list ts => .list (ts ++ [next])
  | v => .list [v.string, next]

/-- The step of the loop for a flag with a value. -/
def give (o : ParsedOptions) (key next : String) : ParsedOptions :=
  o.set key (withNext (o.read key) next)

end ParsedOptions

/-! ## 2. The parser -/

/-- `AdminCommandName`. -/
inductive AdminCommandName where
  | enroll
  | rotate
  | status
  | deprovision
  deriving DecidableEq, Repr

def AdminCommandName.text : AdminCommandName → String
  | .enroll => "enroll"
  | .rotate => "rotate"
  | .status => "status"
  | .deprovision => "deprovision"

/-- The command of a name. -/
def adminCommand (name : String) : Option AdminCommandName :=
  [AdminCommandName.enroll, .rotate, .status, .deprovision].find? fun c => c.text = name

/-- `ParsedAdminArgs`. -/
structure ParsedAdminArgs where
  command : AdminCommandName
  options : ParsedOptions

/-- `entry.startsWith("--")`. -/
def startsFlag (entry : String) : Bool := ['-', '-'].isPrefixOf entry.toList

/-- The loop of `parseAdminArgs`, which looks one entry ahead. -/
def parseFlags (options : ParsedOptions) : List String → Except String ParsedOptions
  | [] => .ok options
  | entry :: rest =>
      if startsFlag entry then
        let key := String.ofList (entry.toList.drop 2)
        match rest with
        | [] => .ok (options.set key (.bool true))
        | next :: rest' =>
            if startsFlag next then parseFlags (options.set key (.bool true)) (next :: rest')
            else parseFlags (options.give key next) rest'
      else .error s!"Unexpected positional argument '{entry}'"

/-- `parseAdminArgs`. -/
def parseAdminArgs (argv : List String) : Except String ParsedAdminArgs :=
  match argv.head?.bind adminCommand with
  | none => .error "Usage: proxmox-mcp-admin <enroll|rotate|status|deprovision> [--flags]"
  | some command => (parseFlags {} argv.tail).map fun options => ⟨command, options⟩

/-- `getString`. -/
def getString (options : ParsedOptions) (key fallback : String) : String :=
  match options.read key with
  | .list ts => ts.headD fallback
  | .text s => s
  | .bool b => toString b
  | _ => fallback

/-- `getStringArray`. -/
def getStringArray (options : ParsedOptions) (key : String) : List String :=
  match options.read key with
  | .list ts => ts
  | .text s => [s]
  | _ => []

/-! ## 3. Flags -/

/-- A flag of the command line: `--key value`, its value not one of another flag, or a bare
    `--key`. -/
structure Flag where
  key : String
  value : Option String := none
  plain : ∀ v ∈ value, startsFlag v = false := by decide

/-- The entries it is written as. -/
def Flag.entries (f : Flag) : List String := ("--" ++ f.key) :: f.value.toList

/-- What the loop does with it. -/
def ParsedOptions.take (o : ParsedOptions) (f : Flag) : ParsedOptions :=
  match f.value with
  | none => o.set f.key (.bool true)
  | some v => o.give f.key v

theorem startsFlag_dashes (key : String) : startsFlag ("--" ++ key) = true := by
  rw [startsFlag, String.toList_append]
  rfl

theorem key_dashes (key : String) : String.ofList (("--" ++ key).toList.drop 2) = key := by
  rw [String.toList_append]
  exact String.ofList_toList

/-- A bare flag at the end, or before another one. -/
theorem parseFlags_bare (o : ParsedOptions) (key : String) {rest : List String}
    (hrest : ∀ next ∈ rest.head?, startsFlag next = true) :
    parseFlags o (("--" ++ key) :: rest) = parseFlags (o.set key (.bool true)) rest := by
  rw [parseFlags.eq_def]
  simp only [startsFlag_dashes, if_true, key_dashes]
  cases rest with
  | nil => rfl
  | cons next rest => exact if_pos (hrest next rfl)

/-- A flag and its value. -/
theorem parseFlags_value (o : ParsedOptions) (key : String) {next : String} (rest : List String)
    (hnext : startsFlag next = false) :
    parseFlags o (("--" ++ key) :: next :: rest) = parseFlags (o.give key next) rest := by
  rw [parseFlags.eq_def]
  simp only [startsFlag_dashes, if_true, key_dashes]
  exact if_neg (by rw [hnext]; decide)

/-- **The loop takes the flags one by one.** -/
theorem parseFlags_entries (flags : List Flag) (o : ParsedOptions) :
    parseFlags o (flags.flatMap Flag.entries) = .ok (flags.foldl ParsedOptions.take o) := by
  induction flags generalizing o with
  | nil => rfl
  | cons f flags ih =>
    rw [List.flatMap_cons, List.foldl_cons, ← ih]
    obtain ⟨key, value, hplain⟩ := f
    cases value with
    | some v => exact parseFlags_value o key _ (hplain v rfl)
    | none =>
      refine parseFlags_bare o key fun next hnext => ?_
      -- what follows a bare flag is the next flag
      cases flags with
      | nil => cases hnext
      | cons g flags => cases hnext; exact startsFlag_dashes g.key

theorem adminCommand_text (command : AdminCommandName) :
    adminCommand command.text = some command := by
  cases command <;> decide

/-- **A command and flags parse**, to one step of the loop for each flag. -/
theorem parseAdminArgs_flags (command : AdminCommandName) (flags : List Flag) :
    parseAdminArgs (command.text :: flags.flatMap Flag.entries) =
      .ok ⟨command, flags.foldl ParsedOptions.take {}⟩ := by
  simp only [parseAdminArgs, List.head?_cons, Option.bind_some, adminCommand_text, List.tail_cons,
    parseFlags_entries]
  rfl

/-! ## 4. What a key holds -/

/-- The occurrences of a key, each with its value. -/
def occurrences (key : String) (flags : List Flag) : List (Option String) :=
  (flags.filter fun f => f.key = key).map Flag.value

theorem occurrences_same (f : Flag) (flags : List Flag) :
    occurrences f.key (f :: flags) = f.value :: occurrences f.key flags := by
  rw [occurrences, List.filter_cons_of_pos (by simp)]
  rfl

theorem occurrences_of_ne {f : Flag} {key : String} (h : f.key ≠ key) (flags : List Flag) :
    occurrences key (f :: flags) = occurrences key flags := by
  rw [occurrences, List.filter_cons_of_neg (by simpa using h)]
  rfl

/-- What one occurrence makes of what the key holds. -/
def holdNext (current : OptionValue) : Option String → OptionValue
  | none => .bool true
  | some v => ParsedOptions.withNext current v

namespace ParsedOptions

theorem read_own {o : ParsedOptions} {key : String} {v : OptionValue} (h : o.own key = v)
    (hv : v ≠ .undefined) : o.read key = v := by
  subst h
  unfold read
  split
  · exact absurd ‹_› hv
  · exact absurd ‹_› hv
  · rfl

theorem withNext_ne_undefined (current : OptionValue) (next : String) :
    withNext current next ≠ .undefined := by
  cases current <;> exact OptionValue.noConfusion

theorem read_set_same {o : ParsedOptions} {key : String} {v : OptionValue}
    (hkey : key ≠ "__proto__") (hv : v ≠ .undefined) : (o.set key v).read key = v := by
  unfold set
  rw [if_neg hkey]
  exact read_own (Function.update_self ..) hv

theorem read_set_of_ne {o : ParsedOptions} {key k : String} {v : OptionValue}
    (hkey : key ≠ "__proto__") (hne : k ≠ key) : (o.set key v).read k = o.read k := by
  unfold set
  rw [if_neg hkey]
  simp only [read, Function.update_of_ne hne]

/-- A flag changes what its own key holds, by its value alone. -/
theorem read_take_same (o : ParsedOptions) {f : Flag} (hf : f.key ≠ "__proto__") :
    (o.take f).read f.key = holdNext (o.read f.key) f.value := by
  unfold take
  cases f.value with
  | none => exact read_set_same hf OptionValue.noConfusion
  | some v => exact read_set_same hf (withNext_ne_undefined _ v)

/-- And nothing of another key. -/
theorem read_take_of_ne (o : ParsedOptions) {f : Flag} {k : String} (hf : f.key ≠ "__proto__")
    (hne : k ≠ f.key) : (o.take f).read k = o.read k := by
  unfold take
  cases f.value with
  | none => exact read_set_of_ne hf hne
  | some v => exact read_set_of_ne hf hne

end ParsedOptions

/-- **What a key holds is a fold over its own occurrences**, while no flag is `__proto__`. -/
theorem read_flags {flags : List Flag} (hproto : ∀ f ∈ flags, f.key ≠ "__proto__")
    (o : ParsedOptions) (key : String) : (flags.foldl ParsedOptions.take o).read key =
      (occurrences key flags).foldl holdNext (o.read key) := by
  induction flags generalizing o with
  | nil => rfl
  | cons f flags ih =>
    have hf : f.key ≠ "__proto__" := hproto f List.mem_cons_self
    rw [List.foldl_cons, ih fun g hg => hproto g (List.mem_cons_of_mem _ hg)]
    by_cases hkey : f.key = key
    · subst hkey
      rw [ParsedOptions.read_take_same o hf, occurrences_same, List.foldl_cons]
    · rw [ParsedOptions.read_take_of_ne o hf (Ne.symm hkey), occurrences_of_ne hkey]

/-- Before the first flag a key holds what `Object.prototype` has. -/
theorem read_empty (key : String) : ({} : ParsedOptions).read key = objectMember key := rfl

/-! ## 5. The values of a key -/

/-- The values among the occurrences of a key, in order. -/
def givenValues (occs : List (Option String)) : List String := occs.filterMap id

/-- The values after the last bare occurrence. -/
def sinceBare (occs : List (Option String)) : List String :=
  occs.foldl (fun vs o => o.elim [] fun v => vs ++ [v]) []

/-- What a key that was given these values has to hold: `true`, the text, or the array. -/
def heldValues : List String → OptionValue
  | [] => .bool true
  | [v] => .text v
  | vs => .list vs

section Folds

variable {occs : List (Option String)} {v : String}

@[simp] theorem givenValues_bare : givenValues (occs ++ [none]) = givenValues occs := by
  simp [givenValues]

@[simp] theorem givenValues_value : givenValues (occs ++ [some v]) = givenValues occs ++ [v] := by
  simp [givenValues]

@[simp] theorem sinceBare_bare : sinceBare (occs ++ [none]) = [] := by
  simp [sinceBare]

@[simp] theorem sinceBare_value : sinceBare (occs ++ [some v]) = sinceBare occs ++ [v] := by
  simp [sinceBare]

theorem givenValues_ne_nil (hne : occs ≠ []) (hbare : none ∉ occs) : givenValues occs ≠ [] := by
  cases occs with
  | nil => exact absurd rfl hne
  | cons o occs =>
    cases o with
    | none => exact absurd List.mem_cons_self hbare
    | some v => simp [givenValues]

/-- Without a bare occurrence all values are after the last one. -/
theorem sinceBare_of_not_mem (hbare : none ∉ occs) : sinceBare occs = givenValues occs := by
  induction occs using List.reverseRecOn with
  | nil => rfl
  | append_singleton occs o ih =>
    rw [List.mem_append, not_or] at hbare
    cases o with
    | none => exact absurd (List.mem_singleton_self _) hbare.2
    | some v => rw [sinceBare_value, givenValues_value, ih hbare.1]

/-- There are none where no value was given at all. -/
theorem sinceBare_of_givenValues (h : givenValues occs = []) : sinceBare occs = [] := by
  induction occs using List.reverseRecOn with
  | nil => rfl
  | append_singleton occs o _ =>
    cases o with
    | none => exact sinceBare_bare
    | some v => rw [givenValues_value] at h; exact absurd h (by simp)

/-- One more value after at least one. -/
theorem withNext_heldValues {vs : List String} (hvs : vs ≠ []) :
    ParsedOptions.withNext (heldValues vs) v = heldValues (vs ++ [v]) := by
  match vs, hvs with
  | [w], _ => rfl
  | w :: w' :: ws, _ => rfl

/-- Values only, where the key held nothing: exactly these values. -/
theorem foldl_values (hne : occs ≠ []) (hbare : none ∉ occs) :
    occs.foldl holdNext .undefined = heldValues (givenValues occs) := by
  induction occs using List.reverseRecOn with
  | nil => exact absurd rfl hne
  | append_singleton occs o ih =>
    rw [List.mem_append, not_or] at hbare
    cases o with
    | none => exact absurd (List.mem_singleton_self _) hbare.2
    | some v =>
      rw [List.foldl_append, List.foldl_cons, List.foldl_nil, givenValues_value]
      by_cases hnil : occs = []
      · subst hnil
        rfl
      · rw [ih hnil hbare.1]
        exact withNext_heldValues (givenValues_ne_nil hnil hbare.1)

/-- Values only, where something was inherited: its text comes first. -/
theorem foldl_inherited (t : String) (hne : occs ≠ []) (hbare : none ∉ occs) :
    occs.foldl holdNext (.inherited t) = .list (t :: givenValues occs) := by
  induction occs using List.reverseRecOn with
  | nil => exact absurd rfl hne
  | append_singleton occs o ih =>
    rw [List.mem_append, not_or] at hbare
    cases o with
    | none => exact absurd (List.mem_singleton_self _) hbare.2
    | some v =>
      rw [List.foldl_append, List.foldl_cons, List.foldl_nil, givenValues_value]
      by_cases hnil : occs = []
      · subst hnil
        rfl
      · rw [ih hnil hbare.1]
        rfl

/-- **A bare occurrence wipes out what was there and stays as the text `true`.** -/
theorem foldl_bare (c : OptionValue) (hbare : none ∈ occs) : occs.foldl holdNext c =
    if sinceBare occs = [] then .bool true else .list ("true" :: sinceBare occs) := by
  induction occs using List.reverseRecOn with
  | nil => cases hbare
  | append_singleton occs o ih =>
    rw [List.foldl_append, List.foldl_cons, List.foldl_nil]
    cases o with
    | none =>
      rw [sinceBare_bare, if_pos rfl]
      rfl
    | some v =>
      have hbefore : none ∈ occs := by simpa using hbare
      have hvalue : sinceBare occs ++ [v] ≠ [] :=
        List.append_ne_nil_of_right_ne_nil _ (List.cons_ne_nil v [])
      rw [ih hbefore, sinceBare_value, if_neg hvalue]
      by_cases hnil : sinceBare occs = []
      · rw [hnil, if_pos rfl]
        rfl
      · rw [if_neg hnil]
        rfl

end Folds

/-- When a key keeps the values of its occurrences: it is not `__proto__`, and it was only given
    bare; or it was never given bare and no object inherits it; or the one value before the last
    bare occurrence is the text `true`, and a value follows. -/
def KeepsOccurrences (key : String) (occs : List (Option String)) : Prop :=
  key ≠ "__proto__" ∧ (givenValues occs = [] ∨ (none ∉ occs ∧ key ∉ objectPrototype) ∨
    (sinceBare occs ≠ [] ∧ givenValues occs = "true" :: sinceBare occs))

/-- A list that begins with a text in front of the values is not what has to be held. -/
theorem list_cons_ne_heldValues (t : String) (vs : List String) :
    OptionValue.list (t :: vs) ≠ heldValues vs := by
  match vs with
  | [] => exact OptionValue.noConfusion
  | [v] => exact OptionValue.noConfusion
  | v :: w :: vs =>
    intro h
    have hlength := congrArg List.length (OptionValue.list.inj h)
    simp at hlength

/-- **One key.** -/
theorem keepsOccurrences_iff {key : String} {occs : List (Option String)} (hkey : key ≠ "__proto__")
    (hne : occs ≠ []) :
    occs.foldl holdNext (objectMember key) = heldValues (givenValues occs) ↔ KeepsOccurrences key occs := by
  by_cases hbare : none ∈ occs
  · rw [foldl_bare _ hbare]
    by_cases hnil : sinceBare occs = []
    · -- the key is left with `true`
      rw [if_pos hnil]
      constructor
      · intro h
        refine ⟨hkey, .inl ?_⟩
        match hvalues : givenValues occs with
        | [] => rfl
        | [v] => rw [hvalues] at h; cases h
        | v :: w :: vs => rw [hvalues] at h; cases h
      · intro h
        obtain ⟨-, h | h | h⟩ := h
        · rw [h]
          rfl
        · exact absurd hbare h.1
        · exact absurd hnil h.1
    · rw [if_neg hnil]
      constructor
      · intro h
        refine ⟨hkey, .inr (.inr ⟨hnil, ?_⟩)⟩
        match hvalues : givenValues occs with
        | [] => rw [hvalues] at h; cases h
        | [v] => rw [hvalues] at h; cases h
        | v :: w :: vs =>
          rw [hvalues] at h
          exact (OptionValue.list.inj h).symm
      · intro h
        obtain ⟨-, h | h | h⟩ := h
        · -- values after the last bare occurrence are values
          exact absurd (sinceBare_of_givenValues h) hnil
        · exact absurd hbare h.1
        · rw [h.2]
          match hsince : sinceBare occs with
          | [] => exact absurd hsince hnil
          | v :: vs => rfl
  · have hgiven := givenValues_ne_nil hne hbare
    unfold objectMember
    by_cases hmem : key ∈ objectPrototype
    · rw [if_pos hmem, foldl_inherited _ hne hbare]
      refine iff_of_false (list_cons_ne_heldValues _ _) fun h => ?_
      obtain ⟨-, h | h | h⟩ := h
      · exact hgiven h
      · exact h.2 hmem
      · have hlength := congrArg List.length (h.2.symm.trans (sinceBare_of_not_mem hbare).symm)
        simp at hlength
    · rw [if_neg hmem, foldl_values hne hbare]
      exact iff_of_true rfl ⟨hkey, .inr (.inl ⟨hbare, hmem⟩)⟩

/-! ## 6. `__proto__` -/

/-- The prototype that the values given to `__proto__` leave. -/
def protoOf : List String → Option (List String)
  | [] => none
  | vs => some ("[object Object]" :: vs)

theorem withNext_proto (vs : List String) (v : String) (own : String → OptionValue)
    (hown : own "__proto__" = .undefined) :
    ParsedOptions.withNext (ParsedOptions.read ⟨own, protoOf vs⟩ "__proto__") v =
      .list ("[object Object]" :: (vs ++ [v])) := by
  cases vs with
  | nil =>
    simp only [ParsedOptions.read, hown, protoOf]
    rfl
  | cons w vs =>
    simp only [ParsedOptions.read, hown, protoOf]
    rfl

theorem occurrences_concat (key : String) (flags : List Flag) (f : Flag) :
    occurrences key (flags ++ [f]) =
      occurrences key flags ++ if f.key = key then [f.value] else [] := by
  rw [occurrences, List.filter_append, List.map_append]
  by_cases h : f.key = key
  · rw [if_pos h, List.filter_cons_of_pos (by simpa using h)]
    rfl
  · rw [if_neg h, List.filter_cons_of_neg (by simpa using h)]
    rfl

/-- **The setter**: the values of `__proto__` become a prototype, never a property. -/
theorem take_proto (flags : List Flag) :
    (flags.foldl ParsedOptions.take {}).own "__proto__" = .undefined ∧
      (flags.foldl ParsedOptions.take {}).proto =
        protoOf (givenValues (occurrences "__proto__" flags)) := by
  induction flags using List.reverseRecOn with
  | nil => exact ⟨rfl, rfl⟩
  | append_singleton flags f ih =>
    rw [List.foldl_append, List.foldl_cons, List.foldl_nil, occurrences_concat]
    generalize flags.foldl ParsedOptions.take {} = o at ih ⊢
    obtain ⟨own, proto⟩ := o
    obtain ⟨hown, hproto⟩ := ih
    dsimp only at hown hproto
    subst hproto
    by_cases hkey : f.key = "__proto__"
    · rw [if_pos hkey]
      unfold ParsedOptions.take
      cases f.value with
      | none =>
        rw [givenValues_bare, hkey]
        exact ⟨hown, rfl⟩
      | some v =>
        rw [givenValues_value]
        dsimp only [ParsedOptions.give]
        rw [hkey, withNext_proto _ v own hown]
        refine ⟨hown, ?_⟩
        cases givenValues (occurrences "__proto__" flags) <;> rfl
    · rw [if_neg hkey, List.append_nil]
      unfold ParsedOptions.take ParsedOptions.give ParsedOptions.set
      cases f.value with
      | none =>
        simp only [if_neg hkey]
        exact ⟨(Function.update_of_ne (Ne.symm hkey) ..).trans hown, trivial⟩
      | some v =>
        simp only [if_neg hkey]
        exact ⟨(Function.update_of_ne (Ne.symm hkey) ..).trans hown, trivial⟩

/-- It never holds the values it was given. -/
theorem read_proto_ne (flags : List Flag) :
    (flags.foldl ParsedOptions.take {}).read "__proto__" ≠
      heldValues (givenValues (occurrences "__proto__" flags)) := by
  obtain ⟨hown, hproto⟩ := take_proto flags
  simp only [ParsedOptions.read, hown, hproto]
  cases givenValues (occurrences "__proto__" flags) with
  | nil => decide
  | cons v vs => exact list_cons_ne_heldValues "[object Object]" (v :: vs)

/-! ## 7. Every key -/

/-- The arguments parse, and every key holds exactly the values it was given: `true` where it was
    only given bare, the text where there is one, an array where there are several. -/
def KeepsValues (command : AdminCommandName) (flags : List Flag) : Prop :=
  ∃ options, parseAdminArgs (command.text :: flags.flatMap Flag.entries) = .ok ⟨command, options⟩ ∧
    ∀ f ∈ flags, options.read f.key = heldValues (givenValues (occurrences f.key flags))

theorem occurrences_ne_nil {f : Flag} {flags : List Flag} (h : f ∈ flags) :
    occurrences f.key flags ≠ [] := by
  intro hnil
  have hmem : f.value ∈ occurrences f.key flags :=
    List.mem_map_of_mem (List.mem_filter.mpr ⟨h, by simp⟩)
  rw [hnil] at hmem
  cases hmem

/-- What the parser returns is the fold over the flags. -/
theorem keepsValues_read (command : AdminCommandName) (flags : List Flag) :
    KeepsValues command flags ↔ ∀ f ∈ flags, (flags.foldl ParsedOptions.take {}).read f.key =
      heldValues (givenValues (occurrences f.key flags)) := by
  constructor
  · intro h
    obtain ⟨options, hparse, hread⟩ := h
    rw [parseAdminArgs_flags] at hparse
    cases hparse
    exact hread
  · intro h
    exact ⟨_, parseAdminArgs_flags command flags, h⟩

/-- **When the parser keeps all values**: exactly if every key keeps those of its occurrences. -/
theorem keepsValues_iff (command : AdminCommandName) (flags : List Flag) :
    KeepsValues command flags ↔ ∀ f ∈ flags, KeepsOccurrences f.key (occurrences f.key flags) := by
  rw [keepsValues_read]
  by_cases hproto : ∃ f ∈ flags, f.key = "__proto__"
  · obtain ⟨f, hf, hkey⟩ := hproto
    refine iff_of_false (fun h => ?_) fun h => (h f hf).1 hkey
    have hheld := h f hf
    rw [hkey] at hheld
    exact read_proto_ne flags hheld
  · have hne : ∀ f ∈ flags, f.key ≠ "__proto__" := fun f hf hkey => hproto ⟨f, hf, hkey⟩
    refine forall₂_congr fun f hf => ?_
    rw [read_flags hne, read_empty]
    exact keepsOccurrences_iff (hne f hf) (occurrences_ne_nil hf)

/-- An allowed command, and the flag once more without a value. -/
def bareAllowlist : List Flag :=
  [{ key := "sudoers-allowlist", value := some "/usr/sbin/qm" }, { key := "sudoers-allowlist" }]

/-- The command is lost: the key holds `true`. -/
theorem bareAllowlist_lost : ¬ KeepsValues .enroll bareAllowlist := by
  rw [keepsValues_read]
  intro h
  have hheld := h _ List.mem_cons_self
  revert hheld
  decide

/-! ## 8. What the commands read -/

/-- The array of a key that holds its values is these values. -/
theorem getStringArray_held {o : ParsedOptions} {key : String} {vs : List String}
    (h : o.read key = heldValues vs) : getStringArray o key = vs := by
  rw [getStringArray, h]
  match vs with
  | [] => rfl
  | [v] => rfl
  | v :: w :: vs => rfl

/-- Its text is the first of them, or `true`. -/
theorem getString_held {o : ParsedOptions} {key : String} {vs : List String} (fallback : String)
    (h : o.read key = heldValues vs) : getString o key fallback = vs.headD "true" := by
  rw [getString, h]
  match vs with
  | [] => rfl
  | [v] => rfl
  | v :: w :: vs => rfl

/-- **The allowed commands reach the sudoers line** where the key keeps its values. -/
theorem sudoersLine_kept {flags : List Flag} (hproto : ∀ f ∈ flags, f.key ≠ "__proto__")
    {key : String} (hne : occurrences key flags ≠ [])
    (hkeeps : KeepsOccurrences key (occurrences key flags)) (username : String) :
    buildSudoersLine username (some (getStringArray (flags.foldl ParsedOptions.take {}) key)) =
      buildSudoersLine username (some (givenValues (occurrences key flags))) := by
  have hread := (keepsOccurrences_iff hkeeps.1 hne).mpr hkeeps
  rw [← read_empty, ← read_flags hproto] at hread
  rw [getStringArray_held hread]

/-- **A bare flag at the end allows every default command**, whatever was listed before. -/
theorem sudoersLine_of_bare_last {flags : List Flag} (hproto : ∀ f ∈ flags, f.key ≠ "__proto__")
    {key : String} {before : List (Option String)} (hlast : occurrences key flags = before ++ [none])
    (username : String) :
    buildSudoersLine username (some (getStringArray (flags.foldl ParsedOptions.take {}) key)) =
      buildSudoersLine username none := by
  have hread : (flags.foldl ParsedOptions.take {}).read key = heldValues [] := by
    rw [read_flags hproto, hlast, foldl_bare _ (by simp), sinceBare_bare]
    rfl
  rw [getStringArray_held hread]
  rfl

end ProxmoxMcp
