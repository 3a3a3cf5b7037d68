/-
  File:      ProxmoxMcp/Schema.lean
  Subject:   THE API CATALOG (`schema.ts`): which documented endpoint a method and a path address,
             and the arguments coerced to its schema.

  The catalog is data (`apidata.js`, or the file of `PVE_DOCS_SCHEMA_PATH`), so results about it
  hold for every catalog. Its templates consist of whole segments, a fixed word or one
  `{parameter}`; every path of the vendored file does. On such a template the compiled expression
  `^/nodes/(?<p0>[^/]+)/status$` matches segment by segment.
-/
import ProxmoxMcp.Lib.Json
import ProxmoxMcp.Lib.Url

namespace ProxmoxMcp

open Js

variable [Text.Unicode]

/-! ## 1. Descriptors -/

/-- A segment of a template path. -/
inductive Segment where
  | word (s : List Char)
  | param (name : String)
  deriving DecidableEq, Repr

/-- Letters, digits, `-` and `_`: what the fixed words of the schema consist of. -/
def isWordChar (c : Char) : Bool := c.isAlphanum || c == '-' || c == '_'

/-- A parameter, or a plain word. -/
def Segment.plain : Segment → Bool
  | .word s => s.all isWordChar
  | .param _ => true

/-- `templatePath`, by its segments: at least one, and its fixed words are plain. -/
structure Template where
  segments : List Segment
  nonempty : segments ≠ []
  words_plain : ∀ s ∈ segments, s.plain = true

/-- A parameter of a method, as far as coercion reads it. -/
structure SchemaProperty where
  type : Option String := none
  optional : Bool := false
  format : Option String := none
  deriving DecidableEq, Repr

/-- `ApiMethodDescriptor`; `additionalProperties` is `false` where the schema says 0. -/
structure ApiMethodDescriptor where
  method : String
  template : Template
  properties : List (String × SchemaProperty) := []
  additionalProperties : Bool := true

/-- `{name}` or the word itself. -/
def Segment.text : Segment → List Char
  | .word s => s
  | .param name => '{' :: name.toList ++ ['}']

/-- `descriptor.templatePath`. -/
def Template.text (t : Template) : String :=
  String.ofList (t.segments.flatMap fun s => '/' :: s.text)

/-- `descriptor.pathParams`. -/
def Template.pathParams (t : Template) : List String :=
  t.segments.filterMap fun
    | .word _ => none
    | .param name => some name

/-- The segments of a path against those of a template: the parameter values, in order. -/
def matchSegments : List Segment → List (List Char) → Option (List (List Char))
  | [], [] => some []
  | .word s :: ss, x :: xs => if x = s then matchSegments ss xs else none
  | .param _ :: ss, x :: xs => if x = [] then none else (matchSegments ss xs).map (x :: ·)
  | _, _ => none

/-- `descriptor.regex.exec(actualPath)`. -/
def Template.exec (t : Template) (actualPath : List Char) : Option (List (List Char)) :=
  match Text.splitOn '/' actualPath with
  | [] :: segments => matchSegments t.segments segments
  | _ => none

/-! ## 2. Coercion -/

/-- The maximal numeral in front, with the digits after it. -/
def takeInteger (s : List Char) : Option Nat :=
  let ds := s.takeWhile Char.isDigit
  if ds.isEmpty then none else some (Nat.ofDigitChars 10 ds 0)

/-- `Number.parseInt(text, 10)`. -/
def parseInt (s : List Char) : Number :=
  match s.dropWhile Text.isSpace with
  | '-' :: s => match takeInteger s with
      | some n => .rat (-(n : Rat))
      | none => .nan
  | '+' :: s => match takeInteger s with
      | some n => .rat n
      | none => .nan
  | s => match takeInteger s with
      | some n => .rat n
      | none => .nan

/-- Digits, a point and an exponent, as much of them as there is. -/
def takeDecimal (s : List Char) : Option Rat :=
  let whole := s.takeWhile Char.isDigit
  let afterWhole := s.dropWhile Char.isDigit
  let fraction := match afterWhole with
    | '.' :: s => s.takeWhile Char.isDigit
    | _ => []
  let afterFraction := match afterWhole with
    | '.' :: s => s.dropWhile Char.isDigit
    | s => s
  if whole.isEmpty && fraction.isEmpty then none
  else
    let exponent : Int := match afterFraction with
      | c :: s =>
          if c = 'e' ∨ c = 'E' then
            match s with
            | '-' :: s => -((takeInteger s).getD 0 : Int)
            | '+' :: s => (takeInteger s).getD 0
            | s => (takeInteger s).getD 0
          else 0
      | [] => 0
    let mantissa : Int := Nat.ofDigitChars 10 (whole ++ fraction) 0
    let scale := exponent - fraction.length
    some (if 0 ≤ scale then mantissa * 10 ^ scale.toNat else mkRat mantissa (10 ^ (-scale).toNat))

/-- `Number.parseFloat(text)`. -/
def parseFloat (s : List Char) : Number :=
  let unsigned (negative : Bool) (s : List Char) : Number :=
    if "Infinity".toList.isPrefixOf s then .infinity negative
    else match takeDecimal s with
      | some q => .rat (if negative then -q else q)
      | none => .nan
  match s.dropWhile Text.isSpace with
  | '-' :: s => unsigned true s
  | '+' :: s => unsigned false s
  | s => unsigned false s

/-- `Math.trunc`. -/
def trunc : Number → Number
  | .rat q => .rat (Int.tdiv q.num q.den : Int)
  | n => n

/-- The coercion of a value that is neither `undefined` nor `null`, to a type. -/
def coerceTo (type : Option String) (value : Value) : Except String Value :=
  match type with
  | some "integer" =>
      match value with
      | .num n => .ok (.num (trunc n))
      | value => (tryText value).map fun t => .num (parseInt t)
  | some "number" =>
      match value with
      | .num n => .ok (.num n)
      | value => (tryText value).map fun t => .num (parseFloat t)
  | some "boolean" =>
      match value with
      | .bool b => .ok (.bool b)
      | .num n => .ok (.bool (n != .rat 0))
      | value => (tryText value).map fun t =>
          .bool (Text.toLowerCase (String.ofList t) ∈ ["1", "true", "yes", "on"])
  | some "string" =>
      if value.isObject then .ok (.str (stringifyText value)) else .ok (.str (toText value))
  | _ => .ok value

/-- `coerceValue`. -/
def coerceValue (type format : Option String) (value : Value) : Except String Value :=
  match value with
  | .undefined => .ok .undefined
  | .null => .ok .null
  | value =>
    match format, value with
    | some "pve-command-batch", .arr vs => .ok (.str (stringifyText (.arr vs)))
    | _, value => coerceTo type value

/-- What an object inherits under the name: the prototype, or a function, which converts to its
    source text. -/
def inheritedMember (name : String) : Value :=
  if name = "__proto__" then .obj []
  else .str ("function " ++ (if name = "constructor" then "Object" else name) ++
    "() \x7b [native code] \x7d")

/-- `args[name]`. -/
def readArg (name : String) (args : List (String × Value)) : Value :=
  match member name args with
  | .own v => v
  | .inherited name => inheritedMember name
  | .missing => .undefined

/-- The text around the first `[n]` of a schema name. -/
def splitIndexed : List Char → Option (List Char × List Char)
  | [] => none
  | '[' :: 'n' :: ']' :: s => some ([], s)
  | c :: s => (splitIndexed s).map fun (a, b) => (c :: a, b)

/-- `new RegExp("^…\\d+…$").test(actualName)`, for the text around the `[n]`. -/
def matchesIndexed (before after name : List Char) : Bool :=
  before.isPrefixOf name &&
    (let rest := name.drop before.length
     let digits := rest.take (rest.length - after.length)
     decide (after.length < rest.length) && rest.drop digits.length == after &&
       digits.all Char.isDigit)

/-- The schema parameter an argument belongs to: its own, what `properties` inherits, or an indexed
    one. -/
def resolveSchemaProperty (actualName : String) (properties : List (String × SchemaProperty)) :
    Option SchemaProperty :=
  match properties.find? fun p => p.1 = actualName with
  | some p => some p.2
  | none =>
    if actualName ∈ objectPrototype then some {}
    else (properties.find? fun p => match splitIndexed p.1.toList with
        | some (a, b) => matchesIndexed a b actualName.toList
        | none => false).map Prod.snd

/-! ## 3. Validation -/

/-- What `validate` reads of the descriptor that a path matched. -/
structure MatchedMethod where
  templatePath : String
  pathParams : List String
  properties : List (String × SchemaProperty)
  additionalProperties : Bool

/-- The descriptor as `validate` reads it. -/
def ApiMethodDescriptor.matched (d : ApiMethodDescriptor) : MatchedMethod where
  templatePath := d.template.text
  pathParams := d.template.pathParams
  properties := d.properties
  additionalProperties := d.additionalProperties

/-- `ApiMatch`, with the arguments to send. -/
structure ApiMatch where
  descriptor : ApiMethodDescriptor
  pathParams : List (List Char)
  args : List (String × Value)

/-- `find`: the first descriptor of the method whose template the path matches. -/
def find (catalog : List ApiMethodDescriptor) (method actualPath : String) :
    Except String (ApiMethodDescriptor × List (List Char)) :=
  match catalog.findSome? fun d =>
      if d.method = Text.toUpperCase method then (d.template.exec actualPath.toList).map (d, ·)
      else none with
  | some r => .ok r
  | none => .error s!"No Proxmox API endpoint matches {Text.toUpperCase method} {actualPath}"

/-- The first loop of `validate`: every argument has a parameter, if the schema admits no others. -/
def checkKnown (method : String) (d : MatchedMethod) (args : List (String × Value)) :
    Except String Unit :=
  if d.additionalProperties then .ok ()
  else
    match args.find? fun a => (resolveSchemaProperty a.1 d.properties).isNone with
    | some a => .error s!"Unknown parameter '{a.1}' for {Text.toUpperCase method} {d.templatePath}"
    | none => .ok ()

/-- The second loop: the schema's own parameters, required ones present and all coerced. -/
def coerceNamed (method : String) (d : MatchedMethod) :
    List (String × SchemaProperty) → List (String × Value) → Except String (List (String × Value))
  | [], args => .ok args
  | (name, property) :: ps, args =>
      if name ∈ d.pathParams then coerceNamed method d ps args
      else
        match readArg name args with
        | .undefined =>
            if property.optional then coerceNamed method d ps args
            else .error s!"Missing required parameter '{name}' for {Text.toUpperCase method} {d.templatePath}"
        | value => do
            let coerced ← coerceValue property.type property.format value
            coerceNamed method d ps (assign name coerced args)

/-- The step of the third loop for one argument. -/
def coerceEntry (d : MatchedMethod) (name : String) (value : Value) : Except String Value :=
  if name ∈ d.pathParams ∨ value = .undefined ∨ (d.properties.any fun p => p.1 == name) ∨
      name ∈ objectPrototype then .ok value
  else
    match resolveSchemaProperty name d.properties with
    | some p => coerceValue p.type p.format value
    | none => .ok value

/-- The third loop: arguments of indexed parameters, coerced in place. -/
def coerceIndexed (d : MatchedMethod) : List (String × Value) →
    Except String (List (String × Value))
  | [] => .ok []
  | (name, value) :: args => do
      let coerced ← coerceEntry d name value
      let rest ← coerceIndexed d args
      return (name, coerced) :: rest

/-- `validate`, after the path has matched: the arguments it returns. -/
def validateArgs (method : String) (d : MatchedMethod) (inputArgs : List (String × Value)) :
    Except String (List (String × Value)) := do
  checkKnown method d inputArgs
  let args ← coerceNamed method d d.properties inputArgs
  coerceIndexed d args

/-- `validate`. -/
def validate (catalog : List ApiMethodDescriptor) (method actualPath : String)
    (inputArgs : List (String × Value)) : Except String ApiMatch := do
  let (d, pathParams) ← find catalog method actualPath
  let args ← validateArgs method d.matched inputArgs
  return ⟨d, pathParams, args⟩

/-- `validate` returns what the two parts return. -/
theorem validate_eq_ok {catalog : List ApiMethodDescriptor} {method actualPath : String}
    {inputArgs : List (String × Value)} {m : ApiMatch} :
    validate catalog method actualPath inputArgs = .ok m ↔
      find catalog method actualPath = .ok (m.descriptor, m.pathParams) ∧
        validateArgs method m.descriptor.matched inputArgs = .ok m.args := by
  unfold validate
  rcases find catalog method actualPath with e | ⟨d, ps⟩
  · simp [bind, Except.bind]
  · rcases ha : validateArgs method d.matched inputArgs with e | args
    · simp only [bind, Except.bind, ha, Except.ok.injEq, Prod.mk.injEq, reduceCtorEq, false_iff]
      intro hparts
      obtain ⟨⟨hd, _⟩, hm⟩ := hparts
      rw [← hd, ha] at hm
      cases hm
    · simp only [bind, Except.bind, ha, pure, Except.pure, Except.ok.injEq, Prod.mk.injEq]
      constructor
      · intro h
        cases h
        exact ⟨⟨rfl, rfl⟩, ha⟩
      · intro hparts
        obtain ⟨⟨hd, hps⟩, hm⟩ := hparts
        rw [← hd, ha] at hm
        cases m
        cases hm
        rw [hd, hps]

/-- **What `validate` accepts** is an endpoint of the catalog, of the method, and the path is one
    of its template. -/
theorem validate_ok {catalog : List ApiMethodDescriptor} {method actualPath : String}
    {inputArgs : List (String × Value)} {m : ApiMatch}
    (h : validate catalog method actualPath inputArgs = .ok m) :
    m.descriptor ∈ catalog ∧ m.descriptor.method = Text.toUpperCase method ∧
      m.descriptor.template.exec actualPath.toList = some m.pathParams := by
  have hfind := (validate_eq_ok.mp h).1
  unfold find at hfind
  split at hfind
  · rename_i r hf
    obtain ⟨d, hd, hm⟩ := List.exists_of_findSome?_eq_some hf
    cases hfind
    split at hm
    · rename_i hmeth
      obtain ⟨ps, hps, e⟩ := Option.map_eq_some_iff.mp hm
      cases e
      exact ⟨hd, hmeth, hps⟩
    · cases hm
  · cases hfind

/-! ## 4. Paths of a template -/

omit [Text.Unicode] in
/-- A plain word is written as it is. -/
theorem encSegment_word {s : List Char} (h : ∀ c ∈ s, isWordChar c = true) :
    Url.encSegment s = s := by
  induction s with
  | nil => rfl
  | cons c s ih =>
    have hc : Url.encPath c = [c] := by
      have hset : Url.pathSet c = false := by
        have hw := h c List.mem_cons_self
        by_cases hlt : c.toNat < 128
        · have hb : ∀ n : Fin 128, isWordChar (Char.ofNat n.val) = true →
              Url.pathSet (Char.ofNat n.val) = false := by decide +kernel
          have := hb ⟨c.toNat, hlt⟩
          rw [Char.ofNat_toNat] at this
          exact this hw
        · exact absurd hw (by
            simp only [isWordChar, Char.isAlphanum, Char.isAlpha, Char.isUpper, Char.isLower,
              Char.isDigit, Bool.or_eq_true, Bool.and_eq_true, decide_eq_true_eq, beq_iff_eq,
              not_or, not_and]
            have h1 : 128 ≤ c.toNat := by omega
            have h2 : c.toNat = c.val.toNat := rfl
            refine ⟨⟨⟨⟨fun _ h => ?_, fun _ h => ?_⟩, fun _ h => ?_⟩, ?_⟩, ?_⟩
            · have h3 : c.val.toNat ≤ 90 := h
              omega
            · have h3 : c.val.toNat ≤ 122 := h
              omega
            · have h3 : c.val.toNat ≤ 57 := h
              omega
            · rintro rfl; exact absurd h1 (by decide)
            · rintro rfl; exact absurd h1 (by decide))
      rw [Url.encPath, Url.percentEncode, hset]
      rfl
    show Url.encPath c ++ Url.encSegment s = _
    rw [hc, ih fun d hd => h d (List.mem_cons_of_mem _ hd), List.singleton_append]

omit [Text.Unicode] in
/-- A percent-encoded segment is empty only if the segment is. -/
theorem encSegment_eq_nil {s : List Char} : Url.encSegment s = [] ↔ s = [] := by
  cases s with
  | nil => simp [Url.encSegment]
  | cons c s =>
    have : 0 < (Url.encPath c).length := Url.percentEncode_length_pos Url.pathSet c
    constructor
    · intro h
      have hlen := congrArg List.length h
      rw [Url.length_encSegment_cons, List.length_nil] at hlen
      omega
    · intro h; cases h

omit [Text.Unicode] in
/-- **The parameters of a template determine the path**: segments that match with the encoded
    parameters are the encoded segments. -/
theorem matchSegments_encoded : ∀ {ss : List Segment} {xs ys ps : List (List Char)},
    (∀ s ∈ ss, s.plain = true) → matchSegments ss xs = some ps →
    (matchSegments ss ys = some (ps.map Url.encSegment) ↔ ys = xs.map Url.encSegment)
  | [], xs, ys, ps, _, h => by
      cases xs with
      | nil =>
        cases h
        cases ys <;> simp [matchSegments]
      | cons x xs => cases h
  | .word s :: ss, xs, ys, ps, hw, h => by
      cases xs with
      | nil => cases h
      | cons x xs =>
        rw [matchSegments] at h
        split at h
        · rename_i hx
          have hs := encSegment_word (List.all_eq_true.mp (hw (.word s) List.mem_cons_self))
          have ih := fun ys => @matchSegments_encoded _ _ ys _
            (fun s hs => hw s (List.mem_cons_of_mem _ hs)) h
          cases ys with
          | nil => simp [matchSegments]
          | cons y ys =>
            rw [matchSegments, List.map_cons, List.cons.injEq, ← ih ys, hx, hs]
            split
            · rename_i hy; simp [hy]
            · rename_i hy; simp [hy]
        · cases h
  | .param n :: ss, xs, ys, ps, hw, h => by
      cases xs with
      | nil => cases h
      | cons x xs =>
        rw [matchSegments] at h
        split at h
        · cases h
        · rename_i hx
          obtain ⟨ps', hps, rfl⟩ := Option.map_eq_some_iff.mp h
          have ih := fun ys => @matchSegments_encoded _ _ ys _
            (fun s hs => hw s (List.mem_cons_of_mem _ hs)) hps
          cases ys with
          | nil => simp [matchSegments]
          | cons y ys =>
            rw [matchSegments, List.map_cons, List.map_cons, List.cons.injEq, ← ih ys]
            split
            · rename_i hy
              simp only [reduceCtorEq, false_iff, not_and]
              intro e
              rw [hy] at e
              exact absurd (encSegment_eq_nil.mp e.symm) hx
            · rcases matchSegments ss ys with _ | q <;> simp

end ProxmoxMcp
