/-
  File:      ProxmoxMcp/Lib/Json.lean
  Subject:   ECMASCRIPT VALUES AND JSON: the values a parsed payload consists of, their property
             access, `JSON.stringify`, `JSON.parse` and `String(value)`. Nothing here names the
             repository.

  A number is NaN, an infinity or a rational: the decimal its text denotes. Rounding to 64 bits
  and magnitudes beyond them are left out, so two different decimals are two different numbers.
  An object is the list of its properties in the order the language enumerates them: array
  indices first, ascending, then the other keys by insertion.
-/
import ProxmoxMcp.Lib.Text

namespace Js

/-! ## 1. Values -/

inductive Number where
  | nan
  | infinity (negative : Bool)
  | rat (q : Rat)
  deriving DecidableEq, Repr

inductive Value where
  | undefined
  | null
  | bool (b : Bool)
  | num (n : Number)
  | str (s : String)
  | arr (vs : List Value)
  | obj (properties : List (String × Value))
  deriving Repr

instance : Inhabited Value := ⟨.undefined⟩

mutual

/-- Equality of values, as a program. -/
def Value.same : Value → Value → Bool
  | .undefined, .undefined => true
  | .null, .null => true
  | .bool b, .bool c => b == c
  | .num n, .num m => n == m
  | .str s, .str t => s == t
  | .arr vs, .arr ws => sameElements vs ws
  | .obj ps, .obj qs => sameProperties ps qs
  | _, _ => false

def sameElements : List Value → List Value → Bool
  | [], [] => true
  | v :: vs, w :: ws => v.same w && sameElements vs ws
  | _, _ => false

def sameProperties : List (String × Value) → List (String × Value) → Bool
  | [], [] => true
  | (k, v) :: ps, (l, w) :: qs => k == l && v.same w && sameProperties ps qs
  | _, _ => false

end

mutual

theorem Value.same_iff : ∀ v w : Value, v.same w = true ↔ v = w
  | .undefined, w | .null, w => by cases w <;> simp [Value.same]
  | .bool b, w => by cases w <;> simp [Value.same]
  | .num n, w => by cases w <;> simp [Value.same]
  | .str s, w => by cases w <;> simp [Value.same]
  | .arr vs, w => by cases w <;> simp [Value.same, sameElements_iff]
  | .obj ps, w => by cases w <;> simp [Value.same, sameProperties_iff]

theorem sameElements_iff : ∀ vs ws : List Value, sameElements vs ws = true ↔ vs = ws
  | [], ws => by cases ws <;> simp [sameElements]
  | v :: vs, ws => by
      cases ws <;> simp [sameElements, Value.same_iff v, sameElements_iff vs]

theorem sameProperties_iff : ∀ ps qs : List (String × Value), sameProperties ps qs = true ↔ ps = qs
  | [], qs => by cases qs <;> simp [sameProperties]
  | (k, v) :: ps, qs => by
      cases qs <;> simp [sameProperties, Value.same_iff v, sameProperties_iff ps, Prod.ext_iff,
        and_assoc]

end

instance : DecidableEq Value := fun v w => decidable_of_iff _ (Value.same_iff v w)

/-- The number of a natural. -/
def Value.nat (n : Nat) : Value := .num (.rat n)

/-- `typeof v === "object" && v !== null`. -/
def Value.isObject : Value → Bool
  | .arr _ | .obj _ => true
  | _ => false

/-- The value of a key in a property list. -/
def lookup (key : String) : List (String × Value) → Value
  | [] => .undefined
  | (k, v) :: ps => if k = key then v else lookup key ps

/-- Is the key present? -/
def hasKey (key : String) (ps : List (String × Value)) : Bool := ps.any fun p => p.1 == key

/-- `v[key]` on a record; `undefined` where there is no such property. -/
def Value.get (v : Value) (key : String) : Value :=
  match v with
  | .obj ps => lookup key ps
  | _ => .undefined

/-- An array index: a numeral without leading zeros. -/
def arrayIndex (key : String) : Option Nat :=
  match key.toList with
  | [] => none
  | ['0'] => some 0
  | '0' :: _ => none
  | cs => if cs.all Char.isDigit then
      let n := cs.foldl (fun n c => 10 * n + (c.toNat - 48)) 0
      if n < 4294967295 then some n else none
    else none

/-- Does the new key `k` come before the present key `k'`? -/
def comesBefore (k k' : String) : Bool :=
  match arrayIndex k, arrayIndex k' with
  | some n, some n' => n < n'
  | some _, none => true
  | none, _ => false

/-- `o[key] = v`: a present key keeps its place, a new index goes to its order, a new name to the
    end. -/
def setKey (key : String) (v : Value) : List (String × Value) → List (String × Value)
  | [] => [(key, v)]
  | (k, w) :: ps =>
      if k = key then (k, v) :: ps
      else if hasKey key ps then (k, w) :: setKey key v ps
      else if comesBefore key k then (key, v) :: (k, w) :: ps
      else (k, w) :: setKey key v ps

/-- An object has each key once. -/
def DistinctKeys (ps : List (String × Value)) : Prop := (ps.map Prod.fst).Nodup

/-- Setting a key adds at most that key. -/
theorem mem_setKey {key k : String} {v : Value} : ∀ {ps : List (String × Value)},
    k ∈ (setKey key v ps).map Prod.fst ↔ k = key ∨ k ∈ ps.map Prod.fst
  | [] => by simp [setKey]
  | (k', w) :: ps => by
      have ih := @mem_setKey key k v ps
      rw [setKey]
      split
      · rename_i h
        subst h
        simp
      · split
        · rw [List.map_cons, List.mem_cons, ih, List.map_cons, List.mem_cons]
          tauto
        · split
          · simp
          · rw [List.map_cons, List.mem_cons, ih, List.map_cons, List.mem_cons]
            tauto

theorem hasKey_iff {key : String} {ps : List (String × Value)} :
    hasKey key ps = true ↔ key ∈ ps.map Prod.fst := by
  simp [hasKey, List.any_eq_true, List.mem_map]

theorem lookup_of_mem {p : String × Value} : ∀ {ps : List (String × Value)}, DistinctKeys ps →
    p ∈ ps → lookup p.1 ps = p.2
  | [], _, hp => by cases hp
  | q :: ps, hd, hp => by
      rw [lookup]
      rcases List.mem_cons.mp hp with he | hp
      · rw [he, if_pos rfl]
      · have hne : q.1 ≠ p.1 := by
          intro e
          exact (List.nodup_cons.mp hd).1 (e ▸ List.mem_map_of_mem hp)
        rw [if_neg hne, lookup_of_mem (List.nodup_cons.mp hd).2 hp]

theorem mem_of_hasKey {key : String} {ps : List (String × Value)} (hd : DistinctKeys ps)
    (h : hasKey key ps = true) : (key, lookup key ps) ∈ ps := by
  obtain ⟨p, hp, he⟩ := List.mem_map.mp (hasKey_iff.mp h)
  have hval := lookup_of_mem hd hp
  rw [← he, hval]
  exact hp

/-- **Setting a key keeps the keys distinct.** -/
theorem distinctKeys_setKey {key : String} {v : Value} : ∀ {ps : List (String × Value)},
    DistinctKeys ps → DistinctKeys (setKey key v ps)
  | [], _ => by simp [setKey, DistinctKeys]
  | (k, w) :: ps, h => by
      have hk : k ∉ ps.map Prod.fst := (List.nodup_cons.mp h).1
      have hps : DistinctKeys ps := (List.nodup_cons.mp h).2
      have ih := @distinctKeys_setKey key v ps hps
      rw [setKey]
      split
      · exact h
      · rename_i hne
        have hcons : DistinctKeys ((k, w) :: setKey key v ps) := by
          refine List.nodup_cons.mpr ⟨fun hm => ?_, ih⟩
          rcases mem_setKey.mp hm with h' | h'
          · exact hne h'
          · exact hk h'
        split
        · exact hcons
        · rename_i hno
          split
          · refine List.nodup_cons.mpr ⟨fun hm => ?_, h⟩
            rcases List.mem_cons.mp hm with h' | h'
            · exact hne h'.symm
            · exact hno (hasKey_iff.mpr h')
          · exact hcons

/-- A new name goes to the end. -/
theorem setKey_new {key : String} (hname : arrayIndex key = none) (v : Value) :
    ∀ {ps : List (String × Value)}, (∀ p ∈ ps, p.1 ≠ key) → setKey key v ps = ps ++ [(key, v)]
  | [], _ => rfl
  | (k, w) :: ps, h => by
      have hkey : hasKey key ps = false := by
        rw [Bool.eq_false_iff]
        intro hkey
        obtain ⟨p, hp, he⟩ := List.any_eq_true.mp hkey
        exact h p (List.mem_cons_of_mem _ hp) (beq_iff_eq.mp he)
      have hbefore : comesBefore key k = false := by rw [comesBefore, hname]
      rw [setKey, if_neg (h (k, w) List.mem_cons_self), hkey, hbefore,
        setKey_new hname v fun p hp => h p (List.mem_cons_of_mem _ hp)]
      rfl

/-- A present key keeps its place. -/
theorem keys_setKey {key : String} {v : Value} : ∀ {ps : List (String × Value)},
    hasKey key ps = true → (setKey key v ps).map Prod.fst = ps.map Prod.fst
  | [], h => by cases h
  | (k, w) :: ps, h => by
      rw [setKey]
      split
      · rfl
      · rename_i hne
        have hps : hasKey key ps = true := by
          rw [hasKey_iff, List.map_cons, List.mem_cons] at h
          exact hasKey_iff.mpr (h.resolve_left fun e => hne e.symm)
        rw [if_pos hps, List.map_cons, List.map_cons, keys_setKey hps]

/-! ## 2. Numbers as text -/

/-- The least `k` below the fuel with `d ∣ 10 ^ (k₀ + k)`, added to `k₀`. -/
def decimalPlaces (d : Nat) : Nat → Nat → Nat
  | 0, k => k
  | fuel + 1, k => if 10 ^ k % d = 0 then k else decimalPlaces d fuel (k + 1)

/-- Trailing zeros off, counted. -/
def stripZeros : List Char → List Char × Nat
  | s => ((s.reverse.dropWhile (· = '0')).reverse, (s.reverse.takeWhile (· = '0')).length)

/-- `Number::toString` of the positive decimal `digits × 10 ^ (point - digits.length)`. -/
def layoutNumber (digits : List Char) (point : Int) : List Char :=
  let k : Int := digits.length
  if k ≤ point ∧ point ≤ 21 then digits ++ List.replicate (point - k).toNat '0'
  else if 0 < point ∧ point ≤ 21 then
    digits.take point.toNat ++ '.' :: digits.drop point.toNat
  else if -6 < point ∧ point ≤ 0 then
    '0' :: '.' :: List.replicate (-point).toNat '0' ++ digits
  else
    let e := point - 1
    let exponent := 'e' :: (if 0 ≤ e then '+' else '-') :: Nat.toDigits 10 e.natAbs
    match digits with
    | [d] => d :: exponent
    | d :: ds => d :: '.' :: ds ++ exponent
    | [] => exponent

/-- `String(q)`. -/
def ratText (q : Rat) : List Char :=
  if q.den = 1 ∧ q.num.natAbs < 10 ^ 21 then
    if q.num < 0 then '-' :: Nat.toDigits 10 q.num.natAbs else Nat.toDigits 10 q.num.natAbs
  else
    let places := decimalPlaces q.den q.den 0
    let all := Nat.toDigits 10 (q.num.natAbs * 10 ^ places / q.den)
    let body := layoutNumber (stripZeros all).1 ((all.length : Int) - places)
    if q.num < 0 then '-' :: body else body

def Number.text : Number → List Char
  | .nan => ['N', 'a', 'N']
  | .infinity false => "Infinity".toList
  | .infinity true => "-Infinity".toList
  | .rat q => ratText q

/-- The text of a natural below 10²¹ is its decimal numeral. -/
theorem ratText_nat {n : Nat} (h : n < 10 ^ 21) : ratText (n : Rat) = Nat.toDigits 10 n := by
  have hd : (n : Rat).den = 1 := Rat.den_natCast n
  have hn : (n : Rat).num = n := Rat.num_natCast n
  have hneg : ¬ ((n : Int) < 0) := by omega
  rw [ratText, hd, hn, Int.natAbs_natCast, if_pos ⟨rfl, h⟩, if_neg hneg]

/-! ## 3. JSON.stringify -/

/-- One hexadecimal digit, lower case. -/
def hexDigit (n : Nat) : Char := "0123456789abcdef".toList.getD n '0'

/-- One character of a quoted string. -/
def quoteChar (c : Char) : List Char :=
  if c = '"' then ['\\', '"']
  else if c = '\\' then ['\\', '\\']
  else if c.toNat = 8 then ['\\', 'b']
  else if c = '\t' then ['\\', 't']
  else if c = '\n' then ['\\', 'n']
  else if c.toNat = 12 then ['\\', 'f']
  else if c = '\r' then ['\\', 'r']
  else if c.toNat < 32 then ['\\', 'u', '0', '0', hexDigit (c.toNat / 16), hexDigit (c.toNat % 16)]
  else [c]

/-- A quoted string. -/
def quoteText (s : String) : List Char := '"' :: s.toList.flatMap quoteChar ++ ['"']

mutual

/-- `JSON.stringify(v)`, `none` for `undefined`. -/
def stringifyValue : Value → Option (List Char)
  | .undefined => none
  | .null => some "null".toList
  | .bool true => some "true".toList
  | .bool false => some "false".toList
  | .num (.rat q) => some (ratText q)
  | .num _ => some "null".toList
  | .str s => some (quoteText s)
  | .arr vs => some ('[' :: Text.joinWith [','] (stringifyArray vs) ++ [']'])
  | .obj ps => some ('{' :: Text.joinWith [','] (stringifyProperties ps) ++ ['}'])

/-- The elements of an array; `undefined` is written as `null`. -/
def stringifyArray : List Value → List (List Char)
  | [] => []
  | v :: vs => (stringifyValue v).getD "null".toList :: stringifyArray vs

/-- The properties of an object; those that are `undefined` are left out. -/
def stringifyProperties : List (String × Value) → List (List Char)
  | [] => []
  | (k, v) :: ps =>
      match stringifyValue v with
      | none => stringifyProperties ps
      | some t => (quoteText k ++ ':' :: t) :: stringifyProperties ps

end

/-- `${JSON.stringify(v)}`: `undefined` becomes the word. -/
def stringifyText (v : Value) : String :=
  match stringifyValue v with
  | none => "undefined"
  | some t => String.ofList t

/-! ## 4. String(value) -/

mutual

/-- `String(v)`. -/
def textOf : Value → List Char
  | .undefined => "undefined".toList
  | .null => "null".toList
  | .bool true => "true".toList
  | .bool false => "false".toList
  | .num n => n.text
  | .str s => s.toList
  | .arr vs => Text.joinWith [','] (textOfElements vs)
  | .obj _ => "[object Object]".toList

/-- The elements of an array as `join` writes them: nothing for `undefined` and `null`. -/
def textOfElements : List Value → List (List Char)
  | [] => []
  | .undefined :: vs => [] :: textOfElements vs
  | .null :: vs => [] :: textOfElements vs
  | v :: vs => textOf v :: textOfElements vs

end

/-- `String(v)`. -/
def toText (v : Value) : String := String.ofList (textOf v)

mutual

/-- Does `String(v)` return? Not where an object has a `toString` of its own: no value here is a
    function. -/
def hasText : Value → Bool
  | .arr vs => haveTexts vs
  | .obj ps => !hasKey "toString" ps
  | _ => true

def haveTexts : List Value → Bool
  | [] => true
  | v :: vs => hasText v && haveTexts vs

end

/-- `String(v)`, with its failure. -/
def tryText (v : Value) : Except String (List Char) :=
  if hasText v then .ok (textOf v) else .error "Cannot convert object to primitive value"

/-! ## 5. JSON.parse -/

/-- JSON's four spaces. -/
def isJsonSpace (c : Char) : Bool := c == ' ' || c == '\t' || c == '\n' || c == '\r'

def skipSpace (s : List Char) : List Char := s.dropWhile isJsonSpace

/-- The value of a hexadecimal digit. -/
def hexValue (c : Char) : Option Nat :=
  if '0' ≤ c ∧ c ≤ '9' then some (c.toNat - 48)
  else if 'a' ≤ c ∧ c ≤ 'f' then some (c.toNat - 87)
  else if 'A' ≤ c ∧ c ≤ 'F' then some (c.toNat - 55)
  else none

/-- Four hexadecimal digits. -/
def hexFour : List Char → Option (Nat × List Char)
  | a :: b :: c :: d :: s => do
      let a ← hexValue a
      let b ← hexValue b
      let c ← hexValue c
      let d ← hexValue d
      return (((a * 16 + b) * 16 + c) * 16 + d, s)
  | _ => none

/-- The inside of a quoted string, up to its closing quote. An escaped pair of surrogates is one
    character; a lone one is no text. -/
def parseString : Nat → List Char → List Char → Option (List Char × List Char)
  | 0, _, _ => none
  | fuel + 1, acc, s =>
      match s with
      | [] => none
      | '"' :: s => some (acc.reverse, s)
      | '\\' :: c :: s =>
          match c with
          | '"' => parseString fuel ('"' :: acc) s
          | '\\' => parseString fuel ('\\' :: acc) s
          | '/' => parseString fuel ('/' :: acc) s
          | 'b' => parseString fuel ('\u0008' :: acc) s
          | 'f' => parseString fuel ('\u000c' :: acc) s
          | 'n' => parseString fuel ('\n' :: acc) s
          | 'r' => parseString fuel ('\r' :: acc) s
          | 't' => parseString fuel ('\t' :: acc) s
          | 'u' =>
              match hexFour s with
              | none => none
              | some (n, s') =>
                  if 0xd800 ≤ n ∧ n < 0xdc00 then
                    match s' with
                    | '\\' :: 'u' :: s'' =>
                        match hexFour s'' with
                        | some (n', s''') =>
                            if 0xdc00 ≤ n' ∧ n' < 0xe000 then
                              parseString fuel
                                (Char.ofNat (0x10000 + (n - 0xd800) * 1024 + (n' - 0xdc00)) :: acc) s'''
                            else none
                        | none => none
                    | _ => none
                  else if 0xdc00 ≤ n ∧ n < 0xe000 then none
                  else parseString fuel (Char.ofNat n :: acc) s'
          | _ => none
      | c :: s => if c.toNat < 32 then none else parseString fuel (c :: acc) s

/-- The digits in front, and the rest. -/
def spanDigits (s : List Char) : List Char × List Char := s.span Char.isDigit

/-- The value of a digit string. -/
def digitsValue (ds : List Char) : Nat := Nat.ofDigitChars 10 ds 0

/-- A JSON number: sign, integer part without leading zeros, fraction, exponent. -/
def parseNumber (s : List Char) : Option (Rat × List Char) :=
  let (neg, s) := match s with
    | '-' :: s => (true, s)
    | s => (false, s)
  let (whole, s) := match s with
    | '0' :: s => (['0'], s)
    | s => spanDigits s
  if whole.isEmpty then none
  else
    let frac : Option (List Char × List Char) := match s with
      | '.' :: s => if (spanDigits s).1.isEmpty then none else some (spanDigits s)
      | s => some ([], s)
    match frac with
    | none => none
    | some (fraction, s) =>
      let expo : Option (Int × List Char) := match s with
        | c :: s' =>
            if c = 'e' ∨ c = 'E' then
              let (eneg, s') := match s' with
                | '-' :: s' => (true, s')
                | '+' :: s' => (false, s')
                | s' => (false, s')
              if (spanDigits s').1.isEmpty then none
              else
                let e : Int := digitsValue (spanDigits s').1
                some (if eneg then -e else e, (spanDigits s').2)
            else some (0, s)
        | [] => some (0, [])
      match expo with
      | none => none
      | some (e, s) =>
        let mantissa : Int := digitsValue (whole ++ fraction)
        let scale := e - fraction.length
        let q : Rat := if 0 ≤ scale then mantissa * 10 ^ scale.toNat
          else mkRat mantissa (10 ^ (-scale).toNat)
        some (if neg then -q else q, s)

mutual

/-- One JSON value in front of the text. -/
def parseValue : Nat → List Char → Option (Value × List Char)
  | 0, _ => none
  | fuel + 1, s =>
      match skipSpace s with
      | 'n' :: 'u' :: 'l' :: 'l' :: s => some (.null, s)
      | 't' :: 'r' :: 'u' :: 'e' :: s => some (.bool true, s)
      | 'f' :: 'a' :: 'l' :: 's' :: 'e' :: s => some (.bool false, s)
      | '"' :: s => (parseString (s.length + 1) [] s).map fun (t, s) => (.str (String.ofList t), s)
      | '[' :: s =>
          match skipSpace s with
          | ']' :: s => some (.arr [], s)
          | s => parseElements fuel [] s
      | '{' :: s =>
          match skipSpace s with
          | '}' :: s => some (.obj [], s)
          | s => parseMembers fuel [] s
      | s => (parseNumber s).map fun (q, s) => (.num (.rat q), s)

/-- The elements of an array, up to its closing bracket. -/
def parseElements : Nat → List Value → List Char → Option (Value × List Char)
  | 0, _, _ => none
  | fuel + 1, acc, s =>
      match parseValue fuel s with
      | none => none
      | some (v, s) =>
          match skipSpace s with
          | ',' :: s => parseElements fuel (v :: acc) s
          | ']' :: s => some (.arr (v :: acc).reverse, s)
          | _ => none

/-- The members of an object, up to its closing brace. A repeated key takes the later value. -/
def parseMembers : Nat → List (String × Value) → List Char → Option (Value × List Char)
  | 0, _, _ => none
  | fuel + 1, acc, s =>
      match skipSpace s with
      | '"' :: s =>
          match parseString (s.length + 1) [] s with
          | none => none
          | some (k, s) =>
              match skipSpace s with
              | ':' :: s =>
                  match parseValue fuel s with
                  | none => none
                  | some (v, s) =>
                      let acc := setKey (String.ofList k) v acc
                      match skipSpace s with
                      | ',' :: s => parseMembers fuel acc s
                      | '}' :: s => some (.obj acc, s)
                      | _ => none
              | _ => none
      | _ => none

end

/-- `JSON.parse` on the characters of a text. -/
def parseText (text : List Char) : Option Value :=
  match parseValue (2 * text.length + 2) text with
  | some (v, s) => if (skipSpace s).isEmpty then some v else none
  | none => none

/-- `JSON.parse(text)`, `none` where it throws. -/
def parse (text : String) : Option Value := parseText text.toList

/-- The text of a value is read as its characters. -/
theorem parse_stringifyText {v : Value} {t : List Char} (h : stringifyValue v = some t) :
    parse (stringifyText v) = parseText t := by
  rw [stringifyText, h, parse, String.toList_ofList]

example : (parse "\x7b\"b\": [1, -2.50e1, \"\\u0041\"], \"2\": null, \"b\": true\x7d").map stringifyText =
    some "\x7b\"2\":null,\"b\":true\x7d" := by decide +kernel

example : (parse "[1e21, 0.5, 1.25, 123456789, -0.000001, 1e-7]").map stringifyText =
    some "[1e+21,0.5,1.25,123456789,-0.000001,1e-7]" := by decide +kernel

/-! ## 6. Number(value) -/

/-- The value of a non-empty numeral in the radix. -/
def radixValue (radix : Nat) : List Char → Option Nat
  | [] => none
  | cs => cs.foldl (fun n c => do
      let n ← n
      let d ← hexValue c
      if d < radix then some (n * radix + d) else none) (some 0)

/-- A decimal literal without sign: digits on either side of an optional point, an exponent. -/
def decimalLiteral (s : List Char) : Option Rat :=
  let (whole, s) := spanDigits s
  let (fraction, s) := match s with
    | '.' :: s => spanDigits s
    | s => ([], s)
  if whole.isEmpty && fraction.isEmpty then none
  else
    let exponent : Option Int := match s with
      | [] => some 0
      | c :: s => if c = 'e' ∨ c = 'E' then
          let (negative, s) := match s with
            | '-' :: s => (true, s)
            | '+' :: s => (false, s)
            | s => (false, s)
          if s.isEmpty || !s.all Char.isDigit then none
          else some (if negative then -(digitsValue s : Int) else digitsValue s)
        else none
    exponent.map fun (e : Int) =>
      let mantissa : Int := digitsValue (whole ++ fraction)
      let scale := e - fraction.length
      if 0 ≤ scale then mantissa * 10 ^ scale.toNat else mkRat mantissa (10 ^ (-scale).toNat)

/-- A decimal literal or `Infinity`, of the sign. -/
def signedLiteral (negative : Bool) (s : List Char) : Number :=
  if s = "Infinity".toList then .infinity negative
  else match decimalLiteral s with
    | some q => .rat (if negative then -q else q)
    | none => .nan

/-- `Number(s)` of a string. -/
def numberOfText (s : List Char) : Number :=
  match Text.trim s with
  | [] => .rat 0
  | '-' :: s => signedLiteral true s
  | '+' :: s => signedLiteral false s
  | '0' :: c :: s =>
      let radix := if c = 'x' ∨ c = 'X' then some 16 else if c = 'o' ∨ c = 'O' then some 8
        else if c = 'b' ∨ c = 'B' then some 2 else none
      match radix with
      | none => signedLiteral false ('0' :: c :: s)
      | some radix => match radixValue radix s with
        | some n => .rat n
        | none => .nan
  | s => signedLiteral false s

mutual

/-- Does the conversion of a parsed value to a primitive throw? It does where an object in reach
    has a `toString` of its own, which is no function. -/
def noPrimitive : Value → Bool
  | .arr vs => noPrimitiveIn vs
  | .obj ps => hasKey "toString" ps
  | _ => false

def noPrimitiveIn : List Value → Bool
  | [] => false
  | v :: vs => noPrimitive v || noPrimitiveIn vs

end

/-- `Number(v)` of a parsed value, as the arithmetic operators use it. -/
def toNumber : Value → Except String Number
  | .undefined => .ok .nan
  | .null => .ok (.rat 0)
  | .bool b => .ok (.rat (if b then 1 else 0))
  | .num n => .ok n
  | .str s => .ok (numberOfText s.toList)
  | v =>
      if noPrimitive v then .error "Cannot convert object to primitive value"
      else .ok (numberOfText (textOf v))

/-- The product with a positive integer. -/
def Number.times (n : Number) (k : Nat) : Number :=
  match n with
  | .rat q => .rat (q * k)
  | n => n

/-- `n + m`. -/
def Number.plus : Number → Number → Number
  | .rat p, .rat q => .rat (p + q)
  | .rat _, .infinity s | .infinity s, .rat _ => .infinity s
  | .infinity s, .infinity t => if s = t then .infinity s else .nan
  | .nan, _ | _, .nan => .nan

/-- `-n`. -/
def Number.negated : Number → Number
  | .rat q => .rat (-q)
  | .infinity s => .infinity !s
  | .nan => .nan

/-- `n < m`, which no NaN is part of. -/
def Number.below : Number → Number → Bool
  | .rat p, .rat q => p < q
  | .rat _, .infinity s => !s
  | .infinity s, .rat _ => s
  | .infinity s, .infinity t => s && !t
  | .nan, _ | _, .nan => false

/-- `n <= m`, which no NaN is part of. -/
def Number.atMost : Number → Number → Bool
  | .rat p, .rat q => p ≤ q
  | .rat _, .infinity s => !s
  | .infinity s, .rat _ => s
  | .infinity s, .infinity t => s || !t
  | .nan, _ | _, .nan => false

/-- `Math.min(n, m)`. -/
def Number.min : Number → Number → Number
  | .nan, _ | _, .nan => .nan
  | n, m => if n.atMost m then n else m

/-- The smaller of two numbers is the first exactly if that is not above the second. -/
theorem Number.min_eq_left {n : Number} {q : Rat} (hn : n ≠ .nan) :
    n.min (.rat q) = n ↔ n.atMost (.rat q) = true := by
  cases n with
  | nan => exact absurd rfl hn
  | infinity s => cases s <;> simp [Number.min, Number.atMost]
  | rat p =>
    simp only [Number.min, Number.atMost, decide_eq_true_eq]
    split
    · simp_all
    · rename_i h
      simp only [Number.rat.injEq]
      exact iff_of_false (fun e => h (e ▸ Rat.le_refl)) h

/-- The smaller of two numbers is not above the second. -/
theorem Number.min_atMost {n : Number} {q : Rat} (hn : n.min (.rat q) ≠ .nan) :
    (n.min (.rat q)).atMost (.rat q) = true := by
  cases n with
  | nan => exact absurd rfl hn
  | infinity s => cases s <;> simp [Number.min, Number.atMost]
  | rat p => by_cases hp : p ≤ q <;> simp [Number.min, Number.atMost, hp]

/-- `String(v)` of a parsed value. -/
def toStringValue (v : Value) : Except String String :=
  if noPrimitive v then .error "Cannot convert object to primitive value" else .ok (toText v)

/-- `v === w` of two values of which neither was made of the other: objects are never equal. -/
def Value.strictEquals : Value → Value → Bool
  | .undefined, .undefined | .null, .null => true
  | .bool b, .bool c => b = c
  | .num .nan, _ => false
  | .num n, .num m => n = m
  | .str s, .str t => s = t
  | _, _ => false

/-- Strictly equal values are the same. -/
theorem Value.eq_of_strictEquals {v w : Value} (h : v.strictEquals w = true) : v = w := by
  unfold Value.strictEquals at h
  split at h
  · rfl
  · rfl
  · rw [of_decide_eq_true h]
  · cases h
  · rw [of_decide_eq_true h]
  · rw [of_decide_eq_true h]
  · cases h

@[simp] theorem Value.strictEquals_str {v : Value} {s : String} :
    v.strictEquals (.str s) = true ↔ v = .str s := by
  constructor
  · exact Value.eq_of_strictEquals
  · intro h
    rw [h]
    exact decide_eq_true rfl

/-- `Boolean(v)`. -/
def Value.truthy : Value → Bool
  | .undefined | .null => false
  | .bool b => b
  | .num (.rat q) => q ≠ 0
  | .num .nan => false
  | .num (.infinity _) => true
  | .str s => s ≠ ""
  | .arr _ | .obj _ => true

example : [" 12 ", "0x1F", "-.5", "1e3", "", "1_0", "Infinity", "0b2"].map (numberOfText ·.toList) =
    [.rat 12, .rat 31, .rat (-1/2), .rat 1000, .rat 0, .nan, .infinity false, .nan] := by
  decide +kernel

/-! ## 7. Members of an object -/

/-- The names every object has from `Object.prototype`. -/
def objectPrototype : List String :=
  ["constructor", "__defineGetter__", "__defineSetter__", "hasOwnProperty", "__lookupGetter__",
    "__lookupSetter__", "isPrototypeOf", "propertyIsEnumerable", "toString", "valueOf",
    "__proto__", "toLocaleString"]

/-- What `o[key]` finds: a property of its own, one of `Object.prototype`, or nothing. -/
inductive Member where
  | own (v : Value)
  | inherited (key : String)
  | missing
  deriving DecidableEq

/-- `o[key]`. -/
def member (key : String) (ps : List (String × Value)) : Member :=
  if hasKey key ps then .own (lookup key ps)
  else if key ∈ objectPrototype then .inherited key
  else .missing

/-- `o[key] = v`. Where `__proto__` is no property of its own, it is a setter that leaves the
    properties as they are. -/
def assign (key : String) (v : Value) (ps : List (String × Value)) : List (String × Value) :=
  if key = "__proto__" ∧ hasKey key ps = false then ps else setKey key v ps

/-- `delete o[key]`. -/
def eraseKey (key : String) (ps : List (String × Value)) : List (String × Value) :=
  ps.filter fun p => p.1 ≠ key

@[simp] theorem hasKey_nil {key : String} : hasKey key [] = false := rfl

theorem lookup_setKey {key k : String} {v : Value} : ∀ {ps : List (String × Value)},
    lookup k (setKey key v ps) = if key = k then v else lookup k ps
  | [] => rfl
  | (k', w) :: ps => by
      have ih := @lookup_setKey key k v ps
      rw [setKey]
      split
      · rename_i h
        subst h
        simp only [lookup]
        split <;> rfl
      · rename_i h
        have hrest : lookup k ((k', w) :: setKey key v ps) =
            if key = k then v else lookup k ((k', w) :: ps) := by
          simp only [lookup, ih]
          by_cases hk : key = k
          · have hne : k' ≠ k := fun e => h (e.trans hk.symm)
            rw [if_neg hne, if_pos hk, if_pos hk]
          · rw [if_neg hk, if_neg hk]
        split
        · exact hrest
        · split
          · rfl
          · exact hrest

theorem hasKey_setKey {key k : String} {v : Value} {ps : List (String × Value)} :
    hasKey k (setKey key v ps) = true ↔ k = key ∨ hasKey k ps = true := by
  rw [hasKey_iff, hasKey_iff, mem_setKey]

theorem lookup_eraseKey {key k : String} (h : k ≠ key) : ∀ {ps : List (String × Value)},
    lookup k (eraseKey key ps) = lookup k ps
  | [] => rfl
  | (k', w) :: ps => by
      have ih := @lookup_eraseKey key k h ps
      rw [eraseKey, List.filter_cons]
      split
      · simp only [lookup]
        rw [← ih, eraseKey]
      · rename_i hk
        have hk' : k' = key := by simpa using hk
        rw [lookup, if_neg fun e => h (e.symm.trans hk'), ← ih, eraseKey]

theorem hasKey_eraseKey {key k : String} {ps : List (String × Value)} :
    hasKey k (eraseKey key ps) = true ↔ k ≠ key ∧ hasKey k ps = true := by
  simp only [hasKey, eraseKey, List.any_eq_true, List.mem_filter, beq_iff_eq, decide_eq_true_eq]
  constructor
  · intro hparts
    obtain ⟨p, ⟨hp, hne⟩, e⟩ := hparts
    exact ⟨e ▸ hne, p, hp, e⟩
  · intro hparts
    obtain ⟨hne, p, hp, e⟩ := hparts
    exact ⟨p, ⟨hp, e ▸ hne⟩, e⟩

theorem member_eq_own {key : String} {v : Value} {ps : List (String × Value)} :
    member key ps = .own v ↔ hasKey key ps = true ∧ lookup key ps = v := by
  unfold member
  split
  · rename_i h
    simp [h]
  · rename_i h
    constructor
    · intro he
      split at he <;> cases he
    · exact fun he => absurd he.1 h

/-- Only the own properties of another key matter to a member. -/
theorem member_congr {key : String} {ps qs : List (String × Value)}
    (hkey : hasKey key ps = hasKey key qs) (hval : lookup key ps = lookup key qs) :
    member key ps = member key qs := by
  rw [member, member, hkey, hval]

/-- **An assignment keeps the keys distinct.** -/
theorem distinctKeys_assign {key : String} {v : Value} {ps : List (String × Value)}
    (h : DistinctKeys ps) : DistinctKeys (assign key v ps) := by
  unfold assign
  split
  · exact h
  · exact distinctKeys_setKey h

/-- **An assignment changes its own member only.** -/
theorem member_assign_ne {key k : String} {v : Value} {ps : List (String × Value)} (h : k ≠ key) :
    member k (assign key v ps) = member k ps := by
  rw [assign]
  split
  · rfl
  · refine member_congr ?_ ?_
    · rw [Bool.eq_iff_iff, hasKey_setKey]
      exact or_iff_right h
    · rw [lookup_setKey, if_neg (Ne.symm h)]

theorem hasKey_assign_ne {key k : String} {v : Value} {ps : List (String × Value)} (h : k ≠ key) :
    hasKey k (assign key v ps) = hasKey k ps := by
  rw [Bool.eq_iff_iff, assign]
  split
  · rfl
  · rw [hasKey_setKey]
    exact or_iff_right h

/-- **What was assigned is there**, unless the setter of `__proto__` took it. -/
theorem member_assign_self {key : String} {v : Value} {ps : List (String × Value)} :
    member key (assign key v ps) = .own v ↔ key ≠ "__proto__" ∨ hasKey key ps = true := by
  rw [assign]
  split
  · rename_i h
    rw [member, h.2, h.1]
    simp [objectPrototype]
  · rename_i h
    have hkey : hasKey key (setKey key v ps) = true := hasKey_setKey.mpr (.inl rfl)
    have hor : key ≠ "__proto__" ∨ hasKey key ps = true := by
      rw [← Bool.not_eq_false, ← not_and_or]
      exact h
    rw [member, if_pos hkey, lookup_setKey, if_pos rfl]
    exact iff_of_true rfl hor

/-- **A deletion changes its own member only.** -/
theorem member_eraseKey_ne {key k : String} {ps : List (String × Value)} (h : k ≠ key) :
    member k (eraseKey key ps) = member k ps := by
  refine member_congr ?_ (lookup_eraseKey h)
  rw [Bool.eq_iff_iff, hasKey_eraseKey]
  exact and_iff_right h

/-- **What was deleted is gone**, unless it is inherited. -/
theorem member_eraseKey_self {key : String} {ps : List (String × Value)} :
    member key (eraseKey key ps) = .missing ↔ key ∉ objectPrototype := by
  have hno : hasKey key (eraseKey key ps) = false := by
    rw [← Bool.not_eq_true, hasKey_eraseKey]
    exact fun h => h.1 rfl
  rw [member, hno]
  simp

end Js
