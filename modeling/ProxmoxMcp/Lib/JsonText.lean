/-
  File:      ProxmoxMcp/Lib/JsonText.lean
  Subject:   JSON.parse AFTER JSON.stringify: texts without `undefined` and with natural numbers
             are read back as what they were written for. Nothing here names the repository.

  * `parseString_quote`     -- a quoted text;
  * `parseNumber_nat`       -- a natural, with or without an exponent;
  * `parse_stringifyText_of` -- every value that `Writes`;
  * `newline_not_mem_number` -- a number is written on one line.
-/
import ProxmoxMcp.Lib.Json

namespace Js

/-! ## 1. Quoted strings -/

theorem hexValue_hexDigit : ∀ n < 16, hexValue (hexDigit n) = some n := by decide

/-- A control character, written as four hexadecimal digits. -/
theorem hexFour_control {n : Nat} (h : n < 32) (s : List Char) :
    hexFour ('0' :: '0' :: hexDigit (n / 16) :: hexDigit (n % 16) :: s) = some (n, s) := by
  have h1 := hexValue_hexDigit (n / 16) (by omega)
  have h2 := hexValue_hexDigit (n % 16) (by omega)
  have h0 : hexValue '0' = some 0 := by decide
  simp only [hexFour, h0, h1, h2, Option.bind_eq_bind, Option.bind_some, Option.pure_def]
  rw [show ((0 * 16 + 0) * 16 + n / 16) * 16 + n % 16 = n by omega]

/-- One quoted character is one round of the reader. -/
theorem parseString_quoteChar (fuel : Nat) (acc : List Char) (c : Char) (s : List Char) :
    parseString (fuel + 1) acc (quoteChar c ++ s) = parseString fuel (c :: acc) s := by
  have hnat : Char.ofNat c.toNat = c := Char.ofNat_toNat c
  unfold quoteChar
  split
  · rename_i h
    rw [h]
    rfl
  split
  · rename_i h
    rw [h]
    rfl
  split
  · rename_i h
    rw [h] at hnat
    rw [← hnat]
    rfl
  split
  · rename_i h
    rw [h]
    rfl
  split
  · rename_i h
    rw [h]
    rfl
  split
  · rename_i h
    rw [h] at hnat
    rw [← hnat]
    rfl
  split
  · rename_i h
    rw [h]
    rfl
  split
  · rename_i h
    show parseString (fuel + 1) acc ('\\' :: 'u' :: '0' :: '0' :: hexDigit (c.toNat / 16) ::
      hexDigit (c.toNat % 16) :: s) = _
    rw [parseString.eq_def]
    simp only [hexFour_control h, hnat]
    rw [if_neg (by omega), if_neg (by omega)]
  · rename_i hquote hslash _ _ _ _ _ hcontrol
    show parseString (fuel + 1) acc (c :: s) = _
    rw [parseString.eq_def]
    split
    · rename_i heq
      cases heq
    · rename_i hfuel
      cases hfuel
      split
      · rename_i heq
        cases heq
      · rename_i heq
        exact absurd (List.cons.inj heq).1 hquote
      · rename_i heq
        exact absurd (List.cons.inj heq).1 hslash
      · rename_i heq
        cases heq
        rw [if_neg hcontrol]

/-- **The inside of a quoted text is read back.** -/
theorem parseString_quote : ∀ (s acc : List Char) (fuel : Nat) (rest : List Char),
    s.length < fuel →
    parseString fuel acc (s.flatMap quoteChar ++ '"' :: rest) = some (acc.reverse ++ s, rest)
  | [], acc, fuel, rest, h => by
      obtain ⟨fuel, rfl⟩ := Nat.exists_eq_succ_of_ne_zero (Nat.ne_of_gt h)
      rw [List.append_nil]
      rfl
  | c :: s, acc, fuel, rest, h => by
      obtain ⟨fuel, rfl⟩ := Nat.exists_eq_succ_of_ne_zero (Nat.ne_zero_of_lt h)
      rw [List.flatMap_cons, List.append_assoc, parseString_quoteChar,
        parseString_quote s (c :: acc) fuel rest (Nat.lt_of_succ_lt_succ h)]
      simp

/-- A quoted character is at least one character. -/
theorem quoteChar_length (c : Char) : 1 ≤ (quoteChar c).length := by
  unfold quoteChar
  split_ifs <;> simp

theorem length_le_quoted : ∀ s : List Char, s.length ≤ (s.flatMap quoteChar).length
  | [] => Nat.le_refl 0
  | c :: s => by
      have h1 := quoteChar_length c
      have h2 := length_le_quoted s
      rw [List.flatMap_cons, List.length_append, List.length_cons]
      omega

/-- A quoted text after its opening quote. -/
theorem parseString_quoteText (s : String) (rest : List Char) :
    parseString ((s.toList.flatMap quoteChar ++ '"' :: rest).length + 1) []
      (s.toList.flatMap quoteChar ++ '"' :: rest) = some (s.toList, rest) := by
  rw [parseString_quote s.toList [] _ rest]
  · rfl
  · have h := length_le_quoted s.toList
    rw [List.length_append, List.length_cons]
    omega

/-! ## 2. Numbers -/

/-- What may follow a value in a text: nothing, a comma or a closing bracket. -/
def Follows (rest : List Char) : Prop := ∀ c s, rest = c :: s → c = ',' ∨ c = ']' ∨ c = '}'

theorem follows_nil : Follows [] := nofun

theorem follows_comma (s : List Char) : Follows (',' :: s) := by
  intro c s' h
  cases h
  exact .inl rfl

theorem follows_bracket (s : List Char) : Follows (']' :: s) := by
  intro c s' h
  cases h
  exact .inr (.inl rfl)

theorem follows_brace (s : List Char) : Follows ('}' :: s) := by
  intro c s' h
  cases h
  exact .inr (.inr rfl)

/-- Nothing that may follow a value goes on with a number. -/
theorem Follows.no_number {rest : List Char} (h : Follows rest) (c : Char) (s : List Char)
    (hrest : rest = c :: s) : c.isDigit = false ∧ c ≠ '.' ∧ c ≠ 'e' ∧ c ≠ 'E' := by
  rcases h c s hrest with rfl | rfl | rfl <;> decide

/-- The digits in front of what is none. -/
theorem spanDigits_append {ds rest : List Char} (hds : ∀ c ∈ ds, c.isDigit = true)
    (hrest : ∀ c s, rest = c :: s → c.isDigit = false) : spanDigits (ds ++ rest) = (ds, rest) := by
  rw [spanDigits, List.span_eq_takeWhile_dropWhile, List.takeWhile_append_of_pos hds,
    List.dropWhile_append_of_pos hds]
  cases rest with
  | nil => simp
  | cons c s => simp [hrest c s rfl]

theorem toDigits_isDigit (n : Nat) : ∀ c ∈ Nat.toDigits 10 n, c.isDigit = true :=
  fun _ hc => Nat.isDigit_of_mem_toDigits (by decide) (by decide) hc

/-- The numeral of a positive number begins with no zero. -/
theorem toDigits_head {n : Nat} (h : 0 < n) :
    ∃ d ds, Nat.toDigits 10 n = d :: ds ∧ d ≠ '0' := by
  induction n using Nat.strongRecOn with
  | ind n ih =>
    by_cases hlt : n < 10
    · refine ⟨n.digitChar, [], Nat.toDigits_of_lt_base hlt, ?_⟩
      have hall : ∀ k < 10, 0 < k → k.digitChar ≠ '0' := by decide
      exact hall n hlt h
    · obtain ⟨d, ds, hd, hne⟩ := ih (n / 10) (by omega) (by omega)
      rw [Nat.toDigits_of_base_le (by decide) (by omega), hd]
      exact ⟨d, ds ++ _, rfl, hne⟩

/-- The whole part of a numeral: its first digits, a zero standing alone. -/
def wholePart : List Char → List Char × List Char
  | '0' :: s => (['0'], s)
  | s => spanDigits s

/-- The exponent of a number, zero where there is none. -/
def exponentPart (s : List Char) : Option (Int × List Char) :=
  match s with
  | c :: s' =>
      if c = 'e' ∨ c = 'E' then
        let (eneg, s') := match s' with
          | '-' :: s' => (true, s')
          | '+' :: s' => (false, s')
          | s' => (false, s')
        if (spanDigits s').1.isEmpty then none
        else
          let e : Int := digitsValue (spanDigits s').1
          some (if eneg then -e else e, (spanDigits s').2)
      else some (0, s)
  | [] => some (0, [])

/-- The fraction of a number, empty where there is none. -/
def fractionPart (s : List Char) : Option (List Char × List Char) :=
  match s with
  | '.' :: s => if (spanDigits s).1.isEmpty then none else some (spanDigits s)
  | s => some ([], s)

/-- The sign of a number. -/
def signPart : List Char → Bool × List Char
  | '-' :: s => (true, s)
  | s => (false, s)

/-- A number is read part by part. -/
theorem parseNumber_eq (s : List Char) : parseNumber s =
    if (wholePart (signPart s).2).1.isEmpty then none
    else
      match fractionPart (wholePart (signPart s).2).2 with
      | none => none
      | some (fraction, s') =>
        match exponentPart s' with
        | none => none
        | some (e, s'') =>
          let mantissa : Int := digitsValue ((wholePart (signPart s).2).1 ++ fraction)
          let scale := e - fraction.length
          let q : Rat := if 0 ≤ scale then mantissa * 10 ^ scale.toNat
            else mkRat mantissa (10 ^ (-scale).toNat)
          some (if (signPart s).1 then -q else q, s'') := rfl

/-- A number without a sign, whose fraction its exponent covers. -/
theorem parseNumber_parts {s s₁ s₂ s₃ whole fraction : List Char} {e : Int}
    (hsign : signPart s = (false, s)) (hwhole : wholePart s = (whole, s₁)) (hne : whole ≠ [])
    (hfraction : fractionPart s₁ = some (fraction, s₂))
    (hexponent : exponentPart s₂ = some (e, s₃)) (hscale : (fraction.length : Int) ≤ e) :
    parseNumber s =
      some (((digitsValue (whole ++ fraction) * 10 ^ (e - fraction.length).toNat : Nat) : Rat), s₃) := by
  have hempty : whole.isEmpty = false := by simpa using hne
  have hnonneg : (0 : Int) ≤ e - fraction.length := by omega
  rw [parseNumber_eq, hsign]
  simp only [hwhole, hempty, hfraction, hexponent, hnonneg, Bool.false_eq_true, if_false, if_true]
  push_cast
  rfl

/-- What follows a number is no digit, no fraction and no exponent. -/
theorem Follows.exponentPart {rest : List Char} (h : Follows rest) :
    exponentPart rest = some (0, rest) := by
  cases rest with
  | nil => rfl
  | cons c s =>
    obtain ⟨_, _, he, hE⟩ := h.no_number c s rfl
    simp only [Js.exponentPart, he, hE, or_self, if_false]

theorem fractionPart_of_ne {s : List Char} (h : ∀ t, s ≠ '.' :: t) :
    fractionPart s = some ([], s) := by
  unfold fractionPart
  split
  · exact absurd rfl (h _)
  · rfl

theorem Follows.fractionPart {rest : List Char} (h : Follows rest) :
    fractionPart rest = some ([], rest) :=
  fractionPart_of_ne fun t ht => (h.no_number '.' t ht).2.1 rfl

theorem signPart_digit {d : Char} (h : d.isDigit = true) (s : List Char) :
    signPart (d :: s) = (false, d :: s) := by
  unfold signPart
  split
  · rename_i heq
    rw [(List.cons.inj heq).1] at h
    cases h
  · rfl

theorem wholePart_of_ne {d : Char} {s : List Char} (h : d ≠ '0') :
    wholePart (d :: s) = spanDigits (d :: s) := by
  unfold wholePart
  split
  · rename_i heq
    exact absurd (List.cons.inj heq).1 h
  · rfl

/-- One digit before what is none. -/
theorem wholePart_single {d : Char} (hd : d.isDigit = true) {rest : List Char}
    (hrest : ∀ c s, rest = c :: s → c.isDigit = false) : wholePart (d :: rest) = ([d], rest) := by
  by_cases h : d = '0'
  · rw [h]
    rfl
  · rw [wholePart_of_ne h]
    exact @spanDigits_append [d] _ (fun c hc => by rwa [List.mem_singleton.mp hc]) hrest

/-- The numeral of a natural, read as the whole part. -/
theorem wholePart_toDigits (n : Nat) {rest : List Char}
    (hrest : ∀ c s, rest = c :: s → c.isDigit = false) :
    wholePart (Nat.toDigits 10 n ++ rest) = (Nat.toDigits 10 n, rest) := by
  rcases Nat.eq_zero_or_pos n with rfl | hpos
  · exact wholePart_single (by decide) hrest
  · obtain ⟨d, ds, hd, hne⟩ := toDigits_head hpos
    rw [hd, List.cons_append, wholePart_of_ne hne, ← List.cons_append, ← hd]
    exact spanDigits_append (toDigits_isDigit n) hrest

/-- A numeral begins with a digit. -/
theorem toDigits_cons (n : Nat) : ∃ d ds, Nat.toDigits 10 n = d :: ds ∧ d.isDigit = true := by
  cases hd : Nat.toDigits 10 n with
  | nil => exact absurd hd Nat.toDigits_ne_nil
  | cons d ds => exact ⟨d, ds, rfl, toDigits_isDigit n d (by rw [hd]; exact List.mem_cons_self)⟩

/-- A positive exponent. -/
theorem exponentPart_toDigits (n : Nat) {rest : List Char} (h : Follows rest) :
    exponentPart ('e' :: '+' :: Nat.toDigits 10 n ++ rest) = some ((n : Int), rest) := by
  have hspan : spanDigits (Nat.toDigits 10 n ++ rest) = (Nat.toDigits 10 n, rest) :=
    spanDigits_append (toDigits_isDigit n) fun c s hs => (h.no_number c s hs).1
  have hempty : (Nat.toDigits 10 n).isEmpty = false := by simp
  simp only [exponentPart, List.cons_append, true_or, if_true, hspan, hempty, Bool.false_eq_true,
    if_false, digitsValue, Nat.ofDigitChars_ten_toDigits]

/-- A digit string without its trailing zeros, and those. -/
theorem stripZeros_append (s : List Char) :
    (stripZeros s).1 ++ List.replicate (stripZeros s).2 '0' = s := by
  have hzeros : s.reverse.takeWhile (· = '0') =
      List.replicate (s.reverse.takeWhile (· = '0')).length '0' := by
    refine List.eq_replicate_of_mem fun c hc => ?_
    simpa using List.mem_takeWhile_imp hc
  have hsplit := congrArg List.reverse (List.takeWhile_append_dropWhile (p := (· = '0')) (l := s.reverse))
  rw [List.reverse_append, List.reverse_reverse, hzeros, List.reverse_replicate] at hsplit
  exact hsplit

/-- The text of a natural of 22 digits or more. -/
theorem ratText_large {n : Nat} (h : 10 ^ 21 ≤ n) :
    ∃ d ds zeros, Nat.toDigits 10 n = d :: ds ++ List.replicate zeros '0' ∧
      ratText (n : Rat) = d :: (if ds = [] then [] else '.' :: ds) ++
        'e' :: '+' :: Nat.toDigits 10 (ds.length + zeros) := by
  have hden : (n : Rat).den = 1 := Rat.den_natCast n
  have hnum : (n : Rat).num = n := Rat.num_natCast n
  have hlength : 22 ≤ (Nat.toDigits 10 n).length := by
    by_contra hlt
    have hle := (Nat.length_toDigits_le_iff (k := 21) (by decide : 1 < 10) (by decide)).mp
      (by omega : (Nat.toDigits 10 n).length ≤ 21)
    omega
  have hsplit := stripZeros_append (Nat.toDigits 10 n)
  cases hstrip : (stripZeros (Nat.toDigits 10 n)).1 with
  | nil =>
    rw [hstrip, List.nil_append] at hsplit
    obtain ⟨d, ds, hd, hne⟩ := toDigits_head (Nat.lt_of_lt_of_le (by decide) h)
    have hmem : d ∈ List.replicate (stripZeros (Nat.toDigits 10 n)).2 '0' := by
      rw [hsplit, hd]
      exact List.mem_cons_self
    exact absurd (List.eq_of_mem_replicate hmem) hne
  | cons d ds =>
    rw [hstrip] at hsplit
    refine ⟨d, ds, (stripZeros (Nat.toDigits 10 n)).2, hsplit.symm, ?_⟩
    have hcount := congrArg List.length hsplit
    rw [List.length_append, List.length_cons, List.length_replicate] at hcount
    have hneg : ¬((n : Int) < 0) := by omega
    have hplaces : decimalPlaces 1 1 0 = 0 := by decide
    rw [ratText, hden, hnum, Int.natAbs_natCast, if_neg (by omega), hplaces]
    simp only [Nat.pow_zero, Nat.mul_one, Nat.div_one, hstrip, if_neg hneg]
    rw [layoutNumber]
    simp only [List.length_cons]
    rw [if_neg (by omega), if_neg (by omega), if_neg (by omega)]
    have hexponent : (((Nat.toDigits 10 n).length : Int) - ((0 : Nat) : Int) - 1).natAbs =
        ds.length + (stripZeros (Nat.toDigits 10 n)).2 := by omega
    rw [hexponent, if_pos (by omega)]
    cases ds <;> simp

/-- The text of a natural begins with a digit. -/
theorem ratText_nat_cons (n : Nat) : ∃ d s, ratText (n : Rat) = d :: s ∧ d.isDigit = true := by
  by_cases hsmall : n < 10 ^ 21
  · rw [ratText_nat hsmall]
    exact toDigits_cons n
  · obtain ⟨d, ds, zeros, hall, htext⟩ := ratText_large (Nat.not_lt.mp hsmall)
    refine ⟨d, _, htext, toDigits_isDigit n d ?_⟩
    rw [hall]
    exact List.mem_cons_self

/-- **A natural is read back**, whatever follows its text. -/
theorem parseNumber_nat (n : Nat) {rest : List Char} (h : Follows rest) :
    parseNumber (ratText (n : Rat) ++ rest) = some ((n : Rat), rest) := by
  by_cases hsmall : n < 10 ^ 21
  · rw [ratText_nat hsmall]
    obtain ⟨d, ds, hd, hdigit⟩ := toDigits_cons n
    have hsign : signPart (Nat.toDigits 10 n ++ rest) = (false, Nat.toDigits 10 n ++ rest) := by
      rw [hd]
      exact signPart_digit hdigit _
    rw [parseNumber_parts hsign (wholePart_toDigits n fun c s hs => (h.no_number c s hs).1)
      Nat.toDigits_ne_nil h.fractionPart h.exponentPart (Int.le_refl 0)]
    simp [digitsValue]
  · obtain ⟨d, ds, zeros, hall, htext⟩ := ratText_large (Nat.not_lt.mp hsmall)
    have hdigits : ∀ c ∈ d :: ds, c.isDigit = true := by
      intro c hc
      refine toDigits_isDigit n c ?_
      rw [hall]
      exact List.mem_append_left _ hc
    have hd := hdigits d List.mem_cons_self
    have hfraction : fractionPart ((if ds = [] then [] else '.' :: ds) ++
        'e' :: '+' :: Nat.toDigits 10 (ds.length + zeros) ++ rest) =
        some (ds, 'e' :: '+' :: Nat.toDigits 10 (ds.length + zeros) ++ rest) := by
      by_cases hds : ds = []
      · rw [hds]
        rfl
      · rw [if_neg hds]
        show (if (spanDigits (ds ++ _ ++ rest)).1.isEmpty then none
          else some (spanDigits (ds ++ _ ++ rest))) = _
        rw [List.append_assoc, spanDigits_append (fun c hc => hdigits c (List.mem_cons_of_mem d hc))]
        · rw [if_neg (by simpa using hds)]
        · intro c s hs
          cases hs
          rfl
    have hwhole : wholePart (d :: ((if ds = [] then [] else '.' :: ds) ++
        'e' :: '+' :: Nat.toDigits 10 (ds.length + zeros) ++ rest)) =
        ([d], (if ds = [] then [] else '.' :: ds) ++
          'e' :: '+' :: Nat.toDigits 10 (ds.length + zeros) ++ rest) := by
      refine wholePart_single hd fun c s hs => ?_
      split at hs
      · cases hs
        rfl
      · cases hs
        rfl
    have hvalue : n = digitsValue ([d] ++ ds) * 10 ^ zeros := by
      have hback := congrArg (fun s => Nat.ofDigitChars 10 s 0) hall
      rw [Nat.ofDigitChars_ten_toDigits, Nat.ofDigitChars_append,
        Nat.ofDigitChars_replicate_zero] at hback
      rw [hback, digitsValue, List.singleton_append, Nat.mul_comm]
    rw [htext, List.cons_append, List.cons_append, parseNumber_parts (signPart_digit hd _) hwhole
      (List.cons_ne_nil _ _) hfraction (exponentPart_toDigits _ h) (by omega)]
    have hscale : (((ds.length + zeros : Nat) : Int) - ds.length).toNat = zeros := by omega
    rw [hscale, ← hvalue]

/-! ## 3. Values -/

/-- The properties are in the order the language gives them when they are set one by one. -/
def InOrder (ps : List (String × Value)) : Prop :=
  ∀ before p after, ps = before ++ p :: after → setKey p.1 p.2 before = before ++ [p]

/-- Names that differ are in the order they are written in. -/
theorem inOrder_of_names {ps : List (String × Value)} (hnames : ∀ p ∈ ps, arrayIndex p.1 = none)
    (hdistinct : DistinctKeys ps) : InOrder ps := by
  intro before p after hps
  subst hps
  refine setKey_new (hnames p (by simp)) p.2 fun q hq he => ?_
  rw [DistinctKeys, List.map_append, List.map_cons] at hdistinct
  have hdisjoint := (List.nodup_append.mp hdistinct).2.2
  exact hdisjoint q.1 (List.mem_map_of_mem hq) p.1 List.mem_cons_self he

theorem inOrder_single {k : String} {v : Value} (hk : arrayIndex k = none) : InOrder [(k, v)] :=
  inOrder_of_names (fun p hp => by rw [List.mem_singleton.mp hp]; exact hk)
    (by simp [DistinctKeys])

mutual

/-- The values that JSON writes in full: nothing is `undefined`, and numbers are naturals. -/
def Value.Writes : Value → Prop
  | .null | .bool _ | .str _ => True
  | .num (.rat q) => ∃ n : Nat, q = n
  | .num _ | .undefined => False
  | .arr vs => WritesAll vs
  | .obj ps => InOrder ps ∧ WritesEach ps

def WritesAll : List Value → Prop
  | [] => True
  | v :: vs => v.Writes ∧ WritesAll vs

def WritesEach : List (String × Value) → Prop
  | [] => True
  | (_, v) :: ps => v.Writes ∧ WritesEach ps

end

/-- The text of a value begins with no space and with no closing bracket. -/
structure Opens (t : List Char) : Prop where
  opens : ∃ c s, t = c :: s ∧ isJsonSpace c = false ∧ c ≠ ']' ∧ c ≠ '}'

theorem isJsonSpace_digit {d : Char} (h : d.isDigit = true) : isJsonSpace d = false := by
  rw [Bool.eq_false_iff]
  intro hspace
  simp only [isJsonSpace, Bool.or_eq_true, beq_iff_eq] at hspace
  rcases hspace with ((rfl | rfl) | rfl) | rfl <;> cases h

/-- **The text of a value that writes.** -/
theorem Value.Writes.text {v : Value} (h : v.Writes) :
    ∃ t, stringifyValue v = some t ∧ Opens t := by
  cases v with
  | undefined => exact h.elim
  | null => exact ⟨_, rfl, ⟨_, _, rfl, by decide⟩⟩
  | bool b => cases b <;> exact ⟨_, rfl, ⟨_, _, rfl, by decide⟩⟩
  | num n =>
    cases n with
    | nan => exact h.elim
    | infinity negative => exact h.elim
    | rat q =>
      obtain ⟨n, rfl⟩ := h
      obtain ⟨d, s, htext, hd⟩ := ratText_nat_cons n
      refine ⟨_, rfl, d, s, htext, isJsonSpace_digit hd, ?_, ?_⟩
      · intro e
        rw [e] at hd
        cases hd
      · intro e
        rw [e] at hd
        cases hd
  | str s => exact ⟨_, rfl, ⟨_, _, rfl, by decide⟩⟩
  | arr vs => exact ⟨_, rfl, ⟨_, _, rfl, by decide⟩⟩
  | obj ps => exact ⟨_, rfl, ⟨_, _, rfl, by decide⟩⟩

theorem skipSpace_of_opens {t : List Char} (h : Opens t) (rest : List Char) :
    skipSpace (t ++ rest) = t ++ rest := by
  obtain ⟨c, s, rfl, hc, _⟩ := h.opens
  exact List.dropWhile_cons_of_neg (by simp [hc])

theorem skipSpace_cons {c : Char} (h : isJsonSpace c = false) (s : List Char) :
    skipSpace (c :: s) = c :: s :=
  List.dropWhile_cons_of_neg (by simp [h])

/-- A text that begins with a digit is read as a number. -/
theorem parseValue_digit {d : Char} (h : d.isDigit = true) (s : List Char) (fuel : Nat) :
    parseValue (fuel + 1) (d :: s) =
      (parseNumber (d :: s)).map fun (q, s) => (.num (.rat q), s) := by
  rw [parseValue, skipSpace_cons (isJsonSpace_digit h)]
  split
  all_goals first
    | rfl
    | (rename_i heq
       rw [(List.cons.inj heq).1] at h
       cases h)

/-- What is read of an array, element by element. -/
def elementsText (vs : List Value) : List Char := Text.joinWith [','] (stringifyArray vs)

/-- What is read of an object, member by member. -/
def membersText (ps : List (String × Value)) : List Char :=
  Text.joinWith [','] (stringifyProperties ps)

theorem elementsText_single {v : Value} {t : List Char} (h : stringifyValue v = some t) :
    elementsText [v] = t := by
  simp [elementsText, stringifyArray, h, Text.joinWith]

theorem elementsText_cons {v w : Value} {vs : List Value} {t : List Char}
    (h : stringifyValue v = some t) :
    elementsText (v :: w :: vs) = t ++ ',' :: elementsText (w :: vs) := by
  simp [elementsText, stringifyArray, h, Text.joinWith]

theorem membersText_single {k : String} {v : Value} {t : List Char}
    (h : stringifyValue v = some t) : membersText [(k, v)] = quoteText k ++ ':' :: t := by
  simp [membersText, stringifyProperties, h, Text.joinWith]

theorem membersText_cons {k : String} {v : Value} {p : String × Value}
    {ps : List (String × Value)} {t : List Char} (h : stringifyValue v = some t)
    (hp : p.2.Writes) :
    membersText ((k, v) :: p :: ps) = quoteText k ++ ':' :: t ++ ',' :: membersText (p :: ps) := by
  obtain ⟨t', ht', _⟩ := hp.text
  obtain ⟨k', v'⟩ := p
  change stringifyValue v' = some t' at ht'
  simp [membersText, stringifyProperties, h, ht', Text.joinWith]

theorem elementsText_opens {v : Value} (vs : List Value) (h : v.Writes) :
    Opens (elementsText (v :: vs)) := by
  obtain ⟨t, ht, c, s, rfl, hc⟩ := h.text
  cases vs with
  | nil =>
    rw [elementsText_single ht]
    exact ⟨c, s, rfl, hc⟩
  | cons w vs =>
    rw [elementsText_cons ht]
    exact ⟨c, _, rfl, hc⟩

theorem membersText_opens (k : String) {v : Value} (ps : List (String × Value)) (h : v.Writes) :
    ∃ s, membersText ((k, v) :: ps) = '"' :: s := by
  obtain ⟨t, ht, _⟩ := h.text
  simp only [membersText, stringifyProperties, ht, quoteText, List.cons_append]
  cases stringifyProperties ps with
  | nil => exact ⟨_, rfl⟩
  | cons => exact ⟨_, rfl⟩

/-- A key in front of a value. -/
theorem parseMembers_quote (k : String) (fuel : Nat) (acc : List (String × Value))
    (s : List Char) :
    parseMembers (fuel + 1) acc (quoteText k ++ ':' :: s) =
      match parseValue fuel s with
      | none => none
      | some (v, s) =>
          match skipSpace s with
          | ',' :: s => parseMembers fuel (setKey k v acc) s
          | '}' :: s => some (.obj (setKey k v acc), s)
          | _ => none := by
  have happend : quoteText k ++ ':' :: s =
      '"' :: (k.toList.flatMap quoteChar ++ '"' :: ':' :: s) := by
    simp [quoteText]
  rw [happend, parseMembers, skipSpace_cons (by decide)]
  simp only [parseString_quoteText, skipSpace_cons (show isJsonSpace ':' = false by decide),
    String.ofList_toList] <;> rfl

/-- A quoted text, read as a value. -/
theorem parseValue_str (s : String) (rest : List Char) (fuel : Nat) :
    parseValue (fuel + 1) (quoteText s ++ rest) = some (.str s, rest) := by
  have happend : quoteText s ++ rest = '"' :: (s.toList.flatMap quoteChar ++ '"' :: rest) := by
    simp [quoteText]
  rw [happend, parseValue, skipSpace_cons (by decide)]
  show (parseString _ [] _).map _ = _
  rw [parseString_quoteText]
  simp

mutual

/-- **A value is read back**, whatever follows its text; two units of fuel for each character are
    enough. -/
theorem parseValue_stringify : ∀ (v : Value) (t rest : List Char) (fuel : Nat), v.Writes →
    stringifyValue v = some t → Follows rest → 2 * t.length ≤ fuel →
    parseValue fuel (t ++ rest) = some (v, rest)
  | .undefined, _, _, _, hw, _, _, _ => hw.elim
  | .null, t, rest, fuel, _, ht, _, hfuel => by
      cases ht
      obtain ⟨fuel, rfl⟩ := Nat.exists_eq_add_of_le' (Nat.le_trans (by decide : 1 ≤ 2 * 4) hfuel)
      rfl
  | .bool true, t, rest, fuel, _, ht, _, hfuel => by
      cases ht
      obtain ⟨fuel, rfl⟩ := Nat.exists_eq_add_of_le' (Nat.le_trans (by decide : 1 ≤ 2 * 4) hfuel)
      rfl
  | .bool false, t, rest, fuel, _, ht, _, hfuel => by
      cases ht
      obtain ⟨fuel, rfl⟩ := Nat.exists_eq_add_of_le' (Nat.le_trans (by decide : 1 ≤ 2 * 5) hfuel)
      rfl
  | .num .nan, _, _, _, hw, _, _, _ => hw.elim
  | .num (.infinity _), _, _, _, hw, _, _, _ => hw.elim
  | .num (.rat q), t, rest, fuel, hw, ht, hrest, hfuel => by
      cases ht
      obtain ⟨n, rfl⟩ := hw
      obtain ⟨d, s, htext, hd⟩ := ratText_nat_cons n
      rw [htext, List.length_cons] at hfuel
      obtain ⟨fuel, rfl⟩ := Nat.exists_eq_add_of_le' (by omega : 1 ≤ fuel)
      rw [htext, List.cons_append, parseValue_digit hd, ← List.cons_append, ← htext,
        parseNumber_nat n hrest]
      rfl
  | .str s, t, rest, fuel, _, ht, _, hfuel => by
      cases ht
      have hlength : 1 ≤ 2 * (quoteText s).length := by
        simp only [quoteText, List.length_append, List.length_cons]
        omega
      obtain ⟨fuel, rfl⟩ := Nat.exists_eq_add_of_le' (Nat.le_trans hlength hfuel)
      exact parseValue_str s rest fuel
  | .arr [], t, rest, fuel, _, ht, _, hfuel => by
      cases ht
      obtain ⟨fuel, rfl⟩ := Nat.exists_eq_add_of_le' (Nat.le_trans (by decide : 1 ≤ 2 * 2) hfuel)
      rfl
  | .arr (v :: vs), t, rest, fuel, hw, ht, _, hfuel => by
      cases ht
      change 2 * ('[' :: elementsText (v :: vs) ++ [']']).length ≤ fuel at hfuel
      rw [List.length_append, List.length_cons, List.length_singleton] at hfuel
      obtain ⟨fuel, rfl⟩ := Nat.exists_eq_add_of_le' (by omega : 1 ≤ fuel)
      obtain ⟨c, s, hopens, hc, hne, _⟩ := (elementsText_opens vs hw.1).opens
      have hskip := skipSpace_of_opens (elementsText_opens vs hw.1) (']' :: rest)
      have helements := parseElements_stringify (v :: vs) [] rest fuel (List.cons_ne_nil _ _) hw
        (by omega)
      show parseValue (fuel + 1) ('[' :: elementsText (v :: vs) ++ [']'] ++ rest) = _
      rw [List.append_assoc, List.singleton_append, List.cons_append, parseValue,
        skipSpace_cons (by decide)]
      simp only [hskip]
      split
      · rename_i heq
        rw [hopens] at heq
        exact absurd (List.cons.inj heq).1 hne
      · exact helements
  | .obj [], t, rest, fuel, _, ht, _, hfuel => by
      cases ht
      obtain ⟨fuel, rfl⟩ := Nat.exists_eq_add_of_le' (Nat.le_trans (by decide : 1 ≤ 2 * 2) hfuel)
      rfl
  | .obj ((k, v) :: ps), t, rest, fuel, hw, ht, _, hfuel => by
      cases ht
      change 2 * ('{' :: membersText ((k, v) :: ps) ++ ['}']).length ≤ fuel at hfuel
      rw [List.length_append, List.length_cons, List.length_singleton] at hfuel
      obtain ⟨fuel, rfl⟩ := Nat.exists_eq_add_of_le' (by omega : 1 ≤ fuel)
      obtain ⟨s, hopens⟩ := membersText_opens k ps hw.2.1
      have hmembers := parseMembers_stringify ((k, v) :: ps) [] rest fuel (List.cons_ne_nil _ _) hw.2
        hw.1 (by omega)
      show parseValue (fuel + 1) ('{' :: membersText ((k, v) :: ps) ++ ['}'] ++ rest) = _
      rw [List.append_assoc, List.singleton_append, List.cons_append, parseValue,
        skipSpace_cons (by decide)]
      rw [hopens, List.cons_append] at hmembers ⊢
      simp only [skipSpace_cons (show isJsonSpace '"' = false by decide)]
      exact hmembers

theorem parseElements_stringify : ∀ (vs acc : List Value) (rest : List Char) (fuel : Nat),
    vs ≠ [] → WritesAll vs → 2 * (elementsText vs).length + 2 ≤ fuel →
    parseElements fuel acc (elementsText vs ++ ']' :: rest) =
      some (.arr (acc.reverse ++ vs), rest)
  | [], _, _, _, hne, _, _ => absurd rfl hne
  | [v], acc, rest, fuel, _, ⟨hv, _⟩, hfuel => by
      obtain ⟨t, ht, _⟩ := hv.text
      rw [elementsText_single ht] at hfuel ⊢
      obtain ⟨fuel, rfl⟩ := Nat.exists_eq_add_of_le' (by omega : 1 ≤ fuel)
      rw [parseElements, parseValue_stringify v t _ fuel hv ht (follows_bracket rest) (by omega)]
      simp only [skipSpace_cons (show isJsonSpace ']' = false by decide)]
      simp
  | v :: w :: vs, acc, rest, fuel, _, ⟨hv, hvs⟩, hfuel => by
      obtain ⟨t, ht, _⟩ := hv.text
      rw [elementsText_cons ht] at hfuel ⊢
      rw [List.length_append, List.length_cons] at hfuel
      obtain ⟨fuel, rfl⟩ := Nat.exists_eq_add_of_le' (by omega : 1 ≤ fuel)
      rw [List.append_assoc, List.cons_append, parseElements,
        parseValue_stringify v t _ fuel hv ht (follows_comma _) (by omega)]
      simp only [skipSpace_cons (show isJsonSpace ',' = false by decide)]
      rw [parseElements_stringify (w :: vs) (v :: acc) rest fuel (List.cons_ne_nil _ _) hvs (by omega)]
      simp

theorem parseMembers_stringify : ∀ (ps acc : List (String × Value)) (rest : List Char)
    (fuel : Nat), ps ≠ [] → WritesEach ps → InOrder (acc ++ ps) →
    2 * (membersText ps).length + 2 ≤ fuel →
    parseMembers fuel acc (membersText ps ++ '}' :: rest) = some (.obj (acc ++ ps), rest)
  | [], _, _, _, hne, _, _, _ => absurd rfl hne
  | [(k, v)], acc, rest, fuel, _, ⟨hv, _⟩, hinorder, hfuel => by
      obtain ⟨t, ht, _⟩ := hv.text
      rw [membersText_single ht] at hfuel ⊢
      rw [List.length_append, List.length_cons] at hfuel
      obtain ⟨fuel, rfl⟩ := Nat.exists_eq_add_of_le' (by omega : 1 ≤ fuel)
      rw [List.append_assoc, List.cons_append, parseMembers_quote,
        parseValue_stringify v t _ fuel hv ht (follows_brace rest) (by omega)]
      have hset : setKey k v acc = acc ++ [(k, v)] := hinorder acc (k, v) [] rfl
      simp only [hset, skipSpace_cons (show isJsonSpace '}' = false by decide)]
  | (k, v) :: (k', w) :: ps, acc, rest, fuel, _, ⟨hv, hps⟩, hinorder, hfuel => by
      obtain ⟨t, ht, _⟩ := hv.text
      rw [membersText_cons ht hps.1] at hfuel ⊢
      simp only [List.length_append, List.length_cons] at hfuel
      obtain ⟨fuel, rfl⟩ := Nat.exists_eq_add_of_le' (by omega : 1 ≤ fuel)
      have hset : setKey k v acc = acc ++ [(k, v)] := hinorder acc (k, v) ((k', w) :: ps) rfl
      have hrest := parseMembers_stringify ((k', w) :: ps) (acc ++ [(k, v)]) rest fuel
        (List.cons_ne_nil _ _) hps (by rwa [List.append_assoc]) (by omega)
      rw [List.append_assoc, List.append_assoc, List.cons_append, List.cons_append,
        parseMembers_quote,
        parseValue_stringify v t _ fuel hv ht (follows_comma _) (by omega)]
      simp only [hset, skipSpace_cons (show isJsonSpace ',' = false by decide)]
      rw [hrest, List.append_assoc]
      rfl

end

/-- **`JSON.parse(JSON.stringify(v))` is `v`**, for every value that writes. -/
theorem parse_stringifyText_of {v : Value} (h : v.Writes) : parse (stringifyText v) = some v := by
  obtain ⟨t, ht, _⟩ := h.text
  have hvalue := parseValue_stringify v t [] (2 * t.length + 2) h ht follows_nil (by omega)
  rw [List.append_nil] at hvalue
  rw [parse_stringifyText ht, parseText, hvalue]
  rfl

/-! ## 4. The characters of a number -/

/-- What the text of a number is made of. -/
def isNumeral (c : Char) : Bool := c.isDigit || c ∈ ['.', '-', '+', 'e']

theorem all_toDigits (n : Nat) : (Nat.toDigits 10 n).all isNumeral = true :=
  List.all_eq_true.mpr fun c hc => by
    rw [isNumeral, toDigits_isDigit n c hc, Bool.true_or]

theorem all_layoutNumber {digits : List Char} (h : digits.all isNumeral = true) (point : Int) :
    (layoutNumber digits point).all isNumeral = true := by
  have hzeros : ∀ k, (List.replicate k '0').all isNumeral = true := by
    intro k
    rw [List.all_replicate]
    split <;> rfl
  have htake : ∀ k, (digits.take k).all isNumeral = true := fun k =>
    List.all_eq_true.mpr fun c hc => List.all_eq_true.mp h c (List.mem_of_mem_take hc)
  have hdrop : ∀ k, (digits.drop k).all isNumeral = true := fun k =>
    List.all_eq_true.mpr fun c hc => List.all_eq_true.mp h c (List.mem_of_mem_drop hc)
  have hpoint : isNumeral '.' = true := by decide
  have hzero : isNumeral '0' = true := by decide
  have he : isNumeral 'e' = true := by decide
  have hsign : ∀ b : Prop, [Decidable b] → isNumeral (if b then '+' else '-') = true := by
    intro b _
    split <;> decide
  rw [layoutNumber]
  split
  · rw [List.all_append, h, hzeros, Bool.and_self]
  · split
    · rw [List.all_append, htake, List.all_cons, hpoint, hdrop]
      rfl
    · split
      · rw [List.cons_append, List.cons_append, List.all_cons, List.all_cons, hzero, hpoint,
          List.all_append, hzeros, h]
        rfl
      · have hexponent : ∀ e : Int, ('e' :: (if 0 ≤ e then '+' else '-') ::
            Nat.toDigits 10 e.natAbs).all isNumeral = true := by
          intro e
          rw [List.all_cons, List.all_cons, he, hsign, all_toDigits]
          rfl
        dsimp only
        split
        · rename_i d
          rw [List.all_cons, List.all_nil, Bool.and_true] at h
          rw [List.all_cons, h, hexponent]
          rfl
        · rename_i d ds _
          rw [List.all_cons, Bool.and_eq_true] at h
          rw [List.cons_append, List.all_cons, List.cons_append, List.all_cons, h.1, hpoint,
            List.all_append, h.2, hexponent]
          rfl
        · exact hexponent _

theorem all_ratText (q : Rat) : (ratText q).all isNumeral = true := by
  have hminus : isNumeral '-' = true := by decide
  have hsigned : ∀ s : List Char, s.all isNumeral = true →
      (if q.num < 0 then '-' :: s else s).all isNumeral = true := by
    intro s hs
    split
    · rw [List.all_cons, hminus, hs]
      rfl
    · exact hs
  rw [ratText]
  split
  · exact hsigned _ (all_toDigits _)
  · refine hsigned _ (all_layoutNumber (List.all_eq_true.mpr fun c hc => ?_) _)
    have hmem := List.mem_reverse.mp (List.dropWhile_sublist _ |>.subset (List.mem_reverse.mp hc))
    exact List.all_eq_true.mp (all_toDigits _) c hmem

/-- **A number is written on one line.** -/
theorem newline_not_mem_number (n : Number) : '\n' ∉ n.text := by
  cases n with
  | nan => decide
  | infinity negative => cases negative <;> decide
  | rat q =>
    intro h
    exact absurd (List.all_eq_true.mp (all_ratText q) _ h) (by decide)

end Js
