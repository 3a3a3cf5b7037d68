/-
  File:      ProxmoxMcp/Lib/Chunks.lean
  Subject:   UTF-8 IN CHUNKS: when the chunks of an encoded text, each decoded for itself, give the
             text. Nothing here names the repository.

  A byte that continues a character is never read as the start of one without U+FFFD being written.
  So a decoder writes at least as many characters as there are other bytes, and one more where it
  begins with a continuing byte. The bytes of a text have exactly one other byte for each character,
  whence a chunk that begins inside a character makes the result too long.
-/
import ProxmoxMcp.Lib.Utf8

namespace Utf8

/-- `10xxxxxx`. -/
def isContinuation (b : UInt8) : Bool := within 0x80 0xBF b

/-- The bytes that continue no character. -/
def starts (s : List UInt8) : Nat := s.countP fun b => !isContinuation b

/-- The chunk begins with a byte that continues a character. -/
def BeginsInside (chunk : List UInt8) : Prop := ∃ b ∈ chunk.head?, isContinuation b = true

instance (chunk : List UInt8) : Decidable (BeginsInside chunk) :=
  inferInstanceAs (Decidable (∃ b ∈ chunk.head?, isContinuation b = true))

@[simp] theorem starts_nil : starts [] = 0 := rfl

theorem starts_append (s t : List UInt8) : starts (s ++ t) = starts s + starts t :=
  List.countP_append

theorem starts_cons_of_start {b : UInt8} (h : isContinuation b = false) (s : List UInt8) :
    starts (b :: s) = starts s + 1 :=
  List.countP_cons_of_pos (by rw [h]; rfl)

theorem starts_cons_of_continuation {b : UInt8} (h : isContinuation b = true) (s : List UInt8) :
    starts (b :: s) = starts s :=
  List.countP_cons_of_neg (by rw [h]; decide)

theorem starts_cons_le (b : UInt8) (s : List UInt8) : starts (b :: s) ≤ starts s + 1 := by
  cases h : isContinuation b with
  | true => rw [starts_cons_of_continuation h]; exact Nat.le_succ _
  | false => exact Nat.le_of_eq (starts_cons_of_start h s)

/-! ## 1. A character -/

theorem continuation_ofNat {n : Nat} (h : n < 64) : isContinuation (.ofNat (0x80 + n)) = true :=
  within_ofNat (by omega) (by omega) (by omega)

theorem start_ofNat {n : Nat} (h : n < 256) (h1 : n < 0x80 ∨ 0xBF < n) :
    isContinuation (.ofNat n) = false := by
  cases hc : isContinuation (.ofNat n) with
  | false => rfl
  | true =>
    rw [isContinuation, within_iff, toNat_ofNat h] at hc
    omega

/-- A character is one byte and bytes that continue it. -/
theorem encodeChar_shape (c : Char) : ∃ b s, encodeChar c = b :: s ∧ isContinuation b = false ∧
    ∀ d ∈ s, isContinuation d = true := by
  have hr := char_range c
  unfold encodeChar
  dsimp only
  split
  · exact ⟨_, [], rfl, start_ofNat (by omega) (by omega), fun d hd => absurd hd List.not_mem_nil⟩
  · split
    · refine ⟨_, _, rfl, start_ofNat (by omega) (by omega), ?_⟩
      simp only [List.forall_mem_singleton]
      exact continuation_ofNat (by omega)
    · split
      · refine ⟨_, _, rfl, start_ofNat (by omega) (by omega), ?_⟩
        simp only [List.forall_mem_cons]
        exact ⟨continuation_ofNat (by omega), continuation_ofNat (by omega), by simp⟩
      · refine ⟨_, _, rfl, start_ofNat (by omega) (by omega), ?_⟩
        simp only [List.forall_mem_cons]
        exact ⟨continuation_ofNat (by omega), continuation_ofNat (by omega),
          continuation_ofNat (by omega), by simp⟩

theorem starts_of_continuing {s : List UInt8} (h : ∀ d ∈ s, isContinuation d = true) :
    starts s = 0 :=
  List.countP_eq_zero.mpr fun d hd => by rw [h d hd]; decide

/-- **A text has one start for each character.** -/
theorem starts_encode : ∀ s : List Char, starts (encode s) = s.length
  | [] => rfl
  | c :: s => by
      obtain ⟨b, t, hchar, hb, ht⟩ := encodeChar_shape c
      rw [encode_cons, starts_append, starts_encode s, hchar, starts_cons_of_start hb,
        starts_of_continuing ht, List.length_cons]
      omega

/-! ## 2. What a decoder writes -/

theorem continuation_of_within {lo hi : Nat} {b : UInt8} (h : within lo hi b = true)
    (hlo : 0x80 ≤ lo) (hhi : hi ≤ 0xBF) : isContinuation b = true := by
  rw [within_iff] at h
  exact within_iff.mpr ⟨Nat.le_trans hlo h.1, Nat.le_trans h.2 hhi⟩

theorem continuation_of_bounds3 {a : Nat} {b : UInt8}
    (h : within (bounds3 a).1 (bounds3 a).2 b = true) : isContinuation b = true := by
  refine continuation_of_within h ?_ ?_
  · unfold bounds3
    split <;> [decide; (split <;> decide)]
  · unfold bounds3
    split <;> [decide; (split <;> decide)]

theorem continuation_of_bounds4 {a : Nat} {b : UInt8}
    (h : within (bounds4 a).1 (bounds4 a).2 b = true) : isContinuation b = true := by
  refine continuation_of_within h ?_ ?_
  · unfold bounds4
    split <;> [decide; (split <;> decide)]
  · unfold bounds4
    split <;> [decide; (split <;> decide)]

/-- One character is written: behind the first byte only bytes that continue one are passed over. -/
inductive WritesOne : List UInt8 → List Char → Prop
  | intro (a : UInt8) (passed rest : List UInt8) (x : Char)
      (h : ∀ d ∈ passed, isContinuation d = true) : WritesOne (a :: (passed ++ rest)) (x :: decode rest)

section WritesOne

variable {a b c d : UInt8} {s : List UInt8} {x : Char}

theorem writesOne_alone : WritesOne (a :: s) (x :: decode s) := .intro a [] s x (by simp)

theorem writesOne_two (hb : isContinuation b = true) : WritesOne (a :: b :: s) (x :: decode s) :=
  .intro a [b] s x (by simpa using hb)

theorem writesOne_three (hb : isContinuation b = true) (hc : isContinuation c = true) :
    WritesOne (a :: b :: c :: s) (x :: decode s) :=
  .intro a [b, c] s x (by simp [hb, hc])

theorem writesOne_four (hb : isContinuation b = true) (hc : isContinuation c = true)
    (hd : isContinuation d = true) : WritesOne (a :: b :: c :: d :: s) (x :: decode s) :=
  .intro a [b, c, d] s x (by simp [hb, hc, hd])

end WritesOne

/-- **A step of the decoder.** -/
theorem decode_writesOne {s : List UInt8} (hne : s ≠ []) : WritesOne s (decode s) := by
  fun_cases decode s with
  | case1 => exact absurd rfl hne
  | case4 a _ _ b s hb => exact writesOne_two hb
  | case7 a _ _ _ b hb => exact @writesOne_two a b [] replacement (continuation_of_bounds3 hb)
  | case8 a _ _ _ b hb c s hc => exact writesOne_three (continuation_of_bounds3 hb) hc
  | case9 a _ _ _ b hb c s _ => exact writesOne_two (continuation_of_bounds3 hb)
  | case12 a _ _ _ _ b hb => exact @writesOne_two a b [] replacement (continuation_of_bounds4 hb)
  | case13 a _ _ _ _ b hb c hc =>
    exact @writesOne_three a b c [] replacement (continuation_of_bounds4 hb) hc
  | case14 a _ _ _ _ b hb c hc d s hd => exact writesOne_four (continuation_of_bounds4 hb) hc hd
  | case15 a _ _ _ _ b hb c hc d s _ => exact writesOne_three (continuation_of_bounds4 hb) hc
  | case16 a _ _ _ _ b hb c s _ => exact writesOne_two (continuation_of_bounds4 hb)
  -- nothing is passed over in the other cases
  | case3 a | case6 a | case11 a => exact @writesOne_alone a [] replacement
  | _ => exact writesOne_alone

/-- **A decoder writes a character for every start.** -/
theorem starts_le_decode : ∀ (n : Nat) {s : List UInt8}, s.length ≤ n → starts s ≤ (decode s).length
  | 0, s, hn => by
      cases List.eq_nil_of_length_eq_zero (Nat.le_zero.mp hn)
      exact Nat.zero_le _
  | n + 1, s, hn => by
      by_cases hne : s = []
      · rw [hne]
        exact Nat.zero_le _
      have hone := decode_writesOne hne
      generalize decode s = written at hone
      cases hone with
      | intro a passed rest x hpassed =>
        have hrest : rest.length ≤ n := by
          rw [List.length_cons, List.length_append] at hn
          omega
        have hle := starts_cons_le a (passed ++ rest)
        rw [starts_append, starts_of_continuing hpassed, Nat.zero_add] at hle
        exact Nat.le_trans hle (Nat.succ_le_succ (starts_le_decode n hrest))

/-- **It writes one more** where it begins inside a character. -/
theorem starts_lt_decode {s : List UInt8} (h : BeginsInside s) : starts s < (decode s).length := by
  obtain ⟨b, hhead, hb⟩ := h
  cases s with
  | nil => cases hhead
  | cons a s =>
    cases hhead
    have hone := decode_writesOne (List.cons_ne_nil b s)
    rw [starts_cons_of_continuation hb]
    generalize decode (b :: s) = written at hone
    cases hone with
    | intro _ passed rest x hpassed =>
      rw [starts_append, starts_of_continuing hpassed, Nat.zero_add]
      exact Nat.lt_succ_of_le (starts_le_decode rest.length (Nat.le_refl _))

/-! ## 3. The chunks of a text -/

/-- What is behind a character boundary begins no chunk inside a character. -/
theorem not_beginsInside_encode (s : List Char) : ¬ BeginsInside (encode s) := by
  intro h
  obtain ⟨b, hhead, hb⟩ := h
  cases s with
  | nil => cases hhead
  | cons c s =>
    obtain ⟨a, t, hchar, ha, -⟩ := encodeChar_shape c
    rw [encode_cons, hchar] at hhead
    cases hhead
    rw [ha] at hb
    cases hb

/-- **A text is cut between characters** where what follows does not begin inside one. -/
theorem cut_encode : ∀ {s : List Char} {chunk rest : List UInt8}, encode s = chunk ++ rest →
    ¬ BeginsInside rest → ∃ s₁ s₂, s = s₁ ++ s₂ ∧ chunk = encode s₁ ∧ rest = encode s₂
  | [], chunk, rest, h, _ => by
      obtain ⟨hchunk, hrest⟩ := List.append_eq_nil_iff.mp h.symm
      exact ⟨[], [], rfl, hchunk, hrest⟩
  | c :: s, chunk, rest, h, hrest => by
      rw [encode_cons] at h
      rcases List.append_eq_append_iff.mp h with ⟨tail, hchunk, htail⟩ | ⟨tail, hchar, htail⟩
      · obtain ⟨s₁, s₂, hs, h₁, h₂⟩ := cut_encode htail hrest
        exact ⟨c :: s₁, s₂, by rw [hs]; rfl, by rw [hchunk, h₁, encode_cons], h₂⟩
      · obtain ⟨b, t, hshape, -, ht⟩ := encodeChar_shape c
        cases chunk with
        | nil => exact ⟨[], c :: s, rfl, rfl, by rw [htail, encode_cons, hchar, List.nil_append]⟩
        | cons b' chunk =>
          rw [hshape] at hchar
          obtain ⟨-, rfl⟩ := List.cons.inj hchar
          cases tail with
          | nil =>
            refine ⟨[c], s, rfl, ?_, htail⟩
            rw [encode_cons, encode_nil, List.append_nil, hshape, hchar, List.append_nil]
          | cons d tail =>
            -- the cut is inside this character
            have hd : isContinuation d = true :=
              ht d (List.mem_append_right chunk List.mem_cons_self)
            exact absurd ⟨d, by rw [htail]; rfl, hd⟩ hrest

theorem not_beginsInside_flatten : ∀ {chunks : List (List UInt8)},
    (∀ chunk ∈ chunks, ¬ BeginsInside chunk) → ¬ BeginsInside chunks.flatten
  | [], _, h => not_beginsInside_encode [] h
  | [] :: _, hchunks, h =>
      not_beginsInside_flatten (fun chunk hc => hchunks chunk (List.mem_cons_of_mem _ hc)) h
  | (_ :: _) :: _, hchunks, h => hchunks _ List.mem_cons_self h

theorem starts_le_chunks : ∀ chunks : List (List UInt8),
    starts chunks.flatten ≤ (chunks.flatMap decode).length
  | [] => Nat.le_refl 0
  | chunk :: chunks => by
      rw [List.flatten_cons, List.flatMap_cons, starts_append, List.length_append]
      exact Nat.add_le_add (starts_le_decode chunk.length (Nat.le_refl _)) (starts_le_chunks chunks)

theorem starts_lt_chunks : ∀ {chunks : List (List UInt8)},
    (∃ chunk ∈ chunks, BeginsInside chunk) → starts chunks.flatten < (chunks.flatMap decode).length
  | [], h => by
      obtain ⟨chunk, hchunk, -⟩ := h
      exact absurd hchunk List.not_mem_nil
  | chunk :: chunks, h => by
      rw [List.flatten_cons, List.flatMap_cons, starts_append, List.length_append]
      obtain ⟨inside, hmem, hinside⟩ := h
      rcases List.mem_cons.mp hmem with rfl | hmem
      · exact Nat.add_lt_add_of_lt_of_le (starts_lt_decode hinside) (starts_le_chunks chunks)
      · exact Nat.add_lt_add_of_le_of_lt (starts_le_decode chunk.length (Nat.le_refl _))
          (starts_lt_chunks ⟨inside, hmem, hinside⟩)

/-- Chunks that are cut between characters. -/
theorem decode_chunks : ∀ {chunks : List (List UInt8)} {s : List Char},
    chunks.flatten = encode s → (∀ chunk ∈ chunks, ¬ BeginsInside chunk) →
      chunks.flatMap decode = s
  | [], s, h, _ => by
      cases s with
      | nil => rfl
      | cons c s =>
        rw [encode_cons] at h
        exact absurd (List.append_eq_nil_iff.mp h.symm).1 (encodeChar_ne_nil c)
  | chunk :: chunks, s, h, hchunks => by
      have htail : ∀ c ∈ chunks, ¬ BeginsInside c := fun c hc => hchunks c (List.mem_cons_of_mem _ hc)
      obtain ⟨s₁, s₂, hs, h₁, h₂⟩ := cut_encode h.symm (not_beginsInside_flatten htail)
      rw [List.flatMap_cons, h₁, decode_encode, decode_chunks h₂ htail, hs]

/-- **The chunks of a text, each decoded for itself, are the text** exactly where none of them begins
    inside a character. -/
theorem decode_chunks_iff {chunks : List (List UInt8)} {s : List Char}
    (h : chunks.flatten = encode s) :
    chunks.flatMap decode = s ↔ ∀ chunk ∈ chunks, ¬ BeginsInside chunk := by
  constructor
  · intro heq chunk hchunk hinside
    have hlt := starts_lt_chunks ⟨chunk, hchunk, hinside⟩
    rw [h, starts_encode, heq] at hlt
    exact Nat.lt_irrefl _ hlt
  · exact decode_chunks h

/-- Bytes below `0x80` begin no chunk inside a character. -/
theorem not_beginsInside_ascii {chunk : List UInt8} (h : ∀ b ∈ chunk, b.toNat < 0x80) :
    ¬ BeginsInside chunk := by
  intro hinside
  obtain ⟨b, hhead, hb⟩ := hinside
  have hlt := h b (List.mem_of_mem_head? hhead)
  rw [isContinuation, within_iff] at hb
  omega

end Utf8
