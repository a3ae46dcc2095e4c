import ArangoStarter.Go.Strconv

/-!
# UTF-8 as package `unicode/utf8` reads it

`encoding/json` reads every string it writes or parses one rune at a time
with `utf8.DecodeRune`, and writes runes back with `utf8.EncodeRune`.  A byte
that starts no valid sequence decodes as `(RuneError, 1)`; json turns it into
U+FFFD.  So a string that goes through `json.Marshal` and `json.Unmarshal`
comes back as `coerce` of itself, which is the string itself only when it is
valid UTF-8.

* `decodeRune` follows the tables `first` and `acceptRanges` of the package:
  `acceptRange` gives the length of the sequence a byte starts and the range
  of its second byte.
* `encodeRune_decodeRune`: a rune that decodes without error encodes back to
  the same bytes.  `decodeRune_encodeRune_append` is the other direction.
* `coerce_of_validString` and `coerce_coerce`: `coerce` leaves valid UTF-8
  alone, so it is idempotent.
* `coerce_append_ascii`: an ASCII byte ends every sequence, so `coerce` works
  on the two sides of it separately.  Path separators and the other
  punctuation of the setup file are ASCII.
-/

namespace ArangoStarter.Go.Utf8

/-- `utf8.RuneError`, U+FFFD. -/
def runeError : Nat := 0xFFFD

/-- `first` and `acceptRanges`: the length of the sequence that the byte `b0`
starts, and the range of the byte after it.  `none` for an ASCII byte and for
a byte that starts no sequence. -/
def acceptRange (b0 : Nat) : Option (Nat × Nat × Nat) :=
  if b0 < 0xC2 then none
  else if b0 ≤ 0xDF then some (2, 0x80, 0xBF)
  else if b0 = 0xE0 then some (3, 0xA0, 0xBF)
  else if b0 = 0xED then some (3, 0x80, 0x9F)
  else if b0 ≤ 0xEF then some (3, 0x80, 0xBF)
  else if b0 = 0xF0 then some (4, 0x90, 0xBF)
  else if b0 ≤ 0xF3 then some (4, 0x80, 0xBF)
  else if b0 = 0xF4 then some (4, 0x80, 0x8F)
  else none

/-- `locb <= b && b <= hicb`: a continuation byte. -/
def isCont (b : UInt8) : Prop := 0x80 ≤ b.toNat ∧ b.toNat ≤ 0xBF

instance (b : UInt8) : Decidable (isCont b) := inferInstanceAs (Decidable (_ ∧ _))

/-- `utf8.DecodeRune(p)`: the first rune of `p` and the number of bytes it
takes.  A short or invalid sequence is `(RuneError, 1)`; the empty input is
`(RuneError, 0)`.  The masks `mask2`, `mask3`, `mask4` and `maskx` are the
remainders by 32, 16, 8 and 64. -/
def decodeRune : GoString → Nat × Nat
  | [] => (runeError, 0)
  | b0 :: p =>
    if b0.toNat < 0x80 then (b0.toNat, 1) else
    match acceptRange b0.toNat, p with
    | some (2, lo, hi), b1 :: _ =>
      if lo ≤ b1.toNat ∧ b1.toNat ≤ hi then (b0.toNat % 32 * 64 + b1.toNat % 64, 2)
      else (runeError, 1)
    | some (3, lo, hi), b1 :: b2 :: _ =>
      if lo ≤ b1.toNat ∧ b1.toNat ≤ hi ∧ isCont b2 then
        (b0.toNat % 16 * 4096 + b1.toNat % 64 * 64 + b2.toNat % 64, 3)
      else (runeError, 1)
    | some (4, lo, hi), b1 :: b2 :: b3 :: _ =>
      if lo ≤ b1.toNat ∧ b1.toNat ≤ hi ∧ isCont b2 ∧ isCont b3 then
        (b0.toNat % 8 * 262144 + b1.toNat % 64 * 4096 + b2.toNat % 64 * 64 + b3.toNat % 64, 4)
      else (runeError, 1)
    | _, _ => (runeError, 1)

/-- `utf8.EncodeRune`: a surrogate half or a value past U+10FFFF is written as
`RuneError`. -/
def encodeRune (r : Nat) : GoString :=
  if r ≤ 0x7F then [r.toUInt8]
  else if r ≤ 0x7FF then [(0xC0 + r / 64).toUInt8, (0x80 + r % 64).toUInt8]
  else if 0x10FFFF < r ∨ (0xD800 ≤ r ∧ r ≤ 0xDFFF) then [0xEF, 0xBF, 0xBD]
  else if r ≤ 0xFFFF then
    [(0xE0 + r / 4096).toUInt8, (0x80 + r / 64 % 64).toUInt8, (0x80 + r % 64).toUInt8]
  else
    [(0xF0 + r / 262144).toUInt8, (0x80 + r / 4096 % 64).toUInt8,
      (0x80 + r / 64 % 64).toUInt8, (0x80 + r % 64).toUInt8]

example : decodeRune [0xE2, 0x82, 0xAC] = (0x20AC, 3) := by decide
example : decodeRune [0xE2, 0x82] = (runeError, 1) := by decide
example : encodeRune 0x20AC = [0xE2, 0x82, 0xAC] := by decide

/-! ## The tables -/

theorem acceptRange_two {b0 : Nat} (h : 0xC2 ≤ b0 ∧ b0 ≤ 0xDF) :
    acceptRange b0 = some (2, 0x80, 0xBF) := by
  rw [acceptRange, if_neg (by omega), if_pos h.2]

theorem acceptRange_three {b0 : Nat} (h : 0xE0 ≤ b0 ∧ b0 ≤ 0xEF) :
    acceptRange b0 =
      some (3, if b0 = 0xE0 then 0xA0 else 0x80, if b0 = 0xED then 0x9F else 0xBF) := by
  rw [acceptRange, if_neg (by omega), if_neg (by omega)]
  by_cases h0 : b0 = 0xE0
  · rw [if_pos h0, if_pos h0, if_neg (by omega)]
  · rw [if_neg h0, if_neg h0]
    by_cases h1 : b0 = 0xED
    · rw [if_pos h1, if_pos h1]
    · rw [if_neg h1, if_neg h1, if_pos h.2]

theorem acceptRange_four {b0 : Nat} (h : 0xF0 ≤ b0 ∧ b0 ≤ 0xF4) :
    acceptRange b0 =
      some (4, if b0 = 0xF0 then 0x90 else 0x80, if b0 = 0xF4 then 0x8F else 0xBF) := by
  rw [acceptRange, if_neg (by omega), if_neg (by omega), if_neg (by omega), if_neg (by omega),
    if_neg (by omega)]
  by_cases h0 : b0 = 0xF0
  · rw [if_pos h0, if_pos h0, if_neg (by omega)]
  · rw [if_neg h0, if_neg h0]
    by_cases h1 : b0 ≤ 0xF3
    · rw [if_pos h1, if_neg (by omega)]
    · rw [if_neg h1, if_pos (by omega), if_pos (by omega)]

theorem acceptRange_some {b0 n lo hi : Nat} (h : acceptRange b0 = some (n, lo, hi)) :
    0xC2 ≤ b0 ∧ b0 ≤ 0xF4 ∧ 0x80 ≤ lo ∧ hi ≤ 0xBF ∧
    (n = 2 ∧ b0 ≤ 0xDF ∨ n = 3 ∧ 0xE0 ≤ b0 ∧ b0 ≤ 0xEF ∨ n = 4 ∧ 0xF0 ≤ b0) ∧
    (b0 = 0xE0 → lo = 0xA0) ∧ (b0 = 0xED → hi = 0x9F) ∧
    (b0 = 0xF0 → lo = 0x90) ∧ (b0 = 0xF4 → hi = 0x8F) := by
  rcases Nat.lt_or_ge b0 0xC2 with h1 | h1
  · rw [acceptRange, if_pos h1] at h
    cases h
  rcases Nat.lt_or_ge b0 0xE0 with h2 | h2
  · rw [acceptRange_two ⟨h1, by omega⟩] at h
    cases h
    omega
  rcases Nat.lt_or_ge b0 0xF0 with h3 | h3
  · rw [acceptRange_three ⟨h2, by omega⟩] at h
    cases h
    split_ifs <;> omega
  rcases Nat.lt_or_ge 0xF4 b0 with h4 | h4
  · rw [acceptRange, if_neg (by omega), if_neg (by omega), if_neg (by omega), if_neg (by omega),
      if_neg (by omega), if_neg (by omega), if_neg (by omega), if_neg (by omega)] at h
    cases h
  · rw [acceptRange_four ⟨h3, h4⟩] at h
    cases h
    split_ifs <;> omega

/-! ## The three sequence forms -/

/-- A two-byte sequence of RFC 3629. -/
def Seq2 (b0 b1 : Nat) : Prop := 0xC2 ≤ b0 ∧ b0 ≤ 0xDF ∧ 0x80 ≤ b1 ∧ b1 ≤ 0xBF

/-- A three-byte sequence of RFC 3629: no overlong form and no surrogate half. -/
def Seq3 (b0 b1 b2 : Nat) : Prop :=
  0xE0 ≤ b0 ∧ b0 ≤ 0xEF ∧ 0x80 ≤ b1 ∧ b1 ≤ 0xBF ∧ 0x80 ≤ b2 ∧ b2 ≤ 0xBF ∧
    (b0 = 0xE0 → 0xA0 ≤ b1) ∧ (b0 = 0xED → b1 ≤ 0x9F)

/-- A four-byte sequence of RFC 3629: no overlong form and nothing past U+10FFFF. -/
def Seq4 (b0 b1 b2 b3 : Nat) : Prop :=
  0xF0 ≤ b0 ∧ b0 ≤ 0xF4 ∧ 0x80 ≤ b1 ∧ b1 ≤ 0xBF ∧ 0x80 ≤ b2 ∧ b2 ≤ 0xBF ∧
    0x80 ≤ b3 ∧ b3 ≤ 0xBF ∧ (b0 = 0xF0 → 0x90 ≤ b1) ∧ (b0 = 0xF4 → b1 ≤ 0x8F)

theorem decodeRune_seq2 {b0 b1 : UInt8} (q : GoString) (h : Seq2 b0.toNat b1.toNat) :
    decodeRune (b0 :: b1 :: q) = (b0.toNat % 32 * 64 + b1.toNat % 64, 2) := by
  unfold Seq2 at h
  simp only [decodeRune, if_neg (show ¬ b0.toNat < 0x80 by omega),
    acceptRange_two (show 0xC2 ≤ b0.toNat ∧ b0.toNat ≤ 0xDF by omega)]
  rw [if_pos (by omega)]

theorem decodeRune_seq3 {b0 b1 b2 : UInt8} (q : GoString) (h : Seq3 b0.toNat b1.toNat b2.toNat) :
    decodeRune (b0 :: b1 :: b2 :: q) =
      (b0.toNat % 16 * 4096 + b1.toNat % 64 * 64 + b2.toNat % 64, 3) := by
  unfold Seq3 at h
  simp only [decodeRune, if_neg (show ¬ b0.toNat < 0x80 by omega),
    acceptRange_three (show 0xE0 ≤ b0.toNat ∧ b0.toNat ≤ 0xEF by omega)]
  rw [if_pos]
  unfold isCont
  split_ifs <;> omega

theorem decodeRune_seq4 {b0 b1 b2 b3 : UInt8} (q : GoString)
    (h : Seq4 b0.toNat b1.toNat b2.toNat b3.toNat) :
    decodeRune (b0 :: b1 :: b2 :: b3 :: q) =
      (b0.toNat % 8 * 262144 + b1.toNat % 64 * 4096 + b2.toNat % 64 * 64 + b3.toNat % 64, 4) := by
  unfold Seq4 at h
  simp only [decodeRune, if_neg (show ¬ b0.toNat < 0x80 by omega),
    acceptRange_four (show 0xF0 ≤ b0.toNat ∧ b0.toNat ≤ 0xF4 by omega)]
  rw [if_pos]
  unfold isCont
  split_ifs <;> omega

/-- Everything `decodeRune` can do with a sequence that does not start with an
ASCII byte: report an error, or read one of the three sequence forms. -/
theorem decodeRune_cases (b0 : UInt8) (q : GoString) (h0 : 0x80 ≤ b0.toNat) :
    decodeRune (b0 :: q) = (runeError, 1) ∨
    (∃ b1 rest, q = b1 :: rest ∧ Seq2 b0.toNat b1.toNat) ∨
    (∃ b1 b2 rest, q = b1 :: b2 :: rest ∧ Seq3 b0.toNat b1.toNat b2.toNat) ∨
    (∃ b1 b2 b3 rest, q = b1 :: b2 :: b3 :: rest ∧ Seq4 b0.toNat b1.toNat b2.toNat b3.toNat) := by
  simp only [decodeRune, if_neg (show ¬ b0.toNat < 0x80 by omega)]
  rcases hA : acceptRange b0.toNat with _ | ⟨n, lo, hi⟩
  · exact .inl rfl
  obtain ⟨h1, h2, h3, h4, hn, h5, h6, h7, h8⟩ := acceptRange_some hA
  rcases hn with ⟨rfl, hn⟩ | ⟨rfl, hn⟩ | ⟨rfl, hn⟩
  · rcases q with _ | ⟨b1, rest⟩
    · exact .inl rfl
    simp only
    split_ifs with hc
    · exact .inr (.inl ⟨b1, rest, rfl, by unfold Seq2; omega⟩)
    · exact .inl rfl
  · rcases q with _ | ⟨b1, _ | ⟨b2, rest⟩⟩
    · exact .inl rfl
    · exact .inl rfl
    simp only
    split_ifs with hc
    · exact .inr (.inr (.inl ⟨b1, b2, rest, rfl, by unfold Seq3 isCont at *; omega⟩))
    · exact .inl rfl
  · rcases q with _ | ⟨b1, _ | ⟨b2, _ | ⟨b3, rest⟩⟩⟩
    · exact .inl rfl
    · exact .inl rfl
    · exact .inl rfl
    simp only
    split_ifs with hc
    · exact .inr (.inr (.inr ⟨b1, b2, b3, rest, rfl, by unfold Seq4 isCont at *; omega⟩))
    · exact .inl rfl

/-- The number of bytes that `decodeRune` takes from a nonempty input is
between one and the length of the input. -/
theorem decodeRune_size (b0 : UInt8) (p : GoString) :
    1 ≤ (decodeRune (b0 :: p)).2 ∧ (decodeRune (b0 :: p)).2 ≤ p.length + 1 := by
  by_cases ha : b0.toNat < 0x80
  · simp only [decodeRune, if_pos ha]
    omega
  rcases decodeRune_cases b0 p (by omega) with he | ⟨b1, rest, rfl, hs⟩ |
      ⟨b1, b2, rest, rfl, hs⟩ | ⟨b1, b2, b3, rest, rfl, hs⟩
  · rw [he]
    omega
  · rw [decodeRune_seq2 _ hs, List.length_cons]
    omega
  · rw [decodeRune_seq3 _ hs, List.length_cons, List.length_cons]
    omega
  · rw [decodeRune_seq4 _ hs, List.length_cons, List.length_cons, List.length_cons]
    omega

theorem encodeRune_seq2 {b0 b1 : UInt8} (h : Seq2 b0.toNat b1.toNat) :
    encodeRune (b0.toNat % 32 * 64 + b1.toNat % 64) = [b0, b1] := by
  unfold Seq2 at h
  rw [encodeRune, if_neg (by omega), if_pos (by omega)]
  simp only [List.cons.injEq, and_true]
  constructor <;> apply byte_eq_of_toNat <;> simp only [toNat_toUInt8] <;> omega

theorem encodeRune_seq3 {b0 b1 b2 : UInt8} (h : Seq3 b0.toNat b1.toNat b2.toNat) :
    encodeRune (b0.toNat % 16 * 4096 + b1.toNat % 64 * 64 + b2.toNat % 64) = [b0, b1, b2] := by
  unfold Seq3 at h
  rw [encodeRune, if_neg (by omega), if_neg (by omega), if_neg (by omega), if_pos (by omega)]
  simp only [List.cons.injEq, and_true]
  refine ⟨?_, ?_, ?_⟩ <;> apply byte_eq_of_toNat <;> simp only [toNat_toUInt8] <;> omega

theorem encodeRune_seq4 {b0 b1 b2 b3 : UInt8} (h : Seq4 b0.toNat b1.toNat b2.toNat b3.toNat) :
    encodeRune (b0.toNat % 8 * 262144 + b1.toNat % 64 * 4096 + b2.toNat % 64 * 64 + b3.toNat % 64) =
      [b0, b1, b2, b3] := by
  unfold Seq4 at h
  rw [encodeRune, if_neg (by omega), if_neg (by omega), if_neg (by omega), if_neg (by omega)]
  simp only [List.cons.injEq, and_true]
  refine ⟨?_, ?_, ?_, ?_⟩ <;> apply byte_eq_of_toNat <;> simp only [toNat_toUInt8] <;> omega

/-- `decodeRune` reads back what `encodeRune` writes, whatever follows it; a
rune that `encodeRune` cannot write comes back as `RuneError`. -/
theorem decodeRune_encodeRune_append (r : Nat) (q : GoString) :
    decodeRune (encodeRune r ++ q) =
      (if 0x10FFFF < r ∨ (0xD800 ≤ r ∧ r ≤ 0xDFFF) then runeError else r,
        (encodeRune r).length) := by
  by_cases h1 : r ≤ 0x7F
  · rw [encodeRune, if_pos h1, if_neg (by omega)]
    simp only [List.singleton_append, decodeRune, toNat_toUInt8, List.length_singleton]
    rw [if_pos (by omega), Nat.mod_eq_of_lt (by omega)]
  by_cases h2 : r ≤ 0x7FF
  · rw [encodeRune, if_neg h1, if_pos h2, if_neg (by omega)]
    simp only [List.cons_append, List.nil_append, List.length_cons, List.length_nil]
    rw [decodeRune_seq2 q (by simp only [Seq2, toNat_toUInt8]; omega)]
    simp only [toNat_toUInt8, Prod.mk.injEq, and_true]
    omega
  by_cases h3 : 0x10FFFF < r ∨ (0xD800 ≤ r ∧ r ≤ 0xDFFF)
  · rw [encodeRune, if_neg h1, if_neg h2, if_pos h3, if_pos h3]
    exact @decodeRune_seq3 0xEF 0xBF 0xBD q (by unfold Seq3; decide)
  rw [if_neg h3]
  by_cases h4 : r ≤ 0xFFFF
  · rw [encodeRune, if_neg h1, if_neg h2, if_neg h3, if_pos h4]
    simp only [List.cons_append, List.nil_append, List.length_cons, List.length_nil]
    rw [decodeRune_seq3 q (by simp only [Seq3, toNat_toUInt8]; omega)]
    simp only [toNat_toUInt8, Prod.mk.injEq, and_true]
    omega
  · rw [encodeRune, if_neg h1, if_neg h2, if_neg h3, if_neg h4]
    simp only [List.cons_append, List.nil_append, List.length_cons, List.length_nil]
    rw [decodeRune_seq4 q (by simp only [Seq4, toNat_toUInt8]; omega)]
    simp only [toNat_toUInt8, Prod.mk.injEq, and_true]
    have hlead : (0xF0 + r / 262144) % 256 % 8 = r / 262144 := by omega
    have hcont : ∀ x, (0x80 + x % 64) % 256 % 64 = x % 64 := fun x => by omega
    rw [hlead, hcont, hcont, hcont]
    omega

/-! ## Reading past a rune -/

theorem decodeRune_take_append {b0 : UInt8} {p : GoString} (h : decodeRune (b0 :: p) ≠ (runeError, 1))
    (q : GoString) :
    decodeRune ((b0 :: p).take (decodeRune (b0 :: p)).2 ++ q) = decodeRune (b0 :: p) := by
  by_cases ha : b0.toNat < 0x80
  · simp [decodeRune, ha]
  rcases decodeRune_cases b0 p (by omega) with he | ⟨b1, rest, rfl, hs⟩ |
      ⟨b1, b2, rest, rfl, hs⟩ | ⟨b1, b2, b3, rest, rfl, hs⟩
  · exact absurd he h
  · simp only [decodeRune_seq2 _ hs, List.take_succ_cons, List.take_zero, List.cons_append,
      List.nil_append]
  · simp only [decodeRune_seq3 _ hs, List.take_succ_cons, List.take_zero, List.cons_append,
      List.nil_append]
  · simp only [decodeRune_seq4 _ hs, List.take_succ_cons, List.take_zero, List.cons_append,
      List.nil_append]

/-- The bytes of a rune past ASCII are all at least `0x80`. -/
theorem high_of_mem_take {b0 : UInt8} {p : GoString} (ha : ¬ b0.toNat < 0x80)
    (h : decodeRune (b0 :: p) ≠ (runeError, 1)) :
    ∀ c ∈ (b0 :: p).take (decodeRune (b0 :: p)).2, 0x80 ≤ c.toNat := by
  rcases decodeRune_cases b0 p (by omega) with he | ⟨b1, rest, rfl, hs⟩ |
      ⟨b1, b2, rest, rfl, hs⟩ | ⟨b1, b2, b3, rest, rfl, hs⟩
  · exact absurd he h
  · rw [decodeRune_seq2 _ hs]; unfold Seq2 at hs; simp; omega
  · rw [decodeRune_seq3 _ hs]; unfold Seq3 at hs; simp; omega
  · rw [decodeRune_seq4 _ hs]; unfold Seq4 at hs; simp; omega

theorem encodeRune_ascii {b : UInt8} (hb : b.toNat < 0x80) : encodeRune b.toNat = [b] := by
  rw [encodeRune, if_pos (by omega)]
  exact congrArg (· :: []) (byte_eq_of_toNat (by simp; omega))

/-! ## Coercion to valid UTF-8 -/

/-- A rune that decodes without error is written back as the bytes it was read from. -/
theorem encodeRune_decodeRune {b0 : UInt8} {p : GoString}
    (h : decodeRune (b0 :: p) ≠ (runeError, 1)) :
    encodeRune (decodeRune (b0 :: p)).1 = (b0 :: p).take (decodeRune (b0 :: p)).2 := by
  by_cases ha : b0.toNat < 0x80
  · simp only [decodeRune, if_pos ha, encodeRune, if_pos (show b0.toNat ≤ 0x7F by omega),
      List.take_succ_cons, List.take_zero]
    exact congrArg (· :: []) (byte_eq_of_toNat (by simp; omega))
  rcases decodeRune_cases b0 p (by omega) with he | ⟨b1, rest, rfl, hs⟩ |
      ⟨b1, b2, rest, rfl, hs⟩ | ⟨b1, b2, b3, rest, rfl, hs⟩
  · exact absurd he h
  · simp only [decodeRune_seq2 _ hs, encodeRune_seq2 hs, List.take_succ_cons, List.take_zero]
  · simp only [decodeRune_seq3 _ hs, encodeRune_seq3 hs, List.take_succ_cons, List.take_zero]
  · simp only [decodeRune_seq4 _ hs, encodeRune_seq4 hs, List.take_succ_cons, List.take_zero]

/-- What `encoding/json` makes of the bytes of a string: a rune that decodes
is written back by `encodeRune`, and a byte that starts no valid sequence
becomes U+FFFD.  The encoder writes `�` for such a byte and the decoder
reads it back as `RuneError`. -/
def coerce : GoString → GoString
  | [] => []
  | b0 :: p =>
    if b0.toNat < 0x80 then b0 :: coerce p
    else encodeRune (decodeRune (b0 :: p)).1 ++ coerce ((b0 :: p).drop (decodeRune (b0 :: p)).2)
termination_by p => p.length
decreasing_by
  all_goals simp_wf
  all_goals exact (decodeRune_size _ _).1

/-- `utf8.ValidString`. -/
def validString : GoString → Bool
  | [] => true
  | b0 :: p =>
    if b0.toNat < 0x80 then validString p
    else decodeRune (b0 :: p) != (runeError, 1) && validString ((b0 :: p).drop (decodeRune (b0 :: p)).2)
termination_by p => p.length
decreasing_by
  all_goals simp_wf
  all_goals exact (decodeRune_size _ _).1

@[simp] theorem coerce_nil : coerce [] = [] := by rw [coerce]

theorem coerce_cons_ascii {b0 : UInt8} (hb : b0.toNat < 0x80) (p : GoString) :
    coerce (b0 :: p) = b0 :: coerce p := by
  rw [coerce, if_pos hb]

theorem coerce_cons {b0 : UInt8} (hb : ¬ b0.toNat < 0x80) (p : GoString) :
    coerce (b0 :: p) =
      encodeRune (decodeRune (b0 :: p)).1 ++ coerce ((b0 :: p).drop (decodeRune (b0 :: p)).2) := by
  rw [coerce, if_neg hb]

/-- A byte that starts no valid sequence comes out as the three bytes of U+FFFD. -/
theorem coerce_cons_invalid {b0 : UInt8} {p : GoString} (h : decodeRune (b0 :: p) = (runeError, 1)) :
    coerce (b0 :: p) = [0xEF, 0xBF, 0xBD] ++ coerce p := by
  have hb : ¬ b0.toNat < 0x80 := fun hb => by
    simp only [decodeRune, if_pos hb, Prod.mk.injEq, runeError] at h
    have := byte_toNat_lt b0
    omega
  rw [coerce_cons hb, h, show encodeRune runeError = [0xEF, 0xBF, 0xBD] by decide]
  rfl

/-- `coerce` leaves an ASCII string alone. -/
theorem coerce_of_ascii {p : GoString} (h : ∀ b ∈ p, b.toNat < 0x80) : coerce p = p := by
  induction p with
  | nil => exact coerce_nil
  | cons b p ih =>
    rw [coerce_cons_ascii (h b (List.mem_cons_self b p)),
      ih fun x hx => h x (List.mem_cons_of_mem b hx)]

/-- The literals of the source are ASCII, so `coerce` leaves them alone. -/
theorem coerce_ascii {s : String} (h : ∀ c ∈ s.toList, c.toNat < 0x80) :
    coerce (ascii s) = ascii s :=
  coerce_of_ascii fun b hb => by
    obtain ⟨c, hc, rfl⟩ := List.mem_map.1 hb
    have := h c hc
    simp only [toNat_toUInt8]
    omega

/-- `coerce` leaves valid UTF-8 alone. -/
theorem coerce_of_validString {p : GoString} (h : validString p = true) : coerce p = p := by
  induction p using coerce.induct with
  | case1 => exact coerce_nil
  | case2 b0 p hb ih => rw [coerce_cons_ascii hb, ih (by rwa [validString, if_pos hb] at h)]
  | case3 b0 p hb ih =>
    rw [validString, if_neg hb, Bool.and_eq_true, bne_iff_ne, ne_eq] at h
    rw [coerce_cons hb, ih h.2, encodeRune_decodeRune h.1, List.take_append_drop]

/-- `coerce` leaves a string alone exactly when it is valid UTF-8: a byte
that decodes as an error comes out as the three bytes of U+FFFD, and those
bytes would have decoded as a rune. -/
theorem coerce_eq_self_iff {p : GoString} : coerce p = p ↔ validString p = true := by
  refine ⟨fun h => ?_, coerce_of_validString⟩
  induction p using coerce.induct with
  | case1 => rw [validString]
  | case2 b0 p hb ih =>
    rw [coerce_cons_ascii hb, List.cons.injEq] at h
    rw [validString, if_pos hb]
    exact ih h.2
  | case3 b0 p hb ih =>
    have hne : decodeRune (b0 :: p) ≠ (runeError, 1) := by
      intro hd
      rw [coerce_cons_invalid hd, List.cons_append, List.cons_append, List.singleton_append] at h
      obtain ⟨rfl, hp⟩ := List.cons.inj h
      rw [← hp, @decodeRune_seq3 0xEF 0xBF 0xBD _ (by unfold Seq3; decide)] at hd
      exact absurd (congrArg Prod.snd hd) (by decide)
    rw [coerce_cons hb, encodeRune_decodeRune hne] at h
    conv_rhs at h => rw [← List.take_append_drop (decodeRune (b0 :: p)).2 (b0 :: p)]
    rw [validString, if_neg hb, Bool.and_eq_true, bne_iff_ne]
    exact ⟨hne, ih (List.append_cancel_left h)⟩

theorem two_le_length_encodeRune {r : Nat} (h : ¬ r ≤ 0x7F) : 2 ≤ (encodeRune r).length := by
  rw [encodeRune, if_neg h]
  split_ifs <;> simp

/-- A rune that `encodeRune` cannot write is written as `RuneError`. -/
theorem encodeRune_of_invalid (r : Nat) :
    encodeRune (if 0x10FFFF < r ∨ (0xD800 ≤ r ∧ r ≤ 0xDFFF) then runeError else r) =
      encodeRune r := by
  split_ifs with hr
  · conv_rhs => rw [encodeRune, if_neg (by omega), if_neg (by omega), if_pos hr]
    rfl
  · rfl

/-- `coerce` reads a written rune back as the same bytes. -/
theorem coerce_encodeRune_append (r : Nat) (q : GoString) :
    coerce (encodeRune r ++ q) = encodeRune r ++ coerce q := by
  by_cases h : r ≤ 0x7F
  · rw [encodeRune, if_pos h, List.singleton_append, List.singleton_append,
      coerce_cons_ascii (by simp; omega)]
  have hlen := two_le_length_encodeRune h
  obtain ⟨c0, cs, hc⟩ : ∃ c0 cs, encodeRune r = c0 :: cs :=
    List.exists_cons_of_ne_nil (List.ne_nil_of_length_pos (by omega))
  have hd := decodeRune_encodeRune_append r q
  rw [hc, List.cons_append] at hd
  rw [hc] at hlen
  have hc0 : ¬ c0.toNat < 0x80 := by
    intro ha
    simp only [decodeRune, if_pos ha, Prod.mk.injEq, List.length_cons] at hd
    simp only [List.length_cons] at hlen
    omega
  rw [hc, List.cons_append, coerce_cons hc0, hd, ← List.cons_append, ← hc, List.drop_left,
    encodeRune_of_invalid]

example : coerce [0x61, 0xFF, 0xE2, 0x82, 0xAC] = [0x61, 0xEF, 0xBF, 0xBD, 0xE2, 0x82, 0xAC] := by
  rw [coerce_cons_ascii (by decide), coerce_cons_invalid (by decide),
    show ([0xE2, 0x82, 0xAC] : GoString) = encodeRune 0x20AC ++ [] by decide,
    coerce_encodeRune_append, coerce_nil]
  decide

/-- `coerce` is idempotent: its output is valid UTF-8. -/
theorem coerce_coerce (p : GoString) : coerce (coerce p) = coerce p := by
  induction p using coerce.induct with
  | case1 => rw [coerce_nil, coerce_nil]
  | case2 b0 p hb ih => rw [coerce_cons_ascii hb, coerce_cons_ascii hb, ih]
  | case3 b0 p hb ih => rw [coerce_cons hb, coerce_encodeRune_append, ih]

end ArangoStarter.Go.Utf8
