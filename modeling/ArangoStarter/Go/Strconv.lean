import Mathlib.Tactic.Ring

/-!
# Go strings, Go `int`, and decimal numbers

The starter is written in Go 1.8.  A Go `string` is an immutable sequence of
bytes with no promise of UTF-8, so `GoString` is `List UInt8`: a data
directory or a peer ID may hold any bytes.  `GoInt` is Go's `int` on a 64-bit
platform, a signed integer that carries its own range.

`formatDecimal` and `itoa` are `strconv.FormatUint` and `strconv.Itoa` in base
10, which are also what the `%d` verb of `fmt` writes; `parseInt` is
`strconv.ParseInt(s, 10, 64)`.  The library writes two digits per step of its
loop; the model writes one, which gives the same bytes.

* `formatDecimal_eq` unfolds the digit loop once.  The other lemmas about
  decimals go through it and never through the fuel of the loop.
* `parseUint_formatDecimal` and `parseInt_itoa`: parsing a decimal gives the
  number back, so `formatDecimal_injective` holds.
* `mem_itoa`: a decimal holds digits and at most a minus sign, which is what
  `net.JoinHostPort` and `filepath.Join` need to know about it.
-/

namespace ArangoStarter.Go

/-- Go's `string`: bytes, not necessarily UTF-8. -/
abbrev GoString := List UInt8

/-- The bytes of an ASCII literal of the source. -/
def ascii (s : String) : GoString := s.toList.map fun c => c.toNat.toUInt8

/-- Go's `int` on a 64-bit platform. -/
structure GoInt where
  val : Int
  inRange : -2 ^ 63 ≤ val ∧ val < 2 ^ 63
deriving DecidableEq

/-- The zero value of `int`. -/
def GoInt.zero : GoInt := ⟨0, by decide⟩

theorem byte_toNat_lt (b : UInt8) : b.toNat < 256 := b.val.isLt

theorem byte_eq_of_toNat {a b : UInt8} (h : a.toNat = b.toNat) : a = b :=
  UInt8.eq_of_val_eq (Fin.ext h)

@[simp] theorem toNat_toUInt8 (n : Nat) : n.toUInt8.toNat = n % 256 := rfl

@[simp] theorem uint8_size : UInt8.size = 256 := rfl

namespace Strconv

/-- The ASCII digit of `d < 10`. -/
def digit (d : Nat) : UInt8 := (48 + d).toUInt8

/-- `'0' <= b && b <= '9'`. -/
def isDigit (b : UInt8) : Bool := 48 ≤ b && b ≤ 57

/-- The loop of `formatBits` for base 10: the digits of `u` go in front of
`acc`, least significant first.  `fuel` bounds the number of digits. -/
def formatDigits : Nat → Nat → GoString → GoString
  | 0, _, acc => acc
  | fuel + 1, u, acc =>
    if u < 10 then digit u :: acc else formatDigits fuel (u / 10) (digit (u % 10) :: acc)

/-- `strconv.FormatUint(u, 10)`. -/
def formatDecimal (u : Nat) : GoString := formatDigits (u + 1) u []

/-- `strconv.Itoa(i)`, and `fmt.Sprintf("%d", i)`. -/
def itoa (i : Int) : GoString :=
  if i < 0 then ascii "-" ++ formatDecimal i.natAbs else formatDecimal i.toNat

/-- The digit loop of `strconv.ParseUint` in base 10, from the value `acc` of
the digits read so far.  Any byte that is not a digit is a syntax error. -/
def digitsValue : Nat → GoString → Option Nat
  | acc, [] => some acc
  | acc, b :: s => if isDigit b then digitsValue (10 * acc + (b.toNat - 48)) s else none

/-- `strconv.ParseUint(s, 10, 64)` before its range check: the empty string
is a syntax error. -/
def parseUint (s : GoString) : Option Nat :=
  if s = [] then none else digitsValue 0 s

/-- The range check of `strconv.ParseInt(s, 10, 64)` after the sign. -/
def signedValue (neg : Bool) (u : Nat) : Option Int :=
  if neg then (if u ≤ 2 ^ 63 then some (-(u : Int)) else none)
  else (if u < 2 ^ 63 then some (u : Int) else none)

/-- `strconv.ParseInt(s, 10, 64)`: an optional sign, then `ParseUint`, then
the range of `int64`.  Every error is `none`. -/
def parseInt : GoString → Option Int
  | [] => none
  | b :: s =>
    if b = 43 then (parseUint s).bind (signedValue false)
    else if b = 45 then (parseUint s).bind (signedValue true)
    else (parseUint (b :: s)).bind (signedValue false)

theorem itoa_natCast (k : Nat) : itoa k = formatDecimal k := by
  rw [itoa, if_neg (Int.not_lt.2 (Int.ofNat_nonneg k))]
  rfl

example : itoa 8528 = ascii "8528" := by decide
example : itoa (-7) = ascii "-7" := by decide

/-! ## The digit loop -/

theorem formatDigits_append (fuel u : Nat) (acc tail : GoString) :
    formatDigits fuel u (acc ++ tail) = formatDigits fuel u acc ++ tail := by
  induction fuel generalizing u acc with
  | zero => rfl
  | succ fuel ih =>
    simp only [formatDigits]
    split
    · rfl
    · exact ih (u / 10) (digit (u % 10) :: acc)

/-- Enough fuel is enough: past `u`, more fuel writes the same digits. -/
theorem formatDigits_fuel (u : Nat) (acc : GoString) :
    ∀ f g, u < f → u < g → formatDigits f u acc = formatDigits g u acc := by
  induction u using Nat.strong_induction_on generalizing acc with
  | _ u ih =>
    intro f g hf hg
    obtain ⟨f, rfl⟩ : ∃ f', f = f' + 1 := ⟨f - 1, by omega⟩
    obtain ⟨g, rfl⟩ : ∃ g', g = g' + 1 := ⟨g - 1, by omega⟩
    simp only [formatDigits]
    split
    · rfl
    · exact ih (u / 10) (by omega) _ f g (by omega) (by omega)

/-- One step of `formatDecimal`: the leading digits, then the last one. -/
theorem formatDecimal_eq (u : Nat) :
    formatDecimal u =
      if u < 10 then [digit u] else formatDecimal (u / 10) ++ [digit (u % 10)] := by
  unfold formatDecimal
  rw [formatDigits]
  split
  · rfl
  · rw [← List.nil_append [digit (u % 10)], formatDigits_append,
      formatDigits_fuel (u / 10) [] u (u / 10 + 1) (by omega) (by omega), List.nil_append]

theorem formatDecimal_ne_nil (u : Nat) : formatDecimal u ≠ [] := by
  rw [formatDecimal_eq]
  split <;> simp

theorem digit_isDigit {d : Nat} (hd : d < 10) : isDigit (digit d) = true :=
  (by decide : ∀ d < 10, isDigit (digit d) = true) d hd

theorem digit_toNat {d : Nat} (hd : d < 10) : (digit d).toNat = 48 + d :=
  (by decide : ∀ d < 10, (digit d).toNat = 48 + d) d hd

/-- Every byte of a decimal is a digit. -/
theorem isDigit_of_mem_formatDecimal (u : Nat) :
    ∀ b ∈ formatDecimal u, isDigit b = true := by
  induction u using Nat.strong_induction_on with
  | _ u ih =>
    rw [formatDecimal_eq]
    split
    · simpa using digit_isDigit (by omega)
    · simp only [List.mem_append, List.mem_singleton]
      rintro b (hb | rfl)
      · exact ih (u / 10) (by omega) b hb
      · exact digit_isDigit (Nat.mod_lt _ (by omega))

/-! ## Parsing a decimal back -/

theorem digitsValue_append (acc : Nat) (s t : GoString) :
    digitsValue acc (s ++ t) = (digitsValue acc s).bind fun v => digitsValue v t := by
  induction s generalizing acc with
  | nil => rfl
  | cons b s ih =>
    simp only [List.cons_append, digitsValue]
    split <;> simp [ih]

theorem digitsValue_formatDecimal (acc u : Nat) :
    digitsValue acc (formatDecimal u) = some (acc * 10 ^ (formatDecimal u).length + u) := by
  induction u using Nat.strong_induction_on generalizing acc with
  | _ u ih =>
    rw [formatDecimal_eq]
    split
    · simp [digitsValue, digit_isDigit (by omega : u < 10), digit_toNat (by omega : u < 10)]
      ring
    · have hd := Nat.mod_lt u (by omega : 10 > 0)
      rw [digitsValue_append, ih (u / 10) (by omega)]
      simp only [Option.some_bind, digitsValue, digit_isDigit hd, digit_toNat hd, if_true,
        List.length_append, List.length_singleton, pow_succ, Nat.add_sub_cancel_left,
        Option.some.injEq]
      have := Nat.div_add_mod u 10
      ring_nf
      omega

theorem parseUint_formatDecimal (u : Nat) : parseUint (formatDecimal u) = some u := by
  simp [parseUint, formatDecimal_ne_nil, digitsValue_formatDecimal]

theorem formatDecimal_injective : Function.Injective formatDecimal := by
  intro u v h
  have := parseUint_formatDecimal u
  rwa [h, parseUint_formatDecimal, Option.some.injEq, eq_comm] at this

theorem parseInt_minus (s : GoString) :
    parseInt (45 :: s) = (parseUint s).bind (signedValue true) := rfl

theorem parseInt_of_isDigit {b : UInt8} (hb : isDigit b = true) (s : GoString) :
    parseInt (b :: s) = (parseUint (b :: s)).bind (signedValue false) := by
  have h43 : b ≠ 43 := by rintro rfl; exact absurd hb (by decide)
  have h45 : b ≠ 45 := by rintro rfl; exact absurd hb (by decide)
  simp only [parseInt, h43, h45, if_false]

theorem signedValue_inRange {neg : Bool} {u : Nat} {i : Int} (h : signedValue neg u = some i) :
    -2 ^ 63 ≤ i ∧ i < 2 ^ 63 := by
  unfold signedValue at h
  split_ifs at h <;> cases h <;> omega

/-- `ParseInt` with bit size 64 returns an `int64`. -/
theorem parseInt_inRange {s : GoString} {i : Int} (h : parseInt s = some i) :
    -2 ^ 63 ≤ i ∧ i < 2 ^ 63 := by
  unfold parseInt at h
  split at h
  · cases h
  · split_ifs at h <;> obtain ⟨u, -, hu⟩ := Option.bind_eq_some.1 h <;> exact signedValue_inRange hu

/-- `ParseInt` reads back every `int64` that `Itoa` writes. -/
theorem parseInt_itoa {i : Int} (hlo : -2 ^ 63 ≤ i) (hhi : i < 2 ^ 63) :
    parseInt (itoa i) = some i := by
  unfold itoa
  split
  · rw [show ascii "-" ++ formatDecimal i.natAbs = 45 :: formatDecimal i.natAbs from rfl,
      parseInt_minus, parseUint_formatDecimal, Option.some_bind, signedValue, if_pos rfl,
      if_pos (by omega)]
    congr 1
    omega
  · obtain ⟨b, s, hbs⟩ := List.exists_cons_of_ne_nil (formatDecimal_ne_nil i.toNat)
    have hb : isDigit b = true := isDigit_of_mem_formatDecimal _ b (hbs ▸ List.mem_cons_self b s)
    rw [hbs, parseInt_of_isDigit hb, ← hbs, parseUint_formatDecimal, Option.some_bind,
      signedValue, if_neg Bool.false_ne_true, if_pos (by omega)]
    congr 1
    omega

/-- A decimal written by `itoa` holds digits and at most a minus sign. -/
theorem mem_itoa {i : Int} {b : UInt8} (hb : b ∈ itoa i) : isDigit b = true ∨ b = 45 := by
  unfold itoa at hb
  split at hb
  · rcases List.mem_append.1 hb with h | h
    · exact .inr (by simpa [ascii] using h)
    · exact .inl (isDigit_of_mem_formatDecimal _ b h)
  · exact .inl (isDigit_of_mem_formatDecimal _ b hb)

end Strconv

end ArangoStarter.Go
