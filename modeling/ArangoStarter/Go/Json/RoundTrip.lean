import ArangoStarter.Go.Json.Decode

/-!
# Reading back what the encoder wrote

The decoder reads every value that `render` writes back as the value with
its strings coerced to valid UTF-8, and it reads nothing from a strict
prefix of a rendered object: the file that a crash cuts short does not
decode.

* `unquote_escape_append`: unquoting an escaped string gives `coerce` of
  it; `parseString_escape` adds the scanner and the closing quote.
* `parseValue_render`: the parser reads `render v ++ rest` as
  `(v.coerce, rest)` when `rest` starts with a delimiter or is empty and
  every number of `v` is a decimal of `strconv.Itoa`.
* `parseValue_append`: what the parser reads from a prefix it reads from
  every longer input, with more fuel too, unless the value is a number that
  ends the prefix.
* `parseText_render` and `parseText_strict_prefix`: the whole text of a
  rendered object parses to its coerced value, and no strict prefix of it
  parses at all.
-/

namespace ArangoStarter.Go.Json

open Utf8

/-! ## The scanner over an escaped string -/

/-- Bytes that the string scanner passes over inside a literal and that leave
it inside the literal. -/
def StrUnit (u : GoString) : Prop :=
  ∀ x, scanString .inString (u ++ x) = (scanString .inString x).map fun p => (u ++ p.1, p.2)

theorem StrUnit.nil : StrUnit [] := fun x => by
  rw [List.nil_append]
  cases scanString .inString x <;> rfl

theorem StrUnit.append {u v : GoString} (hu : StrUnit u) (hv : StrUnit v) : StrUnit (u ++ v) := by
  intro x
  rw [List.append_assoc, hu, hv, map_map_except]
  simp [Function.comp_def]

theorem strUnit_cons_plain {b : UInt8} (h32 : 32 ≤ b) (h34 : b ≠ 34) (h92 : b ≠ 92) {u : GoString}
    (hu : StrUnit u) : StrUnit (b :: u) := by
  intro x
  have hlt : ¬ b < 32 := by simpa using h32
  rw [List.cons_append, scanString, if_neg h34, if_neg h92, if_neg hlt, hu, consByte, map_map_except]
  rfl

/-- A `\uXXXX` escape that the encoder writes. -/
theorem strUnit_u (h1 h2 h3 h4 : UInt8) (hh : isHex h1 && isHex h2 && isHex h3 && isHex h4) :
    StrUnit [92, 117, h1, h2, h3, h4] := by
  simp only [Bool.and_eq_true] at hh
  obtain ⟨⟨⟨hh1, hh2⟩, hh3⟩, hh4⟩ := hh
  intro x
  simp [scanString, consByte, hh1, hh2, hh3, hh4, map_map_except, Function.comp_def]

/-- A one-letter escape. -/
theorem strUnit_esc {e : UInt8}
    (he : e = 98 ∨ e = 102 ∨ e = 110 ∨ e = 114 ∨ e = 116 ∨ e = 92 ∨ e = 47 ∨ e = 34) :
    StrUnit [92, e] := by
  intro x
  simp [scanString, consByte, he, map_map_except, Function.comp_def]

theorem strUnit_escapeAscii {b : UInt8} (hb : b.toNat < 0x80) : StrUnit (escapeAscii b) := by
  unfold escapeAscii
  split_ifs with hs h1 h2 h3 h4
  · simp only [htmlSafe, Bool.and_eq_true, bne_iff_ne, decide_eq_true_eq] at hs
    exact strUnit_cons_plain hs.1.1.1.1.1 hs.1.1.1.1.2 hs.1.1.1.2 StrUnit.nil
  · exact strUnit_esc (by rcases h1 with h | h <;> simp [h])
  · exact strUnit_esc (by decide)
  · exact strUnit_esc (by decide)
  · exact strUnit_esc (by decide)
  · have h16 : b.toNat / 16 < 16 := by omega
    exact strUnit_u _ _ _ _ (by simp [isHex_hex h16, isHex_hex (Nat.mod_lt b.toNat (by omega : 16 > 0))]; decide)

theorem strUnit_of_high {u : GoString} (h : ∀ c ∈ u, 0x80 ≤ c.toNat) : StrUnit u := by
  induction u with
  | nil => exact StrUnit.nil
  | cons c u ih =>
    have hc := h c (List.mem_cons_self c u)
    refine strUnit_cons_plain ?_ ?_ ?_ (ih fun x hx => h x (List.mem_cons_of_mem c hx))
    · show (32 : UInt8).toNat ≤ c.toNat
      simp; omega
    · rintro rfl; simp at hc
    · rintro rfl; simp at hc

/-- The scanner passes over everything the encoder writes for a string. -/
theorem strUnit_escape (s : GoString) : StrUnit (escape s) := by
  induction s using escape.induct with
  | case1 => rw [escape_nil]; exact StrUnit.nil
  | case2 b s hb ih => rw [escape_cons_ascii hb s]; exact (strUnit_escapeAscii hb).append ih
  | case3 b s hb he ih =>
    rw [escape_cons_invalid hb he]
    exact (strUnit_u 102 102 102 100 (by decide)).append ih
  | case4 b s hb he hr ih =>
    rw [escape_cons_sep hb he hr]
    exact (strUnit_u _ _ _ _ (by simp [isHex_hex (Nat.mod_lt _ (by omega : 16 > 0))]; decide)).append ih
  | case5 b s hb he hr ih =>
    rw [escape_cons_rune hb he hr]
    exact (strUnit_of_high (high_of_mem_take hb he)).append ih

/-! ## Unquoting what the encoder wrote -/

theorem unquote_escapeAscii {b : UInt8} (hb : b.toNat < 0x80) (x : GoString) :
    unquote (escapeAscii b ++ x) = (unquote x).map (b :: ·) := by
  unfold escapeAscii
  split_ifs with hs h1 h2 h3 h4
  · simp only [htmlSafe, Bool.and_eq_true, bne_iff_ne, decide_eq_true_eq] at hs
    refine unquote_cons_plain hs.1.1.1.2 ?_ hb x
    rintro (h | h)
    · exact hs.1.1.1.1.2 h
    · exact absurd hs.1.1.1.1.1 (by simpa using h)
  · rcases h1 with rfl | rfl
    · exact @unquote_escapeByte 92 92 (by decide) rfl x
    · exact @unquote_escapeByte 34 34 (by decide) rfl x
  · subst h2; exact @unquote_escapeByte 110 10 (by decide) rfl x
  · subst h3; exact @unquote_escapeByte 114 13 (by decide) rfl x
  · subst h4; exact @unquote_escapeByte 116 9 (by decide) rfl x
  · have h16 : b.toNat / 16 < 16 := by omega
    have h16' : b.toNat % 16 < 16 := Nat.mod_lt _ (by omega)
    have hu : getu4 (92 :: 117 :: 48 :: 48 :: hex (b.toNat / 16) :: hex (b.toNat % 16) :: x) =
        some b.toNat := by
      simp only [getu4, isHex_hex h16, isHex_hex h16', hexValue_hex h16, hexValue_hex h16']
      simp only [show isHex 48 = true by decide, show hexValue 48 = 0 by decide, Bool.and_self,
        if_true, Option.some.injEq]
      omega
    have hs : isSurrogate b.toNat = false := by simp [isSurrogate]; omega
    show unquote (92 :: 117 :: 48 :: 48 :: hex (b.toNat / 16) :: hex (b.toNat % 16) :: x) = _
    rw [unquote_u hu hs, encodeRune_ascii hb]
    rfl

theorem unquote_rune_append {b : UInt8} {s : GoString} (hb : ¬ b.toNat < 0x80)
    (he : decodeRune (b :: s) ≠ (runeError, 1)) (y : GoString) :
    unquote ((b :: s).take (decodeRune (b :: s)).2 ++ y) =
      (unquote y).map (encodeRune (decodeRune (b :: s)).1 ++ ·) := by
  have hsize := decodeRune_size b s
  obtain ⟨t, ht⟩ : ∃ t, (b :: s).take (decodeRune (b :: s)).2 = b :: t := by
    obtain ⟨k, hk⟩ : ∃ k, (decodeRune (b :: s)).2 = k + 1 := ⟨(decodeRune (b :: s)).2 - 1, by omega⟩
    exact ⟨s.take k, by rw [hk]; rfl⟩
  have h92 : b ≠ 92 := by rintro rfl; simp at hb
  have hc : ¬(b = 34 ∨ b < 32) := by
    rintro (rfl | h)
    · simp at hb
    · exact hb (by have : b.toNat < 32 := h; omega)
  have hlen : ((b :: s).take (decodeRune (b :: s)).2).length = (decodeRune (b :: s)).2 := by
    rw [List.length_take, List.length_cons]; omega
  rw [ht, List.cons_append, unquote_cons_rune h92 hc hb, ← List.cons_append, ← ht,
    decodeRune_take_append he, List.drop_left' hlen]

/-- Unquoting what the encoder wrote for `s` gives `coerce s`, before any suffix. -/
theorem unquote_escape_append (s x : GoString) :
    unquote (escape s ++ x) = (unquote x).map (coerce s ++ ·) := by
  induction s using escape.induct with
  | case1 => simp
  | case2 b s hb ih =>
    rw [escape_cons_ascii hb, List.append_assoc, unquote_escapeAscii hb, ih, Option.map_map,
      coerce_cons_ascii hb]
    rfl
  | case3 b s hb he ih =>
    have hu : getu4 (92 :: 117 :: 102 :: 102 :: 102 :: 100 :: (escape s ++ x)) = some 0xFFFD := rfl
    rw [escape_cons_invalid hb he, List.append_assoc,
      show ascii "\\ufffd" ++ (escape s ++ x) = 92 :: 117 :: 102 :: 102 :: 102 :: 100 :: (escape s ++ x)
        from rfl, unquote_u hu rfl,
      show List.drop 4 (102 :: 102 :: 102 :: 100 :: (escape s ++ x)) = escape s ++ x from rfl, ih, Option.map_map, coerce_cons hb, he]
    simp only [Function.comp_def, List.append_assoc]
    rfl
  | case4 b s hb he hr ih =>
    have key : ∀ y, unquote (ascii "\\u202" ++ [hex ((decodeRune (b :: s)).1 % 16)] ++ y) =
        (unquote y).map (encodeRune (decodeRune (b :: s)).1 ++ ·) := by
      rcases hr with h | h <;> intro y <;> rw [h] <;> exact unquote_u rfl rfl
    rw [escape_cons_sep hb he hr, List.append_assoc, key, ih, Option.map_map, coerce_cons hb]
    simp only [Function.comp_def, List.append_assoc]
  | case5 b s hb he hr ih =>
    rw [escape_cons_rune hb he hr, List.append_assoc, unquote_rune_append hb he, ih, Option.map_map,
      coerce_cons hb]
    simp only [Function.comp_def, List.append_assoc]

/-- A string that the encoder wrote reads back as `coerce` of itself, and the
input after its closing quote is left. -/
theorem parseString_escape (s rest : GoString) :
    parseString (escape s ++ 34 :: rest) = .ok (coerce s, rest) := by
  have hscan : scanString .inString (escape s ++ 34 :: rest) = .ok (escape s, rest) := by
    rw [strUnit_escape s]
    simp [scanString]
  have hq : unquote (escape s) = some (coerce s) := by
    simpa using unquote_escape_append s []
  simp [parseString, hscan, hq]

/-! ## Numbers -/

/-- What may follow a value inside an array or an object, or at the end. -/
def Delim (rest : GoString) : Prop := ∀ c ∈ rest.head?, c = 44 ∨ c = 93 ∨ c = 125

theorem delim_cons {c : UInt8} (h : c = 44 ∨ c = 93 ∨ c = 125) (rest : GoString) :
    Delim (c :: rest) := by
  simpa [Delim] using h

/-- A decimal has no leading zero. -/
theorem formatDecimal_eq_zero_cons {u : Nat} {ds : GoString}
    (h : Strconv.formatDecimal u = 48 :: ds) : ds = [] := by
  induction u using Nat.strong_induction_on generalizing ds with
  | _ u ih =>
    rw [Strconv.formatDecimal_eq] at h
    split at h
    · exact (List.cons.inj h).2.symm
    · obtain ⟨e, es, hes⟩ := List.exists_cons_of_ne_nil (Strconv.formatDecimal_ne_nil (u / 10))
      rw [hes, List.cons_append] at h
      obtain ⟨rfl, -⟩ := List.cons.inj h
      obtain rfl := ih (u / 10) (by omega) hes
      have h0 : u / 10 = 0 := Strconv.formatDecimal_injective (hes.trans rfl)
      omega

theorem scanNumber_int_delim (more : Bool) {rest : GoString} (h : Delim rest) :
    scanNumber (.int more) rest = .ok ([], rest) := by
  cases rest with
  | nil => rfl
  | cons c rest =>
    rcases h c rfl with rfl | rfl | rfl <;> simp [scanNumber, Strconv.isDigit]

theorem scanNumber_digits {ds : GoString} (hds : ∀ d ∈ ds, Strconv.isDigit d = true) {rest : GoString}
    (h : Delim rest) : scanNumber (.int true) (ds ++ rest) = .ok (ds, rest) := by
  induction ds with
  | nil => exact scanNumber_int_delim true h
  | cons d ds ih =>
    rw [List.cons_append, scanNumber, if_pos ⟨rfl, hds d (List.mem_cons_self d ds)⟩,
      ih fun x hx => hds x (List.mem_cons_of_mem d hx)]
    rfl

/-- The number scanner after the first digit of a decimal. -/
theorem scanNumber_formatDecimal {u : Nat} {d : UInt8} {ds : GoString}
    (hu : Strconv.formatDecimal u = d :: ds) {rest : GoString} (h : Delim rest) :
    scanNumber (.int (d != 48)) (ds ++ rest) = .ok (ds, rest) := by
  by_cases hd : d = 48
  · subst hd
    rw [formatDecimal_eq_zero_cons hu]
    exact scanNumber_int_delim _ h
  · have hds : ∀ x ∈ ds, Strconv.isDigit x = true := fun x hx =>
      Strconv.isDigit_of_mem_formatDecimal u x (hu ▸ List.mem_cons_of_mem d hx)
    rw [show (d != 48) = true from bne_iff_ne.2 hd]
    exact scanNumber_digits hds h

theorem beginValue_digit {c : UInt8} (hc : Strconv.isDigit c = true)
    (members : GoString → Except ScanError (List (GoString × JValue) × GoString))
    (elems : GoString → Except ScanError (List JValue × GoString)) (s : GoString) :
    beginValue members elems c s =
      (consByte c (scanNumber (.int (c != 48)) s)).map fun p => (.number p.1, p.2) := by
  have hc' : 48 ≤ c.toNat ∧ c.toNat ≤ 57 := by
    simp only [Strconv.isDigit, Bool.and_eq_true, decide_eq_true_eq] at hc
    exact ⟨hc.1, hc.2⟩
  have h123 : c ≠ 123 := by rintro rfl; simp at hc'
  have h91 : c ≠ 91 := by rintro rfl; simp at hc'
  have h34 : c ≠ 34 := by rintro rfl; simp at hc'
  have h45 : c ≠ 45 := by rintro rfl; simp at hc'
  rw [beginValue, if_neg h123, if_neg h91, if_neg h34, if_neg h45, if_pos hc]
  cases consByte c (scanNumber (.int (c != 48)) s) <;> rfl

theorem isSpace_of_isDigit {c : UInt8} (hc : Strconv.isDigit c = true) : isSpace c = false := by
  have hc' : 48 ≤ c.toNat ∧ c.toNat ≤ 57 := by
    simp only [Strconv.isDigit, Bool.and_eq_true, decide_eq_true_eq] at hc
    exact ⟨hc.1, hc.2⟩
  simp only [isSpace, Bool.or_eq_false_iff, beq_eq_false_iff_ne, ne_eq]
  refine ⟨⟨⟨?_, ?_⟩, ?_⟩, ?_⟩ <;> (rintro rfl; simp at hc')

theorem scanNumber_neg_digit {d : UInt8} (hd : Strconv.isDigit d = true) (s : GoString) :
    scanNumber .neg (d :: s) = consByte d (scanNumber (.int (d != 48)) s) := by
  by_cases h48 : d = 48
  · subst h48; rfl
  · have hd' : 49 ≤ d ∧ d ≤ 57 := by
      simp only [Strconv.isDigit, Bool.and_eq_true, decide_eq_true_eq] at hd
      have h1 : (48 : UInt8).toNat ≤ d.toNat := hd.1
      have h3 : d.toNat ≠ 48 := fun h => h48 (byte_eq_of_toNat (by simpa using h))
      refine ⟨show (49 : UInt8).toNat ≤ d.toNat from ?_, hd.2⟩
      simp at h1 ⊢
      omega
    rw [scanNumber, if_neg h48, if_pos hd', show (d != 48) = true from bne_iff_ne.2 h48]

/-- The parser reads back a decimal that `strconv.Itoa` wrote. -/
theorem parseValue_itoa (n : Nat) (i : Int) {rest : GoString} (h : Delim rest) :
    parseValue (n + 1) (Strconv.itoa i ++ rest) = .ok (.number (Strconv.itoa i), rest) := by
  unfold Strconv.itoa
  split
  · obtain ⟨d, ds, hu⟩ := List.exists_cons_of_ne_nil (Strconv.formatDecimal_ne_nil i.natAbs)
    have hd : Strconv.isDigit d = true :=
      Strconv.isDigit_of_mem_formatDecimal _ d (hu ▸ List.mem_cons_self d ds)
    rw [hu, show ascii "-" ++ d :: ds ++ rest = 45 :: d :: (ds ++ rest) from rfl,
      @parseValue_succ_cons 45 rfl]
    simp [beginValue, scanNumber_neg_digit hd, scanNumber_formatDecimal hu h, consByte]
    rfl
  · obtain ⟨d, ds, hu⟩ := List.exists_cons_of_ne_nil (Strconv.formatDecimal_ne_nil i.toNat)
    have hd : Strconv.isDigit d = true :=
      Strconv.isDigit_of_mem_formatDecimal _ d (hu ▸ List.mem_cons_self d ds)
    rw [hu, List.cons_append, parseValue_succ_cons (isSpace_of_isDigit hd), beginValue_digit hd,
      scanNumber_formatDecimal hu h]
    rfl

/-! ## Values -/

mutual
/-- Every number of the tree is a decimal that `strconv.Itoa` writes, which is
what the encoder writes for a Go `int`. -/
def JValue.IntLits : JValue → Prop
  | .number lit => ∃ i : Int, lit = Strconv.itoa i
  | .array es => ElemsIntLits es
  | .object ms => MembersIntLits ms
  | .null => True
  | .bool _ => True
  | .string _ => True

/-- `JValue.IntLits` of every element. -/
def ElemsIntLits : List JValue → Prop
  | [] => True
  | v :: vs => v.IntLits ∧ ElemsIntLits vs

/-- `JValue.IntLits` of every member's value. -/
def MembersIntLits : List (GoString × JValue) → Prop
  | [] => True
  | (_, v) :: ms => v.IntLits ∧ MembersIntLits ms
end

theorem elemsIntLits_map {α : Type} {f : α → JValue} (h : ∀ a, (f a).IntLits) :
    ∀ l : List α, ElemsIntLits (l.map f)
  | [] => trivial
  | a :: l => ⟨h a, elemsIntLits_map h l⟩

/-- A rendered value starts with a byte that is neither white space nor a
closing bracket or brace. -/
theorem render_cons {v : JValue} (hv : v.IntLits) :
    ∃ c t, render v = c :: t ∧ isSpace c = false ∧ c ≠ 93 ∧ c ≠ 125 := by
  cases v with
  | null => exact ⟨_, _, rfl, rfl, by decide, by decide⟩
  | bool b => cases b <;> exact ⟨_, _, rfl, rfl, by decide, by decide⟩
  | number lit =>
    obtain ⟨i, rfl⟩ := hv
    obtain ⟨c, t, hct⟩ : ∃ c t, Strconv.itoa i = c :: t := by
      unfold Strconv.itoa
      split
      · exact ⟨_, _, rfl⟩
      · exact List.exists_cons_of_ne_nil (Strconv.formatDecimal_ne_nil _)
    have hc := Strconv.mem_itoa (hct ▸ List.mem_cons_self c t)
    have hc' : (48 ≤ c.toNat ∧ c.toNat ≤ 57) ∨ c.toNat = 45 := by
      rcases hc with hc | rfl
      · simp only [Strconv.isDigit, Bool.and_eq_true, decide_eq_true_eq] at hc
        exact .inl ⟨hc.1, hc.2⟩
      · exact .inr rfl
    refine ⟨c, t, hct, ?_, ?_, ?_⟩
    · simp only [isSpace, Bool.or_eq_false_iff, beq_eq_false_iff_ne, ne_eq]
      refine ⟨⟨⟨?_, ?_⟩, ?_⟩, ?_⟩ <;> (rintro rfl; simp at hc')
    · rintro rfl; simp at hc'
    · rintro rfl; simp at hc'
  | string s => exact ⟨_, _, rfl, rfl, by decide, by decide⟩
  | array es => exact ⟨_, _, rfl, rfl, by decide, by decide⟩
  | object ms => exact ⟨_, _, rfl, rfl, by decide, by decide⟩

mutual
/-- The parser reads a rendered value back, coerced, and leaves the rest. -/
theorem parseValue_render : ∀ (v : JValue), v.IntLits → ∀ (n : Nat) (rest : GoString),
    (render v).length < n → Delim rest → parseValue n (render v ++ rest) = .ok (v.coerce, rest)
  | _, _, 0, _, hn, _ => absurd hn (Nat.not_lt_zero _)
  | .null, _, n + 1, rest, _, _ => by
    rw [show render .null ++ rest = 110 :: 117 :: 108 :: 108 :: rest from rfl, @parseValue_succ_cons 110 rfl]
    simp [beginValue, scanLit, Strconv.isDigit, JValue.coerce]
  | .bool true, _, n + 1, rest, _, _ => by
    rw [show render (.bool true) ++ rest = 116 :: 114 :: 117 :: 101 :: rest from rfl,
      @parseValue_succ_cons 116 rfl]
    simp [beginValue, scanLit, Strconv.isDigit, JValue.coerce]
  | .bool false, _, n + 1, rest, _, _ => by
    rw [show render (.bool false) ++ rest = 102 :: 97 :: 108 :: 115 :: 101 :: rest from rfl,
      @parseValue_succ_cons 102 rfl]
    simp [beginValue, scanLit, Strconv.isDigit, JValue.coerce]
  | .number lit, hv, n + 1, rest, _, hd => by
    obtain ⟨i, rfl⟩ := hv
    exact parseValue_itoa n i hd
  | .string s, _, n + 1, rest, _, _ => by
    simp only [render, encodeString, List.cons_append, List.append_assoc, List.singleton_append]
    simp [@parseValue_succ_cons 34 rfl, beginValue, parseString_escape, JValue.coerce]
  | .array [], _, n + 1, rest, _, _ => by
    simp [render, renderElems, @parseValue_succ_cons 91 rfl, beginValue, @nextByte_cons 93 rfl,
      JValue.coerce, coerceElems]
  | .array (e :: es), hv, n + 1, rest, hn, hd => by
    obtain ⟨c, t, hct, hsp, h93, -⟩ := render_cons hv.1
    obtain ⟨x, hx⟩ : ∃ x, renderElems (e :: es) = render e ++ x := by
      cases es <;> exact ⟨_, rfl⟩
    have hlen : (renderElems (e :: es)).length < n := by
      simp only [render, List.length_cons] at hn; omega
    simp only [render, List.cons_append, @parseValue_succ_cons 91 rfl, beginValue]
    rw [hx, hct, List.cons_append, List.cons_append, nextByte_cons hsp, ← List.cons_append,
      ← List.cons_append, ← hct, ← hx,
      parseElems_renderElems (e :: es) (List.cons_ne_nil _ _) hv n rest hlen hd]
    simp [h93, JValue.coerce]
  | .object [], _, n + 1, rest, _, _ => by
    simp [render, renderMembers, @parseValue_succ_cons 123 rfl, beginValue, @nextByte_cons 125 rfl,
      JValue.coerce, coerceMembers]
  | .object ((k, v) :: ms), hv, n + 1, rest, hn, hd => by
    obtain ⟨x, hx⟩ : ∃ x, renderMembers ((k, v) :: ms) = 34 :: x := by
      cases ms <;> exact ⟨_, rfl⟩
    have hlen : (renderMembers ((k, v) :: ms)).length < n := by
      simp only [render, List.length_cons] at hn; omega
    simp only [render, List.cons_append, @parseValue_succ_cons 123 rfl, beginValue]
    rw [hx, List.cons_append, @nextByte_cons 34 rfl, ← List.cons_append, ← hx,
      parseMembers_renderMembers ((k, v) :: ms) (List.cons_ne_nil _ _) hv n rest hlen hd]
    simp [JValue.coerce]

/-- The parser reads the rendered elements of a nonempty array back. -/
theorem parseElems_renderElems : ∀ (es : List JValue), es ≠ [] → ElemsIntLits es →
    ∀ (n : Nat) (rest : GoString), (renderElems es).length < n → Delim rest →
      parseElems n (renderElems es ++ rest) = .ok (coerceElems es, rest)
  | [], hne, _, _, _, _, _ => absurd rfl hne
  | _ :: _, _, _, 0, _, hn, _ => absurd hn (Nat.not_lt_zero _)
  | [v], _, hv, n + 1, rest, hn, _ => by
    have hlen : (render v).length < n := by simp [renderElems] at hn; omega
    rw [show renderElems [v] ++ rest = render v ++ 93 :: rest by simp [renderElems]]
    simp [parseElems, parseValue_render v hv.1 n (93 :: rest) hlen (delim_cons (by decide) rest),
      @nextByte_cons 93 rfl, coerceElems]
  | v :: w :: ws, _, hv, n + 1, rest, hn, hd => by
    have hlen : (render v).length < n ∧ (renderElems (w :: ws)).length < n := by
      simp only [renderElems, List.length_append, List.length_cons] at hn; omega
    rw [show renderElems (v :: w :: ws) ++ rest = render v ++ 44 :: (renderElems (w :: ws) ++ rest)
      by simp [renderElems]]
    simp [parseElems, parseValue_render v hv.1 n _ hlen.1 (@delim_cons 44 (by decide) _),
      @nextByte_cons 44 rfl,
      parseElems_renderElems (w :: ws) (List.cons_ne_nil _ _) hv.2 n rest hlen.2 hd, coerceElems]

/-- The parser reads the rendered members of a nonempty object back. -/
theorem parseMembers_renderMembers : ∀ (ms : List (GoString × JValue)), ms ≠ [] →
    MembersIntLits ms → ∀ (n : Nat) (rest : GoString), (renderMembers ms).length < n →
      Delim rest → parseMembers n (renderMembers ms ++ rest) = .ok (coerceMembers ms, rest)
  | [], hne, _, _, _, _, _ => absurd rfl hne
  | _ :: _, _, _, 0, _, hn, _ => absurd hn (Nat.not_lt_zero _)
  | [(k, v)], _, hv, n + 1, rest, hn, _ => by
    have hlen : (render v).length < n := by
      simp only [renderMembers, encodeString, List.length_append, List.length_cons] at hn; omega
    rw [show renderMembers [(k, v)] ++ rest = 34 :: (escape k ++ 34 :: 58 :: (render v ++ 125 :: rest))
      by simp [renderMembers, encodeString]]
    simp [parseMembers, @nextByte_cons 34 rfl, parseString_escape, @nextByte_cons 58 rfl,
      parseValue_render v hv.1 n (125 :: rest) hlen (delim_cons (by decide) rest),
      @nextByte_cons 125 rfl, coerceMembers]
  | (k, v) :: m :: ms, _, hv, n + 1, rest, hn, hd => by
    have hlen : (render v).length < n ∧ (renderMembers (m :: ms)).length < n := by
      simp only [renderMembers, encodeString, List.length_append, List.length_cons] at hn; omega
    rw [show renderMembers ((k, v) :: m :: ms) ++ rest =
      34 :: (escape k ++ 34 :: 58 :: (render v ++ 44 :: (renderMembers (m :: ms) ++ rest)))
      by simp [renderMembers, encodeString]]
    simp [parseMembers, @nextByte_cons 34 rfl, parseString_escape, @nextByte_cons 58 rfl,
      parseValue_render v hv.1 n _ hlen.1 (@delim_cons 44 (by decide) _), @nextByte_cons 44 rfl,
      parseMembers_renderMembers (m :: ms) (List.cons_ne_nil _ _) hv.2 n rest hlen.2 hd,
      coerceMembers]
end

/-! ## Reading a prefix -/

theorem skipSpace_append {s r : GoString} {c : UInt8} (h : skipSpace s = c :: r) (t : GoString) :
    skipSpace (s ++ t) = c :: (r ++ t) := by
  induction s with
  | nil => simp [skipSpace] at h
  | cons b s ih =>
    rw [skipSpace] at h
    rw [List.cons_append, skipSpace]
    split at h
    · rw [if_pos ‹_›]; exact ih h
    · rw [if_neg ‹_›]; obtain ⟨rfl, rfl⟩ := List.cons.inj h; rfl

theorem nextByte_append {s r : GoString} {c : UInt8} (h : nextByte s = .ok (c, r)) (t : GoString) :
    nextByte (s ++ t) = .ok (c, r ++ t) := by
  unfold nextByte at h ⊢
  split at h
  · cases h
  · rename_i c' r' hs
    cases h
    rw [skipSpace_append hs]

theorem nextByte_ne_nil {s r : GoString} {c : UInt8} (h : nextByte s = .ok (c, r)) : s ≠ [] := by
  rintro rfl; cases h

theorem consByte_eq_ok {c : UInt8} {x : Except ScanError (GoString × GoString)} {b r : GoString}
    (h : consByte c x = .ok (b, r)) : ∃ b', x = .ok (b', r) ∧ b = c :: b' := by
  cases x with
  | error => cases h
  | ok p => cases h; exact ⟨p.1, rfl, rfl⟩

theorem scanString_append {st : StrState} {s b r : GoString} (h : scanString st s = .ok (b, r))
    (t : GoString) : scanString st (s ++ t) = .ok (b, r ++ t) := by
  induction s generalizing st b with
  | nil => cases st <;> cases h
  | cons c s ih =>
    cases st <;> rw [scanString] at h <;> rw [List.cons_append, scanString] <;> split_ifs at h ⊢
    all_goals first
      | (cases h; rfl)
      | (obtain ⟨b', hb, rfl⟩ := consByte_eq_ok h; rw [ih hb]; rfl)

theorem parseString_append {s b r : GoString} (h : parseString s = .ok (b, r)) (t : GoString) :
    parseString (s ++ t) = .ok (b, r ++ t) := by
  unfold parseString at h ⊢
  obtain ⟨⟨body, r'⟩, hs, h⟩ := bind_eq_ok.1 h
  rw [scanString_append hs, bind_ok]
  cases hq : unquote body <;> simp_all

/-- A number that stops before the end of its input reads the same from a
longer one. -/
theorem scanNumber_append {st : NumState} {s b r : GoString} (h : scanNumber st s = .ok (b, r))
    (hr : r ≠ []) (t : GoString) : scanNumber st (s ++ t) = .ok (b, r ++ t) := by
  induction s generalizing st b with
  | nil => cases st <;> cases h <;> exact absurd rfl hr
  | cons c s ih =>
    cases st <;> rw [scanNumber] at h <;> rw [List.cons_append, scanNumber] <;> split_ifs at h ⊢
    all_goals first
      | (cases h; rfl)
      | (obtain ⟨b', hb, rfl⟩ := consByte_eq_ok h; rw [ih hb]; rfl)

theorem scanLit_append {name : String} {es s r : GoString} (h : scanLit name es s = .ok r)
    (t : GoString) : scanLit name es (s ++ t) = .ok (r ++ t) := by
  induction es generalizing s with
  | nil => cases h; rfl
  | cons e es ih =>
    cases s with
    | nil => cases h
    | cons c s =>
      rw [scanLit] at h
      rw [List.cons_append, scanLit]
      split_ifs at h ⊢
      exact ih h

theorem consByte_scanNumber_append {c : UInt8} {st : NumState} {s b r : GoString}
    (h : consByte c (scanNumber st s) = .ok (b, r)) (hr : r ≠ []) (t : GoString) :
    consByte c (scanNumber st (s ++ t)) = .ok (b, r ++ t) := by
  obtain ⟨b', hb, rfl⟩ := consByte_eq_ok h
  rw [scanNumber_append hb hr]
  rfl

/-- The cases of a value read the same from a longer input when the object
and array readers do. -/
theorem beginValue_append {t : GoString}
    {members members' : GoString → Except ScanError (List (GoString × JValue) × GoString)}
    {elems elems' : GoString → Except ScanError (List JValue × GoString)}
    (hm : ∀ {s ms r}, members s = .ok (ms, r) → members' (s ++ t) = .ok (ms, r ++ t))
    (he : ∀ {s es r}, elems s = .ok (es, r) → elems' (s ++ t) = .ok (es, r ++ t))
    {c : UInt8} {s r : GoString} {v : JValue} (h : beginValue members elems c s = .ok (v, r))
    (hr : r ≠ [] ∨ ∀ lit, v ≠ .number lit) :
    beginValue members' elems' c (s ++ t) = .ok (v, r ++ t) := by
  unfold beginValue at h ⊢
  by_cases h1 : c = 123
  · rw [if_pos h1] at h ⊢
    obtain ⟨⟨c', s'⟩, hnb', h⟩ := bind_eq_ok.1 h
    rw [nextByte_append hnb', bind_ok]
    dsimp only at h ⊢
    by_cases h2 : c' = 125
    · rw [if_pos h2] at h ⊢; cases h; rfl
    · rw [if_neg h2] at h ⊢
      obtain ⟨⟨ms, s2⟩, hms, h⟩ := bind_eq_ok.1 h
      cases h
      rw [hm hms]; rfl
  rw [if_neg h1] at h ⊢
  by_cases h1 : c = 91
  · rw [if_pos h1] at h ⊢
    obtain ⟨⟨c', s'⟩, hnb', h⟩ := bind_eq_ok.1 h
    rw [nextByte_append hnb', bind_ok]
    dsimp only at h ⊢
    by_cases h2 : c' = 93
    · rw [if_pos h2] at h ⊢; cases h; rfl
    · rw [if_neg h2] at h ⊢
      obtain ⟨⟨es, s2⟩, hes, h⟩ := bind_eq_ok.1 h
      cases h
      rw [he hes]; rfl
  rw [if_neg h1] at h ⊢
  by_cases h1 : c = 34
  · rw [if_pos h1] at h ⊢
    obtain ⟨⟨b, s2⟩, hb, h⟩ := bind_eq_ok.1 h
    cases h
    rw [parseString_append hb]; rfl
  rw [if_neg h1] at h ⊢
  by_cases h1 : c = 45
  · rw [if_pos h1] at h ⊢
    obtain ⟨⟨lit, s2⟩, hl, h⟩ := bind_eq_ok.1 h
    cases h
    rw [consByte_scanNumber_append hl (hr.resolve_right fun hn => hn lit rfl)]; rfl
  rw [if_neg h1] at h ⊢
  by_cases h1 : Strconv.isDigit c = true
  · rw [if_pos h1] at h ⊢
    obtain ⟨⟨lit, s2⟩, hl, h⟩ := bind_eq_ok.1 h
    cases h
    rw [consByte_scanNumber_append hl (hr.resolve_right fun hn => hn lit rfl)]; rfl
  rw [if_neg h1] at h ⊢
  split_ifs at h ⊢
  all_goals
    cases hl : scanLit _ _ s with
    | error => rw [hl] at h; cases h
    | ok r' => rw [hl] at h; cases h; rw [scanLit_append hl]; rfl

/-- What the parser reads from a prefix it reads from every longer input, and
with more fuel: the same value, and the rest of the prefix before the new
bytes.  A number that ends the prefix may go on in the longer input, so it is
left out. -/
theorem parse_append (n : Nat) :
    (∀ {s : GoString} {v : JValue} {r : GoString}, parseValue n s = .ok (v, r) →
      (r ≠ [] ∨ ∀ lit, v ≠ .number lit) →
      ∀ m t, n ≤ m → parseValue m (s ++ t) = .ok (v, r ++ t)) ∧
    (∀ {s : GoString} {ms : List (GoString × JValue)} {r : GoString}, parseMembers n s = .ok (ms, r) →
      ∀ m t, n ≤ m → parseMembers m (s ++ t) = .ok (ms, r ++ t)) ∧
    (∀ {s : GoString} {es : List JValue} {r : GoString}, parseElems n s = .ok (es, r) →
      ∀ m t, n ≤ m → parseElems m (s ++ t) = .ok (es, r ++ t)) := by
  induction n with
  | zero => refine ⟨fun h => ?_, fun h => ?_, fun h => ?_⟩ <;> cases h
  | succ n ih =>
    obtain ⟨ihv, ihm, ihe⟩ := ih
    refine ⟨?_, ?_, ?_⟩
    · intro s v r h hr m t hm
      obtain ⟨m, rfl⟩ : ∃ m', m = m' + 1 := ⟨m - 1, by omega⟩
      simp only [parseValue] at h ⊢
      obtain ⟨⟨c, s1⟩, hnb, h⟩ := bind_eq_ok.1 h
      rw [nextByte_append hnb, bind_ok]
      exact beginValue_append (fun h => ihm h m t (by omega)) (fun h => ihe h m t (by omega)) h hr
    · intro s ms r h m t hm
      obtain ⟨m, rfl⟩ : ∃ m', m = m' + 1 := ⟨m - 1, by omega⟩
      simp only [parseMembers] at h ⊢
      obtain ⟨⟨c, s1⟩, hnb, h⟩ := bind_eq_ok.1 h
      rw [nextByte_append hnb, bind_ok]
      dsimp only at h ⊢
      split_ifs at h ⊢
      obtain ⟨⟨k, s2⟩, hk, h⟩ := bind_eq_ok.1 h
      rw [parseString_append hk, bind_ok]
      dsimp only at h ⊢
      obtain ⟨⟨c2, s3⟩, hnb2, h⟩ := bind_eq_ok.1 h
      rw [nextByte_append hnb2, bind_ok]
      dsimp only at h ⊢
      split_ifs at h ⊢
      obtain ⟨⟨v, s4⟩, hv, h⟩ := bind_eq_ok.1 h
      obtain ⟨⟨c3, s5⟩, hnb3, h⟩ := bind_eq_ok.1 h
      rw [ihv hv (.inl (nextByte_ne_nil hnb3)) m t (by omega), bind_ok]
      dsimp only at h ⊢
      rw [nextByte_append hnb3, bind_ok]
      dsimp only at h ⊢
      split_ifs at h ⊢
      · obtain ⟨⟨ms', s6⟩, hms, h⟩ := bind_eq_ok.1 h
        cases h
        rw [ihm hms m t (by omega)]; rfl
      · cases h; rfl
    · intro s es r h m t hm
      obtain ⟨m, rfl⟩ : ∃ m', m = m' + 1 := ⟨m - 1, by omega⟩
      simp only [parseElems] at h ⊢
      obtain ⟨⟨v, s1⟩, hv, h⟩ := bind_eq_ok.1 h
      obtain ⟨⟨c, s2⟩, hnb, h⟩ := bind_eq_ok.1 h
      rw [ihv hv (.inl (nextByte_ne_nil hnb)) m t (by omega), bind_ok]
      dsimp only at h ⊢
      rw [nextByte_append hnb, bind_ok]
      dsimp only at h ⊢
      split_ifs at h ⊢
      · obtain ⟨⟨es', s3⟩, hes, h⟩ := bind_eq_ok.1 h
        cases h
        rw [ihe hes m t (by omega)]; rfl
      · cases h; rfl

/-! ## Whole texts -/

/-- `json.Unmarshal` reads a rendered value back with its strings coerced. -/
theorem parseText_render {v : JValue} (hv : v.IntLits) : parseText (render v) = .ok v.coerce := by
  have h := parseValue_render v hv ((render v).length + 1) [] (Nat.lt_succ_self _) (by simp [Delim])
  rw [List.append_nil] at h
  simp [parseText, h, skipSpace]

/-- A value read from an input that starts with `{` is an object. -/
theorem parseValue_brace {n : Nat} {s r : GoString} {v : JValue}
    (h : parseValue n (123 :: s) = .ok (v, r)) : ∃ ms, v = .object ms := by
  obtain ⟨n, rfl⟩ : ∃ n', n = n' + 1 := ⟨n - 1, by cases n <;> simp_all [parseValue]⟩
  simp only [parseValue, @nextByte_cons 123 rfl, bind_ok, if_pos] at h
  obtain ⟨⟨c, s1⟩, -, h⟩ := bind_eq_ok.1 h
  dsimp only at h
  split_ifs at h
  · cases h; exact ⟨_, rfl⟩
  · obtain ⟨⟨ms, s2⟩, -, h⟩ := bind_eq_ok.1 h
    cases h; exact ⟨_, rfl⟩

/-- No strict prefix of a rendered object parses: the reader needs its last
closing brace. -/
theorem parseText_strict_prefix {ms : List (GoString × JValue)} (hv : (JValue.object ms).IntLits)
    {p t : GoString} (hp : p ++ t = render (.object ms)) (ht : t ≠ []) :
    ∃ e, parseText p = .error e := by
  cases hpt : parseText p with
  | error e => exact ⟨e, rfl⟩
  | ok w =>
    exfalso
    unfold parseText at hpt
    split at hpt
    · cases hpt
    · cases hpt
    rename_i v r hpv
    obtain ⟨c, p', rfl⟩ : ∃ c p', p = c :: p' := by
      cases p with
      | nil => simp [parseValue, nextByte, skipSpace] at hpv
      | cons c p' => exact ⟨c, p', rfl⟩
    obtain rfl : c = 123 := (List.cons.inj hp).1
    obtain ⟨ms', rfl⟩ := parseValue_brace hpv
    have hext := (parse_append _).1 hpv (.inr fun lit h => by cases h)
      ((123 :: p') ++ t).length.succ t (by simp)
    have hfull := parseValue_render (.object ms) hv ((render (.object ms)).length + 1) []
      (Nat.lt_succ_self _) (by simp [Delim])
    rw [← hp, List.append_nil, hext] at hfull
    simp only [Except.ok.injEq, Prod.mk.injEq, List.append_eq_nil] at hfull
    exact ht hfull.2.2

end ArangoStarter.Go.Json
