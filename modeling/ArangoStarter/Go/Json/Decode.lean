import ArangoStarter.Go.Json.Encode

/-!
# What `json.Unmarshal` reads

`json.Unmarshal(data, v)` first runs `checkValid`, the byte-at-a-time
scanner of `scanner.go`, over the whole input, and only then decodes the
value into `v`.  The model reads the input once, from left to right, and
stops at the same byte as the scanner: `parseValue` and its helpers follow
the scanner's states, and each error carries the scanner's message and the
input after the byte where it was raised.  At the end of the input the
scanner is fed one space, so an input that stops inside a number, a literal
or an escape is an invalid `' '` there, and an input that stops anywhere
else is `unexpected end of JSON input`.

A string literal is checked as the scanner does (`scanString`) and its body
is then read by `unquote`, the slow loop of `unquoteBytes`: escapes are
decoded, a `\u` surrogate pair is joined, and a byte that starts no valid
UTF-8 sequence becomes U+FFFD.  The fast path of `unquoteBytes`, which
returns a body with nothing to unquote as it is, gives the same bytes.

The nesting of the parser is bounded by a fuel argument; `parseText` gives
it one more than the length of the input, and every call reads at least one
byte before it goes deeper.
-/

namespace ArangoStarter.Go.Json

open Utf8

/-- The message of a `*json.SyntaxError`: the input ended, or a byte cannot
go on in the named context (`"invalid character ..."`). -/
inductive SyntaxMsg where
  | unexpectedEnd
  | invalidChar (c : UInt8) (context : String)
deriving DecidableEq

/-- What stops the reader: a syntax error with the input after the byte it
was found at, or `errPhase`, which the decoder raises when the scanner and
the decoder disagree. -/
inductive ScanError where
  | syntaxError (msg : SyntaxMsg) (rest : GoString)
  | phase
deriving DecidableEq

/-- The input ended inside a value. -/
def eof : ScanError := .syntaxError .unexpectedEnd []

/-- The scanner at the end of the input in a state that a space cannot end. -/
def eofSpace (context : String) : ScanError := .syntaxError (.invalidChar 32 context) []

/-- `isSpace`. -/
def isSpace (c : UInt8) : Bool := c == 32 || c == 9 || c == 13 || c == 10

/-- The white space the scanner skips. -/
def skipSpace : GoString → GoString
  | [] => []
  | c :: s => if isSpace c then skipSpace s else c :: s

/-- The next byte that is not white space, and the input after it. -/
def nextByte (s : GoString) : Except ScanError (UInt8 × GoString) :=
  match skipSpace s with
  | [] => .error eof
  | c :: s => .ok (c, s)

/-- Put a byte in front of what a scanner read. -/
def consByte (c : UInt8) (r : Except ScanError (GoString × GoString)) :
    Except ScanError (GoString × GoString) :=
  r.map fun p => (c :: p.1, p.2)

/-! ## Strings -/

/-- Where the scanner stands inside a string literal. -/
inductive StrState where
  /-- `stateInString`. -/
  | inString
  /-- `stateInStringEsc`, after a backslash. -/
  | esc
  /-- `stateInStringEscU`, `U1`, `U12` and `U123`: `n` hex digits of a `\u`
  escape are read. -/
  | escU (n : Nat)
deriving DecidableEq

/-- A hex digit of a `\u` escape. -/
def isHex (c : UInt8) : Bool :=
  (48 ≤ c && c ≤ 57) || (97 ≤ c && c ≤ 102) || (65 ≤ c && c ≤ 70)

/-- The scanner over a string literal after its opening quote: the body up to
the closing quote, and the input after it. -/
def scanString : StrState → GoString → Except ScanError (GoString × GoString)
  | .inString, [] => .error eof
  | .esc, [] => .error (eofSpace "in string escape code")
  | .escU _, [] => .error (eofSpace "in \\u hexadecimal character escape")
  | .inString, c :: s =>
    if c = 34 then .ok ([], s)
    else if c = 92 then consByte c (scanString .esc s)
    else if c < 32 then .error (.syntaxError (.invalidChar c "in string literal") s)
    else consByte c (scanString .inString s)
  | .esc, c :: s =>
    if c = 98 ∨ c = 102 ∨ c = 110 ∨ c = 114 ∨ c = 116 ∨ c = 92 ∨ c = 47 ∨ c = 34 then
      consByte c (scanString .inString s)
    else if c = 117 then consByte c (scanString (.escU 0) s)
    else .error (.syntaxError (.invalidChar c "in string escape code") s)
  | .escU n, c :: s =>
    if isHex c then consByte c (scanString (if n = 3 then .inString else .escU (n + 1)) s)
    else .error (.syntaxError (.invalidChar c "in \\u hexadecimal character escape") s)

/-- The value of a hex digit. -/
def hexValue (c : UInt8) : Nat :=
  if c ≤ 57 then c.toNat - 48 else if c ≤ 70 then c.toNat - 55 else c.toNat - 87

/-- `getu4(s)`: the value of a `\uXXXX` escape at the start of `s`; Go's `-1`
is `none`. -/
def getu4 : GoString → Option Nat
  | 92 :: 117 :: h1 :: h2 :: h3 :: h4 :: _ =>
    if isHex h1 && isHex h2 && isHex h3 && isHex h4 then
      some (((hexValue h1 * 16 + hexValue h2) * 16 + hexValue h3) * 16 + hexValue h4)
    else none
  | _ => none

/-- `utf16.IsSurrogate(r)`. -/
def isSurrogate (r : Nat) : Bool := 0xD800 ≤ r && r < 0xE000

/-- `utf16.DecodeRune(r1, r2)`: the rune of a surrogate pair, or U+FFFD.  A
missing second escape is Go's `-1`. -/
def decodeSurrogates (r1 : Nat) : Option Nat → Nat
  | some r2 =>
    if 0xD800 ≤ r1 ∧ r1 < 0xDC00 ∧ 0xDC00 ≤ r2 ∧ r2 < 0xE000 then
      ((r1 - 0xD800) <<< 10 ||| (r2 - 0xDC00)) + 0x10000
    else runeError
  | none => runeError

/-- The byte that a one-letter escape stands for. -/
def escapeByte (e : UInt8) : Option UInt8 :=
  if e = 34 ∨ e = 92 ∨ e = 47 ∨ e = 39 then some e
  else if e = 98 then some 8
  else if e = 102 then some 12
  else if e = 110 then some 10
  else if e = 114 then some 13
  else if e = 116 then some 9
  else none

/-- The loop of `unquoteBytes` over the body of a string literal. -/
def unquote : GoString → Option GoString
  | [] => some []
  | c :: s =>
    if c = 92 then
      match _hs : s with
      | [] => none
      | e :: s' =>
        if e = 117 then
          match getu4 (c :: s) with
          | none => none
          | some r =>
            if isSurrogate r ∧ decodeSurrogates r (getu4 ((c :: s).drop 6)) ≠ runeError then
              (unquote ((c :: s).drop 12)).map
                (encodeRune (decodeSurrogates r (getu4 ((c :: s).drop 6))) ++ ·)
            else
              (unquote ((c :: s).drop 6)).map
                (encodeRune (if isSurrogate r then runeError else r) ++ ·)
        else match escapeByte e with
          | some b => (unquote s').map (b :: ·)
          | none => none
    else if c = 34 ∨ c < 32 then none
    else if c.toNat < 0x80 then (unquote s).map (c :: ·)
    else (unquote ((c :: s).drop (decodeRune (c :: s)).2)).map
      (encodeRune (decodeRune (c :: s)).1 ++ ·)
termination_by s => s.length
decreasing_by
  all_goals simp_wf
  all_goals first
    | exact (decodeRune_size _ _).1
    | omega
    | (subst_vars; simp only [List.length_cons]; omega)

@[simp] theorem unquote_nil : unquote [] = some [] := by rw [unquote]

theorem unquote_cons_plain {c : UInt8} (h92 : c ≠ 92) (hc : ¬(c = 34 ∨ c < 32)) (ha : c.toNat < 0x80)
    (s : GoString) : unquote (c :: s) = (unquote s).map (c :: ·) := by
  rw [unquote.eq_def]
  dsimp only
  rw [if_neg h92, if_neg hc, if_pos ha]

theorem unquote_cons_rune {c : UInt8} (h92 : c ≠ 92) (hc : ¬(c = 34 ∨ c < 32)) (ha : ¬ c.toNat < 0x80)
    (s : GoString) : unquote (c :: s) = (unquote ((c :: s).drop (decodeRune (c :: s)).2)).map
      (encodeRune (decodeRune (c :: s)).1 ++ ·) := by
  rw [unquote.eq_def]
  dsimp only
  rw [if_neg h92, if_neg hc, if_neg ha]

theorem unquote_escapeByte {e b : UInt8} (he : e ≠ 117) (hb : escapeByte e = some b) (s : GoString) :
    unquote (92 :: e :: s) = (unquote s).map (b :: ·) := by
  rw [unquote, if_pos rfl]
  simp only [if_neg he, hb]

theorem unquote_u {s : GoString} {r : Nat} (hr : getu4 (92 :: 117 :: s) = some r)
    (hs : isSurrogate r = false) :
    unquote (92 :: 117 :: s) = (unquote (s.drop 4)).map (encodeRune r ++ ·) := by
  rw [unquote, if_pos rfl]
  simp [hr, hs]

theorem isHex_hex {n : Nat} (h : n < 16) : isHex (hex n) = true :=
  (by decide : ∀ n < 16, isHex (hex n) = true) n h

theorem hexValue_hex {n : Nat} (h : n < 16) : hexValue (hex n) = n :=
  (by decide : ∀ n < 16, hexValue (hex n) = n) n h

/-- A string literal after its opening quote: the unquoted body and the input
after the closing quote. -/
def parseString (s : GoString) : Except ScanError (GoString × GoString) := do
  let (body, rest) ← scanString .inString s
  match unquote body with
  | some b => .ok (b, rest)
  | none => .error .phase

/-! ## Numbers and literals -/

/-- Where the scanner stands inside a number. -/
inductive NumState where
  /-- `stateNeg`, after a minus sign. -/
  | neg
  /-- `state1` (`more`, digits may follow) and `state0` (after a leading `0`). -/
  | int (more : Bool)
  /-- `stateDot`, after the decimal point. -/
  | dot
  /-- `stateDot0`, in the fraction. -/
  | dot0
  /-- `stateE`, after `e` or `E`. -/
  | exp
  /-- `stateESign`, after the sign of the exponent. -/
  | expSign
  /-- `stateE0`, in the exponent. -/
  | exp0
deriving DecidableEq

/-- The scanner over a number: its literal, and the input from the byte that
ends it.  `int`, `dot0` and `exp0` can end a number. -/
def scanNumber : NumState → GoString → Except ScanError (GoString × GoString)
  | .neg, [] => .error (eofSpace "in numeric literal")
  | .dot, [] => .error (eofSpace "after decimal point in numeric literal")
  | .exp, [] => .error (eofSpace "in exponent of numeric literal")
  | .expSign, [] => .error (eofSpace "in exponent of numeric literal")
  | .int _, [] => .ok ([], [])
  | .dot0, [] => .ok ([], [])
  | .exp0, [] => .ok ([], [])
  | .neg, c :: s =>
    if c = 48 then consByte c (scanNumber (.int false) s)
    else if 49 ≤ c ∧ c ≤ 57 then consByte c (scanNumber (.int true) s)
    else .error (.syntaxError (.invalidChar c "in numeric literal") s)
  | .int more, c :: s =>
    if more ∧ Strconv.isDigit c then consByte c (scanNumber (.int true) s)
    else if c = 46 then consByte c (scanNumber .dot s)
    else if c = 101 ∨ c = 69 then consByte c (scanNumber .exp s)
    else .ok ([], c :: s)
  | .dot, c :: s =>
    if Strconv.isDigit c then consByte c (scanNumber .dot0 s)
    else .error (.syntaxError (.invalidChar c "after decimal point in numeric literal") s)
  | .dot0, c :: s =>
    if Strconv.isDigit c then consByte c (scanNumber .dot0 s)
    else if c = 101 ∨ c = 69 then consByte c (scanNumber .exp s)
    else .ok ([], c :: s)
  | .exp, c :: s =>
    if c = 43 ∨ c = 45 then consByte c (scanNumber .expSign s)
    else if Strconv.isDigit c then consByte c (scanNumber .exp0 s)
    else .error (.syntaxError (.invalidChar c "in exponent of numeric literal") s)
  | .expSign, c :: s =>
    if Strconv.isDigit c then consByte c (scanNumber .exp0 s)
    else .error (.syntaxError (.invalidChar c "in exponent of numeric literal") s)
  | .exp0, c :: s =>
    if Strconv.isDigit c then consByte c (scanNumber .exp0 s)
    else .ok ([], c :: s)

/-- The context of a literal's error: `in literal true (expecting 'r')`. -/
def litContext (name : String) (e : UInt8) : String :=
  "in literal " ++ name ++ " (expecting " ++ String.mk [Char.ofNat 39, Char.ofNat e.toNat, Char.ofNat 39] ++ ")"

/-- The scanner over the bytes of the literal `name` after its first one
(`stateT`, `stateTr`, ...); `parseValue` passes `rue`, `alse` and `ull`. -/
def scanLit (name : String) : GoString → GoString → Except ScanError GoString
  | [], s => .ok s
  | e :: _, [] => .error (eofSpace (litContext name e))
  | e :: es, c :: s =>
    if c = e then scanLit name es s else .error (.syntaxError (.invalidChar c (litContext name e)) s)

/-! ## Values -/

/-- `stateBeginValue` once the first byte `c` of a value is read: the value
and the input after it.  `members` and `elems` read the rest of an object or
an array after its first byte. -/
def beginValue (members : GoString → Except ScanError (List (GoString × JValue) × GoString))
    (elems : GoString → Except ScanError (List JValue × GoString)) (c : UInt8) (s : GoString) :
    Except ScanError (JValue × GoString) :=
  if c = 123 then do
    let (c', s') ← nextByte s
    if c' = 125 then .ok (.object [], s')
    else
      let (ms, s) ← members s
      .ok (.object ms, s)
  else if c = 91 then do
    let (c', s') ← nextByte s
    if c' = 93 then .ok (.array [], s')
    else
      let (es, s) ← elems s
      .ok (.array es, s)
  else if c = 34 then do
    let (b, s) ← parseString s
    .ok (.string b, s)
  else if c = 45 then do
    let (lit, s) ← consByte c (scanNumber .neg s)
    .ok (.number lit, s)
  else if Strconv.isDigit c then do
    let (lit, s) ← consByte c (scanNumber (.int (c != 48)) s)
    .ok (.number lit, s)
  else if c = 116 then (scanLit "true" [114, 117, 101] s).map fun s => (.bool true, s)
  else if c = 102 then (scanLit "false" [97, 108, 115, 101] s).map fun s => (.bool false, s)
  else if c = 110 then (scanLit "null" [117, 108, 108] s).map fun s => (.null, s)
  else .error (.syntaxError (.invalidChar c "looking for beginning of value") s)

mutual
/-- One value after white space, and the input after it. -/
def parseValue : Nat → GoString → Except ScanError (JValue × GoString)
  | 0, _ => .error eof
  | n + 1, s => do
    let (c, s) ← nextByte s
    beginValue (parseMembers n) (parseElems n) c s

/-- `stateBeginString` in an object: the members from the next key on, and
the input after the closing brace. -/
def parseMembers : Nat → GoString → Except ScanError (List (GoString × JValue) × GoString)
  | 0, _ => .error eof
  | n + 1, s => do
    let (c, s) ← nextByte s
    if c ≠ 34 then .error (.syntaxError (.invalidChar c "looking for beginning of object key string") s)
    else
      let (k, s) ← parseString s
      let (c, s) ← nextByte s
      if c ≠ 58 then .error (.syntaxError (.invalidChar c "after object key") s)
      else
        let (v, s) ← parseValue n s
        let (c, s) ← nextByte s
        if c = 44 then
          let (ms, s) ← parseMembers n s
          .ok ((k, v) :: ms, s)
        else if c = 125 then .ok ([(k, v)], s)
        else .error (.syntaxError (.invalidChar c "after object key:value pair") s)

/-- `stateBeginValue` in an array: the elements from the next one on, and the
input after the closing bracket. -/
def parseElems : Nat → GoString → Except ScanError (List JValue × GoString)
  | 0, _ => .error eof
  | n + 1, s => do
    let (v, s) ← parseValue n s
    let (c, s) ← nextByte s
    if c = 44 then
      let (es, s) ← parseElems n s
      .ok (v :: es, s)
    else if c = 93 then .ok ([v], s)
    else .error (.syntaxError (.invalidChar c "after array element") s)
end

theorem nextByte_cons {c : UInt8} (hc : isSpace c = false) (s : GoString) :
    nextByte (c :: s) = .ok (c, s) := by
  simp [nextByte, skipSpace, hc]

theorem parseValue_succ_cons {c : UInt8} (hc : isSpace c = false) (n : Nat) (s : GoString) :
    parseValue (n + 1) (c :: s) = beginValue (parseMembers n) (parseElems n) c s := by
  rw [parseValue, nextByte_cons hc]
  rfl

/-- The errors of `json.Unmarshal` that the model tells apart. -/
inductive UnmarshalError where
  /-- `*SyntaxError`, at the offset where the scanner stopped. -/
  | syntaxError (msg : SyntaxMsg) (offset : Nat)
  /-- `errPhase`. -/
  | phase
  /-- `*UnmarshalTypeError`: the JSON value, and the Go type it cannot be
  stored in. -/
  | type (value : String) (goType : String)
deriving DecidableEq

/-- `checkValid` and the value that `d.value` then reads: one value, and only
white space after it.  The offset of a syntax error is the number of bytes the
scanner read. -/
def parseText (data : GoString) : Except UnmarshalError JValue :=
  match parseValue (data.length + 1) data with
  | .error (.syntaxError msg rest) => .error (.syntaxError msg (data.length - rest.length))
  | .error .phase => .error .phase
  | .ok (v, rest) =>
    match skipSpace rest with
    | [] => .ok v
    | c :: rest => .error (.syntaxError (.invalidChar c "after top-level value") (data.length - rest.length))

example : ((parseText (ascii " [1, true,null] ")).map render).toOption = some (ascii "[1,true,null]") := by
  decide

/-! ## Results of the reader -/

@[simp] theorem bind_ok {ε α β : Type} (a : α) (f : α → Except ε β) : (Except.ok a >>= f) = f a :=
  rfl

@[simp] theorem bind_error {ε α β : Type} (e : ε) (f : α → Except ε β) :
    (Except.error e >>= f) = .error e := rfl

@[simp] theorem map_ok' {ε α β : Type} (a : α) (f : α → β) :
    (Except.ok a : Except ε α).map f = .ok (f a) := rfl

theorem map_map_except {ε α β γ : Type} (r : Except ε α) (f : α → β) (g : β → γ) :
    (r.map f).map g = r.map (g ∘ f) := by
  cases r <;> rfl

theorem bind_eq_ok {ε α β : Type} {x : Except ε α} {f : α → Except ε β} {b : β} :
    x >>= f = .ok b ↔ ∃ a, x = .ok a ∧ f a = .ok b := by
  cases x <;> simp

end ArangoStarter.Go.Json
