import ArangoStarter.Go.Utf8

/-!
# What `json.Marshal` writes

`encoding/json` of Go 1.8.1 writes a value by its type.  The model splits
that in two: `JValue` is the tree of JSON values, and `render` writes one as
the encoder does, with no white space.  The typed encoders of the setup file
map their records to a `JValue` (`ArangoStarter.Service.SetupFile`), so
`json.Marshal` of a record is `render` of its tree.

A string is written by `encodeState.string` with `escapeHTML` set, which is
what `json.Marshal` asks for: `escape` reads the string one rune at a time
and writes

* an ASCII byte as itself, or as one of the escapes `\\`, `\"`, `\n`, `\r`,
  `\t`, `\u00XX` when it is a control byte, a quote, a backslash, or one of
  `<`, `>`, `&`;
* a byte that starts no valid UTF-8 sequence as `�`;
* U+2028 and U+2029 as ` ` and ` `;
* every other rune as its own bytes.

The encoder copies runs of safe bytes in one call; writing them one by one
gives the same bytes.
-/

namespace ArangoStarter.Go.Json

open Utf8

/-- A JSON value as the decoder sees it.  A number keeps its literal and a
string its bytes. -/
inductive JValue where
  | null
  | bool (b : Bool)
  | number (lit : GoString)
  | string (s : GoString)
  | array (elems : List JValue)
  | object (members : List (GoString × JValue))

/-- `hex`, the digits of `\u00XX`. -/
def hex (n : Nat) : UInt8 := (ascii "0123456789abcdef").getD n 0

/-- `htmlSafeSet[b]` for an ASCII byte: printable, and none of `"`, `\`, `<`,
`>`, `&`. -/
def htmlSafe (b : UInt8) : Bool :=
  32 ≤ b && b != 34 && b != 92 && b != 60 && b != 62 && b != 38

/-- What the encoder writes for an ASCII byte `b`. -/
def escapeAscii (b : UInt8) : GoString :=
  if htmlSafe b then [b]
  else if b = 92 ∨ b = 34 then [92, b]
  else if b = 10 then ascii "\\n"
  else if b = 13 then ascii "\\r"
  else if b = 9 then ascii "\\t"
  else ascii "\\u00" ++ [hex (b.toNat / 16), hex (b.toNat % 16)]

/-- The loop of `encodeState.string` over the bytes of `s`. -/
def escape : GoString → GoString
  | [] => []
  | b :: s =>
    if b.toNat < 0x80 then escapeAscii b ++ escape s
    else if decodeRune (b :: s) = (runeError, 1) then ascii "\\ufffd" ++ escape s
    else if (decodeRune (b :: s)).1 = 0x2028 ∨ (decodeRune (b :: s)).1 = 0x2029 then
      ascii "\\u202" ++ [hex ((decodeRune (b :: s)).1 % 16)] ++
        escape ((b :: s).drop (decodeRune (b :: s)).2)
    else (b :: s).take (decodeRune (b :: s)).2 ++ escape ((b :: s).drop (decodeRune (b :: s)).2)
termination_by s => s.length
decreasing_by
  all_goals simp_wf
  all_goals exact (decodeRune_size _ _).1

/-- `encodeState.string(s, true)`: the escaped bytes between quotes. -/
def encodeString (s : GoString) : GoString := 34 :: escape s ++ [34]

mutual
/-- The encoder's output for a value: `null`, `true`, `false`, the literal of
a number, a quoted string, or an array or object with its parts separated by
commas. -/
def render : JValue → GoString
  | .null => ascii "null"
  | .bool b => if b then ascii "true" else ascii "false"
  | .number lit => lit
  | .string s => encodeString s
  | .array es => 91 :: renderElems es
  | .object ms => 123 :: renderMembers ms

/-- The elements of an array and its closing bracket. -/
def renderElems : List JValue → GoString
  | [] => [93]
  | [v] => render v ++ [93]
  | v :: vs => render v ++ 44 :: renderElems vs

/-- The members of an object, each `"key":value`, and its closing brace. -/
def renderMembers : List (GoString × JValue) → GoString
  | [] => [125]
  | [(k, v)] => encodeString k ++ 58 :: render v ++ [125]
  | (k, v) :: ms => encodeString k ++ 58 :: render v ++ 44 :: renderMembers ms
end

@[simp] theorem escape_nil : escape [] = [] := by rw [escape]

theorem escape_cons_ascii {b : UInt8} (hb : b.toNat < 0x80) (s : GoString) :
    escape (b :: s) = escapeAscii b ++ escape s := by
  rw [escape, if_pos hb]

theorem escape_cons_invalid {b : UInt8} (hb : ¬ b.toNat < 0x80) {s : GoString}
    (h : decodeRune (b :: s) = (runeError, 1)) : escape (b :: s) = ascii "\\ufffd" ++ escape s := by
  rw [escape, if_neg hb, if_pos h]

theorem escape_cons_sep {b : UInt8} (hb : ¬ b.toNat < 0x80) {s : GoString}
    (h : decodeRune (b :: s) ≠ (runeError, 1))
    (hr : (decodeRune (b :: s)).1 = 0x2028 ∨ (decodeRune (b :: s)).1 = 0x2029) :
    escape (b :: s) = ascii "\\u202" ++ [hex ((decodeRune (b :: s)).1 % 16)] ++
      escape ((b :: s).drop (decodeRune (b :: s)).2) := by
  rw [escape, if_neg hb, if_neg h, if_pos hr]

theorem escape_cons_rune {b : UInt8} (hb : ¬ b.toNat < 0x80) {s : GoString}
    (h : decodeRune (b :: s) ≠ (runeError, 1))
    (hr : ¬((decodeRune (b :: s)).1 = 0x2028 ∨ (decodeRune (b :: s)).1 = 0x2029)) :
    escape (b :: s) = (b :: s).take (decodeRune (b :: s)).2 ++
      escape ((b :: s).drop (decodeRune (b :: s)).2) := by
  rw [escape, if_neg hb, if_neg h, if_neg hr]

example : render (.object [(ascii "a", .array [.number (ascii "1"), .bool true])]) =
    ascii "\x7b\"a\":[1,true]\x7d" := by
  simp [render, renderMembers, renderElems, encodeString, ascii, escape_cons_ascii, escapeAscii,
    htmlSafe]
  decide
example : encodeString (ascii "<x>") = ascii "\"\\u003cx\\u003e\"" := by
  simp [encodeString, ascii, escape_cons_ascii, escapeAscii, htmlSafe, hex]
  decide

mutual
/-- The value that comes back from the decoder: every string and key goes
through `coerce`. -/
def JValue.coerce : JValue → JValue
  | .null => .null
  | .bool b => .bool b
  | .number lit => .number lit
  | .string s => .string (Utf8.coerce s)
  | .array es => .array (coerceElems es)
  | .object ms => .object (coerceMembers ms)

/-- `JValue.coerce` on the elements of an array. -/
def coerceElems : List JValue → List JValue
  | [] => []
  | v :: vs => v.coerce :: coerceElems vs

/-- `JValue.coerce` on the members of an object. -/
def coerceMembers : List (GoString × JValue) → List (GoString × JValue)
  | [] => []
  | (k, v) :: ms => (Utf8.coerce k, v.coerce) :: coerceMembers ms
end

theorem coerceElems_eq_map (es : List JValue) : coerceElems es = es.map JValue.coerce := by
  induction es with
  | nil => rfl
  | cons v vs ih => rw [coerceElems, ih, List.map_cons]

@[simp] theorem JValue.coerce_null : JValue.null.coerce = .null := rfl
@[simp] theorem JValue.coerce_bool (b : Bool) : (JValue.bool b).coerce = .bool b := rfl
@[simp] theorem JValue.coerce_number (lit : GoString) : (JValue.number lit).coerce = .number lit := rfl
@[simp] theorem JValue.coerce_string (s : GoString) :
    (JValue.string s).coerce = .string (Utf8.coerce s) := rfl
@[simp] theorem JValue.coerce_array (es : List JValue) :
    (JValue.array es).coerce = .array (es.map JValue.coerce) := by
  rw [JValue.coerce, coerceElems_eq_map]
@[simp] theorem JValue.coerce_object (ms : List (GoString × JValue)) :
    (JValue.object ms).coerce = .object (coerceMembers ms) := rfl
@[simp] theorem coerceMembers_nil : coerceMembers [] = [] := rfl
@[simp] theorem coerceMembers_cons (k : GoString) (v : JValue) (ms : List (GoString × JValue)) :
    coerceMembers ((k, v) :: ms) = (Utf8.coerce k, v.coerce) :: coerceMembers ms := rfl

end ArangoStarter.Go.Json
