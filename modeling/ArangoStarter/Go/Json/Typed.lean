import ArangoStarter.Go.Json.Decode

/-!
# Decoding into Go values

After the scanner has accepted the input, `json.Unmarshal` walks the value
and stores it into the Go value by its type.  This module models the cases
of `literalStore`, `d.array` and `d.object` that the setup file needs:
strings, `int`, `bool`, slices and structs.

* A value of the wrong kind is an `*UnmarshalTypeError` that names the JSON
  kind and the Go type.  The decoder keeps going after such an error and
  returns the first one; the model stops at the first one, which returns the
  same error.  The offset and the struct field of the error are not kept.
* `null` leaves a string, number, boolean or struct as it was and sets a
  slice to `nil`, the empty slice.
* An object is read member by member into the struct already there.  A key
  picks the field with that exact name, else the first field whose name
  matches it up to case (`equalFold`); other keys are skipped.
* An array is read element by element into the slice already there: element
  `i` goes into the old element `i`, or into a zero value past the old
  length, and the slice then has the array's length.  Go grows the slice in
  place, so past the old length an element of an earlier, longer array under
  a repeated key can show through; the model starts from a zero value there.
-/

namespace ArangoStarter.Go.Json

open Utf8

/-- The JSON kind that an `*UnmarshalTypeError` names. -/
def JValue.kind : JValue → String
  | .null => "null"
  | .bool _ => "bool"
  | .number _ => "number"
  | .string _ => "string"
  | .array _ => "array"
  | .object _ => "object"

/-- The decoder for a Go `string`. -/
def decodeString : JValue → GoString → Except UnmarshalError GoString
  | .string s, _ => .ok s
  | .null, x => .ok x
  | v, _ => .error (.type v.kind "string")

/-- The decoder for a Go `bool`. -/
def decodeBool : JValue → Bool → Except UnmarshalError Bool
  | .bool b, _ => .ok b
  | .null, x => .ok x
  | v, _ => .error (.type v.kind "bool")

/-- The text of a number literal, for the error it may cause. -/
def litText (lit : GoString) : String := String.mk (lit.map fun b => Char.ofNat b.toNat)

/-- The decoder for a Go `int`: `strconv.ParseInt(s, 10, 64)` of the literal,
and `"number " + s` in the error when it fails. -/
def decodeInt : JValue → GoInt → Except UnmarshalError GoInt
  | .number lit, _ =>
    match h : Strconv.parseInt lit with
    | some i => .ok ⟨i, Strconv.parseInt_inRange h⟩
    | none => .error (.type ("number " ++ litText lit) "int")
  | .null, x => .ok x
  | v, _ => .error (.type v.kind "int")

/-- An `int` that the encoder wrote reads back as itself. -/
theorem decodeInt_itoa (i x : GoInt) : decodeInt (.number (Strconv.itoa i.val)) x = .ok i := by
  simp only [decodeInt]
  split
  · rename_i j h
    rw [Strconv.parseInt_itoa i.inRange.1 i.inRange.2] at h
    cases h
    rfl
  · rename_i h
    rw [Strconv.parseInt_itoa i.inRange.1 i.inRange.2] at h
    cases h

/-- `d.array` into a slice: each element into the old element at its index,
or into `zero` past the old length. -/
def decodeElems {α : Type} (zero : α) (decodeElem : JValue → α → Except UnmarshalError α) :
    List JValue → List α → Except UnmarshalError (List α)
  | [], _ => .ok []
  | e :: es, xs => do
    let x ← decodeElem e (xs.headD zero)
    let rest ← decodeElems zero decodeElem es xs.tail
    .ok (x :: rest)

/-- A slice of elements that each read back as `g` of themselves, whatever
was there before, reads back as the slice of their images. -/
theorem decodeElems_map {α β : Type} {zero : α} {decodeElem : JValue → α → Except UnmarshalError α}
    {enc : β → JValue} {g : β → α} (h : ∀ b x, decodeElem (enc b) x = .ok (g b)) :
    ∀ (bs : List β) (xs : List α), decodeElems zero decodeElem (bs.map enc) xs = .ok (bs.map g)
  | [], _ => rfl
  | b :: bs, xs => by
    rw [List.map_cons, decodeElems, h, bind_ok, decodeElems_map h bs xs.tail]
    rfl

/-- The decoder for a Go slice `goType` of elements with zero value `zero`. -/
def decodeSlice {α : Type} (zero : α) (decodeElem : JValue → α → Except UnmarshalError α)
    (goType : String) : JValue → List α → Except UnmarshalError (List α)
  | .array es, xs => decodeElems zero decodeElem es xs
  | .null, _ => .ok []
  | v, _ => .error (.type v.kind goType)

/-- `caseMask &` of an ASCII letter is its upper case. -/
def upper (b : UInt8) : UInt8 := b &&& 0xDF

/-- `equalFoldRight(s, t)`: the key `t` is the ASCII field name `s` up to
case.  A letter of `s` matches either case; `s` and `S` also match `ſ`
(U+017F), and `k` and `K` also match the Kelvin sign (U+212A).  The other
fold functions that `foldFunc` may pick agree with it on ASCII names. -/
def equalFold : GoString → GoString → Bool
  | [], t => t.isEmpty
  | _ :: _, [] => false
  | sb :: s, tb :: t =>
    if tb.toNat < 0x80 then
      (sb == tb || (65 ≤ upper sb && upper sb ≤ 90 && upper sb == upper tb)) && equalFold s t
    else
      (((sb == 115 || sb == 83) && (decodeRune (tb :: t)).1 == 0x17F) ||
        ((sb == 107 || sb == 75) && (decodeRune (tb :: t)).1 == 0x212A)) &&
        equalFold s ((tb :: t).drop (decodeRune (tb :: t)).2)

example : equalFold (ascii "HasAgent") (ascii "hasagent") = true := by decide
example : equalFold (ascii "HasAgent") [0x48, 0x61, 0xC5, 0xBF, 0x41, 0x67, 0x65, 0x6E, 0x74] = true := by
  decide

/-- A field of a struct as the decoder sees it: its key, and how a value is
stored into it. -/
structure FieldDec (α : Type) where
  name : GoString
  decode : JValue → α → Except UnmarshalError α

/-- The field for a key: the first field with that exact name, else the first
whose name matches up to case. -/
def findField {α : Type} (fields : List (FieldDec α)) (key : GoString) : Option (FieldDec α) :=
  (fields.find? fun f => f.name == key).or (fields.find? fun f => equalFold f.name key)

/-- `d.object` into a struct: the members in order, each into its field. -/
def decodeMembers {α : Type} (fields : List (FieldDec α)) :
    List (GoString × JValue) → α → Except UnmarshalError α
  | [], x => .ok x
  | (k, v) :: ms, x =>
    match findField fields k with
    | some f => do decodeMembers fields ms (← f.decode v x)
    | none => decodeMembers fields ms x

/-- The decoder for a Go struct `goType` with the given fields. -/
def decodeStruct {α : Type} (fields : List (FieldDec α)) (goType : String) :
    JValue → α → Except UnmarshalError α
  | .object ms, x => decodeMembers fields ms x
  | .null, x => .ok x
  | v, _ => .error (.type v.kind goType)

end ArangoStarter.Go.Json
