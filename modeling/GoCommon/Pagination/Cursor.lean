import GoCommon.Encoding.Base64
import GoCommon.Encoding.Json

/-!
# Cursors

`EncodeCursor` marshals a `CursorData` to JSON and writes the bytes in URL-safe base64.
`DecodeCursor` reads the empty string as no cursor, and reads any other string back through
`base64.URLEncoding.DecodeString` and `json.Unmarshal`.

`marshal` writes the fields as the struct encoder does: `id` always, and `ca` and `v` only when
they are not empty (`omitempty`). `unmarshal` stores the members of a JSON object in order into a
zero `CursorData`. A key names a field when it is the field's name or equals it up to case, and
other keys are skipped. A value of the wrong kind saves a type error, and decoding goes on. The
first saved error is the one returned.

`decodeCursor_encodeCursor` is the round trip on every cursor: whatever runes its strings hold,
whatever its `int64`, the zero one that is not written included.
-/

namespace GoCommon.Pagination

open Json Utf8

/-- `CursorData`; `CreatedAt` is an `int64`. -/
@[ext]
structure CursorData where
  id : String
  createdAt : Int
  value : String
  createdAt_isInt64 : IsInt64 createdAt

/-- The zero `CursorData`, which `DecodeCursor` decodes into. -/
def CursorData.zero : CursorData := ⟨"", 0, "", by decide⟩

/-! ## Encoding -/

/-- The fields `json.Marshal` writes, each with its name: `id`, then `ca` and `v` unless they are
the zero value. -/
def CursorData.fields (d : CursorData) : List (String × List UInt8) :=
  [("id", appendString d.id)] ++
    (if d.createdAt = 0 then [] else [("ca", utf8Bytes (Strconv.formatInt d.createdAt))]) ++
    (if d.value = "" then [] else [("v", appendString d.value)])

/-- `json.Marshal(data)`. It cannot fail on `CursorData`, whose fields are strings and an
integer, so the error branch of `EncodeCursor` is never taken and is not modelled. -/
def marshal (d : CursorData) : List UInt8 := encodeStruct d.fields

/-- `EncodeCursor(data)`. -/
def encodeCursor (d : CursorData) : String := Base64.encodeToString (marshal d)

/-! ## Decoding -/

/-- A `*json.UnmarshalTypeError`: the JSON value, the Go type it could not be stored in, and the
path of the field, empty at the top level. -/
structure UnmarshalTypeError where
  value : String
  goType : String
  field : String
  deriving DecidableEq, Repr

/-- `UnmarshalTypeError.Error`. -/
def UnmarshalTypeError.message (e : UnmarshalTypeError) : String :=
  if e.field = "" then "json: cannot unmarshal " ++ e.value ++ " into Go value of type " ++ e.goType
  else "json: cannot unmarshal " ++ e.value ++ " into Go struct field CursorData." ++ e.field ++
    " of type " ++ e.goType

/-- The fields of `CursorData`. -/
inductive Field where
  | id
  | createdAt
  | value
  deriving DecidableEq, Repr

/-- The JSON name of a field. -/
def Field.name : Field → String
  | .id => "id"
  | .createdAt => "ca"
  | .value => "v"

/-- `foldName`: a key folded for matching up to case. ASCII letters are upper-cased; of the other
runes only the Kelvin sign and the long s fold to ASCII letters (`K` and `S`), and the others are
left as they are, since no name of `CursorData` holds a rune outside ASCII. -/
def foldName (s : String) : String :=
  ⟨s.data.map fun c =>
    if 'a' ≤ c ∧ c ≤ 'z' then Char.ofNat (c.toNat - 32)
    else if c = '\u212A' then 'K'
    else if c = '\u017F' then 'S'
    else c⟩

/-- The field a key names: the field of that exact name, or else one whose name folds to the
key's fold. -/
def fieldFor (key : String) : Option Field :=
  match [Field.id, .createdAt, .value].find? (·.name = key) with
  | some field => some field
  | none => [Field.id, .createdAt, .value].find? fun field => foldName field.name = foldName key

/-- What the decoder stores in a `string` field: a JSON string; `null` leaves the field as it is,
and any other value is a type error naming the value's kind. -/
def intoString : Value → Except String (Option String)
  | .null => .ok none
  | .string s => .ok (some s)
  | v => .error v.kind

/-- What the decoder stores in an `int64` field: a number `ParseInt` reads without error; a
number it does not read is a type error naming the literal; `null` leaves the field as it is,
and any other value is a type error naming the value's kind. -/
def intoInt64 : Value → Except String (Option { n : Int // IsInt64 n })
  | .null => .ok none
  | .number lit =>
    if (Strconv.parseInt lit).2 = none then .ok (some ⟨_, Strconv.isInt64_parseInt lit⟩)
    else .error ("number " ++ lit)
  | v => .error v.kind

/-- Storing one decoded value: `set` stores it, `null` changes nothing, and a type error is
saved unless an earlier one was (`d.saveError`). -/
def store {α : Type} (decoded : Except String (Option α)) (set : α → CursorData → CursorData)
    (goType field : String) (acc : CursorData × Option UnmarshalTypeError) :
    CursorData × Option UnmarshalTypeError :=
  match decoded with
  | .ok none => acc
  | .ok (some a) => (set a acc.1, acc.2)
  | .error value => (acc.1, acc.2 <|> some ⟨value, goType, field⟩)

/-- One member of the object, stored into the field its key names. -/
def storeMember (acc : CursorData × Option UnmarshalTypeError) (member : String × Value) :
    CursorData × Option UnmarshalTypeError :=
  match fieldFor member.1 with
  | none => acc
  | some .id => store (intoString member.2) (fun s d => { d with id := s }) "string" "id" acc
  | some .createdAt =>
    store (intoInt64 member.2) (fun n d => { d with createdAt := n.1, createdAt_isInt64 := n.2 })
      "int64" "ca" acc
  | some .value => store (intoString member.2) (fun s d => { d with value := s }) "string" "v" acc

/-- `json.Unmarshal` into a zero `CursorData`, after the input parsed: the members of an object
are stored in order, `null` leaves the struct zero, and any other value is a type error. -/
def unmarshal : Value → CursorData × Option UnmarshalTypeError
  | .null => (CursorData.zero, none)
  | .object members => members.foldl storeMember (CursorData.zero, none)
  | v => (CursorData.zero, some ⟨v.kind, "pagination.CursorData", ""⟩)

/-- The errors `DecodeCursor` returns: base64's, a JSON syntax error (its message and offset are
not modelled), and a type error. -/
inductive CursorError where
  | corruptInput (e : Base64.CorruptInputError)
  | syntaxError
  | typeError (e : UnmarshalTypeError)

/-- `DecodeCursor(cursor)`: no cursor for `""`, and otherwise the decoded cursor or the first
error. -/
def decodeCursor (cursor : String) : Except CursorError (Option CursorData) :=
  if cursor = "" then .ok none
  else
    match Base64.decodeString cursor with
    | .error e => .error (.corruptInput e)
    | .ok jsonData =>
      match Json.parse jsonData with
      | none => .error .syntaxError
      | some v =>
        match unmarshal v with
        | (data, none) => .ok (some data)
        | (_, some e) => .error (.typeError e)

/-! ## The round trip -/

/-- The members `marshal` writes, each with the bytes of its value and the value the decoder
reads from them. -/
def CursorData.members (d : CursorData) : List (String × List UInt8 × Value) :=
  [("id", appendString d.id, .string d.id)] ++
    (if d.createdAt = 0 then []
    else [("ca", utf8Bytes (Strconv.formatInt d.createdAt), .number (Strconv.formatInt d.createdAt))]) ++
    (if d.value = "" then [] else [("v", appendString d.value, .string d.value)])

section Members

variable (d : CursorData)

theorem fields_eq_members : d.fields = d.members.map fun member => (member.1, member.2.1) := by
  unfold CursorData.fields CursorData.members
  split_ifs <;> rfl

theorem readsAs_members : ∀ member ∈ d.members, ReadsAs member.2.1 member.2.2 := by
  have string := readsAs_appendString
  have number := readsAs_formatInt d.createdAt
  unfold CursorData.members
  split_ifs <;> simp_all

theorem length_members_le : d.members.length ≤ 3 := by
  unfold CursorData.members
  split_ifs <;> simp

/-- The JSON of a cursor parses as the object of its members. -/
theorem parse_marshal :
    Json.parse (marshal d) = some (.object (d.members.map fun member => (member.1, member.2.2))) := by
  have long : 3 ≤ (marshal d).length := by
    have name : (appendString "id").length = 4 := by decide
    simp only [marshal, CursorData.fields, List.singleton_append, encodeStruct, encodeFields,
      List.length_cons, List.length_append, name]
    omega
  have read := parseValue_encodeStruct d.members (readsAs_members d) ((marshal d).length - 1)
    (by have := length_members_le d; omega) []
  rw [List.append_nil, ← fields_eq_members, ← marshal, show (marshal d).length - 1 + 2 =
    (marshal d).length + 1 by omega] at read
  rw [Json.parse, read]
  rfl

theorem storeMember_id (acc : CursorData × Option UnmarshalTypeError) (s : String) :
    storeMember acc ("id", .string s) = ({ acc.1 with id := s }, acc.2) := rfl

theorem storeMember_v (acc : CursorData × Option UnmarshalTypeError) (s : String) :
    storeMember acc ("v", .string s) = ({ acc.1 with value := s }, acc.2) := rfl

theorem storeMember_ca (acc : CursorData × Option UnmarshalTypeError) {n : Int}
    (inRange : IsInt64 n) : storeMember acc ("ca", .number (Strconv.formatInt n)) =
      ({ acc.1 with createdAt := n, createdAt_isInt64 := inRange }, acc.2) := by
  have read := Strconv.parseInt_formatInt inRange
  have decoded : intoInt64 (.number (Strconv.formatInt n)) = .ok (some ⟨n, inRange⟩) := by
    rw [intoInt64, if_pos (by rw [read])]
    congr 2
    exact Subtype.ext (congrArg Prod.fst read)
  simp only [storeMember, show fieldFor "ca" = some .createdAt from rfl, decoded, store]

/-- Storing the members of a cursor into a zero `CursorData` rebuilds the cursor, with no
error. -/
theorem unmarshal_members :
    unmarshal (.object (d.members.map fun member => (member.1, member.2.2))) = (d, none) := by
  unfold CursorData.members
  by_cases zero : d.createdAt = 0 <;> by_cases empty : d.value = "" <;>
    simp only [zero, empty, if_true, if_false, List.map_append, List.map_cons, List.map_nil,
      unmarshal, List.foldl_append, List.foldl_cons, List.foldl_nil, storeMember_id,
      storeMember_v, storeMember_ca _ d.createdAt_isInt64] <;>
    ext <;> simp [CursorData.zero, zero, empty]

end Members

/-- **`DecodeCursor` reads back every cursor `EncodeCursor` writes**, and `EncodeCursor` never
writes the empty string, which `DecodeCursor` reads as no cursor. -/
theorem decodeCursor_encodeCursor (d : CursorData) :
    decodeCursor (encodeCursor d) = .ok (some d) ∧ encodeCursor d ≠ "" := by
  have nonempty : encodeCursor d ≠ "" := by
    rw [encodeCursor, Ne, Base64.encodeToString_eq_empty_iff]
    simp [marshal, encodeStruct, fields_eq_members, CursorData.members, encodeFields]
  refine ⟨?_, nonempty⟩
  rw [decodeCursor, if_neg nonempty, encodeCursor, Base64.decodeString_encodeToString]
  dsimp only
  rw [parse_marshal]
  dsimp only
  rw [unmarshal_members]

/-- The cursor of the package's own test is written as Go writes it. -/
example : encodeCursor ⟨"123", 1234567890, "test", by decide⟩ =
    "eyJpZCI6IjEyMyIsImNhIjoxMjM0NTY3ODkwLCJ2IjoidGVzdCJ9" := by
  decide

end GoCommon.Pagination