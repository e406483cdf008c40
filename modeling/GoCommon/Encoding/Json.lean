import GoCommon.Encoding.Utf8
import GoCommon.Strconv

/-!
# JSON, as `encoding/json` writes strings and reads values

The encoder side is `appendString` with HTML escaping on, as `json.Marshal` calls it, and the
compact object the struct encoder writes (`encodeStruct`). Over a valid UTF-8 string the source's
byte loop, which copies runs of plain bytes and steps over whole runes, writes each rune's escape
in turn: `escapeRune`.

The decoder side is `json.Unmarshal` up to the value it stores: the scanner's grammar, which
`checkValid` runs over the whole input first, and the literals the decoder reads. `parseValue`
reads one value by recursive descent and gives a `Value` tree, or `none` for a syntax error. A
string is read by `readString`, the scanner's string states fused with `unquote`: escapes
are replaced, a `\u` surrogate pair is joined, and a byte that starts no valid UTF-8 sequence
reads as `U+FFFD`, so what is read is a list of runes. Numbers keep their literal text, which the
decoder hands to `strconv`. Nesting is bounded by a fuel argument that `parse` sets to the
length of the input.

`readsAs_appendString`, `readsAs_formatInt` and `parseValue_encodeStruct` say that the decoder
reads back what the encoder writes: every string, every `int64` and every compact object of such
values.
-/

namespace GoCommon

namespace Json

open Utf8

/-- The byte of an ASCII character literal. -/
def byte (c : Char) : UInt8 := c.toNat.toUInt8

/-! ## Writing -/

/-- `hex`, the digits of a `\u` escape. -/
def hex : String := "0123456789abcdef"

/-- The byte of the hex digit `d`. -/
def hexByte (d : Nat) : UInt8 := byte (hex.data.getD d '0')

/-- `htmlSafeSet[b]` for an ASCII byte: printable, and none of `"`, `\`, `<`, `>` and `&`. -/
def htmlSafe (b : Nat) : Bool :=
  0x20 ≤ b && b != '"'.toNat && b != '\\'.toNat && b != '<'.toNat && b != '>'.toNat &&
    b != '&'.toNat

/-- The escapes `appendString` writes with a letter, for `\`, `"`, and the controls `\b`, `\f`,
`\n`, `\r` and `\t`. -/
def shortEscape (b : Nat) : Option Char :=
  if b = '\\'.toNat then some '\\'
  else if b = '"'.toNat then some '"'
  else if b = 8 then some 'b'
  else if b = 12 then some 'f'
  else if b = '\n'.toNat then some 'n'
  else if b = '\r'.toNat then some 'r'
  else if b = '\t'.toNat then some 't'
  else none

/-- What `appendString` writes for one rune, with HTML escaping on: a safe ASCII byte as it is,
a letter escape where there is one, other ASCII bytes as `\u00XX`, the separators U+2028 and
U+2029 as `\u2028` and `\u2029`, and any other rune as its UTF-8 bytes. -/
def escapeRune (c : Char) : List UInt8 :=
  let b := c.toNat
  if b < 0x80 then
    if htmlSafe b then [b.toUInt8]
    else match shortEscape b with
      | some e => [byte '\\', byte e]
      | none => utf8Bytes "\\u00" ++ [hexByte (b / 16), hexByte (b % 16)]
  else if b = 0x2028 ∨ b = 0x2029 then utf8Bytes "\\u202" ++ [hexByte (b % 16)]
  else encodeRune c

/-- `appendString(dst, s, true)`: a string as a quoted JSON string. -/
def appendString (s : String) : List UInt8 :=
  byte '"' :: s.data.flatMap escapeRune ++ [byte '"']

/-- The loop of `structEncoder.encode` over the fields that are not omitted, each a name and the
bytes of its value: it writes `next` and then `"name":value` for each, `next` being `{` before
the first field and `,` after it, and closes with `}`, or writes `{}` if no field was written. -/
def encodeFields (next : Char) : List (String × List UInt8) → List UInt8
  | [] => if next = '\x7b' then [byte '\x7b', byte '\x7d'] else [byte '\x7d']
  | (name, value) :: rest =>
    byte next :: appendString name ++ byte ':' :: value ++ encodeFields ',' rest

/-- `structEncoder.encode`: a struct as a compact JSON object. -/
def encodeStruct (fields : List (String × List UInt8)) : List UInt8 := encodeFields '\x7b' fields

/-! ## Reading -/

/-- A JSON value as the decoder reads it; a number keeps its literal text. -/
inductive Value where
  | null
  | bool (b : Bool)
  | number (literal : String)
  | string (s : String)
  | array (items : List Value)
  | object (members : List (String × Value))

/-- The kind of a JSON value, as a `*json.UnmarshalTypeError` names it. -/
def Value.kind : Value → String
  | .null => "null"
  | .bool _ => "bool"
  | .number _ => "number"
  | .string _ => "string"
  | .array _ => "array"
  | .object _ => "object"

/-- Whitespace between tokens: space, tab, newline and carriage return. -/
def isSpace (b : UInt8) : Bool :=
  b == byte ' ' || b == byte '\t' || b == byte '\n' || b == byte '\r'

/-- What follows the whitespace at the start. -/
def skipSpace (bs : List UInt8) : List UInt8 := bs.dropWhile isSpace

/-- The input after the token `c`, whitespace before it skipped; `none` if `c` is not next. -/
def token (c : Char) (bs : List UInt8) : Option (List UInt8) :=
  match skipSpace bs with
  | b :: rest => if b = byte c then some rest else none
  | [] => none

/-- A decimal digit. -/
def isDigit (b : UInt8) : Bool := '0'.toNat ≤ b.toNat && b.toNat ≤ '9'.toNat

/-- The value of a hex digit, as `getu4` reads it. -/
def hexValue (b : UInt8) : Option Nat :=
  let c := b.toNat
  if '0'.toNat ≤ c ∧ c ≤ '9'.toNat then some (c - '0'.toNat)
  else if 'a'.toNat ≤ c ∧ c ≤ 'f'.toNat then some (c - 'a'.toNat + 10)
  else if 'A'.toNat ≤ c ∧ c ≤ 'F'.toNat then some (c - 'A'.toNat + 10)
  else none

/-- `getu4` after the `\u`: the value of four hex digits, and what follows them. -/
def getu4 : List UInt8 → Option (Nat × List UInt8)
  | a :: b :: c :: d :: rest => do
    let a ← hexValue a
    let b ← hexValue b
    let c ← hexValue c
    let d ← hexValue d
    pure (((a * 16 + b) * 16 + c) * 16 + d, rest)
  | _ => none

/-- `utf16.IsSurrogate`. -/
def isSurrogate (r : Nat) : Bool := 0xD800 ≤ r && r < 0xE000

/-- `utf16.DecodeRune` on a high and a low surrogate; `none` where it returns U+FFFD. -/
def decodeSurrogates (r1 r2 : Nat) : Option Nat :=
  if 0xD800 ≤ r1 ∧ r1 < 0xDC00 ∧ 0xDC00 ≤ r2 ∧ r2 < 0xE000 then
    some ((r1 - 0xD800) * 1024 + (r2 - 0xDC00) + 0x10000)
  else none

/-- The rune of a `\u` escape, after the `\u`: a surrogate is joined with a `\u` low surrogate
that follows, or else reads as U+FFFD and leaves what follows unread. -/
def readUnicode (bs : List UInt8) : Option (Char × List UInt8) :=
  (getu4 bs).map fun (r, rest) =>
    if isSurrogate r then
      match rest with
      | b1 :: b2 :: more =>
        if b1 = byte '\\' ∧ b2 = byte 'u' then
          match (getu4 more).bind fun (r2, more) =>
              (decodeSurrogates r r2).map fun dec => (Char.ofNat dec, more) with
          | some pair => pair
          | none => (runeError, rest)
        else (runeError, rest)
      | _ => (runeError, rest)
    else (Char.ofNat r, rest)

/-- The escapes the scanner accepts after a backslash, `\u` apart, and the rune of each. -/
def unescapeByte (b : UInt8) : Option Char :=
  if b = byte '"' then some '"'
  else if b = byte '\\' then some '\\'
  else if b = byte '/' then some '/'
  else if b = byte 'b' then some '\x08'
  else if b = byte 'f' then some '\x0c'
  else if b = byte 'n' then some '\n'
  else if b = byte 'r' then some '\r'
  else if b = byte 't' then some '\t'
  else none

/-- An escape, after its backslash. -/
def readEscape : List UInt8 → Option (Char × List UInt8)
  | [] => none
  | b :: rest => if b = byte 'u' then readUnicode rest else (unescapeByte b).map fun c => (c, rest)

/-- The runes of a string literal after its opening quote, and what follows the closing quote.
`fuel` bounds the runes read. -/
def readString : Nat → List UInt8 → Option (List Char × List UInt8)
  | 0, _ => none
  | _ + 1, [] => none
  | fuel + 1, b :: rest =>
    if b = byte '"' then some ([], rest)
    else if b = byte '\\' then
      (readEscape rest).bind fun (c, rest) => (readString fuel rest).map (Prod.map (c :: ·) id)
    else if b.toNat < 0x20 then none
    else if b.toNat < 0x80 then
      (readString fuel rest).map (Prod.map (Char.ofNat b.toNat :: ·) id)
    else
      let (c, size) := decodeRune (b :: rest)
      (readString fuel ((b :: rest).drop size)).map (Prod.map (c :: ·) id)

/-- An exponent, if one follows the literal `lit` read so far. -/
def scanExponent (lit : List UInt8) : List UInt8 → Option (List UInt8 × List UInt8)
  | b :: rest =>
    if b = byte 'e' ∨ b = byte 'E' then
      let sign := rest.take 1 |>.filter fun s => s = byte '+' ∨ s = byte '-'
      let rest := rest.drop sign.length
      match rest.takeWhile isDigit with
      | [] => none
      | digits => some (lit ++ b :: sign ++ digits, rest.dropWhile isDigit)
    else some (lit, b :: rest)
  | [] => some (lit, [])

/-- A fraction and an exponent, if they follow the integer part `lit`. -/
def scanFraction (lit : List UInt8) : List UInt8 → Option (List UInt8 × List UInt8)
  | b :: rest =>
    if b = byte '.' then
      match rest.takeWhile isDigit with
      | [] => none
      | digits => scanExponent (lit ++ b :: digits) (rest.dropWhile isDigit)
    else scanExponent lit (b :: rest)
  | [] => some (lit, [])

/-- The scanner's number states: a `-`, then `0` or a digit `1` to `9` and more digits, then an
optional fraction and exponent. -/
def scanNumber (bs : List UInt8) : Option (List UInt8 × List UInt8) :=
  let sign := bs.take 1 |>.filter (· = byte '-')
  match bs.drop sign.length with
  | b :: rest =>
    if b = byte '0' then scanFraction (sign ++ [b]) rest
    else if isDigit b then
      scanFraction (sign ++ b :: rest.takeWhile isDigit) (rest.dropWhile isDigit)
    else none
  | [] => none

/-- A literal word such as `true`, read as `v`. -/
def literal (word : String) (v : Value) (bs : List UInt8) : Option (Value × List UInt8) :=
  if (utf8Bytes word).isPrefixOf bs then some (v, bs.drop word.length) else none

/-- The elements of an array after `[`, each read by `value`, up to the closing `]`. -/
def parseElems (value : List UInt8 → Option (Value × List UInt8)) :
    Nat → List Value → List UInt8 → Option (Value × List UInt8)
  | 0, _, _ => none
  | fuel + 1, items, bs => do
    let (v, rest) ← value bs
    match token ',' rest with
    | some rest => parseElems value fuel (items ++ [v]) rest
    | none => (token ']' rest).map fun rest => (.array (items ++ [v]), rest)

/-- The members of an object after `{`, each value read by `value`, up to the closing `}`. -/
def parseMembers (value : List UInt8 → Option (Value × List UInt8)) :
    Nat → List (String × Value) → List UInt8 → Option (Value × List UInt8)
  | 0, _, _ => none
  | fuel + 1, members, bs => do
    let rest ← token '"' bs
    let (key, rest) ← readString rest.length rest
    let rest ← token ':' rest
    let (v, rest) ← value rest
    match token ',' rest with
    | some rest => parseMembers value fuel (members ++ [(⟨key⟩, v)]) rest
    | none => (token '\x7d' rest).map fun rest => (.object (members ++ [(⟨key⟩, v)]), rest)

/-- One value, whitespace before it skipped, and what follows it. `fuel` bounds the nesting and
the elements read. -/
def parseValue : Nat → List UInt8 → Option (Value × List UInt8)
  | 0, _ => none
  | fuel + 1, bs =>
    match skipSpace bs with
    | [] => none
    | b :: rest =>
      if b = byte '\x7b' then
        match token '\x7d' rest with
        | some rest => some (.object [], rest)
        | none => parseMembers (parseValue fuel) fuel [] rest
      else if b = byte '[' then
        match token ']' rest with
        | some rest => some (.array [], rest)
        | none => parseElems (parseValue fuel) fuel [] rest
      else if b = byte '"' then
        (readString rest.length rest).map fun (cs, rest) => (.string ⟨cs⟩, rest)
      else if b = byte 't' then literal "true" (.bool true) (b :: rest)
      else if b = byte 'f' then literal "false" (.bool false) (b :: rest)
      else if b = byte 'n' then literal "null" .null (b :: rest)
      else (scanNumber (b :: rest)).map fun (lit, rest) =>
        (.number ⟨lit.map fun b => Char.ofNat b.toNat⟩, rest)

/-- `checkValid` and the decoder's first value: one value with only whitespace around it. -/
def parse (bs : List UInt8) : Option Value :=
  match parseValue (bs.length + 1) bs with
  | some (v, rest) => if skipSpace rest = [] then some v else none
  | none => none

/-! ## Reading back what is written -/

@[simp]
theorem toNat_byte (c : Char) : (byte c).toNat = c.toNat % 256 := toNat_toUInt8 _

theorem eq_byte_iff {b : UInt8} {c : Char} : b = byte c ↔ b.toNat = c.toNat % 256 :=
  ⟨fun same => same ▸ toNat_byte c, fun value => UInt8.toNat.inj (value.trans (toNat_byte c).symm)⟩

/-- The hex digits read back. -/
theorem hexValue_hexByte : ∀ d < 16, hexValue (hexByte d) = some d := by decide

/-- Each letter escape is read back as its rune. -/
theorem shortEscape_read : ∀ n < 128, ((shortEscape n).all fun e =>
    byte e != byte 'u' && unescapeByte (byte e) == some (Char.ofNat n)) = true := by
  decide

section ReadString

variable (fuel : Nat) (more : List UInt8)

/-- A printable ASCII byte other than `"` and the backslash is its own rune. -/
theorem readString_ascii {b : UInt8}
    (plain : 0x20 ≤ b.toNat ∧ b.toNat < 0x80 ∧ b.toNat ≠ 34 ∧ b.toNat ≠ 92) :
    readString (fuel + 1) (b :: more) =
      (readString fuel more).map (Prod.map (Char.ofNat b.toNat :: ·) id) := by
  simp [readString, eq_byte_iff, plain.1, plain.2.1, plain.2.2.1, plain.2.2.2, not_lt.mpr plain.1]

theorem readString_backslash {c : Char} {rest : List UInt8} (escape : readEscape more = some (c, rest)) :
    readString (fuel + 1) (byte '\\' :: more) = (readString fuel rest).map (Prod.map (c :: ·) id) := by
  simp [readString, escape, show byte '\\' ≠ byte '"' by decide]

theorem readString_wide {b : UInt8} (wide : 0x80 ≤ b.toNat) :
    readString (fuel + 1) (b :: more) =
      (readString fuel ((b :: more).drop (decodeRune (b :: more)).2)).map
        (Prod.map ((decodeRune (b :: more)).1 :: ·) id) := by
  simp [readString, eq_byte_iff, show ¬b.toNat = 34 by omega, show ¬b.toNat = 92 by omega,
    show ¬b.toNat < 0x20 by omega, show ¬b.toNat < 0x80 by omega]

/-- A `\u` escape of a rune outside the surrogates is read back as the rune. -/
theorem readEscape_unicode {c : Char} (d0 d1 d2 d3 : Nat)
    (digits : d0 < 16 ∧ d1 < 16 ∧ d2 < 16 ∧ d3 < 16)
    (value : ((d0 * 16 + d1) * 16 + d2) * 16 + d3 = c.toNat) (notSurrogate : c.toNat < 0xD800) :
    readEscape (byte 'u' :: hexByte d0 :: hexByte d1 :: hexByte d2 :: hexByte d3 :: more) =
      some (c, more) := by
  obtain ⟨h0, h1, h2, h3⟩ := digits
  have notSurrogate : isSurrogate c.toNat = false := by simp [isSurrogate, notSurrogate]
  rw [readEscape, if_pos rfl, readUnicode, getu4]
  simp only [hexValue_hexByte _ h0, hexValue_hexByte _ h1, hexValue_hexByte _ h2,
    hexValue_hexByte _ h3, Option.bind_eq_bind, Option.some_bind, Option.pure_def,
    Option.map_some', value, notSurrogate, Char.ofNat_toNat]
  rfl

/-- Each rune's escape is read back as the rune. -/
theorem readString_escapeRune (c : Char) :
    readString (fuel + 1) (escapeRune c ++ more) = (readString fuel more).map (Prod.map (c :: ·) id) := by
  have same : ∀ n, n = c.toNat → Char.ofNat n = c := fun n eq => eq ▸ Char.ofNat_toNat c
  dsimp only [escapeRune]
  split_ifs with ascii safe separator
  · simp only [htmlSafe, Bool.and_eq_true, decide_eq_true_eq, bne_iff_ne, ne_eq,
      Char.reduceToNat] at safe
    rw [List.singleton_append, readString_ascii _ _ (by simp; omega), toNat_toUInt8,
      same _ (by omega)]
  · have table := shortEscape_read c.toNat ascii
    split
    · next e escape =>
      simp only [escape, Option.all_some, Bool.and_eq_true, bne_iff_ne, ne_eq, beq_iff_eq] at table
      rw [List.cons_append, List.cons_append, List.nil_append,
        readString_backslash _ _ (by rw [readEscape, if_neg table.1, table.2]; rfl),
        same _ rfl]
    · rw [show utf8Bytes "\\u00" = [byte '\\', byte 'u', byte '0', byte '0'] from rfl,
        show byte '0' = hexByte 0 from rfl]
      simp only [List.cons_append, List.nil_append]
      rw [readString_backslash _ _ (readEscape_unicode (c := c) _ 0 0 _ _
        ⟨by decide, by decide, by omega, Nat.mod_lt _ (by decide)⟩ (by omega) (by omega))]
  · rw [show utf8Bytes "\\u202" = [byte '\\', byte 'u', byte '2', byte '0', byte '2'] from rfl,
      show byte '2' = hexByte 2 from rfl, show byte '0' = hexByte 0 from rfl]
    simp only [List.cons_append, List.nil_append]
    rw [readString_backslash _ _ (readEscape_unicode (c := c) _ 2 0 2 _
      ⟨by decide, by decide, by decide, Nat.mod_lt _ (by decide)⟩ (by omega) (by omega))]
  · obtain ⟨b, bs, encoded, lead⟩ := head_encodeRune_of_le (c := c) (by omega)
    have read := decodeRune_encodeRune c more
    rw [encoded, List.cons_append] at read ⊢
    rw [readString_wide _ _ (by omega), read, ← List.cons_append, ← encoded,
      List.drop_left]

end ReadString

/-- The escapes of a string, then a closing quote, are read back as the string. -/
theorem readString_escaped (s : List Char) (rest : List UInt8) :
    ∀ fuel, s.length < fuel →
      readString fuel (s.flatMap escapeRune ++ byte '"' :: rest) = some (s, rest) := by
  induction s with
  | nil =>
    rintro (_ | fuel) enough
    · omega
    · simp [readString]
  | cons c s ih =>
    rintro (_ | fuel) enough
    · omega
    · rw [List.flatMap_cons, List.append_assoc, readString_escapeRune,
        ih fuel (by simp at enough; omega)]
      rfl

/-- Each rune writes at least one byte. -/
theorem length_escapeRune_pos (c : Char) : 0 < (escapeRune c).length := by
  dsimp only [escapeRune, encodeRune]
  split_ifs <;> (try split) <;> simp

theorem length_le_flatMap_escapeRune (s : List Char) : s.length ≤ (s.flatMap escapeRune).length := by
  induction s with
  | nil => exact le_rfl
  | cons c s ih =>
    have := length_escapeRune_pos c
    simp only [List.flatMap_cons, List.length_append, List.length_cons]
    omega

/-- The escapes of a string and a closing quote are longer than the string, so that reading them
back never runs out of fuel. -/
theorem length_lt_escaped (s : List Char) (more : List UInt8) :
    s.length < (s.flatMap escapeRune ++ byte '"' :: more).length := by
  have := length_le_flatMap_escapeRune s
  rw [List.length_append, List.length_cons]
  omega

/-- ASCII text is written byte for byte, and read back. -/
theorem utf8Bytes_ascii {s : String} (ascii : ∀ c ∈ s.data, c.toNat < 0x80) :
    utf8Bytes s = s.data.map byte := by
  obtain ⟨cs⟩ := s
  induction cs with
  | nil => rfl
  | cons c cs ih =>
    rw [utf8Bytes_mk, List.flatMap_cons, ← utf8Bytes_mk, ih fun c' mem => ascii c' (.tail _ mem),
      encodeRune_of_lt (ascii c (.head _))]
    rfl

theorem ofNat_byte {c : Char} (ascii : c.toNat < 0x80) : Char.ofNat (byte c).toNat = c := by
  rw [toNat_byte, Nat.mod_eq_of_lt (by omega), Char.ofNat_toNat]

theorem ofNat_utf8Bytes {s : String} (ascii : ∀ c ∈ s.data, c.toNat < 0x80) :
    (utf8Bytes s).map (fun b => Char.ofNat b.toNat) = s.data := by
  rw [utf8Bytes_ascii ascii, List.map_map]
  conv_rhs => rw [← List.map_id s.data]
  exact List.map_congr_left fun c mem => ofNat_byte (ascii c mem)

theorem skipSpace_cons {b : UInt8} (bs : List UInt8) (notSpace : isSpace b = false) :
    skipSpace (b :: bs) = b :: bs :=
  List.dropWhile_cons_of_neg (by simp [notSpace])

theorem token_cons (c : Char) (bs : List UInt8) (notSpace : isSpace (byte c) = false) :
    token c (byte c :: bs) = some bs := by
  simp [token, skipSpace_cons bs notSpace]

theorem token_of_ne (c : Char) {b : UInt8} (bs : List UInt8) (notSpace : isSpace b = false)
    (other : b ≠ byte c) : token c (b :: bs) = none := by
  simp [token, skipSpace_cons bs notSpace, other]

/-- `bytes` are read as the value `v`, with any fuel, before a `,` or a `}`. -/
def ReadsAs (bytes : List UInt8) (v : Value) : Prop :=
  ∀ fuel d rest, (d = byte ',' ∨ d = byte '\x7d') →
    parseValue (fuel + 1) (bytes ++ d :: rest) = some (v, d :: rest)

section Dispatch

variable (fuel : Nat) (more : List UInt8)

theorem parseValue_quote :
    parseValue (fuel + 1) (byte '"' :: more) =
      (readString more.length more).map fun (cs, rest) => (.string ⟨cs⟩, rest) := by
  rw [parseValue, skipSpace_cons _ (by decide)]
  rfl

theorem parseValue_brace :
    parseValue (fuel + 1) (byte '\x7b' :: more) =
      match token '\x7d' more with
      | some rest => some (.object [], rest)
      | none => parseMembers (parseValue fuel) fuel [] more := by
  rw [parseValue, skipSpace_cons _ (by decide)]
  rfl

/-- A `-` or a digit starts a number. -/
theorem parseValue_number {b : UInt8} (start : b = byte '-' ∨ isDigit b) :
    parseValue (fuel + 1) (b :: more) = (scanNumber (b :: more)).map fun (lit, rest) =>
      (.number ⟨lit.map fun b => Char.ofNat b.toNat⟩, rest) := by
  have code : b.toNat = 45 ∨ (48 ≤ b.toNat ∧ b.toNat ≤ 57) := by
    rcases start with rfl | digit
    · exact .inl rfl
    · simp [isDigit] at digit; exact .inr digit
  have notSpace : isSpace b = false := by simp [isSpace, eq_byte_iff]; omega
  simp only [parseValue, skipSpace_cons _ notSpace]
  rw [if_neg (by rw [eq_byte_iff]; simp; omega), if_neg (by rw [eq_byte_iff]; simp; omega),
    if_neg (by rw [eq_byte_iff]; simp; omega), if_neg (by rw [eq_byte_iff]; simp; omega),
    if_neg (by rw [eq_byte_iff]; simp; omega), if_neg (by rw [eq_byte_iff]; simp; omega)]

end Dispatch

/-- **Every string is read back**: the decoder reads what `appendString` writes as the same
string. -/
theorem readsAs_appendString (s : String) : ReadsAs (appendString s) (.string s) := by
  intro fuel d rest _
  rw [appendString, List.cons_append, List.cons_append, parseValue_quote, List.append_assoc,
    List.singleton_append,
    readString_escaped _ _ _ (length_lt_escaped _ _)]
  rfl

/-- An integer literal, a `-` or none and then digits without a leading zero, is scanned up to
the delimiter after it. -/
theorem scanNumber_integer {sign digits : List UInt8} (signed : sign = [] ∨ sign = [byte '-'])
    (allDigits : ∀ b ∈ digits, isDigit b)
    (lead : ∃ b bs, digits = b :: bs ∧ (b = byte '0' → bs = [])) {d : UInt8}
    (delimiter : d = byte ',' ∨ d = byte '\x7d') (rest : List UInt8) :
    scanNumber (sign ++ digits ++ d :: rest) = some (sign ++ digits, d :: rest) := by
  obtain ⟨b, bs, rfl, lead⟩ := lead
  have first := allDigits b (.head _)
  have notMinus : b ≠ byte '-' := fun minus => by rw [minus] at first; exact absurd first (by decide)
  have taken : ((sign ++ b :: bs ++ d :: rest).take 1).filter (· = byte '-') = sign := by
    rcases signed with rfl | rfl <;> simp [notMinus]
  have after : isDigit d = false ∧ d ≠ byte '.' ∧ d ≠ byte 'e' ∧ d ≠ byte 'E' := by
    rcases delimiter with rfl | rfl <;> decide
  have scanned : scanFraction (sign ++ b :: bs) (d :: rest) = some (sign ++ b :: bs, d :: rest) := by
    simp [scanFraction, scanExponent, after.2.1, after.2.2.1, after.2.2.2]
  rw [scanNumber, taken, List.append_assoc, List.drop_left, List.cons_append]
  dsimp only
  by_cases zero : b = byte '0'
  · obtain rfl := lead zero
    rw [if_pos zero, ← scanned]
    rfl
  · have digits : ∀ x ∈ bs, isDigit x := fun x mem => allDigits x (.tail _ mem)
    rw [if_neg zero, if_pos first, List.takeWhile_append_of_pos digits,
      List.dropWhile_append_of_pos digits, List.takeWhile_cons_of_neg (by simp [after.1]),
      List.dropWhile_cons_of_neg (by simp [after.1]), List.append_nil]
    exact scanned

/-- An integer literal is read as a number with its text, before a delimiter. -/
theorem parseValue_integer {sign digits : List UInt8} (signed : sign = [] ∨ sign = [byte '-'])
    (allDigits : ∀ b ∈ digits, isDigit b)
    (lead : ∃ b bs, digits = b :: bs ∧ (b = byte '0' → bs = [])) {d : UInt8}
    (delimiter : d = byte ',' ∨ d = byte '\x7d') (fuel : Nat) (rest : List UInt8) :
    parseValue (fuel + 1) (sign ++ digits ++ d :: rest) =
      some (.number ⟨(sign ++ digits).map fun b => Char.ofNat b.toNat⟩, d :: rest) := by
  obtain ⟨b, bs, rfl, _⟩ := lead
  have start : ∃ first more, sign ++ b :: bs ++ d :: rest = first :: more ∧
      (first = byte '-' ∨ isDigit first) := by
    rcases signed with rfl | rfl
    · exact ⟨_, _, rfl, .inr (allDigits b (.head _))⟩
    · exact ⟨_, _, rfl, .inl rfl⟩
  obtain ⟨first, more, cons, starts⟩ := start
  rw [cons, parseValue_number _ _ starts, ← cons, scanNumber_integer signed allDigits
    ⟨b, bs, rfl, ‹_›⟩ delimiter rest]
  rfl

/-- The digits `FormatInt` writes, as bytes. -/
theorem digitChar_bytes : ∀ d < 10, isDigit (byte (Strconv.digitChar d)) ∧
    (byte (Strconv.digitChar d) = byte '0' ↔ d = 0) ∧ (Strconv.digitChar d).toNat < 0x80 := by
  decide

/-- **Every integer is read back**: the decoder reads what `FormatInt` writes as a number with
the same text. -/
theorem readsAs_formatInt (n : Int) :
    ReadsAs (utf8Bytes (Strconv.formatInt n)) (.number (Strconv.formatInt n)) := by
  intro fuel d rest delimiter
  obtain ⟨d0, ds, digits, lead, text⟩ := Strconv.formatInt_data n
  have ascii : ∀ c ∈ (Strconv.formatInt n).data, c.toNat < 0x80 := by
    rw [text]
    intro c mem
    rcases List.mem_append.mp mem with sign | digit
    · split at sign <;> simp_all
    · obtain ⟨e, inDigits, rfl⟩ := List.mem_map.mp digit
      exact (digitChar_bytes e (digits e inDigits)).2.2
  have bytes : utf8Bytes (Strconv.formatInt n) =
      (if n < 0 then [byte '-'] else []) ++ (d0 :: ds).map (byte ∘ Strconv.digitChar) := by
    rw [utf8Bytes_ascii ascii, text]
    split <;> simp [List.map_map]
  rw [bytes, parseValue_integer (by split <;> simp)
    (by simpa using fun e mem => (digitChar_bytes e (digits e mem)).1)
    ⟨_, _, List.map_cons _ _ _, fun zero => by
      rw [Function.comp_apply, (digitChar_bytes d0 (digits d0 (.head _))).2.1] at zero
      simp [lead zero]⟩ delimiter, ← bytes, ofNat_utf8Bytes ascii]

theorem appendString_append (s : String) (more : List UInt8) :
    appendString s ++ more = byte '"' :: (s.data.flatMap escapeRune ++ byte '"' :: more) := by
  simp [appendString]

/-- One member `"key":value` is read, and the loop goes on after a `,` or stops at a `}`. -/
theorem parseMembers_member (value : List UInt8 → Option (Value × List UInt8)) (loop : Nat)
    (members : List (String × Value)) (key : String) {bytes more : List UInt8} {v : Value}
    (read : value (bytes ++ more) = some (v, more)) :
    parseMembers value (loop + 1) members (appendString key ++ byte ':' :: (bytes ++ more)) =
      match token ',' more with
      | some rest => parseMembers value loop (members ++ [(key, v)]) rest
      | none => (token '\x7d' more).map fun rest => (.object (members ++ [(key, v)]), rest) := by
  rw [parseMembers, appendString_append, token_cons _ _ (by decide)]
  simp only [Option.bind_eq_bind, Option.some_bind]
  rw [readString_escaped _ _ _ (length_lt_escaped _ _)]
  simp only [Option.some_bind, token_cons _ _ (by decide : isSpace (byte ':') = false), read]

/-- The members `encodeFields` writes after its first byte are read back, each value by
`parseValue`, given more rounds of the loop than there are members. -/
theorem parseMembers_encodeFields (fuel : Nat) (fields : List (String × List UInt8 × Value))
    (readsAll : ∀ field ∈ fields, ReadsAs field.2.1 field.2.2) :
    ∀ (key : String) (bytes : List UInt8) (v : Value), ReadsAs bytes v →
    ∀ (loop : Nat) (members : List (String × Value)) (rest : List UInt8), fields.length < loop →
      parseMembers (parseValue (fuel + 1)) loop members (appendString key ++ byte ':' ::
          (bytes ++ (encodeFields ',' (fields.map fun field => (field.1, field.2.1)) ++ rest))) =
        some (.object (members ++ (key, v) :: fields.map fun field => (field.1, field.2.2)), rest) := by
  induction fields with
  | nil =>
    rintro key bytes v reads (_ | loop) members rest enough
    · simp at enough
    · have read := reads fuel (byte '\x7d') rest (.inr rfl)
      rw [List.map_nil, show encodeFields ',' [] = [byte '\x7d'] from rfl,
        List.singleton_append, parseMembers_member _ _ _ _ read,
        token_of_ne _ _ (by decide) (by decide), token_cons _ _ (by decide)]
      rfl
  | cons field fields ih =>
    rintro key bytes v reads (_ | loop) members rest enough
    · simp at enough
    · let more := encodeFields ',' (fields.map fun field => (field.1, field.2.1)) ++ rest
      have next : encodeFields ',' ((field :: fields).map fun field => (field.1, field.2.1)) ++ rest =
          byte ',' :: (appendString field.1 ++ byte ':' :: (field.2.1 ++ more)) := by
        simp [more, encodeFields]
      rw [next, parseMembers_member _ _ _ _ (reads fuel (byte ',') _ (.inl rfl)),
        token_cons _ _ (by decide)]
      dsimp only
      rw [ih (fun f mem => readsAll f (.tail _ mem)) field.1 field.2.1 field.2.2
          (readsAll field (.head _)) loop _ rest (by simpa using enough)]
      simp

/-- **Every compact object of readable values is read back**: the decoder reads what the struct
encoder writes as an object with the same members, in the same order. -/
theorem parseValue_encodeStruct (fields : List (String × List UInt8 × Value))
    (readsAll : ∀ field ∈ fields, ReadsAs field.2.1 field.2.2) (fuel : Nat)
    (enough : fields.length ≤ fuel + 1) (rest : List UInt8) :
    parseValue (fuel + 2) (encodeStruct (fields.map fun field => (field.1, field.2.1)) ++ rest) =
      some (.object (fields.map fun field => (field.1, field.2.2)), rest) := by
  cases fields with
  | nil =>
    rw [List.map_nil, encodeStruct, show encodeFields '\x7b' [] = [byte '\x7b', byte '\x7d'] from rfl,
      List.cons_append, parseValue_brace, List.singleton_append, token_cons _ _ (by decide)]
    rfl
  | cons field fields =>
    have input : encodeStruct ((field :: fields).map fun field => (field.1, field.2.1)) ++ rest =
        byte '\x7b' :: (appendString field.1 ++ byte ':' ::
          (field.2.1 ++ (encodeFields ',' (fields.map fun field => (field.1, field.2.1)) ++ rest))) := by
      simp [encodeStruct, encodeFields]
    rw [input, parseValue_brace, appendString_append, token_of_ne _ _ (by decide) (by decide),
      ← appendString_append]
    dsimp only
    rw [parseMembers_encodeFields fuel fields (fun f mem => readsAll f (.tail _ mem)) field.1
      field.2.1 field.2.2 (readsAll field (.head _)) (fuel + 1) [] rest
      (by simp at enough; omega)]
    rfl

end Json

end GoCommon
