import GoCommon.Encoding.Utf8
import GoCommon.Strconv

/-!
# Base64, as `encoding/base64` writes and reads `URLEncoding`

`EncodeCursor` hands the JSON of a cursor to `base64.URLEncoding.EncodeToString`, and
`DecodeCursor` reads a cursor back with `DecodeString`. `URLEncoding` is the alphabet `encodeURL`
with `=` padding and without strict decoding.

`encode` follows `Encode`: three bytes make four sextets, and a last group of one or two bytes
is padded. `decodeLoop` follows `Decode`, whose fast paths read four valid bytes exactly as
`decodeQuantum` does, so only `decodeQuantum` is modelled. Its index loop becomes one structural
recursion over the input, carrying the sextets of the current quantum and the input offset that
the errors report. A quantum ends with its fourth sextet, or at a padding byte (`padding`), after
which only newlines may follow (`afterPadding`).

`decodeString_encodeToString` is the round trip on every byte string.
-/

namespace GoCommon

namespace Base64

open Utf8

/-- `encodeURL`, the alphabet of `URLEncoding`. -/
def encodeURL : String := "ABCDEFGHIJKLMNOPQRSTUVWXYZabcdefghijklmnopqrstuvwxyz0123456789-_"

/-- `StdPadding`, the byte `=`, which `URLEncoding` pads with. -/
def padChar : UInt8 := 61

/-- `enc.encode[i]`: the byte that writes the sextet `i`. -/
def encodeByte (i : Nat) : UInt8 := (encodeURL.data.getD i 'A').toNat.toUInt8

/-- `enc.decodeMap[b]`: the sextet a byte of the alphabet writes, and `none` (the table's `0xFF`)
for any other byte. -/
def decodeMap (b : UInt8) : Option Nat := (encodeURL.data.map fun c => c.toNat.toUInt8).indexOf? b

/-- `Encode`: each group of three bytes as four sextets, and a last group of one or two bytes as
two or three sextets padded to four. -/
def encode : List UInt8 → List UInt8
  | a :: b :: c :: rest =>
    let val := a.toNat * 65536 + b.toNat * 256 + c.toNat
    [encodeByte (val / 262144 % 64), encodeByte (val / 4096 % 64), encodeByte (val / 64 % 64),
      encodeByte (val % 64)] ++ encode rest
  | [a, b] =>
    let val := a.toNat * 65536 + b.toNat * 256
    [encodeByte (val / 262144 % 64), encodeByte (val / 4096 % 64), encodeByte (val / 64 % 64),
      padChar]
  | [a] =>
    let val := a.toNat * 65536
    [encodeByte (val / 262144 % 64), encodeByte (val / 4096 % 64), padChar, padChar]
  | [] => []

/-- `EncodeToString`: the encoded bytes as a Go string. -/
def encodeToString (src : List UInt8) : String := ⟨(encode src).map fun b => Char.ofNat b.toNat⟩

/-- A `CorruptInputError`: the offset of the input byte at which decoding failed. -/
structure CorruptInputError where
  offset : Nat
  deriving DecidableEq, Repr

/-- `CorruptInputError.Error`. -/
def CorruptInputError.message (e : CorruptInputError) : String :=
  "illegal base64 data at input byte " ++ Strconv.itoa e.offset

/-- A byte `decodeQuantum` skips: `\n` or `\r`. -/
def isNewline (b : UInt8) : Bool := b == 10 || b == 13

/-- The bytes of a quantum of two to four `sextets`: `val` assembled from four sextets, the
missing ones zero, and its first `len - 1` bytes. -/
def quantumBytes (sextets : List Nat) : List UInt8 :=
  let val := sextets.getD 0 0 * 262144 + sextets.getD 1 0 * 4096 + sextets.getD 2 0 * 64 +
    sextets.getD 3 0
  [(val / 65536 % 256).toUInt8, (val / 256 % 256).toUInt8, (val % 256).toUInt8].take
    (sextets.length - 1)

/-- The end of `decodeQuantum` after the padding, at offset `si`: what follows, newlines apart, is
trailing garbage, reported at its offset after the quantum's bytes are written. -/
def afterPadding (out : List UInt8) (si : Nat) (rest : List UInt8) :
    List UInt8 × Option CorruptInputError :=
  let si := si + (rest.takeWhile isNewline).length
  (out, if rest.dropWhile isNewline = [] then none else some ⟨si⟩)

/-- `decodeQuantum` at a padding byte, with `sextets` read in the quantum and `si` the offset
past the `=`: fewer than two sextets are incorrect padding, two need a second `=`. -/
def padding (out : List UInt8) (sextets : List Nat) (si : Nat) (rest : List UInt8) :
    List UInt8 × Option CorruptInputError :=
  if sextets.length < 2 then (out, some ⟨si - 1⟩)
  else if sextets.length = 2 then
    let si := si + (rest.takeWhile isNewline).length
    match rest.dropWhile isNewline with
    | [] => (out, some ⟨si⟩)
    | b :: rest =>
      if b ≠ padChar then (out, some ⟨si - 1⟩)
      else afterPadding (out ++ quantumBytes sextets) (si + 1) rest
  else afterPadding (out ++ quantumBytes sextets) si rest

/-- `Decode`: `decodeQuantum` over the input, with `sextets` the quantum read so far and `si` the
offset of `src` in the input. -/
def decodeLoop (out : List UInt8) (sextets : List Nat) (si : Nat) :
    List UInt8 → List UInt8 × Option CorruptInputError
  | [] => (out, if sextets = [] then none else some ⟨si - sextets.length⟩)
  | b :: rest =>
    match decodeMap b with
    | some v =>
      if sextets.length = 3 then decodeLoop (out ++ quantumBytes (sextets ++ [v])) [] (si + 1) rest
      else decodeLoop out (sextets ++ [v]) (si + 1) rest
    | none =>
      if isNewline b then decodeLoop out sextets (si + 1) rest
      else if b ≠ padChar then (out, some ⟨si⟩)
      else padding out sextets (si + 1) rest

/-- `DecodeString`: the bytes of a Go string, decoded. -/
def decodeString (s : String) : Except CorruptInputError (List UInt8) :=
  match decodeLoop [] [] 0 (utf8Bytes s) with
  | (out, none) => .ok out
  | (_, some e) => .error e

/-- The alphabet's bytes are ASCII, and `decodeMap` inverts it. -/
theorem decodeMap_encodeByte : ∀ i < 64, decodeMap (encodeByte i) = some i ∧
    (encodeByte i).toNat < 0x80 := by
  decide

@[simp]
theorem decodeMap_padChar : decodeMap padChar = none := by decide

@[simp]
theorem isNewline_padChar : isNewline padChar = false := by decide

section RoundTrip

variable (out : List UInt8) (si : Nat) (rest : List UInt8)

/-- A sextet's byte is read back, ending the quantum at the fourth. -/
theorem decodeLoop_encodeByte {sextets : List Nat} {i : Nat} (sextet : i < 64) :
    decodeLoop out sextets si (encodeByte i :: rest) =
      if sextets.length = 3 then decodeLoop (out ++ quantumBytes (sextets ++ [i])) [] (si + 1) rest
      else decodeLoop out (sextets ++ [i]) (si + 1) rest := by
  rw [decodeLoop, (decodeMap_encodeByte i sextet).1]

/-- Four sextets' bytes are one quantum. -/
theorem decodeLoop_quantum {s0 s1 s2 s3 : Nat} (sextets : s0 < 64 ∧ s1 < 64 ∧ s2 < 64 ∧ s3 < 64) :
    decodeLoop out [] si (encodeByte s0 :: encodeByte s1 :: encodeByte s2 :: encodeByte s3 :: rest) =
      decodeLoop (out ++ quantumBytes [s0, s1, s2, s3]) [] (si + 4) rest := by
  obtain ⟨h0, h1, h2, h3⟩ := sextets
  rw [decodeLoop_encodeByte _ _ _ h0, if_neg (by simp), decodeLoop_encodeByte _ _ _ h1,
    if_neg (by simp), decodeLoop_encodeByte _ _ _ h2, if_neg (by simp),
    decodeLoop_encodeByte _ _ _ h3, if_pos (by simp)]
  rfl

end RoundTrip

/-- The sextets of three bytes give the three bytes back; those of one or two bytes, padded with
zeros, give the one or two bytes back. -/
theorem quantumBytes_group (a b c : UInt8) :
    let val := a.toNat * 65536 + b.toNat * 256 + c.toNat
    quantumBytes [val / 262144 % 64, val / 4096 % 64, val / 64 % 64, val % 64] = [a, b, c] := by
  have := toNat_lt_256 a; have := toNat_lt_256 b; have := toNat_lt_256 c
  simp only [quantumBytes, List.getD_cons_zero, List.getD_cons_succ, List.length_cons,
    List.length_nil]
  rw [toUInt8_of_eq (b := a) (by omega), toUInt8_of_eq (b := b) (by omega),
    toUInt8_of_eq (b := c) (by omega)]
  rfl

theorem quantumBytes_pair (a b : UInt8) :
    let val := a.toNat * 65536 + b.toNat * 256
    quantumBytes [val / 262144 % 64, val / 4096 % 64, val / 64 % 64] = [a, b] := by
  have := toNat_lt_256 a; have := toNat_lt_256 b
  simp only [quantumBytes, List.getD_cons_zero, List.getD_cons_succ, List.getD_nil,
    List.length_cons, List.length_nil]
  rw [toUInt8_of_eq (b := a) (by omega), toUInt8_of_eq (b := b) (by omega)]
  rfl

theorem quantumBytes_single (a : UInt8) :
    let val := a.toNat * 65536
    quantumBytes [val / 262144 % 64, val / 4096 % 64] = [a] := by
  have := toNat_lt_256 a
  simp only [quantumBytes, List.getD_cons_zero, List.getD_cons_succ, List.getD_nil,
    List.length_cons, List.length_nil]
  rw [toUInt8_of_eq (b := a) (by omega)]
  rfl

/-- Decoding what `Encode` wrote appends the source bytes and reports no error. -/
theorem decodeLoop_encode (out : List UInt8) (si : Nat) (src : List UInt8) :
    decodeLoop out [] si (encode src) = (out ++ src, none) := by
  have sextet : ∀ n, n % 64 < 64 := fun n => Nat.mod_lt _ (by decide)
  induction src using encode.induct generalizing out si with
  | case1 a b c rest ih =>
    rw [encode, List.cons_append, List.cons_append, List.cons_append, List.cons_append,
      List.nil_append, decodeLoop_quantum _ _ _ ⟨sextet _, sextet _, sextet _, sextet _⟩,
      quantumBytes_group, ih]
    simp
  | case2 a b =>
    rw [encode, decodeLoop_encodeByte _ _ _ (sextet _), if_neg (by simp),
      decodeLoop_encodeByte _ _ _ (sextet _), if_neg (by simp),
      decodeLoop_encodeByte _ _ _ (sextet _), if_neg (by simp)]
    simp only [decodeLoop, decodeMap_padChar, isNewline_padChar, padding, afterPadding]
    simp [quantumBytes_pair]
  | case3 a =>
    rw [encode, decodeLoop_encodeByte _ _ _ (sextet _), if_neg (by simp),
      decodeLoop_encodeByte _ _ _ (sextet _), if_neg (by simp)]
    simp only [decodeLoop, decodeMap_padChar, isNewline_padChar, padding, afterPadding]
    simp [quantumBytes_single]
  | case4 => simp [encode, decodeLoop]

/-- `EncodeToString` writes ASCII: the alphabet and the padding. -/
theorem encode_ascii (src : List UInt8) : ∀ b ∈ encode src, b.toNat < 0x80 := by
  have table : ∀ n, (encodeByte (n % 64)).toNat < 0x80 :=
    fun n => (decodeMap_encodeByte _ (Nat.mod_lt _ (by decide))).2
  have pad : padChar.toNat < 0x80 := by decide
  induction src using encode.induct with
  | case1 a b c rest ih =>
    rw [encode]
    simp only [List.cons_append, List.nil_append, List.mem_cons]
    rintro x (rfl | rfl | rfl | rfl | mem)
    exacts [table _, table _, table _, table _, ih x mem]
  | case2 a b =>
    simp only [encode, List.mem_cons, List.not_mem_nil, or_false]
    rintro x (rfl | rfl | rfl | rfl)
    exacts [table _, table _, table _, pad]
  | case3 a =>
    simp only [encode, List.mem_cons, List.not_mem_nil, or_false]
    rintro x (rfl | rfl | rfl | rfl)
    exacts [table _, table _, pad, pad]
  | case4 => simp [encode]

/-- **`DecodeString` reads back what `EncodeToString` writes**, for every byte string. -/
theorem decodeString_encodeToString (src : List UInt8) :
    decodeString (encodeToString src) = .ok src := by
  rw [decodeString, encodeToString, utf8Bytes_of_ascii (encode_ascii src), decodeLoop_encode]
  rfl

/-- `EncodeToString` writes nothing only for nothing. -/
theorem encodeToString_eq_empty_iff (src : List UInt8) : encodeToString src = "" ↔ src = [] := by
  rw [String.ext_iff, encodeToString]
  cases src using encode.induct <;> simp [encode]

end Base64

end GoCommon
