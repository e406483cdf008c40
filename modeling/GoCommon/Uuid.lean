import Mathlib.Tactic.Ring
import GoCommon.Context
import GoCommon.Encoding.Utf8

/-!
# UUID texts

`github.com/google/uuid`, as far as the package uses it to keep a `uuid.UUID` in fiber's locals:
`UUID.String()` writes the sixteen bytes as hexadecimal digits in groups of 4, 2, 2, 2 and 6
bytes joined by dashes (`encodeHex`, with `hex.Encode`'s lower-case table), and `Parse` reads
that form, the same form after a `urn:uuid:` prefix (any case) or inside one more byte at each
end, and 32 digits with no dashes. Digits are read by `xtob` through the `xvalues` table, which
also takes upper-case letters.

`Parse` reads back what `String()` writes: `parse_uuidString`. The proof follows `Parse` over
the text: the dashes sit where it looks for them (`decodeDashed_groups`, each piece read off the
rest of the text by `drop_after`), and each pair of digits it reads is the pair `hex.Encode`
wrote for one byte (`decodePairs_hexEncode`), which `xtob` turns back into that byte
(`xtob_hexPair`).

A Go string is a sequence of bytes; `Parse` indexes the bytes of the UTF-8 text (`utf8Bytes`).
The texts `String()` writes are ASCII, one rune a byte. The errors are the kinds `Parse` returns
(`invalidLengthError`, the URN prefix error and `invalid UUID format`), whose texts nothing in the
package reads. On an error `Parse` returns the bytes it had decoded, the rest zero.
-/

namespace GoCommon.Uuid

open Context (UUID)
open Utf8

/-! ## Bytes -/

/-- The last `n` bytes of the number `x`, most significant first. -/
def bytesBE : Nat → Nat → List UInt8
  | 0, _ => []
  | n + 1, x => bytesBE n (x / 256) ++ [(x % 256).toUInt8]

/-- `uuid[:]`: the sixteen bytes of a UUID. -/
def uuidBytes (u : UUID) : List UInt8 := bytesBE 16 u.toNat

/-- The UUID whose bytes are `bytes`, the first the most significant. -/
def ofBytes (bytes : List UInt8) : UUID :=
  BitVec.ofNat 128 (bytes.foldl (fun acc b => acc * 256 + b.toNat) 0)

theorem foldl_bytesBE (n x a : Nat) :
    (bytesBE n x).foldl (fun acc b => acc * 256 + b.toNat) a = a * 256 ^ n + x % 256 ^ n := by
  induction n generalizing x with
  | zero => simp [bytesBE, Nat.mod_one]
  | succ n ih =>
    rw [bytesBE, List.foldl_append, ih, List.foldl_cons, List.foldl_nil, toNat_toUInt8,
      Nat.mod_mod, Nat.pow_succ', Nat.mod_mul]
    ring

@[simp]
theorem length_bytesBE (n x : Nat) : (bytesBE n x).length = n := by
  induction n generalizing x with
  | zero => rfl
  | succ n ih => simp [bytesBE, ih]

theorem ofBytes_uuidBytes (u : UUID) : ofBytes (uuidBytes u) = u := by
  have fits : u.toNat < 256 ^ 16 := u.isLt
  apply BitVec.eq_of_toNat_eq
  rw [ofBytes, uuidBytes, foldl_bytesBE, Nat.mod_eq_of_lt fits, BitVec.toNat_ofNat, Nat.zero_mul,
    Nat.zero_add, Nat.mod_eq_of_lt u.isLt]

/-! ## `String()` -/

/-- `hex.Encode`'s `hextable`, `"0123456789abcdef"`. -/
def hextable : List UInt8 := "0123456789abcdef".toList.map (·.toNat.toUInt8)

/-- The two digits `hex.Encode` writes for the byte `v`: `hextable[v>>4]` and
`hextable[v&0x0f]`. -/
def hexPair (v : UInt8) : List UInt8 :=
  [hextable.getD (v.toNat >>> 4) 0, hextable.getD (v.toNat &&& 0x0f) 0]

/-- `hex.Encode(dst, src)`: the digits it writes into `dst`. -/
def hexEncode (src : List UInt8) : List UInt8 := src.flatMap hexPair

/-- The byte `'-'`. -/
def dash : UInt8 := 45

/-- `encodeHex(buf, uuid)`: the 36 bytes of `String()`. -/
def encodeHex (u : List UInt8) : List UInt8 :=
  hexEncode (u.take 4) ++ dash :: hexEncode ((u.drop 4).take 2) ++ dash ::
    hexEncode ((u.drop 6).take 2) ++ dash :: hexEncode ((u.drop 8).take 2) ++ dash ::
    hexEncode (u.drop 10)

/-- `uuid.String()`: the bytes of `encodeHex`, ASCII, as a text. -/
def uuidString (u : UUID) : String :=
  ⟨(encodeHex (uuidBytes u)).map fun b => Char.ofNat b.toNat⟩

/-! ## `Parse` -/

/-- `xvalues[b]`: the value of a hexadecimal digit of either case, 255 for any other byte. -/
def xvalue (b : UInt8) : Nat :=
  if 48 ≤ b.toNat ∧ b.toNat ≤ 57 then b.toNat - 48
  else if 97 ≤ b.toNat ∧ b.toNat ≤ 102 then b.toNat - 87
  else if 65 ≤ b.toNat ∧ b.toNat ≤ 70 then b.toNat - 55
  else 255

/-- `xtob(x1, x2)`: the byte `(b1 << 4) | b2` of two digit values, shifted in a byte, and whether
both bytes were digits. -/
def xtob (x1 x2 : UInt8) : UInt8 × Bool :=
  let b1 := xvalue x1
  let b2 := xvalue x2
  (((b1 <<< 4) % 256 ||| b2).toUInt8, b1 != 255 && b2 != 255)

/-- The errors of `Parse`. -/
inductive ParseError where
  | invalidLength (len : Nat)
  | invalidURN (urn : List UInt8)
  | invalidFormat
  deriving DecidableEq, Repr

/-- Where the sixteen pairs of digits start in the dashed form. -/
def pairPositions : List Nat := [0, 2, 4, 6, 9, 11, 14, 16, 19, 21, 24, 26, 28, 30, 32, 34]

/-- The loop over `pairPositions`: the bytes decoded so far, and the error at the first pair that
is not two digits. -/
def decodePairs (s : List UInt8) : List Nat → List UInt8 → List UInt8 × Option ParseError
  | [], bytes => (bytes, none)
  | x :: positions, bytes =>
    let (v, ok) := xtob (s.getD x 0) (s.getD (x + 1) 0)
    if ok then decodePairs s positions (bytes ++ [v]) else (bytes, some .invalidFormat)

/-- The dashed form `xxxxxxxx-xxxx-xxxx-xxxx-xxxxxxxxxxxx` at the start of `s`. -/
def decodeDashed (s : List UInt8) : List UInt8 × Option ParseError :=
  if s.getD 8 0 ≠ dash ∨ s.getD 13 0 ≠ dash ∨ s.getD 18 0 ≠ dash ∨ s.getD 23 0 ≠ dash then
    ([], some .invalidFormat)
  else decodePairs s pairPositions []

/-- The loop of the 32-digit form over the bytes `i` of the UUID: unlike `decodePairs`, it stores
the byte `xtob` returns before it tests `ok`. -/
def decodeRaw (s : List UInt8) : List Nat → List UInt8 → List UInt8 × Option ParseError
  | [], bytes => (bytes, none)
  | i :: rest, bytes =>
    let (v, ok) := xtob (s.getD (i * 2) 0) (s.getD (i * 2 + 1) 0)
    if ok then decodeRaw s rest (bytes ++ [v]) else (bytes ++ [v], some .invalidFormat)

/-- ASCII lower-casing of a byte. -/
def lowerByte (b : UInt8) : UInt8 := if 65 ≤ b.toNat ∧ b.toNat ≤ 90 then b + 32 else b

/-- `strings.EqualFold(s[:9], "urn:uuid:")`. The prefix is ASCII, and no rune outside ASCII folds
to one of its letters (only `K` and `S` have such partners), so the test is one of ASCII bytes. -/
def isURNPrefix (urn : List UInt8) : Bool := urn.map lowerByte == utf8Bytes "urn:uuid:"

/-- `uuid.Parse` of the bytes `s`. -/
def parseBytes (s : List UInt8) : UUID × Option ParseError :=
  let (decoded, err) : List UInt8 × Option ParseError :=
    match s.length with
    | 36 => decodeDashed s
    | 45 =>
      if isURNPrefix (s.take 9) then decodeDashed (s.drop 9)
      else ([], some (.invalidURN (s.take 9)))
    | 38 => decodeDashed (s.drop 1)
    | 32 => decodeRaw s (List.range 16) []
    | len => ([], some (.invalidLength len))
  (ofBytes (decoded ++ List.replicate (16 - decoded.length) 0), err)

/-- `uuid.Parse(s)`. -/
def parse (s : String) : UUID × Option ParseError := parseBytes (utf8Bytes s)

/-! ## Digits -/

theorem xvalue_hextable {n : Nat} (small : n < 16) : xvalue (hextable.getD n 0) = n := by
  rcases n with _ | _ | _ | _ | _ | _ | _ | _ | _ | _ | _ | _ | _ | _ | _ | _ | n
  all_goals first | rfl | omega

/-- `xtob` reads back the two digits `hex.Encode` writes for a byte. -/
theorem xtob_hexPair (v : UInt8) :
    xtob (hextable.getD (v.toNat >>> 4) 0) (hextable.getD (v.toNat &&& 0x0f) 0) = (v, true) := by
  have small : v.toNat < 256 := v.toNat_lt_size
  have high : v.toNat >>> 4 = v.toNat / 16 := Nat.shiftRight_eq_div_pow _ 4
  have low : v.toNat &&& 0x0f = v.toNat % 16 := Nat.and_pow_two_sub_one_eq_mod _ 4
  have shifted : ((v.toNat / 16) <<< 4) % 256 = 2 ^ 4 * (v.toNat / 16) := by
    rw [Nat.shiftLeft_eq]; omega
  rw [high, low, xtob, xvalue_hextable (by omega), xvalue_hextable (by omega), shifted,
    ← Nat.mul_add_lt_is_or (Nat.mod_lt _ (by decide))]
  refine Prod.ext (UInt8.toNat.inj ?_) (by simp; omega)
  dsimp only
  rw [toNat_toUInt8]
  omega

theorem hextable_getD_ascii (n : Nat) : (hextable.getD n 0).toNat < 0x80 := by
  have table : ∀ b ∈ hextable, b.toNat < 0x80 := by decide
  rw [List.getD_eq_getElem?_getD]
  cases entry : hextable[n]? with
  | none => decide
  | some b => exact table b (List.getElem?_mem entry)

@[simp]
theorem hexEncode_cons (v : UInt8) (src : List UInt8) :
    hexEncode (v :: src) = hexPair v ++ hexEncode src := rfl

@[simp]
theorem length_hexEncode (src : List UInt8) : (hexEncode src).length = 2 * src.length := by
  induction src with
  | nil => rfl
  | cons v src ih => simp [hexPair, ih]; omega

theorem hexEncode_ascii {src : List UInt8} : ∀ b ∈ hexEncode src, b.toNat < 0x80 := by
  intro b mem
  obtain ⟨v, -, pair⟩ := List.mem_flatMap.mp mem
  simp only [hexPair, List.mem_cons, List.mem_singleton, List.not_mem_nil, or_false] at pair
  rcases pair with rfl | rfl <;> exact hextable_getD_ascii _

/-! ## Reading back the dashed form -/

/-- The positions `off`, `off + 2`, … of `n` pairs of digits. -/
def pairsFrom (off n : Nat) : List Nat := (List.range n).map (off + 2 * ·)

theorem pairsFrom_succ (off n : Nat) : pairsFrom off (n + 1) = off :: pairsFrom (off + 2) n := by
  simp only [pairsFrom, List.range_succ_eq_map, List.map_cons, List.map_map]
  congr 1
  refine List.map_congr_left fun i _ => ?_
  simp only [Function.comp, Nat.succ_eq_add_one]
  omega

theorem pairPositions_eq : pairPositions =
    pairsFrom 0 4 ++ (pairsFrom 9 2 ++ (pairsFrom 14 2 ++ (pairsFrom 19 2 ++ pairsFrom 24 6))) :=
  rfl

theorem getD_of_drop {s rest : List UInt8} {off : Nat} {b : UInt8}
    (at_off : s.drop off = b :: rest) : s.getD off 0 = b := by
  have read := congrArg (·[0]?) at_off
  simp only [List.getElem?_drop, Nat.add_zero, List.getElem?_cons_zero] at read
  simp [read]

/-- Where the rest of a text starts once a piece of known length has been read. -/
theorem drop_after {s rest : List UInt8} (piece : List UInt8) {off next : Nat}
    (at_off : s.drop off = piece ++ rest)
    (len : off + piece.length = next) : s.drop next = rest := by
  rw [← len, ← List.drop_drop, at_off, List.drop_left]

theorem drop_after_cons {s rest : List UInt8} {off : Nat} {b : UInt8}
    (at_off : s.drop off = b :: rest) : s.drop (off + 1) = rest :=
  drop_after [b] at_off rfl

/-- The loop of `Parse` over pairs that `hex.Encode` wrote decodes the bytes they encode. -/
theorem decodePairs_hexEncode {s tail : List UInt8} (g : List UInt8) {off : Nat}
    (digits : s.drop off = hexEncode g ++ tail) (n : Nat) (len : g.length = n) (rest : List Nat)
    (bytes : List UInt8) :
    decodePairs s (pairsFrom off n ++ rest) bytes = decodePairs s rest (bytes ++ g) := by
  subst len
  induction g generalizing off bytes with
  | nil => simp [pairsFrom]
  | cons v g ih =>
    have next : s.drop (off + 1) = hextable.getD (v.toNat &&& 0x0f) 0 :: (hexEncode g ++ tail) :=
      drop_after_cons digits
    rw [List.length_cons, pairsFrom_succ, List.cons_append, decodePairs,
      getD_of_drop (by rw [digits]; rfl), getD_of_drop next, xtob_hexPair]
    simpa using ih (drop_after (hexPair v) digits rfl) (bytes ++ [v])

/-- `Parse` reads the dashed form back into the groups of bytes its digits encode. -/
theorem decodeDashed_groups (g1 g2 g3 g4 g5 : List UInt8) (l1 : g1.length = 4)
    (l2 : g2.length = 2) (l3 : g3.length = 2) (l4 : g4.length = 2) (l5 : g5.length = 6) :
    decodeDashed (hexEncode g1 ++ dash :: (hexEncode g2 ++ dash :: (hexEncode g3 ++ dash ::
        (hexEncode g4 ++ dash :: hexEncode g5)))) =
      (g1 ++ g2 ++ g3 ++ g4 ++ g5, none) := by
  generalize text : hexEncode g1 ++ _ = s
  have d0 : s.drop 0 = hexEncode g1 ++ _ := text.symm
  have d8 : s.drop 8 = dash :: _ := drop_after _ d0 (by simp [l1])
  have d9 : s.drop 9 = hexEncode g2 ++ _ := drop_after_cons d8
  have d13 : s.drop 13 = dash :: _ := drop_after _ d9 (by simp [l2])
  have d14 : s.drop 14 = hexEncode g3 ++ _ := drop_after_cons d13
  have d18 : s.drop 18 = dash :: _ := drop_after _ d14 (by simp [l3])
  have d19 : s.drop 19 = hexEncode g4 ++ _ := drop_after_cons d18
  have d23 : s.drop 23 = dash :: _ := drop_after _ d19 (by simp [l4])
  have d24 : s.drop 24 = hexEncode g5 ++ [] := (drop_after_cons d23).trans (List.append_nil _).symm
  have dashes : ¬(s.getD 8 0 ≠ dash ∨ s.getD 13 0 ≠ dash ∨ s.getD 18 0 ≠ dash ∨
      s.getD 23 0 ≠ dash) := by
    simp only [getD_of_drop d8, getD_of_drop d13, getD_of_drop d18, getD_of_drop d23]
    simp
  rw [decodeDashed, if_neg dashes, pairPositions_eq, decodePairs_hexEncode g1 d0 4 l1,
    decodePairs_hexEncode g2 d9 2 l2, decodePairs_hexEncode g3 d14 2 l3,
    decodePairs_hexEncode g4 d19 2 l4, ← List.append_nil (pairsFrom 24 6),
    decodePairs_hexEncode g5 d24 6 l5, decodePairs]
  simp

/-- `String()`'s bytes: each group's digits, a dash after each of the first four. -/
theorem encodeHex_eq (u : List UInt8) :
    encodeHex u = hexEncode (u.take 4) ++ dash :: (hexEncode ((u.drop 4).take 2) ++ dash ::
      (hexEncode ((u.drop 6).take 2) ++ dash :: (hexEncode ((u.drop 8).take 2) ++ dash ::
        hexEncode (u.drop 10)))) := by
  simp only [encodeHex, List.append_assoc, List.cons_append]

theorem take_append_drop_drop (u : List UInt8) (n m : Nat) :
    (u.drop n).take m ++ u.drop (n + m) = u.drop n := by
  rw [← List.drop_drop, List.take_append_drop]

theorem decodeDashed_encodeHex (u : List UInt8) (len : u.length = 16) :
    decodeDashed (encodeHex u) = (u, none) := by
  rw [encodeHex_eq, decodeDashed_groups _ _ _ _ _ (by simp [len]) (by simp [len]) (by simp [len])
    (by simp [len]) (by simp [len])]
  simp only [List.append_assoc, take_append_drop_drop u 8 2, take_append_drop_drop u 6 2,
    take_append_drop_drop u 4 2, List.take_append_drop]

theorem length_encodeHex (u : List UInt8) (len : u.length = 16) : (encodeHex u).length = 36 := by
  simp [encodeHex, len]

theorem encodeHex_ascii (u : List UInt8) : ∀ b ∈ encodeHex u, b.toNat < 0x80 := by
  have dash_ascii : dash.toNat < 0x80 := by decide
  simp only [encodeHex, List.mem_append, List.mem_cons]
  rintro b ((((digit | rfl | digit) | rfl | digit) | rfl | digit) | rfl | digit) <;>
    first | exact dash_ascii | exact hexEncode_ascii b digit

/-- **`Parse` reads back `String()`.** The text of every UUID parses, with no error, to that
UUID. -/
theorem parse_uuidString (u : UUID) : parse (uuidString u) = (u, none) := by
  have len : (uuidBytes u).length = 16 := length_bytesBE 16 _
  rw [parse, uuidString, utf8Bytes_of_ascii (encodeHex_ascii _), parseBytes,
    length_encodeHex _ len]
  simp only [decodeDashed_encodeHex _ len, len, Nat.sub_self, List.replicate_zero,
    List.append_nil, ofBytes_uuidBytes]

end GoCommon.Uuid
