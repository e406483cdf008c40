import Mathlib.Data.List.Basic

/-!
# UTF-8, as `unicode/utf8` reads and writes it

The cursor layer moves Go strings through bytes twice: `encoding/json` writes the runes of a string
with `utf8.EncodeRune` and reads them back with `utf8.DecodeRune`. A Lean `String` is a list of
Unicode scalar values, which is exactly a valid UTF-8 Go string, so the model writes a string rune
by rune.

`encodeRune` and `decodeRune` follow the source's arithmetic: the bit fields that the source
joins with `|` are disjoint, and are added here; a mask `& 0x3f` is `% 64`. `decodeRune` reads the
lead byte through the `first` and `acceptRanges` tables of `utf8.go`, given here as `acceptRange`.
`decodeRune_encodeRune` is the round trip on every rune.
-/

namespace GoCommon

/-- A byte's value is below `256`. -/
theorem toNat_lt_256 (b : UInt8) : b.toNat < 256 := b.toBitVec.isLt

@[simp]
theorem toNat_toUInt8 (n : Nat) : n.toUInt8.toNat = n % 256 := by
  simp [Nat.toUInt8, UInt8.toNat, UInt8.ofNat, Fin.ofNat]

/-- A byte is the byte of its value. -/
theorem toUInt8_of_eq {b : UInt8} {n : Nat} (value : n = b.toNat) : n.toUInt8 = b :=
  UInt8.toNat.inj (by rw [toNat_toUInt8, value, Nat.mod_eq_of_lt (toNat_lt_256 b)])

theorem toNat_ofNat_of_lt {n : Nat} (small : n < 0xD800) : (Char.ofNat n).toNat = n := by
  simp [Char.ofNat, Char.ofNatAux, Char.toNat, Nat.isValidChar, small, UInt32.toNat]

/-- A rune is a Unicode scalar value: below `0x110000` and outside the surrogates. -/
theorem toNat_isValidChar (c : Char) :
    c.toNat < 0xD800 ∨ (0xDFFF < c.toNat ∧ c.toNat < 0x110000) := c.valid

namespace Utf8

/-- `utf8.RuneError`, U+FFFD. -/
def runeError : Char := '\uFFFD'

/-- `utf8.EncodeRune`: the one to four bytes of a rune. The source's last case, for a surrogate or
a value past `MaxRune`, writes `RuneError` and cannot be reached from a `Char`. -/
def encodeRune (c : Char) : List UInt8 :=
  let r := c.toNat
  if r < 0x80 then [r.toUInt8]
  else if r < 0x800 then [(0xC0 + r / 64).toUInt8, (0x80 + r % 64).toUInt8]
  else if r < 0x10000 then
    [(0xE0 + r / 4096).toUInt8, (0x80 + r / 64 % 64).toUInt8, (0x80 + r % 64).toUInt8]
  else
    [(0xF0 + r / 262144).toUInt8, (0x80 + r / 4096 % 64).toUInt8, (0x80 + r / 64 % 64).toUInt8,
      (0x80 + r % 64).toUInt8]

/-- The bytes of a Go string: its runes, each encoded. -/
def utf8Bytes (s : String) : List UInt8 := s.data.flatMap encodeRune

/-- The `first` and `acceptRanges` tables for a lead byte of `0x80` or more: the width of the
sequence it starts, and the range its second byte must lie in; `none` for a byte that starts no
sequence. -/
def acceptRange (x : Nat) : Option (Nat × Nat × Nat) :=
  if x < 0xC2 then none
  else if x < 0xE0 then some (2, 0x80, 0xBF)
  else if x = 0xE0 then some (3, 0xA0, 0xBF)
  else if x = 0xED then some (3, 0x80, 0x9F)
  else if x < 0xF0 then some (3, 0x80, 0xBF)
  else if x = 0xF0 then some (4, 0x90, 0xBF)
  else if x < 0xF4 then some (4, 0x80, 0xBF)
  else if x = 0xF4 then some (4, 0x80, 0x8F)
  else none

/-- A continuation byte, `locb ≤ b ≤ hicb`. -/
def isContinuation (b : UInt8) : Bool := 0x80 ≤ b.toNat && b.toNat ≤ 0xBF

/-- `utf8.DecodeRune`: the first rune of `p` and its width in bytes. An empty `p` gives
`(RuneError, 0)`, and a byte that starts no valid sequence gives `(RuneError, 1)`. -/
def decodeRune : List UInt8 → Char × Nat
  | [] => (runeError, 0)
  | b0 :: rest =>
    if b0.toNat < 0x80 then (Char.ofNat b0.toNat, 1)
    else match acceptRange b0.toNat, rest with
      | some (size, lo, hi), b1 :: rest =>
        if b1.toNat < lo ∨ hi < b1.toNat then (runeError, 1)
        else if size ≤ 2 then (Char.ofNat (b0.toNat % 32 * 64 + b1.toNat % 64), 2)
        else match rest with
          | b2 :: rest =>
            if !isContinuation b2 then (runeError, 1)
            else if size ≤ 3 then
              (Char.ofNat (b0.toNat % 16 * 4096 + b1.toNat % 64 * 64 + b2.toNat % 64), 3)
            else match rest with
              | b3 :: _ =>
                if !isContinuation b3 then (runeError, 1)
                else (Char.ofNat (b0.toNat % 8 * 262144 + b1.toNat % 64 * 4096 +
                  b2.toNat % 64 * 64 + b3.toNat % 64), 4)
              | [] => (runeError, 1)
          | [] => (runeError, 1)
      | _, _ => (runeError, 1)

theorem encodeRune_of_lt {c : Char} (ascii : c.toNat < 0x80) : encodeRune c = [c.toNat.toUInt8] :=
  if_pos ascii

/-- The lead byte of a rune past ASCII is `0xC2` or more: it is no ASCII byte, and no byte the
JSON scanner stops at. -/
theorem head_encodeRune_of_le {c : Char} (wide : 0x80 ≤ c.toNat) :
    ∃ b bs, encodeRune c = b :: bs ∧ 0xC2 ≤ b.toNat := by
  have valid := toNat_isValidChar c
  unfold encodeRune
  simp only [if_neg (show ¬c.toNat < 0x80 by omega)]
  split
  · exact ⟨_, _, rfl, by simp; omega⟩
  · split
    · exact ⟨_, _, rfl, by simp; omega⟩
    · exact ⟨_, _, rfl, by simp; omega⟩

@[simp]
theorem isContinuation_iff (b : UInt8) :
    isContinuation b ↔ 0x80 ≤ b.toNat ∧ b.toNat ≤ 0xBF := by
  simp [isContinuation]

@[simp]
theorem utf8Bytes_mk (cs : List Char) : utf8Bytes ⟨cs⟩ = cs.flatMap encodeRune := rfl

/-- A text of ASCII runes has one byte per rune. -/
theorem length_utf8Bytes_of_ascii {cs : List Char} (ascii : ∀ c ∈ cs, c.toNat < 0x80) :
    (utf8Bytes ⟨cs⟩).length = cs.length := by
  induction cs with
  | nil => rfl
  | cons c cs ih =>
    rw [utf8Bytes_mk, List.flatMap_cons, ← utf8Bytes_mk, List.length_append,
      encodeRune_of_lt (ascii c (.head _)), ih fun d mem => ascii d (.tail _ mem)]
    simp [Nat.add_comm]

/-- ASCII bytes, read as a Go string, are their own UTF-8. -/
theorem utf8Bytes_of_ascii {bs : List UInt8} (ascii : ∀ b ∈ bs, b.toNat < 0x80) :
    utf8Bytes ⟨bs.map fun b => Char.ofNat b.toNat⟩ = bs := by
  induction bs with
  | nil => rfl
  | cons b bs ih =>
    have small := ascii b (.head _)
    rw [utf8Bytes_mk, List.map_cons, List.flatMap_cons, ← utf8Bytes_mk,
      ih fun b' mem => ascii b' (.tail _ mem), encodeRune_of_lt (by rw [toNat_ofNat_of_lt (by omega)]; exact small),
      toNat_ofNat_of_lt (by omega), toUInt8_of_eq rfl, List.singleton_append]

section Decode

/-! One lemma per width of sequence: what `decodeRune` returns for a well-formed one. The
conditions on the second byte are those of `acceptRanges`: no overlong form, no surrogate and
nothing past `MaxRune`. -/

variable {b0 b1 b2 b3 : UInt8} (rest : List UInt8)

theorem decodeRune_of_lt (ascii : b0.toNat < 0x80) :
    decodeRune (b0 :: rest) = (Char.ofNat b0.toNat, 1) := by
  rw [decodeRune.eq_def]
  exact if_pos ascii

theorem decodeRune_two (lead : 0xC2 ≤ b0.toNat ∧ b0.toNat < 0xE0) (second : isContinuation b1) :
    decodeRune (b0 :: b1 :: rest) = (Char.ofNat (b0.toNat % 32 * 64 + b1.toNat % 64), 2) := by
  have range : acceptRange b0.toNat = some (2, 0x80, 0xBF) := by
    rw [acceptRange, if_neg (by omega), if_pos lead.2]
  rw [isContinuation_iff] at second
  rw [decodeRune.eq_def]
  dsimp only
  rw [if_neg (by omega), range]
  dsimp only
  rw [if_neg (by omega), if_pos (by decide)]

theorem decodeRune_three (lead : 0xE0 ≤ b0.toNat ∧ b0.toNat < 0xF0) (second : isContinuation b1)
    (notOverlong : b0.toNat = 0xE0 → 0xA0 ≤ b1.toNat)
    (notSurrogate : b0.toNat = 0xED → b1.toNat ≤ 0x9F) (third : isContinuation b2) :
    decodeRune (b0 :: b1 :: b2 :: rest) =
      (Char.ofNat (b0.toNat % 16 * 4096 + b1.toNat % 64 * 64 + b2.toNat % 64), 3) := by
  rw [isContinuation_iff] at second
  obtain ⟨lo, hi, range, low, high⟩ : ∃ lo hi, acceptRange b0.toNat = some (3, lo, hi) ∧
      lo ≤ b1.toNat ∧ b1.toNat ≤ hi := by
    rw [acceptRange, if_neg (by omega), if_neg (by omega)]
    by_cases e0 : b0.toNat = 0xE0
    · exact ⟨_, _, if_pos e0, notOverlong e0, second.2⟩
    by_cases ed : b0.toNat = 0xED
    · exact ⟨_, _, by rw [if_neg e0, if_pos ed], second.1, notSurrogate ed⟩
    · exact ⟨_, _, by rw [if_neg e0, if_neg ed, if_pos lead.2], second⟩
  rw [decodeRune.eq_def]
  dsimp only
  rw [if_neg (by omega), range]
  dsimp only
  rw [if_neg (by omega), if_neg (by decide), if_neg (by simp [third]), if_pos (by decide)]

theorem decodeRune_four (lead : 0xF0 ≤ b0.toNat ∧ b0.toNat ≤ 0xF4) (second : isContinuation b1)
    (notOverlong : b0.toNat = 0xF0 → 0x90 ≤ b1.toNat)
    (notTooLarge : b0.toNat = 0xF4 → b1.toNat ≤ 0x8F) (third : isContinuation b2)
    (fourth : isContinuation b3) :
    decodeRune (b0 :: b1 :: b2 :: b3 :: rest) =
      (Char.ofNat (b0.toNat % 8 * 262144 + b1.toNat % 64 * 4096 + b2.toNat % 64 * 64 +
        b3.toNat % 64), 4) := by
  rw [isContinuation_iff] at second
  obtain ⟨lo, hi, range, low, high⟩ : ∃ lo hi, acceptRange b0.toNat = some (4, lo, hi) ∧
      lo ≤ b1.toNat ∧ b1.toNat ≤ hi := by
    rw [acceptRange, if_neg (by omega), if_neg (by omega), if_neg (by omega), if_neg (by omega),
      if_neg (by omega)]
    by_cases f0 : b0.toNat = 0xF0
    · exact ⟨_, _, if_pos f0, notOverlong f0, second.2⟩
    by_cases f4 : b0.toNat = 0xF4
    · exact ⟨_, _, by rw [if_neg f0, if_neg (by omega), if_pos f4], second.1, notTooLarge f4⟩
    · exact ⟨_, _, by rw [if_neg f0, if_pos (by omega)], second⟩
  rw [decodeRune.eq_def]
  dsimp only
  rw [if_neg (by omega), range]
  dsimp only
  rw [if_neg (by omega), if_neg (by decide), if_neg (by simp [third]), if_neg (by decide),
    if_neg (by simp [fourth])]

end Decode

/-- **`DecodeRune` reads back what `EncodeRune` writes**, whatever follows. -/
theorem decodeRune_encodeRune (c : Char) (rest : List UInt8) :
    decodeRune (encodeRune c ++ rest) = (c, (encodeRune c).length) := by
  have valid := toNat_isValidChar c
  have byte : ∀ n, n < 256 → n.toUInt8.toNat = n := fun n small => by simp; omega
  have continuation : ∀ n, n < 64 → isContinuation (0x80 + n).toUInt8 := fun n small => by
    rw [isContinuation_iff, byte _ (by omega)]; omega
  have same : ∀ n, n = c.toNat → Char.ofNat n = c := fun n eq => eq ▸ Char.ofNat_toNat c
  dsimp only [encodeRune]
  split_ifs with one two three
  · rw [List.singleton_append, decodeRune_of_lt _ (by rw [byte _ (by omega)]; exact one),
      byte _ (by omega), Char.ofNat_toNat, List.length_singleton]
  · rw [List.cons_append, List.cons_append, List.nil_append,
      decodeRune_two _ (by rw [byte _ (by omega)]; omega) (continuation _ (by omega)),
      byte _ (by omega), byte _ (by omega), same _ (by omega)]
    rfl
  · rw [List.cons_append, List.cons_append, List.cons_append, List.nil_append,
      decodeRune_three _ (by rw [byte _ (by omega)]; omega) (continuation _ (by omega))
        (by rw [byte _ (by omega), byte _ (by omega)]; omega)
        (by rw [byte _ (by omega), byte _ (by omega)]; omega) (continuation _ (by omega)),
      byte _ (by omega), byte _ (by omega), byte _ (by omega), same _ (by omega)]
    rfl
  · rw [List.cons_append, List.cons_append, List.cons_append, List.cons_append, List.nil_append,
      decodeRune_four _ (by rw [byte _ (by omega)]; omega) (continuation _ (by omega))
        (by rw [byte _ (by omega), byte _ (by omega)]; omega)
        (by rw [byte _ (by omega), byte _ (by omega)]; omega) (continuation _ (by omega))
        (continuation _ (by omega)),
      byte _ (by omega), byte _ (by omega), byte _ (by omega), byte _ (by omega), same _ (by omega)]
    rfl

end Utf8

end GoCommon
