import Mathlib.Data.Int.CardIntervalMod
import GoCommon.Uuid
import GoCommon.Encoding.Base64
import GoCommon.Runtime
import GoCommon.Strconv

/-!
# Random tokens, codes and masks

The helpers of the `crypto` package that are not calls into a hash or a cipher: the generators
of tokens and codes over the bytes `crypto/rand` reads, and the masks of sensitive text.

`MaskString(s, n)` shows the first and the last `n` bytes of a text longer than `2n` and puts a
star in place of every other byte; `MaskEmail` shows the first and the last byte of the local
part and the whole domain, and a local part of at most two bytes in full; `MaskPhone` shows the
last four bytes of a number longer than four. Each keeps the length of its input and shows each
byte in its place or a star there (`masks_show`, against the abstract mask `maskWith`).
`MaskEmail` and `MaskPhone` never panic. `MaskString` panics on every text for a negative `n`
(down to `-2^62`, below which `n*2` wraps), and for an `n` whose `n*2` wraps to a negative `int`.

`GenerateOTP(n)` and `GenerateAlphanumericCode(n)` map each random byte to the character of
their table at the remainder of its division by the table's size (`drawCode`, which the two
share, each with its own table and its own fallback length). 256 is a multiple of neither 10 nor
36, so the first `256 % k` characters of a table of `k` come from one byte value more than the
others (`codeChar_bias`): 26 byte values give each of the digits `0` to `5` and 25 each of `6`
to `9`, 8 give each of `A` to `D` and 7 each of the other alphanumeric characters.
`GenerateRandomString(n)` writes `n/2` random bytes (Go's division, towards zero) in hexadecimal:
an odd length gives one character fewer, and a length below `-1` makes `make` panic, as does a
buffer past `runtime.maxAlloc` (`generators_spec`).

A Go string is a sequence of bytes here: the masks cut at bytes, which can fall inside a
multi-byte rune, so they take and return `List UInt8`. `crypto/rand.Read` is an argument
(`Source`): the bytes it reads, or `none` when it fails; the generators return its error as it
is.
-/

namespace GoCommon.Crypto

/-! ## Masks -/

/-- The byte `'*'`. -/
def star : UInt8 := 42

/-- The byte `'@'`. -/
def atSign : UInt8 := 64

/-- `strings.Repeat("*", count)`; `none` for the panic on a negative count. -/
def repeatStar (count : Int) : Option (List UInt8) :=
  if count < 0 then none else some (List.replicate count.toNat star)

/-- `s[lo:hi]`; `none` for the panic on bounds out of range. -/
def slice (s : List UInt8) (lo hi : Int) : Option (List UInt8) :=
  if 0 ≤ lo ∧ lo ≤ hi ∧ hi ≤ s.length then some ((s.drop lo.toNat).take (hi - lo).toNat)
  else none

/-- `MaskString(s, visibleChars)`. `visibleChars*2` and the two subtractions are `int`
arithmetic. -/
def maskString (s : List UInt8) (visibleChars : Int) : Option (List UInt8) :=
  let len : Int := s.length
  if len ≤ wrapInt64 (visibleChars * 2) then repeatStar len
  else do
    let head ← slice s 0 visibleChars
    let stars ← repeatStar (wrapInt64 (len - wrapInt64 (visibleChars * 2)))
    let tail ← slice s (wrapInt64 (len - visibleChars)) len
    pure (head ++ stars ++ tail)

/-- `MaskEmail(email)`, with `strings.Split(email, "@")` cutting at the byte `'@'`. -/
def maskEmail (email : List UInt8) : Option (List UInt8) :=
  match email.splitOn atSign with
  | [localPart, domain] =>
    let len : Int := localPart.length
    if len ≤ 2 then some (localPart ++ atSign :: domain)
    else do
      let first ← slice localPart 0 1
      let stars ← repeatStar (len - 2)
      let last ← slice localPart (len - 1) len
      pure (first ++ stars ++ last ++ atSign :: domain)
  | _ => maskString email 2

/-- `MaskPhone(phone)`. -/
def maskPhone (phone : List UInt8) : Option (List UInt8) :=
  let len : Int := phone.length
  if len ≤ 4 then repeatStar len
  else do
    let stars ← repeatStar (len - 4)
    let last ← slice phone (len - 4) len
    pure (stars ++ last)

/-- What a mask is for: the bytes of `s` at the positions `shown`, a star at every other. -/
def maskWith (shown : Nat → Bool) (s : List UInt8) : List UInt8 :=
  s.mapIdx fun i b => if shown i then b else star

section MaskWith

variable (shown : Nat → Bool)

@[simp]
theorem length_maskWith (s : List UInt8) : (maskWith shown s).length = s.length :=
  List.length_mapIdx

theorem maskWith_append (a b : List UInt8) :
    maskWith shown (a ++ b) = maskWith shown a ++ maskWith (fun i => shown (i + a.length)) b :=
  List.mapIdx_append

theorem maskWith_congr {shown' : Nat → Bool} {s : List UInt8}
    (same : ∀ i < s.length, shown i = shown' i) : maskWith shown s = maskWith shown' s :=
  List.ext_getElem (by simp) fun i lt _ => by
    simp only [maskWith, List.getElem_mapIdx, same i (by simpa using lt)]

theorem maskWith_of_shown {s : List UInt8} (all : ∀ i < s.length, shown i = true) :
    maskWith shown s = s :=
  List.ext_getElem (by simp) fun i lt _ => by
    simp [maskWith, all i (by simpa using lt)]

theorem maskWith_of_hidden {s : List UInt8} (none : ∀ i < s.length, shown i = false) :
    maskWith shown s = List.replicate s.length star :=
  List.ext_getElem (by simp) fun i lt _ => by
    simp [maskWith, none i (by simpa using lt)]

end MaskWith

/-- A mask that shows `head` bytes at the start and `tail` at the end. -/
theorem maskWith_ends (s : List UInt8) (head tail : Nat) (fits : head + tail ≤ s.length) :
    maskWith (fun i => decide (i < head) || decide (s.length - tail ≤ i)) s =
      s.take head ++ List.replicate (s.length - head - tail) star ++ s.drop (s.length - tail) := by
  have split : s = s.take head ++ (s.drop head).take (s.length - head - tail) ++
      s.drop (s.length - tail) := by
    rw [List.append_assoc, show s.length - tail = head + (s.length - head - tail) by omega,
      ← List.drop_drop, List.take_append_drop, List.take_append_drop]
  conv_lhs => rw [split]
  rw [maskWith_append, maskWith_append,
    maskWith_of_shown _ fun i lt => ?_, maskWith_of_hidden _ fun i lt => ?_,
    maskWith_of_shown _ fun i lt => ?_]
  · rw [List.length_take_of_le (by simp)]
  all_goals
    simp only [List.length_append, List.length_take, List.length_drop, Bool.or_eq_true,
      Bool.or_eq_false_iff, decide_eq_true_eq, decide_eq_false_iff_not] at lt ⊢
    omega

theorem slice_ends (s : List UInt8) (head tail : Nat) (fits : head + tail ≤ s.length) :
    slice s 0 head = some (s.take head) ∧
      slice s ((s.length : Int) - tail) s.length = some (s.drop (s.length - tail)) := by
  constructor
  · rw [slice, if_pos (by omega)]
    simp
  · rw [slice, if_pos (by omega), List.take_of_length_le (by simp; omega)]
    congr 3
    omega

theorem repeatStar_of_nonneg {count : Int} (nonneg : 0 ≤ count) :
    repeatStar count = some (List.replicate count.toNat star) := if_neg (by omega)

/-- The positions `MaskString(s, visibleChars)` shows of a text of `len` bytes. -/
def stringShown (len : Nat) (visibleChars : Int) (i : Nat) : Bool :=
  decide (visibleChars * 2 < len) &&
    (decide ((i : Int) < visibleChars) || decide ((len : Int) - visibleChars ≤ i))

/-- `MaskString` shows the first and the last `visibleChars` bytes of a text longer than
`2 * visibleChars` and stars the rest, and panics exactly when the text is longer than the
wrapped `visibleChars*2` and `visibleChars` is negative or not below half its length. -/
theorem maskString_spec (s : List UInt8) (visibleChars : Int) (fits : s.length < 2 ^ 63) :
    maskString s visibleChars =
      if (s.length : Int) ≤ wrapInt64 (visibleChars * 2) ∨
          0 ≤ visibleChars ∧ visibleChars * 2 < s.length
      then some (maskWith (stringShown s.length visibleChars) s) else none := by
  unfold maskString
  by_cases short : (s.length : Int) ≤ wrapInt64 (visibleChars * 2)
  · rw [if_pos short, if_pos (.inl short), repeatStar_of_nonneg (by omega), Int.toNat_natCast,
      maskWith_of_hidden]
    intro i _
    simp only [stringShown, wrapInt64] at short ⊢
    simp only [Bool.and_eq_false_iff, Bool.or_eq_false_iff, decide_eq_false_iff_not]
    omega
  rw [if_neg short]
  by_cases half : 0 ≤ visibleChars ∧ visibleChars * 2 < s.length
  · obtain ⟨head, tail⟩ := slice_ends s visibleChars.toNat visibleChars.toNat (by omega)
    rw [Int.toNat_of_nonneg half.1] at head
    have doubled : wrapInt64 (visibleChars * 2) = visibleChars * 2 :=
      wrapInt64_of_isInt64 (by unfold IsInt64; omega)
    have middle : wrapInt64 (s.length - visibleChars * 2) = s.length - visibleChars * 2 :=
      wrapInt64_of_isInt64 (by unfold IsInt64; omega)
    have rest : wrapInt64 (s.length - visibleChars) = s.length - visibleChars.toNat :=
      by rw [wrapInt64_of_isInt64 (by unfold IsInt64; omega)]; omega
    rw [if_pos (.inr half), doubled, middle, rest, head, tail,
      repeatStar_of_nonneg (by omega), maskWith_congr _ fun i _ => ?_,
      maskWith_ends s visibleChars.toNat visibleChars.toNat (by omega)]
    · simp only [Option.bind_eq_bind, Option.some_bind, Option.pure_def]
      congr 4
      omega
    · simp only [stringShown, decide_eq_true half.2, Bool.true_and]
      congr 1 <;> simp only [decide_eq_decide] <;> omega
  · rw [if_neg (by tauto)]
    by_cases inside : 0 ≤ visibleChars ∧ visibleChars ≤ s.length
    · have negative : wrapInt64 (s.length - wrapInt64 (visibleChars * 2)) < 0 := by
        unfold wrapInt64 at short ⊢
        omega
      simp [slice, inside, repeatStar, negative]
    · simp [slice, inside]

/-- `MaskPhone` never panics: it shows the last four bytes of a number longer than four and stars
the rest. -/
theorem maskPhone_spec (phone : List UInt8) :
    maskPhone phone =
      some (maskWith (fun i => decide (4 < phone.length) && decide (phone.length - 4 ≤ i)) phone) := by
  unfold maskPhone
  by_cases short : (phone.length : Int) ≤ 4
  · rw [if_pos short, repeatStar_of_nonneg (by omega), Int.toNat_natCast, maskWith_of_hidden]
    intro i _
    simp only [Bool.and_eq_false_iff, decide_eq_false_iff_not]
    omega
  · obtain ⟨-, tail⟩ := slice_ends phone 0 4 (by omega)
    rw [if_neg short, Nat.cast_ofNat] at *
    rw [repeatStar_of_nonneg (by omega), tail, maskWith_congr _ fun i _ => ?_,
      maskWith_ends phone 0 4 (by omega)]
    · simp only [Option.bind_eq_bind, Option.some_bind, Option.pure_def, List.take_zero,
        List.nil_append]
      congr 3
      omega
    · rw [Bool.eq_iff_iff]
      simp only [Bool.or_eq_true, Bool.and_eq_true, decide_eq_true_eq]
      omega

/-- The positions `MaskEmail` shows of an address with one `@`, whose local part has `len`
bytes: the whole local part when it has at most two, otherwise its first and last bytes, and the
`@` and the domain. -/
def emailShown (len i : Nat) : Bool := decide (len ≤ 2) || i == 0 || decide (len - 1 ≤ i)

/-- `MaskEmail` never panics. An address with one `@` keeps its domain and the first and the last
byte of its local part, or the whole local part when it has at most two bytes; any other text is
masked as `MaskString(email, 2)` masks it. -/
theorem maskEmail_spec (email : List UInt8) :
    (∀ localPart domain, atSign ∉ localPart → atSign ∉ domain → email = localPart ++ atSign :: domain →
      maskEmail email = some (maskWith (emailShown localPart.length) email)) ∧
    (email.count atSign ≠ 1 → maskEmail email = maskString email 2) := by
  constructor
  · rintro localPart domain noLocal noDomain rfl
    rw [maskEmail, Strings.splitOn_eq_pair.mpr ⟨noLocal, noDomain, rfl⟩, maskWith_append,
      maskWith_of_shown (fun i => emailShown localPart.length (i + localPart.length))
        fun i _ => by simp [emailShown]; omega]
    dsimp only
    by_cases short : (localPart.length : Int) ≤ 2
    · rw [if_pos short, maskWith_of_shown _ fun i _ => by simp [emailShown]; omega]
    · obtain ⟨first, last⟩ := slice_ends localPart 1 1 (by omega)
      rw [Nat.cast_one] at first last
      rw [if_neg short, first, repeatStar_of_nonneg (by omega), last,
        maskWith_congr _ fun i _ => ?_, maskWith_ends localPart 1 1 (by omega)]
      · simp only [Option.bind_eq_bind, Option.some_bind, Option.pure_def, List.append_assoc]
        congr 4
        omega
      · rw [Bool.eq_iff_iff]
        simp only [emailShown, Bool.or_eq_true, decide_eq_true_eq, beq_iff_eq]
        omega
  · intro notOne
    unfold maskEmail
    split
    · rename_i localPart domain parts
      obtain ⟨noLocal, noDomain, rfl⟩ := Strings.splitOn_eq_pair.mp parts
      simp [List.count_append, List.count_eq_zero_of_not_mem noLocal,
        List.count_eq_zero_of_not_mem noDomain] at notOne
    · rfl

/-- **What the masks show.** On a text `s` (shorter than `2^63` bytes, as every Go string is):
`MaskString(s, n)` shows the first and the last `n` bytes when `s` is longer than `2n` and stars
every byte otherwise, and panics exactly when `s` is longer than the wrapped `n*2` while `n` is
negative or not below half its length; `MaskEmail` of an address with one `@` shows its domain and
the first and the last byte of the local part, or all of a local part of at most two bytes, and of
any other text the first and the last two bytes when it is longer than four; `MaskPhone` shows
the last four bytes of a text longer than four. The two never panic, and every mask keeps the
length of `s` and shows each byte in its place or a star there. -/
theorem masks_show (s : List UInt8) (visibleChars : Int) (fits : s.length < 2 ^ 63) :
    maskString s visibleChars =
        (if (s.length : Int) ≤ wrapInt64 (visibleChars * 2) ∨
            0 ≤ visibleChars ∧ visibleChars * 2 < s.length
          then some (maskWith (stringShown s.length visibleChars) s) else none) ∧
      (∀ localPart domain, atSign ∉ localPart → atSign ∉ domain →
        s = localPart ++ atSign :: domain →
          maskEmail s = some (maskWith (emailShown localPart.length) s)) ∧
      (s.count atSign ≠ 1 → maskEmail s = some (maskWith (stringShown s.length 2) s)) ∧
      maskPhone s =
        some (maskWith (fun i => decide (4 < s.length) && decide (s.length - 4 ≤ i)) s) := by
  have four : wrapInt64 (2 * 2) = 4 := by decide
  refine ⟨maskString_spec s visibleChars fits, (maskEmail_spec s).1, fun notOne => ?_,
    maskPhone_spec s⟩
  rw [(maskEmail_spec s).2 notOne, maskString_spec s 2 fits, if_pos (by omega)]

/-- A card number keeps its first and last four digits. -/
theorem masks_show_card :
    maskString (Utf8.utf8Bytes "4111111111111111") 4 =
      some (Utf8.utf8Bytes "4111********1111") := by
  rw [(masks_show (Utf8.utf8Bytes "4111111111111111") 4 (by decide)).1]
  decide

/-- An address whose local part has two bytes is not masked at all. -/
example : maskEmail (Utf8.utf8Bytes "ab@example.com") = some (Utf8.utf8Bytes "ab@example.com") := by
  decide

/-! ## Tokens and codes -/

/-- What `crypto/rand.Read` fills a buffer with: its byte at each index, or `none` when it
fails. -/
abbrev Source := Option (Nat → UInt8)

/-- A text of ASCII bytes. -/
def asciiText (bytes : List UInt8) : String := ⟨bytes.map fun b => Char.ofNat b.toNat⟩

/-- `runtime.maxAlloc` on 64-bit Linux, `1 << 48`: the most bytes one allocation may ask for. -/
def maxAlloc : Int := 2 ^ 48

/-- Whether `make([]byte, n)` gets past its check: it panics with `len out of range` below zero
and above `maxAlloc`. An allocation that passes the check and that the machine cannot hold ends
the program too; the model leaves that to the machine. -/
def makeFits (n : Int) : Bool := decide (0 ≤ n ∧ n ≤ maxAlloc)

/-- `GenerateRandomBytes(n)`: `none` for the panic of `make`; otherwise the bytes `rand.Read`
reads, or its error. -/
def generateRandomBytes (source : Source) (n : Int) : Option (Except Unit (List UInt8)) :=
  if makeFits n then
    some (match source with
      | some read => .ok ((List.range n.toNat).map read)
      | none => .error ())
  else none

/-- `GenerateRandomString(length)`: `hex.EncodeToString` of `length/2` random bytes, which makes a
buffer of twice their number. -/
def generateRandomString (source : Source) (length : Int) : Option (Except Unit String) :=
  match generateRandomBytes source (length.tdiv 2) with
  | none => none
  | some (.error err) => some (.error err)
  | some (.ok bytes) =>
    if makeFits (2 * bytes.length) then some (.ok (asciiText (Uuid.hexEncode bytes))) else none

/-- `GenerateSecureToken(length)`: `base64.URLEncoding.EncodeToString` of `length` random bytes,
which makes a buffer of four bytes for every three, rounded up. -/
def generateSecureToken (source : Source) (length : Int) : Option (Except Unit String) :=
  match generateRandomBytes source length with
  | none => none
  | some (.error err) => some (.error err)
  | some (.ok bytes) =>
    if makeFits ((bytes.length + 2) / 3 * 4 : Nat) then some (.ok (Base64.encodeToString bytes))
    else none

/-- `base64.RawURLEncoding.EncodeToString(src)`: the URL-safe encoding without its padding. -/
def rawURLEncodeToString (src : List UInt8) : String :=
  asciiText ((Base64.encode src).filter (· != Base64.padChar))

/-- `GenerateAPIKey(prefix)`. -/
def generateAPIKey (source : Source) (keyPrefix : String) : Option (Except Unit String) :=
  (generateRandomBytes source 32).map (Except.map fun token =>
    let key := rawURLEncodeToString token
    if keyPrefix ≠ "" then keyPrefix ++ "_" ++ key else key)

/-- `chars[int(b)%len(chars)]`. -/
def codeChar (chars : List UInt8) (b : UInt8) : UInt8 := chars.getD (b.toNat % chars.length) 0

/-- The loop `GenerateOTP` and `GenerateAlphanumericCode` share, over `length` random bytes. -/
def drawCode (chars : List UInt8) (source : Source) (length : Nat) : Except Unit String :=
  match source with
  | some read => .ok (asciiText ((List.range length).map fun i => codeChar chars (read i)))
  | none => .error ()

/-- The table of `GenerateOTP`, `"0123456789"`. -/
def otpDigits : List UInt8 := Utf8.utf8Bytes "0123456789"

/-- The table of `GenerateAlphanumericCode`. -/
def alphanumericChars : List UInt8 := Utf8.utf8Bytes "ABCDEFGHIJKLMNOPQRSTUVWXYZ0123456789"

/-- `GenerateOTP(length)`: six digits for a length outside `1..10`. -/
def generateOTP (source : Source) (length : Int) : Except Unit String :=
  let length := if length ≤ 0 ∨ length > 10 then 6 else length
  drawCode otpDigits source length.toNat

/-- `GenerateAlphanumericCode(length)`: eight characters for a length that is not positive; the
`make` of `length` bytes panics above `maxAlloc`. -/
def generateAlphanumericCode (source : Source) (length : Int) : Option (Except Unit String) :=
  let length := if length ≤ 0 then 8 else length
  if makeFits length then some (drawCode alphanumericChars source length.toNat) else none

theorem length_asciiText (bytes : List UInt8) : (asciiText bytes).length = bytes.length := by
  simp [asciiText, String.length]

/-- **The codes are biased.** `chars[int(b)%len(chars)]` draws each character of a table of `k`
distinct characters from `256 / k` of the 256 values of a random byte, and the first `256 % k`
characters from one value more. -/
theorem codeChar_bias (chars : List UInt8) (distinct : chars.Nodup) {j : Nat}
    (inTable : j < chars.length) :
    (List.range 256).countP (fun b => codeChar chars b.toUInt8 = chars.getD j 0) =
      256 / chars.length + if j < 256 % chars.length then 1 else 0 := by
  have positive : 0 < chars.length := by omega
  have same : ∀ b ∈ List.range 256,
      decide (codeChar chars b.toUInt8 = chars.getD j 0) = decide (b ≡ j [MOD chars.length]) := by
    intro b mem
    have small : b < 256 := List.mem_range.mp mem
    rw [codeChar, toNat_toUInt8, Nat.mod_eq_of_lt small, List.getD_eq_getElem _ _
      (Nat.mod_lt _ positive), List.getD_eq_getElem _ _ inTable, decide_eq_decide,
      distinct.getElem_inj_iff, Nat.ModEq, Nat.mod_eq_of_lt inTable]
  rw [List.countP_congr fun b mem => by rw [same b mem], ← Nat.count, Nat.count_modEq_card _
    positive, Nat.mod_eq_of_lt inTable]

/-- The digit `6` of `GenerateOTP` comes from 25 byte values, where each of `0` to `5` comes from
26. -/
theorem codeChar_bias_otp :
    otpDigits.Nodup ∧ 6 < otpDigits.length ∧
      (List.range 256).countP (fun b => codeChar otpDigits b.toUInt8 = otpDigits.getD 6 0) =
        256 / otpDigits.length + if 6 < 256 % otpDigits.length then 1 else 0 :=
  ⟨by decide, by decide, codeChar_bias otpDigits (by decide) (by decide)⟩

theorem codeChar_mem {chars : List UInt8} (nonempty : chars ≠ []) (b : UInt8) :
    codeChar chars b ∈ chars := by
  have positive : 0 < chars.length := List.length_pos.mpr nonempty
  rw [codeChar, List.getD_eq_getElem _ _ (Nat.mod_lt _ positive)]
  exact List.getElem_mem _

/-- A code drawn from a table has the length asked for, and each of its characters is one of
`text`, which holds the table's. -/
theorem drawCode_spec (chars : List UInt8) (text : String) (nonempty : chars ≠ [])
    (inText : ∀ b ∈ chars, Char.ofNat b.toNat ∈ text.data) (read : Nat → UInt8) (length : Nat) :
    ∃ code, drawCode chars (some read) length = .ok code ∧
      code.length = length ∧ ∀ c ∈ code.data, c ∈ text.data := by
  refine ⟨_, rfl, by simp [length_asciiText], fun c mem => ?_⟩
  simp only [asciiText, List.map_map, List.mem_map, List.mem_range, Function.comp] at mem
  obtain ⟨i, -, rfl⟩ := mem
  exact inText _ (codeChar_mem nonempty (read i))

/-- Go's `n/2`, which rounds towards zero. -/
theorem tdiv_two (n : Int) : n.tdiv 2 = if 0 ≤ n then n / 2 else -((-n) / 2) := by
  split_ifs with nonneg
  · exact Int.tdiv_eq_ediv nonneg (by decide)
  · rw [← Int.neg_neg n, Int.neg_tdiv, Int.tdiv_eq_ediv (by omega) (by decide), Int.neg_neg]

@[simp]
theorem makeFits_eq_true (n : Int) : makeFits n = true ↔ 0 ≤ n ∧ n ≤ maxAlloc := by
  simp [makeFits]

theorem generateRandomString_some (read : Nat → UInt8) (n : Int) :
    generateRandomString (some read) n =
      if makeFits (n.tdiv 2) ∧ makeFits (2 * ((n.tdiv 2).toNat : Int)) then
        some (.ok (asciiText (Uuid.hexEncode ((List.range (n.tdiv 2).toNat).map read))))
      else none := by
  unfold generateRandomString generateRandomBytes
  by_cases half : makeFits (n.tdiv 2) <;> simp [half]

theorem generateSecureToken_some (read : Nat → UInt8) (n : Int) :
    generateSecureToken (some read) n =
      if makeFits n ∧ makeFits ((n.toNat + 2) / 3 * 4 : Nat) then
        some (.ok (Base64.encodeToString ((List.range n.toNat).map read)))
      else none := by
  unfold generateSecureToken generateRandomBytes
  by_cases fits : makeFits n <;> simp [fits]

/-- **What the generators return.** On a source that reads: `GenerateRandomString(n)` panics
exactly below `-1` (`make` of the negative `n/2`) and above `maxAlloc + 1` (the `make` of the
hex text), and otherwise writes `2 * (n/2)` digits, one fewer than asked for an odd `n`;
`GenerateSecureToken(n)` panics exactly below `0` and when the base64 text would pass
`maxAlloc`, and otherwise its token decodes to the `n` bytes read; `GenerateOTP(n)` writes `n`
digits for `n` from 1 to 10 and six otherwise; `GenerateAlphanumericCode(n)` panics exactly above
`maxAlloc`, and otherwise writes `n` characters of its table for a positive `n` and eight
otherwise. -/
theorem generators_spec (read : Nat → UInt8) (n : Int) :
    (generateRandomString (some read) n = none ↔ n < -1 ∨ maxAlloc + 1 < n) ∧
    (∀ text, generateRandomString (some read) n = some (.ok text) →
      text.length = 2 * (n.tdiv 2).toNat) ∧
    (generateSecureToken (some read) n = none ↔ n < 0 ∨ maxAlloc / 4 * 3 < n) ∧
    (∀ token, generateSecureToken (some read) n = some (.ok token) →
      Base64.decodeString token = .ok ((List.range n.toNat).map read)) ∧
    (∃ code, generateOTP (some read) n = .ok code ∧
      code.length = (if 0 < n ∧ n ≤ 10 then n.toNat else 6) ∧
      ∀ c ∈ code.data, c ∈ "0123456789".data) ∧
    (generateAlphanumericCode (some read) n = none ↔ maxAlloc < n) ∧
    (n ≤ maxAlloc → ∃ code, generateAlphanumericCode (some read) n = some (.ok code) ∧
      code.length = (if 0 < n then n.toNat else 8) ∧
      ∀ c ∈ code.data, c ∈ "ABCDEFGHIJKLMNOPQRSTUVWXYZ0123456789".data) := by
  refine ⟨?_, fun text made => ?_, ?_, fun token made => ?_, ?_, ?_, fun fits => ?_⟩
  · rw [generateRandomString_some, ite_eq_right_iff]
    simp only [reduceCtorEq, imp_false, makeFits_eq_true, maxAlloc, tdiv_two]
    split_ifs <;> omega
  · rw [generateRandomString_some] at made
    split_ifs at made
    obtain rfl : asciiText (Uuid.hexEncode _) = text := by simpa using made
    simp [length_asciiText, Uuid.length_hexEncode]
  · rw [generateSecureToken_some, ite_eq_right_iff]
    simp only [reduceCtorEq, imp_false, makeFits_eq_true, maxAlloc]
    omega
  · rw [generateSecureToken_some] at made
    split_ifs at made
    obtain rfl : Base64.encodeToString _ = token := by simpa using made
    rw [Base64.decodeString_encodeToString]
  · obtain ⟨code, made, length, mem⟩ :=
      drawCode_spec otpDigits "0123456789" (by decide) (by decide) read _
    exact ⟨code, made, by rw [length]; split_ifs <;> omega, mem⟩
  · simp only [generateAlphanumericCode, ite_eq_right_iff, reduceCtorEq, imp_false,
      makeFits_eq_true, maxAlloc]
    split_ifs <;> omega
  · obtain ⟨code, made, length, mem⟩ := drawCode_spec alphanumericChars
      "ABCDEFGHIJKLMNOPQRSTUVWXYZ0123456789" (by decide) (by decide) read
      (if n ≤ 0 then 8 else n).toNat
    refine ⟨code, ?_, by rw [length]; split_ifs <;> omega, mem⟩
    simp only [generateAlphanumericCode]
    rw [if_pos (by simp only [makeFits_eq_true, maxAlloc] at fits ⊢; split_ifs <;> omega), made]

/-- An odd length gives one character fewer. -/
example : generateRandomString (some fun _ => 171) 5 = some (.ok "abab") := rfl

end GoCommon.Crypto
