import GoCommon.Rand
import GoCommon.Strconv
import GoCommon.Encoding.Utf8

/-!
# Generated passwords

`PasswordConfig.GeneratePassword` writes two special characters, then three digits, three
upper-case and three lower-case letters (each group only when its flag asks for it), then
`remainingLength = MinLength + 2 - 2 - digits - upper-case letters` characters drawn from all
four sets, in Go's `int` arithmetic, and shuffles what it wrote. Every character is drawn by
`rand.Intn`. `CheckPassword` asks for `MinLength` bytes and, each under its flag, for a letter,
a digit, a lower-case and an upper-case letter.

`checkPassword_generatePassword_iff` decides the check on every generated password: it holds
unless `IncludeChars` is set, neither case is asked for, and none of the characters drawn from
all four sets is a letter. The letter that `IncludeChars` asks for is the one thing the
generator does not write on purpose; with `MinLength` 0 it draws no character from all four sets
at all.

`unicode.IsLetter`, `IsUpper`, `IsLower` and `IsDigit` read Go's Unicode tables, which are not
reproduced: `RuneClasses` is any classification that agrees with them on ASCII, and every
result below holds for each one.
-/

namespace GoCommon.Common

open Rand Utf8

/-- The classes `CheckPassword` reads from `unicode`. On ASCII they are the ASCII letters,
upper-case letters, lower-case letters and digits. -/
structure RuneClasses where
  isLetter : Char → Bool
  isUpper : Char → Bool
  isLower : Char → Bool
  isDigit : Char → Bool
  ascii : ∀ c : Char, c.toNat < 0x80 → isLetter c = c.isAlpha ∧ isUpper c = c.isUpper ∧
    isLower c = c.isLower ∧ isDigit c = c.isDigit

/-- The classification that knows no letter or digit outside ASCII. -/
def RuneClasses.asciiOnly : RuneClasses where
  isLetter c := c.toNat < 0x80 && c.isAlpha
  isUpper c := c.toNat < 0x80 && c.isUpper
  isLower c := c.toNat < 0x80 && c.isLower
  isDigit c := c.toNat < 0x80 && c.isDigit
  ascii c small := by simp [small]

/-- The loop of `HasUpper`, `HasLower`, `HasLetter` and `HasDigits`: a rune of `s` in the
class. -/
def hasRune (inClass : Char → Bool) (s : String) : Bool := s.data.any inClass

/-- `HasUpper(s)`: `unicode.IsUpper(r) && unicode.IsLetter(r)`. -/
def hasUpper (classes : RuneClasses) (s : String) : Bool :=
  hasRune (fun r => classes.isUpper r && classes.isLetter r) s

/-- `HasLower(s)`: `unicode.IsLower(r) && unicode.IsLetter(r)`. -/
def hasLower (classes : RuneClasses) (s : String) : Bool :=
  hasRune (fun r => classes.isLower r && classes.isLetter r) s

/-- `HasLetter(s)`: `unicode.IsLetter(r)`. -/
def hasLetter (classes : RuneClasses) (s : String) : Bool := hasRune classes.isLetter s

/-- `HasDigits(s)`: `unicode.IsDigit(r)`. -/
def hasDigits (classes : RuneClasses) (s : String) : Bool := hasRune classes.isDigit s

/-- `PasswordConfig`, without `MaxLength`, which neither function reads. `MinLength` is an
`int`. -/
structure PasswordConfig where
  includeChars : Bool
  includeDigits : Bool
  minLength : Int
  includeUppercase : Bool
  includeLowercase : Bool
  minLength_isInt64 : IsInt64 minLength

def lowerCharSet : String := "abcdedfghijklmnopqrst"
def upperCharSet : String := "ABCDEFGHIJKLMNOPQRSTUVWXYZ"
def specialCharSet : String := "!@#$%&*"
def numberSet : String := "0123456789"
def allCharSet : String := lowerCharSet ++ upperCharSet ++ specialCharSet ++ numberSet

namespace PasswordConfig

variable (cfg : PasswordConfig)

/-- `CheckPassword(password)`; `len` counts bytes. -/
def checkPassword (classes : RuneClasses) (password : String) : Bool :=
  if ((utf8Bytes password).length : Int) < cfg.minLength then false
  else if cfg.includeChars && !hasLetter classes password then false
  else if cfg.includeDigits && !hasDigits classes password then false
  else if cfg.includeLowercase && !hasLower classes password then false
  else if cfg.includeUppercase && !hasUpper classes password then false
  else true

/-- `minNum`: 3, or 0 without `IncludeDigits`. -/
def minNum : Nat := if !cfg.includeDigits then 0 else 3

/-- `minUpperCase`: 3, or 0 without `IncludeUppercase`. -/
def minUpperCase : Nat := if !cfg.includeUppercase then 0 else 3

/-- `minLowerCase`: 3, or 0 without `IncludeLowercase`. -/
def minLowerCase : Nat := if !cfg.includeLowercase then 0 else 3

/-- `remainingLength := passwordLength - minSpecialChar - minNum - minUpperCase`, with
`passwordLength := cfg.MinLength + 2` and `minSpecialChar := 2`, in `int` arithmetic. The loop
that reads it runs `max remainingLength 0` times. -/
def remainingLength : Int :=
  wrapInt64 (wrapInt64 (cfg.minLength + 2) - 2 - cfg.minNum - cfg.minUpperCase)

/-- `count` characters, each `set[rand.Intn(len(set))]`, drawn by the calls from position `pos`.
The sets are ASCII, so their bytes are their runes. -/
def writeRandom (set : String) (draws : Draws) (pos count : Nat) : List Char :=
  (List.range count).map fun i => set.data.getD (intn draws (pos + i) set.length) ' '

/-- What `GeneratePassword` writes before it shuffles: the special characters, digits, upper-case
and lower-case letters, and the remaining characters, one call of `rand.Intn` each. -/
def written (draws : Draws) : List Char :=
  writeRandom specialCharSet draws 0 2 ++
    writeRandom numberSet draws 2 cfg.minNum ++
    writeRandom upperCharSet draws (2 + cfg.minNum) cfg.minUpperCase ++
    writeRandom lowerCharSet draws (2 + cfg.minNum + cfg.minUpperCase) cfg.minLowerCase ++
    writeRandom allCharSet draws (2 + cfg.minNum + cfg.minUpperCase + cfg.minLowerCase)
      cfg.remainingLength.toNat

/-- `GeneratePassword()`: what it wrote, as runes, shuffled by the calls that follow. -/
def generatePassword (draws : Draws) : String :=
  ⟨shuffle draws (cfg.written draws).length (cfg.written draws)⟩

theorem checkPassword_eq_true (classes : RuneClasses) (password : String) :
    cfg.checkPassword classes password = true ↔
      cfg.minLength ≤ (utf8Bytes password).length ∧
      (cfg.includeChars = true → hasLetter classes password = true) ∧
      (cfg.includeDigits = true → hasDigits classes password = true) ∧
      (cfg.includeLowercase = true → hasLower classes password = true) ∧
      (cfg.includeUppercase = true → hasUpper classes password = true) := by
  unfold checkPassword
  split_ifs <;> simp_all

end PasswordConfig

/-! ## The characters drawn -/

section WriteRandom

variable {set : String} (draws : Draws) (pos : Nat)

@[simp]
theorem length_writeRandom (count : Nat) :
    (PasswordConfig.writeRandom set draws pos count).length = count := by
  simp [PasswordConfig.writeRandom]

/-- Every character drawn from a non-empty set is in the set. -/
theorem mem_writeRandom (nonempty : 0 < set.length) {count : Nat} {c : Char}
    (mem : c ∈ PasswordConfig.writeRandom set draws pos count) : c ∈ set.data := by
  simp only [PasswordConfig.writeRandom, List.mem_map, List.mem_range] at mem
  obtain ⟨i, -, rfl⟩ := mem
  have inRange : intn draws (pos + i) set.length < set.data.length := intn_lt draws _ nonempty
  rw [List.getD_eq_getElem _ _ inRange]
  exact List.getElem_mem _

/-- From a set whose characters all have a property, a character with it is drawn exactly when
one is drawn at all. -/
theorem exists_writeRandom_iff {p : Char → Bool} (nonempty : 0 < set.length)
    (all : ∀ c ∈ set.data, p c = true) (count : Nat) :
    (∃ c ∈ PasswordConfig.writeRandom set draws pos count, p c = true) ↔ 0 < count := by
  constructor
  · rintro ⟨c, mem, -⟩
    exact (length_writeRandom draws pos count) ▸ List.length_pos_of_mem mem
  · intro positive
    obtain ⟨c, mem⟩ :=
      List.exists_mem_of_length_pos ((length_writeRandom draws pos count).symm ▸ positive)
    exact ⟨c, mem, all c (mem_writeRandom draws pos nonempty mem)⟩

/-- From a set with no character of a property, none is drawn. -/
theorem not_exists_writeRandom {p : Char → Bool} (nonempty : 0 < set.length)
    (never : ∀ c ∈ set.data, p c = false) (count : Nat) :
    ¬∃ c ∈ PasswordConfig.writeRandom set draws pos count, p c = true := by
  rintro ⟨c, mem, holds⟩
  simp [never c (mem_writeRandom draws pos nonempty mem)] at holds

end WriteRandom

theorem specialCharSet_spec : 0 < specialCharSet.length ∧
    ∀ c ∈ specialCharSet.data, c.toNat < 0x80 ∧ c.isAlpha = false ∧ c.isDigit = false := by
  decide

theorem numberSet_spec : 0 < numberSet.length ∧
    ∀ c ∈ numberSet.data, c.toNat < 0x80 ∧ c.isAlpha = false ∧ c.isDigit = true := by
  decide

theorem upperCharSet_spec : 0 < upperCharSet.length ∧
    ∀ c ∈ upperCharSet.data, c.toNat < 0x80 ∧ c.isAlpha = true ∧ c.isUpper = true := by
  decide

theorem lowerCharSet_spec : 0 < lowerCharSet.length ∧
    ∀ c ∈ lowerCharSet.data, c.toNat < 0x80 ∧ c.isAlpha = true ∧ c.isLower = true := by
  decide

theorem allCharSet_spec : 0 < allCharSet.length ∧ ∀ c ∈ allCharSet.data, c.toNat < 0x80 := by
  decide

/-! ## The generated password -/

namespace PasswordConfig

variable (cfg : PasswordConfig) (draws : Draws)

theorem minUpperCase_pos_iff : 0 < cfg.minUpperCase ↔ cfg.includeUppercase = true := by
  unfold minUpperCase
  cases cfg.includeUppercase <;> decide

theorem minLowerCase_pos_iff : 0 < cfg.minLowerCase ↔ cfg.includeLowercase = true := by
  unfold minLowerCase
  cases cfg.includeLowercase <;> decide

theorem minNum_pos_iff : 0 < cfg.minNum ↔ cfg.includeDigits = true := by
  unfold minNum
  cases cfg.includeDigits <;> decide

theorem ascii_written : ∀ c ∈ cfg.written draws, c.toNat < 0x80 := by
  intro c mem
  simp only [written, List.mem_append] at mem
  rcases mem with (((special | digit) | upper) | lower) | other
  · exact (specialCharSet_spec.2 c (mem_writeRandom draws _ specialCharSet_spec.1 special)).1
  · exact (numberSet_spec.2 c (mem_writeRandom draws _ numberSet_spec.1 digit)).1
  · exact (upperCharSet_spec.2 c (mem_writeRandom draws _ upperCharSet_spec.1 upper)).1
  · exact (lowerCharSet_spec.2 c (mem_writeRandom draws _ lowerCharSet_spec.1 lower)).1
  · exact allCharSet_spec.2 c (mem_writeRandom draws _ allCharSet_spec.1 other)

theorem length_written : (cfg.written draws).length =
    2 + cfg.minNum + cfg.minUpperCase + cfg.minLowerCase + cfg.remainingLength.toNat := by
  simp only [written, List.length_append, length_writeRandom]

/-- What is written has at least `MinLength` characters, in every case of Go's `int`
arithmetic: `MinLength + 2` and the subtractions after it may wrap, and then the remaining
length is larger still. -/
theorem minLength_le_length_written : cfg.minLength ≤ (cfg.written draws).length := by
  have inRange := cfg.minLength_isInt64
  have num : cfg.minNum ≤ 3 := by unfold minNum; split <;> omega
  have upper : cfg.minUpperCase ≤ 3 := by unfold minUpperCase; split <;> omega
  rw [length_written]
  push_cast
  rw [Int.toNat_eq_max]
  unfold remainingLength wrapInt64
  unfold IsInt64 at inRange
  omega

theorem mem_generatePassword (c : Char) :
    c ∈ (cfg.generatePassword draws).data ↔ c ∈ cfg.written draws :=
  mem_shuffle draws _ _ c

theorem length_utf8Bytes_generatePassword :
    (utf8Bytes (cfg.generatePassword draws)).length = (cfg.written draws).length := by
  rw [generatePassword, length_utf8Bytes_of_ascii fun c mem =>
    cfg.ascii_written draws c ((mem_shuffle draws _ _ c).mp mem), length_shuffle]

/-- A class test of a generated password reads the written characters, which are ASCII. -/
theorem hasRune_generatePassword {p : Char → Bool} :
    hasRune p (cfg.generatePassword draws) = true ↔ ∃ c ∈ cfg.written draws, p c = true := by
  simp only [hasRune, List.any_eq_true, mem_generatePassword]

/-- The written characters hold a letter exactly when upper-case or lower-case letters are asked
for, or one of the characters drawn from all four sets is a letter. -/
theorem exists_letter_written_iff : (∃ c ∈ cfg.written draws, c.isAlpha = true) ↔
    cfg.includeUppercase = true ∨ cfg.includeLowercase = true ∨
      ∃ c ∈ writeRandom allCharSet draws (2 + cfg.minNum + cfg.minUpperCase + cfg.minLowerCase)
        cfg.remainingLength.toNat, c.isAlpha = true := by
  have special := not_exists_writeRandom draws 0 specialCharSet_spec.1
    (fun c mem => (specialCharSet_spec.2 c mem).2.1) 2
  have digit := not_exists_writeRandom draws 2 numberSet_spec.1
    (fun c mem => (numberSet_spec.2 c mem).2.1) cfg.minNum
  have upper := exists_writeRandom_iff draws (2 + cfg.minNum) upperCharSet_spec.1
    (fun c mem => (upperCharSet_spec.2 c mem).2.1) cfg.minUpperCase
  have lower := exists_writeRandom_iff draws (2 + cfg.minNum + cfg.minUpperCase)
    lowerCharSet_spec.1 (fun c mem => (lowerCharSet_spec.2 c mem).2.1) cfg.minLowerCase
  simp only [written, List.mem_append, or_and_right, exists_or, iff_false_intro special,
    iff_false_intro digit, upper, lower, minUpperCase_pos_iff, minLowerCase_pos_iff, false_or,
    or_assoc]

section Classes

variable (classes : RuneClasses)

theorem hasLetter_generatePassword_iff : hasLetter classes (cfg.generatePassword draws) = true ↔
    cfg.includeUppercase = true ∨ cfg.includeLowercase = true ∨
      ∃ c ∈ writeRandom allCharSet draws (2 + cfg.minNum + cfg.minUpperCase + cfg.minLowerCase)
        cfg.remainingLength.toNat, c.isAlpha = true := by
  rw [hasLetter, hasRune_generatePassword, ← exists_letter_written_iff]
  refine exists_congr fun c => and_congr_right fun mem => ?_
  rw [(classes.ascii c (cfg.ascii_written draws c mem)).1]

theorem hasDigits_generatePassword (digits : cfg.includeDigits = true) :
    hasDigits classes (cfg.generatePassword draws) = true := by
  obtain ⟨c, mem, digit⟩ := (exists_writeRandom_iff draws 2 numberSet_spec.1
    (fun c mem => (numberSet_spec.2 c mem).2.2) cfg.minNum).mpr ((cfg.minNum_pos_iff).mpr digits)
  have written : c ∈ cfg.written draws := by simp [written, mem]
  rw [hasDigits, hasRune_generatePassword]
  exact ⟨c, written, by rw [(classes.ascii c (cfg.ascii_written draws c written)).2.2.2, digit]⟩

theorem hasUpper_generatePassword (upper : cfg.includeUppercase = true) :
    hasUpper classes (cfg.generatePassword draws) = true := by
  obtain ⟨c, mem, letter⟩ := (exists_writeRandom_iff draws (2 + cfg.minNum) upperCharSet_spec.1
    (p := fun c => c.isUpper && c.isAlpha) (fun c mem => by simp [upperCharSet_spec.2 c mem])
    cfg.minUpperCase).mpr ((cfg.minUpperCase_pos_iff).mpr upper)
  have written : c ∈ cfg.written draws := by simp [written, mem]
  obtain ⟨isLetter, isUpper, -⟩ := classes.ascii c (cfg.ascii_written draws c written)
  rw [hasUpper, hasRune_generatePassword]
  exact ⟨c, written, by rw [isLetter, isUpper, letter]⟩

theorem hasLower_generatePassword (lower : cfg.includeLowercase = true) :
    hasLower classes (cfg.generatePassword draws) = true := by
  obtain ⟨c, mem, letter⟩ := (exists_writeRandom_iff draws (2 + cfg.minNum + cfg.minUpperCase)
    lowerCharSet_spec.1 (p := fun c => c.isLower && c.isAlpha)
    (fun c mem => by simp [lowerCharSet_spec.2 c mem]) cfg.minLowerCase).mpr
    ((cfg.minLowerCase_pos_iff).mpr lower)
  have written : c ∈ cfg.written draws := by simp [written, mem]
  obtain ⟨isLetter, -, isLower, -⟩ := classes.ascii c (cfg.ascii_written draws c written)
  rw [hasLower, hasRune_generatePassword]
  exact ⟨c, written, by rw [isLetter, isLower, letter]⟩

/-- **`CheckPassword` on a generated password.** It holds unless `IncludeChars` is set, neither
case is asked for, and none of the characters drawn from all four sets is a letter. -/
theorem checkPassword_generatePassword_iff :
    cfg.checkPassword classes (cfg.generatePassword draws) = true ↔
      (cfg.includeChars = true → cfg.includeUppercase = true ∨ cfg.includeLowercase = true ∨
        ∃ c ∈ writeRandom allCharSet draws (2 + cfg.minNum + cfg.minUpperCase + cfg.minLowerCase)
          cfg.remainingLength.toNat, c.isAlpha = true) := by
  rw [checkPassword_eq_true, hasLetter_generatePassword_iff, length_utf8Bytes_generatePassword]
  exact ⟨fun ⟨_, letter, _⟩ => letter, fun letter => ⟨cfg.minLength_le_length_written draws,
    letter, cfg.hasDigits_generatePassword draws classes,
    cfg.hasLower_generatePassword draws classes, cfg.hasUpper_generatePassword draws classes⟩⟩

end Classes

/-- The configuration that asks for a letter and nothing else, with `MinLength` 0. -/
def lettersOnly : PasswordConfig := ⟨true, false, 0, false, false, by decide⟩

/-- **A generated password can fail its own check.** On every configuration the check holds
exactly unless `IncludeChars` is set, neither case is asked for, and none of the characters
drawn from all four sets is a letter. When only a letter is asked for and `MinLength` is 0, the
generator writes two special characters and nothing else, and the check fails whatever is
drawn. -/
theorem generatePassword_fails_own_check :
    (∀ (cfg : PasswordConfig) (classes : RuneClasses) (draws : Draws),
      cfg.checkPassword classes (cfg.generatePassword draws) = true ↔
        (cfg.includeChars = true → cfg.includeUppercase = true ∨ cfg.includeLowercase = true ∨
          ∃ c ∈ writeRandom allCharSet draws (2 + cfg.minNum + cfg.minUpperCase + cfg.minLowerCase)
            cfg.remainingLength.toNat, c.isAlpha = true)) ∧
    ∀ (classes : RuneClasses) (draws : Draws),
      lettersOnly.checkPassword classes (lettersOnly.generatePassword draws) = false := by
  refine ⟨fun cfg classes draws => cfg.checkPassword_generatePassword_iff draws classes,
    fun classes draws => ?_⟩
  have nothingDrawn : lettersOnly.remainingLength.toNat = 0 := by decide
  have check := lettersOnly.checkPassword_generatePassword_iff draws classes
  simp only [nothingDrawn, length_writeRandom, List.length_eq_zero] at check
  simpa [lettersOnly, writeRandom] using check

/-- What that configuration generates when every draw is 0. -/
example : lettersOnly.generatePassword (fun _ => 0) = "!!" := by decide

end PasswordConfig

end GoCommon.Common
