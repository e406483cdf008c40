import Mathlib.Data.List.Basic
import Mathlib.Tactic.Ring

/-!
# Decimal integers and `int64` arithmetic

The modelled code reads decimal integers with `strconv.Atoi` and `strconv.ParseInt`, and writes
them with `strconv.Itoa` and the JSON encoder (which calls `strconv.AppendInt`). Go's `int` and
`int64` are 64-bit and wrap on overflow: `wrapInt64` is the arithmetic of both.

`parseInt` follows the loop of `ParseUint` character by character, so that the error it reports
and the value it returns with that error are Go's: a syntax error returns `0`, a value out of
range returns the nearest bound, and the loop stops at the first digit that overflows without
looking at what follows. `formatInt` writes the digits by a recursion bounded by a fuel
argument, so that closed instances evaluate by `decide`. `parseInt_formatInt` is the round trip
of the two on every `int64`.
-/

namespace GoCommon

/-- Go's `int64` (and 64-bit `int`) arithmetic: the result taken modulo `2^64` into
`[-2^63, 2^63)`. -/
def wrapInt64 (x : Int) : Int := (x + 2 ^ 63) % 2 ^ 64 - 2 ^ 63

/-- An `int64` value. -/
def IsInt64 (x : Int) : Prop := -2 ^ 63 ≤ x ∧ x < 2 ^ 63

instance (x : Int) : Decidable (IsInt64 x) := inferInstanceAs (Decidable (_ ∧ _))

/-- An `int64` is its own wrap: arithmetic that stays in range does not wrap. -/
theorem wrapInt64_of_isInt64 {x : Int} (inRange : IsInt64 x) : wrapInt64 x = x := by
  unfold wrapInt64
  rw [Int.emod_eq_of_lt (by unfold IsInt64 at inRange; omega) (by unfold IsInt64 at inRange; omega)]
  omega

/-- Every wrapped value is an `int64`. -/
theorem isInt64_wrapInt64 (x : Int) : IsInt64 (wrapInt64 x) := by
  unfold wrapInt64 IsInt64
  have := Int.emod_nonneg (x + 2 ^ 63) (by decide : (2 : Int) ^ 64 ≠ 0)
  have := Int.emod_lt_of_pos (x + 2 ^ 63) (by decide : (0 : Int) < 2 ^ 64)
  omega

/-- Arithmetic does not wrap exactly when its mathematical result is an `int64`. -/
theorem wrapInt64_eq_self_iff (x : Int) : wrapInt64 x = x ↔ IsInt64 x :=
  ⟨fun same => same ▸ isInt64_wrapInt64 x, wrapInt64_of_isInt64⟩

namespace Strconv

/-- The `Err` of a `*strconv.NumError`. -/
inductive NumError where
  /-- `ErrSyntax`. -/
  | errSyntax
  /-- `ErrRange`. -/
  | errRange
  deriving DecidableEq, Repr

/-- `math.MaxUint64`. -/
def maxUint64 : Nat := 2 ^ 64 - 1

/-- The loop of `ParseUint(s, 10, 64)`, from the value `n` read so far: a character that is not a
decimal digit is a syntax error; a digit that would take the value past `MaxUint64` stops the
loop with a range error. -/
def parseUintLoop (n : Nat) : List Char → Nat × Option NumError
  | [] => (n, none)
  | c :: cs =>
    if c.isDigit then
      if maxUint64 / 10 + 1 ≤ n then (maxUint64, some .errRange)
      else if maxUint64 < n * 10 + (c.toNat - '0'.toNat) then (maxUint64, some .errRange)
      else parseUintLoop (n * 10 + (c.toNat - '0'.toNat)) cs
    else (0, some .errSyntax)

/-- `strconv.ParseUint(s, 10, 64)`. -/
def parseUint (s : List Char) : Nat × Option NumError :=
  if s = [] then (0, some .errSyntax) else parseUintLoop 0 s

/-- The sign `ParseInt` reads: a leading `'-'`. -/
def negative (s : List Char) : Bool := s.head? = some '-'

/-- What `ParseInt` hands to `ParseUint`: the text without a leading `'+'` or `'-'`. -/
def unsigned (s : List Char) : List Char :=
  if s.head? = some '+' ∨ s.head? = some '-' then s.tail else s

/-- `strconv.ParseInt(s, 10, 64)`: the value Go returns, and the error it reports. -/
def parseInt (s : String) : Int × Option NumError :=
  if s.data = [] then (0, some .errSyntax)
  else
    let (un, err) := parseUint (unsigned s.data)
    if err = some .errSyntax then (0, some .errSyntax)
    else if !negative s.data && 2 ^ 63 ≤ un then (2 ^ 63 - 1, some .errRange)
    else if negative s.data && 2 ^ 63 < un then (-2 ^ 63, some .errRange)
    else (if negative s.data then -(un : Int) else un, none)

/-- `strconv.Atoi(s)` on a 64-bit platform. Its fast path for texts shorter than 19 bytes reads
the same value as `ParseInt`, as no such text overflows. -/
def atoi (s : String) : Int × Option NumError := parseInt s

/-- `ParseInt` returns an `int64`, with or without an error. -/
theorem isInt64_parseInt (s : String) : IsInt64 (parseInt s).1 := by
  unfold parseInt IsInt64
  split
  · decide
  · split
    rename_i un err _
    split
    · decide
    · split
      · decide
      · split
        · decide
        · rename_i notHigh notLow
          cases neg : negative s.data <;> simp_all <;> omega

/-- The character of a decimal digit. -/
def digitChar (d : Nat) : Char := Char.ofNat ('0'.toNat + d)

/-- The decimal digits of `n`, most significant first; `fuel` bounds their number. -/
def decimalDigits : (fuel n : Nat) → List Nat
  | 0, _ => []
  | fuel + 1, n => if n < 10 then [n] else decimalDigits fuel (n / 10) ++ [n % 10]

/-- The decimal text of `n`. -/
def decimal (n : Nat) : List Char := (decimalDigits (n + 1) n).map digitChar

/-- `strconv.FormatInt(n, 10)`, which `strconv.Itoa` and the JSON encoder write. -/
def formatInt (n : Int) : String :=
  ⟨(if n < 0 then ['-'] else []) ++ decimal n.natAbs⟩

/-- `strconv.Itoa(n)`. -/
def itoa (n : Int) : String := formatInt n

/-- The value of digits read most significant first, after `acc`. -/
def digitsValue (acc : Nat) (ds : List Nat) : Nat := ds.foldl (fun n d => n * 10 + d) acc

theorem digitChar_spec : ∀ d < 10, (digitChar d).isDigit = true ∧
    (digitChar d).toNat - '0'.toNat = d ∧ digitChar d ≠ '-' ∧ digitChar d ≠ '+' := by
  decide

theorem digitsValue_append_digit (acc : Nat) (ds : List Nat) (d : Nat) :
    digitsValue acc (ds ++ [d]) = digitsValue acc ds * 10 + d := by
  simp [digitsValue, List.foldl_append]

theorem le_digitsValue (acc : Nat) (ds : List Nat) : acc ≤ digitsValue acc ds := by
  induction ds generalizing acc with
  | nil => exact le_rfl
  | cons d ds ih => exact le_trans (by omega) (ih (acc * 10 + d))

/-- The digits of `n`, with enough fuel, are decimal digits with value `n`, and there is one. -/
theorem decimalDigits_spec : ∀ (fuel n : Nat), n < 10 ^ (fuel + 1) →
    (∀ d ∈ decimalDigits (fuel + 1) n, d < 10) ∧ digitsValue 0 (decimalDigits (fuel + 1) n) = n ∧
      decimalDigits (fuel + 1) n ≠ []
  | 0, n, small => by
    have one : n < 10 := by simpa using small
    simp [decimalDigits, one, digitsValue]
  | fuel + 1, n, small => by
    by_cases one : n < 10
    · simp [decimalDigits, one, digitsValue]
    · have ih := decimalDigits_spec fuel (n / 10) (by rw [pow_succ] at small; omega)
      rw [decimalDigits, if_neg one, digitsValue_append_digit, ih.2.1]
      refine ⟨?_, by omega, by simp⟩
      simp only [List.mem_append, List.mem_singleton]
      rintro d (mem | rfl)
      · exact ih.1 d mem
      · exact Nat.mod_lt _ (by omega)

/-- The first digit is `0` only when it is the only digit, of `0`. -/
theorem decimalDigits_head : ∀ (fuel n : Nat), n < 10 ^ (fuel + 1) →
    ∃ d ds, decimalDigits (fuel + 1) n = d :: ds ∧ (d = 0 → n = 0 ∧ ds = [])
  | 0, n, small =>
    ⟨n, [], by simp [decimalDigits, show n < 10 by simpa using small], fun zero => ⟨zero, rfl⟩⟩
  | fuel + 1, n, small => by
    by_cases one : n < 10
    · exact ⟨n, [], by simp [decimalDigits, one], fun zero => ⟨zero, rfl⟩⟩
    · obtain ⟨d, ds, digits, lead⟩ :=
        decimalDigits_head fuel (n / 10) (by rw [pow_succ] at small; omega)
      refine ⟨d, ds ++ [n % 10], by rw [decimalDigits, if_neg one, digits, List.cons_append],
        fun zero => ?_⟩
      have := (lead zero).1
      omega

theorem decimal_spec (n : Nat) :
    (∀ d ∈ decimalDigits (n + 1) n, d < 10) ∧ digitsValue 0 (decimalDigits (n + 1) n) = n ∧
      decimalDigits (n + 1) n ≠ [] :=
  decimalDigits_spec n n (Nat.lt_pow_self (by norm_num) _ |>.trans
    (Nat.pow_lt_pow_right (by norm_num) (Nat.lt_succ_self n)))

/-- A value from `10^k` to below `10^(k+1)` has `k + 1` digits. -/
theorem length_decimalDigits : ∀ (k fuel n : Nat), k ≤ fuel → 10 ^ k ≤ n → n < 10 ^ (k + 1) →
    (decimalDigits (fuel + 1) n).length = k + 1
  | 0, _, n, _, _, small => by simp [decimalDigits, show n < 10 by simpa using small]
  | k + 1, 0, _, enough, _, _ => absurd enough (by omega)
  | k + 1, fuel + 1, n, enough, large, small => by
    have ten : 10 ≤ 10 ^ (k + 1) := Nat.le_self_pow (by omega) 10
    rw [pow_succ] at large small
    rw [decimalDigits, if_neg (by omega), List.length_append,
      length_decimalDigits k fuel (n / 10) (by omega) ((Nat.le_div_iff_mul_le (by omega)).mpr large)
        ((Nat.div_lt_iff_lt_mul (by omega)).mpr small)]
    rfl

/-- `Itoa` writes a value from `10^k` to below `10^(k+1)` with `k + 1` characters. -/
theorem length_itoa {k n : Nat} (large : 10 ^ k ≤ n) (small : n < 10 ^ (k + 1)) :
    (itoa n).length = k + 1 := by
  have enough : k ≤ n := (Nat.lt_pow_self (by omega) k).le.trans large
  have nonnegative : ¬(n : Int) < 0 := by omega
  simp only [itoa, formatInt, Int.natAbs_ofNat, nonnegative, if_false, List.nil_append,
    String.length_mk, decimal, List.length_map]
  exact length_decimalDigits k n n enough large small

/-- The text `FormatInt` writes: a `-` for a negative value, then decimal digits, the first of
them `0` only when it is the only one. -/
theorem formatInt_data (n : Int) : ∃ d ds, (∀ e ∈ d :: ds, e < 10) ∧ (d = 0 → ds = []) ∧
    (formatInt n).data = (if n < 0 then ['-'] else []) ++ (d :: ds).map digitChar := by
  obtain ⟨digits, -, -⟩ := decimal_spec n.natAbs
  obtain ⟨d, ds, split, lead⟩ := decimalDigits_head n.natAbs n.natAbs
    (Nat.lt_pow_self (by norm_num) _ |>.trans (Nat.pow_lt_pow_right (by norm_num) (by omega)))
  exact ⟨d, ds, split ▸ digits, fun zero => (lead zero).2, by rw [formatInt, decimal, split]⟩

/-- Reading the digits of a value that fits a `uint64` reads the value, with no error. -/
theorem parseUintLoop_digits (ds : List Nat) (digits : ∀ d ∈ ds, d < 10) :
    ∀ acc, digitsValue acc ds ≤ maxUint64 →
      parseUintLoop acc (ds.map digitChar) = (digitsValue acc ds, none) := by
  induction ds with
  | nil => intro acc _; rfl
  | cons d ds ih =>
    intro acc fits
    obtain ⟨isDigit, value, -⟩ := digitChar_spec d (digits d (.head _))
    have next : acc * 10 + d ≤ maxUint64 := (le_digitsValue _ ds).trans fits
    simp only [List.map_cons, parseUintLoop, isDigit, value, if_true]
    rw [if_neg (by omega), if_neg (by omega)]
    exact ih (fun e mem => digits e (.tail _ mem)) _ fits

/-- **`ParseInt` reads back what `FormatInt` writes**, for every `int64`. -/
theorem parseInt_formatInt {n : Int} (inRange : IsInt64 n) : parseInt (formatInt n) = (n, none) := by
  obtain ⟨digits, value, nonempty⟩ := decimal_spec n.natAbs
  obtain ⟨d, ds, split⟩ := List.exists_cons_of_ne_nil nonempty
  obtain ⟨-, -, notMinus, notPlus⟩ := digitChar_spec d (digits d (by rw [split]; exact .head _))
  have read := parseUintLoop_digits _ digits 0 (by unfold IsInt64 maxUint64 at *; omega)
  rw [value] at read
  unfold IsInt64 at inRange
  by_cases sign : n < 0
  · simp [parseInt, formatInt, decimal, sign, negative, unsigned, parseUint, split] at read ⊢
    have abs : (n.natAbs : Int) = -n := Int.ofNat_natAbs_of_nonpos (le_of_lt sign)
    rw [read]
    rw [if_neg nofun, if_neg (by omega), abs, neg_neg]
  · simp [parseInt, formatInt, decimal, sign, negative, unsigned, parseUint, split, notMinus,
      notPlus] at read ⊢
    have abs : (n.natAbs : Int) = n := Int.natAbs_of_nonneg (by omega)
    rw [read]
    rw [if_neg nofun, if_neg (by omega), abs]

end Strconv

end GoCommon
