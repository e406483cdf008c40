import GoCommon.Rand
import GoCommon.Strconv

/-!
# One-time passwords

`OtpConfig.GenerateOtp` computes `min := int(math.Pow(10, Digits-1))` and
`max := int(math.Pow(10, Digits) - 1)` in floating point, draws `rand.Intn(max-min) + min` and
writes it with `strconv.Itoa`. `intPow10` and `intPow10Pred` give the two conversions on every
`int` exponent: the powers of ten Go's `math.Pow` computes, the rounding of the subtraction, and
`int`'s truncation. A float at or past `2^63` has no `int`: Go leaves the conversion to the
implementation, and the model takes its result as a parameter, `outOfRange` (`math.MinInt64` on
amd64, `math.MaxInt64` on arm64).

`Intn` draws below `max - min`, so `max` itself is never drawn: from one to fifteen digits the
codes are exactly the numbers from `10^(d-1)` to `10^d - 2` (`generateOtp_codes_iff`), each
written with `d` digits. Below one digit and from twenty digits on, the argument of `Intn` is not
positive and the call panics, whatever is drawn (`generateOtp_panics`).
-/

namespace GoCommon.Common

open Rand

/-- `OtpConfig`, with the one field `GenerateOtp` reads: `Digits`, an `int`. -/
structure OtpConfig where
  digits : Int
  digits_isInt64 : IsInt64 digits

/-- `int(math.Pow(10, float64(k)))` for an `int` `k`. `math.Pow(10, k)` is `10^k` exactly from
`k = 0` to `22`, as the powers of five it multiplies fit the 53-bit significand; it lies in
`[0, 1)` below `k = 0` and is at least `10^19` above `k = 18`. `int` truncates toward zero. -/
def intPow10 (outOfRange k : Int) : Int :=
  if k < 0 then 0
  else if k ≤ 18 then 10 ^ k.toNat
  else outOfRange

/-- `int(math.Pow(10, float64(k)) - 1)` for an `int` `k`. The subtraction rounds to the nearest
float: `10^k - 1` is exact up to `k = 15`, and from `k = 16` on the spacing of floats around
`10^k` is 2 or more and the tie goes to `10^k`. Below `k = 1` the difference lies in `(-1, 0]`
and truncates to `0`, except from `k = -17` down, where `10^k` is under half the spacing of
floats below `1` and the difference rounds to `-1`. -/
def intPow10Pred (outOfRange k : Int) : Int :=
  if k ≤ -17 then -1
  else if k ≤ 0 then 0
  else if k ≤ 15 then 10 ^ k.toNat - 1
  else if k ≤ 18 then 10 ^ k.toNat
  else outOfRange

namespace OtpConfig

/-- `GenerateOtp()`. `Digits-1`, `max-min` and the final sum are `int` arithmetic, and
`rand.Intn` panics on an argument that is not positive. -/
def generateOtp (outOfRange : Int) (cfg : OtpConfig) (draws : Draws) : Except String String :=
  let min := intPow10 outOfRange (wrapInt64 (cfg.digits - 1))
  let max := intPow10Pred outOfRange cfg.digits
  let n := wrapInt64 (max - min)
  if n ≤ 0 then .error "invalid argument to Intn"
  else .ok (Strconv.itoa (wrapInt64 (intn draws 0 n.toNat + min)))

section Codes

variable (outOfRange : Int) (cfg : OtpConfig)

/-- The span `Intn` draws from with `k + 1` digits, for `k + 1 ≤ 18`: `max - min`, where `max`
is `10^(k+1) - 1` up to fifteen digits and rounds to `10^(k+1)` beyond. -/
def span (k : Nat) : Nat := if k + 1 ≤ 15 then 9 * 10 ^ k - 1 else 9 * 10 ^ k

/-- From one to eighteen digits no conversion leaves `int`, and the code is `10^(d-1)` plus the
draw reduced below the span. -/
theorem generateOtp_of_le_eighteen {k : Nat} (digits : cfg.digits = k + 1) (upTo : k + 1 ≤ 18)
    (draws : Draws) :
    cfg.generateOtp outOfRange draws =
      .ok (Strconv.itoa (10 ^ k + intn draws 0 (span k) : Nat)) := by
  have small : 10 ^ k ≤ 10 ^ 17 := Nat.pow_le_pow_right (by omega) (by omega)
  have positive : 1 ≤ 10 ^ k := Nat.one_le_pow _ _ (by omega)
  have drawn := intn_lt draws 0 (n := span k) (by unfold span; split <;> omega)
  have spanLe : span k ≤ 9 * 10 ^ k := by unfold span; split <;> omega
  have exponent : wrapInt64 (cfg.digits - 1) = k := by
    rw [digits, add_sub_cancel_right, wrapInt64_of_isInt64]
    unfold IsInt64
    omega
  have least : intPow10 outOfRange k = ((10 ^ k : Nat) : Int) := by
    rw [intPow10, if_neg (by omega), if_pos (by omega)]
    push_cast
    rfl
  have greatest : intPow10Pred outOfRange cfg.digits - ((10 ^ k : Nat) : Int) = span k := by
    have toNat : ((k : Int) + 1).toNat = k + 1 := by omega
    have power : (10 : Int) ^ (k + 1) = 10 * ((10 ^ k : Nat) : Int) := by push_cast; ring
    rw [digits, intPow10Pred, if_neg (by omega), if_neg (by omega), toNat, power]
    unfold span
    split_ifs <;> omega
  have spanInRange : wrapInt64 (span k : Int) = span k :=
    wrapInt64_of_isInt64 (by unfold IsInt64; omega)
  have sumInRange : wrapInt64 ((intn draws 0 (span k) : Nat) + ((10 ^ k : Nat) : Int)) =
      ((10 ^ k + intn draws 0 (span k) : Nat) : Int) := by
    rw [wrapInt64_of_isInt64 (by unfold IsInt64; omega)]
    push_cast
    ring
  simp only [generateOtp, exponent, least, greatest, spanInRange, Int.toNat_ofNat, sumInRange]
  rw [if_neg (by unfold span; split <;> omega)]

/-- Up to fifteen digits the codes are exactly the numbers from `10^(d-1)` to `10^d - 2`: the
draws reach each of them, and `10^d - 1` is `max`, which `Intn` does not draw. -/
theorem generateOtp_codes_iff {k : Nat} (digits : cfg.digits = k + 1) (upTo : k + 1 ≤ 15)
    (code : String) : (∃ draws, cfg.generateOtp outOfRange draws = .ok code) ↔
      ∃ n : Nat, 10 ^ k ≤ n ∧ n + 2 ≤ 10 ^ (k + 1) ∧ code = Strconv.itoa n := by
  have spanEq : span k = 9 * 10 ^ k - 1 := if_pos upTo
  have positive : 1 ≤ 10 ^ k := Nat.one_le_pow _ _ (by omega)
  have power : 10 ^ (k + 1) = 10 * 10 ^ k := by ring
  constructor
  · rintro ⟨draws, generated⟩
    rw [cfg.generateOtp_of_le_eighteen outOfRange digits (by omega)] at generated
    have drawn := intn_lt draws 0 (n := span k) (by omega)
    exact ⟨_, by omega, by omega, (Except.ok.inj generated).symm⟩
  · rintro ⟨n, large, small, rfl⟩
    refine ⟨fun _ => n - 10 ^ k, ?_⟩
    rw [cfg.generateOtp_of_le_eighteen outOfRange digits (by omega), intn_self 0 (by omega),
      Nat.add_sub_cancel' large]

/-- The largest six-digit code. -/
example :
    (⟨6, by decide⟩ : OtpConfig).generateOtp (-2 ^ 63) (fun _ => 899998) = .ok "999998" := rfl

/-- Below one digit (above `math.MinInt64`) and from twenty digits on, `max - min` is not
positive and `Intn` panics, whatever is drawn. -/
theorem generateOtp_panics
    (outside : (-2 ^ 63 < cfg.digits ∧ cfg.digits ≤ 0) ∨ 20 ≤ cfg.digits)
    (draws : Draws) : cfg.generateOtp outOfRange draws = .error "invalid argument to Intn" := by
  have inRange := cfg.digits_isInt64
  unfold IsInt64 at inRange
  have exponent : wrapInt64 (cfg.digits - 1) = cfg.digits - 1 :=
    wrapInt64_of_isInt64 (by unfold IsInt64; omega)
  have notPositive : wrapInt64 (intPow10Pred outOfRange cfg.digits -
      intPow10 outOfRange (cfg.digits - 1)) ≤ 0 := by
    rcases outside with ⟨above, atMost⟩ | twenty
    · have least : intPow10 outOfRange (cfg.digits - 1) = 0 := if_pos (by omega)
      have greatest : -1 ≤ intPow10Pred outOfRange cfg.digits ∧
          intPow10Pred outOfRange cfg.digits ≤ 0 := by
        unfold intPow10Pred
        split_ifs <;> omega
      rw [least, sub_zero, wrapInt64_of_isInt64 (by unfold IsInt64; omega)]
      exact greatest.2
    · have least : intPow10 outOfRange (cfg.digits - 1) = outOfRange := by
        rw [intPow10, if_neg (by omega), if_neg (by omega)]
      have greatest : intPow10Pred outOfRange cfg.digits = outOfRange := by
        rw [intPow10Pred, if_neg (by omega), if_neg (by omega), if_neg (by omega),
          if_neg (by omega)]
      rw [least, greatest, sub_self]
      decide
  simp only [generateOtp, exponent]
  rw [if_pos notPositive]

end Codes

/-- **`GenerateOtp` never returns `10^d - 1`, and panics below one digit and from twenty on.**
For every implementation's `int` of an out-of-range float: below one digit (above
`math.MinInt64`) and from twenty digits on, every call panics in `rand.Intn`; from one to
fifteen digits, the codes are exactly the `d`-character decimal numbers from `10^(d-1)` to
`10^d - 2`; so a six-digit configuration never returns `999999`. -/
theorem generateOtp_never_draws_max :
    (∀ (outOfRange : Int) (cfg : OtpConfig),
      (-2 ^ 63 < cfg.digits ∧ cfg.digits ≤ 0) ∨ 20 ≤ cfg.digits →
        ∀ draws, cfg.generateOtp outOfRange draws = .error "invalid argument to Intn") ∧
    (∀ (outOfRange : Int) (cfg : OtpConfig), 1 ≤ cfg.digits → cfg.digits ≤ 15 →
      ∀ code, (∃ draws, cfg.generateOtp outOfRange draws = .ok code) ↔
        ∃ n : Nat, 10 ^ (cfg.digits.toNat - 1) ≤ n ∧ n + 2 ≤ 10 ^ cfg.digits.toNat ∧
          code = Strconv.itoa n ∧ code.length = cfg.digits.toNat) ∧
    ∀ (outOfRange : Int) (draws : Draws),
      (⟨6, by decide⟩ : OtpConfig).generateOtp outOfRange draws ≠ .ok "999999" := by
  have codes : ∀ (outOfRange : Int) (cfg : OtpConfig), 1 ≤ cfg.digits → cfg.digits ≤ 15 →
      ∀ code, (∃ draws, cfg.generateOtp outOfRange draws = .ok code) ↔
        ∃ n : Nat, 10 ^ (cfg.digits.toNat - 1) ≤ n ∧ n + 2 ≤ 10 ^ cfg.digits.toNat ∧
          code = Strconv.itoa n ∧ code.length = cfg.digits.toNat := by
    intro outOfRange cfg one fifteen code
    obtain ⟨k, digits⟩ : ∃ k : Nat, cfg.digits = k + 1 := ⟨cfg.digits.toNat - 1, by omega⟩
    have exponent : cfg.digits.toNat = k + 1 := by omega
    rw [cfg.generateOtp_codes_iff outOfRange digits (by omega), exponent, Nat.add_sub_cancel]
    refine exists_congr fun n => and_congr_right fun large => and_congr_right fun small => ?_
    exact ⟨fun same => ⟨same, same ▸ Strconv.length_itoa large (by omega)⟩, And.left⟩
  refine ⟨fun outOfRange cfg outside draws => cfg.generateOtp_panics outOfRange outside draws,
    codes, fun outOfRange draws generated => ?_⟩
  obtain ⟨n, -, small, same, -⟩ := (codes outOfRange ⟨6, by decide⟩ (by decide) (by decide)
    "999999").mp ⟨draws, generated⟩
  change n + 2 ≤ 10 ^ 6 at small
  have read := Strconv.parseInt_formatInt (n := (n : Int)) (by unfold IsInt64; omega)
  rw [← Strconv.itoa, ← same, show Strconv.parseInt "999999" = (999999, none) by decide] at read
  have : (n : Int) = 999999 := (Prod.mk.inj read).1.symm
  omega

end OtpConfig

end GoCommon.Common
