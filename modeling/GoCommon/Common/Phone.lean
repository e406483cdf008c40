import GoCommon.Runtime

/-!
# Phone numbers

`NormalizePhoneNumber` keeps the digits of its input, drops their leading zeros, puts the default
country code in front unless they already start with it, and formats the result: `+` and the
digits (E.164), the digits alone (international), or `0` and the digits after the country code
(local). The first three steps are `countryDigits`; they always leave a digit string that starts
with the country code (`countryDigits_spec`), and read such a string back unchanged, alone or
behind a `+` (`countryDigits_of_coded`). So the E.164 and international forms are fixed points
(`normalizePhoneNumber_idempotent_of_ne_local`). The local form is not: it keeps what follows the
country code, and that is read again from scratch, its leading zeros dropped and a country code
at its head taken for the prefix (`normalizePhoneNumber_local_idempotent_iff`).

`IsIranianNumber` and `ValidateIranMobileNumber` read Iranian mobile numbers two ways: the first
by the pattern `^(?:\+98|0)9\d{9}$`, the second by normalising to the local form.
-/

namespace GoCommon.Common

open GoCommon.Strings (hasPrefix trimPrefix)

/-- `PhoneNumberConfig`; a `PhoneNumberFormat` is a Go `string`. -/
structure PhoneNumberConfig where
  defaultCountryCode : String
  format : String
  deriving DecidableEq, Repr

/-- `FormatE164`. -/
def formatE164 : String := "e164"

/-- `FormatLocal`. -/
def formatLocal : String := "local"

/-- `FormatInternational`. -/
def formatInternational : String := "international"

/-- The first steps of `NormalizePhoneNumber`: the digits of `phone` (every `\D` replaced by
nothing), `strings.TrimLeft(digits, "0")`, and the country code `cc` in front unless they
start with it. -/
def countryDigits (cc phone : String) : String :=
  let digits : String := ⟨phone.data.filter Char.isDigit⟩
  let digits : String := ⟨digits.data.dropWhile (· == '0')⟩
  if cc ≠ "" ∧ hasPrefix digits cc = false then cc ++ digits else digits

/-- `NormalizePhoneNumber(phone, config)`. -/
def normalizePhoneNumber (phone : String) (config : PhoneNumberConfig) : String :=
  if phone = "" then ""
  else
    let format := if config.format = "" then formatE164 else config.format
    let cc := config.defaultCountryCode
    let digits := countryDigits cc phone
    if format = formatE164 then "+" ++ digits
    else if format = formatLocal then
      "0" ++ (if cc ≠ "" ∧ hasPrefix digits cc = true then trimPrefix digits cc else digits)
    else if format = formatInternational then digits
    else "+" ++ digits

/-- `NormalizeIranPhone(phone)`. -/
def normalizeIranPhone (phone : String) : String :=
  normalizePhoneNumber phone ⟨"98", formatE164⟩

/-- `NormalizeIranPhoneLocal(phone)`. -/
def normalizeIranPhoneLocal (phone : String) : String :=
  normalizePhoneNumber phone ⟨"98", formatLocal⟩

/-- The pattern `^09\d{9}$`. -/
def isLocalMobile : List Char → Bool
  | '0' :: '9' :: rest => rest.length == 9 && rest.all Char.isDigit
  | _ => false

/-- `ValidateIranMobileNumber(phone)`. The normalised text is ASCII, so `len` counts its
characters. -/
def validateIranMobileNumber (phone : String) : Bool :=
  let normalized := normalizeIranPhoneLocal phone
  if normalized.length ≠ 11 then false
  else if hasPrefix normalized "09" = false then false
  else isLocalMobile normalized.data

/-- `IsIranianNumber(phoneNumber)`: the pattern `^(?:\+98|0)9\d{9}$`. -/
def isIranianNumber (phoneNumber : String) : Bool :=
  match phoneNumber.data with
  | '+' :: '9' :: '8' :: '9' :: rest => rest.length == 9 && rest.all Char.isDigit
  | '0' :: '9' :: rest => rest.length == 9 && rest.all Char.isDigit
  | _ => false

/-- The last `n` characters of `s`. -/
def lastChars (n : Nat) (s : String) : String := ⟨s.data.drop (s.data.length - n)⟩

/-- A default country code as `NormalizeIranPhone` passes it: digits, the first not `0`. -/
def IsCountryCode (cc : String) : Prop :=
  cc.data ≠ [] ∧ (∀ c ∈ cc.data, c.isDigit = true) ∧ cc.data.head? ≠ some '0'

instance (cc : String) : Decidable (IsCountryCode cc) := inferInstanceAs (Decidable (_ ∧ _ ∧ _))

/-- A digit string that starts with the country code. -/
def Coded (cc : String) (digits : List Char) : Prop :=
  (∀ c ∈ digits, c.isDigit = true) ∧ cc.data <+: digits

section CountryCode

variable {cc : String} (valid : IsCountryCode cc)
include valid

theorem countryDigits_spec (phone : String) : Coded cc (countryDigits cc phone).data := by
  obtain ⟨nonempty, ccDigits, -⟩ := valid
  have kept : ∀ c ∈ (phone.data.filter Char.isDigit).dropWhile (· == '0'), c.isDigit = true :=
    fun c mem => (List.mem_filter.mp ((List.dropWhile_suffix _).subset mem)).2
  dsimp only [countryDigits]
  split
  · refine ⟨fun c mem => ?_, List.prefix_append _ _⟩
    rcases List.mem_append.mp mem with inCc | inDigits
    · exact ccDigits c inCc
    · exact kept c inDigits
  · rename_i notAdded
    have present : cc ≠ "" := fun empty => nonempty (by rw [empty])
    simp only [present, ne_eq, not_false_eq_true, true_and, Bool.not_eq_false] at notAdded
    exact ⟨kept, Strings.hasPrefix_iff.mp notAdded⟩

theorem countryDigits_of_coded (pre digits : List Char) (noDigit : ∀ c ∈ pre, c.isDigit = false)
    (coded : Coded cc digits) : countryDigits cc ⟨pre ++ digits⟩ = ⟨digits⟩ := by
  obtain ⟨allDigits, rest, rfl⟩ := coded
  obtain ⟨nonempty, -, notZero⟩ := valid
  obtain ⟨c, cs, ccIs⟩ := List.exists_cons_of_ne_nil nonempty
  have filtered : (pre ++ (cc.data ++ rest)).filter Char.isDigit = cc.data ++ rest := by
    rw [List.filter_append, List.filter_eq_nil_iff.mpr (by simpa using noDigit),
      List.filter_eq_self.mpr allDigits, List.nil_append]
  have notZero : (c == '0') = false := by simpa [ccIs] using notZero
  have unchanged : (cc.data ++ rest).dropWhile (· == '0') = cc.data ++ rest := by
    rw [ccIs, List.cons_append, List.dropWhile_cons_of_neg (by simpa using notZero)]
  have coded : hasPrefix ⟨cc.data ++ rest⟩ cc = true :=
    Strings.hasPrefix_iff.mpr (List.prefix_append _ _)
  simp [countryDigits, filtered, unchanged, coded]

theorem countryDigits_ne_empty (phone : String) : countryDigits cc phone ≠ "" := by
  intro empty
  have coded := (countryDigits_spec valid phone).2
  rw [empty] at coded
  exact valid.1 (List.eq_nil_of_prefix_nil coded)

end CountryCode

theorem countryDigits_data (cc phone : String) :
    (countryDigits cc phone).data =
      let digits := (phone.data.filter Char.isDigit).dropWhile (· == '0')
      if cc ≠ "" ∧ ¬cc.data <+: digits then cc.data ++ digits else digits := by
  simp only [countryDigits, Bool.eq_false_iff, ne_eq, Strings.hasPrefix_iff]
  split <;> rfl

/-- Outside the local form, `NormalizePhoneNumber` writes the country-coded digits, behind a `+`
unless the form is international. -/
theorem normalizePhoneNumber_of_ne_local {phone : String} (nonempty : phone ≠ "")
    {config : PhoneNumberConfig} (notLocal : config.format ≠ formatLocal) :
    normalizePhoneNumber phone config =
      if config.format = formatInternational then countryDigits config.defaultCountryCode phone
      else "+" ++ countryDigits config.defaultCountryCode phone := by
  unfold normalizePhoneNumber
  by_cases noFormat : config.format = ""
  · simp [nonempty, noFormat, formatE164, formatInternational]
  · by_cases e164 : config.format = formatE164
    · simp [nonempty, e164, formatE164, formatInternational]
    · simp only [nonempty, noFormat, e164, notLocal, if_false]

/-- In the local form, `NormalizePhoneNumber` writes `0` and the digits after the country code. -/
theorem normalizePhoneNumber_local {phone : String} (nonempty : phone ≠ "")
    {config : PhoneNumberConfig} (valid : IsCountryCode config.defaultCountryCode)
    (isLocal : config.format = formatLocal) :
    normalizePhoneNumber phone config =
      "0" ++ ⟨(countryDigits config.defaultCountryCode phone).data.drop
        config.defaultCountryCode.length⟩ := by
  have coded : hasPrefix (countryDigits config.defaultCountryCode phone) config.defaultCountryCode :=
    Strings.hasPrefix_iff.mpr (countryDigits_spec valid phone).2
  have present : config.defaultCountryCode ≠ "" := fun empty => valid.1 (by rw [empty])
  simp [normalizePhoneNumber, nonempty, isLocal, formatE164, formatLocal, coded, present,
    Strings.trimPrefix]

/-- What the local form keeps is read back unchanged exactly when it neither starts with `0` nor
with the country code. -/
private theorem localRest_eq_iff {cc rest : List Char} (nonempty : cc ≠ []) :
    (if ¬cc <+: rest.dropWhile (· == '0') then rest.dropWhile (· == '0')
      else (rest.dropWhile (· == '0')).drop cc.length) = rest ↔
      rest.head? ≠ some '0' ∧ ¬cc <+: rest := by
  have shorter : ∀ l : List Char, (l.dropWhile (· == '0')).length ≤ l.length :=
    fun l => (List.dropWhile_suffix _).length_le
  have positive : 0 < cc.length := List.length_pos.mpr nonempty
  cases rest with
  | nil => simp [List.prefix_nil, nonempty]
  | cons c rest =>
    by_cases zero : c = '0'
    · subst zero
      have cut := shorter rest
      simp only [List.dropWhile_cons, beq_self_eq_true, if_true, List.head?_cons, ne_eq,
        not_true_eq_false, false_and, iff_false]
      split <;> intro same <;> have := congrArg List.length same <;> simp at this <;> omega
    · have kept : (c :: rest).dropWhile (· == '0') = c :: rest :=
        List.dropWhile_cons_of_neg (by simpa using zero)
      simp only [kept, List.head?_cons, ne_eq, Option.some.injEq, zero, not_false_eq_true,
        true_and]
      split
      · simp_all
      · rename_i prefixed
        simp only [Decidable.not_not] at prefixed
        simp only [prefixed, not_true_eq_false, iff_false]
        intro same
        have := congrArg List.length same
        simp at this
        omega

/-- **The local form is a fixed point exactly when the digits after the country code neither start
with `0` nor with the country code again**; `"+98 0912 345 6789"` and `"989812"` break the
first and the second condition. -/
theorem normalizePhoneNumber_local_idempotent_iff {phone : String} (nonempty : phone ≠ "")
    {config : PhoneNumberConfig} (valid : IsCountryCode config.defaultCountryCode)
    (isLocal : config.format = formatLocal) :
    normalizePhoneNumber (normalizePhoneNumber phone config) config =
        normalizePhoneNumber phone config ↔
      ((countryDigits config.defaultCountryCode phone).data.drop
          config.defaultCountryCode.length).head? ≠ some '0' ∧
        ¬config.defaultCountryCode.data <+:
          (countryDigits config.defaultCountryCode phone).data.drop config.defaultCountryCode.length := by
  have restDigits : ∀ c ∈ (countryDigits config.defaultCountryCode phone).data.drop
      config.defaultCountryCode.length, c.isDigit = true :=
    fun c mem => (countryDigits_spec valid phone).1 c ((List.drop_sublist _ _).subset mem)
  rw [normalizePhoneNumber_local nonempty valid isLocal]
  generalize (countryDigits config.defaultCountryCode phone).data.drop
    config.defaultCountryCode.length = rest at restDigits ⊢
  have again : "0" ++ (⟨rest⟩ : String) ≠ "" := fun empty => by
    simpa using congrArg String.data empty
  have filtered : ('0' :: rest).filter Char.isDigit = '0' :: rest := List.filter_eq_self.mpr
    (fun c mem => (List.mem_cons.mp mem).elim (fun same => by subst same; rfl) (restDigits c))
  have present : config.defaultCountryCode ≠ "" := fun empty => valid.1 (by rw [empty])
  have cancel : ∀ kept : List Char, "0" ++ (⟨kept⟩ : String) = "0" ++ ⟨rest⟩ ↔ kept = rest :=
    fun kept => by simp only [String.ext_iff, String.data_append, List.append_cancel_left_eq]
  have len : config.defaultCountryCode.length = config.defaultCountryCode.data.length := rfl
  have zeroData : ("0" ++ (⟨rest⟩ : String)).data = '0' :: rest := rfl
  rw [normalizePhoneNumber_local again valid isLocal, ← localRest_eq_iff valid.1, cancel,
    countryDigits_data, zeroData, filtered, List.dropWhile_cons_of_pos (by decide), len]
  simp only [ne_eq, present, not_false_eq_true, true_and]
  split
  · rw [List.drop_left]
  · rfl

/-- **The E.164 and international forms are fixed points**: normalising again, with the same
configuration and a valid country code, changes nothing. -/
theorem normalizePhoneNumber_idempotent_of_ne_local (phone : String) {config : PhoneNumberConfig}
    (valid : IsCountryCode config.defaultCountryCode) (notLocal : config.format ≠ formatLocal) :
    normalizePhoneNumber (normalizePhoneNumber phone config) config =
      normalizePhoneNumber phone config := by
  by_cases empty : phone = ""
  · simp [normalizePhoneNumber, empty]
  set digits := countryDigits config.defaultCountryCode phone
  have coded := countryDigits_spec valid phone
  rw [normalizePhoneNumber_of_ne_local empty notLocal]
  split
  · rw [normalizePhoneNumber_of_ne_local (countryDigits_ne_empty valid phone) notLocal, if_pos ‹_›]
    exact countryDigits_of_coded valid [] digits.data nofun coded
  · have signed : "+" ++ digits ≠ "" := fun empty => by simpa using congrArg String.data empty
    rw [normalizePhoneNumber_of_ne_local signed notLocal, if_neg ‹_›]
    congr 1
    exact countryDigits_of_coded valid ['+'] digits.data (by decide) coded

/-- **Normalising to the local form twice can change the number.** With the country code `98`,
`"+98 0912 345 6789"` normalises to `"009123456789"` and that to `"09123456789"`; `"989812"`
normalises to `"09812"` and that to `"012"`. -/
theorem normalizePhoneNumber_local_not_idempotent :
    normalizePhoneNumber "+98 0912 345 6789" ⟨"98", formatLocal⟩ = "009123456789" ∧
      normalizePhoneNumber "009123456789" ⟨"98", formatLocal⟩ = "09123456789" ∧
      normalizePhoneNumber "989812" ⟨"98", formatLocal⟩ = "09812" ∧
      normalizePhoneNumber "09812" ⟨"98", formatLocal⟩ = "012" := by
  decide

/-! ## The two readings of an Iranian mobile number -/

/-- What `IsIranianNumber` accepts: `+989` or `09`, then nine digits. -/
theorem isIranianNumber_cases {phone : String} (iranian : isIranianNumber phone = true) :
    ∃ rest : List Char, rest.length = 9 ∧ (∀ c ∈ rest, c.isDigit = true) ∧
      (phone.data = '+' :: '9' :: '8' :: '9' :: rest ∨ phone.data = '0' :: '9' :: rest) := by
  unfold isIranianNumber at iranian
  split at iranian
  all_goals first
    | (simp only [Bool.and_eq_true, beq_iff_eq, List.all_eq_true] at iranian
       exact ⟨_, iranian.1, iranian.2, by simp_all⟩)
    | cases iranian

theorem length_of_isLocalMobile {l : List Char} (mobile : isLocalMobile l = true) :
    l.length = 11 := by
  unfold isLocalMobile at mobile
  split at mobile
  · simp only [Bool.and_eq_true, beq_iff_eq] at mobile
    simp [mobile.1]
  · cases mobile

theorem isCountryCode_98 : IsCountryCode "98" := by decide

/-- `ValidateIranMobileNumber` is the pattern `^09\d{9}$` on the local form: its length and
prefix checks are implied by the pattern. -/
theorem validateIranMobileNumber_eq (phone : String) :
    validateIranMobileNumber phone = isLocalMobile (normalizeIranPhoneLocal phone).data := by
  unfold validateIranMobileNumber
  generalize normalizeIranPhoneLocal phone = normalized
  by_cases pattern : isLocalMobile normalized.data = true
  · obtain ⟨rest, form, nine⟩ : ∃ rest, normalized.data = '0' :: '9' :: rest ∧ rest.length = 9 := by
      unfold isLocalMobile at pattern
      split at pattern
      · exact ⟨_, ‹_›, by simp at pattern; exact pattern.1⟩
      · cases pattern
    have long : normalized.length = 11 := by
      rw [show normalized.length = normalized.data.length from rfl, form]
      simp [nine]
    have opening : hasPrefix normalized "09" = true :=
      Strings.hasPrefix_iff.mpr (by rw [form]; exact ⟨rest, rfl⟩)
    simp [long, opening, pattern]
  · simp only [Bool.not_eq_true] at pattern
    simp [pattern]

theorem normalizeIranPhone_eq {phone : String} (nonempty : phone ≠ "") :
    normalizeIranPhone phone = "+" ++ countryDigits "98" phone := by
  rw [normalizeIranPhone, normalizePhoneNumber_of_ne_local nonempty (by decide), if_neg (by decide)]

theorem normalizeIranPhoneLocal_eq {phone : String} (nonempty : phone ≠ "") :
    normalizeIranPhoneLocal phone = "0" ++ ⟨(countryDigits "98" phone).data.drop 2⟩ :=
  normalizePhoneNumber_local nonempty isCountryCode_98 rfl

/-- The country-coded digits of `+989` and nine digits: the number without its `+`. -/
theorem countryDigits_plus989 {rest : List Char} (digits : ∀ c ∈ rest, c.isDigit = true) :
    countryDigits "98" ⟨'+' :: '9' :: '8' :: '9' :: rest⟩ = ⟨'9' :: '8' :: '9' :: rest⟩ :=
  countryDigits_of_coded isCountryCode_98 ['+'] _ (by decide)
    ⟨by simpa using digits, ⟨'9' :: rest, rfl⟩⟩

/-- The country-coded digits of `09` and nine digits: `98` is added in front of the `9…`, unless
what follows the `9` starts with `8`, and so the digits already start with `98`. -/
theorem countryDigits_zero9 {rest : List Char} (digits : ∀ c ∈ rest, c.isDigit = true) :
    countryDigits "98" ⟨'0' :: '9' :: rest⟩ =
      if rest.head? = some '8' then ⟨'9' :: rest⟩ else ⟨'9' :: '8' :: '9' :: rest⟩ := by
  have filtered : ('0' :: '9' :: rest).filter Char.isDigit = '0' :: '9' :: rest :=
    List.filter_eq_self.mpr (by simpa using digits)
  apply String.ext
  rw [countryDigits_data]
  cases rest with
  | nil => simp [filtered]
  | cons c rest =>
    by_cases eight : c = '8'
    · simp [filtered, eight]
      exact fun a mem => digits a (.tail _ mem)
    · simp [filtered, eight, Ne.symm eight]

/-- **The two readings of an Iranian mobile number agree except on `098…`.** For every number
that `IsIranianNumber` accepts, `ValidateIranMobileNumber` accepts it too and
`NormalizeIranPhone` gives `+98` and its last ten characters, unless the number is written with
`0` and a national part starting with `98`: the normaliser then takes that `98` for the country
code. -/
theorem iranianNumber_agrees_iff {phone : String} (iranian : isIranianNumber phone = true) :
    (validateIranMobileNumber phone = true ∧
        normalizeIranPhone phone = "+98" ++ lastChars 10 phone) ↔
      ¬['0', '9', '8'] <+: phone.data := by
  obtain ⟨rest, nine, digits, form | form⟩ := isIranianNumber_cases iranian
  · obtain rfl : phone = ⟨_⟩ := String.ext form
    have nonempty : (⟨'+' :: '9' :: '8' :: '9' :: rest⟩ : String) ≠ "" :=
      fun empty => List.cons_ne_nil _ _ (congrArg String.data empty)
    rw [validateIranMobileNumber_eq, normalizeIranPhoneLocal_eq nonempty,
      normalizeIranPhone_eq nonempty, countryDigits_plus989 digits]
    simp [isLocalMobile, lastChars, nine, String.ext_iff]
    exact digits
  · obtain rfl : phone = ⟨_⟩ := String.ext form
    have nonempty : (⟨'0' :: '9' :: rest⟩ : String) ≠ "" :=
      fun empty => List.cons_ne_nil _ _ (congrArg String.data empty)
    rw [validateIranMobileNumber_eq, normalizeIranPhoneLocal_eq nonempty,
      normalizeIranPhone_eq nonempty, countryDigits_zero9 digits]
    cases rest with
    | nil => cases nine
    | cons c rest =>
      have short : rest.length = 8 := by simpa using nine
      by_cases eight : c = '8'
      · have invalid : isLocalMobile ('0' :: rest) = false := by
          cases mobile : isLocalMobile ('0' :: rest)
          · rfl
          · have := length_of_isLocalMobile mobile
            simp at this
            omega
        simp [eight, invalid]
      · simp [isLocalMobile, lastChars, eight, Ne.symm eight, String.ext_iff, short]
        exact ⟨digits c (.head _), fun x mem => digits x (.tail _ mem)⟩

/-- **`"09812345678"` is Iranian by the pattern and invalid by the normaliser.** Its national
part `9812345678` starts with `98`, so the local form drops that `98` as a country code. -/
theorem iranianNumber_098_disagrees :
    isIranianNumber "09812345678" = true ∧ validateIranMobileNumber "09812345678" = false ∧
      normalizeIranPhoneLocal "09812345678" = "012345678" ∧
      normalizeIranPhone "09812345678" = "+9812345678" ∧
      "+98" ++ lastChars 10 "09812345678" = "+989812345678" := by
  decide

end GoCommon.Common