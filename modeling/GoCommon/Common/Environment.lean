import GoCommon.Http.Validation
import GoCommon.Errors.Service

/-!
# The application environment

`GetEnvironment()` reads the first of `APP_ENV`, `ENV` and `ENVIRONMENT` that is set (not empty),
lower-cased, and names it: `development`/`dev`, `staging`/`stage`, `production`/`prod`,
`test`/`testing`. Any other name, and no variable at all, is development: "default to
development for safety". `ShouldShowDetailedErrors()` holds in development and test, and the
package's documentation passes `IsDevelopment()` as the `isDevelopment` flag of
`GenerateBaseResponseWithServiceError`.

The default fails open: detailed errors are hidden only when the variable read names
production or staging, and the documented response builder hides a service error's internals
only when it names production, staging or test. An unset environment and a misspelt one (`prd`,
`live`) show the technical message, the wrapped error, the details and the stack to clients
(`detailedErrors_unless_named`).

`os.Getenv` is an argument (`env`, `""` for an unset variable). `strings.ToLower` is
`Http.toLower`: it keeps the runes that lower outside ASCII, and such a rune makes the text
differ from every name above both in Go and in the model.
-/

namespace GoCommon.Common

open ServiceErrors

/-- `Environment`, by the four values `GetEnvironment` returns. -/
inductive Environment where
  | development
  | staging
  | production
  | test
  deriving DecidableEq, Repr

/-- The name `GetEnvironment` classifies: the first variable that is set, lower-cased. -/
def selectedEnv (env : String → String) : String :=
  let name := Http.toLower (env "APP_ENV")
  let name := if name = "" then Http.toLower (env "ENV") else name
  if name = "" then Http.toLower (env "ENVIRONMENT") else name

/-- The `switch` of `GetEnvironment`. -/
def environmentOf (name : String) : Environment :=
  if name = "development" ∨ name = "dev" then .development
  else if name = "staging" ∨ name = "stage" then .staging
  else if name = "production" ∨ name = "prod" then .production
  else if name = "test" ∨ name = "testing" then .test
  else .development

/-- `GetEnvironment()`. -/
def getEnvironment (env : String → String) : Environment := environmentOf (selectedEnv env)

/-- `IsDevelopment()`. -/
def isDevelopment (env : String → String) : Bool := getEnvironment env == .development
/-- `IsProduction()`. -/
def isProduction (env : String → String) : Bool := getEnvironment env == .production
/-- `IsStaging()`. -/
def isStaging (env : String → String) : Bool := getEnvironment env == .staging
/-- `IsTest()`. -/
def isTest (env : String → String) : Bool := getEnvironment env == .test

/-- `ShouldShowDetailedErrors()`. -/
def shouldShowDetailedErrors (env : String → String) : Bool := isDevelopment env || isTest env

/-- The names that are not development. -/
theorem environmentOf_ne_development_iff (name : String) :
    environmentOf name ≠ .development ↔
      name ∈ ["staging", "stage", "production", "prod", "test", "testing"] := by
  unfold environmentOf
  split_ifs <;> aesop

/-- The names that hide detailed errors. -/
theorem environmentOf_hides_iff (name : String) :
    (environmentOf name ≠ .development ∧ environmentOf name ≠ .test) ↔
      name ∈ ["staging", "stage", "production", "prod"] := by
  unfold environmentOf
  split_ifs <;> aesop

/-- **Detailed errors unless the environment is named.** `ShouldShowDetailedErrors()` is false
exactly when the first of `APP_ENV`, `ENV` and `ENVIRONMENT` that is set names production or
staging, and the documented response `GenerateBaseResponseWithServiceError(…, err,
IsDevelopment())` of a service error leaves out its details exactly when that variable names
production, staging or test. An unset environment, or any other name, exposes them. -/
theorem detailedErrors_unless_named {R C : Type} (env : String → String)
    (translate : String → String) (result : R) (success : Bool) (resultCode : C)
    (err : ServiceError) :
    (shouldShowDetailedErrors env = false ↔
      selectedEnv env ∈ ["staging", "stage", "production", "prod"]) ∧
    ((generateBaseResponseWithServiceError translate result success resultCode (some err)
        (isDevelopment env)).error = none ↔
      selectedEnv env ∈ ["staging", "stage", "production", "prod", "test", "testing"]) := by
  constructor
  · rw [← environmentOf_hides_iff]
    simp [shouldShowDetailedErrors, isDevelopment, isTest, getEnvironment]
  · rw [← environmentOf_ne_development_iff]
    by_cases development : getEnvironment env = .development <;>
      simp_all [generateBaseResponseWithServiceError, isDevelopment, getEnvironment]

/-- With no variable set, a service error's response carries its details. -/
example : (generateBaseResponseWithServiceError id () false 0 (some newUnexpectedError)
    (isDevelopment fun _ => "")).error =
      some [("message", .string "An unexpected error occurred"),
        ("code", .string "unexpected_error")] := rfl

end GoCommon.Common
