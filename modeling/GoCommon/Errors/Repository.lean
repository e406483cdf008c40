import Mathlib.Data.Option.Basic

/-!
# Repository errors and their classification

The `errors` package declares sentinel errors (`ErrNotFound`, `ErrDuplicate`, …), wraps them in
a `*RepositoryError` (with the operation and the entity) or a `*ServiceError` (with a code and an
HTTP status), and classifies an error with `IsNotFound`, `IsDuplicate`, …, each an `errors.Is`
against one sentinel. `errors.Is` follows `Unwrap` from the error down to the end of the chain and
compares each error on the way with the sentinel by identity.

Every error the package builds unwraps to at most one other and has no `Is` method of its own, so
its chain ends in at most one sentinel and no such error passes two different checks
(`errorsIs_unique`), however deeply `RepositoryError`, `ServiceError` or one `%w` wrap it. A
caller may pass other errors: one that wraps several (`errors.Join`, `fmt.Errorf` with several
`%w`) passes every check one of them passes, so `errors.Join(ErrNotFound, ErrDuplicate)` passes
two, and one with an `Is` method passes whatever that method claims.
-/

namespace GoCommon.Errors

/-- The package's sentinel errors, each an `errors.New` value compared by identity. -/
inductive Sentinel where
  | notFound
  | duplicate
  | conflict
  | invalidInput
  | unauthorized
  | forbidden
  | internal
  | timeout
  | connectionFailed
  | validation
  deriving DecidableEq, Repr

/-- The text of each sentinel. -/
def Sentinel.text : Sentinel → String
  | .notFound => "entity not found"
  | .duplicate => "entity already exists"
  | .conflict => "conflict with current state"
  | .invalidInput => "invalid input"
  | .unauthorized => "unauthorized"
  | .forbidden => "forbidden"
  | .internal => "internal server error"
  | .timeout => "operation timeout"
  | .connectionFailed => "connection failed"
  | .validation => "validation error"

/-- A non-nil Go `error` as the package builds it and as callers may hand it to the checks. -/
inductive GoError where
  /-- One of the package's sentinels. -/
  | sentinel (s : Sentinel)
  /-- An error from elsewhere that unwraps to nothing and has no `Is` method, by its text. -/
  | other (text : String)
  /-- The `*fmt.wrapError` of `fmt.Errorf` with one `%w`, or any error whose `Unwrap() error`
  leads on and that has no `Is` method: its text and the error it wraps. -/
  | wrapped (text : String) (err : GoError)
  /-- `*RepositoryError`: `Op`, `Entity` and `Err`. -/
  | repository (op entity : String) (err : GoError)
  /-- `*ServiceError`: `Code`, `Message`, `StatusCode`, and `Err` (`none` for nil). -/
  | service (code message : String) (statusCode : Int) (err : Option GoError)
  /-- An error whose `Unwrap() []error` gives several, as `errors.Join` and `fmt.Errorf` with
  several `%w` build: its text and the non-nil errors it wraps. -/
  | joined (text : String) (errs : List GoError)
  /-- An error from elsewhere with an `Is(target) bool` method, by the sentinels that method
  claims, and the error its `Unwrap() error` gives, if it has one. -/
  | custom (text : String) (claims : Sentinel → Bool) (err : Option GoError)

/-- `err.Error()`. -/
def GoError.text : GoError → String
  | .sentinel s => s.text
  | .other text => text
  | .wrapped text _ => text
  | .repository op entity err =>
    if entity ≠ "" then op ++ " " ++ entity ++ ": " ++ err.text else op ++ ": " ++ err.text
  | .service _ message _ none => message
  | .service _ message _ (some err) => message ++ ": " ++ err.text
  | .joined text _ => text
  | .custom text _ _ => text

/-- `%v` of an `error`: its text, or `<nil>`. -/
def formatV : Option GoError → String
  | none => "<nil>"
  | some err => err.text

mutual

/-- The loop of `errors.Is(err, target)` for a sentinel `target`: `err` is the sentinel, or its
`Is` method claims it, or an error `Unwrap` leads to from it does. -/
def GoError.is : GoError → Sentinel → Bool
  | .sentinel s, target => s == target
  | .other _, _ => false
  | .wrapped _ err, target => err.is target
  | .repository _ _ err, target => err.is target
  | .service _ _ _ none, _ => false
  | .service _ _ _ (some err), target => err.is target
  | .joined _ errs, target => GoError.anyIs errs target
  | .custom _ claims none, target => claims target
  | .custom _ claims (some err), target => claims target || err.is target

/-- The loop of `errors.Is` over `Unwrap() []error`: one of the errors leads to the sentinel. -/
def GoError.anyIs : List GoError → Sentinel → Bool
  | [], _ => false
  | err :: errs, target => err.is target || GoError.anyIs errs target

end

/-- Every error on the chain unwraps to at most one error and has no `Is` method: the errors the
package builds, wrapped by one `%w` or none. -/
def GoError.SingleChain : GoError → Prop
  | .sentinel _ | .other _ | .service _ _ _ none => True
  | .wrapped _ err | .repository _ _ err | .service _ _ _ (some err) => err.SingleChain
  | .joined _ _ | .custom _ _ _ => False

/-- `errors.Is(err, target)`: a nil `err` is no sentinel. -/
def errorsIs (err : Option GoError) (target : Sentinel) : Bool :=
  match err with
  | none => false
  | some err => err.is target

/-- `IsNotFound(err)`. -/
def isNotFound (err : Option GoError) : Bool := errorsIs err .notFound
/-- `IsDuplicate(err)`. -/
def isDuplicate (err : Option GoError) : Bool := errorsIs err .duplicate
/-- `IsConflict(err)`. -/
def isConflict (err : Option GoError) : Bool := errorsIs err .conflict
/-- `IsInvalidInput(err)`. -/
def isInvalidInput (err : Option GoError) : Bool := errorsIs err .invalidInput
/-- `IsUnauthorized(err)`. -/
def isUnauthorized (err : Option GoError) : Bool := errorsIs err .unauthorized
/-- `IsForbidden(err)`. -/
def isForbidden (err : Option GoError) : Bool := errorsIs err .forbidden
/-- `IsInternal(err)`. -/
def isInternal (err : Option GoError) : Bool := errorsIs err .internal
/-- `IsTimeout(err)`. -/
def isTimeout (err : Option GoError) : Bool := errorsIs err .timeout
/-- `IsValidation(err)`. -/
def isValidation (err : Option GoError) : Bool := errorsIs err .validation

/-- The shape of `NewNotFoundError`, `NewDuplicateError` and `NewConflictError`: a
`*RepositoryError` around a sentinel. -/
def sentinelRepositoryError (s : Sentinel) (entity op : String) : GoError :=
  .repository op entity (.sentinel s)

/-- `NewNotFoundError(entity, op)`. -/
def newNotFoundError (entity op : String) : GoError := sentinelRepositoryError .notFound entity op
/-- `NewDuplicateError(entity, op)`. -/
def newDuplicateError (entity op : String) : GoError := sentinelRepositoryError .duplicate entity op
/-- `NewConflictError(entity, op)`. -/
def newConflictError (entity op : String) : GoError := sentinelRepositoryError .conflict entity op

/-- `NewValidationError(op, message)`: `fmt.Errorf("%w: %s", ErrValidation, message)`. -/
def newValidationError (op message : String) : GoError :=
  .repository op "" (.wrapped ("validation error: " ++ message) (.sentinel .validation))

/-- `NewInternalError(op, err)`: `fmt.Errorf("%w: %v", ErrInternal, err)`, which wraps the
sentinel and only prints the cause. -/
def newInternalError (op : String) (err : Option GoError) : GoError :=
  .repository op "" (.wrapped ("internal server error: " ++ formatV err) (.sentinel .internal))

/-- `NewServiceError(code, message, statusCode, err)`. -/
def newServiceError (code message : String) (statusCode : Int) (err : Option GoError) : GoError :=
  .service code message statusCode err

/-- The shape of the service errors around a sentinel. -/
def sentinelServiceError (code : String) (statusCode : Int) (s : Sentinel) (message : String) :
    GoError :=
  .service code message statusCode (some (.sentinel s))

/-- `NotFoundServiceError(message)`. -/
def notFoundServiceError (message : String) : GoError :=
  sentinelServiceError "NOT_FOUND" 404 .notFound message
/-- `BadRequestServiceError(message)`. -/
def badRequestServiceError (message : String) : GoError :=
  sentinelServiceError "BAD_REQUEST" 400 .invalidInput message
/-- `UnauthorizedServiceError(message)`. -/
def unauthorizedServiceError (message : String) : GoError :=
  sentinelServiceError "UNAUTHORIZED" 401 .unauthorized message
/-- `ForbiddenServiceError(message)`. -/
def forbiddenServiceError (message : String) : GoError :=
  sentinelServiceError "FORBIDDEN" 403 .forbidden message
/-- `ConflictServiceError(message)`. -/
def conflictServiceError (message : String) : GoError :=
  sentinelServiceError "CONFLICT" 409 .conflict message
/-- `ValidationServiceError(message)`. -/
def validationServiceError (message : String) : GoError :=
  sentinelServiceError "VALIDATION_ERROR" 422 .validation message

/-- `InternalServiceError(message, err)`: unlike the others, it wraps the caller's error. -/
def internalServiceError (message : String) (err : Option GoError) : GoError :=
  .service "INTERNAL_ERROR" message 500 err

theorem GoError.is_unique : ∀ (err : GoError), err.SingleChain → ∀ {first second : Sentinel},
    err.is first = true → err.is second = true → first = second
  | .sentinel s, _, _, _, isFirst, isSecond => by
    simp only [GoError.is, beq_iff_eq] at isFirst isSecond
    exact isFirst ▸ isSecond
  | .other _, _, _, _, isFirst, _ => by simp [GoError.is] at isFirst
  | .wrapped _ err, single, _, _, isFirst, isSecond => err.is_unique single isFirst isSecond
  | .repository _ _ err, single, _, _, isFirst, isSecond => err.is_unique single isFirst isSecond
  | .service _ _ _ none, _, _, _, isFirst, _ => by simp [GoError.is] at isFirst
  | .service _ _ _ (some err), single, _, _, isFirst, isSecond =>
    err.is_unique single isFirst isSecond
  | .joined _ _, single, _, _, _, _ => single.elim
  | .custom _ _ _, single, _, _, _, _ => single.elim

/-- `errors.Join(ErrNotFound, ErrDuplicate)` passes both `IsNotFound` and `IsDuplicate`. -/
example : errorsIs (some (.joined "" [.sentinel .notFound, .sentinel .duplicate])) .notFound ∧
    errorsIs (some (.joined "" [.sentinel .notFound, .sentinel .duplicate])) .duplicate := by
  decide

/-- **No error of a single chain passes two checks.** `errors.Is` against two sentinels holds for
the same error only when they are one sentinel, for every error whose `Unwrap` chain is single and
has no `Is` method: `IsNotFound`, `IsDuplicate`, … are mutually exclusive on every error of the
package, however deeply `RepositoryError`, `ServiceError` or one `%w` wrap it. -/
theorem errorsIs_unique {err : Option GoError} {first second : Sentinel}
    (single : ∀ e ∈ err, e.SingleChain) (isFirst : errorsIs err first = true)
    (isSecond : errorsIs err second = true) : first = second := by
  cases err with
  | none => cases isFirst
  | some err => exact err.is_unique (single err rfl) isFirst isSecond

/-- A not-found error is classified as not found. -/
theorem errorsIs_unique_notFound :
    (∀ e ∈ some (newNotFoundError "user" "find"), e.SingleChain) ∧
      errorsIs (some (newNotFoundError "user" "find")) .notFound = true ∧
      errorsIs (some (newNotFoundError "user" "find")) .notFound = true ∧
      Sentinel.notFound = Sentinel.notFound :=
  ⟨fun _ found => by cases found; trivial, rfl, rfl,
    @errorsIs_unique (some (newNotFoundError "user" "find")) .notFound .notFound
      (fun _ found => by cases found; trivial) rfl rfl⟩

end GoCommon.Errors
