import GoCommon.Errors.Repository
import GoCommon.Audit.Changes

/-!
# Service errors in API responses

A `service_errors.ServiceError` carries an end-user message and a code, which clients see, and a
technical message, the error it wraps, details and a stack, which are for developers. Its
builders `WithError`, `WithDetails` and `WithStack` set one field each; `WithError` also fills an
empty technical message with the error's text. `GetDetails(isDevelopment)` lists the message and
the code, and in development the other fields that are set. `GenerateBaseResponseWithServiceError`
puts the translation of `errors.<Code>` (or the end-user message, for an error without a code) in
the response's message, and `GetDetails(true)` in its `Error` only in development.

Whatever builders built the error, a production response depends on its code and end-user
message only: the technical message, the wrapped error, the details and the stack never reach it
(`production_response_of_build`). In development the builders compose so that the technical
message keeps the first text it was given, while the wrapped error is the last one passed, so the
two entries of a development response can name different errors (`build_fields`).

`i18n.T(ctx, key)` for the request's context is a parameter (`translate`), and a details map is
the list of its entries, with the `interface{}` values of `Audit.JsonAny`.
-/

namespace GoCommon.ServiceErrors

open Errors Audit

/-- `*ServiceError`, with `Err` and `Details` `none` for nil. -/
structure ServiceError where
  endUserMessage : String
  technicalMessage : String
  err : Option GoError
  code : String
  details : Option (List (String × JsonAny))
  stack : String

/-- `s.Error()`: the end-user message. -/
def ServiceError.error (s : ServiceError) : String := s.endUserMessage

/-- `NewServiceError(code, endUserMsg, technicalMsg)`. -/
def newServiceError (code endUserMsg technicalMsg : String) : ServiceError :=
  ⟨endUserMsg, technicalMsg, none, code, none, ""⟩

/-- `s.WithError(err)`. -/
def ServiceError.withError (s : ServiceError) (err : Option GoError) : ServiceError :=
  let s := { s with err := err }
  match err with
  | some e => if s.technicalMessage = "" then { s with technicalMessage := e.text } else s
  | none => s

/-- `s.WithDetails(details)`. -/
def ServiceError.withDetails (s : ServiceError) (details : Option (List (String × JsonAny))) :
    ServiceError :=
  { s with details := details }

/-- `s.WithStack(stack)`. -/
def ServiceError.withStack (s : ServiceError) (stack : String) : ServiceError :=
  { s with stack := stack }

/-- `s.GetDetails(isDevelopment)`, as the list of its entries in the order the source adds
them. -/
def ServiceError.getDetails (s : ServiceError) (isDevelopment : Bool) :
    List (String × JsonAny) :=
  [("message", .string s.endUserMessage), ("code", .string s.code)] ++
    if isDevelopment then
      (if s.technicalMessage ≠ "" then [("technical_message", .string s.technicalMessage)]
        else []) ++
      (match s.err with
        | some err => [("error", .string err.text)]
        | none => []) ++
      (match s.details with
        | some details => [("details", .object details)]
        | none => []) ++
      (if s.stack ≠ "" then [("stack", .string s.stack)] else [])
    else []

/-- `NewUnexpectedError()`. -/
def newUnexpectedError : ServiceError :=
  newServiceError "unexpected_error" "An unexpected error occurred" ""
/-- `NewRecordNotFoundError()`. -/
def newRecordNotFoundError : ServiceError :=
  newServiceError "record_not_found" "Record not found" ""
/-- `NewPermissionDeniedError()`. -/
def newPermissionDeniedError : ServiceError :=
  newServiceError "permission_denied" "Permission denied" ""
/-- `NewValidationError(msg)`. -/
def newValidationError (msg : String) : ServiceError := newServiceError "validation_error" msg ""
/-- `NewTokenError(code, msg)`. -/
def newTokenError (code msg : String) : ServiceError := newServiceError code msg ""
/-- `Errorf(code, format, args...)`, given the text `fmt.Sprintf` makes. -/
def errorf (code formatted : String) : ServiceError := newServiceError code formatted ""

/-- One builder call. -/
inductive Build where
  | withError (err : Option GoError)
  | withDetails (details : Option (List (String × JsonAny)))
  | withStack (stack : String)

/-- A builder call on an error. -/
def ServiceError.apply (s : ServiceError) : Build → ServiceError
  | .withError err => s.withError err
  | .withDetails details => s.withDetails details
  | .withStack stack => s.withStack stack

/-- A chain of builder calls, `s.WithError(…).WithStack(…)…`. -/
def ServiceError.build (s : ServiceError) (calls : List Build) : ServiceError :=
  calls.foldl ServiceError.apply s

/-- The helper package's `BaseHttpResponse`, without the validation errors this helper leaves
nil; `Error` is nil or a details map. -/
structure BaseHttpResponse (R C : Type) where
  result : R
  success : Bool
  resultCode : C
  message : String
  error : Option (List (String × JsonAny))

/-- `GenerateBaseResponseWithServiceError(ctx, result, success, resultCode, err, isDevelopment)`,
with `translate` the `i18n.T(ctx, ·)` of the request. -/
def generateBaseResponseWithServiceError {R C : Type} (translate : String → String) (result : R)
    (success : Bool) (resultCode : C) (err : Option ServiceError) (isDevelopment : Bool) :
    BaseHttpResponse R C :=
  let response : BaseHttpResponse R C := ⟨result, success, resultCode, "", none⟩
  match err with
  | none => response
  | some err =>
    let response := { response with
      message := if err.code ≠ "" then translate ("errors." ++ err.code) else err.endUserMessage }
    if isDevelopment then { response with error := some (err.getDetails true) } else response

/-- The error a builder call passes to `WithError`. -/
def Build.errorSet : Build → Option (Option GoError)
  | .withError err => some err
  | _ => none

/-- The text a builder call may give the technical message. -/
def Build.errorText : Build → Option String
  | .withError (some err) => some err.text
  | _ => none

/-- The details a builder call sets. -/
def Build.detailsSet : Build → Option (Option (List (String × JsonAny)))
  | .withDetails details => some details
  | _ => none

/-- The stack a builder call sets. -/
def Build.stackSet : Build → Option String
  | .withStack stack => some stack
  | _ => none

section Builders

variable (calls : List Build)

@[simp]
theorem build_nil (s : ServiceError) : s.build [] = s := rfl

@[simp]
theorem build_cons (s : ServiceError) (call : Build) :
    s.build (call :: calls) = (s.apply call).build calls := rfl

@[simp]
theorem apply_code (s : ServiceError) (call : Build) : (s.apply call).code = s.code := by
  cases call with
  | withError err => cases err <;> simp [ServiceError.apply, ServiceError.withError]; split <;> rfl
  | withDetails _ | withStack _ => rfl

@[simp]
theorem apply_endUserMessage (s : ServiceError) (call : Build) :
    (s.apply call).endUserMessage = s.endUserMessage := by
  cases call with
  | withError err => cases err <;> simp [ServiceError.apply, ServiceError.withError]; split <;> rfl
  | withDetails _ | withStack _ => rfl

/-- The builders never change what clients see: the code and the end-user message. -/
theorem build_public (s : ServiceError) :
    (s.build calls).code = s.code ∧ (s.build calls).endUserMessage = s.endUserMessage := by
  induction calls generalizing s with
  | nil => exact ⟨rfl, rfl⟩
  | cons call calls ih => simpa using ih (s.apply call)

end Builders

/-- **A production response shows no internals.** Whatever chain of `WithError`, `WithDetails`
and `WithStack` built a service error, its production response carries the translation of
`errors.<Code>` (or the end-user message, for an error without a code) and no `Error`: it is the
same as for the error before the calls, and the technical message, the wrapped error, the details
and the stack never reach it. -/
theorem production_response_of_build {R C : Type} (translate : String → String) (result : R)
    (success : Bool) (resultCode : C) (base : ServiceError) (calls : List Build) :
    generateBaseResponseWithServiceError translate result success resultCode
        (some (base.build calls)) false =
      ⟨result, success, resultCode,
        if base.code ≠ "" then translate ("errors." ++ base.code) else base.endUserMessage,
        none⟩ := by
  obtain ⟨sameCode, sameMessage⟩ := build_public calls base
  simp only [generateBaseResponseWithServiceError, sameCode, sameMessage]
  rfl

/-- **How the builders compose.** After a chain of calls, the technical message is the first
non-empty text among the one the error was made with and those of the errors passed to
`WithError`; the wrapped error, the details and the stack are those of the last call that set
them. A development response can so show a technical message from the first error and an `error`
entry from the last, and a `WithError(nil)` drops the `error` entry and keeps the technical
message. -/
theorem build_fields (base : ServiceError) (calls : List Build) :
    (base.build calls).technicalMessage =
        ((base.technicalMessage :: calls.filterMap Build.errorText).find? (· ≠ "")).getD "" ∧
      (base.build calls).err = ((calls.filterMap Build.errorSet).getLast?).getD base.err ∧
      (base.build calls).details = ((calls.filterMap Build.detailsSet).getLast?).getD base.details ∧
      (base.build calls).stack = ((calls.filterMap Build.stackSet).getLast?).getD base.stack := by
  induction calls generalizing base with
  | nil =>
    by_cases empty : base.technicalMessage = "" <;> simp [empty]
  | cons call calls ih =>
    obtain ⟨technical, wrapped, details, stack⟩ := ih (base.apply call)
    rw [build_cons, technical, wrapped, details, stack]
    cases call with
    | withError err =>
      by_cases empty : base.technicalMessage = "" <;> cases err <;>
        simp [ServiceError.apply, ServiceError.withError, Build.errorText, Build.errorSet,
          Build.detailsSet, Build.stackSet, List.getLast?_cons, empty]
    | withDetails _ | withStack _ =>
      simp [ServiceError.apply, ServiceError.withDetails, ServiceError.withStack, Build.errorText,
        Build.errorSet, Build.detailsSet, Build.stackSet, List.getLast?_cons]

end GoCommon.ServiceErrors
