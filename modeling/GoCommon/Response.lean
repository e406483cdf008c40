import GoCommon.Context.Fiber

/-!
# The response builder

`response.New()` starts a `Builder` whose response is a success with status 200. Its calls set one
part each: `Success`, `Data`, `WithMeta`, `WithPagination`, `WithTraceID`, `Status`; `Error`,
`ErrorWithDetails` and `ValidationErrors` set the error and clear the success flag. `Send` fills
an empty trace ID from `c.Locals("traceId")` and writes the response with the builder's status,
which fasthttp sends as 200 when it is `0`; when `json.Marshal` refuses the response, `Send`
returns the error instead, which Fiber's default error handler answers with 500
(`statusAnswered`).
The convenience functions (`OK`, `BadRequest`, `NotFound`, …) are one chain of calls each.

After any chain of calls, each part of the sent response is the value of the last call that sets
it, or `New()`'s (`run_fields`). The status and the success flag are set by different calls and
never checked against each other: `Error` without `Status` sends an error with status 200, and
`Status(500)` without `Error` a success. Behind `SetToFiber`, a response with no trace ID of its
own carries the context's (`sent_fields`).

`json.Marshal` is a parameter of `Send` (`encodes`): whether it takes the response. The data, the
metadata and the pagination are values the builder stores and never reads, so they are type
parameters.
-/

namespace GoCommon.Responses

open Auth.Middleware

/-- `ValidationError`. -/
structure ValidationError where
  field : String
  message : String
  code : String
  deriving DecidableEq, Repr

/-- `ErrorInfo`. -/
structure ErrorInfo where
  code : String
  message : String
  details : String
  field : String
  validation : List ValidationError
  deriving DecidableEq, Repr

/-- `Response`, with `interface{}` data of type `α` and the `*Meta` and `*Pagination` it carries
of types `μ` and `π`; nil is `none`. -/
structure Response (α μ π : Type) where
  success : Bool
  data : Option α
  error : Option ErrorInfo
  meta : Option μ
  pagination : Option π
  traceID : String
  deriving DecidableEq, Repr

/-- `Builder`. -/
structure Builder (α μ π : Type) where
  response : Response α μ π
  statusCode : Int
  deriving DecidableEq, Repr

variable {α μ π : Type}

/-- Whether `json.Marshal` takes a response. -/
abbrev Encodes (α μ π : Type) := Response α μ π → Bool

/-- What `Send` returns: the status and the response written, or the error of the encoding. -/
abbrev Sent (α μ π : Type) := Except Unit (Int × Response α μ π)

/-- The status fasthttp writes for `c.Status(code)`: a status left at `0` goes out as 200. -/
def statusSent (code : Int) : Int := if code = 0 then 200 else code

/-- `New()`. -/
def new : Builder α μ π := ⟨⟨true, none, none, none, none, ""⟩, 200⟩

namespace Builder

/-- `b.Success(success)`. -/
def success (b : Builder α μ π) (success : Bool) : Builder α μ π :=
  { b with response := { b.response with success := success } }

/-- `b.Data(data)`. -/
def data (b : Builder α μ π) (data : Option α) : Builder α μ π :=
  { b with response := { b.response with data := data } }

/-- `b.WithMeta(meta)`. -/
def withMeta (b : Builder α μ π) (meta : Option μ) : Builder α μ π :=
  { b with response := { b.response with meta := meta } }

/-- `b.WithPagination(p)`. -/
def withPagination (b : Builder α μ π) (p : Option π) : Builder α μ π :=
  { b with response := { b.response with pagination := p } }

/-- `b.WithTraceID(traceID)`. -/
def withTraceID (b : Builder α μ π) (traceID : String) : Builder α μ π :=
  { b with response := { b.response with traceID := traceID } }

/-- `b.Status(code)`. -/
def status (b : Builder α μ π) (code : Int) : Builder α μ π := { b with statusCode := code }

/-- `b.Error(code, message)`. -/
def error (b : Builder α μ π) (code message : String) : Builder α μ π :=
  { b with response := { b.response with success := false, error := some ⟨code, message, "", "", []⟩ } }

/-- `b.ErrorWithDetails(code, message, details)`. -/
def errorWithDetails (b : Builder α μ π) (code message details : String) : Builder α μ π :=
  { b with response :=
      { b.response with success := false, error := some ⟨code, message, details, "", []⟩ } }

/-- `b.ValidationErrors(errors)`. -/
def validationErrors (b : Builder α μ π) (errors : List ValidationError) : Builder α μ π :=
  { b with response := { b.response with
      success := false, error := some ⟨"VALIDATION_ERROR", "Validation failed", "", "", errors⟩ } }

/-- `b.Build()`. -/
def build (b : Builder α μ π) : Response α μ π := b.response

/-- The response `b.Send(c)` renders on a request whose locals are `locals`: an empty trace ID is
filled from `c.Locals("traceId")` when that holds a text. -/
def sentResponse (b : Builder α μ π) (locals : Locals) : Response α μ π :=
  if b.response.traceID = "" then
    match LocalValue.asString (locals "traceId") with
    | some traceID => { b.response with traceID := traceID }
    | none => b.response
  else b.response

/-- `b.Send(c)`: `c.Status(b.statusCode).JSON(response)`, with `encodes` telling whether
`json.Marshal` takes the response. When it does not, `Send` returns the error, which the app's
error handler answers (with 500 by default). -/
def send (b : Builder α μ π) (encodes : Encodes α μ π) (locals : Locals) : Sent α μ π :=
  if encodes (b.sentResponse locals) then .ok (statusSent b.statusCode, b.sentResponse locals)
  else .error ()

end Builder

/-- The status the client receives for what a handler returned, on an app with Fiber's default
`ErrorHandler`: the status `Send` wrote, or `500 Internal Server Error` for the encoder's error,
which is not a `*fiber.Error`. -/
def statusAnswered : Sent α μ π → Int
  | .ok (status, _) => status
  | .error () => 500

/-- One call of a chain on a builder. -/
inductive Call (α μ π : Type) where
  | success (success : Bool)
  | data (data : Option α)
  | withMeta (meta : Option μ)
  | withPagination (p : Option π)
  | withTraceID (traceID : String)
  | status (code : Int)
  | error (code message : String)
  | errorWithDetails (code message details : String)
  | validationErrors (errors : List ValidationError)

/-- A call on a builder. -/
def Builder.apply (b : Builder α μ π) : Call α μ π → Builder α μ π
  | .success success => b.success success
  | .data data => b.data data
  | .withMeta meta => b.withMeta meta
  | .withPagination p => b.withPagination p
  | .withTraceID traceID => b.withTraceID traceID
  | .status code => b.status code
  | .error code message => b.error code message
  | .errorWithDetails code message details => b.errorWithDetails code message details
  | .validationErrors errors => b.validationErrors errors

/-- A chain of calls, `b.Status(…).Error(…)…`. -/
def Builder.run (b : Builder α μ π) (calls : List (Call α μ π)) : Builder α μ π :=
  calls.foldl Builder.apply b

/-! ## The convenience functions -/

/-- `OK(c, data)`. -/
def ok (encodes : Encodes α μ π) (locals : Locals) (data : Option α) : Sent α μ π :=
  ((new : Builder α μ π).data data).send encodes locals

/-- `OKWithPagination(c, data, pagination)`. -/
def okWithPagination (encodes : Encodes α μ π) (locals : Locals) (data : Option α)
    (pagination : Option π) : Sent α μ π :=
  (((new : Builder α μ π).data data).withPagination pagination).send encodes locals

/-- `Created(c, data)`. -/
def created (encodes : Encodes α μ π) (locals : Locals) (data : Option α) : Sent α μ π :=
  (((new : Builder α μ π).status 201).data data).send encodes locals

/-- `NoContent(c)`: `c.SendStatus(204)`, with no body. -/
def noContent : Int := 204

/-- `BadRequest(c, code, message)`. -/
def badRequest (encodes : Encodes α μ π) (locals : Locals) (code message : String) : Sent α μ π :=
  (((new : Builder α μ π).status 400).error code message).send encodes locals

/-- The error helpers with a fixed code: `New().Status(status).Error(code, message).Send(c)`. -/
def errorReply (status : Int) (code : String) (encodes : Encodes α μ π) (locals : Locals)
    (message : String) : Sent α μ π :=
  (((new : Builder α μ π).status status).error code message).send encodes locals

/-- `Unauthorized(c, message)`. -/
def unauthorized : Encodes α μ π → Locals → String → Sent α μ π := errorReply 401 "UNAUTHORIZED"
/-- `Forbidden(c, message)`. -/
def forbidden : Encodes α μ π → Locals → String → Sent α μ π := errorReply 403 "FORBIDDEN"
/-- `NotFound(c, message)`. -/
def notFound : Encodes α μ π → Locals → String → Sent α μ π := errorReply 404 "NOT_FOUND"
/-- `Conflict(c, message)`. -/
def conflict : Encodes α μ π → Locals → String → Sent α μ π := errorReply 409 "CONFLICT"
/-- `InternalError(c, message)`. -/
def internalError : Encodes α μ π → Locals → String → Sent α μ π := errorReply 500 "INTERNAL_ERROR"
/-- `ServiceUnavailable(c, message)`. -/
def serviceUnavailable : Encodes α μ π → Locals → String → Sent α μ π :=
  errorReply 503 "SERVICE_UNAVAILABLE"

/-- `UnprocessableEntity(c, errors)`. -/
def unprocessableEntity (encodes : Encodes α μ π) (locals : Locals)
    (errors : List ValidationError) : Sent α μ π :=
  (((new : Builder α μ π).status 422).validationErrors errors).send encodes locals

/-! ## Chains of calls -/

section Chains

/-- The status a call sets. -/
def Call.statusSet : Call α μ π → Option Int
  | .status code => some code
  | _ => none

/-- The success flag a call sets: its own for `Success`, false for the three error calls. -/
def Call.successSet : Call α μ π → Option Bool
  | .success flag => some flag
  | .error _ _ | .errorWithDetails _ _ _ | .validationErrors _ => some false
  | _ => none

/-- The error a call sets. -/
def Call.errorSet : Call α μ π → Option (Option ErrorInfo)
  | .error code message => some (some ⟨code, message, "", "", []⟩)
  | .errorWithDetails code message details => some (some ⟨code, message, details, "", []⟩)
  | .validationErrors errors =>
    some (some ⟨"VALIDATION_ERROR", "Validation failed", "", "", errors⟩)
  | _ => none

/-- The data a call sets. -/
def Call.dataSet : Call α μ π → Option (Option α)
  | .data value => some value
  | _ => none

/-- The metadata a call sets. -/
def Call.metaSet : Call α μ π → Option (Option μ)
  | .withMeta value => some value
  | _ => none

/-- The pagination a call sets. -/
def Call.paginationSet : Call α μ π → Option (Option π)
  | .withPagination p => some p
  | _ => none

/-- The trace ID a call sets. -/
def Call.traceIDSet : Call α μ π → Option String
  | .withTraceID value => some value
  | _ => none

@[simp]
theorem run_nil (b : Builder α μ π) : b.run [] = b := rfl

@[simp]
theorem run_cons (b : Builder α μ π) (call : Call α μ π) (calls : List (Call α μ π)) :
    b.run (call :: calls) = (b.apply call).run calls := rfl

/-- A part of the builder that each call either sets (`set`) or leaves alone is, after a chain,
the value of the last call that sets it. -/
theorem run_last {β : Type} (get : Builder α μ π → β) (set : Call α μ π → Option β)
    (step : ∀ b call, get (b.apply call) = (set call).getD (get b)) (b : Builder α μ π)
    (calls : List (Call α μ π)) :
    get (b.run calls) = ((calls.filterMap set).getLast?).getD (get b) := by
  induction calls generalizing b with
  | nil => rfl
  | cons call calls ih =>
    rw [run_cons, ih, step]
    cases sets : set call with
    | none => rw [List.filterMap_cons_none sets, Option.getD_none]
    | some value =>
      rw [List.filterMap_cons_some sets, List.getLast?_cons, Option.getD_some, Option.getD_some]

/-- **Each part of the built response is set by the last call that sets it.** After a chain of
calls on `New()`, the status is the last `Status` code (200 without one), the success flag the
last `Success` value or false after a later error call (true without either), the error the last
error call's, and the data, the metadata, the pagination and the trace ID the last values set. -/
theorem run_fields (calls : List (Call α μ π)) :
    let b := (new : Builder α μ π).run calls
    b.statusCode = ((calls.filterMap Call.statusSet).getLast?).getD 200 ∧
    b.response.success = ((calls.filterMap Call.successSet).getLast?).getD true ∧
    b.response.error = ((calls.filterMap Call.errorSet).getLast?).getD none ∧
    b.response.data = ((calls.filterMap Call.dataSet).getLast?).getD none ∧
    b.response.meta = ((calls.filterMap Call.metaSet).getLast?).getD none ∧
    b.response.pagination = ((calls.filterMap Call.paginationSet).getLast?).getD none ∧
    b.response.traceID = ((calls.filterMap Call.traceIDSet).getLast?).getD "" := by
  refine ⟨run_last _ _ ?_ _ _, run_last (·.response.success) _ ?_ _ _,
    run_last (·.response.error) _ ?_ _ _, run_last (·.response.data) _ ?_ _ _,
    run_last (·.response.meta) _ ?_ _ _, run_last (·.response.pagination) _ ?_ _ _,
    run_last (·.response.traceID) _ ?_ _ _⟩ <;>
  · intro b call
    cases call <;> rfl

/-- The response `Send` renders: the builder's, with an empty trace ID filled from
`c.Locals("traceId")` when that holds a text. -/
theorem sentResponse_eq (b : Builder α μ π) (locals : Locals) :
    b.sentResponse locals = { b.response with traceID :=
      if b.response.traceID = "" then (LocalValue.asString (locals "traceId")).getD ""
      else b.response.traceID } := by
  obtain ⟨response, statusCode⟩ := b
  unfold Builder.sentResponse
  split_ifs with empty
  · cases LocalValue.asString (locals "traceId") <;> simp [← empty]
  · rfl

/-- `SetToFiber` copies the context's trace ID, when it holds one, under the key `Send` reads. -/
theorem traceId_setToFiber (c : Context.FiberCtx) (ctx : Context.Ctx) :
    LocalValue.asString ((Context.setToFiber c ctx).locals "traceId") =
      if (Context.getTraceID ctx).2 then some (Context.getTraceID ctx).1
      else LocalValue.asString (c.locals "traceId") := by
  simp (disch := decide) only [Context.setToFiber, Context.setIfPresent_other,
    Context.setIfPresent_self]
  split <;> rfl

/-- `Error` without `Status` sends an error with status 200. -/
example : ((new : Builder Unit Unit Unit).run [.error "CONFLICT" "taken"]).send (fun _ => true)
    (fun _ => none) = .ok (200, ⟨false, none, some ⟨"CONFLICT", "taken", "", "", []⟩, none, none, ""⟩) :=
  rfl

end Chains

end GoCommon.Responses
