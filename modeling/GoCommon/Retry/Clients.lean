import GoCommon.Retry.Engine
import Mathlib.Algebra.Group.Int

/-!
# The HTTP client and the gRPC retry interceptor

Both outbound clients hand their attempts to the loop of `GoCommon.Retry.Engine`; what is left
to each is how it reads an attempt's outcome and what it returns when the loop ends.

`httpclient.Client.Do` retries every error of `doRequest` and every response whose status is in
`RetryableErrors`; any other response is returned. At exhaustion it logs `lastErr.Error()`
before building the exhaustion error, so a loop that made no attempt dereferences a nil
error: the model returns `Result.panic` there. The interceptor of
`grpcclient.createRetryInterceptor` returns `nil` on success and a non-retryable error as it
is, and wraps `lastErr`, nil or not, at exhaustion.

`httpclient.NewServiceUnavailableError` is not among the repository's sources; the HTTP
exhaustion error is modelled like the gRPC package's `ServiceUnavailableError`, naming the
service and wrapping the last failure, as the design asks. The delays are the clients'
`calculateBackoff`, a parameter here (see the engine). An attempt's outcome is what
`doRequest` (resp. the invoker) returns for this request at that attempt, so the request
itself does not appear.
-/

namespace GoCommon.Retry

namespace HttpClient

/-- `httpclient.RetryConfig`, the fields the retry loop reads. -/
structure RetryConfig where
  maxRetries : Int
  retryableErrors : List Int
  deriving DecidableEq, Repr

/-- `httpclient.DefaultRetryConfig()`. -/
def defaultRetryConfig : RetryConfig where
  maxRetries := 3
  retryableErrors := [408, 429, 500, 502, 503, 504]

/-- `httpclient.Config`. -/
structure Config where
  baseURL : String
  serviceName : String
  timeout : Int
  retryConfig : RetryConfig

/-- `httpclient.Client`. -/
structure Client where
  timeout : Int
  retryConfig : RetryConfig
  baseURL : String
  serviceName : String

/-- `httpclient.NewClient`: the defaults replace a zero timeout and a zero retry budget. -/
def newClient (cfg : Config) : Client :=
  let timeout := if cfg.timeout = 0 then 30 * 1000000000 else cfg.timeout
  let retryConfig := if cfg.retryConfig.maxRetries = 0 then defaultRetryConfig else cfg.retryConfig
  { timeout, retryConfig, baseURL := cfg.baseURL, serviceName := cfg.serviceName }

/-- `httpclient.Response`, the fields `Do` reads. -/
structure Response where
  statusCode : Int
  body : String
  deriving DecidableEq, Repr

/-- The errors `Do` stores in `lastErr`. -/
inductive Failure where
  /-- An error returned by `doRequest`. -/
  | request (err : String)
  /-- `fmt.Errorf("HTTP %d: %s", resp.StatusCode, string(resp.Body))`. -/
  | status (statusCode : Int) (body : String)
  deriving DecidableEq, Repr

/-- The text `Error()` gives for a failure. -/
def Failure.error : Failure → String
  | .request err => err
  | .status statusCode body => "HTTP " ++ toString statusCode ++ ": " ++ body

/-- Modelled from the spec: `httpclient.NewServiceUnavailableError` is not in the sources; the
exhaustion error names the target service and wraps the last underlying error. -/
structure ServiceUnavailableError where
  serviceName : String
  err : Failure
  deriving DecidableEq, Repr

/-- What `Do` gives back. -/
inductive Result where
  /-- `(resp, nil)`. -/
  | ok (resp : Response)
  /-- `(nil, ctx.Err())`. -/
  | contextError
  /-- `(nil, NewServiceUnavailableError(c.serviceName, lastErr))`. -/
  | serviceUnavailable (err : ServiceUnavailableError)
  /-- A run-time panic: `lastErr.Error()` on a nil `lastErr`. -/
  | panic
  deriving DecidableEq, Repr

/-- `c.shouldRetry(statusCode)`. -/
def Client.shouldRetry (c : Client) (statusCode : Int) : Bool :=
  c.retryConfig.retryableErrors.contains statusCode

/-- How `Do` reads the outcome of `doRequest`. -/
def Client.verdict (c : Client) : Except String Response → Verdict Response Failure
  | .error err => .retry (.request err)
  | .ok resp =>
    if c.shouldRetry resp.statusCode then .retry (.status resp.statusCode resp.body)
    else .stop resp

/-- `c.Do(ctx, req)`: the events of the call and its result. -/
def Client.Do (c : Client) (calculateBackoff : Nat → Int)
    (w : World (Except String Response)) : List Event × Result :=
  let call := run calculateBackoff c.verdict w c.retryConfig.maxRetries
  (call.1, match call.2 with
    | .returned resp => .ok resp
    | .cancelled => .contextError
    | .exhausted none => .panic
    | .exhausted (some lastErr) => .serviceUnavailable ⟨c.serviceName, lastErr⟩)

theorem Client.verdict_stop {c : Client} {outcome : Except String Response} {resp : Response} :
    c.verdict outcome = .stop resp ↔ outcome = .ok resp ∧ c.shouldRetry resp.statusCode = false := by
  cases outcome with
  | error err => simp [verdict]
  | ok r =>
    by_cases retried : c.shouldRetry r.statusCode <;> simp [verdict, retried] <;>
      rintro rfl <;> simpa using retried

theorem Client.verdict_retry {c : Client} {outcome : Except String Response}
    {failure : Failure} :
    c.verdict outcome = .retry failure ↔
      (∃ err, outcome = .error err ∧ failure = .request err) ∨
      (∃ resp, outcome = .ok resp ∧ c.shouldRetry resp.statusCode = true ∧
        failure = .status resp.statusCode resp.body) := by
  cases outcome with
  | error err => simp [verdict, @eq_comm _ failure]
  | ok r => by_cases retried : c.shouldRetry r.statusCode <;> simp [verdict, retried, @eq_comm _ failure]

/-- The retry contract of `Do` for a budget `k ≥ 0`: attempts are made one after another, attempt
`i ≥ 1` after a wait of `calculateBackoff i`, and the call ends in one of three ways. It returns
the response of attempt `i ≤ k`, the last one made, whose status is not retryable; or the wait
before attempt `i ≤ k` is cancelled, `ctx.Err()` is returned and no attempt follows; or all
`k + 1` attempts fail and the exhaustion error names the service and wraps the failure of
attempt `k`: its error, or the `HTTP <status>: <body>` error of its retryable response. -/
def Client.RetryContract (c : Client) (calculateBackoff : Nat → Int)
    (w : World (Except String Response)) (k : Nat) : Prop :=
  (∃ i ≤ k, Reached c.verdict w 0 i ∧ Passes w i ∧
    ∃ resp, w.outcome i = .ok resp ∧ c.shouldRetry resp.statusCode = false ∧
      c.Do calculateBackoff w = (trace calculateBackoff 0 (i + 1), .ok resp)) ∨
  (∃ i ≤ k, Reached c.verdict w 0 i ∧ 0 < i ∧ w.ctxWins i = true ∧
    c.Do calculateBackoff w =
      (trace calculateBackoff 0 i ++ [.wait i (calculateBackoff i)], .contextError)) ∨
  (Reached c.verdict w 0 (k + 1) ∧
    ((∃ err, w.outcome k = .error err ∧
        c.Do calculateBackoff w = (trace calculateBackoff 0 (k + 1),
          .serviceUnavailable ⟨c.serviceName, .request err⟩)) ∨
      (∃ resp, w.outcome k = .ok resp ∧ c.shouldRetry resp.statusCode = true ∧
        c.Do calculateBackoff w = (trace calculateBackoff 0 (k + 1),
          .serviceUnavailable ⟨c.serviceName, .status resp.statusCode resp.body⟩))))

end HttpClient

namespace GrpcClient

/-- A `codes.Code`. -/
abbrev Code := UInt32

/-- `codes.DeadlineExceeded`. -/
def DeadlineExceeded : Code := 4
/-- `codes.ResourceExhausted`. -/
def ResourceExhausted : Code := 8
/-- `codes.Internal`. -/
def Internal : Code := 13
/-- `codes.Unavailable`. -/
def Unavailable : Code := 14

/-- `grpcclient.RetryConfig`, the fields the retry loop reads. -/
structure RetryConfig where
  maxRetries : Int
  retryableCodes : List Code
  deriving DecidableEq, Repr

/-- `grpcclient.DefaultRetryConfig()`. -/
def defaultRetryConfig : RetryConfig where
  maxRetries := 3
  retryableCodes := [Unavailable, ResourceExhausted, DeadlineExceeded, Internal]

/-- `grpcclient.Config`, the fields `NewClient` passes to the retry interceptor. -/
structure Config where
  target : String
  serviceName : String
  retryConfig : RetryConfig

/-- The retry configuration `NewClient` gives `createRetryInterceptor`: the default one replaces
a zero budget. -/
def newClientRetryConfig (cfg : Config) : RetryConfig :=
  if cfg.retryConfig.maxRetries = 0 then defaultRetryConfig else cfg.retryConfig

/-- A non-nil error of the invoker, with the code `status.FromError` reads from it. -/
structure RpcError where
  code : Code
  message : String
  deriving DecidableEq, Repr

/-- `grpcclient.ServiceUnavailableError`; `err` is nil when no invocation was made. -/
structure ServiceUnavailableError where
  serviceName : String
  err : Option RpcError
  deriving DecidableEq, Repr

/-- What the interceptor returns. -/
inductive Result where
  /-- `nil`. -/
  | ok
  /-- An invocation's own error, unchanged. -/
  | error (err : RpcError)
  /-- `ctx.Err()`. -/
  | contextError
  /-- `NewServiceUnavailableError(serviceName, lastErr)`. -/
  | serviceUnavailable (err : ServiceUnavailableError)
  deriving DecidableEq, Repr

/-- `shouldRetryCode(code, retryableCodes)`. -/
def shouldRetryCode (code : Code) (retryableCodes : List Code) : Bool :=
  retryableCodes.contains code

/-- How the interceptor reads what the invoker returns (`none` is a nil error). -/
def verdict (cfg : RetryConfig) : Option RpcError → Verdict (Option RpcError) RpcError
  | none => .stop none
  | some err => if shouldRetryCode err.code cfg.retryableCodes then .retry err else .stop (some err)

/-- The unary interceptor `createRetryInterceptor(logger, serviceName, cfg)` on one call: its
invocations and its result. -/
def createRetryInterceptor (serviceName : String) (cfg : RetryConfig)
    (calculateBackoff : Nat → Int) (w : World (Option RpcError)) : List Event × Result :=
  let call := run calculateBackoff (verdict cfg) w cfg.maxRetries
  (call.1, match call.2 with
    | .returned none => .ok
    | .returned (some err) => .error err
    | .cancelled => .contextError
    | .exhausted lastErr => .serviceUnavailable ⟨serviceName, lastErr⟩)

theorem verdict_stop {cfg : RetryConfig} {outcome result : Option RpcError} :
    verdict cfg outcome = .stop result ↔
      outcome = result ∧ ∀ err, outcome = some err →
        shouldRetryCode err.code cfg.retryableCodes = false := by
  cases outcome with
  | none => simp [verdict]
  | some err =>
    by_cases retried : shouldRetryCode err.code cfg.retryableCodes <;> simp [verdict, retried]

theorem verdict_retry {cfg : RetryConfig} {outcome : Option RpcError} {failure : RpcError} :
    verdict cfg outcome = .retry failure ↔
      outcome = some failure ∧ shouldRetryCode failure.code cfg.retryableCodes = true := by
  cases outcome with
  | none => simp [verdict]
  | some err =>
    by_cases retried : shouldRetryCode err.code cfg.retryableCodes <;>
      simp [verdict, retried, @eq_comm _ failure] <;> rintro rfl <;> simpa using retried

/-- The retry contract of the unary interceptor for a budget `k ≥ 0`: invocations are made one
after another, invocation `i ≥ 1` after a wait of `calculateBackoff i`, and the call ends in one
of four ways. Invocation `i ≤ k` succeeds and `nil` is returned; or it fails with a code that
is not retryable and its own error is returned; or the wait before invocation `i ≤ k` is
cancelled, `ctx.Err()` is returned and no invocation follows; or all `k + 1` invocations fail
with retryable codes and the exhaustion error names the service and wraps the error of
invocation `k`. -/
def RetryContract (serviceName : String) (cfg : RetryConfig) (calculateBackoff : Nat → Int)
    (w : World (Option RpcError)) (k : Nat) : Prop :=
  (∃ i ≤ k, Reached (verdict cfg) w 0 i ∧ Passes w i ∧ w.outcome i = none ∧
    createRetryInterceptor serviceName cfg calculateBackoff w =
      (trace calculateBackoff 0 (i + 1), .ok)) ∨
  (∃ i ≤ k, Reached (verdict cfg) w 0 i ∧ Passes w i ∧ ∃ err, w.outcome i = some err ∧
    shouldRetryCode err.code cfg.retryableCodes = false ∧
    createRetryInterceptor serviceName cfg calculateBackoff w =
      (trace calculateBackoff 0 (i + 1), .error err)) ∨
  (∃ i ≤ k, Reached (verdict cfg) w 0 i ∧ 0 < i ∧ w.ctxWins i = true ∧
    createRetryInterceptor serviceName cfg calculateBackoff w =
      (trace calculateBackoff 0 i ++ [.wait i (calculateBackoff i)], .contextError)) ∨
  (Reached (verdict cfg) w 0 (k + 1) ∧ ∃ err, w.outcome k = some err ∧
    shouldRetryCode err.code cfg.retryableCodes = true ∧
    createRetryInterceptor serviceName cfg calculateBackoff w =
      (trace calculateBackoff 0 (k + 1), .serviceUnavailable ⟨serviceName, some err⟩))

end GrpcClient

/-- Both `NewClient`s keep a budget of `-1`, since they only replace a zero one. A call through
the HTTP client then makes no attempt and panics on the nil `lastErr`; the gRPC interceptor
makes no invocation and returns an exhaustion error that wraps nil. -/
theorem newClient_negative_budget (cfg : HttpClient.Config) (grpcCfg : GrpcClient.Config)
    (calculateBackoff : Nat → Int) (w : World (Except String HttpClient.Response))
    (v : World (Option GrpcClient.RpcError)) :
    (HttpClient.newClient
        { cfg with retryConfig := { cfg.retryConfig with maxRetries := -1 } }).Do
        calculateBackoff w = ([], .panic) ∧
    GrpcClient.createRetryInterceptor grpcCfg.serviceName
        (GrpcClient.newClientRetryConfig
          { grpcCfg with retryConfig := { grpcCfg.retryConfig with maxRetries := -1 } })
        calculateBackoff v =
      ([], .serviceUnavailable ⟨grpcCfg.serviceName, none⟩) := by
  constructor
  · simp [HttpClient.newClient, HttpClient.Client.Do, run_of_neg]
  · simp [GrpcClient.newClientRetryConfig, GrpcClient.createRetryInterceptor, run_of_neg]

end GoCommon.Retry
