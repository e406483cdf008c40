import GoCommon.Context.Fiber

/-!
# The request-ID middleware

`RequestID(config...)` takes the request's ID from the configured header (`X-Request-ID` by
default), or from the configured generator (`uuid.New().String()` by default) when the header is
empty, stores it in `c.Locals` under the configured `ContextKey` (`request_id` by default) and
sets it as a response header. A configuration passed with an empty header name, an empty context
key or a nil generator gets the default for it. `GetRequestID(c)` reads `c.Locals("request_id")`,
whatever key the middleware was configured with.

The reader sees the ID only under the default key: behind `RequestID` configured with any other
`ContextKey` it returns what the locals held before (the empty text on a fresh request), and
`SetToFiber`, which copies the context's request ID under `requestId`, never changes what it
returns (`getRequestID_after`).

The text the generator returns for the request, and `uuid.New().String()`, are an argument
(`fresh`).
-/

namespace GoCommon.Http

open Auth.Middleware

/-- `RequestIDConfig`, with `Generator` the text it returns for the request, `none` for nil. -/
structure RequestIDConfig where
  header : String
  generator : Option String
  contextKey : String
  deriving DecidableEq, Repr

/-- `DefaultRequestIDConfig()`, whose generator returns `fresh`. -/
def defaultRequestIDConfig (fresh : String) : RequestIDConfig where
  header := "X-Request-ID"
  generator := some fresh
  contextKey := "request_id"

/-- The configuration `RequestID(config...)` runs with: the first one passed, with the defaults
for its empty values, or the default one. -/
def requestIDSettings (fresh : String) : List RequestIDConfig → RequestIDConfig
  | [] => defaultRequestIDConfig fresh
  | cfg :: _ =>
    let cfg := if cfg.header = "" then { cfg with header := "X-Request-ID" } else cfg
    let cfg := if cfg.generator = none then { cfg with generator := some fresh } else cfg
    if cfg.contextKey = "" then { cfg with contextKey := "request_id" } else cfg

/-- The handler of `RequestID(configs...)` on a request whose headers `get` reads: the locals it
leaves to `c.Next()`, and the response header it sets. -/
def requestID (configs : List RequestIDConfig) (fresh : String) (get : String → String)
    (locals : Locals) : Locals × (String × String) :=
  let cfg := requestIDSettings fresh configs
  let requestID := get cfg.header
  let requestID := if requestID = "" then cfg.generator.getD fresh else requestID
  (locals.set cfg.contextKey (.str requestID), (cfg.header, requestID))

/-- `GetRequestID(c)`. -/
def getRequestID (locals : Locals) : String := (LocalValue.asString (locals "request_id")).getD ""

/-- `GetRequestID` after one `c.Locals(key, value)`. -/
theorem getRequestID_set (locals : Locals) (key value : String) :
    getRequestID (locals.set key (.str value)) =
      if key = "request_id" then value else getRequestID locals := by
  by_cases default : key = "request_id"
  · subst default
    simp [getRequestID, Locals.set, LocalValue.asString]
  · simp [getRequestID, Locals.set, default, Function.update_noteq (Ne.symm default)]

/-- The key `RequestID` stores under is the default one exactly when no configuration is passed
or the first one names no key or the default one. -/
theorem requestIDSettings_contextKey (fresh : String) (configs : List RequestIDConfig) :
    (requestIDSettings fresh configs).contextKey = "request_id" ↔
      ∀ cfg ∈ configs.head?, cfg.contextKey = "" ∨ cfg.contextKey = "request_id" := by
  cases configs with
  | nil => simp [requestIDSettings, defaultRequestIDConfig]
  | cons cfg _ =>
    dsimp only [requestIDSettings]
    split_ifs <;> simp_all

/-- **What `GetRequestID` sees.** Behind `RequestID(configs...)` it returns the ID the middleware
chose (the one it also sets as the response header) when the middleware stores under the default
key, and what the locals held before otherwise; the key is the default one exactly when the first
configuration names none or the default one. `SetToFiber` never changes what it returns. -/
theorem getRequestID_after (configs : List RequestIDConfig) (fresh : String)
    (get : String → String) (locals : Locals) (c : Context.FiberCtx) (ctx : Context.Ctx) :
    getRequestID (requestID configs fresh get locals).1 =
        (if (requestIDSettings fresh configs).contextKey = "request_id"
          then (requestID configs fresh get locals).2.2 else getRequestID locals) ∧
      ((requestIDSettings fresh configs).contextKey = "request_id" ↔
        ∀ cfg ∈ configs.head?, cfg.contextKey = "" ∨ cfg.contextKey = "request_id") ∧
      getRequestID (Context.setToFiber c ctx).locals = getRequestID c.locals := by
  refine ⟨?_, requestIDSettings_contextKey fresh configs, ?_⟩
  · dsimp only [requestID]
    rw [getRequestID_set]
  · simp [getRequestID, Context.setToFiber]

/-- Under the context key `rid`, the reader finds no ID on a fresh request. -/
example : getRequestID (requestID [⟨"", none, "rid"⟩] "generated" (fun _ => "") fun _ => none).1 =
    "" := by
  decide

end GoCommon.Http
