import Mathlib.Data.List.Basic

/-!
# Request-scoped values in a `context.Context`

The `context` package keeps a request's identity in a `context.Context` under its own key type
`contextKey`, which no other package can name: `WithUserID`, `WithSessionID`, … add one value
each with `context.WithValue`, and `GetUserID`, `GetSessionID`, … read it back with a type
assertion. `WithRequestContext` adds the fields of a `RequestContext` that are set (not the zero
value), and `GetRequestContext` reads them all back.

A context is the chain of its `WithValue` entries, and `ctx.Value(key)` is the newest entry
under `key`. Reading back what `WithRequestContext` wrote gives each field it wrote and keeps
the context's own value for each field it left out; `SpanID` and `UserAgent` are neither written
nor read, and an empty language reads back as `en` (`getRequestContext_withRequestContext`).
-/

namespace GoCommon.Context

/-- `uuid.UUID`: sixteen bytes. -/
abbrev UUID := BitVec 128

/-- `uuid.Nil`. -/
def uuidNil : UUID := 0

/-- A value stored in the context, by its dynamic type. -/
inductive CtxValue where
  | uuid (id : UUID)
  | str (value : String)
  | strs (values : List String)
  deriving DecidableEq, Repr

/-- A `context.Context` as the chain of its `WithValue` entries under `contextKey` keys, newest
first. Entries under other packages' key types never match a `contextKey` and are left out. -/
abbrev Ctx := List (String × CtxValue)

/-- `ctx.Value(key)`: the newest entry under `key`. -/
def Ctx.value (ctx : Ctx) (key : String) : Option CtxValue :=
  (ctx.find? (·.1 == key)).map (·.2)

/-- `context.WithValue(ctx, key, value)`. -/
def withValue (ctx : Ctx) (key : String) (value : CtxValue) : Ctx := (key, value) :: ctx

/-- The keys of the package. -/
def keyUserID : String := "user_id"
def keyTenantID : String := "tenant_id"
def keySessionID : String := "session_id"
def keyTraceID : String := "trace_id"
def keyRequestID : String := "request_id"
def keyRoles : String := "roles"
def keyPermissions : String := "permissions"
def keyLanguage : String := "language"
def keyClientIP : String := "client_ip"

/-- The type assertion `v.(uuid.UUID)`: the value and `ok`. -/
def CtxValue.asUUID : Option CtxValue → UUID × Bool
  | some (.uuid id) => (id, true)
  | _ => (uuidNil, false)

/-- The type assertion `v.(string)`. -/
def CtxValue.asString : Option CtxValue → String × Bool
  | some (.str value) => (value, true)
  | _ => ("", false)

/-- The type assertion `v.([]string)`, nil when it fails. -/
def CtxValue.asStrings : Option CtxValue → List String
  | some (.strs values) => values
  | _ => []

@[simp]
theorem CtxValue.asUUID_uuid (id : UUID) : CtxValue.asUUID (some (.uuid id)) = (id, true) := rfl

@[simp]
theorem CtxValue.asString_str (value : String) :
    CtxValue.asString (some (.str value)) = (value, true) := rfl

@[simp]
theorem CtxValue.asStrings_strs (values : List String) :
    CtxValue.asStrings (some (.strs values)) = values := rfl

@[simp]
theorem CtxValue.asUUID_none : CtxValue.asUUID none = (uuidNil, false) := rfl

@[simp]
theorem CtxValue.asString_none : CtxValue.asString none = ("", false) := rfl

@[simp]
theorem CtxValue.asStrings_none : CtxValue.asStrings none = [] := rfl

/-- `WithUserID`. -/
def withUserID (ctx : Ctx) (userID : UUID) : Ctx := withValue ctx keyUserID (.uuid userID)
/-- `GetUserID`. -/
def getUserID (ctx : Ctx) : UUID × Bool := CtxValue.asUUID (ctx.value keyUserID)
/-- `WithTenantID`. -/
def withTenantID (ctx : Ctx) (tenantID : UUID) : Ctx :=
  withValue ctx keyTenantID (.uuid tenantID)
/-- `GetTenantID`. -/
def getTenantID (ctx : Ctx) : UUID × Bool := CtxValue.asUUID (ctx.value keyTenantID)
/-- `WithSessionID`. -/
def withSessionID (ctx : Ctx) (sessionID : String) : Ctx :=
  withValue ctx keySessionID (.str sessionID)
/-- `GetSessionID`. -/
def getSessionID (ctx : Ctx) : String × Bool := CtxValue.asString (ctx.value keySessionID)
/-- `WithTraceID`. -/
def withTraceID (ctx : Ctx) (traceID : String) : Ctx :=
  withValue ctx keyTraceID (.str traceID)
/-- `GetTraceID`. -/
def getTraceID (ctx : Ctx) : String × Bool := CtxValue.asString (ctx.value keyTraceID)
/-- `WithRequestID`. -/
def withRequestID (ctx : Ctx) (requestID : String) : Ctx :=
  withValue ctx keyRequestID (.str requestID)
/-- `GetRequestID`. -/
def getRequestID (ctx : Ctx) : String × Bool := CtxValue.asString (ctx.value keyRequestID)
/-- `WithRoles`. -/
def withRoles (ctx : Ctx) (roles : List String) : Ctx := withValue ctx keyRoles (.strs roles)
/-- `GetRoles`. -/
def getRoles (ctx : Ctx) : List String := CtxValue.asStrings (ctx.value keyRoles)
/-- `WithPermissions`. -/
def withPermissions (ctx : Ctx) (permissions : List String) : Ctx :=
  withValue ctx keyPermissions (.strs permissions)
/-- `GetPermissions`. -/
def getPermissions (ctx : Ctx) : List String := CtxValue.asStrings (ctx.value keyPermissions)
/-- `WithLanguage`. -/
def withLanguage (ctx : Ctx) (lang : String) : Ctx := withValue ctx keyLanguage (.str lang)
/-- `GetLanguage`: `en` when the context holds no language, or an empty one. -/
def getLanguage (ctx : Ctx) : String :=
  let lang := (CtxValue.asString (ctx.value keyLanguage)).1
  if lang = "" then "en" else lang
/-- `WithClientIP`. -/
def withClientIP (ctx : Ctx) (ip : String) : Ctx := withValue ctx keyClientIP (.str ip)
/-- `GetClientIP`. -/
def getClientIP (ctx : Ctx) : String := (CtxValue.asString (ctx.value keyClientIP)).1

/-- `HasRole`. -/
def hasRole (ctx : Ctx) (role : String) : Bool := (getRoles ctx).any (· == role)

/-- `HasPermission`. -/
def hasPermission (ctx : Ctx) (permission : String) : Bool :=
  (getPermissions ctx).any (· == permission)

/-- `RequestContext`. -/
structure RequestContext where
  userID : UUID
  tenantID : UUID
  sessionID : String
  traceID : String
  spanID : String
  requestID : String
  roles : List String
  permissions : List String
  language : String
  clientIP : String
  userAgent : String
  deriving DecidableEq, Repr

/-- `WithRequestContext(ctx, rc)`: each field of `rc` that is set, in the order of the source. -/
def withRequestContext (ctx : Ctx) (rc : RequestContext) : Ctx :=
  let ctx := if rc.userID ≠ uuidNil then withUserID ctx rc.userID else ctx
  let ctx := if rc.tenantID ≠ uuidNil then withTenantID ctx rc.tenantID else ctx
  let ctx := if rc.sessionID ≠ "" then withSessionID ctx rc.sessionID else ctx
  let ctx := if rc.traceID ≠ "" then withTraceID ctx rc.traceID else ctx
  let ctx := if rc.requestID ≠ "" then withRequestID ctx rc.requestID else ctx
  let ctx := if 0 < rc.roles.length then withRoles ctx rc.roles else ctx
  let ctx := if 0 < rc.permissions.length then withPermissions ctx rc.permissions else ctx
  let ctx := if rc.language ≠ "" then withLanguage ctx rc.language else ctx
  if rc.clientIP ≠ "" then withClientIP ctx rc.clientIP else ctx

/-- `GetRequestContext(ctx)`: every field but `SpanID` and `UserAgent`. -/
def getRequestContext (ctx : Ctx) : RequestContext where
  userID := (getUserID ctx).1
  tenantID := (getTenantID ctx).1
  sessionID := (getSessionID ctx).1
  traceID := (getTraceID ctx).1
  spanID := ""
  requestID := (getRequestID ctx).1
  roles := getRoles ctx
  permissions := getPermissions ctx
  language := getLanguage ctx
  clientIP := getClientIP ctx
  userAgent := ""

/-- The request context read back after `WithRequestContext(ctx, rc)`, as the design intends it:
each field `rc` sets replaces the one read from `ctx`. -/
def RequestContext.overlay (base rc : RequestContext) : RequestContext where
  userID := if rc.userID ≠ uuidNil then rc.userID else base.userID
  tenantID := if rc.tenantID ≠ uuidNil then rc.tenantID else base.tenantID
  sessionID := if rc.sessionID ≠ "" then rc.sessionID else base.sessionID
  traceID := if rc.traceID ≠ "" then rc.traceID else base.traceID
  spanID := base.spanID
  requestID := if rc.requestID ≠ "" then rc.requestID else base.requestID
  roles := if 0 < rc.roles.length then rc.roles else base.roles
  permissions := if 0 < rc.permissions.length then rc.permissions else base.permissions
  language := if rc.language ≠ "" then rc.language else base.language
  clientIP := if rc.clientIP ≠ "" then rc.clientIP else base.clientIP
  userAgent := base.userAgent

@[simp]
theorem value_withValue (ctx : Ctx) (key : String) (value : CtxValue) (read : String) :
    (withValue ctx key value).value read = if key = read then some value else ctx.value read := by
  by_cases same : key = read <;> simp [Ctx.value, withValue, List.find?_cons, same]

/-- A conditional write under one key leaves every other key's value as it was. -/
theorem value_ite_withValue (ctx : Ctx) (write : Prop) [Decidable write] (key : String)
    (value : CtxValue) (read : String) :
    (if write then withValue ctx key value else ctx).value read =
      if write ∧ key = read then some value else ctx.value read := by
  by_cases written : write <;> simp [written]

/-- **`GetRequestContext` reads back what `WithRequestContext` wrote.** Each field `rc` sets is
read back, each field it leaves at the zero value keeps the context's own value, and `SpanID`
and `UserAgent` are never carried. On an empty context this gives `rc` back but for those two
fields, and for an empty language, which reads back as `en`. -/
theorem getRequestContext_withRequestContext (ctx : Ctx) (rc : RequestContext) :
    getRequestContext (withRequestContext ctx rc) = (getRequestContext ctx).overlay rc ∧
      getRequestContext (withRequestContext [] rc) =
        { rc with
          spanID := ""
          userAgent := ""
          language := if rc.language = "" then "en" else rc.language } := by
  have general : ∀ ctx : Ctx, getRequestContext (withRequestContext ctx rc) =
      (getRequestContext ctx).overlay rc := by
    intro ctx
    simp only [getRequestContext, withRequestContext, RequestContext.overlay, getUserID,
      getTenantID, getSessionID, getTraceID, getRequestID, getRoles, getPermissions, getLanguage,
      getClientIP, withUserID, withTenantID, withSessionID, withTraceID, withRequestID, withRoles,
      withPermissions, withLanguage, withClientIP, value_ite_withValue, value_withValue, keyUserID,
      keyTenantID, keySessionID, keyTraceID, keyRequestID, keyRoles, keyPermissions, keyLanguage,
      keyClientIP, String.reduceEq, and_false, and_true, if_false, apply_ite CtxValue.asUUID,
      apply_ite CtxValue.asString, apply_ite CtxValue.asStrings, apply_ite Prod.fst,
      CtxValue.asUUID_uuid, CtxValue.asString_str, CtxValue.asStrings_strs]
    by_cases unset : rc.language = "" <;> simp [unset]
  refine ⟨general ctx, ?_⟩
  rw [general []]
  simp +contextual [getRequestContext, RequestContext.overlay, getUserID, getTenantID,
    getSessionID, getTraceID, getRequestID, getRoles, getPermissions, getLanguage, getClientIP,
    Ctx.value]

end GoCommon.Context
