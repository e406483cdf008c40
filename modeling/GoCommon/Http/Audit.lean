import GoCommon.Http.Tenant
import GoCommon.Audit.Changes

/-!
# The audit middleware

`AuditLogger(config)` lets a request on a skipped path, or on a path that is not sensitive,
through untouched. On a sensitive path it runs the rest of the chain, and then, when the
response's status is below 400, reads the tenant and the user from `c.Locals("tenantID")` and
`c.Locals("userID")` (a `uuid.UUID` as it is, a string through `uuid.Parse` with the error
dropped) and calls `LogAction` when the tenant is not `uuid.Nil`. The action comes from the
method and the entity type from the first segment after `/api/v1/`.

The audit never changes the response or the locals (`auditLogger_response`). The package's
writers keep the tenant under `tenantId`: `AuthMiddleware` with the token's claims, and
`TenantMiddleware` under its default context key. The audit's key differs from theirs in the
case of one letter, so behind the two middlewares, and in front of handlers that leave
`tenantID` alone, it logs nothing, whatever the token, the tenant and the request
(`auditedChain_never_logs`).

`uuid.Parse` is a parameter (`parseUUID`: the UUID it returns, error dropped), and the
`LogAction` call is returned as an `AuditEntry` rather than made; its entity ID is always nil and
is left out. A path is valid UTF-8, so the byte tests of `getEntityTypeFromPath` are tests on
runes: the prefix and the `S` it compares with are ASCII.
-/

namespace GoCommon.Http

open Auth Auth.Middleware
open Context (UUID uuidNil)

/-- `AuditConfig`, without the `Logger`, whose call `auditLogger` returns. -/
structure AuditConfig where
  skipPaths : List String
  sensitivePaths : List String

/-- `DefaultAuditConfig(logger)`. -/
def defaultAuditConfig : AuditConfig where
  skipPaths := ["/health", "/metrics", "/swagger"]
  sensitivePaths :=
    ["/api/v1/auth/login", "/api/v1/auth/logout", "/api/v1/users", "/api/v1/roles",
      "/api/v1/permissions"]

/-- `getActionFromMethod(method)`. -/
def getActionFromMethod : String → String
  | "POST" => Audit.actionCreate
  | "PUT" | "PATCH" => Audit.actionUpdate
  | "DELETE" => Audit.actionDelete
  | "GET" => Audit.actionView
  | _ => "UNKNOWN"

/-- The upper-casing of `getEntityTypeFromPath`: `a` to `z` lose 32, every other rune is kept. -/
def upperASCII (c : Char) : Char := if 'a' ≤ c ∧ c ≤ 'z' then Char.ofNat (c.toNat - 32) else c

/-- `getEntityTypeFromPath(path)`: for a path longer than `/api/v1/` that starts with it, the
segment after it up to the next `/`, upper-cased, without one trailing `S`; `UNKNOWN` for any
other path. The prefix is eight ASCII bytes, so with it `len(path) > 8` counts runes. -/
def getEntityTypeFromPath (path : String) : String :=
  if 8 < path.length ∧ Strings.hasPrefix path "/api/v1/" then
    let entity := ((path.data.drop 8).takeWhile (· ≠ '/')).map upperASCII
    ⟨if entity.getLast? = some 'S' then entity.dropLast else entity⟩
  else "UNKNOWN"

/-- One `config.Logger.LogAction(ctx, tenantID, userID, action, entityType, nil, metadata)`
call, with the metadata's `method`, `path` and `status_code`. -/
structure AuditEntry where
  tenantID : UUID
  userID : UUID
  action : String
  entityType : String
  method : String
  path : String
  statusCode : Nat
  deriving DecidableEq, Repr

/-- How `AuditLogger` reads the tenant and the user: a `uuid.UUID` as it is, a string through
`uuid.Parse`, and `uuid.Nil` for nil and any other type. -/
def localUUID (parseUUID : String → UUID) : Option LocalValue → UUID
  | some (.uuid id) => id
  | some (.str value) => parseUUID value
  | _ => uuidNil

/-- `AuditLogger(config)` on a request with method `method` and path `path`, in front of the rest
of the chain `next`, which gives the response's status code and the locals after `c.Next()`:
what `c.Next()` left, and the `LogAction` call, if any. -/
def auditLogger (config : AuditConfig) (parseUUID : String → UUID) (method path : String)
    (next : Locals → Nat × Locals) (locals : Locals) : (Nat × Locals) × Option AuditEntry :=
  if config.skipPaths.any (prefixOrEqual path) then (next locals, none)
  else if !config.sensitivePaths.any (prefixOrEqual path) then (next locals, none)
  else
    let response := next locals
    if response.1 < 400 then
      let tenantID := localUUID parseUUID (response.2 "tenantID")
      let userID := localUUID parseUUID (response.2 "userID")
      if tenantID ≠ uuidNil then
        (response, some ⟨tenantID, userID, getActionFromMethod method, getEntityTypeFromPath path,
          method, path, response.1⟩)
      else (response, none)
    else (response, none)

/-- `app.Use(AuthMiddleware(auth), TenantMiddleware(tenant), AuditLogger(audit))` in front of
the handlers `next`, on a request with method `method` and host `hostname`: the `LogAction`
call of the audit, if the request gets as far as the audit. -/
def auditedChain (auth : AuthConfig) (parse : JwtParser TokenClaims) (now : Int)
    (tenant : TenantConfig) (audit : AuditConfig) (parseUUID : String → UUID) (c : Ctx)
    (method hostname : String) (next : Locals → Nat × Locals) (locals : Locals) :
    Option AuditEntry :=
  let outcome := authMiddleware auth parse now c
  match outcome.reply with
  | .status _ _ => none
  | .next =>
    let tenantResult := tenantMiddleware tenant c hostname (outcome.localsAfter locals)
    match tenantResult.1 with
    | .status _ _ => none
    | .next => (auditLogger audit parseUUID method c.path next tenantResult.2).2

section Audit

variable (config : AuditConfig) (parseUUID : String → UUID) (method path : String)
  (next : Locals → Nat × Locals) (locals : Locals)

/-- The audit never changes what the rest of the chain answers or leaves in the locals. -/
theorem auditLogger_response : (auditLogger config parseUUID method path next locals).1 =
    next locals := by
  dsimp only [auditLogger]
  split_ifs <;> rfl

/-- The audit logs only a tenant it reads as other than `uuid.Nil` after the rest of the
chain. -/
theorem auditLogger_entry_eq_none
    (noTenant : localUUID parseUUID ((next locals).2 "tenantID") = uuidNil) :
    (auditLogger config parseUUID method path next locals).2 = none := by
  dsimp only [auditLogger]
  split_ifs <;> simp_all

end Audit

/-! ## Behind the package's middlewares -/

section Chain

variable (parseUUID : String → UUID)

/-- No tenant the audit would log: `tenantID` reads as `uuid.Nil`. -/
def NoAuditTenant (locals : Locals) : Prop := localUUID parseUUID (locals "tenantID") = uuidNil

/-- `AuthMiddleware` stores the token's tenant under `tenantId`, and its claims, under the
context key, are no UUID and no string: whatever the key, it stores no tenant the audit logs. -/
theorem noAuditTenant_storeTokenClaims {locals : Locals} (key : String) (claims : TokenClaims)
    (empty : NoAuditTenant parseUUID locals) :
    NoAuditTenant parseUUID (storeTokenClaims key claims locals) := by
  by_cases same : key = "tenantID"
  · simp [NoAuditTenant, storeTokenClaims, Locals.set, same, localUUID]
  · simpa [NoAuditTenant, storeTokenClaims, Locals.set, Function.update_noteq, Ne.symm same]
      using empty

theorem noAuditTenant_localsAfter {locals : Locals} (outcome : Outcome (String × TokenClaims))
    (empty : NoAuditTenant parseUUID locals) :
    NoAuditTenant parseUUID (outcome.localsAfter locals) := by
  unfold Outcome.localsAfter
  split
  · exact noAuditTenant_storeTokenClaims parseUUID _ _ empty
  · exact empty

/-- `TenantMiddleware` under a context key other than `tenantID` stores no tenant the audit
logs. -/
theorem noAuditTenant_tenantMiddleware {locals : Locals} (config : TenantConfig) (c : Ctx)
    (hostname : String) (otherKey : config.storeKey ≠ "tenantID")
    (empty : NoAuditTenant parseUUID locals) :
    NoAuditTenant parseUUID (tenantMiddleware config c hostname locals).2 := by
  rcases tenantMiddleware_locals config c hostname locals with unchanged | stored
  · rwa [unchanged]
  · rwa [stored, NoAuditTenant, Locals.set, Function.update_noteq otherKey.symm]

/-- **The audit never logs behind the package's middlewares.** After `AuthMiddleware` and a
`TenantMiddleware` whose context key is not `tenantID` (its default is `tenantId`), in front of
handlers that leave `tenantID` as they find it, the audit makes no `LogAction` call on a request
that arrives with no tenant under `tenantID`: whatever the configurations, the token, the
tenant the middlewares resolve, the path and the status. -/
theorem auditedChain_never_logs (auth : AuthConfig) (parse : JwtParser TokenClaims) (now : Int)
    (tenant : TenantConfig) (audit : AuditConfig) (c : Ctx) (method hostname : String)
    (next : Locals → Nat × Locals) (locals : Locals) (tenantKey : tenant.storeKey ≠ "tenantID")
    (fresh : localUUID parseUUID (locals "tenantID") = uuidNil)
    (keeps : ∀ before, (next before).2 "tenantID" = before "tenantID") :
    auditedChain auth parse now tenant audit parseUUID c method hostname next locals = none := by
  have afterTenant := noAuditTenant_tenantMiddleware parseUUID tenant c hostname tenantKey
    (noAuditTenant_localsAfter parseUUID (authMiddleware auth parse now c) fresh)
  dsimp only [auditedChain]
  split
  · rfl
  · split
    · rfl
    · exact auditLogger_entry_eq_none audit parseUUID method c.path next _
        (by rw [keeps]; exact afterTenant)

/-- A request for `/api/v1/users` with the administrator's bearer token. -/
def usersRequest : Ctx := { bearerCtx with path := "/api/v1/users" }

/-- With the default configurations, the administrator's successful request for users, whose
token names the tenant `acme`, is not audited, even if every text parsed to a UUID other than
`uuid.Nil`. -/
theorem auditedChain_never_logs_users :
    auditedChain defaultAuthConfig adminParser 0 defaultTenantConfig defaultAuditConfig
      (fun _ => 1) usersRequest "POST" "" (fun before => (201, before)) (fun _ => none) = none :=
  auditedChain_never_logs (fun _ => 1) defaultAuthConfig adminParser 0 defaultTenantConfig
    defaultAuditConfig usersRequest "POST" "" _ _ (by decide) rfl fun _ => rfl

/-- Under the context key `tenantID` the same request is audited, with the tenant the token names
and no user. -/
example : auditedChain defaultAuthConfig adminParser 0
      { defaultTenantConfig with contextKey := "tenantID" } defaultAuditConfig (fun _ => 1)
      usersRequest "POST" "" (fun before => (201, before)) (fun _ => none) =
    some ⟨1, uuidNil, "CREATE", "USER", "POST", "/api/v1/users", 201⟩ := by decide

end Chain

end GoCommon.Http
