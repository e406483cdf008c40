import GoCommon.Auth.TokenAuth
import GoCommon.Context

/-!
# Guards after the JWT middleware

`AuthMiddleware` stores the claims of a token that checks in `c.Locals`: the claims under the
context key, and their fields under fixed keys (`userId`, `sessionId`, `email`, `tenantId`,
`roles`, `permissions`). `RequireRoles` and `RequirePermissions` read the `roles` and
`permissions` entries with a type assertion to `[]string` and answer 403 when it fails;
`RequireRoles` passes a request on when the user holds any of the roles, `RequirePermissions`
when the user holds all of the permissions.

Chained after `AuthMiddleware`, a guard passes a request on exactly when the middleware
validated its token, passed it on, and the token's claims meet the guard
(`authMiddleware_then_requireRoles`, `authMiddleware_then_requirePermissions`). On a path the
middleware skips it stores nothing, so the guard answers `Access denied`.

`RemoteServiceAuthMiddleware` stores the fields of the validation result it admits a request
with (`serviceScopes` among them), and its `RequireScope` reads the scopes back and decides with
`hasScopeInList`. Behind the middleware the guard passes a request on exactly when the
middleware admitted it with a result whose scopes grant the required one; a disabled middleware
or a skipped path stores nothing, and the guard answers `No scopes available`
(`remoteServiceAuthMiddleware_then_requireScope`).
-/

namespace GoCommon.Auth.Middleware

/-- A value in `c.Locals`, by the dynamic type its readers assert. -/
inductive LocalValue where
  | uuid (id : Context.UUID)
  | str (value : String)
  | strs (values : List String)
  | tokenClaims (claims : TokenClaims)
  deriving DecidableEq, Repr

/-- `c.Locals` of one request: the value under each key, `none` for nil. -/
abbrev Locals := String → Option LocalValue

/-- `c.Locals(key, value)`. -/
def Locals.set (locals : Locals) (key : String) (value : LocalValue) : Locals :=
  Function.update locals key (some value)

/-- The type assertion `v.([]string)`: the slice, or `none` for any other value and for nil. -/
def LocalValue.asStrings : Option LocalValue → Option (List String)
  | some (.strs values) => some values
  | _ => none

/-- The type assertion `v.(string)`. -/
def LocalValue.asString : Option LocalValue → Option String
  | some (.str value) => some value
  | _ => none

/-- The writes of `AuthMiddleware` for a token that checks, in the order of the source. -/
def storeTokenClaims (key : String) (claims : TokenClaims) (locals : Locals) : Locals :=
  [(key, LocalValue.tokenClaims claims), ("userId", .str claims.userID),
    ("sessionId", .str claims.sessionID), ("email", .str claims.email),
    ("tenantId", .str claims.tenantID), ("roles", .strs claims.roles),
    ("permissions", .strs claims.permissions)].foldl
    (fun stored write => stored.set write.1 write.2) locals

/-- The locals after a token middleware: what it stored, over what was there. -/
def Outcome.localsAfter (outcome : Outcome (String × TokenClaims)) (locals : Locals) : Locals :=
  match outcome.locals with
  | some (key, claims) => storeTokenClaims key claims locals
  | none => locals

/-- `AuthMiddleware` followed by `handler`: the handler runs when the middleware calls
`c.Next()`, on the locals it left; otherwise the middleware's answer stands. -/
def Outcome.andThen (outcome : Outcome (String × TokenClaims)) (locals : Locals)
    (handler : Locals → Reply) : Reply :=
  match outcome.reply with
  | .next => handler (outcome.localsAfter locals)
  | reply => reply

/-- `RequireRoles(roles...)` on a request whose `c.Locals("roles")` is `locals` as a `[]string`:
the first required role the user holds passes the request on. -/
def requireRoles (roles : List String) (locals : Option (List String)) : Reply :=
  match locals with
  | none => .status 403 [("error", .str "Access denied")]
  | some userRoles =>
    if roles.any fun required => userRoles.any (· == required) then .next
    else .status 403 [("error", .str "Insufficient permissions")]

/-- `RequirePermissions(permissions...)`: the first required permission the user lacks
answers 403. -/
def requirePermissions (permissions : List String) (locals : Option (List String)) : Reply :=
  match locals with
  | none => .status 403 [("error", .str "Access denied")]
  | some userPerms =>
    if permissions.all fun required => userPerms.any (· == required) then .next
    else .status 403 [("error", .str "Insufficient permissions")]

/-- `OptionalAuth(config)`: without the defaults of `AuthMiddleware`, the `Enabled` check or
the skip paths, a token that checks has its claims stored (all but `tenantId`); the request is
passed on in every case. -/
def optionalAuth (config : AuthConfig) (parse : JwtParser TokenClaims) (now : Int) (c : Ctx)
    (locals : Locals) : Locals :=
  let token := extractTokenFromRequest c config.tokenLookup config.authScheme
  if token = "" then locals
  else
    let checked := match config.validator with
      | some validator => validator token
      | none => validateToken parse token config.secret now
    match checked with
    | .ok claims =>
      [(config.contextKey, LocalValue.tokenClaims claims), ("userId", .str claims.userID),
        ("sessionId", .str claims.sessionID), ("email", .str claims.email),
        ("roles", .strs claims.roles), ("permissions", .strs claims.permissions)].foldl
        (fun stored write => stored.set write.1 write.2) locals
    | .error _ => locals

section Stored

variable (key : String) (claims : TokenClaims) (locals : Locals)

/-- The entries after the context key's overwrite it: whatever the context key, the fixed keys
hold the claims' fields. -/
theorem storeTokenClaims_roles :
    storeTokenClaims key claims locals "roles" = some (.strs claims.roles) := by
  simp [storeTokenClaims, Locals.set, Function.update_noteq]

theorem storeTokenClaims_permissions :
    storeTokenClaims key claims locals "permissions" = some (.strs claims.permissions) := by
  simp [storeTokenClaims, Locals.set]

theorem storeTokenClaims_tenantId :
    storeTokenClaims key claims locals "tenantId" = some (.str claims.tenantID) := by
  simp [storeTokenClaims, Locals.set, Function.update_noteq]

end Stored

/-- What a chain after `AuthMiddleware` does, for a guard that reads one entry and answers
`Access denied` when the entry is not a `[]string`: it passes the request on exactly when the
middleware passed it on with claims stored and the guard accepts their field. -/
theorem andThen_guard_eq_next_iff {outcome : Outcome (String × TokenClaims)} {locals : Locals}
    {entry : String} {field : TokenClaims → List String} {guard : Option (List String) → Reply}
    (stored : ∀ key claims, storeTokenClaims key claims locals entry = some (.strs (field claims)))
    (noEntry : LocalValue.asStrings (locals entry) = none)
    (denied : guard none ≠ .next) :
    outcome.andThen locals (fun after => guard (LocalValue.asStrings (after entry))) = .next ↔
      outcome.reply = .next ∧
        ∃ key claims, outcome.locals = some (key, claims) ∧ guard (some (field claims)) = .next := by
  unfold Outcome.andThen
  cases reply : outcome.reply with
  | status code body => simp
  | next =>
    simp only [Outcome.localsAfter, true_and]
    cases stores : outcome.locals with
    | none => simpa [noEntry] using denied
    | some write =>
      obtain ⟨key, claims⟩ := write
      simp only [stored key claims, LocalValue.asStrings, Option.some.injEq, Prod.mk.injEq]
      exact ⟨fun accepted => ⟨key, claims, ⟨rfl, rfl⟩, accepted⟩,
        fun ⟨_, _, ⟨_, sameClaims⟩, accepted⟩ => sameClaims ▸ accepted⟩

/-- Behind a middleware that passed the request on untouched, the handler reads the locals as
they were. -/
theorem Outcome.andThen_untouched {outcome : Outcome (String × TokenClaims)}
    (untouched : outcome.Untouched) (locals : Locals) (handler : Locals → Reply) :
    outcome.andThen locals handler = handler locals := by
  obtain ⟨next, -, none⟩ := untouched
  simp [Outcome.andThen, Outcome.localsAfter, next, none]

/-- **`RequireRoles` after `AuthMiddleware`.** On a request whose locals hold no `roles` slice
yet, the chain passes the request on exactly when the middleware validated the token, passed
the request on, and the token's claims hold one of the required roles; an empty list of roles
therefore refuses every request. With auth disabled or the path skipped, the middleware stores
nothing and the guard answers `Access denied`. -/
theorem authMiddleware_then_requireRoles (config : AuthConfig) (parse : JwtParser TokenClaims)
    (now : Int) (c : Ctx) (locals : Locals) (noRoles : LocalValue.asStrings (locals "roles") = none)
    (roles : List String) :
    ((authMiddleware config parse now c).andThen locals
        (fun after => requireRoles roles (LocalValue.asStrings (after "roles"))) = .next ↔
      (authMiddleware config parse now c).reply = .next ∧
        ∃ key claims, (authMiddleware config parse now c).locals = some (key, claims) ∧
          ∃ role ∈ roles, role ∈ claims.roles) ∧
    ((config.enabled = false ∨ ∃ skipPath ∈ config.skipPaths, Strings.hasPrefix c.path skipPath) →
      (authMiddleware config parse now c).andThen locals
        (fun after => requireRoles roles (LocalValue.asStrings (after "roles"))) =
        .status 403 [("error", .str "Access denied")]) := by
  refine ⟨?_, fun skipped => ?_⟩
  · rw [andThen_guard_eq_next_iff (fun key claims => storeTokenClaims_roles key claims locals)
      noRoles (by simp [requireRoles])]
    simp [requireRoles]
  · rw [Outcome.andThen_untouched ((authMiddleware_untouched_iff config parse now c).mpr skipped),
      noRoles]
    rfl

/-- **`RequirePermissions` after `AuthMiddleware`.** The chain passes a request on exactly when
the middleware validated the token, passed the request on, and the token's claims hold every
required permission; with no permission required, every validated request passes. -/
theorem authMiddleware_then_requirePermissions (config : AuthConfig)
    (parse : JwtParser TokenClaims) (now : Int) (c : Ctx) (locals : Locals)
    (noPermissions : LocalValue.asStrings (locals "permissions") = none)
    (permissions : List String) :
    (authMiddleware config parse now c).andThen locals
        (fun after => requirePermissions permissions (LocalValue.asStrings (after "permissions"))) =
        .next ↔
      (authMiddleware config parse now c).reply = .next ∧
        ∃ key claims, (authMiddleware config parse now c).locals = some (key, claims) ∧
          ∀ permission ∈ permissions, permission ∈ claims.permissions := by
  rw [andThen_guard_eq_next_iff (fun key claims => storeTokenClaims_permissions key claims locals)
    noPermissions (by simp [requirePermissions])]
  simp [requirePermissions]

/-- The claims of an administrator's token. -/
def adminClaims : TokenClaims :=
  ⟨"u1", "s1", "admin@example.com", "acme", ["admin"], ["orders:read"], "access", none⟩

/-- A parser that accepts the token `tok` with the administrator's claims. -/
def adminParser : JwtParser TokenClaims := fun token _ =>
  if token = "tok" then some adminClaims else none

/-- A request to `/api/v1/orders` with the bearer token `tok`. -/
def bearerCtx : Ctx :=
  ⟨"/api/v1/orders", fun name => if name = "Authorization" then "Bearer tok" else "",
    fun _ => "", fun _ => ""⟩

/-- The administrator's request passes `RequireRoles("admin")`. -/
theorem authMiddleware_then_requireRoles_admin :
    LocalValue.asStrings ((fun _ => none : Locals) "roles") = none ∧
    (((authMiddleware defaultAuthConfig adminParser 0 bearerCtx).andThen (fun _ => none)
        (fun after => requireRoles ["admin"] (LocalValue.asStrings (after "roles"))) = .next ↔
      (authMiddleware defaultAuthConfig adminParser 0 bearerCtx).reply = .next ∧
        ∃ key claims, (authMiddleware defaultAuthConfig adminParser 0 bearerCtx).locals =
          some (key, claims) ∧ ∃ role ∈ ["admin"], role ∈ claims.roles) ∧
    ((defaultAuthConfig.enabled = false ∨
        ∃ skipPath ∈ defaultAuthConfig.skipPaths, Strings.hasPrefix bearerCtx.path skipPath) →
      (authMiddleware defaultAuthConfig adminParser 0 bearerCtx).andThen (fun _ => none)
        (fun after => requireRoles ["admin"] (LocalValue.asStrings (after "roles"))) =
        .status 403 [("error", .str "Access denied")])) :=
  ⟨rfl, authMiddleware_then_requireRoles defaultAuthConfig adminParser 0 bearerCtx (fun _ => none)
    rfl ["admin"]⟩

/-- The administrator's request passes `RequirePermissions("orders:read")`. -/
theorem authMiddleware_then_requirePermissions_admin :
    LocalValue.asStrings ((fun _ => none : Locals) "permissions") = none ∧
    ((authMiddleware defaultAuthConfig adminParser 0 bearerCtx).andThen (fun _ => none)
        (fun after => requirePermissions ["orders:read"]
          (LocalValue.asStrings (after "permissions"))) = .next ↔
      (authMiddleware defaultAuthConfig adminParser 0 bearerCtx).reply = .next ∧
        ∃ key claims, (authMiddleware defaultAuthConfig adminParser 0 bearerCtx).locals =
          some (key, claims) ∧ ∀ permission ∈ ["orders:read"], permission ∈ claims.permissions) :=
  ⟨rfl, authMiddleware_then_requirePermissions defaultAuthConfig adminParser 0 bearerCtx
    (fun _ => none) rfl ["orders:read"]⟩

/-! ## After the remote service middleware -/

section Remote

/-- The writes of `RemoteServiceAuthMiddleware` before `c.Next()`, in the order of the source. -/
def storeServiceInfo (result : TokenValidationResult) (locals : Locals) : Locals :=
  [("serviceClientId", LocalValue.str result.clientID), ("serviceName", .str result.serviceName),
    ("serviceScopes", .strs result.scopes), ("tenantId", .str result.tenantID)].foldl
    (fun stored write => stored.set write.1 write.2) locals

/-- `RemoteServiceAuthMiddleware` followed by `handler`: the handler runs when the middleware
calls `c.Next()`, on the locals it left. -/
def Handled.andThen (handled : Handled) (locals : Locals) (handler : Locals → Reply) : Reply :=
  match handled.reply with
  | .next => handler (match handled.locals with
    | some result => storeServiceInfo result locals
    | none => locals)
  | reply => reply

/-- `RequireScope(scope)` on a request whose `c.Locals("serviceScopes")` is `scopes` as a
`[]string`. -/
def requireScope (scope : String) (scopes : Option (List String)) : Reply :=
  match scopes with
  | none => .status 403 [("error", .str "No scopes available")]
  | some scopes =>
    if !hasScopeInList scopes scope then
      .status 403 [("error", .str "Insufficient permissions"), ("required", .str scope)]
    else .next

theorem storeServiceInfo_serviceScopes (result : TokenValidationResult) (locals : Locals) :
    storeServiceInfo result locals "serviceScopes" = some (.strs result.scopes) := by
  simp [storeServiceInfo, Locals.set, Function.update_noteq]

/-- `RequireScope` after any run of the middleware: it passes the request on exactly when the
middleware passed it on with a result stored whose scopes grant the required one. -/
theorem Handled.andThen_requireScope_eq_next_iff (handled : Handled) {locals : Locals}
    (noScopes : LocalValue.asStrings (locals "serviceScopes") = none) (scope : String) :
    handled.andThen locals
        (fun after => requireScope scope (LocalValue.asStrings (after "serviceScopes"))) = .next ↔
      handled.reply = .next ∧
        ∃ result, handled.locals = some result ∧ ∃ granted ∈ result.scopes, Grants granted scope := by
  unfold Handled.andThen
  cases handled.reply with
  | status code body => simp
  | next =>
    cases handled.locals with
    | none => simp [noScopes, requireScope]
    | some result =>
      simp [storeServiceInfo_serviceScopes, LocalValue.asStrings, requireScope, hasScopeInList,
        scopeGrants_iff]

/-- **`RequireScope` after `RemoteServiceAuthMiddleware`.** On a request whose locals hold no
`serviceScopes` slice yet, the chain passes the request on exactly when the middleware admitted
it with a validation result, from its cache or from the validator, whose scopes grant the
required scope in the design's relation (`"*"`, the scope itself, or its resource's wildcard). A
disabled middleware and a skipped path store nothing, so the guard answers `No scopes
available`. -/
theorem remoteServiceAuthMiddleware_then_requireScope (cfg : RemoteServiceAuthConfig)
    (validate : TokenValidator) (cache : TokenCache) (now setAt sweepAt : Int) (req : Request)
    (locals : Locals) (noScopes : LocalValue.asStrings (locals "serviceScopes") = none)
    (scope : String) :
    ((remoteServiceAuthMiddleware cfg validate cache now setAt sweepAt req).andThen locals
        (fun after => requireScope scope (LocalValue.asStrings (after "serviceScopes"))) = .next ↔
      (remoteServiceAuthMiddleware cfg validate cache now setAt sweepAt req).reply = .next ∧
        ∃ result, (remoteServiceAuthMiddleware cfg validate cache now setAt sweepAt req).locals =
          some result ∧ ∃ granted ∈ result.scopes, Grants granted scope) ∧
    ((cfg.enabled = false ∨ ∃ skipPath ∈ cfg.skipPaths, Strings.hasPrefix req.path skipPath) →
      (remoteServiceAuthMiddleware cfg validate cache now setAt sweepAt req).andThen locals
        (fun after => requireScope scope (LocalValue.asStrings (after "serviceScopes"))) =
        .status 403 [("error", .str "No scopes available")]) := by
  refine ⟨Handled.andThen_requireScope_eq_next_iff _ noScopes scope, fun skipped => ?_⟩
  obtain ⟨next, none⟩ := (@remoteServiceAuthMiddleware_untouched_iff cfg validate cache now setAt
    sweepAt req).mpr skipped
  simp [Handled.andThen, next, none, noScopes, requireScope]

/-- A validator that accepts every token for the notifier service, with the scope
`notifications:*`. -/
def notifierValidator : TokenValidator := fun _ =>
  .ok ⟨true, "svc", "notifier", "acme", "", ["notifications:*"], 0⟩

/-- The chain at the notifier's request to send a notification, which the scope
`notifications:*` grants through its resource's wildcard. -/
theorem remoteServiceAuthMiddleware_then_requireScope_notifier :
    LocalValue.asStrings ((fun _ => none : Locals) "serviceScopes") = none ∧
    (((remoteServiceAuthMiddleware ⟨0, [], "", true⟩ notifierValidator TokenCache.empty 0 0 0
        ⟨"/api/v1/notifications", "Bearer tok"⟩).andThen (fun _ => none)
        (fun after => requireScope "notifications:send"
          (LocalValue.asStrings (after "serviceScopes"))) = .next ↔
      (remoteServiceAuthMiddleware ⟨0, [], "", true⟩ notifierValidator TokenCache.empty 0 0 0
        ⟨"/api/v1/notifications", "Bearer tok"⟩).reply = .next ∧
        ∃ result, (remoteServiceAuthMiddleware ⟨0, [], "", true⟩ notifierValidator
          TokenCache.empty 0 0 0 ⟨"/api/v1/notifications", "Bearer tok"⟩).locals = some result ∧
          ∃ granted ∈ result.scopes, Grants granted "notifications:send") ∧
    (((⟨0, [], "", true⟩ : RemoteServiceAuthConfig).enabled = false ∨
        ∃ skipPath ∈ (⟨0, [], "", true⟩ : RemoteServiceAuthConfig).skipPaths,
          Strings.hasPrefix (⟨"/api/v1/notifications", "Bearer tok"⟩ : Request).path skipPath) →
      (remoteServiceAuthMiddleware ⟨0, [], "", true⟩ notifierValidator TokenCache.empty 0 0 0
        ⟨"/api/v1/notifications", "Bearer tok"⟩).andThen (fun _ => none)
        (fun after => requireScope "notifications:send"
          (LocalValue.asStrings (after "serviceScopes"))) =
        .status 403 [("error", .str "No scopes available")])) :=
  ⟨rfl, remoteServiceAuthMiddleware_then_requireScope ⟨0, [], "", true⟩ notifierValidator
    TokenCache.empty 0 0 0 ⟨"/api/v1/notifications", "Bearer tok"⟩ (fun _ => none) rfl
    "notifications:send"⟩

end Remote

end GoCommon.Auth.Middleware
