import GoCommon.Auth.Guards

/-!
# Tenant resolution

`TenantMiddleware(config)` finds the tenant of a request from four sources in turn: a non-empty
`tenantId` string already in `c.Locals` (which `AuthMiddleware` stores from the token's
claims), the configured header, the subdomain of the host under `BaseDomain` (when enabled),
and the `tenant_id` query parameter. The first non-empty one is checked by the validator, if
there is one, and stored under the context key. `RequireTenant` and `RequireTenantScope` read
`tenantId` back.

The middleware writes one entry at most, under its context key (`tenantMiddleware_locals`).
Chained after `AuthMiddleware`, a token that carries a tenant decides the tenant whatever the
header, host and query say, while a token without one leaves the choice to them
(`authMiddleware_then_tenantMiddleware`). The readers use the fixed key `tenantId`, so with any
other context key the tenant the middleware stores is invisible to them
(`tenantMiddleware_invisible_to_requireTenant`). `extractTenantFromSubdomain` cuts the base domain off
the end of the host as text: it gives the label of a subdomain back, and just as well the front
of a host that only ends with the base domain's text (`extractTenantFromSubdomain_append`).
-/

namespace GoCommon.Http

open Auth Auth.Middleware

/-- `extractTenantFromSubdomain(hostname, baseDomain)`: the host without its port, and, when it
ends with the base domain, what is left once `"." + baseDomain` and then `baseDomain` are
trimmed off, unless that is empty, `www` or `api`. -/
def extractTenantFromSubdomain (hostname baseDomain : String) : String :=
  let host : String := ⟨hostname.data.takeWhile (· ≠ ':')⟩
  if !Strings.hasSuffix host baseDomain then ""
  else
    let subdomain := Strings.trimSuffix host ("." ++ baseDomain)
    let subdomain := Strings.trimSuffix subdomain baseDomain
    if subdomain = "" ∨ subdomain = "www" ∨ subdomain = "api" then "" else subdomain

/-- `TenantConfig`. `ErrorHandler` answers from the error's text and `TenantValidator` says
whether a tenant is valid; each is `none` when nil. -/
structure TenantConfig where
  enabled : Bool
  headerName : String
  extractFromSubdomain : Bool
  baseDomain : String
  skipPaths : List String
  allowMissingTenant : Bool
  contextKey : String
  errorHandler : Option (String → Reply)
  tenantValidator : Option (String → Bool)

/-- The error handler `DefaultTenantConfig` and `TenantMiddleware` set when there is none. -/
def tenantBadRequest (_err : String) : Reply :=
  .status 400 [("error", .str "Invalid or missing tenant")]

/-- `DefaultTenantConfig()`. -/
def defaultTenantConfig : TenantConfig where
  enabled := true
  headerName := "X-Tenant-ID"
  extractFromSubdomain := false
  baseDomain := ""
  skipPaths := ["/health", "/ready", "/metrics"]
  allowMissingTenant := true
  contextKey := "tenantId"
  errorHandler := some tenantBadRequest
  tenantValidator := none

/-- The four sources of `TenantMiddleware` in their order of priority: a non-empty `tenantId`
string in the locals, the header, the subdomain, the `tenant_id` query parameter; `""` when
none gives a tenant. -/
def resolveTenant (config : TenantConfig) (c : Ctx) (hostname : String) (locals : Locals) :
    String :=
  let headerName := if config.headerName = "" then "X-Tenant-ID" else config.headerName
  let tenantID := (LocalValue.asString (locals "tenantId")).getD ""
  let tenantID := if tenantID = "" then c.header headerName else tenantID
  let tenantID :=
    if tenantID = "" ∧ config.extractFromSubdomain = true ∧ config.baseDomain ≠ "" then
      extractTenantFromSubdomain hostname config.baseDomain
    else tenantID
  if tenantID = "" then c.query "tenant_id" else tenantID

/-- `TenantMiddleware(config)` on one request, with `c.Hostname()`: the reply and the locals
after it. -/
def tenantMiddleware (config : TenantConfig) (c : Ctx) (hostname : String) (locals : Locals) :
    Reply × Locals :=
  let contextKey := if config.contextKey = "" then "tenantId" else config.contextKey
  let errorHandler := config.errorHandler.getD tenantBadRequest
  if !config.enabled then (.next, locals)
  else if config.skipPaths.any (prefixOrEqual c.path) then (.next, locals)
  else
    let tenantID := resolveTenant config c hostname locals
    if tenantID = "" then
      if config.allowMissingTenant then (.next, locals)
      else (errorHandler "Tenant ID required", locals)
    else if config.tenantValidator.any (fun valid => !valid tenantID) then
      (errorHandler "Invalid tenant", locals)
    else (.next, locals.set contextKey (.str tenantID))

/-- `RequireTenant()`: a nil `tenantId`, or the string `""`, is answered 400. -/
def requireTenant (locals : Locals) : Reply :=
  if locals "tenantId" = none ∨ locals "tenantId" = some (.str "") then
    .status 400 [("error", .str "Tenant context required")]
  else .next

/-- `TenantScopeConfig`. -/
structure TenantScopeConfig where
  allowSystemAccess : Bool
  systemRoles : List String

/-- `RequireTenantScope(config)`: a tenant, or, with system access allowed, a role among the
system roles. -/
def requireTenantScope (config : TenantScopeConfig) (locals : Locals) : Reply :=
  if ¬(locals "tenantId" = none ∨ locals "tenantId" = some (.str "")) then .next
  else if config.allowSystemAccess ∧
      ((LocalValue.asStrings (locals "roles")).getD []).any
        (fun role => config.systemRoles.any (role == ·)) then .next
  else .status 403 [("error", .str "Tenant context required for this operation")]

/-- `GetTenantID(c)`. -/
def getTenantID (locals : Locals) : String := (LocalValue.asString (locals "tenantId")).getD ""

/-! ## The subdomain -/

section Subdomain

/-- A host with or without a port. -/
def withPort (host : String) : Option String → String
  | none => host
  | some port => host ++ ":" ++ port

theorem takeWhile_withPort {host : String} (noColon : ':' ∉ host.data) (port : Option String) :
    (withPort host port).data.takeWhile (· ≠ ':') = host.data := by
  have before : ∀ rest : List Char, (host.data ++ rest).takeWhile (· ≠ ':') =
      host.data ++ rest.takeWhile (· ≠ ':') := fun rest =>
    List.takeWhile_append_of_pos fun c mem => by simpa using fun same : c = ':' => noColon (same ▸ mem)
  cases port with
  | none => simpa only [withPort, List.append_nil, List.takeWhile_nil] using before []
  | some port => simpa [withPort, String.append_assoc] using before (':' :: port.data)

variable {label baseDomain : String}

/-- The tenant of a host `label.baseDomain` is `label`. -/
theorem extractTenantFromSubdomain_subdomain (noColon : ':' ∉ label.data ∧ ':' ∉ baseDomain.data)
    (named : label ≠ "" ∧ label ≠ "www" ∧ label ≠ "api")
    (notBase : Strings.hasSuffix label baseDomain = false) (port : Option String) :
    extractTenantFromSubdomain (withPort (label ++ "." ++ baseDomain) port) baseDomain =
      label := by
  have hostColon : ':' ∉ (label ++ "." ++ baseDomain).data := by simp [noColon]
  have ends : Strings.hasSuffix (label ++ "." ++ baseDomain) baseDomain :=
    Strings.hasSuffix_iff.mpr ⟨(label ++ ".").data, by simp⟩
  have trimmed : Strings.trimSuffix (label ++ "." ++ baseDomain) ("." ++ baseDomain) = label := by
    rw [String.append_assoc]; exact Strings.trimSuffix_append label _
  unfold extractTenantFromSubdomain
  simp only [takeWhile_withPort hostColon, ends, Bool.not_true, if_false, trimmed,
    Strings.trimSuffix_of_not_hasSuffix notBase]
  exact if_neg (not_or.mpr ⟨named.1, not_or.mpr named.2⟩)

/-- The tenant of a host that only ends with the text of the base domain, `labelbaseDomain`,
is `label` as well. -/
theorem extractTenantFromSubdomain_bare (noColon : ':' ∉ label.data ∧ ':' ∉ baseDomain.data)
    (named : label ≠ "" ∧ label ≠ "www" ∧ label ≠ "api")
    (noDot : Strings.hasSuffix label "." = false) (port : Option String) :
    extractTenantFromSubdomain (withPort (label ++ baseDomain) port) baseDomain = label := by
  have hostColon : ':' ∉ (label ++ baseDomain).data := by simp [noColon]
  have ends : Strings.hasSuffix (label ++ baseDomain) baseDomain :=
    Strings.hasSuffix_iff.mpr ⟨label.data, by simp⟩
  have notDotted : Strings.hasSuffix (label ++ baseDomain) ("." ++ baseDomain) = false := by
    rw [Strings.hasSuffix_append_append, noDot]
  unfold extractTenantFromSubdomain
  simp only [takeWhile_withPort hostColon, ends, Bool.not_true, if_false,
    Strings.trimSuffix_of_not_hasSuffix notDotted, Strings.trimSuffix_append]
  exact if_neg (not_or.mpr ⟨named.1, not_or.mpr named.2⟩)

/-- **The tenant of a host is the text before the base domain.** For a label without `:`, other
than `""`, `www` and `api`, and a base domain without `:`, the host `label.baseDomain` gives
`label`, with or without a port, when the label does not itself end with the base domain. A
host `labelbaseDomain`, which only ends with the base domain's text and is not under it, gives
`label` too when the label does not end with a dot. -/
theorem extractTenantFromSubdomain_append (noColon : ':' ∉ label.data ∧ ':' ∉ baseDomain.data)
    (named : label ≠ "" ∧ label ≠ "www" ∧ label ≠ "api")
    (notBase : Strings.hasSuffix label baseDomain = false)
    (noDot : Strings.hasSuffix label "." = false) (port : Option String) :
    extractTenantFromSubdomain (withPort (label ++ "." ++ baseDomain) port) baseDomain = label ∧
      extractTenantFromSubdomain (withPort (label ++ baseDomain) port) baseDomain = label :=
  ⟨extractTenantFromSubdomain_subdomain noColon named notBase port,
    extractTenantFromSubdomain_bare noColon named noDot port⟩

/-- `acme.example.com:8080` and `acmeexample.com:8080` both give the tenant `acme`. -/
theorem extractTenantFromSubdomain_append_acme :
    (':' ∉ "acme".data ∧ ':' ∉ "example.com".data) ∧ ("acme" ≠ "" ∧ "acme" ≠ "www" ∧
      "acme" ≠ "api") ∧ Strings.hasSuffix "acme" "example.com" = false ∧
      Strings.hasSuffix "acme" "." = false ∧
    (extractTenantFromSubdomain (withPort ("acme" ++ "." ++ "example.com") (some "8080"))
        "example.com" = "acme" ∧
      extractTenantFromSubdomain (withPort ("acme" ++ "example.com") (some "8080"))
        "example.com" = "acme") :=
  ⟨by decide, by decide, by decide, by decide,
    extractTenantFromSubdomain_append (by decide) (by decide) (by decide) (by decide) _⟩

end Subdomain

/-! ## The middleware -/

section Middleware

variable (config : TenantConfig) (c : Ctx) (hostname : String) (locals : Locals)

/-- The context key `TenantMiddleware` stores under. -/
def TenantConfig.storeKey : String := if config.contextKey = "" then "tenantId" else config.contextKey

/-- `TenantMiddleware` writes one entry at most: the resolved tenant under its context key. -/
theorem tenantMiddleware_locals :
    (tenantMiddleware config c hostname locals).2 = locals ∨
      (tenantMiddleware config c hostname locals).2 =
        locals.set config.storeKey (.str (resolveTenant config c hostname locals)) := by
  dsimp only [tenantMiddleware, TenantConfig.storeKey]
  split_ifs <;> simp

/-- **A tenant in the token wins.** Chained after `AuthMiddleware`, the tenant `TenantMiddleware`
checks and stores is the one in the validated token's claims, whatever the request's header,
host and query say. A token without a tenant leaves the choice to them, as on a request that
carries no token; and when the middleware validated nothing, the tenant is what it was. -/
theorem authMiddleware_then_tenantMiddleware (auth : AuthConfig) (parse : JwtParser TokenClaims)
    (now : Int) :
    resolveTenant config c hostname ((authMiddleware auth parse now c).localsAfter locals) =
      match (authMiddleware auth parse now c).locals with
      | some (_, claims) =>
        if claims.tenantID = "" then resolveTenant config c hostname (fun _ => none)
        else claims.tenantID
      | none => resolveTenant config c hostname locals := by
  unfold Outcome.localsAfter
  cases (authMiddleware auth parse now c).locals with
  | none => rfl
  | some write =>
    obtain ⟨key, claims⟩ := write
    by_cases noTenant : claims.tenantID = ""
    · simp [resolveTenant, storeTokenClaims_tenantId, LocalValue.asString, noTenant]
    · simp [resolveTenant, storeTokenClaims_tenantId, LocalValue.asString, noTenant]

/-- **`RequireTenant` does not see a tenant stored under another key.** With a context key other
than `tenantId` (and `roles`), `TenantMiddleware` changes nothing `RequireTenant`,
`RequireTenantScope` and `GetTenantID` read: they answer after it as they did before it, so a
tenant it resolves from the header, the host or the query never satisfies them. -/
theorem tenantMiddleware_invisible_to_requireTenant (scope : TenantScopeConfig)
    (otherKey : config.contextKey ≠ "" ∧ config.contextKey ≠ "tenantId" ∧
      config.contextKey ≠ "roles") :
    requireTenant (tenantMiddleware config c hostname locals).2 = requireTenant locals ∧
      requireTenantScope scope (tenantMiddleware config c hostname locals).2 =
        requireTenantScope scope locals ∧
      getTenantID (tenantMiddleware config c hostname locals).2 = getTenantID locals := by
  have storeKey : config.storeKey = config.contextKey := if_neg otherKey.1
  have frame : ∀ key, key ≠ config.contextKey →
      (tenantMiddleware config c hostname locals).2 key = locals key := by
    intro key other
    rcases tenantMiddleware_locals config c hostname locals with unchanged | stored
    · rw [unchanged]
    · rw [stored, storeKey]; exact Function.update_noteq other _ _
  simp only [requireTenant, requireTenantScope, getTenantID, frame "tenantId" otherKey.2.1.symm,
    frame "roles" otherKey.2.2.symm, and_self]

/-- The default configuration with the context key `tenant`. -/
def tenantKeyConfig : TenantConfig := { defaultTenantConfig with contextKey := "tenant" }

/-- A request that names its tenant `acme` in the `X-Tenant-ID` header. -/
def acmeHeaderCtx : Ctx :=
  ⟨"/api/v1/orders", fun name => if name = "X-Tenant-ID" then "acme" else "", fun _ => "",
    fun _ => ""⟩

/-- Under the key `tenant` the header's tenant is stored, and `RequireTenant` still refuses the
request as it would without the middleware. -/
theorem tenantMiddleware_invisible_to_requireTenant_acme :
    (tenantKeyConfig.contextKey ≠ "" ∧ tenantKeyConfig.contextKey ≠ "tenantId" ∧
      tenantKeyConfig.contextKey ≠ "roles") ∧
    (tenantMiddleware tenantKeyConfig acmeHeaderCtx "" (fun _ => none)).2 "tenant" =
      some (.str "acme") ∧
    (requireTenant (tenantMiddleware tenantKeyConfig acmeHeaderCtx "" (fun _ => none)).2 =
        requireTenant (fun _ => none) ∧
      requireTenantScope ⟨false, []⟩ (tenantMiddleware tenantKeyConfig acmeHeaderCtx ""
        (fun _ => none)).2 = requireTenantScope ⟨false, []⟩ (fun _ => none) ∧
      getTenantID (tenantMiddleware tenantKeyConfig acmeHeaderCtx "" (fun _ => none)).2 =
        getTenantID (fun _ => none)) :=
  ⟨by decide, by decide, tenantMiddleware_invisible_to_requireTenant _ _ _ _ _ (by decide)⟩

end Middleware

end GoCommon.Http
