import GoCommon.Auth.Middleware

/-!
# The token middlewares

`AuthMiddleware` and `ServiceAuthMiddleware` check a JWT, and `OAuthIntrospectionMiddleware`
asks an introspection endpoint about the token. Each is built from a configuration whose empty
fields get defaults, and handles a request in two stages (`skipOrAuthenticate`): a disabled
configuration and a path that starts with a skip path pass the request on untouched; otherwise
the middleware extracts the token the configuration points at (a header with its scheme, a
query parameter or a cookie) and decides on it. It answers through the error handler unless the
token checks, and then stores what it learnt in `c.Locals` and passes the request on.

The skip test is `strings.HasPrefix(path, skipPath)`, followed by `|| path == skipPath` in
`AuthMiddleware` and `OAuthIntrospectionMiddleware`, which adds nothing
(`prefixOrEqual_eq_hasPrefix`); `RemoteServiceAuthMiddleware` tests the prefix alone. So a
path passes when it starts with a skip path as a string, not only at a `/`:
`skipPaths_are_string_prefixes`.

`jwt.ParseWithClaims` verifies an HMAC signature, and `introspectToken` makes an HTTP call: the
model takes the verdict of each as a parameter (`JwtParser`, `Introspector`).
-/

namespace GoCommon.Auth.Middleware

/-- `TokenClaims`, with the one registered claim the middleware reads: `ExpiresAt`, an instant,
`none` when the token has none. -/
structure TokenClaims where
  userID : String
  sessionID : String
  email : String
  tenantID : String
  roles : List String
  permissions : List String
  tokenType : String
  expiresAt : Option Int
  deriving DecidableEq, Repr

/-- `ServiceTokenClaims`, with `ExpiresAt` as in `TokenClaims`. -/
structure ServiceTokenClaims where
  clientID : String
  serviceName : String
  tenantID : String
  scopes : List String
  tokenType : String
  expiresAt : Option Int
  deriving DecidableEq, Repr

/-- What `jwt.ParseWithClaims` with the package's key function gives for a token and a secret:
the claims of a token signed with HMAC under the secret whose registered claims hold, or `none`
for any error. A token parsed without error is valid, so the `"Invalid token claims"` branch
after the call is never taken. -/
abbrev JwtParser (Claims : Type) := String → String → Option Claims

/-- `validateToken(tokenString, secret)` at the instant `now`; an error is its text. -/
def validateToken (parse : JwtParser TokenClaims) (tokenString secret : String) (now : Int) :
    Except String TokenClaims :=
  match parse tokenString secret with
  | none => .error "Invalid token"
  | some claims => if claims.expiresAt.any (· < now) then .error "Token expired" else .ok claims

/-- `validateServiceToken(tokenString, secret)` at the instant `now`. -/
def validateServiceToken (parse : JwtParser ServiceTokenClaims) (tokenString secret : String)
    (now : Int) : Except String ServiceTokenClaims :=
  match parse tokenString secret with
  | none => .error "Invalid token"
  | some claims =>
    if claims.tokenType ≠ "service" then .error "Invalid token type"
    else if claims.expiresAt.any (· < now) then .error "Token expired"
    else .ok claims

/-! ## Extracting the token -/

/-- The parts of a `*fiber.Ctx` the token middlewares read: `c.Path()`, and `c.Get`, `c.Query`
and `c.Cookies`, each `""` for a name the request does not carry. -/
structure Ctx where
  path : String
  header : String → String
  query : String → String
  cookies : String → String

/-- The case fold of an ASCII letter. -/
def foldASCII (c : Char) : Char := if 'A' ≤ c ∧ c ≤ 'Z' then Char.ofNat (c.toNat + 32) else c

/-- `strings.EqualFold(s, t)`: the same runes up to case. ASCII letters fold as in Go, and runes
outside ASCII are compared as they are. That is Go's answer whenever `t` is ASCII, as the scheme
`Bearer` is: the text compared has as many bytes as `t`, so a rune outside ASCII in it leaves it
fewer runes than `t`, or an invalid byte, and Go's answer is `false` too. -/
def equalFold (s t : String) : Bool := s.data.map foldASCII == t.data.map foldASCII

/-- `unicode.IsSpace`: white space in Latin-1 and in the rest of Unicode. -/
def isSpace (c : Char) : Bool :=
  (0x09 ≤ c.toNat && c.toNat ≤ 0x0D) || c.toNat == 0x20 || c.toNat == 0x85 ||
    c.toNat == 0xA0 || c.toNat == 0x1680 || (0x2000 ≤ c.toNat && c.toNat ≤ 0x200A) ||
    c.toNat == 0x2028 || c.toNat == 0x2029 || c.toNat == 0x202F || c.toNat == 0x205F ||
    c.toNat == 0x3000

/-- `strings.TrimSpace(s)`. -/
def trimSpace (s : String) : String :=
  ⟨((s.data.dropWhile isSpace).reverse.dropWhile isSpace).reverse⟩

/-- `extractFromHeader(c, header, scheme)`. `len` and the slices count bytes; on an ASCII
scheme that agrees with counting runes, since the test only succeeds on ASCII runes. -/
def extractFromHeader (c : Ctx) (header scheme : String) : String :=
  let auth := c.header header
  if auth = "" then ""
  else if scheme ≠ "" then
    if scheme.length < auth.length ∧ equalFold ⟨auth.data.take scheme.length⟩ scheme then
      trimSpace ⟨auth.data.drop scheme.length⟩
    else ""
  else auth

/-- `extractTokenFromRequest(c, lookup, scheme)`: `lookup` is `source:name`. -/
def extractTokenFromRequest (c : Ctx) (lookup scheme : String) : String :=
  match Strings.split lookup ':' with
  | [source, name] =>
    if source = "header" then extractFromHeader c name scheme
    else if source = "query" then c.query name
    else if source = "cookie" then c.cookies name
    else ""
  | _ => ""

/-! ## The middlewares -/

/-- What a token middleware does with one request. -/
structure Outcome (Locals : Type) where
  /-- `c.Next()`, or the answer of the handler it returns through. -/
  reply : Reply
  /-- The token it extracted (`""` when it found none), if it went as far as to look for one. -/
  token : Option String
  /-- What it stores in `c.Locals` before it goes on. -/
  locals : Option Locals

/-- The stages the token middlewares share: a disabled configuration or a skipped path passes
the request on untouched; otherwise `authenticate` decides on the extracted token. -/
def skipOrAuthenticate {Locals : Type} (enabled skipped : Bool) (token : String)
    (authenticate : String → Reply × Option Locals) : Outcome Locals :=
  if !enabled then ⟨.next, none, none⟩
  else if skipped then ⟨.next, none, none⟩
  else ⟨(authenticate token).1, some token, (authenticate token).2⟩

/-- The skip test of `AuthMiddleware` and `OAuthIntrospectionMiddleware`:
`strings.HasPrefix(path, skipPath) || path == skipPath`. -/
def prefixOrEqual (path skipPath : String) : Bool :=
  Strings.hasPrefix path skipPath || path == skipPath

/-- `AuthConfig`. `ErrorHandler` answers from the error's text, `SuccessHandler` from the claims
stored in the context, and `Validator` checks a token in place of `validateToken`; each is
`none` when nil. -/
structure AuthConfig where
  enabled : Bool
  secret : String
  skipPaths : List String
  tokenLookup : String
  authScheme : String
  contextKey : String
  errorHandler : Option (String → Reply)
  successHandler : Option (TokenClaims → Reply)
  validator : Option (String → Except String TokenClaims)

/-- The error handler `AuthMiddleware` and `ServiceAuthMiddleware` set when there is none. -/
def unauthorized (_err : String) : Reply := .status 401 [("error", .str "Unauthorized")]

/-- `DefaultAuthConfig()`. -/
def defaultAuthConfig : AuthConfig where
  enabled := true
  secret := ""
  skipPaths := ["/health", "/ready", "/api/v1/auth/login", "/api/v1/auth/register"]
  tokenLookup := "header:Authorization"
  authScheme := "Bearer"
  contextKey := "user"
  errorHandler := some unauthorized
  successHandler := none
  validator := none

/-- The defaults `AuthMiddleware` and `ServiceAuthMiddleware` give the empty text fields;
`contextKey` is the middleware's own default context key. A nil error handler is replaced by
`unauthorized` where it is called. -/
def AuthConfig.withDefaults (config : AuthConfig) (contextKey : String) : AuthConfig :=
  { config with
    tokenLookup := if config.tokenLookup = "" then "header:Authorization" else config.tokenLookup
    authScheme := if config.authScheme = "" then "Bearer" else config.authScheme
    contextKey := if config.contextKey = "" then contextKey else config.contextKey }

/-- The token stage of `AuthMiddleware`: no token, or a token `Validator` (or else
`validateToken`) rejects, goes to the error handler; the claims of a token that checks are
stored under the context key (and their fields under fixed keys), and the success handler
answers if there is one. -/
def authenticate (config : AuthConfig) (parse : JwtParser TokenClaims) (now : Int)
    (token : String) : Reply × Option (String × TokenClaims) :=
  let errorHandler := config.errorHandler.getD unauthorized
  if token = "" then (errorHandler "No token provided", none)
  else
    let checked := match config.validator with
      | some validator => validator token
      | none => validateToken parse token config.secret now
    match checked with
    | .error err => (errorHandler err, none)
    | .ok claims =>
      ((config.successHandler.map (· claims)).getD .next, some (config.contextKey, claims))

/-- `AuthMiddleware(config)` on one request; `now` is the instant `validateToken` reads. -/
def authMiddleware (config : AuthConfig) (parse : JwtParser TokenClaims) (now : Int) (c : Ctx) :
    Outcome (String × TokenClaims) :=
  let config := config.withDefaults "user"
  skipOrAuthenticate config.enabled (config.skipPaths.any (prefixOrEqual c.path))
    (extractTokenFromRequest c config.tokenLookup config.authScheme)
    (authenticate config parse now)

/-- The token stage of `ServiceAuthMiddleware`: `validateServiceToken` alone decides, and the
claims of a token that checks are stored under the context key. -/
def authenticateService (config : AuthConfig) (parse : JwtParser ServiceTokenClaims) (now : Int)
    (token : String) : Reply × Option (String × ServiceTokenClaims) :=
  let errorHandler := config.errorHandler.getD unauthorized
  if token = "" then (errorHandler "No token provided", none)
  else
    match validateServiceToken parse token config.secret now with
    | .error err => (errorHandler err, none)
    | .ok claims => (.next, some (config.contextKey, claims))

/-- `ServiceAuthMiddleware(config)` on one request. -/
def serviceAuthMiddleware (config : AuthConfig) (parse : JwtParser ServiceTokenClaims)
    (now : Int) (c : Ctx) : Outcome (String × ServiceTokenClaims) :=
  let config := config.withDefaults "service"
  skipOrAuthenticate config.enabled (config.skipPaths.any (Strings.hasPrefix c.path))
    (extractTokenFromRequest c config.tokenLookup config.authScheme)
    (authenticateService config parse now)

/-- The fields of `IntrospectionResponse` the middleware reads; it stores the whole response. -/
structure IntrospectionResponse where
  active : Bool
  clientID : String
  tokenType : String
  scope : String
  scopes : List String
  tenantID : String
  deriving DecidableEq, Repr

/-- `introspectToken(config, token)`: the endpoint's answer, or the error's text. It reads the
URL, the client's credentials and the timeout of the configuration. -/
abbrev Introspector := String → Except String IntrospectionResponse

/-- `OAuthIntrospectionConfig`, without the fields only `introspectToken` reads. -/
structure OAuthIntrospectionConfig where
  enabled : Bool
  skipPaths : List String
  tokenLookup : String
  authScheme : String
  errorHandler : Option (String → Reply)
  requiredScopes : List String

/-- The error handler `OAuthIntrospectionMiddleware` sets when there is none. -/
def oauthUnauthorized (err : String) : Reply :=
  .status 401 [("success", .bool false), ("error", .str "Unauthorized"), ("message", .str err)]

/-- `DefaultOAuthIntrospectionConfig()`. -/
def defaultOAuthIntrospectionConfig : OAuthIntrospectionConfig where
  enabled := true
  skipPaths := ["/health", "/ready", "/metrics"]
  tokenLookup := "header:Authorization"
  authScheme := "Bearer"
  errorHandler := some oauthUnauthorized
  requiredScopes := []

/-- The token stage of `OAuthIntrospectionMiddleware`: the endpoint's error, an inactive token
and missing scopes reject; an active token with the scopes stores the response. -/
def introspect (config : OAuthIntrospectionConfig) (introspector : Introspector)
    (token : String) : Reply × Option IntrospectionResponse :=
  let errorHandler := config.errorHandler.getD oauthUnauthorized
  if token = "" then (errorHandler "No token provided", none)
  else
    match introspector token with
    | .error err => (errorHandler err, none)
    | .ok response =>
      if !response.active then (errorHandler "Token is not active", none)
      else
        match oauthRequiredScopes config.requiredScopes
            (introspectionScopes response.scopes response.scope) with
        | .next => (.next, some response)
        | .status code body => (.status code body, none)

/-- `OAuthIntrospectionMiddleware(config)` on one request. -/
def oauthIntrospectionMiddleware (config : OAuthIntrospectionConfig) (introspector : Introspector)
    (c : Ctx) : Outcome IntrospectionResponse :=
  let tokenLookup := if config.tokenLookup = "" then "header:Authorization" else config.tokenLookup
  let authScheme := if config.authScheme = "" then "Bearer" else config.authScheme
  skipOrAuthenticate config.enabled (config.skipPaths.any (prefixOrEqual c.path))
    (extractTokenFromRequest c tokenLookup authScheme) (introspect config introspector)

/-! ## Skipped paths -/

/-- The middleware passed the request on without looking for a token, and stored nothing. -/
def Outcome.Untouched {Locals : Type} (outcome : Outcome Locals) : Prop :=
  outcome.reply = .next ∧ outcome.token = none ∧ outcome.locals = none

/-- A middleware passes a request on untouched exactly when auth is disabled or the path is
skipped; otherwise it looks for the token. -/
theorem skipOrAuthenticate_untouched_iff {Locals : Type} {enabled skipped : Bool}
    {token : String} {authenticate : String → Reply × Option Locals} :
    (skipOrAuthenticate enabled skipped token authenticate).Untouched ↔
      enabled = false ∨ skipped = true := by
  unfold skipOrAuthenticate Outcome.Untouched
  cases enabled <;> cases skipped <;> simp

/-- The `path == skipPath` of `AuthMiddleware` and `OAuthIntrospectionMiddleware` adds
nothing: a path starts with itself. -/
theorem prefixOrEqual_eq_hasPrefix (path skipPath : String) :
    prefixOrEqual path skipPath = Strings.hasPrefix path skipPath := by
  by_cases same : path = skipPath
  · subst same
    simp [prefixOrEqual, Strings.hasPrefix_iff.mpr (List.prefix_refl _)]
  · simp [prefixOrEqual, same]

theorem authMiddleware_untouched_iff (config : AuthConfig) (parse : JwtParser TokenClaims)
    (now : Int) (c : Ctx) : (authMiddleware config parse now c).Untouched ↔
      config.enabled = false ∨
        ∃ skipPath ∈ config.skipPaths, Strings.hasPrefix c.path skipPath = true := by
  simp [authMiddleware, skipOrAuthenticate_untouched_iff, AuthConfig.withDefaults,
    prefixOrEqual_eq_hasPrefix]

theorem serviceAuthMiddleware_untouched_iff (config : AuthConfig)
    (parse : JwtParser ServiceTokenClaims) (now : Int) (c : Ctx) :
    (serviceAuthMiddleware config parse now c).Untouched ↔
      config.enabled = false ∨
        ∃ skipPath ∈ config.skipPaths, Strings.hasPrefix c.path skipPath = true := by
  simp [serviceAuthMiddleware, skipOrAuthenticate_untouched_iff, AuthConfig.withDefaults]

theorem oauthIntrospectionMiddleware_untouched_iff (config : OAuthIntrospectionConfig)
    (introspector : Introspector) (c : Ctx) :
    (oauthIntrospectionMiddleware config introspector c).Untouched ↔
      config.enabled = false ∨
        ∃ skipPath ∈ config.skipPaths, Strings.hasPrefix c.path skipPath = true := by
  simp [oauthIntrospectionMiddleware, skipOrAuthenticate_untouched_iff, prefixOrEqual_eq_hasPrefix]

section Remote

variable {cfg : RemoteServiceAuthConfig} {validate : TokenValidator} {cache : TokenCache}
  {now setAt sweepAt : Int} {req : Request}

/-- `RemoteServiceAuthMiddleware` answers before the bearer check, with `c.Next()` and no
service info, exactly when auth is disabled or the path is skipped. -/
theorem beforeValidation_eq_next_iff :
    beforeValidation cfg cache now req = .answered .next none ↔
      cfg.enabled = false ∨ cfg.skipPaths.any (Strings.hasPrefix req.path) = true := by
  unfold beforeValidation
  by_cases enabled : cfg.enabled = false
  · simp [enabled]
  by_cases skipped : cfg.skipPaths.any (Strings.hasPrefix req.path) = true
  · simp [skipped]
  have turnedOn : cfg.enabled = true := by simpa using enabled
  rw [if_neg (by simp [turnedOn]), if_neg skipped]
  simp only [enabled, skipped, or_self, iff_false]
  split_ifs
  · simp
  · split
    · split_ifs <;> simp
    · simp

/-- After `ValidateToken` the request is passed on only with the validation result stored. -/
theorem afterValidation_stores (token : String) (answer : Except String TokenValidationResult) :
    ¬((afterValidation cfg cache setAt sweepAt token answer).reply = .next ∧
      (afterValidation cfg cache setAt sweepAt token answer).locals = none) := by
  unfold afterValidation
  split
  · simp
  · split_ifs <;> simp

theorem remoteServiceAuthMiddleware_untouched_iff :
    ((remoteServiceAuthMiddleware cfg validate cache now setAt sweepAt req).reply = .next ∧
      (remoteServiceAuthMiddleware cfg validate cache now setAt sweepAt req).locals = none) ↔
      cfg.enabled = false ∨
        ∃ skipPath ∈ cfg.skipPaths, Strings.hasPrefix req.path skipPath = true := by
  rw [← List.any_eq_true, ← @beforeValidation_eq_next_iff cfg cache now req]
  cases stage : beforeValidation cfg cache now req with
  | answered reply locals => simp [remoteServiceAuthMiddleware, stage]
  | validating token =>
    simp only [remoteServiceAuthMiddleware, stage, reduceCtorEq, iff_false]
    exact afterValidation_stores token _

end Remote

/-- A request for `/api/v1/auth/login-history` that carries no token anywhere. -/
def loginHistory : Ctx := ⟨"/api/v1/auth/login-history", fun _ => "", fun _ => "", fun _ => ""⟩

/-- **Skip paths are matched as string prefixes.** Each of the four middlewares passes a request
on without looking at its token (and stores nothing) exactly when auth is disabled or the path
starts with a skip path as a string. `/api/v1/auth/login-history` is neither
`/api/v1/auth/login` nor below it, yet under `DefaultAuthConfig` it passes with no token. -/
theorem skipPaths_are_string_prefixes :
    (∀ (config : AuthConfig) (parse : JwtParser TokenClaims) (now : Int) (c : Ctx),
      (authMiddleware config parse now c).Untouched ↔
        config.enabled = false ∨ ∃ skipPath ∈ config.skipPaths, Strings.hasPrefix c.path skipPath = true) ∧
    (∀ (config : AuthConfig) (parse : JwtParser ServiceTokenClaims) (now : Int) (c : Ctx),
      (serviceAuthMiddleware config parse now c).Untouched ↔
        config.enabled = false ∨ ∃ skipPath ∈ config.skipPaths, Strings.hasPrefix c.path skipPath = true) ∧
    (∀ (config : OAuthIntrospectionConfig) (introspector : Introspector) (c : Ctx),
      (oauthIntrospectionMiddleware config introspector c).Untouched ↔
        config.enabled = false ∨ ∃ skipPath ∈ config.skipPaths, Strings.hasPrefix c.path skipPath = true) ∧
    (∀ (cfg : RemoteServiceAuthConfig) (validate : TokenValidator) (cache : TokenCache)
        (now setAt sweepAt : Int) (req : Request),
      ((remoteServiceAuthMiddleware cfg validate cache now setAt sweepAt req).reply = .next ∧
        (remoteServiceAuthMiddleware cfg validate cache now setAt sweepAt req).locals = none) ↔
        cfg.enabled = false ∨ ∃ skipPath ∈ cfg.skipPaths, Strings.hasPrefix req.path skipPath = true) ∧
    (∀ (parse : JwtParser TokenClaims) (now : Int),
      (authMiddleware defaultAuthConfig parse now loginHistory).Untouched) ∧
    ∀ skipPath ∈ defaultAuthConfig.skipPaths, loginHistory.path ≠ skipPath ∧
      Strings.hasPrefix loginHistory.path (skipPath ++ "/") = false := by
  refine ⟨authMiddleware_untouched_iff, serviceAuthMiddleware_untouched_iff,
    oauthIntrospectionMiddleware_untouched_iff,
    fun _ _ _ _ _ _ _ => remoteServiceAuthMiddleware_untouched_iff,
    fun parse now => (authMiddleware_untouched_iff _ parse now _).mpr (.inr ?_), by decide⟩
  exact ⟨"/api/v1/auth/login", by decide, by decide⟩

end GoCommon.Auth.Middleware
