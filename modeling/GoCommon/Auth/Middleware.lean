import GoCommon.Auth.Scope
import GoCommon.Auth.TokenCache

/-!
# The service-auth paths

`RemoteServiceAuthMiddleware` (HTTP) and `UnaryAuthInterceptor` / `StreamAuthInterceptor`
(gRPC) admit a call after checking a bearer token against a remote validator, with the token
caches of `GoCommon.Auth.TokenCache` in front of the validator. Each handles one request as a
function of its configuration, the validator, the cache and the clock readings, and returns its
reply, the token it passed to `ValidateToken` (if it called it) and the cache it leaves.

A cache hit is admitted without looking at `Valid`: that is sound only because the cache holds
valid results alone. `AuthEvent` runs the global caches through any sequence of requests, under
any configurations and validators, and of invalidations and clears; `allValid_authRun` shows the
invariant on every state such a run reaches.
-/

namespace GoCommon.Auth

/-- What a remote validator answers for a token: an error, or a non-nil result. -/
abbrev TokenValidator := String → Except String TokenValidationResult

/-- Every entry of the cache holds a result with `Valid` set. -/
def AllValid (cache : TokenCache) : Prop := cache.All fun cached => cached.result.valid = true

namespace AllValid

variable {cache : TokenCache}

theorem empty : AllValid TokenCache.empty := fun _ _ found => by simp [TokenCache.empty] at found

theorem get (valid : AllValid cache) {token : String} {now : Int}
    {result : TokenValidationResult} (hit : cache.get token now = some result) :
    result.valid = true := by
  simp only [TokenCache.get] at hit
  split at hit
  · cases hit
  · rename_i cached found
    split at hit
    · cases hit
    · cases hit
      exact valid token cached found

theorem set (valid : AllValid cache) {token : String} {result : TokenValidationResult}
    (fresh : result.valid = true) (ttl now sweepAt : Int) :
    AllValid (cache.set token result ttl now sweepAt) := by
  have stored : AllValid ⟨cache.cache.insert token ⟨result, now + ttl⟩⟩ := by
    intro key cached found
    by_cases same : key = token
    · subst same
      simp only [AList.lookup_insert, Option.some.injEq] at found
      exact found ▸ fresh
    · exact valid key cached (by simpa [AList.lookup_insert_ne same] using found)
  simp only [TokenCache.set]
  split
  · intro key cached found
    simp only [TokenCache.cleanup, GoMap.lookup_deleteWhere, Option.filter_eq_some] at found
    exact stored key cached found.1
  · exact stored

theorem invalidate (valid : AllValid cache) (token : String) : AllValid (cache.invalidate token) :=
  fun key cached found => by
    by_cases same : key = token
    · subst same
      simp [TokenCache.invalidate, AList.lookup_erase] at found
    · exact valid key cached (by simpa [TokenCache.invalidate, AList.lookup_erase_ne same] using found)

end AllValid

/-- The validation result a request is decided on: an unexpired cache entry, or else the answer
of `ValidateToken`. -/
def validationFor (cache : TokenCache) (validate : TokenValidator) (token : String) (now : Int) :
    Except String TokenValidationResult :=
  match cache.get token now with
  | some cached => .ok cached
  | none => validate token

/-- The decision the design asks of an auth path on a call it checks. -/
inductive Decision where
  | allow
  | unauthenticated
  | permissionDenied
  deriving DecidableEq, Repr

/-- The design's decision on a call that is neither exempt nor unchecked: without the bearer
prefix, or with a validation error or an invalid result, the call is unauthenticated; a
required scope the result does not grant is a permission failure; anything else is admitted. -/
def decisionFor (bearer : Bool) (requiredScope : String) (grants : List String → String → Bool)
    (validation : Except String TokenValidationResult) : Decision :=
  if !bearer then .unauthenticated
  else
    match validation with
    | .error _ => .unauthenticated
    | .ok result =>
      if !result.valid then .unauthenticated
      else if requiredScope != "" && !grants result.scopes requiredScope then .permissionDenied
      else .allow

/-- The cache TTL of both paths: the configured one, or five minutes for zero. -/
def effectiveTTL (cacheTTL : Int) : Int := if cacheTTL = 0 then 5 * 60 * 1000000000 else cacheTTL

/-- A fiber reply carries out a decision: `c.Next()` admits, 401 and 403 reject. -/
def Reply.Carries : Reply → Decision → Prop
  | .next, .allow => True
  | .status 401 _, .unauthenticated => True
  | .status 403 _, .permissionDenied => True
  | _, _ => False

namespace Middleware

/-- `RemoteServiceAuthConfig`, without the validator and the logger. -/
structure RemoteServiceAuthConfig where
  cacheTTL : Int
  skipPaths : List String
  requiredScope : String
  enabled : Bool

/-- The parts of a fiber request the middleware reads: `c.Path()` and `c.Get("Authorization")`
(empty when absent). -/
structure Request where
  path : String
  authorization : String

/-- What the middleware does with one request. -/
structure Handled where
  /-- `c.Next()`, or the status and JSON body it answers with. -/
  reply : Reply
  /-- The validation result whose fields it stores in `c.Locals` before `c.Next()`. -/
  locals : Option TokenValidationResult
  /-- The token it passed to `ValidateToken`, if it called it. -/
  validated : Option String
  /-- `remoteTokenCache` afterwards. -/
  cache : TokenCache

/-- How far the handler gets before it calls `ValidateToken`. -/
inductive Stage where
  /-- It has answered: auth disabled, a skipped path, no bearer prefix, or a cache hit. -/
  | answered (reply : Reply) (locals : Option TokenValidationResult)
  /-- The cache missed: it calls `ValidateToken(ctx, token)`. -/
  | validating (token : String)

/-- The handler up to the call of `ValidateToken`; `now` is the reading of the cache read. -/
def beforeValidation (cfg : RemoteServiceAuthConfig) (cache : TokenCache) (now : Int)
    (req : Request) : Stage :=
  if !cfg.enabled then .answered .next none
  else if cfg.skipPaths.any (Strings.hasPrefix req.path) then .answered .next none
  else if req.authorization == "" || !Strings.hasPrefix req.authorization "Bearer " then
    .answered (.status 401 [("error", .str "Missing or invalid authorization header")]) none
  else
    let token := Strings.sliceFrom req.authorization 7
    match cache.get token now with
    | some cached =>
      if cfg.requiredScope != "" && !hasScopeInList cached.scopes cfg.requiredScope then
        .answered (.status 403 [("error", .str "Insufficient permissions")]) none
      else .answered .next (some cached)
    | none => .validating token

/-- The handler from the return of `ValidateToken` with `answer`; `setAt` and `sweepAt` are the
readings of the cache write. -/
def afterValidation (cfg : RemoteServiceAuthConfig) (cache : TokenCache) (setAt sweepAt : Int)
    (token : String) (answer : Except String TokenValidationResult) : Handled :=
  match answer with
  | .error _ => ⟨.status 401 [("error", .str "Invalid service token")], none, some token, cache⟩
  | .ok validation =>
    if !validation.valid then
      ⟨.status 401 [("error", .str "Token is not valid")], none, some token, cache⟩
    else
      let stored := cache.set token validation (effectiveTTL cfg.cacheTTL) setAt sweepAt
      if cfg.requiredScope != "" && !hasScopeInList validation.scopes cfg.requiredScope then
        ⟨.status 403 [("error", .str "Insufficient permissions"),
          ("required", .str cfg.requiredScope)], none, some token, stored⟩
      else ⟨.next, some validation, some token, stored⟩

/-- `RemoteServiceAuthMiddleware(cfg)` on one request, run without interruption. -/
def remoteServiceAuthMiddleware (cfg : RemoteServiceAuthConfig) (validate : TokenValidator)
    (cache : TokenCache) (now setAt sweepAt : Int) (req : Request) : Handled :=
  match beforeValidation cfg cache now req with
  | .answered reply locals => ⟨reply, locals, none, cache⟩
  | .validating token => afterValidation cfg cache setAt sweepAt token (validate token)

theorem hasPrefix_empty_bearer : Strings.hasPrefix "" "Bearer " = false := rfl

variable {cfg : RemoteServiceAuthConfig} {validate : TokenValidator} {cache : TokenCache}
  {now setAt sweepAt : Int} {req : Request}

/-- The middleware carries out the design's decision: it admits a disabled or skipped request,
and otherwise decides on the bearer prefix and the validation result of the token. -/
theorem remoteServiceAuthMiddleware_carries (valid : AllValid cache) :
    (remoteServiceAuthMiddleware cfg validate cache now setAt sweepAt req).reply.Carries
      (if cfg.enabled = false ∨ ∃ path ∈ cfg.skipPaths, Strings.hasPrefix req.path path = true
        then .allow
        else decisionFor (Strings.hasPrefix req.authorization "Bearer ") cfg.requiredScope
          hasScopeInList (validationFor cache validate (Strings.sliceFrom req.authorization 7) now)) := by
  unfold remoteServiceAuthMiddleware beforeValidation afterValidation
  by_cases enabled : cfg.enabled = false
  · simp [enabled, Reply.Carries]
  by_cases skipped : ∃ path ∈ cfg.skipPaths, Strings.hasPrefix req.path path = true
  · simp [enabled, skipped, Reply.Carries]
  have enabled : cfg.enabled = true := by simpa using enabled
  have kept : cfg.skipPaths.any (Strings.hasPrefix req.path) = false := by simpa using skipped
  by_cases bearer : Strings.hasPrefix req.authorization "Bearer " = true
  · have present : req.authorization ≠ "" := by
      rintro empty
      rw [empty, hasPrefix_empty_bearer] at bearer
      cases bearer
    simp only [enabled, kept, bearer, present, Bool.not_true, Bool.false_or, beq_iff_eq,
      if_false, decisionFor, validationFor, reduceCtorEq, false_or, skipped, or_false,
      Bool.false_eq_true, ite_false, Bool.not_false]
    cases hit : cache.get (Strings.sliceFrom req.authorization 7) now with
    | some cached =>
      have fresh := valid.get hit
      by_cases denied : (cfg.requiredScope != "" && !hasScopeInList cached.scopes cfg.requiredScope) = true <;>
        simp [hit, fresh, denied, present, Reply.Carries]
    | none =>
      cases answer : validate (Strings.sliceFrom req.authorization 7) with
      | error err => simp [answer, present, Reply.Carries]
      | ok validation =>
        by_cases fresh : validation.valid = true
        · by_cases denied :
              (cfg.requiredScope != "" && !hasScopeInList validation.scopes cfg.requiredScope) = true <;>
            simp [answer, fresh, denied, present, Reply.Carries]
        · simp [answer, fresh, present, Reply.Carries]
  · simp [enabled, kept, bearer, skipped, decisionFor, Reply.Carries]

/-- A request without the bearer prefix is rejected before the cache and the validator. -/
theorem remoteServiceAuthMiddleware_missing_prefix (enabled : cfg.enabled = true)
    (kept : ¬∃ path ∈ cfg.skipPaths, Strings.hasPrefix req.path path = true)
    (missing : Strings.hasPrefix req.authorization "Bearer " = false) :
    remoteServiceAuthMiddleware cfg validate cache now setAt sweepAt req =
      ⟨.status 401 [("error", .str "Missing or invalid authorization header")], none, none,
        cache⟩ := by
  have kept : cfg.skipPaths.any (Strings.hasPrefix req.path) = false := by simpa using kept
  simp [remoteServiceAuthMiddleware, beforeValidation, enabled, missing, kept]

/-- The handler's only cache write stores a result the validator found valid. -/
theorem afterValidation_cache (token : String) (answer : Except String TokenValidationResult) :
    (afterValidation cfg cache setAt sweepAt token answer).cache = cache ∨
      ∃ result, answer = .ok result ∧ result.valid = true ∧
        (afterValidation cfg cache setAt sweepAt token answer).cache =
          cache.set token result (effectiveTTL cfg.cacheTTL) setAt sweepAt := by
  unfold afterValidation
  dsimp only
  repeat' split
  all_goals first
    | exact .inl rfl
    | exact .inr ⟨_, rfl, by simpa using ‹¬(!_) = true›, rfl⟩

theorem remoteServiceAuthMiddleware_cache :
    (remoteServiceAuthMiddleware cfg validate cache now setAt sweepAt req).cache = cache ∨
      ∃ token result, result.valid = true ∧
        (remoteServiceAuthMiddleware cfg validate cache now setAt sweepAt req).cache =
          cache.set token result (effectiveTTL cfg.cacheTTL) setAt sweepAt := by
  unfold remoteServiceAuthMiddleware
  split
  · exact .inl rfl
  · exact (afterValidation_cache _ _).imp id fun ⟨result, _, fresh, stored⟩ =>
      ⟨_, result, fresh, stored⟩

end Middleware

namespace Grpc

/-- A `status.Error(code, message)`. -/
structure RpcStatus where
  code : UInt32
  message : String
  deriving DecidableEq, Repr

/-- `codes.PermissionDenied`. -/
def PermissionDenied : UInt32 := 7
/-- `codes.Unauthenticated`. -/
def Unauthenticated : UInt32 := 16

/-- `AuthInterceptorConfig`, without the validator and the logger. `scopeMap` is nil, or a map
read as Go reads it, with `""` for a missing method. -/
structure AuthInterceptorConfig where
  cacheTTL : Int
  scopeMap : Option (String → String)
  skipMethods : List String
  enabled : Bool

/-- The parts of a call the interceptors read: `info.FullMethod`, and `md.Get("authorization")`
of the incoming metadata (`none` when the context carries none). -/
structure Request where
  fullMethod : String
  authorization : Option (List String)

/-- What an interceptor does with one call. -/
structure Handled where
  /-- The handler is called with the context carrying `serviceInfo` (`none`: the context
  unchanged), or the call fails with a status. -/
  reply : Except RpcStatus (Option TokenValidationResult)
  /-- The token it passed to `ValidateToken`, if it called it. -/
  validated : Option String
  /-- `tokenCache` afterwards. -/
  cache : TokenCache

/-- `validateGRPCToken(ctx, cfg)`: the result whose fields `addServiceInfoToContext` puts in the
context, the token passed to `ValidateToken`, and the cache afterwards. -/
def validateGRPCToken (cfg : AuthInterceptorConfig) (validate : TokenValidator)
    (cache : TokenCache) (now setAt sweepAt : Int) (authorization : Option (List String)) :
    Except RpcStatus TokenValidationResult × Option String × TokenCache :=
  match authorization with
  | none => (.error ⟨Unauthenticated, "missing metadata"⟩, none, cache)
  | some [] => (.error ⟨Unauthenticated, "missing authorization header"⟩, none, cache)
  | some (authHeader :: _) =>
    let token := Strings.trimPrefix authHeader "Bearer "
    if token = authHeader then (.error ⟨Unauthenticated, "invalid authorization format"⟩, none, cache)
    else
      match cache.get token now with
      | some cached => (.ok cached, none, cache)
      | none =>
        match validate token with
        | .error _ => (.error ⟨Unauthenticated, "token validation failed"⟩, some token, cache)
        | .ok validation =>
          if !validation.valid then (.error ⟨Unauthenticated, "invalid token"⟩, some token, cache)
          else (.ok validation, some token,
            cache.set token validation (effectiveTTL cfg.cacheTTL) setAt sweepAt)

/-- The body shared by `UnaryAuthInterceptor` and `StreamAuthInterceptor`. The scope check reads
the scopes back from the context `addServiceInfoToContext` built, where they always are a
`[]string`. -/
def authInterceptor (cfg : AuthInterceptorConfig) (validate : TokenValidator)
    (cache : TokenCache) (now setAt sweepAt : Int) (req : Request) : Handled :=
  if !cfg.enabled then ⟨.ok none, none, cache⟩
  else if cfg.skipMethods.any (· == req.fullMethod) then ⟨.ok none, none, cache⟩
  else
    let (checked, validated, cache') :=
      validateGRPCToken cfg validate cache now setAt sweepAt req.authorization
    match checked with
    | .error status => ⟨.error status, validated, cache'⟩
    | .ok result =>
      match cfg.scopeMap with
      | none => ⟨.ok (some result), validated, cache'⟩
      | some scopeMap =>
        if scopeMap req.fullMethod != "" && !hasScope result.scopes (scopeMap req.fullMethod) then
          ⟨.error ⟨PermissionDenied, "insufficient permissions"⟩, validated, cache'⟩
        else ⟨.ok (some result), validated, cache'⟩

/-- An interceptor's reply carries out a decision: calling the handler admits, `Unauthenticated`
and `PermissionDenied` reject. -/
def Carries : Except RpcStatus (Option TokenValidationResult) → Decision → Prop
  | .ok _, .allow => True
  | .error status, .unauthenticated => status.code = Unauthenticated
  | .error status, .permissionDenied => status.code = PermissionDenied
  | _, _ => False

/-- The scope `ScopeMap` requires of a method, `""` for none. -/
def requiredScopeOf (cfg : AuthInterceptorConfig) (fullMethod : String) : String :=
  match cfg.scopeMap with
  | none => ""
  | some scopeMap => scopeMap fullMethod

/-- `UnaryAuthInterceptor(cfg)` on one call. -/
def unaryAuthInterceptor := authInterceptor

/-- `StreamAuthInterceptor(cfg)` on one stream; the handler gets the stream wrapped with the new
context. -/
def streamAuthInterceptor := authInterceptor

theorem trimPrefix_bearer_eq_self {authHeader : String} :
    Strings.trimPrefix authHeader "Bearer " = authHeader ↔
      Strings.hasPrefix authHeader "Bearer " = false := by
  by_cases bearer : Strings.hasPrefix authHeader "Bearer " = true
  · have long : 7 ≤ authHeader.data.length := by
      simpa using (Strings.hasPrefix_iff.mp bearer).length_le
    have shorter : (authHeader.data.drop 7).length < authHeader.data.length := by
      simp only [List.length_drop]
      omega
    have bearerLength : "Bearer ".length = 7 := rfl
    simp only [Strings.trimPrefix, bearer, bearerLength, if_true, Bool.true_eq_false, iff_false]
    intro same
    have lengths := congrArg (fun s : String => s.data.length) same
    simp only at lengths
    omega
  · simp [Strings.trimPrefix, bearer]

variable {cfg : AuthInterceptorConfig} {validate : TokenValidator} {cache : TokenCache}
  {now setAt sweepAt : Int} {req : Request}

/-- The interceptors carry out the design's decision: they admit a call when auth is disabled or
the method is skipped, and otherwise decide on the first `authorization` value's bearer prefix,
the validation result of its token and the scope `ScopeMap` requires. -/
theorem authInterceptor_carries (valid : AllValid cache) :
    Carries (authInterceptor cfg validate cache now setAt sweepAt req).reply
      (if cfg.enabled = false ∨ req.fullMethod ∈ cfg.skipMethods then .allow
        else match req.authorization with
          | some (authHeader :: _) =>
            decisionFor (Strings.hasPrefix authHeader "Bearer ") (requiredScopeOf cfg req.fullMethod)
              hasScope (validationFor cache validate (Strings.trimPrefix authHeader "Bearer ") now)
          | _ => .unauthenticated) := by
  unfold authInterceptor
  by_cases enabled : cfg.enabled = false
  · simp [enabled, Carries]
  by_cases skipped : req.fullMethod ∈ cfg.skipMethods
  · simp [enabled, skipped, Carries]
  have enabled : cfg.enabled = true := by simpa using enabled
  have kept : cfg.skipMethods.any (· == req.fullMethod) = false :=
    List.any_eq_false.mpr fun method mem same => skipped (beq_iff_eq.mp same ▸ mem)
  simp only [enabled, kept, skipped, Bool.not_true, Bool.false_eq_true, if_false, or_self]
  rcases req with ⟨fullMethod, _ | _ | ⟨authHeader, _⟩⟩
  · simp [validateGRPCToken, Carries, Unauthenticated]
  · simp [validateGRPCToken, Carries, Unauthenticated]
  by_cases bearer : Strings.hasPrefix authHeader "Bearer " = true
  swap
  · have same := trimPrefix_bearer_eq_self.mpr (by simpa using bearer)
    simp [validateGRPCToken, same, bearer, decisionFor, Carries, Unauthenticated]
  have differs : Strings.trimPrefix authHeader "Bearer " ≠ authHeader := fun same =>
    absurd (trimPrefix_bearer_eq_self.mp same) (by simp [bearer])
  simp only [validateGRPCToken, differs, if_false, decisionFor, bearer, validationFor]
  cases hit : cache.get (Strings.trimPrefix authHeader "Bearer ") now with
  | some cached =>
    have fresh := valid.get hit
    rcases scopes : cfg.scopeMap with _ | scopeMap
    · simp [fresh, requiredScopeOf, scopes, Carries]
    · by_cases denied : (scopeMap fullMethod != "" && !hasScope cached.scopes (scopeMap fullMethod)) = true <;>
        simp [fresh, requiredScopeOf, scopes, denied, Carries, PermissionDenied]
  | none =>
    cases validate (Strings.trimPrefix authHeader "Bearer ") with
    | error err => simp [Carries, Unauthenticated]
    | ok validation =>
      by_cases fresh : validation.valid = true
      · rcases scopes : cfg.scopeMap with _ | scopeMap
        · simp [fresh, requiredScopeOf, scopes, Carries]
        · by_cases denied :
              (scopeMap fullMethod != "" && !hasScope validation.scopes (scopeMap fullMethod)) = true <;>
            simp [fresh, requiredScopeOf, scopes, denied, Carries, PermissionDenied]
      · simp [fresh, Carries, Unauthenticated]

/-- `validateGRPCToken`'s only cache write stores a result the validator found valid. -/
theorem validateGRPCToken_cache (authorization : Option (List String)) :
    (validateGRPCToken cfg validate cache now setAt sweepAt authorization).2.2 = cache ∨
      ∃ token result, result.valid = true ∧
        (validateGRPCToken cfg validate cache now setAt sweepAt authorization).2.2 =
          cache.set token result (effectiveTTL cfg.cacheTTL) setAt sweepAt := by
  unfold validateGRPCToken
  dsimp only
  repeat' split
  all_goals first
    | exact .inl rfl
    | exact .inr ⟨_, _, by simpa using ‹¬(!_) = true›, rfl⟩

theorem authInterceptor_cache :
    (authInterceptor cfg validate cache now setAt sweepAt req).cache = cache ∨
      ∃ token result, result.valid = true ∧
        (authInterceptor cfg validate cache now setAt sweepAt req).cache =
          cache.set token result (effectiveTTL cfg.cacheTTL) setAt sweepAt := by
  have write := @validateGRPCToken_cache cfg validate cache now setAt sweepAt req.authorization
  unfold authInterceptor
  dsimp only
  repeat' split
  all_goals first
    | exact .inl rfl
    | exact write

/-- Without metadata, without an `authorization` value or without the bearer prefix, a call is
rejected before the cache and the validator. -/
theorem authInterceptor_no_bearer (enabled : cfg.enabled = true)
    (kept : req.fullMethod ∉ cfg.skipMethods)
    (noBearer : ∀ authHeader rest, req.authorization = some (authHeader :: rest) →
      Strings.hasPrefix authHeader "Bearer " = false) :
    (authInterceptor cfg validate cache now setAt sweepAt req).validated = none ∧
      (authInterceptor cfg validate cache now setAt sweepAt req).cache = cache := by
  have kept : cfg.skipMethods.any (· == req.fullMethod) = false :=
    List.any_eq_false.mpr fun method mem same => kept (beq_iff_eq.mp same ▸ mem)
  rcases req with ⟨fullMethod, _ | _ | ⟨authHeader, rest⟩⟩
  · simp [authInterceptor, validateGRPCToken, enabled, kept]
  · simp [authInterceptor, validateGRPCToken, enabled, kept]
  · have same := trimPrefix_bearer_eq_self.mpr (noBearer authHeader rest rfl)
    simp [authInterceptor, validateGRPCToken, enabled, kept, same]

end Grpc

end GoCommon.Auth
