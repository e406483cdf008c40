import GoCommon.Auth.Middleware

/-!
# Admission by the service-auth paths

The handlers of `GoCommon.Auth.Middleware` admit a cache hit without reading its `Valid` flag.
They are right to do so on every state of the cache the program can reach, which `Reachable`
describes: the caches start empty, and the only writes any interleaving of requests makes are a
`set` of a result the validator found valid (possibly long after the cache miss that led to the
call), an invalidation and a clear. `Reachable.allValid` gives the invariant, and the handlers'
own writes stay inside `Reachable`, wherever they fall in an interleaving.

`authPaths_admit_only_valid_tokens` puts the decisions of both paths together.
-/

namespace GoCommon.Auth

/-- The states of a token cache the auth paths can reach. -/
inductive Reachable : TokenCache → Prop where
  | empty : Reachable TokenCache.empty
  | set {cache : TokenCache} {token : String} {result : TokenValidationResult}
      (ttl setAt sweepAt : Int) :
      Reachable cache → result.valid = true → Reachable (cache.set token result ttl setAt sweepAt)
  | invalidate {cache : TokenCache} (token : String) :
      Reachable cache → Reachable (cache.invalidate token)

namespace Reachable

variable {cache : TokenCache}

theorem allValid (reachable : Reachable cache) : AllValid cache := by
  induction reachable with
  | empty => exact AllValid.empty
  | set ttl setAt sweepAt _ fresh valid => exact valid.set fresh ttl setAt sweepAt
  | invalidate token _ valid => exact valid.invalidate token

theorem of_write {written : TokenCache} {ttl setAt sweepAt : Int} (reachable : Reachable cache)
    (write : written = cache ∨ ∃ token result, result.valid = true ∧
      written = cache.set token result ttl setAt sweepAt) : Reachable written := by
  rcases write with rfl | ⟨token, result, fresh, rfl⟩
  · exact reachable
  · exact reachable.set ttl setAt sweepAt fresh

end Reachable

theorem decisionFor_eq_allow {bearer : Bool} {requiredScope : String}
    {grants : List String → String → Bool} {validation : Except String TokenValidationResult} :
    decisionFor bearer requiredScope grants validation = .allow ↔
      bearer = true ∧ ∃ result, validation = .ok result ∧ result.valid = true ∧
        (requiredScope = "" ∨ grants result.scopes requiredScope = true) := by
  cases bearer <;> cases validation <;> simp [decisionFor]
  case true.ok result =>
    by_cases fresh : result.valid = true <;> by_cases denied : grants result.scopes requiredScope
      <;> simp [fresh, denied]

theorem Reply.carries_allow {reply : Reply} : reply.Carries .allow ↔ reply = .next := by
  rcases reply with _ | ⟨code, body⟩
  · simp [Reply.Carries]
  · simp only [Reply.Carries, reduceCtorEq, iff_false]

theorem Grpc.carries_allow {reply : Except Grpc.RpcStatus (Option TokenValidationResult)} :
    Grpc.Carries reply .allow ↔ ∃ serviceInfo, reply = .ok serviceInfo := by
  rcases reply with status | serviceInfo <;> simp [Grpc.Carries]

theorem Reply.Carries.eq_next_iff {reply : Reply} {decision : Decision}
    (carries : reply.Carries decision) : reply = .next ↔ decision = .allow := by
  rcases reply with _ | ⟨code, body⟩ <;> cases decision <;> simp_all [Reply.Carries]

theorem Grpc.Carries.eq_ok_iff {reply : Except Grpc.RpcStatus (Option TokenValidationResult)}
    {decision : Decision} (carries : Grpc.Carries reply decision) :
    (∃ serviceInfo, reply = .ok serviceInfo) ↔ decision = .allow := by
  rcases reply with status | serviceInfo <;> cases decision <;> simp_all [Grpc.Carries]

section

variable {cache : TokenCache} {validate : TokenValidator} {now setAt sweepAt : Int}

/-- The HTTP middleware calls the next handler exactly when auth is disabled, the path has a
skip prefix, or the header has the bearer prefix and the token's validation result is valid and
grants the required scope, if one is configured. -/
theorem Middleware.remoteServiceAuthMiddleware_admits_iff
    {cfg : Middleware.RemoteServiceAuthConfig} {req : Middleware.Request}
    (reachable : Reachable cache) :
    (Middleware.remoteServiceAuthMiddleware cfg validate cache now setAt sweepAt req).reply =
        .next ↔
      cfg.enabled = false ∨ (∃ path ∈ cfg.skipPaths, Strings.hasPrefix req.path path = true) ∨
      (Strings.hasPrefix req.authorization "Bearer " = true ∧ ∃ result,
        validationFor cache validate (Strings.sliceFrom req.authorization 7) now = .ok result ∧
        result.valid = true ∧
        (cfg.requiredScope = "" ∨ Middleware.hasScopeInList result.scopes cfg.requiredScope = true)) := by
  rw [(Middleware.remoteServiceAuthMiddleware_carries reachable.allValid).eq_next_iff]
  split_ifs with exempt
  · simp only [true_iff, ← or_assoc]
    exact .inl exempt
  · rw [decisionFor_eq_allow, ← or_assoc, or_iff_right exempt]

/-- The gRPC interceptors call the handler exactly when auth is disabled, the method is skipped,
or the first `authorization` value has the bearer prefix and the token's validation result is
valid and grants the scope `ScopeMap` requires, if any. -/
theorem Grpc.authInterceptor_admits_iff {cfg : Grpc.AuthInterceptorConfig} {req : Grpc.Request}
    (reachable : Reachable cache) :
    (∃ serviceInfo,
        (Grpc.authInterceptor cfg validate cache now setAt sweepAt req).reply = .ok serviceInfo) ↔
      cfg.enabled = false ∨ req.fullMethod ∈ cfg.skipMethods ∨
      ∃ authHeader rest, req.authorization = some (authHeader :: rest) ∧
        Strings.hasPrefix authHeader "Bearer " = true ∧ ∃ result,
          validationFor cache validate (Strings.trimPrefix authHeader "Bearer ") now = .ok result ∧
          result.valid = true ∧ (Grpc.requiredScopeOf cfg req.fullMethod = "" ∨
            Grpc.hasScope result.scopes (Grpc.requiredScopeOf cfg req.fullMethod) = true) := by
  rw [(Grpc.authInterceptor_carries reachable.allValid).eq_ok_iff]
  split_ifs with exempt
  · simp only [true_iff, ← or_assoc]
    exact .inl exempt
  · rw [← or_assoc, or_iff_right exempt]
    rcases req with ⟨fullMethod, _ | _ | ⟨authHeader, rest⟩⟩ <;> simp [decisionFor_eq_allow]

end

/-- The decisions of both service-auth paths, on every reachable state of their caches and for
every validator. A request is admitted exactly when auth is disabled, it is exempt (skip prefix,
skipped method), or it carries the bearer prefix and the token's validation result, from an
unexpired cache entry or from `ValidateToken`, is valid and grants the required scope. A missing
prefix is unauthenticated before the validator is called; a validator error or an invalid result
is unauthenticated (401, `Unauthenticated`) and a missing scope is a permission failure (403,
`PermissionDenied`). The caches stay reachable, also when a write comes late in an interleaving,
and a reachable cache holds valid results only. -/
theorem authPaths_admit_only_valid_tokens :
    (∀ (cfg : Middleware.RemoteServiceAuthConfig) (validate : TokenValidator) (cache : TokenCache)
        (now setAt sweepAt : Int) (req : Middleware.Request), Reachable cache →
      ((Middleware.remoteServiceAuthMiddleware cfg validate cache now setAt sweepAt req).reply =
          .next ↔
        cfg.enabled = false ∨ (∃ path ∈ cfg.skipPaths, Strings.hasPrefix req.path path = true) ∨
        (Strings.hasPrefix req.authorization "Bearer " = true ∧ ∃ result,
          validationFor cache validate (Strings.sliceFrom req.authorization 7) now = .ok result ∧
          result.valid = true ∧ (cfg.requiredScope = "" ∨
            Middleware.hasScopeInList result.scopes cfg.requiredScope = true))) ∧
      (Middleware.remoteServiceAuthMiddleware cfg validate cache now setAt sweepAt req).reply.Carries
        (if cfg.enabled = false ∨ ∃ path ∈ cfg.skipPaths, Strings.hasPrefix req.path path = true
          then .allow
          else decisionFor (Strings.hasPrefix req.authorization "Bearer ") cfg.requiredScope
            Middleware.hasScopeInList
            (validationFor cache validate (Strings.sliceFrom req.authorization 7) now)) ∧
      (cfg.enabled = true → (¬∃ path ∈ cfg.skipPaths, Strings.hasPrefix req.path path = true) →
        Strings.hasPrefix req.authorization "Bearer " = false →
        (Middleware.remoteServiceAuthMiddleware cfg validate cache now setAt sweepAt req).validated =
          none) ∧
      Reachable (Middleware.remoteServiceAuthMiddleware cfg validate cache now setAt sweepAt req).cache) ∧
    (∀ (cfg : Middleware.RemoteServiceAuthConfig) (cache : TokenCache) (setAt sweepAt : Int)
        (token : String) (answer : Except String TokenValidationResult), Reachable cache →
      Reachable (Middleware.afterValidation cfg cache setAt sweepAt token answer).cache) ∧
    (∀ (cfg : Grpc.AuthInterceptorConfig) (validate : TokenValidator) (cache : TokenCache)
        (now setAt sweepAt : Int) (req : Grpc.Request), Reachable cache →
      ((∃ serviceInfo,
          (Grpc.authInterceptor cfg validate cache now setAt sweepAt req).reply = .ok serviceInfo) ↔
        cfg.enabled = false ∨ req.fullMethod ∈ cfg.skipMethods ∨
        ∃ authHeader rest, req.authorization = some (authHeader :: rest) ∧
          Strings.hasPrefix authHeader "Bearer " = true ∧ ∃ result,
            validationFor cache validate (Strings.trimPrefix authHeader "Bearer ") now = .ok result ∧
            result.valid = true ∧ (Grpc.requiredScopeOf cfg req.fullMethod = "" ∨
              Grpc.hasScope result.scopes (Grpc.requiredScopeOf cfg req.fullMethod) = true)) ∧
      Grpc.Carries (Grpc.authInterceptor cfg validate cache now setAt sweepAt req).reply
        (if cfg.enabled = false ∨ req.fullMethod ∈ cfg.skipMethods then .allow
          else match req.authorization with
            | some (authHeader :: _) =>
              decisionFor (Strings.hasPrefix authHeader "Bearer ")
                (Grpc.requiredScopeOf cfg req.fullMethod) Grpc.hasScope
                (validationFor cache validate (Strings.trimPrefix authHeader "Bearer ") now)
            | _ => .unauthenticated) ∧
      (cfg.enabled = true → req.fullMethod ∉ cfg.skipMethods →
        (∀ authHeader rest, req.authorization = some (authHeader :: rest) →
          Strings.hasPrefix authHeader "Bearer " = false) →
        (Grpc.authInterceptor cfg validate cache now setAt sweepAt req).validated = none) ∧
      Reachable (Grpc.authInterceptor cfg validate cache now setAt sweepAt req).cache) ∧
    (∀ cache : TokenCache, Reachable cache → AllValid cache) := by
  refine ⟨fun cfg validate cache now setAt sweepAt req reachable => ⟨?_, ?_, ?_, ?_⟩,
    fun cfg cache setAt sweepAt token answer reachable => ?_,
    fun cfg validate cache now setAt sweepAt req reachable => ⟨?_, ?_, ?_, ?_⟩,
    fun cache reachable => reachable.allValid⟩
  · exact Middleware.remoteServiceAuthMiddleware_admits_iff reachable
  · exact Middleware.remoteServiceAuthMiddleware_carries reachable.allValid
  · intro enabled kept missing
    rw [Middleware.remoteServiceAuthMiddleware_missing_prefix enabled kept missing]
  · exact reachable.of_write Middleware.remoteServiceAuthMiddleware_cache
  · exact reachable.of_write ((Middleware.afterValidation_cache token answer).imp id
      fun ⟨result, _, fresh, stored⟩ => ⟨token, result, fresh, stored⟩)
  · exact Grpc.authInterceptor_admits_iff reachable
  · exact Grpc.authInterceptor_carries reachable.allValid
  · exact fun enabled kept noBearer => (Grpc.authInterceptor_no_bearer enabled kept noBearer).1
  · exact reachable.of_write Grpc.authInterceptor_cache

end GoCommon.Auth
