import GoCommon.Auth.Admission

/-!
# Invalidation against validations in flight

`RemoteServiceAuthMiddleware` reads the cache under the read lock, calls `ValidateToken` with no
lock held, and writes the result under the write lock. `InvalidateToken` takes the write lock
once. Requests therefore interleave with each other and with invalidations between their cache
read and their cache write. The system below holds the global cache and the requests, each at
its place in the handler; a schedule is any sequence of the atomic steps (a request's cache read
with everything before it, a request's return from `ValidateToken` with everything after it, an
invalidation, a clear).

`lookup_after_invalidate` says what an invalidation or a clear guarantees on every schedule: a
read of the token answers only a result that a request validating that very token stored when it
completed, after the invalidation (`System.stored_by_completion`). Nothing bounds when that
request's call to `ValidateToken` began.
-/

namespace GoCommon.Auth.Middleware

/-- Where a request is in the handler. -/
inductive Phase where
  /-- Not yet at the cache read. -/
  | arrived
  /-- The cache missed; `ValidateToken(ctx, token)` is in flight. -/
  | validating (token : String)
  /-- The handler has returned `reply`. -/
  | finished (reply : Reply)
  deriving DecidableEq, Repr

/-- A request to a `RemoteServiceAuthMiddleware`, with the validator its call meets. -/
structure InFlight where
  cfg : RemoteServiceAuthConfig
  validate : TokenValidator
  req : Request
  phase : Phase

/-- The global cache and the requests being served. -/
structure System where
  cache : TokenCache
  requests : List InFlight

/-- An atomic step of the system. -/
inductive Action where
  /-- Request `i` runs up to its call of `ValidateToken`; its cache read sees the clock at
  `now`. -/
  | read (i : Nat) (now : Int)
  /-- The `ValidateToken` call of request `i` returns and the handler runs to its end; its cache
  write reads the clock at `setAt` and `sweepAt`. -/
  | complete (i : Nat) (setAt sweepAt : Int)
  /-- `InvalidateToken(token)`. -/
  | invalidate (token : String)
  /-- `ClearTokenCache()`. -/
  | clear
  deriving DecidableEq, Repr

namespace System

/-- Request `i` moves to `phase`. -/
def setPhase (s : System) (i : Nat) (request : InFlight) (phase : Phase) : System :=
  { s with requests := s.requests.set i { request with phase } }

/-- One atomic step; a step of a request that is not at that point does nothing. -/
def step (s : System) : Action → System
  | .read i now =>
    match s.requests[i]? with
    | some request =>
      match request.phase with
      | .arrived =>
        match beforeValidation request.cfg s.cache now request.req with
        | .answered reply _ => s.setPhase i request (.finished reply)
        | .validating token => s.setPhase i request (.validating token)
      | _ => s
    | none => s
  | .complete i setAt sweepAt =>
    match s.requests[i]? with
    | some request =>
      match request.phase with
      | .validating token =>
        let handled := afterValidation request.cfg s.cache setAt sweepAt token
          (request.validate token)
        { s.setPhase i request (.finished handled.reply) with cache := handled.cache }
      | _ => s
    | none => s
  | .invalidate token => { s with cache := s.cache.invalidate token }
  | .clear => { s with cache := TokenCache.empty }

/-- A schedule of steps. -/
def run (s : System) (schedule : List Action) : System := schedule.foldl step s

theorem cache_read (s : System) (i : Nat) (now : Int) : (s.step (.read i now)).cache = s.cache := by
  simp only [step]
  repeat' split
  all_goals rfl

theorem run_append_single (s : System) (schedule : List Action) (a : Action) :
    s.run (schedule ++ [a]) = (s.run schedule).step a := by
  simp [run, List.foldl_append]

/-- After a step, an entry of `token` is the one the token had before, or was written by a request
that was validating `token`, completed in this step, and whose validator answered with the entry's
result. -/
theorem lookup_step {s : System} {token : String} {a : Action} {cached : CachedValidation}
    (present : (s.step a).cache.cache.lookup token = some cached) :
    s.cache.cache.lookup token = some cached ∨
      ∃ i setAt sweepAt request, a = .complete i setAt sweepAt ∧ s.requests[i]? = some request ∧
        request.phase = .validating token ∧ request.validate token = .ok cached.result := by
  cases a with
  | read i now => exact .inl (by rwa [cache_read] at present)
  | complete i setAt sweepAt =>
    simp only [step] at present
    split at present
    · rename_i request found
      split at present
      · rename_i written validating
        rcases @afterValidation_cache request.cfg s.cache setAt sweepAt written
            (request.validate written) with same | ⟨result, answered, -, stored⟩
        · exact .inl (by rwa [same] at present)
        · rw [stored] at present
          rcases TokenCache.lookup_set_eq_some present with ⟨rfl, wrote⟩ | held
          · exact .inr ⟨i, setAt, sweepAt, request, rfl, found, validating, wrote ▸ answered⟩
          · exact .inl held
      · exact .inl present
    · exact .inl present
  | invalidate written =>
    by_cases same : token = written
    · subst same
      simp [step, TokenCache.invalidate, AList.lookup_erase] at present
    · exact .inl (by simpa [step, TokenCache.invalidate, AList.lookup_erase_ne same] using present)
  | clear => simp [step, TokenCache.empty] at present

/-- On every schedule from a state where `token` has no entry, an entry of `token` was written by
a request of the schedule that was validating `token` and completed with the entry's result. -/
theorem stored_by_completion {s : System} {token : String}
    (absent : s.cache.cache.lookup token = none) (schedule : List Action)
    {cached : CachedValidation} (present : (s.run schedule).cache.cache.lookup token = some cached) :
    ∃ before after i setAt sweepAt request,
      schedule = before ++ .complete i setAt sweepAt :: after ∧
      (s.run before).requests[i]? = some request ∧ request.phase = .validating token ∧
      request.validate token = .ok cached.result := by
  induction schedule using List.reverseRecOn generalizing cached with
  | nil => simp [run, absent] at present
  | append_singleton rest a ih =>
    rw [run_append_single] at present
    rcases lookup_step present with held | ⟨i, setAt, sweepAt, request, rfl, found, validating, answered⟩
    · obtain ⟨before, after, i, setAt, sweepAt, request, split, found, validating, answered⟩ :=
        ih held
      exact ⟨before, after ++ [a], i, setAt, sweepAt, request, by simp [split], found, validating,
        answered⟩
    · exact ⟨rest, [], i, setAt, sweepAt, request, rfl, found, validating, answered⟩

end System

/-- What `InvalidateToken(token)` and `ClearTokenCache()` guarantee on every schedule: after
either, a read that answers a result for the token has it from a request of the schedule, run
after the invalidation, that was validating the token and completed with that result from its
validator. Nothing bounds when that request's call to `ValidateToken` began. -/
theorem lookup_after_invalidate (s : System) (token : String) (revoke : Action)
    (revokes : revoke = .invalidate token ∨ revoke = .clear) (schedule : List Action) (now : Int)
    (result : TokenValidationResult)
    (served : ((s.step revoke).run schedule).cache.get token now = some result) :
    ∃ before after i setAt sweepAt request,
      schedule = before ++ .complete i setAt sweepAt :: after ∧
      ((s.step revoke).run before).requests[i]? = some request ∧
      request.phase = .validating token ∧ request.validate token = .ok result := by
  have absent : (s.step revoke).cache.cache.lookup token = none := by
    rcases revokes with rfl | rfl
    · simp [System.step, TokenCache.invalidate, AList.lookup_erase]
    · rfl
  cases found : ((s.step revoke).run schedule).cache.cache.lookup token with
  | none => simp [TokenCache.get, found] at served
  | some cached =>
    have stored : cached.result = result := by
      simp only [TokenCache.get, found] at served
      split at served
      · cases served
      · exact Option.some.inj served
    exact stored ▸ System.stored_by_completion absent schedule found

/-- A request for token `"t"` to a middleware with the default TTL, no skip path and no required
scope, whose call of `ValidateToken` answers `answer`. -/
def tokenRequest (answer : Except String TokenValidationResult) (phase : Phase) : InFlight :=
  ⟨⟨0, [], "", true⟩, fun _ => answer, ⟨"/api/charge", "Bearer t"⟩, phase⟩

/-- A valid result for token `"t"`. -/
def issuedResult : TokenValidationResult := ⟨true, "billing", "billing", "tenant", "", [], 0⟩

theorem lookup_after_invalidate_completion :
    (Action.invalidate "t" = .invalidate "t" ∨ Action.invalidate "t" = .clear) ∧
    ((System.step ⟨TokenCache.empty, [tokenRequest (.ok issuedResult) (.validating "t")]⟩
        (.invalidate "t")).run [.complete 0 1 1]).cache.get "t" 2 = some issuedResult ∧
    ∃ before after i setAt sweepAt request,
      [Action.complete 0 1 1] = before ++ .complete i setAt sweepAt :: after ∧
      ((System.step ⟨TokenCache.empty, [tokenRequest (.ok issuedResult) (.validating "t")]⟩
        (.invalidate "t")).run before).requests[i]? = some request ∧
      request.phase = .validating "t" ∧ request.validate "t" = .ok issuedResult :=
  ⟨.inl rfl, by decide, lookup_after_invalidate _ "t" _ (.inl rfl) [.complete 0 1 1] 2 issuedResult
    (by decide)⟩

/-- A validation in flight re-admits an invalidated token. Request 0 misses the cache and calls
`ValidateToken`; `InvalidateToken("t")` returns; request 0's validation result is then stored, and
request 1, whose own validator now refuses the token, is admitted from the cache. -/
theorem invalidate_races_inflight_validation :
    (System.run ⟨TokenCache.empty,
        [tokenRequest (.ok issuedResult) .arrived, tokenRequest (.error "revoked") .arrived]⟩
        [.read 0 0, .invalidate "t", .complete 0 1 1, .read 1 2]).requests.map InFlight.phase =
      [.finished .next, .finished .next] ∧
    (System.run ⟨TokenCache.empty,
        [tokenRequest (.ok issuedResult) .arrived, tokenRequest (.error "revoked") .arrived]⟩
        [.read 0 0, .invalidate "t", .complete 0 1 1, .read 1 2]).cache.get "t" 2 =
      some issuedResult := by
  decide

end GoCommon.Auth.Middleware