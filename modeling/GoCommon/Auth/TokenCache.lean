import GoCommon.Runtime

/-!
# The token-validation caches

The remote service-auth middleware (`TokenValidationCache`) and the gRPC auth interceptor
(`grpcTokenCache`) keep the results of remote token validations in two caches with the same
fields and the same methods. A read checks the entry's expiry itself; a write stores the result
with `time.Now().Add(ttl)` and, once the table holds more than 1000 entries, sweeps the entries
whose expiry has passed. `InvalidateToken` and the two `Clear…` functions delete one entry or
all of them.

The caches are protected by a read-write mutex, so their operations happen one at a time; a run
is a list of timed operations applied in order. `set` reads the clock twice, once for the
entry's expiry and once in `cleanup`, so it carries both readings. The abstract cache `lastSet`
forgets sweeps and sizes: for each token it keeps the most recent `set` not followed by an
invalidation or a clear. `Agrees` relates the two: the real table holds the abstract entry, or
nothing where the abstract entry has already expired. Every operation keeps `Agrees`
(`Agrees.step`), and under it a read gives the abstract answer (`Agrees.get_eq`).
-/

namespace GoCommon.Auth

/-- `TokenValidationResult`, declared identically by the HTTP middleware and the gRPC
interceptor. -/
structure TokenValidationResult where
  valid : Bool
  clientID : String
  serviceName : String
  tenantID : String
  userID : String
  scopes : List String
  expiresAt : Int
  deriving DecidableEq, Repr

/-- `cachedTokenValidation` (HTTP) and `cachedValidation` (gRPC). -/
structure CachedValidation where
  result : TokenValidationResult
  expiresAt : Int
  deriving DecidableEq, Repr

/-- `TokenValidationCache` (HTTP middleware) and `grpcTokenCache` (gRPC interceptor). -/
structure TokenCache where
  cache : GoMap CachedValidation

namespace TokenCache

/-- The cache as `remoteTokenCache` and `tokenCache` start, and as the `Clear…` functions leave
it. -/
def empty : TokenCache := ⟨∅⟩

/-- `c.get(token)`, the clock reading `now`: a missing entry, or one with
`now.After(cached.expiresAt)`, gives nil. -/
def get (c : TokenCache) (token : String) (now : Int) : Option TokenValidationResult :=
  match c.cache.lookup token with
  | none => none
  | some cached => if cached.expiresAt < now then none else some cached.result

/-- `c.cleanup()`, the clock reading `now`. -/
def cleanup (c : TokenCache) (now : Int) : TokenCache :=
  ⟨c.cache.deleteWhere fun _ cached => decide (cached.expiresAt < now)⟩

/-- `c.set(token, result, ttl)`: the entry expires at `now + ttl`; `sweepAt` is the reading of
`cleanup`. -/
def set (c : TokenCache) (token : String) (result : TokenValidationResult) (ttl : Int)
    (now sweepAt : Int) : TokenCache :=
  let stored : TokenCache := ⟨c.cache.insert token ⟨result, now + ttl⟩⟩
  if 1000 < stored.cache.len then stored.cleanup sweepAt else stored

/-- `InvalidateToken(token)`. -/
def invalidate (c : TokenCache) (token : String) : TokenCache := ⟨c.cache.erase token⟩

/-- Every entry of the cache satisfies `P`. -/
def All (P : CachedValidation → Prop) (c : TokenCache) : Prop :=
  ∀ token cached, c.cache.lookup token = some cached → P cached

end TokenCache

/-- An operation on a token cache that changes it. -/
inductive CacheOp where
  /-- `set(token, result, ttl)`, whose sweep reads the clock at `sweepAt`. -/
  | set (token : String) (result : TokenValidationResult) (ttl : Int) (sweepAt : Int)
  /-- `InvalidateToken(token)`. -/
  | invalidate (token : String)
  /-- `ClearTokenCache()` or `ClearGRPCTokenCache()`. -/
  | clear
  deriving DecidableEq, Repr

/-- An operation and the clock reading it starts at. -/
structure TimedOp where
  now : Int
  op : CacheOp
  deriving DecidableEq, Repr

/-- The last clock reading an operation makes. -/
def TimedOp.doneAt : TimedOp → Int
  | ⟨_, .set _ _ _ sweepAt⟩ => sweepAt
  | ⟨now, _⟩ => now

/-- The clock does not go back: within an operation, and from one operation to the next. -/
def Clocked : List TimedOp → Prop
  | [] => True
  | op :: rest => op.now ≤ op.doneAt ∧ (∀ next ∈ rest.head?, op.doneAt ≤ next.now) ∧ Clocked rest

namespace TokenCache

/-- One operation of a run. -/
def step (c : TokenCache) : TimedOp → TokenCache
  | ⟨now, .set token result ttl sweepAt⟩ => c.set token result ttl now sweepAt
  | ⟨_, .invalidate token⟩ => c.invalidate token
  | ⟨_, .clear⟩ => empty

/-- A run of operations from `c`. -/
def run (c : TokenCache) (ops : List TimedOp) : TokenCache := ops.foldl step c

end TokenCache

/-- What the abstract cache remembers of a `set`: the result, the clock reading `setAt` and the
`ttl`. -/
structure SetRecord where
  result : TokenValidationResult
  setAt : Int
  ttl : Int
  deriving DecidableEq, Repr

/-- The entry a `set` writes. -/
def SetRecord.cached (record : SetRecord) : CachedValidation :=
  ⟨record.result, record.setAt + record.ttl⟩

/-- The abstract cache after one operation: sets and deletions, no sweep. -/
def lastSetStep (records : String → Option SetRecord) : TimedOp → String → Option SetRecord
  | ⟨now, .set token result ttl _⟩ => fun key =>
      if key = token then some ⟨result, now, ttl⟩ else records key
  | ⟨_, .invalidate token⟩ => fun key => if key = token then none else records key
  | ⟨_, .clear⟩ => fun _ => none

/-- For each token, the most recent `set` of it in `ops`, unless an invalidation of the token or
a clear came after it. -/
def lastSet (ops : List TimedOp) : String → Option SetRecord :=
  ops.foldl lastSetStep fun _ => none

namespace TokenCache

/-- The table agrees with the abstract cache as of the clock reading `now`: it holds the entry of
the abstract `set`, or nothing where that entry expired before `now`. -/
def Agrees (c : TokenCache) (records : String → Option SetRecord) (now : Int) : Prop :=
  ∀ token, c.cache.lookup token = (records token).map SetRecord.cached ∨
    (c.cache.lookup token = none ∧ ∃ record, records token = some record ∧
      record.setAt + record.ttl < now)

variable {c : TokenCache} {records : String → Option SetRecord} {now : Int}

theorem Agrees.mono (agrees : Agrees c records now) {later : Int} (after : now ≤ later) :
    Agrees c records later := by
  intro token
  rcases agrees token with same | ⟨absent, record, found, expired⟩
  · exact .inl same
  · exact .inr ⟨absent, record, found, by omega⟩

/-- Under `Agrees`, a read at a later reading answers what the abstract cache answers. -/
theorem Agrees.get_eq_some (agrees : Agrees c records now) {t : Int} (after : now ≤ t)
    (token : String) (r : TokenValidationResult) :
    c.get token t = some r ↔
      ∃ record, records token = some record ∧ t ≤ record.setAt + record.ttl ∧
        record.result = r := by
  rcases agrees token with same | ⟨absent, record, found, expired⟩
  · cases found : records token with
    | none => simp [get, same, found]
    | some record =>
      by_cases live : record.setAt + record.ttl < t
      · simp [get, same, found, SetRecord.cached, live]
      · simp [get, same, found, SetRecord.cached, live, not_lt.mp live]
  · simp only [get, absent, reduceCtorEq, false_iff, not_exists, not_and, found, Option.some.injEq]
    rintro _ rfl lateEnough
    omega

/-- A sweep at `sweepAt` changes no read made at or after it. -/
theorem get_cleanup (c : TokenCache) (token : String) {sweepAt t : Int} (after : sweepAt ≤ t) :
    (c.cleanup sweepAt).get token t = c.get token t := by
  cases found : c.cache.lookup token with
  | none => simp [get, cleanup, found]
  | some cached =>
    by_cases swept : cached.expiresAt < sweepAt
    · have expired : cached.expiresAt < t := by omega
      simp [get, cleanup, found, swept, expired, Option.filter_some]
    · simp [get, cleanup, found, swept, Option.filter_some]

theorem Agrees.cleanup (agrees : Agrees c records now) {sweepAt : Int} (after : now ≤ sweepAt) :
    Agrees (c.cleanup sweepAt) records sweepAt := by
  intro token
  rcases agrees.mono after token with same | ⟨absent, expired⟩
  · cases found : records token with
    | none => exact .inl (by simp [TokenCache.cleanup, same, found])
    | some record =>
      by_cases swept : record.setAt + record.ttl < sweepAt
      · exact .inr ⟨by simp [TokenCache.cleanup, same, found, SetRecord.cached, swept,
          Option.filter_some], record, rfl, swept⟩
      · exact .inl (by simp [TokenCache.cleanup, same, found, SetRecord.cached, swept,
          Option.filter_some])
  · exact .inr ⟨by simp [TokenCache.cleanup, absent], expired⟩

theorem agrees_empty (now : Int) : Agrees empty (fun _ => none) now :=
  fun _ => .inl rfl

theorem Agrees.insert (agrees : Agrees c records now) (token : String) (record : SetRecord) :
    Agrees ⟨c.cache.insert token record.cached⟩
      (fun key => if key = token then some record else records key) now := by
  intro key
  by_cases same : key = token
  · subst same
    exact .inl (by simp [AList.lookup_insert])
  · simpa [AList.lookup_insert_ne same, same] using agrees key

theorem Agrees.erase (agrees : Agrees c records now) (token : String) :
    Agrees ⟨c.cache.erase token⟩ (fun key => if key = token then none else records key) now := by
  intro key
  by_cases same : key = token
  · subst same
    exact .inl (by simp [AList.lookup_erase])
  · simpa [AList.lookup_erase_ne same, same] using agrees key

/-- Every operation keeps the table in agreement with the abstract cache, as of its last clock
reading. -/
theorem Agrees.step (agrees : Agrees c records now) {op : TimedOp} (started : now ≤ op.now)
    (within : op.now ≤ op.doneAt) :
    Agrees (c.step op) (lastSetStep records op) op.doneAt := by
  rcases op with ⟨t, _ | _ | _⟩
  case set token result ttl sweepAt =>
    have stored := (agrees.mono started).insert token ⟨result, t, ttl⟩
    simp only [TimedOp.doneAt] at within ⊢
    simp only [TokenCache.step, TokenCache.set, lastSetStep]
    split
    · exact stored.cleanup within
    · exact stored.mono within
  case invalidate token => exact (agrees.mono started).erase token
  case clear => exact agrees_empty t

/-- A run whose clock does not go back keeps the agreement up to any later reading. -/
theorem Agrees.run {ops : List TimedOp} (agrees : Agrees c records now) (clocked : Clocked ops)
    (started : ∀ op ∈ ops.head?, now ≤ op.now) {t : Int} (late : now ≤ t)
    (after : ∀ op ∈ ops, op.doneAt ≤ t) :
    Agrees (c.run ops) (ops.foldl lastSetStep records) t := by
  induction ops generalizing c records now with
  | nil => exact agrees.mono late
  | cons op rest ih =>
    obtain ⟨within, next, clockedRest⟩ := clocked
    exact ih (agrees.step (started op rfl) within) clockedRest next
      (after op (List.mem_cons_self _ _)) (fun op' mem => after op' (List.mem_cons_of_mem _ mem))

/-- An entry after a `set` is the one the `set` wrote, or one the table held before. -/
theorem lookup_set_eq_some {c : TokenCache} {key token : String} {result : TokenValidationResult}
    {ttl now sweepAt : Int} {cached : CachedValidation}
    (found : (c.set token result ttl now sweepAt).cache.lookup key = some cached) :
    (key = token ∧ cached.result = result) ∨ c.cache.lookup key = some cached := by
  have inserted : (c.cache.insert token ⟨result, now + ttl⟩).lookup key = some cached := by
    simp only [set] at found
    split at found
    · simp only [cleanup, GoMap.lookup_deleteWhere, Option.filter_eq_some] at found
      exact found.1
    · exact found
  by_cases same : key = token
  · subst same
    simp only [AList.lookup_insert, Option.some.injEq] at inserted
    exact .inl ⟨rfl, inserted ▸ rfl⟩
  · exact .inr (by rwa [AList.lookup_insert_ne same] at inserted)

/-- After every `set`, the table holds at most 1000 entries, or its sweep left only entries that
had not expired at the sweep's reading. -/
theorem set_len_or_live (c : TokenCache) (token : String) (result : TokenValidationResult)
    (ttl now sweepAt : Int) :
    (c.set token result ttl now sweepAt).cache.len ≤ 1000 ∨
      All (fun cached => sweepAt ≤ cached.expiresAt) (c.set token result ttl now sweepAt) := by
  simp only [set]
  split
  · refine .inr fun key cached found => ?_
    simpa using GoMap.not_drop_of_lookup_deleteWhere found
  · exact .inl (Nat.le_of_not_lt ‹_›)

end TokenCache

/-- The token caches meet their abstract specification. On every run whose clock does not go
back, a read at `t` returns `r` exactly when the most recent `set` of the token, not followed by
an invalidation or a clear, stored `r` at `setAt` with `t ≤ setAt + ttl`; so the sweep inside
`set` never changes what a later read answers. After every `set` the table holds at most 1000
entries or only entries unexpired at the sweep. -/
theorem tokenCache_refines_lastSet :
    (∀ (ops : List TimedOp) (token : String) (t : Int) (r : TokenValidationResult),
      Clocked ops → (∀ op ∈ ops, op.doneAt ≤ t) →
      ((TokenCache.empty.run ops).get token t = some r ↔
        ∃ record, lastSet ops token = some record ∧ t ≤ record.setAt + record.ttl ∧
          record.result = r)) ∧
    (∀ (c : TokenCache) (token : String) (sweepAt t : Int), sweepAt ≤ t →
      (c.cleanup sweepAt).get token t = c.get token t) ∧
    (∀ (c : TokenCache) (token : String) (result : TokenValidationResult) (ttl now sweepAt : Int),
      (c.set token result ttl now sweepAt).cache.len ≤ 1000 ∨
        TokenCache.All (fun cached => sweepAt ≤ cached.expiresAt)
          (c.set token result ttl now sweepAt)) := by
  refine ⟨fun ops token t r clocked after => ?_, fun c token _ _ later => c.get_cleanup token later,
    TokenCache.set_len_or_live⟩
  cases ops with
  | nil => simp [TokenCache.run, lastSet, TokenCache.get, TokenCache.empty]
  | cons op rest =>
    have agrees := (TokenCache.agrees_empty op.now).run clocked (fun _ first => by
      cases first; exact le_refl _) (le_trans clocked.1 (after op (List.mem_cons_self _ _))) after
    exact agrees.get_eq_some le_rfl token r

end GoCommon.Auth
