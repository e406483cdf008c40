import GoCommon.Limiter.Eviction

/-!
# Configuring a limiter

`NewIPRateLimiterFromConfig(cfg)` hands the fields of `cfg` to `NewIPRateLimiterWithTTL`, which
reads a zero `TTL` as an hour and a zero `CleanupInt` as five minutes, and starts `cleanupLoop`
on that interval in a goroutine. Nothing else of the configuration is checked, and the two
durations go wrong in different ways when they are negative. `time.NewTicker` panics on a period
that is not positive, so a negative `CleanupInt` ends the program from the cleanup goroutine,
after the constructor has returned. A negative `TTL` puts the cutoff of every cleanup after the
instant it runs: no entry the table holds was seen after that instant (`SeenWhen.run`), so each
cleanup empties the table, whatever the calls before it (`fromConfig_negative_durations`). The
one exception is `-2^63`, which Go's negation leaves negative: its cutoff lies `2^63`
nanoseconds in the past, and a cleanup then removes nothing recent.

`Rate` only sets how the buckets refill, which the model leaves out.
-/

namespace GoCommon.Limiter

open IPRateLimiter

/-- `time.Minute`, in nanoseconds. -/
def minute : Int := 60 * 1000000000

/-- `Config`, without `Rate`. -/
structure Config where
  burst : Int
  ttl : Int
  cleanupInt : Int
  deriving DecidableEq, Repr

/-- `DefaultConfig()`. -/
def defaultConfig : Config where
  burst := 20
  ttl := hour
  cleanupInt := 5 * minute

/-- `time.NewTicker(d)`: a ticker of period `d`, or the panic it raises when `d` is not
positive. -/
def newTicker (d : Int) : Except String Int :=
  if d ≤ 0 then .error "non-positive interval for NewTicker" else .ok d

/-- The interval `NewIPRateLimiterWithTTL` starts `cleanupLoop` with: a zero `cleanupInterval` is
five minutes. -/
def cleanupInterval (cleanupInterval : Int) : Int :=
  if cleanupInterval = 0 then 5 * minute else cleanupInterval

/-- `NewIPRateLimiterFromConfig(cfg)`: the limiter it returns, and the ticker that the cleanup
goroutine it starts makes first. -/
def newIPRateLimiterFromConfig (cfg : Config) : IPRateLimiter × Except String Int :=
  (newIPRateLimiterWithTTL cfg.burst cfg.ttl, newTicker (cleanupInterval cfg.cleanupInt))

/-- The cleanup goroutine panics exactly when `CleanupInt` is negative. -/
theorem newTicker_cleanupInterval (cleanupInt : Int) :
    newTicker (cleanupInterval cleanupInt) = .error "non-positive interval for NewTicker" ↔
      cleanupInt < 0 := by
  unfold newTicker cleanupInterval minute
  split_ifs <;> simp <;> omega

example : (newIPRateLimiterFromConfig defaultConfig).2 = .ok (5 * minute) := rfl

/-- Every address in the table was last seen at an instant that satisfies `P`. -/
def SeenWhen (l : IPRateLimiter) (P : Int → Prop) : Prop := ∀ ip a, l.seenAt ip = some a → P a

theorem seenWhen_new (b ttl : Int) (P : Int → Prop) : SeenWhen (newIPRateLimiterWithTTL b ttl) P :=
  fun _ _ found => by cases found

/-- A call whose clock reading satisfies `P` keeps the table seen when `P`. -/
theorem SeenWhen.apply {l : IPRateLimiter} {P : Int → Prop} (seen : SeenWhen l P) (heap : Heap)
    (call : Call) (read : ∀ r ∈ call.reading, P r) : SeenWhen (call.apply (l, heap)).1 P := by
  intro key a found
  cases call with
  | getLimiter ip now =>
    rw [Call.apply, seenAt_getLimiter] at found
    split at found
    · exact read a found
    · exact seen key a found
  | addIP ip now =>
    rw [Call.apply, seenAt_addIP] at found
    split at found
    · exact read a found
    · exact seen key a found
  | cleanup now =>
    rw [Call.apply, seenAt_cleanup] at found
    exact seen key a (Option.filter_eq_some.mp found).1
  | clear => cases found

/-- A run of calls whose clock readings satisfy `P` keeps the table seen when `P`. -/
theorem SeenWhen.run {l : IPRateLimiter} {P : Int → Prop} (seen : SeenWhen l P) (heap : Heap)
    (calls : List Call) (read : ∀ r ∈ calls.filterMap Call.reading, P r) :
    SeenWhen (runCalls (l, heap) calls).1 P := by
  induction calls generalizing l heap with
  | nil => exact seen
  | cons call rest ih =>
    rw [List.forall_mem_filterMap, List.forall_mem_cons] at read
    exact ih (seen.apply heap call read.1) _ (List.forall_mem_filterMap.mpr read.2)

/-- A cleanup drops every entry seen before its cutoff. -/
theorem SeenWhen.cleanup_empty {l : IPRateLimiter} {t : Int} (seen : SeenWhen l (· < l.cutoff t))
    (ip : String) : (l.cleanup t).seenAt ip = none := by
  rw [seenAt_cleanup]
  cases found : l.seenAt ip with
  | none => rfl
  | some a => simp [Option.filter, seen ip a found]

/-- A cleanup keeps every entry seen at or after its cutoff. -/
theorem SeenWhen.cleanup_keeps {l : IPRateLimiter} {t : Int} (seen : SeenWhen l (l.cutoff t ≤ ·))
    (ip : String) : (l.cleanup t).seenAt ip = l.seenAt ip := by
  rw [seenAt_cleanup]
  cases found : l.seenAt ip with
  | none => rfl
  | some a => simp [Option.filter, not_lt.mpr (seen ip a found)]

/-- A table that holds no address has no entry. -/
theorem len_eq_zero_of_seenAt {l : IPRateLimiter} (empty : ∀ ip, l.seenAt ip = none) :
    l.len = 0 := by
  rw [len_eq_length_keys, List.length_eq_zero, List.eq_nil_iff_forall_not_mem]
  intro ip held
  have absent : ip ∉ l.ips := by simpa [seenAt, AList.lookup_eq_none] using empty ip
  exact absent (AList.mem_keys.mp held)

/-- **Negative durations in a `Config`.** The cleanup goroutine of `NewIPRateLimiterFromConfig`
panics exactly when `CleanupInt` is negative. With a negative `TTL` above `-2^63`, a cleanup at
`t` after any run of calls whose clock read no later than `t` leaves the table empty. At
`TTL = -2^63` the negation wraps, and a cleanup at `t` removes nothing seen at or after
`t - 2^63`. -/
theorem fromConfig_negative_durations (cfg : Config) (heap : Heap) (calls : List Call) (t : Int)
    (before : ∀ r ∈ calls.filterMap Call.reading, r ≤ t) :
    let start := (newIPRateLimiterFromConfig cfg).1
    ((newIPRateLimiterFromConfig cfg).2 = .error "non-positive interval for NewTicker" ↔
        cfg.cleanupInt < 0) ∧
      (-2 ^ 63 < cfg.ttl → cfg.ttl < 0 →
        let l := (runCalls (start, heap) (calls ++ [.cleanup t])).1
        (∀ ip, l.seenAt ip = none) ∧ l.len = 0) ∧
      (cfg.ttl = -2 ^ 63 → (∀ r ∈ calls.filterMap Call.reading, t - 2 ^ 63 ≤ r) →
        ∀ ip, (runCalls (start, heap) (calls ++ [.cleanup t])).1.seenAt ip =
          (runCalls (start, heap) calls).1.seenAt ip) := by
  have ttl := ttl_runCalls (newIPRateLimiterWithTTL cfg.burst cfg.ttl) heap calls
  refine ⟨newTicker_cleanupInterval cfg.cleanupInt, fun above negative => ?_,
    fun isMin recent => ?_⟩
  · have seen := (seenWhen_new cfg.burst cfg.ttl (· < t - cfg.ttl)).run heap calls
      fun r read => by have := before r read; omega
    have kept := ttl.trans (if_neg (by omega))
    have cut : (runCalls (newIPRateLimiterWithTTL cfg.burst cfg.ttl, heap) calls).1.cutoff t =
        t - cfg.ttl := by
      rw [cutoff_of_ne_min _ t (by unfold IsInt64; omega) (by omega), kept]
    rw [← cut] at seen
    dsimp only [newIPRateLimiterFromConfig]
    rw [runCalls_cleanup]
    exact ⟨seen.cleanup_empty, len_eq_zero_of_seenAt seen.cleanup_empty⟩
  · have seen := (seenWhen_new cfg.burst cfg.ttl (t - 2 ^ 63 ≤ ·)).run heap calls recent
    rw [← cutoff_min _ t (ttl.trans ((if_neg (by omega)).trans isMin))] at seen
    dsimp only [newIPRateLimiterFromConfig]
    rw [runCalls_cleanup]
    exact seen.cleanup_keeps

/-- A negative `TTL` and `CleanupInt`: the goroutine panics, and an address seen at `0` is gone
after a cleanup at `10`. -/
theorem fromConfig_negative_durations_one_ip :
    (∀ r ∈ [Call.getLimiter "a" 0].filterMap Call.reading, r ≤ 10) ∧
      let start := (newIPRateLimiterFromConfig ⟨20, -1, -minute⟩).1
      (((newIPRateLimiterFromConfig ⟨20, -1, -minute⟩).2 =
          .error "non-positive interval for NewTicker" ↔
          (⟨20, -1, -minute⟩ : Config).cleanupInt < 0) ∧
        (-2 ^ 63 < (⟨20, -1, -minute⟩ : Config).ttl → (⟨20, -1, -minute⟩ : Config).ttl < 0 →
          let l := (runCalls (start, ⟨[]⟩) ([.getLimiter "a" 0] ++ [.cleanup 10])).1
          (∀ ip, l.seenAt ip = none) ∧ l.len = 0) ∧
        ((⟨20, -1, -minute⟩ : Config).ttl = -2 ^ 63 →
          (∀ r ∈ [Call.getLimiter "a" 0].filterMap Call.reading, 10 - 2 ^ 63 ≤ r) →
          ∀ ip, (runCalls (start, ⟨[]⟩) ([.getLimiter "a" 0] ++ [.cleanup 10])).1.seenAt ip =
            (runCalls (start, ⟨[]⟩) [.getLimiter "a" 0]).1.seenAt ip)) :=
  ⟨by decide, fromConfig_negative_durations ⟨20, -1, -minute⟩ ⟨[]⟩ _ 10 (by decide)⟩

end GoCommon.Limiter
