import GoCommon.Auth.Scope
import GoCommon.Strconv

/-!
# Per-address rate limiters

`IPRateLimiter` keeps one `*rate.Limiter` per client address. `GetLimiter(ip)` looks the address
up under the lock and, on a miss, releases the lock and calls `AddIP(ip)`, which takes the lock
again and stores a new limiter under the address, whatever entry is there by then. `OtpLimiter`
asks for the limiter of the client's address and answers `429` when its `Allow()` refuses.

Limiters are modelled in the first instant of their buckets, before anything refills them: a
limiter is the number of tokens its bucket holds, and the limiters made so far form a heap
indexed by pointer. Requests are served concurrently, and the system below splits each request
where `GetLimiter` releases the lock. Scheduled one after another, the requests are answered as
the handler called in turn answers them, and at most `b` from each address are admitted
(`serial_admitted_le`). Once an address has an entry and no request from it is between a miss
and its `AddIP`, every request from it meets the same limiter, however the steps interleave
(`settled_run`); `getLimiter_race_splits_bucket` shows that two first requests can both miss and
leave with two full buckets.
-/

namespace GoCommon.Limiter

open GoCommon.Auth (Reply Json)

/-- The `*rate.Limiter` values made so far, in allocation order, each with the tokens left in its
bucket; a pointer is an index. -/
structure Heap where
  tokens : List Int
  deriving DecidableEq, Repr

namespace Heap

/-- `rate.NewLimiter(r, b)`: a pointer to a new, full bucket of `b` tokens. -/
def newLimiter (heap : Heap) (b : Int) : Nat × Heap :=
  (heap.tokens.length, ⟨heap.tokens ++ [b]⟩)

/-- `limiter.Allow()` in the instant its bucket was made: a token is taken if one is left. -/
def allow (heap : Heap) (limiter : Nat) : Bool × Heap :=
  match heap.tokens[limiter]? with
  | some left => if 1 ≤ left then (true, ⟨heap.tokens.set limiter (left - 1)⟩) else (false, heap)
  | none => (false, heap)

theorem length_allow (heap : Heap) (limiter : Nat) :
    (heap.allow limiter).2.tokens.length = heap.tokens.length := by
  unfold allow
  split
  · split <;> simp
  · rfl

theorem getElem?_allow_ne (heap : Heap) {limiter n : Nat} (other : limiter ≠ n) :
    (heap.allow limiter).2.tokens[n]? = heap.tokens[n]? := by
  unfold allow
  split
  · split
    · simp [List.getElem?_set, other]
    · rfl
  · rfl

theorem allow_of_getElem? {heap : Heap} {n : Nat} {left : Int}
    (present : heap.tokens[n]? = some left) :
    heap.allow n = if 1 ≤ left then (true, ⟨heap.tokens.set n (left - 1)⟩) else (false, heap) := by
  simp [allow, present]

end Heap

/-- `limiterEntry`: a limiter and the last time its address asked for it. -/
structure LimiterEntry where
  limiter : Nat
  lastSeen : Int
  deriving DecidableEq, Repr

/-- `IPRateLimiter`, with the fields its table operations read: the table, the burst `b` of the
limiters it makes, and how long an idle entry is kept. -/
structure IPRateLimiter where
  ips : GoMap LimiterEntry
  b : Int
  ttl : Int

/-- `time.Hour`, in nanoseconds. -/
def hour : Int := 3600 * 1000000000

/-- `NewIPRateLimiterWithTTL(r, b, ttl, cleanupInterval)`: an empty table; a zero `ttl` is an
hour. -/
def newIPRateLimiterWithTTL (b ttl : Int) : IPRateLimiter :=
  ⟨∅, b, if ttl = 0 then hour else ttl⟩

/-- `NewIPRateLimiter(r, b)`. -/
def newIPRateLimiter (b : Int) : IPRateLimiter := newIPRateLimiterWithTTL b hour

namespace IPRateLimiter

/-- `AddIP(ip)` at `now`: a new limiter, stored under `ip` in place of whatever entry is there. -/
def addIP (l : IPRateLimiter) (heap : Heap) (ip : String) (now : Int) :
    Nat × IPRateLimiter × Heap :=
  let (limiter, heap) := heap.newLimiter l.b
  (limiter, { l with ips := l.ips.insert ip ⟨limiter, now⟩ }, heap)

/-- What `GetLimiter(ip)` does while it holds the lock: on a hit, the entry's limiter, its
`lastSeen` set to `now`; on a miss, nothing. -/
def lookupLocked (l : IPRateLimiter) (ip : String) (now : Int) : Option (Nat × IPRateLimiter) :=
  match l.ips.lookup ip with
  | some entry =>
    some (entry.limiter, { l with ips := l.ips.insert ip { entry with lastSeen := now } })
  | none => none

/-- `GetLimiter(ip)` at `now`, with nothing run between its lookup and its `AddIP`. -/
def getLimiter (l : IPRateLimiter) (heap : Heap) (ip : String) (now : Int) :
    Nat × IPRateLimiter × Heap :=
  match l.lookupLocked ip now with
  | some (limiter, l) => (limiter, l, heap)
  | none => l.addIP heap ip now

/-- `time.Now().Add(-i.ttl)` at `now`. Go negates the `time.Duration` in int64, so a `ttl` of
`-2^63` stays `-2^63`. `Add` itself does not wrap: a `time.Time` reaches far past an int64 of
nanoseconds, and a monotonic reading that would overflow falls back on the wall clock. -/
def cutoff (l : IPRateLimiter) (now : Int) : Int := now + wrapInt64 (-l.ttl)

/-- `cleanup()` at `now`: the entries last seen before the cutoff are deleted. -/
def cleanup (l : IPRateLimiter) (now : Int) : IPRateLimiter :=
  { l with ips := l.ips.deleteWhere fun _ entry => entry.lastSeen < l.cutoff now }

/-- The cutoff is `now - ttl` for every `int64` `ttl` but `-2^63`. -/
theorem cutoff_of_ne_min (l : IPRateLimiter) (now : Int) (inRange : IsInt64 l.ttl)
    (notMin : l.ttl ≠ -2 ^ 63) : l.cutoff now = now - l.ttl := by
  rw [cutoff, wrapInt64_of_isInt64 (by unfold IsInt64 at inRange ⊢; omega)]
  omega

/-- At `ttl = -2^63` the negation wraps, and the cutoff lies `2^63` nanoseconds in the past. -/
theorem cutoff_min (l : IPRateLimiter) (now : Int) (isMin : l.ttl = -2 ^ 63) :
    l.cutoff now = now - 2 ^ 63 := by
  rw [cutoff, isMin]
  unfold wrapInt64
  omega

/-- `Clear()`. -/
def clear (l : IPRateLimiter) : IPRateLimiter := { l with ips := ∅ }

/-- The limiter the table holds for `ip`. -/
def limiterOf (l : IPRateLimiter) (ip : String) : Option Nat :=
  (l.ips.lookup ip).map LimiterEntry.limiter

@[simp]
theorem limiterOf_insert_self (l : IPRateLimiter) (ip : String) (entry : LimiterEntry) :
    limiterOf { l with ips := l.ips.insert ip entry } ip = some entry.limiter := by
  simp [limiterOf]

theorem limiterOf_insert_ne (l : IPRateLimiter) {ip other : String} (entry : LimiterEntry)
    (different : ip ≠ other) :
    limiterOf { l with ips := l.ips.insert other entry } ip = l.limiterOf ip := by
  simp [limiterOf, AList.lookup_insert_ne different]

/-- After `GetLimiter(ip)` the table holds, for `ip`, the limiter the call returned. -/
theorem limiterOf_getLimiter_self (l : IPRateLimiter) (heap : Heap) (ip : String) (now : Int) :
    (l.getLimiter heap ip now).2.1.limiterOf ip = some (l.getLimiter heap ip now).1 := by
  cases found : l.ips.lookup ip <;> simp [getLimiter, lookupLocked, addIP, found]

/-- A call for another address leaves the limiter of `ip` alone. -/
theorem limiterOf_getLimiter_ne (l : IPRateLimiter) (heap : Heap) {ip other : String}
    (different : ip ≠ other) (now : Int) :
    (l.getLimiter heap other now).2.1.limiterOf ip = l.limiterOf ip := by
  cases found : l.ips.lookup other <;>
    simp [getLimiter, lookupLocked, addIP, found, limiterOf_insert_ne _ _ different]

/-- The locked lookup only refreshes `lastSeen`: no address changes limiter. -/
theorem limiterOf_lookupLocked {l l' : IPRateLimiter} {ip : String} {now : Int} {limiter : Nat}
    (hit : l.lookupLocked ip now = some (limiter, l')) (other : String) :
    l'.limiterOf other = l.limiterOf other := by
  simp only [lookupLocked] at hit
  split at hit
  · rename_i entry present
    obtain ⟨-, rfl⟩ := Prod.mk.inj (Option.some.inj hit)
    by_cases same : other = ip
    · subst same
      simp [limiterOf, present]
    · exact limiterOf_insert_ne l _ same
  · cases hit

theorem limiterOf_of_lookupLocked {l l' : IPRateLimiter} {ip : String} {now : Int}
    {limiter : Nat} (hit : l.lookupLocked ip now = some (limiter, l')) :
    l.limiterOf ip = some limiter := by
  simp only [lookupLocked] at hit
  split at hit
  · rename_i entry present
    obtain ⟨rfl, -⟩ := Prod.mk.inj (Option.some.inj hit)
    simp [limiterOf, present]
  · cases hit

theorem limiterOf_of_lookupLocked_none {l : IPRateLimiter} {ip : String} {now : Int}
    (miss : l.lookupLocked ip now = none) : l.limiterOf ip = none := by
  simp only [lookupLocked] at miss
  split at miss
  · cases miss
  · rename_i absent
    simp [limiterOf, absent]

theorem limiterOf_insert (l : IPRateLimiter) (ip other : String) (entry : LimiterEntry) :
    limiterOf { l with ips := l.ips.insert ip entry } other =
      if other = ip then some entry.limiter else l.limiterOf other := by
  split
  · subst other; exact limiterOf_insert_self l _ entry
  · exact limiterOf_insert_ne l entry ‹_›

theorem getLimiter_cases (l : IPRateLimiter) (heap : Heap) (ip : String) (now : Int) :
    (∃ entry, l.ips.lookup ip = some entry ∧ l.getLimiter heap ip now =
      (entry.limiter, { l with ips := l.ips.insert ip { entry with lastSeen := now } }, heap)) ∨
    (l.ips.lookup ip = none ∧ l.getLimiter heap ip now =
      (heap.tokens.length, { l with ips := l.ips.insert ip ⟨heap.tokens.length, now⟩ },
        ⟨heap.tokens ++ [l.b]⟩)) := by
  cases found : l.ips.lookup ip with
  | none => exact .inr ⟨rfl, by simp [getLimiter, lookupLocked, addIP, Heap.newLimiter, found]⟩
  | some entry => exact .inl ⟨entry, rfl, by simp [getLimiter, lookupLocked, found]⟩

theorem b_getLimiter (l : IPRateLimiter) (heap : Heap) (ip : String) (now : Int) :
    (l.getLimiter heap ip now).2.1.b = l.b := by
  rcases getLimiter_cases l heap ip now with ⟨_, _, called⟩ | ⟨_, called⟩ <;> rw [called]

/-- `GetLimiter` only adds to the heap. -/
theorem getElem?_getLimiter (l : IPRateLimiter) (heap : Heap) (ip : String) (now : Int)
    {n : Nat} (inHeap : n < heap.tokens.length) :
    (l.getLimiter heap ip now).2.2.tokens[n]? = heap.tokens[n]? := by
  rcases getLimiter_cases l heap ip now with ⟨_, _, called⟩ | ⟨_, called⟩ <;> rw [called]
  exact List.getElem?_append_left inHeap

/-- The table's limiters are in the heap, and no two addresses share one. -/
structure Fresh (l : IPRateLimiter) (heap : Heap) : Prop where
  inHeap : ∀ ip n, l.limiterOf ip = some n → n < heap.tokens.length
  unshared : ∀ ip ip' n, l.limiterOf ip = some n → l.limiterOf ip' = some n → ip = ip'

theorem fresh_new (b ttl : Int) (heap : Heap) : (newIPRateLimiterWithTTL b ttl).Fresh heap :=
  ⟨fun ip n held => by simp [newIPRateLimiterWithTTL, limiterOf] at held,
    fun ip _ n held => by simp [newIPRateLimiterWithTTL, limiterOf] at held⟩

theorem Fresh.getLimiter {l : IPRateLimiter} {heap : Heap} (fresh : l.Fresh heap) (ip : String)
    (now : Int) : (l.getLimiter heap ip now).2.1.Fresh (l.getLimiter heap ip now).2.2 := by
  rcases getLimiter_cases l heap ip now with ⟨entry, present, called⟩ | ⟨absent, called⟩
  · have same (other : String) :
        limiterOf { l with ips := l.ips.insert ip { entry with lastSeen := now } } other =
          l.limiterOf other := by
      rw [limiterOf_insert]
      split
      · subst other; simp [limiterOf, present]
      · rfl
    rw [called]
    exact ⟨fun other n held => fresh.inHeap other n (same other ▸ held),
      fun other other' n held held' =>
        fresh.unshared other other' n (same other ▸ held) (same other' ▸ held')⟩
  · rw [called]
    have old (other n) (held : l.limiterOf other = some n) : n < heap.tokens.length :=
      fresh.inHeap other n held
    refine ⟨fun other n held => ?_, fun other other' n held held' => ?_⟩
    · rw [limiterOf_insert] at held
      split at held
      · simp at held ⊢; omega
      · simpa using Nat.lt_succ_of_lt (old other n held)
    · rw [limiterOf_insert] at held held'
      split at held <;> split at held'
      · simp_all
      · cases held; exact absurd (old _ _ held') (lt_irrefl _)
      · cases held'; exact absurd (old _ _ held) (lt_irrefl _)
      · exact fresh.unshared other other' n held held'

theorem Fresh.allow {l : IPRateLimiter} {heap : Heap} (fresh : l.Fresh heap) (limiter : Nat) :
    l.Fresh (heap.allow limiter).2 :=
  ⟨fun ip n held => (heap.length_allow limiter).symm ▸ fresh.inHeap ip n held, fresh.unshared⟩

/-- The tokens the next request from `ip` finds: those of its limiter, or of a new one. -/
def remaining (l : IPRateLimiter) (heap : Heap) (ip : String) : Int :=
  match l.limiterOf ip with
  | some n => (heap.tokens[n]?).getD 0
  | none => l.b

/-- `GetLimiter(ip)` hands out a bucket holding what `ip` has remaining. -/
theorem getElem?_getLimiter_self {l : IPRateLimiter} {heap : Heap} (fresh : l.Fresh heap)
    (ip : String) (now : Int) :
    (l.getLimiter heap ip now).2.2.tokens[(l.getLimiter heap ip now).1]? =
      some (l.remaining heap ip) := by
  rcases getLimiter_cases l heap ip now with ⟨entry, present, called⟩ | ⟨absent, called⟩
  · have held : l.limiterOf ip = some entry.limiter := by simp [limiterOf, present]
    rw [called, remaining, held]
    simp [List.getElem?_eq_getElem (fresh.inHeap ip _ held)]
  · rw [called, remaining]
    simp [limiterOf, absent]

end IPRateLimiter

/-- The answer of `OtpLimiter` once `limiter.Allow()` has returned `allowed`: `c.Next()`, or
`429 Too Many Requests` with the error `"not allowed"`. -/
def otpReply (allowed : Bool) : Reply :=
  if allowed then .next else .status 429 [("success", .bool false), ("error", .str "not allowed")]

/-- The handler `OtpLimiter(cfg)` returns, serving a request from `clientIP` at `now` without
interruption. Its limiter table is made by `NewIPRateLimiter(rate.Every(...), 1)`. -/
def otpLimiter (l : IPRateLimiter) (heap : Heap) (clientIP : String) (now : Int) :
    Reply × IPRateLimiter × Heap :=
  let (limiter, l, heap) := l.getLimiter heap clientIP now
  let (allowed, heap) := heap.allow limiter
  (otpReply allowed, l, heap)

/-- Requests to the `OtpLimiter` handler one after another, each an address and its clock reading:
the answers, with their addresses. -/
def serveOtp (l : IPRateLimiter) (heap : Heap) : List (String × Int) → List (String × Reply)
  | [] => []
  | (ip, now) :: calls =>
    let (reply, l, heap) := otpLimiter l heap ip now
    (ip, reply) :: serveOtp l heap calls

section

variable {l : IPRateLimiter} {heap : Heap}

theorem IPRateLimiter.Fresh.otpLimiter (fresh : l.Fresh heap) (ip : String) (now : Int) :
    (otpLimiter l heap ip now).2.1.Fresh (otpLimiter l heap ip now).2.2 :=
  (fresh.getLimiter ip now).allow _

/-- A request from `ip` is admitted when its bucket holds a token, and takes it. -/
theorem otpLimiter_self (fresh : l.Fresh heap) (ip : String) (now : Int) :
    ((otpLimiter l heap ip now).1 = .next ↔ 1 ≤ l.remaining heap ip) ∧
      (otpLimiter l heap ip now).2.1.remaining (otpLimiter l heap ip now).2.2 ip =
        if 1 ≤ l.remaining heap ip then l.remaining heap ip - 1 else l.remaining heap ip := by
  have present := IPRateLimiter.getElem?_getLimiter_self fresh ip now
  have held := IPRateLimiter.limiterOf_getLimiter_self l heap ip now
  have inHeap := (fresh.getLimiter ip now).inHeap ip _ held
  have after (heap' : Heap) : (l.getLimiter heap ip now).2.1.remaining heap' ip =
      (heap'.tokens[(l.getLimiter heap ip now).1]?).getD 0 := by
    simp [IPRateLimiter.remaining, held]
  by_cases full : 1 ≤ l.remaining heap ip <;>
    simp [otpLimiter, Heap.allow_of_getElem? present, full, otpReply, after, List.getElem?_set,
      inHeap, present]

/-- A request from another address leaves what `ip` has remaining alone. -/
theorem otpLimiter_other (fresh : l.Fresh heap) {ip other : String} (different : ip ≠ other)
    (now : Int) :
    (otpLimiter l heap other now).2.1.remaining (otpLimiter l heap other now).2.2 ip =
      l.remaining heap ip := by
  have kept := IPRateLimiter.limiterOf_getLimiter_ne l heap different now
  have after := fresh.getLimiter other now
  simp only [otpLimiter, IPRateLimiter.remaining, kept]
  cases held : l.limiterOf ip with
  | none => simp [IPRateLimiter.b_getLimiter]
  | some n =>
    have handed : (l.getLimiter heap other now).1 ≠ n := fun same =>
      different (after.unshared ip other n (kept.trans held)
        (same ▸ IPRateLimiter.limiterOf_getLimiter_self l heap other now))
    simp [Heap.getElem?_allow_ne _ handed,
      IPRateLimiter.getElem?_getLimiter l heap other now (fresh.inHeap ip n held)]

end

/-- Served one after another, the requests from `ip` that `OtpLimiter` admits are at most the
tokens `ip` has remaining. -/
theorem serveOtp_admitted_le (ip : String) (calls : List (String × Int)) :
    ∀ {l : IPRateLimiter} {heap : Heap}, l.Fresh heap →
      ((serveOtp l heap calls).filter (· == (ip, .next))).length ≤ (l.remaining heap ip).toNat := by
  induction calls with
  | nil => simp [serveOtp]
  | cons call calls ih =>
    intro l heap fresh
    obtain ⟨other, now⟩ := call
    have rest := ih (fresh.otpLimiter other now)
    simp only [serveOtp, List.filter_cons]
    by_cases same : other = ip
    · subst same
      obtain ⟨admitted, left⟩ := otpLimiter_self fresh other now
      rw [left] at rest
      by_cases full : 1 ≤ l.remaining heap other
      · simp only [admitted.mpr full, beq_self_eq_true, if_true, List.length_cons]
        simp only [full, if_true] at rest
        have taken : (l.remaining heap other - 1).toNat + 1 = (l.remaining heap other).toNat := by
          omega
        exact taken ▸ Nat.add_le_add_right rest 1
      · have refused : (otpLimiter l heap other now).1 ≠ .next := mt admitted.mp full
        simp only [full, if_false] at rest
        simpa [refused] using rest
    · rw [otpLimiter_other fresh (Ne.symm same)] at rest
      simpa [same] using rest

/-- A new table admits at most `b` requests from an address when requests do not overlap. -/
theorem serveOtp_new_admitted_le (b ttl : Int) (heap : Heap) (calls : List (String × Int))
    (ip : String) :
    ((serveOtp (newIPRateLimiterWithTTL b ttl) heap calls).filter (· == (ip, .next))).length ≤
      b.toNat := by
  simpa [IPRateLimiter.remaining, IPRateLimiter.limiterOf, newIPRateLimiterWithTTL] using
    serveOtp_admitted_le ip calls (IPRateLimiter.fresh_new b ttl heap)

/-- Where a request to the `OtpLimiter` handler is. -/
inductive Phase where
  /-- `GetLimiter(clientIP)` has not taken the lock. -/
  | arrived
  /-- `GetLimiter` missed and released the lock; its `AddIP(clientIP)` has not taken it. -/
  | adding
  /-- `GetLimiter` returned `limiter`; `limiter.Allow()` comes next. -/
  | holding (limiter : Nat)
  /-- The handler answered `reply`. -/
  | answered (reply : Reply)
  deriving DecidableEq, Repr

/-- What a request from an address settled on `n` may be doing: anything but waiting to add,
and holding no limiter but `n`. -/
def Phase.SettledOn (n : Nat) : Phase → Prop
  | .adding => False
  | .holding limiter => limiter = n
  | _ => True

instance (n : Nat) : DecidablePred (Phase.SettledOn n)
  | .arrived => isTrue trivial
  | .adding => isFalse id
  | .holding limiter => inferInstanceAs (Decidable (limiter = n))
  | .answered _ => isTrue trivial

/-- A request to the `OtpLimiter` handler from address `ip`. -/
structure Caller where
  ip : String
  phase : Phase
  deriving DecidableEq, Repr

/-- A request that has arrived at the handler: its address, before `GetLimiter` has run. -/
def Caller.arrive (call : String × Int) : Caller := ⟨call.1, .arrived⟩

/-- A request the handler answered, with its address. -/
def Caller.answer (served : String × Reply) : Caller := ⟨served.1, .answered served.2⟩

/-- The limiter table of an `OtpLimiter`, the limiters it made, and the requests being served. -/
structure System where
  limiter : IPRateLimiter
  heap : Heap
  callers : List Caller

/-- An atomic step: each holds the table's lock, or the lock of one limiter, from start to end. -/
inductive Action where
  /-- The locked lookup of `GetLimiter` for request `i`, reading the clock at `now`. -/
  | lookup (i : Nat) (now : Int)
  /-- `AddIP` for request `i`, reading the clock at `now`. -/
  | addIP (i : Nat) (now : Int)
  /-- `limiter.Allow()` for request `i`, and its answer. -/
  | allow (i : Nat)
  /-- A tick of `cleanupLoop`: `cleanup()` at `now`. -/
  | cleanup (now : Int)
  /-- `Clear()`. -/
  | clear
  deriving DecidableEq, Repr

namespace System

/-- Request `i`, which was `caller`, moves to `phase`. -/
def setPhase (s : System) (i : Nat) (caller : Caller) (phase : Phase) : List Caller :=
  s.callers.set i { caller with phase }

/-- One atomic step; a step of a request that is not at that point does nothing. -/
def step (s : System) : Action → System
  | .lookup i now =>
    match s.callers[i]? with
    | some caller =>
      match caller.phase with
      | .arrived =>
        match s.limiter.lookupLocked caller.ip now with
        | some (limiter, l) =>
          { s with limiter := l, callers := s.setPhase i caller (.holding limiter) }
        | none => { s with callers := s.setPhase i caller .adding }
      | _ => s
    | none => s
  | .addIP i now =>
    match s.callers[i]? with
    | some caller =>
      match caller.phase with
      | .adding =>
        let (limiter, l, heap) := s.limiter.addIP s.heap caller.ip now
        ⟨l, heap, s.setPhase i caller (.holding limiter)⟩
      | _ => s
    | none => s
  | .allow i =>
    match s.callers[i]? with
    | some caller =>
      match caller.phase with
      | .holding limiter =>
        let (allowed, heap) := s.heap.allow limiter
        { s with heap, callers := s.setPhase i caller (.answered (otpReply allowed)) }
      | _ => s
    | none => s
  | .cleanup now => { s with limiter := s.limiter.cleanup now }
  | .clear => { s with limiter := s.limiter.clear }

/-- A schedule of steps. -/
def run (s : System) (schedule : List Action) : System := schedule.foldl step s

/-- Run without interruption, the three steps of a request are the handler `otpLimiter`. -/
theorem run_request {s : System} {i : Nat} {caller : Caller} (found : s.callers[i]? = some caller)
    (arrived : caller.phase = .arrived) (now : Int) :
    s.run [.lookup i now, .addIP i now, .allow i] =
      ⟨(otpLimiter s.limiter s.heap caller.ip now).2.1,
        (otpLimiter s.limiter s.heap caller.ip now).2.2,
        s.callers.set i { caller with phase := .answered (otpLimiter s.limiter s.heap caller.ip now).1 }⟩ := by
  have inRange : i < s.callers.length := (List.getElem?_eq_some_iff.mp found).1
  cases hit : s.limiter.lookupLocked caller.ip now <;>
    simp [run, step, setPhase, found, arrived, hit, inRange, otpLimiter,
      IPRateLimiter.getLimiter, IPRateLimiter.addIP]

theorem run_append (s : System) (first rest : List Action) :
    s.run (first ++ rest) = (s.run first).run rest :=
  List.foldl_append _ _ _ _

/-- The schedule that serves requests `k`, `k + 1`, … one after another, each running its three
steps without interruption at its own clock reading. -/
def serialFrom (k : Nat) : List (String × Int) → List Action
  | [] => []
  | (_, now) :: calls => [.lookup k now, .addIP k now, .allow k] ++ serialFrom (k + 1) calls

/-- Served one after another, the requests behind those already answered are answered as the
handler called in turn answers them. -/
theorem run_serialFrom (calls : List (String × Int)) :
    ∀ (l : IPRateLimiter) (heap : Heap) (done : List Caller),
      ((⟨l, heap, done ++ calls.map Caller.arrive⟩ : System).run
          (serialFrom done.length calls)).callers =
        done ++ (serveOtp l heap calls).map Caller.answer := by
  induction calls with
  | nil => intro l heap done; simp [serialFrom, run, serveOtp]
  | cons call rest ih =>
    intro l heap done
    obtain ⟨ip, now⟩ := call
    have found : (done ++ ((ip, now) :: rest).map Caller.arrive)[done.length]? =
        some ⟨ip, .arrived⟩ := by
      rw [List.getElem?_append_right le_rfl, Nat.sub_self, List.map_cons, List.getElem?_cons_zero]
      rfl
    have moved : (done ++ Caller.arrive (ip, now) :: rest.map Caller.arrive).set done.length
        ⟨ip, .answered (otpLimiter l heap ip now).1⟩ =
          (done ++ [Caller.answer (ip, (otpLimiter l heap ip now).1)]) ++
            rest.map Caller.arrive := by
      simp [List.set_append_right, Caller.answer]
    have next := ih (otpLimiter l heap ip now).2.1 (otpLimiter l heap ip now).2.2
      (done ++ [Caller.answer (ip, (otpLimiter l heap ip now).1)])
    rw [List.length_append, List.length_singleton, List.append_assoc, List.singleton_append] at next
    rw [serialFrom, run_append, run_request found rfl now]
    simp only [List.map_cons, moved, List.append_assoc, List.singleton_append, next, serveOtp]

/-- Address `ip` has settled on limiter `n`: the table holds `n` for it, no request from it is
between a miss and its `AddIP`, and every request from it holding a limiter holds `n`. -/
def Settled (s : System) (ip : String) (n : Nat) : Prop :=
  s.limiter.limiterOf ip = some n ∧ ∀ caller ∈ s.callers, caller.ip = ip → caller.phase.SettledOn n

theorem settledOn_set {callers : List Caller} {ip : String} {n : Nat}
    (settled : ∀ caller ∈ callers, caller.ip = ip → caller.phase.SettledOn n) (i : Nat)
    {moved : Caller} (fresh : moved.ip = ip → moved.phase.SettledOn n) :
    ∀ caller ∈ callers.set i moved, caller.ip = ip → caller.phase.SettledOn n := by
  intro caller member
  rcases List.mem_or_eq_of_mem_set member with old | rfl
  · exact settled caller old
  · exact fresh

/-- Every step but an eviction keeps an address settled. -/
theorem Settled.step {s : System} {ip : String} {n : Nat} (settled : s.Settled ip n)
    {a : Action} (noCleanup : ∀ now, a ≠ .cleanup now) (noClear : a ≠ .clear) :
    (s.step a).Settled ip n := by
  obtain ⟨held, callers⟩ := settled
  cases a with
  | lookup i now =>
    simp only [System.step]
    split
    · rename_i caller found
      split
      · split
        · rename_i limiter l hit
          have handed : caller.ip = ip → limiter = n := fun same => by
            rw [← same, IPRateLimiter.limiterOf_of_lookupLocked hit] at held
            exact Option.some.inj held
          exact ⟨(IPRateLimiter.limiterOf_lookupLocked hit ip).trans held,
            settledOn_set callers i handed⟩
        · rename_i miss
          have other : caller.ip ≠ ip := fun same => by
            simp [← same, IPRateLimiter.limiterOf_of_lookupLocked_none miss] at held
          exact ⟨held, settledOn_set callers i fun same => absurd same other⟩
      · exact ⟨held, callers⟩
    · exact ⟨held, callers⟩
  | addIP i now =>
    simp only [System.step]
    split
    · rename_i caller found
      split
      · rename_i adding
        have other : ip ≠ caller.ip := fun same => by
          simpa [adding, Phase.SettledOn] using callers caller (List.getElem?_mem found) same.symm
        exact ⟨(IPRateLimiter.limiterOf_insert_ne _ _ other).trans held,
          settledOn_set callers i fun same => absurd same.symm other⟩
      · exact ⟨held, callers⟩
    · exact ⟨held, callers⟩
  | allow i =>
    simp only [System.step]
    split
    · split
      · exact ⟨held, settledOn_set callers i fun _ => trivial⟩
      · exact ⟨held, callers⟩
    · exact ⟨held, callers⟩
  | cleanup now => exact absurd rfl (noCleanup now)
  | clear => exact absurd rfl noClear

/-- **One limiter per settled address.** On a schedule without `cleanup()` or `Clear()`, an
address that has settled on a limiter stays settled: every request from it that looks it up is
handed that limiter, and none replaces it. -/
theorem settled_run {s : System} {ip : String} {n : Nat} (settled : s.Settled ip n)
    {schedule : List Action} (noCleanup : ∀ now, .cleanup now ∉ schedule)
    (noClear : .clear ∉ schedule) : (s.run schedule).Settled ip n := by
  induction schedule generalizing s with
  | nil => exact settled
  | cons a rest ih =>
    simp only [List.mem_cons, not_or] at noCleanup noClear
    exact ih (settled.step (fun now => Ne.symm (noCleanup now).1) (Ne.symm noClear.1))
      (fun now => (noCleanup now).2) noClear.2

/-- Two requests from one address: once the first has added its limiter, the second is handed
it. -/
theorem settled_run_second :
    let s := (⟨newIPRateLimiterWithTTL 1 10, ⟨[]⟩, [⟨"a", .arrived⟩, ⟨"a", .arrived⟩]⟩ : System).run
      [.lookup 0 0, .addIP 0 0]
    let schedule := [Action.lookup 1 1, .allow 0, .allow 1]
    (s.Settled "a" 0 ∧ (∀ now, .cleanup now ∉ schedule) ∧ .clear ∉ schedule) ∧
      (s.run schedule).Settled "a" 0 :=
  have settled : Settled ((⟨newIPRateLimiterWithTTL 1 10, ⟨[]⟩,
      [⟨"a", .arrived⟩, ⟨"a", .arrived⟩]⟩ : System).run [.lookup 0 0, .addIP 0 0]) "a" 0 := by
    unfold Settled
    decide
  ⟨⟨settled, by simp, by simp⟩, settled_run settled (by simp) (by simp)⟩

end System

/-- **Two first requests split the bucket.** When two requests from an address the table does
not hold both look it up before either adds it, each is handed a new, full bucket of `b` tokens,
and the table keeps only the second. With `1 ≤ b`, both requests are then admitted. -/
theorem getLimiter_race_splits_bucket (s : System) (ip : String) {i j : Nat} (distinct : i ≠ j)
    (missing : s.limiter.limiterOf ip = none)
    (first : s.callers[i]? = some ⟨ip, .arrived⟩) (second : s.callers[j]? = some ⟨ip, .arrived⟩)
    (t₀ t₁ t₂ t₃ : Int) :
    let raced := s.run [.lookup i t₀, .lookup j t₁, .addIP i t₂, .addIP j t₃]
    raced.callers[i]? = some ⟨ip, .holding s.heap.tokens.length⟩ ∧
      raced.callers[j]? = some ⟨ip, .holding (s.heap.tokens.length + 1)⟩ ∧
      raced.heap.tokens = s.heap.tokens ++ [s.limiter.b, s.limiter.b] ∧
      raced.limiter.limiterOf ip = some (s.heap.tokens.length + 1) ∧
      (1 ≤ s.limiter.b →
        (raced.run [.allow i, .allow j]).callers[i]? = some ⟨ip, .answered .next⟩ ∧
          (raced.run [.allow i, .allow j]).callers[j]? = some ⟨ip, .answered .next⟩) := by
  have absent : s.limiter.ips.lookup ip = none := by simpa [IPRateLimiter.limiterOf] using missing
  obtain ⟨iInRange, iAt⟩ := List.getElem?_eq_some_iff.mp first
  obtain ⟨jInRange, jAt⟩ := List.getElem?_eq_some_iff.mp second
  simp [System.run, System.step, System.setPhase, iAt, jAt, List.getElem?_set, distinct,
    Ne.symm distinct, iInRange, jInRange, IPRateLimiter.lookupLocked, absent, IPRateLimiter.addIP,
    Heap.newLimiter, Heap.allow, List.getElem_append_right]
  intro full
  simp [full, otpReply, List.getElem_append_right]

/-- Two first requests from one address to the table of an `OtpLimiter`, whose burst is `1`. -/
def otpRace : System :=
  ⟨newIPRateLimiter 1, ⟨[]⟩, [⟨"1.2.3.4", .arrived⟩, ⟨"1.2.3.4", .arrived⟩]⟩

theorem getLimiter_race_otp :
    ((0 : Nat) ≠ 1 ∧ otpRace.limiter.limiterOf "1.2.3.4" = none ∧
      otpRace.callers[0]? = some ⟨"1.2.3.4", .arrived⟩ ∧
      otpRace.callers[1]? = some ⟨"1.2.3.4", .arrived⟩ ∧ 1 ≤ otpRace.limiter.b) ∧
    let raced := otpRace.run [.lookup 0 0, .lookup 1 0, .addIP 0 0, .addIP 1 0]
    raced.callers[0]? = some ⟨"1.2.3.4", .holding otpRace.heap.tokens.length⟩ ∧
      raced.callers[1]? = some ⟨"1.2.3.4", .holding (otpRace.heap.tokens.length + 1)⟩ ∧
      raced.heap.tokens = otpRace.heap.tokens ++ [otpRace.limiter.b, otpRace.limiter.b] ∧
      raced.limiter.limiterOf "1.2.3.4" = some (otpRace.heap.tokens.length + 1) ∧
      (1 ≤ otpRace.limiter.b →
        (raced.run [.allow 0, .allow 1]).callers[0]? = some ⟨"1.2.3.4", .answered .next⟩ ∧
          (raced.run [.allow 0, .allow 1]).callers[1]? = some ⟨"1.2.3.4", .answered .next⟩) :=
  ⟨by decide, getLimiter_race_splits_bucket otpRace "1.2.3.4" (by decide) (by decide) rfl rfl
    0 0 0 0⟩

end GoCommon.Limiter
