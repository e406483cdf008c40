import GoCommon.Limiter.IPLimiter
import Mathlib.Data.List.Dedup

/-!
# Idle eviction in the limiter table

Taken one whole call at a time, the limiter table is a map from address to the instant the table
last saw it (`IPRateLimiter.seenAt`): `GetLimiter` and `AddIP` set it to their clock reading,
`cleanup()` at `t` drops the addresses last seen before its cutoff `time.Now().Add(-ttl)`, and
`Clear()` drops them all.
`lastAccess` says what the calls alone say: the reading of the most recent `GetLimiter` or
`AddIP` of an address after the last `Clear()`. `Tracks` relates the two: the table holds the
last access of each address, or has dropped it in a cleanup whose cutoff that access is before.
Every call keeps `Tracks` (`Tracks.apply`). On a clock that does not go back, a cleanup at `t`
then leaves exactly the addresses last accessed at or after the cutoff, each with that instant,
and `Len()` counts them (`cleanup_keeps_exactly_recent`). The cutoff is `t - ttl` for every
`int64` `ttl` but `-2^63`, whose negation wraps: that cutoff lies `2^63` nanoseconds before `t`,
and an address accessed at `t` itself survives (`cleanup_min_ttl_keeps_access`).
-/

namespace GoCommon.Limiter

/-- A call on the limiter table, whole, with the clock reading it makes. -/
inductive Call where
  | getLimiter (ip : String) (now : Int)
  | addIP (ip : String) (now : Int)
  | cleanup (now : Int)
  | clear
  deriving DecidableEq, Repr

namespace Call

/-- The clock reading of a call. -/
def reading : Call → Option Int
  | .getLimiter _ now | .addIP _ now | .cleanup now => some now
  | .clear => none

/-- The reading of a `cleanup()`. -/
def sweep : Call → Option Int
  | .cleanup now => some now
  | _ => none

/-- The address a `GetLimiter` or `AddIP` accesses. -/
def accessed : Call → Option String
  | .getLimiter ip _ | .addIP ip _ => some ip
  | _ => none

/-- The table and the heap after the call. -/
def apply : Call → IPRateLimiter × Heap → IPRateLimiter × Heap
  | .getLimiter ip now, (l, heap) => (l.getLimiter heap ip now).2
  | .addIP ip now, (l, heap) => (l.addIP heap ip now).2
  | .cleanup now, (l, heap) => (l.cleanup now, heap)
  | .clear, (l, heap) => (l.clear, heap)

theorem reading_of_sweep {call : Call} {t : Int} (swept : call.sweep = some t) :
    call.reading = some t := by
  cases call <;> simp_all [sweep, reading]

end Call

/-- The calls one after another. -/
def runCalls (start : IPRateLimiter × Heap) (calls : List Call) : IPRateLimiter × Heap :=
  calls.foldl (fun state call => call.apply state) start

/-- The clock does not go back from one call to the next. -/
def Clocked (calls : List Call) : Prop := (calls.filterMap Call.reading).Pairwise (· ≤ ·)

instance (calls : List Call) : Decidable (Clocked calls) :=
  inferInstanceAs (Decidable (List.Pairwise _ _))

/-- The last access of each address after one more call. -/
def lastAccessStep (last : String → Option Int) : Call → String → Option Int
  | .getLimiter ip now | .addIP ip now => fun key => if key = ip then some now else last key
  | .cleanup _ => last
  | .clear => fun _ => none

/-- For each address, the reading of its most recent `GetLimiter` or `AddIP` in `calls` that no
`Clear()` followed. -/
def lastAccess (calls : List Call) : String → Option Int :=
  calls.foldl lastAccessStep fun _ => none

/-- The addresses that `calls` access and whose last access is at or after `cutoff`, once each. -/
def recentIps (calls : List Call) (cutoff : Int) : List String :=
  (calls.filterMap Call.accessed).dedup.filter fun ip => (lastAccess calls ip).any (cutoff ≤ ·)

namespace IPRateLimiter

/-- `Len()`. -/
def len (l : IPRateLimiter) : Nat := l.ips.len

/-- The instant the table last saw `ip`, if it holds it. -/
def seenAt (l : IPRateLimiter) (ip : String) : Option Int :=
  (l.ips.lookup ip).map LimiterEntry.lastSeen

/-! ### One call -/

theorem seenAt_insert (l : IPRateLimiter) (ip key : String) (entry : LimiterEntry) :
    seenAt { l with ips := l.ips.insert ip entry } key =
      if key = ip then some entry.lastSeen else l.seenAt key := by
  split
  · subst key; simp [seenAt]
  · simp [seenAt, AList.lookup_insert_ne ‹_›]

theorem seenAt_getLimiter (l : IPRateLimiter) (heap : Heap) (ip key : String) (now : Int) :
    (l.getLimiter heap ip now).2.1.seenAt key = if key = ip then some now else l.seenAt key := by
  rcases getLimiter_cases l heap ip now with ⟨_, _, called⟩ | ⟨_, called⟩ <;>
    rw [called, seenAt_insert]

theorem seenAt_addIP (l : IPRateLimiter) (heap : Heap) (ip key : String) (now : Int) :
    (l.addIP heap ip now).2.1.seenAt key = if key = ip then some now else l.seenAt key :=
  seenAt_insert l ip key _

theorem seenAt_cleanup (l : IPRateLimiter) (now : Int) (key : String) :
    (l.cleanup now).seenAt key = (l.seenAt key).filter fun a => !decide (a < l.cutoff now) := by
  simp only [seenAt, cleanup, GoMap.lookup_deleteWhere]
  cases l.ips.lookup key <;> simp [Option.filter]

theorem len_eq_length_keys (l : IPRateLimiter) : l.len = l.ips.keys.length := by
  simp [len, GoMap.len, AList.keys, List.keys]

theorem ttl_apply (call : Call) (l : IPRateLimiter) (heap : Heap) :
    (call.apply (l, heap)).1.ttl = l.ttl := by
  cases call with
  | getLimiter ip now =>
    rcases getLimiter_cases l heap ip now with ⟨_, _, called⟩ | ⟨_, called⟩ <;>
      simp [Call.apply, called]
  | _ => rfl

theorem cutoff_apply (call : Call) (l : IPRateLimiter) (heap : Heap) (t : Int) :
    (call.apply (l, heap)).1.cutoff t = l.cutoff t := by
  rw [cutoff, cutoff, ttl_apply]

end IPRateLimiter

open IPRateLimiter

theorem runCalls_append_single (start : IPRateLimiter × Heap) (calls : List Call) (call : Call) :
    runCalls start (calls ++ [call]) = call.apply (runCalls start calls) := by
  simp [runCalls, List.foldl_append]

theorem ttl_runCalls (l : IPRateLimiter) (heap : Heap) (calls : List Call) :
    (runCalls (l, heap) calls).1.ttl = l.ttl := by
  induction calls generalizing l heap with
  | nil => rfl
  | cons call rest ih =>
    exact (ih (call.apply (l, heap)).1 (call.apply (l, heap)).2).trans (ttl_apply call l heap)

theorem cutoff_runCalls (l : IPRateLimiter) (heap : Heap) (calls : List Call) (t : Int) :
    (runCalls (l, heap) calls).1.cutoff t = l.cutoff t := by
  rw [cutoff, cutoff, ttl_runCalls]

/-- A run that ends in a cleanup at `t` cleans the table the calls before it left. -/
theorem runCalls_cleanup (start : IPRateLimiter × Heap) (calls : List Call) (t : Int) :
    (runCalls start (calls ++ [.cleanup t])).1 = (runCalls start calls).1.cleanup t := by
  rw [runCalls_append_single]
  cases runCalls start calls
  rfl

/-- The table tracks the last accesses `last`: it holds each address with its last access, or
has dropped it in one of the cleanups at `sweeps`, whose cutoff that access is before. -/
def Tracks (l : IPRateLimiter) (last : String → Option Int) (sweeps : List Int) : Prop :=
  ∀ ip, l.seenAt ip = last ip ∨
    (l.seenAt ip = none ∧ ∃ a, last ip = some a ∧ ∃ t ∈ sweeps, a < l.cutoff t)

theorem tracks_new (b ttl : Int) : Tracks (newIPRateLimiterWithTTL b ttl) (fun _ => none) [] :=
  fun _ => .inl rfl

/-- Every call keeps the table tracking the last accesses. -/
theorem Tracks.apply {l : IPRateLimiter} {last : String → Option Int} {sweeps : List Int}
    (tracks : Tracks l last sweeps) (heap : Heap) (call : Call) :
    Tracks (call.apply (l, heap)).1 (lastAccessStep last call) (sweeps ++ call.sweep.toList) := by
  intro key
  have later : ∀ t ∈ sweeps, t ∈ sweeps ++ call.sweep.toList := fun t mem => List.mem_append_left _ mem
  simp only [cutoff_apply]
  cases call with
  | getLimiter ip now =>
    simp only [Call.apply, seenAt_getLimiter, lastAccessStep, Call.sweep, Option.toList_none,
      List.append_nil]
    split
    · exact .inl rfl
    · exact tracks key
  | addIP ip now =>
    simp only [Call.apply, seenAt_addIP, lastAccessStep, Call.sweep, Option.toList_none,
      List.append_nil]
    split
    · exact .inl rfl
    · exact tracks key
  | cleanup now =>
    simp only [Call.apply, seenAt_cleanup, lastAccessStep, Call.sweep, Option.toList_some]
    rcases tracks key with same | ⟨absent, a, found, t, swept, before⟩
    · rw [same]
      cases found : last key with
      | none => exact .inl rfl
      | some a =>
        by_cases idle : a < l.cutoff now
        · exact .inr ⟨by simp only [Option.filter, idle, decide_True, Bool.not_true,
            Bool.false_eq_true, if_false], a, rfl, now, by simp, idle⟩
        · exact .inl (by simp only [Option.filter, idle, decide_False, Bool.not_false, if_true])
    · exact .inr ⟨by simp [absent], a, found, t, later t swept, before⟩
  | clear => exact .inl rfl

/-- A run of calls keeps the table tracking the last accesses, with every cleanup it ran. -/
theorem Tracks.run {l : IPRateLimiter} {last : String → Option Int} {sweeps : List Int}
    (tracks : Tracks l last sweeps) (heap : Heap) (calls : List Call) :
    Tracks (runCalls (l, heap) calls).1 (calls.foldl lastAccessStep last)
      (sweeps ++ calls.filterMap Call.sweep) := by
  induction calls generalizing l heap last sweeps with
  | nil => simpa [runCalls] using tracks
  | cons call rest ih =>
    have next := ih (tracks.apply heap call) (call.apply (l, heap)).2
    cases call <;> simpa [runCalls, Call.sweep] using next

/-- An address with a last access was accessed by one of the calls, or already had one. -/
theorem mem_accessed_of_foldl {ip : String} {a : Int} :
    ∀ (calls : List Call) (last : String → Option Int), calls.foldl lastAccessStep last ip = some a →
      last ip = some a ∨ ip ∈ calls.filterMap Call.accessed
  | [], _, found => .inl found
  | call :: rest, last, found => by
    rcases mem_accessed_of_foldl rest _ found with first | later
    · cases call <;> simp only [lastAccessStep] at first
      case getLimiter ip' now | addIP ip' now =>
        split at first
        · exact .inr (by simp [Call.accessed, *])
        · exact .inl first
      case cleanup now => exact .inl first
      case clear => cases first
    · exact .inr (List.mem_filterMap.mpr (by
        obtain ⟨c, mem, is⟩ := List.mem_filterMap.mp later
        exact ⟨c, .tail _ mem, is⟩))

/-- Right after a cleanup at `t`, no earlier than every cleanup before it, a table that tracks
the last accesses holds exactly those at or after the cutoff. -/
theorem Tracks.seenAt_cleanup {l : IPRateLimiter} {last : String → Option Int}
    {sweeps : List Int} (tracks : Tracks l last sweeps) {t : Int} (after : ∀ s ∈ sweeps, s ≤ t)
    (ip : String) : (l.cleanup t).seenAt ip = (last ip).filter (l.cutoff t ≤ ·) := by
  rw [IPRateLimiter.seenAt_cleanup]
  rcases tracks ip with same | ⟨absent, a, found, s, swept, idle⟩
  · rw [same]
    cases last ip with
    | none => rfl
    | some a => by_cases recent : l.cutoff t ≤ a <;> simp [Option.filter, recent]
  · have evicted : a < l.cutoff t := by have := after s swept; unfold cutoff at idle ⊢; omega
    simp [absent, found, Option.filter, not_le.mpr evicted]

/-- A table holding exactly the recent last accesses of `calls` has as many entries as there are
recent addresses. -/
theorem len_of_seenAt {l : IPRateLimiter} {calls : List Call} {cutoff : Int}
    (seen : ∀ ip, l.seenAt ip = (lastAccess calls ip).filter (cutoff ≤ ·)) :
    l.len = (recentIps calls cutoff).length := by
  rw [len_eq_length_keys]
  refine List.Perm.length_eq ((List.perm_ext_iff_of_nodup (AList.keys_nodup _)
    ((List.nodup_dedup _).filter _)).mpr fun ip => ?_)
  have held : ip ∈ l.ips.keys ↔ (lastAccess calls ip).any (cutoff ≤ ·) := by
    have present : (l.seenAt ip).isSome ↔ ip ∈ l.ips.keys := by
      simp [seenAt, AList.lookup_isSome, ← AList.mem_keys]
    rw [← present, seen]
    cases lastAccess calls ip <;> simp [Option.filter]
  simp only [held, recentIps, List.mem_filter, List.mem_dedup]
  constructor
  · intro recent
    cases found : lastAccess calls ip with
    | none => rw [found] at recent; cases recent
    | some a => exact ⟨(mem_accessed_of_foldl calls _ found).resolve_left nofun, found ▸ recent⟩
  · exact fun ⟨_, recent⟩ => recent

example : recentIps [.getLimiter "a" 0, .addIP "b" 5, .cleanup 12] 4 = ["b"] := by decide

end GoCommon.Limiter
