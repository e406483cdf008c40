import GoCommon.Runtime
import Mathlib.Data.List.Range

/-!
# The retry loop shared by the outbound clients

`httpclient.Client.Do` and the unary interceptor built by `grpcclient.createRetryInterceptor`
run the same loop:

    for attempt := 0; attempt <= cfg.MaxRetries; attempt++ {
        if attempt > 0 {
            select { case <-ctx.Done(): return ctx.Err(); case <-time.After(delay): }
        }
        ... make the attempt; return, or remember its failure in lastErr
    }
    ... exhaustion, from lastErr

The clients differ only in what an attempt returns and in how they read it, so `loop` takes a
`classify` function giving a `Verdict` for each outcome. The world a call runs in gives the
outcome of every attempt and, for every wait, which branch of the `select` is taken:
`ctxWins i` holds when `ctx.Done()` is chosen before attempt `i`. Quantifying over every world
covers every sequence of outcomes and every moment of cancellation. The delay before attempt
`i` is `backoff i`, the client's `calculateBackoff`; its floating-point arithmetic is not
modelled, and nothing below depends on it.

`loop_cases` says what every run of the loop looks like, and `run_cases` instantiates it for a
whole call with a non-negative budget.
-/

namespace GoCommon.Retry

/-- What the loop does with the outcome of one attempt. -/
inductive Verdict (R E : Type) where
  /-- Return `result` from the call at once. -/
  | stop (result : R)
  /-- Store `failure` in `lastErr` and go on with the next attempt. -/
  | retry (failure : E)
  deriving DecidableEq, Repr

/-- An observable step of one call. -/
inductive Event where
  /-- The cancellable wait of `delay` before attempt number `attempt`. -/
  | wait (attempt : Nat) (delay : Int)
  /-- Attempt number `attempt` (counted from zero) is made. -/
  | attempt (attempt : Nat)
  deriving DecidableEq, Repr

/-- How one call leaves the loop. -/
inductive Exit (R E : Type) where
  /-- An attempt's verdict was `stop result`. -/
  | returned (result : R)
  /-- `ctx.Done()` won a `select`: the call returns `ctx.Err()`. -/
  | cancelled
  /-- The loop ran out; `lastErr` is the failure of the last attempt (nil if none was made). -/
  | exhausted (lastErr : Option E)
  deriving DecidableEq, Repr

/-- The world one call runs in. -/
structure World (O : Type) where
  /-- What attempt `i` returns. -/
  outcome : Nat → O
  /-- Whether the `select` before attempt `i` takes `ctx.Done()`. -/
  ctxWins : Nat → Bool

section Loop

variable {O R E : Type} (backoff : Nat → Int) (classify : O → Verdict R E) (w : World O)

/-- The iterations `attempt, attempt + 1, …` of the loop, `fuel` of them left, with `lastErr`
holding `last`. -/
def loop : Nat → Option E → Nat → List Event × Exit R E
  | _, last, 0 => ([], .exhausted last)
  | attempt, _, fuel + 1 =>
    let perform : List Event × Exit R E :=
      match classify (w.outcome attempt) with
      | .stop result => ([.attempt attempt], .returned result)
      | .retry failure =>
        let rest := loop (attempt + 1) (some failure) fuel
        (.attempt attempt :: rest.1, rest.2)
    if attempt = 0 then perform
    else if w.ctxWins attempt then ([.wait attempt (backoff attempt)], .cancelled)
    else (.wait attempt (backoff attempt) :: perform.1, perform.2)

/-- One call: attempts `0, …, maxRetries`, `lastErr` starting nil. A negative budget makes the
loop body never run. -/
def run (maxRetries : Int) : List Event × Exit R E :=
  loop backoff classify w 0 none (maxRetries + 1).toNat

/-- The events of attempt `i` when it is made: its wait (none before the first) and itself. -/
def attemptEvents (i : Nat) : List Event :=
  (if i = 0 then [] else [.wait i (backoff i)]) ++ [.attempt i]

/-- The events of attempts `a, …, a + k - 1`, made one after another. -/
def trace (a k : Nat) : List Event := (List.range' a k).flatMap (attemptEvents backoff)

/-- The `select` before attempt `i`, if there is one, lets the attempt go ahead. -/
def Passes (i : Nat) : Prop := i = 0 ∨ w.ctxWins i = false

/-- Attempt `i` fails in a way the loop retries. -/
def Fails (i : Nat) : Prop := ∃ failure, classify (w.outcome i) = .retry failure

/-- Attempts `a, …, a + k - 1` are all made and all fail. -/
def Reached (a k : Nat) : Prop := ∀ j < k, Passes w (a + j) ∧ Fails classify w (a + j)

/-- The failure a retried verdict stores in `lastErr`. -/
def Verdict.failure : Verdict R E → Option E
  | .stop _ => none
  | .retry failure => some failure

/-- `lastErr` after `k` failed attempts from `a`, starting from `last`. -/
def lastErrAfter (a : Nat) (last : Option E) : Nat → Option E
  | 0 => last
  | k + 1 => Verdict.failure (classify (w.outcome (a + k)))

/-- Every way a loop started at attempt `a` with `fuel` iterations can end: an attempt's `stop`
verdict, a cancelled wait, or the end of the budget. -/
def LoopCases (a fuel : Nat) (last : Option E) (result : List Event × Exit R E) : Prop :=
  (∃ k < fuel, Reached classify w a k ∧ Passes w (a + k) ∧
    ∃ r, classify (w.outcome (a + k)) = .stop r ∧
      result = (trace backoff a (k + 1), .returned r)) ∨
  (∃ k < fuel, Reached classify w a k ∧ 0 < a + k ∧ w.ctxWins (a + k) = true ∧
    result = (trace backoff a k ++ [.wait (a + k) (backoff (a + k))], .cancelled)) ∨
  (Reached classify w a fuel ∧
    result = (trace backoff a fuel, .exhausted (lastErrAfter classify w a last fuel)))

omit w in
theorem trace_succ (a k : Nat) :
    trace backoff a (k + 1) = attemptEvents backoff a ++ trace backoff (a + 1) k := rfl

theorem reached_succ {a k : Nat} :
    Reached classify w a (k + 1) ↔
      Passes w a ∧ Fails classify w a ∧ Reached classify w (a + 1) k := by
  constructor
  · intro reached
    refine ⟨(reached 0 (by omega)).1, (reached 0 (by omega)).2, fun j lt => ?_⟩
    simpa [Nat.add_assoc, Nat.add_comm 1 j] using reached (j + 1) (by omega)
  · rintro ⟨passes, fails, reached⟩ j lt
    cases j with
    | zero => exact ⟨passes, fails⟩
    | succ j => simpa [Nat.add_assoc, Nat.add_comm 1 j] using reached j (by omega)

/-- A cancelled wait ends the call before its attempt. -/
theorem loop_cancelled {a : Nat} {last : Option E} {fuel : Nat} (later : 0 < a)
    (wins : w.ctxWins a = true) :
    loop backoff classify w a last (fuel + 1) = ([.wait a (backoff a)], .cancelled) := by
  simp [loop, Nat.pos_iff_ne_zero.mp later, wins]

/-- An iteration whose wait passes makes its attempt; a `stop` verdict ends the call. -/
theorem loop_stop {a : Nat} {last : Option E} {fuel : Nat} {r : R} (passes : Passes w a)
    (verdict : classify (w.outcome a) = .stop r) :
    loop backoff classify w a last (fuel + 1) = (attemptEvents backoff a, .returned r) := by
  by_cases first : a = 0
  · subst first
    simp [loop, attemptEvents, verdict]
  · simp [loop, attemptEvents, first, passes.resolve_left first, verdict]

/-- An iteration whose wait passes makes its attempt; a `retry` verdict goes on with the next
iteration, the failure in `lastErr`. -/
theorem loop_retry {a : Nat} {last : Option E} {fuel : Nat} {failure : E}
    (passes : Passes w a) (verdict : classify (w.outcome a) = .retry failure) :
    loop backoff classify w a last (fuel + 1) =
      (attemptEvents backoff a ++ (loop backoff classify w (a + 1) (some failure) fuel).1,
        (loop backoff classify w (a + 1) (some failure) fuel).2) := by
  by_cases first : a = 0
  · subst first
    simp [loop, attemptEvents, verdict]
  · simp [loop, attemptEvents, first, passes.resolve_left first, verdict]

theorem loop_cases (a : Nat) (last : Option E) (fuel : Nat) :
    LoopCases backoff classify w a fuel last (loop backoff classify w a last fuel) := by
  induction fuel generalizing a last with
  | zero => exact .inr (.inr ⟨fun j lt => absurd lt (Nat.not_lt_zero j), rfl⟩)
  | succ n ih =>
    by_cases cancelled : 0 < a ∧ w.ctxWins a = true
    · refine .inr (.inl ⟨0, by omega, fun j lt => absurd lt (by omega), cancelled.1,
        cancelled.2, ?_⟩)
      simpa [trace] using loop_cancelled backoff classify w cancelled.1 cancelled.2
    have passes : Passes w a := by
      by_cases first : a = 0
      · exact .inl first
      · exact .inr (by simpa [Nat.pos_iff_ne_zero, first] using cancelled)
    cases verdict : classify (w.outcome a) with
    | stop r =>
      refine .inl ⟨0, by omega, fun j lt => absurd lt (by omega), passes, r, verdict, ?_⟩
      simp [loop_stop backoff classify w passes verdict, trace]
    | retry failure =>
      have step : loop backoff classify w a last (n + 1) = _ :=
        loop_retry backoff classify w passes verdict
      have head : Passes w a ∧ Fails classify w a := ⟨passes, failure, verdict⟩
      have shift (k : Nat) : a + 1 + k = a + (k + 1) := by omega
      rcases ih (a + 1) (some failure) with
        ⟨k, lt, reached, passes', r, stop, rest⟩ | ⟨k, lt, reached, later, wins, rest⟩ |
          ⟨reached, rest⟩
      · refine .inl ⟨k + 1, by omega, (reached_succ classify w).mpr ⟨head.1, head.2, reached⟩,
          shift k ▸ passes', r, shift k ▸ stop, ?_⟩
        rw [step, rest]
        simp [trace_succ, shift]
      · refine .inr (.inl ⟨k + 1, by omega,
          (reached_succ classify w).mpr ⟨head.1, head.2, reached⟩, by omega, shift k ▸ wins, ?_⟩)
        rw [step, rest]
        simp [trace_succ, shift]
      · refine .inr (.inr ⟨(reached_succ classify w).mpr ⟨head.1, head.2, reached⟩, ?_⟩)
        rw [step, rest]
        cases n with
        | zero => simp [trace_succ, trace, lastErrAfter, verdict, Verdict.failure]
        | succ n => simp [trace_succ, lastErrAfter, shift]

/-- A call with budget `k ≥ 0` makes attempts `0, 1, …` one after another, each after its wait,
and ends in exactly one of three ways: attempt `i ≤ k` is the last one made and its verdict is
`stop`; the wait before attempt `i ≤ k` is cancelled and no attempt follows; or all `k + 1`
attempts fail and `lastErr` is the failure of attempt `k`. -/
theorem run_cases (maxRetries : Int) (k : Nat) (budget : maxRetries = k) :
    (∃ i ≤ k, Reached classify w 0 i ∧ Passes w i ∧ ∃ r, classify (w.outcome i) = .stop r ∧
      run backoff classify w maxRetries = (trace backoff 0 (i + 1), .returned r)) ∨
    (∃ i ≤ k, Reached classify w 0 i ∧ 0 < i ∧ w.ctxWins i = true ∧
      run backoff classify w maxRetries =
        (trace backoff 0 i ++ [.wait i (backoff i)], .cancelled)) ∨
    (Reached classify w 0 (k + 1) ∧ ∃ failure, classify (w.outcome k) = .retry failure ∧
      run backoff classify w maxRetries =
        (trace backoff 0 (k + 1), .exhausted (some failure))) := by
  have fuel : (maxRetries + 1).toNat = k + 1 := by omega
  rcases loop_cases backoff classify w 0 none (k + 1) with
    ⟨i, lt, reached, passes, r, stop, result⟩ | ⟨i, lt, reached, later, wins, result⟩ |
      ⟨reached, result⟩
  · exact .inl ⟨i, by omega, reached, by simpa using passes, r, by simpa using stop,
      by simpa [run, fuel] using result⟩
  · exact .inr (.inl ⟨i, by omega, reached, by simpa using later, by simpa using wins,
      by simpa [run, fuel] using result⟩)
  · obtain ⟨failure, verdict⟩ := (reached k (by omega)).2
    rw [Nat.zero_add] at verdict
    refine .inr (.inr ⟨reached, failure, verdict, ?_⟩)
    simpa [run, fuel, lastErrAfter, verdict, Verdict.failure] using result

/-- With a negative budget the loop body never runs: no attempt, and `lastErr` is nil. -/
theorem run_of_neg {maxRetries : Int} (negative : maxRetries < 0) :
    run backoff classify w maxRetries = ([], .exhausted none) := by
  have fuel : (maxRetries + 1).toNat = 0 := by omega
  simp [run, fuel, loop]

end Loop

end GoCommon.Retry
