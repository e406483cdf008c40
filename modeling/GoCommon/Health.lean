import Mathlib.Data.List.Count
import Mathlib.Logic.Function.Basic
import Mathlib.Data.Nat.Defs

/-!
# Readiness checks

`HealthService.CheckReadiness` copies the registered checkers and starts one goroutine per
checker. The goroutine of checker `idx` calls `Check`, writes `allHealthy = false` when the call
returns an error, writes its `CheckResult` to `results[idx]`, and calls `wg.Done()`. After
`wg.Wait()` the handler reports `healthy` or `unhealthy` by `allHealthy`, with `results` as the
checks.

The goroutines share `results` and `allHealthy`. A schedule is the order in which their steps
happen, each write atomic; any list of goroutine indices is one. The state after a schedule
depends only on how many steps each goroutine has taken (`Reached.run`, `run_eq_of_taken_eq`),
so every order of the writes gives the same report: once each goroutine has finished, the checks
are each checker's own result in the order of registration, and the report is healthy exactly
when no check failed (`checkReadiness_eq`).
-/

namespace GoCommon.Health

/-- `StatusHealthy`. -/
def statusHealthy : String := "healthy"

/-- `StatusUnhealthy`. -/
def statusUnhealthy : String := "unhealthy"

/-- `CheckResult`, with `Duration` and `Timestamp` in nanoseconds. -/
structure CheckResult where
  name : String
  status : String
  message : String
  duration : Int
  timestamp : Int
  deriving DecidableEq, Repr

/-- The zero `CheckResult`, which `make([]CheckResult, n)` puts in every slot. -/
def CheckResult.zero : CheckResult := ⟨"", "", "", 0, 0⟩

/-- What the goroutine of one checker reads in a run: `c.Name()`, the `Error()` text of what
`c.Check(ctx)` returns, `time.Since(start)` and `time.Now()`. -/
structure Probe where
  name : String
  err : Option String
  duration : Int
  timestamp : Int

/-- The `CheckResult` the goroutine builds: unhealthy with the error's text, or healthy. -/
def Probe.result (probe : Probe) : CheckResult :=
  match probe.err with
  | some message => ⟨probe.name, statusUnhealthy, message, probe.duration, probe.timestamp⟩
  | none => ⟨probe.name, statusHealthy, "", probe.duration, probe.timestamp⟩

/-- The memory the goroutines share, and how far each goroutine has gone: 0 before its `Check`
call, 1 after the call and the write of `allHealthy` it makes on an error, 2 after the write of
`results[idx]` and `wg.Done()`. -/
@[ext]
structure Readiness where
  results : Nat → CheckResult
  allHealthy : Bool
  progress : Nat → Nat

/-- The state when the goroutines start: zero results, `allHealthy := true`. -/
def Readiness.init : Readiness := ⟨fun _ => .zero, true, fun _ => 0⟩

/-- One step of goroutine `idx`. A finished goroutine, or an index without one, does nothing. -/
def step (probes : List Probe) (s : Readiness) (idx : Nat) : Readiness :=
  match probes[idx]?, s.progress idx with
  | some probe, 0 =>
    { s with
      allHealthy := if probe.err.isSome then false else s.allHealthy
      progress := Function.update s.progress idx 1 }
  | some probe, 1 =>
    { s with
      results := Function.update s.results idx probe.result
      progress := Function.update s.progress idx 2 }
  | _, _ => s

/-- The goroutines' steps in the order of `schedule`. -/
def run (probes : List Probe) (schedule : List Nat) : Readiness :=
  schedule.foldl (step probes) .init

/-- `wg.Wait()` has returned: every goroutine has called `wg.Done()`. -/
def Finished (probes : List Probe) (s : Readiness) : Prop :=
  ∀ idx < probes.length, s.progress idx = 2

instance (probes : List Probe) (s : Readiness) : Decidable (Finished probes s) :=
  inferInstanceAs (Decidable (∀ idx < probes.length, s.progress idx = 2))

/-- The map `CheckReadiness` returns: its `status`, `timestamp` and `checks` entries. -/
structure Report where
  status : String
  timestamp : Int
  checks : List CheckResult
  deriving DecidableEq, Repr

/-- `CheckReadiness(ctx)` on the copied checkers, their goroutines run by `schedule`, with
`time.Now()` at the return: `none` while `wg.Wait()` still blocks. -/
def checkReadiness (probes : List Probe) (schedule : List Nat) (now : Int) :
    Option (Report × Bool) :=
  if probes.length = 0 then some (⟨statusHealthy, now, []⟩, true)
  else
    let s := run probes schedule
    if Finished probes s then
      some (⟨if s.allHealthy then statusHealthy else statusUnhealthy, now,
        (List.range probes.length).map s.results⟩, s.allHealthy)
    else none

section Schedules

variable {probes : List Probe} {schedule : List Nat}

/-- How many of its two steps goroutine `idx` has taken under `schedule`. -/
def taken (probes : List Probe) (schedule : List Nat) (idx : Nat) : Nat :=
  if idx < probes.length then min 2 (schedule.count idx) else 0

theorem taken_nil (idx : Nat) : taken probes [] idx = 0 := by
  simp [taken]

theorem taken_of_length_le {idx : Nat} (outside : probes.length ≤ idx) :
    taken probes schedule idx = 0 := by
  simp [taken, Nat.not_lt.mpr outside]

theorem taken_snoc_of_ne {i j : Nat} (other : j ≠ i) :
    taken probes (schedule ++ [i]) j = taken probes schedule j := by
  simp [taken, List.count_append, List.count_singleton', Ne.symm other]

theorem taken_le_two (idx : Nat) : taken probes schedule idx ≤ 2 := by
  unfold taken
  split <;> omega

theorem taken_snoc_self {i : Nat} (inRange : i < probes.length) :
    taken probes (schedule ++ [i]) i = min 2 (taken probes schedule i + 1) := by
  simp only [taken, inRange, if_true, List.count_append, List.count_singleton']
  omega

/-- What a schedule leaves in the shared memory: each goroutine's progress is the number of its
steps so far, its slot holds its result once both steps are done, and `allHealthy` is true
exactly when no goroutine that has called `Check` got an error. -/
structure Reached (probes : List Probe) (schedule : List Nat) (s : Readiness) : Prop where
  progress_eq : ∀ idx, s.progress idx = taken probes schedule idx
  results_eq : ∀ idx, s.results idx =
    if taken probes schedule idx = 2 then (probes[idx]?.map Probe.result).getD .zero else .zero
  allHealthy_iff : s.allHealthy = true ↔
    ∀ idx probe, probes[idx]? = some probe → 0 < taken probes schedule idx → probe.err = none

/-- `Reached` reads a schedule only through `taken`. -/
theorem Reached.of_taken_eq {other : List Nat} {s : Readiness}
    (reached : Reached probes schedule s) (sameSteps : taken probes other = taken probes schedule) :
    Reached probes other s := by
  obtain ⟨progress_eq, results_eq, allHealthy_iff⟩ := reached
  rw [← sameSteps] at progress_eq results_eq allHealthy_iff
  exact ⟨progress_eq, results_eq, allHealthy_iff⟩

theorem reached_init : Reached probes [] Readiness.init :=
  ⟨fun idx => (taken_nil idx).symm, fun idx => by simp [Readiness.init, taken_nil],
    by simp [Readiness.init, taken_nil]⟩

/-- A step of a goroutine without a checker, or of a finished one, changes nothing. -/
theorem Reached.step_idle {s : Readiness} (reached : Reached probes schedule s) {i : Nat}
    (idle : taken probes (schedule ++ [i]) i = taken probes schedule i) :
    Reached probes (schedule ++ [i]) s := by
  refine reached.of_taken_eq (funext fun j => ?_)
  by_cases other : j = i
  · subst other; exact idle
  · exact taken_snoc_of_ne other

/-- The first step of goroutine `i`: its `Check` call, and `allHealthy = false` on an error. -/
theorem Reached.step_first {s : Readiness} (reached : Reached probes schedule s) {i : Nat}
    {probe : Probe} (found : probes[i]? = some probe) (before : s.progress i = 0) :
    Reached probes (schedule ++ [i])
      { s with
        allHealthy := if probe.err.isSome then false else s.allHealthy
        progress := Function.update s.progress i 1 } := by
  obtain ⟨progress_eq, results_eq, allHealthy_iff⟩ := reached
  have inRange : i < probes.length := (List.getElem?_eq_some_iff.mp found).1
  have now : taken probes (schedule ++ [i]) i = 1 := by
    rw [taken_snoc_self inRange, ← progress_eq, before]; rfl
  refine ⟨fun j => ?_, fun j => ?_, ?_⟩
  · by_cases other : j = i
    · subst other; simp [now]
    · simp [Function.update_noteq other, taken_snoc_of_ne other, progress_eq]
  · by_cases other : j = i
    · subst other; simp [now, results_eq, ← progress_eq, before]
    · simp only [taken_snoc_of_ne other, results_eq]
  · simp only [← progress_eq] at allHealthy_iff
    cases failed : probe.err with
    | some message =>
      simp only [Option.isSome_some, if_true, Bool.false_eq_true, false_iff, not_forall]
      exact ⟨i, probe, found, by omega, by simp [failed]⟩
    | none =>
      simp only [Option.isSome_none, Bool.false_eq_true, if_false, allHealthy_iff]
      constructor
      · intro earlier j other seen started
        by_cases same : j = i
        · subst same; rw [found] at seen; cases seen; exact failed
        · exact earlier j other seen (by rwa [taken_snoc_of_ne same, ← progress_eq] at started)
      · intro later j other seen started
        by_cases same : j = i
        · subst same; omega
        · exact later j other seen (by rwa [taken_snoc_of_ne same, ← progress_eq])

/-- The second step of goroutine `i`: `results[i] = result` and `wg.Done()`. -/
theorem Reached.step_second {s : Readiness} (reached : Reached probes schedule s) {i : Nat}
    {probe : Probe} (found : probes[i]? = some probe) (before : s.progress i = 1) :
    Reached probes (schedule ++ [i])
      { s with
        results := Function.update s.results i probe.result
        progress := Function.update s.progress i 2 } := by
  obtain ⟨progress_eq, results_eq, allHealthy_iff⟩ := reached
  have inRange : i < probes.length := (List.getElem?_eq_some_iff.mp found).1
  have now : taken probes (schedule ++ [i]) i = 2 := by
    rw [taken_snoc_self inRange, ← progress_eq, before]; rfl
  refine ⟨fun j => ?_, fun j => ?_, ?_⟩
  · by_cases other : j = i
    · subst other; simp [now]
    · simp [Function.update_noteq other, taken_snoc_of_ne other, progress_eq]
  · by_cases other : j = i
    · subst other; simp [now, found]
    · simp only [Function.update_noteq other, taken_snoc_of_ne other, results_eq]
  · rw [allHealthy_iff]
    refine forall_congr' fun j => forall_congr' fun other => forall_congr' fun _ => ?_
    by_cases same : j = i
    · subst same; rw [now, ← progress_eq, before]; simp
    · rw [taken_snoc_of_ne same]

/-- Every step keeps `Reached`. -/
theorem Reached.step {s : Readiness} (reached : Reached probes schedule s) (i : Nat) :
    Reached probes (schedule ++ [i]) (step probes s i) := by
  cases found : probes[i]? with
  | none =>
    have outside : probes.length ≤ i := List.getElem?_eq_none_iff.mp found
    simp only [Health.step, found]
    exact reached.step_idle (by rw [taken_of_length_le outside, taken_of_length_le outside])
  | some probe =>
    have inRange : i < probes.length := (List.getElem?_eq_some_iff.mp found).1
    match stage : s.progress i with
    | 0 => simpa only [Health.step, found, stage] using reached.step_first found stage
    | 1 => simpa only [Health.step, found, stage] using reached.step_second found stage
    | k + 2 =>
      simp only [Health.step, found, stage]
      have atMost := @taken_le_two probes schedule i
      refine reached.step_idle ?_
      rw [taken_snoc_self inRange, ← reached.progress_eq, stage] at *
      omega

theorem Reached.foldl {s : Readiness} (reached : Reached probes schedule s) (rest : List Nat) :
    Reached probes (schedule ++ rest) (rest.foldl (Health.step probes) s) := by
  induction rest generalizing schedule s with
  | nil => simpa using reached
  | cons i rest ih =>
    simpa [List.foldl_cons, List.append_assoc] using ih (reached.step i)

/-- **The state after any schedule.** -/
theorem Reached.run (probes : List Probe) (schedule : List Nat) :
    Reached probes schedule (Health.run probes schedule) := by
  simpa using (@reached_init probes).foldl schedule

/-- `wg.Wait()` returns exactly when each goroutine has taken both of its steps. -/
theorem finished_run_iff :
    Finished probes (run probes schedule) ↔ ∀ idx < probes.length, 2 ≤ schedule.count idx := by
  refine forall_congr' fun idx => forall_congr' fun inRange => ?_
  rw [(Reached.run probes schedule).progress_eq, taken, if_pos inRange]
  omega

end Schedules

/-- **Every order of the writes gives the same state.** Two schedules in which each goroutine
has taken as many of its steps leave the same results, the same `allHealthy` and the same
progress: no write is lost, and none depends on the order of the others. -/
theorem run_eq_of_taken_eq (probes : List Probe) (first second : List Nat)
    (sameSteps : taken probes first = taken probes second) :
    run probes first = run probes second := by
  have reachedFirst := (Reached.run probes first).of_taken_eq sameSteps.symm
  have reachedSecond := Reached.run probes second
  exact Readiness.ext
    (funext fun idx => (reachedFirst.results_eq idx).trans (reachedSecond.results_eq idx).symm)
    (Bool.eq_iff_iff.mpr (reachedFirst.allHealthy_iff.trans reachedSecond.allHealthy_iff.symm))
    (funext fun idx => (reachedFirst.progress_eq idx).trans (reachedSecond.progress_eq idx).symm)

/-- A database checker that answers and a cache checker that fails. -/
def twoProbes : List Probe :=
  [⟨"postgres", none, 5, 100⟩, ⟨"redis", some "redis connection not initialized", 3, 101⟩]

/-- The two goroutines run one after the other, or interleaved, to the same state. -/
theorem run_eq_of_taken_eq_interleaved :
    taken twoProbes [0, 0, 1, 1] = taken twoProbes [1, 0, 1, 0] ∧
      run twoProbes [0, 0, 1, 1] = run twoProbes [1, 0, 1, 0] := by
  have sameSteps : taken twoProbes [0, 0, 1, 1] = taken twoProbes [1, 0, 1, 0] := by
    funext idx
    simp only [taken, (by decide : [0, 0, 1, 1].Perm [1, 0, 1, 0]).count_eq]
  exact ⟨sameSteps, run_eq_of_taken_eq twoProbes _ _ sameSteps⟩

/-- The slots of a finished run, read in order, are the checkers' results. -/
theorem map_results_of_finished {probes : List Probe} {schedule : List Nat}
    (finished : Finished probes (run probes schedule)) :
    (List.range probes.length).map (run probes schedule).results = probes.map Probe.result := by
  refine List.ext_getElem (by simp) fun idx inRange _ => ?_
  have inProbes : idx < probes.length := by simpa using inRange
  rw [List.getElem_map, List.getElem_range, (Reached.run probes schedule).results_eq,
    ← (Reached.run probes schedule).progress_eq, finished idx inProbes]
  simp [List.getElem?_eq_getElem inProbes]

/-- In a finished run `allHealthy` is true exactly when no check returned an error. -/
theorem allHealthy_of_finished {probes : List Probe} {schedule : List Nat}
    (finished : Finished probes (run probes schedule)) :
    (run probes schedule).allHealthy = probes.all fun probe => probe.err.isNone := by
  have reached := Reached.run probes schedule
  rw [Bool.eq_iff_iff, reached.allHealthy_iff, List.all_eq_true]
  constructor
  · intro healthy probe mem
    obtain ⟨idx, inRange, rfl⟩ := List.getElem_of_mem mem
    have started : 0 < taken probes schedule idx := by
      rw [← reached.progress_eq, finished idx inRange]; omega
    simpa using healthy idx _ (List.getElem?_eq_getElem inRange) started
  · intro healthy idx probe found _
    simpa using healthy probe (List.getElem?_mem found)

/-- **`CheckReadiness` under every schedule.** It returns once each goroutine has taken both of
its steps, and then, whatever the order of the steps, it reports each checker's own result in
the order of registration, `healthy` and `true` when no check returned an error, and
`unhealthy` and `false` otherwise. With no checker the early return gives the same report. -/
theorem checkReadiness_eq (probes : List Probe) (schedule : List Nat) (now : Int) :
    checkReadiness probes schedule now =
      if ∀ idx < probes.length, 2 ≤ schedule.count idx then
        some (⟨if probes.all (fun probe => probe.err.isNone) then statusHealthy
          else statusUnhealthy, now, probes.map Probe.result⟩,
          probes.all fun probe => probe.err.isNone)
      else none := by
  dsimp only [checkReadiness]
  by_cases empty : probes.length = 0
  · rw [List.length_eq_zero.mp empty]
    simp
  · by_cases finished : Finished probes (run probes schedule)
    · rw [if_neg empty, if_pos finished, if_pos (finished_run_iff.mp finished),
        map_results_of_finished finished, allHealthy_of_finished finished]
    · rw [if_neg empty, if_neg finished, if_neg (mt finished_run_iff.mpr finished)]

end GoCommon.Health
