import Mathlib.Data.List.GetD

/-!
# `math/rand`

The modelled code draws from the global source of `math/rand` with `Intn` and `Shuffle`. A run
of the program is modelled by the values those calls return, in call order: the call at
position `pos` reads `draws pos`, and `Intn(n)` for a positive `n` returns it reduced below `n`.
Every sequence of values the calls can return, whatever the seed, is read so from some `draws`,
and every `draws` gives such a sequence. How the source reaches a value (`Int31n` may reject
and draw again) is not modelled: only the values the calls return are.

`rand.Shuffle(n, swap)` is Go's Fisher–Yates loop: for `i` from `n - 1` down to `1` it swaps
index `i` with a value drawn below `i + 1`. `length_shuffle` and `mem_shuffle`: a shuffle keeps
the length of the slice and its elements, whatever it draws.
-/

namespace GoCommon.Rand

/-- The values the calls of `math/rand` return, call after call. -/
abbrev Draws := Nat → Nat

/-- `rand.Intn(n)` for a positive `n`, made as the call at position `pos`. -/
def intn (draws : Draws) (pos n : Nat) : Nat := draws pos % n

theorem intn_lt (draws : Draws) (pos : Nat) {n : Nat} (positive : 0 < n) :
    intn draws pos n < n :=
  Nat.mod_lt _ positive

/-- Every value below `n` is what `Intn(n)` returns for some draw. -/
theorem intn_self (pos : Nat) {n value : Nat} (below : value < n) :
    intn (fun _ => value) pos n = value :=
  Nat.mod_eq_of_lt below

/-- The swap `Shuffle` is given: `s[i], s[j] = s[j], s[i]`. -/
def swap {α : Type} [Inhabited α] (xs : List α) (i j : Nat) : List α :=
  (xs.set i (xs.getD j default)).set j (xs.getD i default)

/-- The loop of `rand.Shuffle` from index `i + 1` down to `1`; `pos` is the position of its next
call. -/
def shuffleLoop {α : Type} [Inhabited α] (draws : Draws) : Nat → Nat → List α → List α
  | _, 0, xs => xs
  | pos, i + 1, xs => shuffleLoop draws (pos + 1) i (swap xs (i + 1) (intn draws pos (i + 2)))

/-- `rand.Shuffle(len(xs), swap)`, with its first call at position `pos`. -/
def shuffle {α : Type} [Inhabited α] (draws : Draws) (pos : Nat) (xs : List α) : List α :=
  shuffleLoop draws pos (xs.length - 1) xs

section Swap

variable {α : Type} [Inhabited α]

@[simp]
theorem length_swap (xs : List α) (i j : Nat) : (swap xs i j).length = xs.length := by
  simp [swap]

/-- A swap of two indices in range keeps the elements of the slice. -/
theorem mem_swap {xs : List α} {i j : Nat} (iInRange : i < xs.length) (jInRange : j < xs.length)
    (x : α) : x ∈ swap xs i j ↔ x ∈ xs := by
  have atI : xs.getD i default = xs[i] := List.getD_eq_getElem _ _ iInRange
  have atJ : xs.getD j default = xs[j] := List.getD_eq_getElem _ _ jInRange
  rw [swap, atI, atJ]
  constructor
  · intro mem
    rcases List.mem_or_eq_of_mem_set mem with mem | rfl
    · rcases List.mem_or_eq_of_mem_set mem with mem | rfl
      exacts [mem, List.getElem_mem _]
    · exact List.getElem_mem _
  · intro mem
    obtain ⟨k, inRange, rfl⟩ := List.mem_iff_getElem.mp mem
    by_cases atSecond : k = i
    · subst atSecond
      exact List.mem_set _ _ (by simpa using jInRange) _
    by_cases atFirst : k = j
    · subst atFirst
      have iInSwap : i < ((xs.set i xs[k]).set k xs[i]).length := by simpa using iInRange
      have kept : ((xs.set i xs[k]).set k xs[i])[i] = xs[k] := by
        rw [List.getElem_set_ne atSecond, List.getElem_set_self]
      have mem := List.getElem_mem iInSwap
      rwa [kept] at mem
    · have kInSwap : k < ((xs.set i xs[j]).set j xs[i]).length := by simpa using inRange
      have kept : ((xs.set i xs[j]).set j xs[i])[k] = xs[k] := by
        rw [List.getElem_set_ne (Ne.symm atFirst), List.getElem_set_ne (Ne.symm atSecond)]
      have mem := List.getElem_mem kInSwap
      rwa [kept] at mem

end Swap

section Shuffle

variable {α : Type} [Inhabited α] (draws : Draws)

/-- Every swap of the loop is in range, so the loop keeps the length and the elements. -/
theorem shuffleLoop_keeps : ∀ (pos i : Nat) (xs : List α), i < xs.length →
    (shuffleLoop draws pos i xs).length = xs.length ∧
      ∀ x, x ∈ shuffleLoop draws pos i xs ↔ x ∈ xs
  | _, 0, xs, _ => ⟨rfl, fun _ => Iff.rfl⟩
  | pos, i + 1, xs, inRange => by
    have drawn := intn_lt draws pos (n := i + 2) (by omega)
    obtain ⟨length, mem⟩ :=
      shuffleLoop_keeps (pos + 1) i (swap xs (i + 1) (intn draws pos (i + 2)))
        (by rw [length_swap]; omega)
    refine ⟨length.trans (length_swap _ _ _), fun x => (mem x).trans ?_⟩
    exact mem_swap inRange (by omega) x

@[simp]
theorem length_shuffle (pos : Nat) (xs : List α) : (shuffle draws pos xs).length = xs.length := by
  rcases xs with _ | ⟨x, xs⟩
  · rfl
  · exact (shuffleLoop_keeps draws pos _ _ (by simp)).1

theorem mem_shuffle (pos : Nat) (xs : List α) (x : α) :
    x ∈ shuffle draws pos xs ↔ x ∈ xs := by
  rcases xs with _ | ⟨y, ys⟩
  · rfl
  · exact (shuffleLoop_keeps draws pos _ _ (by simp)).2 x

end Shuffle

end GoCommon.Rand
