import Mathlib.Data.List.AList
import Mathlib.Data.List.Basic

/-!
# Go values read by the library

The modelled code reads a few values of the Go runtime: strings, `map[string]V`, instants of
`time.Now()` and `time.Duration`s. This file fixes their model once for every component.

A Go `string` is a `String`. Every comparison the modelled code makes cuts strings at ASCII
bytes (`":"`, `"Bearer "`, `"*"`), which never occur inside a multi-byte UTF-8 sequence, so the
byte reading and the character reading of those functions agree. A `map[string]V` is an
`AList`: keys are unique, and the only iteration the modelled code performs is a `range` that
deletes entries, whose result does not depend on Go's iteration order (`GoMap.deleteWhere`).
Instants and durations are `Int`s, nanoseconds of the monotonic clock that `time.Now()` reads;
the reading is a parameter of each operation.
-/

namespace GoCommon

/-- A Go `map[string]V`. -/
abbrev GoMap (V : Type) := AList (fun _ : String => V)

namespace GoMap

variable {V : Type}

/-- `len(m)`. -/
def len (m : GoMap V) : Nat := m.entries.length

/-- `for k, v := range m { if drop(k, v) { delete(m, k) } }`: Go visits every entry present at
the start exactly once, so the loop deletes exactly the entries for which `drop` holds. -/
def deleteWhere (drop : String → V → Bool) (m : GoMap V) : GoMap V :=
  ⟨m.entries.filter (fun e => !drop e.1 e.2), m.nodupKeys.sublist (List.filter_sublist _)⟩

private theorem dlookup_filter (keep : String → V → Bool) (key : String) :
    ∀ {l : List (Σ _ : String, V)}, l.NodupKeys →
      (l.filter (fun e => keep e.1 e.2)).dlookup key = (l.dlookup key).filter (keep key)
  | [], _ => rfl
  | ⟨k, v⟩ :: l, nodup => by
      obtain ⟨fresh, nodupTail⟩ := List.nodupKeys_cons.mp nodup
      by_cases same : key = k
      · subst same
        have absent : l.dlookup key = none := List.dlookup_eq_none.mpr fresh
        by_cases kept : keep key v
        · simp [List.filter_cons, kept, List.dlookup_cons_eq, Option.filter]
        · simp [List.filter_cons, kept, List.dlookup_cons_eq, dlookup_filter keep key nodupTail,
            absent, Option.filter]
      · have skip : ∀ rest : List (Σ _ : String, V),
            (⟨k, v⟩ :: rest).dlookup key = rest.dlookup key :=
          fun rest => List.dlookup_cons_ne rest ⟨k, v⟩ same
        by_cases kept : keep k v <;>
          simp [List.filter_cons, kept, skip, dlookup_filter keep key nodupTail]

@[simp]
theorem lookup_deleteWhere (drop : String → V → Bool) (m : GoMap V) (key : String) :
    (m.deleteWhere drop).lookup key = (m.lookup key).filter (fun v => !drop key v) :=
  dlookup_filter (fun k v => !drop k v) key m.nodupKeys

/-- After the deleting `range`, no entry left satisfies `drop`. -/
theorem not_drop_of_lookup_deleteWhere {drop : String → V → Bool} {m : GoMap V}
    {key : String} {v : V} (found : (m.deleteWhere drop).lookup key = some v) :
    drop key v = false := by
  rw [lookup_deleteWhere, Option.filter_eq_some] at found
  simpa using found.2

end GoMap

namespace Strings

/-- `strings.HasPrefix(s, prefix)`. -/
def hasPrefix (s pre : String) : Bool := pre.data.isPrefixOf s.data

/-- `strings.TrimPrefix(s, prefix)`. -/
def trimPrefix (s pre : String) : String :=
  if hasPrefix s pre then ⟨s.data.drop pre.length⟩ else s

/-- `strings.HasSuffix(s, suffix)`. Both are valid UTF-8, so a byte suffix starts at a rune. -/
def hasSuffix (s suffix : String) : Bool := suffix.data.isSuffixOf s.data

/-- `strings.TrimSuffix(s, suffix)`. -/
def trimSuffix (s suffix : String) : String :=
  if hasSuffix s suffix then ⟨s.data.take (s.length - suffix.length)⟩ else s

/-- `strings.Split(s, sep)` for a one-byte separator. -/
def split (s : String) (sep : Char) : List String := (s.data.splitOn sep).map String.mk

/-- The slice expression `s[n:]`. -/
def sliceFrom (s : String) (n : Nat) : String := ⟨s.data.drop n⟩

theorem hasPrefix_iff {s pre : String} : hasPrefix s pre ↔ pre.data <+: s.data :=
  List.isPrefixOf_iff_prefix

theorem hasSuffix_iff {s suffix : String} : hasSuffix s suffix ↔ suffix.data <:+ s.data :=
  List.isSuffixOf_iff_suffix

/-- An end both texts share cancels. -/
theorem hasSuffix_append_append (s suffix tail : String) :
    hasSuffix (s ++ tail) (suffix ++ tail) = hasSuffix s suffix := by
  rw [Bool.eq_iff_iff, hasSuffix_iff, hasSuffix_iff, String.data_append, String.data_append,
    ← List.reverse_prefix, List.reverse_append, List.reverse_append,
    List.prefix_append_right_inj, List.reverse_prefix]

/-- `TrimSuffix` takes off a suffix the text ends with. -/
theorem trimSuffix_append (pre suffix : String) : trimSuffix (pre ++ suffix) suffix = pre := by
  have ends : hasSuffix (pre ++ suffix) suffix := hasSuffix_iff.mpr ⟨pre.data, rfl⟩
  rw [trimSuffix, if_pos ends]
  obtain ⟨pre⟩ := pre
  obtain ⟨suffix⟩ := suffix
  simp [String.length, String.append]

/-- `TrimSuffix` leaves a text that does not end with the suffix as it is. -/
theorem trimSuffix_of_not_hasSuffix {s suffix : String} (notEnds : hasSuffix s suffix = false) :
    trimSuffix s suffix = s := by
  simp [trimSuffix, notEnds]

/-- No part of a split holds a separator. -/
private theorem splitOnP_sepFree {α : Type} (p : α → Bool) :
    ∀ (l : List α), ∀ part ∈ l.splitOnP p, ∀ x ∈ part, p x = false
  | [], part, mem, x, hx => by simp at mem; subst mem; simp at hx
  | a :: l, part, mem, x, hx => by
    have ih := splitOnP_sepFree p l
    rw [List.splitOnP_cons] at mem
    split at mem
    · rcases List.mem_cons.mp mem with rfl | mem
      · simp at hx
      · exact ih part mem x hx
    · obtain ⟨q, qs, parts⟩ := List.exists_cons_of_ne_nil (List.splitOnP_ne_nil p l)
      rw [parts] at mem ih
      simp only [List.modifyHead, List.mem_cons] at mem
      rcases mem with rfl | mem
      · rcases List.mem_cons.mp hx with rfl | hx
        · simpa using ‹¬p x = true›
        · exact ih q (.head _) x hx
      · exact ih part (.tail _ mem) x hx

/-- A list splits at `c` into two parts exactly when it holds one `c`, between them. -/
theorem splitOn_eq_pair {α : Type} [DecidableEq α] {c : α} {l xs ys : List α} :
    l.splitOn c = [xs, ys] ↔ c ∉ xs ∧ c ∉ ys ∧ l = xs ++ c :: ys := by
  constructor
  · intro parts
    have sepFree := splitOnP_sepFree (· == c) l
    simp only [List.splitOn] at parts
    rw [parts] at sepFree
    refine ⟨fun mem => ?_, fun mem => ?_, ?_⟩
    · simpa using sepFree xs (by simp) c mem
    · simpa using sepFree ys (by simp) c mem
    · have joined := List.intercalate_splitOn l c
      simp only [List.splitOn, parts] at joined
      simpa [List.intercalate] using joined.symm
  · rintro ⟨noXs, noYs, rfl⟩
    have sepFree : ∀ part : List α, c ∉ part → ∀ x ∈ part, ¬(x == c) = true := by
      intro part free x mem same
      exact free (by simpa [beq_iff_eq.mp same] using mem)
    simp only [List.splitOn]
    rw [List.splitOnP_first (· == c) xs (sepFree xs noXs) c (by simp),
      List.splitOnP_eq_single (· == c) ys (sepFree ys noYs)]

/-- `strings.Split(s, sep)` has two parts exactly when `s` holds one separator, between them. -/
theorem split_eq_pair {s first second : String} {sep : Char} :
    split s sep = [first, second] ↔
      sep ∉ first.data ∧ sep ∉ second.data ∧ s.data = first.data ++ sep :: second.data := by
  rw [← splitOn_eq_pair, split]
  constructor
  · intro parts
    have roundTrip : String.data ∘ String.mk = id := rfl
    simpa [roundTrip] using congrArg (List.map String.data) parts
  · intro parts
    simp [parts]

end Strings

end GoCommon
