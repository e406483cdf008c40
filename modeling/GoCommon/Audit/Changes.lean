import GoCommon.Runtime

/-!
# Audit change maps

`CompareChanges(old, new)` marshals both values to JSON, unmarshals each into a
`map[string]interface{}`, and keeps the members of the new map that the old map lacks or holds
with a different value under Go's `!=` on `interface{}` values. That `!=` compares values of
different dynamic types as different and panics on two values of one type that is not
comparable: two slices or two maps, the types JSON arrays and objects decode to.

`compareChanges` starts from the two decoded maps; marshalling is not modelled, and a panic is
an `Except.error` holding the runtime's message. It panics exactly when some key holds two
arrays or two objects, and otherwise keeps exactly the members of the new map that are absent
from the old one or differ from it (`compareChanges_spec`).
-/

namespace GoCommon.Audit

/-- A value `json.Unmarshal` stores in an `interface{}`: `nil`, a `bool`, a `float64`, a
`string`, a `[]interface{}` or a `map[string]interface{}`. -/
inductive JsonAny where
  | null
  | bool (b : Bool)
  | number (f : Float)
  | string (s : String)
  | array (items : List JsonAny)
  | object (members : List (String × JsonAny))

/-- Two values of one dynamic type that Go cannot compare: two slices or two maps. -/
def uncomparable : JsonAny → JsonAny → Bool
  | .array _, .array _ => true
  | .object _, .object _ => true
  | _, _ => false

/-- Go's `oldValue != newValue` on two `interface{}` values: values of different dynamic types
differ, values of one comparable type are compared, and two slices or two maps panic. -/
def interfaceNe : JsonAny → JsonAny → Except String Bool
  | .null, .null => .ok false
  | .bool a, .bool b => .ok (a != b)
  | .number a, .number b => .ok !(a == b)
  | .string a, .string b => .ok (a != b)
  | .array _, .array _ =>
    .error "runtime error: comparing uncomparable type []interface \x7b\x7d"
  | .object _, .object _ =>
    .error "runtime error: comparing uncomparable type map[string]interface \x7b\x7d"
  | _, _ => .ok true

/-- The `range` loop of `CompareChanges` over the members of the new map, from the changes
found so far. -/
def changesLoop (oldMap : GoMap JsonAny) (changes : GoMap JsonAny) :
    List (Σ _ : String, JsonAny) → Except String (GoMap JsonAny)
  | [] => .ok changes
  | ⟨key, newValue⟩ :: rest =>
    match oldMap.lookup key with
    | none => changesLoop oldMap (changes.insert key newValue) rest
    | some oldValue =>
      match interfaceNe oldValue newValue with
      | .error panic => .error panic
      | .ok differ => changesLoop oldMap (if differ then changes.insert key newValue else changes) rest

/-- `CompareChanges`, from the two decoded maps. -/
def compareChanges (oldMap newMap : GoMap JsonAny) : Except String (GoMap JsonAny) :=
  changesLoop oldMap ∅ newMap.entries

/-- Whether `CompareChanges` keeps a member of the new map: the old map lacks its key, or holds a
value that `!=` finds different. -/
def kept (oldMap : GoMap JsonAny) (key : String) (newValue : JsonAny) : Bool :=
  match oldMap.lookup key with
  | none => true
  | some oldValue =>
    match interfaceNe oldValue newValue with
    | .ok differ => differ
    | .error _ => false

theorem interfaceNe_eq_error_iff (oldValue newValue : JsonAny) :
    (∃ panic, interfaceNe oldValue newValue = .error panic) ↔
      uncomparable oldValue newValue = true := by
  cases oldValue <;> cases newValue <;> simp [interfaceNe, uncomparable]

theorem interfaceNe_ok_of_comparable {oldValue newValue : JsonAny}
    (comparable : uncomparable oldValue newValue = false) :
    ∃ differ, interfaceNe oldValue newValue = .ok differ := by
  cases oldValue <;> cases newValue <;> simp_all [interfaceNe, uncomparable]

/-- One member of the new map whose comparison, if any, does not panic: it is added to the
changes exactly when it is kept. -/
theorem changesLoop_cons {oldMap changes : GoMap JsonAny} {key : String} {newValue : JsonAny}
    (rest : List (Σ _ : String, JsonAny))
    (comparable : ∀ oldValue, oldMap.lookup key = some oldValue →
      uncomparable oldValue newValue = false) :
    changesLoop oldMap changes (⟨key, newValue⟩ :: rest) =
      changesLoop oldMap
        (if kept oldMap key newValue then changes.insert key newValue else changes) rest := by
  cases found : oldMap.lookup key with
  | none => simp [changesLoop, kept, found]
  | some oldValue =>
    obtain ⟨differ, compared⟩ := interfaceNe_ok_of_comparable (comparable oldValue found)
    simp [changesLoop, kept, found, compared]

/-- The loop panics exactly when one of the members it visits meets an uncomparable old value. -/
theorem changesLoop_eq_error_iff (oldMap : GoMap JsonAny) :
    ∀ (changes : GoMap JsonAny) (members : List (Σ _ : String, JsonAny)),
      (∃ panic, changesLoop oldMap changes members = .error panic) ↔
        ∃ member ∈ members, ∃ oldValue, oldMap.lookup member.1 = some oldValue ∧
          uncomparable oldValue member.2 = true
  | _, [] => by simp [changesLoop]
  | changes, ⟨key, newValue⟩ :: rest => by
    by_cases panics : ∃ oldValue, oldMap.lookup key = some oldValue ∧
        uncomparable oldValue newValue = true
    · obtain ⟨oldValue, found, clash⟩ := panics
      obtain ⟨panic, failed⟩ := (interfaceNe_eq_error_iff oldValue newValue).mpr clash
      simp only [changesLoop, found, failed]
      exact iff_of_true ⟨panic, rfl⟩ ⟨_, .head _, oldValue, found, clash⟩
    · have comparable : ∀ oldValue, oldMap.lookup key = some oldValue →
          uncomparable oldValue newValue = false :=
        fun oldValue found => by simpa using fun clash => panics ⟨oldValue, found, clash⟩
      rw [changesLoop_cons rest comparable, changesLoop_eq_error_iff]
      constructor
      · rintro ⟨member, mem, later⟩
        exact ⟨member, .tail _ mem, later⟩
      · rintro ⟨member, mem, oldValue, found, clash⟩
        rcases List.mem_cons.mp mem with rfl | mem
        · exact absurd ⟨oldValue, found, clash⟩ panics
        · exact ⟨member, mem, oldValue, found, clash⟩

/-- Without a panic, the loop adds exactly the kept members to the changes. -/
theorem changesLoop_ok (oldMap : GoMap JsonAny) :
    ∀ (changes : GoMap JsonAny) (members : List (Σ _ : String, JsonAny)), members.NodupKeys →
      (∀ member ∈ members, ∀ oldValue, oldMap.lookup member.1 = some oldValue →
        uncomparable oldValue member.2 = false) →
      ∃ result, changesLoop oldMap changes members = .ok result ∧ ∀ key,
        result.lookup key = ((members.dlookup key).filter (kept oldMap key)).or (changes.lookup key)
  | changes, [], _, _ => ⟨changes, rfl, fun key => by simp⟩
  | changes, ⟨member, newValue⟩ :: rest, nodup, comparable => by
    obtain ⟨fresh, nodupRest⟩ := List.nodupKeys_cons.mp nodup
    rw [changesLoop_cons rest (comparable _ (.head _))]
    obtain ⟨result, ran, found⟩ :=
      changesLoop_ok oldMap _ rest nodupRest fun later mem => comparable later (.tail _ mem)
    refine ⟨result, ran, fun key => ?_⟩
    rw [found key]
    by_cases same : key = member
    · subst same
      have absent : rest.dlookup key = none := List.dlookup_eq_none.mpr fresh
      by_cases keep : kept oldMap key newValue <;>
        simp [absent, keep, List.dlookup_cons_eq, Option.filter]
    · have unchanged : (if kept oldMap member newValue then changes.insert member newValue
          else changes).lookup key = changes.lookup key := by
        split
        · exact AList.lookup_insert_ne same
        · rfl
      rw [unchanged, List.dlookup_cons_ne _ _ same]

/-- **What `CompareChanges` does.** It panics exactly when some key holds an array in both maps
or an object in both maps; otherwise it returns exactly the members of the new map that the old
map lacks or holds with a value `!=` finds different. -/
theorem compareChanges_spec (oldMap newMap : GoMap JsonAny) :
    ((∃ panic, compareChanges oldMap newMap = .error panic) ↔
      ∃ key oldValue newValue, oldMap.lookup key = some oldValue ∧
        newMap.lookup key = some newValue ∧ uncomparable oldValue newValue = true) ∧
    ((∀ key oldValue newValue, oldMap.lookup key = some oldValue →
        newMap.lookup key = some newValue → uncomparable oldValue newValue = false) →
      ∃ changes, compareChanges oldMap newMap = .ok changes ∧
        ∀ key, changes.lookup key = (newMap.lookup key).filter (kept oldMap key)) := by
  constructor
  · rw [compareChanges, changesLoop_eq_error_iff]
    constructor
    · rintro ⟨⟨key, newValue⟩, mem, oldValue, found, clash⟩
      exact ⟨key, oldValue, newValue, found, AList.mem_lookup_iff.mpr mem, clash⟩
    · rintro ⟨key, oldValue, newValue, found, present, clash⟩
      exact ⟨⟨key, newValue⟩, AList.mem_lookup_iff.mp present, oldValue, found, clash⟩
  · intro comparable
    obtain ⟨changes, ran, found⟩ := changesLoop_ok oldMap ∅ newMap.entries newMap.nodupKeys
      fun member mem oldValue old =>
        comparable member.1 oldValue member.2 old (AList.mem_lookup_iff.mpr mem)
    exact ⟨changes, ran, fun key => by simpa using found key⟩

/-- `{"meta": {}}`, decoded. -/
def withMeta : GoMap JsonAny := (∅ : GoMap JsonAny).insert "meta" (.object [])

/-- `{"tags": []}`, decoded. -/
def withTags : GoMap JsonAny := (∅ : GoMap JsonAny).insert "tags" (.array [])

/-- **Nested objects and arrays make `CompareChanges` panic**, even when nothing changed. -/
theorem compareChanges_nested_panics :
    compareChanges withMeta withMeta =
        .error "runtime error: comparing uncomparable type map[string]interface \x7b\x7d" ∧
      compareChanges withTags withTags =
        .error "runtime error: comparing uncomparable type []interface \x7b\x7d" :=
  ⟨rfl, rfl⟩

/-- The package's action names that `AuditLogger` gives `LogAction`. -/
def actionCreate : String := "CREATE"
def actionUpdate : String := "UPDATE"
def actionDelete : String := "DELETE"
def actionView : String := "VIEW"

end GoCommon.Audit
