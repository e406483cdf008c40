import GoCommon.Strconv
import GoCommon.Auth.TokenAuth

/-!
# Loading a configuration struct from the environment

`Loader.LoadInto(cfg)` walks the struct `cfg` points to with `reflect` (`parseStruct`). A field of
struct type other than `time.Time` is walked in turn, under the prefix its `env_prefix` tag
names, or else under the outer prefix and its own name in snake case. Every other field reads the
variable its `env` tag names, or its name in snake case, after the prefix and in upper case; an
unset or empty variable falls back to the `default` tag, and with no default the field is left as
it is. `setField` parses the text by the field's kind; the first field whose text does not parse
stops the walk with `failed to set field <Name>: <err>`, and the fields set before it stay set,
since the walk writes the struct in place.

A struct type is modelled by its fields (`Field`): a leaf with its name, tags and kind, or a
nested struct with its fields. The struct's contents are the value at each leaf, by the indices
of the fields that lead to it (`Store`). The walk over the tree is the flat loop over its leaves
in field order (`parseStruct_eq_loadLeaves`), and from that loop follows what `LoadInto` leaves
behind on success and on failure (`loadInto_ok`, `loadInto_partial_write`). The manual helpers
`GetEnvInt64`, `GetEnvBool` and `GetEnvDuration` read a set variable as `LoadInto` reads it into a
field of that type, with the default where `LoadInto` reports an error; `GetEnvSlice` drops the
blank items that `LoadInto` keeps (`getEnv_agrees_with_setField`).

`strconv.ParseFloat` and `time.ParseDuration` are not modelled: the loader is a function of what
they return (`LibParsers`). So is `unicode.ToUpper`, which `strings.ToUpper` maps over the runes
of a text. The text of a
`*strconv.NumError` by its fields. Reading the `.env` files (`Load`) is not modelled: its outcome
is a parameter of `loadInto`.
-/

namespace GoCommon.Config

open Strconv

/-- `os.Getenv`: the value of each variable, empty when it is unset. -/
abbrev Env := String → String

/-- `strings.ToUpper(s)`, given `unicode.ToUpper`: the rune map, which the ASCII fast path
agrees with. -/
def toUpper (upperRune : Char → Char) (s : String) : String := ⟨s.data.map upperRune⟩

/-- The runes of `toSnakeCase` after the first: an underscore before each ASCII capital. -/
def snakeTail : List Char → List Char
  | [] => []
  | r :: rs => (if 'A' ≤ r ∧ r ≤ 'Z' then ['_', r] else [r]) ++ snakeTail rs

/-- `toSnakeCase(s)`: an underscore before each ASCII capital but a leading one, then
`strings.ToUpper`. -/
def toSnakeCase (upperRune : Char → Char) (s : String) : String :=
  match s.data with
  | [] => ""
  | r :: rs => toUpper upperRune ⟨r :: snakeTail rs⟩

/-- `strconv.ParseBool(str)`. -/
def parseBool (str : String) : Option Bool :=
  if str ∈ ["1", "t", "T", "true", "TRUE", "True"] then some true
  else if str ∈ ["0", "f", "F", "false", "FALSE", "False"] then some false
  else none

/-- The standard-library functions the loader calls and the model leaves open:
`strconv.ParseFloat(s, 64)`, by the error it reports, `time.ParseDuration(s)`, by the
nanoseconds it reads (the loader never looks at its error), and `unicode.ToUpper`. -/
structure LibParsers where
  parseFloatError : String → Option NumError
  parseDuration : String → Option Int
  toUpperRune : Char → Char

/-- `field.Kind()`, as `setField` switches on it. -/
inductive Kind where
  /-- `reflect.String`. -/
  | string
  /-- `reflect.Int`, `Int8`, …, `Int64`, by their width in bits (`int` is 64), other than
  `time.Duration`. -/
  | int (width : Nat)
  /-- An `int64` of type `time.Duration`. -/
  | duration
  /-- `reflect.Uint`, `Uint8`, …, `Uint64`, by their width. -/
  | uint (width : Nat)
  /-- `reflect.Float32`, `Float64`, by their width. -/
  | float (width : Nat)
  /-- `reflect.Bool`. -/
  | bool
  /-- `reflect.Slice`, and whether its elements are strings. -/
  | slice (ofStrings : Bool)
  /-- Any other kind (`time.Time` is a `struct`), by the name `Kind.String()` prints. -/
  | other (name : String)
  deriving DecidableEq, Repr

/-- A value `setField` writes. A float is the one `ParseFloat` reads from the text, rounded to
the field's width; a duration is an `int` of nanoseconds. -/
inductive Value where
  | str (value : String)
  | int (value : Int)
  | uint (value : Nat)
  | float (width : Nat) (text : String)
  | bool (value : Bool)
  | strs (values : List String)
  deriving DecidableEq, Repr

/-- The errors `setField` returns. -/
inductive SetError where
  /-- A `*strconv.NumError`: the function, the text and `Err`. -/
  | num (func text : String) (err : NumError)
  /-- `fmt.Errorf("unsupported type: %s", field.Kind())`. -/
  | unsupported (kind : String)
  deriving DecidableEq, Repr

/-- The errors `LoadInto` returns. -/
inductive LoadError where
  /-- The error of `l.Load()`. -/
  | load (err : String)
  /-- `config must be a non-nil pointer to struct`. -/
  | notPointer
  /-- `config must be a pointer to struct`. -/
  | notStruct
  /-- `fmt.Errorf("failed to set field %s: %w", fieldType.Name, err)`. -/
  | setField (name : String) (err : SetError)
  deriving DecidableEq, Repr

/-- The text of a `LoadInto` error, with the wrapped error's text given. -/
def LoadError.message (errText : SetError → String) : LoadError → String
  | .load err => err
  | .notPointer => "config must be a non-nil pointer to struct"
  | .notStruct => "config must be a pointer to struct"
  | .setField name err => "failed to set field " ++ name ++ ": " ++ errText err

/-- `setField(field, value)`: the value written, `none` for a slice of other elements (which is
left as it is), or the error. `SetInt` and `SetUint` keep the low bits of the 64-bit value. -/
def setField (lib : LibParsers) (kind : Kind) (value : String) : Except SetError (Option Value) :=
  match kind with
  | .string => .ok (some (.str value))
  | .int width =>
    match parseInt value with
    | (i, none) => .ok (some (.int (i.bmod (2 ^ width))))
    | (_, some err) => .error (.num "ParseInt" value err)
  | .duration =>
    match lib.parseDuration value with
    | some d => .ok (some (.int d))
    | none =>
      match parseInt value with
      | (secs, none) => .ok (some (.int (wrapInt64 (secs * 1000000000))))
      | (_, some err) => .error (.num "ParseInt" value err)
  | .uint width =>
    match parseUint value.data with
    | (u, none) => .ok (some (.uint (u % 2 ^ width)))
    | (_, some err) => .error (.num "ParseUint" value err)
  | .float width =>
    match lib.parseFloatError value with
    | none => .ok (some (.float width value))
    | some err => .error (.num "ParseFloat" value err)
  | .bool =>
    match parseBool value with
    | some b => .ok (some (.bool b))
    | none => .error (.num "ParseBool" value .errSyntax)
  | .slice ofStrings =>
    if ofStrings then
      .ok (some (.strs ((Strings.split value ',').map Auth.Middleware.trimSpace)))
    else .ok none
  | .other name => .error (.unsupported name)

/-- A field of a struct type, as `parseStruct` sees it. -/
inductive Field where
  /-- A field `setField` writes: its name, whether it is exported (`CanSet`), its `env` and
  `default` tags, and its kind. -/
  | leaf (name : String) (canSet : Bool) (envTag defaultTag : String) (kind : Kind)
  /-- A field of struct type other than `time.Time`: its name, whether it is exported, its
  `env_prefix` tag and its fields. -/
  | nested (name : String) (canSet : Bool) (envPrefixTag : String) (fields : List Field)
  deriving Repr

/-- A leaf of the struct, by the indices of the fields that lead to it. -/
abbrev Path := List Nat

/-- The contents of the struct: the value at each leaf. -/
abbrev Store := Path → Value

/-- The prefix of a nested struct: its `env_prefix` tag, or else the outer prefix and the field's
name in snake case. -/
def nestedPrefix (lib : LibParsers) (keyPrefix name envPrefixTag : String) : String :=
  if envPrefixTag ≠ "" then envPrefixTag
  else if keyPrefix ≠ "" then keyPrefix ++ "_" ++ toSnakeCase lib.toUpperRune name
  else toSnakeCase lib.toUpperRune name

/-- The variable a leaf reads: its `env` tag or its name in snake case, after the prefix, in
upper case. -/
def envKey (lib : LibParsers) (keyPrefix name envTag : String) : String :=
  let key := if envTag = "" then toSnakeCase lib.toUpperRune name else envTag
  let key := if keyPrefix ≠ "" then keyPrefix ++ "_" ++ key else key
  toUpper lib.toUpperRune key

/-- The text the loop hands to `setField`: the variable, or else the `default` tag, or `none`
for the `continue` when both are empty. -/
def readValue (env : Env) (key defaultTag : String) : Option String :=
  if env key ≠ "" then some (env key)
  else if defaultTag ≠ "" then some defaultTag
  else none

/-- One leaf of the loop: read its text and write what `setField` makes of it. -/
def setLeaf (lib : LibParsers) (env : Env) (key defaultTag : String) (kind : Kind) (name : String)
    (path : Path) (store : Store) : Store × Option LoadError :=
  match readValue env key defaultTag with
  | none => (store, none)
  | some value =>
    match setField lib kind value with
    | .ok (some v) => (Function.update store path v, none)
    | .ok none => (store, none)
    | .error err => (store, some (.setField name err))

mutual

/-- One iteration of `parseStruct`'s loop, on the field at `path`. -/
def parseField (lib : LibParsers) (env : Env) (keyPrefix : String) (path : Path) (store : Store) :
    Field → Store × Option LoadError
  | .leaf name canSet envTag defaultTag kind =>
    if canSet then setLeaf lib env (envKey lib keyPrefix name envTag) defaultTag kind name path store
    else (store, none)
  | .nested name canSet envPrefixTag fields =>
    if canSet then
      parseStruct lib env (nestedPrefix lib keyPrefix name envPrefixTag) path 0 store fields
    else (store, none)

/-- `parseStruct(v, prefix)`, from the field at index `i` on: the struct as written, and the
error of the first field that failed. -/
def parseStruct (lib : LibParsers) (env : Env) (keyPrefix : String) (path : Path) (i : Nat)
    (store : Store) : List Field → Store × Option LoadError
  | [] => (store, none)
  | field :: fields =>
    match parseField lib env keyPrefix (path ++ [i]) store field with
    | (store, none) => parseStruct lib env keyPrefix path (i + 1) store fields
    | failed => failed

end

/-- What `reflect.ValueOf(cfg)` finds. -/
inductive Target where
  | notPointer
  | nilPointer
  | pointerToNonStruct
  | pointerToStruct (fields : List Field)

/-- `unmarshalEnv(cfg, prefix)`. -/
def unmarshalEnv (lib : LibParsers) (env : Env) (cfg : Target) (keyPrefix : String)
    (store : Store) : Store × Option LoadError :=
  match cfg with
  | .pointerToStruct fields => parseStruct lib env keyPrefix [] 0 store fields
  | .pointerToNonStruct => (store, some .notStruct)
  | .notPointer | .nilPointer => (store, some .notPointer)

/-- `l.LoadInto(cfg)`, given the error of `l.Load()`. -/
def loadInto (lib : LibParsers) (loadError : Option String) (env : Env) (cfg : Target)
    (keyPrefix : String) (store : Store) : Store × Option LoadError :=
  match loadError with
  | some err => (store, some (.load err))
  | none => unmarshalEnv lib env cfg keyPrefix store

/-! ### The manual helpers -/

/-- The helpers' shape: a set variable that `parse` reads, or else the default. -/
def getEnvWith {α : Type} (parse : String → Option α) (env : Env) (key : String)
    (defaultValue : α) : α :=
  if env key ≠ "" then (parse (env key)).getD defaultValue else defaultValue

/-- `GetEnv(key, defaultValue)`. -/
def getEnv (env : Env) (key defaultValue : String) : String := getEnvWith some env key defaultValue

/-- The value `ParseInt(value, 10, 64)` reads, without an error. -/
def parseIntOk (value : String) : Option Int :=
  match parseInt value with
  | (i, none) => some i
  | (_, some _) => none

/-- `GetEnvInt(key, defaultValue)`: `strconv.Atoi`. -/
def getEnvInt (env : Env) (key : String) (defaultValue : Int) : Int :=
  getEnvWith (fun value => match atoi value with
    | (i, none) => some i
    | (_, some _) => none) env key defaultValue

/-- `GetEnvInt64(key, defaultValue)`. -/
def getEnvInt64 (env : Env) (key : String) (defaultValue : Int) : Int :=
  getEnvWith parseIntOk env key defaultValue

/-- `GetEnvBool(key, defaultValue)`. -/
def getEnvBool (env : Env) (key : String) (defaultValue : Bool) : Bool :=
  getEnvWith parseBool env key defaultValue

/-- `GetEnvDuration(key, defaultValue)`: `ParseDuration`, or else a number of seconds. -/
def getEnvDuration (lib : LibParsers) (env : Env) (key : String) (defaultValue : Int) : Int :=
  getEnvWith (fun value => match lib.parseDuration value with
    | some d => some d
    | none => (parseIntOk value).map fun secs => wrapInt64 (secs * 1000000000))
    env key defaultValue

/-- `GetEnvSlice(key, defaultValue)`: the comma-separated items, trimmed, without the empty
ones. -/
def getEnvSlice (env : Env) (key : String) (defaultValue : List String) : List String :=
  if env key ≠ "" then
    ((Strings.split (env key) ',').map Auth.Middleware.trimSpace).filter (· ≠ "")
  else defaultValue

/-- `MustGetEnv(key)`: the value, or the message of its panic. -/
def mustGetEnv (env : Env) (key : String) : Except String String :=
  if env key = "" then .error ("required environment variable " ++ key ++ " is not set")
  else .ok (env key)

/-- `RequiredEnv(keys...)`: `none`, or the error naming the unset variables in order. -/
def requiredEnv (env : Env) (keys : List String) : Option String :=
  let missing := keys.filter (env · = "")
  if 0 < missing.length then
    some ("missing required environment variables: " ++ ", ".intercalate missing)
  else none

/-! ### The walk as a loop over the leaves -/

/-- A settable leaf as the walk meets it: where it is, the variable it reads, its `default` tag,
its kind and its Go name. -/
structure Leaf where
  path : Path
  key : String
  defaultTag : String
  kind : Kind
  name : String

mutual

/-- The settable leaves under a field at `path`, in the walk's order. -/
def Field.leaves (lib : LibParsers) (keyPrefix : String) (path : Path) : Field → List Leaf
  | .leaf name canSet envTag defaultTag kind =>
    if canSet then [⟨path, envKey lib keyPrefix name envTag, defaultTag, kind, name⟩] else []
  | .nested name canSet envPrefixTag fields =>
    if canSet then leavesFrom lib (nestedPrefix lib keyPrefix name envPrefixTag) path 0 fields
    else []

/-- The settable leaves under the fields from index `i` on. -/
def leavesFrom (lib : LibParsers) (keyPrefix : String) (path : Path) (i : Nat) :
    List Field → List Leaf
  | [] => []
  | field :: fields =>
    field.leaves lib keyPrefix (path ++ [i]) ++ leavesFrom lib keyPrefix path (i + 1) fields

end

mutual

theorem Field.prefix_of_mem_leaves (lib : LibParsers) (keyPrefix : String) (path : Path) :
    ∀ (field : Field) {leaf : Leaf}, leaf ∈ field.leaves lib keyPrefix path → path <+: leaf.path
  | .leaf name canSet envTag defaultTag kind, leaf, mem => by
    cases canSet
    · cases mem
    · rw [Field.leaves, if_pos rfl, List.mem_singleton] at mem
      exact mem ▸ List.prefix_refl path
  | .nested name canSet envPrefixTag fields, leaf, mem => by
    cases canSet
    · cases mem
    · obtain ⟨_, -, below⟩ := prefix_of_mem_leavesFrom lib _ path 0 fields mem
      exact (List.prefix_append path _).trans below

/-- Every leaf under the fields from index `i` on lies under some field at an index `j ≥ i`. -/
theorem prefix_of_mem_leavesFrom (lib : LibParsers) (keyPrefix : String) (path : Path) (i : Nat) :
    ∀ (fields : List Field) {leaf : Leaf}, leaf ∈ leavesFrom lib keyPrefix path i fields →
      ∃ j, i ≤ j ∧ path ++ [j] <+: leaf.path
  | [], _, mem => by cases mem
  | field :: fields, leaf, mem => by
    rcases List.mem_append.mp mem with here | later
    · exact ⟨i, Nat.le_refl i, field.prefix_of_mem_leaves lib keyPrefix _ here⟩
    · obtain ⟨j, after, below⟩ := prefix_of_mem_leavesFrom lib keyPrefix path (i + 1) fields later
      exact ⟨j, by omega, below⟩

end

/-- Paths under two different fields of one struct differ. -/
theorem ne_of_prefix {path a b : Path} {i j : Nat} (ne : i ≠ j) (underI : path ++ [i] <+: a)
    (underJ : path ++ [j] <+: b) : a ≠ b := by
  obtain ⟨restA, rfl⟩ := underI
  obtain ⟨restB, rfl⟩ := underJ
  simp [ne]

mutual

theorem Field.distinct_leaves (lib : LibParsers) (keyPrefix : String) (path : Path) :
    ∀ field : Field, (field.leaves lib keyPrefix path).Pairwise (·.path ≠ ·.path)
  | .leaf name canSet envTag defaultTag kind => by cases canSet <;> simp [Field.leaves]
  | .nested name canSet envPrefixTag fields => by
    cases canSet
    · exact List.Pairwise.nil
    · exact distinct_leavesFrom lib _ path 0 fields

/-- **The walk meets each leaf once**: the leaves of a struct lie at distinct paths. -/
theorem distinct_leavesFrom (lib : LibParsers) (keyPrefix : String) (path : Path) (i : Nat) :
    ∀ fields : List Field, (leavesFrom lib keyPrefix path i fields).Pairwise (·.path ≠ ·.path)
  | [] => List.Pairwise.nil
  | field :: fields => by
    rw [leavesFrom, List.pairwise_append]
    refine ⟨field.distinct_leaves lib keyPrefix _,
      distinct_leavesFrom lib keyPrefix path (i + 1) fields, fun a here b later => ?_⟩
    obtain ⟨j, after, below⟩ := prefix_of_mem_leavesFrom lib keyPrefix path (i + 1) fields later
    exact ne_of_prefix (by omega) (field.prefix_of_mem_leaves lib keyPrefix _ here) below

end

section Leaves

variable (lib : LibParsers) (env : Env)

/-- One leaf of the loop. -/
def Leaf.load (leaf : Leaf) (store : Store) : Store × Option LoadError :=
  setLeaf lib env leaf.key leaf.defaultTag leaf.kind leaf.name leaf.path store

/-- The loop over the leaves, stopping at the first error. -/
def loadLeaves : List Leaf → Store → Store × Option LoadError
  | [], store => (store, none)
  | leaf :: leaves, store =>
    match leaf.load lib env store with
    | (store, none) => loadLeaves leaves store
    | failed => failed

/-- The value the loop writes at a leaf, if it writes one. -/
def Leaf.written (leaf : Leaf) : Option Value :=
  match readValue env leaf.key leaf.defaultTag with
  | none => none
  | some value =>
    match setField lib leaf.kind value with
    | .ok v => v
    | .error _ => none

/-- The error the loop stops at on a leaf, if it stops there. -/
def Leaf.failure (leaf : Leaf) : Option SetError :=
  match readValue env leaf.key leaf.defaultTag with
  | none => none
  | some value =>
    match setField lib leaf.kind value with
    | .ok _ => none
    | .error err => some err

/-- The struct after the write of one leaf. -/
def Leaf.write (leaf : Leaf) (store : Store) : Store :=
  match leaf.written lib env with
  | some v => Function.update store leaf.path v
  | none => store

/-- What one leaf does: its write, and its error. -/
theorem Leaf.load_eq (leaf : Leaf) (store : Store) :
    leaf.load lib env store =
      (leaf.write lib env store, (leaf.failure lib env).map (LoadError.setField leaf.name)) := by
  unfold Leaf.load setLeaf Leaf.write Leaf.written Leaf.failure
  cases readValue env leaf.key leaf.defaultTag with
  | none => rfl
  | some value =>
    dsimp only
    cases setField lib leaf.kind value with
    | error err => rfl
    | ok v => cases v <;> rfl

theorem loadLeaves_append (xs ys : List Leaf) (store : Store) :
    loadLeaves lib env (xs ++ ys) store =
      match loadLeaves lib env xs store with
      | (store, none) => loadLeaves lib env ys store
      | failed => failed := by
  induction xs generalizing store with
  | nil => rfl
  | cons leaf xs ih =>
    simp only [List.cons_append, loadLeaves, Leaf.load_eq]
    cases leaf.failure lib env <;> simp [ih]

end Leaves

mutual

/-- The walk over one field is the loop over its leaves. -/
theorem parseField_eq_loadLeaves (lib : LibParsers) (env : Env) (keyPrefix : String) (path : Path)
    (store : Store) : ∀ field : Field,
    parseField lib env keyPrefix path store field =
      loadLeaves lib env (field.leaves lib keyPrefix path) store
  | .leaf name canSet envTag defaultTag kind => by
    cases canSet
    · rfl
    · simp only [parseField, Field.leaves, if_true, loadLeaves, Leaf.load]
      cases setLeaf lib env (envKey lib keyPrefix name envTag) defaultTag kind name path store with
      | mk written err => cases err <;> rfl
  | .nested name canSet envPrefixTag fields => by
    cases canSet
    · rfl
    · exact parseStruct_eq_loadLeaves lib env _ path 0 store fields

/-- **The walk over the struct is the loop over its leaves in field order.** -/
theorem parseStruct_eq_loadLeaves (lib : LibParsers) (env : Env) (keyPrefix : String)
    (path : Path) (i : Nat) (store : Store) : ∀ fields : List Field,
    parseStruct lib env keyPrefix path i store fields =
      loadLeaves lib env (leavesFrom lib keyPrefix path i fields) store
  | [] => rfl
  | field :: fields => by
    rw [parseStruct, leavesFrom, loadLeaves_append, ← parseField_eq_loadLeaves]
    cases parseField lib env keyPrefix (path ++ [i]) store field with
    | mk written err =>
      cases err
      · exact parseStruct_eq_loadLeaves lib env keyPrefix path (i + 1) written fields
      · rfl

end

section Outcome

variable (lib : LibParsers) (env : Env)

/-- Whether the loop gets past a leaf. -/
def Leaf.passes (leaf : Leaf) : Bool := (leaf.failure lib env).isNone

theorem Leaf.write_of_failure {leaf : Leaf} {err : SetError} (fails : leaf.failure lib env = some err)
    (store : Store) : leaf.write lib env store = store := by
  unfold Leaf.failure at fails
  unfold Leaf.write Leaf.written
  cases read : readValue env leaf.key leaf.defaultTag with
  | none => simp [read] at fails
  | some value =>
    simp only [read] at fails ⊢
    cases set : setField lib leaf.kind value with
    | ok v => simp [set] at fails
    | error e => rfl

theorem Leaf.write_self (leaf : Leaf) (store : Store) :
    leaf.write lib env store leaf.path = (leaf.written lib env).getD (store leaf.path) := by
  unfold Leaf.write
  cases leaf.written lib env <;> simp

theorem Leaf.write_other {leaf : Leaf} {path : Path} (other : leaf.path ≠ path) (store : Store) :
    leaf.write lib env store path = store path := by
  unfold Leaf.write
  cases leaf.written lib env <;> simp [Function.update_noteq other.symm]

/-- The error of the loop: that of the first leaf that fails, under its Go name. -/
def firstFailure (leaves : List Leaf) : Option LoadError :=
  match leaves.dropWhile (Leaf.passes lib env) with
  | [] => none
  | leaf :: _ => (leaf.failure lib env).map (LoadError.setField leaf.name)

theorem firstFailure_eq_none_iff (leaves : List Leaf) :
    firstFailure lib env leaves = none ↔ ∀ leaf ∈ leaves, leaf.failure lib env = none := by
  unfold firstFailure
  cases rest : leaves.dropWhile (Leaf.passes lib env) with
  | nil =>
    simpa [Leaf.passes, Option.isNone_iff_eq_none] using List.dropWhile_eq_nil_iff.mp rest
  | cons leaf after =>
    have stops : ¬leaf.failure lib env = none := by
      simpa [rest, Leaf.passes, Option.isSome_iff_ne_none] using
        List.head_dropWhile_not (Leaf.passes lib env) leaves (by simp [rest])
    have mem : leaf ∈ leaves := (List.dropWhile_suffix _).subset (rest ▸ List.mem_cons_self _ _)
    rw [Option.map_eq_none']
    exact iff_of_false stops fun all => stops (all leaf mem)

/-- **The loop in closed form**: the leaves before the first that fails are written, and the
error is that leaf's. -/
theorem loadLeaves_eq (leaves : List Leaf) (store : Store) :
    loadLeaves lib env leaves store =
      ((leaves.takeWhile (Leaf.passes lib env)).foldl (fun store leaf => leaf.write lib env store)
          store, firstFailure lib env leaves) := by
  induction leaves generalizing store with
  | nil => rfl
  | cons leaf leaves ih =>
    simp only [loadLeaves, Leaf.load_eq]
    cases fails : leaf.failure lib env with
    | none => simp [firstFailure, Leaf.passes, fails, List.takeWhile_cons, List.dropWhile_cons, ih]
    | some err =>
      simp [firstFailure, Leaf.passes, fails, List.takeWhile_cons, List.dropWhile_cons,
        Leaf.write_of_failure lib env fails]

/-- Writing leaves leaves every other path as it was. -/
theorem foldl_write_of_not_mem {leaves : List Leaf} {path : Path}
    (absent : ∀ leaf ∈ leaves, leaf.path ≠ path) (store : Store) :
    leaves.foldl (fun store leaf => leaf.write lib env store) store path = store path := by
  induction leaves generalizing store with
  | nil => rfl
  | cons first leaves ih =>
    rw [List.foldl_cons, ih (fun leaf mem => absent leaf (.tail _ mem)),
      Leaf.write_other lib env (absent first (.head _))]

/-- Writing leaves at distinct paths: each holds what the loop wrote there. -/
theorem foldl_write_of_mem {leaves : List Leaf} (distinct : leaves.Pairwise (·.path ≠ ·.path))
    {leaf : Leaf} (mem : leaf ∈ leaves) (store : Store) :
    leaves.foldl (fun store leaf => leaf.write lib env store) store leaf.path =
      (leaf.written lib env).getD (store leaf.path) := by
  induction leaves generalizing store with
  | nil => cases mem
  | cons first leaves ih =>
    rw [List.pairwise_cons] at distinct
    rw [List.foldl_cons]
    rcases List.mem_cons.mp mem with rfl | later
    · rw [foldl_write_of_not_mem lib env (fun other mem => (distinct.1 other mem).symm),
        Leaf.write_self]
    · rw [ih distinct.2 later, Leaf.write_other lib env (distinct.1 leaf later)]

/-- The leaves before the first that fails lie at distinct paths. -/
theorem distinct_takeWhile {leaves : List Leaf} (distinct : leaves.Pairwise (·.path ≠ ·.path)) :
    (leaves.takeWhile (Leaf.passes lib env)).Pairwise (·.path ≠ ·.path) :=
  distinct.sublist (List.takeWhile_prefix _).sublist

/-- `LoadInto` on a pointer to a struct, after a `Load` that succeeded, is the loop over the
struct's leaves. -/
theorem loadInto_eq_loadLeaves (fields : List Field) (keyPrefix : String) (store : Store) :
    loadInto lib none env (.pointerToStruct fields) keyPrefix store =
      loadLeaves lib env (leavesFrom lib keyPrefix [] 0 fields) store :=
  parseStruct_eq_loadLeaves lib env keyPrefix [] 0 store fields

/-- **A `LoadInto` that succeeds.** After a `Load` that succeeded, `LoadInto` on a pointer to a
struct returns no error exactly when no settable leaf fails, and then each settable leaf holds
what `setField` made of its variable or its default (its old value when neither is set, or for a
slice of other elements), and every other part of the struct is as it was. -/
theorem loadInto_ok (fields : List Field) (keyPrefix : String) (store : Store) :
    ((loadInto lib none env (.pointerToStruct fields) keyPrefix store).2 = none ↔
        ∀ leaf ∈ leavesFrom lib keyPrefix [] 0 fields, leaf.failure lib env = none) ∧
      ((loadInto lib none env (.pointerToStruct fields) keyPrefix store).2 = none →
        (∀ leaf ∈ leavesFrom lib keyPrefix [] 0 fields,
          (loadInto lib none env (.pointerToStruct fields) keyPrefix store).1 leaf.path =
            (leaf.written lib env).getD (store leaf.path)) ∧
        ∀ path, (∀ leaf ∈ leavesFrom lib keyPrefix [] 0 fields, leaf.path ≠ path) →
          (loadInto lib none env (.pointerToStruct fields) keyPrefix store).1 path = store path) := by
  have distinct := distinct_leavesFrom lib keyPrefix [] 0 fields
  rw [loadInto_eq_loadLeaves, loadLeaves_eq]
  generalize leavesFrom lib keyPrefix [] 0 fields = leaves at distinct ⊢
  have allPass := firstFailure_eq_none_iff lib env leaves
  refine ⟨allPass, fun ok => ?_⟩
  have whole : leaves.takeWhile (Leaf.passes lib env) = leaves :=
    List.takeWhile_eq_self_iff.mpr fun leaf mem => by simp [Leaf.passes, allPass.mp ok leaf mem]
  rw [whole]
  exact ⟨fun leaf mem => foldl_write_of_mem lib env distinct mem store,
    fun path absent => foldl_write_of_not_mem lib env absent store⟩

/-- **A `LoadInto` that fails writes part of the struct.** When `LoadInto` on a pointer to a
struct returns an error after a `Load` that succeeded, the error is `failed to set field` with the
Go name of the first settable leaf that fails, in field order through the nested structs; the
leaves before it hold what `setField` made of their text, and everything else, that leaf and the
ones after it included, is as it was. -/
theorem loadInto_partial_write (fields : List Field) (keyPrefix : String) (store : Store)
    {err : LoadError}
    (failed : (loadInto lib none env (.pointerToStruct fields) keyPrefix store).2 = some err) :
    ∃ before leaf after e, leavesFrom lib keyPrefix [] 0 fields = before ++ leaf :: after ∧
      leaf.failure lib env = some e ∧ err = .setField leaf.name e ∧
      (∀ done ∈ before, done.failure lib env = none ∧
        (loadInto lib none env (.pointerToStruct fields) keyPrefix store).1 done.path =
          (done.written lib env).getD (store done.path)) ∧
      (∀ rest ∈ leaf :: after,
        (loadInto lib none env (.pointerToStruct fields) keyPrefix store).1 rest.path =
          store rest.path) ∧
      ∀ path, (∀ done ∈ before, done.path ≠ path) →
        (loadInto lib none env (.pointerToStruct fields) keyPrefix store).1 path = store path := by
  have distinct := distinct_leavesFrom lib keyPrefix [] 0 fields
  rw [loadInto_eq_loadLeaves, loadLeaves_eq] at failed ⊢
  generalize leavesFrom lib keyPrefix [] 0 fields = leaves at distinct failed ⊢
  unfold firstFailure at failed
  cases rest : leaves.dropWhile (Leaf.passes lib env) with
  | nil => simp [rest] at failed
  | cons leaf after =>
    rw [rest, Option.map_eq_some'] at failed
    obtain ⟨e, fails, rfl⟩ := failed
    have split : leaves = leaves.takeWhile (Leaf.passes lib env) ++ leaf :: after := by
      rw [← rest, List.takeWhile_append_dropWhile]
    have untouched : ∀ path, (∀ done ∈ leaves.takeWhile (Leaf.passes lib env), done.path ≠ path) →
        (leaves.takeWhile (Leaf.passes lib env)).foldl (fun store leaf => leaf.write lib env store)
          store path = store path :=
      fun path absent => foldl_write_of_not_mem lib env absent store
    refine ⟨_, leaf, after, e, split, fails, rfl, fun done mem => ⟨?_, ?_⟩, fun later mem => ?_,
      untouched⟩
    · simpa [Leaf.passes] using List.mem_takeWhile_imp mem
    · exact foldl_write_of_mem lib env (distinct_takeWhile lib env distinct) mem store
    · rw [split, List.pairwise_append] at distinct
      exact untouched _ fun done before => distinct.2.2 done before later mem

end Outcome

/-- No float or duration text parses, and runes upper-case as `unicode.ToUpper` does on ASCII. -/
def strictParsers : LibParsers := ⟨fun _ => some .errSyntax, fun _ => none, Char.toUpper⟩

/-- A struct with `Host string` and `Port int`. -/
def serverFields : List Field :=
  [.leaf "Host" true "" "" .string, .leaf "Port" true "" "" (.int 64)]

/-- `APP_HOST=db` and `APP_PORT=abc`. -/
def badPortEnv : Env := fun key =>
  if key = "APP_HOST" then "db" else if key = "APP_PORT" then "abc" else ""

/-- Under the prefix `APP`, `Host` is written and `Port` fails. -/
theorem loadInto_partial_write_port :
    (loadInto strictParsers none badPortEnv (.pointerToStruct serverFields) "APP"
        (fun _ => .str "")).2 = some (.setField "Port" (.num "ParseInt" "abc" .errSyntax)) ∧
    ∃ before leaf after e, leavesFrom strictParsers "APP" [] 0 serverFields = before ++ leaf :: after ∧
      leaf.failure strictParsers badPortEnv = some e ∧
      LoadError.setField "Port" (.num "ParseInt" "abc" .errSyntax) = .setField leaf.name e ∧
      (∀ done ∈ before, done.failure strictParsers badPortEnv = none ∧
        (loadInto strictParsers none badPortEnv (.pointerToStruct serverFields) "APP"
          (fun _ => .str "")).1 done.path =
          (done.written strictParsers badPortEnv).getD (Value.str "")) ∧
      (∀ rest ∈ leaf :: after,
        (loadInto strictParsers none badPortEnv (.pointerToStruct serverFields) "APP"
          (fun _ => .str "")).1 rest.path = Value.str "") ∧
      ∀ path, (∀ done ∈ before, done.path ≠ path) →
        (loadInto strictParsers none badPortEnv (.pointerToStruct serverFields) "APP"
          (fun _ => .str "")).1 path = Value.str "" :=
  have failed : (loadInto strictParsers none badPortEnv (.pointerToStruct serverFields) "APP"
      (fun _ => .str "")).2 = some (.setField "Port" (.num "ParseInt" "abc" .errSyntax)) := by
    decide
  ⟨failed, loadInto_partial_write strictParsers badPortEnv serverFields "APP" _ failed⟩

/-! ### The manual helpers against `LoadInto` -/

/-- `SetInt` on a 64-bit field keeps an `int64` as it is. -/
theorem bmod_of_isInt64 {x : Int} (inRange : IsInt64 x) : x.bmod (2 ^ 64) = x := by
  unfold IsInt64 at inRange
  have modulus : ((2 ^ 64 : Nat) : Int) = 18446744073709551616 := by norm_num
  rw [Int.bmod_def, modulus]
  split <;> omega

/-- What the helpers read from an `int64` field's text. -/
theorem parseIntOk_eq (lib : LibParsers) (value : String) :
    (parseIntOk value).getD = fun d => match setField lib (.int 64) value with
      | .ok (some (.int i)) => i
      | _ => d := by
  funext d
  have inRange := isInt64_parseInt value
  unfold parseIntOk setField
  cases parsed : parseInt value with
  | mk i err =>
    rw [parsed] at inRange
    cases err
    · dsimp only
      rw [bmod_of_isInt64 inRange]
      rfl
    · rfl

/-- **The manual helpers read a variable as `LoadInto` reads it into a field.** For a variable
that is set, `GetEnvInt`, `GetEnvInt64`, `GetEnvBool` and `GetEnvDuration` return the value
`LoadInto` writes into an `int`, `int64`, `bool` or `time.Duration` field, and their default where
`LoadInto` reports an error; `GetEnvSlice` returns the items `LoadInto` writes into a `[]string`
field without the blank ones, which `LoadInto` keeps. -/
theorem getEnv_agrees_with_setField (lib : LibParsers) (env : Env) (key : String)
    (set : env key ≠ "") (n : Int) (b : Bool) (items : List String) :
    getEnvInt env key n = (match setField lib (.int 64) (env key) with
      | .ok (some (.int i)) => i
      | _ => n) ∧
    getEnvInt64 env key n = (match setField lib (.int 64) (env key) with
      | .ok (some (.int i)) => i
      | _ => n) ∧
    getEnvBool env key b = (match setField lib .bool (env key) with
      | .ok (some (.bool value)) => value
      | _ => b) ∧
    getEnvDuration lib env key n = (match setField lib .duration (env key) with
      | .ok (some (.int d)) => d
      | _ => n) ∧
    getEnvSlice env key items = (match setField lib (.slice true) (env key) with
      | .ok (some (.strs written)) => written.filter (· ≠ "")
      | _ => items) := by
  have int : getEnvInt64 env key n = match setField lib (.int 64) (env key) with
      | .ok (some (.int i)) => i
      | _ => n :=
    (if_pos set).trans (congrFun (parseIntOk_eq lib (env key)) n)
  refine ⟨int, int, ?_, ?_, ?_⟩
  · unfold getEnvBool getEnvWith setField
    rw [if_pos set]
    cases parseBool (env key) <;> rfl
  · unfold getEnvDuration getEnvWith setField parseIntOk
    rw [if_pos set]
    dsimp only
    cases lib.parseDuration (env key) with
    | some d => rfl
    | none =>
      obtain ⟨secs, err⟩ := parseInt (env key)
      cases err <;> rfl
  · simp [getEnvSlice, setField, set]

/-- `ALLOWED_ORIGINS=a, ,b`. -/
def originsEnv : Env := fun key => if key = "ALLOWED_ORIGINS" then "a, ,b" else ""

/-- On `ALLOWED_ORIGINS=a, ,b`, `GetEnvSlice` drops the blank item that `LoadInto` keeps. -/
theorem getEnv_agrees_with_setField_origins :
    originsEnv "ALLOWED_ORIGINS" ≠ "" ∧
    getEnvInt originsEnv "ALLOWED_ORIGINS" 0 =
      (match setField strictParsers (.int 64) (originsEnv "ALLOWED_ORIGINS") with
      | .ok (some (.int i)) => i
      | _ => 0) ∧
    getEnvInt64 originsEnv "ALLOWED_ORIGINS" 0 =
      (match setField strictParsers (.int 64) (originsEnv "ALLOWED_ORIGINS") with
      | .ok (some (.int i)) => i
      | _ => 0) ∧
    getEnvBool originsEnv "ALLOWED_ORIGINS" false =
      (match setField strictParsers .bool (originsEnv "ALLOWED_ORIGINS") with
      | .ok (some (.bool value)) => value
      | _ => false) ∧
    getEnvDuration strictParsers originsEnv "ALLOWED_ORIGINS" 0 =
      (match setField strictParsers .duration (originsEnv "ALLOWED_ORIGINS") with
      | .ok (some (.int d)) => d
      | _ => 0) ∧
    getEnvSlice originsEnv "ALLOWED_ORIGINS" [] =
      (match setField strictParsers (.slice true) (originsEnv "ALLOWED_ORIGINS") with
      | .ok (some (.strs written)) => written.filter (· ≠ "")
      | _ => []) :=
  have set : originsEnv "ALLOWED_ORIGINS" ≠ "" := by decide
  ⟨set, getEnv_agrees_with_setField strictParsers originsEnv "ALLOWED_ORIGINS" set 0 false []⟩

example : setField strictParsers (.slice true) "a, ,b" = .ok (some (.strs ["a", "", "b"])) ∧
    getEnvSlice originsEnv "ALLOWED_ORIGINS" [] = ["a", "b"] :=
  ⟨rfl, by decide⟩

end GoCommon.Config
