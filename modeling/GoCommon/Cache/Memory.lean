import GoCommon.Runtime
import GoCommon.Strconv

/-!
# The in-memory cache

`MemoryCache` (src/cache/memory.go) stores byte values under prefixed keys, each with an expiry
instant or the zero `time.Time` for "never". Every operation takes the lock and reads
`time.Now()` once; `now` is that reading.

The source tests expiry in two ways. `Get`, `Exists` and `removeExpired` drop an entry when
`now.After(expiresAt)` (`MemoryItem.expired`), and `TTL` reports it expired when
`time.Until(expiresAt) < 0`, the same test; `Increment`, `SetNX` and `GetSet` keep it only when
`now.Before(expiresAt)` (`MemoryItem.live`). The two disagree at exactly one instant,
`now = expiresAt` (`live_eq_not_expired_iff`), where the first group reads the entry and the
second overwrites it. `Set`, `SetNX`, `GetSet` and `Increment` all end in one assignment
`c.items[fullKey] = item` (`MemoryCache.store`); what `Get` reads after each of them follows from
the item each one stores.
-/

namespace GoCommon.Cache

open GoCommon.Strconv (formatInt parseInt)

/-- A Go `[]byte`. -/
abbrev Bytes := List UInt8

/-- A `Serializer`, at the one type the cache serializes itself: `Increment` unmarshals the stored
bytes into an `int64` and marshals the sum. An `Unmarshal` that fails leaves Go's `value` at its
zero value, so `unmarshal` returns `0` for bytes it cannot read. -/
structure Serializer where
  marshal : Int → Bytes
  unmarshal : Bytes → Int

/-- A serializer that reads back every `int64` it writes. -/
def Serializer.RoundTrips (s : Serializer) : Prop := ∀ v, IsInt64 v → s.unmarshal (s.marshal v) = v

/-- The bytes of an ASCII text. -/
def ascii (s : String) : Bytes := s.data.map (fun c => c.toNat.toUInt8)

/-- The white space `encoding/json` skips around a value. -/
def isJsonSpace (b : UInt8) : Bool := b = 32 || b = 9 || b = 10 || b = 13

/-- `-?(0|[1-9][0-9]*)`: a JSON number with neither fraction nor exponent. -/
def isJsonInteger (s : List Char) : Bool :=
  match s with
  | '-' :: ds => natural ds
  | ds => natural ds
where
  /-- `0|[1-9][0-9]*`. -/
  natural : List Char → Bool
    | ['0'] => true
    | c :: ds => c.isDigit && c != '0' && ds.all Char.isDigit
    | [] => false

/-- `json.Unmarshal(data, &value)` into an `int64` that starts at `0`. The text, without the white
space around it, must be one JSON value; a number is stored only when `strconv.ParseInt` reads
it, and a fraction, an exponent, an overflow or any other value leaves `0`. -/
def jsonUnmarshalInt64 (data : Bytes) : Int :=
  let text := ((data.dropWhile isJsonSpace).reverse.dropWhile isJsonSpace).reverse.map
    (fun b => Char.ofNat b.toNat)
  if isJsonInteger text then
    match parseInt ⟨text⟩ with
    | (v, none) => v
    | _ => 0
  else 0

/-- `JSONSerializer`, on `int64` values: `json.Marshal` writes `strconv.FormatInt`'s digits. -/
def jsonSerializer : Serializer where
  marshal v := ascii (formatInt v)
  unmarshal := jsonUnmarshalInt64

/-- `Options`. -/
structure Options where
  defaultTTL : Int
  keyPrefix : String
  serializer : Serializer

/-- `DefaultOptions()`: a day (`24 * time.Hour`, in nanoseconds), no prefix, JSON. -/
def defaultOptions : Options where
  defaultTTL := 24 * 3600 * 1000000000
  keyPrefix := ""
  serializer := jsonSerializer

/-- `ErrKeyNotFound` and `ErrKeyExpired`. -/
inductive CacheError where
  | keyNotFound
  | keyExpired
  deriving DecidableEq, Repr

/-- The text of each error. -/
def CacheError.message : CacheError → String
  | .keyNotFound => "key not found"
  | .keyExpired => "key expired"

/-- `memoryItem`. `expiresAt = none` is the zero `time.Time`, which no `time.Now().Add(ttl)`
is. -/
structure MemoryItem where
  value : Bytes
  expiresAt : Option Int
  deriving DecidableEq, Repr

namespace MemoryItem

/-- `!item.expiresAt.IsZero() && now.After(item.expiresAt)`: expiry as `Get`, `Exists` and
`removeExpired` test it. -/
def expired (item : MemoryItem) (now : Int) : Bool :=
  match item.expiresAt with
  | none => false
  | some e => decide (e < now)

/-- `item.expiresAt.IsZero() || now.Before(item.expiresAt)`: liveness as `Increment`, `SetNX`
and `GetSet` test it. -/
def live (item : MemoryItem) (now : Int) : Bool :=
  match item.expiresAt with
  | none => true
  | some e => decide (now < e)

/-- The two tests are each other's negation everywhere but at the expiry instant itself. -/
theorem live_eq_not_expired_iff (item : MemoryItem) (now : Int) :
    item.live now = !item.expired now ↔ item.expiresAt ≠ some now := by
  rcases item with ⟨value, _ | e⟩
  · simp [live, expired]
  · rcases lt_trichotomy e now with passed | rfl | ahead
    · simp [live, expired, passed, passed.not_lt, passed.ne]
    · simp [live, expired]
    · simp [live, expired, ahead, ahead.not_lt, ahead.ne']

/-- Once expired, an item stays expired. -/
theorem expired_mono {item : MemoryItem} {swept now : Int} (before : swept ≤ now)
    (gone : item.expired swept = true) : item.expired now = true := by
  rcases item with ⟨value, _ | e⟩
  · simp [expired] at gone
  · simp only [expired, decide_eq_true_eq] at gone ⊢
    omega

end MemoryItem

/-- The expiry `Set` and `SetNX` give: `time.Now().Add(ttl)` if `ttl > 0`, else none. -/
def expiryAfter (now ttl : Int) : Option Int := if 0 < ttl then some (now + ttl) else none

/-- `MemoryCache`; the cleanup goroutine's channel is not modelled (`removeExpired` is what each
of its ticks runs). -/
structure MemoryCache where
  items : GoMap MemoryItem
  options : Options

namespace MemoryCache

/-- `buildKey`. -/
def buildKey (c : MemoryCache) (key : String) : String :=
  if c.options.keyPrefix ≠ "" then c.options.keyPrefix ++ ":" ++ key else key

/-- `c.items[fullKey] = item`, the assignment every write ends in. -/
def store (c : MemoryCache) (fullKey : String) (item : MemoryItem) : MemoryCache :=
  { c with items := c.items.insert fullKey item }

/-- `removeExpired`, one tick of the cleanup goroutine. -/
def removeExpired (c : MemoryCache) (now : Int) : MemoryCache :=
  { c with items := c.items.deleteWhere (fun _ item => item.expired now) }

/-- `Get`. -/
def get (c : MemoryCache) (key : String) (now : Int) : Except CacheError Bytes :=
  match c.items.lookup (c.buildKey key) with
  | none => .error .keyNotFound
  | some item => if item.expired now then .error .keyExpired else .ok item.value

/-- `Set`: a `ttl` of zero is `DefaultTTL`, and only a positive one sets an expiry. -/
def set (c : MemoryCache) (key : String) (value : Bytes) (ttl now : Int) : MemoryCache :=
  let ttl := if ttl = 0 then c.options.defaultTTL else ttl
  c.store (c.buildKey key) ⟨value, expiryAfter now ttl⟩

/-- `Delete`. -/
def delete (c : MemoryCache) (key : String) : MemoryCache :=
  { c with items := c.items.erase (c.buildKey key) }

/-- `Exists`. -/
def exists' (c : MemoryCache) (key : String) (now : Int) : Bool :=
  match c.items.lookup (c.buildKey key) with
  | none => false
  | some item => !item.expired now

/-- `TTL`: `-1` for an entry with no expiry, else `time.Until(item.expiresAt)`. -/
def ttl (c : MemoryCache) (key : String) (now : Int) : Except CacheError Int :=
  match c.items.lookup (c.buildKey key) with
  | none => .error .keyNotFound
  | some item =>
    match item.expiresAt with
    | none => .ok (-1)
    | some e => if e - now < 0 then .error .keyExpired else .ok (e - now)

/-- `Increment`: the stored value is read only from a live entry, the sum wraps as `int64`, and
the new entry keeps the old entry's expiry, whatever it was. -/
def increment (c : MemoryCache) (key : String) (delta now : Int) : Int × MemoryCache :=
  let fullKey := c.buildKey key
  let found := c.items.lookup fullKey
  let start := match found with
    | some item => if item.live now then c.options.serializer.unmarshal item.value else 0
    | none => 0
  let value := wrapInt64 (start + delta)
  (value, c.store fullKey ⟨c.options.serializer.marshal value, found.bind MemoryItem.expiresAt⟩)

/-- `Decrement`: `Increment` by `-delta`, negated in `int64`. -/
def decrement (c : MemoryCache) (key : String) (delta now : Int) : Int × MemoryCache :=
  c.increment key (wrapInt64 (-delta)) now

/-- `SetNX`: a live entry is kept; otherwise the value is stored, with an expiry only for a
positive `ttl`. -/
def setNX (c : MemoryCache) (key : String) (value : Bytes) (ttl now : Int) : Bool × MemoryCache :=
  let fullKey := c.buildKey key
  if (c.items.lookup fullKey).any (·.live now) then (false, c)
  else (true, c.store fullKey ⟨value, expiryAfter now ttl⟩)

/-- `GetSet`: the old value of a live entry, and the new value stored with no expiry. -/
def getSet (c : MemoryCache) (key : String) (value : Bytes) (now : Int) :
    Option Bytes × MemoryCache :=
  let fullKey := c.buildKey key
  (((c.items.lookup fullKey).filter (·.live now)).map MemoryItem.value, c.store fullKey ⟨value, none⟩)

/-- `Clear`. -/
def clear (c : MemoryCache) : MemoryCache := { c with items := ∅ }

/-- `Size`. -/
def size (c : MemoryCache) : Nat := c.items.len

/-! ## What the writes leave -/

@[simp]
theorem options_store (c : MemoryCache) (fullKey : String) (item : MemoryItem) :
    (c.store fullKey item).options = c.options := rfl

@[simp]
theorem buildKey_store (c : MemoryCache) (fullKey : String) (item : MemoryItem) (key : String) :
    (c.store fullKey item).buildKey key = c.buildKey key := rfl

@[simp]
theorem lookup_store_self (c : MemoryCache) (fullKey : String) (item : MemoryItem) :
    (c.store fullKey item).items.lookup fullKey = some item :=
  AList.lookup_insert _

theorem lookup_store_ne (c : MemoryCache) {fullKey other : String} (item : MemoryItem)
    (differ : other ≠ fullKey) :
    (c.store fullKey item).items.lookup other = c.items.lookup other :=
  AList.lookup_insert_ne differ

/-- `Get` right after storing an item reads its value, unless the item has already expired. -/
theorem get_store (c : MemoryCache) (key : String) (item : MemoryItem) (now : Int) :
    (c.store (c.buildKey key) item).get key now =
      if item.expired now then .error .keyExpired else .ok item.value := by
  simp [get]

theorem expiryAfter_not_expired (now ttl : Int) :
    (MemoryItem.mk value (expiryAfter now ttl)).expired now = false := by
  by_cases positive : 0 < ttl
  · simp [expiryAfter, MemoryItem.expired, positive, positive.le]
  · simp [expiryAfter, MemoryItem.expired, positive]

@[simp]
theorem get_set (c : MemoryCache) (key : String) (value : Bytes) (ttl now : Int) :
    (c.set key value ttl now).get key now = .ok value := by
  simp [set, get_store, expiryAfter_not_expired]

@[simp]
theorem get_getSet (c : MemoryCache) (key : String) (value : Bytes) (now : Int) :
    (c.getSet key value now).2.get key now = .ok value := by
  simp [getSet, get_store, MemoryItem.expired]

/-- What `SetNX` does: it refuses over a live entry, and otherwise stores the value. -/
theorem setNX_cases (c : MemoryCache) (key : String) (value : Bytes) (ttl now : Int) :
    ((c.items.lookup (c.buildKey key)).any (·.live now) = true ∧ c.setNX key value ttl now = (false, c)) ∨
    ((c.items.lookup (c.buildKey key)).any (·.live now) = false ∧
      c.setNX key value ttl now = (true, c.store (c.buildKey key) ⟨value, expiryAfter now ttl⟩)) := by
  unfold setNX
  cases live : (c.items.lookup (c.buildKey key)).any (·.live now) <;> simp [live]

/-- The entry `Increment` leaves has no expiry reached before `now` unless the old one had. -/
theorem get_increment (c : MemoryCache) (key : String) (delta now : Int) :
    (c.increment key delta now).2.get key now =
      if ((c.items.lookup (c.buildKey key)).bind MemoryItem.expiresAt).any (· < now) then
        .error .keyExpired
      else .ok (c.options.serializer.marshal (c.increment key delta now).1) := by
  unfold increment
  simp only [get_store]
  congr 1
  cases (c.items.lookup (c.buildKey key)).bind MemoryItem.expiresAt <;> simp [MemoryItem.expired]

/-! ## The boundary instant -/

/-- **At the instant an entry's expiry is reached, the operations split.** `Get`, `Exists`,
`TTL` and `removeExpired` still see the entry live, while `SetNX` overwrites it, `GetSet`
returns no old value and `Increment` restarts from `delta`. -/
theorem expiry_instant_split (c : MemoryCache) (key : String) (v w : Bytes) (ttl delta now : Int)
    (atExpiry : c.items.lookup (c.buildKey key) = some ⟨v, some now⟩) :
    c.get key now = .ok v ∧ c.exists' key now = true ∧ c.ttl key now = .ok 0 ∧
      (c.removeExpired now).items.lookup (c.buildKey key) = some ⟨v, some now⟩ ∧
      (c.setNX key w ttl now).1 = true ∧ (c.getSet key w now).1 = none ∧
      (c.increment key delta now).1 = wrapInt64 delta := by
  simp [get, exists', MemoryCache.ttl, removeExpired, setNX, getSet, increment, atExpiry, MemoryItem.expired,
    MemoryItem.live, Option.filter]

/-- A cache with default options holding `"7"` under `"k"`, expiring at instant `5`. -/
def boundaryCache : MemoryCache :=
  ⟨(∅ : GoMap MemoryItem).insert "k" ⟨ascii "7", some 5⟩, defaultOptions⟩

theorem expiry_instant_split_at_five :
    boundaryCache.items.lookup (boundaryCache.buildKey "k") = some ⟨ascii "7", some 5⟩ ∧
      boundaryCache.get "k" 5 = .ok (ascii "7") ∧ boundaryCache.exists' "k" 5 = true ∧
      boundaryCache.ttl "k" 5 = .ok 0 ∧
      (boundaryCache.removeExpired 5).items.lookup (boundaryCache.buildKey "k") =
        some ⟨ascii "7", some 5⟩ ∧
      (boundaryCache.setNX "k" [] 0 5).1 = true ∧ (boundaryCache.getSet "k" [] 5).1 = none ∧
      (boundaryCache.increment "k" 1 5).1 = wrapInt64 1 :=
  have atExpiry : boundaryCache.items.lookup (boundaryCache.buildKey "k") =
      some ⟨ascii "7", some 5⟩ := by decide
  ⟨atExpiry, expiry_instant_split boundaryCache "k" (ascii "7") [] 0 1 5 atExpiry⟩

/-! ## Read after write -/

/-- **An `Increment` over an entry whose expiry has passed stores the restarted counter under
that passed expiry**, so `Get` at the same instant reports the key expired. -/
theorem increment_keeps_passed_expiry (c : MemoryCache) (key : String) (item : MemoryItem)
    (e delta now : Int) (found : c.items.lookup (c.buildKey key) = some item)
    (expiry : item.expiresAt = some e) (passed : e < now) :
    (c.increment key delta now).1 = wrapInt64 delta ∧
      (c.increment key delta now).2.get key now = .error .keyExpired := by
  refine ⟨?_, by simp [get_increment, found, expiry, passed]⟩
  simp [increment, found, MemoryItem.live, expiry, show ¬now < e by omega]

theorem increment_keeps_passed_expiry_at_six :
    boundaryCache.items.lookup (boundaryCache.buildKey "k") = some ⟨ascii "7", some 5⟩ ∧
      (boundaryCache.increment "k" 1 6).1 = wrapInt64 1 ∧
      (boundaryCache.increment "k" 1 6).2.get "k" 6 = .error .keyExpired :=
  have found : boundaryCache.items.lookup (boundaryCache.buildKey "k") =
      some ⟨ascii "7", some 5⟩ := by decide
  ⟨found, increment_keeps_passed_expiry boundaryCache "k" _ 5 1 6 found rfl (by decide)⟩

/-- **`SetNX` with `ttl = 0` stores the value with no expiry, where `Set` applies `DefaultTTL`**:
once `DefaultTTL` has elapsed, the key `SetNX` wrote still reads while the one `Set` wrote is
expired. -/
theorem setNX_zero_ttl_never_expires (c : MemoryCache) (key : String) (value : Bytes) (now : Int)
    (absent : c.items.lookup (c.buildKey key) = none) (positive : 0 < c.options.defaultTTL) :
    c.setNX key value 0 now =
        (true, c.store (c.buildKey key) ⟨value, none⟩) ∧
      c.set key value 0 now = c.store (c.buildKey key) ⟨value, some (now + c.options.defaultTTL)⟩ ∧
      (c.setNX key value 0 now).2.get key (now + c.options.defaultTTL + 1) = .ok value ∧
      (c.set key value 0 now).get key (now + c.options.defaultTTL + 1) = .error .keyExpired := by
  have stored : c.setNX key value 0 now = (true, c.store (c.buildKey key) ⟨value, none⟩) := by
    simp [setNX, absent, expiryAfter]
  have setStored : c.set key value 0 now =
      c.store (c.buildKey key) ⟨value, some (now + c.options.defaultTTL)⟩ := by
    simp [set, expiryAfter, positive]
  refine ⟨stored, setStored, ?_, ?_⟩
  · simp [stored, get_store, MemoryItem.expired]
  · simp [setStored, get_store, MemoryItem.expired]

theorem setNX_zero_ttl_never_expires_default :
    (⟨∅, defaultOptions⟩ : MemoryCache).items.lookup
        ((⟨∅, defaultOptions⟩ : MemoryCache).buildKey "k") = none ∧
      0 < defaultOptions.defaultTTL ∧
      (⟨∅, defaultOptions⟩ : MemoryCache).setNX "k" [] 0 0 =
        (true, (⟨∅, defaultOptions⟩ : MemoryCache).store "k" ⟨[], none⟩) :=
  have absent : (⟨∅, defaultOptions⟩ : MemoryCache).items.lookup
      ((⟨∅, defaultOptions⟩ : MemoryCache).buildKey "k") = none := rfl
  have positive : 0 < defaultOptions.defaultTTL := by decide
  ⟨absent, positive, (setNX_zero_ttl_never_expires ⟨∅, defaultOptions⟩ "k" [] 0 absent positive).1⟩

/-! ## Sweeps -/

@[simp]
theorem buildKey_removeExpired (c : MemoryCache) (swept : Int) (key : String) :
    (c.removeExpired swept).buildKey key = c.buildKey key := rfl

@[simp]
theorem lookup_removeExpired (c : MemoryCache) (swept : Int) (fullKey : String) :
    (c.removeExpired swept).items.lookup fullKey =
      (c.items.lookup fullKey).filter (fun item => !item.expired swept) :=
  GoMap.lookup_deleteWhere _ _ _

/-- A sweep no later than a read changes what `Get` returns only from `ErrKeyExpired` to
`ErrKeyNotFound`: a value it returned before, it returns after, and no other. -/
theorem get_removeExpired (c : MemoryCache) (key : String) (value : Bytes) {swept now : Int}
    (before : swept ≤ now) :
    (c.removeExpired swept).get key now = .ok value ↔ c.get key now = .ok value := by
  simp only [get, buildKey_removeExpired, lookup_removeExpired]
  cases c.items.lookup (c.buildKey key) with
  | none => rfl
  | some item =>
    cases gone : item.expired swept
    · simp [Option.filter, gone]
    · simp [Option.filter, gone, MemoryItem.expired_mono before gone]

theorem buildKey_injective (c : MemoryCache) : Function.Injective c.buildKey := by
  intro key other same
  unfold buildKey at same
  split at same
  · have data := congrArg String.data same
    simp only [String.data_append, List.append_assoc, List.append_cancel_left_eq] at data
    exact String.ext data
  · exact same

/-! ## Runs

A run is a sequence of writes and sweeps, each at the instant it reads. `Get` is the one
operation that reports expiry to its caller without changing the cache; interleaved with a run it
sees the value of the key it reads exactly as long as no write touches that key and the clock has
not passed the expiry, whatever the sweeps did in between (`get_run`). -/

/-- An operation that changes the cache. -/
inductive Op where
  | set (key : String) (value : Bytes) (ttl : Int)
  | setNX (key : String) (value : Bytes) (ttl : Int)
  | getSet (key : String) (value : Bytes)
  | increment (key : String) (delta : Int)
  | delete (key : String)
  | removeExpired
  deriving DecidableEq, Repr

/-- The key an operation writes, if any. -/
def Op.writes : Op → Option String
  | .set key .. | .setNX key .. | .getSet key .. | .increment key .. | .delete key => some key
  | .removeExpired => none

/-- The cache after one operation at instant `now`. -/
def Op.apply : Op → MemoryCache → Int → MemoryCache
  | .set key value ttl, c, now => c.set key value ttl now
  | .setNX key value ttl, c, now => (c.setNX key value ttl now).2
  | .getSet key value, c, now => (c.getSet key value now).2
  | .increment key delta, c, now => (c.increment key delta now).2
  | .delete key, c, _ => c.delete key
  | .removeExpired, c, now => c.removeExpired now

/-- The cache after a run of operations, each with the instant it reads. -/
def run (c : MemoryCache) (ops : List (Op × Int)) : MemoryCache :=
  ops.foldl (fun c step => step.1.apply c step.2) c

/-- A write to another key leaves the entry under `key` as it was. -/
theorem lookup_store_other (c : MemoryCache) {key other : String} (item : MemoryItem)
    (differ : other ≠ key) :
    (c.store (c.buildKey other) item).items.lookup (c.buildKey key) = c.items.lookup (c.buildKey key) :=
  lookup_store_ne c item (fun same => differ (c.buildKey_injective same).symm)

/-- `Get` of a key after a write to another key. -/
theorem get_store_other (c : MemoryCache) {key other : String} (item : MemoryItem)
    (differ : other ≠ key) (read : Int) :
    (c.store (c.buildKey other) item).get key read = c.get key read := by
  simp [get, lookup_store_other c item differ]

@[simp]
theorem buildKey_delete (c : MemoryCache) (other key : String) :
    (c.delete other).buildKey key = c.buildKey key := rfl

theorem get_delete_other (c : MemoryCache) {key other : String} (differ : other ≠ key)
    (read : Int) : (c.delete other).get key read = c.get key read := by
  have kept : (c.delete other).items.lookup (c.buildKey key) = c.items.lookup (c.buildKey key) :=
    AList.lookup_erase_ne (fun same => differ (c.buildKey_injective same).symm)
  simp only [get, buildKey_delete, kept]

/-- One step of a run: an operation that writes another key, at an instant no later than the
read, leaves what `Get` returns for `key` as it was. -/
theorem get_apply (op : Op) (c : MemoryCache) (key : String) (value : Bytes) {now read : Int}
    (other : op.writes ≠ some key) (before : now ≤ read) :
    (op.apply c now).get key read = .ok value ↔ c.get key read = .ok value := by
  cases op <;> simp only [Op.writes, ne_eq, Option.some.injEq] at other
  case set other' value' ttl => simp [Op.apply, set, get_store_other c _ other]
  case setNX other' value' ttl =>
    rcases setNX_cases c other' value' ttl now with ⟨-, refused⟩ | ⟨-, stored⟩
    · simp [Op.apply, refused]
    · simp [Op.apply, stored, get_store_other c _ other]
  case getSet other' value' => simp [Op.apply, getSet, get_store_other c _ other]
  case increment other' delta => simp [Op.apply, increment, get_store_other c _ other]
  case delete other' => simp [Op.apply, get_delete_other c other]
  case removeExpired => exact get_removeExpired c key value before

/-- **Sweeps never change a successful read.** Along a run that writes no other value under
`key`, with every operation at an instant no later than the read, `Get` at the read returns a
value after the run exactly when it returned that value before. -/
theorem get_run (c : MemoryCache) (key : String) (value : Bytes) (read : Int) :
    ∀ ops : List (Op × Int), (∀ step ∈ ops, step.1.writes ≠ some key ∧ step.2 ≤ read) →
      ((c.run ops).get key read = .ok value ↔ c.get key read = .ok value)
  | [], _ => Iff.rfl
  | step :: ops, quiet => by
    have rest := get_run (step.1.apply c step.2) key value read ops
      (fun later mem => quiet later (.tail _ mem))
    obtain ⟨other, before⟩ := quiet step (.head _)
    exact rest.trans (get_apply step.1 c key value other before)

/-- `Get` at any instant of the entry `Set` wrote: its value until its expiry, if it has one, and
`ErrKeyExpired` after. -/
theorem get_set_at (c : MemoryCache) (key : String) (value : Bytes) (ttl now read : Int) :
    (c.set key value ttl now).get key read =
      if (expiryAfter now (if ttl = 0 then c.options.defaultTTL else ttl)).any (· < read) then
        .error .keyExpired
      else .ok value := by
  simp only [set, get_store]
  congr 1
  cases expiryAfter now (if ttl = 0 then c.options.defaultTTL else ttl) <;> simp [MemoryItem.expired]

end MemoryCache

end GoCommon.Cache
