import GoCommon.Retry.Clients
import GoCommon.Net.Url

/-!
# The URL of an outbound HTTP call

`doRequest` writes the URL of each attempt as `c.baseURL + req.Path` and, when `req.Query` has
entries, `?` and `k=v` for each entry, joined by `&`, with no escaping and in the order in which
`range` visits the map. The server reads that URL back with `url.Parse` and `url.ParseQuery`
(`GoCommon.Net`). Keys and values that hold no character the query syntax reads come back as
the map's entries, and the path part as written (`doRequestURL_reads_back`); a `&` in a value
adds a parameter and a `#` cuts the query short (`doRequestURL_value_rewrites_query`).
-/

namespace GoCommon.Retry.HttpClient

open GoCommon.Net

/-- `httpclient.Request`, the fields `doRequest` writes into the URL. -/
structure Request where
  method : String
  path : String
  query : GoMap String

/-- `k=v` for each visited entry, `&` before every entry but the first. -/
def queryText : List (String × String) → String
  | [] => ""
  | [(key, value)] => key ++ "=" ++ value
  | (key, value) :: rest => key ++ "=" ++ value ++ "&" ++ queryText rest

/-- The URL `doRequest` builds for `req`, where `range` visits `req.Query` in the order `visit`
(Go leaves the order of a map's `range` unspecified). -/
def doRequestURL (c : Client) (req : Request) (visit : List (String × String)) : String :=
  let url := c.baseURL ++ req.path
  if req.query.len > 0 then url ++ "?" ++ queryText visit else url

/-- A character of a key (`inKey`) or of a value that the query syntax reads as written: none of
`& # ; % +`, no `=` in a key, and no control character. -/
def plainChar (inKey : Bool) (ch : Char) : Bool :=
  !(['&', '#', ';', '%', '+'].contains ch) && !(inKey && ch == '=') && !isCTL ch

theorem queryText_data (visit : List (String × String)) :
    (queryText visit).data =
      ['&'].intercalate (visit.map fun entry => pairText (entry.1.data, entry.2.data)) := by
  induction visit using queryText.induct with
  | case1 => rfl
  | case2 key value => simp [queryText, pairText, List.intercalate]
  | case3 key value rest nonempty ih =>
    obtain ⟨next, later, rfl⟩ := List.exists_cons_of_ne_nil nonempty
    rw [queryText, String.data_append, ih]
    · simp [pairText, List.intercalate]
    · exact nonempty

theorem queryText_all {P : Char → Prop} (ampersand : P '&') (equals : P '=')
    (visit : List (String × String))
    (entries : ∀ entry ∈ visit, (∀ ch ∈ entry.1.data, P ch) ∧ ∀ ch ∈ entry.2.data, P ch) :
    ∀ ch ∈ (queryText visit).data, P ch := by
  have sign : ∀ ch ∈ ("=" : String).data, P ch := fun ch mem => List.mem_singleton.mp mem ▸ equals
  have separator : ∀ ch ∈ ("&" : String).data, P ch :=
    fun ch mem => List.mem_singleton.mp mem ▸ ampersand
  induction visit using queryText.induct with
  | case1 => simp [queryText]
  | case2 key value =>
    obtain ⟨inKey, inValue⟩ := entries (key, value) (.head _)
    simp only [queryText, String.data_append, List.mem_append]
    rintro ch ((mem | mem) | mem)
    exacts [inKey ch mem, sign ch mem, inValue ch mem]
  | case3 key value rest nonempty ih =>
    obtain ⟨inKey, inValue⟩ := entries (key, value) (.head _)
    have later := ih fun entry mem => entries entry (.tail _ mem)
    rw [queryText]
    · simp only [String.data_append, List.mem_append]
      rintro ch ((((mem | mem) | mem) | mem) | mem)
      exacts [inKey ch mem, sign ch mem, inValue ch mem, separator ch mem, later ch mem]
    · exact nonempty

theorem plainChar_eq_true {inKey : Bool} {ch : Char} (plain : plainChar inKey ch = true) :
    (ch ≠ '&' ∧ ch ≠ '#' ∧ ch ≠ ';' ∧ ch ≠ '%' ∧ ch ≠ '+') ∧ (inKey = true → ch ≠ '=') ∧
      isCTL ch = false := by
  simp only [plainChar, Bool.and_eq_true, Bool.not_eq_true', ne_eq] at plain ⊢
  cases inKey <;> simp_all

/-- **Plain keys and values come back as the map.** When the base URL and the path hold no `?`,
`#` or control character and no key or value holds a character the query syntax reads
(`plainChar`), the server reads the part before the query as `c.baseURL + req.Path` and the
query as the entries of `req.Query`, each key once with its value, in the order `range` visited
them. -/
theorem doRequestURL_reads_back (c : Client) (req : Request) (visit : List (String × String))
    (order : visit.Perm (req.query.entries.map fun entry => (entry.1, entry.2)))
    (plainURL : ∀ ch ∈ (c.baseURL ++ req.path).data, ch ≠ '?' ∧ ch ≠ '#' ∧ isCTL ch = false)
    (plainEntries : ∀ entry ∈ visit,
      (∀ ch ∈ entry.1.data, plainChar true ch) ∧ ∀ ch ∈ entry.2.data, plainChar false ch) :
    ∃ rawQuery, parseURL (doRequestURL c req visit).data = .ok ((c.baseURL ++ req.path).data, rawQuery) ∧
      parseQuery rawQuery = (visit.map fun entry => (utf8 entry.1.data, utf8 entry.2.data), none) := by
  have plainPath : ∀ ch ∈ (c.baseURL ++ req.path).data, ch ≠ '#' ∧ isCTL ch = false :=
    fun ch mem => (plainURL ch mem).2
  have noQuestion : '?' ∉ (c.baseURL ++ req.path).data := fun mem => (plainURL '?' mem).1 rfl
  by_cases someEntries : req.query.len > 0
  · have plainPairs : ∀ pair ∈ visit.map (fun entry => (entry.1.data, entry.2.data)),
        PlainPair pair.1 pair.2 := by
      simp only [List.mem_map]
      rintro _ ⟨entry, mem, rfl⟩
      refine ⟨fun ch inKey => ?_, fun ch inValue => ?_⟩
      · have := plainChar_eq_true ((plainEntries entry mem).1 ch inKey)
        simp_all
      · have := plainChar_eq_true ((plainEntries entry mem).2 ch inValue)
        simp_all
    have plainQuery : ∀ ch ∈ (queryText visit).data, ch ≠ '#' ∧ isCTL ch = false :=
      queryText_all ⟨by decide, rfl⟩ ⟨by decide, rfl⟩ visit fun entry mem =>
        ⟨fun ch inKey => have p := plainChar_eq_true ((plainEntries entry mem).1 ch inKey)
          ⟨p.1.2.1, p.2.2⟩,
        fun ch inValue => have p := plainChar_eq_true ((plainEntries entry mem).2 ch inValue)
          ⟨p.1.2.1, p.2.2⟩⟩
    have whole : (doRequestURL c req visit).data =
        (c.baseURL ++ req.path).data ++ '?' :: (queryText visit).data := by
      simp [doRequestURL, someEntries]
    refine ⟨(queryText visit).data, ?_, ?_⟩
    · have plain : ∀ ch ∈ (c.baseURL ++ req.path).data ++ '?' :: (queryText visit).data,
          ch ≠ '#' ∧ isCTL ch = false := by
        simp only [List.mem_append, List.mem_cons]
        rintro ch (inPath | rfl | inQuery)
        exacts [plainPath ch inPath, ⟨by decide, rfl⟩, plainQuery ch inQuery]
      rw [whole, parseURL_of_plain plain, cut_append noQuestion]
      rfl
    · have read := parseQuery_intercalate _ plainPairs
      rw [List.map_map] at read
      rw [queryText_data]
      simpa [Function.comp_def] using read
  · have noVisit : visit = [] := by
      have empty : req.query.entries = [] := by
        simpa [GoMap.len] using someEntries
      simpa [empty] using order
    subst noVisit
    refine ⟨[], ?_, rfl⟩
    simp only [doRequestURL, someEntries, if_false]
    rw [parseURL_of_plain plainPath, cut_of_not_mem noQuestion]
    rfl

/-- A client of `http://api`, with the default configuration. -/
def apiClient : Client := newClient ⟨"http://api", "api", 0, defaultRetryConfig⟩

/-- **A query value can add a parameter and cut the query short.** Sent as the value of `q`,
`a&admin=true` reaches the server as two parameters, `q=a` and `admin=true`, and `x#y` reaches
it as `q=x`. -/
theorem doRequestURL_value_rewrites_query :
    parseURL (doRequestURL apiClient
        ⟨"GET", "/users", (∅ : GoMap String).insert "q" "a&admin=true"⟩ [("q", "a&admin=true")]).data =
      .ok ("http://api/users".data, "q=a&admin=true".data) ∧
    parseQuery "q=a&admin=true".data =
      ([(utf8 "q".data, utf8 "a".data), (utf8 "admin".data, utf8 "true".data)], none) ∧
    parseURL (doRequestURL apiClient
        ⟨"GET", "/users", (∅ : GoMap String).insert "q" "x#y"⟩ [("q", "x#y")]).data =
      .ok ("http://api/users".data, "q=x".data) :=
  ⟨rfl, by decide, rfl⟩

end GoCommon.Retry.HttpClient
