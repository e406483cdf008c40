import GoCommon.Runtime

/-!
# Reading a URL's query

What a server reads of the URL an outbound call sends: `url.Parse` cuts the fragment at the first
`#` and the raw query at the first `?`, and `url.ParseQuery` cuts the raw query into
`key=value` parts at each `&` and unescapes both sides. Texts are read character by character;
every character the functions cut at is ASCII, and no ASCII byte occurs inside the UTF-8
encoding of another character, so this is the byte reading of the Go code. Unescaped keys and
values are bytes: `%XX` is one byte, any other character its UTF-8 encoding.

Two laws make the query a faithful carrier of a list of pairs whose texts hold no separator:
`unescape_plain` (a text without `%` and `+` unescapes to its own bytes) and
`parseQuery_intercalate` (the parts of a `&`-joined list of `k=v` are read back in order).
-/

namespace GoCommon.Net

/-- `strings.Cut(s, sep)` for a one-character separator: the text before the first `sep`, and
the text after it if there is one. -/
def cut (sep : Char) : List Char → List Char × Option (List Char)
  | [] => ([], none)
  | c :: rest => if c = sep then ([], some rest) else ((c :: (cut sep rest).1), (cut sep rest).2)

/-- `stringContainsCTLByte`'s test, on a character: an ASCII control character. -/
def isCTL (c : Char) : Bool := c.toNat < 0x20 || c.toNat == 0x7f

/-- `ishex`. -/
def isHex (c : Char) : Bool := c.isDigit || ('a' ≤ c && c ≤ 'f') || ('A' ≤ c && c ≤ 'F')

/-- `unhex`. -/
def unhex (c : Char) : Nat :=
  if c.isDigit then c.toNat - '0'.toNat
  else if 'a' ≤ c && c ≤ 'f' then c.toNat - 'a'.toNat + 10
  else c.toNat - 'A'.toNat + 10

/-- `unescape(s, mode)`: a `%` must be followed by two hexadecimal digits and stands for the byte
they write; where `plusIsSpace` (a query component) a `+` stands for a space. An invalid escape
is reported with the text from its `%`, at most three characters. -/
def unescape (plusIsSpace : Bool) : List Char → Except (List Char) (List UInt8)
  | [] => .ok []
  | '%' :: h :: l :: rest =>
    if isHex h && isHex l then
      (unescape plusIsSpace rest).map ((unhex h * 16 + unhex l).toUInt8 :: ·)
    else .error ['%', h, l]
  | '%' :: rest => .error ('%' :: rest)
  | c :: rest =>
    (unescape plusIsSpace rest).map
      ((if plusIsSpace && c == '+' then [32] else String.utf8EncodeChar c) ++ ·)

/-- The errors `url.Parse` reports on the parts modelled here. -/
inductive UrlError where
  /-- `"net/url: invalid control character in URL"`. -/
  | controlCharacter
  /-- An `EscapeError` in the fragment, with the offending text. -/
  | escape (offending : List Char)
  deriving DecidableEq, Repr

/-- What `url.Parse(rawURL)` keeps of a URL: the text before the query, and `RawQuery`. The
fragment, cut at the first `#`, must unescape; the rest must hold no control character. -/
def parseURL (rawURL : List Char) : Except UrlError (List Char × List Char) :=
  let (u, frag) := cut '#' rawURL
  if u.any isCTL then .error .controlCharacter
  else
    match unescape false (frag.getD []) with
    | .error offending => .error (.escape offending)
    | .ok _ => .ok ((cut '?' u).1, ((cut '?' u).2).getD [])

/-- The errors `url.ParseQuery` reports. -/
inductive QueryError where
  /-- `"invalid semicolon separator in query"`. -/
  | semicolon
  /-- An `EscapeError`, with the offending text. -/
  | escape (offending : List Char)
  deriving DecidableEq, Repr

/-- One `&`-separated part of a query read into the pairs so far: a part with a `;` is an error
(it replaces any earlier one), an empty part is skipped, and a part whose key or value does not
unescape is skipped with an error (kept only if it is the first). -/
def parseQueryPart (acc : List (List UInt8 × List UInt8) × Option QueryError)
    (part : List Char) : List (List UInt8 × List UInt8) × Option QueryError :=
  if part.contains ';' then (acc.1, some .semicolon)
  else if part = [] then acc
  else
    match unescape true (cut '=' part).1, unescape true ((cut '=' part).2.getD []) with
    | .ok key, .ok value => (acc.1 ++ [(key, value)], acc.2)
    | .error offending, _ | .ok _, .error offending => (acc.1, acc.2 <|> some (.escape offending))

/-- `url.ParseQuery(query)`: the pairs in the order of the query (`Values` keeps each key's values
in that order), and the error. Go cuts the query at each `&` in turn, visiting the parts of
`splitOn '&'` in order; the empty last part it does not visit would be skipped anyway. -/
def parseQuery (query : List Char) : List (List UInt8 × List UInt8) × Option QueryError :=
  (query.splitOn '&').foldl parseQueryPart ([], none)

/-- The UTF-8 bytes of a text. -/
def utf8 (s : List Char) : List UInt8 := s.flatMap String.utf8EncodeChar

/-! ## Cutting -/

theorem cut_of_not_mem {sep : Char} : ∀ {s : List Char}, sep ∉ s → cut sep s = (s, none)
  | [], _ => rfl
  | c :: rest, absent => by
    have ne : c ≠ sep := fun same => absent (same ▸ .head _)
    simp [cut, ne, cut_of_not_mem (fun mem => absent (.tail _ mem))]

theorem cut_append {sep : Char} {after : List Char} :
    ∀ {before : List Char}, sep ∉ before → cut sep (before ++ sep :: after) = (before, some after)
  | [], _ => by simp [cut]
  | c :: rest, absent => by
    have ne : c ≠ sep := fun same => absent (same ▸ .head _)
    simp [cut, ne, cut_append (fun mem => absent (.tail _ mem))]

/-- A URL with no `#` and no control character parses as its cut at the first `?`. -/
theorem parseURL_of_plain {rawURL : List Char}
    (plain : ∀ ch ∈ rawURL, ch ≠ '#' ∧ isCTL ch = false) :
    parseURL rawURL = .ok ((cut '?' rawURL).1, ((cut '?' rawURL).2).getD []) := by
  have noControl : rawURL.any isCTL = false :=
    List.any_eq_false.mpr fun ch mem => by simp [(plain ch mem).2]
  rw [parseURL, cut_of_not_mem fun mem => (plain '#' mem).1 rfl]
  simp only [noControl]
  rfl

/-! ## Unescaping -/

/-- A text without `%` and `+` unescapes to its own UTF-8 bytes. -/
theorem unescape_plain (plusIsSpace : Bool) :
    ∀ {s : List Char}, (∀ c ∈ s, c ≠ '%' ∧ c ≠ '+') → unescape plusIsSpace s = .ok (utf8 s)
  | [], _ => rfl
  | c :: rest, plain => by
    obtain ⟨notPercent, notPlus⟩ := plain c (.head _)
    have ih := unescape_plain plusIsSpace fun d mem => plain d (.tail _ mem)
    have step : unescape plusIsSpace (c :: rest) =
        (unescape plusIsSpace rest).map (String.utf8EncodeChar c ++ ·) := by
      rw [unescape.eq_def]
      split
      next heq => cases heq
      next heq => exact absurd (List.cons.inj heq).1 notPercent
      next heq => exact absurd (List.cons.inj heq).1 notPercent
      next heq =>
        obtain ⟨rfl, rfl⟩ := List.cons.inj heq
        simp [notPlus]
    rw [step, ih]
    rfl

/-! ## Reading back a query -/

/-- A `key=value` part that the query syntax reads back as written: the key holds none of
`& = ; % +` and the value none of `& ; % +`. -/
def PlainPair (key value : List Char) : Prop :=
  (∀ c ∈ key, c ∉ ['&', '=', ';', '%', '+']) ∧ ∀ c ∈ value, c ∉ ['&', ';', '%', '+']

/-- The text `doRequest` writes for one pair. -/
def pairText (pair : List Char × List Char) : List Char := pair.1 ++ '=' :: pair.2

/-- No `&` and no `;` stands in a plain pair's text. -/
theorem separator_not_mem_pairText {pair : List Char × List Char} (plain : PlainPair pair.1 pair.2)
    {sep : Char} (separator : sep = '&' ∨ sep = ';') : sep ∉ pairText pair := by
  intro mem
  rcases List.mem_append.mp mem with inKey | inRest
  · exact plain.1 sep inKey (by rcases separator with rfl | rfl <;> decide)
  · rcases List.mem_cons.mp inRest with same | inValue
    · rcases separator with rfl | rfl <;> cases same
    · exact plain.2 sep inValue (by rcases separator with rfl | rfl <;> decide)

theorem parseQueryPart_plain (acc : List (List UInt8 × List UInt8) × Option QueryError)
    {pair : List Char × List Char} (plain : PlainPair pair.1 pair.2) :
    parseQueryPart acc (pairText pair) = (acc.1 ++ [(utf8 pair.1, utf8 pair.2)], acc.2) := by
  have noSemicolon : ¬(pairText pair).contains ';' = true := by
    simpa using separator_not_mem_pairText plain (.inr rfl)
  have split : cut '=' (pairText pair) = (pair.1, some pair.2) :=
    cut_append fun mem => plain.1 '=' mem (by decide)
  have unescapeKey := unescape_plain true fun c mem =>
    ⟨fun same => plain.1 c mem (by simp [same]), fun same => plain.1 c mem (by simp [same])⟩
  have unescapeValue := unescape_plain true (s := pair.2) fun c mem =>
    ⟨fun same => plain.2 c mem (by simp [same]), fun same => plain.2 c mem (by simp [same])⟩
  unfold parseQueryPart
  rw [if_neg noSemicolon, if_neg (by simp [pairText]), split]
  simp [unescapeKey, unescapeValue]

/-- Reading the plain parts in turn appends their pairs. -/
theorem foldl_parseQueryPart (pairs : List (List Char × List Char))
    (plain : ∀ pair ∈ pairs, PlainPair pair.1 pair.2) (read : List (List UInt8 × List UInt8))
    (err : Option QueryError) :
    (pairs.map pairText).foldl parseQueryPart (read, err) =
      (read ++ pairs.map fun pair => (utf8 pair.1, utf8 pair.2), err) := by
  induction pairs generalizing read with
  | nil => simp
  | cons pair rest ih =>
    rw [List.map_cons, List.foldl_cons, parseQueryPart_plain _ (plain pair (.head _)),
      ih (fun later mem => plain later (.tail _ mem))]
    simp

/-- **The query of `&`-joined plain pairs reads back as those pairs, in order, with no
error.** -/
theorem parseQuery_intercalate (pairs : List (List Char × List Char))
    (plain : ∀ pair ∈ pairs, PlainPair pair.1 pair.2) :
    parseQuery (['&'].intercalate (pairs.map pairText)) =
      (pairs.map fun pair => (utf8 pair.1, utf8 pair.2), none) := by
  cases pairs with
  | nil => rfl
  | cons first rest =>
    have noAmpersand : ∀ part ∈ (first :: rest).map pairText, '&' ∉ part := by
      simp only [List.mem_map]
      rintro _ ⟨pair, mem, rfl⟩
      exact separator_not_mem_pairText (plain pair mem) (.inl rfl)
    rw [parseQuery, List.splitOn_intercalate _ '&' noAmpersand (by simp)]
    exact foldl_parseQueryPart _ plain [] none

end GoCommon.Net