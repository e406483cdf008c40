import GoCommon.Auth.Scope
import GoCommon.Encoding.Utf8

/-!
# Request validation

`RequestValidation(config)` answers a request with 405 for a method not in `AllowedMethods`
(when that list is not empty), with 414 for a URI longer than `MaxURILength` bytes and with 413
for a `Content-Length` above `MaxBodySize` (each limit when positive), and with 400 when
`BlockSuspiciousPatterns` is set and the lower-cased raw URI contains one of
`suspiciousPatterns`. It then visits the decoded query arguments with a callback that looks for
the same patterns; the callback's `return` leaves the callback, which returns nothing, and the
handler goes on to `c.Next()`.

`requestValidation_ignores_query_args`: the reply never depends on the decoded arguments, a 400
comes from the raw URI alone, and a pattern written with percent escapes
(`q=%3Cscript%3E`, decoded `<script>`) reaches the next handler.
-/

namespace GoCommon.Http

open Auth Utf8

/-- `unicode.ToLower` as far as a search for ASCII text can tell. ASCII upper-case letters
lower to ASCII, and of the other runes only the dotted capital I (U+0130) and the Kelvin sign
(U+212A) lower into ASCII, to `i` and `k`. Every other rune lowers to itself or to a rune
outside ASCII; the model keeps it as it is, which changes the answer of no search for the ASCII
patterns below, the one use of the lowered text. -/
def lowerRune (c : Char) : Char :=
  if 'A' ≤ c ∧ c ≤ 'Z' then Char.ofNat (c.toNat + 32)
  else if c = '\u0130' then 'i'
  else if c = '\u212A' then 'k'
  else c

/-- `strings.ToLower(s)`. -/
def toLower (s : String) : String := ⟨s.data.map lowerRune⟩

/-- The search of `strings.Index` from each position of a text in turn. -/
def containsFrom (pattern : List Char) : List Char → Bool
  | [] => pattern.isPrefixOf []
  | c :: rest => pattern.isPrefixOf (c :: rest) || containsFrom pattern rest

/-- `strings.Contains(s, substr)`, on runes. The patterns are ASCII, and an ASCII byte never
occurs inside the UTF-8 of another rune, so the byte search and the rune search find the same
patterns. -/
def contains (s substr : String) : Bool := containsFrom substr.data s.data

/-- `suspiciousPatterns`. -/
def suspiciousPatterns : List String :=
  ["<script", "javascript:", "onerror=", "onload=",
    "../", "..\\",
    "union", "select", "drop", "insert", "update", "delete",
    "eval(", "exec(", "system("]

/-- `RequestValidationConfig`, without `MaxHeaderSize`, which the handler does not read.
`MaxBodySize` is an `int64` and `MaxURILength` an `int`. -/
structure RequestValidationConfig where
  maxBodySize : Int
  maxURILength : Int
  allowedMethods : List String
  blockSuspiciousPatterns : Bool

/-- `DefaultRequestValidationConfig()`. -/
def defaultRequestValidationConfig : RequestValidationConfig where
  maxBodySize := 4 * 1024 * 1024
  maxURILength := 2048
  allowedMethods := ["GET", "POST", "PUT", "PATCH", "DELETE", "OPTIONS"]
  blockSuspiciousPatterns := true

/-- The parts of a request the handler reads: `c.Method()`, `c.OriginalURL()`, the header's
`ContentLength()`, and the query arguments fasthttp decodes from the URI, in the order
`VisitAll` visits them. -/
structure Request where
  method : String
  originalURL : String
  contentLength : Int
  queryArgs : List (String × String)

/-- The callback `RequestValidation` gives `VisitAll`: it lowers the value and returns at the
first pattern the value contains. It returns nothing: its `return` leaves the callback alone. -/
def visitQueryArg (_key value : String) : Unit :=
  match suspiciousPatterns.find? (contains (toLower value)) with
  | some _ => ()
  | none => ()

/-- `QueryArgs().VisitAll(f)`: `f` on each argument in turn. -/
def visitAll (args : List (String × String)) (f : String → String → Unit) : Unit :=
  args.foldl (fun _ arg => f arg.1 arg.2) ()

/-- `RequestValidation(config)` on one request. -/
def requestValidation (config : RequestValidationConfig) (req : Request) : Reply :=
  if 0 < config.allowedMethods.length ∧ !config.allowedMethods.any (req.method == ·) then
    .status 405 [("error", .str "Method not allowed")]
  else if 0 < config.maxURILength ∧ config.maxURILength < (utf8Bytes req.originalURL).length then
    .status 414 [("error", .str "Request URI too long")]
  else if 0 < config.maxBodySize ∧ config.maxBodySize < req.contentLength then
    .status 413 [("error", .str "Request body too large")]
  else if config.blockSuspiciousPatterns then
    if suspiciousPatterns.any (contains (toLower req.originalURL)) then
      .status 400 [("error", .str "Invalid request format")]
    else
      let _visited := visitAll req.queryArgs visitQueryArg
      .next
  else .next

/-- The decoded query arguments are visited for nothing: the reply is the same whatever they
are. -/
theorem requestValidation_queryArgs (config : RequestValidationConfig) (req : Request)
    (args : List (String × String)) :
    requestValidation config { req with queryArgs := args } = requestValidation config req := rfl

/-- A 400 comes from the raw URI alone: the method and the limits pass, the patterns are
blocked, and the lower-cased raw URI contains one of them. -/
theorem requestValidation_eq_badRequest_iff (config : RequestValidationConfig) (req : Request) :
    requestValidation config req = .status 400 [("error", .str "Invalid request format")] ↔
      (0 < config.allowedMethods.length → config.allowedMethods.any (req.method == ·) = true) ∧
      (0 < config.maxURILength → (utf8Bytes req.originalURL).length ≤ config.maxURILength) ∧
      (0 < config.maxBodySize → req.contentLength ≤ config.maxBodySize) ∧
      config.blockSuspiciousPatterns = true ∧
      suspiciousPatterns.any (contains (toLower req.originalURL)) = true := by
  constructor
  · intro badRequest
    unfold requestValidation at badRequest
    split_ifs at badRequest with method length body block pattern <;> simp at badRequest
    refine ⟨fun listed => ?_, fun limited => by omega, fun limited => by omega, block, pattern⟩
    simpa [listed] using method
  · rintro ⟨method, length, body, block, pattern⟩
    have allowed : ¬(0 < config.allowedMethods.length ∧
        (!config.allowedMethods.any (req.method == ·)) = true) := fun ⟨listed, missing⟩ => by
      simp [method listed] at missing
    unfold requestValidation
    rw [if_neg allowed, if_neg (fun ⟨limited, long⟩ => by have := length limited; omega),
      if_neg (fun ⟨limited, large⟩ => by have := body limited; omega), if_pos block,
      if_pos pattern]

/-- The request of the failing case: a script tag in `q`, percent-escaped in the raw URI. -/
def scriptInQuery : Request :=
  ⟨"GET", "/search?q=%3Cscript%3E", 0, [("q", "<script>")]⟩

/-- **A pattern in a decoded query argument does not stop the request.** The reply is the same
whatever the decoded arguments are, and a 400 needs a pattern in the lower-cased raw URI. With
the default configuration, `GET /search?q=%3Cscript%3E`, whose argument `q` decodes to
`<script>`, one of the patterns, is passed on to the next handler. -/
theorem requestValidation_ignores_query_args :
    (∀ (config : RequestValidationConfig) (req : Request) (args : List (String × String)),
      requestValidation config { req with queryArgs := args } = requestValidation config req) ∧
    (∀ (config : RequestValidationConfig) (req : Request),
      requestValidation config req = .status 400 [("error", .str "Invalid request format")] ↔
        (0 < config.allowedMethods.length → config.allowedMethods.any (req.method == ·) = true) ∧
        (0 < config.maxURILength → (utf8Bytes req.originalURL).length ≤ config.maxURILength) ∧
        (0 < config.maxBodySize → req.contentLength ≤ config.maxBodySize) ∧
        config.blockSuspiciousPatterns = true ∧
        suspiciousPatterns.any (contains (toLower req.originalURL)) = true) ∧
    (∃ arg ∈ scriptInQuery.queryArgs, suspiciousPatterns.any (contains (toLower arg.2)) = true) ∧
    requestValidation defaultRequestValidationConfig scriptInQuery = .next :=
  ⟨requestValidation_queryArgs, requestValidation_eq_badRequest_iff, by decide, by decide⟩

end GoCommon.Http
