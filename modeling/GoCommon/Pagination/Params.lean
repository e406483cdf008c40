import GoCommon.Strconv

/-!
# Pagination parameters

`ParseParams` reads `page` and `per_page` from the query string with `strconv.Atoi` and drops
its error: a text that is no numeral reads as `0`, and a numeral past the `int` range as the
bound it passed. It then clamps `Page` to at least `1` and `PerPage` into `[1, MaxPageSize]`, so
both are in range for every query (`parseParams_bounds`). `Offset()` multiplies in Go's 64-bit
`int`: it is the mathematical `(Page - 1) * PerPage` exactly while that product stays below
`2^63` (`offset_eq_iff`), and a page near `2^63 / PerPage` takes it past.
-/

namespace GoCommon.Pagination

open GoCommon.Strconv (atoi itoa parseInt)

/-- `DefaultPageSize`. -/
def defaultPageSize : Int := 20

/-- `MaxPageSize`. -/
def maxPageSize : Int := 100

/-- `Params`. -/
structure Params where
  page : Int
  perPage : Int
  cursor : String
  sort : String
  order : String
  deriving DecidableEq, Repr

/-- The query arguments of a request, as fiber reads them: each key's value, `""` when absent. -/
abbrev QueryArgs := String → String

/-- `c.Query(key, defaultValue)`: the value, or the default when the value is empty. -/
def query (args : QueryArgs) (key defaultValue : String) : String :=
  if args key = "" then defaultValue else args key

/-- `ParseParams(c)`. -/
def parseParams (args : QueryArgs) : Params :=
  let page := (atoi (query args "page" "1")).1
  let perPage := (atoi (query args "per_page" (itoa defaultPageSize))).1
  let page := if page < 1 then 1 else page
  let perPage := if perPage < 1 then defaultPageSize else perPage
  let perPage := if perPage > maxPageSize then maxPageSize else perPage
  let order := query args "order" "desc"
  let order := if order ≠ "asc" ∧ order ≠ "desc" then "desc" else order
  { page, perPage, cursor := query args "cursor" "", sort := query args "sort" "created_at", order }

/-- `Offset()`: `(p.Page - 1) * p.PerPage`, each operation in 64-bit `int`. -/
def Params.offset (p : Params) : Int := wrapInt64 (wrapInt64 (p.page - 1) * p.perPage)

/-- `Limit()`. -/
def Params.limit (p : Params) : Int := p.perPage

/-- The clauses a query is given by `Scope(params)`, and by `Paginate` after its count:
`Offset`, `Limit` and `Order`. -/
structure Clauses where
  offset : Int
  limit : Int
  order : String
  deriving DecidableEq, Repr

/-- `Scope(params)`, applied to a query. -/
def scope (p : Params) : Clauses := ⟨p.offset, p.limit, p.sort ++ " " ++ p.order⟩

/-- Every page and page size `ParseParams` returns is in range, and so is its order. -/
theorem parseParams_bounds (args : QueryArgs) :
    1 ≤ (parseParams args).page ∧ (parseParams args).page < 2 ^ 63 ∧
      1 ≤ (parseParams args).perPage ∧ (parseParams args).perPage ≤ maxPageSize ∧
      ((parseParams args).order = "asc" ∨ (parseParams args).order = "desc") := by
  have page := Strconv.isInt64_parseInt (query args "page" "1")
  unfold IsInt64 at page
  simp only [parseParams, atoi, maxPageSize, defaultPageSize]
  refine ⟨by split <;> omega, by split <;> omega, by split <;> split <;> omega,
    by split <;> split <;> omega, ?_⟩
  split
  · exact .inr rfl
  · rename_i kept
    simp only [ne_eq, not_and, Decidable.not_not] at kept
    by_cases asc : query args "order" "desc" = "asc"
    · exact .inl asc
    · exact .inr (kept asc)

/-- `Offset()` of parsed parameters is the mathematical product exactly while the product is
below `2^63`. -/
theorem offset_eq_iff (args : QueryArgs) :
    (parseParams args).offset = ((parseParams args).page - 1) * (parseParams args).perPage ↔
      ((parseParams args).page - 1) * (parseParams args).perPage < 2 ^ 63 := by
  obtain ⟨pageLow, pageHigh, perPageLow, -, -⟩ := parseParams_bounds args
  have noWrap : wrapInt64 ((parseParams args).page - 1) = (parseParams args).page - 1 :=
    wrapInt64_of_isInt64 (by unfold IsInt64; omega)
  have nonneg : 0 ≤ ((parseParams args).page - 1) * (parseParams args).perPage :=
    Int.mul_nonneg (by omega) (by omega)
  rw [Params.offset, noWrap, wrapInt64_eq_self_iff, IsInt64]
  omega

/-- **A large page wraps the offset.** `?page=4611686018427387904` (that is `2^62`) with the
default page size of 20 gives `Offset() = -20`, which `Scope` hands to the query. -/
theorem parseParams_offset_wraps :
    (parseParams fun key => if key = "page" then "4611686018427387904" else "").page = 2 ^ 62 ∧
      (parseParams fun key => if key = "page" then "4611686018427387904" else "").perPage = 20 ∧
      (scope (parseParams fun key => if key = "page" then "4611686018427387904" else "")).offset =
        -20 := by
  decide

end GoCommon.Pagination
