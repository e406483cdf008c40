import GoCommon.Auth.Guards
import GoCommon.Uuid

/-!
# The request context in fiber's locals

`SetToFiber(c, ctx)` makes `ctx` the request's user context and copies four of its values into
`c.Locals`: the user and the tenant as the texts `uuid.UUID.String()` writes (under `userId` and
`tenantId`), the trace and the request IDs as they are (under `traceId` and `requestId`). A value
the context lacks leaves its entry as it was. `GetUserIDFromFiber` and `GetTenantIDFromFiber`
read the entry back with `uuid.Parse`, and fall back on the user context when it is not a text
that parses.

After `SetToFiber` the two readers return what the context holds whenever it holds it, because
`Parse` reads back `String()` (`Uuid.parse_uuidString`); when the context lacks the value they
read the entry that was there before, with the new context as the fallback
(`idsFromFiber_setToFiber`). A user ID that `AuthMiddleware` stored from a token's claims, for
one, still wins over a context with no user.

`FromFiber` is not modelled: it cuts the `Accept-Language` header at its second byte, which can
leave a text that is not UTF-8.
-/

namespace GoCommon.Context

open Auth.Middleware

/-- The part of a `*fiber.Ctx` the helpers use: `c.UserContext()` and `c.Locals`. -/
structure FiberCtx where
  userContext : Ctx
  locals : Locals

/-- One copy of `SetToFiber`: `if v, ok := get(ctx); ok { c.Locals(key, text(v)) }`. -/
def setIfPresent {α : Type} (get : Ctx → α × Bool) (text : α → String) (key : String)
    (ctx : Ctx) (locals : Locals) : Locals :=
  if (get ctx).2 then locals.set key (.str (text (get ctx).1)) else locals

/-- `SetToFiber(c, ctx)`. -/
def setToFiber (c : FiberCtx) (ctx : Ctx) : FiberCtx where
  userContext := ctx
  locals :=
    let locals := setIfPresent getUserID Uuid.uuidString "userId" ctx c.locals
    let locals := setIfPresent getTenantID Uuid.uuidString "tenantId" ctx locals
    let locals := setIfPresent getTraceID id "traceId" ctx locals
    setIfPresent getRequestID id "requestId" ctx locals

/-- The body `GetUserIDFromFiber` and `GetTenantIDFromFiber` share: the text under `key`, if it
parses, and otherwise what `fromContext` reads from the user context. -/
def idFromFiber (key : String) (fromContext : Ctx → UUID × Bool) (c : FiberCtx) : UUID × Bool :=
  match LocalValue.asString (c.locals key) with
  | some idStr =>
    match Uuid.parse idStr with
    | (id, none) => (id, true)
    | (_, some _) => fromContext c.userContext
  | none => fromContext c.userContext

/-- `GetUserIDFromFiber(c)`. -/
def getUserIDFromFiber (c : FiberCtx) : UUID × Bool := idFromFiber "userId" getUserID c

/-- `GetTenantIDFromFiber(c)`. -/
def getTenantIDFromFiber (c : FiberCtx) : UUID × Bool := idFromFiber "tenantId" getTenantID c

section Copies

variable {α : Type} (get : Ctx → α × Bool) (text : α → String) (ctx : Ctx) (locals : Locals)

@[simp]
theorem setIfPresent_self (key : String) :
    setIfPresent get text key ctx locals key =
      if (get ctx).2 then some (.str (text (get ctx).1)) else locals key := by
  unfold setIfPresent
  split <;> simp [Locals.set]

@[simp]
theorem setIfPresent_other {key read : String} (other : read ≠ key) :
    setIfPresent get text key ctx locals read = locals read := by
  unfold setIfPresent
  split <;> simp [Locals.set, Function.update_noteq other]

end Copies

/-- Reading an ID back after it was copied, or left alone, under its key: the copy when there
was one, since `Parse` reads back `String()`, and otherwise what was there before. -/
theorem idFromFiber_copy (key : String) (get : Ctx → UUID × Bool) (c : FiberCtx) (ctx : Ctx)
    (locals : Locals)
    (copied : locals key = if (get ctx).2 then some (.str (Uuid.uuidString (get ctx).1))
      else c.locals key) :
    idFromFiber key get ⟨ctx, locals⟩ =
      if (get ctx).2 then get ctx else idFromFiber key get { c with userContext := ctx } := by
  unfold idFromFiber
  split_ifs at copied ⊢ with present
  · simp [copied, LocalValue.asString, Uuid.parse_uuidString, ← present]
  · simp only [copied]

/-- **`SetToFiber` then `Get…FromFiber`.** After `SetToFiber(c, ctx)`, `GetUserIDFromFiber` and
`GetTenantIDFromFiber` return the user and the tenant of `ctx` whenever `ctx` holds them; when it
does not, they read what `c.Locals` held before, with `ctx` as the fallback. -/
theorem idsFromFiber_setToFiber (c : FiberCtx) (ctx : Ctx) :
    getUserIDFromFiber (setToFiber c ctx) =
        (if (getUserID ctx).2 then getUserID ctx
          else getUserIDFromFiber { c with userContext := ctx }) ∧
      getTenantIDFromFiber (setToFiber c ctx) =
        (if (getTenantID ctx).2 then getTenantID ctx
          else getTenantIDFromFiber { c with userContext := ctx }) :=
  ⟨idFromFiber_copy _ _ _ _ _ (by simp [setToFiber]),
    idFromFiber_copy _ _ _ _ _ (by simp [setToFiber])⟩

/-- A user ID stored from a token's claims wins over a context with no user. -/
example : getUserIDFromFiber (setToFiber
      ⟨[], fun key => if key = "userId" then some (.str "01234567-89AB-cdef-0123-456789abcdef")
        else none⟩ []) = (0x0123456789abcdef0123456789abcdef, true) := by
  decide

end GoCommon.Context
