import GoCommon.Runtime

/-!
# Scope checks

The repository decides whether a caller holds a required scope in five places. The remote
service-auth middleware (`hasScopeInList`) and the gRPC auth interceptor (`HasScope`) share one
text, which honours three forms of grant: the universal `"*"`, the scope itself, and a resource
wildcard `"resource:*"` for a required scope `"resource:action"`. The JWT middleware
(`RequireScopes` and the fiber `HasScope`, identical in both copies of its file) and the OAuth
introspection middleware accept only the scope itself and `"*"`.

`Grants` is the relation the design describes. `scopeGrants_iff` shows that the loop body of
the first two checks decides it; `exactOrUniversal` is the loop body of the others.
-/

namespace GoCommon.Auth

/-- A JSON value of a handler's answer. -/
inductive Json where
  | str (value : String)
  | bool (value : Bool)
  deriving DecidableEq, Repr

/-- What a fiber handler does with a request: pass it on with `c.Next()`, or answer it with a
status and a JSON object. -/
inductive Reply where
  | next
  | status (code : Nat) (body : List (String × Json))
  deriving DecidableEq, Repr

/-- The design's scope relation: `"*"` grants everything, a scope grants itself, and
`"resource:*"` grants a required scope `"resource:action"` with exactly one `':'`. -/
def Grants (scope required : String) : Prop :=
  scope = "*" ∨ scope = required ∨
    ∃ resource action, ':' ∉ resource.data ∧ ':' ∉ action.data ∧
      required = resource ++ ":" ++ action ∧ scope = resource ++ ":*"

/-- The resource part of a scope: what stands before its first `':'`. -/
def resourceOf (scope : String) : String := ⟨scope.data.takeWhile (· != ':')⟩

/-- One iteration of the loop of `hasScopeInList` and `HasScope`: does `scope` grant
`required`? -/
def scopeGrants (required scope : String) : Bool :=
  scope == "*" || scope == required ||
    match Strings.split required ':' with
    | [resource, _] => scope == resource ++ ":*"
    | _ => false

/-- One iteration of the loops of the JWT and OAuth checks: `scope == required || scope == "*"`. -/
def exactOrUniversal (required scope : String) : Bool := scope == required || scope == "*"

namespace Middleware

/-- `hasScopeInList(scopes, required)` of the remote service-auth middleware. -/
def hasScopeInList (scopes : List String) (required : String) : Bool :=
  scopes.any (scopeGrants required)

/-- `RequireScopes(scopes...)` of the JWT middleware, on a request whose `c.Locals("scopes")`
is `locals` (`none` when it is not a `[]string`). -/
def requireScopes (scopes : List String) (locals : Option (List String)) : Reply :=
  match locals with
  | none => .status 403 [("error", .str "Access denied")]
  | some clientScopes =>
    if scopes.all fun required => clientScopes.any (exactOrUniversal required) then .next
    else .status 403 [("error", .str "Insufficient scopes")]

/-- `HasScope(c, scope)` of the JWT middleware. -/
def hasScope (locals : Option (List String)) (scope : String) : Bool :=
  match locals with
  | none => false
  | some scopes => scopes.any (exactOrUniversal scope)

/-- The scopes `OAuthIntrospectionMiddleware` checks: `Scopes`, or `Scope` split at spaces when
`Scopes` is empty. -/
def introspectionScopes (scopes : List String) (scope : String) : List String :=
  if scopes.isEmpty && scope != "" then Strings.split scope ' ' else scopes

/-- The required-scope check of `OAuthIntrospectionMiddleware` on an active token. -/
def oauthRequiredScopes (requiredScopes scopes : List String) : Reply :=
  if 0 < requiredScopes.length then
    if requiredScopes.all fun required => scopes.any (exactOrUniversal required) then .next
    else .status 403 [("success", .bool false), ("error", .str "Forbidden"),
      ("message", .str "Insufficient scopes")]
  else .next

end Middleware

namespace Grpc

/-- `HasScope(scopes, required)` of the gRPC auth interceptor, the text of `hasScopeInList`. -/
def hasScope (scopes : List String) (required : String) : Bool :=
  scopes.any (scopeGrants required)

end Grpc

theorem wildcard_grants_iff {scope required : String} :
    (match Strings.split required ':' with
      | [resource, _] => scope == resource ++ ":*"
      | _ => false) = true ↔
    ∃ resource action, ':' ∉ resource.data ∧ ':' ∉ action.data ∧
      required = resource ++ ":" ++ action ∧ scope = resource ++ ":*" := by
  constructor
  · intro grants
    match parts : Strings.split required ':', grants with
    | [resource, action], grants =>
      obtain ⟨noResource, noAction, joined⟩ := Strings.split_eq_pair.mp parts
      exact ⟨resource, action, noResource, noAction, String.ext (by simpa using joined),
        by simpa using grants⟩
  · rintro ⟨resource, action, noResource, noAction, rfl, rfl⟩
    have parts : Strings.split (resource ++ ":" ++ action) ':' = [resource, action] :=
      Strings.split_eq_pair.mpr ⟨noResource, noAction, by simp⟩
    simp [parts]

theorem scopeGrants_iff {required scope : String} :
    scopeGrants required scope = true ↔ Grants scope required := by
  simp only [scopeGrants, Bool.or_eq_true, beq_iff_eq, wildcard_grants_iff, Grants, or_assoc]

/-- The resource of a scope that continues with `':'` after a colon-free part is that part. -/
theorem resourceOf_append_colon {resource : String} (tail : List Char)
    (noColon : ':' ∉ resource.data) : resourceOf ⟨resource.data ++ ':' :: tail⟩ = resource := by
  have kept : ∀ c ∈ resource.data, (c != ':') = true := by
    intro c mem
    simpa using fun same : c = ':' => noColon (same ▸ mem)
  simp [resourceOf, List.takeWhile_append_of_pos kept]

/-- `hasScopeInList` and the gRPC `HasScope` decide `Grants` over a whole list of granted
scopes; no granted scope but `"*"` grants a required scope of another resource. -/
theorem hasScopeInList_decides_grants :
    (∀ scopes required, Middleware.hasScopeInList scopes required = true ↔
      ∃ scope ∈ scopes, Grants scope required) ∧
    (∀ scopes required, Grpc.hasScope scopes required = true ↔
      ∃ scope ∈ scopes, Grants scope required) ∧
    (∀ scope required, Grants scope required → scope ≠ "*" →
      resourceOf scope = resourceOf required) := by
  refine ⟨fun scopes required => ?_, fun scopes required => ?_, ?_⟩
  · simp [Middleware.hasScopeInList, scopeGrants_iff]
  · simp [Grpc.hasScope, scopeGrants_iff]
  · rintro scope required (universal | rfl | ⟨resource, action, noColon, -, rfl, rfl⟩)
      notUniversal
    · exact absurd universal notUniversal
    · rfl
    · have wildcard : resource ++ ":*" = ⟨resource.data ++ [':', '*']⟩ := String.ext (by simp)
      have joined : resource ++ ":" ++ action = ⟨resource.data ++ ':' :: action.data⟩ :=
        String.ext (by simp)
      rw [wildcard, joined, resourceOf_append_colon _ noColon, resourceOf_append_colon _ noColon]

theorem exactOrUniversal_iff {required scope : String} :
    exactOrUniversal required scope = true ↔ scope = required ∨ scope = "*" := by
  simp [exactOrUniversal]

/-- The JWT middleware's `RequireScopes` and `HasScope` and the OAuth required-scope check
accept a required scope exactly when some granted scope is that scope or `"*"`; whatever they
accept, `hasScopeInList` accepts too. -/
theorem jwt_scope_checks_exact_or_universal :
    (∀ scopes clientScopes, Middleware.requireScopes scopes (some clientScopes) = .next ↔
      ∀ required ∈ scopes, ∃ scope ∈ clientScopes, scope = required ∨ scope = "*") ∧
    (∀ scopes required, Middleware.hasScope (some scopes) required = true ↔
      ∃ scope ∈ scopes, scope = required ∨ scope = "*") ∧
    (∀ requiredScopes scopes, Middleware.oauthRequiredScopes requiredScopes scopes = .next ↔
      ∀ required ∈ requiredScopes, ∃ scope ∈ scopes, scope = required ∨ scope = "*") ∧
    (∀ scopes required, (∃ scope ∈ scopes, scope = required ∨ scope = "*") →
      Middleware.hasScopeInList scopes required = true) := by
  refine ⟨fun scopes clientScopes => ?_, fun scopes required => ?_,
    fun requiredScopes scopes => ?_, ?_⟩
  · by_cases admitted : scopes.all fun required => clientScopes.any (exactOrUniversal required)
    · simp only [Middleware.requireScopes, admitted, if_true, true_iff]
      simpa [exactOrUniversal_iff] using admitted
    · simp only [Middleware.requireScopes, admitted, if_false, reduceCtorEq, false_iff]
      simpa [exactOrUniversal_iff] using admitted
  · simp [Middleware.hasScope, exactOrUniversal_iff]
  · by_cases admitted : requiredScopes.all fun required => scopes.any (exactOrUniversal required)
    · have accepted : ∀ required ∈ requiredScopes, ∃ scope ∈ scopes,
          scope = required ∨ scope = "*" := by simpa [exactOrUniversal_iff] using admitted
      simpa [Middleware.oauthRequiredScopes, admitted] using accepted
    · have refused : ¬∀ required ∈ requiredScopes, ∃ scope ∈ scopes,
          scope = required ∨ scope = "*" := by simpa [exactOrUniversal_iff] using admitted
      have nonempty : 0 < requiredScopes.length :=
        List.length_pos.mpr fun empty => refused (by simp [empty])
      simp [Middleware.oauthRequiredScopes, admitted, refused, nonempty]
  · rintro scopes required ⟨scope, mem, grant⟩
    simp only [Middleware.hasScopeInList, List.any_eq_true, scopeGrants_iff]
    exact ⟨scope, mem, grant.elim (fun same => .inr (.inl same)) .inl⟩

/-- A resource wildcard is a grant for `hasScopeInList` and for none of the JWT and OAuth
checks. -/
theorem jwt_scope_checks_reject_resource_wildcard :
    Middleware.hasScopeInList ["notifications:*"] "notifications:send" = true ∧
    Middleware.requireScopes ["notifications:send"] (some ["notifications:*"]) =
      .status 403 [("error", .str "Insufficient scopes")] ∧
    Middleware.hasScope (some ["notifications:*"]) "notifications:send" = false ∧
    Middleware.oauthRequiredScopes ["notifications:send"] ["notifications:*"] ≠ .next := by
  decide

end GoCommon.Auth
