import MsaCore.Jwt.Token

/-!
# Authorization middlewares

`JWTAuthMiddleware.RequireAuth`, `JWTAuthMiddleware.RequireScope` and `APIKeyAuthMiddleware` are
Echo middlewares of one shape: each reads the request, then either answers it itself with a JSON
error or calls the next handler, once, with a context it may have added to.

A context is what the middlewares read and write of an `echo.Context`: the request headers
(`Header.Get`), the values of `c.Set`, and the user ID of the request's Go context
(`common.WithUserID`, `common.UserID`). A request gets a reply: the JSON error a middleware wrote,
or what the handler did. The model is pure, so a middleware that does not call the handler is
one whose reply does not depend on the handler.

Behind `RequireAuth` then `RequireScope(s)`, the handler runs exactly for the requests that bear a
token `ValidateToken` accepts and whose scopes hold `s`, and it sees that token's principal;
every other request gets a 401 or 403 that does not depend on the handler. Nothing on that path
reads the token blacklist.
-/

namespace MsaCore
namespace Middleware

open Jwt

/-- A value of `c.Set`, by the types the middlewares store. -/
inductive Value where
  | user (u : OAuthUser)
  | scopes (s : List String)
  | claims (c : JWTClaims)
  | string (s : String)

/-- What the middlewares see of an `echo.Context`: the request headers, the values of `c.Set`
(the last set first), and the value under `userIDKey` in the request's Go context. -/
structure Context where
  header : String → String
  values : List (String × Value)
  ctxUserID : Option String

namespace Context

/-- `c.Set(key, val)`. -/
def set (c : Context) (key : String) (v : Value) : Context :=
  { c with values := (key, v) :: c.values }

/-- `c.Get(key)`: the value last set under the key. -/
def get (c : Context) (key : String) : Option Value := c.values.lookup key

/-- `c.SetRequest(req.WithContext(common.WithUserID(req.Context(), id)))`. -/
def withUserID (c : Context) (id : String) : Context := { c with ctxUserID := some id }

/-- `common.UserID(c.Request().Context())`. -/
def userID (c : Context) : String × Bool :=
  match c.ctxUserID with
  | some id => (id, true)
  | none => ("", false)

/-- The principal `RequireAuth` puts into the context for the claims of a token. -/
def withPrincipal (c : Context) (claims : JWTClaims) : Context :=
  ((((c.set "user" (.user claims.user)).set "scopes" (.scopes claims.scopes)).set "claims"
    (.claims claims)).set "user_id" (.string claims.user.id)).withUserID claims.user.id

end Context

/-- What a request gets: a JSON object of strings a middleware wrote, with its status, or what
the handler did. -/
inductive Reply (α : Type) where
  | json (status : Nat) (body : List (String × String))
  | handled (result : α)

/-- An Echo handler. -/
abbrev Handler (α : Type) := Context → Reply α

section Jwt

variable (secretKey : String) (now : Int) (decode : List Char → Option Token)

/-- `RequireAuth()`: the outcome of `Jwt.requireAuth` on the `Authorization` header, as a reply
or as the next handler on the context with the principal in it. -/
def requireAuth {α : Type} (next : Handler α) : Handler α := fun c =>
  match Jwt.requireAuth secretKey now decode (c.header "Authorization").data with
  | .unauthorized error description =>
    .json 401 [("error", error), ("error_description", description)]
  | .next user scopes claims userID =>
    next (((((c.set "user" (.user user)).set "scopes" (.scopes scopes)).set "claims"
      (.claims claims)).set "user_id" (.string userID)).withUserID userID)

end Jwt

/-- `RequireScope(requiredScope)`: the scopes `RequireAuth` stored must hold the required one. -/
def requireScope {α : Type} (requiredScope : String) (next : Handler α) : Handler α := fun c =>
  match c.get "scopes" with
  | some (.scopes scopes) =>
    if requiredScope ∈ scopes then next c
    else .json 403 [("error", "insufficient_scope"),
      ("error_description", "Insufficient scope. Required: " ++ requiredScope)]
  | _ => .json 403 [("error", "missing_scopes"), ("error_description", "No scopes found in token")]

/-- `APIKeyAuthMiddleware(expectedApiKey)`. -/
def apiKeyAuthMiddleware {α : Type} (expectedApiKey : String) (next : Handler α) : Handler α :=
  fun c =>
    let apiKey := c.header "X-Api-Key"
    if apiKey = "" ∨ apiKey ≠ expectedApiKey then .json 401 [("message", "Invalid or missing API key")]
    else next c

/-! ## The context -/

namespace Context

theorem get_set (c : Context) (key k : String) (v : Value) :
    (c.set key v).get k = if k = key then some v else c.get k := by
  by_cases h : k = key
  · simp [get, set, h]
  · simp only [get, set, List.lookup_cons, beq_eq_false_iff_ne.mpr h, if_neg h]

@[simp] theorem get_withUserID (c : Context) (id k : String) : (c.withUserID id).get k = c.get k :=
  rfl

@[simp] theorem userID_withUserID (c : Context) (id : String) : (c.withUserID id).userID = (id, true) :=
  rfl

/-- `RequireScope` reads back the scopes `RequireAuth` stored. -/
@[simp] theorem get_withPrincipal_scopes (c : Context) (claims : JWTClaims) :
    (c.withPrincipal claims).get "scopes" = some (.scopes claims.scopes) := by
  simp [withPrincipal, get_set]

end Context

/-- `RequireScope` on a context `RequireAuth` has filled: the check of the token's scopes. -/
theorem requireScope_withPrincipal {α : Type} (s : String) (next : Handler α) (c : Context)
    (claims : JWTClaims) :
    requireScope s next (c.withPrincipal claims) =
      if s ∈ claims.scopes then next (c.withPrincipal claims)
      else .json 403 [("error", "insufficient_scope"),
        ("error_description", "Insufficient scope. Required: " ++ s)] := by
  simp only [requireScope, Context.get_withPrincipal_scopes]

/-! ## Behind `RequireAuth` -/

section Jwt

variable (secretKey : String) (now : Int) (decode : List Char → Option Token)

/-- The `Authorization` header bears a token that `ValidateToken` accepts at `now`, with these
claims. -/
def Bears (authHeader : List Char) (claims : JWTClaims) : Prop :=
  ∃ tok t, authHeader = bearer ++ tok ∧ tok ≠ [] ∧ decode tok = some t ∧
    validateToken secretKey now t = .ok claims

variable {secretKey now decode}

theorem requireAuth_of_bears {authHeader : List Char} {claims : JWTClaims}
    (hb : Bears secretKey now decode authHeader claims) :
    Jwt.requireAuth secretKey now decode authHeader =
      .next claims.user claims.scopes claims claims.user.id := by
  obtain ⟨tok, t, rfl, hs, hd, hv⟩ := hb
  exact requireAuth_bearer hs hd hv

/-- A request `RequireAuth` lets through bears a token that `ValidateToken` accepts, and the
principal is that of the token's claims. -/
theorem bears_of_requireAuth {authHeader : List Char} {user : OAuthUser} {scopes : List String}
    {claims : JWTClaims} {userID : String}
    (h : Jwt.requireAuth secretKey now decode authHeader = .next user scopes claims userID) :
    Bears secretKey now decode authHeader claims ∧ user = claims.user ∧ scopes = claims.scopes ∧
      userID = claims.user.id := by
  unfold Jwt.requireAuth at h
  dsimp only at h
  split_ifs at h with h0 h1 h2
  have hh : authHeader = bearer ++ authHeader.drop bearer.length := by
    conv_lhs => rw [← List.take_append_drop bearer.length authHeader]
    rw [not_not.mp h1]
  cases hd : decode (authHeader.drop bearer.length) with
  | none => simp [hd] at h
  | some t =>
    cases hv : validateToken secretKey now t with
    | error e => simp [hd, hv] at h
    | ok cl =>
      simp only [hd, hv, Option.elim, AuthOutcome.next.injEq] at h
      obtain ⟨rfl, rfl, rfl, rfl⟩ := h
      exact ⟨⟨_, t, hh, h2, hd, hv⟩, rfl, rfl, rfl⟩

theorem requireAuth_apply_of_bears {α : Type} {next : Handler α} {c : Context} {claims : JWTClaims}
    (hb : Bears secretKey now decode (c.header "Authorization").data claims) :
    requireAuth secretKey now decode next c = next (c.withPrincipal claims) := by
  simp only [requireAuth, requireAuth_of_bears hb]
  rfl

/-- Behind `RequireAuth` then `RequireScope(s)`, a request reaches the handler exactly when it
bears a token that `ValidateToken` accepts and whose scopes hold `s`, and the handler sees that
token's principal; every other request gets a 401 or a 403 that does not depend on the
handler. -/
theorem scoped_route_admits_exactly {α : Type} (s : String) (c : Context) :
    (∀ claims, Bears secretKey now decode (c.header "Authorization").data claims →
      s ∈ claims.scopes → ∀ next : Handler α,
        requireAuth secretKey now decode (requireScope s next) c = next (c.withPrincipal claims)) ∧
    ((¬ ∃ claims, Bears secretKey now decode (c.header "Authorization").data claims ∧
        s ∈ claims.scopes) →
      ∃ status body, (status = 401 ∨ status = 403) ∧ ∀ next : Handler α,
        requireAuth secretKey now decode (requireScope s next) c = .json status body) := by
  refine ⟨fun claims hb hs next => ?_, fun hno => ?_⟩
  · rw [requireAuth_apply_of_bears hb, requireScope_withPrincipal, if_pos hs]
  · cases hr : Jwt.requireAuth secretKey now decode (c.header "Authorization").data with
    | unauthorized error description =>
      exact ⟨401, [("error", error), ("error_description", description)], .inl rfl,
        fun next => by simp only [requireAuth, hr]⟩
    | next user scopes claims userID =>
      obtain ⟨hb, -, -, -⟩ := bears_of_requireAuth hr
      have hs : s ∉ claims.scopes := fun hs => hno ⟨claims, hb, hs⟩
      exact ⟨403, _, .inr rfl, fun next => by
        rw [requireAuth_apply_of_bears hb, requireScope_withPrincipal, if_neg hs]⟩

/-- A request for a route behind `RequireScope("orders:read")`, bearing an access token issued at
0 for an hour. -/
def ordersRequest : Context := ⟨fun k => if k = "Authorization" then "Bearer tok" else "", [], none⟩

/-- The token `tok` stands for. -/
def ordersDecode : List Char → Option Token :=
  fun _ => some (generateToken "secret" 0 exampleUser ["orders:read"] 3600)

/-- The claims `ValidateToken` reads from it. -/
def ordersClaims : JWTClaims :=
  ⟨exampleUser, ["orders:read"], "msa-backend", exampleUser.id, some 3600, some 0, some 0⟩

theorem scoped_route_admits_exactly_orders :
    (Bears "secret" 60 ordersDecode (ordersRequest.header "Authorization").data ordersClaims ∧
        "orders:read" ∈ ordersClaims.scopes) ∧
      (∀ next : Handler Unit, requireAuth "secret" 60 ordersDecode (requireScope "orders:read" next)
        ordersRequest = next (ordersRequest.withPrincipal ordersClaims)) ∧
      (¬ ∃ claims, Bears "secret" 60 ordersDecode ("" : String).data claims ∧
        "orders:read" ∈ claims.scopes) ∧
      ∃ status body, (status = 401 ∨ status = 403) ∧ ∀ next : Handler Unit,
        requireAuth "secret" 60 ordersDecode (requireScope "orders:read" next)
          { ordersRequest with header := fun _ => "" } = .json status body :=
  have hb : Bears "secret" 60 ordersDecode (ordersRequest.header "Authorization").data ordersClaims ∧
      "orders:read" ∈ ordersClaims.scopes :=
    ⟨⟨"tok".toList, _, by decide, by decide, rfl, validateToken_generateToken (by decide) (by decide)⟩,
      by decide⟩
  have hno : ¬ ∃ claims, Bears "secret" 60 ordersDecode ("" : String).data claims ∧
      "orders:read" ∈ claims.scopes := fun ⟨_, ⟨tok, _, he, _⟩, _⟩ =>
    absurd (congrArg List.length he) (by simp [bearer])
  ⟨hb, (scoped_route_admits_exactly "orders:read" ordersRequest).1 _ hb.1 hb.2, hno,
    (scoped_route_admits_exactly "orders:read" { ordersRequest with header := fun _ => "" }).2 hno⟩

end Jwt

/-! ## API keys -/

/-- `APIKeyAuthMiddleware` lets a request through exactly when its `X-Api-Key` header is the
configured key and that key is not empty: configured with an empty key, it refuses every
request. -/
theorem apiKeyAuthMiddleware_admits {α : Type} (expectedApiKey : String) (next : Handler α)
    (c : Context) :
    apiKeyAuthMiddleware expectedApiKey next c =
      if expectedApiKey ≠ "" ∧ c.header "X-Api-Key" = expectedApiKey then next c
      else .json 401 [("message", "Invalid or missing API key")] := by
  unfold apiKeyAuthMiddleware
  by_cases h : c.header "X-Api-Key" = expectedApiKey
  · by_cases he : expectedApiKey = "" <;> simp [h, he]
  · simp [h]

end Middleware
end MsaCore
