import Mathlib.Data.Finmap

/-!
# Access and refresh tokens

`jwtService` issues two kinds of HS256 tokens with one secret key: access tokens
(`GenerateToken`: the user, the scopes and the registered claims) and refresh tokens
(`GenerateRefreshToken`: `user_id`, `type = "refresh"`, `exp`, `iat`). `ValidateToken` reads a
token into `models.JWTClaims`, `ValidateRefreshToken` into `jwt.MapClaims`.

Signing is abstract: a token carries the key it was signed with, and it verifies under a key
exactly when it was signed with that key by an HMAC method. Its claims are a JSON object,
given by the shapes of value the service writes; reading them into `JWTClaims` follows
`encoding/json`: unknown fields are ignored, a missing or null field keeps its zero value.
Times are Unix seconds.

`ValidateRefreshToken` checks the token's type; `ValidateToken` does not, and a refresh
token has every field `ValidateToken` needs (a signature, an `exp` in the future). So a
refresh token passes `ValidateToken` and `RequireAuth`, for the zero user with no scopes.
-/

namespace MsaCore
namespace Jwt

/-- `models.OAuthUser`. -/
structure OAuthUser where
  id : String
  email : String
  name : String
  provider : String
  deriving DecidableEq

/-- The zero `OAuthUser`. -/
def OAuthUser.zero : OAuthUser := ⟨"", "", "", ""⟩

/-- A claim value, by the JSON shapes the service writes. -/
inductive ClaimValue where
  | null
  | str (s : String)
  | num (n : Int)
  | strs (l : List String)
  | user (u : OAuthUser)
  deriving DecidableEq

/-- A token's claims: a JSON object. -/
abbrev ClaimSet := Finmap fun _ : String => ClaimValue

/-- A signed token: the algorithm of its header, its claims, and the key that signed it. -/
structure Token where
  alg : String
  claims : ClaimSet
  key : String

/-- The errors of `jwt-go` and of the service. -/
inductive JwtError where
  /-- `jwt.ErrTokenMalformed`: the claims do not decode. -/
  | malformed
  /-- `jwt.ErrTokenUnverifiable`: the key function failed. -/
  | unverifiable (msg : String)
  /-- `jwt.ErrTokenSignatureInvalid`. -/
  | signatureInvalid
  /-- `jwt.ErrTokenInvalidClaims`: a time claim of the wrong type. -/
  | invalidType
  /-- `jwt.ErrTokenExpired`. -/
  | expired
  /-- `jwt.ErrTokenNotValidYet`. -/
  | notValidYet
  /-- `errors.New(msg)` in the service. -/
  | text (msg : String)
  deriving DecidableEq

/-- `models.JWTClaims`, with the registered claims the service writes. -/
structure JWTClaims where
  user : OAuthUser
  scopes : List String
  issuer : String
  subject : String
  expiresAt : Option Int
  notBefore : Option Int
  issuedAt : Option Int
  deriving DecidableEq

/-! ## Issuing -/

/-- The HMAC signing methods. -/
def hmacMethods : List String := ["HS256", "HS384", "HS512"]

/-- `GenerateToken` at time `now`; an empty subject is omitted. -/
def generateToken (secretKey : String) (now : Int) (user : OAuthUser) (scopes : List String)
    (expiresIn : Int) : Token :=
  let claims : ClaimSet :=
    (((((∅ : ClaimSet).insert "user" (.user user)).insert "scopes" (.strs scopes)).insert
      "exp" (.num (now + expiresIn))).insert "iat" (.num now)).insert "nbf" (.num now)
  let claims := claims.insert "iss" (.str "msa-backend")
  let claims := if user.id = "" then claims else claims.insert "sub" (.str user.id)
  ⟨"HS256", claims, secretKey⟩

/-- Thirty days, the lifetime of a refresh token. -/
def refreshLifetime : Int := 30 * 24 * 3600

/-- `GenerateRefreshToken` at time `now`. -/
def generateRefreshToken (secretKey : String) (now : Int) (user : OAuthUser) : Token :=
  ⟨"HS256", ((((∅ : ClaimSet).insert "user_id" (.str user.id)).insert "type" (.str "refresh")).insert
    "exp" (.num (now + refreshLifetime))).insert "iat" (.num now), secretKey⟩

/-! ## Parsing -/

/-- A missing or null field decodes to the zero value; a field of another type fails. -/
def decodeField {β : Type} (zero : β) (read : ClaimValue → Option β) : Option ClaimValue → Option β
  | none | some .null => some zero
  | some v => read v

/-- `json.Unmarshal` of the claims into `JWTClaims`. -/
def decodeJWTClaims (c : ClaimSet) : Option JWTClaims := do
  let user ← decodeField OAuthUser.zero (fun | .user u => some u | _ => none) (c.lookup "user")
  let scopes ← decodeField [] (fun | .strs l => some l | _ => none) (c.lookup "scopes")
  let issuer ← decodeField "" (fun | .str s => some s | _ => none) (c.lookup "iss")
  let subject ← decodeField "" (fun | .str s => some s | _ => none) (c.lookup "sub")
  let date := decodeField none fun | .num n => some (some n) | _ => none
  let expiresAt ← date (c.lookup "exp")
  let notBefore ← date (c.lookup "nbf")
  let issuedAt ← date (c.lookup "iat")
  pure ⟨user, scopes, issuer, subject, expiresAt, notBefore, issuedAt⟩

/-- A time claim of `jwt.MapClaims`: absent, a number, or of an invalid type. -/
def mapDate (c : ClaimSet) (key : String) : Except JwtError (Option Int) :=
  match c.lookup key with
  | none => .ok none
  | some (.num n) => .ok (some n)
  | some _ => .error .invalidType

/-- `jwt.Validator` with the default options: not expired, and already valid. -/
def validateTimes (exp nbf : Option Int) (now : Int) : Except JwtError Unit :=
  if exp.any (now ≥ ·) then .error .expired
  else if nbf.any (now < ·) then .error .notValidYet
  else .ok ()

/-- `jwt.ParseWithClaims`: decode the claims, ask the key function for the key, check the
signature, then validate the time claims. -/
def parseWith {C : Type} (decode : ClaimSet → Option C)
    (times : C → Except JwtError (Option Int × Option Int))
    (keyFunc : Token → Except JwtError String) (now : Int) (t : Token) : Except JwtError C := do
  let claims ← (decode t.claims).elim (.error .malformed) .ok
  let key ← keyFunc t
  if t.alg ∉ hmacMethods ∨ t.key ≠ key then throw .signatureInvalid
  let (exp, nbf) ← times claims
  validateTimes exp nbf now
  pure claims

/-! ## Validating -/

/-- `ValidateToken` at time `now`. -/
def validateToken (secretKey : String) (now : Int) (t : Token) : Except JwtError JWTClaims := do
  let claims ← parseWith decodeJWTClaims (fun c => .ok (c.expiresAt, c.notBefore))
    (fun t => if t.alg ∈ hmacMethods then .ok secretKey
      else .error (.unverifiable "unexpected signing method")) now t
  if claims.expiresAt.any (· < now) then throw (.text "token expired")
  pure claims

/-- `ValidateRefreshToken` at time `now`: the user ID of a refresh token. -/
def validateRefreshToken (secretKey : String) (now : Int) (t : Token) : Except JwtError String := do
  let claims ← parseWith some (fun c => do pure ((← mapDate c "exp"), (← mapDate c "nbf")))
    (fun _ => .ok secretKey) now t
  if claims.lookup "type" ≠ some (.str "refresh") then throw (.text "invalid token type")
  match claims.lookup "user_id" with
  | some (.str userID) => pure userID
  | _ => throw (.text "invalid user ID in refresh token")

/-! ## The middleware -/

/-- What `RequireAuth` does with a request: a 401 answer with an error code and a
description, or the next handler with the principal it put in the context. -/
inductive AuthOutcome where
  | unauthorized (error description : String)
  | next (user : OAuthUser) (scopes : List String) (claims : JWTClaims) (userID : String)
  deriving DecidableEq

/-- The scheme prefix of the `Authorization` header. -/
def bearer : List Char := "Bearer ".toList

/-- `RequireAuth` on the `Authorization` header at time `now`; `decode` reads the compact
serialisation of a token. -/
def requireAuth (secretKey : String) (now : Int) (decode : List Char → Option Token)
    (authHeader : List Char) : AuthOutcome :=
  if authHeader = [] then .unauthorized "missing_authorization_header" "Authorization header is required"
  else if authHeader.take bearer.length ≠ bearer then
    .unauthorized "invalid_authorization_header" "Authorization header must start with \x27Bearer \x27"
  else
    let token := authHeader.drop bearer.length
    if token = [] then .unauthorized "missing_token" "Token is required"
    else
      match (decode token).elim (.error .malformed) (validateToken secretKey now) with
      | .error _ => .unauthorized "invalid_token" "Invalid or expired token"
      | .ok claims => .next claims.user claims.scopes claims claims.user.id


/-! ## What the validators accept -/

theorem validateTimes_ok {exp nbf : Option Int} {now : Int} (hexp : ∀ e ∈ exp, now < e)
    (hnbf : ∀ n ∈ nbf, n ≤ now) : validateTimes exp nbf now = .ok () := by
  cases exp <;> cases nbf <;> simp_all [validateTimes, not_le_of_lt]

/-- `ValidateToken` accepts an HMAC-signed token under its key whose claims decode and whose
time claims hold, with those claims. -/
theorem validateToken_ok {secretKey : String} {now : Int} {t : Token} {c : JWTClaims}
    (hd : decodeJWTClaims t.claims = some c) (ha : t.alg ∈ hmacMethods) (hk : t.key = secretKey)
    (hexp : ∀ e ∈ c.expiresAt, now < e) (hnbf : ∀ n ∈ c.notBefore, n ≤ now) :
    validateToken secretKey now t = .ok c := by
  have hlate : c.expiresAt.any (· < now) = false := by
    cases h : c.expiresAt <;> simp_all [le_of_lt]
  simp [validateToken, parseWith, hd, ha, hk, validateTimes_ok hexp hnbf, hlate, bind, Except.bind,
    pure, Except.pure]

section Issued

variable {secretKey : String} {issued now : Int} {user : OAuthUser}

theorem decodeJWTClaims_generateRefreshToken :
    decodeJWTClaims (generateRefreshToken secretKey issued user).claims =
      some ⟨OAuthUser.zero, [], "", "", some (issued + refreshLifetime), none, some issued⟩ := by
  simp [generateRefreshToken, decodeJWTClaims, decodeField, Finmap.lookup_insert_of_ne]

theorem decodeJWTClaims_generateToken (scopes : List String) (expiresIn : Int) :
    decodeJWTClaims (generateToken secretKey issued user scopes expiresIn).claims =
      some ⟨user, scopes, "msa-backend", user.id, some (issued + expiresIn), some issued, some issued⟩ := by
  simp only [generateToken]
  split_ifs with h <;> simp [decodeJWTClaims, decodeField, Finmap.lookup_insert_of_ne, h]

/-- An access token passes `ValidateToken` within its validity, with the user and the scopes
it was issued for. -/
theorem validateToken_generateToken {scopes : List String} {expiresIn : Int} (h0 : issued ≤ now)
    (h1 : now < issued + expiresIn) :
    validateToken secretKey now (generateToken secretKey issued user scopes expiresIn) =
      .ok ⟨user, scopes, "msa-backend", user.id, some (issued + expiresIn), some issued, some issued⟩ :=
  validateToken_ok (decodeJWTClaims_generateToken scopes expiresIn) (List.mem_cons_self _ _) rfl
    (by simpa using h1) (by simpa using h0)

/-- A bearer token that decodes and passes `ValidateToken` lets the request through with the
principal of its claims. -/
theorem requireAuth_bearer {decode : List Char → Option Token} {s : List Char} {t : Token}
    {c : JWTClaims} (hs : s ≠ []) (hd : decode s = some t) (hv : validateToken secretKey now t = .ok c) :
    requireAuth secretKey now decode (bearer ++ s) = .next c.user c.scopes c c.user.id := by
  simp [requireAuth, hs, hd, hv]

/-- The claims `ValidateToken` reads from a refresh token issued at `issued`. -/
def refreshAsAccess (issued : Int) : JWTClaims :=
  ⟨OAuthUser.zero, [], "", "", some (issued + refreshLifetime), none, some issued⟩

/-- A refresh token, before it expires, passes `ValidateToken` for the zero user with no
scopes, and `RequireAuth` lets a request bearing it through with an empty user ID. -/
theorem refresh_token_accepted_as_access {decode : List Char → Option Token} {s : List Char}
    (hnow : now < issued + refreshLifetime) (hs : s ≠ [])
    (hd : decode s = some (generateRefreshToken secretKey issued user)) :
    validateToken secretKey now (generateRefreshToken secretKey issued user) = .ok (refreshAsAccess issued) ∧
      requireAuth secretKey now decode (bearer ++ s) =
        .next OAuthUser.zero [] (refreshAsAccess issued) "" := by
  have hv : validateToken secretKey now (generateRefreshToken secretKey issued user) =
      .ok (refreshAsAccess issued) :=
    validateToken_ok decodeJWTClaims_generateRefreshToken (List.mem_cons_self _ _) rfl
      (by simpa [refreshAsAccess] using hnow) (by simp [refreshAsAccess])
  exact ⟨hv, requireAuth_bearer hs hd hv⟩

end Issued

/-- The user of the model's examples. -/
def exampleUser : OAuthUser :=
  ⟨"bc198ec4-3f81-4729-ac5d-04b838d2ab3c", "john.doe@example.com", "John Doe", "msa"⟩

theorem refresh_token_accepted_as_access_example :
    let decode : List Char → Option Token := fun _ => some (generateRefreshToken "secret" 0 exampleUser)
    ((60 : Int) < 0 + refreshLifetime ∧ "tok".toList ≠ [] ∧
      decode "tok".toList = some (generateRefreshToken "secret" 0 exampleUser)) ∧
    validateToken "secret" 60 (generateRefreshToken "secret" 0 exampleUser) = .ok (refreshAsAccess 0) ∧
      requireAuth "secret" 60 decode (bearer ++ "tok".toList) =
        .next OAuthUser.zero [] (refreshAsAccess 0) "" :=
  have h : _ ∧ _ ∧ _ := ⟨by decide, by decide, rfl⟩
  ⟨h, refresh_token_accepted_as_access h.1 h.2.1 h.2.2⟩

end Jwt
end MsaCore
