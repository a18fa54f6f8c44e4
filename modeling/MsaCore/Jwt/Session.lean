import MsaCore.Jwt.Token

/-!
# Refreshing and reading tokens

`RefreshToken` validates a token and issues a new access token, at the time of the call, for
the same user and scopes. `ExtractUser` reads the user of a token with `ParseUnverified`, which
checks neither the signature nor the times.

A session is a token refreshed again and again. Refreshed each time within the validity of the
token in hand, a session keeps its user and its scopes, and nothing bounds its life: the last
refresh may come as late as one likes (`refreshChain_issued`). Neither function reads the
blacklist.
-/

namespace MsaCore
namespace Jwt

/-! ## Refreshing -/

/-- `RefreshToken` at time `now`; signing with HMAC does not fail. -/
def refreshToken (secretKey : String) (now : Int) (t : Token) (expiresIn : Int) :
    Except JwtError Token := do
  let claims ← validateToken secretKey now t
  pure (generateToken secretKey now claims.user claims.scopes expiresIn)

/-- A session: the token refreshed at each of the times in turn, each time with the token the
last refresh gave. -/
def refreshChain (secretKey : String) (expiresIn : Int) : Token → List Int → Except JwtError Token
  | t, [] => .ok t
  | t, now :: times =>
    (refreshToken secretKey now t expiresIn).bind fun t => refreshChain secretKey expiresIn t times

/-- Each refresh comes while the token in hand is valid: not before it was issued, and before it
expires. -/
def Timely (expiresIn : Int) : Int → List Int → Prop
  | _, [] => True
  | issued, now :: times => issued ≤ now ∧ now < issued + expiresIn ∧ Timely expiresIn now times

instance Timely.decidable (expiresIn : Int) : ∀ issued times, Decidable (Timely expiresIn issued times)
  | _, [] => isTrue trivial
  | _, now :: times =>
    have := Timely.decidable expiresIn now times
    inferInstanceAs (Decidable (_ ∧ _ ∧ _))

section Refresh

variable {secretKey : String} {user : OAuthUser} {scopes : List String} {expiresIn : Int}

/-- Refreshing an access token within its validity issues one for the same user and scopes. -/
theorem refreshToken_generateToken {issued now : Int} (h0 : issued ≤ now)
    (h1 : now < issued + expiresIn) (expiresIn' : Int) :
    refreshToken secretKey now (generateToken secretKey issued user scopes expiresIn) expiresIn' =
      .ok (generateToken secretKey now user scopes expiresIn') := by
  rw [refreshToken, validateToken_generateToken h0 h1]
  rfl

/-- A session refreshed in time, however often, holds at the end an access token issued at the
last refresh for the user and the scopes it started with. -/
theorem refreshChain_issued {issued : Int} {times : List Int} (h : Timely expiresIn issued times) :
    refreshChain secretKey expiresIn (generateToken secretKey issued user scopes expiresIn) times =
      .ok (generateToken secretKey (times.getLastD issued) user scopes expiresIn) := by
  induction times generalizing issued with
  | nil => rfl
  | cons now times ih =>
    obtain ⟨h0, h1, h⟩ := h
    rw [refreshChain, refreshToken_generateToken h0 h1, Except.bind, ih h,
      List.getLastD_cons]

theorem refreshChain_issued_hourly :
    Timely 3600 0 [3000, 6000, 9000] ∧
    refreshChain "secret" 3600 (generateToken "secret" 0 exampleUser ["orders:read"] 3600)
        [3000, 6000, 9000] =
      .ok (generateToken "secret" 9000 exampleUser ["orders:read"] 3600) :=
  have h : Timely 3600 0 [3000, 6000, 9000] := by decide
  ⟨h, refreshChain_issued h⟩

end Refresh

/-! ## Reading the user -/

/-- The signing methods `jwt-go` registers. -/
def registeredMethods : List String :=
  ["HS256", "HS384", "HS512", "RS256", "RS384", "RS512", "ES256", "ES384", "ES512", "PS256",
    "PS384", "PS512", "EdDSA", "none"]

/-- `ExtractUser`: `ParseUnverified` decodes the claims and looks the algorithm up, and that is
all it checks. -/
def extractUser (t : Token) : Except JwtError OAuthUser := do
  let claims ← (decodeJWTClaims t.claims).elim (.error .malformed) .ok
  if t.alg ∉ registeredMethods then throw (.unverifiable "signing method (alg) is unavailable")
  pure claims.user

end Jwt
end MsaCore
