import MsaCore.Jwt.Token

/-!
# `helpers.VerifyToken`

`VerifyToken` reads the `Authorization` header of a request, checks that it starts with
`Bearer`, takes the second field of the header split on spaces, parses it with `jwt.Parse`,
and returns the claims of the token.

`jwt.Parse` is taken as `ParseUnverified` of jwt v5 has it: a string that is not three segments
separated by dots gives a nil token; a token whose header does not decode keeps nil claims; one
whose claims do not decode has an empty `jwt.MapClaims`; any other has the claims it carries,
and is `Valid` exactly when it was signed by an HMAC method with the secret and its `exp` and
`nbf` hold. The header is a list of characters; the separators are ASCII, so
splitting the characters splits the bytes alike.

The code indexes the split without checking its length and reads the claims of a token that
may be nil, and Go panics on both. The guard `!ok && !token.Valid` holds only for nil claims,
those of a token whose header does not decode, so `Valid` is never consulted: every token of
three segments whose header decodes is accepted, its signature wrong or its `exp` past.
-/

namespace MsaCore
namespace Helpers

open Jwt

/-- What `VerifyToken` does: return the claims, return an error, or panic. -/
inductive VerifyResult where
  | ok (claims : ClaimSet)
  | error (msg : String)
  | panic (msg : String)

/-- `GenerateToken(id, email)`: HS256 over the claims `id` and `email`, signed with
`API_SECRET`. -/
def generateToken (secret : String) (id : Nat) (email : String) : Token :=
  ⟨"HS256", ((∅ : ClaimSet).insert "id" (.num id)).insert "email" (.str email), secret⟩

/-- What `ParseUnverified` makes of three segments: a header that does not decode, claims that
do not decode, or a token. -/
inductive Segments where
  | badHeader
  | badClaims
  | token (t : Token)

/-- A `*jwt.Token` that `jwt.Parse` returned: its claims when they are a `jwt.MapClaims`,
and `Valid`. -/
structure ParsedToken where
  claims : Option ClaimSet
  valid : Bool

/-- The key function of `VerifyToken`: `API_SECRET` for an HMAC method. -/
def keyFunc (secret : String) (t : Token) : Except JwtError String :=
  if t.alg ∈ hmacMethods then .ok secret else .error (.unverifiable "sign in to proceed")

/-- `jwt.Parse(s, keyFunc)` at time `now`; `decode` reads three segments. -/
def jwtParse (secret : String) (now : Int) (decode : List Char → Segments) (s : List Char) :
    Option ParsedToken :=
  if (s.splitOn '.').length ≠ 3 then none
  else some <| match decode s with
    | .badHeader => ⟨none, false⟩
    | .badClaims => ⟨some ∅, false⟩
    | .token t => ⟨some t.claims, (parseWith some (fun c => do pure ((← mapDate c "exp"),
        (← mapDate c "nbf"))) (keyFunc secret) now t).isOk⟩

/-- The panic of `strings.Split(headerToken, " ")[1]` on a header with no space. -/
def indexOutOfRange : String := "runtime error: index out of range [1] with length 1"

/-- The panic of `token.Claims` on a nil token. -/
def nilDereference : String := "runtime error: invalid memory address or nil pointer dereference"

/-- The panic of `token.Claims.(jwt.MapClaims)` on claims of another type. -/
def interfaceConversion : String := "interface conversion: interface is nil, not jwt.MapClaims"

/-- `VerifyToken` on the `Authorization` header `headerToken`, with `API_SECRET` = `secret`. -/
def verifyToken (secret : String) (now : Int) (decode : List Char → Segments)
    (headerToken : List Char) : VerifyResult :=
  let errResponse := "sign in to proceed"
  let bearer := "Bearer".toList.isPrefixOf headerToken
  if !bearer then .error errResponse
  else
    match (headerToken.splitOn ' ')[1]? with
    | none => .panic indexOutOfRange
    | some stringToken =>
      match jwtParse secret now decode stringToken with
      | none => .panic nilDereference
      | some token =>
        if token.claims.isNone ∧ !token.valid then .error errResponse
        else
          match token.claims with
          | some claims => .ok claims
          | none => .panic interfaceConversion

/-! ## Splitting the header -/

theorem splitOn_of_not_mem {l : List Char} (h : ' ' ∉ l) : l.splitOn ' ' = [l] :=
  List.splitOnP_eq_single _ _ fun x hx hsp => h (by rwa [beq_iff_eq.mp hsp] at hx)

/-- `"Bearer " ++ s` splits into `Bearer` and `s` when `s` has no space. -/
theorem splitOn_bearer {s : List Char} (h : ' ' ∉ s) :
    ("Bearer ".toList ++ s).splitOn ' ' = ["Bearer".toList, s] := by
  have hb : "Bearer ".toList ++ s = "Bearer".toList ++ ' ' :: s := rfl
  rw [hb, List.splitOn, List.splitOnP_first _ _ (by decide) ' ' (by decide), ← List.splitOn,
    splitOn_of_not_mem h]

theorem isPrefix_bearer (s : List Char) : "Bearer".toList <+: "Bearer ".toList ++ s := ⟨' ' :: s, rfl⟩

/-! ## What `VerifyToken` returns -/

/-- `VerifyToken` returns an error for a header that does not start with `Bearer`. It panics on
a `Bearer` header with no space, and on `"Bearer " ++ s` when `s` is not three segments (the
empty token included). It returns the claims of every token whose claims `jwt.Parse` sets,
whatever `Valid` says: a token signed with another key, or expired, is accepted. -/
theorem verifyToken_panics_or_accepts (secret : String) (now : Int)
    (decode : List Char → Segments) :
    (∀ h, ¬ "Bearer".toList <+: h → verifyToken secret now decode h = .error "sign in to proceed") ∧
    (∀ h, "Bearer".toList <+: h → ' ' ∉ h →
      verifyToken secret now decode h = .panic indexOutOfRange) ∧
    (∀ s, ' ' ∉ s → (s.splitOn '.').length ≠ 3 →
      verifyToken secret now decode ("Bearer ".toList ++ s) = .panic nilDereference) ∧
    (∀ s c v, ' ' ∉ s → jwtParse secret now decode s = some ⟨some c, v⟩ →
      verifyToken secret now decode ("Bearer ".toList ++ s) = .ok c) := by
  have hb : ∀ s, "Bearer".toList.isPrefixOf ("Bearer ".toList ++ s) = true := fun s =>
    List.isPrefixOf_iff_prefix.mpr (isPrefix_bearer s)
  refine ⟨fun h hp => ?_, fun h hp hs => ?_, fun s hs hl => ?_, fun s c v hs hp => ?_⟩
  · have hf : "Bearer".toList.isPrefixOf h = false := by
      rw [Bool.eq_false_iff, ne_eq, List.isPrefixOf_iff_prefix]; exact hp
    simp only [verifyToken, hf]; rfl
  · simp only [verifyToken, List.isPrefixOf_iff_prefix.mpr hp, splitOn_of_not_mem hs]; rfl
  · have hn : jwtParse secret now decode s = none := if_pos hl
    simp only [verifyToken, hb, splitOn_bearer hs, List.getElem?_cons_succ, List.getElem?_cons_zero, hn]
    rfl
  · simp only [verifyToken, hb, splitOn_bearer hs, List.getElem?_cons_succ, List.getElem?_cons_zero, hp]
    rfl

/-- With `API_SECRET = "secret"`: the headers `Bearer` and `Bearer ` panic, and a token signed
with another key, which `jwt.Parse` reports not `Valid`, is accepted. -/
theorem verifyToken_panics_or_accepts_forged :
    (("Bearer".toList <+: "Bearer".toList ∧ ' ' ∉ "Bearer".toList) ∧
      verifyToken "secret" 0 (fun _ => .token (generateToken "other" 1 "a@b.c")) "Bearer".toList =
        .panic indexOutOfRange) ∧
    ((' ' ∉ ([] : List Char) ∧ (([] : List Char).splitOn '.').length ≠ 3) ∧
      verifyToken "secret" 0 (fun _ => .token (generateToken "other" 1 "a@b.c"))
        ("Bearer ".toList ++ []) = .panic nilDereference) ∧
    ((' ' ∉ "h.p.s".toList ∧
      jwtParse "secret" 0 (fun _ => .token (generateToken "other" 1 "a@b.c")) "h.p.s".toList =
        some ⟨some (generateToken "other" 1 "a@b.c").claims, false⟩) ∧
      verifyToken "secret" 0 (fun _ => .token (generateToken "other" 1 "a@b.c"))
        ("Bearer ".toList ++ "h.p.s".toList) = .ok (generateToken "other" 1 "a@b.c").claims) :=
  have h1 : _ ∧ _ := ⟨List.prefix_refl _, by decide⟩
  have h2 : _ ∧ _ := ⟨List.not_mem_nil ' ', by decide⟩
  have h3 : _ ∧ _ := ⟨by decide, rfl⟩
  ⟨⟨h1, (verifyToken_panics_or_accepts _ _ _).2.1 _ h1.1 h1.2⟩,
    ⟨h2, (verifyToken_panics_or_accepts _ _ _).2.2.1 _ h2.1 h2.2⟩,
    ⟨h3, (verifyToken_panics_or_accepts _ _ _).2.2.2 _ _ _ h3.1 h3.2⟩⟩

end Helpers
end MsaCore
