import Mathlib.Data.Finmap

/-!
# The Redis server

The key space of a Redis server, the commands the client sends, and the glob matching of
`SCAN ... MATCH`. A key holds a string or a hash of fields; every command runs atomically.

A command's outcome, as go-redis hands it back, is its reply, `redis.Nil` for a nil reply
(a key or field that is not there), or another error: an error reply of the server, or a
transport failure on the way. Times to live are left out: no key expires during the runs
we consider.

`stringMatch` follows `stringmatchlen` of Redis (`util.c`): `*`, `?`, classes `[...]` with
ranges and `^`, and `\` escapes, over the characters of the key.
-/

namespace MsaCore
namespace Redis

/-- What a key holds. -/
inductive Value where
  | str (s : String)
  | hash (fields : Finmap fun _ : String => String)

/-- The key space. -/
abbrev Keyspace := Finmap fun _ : String => Value

/-- The errors a go-redis command returns: `redis.Nil`, or any other error. -/
inductive RedisError where
  | nil
  | other (msg : String)
  deriving DecidableEq

/-- A command's outcome at the client. -/
abbrev Cmd (α : Type) := Except RedisError α

/-- The error reply to a command on a key of the other type. -/
def wrongType : RedisError := .other "WRONGTYPE Operation against a key holding the wrong kind of value"

/-! ## Commands -/

/-- `GET`. -/
def get (ks : Keyspace) (key : String) : Cmd String :=
  match ks.lookup key with
  | none => .error .nil
  | some (.str s) => .ok s
  | some (.hash _) => .error wrongType

/-- `SET`: the key holds the string, whatever it held before. -/
def set (ks : Keyspace) (key val : String) : Keyspace := ks.insert key (.str val)

/-- `DEL`: the number of keys removed. -/
def del (ks : Keyspace) (key : String) : Int × Keyspace :=
  (if key ∈ ks then 1 else 0, ks.erase key)

/-- `GETDEL`: `GET`, and the key removed when it held a string. -/
def getDel (ks : Keyspace) (key : String) : Cmd String × Keyspace :=
  match get ks key with
  | .ok s => (.ok s, ks.erase key)
  | r => (r, ks)

/-- `HGET`. -/
def hget (ks : Keyspace) (key field : String) : Cmd String :=
  match ks.lookup key with
  | none => .error .nil
  | some (.hash h) => (h.lookup field).elim (.error .nil) .ok
  | some (.str _) => .error wrongType

theorem get_eq_nil_iff {ks : Keyspace} {key : String} : get ks key = .error .nil ↔ key ∉ ks := by
  rw [← Finmap.lookup_eq_none]
  unfold get
  split <;> simp_all [wrongType]

theorem hget_eq_nil_iff {ks : Keyspace} {key field : String} :
    hget ks key field = .error .nil ↔
      ks.lookup key = none ∨ ∃ h, ks.lookup key = some (.hash h) ∧ h.lookup field = none := by
  unfold hget
  cases hk : ks.lookup key with
  | none => simp
  | some v =>
    cases v with
    | str => simp [wrongType]
    | hash h => cases hf : h.lookup field <;> simp [hf]

@[simp] theorem get_set (ks : Keyspace) (key val : String) : get (set ks key val) key = .ok val := by
  simp [get, set]

@[simp] theorem get_erase (ks : Keyspace) (key : String) : get (ks.erase key) key = .error .nil :=
  get_eq_nil_iff.mpr Finmap.not_mem_erase_self

/-- `GETDEL` either finds a string, which it returns and removes, or changes nothing. -/
theorem getDel_cases (ks : Keyspace) (key : String) :
    (∃ s, get ks key = .ok s ∧ getDel ks key = (.ok s, ks.erase key)) ∨
      ((∀ s, get ks key ≠ .ok s) ∧ getDel ks key = (get ks key, ks)) := by
  unfold getDel
  split
  · next s h => exact .inl ⟨s, h, rfl⟩
  · next r h => exact .inr ⟨fun s hs => h s hs, rfl⟩

/-! ## Glob matching -/

/-- A class `[...]` opens with `^` when it is negated. -/
def classBody : List Char → Bool × List Char
  | '^' :: q => (true, q)
  | q => (false, q)

/-- A range `a-b` of a class, taken in either order. -/
def inRange (a b c : Char) : Bool :=
  if a ≤ b then decide (a ≤ c ∧ c ≤ b) else decide (b ≤ c ∧ c ≤ a)

/-- The body of a class read against the character `c`: whether `c` is in it, and the
pattern after its closing `]`. An unterminated class runs to the end of the pattern. -/
def matchClass (c : Char) : List Char → Bool → Bool × List Char
  | '\\' :: x :: p, m => matchClass c p (m || x == c)
  | ']' :: p, m => (m, p)
  | [], m => (m, [])
  | a :: '-' :: b :: p, m => matchClass c p (m || inRange a b c)
  | a :: p, m => matchClass c p (m || a == c)

theorem matchClass_length (c : Char) (p : List Char) (m : Bool) :
    (matchClass c p m).2.length ≤ p.length := by
  induction p, m using matchClass.induct c <;> simp only [matchClass, List.length_cons] <;> omega

theorem classBody_length (p : List Char) : (classBody p).2.length ≤ p.length := by
  unfold classBody; split <;> simp

/-- After a pattern character consumed the last character of the key, only stars may be left. -/
def afterChar (p s : List Char) (rest : Bool) : Bool :=
  if s.isEmpty then p.all (· == '*') else rest

/-- `stringmatchlen`: whether the key `s` matches the pattern `p`. A star tries every
non-empty rest of the key; an empty key matches only the empty pattern. -/
def stringMatch : List Char → List Char → Bool
  | [], s => s.isEmpty
  | _ :: _, [] => false
  | a :: p, c :: s =>
    if a = '*' then
      if p.head? = some '*' then stringMatch p (c :: s)
      else if p = [] then true
      else stringMatch p (c :: s) || stringMatch (a :: p) s
    else if a = '?' then afterChar p s (stringMatch p s)
    else if a = '[' then
      let r := matchClass c (classBody p).2 false
      r.1 != (classBody p).1 && afterChar r.2 s (stringMatch r.2 s)
    else if a = '\\' ∧ p ≠ [] then p.head? == some c && afterChar p.tail s (stringMatch p.tail s)
    else a == c && afterChar p s (stringMatch p s)
termination_by p s => p.length + s.length
decreasing_by
  all_goals simp_wf
  all_goals try omega
  have h1 := matchClass_length c (classBody p).2 false
  have h2 := classBody_length p
  omega

/-- The characters `stringmatchlen` reads as pattern syntax. -/
def globMeta (c : Char) : Bool := c == '*' || c == '?' || c == '[' || c == '\\'

/-- A literal character of the pattern matches itself and nothing else. -/
theorem stringMatch_literal {a c : Char} (ha : globMeta a = false) (p s : List Char) :
    stringMatch (a :: p) (c :: s) = (a == c && afterChar p s (stringMatch p s)) := by
  simp only [globMeta, Bool.or_eq_false_iff, beq_eq_false_iff_ne] at ha
  simp [stringMatch, ha.1.1.1, ha.1.1.2, ha.1.2, ha.2]

/-- A literal followed by `*` matches exactly the keys that start with the literal. -/
theorem stringMatch_literal_star {l : List Char} (hl : l ≠ []) (hm : ∀ c ∈ l, globMeta c = false)
    (s : List Char) : stringMatch (l ++ ['*']) s = l.isPrefixOf s := by
  induction l generalizing s with
  | nil => exact absurd rfl hl
  | cons a l ih =>
    cases s with
    | nil => simp [stringMatch]
    | cons c s =>
      rw [List.cons_append, stringMatch_literal (hm a (List.mem_cons_self a l)), List.isPrefixOf]
      cases l with
      | nil => cases s <;> simp [afterChar, stringMatch]
      | cons b l =>
        have hb := hm b (List.mem_cons_of_mem a (List.mem_cons_self b l))
        have ih' := ih (List.cons_ne_nil b l) (fun x hx => hm x (List.mem_cons_of_mem a hx)) s
        cases s with
        | nil =>
          simp only [globMeta, Bool.or_eq_false_iff, beq_eq_false_iff_ne] at hb
          simp [afterChar, List.isPrefixOf, hb.1.1.1]
        | cons d s =>
          simp only [afterChar, List.isEmpty_cons, Bool.false_eq_true, if_false]
          rw [ih']

/-- `SCAN 0 MATCH pattern` iterated to the end over a key space that does not change: every
key that matches, each once. The order is unspecified. -/
def scan (ks : Keyspace) (pattern : List Char) : Multiset String :=
  ks.keys.val.filter fun k => stringMatch pattern k.toList

theorem mem_scan {ks : Keyspace} {pattern : List Char} {k : String} :
    k ∈ scan ks pattern ↔ k ∈ ks ∧ stringMatch pattern k.toList := by
  simp [scan, Finmap.mem_keys]

end Redis
end MsaCore
