import Mathlib.Data.List.Basic

/-!
# JSON values, `json.Marshal` and a JSON decoder

The JSON values a Go program passes around as `interface{}`: `nil`, `bool`, `float64`,
`string`, `[]interface{}` and `map[string]interface{}`, with the text `json.Marshal` writes
for each, and a decoder for that text as RFC 8259 and `encoding/json` accept it.

A number is the shortest decimal that reads back as its `float64`, `mantissa × 10 ^ exponent`
with no trailing zero in the mantissa (`Decimal`); there is no negative zero. `floatEncoder`
writes it with `strconv`'s `%f` when it is zero or `1e-6 ≤ |x| < 1e21`, and with `%e`
otherwise, cleaning an exponent `e-0d` to `e-d`. In `strconv`'s terms the number is
`0.d₁d₂…dₙ × 10 ^ point` with `d₁ ≠ 0`, so it lies in `[10 ^ (point - 1), 10 ^ point)`: the
thresholds are `point ≤ -6` and `22 ≤ point`. The exponent is written with at least two digits,
as `fmtE` writes the exponents of a `float64`. The decoder reads the exact decimal a text
spells, which is the `float64` `strconv.ParseFloat` reads for every text the writer writes. An
object's fields are in the order `json.Marshal` writes them (sorted by key for a Go map).

Strings are written as `encodeState.string` writes them with HTML escaping on, as
`json.Marshal` does: `\"`, `\\`, the short escapes Go 1.22 writes for `\b \f \n \r \t`,
`\u00XX` for the other control characters and for `< > &`, and `\u2028`, `\u2029` for
U+2028 and U+2029. The decoder reads every escape RFC 8259 allows, joins a UTF-16 surrogate
pair into one character and reads a lone surrogate as U+FFFD, as `unquote` of
`encoding/json` does.

Texts are lists of characters; the bytes on the wire are their UTF-8 encoding. The decoder
is driven by fuel, one unit per level of nesting or element read; the length of the text is
enough.
-/

namespace MsaCore
namespace Json

/-- A number as the shortest decimal of its `float64`: `mantissa × 10 ^ exponent`, the
mantissa with no trailing zero, and zero as `0 × 10 ^ 0`. -/
@[ext]
structure Decimal where
  mantissa : Int
  exponent : Int
  shortest : mantissa.natAbs % 10 ≠ 0 ∨ (mantissa = 0 ∧ exponent = 0)
  deriving Repr

/-- A JSON value. -/
inductive Value where
  | null
  | bool (b : Bool)
  | num (x : Decimal)
  | str (s : String)
  | arr (items : List Value)
  | obj (fields : List (String × Value))
  deriving Repr

/-- Whether a value is a string. -/
def Value.isStr : Value → Bool
  | .str _ => true
  | _ => false

/-! ## Writing -/

/-- The escape `encodeState.string` writes for one character. -/
def escapeChar (c : Char) : List Char :=
  if c = '\\' ∨ c = '"' then ['\\', c]
  else if c = '\x08' then ['\\', 'b']
  else if c = '\x0c' then ['\\', 'f']
  else if c = '\n' then ['\\', 'n']
  else if c = '\r' then ['\\', 'r']
  else if c = '\t' then ['\\', 't']
  else if c.toNat < 0x20 ∨ c = '<' ∨ c = '>' ∨ c = '&' then
    ['\\', 'u', '0', '0', Nat.digitChar (c.toNat / 16), Nat.digitChar (c.toNat % 16)]
  else if c = '\u2028' ∨ c = '\u2029' then ['\\', 'u', '2', '0', '2', Nat.digitChar (c.toNat % 16)]
  else [c]

/-- A string in quotes, each character escaped. -/
def encodeString (s : List Char) : List Char :=
  '"' :: s.flatMap escapeChar ++ ['"']

/-- The digits of `strconv`'s shortest decimal of a number: those of its mantissa, none for
zero. -/
def Decimal.digits (x : Decimal) : List Char :=
  if x.mantissa = 0 then [] else Nat.toDigits 10 x.mantissa.natAbs

/-- `strconv`'s decimal point: the number is `0.d₁d₂…dₙ × 10 ^ point`, the `dᵢ` its digits. -/
def Decimal.point (x : Decimal) : Int := x.digits.length + x.exponent

/-- `fmtF` at the shortest precision `max (n - point) 0`: the sign, the integer part (the
digits before the point, padded with zeros, or `0`), then a point and the fraction when some
digit lies after the point. -/
def fmtF (neg : Bool) (d : List Char) (dp : Int) : List Char :=
  let intPart :=
    if dp > 0 then d.take dp.toNat ++ List.replicate (dp.toNat - d.length) '0' else ['0']
  let frac := if dp < 0 then List.replicate (-dp).toNat '0' ++ d else d.drop dp.toNat
  (if neg then ['-'] else []) ++ intPart ++ if (d.length : Int) > dp then '.' :: frac else []

/-- The digits `fmtE` writes for the size of an exponent: `0d` below ten, then all of them
(`dd` or `ddd` for the exponents of a `float64`). -/
def expDigits (exp : Nat) : List Char :=
  if exp < 10 then '0' :: Nat.toDigits 10 exp else Nat.toDigits 10 exp

/-- `fmtE` at the shortest precision `n - 1`: the sign, the first digit, a point and the other
digits when there are any, then `e`, the sign of the exponent `point - 1` and its digits. -/
def fmtE (neg : Bool) (d : List Char) (dp : Int) : List Char :=
  let exp := if d = [] then 0 else dp - 1
  (if neg then ['-'] else []) ++ d.headD '0' :: (if d.length > 1 then '.' :: d.tail else []) ++
    'e' :: (if exp < 0 then '-' else '+') :: expDigits exp.natAbs

/-- The clean-up `floatEncoder` makes after `%e`: a text ending in `e-0d` ends in `e-d`. -/
def cleanExp (b : List Char) : List Char :=
  match b.reverse with
  | c :: z :: m :: e :: rest =>
    if e = 'e' ∧ m = '-' ∧ z = '0' then (c :: m :: e :: rest).reverse else b
  | _ => b

/-- `floatEncoder.encode` for the `float64` whose shortest decimal is `x`: `%f` for zero and
for `1e-6 ≤ |x| < 1e21`, `%e` cleaned otherwise. -/
def encodeNumber (x : Decimal) : List Char :=
  if x.mantissa ≠ 0 ∧ (x.point ≤ -6 ∨ 22 ≤ x.point) then
    cleanExp (fmtE (x.mantissa < 0) x.digits x.point)
  else fmtF (x.mantissa < 0) x.digits x.point

mutual
/-- `json.Marshal`: the text of a value. -/
def encode : Value → List Char
  | .null => ['n', 'u', 'l', 'l']
  | .bool true => ['t', 'r', 'u', 'e']
  | .bool false => ['f', 'a', 'l', 's', 'e']
  | .num x => encodeNumber x
  | .str s => encodeString s.data
  | .arr [] => ['[', ']']
  | .arr (v :: vs) => '[' :: encode v ++ encodeElems vs
  | .obj [] => ['{', '}']
  | .obj (f :: fs) => '{' :: encodeMember f ++ encodeFields fs
/-- The elements of an array after its first, and the closing bracket. -/
def encodeElems : List Value → List Char
  | [] => [']']
  | v :: vs => ',' :: encode v ++ encodeElems vs
/-- One field of an object: its key, a colon and its value. -/
def encodeMember : String × Value → List Char
  | (k, v) => encodeString k.data ++ ':' :: encode v
/-- The fields of an object after its first, and the closing brace. -/
def encodeFields : List (String × Value) → List Char
  | [] => ['}']
  | f :: fs => ',' :: encodeMember f ++ encodeFields fs
end

/-! ## Reading -/

/-- The whitespace JSON allows between tokens. -/
def isWs (c : Char) : Bool := c = ' ' || c = '\t' || c = '\n' || c = '\r'

/-- The text after any whitespace. -/
def skipWs (cs : List Char) : List Char := cs.dropWhile isWs

theorem skipWs_cons {c : Char} (h : isWs c = false) (cs : List Char) :
    skipWs (c :: cs) = c :: cs := by
  simp [skipWs, h]

/-- The value of a hexadecimal digit, in either case. -/
def hexVal (c : Char) : Option Nat :=
  if '0' ≤ c ∧ c ≤ '9' then some (c.toNat - 48)
  else if 'a' ≤ c ∧ c ≤ 'f' then some (c.toNat - 87)
  else if 'A' ≤ c ∧ c ≤ 'F' then some (c.toNat - 55)
  else none

/-- The code unit of the four hexadecimal digits of a `\u` escape. -/
def hex4 (a b c d : Char) : Option Nat := do
  let a ← hexVal a
  let b ← hexVal b
  let c ← hexVal c
  let d ← hexVal d
  pure (((a * 16 + b) * 16 + c) * 16 + d)

/-- The character of a one-letter escape. -/
def simpleEscape : Char → Option Char
  | '"' => some '"'
  | '\\' => some '\\'
  | '/' => some '/'
  | 'b' => some '\x08'
  | 'f' => some '\x0c'
  | 'n' => some '\n'
  | 'r' => some '\r'
  | 't' => some '\t'
  | _ => none

/-- The character of a UTF-16 surrogate pair. -/
def surrogatePair (hi lo : Nat) : Char :=
  Char.ofNat (0x10000 + (hi - 0xD800) * 0x400 + (lo - 0xDC00))

/-- The character of a `\u` escape that is not half of a pair: U+FFFD for a surrogate. -/
def unitChar (n : Nat) : Char :=
  if 0xD800 ≤ n ∧ n < 0xE000 then '\ufffd' else Char.ofNat n

/-- A character read in front of the rest of a string body. -/
def consChar (c : Char) : Option (List Char × List Char) → Option (List Char × List Char) :=
  Option.map fun p => (c :: p.1, p.2)

theorem consChar_eq_some {c : Char} {o : Option (List Char × List Char)} {s r : List Char}
    (h : consChar c o = some (s, r)) : ∃ s', o = some (s', r) ∧ s.length = s'.length + 1 := by
  obtain ⟨⟨s', r'⟩, ho, he⟩ := Option.map_eq_some'.mp h
  obtain ⟨rfl, rfl⟩ := Prod.mk.inj he
  exact ⟨s', ho, rfl⟩

/-- A high surrogate left waiting when what follows is not its low half reads as U+FFFD. -/
def flushPending : Option Nat → Option (List Char × List Char) → Option (List Char × List Char)
  | some _, r => consChar '\ufffd' r
  | none, r => r

theorem flushPending_eq_some {p : Option Nat} {o : Option (List Char × List Char)} {s r : List Char}
    (h : flushPending p o = some (s, r)) :
    ∃ s', o = some (s', r) ∧ s.length = s'.length + p.isSome.toNat := by
  cases p with
  | none => exact ⟨s, h, rfl⟩
  | some _ => exact consChar_eq_some h

/-- The characters of a string body up to its closing quote, and the text after it. Raw
control characters are refused. `pending` is a high surrogate read by the `\u` escape just
before, which joins the low surrogate of a `\u` escape right after it into one character;
`unquote` looks ahead for that second escape, and we carry the first one forward instead. -/
def parseStrBody : Option Nat → List Char → Option (List Char × List Char)
  | _, [] => none
  | pending, c :: rest =>
    if c = '"' then flushPending pending (some ([], rest))
    else if c = '\\' then
      match rest with
      | e :: rest =>
        if e = 'u' then
          match rest with
          | h1 :: h2 :: h3 :: h4 :: rest =>
            (hex4 h1 h2 h3 h4).bind fun n =>
              let alone :=
                if 0xD800 ≤ n ∧ n < 0xDC00 then parseStrBody (some n) rest
                else consChar (unitChar n) (parseStrBody none rest)
              match pending with
              | some hi =>
                if 0xDC00 ≤ n ∧ n < 0xE000 then
                  consChar (surrogatePair hi n) (parseStrBody none rest)
                else consChar '\ufffd' alone
              | none => alone
          | _ => none
        else
          flushPending pending ((simpleEscape e).bind fun c => consChar c (parseStrBody none rest))
      | [] => none
    else flushPending pending (if c.toNat < 0x20 then none else consChar c (parseStrBody none rest))

/-! ### A string body, one token at a time -/

theorem parseStrBody_quote (p : Option Nat) (rest : List Char) :
    parseStrBody p ('"' :: rest) = flushPending p (some ([], rest)) := by
  conv_lhs => unfold parseStrBody
  simp

theorem parseStrBody_escape (p : Option Nat) {e : Char} (he : e ≠ 'u') (rest : List Char) :
    parseStrBody p ('\\' :: e :: rest) =
      flushPending p ((simpleEscape e).bind fun c => consChar c (parseStrBody none rest)) := by
  conv_lhs => unfold parseStrBody
  simp [he]

theorem parseStrBody_plain (p : Option Nat) {c : Char} (h1 : c ≠ '"') (h2 : c ≠ '\\')
    (rest : List Char) :
    parseStrBody p (c :: rest) =
      flushPending p (if c.toNat < 0x20 then none else consChar c (parseStrBody none rest)) := by
  conv_lhs => unfold parseStrBody
  simp [h1, h2]

theorem parseStrBody_unicode_none (h1 h2 h3 h4 : Char) (rest : List Char) :
    parseStrBody none ('\\' :: 'u' :: h1 :: h2 :: h3 :: h4 :: rest) =
      (hex4 h1 h2 h3 h4).bind fun n =>
        if 0xD800 ≤ n ∧ n < 0xDC00 then parseStrBody (some n) rest
        else consChar (unitChar n) (parseStrBody none rest) := by
  conv_lhs => unfold parseStrBody
  simp

theorem parseStrBody_unicode_some (hi : Nat) (h1 h2 h3 h4 : Char) (rest : List Char) :
    parseStrBody (some hi) ('\\' :: 'u' :: h1 :: h2 :: h3 :: h4 :: rest) =
      (hex4 h1 h2 h3 h4).bind fun n =>
        if 0xDC00 ≤ n ∧ n < 0xE000 then consChar (surrogatePair hi n) (parseStrBody none rest)
        else consChar '\ufffd'
          (if 0xD800 ≤ n ∧ n < 0xDC00 then parseStrBody (some n) rest
          else consChar (unitChar n) (parseStrBody none rest)) := by
  conv_lhs => unfold parseStrBody
  simp

/-- The value of a run of decimal digits. -/
def digitsValue (ds : List Char) : Nat :=
  ds.foldl (fun n d => 10 * n + (d.toNat - 48)) 0

/-- The digits of the integer part of a number: `0`, or a digit other than `0` and the
digits after it. -/
def parseIntPart : List Char → Option (List Char × List Char)
  | c :: rest =>
    if c = '0' then some (['0'], rest)
    else if c.isDigit then some (c :: rest.takeWhile Char.isDigit, rest.dropWhile Char.isDigit)
    else none
  | [] => none

/-- The digits of the fraction of a number, none when there is no fraction. -/
def parseFrac : List Char → Option (List Char × List Char)
  | c :: rest =>
    if c = '.' then
      let ds := rest.takeWhile Char.isDigit
      if ds = [] then none else some (ds, rest.dropWhile Char.isDigit)
    else some ([], c :: rest)
  | [] => some ([], [])

/-- A leading sign among those allowed: whether it is `-`, and the text after it. -/
def parseSign (signs : List Char) : List Char → Bool × List Char
  | c :: rest => if c ∈ signs then (c = '-', rest) else (false, c :: rest)
  | [] => (false, [])

/-- The exponent of a number, if any. -/
def parseExp : List Char → Option (Int × List Char)
  | c :: rest =>
    if c = 'e' ∨ c = 'E' then
      let (neg, rest) := parseSign ['-', '+'] rest
      let ds := rest.takeWhile Char.isDigit
      if ds = [] then none
      else
        some (if neg then -(digitsValue ds : Int) else digitsValue ds,
          rest.dropWhile Char.isDigit)
    else some (0, c :: rest)
  | [] => some (0, [])

/-- The mantissa `n` and exponent `e` with the trailing zeros of `n` moved into the exponent,
`fuel` of them at most. -/
def stripZeros : Nat → Nat → Int → Nat × Int
  | 0, n, e => (n, e)
  | fuel + 1, n, e => if n ≠ 0 ∧ n % 10 = 0 then stripZeros fuel (n / 10) (e + 1) else (n, e)

/-- With as much fuel as the mantissa, no trailing zero is left. -/
theorem stripZeros_shortest (fuel n : Nat) (e : Int) (h : n ≤ fuel) :
    (stripZeros fuel n e).1 % 10 ≠ 0 ∨ (stripZeros fuel n e).1 = 0 := by
  induction fuel generalizing n e with
  | zero => exact .inr (Nat.le_zero.mp h)
  | succ fuel ih =>
    simp only [stripZeros]
    split_ifs with hz
    · exact ih _ _ (by omega)
    · omega

/-- The number a text spells with the sign `neg`, digits of value `n` and exponent `e`. -/
def Decimal.ofDigits (neg : Bool) (n : Nat) (e : Int) : Decimal :=
  if h : (stripZeros n n e).1 = 0 then ⟨0, 0, .inr ⟨rfl, rfl⟩⟩
  else
    ⟨if neg then -((stripZeros n n e).1 : Int) else (stripZeros n n e).1, (stripZeros n n e).2,
      .inl (by cases neg <;> simpa using (stripZeros_shortest n n e le_rfl).resolve_right h)⟩

/-- A number: an optional minus sign, the integer part, a fraction and an exponent. It is the
value of all its digits, each digit of the fraction lowering the exponent. -/
def parseNumber (cs : List Char) : Option (Value × List Char) := do
  let (neg, cs) := parseSign ['-'] cs
  let (ds, cs) ← parseIntPart cs
  let (fs, cs) ← parseFrac cs
  let (e, cs) ← parseExp cs
  pure (.num (Decimal.ofDigits neg (digitsValue (ds ++ fs)) (e - fs.length)), cs)

/-- A number is read as a number. -/
theorem parseNumber_eq_some {cs r : List Char} {x : Value} (h : parseNumber cs = some (x, r)) :
    ∃ d, x = .num d := by
  simp only [parseNumber, bind, Option.bind_eq_some] at h
  obtain ⟨_, _, _, _, _, _, h⟩ := h
  exact ⟨_, (Prod.mk.inj (Option.some.inj h)).1.symm⟩

/-- A literal `null`, `true` or `false`, its first letter read. -/
def parseWord (word : List Char) (v : Value) (cs : List Char) : Option (Value × List Char) :=
  if word.isPrefixOf cs then some (v, cs.drop word.length) else none

theorem parseWord_eq_some {word cs r : List Char} {v x : Value}
    (h : parseWord word v cs = some (x, r)) : x = v := by
  unfold parseWord at h
  split at h
  · exact (Prod.mk.inj (Option.some.inj h)).1.symm
  · cases h

mutual
/-- A value, after any whitespace, and the text after it. -/
def parseValue : Nat → List Char → Option (Value × List Char)
  | 0, _ => none
  | fuel + 1, cs =>
    match skipWs cs with
    | [] => none
    | c :: rest =>
      if c = 'n' then parseWord ['u', 'l', 'l'] .null rest
      else if c = 't' then parseWord ['r', 'u', 'e'] (.bool true) rest
      else if c = 'f' then parseWord ['a', 'l', 's', 'e'] (.bool false) rest
      else if c = '"' then (parseStrBody none rest).map fun p => (.str ⟨p.1⟩, p.2)
      else if c = '[' then
        if (skipWs rest).head? = some ']' then some (.arr [], (skipWs rest).tail)
        else do
          let (v, r) ← parseValue fuel rest
          let (vs, r) ← parseElems fuel r
          pure (.arr (v :: vs), r)
      else if c = '{' then
        if (skipWs rest).head? = some '}' then some (.obj [], (skipWs rest).tail)
        else do
          let (f, r) ← parseMember fuel rest
          let (fs, r) ← parseFields fuel r
          pure (.obj (f :: fs), r)
      else parseNumber (c :: rest)
/-- The elements of an array after its first, up to the closing bracket. -/
def parseElems : Nat → List Char → Option (List Value × List Char)
  | 0, _ => none
  | fuel + 1, cs =>
    match skipWs cs with
    | [] => none
    | c :: r =>
      if c = ']' then some ([], r)
      else if c = ',' then do
        let (v, r) ← parseValue fuel r
        let (vs, r) ← parseElems fuel r
        pure (v :: vs, r)
      else none
/-- One field of an object: its key, a colon and its value. -/
def parseMember : Nat → List Char → Option ((String × Value) × List Char)
  | 0, _ => none
  | fuel + 1, cs =>
    match skipWs cs with
    | [] => none
    | c :: rest =>
      if c = '"' then do
        let (k, r) ← parseStrBody none rest
        match skipWs r with
        | [] => none
        | c :: r =>
          if c = ':' then (parseValue fuel r).map fun p => ((⟨k⟩, p.1), p.2)
          else none
      else none
/-- The fields of an object after its first, up to the closing brace. -/
def parseFields : Nat → List Char → Option (List (String × Value) × List Char)
  | 0, _ => none
  | fuel + 1, cs =>
    match skipWs cs with
    | [] => none
    | c :: r =>
      if c = '}' then some ([], r)
      else if c = ',' then do
        let (f, r) ← parseMember fuel r
        let (fs, r) ← parseFields fuel r
        pure (f :: fs, r)
      else none
end

/-- `json.Unmarshal` into an `interface{}`: one value, with nothing but whitespace after it. -/
def decode (text : List Char) : Option Value :=
  match parseValue (text.length + 1) text with
  | some (v, rest) => if skipWs rest = [] then some v else none
  | none => none

end Json
end MsaCore
