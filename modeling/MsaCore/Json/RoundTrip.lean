import MsaCore.Json.Value
import Mathlib.Tactic.Ring
import Mathlib.Tactic.Positivity
import Mathlib.Algebra.Order.Field.Rat
import Mathlib.Algebra.Order.Field.Power

/-!
# The JSON round trip

The decoder reads back every text `encode` writes: `decode (encode v) = some v` for every
value `v`. The proof follows the writer: the digits of `Nat.toDigits`, the escape of one
character, then the value, the elements of an array and the fields of an object together,
by induction on the fuel. A number must not be followed by a character that would continue
it; the writer only ever puts `,`, `]`, `}` or the end of the text after one.

A number is read back in each of the shapes `floatEncoder` writes: `0.00ddd`, `dd.ddd` and
`ddd00` for `%f`, and `d.ddde±xx` for `%e`, whose exponent keeps its value through the clean-up
(`parseNumber_encodeNumber`). The reader finds the same digits and the same value of the
point, and its normal form strips the zeros `%f` pads an integer with.

A decoded string is shorter than the text it was read from: a text that holds the characters
of a string and nothing else never decodes to that string.
-/

namespace MsaCore
namespace Json

/-! ## Digits -/

theorem digitChar_isDigit : ∀ d, d < 10 → (Nat.digitChar d).isDigit = true := by decide

theorem digitChar_toNat : ∀ d, d < 10 → (Nat.digitChar d).toNat = 48 + d := by decide

theorem digitsValue_append_singleton (ds : List Char) (c : Char) :
    digitsValue (ds ++ [c]) = 10 * digitsValue ds + (c.toNat - 48) := by
  simp [digitsValue, List.foldl_append]

/-- What `Nat.toDigitsCore` puts in front of its accumulator, given enough fuel: decimal
digits, with no leading zero unless the number is zero, whose value is the number. -/
theorem toDigitsCore_eq (fuel n : Nat) (ds : List Char) (h : n < fuel) :
    ∃ P, Nat.toDigitsCore 10 fuel n ds = P ++ ds ∧ P ≠ [] ∧ (∀ c ∈ P, c.isDigit = true) ∧
      digitsValue P = n ∧ (P.head? = some '0' → n = 0) := by
  induction fuel generalizing n ds with
  | zero => omega
  | succ fuel ih =>
    have hd := digitChar_isDigit (n % 10) (Nat.mod_lt _ (by omega))
    have hv := digitChar_toNat (n % 10) (Nat.mod_lt _ (by omega))
    have hstep : Nat.toDigitsCore 10 (fuel + 1) n ds =
        if n / 10 = 0 then Nat.digitChar (n % 10) :: ds
        else Nat.toDigitsCore 10 fuel (n / 10) (Nat.digitChar (n % 10) :: ds) := rfl
    rw [hstep]
    split
    · next h0 =>
      refine ⟨[Nat.digitChar (n % 10)], rfl, by simp, by simpa using hd, ?_, fun h' => ?_⟩
      · simp only [digitsValue, List.foldl_cons, List.foldl_nil, hv]; omega
      · have h48 : '0'.toNat = 48 := rfl
        have := congrArg Char.toNat (Option.some.inj h')
        omega
    · next h0 =>
      obtain ⟨P, hP, hne, hdig, hval, hhead⟩ :=
        ih (n / 10) (Nat.digitChar (n % 10) :: ds) (by omega)
      refine ⟨P ++ [Nat.digitChar (n % 10)], by simp [hP], by simp, ?_, ?_, fun h' => ?_⟩
      · simpa [or_imp, forall_and] using ⟨hdig, hd⟩
      · rw [digitsValue_append_singleton, hval, hv]; omega
      · obtain ⟨c, P, rfl⟩ := List.exists_cons_of_ne_nil hne
        exact absurd (hhead h') h0

/-- `Nat.toDigits 10 n`: decimal digits, no leading zero unless `n = 0`, of value `n`. -/
theorem toDigits_spec (n : Nat) :
    ∃ c cs, Nat.toDigits 10 n = c :: cs ∧ (∀ d ∈ c :: cs, d.isDigit = true) ∧
      digitsValue (c :: cs) = n ∧ (c = '0' → n = 0) := by
  obtain ⟨P, hP, hne, hdig, hval, hhead⟩ := toDigitsCore_eq (n + 1) n [] (by omega)
  obtain ⟨c, cs, rfl⟩ := List.exists_cons_of_ne_nil hne
  exact ⟨c, cs, hP.trans (List.append_nil _), hdig, hval, fun h => hhead (by simp [h])⟩

/-- The decimal digits of a number read back as that number. -/
theorem digitsValue_toDigits (n : Nat) : digitsValue (Nat.toDigits 10 n) = n := by
  obtain ⟨c, cs, h, -, hv, -⟩ := toDigits_spec n
  rw [h, hv]

/-- A text that does not start with a digit. -/
def NoDigitHead (r : List Char) : Prop := ∀ c ∈ r.head?, c.isDigit = false

theorem takeWhile_append_of_noDigitHead {ds r : List Char} (hd : ∀ c ∈ ds, c.isDigit = true)
    (hr : NoDigitHead r) :
    (ds ++ r).takeWhile Char.isDigit = ds ∧ (ds ++ r).dropWhile Char.isDigit = r := by
  rw [List.takeWhile_append_of_pos hd, List.dropWhile_append_of_pos hd]
  cases r with
  | nil => simp
  | cons c r => simp [hr c rfl]

theorem noDigitHead_cons (c : Char) (h : c.isDigit = false) (r : List Char) :
    NoDigitHead (c :: r) := fun _ hc => Option.some.inj hc ▸ h

/-- The value of appended digits. -/
theorem digitsValue_append (a b : List Char) :
    digitsValue (a ++ b) = digitsValue a * 10 ^ b.length + digitsValue b := by
  suffices h : ∀ n, b.foldl (fun n d => 10 * n + (d.toNat - 48)) n =
      n * 10 ^ b.length + digitsValue b by
    rw [digitsValue, List.foldl_append, h]; rfl
  induction b with
  | nil => simp [digitsValue]
  | cons c b ih =>
    intro n
    simp only [digitsValue, List.foldl_cons, List.length_cons] at ih ⊢
    rw [ih, ih (10 * 0 + _)]
    ring

theorem digitsValue_replicate_zero (k : Nat) : digitsValue (List.replicate k '0') = 0 := by
  induction k with
  | zero => rfl
  | succ k ih => rw [List.replicate_succ', digitsValue_append_singleton, ih]; rfl

/-- Zeros in front of digits do not change their value. -/
theorem digitsValue_zeros_append (k : Nat) (ds : List Char) :
    digitsValue (List.replicate k '0' ++ ds) = digitsValue ds := by
  rw [digitsValue_append, digitsValue_replicate_zero, Nat.zero_mul, Nat.zero_add]

theorem isDigit_toNat {c : Char} (h : c.isDigit = true) : 48 ≤ c.toNat ∧ c.toNat ≤ 57 := by
  simp only [Char.isDigit, Bool.and_eq_true, decide_eq_true_eq] at h
  exact ⟨h.1, h.2⟩

theorem isDigit_append {a b : List Char} (ha : ∀ d ∈ a, d.isDigit = true)
    (hb : ∀ d ∈ b, d.isDigit = true) : ∀ d ∈ a ++ b, d.isDigit = true := fun d h =>
  (List.mem_append.mp h).elim (ha d) (hb d)

theorem isDigit_replicate_zero (k : Nat) : ∀ d ∈ List.replicate k '0', d.isDigit = true :=
  fun d h => by rw [List.eq_of_mem_replicate h]; rfl

/-- The digits of a nonzero number: a first digit other than `0`, then digits. -/
theorem toDigits_of_ne_zero {n : Nat} (hn : n ≠ 0) :
    ∃ c cs, Nat.toDigits 10 n = c :: cs ∧ c.isDigit = true ∧ c ≠ '0' ∧
      (∀ d ∈ cs, d.isDigit = true) ∧ digitsValue (c :: cs) = n := by
  obtain ⟨c, cs, h, hdig, hv, hz⟩ := toDigits_spec n
  exact ⟨c, cs, h, hdig c (.head cs), fun h0 => hn (hz h0), fun d hd => hdig d (.tail c hd), hv⟩

theorem parseIntPart_zero (r : List Char) : parseIntPart ('0' :: r) = some (['0'], r) := by
  simp [parseIntPart]

theorem parseIntPart_digits {c : Char} {cs r : List Char} (hc : c.isDigit = true) (h0 : c ≠ '0')
    (hcs : ∀ d ∈ cs, d.isDigit = true) (hr : NoDigitHead r) :
    parseIntPart (c :: cs ++ r) = some (c :: cs, r) := by
  obtain ⟨ht, hd⟩ := takeWhile_append_of_noDigitHead hcs hr
  simp [parseIntPart, h0, hc, ht, hd]

/-! ## Numbers -/

/-- What may follow a number: nothing that would continue it. -/
def NumEnd (r : List Char) : Prop :=
  ∀ c ∈ r.head?, c.isDigit = false ∧ c ≠ '.' ∧ c ≠ 'e' ∧ c ≠ 'E'

theorem parseFrac_of_head {r : List Char} (h : ∀ c ∈ r.head?, c ≠ '.') :
    parseFrac r = some ([], r) := by
  cases r with
  | nil => rfl
  | cons c r => simp [parseFrac, h c rfl]

theorem parseFrac_digits {fs r : List Char} (hne : fs ≠ []) (hd : ∀ d ∈ fs, d.isDigit = true)
    (hr : NoDigitHead r) : parseFrac ('.' :: fs ++ r) = some (fs, r) := by
  obtain ⟨ht, hd'⟩ := takeWhile_append_of_noDigitHead hd hr
  simp [parseFrac, ht, hd', hne]

theorem parseExp_of_numEnd {r : List Char} (hr : NumEnd r) : parseExp r = some (0, r) := by
  cases r with
  | nil => rfl
  | cons c r =>
    obtain ⟨-, -, h1, h2⟩ := hr c rfl
    simp [parseExp, h1, h2]

theorem parseExp_digits (p : Prop) [Decidable p] {E r : List Char} (hne : E ≠ [])
    (hd : ∀ d ∈ E, d.isDigit = true) (hr : NoDigitHead r) :
    parseExp ('e' :: (if p then '-' else '+') :: (E ++ r)) =
      some (if p then -(digitsValue E : Int) else digitsValue E, r) := by
  obtain ⟨ht, hd'⟩ := takeWhile_append_of_noDigitHead hd hr
  by_cases hp : p <;> simp [parseExp, parseSign, hp, ht, hd', hne]

/-- A digit is not the minus sign. -/
theorem ne_minus_of_isDigit {c : Char} (h : c.isDigit = true) : c ≠ '-' := by
  rintro rfl; exact absurd h (by decide)

/-- The reader on a number text cut into its parts: the sign, the integer digits, what the
fraction reader takes, and what the exponent reader takes. -/
theorem parseNumber_parts (neg : Bool) (c : Char) (I Fp : List Char) {F rest r : List Char}
    {X : Int} (hc : c.isDigit = true)
    (hI : parseIntPart (c :: I ++ (Fp ++ rest)) = some (c :: I, Fp ++ rest))
    (hF : parseFrac (Fp ++ rest) = some (F, rest)) (hX : parseExp rest = some (X, r)) :
    parseNumber ((if neg then ['-'] else []) ++ c :: I ++ Fp ++ rest) =
      some (.num (Decimal.ofDigits neg (digitsValue (c :: I ++ F)) (X - F.length)), r) := by
  simp only [List.append_assoc, List.cons_append] at hI ⊢
  cases neg <;> simp [parseNumber, parseSign, ne_minus_of_isDigit hc, hI, hF, hX]

/-! ### Normal form -/

/-- Stripping the zeros of `n × 10 ^ k`, `n` ending in another digit, gives `n` back. -/
theorem stripZeros_mul_pow {n : Nat} (hn : n % 10 ≠ 0) (k fuel : Nat) (e : Int)
    (hk : k ≤ fuel) :
    stripZeros fuel (n * 10 ^ k) e = (n, e + k) := by
  induction k generalizing fuel e with
  | zero => cases fuel <;> simp [stripZeros, hn]
  | succ k ih =>
    obtain ⟨fuel, rfl⟩ : ∃ f, fuel = f + 1 := ⟨fuel - 1, by omega⟩
    have hm : n * 10 ^ (k + 1) = n * 10 ^ k * 10 := by rw [pow_succ, Nat.mul_assoc]
    have hne : n * 10 ^ k * 10 ≠ 0 := Nat.mul_ne_zero (Nat.mul_ne_zero (by omega) (by positivity))
      (by norm_num)
    rw [stripZeros, if_pos ⟨by rwa [hm], by rw [hm]; exact Nat.mul_mod_left _ _⟩, hm,
      Nat.mul_div_cancel _ (by norm_num), ih fuel _ (by omega)]
    congr 1; push_cast; ring

/-- The reader's normal form of a nonzero number's digits, followed by `k` zeros, with the
exponent lowered by `k`: the number itself. -/
theorem ofDigits_eq {x : Decimal} (hx : x.mantissa ≠ 0) {k : Nat} {e : Int}
    (he : e + k = x.exponent) :
    Decimal.ofDigits (x.mantissa < 0) (x.mantissa.natAbs * 10 ^ k) e = x := by
  have hn : x.mantissa.natAbs % 10 ≠ 0 := x.shortest.resolve_right fun h => hx h.1
  have hk : k ≤ x.mantissa.natAbs * 10 ^ k :=
    (Nat.lt_pow_self (by norm_num) k).le.trans (Nat.le_mul_of_pos_left _ (by omega))
  have hs := stripZeros_mul_pow hn k _ e hk
  have h1 : (stripZeros _ _ e).1 = x.mantissa.natAbs := congrArg Prod.fst hs
  rw [Decimal.ofDigits, dif_neg (by rw [h1]; omega)]
  ext
  · by_cases hm : x.mantissa < 0
    · simp only [h1, decide_eq_true_eq, if_pos hm]; omega
    · simp only [h1, decide_eq_true_eq, if_neg hm]; omega
  · simpa [hs] using he

/-- The reader's normal form of a nonzero number's digits: the number itself. -/
theorem ofDigits_self {x : Decimal} (hx : x.mantissa ≠ 0) {e : Int} (he : e = x.exponent) :
    Decimal.ofDigits (x.mantissa < 0) x.mantissa.natAbs e = x := by
  simpa using ofDigits_eq hx (k := 0) (by simpa using he)

/-! ### The two formats -/

/-- `%f` of a number below one: `0.`, zeros, then the digits. -/
theorem fmtF_of_nonpos (neg : Bool) {d : List Char} (hd : d ≠ []) {dp : Int} (hp : dp ≤ 0) :
    fmtF neg d dp =
      (if neg then ['-'] else []) ++ ['0'] ++ '.' :: (List.replicate (-dp).toNat '0' ++ d) := by
  have hlt : (d.length : Int) > dp := by have := List.length_pos.mpr hd; omega
  simp only [fmtF, if_neg (show ¬ dp > 0 by omega), if_pos hlt]
  by_cases hz : dp < 0
  · rw [if_pos hz]
  · rw [if_neg hz, show dp = 0 by omega]; rfl

/-- `%f` of a number with digits on both sides of the point. -/
theorem fmtF_of_lt (neg : Bool) {d : List Char} {dp : Int} (h0 : 0 < dp) (h : dp < d.length) :
    fmtF neg d dp =
      (if neg then ['-'] else []) ++ d.take dp.toNat ++ '.' :: d.drop dp.toNat := by
  simp only [fmtF, if_pos (show dp > 0 from h0), if_neg (show ¬ dp < 0 by omega),
    if_pos (show (d.length : Int) > dp from h), show dp.toNat - d.length = 0 by omega,
    List.replicate_zero, List.append_nil]

/-- `%f` of an integer: its digits, then zeros. -/
theorem fmtF_of_ge (neg : Bool) {d : List Char} {dp : Int} (h0 : 0 < dp) (h : d.length ≤ dp) :
    fmtF neg d dp =
      (if neg then ['-'] else []) ++ (d ++ List.replicate (dp.toNat - d.length) '0') := by
  simp only [fmtF, if_pos (show dp > 0 from h0), if_neg (show ¬ (d.length : Int) > dp by omega),
    List.take_of_length_le (show d.length ≤ dp.toNat by omega), List.append_nil]

/-- `fmtE` of a nonzero number: the first digit, the others after a point, and the exponent. -/
theorem fmtE_cons (neg : Bool) (c : Char) (cs : List Char) (dp : Int) :
    fmtE neg (c :: cs) dp =
      ((if neg then ['-'] else []) ++ c :: if cs = [] then [] else '.' :: cs) ++
        'e' :: (if dp - 1 < 0 then '-' else '+') :: expDigits (dp - 1).natAbs := by
  cases cs <;> simp [fmtE]

/-- The exponent digits: at least two, of the exponent's value. -/
theorem expDigits_spec (n : Nat) :
    (∀ d ∈ expDigits n, d.isDigit = true) ∧ 2 ≤ (expDigits n).length ∧
      digitsValue (expDigits n) = n := by
  obtain ⟨c, cs, h, hdig, hv, -⟩ := toDigits_spec n
  unfold expDigits
  split_ifs with hn
  · refine ⟨by simpa [h] using hdig, by simp [h], ?_⟩
    rw [h, ← hv]; exact digitsValue_zeros_append 1 _
  · refine ⟨h ▸ hdig, ?_, h ▸ hv⟩
    rw [h]
    cases cs with
    | nil =>
      have := isDigit_toNat (hdig c (.head _))
      simp only [digitsValue, List.foldl_cons, List.foldl_nil] at hv
      omega
    | cons => simp

/-- The clean-up keeps an exponent's value: it only drops the padding `0` of `e-0d`. -/
theorem cleanExp_append (P : List Char) (s : Char) {E : List Char}
    (hE : ∀ d ∈ E, d.isDigit = true) (h2 : 2 ≤ E.length) :
    ∃ E', cleanExp (P ++ 'e' :: s :: E) = P ++ 'e' :: s :: E' ∧ E' ≠ [] ∧
      (∀ d ∈ E', d.isDigit = true) ∧ digitsValue E' = digitsValue E := by
  have hkeep : ∃ E', P ++ 'e' :: s :: E = P ++ 'e' :: s :: E' ∧ E' ≠ [] ∧
      (∀ d ∈ E', d.isDigit = true) ∧ digitsValue E' = digitsValue E :=
    ⟨E, rfl, fun h => by simp [h] at h2, hE, rfl⟩
  obtain ⟨R, a, b, rfl⟩ : ∃ R a b, E = R ++ [a, b] := by
    rcases E.eq_nil_or_concat with rfl | ⟨L, b, rfl⟩
    · simp at h2
    rcases L.eq_nil_or_concat with rfl | ⟨R, a, rfl⟩
    · simp at h2
    exact ⟨R, a, b, by simp⟩
  unfold cleanExp
  split
  · next c z m e rest heq =>
    split_ifs with hq
    · obtain ⟨rfl, rfl, rfl⟩ := hq
      simp only [List.reverse_append, List.reverse_cons, List.reverse_nil, List.nil_append,
        List.cons_append, List.singleton_append, List.append_assoc, List.cons.injEq] at heq
      obtain ⟨rfl, rfl, heq⟩ := heq
      cases hR : R.reverse with
      | cons w _ =>
        rw [hR, List.cons_append, List.cons.injEq] at heq
        exact absurd heq.1 (ne_minus_of_isDigit
          (hE w (List.mem_append_left _ (List.mem_reverse.mp (hR ▸ List.mem_cons_self w _)))))
      | nil =>
        rw [hR, List.nil_append, List.cons.injEq, List.cons.injEq] at heq
        obtain ⟨rfl, -, rfl⟩ := heq
        rw [List.reverse_eq_nil_iff.mp hR]
        refine ⟨[b], by simp, by simp, by simpa using hE b, ?_⟩
        exact (digitsValue_zeros_append 1 [b]).symm
    · exact hkeep
  · exact hkeep

section Formats

variable {x : Decimal} (hx : x.mantissa ≠ 0)
include hx

/-- The digits of a nonzero number's shortest decimal. -/
theorem digits_of_ne_zero : ∃ c cs, x.digits = c :: cs ∧ c.isDigit = true ∧ c ≠ '0' ∧
    (∀ d ∈ cs, d.isDigit = true) ∧ digitsValue (c :: cs) = x.mantissa.natAbs ∧
    x.point = (cs.length + 1 : Nat) + x.exponent := by
  obtain ⟨c, cs, hd, hc, h0, hcs, hv⟩ := toDigits_of_ne_zero (Int.natAbs_ne_zero.mpr hx)
  have hD : x.digits = c :: cs := by rw [Decimal.digits, if_neg hx, hd]
  exact ⟨c, cs, hD, hc, h0, hcs, hv, by rw [Decimal.point, hD]; rfl⟩

theorem parseNumber_fmtF_fraction {r : List Char} (hr : NumEnd r) (hp : x.point ≤ 0) :
    parseNumber (fmtF (x.mantissa < 0) x.digits x.point ++ r) = some (.num x, r) := by
  obtain ⟨c, cs, hD, hc, -, hcs, hv, hpt⟩ := digits_of_ne_zero hx
  set Z := List.replicate (-x.point).toNat '0'
  have hF : parseFrac ('.' :: (Z ++ c :: cs) ++ r) = some (Z ++ c :: cs, r) :=
    parseFrac_digits (by simp) (isDigit_append (isDigit_replicate_zero _)
      (by simpa [hc] using hcs)) fun d hd => (hr d hd).1
  rw [fmtF_of_nonpos _ (hD ▸ List.cons_ne_nil c cs) hp, hD, parseNumber_parts _ '0' []
    ('.' :: (Z ++ c :: cs)) (by decide) (parseIntPart_zero _) hF (parseExp_of_numEnd hr)]
  have hz : ['0'] ++ (Z ++ c :: cs) = List.replicate ((-x.point).toNat + 1) '0' ++ c :: cs := by
    simp [Z, List.replicate_succ]
  rw [hz, digitsValue_zeros_append, hv, ofDigits_self hx (by
    simp only [Z, List.length_append, List.length_replicate, List.length_cons]; omega)]

theorem parseNumber_fmtF_point {r : List Char} (hr : NumEnd r) (h0 : 0 < x.point)
    (h : x.point < x.digits.length) :
    parseNumber (fmtF (x.mantissa < 0) x.digits x.point ++ r) = some (.num x, r) := by
  obtain ⟨c, cs, hD, hc, hc0, hcs, hv, hpt⟩ := digits_of_ne_zero hx
  obtain ⟨k, hk⟩ : ∃ k : Nat, x.point.toNat = k + 1 := ⟨x.point.toNat - 1, by omega⟩
  rw [fmtF_of_lt _ h0 h, hD, hk, List.take_succ_cons, List.drop_succ_cons]
  rw [hD, List.length_cons] at h
  have hne : cs.drop k ≠ [] := by rw [Ne, List.drop_eq_nil_iff]; omega
  have hF := parseFrac_digits hne (fun d hd => hcs d (List.mem_of_mem_drop hd))
    fun d hd => (hr d hd).1
  rw [parseNumber_parts _ c (cs.take k) ('.' :: cs.drop k) hc
    (parseIntPart_digits hc hc0 (fun d hd => hcs d (List.mem_of_mem_take hd))
      (noDigitHead_cons '.' rfl _)) hF (parseExp_of_numEnd hr), List.cons_append,
    List.take_append_drop, hv, ofDigits_self hx (by rw [List.length_drop]; omega)]

theorem parseNumber_fmtF_integer {r : List Char} (hr : NumEnd r) (h : x.digits.length ≤ x.point) :
    parseNumber (fmtF (x.mantissa < 0) x.digits x.point ++ r) = some (.num x, r) := by
  obtain ⟨c, cs, hD, hc, hc0, hcs, hv, hpt⟩ := digits_of_ne_zero hx
  have h0 : 0 < x.point := by rw [hD, List.length_cons] at h; omega
  rw [fmtF_of_ge _ h0 h, hD]
  set Z := List.replicate (x.point.toNat - (c :: cs).length) '0'
  have hp := parseNumber_parts (decide (x.mantissa < 0)) c (cs ++ Z) [] hc
    (parseIntPart_digits hc hc0 (isDigit_append hcs (isDigit_replicate_zero _))
      fun d hd => (hr d hd).1)
    (parseFrac_of_head fun d hd => (hr d hd).2.1) (parseExp_of_numEnd hr)
  simp only [List.append_nil, List.nil_append, List.length_nil, List.append_assoc,
    List.cons_append] at hp ⊢
  rw [hp, ← List.cons_append, digitsValue_append, digitsValue_replicate_zero, Nat.add_zero, hv,
    List.length_replicate,
    ofDigits_eq hx (by rw [hD] at h; simp only [List.length_cons] at h ⊢; omega)]

theorem parseNumber_fmtE {r : List Char} (hr : NumEnd r) :
    parseNumber (cleanExp (fmtE (x.mantissa < 0) x.digits x.point) ++ r) = some (.num x, r) := by
  obtain ⟨c, cs, hD, hc, hc0, hcs, hv, hpt⟩ := digits_of_ne_zero hx
  obtain ⟨hEd, hE2, hEv⟩ := expDigits_spec (x.point - 1).natAbs
  obtain ⟨E, hclean, hne, hEd', hEv'⟩ :=
    cleanExp_append _ (if x.point - 1 < 0 then '-' else '+') hEd hE2
  rw [hD, fmtE_cons, hclean]
  have hX := parseExp_digits (x.point - 1 < 0) hne hEd' fun d hd => (hr d hd).1
  set rest := 'e' :: (if x.point - 1 < 0 then '-' else '+') :: (E ++ r)
  set Fp : List Char := if cs = [] then [] else '.' :: cs
  have hF : parseFrac (Fp ++ rest) = some (cs, rest) ∧ NoDigitHead (Fp ++ rest) := by
    by_cases h : cs = []
    · simp only [Fp, if_pos h, List.nil_append, h]
      exact ⟨parseFrac_of_head (by simp [rest]), noDigitHead_cons 'e' rfl _⟩
    · simp only [Fp, if_neg h]
      exact ⟨parseFrac_digits h hcs (noDigitHead_cons 'e' rfl _), noDigitHead_cons '.' rfl _⟩
  have hp := parseNumber_parts (decide (x.mantissa < 0)) c [] Fp hc
    (parseIntPart_digits hc hc0 (by simp) hF.2) hF.1 hX
  simp only [List.append_assoc, List.cons_append, List.nil_append, rest] at hp ⊢
  rw [hp, hv, hEv', hEv, ofDigits_self hx]
  split_ifs <;> omega

end Formats

theorem parseNumber_encodeNumber (x : Decimal) {r : List Char} (hr : NumEnd r) :
    parseNumber (encodeNumber x ++ r) = some (.num x, r) := by
  by_cases hx : x.mantissa = 0
  · have he : x.exponent = 0 := (x.shortest.resolve_left (by simp [hx])).2
    have hF := parseNumber_parts false '0' [] [] (by decide) (parseIntPart_zero r)
      (parseFrac_of_head fun d hd => (hr d hd).2.1) (parseExp_of_numEnd hr)
    have hz : encodeNumber x = ['0'] := by
      simp [encodeNumber, hx, Decimal.point, Decimal.digits, he, fmtF]
    have h0 :
        Decimal.ofDigits false (digitsValue (['0'] ++ [])) (0 - ([] : List Char).length) = x :=
      Decimal.ext (by rw [hx]; rfl) (by rw [he]; rfl)
    rw [hz]
    exact hF.trans (by rw [h0])
  unfold encodeNumber
  split_ifs
  · exact parseNumber_fmtE hx hr
  · by_cases h1 : x.point ≤ 0
    · exact parseNumber_fmtF_fraction hx hr h1
    by_cases h2 : x.point < x.digits.length
    · exact parseNumber_fmtF_point hx hr (by omega) h2
    · exact parseNumber_fmtF_integer hx hr (by omega)

/-- A text the number reader accepts starts with a minus sign or a digit. -/
theorem parseNumber_head {cs r : List Char} {v : Value} (h : parseNumber cs = some (v, r)) :
    ∃ c rest, cs = c :: rest ∧ (c = '-' ∨ c.isDigit = true) := by
  cases cs with
  | nil => simp [parseNumber, parseSign, parseIntPart] at h
  | cons c rest =>
    refine ⟨c, rest, rfl, ?_⟩
    by_cases hc : c = '-'
    · exact .inl hc
    · refine .inr ?_
      simp only [parseNumber, parseSign, List.mem_singleton, hc, if_false, bind,
        Option.bind_eq_some, parseIntPart] at h
      obtain ⟨_, h, -⟩ := h
      split_ifs at h with h0 h1
      · rw [h0]; rfl
      · exact h1

/-! ## The format test on the value

`floatEncoder` chooses `%e` on the value of the `float64`; `encodeNumber` does on its decimal
point. A number with `n` digits and point `p` lies in `[10 ^ (p - 1), 10 ^ p)`, so the two
tests agree. -/

theorem digitsValue_lt_pow {ds : List Char} (hd : ∀ d ∈ ds, d.isDigit = true) :
    digitsValue ds < 10 ^ ds.length := by
  induction ds with
  | nil => simp [digitsValue]
  | cons c ds ih =>
    have h1 : digitsValue [c] ≤ 9 := by
      have := isDigit_toNat (hd c (.head _)); simp [digitsValue]; omega
    have h2 := ih fun d h => hd d (.tail c h)
    have h3 := Nat.mul_le_mul_right (10 ^ ds.length) h1
    rw [← List.singleton_append, digitsValue_append, List.length_append, List.length_singleton,
      pow_add, pow_one]
    omega

theorem pow_le_digitsValue {c : Char} {cs : List Char} (hc : c.isDigit = true) (h0 : c ≠ '0') :
    10 ^ cs.length ≤ digitsValue (c :: cs) := by
  have h1 : 1 ≤ digitsValue [c] := by
    have := isDigit_toNat hc
    have : c.toNat ≠ 48 := fun h => h0 (by rw [← Char.ofNat_toNat c, h])
    simp [digitsValue]; omega
  rw [← List.singleton_append, digitsValue_append]
  exact le_add_right (Nat.le_mul_of_pos_left _ h1)

/-- The value of a number: the `float64` whose shortest decimal it is. -/
def Decimal.value (x : Decimal) : ℚ := x.mantissa * 10 ^ x.exponent

theorem value_bounds {x : Decimal} (hx : x.mantissa ≠ 0) :
    (10 : ℚ) ^ (x.point - 1) ≤ |x.value| ∧ |x.value| < 10 ^ x.point := by
  obtain ⟨c, cs, hD, hc, hc0, hcs, hv, hpt⟩ := digits_of_ne_zero hx
  have hlo : 10 ^ cs.length ≤ digitsValue (c :: cs) := pow_le_digitsValue hc hc0
  have hhi : digitsValue (c :: cs) < 10 ^ (c :: cs).length :=
    digitsValue_lt_pow (by simpa [hc] using hcs)
  rw [hv] at hlo hhi
  have habs : |x.value| = (x.mantissa.natAbs : ℚ) * 10 ^ x.exponent := by
    rw [Decimal.value, abs_mul, abs_of_pos (zpow_pos (by norm_num : (0 : ℚ) < 10) _),
      Nat.cast_natAbs, Int.cast_abs]
  have e1 : x.point - 1 = (cs.length : ℤ) + x.exponent := by rw [hpt]; push_cast; ring
  have e2 : x.point = ((cs.length + 1 : ℕ) : ℤ) + x.exponent := hpt
  rw [habs, e1, e2, zpow_add₀ (by norm_num), zpow_add₀ (by norm_num), zpow_natCast,
    zpow_natCast]
  have hp : (0 : ℚ) < 10 ^ x.exponent := zpow_pos (by norm_num : (0 : ℚ) < 10) _
  constructor
  · exact mul_le_mul_of_nonneg_right (by exact_mod_cast hlo) hp.le
  · exact mul_lt_mul_of_pos_right (by exact_mod_cast hhi) hp

/-- `floatEncoder`'s test on the value, in terms of the decimal point. -/
theorem format_test_iff (x : Decimal) :
    (x.mantissa ≠ 0 ∧ (x.point ≤ -6 ∨ 22 ≤ x.point)) ↔
      (x.value ≠ 0 ∧ (|x.value| < 10 ^ (-6 : ℤ) ∨ 10 ^ 21 ≤ |x.value|)) := by
  have hv0 : x.value ≠ 0 ↔ x.mantissa ≠ 0 := by
    simp [Decimal.value, (zpow_pos (by norm_num : (0 : ℚ) < 10) x.exponent).ne']
  rw [hv0]
  refine and_congr_right fun hx => ?_
  obtain ⟨hlo, hhi⟩ := value_bounds hx
  have h10 : (1 : ℚ) < 10 := by norm_num
  have key : ∀ m n : ℤ, (10 : ℚ) ^ m ≤ 10 ^ n ↔ m ≤ n := fun _ _ => zpow_le_zpow_iff_right₀ h10
  have h21 : (10 : ℚ) ^ 21 = 10 ^ (21 : ℤ) := (zpow_natCast 10 21).symm
  rw [h21]
  constructor
  · rintro (h | h)
    · exact .inl (hhi.trans_le ((key _ _).mpr h))
    · exact .inr (((key _ _).mpr (by omega)).trans hlo)
  · rintro (h | h)
    · by_contra hn
      exact absurd (((key _ _).mpr (by omega)).trans hlo) (not_le.mpr h)
    · by_contra hn
      exact absurd (h.trans_lt (hhi.trans_le ((key _ _).mpr (by omega)))) (lt_irrefl _)

/-- `floatEncoder.encode` as Go writes its test: `%e` for a value that is not zero and is below
`1e-6` or from `1e21` on in absolute value, `%f` otherwise. -/
theorem encodeNumber_eq (x : Decimal) :
    encodeNumber x =
      if x.value ≠ 0 ∧ (|x.value| < 10 ^ (-6 : ℤ) ∨ 10 ^ 21 ≤ |x.value|) then
        cleanExp (fmtE (x.mantissa < 0) x.digits x.point)
      else fmtF (x.mantissa < 0) x.digits x.point :=
  if_congr (format_test_iff x) rfl rfl

/-! ## Strings -/

theorem hexVal_digitChar : ∀ d, d < 16 → hexVal (Nat.digitChar d) = some d := by decide

/-- The three kinds of escape `encodeState.string` writes: a one-letter escape, a `\u`
escape of a code unit below the surrogates, and the character itself. -/
theorem escapeChar_cases (c : Char) :
    (∃ x, escapeChar c = ['\\', x] ∧ x ≠ 'u' ∧ simpleEscape x = some c) ∨
    (∃ a b d e, escapeChar c = ['\\', 'u', a, b, d, e] ∧ hex4 a b d e = some c.toNat ∧
      c.toNat < 0xD800) ∨
    (escapeChar c = [c] ∧ c ≠ '"' ∧ c ≠ '\\' ∧ 0x20 ≤ c.toNat) := by
  by_cases h1 : c = '\\' ∨ c = '"'
  · rcases h1 with rfl | rfl <;> exact .inl ⟨_, rfl, by decide, rfl⟩
  by_cases h2 : c = '\x08' ∨ c = '\x0c' ∨ c = '\n' ∨ c = '\r' ∨ c = '\t'
  · rcases h2 with rfl | rfl | rfl | rfl | rfl <;> exact .inl ⟨_, rfl, by decide, rfl⟩
  simp only [not_or] at h1 h2
  by_cases h7 : c.toNat < 0x20 ∨ c = '<' ∨ c = '>' ∨ c = '&'
  · have hc : c.toNat < 256 := by rcases h7 with h | rfl | rfl | rfl <;> first | omega | decide
    refine .inr (.inl ⟨'0', '0', Nat.digitChar (c.toNat / 16), Nat.digitChar (c.toNat % 16),
      by simp [escapeChar, h1, h2, h7], ?_, by omega⟩)
    simp [hex4, (by decide : hexVal '0' = some 0),
      hexVal_digitChar _ (by omega : c.toNat / 16 < 16),
      hexVal_digitChar _ (Nat.mod_lt _ (by omega) : c.toNat % 16 < 16)]
    omega
  by_cases h8 : c = '\u2028' ∨ c = '\u2029'
  · rcases h8 with rfl | rfl <;> exact .inr (.inl ⟨_, _, _, _, rfl, rfl, by decide⟩)
  simp only [not_or] at h7 h8
  exact .inr (.inr ⟨by simp [escapeChar, h1, h2, h7, h8], h1.2, h1.1, by omega⟩)

/-- The decoder reads one escaped character back. -/
theorem parseStrBody_escapeChar (c : Char) (rest : List Char) :
    parseStrBody none (escapeChar c ++ rest) = consChar c (parseStrBody none rest) := by
  rcases escapeChar_cases c with ⟨x, he, hx, hs⟩ | ⟨a, b, d, e, he, hn, hlt⟩ | ⟨he, h1, h2, h3⟩
  · simp [he, parseStrBody_escape none hx, hs, flushPending]
  · simp only [he, List.cons_append, List.nil_append, parseStrBody_unicode_none, hn,
      Option.some_bind]
    rw [if_neg (by omega), unitChar, if_neg (by omega), Char.ofNat_toNat]
  · simp [he, parseStrBody_plain none h1 h2, flushPending, Nat.not_lt.mpr h3]

theorem parseStrBody_escaped (s r : List Char) :
    parseStrBody none (s.flatMap escapeChar ++ '"' :: r) = some (s, r) := by
  induction s with
  | nil => simp [parseStrBody_quote, flushPending]
  | cons c s ih => rw [List.flatMap_cons, List.append_assoc, parseStrBody_escapeChar, ih]; rfl

theorem encodeString_append (s r : List Char) :
    encodeString s ++ r = '"' :: (s.flatMap escapeChar ++ '"' :: r) := by
  simp [encodeString]

/-! ## Values -/

theorem isWs_eq_false_of_isDigit {c : Char} (h : c.isDigit = true) : isWs c = false := by
  cases hw : isWs c
  · rfl
  · simp only [isWs, Bool.or_eq_true, decide_eq_true_eq] at hw
    rcases hw with ((rfl | rfl) | rfl) | rfl <;> exact absurd h (by decide)

/-- A number's text starts with a minus sign or a digit. -/
theorem encodeNumber_head (x : Decimal) :
    ∃ c cs, encodeNumber x = c :: cs ∧ (c = '-' ∨ c.isDigit = true) := by
  have h := parseNumber_encodeNumber x (r := []) nofun
  rw [List.append_nil] at h
  exact parseNumber_head h

theorem encode_head : ∀ v : Value, ∃ c cs, encode v = c :: cs ∧ isWs c = false ∧ c ≠ ']'
  | .null | .bool true | .bool false | .str _ | .arr [] | .arr (_ :: _) | .obj [] | .obj (_ :: _) =>
    ⟨_, _, rfl, rfl, by decide⟩
  | .num x => by
    obtain ⟨c, cs, hcs, hc⟩ := encodeNumber_head x
    refine ⟨c, cs, hcs, ?_, ?_⟩
    · rcases hc with rfl | hc
      · rfl
      · exact isWs_eq_false_of_isDigit hc
    · rcases hc with rfl | hc
      · decide
      · rintro rfl; exact absurd hc (by decide)

theorem parseValue_number {c : Char} (hc : c = '-' ∨ c.isDigit = true) (n : Nat) (cs : List Char) :
    parseValue (n + 1) (c :: cs) = parseNumber (c :: cs) := by
  have : isWs c = false ∧ c ≠ 'n' ∧ c ≠ 't' ∧ c ≠ 'f' ∧ c ≠ '"' ∧ c ≠ '[' ∧ c ≠ '{' := by
    rcases hc with rfl | hc
    · decide
    · refine ⟨isWs_eq_false_of_isDigit hc, ?_, ?_, ?_, ?_, ?_, ?_⟩ <;>
        (rintro rfl; exact absurd hc (by decide))
  obtain ⟨hws, h1, h2, h3, h4, h5, h6⟩ := this
  simp [parseValue, skipWs_cons hws, h1, h2, h3, h4, h5, h6]

theorem encodeElems_ne_nil (vs : List Value) : encodeElems vs ≠ [] := by
  cases vs <;> simp [encodeElems]

theorem encodeFields_ne_nil (fs : List (String × Value)) : encodeFields fs ≠ [] := by
  cases fs <;> simp [encodeFields]

theorem encodeMember_ne_nil (f : String × Value) : encodeMember f ≠ [] := by
  obtain ⟨k, v⟩ := f
  simp [encodeMember, encodeString]

theorem numEnd_encodeElems (vs : List Value) (r : List Char) : NumEnd (encodeElems vs ++ r) := by
  cases vs <;> simp [encodeElems, NumEnd]

theorem numEnd_encodeFields (fs : List (String × Value)) (r : List Char) :
    NumEnd (encodeFields fs ++ r) := by
  cases fs <;> simp [encodeFields, NumEnd]

/-- The four productions of the writer, each read back within `n` units of fuel. -/

def ReadsBack (n : Nat) : Prop :=
  (∀ v r, (encode v).length < n → NumEnd r → parseValue n (encode v ++ r) = some (v, r)) ∧
  (∀ vs r, (encodeElems vs).length < n → parseElems n (encodeElems vs ++ r) = some (vs, r)) ∧
  (∀ f r, (encodeMember f).length < n → NumEnd r →
    parseMember n (encodeMember f ++ r) = some (f, r)) ∧
  (∀ fs r, (encodeFields fs).length < n → parseFields n (encodeFields fs ++ r) = some (fs, r))

section
variable {n : Nat} (h : ReadsBack n)
include h

theorem parseValue_encode_succ : ∀ (v : Value) (r : List Char), (encode v).length < n + 1 →
    NumEnd r → parseValue (n + 1) (encode v ++ r) = some (v, r)
  | .null, r, _, _ => by simp [parseValue, encode, skipWs, isWs, parseWord]
  | .bool true, r, _, _ => by simp [parseValue, encode, skipWs, isWs, parseWord]
  | .bool false, r, _, _ => by simp [parseValue, encode, skipWs, isWs, parseWord]
  | .num x, r, _, hr => by
    obtain ⟨c, cs, hcs, hc⟩ := encodeNumber_head x
    have := parseNumber_encodeNumber x hr
    rw [hcs, List.cons_append] at this
    show parseValue (n + 1) (encodeNumber x ++ r) = _
    rw [hcs, List.cons_append, parseValue_number hc, this]
  | .str s, r, _, _ => by
    show parseValue (n + 1) (encodeString s.data ++ r) = _
    simp [encodeString_append, parseValue, skipWs, isWs, parseStrBody_escaped]
  | .arr [], r, _, _ => by simp [parseValue, encode, skipWs, isWs]
  | .arr (x :: xs), r, hl, _ => by
    obtain ⟨c, cs, hcs, hws, hne⟩ := encode_head x
    have := List.length_pos.mpr (encodeElems_ne_nil xs)
    simp only [encode, List.length_cons, List.length_append, hcs] at hl
    have hx := h.1 x (encodeElems xs ++ r) (by rw [hcs]; simp; omega) (numEnd_encodeElems xs r)
    have hxs := h.2.1 xs r (by omega)
    rw [hcs, List.cons_append] at hx
    simp [encode, hcs, parseValue, skipWs_cons (rfl : isWs '[' = false), skipWs_cons hws, hne, hx,
      hxs]
  | .obj [], r, _, _ => by simp [parseValue, encode, skipWs, isWs]
  | .obj (f :: fs), r, hl, _ => by
    obtain ⟨cs, hcs⟩ : ∃ cs, encodeMember f = '"' :: cs := by
      obtain ⟨k, v⟩ := f
      exact ⟨_, by rw [encodeMember, encodeString, List.cons_append, List.cons_append]⟩
    have := List.length_pos.mpr (encodeFields_ne_nil fs)
    simp only [encode, List.length_cons, List.length_append, hcs] at hl
    have hf :=
      h.2.2.1 f (encodeFields fs ++ r) (by rw [hcs]; simp; omega) (numEnd_encodeFields fs r)
    have hfs := h.2.2.2 fs r (by omega)
    rw [hcs, List.cons_append] at hf
    simp [encode, hcs, parseValue, skipWs_cons (rfl : isWs '{' = false),
      skipWs_cons (rfl : isWs '"' = false), hf, hfs]

theorem parseElems_encode_succ : ∀ (vs : List Value) (r : List Char),
    (encodeElems vs).length < n + 1 → parseElems (n + 1) (encodeElems vs ++ r) = some (vs, r)
  | [], r, _ => by simp [parseElems, encodeElems, skipWs, isWs]
  | v :: vs, r, hl => by
    have := List.length_pos.mpr (encodeElems_ne_nil vs)
    obtain ⟨c, cs, hcs, -, -⟩ := encode_head v
    simp only [encodeElems, List.length_cons, List.length_append, hcs] at hl
    have hv := h.1 v (encodeElems vs ++ r) (by rw [hcs]; simp; omega) (numEnd_encodeElems vs r)
    have hvs := h.2.1 vs r (by omega)
    simp [encodeElems, parseElems, skipWs_cons (rfl : isWs ',' = false), hv, hvs]

theorem parseMember_encode_succ : ∀ (f : String × Value) (r : List Char),
    (encodeMember f).length < n + 1 → NumEnd r →
      parseMember (n + 1) (encodeMember f ++ r) = some (f, r)
  | (k, v), r, hl, hr => by
    have hv := h.1 v r (by simp [encodeMember, encodeString] at hl; omega) hr
    simp [encodeMember, encodeString_append, parseMember, skipWs_cons (rfl : isWs '"' = false),
      parseStrBody_escaped, skipWs_cons (rfl : isWs ':' = false), hv]

theorem parseFields_encode_succ : ∀ (fs : List (String × Value)) (r : List Char),
    (encodeFields fs).length < n + 1 → parseFields (n + 1) (encodeFields fs ++ r) = some (fs, r)
  | [], r, _ => by simp [parseFields, encodeFields, skipWs, isWs]
  | f :: fs, r, hl => by
    have := List.length_pos.mpr (encodeFields_ne_nil fs)
    have := List.length_pos.mpr (encodeMember_ne_nil f)
    simp only [encodeFields, List.length_cons, List.length_append] at hl
    have hf := h.2.2.1 f (encodeFields fs ++ r) (by omega) (numEnd_encodeFields fs r)
    have hfs := h.2.2.2 fs r (by omega)
    simp [encodeFields, parseFields, skipWs_cons (rfl : isWs ',' = false), hf, hfs]

end

theorem readsBack : ∀ n, ReadsBack n
  | 0 => ⟨fun _ _ h => absurd h (Nat.not_lt_zero _), fun _ _ h => absurd h (Nat.not_lt_zero _),
      fun _ _ h => absurd h (Nat.not_lt_zero _), fun _ _ h => absurd h (Nat.not_lt_zero _)⟩
  | n + 1 =>
    have h := readsBack n
    ⟨parseValue_encode_succ h, parseElems_encode_succ h, parseMember_encode_succ h,
      parseFields_encode_succ h⟩

/-- The decoder reads back every text `json.Marshal` writes. -/

theorem decode_encode (v : Value) : decode (encode v) = some v := by
  have := (readsBack _).1 v [] (Nat.lt_succ_self _) (by simp [NumEnd])
  simp only [List.append_nil] at this
  simp [decode, this, skipWs]

/-! ## Decoded strings -/

/-- A string body reads at most one character per character of text, and its closing quote;
a pending high surrogate was read from the text before. -/
theorem parseStrBody_length {p : Option Nat} {cs s r : List Char}
    (h : parseStrBody p cs = some (s, r)) : s.length + r.length < cs.length + p.isSome.toNat := by
  induction p, cs using parseStrBody.induct generalizing s r with
  | case1 p => 
    conv at h => unfold parseStrBody
    simp at h
  | case2 p rest =>
    obtain ⟨s', ho, hl⟩ := flushPending_eq_some ((parseStrBody_quote p rest).symm.trans h)
    obtain ⟨rfl, rfl⟩ := Prod.mk.inj (Option.some.inj ho)
    simp at hl ⊢; omega
  | case3 p h1 h2 h3 h4 rest _ ihs ihn =>
    cases p with
    | none =>
      rw [parseStrBody_unicode_none] at h
      obtain ⟨n, -, hn⟩ := Option.bind_eq_some.mp h
      split at hn
      · have := ihs n hn
        simp at this ⊢; omega
      · obtain ⟨s', ho, hl⟩ := consChar_eq_some hn
        have := ihn ho
        simp at this ⊢; omega
    | some hi =>
      rw [parseStrBody_unicode_some] at h
      obtain ⟨n, -, hn⟩ := Option.bind_eq_some.mp h
      split at hn
      · obtain ⟨s', ho, hl⟩ := consChar_eq_some hn
        have := ihn ho
        simp at this ⊢; omega
      · obtain ⟨s', ho, hl⟩ := consChar_eq_some hn
        split at ho
        · have := ihs n ho
          simp at this ⊢; omega
        · obtain ⟨s'', ho', hl'⟩ := consChar_eq_some ho
          have := ihn ho'
          simp at this ⊢; omega
  | case4 p rest hshort _ =>
    conv at h => unfold parseStrBody
    simp at h
  | case5 p e rest he _ ih =>
    rw [parseStrBody_escape p he] at h
    obtain ⟨s', ho, hl⟩ := flushPending_eq_some h
    obtain ⟨c, -, hc⟩ := Option.bind_eq_some.mp ho
    obtain ⟨s'', ho', hl'⟩ := consChar_eq_some hc
    have := ih ho'
    simp at this ⊢; omega
  | case6 p =>
    conv at h => unfold parseStrBody
    simp at h
  | case7 p c rest h1 h2 ih =>
    rw [parseStrBody_plain p h1 h2] at h
    obtain ⟨s', ho, hl⟩ := flushPending_eq_some h
    split at ho
    · simp at ho
    · obtain ⟨s'', ho', hl'⟩ := consChar_eq_some ho
      have := ih ho'
      simp at this ⊢; omega

/-- A string is only read from a quote at the head of the text. -/
theorem parseValue_eq_str {fuel : Nat} {cs r : List Char} {v : String}
    (h : parseValue fuel cs = some (.str v, r)) :
    ∃ body, skipWs cs = '"' :: body ∧ parseStrBody none body = some (v.data, r) := by
  cases fuel with
  | zero => simp [parseValue] at h
  | succ fuel =>
    unfold parseValue at h
    split at h
    · simp at h
    · next c rest hs =>
      by_cases hq : c = '"'
      · subst hq
        rw [if_neg (by decide), if_neg (by decide), if_neg (by decide), if_pos rfl] at h
        obtain ⟨⟨s, r'⟩, hp, he⟩ := Option.map_eq_some'.mp h
        obtain ⟨rfl, rfl⟩ : (⟨s⟩ : String) = v ∧ r' = r := by simpa using he
        exact ⟨rest, hs, hp⟩
      rw [if_neg hq] at h
      by_cases hn : c = 'n'
      · cases parseWord_eq_some (by rwa [if_pos hn] at h)
      rw [if_neg hn] at h
      by_cases ht : c = 't'
      · cases parseWord_eq_some (by rwa [if_pos ht] at h)
      rw [if_neg ht] at h
      by_cases hf : c = 'f'
      · cases parseWord_eq_some (by rwa [if_pos hf] at h)
      rw [if_neg hf] at h
      by_cases ha : c = '['
      · rw [if_pos ha] at h
        split at h <;> simp [Option.bind_eq_some] at h
      rw [if_neg ha] at h
      by_cases ho : c = '{'
      · rw [if_pos ho] at h
        split at h <;> simp [Option.bind_eq_some] at h
      rw [if_neg ho] at h
      obtain ⟨_, he⟩ := parseNumber_eq_some h
      cases he

/-- A string decoded from a text is shorter than the text by its two quotes at least. -/

theorem decode_str_length {t : List Char} {v : String} (h : decode t = some (.str v)) :
    v.length + 2 ≤ t.length := by
  unfold decode at h
  split at h
  · next x rest hp =>
    split at h
    · obtain rfl := Option.some.inj h
      obtain ⟨body, hs, hb⟩ := parseValue_eq_str hp
      have h1 := parseStrBody_length hb
      have h2 : (skipWs t).length ≤ t.length := (List.dropWhile_suffix isWs).length_le
      have h3 : v.length = v.data.length := rfl
      rw [hs] at h2
      simp only [Option.isSome_none, Bool.toNat_false, List.length_cons] at h1 h2
      omega
    · simp at h
  · simp at h

/-- The characters of a string, taken as a JSON text, never decode to that string. -/

theorem decode_data_ne_str (s : String) : decode s.data ≠ some (.str s) := fun h => by
  have := decode_str_length h
  have : s.length = s.data.length := rfl
  omega

end Json
end MsaCore
