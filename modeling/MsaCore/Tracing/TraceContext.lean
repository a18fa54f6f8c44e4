import MsaCore.Amqp.Table
import MsaCore.Tracing.TraceState
import Mathlib.Data.UInt

/-!
# W3C trace context

The span context of the tracing API, the tracer that starts spans, and the W3C trace-context
propagator (`propagation.TraceContext`) that `otel.GetTextMapPropagator()` returns once it is
installed.

`inject` writes `traceparent` as `00-<trace id>-<span id>-<flags>` in lowercase hex, and
`tracestate` as `TraceState.String` writes it when the trace state is not empty. `extract`
cuts the header at each `-`, rejects upper-case hex and every malformed part, reads the trace
state with `ParseTraceState`, and marks what it returns as remote. Which trace flags the
propagator carries depends on the otel release, which the repository does not pin: the sampled
flag alone in the releases before trace context level 2, the sampled and random flags after.

The main result, `extract_inject`, is the round trip through a header carrier: extracting
what was injected gives back the trace ID, the span ID, the flags the release carries, and the
trace state.
-/

namespace MsaCore
namespace Tracing

open Amqp

/-! ## Span contexts -/

/-- `trace.TraceID`, a `[16]byte`. -/
structure TraceID where
  bytes : List UInt8
  length_eq : bytes.length = 16
  deriving DecidableEq

/-- `trace.SpanID`, an `[8]byte`. -/
structure SpanID where
  bytes : List UInt8
  length_eq : bytes.length = 8
  deriving DecidableEq

/-- Decoded bytes copied into a zeroed `[16]byte`. -/
def TraceID.ofBytes (l : List UInt8) : TraceID :=
  ⟨(l ++ List.replicate 16 0).take 16, by simp⟩

/-- Decoded bytes copied into a zeroed `[8]byte`. -/
def SpanID.ofBytes (l : List UInt8) : SpanID :=
  ⟨(l ++ List.replicate 8 0).take 8, by simp⟩

@[simp] theorem TraceID.ofBytes_bytes (t : TraceID) : TraceID.ofBytes t.bytes = t := by
  cases t with
  | mk l h => simp only [ofBytes, List.take_left' h]

@[simp] theorem SpanID.ofBytes_bytes (t : SpanID) : SpanID.ofBytes t.bytes = t := by
  cases t with
  | mk l h => simp only [ofBytes, List.take_left' h]

/-- `TraceID.IsValid`: not all zero. -/
def TraceID.isValid (t : TraceID) : Bool := t.bytes.any (· != 0)

/-- `SpanID.IsValid`: not all zero. -/
def SpanID.isValid (t : SpanID) : Bool := t.bytes.any (· != 0)

/-- `trace.SpanContext`. -/
structure SpanContext where
  traceID : TraceID
  spanID : SpanID
  traceFlags : UInt8
  traceState : TraceState
  remote : Bool
  deriving DecidableEq

/-- `SpanContext.IsValid`. -/
def SpanContext.isValid (sc : SpanContext) : Bool := sc.traceID.isValid && sc.spanID.isValid

/-- `trace.FlagsSampled`. -/
def flagsSampled : UInt8 := 1

/-- The random flag of trace context level 2. -/
def flagsRandom : UInt8 := 2

/-- The otel release the propagator comes from: before trace context level 2, or after. -/
inductive OtelRelease where
  | level1
  | level2
  deriving DecidableEq

/-- The trace flags the propagator carries. -/
def OtelRelease.flagsKept : OtelRelease → UInt8
  | .level1 => flagsSampled
  | .level2 => flagsSampled ||| flagsRandom

/-- The largest flags byte `extract` accepts in a version `00` header. -/
def OtelRelease.maxFlags : OtelRelease → UInt8
  | .level1 => 2
  | .level2 => 3

/-- What the far side recovers from the headers written for `sc`: its IDs and the flags the
release carries, with the trace state `ts` read there, marked remote. -/
def SpanContext.received (r : OtelRelease) (sc : SpanContext) (ts : TraceState) : SpanContext :=
  { sc with
    traceFlags := sc.traceFlags &&& r.flagsKept
    traceState := ts
    remote := true }

/-- The span context of a context that holds none. -/
def SpanContext.empty : SpanContext :=
  ⟨TraceID.ofBytes [], SpanID.ofBytes [], 0, TraceState.empty, false⟩

@[simp] theorem SpanContext.received_isValid (r : OtelRelease) (sc : SpanContext) (ts : TraceState) :
    (sc.received r ts).isValid = sc.isValid := rfl

@[simp] theorem SpanContext.empty_isValid : SpanContext.empty.isValid = false := by decide

/-- A tracer, by the span context of the span `Start` starts under a parent span context, with
a name. -/
structure Tracer where
  start : SpanContext → String → SpanContext

/-- The SDK's `Start`: a span started under a valid parent is valid and belongs to the
parent's trace. -/
def Tracer.ContinuesTrace (tracer : Tracer) : Prop :=
  ∀ parent name, parent.isValid →
    (tracer.start parent name).isValid ∧ (tracer.start parent name).traceID = parent.traceID

/-- `propagation.TextMapPropagator`, on the AMQP header carrier. -/
structure Propagator where
  inject : SpanContext → AMQPCarrier → AMQPCarrier
  extract : AMQPCarrier → SpanContext

/-- A propagator that injects exactly `fields` for a span context: its `Inject` sets each
field on the carrier, in order, and does nothing else. -/
def Propagator.Injects (prop : Propagator) (sc : SpanContext) (fields : List (String × String)) :
    Prop :=
  ∀ c, prop.inject sc c = fields.foldl (fun c f => c.set f.1 f.2) c

/-! ## Hex -/

/-- The lowercase hex digit of `n < 16`, as `hex.Encode` writes it. -/
def hexDigit (n : Nat) : Char :=
  if n < 10 then Char.ofNat (48 + n) else Char.ofNat (87 + n)

/-- `hex.Encode`. -/
def hexEncode (bs : List UInt8) : List Char :=
  bs.flatMap fun b => [hexDigit (b.toNat / 16), hexDigit (b.toNat % 16)]

/-- The value of a hex digit of either case, as `hex.Decode` reads it. -/
def hexValue (c : Char) : Option Nat :=
  if '0' ≤ c ∧ c ≤ '9' then some (c.toNat - 48)
  else if 'a' ≤ c ∧ c ≤ 'f' then some (c.toNat - 87)
  else if 'A' ≤ c ∧ c ≤ 'F' then some (c.toNat - 55)
  else none

/-- `hex.Decode`: digits in pairs, failing on an odd length or a non-hex digit. -/
def hexDecode : List Char → Option (List UInt8)
  | [] => some []
  | [_] => none
  | a :: b :: rest => do
    let hi ← hexValue a
    let lo ← hexValue b
    let tl ← hexDecode rest
    pure (UInt8.ofNat (hi * 16 + lo) :: tl)

/-- An upper-case hex digit, which `extractPart` rejects. -/
def isUpperHex (c : Char) : Bool := 'A' ≤ c && c ≤ 'F'

theorem hexValue_hexDigit : ∀ n, n < 16 → hexValue (hexDigit n) = some n := by decide

theorem hexDigit_ne_dash : ∀ n, n < 16 → hexDigit n ≠ '-' := by decide

theorem isUpperHex_hexDigit : ∀ n, n < 16 → isUpperHex (hexDigit n) = false := by decide

theorem hexEncode_cons (b : UInt8) (bs : List UInt8) :
    hexEncode (b :: bs) = hexDigit (b.toNat / 16) :: hexDigit (b.toNat % 16) :: hexEncode bs :=
  rfl

@[simp] theorem hexEncode_length (bs : List UInt8) : (hexEncode bs).length = 2 * bs.length := by
  induction bs with
  | nil => rfl
  | cons b bs ih => simp only [hexEncode_cons, List.length_cons, ih]; omega

/-- A byte is its high digit times sixteen plus its low digit. -/
theorem uint8_ofNat_digits (b : UInt8) : UInt8.ofNat (b.toNat / 16 * 16 + b.toNat % 16) = b := by
  apply UInt8.toNat.inj
  have : b.toNat < 256 := UInt8.toNat_lt_size b
  rw [UInt8.toNat_ofNat_of_lt (show _ < 256 by omega)]
  omega

theorem hexDecode_hexEncode (bs : List UInt8) : hexDecode (hexEncode bs) = some bs := by
  induction bs with
  | nil => rfl
  | cons b bs ih =>
    have hb : b.toNat < 256 := UInt8.toNat_lt_size b
    rw [hexEncode_cons, hexDecode, hexValue_hexDigit _ (by omega),
      hexValue_hexDigit _ (Nat.mod_lt _ (by omega)), ih]
    simp [uint8_ofNat_digits]

theorem mem_hexEncode {c : Char} {bs : List UInt8} (h : c ∈ hexEncode bs) :
    ∃ n < 16, c = hexDigit n := by
  induction bs with
  | nil => cases h
  | cons b bs ih =>
    have hb : b.toNat < 256 := UInt8.toNat_lt_size b
    rw [hexEncode_cons] at h
    rcases List.mem_cons.mp h with rfl | h
    · exact ⟨_, by omega, rfl⟩
    rcases List.mem_cons.mp h with rfl | h
    · exact ⟨_, Nat.mod_lt _ (by omega), rfl⟩
    exact ih h

theorem dash_not_mem_hexEncode (bs : List UInt8) : '-' ∉ hexEncode bs := fun h => by
  obtain ⟨n, hn, he⟩ := mem_hexEncode h
  exact hexDigit_ne_dash n hn he.symm

theorem hexEncode_any_isUpperHex (bs : List UInt8) : (hexEncode bs).any isUpperHex = false := by
  rw [List.any_eq_false]
  intro c hc
  obtain ⟨n, hn, rfl⟩ := mem_hexEncode hc
  simp [isUpperHex_hexDigit n hn]

/-! ## Cutting the header -/

/-- `strings.Cut(s, "-")`: the text before the first `-`, and the text after it (empty when
there is no `-`). -/
def cut : List Char → List Char × List Char
  | [] => ([], [])
  | c :: cs => if c = '-' then ([], cs) else ((c :: (cut cs).1), (cut cs).2)

theorem cut_append_dash {xs : List Char} (r : List Char) (h : '-' ∉ xs) :
    cut (xs ++ '-' :: r) = (xs, r) := by
  induction xs with
  | nil => simp [cut]
  | cons c cs ih =>
    rw [List.mem_cons, not_or] at h
    simp [cut, Ne.symm h.1, ih h.2]

theorem cut_of_not_mem {xs : List Char} (h : '-' ∉ xs) : cut xs = (xs, []) := by
  induction xs with
  | nil => rfl
  | cons c cs ih =>
    rw [List.mem_cons, not_or] at h
    simp [cut, Ne.symm h.1, ih h.2]

/-- `extractPart`: the next part must be `n` lower-case hex digits. -/
def extractPart (h : List Char) (n : Nat) : Option (List UInt8 × List Char) :=
  if (cut h).1.length ≠ n ∨ (cut h).1.any isUpperHex then none
  else (hexDecode (cut h).1).map ((·, (cut h).2))

theorem extractPart_hexEncode_dash {bs : List UInt8} {n : Nat} (r : List Char)
    (hn : 2 * bs.length = n) : extractPart (hexEncode bs ++ '-' :: r) n = some (bs, r) := by
  simp [extractPart, cut_append_dash r (dash_not_mem_hexEncode bs), hexEncode_any_isUpperHex,
    hexDecode_hexEncode, hn]

theorem extractPart_hexEncode {bs : List UInt8} {n : Nat} (hn : 2 * bs.length = n) :
    extractPart (hexEncode bs) n = some (bs, []) := by
  simp [extractPart, cut_of_not_mem (dash_not_mem_hexEncode bs), hexEncode_any_isUpperHex,
    hexDecode_hexEncode, hn]

/-! ## The propagator -/

section Propagator

variable (r : OtelRelease)

/-- The highest `traceparent` version `extract` accepts. -/
def maxVersion : Nat := 254

/-- The `traceparent` header `inject` writes: version `00` and the flags the release carries. -/
def traceparent (sc : SpanContext) : List Char :=
  "00-".toList ++ hexEncode sc.traceID.bytes ++ '-' :: hexEncode sc.spanID.bytes ++
    '-' :: hexEncode [sc.traceFlags &&& r.flagsKept]

/-- `TraceContext.Inject`: nothing for an invalid span context. -/
def inject (sc : SpanContext) (c : AMQPCarrier) : AMQPCarrier :=
  if sc.isValid then
    let c := if sc.traceState.render ≠ "" then c.set "tracestate" sc.traceState.render else c
    c.set "traceparent" (String.mk (traceparent r sc))
  else c

/-- The span context `extract` reads from a `traceparent` value and a `tracestate` value. -/
def parseTraceparent (h : List Char) (tracestate : String) : Option SpanContext := do
  if h = [] then none
  let (ver, h) ← extractPart h 2
  let version := (ver.headD 0).toNat
  if version > maxVersion then none
  let (traceID, h) ← extractPart h 32
  let (spanID, h) ← extractPart h 16
  let (opts, h) ← extractPart h 2
  let opts := opts.headD 0
  if version = 0 ∧ (h ≠ [] ∨ opts > r.maxFlags) then none
  let sc : SpanContext := ⟨TraceID.ofBytes traceID, SpanID.ofBytes spanID, opts &&& r.flagsKept,
    parseTraceState tracestate, true⟩
  if sc.isValid then some sc else none

/-- `TraceContext.Extract` followed by `SpanContextFromContext`: the empty span context
unless the headers carry a valid one. -/
def extract (c : AMQPCarrier) : SpanContext :=
  (parseTraceparent r (c.get "traceparent").toList (c.get "tracestate")).getD SpanContext.empty

/-- The W3C trace-context propagator of the release. -/
def traceContext : Propagator := ⟨inject r, extract r⟩

/-- The fields the W3C propagator sets for a span context: `tracestate` when it has one, then
`traceparent`; none for an invalid span context. -/
def traceFields (sc : SpanContext) : List (String × String) :=
  if sc.isValid then
    (if sc.traceState.render ≠ "" then [("tracestate", sc.traceState.render)] else []) ++
      [("traceparent", String.mk (traceparent r sc))]
  else []

theorem traceContext_injects (sc : SpanContext) : (traceContext r).Injects sc (traceFields r sc) := by
  intro c
  simp only [traceContext, inject, traceFields]
  split_ifs <;> rfl

theorem kept_mask_idem (f : UInt8) : (f &&& r.flagsKept) &&& r.flagsKept = f &&& r.flagsKept := by
  show UInt8.land (UInt8.land f _) _ = UInt8.land f _
  simp only [UInt8.land, BitVec.and_assoc, BitVec.and_self]

/-- The flags the release carries pass the version `00` check. -/
theorem kept_mask_le (f : UInt8) : f &&& r.flagsKept ≤ r.maxFlags := by
  rw [UInt8.le_def, BitVec.le_def]
  cases r
  · exact Nat.le_trans (Nat.and_le_right (m := 1)) (by decide)
  · exact Nat.and_le_right (m := 3)

/-- Parsing the `traceparent` of a valid span context gives back its IDs and the flags the
release carries, with the trace state read from `ts`. -/
theorem parseTraceparent_traceparent (sc : SpanContext) (ts : String) (h : sc.isValid) :
    parseTraceparent r (traceparent r sc) ts = some (sc.received r (parseTraceState ts)) := by
  have e : traceparent r sc = hexEncode [0] ++ '-' :: (hexEncode sc.traceID.bytes ++ '-' ::
      (hexEncode sc.spanID.bytes ++ '-' :: hexEncode [sc.traceFlags &&& r.flagsKept])) := by
    simp [traceparent]; rfl
  have h0 := fun r => @extractPart_hexEncode_dash [0] 2 r rfl
  have ht := fun r => extractPart_hexEncode_dash (n := 32) r (by rw [sc.traceID.length_eq])
  have hs := fun r => extractPart_hexEncode_dash (n := 16) r (by rw [sc.spanID.length_eq])
  have hf := @extractPart_hexEncode [sc.traceFlags &&& r.flagsKept] 2 rfl
  rw [e]
  simp [parseTraceparent, h0, ht, hs, hf, maxVersion, kept_mask_le, SpanContext.received,
    kept_mask_idem]
  simpa [SpanContext.isValid] using h

/-- `extract` reads a carrier whose `traceparent` is the one `inject` writes for a valid
span context as that context's IDs and carried flags, with the trace state of the carrier. -/
theorem extract_of_traceparent {c : AMQPCarrier} {sc : SpanContext} (h : sc.isValid)
    (hc : c.get "traceparent" = String.mk (traceparent r sc)) :
    extract r c = sc.received r (parseTraceState (c.get "tracestate")) := by
  rw [extract, hc]
  exact congrArg (Option.getD · _) (parseTraceparent_traceparent r sc _ h)

/-- The round trip of the W3C propagator through a header carrier: a span context with a trace
state comes back with that trace state. -/
theorem extract_inject (sc : SpanContext) (c : AMQPCarrier) (h : sc.isValid) :
    extract r (inject r sc c) = sc.received r (parseTraceState ((inject r sc c).get "tracestate")) ∧
      (sc.traceState.render ≠ "" → extract r (inject r sc c) = sc.received r sc.traceState) := by
  have hx := extract_of_traceparent r h (c := inject r sc c) (by simp [inject, h])
  refine ⟨hx, fun hs => ?_⟩
  rw [hx]
  simp [inject, h, hs, parseTraceState_render]

end Propagator

end Tracing
end MsaCore
