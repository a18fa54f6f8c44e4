import MsaCore.Amqp.Channel
import MsaCore.Tracing.TraceContext

/-!
# Publishing

`PublishWithOptions` serialises the message, builds the `amqp.Publishing` envelope, merges
the caller's headers into it, injects the publish span's trace context through the header
carrier, mirrors the message ID into `x-message-id`, and hands the envelope to the channel.
The channel does not wait for a reply to `basic.publish`.

The publish span is the span `r.trace(ctx, "publish")` starts: the client's tracer, given as
the parameter `tracer`, starts `rabbitmq.publish` under the span of the caller's context `ctx`,
and the trace context injected into the headers is that span's. `json.Marshal` belongs to the
Go library; it is the parameter `marshal` here, and `now` is the clock reading of `time.Now()`.
-/

namespace MsaCore
namespace RabbitMQ

open Amqp Tracing

/-- `models.PublishOptions`. Times are Unix nanoseconds, `0` being Go's zero `time.Time`. -/
structure PublishOptions where
  mandatory : Bool := false
  immediate : Bool := false
  contentType : String := ""
  headers : Option Table := none
  priority : UInt8 := 0
  expiration : String := ""
  messageID : String := ""
  timestamp : Nat := 0
  type : String := ""
  userID : String := ""
  appID : String := ""

/-- The payloads the type switch of `PublishWithOptions` tells apart. -/
inductive Message (α : Type) where
  | bytes (b : List UInt8)
  | string (s : String)
  | value (v : α)

/-- The body: byte slices and strings as they are, every other value through `json.Marshal`. -/
def serialize {α : Type} (marshal : α → Except Error (List UInt8)) :
    Message α → Except Error (List UInt8)
  | .bytes b => .ok b
  | .string s => .ok s.toUTF8.toList
  | .value v => marshal v

/-- The envelope's headers: the caller's headers copied into a fresh table, the trace context
injected, then `x-message-id` when a message ID is given. -/
def publishHeaders (prop : Propagator) (span : SpanContext) (options : PublishOptions) :
    Option Table :=
  let carrier := prop.inject span ⟨some (options.headers.getD ∅)⟩
  if options.messageID ≠ "" then
    some ((carrier.headers.getD ∅).insert "x-message-id" (.str options.messageID))
  else carrier.headers

/-- The `amqp.Publishing` built for a serialised body: content type `application/json` by
default, persistent, stamped with the send time unless the options give one, and each
optional field copied only when set. -/
def envelope (prop : Propagator) (span : SpanContext) (now : Nat) (body : List UInt8)
    (options : PublishOptions) : Publishing where
  contentType := if options.contentType = "" then "application/json" else options.contentType
  body := body
  deliveryMode := persistent
  timestamp := if options.timestamp ≠ 0 then options.timestamp else now
  headers := publishHeaders prop span options
  messageId := if options.messageID ≠ "" then options.messageID else ""
  priority := if options.priority > 0 then options.priority else 0
  expiration := if options.expiration ≠ "" then options.expiration else ""
  type := if options.type ≠ "" then options.type else ""
  userId := if options.userID ≠ "" then options.userID else ""
  appId := if options.appID ≠ "" then options.appID else ""

/-- `trace`: the span the client's tracer starts for an operation, under the caller's span. -/
def trace (tracer : Tracer) (ctx : SpanContext) (operation : String) : SpanContext :=
  tracer.start ctx ("rabbitmq." ++ operation)

/-- `PublishWithOptions`: a serialisation failure is returned before the broker is contacted;
otherwise the envelope, carrying the publish span's trace context, is published without
waiting for a reply. -/
def publishWithOptions {α : Type} (marshal : α → Except Error (List UInt8)) (prop : Propagator)
    (tracer : Tracer) (ctx : SpanContext) (now : Nat) (s : Session) (exchange routingKey : String)
    (message : Message α) (options : PublishOptions) : Outcome :=
  let span := trace tracer ctx "publish"
  match serialize marshal message with
  | .error err => (some (.wrap "failed to marshal message" err), s)
  | .ok body =>
    callWrapped s
      (.basicPublish exchange routingKey options.mandatory options.immediate
        (envelope prop span now body options))
      true "failed to publish message"

/-- `Publish`: `PublishWithOptions` with the default options. -/
def publish {α : Type} (marshal : α → Except Error (List UInt8)) (prop : Propagator)
    (tracer : Tracer) (ctx : SpanContext) (now : Nat) (s : Session) (exchange routingKey : String)
    (message : Message α) : Outcome :=
  publishWithOptions marshal prop tracer ctx now s exchange routingKey message {}

/-! ## What publishing sends -/

/-- The envelope's headers, read through the carrier: the injected carrier, with
`x-message-id` set when a message ID is given. -/
theorem publishHeaders_carrier (prop : Propagator) (span : SpanContext) (options : PublishOptions) :
    (⟨publishHeaders prop span options⟩ : AMQPCarrier) =
      if options.messageID ≠ "" then
        (prop.inject span ⟨some (options.headers.getD ∅)⟩).set "x-message-id" options.messageID
      else prop.inject span ⟨some (options.headers.getD ∅)⟩ := by
  unfold publishHeaders
  split_ifs <;> rfl

/-- A message that serialises is published as its envelope, without waiting for a reply. -/
theorem publishWithOptions_of_serialize {α : Type} {marshal : α → Except Error (List UInt8)}
    {message : Message α} {body : List UInt8} (h : serialize marshal message = .ok body)
    (prop : Propagator) (tracer : Tracer) (ctx : SpanContext) (now : Nat) (s : Session)
    (exchange routingKey : String) (options : PublishOptions) :
    publishWithOptions marshal prop tracer ctx now s exchange routingKey message options =
      callWrapped s
        (.basicPublish exchange routingKey options.mandatory options.immediate
          (envelope prop (trace tracer ctx "publish") now body options))
        true "failed to publish message" := by
  simp only [publishWithOptions, h]

/-! ## The envelope against its description -/

/-- The injected fields as a header table: the last value set for each key. -/
def fieldsTable (fields : List (String × String)) : Table :=
  fields.foldl (fun t f => t.insert f.1 (.str f.2)) ∅

/-- The headers a publish sends, as the publisher describes them: the caller's headers
overridden by the injected fields, then by `x-message-id` when a message ID is set. -/
def referenceHeaders (fields : List (String × String)) (options : PublishOptions) : Table :=
  let headers := fieldsTable fields ∪ options.headers.getD ∅
  if options.messageID = "" then headers else headers.insert "x-message-id" (.str options.messageID)

/-- The envelope a publish sends, as the publisher describes it: content type
`application/json` unless one is given, persistent, stamped with the send time unless a
timestamp is given, and every other optional field as the options give it. -/
def referenceEnvelope (fields : List (String × String)) (now : Nat) (body : List UInt8)
    (options : PublishOptions) : Publishing where
  contentType := if options.contentType = "" then "application/json" else options.contentType
  body := body
  deliveryMode := persistent
  timestamp := if options.timestamp = 0 then now else options.timestamp
  headers := some (referenceHeaders fields options)
  messageId := options.messageID
  priority := options.priority
  expiration := options.expiration
  type := options.type
  userId := options.userID
  appId := options.appID

theorem foldl_set_some (fields : List (String × String)) (t : Table) :
    fields.foldl (fun c f => c.set f.1 f.2) (⟨some t⟩ : AMQPCarrier) =
      ⟨some (fields.foldl (fun t f => t.insert f.1 (.str f.2)) t)⟩ := by
  induction fields generalizing t with
  | nil => rfl
  | cons f fields ih => exact ih _

theorem foldl_insert_union (fields : List (String × String)) (s t : Table) :
    fields.foldl (fun t f => t.insert f.1 (.str f.2)) (s ∪ t) =
      fields.foldl (fun t f => t.insert f.1 (.str f.2)) s ∪ t := by
  induction fields generalizing s with
  | nil => rfl
  | cons f fields ih => rw [List.foldl_cons, List.foldl_cons, Finmap.insert_union, ih]

theorem lookup_foldl_insert_of_not_mem {fields : List (String × String)} {key : String}
    (h : key ∉ fields.map Prod.fst) (s : Table) :
    (fields.foldl (fun t f => t.insert f.1 (.str f.2)) s).lookup key = s.lookup key := by
  induction fields generalizing s with
  | nil => rfl
  | cons f fields ih =>
    simp only [List.map_cons, List.mem_cons, not_or] at h
    rw [List.foldl_cons, ih h.2, Finmap.lookup_insert_of_ne _ h.1]

/-- Under a propagator that injects `fields`, the envelope's headers are the reference ones. -/
theorem publishHeaders_of_injects {prop : Propagator} {span : SpanContext}
    {fields : List (String × String)} (hF : prop.Injects span fields) (options : PublishOptions) :
    publishHeaders prop span options = some (referenceHeaders fields options) := by
  have hu := foldl_insert_union fields ∅ (options.headers.getD ∅)
  rw [Finmap.empty_union] at hu
  simp only [publishHeaders, referenceHeaders, hF ⟨some (options.headers.getD ∅)⟩, foldl_set_some,
    hu, fieldsTable]
  split_ifs <;> simp_all

/-- A priority that is not positive is zero. -/
theorem priority_eq_zero_of_not_pos {p : UInt8} (h : ¬ p > 0) : p = 0 := by
  have h' : p.toNat ≤ (0 : UInt8).toNat := UInt8.not_lt.mp h
  exact UInt8.toNat.inj (by simp only [UInt8.toNat_zero] at h' ⊢; omega)

/-- Under a propagator that injects `fields`, the envelope is the reference one: each
optional field copied "when set" is the option itself. -/
theorem envelope_of_injects {prop : Propagator} {span : SpanContext}
    {fields : List (String × String)} (hF : prop.Injects span fields) (now : Nat)
    (body : List UInt8) (options : PublishOptions) :
    envelope prop span now body options = referenceEnvelope fields now body options := by
  have hp : (if options.priority > 0 then options.priority else 0) = options.priority := by
    split_ifs with h
    · rfl
    · exact (priority_eq_zero_of_not_pos h).symm
  have hs : ∀ x : String, (if x = "" then "" else x) = x := fun x => by split_ifs with h <;> simp [h]
  simp only [envelope, referenceEnvelope, publishHeaders_of_injects hF, hp, ne_eq, ite_not, hs]

/-- What `PublishWithOptions` hands to the channel, for a message that serialises and a
propagator that injects `fields`: the reference envelope, with the mandatory and immediate
flags of the options; a caller header that is neither injected nor `x-message-id` is sent as the
caller gave it. -/
theorem publishWithOptions_sends_reference_envelope {α : Type}
    {marshal : α → Except Error (List UInt8)} {message : Message α} {body : List UInt8}
    (hb : serialize marshal message = .ok body) {prop : Propagator} {tracer : Tracer}
    {ctx : SpanContext} {fields : List (String × String)}
    (hF : prop.Injects (trace tracer ctx "publish") fields) (now : Nat) (s : Session)
    (exchange routingKey : String) (options : PublishOptions) :
    publishWithOptions marshal prop tracer ctx now s exchange routingKey message options =
        callWrapped s
          (.basicPublish exchange routingKey options.mandatory options.immediate
            (referenceEnvelope fields now body options))
          true "failed to publish message" ∧
      ∀ key, key ∉ fields.map Prod.fst → key ≠ "x-message-id" →
        (referenceHeaders fields options).lookup key = (options.headers.getD ∅).lookup key := by
  refine ⟨by rw [publishWithOptions_of_serialize hb, envelope_of_injects hF], fun key hk hm => ?_⟩
  have hf : key ∉ fieldsTable fields := by
    rw [← Finmap.lookup_eq_none, fieldsTable, lookup_foldl_insert_of_not_mem hk]
    rfl
  simp only [referenceHeaders]
  split_ifs
  · exact Finmap.lookup_union_right hf
  · rw [Finmap.lookup_insert_of_ne _ hm, Finmap.lookup_union_right hf]

/-- A sampled publisher span context. -/
def publisherSpan : SpanContext :=
  ⟨TraceID.ofBytes (List.replicate 16 1), SpanID.ofBytes (List.replicate 8 1), 1,
    TraceState.empty, false⟩

/-- A tracer that starts each span under its parent with the span ID `02…02`. -/
def childTracer : Tracer :=
  ⟨fun parent _ => { parent with spanID := SpanID.ofBytes (List.replicate 8 2), remote := false }⟩

theorem childTracer_continuesTrace : childTracer.ContinuesTrace := fun _ _ h => by
  simp only [SpanContext.isValid, Bool.and_eq_true] at h
  exact ⟨by simp only [childTracer, SpanContext.isValid, h.1, Bool.true_and]; decide, rfl⟩

/-- Publish options with a caller header `a = 1` and a message ID. -/
def orderOptions : PublishOptions :=
  { headers := some ((∅ : Table).insert "a" (.str "1")), messageID := "m-1" }

theorem publishWithOptions_sends_reference_envelope_orders :
    (serialize (fun _ : Unit => .ok []) (.string "created") = .ok "created".toUTF8.toList ∧
      (traceContext .level1).Injects (trace childTracer publisherSpan "publish")
        (traceFields .level1 (trace childTracer publisherSpan "publish"))) ∧
    publishWithOptions (fun _ : Unit => .ok []) (traceContext .level1) childTracer publisherSpan 0
          (Session.opened Broker.empty) "orders-exchange" "orders" (.string "created") orderOptions =
        callWrapped (Session.opened Broker.empty)
          (.basicPublish "orders-exchange" "orders" false false
            (referenceEnvelope (traceFields .level1 (trace childTracer publisherSpan "publish")) 0
              "created".toUTF8.toList orderOptions))
          true "failed to publish message" ∧
      ∀ key, key ∉ (traceFields .level1 (trace childTracer publisherSpan "publish")).map Prod.fst →
        key ≠ "x-message-id" →
        (referenceHeaders (traceFields .level1 (trace childTracer publisherSpan "publish"))
          orderOptions).lookup key = (orderOptions.headers.getD ∅).lookup key :=
  have h : _ ∧ _ := ⟨rfl, traceContext_injects .level1 _⟩
  ⟨h, publishWithOptions_sends_reference_envelope h.1 h.2 0 (Session.opened Broker.empty)
    "orders-exchange" "orders" orderOptions⟩

end RabbitMQ
end MsaCore
