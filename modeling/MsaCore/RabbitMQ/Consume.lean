import MsaCore.Amqp.Channel
import MsaCore.Tracing.TraceContext

/-!
# Consuming

`ConsumeWithOptions` registers a consumer on the client's channel and, when the broker
accepts it, starts one goroutine that ranges over the delivery stream. For each delivery the
goroutine extracts the publisher's span context from the headers, starts a new root span
linked to it, calls the handler inline, acknowledges or rejects the delivery according to
the handler's result (unless the consumer is auto-ack), and ends the span.

The goroutine is modelled by what it does, as a log of `ConsumerEvent`s: the spans it
starts and ends, the handler calls, the `Ack`/`Nack` calls and the error lines it logs. What
the handler returns on the `i`-th delivery and whether the `i`-th `Ack`/`Nack` call fails
are the environment's choice (`ConsumeEnv`), so every theorem holds for every handler and
every pattern of acknowledgment failures.
-/

namespace MsaCore
namespace RabbitMQ

open Amqp Tracing

/-- `models.ConsumeOptions`. -/
structure ConsumeOptions where
  consumer : String := ""
  autoAck : Bool := false
  exclusive : Bool := false
  noLocal : Bool := false
  noWait : Bool := false
  args : Table := ∅

/-- `trace.Link`: a span context and the link's string attributes. -/
structure Link where
  spanContext : SpanContext
  attributes : List (String × String)
  deriving DecidableEq

/-- What the consume goroutine does, in the order it does it. -/
inductive ConsumerEvent where
  /-- `tracer.Start(parent, name, trace.WithLinks(links...))`. -/
  | startSpan (parent : SpanContext) (name : String) (links : List Link)
  /-- `handler(deliveryCtx, delivery)`. -/
  | handle (d : Delivery)
  /-- `delivery.Ack(multiple)`. -/
  | ack (tag : Nat) (multiple : Bool)
  /-- `delivery.Nack(multiple, requeue)`. -/
  | nack (tag : Nat) (multiple requeue : Bool)
  /-- `r.logger.Errorf(...)`. -/
  | logError (msg : String)
  /-- `deliverySpan.End()`. -/
  | endSpan
  deriving DecidableEq

/-- The events the broker and the handler see: handler calls and settlements. -/
def ConsumerEvent.isProtocol : ConsumerEvent → Bool
  | .handle _ | .ack _ _ | .nack _ _ _ => true
  | _ => false

/-- The outcomes the environment chooses. -/
structure ConsumeEnv where
  /-- What the handler returns on the `i`-th delivery of the stream. -/
  handler : Nat → Delivery → Option Error
  /-- What the `Ack` or `Nack` call on the `i`-th delivery returns. -/
  settleErr : Nat → Option Error

/-! ## The consume call -/

/-- The consumer tag: the one given, else `consumer-<now in nanoseconds>`. -/
def consumerTag (options : ConsumeOptions) (now : Nat) : String :=
  if options.consumer = "" then "consumer-" ++ toString now else options.consumer

/-- `ConsumeWithOptions` up to the start of the goroutine: the `basic.consume` call. -/
def consumeWithOptions (s : Session) (now : Nat) (queue : String) (options : ConsumeOptions) :
    Outcome :=
  callWrapped s
    (.basicConsume queue (consumerTag options now) options.autoAck options.exclusive
      options.noLocal options.args)
    options.noWait "failed to start consuming"

/-- `Consume`: manual acknowledgment. -/
def consume (s : Session) (now : Nat) (queue : String) : Outcome :=
  consumeWithOptions s now queue { autoAck := false }

/-! ## The delivery loop -/

/-- The publisher's span context found in the headers, or the empty one. -/
def publisherSpanCtx (prop : Propagator) (d : Delivery) : SpanContext :=
  let spanCtx := prop.extract ⟨d.headers⟩
  if spanCtx.isValid then spanCtx else SpanContext.empty

/-- The links of the handling span: one to the publisher's span when there is one, with the
delivery's message ID, routing key and exchange. -/
def publisherLinks (prop : Propagator) (d : Delivery) : List Link :=
  if (publisherSpanCtx prop d).isValid then
    [⟨publisherSpanCtx prop d,
      [("messaging.message_id", d.messageId), ("messaging.routing_key", d.routingKey),
        ("messaging.exchange", d.exchange)]⟩]
  else []

theorem publisherLinks_of_isValid {prop : Propagator} {d : Delivery}
    (h : (prop.extract ⟨d.headers⟩).isValid) :
    publisherLinks prop d =
      [⟨prop.extract ⟨d.headers⟩,
        [("messaging.message_id", d.messageId), ("messaging.routing_key", d.routingKey),
          ("messaging.exchange", d.exchange)]⟩] := by
  simp [publisherLinks, publisherSpanCtx, h]

theorem publisherLinks_of_not_isValid {prop : Propagator} {d : Delivery}
    (h : (prop.extract ⟨d.headers⟩).isValid = false) : publisherLinks prop d = [] := by
  simp [publisherLinks, publisherSpanCtx, h]

/-- The handling span, started from `context.Background()`. -/
def beginHandling (prop : Propagator) (d : Delivery) : List ConsumerEvent :=
  [.startSpan SpanContext.empty "rabbitmq.handle_message" (publisherLinks prop d), .handle d]

section Loop

variable (prop : Propagator) (logger : Bool) (queue : String) (options : ConsumeOptions)
  (env : ConsumeEnv)

/-- An error line, when the client has a logger. -/
def logErr (msg : String) : List ConsumerEvent :=
  if logger then [.logError msg] else []

/-- A settlement call and, when it fails, its error line. -/
def settle (call : ConsumerEvent) (result : Option Error) (msg : String) : List ConsumerEvent :=
  call :: match result with
    | some err => logErr logger (msg ++ err.message)
    | none => []

/-- What follows the handler's return on the `i`-th delivery. -/
def finishHandling (i : Nat) (d : Delivery) : List ConsumerEvent :=
  (match env.handler i d with
    | some err =>
      logErr logger ("Failed to handle message: operation=handle_message, queue=" ++ queue ++
        ", message_id=" ++ d.messageId ++ ", error=" ++ err.message) ++
      if !options.autoAck then
        settle logger (.nack d.deliveryTag false true) (env.settleErr i) "Failed to nack message: error="
      else []
    | none =>
      if !options.autoAck then
        settle logger (.ack d.deliveryTag false) (env.settleErr i) "Failed to ack message: error="
      else []) ++
  [.endSpan]

/-- The goroutine over the deliveries of the stream from position `i` on. -/
def consumeLoop : Nat → List Delivery → List ConsumerEvent
  | _, [] => []
  | i, d :: ds =>
    beginHandling prop d ++ finishHandling logger queue options env i d ++ consumeLoop (i + 1) ds

end Loop

/-! ## The handler and settlement protocol -/

/-- What the loop owes the broker and the handler for one delivery: the handler once, then,
unless auto-ack, one settlement of that delivery alone: an ack if the handler succeeded,
a requeueing nack if it failed. -/
def expectedProtocol (options : ConsumeOptions) (result : Option Error) (d : Delivery) :
    List ConsumerEvent :=
  .handle d :: if options.autoAck then [] else
    match result with
    | none => [.ack d.deliveryTag false]
    | some _ => [.nack d.deliveryTag false true]

section Protocol

variable {prop : Propagator} {logger : Bool} {queue : String} {options : ConsumeOptions}
  {env : ConsumeEnv}

@[simp] theorem logErr_protocol (msg : String) :
    (logErr logger msg).filter ConsumerEvent.isProtocol = [] := by
  cases logger <;> rfl

theorem settle_protocol (call : ConsumerEvent) (r : Option Error) (msg : String) :
    (settle logger call r msg).filter ConsumerEvent.isProtocol =
      [call].filter ConsumerEvent.isProtocol := by
  cases r <;> simp [settle, List.filter_cons]

/-- One iteration's handler call and settlement. -/
theorem handleDelivery_protocol (i : Nat) (d : Delivery) :
    (beginHandling prop d ++ finishHandling logger queue options env i d).filter
        ConsumerEvent.isProtocol =
      expectedProtocol options (env.handler i d) d := by
  simp only [beginHandling, finishHandling, expectedProtocol, List.filter_append, List.filter_cons,
    ConsumerEvent.isProtocol]
  cases env.handler i d <;> cases options.autoAck <;>
    simp [settle_protocol, List.filter_cons, ConsumerEvent.isProtocol]

/-- The consume loop calls the handler on every delivery of the stream once, in order, and
settles each one as `expectedProtocol` says, whatever the handler returns on each delivery
and whichever `Ack`/`Nack` calls fail. -/
theorem consumeLoop_protocol (i : Nat) (ds : List Delivery) :
    (consumeLoop prop logger queue options env i ds).filter ConsumerEvent.isProtocol =
      (ds.enumFrom i).flatMap fun (j, d) => expectedProtocol options (env.handler j d) d := by
  induction ds generalizing i with
  | nil => rfl
  | cons d ds ih =>
    rw [consumeLoop, List.filter_append, handleDelivery_protocol, ih, List.enumFrom_cons,
      List.flatMap_cons]

/-- The loop over one more delivery: its events follow those of the earlier ones. -/
theorem consumeLoop_append_single (i : Nat) (ds : List Delivery) (d : Delivery) :
    consumeLoop prop logger queue options env i (ds ++ [d]) =
      consumeLoop prop logger queue options env i ds ++
        (beginHandling prop d ++ finishHandling logger queue options env (i + ds.length) d) := by
  induction ds generalizing i with
  | nil => simp [consumeLoop]
  | cons d' ds ih => simp [consumeLoop, ih, Nat.add_assoc, Nat.add_comm 1]

end Protocol

end RabbitMQ
end MsaCore
