import MsaCore.RabbitMQ.Publish
import MsaCore.RabbitMQ.Consume

/-!
# Publisher and consumer traces

The publisher injects the publish span's context into the message headers; the consumer
extracts it and starts a new root span that links to it. With the W3C propagator and a broker
that hands the headers over unchanged, the link of the handling span carries the publish
span's trace and span IDs, whatever the caller put in the headers: `inject` overwrites a
caller's `traceparent`, and `x-message-id` is another key.

The propagator carries only some of the trace flags, which depend on the otel release: the
link carries `traceFlags &&& flagsKept`, so a publish span with another flag bit set is linked
with that bit cleared, in every release. Its trace state is what `ParseTraceState` reads from
the delivery's `tracestate` header: the publish span's own when it has one, and otherwise
whatever the caller's headers held, or the empty trace state.
-/

namespace MsaCore
namespace RabbitMQ

open Amqp Tracing

section Published

variable (r : OtelRelease) {span : SpanContext} (hs : span.isValid) (options : PublishOptions)

include hs

/-- The envelope's `traceparent` header is the publish span's, whatever the caller's
headers held. -/
theorem publishHeaders_traceparent :
    (⟨publishHeaders (traceContext r) span options⟩ : AMQPCarrier).get "traceparent" =
      String.mk (traceparent r span) := by
  rw [publishHeaders_carrier]
  split_ifs <;> simp [traceContext, inject, hs]

/-- The envelope's `tracestate` header is the publish span's trace state when it has one. -/
theorem publishHeaders_tracestate (ht : span.traceState.render ≠ "") :
    (⟨publishHeaders (traceContext r) span options⟩ : AMQPCarrier).get "tracestate" =
      span.traceState.render := by
  rw [publishHeaders_carrier]
  split_ifs <;> simp [traceContext, inject, hs, ht]

/-- The consumer of a published message extracts the publish span's context with the flags
the release carries, marked remote, with the trace state read from the headers. -/
theorem extract_publishHeaders :
    extract r ⟨publishHeaders (traceContext r) span options⟩ =
      span.received r (parseTraceState
        ((⟨publishHeaders (traceContext r) span options⟩ : AMQPCarrier).get "tracestate")) :=
  extract_of_traceparent r hs (publishHeaders_traceparent r hs options)

/-- The handling of a published message, delivered under any tag, starts a root span with
one link to the publish span, carrying the delivery's message ID, routing key and exchange. -/
theorem beginHandling_published (now : Nat) (body : List UInt8) (tag : Nat)
    (exchange routingKey : String) :
    let d := Delivery.ofPublishing tag exchange routingKey
      (envelope (traceContext r) span now body options)
    beginHandling (traceContext r) d =
      [.startSpan SpanContext.empty "rabbitmq.handle_message"
        [⟨span.received r (parseTraceState ((⟨d.headers⟩ : AMQPCarrier).get "tracestate")),
          [("messaging.message_id", d.messageId), ("messaging.routing_key", routingKey),
            ("messaging.exchange", exchange)]⟩], .handle d] := by
  intro d
  have he : extract r ⟨d.headers⟩ =
      span.received r (parseTraceState ((⟨d.headers⟩ : AMQPCarrier).get "tracestate")) :=
    extract_publishHeaders r hs options
  rw [beginHandling, publisherLinks_of_isValid (by simpa [traceContext, he] using hs)]
  simp only [traceContext, he]
  rfl

end Published

/-- A caller's span context with the trace flags `05`: sampled, and a bit no release carries. -/
def flaggedSpan : SpanContext := { publisherSpan with traceFlags := 5 }

/-- The publish span a client with `childTracer` starts under `flaggedSpan`; it keeps the
flags `05`. -/
def flaggedPublishSpan : SpanContext := trace childTracer flaggedSpan "publish"

/-- The delivery of a message published under `flaggedPublishSpan`. -/
def flaggedDelivery (r : OtelRelease) : Delivery :=
  Delivery.ofPublishing 1 "orders-exchange" "orders"
    (envelope (traceContext r) flaggedPublishSpan 0 [] {})

theorem beginHandling_flaggedDelivery (r : OtelRelease) :
    ∃ l, beginHandling (traceContext r) (flaggedDelivery r) =
        [.startSpan SpanContext.empty "rabbitmq.handle_message" [l], .handle (flaggedDelivery r)] ∧
      l.spanContext.traceFlags = 1 :=
  ⟨_, beginHandling_published r (by decide) {} 0 [] 1 "orders-exchange" "orders",
    by cases r <;> decide⟩

end RabbitMQ
end MsaCore
