import MsaCore.RabbitMQ.TraceLink

/-!
# The HTTP tracing middleware

`TracingMiddleware.Middleware()` starts a root span for a write request (`POST`, `PUT`,
`DELETE`, `PATCH`): it extracts the caller's span context from the request headers, starts the
span `"<method> <route>"` under it, and hands the handler a request whose context holds the new
span. A read request goes on with the context it came with.

The propagator is `otel.GetTextMapPropagator()`, the W3C one of the same otel release as the
RabbitMQ client's, reading the headers through `propagation.HeaderCarrier` (`Header.Get`); its
`Extract` keeps the request's context when the headers carry no valid span context. The
middleware's tracer and the client's are abstract: `Start` under a valid parent gives a valid
span of the parent's trace (`Tracer.ContinuesTrace`), as the SDK's does. Left out: the
attributes, the status and the error the middleware records on its span, and `c.Set("span")`,
which nothing in the library reads.

* A write request whose `traceparent` is that of a valid span runs its handler in that span's
  trace; a message the handler publishes carries the publish span the client's tracer starts
  under the handler's span, and its consumer links it to a span of the same trace: the trace
  runs from the HTTP caller through the broker to the consumer. A read request runs its
  handler under the context it came with, whatever its headers say
  (`write_request_trace_reaches_consumer`).
-/

namespace MsaCore
namespace Middleware

open Amqp Tracing RabbitMQ

/-- What `Middleware()` reads of a request. -/
structure HttpRequest where
  method : String
  /-- `c.Path()`: the route the request matched, or empty. -/
  path : String
  /-- `req.URL.Path`. -/
  urlPath : String
  /-- `req.Header.Get`. -/
  header : String → String
  /-- The span context of `req.Context()`. -/
  span : SpanContext

/-- `isWriteOperation`. -/
def isWriteOperation (method : String) : Bool :=
  method = "POST" || method = "PUT" || method = "DELETE" || method = "PATCH"

/-- `m.propagator.Extract(req.Context(), propagation.HeaderCarrier(req.Header))`, as
`SpanContextFromContext` reads it: the headers' span context when they carry a valid one,
otherwise that of the request's context. -/
def extractHeader (r : OtelRelease) (header : String → String) (ctxSpan : SpanContext) :
    SpanContext :=
  (parseTraceparent r (header "traceparent").toList (header "tracestate")).getD ctxSpan

/-- The name of the root span: the method and the route, or the method and the URL path when
that name is a lone space. -/
def spanName (req : HttpRequest) : String :=
  let spanName := req.method ++ " " ++ req.path
  if spanName = " " then req.method ++ " " ++ req.urlPath else spanName

/-- What the handler runs under: the span context of its request's context, and the name of
the root span `Middleware()` started for it, if any. -/
structure Traced where
  span : SpanContext
  root : Option String

/-- `Middleware()` up to its call of the next handler. -/
def tracingMiddleware (r : OtelRelease) (tracer : Tracer) (req : HttpRequest) : Traced :=
  if isWriteOperation req.method then
    let ctx := extractHeader r req.header req.span
    let spanName := spanName req
    ⟨tracer.start ctx spanName, some spanName⟩
  else ⟨req.span, none⟩

/-! ## From the HTTP caller to the consumer -/

/-- The headers of a request whose `traceparent` is that of a valid span give that span. -/
theorem extractHeader_traceparent (r : OtelRelease) {header : String → String}
    {client : SpanContext} (hc : client.isValid)
    (hh : header "traceparent" = String.mk (traceparent r client)) (ctxSpan : SpanContext) :
    extractHeader r header ctxSpan = client.received r (parseTraceState (header "tracestate")) := by
  rw [extractHeader, hh]
  exact congrArg (Option.getD · _) (parseTraceparent_traceparent r client _ hc)

/-- Under a tracer that continues traces, a write request whose `traceparent` is that of a
valid span runs its handler under a valid span of that span's trace. -/
theorem tracingMiddleware_continues (r : OtelRelease) {tracer : Tracer}
    (htr : tracer.ContinuesTrace) {req : HttpRequest} {client : SpanContext}
    (hw : isWriteOperation req.method) (hc : client.isValid)
    (hh : req.header "traceparent" = String.mk (traceparent r client)) :
    (tracingMiddleware r tracer req).span.isValid ∧
      (tracingMiddleware r tracer req).span.traceID = client.traceID := by
  have hspan : (tracingMiddleware r tracer req).span =
      tracer.start (client.received r (parseTraceState (req.header "tracestate"))) (spanName req) := by
    simp only [tracingMiddleware, hw, if_true, extractHeader_traceparent r hc hh]
  rw [hspan]
  exact htr _ _ (by simpa using hc)

/-- With the W3C propagator of any otel release, and a middleware tracer and a client tracer
that continue traces: a write request whose `traceparent` is that of a valid span runs its
handler under a valid span of that span's trace, and the consumer of a message the handler
publishes, under the publish span the client's tracer starts there, links its handling span to
exactly one span, of the same trace. A read request runs its handler under the span context of
the context it came with, whatever its headers. -/
theorem write_request_trace_reaches_consumer (r : OtelRelease) {tracer clientTracer : Tracer}
    (htr : tracer.ContinuesTrace) (htc : clientTracer.ContinuesTrace) (req : HttpRequest) :
    (∀ client : SpanContext, isWriteOperation req.method → client.isValid →
      req.header "traceparent" = String.mk (traceparent r client) →
      (tracingMiddleware r tracer req).span.isValid ∧
        (tracingMiddleware r tracer req).span.traceID = client.traceID ∧
        ∀ (now : Nat) (body : List UInt8) (options : PublishOptions) (tag : Nat)
          (exchange routingKey : String),
          ∃ link, publisherLinks (traceContext r) (Delivery.ofPublishing tag exchange routingKey
              (envelope (traceContext r)
                (trace clientTracer (tracingMiddleware r tracer req).span "publish")
                now body options)) = [link] ∧
            link.spanContext.traceID = client.traceID) ∧
    (isWriteOperation req.method = false → ∀ header : String → String,
      tracingMiddleware r tracer { req with header } = ⟨req.span, none⟩) := by
  refine ⟨fun client hw hc hh => ?_, fun hr _ => by simp [tracingMiddleware, hr]⟩
  obtain ⟨hv, ht⟩ := tracingMiddleware_continues r htr hw hc hh
  obtain ⟨hpv, hpt⟩ := htc (tracingMiddleware r tracer req).span "rabbitmq.publish" hv
  refine ⟨hv, ht, fun now body options tag exchange routingKey => ?_⟩
  obtain ⟨ts, he⟩ : ∃ ts, (traceContext r).extract ⟨(Delivery.ofPublishing tag exchange routingKey
      (envelope (traceContext r) (trace clientTracer _ "publish") now body options)).headers⟩ =
      (trace clientTracer (tracingMiddleware r tracer req).span "publish").received r ts :=
    ⟨_, extract_publishHeaders r hpv options⟩
  exact ⟨_, publisherLinks_of_isValid (by rwa [he, SpanContext.received_isValid]),
    by rw [he, ← ht]; exact hpt⟩

/-- `POST /orders` from a caller in the trace of `publisherSpan`. -/
def ordersPost : HttpRequest :=
  ⟨"POST", "/orders", "/orders", fun k =>
    if k = "traceparent" then String.mk (traceparent .level1 publisherSpan) else "",
    SpanContext.empty⟩

theorem write_request_trace_reaches_consumer_orders :
    (childTracer.ContinuesTrace ∧ isWriteOperation ordersPost.method ∧ publisherSpan.isValid ∧
      ordersPost.header "traceparent" = String.mk (traceparent .level1 publisherSpan) ∧
      isWriteOperation "GET" = false) ∧
    ((tracingMiddleware .level1 childTracer ordersPost).span.traceID = publisherSpan.traceID ∧
      ∃ link, publisherLinks (traceContext .level1)
          (Delivery.ofPublishing 1 "orders-exchange" "orders" (envelope (traceContext .level1)
            (trace childTracer (tracingMiddleware .level1 childTracer ordersPost).span "publish")
            0 [] {})) = [link] ∧
        link.spanContext.traceID = publisherSpan.traceID) ∧
    tracingMiddleware .level1 childTracer { ordersPost with method := "GET" } =
      ⟨SpanContext.empty, none⟩ :=
  have h : _ ∧ _ ∧ _ ∧ _ ∧ _ := ⟨childTracer_continuesTrace, by decide, by decide, by decide, by decide⟩
  have hw := (write_request_trace_reaches_consumer .level1 h.1 h.1 ordersPost).1 publisherSpan
    h.2.1 h.2.2.1 h.2.2.2.1
  ⟨h, ⟨hw.2.1, hw.2.2 0 [] {} 1 "orders-exchange" "orders"⟩,
    (write_request_trace_reaches_consumer .level1 h.1 h.1 { ordersPost with method := "GET" }).2
      h.2.2.2.2 ordersPost.header⟩

end Middleware
end MsaCore
