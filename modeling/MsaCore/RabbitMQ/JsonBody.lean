import MsaCore.RabbitMQ.Publish
import MsaCore.Json.RoundTrip

/-!
# What a consumer decodes from a published body

A caller of `Publish` passes a JSON value as its Go value: a `string` for a JSON string, and
`nil`, a `bool`, a `float64`, a `[]interface{}` or a `map[string]interface{}` for the others.
The type switch of `PublishWithOptions` sends a Go string as its own UTF-8 bytes and hands
every other value to `json.Marshal`. So what a consumer decodes from the body is the payload
for every value but a string; the characters of a string, read as a JSON text, never decode
to that string.

The body is the UTF-8 encoding of a text, and the decoder reads that text.
-/

namespace MsaCore
namespace RabbitMQ

open Amqp Tracing Json

/-- A JSON value as the Go value a caller passes to `Publish`. -/
def goValue : Json.Value → Message Json.Value
  | .str s => .string s
  | v => .value v

/-- `json.Marshal` on a JSON value: the UTF-8 bytes of its text. It does not fail there. -/
def marshalJson (v : Json.Value) : Except Error (List UInt8) :=
  .ok (String.mk (encode v)).toUTF8.toList

/-- The text whose UTF-8 bytes a payload is sent as: a string's own characters, and what
`json.Marshal` writes for every other value. -/
def sentText : Json.Value → List Char
  | .str s => s.data
  | v => encode v

/-- The body the type switch builds for a JSON payload. -/
theorem serialize_goValue (v : Json.Value) :
    serialize marshalJson (goValue v) = .ok (String.mk (sentText v)).toUTF8.toList := by
  cases v <;> rfl

/-- The text sent for a payload decodes back to it exactly when it is not a string. -/
theorem decode_sentText (v : Json.Value) : decode (sentText v) = some v ↔ v.isStr = false := by
  cases v with
  | str s => simpa [sentText, Value.isStr] using decode_data_ne_str s
  | _ => simp [sentText, Value.isStr, decode_encode]

/-- `Publish` of a JSON payload sends the envelope of the UTF-8 bytes of `sentText v`, which
a consumer decodes back to `v` exactly when `v` is not a string. -/
theorem publish_json_payload_round_trip (prop : Propagator) (tracer : Tracer) (ctx : SpanContext)
    (now : Nat) (s : Session) (exchange routingKey : String) (v : Json.Value) :
    publish marshalJson prop tracer ctx now s exchange routingKey (goValue v) =
        callWrapped s
          (.basicPublish exchange routingKey false false
            (envelope prop (trace tracer ctx "publish") now (String.mk (sentText v)).toUTF8.toList {}))
          true "failed to publish message" ∧
      (decode (sentText v) = some v ↔ v.isStr = false) :=
  ⟨publishWithOptions_of_serialize (serialize_goValue v) prop tracer ctx now s exchange routingKey {},
    decode_sentText v⟩

/-- The payload of the reference scenario, `{"orderId":"1"}`. -/
def orderPayload : Json.Value := .obj [("orderId", .str "1")]

theorem publish_json_payload_round_trip_orders :
    publish marshalJson (traceContext .level1) childTracer publisherSpan 0
        (Session.opened Broker.empty) "E" "k" (goValue orderPayload) =
        callWrapped (Session.opened Broker.empty)
          (.basicPublish "E" "k" false false
            (envelope (traceContext .level1) (trace childTracer publisherSpan "publish") 0
              (String.mk (sentText orderPayload)).toUTF8.toList {}))
          true "failed to publish message" ∧
      (decode (sentText orderPayload) = some orderPayload ↔ orderPayload.isStr = false) :=
  publish_json_payload_round_trip (traceContext .level1) childTracer publisherSpan 0
    (Session.opened Broker.empty) "E" "k" orderPayload

/-- The JSON string `"paid"`, given as the Go string `"paid"`, is published as the four bytes
`paid`, which do not decode at all. -/
theorem publish_string_payload_not_json :
    publish marshalJson (traceContext .level1) childTracer publisherSpan 0
        (Session.opened Broker.empty) "E" "k" (goValue (.str "paid")) =
        callWrapped (Session.opened Broker.empty)
          (.basicPublish "E" "k" false false
            (envelope (traceContext .level1) (trace childTracer publisherSpan "publish") 0
              "paid".toUTF8.toList {}))
          true "failed to publish message" ∧
      decode "paid".data = none :=
  have hs : serialize marshalJson (goValue (.str "paid")) = .ok "paid".toUTF8.toList := rfl
  ⟨publishWithOptions_of_serialize hs _ _ _ _ _ _ _ _, rfl⟩

end RabbitMQ
end MsaCore
