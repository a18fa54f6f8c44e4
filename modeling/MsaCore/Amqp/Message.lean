import MsaCore.Amqp.Table

/-!
# Messages on the wire

`amqp.Publishing` is what a publisher hands to its channel and `amqp.Delivery` what a
consumer receives. We keep the fields the client reads or writes. The broker is assumed to
deliver a published message as it was sent: `Delivery.ofPublishing` copies the envelope
into the delivery and adds the routing information and the channel's delivery tag.
-/

namespace MsaCore
namespace Amqp

/-- `amqp.Persistent`, the delivery mode of a message the broker writes to disk. -/
def persistent : UInt8 := 2

/-- `amqp.Publishing`. Times are Unix nanoseconds, `0` being Go's zero `time.Time`. -/
structure Publishing where
  contentType : String
  body : List UInt8
  deliveryMode : UInt8
  timestamp : Nat
  headers : Option Table
  messageId : String
  priority : UInt8
  expiration : String
  type : String
  userId : String
  appId : String
  deriving DecidableEq

/-- `amqp.Delivery`: the fields the consume loop reads. -/
structure Delivery where
  deliveryTag : Nat
  headers : Option Table
  body : List UInt8
  messageId : String
  routingKey : String
  exchange : String
  deriving DecidableEq

/-- The delivery of a message published to `exchange` with `routingKey`, as a broker that
leaves the message unchanged hands it to a consumer under delivery tag `tag`. -/
def Delivery.ofPublishing (tag : Nat) (exchange routingKey : String) (p : Publishing) :
    Delivery :=
  ⟨tag, p.headers, p.body, p.messageId, routingKey, exchange⟩

end Amqp
end MsaCore
