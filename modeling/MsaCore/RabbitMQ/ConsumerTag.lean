import MsaCore.RabbitMQ.SetupDLX
import MsaCore.RabbitMQ.Consume
import MsaCore.Json.RoundTrip

/-!
# Generated consumer tags

Without a caller-supplied tag, `ConsumeWithOptions` names its consumer
`consumer-<time.Now().UnixNano()>`. The tag is a function of the clock reading alone, and a
one-to-one function of it: two calls tag their consumers alike exactly when they read the
same nanosecond. Calls made concurrently, or one after another on a clock coarser than a
nanosecond, can do that, and non-decreasing readings allow it.

A channel refuses a consumer tag it already carries (`NOT_ALLOWED`, a channel exception).
So once a consume has registered its consumer, a second consume that read the same clock
value is refused and closes the client's only channel.
-/

namespace MsaCore
namespace RabbitMQ

open Amqp

/-- The decimal text of a number determines the number. -/
theorem toString_nat_injective : Function.Injective (toString : Nat → String) := fun a b h => by
  have hd : Nat.toDigits 10 a = Nat.toDigits 10 b := congrArg String.data h
  rw [← Json.digitsValue_toDigits a, ← Json.digitsValue_toDigits b, hd]

/-- Without a caller-supplied tag, distinct clock readings give distinct tags. -/
theorem consumerTag_injective {options : ConsumeOptions} (h : options.consumer = "") :
    Function.Injective (consumerTag options) := fun a b hab => by
  simp only [consumerTag, h, if_true] at hab
  have hd := congrArg String.data hab
  rw [String.data_append, String.data_append] at hd
  exact toString_nat_injective (String.ext (List.append_cancel_left hd))

/-- A consume that leaves the channel open has registered its consumer under its tag. -/
theorem consumeWithOptions_registers {s : Session} {now : Nat} {queue : String}
    {options : ConsumeOptions}
    (h : (consumeWithOptions s now queue options).2.channel.isOpen = true) :
    consumerTag options now ∈
      (consumeWithOptions s now queue options).2.channel.consumers.map (·.1) := by
  obtain ⟨ha, -⟩ := callWrapped_accepted h
  obtain ⟨-, -, he⟩ := Session.accept_basicConsume ha
  rw [consumeWithOptions, he]
  exact List.mem_map_of_mem _ (List.mem_cons_self _ _)

/-- A consume whose tag the channel already carries is refused: the channel ends closed, and
the call returns an error unless it did not wait for the reply. -/
theorem consumeWithOptions_of_registered {s : Session} {now : Nat} {queue : String}
    {options : ConsumeOptions} (h : consumerTag options now ∈ s.channel.consumers.map (·.1)) :
    (consumeWithOptions s now queue options).2.channel.isOpen = false ∧
      (options.noWait = false → (consumeWithOptions s now queue options).1.isSome) := by
  unfold consumeWithOptions
  cases ho : s.channel.isOpen
  · simp [callWrapped_of_closed ho, ho]
  · cases ha : s.accept (.basicConsume queue (consumerTag options now) options.autoAck
        options.exclusive options.noLocal options.args) with
    | ok s' => exact absurd h (Session.accept_basicConsume ha).2.1
    | error e =>
      rw [callWrapped_eq, Session.call_of_rejected ho ha]
      cases options.noWait <;> simp

/-- Without a caller-supplied tag the other options do not change the tag. -/
theorem consumerTag_of_empty {options : ConsumeOptions} (h : options.consumer = "") (now : Nat) :
    consumerTag options now = consumerTag {} now := by
  simp [consumerTag, h]

/-- Over calls without a caller-supplied tag whose clock readings do not decrease, the
generated tags are pairwise distinct exactly when the readings strictly increase; and a
consume that read the same value as an earlier one that registered its consumer closes the
client's channel, returning an error when it waits for the reply. -/
theorem consumer_tags_follow_clock :
    (∀ calls : List (ConsumeOptions × Nat), (∀ c ∈ calls, c.1.consumer = "") →
      (calls.map Prod.snd).Sorted (· ≤ ·) →
      ((calls.map fun c => consumerTag c.1 c.2).Nodup ↔
        (calls.map Prod.snd).Sorted (· < ·))) ∧
    ∀ (s : Session) (now : Nat) (queue queue' : String) (options options' : ConsumeOptions),
      options.consumer = "" → options'.consumer = "" →
      (consumeWithOptions s now queue options).2.channel.isOpen = true →
      (consumeWithOptions (consumeWithOptions s now queue options).2 now queue'
          options').2.channel.isOpen = false ∧
        (options'.noWait = false →
          (consumeWithOptions (consumeWithOptions s now queue options).2 now queue'
            options').1.isSome) := by
  refine ⟨fun calls hc hs => ?_, fun s now queue queue' options options' h h' ho => ?_⟩
  · have hmap : (calls.map fun c => consumerTag c.1 c.2) =
        (calls.map Prod.snd).map (consumerTag {}) := by
      rw [List.map_map]
      exact List.map_congr_left fun c hmem => consumerTag_of_empty (hc c hmem) c.2
    rw [hmap, List.nodup_map_iff (consumerTag_injective rfl)]
    exact ⟨hs.lt_of_le, List.Sorted.nodup⟩
  · apply consumeWithOptions_of_registered
    rw [consumerTag_of_empty h', ← consumerTag_of_empty h]
    exact consumeWithOptions_registers ho

/-- Two consumes of `orders`, the second with auto-ack, that read the clock at the same
nanosecond: the readings `[5, 5]` are non-decreasing and give the tag `consumer-5` twice; the
first consume registers its consumer, and the second is refused and closes the channel. -/
theorem consumer_tags_follow_clock_same_reading :
    [(({} : ConsumeOptions), 5), ({ autoAck := true }, 5)].map (fun c => consumerTag c.1 c.2) =
      ["consumer-5", "consumer-5"] ∧
    ¬([(({} : ConsumeOptions), 5), ({ autoAck := true }, 5)].map
      (fun c => consumerTag c.1 c.2)).Nodup ∧
    (consumeWithOptions (Session.opened ordersBroker) 5 "orders" {}).2.channel.isOpen = true ∧
    (consumeWithOptions (consumeWithOptions (Session.opened ordersBroker) 5 "orders" {}).2 5
        "orders" { autoAck := true }).2.channel.isOpen = false ∧
      (consumeWithOptions (consumeWithOptions (Session.opened ordersBroker) 5 "orders" {}).2 5
        "orders" { autoAck := true }).1.isSome := by
  have ho : (consumeWithOptions (Session.opened ordersBroker) 5 "orders" {}).2.channel.isOpen =
      true := by decide
  obtain ⟨hc, hs⟩ := consumer_tags_follow_clock.2 (Session.opened ordersBroker) 5
    "orders" "orders" {} { autoAck := true } rfl rfl ho
  have hsorted : ([(({} : ConsumeOptions), 5), ({ autoAck := true }, 5)].map Prod.snd).Sorted
      (· ≤ ·) := by decide
  refine ⟨rfl, fun hn => ?_, ho, hc, hs rfl⟩
  have hlt := (consumer_tags_follow_clock.1 _ (by simp) hsorted).1 hn
  exact absurd hlt (by decide)

end RabbitMQ
end MsaCore
