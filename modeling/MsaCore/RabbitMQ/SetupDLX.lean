import MsaCore.RabbitMQ.Topology

/-!
# Retrofitting dead-lettering onto a queue

`SetupDLXForQueue q x d o` runs a three-step protocol against the broker: declare the
dead-letter exchange `x`, declare the dead-letter queue `d` and bind it to `x` with key `d`,
then give `q` the arguments `x-dead-letter-exchange = x`, `x-dead-letter-routing-key = d`.
Queue arguments cannot change in place, so step 3 probes `q` with a passive declare and
either declares it or deletes and declares it again.

Two facts of AMQP decide what the protocol does. A passive declare of a missing queue is a
channel exception, so the probe that finds `q` absent closes the client's only channel and
the declare that follows fails with `ErrClosed`. And a delete removes the queue with all its
bindings, so the retrofit of an existing queue keeps nothing of its configuration.
-/

namespace MsaCore
namespace RabbitMQ

open Amqp

variable {s : Session} {q x d : String} {o : DLXOptions}

/-- The exchange step 1 declares. -/
def dlxExchange (o : DLXOptions) : Exchange :=
  ⟨dlxKind o, o.durable, o.autoDelete, o.internal, o.args⟩

/-- The queue step 2 declares. -/
def dlqQueue (o : DLXOptions) : Queue :=
  ⟨o.durable, false, false, ∅⟩

/-- What a `SetupDLXForQueue` that returned nil did: every method was accepted, the probe
found the queue, and the queue was deleted and declared again. -/
theorem setupDLXForQueue_ok_trace (h : (setupDLXForQueue s q x d o).1 = none) :
    ∃ s1 t s2 s4,
      s.accept (.exchangeDeclare x (dlxExchange o)) = .ok s1 ∧
      s1.accept (.queueDeclare d false (dlqQueue o)) = .ok t ∧
      t.accept (.queueBind ⟨d, x, d, ∅⟩) = .ok s2 ∧
      q ∈ s2.broker.queues ∧
      s2.accept (.queueDelete q false false) = .ok s4 ∧
      s4.accept (.queueDeclare q false (retrofitQueue x d o)) =
        .ok (setupDLXForQueue s q x d o).2 := by
  unfold setupDLXForQueue at *
  rcases h1 : declareDLX s x o with ⟨_ | e1, s1⟩ <;> rw [h1] at h
  swap; · simp at h
  rw [orReturn_none] at h ⊢
  rcases h2 : declareDLQ s1 d x (setupDLQOptions o) with ⟨_ | e2, s2⟩ <;> rw [h2] at h
  swap; · simp at h
  rw [orReturn_none] at h ⊢
  rcases h3 : s2.call (.queueDeclare q true ⟨false, false, false, ∅⟩) false with ⟨_ | e3, s3⟩
  · simp only [h3] at h ⊢
    obtain ⟨ho2, ha3⟩ := Session.call_eq_none_of_wait h3
    obtain ⟨hq, rfl⟩ := Session.accept_queueDeclare_passive ha3
    obtain ⟨ho4, ha4⟩ := callWrapped_accepted_of_wait h
    obtain ⟨-, hdel, -⟩ := Session.call_accepted ho4
    obtain ⟨t, ht, hb, -⟩ := declareDLQ_accepted (by rw [h2]; exact ho2)
    rw [h2] at hb
    have ho1 : (declareDLX s x o).2.channel.isOpen = true := by
      rw [h1, ← Session.accept_isOpen ht, ← Session.accept_isOpen hb, ho2]
    have hx : s.accept (.exchangeDeclare x (dlxExchange o)) = .ok (declareDLX s x o).2 :=
      (callWrapped_accepted ho1).1
    rw [h1] at hx
    exact ⟨s1, t, s3, _, hx, ht, hb, hq, hdel, ha4⟩
  · simp only [h3] at h
    rw [callWrapped_of_closed (Session.call_eq_some h3).1] at h
    simp at h

/-- When step 2 leaves a broker without `q`, the passive probe is rejected and closes the
channel, and the declare meant to create `q` fails with `ErrClosed`: the absent-queue branch
never creates the queue. -/
theorem setupDLXForQueue_absent_queue_fails {s1 s2 : Session}
    (h1 : declareDLX s x o = (none, s1)) (h2 : declareDLQ s1 d x (setupDLQOptions o) = (none, s2))
    (hq : q ∉ s2.broker.queues) :
    let r := setupDLXForQueue s q x d o
    r.1 = some (.wrap "failed to declare queue with DLX" errClosed) ∧ r.2.broker = s2.broker ∧
      r.2.channel.isOpen = false := by
  unfold setupDLXForQueue
  rw [h1, orReturn_none, h2, orReturn_none]
  rcases h3 : s2.call (.queueDeclare q true ⟨false, false, false, ∅⟩) false with ⟨_ | e3, s3⟩
  · exact absurd (Session.accept_queueDeclare_passive (Session.call_eq_none_of_wait h3).2).1 hq
  · obtain ⟨hc, hb⟩ := Session.call_eq_some h3
    simp only
    rw [callWrapped_of_closed hc]
    exact ⟨rfl, hb, hc⟩

theorem setupDLXForQueue_absent_queue_fails_orders :
    let s0 := Session.opened Broker.empty
    let s1 := (declareDLX s0 "orders-dlx" {}).2
    let s2 := (declareDLQ s1 "orders-dlq" "orders-dlx" (setupDLQOptions {})).2
    (declareDLX s0 "orders-dlx" {} = (none, s1) ∧
      declareDLQ s1 "orders-dlq" "orders-dlx" (setupDLQOptions {}) = (none, s2) ∧
      "orders" ∉ s2.broker.queues) ∧
    let r := setupDLXForQueue s0 "orders" "orders-dlx" "orders-dlq" {}
    r.1 = some (.wrap "failed to declare queue with DLX" errClosed) ∧ r.2.broker = s2.broker ∧
      r.2.channel.isOpen = false :=
  have h : _ ∧ _ ∧ _ := ⟨rfl, rfl, by decide⟩
  ⟨h, setupDLXForQueue_absent_queue_fails h.1 h.2.1 h.2.2⟩

/-- The broker after a `SetupDLXForQueue` that returned nil, built from the one before it:
the DLX and the DLQ stored, the DLQ bound, then `q` dropped with its bindings and stored
again with the dead-letter arguments. -/
theorem setupDLXForQueue_ok_broker (h : (setupDLXForQueue s q x d o).1 = none) :
    ∃ b : Broker, q ∈ b.queues ∧
      b.exchanges = s.broker.exchanges.insert x (dlxExchange o) ∧
      b.queues = s.broker.queues.insert d (dlqQueue o) ∧
      b.bindings = s.broker.bindings.insert ⟨d, x, d, ∅⟩ ∧
      (setupDLXForQueue s q x d o).2.broker =
        { b.dropQueue q with queues := (b.dropQueue q).queues.insert q (retrofitQueue x d o) } := by
  obtain ⟨s1, t, s2, s4, hx, hd, hb, hq, hdel, hre⟩ := setupDLXForQueue_ok_trace h
  obtain ⟨-, rfl⟩ := Session.accept_exchangeDeclare hx
  obtain ⟨-, rfl⟩ := Session.accept_queueDeclare hd
  obtain ⟨-, -, rfl⟩ := Session.accept_queueBind hb
  obtain ⟨-, hb4⟩ := Session.accept_queueDelete hdel
  obtain ⟨-, hf⟩ := Session.accept_queueDeclare hre
  exact ⟨_, hq, rfl, rfl, rfl, by rw [hf, Session.withBroker_broker, hb4]⟩

/-- After a `SetupDLXForQueue q x d o` that returned nil, with `q ≠ d`: the DLX exists as
declared (kind `o.Kind`, `direct` by default), the DLQ exists, is not auto-delete and is
bound to the DLX with key `d`, and `q` carries the dead-letter arguments; when the DLX is
direct, every message dead-lettered from `q` is routed into `d`. -/
theorem setupDLXForQueue_routes_to_dlq (hqd : q ≠ d) (h : (setupDLXForQueue s q x d o).1 = none) :
    let b := (setupDLXForQueue s q x d o).2.broker
    b.exchanges.lookup x = some (dlxExchange o) ∧
      b.queues.lookup d = some (dlqQueue o) ∧
      ⟨d, x, d, ∅⟩ ∈ b.bindings ∧
      b.queues.lookup q = some (retrofitQueue x d o) ∧
      (dlxKind o = "direct" → d ∈ b.deadLetterQueues q) := by
  obtain ⟨b, -, hx, hd, hb, hf⟩ := setupDLXForQueue_ok_broker h
  have hdq : d ≠ q := Ne.symm hqd
  have hxl : b.exchanges.lookup x = some (dlxExchange o) := by simp [hx]
  have hbd : (⟨d, x, d, ∅⟩ : Binding) ∈ (b.dropQueue q).bindings := by
    simp [Broker.dropQueue, hb, hdq]
  simp only [hf]
  refine ⟨by simpa [Broker.dropQueue] using hxl, by simp [Broker.dropQueue, hd, hdq,
    Finmap.lookup_insert_of_ne, Finmap.lookup_erase_ne], hbd, by simp, fun hk => ?_⟩
  rw [Broker.mem_deadLetterQueues _ (Finmap.lookup_insert _) (deadLetterArgs_exchange x d)
    (deadLetterArgs_routingKey x d) (by simp [Broker.dropQueue, hxl, dlxExchange, hk])]
  exact ⟨∅, hbd⟩

/-- With `q = d` the delete of step 3 drops the binding step 2 made: from an empty broker
the call returns nil, yet the DLQ is bound to nothing and the dead letters of `q` are lost. -/
theorem setupDLXForQueue_self_dlq_unbound :
    let r := setupDLXForQueue (Session.opened Broker.empty) "orders" "orders-dlx" "orders" {}
    r.1 = none ∧ r.2.broker.bindings = [] ∧ r.2.broker.deadLetterQueues "orders" = [] := by
  decide

/-- A `SetupDLXForQueue` that returned an error, on a queue `q` that existed: every step up
to the delete keeps `q` as it was; a failed delete closes the channel, so the recreate fails
and `q` stays as it was; a delete that went through leaves `q` gone when the recreate fails. -/
theorem setupDLXForQueue_error_keeps (hq : q ∈ s.broker.queues)
    (h : (setupDLXForQueue s q x d o).1 ≠ none) :
    s.broker.KeepsQueue q (setupDLXForQueue s q x d o).2.broker ∨
      q ∉ (setupDLXForQueue s q x d o).2.broker.queues := by
  unfold setupDLXForQueue at *
  have k1 : s.broker.KeepsQueue q (declareDLX s x o).2.broker :=
    callWrapped_keepsQueue hq (by intro _ _ h; cases h)
  rcases h1 : declareDLX s x o with ⟨_ | e1, s1⟩ <;> rw [h1] at h k1
  swap; · exact .inl k1
  rw [orReturn_none] at h ⊢
  have k2 := k1.trans (declareDLQ_keepsQueue (d := d) (x := x) (o := setupDLQOptions o) (k1.mem hq))
  rcases h2 : declareDLQ s1 d x (setupDLQOptions o) with ⟨_ | e2, s2⟩ <;> rw [h2] at h k2
  swap; · exact .inl k2
  rw [orReturn_none] at h ⊢
  have k3 : s.broker.KeepsQueue q
      (s2.call (.queueDeclare q true ⟨false, false, false, ∅⟩) false).2.broker :=
    k2.trans (Session.call_keepsQueue (k2.mem hq) (by intro _ _ h; cases h))
  rcases h3 : s2.call (.queueDeclare q true ⟨false, false, false, ∅⟩) false with ⟨_ | e3, s3⟩ <;>
    rw [h3] at k3 <;> simp only [h3] at h ⊢
  · rcases h4 : s3.call (.queueDelete q false false) false with ⟨_ | e4, s4⟩ <;> simp only [h4] at h ⊢
    · obtain ⟨-, hb4⟩ := Session.accept_queueDelete (Session.call_eq_none_of_wait h4).2
      rw [callWrapped_eq] at h ⊢
      obtain ⟨e, he⟩ := Option.ne_none_iff_exists'.mp (mt Option.map_eq_none'.mpr h)
      right
      simp [Session.call_some_broker he, hb4, Broker.dropQueue]
    · obtain ⟨hc, hb⟩ := Session.call_eq_some h4
      left
      rw [callWrapped_of_closed hc, hb]
      exact k3
  · left
    rw [callWrapped_of_closed (Session.call_eq_some h3).1]
    exact k3

/-- `SetupDLXForQueue` on an existing queue `q`. When it returns nil, `q` was deleted and
declared again: it has exactly the retrofit attributes (durable as `o.Durable`, neither
auto-delete nor exclusive, only the two dead-letter arguments) and no binding. When it
returns an error, `q` is either kept as it was, with every binding it had, or gone. -/
theorem setupDLXForQueue_existing_queue (hq : q ∈ s.broker.queues) :
    ((setupDLXForQueue s q x d o).1 = none →
        (setupDLXForQueue s q x d o).2.broker.queues.lookup q = some (retrofitQueue x d o) ∧
        ∀ bd ∈ (setupDLXForQueue s q x d o).2.broker.bindings, bd.queue ≠ q) ∧
      ((setupDLXForQueue s q x d o).1 ≠ none →
        s.broker.KeepsQueue q (setupDLXForQueue s q x d o).2.broker ∨
          q ∉ (setupDLXForQueue s q x d o).2.broker.queues) := by
  refine ⟨fun h => ?_, setupDLXForQueue_error_keeps hq⟩
  obtain ⟨b, -, -, -, -, hf⟩ := setupDLXForQueue_ok_broker h
  rw [hf]
  refine ⟨by simp, fun bd hbd => ?_⟩
  simp only [Broker.dropQueue, List.mem_filter, bne_iff_ne] at hbd
  exact hbd.2

/-- A broker holding the queue `orders`, durable with a message TTL, bound to the direct
exchange `orders-exchange` with key `orders`. -/
def ordersBroker : Broker :=
  { Broker.empty with
    exchanges := (∅ : Finmap _).insert "orders-exchange" ⟨"direct", true, false, false, ∅⟩
    queues := (∅ : Finmap _).insert "orders"
      ⟨true, false, false, (∅ : Table).insert "x-message-ttl" (.int 60000)⟩
    bindings := [⟨"orders", "orders-exchange", "orders", ∅⟩] }

/-- The retrofit of `orders` returns nil and leaves it non-durable, without its TTL and
unbound from `orders-exchange`. -/
theorem setupDLXForQueue_drops_queue_config :
    let r := setupDLXForQueue (Session.opened ordersBroker) "orders" "orders-dlx" "orders-dlq" {}
    r.1 = none ∧ (r.2.broker.queues.lookup "orders").map (·.durable) = some false ∧
      (r.2.broker.queues.lookup "orders").bind (·.args.lookup "x-message-ttl") = none ∧
      ⟨"orders", "orders-exchange", "orders", ∅⟩ ∉ r.2.broker.bindings := by
  decide

theorem setupDLXForQueue_existing_queue_orders :
    "orders" ∈ (Session.opened ordersBroker).broker.queues ∧
    let r := setupDLXForQueue (Session.opened ordersBroker) "orders" "orders-dlx" "orders-dlq" {}
    (r.1 = none → r.2.broker.queues.lookup "orders" = some (retrofitQueue "orders-dlx" "orders-dlq" {}) ∧
        ∀ bd ∈ r.2.broker.bindings, bd.queue ≠ "orders") ∧
      (r.1 ≠ none → (Session.opened ordersBroker).broker.KeepsQueue "orders" r.2.broker ∨
        "orders" ∉ r.2.broker.queues) :=
  have h : "orders" ∈ (Session.opened ordersBroker).broker.queues := by decide
  ⟨h, setupDLXForQueue_existing_queue h⟩

theorem setupDLXForQueue_routes_to_dlq_orders :
    ("orders" ≠ "orders-dlq" ∧
      (setupDLXForQueue (Session.opened ordersBroker) "orders" "orders-dlx" "orders-dlq" {}).1 =
        none) ∧
    let b := (setupDLXForQueue (Session.opened ordersBroker) "orders" "orders-dlx" "orders-dlq"
      {}).2.broker
    b.exchanges.lookup "orders-dlx" = some (dlxExchange {}) ∧
      b.queues.lookup "orders-dlq" = some (dlqQueue {}) ∧
      ⟨"orders-dlq", "orders-dlx", "orders-dlq", ∅⟩ ∈ b.bindings ∧
      b.queues.lookup "orders" = some (retrofitQueue "orders-dlx" "orders-dlq" {}) ∧
      (dlxKind {} = "direct" → "orders-dlq" ∈ b.deadLetterQueues "orders") :=
  have h : _ ∧ _ := ⟨by decide, by decide⟩
  ⟨h, setupDLXForQueue_routes_to_dlq h.1 h.2⟩

/-! ## The default dead-letter routing key -/

/-- After `DeclareDLX(x, {})`, `DeclareDLQ(d, x, _)` and `DeclareQueueWithDLX(q, {DLXName: x})`
have returned nil, `q`'s dead-letter routing key is `q` itself while `d` is bound to the
direct exchange `x` with key `d`: the dead letters of `q` reach `d` exactly through a binding
of `d` to `x` with key `q`, which the DLQ binding is only when `q = d`. -/
theorem default_routing_key_vs_dlq_binding {s1 s2 s3 : Session} {o : DLQOptions} (hx : x ≠ "")
    (h1 : declareDLX s x {} = (none, s1)) (h2 : declareDLQ s1 d x o = (none, s2))
    (h3 : declareQueueWithDLX s2 q { dlxName := x } = (none, s3)) :
    (s3.broker.queues.lookup q).bind (·.args.lookup "x-dead-letter-routing-key") =
        some (.str q) ∧
      ⟨d, x, d, ∅⟩ ∈ s3.broker.bindings ∧
      (d ∈ s3.broker.deadLetterQueues q ↔ ∃ args, ⟨d, x, q, args⟩ ∈ s3.broker.bindings) := by
  unfold declareQueueWithDLX at h3
  obtain ⟨ho2, ha3⟩ := callWrapped_accepted_of_wait (s := s2) (by rw [h3])
  rw [h3] at ha3
  obtain ⟨t, hd, hb, -⟩ := declareDLQ_accepted (by rw [h2]; exact ho2)
  rw [h2] at hb
  have ho1 : (declareDLX s x {}).2.channel.isOpen = true := by
    rw [h1, ← Session.accept_isOpen hd, ← Session.accept_isOpen hb, ho2]
  have hdx : s.accept (.exchangeDeclare x (dlxExchange {})) = .ok (declareDLX s x {}).2 :=
    (callWrapped_accepted ho1).1
  rw [h1] at hdx
  obtain ⟨-, rfl⟩ := Session.accept_exchangeDeclare hdx
  obtain ⟨-, rfl⟩ := Session.accept_queueDeclare hd
  obtain ⟨-, -, rfl⟩ := Session.accept_queueBind hb
  obtain ⟨-, rfl⟩ := Session.accept_queueDeclare ha3
  obtain ⟨hlx, hlk⟩ := @queueWithDLXArgs_deadLetter q { dlxName := x } hx
  simp only [if_true] at hlk
  refine ⟨by simpa using hlk, by simp, ?_⟩
  exact Broker.mem_deadLetterQueues _ (Finmap.lookup_insert _) hlx hlk (by simp [dlxExchange, dlxKind])

theorem default_routing_key_vs_dlq_binding_orders :
    let s0 := Session.opened Broker.empty
    let s1 := (declareDLX s0 "orders-dlx" {}).2
    let s2 := (declareDLQ s1 "orders-dlq" "orders-dlx" {}).2
    let s3 := (declareQueueWithDLX s2 "orders" { dlxName := "orders-dlx" }).2
    ("orders-dlx" ≠ "" ∧ declareDLX s0 "orders-dlx" {} = (none, s1) ∧
      declareDLQ s1 "orders-dlq" "orders-dlx" {} = (none, s2) ∧
      declareQueueWithDLX s2 "orders" { dlxName := "orders-dlx" } = (none, s3)) ∧
    ((s3.broker.queues.lookup "orders").bind (·.args.lookup "x-dead-letter-routing-key") =
        some (.str "orders") ∧
      ⟨"orders-dlq", "orders-dlx", "orders-dlq", ∅⟩ ∈ s3.broker.bindings ∧
      ("orders-dlq" ∈ s3.broker.deadLetterQueues "orders" ↔
        ∃ args, ⟨"orders-dlq", "orders-dlx", "orders", args⟩ ∈ s3.broker.bindings)) :=
  have h : _ ∧ _ ∧ _ ∧ _ := ⟨by decide, rfl, rfl, rfl⟩
  ⟨h, default_routing_key_vs_dlq_binding h.1 h.2.1 h.2.2.1 h.2.2.2⟩

/-- From an empty broker the three declarations return nil, and a message dead-lettered from
`orders` reaches no queue: the direct DLX has no binding for the key `orders`. -/
theorem default_routing_key_misses_dlq :
    let s1 := (declareDLX (Session.opened Broker.empty) "orders-dlx" {}).2
    let s2 := (declareDLQ s1 "orders-dlq" "orders-dlx" {}).2
    let r := declareQueueWithDLX s2 "orders" { dlxName := "orders-dlx" }
    (declareDLX (Session.opened Broker.empty) "orders-dlx" {}).1 = none ∧
      (declareDLQ s1 "orders-dlq" "orders-dlx" {}).1 = none ∧ r.1 = none ∧
      r.2.broker.deadLetterQueues "orders" = [] := by
  decide

end RabbitMQ
end MsaCore
