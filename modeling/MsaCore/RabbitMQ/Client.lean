import MsaCore.RabbitMQ.SetupDLX
import MsaCore.RabbitMQ.Publish
import MsaCore.RabbitMQ.Consume

/-!
# The client over a whole run

`rabbitmqClient` holds the one channel `NewRabbitMQClient` opened and never opens another.
A run of the client is any sequence of its operations on that channel. Two invariants hold
over every run:

* a closed channel carries no consumer (`Session.WellFormed`);
* an operation that returns an error, other than a message that does not serialise, leaves
  the channel closed.

A closed channel stays closed, and on it every operation returns an error and changes
nothing. So the first rejected declare, bind or consume ends the client: every later
operation fails, and the consumers it was running have lost their delivery streams.

`Close()` closes the channel and then the connection, and reports the failures of both.
-/

namespace MsaCore
namespace RabbitMQ

open Amqp Tracing

/-- The operations of `RabbitMQClient` that talk to the broker, with their arguments. The
publish carries the span context of its caller's context and the clock reading, the consume its
clock reading. -/
inductive ClientOp (α : Type) where
  | declareExchange (exchange kind : String) (durable autoDelete internal noWait : Bool)
      (args : Table)
  | declareQueue (queue : String) (durable autoDelete exclusive noWait : Bool) (args : Table)
  | bindQueue (queue routingKey exchange : String) (noWait : Bool) (args : Table)
  | declareQueueWithDLX (queue : String) (options : QueueOptions)
  | declareDLX (dlxName : String) (options : DLXOptions)
  | declareDLQ (dlqName dlxName : String) (options : DLQOptions)
  | setupDLXForQueue (queueName dlxName dlqName : String) (options : DLXOptions)
  | consumeWithOptions (queue : String) (options : ConsumeOptions) (now : Nat)
  | publishWithOptions (exchange routingKey : String) (message : Message α)
      (options : PublishOptions) (ctx : SpanContext) (now : Nat)

namespace ClientOp

variable {α : Type} (marshal : α → Except Error (List UInt8)) (prop : Propagator) (tracer : Tracer)

/-- One operation on the client's session. -/
def run (s : Session) : ClientOp α → Outcome
  | .declareExchange exchange kind durable autoDelete internal noWait args =>
    RabbitMQ.declareExchange s exchange kind durable autoDelete internal noWait args
  | .declareQueue queue durable autoDelete exclusive noWait args =>
    RabbitMQ.declareQueue s queue durable autoDelete exclusive noWait args
  | .bindQueue queue routingKey exchange noWait args =>
    RabbitMQ.bindQueue s queue routingKey exchange noWait args
  | .declareQueueWithDLX queue options => RabbitMQ.declareQueueWithDLX s queue options
  | .declareDLX dlxName options => RabbitMQ.declareDLX s dlxName options
  | .declareDLQ dlqName dlxName options => RabbitMQ.declareDLQ s dlqName dlxName options
  | .setupDLXForQueue queueName dlxName dlqName options =>
    RabbitMQ.setupDLXForQueue s queueName dlxName dlqName options
  | .consumeWithOptions queue options now => RabbitMQ.consumeWithOptions s now queue options
  | .publishWithOptions exchange routingKey message options ctx now =>
    RabbitMQ.publishWithOptions marshal prop tracer ctx now s exchange routingKey message options

/-- Whether the operation is a publish. -/
def isPublish : ClientOp α → Bool
  | .publishWithOptions .. => true
  | _ => false

end ClientOp

/-- A run of the client, whose tracer provider is `tracer`: each operation's result, and the
session at the end. -/
def runOps {α : Type} (marshal : α → Except Error (List UInt8)) (prop : Propagator)
    (tracer : Tracer) : Session → List (ClientOp α) → List (Option Error) × Session
  | s, [] => ([], s)
  | s, op :: ops =>
    let r := op.run marshal prop tracer s
    let rest := runOps marshal prop tracer r.2 ops
    (r.1 :: rest.1, rest.2)

section Operations

variable {α : Type} {marshal : α → Except Error (List UInt8)} {prop : Propagator}
  {tracer : Tracer}

theorem declareDLQ_wellFormed {s : Session} (hs : s.WellFormed) (d x : String) (o : DLQOptions) :
    (declareDLQ s d x o).2.WellFormed :=
  orReturn_wellFormed (s.call_wellFormed hs _ _) fun t ht =>
    orReturn_wellFormed (t.call_wellFormed ht _ _) fun _ hu => hu

theorem setupDLXForQueue_wellFormed {s : Session} (hs : s.WellFormed) (q x d : String)
    (o : DLXOptions) : (setupDLXForQueue s q x d o).2.WellFormed := by
  refine orReturn_wellFormed (callWrapped_wellFormed hs) fun t ht =>
    orReturn_wellFormed (declareDLQ_wellFormed ht _ _ _) fun u hu => ?_
  have hp := u.call_wellFormed hu (.queueDeclare q true ⟨false, false, false, ∅⟩) false
  rcases hc : u.call (.queueDeclare q true ⟨false, false, false, ∅⟩) false with ⟨_ | e, v⟩ <;>
    rw [hc] at hp
  · exact callWrapped_wellFormed (v.call_wellFormed hp _ _)
  · exact callWrapped_wellFormed hp

theorem ClientOp.run_wellFormed {s : Session} (hs : s.WellFormed) (op : ClientOp α) :
    (op.run marshal prop tracer s).2.WellFormed := by
  cases op with
  | declareDLQ => exact declareDLQ_wellFormed hs _ _ _
  | setupDLXForQueue => exact setupDLXForQueue_wellFormed hs _ _ _ _
  | publishWithOptions =>
    simp only [run, RabbitMQ.publishWithOptions]
    split
    · exact hs
    · exact callWrapped_wellFormed hs
  | _ => exact callWrapped_wellFormed hs

/-- Every session of a run from a well-formed one is well formed. -/
theorem runOps_wellFormed {s : Session} (hs : s.WellFormed) (ops : List (ClientOp α)) :
    (runOps marshal prop tracer s ops).2.WellFormed := by
  induction ops generalizing s with
  | nil => exact hs
  | cons op ops ih => exact ih (op.run_wellFormed hs)

/-! ## A closed channel stays closed and refuses everything -/

theorem setupDLXForQueue_of_closed {s : Session} {q x d : String} {o : DLXOptions}
    (h : s.channel.isOpen = false) :
    setupDLXForQueue s q x d o =
      (some (.wrap "failed to setup DLX" (.wrap "failed to declare DLX" errClosed)), s) := by
  rw [setupDLXForQueue, declareDLX, callWrapped_of_closed h, orReturn_some]

theorem publishWithOptions_of_closed {s : Session} (h : s.channel.isOpen = false)
    (message : Message α) (options : PublishOptions) (ctx : SpanContext) (now : Nat)
    (exchange routingKey : String) :
    (publishWithOptions marshal prop tracer ctx now s exchange routingKey message options).2 = s ∧
      (publishWithOptions marshal prop tracer ctx now s exchange routingKey message options).1.isSome :=
      by
  unfold publishWithOptions
  split
  · exact ⟨rfl, rfl⟩
  · rw [callWrapped_of_closed h]
    exact ⟨rfl, rfl⟩

/-- On a closed channel every operation returns an error and changes nothing. -/
theorem ClientOp.run_of_closed {s : Session} (h : s.channel.isOpen = false) (op : ClientOp α) :
    (op.run marshal prop tracer s).2 = s ∧ (op.run marshal prop tracer s).1.isSome := by
  cases op with
  | declareDLQ => rw [run, declareDLQ_of_closed h]; exact ⟨rfl, rfl⟩
  | setupDLXForQueue => rw [run, setupDLXForQueue_of_closed h]; exact ⟨rfl, rfl⟩
  | publishWithOptions => exact publishWithOptions_of_closed h ..
  | _ =>
    simp [run, RabbitMQ.declareExchange, RabbitMQ.declareQueue, RabbitMQ.bindQueue,
      RabbitMQ.declareQueueWithDLX, RabbitMQ.declareDLX, RabbitMQ.consumeWithOptions,
      callWrapped_of_closed h]

/-- A run on a closed channel: every operation returns an error, and the session is the
same at the end. -/
theorem runOps_of_closed {s : Session} (h : s.channel.isOpen = false) (ops : List (ClientOp α)) :
    (runOps marshal prop tracer s ops).2 = s ∧
      ∀ r ∈ (runOps marshal prop tracer s ops).1, r.isSome := by
  induction ops with
  | nil => exact ⟨rfl, nofun⟩
  | cons op ops ih =>
    obtain ⟨hs, he⟩ :
        (op.run marshal prop tracer s).2 = s ∧ (op.run marshal prop tracer s).1.isSome :=
      op.run_of_closed h
    simp only [runOps, hs, List.mem_cons, forall_eq_or_imp]
    exact ⟨ih.1, he, ih.2⟩

/-! ## A failed operation closes the channel -/

theorem declareDLQ_closedOnError (s : Session) (d x : String) (o : DLQOptions) :
    closedOnError (declareDLQ s d x o) :=
  orReturn_closedOnError (call_closedOnError _ _ _) fun _ =>
    orReturn_closedOnError (call_closedOnError _ _ _) fun _ _ => nofun

theorem setupDLXForQueue_closedOnError (s : Session) (q x d : String) (o : DLXOptions) :
    closedOnError (setupDLXForQueue s q x d o) :=
  orReturn_closedOnError callWrapped_closedOnError fun _ =>
    orReturn_closedOnError (declareDLQ_closedOnError _ _ _ _) fun _ => by
      split <;> exact callWrapped_closedOnError

/-- An operation other than a publish that returns an error leaves the channel closed. -/
theorem ClientOp.run_closedOnError (s : Session) {op : ClientOp α} (hp : op.isPublish = false) :
    closedOnError (op.run marshal prop tracer s) := by
  cases op with
  | declareDLQ => exact declareDLQ_closedOnError _ _ _ _
  | setupDLXForQueue => exact setupDLXForQueue_closedOnError _ _ _ _ _
  | publishWithOptions => cases hp
  | _ => exact callWrapped_closedOnError

/-- A declare, bind, DLX setup or consume that returns an error ends the client: its channel
is closed with no consumer left, and every operation of any later run returns an error and
changes nothing. -/
theorem failed_operation_ends_client {s : Session} {op : ClientOp α} {e : Error}
    (hs : s.WellFormed) (hp : op.isPublish = false)
    (he : (op.run marshal prop tracer s).1 = some e) (ops : List (ClientOp α)) :
    (op.run marshal prop tracer s).2.channel = ⟨false, []⟩ ∧
      (runOps marshal prop tracer (op.run marshal prop tracer s).2 ops).2 =
        (op.run marshal prop tracer s).2 ∧
      ∀ r ∈ (runOps marshal prop tracer (op.run marshal prop tracer s).2 ops).1, r.isSome := by
  have hc := op.run_closedOnError s hp e he
  have hw : (op.run marshal prop tracer s).2.WellFormed := op.run_wellFormed hs
  have hn := hw hc
  refine ⟨?_, runOps_of_closed hc ops⟩
  rw [← hc, ← hn]

end Operations

/-- Redeclaring `orders-exchange` as a fanout exchange fails, and a queue declaration that
would have succeeded fails after it. -/
theorem failed_operation_ends_client_orders :
    let s0 := Session.opened ordersBroker
    let op : ClientOp Unit := .declareExchange "orders-exchange" "fanout" true false false false ∅
    let later : List (ClientOp Unit) := [.declareQueue "payments" true false false false ∅]
    (s0.WellFormed ∧ op.isPublish = false ∧
      (op.run (fun _ => .ok []) (traceContext .level1) childTracer s0).1 =
        some (.wrap "failed to declare exchange"
          (.amqp 406 "PRECONDITION_FAILED - inequivalent arg for exchange orders-exchange"))) ∧
    (runOps (fun _ => .ok []) (traceContext .level1) childTracer s0 later).1 = [none] ∧
    let s1 := (op.run (fun _ => .ok []) (traceContext .level1) childTracer s0).2
    s1.channel = ⟨false, []⟩ ∧
      (runOps (fun _ => .ok []) (traceContext .level1) childTracer s1 later).2 = s1 ∧
      ∀ r ∈ (runOps (fun _ => .ok []) (traceContext .level1) childTracer s1 later).1, r.isSome :=
  have h : _ ∧ _ ∧ _ := ⟨Session.opened_wellFormed _, rfl, by decide⟩
  ⟨h, by decide, failed_operation_ends_client h.1 h.2.1 h.2.2 _⟩

/-! ## Closing -/

/-- `Close()`, on what `r.channel.Close()` and `r.conn.Close()` return, none for success. Both
are called, neither being nil after `NewRabbitMQClient`, and their errors are collected;
`%v` prints the list of them as `[e1 e2]`. -/
def close (channelClose connClose : Option Error) : Option Error :=
  let errs := (channelClose.map (Error.wrap "failed to close channel")).toList ++
    (connClose.map (Error.wrap "failed to close connection")).toList
  if errs.length > 0 then
    some (.text ("errors closing RabbitMQ: [" ++ " ".intercalate (errs.map Error.message) ++ "]"))
  else none

end RabbitMQ
end MsaCore
