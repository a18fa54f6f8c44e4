import MsaCore.Amqp.Message

/-!
# The broker side of AMQP 0-9-1

The broker is an external server; the client only sees its answers. We model the part of
its state the client's topology methods read and write: exchanges, queues and bindings,
each with the attributes a redeclaration is compared against.

The broker answers each method the way AMQP 0-9-1 prescribes:

* a declaration of an existing entity with other attributes fails with 406
  `PRECONDITION_FAILED`, an unsupported exchange type with 503 `COMMAND_INVALID`;
* a passive declaration of a missing queue, a bind to a missing queue or exchange, a delete
  or a consume of a missing queue fail with 404 `NOT_FOUND`;
* deleting a queue removes its bindings with it.

On top of these rules `refuses` lets the broker reject any method for reasons that are not
part of the resource model (permissions, policies, reserved names, exclusive locks, resource
limits). A theorem that holds "for every broker" holds for every such policy.

Messages held in queues and the automatic deletion of auto-delete entities are not modelled.
-/

namespace MsaCore
namespace Amqp

/-- An error value as the Go code handles it. -/
inductive Error where
  /-- `*amqp.Error`: a reply code and its reason, from the broker or the client library. -/
  | amqp (code : Nat) (reason : String)
  /-- `errors.New(msg)`. -/
  | text (msg : String)
  /-- `fmt.Errorf(msg + ": %w", cause)`. -/
  | wrap (msg : String) (cause : Error)
  deriving DecidableEq, Repr

/-- `err.Error()`, the text a log line prints. -/
def Error.message : Error → String
  | .amqp code reason => "Exception (" ++ toString code ++ ") Reason: " ++ reason
  | .text msg => msg
  | .wrap msg cause => msg ++ ": " ++ cause.message

/-- `amqp.ErrClosed`: the answer of the client library to any method on a closed channel. -/
def errClosed : Error := .amqp 504 "channel/connection is not open"

/-- An exchange: the attributes `exchange.declare` compares on a redeclaration. -/
structure Exchange where
  kind : String
  durable : Bool
  autoDelete : Bool
  internal : Bool
  args : Table
  deriving DecidableEq

/-- A queue: the attributes `queue.declare` compares on a redeclaration. -/
structure Queue where
  durable : Bool
  autoDelete : Bool
  exclusive : Bool
  args : Table
  deriving DecidableEq

/-- A binding routes messages published to `exchange` with a matching key into `queue`. -/
structure Binding where
  queue : String
  exchange : String
  key : String
  args : Table
  deriving DecidableEq

/-- The methods the client sends on its channel. -/
inductive Method where
  | exchangeDeclare (name : String) (e : Exchange)
  | queueDeclare (name : String) (passive : Bool) (q : Queue)
  | queueBind (b : Binding)
  | queueDelete (name : String) (ifUnused ifEmpty : Bool)
  | basicConsume (queue tag : String) (autoAck exclusive noLocal : Bool) (args : Table)
  | basicPublish (exchange key : String) (mandatory immediate : Bool) (msg : Publishing)
  deriving DecidableEq

/-- The broker state the client's methods read and write. -/
structure Broker where
  exchanges : Finmap fun _ : String => Exchange
  queues : Finmap fun _ : String => Queue
  bindings : List Binding
  /-- The error with which the broker rejects a method outside the resource rules. -/
  refuses : Method → Option Error

namespace Broker

/-- A broker with no exchange, queue or binding that refuses nothing. -/
def empty : Broker := ⟨∅, ∅, [], fun _ => none⟩

variable (b : Broker)

/-- The exchange types a broker supports. -/
def exchangeKinds : List String := ["direct", "topic", "fanout", "headers"]

/-- `exchange.declare`. -/
def declareExchange (name : String) (e : Exchange) : Except Error Broker :=
  if e.kind ∉ exchangeKinds then
    .error (.amqp 503 ("COMMAND_INVALID - invalid exchange type " ++ e.kind))
  else
    match b.exchanges.lookup name with
    | some e' =>
      if e' = e then .ok b
      else .error (.amqp 406 ("PRECONDITION_FAILED - inequivalent arg for exchange " ++ name))
    | none => .ok { b with exchanges := b.exchanges.insert name e }

/-- `queue.declare`; a passive declaration only checks that the queue exists. -/
def declareQueue (name : String) (passive : Bool) (q : Queue) : Except Error Broker :=
  match b.queues.lookup name with
  | some q' =>
    if passive || q' = q then .ok b
    else .error (.amqp 406 ("PRECONDITION_FAILED - inequivalent arg for queue " ++ name))
  | none =>
    if passive then .error (.amqp 404 ("NOT_FOUND - no queue " ++ name))
    else .ok { b with queues := b.queues.insert name q }

/-- `queue.bind`; binding twice is a no-op. -/
def bindQueue (bd : Binding) : Except Error Broker :=
  if bd.queue ∉ b.queues then .error (.amqp 404 ("NOT_FOUND - no queue " ++ bd.queue))
  else if bd.exchange ∉ b.exchanges then
    .error (.amqp 404 ("NOT_FOUND - no exchange " ++ bd.exchange))
  else .ok { b with bindings := b.bindings.insert bd }

/-- The broker once queue `name` is gone, with every binding of it. -/
def dropQueue (name : String) : Broker :=
  { b with queues := b.queues.erase name, bindings := b.bindings.filter (·.queue != name) }

/-- `queue.delete`. -/
def deleteQueue (name : String) : Except Error Broker :=
  if name ∈ b.queues then .ok (b.dropQueue name)
  else .error (.amqp 404 ("NOT_FOUND - no queue " ++ name))

/-- The queues a direct exchange `x` routes a message with routing key `key` into. -/
def directRoute (x key : String) : List String :=
  (b.bindings.filter fun bd => bd.exchange == x && bd.key == key).map (·.queue)

/-- The queues a message dead-lettered from queue `q` is routed into, when `q`'s arguments
name a direct dead-letter exchange and a dead-letter routing key. -/
def deadLetterQueues (q : String) : List String :=
  match (b.queues.lookup q).map (·.args) with
  | some args =>
    match args.lookup "x-dead-letter-exchange", args.lookup "x-dead-letter-routing-key" with
    | some (.str x), some (.str key) =>
      if (b.exchanges.lookup x).map (·.kind) = some "direct" then b.directRoute x key else []
    | _, _ => []
  | none => []

/-- When `q` names a direct dead-letter exchange `x` and routing key `key`, its dead letters
reach exactly the queues bound to `x` with `key`. -/
theorem mem_deadLetterQueues {q x key n : String} {Q : Queue} (hq : b.queues.lookup q = some Q)
    (hx : Q.args.lookup "x-dead-letter-exchange" = some (.str x))
    (hk : Q.args.lookup "x-dead-letter-routing-key" = some (.str key))
    (hX : (b.exchanges.lookup x).map (·.kind) = some "direct") :
    n ∈ b.deadLetterQueues q ↔ ∃ args, ⟨n, x, key, args⟩ ∈ b.bindings := by
  simp only [deadLetterQueues, hq, Option.map_some', hx, hk, hX, if_true, directRoute,
    List.mem_map, List.mem_filter, Bool.and_eq_true, beq_iff_eq]
  constructor
  · rintro ⟨⟨n', x', key', args⟩, ⟨hm, rfl, rfl⟩, rfl⟩
    exact ⟨args, hm⟩
  · rintro ⟨args, hm⟩
    exact ⟨_, ⟨hm, rfl, rfl⟩, rfl⟩

/-- Broker `b'` keeps queue `q` as `b` had it: the same entry, and every binding of it. -/
def KeepsQueue (q : String) (b' : Broker) : Prop :=
  b'.queues.lookup q = b.queues.lookup q ∧ ∀ bd ∈ b.bindings, bd.queue = q → bd ∈ b'.bindings

theorem KeepsQueue.refl (q : String) : b.KeepsQueue q b := ⟨rfl, fun _ h _ => h⟩

theorem KeepsQueue.trans {b q} {b₁ b₂ : Broker} (h₁ : Broker.KeepsQueue b q b₁)
    (h₂ : b₁.KeepsQueue q b₂) : Broker.KeepsQueue b q b₂ :=
  ⟨h₂.1.trans h₁.1, fun bd hbd hq => h₂.2 bd (h₁.2 bd hbd hq) hq⟩

theorem KeepsQueue.mem {b q} {b' : Broker} (h : Broker.KeepsQueue b q b') (hq : q ∈ b.queues) :
    q ∈ b'.queues := by
  rw [Finmap.mem_iff, h.1]
  exact Finmap.mem_iff.mp hq

/-! ## What an accepted method does -/

variable {b} {b' : Broker}

/-- An accepted `exchange.declare` leaves the exchange stored under its name. -/
theorem declareExchange_ok {name : String} {e : Exchange} (h : b.declareExchange name e = .ok b') :
    e.kind ∈ exchangeKinds ∧ b' = { b with exchanges := b.exchanges.insert name e } := by
  unfold declareExchange at h
  split_ifs at h with hk
  refine ⟨hk, ?_⟩
  split at h
  · rename_i e' he
    split_ifs at h with hee
    cases h
    subst hee
    rw [insert_self_of_lookup he]
  · cases h
    rfl

/-- An accepted non-passive `queue.declare` found no queue of that name or one with the same
attributes, and leaves the queue stored under its name. -/
theorem declareQueue_ok {name : String} {q : Queue} (h : b.declareQueue name false q = .ok b') :
    (b.queues.lookup name = none ∨ b.queues.lookup name = some q) ∧
      b' = { b with queues := b.queues.insert name q } := by
  unfold declareQueue at h
  split at h
  · rename_i q' hq
    simp only [Bool.false_or, decide_eq_true_eq] at h
    split_ifs at h with hqq
    cases h
    subst hqq
    rw [insert_self_of_lookup hq]
    exact ⟨.inr hq, rfl⟩
  · rename_i hq
    cases h
    exact ⟨.inl hq, rfl⟩

/-- An accepted passive `queue.declare` found the queue and changed nothing. -/
theorem declareQueue_passive_ok {name : String} {q : Queue}
    (h : b.declareQueue name true q = .ok b') : name ∈ b.queues ∧ b' = b := by
  unfold declareQueue at h
  split at h
  · rename_i q' hq
    cases h
    exact ⟨Finmap.mem_iff.mpr ⟨q', hq⟩, rfl⟩
  · cases h

/-- An accepted `queue.bind` found both ends and added the binding. -/
theorem bindQueue_ok {bd : Binding} (h : b.bindQueue bd = .ok b') :
    bd.queue ∈ b.queues ∧ bd.exchange ∈ b.exchanges ∧
      b' = { b with bindings := b.bindings.insert bd } := by
  unfold bindQueue at h
  split_ifs at h with h1 h2
  cases h
  exact ⟨h1, h2, rfl⟩

/-- An accepted `queue.delete` found the queue and dropped it with its bindings. -/
theorem deleteQueue_ok {name : String} (h : b.deleteQueue name = .ok b') :
    name ∈ b.queues ∧ b' = b.dropQueue name := by
  unfold deleteQueue at h
  split_ifs at h with h1
  cases h
  exact ⟨h1, rfl⟩

end Broker

end Amqp
end MsaCore
