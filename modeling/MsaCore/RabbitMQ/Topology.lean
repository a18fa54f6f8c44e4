import MsaCore.Amqp.Channel

/-!
# Topology management

The declare and bind operations of `rabbitmqClient`: `DeclareExchange`, `DeclareQueue`,
`BindQueue`, `DeclareQueueWithDLX`, `DeclareDLX`, `DeclareDLQ` and the three-step
`SetupDLXForQueue`. Each is a sequence of channel methods; the first error stops it and is
returned wrapped in the operation's message.

The single-call operations share one shape, `callWrapped`; each keeps its own definition
under its Go name, applied to its own method, flag and message. Spans and log lines do not
change what is sent or returned and are left out.
-/

namespace MsaCore
namespace RabbitMQ

open Amqp

/-- `models.QueueOptions`. -/
structure QueueOptions where
  durable : Bool := false
  autoDelete : Bool := false
  exclusive : Bool := false
  noWait : Bool := false
  dlxName : String := ""
  dlxRoutingKey : String := ""
  maxRetries : Int := 0
  messageTTL : Int := 0
  maxLength : Int := 0
  maxPriority : UInt8 := 0
  additionalArgs : Table := ∅

/-- `models.DLXOptions`. -/
structure DLXOptions where
  kind : String := ""
  durable : Bool := false
  autoDelete : Bool := false
  internal : Bool := false
  noWait : Bool := false
  args : Table := ∅

/-- `models.DLQOptions`. -/
structure DLQOptions where
  durable : Bool := false
  autoDelete : Bool := false
  exclusive : Bool := false
  noWait : Bool := false
  args : Table := ∅

/-! ## Single-call operations -/

/-- `DeclareQueue`. -/
def declareQueue (s : Session) (queue : String) (durable autoDelete exclusive noWait : Bool)
    (args : Table) : Outcome :=
  callWrapped s (.queueDeclare queue false ⟨durable, autoDelete, exclusive, args⟩) noWait
    "failed to declare queue"

/-- `DeclareExchange`. -/
def declareExchange (s : Session) (exchange kind : String)
    (durable autoDelete internal noWait : Bool) (args : Table) : Outcome :=
  callWrapped s (.exchangeDeclare exchange ⟨kind, durable, autoDelete, internal, args⟩) noWait
    "failed to declare exchange"

/-- `BindQueue`. -/
def bindQueue (s : Session) (queue routingKey exchange : String) (noWait : Bool)
    (args : Table) : Outcome :=
  callWrapped s (.queueBind ⟨queue, exchange, routingKey, args⟩) noWait "failed to bind queue"

/-- The argument table `DeclareQueueWithDLX` builds: the additional arguments, then the
dead-letter exchange and routing key (the queue's own name by default), TTL, maximum length
and priority when positive, and `x-max-retries` unless the additional arguments already hold
a non-nil one. -/
def queueWithDLXArgs (queue : String) (options : QueueOptions) : Table :=
  let args := options.additionalArgs
  let args :=
    if options.dlxName ≠ "" then
      let dlxRoutingKey := if options.dlxRoutingKey = "" then queue else options.dlxRoutingKey
      (args.insert "x-dead-letter-exchange" (.str options.dlxName)).insert
        "x-dead-letter-routing-key" (.str dlxRoutingKey)
    else args
  let args := if options.messageTTL > 0 then args.insert "x-message-ttl" (.int options.messageTTL)
    else args
  let args := if options.maxLength > 0 then args.insert "x-max-length" (.int options.maxLength)
    else args
  let args := if options.maxPriority > 0 then
      args.insert "x-max-priority" (.byte options.maxPriority)
    else args
  if options.maxRetries > 0 ∧ (args.lookup "x-max-retries").getD .null = .null then
    args.insert "x-max-retries" (.int options.maxRetries)
  else args

/-- With a DLX name, the table names it and the dead-letter routing key: the one given, or
the queue's own name. -/
theorem queueWithDLXArgs_deadLetter {queue : String} {options : QueueOptions}
    (h : options.dlxName ≠ "") :
    (queueWithDLXArgs queue options).lookup "x-dead-letter-exchange" = some (.str options.dlxName) ∧
      (queueWithDLXArgs queue options).lookup "x-dead-letter-routing-key" =
        some (.str (if options.dlxRoutingKey = "" then queue else options.dlxRoutingKey)) := by
  simp only [queueWithDLXArgs, h, ne_eq, not_false_eq_true, if_true, String.reduceEq,
    lookup_ite_insert_of_ne, Finmap.lookup_insert, Finmap.lookup_insert_of_ne, and_self]

/-- `DeclareQueueWithDLX`. -/
def declareQueueWithDLX (s : Session) (queue : String) (options : QueueOptions) : Outcome :=
  callWrapped s
    (.queueDeclare queue false
      ⟨options.durable, options.autoDelete, options.exclusive, queueWithDLXArgs queue options⟩)
    options.noWait "failed to declare queue with DLX"

/-- The argument table of `DeclareQueueWithDLX` as the topology manager describes it, key by
key: each managed key set by its option (the dead-letter pair when a DLX is named, the limits
when positive, `x-max-retries` when positive unless the additional arguments hold a non-nil
one), every other key as the additional arguments give it. -/
def dlxArgsSpec (queue : String) (options : QueueOptions) (key : String) : Option FieldValue :=
  if options.dlxName ≠ "" ∧ key = "x-dead-letter-exchange" then some (.str options.dlxName)
  else if options.dlxName ≠ "" ∧ key = "x-dead-letter-routing-key" then
    some (.str (if options.dlxRoutingKey = "" then queue else options.dlxRoutingKey))
  else if options.messageTTL > 0 ∧ key = "x-message-ttl" then some (.int options.messageTTL)
  else if options.maxLength > 0 ∧ key = "x-max-length" then some (.int options.maxLength)
  else if options.maxPriority > 0 ∧ key = "x-max-priority" then some (.byte options.maxPriority)
  else if options.maxRetries > 0 ∧ key = "x-max-retries" ∧
      (options.additionalArgs.lookup key).getD .null = .null then
    some (.int options.maxRetries)
  else options.additionalArgs.lookup key

theorem queueWithDLXArgs_lookup (queue : String) (options : QueueOptions) (key : String) :
    (queueWithDLXArgs queue options).lookup key = dlxArgsSpec queue options key := by
  simp only [queueWithDLXArgs, dlxArgsSpec, lookup_ite_insert_insert, lookup_ite_insert,
    String.reduceEq, and_false, if_false]
  by_cases h1 : key = "x-dead-letter-exchange"
  · subst h1; simp
  by_cases h2 : key = "x-dead-letter-routing-key"
  · subst h2; simp
  by_cases h3 : key = "x-message-ttl"
  · subst h3; simp
  by_cases h4 : key = "x-max-length"
  · subst h4; simp
  by_cases h5 : key = "x-max-priority"
  · subst h5; simp
  by_cases h6 : key = "x-max-retries"
  · subst h6; by_cases h : options.maxRetries > 0 <;> simp [h]
  simp [h1, h2, h3, h4, h5, h6]

/-- `DeclareQueueWithDLX` declares the queue with the caller's flags and with exactly the
argument table its options describe: no key added or dropped beyond it. -/
theorem declareQueueWithDLX_declares_spec_table (s : Session) (queue : String)
    (options : QueueOptions) :
    declareQueueWithDLX s queue options =
        callWrapped s
          (.queueDeclare queue false
            ⟨options.durable, options.autoDelete, options.exclusive, queueWithDLXArgs queue options⟩)
          options.noWait "failed to declare queue with DLX" ∧
      ∀ key, (queueWithDLXArgs queue options).lookup key = dlxArgsSpec queue options key :=
  ⟨rfl, queueWithDLXArgs_lookup queue options⟩

example : dlxArgsSpec "orders" { dlxName := "orders-dlx", maxRetries := 3, messageTTL := 60000 }
    "x-dead-letter-routing-key" = some (.str "orders") := by decide

/-- The exchange kind `DeclareDLX` declares: `direct` unless the options name one. -/
def dlxKind (options : DLXOptions) : String :=
  if options.kind = "" then "direct" else options.kind

/-- `DeclareDLX`. -/
def declareDLX (s : Session) (dlxName : String) (options : DLXOptions) : Outcome :=
  callWrapped s
    (.exchangeDeclare dlxName
      ⟨dlxKind options, options.durable, options.autoDelete, options.internal, options.args⟩)
    options.noWait "failed to declare DLX"

/-! ## Multi-step operations -/

/-- `DeclareDLQ`: declare the queue, then bind it to the DLX with its own name as key. -/
def declareDLQ (s : Session) (dlqName dlxName : String) (options : DLQOptions) : Outcome :=
  orReturn (s.call (.queueDeclare dlqName false
      ⟨options.durable, options.autoDelete, options.exclusive, options.args⟩) options.noWait)
    "failed to declare DLQ" fun s =>
  orReturn (s.call (.queueBind ⟨dlqName, dlxName, dlqName, ∅⟩) options.noWait)
    "failed to bind DLQ to DLX" fun s =>
  (none, s)

/-- The DLQ options of step 2 of `SetupDLXForQueue`: never auto-delete, never exclusive. -/
def setupDLQOptions (options : DLXOptions) : DLQOptions :=
  { durable := options.durable, autoDelete := false, exclusive := false,
    noWait := options.noWait }

/-- The arguments step 3 of `SetupDLXForQueue` declares the queue with. -/
def deadLetterArgs (dlxName dlqName : String) : Table :=
  ((∅ : Table).insert "x-dead-letter-exchange" (.str dlxName)).insert
    "x-dead-letter-routing-key" (.str dlqName)

@[simp] theorem deadLetterArgs_exchange (dlxName dlqName : String) :
    (deadLetterArgs dlxName dlqName).lookup "x-dead-letter-exchange" = some (.str dlxName) := by
  simp [deadLetterArgs, Finmap.lookup_insert_of_ne]

@[simp] theorem deadLetterArgs_routingKey (dlxName dlqName : String) :
    (deadLetterArgs dlxName dlqName).lookup "x-dead-letter-routing-key" = some (.str dlqName) := by
  simp [deadLetterArgs]

/-- The queue step 3 of `SetupDLXForQueue` declares: durable as the options say, neither
auto-delete nor exclusive, with the dead-letter arguments. -/
def retrofitQueue (dlxName dlqName : String) (options : DLXOptions) : Queue :=
  ⟨options.durable, false, false, deadLetterArgs dlxName dlqName⟩

/-- `SetupDLXForQueue`: declare the DLX, declare and bind the DLQ, then probe the queue with
a passive declare; declare it when the probe fails, else delete it (ignoring the delete's
error) and declare it again with the dead-letter arguments. -/
def setupDLXForQueue (s : Session) (queueName dlxName dlqName : String)
    (options : DLXOptions) : Outcome :=
  orReturn (declareDLX s dlxName options) "failed to setup DLX" fun s =>
  orReturn (declareDLQ s dlqName dlxName (setupDLQOptions options)) "failed to setup DLQ" fun s =>
  match s.call (.queueDeclare queueName true ⟨false, false, false, ∅⟩) false with
  | (some _, s) =>
    callWrapped s (.queueDeclare queueName false (retrofitQueue dlxName dlqName options)) false
      "failed to declare queue with DLX"
  | (none, s) =>
    let s := (s.call (.queueDelete queueName false false) false).2
    callWrapped s (.queueDeclare queueName false (retrofitQueue dlxName dlqName options)) false
      "failed to recreate queue with DLX"

/-! ## What the operations do -/

section Specs

variable {s : Session} {m : Method} {nw : Bool} {msg : String}

theorem declareDLQ_of_closed {d x : String} {o : DLQOptions} (h : s.channel.isOpen = false) :
    declareDLQ s d x o = (some (.wrap "failed to declare DLQ" errClosed), s) :=
  orReturn_call_of_closed h

/-- A `DeclareDLQ` that leaves the channel open had its declare and its bind accepted. -/
theorem declareDLQ_accepted {d x : String} {o : DLQOptions}
    (h : (declareDLQ s d x o).2.channel.isOpen = true) :
    ∃ t, s.accept (.queueDeclare d false ⟨o.durable, o.autoDelete, o.exclusive, o.args⟩) = .ok t ∧
      t.accept (.queueBind ⟨d, x, d, ∅⟩) = .ok (declareDLQ s d x o).2 ∧
      (declareDLQ s d x o).1 = none := by
  unfold declareDLQ at *
  obtain ⟨t, ht, hk⟩ := orReturn_call_open
    (fun t ht => by rw [orReturn_call_of_closed ht]; exact ht) h
  rw [hk] at h ⊢
  obtain ⟨u, hu, hk'⟩ := orReturn_call_open (fun u hu => hu) h
  rw [hk'] at h ⊢
  exact ⟨t, ht, hu, rfl⟩

/-- `DeclareDLQ` keeps every existing queue as it was, with every binding it had. -/
theorem declareDLQ_keepsQueue {q d x : String} {o : DLQOptions} (hq : q ∈ s.broker.queues) :
    s.broker.KeepsQueue q (declareDLQ s d x o).2.broker := by
  unfold declareDLQ
  have h1 : s.broker.KeepsQueue q
      (s.call (.queueDeclare d false ⟨o.durable, o.autoDelete, o.exclusive, o.args⟩) o.noWait).2.broker :=
    Session.call_keepsQueue hq (by intro _ _ h; cases h)
  rcases hc : s.call (.queueDeclare d false ⟨o.durable, o.autoDelete, o.exclusive, o.args⟩)
    o.noWait with ⟨_ | e, t⟩ <;> rw [hc] at h1
  · have h2 : t.broker.KeepsQueue q
        (callWrapped t (.queueBind ⟨d, x, d, ∅⟩) o.noWait "failed to bind DLQ to DLX").2.broker :=
      callWrapped_keepsQueue (h1.mem hq) (by intro _ _ h; cases h)
    exact h1.trans h2
  · exact h1

end Specs

end RabbitMQ
end MsaCore
