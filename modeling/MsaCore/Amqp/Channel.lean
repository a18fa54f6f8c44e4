import MsaCore.Amqp.Broker

/-!
# The client's channel

`rabbitmqClient` owns one connection and one channel, opened once by `NewRabbitMQClient`
and never reopened. A `Session` is the broker together with the client's view of that
channel: whether it is open and which consumers it carries.

`Session.call` is one synchronous method of `amqp091-go` on the channel:

* on a closed channel the library answers `ErrClosed` and sends nothing;
* a method the broker accepts changes the broker;
* a method the broker rejects closes the channel (a channel exception), and every consumer
  on it loses its delivery stream. With `noWait` the library does not wait for the reply,
  so the call itself returns nil and only the closed channel tells.

Client operations are explicit state passing: `Option Error × Session` is Go's `error`
result (nil is `none`) together with the session after the call.
-/

namespace MsaCore
namespace Amqp

/-- The client's channel: open or closed, and its consumers as (consumer tag, queue). -/
structure Channel where
  isOpen : Bool
  consumers : List (String × String)
  deriving DecidableEq

/-- The broker and the client's channel. -/
structure Session where
  broker : Broker
  channel : Channel

/-- What a client operation returns: Go's `error` (nil is `none`) and the session after it. -/
abbrev Outcome := Option Error × Session

/-- A mapped `Except` that succeeded came from a success. -/
theorem except_map_ok {α β ε : Type} {f : α → β} {x : Except ε α} {y : β}
    (h : x.map f = .ok y) : ∃ a, x = .ok a ∧ f a = y := by
  cases x with
  | error e => cases h
  | ok a => exact ⟨a, rfl, by cases h; rfl⟩

namespace Session

/-- The session `NewRabbitMQClient` opens against broker `b`: an open channel, no consumer. -/
def opened (b : Broker) : Session := ⟨b, ⟨true, []⟩⟩

variable (s : Session)

/-- The session after a channel exception: closed, with no consumer left. -/
def close : Session := { s with channel := ⟨false, []⟩ }

/-- The session with the broker replaced by `b`. -/
def withBroker (b : Broker) : Session := { s with broker := b }

/-- The broker's answer to a method on an open channel. -/
def accept (m : Method) : Except Error Session :=
  match s.broker.refuses m with
  | some e => .error e
  | none =>
    match m with
    | .exchangeDeclare name e => (s.broker.declareExchange name e).map s.withBroker
    | .queueDeclare name passive q => (s.broker.declareQueue name passive q).map s.withBroker
    | .queueBind bd => (s.broker.bindQueue bd).map s.withBroker
    | .queueDelete name _ _ =>
      (s.broker.deleteQueue name).map fun b =>
        ⟨b, { s.channel with consumers := s.channel.consumers.filter (·.2 != name) }⟩
    | .basicConsume queue tag _ _ _ _ =>
      if queue ∉ s.broker.queues then .error (.amqp 404 ("NOT_FOUND - no queue " ++ queue))
      else if tag ∈ s.channel.consumers.map (·.1) then
        .error (.amqp 530 ("NOT_ALLOWED - attempt to reuse consumer tag " ++ tag))
      else .ok { s with channel := { s.channel with consumers := (tag, queue) :: s.channel.consumers } }
    | .basicPublish exchange _ _ immediate _ =>
      if immediate then .error (.amqp 540 "NOT_IMPLEMENTED - immediate=true")
      else if exchange ≠ "" ∧ exchange ∉ s.broker.exchanges then
        .error (.amqp 404 ("NOT_FOUND - no exchange " ++ exchange))
      else .ok s

/-- One method on the channel, as `amqp091-go` sends it and waits (or not) for the reply. -/
def call (m : Method) (noWait : Bool) : Outcome :=
  if s.channel.isOpen then
    match s.accept m with
    | .ok s' => (none, s')
    | .error e => (if noWait then none else some e, s.close)
  else (some errClosed, s)

variable {s} {s' : Session} {m : Method} {nw : Bool}

@[simp] theorem close_isOpen : s.close.channel.isOpen = false := rfl
@[simp] theorem close_broker : s.close.broker = s.broker := rfl
@[simp] theorem withBroker_channel (b : Broker) : (s.withBroker b).channel = s.channel := rfl
@[simp] theorem withBroker_broker (b : Broker) : (s.withBroker b).broker = b := rfl

/-- On a closed channel every method fails with `ErrClosed` and changes nothing. -/
theorem call_of_closed (h : s.channel.isOpen = false) : s.call m nw = (some errClosed, s) := by
  simp [call, h]

/-- Accepting a method never closes the channel. -/
theorem accept_isOpen (h : s.accept m = .ok s') : s'.channel.isOpen = s.channel.isOpen := by
  unfold accept at h
  split at h
  · cases h
  · split at h
    any_goals (obtain ⟨b, -, rfl⟩ := except_map_ok h; rfl)
    all_goals (split_ifs at h; cases h; rfl)

/-- A call that leaves the channel open was made on an open channel, was accepted and
returned nil. -/
theorem call_accepted (h : (s.call m nw).2.channel.isOpen = true) :
    s.channel.isOpen = true ∧ s.accept m = .ok (s.call m nw).2 ∧ (s.call m nw).1 = none := by
  unfold call at *
  by_cases ho : s.channel.isOpen
  · simp only [ho, if_true] at *
    cases ha : s.accept m with
    | ok s' => simp [ha]
    | error e => simp [ha, close] at h
  · simp [ho] at h

/-- A call that waited for its reply and returned nil was made on an open channel and was
accepted, so the channel is still open. -/
theorem call_accepted_of_wait (h : (s.call m false).1 = none) :
    s.channel.isOpen = true ∧ s.accept m = .ok (s.call m false).2 := by
  unfold call at *
  by_cases ho : s.channel.isOpen
  · simp only [ho, if_true] at *
    cases ha : s.accept m with
    | ok s' => simp [ha]
    | error e => simp [ha] at h
  · simp [ho] at h

/-- A call that returned an error left the channel closed. -/
theorem call_some_closed {e : Error} (h : (s.call m nw).1 = some e) :
    (s.call m nw).2.channel.isOpen = false := by
  cases ho : (s.call m nw).2.channel.isOpen
  · rfl
  · simp [(call_accepted ho).2.2] at h

/-- A call that returned an error left the broker as it was. -/
theorem call_some_broker {e : Error} (h : (s.call m nw).1 = some e) :
    (s.call m nw).2.broker = s.broker := by
  unfold call at *
  by_cases ho : s.channel.isOpen
  · simp only [ho, if_true] at *
    cases ha : s.accept m <;> simp_all [close]
  · simp [ho]

/-- A call that returned an error: the channel is closed and the broker as it was. -/
theorem call_eq_some {e : Error} {t : Session} (h : s.call m nw = (some e, t)) :
    t.channel.isOpen = false ∧ t.broker = s.broker := by
  have he : (s.call m nw).1 = some e := by rw [h]
  have hc := call_some_closed he
  have hb := call_some_broker he
  rw [h] at hc hb
  exact ⟨hc, hb⟩

/-- A call that waited for its reply and returned nil: the channel was open and the broker
accepted the method. -/
theorem call_eq_none_of_wait {t : Session} (h : s.call m false = (none, t)) :
    s.channel.isOpen = true ∧ s.accept m = .ok t := by
  have := call_accepted_of_wait (s := s) (m := m) (by rw [h])
  rwa [h] at this

/-! ### What the broker's acceptance does to the session -/

theorem accept_exchangeDeclare {name : String} {e : Exchange}
    (h : s.accept (.exchangeDeclare name e) = .ok s') :
    e.kind ∈ Broker.exchangeKinds ∧
      s' = s.withBroker { s.broker with exchanges := s.broker.exchanges.insert name e } := by
  unfold accept at h
  split at h
  · cases h
  · obtain ⟨b, hb, rfl⟩ := except_map_ok h
    obtain ⟨hk, rfl⟩ := Broker.declareExchange_ok hb
    exact ⟨hk, rfl⟩

theorem accept_queueDeclare {name : String} {q : Queue}
    (h : s.accept (.queueDeclare name false q) = .ok s') :
    (s.broker.queues.lookup name = none ∨ s.broker.queues.lookup name = some q) ∧
      s' = s.withBroker { s.broker with queues := s.broker.queues.insert name q } := by
  unfold accept at h
  split at h
  · cases h
  · obtain ⟨b, hb, rfl⟩ := except_map_ok h
    obtain ⟨hl, rfl⟩ := Broker.declareQueue_ok hb
    exact ⟨hl, rfl⟩

theorem accept_queueDeclare_passive {name : String} {q : Queue}
    (h : s.accept (.queueDeclare name true q) = .ok s') : name ∈ s.broker.queues ∧ s' = s := by
  unfold accept at h
  split at h
  · cases h
  · obtain ⟨b, hb, rfl⟩ := except_map_ok h
    obtain ⟨hm, rfl⟩ := Broker.declareQueue_passive_ok hb
    exact ⟨hm, rfl⟩

theorem accept_queueBind {bd : Binding} (h : s.accept (.queueBind bd) = .ok s') :
    bd.queue ∈ s.broker.queues ∧ bd.exchange ∈ s.broker.exchanges ∧
      s' = s.withBroker { s.broker with bindings := s.broker.bindings.insert bd } := by
  unfold accept at h
  split at h
  · cases h
  · obtain ⟨b, hb, rfl⟩ := except_map_ok h
    obtain ⟨hq, hx, rfl⟩ := Broker.bindQueue_ok hb
    exact ⟨hq, hx, rfl⟩

theorem accept_queueDelete {name : String} {ifUnused ifEmpty : Bool}
    (h : s.accept (.queueDelete name ifUnused ifEmpty) = .ok s') :
    name ∈ s.broker.queues ∧ s'.broker = s.broker.dropQueue name := by
  unfold accept at h
  split at h
  · cases h
  · obtain ⟨b, hb, rfl⟩ := except_map_ok h
    obtain ⟨hm, rfl⟩ := Broker.deleteQueue_ok hb
    exact ⟨hm, rfl⟩

/-- An accepted consume names an existing queue and a tag the channel did not carry, and
adds the consumer to the channel. -/
theorem accept_basicConsume {queue tag : String} {autoAck exclusive noLocal : Bool}
    {args : Table}
    (h : s.accept (.basicConsume queue tag autoAck exclusive noLocal args) = .ok s') :
    queue ∈ s.broker.queues ∧ tag ∉ s.channel.consumers.map (·.1) ∧
      s' = { s with
        channel := { s.channel with consumers := (tag, queue) :: s.channel.consumers } } := by
  unfold accept at h
  split at h
  · cases h
  · dsimp only at h
    split_ifs at h with hq ht
    cases h
    exact ⟨hq, ht, rfl⟩

/-- A method the broker rejects on an open channel closes it, and the call returns the
rejection unless it did not wait for the reply. -/
theorem call_of_rejected {e : Error} (ho : s.channel.isOpen = true) (he : s.accept m = .error e) :
    s.call m nw = (if nw then none else some e, s.close) := by
  simp [call, ho, he]

/-- Once queue `q` exists, every accepted method but its deletion keeps it as it was. -/
theorem accept_keepsQueue {q : String} (hq : q ∈ s.broker.queues)
    (hm : ∀ u e, m ≠ .queueDelete q u e) (h : s.accept m = .ok s') :
    s.broker.KeepsQueue q s'.broker := by
  cases m with
  | exchangeDeclare n e =>
    obtain ⟨-, rfl⟩ := accept_exchangeDeclare h
    exact ⟨rfl, fun _ h _ => h⟩
  | queueDeclare n passive Q =>
    cases passive
    · obtain ⟨hl, rfl⟩ := accept_queueDeclare h
      refine ⟨?_, fun _ h _ => h⟩
      by_cases hn : q = n
      · subst hn
        rcases hl with hl | hl
        · exact absurd (Finmap.lookup_eq_none.mp hl) (not_not.mpr hq)
        · simp [hl]
      · simp [Finmap.lookup_insert_of_ne _ hn]
    · obtain ⟨-, rfl⟩ := accept_queueDeclare_passive h
      exact Broker.KeepsQueue.refl _ q
  | queueBind bd =>
    obtain ⟨-, -, rfl⟩ := accept_queueBind h
    exact ⟨rfl, fun _ h _ => List.mem_insert_of_mem h⟩
  | queueDelete n u e =>
    have hn : q ≠ n := fun h' => hm u e (h' ▸ rfl)
    obtain ⟨-, hb⟩ := accept_queueDelete h
    rw [hb]
    refine ⟨Finmap.lookup_erase_ne hn, fun bd hbd hbq => List.mem_filter.mpr ⟨hbd, ?_⟩⟩
    simpa [hbq] using hn
  | basicConsume | basicPublish =>
    unfold accept at h
    split at h
    · cases h
    · dsimp only at h
      split_ifs at h
      cases h
      exact Broker.KeepsQueue.refl _ q

/-- Once queue `q` exists, every call but its deletion keeps it as it was. -/
theorem call_keepsQueue {q : String} (hq : q ∈ s.broker.queues)
    (hm : ∀ u e, m ≠ .queueDelete q u e) : s.broker.KeepsQueue q (s.call m nw).2.broker := by
  unfold call
  by_cases ho : s.channel.isOpen
  · rw [if_pos ho]
    cases ha : s.accept m with
    | ok s' => exact accept_keepsQueue hq hm ha
    | error e => exact Broker.KeepsQueue.refl _ q
  · rw [if_neg ho]
    exact Broker.KeepsQueue.refl _ q

/-! ## A closed channel carries no consumer -/

/-- The channel, once closed, has no consumer left. -/
def WellFormed (s : Session) : Prop :=
  s.channel.isOpen = false → s.channel.consumers = []

theorem opened_wellFormed (b : Broker) : (opened b).WellFormed := nofun

theorem call_wellFormed (hs : s.WellFormed) (m : Method) (nw : Bool) :
    (s.call m nw).2.WellFormed := by
  unfold call
  by_cases ho : s.channel.isOpen
  · rw [if_pos ho]
    cases ha : s.accept m with
    | ok t => intro hc; rw [accept_isOpen ha, ho] at hc; cases hc
    | error e => exact fun _ => rfl
  · rwa [if_neg ho]

end Session

/-- Go's `if err != nil { return fmt.Errorf(msg + ": %w", err) }` after a call: stop with the
wrapped error, or go on with `k` from the session the call left. -/
def orReturn (r : Outcome) (msg : String) (k : Session → Outcome) : Outcome :=
  match r with
  | (some err, s) => (some (.wrap msg err), s)
  | (none, s) => k s

@[simp] theorem orReturn_none (s : Session) (msg : String) (k : Session → Outcome) :
    orReturn (none, s) msg k = k s := rfl

@[simp] theorem orReturn_some (e : Error) (s : Session) (msg : String) (k : Session → Outcome) :
    orReturn (some e, s) msg k = (some (.wrap msg e), s) := rfl

/-- On a closed channel an operation stops at its first call with the wrapped `ErrClosed`. -/
theorem orReturn_call_of_closed {s : Session} {m : Method} {nw : Bool} {msg : String}
    {k : Session → Outcome} (h : s.channel.isOpen = false) :
    orReturn (s.call m nw) msg k = (some (.wrap msg errClosed), s) := by
  rw [Session.call_of_closed h, orReturn_some]

/-- An operation that goes on after a call, whose continuation keeps a closed channel
closed, and that ends with the channel open: the call was accepted and the operation is its
continuation from the session the call left. -/
theorem orReturn_call_open {s : Session} {m : Method} {nw : Bool} {msg : String}
    {k : Session → Outcome} (hk : ∀ t : Session, t.channel.isOpen = false → (k t).2.channel.isOpen = false)
    (h : (orReturn (s.call m nw) msg k).2.channel.isOpen = true) :
    ∃ t, s.accept m = .ok t ∧ orReturn (s.call m nw) msg k = k t := by
  rcases hc : s.call m nw with ⟨_ | e, t⟩ <;> rw [hc] at h
  · rw [orReturn_none] at h ⊢
    cases ht : t.channel.isOpen
    · simp [hk t ht] at h
    · have ho : (s.call m nw).2.channel.isOpen = true := by rw [hc]; exact ht
      have := Session.call_accepted ho
      rw [hc] at this
      exact ⟨t, this.2.1, rfl⟩
  · have he : (s.call m nw).1 = some e := by rw [hc]
    have := Session.call_some_closed he
    rw [hc] at this
    exact absurd h (by simpa using this)

/-- An outcome that carries an error carries a closed channel. -/
def closedOnError (r : Outcome) : Prop :=
  ∀ e, r.1 = some e → r.2.channel.isOpen = false

theorem call_closedOnError (s : Session) (m : Method) (nw : Bool) : closedOnError (s.call m nw) :=
  fun _ h => Session.call_some_closed h

theorem orReturn_closedOnError {r : Outcome} {msg : String} {k : Session → Outcome}
    (hr : closedOnError r) (hk : ∀ t, closedOnError (k t)) : closedOnError (orReturn r msg k) := by
  rcases r with ⟨_ | e, t⟩
  · exact hk t
  · exact fun _ _ => hr e rfl

/-- One channel method whose error is returned wrapped in `msg`: the shape of every client
operation that makes a single call. -/
def callWrapped (s : Session) (m : Method) (noWait : Bool) (msg : String) : Outcome :=
  orReturn (s.call m noWait) msg fun s => (none, s)

section CallWrapped

variable {s : Session} {m : Method} {nw : Bool} {msg : String}

theorem callWrapped_eq (s : Session) (m : Method) (nw : Bool) (msg : String) :
    callWrapped s m nw msg = ((s.call m nw).1.map (.wrap msg), (s.call m nw).2) := by
  unfold callWrapped
  rcases s.call m nw with ⟨_ | e, t⟩ <;> rfl

theorem callWrapped_of_closed (h : s.channel.isOpen = false) :
    callWrapped s m nw msg = (some (.wrap msg errClosed), s) :=
  orReturn_call_of_closed h

/-- A single-call operation that leaves the channel open had its method accepted and
returned nil. -/
theorem callWrapped_accepted (h : (callWrapped s m nw msg).2.channel.isOpen = true) :
    s.accept m = .ok (callWrapped s m nw msg).2 ∧ (callWrapped s m nw msg).1 = none := by
  rw [callWrapped_eq] at *
  obtain ⟨-, ha, hn⟩ := Session.call_accepted h
  simp [ha, hn]

/-- A single-call operation that waited for its reply and returned nil had its method
accepted on an open channel. -/
theorem callWrapped_accepted_of_wait (h : (callWrapped s m false msg).1 = none) :
    s.channel.isOpen = true ∧ s.accept m = .ok (callWrapped s m false msg).2 := by
  rw [callWrapped_eq] at *
  exact Session.call_accepted_of_wait (by simpa using h)

/-- A single-call operation other than the deletion of `q` keeps `q` as it was. -/
theorem callWrapped_keepsQueue {q : String} (hq : q ∈ s.broker.queues)
    (hm : ∀ u e, m ≠ .queueDelete q u e) :
    s.broker.KeepsQueue q (callWrapped s m nw msg).2.broker := by
  rw [callWrapped_eq]
  exact Session.call_keepsQueue hq hm

theorem orReturn_wellFormed {r : Outcome} {k : Session → Outcome} (hr : r.2.WellFormed)
    (hk : ∀ t : Session, t.WellFormed → (k t).2.WellFormed) : (orReturn r msg k).2.WellFormed := by
  rcases r with ⟨_ | e, t⟩
  · exact hk t hr
  · exact hr

theorem callWrapped_wellFormed (hs : s.WellFormed) : (callWrapped s m nw msg).2.WellFormed :=
  orReturn_wellFormed (s.call_wellFormed hs m nw) fun _ ht => ht

theorem callWrapped_closedOnError : closedOnError (callWrapped s m nw msg) :=
  orReturn_closedOnError (call_closedOnError s m nw) fun _ _ => nofun

end CallWrapped

end Amqp
end MsaCore
