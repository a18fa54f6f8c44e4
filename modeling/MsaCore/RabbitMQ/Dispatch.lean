import MsaCore.RabbitMQ.Consume

/-!
# Dispatch of deliveries

The consume goroutine as a machine that runs alongside the broker. Deliveries arrive on the
stream at any time; the goroutine takes the next one only when it comes round its
`for delivery := range deliveries` loop, that is when the previous handler call has
returned and the previous delivery has been settled. A handler call is *running* between the
step that starts it and the step where it returns.

Every reachable state is a state of the sequential loop `consumeLoop` over the deliveries
taken so far, and no step starts a handler while one is running: a blocked handler holds
back the dispatch and the settlement of every later delivery.
-/

namespace MsaCore
namespace RabbitMQ

open Amqp Tracing

/-- The consume goroutine: the deliveries waiting on the stream, the delivery whose handler
is running, the position of the next handler call on the stream, and its events so far. -/
structure Dispatcher where
  stream : List Delivery
  running : Option Delivery
  position : Nat
  log : List ConsumerEvent

/-- The goroutine as `ConsumeWithOptions` starts it. -/
def Dispatcher.init : Dispatcher := ⟨[], none, 0, []⟩

/-- What a step does. -/
inductive Label where
  /-- The broker pushes a delivery onto the stream. -/
  | arrive (d : Delivery)
  /-- The loop takes a delivery, starts its span and calls the handler. -/
  | start (d : Delivery)
  /-- The handler returns; the loop settles the delivery and ends the span. -/
  | finish (d : Delivery)

/-- The delivery a step brings onto the stream. -/
def Label.arrival : Label → Option Delivery
  | .arrive d => some d
  | _ => none

/-- The deliveries that arrived along a trace of steps, in order. -/
def arrivals (tr : List Label) : List Delivery := tr.filterMap Label.arrival

section Machine

variable (prop : Propagator) (logger : Bool) (queue : String) (options : ConsumeOptions)
  (env : ConsumeEnv)

/-- The steps of the goroutine and of the broker feeding it. -/
inductive Step : Dispatcher → Label → Dispatcher → Prop where
  | arrive (s : Dispatcher) (d : Delivery) :
      Step s (.arrive d) { s with stream := s.stream ++ [d] }
  | start (s : Dispatcher) (d : Delivery) (rest : List Delivery) (idle : s.running = none)
      (next : s.stream = d :: rest) :
      Step s (.start d) { s with stream := rest, running := some d, log := s.log ++ beginHandling prop d }
  | finish (s : Dispatcher) (d : Delivery) (busy : s.running = some d) :
      Step s (.finish d)
        { s with
          running := none
          position := s.position + 1
          log := s.log ++ finishHandling logger queue options env s.position d }

/-- The runs from `s`, with the trace of their steps. -/
inductive Steps (s : Dispatcher) : List Label → Dispatcher → Prop where
  | refl : Steps s [] s
  | tail {tr : List Label} {t u : Dispatcher} {l : Label} :
      Steps s tr t → Step prop logger queue options env t l u → Steps s (tr ++ [l]) u

/-- The states the goroutine reaches from its start, with the trace of steps that led there. -/
def Reachable (tr : List Label) (s : Dispatcher) : Prop :=
  Steps prop logger queue options env Dispatcher.init tr s

/-- The state of the sequential loop over the deliveries `arrived`, in arrival order: it has
handled and settled `taken`, started the handler of the next one if one is running, and the
others wait on the stream. -/
def Sequential (s : Dispatcher) (taken arrived : List Delivery) : Prop :=
  s.position = taken.length ∧
    s.log = consumeLoop prop logger queue options env 0 taken ++ s.running.elim [] (beginHandling prop) ∧
    taken ++ s.running.toList ++ s.stream = arrived

end Machine

section Proofs

variable {prop : Propagator} {logger : Bool} {queue : String} {options : ConsumeOptions}
  {env : ConsumeEnv}

/-- Each step keeps the goroutine a state of the sequential loop over the deliveries that
have arrived. -/
theorem Step.sequential {s t : Dispatcher} {l : Label} {taken arrived : List Delivery}
    (h : Step prop logger queue options env s l t)
    (hs : Sequential prop logger queue options env s taken arrived) :
    ∃ taken', Sequential prop logger queue options env t taken' (arrived ++ l.arrival.toList) := by
  obtain ⟨hp, hlog, harr⟩ := hs
  cases h with
  | arrive d => exact ⟨taken, hp, hlog, by simp [← harr, Label.arrival]⟩
  | start d rest idle next =>
    exact ⟨taken, hp, by simp [hlog, idle], by simp [← harr, idle, next, Label.arrival]⟩
  | finish d busy =>
    refine ⟨taken ++ [d], by simp [hp], ?_, by simp [← harr, busy, Label.arrival]⟩
    simp [hlog, busy, consumeLoop_append_single, hp]

/-- Every reachable state is a state of the sequential loop over the deliveries that arrived
along its trace. -/
theorem Reachable.sequential {tr : List Label} {s : Dispatcher}
    (h : Reachable prop logger queue options env tr s) :
    ∃ taken, Sequential prop logger queue options env s taken (arrivals tr) := by
  induction h with
  | refl => exact ⟨[], rfl, rfl, rfl⟩
  | tail _ hst ih =>
    obtain ⟨taken, hs⟩ := ih
    simpa [arrivals, List.filterMap_append, Option.toList] using hst.sequential hs

/-- While the handler of `d` runs and has not returned, no step starts a handler. -/
theorem Steps.blocked {s t : Dispatcher} {tr : List Label} {d : Delivery}
    (h : Steps prop logger queue options env s tr t) (hr : s.running = some d)
    (hf : Label.finish d ∉ tr) : t.running = some d ∧ ∀ d', Label.start d' ∉ tr := by
  induction h with
  | refl => exact ⟨hr, fun _ => List.not_mem_nil _⟩
  | tail _ hst ih =>
    obtain ⟨ht, hno⟩ := ih fun h => hf (List.mem_append_left _ h)
    cases hst with
    | arrive => exact ⟨ht, by simpa using hno⟩
    | start _ _ idle => simp [ht] at idle
    | finish _ busy => rw [ht] at busy; cases busy; simp at hf

/-- The consume goroutine handles one delivery at a time: every reachable state is a state of
the sequential loop over the deliveries that have arrived, in arrival order, and from a state
where the handler of a delivery is running, no run in which that handler does not return
starts the handler of any other delivery. -/
theorem dispatch_sequential {tr : List Label} {s : Dispatcher}
    (h : Reachable prop logger queue options env tr s) :
    (∃ taken, Sequential prop logger queue options env s taken (arrivals tr)) ∧
      ∀ d tr' t, s.running = some d → Steps prop logger queue options env s tr' t →
        Label.finish d ∉ tr' → ∀ d', Label.start d' ∉ tr' :=
  ⟨h.sequential, fun _ _ _ hr hs hf => (hs.blocked hr hf).2⟩

end Proofs

/-- A delivery from the `orders` queue. -/
def orderDelivery (tag : Nat) : Delivery := ⟨tag, none, [], "", "orders", "orders-exchange"⟩

/-- Two deliveries have arrived; the handler of the first is running. -/
def blockedDispatcher : Dispatcher :=
  ⟨[orderDelivery 2], some (orderDelivery 1), 0,
    beginHandling (traceContext .level1) (orderDelivery 1)⟩

/-- While the handler of delivery 1 runs, delivery 2 waits on the stream and no step starts its
handler. -/
theorem blocked_dispatcher_starts_nothing :
    Reachable (traceContext .level1) true "orders" {} ⟨fun _ _ => none, fun _ => none⟩
        [.arrive (orderDelivery 1), .arrive (orderDelivery 2), .start (orderDelivery 1)]
        blockedDispatcher ∧
      blockedDispatcher.running = some (orderDelivery 1) ∧
      orderDelivery 2 ∈ blockedDispatcher.stream ∧
      ¬ ∃ t, Step (traceContext .level1) true "orders" {} ⟨fun _ _ => none, fun _ => none⟩
        blockedDispatcher (.start (orderDelivery 2)) t :=
  ⟨.tail (.tail (.tail .refl (.arrive _ (orderDelivery 1))) (.arrive _ (orderDelivery 2)))
      (.start _ _ _ rfl rfl), rfl, List.mem_singleton_self _,
    fun ⟨_, h⟩ => by cases h with | start _ _ idle => exact Option.noConfusion idle⟩

theorem dispatch_sequential_blocked :
    let env : ConsumeEnv := ⟨fun _ _ => none, fun _ => none⟩
    Reachable (traceContext .level1) true "orders" {} env
        [.arrive (orderDelivery 1), .arrive (orderDelivery 2), .start (orderDelivery 1)]
        blockedDispatcher ∧
      blockedDispatcher.running = some (orderDelivery 1) ∧
      orderDelivery 2 ∈ blockedDispatcher.stream ∧
      ∀ tr t, Steps (traceContext .level1) true "orders" {} env blockedDispatcher tr t →
        Label.finish (orderDelivery 1) ∉ tr → Label.start (orderDelivery 2) ∉ tr :=
  have h : Reachable (traceContext .level1) true "orders" {} ⟨fun _ _ => none, fun _ => none⟩
      [.arrive (orderDelivery 1), .arrive (orderDelivery 2), .start (orderDelivery 1)]
      blockedDispatcher :=
    .tail (.tail (.tail .refl (.arrive _ (orderDelivery 1))) (.arrive _ (orderDelivery 2)))
      (.start _ _ _ rfl rfl)
  ⟨h, rfl, List.mem_singleton_self _,
    fun tr t hs hf => (dispatch_sequential h).2 _ tr t rfl hs hf _⟩

end RabbitMQ
end MsaCore
