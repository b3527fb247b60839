import MqttSnGateway.Core.Identity
import MqttSnGateway.Safety.Reentrancy

namespace MqttSnGateway

open Persistent Store

section Starts

variable (topicName : CString) (data : List UInt8) (retain : Bool)

/-- The deliveries of a message of the broker to the clients: `h` is the gateway before the one to slot `n`. -/
inductive Delivering (last : DeviceAddress) (g : Gateway) : Nat → Gateway → Prop
  | first : Delivering last g 0 g
  | next {n : Nat} {h after : Gateway} (before : Delivering last g n h)
    (delivered : Gateway.handleReceiveMqttPublishForClient topicName data retain (h.store.nthClient n).clientAddress h =
      after)
    (more : (after.store.nthClient (n + 1)).clientAddress ≠ .zero ∧ (after.store.nthClient (n + 1)).clientAddress ≠ last) :
    Delivering last g (n + 1) after

/-- The rounds in which all clients are lost: `h` is the gateway before that of slot `n`. -/
inductive Losing (last : DeviceAddress) (g : Gateway) : Nat → Gateway → Prop
  | first : Losing last g 0 g
  | next {n : Nat} {h : Gateway} (before : Losing last g n h) (more : (h.store.nthClient n).clientAddress ≠ last) :
    Losing last g (n + 1) (if (h.store.nthClient n).clientStatus ≠ .empty then
      (h.transaction (h.store.nthClient n).clientAddress (fun p => p.setClientState .lost) Gateway.successOrFull).2 else h)

namespace Operation

/-- The operation calls `start_client_transaction` at most once, before anything else that it does. -/
def startsFirst : Operation → Bool
  | publishFromBroker .. | loop .. => false
  | _ => true

/-- An operation on `g` calls `start_client_transaction` in `h`. -/
inductive Starts (g : Gateway) : Operation → Gateway → Prop
  | first {operation : Operation} (alone : operation.startsFirst = true) : Starts g operation g
  | handleReceiveMqttPublishForClient {topicName : CString} {data : List UInt8} {retain : Bool} {n : Nat} {h : Gateway}
    (delivering : Delivering topicName data retain (g.store.lastClientAddress .zero) g n h) :
    Starts g (.publishFromBroker topicName data retain) h
  | handleClientPublishes {beat elapsed : UInt32} {stage : Stage} {h : Gateway} {round : Round}
    (begun : Stage.begin g beat elapsed = some stage) (visited : Stage.Visited stage ⟨h, some round⟩) :
    Starts g (.loop beat elapsed) (h.visiting round.slot)
  | drain {beat elapsed : UInt32} {stage : Stage} {h : Gateway} {round : Round}
    (begun : Stage.begin g beat elapsed = some stage) (visited : Stage.Visited stage ⟨h, some round⟩) :
    Starts g (.loop beat elapsed) (h.delivered round.slot)
  | handleTimeout {beat elapsed : UInt32} {stage : Stage} {h : Gateway} {round : Round}
    (begun : Stage.begin g beat elapsed = some stage) (visited : Stage.Visited stage ⟨h, some round⟩)
    (beaten : round.hasHeartBeaten = true) : Starts g (.loop beat elapsed) (h.drained round round.slot)
  | setAllClientsLost {beat elapsed : UInt32} {n : Nat} {h : Gateway}
    (losing : Losing (g.store.lastClientAddress .zero) g n h) : Starts g (.loop beat elapsed) h

end Operation

end Starts

namespace Gateway

variable {g h after : Gateway} {address : DeviceAddress} {status : ClientStatus} {stage later : Stage}

theorem handleClientPublishes_idle (idle : g.persistent.Idle) :
    (handleClientPublishes status address g).persistent.Idle := by
  unfold handleClientPublishes
  split
  · simp only
    split
    · split
      · split
        · apply idle_applyTransaction
        · split
          · apply send_idle
            apply idle_applyTransaction
          · apply idle_applyTransaction
      · split
        · split
          · apply send_idle
            apply idle_applyTransaction
          · apply idle_applyTransaction
        · split
          · split
            · apply send_idle
              apply idle_applyTransaction
            · apply idle_applyTransaction
          · apply idle_applyTransaction
    · apply idle_applyTransaction
  · exact idle

theorem drain_idle {drains : Bool} {notice : SnMessage} : (drain drains status notice address g).persistent.Idle := by
  unfold drain
  simp only
  split
  · split
    · apply send_idle
      apply idle_applyTransaction
    · apply idle_applyTransaction
  · apply idle_applyTransaction

theorem begin_idle {beat elapsed : UInt32} (idle : g.persistent.Idle) (begun : Stage.begin g beat elapsed = some stage) :
    stage.gateway.persistent.Idle := by
  cases online : g.persistent.isMqttsnOnline with
  | true => exact (Stage.begin_quiet idle online begun).idle
  | false =>
    unfold Stage.begin at begun
    rw [online] at begun
    obtain ⟨between, looped, same⟩ := Option.map_eq_some_iff.mp begun
    rw [← same]
    exact loop_idle idle looped

theorem visited_idle (idle : stage.gateway.persistent.Idle) (visited : Stage.Visited stage later) :
    later.gateway.persistent.Idle := by
  induction visited with
  | start same =>
    rw [same]
    exact idle
  | @next before later moment _ visits stepped ih =>
    cases visits
    cases under : before.round with
    | none =>
      unfold Stage.step at stepped
      rw [under] at stepped
      cases stepped
    | some round =>
      have returned := Stage.step_visit under stepped
      exact serviceClient_idle returned

theorem delivering_idle {topicName : CString} {data : List UInt8} {retain : Bool} {last : DeviceAddress} {n : Nat}
    (idle : g.persistent.Idle) (delivering : Delivering topicName data retain last g n h) : h.persistent.Idle := by
  cases delivering with
  | first => exact idle
  | next _ delivered _ =>
    rw [← delivered]
    apply idle_applyTransaction

theorem losing_idle {last : DeviceAddress} {n : Nat} (idle : g.persistent.Idle) (losing : Losing last g n h) :
    h.persistent.Idle := by
  induction losing with
  | first => exact idle
  | next _ _ ih =>
    split
    · apply idle_applyTransaction
    · exact ih

/-- No transaction is ever started inside another one, or after an error of another one. -/
theorem starts_idle {operation : Operation} (idle : g.persistent.Idle) (starts : operation.Starts g h) :
    h.persistent.Idle := by
  cases starts with
  | first _ => exact idle
  | handleReceiveMqttPublishForClient delivering => exact delivering_idle idle delivering
  | @handleClientPublishes _ _ _ between _ begun visited =>
    have here : between.persistent.Idle := visited_idle (begin_idle idle begun) visited
    exact here
  | @drain _ _ _ between _ begun visited =>
    have here : between.persistent.Idle := visited_idle (begin_idle idle begun) visited
    apply handleClientPublishes_idle
    exact here
  | handleTimeout _ _ _ => exact drain_idle
  | setAllClientsLost losing => exact losing_idle idle losing

/-- Between two operations there is neither an open transaction nor an error; every transaction of the next operation starts
    so, and the operation ends so. -/
structure Balanced (g : Gateway) : Prop where
  idle : g.persistent.Idle
  starts : ∀ (operation : Operation) (h : Gateway), operation.Starts g h → h.persistent.Idle
  returns : ∀ (operation : Operation) (after : Gateway), operation.run pahoMqttMessageHandler g = some after →
    after.persistent.Idle

theorem balanced_of_idle (idle : g.persistent.Idle) : g.Balanced :=
  ⟨idle, fun _ _ starts => starts_idle idle starts, fun _ _ ran => Operation.idle_run idle ran⟩

/-- A step is a sequence of moves, and the transactions are balanced after each of them. -/
theorem transactions_balanced (reachable : g.Reachable) :
    (∀ input after, step g input = some after → Move.Moved (fun _ => []) g after) ∧
      ∀ h, Move.Moved (fun _ => []) g h → h.Balanced := by
  constructor
  · intro input after stepped
    exact Move.moved_stepWith stepped
  · intro h moved
    apply balanced_of_idle
    induction moved with
    | start same =>
      rw [same]
      exact reachable.sound.idle
    | @next between later move _ alone ran ih =>
      apply Move.idle_run ih _ ran
      cases move with
      | operate operation deliveries =>
        intro _ k
        rw [alone operation deliveries rfl]
      | send _ _ => trivial
      | begin _ => trivial

end Gateway

namespace Scenario

/-- In the middle of a SUBSCRIBE by name, between the registration and the subscription. -/
theorem transactions_balanced_oneSubscriber :
    (oneSubscriber.registerTopic (client 1).getDeviceAddress (name 117) 0).2.2.Balanced := by
  apply (Gateway.transactions_balanced reachable_oneSubscriber).2
  have begun : Move.Moved (fun _ => []) oneSubscriber oneSubscriber := .start rfl
  exact begun.operate (.registerTopic (client 1).getDeviceAddress (name 117) 0) rfl

end Scenario

end MqttSnGateway
