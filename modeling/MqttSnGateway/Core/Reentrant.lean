import MqttSnGateway.Core.Sound

namespace MqttSnGateway

open Persistent Store

/-- A message of the broker as `messageArrived` passes it to the core. -/
structure BrokerMessage where
  topicName : CString
  payload : List UInt8
  retain : Bool

namespace Persistent

variable {p : Persistent} {counts : List EntryMqttSubscription}

def withCounts (counts : List EntryMqttSubscription) (p : Persistent) : Persistent :=
  { p with store := { p.store with mqttSub := counts } }

def countedDown (counts : List EntryMqttSubscription) (topicName : Option CString) : List EntryMqttSubscription :=
  match validName topicName with
  | some name => decrementCount counts name
  | none => counts

theorem decrementGlobalSubscriptionCount_withCounts {topicName : Option CString} (clean : p.error = false) :
    p.decrementGlobalSubscriptionCount topicName = p.withCounts (countedDown p.store.mqttSub topicName) := by
  unfold decrementGlobalSubscriptionCount countedDown
  rw [if_neg (by simp [clean])]
  split
  · rename_i invalid
    rw [invalid]
    rfl
  · rename_i name valid
    rw [valid]
    rfl

def receive (message : BrokerMessage) (address : DeviceAddress) (p : Persistent) : Persistent :=
  let p := p.startClientTransaction address
  let p :=
    if p.getClientStatus.connected && p.isSubscribed (some message.topicName) then
      p.addClientPublish message.payload (p.getSubscriptionTopicId (some message.topicName)) message.retain
        (p.getSubscriptionQos (some message.topicName))
    else p
  p.applyTransaction.2

theorem startClientTransaction_withCounts {address : DeviceAddress} :
    (p.withCounts counts).startClientTransaction address = (p.startClientTransaction address).withCounts counts := by
  have same : (p.withCounts counts).store.slotOfAddress address = p.store.slotOfAddress address := rfl
  unfold startClientTransaction
  rw [same]
  cases p.store.slotOfAddress address with
  | none =>
    show (if p.transactionStarted = true then _ else _) = withCounts counts (if p.transactionStarted = true then _ else _)
    split <;> rfl
  | some n =>
    show (if p.transactionStarted = true then _ else _) = withCounts counts (if p.transactionStarted = true then _ else _)
    split <;> rfl

theorem addClientPublish_withCounts {data : List UInt8} {topicId : UInt16} {retain : Bool} {qos : UInt8} :
    (p.withCounts counts).addClientPublish data topicId retain qos =
      (p.addClientPublish data topicId retain qos).withCounts counts := by
  have same : (p.withCounts counts).ready = p.ready := rfl
  unfold addClientPublish
  rw [same]
  split <;> rfl

theorem receive_withCounts {message : BrokerMessage} {address : DeviceAddress} :
    (p.withCounts counts).receive message address = (p.receive message address).withCounts counts := by
  unfold receive
  rw [startClientTransaction_withCounts]
  generalize p.startClientTransaction address = started
  have status : (started.withCounts counts).getClientStatus = started.getClientStatus := rfl
  have subscribed : (started.withCounts counts).isSubscribed (some message.topicName) =
      started.isSubscribed (some message.topicName) := rfl
  have topicId : (started.withCounts counts).getSubscriptionTopicId (some message.topicName) =
      started.getSubscriptionTopicId (some message.topicName) := rfl
  have qos : (started.withCounts counts).getSubscriptionQos (some message.topicName) =
      started.getSubscriptionQos (some message.topicName) := rfl
  simp only [status, subscribed, topicId, qos]
  split
  · rw [addClientPublish_withCounts]
    rfl
  · rfl

end Persistent

namespace Gateway

section Messages

variable {g g' after : Gateway} {message : BrokerMessage} {messages : List BrokerMessage}

def deliver (g : Gateway) (message : BrokerMessage) : Gateway :=
  (g.publishFromBroker message.topicName message.payload message.retain).getD g

/-- The Paho client that lets messages in while a call waits: `deliveries` are those at the calls of a step, by their number. -/
def reentrant (deliveries : Nat → List BrokerMessage) : MqttMessageHandler where
  publish g topic payload qos retained :=
    ((pahoMqttMessageHandler.publish g topic payload qos retained).1,
      (deliveries g.calls.length).foldl deliver (pahoMqttMessageHandler.publish g topic payload qos retained).2)
  subscribe g topic qos :=
    ((pahoMqttMessageHandler.subscribe g topic qos).1,
      (deliveries g.calls.length).foldl deliver (pahoMqttMessageHandler.subscribe g topic qos).2)
  unsubscribe g topic :=
    ((pahoMqttMessageHandler.unsubscribe g topic).1,
      (deliveries g.calls.length).foldl deliver (pahoMqttMessageHandler.unsubscribe g topic).2)

theorem reentrant_none : reentrant (fun _ => []) = pahoMqttMessageHandler := rfl

theorem persistent_handleReceive {address : DeviceAddress} :
    (handleReceiveMqttPublishForClient message.topicName message.payload message.retain address g).persistent =
      g.persistent.receive message address := by
  unfold handleReceiveMqttPublishForClient Persistent.receive
  simp only
  split
  · rename_i reached
    rw [if_pos (show ((g.persistent.startClientTransaction address).getClientStatus.connected &&
      (g.persistent.startClientTransaction address).isSubscribed (some message.topicName)) = true from reached)]
    rfl
  · rename_i missed
    rw [if_neg (show ¬ ((g.persistent.startClientTransaction address).getClientStatus.connected &&
      (g.persistent.startClientTransaction address).isSubscribed (some message.topicName)) = true from missed)]
    rfl

theorem clients_receive {p : Persistent} {address : DeviceAddress} : (p.receive message address).store.clients =
    p.store.clients := by
  have started : (p.startClientTransaction address).store = p.store := by
    unfold Persistent.startClientTransaction
    split
    · rfl
    · split <;> rfl
  unfold Persistent.receive
  simp only
  rw [← started]
  generalize p.startClientTransaction address = q
  split
  · unfold addClientPublish
    split <;> rfl
  · rfl

/-- The core never hangs on a message, whatever state it is in. -/
theorem publishFromBroker_returns (g : Gateway) (message : BrokerMessage) :
    (g.publishFromBroker message.topicName message.payload message.retain).isSome = true := by
  unfold publishFromBroker
  split
  · rfl
  · simp only
    split
    · rfl
    · rw [Option.isSome_map]
      have ends : ∀ (n : Nat) (g' : Gateway), g'.store.clients = g.store.clients → g.store.clients.length ≤ n →
          decide ((g'.store.nthClient n).clientAddress = .zero) = true := by
        intro n g' kept beyond
        rw [nthClient_outside (by rw [kept]; exact beyond)]
        rfl
      refine traverse_returns (I := fun _ g' => g'.store.clients = g.store.clients)
        (J := fun _ g' => g'.store.clients = g.store.clients) ?_ (fun _ _ kept _ _ => kept)
        (fun n g' kept beyond => .inl (ends n g' kept beyond)) rfl (by omega)
      intro n g' kept
      refine ⟨_, rfl, ?_⟩
      show (handleReceiveMqttPublishForClient _ _ _ _ g').persistent.store.clients = _
      rw [persistent_handleReceive, clients_receive]
      exact kept

theorem publishFromBroker_eq (g : Gateway) (message : BrokerMessage) :
    g.publishFromBroker message.topicName message.payload message.retain = some (g.deliver message) := by
  have returns := publishFromBroker_returns g message
  unfold deliver
  cases taken : g.publishFromBroker message.topicName message.payload message.retain with
  | none =>
    rw [taken] at returns
    cases returns
  | some after => rfl

theorem deliver_receives (idle : g.persistent.Idle) : Receives g (g.deliver message) :=
  publishFromBroker_receives idle (publishFromBroker_eq g message)

theorem foldl_deliver_receives (messages : List BrokerMessage) (idle : g.persistent.Idle) :
    Receives g (messages.foldl deliver g) := by
  induction messages generalizing g with
  | nil => exact ⟨Settles.refl idle, rfl, rfl, rfl, fun _ => ⟨rfl, rfl⟩, fun _ => rfl⟩
  | cons message messages ih =>
    have first : Receives g (g.deliver message) := deliver_receives idle
    exact first.trans (ih first.settles.idle)

/-- Two gateways that the core cannot tell apart when it takes a message, but for the global counts. -/
structure Alike (counts : List EntryMqttSubscription) (g g' : Gateway) : Prop where
  persistent : g'.persistent = g.persistent.withCounts counts
  maximumMessageLength : g'.maximumMessageLength = g.maximumMessageLength

theorem Alike.of_persistent (persistent : g'.persistent = g.persistent)
    (maximumMessageLength : g'.maximumMessageLength = g.maximumMessageLength) : Alike g.store.mqttSub g g' :=
  ⟨persistent, maximumMessageLength⟩

theorem Alike.handleReceive {counts : List EntryMqttSubscription} (alike : Alike counts g g') (message : BrokerMessage)
    (address : DeviceAddress) : Alike counts (handleReceiveMqttPublishForClient message.topicName message.payload message.retain address g)
      (handleReceiveMqttPublishForClient message.topicName message.payload message.retain address g') := by
  have kept : ∀ h : Gateway, (handleReceiveMqttPublishForClient message.topicName message.payload message.retain address
      h).maximumMessageLength = h.maximumMessageLength := by
    intro h
    unfold handleReceiveMqttPublishForClient
    simp only
    split <;> rfl
  constructor
  · rw [persistent_handleReceive, persistent_handleReceive, alike.persistent, receive_withCounts]
  · rw [kept, kept]
    exact alike.maximumMessageLength

theorem Alike.nthClient {counts : List EntryMqttSubscription} {n : Nat} (alike : Alike counts g g') :
    g'.store.nthClient n = g.store.nthClient n := by
  show g'.persistent.store.nthClient n = g.persistent.store.nthClient n
  rw [alike.persistent]
  rfl

theorem Alike.traverse {counts : List EntryMqttSubscription} (alike : Alike counts g g') (message : BrokerMessage)
    (stops : DeviceAddress → Bool) (last : DeviceAddress) (fuel n : Nat) (slot : EntryClient) :
    Option.Rel (fun left right => Alike counts left.2 right.2)
      (Gateway.traverse (fun _ slot g => some (handleReceiveMqttPublishForClient message.topicName message.payload
        message.retain slot.clientAddress g)) stops last fuel n slot g)
      (Gateway.traverse (fun _ slot g => some (handleReceiveMqttPublishForClient message.topicName message.payload
        message.retain slot.clientAddress g)) stops last fuel n slot g') := by
  induction fuel generalizing n slot g g' with
  | zero =>
    have visited : Alike counts _ _ := alike.handleReceive message slot.clientAddress
    unfold Gateway.traverse
    simp only [Option.bind_some]
    rw [visited.nthClient]
    split
    · exact .some visited
    · split
      · exact .some visited
      · exact .none
  | succ fuel ih =>
    have visited : Alike counts _ _ := alike.handleReceive message slot.clientAddress
    unfold Gateway.traverse
    simp only [Option.bind_some]
    rw [visited.nthClient]
    split
    · exact .some visited
    · split
      · exact .some visited
      · exact ih visited _ _

theorem Alike.deliver {counts : List EntryMqttSubscription} (alike : Alike counts g g') :
    Alike counts (g.deliver message) (g'.deliver message) := by
  have clients : g'.store.clients = g.store.clients := by
    show g'.persistent.store.clients = g.persistent.store.clients
    rw [alike.persistent]
    rfl
  have payload : g'.getMaximumPublishPayloadLength = g.getMaximumPublishPayloadLength := by
    unfold getMaximumPublishPayloadLength
    rw [alike.maximumMessageLength]
  have last : g'.store.lastClientAddress .zero = g.store.lastClientAddress .zero := by
    unfold Store.lastClientAddress
    rw [clients]
  unfold Gateway.deliver publishFromBroker
  rw [payload]
  split
  · exact alike
  · simp only [last]
    split
    · exact alike
    · unfold traverseFromFirst
      rw [alike.nthClient, clients]
      have traversed := alike.traverse message (fun address => address = .zero) (g.store.lastClientAddress .zero)
        g.store.clients.length 0 (g.store.nthClient 0)
      revert traversed
      generalize Gateway.traverse _ _ _ _ _ _ g = left
      generalize Gateway.traverse _ _ _ _ _ _ g' = right
      rintro (both | _)
      · exact both
      · exact alike

theorem Alike.foldl_deliver {counts : List EntryMqttSubscription} (alike : Alike counts g g') :
    Alike counts (messages.foldl Gateway.deliver g) (messages.foldl Gateway.deliver g') := by
  induction messages generalizing g g' with
  | nil => exact alike
  | cons message messages ih => exact ih alike.deliver

theorem persistent_update_foldl_deliver (messages : List BrokerMessage) (topicName : Option CString)
    (idle : g.persistent.Idle) :
    ((messages.foldl Gateway.deliver g).update fun p => p.decrementGlobalSubscriptionCount topicName).persistent =
      (messages.foldl Gateway.deliver (g.update fun p => p.decrementGlobalSubscriptionCount topicName)).persistent := by
  have receives := foldl_deliver_receives messages idle
  have alike : Alike (countedDown g.store.mqttSub topicName) g
      (g.update fun p => p.decrementGlobalSubscriptionCount topicName) :=
    ⟨decrementGlobalSubscriptionCount_withCounts idle.clean, rfl⟩
  have same : (messages.foldl Gateway.deliver g).persistent.store.mqttSub = g.store.mqttSub := receives.mqttSub
  rw [alike.foldl_deliver.persistent]
  show (messages.foldl Gateway.deliver g).persistent.decrementGlobalSubscriptionCount topicName = _
  rw [decrementGlobalSubscriptionCount_withCounts receives.settles.idle.clean, same]

theorem persistent_foldl_deliver_congr (idle : g.persistent.Idle) (persistent : g'.persistent = g.persistent)
    (maximumMessageLength : g'.maximumMessageLength = g.maximumMessageLength) :
    (messages.foldl Gateway.deliver g').persistent = (messages.foldl Gateway.deliver g).persistent := by
  have same : (messages.foldl Gateway.deliver g).persistent.store.mqttSub = g.store.mqttSub :=
    (foldl_deliver_receives messages idle).mqttSub
  rw [(Alike.of_persistent persistent maximumMessageLength).foldl_deliver.persistent, ← same]
  rfl

end Messages

end Gateway

end MqttSnGateway
