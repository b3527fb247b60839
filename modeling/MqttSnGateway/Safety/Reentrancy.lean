import MqttSnGateway.Core.LoopSpecs
import MqttSnGateway.Core.Reentrant
import MqttSnGateway.Stages

namespace MqttSnGateway

open Persistent Store

/-- The operations of the core. -/
inductive Operation where
  | addClient (clientId : CString) (duration : UInt16) (cleanSession : Bool) (address : DeviceAddress)
  | removeWill (address : DeviceAddress)
  | addWillTopic (address : DeviceAddress) (willTopic : CString) (retain : Bool) (qos : UInt8)
  | addWillMsg (address : DeviceAddress) (willMsg : List UInt8)
  | awaitMessage (address : DeviceAddress) (type : MessageType)
  | setDisconnected (address : DeviceAddress)
  | setAsleep (address : DeviceAddress) (duration : UInt16)
  | setAwake (address : DeviceAddress)
  | notifyRegackArrived (address : DeviceAddress) (topicId msgId : UInt16) (returnCode : UInt8)
  | notifyPubackArrived (address : DeviceAddress) (msgId topicId : UInt16) (returnCode : UInt8)
  | registerTopic (address : DeviceAddress) (topicName : CString) (newTopicId : UInt16)
  | publish (address : DeviceAddress) (data : List UInt8) (topicId : UInt16) (shortTopic retain : Bool) (qos : Int)
  | publishFromBroker (topicName : CString) (data : List UInt8) (retain : Bool)
  | addSubscription (address : DeviceAddress) (topicId : UInt16) (shortTopic : Bool) (qos : UInt8) (newTopicId : UInt16)
  | deleteSubscription (address : DeviceAddress) (topicId : UInt16) (shortTopic : Bool)
  | deleteSubscriptionByName (address : DeviceAddress) (topicName : CString)
  | loop (beat elapsed : UInt32)

namespace Operation

/-- The gateway after the operation, with its calls of the MQTT client through `mqtt`. -/
def run (mqtt : MqttMessageHandler) (g : Gateway) : Operation → Option Gateway
  | addClient clientId duration cleanSession address =>
    (Gateway.addClient mqtt g clientId duration cleanSession address).map Prod.snd
  | removeWill address => some (g.removeWill address).2
  | addWillTopic address willTopic retain qos => some (g.addWillTopic address willTopic retain qos).2
  | addWillMsg address willMsg => some (g.addWillMsg address willMsg).2
  | awaitMessage address type => some (g.awaitMessage address type).2
  | setDisconnected address => some (g.setDisconnected address).2
  | setAsleep address duration => some (g.setAsleep address duration).2
  | setAwake address => some (g.setAwake address).2
  | notifyRegackArrived address topicId msgId returnCode =>
    some (g.notifyRegackArrived address topicId msgId returnCode).2
  | notifyPubackArrived address msgId topicId returnCode =>
    some (g.notifyPubackArrived address msgId topicId returnCode).2
  | registerTopic address topicName newTopicId => some (g.registerTopic address topicName newTopicId).2.2
  | publish address data topicId shortTopic retain qos =>
    some (Gateway.publish mqtt g address data topicId shortTopic retain qos).2
  | publishFromBroker topicName data retain => g.publishFromBroker topicName data retain
  | addSubscription address topicId shortTopic qos newTopicId =>
    some (Gateway.addSubscription mqtt g address topicId shortTopic qos newTopicId).2.2.2
  | deleteSubscription address topicId shortTopic =>
    some (Gateway.deleteSubscription mqtt g address topicId shortTopic).2
  | deleteSubscriptionByName address topicName => some (Gateway.deleteSubscriptionByName mqtt g address topicName).2
  | loop beat elapsed => Gateway.loop mqtt beat elapsed g

/-- The operation calls the MQTT client while its transaction is open: a clean CONNECT of a client in the registry, which
    unsubscribes its topics, a PUBLISH with QoS -1 on a predefined topic from no connected client, and the time-outs. -/
def Encloses (g : Gateway) : Operation → Prop
  | addClient clientId _ cleanSession _ =>
    g.persistent.isMqttOnline = true ∧ cleanSession = true ∧
      (g.persistent.startClientTransactionById clientId).clientExist = true
  | publish address _ topicId shortTopic _ qos =>
    let p := g.persistent.startClientTransaction address
    g.persistent.isMqttOnline = true ∧ qos = -1 ∧ shortTopic = false ∧ (p.getPredefinedTopicName topicId).isSome = true ∧
      (p.clientExist = false ∨ p.getClientStatus = .disconnected ∨ p.getClientStatus = .lost)
  | loop _ _ => g.persistent.isMqttsnOnline = true
  | _ => False

end Operation

namespace Gateway

variable {g after other : Gateway} {deliveries : Nat → List BrokerMessage} {c : MqttCall}

/-- What is delivered at the calls that an operation has made. A disconnection does not wait. -/
def letIn (deliveries : Nat → List BrokerMessage) (g after : Gateway) : List BrokerMessage :=
  (after.calls.zipIdx.drop g.calls.length).flatMap fun (call, number) =>
    if call = .disconnect then [] else deliveries number

theorem letIn_append (calls : List MqttCall) (made : after.calls = g.calls ++ calls) :
    letIn deliveries g after = (calls.zipIdx g.calls.length).flatMap fun (call, number) =>
      if call = .disconnect then [] else deliveries number := by
  unfold letIn
  rw [made, List.zipIdx_append, List.drop_append, List.length_zipIdx, Nat.sub_self, Nat.zero_add,
    List.drop_of_length_le (by simp), List.nil_append, List.drop_zero]

theorem letIn_silent (silent : after.calls = g.calls) : letIn deliveries g after = [] := by
  rw [letIn_append [] (by rw [silent, List.append_nil])]
  rfl

theorem letIn_call (waits : c ≠ .disconnect) (made : after.calls = g.calls ++ [c]) :
    letIn deliveries g after = deliveries g.calls.length := by
  rw [letIn_append _ made]
  simp [waits]

theorem letIn_none (nothing : ∀ k, deliveries k = []) : letIn deliveries g after = [] := by
  unfold letIn
  rw [List.flatMap_eq_nil_iff]
  rintro ⟨call, number⟩ _
  simp only [nothing, ite_self]

/-- The outcome `other` of an operation is what taking the messages afterwards makes of its outcome `after` without them. -/
def Comes (deliveries : Nat → List BrokerMessage) (g after other : Gateway) : Prop :=
  other.persistent = ((letIn deliveries g after).foldl deliver after).persistent

theorem comes_silent (silent : after.calls = g.calls) : Comes deliveries g after after := by
  unfold Comes
  rw [letIn_silent silent]
  rfl

theorem comes_call (between : Gateway) (waits : c ≠ .disconnect) (same : between.calls = g.calls)
    (made : after.calls = between.calls ++ [c]) :
    Comes deliveries g after ((deliveries between.calls.length).foldl deliver after) := by
  unfold Comes
  rw [letIn_call waits (made.trans (by rw [same])), same]

theorem Comes.of_calls {between : Gateway} (comes : Comes deliveries between after other)
    (silent : between.calls = g.calls) : Comes deliveries g after other := by
  unfold Comes letIn at comes ⊢
  rw [silent] at comes
  exact comes

theorem calls_publish (g : Gateway) (topic : CString) (payload : List UInt8) (qos : UInt8) (retained : Bool) :
    (pahoMqttMessageHandler.publish g topic payload qos retained).2.calls =
      g.calls ++ [.publish topic payload qos retained] := by
  unfold pahoMqttMessageHandler
  simp only
  split <;> rfl

theorem calls_subscribe (g : Gateway) (topic : CString) (qos : UInt8) :
    (pahoMqttMessageHandler.subscribe g topic qos).2.calls = g.calls ++ [.subscribe topic qos] := by
  unfold pahoMqttMessageHandler
  simp only
  split
  · rfl
  · unfold request
    cases (g.call (.subscribe topic qos)).isConnected && (g.call (.subscribe topic qos)).answers.headD true <;> rfl

theorem calls_unsubscribe (g : Gateway) (topic : Option CString) :
    (pahoMqttMessageHandler.unsubscribe g topic).2.calls = g.calls ++ [.unsubscribe topic] := by
  unfold pahoMqttMessageHandler
  cases topic with
  | none => rfl
  | some name =>
    simp only
    split
    · rfl
    · unfold request
      cases (g.call (.unsubscribe (some name))).isConnected && (g.call (.unsubscribe (some name))).answers.headD true <;> rfl

theorem idle_applyTransaction : g.applyTransaction.2.persistent.Idle := ⟨rfl, rfl, rfl⟩

section Operations

variable {address : DeviceAddress}

theorem publish_comes {data : List UInt8} {topicId : UInt16} {shortTopic retain : Bool} {qos : Int}
    (apart : ¬ (Operation.publish address data topicId shortTopic retain qos).Encloses g) :
    Comes deliveries g (publish pahoMqttMessageHandler g address data topicId shortTopic retain qos).2
      (publish (reentrant deliveries) g address data topicId shortTopic retain qos).2 := by
  unfold publish
  split
  · exact comes_silent rfl
  · rename_i online
    simp only
    split
    · rename_i unconnected
      split
      · rename_i name predefined
        split at predefined
        · rename_i unconnectedly
          simp only [Bool.and_eq_true, decide_eq_true_eq, Bool.not_eq_true'] at unconnectedly
          simp only [Bool.or_eq_true, Bool.not_eq_true', decide_eq_true_eq, or_assoc] at unconnected
          exact absurd ⟨by simpa using online, unconnectedly.1, unconnectedly.2, by
            show (Persistent.getPredefinedTopicName _ _).isSome = true
            rw [show (g.persistent.startClientTransaction address).getPredefinedTopicName topicId = some name from predefined]
            rfl, unconnected⟩ apart
        · cases predefined
      · exact comes_silent rfl
    · split
      · exact comes_silent rfl
      · split
        · exact comes_silent rfl
        · exact comes_call (g.startClientTransaction address).applyTransaction.2 (by nofun) rfl (calls_publish _ _ _ _ _)

theorem subscribeTo_comes {topicName : CString} {topicId : UInt16} {qos : UInt8} :
    Comes deliveries g (subscribeTo pahoMqttMessageHandler g topicName topicId qos).2
      (subscribeTo (reentrant deliveries) g topicName topicId qos).2 := by
  unfold subscribeTo
  simp only
  generalize added : (if g.persistent.isSubscribed (some topicName) = true then g else _) = between
  have silent : between.applyTransaction.2.calls = g.calls := by
    rw [← added]
    split <;> rfl
  split
  · exact comes_silent silent
  · split
    · have idle : (pahoMqttMessageHandler.subscribe between.applyTransaction.2 topicName 1).2.persistent.Idle := by
        rw [paho_subscribe_called.persistent]
        exact idle_applyTransaction
      have made := calls_subscribe between.applyTransaction.2 topicName 1
      unfold reentrant
      simp only
      generalize pahoMqttMessageHandler.subscribe between.applyTransaction.2 topicName 1 = answer at idle made ⊢
      rcases answer with ⟨_ | _, after⟩
      · have counted := persistent_update_foldl_deliver (deliveries between.applyTransaction.2.calls.length)
          (some topicName) idle
        have last : (after.update fun p => p.decrementGlobalSubscriptionCount (some topicName)).calls =
            g.calls ++ [.subscribe topicName 1] := by
          rw [← silent]
          exact made
        show Comes deliveries g (after.update fun p => p.decrementGlobalSubscriptionCount (some topicName))
          ((List.foldl deliver after (deliveries between.applyTransaction.2.calls.length)).update fun p =>
            p.decrementGlobalSubscriptionCount (some topicName))
        unfold Comes
        rw [letIn_call (by nofun) last, ← silent]
        exact counted
      · exact comes_call between.applyTransaction.2 (by nofun) silent made
    · exact comes_silent silent

theorem deleteSubscriptionOf_comes {topicId : UInt16} {topicName : Option CString} :
    Comes deliveries g (deleteSubscriptionOf pahoMqttMessageHandler g topicId topicName).2
      (deleteSubscriptionOf (reentrant deliveries) g topicId topicName).2 := by
  unfold deleteSubscriptionOf
  simp only
  generalize removed : (if g.persistent.isSubscribed topicName = true then g else _) = between
  have silent : between.applyTransaction.2.calls = g.calls := by
    rw [← removed]
    split <;> rfl
  split
  · exact comes_silent silent
  · split
    · exact comes_call between.applyTransaction.2 (by nofun) silent (calls_unsubscribe _ _)
    · exact comes_silent silent

theorem deleteSubscription_comes {topicId : UInt16} {shortTopic : Bool} :
    Comes deliveries g (deleteSubscription pahoMqttMessageHandler g address topicId shortTopic).2
      (deleteSubscription (reentrant deliveries) g address topicId shortTopic).2 :=
  (deleteSubscriptionOf_comes (g := g.startClientTransaction address)).of_calls rfl

theorem deleteSubscriptionByName_comes {topicName : CString} :
    Comes deliveries g (deleteSubscriptionByName pahoMqttMessageHandler g address topicName).2
      (deleteSubscriptionByName (reentrant deliveries) g address topicName).2 :=
  (deleteSubscriptionOf_comes (g := g.startClientTransaction address)).of_calls rfl

theorem addSubscription_comes {topicId newTopicId : UInt16} {shortTopic : Bool} {qos : UInt8} :
    Comes deliveries g (addSubscription pahoMqttMessageHandler g address topicId shortTopic qos newTopicId).2.2.2
      (addSubscription (reentrant deliveries) g address topicId shortTopic qos newTopicId).2.2.2 := by
  unfold addSubscription
  simp only
  split
  · exact comes_silent rfl
  · split
    · exact comes_silent rfl
    · have silent : ((g.startClientTransaction address).subscriptionTopic topicId shortTopic newTopicId).2.2.calls =
          g.calls := by
        unfold subscriptionTopic
        split
        · split <;> rfl
        · split <;> rfl
      generalize (g.startClientTransaction address).subscriptionTopic topicId shortTopic newTopicId = topic at silent ⊢
      rcases topic with ⟨_ | name, id, between⟩
      · exact comes_silent silent
      · exact (subscribeTo_comes (g := between)).of_calls silent

theorem addClient_comes {clientId : CString} {duration : UInt16} {clean : Bool}
    (apart : ¬ (Operation.addClient clientId duration clean address).Encloses g) :
    Option.Rel (Comes deliveries g) ((addClient pahoMqttMessageHandler g clientId duration clean address).map Prod.snd)
      ((addClient (reentrant deliveries) g clientId duration clean address).map Prod.snd) := by
  unfold addClient
  simp only
  split
  · exact .some (comes_silent rfl)
  · rename_i online
    split
    · rename_i exist
      split
      · exact .some (comes_silent rfl)
      · rename_i cleaned
        exact absurd ⟨by simpa using online, by simpa using cleaned, exist⟩ apart
    · exact .some (comes_silent rfl)

theorem setAllClientsLostLoop_calls {last : DeviceAddress} {fuel n : Nat}
    (returned : setAllClientsLostLoop last fuel n g = some after) : after.calls = g.calls := by
  induction fuel generalizing n g with
  | zero =>
    unfold setAllClientsLostLoop at returned
    simp only at returned
    split at returned
    · cases returned
      rfl
    · cases returned
  | succ fuel ih =>
    unfold setAllClientsLostLoop at returned
    simp only at returned
    split at returned
    · cases returned
      rfl
    · rw [ih returned]
      split <;> rfl

/-- Without the sensor network the will of the gateway is published outside any transaction. -/
theorem loop_comes {beat elapsed : UInt32} (idle : g.persistent.Idle) (offline : g.persistent.isMqttsnOnline = false) :
    Option.Rel (Comes deliveries g) (loop pahoMqttMessageHandler beat elapsed g)
      (loop (reentrant deliveries) beat elapsed g) := by
  unfold loop
  rw [offline]
  cases online : g.persistent.isMqttOnline with
  | false =>
    simp only [Bool.not_false, Bool.or_self, Bool.false_and, Bool.false_eq_true, if_true, if_false, Bool.and_false]
    cases finished : g.setAllClientsLost with
    | none => exact .none
    | some after =>
      have silent : after.calls = g.calls := setAllClientsLostLoop_calls finished
      exact .some (comes_silent silent)
  | true =>
    simp only [Bool.not_false, Bool.not_true, Bool.or_false, Bool.false_eq_true, if_true, if_false,
      Bool.and_self]
    refine .some ?_
    unfold processMqttsnOfflineProcedure Comes
    cases g.mqttWill with
    | none =>
      rw [letIn_append [.disconnect] rfl]
      rfl
    | some will =>
      have made := calls_publish g will.willTopic (will.willMsg.bytes ++ [0]) will.willQos will.willRetain
      have called : g.Called (pahoMqttMessageHandler.publish g will.willTopic (will.willMsg.bytes ++ [0]) will.willQos
        will.willRetain).2 := paho_publish_called
      unfold reentrant
      simp only
      generalize (pahoMqttMessageHandler.publish g will.willTopic (will.willMsg.bytes ++ [0]) will.willQos
        will.willRetain).2 = between at made called ⊢
      have waited : letIn deliveries g (exit { between.call .disconnect with isConnected := false }) =
          deliveries g.calls.length := by
        rw [letIn_append [.publish will.willTopic (will.willMsg.bytes ++ [0]) will.willQos will.willRetain, .disconnect]]
        · simp
        · show between.calls ++ [.disconnect] = _
          rw [made]
          simp
      rw [waited]
      have between_idle : between.persistent.Idle := by
        rw [called.persistent]
        exact idle
      have same : ((deliveries g.calls.length).foldl deliver
          (exit { between.call .disconnect with isConnected := false })).persistent =
            ((deliveries g.calls.length).foldl deliver between).persistent :=
        persistent_foldl_deliver_congr between_idle rfl rfl
      exact same.symm

theorem addWillPart_quiet {awaited : MessageType} {change : Persistent → Persistent} (idle : g.persistent.Idle) :
    (g.addWillPart address awaited change).2.calls = g.calls ∧
      (g.addWillPart address awaited change).2.persistent.Idle := by
  unfold addWillPart
  simp only
  split
  · exact ⟨rfl, idle⟩
  · split <;> exact ⟨rfl, idle_applyTransaction⟩

theorem setAsleep_quiet {duration : UInt16} (idle : g.persistent.Idle) :
    (g.setAsleep address duration).2.calls = g.calls ∧ (g.setAsleep address duration).2.persistent.Idle := by
  unfold setAsleep
  split
  · exact ⟨rfl, idle⟩
  · exact ⟨rfl, idle_applyTransaction⟩

theorem notifyRegackArrived_quiet {topicId msgId : UInt16} {returnCode : UInt8} :
    (g.notifyRegackArrived address topicId msgId returnCode).2.calls = g.calls ∧
      (g.notifyRegackArrived address topicId msgId returnCode).2.persistent.Idle := by
  unfold notifyRegackArrived
  simp only
  split
  · split
    · split
      · exact ⟨rfl, idle_applyTransaction⟩
      · split <;> exact ⟨rfl, idle_applyTransaction⟩
    · split
      · split
        · exact ⟨rfl, idle_applyTransaction⟩
        · split <;> exact ⟨rfl, idle_applyTransaction⟩
      · split
        · exact ⟨rfl, idle_applyTransaction⟩
        · split <;> exact ⟨rfl, idle_applyTransaction⟩
  · split
    · exact ⟨rfl, idle_applyTransaction⟩
    · split <;> exact ⟨rfl, idle_applyTransaction⟩

theorem notifyPubackArrived_quiet {msgId topicId : UInt16} {returnCode : UInt8} :
    (g.notifyPubackArrived address msgId topicId returnCode).2.calls = g.calls ∧
      (g.notifyPubackArrived address msgId topicId returnCode).2.persistent.Idle := by
  unfold notifyPubackArrived
  split <;> exact ⟨rfl, idle_applyTransaction⟩

theorem registerTopic_quiet {topicName : CString} {newTopicId : UInt16} (idle : g.persistent.Idle) :
    (g.registerTopic address topicName newTopicId).2.2.calls = g.calls ∧
      (g.registerTopic address topicName newTopicId).2.2.persistent.Idle := by
  unfold registerTopic
  simp only
  split
  · exact ⟨rfl, idle⟩
  · split
    · exact ⟨rfl, idle_applyTransaction⟩
    · split
      · exact ⟨rfl, idle_applyTransaction⟩
      · split <;> exact ⟨rfl, idle_applyTransaction⟩

theorem calls_publishFromBroker {topicName : CString} {data : List UInt8} {retain : Bool}
    (published : g.publishFromBroker topicName data retain = some after) : after.calls = g.calls := by
  unfold publishFromBroker at published
  split at published
  · cases published
    rfl
  · simp only at published
    split at published
    · cases published
      rfl
    · obtain ⟨⟨outcome, between⟩, left, rfl⟩ := Option.map_eq_some_iff.mp published
      refine (traverseFromFirst_rule (I := fun _ g' => g'.calls = g.calls) ?_ rfl left).elim fun m kept => kept.1
      intro n g' g'' kept visited
      cases visited
      unfold handleReceiveMqttPublishForClient
      simp only
      split
      · exact kept
      · exact kept

theorem publish_idle {data : List UInt8} {topicId : UInt16} {shortTopic retain : Bool} {qos : Int}
    (idle : g.persistent.Idle) :
    (publish pahoMqttMessageHandler g address data topicId shortTopic retain qos).2.persistent.Idle := by
  unfold publish
  split
  · exact idle
  · simp only
    split
    · split
      · exact idle_applyTransaction
      · exact idle_applyTransaction
    · split
      · exact idle_applyTransaction
      · split
        · exact idle_applyTransaction
        · rw [paho_publish_called.persistent]
          exact idle_applyTransaction

theorem subscribeTo_idle {topicName : CString} {topicId : UInt16} {qos : UInt8} :
    (subscribeTo pahoMqttMessageHandler g topicName topicId qos).2.persistent.Idle := by
  unfold subscribeTo
  simp only
  generalize (if g.persistent.isSubscribed (some topicName) = true then g else _) = between
  split
  · exact idle_applyTransaction
  · split
    · have idle : (pahoMqttMessageHandler.subscribe between.applyTransaction.2 topicName 1).2.persistent.Idle := by
        rw [paho_subscribe_called.persistent]
        exact idle_applyTransaction
      generalize pahoMqttMessageHandler.subscribe between.applyTransaction.2 topicName 1 = answer at idle ⊢
      rcases answer with ⟨_ | _, after⟩
      · show (after.persistent.decrementGlobalSubscriptionCount (some topicName)).Idle
        rw [decrementGlobalSubscriptionCount_withCounts idle.clean]
        exact ⟨idle.closed, idle.clean, idle.known⟩
      · exact idle
    · exact idle_applyTransaction

theorem addSubscription_idle {topicId newTopicId : UInt16} {shortTopic : Bool} {qos : UInt8} (idle : g.persistent.Idle) :
    (addSubscription pahoMqttMessageHandler g address topicId shortTopic qos newTopicId).2.2.2.persistent.Idle := by
  unfold addSubscription
  simp only
  split
  · exact idle
  · split
    · exact idle_applyTransaction
    · generalize (g.startClientTransaction address).subscriptionTopic topicId shortTopic newTopicId = topic
      rcases topic with ⟨_ | name, id, between⟩
      · exact idle_applyTransaction
      · exact subscribeTo_idle (g := between)

theorem deleteSubscriptionOf_idle {topicId : UInt16} {topicName : Option CString} :
    (deleteSubscriptionOf pahoMqttMessageHandler g topicId topicName).2.persistent.Idle := by
  unfold deleteSubscriptionOf
  simp only
  generalize (if g.persistent.isSubscribed topicName = true then g else _) = between
  split
  · exact idle_applyTransaction
  · split
    · rw [paho_unsubscribe_called.persistent]
      exact idle_applyTransaction
    · exact idle_applyTransaction

theorem addClient_idle {clientId : CString} {duration : UInt16} {clean : Bool} {result : CoreResult} (idle : g.persistent.Idle)
    (added : addClient pahoMqttMessageHandler g clientId duration clean address = some (result, after)) :
    after.persistent.Idle := by
  unfold addClient at added
  split at added
  · cases added
    exact idle
  · obtain ⟨between, _, applied⟩ := Option.map_eq_some_iff.mp added
    cases applied
    exact idle_applyTransaction

theorem send_idle {message : SnMessage} (idle : g.persistent.Idle) : (g.send address message).persistent.Idle := by
  unfold send
  split
  · exact idle
  · exact ⟨idle.closed, idle.clean, idle.known⟩

theorem serviceClient_idle {drained : ClientStatus → Bool} {status : ClientStatus} {notice : SnMessage} {beaten : Bool}
    {elapsed : UInt32} {n : Nat} {slot : EntryClient}
    (returned : serviceClient pahoMqttMessageHandler drained status notice beaten elapsed n slot g = some after) :
    after.persistent.Idle := by
  have timedOut : ∀ {h : Gateway}, h.persistent.Idle →
      handleTimeout pahoMqttMessageHandler slot elapsed h = some after → after.persistent.Idle := by
    intro h idle returned
    unfold handleTimeout at returned
    split at returned
    · obtain ⟨between, _, applied⟩ := Option.map_eq_some_iff.mp returned
      rw [← applied]
      exact idle_applyTransaction
    · rw [← Option.some.inj returned]
      exact idle
  rw [serviceClient_eq] at returned
  have ready : ∀ (drains : Bool) (h : Gateway), (drain drains status notice slot.clientAddress h).persistent.Idle := by
    intro drains h
    unfold drain
    simp only
    split
    · split
      · exact send_idle idle_applyTransaction
      · exact idle_applyTransaction
    · exact idle_applyTransaction
  split at returned
  · exact timedOut (ready _ _) returned
  · rw [← Option.some.inj returned]
    exact ready _ _

theorem setAllClientsLostLoop_idle {last : DeviceAddress} {fuel n : Nat} (idle : g.persistent.Idle)
    (returned : setAllClientsLostLoop last fuel n g = some after) : after.persistent.Idle := by
  induction fuel generalizing n g with
  | zero =>
    unfold setAllClientsLostLoop at returned
    simp only at returned
    split at returned
    · cases returned
      exact idle
    · cases returned
  | succ fuel ih =>
    unfold setAllClientsLostLoop at returned
    simp only at returned
    split at returned
    · cases returned
      exact idle
    · refine ih ?_ returned
      split
      · exact idle_applyTransaction
      · exact idle

theorem serviceClients_idle {drained : ClientStatus → Bool} {status : ClientStatus} {notice : SnMessage} {beaten : Bool}
    {elapsed : UInt32} {stops : DeviceAddress → Bool} {last : DeviceAddress} (idle : g.persistent.Idle)
    (returned : serviceClients (serviceClient pahoMqttMessageHandler drained status notice beaten elapsed) stops last g =
      some after) : after.persistent.Idle := by
  refine (serviceClients_rule (I := fun _ g => g.persistent.Idle) ?_ idle returned).elim fun _ kept => kept
  exact fun _ _ _ _ visited => serviceClient_idle visited

theorem loop_idle {beat elapsed : UInt32} (idle : g.persistent.Idle)
    (looped : loop pahoMqttMessageHandler beat elapsed g = some after) : after.persistent.Idle := by
  unfold loop at looped
  split at looped
  · split at looped
    · unfold processMqttOfflineProcedure at looped
      simp only at looped
      split at looped
      · cases looped
        exact idle
      · refine serviceClients_idle ?_ looped
        exact idle
    · split at looped
      · cases looped
        unfold processMqttsnOfflineProcedure
        split
        · show (pahoMqttMessageHandler.publish _ _ _ _ _).2.persistent.Idle
          rw [paho_publish_called.persistent]
          exact idle
        · exact idle
      · obtain ⟨between, finished, rfl⟩ := Option.map_eq_some_iff.mp looped
        have kept : between.persistent.Idle := setAllClientsLostLoop_idle idle finished
        exact kept
  · simp only at looped
    cases beaten : (g.system.hasBeaten beat).1 with
    | true =>
      rw [beaten] at looped
      simp only [if_true] at looped
      split at looped
      · exact Option.some.inj looped ▸ idle
      · refine serviceClients_idle ?_ looped
        exact idle
    | false =>
      rw [beaten] at looped
      simp only [Bool.false_eq_true, if_false] at looped
      split at looped
      · exact Option.some.inj looped ▸ idle
      · refine serviceClients_idle ?_ looped
        exact idle

end Operations

end Gateway

namespace Operation

open Gateway

variable {g after : Gateway} {deliveries : Nat → List BrokerMessage}

/-- What arrives while the calls of an operation wait might have arrived after it, where none of them is made inside a
    transaction. -/
theorem comes (operation : Operation) (idle : g.persistent.Idle)
    (apart : operation.Encloses g → ∀ k, deliveries k = []) :
    Option.Rel (Comes deliveries g) (operation.run pahoMqttMessageHandler g) (operation.run (reentrant deliveries) g) := by
  by_cases encloses : operation.Encloses g
  · have nothing : deliveries = fun _ => [] := funext (apart encloses)
    rw [nothing, reentrant_none]
    cases operation.run pahoMqttMessageHandler g with
    | none => exact .none
    | some after =>
      refine .some ?_
      unfold Comes
      rw [letIn_none fun _ => rfl]
      rfl
  · cases operation with
    | addClient clientId duration clean address => exact addClient_comes encloses
    | removeWill address => exact .some (comes_silent rfl)
    | addWillTopic address willTopic retain qos => exact .some (comes_silent (addWillPart_quiet idle).1)
    | addWillMsg address willMsg => exact .some (comes_silent (addWillPart_quiet idle).1)
    | awaitMessage address type => exact .some (comes_silent rfl)
    | setDisconnected address => exact .some (comes_silent rfl)
    | setAsleep address duration => exact .some (comes_silent (setAsleep_quiet idle).1)
    | setAwake address => exact .some (comes_silent rfl)
    | notifyRegackArrived address topicId msgId returnCode => exact .some (comes_silent notifyRegackArrived_quiet.1)
    | notifyPubackArrived address msgId topicId returnCode => exact .some (comes_silent notifyPubackArrived_quiet.1)
    | registerTopic address topicName newTopicId => exact .some (comes_silent (registerTopic_quiet idle).1)
    | publish address data topicId shortTopic retain qos => exact .some (publish_comes encloses)
    | publishFromBroker topicName data retain =>
      show Option.Rel _ (g.publishFromBroker topicName data retain) (g.publishFromBroker topicName data retain)
      cases published : g.publishFromBroker topicName data retain with
      | none => exact .none
      | some after => exact .some (comes_silent (calls_publishFromBroker published))
    | addSubscription address topicId shortTopic qos newTopicId => exact .some addSubscription_comes
    | deleteSubscription address topicId shortTopic => exact .some deleteSubscription_comes
    | deleteSubscriptionByName address topicName => exact .some deleteSubscriptionByName_comes
    | loop beat elapsed => exact loop_comes idle (eq_false_of_ne_true encloses)

/-- No operation leaves its transaction open. -/
theorem idle_run {operation : Operation} (idle : g.persistent.Idle) (ran : operation.run pahoMqttMessageHandler g = some after) :
    after.persistent.Idle := by
  cases operation with
  | addClient clientId duration clean address =>
    obtain ⟨⟨result, _⟩, added, rfl⟩ := Option.map_eq_some_iff.mp ran
    exact addClient_idle idle added
  | removeWill address => exact Option.some.inj ran ▸ idle_applyTransaction
  | addWillTopic address willTopic retain qos => exact Option.some.inj ran ▸ (addWillPart_quiet idle).2
  | addWillMsg address willMsg => exact Option.some.inj ran ▸ (addWillPart_quiet idle).2
  | awaitMessage address type => exact Option.some.inj ran ▸ idle_applyTransaction
  | setDisconnected address => exact Option.some.inj ran ▸ idle_applyTransaction
  | setAsleep address duration => exact Option.some.inj ran ▸ (setAsleep_quiet idle).2
  | setAwake address => exact Option.some.inj ran ▸ idle_applyTransaction
  | notifyRegackArrived address topicId msgId returnCode => exact Option.some.inj ran ▸ notifyRegackArrived_quiet.2
  | notifyPubackArrived address msgId topicId returnCode => exact Option.some.inj ran ▸ notifyPubackArrived_quiet.2
  | registerTopic address topicName newTopicId => exact Option.some.inj ran ▸ (registerTopic_quiet idle).2
  | publish address data topicId shortTopic retain qos => exact Option.some.inj ran ▸ publish_idle idle
  | publishFromBroker topicName data retain => exact (publishFromBroker_receives idle ran).settles.idle
  | addSubscription address topicId shortTopic qos newTopicId => exact Option.some.inj ran ▸ addSubscription_idle idle
  | deleteSubscription address topicId shortTopic => exact Option.some.inj ran ▸ deleteSubscriptionOf_idle
  | deleteSubscriptionByName address topicName => exact Option.some.inj ran ▸ deleteSubscriptionOf_idle
  | loop beat elapsed => exact loop_idle idle ran

end Operation

/-- What happens between the operations of the core: an answer is sent, or an event begins, which only a datagram, a message
    of the broker or a `loop` follow with operations. -/
inductive Move where
  | operate (operation : Operation) (deliveries : Nat → List BrokerMessage)
  | send (address : DeviceAddress) (message : SnMessage)
  | begin (input : Input)

namespace Move

open Gateway

variable {g after : Gateway}

def begins (g : Gateway) (input : Input) : Option Gateway :=
  match input.event with
  | .datagram .. | .brokerMessage .. | .loop .. => some (g.prepare input)
  | _ => Gateway.step g input

def run (g : Gateway) : Move → Option Gateway
  | .operate operation deliveries => operation.run (reentrant deliveries) g
  | .send address message => some (g.send address message)
  | .begin input => begins g input

/-- No message is delivered to a call that is made inside a transaction. -/
def Apart (g : Gateway) : Move → Prop
  | .operate operation deliveries => operation.Encloses g → ∀ k, deliveries k = []
  | _ => True

/-- The outcome of an operation with deliveries beside the one without: the registry, the subscription tables and the global
    counts are the same, and the queues are those that the messages find which arrive afterwards. -/
structure Unharmed (deliveries : Nat → List BrokerMessage) (g after other : Gateway) : Prop where
  clients : other.store.clients = after.store.clients
  mqttSub : other.store.mqttSub = after.store.mqttSub
  subscriptions : ∀ number, (other.store.files number).sub = (after.store.files number).sub
  queued : other.store = ((letIn deliveries g after).foldl deliver after).store

/-- Deliveries harm no operation that is started in `g`; it returns with them if it does without. -/
def Harmless (g : Gateway) (operation : Operation) (deliveries : Nat → List BrokerMessage) : Prop :=
  Option.Rel (Unharmed deliveries g) (operation.run pahoMqttMessageHandler g) (operation.run (reentrant deliveries) g)

theorem idle_of_comes {deliveries : Nat → List BrokerMessage} {other : Gateway} (idle : after.persistent.Idle)
    (comes : Comes deliveries g after other) : other.persistent.Idle := by
  unfold Comes at comes
  rw [comes]
  exact (foldl_deliver_receives _ idle).settles.idle

theorem unharmed_of_comes {deliveries : Nat → List BrokerMessage} {other : Gateway} (idle : after.persistent.Idle)
    (comes : Comes deliveries g after other) : Unharmed deliveries g after other := by
  have receives := foldl_deliver_receives (letIn deliveries g after) idle
  have store : other.store = ((letIn deliveries g after).foldl deliver after).store := congrArg Persistent.store comes
  refine ⟨?_, ?_, fun number => ?_, store⟩
  · rw [store]
    exact receives.clients
  · rw [store]
    exact receives.mqttSub
  · rw [store]
    exact (receives.tables number).2

theorem idle_run {move : Move} (idle : g.persistent.Idle) (apart : move.Apart g) (ran : move.run g = some after) :
    after.persistent.Idle := by
  cases move with
  | operate operation deliveries =>
    have silent : operation.Encloses g → ∀ k, deliveries k = [] := apart
    have comes := operation.comes idle silent
    have ran : operation.run (reentrant deliveries) g = some after := ran
    rw [ran] at comes
    cases plain : operation.run pahoMqttMessageHandler g with
    | none =>
      rw [plain] at comes
      cases comes
    | some between =>
      rw [plain] at comes
      cases comes with
      | some comes => exact idle_of_comes (Operation.idle_run idle plain) comes
  | send address message =>
    have ran : some (g.send address message) = some after := ran
    exact Option.some.inj ran ▸ send_idle idle
  | begin input =>
    have begun : begins g input = some after := ran
    unfold begins at begun
    split at begun
    · exact Option.some.inj begun ▸ idle
    · exact Option.some.inj begun ▸ idle
    · exact Option.some.inj begun ▸ idle
    · rename_i undelivered unpublished unlooped
      cases step_stepped begun with
      | restart _ => exact ⟨rfl, rfl, rfl⟩
      | datagram event _ _ => exact absurd event (undelivered _ _ _)
      | brokerMessage event _ _ => exact absurd event (unpublished _ _ _)
      | loop event _ => exact absurd event (unlooped _ _)
      | mqttConnect _ _ => exact ⟨idle.closed, idle.clean, idle.known⟩
      | mqttConnectionLost _ => exact idle
      | socketLost _ => exact idle
      | @socketBegin opened _ _ => cases opened <;> exact ⟨idle.closed, idle.clean, idle.known⟩

/-- In every run in which no message is delivered to a call inside a transaction, every operation is unharmed by what arrives
    while its calls wait. -/
theorem deliveries_harmless {operation : Operation} {deliveries : Nat → List BrokerMessage}
    (reached : Runs.Run run (fun g move => move.Apart g) Gateway.initial g)
    (apart : operation.Encloses g → ∀ k, deliveries k = []) : Harmless g operation deliveries := by
  have idle : g.persistent.Idle := by
    clear apart
    induction reached with
    | start initial =>
      obtain ⟨config, rfl⟩ := initial
      exact ⟨rfl, rfl, rfl⟩
    | next _ meets ran ih => exact idle_run ih meets ran
  have comes := operation.comes idle apart
  unfold Harmless
  cases plain : operation.run pahoMqttMessageHandler g with
  | none =>
    rw [plain] at comes
    generalize operation.run (reentrant deliveries) g = outcome at comes ⊢
    cases comes
    exact .none
  | some after =>
    rw [plain] at comes
    generalize operation.run (reentrant deliveries) g = outcome at comes ⊢
    cases comes with
    | some comes => exact .some (unharmed_of_comes (Operation.idle_run idle plain) comes)

section Handlers

variable {deliveries : Nat → List BrokerMessage} {between : Gateway} {address : DeviceAddress}

/-- The moves of a step, with the deliveries of the step. -/
def Moved (deliveries : Nat → List BrokerMessage) (g : Gateway) : Gateway → Prop :=
  Runs.Run run (fun _ move => ∀ operation other, move = .operate operation other → other = deliveries) fun start => start = g

theorem Moved.operate (moved : Moved deliveries g between) (operation : Operation)
    (ran : operation.run (reentrant deliveries) between = some after) : Moved deliveries g after :=
  Runs.Run.next moved (by rintro _ _ ⟨⟩; rfl) (show run between (.operate operation deliveries) = some after from ran)

theorem Moved.send {message : SnMessage} (moved : Moved deliveries g between) :
    Moved deliveries g (between.send address message) :=
  Runs.Run.next moved (by rintro _ _ ⟨⟩) (show run between (.send address message) = some _ from rfl)

theorem moved_handleConnect {clientId : CString} {duration : UInt16} {will clean : Bool} (moved : Moved deliveries g between)
    (handled : handleConnect (reentrant deliveries) between address clientId duration will clean = some after) :
    Moved deliveries g after := by
  obtain ⟨⟨result, added⟩, adds, rfl⟩ := Option.map_eq_some_iff.mp handled
  have first : Moved deliveries g added := by
    refine moved.operate (.addClient clientId duration clean address) ?_
    show Option.map Prod.snd _ = _
    rw [adds]
    rfl
  cases result with
  | success =>
    have second : Moved deliveries g (added.awaitMessage address .willtopic).2 :=
      first.operate (.awaitMessage address .willtopic) rfl
    cases will with
    | false => exact first.send
    | true =>
      simp only [if_true]
      generalize added.awaitMessage address .willtopic = answer at second ⊢
      rcases answer with ⟨_ | _, awaiting⟩ <;> exact second.send
  | _ => exact first.send

theorem moved_handleWilltopic {willTopic : CString} {retain : Bool} {qos : UInt8} (moved : Moved deliveries g between) :
    Moved deliveries g (between.handleWilltopic address willTopic retain qos) := by
  unfold handleWilltopic
  split
  · exact moved.operate (.removeWill address) rfl
  · have first : Moved deliveries g (between.addWillTopic address willTopic retain qos).2 :=
      moved.operate (.addWillTopic address willTopic retain qos) rfl
    generalize between.addWillTopic address willTopic retain qos = answer at first ⊢
    rcases answer with ⟨result, added⟩
    cases result with
    | success =>
      have second : Moved deliveries g (added.awaitMessage address .willmsg).2 :=
        first.operate (.awaitMessage address .willmsg) rfl
      simp only
      generalize added.awaitMessage address .willmsg = answer at second ⊢
      rcases answer with ⟨_ | _, awaiting⟩ <;> exact second.send
    | _ => exact first.send

theorem moved_handleWillmsg {willMsg : List UInt8} (moved : Moved deliveries g between) :
    Moved deliveries g (between.handleWillmsg address willMsg) := by
  have first : Moved deliveries g (between.addWillMsg address willMsg).2 :=
    moved.operate (.addWillMsg address willMsg) rfl
  unfold handleWillmsg
  generalize between.addWillMsg address willMsg = answer at first ⊢
  rcases answer with ⟨_ | _, added⟩ <;> exact first.send

theorem moved_handlePingreqWithId {clientId : CString} (moved : Moved deliveries g between) :
    Moved deliveries g (between.handlePingreqWithId address clientId) := by
  have first : Moved deliveries g (between.setAwake address).2 := moved.operate (.setAwake address) rfl
  unfold handlePingreqWithId
  generalize between.setAwake address = answer at first ⊢
  rcases answer with ⟨result, awake⟩
  cases result with
  | success => exact first
  | _ => exact first.send

theorem moved_handleDisconnect (moved : Moved deliveries g between) :
    Moved deliveries g (between.handleDisconnect address) := by
  have first : Moved deliveries g (between.setDisconnected address).2 := moved.operate (.setDisconnected address) rfl
  unfold handleDisconnect
  generalize between.setDisconnected address = answer at first ⊢
  rcases answer with ⟨result, disconnected⟩
  cases result with
  | success => exact first.send
  | _ => exact first

theorem moved_handleDisconnectWithDuration {duration : UInt16} (moved : Moved deliveries g between) :
    Moved deliveries g (between.handleDisconnectWithDuration address duration) := by
  have first : Moved deliveries g (between.setAsleep address duration).2 := moved.operate (.setAsleep address duration) rfl
  unfold handleDisconnectWithDuration
  generalize between.setAsleep address duration = answer at first ⊢
  rcases answer with ⟨_ | _, asleep⟩ <;> exact first.send

theorem moved_handleRegister {msgId : UInt16} {topicName : CString} (moved : Moved deliveries g between) :
    Moved deliveries g (between.handleRegister address msgId topicName) := by
  have first : Moved deliveries g (between.registerTopic address topicName 0).2.2 :=
    moved.operate (.registerTopic address topicName 0) rfl
  unfold handleRegister
  generalize between.registerTopic address topicName 0 = answer at first ⊢
  rcases answer with ⟨result, topicId, registered⟩
  cases result with
  | _ => exact first.send

theorem moved_handleRegack {topicId msgId : UInt16} {returnCode : UInt8} (moved : Moved deliveries g between) :
    Moved deliveries g (between.handleRegack address topicId msgId returnCode) := by
  have first : Moved deliveries g (between.notifyRegackArrived address topicId msgId returnCode).2 :=
    moved.operate (.notifyRegackArrived address topicId msgId returnCode) rfl
  unfold handleRegack
  generalize between.notifyRegackArrived address topicId msgId returnCode = answer at first ⊢
  rcases answer with ⟨result, acknowledged⟩
  cases result with
  | success => exact first
  | _ => exact first.send

theorem moved_handlePuback {msgId topicId : UInt16} {returnCode : UInt8} (moved : Moved deliveries g between) :
    Moved deliveries g (between.handlePuback address msgId topicId returnCode) := by
  have first : Moved deliveries g (between.notifyPubackArrived address msgId topicId returnCode).2 :=
    moved.operate (.notifyPubackArrived address msgId topicId returnCode) rfl
  unfold handlePuback
  generalize between.notifyPubackArrived address msgId topicId returnCode = answer at first ⊢
  rcases answer with ⟨result, acknowledged⟩
  cases result with
  | success => exact first
  | _ => exact first.send

theorem moved_handleSubscribe {topicId msgId newTopicId : UInt16} {shortTopic : Bool} {qos : UInt8}
    (moved : Moved deliveries g between) :
    Moved deliveries g (answerSubscribe address msgId
      (addSubscription (reentrant deliveries) between address topicId shortTopic qos newTopicId)) := by
  have first : Moved deliveries g
      (addSubscription (reentrant deliveries) between address topicId shortTopic qos newTopicId).2.2.2 :=
    moved.operate (.addSubscription address topicId shortTopic qos newTopicId) rfl
  generalize addSubscription (reentrant deliveries) between address topicId shortTopic qos newTopicId = answer at first ⊢
  rcases answer with ⟨result, id, granted, subscribed⟩
  cases result with
  | _ => exact first.send

theorem moved_handleSubscribeByName {topicName : CString} {msgId : UInt16} {qos : UInt8}
    (moved : Moved deliveries g between) :
    Moved deliveries g (handleSubscribeByName (reentrant deliveries) between address topicName msgId qos) := by
  have first : Moved deliveries g (between.registerTopic address topicName 0).2.2 :=
    moved.operate (.registerTopic address topicName 0) rfl
  unfold handleSubscribeByName
  generalize between.registerTopic address topicName 0 = answer at first ⊢
  rcases answer with ⟨result, topicId, registered⟩
  cases result with
  | success => exact moved_handleSubscribe first
  | _ => exact first.send

theorem moved_answerUnsubscribe {msgId : UInt16} {result : CoreResult} (moved : Moved deliveries g between) :
    Moved deliveries g (answerUnsubscribe address msgId (result, between)) := by
  cases result with
  | _ => exact moved.send

theorem moved_handlePublish {data : List UInt8} {msgId topicId : UInt16} {shortTopic retain : Bool} {qos : Int}
    (moved : Moved deliveries g between) :
    Moved deliveries g (handlePublish (reentrant deliveries) between address data msgId topicId shortTopic retain qos) := by
  have first : Moved deliveries g (publish (reentrant deliveries) between address data topicId shortTopic retain qos).2 :=
    moved.operate (.publish address data topicId shortTopic retain qos) rfl
  unfold handlePublish
  generalize publish (reentrant deliveries) between address data topicId shortTopic retain qos = answer at first ⊢
  rcases answer with ⟨result, published⟩
  have second : Moved deliveries g (published.awaitMessage address .pubrel).2 :=
    first.operate (.awaitMessage address .pubrel) rfl
  simp only
  split
  · exact first
  · split
    · split <;> exact first.send
    · split
      · split
        · exact first.send
        · exact first
      · split
        · split <;> exact first.send
        · generalize published.awaitMessage address .pubrel = answer at second ⊢
          rcases answer with ⟨_ | _, awaiting⟩ <;> exact second.send

/-- Every request is a sequence of operations and answers. -/
theorem moved_handle {request : Request} (moved : Moved deliveries g between)
    (handled : handle (reentrant deliveries) between address request = some after) : Moved deliveries g after := by
  cases request with
  | connect clientId duration will clean => exact moved_handleConnect moved handled
  | willtopic willTopic retain qos => exact Option.some.inj handled ▸ moved_handleWilltopic moved
  | willmsg willMsg => exact Option.some.inj handled ▸ moved_handleWillmsg moved
  | register msgId topicName => exact Option.some.inj handled ▸ moved_handleRegister moved
  | regack topicId msgId returnCode => exact Option.some.inj handled ▸ moved_handleRegack moved
  | publish data msgId topicId shortTopic retain qos twice =>
    cases twice with
    | true => exact Option.some.inj handled ▸ moved_handlePublish (moved_handlePublish moved)
    | false => exact Option.some.inj handled ▸ moved_handlePublish moved
  | puback topicId msgId returnCode => exact Option.some.inj handled ▸ moved_handlePuback moved
  | pubrel => exact Option.some.inj handled ▸ moved
  | subscribe topicId msgId shortTopic qos => exact Option.some.inj handled ▸ moved_handleSubscribe moved
  | subscribeByName topicName msgId qos => exact Option.some.inj handled ▸ moved_handleSubscribeByName moved
  | unsubscribe topicId msgId shortTopic =>
    exact Option.some.inj handled ▸ moved_answerUnsubscribe (moved.operate (.deleteSubscription address topicId shortTopic) rfl)
  | unsubscribeByName topicName msgId =>
    exact Option.some.inj handled ▸ moved_answerUnsubscribe (moved.operate (.deleteSubscriptionByName address topicName) rfl)
  | pingreq => exact Option.some.inj handled ▸ moved.send
  | pingreqWithId clientId => exact Option.some.inj handled ▸ moved_handlePingreqWithId moved
  | disconnect => exact Option.some.inj handled ▸ moved_handleDisconnect moved
  | disconnectWithDuration duration => exact Option.some.inj handled ▸ moved_handleDisconnectWithDuration moved
  | ignored => exact Option.some.inj handled ▸ moved

/-- A step of the gateway with deliveries is a sequence of moves. -/
theorem moved_stepWith {input : Input} (stepped : stepWith (reentrant deliveries) g input = some after) :
    Moved deliveries g after := by
  have began : ∀ {h : Gateway}, begins g input = some h → Moved deliveries g h := by
    intro h begun
    exact Runs.Run.next (.start rfl) (by rintro _ _ ⟨⟩) (show run g (.begin input) = some h from begun)
  have other : ∀ {h : Gateway}, (∀ mqtt, stepWith mqtt g input = some h) → begins g input = Gateway.step g input →
      Moved deliveries g h := by
    intro h taken same
    exact began (same.trans (taken pahoMqttMessageHandler))
  cases event : input.event with
  | datagram sender bytes beyond =>
    have first : Moved deliveries g (g.prepare input) := began (by unfold begins; rw [event])
    unfold stepWith at stepped
    rw [event] at stepped
    simp only at stepped
    split at stepped
    · cases stepped
    · split at stepped
      · rw [receiveData_eq] at stepped
        exact moved_handle first stepped
      · cases stepped
  | brokerMessage topicName payload retain =>
    have first : Moved deliveries g (g.prepare input) := began (by unfold begins; rw [event])
    unfold stepWith at stepped
    rw [event] at stepped
    simp only at stepped
    split at stepped
    · cases stepped
    · split at stepped
      · exact first.operate (.publishFromBroker topicName payload retain) stepped
      · cases stepped
  | loop beat elapsed =>
    have first : Moved deliveries g (g.prepare input) := began (by unfold begins; rw [event])
    unfold stepWith at stepped
    rw [event] at stepped
    simp only at stepped
    split at stepped
    · cases stepped
    · exact first.operate (.loop beat elapsed) stepped
  | _ =>
    refine other (fun mqtt => ?_) (by unfold begins; rw [event])
    rw [← stepped]
    unfold stepWith
    rw [event]

end Handlers

/-- Whatever state the gateway reaches, the moves without deliveries reach it. -/
theorem reached_of_reachable (reachable : Gateway.Reachable g) : Runs.Run run (fun g move => move.Apart g) Gateway.initial g := by
  induction reachable with
  | start initial => exact .start initial
  | @next g after input _ _ taken ih =>
    have moved : Moved (fun _ => []) g after := moved_stepWith taken
    refine ih.append (moved.weaken ?_)
    rintro g (⟨operation, deliveries⟩ | _ | _) same
    · rw [same operation deliveries rfl]
      exact fun _ _ => rfl
    · trivial
    · trivial

end Move

namespace Scenario

/-- A message arrives while the client's own PUBLISH waits, and is queued for it. -/
theorem deliveries_harmless_publish :
    Move.Harmless oneSubscriber (.publish (client 1).getDeviceAddress [9] 1 true false 0) (fun _ => [⟨name 116, [7], false⟩]) ∧
      ((Operation.publish (client 1).getDeviceAddress [9] 1 true false 0).run
        (Gateway.reentrant fun _ => [⟨name 116, [7], false⟩]) oneSubscriber).map
          (fun after => (after.store.files (fileNumber 0)).pub.length) = some 1 := by
  refine ⟨Move.deliveries_harmless (Move.reached_of_reachable reachable_oneSubscriber) ?_, by decide +kernel⟩
  rintro ⟨_, least, _⟩
  exact absurd least (by decide)

/-- The client connects anew, and a message arrives while its topic is unsubscribed: the transaction is gone, and with it
    the CONNECT. -/
theorem delivery_breaks_connect :
    ¬ ∀ (g : Gateway) (operation : Operation) (deliveries : Nat → List BrokerMessage), g.Reachable →
      Move.Harmless g operation deliveries := by
  intro claim
  have harmless := claim oneSubscriber (.addClient (name 65) 20 true (client 1).getDeviceAddress)
    (fun _ => [⟨name 116, [7], false⟩]) reachable_oneSubscriber
  have plain : ((Operation.addClient (name 65) 20 true (client 1).getDeviceAddress).run pahoMqttMessageHandler
      oneSubscriber).map (fun after => (after.store.nthClient 0).duration) = some 20000 := by decide +kernel
  have delivered : ((Operation.addClient (name 65) 20 true (client 1).getDeviceAddress).run
      (Gateway.reentrant fun _ => [⟨name 116, [7], false⟩]) oneSubscriber).map
        (fun after => (after.store.nthClient 0).duration) = some 10000 := by decide +kernel
  unfold Move.Harmless at harmless
  generalize (Operation.addClient (name 65) 20 true (client 1).getDeviceAddress).run pahoMqttMessageHandler
    oneSubscriber = left at harmless plain
  generalize (Operation.addClient (name 65) 20 true (client 1).getDeviceAddress).run
    (Gateway.reentrant fun _ => [⟨name 116, [7], false⟩]) oneSubscriber = right at harmless delivered
  cases harmless with
  | none => cases plain
  | some unharmed =>
    rw [Option.map_some, Option.some.injEq] at plain delivered
    rw [Store.nthClient_congr unharmed.clients, plain] at delivered
    exact absurd delivered (by decide)

end Scenario

end MqttSnGateway
