import MqttSnGateway.Core.LoopSpecs
import MqttSnGateway.Core.Reentrant
import MqttSnGateway.Requests

namespace MqttSnGateway

namespace Persistent

variable {p : Persistent} {address : DeviceAddress} {clientId topicName : CString} {name : Option CString}

/-- Which of the two networks the store takes to be up. -/
def networks (p : Persistent) : Bool × Bool := (p.isMqttsnOnline, p.isMqttOnline)

@[simp] theorem networks_modifyFiles {f : ClientFiles → ClientFiles} : (p.modifyFiles f).networks = p.networks := rfl

@[simp] theorem networks_startClientTransaction : (p.startClientTransaction address).networks = p.networks := by
  unfold startClientTransaction
  split
  · rfl
  · split <;> rfl

@[simp] theorem networks_startClientTransactionById : (p.startClientTransactionById clientId).networks = p.networks := by
  unfold startClientTransactionById
  split
  · rfl
  · split
    · rfl
    · split <;> rfl

@[simp] theorem networks_applyTransaction : p.applyTransaction.2.networks = p.networks := rfl

@[simp] theorem networks_updateEntry {f : EntryClient → EntryClient} : (p.updateEntry f).networks = p.networks := by
  unfold updateEntry
  split <;> rfl

@[simp] theorem networks_setClientState {status : ClientStatus} : (p.setClientState status).networks = p.networks :=
  networks_updateEntry

@[simp] theorem networks_setTimeout {timeout : UInt32} : (p.setTimeout timeout).networks = p.networks :=
  networks_updateEntry

@[simp] theorem networks_setClientAwaitMessage {type : MessageType} :
    (p.setClientAwaitMessage type).networks = p.networks := networks_updateEntry

@[simp] theorem networks_setClientAwaitMsgId {msgId : UInt16} : (p.setClientAwaitMsgId msgId).networks = p.networks :=
  networks_updateEntry

@[simp] theorem networks_setClientDuration {duration : UInt32} : (p.setClientDuration duration).networks = p.networks := rfl

@[simp] theorem networks_setTopicKnown {topicId : UInt16} {known : Bool} :
    (p.setTopicKnown topicId known).networks = p.networks := rfl

@[simp] theorem networks_resetClient {duration : UInt32} : (p.resetClient clientId address duration).networks = p.networks := by
  unfold resetClient
  (repeat' split) <;> rfl

@[simp] theorem networks_addClient {duration : UInt32} : (p.addClient clientId address duration).networks = p.networks := by
  unfold addClient
  (repeat' split) <;> rfl

@[simp] theorem networks_deleteClient : (p.deleteClient clientId).networks = p.networks := by
  unfold deleteClient
  simp only
  (repeat' split) <;> rfl

@[simp] theorem networks_addSubscription {topicId : UInt16} {qos : UInt8} :
    (p.addSubscription topicName topicId qos).networks = p.networks := by
  unfold addSubscription
  (repeat' split) <;> rfl

@[simp] theorem networks_deleteSubscription {topicId : UInt16} : (p.deleteSubscription topicId).networks = p.networks := by
  unfold deleteSubscription
  (repeat' split) <;> rfl

@[simp] theorem networks_addClientRegistration {topicId : UInt16} :
    (p.addClientRegistration topicName topicId).2.networks = p.networks := by
  unfold addClientRegistration
  (repeat' split) <;> rfl

@[simp] theorem networks_isTopicKnown {topicId : UInt16} : (p.isTopicKnown topicId).2.networks = p.networks := by
  unfold isTopicKnown
  (repeat' split) <;> rfl

@[simp] theorem networks_incrementGlobalSubscriptionCount :
    (p.incrementGlobalSubscriptionCount name).networks = p.networks := by
  unfold incrementGlobalSubscriptionCount
  (repeat' split) <;> rfl

@[simp] theorem networks_decrementGlobalSubscriptionCount :
    (p.decrementGlobalSubscriptionCount name).networks = p.networks := by
  unfold decrementGlobalSubscriptionCount
  (repeat' split) <;> rfl

@[simp] theorem networks_setClientWilltopic {qos : UInt8} {retain : Bool} :
    (p.setClientWilltopic topicName qos retain).networks = p.networks := by
  unfold setClientWilltopic
  (repeat' split) <;> rfl

@[simp] theorem networks_setClientWillmessage {willmsg : List UInt8} :
    (p.setClientWillmessage willmsg).networks = p.networks := by
  unfold setClientWillmessage
  split <;> rfl

@[simp] theorem networks_deleteWill : p.deleteWill.networks = p.networks := by
  unfold deleteWill
  split <;> rfl

@[simp] theorem networks_addClientPublish {data : List UInt8} {topicId : UInt16} {retain : Bool} {qos : UInt8} :
    (p.addClientPublish data topicId retain qos).networks = p.networks := by
  unfold addClientPublish
  split <;> rfl

@[simp] theorem networks_rewritePublish {publishId : UInt16} {f : EntryPublish → EntryPublish} :
    (p.rewritePublish publishId f).networks = p.networks := by
  unfold rewritePublish
  (repeat' split) <;> rfl

@[simp] theorem networks_setPublishMsgId {publishId msgId : UInt16} :
    (p.setPublishMsgId publishId msgId).networks = p.networks := networks_rewritePublish

@[simp] theorem networks_removePublishByPublishId {publishId : UInt16} :
    (p.removePublishByPublishId publishId).networks = p.networks := networks_rewritePublish

@[simp] theorem networks_removePublishByMsgId {msgId : UInt16} : (p.removePublishByMsgId msgId).networks = p.networks := by
  unfold removePublishByMsgId
  split
  · simp only
    split <;> split <;> rfl
  · rfl

end Persistent

namespace Gateway

variable {g after : Gateway} {address : DeviceAddress} {topic : CString} {qos : UInt8}
  {deliveries : Nat → List BrokerMessage}

/-- What only the events of the components change: the networks, the socket, and whether the process runs. Without a socket
    it does not matter whether the sensor network is taken to be up. -/
def links (g : Gateway) : Bool × Bool × Bool × Bool :=
  (g.persistent.isMqttsnOnline || !g.socketOpen, g.persistent.isMqttOnline, g.socketOpen, g.halted)

section Core

@[simp] theorem links_update {f : Persistent → Persistent} (same : (f g.persistent).networks = g.persistent.networks) :
    (g.update f).links = g.links := by
  have first := congrArg Prod.fst same
  have second := congrArg Prod.snd same
  simp only [Persistent.networks] at first second
  simp only [links, update, first, second]

@[simp] theorem links_send {message : SnMessage} : (g.send address message).links = g.links := by
  unfold send
  split
  · rfl
  · rename_i closed
    simp [links, notifyMqttsnDisconnected, update, closed]

@[simp] theorem links_takeUnspecified : g.takeUnspecified.2.links = g.links := rfl

@[simp] theorem links_request : g.request.2.links = g.links := rfl

@[simp] theorem links_call {c : MqttCall} : (g.call c).links = g.links := rfl

@[simp] theorem links_startClientTransaction : (g.startClientTransaction address).links = g.links :=
  links_update (by simp)

@[simp] theorem links_applyTransaction : g.applyTransaction.2.links = g.links := links_update (by simp)

@[simp] theorem links_transaction {change : Persistent → Persistent} {toResult : UInt8 → CoreResult}
    (same : ∀ p, (change p).networks = p.networks) : (g.transaction address change toResult).2.links = g.links := by
  unfold transaction
  simp [same]

theorem links_traverseFromFirst {last : DeviceAddress} {stops : DeviceAddress → Bool}
    {body : Nat → EntryClient → Gateway → Option Gateway} {outcome : Option (Nat × EntryClient)}
    (visits : ∀ n g g', body n (g.store.nthClient n) g = some g' → g'.links = g.links)
    (traversed : traverseFromFirst body stops last g = some (outcome, after)) : after.links = g.links := by
  have visit : ∀ n g' g'', g'.links = g.links → body n (g'.store.nthClient n) g' = some g'' → g''.links = g.links :=
    fun n g' g'' kept visited => (visits n g' g'' visited).trans kept
  obtain ⟨_, kept, _⟩ := traverseFromFirst_rule visit rfl traversed
  exact kept

@[simp] theorem links_handleReceiveMqttPublishForClient {data : List UInt8} {retain : Bool} :
    (g.handleReceiveMqttPublishForClient topic data retain address).links = g.links := by
  unfold handleReceiveMqttPublishForClient
  simp only
  split <;> simp

theorem links_publishFromBroker {data : List UInt8} {retain : Bool}
    (published : g.publishFromBroker topic data retain = some after) : after.links = g.links := by
  unfold publishFromBroker at published
  split at published
  · cases published
    rfl
  · simp only at published
    split at published
    · cases published
      rfl
    · obtain ⟨⟨outcome, between⟩, traversed, rfl⟩ := Option.map_eq_some_iff.mp published
      refine links_traverseFromFirst ?_ traversed
      intro _ _ _ visited
      cases visited
      simp

@[simp] theorem links_publishPaho {payload : List UInt8} {retained : Bool} :
    (pahoMqttMessageHandler.publish g topic payload qos retained).2.links = g.links := by
  simp only [pahoMqttMessageHandler]
  split <;> rfl

@[simp] theorem links_subscribePaho : (pahoMqttMessageHandler.subscribe g topic qos).2.links = g.links := by
  have asked : (g.call (.subscribe topic qos)).request.2.links = g.links := rfl
  simp only [pahoMqttMessageHandler]
  split
  · rfl
  · split <;> rename_i answer <;> rw [answer] at asked <;> exact asked

@[simp] theorem links_unsubscribePaho {name : Option CString} :
    (pahoMqttMessageHandler.unsubscribe g name).2.links = g.links := by
  have asked : (g.call (.unsubscribe name)).request.2.links = g.links := rfl
  simp only [pahoMqttMessageHandler]
  split
  · rfl
  · split
    · rfl
    · split <;> rename_i answer <;> rw [answer] at asked <;> exact asked

@[simp] theorem links_deliver {message : BrokerMessage} : (g.deliver message).links = g.links := by
  unfold deliver
  cases published : g.publishFromBroker message.topicName message.payload message.retain with
  | none => rfl
  | some _ => exact links_publishFromBroker published

theorem links_deliveries {messages : List BrokerMessage} : (messages.foldl deliver g).links = g.links := by
  induction messages generalizing g with
  | nil => rfl
  | cons message messages ih => exact ih.trans links_deliver

@[simp] theorem links_publishReentrant {payload : List UInt8} {retained : Bool} :
    ((reentrant deliveries).publish g topic payload qos retained).2.links = g.links :=
  links_deliveries.trans links_publishPaho

@[simp] theorem links_subscribeReentrant : ((reentrant deliveries).subscribe g topic qos).2.links = g.links :=
  links_deliveries.trans links_subscribePaho

@[simp] theorem links_unsubscribeReentrant {name : Option CString} :
    ((reentrant deliveries).unsubscribe g name).2.links = g.links := links_deliveries.trans links_unsubscribePaho

theorem links_removeClientSubscriptionsLoop {fuel : Nat}
    (removed : removeClientSubscriptionsLoop (reentrant deliveries) fuel g = some after) : after.links = g.links := by
  induction fuel generalizing g with
  | zero =>
    unfold removeClientSubscriptionsLoop at removed
    simp only at removed
    split at removed
    · cases removed
      rfl
    · cases removed
  | succ fuel ih =>
    unfold removeClientSubscriptionsLoop at removed
    simp only at removed
    split at removed
    · cases removed
      rfl
    · have rest := ih removed
      rw [rest]
      split <;> simp

theorem links_removeClientSubscriptions (removed : removeClientSubscriptions (reentrant deliveries) g = some after) :
    after.links = g.links := links_removeClientSubscriptionsLoop removed

theorem links_addClient {clientId : CString} {duration : UInt16} {clean : Bool} {result : CoreResult}
    (added : addClient (reentrant deliveries) g clientId duration clean address = some (result, after)) :
    after.links = g.links := by
  unfold addClient at added
  split at added
  · cases added
    rfl
  · simp only at added
    obtain ⟨between, prepared, applied⟩ := Option.map_eq_some_iff.mp added
    have same : between.links = g.links := by
      split at prepared
      · split at prepared
        · cases prepared
          simp
        · obtain ⟨removed, cleared, rfl⟩ := Option.map_eq_some_iff.mp prepared
          have first := links_removeClientSubscriptions cleared
          simp [first]
      · cases prepared
        simp
    cases applied
    simp [same]

@[simp] theorem links_removeWill : (g.removeWill address).2.links = g.links := links_transaction fun _ => by simp

@[simp] theorem links_addWillPart {awaited : MessageType} {change : Persistent → Persistent}
    (same : ∀ p, (change p).networks = p.networks) : (g.addWillPart address awaited change).2.links = g.links := by
  unfold addWillPart
  split
  · rfl
  · simp only
    split <;> simp [same]

@[simp] theorem links_addWillTopic {retain : Bool} : (g.addWillTopic address topic retain qos).2.links = g.links :=
  links_addWillPart fun _ => by simp

@[simp] theorem links_addWillMsg {willMsg : List UInt8} : (g.addWillMsg address willMsg).2.links = g.links :=
  links_addWillPart fun _ => by simp

@[simp] theorem links_awaitMessage {type : MessageType} : (g.awaitMessage address type).2.links = g.links :=
  links_transaction fun _ => by simp

@[simp] theorem links_setDisconnected : (g.setDisconnected address).2.links = g.links := links_transaction fun _ => by simp

@[simp] theorem links_setAsleep {duration : UInt16} : (g.setAsleep address duration).2.links = g.links := by
  unfold setAsleep
  split
  · rfl
  · exact links_transaction fun _ => by simp

@[simp] theorem links_setAwake : (g.setAwake address).2.links = g.links := links_transaction fun _ => by simp

@[simp] theorem links_notifyRegackArrived {topicId msgId : UInt16} {returnCode : UInt8} :
    (g.notifyRegackArrived address topicId msgId returnCode).2.links = g.links := by
  have noted : ∀ known, ((g.startClientTransaction address).update fun p => p.setTopicKnown topicId known).links = g.links :=
    fun _ => links_startClientTransaction
  unfold notifyRegackArrived
  simp only
  (repeat' split) <;> simp [noted]

@[simp] theorem links_notifyPubackArrived {msgId topicId : UInt16} {returnCode : UInt8} :
    (g.notifyPubackArrived address msgId topicId returnCode).2.links = g.links := by
  unfold notifyPubackArrived
  split <;> simp

@[simp] theorem links_registerTopic {newTopicId : UInt16} :
    (g.registerTopic address topic newTopicId).2.2.links = g.links := by
  unfold registerTopic
  split
  · rfl
  · simp only
    (repeat' split) <;> simp

@[simp] theorem links_publish {data : List UInt8} {topicId : UInt16} {shortTopic retain : Bool} {level : Int} :
    (publish (reentrant deliveries) g address data topicId shortTopic retain level).2.links = g.links := by
  unfold publish
  split
  · rfl
  · simp only
    (repeat' split) <;> simp

@[simp] theorem links_subscriptionTopic {topicId newTopicId : UInt16} {shortTopic : Bool} :
    (g.subscriptionTopic topicId shortTopic newTopicId).2.2.links = g.links := by
  unfold subscriptionTopic
  split
  · split <;> rfl
  · split
    · exact links_update Persistent.networks_addClientRegistration
    · rfl

@[simp] theorem links_subscribeTo {topicId : UInt16} : (subscribeTo (reentrant deliveries) g topic topicId qos).2.links =
    g.links := by
  unfold subscribeTo
  simp only
  generalize prepared : (if g.persistent.isSubscribed (some topic) = true then g else g.update fun p =>
    (p.addSubscription topic topicId qos).incrementGlobalSubscriptionCount (some topic)) = between
  have same : between.links = g.links := by
    rw [← prepared]
    split <;> simp
  have asked : ((reentrant deliveries).subscribe between.applyTransaction.2 topic 1).2.links = g.links := by simp [same]
  (repeat' split) <;> simp_all

theorem links_addSubscription {topicId newTopicId : UInt16} {shortTopic : Bool} :
    (addSubscription (reentrant deliveries) g address topicId shortTopic qos newTopicId).2.2.2.links = g.links := by
  unfold addSubscription
  split
  · rfl
  · simp only
    split
    · simp
    · have told : ((g.startClientTransaction address).subscriptionTopic topicId shortTopic newTopicId).2.2.links =
          g.links := by simp
      split <;> rename_i same <;> rw [same] at told <;> simpa using told

@[simp] theorem links_deleteSubscriptionOf {topicId : UInt16} {name : Option CString} :
    (deleteSubscriptionOf (reentrant deliveries) g topicId name).2.links = g.links := by
  unfold deleteSubscriptionOf
  simp only
  generalize prepared : (if g.persistent.isSubscribed name = true then g else g.update fun p =>
    (p.deleteSubscription topicId).decrementGlobalSubscriptionCount name) = between
  have same : between.links = g.links := by
    rw [← prepared]
    split <;> simp
  (repeat' split) <;> simp [same]

@[simp] theorem links_deleteSubscription {topicId : UInt16} {shortTopic : Bool} :
    (deleteSubscription (reentrant deliveries) g address topicId shortTopic).2.links = g.links := by
  unfold deleteSubscription
  simp

@[simp] theorem links_deleteSubscriptionByName :
    (deleteSubscriptionByName (reentrant deliveries) g address topic).2.links = g.links := by
  unfold deleteSubscriptionByName
  simp

end Core

section Loop

variable {slot : EntryClient} {beat elapsed : UInt32} {last : DeviceAddress} {stops : DeviceAddress → Bool}
  {body : Nat → EntryClient → Gateway → Option Gateway}

theorem links_serviceClients (visits : ∀ n g g', body n (g.store.nthClient n) g = some g' → g'.links = g.links)
    (serviced : serviceClients body stops last g = some after) : after.links = g.links := by
  have visit : ∀ n g' g'', g'.links = g.links → body n (g'.store.nthClient n) g' = some g'' → g''.links = g.links :=
    fun n g' g'' kept visited => (visits n g' g'' visited).trans kept
  obtain ⟨_, kept⟩ := serviceClients_rule visit rfl serviced
  exact kept

@[simp] theorem links_isTopicKnown {topicId : UInt16} : (g.isTopicKnown topicId).2.links = g.links := by
  have same : (g.persistent.isTopicKnown topicId).2.networks = g.persistent.networks := Persistent.networks_isTopicKnown
  unfold isTopicKnown
  split
  · rename_i answer
    rw [answer] at same
    exact links_update same
  · rename_i answer
    rw [answer] at same
    exact links_takeUnspecified.trans (links_update same)

@[simp] theorem links_handleClientPublishes {status : ClientStatus} :
    (handleClientPublishes status address g).links = g.links := by
  unfold handleClientPublishes
  simp only
  (repeat' split) <;> simp

theorem links_handleTimeout (handled : handleTimeout (reentrant deliveries) slot elapsed g = some after) :
    after.links = g.links := by
  unfold handleTimeout at handled
  split at handled
  · simp only at handled
    obtain ⟨between, expired, rfl⟩ := Option.map_eq_some_iff.mp handled
    rw [links_applyTransaction]
    split at expired
    · split at expired
      · obtain ⟨removed, cleared, rfl⟩ := Option.map_eq_some_iff.mp expired
        have first := links_removeClientSubscriptions cleared
        simp [first]
      · cases expired
        simp
    · cases expired
      simp
  · cases handled
    rfl

theorem links_serviceClient {drained : ClientStatus → Bool} {status : ClientStatus} {notice : SnMessage} {beaten : Bool}
    {n : Nat} (serviced : serviceClient (reentrant deliveries) drained status notice beaten elapsed n slot g = some after) :
    after.links = g.links := by
  have visiting : ({ g with serviced := g.serviced ++ [n] } : Gateway).links = g.links := rfl
  unfold serviceClient at serviced
  simp only at serviced
  split at serviced
  · have rest := links_handleTimeout serviced
    rw [rest]
    (repeat' split) <;> simp [visiting]
  · cases serviced
    (repeat' split) <;> simp [visiting]

/-- With the sensor network up, `loop` ends the process just when the broker was never reached and nobody is registered. -/
theorem links_loop (up : g.persistent.isMqttsnOnline = true)
    (looped : loop (reentrant deliveries) beat elapsed g = some after) :
    after.links = (g.links.1, g.links.2.1, g.links.2.2.1,
      g.halted || !g.persistent.isMqttOnline && decide (g.store.lastClientAddress .zero = .zero)) := by
  have visits : ∀ drained status notice beaten time system stops address,
      serviceClients (serviceClient (reentrant deliveries) drained status notice beaten time) stops address
        { g with system := system } = some after → after.links = g.links := by
    intro drained status notice beaten time system stops address serviced
    have same : after.links = ({ g with system := system } : Gateway).links :=
      links_serviceClients (fun _ _ _ visited => links_serviceClient visited) serviced
    exact same
  unfold Gateway.loop at looped
  cases mqtt : g.persistent.isMqttOnline with
  | true =>
    have running : (g.halted || !true && decide (g.store.lastClientAddress .zero = .zero)) = g.halted := by simp
    rw [running]
    simp only [up, mqtt, Bool.not_true, Bool.or_self, Bool.false_eq_true, if_false] at looped
    generalize (if (g.system.hasBeaten beat).1 = true then (g.system.hasBeaten beat).2.getElapsedTime elapsed
      else (0, (g.system.hasBeaten beat).2)) = clock at looped
    split at looped
    · cases looped
      rfl
    · exact visits _ _ _ _ _ _ _ _ looped
  | false =>
    simp only [up, mqtt, Bool.not_true, Bool.not_false, Bool.or_true, Bool.and_self, if_true] at looped
    unfold processMqttOfflineProcedure at looped
    simp only at looped
    split at looped
    · rename_i vacant
      have same : g.store.lastClientAddress .zero = .zero := vacant
      cases looped
      simp [links, exit, same]
    · rename_i vacant
      have different : g.store.lastClientAddress .zero ≠ .zero := vacant
      have running : (g.halted || !false && decide (g.store.lastClientAddress .zero = .zero)) = g.halted := by simp [different]
      rw [running]
      exact visits _ _ _ _ _ _ _ _ looped

end Loop

section Handlers

theorem links_handleConnect {clientId : CString} {duration : UInt16} {will clean : Bool}
    (handled : handleConnect (reentrant deliveries) g address clientId duration will clean = some after) :
    after.links = g.links := by
  unfold handleConnect at handled
  obtain ⟨⟨result, between⟩, added, answered⟩ := Option.map_eq_some_iff.mp handled
  have same := links_addClient added
  have awaited : (between.awaitMessage address .willtopic).2.links = between.links := links_awaitMessage
  rw [← same, ← answered]
  cases result with
  | success =>
    simp only
    split
    · split
      · rename_i told
        rw [told] at awaited
        exact links_send.trans awaited
      · rename_i told
        rw [told] at awaited
        exact links_send.trans awaited
    · exact links_send
  | _ => exact links_send

@[simp] theorem links_handleWilltopic {retain : Bool} : (g.handleWilltopic address topic retain qos).links = g.links := by
  have added : (g.addWillTopic address topic retain qos).2.links = g.links := links_addWillTopic
  unfold handleWilltopic
  split
  · simp
  · split
    · rename_i between told
      have awaited : (between.awaitMessage address .willmsg).2.links = between.links := links_awaitMessage
      rw [told] at added
      split <;> simp_all
    · simp_all

@[simp] theorem links_handleWillmsg {willMsg : List UInt8} : (g.handleWillmsg address willMsg).links = g.links := by
  have added : (g.addWillMsg address willMsg).2.links = g.links := links_addWillMsg
  unfold handleWillmsg
  split <;> simp_all

@[simp] theorem links_handleRegister {msgId : UInt16} : (g.handleRegister address msgId topic).links = g.links := by
  have registered : (g.registerTopic address topic 0).2.2.links = g.links := links_registerTopic
  unfold handleRegister
  split <;> simp_all

@[simp] theorem links_handleRegack {topicId msgId : UInt16} {returnCode : UInt8} :
    (g.handleRegack address topicId msgId returnCode).links = g.links := by
  have arrived : (g.notifyRegackArrived address topicId msgId returnCode).2.links = g.links := links_notifyRegackArrived
  unfold handleRegack
  split <;> simp_all

@[simp] theorem links_handlePuback {topicId msgId : UInt16} {returnCode : UInt8} :
    (g.handlePuback address msgId topicId returnCode).links = g.links := by
  have arrived : (g.notifyPubackArrived address msgId topicId returnCode).2.links = g.links := links_notifyPubackArrived
  unfold handlePuback
  split <;> simp_all

@[simp] theorem links_answerSubscribe {msgId : UInt16} {outcome : CoreResult × UInt16 × UInt8 × Gateway} :
    (answerSubscribe address msgId outcome).links = outcome.2.2.2.links := by
  unfold answerSubscribe
  split <;> simp

@[simp] theorem links_handleSubscribe {topicId msgId : UInt16} {shortTopic : Bool} :
    (handleSubscribe (reentrant deliveries) g address topicId msgId shortTopic qos).links = g.links := by
  unfold handleSubscribe
  rw [links_answerSubscribe, links_addSubscription]

@[simp] theorem links_handleSubscribeByName {msgId : UInt16} :
    (handleSubscribeByName (reentrant deliveries) g address topic msgId qos).links = g.links := by
  have registered : (g.registerTopic address topic 0).2.2.links = g.links := links_registerTopic
  unfold handleSubscribeByName
  split <;> rename_i told <;> simp_all [links_addSubscription]

@[simp] theorem links_answerUnsubscribe {msgId : UInt16} {outcome : CoreResult × Gateway} :
    (answerUnsubscribe address msgId outcome).links = outcome.2.links := by
  unfold answerUnsubscribe
  split <;> simp

@[simp] theorem links_handlePublish {data : List UInt8} {msgId topicId : UInt16} {shortTopic retain : Bool} {level : Int} :
    (handlePublish (reentrant deliveries) g address data msgId topicId shortTopic retain level).links = g.links := by
  have published : (publish (reentrant deliveries) g address data topicId shortTopic retain level).2.links = g.links :=
    links_publish
  unfold handlePublish
  generalize publish (reentrant deliveries) g address data topicId shortTopic retain level = outcome at published ⊢
  obtain ⟨result, between⟩ := outcome
  have awaited : (between.awaitMessage address .pubrel).2.links = between.links := links_awaitMessage
  simp only at published ⊢
  (repeat' split) <;> simp_all

/-- No request changes what the gateway thinks of its networks. -/
theorem links_handle {request : Request} (handled : handle (reentrant deliveries) g address request = some after) :
    after.links = g.links := by
  cases request with
  | connect _ _ _ _ => exact links_handleConnect handled
  | publish _ _ _ _ _ _ twice =>
    cases handled
    cases twice <;> simp
  | unsubscribe _ _ _ =>
    cases handled
    simp [handleUnsubscribe]
  | unsubscribeByName _ _ =>
    cases handled
    simp [handleUnsubscribeByName]
  | pingreq =>
    cases handled
    simp [handlePingreq]
  | pingreqWithId clientId =>
    cases handled
    have awake : (g.setAwake address).2.links = g.links := links_setAwake
    unfold handlePingreqWithId
    split <;> simp_all
  | disconnect =>
    cases handled
    have disconnected : (g.setDisconnected address).2.links = g.links := links_setDisconnected
    unfold handleDisconnect
    split <;> simp_all
  | disconnectWithDuration duration =>
    cases handled
    have asleep : (g.setAsleep address duration).2.links = g.links := links_setAsleep
    unfold handleDisconnectWithDuration
    split <;> simp_all
  | _ =>
    cases handled
    simp

end Handlers

end Gateway

end MqttSnGateway
