import MqttSnGateway.Core.Gateway

namespace MqttSnGateway

namespace Gateway

variable (mqtt : MqttMessageHandler)

section Results

def startClientTransaction (g : Gateway) (address : DeviceAddress) : Gateway :=
  g.update fun p => p.startClientTransaction address

def applyTransaction (g : Gateway) : UInt8 × Gateway :=
  (g.persistent.applyTransaction.1, g.update fun p => p.applyTransaction.2)

def successOrFull (result : UInt8) : CoreResult :=
  if CoreResult.is result .success then .success
  else if CoreResult.is result .full then .full
  else .zero

def successOrNonexistence (result : UInt8) : CoreResult :=
  if CoreResult.is result .clientNonexistence then .clientNonexistence
  else if CoreResult.is result .success then .success
  else .zero

/-- The operations that open a transaction for an address, change the store and apply it. -/
def transaction (g : Gateway) (address : DeviceAddress) (change : Persistent → Persistent)
    (toResult : UInt8 → CoreResult) : CoreResult × Gateway :=
  let (result, g) := ((g.startClientTransaction address).update change).applyTransaction
  (toResult result, g)

end Results

section Sessions

/-- One round deletes the subscription found at position `count - 1` of the file, which is the last one
    only if no deleted record precedes it. Where the record there is empty nothing changes and the loop
    of the source never ends: `none`. -/
def removeClientSubscriptionsLoop : Nat → Gateway → Option Gateway
  | fuel, g =>
    let count := g.persistent.getClientSubscriptionCount
    if count = 0 then some g
    else match fuel with
      | 0 => none
      | fuel + 1 =>
        let topicId := g.persistent.getNthSubscribedTopicId (count - 1)
        let topicName := g.persistent.getTopicName topicId
        let g := g.update fun p => p.deleteSubscription topicId
        let g := g.update fun p => p.decrementGlobalSubscriptionCount topicName
        let g := if g.persistent.getGlobalTopicSubscriptionCount topicName = 0 then (mqtt.unsubscribe g topicName).2
          else g
        removeClientSubscriptionsLoop fuel g

def removeClientSubscriptions (g : Gateway) : Option Gateway :=
  removeClientSubscriptionsLoop mqtt g.persistent.getClientSubscriptionCount g

def addClient (g : Gateway) (clientId : CString) (duration : UInt16) (cleanSession : Bool)
    (address : DeviceAddress) : Option (CoreResult × Gateway) :=
  if !g.persistent.isMqttOnline then some (.zero, g)
  else
    let milliseconds := duration.toUInt32 * 1000
    let g := g.update fun p => p.startClientTransactionById clientId
    let prepared :=
      if g.persistent.clientExist then
        if !cleanSession then some (g.update fun p => p.resetClient clientId address milliseconds)
        else (removeClientSubscriptions mqtt g).map fun g =>
          (g.update fun p => p.deleteClient clientId).update fun p => p.addClient clientId address milliseconds
      else some (g.update fun p => p.addClient clientId address milliseconds)
    prepared.map fun g =>
      let (result, g) := g.applyTransaction
      (successOrFull result, g)

def removeWill (g : Gateway) (address : DeviceAddress) : CoreResult × Gateway :=
  g.transaction address (fun p => p.deleteWill) successOrFull

/-- `add_will_topic` and `add_will_msg` go on only while the client's answer is awaited. -/
def addWillPart (g : Gateway) (address : DeviceAddress) (awaited : MessageType) (change : Persistent → Persistent) :
    CoreResult × Gateway :=
  if !g.persistent.isMqttOnline then (.zero, g)
  else
    let g := g.startClientTransaction address
    if g.persistent.getClientAwaitMessageType ≠ awaited || g.persistent.getClientAwaitMessageType = .pingreq then
      (.zero, g.applyTransaction.2)
    else
      let (result, g) := (g.update change).applyTransaction
      (successOrFull result, g)

def addWillTopic (g : Gateway) (address : DeviceAddress) (willTopic : CString) (retain : Bool) (qos : UInt8) :
    CoreResult × Gateway :=
  g.addWillPart address .willtopic fun p => p.setClientWilltopic willTopic qos retain

def addWillMsg (g : Gateway) (address : DeviceAddress) (willMsg : List UInt8) : CoreResult × Gateway :=
  g.addWillPart address .willmsg fun p => p.setClientWillmessage willMsg

def awaitMessage (g : Gateway) (address : DeviceAddress) (type : MessageType) : CoreResult × Gateway :=
  g.transaction address (fun p => p.setClientAwaitMessage type) successOrFull

def setDisconnected (g : Gateway) (address : DeviceAddress) : CoreResult × Gateway :=
  g.transaction address (fun p => p.setClientState .disconnected) successOrNonexistence

def setAsleep (g : Gateway) (address : DeviceAddress) (duration : UInt16) : CoreResult × Gateway :=
  if !g.persistent.isMqttOnline then (.zero, g)
  else
    let milliseconds := duration.toUInt32 * 1000
    g.transaction address (fun p => (p.setClientState .asleep).setClientDuration milliseconds) successOrNonexistence

def setAwake (g : Gateway) (address : DeviceAddress) : CoreResult × Gateway :=
  g.transaction address (fun p => p.setClientState .awake) successOrNonexistence

/-- Ends without a return statement unless the transaction succeeded. Its caller only asks whether the result is SUCCESS. -/
def notifyRegackArrived (g : Gateway) (address : DeviceAddress) (topicId msgId : UInt16) (returnCode : UInt8) :
    CoreResult × Gateway :=
  let finish := fun (g : Gateway) =>
    let (result, g) := g.applyTransaction
    if CoreResult.is result .clientNonexistence then (.clientNonexistence, g)
    else if CoreResult.is result .success then (.success, g)
    else
      let (value, g) := g.takeUnspecified
      (if value then .success else .zero, g)
  let g := g.startClientTransaction address
  if g.persistent.getClientAwaitMessageType = .regack && g.persistent.getClientAwaitMsgId = msgId then
    if returnCode = ReturnCode.accepted then
      finish (g.update fun p => (p.setTopicKnown topicId true).setClientAwaitMessage .pingreq)
    else if returnCode = ReturnCode.rejectedCongestion then
      finish (g.update fun p => (p.setTopicKnown topicId false).setClientAwaitMessage .pingreq)
    else if returnCode = ReturnCode.rejectedInvalidTopicId then
      (.zero, (g.update fun p => p.setTopicKnown topicId true).applyTransaction.2)
    else if returnCode = ReturnCode.rejectedNotSupported then
      (.zero, (g.update fun p => p.setTopicKnown topicId true).applyTransaction.2)
    else (.zero, g.applyTransaction.2)
  else finish g

def notifyPubackArrived (g : Gateway) (address : DeviceAddress) (msgId _topicId : UInt16) (returnCode : UInt8) :
    CoreResult × Gateway :=
  if returnCode = ReturnCode.accepted || returnCode = ReturnCode.rejectedCongestion ||
      returnCode = ReturnCode.rejectedInvalidTopicId || returnCode = ReturnCode.rejectedNotSupported then
    g.transaction address (fun p => p.removePublishByMsgId msgId) successOrNonexistence
  else g.transaction address (fun p => p) fun _ => .zero

end Sessions

section Topics

/-- The second component is the caller's variable behind `new_topic_id`. -/
def registerTopic (g : Gateway) (address : DeviceAddress) (topicName : CString) (newTopicId : UInt16) :
    CoreResult × UInt16 × Gateway :=
  if !g.persistent.isMqttOnline then (.zero, newTopicId, g)
  else
    let g := g.startClientTransaction address
    let (newTopicId, p) := g.persistent.addClientRegistration topicName newTopicId
    let (result, g) := (g.update fun _ => p).applyTransaction
    if CoreResult.is result .full then (.full, newTopicId, g)
    else if CoreResult.is result .clientNonexistence then (.clientNonexistence, newTopicId, g)
    else if CoreResult.is result .success then (.success, newTopicId, g)
    else (.zero, newTopicId, g)

/-- `publish` for a client; QoS -1 is published as QoS 0. -/
def publish (g : Gateway) (address : DeviceAddress) (data : List UInt8) (topicId : UInt16)
    (shortTopic retain : Bool) (qos : Int) : CoreResult × Gateway :=
  if !g.persistent.isMqttOnline then (.zero, g)
  else
    let g := g.startClientTransaction address
    let status := g.persistent.getClientStatus
    if !g.persistent.clientExist || status = .disconnected || status = .lost then
      let predefined :=
        if qos = -1 && !shortTopic then g.persistent.getPredefinedTopicName topicId else none
      match predefined with
      | some topicName =>
        let (sent, g) := mqtt.publish g topicName data 0 retain
        let (result, g) := g.applyTransaction
        (if sent && CoreResult.is result .success then .success else .zero, g)
      | none =>
        let (result, g) := g.applyTransaction
        (if CoreResult.is result .success then .clientNonexistence else .zero, g)
    else
      let topicName := if shortTopic then g.persistent.getTopicName topicId
        else g.persistent.getPredefinedTopicName topicId
      let (result, g) := g.applyTransaction
      match topicName with
      | none => (if CoreResult.is result .success then .topicIdNonexistence else .zero, g)
      | some topicName =>
        if !CoreResult.is result .success then (.zero, g)
        else
          let (sent, g) := mqtt.publish g topicName data (if qos = -1 then 0 else UInt8.ofInt qos) retain
          (if sent then .success else .zero, g)

/-- The topic of a SUBSCRIBE and what becomes of `new_topic_id`: a registered id stands for itself, the
    name of a predefined id is registered for the client. -/
def subscriptionTopic (g : Gateway) (topicId : UInt16) (shortTopic : Bool) (newTopicId : UInt16) :
    Option CString × UInt16 × Gateway :=
  if shortTopic then
    match g.persistent.getTopicName topicId with
    | some topicName => (some topicName, topicId, g)
    | none => (none, newTopicId, g)
  else match g.persistent.getPredefinedTopicName topicId with
    | some topicName =>
      let (newTopicId, p) := g.persistent.addClientRegistration topicName newTopicId
      (some topicName, newTopicId, g.update fun _ => p)
    | none => (none, newTopicId, g)

/-- The first result of a list that the transaction has. -/
def rejection (expected : List CoreResult) (result : UInt8) : Option CoreResult :=
  expected.find? fun expected => CoreResult.is result expected

/-- The end of `add_subscription`, once the topic is known. -/
def subscribeTo (g : Gateway) (topicName : CString) (topicId : UInt16) (grantedQos : UInt8) : CoreResult × Gateway :=
  let subscribed := g.persistent.isSubscribed (some topicName)
  let g := if subscribed then g
    else g.update fun p =>
      (p.addSubscription topicName topicId grantedQos).incrementGlobalSubscriptionCount (some topicName)
  -- The first to subscribe to this topic subscribes the gateway.
  let subscribe := !subscribed && g.persistent.getGlobalTopicSubscriptionCount (some topicName) = 1
  let (result, g) := g.applyTransaction
  match rejection [.full, .clientNonexistence, .clientSubscriptionFull, .topicIdNonexistence] result with
  | some rejected => (rejected, g)
  | none =>
    let accepted : CoreResult := if CoreResult.is result .success then .success else .zero
    if subscribe then
      match mqtt.subscribe g topicName 1 with
      | (true, g) => (accepted, g)
      | (false, g) => (.zero, g.update fun p => p.decrementGlobalSubscriptionCount (some topicName))
    else (accepted, g)

/-- Returns the values of `new_topic_id` and `granted_qos` too. -/
def addSubscription (g : Gateway) (address : DeviceAddress) (topicId : UInt16) (shortTopic : Bool) (qos : UInt8)
    (newTopicId : UInt16) : CoreResult × UInt16 × UInt8 × Gateway :=
  if !g.persistent.isMqttOnline then (.zero, newTopicId, 0, g)
  else
    let g := g.startClientTransaction address
    if !g.persistent.clientExist then (.zero, newTopicId, 0, g.applyTransaction.2)
    else
      let grantedQos : UInt8 := if 1 ≤ qos then 1 else 0
      match g.subscriptionTopic topicId shortTopic newTopicId with
      | (none, newTopicId, g) => (.zero, newTopicId, grantedQos, g.applyTransaction.2)
      | (some topicName, newTopicId, g) =>
        let (result, g) := subscribeTo mqtt g topicName newTopicId grantedQos
        (result, newTopicId, grantedQos, g)

/-- What the overloads of `delete_subscription` do with the id and the name of the topic inside the
    transaction. -/
def deleteSubscriptionOf (g : Gateway) (topicId : UInt16) (topicName : Option CString) : CoreResult × Gateway :=
  let subscribed := g.persistent.isSubscribed topicName
  let g := if subscribed then g
    else g.update fun p => (p.deleteSubscription topicId).decrementGlobalSubscriptionCount topicName
  let unsubscribe := !subscribed && g.persistent.getGlobalTopicSubscriptionCount topicName = 0
  let (result, g) := g.applyTransaction
  match rejection [.full, .clientNonexistence, .topicIdNonexistence] result with
  | some rejected => (rejected, g)
  | none =>
    let (done, g) := if unsubscribe then mqtt.unsubscribe g topicName else (true, g)
    (if done && CoreResult.is result .success then .success else .zero, g)

def deleteSubscription (g : Gateway) (address : DeviceAddress) (topicId : UInt16) (shortTopic : Bool) :
    CoreResult × Gateway :=
  let g := g.startClientTransaction address
  let topicName := if shortTopic then g.persistent.getTopicName topicId
    else g.persistent.getPredefinedTopicName topicId
  deleteSubscriptionOf mqtt g topicId topicName

def deleteSubscriptionByName (g : Gateway) (address : DeviceAddress) (topicName : CString) : CoreResult × Gateway :=
  let g := g.startClientTransaction address
  deleteSubscriptionOf mqtt g (g.persistent.getTopicId topicName) (some topicName)

end Topics

end Gateway

end MqttSnGateway
