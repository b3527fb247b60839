import MqttSnGateway.Core.CoreImpl

namespace MqttSnGateway

namespace Gateway

variable (mqtt : MqttMessageHandler)

section Traversal

/-- The do-while loop over the registry: handle slot `n`, read the next one, return if `stops` says so,
    leave the loop at the address of the last client. The outcome tells the slot at which the loop was
    left. Past the end of the registry every slot read is zero, so a traversal that runs out of fuel
    there never ends: `none`. -/
def traverse (body : Nat → EntryClient → Gateway → Option Gateway) (stops : DeviceAddress → Bool)
    (last : DeviceAddress) : Nat → Nat → EntryClient → Gateway → Option (Option (Nat × EntryClient) × Gateway)
  | fuel, n, slot, g =>
    (body n slot g).bind fun g =>
      let next := g.store.nthClient (n + 1)
      if stops next.clientAddress then some (none, g)
      else if next.clientAddress = last then some (some (n + 1, next), g)
      else match fuel with
        | 0 => none
        | fuel + 1 => traverse body stops last fuel (n + 1) next g

def traverseFromFirst (body : Nat → EntryClient → Gateway → Option Gateway) (stops : DeviceAddress → Bool)
    (last : DeviceAddress) (g : Gateway) : Option (Option (Nat × EntryClient) × Gateway) :=
  traverse body stops last g.store.clients.length 0 (g.store.nthClient 0) g

end Traversal

section Broker

def handleReceiveMqttPublishForClient (topicName : CString) (data : List UInt8) (retain : Bool)
    (address : DeviceAddress) (g : Gateway) : Gateway :=
  let g := g.startClientTransaction address
  let g :=
    if g.persistent.getClientStatus.connected && g.persistent.isSubscribed (some topicName) then
      let qos := g.persistent.getSubscriptionQos (some topicName)
      let topicId := g.persistent.getSubscriptionTopicId (some topicName)
      g.update fun p => p.addClientPublish data topicId retain qos
    else g
  g.applyTransaction.2

/-- `publish` for a message of the broker. The last client is not handled after the loop. -/
def publishFromBroker (g : Gateway) (topicName : CString) (data : List UInt8) (retain : Bool) : Option Gateway :=
  if g.getMaximumPublishPayloadLength.toNat < data.length then some g
  else
    let last := g.store.lastClientAddress .zero
    if last = .zero then some g
    else
      let body := fun _ (slot : EntryClient) g =>
        some (handleReceiveMqttPublishForClient topicName data retain slot.clientAddress g)
      (traverseFromFirst body (fun address => address = .zero) last g).map Prod.snd

end Broker

section Clients

/-- `(msg_id + 1 == 0) ? msg_id = 1 : msg_id += 1` promotes to `int`, so the test never holds. -/
def nextMsgId (msgId : UInt16) : UInt16 := msgId + 1

def isTopicKnown (g : Gateway) (topicId : UInt16) : Bool × Gateway :=
  match g.persistent.isTopicKnown topicId with
  | (some known, p) => (known, g.update fun _ => p)
  | (none, p) => (g.update fun _ => p).takeUnspecified

def handleClientPublishes (status : ClientStatus) (address : DeviceAddress) (g : Gateway) : Gateway :=
  if status = .awake || status = .active then
    let g := g.startClientTransaction address
    if g.persistent.getClientAwaitMessageType = .pingreq && g.persistent.hasClientPublishes then
      let next := g.persistent.getNextPublish.getD .zero
      let (known, g) := g.isTopicKnown next.topicId
      if !known then
        match g.persistent.getTopicName next.topicId with
        | none => g.applyTransaction.2
        | some topicName =>
          let msgId := nextMsgId g.persistent.getClientAwaitMsgId
          let (result, g) :=
            (g.update fun p => (p.setClientAwaitMsgId msgId).setClientAwaitMessage .regack).applyTransaction
          if CoreResult.is result .success then g.send address (.register next.topicId msgId topicName) else g
      else if next.qos = 0 then
        let (result, g) := (g.update fun p => p.removePublishByPublishId next.publishId).applyTransaction
        if CoreResult.is result .success then
          g.send address (.publish next.payload 0 next.topicId true next.retain next.qos false)
        else g
      else if next.qos = 1 then
        let msgId := nextMsgId g.persistent.getClientAwaitMsgId
        let (result, g) := (g.update fun p =>
          ((p.setClientAwaitMsgId msgId).setClientAwaitMessage .puback).setPublishMsgId next.publishId
            msgId).applyTransaction
        if CoreResult.is result .success then
          g.send address (.publish next.payload msgId next.topicId true next.retain next.qos false)
        else g
      else g.applyTransaction.2
    else g.applyTransaction.2
  else g

/-- A tenth is added to durations above a minute, a half to the others. -/
def toleranceTimeout (duration : UInt32) : Nat :=
  if 60000 < duration.toNat then duration.toNat + duration.toNat / 10 else duration.toNat + duration.toNat / 2

def handleTimeout (slot : EntryClient) (elapsedTime : UInt32) (g : Gateway) : Option Gateway :=
  if slot.clientStatus.connected then
    let g := g.startClientTransaction slot.clientAddress
    let timeout := slot.timeout + elapsedTime
    let g := g.update fun p => p.setTimeout timeout
    let expired :=
      if toleranceTimeout slot.duration < timeout.toNat then
        let g := g.update fun p => p.setClientState .lost
        if g.persistent.hasClientWill then
          let will := g.persistent.getClientWill.getD .zero
          let (_, g) := mqtt.publish g will.willtopic will.payload will.qos will.retain
          (removeClientSubscriptions mqtt g).map fun g => g.update fun p => p.deleteClient slot.clientId
        else some g
      else some g
    expired.map fun g => g.applyTransaction.2
  else some g

/-- The body of the loops over the clients: deliver a publish, let a client in a state of `drained`
    without publishes change to `status` and tell it so, and check its timeout. -/
def serviceClient (drained : ClientStatus → Bool) (status : ClientStatus) (notice : SnMessage)
    (hasHeartBeaten : Bool) (elapsedTime : UInt32) (n : Nat) (slot : EntryClient) (g : Gateway) : Option Gateway :=
  let g := { g with serviced := g.serviced ++ [n] }
  let g := handleClientPublishes slot.clientStatus slot.clientAddress g
  let g := g.startClientTransaction slot.clientAddress
  let g :=
    if drained slot.clientStatus && !g.persistent.hasClientPublishes then
      let (result, g) := (g.update fun p => p.setClientState status).applyTransaction
      if CoreResult.is result .success then g.send slot.clientAddress notice else g
    else g.applyTransaction.2
  if hasHeartBeaten then handleTimeout mqtt slot elapsedTime g else some g

/-- The traversal of `loop` and of the offline procedure: the last client is handled after the loop. -/
def serviceClients (body : Nat → EntryClient → Gateway → Option Gateway) (stops : DeviceAddress → Bool)
    (last : DeviceAddress) (g : Gateway) : Option Gateway :=
  (traverseFromFirst body stops last g).bind fun
    | (some (n, slot), g) => body n slot g
    | (none, g) => some g

end Clients

section Offline

/-- Exits when no client is left. Zero addresses do not end this traversal. -/
def processMqttOfflineProcedure (beat elapsed : UInt32) (g : Gateway) : Option Gateway :=
  let (hasHeartBeaten, system) := g.system.hasBeaten beat
  let (elapsedTime, system) := system.getElapsedTime elapsed
  let g := { g with system := system }
  let last := g.store.lastClientAddress .zero
  if last = .zero then some g.exit
  else
    let drained := fun status : ClientStatus => status = .active || status = .awake
    serviceClients (serviceClient mqtt drained .disconnected .disconnect hasHeartBeaten (elapsedTime / 1000))
      (fun _ => false) last g

def processMqttsnOfflineProcedure (g : Gateway) : Gateway :=
  let g := match g.mqttWill with
    | some will => (mqtt.publish g will.willTopic (will.willMsg.bytes ++ [0]) will.willQos will.willRetain).2
    | none => g
  exit { g.call .disconnect with isConnected := false }

def setAllClientsLostLoop (last : DeviceAddress) : Nat → Nat → Gateway → Option Gateway
  | fuel, n, g =>
    let slot := g.store.nthClient n
    if slot.clientAddress = last then some g
    else
      let g := if slot.clientStatus ≠ .empty then
          (g.transaction slot.clientAddress (fun p => p.setClientState .lost) successOrFull).2
        else g
      match fuel with
      | 0 => none
      | fuel + 1 => setAllClientsLostLoop last fuel (n + 1) g

def setAllClientsLost (g : Gateway) : Option Gateway :=
  setAllClientsLostLoop (g.store.lastClientAddress .zero) g.store.clients.length 0 g

end Offline

/-- `beat` and `elapsed` are the clock readings of `has_beaten` and `get_elapsed_time`. -/
def loop (beat elapsed : UInt32) (g : Gateway) : Option Gateway :=
  if !g.persistent.isMqttsnOnline || !g.persistent.isMqttOnline then
    if g.persistent.isMqttsnOnline && !g.persistent.isMqttOnline then
      processMqttOfflineProcedure mqtt beat elapsed g
    else if !g.persistent.isMqttsnOnline && g.persistent.isMqttOnline then
      some (processMqttsnOfflineProcedure mqtt g)
    else (setAllClientsLost g).map exit
  else
    let (hasHeartBeaten, system) := g.system.hasBeaten beat
    let (elapsedTime, system) := if hasHeartBeaten then system.getElapsedTime elapsed else (0, system)
    let g := { g with system := system }
    let last := g.store.lastClientAddress .zero
    if last = .zero then some g
    else
      let drained := fun status : ClientStatus => status = .awake
      serviceClients (serviceClient mqtt drained .asleep .pingresp hasHeartBeaten elapsedTime)
        (fun address => address = .zero) last g

end Gateway

end MqttSnGateway
