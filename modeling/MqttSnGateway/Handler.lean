import MqttSnGateway.Core.Loop

namespace MqttSnGateway

/-- The 255-byte receive buffer of the socket after `memset` and `recvfrom`, with the memory behind it. -/
def receiveBuffer (bytes beyond : List UInt8) : List UInt8 :=
  bytes ++ List.replicate (255 - bytes.length) 0 ++ beyond

/-- Fields of the packed structs at their byte offsets; `uint16_t` is little endian. -/
def byteAt (memory : List UInt8) (offset : Nat) : UInt8 := memory.getD offset 0

def halfwordAt (memory : List UInt8) (offset : Nat) : UInt16 :=
  (byteAt memory offset).toUInt16 + (byteAt memory (offset + 1)).toUInt16 * 256

def stringAt (memory : List UInt8) (offset : Nat) : CString := .ofMemory (memory.drop offset)

def bytesAt (memory : List UInt8) (offset length : Nat) : List UInt8 := (memory.drop offset).take length

namespace Gateway

variable (mqtt : MqttMessageHandler)

section Connection

def handleConnect (g : Gateway) (address : DeviceAddress) (clientId : CString) (duration : UInt16)
    (will cleanSession : Bool) : Option Gateway :=
  (addClient mqtt g clientId duration cleanSession address).map fun
    | (.success, g) =>
      if will then
        match g.awaitMessage address .willtopic with
        | (.success, g) => g.send address .willtopicreq
        | (_, g) => g.send address (.connack ReturnCode.rejectedNotSupported)
      else g.send address (.connack ReturnCode.accepted)
    | (.full, g) => g.send address (.connack ReturnCode.rejectedCongestion)
    | (_, g) => g.send address (.connack ReturnCode.rejectedNotSupported)

def parseConnect (g : Gateway) (address : DeviceAddress) (memory : List UInt8) : Option Gateway :=
  let length := byteAt memory 0
  let flags := byteAt memory 2
  let clientId := stringAt memory 6
  if 6 < length && length.toNat = 6 + clientId.length + 1 && byteAt memory 3 = 1 then
    handleConnect mqtt g address clientId (halfwordAt memory 4) (Flag.any flags Flag.will)
      (Flag.any flags Flag.clean)
  else some g

def handleWilltopic (g : Gateway) (address : DeviceAddress) (willTopic : CString) (retain : Bool) (qos : UInt8) :
    Gateway :=
  if willTopic.length = 0 && qos = 0 && !retain then (g.removeWill address).2
  else match g.addWillTopic address willTopic retain qos with
    | (.success, g) =>
      match g.awaitMessage address .willmsg with
      | (.success, g) => g.send address .willmsgreq
      | (_, g) => g.send address (.connack ReturnCode.rejectedNotSupported)
    | (_, g) => g.send address (.connack ReturnCode.rejectedNotSupported)

/-- The retain flag is read from the will bit. -/
def parseWilltopic (g : Gateway) (address : DeviceAddress) (memory : List UInt8) : Gateway :=
  let length := byteAt memory 0
  let flags := byteAt memory 2
  let willTopic := stringAt memory 3
  if 3 < length && length.toNat = 3 + willTopic.length + 1 then
    g.handleWilltopic address willTopic (Flag.any flags Flag.will) (UInt8.ofInt (Flag.qos flags))
  else g

def handleWillmsg (g : Gateway) (address : DeviceAddress) (willMsg : List UInt8) : Gateway :=
  match g.addWillMsg address willMsg with
  | (.success, g) => g.send address (.connack ReturnCode.accepted)
  | (_, g) => g.send address (.connack ReturnCode.rejectedNotSupported)

def parseWillmsg (g : Gateway) (address : DeviceAddress) (memory : List UInt8) : Gateway :=
  let length := byteAt memory 0
  if 2 < length then g.handleWillmsg address (bytesAt memory 2 (length - 2).toNat) else g

def handlePingreq (g : Gateway) (address : DeviceAddress) : Gateway := g.send address .pingresp

/-- The client id of the message is not used. -/
def handlePingreqWithId (g : Gateway) (address : DeviceAddress) (_clientId : CString) : Gateway :=
  match g.setAwake address with
  | (.success, g) => g
  | (_, g) => g.send address .disconnect

def parsePingreq (g : Gateway) (address : DeviceAddress) (memory : List UInt8) : Gateway :=
  let length := byteAt memory 0
  let clientId := stringAt memory 2
  if length = 2 then g.handlePingreq address
  else if 2 < length && clientId.length < 24 && length.toNat = clientId.length + 3 then
    g.handlePingreqWithId address clientId
  else g

def handleDisconnect (g : Gateway) (address : DeviceAddress) : Gateway :=
  match g.setDisconnected address with
  | (.success, g) => g.send address .disconnect
  | (_, g) => g

def handleDisconnectWithDuration (g : Gateway) (address : DeviceAddress) (duration : UInt16) : Gateway :=
  match g.setAsleep address duration with
  | (.success, g) => g.send address (.disconnectDuration duration)
  | (_, g) => g.send address .disconnect

def parseDisconnect (g : Gateway) (address : DeviceAddress) (memory : List UInt8) : Gateway :=
  let length := byteAt memory 0
  if length = 2 then g.handleDisconnect address
  else if length = 4 then g.handleDisconnectWithDuration address (halfwordAt memory 2)
  else g

end Connection

section Topics

def handleRegister (g : Gateway) (address : DeviceAddress) (msgId : UInt16) (topicName : CString) : Gateway :=
  match g.registerTopic address topicName 0 with
  | (.full, _, g) => g.send address (.regack 0 msgId ReturnCode.rejectedCongestion)
  | (.success, topicId, g) => g.send address (.regack topicId msgId ReturnCode.accepted)
  | (_, _, g) => g.send address (.regack 0 msgId ReturnCode.rejectedNotSupported)

def parseRegister (g : Gateway) (address : DeviceAddress) (memory : List UInt8) : Gateway :=
  let length := byteAt memory 0
  let topicName := stringAt memory 6
  if 6 < length && halfwordAt memory 2 = 0 && length.toNat = 6 + topicName.length + 1 then
    g.handleRegister address (halfwordAt memory 4) topicName
  else g

def handleRegack (g : Gateway) (address : DeviceAddress) (topicId msgId : UInt16) (returnCode : UInt8) : Gateway :=
  match g.notifyRegackArrived address topicId msgId returnCode with
  | (.success, g) => g
  | (_, g) => g.send address .disconnect

def parseRegack (g : Gateway) (address : DeviceAddress) (memory : List UInt8) : Gateway :=
  if byteAt memory 0 = 7 then
    g.handleRegack address (halfwordAt memory 2) (halfwordAt memory 4) (byteAt memory 6)
  else g

/-- How a SUBSCRIBE that `add_subscription` has dealt with is answered. -/
def answerSubscribe (address : DeviceAddress) (msgId : UInt16) : CoreResult × UInt16 × UInt8 × Gateway → Gateway
  | (.success, newTopicId, grantedQos, g) =>
    g.send address (.suback grantedQos newTopicId msgId ReturnCode.accepted)
  | (.clientSubscriptionFull, _, _, g) => g.send address (.suback 0 0 msgId ReturnCode.rejectedCongestion)
  | (.topicIdNonexistence, _, _, g) => g.send address (.suback 0 0 msgId ReturnCode.rejectedInvalidTopicId)
  | (.clientNonexistence, _, _, g) => g.send address .disconnect
  | (_, _, _, g) => g.send address (.suback 0 0 msgId ReturnCode.rejectedNotSupported)

def handleSubscribe (g : Gateway) (address : DeviceAddress) (topicId msgId : UInt16) (shortTopic : Bool)
    (qos : UInt8) : Gateway :=
  answerSubscribe address msgId (addSubscription mqtt g address topicId shortTopic qos 0)

/-- Registers the name and subscribes with the id it was given, as a short topic. -/
def handleSubscribeByName (g : Gateway) (address : DeviceAddress) (topicName : CString) (msgId : UInt16)
    (qos : UInt8) : Gateway :=
  match g.registerTopic address topicName 0 with
  | (.full, _, g) => g.send address (.suback qos 0 msgId ReturnCode.rejectedCongestion)
  | (.success, newTopicId, g) =>
    answerSubscribe address msgId (addSubscription mqtt g address newTopicId true qos newTopicId)
  | (_, _, g) => g.send address (.suback qos 0 msgId ReturnCode.rejectedNotSupported)

def shortTopicOrPredefined (flags : UInt8) : Bool :=
  Flag.any flags Flag.topicShortName || Flag.any flags Flag.topicPredefinedId

def parseSubscribe (g : Gateway) (address : DeviceAddress) (memory : List UInt8) : Gateway :=
  let length := byteAt memory 0
  let flags := byteAt memory 2
  if 3 < length then
    if Flag.qos flags = -1 then g
    else
      let qos := UInt8.ofInt (Flag.qos flags)
      if shortTopicOrPredefined flags && length = 7 then
        handleSubscribe mqtt g address (halfwordAt memory 6) (halfwordAt memory 4)
          (Flag.any flags Flag.topicShortName) qos
      else if 6 < length then handleSubscribeByName mqtt g address (stringAt memory 6) (halfwordAt memory 4) qos
      else g
  else g

def answerUnsubscribe (address : DeviceAddress) (msgId : UInt16) : CoreResult × Gateway → Gateway
  | (.clientNonexistence, g) => g.send address .disconnect
  | (_, g) => g.send address (.unsuback msgId)

def handleUnsubscribe (g : Gateway) (address : DeviceAddress) (topicId msgId : UInt16) (shortTopic : Bool) :
    Gateway :=
  answerUnsubscribe address msgId (deleteSubscription mqtt g address topicId shortTopic)

def handleUnsubscribeByName (g : Gateway) (address : DeviceAddress) (topicName : CString) (msgId : UInt16) :
    Gateway :=
  answerUnsubscribe address msgId (deleteSubscriptionByName mqtt g address topicName)

def parseUnsubscribe (g : Gateway) (address : DeviceAddress) (memory : List UInt8) : Gateway :=
  let length := byteAt memory 0
  let flags := byteAt memory 2
  if 3 < length then
    if shortTopicOrPredefined flags && length = 7 then
      handleUnsubscribe mqtt g address (halfwordAt memory 6) (halfwordAt memory 4)
        (Flag.any flags Flag.topicShortName)
    else if 6 < length then handleUnsubscribeByName mqtt g address (stringAt memory 6) (halfwordAt memory 4)
    else g
  else g

end Topics

section Publishes

def handlePublish (g : Gateway) (address : DeviceAddress) (data : List UInt8) (msgId topicId : UInt16)
    (shortTopic retain : Bool) (qos : Int) : Gateway :=
  let (result, g) := publish mqtt g address data topicId shortTopic retain qos
  if qos = -1 then g
  else if result ≠ .success && result ≠ .topicIdNonexistence then
    if qos = 1 then g.send address (.puback topicId msgId ReturnCode.rejectedNotSupported)
    else g.send address .disconnect
  else if qos = 0 then
    if result = .topicIdNonexistence then g.send address (.puback topicId msgId ReturnCode.rejectedInvalidTopicId)
    else g
  else if qos = 1 then
    if result = .topicIdNonexistence then g.send address (.puback topicId msgId ReturnCode.rejectedInvalidTopicId)
    else g.send address (.puback topicId msgId ReturnCode.accepted)
  else match g.awaitMessage address .pubrel with
    | (.success, g) => g.send address (.pubrec msgId)
    | (_, g) => g.send address .disconnect

/-- `FLAG_TOPIC_PREDEFINED_ID != 0` is 1, so `flags & (FLAG_TOPIC_PREDEFINED_ID != 0)` is the lowest bit. -/
def parsePublish (g : Gateway) (address : DeviceAddress) (memory : List UInt8) : Gateway :=
  let length := byteAt memory 0
  let flags := byteAt memory 2
  if 7 < length then
    let qos := Flag.qos flags
    let shortTopic := Flag.any flags Flag.topicShortName
    let topicId := halfwordAt memory 4
    let messageId := halfwordAt memory 6
    let data := bytesAt memory 8 (length.toNat - 7)
    if (qos = 0 || qos = -1) && messageId ≠ 0 then g
    else
      let handle := fun g =>
        handlePublish mqtt g address data messageId topicId shortTopic (Flag.any flags Flag.retain) qos
      let g := if !shortTopic && !Flag.any flags 1 then handle g else g
      handle g
  else g

/-- The second argument of the core function is the message id, the third the topic id. -/
def handlePuback (g : Gateway) (address : DeviceAddress) (msgId topicId : UInt16) (returnCode : UInt8) : Gateway :=
  match g.notifyPubackArrived address msgId topicId returnCode with
  | (.success, g) => g
  | (_, g) => g.send address .disconnect

/-- Passes the topic id where `handle_puback` takes the message id. -/
def parsePuback (g : Gateway) (address : DeviceAddress) (memory : List UInt8) : Gateway :=
  if byteAt memory 0 = 7 then
    g.handlePuback address (halfwordAt memory 2) (halfwordAt memory 4) (byteAt memory 6)
  else g

end Publishes

/-- SEARCHGW is never answered, because the gateway id that `get_gateway_id` leaves is not positive. -/
def receiveData (g : Gateway) (address : DeviceAddress) (memory : List UInt8) : Option Gateway :=
  if byteAt memory 0 < 2 then some g
  else match MessageType.ofCode? (byteAt memory 1) with
    | some .pingreq => some (g.parsePingreq address memory)
    | some .connect => parseConnect mqtt g address memory
    | some .willtopic => some (g.parseWilltopic address memory)
    | some .willmsg => some (g.parseWillmsg address memory)
    | some .register => some (g.parseRegister address memory)
    | some .regack => some (g.parseRegack address memory)
    | some .publish => some (parsePublish mqtt g address memory)
    | some .puback => some (g.parsePuback address memory)
    | some .subscribe => some (parseSubscribe mqtt g address memory)
    | some .unsubscribe => some (parseUnsubscribe mqtt g address memory)
    | some .disconnect => some (g.parseDisconnect address memory)
    | _ => some g

end Gateway

end MqttSnGateway
