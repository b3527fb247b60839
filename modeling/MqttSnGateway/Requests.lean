import MqttSnGateway.System

namespace MqttSnGateway

/-- What a datagram asks for, once its parser has accepted it. -/
inductive Request where
  | connect (clientId : CString) (duration : UInt16) (will cleanSession : Bool)
  | willtopic (willTopic : CString) (retain : Bool) (qos : UInt8)
  | willmsg (willMsg : List UInt8)
  | register (msgId : UInt16) (topicName : CString)
  | regack (topicId msgId : UInt16) (returnCode : UInt8)
  | publish (data : List UInt8) (msgId topicId : UInt16) (shortTopic retain : Bool) (qos : Int) (twice : Bool)
  | puback (topicId msgId : UInt16) (returnCode : UInt8)
  | pubrel
  | subscribe (topicId msgId : UInt16) (shortTopic : Bool) (qos : UInt8)
  | subscribeByName (topicName : CString) (msgId : UInt16) (qos : UInt8)
  | unsubscribe (topicId msgId : UInt16) (shortTopic : Bool)
  | unsubscribeByName (topicName : CString) (msgId : UInt16)
  | pingreq
  | pingreqWithId (clientId : CString)
  | disconnect
  | disconnectWithDuration (duration : UInt16)
  | ignored

namespace Request

def ofConnect (memory : List UInt8) : Request :=
  let clientId := stringAt memory 6
  if 6 < byteAt memory 0 && (byteAt memory 0).toNat = 6 + clientId.length + 1 && byteAt memory 3 = 1 then
    .connect clientId (halfwordAt memory 4) (Flag.any (byteAt memory 2) Flag.will)
      (Flag.any (byteAt memory 2) Flag.clean)
  else .ignored

def ofWilltopic (memory : List UInt8) : Request :=
  let willTopic := stringAt memory 3
  if 3 < byteAt memory 0 && (byteAt memory 0).toNat = 3 + willTopic.length + 1 then
    .willtopic willTopic (Flag.any (byteAt memory 2) Flag.will) (UInt8.ofInt (Flag.qos (byteAt memory 2)))
  else .ignored

def ofPingreq (memory : List UInt8) : Request :=
  let clientId := stringAt memory 2
  if byteAt memory 0 = 2 then .pingreq
  else if 2 < byteAt memory 0 && clientId.length < 24 && (byteAt memory 0).toNat = clientId.length + 3 then
    .pingreqWithId clientId
  else .ignored

def ofDisconnect (memory : List UInt8) : Request :=
  if byteAt memory 0 = 2 then .disconnect
  else if byteAt memory 0 = 4 then .disconnectWithDuration (halfwordAt memory 2)
  else .ignored

def ofRegister (memory : List UInt8) : Request :=
  let topicName := stringAt memory 6
  if 6 < byteAt memory 0 && halfwordAt memory 2 = 0 && (byteAt memory 0).toNat = 6 + topicName.length + 1 then
    .register (halfwordAt memory 4) topicName
  else .ignored

def ofSubscribe (memory : List UInt8) : Request :=
  let flags := byteAt memory 2
  if 3 < byteAt memory 0 then
    if Flag.qos flags = -1 then .ignored
    else if Gateway.shortTopicOrPredefined flags && byteAt memory 0 = 7 then
      .subscribe (halfwordAt memory 6) (halfwordAt memory 4) (Flag.any flags Flag.topicShortName)
        (UInt8.ofInt (Flag.qos flags))
    else if 6 < byteAt memory 0 then
      .subscribeByName (stringAt memory 6) (halfwordAt memory 4) (UInt8.ofInt (Flag.qos flags))
    else .ignored
  else .ignored

def ofUnsubscribe (memory : List UInt8) : Request :=
  let flags := byteAt memory 2
  if 3 < byteAt memory 0 then
    if Gateway.shortTopicOrPredefined flags && byteAt memory 0 = 7 then
      .unsubscribe (halfwordAt memory 6) (halfwordAt memory 4) (Flag.any flags Flag.topicShortName)
    else if 6 < byteAt memory 0 then .unsubscribeByName (stringAt memory 6) (halfwordAt memory 4)
    else .ignored
  else .ignored

def ofPublish (memory : List UInt8) : Request :=
  let flags := byteAt memory 2
  let qos := Flag.qos flags
  if 7 < byteAt memory 0 then
    if (qos = 0 || qos = -1) && halfwordAt memory 6 ≠ 0 then .ignored
    else
      .publish (bytesAt memory 8 ((byteAt memory 0).toNat - 7)) (halfwordAt memory 6) (halfwordAt memory 4)
        (Flag.any flags Flag.topicShortName) (Flag.any flags Flag.retain) qos
        (!Flag.any flags Flag.topicShortName && !Flag.any flags 1)
  else .ignored

def ofMemory (memory : List UInt8) : Request :=
  if byteAt memory 0 < 2 then .ignored
  else match MessageType.ofCode? (byteAt memory 1) with
    | some .pingreq => ofPingreq memory
    | some .connect => ofConnect memory
    | some .willtopic => ofWilltopic memory
    | some .willmsg => if 2 < byteAt memory 0 then .willmsg (bytesAt memory 2 (byteAt memory 0 - 2).toNat) else .ignored
    | some .register => ofRegister memory
    | some .regack =>
      if byteAt memory 0 = 7 then .regack (halfwordAt memory 2) (halfwordAt memory 4) (byteAt memory 6) else .ignored
    | some .publish => ofPublish memory
    | some .puback =>
      if byteAt memory 0 = 7 then .puback (halfwordAt memory 2) (halfwordAt memory 4) (byteAt memory 6) else .ignored
    | some .pubrel => .pubrel
    | some .subscribe => ofSubscribe memory
    | some .unsubscribe => ofUnsubscribe memory
    | some .disconnect => ofDisconnect memory
    | _ => .ignored

end Request

namespace Gateway

variable (mqtt : MqttMessageHandler)

/-- The handler that a request reaches. PUBREL has none. -/
def handle (g : Gateway) (address : DeviceAddress) : Request → Option Gateway
  | .connect clientId duration will cleanSession =>
    handleConnect mqtt g address clientId duration will cleanSession
  | .willtopic willTopic retain qos => some (g.handleWilltopic address willTopic retain qos)
  | .willmsg willMsg => some (g.handleWillmsg address willMsg)
  | .register msgId topicName => some (g.handleRegister address msgId topicName)
  | .regack topicId msgId returnCode => some (g.handleRegack address topicId msgId returnCode)
  | .publish data msgId topicId shortTopic retain qos twice =>
    let g := if twice then handlePublish mqtt g address data msgId topicId shortTopic retain qos else g
    some (handlePublish mqtt g address data msgId topicId shortTopic retain qos)
  | .puback topicId msgId returnCode => some (g.handlePuback address topicId msgId returnCode)
  | .pubrel => some g
  | .subscribe topicId msgId shortTopic qos => some (handleSubscribe mqtt g address topicId msgId shortTopic qos)
  | .subscribeByName topicName msgId qos => some (handleSubscribeByName mqtt g address topicName msgId qos)
  | .unsubscribe topicId msgId shortTopic => some (handleUnsubscribe mqtt g address topicId msgId shortTopic)
  | .unsubscribeByName topicName msgId => some (handleUnsubscribeByName mqtt g address topicName msgId)
  | .pingreq => some (g.handlePingreq address)
  | .pingreqWithId clientId => some (g.handlePingreqWithId address clientId)
  | .disconnect => some (g.handleDisconnect address)
  | .disconnectWithDuration duration => some (g.handleDisconnectWithDuration address duration)
  | .ignored => some g

/-- `receiveData` parses a datagram and hands the request to its handler. -/
theorem receiveData_eq {g : Gateway} {address : DeviceAddress} {memory : List UInt8} :
    receiveData mqtt g address memory = handle mqtt g address (Request.ofMemory memory) := by
  unfold receiveData Request.ofMemory
  by_cases short : byteAt memory 0 < 2
  · rw [if_pos short, if_pos short]
    rfl
  · rw [if_neg short, if_neg short]
    cases MessageType.ofCode? (byteAt memory 1) with
    | none => rfl
    | some type =>
      cases type with
      | pingreq =>
        simp only [parsePingreq, Request.ofPingreq]
        split
        · rfl
        · split <;> rfl
      | connect =>
        simp only [parseConnect, Request.ofConnect]
        split <;> rfl
      | willtopic =>
        simp only [parseWilltopic, Request.ofWilltopic]
        split <;> rfl
      | willmsg =>
        simp only [parseWillmsg]
        split <;> rfl
      | register =>
        simp only [parseRegister, Request.ofRegister]
        split <;> rfl
      | regack =>
        simp only [parseRegack]
        split <;> rfl
      | publish =>
        simp only [parsePublish, Request.ofPublish]
        split
        · split <;> rfl
        · rfl
      | puback =>
        simp only [parsePuback]
        split <;> rfl
      | subscribe =>
        simp only [parseSubscribe, Request.ofSubscribe]
        split
        · split
          · rfl
          · split
            · rfl
            · split <;> rfl
        · rfl
      | unsubscribe =>
        simp only [parseUnsubscribe, Request.ofUnsubscribe]
        split
        · split
          · rfl
          · split <;> rfl
        · rfl
      | disconnect =>
        simp only [parseDisconnect, Request.ofDisconnect]
        split
        · rfl
        · split <;> rfl
      | _ => rfl

end Gateway

end MqttSnGateway
