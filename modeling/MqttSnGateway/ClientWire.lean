import MqttSnGateway.Wire

namespace MqttSnGateway

open StructLayout

namespace Wire

/-- The constructor of CONNECT copies at most 23 bytes of the client id, whose length it keeps in a byte. -/
def clientIdLength (clientId : CString) : UInt8 :=
  if 22 < UInt8.ofNat clientId.length then 23 else UInt8.ofNat clientId.length

def connectFlags (will cleanSession : Bool) : UInt8 :=
  (if will then Flag.will else 0) ||| (if cleanSession then Flag.clean else 0)

def msgConnect (will cleanSession : Bool) (protocolId : UInt8) (duration : UInt16) (clientId : CString) : List Member :=
  messageHeader (7 + clientIdLength clientId) 0x04 ++
    [byte (connectFlags will cleanSession), byte protocolId, halfword duration,
      array 24 (clientId.bytes.take (clientIdLength clientId).toNat) 0]

/-- What an array holds that a constructor does not write: `memset(this, 0, sizeof(this))` clears as many bytes
    of the object as a pointer has, the others are what the storage of the object held. -/
def unwritten (abi : Abi) (storage : Nat → UInt8) (offset size : Nat) : Member :=
  ⟨1, (List.range size).map fun i => if offset + i < abi.pointerSize then 0 else storage (offset + i)⟩

/-- The QoS bits of the constructors that know no QoS -1. -/
def levelFlags (qos : Int) : UInt8 := if qos = 1 then Flag.qos1 else if qos = 2 then Flag.qos2 else 0

def subscribeFlags (dup : Bool) (qos : UInt8) : UInt8 := (if dup then Flag.dup else 0) ||| levelFlags qos.toNat

end Wire

/-- The messages that only a client builds, with the arguments of their constructors. -/
inductive ClientMessage where
  | willtopic (willTopic : CString) (qos : Int) (retain : Bool)
  | willmsg (data : List UInt8)
  | subscribeShorttopic (shortTopic : Bool) (topicId msgId : UInt16) (qos : UInt8) (dup : Bool)
  | subscribeTopicname (topicName : CString) (msgId : UInt16) (qos : UInt8) (dup : Bool)

namespace ClientMessage

open Wire

/-- The members of the struct. The constructors of WILLTOPIC and of SUBSCRIBE by name copy no string, the one of WILLMSG
    sets no type. -/
def members (abi : Abi) (storage : Nat → UInt8) : ClientMessage → List Member
  | .willtopic willTopic qos retain =>
    messageHeader (UInt8.ofNat (3 + willTopic.length + 1)) 0x07 ++
      [byte ((if retain then Flag.retain else 0) ||| levelFlags qos), unwritten abi storage 3 252]
  | .willmsg data =>
    messageHeader (2 + UInt8.ofNat data.length) 0 ++
      [⟨1, data ++ (unwritten abi storage (2 + data.length) (253 - data.length)).bytes⟩]
  | .subscribeShorttopic shortTopic topicId msgId qos dup =>
    messageHeader 7 0x12 ++
      [byte (subscribeFlags dup qos ||| if shortTopic then Flag.topicShortName else Flag.topicPredefinedId),
        Wire.halfword msgId, Wire.halfword topicId]
  | .subscribeTopicname topicName msgId qos dup =>
    messageHeader (UInt8.ofNat (5 + topicName.length + 1)) 0x12 ++
      [byte (subscribeFlags dup qos), Wire.halfword msgId, unwritten abi storage 6 250]

/-- The first three bytes of padding are cleared on every ABI. -/
def object (abi : Abi) (storage : Nat → UInt8) (message : ClientMessage) : List UInt8 :=
  StructLayout.object 0 (message.members abi storage)

/-- The first `length` bytes. -/
def datagram (abi : Abi) (storage : Nat → UInt8) (message : ClientMessage) : List UInt8 :=
  (message.object abi storage).take (byteAt (message.object abi storage) 0).toNat

end ClientMessage

namespace Gateway

/-- The arguments of a call of one of the two overloads of `handle_subscribe`. -/
inductive SubscribeInvocation where
  | byId (topicId msgId : UInt16) (shortTopic : Bool) (qos : UInt8) (dup : Bool)
  | byName (topicName : CString) (msgId : UInt16) (qos : UInt8) (dup : Bool)
deriving DecidableEq

def subscribeInvocation? (memory : List UInt8) : Option SubscribeInvocation :=
  let length := byteAt memory 0
  let flags := byteAt memory 2
  if 3 < length && MessageType.ofCode? (byteAt memory 1) = some .subscribe then
    if Flag.qos flags = -1 then none
    else
      let qos := UInt8.ofInt (Flag.qos flags)
      let dup := Flag.any flags Flag.dup
      if shortTopicOrPredefined flags && length = 7 then
        some (.byId (halfwordAt memory 6) (halfwordAt memory 4) (Flag.any flags Flag.topicShortName) qos dup)
      else if 6 < length then some (.byName (stringAt memory 6) (halfwordAt memory 4) qos dup)
      else none
  else none

/-- The handler ignores `dup`. -/
def invokeSubscribe (mqtt : MqttMessageHandler) (g : Gateway) (address : DeviceAddress) : SubscribeInvocation → Gateway
  | .byId topicId msgId shortTopic qos _ => handleSubscribe mqtt g address topicId msgId shortTopic qos
  | .byName topicName msgId qos _ => handleSubscribeByName mqtt g address topicName msgId qos

theorem parseSubscribe_eq {mqtt : MqttMessageHandler} {g : Gateway} {address : DeviceAddress} {memory : List UInt8}
    (type : MessageType.ofCode? (byteAt memory 1) = some .subscribe) :
    parseSubscribe mqtt g address memory =
      match subscribeInvocation? memory with
      | some invocation => invokeSubscribe mqtt g address invocation
      | none => g := by
  unfold parseSubscribe subscribeInvocation?
  simp only [type, decide_true, Bool.and_true]
  by_cases long : 3 < byteAt memory 0
  · simp only [long, decide_true, if_true]
    split
    · rfl
    · split
      · rfl
      · split <;> rfl
  · simp only [long, decide_false, Bool.false_eq_true, if_false]

end Gateway

end MqttSnGateway
