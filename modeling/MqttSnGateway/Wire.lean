import MqttSnGateway.Lib.StructLayout
import MqttSnGateway.Handler

namespace MqttSnGateway

open StructLayout

/-- The widths of a pointer on ESP8266 and Linux; both align `uint16_t` to two bytes. -/
inductive Abi where
  | ilp32
  | lp64
deriving DecidableEq

def Abi.pointerSize : Abi → Nat
  | .ilp32 => 4
  | .lp64 => 8

namespace Wire

def byte (b : UInt8) : Member := ⟨1, [b]⟩

def halfword (w : UInt16) : Member := ⟨2, [w.toUInt8, (w >>> 8).toUInt8]⟩

/-- An array of `size` bytes of which the first are written; the others hold `garbage`. -/
def array (size : Nat) (written : List UInt8) (garbage : UInt8) : Member :=
  ⟨1, (written ++ List.replicate size garbage).take size⟩

def messageHeader (length type : UInt8) : List Member := [byte length, byte type]

def qosFlags (qos : Int) : UInt8 :=
  if qos = 1 then Flag.qos1 else if qos = 2 then Flag.qos2 else if qos = -1 then Flag.qosM1 else 0

def publishFlags (dup : Bool) (qos : Int) (retain shortTopic : Bool) : UInt8 :=
  (if dup then Flag.dup else 0) ||| (if retain then Flag.retain else 0) |||
    (if shortTopic then Flag.topicShortName else Flag.topicPredefinedId) ||| qosFlags qos

def msgPublish (dup : Bool) (qos : Int) (retain shortTopic : Bool) (topicId msgId : UInt16) (data : List UInt8)
    (garbage : UInt8) : List Member :=
  messageHeader (7 + UInt8.ofNat data.length) 0x0c ++
    [byte (publishFlags dup qos retain shortTopic), halfword topicId, halfword msgId, array 248 data garbage]

end Wire

namespace SnMessage

open Wire

/-- The members of the struct that a send function builds. A topic name that is too long for `msg_register` runs
    over the end of the object. -/
def members (garbage : UInt8) : SnMessage → List Member
  | .connack returnCode => messageHeader 3 0x05 ++ [byte returnCode]
  | .willtopicreq => messageHeader 2 0x06
  | .willmsgreq => messageHeader 2 0x08
  | .regack topicId msgId returnCode =>
    messageHeader 7 0x0b ++ [Wire.halfword topicId, Wire.halfword msgId, byte returnCode]
  | .register topicId msgId topicName =>
    messageHeader (UInt8.ofNat (6 + topicName.length + 1)) 0x0a ++
      [Wire.halfword topicId, Wire.halfword msgId, array 249 (topicName.bytes ++ [0]) garbage]
  | .publish data msgId topicId shortTopic retain qos dup =>
    msgPublish dup qos.toInt8.toInt retain shortTopic topicId msgId data garbage
  | .puback topicId msgId returnCode =>
    messageHeader 7 0x0d ++ [Wire.halfword topicId, Wire.halfword msgId, byte returnCode]
  | .pubrec msgId => messageHeader 4 0x0f ++ [Wire.halfword msgId]
  | .suback qos topicId msgId returnCode =>
    messageHeader 8 0x13 ++ [byte (qosFlags qos.toNat), Wire.halfword topicId, Wire.halfword msgId, byte returnCode]
  | .unsuback msgId => messageHeader 4 0x15 ++ [Wire.halfword msgId]
  | .pingresp => messageHeader 2 0x17
  | .disconnect => messageHeader 2 0x18
  | .disconnectDuration duration => messageHeader 4 0x18 ++ [Wire.halfword duration]

/-- Only the constructors of PUBLISH and SUBACK clear the padding, PUBLISH with `sizeof` of a pointer. -/
def padding (garbage : UInt8) : SnMessage → UInt8
  | .publish .. | .suback .. => 0
  | _ => garbage

def object (garbage : UInt8) (message : SnMessage) : List UInt8 :=
  StructLayout.object (message.padding garbage) (message.members garbage)

def lengthByte (garbage : UInt8) (message : SnMessage) : UInt8 := byteAt (message.object garbage) 0

/-- The count of bytes that a send function passes to the socket: the length byte, the size of the struct or of
    `message_header`, and for REGISTER the size of a pointer on top. -/
def bytesLen (abi : Abi) (garbage : UInt8) (message : SnMessage) : Nat :=
  match message with
  | .regack .. | .publish .. => (message.lengthByte garbage).toNat
  | .register .. => (message.object garbage).length + abi.pointerSize
  | .willtopicreq | .willmsgreq | .pingresp | .disconnect | .disconnectDuration _ => 2
  | _ => (message.object garbage).length

/-- What the socket sends. -/
def datagram (abi : Abi) (garbage : UInt8) (message : SnMessage) : List UInt8 :=
  (message.object garbage).take (message.bytesLen abi garbage)

end SnMessage

namespace Gateway

structure PublishInvocation where
  data : List UInt8
  msgId : UInt16
  topicId : UInt16
  shortTopic : Bool
  retain : Bool
  qos : Int
  dup : Bool
deriving DecidableEq

def publishInvocations (memory : List UInt8) : List PublishInvocation :=
  let length := byteAt memory 0
  let flags := byteAt memory 2
  if 7 < length && MessageType.ofCode? (byteAt memory 1) = some .publish then
    let qos := Flag.qos flags
    let shortTopic := Flag.any flags Flag.topicShortName
    let messageId := halfwordAt memory 6
    if (qos = 0 || qos = -1) && messageId ≠ 0 then []
    else
      let invocation := ⟨bytesAt memory 8 (length.toNat - 7), messageId, halfwordAt memory 4, shortTopic,
        Flag.any flags Flag.retain, qos, Flag.any flags Flag.dup⟩
      if !shortTopic && !Flag.any flags 1 then [invocation, invocation] else [invocation]
  else []

/-- The handler ignores `dup`. -/
def invokePublish (mqtt : MqttMessageHandler) (address : DeviceAddress) (g : Gateway) (invocation : PublishInvocation) :
    Gateway :=
  handlePublish mqtt g address invocation.data invocation.msgId invocation.topicId invocation.shortTopic
    invocation.retain invocation.qos

theorem parsePublish_eq {mqtt : MqttMessageHandler} {g : Gateway} {address : DeviceAddress} {memory : List UInt8}
    (type : MessageType.ofCode? (byteAt memory 1) = some .publish) :
    parsePublish mqtt g address memory = (publishInvocations memory).foldl (invokePublish mqtt address) g := by
  unfold parsePublish publishInvocations
  simp only [type, decide_true, Bool.and_true]
  by_cases long : 7 < byteAt memory 0
  · simp only [long, decide_true, if_true]
    split
    · rfl
    · split <;> rfl
  · simp only [long, decide_false, Bool.false_eq_true, if_false]
    rfl

end Gateway

end MqttSnGateway
