import MqttSnGateway.Lib.CString

namespace MqttSnGateway

/-- `device_address`: six bytes; UDP packs the IPv4 address and the port into them. -/
structure DeviceAddress where
  b0 : UInt8
  b1 : UInt8
  b2 : UInt8
  b3 : UInt8
  b4 : UInt8
  b5 : UInt8
deriving DecidableEq

namespace DeviceAddress

def zero : DeviceAddress := ⟨0, 0, 0, 0, 0, 0⟩

end DeviceAddress

inductive ClientStatus where
  | empty
  | active
  | asleep
  | awake
  | disconnected
  | lost
deriving DecidableEq

/-- Statuses in which a client takes part in the protocol. -/
def ClientStatus.connected : ClientStatus → Bool
  | .active | .asleep | .awake => true
  | .empty | .disconnected | .lost => false

theorem ClientStatus.ne_empty_of_connected {status : ClientStatus} (connected : status.connected = true) :
    status ≠ .empty := by
  intro empty
  rw [empty] at connected
  cases connected

inductive CoreResult where
  | success
  | zero
  | clientNonexistence
  | clientSubscriptionFull
  | topicIdNonexistence
  | full
  | morePublishesAvailable
  | tooMuchData
deriving DecidableEq

def CoreResult.code : CoreResult → Int
  | .success => 1
  | .zero => 0
  | .clientNonexistence => -1
  | .clientSubscriptionFull => -2
  | .topicIdNonexistence => -3
  | .full => -4
  | .morePublishesAvailable => -5
  | .tooMuchData => -6

/-- `result == X` for a `uint8_t` result: both sides are promoted to `int`. -/
def CoreResult.is (result : UInt8) (expected : CoreResult) : Bool := (result.toNat : Int) = expected.code

inductive MessageType where
  | advertise
  | searchgw
  | gwinfo
  | connect
  | connack
  | willtopicreq
  | willtopic
  | willmsgreq
  | willmsg
  | register
  | regack
  | publish
  | puback
  | pubcomp
  | pubrec
  | pubrel
  | subscribe
  | suback
  | unsubscribe
  | unsuback
  | pingreq
  | pingresp
  | disconnect
  | willtopicupd
  | willtopicresp
  | willmsgupd
  | willmsgresp
deriving DecidableEq

def MessageType.ofCode? (code : UInt8) : Option MessageType :=
  match code.toNat with
  | 0x00 => some .advertise
  | 0x01 => some .searchgw
  | 0x02 => some .gwinfo
  | 0x04 => some .connect
  | 0x05 => some .connack
  | 0x06 => some .willtopicreq
  | 0x07 => some .willtopic
  | 0x08 => some .willmsgreq
  | 0x09 => some .willmsg
  | 0x0a => some .register
  | 0x0b => some .regack
  | 0x0c => some .publish
  | 0x0d => some .puback
  | 0x0e => some .pubcomp
  | 0x0f => some .pubrec
  | 0x10 => some .pubrel
  | 0x12 => some .subscribe
  | 0x13 => some .suback
  | 0x14 => some .unsubscribe
  | 0x15 => some .unsuback
  | 0x16 => some .pingreq
  | 0x17 => some .pingresp
  | 0x18 => some .disconnect
  | 0x1a => some .willtopicupd
  | 0x1b => some .willtopicresp
  | 0x1c => some .willmsgupd
  | 0x1d => some .willmsgresp
  | _ => none

namespace ReturnCode

def accepted : UInt8 := 0x00
def rejectedCongestion : UInt8 := 0x01
def rejectedInvalidTopicId : UInt8 := 0x02
def rejectedNotSupported : UInt8 := 0x03

end ReturnCode

namespace Flag

def dup : UInt8 := 0x80
def qos1 : UInt8 := 0x20
def qos2 : UInt8 := 0x40
def qosM1 : UInt8 := 0x60
def retain : UInt8 := 0x10
def will : UInt8 := 0x08
def clean : UInt8 := 0x04
def topicPredefinedId : UInt8 := 0x01
def topicShortName : UInt8 := 0x02

def any (flags mask : UInt8) : Bool := flags &&& mask != 0

/-- The QoS that the parsers of WILLTOPIC, PUBLISH and SUBSCRIBE read from the flags. -/
def qos (flags : UInt8) : Int :=
  if flags &&& qosM1 = qosM1 then -1
  else if flags &&& qos2 = qos2 then 2
  else if flags &&& qos1 = qos1 then 1
  else 0

end Flag

/-- What the gateway hands to the socket, field by field. -/
inductive SnMessage where
  | connack (returnCode : UInt8)
  | willtopicreq
  | willmsgreq
  | regack (topicId msgId : UInt16) (returnCode : UInt8)
  | register (topicId msgId : UInt16) (topicName : CString)
  | publish (data : List UInt8) (msgId topicId : UInt16) (shortTopic retain : Bool) (qos : UInt8) (dup : Bool)
  | puback (topicId msgId : UInt16) (returnCode : UInt8)
  | pubrec (msgId : UInt16)
  | suback (qos : UInt8) (topicId msgId : UInt16) (returnCode : UInt8)
  | unsuback (msgId : UInt16)
  | pingresp
  | disconnect
  | disconnectDuration (duration : UInt16)
deriving DecidableEq

end MqttSnGateway
