import MqttSnGateway.Lib.RecordFile
import MqttSnGateway.Messages

namespace MqttSnGateway

/-- `entry_client`: one slot of the registry file CLIENTS. -/
structure EntryClient where
  clientId : CString
  fileNumber : CString
  clientAddress : DeviceAddress
  clientStatus : ClientStatus
  duration : UInt32
  timeout : UInt32
  awaitMessageId : UInt16
  awaitMessage : MessageType
deriving DecidableEq

/-- A slot of zero bytes, as `delete_client` leaves it. -/
def EntryClient.zero : EntryClient where
  clientId := .empty
  fileNumber := .empty
  clientAddress := .zero
  clientStatus := .empty
  duration := 0
  timeout := 0
  awaitMessageId := 0
  awaitMessage := .advertise

structure EntryMqttSubscription where
  clientSubscriptionCount : UInt32
  topicName : CString
deriving DecidableEq

def EntryMqttSubscription.zero : EntryMqttSubscription := ⟨0, .empty⟩

/-- The record test of the scans: no count and no name. -/
def EntryMqttSubscription.isEmpty (entry : EntryMqttSubscription) : Bool :=
  entry.clientSubscriptionCount = 0 && entry.topicName.length = 0

structure EntrySubscription where
  topicId : UInt16
  qos : UInt8
  topicName : CString
deriving DecidableEq

def EntrySubscription.zero : EntrySubscription := ⟨0, 0, .empty⟩

def EntrySubscription.isEmpty (entry : EntrySubscription) : Bool :=
  entry.topicId = 0 && entry.topicName.length = 0

structure EntryRegistration where
  topicId : UInt16
  topicName : CString
  known : Bool
deriving DecidableEq

def EntryRegistration.zero : EntryRegistration := ⟨0, .empty, false⟩

def EntryRegistration.isEmpty (entry : EntryRegistration) : Bool :=
  entry.topicId = 0 && entry.topicName.length = 0

/-- `msg` holds the bytes of `uint8_t msg[255]` that were written; the rest of the array is zero. -/
structure EntryPublish where
  msg : List UInt8
  msgLength : UInt8
  topicId : UInt16
  qos : UInt8
  retain : Bool
  dup : Bool
  msgId : UInt16
  publishId : UInt16
  retransmitionTimeout : UInt32
deriving DecidableEq

def EntryPublish.zero : EntryPublish := ⟨[], 0, 0, 0, false, false, 0, 0, 0⟩

def EntryPublish.isEmpty (entry : EntryPublish) : Bool := entry.publishId = 0

def EntryPublish.payload (entry : EntryPublish) : List UInt8 := entry.msg.take entry.msgLength.toNat

/-- `sizeof(entry_publish)` where `uint32_t` is aligned to four bytes. -/
def EntryPublish.size : Nat := 272

/-- Two zero bytes written at an even byte offset of a record: `msg` ends at 255, then come
    `msg_length`, `topic_id` (256), `qos`, `retain`, `dup` (260), `msg_id` (262), `publish_id` (264)
    and, behind two bytes of padding, `retransmition_timeout` (268). -/
def EntryPublish.zeroHalfword (entry : EntryPublish) (offset : Nat) : EntryPublish :=
  if offset < 254 then { entry with msg := (entry.msg.set offset 0).set (offset + 1) 0 }
  else if offset = 254 then { entry with msg := entry.msg.set 254 0, msgLength := 0 }
  else if offset = 256 then { entry with topicId := 0 }
  else if offset = 258 then { entry with qos := 0, retain := false }
  else if offset = 260 then { entry with dup := false }
  else if offset = 262 then { entry with msgId := 0 }
  else if offset = 264 then { entry with publishId := 0 }
  else if offset = 266 then entry
  else if offset = 268 then
    { entry with retransmitionTimeout := entry.retransmitionTimeout &&& 0xffff0000 }
  else { entry with retransmitionTimeout := entry.retransmitionTimeout &&& 0x0000ffff }

structure EntryWill where
  willtopic : CString
  willmsg : List UInt8
  willmsgLength : UInt8
  qos : UInt8
  retain : Bool
deriving DecidableEq

def EntryWill.zero : EntryWill := ⟨.empty, [], 0, 0, false⟩

def EntryWill.payload (entry : EntryWill) : List UInt8 := entry.willmsg.take entry.willmsgLength.toNat

/-- The four files of one file number: `.REG`, `.SUB`, `.WIL` and `.PUB`, with the number of records that were
    written behind each of the three tables when it was full. -/
structure ClientFiles where
  reg : List EntryRegistration
  sub : List EntrySubscription
  wil : Option EntryWill
  pub : List EntryPublish
  regBehind : Nat
  subBehind : Nat
  pubBehind : Nat
deriving DecidableEq

/-- Files that do not exist yet: every `SD.open` creates an empty one. -/
def ClientFiles.none : ClientFiles := ⟨[], [], .none, [], 0, 0, 0⟩

/-- The messages a `.PUB` file holds: its records that are not empty. -/
def queue (pub : List EntryPublish) : List EntryPublish := pub.filter fun entry => !entry.isEmpty

def subscriptions (sub : List EntrySubscription) : List EntrySubscription :=
  sub.filter fun entry => entry.topicId != 0

/-- `add_client` prints a slot number with `%08d`. -/
def fileNumber (slot : Nat) : CString := .padded 8 slot

theorem atoi_fileNumber {slot : Nat} (fits : slot < 10 ^ 8) : (fileNumber slot).atoi = slot :=
  CString.atoi_padded 8 slot fits

theorem fileNumber_inj {m n : Nat} (hm : m < 10 ^ 8) (hn : n < 10 ^ 8)
    (same : fileNumber m = fileNumber n) : m = n :=
  CString.padded_inj hm hn same

theorem fileNumber_ne_empty {slot : Nat} : fileNumber slot ≠ .empty :=
  CString.padded_ne_empty (by decide)

end MqttSnGateway
