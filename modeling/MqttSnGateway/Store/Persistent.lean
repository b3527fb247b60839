import MqttSnGateway.Store.FileSystem
import Mathlib.Logic.Function.Basic

namespace MqttSnGateway

/-- What TOPICS.PRE says: the name `get_predefined_topic_name` finds for an id. Names that do not fit
    into 255 bytes with their terminator are skipped. -/
structure TopicsPre where
  lookup : UInt16 → Option CString
  short : ∀ id name, lookup id = some name → name.length < 255

/-- The files of the store. `mqttSubBehind` counts the records that were written behind a full MQTT.SUB, `overruns` the
    counts whose text did not fit into the `char[6]` that the debug output prints it to. -/
structure Store where
  clients : List EntryClient
  mqttSub : List EntryMqttSubscription
  mqttSubBehind : Nat
  overruns : Nat
  files : CString → ClientFiles

/-- `SDPersistentImpl`: the store and the members a transaction works with. -/
structure Persistent where
  store : Store
  topicsPre : TopicsPre
  sd : SDLinuxFake
  entryClient : EntryClient
  notInClientRegistry : Bool
  transactionStarted : Bool
  error : Bool
  isMqttsnOnline : Bool
  isMqttOnline : Bool

def Store.empty : Store := ⟨[], [], 0, 0, fun _ => .none⟩

/-- No record was written behind a table of these files. -/
def ClientFiles.Intact (files : ClientFiles) : Prop := files.regBehind = 0 ∧ files.subBehind = 0 ∧ files.pubBehind = 0

instance (files : ClientFiles) : Decidable files.Intact := inferInstanceAs (Decidable (_ ∧ _ ∧ _))

/-- No record was written behind a full table and no count overran its text: the lists are the files still. The files
    without a number belong to revived slots. -/
def Store.Intact (s : Store) : Prop :=
  s.mqttSubBehind = 0 ∧ s.overruns = 0 ∧ (s.files .empty).Intact ∧ ∀ n < s.clients.length, (s.files (fileNumber n)).Intact

instance (s : Store) : Decidable s.Intact := inferInstanceAs (Decidable (_ ∧ _ ∧ _ ∧ _))

namespace Store

def writeSlot (s : Store) (slot : Nat) (entry : EntryClient) : Store :=
  { s with clients := RecordFile.put .zero s.clients slot entry }

def modifyFiles (s : Store) (number : CString) (f : ClientFiles → ClientFiles) : Store :=
  { s with files := Function.update s.files number (f (s.files number)) }

def slotOfAddress (s : Store) (address : DeviceAddress) : Option Nat :=
  s.clients.findIdx? fun entry => entry.clientId.length < 24 && entry.clientAddress = address

def slotOfId (s : Store) (clientId : CString) : Option Nat :=
  s.clients.findIdx? fun entry => entry.clientId.length < 24 && entry.clientId = clientId

/-- `get_nth_client`: past the end of the registry it delivers a slot of zero bytes. -/
def nthClient (s : Store) (n : Nat) : EntryClient := s.clients.getD n .zero

/-- `get_last_client_address` leaves the caller's address as it is when it finds no client. -/
def lastClientAddress (s : Store) (preset : DeviceAddress) : DeviceAddress :=
  match s.clients.reverse.find? fun entry => entry.clientStatus ≠ .empty with
  | some entry => entry.clientAddress
  | none => preset

/-- `find_empty_entry_space_in_registry`; its record counter has 16 bits. -/
def findEmptyEntrySpace (s : Store) : Nat :=
  match s.clients.findIdx? fun entry => entry.clientId.length = 0 with
  | some slot => slot % 65536
  | none => s.clients.length % 65536

end Store

namespace Persistent

section Transactions

/-- The guard of most operations: a transaction is open, no error is pending and a client was found. -/
def ready (p : Persistent) : Bool := p.transactionStarted && !p.error && !p.notInClientRegistry

def files (p : Persistent) : ClientFiles := p.store.files p.entryClient.fileNumber

def modifyFiles (p : Persistent) (f : ClientFiles → ClientFiles) : Persistent :=
  { p with store := p.store.modifyFiles p.entryClient.fileNumber f }

def startClientTransactionById (p : Persistent) (clientId : CString) : Persistent :=
  if p.transactionStarted then { p with error := true }
  else if 24 ≤ clientId.length then { p with error := true }
  else match p.store.slotOfId clientId with
    | some slot =>
      { p with
        transactionStarted := true, error := false, notInClientRegistry := false
        entryClient := p.store.nthClient slot }
    | none =>
      { p with transactionStarted := true, error := false, notInClientRegistry := true, entryClient := .zero }

def startClientTransaction (p : Persistent) (address : DeviceAddress) : Persistent :=
  if p.transactionStarted then { p with error := true }
  else match p.store.slotOfAddress address with
    | some slot =>
      { p with
        transactionStarted := true, error := false, notInClientRegistry := false
        entryClient := p.store.nthClient slot }
    | none =>
      { p with transactionStarted := true, error := false, notInClientRegistry := true, entryClient := .zero }

/-- `apply_transaction` returns 1, 0 or -1 as a `uint8_t`. -/
def applyTransaction (p : Persistent) : UInt8 × Persistent :=
  let result : UInt8 :=
    if p.transactionStarted then
      if p.error then 0 else if p.notInClientRegistry then 255 else 1
    else 0
  (result, { p with error := false, transactionStarted := false, notInClientRegistry := false })

def clientExist (p : Persistent) : Bool :=
  if !p.transactionStarted || p.error then false else !p.notInClientRegistry

end Transactions

section Registry

/-- `parse_file_number_to_int`, the slot the setters write to. -/
def clientPosition (p : Persistent) : Nat := p.entryClient.fileNumber.atoi.toNat

/-- Change the entry of the transaction and write it back to the slot its file number names. -/
def updateEntry (p : Persistent) (f : EntryClient → EntryClient) : Persistent :=
  if p.ready then
    { p with
      entryClient := f p.entryClient
      store := p.store.writeSlot p.clientPosition (f p.entryClient) }
  else p

def setClientState (p : Persistent) (status : ClientStatus) : Persistent :=
  p.updateEntry fun entry => { entry with clientStatus := status }

def setTimeout (p : Persistent) (timeout : UInt32) : Persistent :=
  p.updateEntry fun entry => { entry with timeout := timeout }

def setClientAwaitMessage (p : Persistent) (type : MessageType) : Persistent :=
  p.updateEntry fun entry => { entry with awaitMessage := type }

/-- `_entry_client.await_message_id == msg_id;` compares and drops the result, then the entry is saved. -/
def setClientAwaitMsgId (p : Persistent) (_msgId : UInt16) : Persistent :=
  p.updateEntry fun entry => entry

/-- `set_client_duration` has an empty body. -/
def setClientDuration (p : Persistent) (_duration : UInt32) : Persistent := p

def getClientStatus (p : Persistent) : ClientStatus :=
  if p.ready then p.entryClient.clientStatus else .lost

def getClientAwaitMessageType (p : Persistent) : MessageType :=
  if p.ready then p.entryClient.awaitMessage else .pingreq

def getClientAwaitMsgId (p : Persistent) : UInt16 :=
  if p.ready then p.entryClient.awaitMessageId else 0

def resetClient (p : Persistent) (clientId : CString) (address : DeviceAddress) (duration : UInt32) : Persistent :=
  if !p.transactionStarted || p.error then p
  else if p.notInClientRegistry then p
  else if 24 ≤ clientId.length then { p with error := true }
  else if p.entryClient.clientId ≠ clientId then { p with error := true }
  else match p.store.slotOfId clientId with
    | some slot =>
      let entry : EntryClient :=
        { p.store.nthClient slot with
          clientId := clientId, clientStatus := .active, clientAddress := address
          duration := duration, timeout := 0, awaitMessageId := 0, awaitMessage := .pingreq }
      { p with entryClient := entry, store := p.store.writeSlot slot entry, notInClientRegistry := false }
    | none => { p with error := true, notInClientRegistry := true, entryClient := .zero }

def addClient (p : Persistent) (clientId : CString) (address : DeviceAddress) (duration : UInt32) : Persistent :=
  if !p.transactionStarted then p
  else if p.error then p
  else if !p.notInClientRegistry then { p with error := true }
  else if 24 ≤ clientId.length then { p with error := true }
  else
    let emptySpace := p.store.findEmptyEntrySpace
    let entry : EntryClient :=
      { clientId := clientId, fileNumber := fileNumber emptySpace, clientAddress := address
        clientStatus := .active, duration := duration, timeout := 0
        awaitMessageId := 0, awaitMessage := .pingreq }
    { p with entryClient := entry, store := p.store.writeSlot emptySpace entry, notInClientRegistry := false }

end Registry

section Subscriptions

def validName (topicName : Option CString) : Option CString :=
  topicName.filter fun name => name.length ≠ 0 && name.length < 255

def isSubscriptionTo (topicName : CString) (entry : EntrySubscription) : Bool :=
  entry.topicName.length < 255 && entry.topicName = topicName

def isSubscribed (p : Persistent) (topicName : Option CString) : Bool :=
  if p.ready then
    match validName topicName with
    | some name => p.files.sub.any (isSubscriptionTo name)
    | none => false
  else false

/-- A new record in the free space of a `.SUB` file. -/
def appendSubscription (files : ClientFiles) (entry : EntrySubscription) : ClientFiles :=
  let firstEmptySpace := RecordFile.freeSpace EntrySubscription.isEmpty files.sub
  { files with
    sub := RecordFile.putAt .zero files.sub firstEmptySpace entry
    subBehind := files.subBehind + RecordFile.behind firstEmptySpace }

def addSubscription (p : Persistent) (topicName : CString) (topicId : UInt16) (qos : UInt8) : Persistent :=
  if p.ready then
    match validName (some topicName) with
    | some name =>
      if topicId = 0 then p
      else if p.files.sub.any fun entry => entry.topicId = topicId && isSubscriptionTo name entry then p
      else p.modifyFiles fun files => appendSubscription files ⟨topicId, qos, name⟩
    | none => p
  else p

/-- Neither this function nor the two below checks that the client is in the registry. -/
def deleteSubscription (p : Persistent) (topicId : UInt16) : Persistent :=
  if !p.transactionStarted || p.error then p
  else if topicId = 0 then p
  else match p.files.sub.findIdx? fun entry => entry.topicId = topicId with
    | some i => p.modifyFiles fun files => { files with sub := files.sub.set i .zero }
    | none => { p with error := true }

def getNthSubscribedTopicId (p : Persistent) (n : Nat) : UInt16 :=
  if !p.transactionStarted || p.error then 0
  else (p.files.sub.getD n .zero).topicId

/-- The name that a `.REG` file holds for a topic id. -/
def registeredName (reg : List EntryRegistration) (topicId : UInt16) : Option CString :=
  (reg.find? fun entry => entry.topicId = topicId && entry.topicName.length < 255).map (·.topicName)

def getTopicName (p : Persistent) (topicId : UInt16) : Option CString :=
  if !p.transactionStarted || p.error then none
  else if topicId = 0 then none
  else registeredName p.files.reg topicId

def getClientSubscriptionCount (p : Persistent) : Nat :=
  if p.ready then p.files.sub.countP (fun entry => entry.topicId ≠ 0) % 65536 else 0

/-- `false` is 0 on the early returns; a topic without record gives -1. -/
def getSubscriptionQos (p : Persistent) (topicName : Option CString) : UInt8 :=
  if p.ready then
    match validName topicName with
    | some name => match p.files.sub.find? (isSubscriptionTo name) with
      | some entry => entry.qos
      | none => 255
    | none => 0
  else 0

def getSubscriptionTopicId (p : Persistent) (topicName : Option CString) : UInt16 :=
  if p.ready then
    match validName topicName with
    | some name => match p.files.sub.find? (isSubscriptionTo name) with
      | some entry => entry.topicId
      | none => 0
    | none => 0
  else 0

/-- `get_topic_id` always returns 0. -/
def getTopicId (_p : Persistent) (_topicName : CString) : UInt16 := 0

end Subscriptions

section Registrations

def getPredefinedTopicName (p : Persistent) (topicId : UInt16) : Option CString :=
  if p.error then none else p.topicsPre.lookup topicId

/-- The id a `.REG` file gives to a name and the file afterwards: the id of a new registration counts the
    records and the read that met the end of the file. -/
def registerName (files : ClientFiles) (topicName : CString) : UInt16 × ClientFiles :=
  match files.reg.find? fun entry =>
      entry.topicId ≠ 0 && entry.topicName.length < 255 && entry.topicName = topicName with
  | some entry => (entry.topicId, files)
  | none =>
    let topicId := UInt16.ofNat (files.reg.length + 1)
    let firstEmptySpace := RecordFile.freeSpace EntryRegistration.isEmpty files.reg
    (topicId, { files with
      reg := RecordFile.putAt .zero files.reg firstEmptySpace ⟨topicId, topicName, true⟩
      regBehind := files.regBehind + RecordFile.behind firstEmptySpace })

/-- `newTopicId` is the caller's variable behind the out parameter. -/
def addClientRegistration (p : Persistent) (topicName : CString) (newTopicId : UInt16) : UInt16 × Persistent :=
  if !p.transactionStarted || p.error then (newTopicId, p)
  else if p.notInClientRegistry then (newTopicId, p)
  else if 255 < topicName.length then (newTopicId, { p with error := true })
  else ((registerName p.files topicName).1, p.modifyFiles fun files => (registerName files topicName).2)

/-- A topic id without registration runs off the end of the function: no result. -/
def isTopicKnown (p : Persistent) (topicId : UInt16) : Option Bool × Persistent :=
  if !p.transactionStarted || p.error then (some false, p)
  else if p.notInClientRegistry then (some false, p)
  else if topicId = 0 then (some false, { p with error := true })
  else match p.files.reg.find? fun entry => entry.topicId = topicId && entry.topicName.length < 255 with
    | some entry => (some entry.known, p)
    | none => (none, p)

/-- `set_topic_known` has an empty body. -/
def setTopicKnown (p : Persistent) (_topicId : UInt16) (_known : Bool) : Persistent := p

end Registrations

section GlobalCounts

def isCountOf (topicName : CString) (entry : EntryMqttSubscription) : Bool :=
  entry.clientSubscriptionCount ≠ 0 && entry.topicName.length < 255 && entry.topicName = topicName

def incrementCount (table : List EntryMqttSubscription) (topicName : CString) : List EntryMqttSubscription :=
  match table.findIdx? (isCountOf topicName) with
  | some i => table.modify i fun entry =>
      { entry with clientSubscriptionCount := entry.clientSubscriptionCount + 1 }
  | none =>
    let firstEmptySpace := RecordFile.freeSpace EntryMqttSubscription.isEmpty table
    RecordFile.putAt .zero table firstEmptySpace ⟨1, topicName⟩

/-- The increment of a name that has no record yet writes it behind a full table. -/
def incrementBehind (table : List EntryMqttSubscription) (topicName : CString) : Nat :=
  match table.findIdx? (isCountOf topicName) with
  | some _ => 0
  | none => RecordFile.behind (RecordFile.freeSpace EntryMqttSubscription.isEmpty table)

/-- `sprintf(uint16_buf, "%d", count)` into `char uint16_buf[6]`: the text has at most five characters. -/
def printable (count : UInt32) : Bool := count < 100000 || 4294957297 ≤ count

/-- Whether an increment prints a count that does not fit. What it overwrites is not followed. A larger count, which a
    decrement or a lookup would print as well, has overrun the buffer when it came about. -/
def incrementOverrun (table : List EntryMqttSubscription) (topicName : CString) : Nat :=
  match table.find? (isCountOf topicName) with
  | some entry => if printable (entry.clientSubscriptionCount + 1) then 0 else 1
  | none => 0

def decrementCount (table : List EntryMqttSubscription) (topicName : CString) : List EntryMqttSubscription :=
  match table.findIdx? (isCountOf topicName) with
  | some i => table.modify i fun entry =>
      if entry.clientSubscriptionCount - 1 = 0 then .zero
      else { entry with clientSubscriptionCount := entry.clientSubscriptionCount - 1 }
  | none => table

def incrementGlobalSubscriptionCount (p : Persistent) (topicName : Option CString) : Persistent :=
  if p.error then p
  else match validName topicName with
    | none => p
    | some name =>
      { p with store :=
        { p.store with
          mqttSub := incrementCount p.store.mqttSub name
          mqttSubBehind := p.store.mqttSubBehind + incrementBehind p.store.mqttSub name
          overruns := p.store.overruns + incrementOverrun p.store.mqttSub name } }

def decrementGlobalSubscriptionCount (p : Persistent) (topicName : Option CString) : Persistent :=
  if p.error then p
  else match validName topicName with
    | none => p
    | some name => { p with store := { p.store with mqttSub := decrementCount p.store.mqttSub name } }

def getGlobalTopicSubscriptionCount (p : Persistent) (topicName : Option CString) : UInt32 :=
  if p.error then 0
  else match validName topicName with
    | none => 0
    | some name => match p.store.mqttSub.find? (isCountOf name) with
      | some entry => entry.clientSubscriptionCount
      | none => 0

end GlobalCounts

section Will

def hasClientWill (p : Persistent) : Bool := if p.ready then p.files.wil.isSome else false

def getClientWill (p : Persistent) : Option EntryWill := if p.ready then p.files.wil else none

def setClientWilltopic (p : Persistent) (willtopic : CString) (qos : UInt8) (retain : Bool) : Persistent :=
  if p.ready then
    if 255 ≤ willtopic.length then p
    else p.modifyFiles fun files =>
      let will := files.wil.getD .zero
      { files with wil := some { will with willtopic := willtopic, qos := qos, retain := retain } }
  else p

def setClientWillmessage (p : Persistent) (willmsg : List UInt8) : Persistent :=
  if p.ready then
    p.modifyFiles fun files =>
      let will := files.wil.getD .zero
      { files with wil := some { will with willmsg := willmsg, willmsgLength := UInt8.ofNat willmsg.length } }
  else p

/-- `SD.remove` without looking first, then `create_file`, which keeps what is there. -/
def deleteWill (p : Persistent) : Persistent :=
  if p.ready then
    p.modifyFiles fun files =>
      if p.sd.removes (filenameWithExtension p.entryClient.fileNumber .will) then files.clear .will else files
  else p

end Will

section Publishes

def hasClientPublishes (p : Persistent) : Bool :=
  if p.ready then p.files.pub.any fun entry => !entry.isEmpty else false

/-- A message in the free space of a `.PUB` file. The `dup` and `msg_id` of the caller are dropped. -/
def appendPublish (files : ClientFiles) (data : List UInt8) (topicId : UInt16) (retain : Bool) (qos : UInt8) :
    ClientFiles :=
  let firstEmptySpace := RecordFile.freeSpace EntryPublish.isEmpty files.pub
  let entry : EntryPublish :=
    { msg := data, msgLength := UInt8.ofNat data.length, topicId := topicId, qos := qos, retain := retain
      dup := false, msgId := 0, publishId := UInt16.ofInt (firstEmptySpace + 1), retransmitionTimeout := 0 }
  { files with
    pub := RecordFile.putAt .zero files.pub firstEmptySpace entry
    pubBehind := files.pubBehind + RecordFile.behind firstEmptySpace }

def addClientPublish (p : Persistent) (data : List UInt8) (topicId : UInt16) (retain : Bool) (qos : UInt8) :
    Persistent :=
  if p.ready then p.modifyFiles fun files => appendPublish files data topicId retain qos else p

/-- The last record that is not empty. -/
def getNextPublish (p : Persistent) : Option EntryPublish :=
  if p.ready then p.files.pub.reverse.find? fun entry => !entry.isEmpty else none

/-- The record with this publish id, at the position the id names; id 0 names none. -/
def publishRecord? (p : Persistent) (publishId : UInt16) : Option EntryPublish :=
  if publishId = 0 then none else p.files.pub[publishId.toNat - 1]?

def rewritePublish (p : Persistent) (publishId : UInt16) (f : EntryPublish → EntryPublish) : Persistent :=
  if p.ready then
    match p.publishRecord? publishId with
    | none => p
    | some entry =>
      if entry.publishId = publishId then
        p.modifyFiles fun files => { files with pub := files.pub.set (publishId.toNat - 1) (f entry) }
      else { p with error := true }
  else p

def setPublishMsgId (p : Persistent) (publishId msgId : UInt16) : Persistent :=
  p.rewritePublish publishId fun entry => { entry with msgId := msgId }

def removePublishByPublishId (p : Persistent) (publishId : UInt16) : Persistent :=
  p.rewritePublish publishId fun _ => .zero

/-- Two zero bytes at a byte offset of a publish file. -/
def zeroHalfwordAt (pub : List EntryPublish) (offset : Nat) : List EntryPublish :=
  pub.modify (offset / EntryPublish.size) fun entry => entry.zeroHalfword (offset % EntryPublish.size)

/-- The record with this message id is looked up, then `sizeof(buffer_size)`, the two bytes of a
    `uint16_t`, stands where `sizeof(entry_publish)` is meant, in the offset and in the length. -/
def removePublishByMsgId (p : Persistent) (msgId : UInt16) : Persistent :=
  if p.ready then
    let p := if msgId = 0 then { p with error := true } else p
    match p.files.pub.findIdx? fun entry => entry.msgId = msgId with
    | some entryNumber => p.modifyFiles fun files => { files with pub := zeroHalfwordAt files.pub (entryNumber * 2) }
    | none => p
  else p

end Publishes

section Deletion

/-- `delete_client` removes the four files, then the slot that carries the client id. -/
def deleteClient (p : Persistent) (clientId : CString) : Persistent :=
  if !p.transactionStarted || p.error then p
  else if p.notInClientRegistry then p
  else if 24 ≤ clientId.length then { p with error := true }
  else if 0 < p.getClientSubscriptionCount then { p with error := true }
  else
    let deleteFile := fun (ending : FileEnding) (p : Persistent) =>
      p.modifyFiles fun files => p.sd.deleteFile p.entryClient.fileNumber files ending
    let p := deleteFile .publish (deleteFile .will (deleteFile .subscribe (deleteFile .registration p)))
    match p.store.slotOfId clientId with
    | some slot =>
      { p with entryClient := .zero, store := p.store.writeSlot slot .zero, notInClientRegistry := true }
    | none => { p with entryClient := .zero, notInClientRegistry := true }

end Deletion

end Persistent

end MqttSnGateway
