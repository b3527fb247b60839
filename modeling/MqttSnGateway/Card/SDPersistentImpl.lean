import MqttSnGateway.Card.Layout

namespace MqttSnGateway

open BinaryFile Persistent

/-- The bytes of the files in the root directory, by name; a file that does not exist has none. -/
abbrev Card := List UInt8 → List UInt8

/-- `FileLinuxFake`; every call opens the file again under its name. -/
structure FileLinuxFake where
  name : List UInt8
  read : Bool
  position : Nat
  closed : Bool

/-- `SDLinuxFake::open`: for reading with `FILE_READ`, which is true. -/
def SDLinuxFake.«open» (filename : List UInt8) (mode : Bool) : FileLinuxFake := ⟨filename, mode, 0, false⟩

namespace FileLinuxFake

variable {α ρ σ : Type}

/-- `read`, which does not ask whether the file was closed. -/
def readBytes (file : FileLinuxFake) (card : Card) (nbyte : Nat) : List UInt8 :=
  if file.read then BinaryFile.read (card file.name) file.position nbyte else []

/-- `write`; nothing is done at the position behind what was written. -/
def write (file : FileLinuxFake) (card : Card) (buf : List UInt8) : Card :=
  if file.closed || file.read then card
  else Function.update card file.name (BinaryFile.write (card file.name) file.position buf)

/-- `seek` takes a `uint32_t`. -/
def seek (file : FileLinuxFake) (pos : Int) : FileLinuxFake := { file with position := (pos % 4294967296).toNat }

/-- The loops `do { … read … } while (readChars > 0)`. -/
def scan (file : FileLinuxFake) (card : Card) (size : Nat) (body : List UInt8 → Nat → σ → Pass ρ σ) (state : σ) :
    ρ ⊕ σ × Nat :=
  BinaryFile.scan size body (if file.read then card file.name else []) file.position 0 state

/-- One pass of a loop that looks for a record and remembers where it has last seen another kind of record;
    `entry_number` has 16 bits. -/
def searchPass (noted wanted : α → Bool) (entry : α) (number : Nat) (space : Int) : Pass (α × Nat) Int :=
  if noted entry then .next ((number % 65536 : Nat) : Int)
  else if wanted entry then .result (entry, number % 65536)
  else .next space

/-- The loop, where no record is noted at first. If it is `strict`, it ends at a record that is cut off. -/
def search (file : FileLinuxFake) (card : Card) (size : Nat) (ofMemory : List UInt8 → α) (strict : Bool)
    (noted wanted : α → Bool) : (α × Nat) ⊕ (Int × Nat) :=
  file.scan card size (fun memory number space =>
    if memory.length = size then searchPass noted wanted (ofMemory memory) number space
    else if strict && memory.length ≠ 0 then .leave space
    else .next space) (-1)

/-- `first_empty_space`: where nothing was noted, the place behind the records that were read. -/
def firstEmptySpace (ended : Int × Nat) : Int :=
  if ended.1 = -1 then ((ended.2 % 65536 : Nat) : Int) - 1 else ended.1

end FileLinuxFake

/-- `SDPersistentImpl` with its files as they are on the card. -/
structure SDPersistentImpl where
  card : Card
  sd : SDLinuxFake
  entryClient : EntryClient
  notInClientRegistry : Bool
  transactionStarted : Bool
  error : Bool

namespace SDPersistentImpl

def clientRegistry : List UInt8 := [67, 76, 73, 69, 78, 84, 83]

def mqttSub : List UInt8 := [77, 81, 84, 84, 46, 83, 85, 66]

def ready (p : SDPersistentImpl) : Bool := p.transactionStarted && !p.error && !p.notInClientRegistry

def filename (p : SDPersistentImpl) (ending : FileEnding) : List UInt8 :=
  filenameWithExtension p.entryClient.fileNumber ending

def openRead (p : SDPersistentImpl) (ending : FileEnding) : FileLinuxFake := SDLinuxFake.open (p.filename ending) true

/-- One record, or a part of one, written at a position. -/
def save (p : SDPersistentImpl) (filename : List UInt8) (position : Int) (buf : List UInt8) : SDPersistentImpl :=
  { p with card := ((SDLinuxFake.open filename false).seek position).write p.card buf }

section Members

def clientExist (p : SDPersistentImpl) : Bool := if !p.transactionStarted || p.error then false else !p.notInClientRegistry

def getClientStatus (p : SDPersistentImpl) : ClientStatus := if p.ready then p.entryClient.clientStatus else .lost

def getClientAwaitMessageType (p : SDPersistentImpl) : MessageType :=
  if p.ready then p.entryClient.awaitMessage else .pingreq

def getClientAwaitMsgId (p : SDPersistentImpl) : UInt16 := if p.ready then p.entryClient.awaitMessageId else 0

end Members

section Registry

/-- One pass of the loops that stop at a client; `line_number` has 32 bits. -/
def clientPass (wanted : EntryClient → Bool) (entry : EntryClient) (number : Nat) (_ : Unit) :
    Pass (EntryClient × Nat) Unit :=
  if entry.clientId.length < 24 && wanted entry then .result (entry, number % 4294967296) else .next ()

def searchClient (p : SDPersistentImpl) (wanted : EntryClient → Bool) : Option (EntryClient × Nat) :=
  ((SDLinuxFake.open clientRegistry true).scan p.card EntryClient.codec.size (fun memory number state =>
    if memory.length = EntryClient.codec.size then clientPass wanted (EntryClient.ofMemory memory) number state
    else .next state) ()).getLeft?

def startClientTransactionById (p : SDPersistentImpl) (clientId : CString) : SDPersistentImpl :=
  if p.transactionStarted then { p with error := true }
  else if 24 ≤ clientId.length then { p with error := true }
  else match p.searchClient fun entry => entry.clientId = clientId with
    | some (entry, _) =>
      { p with transactionStarted := true, error := false, notInClientRegistry := false, entryClient := entry }
    | none => { p with transactionStarted := true, error := false, notInClientRegistry := true, entryClient := .zero }

def startClientTransaction (p : SDPersistentImpl) (address : DeviceAddress) : SDPersistentImpl :=
  if p.transactionStarted then { p with error := true }
  else match p.searchClient fun entry => entry.clientAddress = address with
    | some (entry, _) =>
      { p with transactionStarted := true, error := false, notInClientRegistry := false, entryClient := entry }
    | none => { p with transactionStarted := true, error := false, notInClientRegistry := true, entryClient := .zero }

def applyTransaction (p : SDPersistentImpl) : UInt8 × SDPersistentImpl :=
  let result : UInt8 :=
    if p.transactionStarted then
      if p.error then 0 else if p.notInClientRegistry then 255 else 1
    else 0
  (result, { p with error := false, transactionStarted := false, notInClientRegistry := false })

def saveClient (p : SDPersistentImpl) (line : Int) (entry : EntryClient) : SDPersistentImpl :=
  p.save clientRegistry (line * EntryClient.codec.size) (EntryClient.codec.encode entry)

def resetClient (p : SDPersistentImpl) (clientId : CString) (address : DeviceAddress) (duration : UInt32) :
    SDPersistentImpl :=
  if !p.transactionStarted || p.error then p
  else if p.notInClientRegistry then p
  else if 24 ≤ clientId.length then { p with error := true }
  else if p.entryClient.clientId ≠ clientId then { p with error := true }
  else match p.searchClient fun entry => entry.clientId = clientId with
    | some (entry, lineNumber) =>
      let entry : EntryClient :=
        { entry with
          clientId := clientId, clientStatus := .active, clientAddress := address
          duration := duration, timeout := 0, awaitMessageId := 0, awaitMessage := .pingreq }
      { p.saveClient lineNumber entry with entryClient := entry, notInClientRegistry := false }
    | none => { p with error := true, notInClientRegistry := true, entryClient := .zero }

def emptyPass (entry : EntryClient) (number : Nat) (_ : Unit) : Pass Nat Unit :=
  if entry.clientId.length = 0 then .result number else .next ()

/-- The loop leaves at the end of the file before it counts the pass; `entry_number` has 16 bits. -/
def findEmptyEntrySpaceInRegistry (p : SDPersistentImpl) : Nat :=
  match (SDLinuxFake.open clientRegistry true).scan p.card EntryClient.codec.size (fun memory number state =>
    if memory.length = 0 then .leave state else emptyPass (EntryClient.ofMemory memory) number state) () with
  | .inl number => number % 65536
  | .inr (_, number) => number % 65536

/-- `create_file` keeps what a file holds. -/
def addClient (p : SDPersistentImpl) (clientId : CString) (address : DeviceAddress) (duration : UInt32) :
    SDPersistentImpl :=
  if !p.transactionStarted then p
  else if p.error then p
  else if !p.notInClientRegistry then { p with error := true }
  else if 24 ≤ clientId.length then { p with error := true }
  else
    let emptySpace := p.findEmptyEntrySpaceInRegistry
    let entry : EntryClient :=
      { clientId := clientId, fileNumber := fileNumber emptySpace, clientAddress := address
        clientStatus := .active, duration := duration, timeout := 0
        awaitMessageId := 0, awaitMessage := .pingreq }
    { p.saveClient emptySpace entry with entryClient := entry, notInClientRegistry := false }

/-- The setters write the entry of the transaction to the line that its file number names. -/
def updateEntry (p : SDPersistentImpl) (f : EntryClient → EntryClient) : SDPersistentImpl :=
  if p.ready then { p.saveClient p.entryClient.fileNumber.atoi (f p.entryClient) with entryClient := f p.entryClient }
  else p

def setClientState (p : SDPersistentImpl) (status : ClientStatus) : SDPersistentImpl :=
  p.updateEntry fun entry => { entry with clientStatus := status }

def setTimeout (p : SDPersistentImpl) (timeout : UInt32) : SDPersistentImpl :=
  p.updateEntry fun entry => { entry with timeout := timeout }

def setClientAwaitMessage (p : SDPersistentImpl) (type : MessageType) : SDPersistentImpl :=
  p.updateEntry fun entry => { entry with awaitMessage := type }

def setClientAwaitMsgId (p : SDPersistentImpl) (_msgId : UInt16) : SDPersistentImpl := p.updateEntry fun entry => entry

def addressPass (entry : EntryClient) (_ : Nat) (target : DeviceAddress) : Pass Unit DeviceAddress :=
  .next (if entry.clientStatus ≠ .empty then entry.clientAddress else target)

def getLastClientAddress (p : SDPersistentImpl) (preset : DeviceAddress) : DeviceAddress :=
  match (SDLinuxFake.open clientRegistry true).scan p.card EntryClient.codec.size (fun memory number target =>
    if memory.length = EntryClient.codec.size then addressPass (EntryClient.ofMemory memory) number target
    else .next target) preset with
  | .inl _ => preset
  | .inr (target, _) => target

def getNthClient (p : SDPersistentImpl) (n : Nat) : EntryClient :=
  EntryClient.ofMemory (((SDLinuxFake.open clientRegistry true).seek (n * EntryClient.codec.size)).readBytes p.card
    EntryClient.codec.size)

end Registry

section Subscriptions

def searchSubscription (p : SDPersistentImpl) (noted wanted : EntrySubscription → Bool) :
    (EntrySubscription × Nat) ⊕ (Int × Nat) :=
  (p.openRead .subscribe).search p.card EntrySubscription.codec.size EntrySubscription.ofMemory false noted wanted

def isSubscribed (p : SDPersistentImpl) (topicName : Option CString) : Bool :=
  if p.ready then
    match validName topicName with
    | some name => (p.searchSubscription (fun _ => false) (isSubscriptionTo name)).isLeft
    | none => false
  else false

def addSubscription (p : SDPersistentImpl) (topicName : CString) (topicId : UInt16) (qos : UInt8) : SDPersistentImpl :=
  if p.ready then
    match validName (some topicName) with
    | some name =>
      if topicId = 0 then p
      else match p.searchSubscription EntrySubscription.isEmpty fun entry =>
          entry.topicId = topicId && isSubscriptionTo name entry with
        | .inl _ => p
        | .inr ended =>
          p.save (p.filename .subscribe) (FileLinuxFake.firstEmptySpace ended * EntrySubscription.codec.size)
            (EntrySubscription.codec.encode ⟨topicId, qos, name⟩)
    | none => p
  else p

def deleteSubscription (p : SDPersistentImpl) (topicId : UInt16) : SDPersistentImpl :=
  if !p.transactionStarted || p.error then p
  else if topicId = 0 then p
  else match p.searchSubscription (fun _ => false) fun entry => entry.topicId = topicId with
    | .inl (_, lineNumber) =>
      p.save (p.filename .subscribe) (lineNumber * EntrySubscription.codec.size)
        (List.replicate EntrySubscription.codec.size 0)
    | .inr _ => { p with error := true }

def getNthSubscribedTopicId (p : SDPersistentImpl) (n : UInt16) : UInt16 :=
  if !p.transactionStarted || p.error then 0
  else
    let memory := ((p.openRead .subscribe).seek (n.toNat * EntrySubscription.codec.size)).readBytes p.card
      EntrySubscription.codec.size
    let entry := EntrySubscription.ofMemory memory
    if memory.length = EntrySubscription.codec.size && entry.topicId ≠ 0 then entry.topicId else 0

def countPass (entry : EntrySubscription) (_ : Nat) (count : Nat) : Pass Unit Nat :=
  .next (if entry.topicId ≠ 0 then count + 1 else count)

/-- `entry_number` counts the subscriptions in 16 bits. -/
def getClientSubscriptionCount (p : SDPersistentImpl) : Nat :=
  if p.ready then
    match (p.openRead .subscribe).scan p.card EntrySubscription.codec.size (fun memory number count =>
      if memory.length = EntrySubscription.codec.size then countPass (EntrySubscription.ofMemory memory) number count
      else .next count) 0 with
    | .inl _ => 0
    | .inr (count, _) => count % 65536
  else 0

def getSubscriptionQos (p : SDPersistentImpl) (topicName : Option CString) : UInt8 :=
  if p.ready then
    match validName topicName with
    | some name =>
      match p.searchSubscription (fun _ => false) (isSubscriptionTo name) with
      | .inl (entry, _) => entry.qos
      | .inr _ => 255
    | none => 0
  else 0

def getSubscriptionTopicId (p : SDPersistentImpl) (topicName : Option CString) : UInt16 :=
  if p.ready then
    match validName topicName with
    | some name =>
      match p.searchSubscription (fun _ => false) (isSubscriptionTo name) with
      | .inl (entry, _) => entry.topicId
      | .inr _ => 0
    | none => 0
  else 0

end Subscriptions

section Registrations

def searchRegistration (p : SDPersistentImpl) (strict : Bool) (noted wanted : EntryRegistration → Bool) :
    (EntryRegistration × Nat) ⊕ (Int × Nat) :=
  (p.openRead .registration).search p.card EntryRegistration.codec.size EntryRegistration.ofMemory strict noted wanted

def getTopicName (p : SDPersistentImpl) (topicId : UInt16) : Option CString :=
  if !p.transactionStarted || p.error then none
  else if topicId = 0 then none
  else match p.searchRegistration false (fun _ => false) fun entry =>
      entry.topicId = topicId && entry.topicName.length < 255 with
    | .inl (entry, _) => some entry.topicName
    | .inr _ => none

/-- The new id is the number of the pass that met the end of the file. -/
def addClientRegistration (p : SDPersistentImpl) (topicName : CString) (newTopicId : UInt16) :
    UInt16 × SDPersistentImpl :=
  if !p.transactionStarted || p.error then (newTopicId, p)
  else if p.notInClientRegistry then (newTopicId, p)
  else if 255 < topicName.length then (newTopicId, { p with error := true })
  else match p.searchRegistration true EntryRegistration.isEmpty fun entry =>
      entry.topicId ≠ 0 && entry.topicName.length < 255 && entry.topicName = topicName with
    | .inl (entry, _) => (entry.topicId, p)
    | .inr ended =>
      let topicId := UInt16.ofNat ended.2
      (topicId, p.save (p.filename .registration)
        (FileLinuxFake.firstEmptySpace ended * EntryRegistration.codec.size)
        (EntryRegistration.codec.encode ⟨topicId, topicName, true⟩))

def isTopicKnown (p : SDPersistentImpl) (topicId : UInt16) : Option Bool × SDPersistentImpl :=
  if !p.transactionStarted || p.error then (some false, p)
  else if p.notInClientRegistry then (some false, p)
  else if topicId = 0 then (some false, { p with error := true })
  else match p.searchRegistration true EntryRegistration.isEmpty fun entry =>
      entry.topicId = topicId && entry.topicName.length < 255 with
    | .inl (entry, _) => (some entry.known, p)
    | .inr _ => (none, p)

end Registrations

section GlobalCounts

def searchCount (p : SDPersistentImpl) (noted wanted : EntryMqttSubscription → Bool) :
    (EntryMqttSubscription × Nat) ⊕ (Int × Nat) :=
  (SDLinuxFake.open mqttSub true).search p.card EntryMqttSubscription.codec.size EntryMqttSubscription.ofMemory true
    noted wanted

def saveCount (p : SDPersistentImpl) (position : Int) (entry : EntryMqttSubscription) : SDPersistentImpl :=
  p.save mqttSub (position * EntryMqttSubscription.codec.size) (EntryMqttSubscription.codec.encode entry)

def incrementGlobalSubscriptionCount (p : SDPersistentImpl) (topicName : Option CString) : SDPersistentImpl :=
  if p.error then p
  else match validName topicName with
    | none => p
    | some name =>
      match p.searchCount EntryMqttSubscription.isEmpty (isCountOf name) with
      | .inl (entry, entryNumber) =>
        p.saveCount entryNumber { entry with clientSubscriptionCount := entry.clientSubscriptionCount + 1 }
      | .inr ended => p.saveCount (FileLinuxFake.firstEmptySpace ended) ⟨1, name⟩

def decrementGlobalSubscriptionCount (p : SDPersistentImpl) (topicName : Option CString) : SDPersistentImpl :=
  if p.error then p
  else match validName topicName with
    | none => p
    | some name =>
      match p.searchCount EntryMqttSubscription.isEmpty (isCountOf name) with
      | .inl (entry, entryNumber) =>
        p.saveCount entryNumber (if entry.clientSubscriptionCount - 1 = 0 then .zero
          else { entry with clientSubscriptionCount := entry.clientSubscriptionCount - 1 })
      | .inr _ => p

def getGlobalTopicSubscriptionCount (p : SDPersistentImpl) (topicName : Option CString) : UInt32 :=
  if p.error then 0
  else match validName topicName with
    | none => 0
    | some name =>
      match p.searchCount (fun _ => false) (isCountOf name) with
      | .inl (entry, _) => entry.clientSubscriptionCount
      | .inr _ => 0

end GlobalCounts

section Will

def readWill (p : SDPersistentImpl) : List UInt8 := (p.openRead .will).readBytes p.card EntryWill.codec.size

def hasClientWill (p : SDPersistentImpl) : Bool :=
  if p.ready then p.readWill.length = EntryWill.codec.size else false

def getClientWill (p : SDPersistentImpl) : Option EntryWill :=
  if p.ready then
    if p.readWill.length = EntryWill.codec.size then some (EntryWill.ofMemory p.readWill) else none
  else none

def setClientWilltopic (p : SDPersistentImpl) (willtopic : CString) (qos : UInt8) (retain : Bool) : SDPersistentImpl :=
  if p.ready then
    if 255 ≤ willtopic.length then p
    else p.save (p.filename .will) 0 (EntryWill.codec.encode
      { EntryWill.ofMemory p.readWill with willtopic := willtopic, qos := qos, retain := retain })
  else p

def setClientWillmessage (p : SDPersistentImpl) (willmsg : List UInt8) : SDPersistentImpl :=
  if p.ready then
    p.save (p.filename .will) 0 (EntryWill.codec.encode
      { EntryWill.ofMemory p.readWill with willmsg := willmsg, willmsgLength := UInt8.ofNat willmsg.length })
  else p

/-- `SD.remove`; a path that is not the one of the store's file leaves the card as it is. -/
def remove (p : SDPersistentImpl) (filename : List UInt8) : SDPersistentImpl :=
  if p.sd.removes filename then { p with card := Function.update p.card filename [] } else p

def deleteWill (p : SDPersistentImpl) : SDPersistentImpl := if p.ready then p.remove (p.filename .will) else p

end Will

section Publishes

def searchPublish (p : SDPersistentImpl) (noted wanted : EntryPublish → Bool) : (EntryPublish × Nat) ⊕ (Int × Nat) :=
  (p.openRead .publish).search p.card EntryPublish.codec.size EntryPublish.ofMemory true noted wanted

def hasClientPublishes (p : SDPersistentImpl) : Bool :=
  if p.ready then (p.searchPublish (fun _ => false) fun entry => !entry.isEmpty).isLeft else false

def addClientPublish (p : SDPersistentImpl) (data : List UInt8) (topicId : UInt16) (retain : Bool) (qos : UInt8) :
    SDPersistentImpl :=
  if p.ready then
    match p.searchPublish EntryPublish.isEmpty fun _ => false with
    | .inl _ => p
    | .inr ended =>
      let space := FileLinuxFake.firstEmptySpace ended
      let entry : EntryPublish :=
        { msg := data, msgLength := UInt8.ofNat data.length, topicId := topicId, qos := qos, retain := retain
          dup := false, msgId := 0, publishId := UInt16.ofInt (space + 1), retransmitionTimeout := 0 }
      p.save (p.filename .publish) (space * EntryPublish.codec.size) (EntryPublish.codec.encode entry)
  else p

def readPublish (p : SDPersistentImpl) (entryNumber : Int) : List UInt8 :=
  ((p.openRead .publish).seek (entryNumber * EntryPublish.codec.size)).readBytes p.card EntryPublish.codec.size

def getNextPublish (p : SDPersistentImpl) : Option EntryPublish :=
  if p.ready then
    match p.searchPublish (fun entry => !entry.isEmpty) fun _ => false with
    | .inl _ => none
    | .inr (lastPublishEntry, _) =>
      if lastPublishEntry = -1 then none else some (EntryPublish.ofMemory (p.readPublish lastPublishEntry))
  else none

/-- What `set_publish_msg_id` and `remove_publish_by_publish_id` have in common. -/
def rewritePublish (p : SDPersistentImpl) (publishId : UInt16) (buf : EntryPublish → List UInt8) : SDPersistentImpl :=
  if p.ready then
    let memory := p.readPublish (publishId.toNat - 1)
    if memory.length = EntryPublish.codec.size then
      let entry := EntryPublish.ofMemory memory
      if entry.publishId = publishId then
        p.save (p.filename .publish) ((publishId.toNat - 1) * EntryPublish.codec.size) (buf entry)
      else { p with error := true }
    else p
  else p

def setPublishMsgId (p : SDPersistentImpl) (publishId msgId : UInt16) : SDPersistentImpl :=
  p.rewritePublish publishId fun entry => EntryPublish.codec.encode { entry with msgId := msgId }

def removePublishByPublishId (p : SDPersistentImpl) (publishId : UInt16) : SDPersistentImpl :=
  p.rewritePublish publishId fun _ => List.replicate EntryPublish.codec.size 0

/-- `sizeof(buffer_size)` is 2. -/
def removePublishByMsgId (p : SDPersistentImpl) (msgId : UInt16) : SDPersistentImpl :=
  if p.ready then
    let p := if msgId = 0 then { p with error := true } else p
    match p.searchPublish (fun _ => false) fun entry => entry.msgId = msgId with
    | .inl (_, entryNumber) => p.save (p.filename .publish) (entryNumber * 2) [0, 0]
    | .inr _ => p
  else p

end Publishes

section Deletion

def deleteFile (p : SDPersistentImpl) (filename : List UInt8) : SDPersistentImpl :=
  if p.sd.exists filename then p.remove filename else p

def deleteClient (p : SDPersistentImpl) (clientId : CString) : SDPersistentImpl :=
  if !p.transactionStarted || p.error then p
  else if p.notInClientRegistry then p
  else if 24 ≤ clientId.length then { p with error := true }
  else if 0 < p.getClientSubscriptionCount then { p with error := true }
  else
    let p := p.deleteFile (p.filename .registration)
    let p := p.deleteFile (p.filename .subscribe)
    let p := p.deleteFile (p.filename .will)
    let p := p.deleteFile (p.filename .publish)
    match p.searchClient fun entry => entry.clientId = clientId with
    | some (_, lineNumber) =>
      { p.save clientRegistry (lineNumber * EntryClient.codec.size) (List.replicate EntryClient.codec.size 0) with
        entryClient := .zero, notInClientRegistry := true }
    | none => { p with entryClient := .zero, notInClientRegistry := true }

end Deletion

end SDPersistentImpl

end MqttSnGateway
