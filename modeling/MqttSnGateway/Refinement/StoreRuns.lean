import MqttSnGateway.Lib.Machines
import MqttSnGateway.Refinement.CardMessages
import MqttSnGateway.Refinement.OpenTransaction

namespace MqttSnGateway

/-- The calls of the core and of the message handlers to the store. -/
inductive StoreCall where
  | startClientTransactionById (clientId : CString)
  | startClientTransaction (address : DeviceAddress)
  | applyTransaction
  | clientExist
  | getClientStatus
  | getClientAwaitMessageType
  | getClientAwaitMsgId
  | addClient (clientId : CString) (address : DeviceAddress) (duration : UInt32)
  | resetClient (clientId : CString) (address : DeviceAddress) (duration : UInt32)
  | deleteClient (clientId : CString)
  | setClientState (status : ClientStatus)
  | setTimeout (timeout : UInt32)
  | setClientAwaitMessage (type : MessageType)
  | setClientAwaitMsgId (msgId : UInt16)
  | getLastClientAddress (preset : DeviceAddress)
  | getNthClient (n : Nat)
  | isSubscribed (topicName : Option CString)
  | addSubscription (topicName : CString) (topicId : UInt16) (qos : UInt8)
  | deleteSubscription (topicId : UInt16)
  | getNthSubscribedTopicId (n : UInt16)
  | getClientSubscriptionCount
  | getSubscriptionQos (topicName : Option CString)
  | getSubscriptionTopicId (topicName : Option CString)
  | getTopicName (topicId : UInt16)
  | addClientRegistration (topicName : CString) (newTopicId : UInt16)
  | isTopicKnown (topicId : UInt16)
  | incrementGlobalSubscriptionCount (topicName : Option CString)
  | decrementGlobalSubscriptionCount (topicName : Option CString)
  | getGlobalTopicSubscriptionCount (topicName : Option CString)
  | hasClientWill
  | getClientWill
  | setClientWilltopic (willtopic : CString) (qos : UInt8) (retain : Bool)
  | setClientWillmessage (willmsg : List UInt8)
  | deleteWill
  | hasClientPublishes
  | addClientPublish (data : List UInt8) (topicId : UInt16) (retain : Bool) (qos : UInt8)
  | getNextPublish
  | setPublishMsgId (publishId msgId : UInt16)
  | removePublishByPublishId (publishId : UInt16)
  | removePublishByMsgId (msgId : UInt16)

/-- What a call returns or writes behind its pointers. -/
inductive StoreResult where
  | done
  | code (code : UInt8)
  | truth (truth : Option Bool)
  | status (status : ClientStatus)
  | type (type : MessageType)
  | id (id : UInt16)
  | number (number : Nat)
  | name (name : Option CString)
  | address (address : DeviceAddress)
  | client (entry : EntryClient)
  | will (will : Option (CString × List UInt8 × UInt8 × Bool))
  | publish (publish : Option (List UInt8 × UInt16 × Bool × UInt8 × Bool × UInt16))
deriving DecidableEq

namespace StoreCall

/-- A message has a length byte, a name to register leaves room for its terminator, and the slot of a client is not
    behind the 4 GB that a `seek` reaches. -/
def Valid : StoreCall → Prop
  | .getNthClient n => n * EntryClient.codec.size < 4294967296
  | .addClientRegistration topicName _ => topicName.length < 255
  | .setClientWillmessage willmsg => willmsg.length ≤ 255
  | .addClientPublish data _ _ _ => data.length ≤ 255
  | _ => True

def perform (p : Persistent) : StoreCall → StoreResult × Persistent
  | .startClientTransactionById clientId => (.done, p.startClientTransactionById clientId)
  | .startClientTransaction address => (.done, p.startClientTransaction address)
  | .applyTransaction => (.code p.applyTransaction.1, p.applyTransaction.2)
  | .clientExist => (.truth p.clientExist, p)
  | .getClientStatus => (.status p.getClientStatus, p)
  | .getClientAwaitMessageType => (.type p.getClientAwaitMessageType, p)
  | .getClientAwaitMsgId => (.id p.getClientAwaitMsgId, p)
  | .addClient clientId address duration => (.done, p.addClient clientId address duration)
  | .resetClient clientId address duration => (.done, p.resetClient clientId address duration)
  | .deleteClient clientId => (.done, p.deleteClient clientId)
  | .setClientState status => (.done, p.setClientState status)
  | .setTimeout timeout => (.done, p.setTimeout timeout)
  | .setClientAwaitMessage type => (.done, p.setClientAwaitMessage type)
  | .setClientAwaitMsgId msgId => (.done, p.setClientAwaitMsgId msgId)
  | .getLastClientAddress preset => (.address (p.store.lastClientAddress preset), p)
  | .getNthClient n => (.client (p.store.nthClient n), p)
  | .isSubscribed topicName => (.truth (p.isSubscribed topicName), p)
  | .addSubscription topicName topicId qos => (.done, p.addSubscription topicName topicId qos)
  | .deleteSubscription topicId => (.done, p.deleteSubscription topicId)
  | .getNthSubscribedTopicId n => (.id (p.getNthSubscribedTopicId n.toNat), p)
  | .getClientSubscriptionCount => (.number p.getClientSubscriptionCount, p)
  | .getSubscriptionQos topicName => (.code (p.getSubscriptionQos topicName), p)
  | .getSubscriptionTopicId topicName => (.id (p.getSubscriptionTopicId topicName), p)
  | .getTopicName topicId => (.name (p.getTopicName topicId), p)
  | .addClientRegistration topicName newTopicId =>
    (.id (p.addClientRegistration topicName newTopicId).1, (p.addClientRegistration topicName newTopicId).2)
  | .isTopicKnown topicId => (.truth (p.isTopicKnown topicId).1, (p.isTopicKnown topicId).2)
  | .incrementGlobalSubscriptionCount topicName => (.done, p.incrementGlobalSubscriptionCount topicName)
  | .decrementGlobalSubscriptionCount topicName => (.done, p.decrementGlobalSubscriptionCount topicName)
  | .getGlobalTopicSubscriptionCount topicName => (.number (p.getGlobalTopicSubscriptionCount topicName).toNat, p)
  | .hasClientWill => (.truth p.hasClientWill, p)
  | .getClientWill => (.will (p.getClientWill.map EntryWill.outputs), p)
  | .setClientWilltopic willtopic qos retain => (.done, p.setClientWilltopic willtopic qos retain)
  | .setClientWillmessage willmsg => (.done, p.setClientWillmessage willmsg)
  | .deleteWill => (.done, p.deleteWill)
  | .hasClientPublishes => (.truth p.hasClientPublishes, p)
  | .addClientPublish data topicId retain qos => (.done, p.addClientPublish data topicId retain qos)
  | .getNextPublish => (.publish (p.getNextPublish.map EntryPublish.outputs), p)
  | .setPublishMsgId publishId msgId => (.done, p.setPublishMsgId publishId msgId)
  | .removePublishByPublishId publishId => (.done, p.removePublishByPublishId publishId)
  | .removePublishByMsgId msgId => (.done, p.removePublishByMsgId msgId)

open SDPersistentImpl

variable {p : Persistent} {q : SDPersistentImpl}

theorem Reads.agrees {result result' : StoreResult} (r : q.Represents p) (same : result = result') :
    Agrees (result, q) (result', p) := ⟨same, r⟩

theorem Writes.agrees {q' : SDPersistentImpl} {p' : Persistent} (r : q'.Represents p') :
    Agrees (StoreResult.done, q') (StoreResult.done, p') := ⟨rfl, r⟩

/-- A call with valid arguments, at a time when none of the tables it works with is full. -/
def Allowed (p : Persistent) (call : StoreCall) : Prop := call.Valid ∧ Roomy p

instance (call : StoreCall) : Decidable call.Valid := by
  cases call <;> unfold Valid <;> infer_instance

instance (p : Persistent) : Decidable (Roomy p) :=
  decidable_of_iff (p.store.mqttSub.length < RecordFile.capacity ∧ p.files.reg.length < RecordFile.capacity ∧
      p.files.sub.length < RecordFile.capacity ∧ p.files.pub.length < RecordFile.capacity)
    ⟨fun ⟨counts, reg, sub, pub⟩ => ⟨counts, reg, sub, pub⟩, fun ⟨counts, reg, sub, pub⟩ => ⟨counts, reg, sub, pub⟩⟩

instance (p : Persistent) (call : StoreCall) : Decidable (Allowed p call) :=
  inferInstanceAs (Decidable (_ ∧ _))

end StoreCall

namespace Scenario

open StoreCall

end Scenario

end MqttSnGateway
