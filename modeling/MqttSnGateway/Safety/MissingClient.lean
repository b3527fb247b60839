import MqttSnGateway.Core.Dismissals
import MqttSnGateway.Datagrams

namespace MqttSnGateway

open Persistent Store

/-- The operations for a client that may answer CLIENTNONEXISTENCE. -/
inductive ClientOperation where
  | registerTopic (topicName : CString) (newTopicId : UInt16)
  | publish (data : List UInt8) (topicId : UInt16) (shortTopic retain : Bool) (qos : Int)
  | deleteSubscription (topicId : UInt16) (shortTopic : Bool)
  | deleteSubscriptionByName (topicName : CString)
  | setDisconnected
  | setAsleep (duration : UInt16)
  | setAwake
  | notifyRegackArrived (topicId msgId : UInt16) (returnCode : UInt8)
  | notifyPubackArrived (msgId topicId : UInt16) (returnCode : UInt8)

namespace ClientOperation

def run (g : Gateway) (address : DeviceAddress) : ClientOperation → CoreResult × Gateway
  | registerTopic topicName newTopicId =>
    ((g.registerTopic address topicName newTopicId).1, (g.registerTopic address topicName newTopicId).2.2)
  | publish data topicId shortTopic retain qos =>
    Gateway.publish pahoMqttMessageHandler g address data topicId shortTopic retain qos
  | deleteSubscription topicId shortTopic =>
    Gateway.deleteSubscription pahoMqttMessageHandler g address topicId shortTopic
  | deleteSubscriptionByName topicName => Gateway.deleteSubscriptionByName pahoMqttMessageHandler g address topicName
  | setDisconnected => g.setDisconnected address
  | setAsleep duration => g.setAsleep address duration
  | setAwake => g.setAwake address
  | notifyRegackArrived topicId msgId returnCode => g.notifyRegackArrived address topicId msgId returnCode
  | notifyPubackArrived msgId topicId returnCode => g.notifyPubackArrived address msgId topicId returnCode

def KnownCode (returnCode : UInt8) : Prop :=
  returnCode = ReturnCode.accepted ∨ returnCode = ReturnCode.rejectedCongestion ∨
    returnCode = ReturnCode.rejectedInvalidTopicId ∨ returnCode = ReturnCode.rejectedNotSupported

/-- What is left out: a PUBLISH that needs no client, and return codes that the protocol does not know. -/
def Concerns (g : Gateway) : ClientOperation → Prop
  | publish _ topicId shortTopic _ qos =>
    ¬ (qos = -1 ∧ shortTopic = false ∧ (g.persistent.topicsPre.lookup topicId).isSome = true)
  | notifyRegackArrived _ _ returnCode => KnownCode returnCode
  | notifyPubackArrived _ _ returnCode => KnownCode returnCode
  | _ => True

/-- The operation answers that there is no such client, and ends with a return statement. -/
def ReportsMissing (g : Gateway) (address : DeviceAddress) (operation : ClientOperation) : Prop :=
  (operation.run g address).1 = .clientNonexistence ∧ (operation.run g address).2.unspecified = g.unspecified

end ClientOperation

namespace Gateway

variable {g : Gateway} {address : DeviceAddress}

/-- No entry of the registry has the address. -/
def Unbound (g : Gateway) (address : DeviceAddress) : Prop := ∀ entry ∈ g.store.clients, entry.clientAddress ≠ address

theorem Unbound.slotOfAddress (unbound : g.Unbound address) : g.store.slotOfAddress address = none := by
  unfold Store.slotOfAddress
  rw [List.findIdx?_eq_none_iff]
  intro entry listed
  have other := unbound entry listed
  simp [other]

theorem successOrNonexistence_answer {result : UInt8} : successOrNonexistence result ≠ .clientNonexistence := by
  unfold successOrNonexistence
  rw [CoreResult.is_negative (by decide)]
  simp only [Bool.false_eq_true, if_false]
  split <;> nofun

theorem registerTopic_answer {topicName : CString} {newTopicId : UInt16} :
    (g.registerTopic address topicName newTopicId).1 ≠ .clientNonexistence := by
  unfold registerTopic
  split
  · nofun
  · simp only
    rw [CoreResult.is_negative (by decide), CoreResult.is_negative (by decide)]
    simp only [Bool.false_eq_true, if_false]
    split <;> nofun

/-- The transaction for an address that nobody has never counts as a success. -/
theorem applyTransaction_unbound (missing : g.store.slotOfAddress address = none) :
    CoreResult.is (g.startClientTransaction address).applyTransaction.1 .success = false := by
  have started : (g.startClientTransaction address).persistent = g.persistent.startClientTransaction address := rfl
  unfold applyTransaction
  rw [started]
  unfold Persistent.startClientTransaction
  split
  · rename_i opened
    unfold Persistent.applyTransaction
    simp only [if_true]
    split <;> rfl
  · rw [show g.persistent.store.slotOfAddress address = none from missing]
    rfl

theorem publish_answer {data : List UInt8} {topicId : UInt16} {shortTopic retain : Bool} {qos : Int}
    (missing : g.store.slotOfAddress address = none) :
    (publish pahoMqttMessageHandler g address data topicId shortTopic retain qos).1 ≠ .clientNonexistence := by
  unfold publish
  split
  · nofun
  · simp only
    split
    · split
      · exact ite_answer (by decide) (by decide)
      · rw [applyTransaction_unbound missing]
        nofun
    · split
      · exact ite_answer (by decide) (by decide)
      · split
        · nofun
        · exact ite_answer (by decide) (by decide)

theorem notifyRegackArrived_answer {topicId msgId : UInt16} {returnCode : UInt8} :
    (g.notifyRegackArrived address topicId msgId returnCode).1 ≠ .clientNonexistence := by
  unfold notifyRegackArrived
  have finish : ∀ h : Gateway,
      (if CoreResult.is h.applyTransaction.1 .clientNonexistence = true then
        (CoreResult.clientNonexistence, h.applyTransaction.2)
      else if CoreResult.is h.applyTransaction.1 .success = true then (CoreResult.success, h.applyTransaction.2)
      else (if h.applyTransaction.2.takeUnspecified.1 = true then CoreResult.success else CoreResult.zero,
        h.applyTransaction.2.takeUnspecified.2)).1 ≠ CoreResult.clientNonexistence := by
    intro h
    rw [CoreResult.is_negative (by decide)]
    simp only [Bool.false_eq_true, if_false]
    split
    · nofun
    · split <;> nofun
  simp only
  split
  · split
    · exact finish _
    · split
      · exact finish _
      · split
        · nofun
        · split <;> nofun
  · exact finish _

/-- No operation can answer it: -1 does not fit into the `uint8_t` that `apply_transaction` returns. -/
theorem missing_unreported (operation : ClientOperation) (unbound : g.Unbound address) :
    ¬ operation.ReportsMissing g address := by
  have missing := unbound.slotOfAddress
  rintro ⟨answer, _⟩
  cases operation with
  | registerTopic topicName newTopicId => exact registerTopic_answer answer
  | publish data topicId shortTopic retain qos => exact publish_answer missing answer
  | deleteSubscription topicId shortTopic => exact deleteSubscriptionOf_answer answer
  | deleteSubscriptionByName topicName => exact deleteSubscriptionOf_answer answer
  | setDisconnected => exact successOrNonexistence_answer answer
  | setAsleep duration =>
    have asleep : (g.setAsleep address duration).1 = .clientNonexistence := answer
    unfold setAsleep at asleep
    split at asleep
    · cases asleep
    · exact successOrNonexistence_answer asleep
  | setAwake => exact successOrNonexistence_answer answer
  | notifyRegackArrived topicId msgId returnCode => exact notifyRegackArrived_answer answer
  | notifyPubackArrived msgId topicId returnCode =>
    have acknowledged : (g.notifyPubackArrived address msgId topicId returnCode).1 = .clientNonexistence := answer
    unfold notifyPubackArrived at acknowledged
    split at acknowledged
    · exact successOrNonexistence_answer acknowledged
    · cases acknowledged

end Gateway

namespace Scenario

def unvisited : Gateway := (run [47] [.mqttConnect]).get (by decide +kernel)

theorem missing_unreported_unvisited :
    ¬ ClientOperation.setAwake.ReportsMissing unvisited (client 1).getDeviceAddress :=
  Gateway.missing_unreported .setAwake (by unfold Gateway.Unbound; decide +kernel)

/-- The PUBLISH of a stranger is answered with ZERO. -/
theorem missing_publish :
    ¬ ∀ (g : Gateway) (address : DeviceAddress) (operation : ClientOperation), g.Unbound address →
      g.persistent.isMqttOnline = true → operation.Concerns g → operation.ReportsMissing g address := by
  intro claim
  have unbound : unvisited.Unbound (client 1).getDeviceAddress := by
    unfold Gateway.Unbound
    decide +kernel
  have online : unvisited.persistent.isMqttOnline = true := by decide +kernel
  have concerns : (ClientOperation.publish [1] 1 false false 0).Concerns unvisited := fun broadcast => absurd broadcast.1 (by decide)
  obtain ⟨answer, _⟩ := claim unvisited (client 1).getDeviceAddress (.publish [1] 1 false false 0) unbound online concerns
  have zero : ((ClientOperation.publish [1] 1 false false 0).run unvisited (client 1).getDeviceAddress).1 = .zero := by
    decide +kernel
  cases zero.symm.trans answer

end Scenario

end MqttSnGateway
