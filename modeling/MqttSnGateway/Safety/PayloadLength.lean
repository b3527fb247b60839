import MqttSnGateway.Core.Queued
import MqttSnGateway.Safety.SentDatagrams

namespace MqttSnGateway

open Persistent Store RecordFile

namespace Gateway

variable {g : Gateway} {address : DeviceAddress} {status : ClientStatus} {name : CString} {data : List UInt8} {retain : Bool}

/-- What `publish` does with a message that it does not discard for its size. -/
def publishToClients (g : Gateway) (topicName : CString) (data : List UInt8) (retain : Bool) : Option Gateway :=
  let last := g.store.lastClientAddress .zero
  if last = .zero then some g
  else
    let body := fun _ (slot : EntryClient) g =>
      some (handleReceiveMqttPublishForClient topicName data retain slot.clientAddress g)
    (traverseFromFirst body (fun address => address = .zero) last g).map Prod.snd

theorem toNat_getMaximumPublishPayloadLength (accepted : 7 < g.maximumMessageLength) :
    g.getMaximumPublishPayloadLength.toNat = g.maximumMessageLength.toNat - 7 := by
  have larger : (7 : UInt8) ≤ g.maximumMessageLength := UInt8.le_of_lt accepted
  unfold getMaximumPublishPayloadLength
  rw [if_neg (UInt8.not_le.mpr accepted), UInt8.toNat_sub_of_le _ _ larger]
  rfl

theorem publishFromBroker_size (accepted : 7 < g.maximumMessageLength) :
    g.publishFromBroker name data retain =
      if g.maximumMessageLength.toNat - 7 < data.length then some g else g.publishToClients name data retain := by
  unfold publishFromBroker publishToClients
  rw [toNat_getMaximumPublishPayloadLength accepted]

theorem send_cases (g : Gateway) (address : DeviceAddress) (message : SnMessage) :
    (g.send address message).sent = g.sent ∨ (g.send address message).sent = g.sent ++ [(address, message)] := by
  unfold send
  split
  · exact .inr rfl
  · exact .inl rfl

theorem silent_isTopicKnown {topicId : UInt16} : (g.isTopicKnown topicId).2.sent = g.sent := by
  unfold isTopicKnown
  split <;> rfl

theorem next_of_has {p : Persistent} (queued : p.hasClientPublishes = true) : ∃ next, p.getNextPublish = some next := by
  unfold hasClientPublishes at queued
  unfold getNextPublish
  split at queued
  · rename_i ready
    rw [if_pos ready]
    obtain ⟨entry, member, used⟩ := List.any_eq_true.mp queued
    rw [← Option.isSome_iff_exists, List.find?_isSome]
    exact ⟨entry, List.mem_reverse.mpr member, used⟩
  · cases queued

theorem sent_of_applied (before : Gateway) (message : SnMessage) (outcome : UInt8 × Gateway)
    (silent : outcome.2.sent = before.sent) :
    (match outcome with
      | (result, g) => if CoreResult.is result .success then g.send address message else g).sent = before.sent ∨
    (match outcome with
      | (result, g) => if CoreResult.is result .success then g.send address message else g).sent =
        before.sent ++ [(address, message)] := by
  obtain ⟨result, g⟩ := outcome
  have unchanged : g.sent = before.sent := silent
  simp only
  split
  · rw [← unchanged]
    exact send_cases g address message
  · exact .inl unchanged

/-- What the handling of a client's queue hands to the socket: the message that comes next, or a REGISTER. -/
theorem sent_handleClientPublishes (g : Gateway) (status : ClientStatus) (address : DeviceAddress) :
    (handleClientPublishes status address g).sent = g.sent ∨
      (∃ topicId msgId topicName,
        (handleClientPublishes status address g).sent = g.sent ++ [(address, .register topicId msgId topicName)]) ∨
      ∃ next msgId, (g.startClientTransaction address).persistent.getNextPublish = some next ∧
        (handleClientPublishes status address g).sent =
          g.sent ++ [(address, .publish next.payload msgId next.topicId true next.retain next.qos false)] := by
  unfold handleClientPublishes
  split
  · simp only
    split
    · rename_i waits
      simp only [Bool.and_eq_true] at waits
      obtain ⟨next, comes⟩ := next_of_has waits.2
      rw [comes, Option.getD_some]
      have silent : ((g.startClientTransaction address).isTopicKnown next.topicId).2.sent = g.sent := silent_isTopicKnown
      generalize (g.startClientTransaction address).isTopicKnown next.topicId = outcome at silent
      obtain ⟨known, between⟩ := outcome
      simp only at silent ⊢
      split
      · split
        · exact .inl silent
        · exact (sent_of_applied g _ _ silent).imp_right fun sent => .inl ⟨_, _, _, sent⟩
      · split
        · exact (sent_of_applied g _ _ silent).imp_right fun sent => .inr ⟨next, _, rfl, sent⟩
        · split
          · rename_i level
            rw [level]
            exact (sent_of_applied g _ _ silent).imp_right fun sent => .inr ⟨next, _, rfl, by rw [level]; exact sent⟩
          · exact .inl silent
    · exact .inl rfl
  · exact .inl rfl

/-- A PUBLISH for a payload: its length byte counts seven more and is at most the length of a message of the socket. -/
structure Carried (maximum : UInt8) (data : List UInt8) (message : SnMessage) : Prop where
  payload : ∃ msgId topicId shortTopic retain qos dup, message = .publish data msgId topicId shortTopic retain qos dup
  inside : data.length ≤ 248
  lengthByte : ∀ garbage, (message.lengthByte garbage).toNat = 7 + data.length
  allowed : ∀ garbage, message.lengthByte garbage ≤ maximum

/-- The record of a payload: its length and its bytes fit into the record and into the buffer that it is fetched into. -/
structure Recorded (data : List UInt8) (entry : EntryPublish) : Prop where
  length : entry.msgLength.toNat = data.length
  stored : entry.msg.length ≤ 255
  fetched : entry.payload = data

theorem carried_publish {maximum : UInt8} {msgId topicId : UInt16} {shortTopic : Bool} {qos : UInt8} {dup : Bool}
    (fits : data.length ≤ maximum.toNat - 7) (accepted : 7 < maximum) :
    Carried maximum data (.publish data msgId topicId shortTopic retain qos dup) := by
  have bound := maximum.toNat_lt
  have larger : 7 < maximum.toNat := accepted
  have counted : (7 + UInt8.ofNat data.length).toNat = _ := SnMessage.toNat_publishLength (by omega)
  refine ⟨⟨_, _, _, _, _, _, rfl⟩, by omega, fun garbage => ?_, fun garbage => ?_⟩
  · rw [SnMessage.lengthByte_eq]
    exact counted
  · rw [SnMessage.lengthByte_eq, UInt8.le_iff_toNat_le]
    show (7 + UInt8.ofNat data.length).toNat ≤ _
    omega

/-- `publish` discards a message for its size exactly when it is longer than what the socket takes less seven. A record that
    it writes holds the whole payload, and when the record is fetched and sent, so does the PUBLISH. -/
theorem payload_never_truncates (reachable : g.Reachable) (accepted : 7 < g.maximumMessageLength) :
    g.publishFromBroker name data retain =
        (if g.maximumMessageLength.toNat - 7 < data.length then some g else g.publishToClients name data retain) ∧
      ∀ after, g.publishFromBroker name data retain = some after → ∀ (number : CString) (i : Nat) (entry : EntryPublish),
        (after.store.files number).pub[i]? = some entry → (g.store.files number).pub[i]? ≠ some entry →
        Recorded data entry ∧ ∀ (later : Gateway) (status : ClientStatus) (address : DeviceAddress),
          (later.startClientTransaction address).persistent.getNextPublish = some entry →
          (handleClientPublishes status address later).sent = later.sent ∨ ∃ message,
            (handleClientPublishes status address later).sent = later.sent ++ [(address, message)] ∧
            ((∃ topicId msgId topicName, message = .register topicId msgId topicName) ∨
              Carried g.maximumMessageLength data message) := by
  refine ⟨publishFromBroker_size accepted, fun after published number i entry found new => ?_⟩
  have fits : data.length ≤ g.maximumMessageLength.toNat - 7 := by
    by_contra long
    rw [publishFromBroker_size accepted, if_pos (by omega)] at published
    cases published
    exact new found
  have bound := g.maximumMessageLength.toNat_lt
  rcases (publishFromBroker_deposited reachable.sound published).deposited number i entry found with old | deposit
  · exact absurd old new
  · obtain ⟨_, small, record, _, _, rfl⟩ := deposit
    have fetched : (EntryPublish.placed data record.topicId retain record.qos i).payload = data :=
      EntryPublish.payload_placed (by omega)
    refine ⟨⟨EntryPublish.toNat_msgLength_placed (by omega), ?_, fetched⟩, fun later status address comes => ?_⟩
    · show data.length ≤ 255
      omega
    · rcases sent_handleClientPublishes later status address with same | ⟨topicId, msgId, topicName, sent⟩ | ⟨next, msgId, here, sent⟩
      · exact .inl same
      · exact .inr ⟨_, sent, .inl ⟨topicId, msgId, topicName, rfl⟩⟩
      · rw [comes] at here
        cases here
        rw [fetched] at sent
        exact .inr ⟨_, sent, .inr (carried_publish fits accepted)⟩

end Gateway

namespace Scenario

def messageQueued : Gateway := (oneSubscriber.publishFromBroker (name 116) [1, 2, 3] false).get (by decide +kernel)

theorem payload_never_truncates_oneSubscriber :
    ∃ entry ∈ (messageQueued.store.files (fileNumber 0)).pub, Gateway.Recorded [1, 2, 3] entry := by
  have accepted : 7 < oneSubscriber.maximumMessageLength := by decide +kernel
  have queued : (messageQueued.store.files (fileNumber 0)).pub[0]? = some (.placed [1, 2, 3] 1 false 0 0) := by decide +kernel
  have before : (oneSubscriber.store.files (fileNumber 0)).pub[0]? ≠ some (.placed [1, 2, 3] 1 false 0 0) := by decide +kernel
  obtain ⟨_, records⟩ := Gateway.payload_never_truncates reachable_oneSubscriber accepted
  exact ⟨_, List.mem_of_getElem? queued, (records messageQueued (Option.some_get _).symm _ 0 _ queued before).1⟩

end Scenario

end MqttSnGateway
