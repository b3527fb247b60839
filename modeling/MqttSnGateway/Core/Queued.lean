import MqttSnGateway.Core.Sound

namespace MqttSnGateway

open Persistent Store RecordFile

section Files

variable {files : ClientFiles} {name : CString} {data : List UInt8} {retain : Bool}

/-- A message of the broker is queued with the topic id and the QoS of a subscription to its topic. -/
def QueuedFor (sub : List EntrySubscription) (name : CString) (entry : EntryPublish) : Prop :=
  IsTopicName name ∧ ∃ record ∈ sub, record.topicName = name ∧ entry.topicId = record.topicId ∧ entry.qos = record.qos

/-- A record that a delivery of a message has written. -/
def Deposit (sub : List EntrySubscription) (name : CString) (data : List UInt8) (retain : Bool) (position : Nat)
    (entry : EntryPublish) : Prop :=
  IsTopicName name ∧ position < capacity ∧ ∃ record ∈ sub, record.topicName = name ∧
    entry = .placed data record.topicId retain record.qos position

theorem Deposit.queuedFor {sub : List EntrySubscription} {position : Nat} {entry : EntryPublish}
    (deposit : Deposit sub name data retain position entry) : QueuedFor sub name entry := by
  obtain ⟨named, _, record, member, subscribed, rfl⟩ := deposit
  exact ⟨named, record, member, subscribed, rfl, rfl⟩

theorem ClientFiles.Ok.receive_deposit (ok : files.Ok) (named : IsTopicName name) {i : Nat} {entry : EntryPublish}
    (found : (files.receive name data retain).pub[i]? = some entry) :
    files.pub[i]? = some entry ∨ Deposit files.sub name data retain i entry := by
  unfold ClientFiles.receive at found
  cases scan : files.sub.find? (isSubscriptionTo name) with
  | none =>
    rw [scan] at found
    exact .inl found
  | some record =>
    rw [scan] at found
    simp only at found
    have subscribed := (ClientFiles.isSubscriptionTo_iff named).mp (List.find?_some scan)
    have member := List.mem_of_find?_eq_some scan
    by_cases room : Room EntryPublish.isEmpty files.pub
    · obtain ⟨position, free, adjacent, small, _⟩ := freeSpace_room ok.pubShort room
      rw [ClientFiles.pub_appendPublish free small, getElem?_put adjacent] at found
      split at found
      · rename_i here
        subst here
        cases found
        exact .inr ⟨named, small, record, member, subscribed, rfl⟩
      · exact .inl found
    · rw [ClientFiles.appendPublish_unstored ok.pubShort room] at found
      exact .inl found

end Files

namespace Gateway

variable {g g' after : Gateway} {address : DeviceAddress} {name : CString} {data : List UInt8} {retain : Bool}

/-- What the deliveries of one message have queued so far. -/
structure Queued (g : Gateway) (name : CString) (g' : Gateway) : Prop where
  sound : g'.Sound
  receives : Receives g g'
  queued : ∀ (number : CString) (i : Nat) (entry : EntryPublish), (g'.store.files number).pub[i]? = some entry →
    (g.store.files number).pub[i]? = some entry ∨ QueuedFor (g.store.files number).sub name entry

/-- The same with the records they have written. -/
structure Deposited (g : Gateway) (name : CString) (data : List UInt8) (retain : Bool) (g' : Gateway) : Prop where
  sound : g'.Sound
  receives : Receives g g'
  deposited : ∀ (number : CString) (i : Nat) (entry : EntryPublish), (g'.store.files number).pub[i]? = some entry →
    (g.store.files number).pub[i]? = some entry ∨ Deposit (g.store.files number).sub name data retain i entry

theorem Deposited.deliver (deposited : Deposited g name data retain g') :
    Deposited g name data retain (handleReceiveMqttPublishForClient name data retain address g') := by
  have idle := deposited.sound.idle
  have received : Receives g' (handleReceiveMqttPublishForClient name data retain address g') :=
    handleReceive_receives idle
  refine ⟨handleReceive_sound deposited.sound, deposited.receives.trans received, ?_⟩
  intro number i entry found
  cases selection : g'.store.slotOfAddress address with
  | none =>
    rw [(handleReceive_missing name data retain idle selection).store] at found
    exact deposited.deposited number i entry found
  | some k =>
    rw [(handleReceive_found name data retain idle selection).store] at found
    unfold Store.receive at found
    split at found
    · rename_i delivered
      unfold setFiles at found
      rw [files_modifyFiles] at found
      split at found
      · rename_i own
        subst own
        rcases (deposited.sound.ok.files _).receive_deposit delivered.2 found with old | new
        · exact deposited.deposited _ i entry old
        · rw [(deposited.receives.tables _).2] at new
          exact .inr new
      · exact deposited.deposited number i entry found
    · exact deposited.deposited number i entry found

theorem publishFromBroker_deposited (sound : g.Sound) (published : g.publishFromBroker name data retain = some after) :
    Deposited g name data retain after := by
  have begin : Deposited g name data retain g := by
    refine ⟨sound, ⟨Settles.refl sound.idle, rfl, rfl, rfl, fun _ => ⟨rfl, rfl⟩, fun _ => rfl⟩, ?_⟩
    exact fun _ _ _ found => .inl found
  unfold publishFromBroker at published
  split at published
  · cases published
    exact begin
  · simp only at published
    split at published
    · cases published
      exact begin
    · obtain ⟨⟨outcome, between⟩, left, rfl⟩ := Option.map_eq_some_iff.mp published
      refine (traverseFromFirst_rule (I := fun _ g' => Deposited g name data retain g') ?_ begin left).elim fun m kept =>
        kept.1
      intro m h h' kept visited
      cases visited
      exact kept.deliver

theorem publishFromBroker_queued (sound : g.Sound) (published : g.publishFromBroker name data retain = some after) :
    Queued g name after := by
  have deposited := publishFromBroker_deposited sound published
  refine ⟨deposited.sound, deposited.receives, fun number i entry found => ?_⟩
  exact (deposited.deposited number i entry found).imp_right Deposit.queuedFor

end Gateway

end MqttSnGateway
