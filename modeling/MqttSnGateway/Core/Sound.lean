import MqttSnGateway.Core.Traversal

namespace MqttSnGateway

open Persistent Store

/-- A `.PUB` file after a message of the broker, if the client has a subscription to its topic. -/
def ClientFiles.receive (files : ClientFiles) (topicName : CString) (data : List UInt8) (retain : Bool) : ClientFiles :=
  match files.sub.find? (isSubscriptionTo topicName) with
  | some entry => appendPublish files data entry.topicId retain entry.qos
  | .none => files

/-- What a message of the broker does to the client in slot `n`. -/
def Store.receive (s : Store) (n : Nat) (topicName : CString) (data : List UInt8) (retain : Bool) : Store :=
  if (s.nthClient n).clientStatus.connected = true ∧ IsTopicName topicName then
    s.setFiles n fun files => files.receive topicName data retain
  else s

namespace Gateway

variable {g after : Gateway} {address : DeviceAddress} {n : Nat}

section Broker

variable {topicName : CString} {data : List UInt8} {retain : Bool}

theorem handleReceive_found (topicName : CString) (data : List UInt8) (retain : Bool) (idle : g.persistent.Idle) (found : g.store.slotOfAddress address = some n) :
    g.Settles (g.store.receive n topicName data retain)
      (handleReceiveMqttPublishForClient topicName data retain address g) := by
  unfold handleReceiveMqttPublishForClient Store.receive
  rw [startClientTransaction_found idle found]
  have status : (g.inside g.store (g.store.nthClient n) false false).persistent.getClientStatus =
      (g.store.nthClient n).clientStatus := rfl
  simp only [status]
  by_cases connected : (g.store.nthClient n).clientStatus.connected = true
  · by_cases named : IsTopicName topicName
    · rw [if_pos ⟨connected, named⟩, connected, Bool.true_and]
      have read : ∀ p : Persistent, (p.inside g.store (g.store.nthClient n) false false).isSubscribed (some topicName) =
          (g.store.files (g.store.nthClient n).fileNumber).sub.any (isSubscriptionTo topicName) := by
        intro p
        unfold isSubscribed
        rw [if_pos (by rfl), validName_named named]
        rfl
      cases record : (g.store.files (g.store.nthClient n).fileNumber).sub.find? (isSubscriptionTo topicName) with
      | some entry =>
        have subscribed : (g.store.files (g.store.nthClient n).fileNumber).sub.any (isSubscriptionTo topicName) = true :=
          List.any_eq_true.mpr ⟨entry, List.mem_of_find?_eq_some record, List.find?_some record⟩
        have qos : (g.persistent.inside g.store (g.store.nthClient n) false false).getSubscriptionQos
            (some topicName) = entry.qos := by
          unfold getSubscriptionQos
          rw [if_pos (by rfl), validName_named named]
          simp only [files_inside, record]
        have topicId : (g.persistent.inside g.store (g.store.nthClient n) false false).getSubscriptionTopicId
            (some topicName) = entry.topicId := by
          unfold getSubscriptionTopicId
          rw [if_pos (by rfl), validName_named named]
          simp only [files_inside, record]
        rw [if_pos (by rw [persistent_inside, read, subscribed])]
        simp only [persistent_inside, qos, topicId]
        have added : (g.inside g.store (g.store.nthClient n) false false).update
            (fun p => p.addClientPublish data entry.topicId retain entry.qos) =
            g.inside (g.store.setFiles n fun files => appendPublish files data entry.topicId retain entry.qos)
              (g.store.nthClient n) false false := rfl
        have written : (g.store.setFiles n fun files => appendPublish files data entry.topicId retain entry.qos) =
            g.store.setFiles n fun files => files.receive topicName data retain := by
          apply modifyFiles_congr
          unfold ClientFiles.receive
          rw [record]
        rw [added, applyTransaction_inside, written]
        exact Settles.settled
      | none =>
        have unsubscribed : (g.store.files (g.store.nthClient n).fileNumber).sub.any (isSubscriptionTo topicName) = false := by
          rw [List.any_eq_false]
          exact fun entry member => List.find?_eq_none.mp record entry member
        rw [if_neg (by rw [persistent_inside, read, unsubscribed]; simp), applyTransaction_inside]
        have unchanged : (g.store.setFiles n fun files => files.receive topicName data retain) = g.store := by
          apply modifyFiles_id
          unfold ClientFiles.receive
          rw [record]
        rw [unchanged]
        exact Settles.settled
    · rw [if_neg fun both => named both.2, persistent_inside, isSubscribed_unnamed named, if_neg (by simp),
        applyTransaction_inside]
      exact Settles.settled
  · rw [if_neg fun both => connected both.1, if_neg (by simp [connected]), applyTransaction_inside]
    exact Settles.settled

theorem handleReceive_missing (topicName : CString) (data : List UInt8) (retain : Bool) (idle : g.persistent.Idle) (missing : g.store.slotOfAddress address = none) :
    g.Settles g.store (handleReceiveMqttPublishForClient topicName data retain address g) := by
  unfold handleReceiveMqttPublishForClient
  rw [startClientTransaction_missing idle missing]
  have status : (g.inside g.store .zero true false).persistent.getClientStatus = .lost := rfl
  have unconnected : ClientStatus.lost.connected = false := rfl
  simp only [status, unconnected, Bool.false_and, Bool.false_eq_true, if_false, applyTransaction_inside]
  exact Settles.settled

theorem Ok.receive {files : ClientFiles} (ok : files.Ok) : (files.receive topicName data retain).Ok := by
  unfold ClientFiles.receive
  split
  · exact ok.appendPublish
  · exact ok

theorem handleReceive_sound (sound : g.Sound) :
    (handleReceiveMqttPublishForClient topicName data retain address g).Sound := by
  cases selection : g.store.slotOfAddress address with
  | some n =>
    have settles := handleReceive_found topicName data retain sound.idle selection
    refine ⟨settles.idle, settles.store ▸ ?_⟩
    unfold Store.receive
    split
    · exact sound.ok.setFiles (h := fun files => files.receive topicName data retain) (Ok.receive (sound.ok.files _))
    · exact sound.ok
  | none =>
    have settles := handleReceive_missing topicName data retain sound.idle selection
    exact ⟨settles.idle, settles.store ▸ sound.ok⟩

/-- What a message of the broker leaves as it is: everything but the queues. -/
structure Receives (g after : Gateway) : Prop where
  settles : g.Settles after.store after
  silent : after.sent = g.sent
  clients : after.store.clients = g.store.clients
  mqttSub : after.store.mqttSub = g.store.mqttSub
  tables : ∀ number, (after.store.files number).reg = (g.store.files number).reg ∧
    (after.store.files number).sub = (g.store.files number).sub
  wil : ∀ number, (after.store.files number).wil = (g.store.files number).wil

theorem tables_receive {s : Store} {number : CString} :
    ((s.receive n topicName data retain).files number).reg = (s.files number).reg ∧
      ((s.receive n topicName data retain).files number).sub = (s.files number).sub := by
  unfold Store.receive
  split
  · unfold setFiles
    rw [files_modifyFiles]
    split
    · rename_i here
      rw [here]
      unfold ClientFiles.receive
      split <;> exact ⟨rfl, rfl⟩
    · exact ⟨rfl, rfl⟩
  · exact ⟨rfl, rfl⟩

theorem wil_receive {s : Store} {number : CString} :
    ((s.receive n topicName data retain).files number).wil = (s.files number).wil := by
  unfold Store.receive
  split
  · unfold setFiles
    rw [files_modifyFiles]
    split
    · rename_i here
      rw [here]
      unfold ClientFiles.receive
      split <;> rfl
    · rfl
  · rfl

theorem handleReceive_silent : (handleReceiveMqttPublishForClient topicName data retain address g).sent = g.sent := by
  unfold handleReceiveMqttPublishForClient
  simp only
  split <;> rfl

theorem handleReceive_receives (idle : g.persistent.Idle) :
    Receives g (handleReceiveMqttPublishForClient topicName data retain address g) := by
  cases selection : g.store.slotOfAddress address with
  | some n =>
    have settles := handleReceive_found topicName data retain idle selection
    refine ⟨settles.cast settles.store.symm, handleReceive_silent, ?_, ?_, fun number => ?_, fun number => ?_⟩
    · rw [settles.store]
      unfold Store.receive
      split <;> rfl
    · rw [settles.store]
      unfold Store.receive
      split <;> rfl
    · rw [settles.store]
      exact tables_receive
    · rw [settles.store]
      exact wil_receive
  | none =>
    have settles := handleReceive_missing topicName data retain idle selection
    refine ⟨settles.cast settles.store.symm, handleReceive_silent, ?_, ?_, fun number => ?_, fun number => ?_⟩
    · rw [settles.store]
    · rw [settles.store]
    · rw [settles.store]
      exact ⟨rfl, rfl⟩
    · rw [settles.store]

theorem Receives.trans {last : Gateway} (first : Receives g after) (second : Receives after last) : Receives g last where
  settles := first.settles.trans second.settles
  silent := second.silent.trans first.silent
  clients := second.clients.trans first.clients
  mqttSub := second.mqttSub.trans first.mqttSub
  tables := fun number => ⟨(second.tables number).1.trans (first.tables number).1,
    (second.tables number).2.trans (first.tables number).2⟩
  wil := fun number => (second.wil number).trans (first.wil number)

theorem publishFromBroker_receives (idle : g.persistent.Idle)
    (published : g.publishFromBroker topicName data retain = some after) : Receives g after := by
  have begin : Receives g g := ⟨Settles.refl idle, rfl, rfl, rfl, fun _ => ⟨rfl, rfl⟩, fun _ => rfl⟩
  unfold publishFromBroker at published
  split at published
  · cases published
    exact begin
  · simp only at published
    split at published
    · cases published
      exact begin
    · obtain ⟨⟨outcome, between⟩, left, rfl⟩ := Option.map_eq_some_iff.mp published
      refine (traverseFromFirst_rule (I := fun _ g' => Receives g g') ?_ begin left).elim fun m kept => kept.1
      intro n g' g'' kept visited
      cases visited
      exact kept.trans (handleReceive_receives kept.settles.idle)

theorem publishFromBroker_sound (sound : g.Sound) (published : g.publishFromBroker topicName data retain = some after) :
    after.Sound := by
  unfold publishFromBroker at published
  split at published
  · cases published
    exact sound
  · simp only at published
    split at published
    · cases published
      exact sound
    · obtain ⟨⟨outcome, between⟩, left, rfl⟩ := Option.map_eq_some_iff.mp published
      refine (traverseFromFirst_rule (I := fun _ g => g.Sound) ?_ sound left).elim fun m kept => kept.1
      intro n g g' kept visited
      cases visited
      exact handleReceive_sound kept

end Broker

end Gateway

end MqttSnGateway
