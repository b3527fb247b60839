import MqttSnGateway.Core.Queued
import MqttSnGateway.Datagrams

namespace MqttSnGateway

open Persistent Store RecordFile

section Files

variable {files : ClientFiles} {name : CString} {data : List UInt8} {retain : Bool} {topicId : UInt16}

/-- A `.REG` file maps an id to a name. -/
def MapsTo (reg : List EntryRegistration) (topicId : UInt16) (name : CString) : Prop :=
  ∃ entry ∈ reg, entry.topicId = topicId ∧ entry.topicName = name

theorem mapsTo_of_registeredName (registered : registeredName files.reg topicId = some name) :
    MapsTo files.reg topicId name := by
  unfold registeredName at registered
  obtain ⟨entry, scan, named⟩ := Option.map_eq_some_iff.mp registered
  have holds := List.find?_some scan
  simp only [Bool.and_eq_true, decide_eq_true_eq] at holds
  exact ⟨entry, List.mem_of_find?_eq_some scan, holds.1, named⟩

end Files

namespace Gateway

variable {g g' after : Gateway} {address : DeviceAddress} {n : Nat} {name : CString} {data : List UInt8} {retain : Bool}

/-- In a transaction of the client in slot `n` the id stands for the name: its registration table says so, and
    `get_topic_name` and `is_topic_known` find it there. -/
structure Resolves (g : Gateway) (n : Nat) (topicId : UInt16) (name : CString) : Prop where
  used : topicId ≠ 0
  registered : MapsTo (g.store.files (g.store.nthClient n).fileNumber).reg topicId name
  named : (g.persistent.inside g.store (g.store.nthClient n) false false).getTopicName topicId = some name
  known : ((g.persistent.inside g.store (g.store.nthClient n) false false).isTopicKnown topicId).1.isSome = true

theorem resolves_of_registeredName {topicId : UInt16} (used : topicId ≠ 0)
    (registered : registeredName (g.store.files (g.store.nthClient n).fileNumber).reg topicId = some name) :
    Resolves g n topicId name where
  used := used
  registered := mapsTo_of_registeredName registered
  named := by rw [getTopicName_inside, if_neg used, registered]
  known := by
    unfold registeredName at registered
    obtain ⟨entry, scan, _⟩ := Option.map_eq_some_iff.mp registered
    unfold Persistent.isTopicKnown
    rw [if_neg (by simp), if_neg (by simp), if_neg used, files_inside, scan]
    rfl

/-- Every subscription of a client is to a name that the client has registered under the same id. -/
def SubscriptionsRegistered (g : Gateway) : Prop :=
  ∀ (n : Nat), ∀ record ∈ (g.store.files (g.store.nthClient n).fileNumber).sub, record ≠ .zero →
    record.topicId ≠ 0 ∧ MapsTo (g.store.files (g.store.nthClient n).fileNumber).reg record.topicId record.topicName

theorem Sound.subscriptionsRegistered (sound : g.Sound) : g.SubscriptionsRegistered := by
  intro n record member filled
  rcases (sound.ok.files (g.store.nthClient n).fileNumber).subFilled record member with zero | ⟨used, _, registered⟩
  · exact absurd zero filled
  · exact ⟨used, mapsTo_of_registeredName registered⟩

/-- The messages that a step queues for a message of the broker all have an id that stands for the broker's topic. -/
def QueuesRegistered (g : Gateway) : Prop :=
  ∀ (input : Input) (name : CString) (data : List UInt8) (retain : Bool) (after : Gateway),
    input.event = .brokerMessage name data retain → step g input = some after →
      ∀ (n i : Nat) (entry : EntryPublish),
        (after.store.files (after.store.nthClient n).fileNumber).pub[i]? = some entry →
          (g.store.files (g.store.nthClient n).fileNumber).pub[i]? = some entry ∨ Resolves after n entry.topicId name

theorem Sound.queuesRegistered (sound : g.Sound) : g.QueuesRegistered := by
  intro input name data retain after event stepped n i entry found
  have published := step_brokerMessage event stepped
  have queued := publishFromBroker_queued (sound_prepare sound) published
  have client : after.store.nthClient n = g.store.nthClient n := by
    unfold Store.nthClient
    rw [queued.receives.clients]
    rfl
  rw [client] at found
  rcases queued.queued _ i entry found with old | ⟨named, record, member, subscribed, topicId, _⟩
  · exact .inl old
  · right
    have filesOk := sound.ok.files (g.store.nthClient n).fileNumber
    obtain ⟨place, here⟩ := List.mem_iff_getElem?.mp member
    have used := filesOk.used member (subscribed.symm ▸ named)
    have registered := (filesOk.filled here used).2
    rw [topicId]
    apply resolves_of_registeredName used
    rw [client, (queued.receives.tables _).1, ← subscribed]
    exact registered

/-- The registration table of a client knows every topic that the client subscribes to or gets a message on. -/
theorem topics_registered (reachable : g.Reachable) : g.SubscriptionsRegistered ∧ g.QueuesRegistered :=
  ⟨reachable.sound.subscriptionsRegistered, reachable.sound.queuesRegistered⟩

end Gateway

namespace Scenario

theorem topics_registered_oneSubscriber :
    oneSubscriber.SubscriptionsRegistered ∧ oneSubscriber.QueuesRegistered :=
  Gateway.topics_registered reachable_oneSubscriber

end Scenario

end MqttSnGateway
