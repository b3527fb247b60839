import MqttSnGateway.Datagrams

namespace MqttSnGateway

open Persistent Store

/-- The three ways in which an UNSUBSCRIBE gives its topic. -/
inductive GivenTopic where
  | registeredId (topicId : UInt16)
  | predefinedId (topicId : UInt16)
  | name (topicName : CString)

namespace GivenTopic

def topicName? (g : Gateway) (address : DeviceAddress) : GivenTopic → Option CString
  | registeredId topicId => g.store.topicToUnsubscribe g.persistent.topicsPre address topicId true
  | predefinedId topicId => g.store.topicToUnsubscribe g.persistent.topicsPre address topicId false
  | name topicName => some topicName

def topicId : GivenTopic → UInt16
  | registeredId topicId => topicId
  | predefinedId topicId => topicId
  | name _ => 0

/-- The overload of `delete_subscription` for a topic given in this way. -/
def delete (g : Gateway) (address : DeviceAddress) : GivenTopic → CoreResult × Gateway
  | registeredId topicId => Gateway.deleteSubscription pahoMqttMessageHandler g address topicId true
  | predefinedId topicId => Gateway.deleteSubscription pahoMqttMessageHandler g address topicId false
  | name topicName => Gateway.deleteSubscriptionByName pahoMqttMessageHandler g address topicName

end GivenTopic

namespace Gateway

variable {g after : Gateway} {address : DeviceAddress} {n : Nat} {given : GivenTopic} {name : CString}
  {topicName : Option CString} {topicId : UInt16} {s : Store} {number : CString}

/-- What an UNSUBSCRIBE from a topic should do for the client with this file number. -/
structure Unsubscribes (g after : Gateway) (number name : CString) : Prop where
  gone : ∀ record ∈ (after.store.files number).sub, record ≠ .zero → record.topicName ≠ name
  kept : (after.store.files number).sub =
    (g.store.files number).sub.map fun record => if record.topicName = name then .zero else record
  decreased : g.store.SubscribesTopic number (some name) →
    countOf after.store.mqttSub name + 1 = countOf g.store.mqttSub name
  unchanged : ¬ g.store.SubscribesTopic number (some name) →
    countOf after.store.mqttSub name = countOf g.store.mqttSub name
  others : ∀ other, other ≠ name → countOf after.store.mqttSub other = countOf g.store.mqttSub other
  called : MqttCall.unsubscribe (some name) ∈ after.calls ↔
    countOf g.store.mqttSub name = 1 ∧ countOf after.store.mqttSub name = 0

/-- The broker will not take back a subscription to the topic. -/
def RefusesUnsubscribe (g : Gateway) (name : CString) : Prop :=
  name.length ≠ 0 ∧ (g.isConnected = false ∨ g.answers.headD true = false)

/-- An UNSUBSCRIBE that will not be answered with success: the client is not subscribed, and either it has no record
    with the id, or nobody else keeps the topic counted and the broker refuses. -/
def UnsubscribeFails (g : Gateway) (number : CString) (topicId : UInt16) (name : CString) : Prop :=
  ¬ g.store.SubscribesTopic number (some name) ∧
    (topicId ≠ 0 ∧ (∀ record ∈ (g.store.files number).sub, record.topicId ≠ topicId) ∨
      g.store.countOfTopic (some name) ≤ 1 ∧ g.RefusesUnsubscribe name)

section Deletion

theorem unsubscribe_none_iff : s.unsubscribe number topicId topicName = none ↔
    topicId ≠ 0 ∧ ∀ record ∈ (s.files number).sub, record.topicId ≠ topicId := by
  unfold Store.unsubscribe
  by_cases zero : topicId = 0
  · rw [if_pos zero]
    simp [zero]
  · rw [if_neg zero]
    cases scan : (s.files number).sub.findIdx? fun entry => entry.topicId = topicId with
    | some i =>
      obtain ⟨inside, same, _⟩ := List.findIdx?_eq_some_iff_getElem.mp scan
      constructor
      · nofun
      · intro none_has
        exact absurd (of_decide_eq_true same) (none_has.2 _ (List.getElem_mem inside))
    | none =>
      rw [List.findIdx?_eq_none_iff] at scan
      constructor
      · intro _
        exact ⟨zero, fun record member => of_decide_eq_false (scan record member)⟩
      · intro _
        rfl

theorem countOf_uncount (ok : CountsOk s.mqttSub) :
    (s.uncount topicName).countOfTopic topicName = s.countOfTopic topicName - 1 := by
  unfold Store.countOfTopic Store.uncount
  cases valid : validName topicName with
  | none => rfl
  | some name =>
    simp only
    rw [ok.countOf_decrementCount, if_pos rfl]

theorem countOf_unsubscribe {s' : Store} (ok : CountsOk s.mqttSub)
    (deleted : s.unsubscribe number topicId topicName = some s') :
    s'.countOfTopic topicName = s.countOfTopic topicName - 1 := by
  unfold Store.unsubscribe at deleted
  split at deleted
  · cases deleted
    exact countOf_uncount ok
  · split at deleted
    · cases deleted
      exact countOf_uncount (s := s.modifyFiles number _) ok
    · cases deleted

theorem paho_unsubscribe_refused :
    (pahoMqttMessageHandler.unsubscribe g (some name)).1 = false ↔ g.RefusesUnsubscribe name := by
  unfold pahoMqttMessageHandler RefusesUnsubscribe
  simp only
  by_cases empty : name.length = 0
  · rw [if_pos empty]
    simp [empty]
  · rw [if_neg empty]
    have answer : (g.call (.unsubscribe (some name))).request.1 = (g.isConnected && g.answers.headD true) := rfl
    generalize (g.call (.unsubscribe (some name))).request = outcome at answer
    obtain ⟨granted, between⟩ := outcome
    simp only at answer
    cases granted with
    | true =>
      simp only [Bool.true_eq_false, false_iff]
      rintro ⟨_, refused⟩
      rw [eq_comm, Bool.and_eq_true] at answer
      rw [answer.1, answer.2] at refused
      simp at refused
    | false =>
      simp only [true_iff]
      exact ⟨empty, Bool.and_eq_false_iff.mp answer.symm⟩

theorem delete_eq (idle : g.persistent.Idle) (found : g.store.slotOfAddress address = some n) :
    given.delete g address = deleteSubscriptionOf pahoMqttMessageHandler
      (g.inside g.store (g.store.nthClient n) false false) given.topicId (given.topicName? g address) := by
  cases given with
  | registeredId topicId =>
    unfold GivenTopic.delete deleteSubscription
    rw [startClientTransaction_found idle found]
    simp only [persistent_inside, if_true, getTopicName_inside]
    unfold GivenTopic.topicName? topicToUnsubscribe
    rw [entryAt_found found]
    rfl
  | predefinedId topicId =>
    unfold GivenTopic.delete deleteSubscription
    rw [startClientTransaction_found idle found]
    rfl
  | name topicName =>
    unfold GivenTopic.delete deleteSubscriptionByName
    rw [startClientTransaction_found idle found]
    rfl

end Deletion

section Outcome

/-- A client that is subscribed stays subscribed, and is told that it is not. -/
theorem not_unsubscribes_subscribed (subscribed : g.store.SubscribesTopic number (some name))
    (same : after.store = g.store) : ¬ Unsubscribes g after number name := by
  intro done
  obtain ⟨other, valid, record, member, holds⟩ := subscribed
  obtain ⟨equal, named⟩ := named_of_validName valid
  cases equal
  have filled : record ≠ .zero := by
    intro zero
    rw [zero] at holds
    rw [← holds] at named
    exact ClientFiles.not_topicName_empty named
  rw [← same] at member
  exact done.gone record member filled holds

theorem countOfTopic_named (named : IsTopicName name) : s.countOfTopic (some name) = countOf s.mqttSub name := by
  unfold Store.countOfTopic
  rw [validName_named named]

/-- The topic of a client that is not subscribed is counted down all the same. -/
theorem not_unsubscribes_counted (fresh : ¬ g.store.SubscribesTopic number (some name))
    (counted : after.store.countOfTopic (some name) = g.store.countOfTopic (some name) - 1)
    (others : after.store.countOfTopic (some name) ≠ 0) : ¬ Unsubscribes g after number name := by
  intro done
  by_cases named : IsTopicName name
  · rw [countOfTopic_named named] at counted others
    rw [countOfTopic_named named] at counted
    have kept := done.unchanged fresh
    omega
  · apply others
    unfold Store.countOfTopic
    rw [validName_unnamed named]

theorem not_unsubscribes_called (fresh : ¬ g.store.SubscribesTopic number (some name))
    (called : MqttCall.unsubscribe (some name) ∈ after.calls) : ¬ Unsubscribes g after number name := by
  intro done
  have zero := done.called.mp called
  have kept := done.unchanged fresh
  omega

/-- An UNSUBSCRIBE does what it should do only where it does not succeed. -/
theorem delete_unsubscribes_iff (sound : g.Sound) (found : g.store.slotOfAddress address = some n)
    (resolved : given.topicName? g address = some name) :
    ((given.delete g address).1 = .success →
        Unsubscribes g (given.delete g address).2 (g.store.nthClient n).fileNumber name) ↔
      UnsubscribeFails g (g.store.nthClient n).fileNumber given.topicId name := by
  rw [delete_eq sound.idle found, resolved]
  by_cases subscribed : g.store.SubscribesTopic (g.store.nthClient n).fileNumber (some name)
  · rw [deleteSubscriptionOf_subscribed subscribed]
    constructor
    · intro done
      exact absurd (done rfl) (not_unsubscribes_subscribed subscribed rfl)
    · intro fails
      exact absurd subscribed fails.1
  · rw [deleteSubscriptionOf_fresh fun _ => subscribed]
    cases deleted : g.store.unsubscribe (g.store.nthClient n).fileNumber given.topicId (some name) with
    | none =>
      have missing := unsubscribe_none_iff.mp deleted
      constructor
      · intro _
        exact ⟨subscribed, .inl missing⟩
      · intro _ success
        cases success
    | some s =>
      have counted := countOf_unsubscribe sound.ok.counts deleted
      have present : ¬ (given.topicId ≠ 0 ∧
          ∀ record ∈ (g.store.files (g.store.nthClient n).fileNumber).sub, record.topicId ≠ given.topicId) := by
        intro missing
        rw [unsubscribe_none_iff.mpr missing] at deleted
        cases deleted
      simp only
      by_cases last : s.countOfTopic (some name) = 0
      · rw [if_pos last]
        generalize asked : pahoMqttMessageHandler.unsubscribe (g.settled s (g.store.nthClient n)) (some name) = outcome
        have refused : outcome.1 = false ↔ (g.settled s (g.store.nthClient n)).RefusesUnsubscribe name := by
          rw [← asked]
          exact paho_unsubscribe_refused
        have calls : outcome.2.calls = (g.settled s (g.store.nthClient n)).calls ++ [.unsubscribe (some name)] := by
          rw [← asked]
          exact paho_unsubscribe_calls
        obtain ⟨granted, between⟩ := outcome
        simp only at refused calls
        cases granted with
        | true =>
          have called : MqttCall.unsubscribe (some name) ∈ between.calls := by
            rw [calls]
            exact List.mem_append_right _ (List.mem_singleton.mpr rfl)
          constructor
          · intro done
            exact absurd (done rfl) (not_unsubscribes_called subscribed called)
          · intro fails
            rcases fails.2 with missing | ⟨_, refuses⟩
            · exact absurd missing present
            · cases refused.mpr refuses
        | false =>
          constructor
          · intro _
            exact ⟨subscribed, .inr ⟨by omega, refused.mp rfl⟩⟩
          · intro _ success
            cases success
      · rw [if_neg last]
        constructor
        · intro done
          exact absurd (done rfl) (not_unsubscribes_counted subscribed counted last)
        · intro fails
          rcases fails.2 with missing | ⟨few, _⟩
          · exact absurd missing present
          · omega

/-- `delete_subscription` keeps to its purpose in no case in which it reports success. -/
theorem deleteSubscription_unsubscribes_iff {input : Input} (reachable : g.Reachable)
    (found : g.store.slotOfAddress address = some n) (resolved : given.topicName? g address = some name) :
    ((given.delete (g.prepare input) address).1 = .success →
        Unsubscribes (g.prepare input) (given.delete (g.prepare input) address).2 (g.store.nthClient n).fileNumber name) ↔
      UnsubscribeFails (g.prepare input) (g.store.nthClient n).fileNumber given.topicId name :=
  delete_unsubscribes_iff (sound_prepare reachable.sound) found resolved

end Outcome

end Gateway

namespace Scenario

def plainInput : Input := ⟨.mqttConnectionLost, [], []⟩

/-- The subscriber asks to unsubscribe by name. -/
theorem unsubscribe_keeps_subscription :
    ∃ outcome, (GivenTopic.name (name 116)).delete (oneSubscriber.prepare plainInput) (client 1).getDeviceAddress =
        (.success, outcome) ∧ oneSubscriber.Reachable ∧
      oneSubscriber.store.slotOfAddress (client 1).getDeviceAddress = some 0 ∧
      (oneSubscriber.store.nthClient 0).clientStatus.connected = true ∧
      ¬ Gateway.Unsubscribes (oneSubscriber.prepare plainInput) outcome (oneSubscriber.store.nthClient 0).fileNumber
        (name 116) := by
  have found : oneSubscriber.store.slotOfAddress (client 1).getDeviceAddress = some 0 := by decide +kernel
  have success : ((GivenTopic.name (name 116)).delete (oneSubscriber.prepare plainInput)
      (client 1).getDeviceAddress).1 = .success := by decide +kernel
  have left : ⟨1, 0, name 116⟩ ∈ (((GivenTopic.name (name 116)).delete (oneSubscriber.prepare plainInput)
      (client 1).getDeviceAddress).2.store.files (oneSubscriber.store.nthClient 0).fileNumber).sub := by decide +kernel
  refine ⟨_, Prod.ext success rfl, reachable_oneSubscriber, found, by decide +kernel, ?_⟩
  intro done
  exact done.gone _ left (by decide) rfl

/-- A topic that is registered, but that nobody has subscribed to, is unsubscribed without a broker. -/
theorem unsubscribe_fails_oneSubscriber :
    ((GivenTopic.name (name 117)).delete (oneSubscriber.prepare ⟨.mqttConnectionLost, [false], []⟩)
        (client 1).getDeviceAddress).1 ≠ .success ∧
      (((GivenTopic.name (name 117)).delete (oneSubscriber.prepare ⟨.mqttConnectionLost, [false], []⟩)
          (client 1).getDeviceAddress).1 = .success →
        Gateway.Unsubscribes (oneSubscriber.prepare ⟨.mqttConnectionLost, [false], []⟩)
          ((GivenTopic.name (name 117)).delete (oneSubscriber.prepare ⟨.mqttConnectionLost, [false], []⟩)
            (client 1).getDeviceAddress).2 (oneSubscriber.store.nthClient 0).fileNumber (name 117)) := by
  have found : oneSubscriber.store.slotOfAddress (client 1).getDeviceAddress = some 0 := by decide +kernel
  refine ⟨by decide +kernel, ?_⟩
  apply (Gateway.deleteSubscription_unsubscribes_iff reachable_oneSubscriber found rfl).mpr
  refine ⟨?_, .inr ⟨by decide +kernel, by decide, .inr rfl⟩⟩
  rintro ⟨other, valid, subscribed⟩
  cases (named_of_validName valid).1
  exact absurd subscribed (by decide +kernel)

end Scenario

end MqttSnGateway
