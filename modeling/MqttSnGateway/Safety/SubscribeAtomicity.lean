import MqttSnGateway.Core.SubscribeResults
import MqttSnGateway.Datagrams

namespace MqttSnGateway

open Persistent Store RecordFile

namespace Gateway

variable {g : Gateway} {address : DeviceAddress} {n : Nat} {name : CString} {topicId newTopicId id : UInt16}
  {shortTopic : Bool} {qos : UInt8} {s : Store}

/-- `add_subscription` leaves the subscriptions of the client and all counts alone, with nothing written behind the two
    tables, or it succeeds, the client is subscribed to the topic that the id names, and the count fits its text. -/
def AtomicSubscribe (g : Gateway) (address : DeviceAddress) (topicId : UInt16) (shortTopic : Bool) (qos : UInt8)
    (newTopicId : UInt16) : Prop :=
  let number := (g.store.entryAt address).fileNumber
  let outcome := addSubscription pahoMqttMessageHandler g address topicId shortTopic qos newTopicId
  let after := outcome.2.2.2.store
  (outcome.1 ≠ .success →
    ((after.files number).sub = (g.store.files number).sub ∧ (after.files number).subBehind = (g.store.files number).subBehind) ∧
      after.mqttSub = g.store.mqttSub ∧ after.mqttSubBehind = g.store.mqttSubBehind) ∧
  (outcome.1 = .success →
    (∃ name, g.store.topicToUnsubscribe g.persistent.topicsPre address topicId shortTopic = some name ∧
      after.SubscribesTopic number (some name)) ∧ after.overruns = g.store.overruns)

/-- The requests for which it is so: the topic has a name that can be subscribed to, and the client is subscribed, or can
    be with a count that can be printed, and the broker does not refuse it. A refusal is harmless only where no id was
    given, so that no record was stored, and the count that is taken back had an empty record to go to. -/
def SubscribeSafe (g : Gateway) (address : DeviceAddress) (topicId : UInt16) (shortTopic : Bool) : Prop :=
  ∀ n name, g.persistent.isMqttOnline = true → g.store.slotOfAddress address = some n →
    g.store.topicToUnsubscribe g.persistent.topicsPre address topicId shortTopic = some name →
      IsTopicName name ∧ ((g.store.files (g.store.nthClient n).fileNumber).Subscribes name ∨
        (FirstSubscriber g.store name ∧ g.RefusesSubscribe →
          ¬ CanRegister (g.store.files (g.store.nthClient n).fileNumber) name ∧
            ∃ record ∈ g.store.mqttSub, EntryMqttSubscription.isEmpty record = true) ∧
        (¬ (FirstSubscriber g.store name ∧ g.RefusesSubscribe) →
          Storable (g.store.files (g.store.nthClient n).fileNumber) name ∧ incrementOverrun g.store.mqttSub name = 0))

/-- A new subscription with an id changes the table, or is written behind it. -/
theorem sub_subscribe_iff (id : UInt16) (qos : UInt8) (ok : s.Ok) (named : IsTopicName name)
    (fresh : ¬ (s.files (s.nthClient n).fileNumber).Subscribes name) :
    ((s.subscribe n name id qos).files (s.nthClient n).fileNumber).sub = (s.files (s.nthClient n).fileNumber).sub ∧
      ((s.subscribe n name id qos).files (s.nthClient n).fileNumber).subBehind =
        (s.files (s.nthClient n).fileNumber).subBehind ↔ id = 0 := by
  by_cases zero : id = 0
  · refine iff_of_true ?_ zero
    unfold Store.subscribe
    simp only [zero, if_true, and_self]
  · refine iff_of_false ?_ zero
    rintro ⟨same, inside⟩
    have stored := subscribes_subscribe_iff (n := n) id qos ok named fresh
    have unstored : ¬ ((s.subscribe n name id qos).files (s.nthClient n).fileNumber).Subscribes name := by
      unfold ClientFiles.Subscribes at fresh ⊢
      rw [same]
      exact fresh
    have full : ¬ Room EntrySubscription.isEmpty (s.files (s.nthClient n).fileNumber).sub :=
      fun room => unstored (stored.mpr ⟨zero, room⟩)
    have written := (ok.files (s.nthClient n).fileNumber).appendSubscription_unstored ⟨id, qos, name⟩ full
    unfold Store.subscribe at inside
    simp only [zero, if_false] at inside
    unfold Store.setFiles at inside
    rw [files_modifyFiles_self, written] at inside
    exact Nat.succ_ne_self _ inside

theorem subscribesTopic_named {number : CString} (named : IsTopicName name) :
    s.SubscribesTopic number (some name) ↔ (s.files number).Subscribes name := by
  unfold Store.SubscribesTopic
  rw [validName_named named]
  simp

theorem subscribesTopic_unnamed {number : CString} (unnamed : ¬ IsTopicName name) :
    ¬ s.SubscribesTopic number (some name) := by
  unfold Store.SubscribesTopic
  rw [validName_unnamed unnamed]
  simp

theorem atomicSubscribe_rejected (idle : g.persistent.Idle) (rejected : g.persistent.isMqttOnline = false ∨
      g.store.slotOfAddress address = none ∨ ∃ n, g.store.slotOfAddress address = some n ∧
        g.store.topicOf g.persistent.topicsPre n topicId shortTopic = none) :
    AtomicSubscribe g address topicId shortTopic qos newTopicId := by
  have failed : (addSubscription pahoMqttMessageHandler g address topicId shortTopic qos newTopicId).1 = .zero := by
    cases online : g.persistent.isMqttOnline with
    | false => rw [addSubscription_offline online]
    | true =>
      rcases rejected with offline | missing | ⟨n, found, unknown⟩
      · rw [online] at offline
        cases offline
      · rw [addSubscription_missing idle online missing]
      · rw [addSubscription_unknown idle online found unknown]
  have settles := (addSubscription_rejected qos newTopicId idle rejected).1
  unfold AtomicSubscribe
  simp only [failed, settles.store]
  exact ⟨fun _ => ⟨⟨trivial, trivial⟩, trivial, trivial⟩, nofun⟩

section Known

variable (sound : g.Sound) (online : g.persistent.isMqttOnline = true) (found : g.store.slotOfAddress address = some n)
  (known : g.store.topicOf g.persistent.topicsPre n topicId shortTopic = some (name, id, s))

include sound online found known

theorem not_atomicSubscribe_unnamed (unnamed : ¬ IsTopicName name) :
    ¬ AtomicSubscribe g address topicId shortTopic qos newTopicId := by
  intro atomic
  have accepted : addSubscription pahoMqttMessageHandler g address topicId shortTopic qos newTopicId =
      (.success, id, grantedQos qos, g.settled s (g.store.nthClient n)) :=
    addSubscription_again sound.idle online found known fun named => absurd named unnamed
  unfold AtomicSubscribe at atomic
  simp only [accepted] at atomic
  obtain ⟨⟨other, resolved, subscribed⟩, _⟩ := atomic.2 trivial
  rw [topicToUnsubscribe_eq found, known] at resolved
  cases resolved
  exact subscribesTopic_unnamed unnamed subscribed

theorem atomicSubscribe_again (named : IsTopicName name)
    (again : (g.store.files (g.store.nthClient n).fileNumber).Subscribes name) :
    AtomicSubscribe g address topicId shortTopic qos newTopicId := by
  have stored : (s.files (g.store.nthClient n).fileNumber).Subscribes name := by
    unfold ClientFiles.Subscribes at again ⊢
    rw [(topicOf_keeps known).2]
    exact again
  have accepted : addSubscription pahoMqttMessageHandler g address topicId shortTopic qos newTopicId =
      (.success, id, grantedQos qos, g.settled s (g.store.nthClient n)) :=
    addSubscription_again sound.idle online found known fun _ => stored
  unfold AtomicSubscribe
  simp only [accepted]
  refine ⟨fun failed => absurd rfl failed, fun _ => ⟨⟨name, ?_, ?_⟩, (topicOf_counters known).2.1⟩⟩
  · rw [topicToUnsubscribe_eq found, known]
    rfl
  · rw [entryAt_found found]
    exact (subscribesTopic_named named).mpr stored

theorem atomicSubscribe_accepted_iff (named : IsTopicName name)
    (fresh : ¬ (g.store.files (g.store.nthClient n).fileNumber).Subscribes name)
    (granted : ¬ (FirstSubscriber g.store name ∧ g.RefusesSubscribe)) :
    AtomicSubscribe g address topicId shortTopic qos newTopicId ↔
      Storable (g.store.files (g.store.nthClient n).fileNumber) name ∧ incrementOverrun g.store.mqttSub name = 0 := by
  have client := nthClient_topicOf known
  have keeps := (topicOf_keeps known).2 (g.store.nthClient n).fileNumber
  have unstored : ¬ (s.files (g.store.nthClient n).fileNumber).Subscribes name := by
    unfold ClientFiles.Subscribes at fresh ⊢
    rw [keeps]
    exact fresh
  obtain ⟨after, accepted, store⟩ := addSubscription_accepted qos newTopicId sound.ok sound.idle online
    found known named unstored granted
  have stored := subscribes_subscribe_iff (n := n) id (grantedQos qos) (sound.ok.topicOf known).1 named
    (by rw [client]; exact unstored)
  rw [client, keeps, topicOf_given_iff sound.ok known] at stored
  have overruns : (s.subscribe n name id (grantedQos qos)).overruns =
      g.store.overruns + incrementOverrun g.store.mqttSub name := by
    rw [← (topicOf_counters known).2.1, ← (topicOf_keeps known).1]
    rfl
  unfold AtomicSubscribe
  simp only [accepted, store, entryAt_found found, overruns]
  constructor
  · intro atomic
    obtain ⟨⟨other, resolved, subscribed⟩, printed⟩ := atomic.2 trivial
    rw [topicToUnsubscribe_eq found, known] at resolved
    cases resolved
    exact ⟨stored.mp ((subscribesTopic_named named).mp subscribed), by omega⟩
  · rintro ⟨storable, printed⟩
    refine ⟨fun failed => absurd rfl failed, fun _ => ⟨⟨name, ?_, ?_⟩, by omega⟩⟩
    · rw [topicToUnsubscribe_eq found, known]
      rfl
    · exact (subscribesTopic_named named).mpr (stored.mpr storable)

theorem atomicSubscribe_refused_iff (named : IsTopicName name)
    (fresh : ¬ (g.store.files (g.store.nthClient n).fileNumber).Subscribes name)
    (alone : FirstSubscriber g.store name) (refuses : g.RefusesSubscribe) :
    AtomicSubscribe g address topicId shortTopic qos newTopicId ↔
      ¬ CanRegister (g.store.files (g.store.nthClient n).fileNumber) name ∧
        ∃ record ∈ g.store.mqttSub, EntryMqttSubscription.isEmpty record = true := by
  have client := nthClient_topicOf known
  have keeps := (topicOf_keeps known).2 (g.store.nthClient n).fileNumber
  have unstored : ¬ (s.files (g.store.nthClient n).fileNumber).Subscribes name := by
    unfold ClientFiles.Subscribes at fresh ⊢
    rw [keeps]
    exact fresh
  obtain ⟨after, rejected, store⟩ := addSubscription_refused qos newTopicId sound.ok sound.idle online
    found known named unstored alone refuses
  have sub := sub_subscribe_iff (n := n) id (grantedQos qos) (sound.ok.topicOf known).1 named
    (by rw [client]; exact unstored)
  rw [client, keeps, (topicOf_counters known).2.2] at sub
  have given : id = 0 ↔ ¬ CanRegister (g.store.files (g.store.nthClient n).fileNumber) name := by
    rw [← topicOf_given_iff sound.ok known, not_not]
  have inside : ((s.subscribe n name id (grantedQos qos)).uncount (some name)).mqttSubBehind = g.store.mqttSubBehind := by
    have room := sound.ok.counts.incrementBehind_room (.inr alone.2 : CountRoom g.store.mqttSub name)
    unfold Store.uncount Store.subscribe
    rw [validName_named named]
    simp only [(topicOf_keeps known).1, (topicOf_counters known).1, room, Nat.add_zero]
  have counts : ((s.subscribe n name id (grantedQos qos)).uncount (some name)).mqttSub = g.store.mqttSub ↔
      ∃ record ∈ g.store.mqttSub, EntryMqttSubscription.isEmpty record = true := by
    have restored := sound.ok.counts.decrement_increment_iff named alone.1 alone.2
    unfold Store.uncount Store.subscribe
    rw [validName_named named]
    simp only [(topicOf_keeps known).1]
    exact restored
  unfold AtomicSubscribe
  simp only [rejected, store, entryAt_found found, Store.files_uncount, sub, counts, given, inside]
  constructor
  · intro atomic
    have kept := atomic.1 nofun
    exact ⟨kept.1, kept.2.1⟩
  · rintro ⟨unregistered, hole⟩
    exact ⟨fun _ => ⟨unregistered, hole, trivial⟩, nofun⟩

end Known

/-- A SUBSCRIBE is atomic just where it is safe. -/
theorem atomicSubscribe_iff_safe (sound : g.Sound) :
    AtomicSubscribe g address topicId shortTopic qos newTopicId ↔ SubscribeSafe g address topicId shortTopic := by
  cases online : g.persistent.isMqttOnline with
  | false =>
    refine iff_of_true (atomicSubscribe_rejected sound.idle (.inl online)) ?_
    intro n name connected
    rw [online] at connected
    cases connected
  | true =>
    cases found : g.store.slotOfAddress address with
    | none =>
      refine iff_of_true (atomicSubscribe_rejected sound.idle (.inr (.inl found))) ?_
      intro n name _ selected
      rw [found] at selected
      cases selected
    | some n =>
      have resolved : g.store.topicToUnsubscribe g.persistent.topicsPre address topicId shortTopic =
        (g.store.topicOf g.persistent.topicsPre n topicId shortTopic).map Prod.fst := topicToUnsubscribe_eq found
      cases known : g.store.topicOf g.persistent.topicsPre n topicId shortTopic with
      | none =>
        rw [known] at resolved
        refine iff_of_true (atomicSubscribe_rejected sound.idle (.inr (.inr ⟨n, found, known⟩))) ?_
        intro m name _ _ same
        rw [resolved] at same
        cases same
      | some topic =>
        obtain ⟨name, id, s⟩ := topic
        rw [known] at resolved
        have safe : SubscribeSafe g address topicId shortTopic ↔
            IsTopicName name ∧ ((g.store.files (g.store.nthClient n).fileNumber).Subscribes name ∨
              (FirstSubscriber g.store name ∧ g.RefusesSubscribe →
                ¬ CanRegister (g.store.files (g.store.nthClient n).fileNumber) name ∧
                  ∃ record ∈ g.store.mqttSub, EntryMqttSubscription.isEmpty record = true) ∧
              (¬ (FirstSubscriber g.store name ∧ g.RefusesSubscribe) →
                Storable (g.store.files (g.store.nthClient n).fileNumber) name ∧
                  incrementOverrun g.store.mqttSub name = 0)) := by
          constructor
          · intro holds
            exact holds n name online found resolved
          · intro holds m other _ selected same
            rw [found] at selected
            rw [resolved] at same
            cases selected
            cases same
            exact holds
        rw [safe]
        by_cases named : IsTopicName name
        · by_cases again : (g.store.files (g.store.nthClient n).fileNumber).Subscribes name
          · exact iff_of_true (atomicSubscribe_again sound online found known named again) ⟨named, .inl again⟩
          · by_cases refused : FirstSubscriber g.store name ∧ g.RefusesSubscribe
            · rw [atomicSubscribe_refused_iff sound online found known named again refused.1 refused.2]
              simp [named, again, refused]
            · rw [atomicSubscribe_accepted_iff sound online found known named again refused]
              simp [named, again, refused]
        · refine iff_of_false (not_atomicSubscribe_unnamed sound online found known named) ?_
          exact fun holds => named holds.1

/-- While the tables are intact. -/
theorem addSubscription_atomic_iff {input : Input} (reachable : g.Reachable) :
    (g.store.Intact ∧ SubscribeSafe (g.prepare input) address topicId shortTopic →
      AtomicSubscribe (g.prepare input) address topicId shortTopic qos newTopicId) ∧
    (g.store.Intact → AtomicSubscribe (g.prepare input) address topicId shortTopic qos newTopicId →
      SubscribeSafe (g.prepare input) address topicId shortTopic) := by
  have exact_safe : AtomicSubscribe (g.prepare input) address topicId shortTopic qos newTopicId ↔
      SubscribeSafe (g.prepare input) address topicId shortTopic :=
    atomicSubscribe_iff_safe (sound_prepare reachable.sound)
  exact ⟨fun safe => exact_safe.mpr safe.2, fun _ => exact_safe.mp⟩

end Gateway

namespace Scenario

def registrant : Gateway :=
  (run [47] [.mqttConnect, .datagram (client 1) (Datagram.connect (name 65) 10 0) [],
    .datagram (client 1) (Datagram.register 1 (name 116)) []]).get (by decide +kernel)

theorem reachable_registrant : registrant.Reachable := reachable_run (Option.some_get _).symm

/-- The broker refuses the first subscription to a topic: the client is told so, and its record stays. -/
theorem refused_subscription_stays :
    registrant.Reachable ∧
      (Gateway.addSubscription pahoMqttMessageHandler (registrant.prepare ⟨.mqttConnectionLost, [false], []⟩)
        (client 1).getDeviceAddress 1 true 0 0).1 = .zero ∧
      ¬ Gateway.AtomicSubscribe (registrant.prepare ⟨.mqttConnectionLost, [false], []⟩)
        (client 1).getDeviceAddress 1 true 0 0 := by
  refine ⟨reachable_registrant, by decide +kernel, ?_⟩
  intro atomic
  have kept := (atomic.1 (by decide +kernel)).1.1
  exact absurd kept (by decide +kernel)

/-- A repeated SUBSCRIBE changes nothing. -/
theorem addSubscription_atomic_oneSubscriber :
    Gateway.AtomicSubscribe (oneSubscriber.prepare ⟨.mqttConnectionLost, [false], []⟩)
      (client 1).getDeviceAddress 1 true 1 0 := by
  have intact : oneSubscriber.store.Intact := by decide +kernel
  apply (Gateway.addSubscription_atomic_iff reachable_oneSubscriber).1
  refine ⟨intact, ?_⟩
  intro n topic _ found resolved
  have slot : oneSubscriber.store.slotOfAddress (client 1).getDeviceAddress = some 0 := by decide +kernel
  have known : oneSubscriber.store.topicToUnsubscribe oneSubscriber.persistent.topicsPre (client 1).getDeviceAddress 1
      true = some (name 116) := by decide +kernel
  cases slot.symm.trans found
  cases known.symm.trans resolved
  exact ⟨by decide, .inl (by decide +kernel)⟩

end Scenario

end MqttSnGateway
