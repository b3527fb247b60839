import MqttSnGateway.Core.Traversal

namespace MqttSnGateway

open Persistent Store

/-- The topic that a SUBSCRIBE of the client in slot `n` names, and the store in which it is registered. -/
def Store.topicOfName (s : Store) (n : Nat) (topicName : CString) : Option (CString × UInt16 × Store) :=
  let registered := s.setFiles n fun files => (registerName files topicName).2
  let id := (registerName (s.files (s.nthClient n).fileNumber) topicName).1
  if id = 0 then none
  else (registeredName (registered.files (s.nthClient n).fileNumber).reg id).map fun name => (name, id, registered)

/-- The name of a SUBSCRIBE is registered under an id, which stands for the name that is read back. -/
theorem Store.topicOfName_found {s s' : Store} {n : Nat} {id : UInt16} {topicName name : CString}
    (known : s.topicOfName n topicName = some (name, id, s')) :
    id ≠ 0 ∧ id = (registerName (s.files (s.nthClient n).fileNumber) topicName).1 ∧
      s' = (s.setFiles n fun files => (registerName files topicName).2) ∧
      registeredName (s'.files (s.nthClient n).fileNumber).reg id = some name := by
  unfold topicOfName at known
  simp only at known
  split at known
  · cases known
  · rename_i used
    obtain ⟨_, registered, same⟩ := Option.map_eq_some_iff.mp known
    cases same
    exact ⟨used, rfl, rfl, registered⟩

def Store.topicToUnsubscribe (s : Store) (topicsPre : TopicsPre) (address : DeviceAddress) (topicId : UInt16)
    (shortTopic : Bool) : Option CString :=
  if shortTopic then
    if topicId = 0 then none else registeredName (s.files (s.entryAt address).fileNumber).reg topicId
  else topicsPre.lookup topicId

namespace Gateway

variable {g after : Gateway} {address : DeviceAddress} {n : Nat}

section Subscription

variable {topicId newTopicId msgId : UInt16} {shortTopic : Bool} {qos : UInt8}

/-- What becomes of a SUBSCRIBE of the client in slot `n` to a topic that is registered in `s` already: a repeated
    one changes nothing more; a new one is stored and counted, and the first one asks the broker, whose refusal
    takes the count back. -/
inductive Subscription (g : Gateway) (n : Nat) (name : CString) (id : UInt16) (qos : UInt8) (s : Store) : Gateway → Prop
  | again (again : IsTopicName name → (s.files (g.store.nthClient n).fileNumber).Subscribes name) :
    Subscription g n name id qos s (g.settled s (g.store.nthClient n))
  | counted (named : IsTopicName name) (fresh : ¬ (s.files (g.store.nthClient n).fileNumber).Subscribes name)
    (others : countOf (s.subscribe n name id qos).mqttSub name ≠ 1) :
    Subscription g n name id qos s (g.settled (s.subscribe n name id qos) (g.store.nthClient n))
  | first {after : Gateway} (named : IsTopicName name)
    (fresh : ¬ (s.files (g.store.nthClient n).fileNumber).Subscribes name)
    (alone : countOf (s.subscribe n name id qos).mqttSub name = 1)
    (granted : pahoMqttMessageHandler.subscribe (g.settled (s.subscribe n name id qos) (g.store.nthClient n)) name 1 =
      (true, after)) : Subscription g n name id qos s after
  | refused {after : Gateway} (named : IsTopicName name)
    (fresh : ¬ (s.files (g.store.nthClient n).fileNumber).Subscribes name)
    (alone : countOf (s.subscribe n name id qos).mqttSub name = 1)
    (refused : pahoMqttMessageHandler.subscribe (g.settled (s.subscribe n name id qos) (g.store.nthClient n)) name 1 =
      (false, after)) :
    Subscription g n name id qos s
      (after.settled ((s.subscribe n name id qos).uncount (some name)) (g.store.nthClient n))

theorem Subscription.of_setFiles {h : ClientFiles → ClientFiles} {entry : EntryClient} {name : CString} {id : UInt16}
    {s : Store} (subscription : Subscription (g.settled (g.store.setFiles n h) entry) n name id qos s after) :
    Subscription g n name id qos s after := by
  cases subscription with
  | again again => exact .again again
  | counted named fresh others => exact .counted named fresh others
  | first named fresh alone granted => exact .first named fresh alone granted
  | refused named fresh alone refused => exact .refused named fresh alone refused

theorem nthClient_topicOf {s after : Store} {topicsPre : TopicsPre} {name : CString} {id : UInt16}
    (known : s.topicOf topicsPre n topicId shortTopic = some (name, id, after)) : after.nthClient n = s.nthClient n := by
  cases Store.topicOf_found known <;> rfl

theorem addSubscription_subscription {name : CString} {id : UInt16} {s : Store} (idle : g.persistent.Idle)
    (online : g.persistent.isMqttOnline = true) (found : g.store.slotOfAddress address = some n)
    (known : g.store.topicOf g.persistent.topicsPre n topicId shortTopic = some (name, id, s)) :
    Subscription g n name id (grantedQos qos) s
      (addSubscription pahoMqttMessageHandler g address topicId shortTopic qos newTopicId).2.2.2 := by
  by_cases again : IsTopicName name → (s.files (g.store.nthClient n).fileNumber).Subscribes name
  · rw [addSubscription_again idle online found known again]
    exact .again again
  · obtain ⟨named, fresh⟩ : IsTopicName name ∧ ¬ (s.files (g.store.nthClient n).fileNumber).Subscribes name := by
      simpa using again
    rw [addSubscription_known idle online found known]
    rw [subscribeTo_new (nthClient_topicOf known).symm named fresh]
    split
    · rename_i alone
      generalize answered : pahoMqttMessageHandler.subscribe
        (g.settled (s.subscribe n name id (grantedQos qos)) (g.store.nthClient n)) name 1 = answer
      obtain ⟨granted, after⟩ := answer
      cases granted with
      | true => exact .first named fresh alone answered
      | false =>
        have same : after.update (fun p => p.decrementGlobalSubscriptionCount (some name)) =
            after.settled ((s.subscribe n name id (grantedQos qos)).uncount (some name)) (g.store.nthClient n) := by
          have kept : after.persistent = g.persistent.settled (s.subscribe n name id (grantedQos qos))
              (g.store.nthClient n) := by
            have called : (g.settled (s.subscribe n name id (grantedQos qos)) (g.store.nthClient n)).Called
                (pahoMqttMessageHandler.subscribe (g.settled (s.subscribe n name id (grantedQos qos))
                  (g.store.nthClient n)) name 1).2 := paho_subscribe_called
            rw [answered] at called
            exact called.persistent
          unfold update settled
          simp only [kept, decrement_settled]
          rfl
        simp only [same]
        exact .refused named fresh alone answered
    · rename_i others
      exact .counted named fresh others

theorem addSubscription_rejected (qos : UInt8) (newTopicId : UInt16) (idle : g.persistent.Idle)
    (rejected : g.persistent.isMqttOnline = false ∨ g.store.slotOfAddress address = none ∨
      ∃ n, g.store.slotOfAddress address = some n ∧ g.store.topicOf g.persistent.topicsPre n topicId shortTopic = none) :
    g.Settles g.store (addSubscription pahoMqttMessageHandler g address topicId shortTopic qos newTopicId).2.2.2 ∧
      (addSubscription pahoMqttMessageHandler g address topicId shortTopic qos newTopicId).2.2.2.sent = g.sent := by
  cases online : g.persistent.isMqttOnline with
  | false =>
    rw [addSubscription_offline online]
    exact ⟨Settles.refl idle, rfl⟩
  | true =>
    rcases rejected with offline | missing | ⟨n, found, unknown⟩
    · rw [online] at offline
      cases offline
    · rw [addSubscription_missing idle online missing]
      exact ⟨Settles.settled, rfl⟩
    · rw [addSubscription_unknown idle online found unknown]
      exact ⟨Settles.settled, rfl⟩

end Subscription

section Unsubscription

variable {topicId : UInt16} {topicName : Option CString} {shortTopic : Bool}

/-- What an UNSUBSCRIBE does with the id and the name of its topic. The test for a subscription is inverted. -/
inductive Unsubscription (g : Gateway) (address : DeviceAddress) (topicId : UInt16) (topicName : Option CString) :
    Gateway → Prop
  | skipped {n : Nat} (found : g.store.slotOfAddress address = some n)
    (subscribed : g.store.SubscribesTopic (g.store.entryAt address).fileNumber topicName) :
    Unsubscription g address topicId topicName (g.settled g.store (g.store.entryAt address))
  | counted {s : Store} (fresh : g.store.slotOfAddress address ≠ none →
      ¬ g.store.SubscribesTopic (g.store.entryAt address).fileNumber topicName)
    (deleted : g.store.unsubscribe (g.store.entryAt address).fileNumber topicId topicName = some s)
    (others : s.countOfTopic topicName ≠ 0) :
    Unsubscription g address topicId topicName (g.settled s (g.store.entryAt address))
  | last {s : Store} (fresh : g.store.slotOfAddress address ≠ none →
      ¬ g.store.SubscribesTopic (g.store.entryAt address).fileNumber topicName)
    (deleted : g.store.unsubscribe (g.store.entryAt address).fileNumber topicId topicName = some s)
    (alone : s.countOfTopic topicName = 0) :
    Unsubscription g address topicId topicName
      (pahoMqttMessageHandler.unsubscribe (g.settled s (g.store.entryAt address)) topicName).2
  | failed (fresh : g.store.slotOfAddress address ≠ none →
      ¬ g.store.SubscribesTopic (g.store.entryAt address).fileNumber topicName)
    (failed : g.store.unsubscribe (g.store.entryAt address).fileNumber topicId topicName = none) :
    Unsubscription g address topicId topicName
      (pahoMqttMessageHandler.unsubscribe (g.settled g.store (g.store.entryAt address)) topicName).2

theorem startClientTransaction_entryAt (idle : g.persistent.Idle) :
    g.startClientTransaction address = g.inside g.store (g.store.entryAt address)
      (g.store.slotOfAddress address).isNone false := by
  cases selection : g.store.slotOfAddress address with
  | some n =>
    rw [startClientTransaction_found idle selection, entryAt_found selection]
    rfl
  | none =>
    rw [startClientTransaction_missing idle selection]
    unfold entryAt
    rw [selection]
    rfl

theorem deleteSubscriptionOf_unsubscription :
    Unsubscription g address topicId topicName
      (deleteSubscriptionOf pahoMqttMessageHandler
        (g.inside g.store (g.store.entryAt address) (g.store.slotOfAddress address).isNone false) topicId topicName).2 := by
  by_cases subscribed : g.store.slotOfAddress address ≠ none ∧
      g.store.SubscribesTopic (g.store.entryAt address).fileNumber topicName
  · obtain ⟨n, found⟩ := Option.ne_none_iff_exists'.mp subscribed.1
    have known : (g.store.slotOfAddress address).isNone = false := by
      rw [found]
      rfl
    rw [known, deleteSubscriptionOf_subscribed subscribed.2]
    exact .skipped found subscribed.2
  · have fresh : g.store.slotOfAddress address ≠ none →
        ¬ g.store.SubscribesTopic (g.store.entryAt address).fileNumber topicName :=
      fun given holds => subscribed ⟨given, holds⟩
    rw [deleteSubscriptionOf_fresh]
    · cases deleted : g.store.unsubscribe (g.store.entryAt address).fileNumber topicId topicName with
      | some s =>
        simp only
        by_cases alone : s.countOfTopic topicName = 0
        · rw [if_pos alone]
          exact .last fresh deleted alone
        · rw [if_neg alone]
          exact .counted fresh deleted alone
      | none => exact .failed fresh deleted
    · intro known
      apply fresh
      intro missing
      rw [missing] at known
      cases known

theorem deleteSubscription_unsubscription (idle : g.persistent.Idle) :
    Unsubscription g address topicId (g.store.topicToUnsubscribe g.persistent.topicsPre address topicId shortTopic)
      (deleteSubscription pahoMqttMessageHandler g address topicId shortTopic).2 := by
  have topic : (if shortTopic then (g.persistent.inside g.store (g.store.entryAt address)
      (g.store.slotOfAddress address).isNone false).getTopicName topicId
      else (g.persistent.inside g.store (g.store.entryAt address)
        (g.store.slotOfAddress address).isNone false).getPredefinedTopicName topicId) =
      g.store.topicToUnsubscribe g.persistent.topicsPre address topicId shortTopic := by
    unfold topicToUnsubscribe
    rw [getTopicName_inside]
    rfl
  unfold deleteSubscription
  rw [startClientTransaction_entryAt idle]
  simp only [persistent_inside, topic]
  exact deleteSubscriptionOf_unsubscription

theorem deleteSubscriptionByName_unsubscription {name : CString} (idle : g.persistent.Idle) :
    Unsubscription g address 0 (some name) (deleteSubscriptionByName pahoMqttMessageHandler g address name).2 := by
  unfold deleteSubscriptionByName
  rw [startClientTransaction_entryAt idle]
  exact deleteSubscriptionOf_unsubscription

end Unsubscription

end Gateway

end MqttSnGateway
