import MqttSnGateway.Core.SessionSpecs

namespace MqttSnGateway

open Persistent

namespace Store

/-- The name, the topic id and the store with which a SUBSCRIBE of the client in slot `n` goes on: a
    registered id stands for itself, the name of a predefined id is registered. -/
def topicOf (s : Store) (topicsPre : TopicsPre) (n : Nat) (topicId : UInt16) (shortTopic : Bool) :
    Option (CString × UInt16 × Store) :=
  let files := s.files (s.nthClient n).fileNumber
  if shortTopic then
    if topicId = 0 then none else (registeredName files.reg topicId).map fun name => (name, topicId, s)
  else (topicsPre.lookup topicId).map fun name =>
    (name, (registerName files name).1, s.setFiles n fun files => (registerName files name).2)

/-- The two ways in which the topic of a SUBSCRIBE is found. -/
inductive TopicFound (s : Store) (topicsPre : TopicsPre) (n : Nat) (topicId : UInt16) : Bool → CString → UInt16 → Store → Prop
  | registered {name : CString} (used : topicId ≠ 0)
    (registered : registeredName (s.files (s.nthClient n).fileNumber).reg topicId = some name) :
    TopicFound s topicsPre n topicId true name topicId s
  | predefined {name : CString} (predefined : topicsPre.lookup topicId = some name) :
    TopicFound s topicsPre n topicId false name (registerName (s.files (s.nthClient n).fileNumber) name).1
      (s.setFiles n fun files => (registerName files name).2)

theorem topicOf_found {s s' : Store} {topicsPre : TopicsPre} {n : Nat} {topicId id : UInt16} {shortTopic : Bool}
    {name : CString} (known : s.topicOf topicsPre n topicId shortTopic = some (name, id, s')) :
    TopicFound s topicsPre n topicId shortTopic name id s' := by
  unfold topicOf at known
  cases shortTopic with
  | true =>
    simp only [if_true] at known
    split at known
    · cases known
    · rename_i used
      obtain ⟨_, registered, same⟩ := Option.map_eq_some_iff.mp known
      cases same
      exact .registered used registered
  | false =>
    simp only [Bool.false_eq_true, if_false] at known
    obtain ⟨_, predefined, same⟩ := Option.map_eq_some_iff.mp known
    cases same
    exact .predefined predefined

/-- A new subscription of the client in slot `n`, counted in MQTT.SUB. -/
def subscribe (s : Store) (n : Nat) (name : CString) (topicId : UInt16) (qos : UInt8) : Store :=
  let stored := if topicId = 0 then s else s.setFiles n fun files => appendSubscription files ⟨topicId, qos, name⟩
  { stored with
    mqttSub := incrementCount s.mqttSub name
    mqttSubBehind := s.mqttSubBehind + incrementBehind s.mqttSub name
    overruns := s.overruns + incrementOverrun s.mqttSub name }

def uncount (s : Store) (topicName : Option CString) : Store :=
  match validName topicName with
  | some name => { s with mqttSub := decrementCount s.mqttSub name }
  | none => s

/-- `delete_subscription` and the decrement that follows it; no subscription with the id is an error. -/
def unsubscribe (s : Store) (number : CString) (topicId : UInt16) (topicName : Option CString) : Option Store :=
  if topicId = 0 then some (s.uncount topicName)
  else match (s.files number).sub.findIdx? fun entry => entry.topicId = topicId with
    | some i => some ((s.modifyFiles number fun files => { files with sub := files.sub.set i .zero }).uncount topicName)
    | none => none

/-- The count of a topic that may have no valid name. -/
def countOfTopic (s : Store) (topicName : Option CString) : Nat :=
  match validName topicName with
  | some name => countOf s.mqttSub name
  | none => 0

/-- Whether a client has a subscription to the topic. -/
def SubscribesTopic (s : Store) (number : CString) (topicName : Option CString) : Prop :=
  ∃ name, validName topicName = some name ∧ (s.files number).Subscribes name

end Store

namespace Gateway

variable {g : Gateway} {address : DeviceAddress} {n : Nat}

section Register

variable {topicName : CString} {newTopicId : UInt16}

theorem registerTopic_offline (offline : g.persistent.isMqttOnline = false) :
    g.registerTopic address topicName newTopicId = (.zero, newTopicId, g) := by
  unfold registerTopic
  rw [if_pos (by simp [offline])]

theorem registerTopic_missing (idle : g.persistent.Idle) (online : g.persistent.isMqttOnline = true)
    (missing : g.store.slotOfAddress address = none) :
    g.registerTopic address topicName newTopicId = (.zero, newTopicId, g.settled g.store .zero) := by
  unfold registerTopic
  rw [if_neg (by simp [online]), startClientTransaction_missing idle missing]
  rfl

theorem addClientRegistration_inside {p : Persistent} {s : Store} (fits : topicName.length ≤ 255) :
    (p.inside s (s.nthClient n) false false).addClientRegistration topicName newTopicId =
      ((registerName (s.files (s.nthClient n).fileNumber) topicName).1,
        p.inside (s.setFiles n fun files => (registerName files topicName).2) (s.nthClient n) false false) := by
  unfold addClientRegistration
  rw [if_neg (by simp), if_neg (by simp), if_neg (by omega)]
  rfl

theorem registerTopic_long (idle : g.persistent.Idle) (online : g.persistent.isMqttOnline = true)
    (found : g.store.slotOfAddress address = some n) (long : 255 < topicName.length) :
    g.registerTopic address topicName newTopicId = (.zero, newTopicId, g.settled g.store (g.store.nthClient n)) := by
  have rejected : (g.persistent.inside g.store (g.store.nthClient n) false false).addClientRegistration topicName
      newTopicId = (newTopicId, g.persistent.inside g.store (g.store.nthClient n) false true) := by
    unfold addClientRegistration
    rw [if_neg (by simp), if_neg (by simp), if_pos long]
    rfl
  unfold registerTopic
  rw [if_neg (by simp [online]), startClientTransaction_found idle found]
  simp only [persistent_inside, rejected]
  rfl

theorem registerTopic_found (idle : g.persistent.Idle) (online : g.persistent.isMqttOnline = true)
    (found : g.store.slotOfAddress address = some n) (fits : topicName.length ≤ 255) :
    g.registerTopic address topicName newTopicId =
      (.success, (registerName (g.store.files (g.store.nthClient n).fileNumber) topicName).1,
        g.settled (g.store.setFiles n fun files => (registerName files topicName).2) (g.store.nthClient n)) := by
  unfold registerTopic
  rw [if_neg (by simp [online]), startClientTransaction_found idle found]
  simp only [persistent_inside, addClientRegistration_inside fits]
  rfl

end Register

section Publish

variable {data : List UInt8} {msgId topicId : UInt16} {shortTopic retain : Bool} {qos : Int}

theorem paho_publish_inside {s : Store} {entry : EntryClient} {unknown : Bool} {topic : CString} {payload : List UInt8}
    {level : UInt8} :
    pahoMqttMessageHandler.publish (g.inside s entry unknown false) topic payload level retain =
      ((pahoMqttMessageHandler.publish g topic payload level retain).1,
        (pahoMqttMessageHandler.publish g topic payload level retain).2.inside s entry unknown false) := by
  unfold inside
  rw [paho_publish_with, paho_publish_persistent]

theorem paho_publish_settled {s : Store} {entry : EntryClient} {topic : CString} {payload : List UInt8} {level : UInt8} :
    g.Settles s (pahoMqttMessageHandler.publish (g.settled s entry) topic payload level retain).2 :=
  Settles.settled.trans (paho_publish_settles idle_settled)

/-- A publish of a client changes nothing but the connection that it may lose. -/
theorem publish_settles (idle : g.persistent.Idle) :
    g.Settles g.store (publish pahoMqttMessageHandler g address data topicId shortTopic retain qos).2 := by
  unfold publish
  cases online : g.persistent.isMqttOnline with
  | false =>
    rw [if_pos (by simp)]
    exact Settles.refl idle
  | true =>
    rw [if_neg (by simp)]
    have opened : ∃ entry unknown, g.startClientTransaction address = g.inside g.store entry unknown false := by
      cases selection : g.store.slotOfAddress address with
      | some n => exact ⟨_, _, startClientTransaction_found idle selection⟩
      | none => exact ⟨_, _, startClientTransaction_missing idle selection⟩
    obtain ⟨entry, unknown, same⟩ := opened
    rw [same]
    simp only
    split
    · split
      · simp only [paho_publish_inside, applyTransaction_inside]
        exact (paho_publish_settles idle).trans Settles.settled
      · simp only [applyTransaction_inside]
        exact Settles.settled
    · simp only [applyTransaction_inside]
      cases (if shortTopic then (g.inside g.store entry unknown false).persistent.getTopicName topicId
        else (g.inside g.store entry unknown false).persistent.getPredefinedTopicName topicId) with
      | none => exact Settles.settled
      | some topicName =>
        simp only
        by_cases refused : (!CoreResult.is (if unknown = true then 255 else 1) .success) = true
        · simp only [Bool.false_eq_true, if_false, refused, if_true]
          exact Settles.settled
        · simp only [Bool.false_eq_true, if_false, refused]
          exact paho_publish_settled

/-- Only a publish of QoS 2 that is answered with PUBREC changes the registry. -/
theorem handlePublish_settles (idle : g.persistent.Idle) :
    let after := handlePublish pahoMqttMessageHandler g address data msgId topicId shortTopic retain qos
    g.Settles g.store after ∨ qos ≠ -1 ∧ qos ≠ 0 ∧ qos ≠ 1 ∧
      g.Settles (g.store.updateAt address fun entry => { entry with awaitMessage := .pubrel }) after := by
  have published : g.Settles g.store (publish pahoMqttMessageHandler g address data topicId shortTopic retain qos).2 :=
    publish_settles idle
  unfold handlePublish
  generalize publish pahoMqttMessageHandler g address data topicId shortTopic retain qos = outcome at published ⊢
  obtain ⟨result, after⟩ := outcome
  simp only at published ⊢
  split
  · exact .inl published
  · split
    · split
      · exact .inl published.send
      · exact .inl published.send
    · split
      · split
        · exact .inl published.send
        · exact .inl published
      · split
        · split
          · exact .inl published.send
          · exact .inl published.send
        · right
          rename_i minus_one _ zero one
          refine ⟨minus_one, zero, one, ?_⟩
          have awaited := awaitMessage_settles address .pubrel published.idle
          rw [published.store] at awaited
          have total := published.trans awaited
          generalize after.awaitMessage address .pubrel = reply at total ⊢
          obtain ⟨result, last⟩ := reply
          cases result with
          | success => exact total.send
          | _ => exact total.send

end Publish

section Subscribe

variable {topicId newTopicId : UInt16} {shortTopic : Bool} {qos : UInt8}

def grantedQos (qos : UInt8) : UInt8 := if 1 ≤ qos then 1 else 0

theorem addSubscription_offline (offline : g.persistent.isMqttOnline = false) :
    addSubscription pahoMqttMessageHandler g address topicId shortTopic qos newTopicId = (.zero, newTopicId, 0, g) := by
  unfold addSubscription
  rw [if_pos (by simp [offline])]

theorem addSubscription_missing (idle : g.persistent.Idle) (online : g.persistent.isMqttOnline = true)
    (missing : g.store.slotOfAddress address = none) :
    addSubscription pahoMqttMessageHandler g address topicId shortTopic qos newTopicId =
      (.zero, newTopicId, 0, g.settled g.store .zero) := by
  unfold addSubscription
  rw [if_neg (by simp [online]), startClientTransaction_missing idle missing]
  rfl

theorem getTopicName_inside {p : Persistent} {s : Store} {entry : EntryClient} {unknown : Bool} :
    (p.inside s entry unknown false).getTopicName topicId =
      if topicId = 0 then none else registeredName (s.files entry.fileNumber).reg topicId := by
  unfold getTopicName
  rw [if_neg (by simp)]
  rfl

/-- A transaction in slot `n` resolves the topic of a SUBSCRIBE as `topicOf` says. -/
theorem subscriptionTopic_inside {s : Store} :
    (g.inside s (s.nthClient n) false false).subscriptionTopic topicId shortTopic newTopicId =
      match s.topicOf g.persistent.topicsPre n topicId shortTopic with
      | some (name, id, s') => (some name, id, g.inside s' (s.nthClient n) false false)
      | none => (none, newTopicId, g.inside s (s.nthClient n) false false) := by
  unfold subscriptionTopic Store.topicOf
  simp only [persistent_inside, getTopicName_inside]
  cases shortTopic with
  | true =>
    simp only [if_true]
    split <;> rename_i found
    · split at found
      · cases found
      · rename_i given
        rw [if_neg given, found]
        rfl
    · split at found
      · rename_i zero
        rw [if_pos zero]
      · rename_i given
        rw [if_neg given, found]
        rfl
  | false =>
    simp only [Bool.false_eq_true, if_false]
    have predefined : (g.persistent.inside s (s.nthClient n) false false).getPredefinedTopicName topicId =
        g.persistent.topicsPre.lookup topicId := rfl
    rw [predefined]
    cases known : g.persistent.topicsPre.lookup topicId with
    | none => rfl
    | some name =>
      have short := g.persistent.topicsPre.short topicId name known
      have fits : name.length ≤ 255 := by omega
      simp only [addClientRegistration_inside fits, Option.map_some]
      rfl

theorem addSubscription_unknown (idle : g.persistent.Idle) (online : g.persistent.isMqttOnline = true)
    (found : g.store.slotOfAddress address = some n)
    (unknown : g.store.topicOf g.persistent.topicsPre n topicId shortTopic = none) :
    addSubscription pahoMqttMessageHandler g address topicId shortTopic qos newTopicId =
      (.zero, newTopicId, grantedQos qos, g.settled g.store (g.store.nthClient n)) := by
  unfold addSubscription
  rw [if_neg (by simp [online]), startClientTransaction_found idle found]
  simp only [persistent_inside, clientExist_inside, subscriptionTopic_inside, unknown]
  rw [if_neg (by simp), applyTransaction_inside]
  rfl

theorem isSubscribed_inside {p : Persistent} {s : Store} {entry : EntryClient} {name : CString} (named : IsTopicName name) :
    (p.inside s entry false false).isSubscribed (some name) = true ↔ (s.files entry.fileNumber).Subscribes name := by
  unfold isSubscribed
  rw [if_pos (by rfl), validName_named named]
  exact ClientFiles.any_isSubscriptionTo named

theorem isSubscribed_unnamed {p : Persistent} {name : CString} (unnamed : ¬ IsTopicName name) :
    p.isSubscribed (some name) = false := by
  have invalid : validName (some name) = none := by
    cases valid : validName (some name) with
    | none => rfl
    | some other =>
      obtain ⟨same, named⟩ := named_of_validName valid
      cases same
      exact absurd named unnamed
  unfold isSubscribed
  rw [invalid]
  split <;> rfl

theorem validName_unnamed {name : CString} (unnamed : ¬ IsTopicName name) : validName (some name) = none := by
  cases valid : validName (some name) with
  | none => rfl
  | some other =>
    obtain ⟨same, named⟩ := named_of_validName valid
    cases same
    exact absurd named unnamed

theorem addSubscription_known {name : CString} {id : UInt16} {s : Store} (idle : g.persistent.Idle)
    (online : g.persistent.isMqttOnline = true) (found : g.store.slotOfAddress address = some n)
    (known : g.store.topicOf g.persistent.topicsPre n topicId shortTopic = some (name, id, s)) :
    addSubscription pahoMqttMessageHandler g address topicId shortTopic qos newTopicId =
      let outcome := subscribeTo pahoMqttMessageHandler (g.inside s (g.store.nthClient n) false false) name id
        (grantedQos qos)
      (outcome.1, id, grantedQos qos, outcome.2) := by
  unfold addSubscription
  rw [if_neg (by simp [online]), startClientTransaction_found idle found]
  simp only [persistent_inside, clientExist_inside, subscriptionTopic_inside, known]
  rw [if_neg (by simp)]
  rfl

theorem rejection_none {result : UInt8} {expected : List CoreResult}
    (plain : result = 0 ∨ result = 1 ∨ result = 255) (others : CoreResult.success ∉ expected ∧ CoreResult.zero ∉ expected) :
    rejection expected result = none := by
  unfold rejection
  rw [List.find?_eq_none]
  intro code member
  cases code with
  | success => exact absurd member others.1
  | zero => exact absurd member others.2
  | _ => rcases plain with rfl | rfl | rfl <;> decide

/-- A repeated SUBSCRIBE, or one to a name that cannot be counted, only registers the name. -/
theorem addSubscription_again {name : CString} {id : UInt16} {s : Store} (idle : g.persistent.Idle)
    (online : g.persistent.isMqttOnline = true) (found : g.store.slotOfAddress address = some n)
    (known : g.store.topicOf g.persistent.topicsPre n topicId shortTopic = some (name, id, s))
    (again : IsTopicName name → (s.files (g.store.nthClient n).fileNumber).Subscribes name) :
    addSubscription pahoMqttMessageHandler g address topicId shortTopic qos newTopicId =
      (.success, id, grantedQos qos, g.settled s (g.store.nthClient n)) := by
  have subscribed : subscribeTo pahoMqttMessageHandler (g.inside s (g.store.nthClient n) false false) name id
      (grantedQos qos) = (.success, g.settled s (g.store.nthClient n)) := by
    unfold subscribeTo
    by_cases named : IsTopicName name
    · have subscribed := (isSubscribed_inside (p := g.persistent) named).mpr (again named)
      simp only [persistent_inside, subscribed, if_true]
      rfl
    · have unsubscribed := isSubscribed_unnamed (p := g.persistent.inside s (g.store.nthClient n) false false) named
      have unchanged : (g.inside s (g.store.nthClient n) false false).update (fun p =>
          (p.addSubscription name id (grantedQos qos)).incrementGlobalSubscriptionCount (some name)) =
          g.inside s (g.store.nthClient n) false false := by
        apply update_inside
        unfold Persistent.addSubscription incrementGlobalSubscriptionCount
        simp only [validName_unnamed named, ready_inside]
        rfl
      have uncounted : (g.persistent.inside s (g.store.nthClient n) false false).getGlobalTopicSubscriptionCount
          (some name) = 0 := by
        unfold getGlobalTopicSubscriptionCount
        simp only [validName_unnamed named]
        rfl
      simp only [persistent_inside, unsubscribed, Bool.false_eq_true, if_false, unchanged, uncounted]
      rfl
  rw [addSubscription_known idle online found known, subscribed]

theorem subscribe_inside {s : Store} {name : CString} {entry : EntryClient} (qos : UInt8) (id : UInt16) (same : entry = s.nthClient n)
    (named : IsTopicName name) (fresh : ¬ (s.files entry.fileNumber).Subscribes name) :
    (g.inside s entry false false).update (fun p =>
        (p.addSubscription name id qos).incrementGlobalSubscriptionCount (some name)) =
      g.inside (s.subscribe n name id qos) entry false false := by
  subst same
  apply update_inside
  have absent : ((s.files (s.nthClient n).fileNumber).sub.any fun entry =>
      entry.topicId = id && isSubscriptionTo name entry) = false := by
    rw [List.any_eq_false]
    intro entry member holds
    simp only [Bool.and_eq_true] at holds
    exact fresh ⟨entry, member, (ClientFiles.isSubscriptionTo_iff named).mp holds.2⟩
  have stored : (g.persistent.inside s (s.nthClient n) false false).addSubscription name id qos =
      g.persistent.inside (if id = 0 then s else s.setFiles n fun files => appendSubscription files ⟨id, qos, name⟩)
        (s.nthClient n) false false := by
    unfold Persistent.addSubscription
    rw [if_pos (by rfl)]
    simp only [validName_named named, files_inside, absent]
    split <;> rfl
  rw [stored]
  unfold incrementGlobalSubscriptionCount Store.subscribe
  simp only [error_inside, validName_named named, Bool.false_eq_true, if_false, store_inside]
  split <;> rfl

theorem decrement_settled {s : Store} {entry : EntryClient} {topicName : Option CString} :
    (g.persistent.settled s entry).decrementGlobalSubscriptionCount topicName =
      g.persistent.settled (s.uncount topicName) entry := by
  unfold decrementGlobalSubscriptionCount Store.uncount
  rw [if_neg (by simp [Persistent.settled])]
  cases validName topicName <;> rfl

/-- A new subscription is stored and counted; the first one of the topic asks the broker, and the count
    is taken back when the broker refuses. -/
theorem subscribeTo_new {name : CString} {id : UInt16} {s : Store} {entry : EntryClient} (same : entry = s.nthClient n)
    (named : IsTopicName name) (fresh : ¬ (s.files entry.fileNumber).Subscribes name) :
    subscribeTo pahoMqttMessageHandler (g.inside s entry false false) name id qos =
      if countOf (s.subscribe n name id qos).mqttSub name = 1 then
        match pahoMqttMessageHandler.subscribe (g.settled (s.subscribe n name id qos) entry) name 1 with
        | (true, after) => (.success, after)
        | (false, after) => (.zero, after.update fun p => p.decrementGlobalSubscriptionCount (some name))
      else (.success, g.settled (s.subscribe n name id qos) entry) := by
  have unsubscribed : (g.persistent.inside s entry false false).isSubscribed (some name) = false := by
    rw [← Bool.not_eq_true]
    exact fun subscribed => fresh ((isSubscribed_inside named).mp subscribed)
  have written := subscribe_inside (g := g) qos id same named fresh
  have counted : (g.persistent.inside (s.subscribe n name id qos) entry false false).getGlobalTopicSubscriptionCount
      (some name) = 1 ↔ countOf (s.subscribe n name id qos).mqttSub name = 1 := by
    have count := getGlobalTopicSubscriptionCount_eq (p := g.persistent.inside (s.subscribe n name id qos) entry false
      false) rfl named
    rw [← UInt32.toNat_inj, count]
    rfl
  have accepted : rejection [.full, .clientNonexistence, .clientSubscriptionFull, .topicIdNonexistence] 1 = none :=
    rejection_none (by decide) (by decide)
  unfold subscribeTo
  simp only [persistent_inside, unsubscribed, Bool.false_eq_true, if_false, written, Bool.not_false, Bool.true_and,
    decide_eq_true_eq, counted, applyTransaction_inside, accepted]
  rfl

end Subscribe

section Unsubscribe

variable {topicId : UInt16} {topicName : Option CString} {s : Store} {entry : EntryClient}

theorem isSubscribed_topic {p : Persistent} :
    (p.inside s entry false false).isSubscribed topicName = true ↔ s.SubscribesTopic entry.fileNumber topicName := by
  unfold isSubscribed Store.SubscribesTopic
  rw [if_pos (by rfl)]
  cases valid : validName topicName with
  | none => simp
  | some name =>
    have named := (named_of_validName valid).2
    simp only [Option.some.injEq, exists_eq_left']
    exact ClientFiles.any_isSubscriptionTo named

theorem countOfTopic_eq {p : Persistent} (clean : p.error = false) :
    p.getGlobalTopicSubscriptionCount topicName = 0 ↔ p.store.countOfTopic topicName = 0 := by
  unfold Store.countOfTopic
  cases valid : validName topicName with
  | none =>
    unfold getGlobalTopicSubscriptionCount
    rw [valid, clean]
    simp
  | some name =>
    obtain ⟨rfl, named⟩ := named_of_validName valid
    have count := getGlobalTopicSubscriptionCount_eq clean named
    simp only [← count, ← UInt32.toNat_inj]
    rfl

theorem decrement_inside {unknown : Bool} :
    (g.persistent.inside s entry unknown false).decrementGlobalSubscriptionCount topicName =
      g.persistent.inside (s.uncount topicName) entry unknown false := by
  unfold decrementGlobalSubscriptionCount Store.uncount
  rw [if_neg (by simp)]
  cases validName topicName <;> rfl

/-- The inverted test: nothing happens for a client that is subscribed. -/
theorem deleteSubscriptionOf_subscribed (subscribed : s.SubscribesTopic entry.fileNumber topicName) :
    deleteSubscriptionOf pahoMqttMessageHandler (g.inside s entry false false) topicId topicName =
      (.success, g.settled s entry) := by
  have skipped := (isSubscribed_topic (p := g.persistent)).mpr subscribed
  unfold deleteSubscriptionOf
  simp only [persistent_inside, skipped, if_true]
  rfl

theorem deleteSubscription_inside (g : Gateway) (s : Store) (entry : EntryClient) (unknown : Bool) (topicId : UInt16)
    (topicName : Option CString) :
    ((g.persistent.inside s entry unknown false).deleteSubscription topicId).decrementGlobalSubscriptionCount topicName =
      match s.unsubscribe entry.fileNumber topicId topicName with
      | some after => g.persistent.inside after entry unknown false
      | none => g.persistent.inside s entry unknown true := by
  unfold Persistent.deleteSubscription Store.unsubscribe
  rw [if_neg (by simp)]
  by_cases zero : topicId = 0
  · rw [if_pos zero, if_pos zero]
    exact decrement_inside
  · rw [if_neg zero, if_neg zero, files_inside]
    cases scan : (s.files entry.fileNumber).sub.findIdx? fun entry => entry.topicId = topicId with
    | some i => exact decrement_inside
    | none =>
      simp only
      unfold decrementGlobalSubscriptionCount
      exact if_pos rfl

/-- For a client that is not subscribed the subscription with the id goes and the topic is counted down;
    an error keeps the count from being read, so the gateway unsubscribes whatever it is. -/
theorem deleteSubscriptionOf_fresh {unknown : Bool}
    (fresh : unknown = false → ¬ s.SubscribesTopic entry.fileNumber topicName) :
    deleteSubscriptionOf pahoMqttMessageHandler (g.inside s entry unknown false) topicId topicName =
      match s.unsubscribe entry.fileNumber topicId topicName with
      | some after =>
        if after.countOfTopic topicName = 0 then
          let outcome := pahoMqttMessageHandler.unsubscribe (g.settled after entry) topicName
          (if outcome.1 && !unknown then .success else .zero, outcome.2)
        else (if unknown then .zero else .success, g.settled after entry)
      | none => (.zero, (pahoMqttMessageHandler.unsubscribe (g.settled s entry) topicName).2) := by
  have unsubscribed : (g.persistent.inside s entry unknown false).isSubscribed topicName = false := by
    cases unknown with
    | true => rfl
    | false =>
      rw [← Bool.not_eq_true]
      exact fun subscribed => fresh rfl (isSubscribed_topic.mp subscribed)
  have written := deleteSubscription_inside g s entry unknown topicId topicName
  have accepted : ∀ result, result = 0 ∨ result = 1 ∨ result = 255 →
      rejection [.full, .clientNonexistence, .topicIdNonexistence] result = none :=
    fun result plain => rejection_none plain (by decide)
  have success : CoreResult.is (if unknown then 255 else 1) .success = !unknown := by cases unknown <;> rfl
  unfold deleteSubscriptionOf
  simp only [persistent_inside, unsubscribed, Bool.false_eq_true, if_false, Bool.not_false, Bool.true_and]
  cases deleted : s.unsubscribe entry.fileNumber topicId topicName with
  | some after =>
    rw [deleted] at written
    rw [update_inside written, applyTransaction_inside, accepted _ (by cases unknown <;> simp)]
    have clean : (g.persistent.inside after entry unknown false).error = false := rfl
    simp only [persistent_inside, countOfTopic_eq clean, store_inside, decide_eq_true_eq]
    simp only [Bool.false_eq_true, if_false, success]
    by_cases last : after.countOfTopic topicName = 0
    · rw [if_pos last, if_pos last]
    · rw [if_neg last, if_neg last]
      cases unknown <;> rfl
  | none =>
    rw [deleted] at written
    rw [update_inside written, applyTransaction_inside, accepted _ (by simp)]
    have unread : (g.persistent.inside s entry unknown true).getGlobalTopicSubscriptionCount topicName = 0 := rfl
    have failed : CoreResult.is 0 .success = false := rfl
    simp only [persistent_inside, unread, decide_true, if_true, failed, Bool.and_false, Bool.false_eq_true, if_false]

end Unsubscribe

end Gateway

end MqttSnGateway
