import MqttSnGateway.Core.RequestSpecs
import MqttSnGateway.Core.ConnectSpecs
import MqttSnGateway.Core.Sound
import MqttSnGateway.Core.SubscriptionSpecs

namespace MqttSnGateway

open Persistent Store

def SnMessage.asks : SnMessage → Option MessageType
  | .willtopicreq => some .willtopic
  | .willmsgreq => some .willmsg
  | .register _ _ _ => some .regack
  | .publish _ _ _ _ _ qos _ => if qos = 1 then some .puback else none
  | .pubrec _ => some .pubrel
  | _ => none

namespace Gateway

variable {g after : Gateway} {address : DeviceAddress} {n : Nat}

/-- An operation that is over, followed by at most one message that asks for nothing. -/
inductive Answered (between : Gateway) (address : DeviceAddress) : Gateway → Prop
  | silent : Answered between address between
  | sent {message : SnMessage} (plain : message.asks = none) : Answered between address (between.send address message)

/-- How a SUBSCRIBE ends whose topic comes from `topic`: rejected, or as a subscription. -/
inductive Subscribes (g : Gateway) (address : DeviceAddress) (qos : UInt8)
    (topic : Store → Nat → Option (CString × UInt16 × Store)) : Gateway → Prop
  | rejected {between : Gateway} (settles : g.Settles g.store between) (silent : between.sent = g.sent) :
    Subscribes g address qos topic between
  | subscribed {n : Nat} {name : CString} {id : UInt16} {s : Store} {between : Gateway}
    (online : g.persistent.isMqttOnline = true) (found : g.store.slotOfAddress address = some n)
    (known : topic g.store n = some (name, id, s)) (subscription : Subscription g n name id qos s between) :
    Subscribes g address qos topic between

/-- A REGISTER of a client that is found registers the name. -/
inductive Registers (g : Gateway) (address : DeviceAddress) (topicName : CString) : Gateway → Prop
  | rejected {between : Gateway} (settles : g.Settles g.store between) (silent : between.sent = g.sent) :
    Registers g address topicName between
  | registered {n : Nat} {between : Gateway} (online : g.persistent.isMqttOnline = true)
    (found : g.store.slotOfAddress address = some n)
    (settles : g.Settles (g.store.setFiles n fun files => (registerName files topicName).2) between)
    (silent : between.sent = g.sent) : Registers g address topicName between

/-- What the handler of a request does. The requests not named here touch the sender only. -/
def Handles (g : Gateway) (address : DeviceAddress) (request : Request) (after : Gateway) : Prop :=
  match request with
  | .connect clientId duration will clean => Connection g clientId duration will clean address after
  | .register _ topicName => ∃ between, Registers g address topicName between ∧ Answered between address after
  | .subscribe topicId _ shortTopic qos => ∃ between,
    Subscribes g address (grantedQos qos) (fun s n => s.topicOf g.persistent.topicsPre n topicId shortTopic) between ∧
      Answered between address after
  | .subscribeByName topicName _ qos => ∃ between,
    (Registers g address topicName between ∨
      Subscribes g address (grantedQos qos) (fun s n => s.topicOfName n topicName) between) ∧
      Answered between address after
  | .unsubscribe topicId _ shortTopic => ∃ between,
    Unsubscription g address topicId (g.store.topicToUnsubscribe g.persistent.topicsPre address topicId shortTopic)
      between ∧ Answered between address after
  | .unsubscribeByName topicName _ => ∃ between,
    Unsubscription g address 0 (some topicName) between ∧ Answered between address after
  | _ => g.Touches address after

section Handlers

theorem answerSubscribe_answered {msgId : UInt16} {outcome : CoreResult × UInt16 × UInt8 × Gateway} :
    Answered outcome.2.2.2 address (answerSubscribe address msgId outcome) := by
  obtain ⟨result, newTopicId, grantedQos, between⟩ := outcome
  cases result with
  | _ => exact .sent rfl

theorem answerUnsubscribe_answered {msgId : UInt16} {outcome : CoreResult × Gateway} :
    Answered outcome.2 address (answerUnsubscribe address msgId outcome) := by
  obtain ⟨result, between⟩ := outcome
  cases result with
  | _ => exact .sent rfl

theorem handleRegister_registers {msgId : UInt16} {topicName : CString} (idle : g.persistent.Idle) :
    ∃ between, Registers g address topicName between ∧
      Answered between address (g.handleRegister address msgId topicName) := by
  unfold handleRegister
  cases online : g.persistent.isMqttOnline with
  | false =>
    rw [registerTopic_offline online]
    exact ⟨_, .rejected (Settles.refl idle) rfl, .sent rfl⟩
  | true =>
    cases selection : g.store.slotOfAddress address with
    | none =>
      rw [registerTopic_missing idle online selection]
      exact ⟨_, .rejected Settles.settled rfl, .sent rfl⟩
    | some n =>
      by_cases long : 255 < topicName.length
      · rw [registerTopic_long idle online selection long]
        exact ⟨_, .rejected Settles.settled rfl, .sent rfl⟩
      · rw [registerTopic_found idle online selection (by omega)]
        exact ⟨_, .registered online selection Settles.settled rfl, .sent rfl⟩

theorem handleSubscribe_subscribes {topicId msgId : UInt16} {shortTopic : Bool} {qos : UInt8}
    (idle : g.persistent.Idle) :
    ∃ between, Subscribes g address (grantedQos qos)
        (fun s n => s.topicOf g.persistent.topicsPre n topicId shortTopic) between ∧
      Answered between address (handleSubscribe pahoMqttMessageHandler g address topicId msgId shortTopic qos) := by
  refine ⟨_, ?_, answerSubscribe_answered⟩
  cases online : g.persistent.isMqttOnline with
  | false =>
    obtain ⟨settles, silent⟩ := addSubscription_rejected qos 0 idle (.inl online)
    exact .rejected settles silent
  | true =>
    cases selection : g.store.slotOfAddress address with
    | none =>
      obtain ⟨settles, silent⟩ := addSubscription_rejected qos 0 idle (.inr (.inl selection))
      exact .rejected settles silent
    | some n =>
      cases known : g.store.topicOf g.persistent.topicsPre n topicId shortTopic with
      | none =>
        obtain ⟨settles, silent⟩ := addSubscription_rejected qos 0 idle
          (.inr (.inr ⟨n, selection, known⟩))
        exact .rejected settles silent
      | some topic =>
        obtain ⟨name, id, s⟩ := topic
        exact .subscribed online selection known (addSubscription_subscription idle online selection known)

/-- A SUBSCRIBE by name registers the name first and then subscribes to the id it was given. -/
theorem handleSubscribeByName_subscribes {topicName : CString} {msgId : UInt16} {qos : UInt8}
    (idle : g.persistent.Idle) :
    ∃ between, (Registers g address topicName between ∨
        Subscribes g address (grantedQos qos) (fun s n => s.topicOfName n topicName) between) ∧
      Answered between address (handleSubscribeByName pahoMqttMessageHandler g address topicName msgId qos) := by
  unfold handleSubscribeByName
  cases online : g.persistent.isMqttOnline with
  | false =>
    rw [registerTopic_offline online]
    exact ⟨_, .inl (.rejected (Settles.refl idle) rfl), .sent rfl⟩
  | true =>
    cases selection : g.store.slotOfAddress address with
    | none =>
      rw [registerTopic_missing idle online selection]
      exact ⟨_, .inl (.rejected Settles.settled rfl), .sent rfl⟩
    | some n =>
      by_cases long : 255 < topicName.length
      · rw [registerTopic_long idle online selection long]
        exact ⟨_, .inl (.rejected Settles.settled rfl), .sent rfl⟩
      · rw [registerTopic_found idle online selection (by omega)]
        simp only
        generalize first : g.settled (g.store.setFiles n fun files => (registerName files topicName).2)
          (g.store.nthClient n) = g'
        have settles : g.Settles (g.store.setFiles n fun files => (registerName files topicName).2) g' := by
          rw [← first]
          exact Settles.settled
        have silent : g'.sent = g.sent := by rw [← first]; rfl
        have selection' : g'.store.slotOfAddress address = some n := by
          rw [settles.store]
          exact selection
        have online' : g'.persistent.isMqttOnline = true := by rw [settles.online, online]
        have topic : g'.store.topicOf g'.persistent.topicsPre n
            (registerName (g.store.files (g.store.nthClient n).fileNumber) topicName).1 true =
            g.store.topicOfName n topicName := by
          rw [settles.store]
          rfl
        refine ⟨_, ?_, answerSubscribe_answered⟩
        cases known : g.store.topicOfName n topicName with
        | none =>
          rw [known] at topic
          obtain ⟨same, quiet⟩ := addSubscription_rejected qos
            (registerName (g.store.files (g.store.nthClient n).fileNumber) topicName).1 settles.idle
            (.inr (.inr ⟨n, selection', topic⟩))
          left
          refine .registered online selection ?_ (quiet.trans silent)
          exact settles.trans (same.cast settles.store)
        | some found =>
          obtain ⟨name, id, s⟩ := found
          rw [known] at topic
          right
          refine .subscribed online selection known ?_
          subst first
          exact (addSubscription_subscription settles.idle online' selection' topic).of_setFiles

end Handlers

section Handles

theorem handle_touches {request : Request} (sound : g.Sound) (nonzero : address ≠ .zero)
    (touching : request.touching = true) (handled : handle pahoMqttMessageHandler g address request = some after) :
    g.Touches address after := by
  obtain ⟨s, acts, settles⟩ := handle_acts sound.idle sound.ok.slots nonzero touching handled
  exact ⟨s, acts.touched, settles⟩

theorem handle_handles {request : Request} (sound : g.Sound) (nonzero : address ≠ .zero)
    (handled : handle pahoMqttMessageHandler g address request = some after) : g.Handles address request after := by
  have idle := sound.idle
  cases request with
  | connect clientId duration will clean => exact handleConnect_connection sound nonzero handled
  | register msgId topicName =>
    cases handled
    exact handleRegister_registers idle
  | subscribe topicId msgId shortTopic qos =>
    cases handled
    exact handleSubscribe_subscribes idle
  | subscribeByName topicName msgId qos =>
    cases handled
    exact handleSubscribeByName_subscribes idle
  | unsubscribe topicId msgId shortTopic =>
    cases handled
    exact ⟨_, deleteSubscription_unsubscription idle, answerUnsubscribe_answered⟩
  | unsubscribeByName topicName msgId =>
    cases handled
    exact ⟨_, deleteSubscriptionByName_unsubscription idle, answerUnsubscribe_answered⟩
  | _ => exact handle_touches sound nonzero rfl handled

end Handles

section Sound

theorem Answered.settles {between : Gateway} {s : Store} (answered : Answered between address after)
    (settles : g.Settles s between) : g.Settles s after := by
  cases answered with
  | silent => exact settles
  | sent _ => exact settles.send

theorem Answered.sound {between : Gateway} (answered : Answered between address after) (sound : between.Sound) :
    after.Sound :=
  sound.settles (answered.settles (Settles.refl sound.idle)) sound.ok

theorem paho_subscribe_granted {topic : CString} {qos : UInt8} {answer : Bool}
    (answered : pahoMqttMessageHandler.subscribe g topic qos = (answer, after)) : g.Called after := by
  have called : g.Called (pahoMqttMessageHandler.subscribe g topic qos).2 := paho_subscribe_called
  rw [answered] at called
  exact called

theorem Subscription.called {name : CString} {id : UInt16} {qos : UInt8} {s : Store}
    (subscription : Subscription g n name id qos s after) : ∃ s entry, (g.settled s entry).Called after := by
  cases subscription with
  | again _ => exact ⟨_, _, Called.refl⟩
  | counted _ _ _ => exact ⟨_, _, Called.refl⟩
  | first _ _ _ granted => exact ⟨_, _, paho_subscribe_granted granted⟩
  | refused _ _ _ refused => exact ⟨_, _, (paho_subscribe_granted refused).settled⟩

/-- What the topic of a SUBSCRIBE has to bring along: a well-formed store with the same client, where the
    topic is registered under its id. -/
structure Registered (g : Gateway) (n : Nat) (name : CString) (id : UInt16) (s : Store) : Prop where
  ok : s.Ok
  client : s.nthClient n = g.store.nthClient n
  registered : id ≠ 0 → registeredName (s.files (g.store.nthClient n).fileNumber).reg id = some name

theorem registered_topicOf {topicId id : UInt16} {shortTopic : Bool} {name : CString} {s : Store} (ok : g.store.Ok)
    (known : g.store.topicOf g.persistent.topicsPre n topicId shortTopic = some (name, id, s)) :
    Registered g n name id s := by
  obtain ⟨after, client, registered⟩ := ok.topicOf known
  exact ⟨after, client, registered⟩

theorem registered_topicOfName {id : UInt16} {topicName name : CString} {s : Store} (ok : g.store.Ok)
    (known : g.store.topicOfName n topicName = some (name, id, s)) : Registered g n name id s := by
  obtain ⟨_, _, rfl, registered⟩ := Store.topicOfName_found known
  exact ⟨ok.register, rfl, fun _ => registered⟩

theorem Subscription.store_ok {name : CString} {id : UInt16} {qos : UInt8} {s : Store}
    (subscription : Subscription g n name id qos s after) (registered : Registered g n name id s) : after.store.Ok := by
  have subscribed : ∀ (named : IsTopicName name) (fresh : ¬ (s.files (g.store.nthClient n).fileNumber).Subscribes name),
      (s.subscribe n name id qos).Ok := by
    intro named fresh
    rw [← registered.client] at fresh
    refine registered.ok.subscribe named ?_ fresh
    rw [registered.client]
    exact registered.registered
  cases subscription with
  | again _ => exact registered.ok
  | counted named fresh _ => exact subscribed named fresh
  | first named fresh _ granted =>
    rw [(paho_subscribe_granted granted).store]
    exact subscribed named fresh
  | refused named fresh _ _ => exact (subscribed named fresh).uncount

theorem Subscription.sound {name : CString} {id : UInt16} {qos : UInt8} {s : Store}
    (subscription : Subscription g n name id qos s after) (registered : Registered g n name id s) : after.Sound := by
  obtain ⟨s', entry, called⟩ := subscription.called
  refine ⟨?_, subscription.store_ok registered⟩
  rw [called.persistent]
  exact idle_settled

theorem Registers.sound {topicName : CString} (registers : Registers g address topicName after) (sound : g.Sound) :
    after.Sound := by
  cases registers with
  | rejected settles _ => exact sound.settles settles sound.ok
  | registered _ _ settles _ => exact sound.settles settles sound.ok.register

theorem Subscribes.sound {qos : UInt8} {topic : Store → Nat → Option (CString × UInt16 × Store)}
    (subscribes : Subscribes g address qos topic after) (sound : g.Sound)
    (registered : ∀ n name id s, topic g.store n = some (name, id, s) → Registered g n name id s) : after.Sound := by
  cases subscribes with
  | rejected settles _ => exact sound.settles settles sound.ok
  | subscribed _ _ known subscription => exact subscription.sound (registered _ _ _ _ known)

theorem Unsubscription.sound {topicId : UInt16} {topicName : Option CString}
    (unsubscription : Unsubscription g address topicId topicName after) (sound : g.Sound) : after.Sound := by
  have unsubscribed : ∀ s, s.Ok → Gateway.Sound
      (pahoMqttMessageHandler.unsubscribe (g.settled s (g.store.entryAt address)) topicName).2 := by
    intro s ok
    have called : (g.settled s (g.store.entryAt address)).Called
        (pahoMqttMessageHandler.unsubscribe (g.settled s (g.store.entryAt address)) topicName).2 :=
      paho_unsubscribe_called
    refine ⟨?_, ?_⟩
    · rw [called.persistent]
      exact idle_settled
    · rw [called.store]
      exact ok
  cases unsubscription with
  | skipped _ _ => exact ⟨idle_settled, sound.ok⟩
  | counted _ deleted _ => exact ⟨idle_settled, sound.ok.unsubscribe deleted⟩
  | last _ deleted _ => exact unsubscribed _ (sound.ok.unsubscribe deleted)
  | failed _ _ => exact unsubscribed _ sound.ok

theorem Handles.sound {request : Request} (handles : g.Handles address request after) (sound : g.Sound)
    (nonzero : address ≠ .zero) : after.Sound := by
  cases request with
  | connect clientId duration will clean => exact Connection.sound handles sound nonzero
  | register msgId topicName =>
    obtain ⟨between, registers, answered⟩ := handles
    exact answered.sound (registers.sound sound)
  | subscribe topicId msgId shortTopic qos =>
    obtain ⟨between, subscribes, answered⟩ := handles
    exact answered.sound (subscribes.sound sound fun _ _ _ _ known => registered_topicOf sound.ok known)
  | subscribeByName topicName msgId qos =>
    obtain ⟨between, registers | subscribes, answered⟩ := handles
    · exact answered.sound (registers.sound sound)
    · exact answered.sound (subscribes.sound sound fun _ _ _ _ known => registered_topicOfName sound.ok known)
  | unsubscribe topicId msgId shortTopic =>
    obtain ⟨between, unsubscription, answered⟩ := handles
    exact answered.sound (unsubscription.sound sound)
  | unsubscribeByName topicName msgId =>
    obtain ⟨between, unsubscription, answered⟩ := handles
    exact answered.sound (unsubscription.sound sound)
  | _ => exact Touches.sound handles sound nonzero

end Sound

end Gateway

end MqttSnGateway
