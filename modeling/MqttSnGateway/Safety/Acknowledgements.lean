import MqttSnGateway.Core.SubscribeResults
import MqttSnGateway.Datagrams

namespace MqttSnGateway

open Persistent Store

def Request.onTopics : Request → Bool
  | .register .. | .subscribe .. | .subscribeByName .. | .unsubscribe .. | .unsubscribeByName .. => true
  | _ => false

/-- The messages that may answer a request on topics. An accepted topic id is not 0. -/
def Acknowledges (request : Request) (message : SnMessage) : Prop :=
  match request, message with
  | .register msgId _, .regack topicId acknowledged returnCode =>
    acknowledged = msgId ∧ (returnCode = ReturnCode.accepted → topicId ≠ 0)
  | .subscribe _ msgId _ _, .suback _ topicId acknowledged returnCode
  | .subscribeByName _ msgId _, .suback _ topicId acknowledged returnCode =>
    acknowledged = msgId ∧ (returnCode = ReturnCode.accepted → topicId ≠ 0)
  | .unsubscribe _ msgId _, .unsuback acknowledged | .unsubscribeByName _ msgId, .unsuback acknowledged =>
    acknowledged = msgId
  | request, .disconnect => request.onTopics = true
  | _, _ => False

namespace Gateway

variable {g after : Gateway} {address : DeviceAddress} {n : Nat}

section Register

variable {topicName : CString}

theorem registerName_ne_zero {files : ClientFiles} (ok : files.Ok) (room : files.reg.length < RecordFile.capacity) :
    (registerName files topicName).1 ≠ 0 := by
  rcases ok.registerName_cases topicName with ⟨entry, member, _, same⟩ | ⟨_, appended⟩ | ⟨last, _⟩
  · rw [same]
    exact ok.topicId_ne_zero member
  · rw [appended]
    intro zero
    have bytes := congrArg UInt16.toNat zero
    unfold RecordFile.capacity at room
    rw [show (UInt16.ofNat (files.reg.length + 1), _).1 = UInt16.ofNat (files.reg.length + 1) from rfl,
      UInt16.toNat_ofNat', UInt16.toNat_zero] at bytes
    omega
  · omega

/-- The client that the address selects has room for one more registration. -/
def RegistrationRoom (g : Gateway) (address : DeviceAddress) : Prop :=
  ∀ n, g.store.slotOfAddress address = some n → (g.store.files (g.store.nthClient n).fileNumber).reg.length < 65535

theorem registerTopic_unanswered (sound : g.Sound) (room : g.RegistrationRoom address) (topicName : CString)
    (newTopicId : UInt16) :
    let outcome := g.registerTopic address topicName newTopicId
    g.Unanswered outcome.2.2 ∧ outcome.2.2.Sound ∧ (outcome.1 = .success → outcome.2.1 ≠ 0) := by
  have idle := sound.idle
  cases online : g.persistent.isMqttOnline with
  | false =>
    rw [registerTopic_offline online]
    exact ⟨⟨rfl, rfl⟩, sound, nofun⟩
  | true =>
    cases selection : g.store.slotOfAddress address with
    | none =>
      rw [registerTopic_missing idle online selection]
      exact ⟨.settled, ⟨idle_settled, sound.ok⟩, nofun⟩
    | some n =>
      by_cases long : 255 < topicName.length
      · rw [registerTopic_long idle online selection long]
        exact ⟨.settled, ⟨idle_settled, sound.ok⟩, nofun⟩
      · rw [registerTopic_found idle online selection (by omega)]
        refine ⟨.settled, ⟨idle_settled, sound.ok.register⟩, fun _ => ?_⟩
        exact registerName_ne_zero (sound.ok.files _) (room n selection)

end Register

section Subscribe

variable {topicId msgId : UInt16} {shortTopic : Bool} {qos : UInt8}

theorem topicOf_ne_zero {name : CString} {id : UInt16} {s : Store} (sound : g.Sound)
    (room : shortTopic = false → (g.store.files (g.store.nthClient n).fileNumber).reg.length < 65535)
    (known : g.store.topicOf g.persistent.topicsPre n topicId shortTopic = some (name, id, s)) : id ≠ 0 := by
  cases Store.topicOf_found known with
  | registered used _ => exact used
  | predefined _ => exact registerName_ne_zero (sound.ok.files _) (room rfl)

theorem addSubscription_given (sound : g.Sound) (room : shortTopic = false → g.RegistrationRoom address)
    (topicId newTopicId : UInt16) (qos : UInt8)
    (accepted : (addSubscription pahoMqttMessageHandler g address topicId shortTopic qos newTopicId).1 = .success) :
    (addSubscription pahoMqttMessageHandler g address topicId shortTopic qos newTopicId).2.1 ≠ 0 := by
  cases online : g.persistent.isMqttOnline with
  | false =>
    rw [addSubscription_offline online] at accepted
    cases accepted
  | true =>
    cases selection : g.store.slotOfAddress address with
    | none =>
      rw [addSubscription_missing sound.idle online selection] at accepted
      cases accepted
    | some n =>
      cases known : g.store.topicOf g.persistent.topicsPre n topicId shortTopic with
      | none =>
        rw [addSubscription_unknown sound.idle online selection known] at accepted
        cases accepted
      | some topic =>
        obtain ⟨name, id, s⟩ := topic
        rw [addSubscription_known sound.idle online selection known]
        exact topicOf_ne_zero sound (fun predefined => room predefined n selection) known

theorem answerSubscribe_sent (address : DeviceAddress) (msgId : UInt16) {outcome : CoreResult × UInt16 × UInt8 × Gateway}
    (unanswered : g.Unanswered outcome.2.2.2)
    (given : outcome.1 = .success → outcome.2.1 ≠ 0) (socket : g.socketOpen = true) (silent : g.sent = []) :
    ∃ message, (answerSubscribe address msgId outcome).sent = [(address, message)] ∧
      (message = .disconnect ∨ ∃ granted id returnCode, message = .suback granted id msgId returnCode ∧
        (returnCode = ReturnCode.accepted → id ≠ 0)) := by
  obtain ⟨result, id, granted, between⟩ := outcome
  cases result with
  | success => exact ⟨_, unanswered.send socket silent, .inr ⟨_, _, _, rfl, fun _ => given rfl⟩⟩
  | clientNonexistence => exact ⟨_, unanswered.send socket silent, .inl rfl⟩
  | _ => exact ⟨_, unanswered.send socket silent, .inr ⟨_, _, _, rfl, by decide⟩⟩

end Subscribe

section Unsubscribe

variable {topicId : UInt16} {topicName : Option CString}

theorem answerUnsubscribe_sent (address : DeviceAddress) (msgId : UInt16) {outcome : CoreResult × Gateway}
    (unanswered : g.Unanswered outcome.2) (socket : g.socketOpen = true) (silent : g.sent = []) :
    ∃ message, (answerUnsubscribe address msgId outcome).sent = [(address, message)] ∧
      (message = .disconnect ∨ message = .unsuback msgId) := by
  obtain ⟨result, between⟩ := outcome
  cases result with
  | clientNonexistence => exact ⟨_, unanswered.send socket silent, .inl rfl⟩
  | _ => exact ⟨_, unanswered.send socket silent, .inr rfl⟩

end Unsubscribe

section Handlers

variable {msgId : UInt16} {topicName : CString}

theorem handleRegister_sent (sound : g.Sound) (room : g.RegistrationRoom address) (socket : g.socketOpen = true)
    (silent : g.sent = []) :
    ∃ message, (g.handleRegister address msgId topicName).sent = [(address, message)] ∧
      Acknowledges (.register msgId topicName) message := by
  obtain ⟨unanswered, _, given⟩ := registerTopic_unanswered sound room topicName 0
  unfold handleRegister
  generalize g.registerTopic address topicName 0 = outcome at unanswered given
  obtain ⟨result, id, between⟩ := outcome
  cases result with
  | success => exact ⟨_, unanswered.send socket silent, rfl, fun _ => given rfl⟩
  | _ => exact ⟨_, unanswered.send socket silent, rfl, by decide⟩

/-- The name is registered first; the subscription then goes on with the id that it got. -/
theorem handleSubscribeByName_sent {qos : UInt8} (sound : g.Sound) (room : g.RegistrationRoom address)
    (socket : g.socketOpen = true) (silent : g.sent = []) :
    ∃ message, (handleSubscribeByName pahoMqttMessageHandler g address topicName msgId qos).sent = [(address, message)] ∧
      Acknowledges (.subscribeByName topicName msgId qos) message := by
  obtain ⟨unanswered, kept, given⟩ := registerTopic_unanswered sound room topicName 0
  unfold handleSubscribeByName
  generalize g.registerTopic address topicName 0 = outcome at unanswered kept given
  obtain ⟨result, id, between⟩ := outcome
  cases result with
  | success =>
    have nofile : true = false → RegistrationRoom between address := nofun
    have later : between.Unanswered (addSubscription pahoMqttMessageHandler between address id true qos id).2.2.2 :=
      addSubscription_unanswered kept.idle id id true qos
    obtain ⟨message, sent, cases⟩ := answerSubscribe_sent address msgId (unanswered.trans later)
      (addSubscription_given kept nofile id id qos) socket silent
    refine ⟨message, sent, ?_⟩
    rcases cases with rfl | ⟨granted, topicId, returnCode, rfl, accepted⟩
    · rfl
    · exact ⟨rfl, accepted⟩
  | _ => exact ⟨_, unanswered.send socket silent, rfl, by decide⟩

theorem handle_acknowledged {request : Request} (sound : g.Sound) (room : g.RegistrationRoom address)
    (socket : g.socketOpen = true) (silent : g.sent = []) (asks : request.onTopics = true)
    (handled : handle pahoMqttMessageHandler g address request = some after) :
    ∃ message, after.sent = [(address, message)] ∧ Acknowledges request message := by
  cases request with
  | register msgId topicName =>
    cases handled
    exact handleRegister_sent sound room socket silent
  | subscribe topicId msgId shortTopic qos =>
    cases handled
    have unanswered : g.Unanswered (addSubscription pahoMqttMessageHandler g address topicId shortTopic qos 0).2.2.2 :=
      addSubscription_unanswered sound.idle topicId 0 shortTopic qos
    obtain ⟨message, sent, cases⟩ := answerSubscribe_sent address msgId unanswered
      (addSubscription_given sound (fun _ => room) topicId 0 qos) socket silent
    refine ⟨message, sent, ?_⟩
    rcases cases with rfl | ⟨granted, id, returnCode, rfl, accepted⟩
    · rfl
    · exact ⟨rfl, accepted⟩
  | subscribeByName topicName msgId qos =>
    cases handled
    exact handleSubscribeByName_sent sound room socket silent
  | unsubscribe topicId msgId shortTopic =>
    cases handled
    have unanswered : g.Unanswered (deleteSubscription pahoMqttMessageHandler g address topicId shortTopic).2 :=
      (deleteSubscription_unsubscription sound.idle).unanswered
    obtain ⟨message, sent, rfl | rfl⟩ := answerUnsubscribe_sent address msgId unanswered socket silent
    · exact ⟨_, sent, rfl⟩
    · exact ⟨_, sent, rfl⟩
  | unsubscribeByName topicName msgId =>
    cases handled
    have unanswered : g.Unanswered (deleteSubscriptionByName pahoMqttMessageHandler g address topicName).2 :=
      (deleteSubscriptionByName_unsubscription sound.idle).unanswered
    obtain ⟨message, sent, rfl | rfl⟩ := answerUnsubscribe_sent address msgId unanswered socket silent
    · exact ⟨_, sent, rfl⟩
    · exact ⟨_, sent, rfl⟩
  | _ => cases asks

end Handlers

/-- Every request on topics is answered with just one message, to its sender. -/
theorem request_acknowledged {input : Input} {sender : SockaddrIn} {bytes beyond : List UInt8} (reachable : g.Reachable)
    (event : input.event = .datagram sender bytes beyond) (stepped : step g input = some after)
    (room : g.RegistrationRoom sender.getDeviceAddress)
    (asks : (Request.ofMemory (receiveBuffer bytes beyond)).onTopics = true) :
    ∃ message, after.sent = [(sender.getDeviceAddress, message)] ∧
      Acknowledges (Request.ofMemory (receiveBuffer bytes beyond)) message := by
  obtain ⟨socket, handled⟩ := step_datagram event stepped
  exact handle_acknowledged (sound_prepare reachable.sound) room socket rfl asks handled

end Gateway

namespace Scenario

theorem register_acknowledged :
    ∃ after message, Gateway.step oneSubscriber
        ⟨.datagram (client 1) (Datagram.register 7 (name 66)) [], [], []⟩ = some after ∧
      after.sent = [((client 1).getDeviceAddress, message)] ∧
      Acknowledges (Request.ofMemory (receiveBuffer (Datagram.register 7 (name 66)) [])) message := by
  generalize stepped : Gateway.step oneSubscriber
    ⟨.datagram (client 1) (Datagram.register 7 (name 66)) [], [], []⟩ = outcome
  cases outcome with
  | none =>
    have returned : (Gateway.step oneSubscriber
      ⟨.datagram (client 1) (Datagram.register 7 (name 66)) [], [], []⟩).isSome = true := by decide +kernel
    rw [stepped] at returned
    cases returned
  | some after =>
    have slot : oneSubscriber.store.slotOfAddress (client 1).getDeviceAddress = some 0 := by decide +kernel
    obtain ⟨message, sent, acknowledges⟩ := Gateway.request_acknowledged reachable_oneSubscriber rfl stepped (by
      intro n found
      rw [slot] at found
      cases found
      decide +kernel) rfl
    exact ⟨after, message, rfl, sent, acknowledges⟩

end Scenario

end MqttSnGateway
