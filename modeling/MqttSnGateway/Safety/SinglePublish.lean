import MqttSnGateway.Core.Regular
import MqttSnGateway.Steps
import MqttSnGateway.Datagrams

namespace MqttSnGateway

open Persistent Store

def SnMessage.isPuback : SnMessage → Bool
  | .puback .. => true
  | _ => false

namespace Gateway

variable {g after : Gateway} {address : DeviceAddress} {data : List UInt8} {msgId topicId : UInt16}
  {shortTopic retain : Bool} {qos : Int}

/-- The topic under which a PUBLISH is passed on; a client that is not connected may use predefined topics with
    QoS -1 only. -/
def publishedTopic (g : Gateway) (address : DeviceAddress) (topicId : UInt16) (shortTopic : Bool) (qos : Int) :
    Option CString :=
  let entry := g.store.entryAt address
  if g.persistent.isMqttOnline then
    if (g.store.slotOfAddress address).isNone || entry.clientStatus = .disconnected || entry.clientStatus = .lost then
      if qos = -1 && !shortTopic then g.persistent.topicsPre.lookup topicId else none
    else if shortTopic then if topicId = 0 then none else registeredName (g.store.files entry.fileNumber).reg topicId
    else g.persistent.topicsPre.lookup topicId
  else none

def publishCalls (data : List UInt8) (retain : Bool) (qos : Int) : Option CString → List MqttCall
  | some topicName => [.publish topicName data (if qos = -1 then 0 else UInt8.ofInt qos) retain]
  | none => []

/-- The PUBACKs a gateway has sent in the running step. -/
def pubacks (g : Gateway) : List (DeviceAddress × SnMessage) := g.sent.filter fun message => message.2.isPuback

section Publish

theorem paho_publish_calls {topic : CString} {payload : List UInt8} {level : UInt8} :
    (pahoMqttMessageHandler.publish g topic payload level retain).2.calls =
      g.calls ++ [.publish topic payload level retain] := by
  unfold pahoMqttMessageHandler
  simp only
  split <;> rfl

theorem publish_calls (idle : g.persistent.Idle) :
    let after := (publish pahoMqttMessageHandler g address data topicId shortTopic retain qos).2
    after.sent = g.sent ∧
      after.calls = g.calls ++ publishCalls data retain qos (g.publishedTopic address topicId shortTopic qos) := by
  unfold publish publishedTopic
  cases online : g.persistent.isMqttOnline with
  | false => exact ⟨rfl, (List.append_nil _).symm⟩
  | true =>
    generalize isUnknown : (g.store.slotOfAddress address).isNone = unknown
    have opened : g.startClientTransaction address = g.inside g.store (g.store.entryAt address)
        (g.store.slotOfAddress address).isNone false := startClientTransaction_entryAt idle
    rw [isUnknown] at opened
    generalize g.store.entryAt address = entry at opened ⊢
    have silent : ∀ {topic level}, (pahoMqttMessageHandler.publish g topic data level retain).2.sent = g.sent :=
      paho_publish_called.sent
    rw [opened, if_neg (by simp), if_pos rfl]
    have status : ∀ {unknown}, (g.persistent.inside g.store entry unknown false).getClientStatus =
        if unknown then .lost else entry.clientStatus := by
      intro unknown
      cases unknown <;> rfl
    have predefined : ∀ {unknown}, (g.persistent.inside g.store entry unknown false).getPredefinedTopicName topicId =
        g.persistent.topicsPre.lookup topicId := rfl
    simp only [persistent_inside, clientExist_inside, Bool.not_false, Bool.true_and, Bool.not_not, status, predefined,
      getTopicName_inside, applyTransaction_inside, paho_publish_inside]
    by_cases away : (unknown || entry.clientStatus = .disconnected || entry.clientStatus = .lost) = true
    · have gone : (unknown || (if unknown then ClientStatus.lost else entry.clientStatus) = .disconnected ||
          (if unknown then ClientStatus.lost else entry.clientStatus) = .lost) = true := by
        cases unknown <;> simp_all
      rw [if_pos gone, if_pos away]
      by_cases minus_one : (qos = -1 && !shortTopic) = true
      · rw [if_pos minus_one]
        simp only [Bool.and_eq_true, decide_eq_true_eq] at minus_one
        obtain ⟨rfl, _⟩ := minus_one
        cases g.persistent.topicsPre.lookup topicId with
        | some topicName => exact ⟨silent, paho_publish_calls⟩
        | none => exact ⟨rfl, (List.append_nil _).symm⟩
      · rw [if_neg minus_one]
        exact ⟨rfl, (List.append_nil _).symm⟩
    · have here : ¬ (unknown || (if unknown then ClientStatus.lost else entry.clientStatus) = .disconnected ||
          (if unknown then ClientStatus.lost else entry.clientStatus) = .lost) = true := by
        cases unknown <;> simp_all
      have known : unknown = false := by
        cases unknown with
        | true => exact absurd rfl away
        | false => rfl
      subst known
      rw [if_neg here, if_neg away]
      cases (if shortTopic then if topicId = 0 then none
          else registeredName (g.store.files entry.fileNumber).reg topicId
        else g.persistent.topicsPre.lookup topicId) with
      | none => exact ⟨rfl, (List.append_nil _).symm⟩
      | some topicName => exact ⟨paho_publish_called.sent, paho_publish_calls⟩

theorem handlePublish_calls (idle : g.persistent.Idle) :
    (handlePublish pahoMqttMessageHandler g address data msgId topicId shortTopic retain qos).calls =
      g.calls ++ publishCalls data retain qos (g.publishedTopic address topicId shortTopic qos) := by
  have published : (publish pahoMqttMessageHandler g address data topicId shortTopic retain qos).2.calls = _ :=
    (publish_calls idle).2
  unfold handlePublish
  generalize publish pahoMqttMessageHandler g address data topicId shortTopic retain qos = outcome at published ⊢
  obtain ⟨result, after⟩ := outcome
  simp only at published ⊢
  rw [← published]
  split
  · rfl
  · split
    · split <;> exact calls_send
    · split
      · split
        · exact calls_send
        · rfl
      · split
        · split <;> exact calls_send
        · have awaited : (after.awaitMessage address .pubrel).2.calls = after.calls := rfl
          generalize after.awaitMessage address .pubrel = reply at awaited ⊢
          obtain ⟨result, last⟩ := reply
          cases result with
          | success => exact calls_send.trans awaited
          | _ => exact calls_send.trans awaited

theorem handlePublish_pubacks (idle : g.persistent.Idle) (socket : g.socketOpen = true) :
    ∃ returnCode, (handlePublish pahoMqttMessageHandler g address data msgId topicId shortTopic retain 1).pubacks =
      g.pubacks ++ [(address, .puback topicId msgId returnCode)] := by
  have silent : (publish pahoMqttMessageHandler g address data topicId shortTopic retain 1).2.sent = g.sent :=
    (publish_calls idle).1
  have settles : g.Settles _ (publish pahoMqttMessageHandler g address data topicId shortTopic retain 1).2 :=
    publish_settles idle
  have sends : ∀ (between : Gateway) returnCode, between.sent = g.sent → between.socketOpen = g.socketOpen →
      ∃ code, (between.send address (.puback topicId msgId returnCode)).pubacks =
        g.pubacks ++ [(address, .puback topicId msgId code)] := by
    intro between returnCode sent opened
    refine ⟨returnCode, ?_⟩
    unfold Gateway.send
    rw [if_pos (opened.trans socket)]
    unfold pubacks
    simp only [sent, List.filter_append]
    rfl
  unfold handlePublish
  generalize publish pahoMqttMessageHandler g address data topicId shortTopic retain 1 = outcome at silent settles ⊢
  obtain ⟨result, after⟩ := outcome
  simp only at silent settles ⊢
  rw [if_neg (by decide)]
  split
  · exact sends after _ silent settles.socketOpen
  · have level : ¬ (1 : Int) = 0 := by decide
    rw [if_neg level]
    simp only [if_true]
    split
    · exact sends after _ silent settles.socketOpen
    · exact sends after _ silent settles.socketOpen

/-- Neither outcome of a PUBLISH changes the topic under which the same PUBLISH is passed on again. -/
theorem handlePublish_publishedTopic (sound : g.Sound) (nonzero : address ≠ .zero) :
    (handlePublish pahoMqttMessageHandler g address data msgId topicId shortTopic retain qos).publishedTopic address
      topicId shortTopic qos = g.publishedTopic address topicId shortTopic qos := by
  have ok := sound.ok.slots
  rcases handlePublish_settles sound.idle with settles | ⟨_, _, _, settles⟩
  · unfold publishedTopic
    rw [settles.store, settles.online, settles.topicsPre]
  · unfold publishedTopic
    rw [settles.store, settles.online, settles.topicsPre, files_updateAt]
    cases selection : g.store.slotOfAddress address with
    | none =>
      rw [updateAt_missing selection, selection]
    | some n =>
      rw [ok.entryAt_updateAt nonzero selection (keeps_await .pubrel), updateAt_found selection,
        ok.slotOfAddress_setEntry nonzero selection (keeps_await .pubrel), entryAt_found selection]
      rfl

end Publish

section Datagram

/-- At most one publish goes to the MQTT client, and a PUBLISH of QoS 1 is answered with one PUBACK that carries its
    ids. -/
def HandledOnce (after : Gateway) (address : DeviceAddress) (request : Request) : Prop :=
  after.calls.countP MqttCall.isPublish ≤ 1 ∧
    match request with
    | .publish _ msgId topicId _ _ qos _ =>
      qos = 1 → ∃ returnCode, after.pubacks = [(address, .puback topicId msgId returnCode)]
    | _ => True

/-- A PUBLISH is handled twice unless it has a short topic name or the lowest flag bit; then neither of the two may
    be passed on or acknowledged. -/
def SafelyHandled (g : Gateway) (address : DeviceAddress) : Request → Prop
  | .publish _ _ topicId shortTopic _ qos twice =>
    twice = true → qos ≠ 1 ∧ g.publishedTopic address topicId shortTopic qos = none
  | _ => True

theorem countP_publishCalls {topicName : Option CString} :
    (publishCalls data retain qos topicName).countP MqttCall.isPublish = if topicName = none then 0 else 1 := by
  cases topicName <;> rfl

theorem handle_publish_once (sound : g.Sound) (nonzero : address ≠ .zero) (socket : g.socketOpen = true)
    (fresh : g.calls = [] ∧ g.sent = []) (twice : Bool)
    (handled : handle pahoMqttMessageHandler g address
      (.publish data msgId topicId shortTopic retain qos twice) = some after) :
    HandledOnce after address (.publish data msgId topicId shortTopic retain qos twice) ↔
      g.SafelyHandled address (.publish data msgId topicId shortTopic retain qos twice) := by
  have silent : g.pubacks = [] := by
    unfold pubacks
    rw [fresh.2]
    rfl
  let first := handlePublish pahoMqttMessageHandler g address data msgId topicId shortTopic retain qos
  have calls : first.calls = publishCalls data retain qos (g.publishedTopic address topicId shortTopic qos) := by
    rw [handlePublish_calls sound.idle, fresh.1, List.nil_append]
  unfold HandledOnce SafelyHandled
  cases handled
  cases twice with
  | false =>
    refine iff_of_true ⟨?_, ?_⟩ (fun second => by cases second)
    · simp only [Bool.false_eq_true, if_false]
      rw [calls, countP_publishCalls]
      split <;> omega
    · rintro rfl
      obtain ⟨returnCode, answered⟩ := handlePublish_pubacks sound.idle socket
      rw [silent, List.nil_append] at answered
      exact ⟨returnCode, answered⟩
  | true =>
    obtain ⟨_, _, settles⟩ : ∃ s, Published g address qos s ∧ g.Settles s first :=
      handlePublish_published address data msgId topicId shortTopic retain qos sound.idle
    have again : first.publishedTopic address topicId shortTopic qos = g.publishedTopic address topicId shortTopic qos :=
      handlePublish_publishedTopic sound nonzero
    have total : (handlePublish pahoMqttMessageHandler first address data msgId topicId shortTopic retain qos).calls =
        publishCalls data retain qos (g.publishedTopic address topicId shortTopic qos) ++
          publishCalls data retain qos (g.publishedTopic address topicId shortTopic qos) := by
      rw [handlePublish_calls settles.idle, calls, again]
    simp only [if_true]
    change ((handlePublish pahoMqttMessageHandler first address data msgId topicId shortTopic retain qos).calls.countP
      MqttCall.isPublish ≤ 1 ∧ (qos = 1 → ∃ returnCode, (handlePublish pahoMqttMessageHandler first address data msgId
        topicId shortTopic retain qos).pubacks = [(address, .puback topicId msgId returnCode)])) ↔ _
    rw [total, List.countP_append, countP_publishCalls]
    constructor
    · rintro ⟨once, answered⟩ _
      refine ⟨?_, ?_⟩
      · rintro rfl
        obtain ⟨_, one⟩ := handlePublish_pubacks sound.idle socket
        obtain ⟨_, two⟩ := handlePublish_pubacks settles.idle (settles.socketOpen.trans socket)
        obtain ⟨_, alone⟩ := answered rfl
        rw [two, one, silent] at alone
        cases alone
      · by_contra named
        rw [if_neg named] at once
        omega
    · intro safe
      obtain ⟨other, unnamed⟩ := safe trivial
      rw [if_pos unnamed]
      exact ⟨by omega, fun one => absurd one other⟩

/-- A PUBLISH datagram is passed on at most once and acknowledged as it should be exactly when it is handled safely. -/
theorem step_publish {input : Input} {sender : SockaddrIn} {bytes beyond : List UInt8} (reachable : g.Reachable)
    (event : input.event = .datagram sender bytes beyond)
    (type : MessageType.ofCode? (byteAt (receiveBuffer bytes beyond) 1) = some .publish)
    (stepped : step g input = some after) :
    HandledOnce after sender.getDeviceAddress (Request.ofMemory (receiveBuffer bytes beyond)) ↔
      g.SafelyHandled sender.getDeviceAddress (Request.ofMemory (receiveBuffer bytes beyond)) := by
  have sound : (g.prepare input).Sound := sound_prepare reachable.sound
  have nonzero := sender.getDeviceAddress_ne_zero
  obtain ⟨socket, handled⟩ := step_datagram event stepped
  have ignored : ∀ {request}, request = .ignored →
      handle pahoMqttMessageHandler (g.prepare input) sender.getDeviceAddress request = some after →
      (HandledOnce after sender.getDeviceAddress request ↔ g.SafelyHandled sender.getDeviceAddress request) := by
    rintro request rfl handled
    cases handled
    exact iff_of_true ⟨Nat.zero_le 1, trivial⟩ trivial
  unfold Request.ofMemory at handled ⊢
  rw [type] at handled ⊢
  split at handled
  · rename_i short
    rw [if_pos short]
    exact ignored rfl handled
  · rename_i long
    rw [if_neg long]
    simp only [Request.ofPublish] at handled ⊢
    split_ifs at handled ⊢
    · exact ignored rfl handled
    · exact handle_publish_once sound nonzero socket ⟨rfl, rfl⟩ _ handled
    · exact ignored rfl handled

end Datagram

end Gateway

namespace Scenario

def connected : Gateway :=
  (run [47] [.mqttConnect, .datagram (client 1) (Datagram.connect (name 65) 10 0) []]).get (by decide +kernel)

theorem reachable_connected : connected.Reachable := reachable_run (Option.some_get _).symm

def normalPublish : Input := ⟨.datagram (client 1) (Datagram.publish 0x20 1 1 [42]) [], [], []⟩

def afterNormalPublish : Gateway := (Gateway.step connected normalPublish).get (by decide +kernel)

theorem step_normalPublish : Gateway.step connected normalPublish = some afterNormalPublish := (Option.some_get _).symm

theorem step_publish_normalPublish :
    Gateway.HandledOnce afterNormalPublish (client 1).getDeviceAddress
        (Request.ofMemory (receiveBuffer (Datagram.publish 0x20 1 1 [42]) [])) ↔
      connected.SafelyHandled (client 1).getDeviceAddress
        (Request.ofMemory (receiveBuffer (Datagram.publish 0x20 1 1 [42]) [])) :=
  Gateway.step_publish reachable_connected rfl (by decide) step_normalPublish

theorem normalPublish_acknowledged_twice :
    ¬ ∀ (g after : Gateway) (input : Input) (sender : SockaddrIn) (bytes beyond : List UInt8), g.Reachable →
      input.event = .datagram sender bytes beyond →
      MessageType.ofCode? (byteAt (receiveBuffer bytes beyond) 1) = some .publish → Gateway.step g input = some after →
      Gateway.HandledOnce after sender.getDeviceAddress (Request.ofMemory (receiveBuffer bytes beyond)) := by
  intro claim
  obtain ⟨_, answered⟩ := claim connected afterNormalPublish normalPublish (client 1) _ [] reachable_connected rfl
    (by decide) step_normalPublish
  obtain ⟨returnCode, alone⟩ := answered rfl
  have twice : afterNormalPublish.pubacks.length = 2 := by decide +kernel
  rw [alone] at twice
  cases twice

end Scenario

end MqttSnGateway
