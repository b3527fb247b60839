import MqttSnGateway.Core.Rewritten
import MqttSnGateway.Safety.SinglePublish

namespace MqttSnGateway

open Persistent Store

namespace Gateway

variable {g after : Gateway} {address : DeviceAddress} {n : Nat}

section Sessions

theorem handlePingreqWithId_dismisses {clientId : CString} (idle : g.persistent.Idle) :
    g.Dismisses address (g.handlePingreqWithId address clientId) := by
  unfold handlePingreqWithId
  cases selection : g.store.slotOfAddress address with
  | some n =>
    rw [setAwake_found idle selection]
    exact (spares_silent rfl).dismisses
  | none =>
    rw [setAwake_missing idle selection]
    exact dismisses_send rfl (ended_missing selection)

theorem handleDisconnect_dismisses (sound : g.Sound) (nonzero : address ≠ .zero) :
    g.Dismisses address (g.handleDisconnect address) := by
  unfold handleDisconnect
  cases selection : g.store.slotOfAddress address with
  | some n =>
    rw [setDisconnected_found sound.idle selection]
    apply dismisses_send rfl
    exact (ended_setEntry sound.ok.slots nonzero selection (keeps_status (by decide))).mpr (.inl rfl)
  | none =>
    rw [setDisconnected_missing sound.idle selection]
    exact (spares_silent rfl).dismisses

theorem handleDisconnectWithDuration_dismisses {duration : UInt16} (idle : g.persistent.Idle)
    (online : ¬ g.store.Ended address → g.persistent.isMqttOnline = true) :
    g.Dismisses address (g.handleDisconnectWithDuration address duration) := by
  unfold handleDisconnectWithDuration
  cases connected : g.persistent.isMqttOnline with
  | false =>
    rw [setAsleep_offline connected]
    apply dismisses_send rfl
    by_contra going
    cases connected.symm.trans (online going)
  | true =>
    cases selection : g.store.slotOfAddress address with
    | some n =>
      rw [setAsleep_found idle connected selection]
      have plain : SnMessage.disconnectDuration duration ≠ .disconnect := nofun
      exact (spares_send rfl plain).dismisses
    | none =>
      rw [setAsleep_missing idle connected selection]
      exact dismisses_send rfl (ended_missing selection)

end Sessions

section Acknowledgements

variable {topicId msgId : UInt16} {returnCode : UInt8}

/-- How the handlers of REGACK and PUBACK end. -/
inductive Acknowledged (address : DeviceAddress) : CoreResult × Gateway → Gateway → Prop
  | success {between : Gateway} : Acknowledged address (.success, between) between
  | failure {result : CoreResult} {between : Gateway} (failed : result ≠ .success) :
    Acknowledged address (result, between) (between.send address .disconnect)

theorem handleRegack_acknowledged :
    Acknowledged address (g.notifyRegackArrived address topicId msgId returnCode)
      (g.handleRegack address topicId msgId returnCode) := by
  unfold handleRegack
  generalize g.notifyRegackArrived address topicId msgId returnCode = outcome
  obtain ⟨result, between⟩ := outcome
  cases result with
  | success => exact .success
  | _ => exact .failure nofun

theorem handlePuback_acknowledged :
    Acknowledged address (g.notifyPubackArrived address msgId topicId returnCode)
      (g.handlePuback address msgId topicId returnCode) := by
  unfold handlePuback
  generalize g.notifyPubackArrived address msgId topicId returnCode = outcome
  obtain ⟨result, between⟩ := outcome
  cases result with
  | success => exact .success
  | _ => exact .failure nofun

theorem Acknowledged.dismisses {outcome : CoreResult × Gateway} (acknowledged : Acknowledged address outcome after)
    (silent : outcome.2.sent = g.sent) (fits : ¬ outcome.2.store.Ended address → outcome.1 = .success) :
    g.Dismisses address after := by
  cases acknowledged with
  | success => exact (spares_silent silent).dismisses
  | failure failed =>
    apply dismisses_send silent
    by_contra going
    exact failed (fits going)

theorem notifyRegackArrived_sent : (g.notifyRegackArrived address topicId msgId returnCode).2.sent = g.sent := by
  unfold notifyRegackArrived
  simp only
  split_ifs <;> rfl

theorem notifyRegackArrived_success (idle : g.persistent.Idle) (found : g.store.slotOfAddress address = some n)
    (counts : Regacks (g.store.nthClient n) msgId →
      returnCode = ReturnCode.accepted ∨ returnCode = ReturnCode.rejectedCongestion) :
    (g.notifyRegackArrived address topicId msgId returnCode).1 = .success := by
  have awaited : (g.inside g.store (g.store.nthClient n) false false).persistent.getClientAwaitMessageType =
      (g.store.nthClient n).awaitMessage := rfl
  have number : (g.inside g.store (g.store.nthClient n) false false).persistent.getClientAwaitMsgId =
      (g.store.nthClient n).awaitMessageId := rfl
  unfold notifyRegackArrived
  rw [startClientTransaction_found idle found]
  simp only [awaited, number]
  by_cases expected : Regacks (g.store.nthClient n) msgId
  · have hit : (decide ((g.store.nthClient n).awaitMessage = .regack) &&
        decide ((g.store.nthClient n).awaitMessageId = msgId)) = true := by simpa [Regacks] using expected
    rw [if_pos hit]
    rcases counts expected with accepted | congestion
    · rw [if_pos accepted]
      rfl
    · rw [if_neg (by rw [congestion]; decide), if_pos congestion]
      rfl
  · have miss : ¬ (decide ((g.store.nthClient n).awaitMessage = .regack) &&
        decide ((g.store.nthClient n).awaitMessageId = msgId)) = true := by simpa [Regacks] using expected
    rw [if_neg miss]
    rfl

theorem ended_await (sound : g.Sound) (nonzero : address ≠ .zero) (found : g.store.slotOfAddress address = some n)
    (type : MessageType) :
    (g.store.setEntry n fun entry => { entry with awaitMessage := type }).Ended address ↔ g.store.Ended address := by
  rw [ended_setEntry sound.ok.slots nonzero found (keeps_await type), ended_iff found]
  exact Iff.rfl

theorem handleRegack_dismisses (sound : g.Sound) (nonzero : address ≠ .zero)
    (counts : ¬ g.store.Ended address → Regacks (g.store.entryAt address) msgId →
      returnCode = ReturnCode.accepted ∨ returnCode = ReturnCode.rejectedCongestion) :
    g.Dismisses address (g.handleRegack address topicId msgId returnCode) := by
  apply handleRegack_acknowledged.dismisses notifyRegackArrived_sent
  intro going
  cases selection : g.store.slotOfAddress address with
  | none =>
    have settles : g.Settles g.store (g.notifyRegackArrived address topicId msgId returnCode).2 :=
      notifyRegackArrived_missing sound.idle selection
    rw [settles.store] at going
    exact absurd (ended_missing selection) going
  | some n =>
    have settles : g.Settles _ (g.notifyRegackArrived address topicId msgId returnCode).2 :=
      notifyRegackArrived_found sound.idle selection
    rw [settles.store] at going
    have before : ¬ g.store.Ended address := by
      intro ended
      apply going
      split
      · exact (ended_await sound nonzero selection _).mpr ended
      · exact ended
    apply notifyRegackArrived_success sound.idle selection
    rw [← entryAt_found selection]
    exact counts before

theorem notifyPubackArrived_sent : (g.notifyPubackArrived address msgId topicId returnCode).2.sent = g.sent := by
  unfold notifyPubackArrived
  split <;> rfl

theorem notifyPubackArrived_success (idle : g.persistent.Idle) (found : g.store.slotOfAddress address = some n)
    (known : KnownReturnCode returnCode) (given : msgId ≠ 0) :
    (g.notifyPubackArrived address msgId topicId returnCode).1 = .success := by
  unfold notifyPubackArrived
  rw [if_pos (by simpa [KnownReturnCode, or_assoc] using known)]
  rw [transaction_found (fun p => p.removePublishByMsgId msgId) idle found removePublishByMsgId_inside]
  rw [decide_eq_false given]
  rfl

theorem notifyPubackArrived_clients (idle : g.persistent.Idle) :
    (g.notifyPubackArrived address msgId topicId returnCode).2.store.clients = g.store.clients := by
  unfold notifyPubackArrived
  cases selection : g.store.slotOfAddress address with
  | none =>
    split
    · rw [transaction_missing (fun p => p.removePublishByMsgId msgId) idle selection rfl]
      rfl
    · rw [transaction_missing (fun p => p) idle selection rfl]
      rfl
  | some n =>
    split
    · rw [transaction_found (fun p => p.removePublishByMsgId msgId) idle selection removePublishByMsgId_inside]
      rfl
    · rw [transaction_found (fun p => p) idle selection rfl]
      rfl

theorem handlePuback_dismisses (idle : g.persistent.Idle)
    (known : ¬ g.store.Ended address → KnownReturnCode returnCode ∧ msgId ≠ 0) :
    g.Dismisses address (g.handlePuback address msgId topicId returnCode) := by
  apply handlePuback_acknowledged.dismisses notifyPubackArrived_sent
  intro going
  have before : ¬ g.store.Ended address :=
    fun ended => going (ended_congr (notifyPubackArrived_clients idle) ended)
  obtain ⟨n, found, _⟩ := exists_of_not_ended before
  obtain ⟨code, given⟩ := known before
  exact notifyPubackArrived_success idle found code given

end Acknowledgements

section Publishes

variable {data : List UInt8} {msgId topicId : UInt16} {shortTopic retain : Bool} {qos : Int}

structure Takes (g : Gateway) (qos : Int) : Prop where
  level : UInt8.ofInt qos ≤ 2
  connected : g.isConnected = true
  answered : g.answers.headD true = true

theorem Takes.published {g : Gateway} {topicName : CString} (takes : g.Takes qos) :
    pahoMqttMessageHandler.publish g topicName data (UInt8.ofInt qos) retain =
      (true, { g.call (.publish topicName data (UInt8.ofInt qos) retain) with answers := g.answers.tail }) := by
  have low : ¬ 2 < UInt8.ofInt qos := UInt8.not_lt.mpr takes.level
  unfold pahoMqttMessageHandler
  simp only
  rw [if_neg low]
  unfold request
  have answer : ((g.call (.publish topicName data (UInt8.ofInt qos) retain)).isConnected &&
      (g.call (.publish topicName data (UInt8.ofInt qos) retain)).answers.headD true) = true := by
    show (g.isConnected && g.answers.headD true) = true
    rw [takes.connected, takes.answered]
    rfl
  rw [answer, ← takes.connected]
  rfl

theorem publish_going (idle : g.persistent.Idle) (online : g.persistent.isMqttOnline = true)
    (found : g.store.slotOfAddress address = some n) (going : ¬ (g.store.nthClient n).Over) (level : qos ≠ -1) :
    publish pahoMqttMessageHandler g address data topicId shortTopic retain qos =
      match g.publishedTopic address topicId shortTopic qos with
      | none => (.topicIdNonexistence, g.settled g.store (g.store.nthClient n))
      | some topicName =>
        let (sent, g) := pahoMqttMessageHandler.publish (g.settled g.store (g.store.nthClient n)) topicName data
          (UInt8.ofInt qos) retain
        (if sent then .success else .zero, g) := by
  have disconnected : (g.store.nthClient n).clientStatus ≠ .disconnected := fun same => going (.inl same)
  have lost : (g.store.nthClient n).clientStatus ≠ .lost := fun same => going (.inr same)
  have status : (g.persistent.inside g.store (g.store.nthClient n) false false).getClientStatus =
      (g.store.nthClient n).clientStatus := rfl
  have predefined : (g.persistent.inside g.store (g.store.nthClient n) false false).getPredefinedTopicName topicId =
      g.persistent.topicsPre.lookup topicId := rfl
  unfold publish publishedTopic
  rw [entryAt_found found, found, online, startClientTransaction_found idle found]
  simp only [persistent_inside, clientExist_inside, status, predefined, getTopicName_inside, applyTransaction_inside,
    disconnected, lost, level]
  simp only [Bool.not_true, Bool.false_eq_true, if_false, Bool.not_false, Bool.and_self, decide_false, Bool.or_self,
    Option.isNone_some, if_true]
  cases (if shortTopic = true then if topicId = 0 then none
    else registeredName (g.store.files (g.store.nthClient n).fileNumber).reg topicId
    else g.persistent.topicsPre.lookup topicId) with
  | none => rfl
  | some topicName => rfl

theorem publish_accepted (data : List UInt8) (retain : Bool) (idle : g.persistent.Idle) (online : g.persistent.isMqttOnline = true)
    (found : g.store.slotOfAddress address = some n) (going : ¬ (g.store.nthClient n).Over) (level : qos ≠ -1)
    (taken : g.publishedTopic address topicId shortTopic qos = none ∨ g.Takes qos) :
    ∃ result between, publish pahoMqttMessageHandler g address data topicId shortTopic retain qos = (result, between) ∧
      (result = .success ∨ result = .topicIdNonexistence) ∧ between.sent = g.sent ∧ g.Settles g.store between ∧
      (g.publishedTopic address topicId shortTopic qos ≠ none →
        between.isConnected = true ∧ between.answers = g.answers.tail) := by
  rw [publish_going idle online found going level]
  cases topic : g.publishedTopic address topicId shortTopic qos with
  | none => exact ⟨_, _, rfl, .inr rfl, rfl, Settles.settled, fun known => absurd rfl known⟩
  | some topicName =>
    have takes : g.Takes qos := by
      rcases taken with unknown | takes
      · cases topic.symm.trans unknown
      · exact takes
    have settled : (g.settled g.store (g.store.nthClient n)).Takes qos := ⟨takes.level, takes.connected, takes.answered⟩
    show ∃ result between, (match pahoMqttMessageHandler.publish (g.settled g.store (g.store.nthClient n)) topicName data
        (UInt8.ofInt qos) retain with
      | (sent, g) => (if sent = true then CoreResult.success else CoreResult.zero, g)) = (result, between) ∧ _
    rw [settled.published]
    refine ⟨_, _, rfl, .inl rfl, rfl, ?_, fun _ => ⟨takes.connected, rfl⟩⟩
    exact ⟨rfl, idle_settled, rfl, rfl, rfl, rfl, id, rfl, rfl, rfl, rfl, rfl⟩

theorem isConnected_send {message : SnMessage} : (g.send address message).isConnected = g.isConnected := by
  unfold send
  split <;> rfl

theorem answers_send {message : SnMessage} : (g.send address message).answers = g.answers := by
  unfold send
  split <;> rfl

theorem handlePublish_accepted (data : List UInt8) (msgId : UInt16) (retain : Bool) (idle : g.persistent.Idle) (online : g.persistent.isMqttOnline = true)
    (found : g.store.slotOfAddress address = some n) (going : ¬ (g.store.nthClient n).Over) (level : qos ≠ -1)
    (one : qos ≠ 1) (taken : g.publishedTopic address topicId shortTopic qos = none ∨ g.Takes qos) :
    let after := handlePublish pahoMqttMessageHandler g address data msgId topicId shortTopic retain qos
    g.Spares after ∧ (g.publishedTopic address topicId shortTopic qos ≠ none →
      after.isConnected = true ∧ after.answers = g.answers.tail) := by
  obtain ⟨result, between, published, accepted, silent, settles, passed⟩ :=
    publish_accepted data retain idle online found going level taken
  have plain : ¬ (result ≠ .success && result ≠ .topicIdNonexistence) = true := by
    rcases accepted with rfl | rfl <;> decide
  unfold handlePublish
  simp only
  rw [published, if_neg level, if_neg plain]
  by_cases zero : qos = 0
  · rw [if_pos zero]
    split
    · refine ⟨spares_send silent nofun, fun known => ?_⟩
      rw [isConnected_send, answers_send]
      exact passed known
    · exact ⟨spares_silent silent, passed⟩
  · have selected : between.store.slotOfAddress address = some n := by
      rw [settles.store]
      exact found
    rw [if_neg zero, if_neg one, awaitMessage_found settles.idle selected]
    refine ⟨spares_send silent nofun, fun known => ?_⟩
    rw [isConnected_send, answers_send]
    exact passed known

theorem handlePublish_told {other : DeviceAddress} (idle : g.persistent.Idle)
    (told : (handlePublish pahoMqttMessageHandler g address data msgId topicId shortTopic retain qos).Told other) :
    g.Told other ∨ other = address := by
  have silent : (publish pahoMqttMessageHandler g address data topicId shortTopic retain qos).2.sent = g.sent :=
    (publish_calls idle).1
  have sends : ∀ (between : Gateway) (message : SnMessage), between.sent = g.sent →
      (between.send address message).Told other → g.Told other ∨ other = address := by
    intro between message same told
    rcases told_send told with before | ⟨sender, _⟩
    · exact .inl (spares_silent same other before)
    · exact .inr sender
  unfold handlePublish at told
  generalize publish pahoMqttMessageHandler g address data topicId shortTopic retain qos = outcome at silent told
  obtain ⟨result, between⟩ := outcome
  simp only at silent told
  split at told
  · exact .inl (spares_silent silent other told)
  · split at told
    · split at told
      · exact sends _ _ silent told
      · exact sends _ _ silent told
    · split at told
      · split at told
        · exact sends _ _ silent told
        · exact .inl (spares_silent silent other told)
      · split at told
        · split at told
          · exact sends _ _ silent told
          · exact sends _ _ silent told
        · have awaited : (between.awaitMessage address .pubrel).2.sent = g.sent := silent
          generalize between.awaitMessage address .pubrel = reply at awaited told
          obtain ⟨result, last⟩ := reply
          cases result with
          | success => exact sends _ _ awaited told
          | _ => exact sends _ _ awaited told

/-- With QoS 1 a PUBACK is the answer, with QoS -1 there is none. -/
theorem handlePublish_spares (idle : g.persistent.Idle) (level : qos = -1 ∨ qos = 1) :
    g.Spares (handlePublish pahoMqttMessageHandler g address data msgId topicId shortTopic retain qos) := by
  have silent : (publish pahoMqttMessageHandler g address data topicId shortTopic retain qos).2.sent = g.sent :=
    (publish_calls idle).1
  unfold handlePublish
  generalize publish pahoMqttMessageHandler g address data topicId shortTopic retain qos = outcome at silent ⊢
  obtain ⟨result, between⟩ := outcome
  simp only at silent ⊢
  rcases level with rfl | rfl
  · rw [if_pos rfl]
    exact spares_silent silent
  · rw [if_neg (by decide)]
    split
    · rw [if_pos rfl]
      exact spares_send silent nofun
    · rw [if_neg (by decide), if_pos rfl]
      split
      · exact spares_send silent nofun
      · exact spares_send silent nofun

theorem handlePublish_ended (sound : g.Sound) (nonzero : address ≠ .zero) :
    (handlePublish pahoMqttMessageHandler g address data msgId topicId shortTopic retain qos).store.Ended address ↔
      g.store.Ended address := by
  obtain ⟨s, published, settles⟩ :=
    handlePublish_published address data msgId topicId shortTopic retain qos sound.idle
  rw [settles.store]
  cases published with
  | kept => exact Iff.rfl
  | awaiting _ =>
    cases selection : g.store.slotOfAddress address with
    | none => rw [updateAt_missing selection]
    | some n =>
      rw [updateAt_found selection]
      exact ended_await sound nonzero selection .pubrel

/-- What a PUBLISH leaves as it was when it is handled the first time. -/
structure SamePublisher (g : Gateway) (address : DeviceAddress) (topicId : UInt16) (shortTopic : Bool) (qos : Int)
    (first : Gateway) : Prop where
  sound : first.Sound
  ended : first.store.Ended address ↔ g.store.Ended address
  topic : first.publishedTopic address topicId shortTopic qos = g.publishedTopic address topicId shortTopic qos
  online : first.persistent.isMqttOnline = g.persistent.isMqttOnline

theorem handlePublish_samePublisher (data : List UInt8) (msgId : UInt16) (retain : Bool) (sound : g.Sound)
    (nonzero : address ≠ .zero) : SamePublisher g address topicId shortTopic qos
      (handlePublish pahoMqttMessageHandler g address data msgId topicId shortTopic retain qos) := by
  have once : handle pahoMqttMessageHandler g address (.publish data msgId topicId shortTopic retain qos false) =
      some (handlePublish pahoMqttMessageHandler g address data msgId topicId shortTopic retain qos) := rfl
  refine ⟨(handle_handles sound nonzero once).sound sound nonzero, handlePublish_ended sound nonzero,
    handlePublish_publishedTopic sound nonzero, ?_⟩
  rcases handlePublish_settles sound.idle with settles | ⟨_, _, _, settles⟩
  · exact settles.online
  · exact settles.online

theorem handle_publish_ends {twice : Bool}
    (handled : handle pahoMqttMessageHandler g address
      (.publish data msgId topicId shortTopic retain qos twice) = some after) :
    let first := handlePublish pahoMqttMessageHandler g address data msgId topicId shortTopic retain qos
    after = first ∨ twice = true ∧
      after = handlePublish pahoMqttMessageHandler first address data msgId topicId shortTopic retain qos := by
  cases handled
  cases twice with
  | false => exact .inl rfl
  | true => exact .inr ⟨rfl, rfl⟩

/-- The sender of a PUBLISH whose session is over may be told so. -/
theorem publish_over {twice : Bool} (sound : g.Sound) (nonzero : address ≠ .zero) (ended : g.store.Ended address)
    (handled : handle pahoMqttMessageHandler g address
      (.publish data msgId topicId shortTopic retain qos twice) = some after) : g.Dismisses address after := by
  have ends := handle_publish_ends handled
  have one : ∀ other, (handlePublish pahoMqttMessageHandler g address data msgId topicId shortTopic retain qos).Told other →
      g.Told other ∨ other = address := fun other told => handlePublish_told sound.idle told
  have same : SamePublisher g address topicId shortTopic qos _ := handlePublish_samePublisher data msgId retain sound nonzero
  generalize handlePublish pahoMqttMessageHandler g address data msgId topicId shortTopic retain qos = first at ends one same
  have between := same.ended.mpr ended
  intro other told
  rcases ends with rfl | ⟨_, rfl⟩
  · rcases one other told with before | sender
    · exact .inl before
    · exact .inr ⟨sender, between⟩
  · have last : (handlePublish pahoMqttMessageHandler first address data msgId topicId shortTopic retain qos).store.Ended
        address := (handlePublish_ended same.sound nonzero).mpr between
    rcases handlePublish_told same.sound.idle told with again | sender
    · rcases one other again with before | sender
      · exact .inl before
      · exact .inr ⟨sender, last⟩
    · exact .inr ⟨sender, last⟩

/-- The sender is not told that what it published has been passed on. -/
theorem publish_taken {twice : Bool} (sound : g.Sound) (nonzero : address ≠ .zero) (ended : ¬ g.store.Ended address)
    (level : qos ≠ -1) (one : qos ≠ 1) (online : g.persistent.isMqttOnline = true)
    (taken : g.publishedTopic address topicId shortTopic qos = none ∨
      g.Takes qos ∧ (twice = true → g.answers.tail.headD true = true))
    (handled : handle pahoMqttMessageHandler g address
      (.publish data msgId topicId shortTopic retain qos twice) = some after) : g.Spares after := by
  have ends := handle_publish_ends handled
  obtain ⟨n, found, going⟩ := exists_of_not_ended ended
  obtain ⟨first_spares, passed⟩ :=
    handlePublish_accepted data msgId retain sound.idle online found going level one (taken.imp_right And.left)
  have same : SamePublisher g address topicId shortTopic qos _ := handlePublish_samePublisher data msgId retain sound nonzero
  generalize handlePublish pahoMqttMessageHandler g address data msgId topicId shortTopic retain qos = first
    at ends first_spares passed same
  rcases ends with rfl | ⟨again, rfl⟩
  · exact first_spares
  · obtain ⟨m, selected, still⟩ := exists_of_not_ended fun finished => ended (same.ended.mp finished)
    have second_taken : first.publishedTopic address topicId shortTopic qos = none ∨ first.Takes qos := by
      rw [same.topic]
      rcases taken with unknown | ⟨takes, second⟩
      · exact .inl unknown
      · by_cases unknown : g.publishedTopic address topicId shortTopic qos = none
        · exact .inl unknown
        · obtain ⟨connected, answers⟩ := passed unknown
          refine .inr ⟨takes.level, connected, ?_⟩
          rw [answers]
          exact second again
    have second := handlePublish_accepted data msgId retain same.sound.idle (same.online.trans online) selected still
      level one second_taken
    exact first_spares.trans second.1

end Publishes

section Requests

/-- When a client whose session goes on gets no DISCONNECT: a sleeping time can be stored, an acknowledgement is one that
    the core accepts, and what is published with QoS 0 or 2 is passed on or has no topic. -/
def AnswersFit (g : Gateway) (address : DeviceAddress) : Request → Prop
  | .disconnectWithDuration _ => g.persistent.isMqttOnline = true
  | .regack _ msgId returnCode => Regacks (g.store.entryAt address) msgId →
    returnCode = ReturnCode.accepted ∨ returnCode = ReturnCode.rejectedCongestion
  | .puback topicId _ returnCode => KnownReturnCode returnCode ∧ topicId ≠ 0
  | .publish _ _ topicId shortTopic _ qos twice => qos = -1 ∨ qos = 1 ∨ g.persistent.isMqttOnline = true ∧
    (g.publishedTopic address topicId shortTopic qos = none ∨
      g.Takes qos ∧ (twice = true → g.answers.tail.headD true = true))
  | _ => True

theorem handle_dismisses {request : Request} (sound : g.Sound) (nonzero : address ≠ .zero)
    (fits : ¬ g.store.Ended address → g.AnswersFit address request)
    (handled : handle pahoMqttMessageHandler g address request = some after) : g.Dismisses address after := by
  have idle := sound.idle
  cases request with
  | connect clientId duration will clean =>
    exact (handleConnect_connection sound nonzero handled).spares.dismisses
  | willtopic willTopic retain qos =>
    cases handled
    exact handleWilltopic_spares.dismisses
  | willmsg willMsg =>
    cases handled
    exact handleWillmsg_spares.dismisses
  | register msgId topicName =>
    cases handled
    exact handleRegister_spares.dismisses
  | regack topicId msgId returnCode =>
    cases handled
    exact handleRegack_dismisses sound nonzero fits
  | publish data msgId topicId shortTopic retain qos twice =>
    by_cases ended : g.store.Ended address
    · exact publish_over sound nonzero ended handled
    by_cases level : qos = -1 ∨ qos = 1
    · apply Spares.dismisses
      have same : SamePublisher g address topicId shortTopic qos _ :=
        handlePublish_samePublisher data msgId retain sound nonzero
      have first : g.Spares (handlePublish pahoMqttMessageHandler g address data msgId topicId shortTopic retain qos) :=
        handlePublish_spares idle level
      rcases handle_publish_ends handled with rfl | ⟨_, rfl⟩
      · exact first
      · exact first.trans (handlePublish_spares same.sound.idle level)
    · obtain ⟨lowest, one⟩ := not_or.mp level
      obtain ⟨online, taken⟩ := ((fits ended).resolve_left lowest).resolve_left one
      exact (publish_taken sound nonzero ended lowest one online taken handled).dismisses
  | puback topicId msgId returnCode =>
    cases handled
    exact handlePuback_dismisses idle fits
  | subscribe topicId msgId shortTopic qos =>
    cases handled
    exact (handleSubscribe_spares idle).dismisses
  | subscribeByName topicName msgId qos =>
    cases handled
    exact (handleSubscribeByName_spares idle).dismisses
  | unsubscribe topicId msgId shortTopic =>
    cases handled
    exact (handleUnsubscribe_spares idle).dismisses
  | unsubscribeByName topicName msgId =>
    cases handled
    exact (handleUnsubscribeByName_spares idle).dismisses
  | pingreq =>
    cases handled
    have plain : SnMessage.pingresp ≠ .disconnect := nofun
    exact (spares_send rfl plain).dismisses
  | pingreqWithId clientId =>
    cases handled
    exact handlePingreqWithId_dismisses idle
  | disconnect =>
    cases handled
    exact handleDisconnect_dismisses sound nonzero
  | disconnectWithDuration duration =>
    cases handled
    exact handleDisconnectWithDuration_dismisses idle fits
  | pubrel =>
    cases handled
    exact (spares_silent rfl).dismisses
  | ignored =>
    cases handled
    exact (spares_silent rfl).dismisses

end Requests

section Visits

variable {round : Round}

/-- Whoever has been told in the running step, if there is an entry for the address at all, is stored as DISCONNECTED or
    LOST. -/
def Agreed (g : Gateway) : Prop := ∀ address, g.Told address → g.store.Ended address

/-- What the offline procedure needs to know of a client whose session goes on: its entry has a file number, so that it
    is written back where it stands; and when its time-out erases the entry that is bound to an address which is told,
    no other entry with that address goes on. -/
structure VisitFits (g : Gateway) (round : Round) : Prop where
  numbered : (g.store.entryAt (g.store.nthClient round.slot).clientAddress).fileNumber ≠ .empty
  covered : round.hasHeartBeaten = true → g.Removes (g.store.nthClient round.slot) round.elapsedTime →
    ∀ j address, g.store.slotOfId (g.store.nthClient round.slot).clientId = some j →
      g.store.slotOfAddress address = some j →
      g.Told address ∨ address = (g.store.nthClient round.slot).clientAddress ∧
        round.drained (g.store.nthClient round.slot).clientStatus = true →
      (g.store.writeSlot j .zero).Ended address

theorem visit_unconnected (sound : g.Sound) (offline : round.online = false)
    (finished : (g.store.nthClient n).clientStatus.connected = false)
    (returned : round.body n (g.store.nthClient n) g = some after) : after.store = g.store ∧ after.sent = g.sent := by
  have quiet : (g.store.nthClient n).clientStatus ≠ .active ∧ (g.store.nthClient n).clientStatus ≠ .awake := by
    constructor
    all_goals
      intro same
      rw [same] at finished
      cases finished
  have skipped : round.drained (g.store.nthClient n).clientStatus = false := by
    unfold Round.drained
    rw [offline]
    simp [quiet]
  have undelivered : g.delivered n = g.visiting n := by
    unfold delivered handleClientPublishes
    rw [if_neg (by simp [quiet])]
  have unready : Gateway.Drained (g.visiting n) false round.status round.notice (g.store.nthClient n).clientAddress
      (g.drained round n) := by
    unfold Gateway.drained
    rw [skipped, undelivered]
    exact drain_unready sound.idle
  have same : after = g.drained round n := by
    rw [body_eq] at returned
    split at returned
    · rw [handleTimeout_disconnected finished] at returned
      exact (Option.some.inj returned).symm
    · exact (Option.some.inj returned).symm
  rw [same]
  generalize g.drained round n = last at unready ⊢
  cases unready with
  | kept settles silent => exact ⟨settles.store, silent⟩
  | changed ready _ _ => cases ready

/-- The gateway before the time-out in a visit of slot `n` by the offline procedure, where the client in slot `m` is
    selected. -/
structure Ready (g : Gateway) (round : Round) (n m : Nat) : Prop where
  sound : (g.drained round n).Sound
  rewritten : Rewritten m g.store (g.drained round n).store
  numbered : (g.drained round n).store.Numbered (g.store.nthClient n).clientAddress m
  wil : ∀ number, ((g.drained round n).store.files number).wil = (g.store.files number).wil
  told : ∀ address, (g.drained round n).Told address → g.Told address ∨
    address = (g.store.nthClient n).clientAddress ∧ round.drained (g.store.nthClient n).clientStatus = true ∧
      (g.drained round n).store.Ended address

theorem offline_ready {m : Nat} (sound : g.Sound) (offline : round.online = false)
    (nonzero : (g.store.nthClient n).clientAddress ≠ .zero)
    (selected : g.store.Numbered (g.store.nthClient n).clientAddress m) : Ready g round n m := by
  have slots := sound.ok.slots
  have visiting : (g.visiting n).Sound := ⟨sound.idle, sound.ok⟩
  have delivers : Delivered (g.visiting n) (g.store.nthClient n).clientAddress m (g.delivered n) :=
    handleClientPublishes_delivered _ sound.idle sound.ok selected.found
  have delivery := delivers.delivery selected.found
  have first : (g.delivered n).Sound := delivery.touches.sound visiting nonzero
  have delivered : Rewritten m g.store (g.delivered n).store := delivery.rewritten visiting nonzero selected
  have between := delivered.numbered slots first.ok.slots nonzero selected
  have drains : Gateway.Drained (g.delivered n) (round.drained (g.store.nthClient n).clientStatus) round.status
      round.notice (g.store.nthClient n).clientAddress (g.drained round n) := drain_drained first.idle between.found
  have second : (g.drained round n).Sound := (drains.touches round.used.1).sound first nonzero
  have wil : ∀ number, ((g.drained round n).store.files number).wil = (g.store.files number).wil := by
    intro number
    rw [drains.files]
    exact delivers.wil number
  have status : round.status = .disconnected := by
    unfold Round.status
    rw [offline]
    rfl
  have notice : round.notice = .disconnect := by
    unfold Round.notice
    rw [offline]
    rfl
  rw [status, notice] at drains
  obtain ⟨drained, told⟩ := drains.dismisses first nonzero between
  have total := delivered.trans drained
  refine ⟨second, total, total.numbered slots second.ok.slots nonzero selected, wil, fun address here => ?_⟩
  rcases told address here with before | ⟨same, ready, ended⟩
  · exact .inl (delivery.spares address before)
  · right
    rw [same]
    exact ⟨rfl, ready, ended⟩

theorem Ready.removes {m : Nat} {elapsed : UInt32} (ready : Ready g round n m)
    (found : g.store.slotOfAddress (g.store.nthClient n).clientAddress = some m)
    (removes : (g.drained round n).Removes (g.store.nthClient n) elapsed) : g.Removes (g.store.nthClient n) elapsed := by
  obtain ⟨expires, willing⟩ := removes
  refine ⟨expires, ?_⟩
  rw [entryAt_found ready.numbered.found, ready.rewritten.same.fileNumber, ready.wil] at willing
  rw [entryAt_found found]
  exact willing

theorem Ready.agrees {m : Nat} (ready : Ready g round n m) (sound : g.Sound)
    (nonzero : (g.store.nthClient n).clientAddress ≠ .zero)
    (agreed : ∀ address, g.Told address → address ≠ .zero ∧ g.store.Ended address) (address : DeviceAddress)
    (told : (g.drained round n).Told address) : address ≠ .zero ∧ (g.drained round n).store.Ended address := by
  rcases ready.told address told with before | ⟨same, _, ended⟩
  · obtain ⟨given, ended⟩ := agreed address before
    exact ⟨given, ready.rewritten.ended sound.ok.slots ready.sound.ok.slots given ended⟩
  · refine ⟨?_, ended⟩
    rw [same]
    exact nonzero

theorem visit_agrees (sound : g.Sound) (registered : (g.store.nthClient round.slot).clientStatus ≠ .empty)
    (offline : round.online = false)
    (fits : (g.store.nthClient round.slot).clientStatus.connected = true → g.VisitFits round)
    (returned : round.body round.slot (g.store.nthClient round.slot) g = some after)
    (agreed : ∀ address, g.Told address → address ≠ .zero ∧ g.store.Ended address) :
    ∀ address, after.Told address → address ≠ .zero ∧ after.store.Ended address := by
  cases finished : (g.store.nthClient round.slot).clientStatus.connected with
  | false =>
    obtain ⟨store, silent⟩ := visit_unconnected sound offline finished returned
    intro address told
    rw [store]
    exact agreed address (spares_silent silent address told)
  | true =>
    obtain ⟨numbered, covered⟩ := fits finished
    generalize place : round.slot = n at registered numbered covered returned
    have slots := sound.ok.slots
    have nonzero := (slots.fits n).addressed registered
    obtain ⟨m, _, found⟩ := slots.slotOfAddress_here nonzero rfl
    rw [entryAt_found found] at numbered
    have ready : Ready g round n m := offline_ready sound offline nonzero ⟨found, numbered⟩
    have kept := ready.sound.ok.slots
    rw [body_eq] at returned
    split at returned
    · rename_i beaten
      have timesOut := handleTimeout_timesOut ready.sound.idle (ready.sound.ok.files _) (slots.fits n).named
        ready.numbered.found returned
      intro address told
      have before : (g.drained round n).Told address := spares_silent timesOut.sent address told
      obtain ⟨given, ended⟩ := ready.agrees sound nonzero agreed address before
      refine ⟨given, timesOut.ended ready.sound nonzero ready.numbered given ended ?_⟩
      intro removes j named bound
      have selected := ready.rewritten.slotOfId slots kept named
      rw [ready.rewritten.slotOfAddress slots kept given] at bound
      have short := slots.short
      have inside := (findIdx?_clients.mp selected).1
      apply ready.rewritten.erased slots kept (by omega) given
      apply covered beaten (ready.removes found removes) j address selected bound
      rcases ready.told address before with told | ⟨same, drains, _⟩
      · exact .inl told
      · exact .inr ⟨same, drains⟩
    · rw [← Option.some.inj returned]
      exact ready.agrees sound nonzero agreed

theorem visit_spares (sound : g.Sound) (registered : (g.store.nthClient n).clientStatus ≠ .empty)
    (online : round.online = true) (returned : round.body n (g.store.nthClient n) g = some after) : g.Spares after := by
  obtain ⟨delivered, ready, delivery, drains, timesOut⟩ :=
    serviceClient_visits sound registered round.used.1 returned
  have plain : round.notice ≠ .disconnect := by
    unfold Round.notice
    rw [online]
    nofun
  have first : g.Spares ready := by
    apply Spares.trans (g := g) delivery.spares
    cases drains with
    | kept _ silent => exact spares_silent silent
    | changed _ _ silent => exact spares_send silent plain
  apply first.trans
  split at timesOut
  · exact spares_silent timesOut.sent
  · rw [timesOut]
    exact spares_silent rfl

end Visits

end Gateway

namespace Stage

variable {stage later : Stage} {moment : Moment}

/-- The condition on what happens: the requests of clients whose sessions go on fit, and so do the visits of the offline
    procedure. -/
def Fits (stage : Stage) : Moment → Prop
  | .input input => ∀ address request, input.request? = some (address, request) →
    ¬ stage.gateway.store.Ended address → (stage.gateway.prepare input).AnswersFit address request
  | .visit => ∀ round, stage.round = some round → round.online = false →
    (stage.gateway.store.nthClient round.slot).clientStatus.connected = true → stage.gateway.VisitFits round

/-- What holds between two operations; the traversal of `loop` tells nobody while the gateway is online. -/
structure Agrees (stage : Stage) : Prop where
  sound : stage.gateway.Sound
  told : ∀ address, stage.gateway.Told address → address ≠ .zero ∧ stage.gateway.store.Ended address
  online : ∀ round, stage.round = some round → round.online = true → ∀ address, ¬ stage.gateway.Told address

theorem agrees_silent (sound : stage.gateway.Sound) (silent : stage.gateway.sent = []) : Agrees stage := by
  have none : ∀ address, ¬ stage.gateway.Told address := by
    intro address told
    unfold Gateway.Told at told
    rw [silent] at told
    cases told
  exact ⟨sound, fun address told => absurd told (none address), fun _ _ _ => none⟩

theorem step_event_agrees {input : Input} {after : Gateway} (agrees : Agrees stage) (fits : Fits stage (.input input))
    (other : ∀ beat elapsed, input.event ≠ .loop beat elapsed) (stepped : Gateway.step stage.gateway input = some after) :
    Agrees ⟨after, none⟩ := by
  have sound := agrees.sound
  have prepared : (stage.gateway.prepare input).Sound := Gateway.sound_prepare sound
  have later : after.Sound := Gateway.step_sound sound stepped
  cases Gateway.step_stepped stepped with
  | @datagram sender bytes beyond after event _ handled =>
    have made := Input.request_of_datagram event
    have nonzero := sender.getDeviceAddress_ne_zero
    have dismisses := Gateway.handle_dismisses prepared nonzero (fits _ _ made) handled
    refine ⟨later, fun address told => ?_, nofun⟩
    rcases dismisses address told with before | ⟨same, ended⟩
    · cases before
    · rw [same]
      exact ⟨nonzero, ended⟩
  | brokerMessage _ _ published =>
    apply agrees_silent later
    exact (Gateway.publishFromBroker_receives prepared.idle published).silent
  | loop event _ => exact absurd event (other _ _)
  | @socketBegin opened _ _ =>
    apply agrees_silent later
    cases opened <;> rfl
  | _ => exact agrees_silent later rfl

theorem step_visit_online {round next : Round} (under : stage.round = some round) (stepped : step stage .visit = some later)
    (going : later.round = some next) : next.online = round.online := by
  unfold step at stepped
  rw [under] at stepped
  obtain ⟨after, _, same⟩ := Option.map_eq_some_iff.mp stepped
  rw [← same] at going
  simp only at going
  split at going
  · cases going
  · cases going
    rfl

theorem step_agrees (agrees : Agrees stage) (fits : Fits stage moment) (stepped : step stage moment = some later) :
    Agrees later := by
  have sound := agrees.sound
  have kept := step_sound sound stepped
  cases step_stepped stepped with
  | event _ other taken => exact step_event_agrees agrees fits other taken
  | disconnected _ event _ _ => exact agrees_silent kept (step_loop_silent sound event stepped)
  | begun _ event _ _ => exact agrees_silent kept (step_loop_silent sound event stepped)
  | @empty round _ under _ quiet =>
    have calm := quiet sound
    have spares : stage.gateway.Spares later.gateway := Gateway.spares_silent calm.sent
    refine ⟨kept, fun address told => ?_, fun next going connected address told => ?_⟩
    · rw [calm.store]
      exact agrees.told address (spares address told)
    · rw [step_visit_online under stepped going] at connected
      exact agrees.online round under connected address (spares address told)
  | @visit round _ under registered returned =>
    cases connected : round.online with
    | true =>
      have none := agrees.online round under connected
      have spares := Gateway.visit_spares sound registered connected returned
      exact ⟨kept, fun address told => absurd (spares address told) (none address),
        fun _ _ _ address told => none address (spares address told)⟩
    | false =>
      refine ⟨kept, ?_, fun next going online => ?_⟩
      · exact Gateway.visit_agrees sound registered connected (fits round under connected) returned agrees.told
      · rw [step_visit_online under stepped going, connected] at online
        cases online

/-- In a run that meets the condition whoever is sent a DISCONNECT without duration is stored as DISCONNECTED or LOST when
    the operation is over. -/
theorem disconnects_agree (run : RunOf Fits stage) : stage.gateway.Agreed := by
  have agrees : Agrees stage := by
    induction run with
    | start initial =>
      obtain ⟨config, same⟩ := initial.1
      apply agrees_silent (Gateway.sound_initial initial.1)
      rw [same]
      rfl
    | next _ meets taken ih => exact step_agrees ih meets taken
  exact fun address told => (agrees.told address told).2

end Stage

namespace Scenario

def withTopic : Stage :=
  (Stage.step registered (event (.datagram (client 1) (Datagram.register 1 (name 116)) []))).get (by decide +kernel)

def brokenOff : Stage := (Stage.step withTopic (event .mqttConnectionLost)).get (by decide +kernel)

def unpublished : Stage :=
  (Stage.step brokenOff (event (.datagram (client 1) (Datagram.publish 2 1 0 [104]) []))).get (by decide +kernel)

theorem run_registered : Stage.RunOf (fun _ _ => True) registered := by
  have begun : Stage.RunOf (fun _ _ => True) started := .start ⟨⟨configuration [47], rfl⟩, rfl⟩
  have connected : Stage.RunOf (fun _ _ => True) online := begun.next trivial (Option.some_get _).symm
  exact connected.next trivial (Option.some_get _).symm

/-- The client is sent a DISCONNECT and goes on as ACTIVE. -/
theorem unpublished_disagrees : ¬ ∀ stage, Stage.RunOf (fun _ _ => True) stage → stage.gateway.Agreed := by
  intro claim
  have run : Stage.RunOf (fun _ _ => True) withTopic := run_registered.next trivial (Option.some_get _).symm
  have lost : Stage.RunOf (fun _ _ => True) brokenOff := run.next trivial (Option.some_get _).symm
  have last : Stage.RunOf (fun _ _ => True) unpublished := lost.next trivial (Option.some_get _).symm
  have ended := claim unpublished last (client 1).getDeviceAddress (by decide +kernel)
  have finished := ended 0 (by decide +kernel)
  exact absurd finished (by decide +kernel)

def goodbye : Stage :=
  (Stage.step registered (event (.datagram (client 1) Datagram.disconnect []))).get (by decide +kernel)

theorem run_goodbye : Stage.RunOf Stage.Fits goodbye := by
  have begun : Stage.RunOf Stage.Fits started := .start ⟨⟨configuration [47], rfl⟩, rfl⟩
  have first : Stage.Fits started (event .mqttConnect) := by
    intro address request made
    cases made
  have second : Stage.Fits online (event (.datagram (client 1) (Datagram.connect (name 65) 10 0) [])) := by
    intro address request made _
    cases made
    exact trivial
  have third : Stage.Fits registered (event (.datagram (client 1) Datagram.disconnect [])) := by
    intro address request made _
    cases made
    exact trivial
  have connected : Stage.RunOf Stage.Fits online := begun.next first (Option.some_get _).symm
  have entered : Stage.RunOf Stage.Fits registered := connected.next second (Option.some_get _).symm
  exact entered.next third (Option.some_get _).symm

theorem disconnects_agree_goodbye : goodbye.gateway.Agreed ∧ goodbye.gateway.Told (client 1).getDeviceAddress :=
  ⟨Stage.disconnects_agree run_goodbye, by decide +kernel⟩

end Scenario

end MqttSnGateway
