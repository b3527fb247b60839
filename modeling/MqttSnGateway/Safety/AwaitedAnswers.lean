import MqttSnGateway.Core.Unshared
import MqttSnGateway.Safety.DisconnectAgreement

namespace MqttSnGateway

open Persistent Store

namespace Gateway

variable {g between after last : Gateway} {address : DeviceAddress} {n : Nat} {message : SnMessage}

/-- The messages of the running step that ask a client for an answer. -/
def asked (g : Gateway) : List (DeviceAddress × SnMessage) := g.sent.filter fun sent => sent.2.asks.isSome

def Plain (g after : Gateway) : Prop := after.asked = g.asked

section Sending

theorem Plain.trans (first : g.Plain after) (second : after.Plain last) : g.Plain last :=
  Eq.trans (α := List (DeviceAddress × SnMessage)) second first

theorem plain_silent (silent : after.sent = g.sent) : g.Plain after := by
  unfold Plain asked
  rw [silent]

theorem plain_send (silent : between.sent = g.sent) (plain : message.asks = none) : g.Plain (between.send address message) := by
  unfold Plain asked Gateway.send
  split
  · rw [List.filter_append, silent]
    simp [plain]
  · exact congrArg _ silent

theorem asked_send (silent : between.sent = g.sent) (asks : message.asks ≠ none) (opened : between.socketOpen = true) :
    (between.send address message).asked = g.asked ++ [(address, message)] := by
  unfold asked
  rw [sent_send opened, List.filter_append, silent]
  have some_asked : message.asks.isSome = true := Option.isSome_iff_ne_none.mpr asks
  simp [some_asked]

theorem Answered.plain (answered : Answered between address after) : between.Plain after := by
  cases answered with
  | silent => exact plain_silent rfl
  | sent plain => exact plain_send rfl plain

end Sending

section Handlers

variable {msgId topicId : UInt16} {returnCode : UInt8} {data : List UInt8} {shortTopic retain : Bool} {qos : Int}

theorem Acknowledged.plain {outcome : CoreResult × Gateway} (acknowledged : Acknowledged address outcome after)
    (silent : outcome.2.sent = g.sent) : g.Plain after := by
  cases acknowledged with
  | success => exact plain_silent silent
  | failure _ => exact plain_send silent rfl

theorem handleWillmsg_plain {willMsg : List UInt8} : g.Plain (g.handleWillmsg address willMsg) := by
  have added : (g.addWillMsg address willMsg).2.sent = g.sent := addWillPart_sent
  unfold handleWillmsg
  generalize g.addWillMsg address willMsg = outcome at added ⊢
  obtain ⟨result, between⟩ := outcome
  cases result with
  | _ => exact plain_send added rfl

theorem handleWilltopic_asked {willTopic : CString} {qos : UInt8} (idle : g.persistent.Idle)
    (found : g.store.slotOfAddress address = some n) (accepted : g.WilltopicAccepted n willTopic retain qos)
    (opened : g.socketOpen = true) :
    (g.handleWilltopic address willTopic retain qos).asked = g.asked ++ [(address, .willmsgreq)] := by
  obtain ⟨filled, online, awaited⟩ := accepted
  have added := addWillPart_awaited (fun p => p.setClientWilltopic willTopic qos retain) idle online found awaited
    (by decide) (setClientWilltopic_inside g.persistent g.store n willTopic retain qos)
  have selected : (g.settled (g.store.setFiles n fun files => files.setWilltopic willTopic retain qos)
      (g.store.nthClient n)).store.slotOfAddress address = some n := found
  unfold handleWilltopic addWillTopic
  rw [if_neg (by simpa using filled), added]
  simp only
  rw [awaitMessage_found idle_settled selected]
  exact asked_send rfl nofun opened

theorem handleWilltopic_plain {willTopic : CString} {qos : UInt8} (idle : g.persistent.Idle)
    (rejected : ∀ n, g.store.slotOfAddress address = some n → ¬ g.WilltopicAccepted n willTopic retain qos) :
    g.Plain (g.handleWilltopic address willTopic retain qos) := by
  unfold handleWilltopic
  split
  · exact plain_silent rfl
  · rename_i filled
    unfold addWillTopic
    cases online : g.persistent.isMqttOnline with
    | false =>
      rw [addWillPart_offline online]
      exact plain_send rfl rfl
    | true =>
      cases selection : g.store.slotOfAddress address with
      | none =>
        rw [addWillPart_missing idle online selection]
        exact plain_send rfl rfl
      | some n =>
        have other : (g.store.nthClient n).awaitMessage ≠ .willtopic :=
          fun awaited => rejected n selection ⟨by simpa [and_assoc] using filled, online, awaited⟩
        rw [addWillPart_unawaited idle online selection other]
        exact plain_send rfl rfl

/-- A PUBLISH with QoS 2 of a client that is found is answered with a PUBREC, if it is passed on. -/
theorem handlePublish_asks (data : List UInt8) (msgId topicId : UInt16) (shortTopic retain : Bool) (qos : Int)
    (idle : g.persistent.Idle) (opened : g.socketOpen = true) :
    let after := handlePublish pahoMqttMessageHandler g address data msgId topicId shortTopic retain qos
    g.Settles g.store after ∧ g.Plain after ∨
      g.Settles (g.store.updateAt address fun entry => { entry with awaitMessage := .pubrel }) after ∧
        after.asked = g.asked ++ [(address, .pubrec msgId)] := by
  have published : g.Settles g.store (publish pahoMqttMessageHandler g address data topicId shortTopic retain qos).2 :=
    publish_settles idle
  have silent : (publish pahoMqttMessageHandler g address data topicId shortTopic retain qos).2.sent = g.sent :=
    (publish_calls idle).1
  unfold handlePublish
  generalize publish pahoMqttMessageHandler g address data topicId shortTopic retain qos = outcome at published silent ⊢
  obtain ⟨result, between⟩ := outcome
  simp only at published silent ⊢
  split
  · exact .inl ⟨published, plain_silent silent⟩
  · split
    · split
      · exact .inl ⟨published.send, plain_send silent rfl⟩
      · exact .inl ⟨published.send, plain_send silent rfl⟩
    · split
      · split
        · exact .inl ⟨published.send, plain_send silent rfl⟩
        · exact .inl ⟨published, plain_silent silent⟩
      · split
        · split
          · exact .inl ⟨published.send, plain_send silent rfl⟩
          · exact .inl ⟨published.send, plain_send silent rfl⟩
        · cases selection : between.store.slotOfAddress address with
          | none =>
            rw [awaitMessage_missing published.idle selection]
            have settled : g.Settles g.store (between.settled between.store .zero) := by
              rw [published.store]
              exact published.trans Settles.settled
            exact .inl ⟨settled.send, plain_send silent rfl⟩
          | some n =>
            have here := selection
            rw [published.store] at here
            rw [awaitMessage_found published.idle selection, updateAt_found here, published.store]
            right
            refine ⟨(published.trans Settles.settled).send, asked_send silent nofun ?_⟩
            exact published.socketOpen.trans opened

theorem handle_publish_asks {twice : Bool} (sound : g.Sound) (nonzero : address ≠ .zero) (opened : g.socketOpen = true)
    (handled : handle pahoMqttMessageHandler g address (.publish data msgId topicId shortTopic retain qos twice) = some after) :
    g.Settles g.store after ∧ g.Plain after ∨
      g.Settles (g.store.updateAt address fun entry => { entry with awaitMessage := .pubrel }) after ∧
        ∃ messages, messages ≠ [] ∧ after.asked = g.asked ++ messages.map (Prod.mk address) := by
  have first : let once := handlePublish pahoMqttMessageHandler g address data msgId topicId shortTopic retain qos
      g.Settles g.store once ∧ g.Plain once ∨
        g.Settles (g.store.updateAt address fun entry => { entry with awaitMessage := .pubrel }) once ∧
          once.asked = g.asked ++ [(address, .pubrec msgId)] :=
    handlePublish_asks data msgId topicId shortTopic retain qos sound.idle opened
  cases twice with
  | false =>
    cases handled
    rcases first with quiet | ⟨settles, asked⟩
    · exact .inl quiet
    · exact .inr ⟨settles, [.pubrec msgId], nofun, asked⟩
  | true =>
    cases handled
    simp only [if_true] at first ⊢
    generalize handlePublish pahoMqttMessageHandler g address data msgId topicId shortTopic retain qos = middle at first ⊢
    have again (idle : middle.persistent.Idle) (opened : middle.socketOpen = true) :
        let later := handlePublish pahoMqttMessageHandler middle address data msgId topicId shortTopic retain qos
        middle.Settles middle.store later ∧ middle.Plain later ∨
          middle.Settles (middle.store.updateAt address fun entry => { entry with awaitMessage := .pubrel }) later ∧
            later.asked = middle.asked ++ [(address, .pubrec msgId)] :=
      handlePublish_asks data msgId topicId shortTopic retain qos idle opened
    rcases first with ⟨settles, plain⟩ | ⟨settles, asked⟩
    · rcases again settles.idle (settles.socketOpen.trans opened) with ⟨settles', plain'⟩ | ⟨settles', asked'⟩
      · exact .inl ⟨settles.trans (settles'.cast settles.store), plain.trans plain'⟩
      · rw [settles.store] at settles'
        refine .inr ⟨settles.trans settles', [.pubrec msgId], nofun, ?_⟩
        rw [asked', show middle.asked = g.asked from plain]
        rfl
    · rcases again settles.idle (settles.socketOpen.trans opened) with ⟨settles', plain'⟩ | ⟨settles', asked'⟩
      · refine .inr ⟨settles.trans (settles'.cast settles.store), [.pubrec msgId], nofun, ?_⟩
        exact Eq.trans (α := List (DeviceAddress × SnMessage)) plain' asked
      · rw [settles.store, sound.ok.slots.updateAt_updateAt nonzero (keeps_await .pubrel)] at settles'
        refine .inr ⟨settles.trans settles', [.pubrec msgId, .pubrec msgId], nofun, ?_⟩
        rw [asked', asked, List.append_assoc]
        rfl

end Handlers

section Requests

variable {request : Request}

/-- The request is the awaited WILLTOPIC of the client in slot `n`. -/
def Accepts (g : Gateway) (n : Nat) (request : Request) : Prop :=
  ∃ willTopic retain qos, request = .willtopic willTopic retain qos ∧ g.WilltopicAccepted n willTopic retain qos

/-- The request is a REGACK after which the client in slot `n` awaits nothing. -/
def Resets (g : Gateway) (n : Nat) (request : Request) : Prop :=
  ∃ topicId msgId returnCode, request = .regack topicId msgId returnCode ∧ Regacks (g.store.nthClient n) msgId ∧
    (returnCode = ReturnCode.accepted ∨ returnCode = ReturnCode.rejectedCongestion)

/-- The clients await what they awaited, and nobody is asked. -/
structure KeepsAwaits (g after : Gateway) : Prop where
  awaits : ∀ i, (after.store.nthClient i).awaitMessage = (g.store.nthClient i).awaitMessage
  plain : g.Plain after

/-- The client that the address selects is asked and awaits an answer. -/
structure AsksAt (g : Gateway) (address : DeviceAddress) (after : Gateway) : Prop where
  others : ∀ i, g.store.slotOfAddress address ≠ some i →
    (after.store.nthClient i).awaitMessage = (g.store.nthClient i).awaitMessage
  selected : ∀ i, g.store.slotOfAddress address = some i → (after.store.nthClient i).awaitMessage ≠ .pingreq
  asked : ∃ messages, messages ≠ [] ∧ after.asked = g.asked ++ messages.map (Prod.mk address)

/-- What a request that is no CONNECT changes of what the clients await. -/
inductive Exchanges (g : Gateway) (address : DeviceAddress) (request : Request) (after : Gateway) : Prop
  | keeps (keeps : g.KeepsAwaits after) (unaccepted : ∀ n, g.store.slotOfAddress address = some n → ¬ g.Accepts n request)
    (unreset : ∀ n, g.store.slotOfAddress address = some n → ¬ g.Resets n request)
  | asks (asks : g.AsksAt address after) (unreset : ∀ n, ¬ g.Resets n request)
  | resets {n : Nat} (found : g.store.slotOfAddress address = some n) (resets : g.Resets n request)
    (others : ∀ i, g.store.slotOfAddress address ≠ some i →
      (after.store.nthClient i).awaitMessage = (g.store.nthClient i).awaitMessage)
    (free : (after.store.nthClient n).awaitMessage = .pingreq) (plain : g.Plain after)

theorem asksAt_setEntry {s : Store} {type : MessageType} (orderly : g.Orderly) (nonzero : address ≠ .zero)
    (found : g.store.slotOfAddress address = some n) (clients : s.clients = g.store.clients) (waiting : type ≠ .pingreq)
    (settles : g.Settles (s.setEntry n fun entry => { entry with awaitMessage := type }) after)
    (asked : ∃ messages, messages ≠ [] ∧ after.asked = g.asked ++ messages.map (Prod.mk address)) :
    g.AsksAt address after := by
  have slots := orderly.sound.ok.slots
  have own := orderly.regular.slotNumber slots (slots.registered_of_slotOfAddress nonzero found)
  have written : ∀ i, after.store.nthClient i =
      if i = n then { g.store.nthClient n with awaitMessage := type } else g.store.nthClient i := by
    intro i
    rw [settles.store]
    unfold setEntry
    rw [nthClient_congr clients, own, nthClient_writeSlot, nthClient_congr clients]
  refine ⟨fun i other => ?_, fun i selected => ?_, asked⟩
  · have different : i ≠ n := by
      rintro rfl
      exact other found
    rw [written i, if_neg different]
  · rw [written i, if_pos (Option.some.inj (selected.symm.trans found))]
    exact waiting

theorem asksAt_updateAt {type : MessageType} (orderly : g.Orderly) (nonzero : address ≠ .zero) (waiting : type ≠ .pingreq)
    (settles : g.Settles (g.store.updateAt address fun entry => { entry with awaitMessage := type }) after)
    (asked : ∃ messages, messages ≠ [] ∧ after.asked = g.asked ++ messages.map (Prod.mk address)) :
    g.AsksAt address after := by
  cases selection : g.store.slotOfAddress address with
  | some n =>
    rw [updateAt_found selection] at settles
    exact asksAt_setEntry orderly nonzero selection rfl waiting settles asked
  | none =>
    rw [updateAt_missing selection] at settles
    refine ⟨fun i _ => by rw [settles.store], fun i found => ?_, asked⟩
    cases selection.symm.trans found

theorem handleWilltopic_exchanges {willTopic : CString} {retain : Bool} {qos : UInt8} (orderly : g.Orderly)
    (nonzero : address ≠ .zero) (opened : g.socketOpen = true) :
    g.Exchanges address (.willtopic willTopic retain qos) (g.handleWilltopic address willTopic retain qos) := by
  have idle := orderly.sound.idle
  have unreset : ∀ n, ¬ g.Resets n (.willtopic willTopic retain qos) := by
    rintro n ⟨_, _, _, same, _⟩
    cases same
  by_cases accepted : ∃ n, g.store.slotOfAddress address = some n ∧ g.WilltopicAccepted n willTopic retain qos
  · obtain ⟨n, found, accepted⟩ := accepted
    have settles := handleWilltopic_accepted idle found accepted
    refine .asks (asksAt_setEntry orderly nonzero found ?_ ?_ settles ?_) unreset
    · rfl
    · decide
    · exact ⟨[.willmsgreq], nofun, handleWilltopic_asked idle found accepted opened⟩
  · have rejected : ∀ n, g.store.slotOfAddress address = some n → ¬ g.WilltopicAccepted n willTopic retain qos :=
      fun n found holds => accepted ⟨n, found, holds⟩
    have handled : ∃ s, Acts g address (.willtopic willTopic retain qos) s ∧
        g.Settles s (g.handleWilltopic address willTopic retain qos) := handleWilltopic_acts idle
    obtain ⟨s, acts, settles⟩ := handled
    refine .keeps ⟨fun i => ?_, handleWilltopic_plain idle rejected⟩ ?_ fun n _ => unreset n
    · rw [settles.store]
      rcases acts.entry orderly.sound orderly.regular nonzero i with same | ⟨found, writes⟩
      · rw [same]
      · generalize s.nthClient i = entry at writes
        cases writes with
        | willtopic accepted => exact absurd accepted (rejected i found)
    · rintro n found ⟨_, _, _, same, holds⟩
      cases same
      exact rejected n found holds

theorem handleRegack_exchanges {topicId msgId : UInt16} {returnCode : UInt8} (orderly : g.Orderly)
    (nonzero : address ≠ .zero) :
    g.Exchanges address (.regack topicId msgId returnCode) (g.handleRegack address topicId msgId returnCode) := by
  have plain : g.Plain (g.handleRegack address topicId msgId returnCode) :=
    handleRegack_acknowledged.plain notifyRegackArrived_sent
  have handled : ∃ s, Acts g address (.regack topicId msgId returnCode) s ∧
      g.Settles s (g.handleRegack address topicId msgId returnCode) := handleRegack_acts orderly.sound.idle
  obtain ⟨s, acts, settles⟩ := handled
  have unaccepted : ∀ n, ¬ g.Accepts n (.regack topicId msgId returnCode) := by
    rintro n ⟨_, _, _, same, _⟩
    cases same
  cases acts with
  | unknown missing =>
    refine .keeps ⟨fun i => by rw [settles.store], plain⟩ (fun n _ => unaccepted n) fun n found => ?_
    cases missing.symm.trans found
  | @regack n _ _ _ found awaited counts =>
    have slots := orderly.sound.ok.slots
    have registered := slots.registered_of_slotOfAddress nonzero found
    refine .resets found ⟨_, _, _, rfl, awaited, counts⟩ (fun i other => ?_) ?_ plain
    · have different : i ≠ n := fun same => other (same ▸ found)
      rw [settles.store, orderly.regular.nthClient_setEntry slots registered, if_neg different]
    · rw [settles.store, orderly.regular.nthClient_setEntry slots registered, if_pos rfl]
  | regackRejected found rejected =>
    refine .keeps ⟨fun i => by rw [settles.store], plain⟩ (fun n _ => unaccepted n) fun n selected => ?_
    cases found.symm.trans selected
    rintro ⟨_, _, _, same, awaited, counts⟩
    cases same
    exact rejected ⟨awaited, counts⟩

theorem handlePublish_exchanges {data : List UInt8} {msgId topicId : UInt16} {shortTopic retain : Bool} {qos : Int}
    {twice : Bool} (orderly : g.Orderly) (nonzero : address ≠ .zero) (opened : g.socketOpen = true)
    (handled : handle pahoMqttMessageHandler g address (.publish data msgId topicId shortTopic retain qos twice) = some after) :
    g.Exchanges address (.publish data msgId topicId shortTopic retain qos twice) after := by
  have unaccepted : ∀ n, ¬ g.Accepts n (.publish data msgId topicId shortTopic retain qos twice) := by
    rintro n ⟨_, _, _, same, _⟩
    cases same
  have unreset : ∀ n, ¬ g.Resets n (.publish data msgId topicId shortTopic retain qos twice) := by
    rintro n ⟨_, _, _, same, _⟩
    cases same
  rcases handle_publish_asks orderly.sound nonzero opened handled with ⟨settles, plain⟩ | ⟨settles, asked⟩
  · exact .keeps ⟨fun i => by rw [settles.store], plain⟩ (fun n _ => unaccepted n) fun n _ => unreset n
  · exact .asks (asksAt_updateAt orderly nonzero (by decide) settles asked) unreset

theorem handle_plain (orderly : g.Orderly) (nonzero : address ≠ .zero)
    (other : ∀ clientId duration will clean, request ≠ .connect clientId duration will clean)
    (unasked : ∀ willTopic retain qos, request ≠ .willtopic willTopic retain qos)
    (unpublished : ∀ data msgId topicId shortTopic retain qos twice,
      request ≠ .publish data msgId topicId shortTopic retain qos twice)
    (handled : handle pahoMqttMessageHandler g address request = some after) : g.Plain after := by
  have handles := handle_handles orderly.sound nonzero handled
  have registered : ∀ {topicName between}, Registers g address topicName between → g.Plain between := by
    intro topicName between registers
    cases registers with
    | rejected _ silent => exact plain_silent silent
    | registered _ _ _ silent => exact plain_silent silent
  have subscribed : ∀ {qos topic between}, Subscribes g address qos topic between → g.Plain between := by
    intro qos topic between subscribes
    cases subscribes with
    | rejected _ silent => exact plain_silent silent
    | subscribed _ _ _ subscription => exact plain_silent subscription.unanswered.sent
  cases request with
  | connect clientId duration will clean => exact absurd rfl (other clientId duration will clean)
  | willtopic willTopic retain qos => exact absurd rfl (unasked willTopic retain qos)
  | publish data msgId topicId shortTopic retain qos twice =>
    exact absurd rfl (unpublished data msgId topicId shortTopic retain qos twice)
  | willmsg willMsg =>
    cases handled
    exact handleWillmsg_plain
  | register msgId topicName =>
    obtain ⟨between, registers, answered⟩ := handles
    exact (registered registers).trans answered.plain
  | regack topicId msgId returnCode =>
    cases handled
    exact handleRegack_acknowledged.plain notifyRegackArrived_sent
  | puback topicId msgId returnCode =>
    cases handled
    exact handlePuback_acknowledged.plain notifyPubackArrived_sent
  | subscribe topicId msgId shortTopic qos =>
    obtain ⟨between, subscribes, answered⟩ := handles
    exact (subscribed subscribes).trans answered.plain
  | subscribeByName topicName msgId qos =>
    obtain ⟨between, registers | subscribes, answered⟩ := handles
    · exact (registered registers).trans answered.plain
    · exact (subscribed subscribes).trans answered.plain
  | unsubscribe topicId msgId shortTopic =>
    obtain ⟨between, unsubscription, answered⟩ := handles
    exact (plain_silent unsubscription.unanswered.sent).trans answered.plain
  | unsubscribeByName topicName msgId =>
    obtain ⟨between, unsubscription, answered⟩ := handles
    exact (plain_silent unsubscription.unanswered.sent).trans answered.plain
  | pingreq =>
    cases handled
    exact plain_send rfl rfl
  | pingreqWithId clientId =>
    cases handled
    unfold handlePingreqWithId
    have silent : (g.setAwake address).2.sent = g.sent := rfl
    generalize g.setAwake address = outcome at silent ⊢
    obtain ⟨result, between⟩ := outcome
    cases result with
    | success => exact plain_silent silent
    | _ => exact plain_send silent rfl
  | disconnect =>
    cases handled
    unfold handleDisconnect
    have silent : (g.setDisconnected address).2.sent = g.sent := rfl
    generalize g.setDisconnected address = outcome at silent ⊢
    obtain ⟨result, between⟩ := outcome
    cases result with
    | success => exact plain_send silent rfl
    | _ => exact plain_silent silent
  | disconnectWithDuration duration =>
    cases handled
    unfold handleDisconnectWithDuration
    have silent : (g.setAsleep address duration).2.sent = g.sent := by
      unfold setAsleep
      split <;> rfl
    generalize g.setAsleep address duration = outcome at silent ⊢
    obtain ⟨result, between⟩ := outcome
    cases result with
    | success => exact plain_send silent rfl
    | _ => exact plain_send silent rfl
  | pubrel =>
    cases handled
    exact plain_silent rfl
  | ignored =>
    cases handled
    exact plain_silent rfl

theorem handle_exchanges (orderly : g.Orderly) (nonzero : address ≠ .zero) (opened : g.socketOpen = true)
    (other : ∀ clientId duration will clean, request ≠ .connect clientId duration will clean)
    (handled : handle pahoMqttMessageHandler g address request = some after) : g.Exchanges address request after := by
  by_cases willtopic : ∃ willTopic retain qos, request = .willtopic willTopic retain qos
  · obtain ⟨willTopic, retain, qos, rfl⟩ := willtopic
    cases handled
    exact handleWilltopic_exchanges orderly nonzero opened
  by_cases regack : ∃ topicId msgId returnCode, request = .regack topicId msgId returnCode
  · obtain ⟨topicId, msgId, returnCode, rfl⟩ := regack
    cases handled
    exact handleRegack_exchanges orderly nonzero
  by_cases publish : ∃ data msgId topicId shortTopic retain qos twice,
      request = .publish data msgId topicId shortTopic retain qos twice
  · obtain ⟨data, msgId, topicId, shortTopic, retain, qos, twice, rfl⟩ := publish
    exact handlePublish_exchanges orderly nonzero opened handled
  have plain : g.Plain after := handle_plain orderly nonzero other
    (fun willTopic retain qos same => willtopic ⟨willTopic, retain, qos, same⟩)
    (fun data msgId topicId shortTopic retain qos twice same =>
      publish ⟨data, msgId, topicId, shortTopic, retain, qos, twice, same⟩) handled
  refine .keeps ⟨fun i => ?_, plain⟩ ?_ ?_
  · cases handle_requested orderly.sound nonzero handled with
    | connect _ => exact absurd rfl (other _ _ _ _)
    | topics _ _ only => rw [only.nthClient]
    | @acts _ s _ acts settles =>
      rw [settles.store]
      rcases acts.entry orderly.sound orderly.regular nonzero i with same | ⟨_, writes⟩
      · rw [same]
      · generalize s.nthClient i = entry at writes
        cases writes with
        | willtopic _ => exact absurd ⟨_, _, _, rfl⟩ willtopic
        | regack _ => exact absurd ⟨_, _, _, rfl⟩ regack
        | publish _ => exact absurd ⟨_, _, _, _, _, _, _, rfl⟩ publish
        | awake => rfl
        | disconnected => rfl
        | asleep _ => rfl
  · rintro n _ ⟨willTopic, retain, qos, same, _⟩
    exact willtopic ⟨willTopic, retain, qos, same⟩
  · rintro n _ ⟨topicId, msgId, returnCode, same, _⟩
    exact regack ⟨topicId, msgId, returnCode, same⟩

end Requests

end Gateway

/-- The request is an answer that the message asks for. A PUBREL is parsed without its message id. -/
def Request.answers : Request → SnMessage → Bool
  | .willtopic _ _ _, .willtopicreq => true
  | .willmsg _, .willmsgreq => true
  | .regack _ msgId _, .register _ asked _ => msgId = asked
  | .puback _ msgId _, .publish _ asked _ _ _ qos _ => qos = 1 && msgId = asked
  | .pubrel, .pubrec _ => true
  | _, _ => false

/-- The messages that have been sent and not been answered yet, with the address they were sent to. -/
abbrev Outstanding := List (DeviceAddress × SnMessage)

namespace Outstanding

variable {outstanding remaining : Outstanding} {address other : DeviceAddress} {request : Request}

def Has (outstanding : Outstanding) (address : DeviceAddress) : Prop := ∃ message, (address, message) ∈ outstanding

def answer (outstanding : Outstanding) (address : DeviceAddress) (request : Request) : Outstanding :=
  outstanding.eraseP fun sent => decide (sent.1 = address) && request.answers sent.2

/-- With a CONNECT that is accepted the client begins anew. -/
def restart (outstanding : Outstanding) (address : DeviceAddress) : Outstanding :=
  outstanding.filter fun sent => sent.1 ≠ address

theorem has_append {more : Outstanding} : (outstanding ++ more).Has address ↔ outstanding.Has address ∨ more.Has address := by
  unfold Has
  simp only [List.mem_append, exists_or]

theorem has_nil : ¬ Has [] address := by
  rintro ⟨_, member⟩
  cases member

theorem has_map {messages : List SnMessage} (some_message : messages ≠ []) :
    Has (messages.map (Prod.mk address)) other ↔ other = address := by
  constructor
  · rintro ⟨message, member⟩
    obtain ⟨_, _, same⟩ := List.mem_map.mp member
    exact (Prod.mk.inj same).1.symm
  · rintro rfl
    obtain ⟨message, member⟩ := List.exists_mem_of_ne_nil _ some_message
    exact ⟨message, List.mem_map.mpr ⟨message, member, rfl⟩⟩

theorem has_of_answer (has : (outstanding.answer address request).Has other) : outstanding.Has other := by
  obtain ⟨message, member⟩ := has
  exact ⟨message, List.mem_of_mem_eraseP member⟩

theorem has_answer_ne (different : other ≠ address) :
    (outstanding.answer address request).Has other ↔ outstanding.Has other := by
  constructor
  · exact has_of_answer
  · rintro ⟨message, member⟩
    refine ⟨message, (List.mem_eraseP_of_neg ?_).mpr member⟩
    simp [different]

theorem has_restart : (outstanding.restart address).Has other ↔ other ≠ address ∧ outstanding.Has other := by
  unfold Has restart
  constructor
  · rintro ⟨message, member⟩
    obtain ⟨inside, different⟩ := List.mem_filter.mp member
    exact ⟨of_decide_eq_true different, message, inside⟩
  · rintro ⟨different, message, member⟩
    exact ⟨message, List.mem_filter.mpr ⟨member, decide_eq_true different⟩⟩

end Outstanding

namespace Gateway

variable {g after : Gateway} {outstanding remaining : Outstanding} {address : DeviceAddress}

/-- The clients that await an answer are those that something is outstanding at. -/
def Mirrors (g : Gateway) (outstanding : Outstanding) : Prop :=
  ∀ i, (g.store.nthClient i).clientStatus ≠ .empty →
    ((g.store.nthClient i).awaitMessage ≠ .pingreq ↔ outstanding.Has (g.store.nthClient i).clientAddress)

/-- The client in slot `n` is active or awake, awaits no answer and has queued messages. -/
def Served (g : Gateway) (n : Nat) : Prop :=
  ((g.store.nthClient n).clientStatus = .awake ∨ (g.store.nthClient n).clientStatus = .active) ∧
    (g.store.nthClient n).awaitMessage = .pingreq ∧
    ∃ entry ∈ (g.store.files (g.store.nthClient n).fileNumber).pub, entry.isEmpty = false

/-- The clients of `after` are those of `g`, under their addresses. -/
def StaysIn (g after : Gateway) : Prop :=
  ∀ i, (after.store.nthClient i).clientStatus ≠ .empty → (g.store.nthClient i).clientStatus ≠ .empty ∧
    (after.store.nthClient i).clientAddress = (g.store.nthClient i).clientAddress

section Mirrors

theorem Mirrors.keeps (mirrors : g.Mirrors outstanding) (stays : g.StaysIn after)
    (awaits : ∀ i, (after.store.nthClient i).clientStatus ≠ .empty →
      (after.store.nthClient i).awaitMessage = (g.store.nthClient i).awaitMessage) : after.Mirrors outstanding := by
  intro i registered
  obtain ⟨before, address⟩ := stays i registered
  rw [awaits i registered, address]
  exact mirrors i before

theorem Mirrors.others (mirrors : g.Mirrors outstanding) (separate : g.Separate) (stays : g.StaysIn after)
    (others : ∀ other, other ≠ address → (remaining.Has other ↔ outstanding.Has other))
    (awaits : ∀ i, g.store.slotOfAddress address ≠ some i →
      (after.store.nthClient i).awaitMessage = (g.store.nthClient i).awaitMessage)
    (here : ∀ i, g.store.slotOfAddress address = some i → (g.store.nthClient i).clientStatus ≠ .empty →
      ((after.store.nthClient i).awaitMessage ≠ .pingreq ↔ remaining.Has address)) : after.Mirrors remaining := by
  intro i registered
  obtain ⟨before, same⟩ := stays i registered
  have own := separate.selected before
  rw [same]
  by_cases selected : (g.store.nthClient i).clientAddress = address
  · rw [selected] at own ⊢
    exact here i own before
  · have unselected : g.store.slotOfAddress address ≠ some i := by
      intro found
      have stored := (findIdx?_clients.mp found).2.1
      simp only [Bool.and_eq_true, decide_eq_true_eq] at stored
      exact selected stored.2
    rw [awaits i unselected, others _ selected]
    exact mirrors i before

theorem Mirrors.asks (mirrors : g.Mirrors outstanding) (separate : g.Separate) (stays : g.StaysIn after)
    (asks : g.AsksAt address after) (others : ∀ other, other ≠ address → (remaining.Has other ↔ outstanding.Has other)) :
    ∃ more, after.asked = g.asked ++ more ∧ after.Mirrors (remaining ++ more) := by
  obtain ⟨messages, some_message, asked⟩ := asks.asked
  refine ⟨_, asked, mirrors.others separate stays (fun other different => ?_) asks.others fun i found _ => ?_⟩
  · rw [Outstanding.has_append, Outstanding.has_map some_message, others other different]
    simp [different]
  · rw [Outstanding.has_append, Outstanding.has_map some_message]
    exact iff_of_true (asks.selected i found) (.inr rfl)

end Mirrors

section Connect

variable {clientId : CString} {duration : UInt16} {will clean : Bool} {request : Request}

def unanswered (g : Gateway) (address : DeviceAddress) (outstanding : Outstanding) : Request → Outstanding
  | .connect clientId _ _ _ =>
    if g.persistent.isMqttOnline && clientId.length < 24 then outstanding.restart address else outstanding
  | request => outstanding.answer address request

theorem unanswered_eq (other : ∀ clientId duration will clean, request ≠ .connect clientId duration will clean) :
    unanswered g address outstanding request = outstanding.answer address request := by
  cases request with
  | connect clientId duration will clean => exact absurd rfl (other clientId duration will clean)
  | _ => rfl

theorem AddsClient.socketOpen {result : CoreResult} (adds : AddsClient g clientId duration clean address result after) :
    after.socketOpen = g.socketOpen := by
  cases adds with
  | long _ settles _ => exact settles.socketOpen
  | cleaned _ _ _ _ removal _ => exact removal.called.socketOpen
  | _ => rfl

theorem AddsClient.mirrors (adds : AddsClient g clientId duration clean address .success after)
    (alone : g.store.EntersAlone clientId clean address) (mirrors : g.Mirrors outstanding) :
    after.Mirrors (outstanding.restart address) := by
  intro i registered
  have entered := adds.entered
  rw [Outstanding.has_restart]
  by_cases here : i = g.store.slotGiven clientId clean
  · rw [here, entered.awaitMessage_eq, entered.clientAddress_eq]
    simp
  · have others := entered.others i here
    rcases g.store.cleared_cases clientId clean i with ⟨same, _⟩ | zero
    · have different := alone i here
      rw [same] at others different
      rw [others] at registered ⊢
      rw [mirrors i registered]
      simp [different]
    · rw [others, zero] at registered
      exact absurd rfl registered

/-- A CONNECT that is accepted gives its client a new entry, which awaits the answer to what it is asked. -/
theorem Connection.mirrors (connection : Connection g clientId duration will clean address after) (separate : g.Separate)
    (nonzero : address ≠ .zero) (opened : g.socketOpen = true)
    (alive : clean = false → ∀ n, g.store.slotOfId clientId = some n → (g.store.nthClient n).clientStatus ≠ .empty)
    (alone : g.persistent.isMqttOnline = true → clientId.length < 24 → g.store.EntersAlone clientId clean address)
    (mirrors : g.Mirrors outstanding) : ∃ more, after.asked = g.asked ++ more ∧
      after.Mirrors (g.unanswered address outstanding (.connect clientId duration will clean) ++ more) := by
  have admitted : ∀ {between : Gateway}, AddsClient g clientId duration clean address .success between →
      g.unanswered address outstanding (.connect clientId duration will clean) = outstanding.restart address := by
    intro between adds
    apply if_pos
    rw [Bool.and_eq_true]
    exact ⟨adds.online.1, decide_eq_true adds.online.2⟩
  cases connection with
  | @rejected between _ code adds refused _ =>
    have kept : between.store = g.store := by
      rcases adds.refused refused with settles | rfl
      · exact settles.store
      · rfl
    have plain : g.Plain (between.send address (.connack code)) := plain_send adds.sent rfl
    have unchanged : g.unanswered address outstanding (.connect clientId duration will clean) = outstanding :=
      if_neg (by simpa using (adds.unadmitted refused).2)
    refine ⟨[], by rw [List.append_nil]; exact plain, fun i => ?_⟩
    rw [store_send, kept, unchanged, List.append_nil]
    exact mirrors i
  | @accepted between adds _ =>
    have plain : g.Plain (between.send address (.connack ReturnCode.accepted)) := plain_send adds.sent rfl
    have entered := adds.mirrors (alone adds.online.1 adds.online.2) mirrors
    refine ⟨[], by rw [List.append_nil]; exact plain, fun i => ?_⟩
    rw [store_send, admitted adds, List.append_nil]
    exact entered i
  | @asked between last adds _ settles silent =>
    have alone := alone adds.online.1 adds.online.2
    have orderly : between.Orderly :=
      ⟨adds.sound separate.orderly.sound nonzero, adds.entered.regular separate.orderly.regular alive⟩
    have slots := orderly.sound.ok.slots
    have unshared : between.store.Unshared := adds.entered.unshared separate.unshared alone
    have asks : (last.send address .willtopicreq).asked = between.asked ++ [(address, .willtopicreq)] :=
      asked_send silent nofun (settles.socketOpen.trans (adds.socketOpen.trans opened))
    have stays : between.StaysIn (last.send address .willtopicreq) := by
      intro i registered
      rw [store_send, settles.store, orderly.regular.nthClient_updateAt slots nonzero] at registered ⊢
      split at registered
      · rename_i found
        rw [if_pos found]
        exact ⟨registered, rfl⟩
      · rename_i other
        rw [if_neg other]
        exact ⟨registered, rfl⟩
    have exchanged : between.AsksAt address (last.send address .willtopicreq) :=
      asksAt_updateAt orderly nonzero (by decide) settles.send ⟨[.willtopicreq], nofun, asks⟩
    obtain ⟨more, sent, mirrored⟩ := (adds.mirrors alone mirrors).asks ⟨orderly, unshared⟩ stays exchanged fun _ _ => Iff.rfl
    have before : between.asked = g.asked := plain_silent adds.sent
    rw [before] at sent
    rw [admitted adds]
    exact ⟨more, sent, mirrored⟩

end Connect

section Visits

variable {round : Round} {n : Nat}

theorem delivered_unserved (idle : g.persistent.Idle)
    (found : g.store.slotOfAddress (g.store.nthClient n).clientAddress = some n) (unserved : ¬ g.Served n) :
    (g.delivered n).store = g.store ∧ (g.delivered n).sent = g.sent := by
  have ready : (g.visiting n).persistent.Idle := idle
  have selected : (g.visiting n).store.slotOfAddress (g.store.nthClient n).clientAddress = some n := found
  unfold delivered handleClientPublishes
  split
  · rename_i connected
    rw [startClientTransaction_found ready selected]
    simp only
    split
    · rename_i queued
      simp only [Bool.and_eq_true, Bool.or_eq_true, decide_eq_true_eq] at connected queued
      have filled : ((g.visiting n).persistent.inside g.store (g.store.nthClient n) false false).hasClientPublishes = true :=
        queued.2
      unfold hasClientPublishes at filled
      rw [if_pos (by rfl), files_inside, List.any_eq_true] at filled
      exact absurd ⟨connected, queued.1, by simpa using filled⟩ unserved
    · rw [applyTransaction_inside]
      exact ⟨rfl, rfl⟩
  · exact ⟨rfl, rfl⟩

theorem Delivered.exchanges {address : DeviceAddress} {after : Gateway} (delivered : Delivered g address n after)
    (orderly : g.Orderly) (nonzero : address ≠ .zero) (found : g.store.slotOfAddress address = some n)
    (opened : g.socketOpen = true) : g.KeepsAwaits after ∨ g.AsksAt address after := by
  cases delivered with
  | nothing settles silent => exact .inl ⟨fun i => by rw [settles.store], plain_silent silent⟩
  | register _ settles silent =>
    right
    rw [← updateAt_found found] at settles
    apply asksAt_updateAt orderly nonzero (by decide) settles.send
    exact ⟨[_], nofun, asked_send silent nofun (settles.socketOpen.trans opened)⟩
  | publish _ _ _ _ settles silent =>
    refine .inl ⟨fun i => ?_, plain_send silent rfl⟩
    rw [store_send, settles.store]
    rfl
  | @publishAwaited _ k _ msgId _ _ _ settles silent =>
    right
    refine asksAt_setEntry orderly nonzero found ?_ ?_ settles.send ?_
    · rfl
    · decide
    · exact ⟨[_], nofun, asked_send silent nofun (settles.socketOpen.trans opened)⟩

theorem Drained.plain {drains : Bool} {status : ClientStatus} {notice : SnMessage} (unasking : notice.asks = none)
    (drained : Drained g drains status notice address after) : g.Plain after := by
  cases drained with
  | kept _ silent => exact plain_silent silent
  | changed _ _ silent => exact plain_send silent unasking

theorem Visit.exchanges (visit : Visit g round n n after) (found : g.store.slotOfAddress (g.store.nthClient n).clientAddress = some n)
    (served : g.socketOpen = true ∨ ¬ g.Served n) :
    g.KeepsAwaits (g.drained round n) ∨ g.AsksAt (g.store.nthClient n).clientAddress (g.drained round n) := by
  have unasking : round.notice.asks = none := by
    unfold Round.notice
    split <;> rfl
  have plain : (g.delivered n).Plain (g.drained round n) := visit.drains.plain unasking
  have awaits : ∀ i, ((g.drained round n).store.nthClient i).awaitMessage = ((g.delivered n).store.nthClient i).awaitMessage :=
    fun i => visit.drains.keeps EntryClient.awaitMessage (fun _ => rfl) visit.first.sound visit.first.regular visit.nonzero
  have delivered : g.KeepsAwaits (g.delivered n) ∨ g.AsksAt (g.store.nthClient n).clientAddress (g.delivered n) := by
    rcases served with opened | unserved
    · rcases visit.delivers.exchanges visit.visiting visit.nonzero found opened with keeps | asks
      · exact .inl ⟨keeps.awaits, keeps.plain⟩
      · exact .inr ⟨asks.others, asks.selected, asks.asked⟩
    · have idle : g.persistent.Idle := visit.visiting.sound.idle
      obtain ⟨store, silent⟩ := delivered_unserved idle found unserved
      exact .inl ⟨fun i => by rw [store], plain_silent silent⟩
  rcases delivered with keeps | asks
  · exact .inl ⟨fun i => (awaits i).trans (keeps.awaits i), keeps.plain.trans plain⟩
  · refine .inr ⟨fun i other => (awaits i).trans (asks.others i other), fun i selected => ?_, ?_⟩
    · rw [awaits i]
      exact asks.selected i selected
    · obtain ⟨messages, some_message, asked⟩ := asks.asked
      exact ⟨messages, some_message, Eq.trans (α := List (DeviceAddress × SnMessage)) plain asked⟩

theorem visit_mirrors (separate : g.Separate) (registered : (g.store.nthClient n).clientStatus ≠ .empty)
    (served : g.socketOpen = true ∨ ¬ g.Served n) (returned : round.body n (g.store.nthClient n) g = some after)
    (mirrors : g.Mirrors outstanding) : ∃ more, after.asked = g.asked ++ more ∧ after.Mirrors (outstanding ++ more) := by
  have orderly := separate.orderly
  have found := separate.selected registered
  have visit := separate.visit registered returned
  have stays : g.StaysIn (g.drained round n) := by
    intro i remains
    exact ⟨visit.registered remains, (visit.same i).clientAddress⟩
  have ready : ∃ more, (g.drained round n).asked = g.asked ++ more ∧ (g.drained round n).Mirrors (outstanding ++ more) := by
    rcases visit.exchanges found served with keeps | asks
    · refine ⟨[], ?_, ?_⟩
      · rw [List.append_nil]
        exact keeps.plain
      · rw [List.append_nil]
        exact mirrors.keeps stays fun i _ => keeps.awaits i
    · exact mirrors.asks separate stays asks fun _ _ => Iff.rfl
  obtain ⟨more, asked, mirrored⟩ := ready
  have timesOut := visit.timesOut
  split at timesOut
  · have entries := timesOut.entry visit.second.sound visit.second.regular visit.nonzero
    refine ⟨more, ?_, mirrored.keeps (fun i remains => ?_) fun i remains => ?_⟩
    · rw [← asked]
      exact plain_silent timesOut.sent
    · rcases entries i with same | ⟨here, changed | ⟨_, changed⟩⟩ | ⟨_, zero, _⟩
      · rw [same] at remains ⊢
        exact ⟨remains, rfl⟩
      · rw [changed] at remains ⊢
        exact ⟨remains, rfl⟩
      · rw [changed]
        exact ⟨visit.second.sound.ok.slots.registered_of_slotOfAddress visit.nonzero here, rfl⟩
      · rw [zero] at remains
        exact absurd rfl remains
    · rcases entries i with same | ⟨_, changed | ⟨_, changed⟩⟩ | ⟨_, zero, _⟩
      · rw [same]
      · rw [changed]
      · rw [changed]
      · rw [zero] at remains
        exact absurd rfl remains
  · rw [timesOut]
    exact ⟨more, asked, mirrored⟩

end Visits

end Gateway

namespace Stage

variable {stage later : Stage} {moment : Moment} {outstanding : Outstanding} {input : Input} {address : DeviceAddress}
  {request : Request}

def note (stage : Stage) (moment : Moment) (later : Stage) (outstanding : Outstanding) : Outstanding :=
  match moment with
  | .visit => outstanding ++ later.gateway.asked.drop stage.gateway.asked.length
  | .input input =>
    match input.request? with
    | some (address, request) => stage.gateway.unanswered address outstanding request ++ later.gateway.asked
    | none => outstanding ++ later.gateway.asked

/-- A moment after which the clients await what is outstanding: addresses are not shared; the last outstanding message of a
    client is not answered, unless by a WILLTOPIC that is accepted or a REGACK that resets; no REGACK resets while something
    stays outstanding; and nothing is delivered into a closed socket. -/
structure Mirroring (state : Stage × Outstanding) (moment : Moment) : Prop where
  separating : Separating state.1 moment
  answered : ∀ input address request n, moment = .input input → input.request? = some (address, request) →
    state.1.gateway.store.slotOfAddress address = some n → state.2.Has address →
    (state.2.answer address request).Has address ∨ state.1.gateway.Accepts n request ∨ state.1.gateway.Resets n request
  reset : ∀ input address request n, moment = .input input → input.request? = some (address, request) →
    state.1.gateway.store.slotOfAddress address = some n → state.1.gateway.Resets n request →
    ¬ (state.2.answer address request).Has address
  opened : ∀ round, moment = .visit → state.1.round = some round →
    state.1.gateway.socketOpen = true ∨ ¬ state.1.gateway.Served round.slot

section Steps

/-- Who is a client after a moment without an accepted CONNECT was one before, with the same address. -/
theorem staysIn_of_follows (separate : stage.gateway.Separate) (separating : Separating stage moment)
    (stepped : step stage moment = some later) (none_enters : ∀ clientId address, ¬ stage.ConnectsFrom clientId address moment) :
    stage.gateway.StaysIn later.gateway := by
  intro i registered
  have after := (step_separate separate separating stepped).orderly
  have slots := separate.orderly.sound.ok.slots
  cases step_follows separate.orderly separating.alive stepped i with
  | goesOn same =>
    refine ⟨fun empty => ?_, same.clientAddress⟩
    have number := after.regular i registered
    rw [same.fileNumber, (slots.fits i).emptied empty] at number
    exact fileNumber_ne_empty number.symm
  | erased zero =>
    rw [zero] at registered
    exact absurd rfl registered
  | entered admitted => exact absurd admitted.connectsFrom (none_enters _ _)

theorem request_mirrors {after : Gateway} (separate : stage.gateway.Separate)
    (mirroring : Mirroring (stage, outstanding) (.input input)) (mirrors : stage.gateway.Mirrors outstanding)
    (made : input.request? = some (address, request)) (stays : stage.gateway.StaysIn after)
    (exchanges : (stage.gateway.prepare input).Exchanges address request after) :
    after.Mirrors (outstanding.answer address request ++ after.asked) := by
  have others : ∀ other, other ≠ address → ((outstanding.answer address request).Has other ↔ outstanding.Has other) :=
    fun other different => Outstanding.has_answer_ne different
  have silent : (stage.gateway.prepare input).Plain after → outstanding.answer address request ++ after.asked =
      outstanding.answer address request := by
    intro plain
    rw [show after.asked = [] from plain, List.append_nil]
  cases exchanges with
  | keeps keeps unaccepted unreset =>
    rw [silent keeps.plain]
    refine mirrors.others separate stays others (fun i _ => keeps.awaits i) fun i found registered => ?_
    have before := mirrors i registered
    have here : (stage.gateway.store.nthClient i).clientAddress = address := by
      have stored := (findIdx?_clients.mp found).2.1
      simp only [Bool.and_eq_true, decide_eq_true_eq] at stored
      exact stored.2
    rw [here] at before
    rw [show (after.store.nthClient i).awaitMessage = (stage.gateway.store.nthClient i).awaitMessage from keeps.awaits i,
      before]
    constructor
    · intro has
      rcases mirroring.answered input address request i rfl made found has with remains | accepts | resets
      · exact remains
      · exact absurd accepts (unaccepted i found)
      · exact absurd resets (unreset i found)
    · exact Outstanding.has_of_answer
  | asks asks _ =>
    have ready : (stage.gateway.prepare input).Separate :=
      ⟨⟨Gateway.sound_prepare separate.orderly.sound, separate.orderly.regular⟩, separate.unshared⟩
    have before : (stage.gateway.prepare input).Mirrors outstanding := mirrors
    obtain ⟨more, asked, mirrored⟩ := before.asks ready stays asks others
    rw [show after.asked = more from asked]
    exact mirrored
  | @resets n found resets keeps free plain =>
    rw [silent plain]
    refine mirrors.others separate stays others keeps fun i selected _ => ?_
    have here : i = n := Option.some.inj (selected.symm.trans found)
    rw [here]
    refine iff_of_false (fun waits => waits free) ?_
    exact mirroring.reset input address request n rfl made found resets

theorem note_request {later : Stage} (made : input.request? = some (address, request)) :
    note stage (.input input) later outstanding =
      stage.gateway.unanswered address outstanding request ++ later.gateway.asked := by
  unfold note
  simp only
  rw [made]

theorem note_silent {later : Stage} (made : input.request? = none) (silent : later.gateway.sent = []) :
    note stage (.input input) later outstanding = outstanding := by
  unfold note Gateway.asked
  simp only
  rw [made, silent]
  exact List.append_nil outstanding

theorem step_connect_mirrors {clientId : CString} {duration : UInt16} {will clean : Bool} (separate : stage.gateway.Separate)
    (mirroring : Mirroring (stage, outstanding) (.input input)) (mirrors : stage.gateway.Mirrors outstanding)
    (made : input.request? = some (address, .connect clientId duration will clean)) (opened : stage.gateway.socketOpen = true)
    (taken : Gateway.step stage.gateway input = some later.gateway) :
    later.gateway.Mirrors (note stage (.input input) later outstanding) := by
  obtain ⟨nonzero, connection⟩ := Gateway.step_connect separate.orderly.sound made taken
  have ready : (stage.gateway.prepare input).Separate :=
    ⟨⟨Gateway.sound_prepare separate.orderly.sound, separate.orderly.regular⟩, separate.unshared⟩
  have before : (stage.gateway.prepare input).Mirrors outstanding := mirrors
  have alive : clean = false → ∀ n, stage.gateway.store.slotOfId clientId = some n →
      (stage.gateway.store.nthClient n).clientStatus ≠ .empty := by
    rintro rfl n found emptied
    exact mirroring.separating.alive input rfl address _ made ⟨clientId, duration, will, n, rfl, found, emptied⟩
  have alone := mirroring.separating.alone input clientId duration will clean address rfl made
  obtain ⟨more, asked, mirrored⟩ := connection.mirrors ready nonzero opened alive alone before
  rw [note_request made, show later.gateway.asked = more from asked]
  exact mirrored

theorem step_request_mirrors (separate : stage.gateway.Separate) (mirroring : Mirroring (stage, outstanding) (.input input))
    (mirrors : stage.gateway.Mirrors outstanding) (made : input.request? = some (address, request))
    (nonzero : address ≠ .zero) (opened : stage.gateway.socketOpen = true)
    (handled : Gateway.handle pahoMqttMessageHandler (stage.gateway.prepare input) address request = some later.gateway)
    (stepped : step stage (.input input) = some later) :
    later.gateway.Mirrors (note stage (.input input) later outstanding) := by
  by_cases connect : ∃ clientId duration will clean, request = .connect clientId duration will clean
  · obtain ⟨clientId, duration, will, clean, rfl⟩ := connect
    exact step_connect_mirrors separate mirroring mirrors made opened (step_request made stepped)
  · have other : ∀ clientId duration will clean, request ≠ .connect clientId duration will clean :=
      fun clientId duration will clean same => connect ⟨clientId, duration, will, clean, same⟩
    have prepared : (stage.gateway.prepare input).Orderly :=
      ⟨Gateway.sound_prepare separate.orderly.sound, separate.orderly.regular⟩
    have stays : stage.gateway.StaysIn later.gateway := by
      apply staysIn_of_follows separate mirroring.separating stepped
      rintro clientId sender ⟨_, same, _, _, duration, will, clean, connects⟩
      cases same
      cases made.symm.trans connects
      exact other _ _ _ _ rfl
    rw [note_request made, Gateway.unanswered_eq other]
    apply request_mirrors separate mirroring mirrors made stays
    exact Gateway.handle_exchanges prepared nonzero opened other handled

theorem step_event_mirrors (separate : stage.gateway.Separate) (mirroring : Mirroring (stage, outstanding) (.input input))
    (mirrors : stage.gateway.Mirrors outstanding) (other : ∀ beat elapsed, input.event ≠ .loop beat elapsed)
    (stepped : step stage (.input input) = some later) (taken : Gateway.step stage.gateway input = some later.gateway) :
    later.gateway.Mirrors (note stage (.input input) later outstanding) := by
  have silent : (∀ sender bytes beyond, input.event ≠ .datagram sender bytes beyond) → later.gateway.sent = [] →
      later.gateway.store.clients = stage.gateway.store.clients →
      later.gateway.Mirrors (note stage (.input input) later outstanding) := by
    intro undirected silent clients i
    rw [note_silent (Input.request_eq_none undirected) silent, nthClient_congr clients]
    exact mirrors i
  obtain ⟨gateway, round⟩ := later
  cases Gateway.step_stepped taken with
  | @datagram sender bytes beyond _ event opened handled =>
    have made := Input.request_of_datagram event
    exact step_request_mirrors separate mirroring mirrors made sender.getDeviceAddress_ne_zero opened handled stepped
  | loop event _ => exact absurd event (other _ _)
  | brokerMessage event _ published =>
    have receives := Gateway.publishFromBroker_receives (Gateway.sound_prepare separate.orderly.sound).idle published
    exact silent (by rw [event]; nofun) receives.silent receives.clients
  | restart event => exact silent (by rw [event]; nofun) rfl rfl
  | mqttConnect event _ => exact silent (by rw [event]; nofun) rfl rfl
  | mqttConnectionLost event => exact silent (by rw [event]; nofun) rfl rfl
  | socketLost event => exact silent (by rw [event]; nofun) rfl rfl
  | @socketBegin opened event _ =>
    refine silent (by rw [event]; nofun) ?_ ?_
    · cases opened <;> rfl
    · cases opened <;> rfl

theorem step_mirrors (separate : stage.gateway.Separate) (mirroring : Mirroring (stage, outstanding) moment)
    (mirrors : stage.gateway.Mirrors outstanding) (stepped : step stage moment = some later) :
    later.gateway.Mirrors (note stage moment later outstanding) := by
  have orderly := separate.orderly
  have unsent : ∀ {input : Input} {beat elapsed : UInt32}, moment = .input input → input.event = .loop beat elapsed →
      note stage moment later outstanding = outstanding := by
    rintro input beat elapsed rfl event
    have made : input.request? = none := by
      apply Input.request_eq_none
      rw [event]
      nofun
    exact note_silent made (step_loop_silent orderly.sound event stepped)
  have seen : ∀ more, later.gateway.asked = stage.gateway.asked ++ more →
      note stage .visit later outstanding = outstanding ++ more := by
    intro more asked
    unfold note
    simp only
    rw [asked, List.drop_left]
  cases step_stepped stepped with
  | event _ other taken => exact step_event_mirrors separate mirroring mirrors other stepped taken
  | disconnected _ event offline taken =>
    rw [unsent rfl event]
    have loses := Gateway.step_disconnected orderly event offline taken
    refine mirrors.keeps (fun i registered => ⟨loses.registered orderly.sound.ok.slots registered, ?_⟩) fun i _ => ?_
    · exact loses.keeps EntryClient.clientAddress fun _ => rfl
    · exact loses.keeps EntryClient.awaitMessage fun _ => rfl
  | begun _ event _ quiet =>
    rw [unsent rfl event]
    intro i
    rw [(quiet orderly.sound.idle).store]
    exact mirrors i
  | empty _ _ quiet =>
    have calm := quiet orderly.sound
    have plain : stage.gateway.Plain later.gateway := Gateway.plain_silent calm.sent
    rw [seen [] (by rw [List.append_nil]; exact plain), List.append_nil]
    intro i
    rw [calm.store]
    exact mirrors i
  | @visit round _ under registered returned =>
    have served := mirroring.opened round rfl under
    obtain ⟨more, asked, mirrored⟩ := Gateway.visit_mirrors separate registered served returned mirrors
    rw [seen more asked]
    exact mirrored

end Steps

/-- In a run of such moments a client awaits an answer if and only if something is outstanding at it. -/
theorem await_mirrors {state : Stage × Outstanding}
    (run : Runs.Run (Runs.recorded step note) Mirroring (fun state => initial state.1 ∧ state.2 = []) state)
    {n : Nat} (registered : (state.1.gateway.store.nthClient n).clientStatus ≠ .empty) :
    (state.1.gateway.store.nthClient n).awaitMessage ≠ .pingreq ↔
      state.2.Has (state.1.gateway.store.nthClient n).clientAddress := by
  have holds : state.1.gateway.Separate ∧ state.1.gateway.Mirrors state.2 := by
    clear registered
    induction run with
    | start initial =>
      obtain ⟨⟨start, _⟩, nothing⟩ := initial
      refine ⟨Gateway.separate_initial start, fun i registered => ?_⟩
      obtain ⟨config, same⟩ := start
      rw [same] at registered
      exact absurd rfl registered
    | next before meets taken ih =>
      obtain ⟨stepped, noted⟩ := Runs.recorded_eq_some.mp taken
      obtain ⟨separate, mirrors⟩ := ih
      rw [noted]
      exact ⟨step_separate separate meets.separating stepped, step_mirrors separate meets mirrors stepped⟩
  exact holds.2 n registered

end Stage

namespace Scenario

def pursue (state : Stage × Outstanding) (moment : Moment) : Option (Stage × Outstanding) :=
  Runs.recorded Stage.step Stage.note state moment

def pursuedOnline : Stage × Outstanding := (pursue (started, []) (event .mqttConnect)).get (by decide +kernel)

def pursuedConnect : Stage × Outstanding :=
  (pursue pursuedOnline (event (.datagram (client 1) (Datagram.connect (name 65) 10 Flag.will) []))).get (by decide +kernel)

def pursuedTopic : Stage × Outstanding :=
  (pursue pursuedConnect (event (.datagram (client 1) (Datagram.willtopic (name 116) Flag.qos1) []))).get (by decide +kernel)

def pursuedMessage : Stage × Outstanding :=
  (pursue pursuedTopic (event (.datagram (client 1) (Datagram.willmsg [7]) []))).get (by decide +kernel)

/-- Nothing is outstanding then, but the client still awaits a WILLMSG. -/
theorem accepted_awaits :
    ∃ state : Stage × Outstanding, Runs.Run (Runs.recorded Stage.step Stage.note) (fun _ _ => True)
      (fun state => Stage.initial state.1 ∧ state.2 = []) state ∧ state.1.round = none ∧
      ((client 1).getDeviceAddress, .connack ReturnCode.accepted) ∈ state.1.gateway.sent ∧
      ¬ ∀ n, (state.1.gateway.store.nthClient n).clientStatus ≠ .empty →
        ((state.1.gateway.store.nthClient n).awaitMessage ≠ .pingreq ↔
          state.2.Has (state.1.gateway.store.nthClient n).clientAddress) := by
  have first : Runs.Run (Runs.recorded Stage.step Stage.note) (fun _ _ => True)
      (fun state => Stage.initial state.1 ∧ state.2 = []) pursuedConnect :=
    .next (.next (.start ⟨⟨⟨configuration [47], rfl⟩, rfl⟩, rfl⟩) trivial (Option.some_get _).symm) trivial
      (Option.some_get _).symm
  refine ⟨pursuedMessage, .next (.next first trivial (Option.some_get _).symm) trivial (Option.some_get _).symm,
    by decide +kernel, by decide +kernel, ?_⟩
  intro mirrors
  have nothing : pursuedMessage.2 = [] := List.isEmpty_iff.mp (by decide +kernel)
  have awaits : (pursuedMessage.1.gateway.store.nthClient 0).awaitMessage ≠ .pingreq := by decide +kernel
  have has := (mirrors 0 (by decide +kernel)).mp awaits
  rw [nothing] at has
  exact Outstanding.has_nil has

theorem mirroring_event {state : Stage × Outstanding} {input : Event} (separating : state.1.Separating (event input))
    (answers : ∀ address request n, Input.request? ⟨input, [], []⟩ = some (address, request) →
      state.1.gateway.store.slotOfAddress address = some n → ¬ state.1.gateway.Resets n request ∧
      (state.2.Has address → (state.2.answer address request).Has address ∨ state.1.gateway.Accepts n request)) :
    Stage.Mirroring state (event input) := by
  refine ⟨separating, ?_, ?_, fun _ same => by cases same⟩
  · intro _ address request n same made found has
    cases same
    rcases (answers address request n made found).2 has with remains | accepts
    · exact .inl remains
    · exact .inr (.inl accepts)
  · intro _ address request n same made found resets
    cases same
    exact absurd resets (answers address request n made found).1

theorem run_pursuedTopic : Runs.Run (Runs.recorded Stage.step Stage.note) Stage.Mirroring
    (fun state => Stage.initial state.1 ∧ state.2 = []) pursuedTopic := by
  have first : Stage.Mirroring (started, []) (event .mqttConnect) :=
    mirroring_event (separating_event fun _ _ _ _ _ => nofun) fun _ _ _ made => by cases made
  have second : Stage.Mirroring pursuedOnline (event (.datagram (client 1) (Datagram.connect (name 65) 10 Flag.will) [])) := by
    refine mirroring_event (separating_connect (by rfl) (by decide +kernel) (by decide +kernel)) ?_
    intro address request n made found
    cases made
    have missing : pursuedOnline.1.gateway.store.slotOfAddress (client 1).getDeviceAddress = none := by decide +kernel
    cases missing.symm.trans found
  have third : Stage.Mirroring pursuedConnect
      (event (.datagram (client 1) (Datagram.willtopic (name 116) Flag.qos1) [])) := by
    refine mirroring_event (separating_event ?_) ?_
    · intro _ _ _ _ _ made
      cases made
    · intro address request n made found
      cases made
      have selected : pursuedConnect.1.gateway.store.slotOfAddress (client 1).getDeviceAddress = some 0 := by decide +kernel
      cases selected.symm.trans found
      refine ⟨?_, fun _ => .inr ⟨_, _, _, rfl, ?_, ?_, ?_⟩⟩
      · rintro ⟨_, _, _, same, _⟩
        cases same
      · rintro ⟨empty, _⟩
        cases empty
      · decide +kernel
      · decide +kernel
  exact .next (.next (.next (.start ⟨⟨⟨configuration [47], rfl⟩, rfl⟩, rfl⟩) first (Option.some_get _).symm) second
    (Option.some_get _).symm) third (Option.some_get _).symm

theorem await_mirrors_pursuedTopic :
    (pursuedTopic.1.gateway.store.nthClient 0).awaitMessage ≠ .pingreq ↔
      pursuedTopic.2.Has (pursuedTopic.1.gateway.store.nthClient 0).clientAddress :=
  Stage.await_mirrors run_pursuedTopic (by decide +kernel)

end Scenario

end MqttSnGateway
