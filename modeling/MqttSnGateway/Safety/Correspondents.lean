import MqttSnGateway.Safety.AwaitedAnswers

namespace MqttSnGateway

open Persistent Store

/-- `UdpSocketImpl::send` takes the destination apart with `getIp_address` and `getPort`. -/
def DeviceAddress.sockaddr (destination : DeviceAddress) : SockaddrIn where
  sinAddr := (destination.b0, destination.b1, destination.b2, destination.b3)
  sinPort := destination.b4.toUInt16 + destination.b5.toUInt16 * 256

/-- Where a host is answered: the port 0 stands for `PORT`. -/
def SockaddrIn.answered (sender : SockaddrIn) : SockaddrIn :=
  { sender with sinPort := if sender.sinPort = 0 then 8888 else sender.sinPort }

theorem SockaddrIn.sockaddr_getDeviceAddress (sender : SockaddrIn) : sender.getDeviceAddress.sockaddr = sender.answered := by
  have joined : ∀ port : UInt16, port.toUInt8.toUInt16 + (port >>> 8).toUInt8.toUInt16 * 256 = port := halfword_bytes
  unfold getDeviceAddress DeviceAddress.sockaddr answered
  simp only [joined]

namespace Store

variable {s s' : Store} {known : DeviceAddress → Prop} {n : Nat} {entry : EntryClient} {address : DeviceAddress}
  {f : EntryClient → EntryClient}

def Acquainted (s : Store) (known : DeviceAddress → Prop) : Prop :=
  ∀ n, (s.nthClient n).clientStatus ≠ .empty → known (s.nthClient n).clientAddress

theorem Acquainted.weaken {wider : DeviceAddress → Prop} (acquainted : s.Acquainted known)
    (weaker : ∀ address, known address → wider address) : s.Acquainted wider :=
  fun n registered => weaker _ (acquainted n registered)

theorem Acquainted.of_clients (acquainted : s.Acquainted known) (clients : s'.clients = s.clients) : s'.Acquainted known := by
  intro n registered
  rw [nthClient_congr clients] at registered ⊢
  exact acquainted n registered

theorem Acquainted.writeSlot (acquainted : s.Acquainted known) (named : entry.clientStatus ≠ .empty → known entry.clientAddress) :
    (s.writeSlot n entry).Acquainted known := by
  intro i registered
  rw [nthClient_writeSlot] at registered ⊢
  split at registered
  · rename_i here
    rw [if_pos here]
    exact named registered
  · rename_i other
    rw [if_neg other]
    exact acquainted i registered

theorem Acquainted.updateAt (acquainted : s.Acquainted known) (ok : s.SlotsOk) (nonzero : address ≠ .zero) (keeps : Keeps f) :
    (s.updateAt address f).Acquainted known := by
  cases selection : s.slotOfAddress address with
  | none =>
    rw [updateAt_missing selection]
    exact acquainted
  | some n =>
    have registered := ok.registered_of_slotOfAddress nonzero selection
    rw [updateAt_found selection]
    apply acquainted.writeSlot
    intro _
    rw [(keeps _ registered).clientAddress]
    exact acquainted n registered

theorem Acquainted.filesAt {h : ClientFiles → ClientFiles} (acquainted : s.Acquainted known) :
    (s.filesAt address h).Acquainted known := by
  apply acquainted.of_clients
  unfold Store.filesAt
  split <;> rfl

theorem Acquainted.touched (acquainted : s.Acquainted known) (ok : s.Ok) (nonzero : address ≠ .zero)
    (touched : Touched address s s') : s'.Acquainted known := by
  induction touched with
  | refl => exact acquainted
  | entry touched keeps ih => exact ih.updateAt (touched.ok ok nonzero).slots nonzero keeps
  | files _ _ ih => exact ih.filesAt

theorem Acquainted.deleteClient {sd : SDLinuxFake} {number clientId : CString} (acquainted : s.Acquainted known) :
    (s.deleteClient sd number clientId).Acquainted known := by
  rcases clients_deleteClient_cases with ⟨n, _, erased⟩ | same
  · have written : (s.writeSlot n .zero).Acquainted known := acquainted.writeSlot fun registered => absurd rfl registered
    exact written.of_clients erased
  · exact acquainted.of_clients same

theorem Acquainted.entered {clientId : CString} {duration : UInt32} {clean : Bool} (acquainted : s.Acquainted known)
    (speaks : known address) (entered : s.Entered clientId duration clean address s') : s'.Acquainted known := by
  intro i registered
  by_cases here : i = s.slotGiven clientId clean
  · rw [here, entered.clientAddress_eq]
    exact speaks
  · rw [entered.others i here] at registered ⊢
    rcases cleared_cases s clientId clean i with ⟨kept, _⟩ | zero
    · rw [kept] at registered ⊢
      exact acquainted i registered
    · rw [zero] at registered
      exact absurd rfl registered

end Store

namespace Gateway

variable {g between after last : Gateway} {address : DeviceAddress} {message : SnMessage} {request : Request}
  {known : DeviceAddress → Prop}

/-- What has been sent since goes to one address. -/
def RepliesTo (g : Gateway) (address : DeviceAddress) (after : Gateway) : Prop :=
  ∀ sent ∈ after.sent, sent ∈ g.sent ∨ sent.1 = address

section Replies

theorem RepliesTo.trans (first : g.RepliesTo address after) (second : after.RepliesTo address last) :
    g.RepliesTo address last := by
  intro sent member
  rcases second sent member with before | here
  · exact first sent before
  · exact .inr here

theorem replies_silent (silent : after.sent = g.sent) : g.RepliesTo address after := by
  intro sent member
  rw [silent] at member
  exact .inl member

theorem replies_send (silent : between.sent = g.sent) : g.RepliesTo address (between.send address message) := by
  intro sent member
  unfold send at member
  split at member
  · simp only [List.mem_append, List.mem_singleton, silent] at member
    rcases member with before | rfl
    · exact .inl before
    · exact .inr rfl
  · rw [← silent]
    exact .inl member

theorem Answered.replies (answered : Answered between address after) : between.RepliesTo address after := by
  cases answered with
  | silent => exact replies_silent rfl
  | sent _ => exact replies_send rfl

theorem Acknowledged.replies {outcome : CoreResult × Gateway} (acknowledged : Acknowledged address outcome after)
    (silent : outcome.2.sent = g.sent) : g.RepliesTo address after := by
  cases acknowledged with
  | success => exact replies_silent silent
  | failure _ => exact replies_send silent

theorem Connection.replies {clientId : CString} {duration : UInt16} {will clean : Bool}
    (connection : Connection g clientId duration will clean address after) : g.RepliesTo address after := by
  cases connection with
  | rejected adds _ _ => exact replies_send adds.sent
  | accepted adds _ => exact replies_send adds.sent
  | asked adds _ _ silent => exact replies_send (silent.trans adds.sent)

theorem handleWilltopic_replies {willTopic : CString} {retain : Bool} {qos : UInt8} :
    g.RepliesTo address (g.handleWilltopic address willTopic retain qos) := by
  have added : (g.addWillTopic address willTopic retain qos).2.sent = g.sent := addWillPart_sent
  unfold handleWilltopic
  split
  · exact replies_silent rfl
  · generalize g.addWillTopic address willTopic retain qos = outcome at added ⊢
    obtain ⟨result, between⟩ := outcome
    cases result with
    | success =>
      have awaited : (between.awaitMessage address .willmsg).2.sent = g.sent := added
      simp only
      generalize between.awaitMessage address .willmsg = reply at awaited ⊢
      obtain ⟨result, last⟩ := reply
      cases result with
      | _ => exact replies_send awaited
    | _ => exact replies_send added

theorem handleWillmsg_replies {willMsg : List UInt8} : g.RepliesTo address (g.handleWillmsg address willMsg) := by
  have added : (g.addWillMsg address willMsg).2.sent = g.sent := addWillPart_sent
  unfold handleWillmsg
  generalize g.addWillMsg address willMsg = outcome at added ⊢
  obtain ⟨result, between⟩ := outcome
  cases result with
  | _ => exact replies_send added

theorem handlePublish_replies {data : List UInt8} {msgId topicId : UInt16} {shortTopic retain : Bool} {qos : Int}
    (idle : g.persistent.Idle) :
    g.RepliesTo address (handlePublish pahoMqttMessageHandler g address data msgId topicId shortTopic retain qos) := by
  have silent : (publish pahoMqttMessageHandler g address data topicId shortTopic retain qos).2.sent = g.sent :=
    (publish_calls idle).1
  unfold handlePublish
  generalize publish pahoMqttMessageHandler g address data topicId shortTopic retain qos = outcome at silent ⊢
  obtain ⟨result, between⟩ := outcome
  simp only at silent ⊢
  split
  · exact replies_silent silent
  · split
    · split <;> exact replies_send silent
    · split
      · split
        · exact replies_send silent
        · exact replies_silent silent
      · split
        · split <;> exact replies_send silent
        · have awaited : (between.awaitMessage address .pubrel).2.sent = g.sent := silent
          generalize between.awaitMessage address .pubrel = reply at awaited ⊢
          obtain ⟨result, last⟩ := reply
          cases result with
          | _ => exact replies_send awaited

/-- A datagram is answered to where it came from. -/
theorem handle_replies (sound : g.Sound) (nonzero : address ≠ .zero)
    (handled : handle pahoMqttMessageHandler g address request = some after) : g.RepliesTo address after := by
  have handles := handle_handles sound nonzero handled
  have registered : ∀ {topicName between}, Registers g address topicName between → g.RepliesTo address between := by
    intro topicName between registers
    cases registers with
    | rejected _ silent => exact replies_silent silent
    | registered _ _ _ silent => exact replies_silent silent
  have subscribed : ∀ {qos topic between}, Subscribes g address qos topic between → g.RepliesTo address between := by
    intro qos topic between subscribes
    cases subscribes with
    | rejected _ silent => exact replies_silent silent
    | subscribed _ _ _ subscription => exact replies_silent subscription.unanswered.sent
  cases request with
  | connect clientId duration will clean => exact Connection.replies handles
  | willtopic willTopic retain qos =>
    cases handled
    exact handleWilltopic_replies
  | willmsg willMsg =>
    cases handled
    exact handleWillmsg_replies
  | register msgId topicName =>
    obtain ⟨between, registers, answered⟩ := handles
    exact (registered registers).trans answered.replies
  | regack topicId msgId returnCode =>
    cases handled
    exact handleRegack_acknowledged.replies notifyRegackArrived_sent
  | publish data msgId topicId shortTopic retain qos twice =>
    cases handled
    cases twice with
    | false => exact handlePublish_replies sound.idle
    | true =>
      obtain ⟨s, _, settles⟩ := handlePublish_published address data msgId topicId shortTopic retain qos sound.idle
      exact (handlePublish_replies sound.idle).trans (handlePublish_replies settles.idle)
  | puback topicId msgId returnCode =>
    cases handled
    exact handlePuback_acknowledged.replies notifyPubackArrived_sent
  | subscribe topicId msgId shortTopic qos =>
    obtain ⟨between, subscribes, answered⟩ := handles
    exact (subscribed subscribes).trans answered.replies
  | subscribeByName topicName msgId qos =>
    obtain ⟨between, registers | subscribes, answered⟩ := handles
    · exact (registered registers).trans answered.replies
    · exact (subscribed subscribes).trans answered.replies
  | unsubscribe topicId msgId shortTopic =>
    obtain ⟨between, unsubscription, answered⟩ := handles
    exact (replies_silent unsubscription.unanswered.sent).trans answered.replies
  | unsubscribeByName topicName msgId =>
    obtain ⟨between, unsubscription, answered⟩ := handles
    exact (replies_silent unsubscription.unanswered.sent).trans answered.replies
  | pingreq =>
    cases handled
    exact replies_send rfl
  | pingreqWithId clientId =>
    cases handled
    unfold handlePingreqWithId
    have silent : (g.setAwake address).2.sent = g.sent := rfl
    generalize g.setAwake address = outcome at silent ⊢
    obtain ⟨result, between⟩ := outcome
    cases result with
    | success => exact replies_silent silent
    | _ => exact replies_send silent
  | disconnect =>
    cases handled
    unfold handleDisconnect
    have silent : (g.setDisconnected address).2.sent = g.sent := rfl
    generalize g.setDisconnected address = outcome at silent ⊢
    obtain ⟨result, between⟩ := outcome
    cases result with
    | success => exact replies_send silent
    | _ => exact replies_silent silent
  | disconnectWithDuration duration =>
    cases handled
    unfold handleDisconnectWithDuration
    have silent : (g.setAsleep address duration).2.sent = g.sent := by
      unfold setAsleep
      split <;> rfl
    generalize g.setAsleep address duration = outcome at silent ⊢
    obtain ⟨result, between⟩ := outcome
    cases result with
    | _ => exact replies_send silent
  | pubrel =>
    cases handled
    exact replies_silent rfl
  | ignored =>
    cases handled
    exact replies_silent rfl

end Replies

section Clients

theorem acquainted_connection {clientId : CString} {duration : UInt16} {will clean : Bool}
    (connection : Connection g clientId duration will clean address after) (sound : g.Sound) (nonzero : address ≠ .zero)
    (acquainted : g.store.Acquainted known) (speaks : known address) : after.store.Acquainted known := by
  cases connection with
  | rejected adds refused _ =>
    rw [store_send]
    rcases adds.refused refused with settles | same
    · rw [settles.store]
      exact acquainted
    · rw [same]
      exact acquainted
  | accepted adds _ =>
    rw [store_send]
    exact acquainted.entered speaks adds.entered
  | asked adds _ settles _ =>
    have entered := acquainted.entered speaks adds.entered
    rw [store_send, settles.store]
    exact entered.updateAt (adds.sound sound nonzero).ok.slots nonzero (keeps_await _)

/-- A request lets in no address but its own, and that only as a CONNECT. -/
theorem acquainted_handle (sound : g.Sound) (nonzero : address ≠ .zero) (acquainted : g.store.Acquainted known)
    (speaks : ∀ clientId duration will clean, request = .connect clientId duration will clean → known address)
    (handled : handle pahoMqttMessageHandler g address request = some after) : after.store.Acquainted known := by
  cases handle_requested sound nonzero handled with
  | connect connection => exact acquainted_connection connection sound nonzero acquainted (speaks _ _ _ _ rfl)
  | topics _ _ only => exact acquainted.of_clients only.clients
  | acts acts settles =>
    rw [settles.store]
    exact acquainted.touched sound.ok nonzero acts.touched

theorem acquainted_timesOut {slot : EntryClient} {elapsed : UInt32} (sound : g.Sound) (nonzero : slot.clientAddress ≠ .zero)
    (acquainted : g.store.Acquainted known) (timesOut : TimesOut g slot elapsed after) : after.store.Acquainted known := by
  cases timesOut with
  | disconnected _ => exact acquainted
  | running _ _ settles _ =>
    rw [settles.store]
    exact acquainted.updateAt sound.ok.slots nonzero (keeps_timeout _)
  | lost _ _ _ settles _ =>
    rw [settles.store]
    exact acquainted.updateAt sound.ok.slots nonzero (keeps_lost _)
  | deleted _ _ _ removal _ =>
    have lost := acquainted.updateAt sound.ok.slots nonzero (keeps_lost (slot.timeout + elapsed))
    exact (lost.of_clients removal.clients).deleteClient

end Clients

section Loop

variable {drained : ClientStatus → Bool} {status : ClientStatus} {notice : SnMessage} {beaten : Bool} {elapsed : UInt32}
  {slot : EntryClient} {n : Nat}

theorem Drained.replies {drains : Bool} (drained : Drained g drains status notice address after) :
    g.RepliesTo address after := by
  cases drained with
  | kept _ silent => exact replies_silent silent
  | changed _ _ silent => exact replies_send silent

theorem Delivery.replies (delivery : Delivery g address after) : g.RepliesTo address after := by
  cases delivery with
  | nothing _ silent => exact replies_silent silent
  | register _ silent => exact replies_send silent
  | publish _ _ silent => exact replies_send silent
  | publishAwaited _ _ silent => exact replies_send silent

theorem Visits.replies (visits : Visits drained status notice beaten elapsed n slot g after) :
    g.RepliesTo slot.clientAddress after := by
  obtain ⟨delivered, ready, delivery, drains, timesOut⟩ := visits
  have first : g.RepliesTo slot.clientAddress delivered := delivery.replies
  have both := first.trans drains.replies
  cases beaten with
  | false =>
    have same : after = ready := timesOut
    rw [same]
    exact both
  | true =>
    have last : TimesOut ready slot elapsed after := timesOut
    exact both.trans (replies_silent last.sent)

theorem acquainted_visits (visits : Visits drained status notice beaten elapsed n slot g after) (sound : g.Sound)
    (nonzero : slot.clientAddress ≠ .zero) (used : status ≠ .empty) (acquainted : g.store.Acquainted known) :
    after.store.Acquainted known := by
  obtain ⟨ready, touches, timesOut⟩ := visits.touches used
  have visiting : (g.visiting n).Sound := ⟨sound.idle, sound.ok⟩
  have second : ready.store.Acquainted known := acquainted.touched visiting.ok nonzero touches.touched
  have sound : ready.Sound := touches.sound visiting nonzero
  cases beaten with
  | false =>
    have same : after = ready := timesOut
    rw [same]
    exact second
  | true =>
    have last : TimesOut ready slot elapsed after := timesOut
    exact acquainted_timesOut sound nonzero second last

/-- `loop` writes to registered clients only. -/
theorem loop_acquainted {beat : UInt32} (sound : g.Sound) (acquainted : g.store.Acquainted known)
    (looped : loop pahoMqttMessageHandler beat elapsed g = some after) :
    after.store.Acquainted known ∧ ∀ sent ∈ after.sent, sent ∈ g.sent ∨ known sent.1 := by
  refine loop_invariant (I := fun g' => g'.store.Acquainted known ∧ ∀ sent ∈ g'.sent, sent ∈ g.sent ∨ known sent.1) sound
    ⟨acquainted, fun _ before => .inl before⟩ ?_ ?_ ?_ looped
  · intro g' g'' quiet kept
    rw [quiet.store, quiet.sent]
    exact kept
  · intro drained status notice beaten time kind n g' g'' sound' _ registered visits kept
    have nonzero := (sound'.ok.slots.fits n).addressed registered
    refine ⟨acquainted_visits visits sound' nonzero kind.used.1 kept.1, ?_⟩
    intro sent member
    rcases visits.replies sent member with before | here
    · exact kept.2 sent before
    · right
      rw [here]
      exact kept.1 n registered
  · intro n g' g'' sound' registered settles silent kept
    have nonzero := (sound'.ok.slots.fits n).addressed registered
    rw [settles.store, silent]
    exact ⟨kept.1.updateAt sound'.ok.slots nonzero (keeps_status (by decide)), kept.2⟩

end Loop

section Run

variable {input : Input} {met : List SockaddrIn}

def introduce (_ : Gateway) (input : Input) (_ : Gateway) (met : List SockaddrIn) : List SockaddrIn :=
  if let .datagram sender bytes beyond := input.event then
    if let .connect _ _ _ _ := Request.ofMemory (receiveBuffer bytes beyond) then met ++ [sender] else met
  else met

/-- The address is the one of a host among these. -/
def Met (met : List SockaddrIn) (address : DeviceAddress) : Prop := ∃ sender ∈ met, sender.getDeviceAddress = address

theorem met_introduce (member : Met met address) : Met (introduce g input after met) address := by
  obtain ⟨sender, known, same⟩ := member
  refine ⟨sender, ?_, same⟩
  unfold introduce
  split
  · split
    · exact List.mem_append_left _ known
    · exact known
  · exact known

theorem met_connect {sender : SockaddrIn} {bytes beyond : List UInt8} {clientId : CString} {duration : UInt16}
    {will clean : Bool} (event : input.event = .datagram sender bytes beyond)
    (connect : Request.ofMemory (receiveBuffer bytes beyond) = .connect clientId duration will clean) :
    Met (introduce g input after met) sender.getDeviceAddress := by
  refine ⟨sender, ?_, rfl⟩
  unfold introduce
  rw [event]
  simp only [connect]
  exact List.mem_append_right _ (List.mem_singleton_self _)

/-- What a step sends answers its datagram, or comes from `loop` and goes to a host met before. -/
theorem step_acquainted (sound : g.Sound) (acquainted : g.store.Acquainted (Met met)) (stepped : step g input = some after) :
    after.store.Acquainted (Met (introduce g input after met)) ∧ ∀ sent ∈ after.sent,
      (∃ sender bytes beyond, input.event = .datagram sender bytes beyond ∧ sent.1 = sender.getDeviceAddress) ∨
        (∃ beat elapsed, input.event = .loop beat elapsed) ∧ Met met sent.1 := by
  have prepared : (g.prepare input).Sound := sound_prepare sound
  have kept : g.store.Acquainted (Met (introduce g input after met)) := acquainted.weaken fun _ => met_introduce
  cases step_stepped stepped with
  | restart _ => exact ⟨kept, fun _ member => absurd member List.not_mem_nil⟩
  | @datagram sender bytes beyond after event _ handled =>
    have nonzero := sender.getDeviceAddress_ne_zero
    constructor
    · apply acquainted_handle prepared nonzero kept _ handled
      intro _ _ _ _ connect
      exact met_connect event connect
    · intro sent member
      rcases handle_replies prepared nonzero handled sent member with before | here
      · cases before
      · exact .inl ⟨sender, bytes, beyond, event, here⟩
  | brokerMessage _ _ published =>
    have receives := publishFromBroker_receives prepared.idle published
    constructor
    · exact kept.of_clients receives.clients
    · intro sent member
      rw [receives.silent] at member
      cases member
  | @loop beat elapsed _ event looped =>
    constructor
    · exact (loop_acquainted prepared kept looped).1
    · intro sent member
      rcases (loop_acquainted prepared acquainted looped).2 sent member with before | known
      · cases before
      · exact .inr ⟨⟨beat, elapsed, event⟩, known⟩
  | mqttConnect _ _ => exact ⟨kept, fun _ member => absurd member List.not_mem_nil⟩
  | mqttConnectionLost _ => exact ⟨kept, fun _ member => absurd member List.not_mem_nil⟩
  | socketLost _ => exact ⟨kept, fun _ member => absurd member List.not_mem_nil⟩
  | @socketBegin opened _ _ =>
    cases opened <;> exact ⟨kept, fun _ member => absurd member List.not_mem_nil⟩

theorem acquainted_initial (start : initial g) : g.store.Acquainted known := by
  obtain ⟨config, rfl⟩ := start
  exact fun _ registered => absurd rfl registered

/-- Every run of the gateway, with the hosts that have sent a CONNECT. -/
def RunMet : Gateway × List SockaddrIn → Prop :=
  Runs.Run (Runs.recorded step introduce) (fun _ _ => True) fun state => initial state.1 ∧ state.2 = []

theorem runMet_acquainted {state : Gateway × List SockaddrIn} (run : RunMet state) :
    state.1.Sound ∧ state.1.store.Acquainted (Met state.2) := by
  induction run with
  | start start => exact ⟨sound_initial start.1, acquainted_initial start.1⟩
  | next _ _ taken ih =>
    obtain ⟨stepped, noted⟩ := Runs.recorded_eq_some.mp taken
    obtain ⟨sound, acquainted⟩ := ih
    refine ⟨step_sound sound stepped, ?_⟩
    rw [noted]
    exact (step_acquainted sound acquainted stepped).1

/-- Whatever the gateway sends goes to the host whose datagram it handles or, out of `loop`, to one that has sent a
    CONNECT. -/
theorem sent_to_correspondents {state : Gateway × List SockaddrIn} {sent : DeviceAddress × SnMessage} (run : RunMet state)
    (stepped : step state.1 input = some after) (member : sent ∈ after.sent) :
    (∃ sender bytes beyond, input.event = .datagram sender bytes beyond ∧ sent.1.sockaddr = sender.answered) ∨
      ∃ beat elapsed, input.event = .loop beat elapsed ∧ ∃ sender ∈ state.2, sent.1.sockaddr = sender.answered := by
  obtain ⟨sound, acquainted⟩ := runMet_acquainted run
  rcases (step_acquainted sound acquainted stepped).2 sent member with ⟨sender, bytes, beyond, event, same⟩ |
    ⟨⟨beat, elapsed, event⟩, sender, known, same⟩
  · left
    refine ⟨sender, bytes, beyond, event, ?_⟩
    rw [same, SockaddrIn.sockaddr_getDeviceAddress]
  · right
    refine ⟨beat, elapsed, event, sender, known, ?_⟩
    rw [← same, SockaddrIn.sockaddr_getDeviceAddress]

end Run

end Gateway

namespace Scenario

def determined (event : Event) : Input := ⟨event, [], []⟩

def metBefore : Gateway × List SockaddrIn :=
  (Runs.execute (Runs.recorded Gateway.step Gateway.introduce) (Gateway.start (configuration [47]) .empty, [])
    [determined .mqttConnect, determined (.datagram (client 1) (Datagram.connect (name 65) 10 0) []),
      determined (.datagram (client 2) (Datagram.connect (name 66) 10 0) []), determined .restart]).get (by decide +kernel)

theorem runMet_metBefore : Gateway.RunMet metBefore := by
  have started : Runs.Run (Runs.recorded Gateway.step Gateway.introduce) (fun _ _ => True)
      (fun state => Gateway.initial state.1 ∧ state.2 = []) (Gateway.start (configuration [47]) .empty, []) :=
    .start ⟨⟨configuration [47], rfl⟩, rfl⟩
  exact started.append (.of_execute (fun _ _ => trivial) (Option.some_get _).symm)

/-- The next `loop` sends a DISCONNECT to each of them. -/
theorem sent_to_correspondents_disconnect :
    ∃ after, Gateway.step metBefore.1 (determined (.loop 0 0)) = some after ∧ ∃ sent ∈ after.sent,
      (∃ sender bytes beyond, Event.loop 0 0 = .datagram sender bytes beyond ∧ sent.1.sockaddr = sender.answered) ∨
        ∃ beat elapsed, Event.loop 0 0 = .loop beat elapsed ∧ ∃ sender ∈ metBefore.2,
          sent.1.sockaddr = sender.answered := by
  have looped : ((Gateway.step metBefore.1 (determined (.loop 0 0))).any fun after =>
      after.sent.contains ((client 1).getDeviceAddress, .disconnect)) = true := by decide +kernel
  obtain ⟨after, stepped, notified⟩ := (Option.any_eq_true _ _).mp looped
  have member : ((client 1).getDeviceAddress, .disconnect) ∈ after.sent := List.contains_iff_mem.mp notified
  exact ⟨after, stepped, _, member, Gateway.sent_to_correspondents runMet_metBefore stepped member⟩

end Scenario

end MqttSnGateway
