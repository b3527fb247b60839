import MqttSnGateway.Stages

namespace MqttSnGateway

open Persistent Store

namespace Store

variable {s s' : Store} {n : Nat} {clientId : CString} {address : DeviceAddress}

/-- The clients with this id await an answer, so that nothing is delivered to them. -/
def Awaits (s : Store) (clientId : CString) : Prop :=
  ∀ n, (s.nthClient n).clientId = clientId → (s.nthClient n).awaitMessage ≠ .pingreq

theorem Awaits.congr (awaits : s.Awaits clientId) (clients : s'.clients = s.clients) : s'.Awaits clientId := by
  intro n
  rw [nthClient_congr clients]
  exact awaits n

theorem Awaits.writeSlot (awaits : s.Awaits clientId) {entry : EntryClient}
    (kept : entry.clientId = clientId → entry.awaitMessage ≠ .pingreq) : (s.writeSlot n entry).Awaits clientId := by
  intro m
  rw [nthClient_writeSlot]
  split
  · exact kept
  · exact awaits m

theorem Awaits.updateAt (awaits : s.Awaits clientId) {f : EntryClient → EntryClient}
    (sameId : ∀ entry, (f entry).clientId = entry.clientId)
    (kept : ∀ entry : EntryClient, entry.awaitMessage ≠ .pingreq → (f entry).awaitMessage ≠ .pingreq) :
    (s.updateAt address f).Awaits clientId := by
  unfold Store.updateAt
  split
  · refine awaits.writeSlot fun same => kept _ (awaits _ ?_)
    rwa [← sameId]
  · exact awaits

theorem Awaits.filesAt (awaits : s.Awaits clientId) {h : ClientFiles → ClientFiles} : (s.filesAt address h).Awaits clientId := by
  unfold Store.filesAt
  split
  · exact awaits.congr rfl
  · exact awaits

theorem Awaits.deleteClient (awaits : s.Awaits clientId) {sd : SDLinuxFake} {number other : CString} :
    (s.deleteClient sd number other).Awaits clientId := by
  rcases clients_deleteClient_cases with ⟨n, _, erased⟩ | same
  · exact Awaits.congr (awaits.writeSlot fun _ => by simp [EntryClient.zero]) erased
  · exact awaits.congr same

theorem Awaits.cleared (awaits : s.Awaits clientId) {other : CString} {clean : Bool} :
    (s.cleared other clean).Awaits clientId := by
  unfold Store.cleared
  split
  · split
    · exact awaits.writeSlot fun _ => by simp [EntryClient.zero]
    · exact awaits
  · exact awaits

theorem Entered.awaits {other : CString} {duration : UInt32} {clean : Bool}
    (entered : s.Entered other duration clean address s') (awaits : s.Awaits clientId) (different : other ≠ clientId) :
    s'.Awaits clientId := by
  intro m same
  by_cases here : m = s.slotGiven other clean
  · rw [here, entered.clientId_eq] at same
    exact absurd same different
  · rw [entered.others m here] at same ⊢
    exact awaits.cleared m same

theorem SlotsOk.awaits_updateAt (ok : s.SlotsOk) {type : MessageType} (found : s.slotOfAddress address = some n)
    (named : (s.nthClient n).clientId ≠ .empty) (waiting : type ≠ .pingreq) :
    (s.updateAt address fun entry => { entry with awaitMessage := type }).Awaits (s.nthClient n).clientId := by
  have registered : (s.nthClient n).clientStatus ≠ .empty := by
    intro empty
    rw [(ok.fits n).emptied empty] at named
    exact named rfl
  have position : (s.nthClient n).slotNumber = n := by
    rcases ok.slotNumber_cases registered with ⟨_, position⟩ | ⟨_, unnamed, _⟩
    · exact position
    · exact absurd unnamed named
  rw [updateAt_found found]
  intro m
  unfold setEntry
  rw [position, nthClient_writeSlot]
  split
  · exact fun _ => waiting
  · rename_i other
    intro same
    exact absurd (ok.distinct m n same (by rw [same]; exact named)) other

end Store

namespace Gateway

variable {g after : Gateway} {address : DeviceAddress} {clientId : CString} {n : Nat}

section Awaits

/-- A REGACK ends the waiting of the client that its address selects, of no other. -/
theorem Acts.awaits {request : Request} {s : Store} (acts : Acts g address request s) (awaits : g.store.Awaits clientId)
    (slots : g.store.SlotsOk) (nonzero : address ≠ .zero)
    (unanswered : ∀ topicId msgId returnCode, request = .regack topicId msgId returnCode →
      ∀ n, (g.store.nthClient n).clientId = clientId → (g.store.nthClient n).clientAddress ≠ address) :
    s.Awaits clientId := by
  have written : ∀ {s : Store} {n : Nat} {f : EntryClient → EntryClient}, s.Awaits clientId →
      ((f (s.nthClient n)).clientId = clientId → (f (s.nthClient n)).awaitMessage ≠ .pingreq) →
      (s.setEntry n f).Awaits clientId := fun awaits kept => awaits.writeSlot kept
  have setFiles : ∀ {n : Nat} {h : ClientFiles → ClientFiles}, (g.store.setFiles n h).Awaits clientId :=
    awaits.congr rfl
  cases acts with
  | willtopic _ _ => exact written setFiles fun _ => by simp
  | regack found _ _ =>
    refine written awaits fun same => ?_
    have here := ((slots.slotOfAddress_eq_some nonzero).mp found).1
    exact absurd here (unanswered _ _ _ rfl _ same)
  | publishAwaiting _ _ => exact written awaits fun _ => by simp
  | awake _ => exact written awaits fun same => awaits _ same
  | disconnected _ => exact written awaits fun same => awaits _ same
  | asleep _ _ => exact written awaits fun same => awaits _ same
  | willDeleted _ _ => exact setFiles
  | willmsg _ _ => exact setFiles
  | puback _ _ => exact setFiles
  | _ => exact awaits

theorem Connection.awaits {other : CString} {duration : UInt16} {will clean : Bool}
    (connection : Connection g other duration will clean address after) (awaits : g.store.Awaits clientId)
    (different : g.persistent.isMqttOnline = true → other.length < 24 → other ≠ clientId) :
    after.store.Awaits clientId := by
  have admitted : ∀ {between}, AddsClient g other duration clean address .success between → between.store.Awaits clientId := by
    intro between adds
    refine adds.entered.awaits awaits ?_
    cases adds with
    | new online fits _ => exact different online fits
    | reset online fits _ _ => exact different online fits
    | cleaned online fits _ _ _ _ => exact different online fits
  cases connection with
  | rejected adds refused _ =>
    rw [store_send]
    rcases adds.refused refused with settles | rfl
    · rw [settles.store]
      exact awaits
    · exact awaits
  | accepted adds _ =>
    rw [store_send]
    exact admitted adds
  | asked adds _ settles _ =>
    rw [store_send, settles.store]
    exact (admitted adds).updateAt (fun _ => rfl) fun _ _ => by simp

theorem Delivery.awaits (delivery : Delivery g address after) (awaits : g.store.Awaits clientId) :
    after.store.Awaits clientId := by
  cases delivery with
  | nothing settles _ =>
    rw [settles.store]
    exact awaits
  | register settles _ =>
    rw [store_send, settles.store]
    exact awaits.updateAt (fun _ => rfl) fun _ _ => by simp
  | publish _ settles _ =>
    rw [store_send, settles.store]
    exact awaits.filesAt
  | publishAwaited _ settles _ =>
    rw [store_send, settles.store]
    exact awaits.filesAt.updateAt (fun _ => rfl) fun _ _ => by simp

theorem Drained.awaits {drains : Bool} {status : ClientStatus} {notice : SnMessage}
    (drained : Drained g drains status notice address after) (awaits : g.store.Awaits clientId) :
    after.store.Awaits clientId := by
  cases drained with
  | kept settles _ =>
    rw [settles.store]
    exact awaits
  | changed _ settles _ =>
    rw [store_send, settles.store]
    exact awaits.updateAt (fun _ => rfl) fun _ kept => kept

theorem TimesOut.awaits {slot : EntryClient} {elapsed : UInt32} (timesOut : TimesOut g slot elapsed after)
    (awaits : g.store.Awaits clientId) : after.store.Awaits clientId := by
  cases timesOut with
  | disconnected _ => exact awaits
  | running _ _ settles _ =>
    rw [settles.store]
    exact awaits.updateAt (fun _ => rfl) fun _ kept => kept
  | lost _ _ _ settles _ =>
    rw [settles.store]
    exact awaits.updateAt (fun _ => rfl) fun _ kept => kept
  | deleted _ _ _ removal _ =>
    have lost : (g.store.updateAt slot.clientAddress fun entry =>
        { entry with timeout := slot.timeout + elapsed, clientStatus := .lost }).Awaits clientId :=
      awaits.updateAt (fun _ => rfl) fun _ kept => kept
    exact (lost.congr removal.clients).deleteClient

theorem Visits.awaits {drained : ClientStatus → Bool} {status : ClientStatus} {notice : SnMessage} {beaten : Bool}
    {elapsed : UInt32} {slot : EntryClient} (visits : Visits drained status notice beaten elapsed n slot g after)
    (awaits : g.store.Awaits clientId) : after.store.Awaits clientId := by
  obtain ⟨delivered, ready, delivery, drains, timesOut⟩ := visits
  have kept := drains.awaits (delivery.awaits awaits)
  cases beaten with
  | true => exact TimesOut.awaits timesOut kept
  | false =>
    have same : after = ready := timesOut
    rw [same]
    exact kept

/-- An event that neither acknowledges for the client nor lets it in anew leaves it waiting. -/
theorem step_awaits {input : Input} (sound : g.Sound) (awaits : g.store.Awaits clientId)
    (unanswered : ∀ address topicId msgId returnCode,
      input.request? = some (address, .regack topicId msgId returnCode) →
      ∀ n, (g.store.nthClient n).clientId = clientId → (g.store.nthClient n).clientAddress ≠ address)
    (absent : ¬ g.Admits input clientId) (stepped : step g input = some after) : after.store.Awaits clientId := by
  cases step_stepped stepped with
  | restart _ => exact awaits
  | @datagram sender bytes beyond after event _ handled =>
    have nonzero := sender.getDeviceAddress_ne_zero
    have same := Input.request_of_datagram event
    generalize Request.ofMemory (receiveBuffer bytes beyond) = request at handled same
    cases handle_requested (sound_prepare sound) nonzero handled with
    | connect connection =>
      refine Connection.awaits connection awaits ?_
      rintro online fits rfl
      exact absent ⟨online, fits, _, _, _, _, same⟩
    | topics _ _ only => exact awaits.congr only.clients
    | acts acts settles =>
      rw [settles.store]
      refine Acts.awaits acts awaits sound.ok.slots nonzero ?_
      rintro topicId msgId returnCode rfl
      exact unanswered _ _ _ _ same
  | brokerMessage _ _ published =>
    exact awaits.congr (publishFromBroker_receives (sound_prepare sound).idle published).clients
  | loop _ looped =>
    refine loop_invariant (I := fun g' => g'.store.Awaits clientId) (sound_prepare sound) awaits
      (fun _ _ quiet kept => quiet.store ▸ kept) ?_ ?_ looped
    · exact fun _ _ _ _ _ _ _ _ _ _ _ _ visits kept => visits.awaits kept
    · intro _ _ _ _ _ settles _ kept
      rw [settles.store]
      exact kept.updateAt (fun _ => rfl) fun _ kept => kept
  | mqttConnect _ _ => exact awaits
  | mqttConnectionLost _ => exact awaits
  | socketLost _ => exact awaits
  | @socketBegin opened _ _ => cases opened <;> exact awaits

end Awaits

theorem handleClientPublishes_waiting {status : ClientStatus} (idle : g.persistent.Idle)
    (found : g.store.slotOfAddress address = some n) (waiting : (g.store.nthClient n).awaitMessage ≠ .pingreq) :
    (handleClientPublishes status address g).sent = g.sent := by
  have type : (g.inside g.store (g.store.nthClient n) false false).persistent.getClientAwaitMessageType =
      (g.store.nthClient n).awaitMessage := rfl
  unfold handleClientPublishes
  split
  · rw [startClientTransaction_found idle found]
    simp only [type]
    rw [if_neg (by simp [waiting]), applyTransaction_inside]
    rfl
  · rfl

theorem Delivery.waits {message : SnMessage} (delivery : Delivery g address after) (slots : g.store.SlotsOk)
    (found : g.store.slotOfAddress address = some n) (named : (g.store.nthClient n).clientId ≠ .empty)
    (delivered : after.sent = g.sent ++ [(address, message)]) (asks : message.asks ≠ none) :
    after.store.Awaits (g.store.nthClient n).clientId := by
  cases delivery with
  | nothing _ silent =>
    rw [silent] at delivered
    exact absurd (congrArg List.length delivered) (by simp)
  | register settles _ =>
    rw [store_send, settles.store]
    exact slots.awaits_updateAt found named (by simp)
  | @publish between _ data topicId retain _ settles silent =>
    exfalso
    unfold Gateway.send at delivered
    split at delivered
    · rw [silent] at delivered
      have same := List.append_cancel_left delivered
      simp only [List.cons.injEq, Prod.mk.injEq, true_and, and_true] at same
      rw [← same] at asks
      exact asks rfl
    · have same : between.sent = g.sent ++ [(address, message)] := delivered
      rw [silent] at same
      exact absurd (congrArg List.length same) (by simp)
  | @publishAwaited between h _ _ _ _ _ settles _ =>
    rw [store_send, settles.store]
    have selected : (g.store.filesAt address h).slotOfAddress address = some n := by rwa [slotOfAddress_filesAt]
    have client : (g.store.filesAt address h).nthClient n = g.store.nthClient n := nthClient_filesAt
    rw [← client] at named ⊢
    exact slots.filesAt.awaits_updateAt selected named (by simp)

end Gateway

namespace Stage

/-- The visit that comes next sends a message from the queue of the client in slot `n`. -/
def Delivers (stage : Stage) (n : Nat) (message : SnMessage) : Prop :=
  ∃ round, stage.round = some round ∧
    let slot := stage.gateway.store.nthClient round.slot
    stage.gateway.store.slotOfAddress slot.clientAddress = some n ∧
      (Gateway.handleClientPublishes slot.clientStatus slot.clientAddress (stage.gateway.visiting round.slot)).sent =
        stage.gateway.sent ++ [(slot.clientAddress, message)]

/-- A PUBACK or a REGACK from the address of a client with this id is processed. -/
def Acknowledges (stage : Stage) (clientId : CString) (moment : Moment) : Prop :=
  ∃ input address n topicId msgId returnCode, moment = .input input ∧
    (stage.gateway.store.nthClient n).clientId = clientId ∧
    (stage.gateway.store.nthClient n).clientAddress = address ∧
    (input.request? = some (address, .regack topicId msgId returnCode) ∨
      input.request? = some (address, .puback topicId msgId returnCode))

section InFlight

variable {stage between later : Stage} {moment : Moment} {clientId : CString} {n m : Nat} {message other : SnMessage}

theorem Awaits.step (sound : stage.gateway.Sound) (awaits : stage.gateway.store.Awaits clientId)
    (unanswered : ¬ stage.Acknowledges clientId moment) (absent : ¬ stage.Connects clientId moment)
    (stepped : step stage moment = some later) : later.gateway.store.Awaits clientId := by
  have event : ∀ {input after}, moment = .input input → Gateway.step stage.gateway input = some after →
      after.store.Awaits clientId := by
    intro input after same taken
    refine Gateway.step_awaits sound awaits ?_ (fun admits => absent ⟨input, same, admits⟩) taken
    rintro address topicId msgId returnCode request n named rfl
    exact unanswered ⟨input, _, n, topicId, msgId, returnCode, same, named, rfl, .inl request⟩
  cases step_stepped stepped with
  | event _ _ taken => exact event rfl taken
  | disconnected _ _ _ taken => exact event rfl taken
  | begun _ _ _ quiet =>
    rw [(quiet sound.idle).store]
    exact awaits
  | empty _ _ quiet =>
    rw [(quiet sound).store]
    exact awaits
  | @visit round _ _ registered returned =>
    exact (Gateway.serviceClient_visits sound registered round.used.1 returned).awaits awaits

theorem Delivers.silent (sound : stage.gateway.Sound) (delivers : stage.Delivers n message) :
    ¬ stage.gateway.store.Awaits (stage.gateway.store.nthClient n).clientId := by
  intro awaits
  obtain ⟨round, _, found, delivered⟩ := delivers
  have visiting : (stage.gateway.visiting round.slot).persistent.Idle := sound.idle
  rw [Gateway.handleClientPublishes_waiting visiting found (awaits n rfl)] at delivered
  exact absurd (congrArg List.length delivered) (by simp [Gateway.visiting])

theorem Delivers.waits (sound : stage.gateway.Sound) (delivers : stage.Delivers n message)
    (named : (stage.gateway.store.nthClient n).clientId ≠ .empty) (asks : message.asks ≠ none)
    (stepped : step stage .visit = some later) :
    later.gateway.store.Awaits (stage.gateway.store.nthClient n).clientId := by
  obtain ⟨round, under, found, delivered⟩ := delivers
  cases step_stepped stepped with
  | @empty round' _ same emptied _ =>
    cases under.symm.trans same
    have undelivered : ∀ g, Gateway.handleClientPublishes .empty
        (stage.gateway.store.nthClient round.slot).clientAddress g = g := fun _ => rfl
    rw [emptied, undelivered] at delivered
    exact absurd (congrArg List.length delivered) (by simp [Gateway.visiting])
  | @visit round' _ same registered returned =>
    cases under.symm.trans same
    obtain ⟨delivery, ready, drains, timesOut⟩ :=
      Gateway.serviceClient_parts sound registered round.used.1 returned
    have waits := delivery.waits sound.ok.slots found named delivered asks
    have kept := drains.awaits waits
    cases beaten : round.hasHeartBeaten with
    | true =>
      rw [beaten, if_pos rfl] at timesOut
      exact timesOut.awaits kept
    | false =>
      rw [beaten, if_neg (by simp)] at timesOut
      rw [timesOut]
      exact kept

/-- After a REGISTER or a QoS 1 PUBLISH was sent from the queue of a client, nothing is sent from it until a PUBACK
    or a REGACK comes from the client's address or a CONNECT with its id is accepted. -/
theorem one_message_in_flight (reached : Stage.RunOf (fun _ _ => True) stage) (delivers : stage.Delivers n message)
    (named : (stage.gateway.store.nthClient n).clientId ≠ .empty) (asks : message.asks ≠ none)
    (sent : step stage .visit = some between)
    (run : Runs.Run step (fun stage' moment =>
        ¬ stage'.Acknowledges (stage.gateway.store.nthClient n).clientId moment ∧
          ¬ stage'.Connects (stage.gateway.store.nthClient n).clientId moment)
      (fun stage' => stage' = between) later) :
    ∀ m other, (later.gateway.store.nthClient m).clientId = (stage.gateway.store.nthClient n).clientId →
      ¬ later.Delivers m other := by
  have sound := sound_of_run reached
  have kept : later.gateway.Sound ∧
      later.gateway.store.Awaits (stage.gateway.store.nthClient n).clientId := by
    induction run with
    | start same =>
      rw [same]
      exact ⟨step_sound sound sent, delivers.waits sound named asks sent⟩
    | next _ meets taken ih => exact ⟨step_sound ih.1 taken, Awaits.step ih.1 ih.2 meets.1 meets.2 taken⟩
  intro m other same delivered
  apply delivered.silent kept.1
  rw [same]
  exact kept.2

end InFlight

end Stage

namespace Scenario

/-- A subscriber with QoS 1 just before the visit that sends it its first message. -/
def beforeDelivery : Stage :=
  (stages [47] [event .mqttConnect, event (.datagram (client 1) (Datagram.connect (name 65) 10 0) []),
    event (.datagram (client 1) (Datagram.subscribeByName (name 116) 1 Flag.qos1) []),
    event (.brokerMessage (name 116) [1] false), event (.brokerMessage (name 116) [2] false),
    event (.loop 0 0)]).get (by decide +kernel)

def afterDelivery : Stage := (Stage.step beforeDelivery .visit).get (by decide +kernel)

def nextLoop : Stage := (Stage.step afterDelivery (event (.loop 0 0))).get (by decide +kernel)

theorem reached_beforeDelivery : Stage.RunOf (fun _ _ => True) beforeDelivery := reached_stages (Option.some_get _).symm

theorem delivers_beforeDelivery : beforeDelivery.Delivers 0 (.publish [2] 1 1 true false 1 false) := by
  refine ⟨beforeDelivery.round.get (by decide +kernel), (Option.some_get _).symm, ?_⟩
  decide +kernel

theorem one_message_in_flight_nextLoop :
    ¬ nextLoop.Delivers 0 (.publish [1] 1 1 true false 1 false) := by
  refine Stage.one_message_in_flight reached_beforeDelivery delivers_beforeDelivery (by decide +kernel) (by decide)
    (Option.some_get _).symm (.next (.start rfl) ⟨?_, ?_⟩ (Option.some_get _).symm) 0 _ (by decide +kernel)
  · rintro ⟨_, _, _, _, _, _, same, _, _, request⟩
    cases same
    rcases request with request | request <;> cases request
  · rintro ⟨_, same, _, _, _, _, _, _, request⟩
    cases same
    cases request

end Scenario

end MqttSnGateway
