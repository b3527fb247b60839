import MqttSnGateway.Safety.QueueConservation

namespace MqttSnGateway

open Persistent Store

namespace Store

variable {s s' : Store} {n : Nat} {address : DeviceAddress}

/-- No entry of the registry holds a message id. -/
def Unstored (s : Store) : Prop := ∀ n, (s.nthClient n).awaitMessageId = 0

theorem Unstored.congr (unstored : s.Unstored) (clients : s'.clients = s.clients) : s'.Unstored := by
  intro n
  rw [nthClient_congr clients]
  exact unstored n

theorem Unstored.writeSlot (unstored : s.Unstored) {entry : EntryClient} (kept : entry.awaitMessageId = 0) :
    (s.writeSlot n entry).Unstored := by
  intro m
  rw [nthClient_writeSlot]
  split
  · exact kept
  · exact unstored m

theorem Unstored.setEntry (unstored : s.Unstored) {f : EntryClient → EntryClient}
    (kept : ∀ entry, (f entry).awaitMessageId = entry.awaitMessageId) : (s.setEntry n f).Unstored := by
  apply unstored.writeSlot
  rw [kept]
  exact unstored n

theorem Unstored.updateAt (unstored : s.Unstored) {f : EntryClient → EntryClient}
    (kept : ∀ entry, (f entry).awaitMessageId = entry.awaitMessageId) : (s.updateAt address f).Unstored := by
  unfold Store.updateAt
  split
  · exact unstored.setEntry kept
  · exact unstored

theorem Unstored.filesAt (unstored : s.Unstored) {h : ClientFiles → ClientFiles} : (s.filesAt address h).Unstored := by
  unfold Store.filesAt
  split
  · exact unstored.congr rfl
  · exact unstored

theorem Unstored.deleteClient (unstored : s.Unstored) {sd : SDLinuxFake} {number clientId : CString} :
    (s.deleteClient sd number clientId).Unstored := by
  rcases clients_deleteClient_cases with ⟨n, _, erased⟩ | same
  · exact Unstored.congr (unstored.writeSlot rfl) erased
  · exact unstored.congr same

end Store

/-- The id of a message that asks for a REGACK or a PUBACK. -/
def SnMessage.askedId? : SnMessage → Option UInt16
  | .register _ msgId _ => some msgId
  | .publish _ msgId _ _ _ qos _ => if qos = 1 then some msgId else none
  | _ => none

namespace Gateway

variable {g after : Gateway} {address : DeviceAddress} {clientId : CString} {n : Nat}

section Unstored

theorem Acts.unstored {request : Request} {s : Store} (acts : Acts g address request s) (unstored : g.store.Unstored) :
    s.Unstored := by
  have setFiles : ∀ {n : Nat} {h : ClientFiles → ClientFiles}, (g.store.setFiles n h).Unstored := unstored.congr rfl
  cases acts with
  | willtopic _ _ => exact setFiles.setEntry fun _ => rfl
  | regack _ _ _ => exact unstored.setEntry fun _ => rfl
  | publishAwaiting _ _ => exact unstored.setEntry fun _ => rfl
  | awake _ => exact unstored.setEntry fun _ => rfl
  | disconnected _ => exact unstored.setEntry fun _ => rfl
  | asleep _ _ => exact unstored.setEntry fun _ => rfl
  | willDeleted _ _ => exact setFiles
  | willmsg _ _ => exact setFiles
  | puback _ _ => exact setFiles
  | _ => exact unstored

theorem AddsClient.unstored {duration : UInt16} {clean : Bool} {result : CoreResult}
    (adds : AddsClient g clientId duration clean address result after) (unstored : g.store.Unstored) :
    after.store.Unstored := by
  cases adds with
  | offline _ => exact unstored
  | long _ settles _ =>
    rw [settles.store]
    exact unstored
  | new _ _ _ => exact unstored.writeSlot rfl
  | reset _ _ _ _ => exact unstored.writeSlot rfl
  | cleaned _ _ _ _ removal _ => exact (unstored.congr removal.clients).deleteClient.writeSlot rfl

theorem Connection.unstored {duration : UInt16} {will clean : Bool}
    (connection : Connection g clientId duration will clean address after) (unstored : g.store.Unstored) :
    after.store.Unstored := by
  cases connection with
  | rejected adds _ _ =>
    rw [store_send]
    exact adds.unstored unstored
  | accepted adds _ =>
    rw [store_send]
    exact adds.unstored unstored
  | asked adds _ settles _ =>
    rw [store_send, settles.store]
    exact (adds.unstored unstored).updateAt fun _ => rfl

theorem Delivery.unstored (delivery : Delivery g address after) (unstored : g.store.Unstored) : after.store.Unstored := by
  cases delivery with
  | nothing settles _ =>
    rw [settles.store]
    exact unstored
  | register settles _ =>
    rw [store_send, settles.store]
    exact unstored.updateAt fun _ => rfl
  | publish _ settles _ =>
    rw [store_send, settles.store]
    exact unstored.filesAt
  | publishAwaited _ settles _ =>
    rw [store_send, settles.store]
    exact unstored.filesAt.updateAt fun _ => rfl

theorem Visits.unstored {drained : ClientStatus → Bool} {status : ClientStatus} {notice : SnMessage} {beaten : Bool}
    {elapsed : UInt32} {slot : EntryClient} (visits : Visits drained status notice beaten elapsed n slot g after)
    (unstored : g.store.Unstored) : after.store.Unstored := by
  obtain ⟨delivered, ready, delivery, drains, timesOut⟩ := visits
  have between : delivered.store.Unstored := delivery.unstored unstored
  have kept : ready.store.Unstored := by
    cases drains with
    | kept settles _ =>
      rw [settles.store]
      exact between
    | changed _ settles _ =>
      rw [store_send, settles.store]
      exact between.updateAt fun _ => rfl
  split at timesOut
  · cases timesOut with
    | disconnected _ => exact kept
    | running _ _ settles _ =>
      rw [settles.store]
      exact kept.updateAt fun _ => rfl
    | lost _ _ _ settles _ =>
      rw [settles.store]
      exact kept.updateAt fun _ => rfl
    | deleted _ _ _ removal _ =>
      have lost : (ready.store.updateAt slot.clientAddress fun entry =>
          { entry with timeout := slot.timeout + elapsed, clientStatus := .lost }).Unstored := kept.updateAt fun _ => rfl
      exact (lost.congr removal.clients).deleteClient
  · rw [timesOut]
    exact kept

theorem step_unstored {input : Input} (sound : g.Sound) (unstored : g.store.Unstored) (stepped : step g input = some after) :
    after.store.Unstored := by
  cases step_stepped stepped with
  | restart _ => exact unstored
  | @datagram sender bytes beyond after _ _ handled =>
    have nonzero := sender.getDeviceAddress_ne_zero
    generalize Request.ofMemory (receiveBuffer bytes beyond) = request at handled
    cases handle_requested (sound_prepare sound) nonzero handled with
    | connect connection => exact Connection.unstored (g := g.prepare input) connection unstored
    | topics _ _ only => exact unstored.congr only.clients
    | acts acts settles =>
      rw [settles.store]
      exact Acts.unstored (g := g.prepare input) acts unstored
  | brokerMessage _ _ published =>
    exact unstored.congr (publishFromBroker_receives (sound_prepare sound).idle published).clients
  | loop _ looped =>
    apply loop_invariant (I := fun g' => g'.store.Unstored) (sound_prepare sound) unstored _ _ _ looped
    · intro g' g'' quiet kept
      rw [quiet.store]
      exact kept
    · exact fun _ _ _ _ _ _ _ _ _ _ _ _ visits kept => visits.unstored kept
    · intro _ _ _ _ _ settles _ kept
      rw [settles.store]
      exact kept.updateAt fun _ => rfl
  | mqttConnect _ _ => exact unstored
  | mqttConnectionLost _ => exact unstored
  | socketLost _ => exact unstored
  | @socketBegin opened _ _ => cases opened <;> exact unstored

end Unstored

section Asking

/-- `handle_client_publishes` gets to one of its two branches with a new message id: the client is awake or active and no
    answer is awaited, and the next message has a topic with a name that the client does not know, or a known one and QoS 1. -/
def asks (status : ClientStatus) (address : DeviceAddress) (g : Gateway) : Bool :=
  let g := g.startClientTransaction address
  let next := g.persistent.getNextPublish.getD .zero
  let (known, g') := g.isTopicKnown next.topicId
  (status = .awake || status = .active) && g.persistent.getClientAwaitMessageType = .pingreq && g.persistent.hasClientPublishes &&
    if known then next.qos = 1 else (g'.persistent.getTopicName next.topicId).isSome

theorem asks_listening (status : ClientStatus) : (g.visiting n).listening.asks status address = g.asks status address := by
  have read : ((g.visiting n).listening.startClientTransaction address).persistent =
      (g.startClientTransaction address).persistent := rfl
  unfold asks isTopicKnown
  simp only [read]
  rcases (g.startClientTransaction address).persistent.isTopicKnown
    ((g.startClientTransaction address).persistent.getNextPublish.getD .zero).topicId with ⟨_ | _, p⟩ <;> rfl

theorem asked_handleClientPublishes (status : ClientStatus) (idle : g.persistent.Idle) (ok : g.store.Ok)
    (found : g.store.slotOfAddress address = some n) (opened : g.socketOpen = true) (silent : g.sent = []) :
    ((handleClientPublishes status address g).sent.filterMap fun sent => sent.2.askedId?) =
      if g.asks status address then [nextMsgId (g.store.nthClient n).awaitMessageId] else [] := by
  have stop : (g.inside g.store (g.store.nthClient n) false false).applyTransaction.2.sent = [] := silent
  unfold handleClientPublishes asks
  rw [startClientTransaction_found idle found]
  by_cases awake : (status = .awake || status = .active) = true
  · rw [if_pos awake, awake]
    simp only [Bool.true_and]
    split
    · rename_i queued
      rw [queued, Bool.true_and]
      simp only [Bool.and_eq_true, decide_eq_true_eq] at queued
      obtain ⟨k, next, read, stored, used, numbered⟩ := getNextPublish_inside ok queued.2
      have here : (g.inside g.store (g.store.nthClient n) false false).persistent.getNextPublish = some next := read
      obtain ⟨known, failed, between, answer, failing, same⟩ :=
        isTopicKnown_inside g g.store (g.store.nthClient n) next.topicId
      have listening : ∀ s entry, (between.settled s entry).socketOpen = true ∧ (between.settled s entry).sent = [] := by
        rcases same with rfl | rfl
        · exact fun _ _ => ⟨opened, silent⟩
        · exact fun _ _ => ⟨opened, silent⟩
      have sent : ∀ s entry message, ((between.settled s entry).send address message).sent = [(address, message)] := by
        intro s entry message
        rw [sent_send (listening s entry).1, (listening s entry).2]
        rfl
      have number : failed = false → (between.inside g.store (g.store.nthClient n) false
          failed).persistent.getClientAwaitMsgId = (g.store.nthClient n).awaitMessageId := by
        intro clean
        rw [clean]
        rfl
      simp only [here, Option.getD_some, answer]
      cases known with
      | false =>
        simp only [Bool.not_false, if_true, Bool.false_eq_true, if_false]
        cases topic : (between.inside g.store (g.store.nthClient n) false failed).persistent.getTopicName
            next.topicId with
        | none =>
          simp only [Option.isSome_none, Bool.false_eq_true, if_false]
          rw [applyTransaction_inside, (listening _ _).2]
          rfl
        | some topicName =>
          have clean : failed = false := by
            cases failed with
            | false => rfl
            | true => cases topic
          simp only [Option.isSome_some, if_true, number clean]
          subst clean
          generalize nextMsgId (g.store.nthClient n).awaitMessageId = msgId
          have awaiting := update_inside
            (f := fun p => (p.setClientAwaitMsgId msgId).setClientAwaitMessage .regack)
            (setAwaiting_inside between.persistent msgId .regack found)
          simp only [awaiting, applyTransaction_inside]
          exact congrArg (List.filterMap fun sent => sent.2.askedId?) (sent _ _ _)
      | true =>
        have clean : failed = false := by
          cases failed with
          | false => rfl
          | true => cases failing rfl
        simp only [Bool.not_true, Bool.false_eq_true, if_false, if_true, number clean]
        subst clean
        split
        · rename_i level
          have removed := update_inside (f := fun p => p.removePublishByPublishId next.publishId)
            (rewritePublish_inside (p := between.persistent) (fun _ => .zero) stored used numbered)
          rw [removed, applyTransaction_inside, if_pos (by rfl), sent, level]
          rfl
        · rename_i other
          split
          · rename_i level
            generalize nextMsgId (g.store.nthClient n).awaitMessageId = msgId
            let f : EntryPublish → EntryPublish := fun entry => { entry with msgId := msgId }
            have awaiting := setAwaiting_inside between.persistent msgId .puback found
            let s := g.store.updateAt address fun entry => { entry with awaitMessage := .puback }
            let entry := { g.store.nthClient n with awaitMessage := .puback }
            have kept : (s.files entry.fileNumber).pub[k]? = some next := by
              rw [files_updateAt]
              exact stored
            have written := rewritePublish_inside (p := between.persistent) f kept used numbered
            rw [← awaiting] at written
            have sending := update_inside (f := fun p =>
              ((p.setClientAwaitMsgId msgId).setClientAwaitMessage .puback).setPublishMsgId next.publishId msgId) written
            rw [sending, applyTransaction_inside, if_pos (by rfl), sent, level]
            rfl
          · rename_i high
            rw [if_neg (by simpa using high), applyTransaction_inside, (listening _ _).2]
            rfl
    · rename_i unqueued
      rw [eq_false_of_ne_true unqueued, stop]
      rfl
  · rw [if_neg awake, eq_false_of_ne_true awake, silent]
    rfl

/-- The visit gets to one of these branches for the client with this id. -/
def asksFor (g : Gateway) (clientId : CString) (visited : Nat) : Bool :=
  let slot := g.store.nthClient visited
  if (g.store.entryAt slot.clientAddress).clientId = clientId then g.asks slot.clientStatus slot.clientAddress else false

/-- The ids of the REGISTERs and of the publishes with QoS 1 that the visit passes to the socket for the client, be it open or
    not, each with what `get_client_await_msg_id` reads right after it. -/
def asking (g : Gateway) (clientId : CString) (visited : Nat) : List (UInt16 × UInt16) :=
  let slot := g.store.nthClient visited
  let after := handleClientPublishes slot.clientStatus slot.clientAddress (g.visiting visited).listening
  if (g.store.entryAt slot.clientAddress).clientId = clientId then
    after.sent.filterMap fun sent => sent.2.askedId?.map fun msgId =>
      (msgId, (after.startClientTransaction slot.clientAddress).persistent.getClientAwaitMsgId)
  else []

theorem getClientAwaitMsgId_unstored (idle : g.persistent.Idle) (unstored : g.store.Unstored) :
    (g.startClientTransaction address).persistent.getClientAwaitMsgId = 0 := by
  cases selection : g.store.slotOfAddress address with
  | some n =>
    rw [startClientTransaction_found idle selection]
    exact unstored n
  | none =>
    rw [startClientTransaction_missing idle selection]
    rfl

theorem asking_eq (sound : g.Sound) (unstored : g.store.Unstored) (visited : Nat) :
    g.asking clientId visited = if g.asksFor clientId visited then [(1, 0)] else [] := by
  unfold asking asksFor
  simp only
  split
  · by_cases empty : (g.store.nthClient visited).clientStatus = .empty
    · rw [empty]
      rfl
    · have nonzero := (sound.ok.slots.fits visited).addressed empty
      obtain ⟨n, _, found⟩ := sound.ok.slots.slotOfAddress_here nonzero rfl
      let ready := (g.visiting visited).listening
      have idle : ready.persistent.Idle := ⟨sound.idle.closed, sound.idle.clean, sound.idle.known⟩
      have asked := asked_handleClientPublishes (g := ready) (g.store.nthClient visited).clientStatus idle sound.ok found rfl rfl
      have delivers : Delivery ready (g.store.nthClient visited).clientAddress
          (handleClientPublishes (g.store.nthClient visited).clientStatus (g.store.nthClient visited).clientAddress ready) :=
        handleClientPublishes_delivers (g := ready) idle sound.ok found
      have zero : (ready.store.nthClient n).awaitMessageId = 0 := unstored n
      rw [asks_listening, zero] at asked
      rw [getClientAwaitMsgId_unstored delivers.touches.settles.idle (delivers.unstored unstored), ← List.map_filterMap, asked]
      split
      · rfl
      · rfl
  · rfl

end Asking

end Gateway

/-- The visits that get to a branch with a new message id for a client, and the ids that are passed on for it, each with what is
    read after it. -/
structure Numbers where
  asked : Nat
  ids : List (UInt16 × UInt16)

/-- The ids run through 1, 2, ..., 65535, 1, ..., and each is read again. -/
def InOrder (ids : List (UInt16 × UInt16)) : Prop :=
  ∀ (k : Nat) (msgId read : UInt16), ids[k]? = some (msgId, read) → msgId.toNat = k % 65535 + 1 ∧ read = msgId

namespace Stage

variable {stage before between later : Stage} {moment accepted : Moment} {allowed : Stage → Moment → Prop} {clientId : CString}
  {numbers : Numbers}

def number (clientId : CString) (stage : Stage) (moment : Moment) (_ : Stage) (numbers : Numbers) : Numbers :=
  match moment, stage.round with
  | .visit, some round =>
    ⟨numbers.asked + (if stage.gateway.asksFor clientId round.slot then 1 else 0),
      numbers.ids ++ stage.gateway.asking clientId round.slot⟩
  | _, _ => numbers

theorem step_unstored (sound : stage.gateway.Sound) (unstored : stage.gateway.store.Unstored)
    (stepped : step stage moment = some later) : later.gateway.store.Unstored := by
  cases step_stepped stepped with
  | event _ _ taken => exact Gateway.step_unstored sound unstored taken
  | disconnected _ _ _ taken => exact Gateway.step_unstored sound unstored taken
  | begun _ _ _ quiet =>
    rw [(quiet sound.idle).store]
    exact unstored
  | empty _ _ quiet =>
    rw [(quiet sound).store]
    exact unstored
  | @visit round _ _ registered returned =>
    exact (Gateway.serviceClient_visits sound registered round.used.1 returned).unstored unstored

/-- `set_client_await_msg_id` compares and does not assign, so that nothing is ever stored. -/
theorem unstored_of_run (run : RunOf allowed stage) : stage.gateway.store.Unstored := by
  induction run with
  | start initial =>
    obtain ⟨⟨config, same⟩, _⟩ := initial
    rw [same]
    exact fun _ => rfl
  | next before _ taken ih => exact step_unstored (sound_of_run before) ih taken

theorem number_replicate (sound : stage.gateway.Sound) (unstored : stage.gateway.store.Unstored)
    (same : numbers.ids = List.replicate numbers.asked (1, 0)) :
    (number clientId stage moment later numbers).ids =
      List.replicate (number clientId stage moment later numbers).asked (1, 0) := by
  unfold number
  split
  · rename_i round _
    simp only
    rw [Gateway.asking_eq sound unstored, same]
    split
    · exact List.replicate_succ'.symm
    · exact List.append_nil _
  · exact same

theorem inOrder_replicate (asked : Nat) : InOrder (List.replicate asked (1, 0)) ↔ asked = 0 := by
  constructor
  · intro ordered
    by_contra positive
    have first : (List.replicate asked ((1, 0) : UInt16 × UInt16))[0]? = some (1, 0) := by
      rw [List.getElem?_replicate, if_pos (by omega)]
    have read := (ordered 0 1 0 first).2
    cases read
  · intro zero k msgId read found
    rw [zero] at found
    cases found

/-- Between two accepted CONNECTs of a client, the ids of the messages that ask it for an answer are in order and can be read
    again just when there are none. -/
theorem ids_inOrder_iff {state : Stage × Numbers} (reached : RunOf (fun _ _ => True) before)
    (_ : before.Connects clientId accepted) (entered : step before accepted = some between)
    (run : Runs.Run (Runs.recorded step (number clientId)) (fun state moment => ¬ state.1.Connects clientId moment)
      (fun state => state = (between, ⟨0, []⟩)) state) :
    InOrder state.2.ids ↔ state.2.asked = 0 := by
  have begun : RunOf (fun _ _ => True) between := reached.next trivial entered
  have kept : RunOf (fun _ _ => True) state.1 ∧ state.2.ids = List.replicate state.2.asked (1, 0) := by
    induction run with
    | start same =>
      rw [same]
      exact ⟨begun, rfl⟩
    | next _ _ taken ih =>
      obtain ⟨stepped, record⟩ := Runs.recorded_eq_some.mp taken
      rw [record]
      exact ⟨ih.1.next trivial stepped, number_replicate (sound_of_run ih.1) (unstored_of_run ih.1) ih.2⟩
  rw [kept.2]
  exact inOrder_replicate _

end Stage

namespace Scenario

def noted (state : Stage × Numbers) (moment : Moment) : Option (Stage × Numbers) :=
  Runs.recorded Stage.step (Stage.number (name 65)) state moment

def numberStarted : Stage × Numbers := (registered, ⟨0, []⟩)

def numberSubscribe : Stage × Numbers :=
  (noted numberStarted (event (.datagram (client 1) (Datagram.subscribeByName (name 116) 1 Flag.qos1) []))).get
    (by decide +kernel)

def numberQueued : Stage × Numbers :=
  (noted numberSubscribe (event (.brokerMessage (name 116) [1] false))).get (by decide +kernel)

def numberLoop : Stage × Numbers := (noted numberQueued (event (.loop 0 0))).get (by decide +kernel)

def numberVisit : Stage × Numbers := (noted numberLoop .visit).get (by decide +kernel)

theorem reached_online : Stage.RunOf (fun _ _ => True) online :=
  (Runs.Run.start ⟨⟨configuration [47], rfl⟩, rfl⟩).next trivial (Option.some_get _).symm

theorem connects_registered :
    online.Connects (name 65) (event (.datagram (client 1) (Datagram.connect (name 65) 10 0) [])) :=
  ⟨_, rfl, by decide +kernel, by decide, _, _, _, _, rfl⟩

theorem run_numberVisit :
    Runs.Run (Runs.recorded Stage.step (Stage.number (name 65)))
      (fun state moment => ¬ state.1.Connects (name 65) moment) (fun state => state = (registered, ⟨0, []⟩)) numberVisit := by
  have unrequested : ∀ {stage : Stage} {input : Event}, Input.request? ⟨input, [], []⟩ = none →
      ¬ stage.Connects (name 65) (event input) := by
    rintro stage input unrequested ⟨_, same, _, _, _, _, _, _, request⟩
    cases same
    rw [unrequested] at request
    cases request
  have subscribing : ¬ numberStarted.1.Connects (name 65)
      (event (.datagram (client 1) (Datagram.subscribeByName (name 116) 1 Flag.qos1) [])) := by
    rintro ⟨_, same, _, _, _, _, _, _, request⟩
    cases same
    cases request
  have visiting : ¬ numberLoop.1.Connects (name 65) .visit := by
    rintro ⟨_, same, _⟩
    cases same
  exact .next (.next (.next (.next (.start rfl) subscribing (Option.some_get _).symm) (unrequested rfl)
    (Option.some_get _).symm) (unrequested rfl) (Option.some_get _).symm) visiting (Option.some_get _).symm

theorem ids_inOrder_numberVisit : InOrder numberVisit.2.ids ↔ numberVisit.2.asked = 0 :=
  Stage.ids_inOrder_iff reached_online connects_registered (Option.some_get _).symm run_numberVisit

/-- The id 1 has been sent, and 0 is read. -/
theorem sent_id_unread :
    ∃ state : Stage × Numbers, Runs.Run (Runs.recorded Stage.step (Stage.number (name 65)))
      (fun state moment => ¬ state.1.Connects (name 65) moment) (fun state => state = (registered, ⟨0, []⟩)) state ∧
      state.2.ids = [(1, 0)] ∧ ¬ InOrder state.2.ids := by
  refine ⟨numberVisit, run_numberVisit, by decide +kernel, fun ordered => ?_⟩
  have sent : numberVisit.2.ids = [(1, 0)] := by decide +kernel
  rw [sent] at ordered
  have read := (ordered 0 1 0 rfl).2
  cases read

end Scenario

end MqttSnGateway
