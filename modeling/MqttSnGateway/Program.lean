import MqttSnGateway.Core.Identity
import MqttSnGateway.Core.Links

namespace MqttSnGateway

open Persistent Store

/-- The values that the code does not determine in one event. -/
structure Chances where
  answers : List Bool
  unspecified : List Bool

def Chances.input (chances : Chances) (event : Event) : Input :=
  ⟨event, chances.answers, chances.unspecified⟩

/-- A message that the MQTT client hands over while it yields. -/
structure Arrival where
  topicName : CString
  payload : List UInt8
  chances : Chances

/-- A datagram with the memory behind the receive buffer, and the messages that the MQTT client lets in at the calls made
    for it, by their number. -/
structure Reception where
  sender : SockaddrIn
  bytes : List UInt8
  beyond : List UInt8
  chances : Chances
  deliveries : Nat → List BrokerMessage

/-- What one turn of the main loop meets: whether the MQTT client can connect, what it receives and whether it loses the
    connection, whether the socket can be opened again, what the socket receives, and, for the core, the messages that come
    in at its calls and the readings of the clock. -/
structure Turn where
  connects : Bool
  arrivals : List Arrival
  drops : Bool
  opens : Bool
  reception : Option Reception
  chances : Chances
  deliveries : Nat → List BrokerMessage
  beat : UInt32
  elapsed : UInt32

/-- `receive_publish` passes no retain flag on. -/
def Arrival.input (arrival : Arrival) : Input :=
  arrival.chances.input (.brokerMessage arrival.topicName arrival.payload false)

namespace Store

variable {s s' : Store} {address : DeviceAddress}

/-- Nobody is registered. -/
def Vacant (s : Store) : Prop := ∀ n, (s.nthClient n).clientStatus = .empty

theorem vacant_congr (clients : s'.clients = s.clients) : s'.Vacant ↔ s.Vacant := by
  unfold Vacant
  simp only [nthClient_congr clients]

theorem SlotsOk.lastClientAddress_zero_iff (ok : s.SlotsOk) : s.lastClientAddress .zero = .zero ↔ s.Vacant := by
  rcases lastClientAddress_cases s .zero with ⟨vacant, same⟩ | ⟨n, registered, _, same⟩
  · exact ⟨fun _ => vacant, fun _ => same⟩
  · constructor
    · intro zero
      exact absurd (same.symm.trans zero) ((ok.fits n).addressed registered)
    · intro vacant
      exact absurd (vacant n) registered

theorem vacant_updateAt {f : EntryClient → EntryClient} (ok : s.SlotsOk) (nonzero : address ≠ .zero) (keeps : Keeps f) :
    (s.updateAt address f).Vacant ↔ s.Vacant := by
  cases selection : s.slotOfAddress address with
  | none => rw [updateAt_missing selection]
  | some n =>
    have registered := ok.registered_of_slotOfAddress nonzero selection
    have occupied : ¬ (s.setEntry n f).Vacant := by
      intro vacant
      have empty := vacant (s.nthClient n).slotNumber
      unfold Store.setEntry at empty
      rw [nthClient_writeSlot_self] at empty
      exact (keeps _ registered).registered empty
    rw [updateAt_found selection]
    exact ⟨fun vacant => absurd vacant occupied, fun vacant => absurd (vacant n) registered⟩

theorem Touched.vacant_iff (touched : Touched address s s') (ok : s.Ok) (nonzero : address ≠ .zero) :
    s'.Vacant ↔ s.Vacant := by
  induction touched with
  | refl => exact Iff.rfl
  | entry touched keeps ih => exact (vacant_updateAt (touched.ok ok nonzero).slots nonzero keeps).trans ih
  | files _ _ ih =>
    refine Iff.trans (vacant_congr ?_) ih
    unfold Store.filesAt
    split <;> rfl

end Store

namespace Program

open Gateway

def yield (g : Gateway) (arrivals : List Arrival) : Option Gateway :=
  Runs.execute step g (arrivals.map Arrival.input)

/-- `PahoMqttMessageHandler::loop` -/
def mqttLoop (g : Gateway) (turn : Turn) : Option Gateway :=
  if g.isConnected then
    (yield g turn.arrivals).bind fun g => if turn.drops then step g (turn.chances.input .mqttConnectionLost) else some g
  else if turn.connects then step g (turn.chances.input .mqttConnect)
  else some g

/-- An event that calls the MQTT client, which lets in messages at any call once it has been connected. -/
def calling (g : Gateway) (deliveries : Nat → List BrokerMessage) (input : Input) : Option Gateway :=
  stepWith (reentrant (if g.persistent.isMqttOnline then deliveries else fun _ => [])) g input

/-- `UdpSocketImpl::loop` -/
def socketLoop (g : Gateway) (turn : Turn) : Option Gateway :=
  if !g.socketOpen then step g (turn.chances.input (.socketBegin turn.opens))
  else match turn.reception with
    | none => some g
    | some reception =>
      if reception.bytes.length ≤ 255 then
        calling g reception.deliveries
          (reception.chances.input (.datagram reception.sender reception.bytes reception.beyond))
      else some g

def coreLoop (g : Gateway) (turn : Turn) : Option Gateway :=
  calling g turn.deliveries (turn.chances.input (.loop turn.beat turn.elapsed))

/-- `Gateway::loop`, as `main` calls it again and again. It returns `none` where the call does not come to its end. Left out is
    what the operating system does to a process: a signal such as that for a write to a connection that was reset. -/
def loop (g : Gateway) (turn : Turn) : Option Gateway :=
  ((mqttLoop g turn).bind fun g => socketLoop g turn).bind fun g => coreLoop g turn

/-- The process after `setup`, over an empty store or over the one that an earlier process left. -/
def Started (g : Gateway) : Prop :=
  initial g ∨ ∃ before input, before.Reachable ∧ input.event = .restart ∧ step before input = some g

/-- Whether the MQTT client has connected since the start. -/
def everConnected (g : Gateway) (turn : Turn) (_ : Gateway) (ever : Bool) : Bool :=
  ever || !g.isConnected && turn.connects

/-- The program between two turns of its loop. -/
def Running : Gateway × Bool → Prop :=
  Runs.Run (Runs.recorded loop everConnected) (fun _ _ => True) fun state => Started state.1 ∧ state.2 = false

variable {g after : Gateway} {turn : Turn} {input : Input} {mqtt : MqttMessageHandler} {deliveries : Nat → List BrokerMessage}

section Events

theorem calling_offline (offline : g.persistent.isMqttOnline = false) : calling g deliveries input = step g input := by
  unfold calling
  rw [offline]
  rfl

theorem stepWith_datagram {sender : SockaddrIn} {bytes beyond : List UInt8} (event : input.event = .datagram sender bytes beyond)
    (stepped : stepWith mqtt g input = some after) :
    handle mqtt (g.prepare input) sender.getDeviceAddress (Request.ofMemory (receiveBuffer bytes beyond)) = some after := by
  unfold stepWith at stepped
  simp only [event] at stepped
  split at stepped
  · cases stepped
  · split at stepped
    · rw [receiveData_eq] at stepped
      exact stepped
    · cases stepped

theorem stepWith_loop {beat elapsed : UInt32} (event : input.event = .loop beat elapsed)
    (stepped : stepWith mqtt g input = some after) :
    g.halted = false ∧ Gateway.loop mqtt beat elapsed (g.prepare input) = some after := by
  unfold stepWith at stepped
  simp only [event] at stepped
  split at stepped
  · cases stepped
  · rename_i running
    exact ⟨eq_false_of_ne_true running, stepped⟩

def Does (g : Gateway) (input : Input) (after : Gateway) : Event → Prop
  | .datagram sender bytes beyond => handle pahoMqttMessageHandler (g.prepare input) sender.getDeviceAddress
      (Request.ofMemory (receiveBuffer bytes beyond)) = some after
  | .brokerMessage topicName payload retain => (g.prepare input).publishFromBroker topicName payload retain = some after
  | .loop beat elapsed => Gateway.loop pahoMqttMessageHandler beat elapsed (g.prepare input) = some after
  | .mqttConnect => after = (g.prepare input).mqttConnect
  | .mqttConnectionLost => after = { g.prepare input with isConnected := false }
  | .socketLost => after = { g.prepare input with socketOpen := false }
  | .socketBegin opened => after = (g.prepare input).socketBegin opened
  | .restart => after = (g.prepare input).restart

theorem step_does (stepped : step g input = some after) : Does g input after input.event := by
  cases step_stepped stepped with
  | datagram event _ handled =>
    rw [event]
    exact handled
  | brokerMessage event _ published =>
    rw [event]
    exact published
  | loop event looped =>
    rw [event]
    exact looped
  | mqttConnect event _ =>
    rw [event]
    rfl
  | mqttConnectionLost event =>
    rw [event]
    rfl
  | socketLost event =>
    rw [event]
    rfl
  | socketBegin event _ =>
    rw [event]
    rfl
  | restart event =>
    rw [event]
    rfl

theorem reachable_execute {inputs : List Input} (reachable : g.Reachable) (executed : Runs.execute step g inputs = some after) :
    after.Reachable := by
  have rest : Runs.Run step (fun _ _ => True) (fun s => s = g) after := .of_execute (fun _ _ => trivial) executed
  have first : Runs.Run step (fun _ _ => True) initial g := reachable
  exact first.append rest

theorem reachable_step (reachable : g.Reachable) (stepped : step g input = some after) : after.Reachable :=
  Runs.Run.next reachable trivial stepped

theorem reachable_mqttLoop (reachable : g.Reachable) (looped : mqttLoop g turn = some after) : after.Reachable := by
  unfold mqttLoop at looped
  split at looped
  · obtain ⟨between, yielded, rest⟩ := Option.bind_eq_some_iff.mp looped
    have second : between.Reachable := reachable_execute reachable yielded
    split at rest
    · exact reachable_step second rest
    · cases rest
      exact second
  · split at looped
    · exact reachable_step reachable looped
    · cases looped
      exact reachable

theorem reachable_socketLoop (reachable : g.Reachable) (offline : g.persistent.isMqttOnline = false)
    (looped : socketLoop g turn = some after) : after.Reachable := by
  unfold socketLoop at looped
  split at looped
  · exact reachable_step reachable looped
  · split at looped
    · cases looped
      exact reachable
    · split at looped
      · rw [calling_offline offline] at looped
        exact reachable_step reachable looped
      · cases looped
        exact reachable

theorem reachable_coreLoop (reachable : g.Reachable) (offline : g.persistent.isMqttOnline = false)
    (looped : coreLoop g turn = some after) : after.Reachable := by
  unfold coreLoop at looped
  rw [calling_offline offline] at looped
  exact reachable_step reachable looped

theorem reachable_started (started : Started g) : g.Reachable := by
  rcases started with start | ⟨before, input, reachable, _, stepped⟩
  · exact .start start
  · exact reachable_step reachable stepped

end Events

section Links

theorem links_prepare : (g.prepare input).links = g.links := rfl

theorem links_arrival {arrival : Arrival} (stepped : step g arrival.input = some after) : after.links = g.links := by
  have published : (g.prepare arrival.input).publishFromBroker arrival.topicName arrival.payload false = some after :=
    step_does stepped
  exact (links_publishFromBroker published).trans links_prepare

theorem links_yield {arrivals : List Arrival} (yielded : yield g arrivals = some after) : after.links = g.links := by
  induction arrivals generalizing g with
  | nil =>
    cases yielded
    rfl
  | cons arrival arrivals ih =>
    obtain ⟨between, first, rest⟩ := Option.bind_eq_some_iff.mp yielded
    exact (ih rest).trans (links_arrival first)

theorem links_mqttLoop (looped : mqttLoop g turn = some after) :
    after.links = (g.links.1, g.persistent.isMqttOnline || (!g.isConnected && turn.connects), g.socketOpen, g.halted) := by
  unfold mqttLoop at looped
  split at looped
  · rename_i connected
    obtain ⟨between, yielded, rest⟩ := Option.bind_eq_some_iff.mp looped
    have same := links_yield yielded
    have kept : (g.persistent.isMqttOnline || (!g.isConnected && turn.connects)) = g.persistent.isMqttOnline := by
      simp [connected]
    rw [kept]
    split at rest
    · have lost : after = { between.prepare (turn.chances.input .mqttConnectionLost) with isConnected := false } :=
        step_does rest
      rw [lost]
      exact same
    · cases rest
      exact same
  · rename_i offline
    split at looped
    · rename_i connects
      have connected : after = (g.prepare (turn.chances.input .mqttConnect)).mqttConnect := step_does looped
      simp [connected, links, prepare, mqttConnect, notifyMqttConnected, update, offline, connects]
    · rename_i fails
      cases looped
      simp [links, fails]

theorem links_socketLoop (opened : g.socketOpen = true) (looped : socketLoop g turn = some after) : after.links = g.links := by
  unfold socketLoop at looped
  rw [if_neg (by simp [opened])] at looped
  split at looped
  · cases looped
    rfl
  · rename_i reception _
    split at looped
    · exact (links_handle (stepWith_datagram rfl looped)).trans links_prepare
    · cases looped
      rfl

theorem coreLoop_loops (looped : coreLoop g turn = some after) : g.halted = false ∧ ∃ deliveries,
    Gateway.loop (reentrant deliveries) turn.beat turn.elapsed
      (g.prepare (turn.chances.input (.loop turn.beat turn.elapsed))) = some after := by
  unfold coreLoop calling at looped
  obtain ⟨running, ended⟩ := stepWith_loop rfl looped
  exact ⟨running, _, ended⟩

theorem links_coreLoop (up : g.persistent.isMqttsnOnline = true) (looped : coreLoop g turn = some after) :
    after.links = (g.links.1, g.links.2.1, g.links.2.2.1,
      g.halted || !g.persistent.isMqttOnline && decide (g.store.lastClientAddress .zero = .zero)) := by
  obtain ⟨_, deliveries, ended⟩ := coreLoop_loops looped
  let prepared := g.prepare (turn.chances.input (.loop turn.beat turn.elapsed))
  have still : prepared.persistent.isMqttsnOnline = true := up
  have links := Gateway.links_loop still ended
  exact links

end Links

section Ends

/-- A gateway that has never reached the broker lets nobody in. -/
theorem vacant_handle {address : DeviceAddress} {request : Request} (sound : g.Sound) (nonzero : address ≠ .zero)
    (offline : g.persistent.isMqttOnline = false)
    (handled : handle pahoMqttMessageHandler g address request = some after) : after.store.Vacant ↔ g.store.Vacant := by
  cases handle_requested sound nonzero handled with
  | connect connection =>
    cases connection with
    | rejected adds refused _ =>
      rw [store_send]
      rcases adds.refused refused with settles | same
      · rw [settles.store]
      · rw [same]
    | accepted adds _ => cases offline.symm.trans adds.online.1
    | asked adds _ _ _ => cases offline.symm.trans adds.online.1
  | topics _ _ only => exact vacant_congr only.clients
  | acts acts settles =>
    rw [settles.store]
    exact acts.touched.vacant_iff sound.ok nonzero

theorem vacant_yield {arrivals : List Arrival} (sound : g.Sound) (yielded : yield g arrivals = some after) :
    after.store.Vacant ↔ g.store.Vacant := by
  induction arrivals generalizing g with
  | nil =>
    cases yielded
    exact Iff.rfl
  | cons arrival arrivals ih =>
    obtain ⟨between, first, rest⟩ := Option.bind_eq_some_iff.mp yielded
    refine Iff.trans (ih (Gateway.step_sound sound first) rest) (vacant_congr ?_)
    have prepared : (g.prepare arrival.input).persistent.Idle := (sound_prepare sound).idle
    have published : (g.prepare arrival.input).publishFromBroker arrival.topicName arrival.payload false = some between :=
      step_does first
    exact (publishFromBroker_receives prepared published).clients

theorem vacant_mqttLoop (sound : g.Sound) (looped : mqttLoop g turn = some after) :
    after.store.Vacant ↔ g.store.Vacant := by
  unfold mqttLoop at looped
  split at looped
  · obtain ⟨between, yielded, rest⟩ := Option.bind_eq_some_iff.mp looped
    have same := vacant_yield sound yielded
    split at rest
    · have lost : after = { between.prepare (turn.chances.input .mqttConnectionLost) with isConnected := false } :=
        step_does rest
      rw [lost]
      exact same
    · cases rest
      exact same
  · split at looped
    · have connected : after = (g.prepare (turn.chances.input .mqttConnect)).mqttConnect := step_does looped
      rw [connected]
      exact Iff.rfl
    · cases looped
      exact Iff.rfl

theorem vacant_socketLoop (sound : g.Sound) (opened : g.socketOpen = true) (offline : g.persistent.isMqttOnline = false)
    (looped : socketLoop g turn = some after) : after.store.Vacant ↔ g.store.Vacant := by
  unfold socketLoop at looped
  rw [if_neg (by simp [opened])] at looped
  split at looped
  · cases looped
    exact Iff.rfl
  · rename_i reception _
    split at looped
    · let prepared := g.prepare (reception.chances.input (.datagram reception.sender reception.bytes reception.beyond))
      rw [calling_offline offline] at looped
      have handled : handle pahoMqttMessageHandler prepared reception.sender.getDeviceAddress
          (Request.ofMemory (receiveBuffer reception.bytes reception.beyond)) = some after := stepWith_datagram rfl looped
      have still : prepared.Sound := sound_prepare sound
      have same := vacant_handle still reception.sender.getDeviceAddress_ne_zero offline handled
      exact same
    · cases looped
      exact Iff.rfl

theorem everConnected_eq_false {ever : Bool} (unreached : everConnected g turn after ever = false) : ever = false := by
  unfold everConnected at unreached
  exact (Bool.or_eq_false_iff.mp unreached).1

/-- What the first two parts of a turn leave for the last one. -/
theorem links_parts {ever : Bool} (linked : g.links = (true, ever, true, g.halted)) (unreached : ever = false → g.Reachable)
    (looped : loop g turn = some after) :
    ∃ last, coreLoop last turn = some after ∧ last.links = (true, everConnected g turn after ever, true, g.halted) ∧
      (everConnected g turn after ever = false → last.Reachable ∧ (last.store.Vacant ↔ g.store.Vacant)) := by
  obtain ⟨last, both, finished⟩ := Option.bind_eq_some_iff.mp looped
  obtain ⟨between, first, second⟩ := Option.bind_eq_some_iff.mp both
  have early := links_mqttLoop first
  have start : g.links.1 = true := congrArg Prod.fst linked
  have online : g.persistent.isMqttOnline = ever := congrArg (fun l => l.2.1) linked
  have opened : g.socketOpen = true := congrArg (fun l => l.2.2.1) linked
  rw [start, online, opened] at early
  have opened : between.socketOpen = true := congrArg (fun l => l.2.2.1) early
  refine ⟨last, finished, (links_socketLoop opened second).trans early, ?_⟩
  intro still
  have reachable := unreached (everConnected_eq_false still)
  have middle := reachable_mqttLoop reachable first
  have offline : between.persistent.isMqttOnline = false := by
    rw [← still]
    exact congrArg (fun l => l.2.1) early
  exact ⟨reachable_socketLoop middle offline second,
    (vacant_socketLoop middle.sound opened offline second).trans (vacant_mqttLoop reachable.sound first)⟩

theorem links_loop {ever : Bool} (linked : g.links = (true, ever, true, g.halted)) (unreached : ever = false → g.Reachable)
    (looped : loop g turn = some after) :
    after.links = (true, everConnected g turn after ever, true, after.halted) ∧
      (everConnected g turn after ever = false → after.Reachable) ∧
      (after.halted = true ↔ everConnected g turn after ever = false ∧ g.store.Vacant) := by
  obtain ⟨last, finished, linked, still⟩ := links_parts linked unreached looped
  have running : last.halted = false := (coreLoop_loops finished).1
  have opened : last.socketOpen = true := congrArg (fun l => l.2.2.1) linked
  have online : last.persistent.isMqttOnline = everConnected g turn after ever := congrArg (fun l => l.2.1) linked
  have up : last.persistent.isMqttsnOnline = true := by
    have both : (last.persistent.isMqttsnOnline || !last.socketOpen) = true := congrArg Prod.fst linked
    simpa [opened] using both
  have ended := links_coreLoop up finished
  rw [linked, online, running, Bool.false_or] at ended
  have halted : after.halted =
      (!everConnected g turn after ever && decide (last.store.lastClientAddress .zero = .zero)) :=
    congrArg (fun l => l.2.2.2) ended
  refine ⟨?_, ?_, ?_⟩
  · rw [ended, halted]
  · intro ever'
    exact reachable_coreLoop (still ever').1 (online.trans ever') finished
  · cases ever' : everConnected g turn after ever with
    | true =>
      rw [halted, ever']
      simp
    | false =>
      obtain ⟨late, same⟩ := still ever'
      rw [halted, ever', ← same, ← late.sound.ok.slots.lastClientAddress_zero_iff]
      simp

theorem links_started (started : Started g) : g.links = (true, false, true, g.halted) := by
  rcases started with ⟨config, rfl⟩ | ⟨before, input, _, event, stepped⟩
  · rfl
  · have restarted := step_does stepped
    rw [event] at restarted
    have same : g = (before.prepare input).restart := restarted
    rw [same]
    rfl

/-- As long as the broker has not been reached, the state is one of the event system. -/
theorem links_running {state : Gateway × Bool} (running : Running state) :
    state.1.links = (true, state.2, true, state.1.halted) ∧ (state.2 = false → state.1.Reachable) := by
  induction running with
  | start started =>
    rw [started.2]
    exact ⟨links_started started.1, fun _ => reachable_started started.1⟩
  | next _ _ taken ih =>
    obtain ⟨looped, noted⟩ := Runs.recorded_eq_some.mp taken
    rw [noted]
    obtain ⟨linked, reachable, _⟩ := links_loop ih.1 ih.2 looped
    exact ⟨linked, reachable⟩

/-- The core ends the process in a turn just when the program has not reached the broker since it was started and nobody is
    registered. -/
theorem ends_iff {state : Gateway × Bool} (running : Running state) (looped : loop state.1 turn = some after) :
    after.halted = true ↔ (state.2 = false ∧ (state.1.isConnected = false → turn.connects = false)) ∧
      ∀ n, (state.1.store.nthClient n).clientStatus = .empty := by
  obtain ⟨linked, reachable⟩ := links_running running
  rw [(links_loop linked reachable looped).2.2]
  simp only [everConnected, Bool.or_eq_false_iff, Bool.and_eq_false_imp, Bool.not_eq_true', Store.Vacant]

end Ends

end Program

namespace Scenario

def idleTurn : Turn where
  connects := false
  arrivals := []
  drops := false
  opens := true
  reception := none
  chances := ⟨[], []⟩
  deliveries := fun _ => []
  beat := 0
  elapsed := 0

/-- A turn with a datagram, at whose calls of the MQTT client `messages` come in. -/
def receivingTurn (bytes : List UInt8) (messages : List BrokerMessage) : Turn :=
  { idleTurn with reception := some ⟨client 1, bytes, [], ⟨[], []⟩, fun _ => messages⟩ }

/-- The program after turns that connect to the broker and take a client with two subscriptions in, with a message on the first
    topic coming in while the gateway subscribes to the second one. -/
def reached : Gateway × Bool :=
  (Runs.execute (Runs.recorded Program.loop Program.everConnected) (Gateway.start (configuration [47]) .empty, false)
    [{ receivingTurn (Datagram.connect (name 65) 10 0) [] with connects := true },
      receivingTurn (Datagram.subscribeByName (name 116) 1 0) [],
      receivingTurn (Datagram.subscribeByName (name 117) 2 0) [⟨name 116, [1], false⟩]]).get (by decide +kernel)

/-- Over an empty store a turn without the broker is the only one of the program; once the broker was reached the program goes
    on. -/
theorem ends_idle :
    (∃ after, Program.loop (Gateway.start (configuration [47]) .empty) idleTurn = some after ∧ (after.halted = true ↔
      (false = false ∧ ((Gateway.start (configuration [47]) .empty).isConnected = false → idleTurn.connects = false)) ∧
        ∀ n, ((Gateway.start (configuration [47]) .empty).store.nthClient n).clientStatus = .empty)) ∧
    (∃ after, Program.loop reached.1 idleTurn = some after ∧ (after.halted = true ↔
      (reached.2 = false ∧ (reached.1.isConnected = false → idleTurn.connects = false)) ∧
        ∀ n, (reached.1.store.nthClient n).clientStatus = .empty)) := by
  constructor
  · have running : Program.Running (Gateway.start (configuration [47]) .empty, false) :=
      .start ⟨.inl ⟨configuration [47], rfl⟩, rfl⟩
    have returns : (Program.loop (Gateway.start (configuration [47]) .empty) idleTurn).isSome = true := by decide +kernel
    obtain ⟨after, looped⟩ := Option.isSome_iff_exists.mp returns
    exact ⟨after, looped, Program.ends_iff running looped⟩
  · have started : Program.Started (Gateway.start (configuration [47]) .empty) := .inl ⟨configuration [47], rfl⟩
    have running : Program.Running reached :=
      (Runs.Run.start ⟨started, rfl⟩).append (Runs.Run.of_execute (fun _ _ => trivial) (Option.some_get _).symm)
    have returns : (Program.loop reached.1 idleTurn).isSome = true := by decide +kernel
    obtain ⟨after, looped⟩ := Option.isSome_iff_exists.mp returns
    exact ⟨after, looped, Program.ends_iff running looped⟩

end Scenario

end MqttSnGateway
