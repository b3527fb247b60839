import MqttSnGateway.Core.Rewritten
import MqttSnGateway.Core.Unshared
import MqttSnGateway.Core.Waking

namespace MqttSnGateway

open Persistent Store

namespace Gateway

variable {g after : Gateway} {address : DeviceAddress} {n : Nat} {round : Round} {clientId : CString}

def sentSince (g after : Gateway) : List (DeviceAddress × SnMessage) := after.sent.drop g.sent.length

section Drain

variable {drains : Bool} {status : ClientStatus} {notice : SnMessage}

theorem hasClientPublishes_inside {p : Persistent} {s : Store} {entry : EntryClient} :
    (p.inside s entry false false).hasClientPublishes = false ↔
      ∀ queued ∈ (s.files entry.fileNumber).pub, queued.isEmpty = true := by
  have read : (p.inside s entry false false).hasClientPublishes =
      (s.files entry.fileNumber).pub.any fun queued => !queued.isEmpty := rfl
  rw [read, List.any_eq_false]
  simp

/-- The notice goes to a client without messages, after its status was stored. -/
theorem drain_sent (idle : g.persistent.Idle) (found : g.store.slotOfAddress address = some n) :
    (drain drains status notice address g).sent = g.sent ∨
      (drain drains status notice address g).sent = g.sent ++ [(address, notice)] ∧ drains = true ∧
        (∀ queued ∈ (g.store.files (g.store.nthClient n).fileNumber).pub, queued.isEmpty = true) ∧
        (drain drains status notice address g).store = g.store.setEntry n fun entry =>
          { entry with clientStatus := status } := by
  unfold drain
  simp only
  rw [startClientTransaction_found idle found]
  split
  · rename_i ready
    simp only [Bool.and_eq_true, Bool.not_eq_true'] at ready
    have changed : (g.inside g.store (g.store.nthClient n) false false).update (fun p => p.setClientState status) =
        g.inside (g.store.setEntry n fun entry => { entry with clientStatus := status })
          { g.store.nthClient n with clientStatus := status } false false := rfl
    rw [changed, applyTransaction_inside, if_pos (by rfl)]
    cases opened : g.socketOpen with
    | true =>
      right
      refine ⟨sent_send opened, ready.1, hasClientPublishes_inside.mp ready.2, store_send⟩
    | false =>
      left
      unfold send
      rw [if_neg (by simp [opened])]
      rfl
  · rw [applyTransaction_inside]
    exact .inl rfl

end Drain

theorem Delivery.sent (delivery : Delivery g address after) :
    after.sent = g.sent ∨ ∃ message, after.sent = g.sent ++ [(address, message)] ∧ message ≠ .pingresp := by
  have sending : ∀ {between : Gateway} {message : SnMessage}, between.sent = g.sent → message ≠ .pingresp →
      (between.send address message).sent = g.sent ∨
        ∃ other, (between.send address message).sent = g.sent ++ [(address, other)] ∧ other ≠ .pingresp := by
    intro between message silent different
    unfold send
    split
    · right
      exact ⟨message, by rw [← silent], different⟩
    · exact .inl silent
  cases delivery with
  | nothing _ silent => exact .inl silent
  | register _ silent => exact sending silent nofun
  | publish _ _ silent => exact sending silent nofun
  | publishAwaited _ _ silent => exact sending silent nofun

/-- A client with an id that shares its address with nobody is the one that its visit works with. -/
theorem own_delivery (sound : g.Sound) (unshared : g.store.Unshared) (given : (g.store.nthClient n).clientId ≠ .empty) :
    Delivery (g.visiting n) (g.store.nthClient n).clientAddress (g.delivered n) ∧ (g.delivered n).Sound ∧
      (g.delivered n).store.slotOfAddress (g.store.nthClient n).clientAddress = some n ∧
      (g.store.nthClient n).Same ((g.delivered n).store.nthClient n) := by
  have slots := sound.ok.slots
  have registered : (g.store.nthClient n).clientStatus ≠ .empty := by
    intro empty
    rw [(slots.fits n).emptied empty] at given
    exact given rfl
  have nonzero := (slots.fits n).addressed registered
  have found := unshared.slotOfAddress slots nonzero
  have delivery : Delivery (g.visiting n) (g.store.nthClient n).clientAddress (g.delivered n) :=
    handleClientPublishes_delivers sound.idle sound.ok found
  have touched := delivery.touches.touched
  have delivered : (g.delivered n).Sound := delivery.touches.sound ⟨sound.idle, sound.ok⟩ nonzero
  obtain ⟨m, _, selected, same⟩ := touched.selected sound.ok nonzero found
  have here : ((g.delivered n).store.nthClient n).clientId = (g.store.nthClient n).clientId :=
    touched.clientId sound.ok nonzero found (le_refl n)
  have there : ((g.delivered n).store.nthClient m).clientId = (g.store.nthClient n).clientId := same.clientId
  obtain rfl : m = n := by
    apply delivered.ok.slots.distinct m n (there.trans here.symm)
    rw [there]
    exact given
  exact ⟨delivery, delivered, selected, same⟩

/-- A PINGRESP of `loop`: the client was awake when its visit began, and is asleep with an empty queue when it is sent. -/
structure Drains (g : Gateway) (round : Round) : Prop where
  awake : (g.store.nthClient round.slot).clientStatus = .awake
  sent : (g.drained round round.slot).sent =
    (g.delivered round.slot).sent ++ [((g.store.nthClient round.slot).clientAddress, .pingresp)]
  unbuffered : ∀ queued ∈ ((g.drained round round.slot).store.files (g.store.nthClient round.slot).fileNumber).pub,
    queued.isEmpty = true
  asleep : ((g.drained round round.slot).store.nthClient round.slot).clientStatus = .asleep
  same : ((g.drained round round.slot).store.nthClient round.slot).clientId = (g.store.nthClient round.slot).clientId

theorem drained_sent (delivered : (g.delivered n).Sound)
    (found : (g.delivered n).store.slotOfAddress (g.store.nthClient n).clientAddress = some n) :
    (g.drained round n).sent = (g.delivered n).sent ∨
      (g.drained round n).sent = (g.delivered n).sent ++ [((g.store.nthClient n).clientAddress, round.notice)] ∧
        round.drained (g.store.nthClient n).clientStatus = true ∧
        (∀ queued ∈ ((g.delivered n).store.files ((g.delivered n).store.nthClient n).fileNumber).pub,
          queued.isEmpty = true) ∧
        (g.drained round n).store = (g.delivered n).store.setEntry n fun entry =>
          { entry with clientStatus := round.status } :=
  drain_sent delivered.idle found

theorem visit_ends (sound : g.Sound) (drained : (g.drained round n).Sound) {m : Nat}
    (selected : (g.drained round n).store.slotOfAddress (g.store.nthClient n).clientAddress = some m)
    (returned : round.body n (g.store.nthClient n) g = some after) :
    (g.drained round n).store.Calms after.store ∧ after.sent = (g.drained round n).sent := by
  rw [body_eq] at returned
  split at returned
  · have fits := sound.ok.slots.fits n
    have last := handleTimeout_timesOut drained.idle (drained.ok.files _) fits.named selected returned
    exact ⟨last.calms, last.sent⟩
  · rw [← Option.some.inj returned]
    exact ⟨Calms.refl, rfl⟩

theorem delivered_sent (delivery : Delivery (g.visiting n) address after) :
    ∃ messages, after.sent = g.sent ++ messages ∧ messages.countP (fun message => message.2 = .pingresp) = 0 := by
  rcases delivery.sent with silent | ⟨message, sent, other⟩
  · refine ⟨[], ?_, rfl⟩
    rw [List.append_nil]
    exact silent
  · refine ⟨[(address, message)], sent, ?_⟩
    simp [other]

/-- What a visit of a client sends: no PINGRESP, or one, after which the client is awake no longer. -/
theorem visit_pingresp (sound : g.Sound) (unshared : g.store.Unshared)
    (given : (g.store.nthClient round.slot).clientId ≠ .empty)
    (returned : round.body round.slot (g.store.nthClient round.slot) g = some after) :
    (g.sentSince after).countP (fun message => message.2 = .pingresp) = 0 ∨
      (g.sentSince after).countP (fun message => message.2 = .pingresp) = 1 ∧ g.Drains round ∧
        ¬ after.store.AwakeAs (g.store.nthClient round.slot).clientId := by
  generalize place : round.slot = n at given returned
  obtain ⟨delivery, delivered, found, same⟩ := own_delivery sound unshared given
  have drains : Gateway.Drained (g.delivered n) (round.drained (g.store.nthClient n).clientStatus) round.status
      round.notice (g.store.nthClient n).clientAddress (g.drained round n) := drain_drained delivered.idle found
  have nonzero : (g.store.nthClient n).clientAddress ≠ .zero := by
    rw [← same.clientAddress]
    exact (delivered.ok.slots.fits n).addressed same.registered
  have touches := drains.touches round.used.1
  have drained : (g.drained round n).Sound := touches.sound delivered nonzero
  obtain ⟨m, _, selected, _⟩ := touches.touched.selected delivered.ok nonzero found
  obtain ⟨calms, ends⟩ := visit_ends sound drained selected returned
  obtain ⟨messages, before, unpinged⟩ := delivered_sent delivery
  unfold sentSince
  rcases drained_sent (g := g) delivered found with silent | ⟨notified, ready, unbuffered, stored⟩
  · left
    rw [ends, silent, before, List.drop_left]
    exact unpinged
  · rw [ends, notified, before, List.append_assoc, List.drop_left, List.countP_append, unpinged]
    cases online : round.online with
    | false =>
      left
      have other : round.notice ≠ .pingresp := by
        unfold Round.notice
        rw [online]
        decide
      simp [other]
    | true =>
      right
      have ping : round.notice = .pingresp := by
        unfold Round.notice
        rw [online]
        rfl
      have sleeps : round.status = .asleep := by
        unfold Round.status
        rw [online]
        rfl
      have position : ((g.delivered n).store.nthClient n).slotNumber = n := by
        rcases delivered.ok.slots.slotNumber_cases same.registered with ⟨_, own⟩ | ⟨_, anonymous, _⟩
        · exact own
        · rw [same.clientId] at anonymous
          exact absurd anonymous given
      have here : (g.drained round n).store.nthClient n =
          { (g.delivered n).store.nthClient n with clientStatus := .asleep } := by
        rw [stored, sleeps]
        unfold Store.setEntry
        rw [position, nthClient_writeSlot_self]
      have kept : ((g.drained round n).store.nthClient n).clientId = (g.store.nthClient n).clientId := by
        rw [here]
        exact same.clientId
      refine ⟨?_, ⟨?_, ?_, ?_, ?_, ?_⟩, ?_⟩
      · simp [ping]
      · rw [place]
        unfold Round.drained at ready
        rw [online] at ready
        simpa using ready
      · rw [place, ← ping]
        exact notified
      · rw [place, stored, ← same.fileNumber]
        exact unbuffered
      · rw [place, here]
      · rw [place]
        exact kept
      · intro awake
        obtain ⟨i, equal, still⟩ := calms _ awake
        obtain rfl : i = n := by
          apply drained.ok.slots.distinct i n (equal.trans kept.symm)
          rw [equal]
          exact given
        rw [here] at still
        cases still

end Gateway

namespace Stage

variable {stage later : Stage} {moment : Moment} {clientId : CString}

/-- How many PINGREQs of a client have been accepted, and how many PINGRESPs its visits have sent. -/
structure Pings where
  accepted : Nat
  answered : Nat

def acceptsPing (stage : Stage) (clientId : CString) : Moment → Bool
  | .input input =>
    match input.request? with
    | some (address, .pingreqWithId _) =>
      (stage.gateway.setAwake address).1 = .success && (stage.gateway.store.entryAt address).clientId = clientId
    | _ => false
  | .visit => false

/-- The visit that is next is one of the client. -/
def visits (stage : Stage) (clientId : CString) : Moment → Bool
  | .visit => stage.round.any fun round => (stage.gateway.store.nthClient round.slot).clientId = clientId
  | .input _ => false

def count (clientId : CString) (stage : Stage) (moment : Moment) (later : Stage) (pings : Pings) : Pings where
  accepted := pings.accepted + if stage.acceptsPing clientId moment then 1 else 0
  answered := pings.answered + if stage.visits clientId moment then
    (stage.gateway.sentSince later.gateway).countP (fun message => message.2 = .pingresp) else 0

theorem acceptsPing_of_wakes {input : Input} {address : DeviceAddress} {request : Request}
    (idle : stage.gateway.persistent.Idle) (made : input.request? = some (address, request))
    (wakes : stage.gateway.Wakes address clientId request) : stage.acceptsPing clientId (.input input) = true := by
  obtain ⟨id, n, rfl, found, same⟩ := wakes
  unfold acceptsPing
  simp only [made]
  rw [Gateway.setAwake_found idle found, entryAt_found found, same]
  simp

/-- An awake client has a PINGREQ of its own that is not answered yet. -/
structure Accounted (clientId : CString) (stage : Stage) (pings : Pings) : Prop where
  answered : pings.answered ≤ pings.accepted
  pending : stage.gateway.store.AwakeAs clientId → pings.answered < pings.accepted

theorem step_accounted {pings : Pings} (given : clientId ≠ .empty) (sound : stage.gateway.Sound)
    (unshared : stage.gateway.store.Unshared) (accounted : Accounted clientId stage pings)
    (stepped : step stage moment = some later) :
    Accounted clientId later (count clientId stage moment later pings) := by
  have answered := accounted.answered
  have calm : stage.gateway.store.Calms later.gateway.store → stage.visits clientId moment = false →
      Accounted clientId later (count clientId stage moment later pings) := by
    intro calms unvisited
    unfold count
    rw [unvisited]
    refine ⟨?_, fun awake => ?_⟩
    · show pings.answered + 0 ≤ pings.accepted + _
      omega
    · have pending := accounted.pending (calms clientId awake)
      show pings.answered + 0 < pings.accepted + _
      omega
  have taken : ∀ {input : Input}, moment = .input input →
      Gateway.step stage.gateway input = some later.gateway →
      Accounted clientId later (count clientId stage moment later pings) := by
    intro input event taken
    subst event
    refine ⟨?_, fun awake => ?_⟩
    · show pings.answered + 0 ≤ pings.accepted + _
      omega
    · show pings.answered + 0 < pings.accepted + _
      rcases Gateway.step_awakeAs sound taken awake with before | ⟨address, request, made, wakes⟩
      · have pending := accounted.pending before
        omega
      · rw [acceptsPing_of_wakes sound.idle made wakes]
        simp only [if_true]
        omega
  cases step_stepped stepped with
  | event _ _ done => exact taken rfl done
  | disconnected _ _ _ done => exact taken rfl done
  | begun _ _ _ quiet =>
    apply calm _ rfl
    rw [(quiet sound.idle).store]
    exact Calms.refl
  | @empty round _ under empty quiet =>
    apply calm
    · rw [(quiet sound).store]
      exact Calms.refl
    · unfold visits
      rw [under, Option.any_some, (sound.ok.slots.fits round.slot).emptied empty]
      exact decide_eq_false fun same => given same.symm
  | @visit round _ under registered returned =>
    have visits := Gateway.serviceClient_visits sound registered round.used.1 returned
    have calms : stage.gateway.store.Calms later.gateway.store := by
      apply visits.calms
      unfold Round.status
      split <;> decide
    by_cases own : (stage.gateway.store.nthClient round.slot).clientId = clientId
    · have visited : stage.visits clientId .visit = true := by
        unfold Stage.visits
        rw [under, Option.any_some]
        exact decide_eq_true own
      have named : (stage.gateway.store.nthClient round.slot).clientId ≠ .empty := by
        rw [own]
        exact given
      unfold count
      rw [visited]
      rcases Gateway.visit_pingresp sound unshared named returned with unpinged | ⟨one, drains, sleeps⟩
      · refine ⟨?_, fun awake => ?_⟩
        · show pings.answered + _ ≤ pings.accepted + _
          rw [if_pos rfl, unpinged]
          omega
        · have pending := accounted.pending (calms clientId awake)
          show pings.answered + _ < pings.accepted + _
          rw [if_pos rfl, unpinged]
          omega
      · have pending := accounted.pending ⟨round.slot, own, drains.awake⟩
        refine ⟨?_, fun awake => ?_⟩
        · show pings.answered + _ ≤ pings.accepted + _
          rw [if_pos rfl, one]
          omega
        · rw [own] at sleeps
          exact absurd awake sleeps
    · apply calm calms
      unfold Stage.visits
      rw [under, Option.any_some]
      exact decide_eq_false own

/-- The PINGRESPs of `loop` in a state of a run. -/
structure AnswersPings (clientId : CString) (stage : Stage) (pings : Pings) : Prop where
  answered : pings.answered ≤ pings.accepted
  begins : ∀ input beat elapsed later, input.event = .loop beat elapsed → step stage (.input input) = some later →
    later.gateway.sent = []
  drains : ∀ round later, stage.round = some round → (stage.gateway.store.nthClient round.slot).clientId = clientId →
    step stage .visit = some later → ∀ message ∈ stage.gateway.sentSince later.gateway, message.2 = .pingresp →
      stage.gateway.Drains round

/-- As long as nobody shares an address, a PINGRESP goes to a client that was awake and is asleep now without messages,
    and no more of them than its PINGREQs. -/
theorem pingresps_answer_pingreqs {state : Stage × Pings} (given : clientId ≠ .empty)
    (run : Runs.Run (Runs.recorded step (count clientId)) (fun state _ => state.1.gateway.store.Unshared)
      (fun state => initial state.1 ∧ state.2 = ⟨0, 0⟩) state)
    (unshared : state.1.gateway.store.Unshared) : AnswersPings clientId state.1 state.2 := by
  have kept : state.1.gateway.Sound ∧ Accounted clientId state.1 state.2 := by
    clear unshared
    induction run with
    | @start state first =>
      obtain ⟨initial, zero⟩ := first
      rw [zero]
      refine ⟨Gateway.sound_initial initial.1, le_refl 0, ?_⟩
      intro ⟨i, _, awake⟩
      obtain ⟨config, same⟩ := initial.1
      rw [same] at awake
      cases awake
    | next _ separate taken ih =>
      obtain ⟨sound, accounted⟩ := ih
      obtain ⟨stepped, record⟩ := Runs.recorded_eq_some.mp taken
      rw [record]
      exact ⟨step_sound sound stepped, step_accounted given sound separate accounted stepped⟩
  obtain ⟨sound, accounted⟩ := kept
  refine ⟨accounted.answered, fun _ _ _ _ event stepped => step_loop_silent sound event stepped, ?_⟩
  intro round later under own stepped message sent ping
  have named : (state.1.gateway.store.nthClient round.slot).clientId ≠ .empty := by
    rw [own]
    exact given
  rcases Gateway.visit_pingresp sound unshared named (step_visit under stepped) with unpinged | ⟨_, drains, _⟩
  · have fails := List.countP_eq_zero.mp unpinged message sent
    exact absurd (decide_eq_true ping) fails
  · exact drains

end Stage

namespace Scenario

def pinging (state : Stage × Stage.Pings) (moment : Moment) : Option (Stage × Stage.Pings) :=
  Runs.recorded Stage.step (Stage.count (name 65)) state moment

def pingConnected : Stage × Stage.Pings := (registered, ⟨0, 0⟩)

def pingAsked : Stage × Stage.Pings :=
  (pinging pingConnected (event (.datagram (client 1) (Datagram.pingreq (name 65)) []))).get (by decide +kernel)

def pingLoop : Stage × Stage.Pings := (pinging pingAsked (event (.loop 0 0))).get (by decide +kernel)

def pingAnswered : Stage × Stage.Pings := (pinging pingLoop .visit).get (by decide +kernel)

theorem unshared_single {s : Store} (single : s.clients.length ≤ 1) : s.Unshared := by
  have only : ∀ i, (s.nthClient i).clientAddress ≠ .zero → i = 0 := by
    intro i nonzero
    have used : s.nthClient i ≠ .zero := by
      intro zero
      rw [zero] at nonzero
      exact nonzero rfl
    have inside := inside_of_ne_zero used
    omega
  intro i j same nonzero
  rw [only i nonzero, only j (same ▸ nonzero)]

theorem run_pingLoop : Runs.Run (Runs.recorded Stage.step (Stage.count (name 65)))
    (fun state _ => state.1.gateway.store.Unshared) (fun state => Stage.initial state.1 ∧ state.2 = ⟨0, 0⟩) pingLoop := by
  have begun : Runs.Run (Runs.recorded Stage.step (Stage.count (name 65)))
      (fun state _ => state.1.gateway.store.Unshared) (fun state => Stage.initial state.1 ∧ state.2 = ⟨0, 0⟩)
      (started, ⟨0, 0⟩) := .start ⟨⟨⟨configuration [47], rfl⟩, rfl⟩, rfl⟩
  have connects : pinging (started, ⟨0, 0⟩) (event .mqttConnect) = some (online, ⟨0, 0⟩) := rfl
  have registers : pinging (online, ⟨0, 0⟩) (event (.datagram (client 1) (Datagram.connect (name 65) 10 0) [])) =
      some pingConnected := rfl
  have first := begun.next (unshared_single (by decide +kernel)) connects
  have second := first.next (unshared_single (by decide +kernel)) registers
  have third : Runs.Run _ _ _ pingAsked := second.next (unshared_single (by decide +kernel)) (Option.some_get _).symm
  exact third.next (unshared_single (by decide +kernel)) (Option.some_get _).symm

/-- One PINGREQ, and one PINGRESP. -/
theorem pingresps_answer_pingreqs_pingLoop :
    Stage.AnswersPings (name 65) pingLoop.1 pingLoop.2 ∧
      pingAnswered.1.gateway.sent = [((client 1).getDeviceAddress, .pingresp)] ∧
      pingAnswered.2.accepted = 1 ∧ pingAnswered.2.answered = 1 := by
  refine ⟨?_, by decide +kernel, by decide +kernel, by decide +kernel⟩
  exact Stage.pingresps_answer_pingreqs (by decide) run_pingLoop (unshared_single (by decide +kernel))

end Scenario

end MqttSnGateway
