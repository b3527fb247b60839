import MqttSnGateway.Core.Identity

namespace MqttSnGateway

open Persistent Store

namespace Gateway

variable {g after : Gateway} {address : DeviceAddress} {clientId : CString} {n i : Nat}

/-- The client in slot `n`, if it has this id, takes no part in the protocol. -/
def Gone (g : Gateway) (n : Nat) (clientId : CString) : Prop :=
  (g.store.nthClient n).clientId = clientId → (g.store.nthClient n).clientStatus.connected = false

/-- A request brings no client back that is DISCONNECTED or LOST: PINGREQ with a client id comes from a sleeping
    client, DISCONNECT with a duration not from one that is gone. -/
def LeavesGone (g : Gateway) (address : DeviceAddress) : Request → Prop
  | .pingreqWithId _ => ∀ n, g.store.slotOfAddress address = some n →
    (g.store.nthClient n).clientStatus = .asleep ∨ (g.store.nthClient n).clientStatus = .awake
  | .disconnectWithDuration _ => g.persistent.isMqttOnline = true → ∀ n, g.store.slotOfAddress address = some n →
    (g.store.nthClient n).clientStatus.connected = true
  | _ => True

/-- What a step other than an accepted CONNECT can do to the status of a client. -/
inductive StatusStep : ClientStatus → ClientStatus → Prop
  | same {status : ClientStatus} : StatusStep status status
  | gone {status after : ClientStatus} (gone : after.connected = false) : StatusStep status after
  | asleep {status : ClientStatus} (connected : status.connected = true) : StatusStep status .asleep
  | awake {status : ClientStatus} (sleeping : status = .asleep ∨ status = .awake) : StatusStep status .awake

theorem Acts.statusStep {request : Request} {s : Store} (acts : Acts g address request s) (sound : g.Sound)
    (regular : g.store.Regular) (nonzero : address ≠ .zero) (lawful : g.LeavesGone address request) (i : Nat) :
    (s.nthClient i).clientId = (g.store.nthClient i).clientId ∧
      StatusStep (g.store.nthClient i).clientStatus (s.nthClient i).clientStatus := by
  rcases acts.entry sound regular nonzero i with same | ⟨found, writes⟩
  · rw [same]
    exact ⟨rfl, .same⟩
  · generalize s.nthClient i = entry at writes
    cases writes with
    | awake => exact ⟨rfl, .awake (lawful i found)⟩
    | disconnected => exact ⟨rfl, .gone rfl⟩
    | asleep online => exact ⟨rfl, .asleep (lawful online i found)⟩
    | _ => exact ⟨rfl, .same⟩

/-- What becomes of a slot: its client goes on, is erased, or another one is let in by an accepted CONNECT. -/
inductive Moves (admits : CString → Prop) (before after : EntryClient) : Prop
  | goesOn (sameId : after.clientId = before.clientId) (status : StatusStep before.clientStatus after.clientStatus)
  | erased (zero : after = .zero)
  | entered (admitted : admits after.clientId) (status : after.clientStatus = .active)

theorem Moves.refl {admits : CString → Prop} {entry : EntryClient} : Moves admits entry entry := .goesOn rfl .same

theorem Connection.moves {other : CString} {duration : UInt16} {will clean : Bool} {admits : CString → Prop}
    (connection : Connection g other duration will clean address after) (orderly : g.Orderly) (nonzero : address ≠ .zero)
    (alive : clean = false → ∀ n, g.store.slotOfId other = some n → (g.store.nthClient n).clientStatus ≠ .empty)
    (admitted : g.persistent.isMqttOnline = true → other.length < 24 → admits other) (i : Nat) :
    Moves admits (g.store.nthClient i) (after.store.nthClient i) := by
  rcases connection.entry orderly nonzero alive i with same | zero | ⟨_, awaits, _⟩ | ⟨lets_in, same, _, active, _⟩
  · rw [same]
    exact .refl
  · exact .erased zero
  · rw [awaits]
    exact .goesOn rfl .same
  · refine .entered ?_ active
    rw [same]
    exact admitted lets_in.1 lets_in.2

theorem Visits.moves {round : Round} {admits : CString → Prop}
    (visits : Visits round.drained round.status round.notice round.hasHeartBeaten round.elapsedTime n
      (g.store.nthClient n) g after) (orderly : g.Orderly) (registered : (g.store.nthClient n).clientStatus ≠ .empty)
    (lawful : round.online = true → (g.store.nthClient n).clientStatus = .awake →
      ∀ m, g.store.slotOfAddress (g.store.nthClient n).clientAddress = some m →
        (g.store.nthClient m).clientStatus.connected = true) (i : Nat) :
    Moves admits (g.store.nthClient i) (after.store.nthClient i) := by
  obtain ⟨delivered, ready, nonzero, visiting, first, second, delivery, drains, timesOut⟩ :=
    visits.parts orderly registered round.used.1
  have sameId : (delivered.store.nthClient i).clientId = (g.store.nthClient i).clientId :=
    Delivery.keeps (g := g.visiting n) EntryClient.clientId (fun _ _ => rfl) delivery visiting.sound visiting.regular nonzero
  have sameStatus : (delivered.store.nthClient i).clientStatus = (g.store.nthClient i).clientStatus :=
    Delivery.keeps (g := g.visiting n) EntryClient.clientStatus (fun _ _ => rfl) delivery visiting.sound visiting.regular
      nonzero
  have selection : delivered.store.slotOfAddress (g.store.nthClient n).clientAddress =
      g.store.slotOfAddress (g.store.nthClient n).clientAddress :=
    delivery.slotOfAddress visiting.sound visiting.regular nonzero
  have drained : (ready.store.nthClient i).clientId = (g.store.nthClient i).clientId ∧
      StatusStep (g.store.nthClient i).clientStatus (ready.store.nthClient i).clientStatus := by
    rw [← sameId, ← sameStatus]
    cases drains with
    | kept settles _ =>
      rw [settles.store]
      exact ⟨rfl, .same⟩
    | changed asked settles _ =>
      rw [store_send, settles.store, first.regular.nthClient_updateAt first.sound.ok.slots nonzero, selection]
      split
      · rename_i found
        refine ⟨rfl, ?_⟩
        simp only
        cases online : round.online with
        | true =>
          have awake : (g.store.nthClient n).clientStatus = .awake := by
            simpa [Round.drained, online] using asked
          have connected := lawful online awake i found
          rw [← sameStatus] at connected
          unfold Round.status
          rw [if_pos online]
          exact .asleep connected
        | false =>
          unfold Round.status
          rw [if_neg (by simp [online])]
          exact .gone rfl
      · exact ⟨rfl, .same⟩
  cases beaten : round.hasHeartBeaten with
  | false =>
    rw [beaten, if_neg (by simp)] at timesOut
    rw [timesOut]
    exact .goesOn drained.1 drained.2
  | true =>
    rw [beaten, if_pos rfl] at timesOut
    rcases timesOut.entry second.sound second.regular nonzero i with same | ⟨_, changed | ⟨_, changed⟩⟩ | ⟨_, zero, _⟩
    · rw [same]
      exact .goesOn drained.1 drained.2
    · rw [changed]
      exact .goesOn drained.1 drained.2
    · rw [changed]
      exact .goesOn drained.1 (.gone rfl)
    · exact .erased zero

theorem step_moves {input : Input} {admits : CString → Prop} (orderly : g.Orderly) (alive : NoRevival g input)
    (lawful : ∀ address request, input.request? = some (address, request) → g.LeavesGone address request)
    (admitted : ∀ clientId, g.Admits input clientId → admits clientId)
    (idle : ∀ beat elapsed, input.event = .loop beat elapsed → g.persistent.isMqttsnOnline = false)
    (stepped : step g input = some after) (i : Nat) : Moves admits (g.store.nthClient i) (after.store.nthClient i) := by
  have prepared : (g.prepare input).Orderly := orderly.prepare
  cases step_stepped stepped with
  | restart _ => exact .refl
  | @datagram sender bytes beyond after event _ handled =>
    have nonzero := sender.getDeviceAddress_ne_zero
    have same := Input.request_of_datagram event
    generalize Request.ofMemory (receiveBuffer bytes beyond) = request at handled same
    cases handle_requested prepared.sound nonzero handled with
    | connect connection =>
      refine Connection.moves (g := g.prepare input) connection prepared nonzero ?_ ?_ i
      · rintro rfl n found emptied
        exact alive _ _ same ⟨_, _, _, n, rfl, found, emptied⟩
      · exact fun online fits => admitted _ ⟨online, fits, _, _, _, _, same⟩
    | topics _ _ only =>
      rw [only.nthClient]
      exact .refl
    | acts acts settles =>
      obtain ⟨sameId, status⟩ := Acts.statusStep acts prepared.sound prepared.regular nonzero (lawful _ _ same) i
      rw [settles.store]
      exact .goesOn sameId status
  | brokerMessage _ _ published =>
    rw [nthClient_congr (publishFromBroker_receives prepared.sound.idle published).clients]
    exact .refl
  | loop event looped =>
    rcases (loop_disconnected prepared (idle _ _ event) looped).entries i with same | lost
    · rw [same]
      exact .refl
    · rw [lost]
      exact .goesOn rfl (.gone rfl)
  | mqttConnect _ _ => exact .refl
  | mqttConnectionLost _ => exact .refl
  | socketLost _ => exact .refl
  | @socketBegin opened _ _ => cases opened <;> exact .refl

end Gateway

namespace Stage

variable {stage later : Stage} {moment : Moment} {n : Nat}

/-- The steps that re-establish no session, CONNECT apart: PINGREQ with a client id comes from sleeping clients only,
    DISCONNECT with a duration not from clients that are gone, and no AWAKE client is visited whose address selects
    one that is gone. -/
structure Restrained (stage : Stage) (moment : Moment) : Prop where
  alive : NoRevival stage moment
  requests : ∀ input address request, moment = .input input → input.request? = some (address, request) →
    stage.gateway.LeavesGone address request
  visits : ∀ round m, moment = .visit → stage.round = some round → round.online = true →
    (stage.gateway.store.nthClient round.slot).clientStatus = .awake →
    stage.gateway.store.slotOfAddress (stage.gateway.store.nthClient round.slot).clientAddress = some m →
    (stage.gateway.store.nthClient m).clientStatus.connected = true

theorem step_moves (orderly : stage.gateway.Orderly) (restrained : Restrained stage moment)
    (stepped : step stage moment = some later) (i : Nat) :
    Gateway.Moves (fun clientId => stage.Connects clientId moment) (stage.gateway.store.nthClient i)
      (later.gateway.store.nthClient i) := by
  cases step_stepped stepped with
  | event _ other taken =>
    refine Gateway.step_moves orderly (restrained.alive _ rfl) (fun _ _ => restrained.requests _ _ _ rfl)
      (fun _ admits => ⟨_, rfl, admits⟩) ?_ taken i
    exact fun beat elapsed event => absurd event (other beat elapsed)
  | disconnected _ _ offline taken =>
    exact Gateway.step_moves orderly (restrained.alive _ rfl) (fun _ _ => restrained.requests _ _ _ rfl)
      (fun _ admits => ⟨_, rfl, admits⟩) (fun _ _ _ => offline) taken i
  | begun _ _ _ quiet =>
    rw [(quiet orderly.sound.idle).store]
    exact .refl
  | empty _ _ quiet =>
    rw [(quiet orderly.sound).store]
    exact .refl
  | @visit round _ under registered returned =>
    have visits := Gateway.serviceClient_visits orderly.sound registered round.used.1 returned
    exact visits.moves orderly registered (fun online awake m => restrained.visits round m rfl under online awake) i

/-- In runs of such steps a client that is gone stays away until it connects anew, and only sleeping clients become
    AWAKE. -/
theorem only_connect_reestablishes (run : RunOf Restrained stage) :
    (∀ n later, (stage.gateway.store.nthClient n).clientStatus.connected = false →
      Runs.Run step (fun stage' moment => Restrained stage' moment ∧
          ¬ stage'.Connects (stage.gateway.store.nthClient n).clientId moment) (fun stage' => stage' = stage) later →
      (later.gateway.store.nthClient n).clientId = (stage.gateway.store.nthClient n).clientId →
      (later.gateway.store.nthClient n).clientStatus.connected = false) ∧
    (∀ n moment later, Restrained stage moment → step stage moment = some later →
      (later.gateway.store.nthClient n).clientStatus = .awake →
      (stage.gateway.store.nthClient n).clientStatus = .asleep ∨
        (stage.gateway.store.nthClient n).clientStatus = .awake) := by
  have orderly := orderly_of_run (fun _ _ meets => meets.alive) run
  constructor
  · intro n later gone continued
    have kept : later.gateway.Orderly ∧ later.gateway.Gone n (stage.gateway.store.nthClient n).clientId := by
      induction continued with
      | start same =>
        rw [same]
        exact ⟨orderly, fun _ => gone⟩
      | @next before after _ _ meets taken ih =>
        refine ⟨step_orderly ih.1 meets.1.alive taken, fun same => ?_⟩
        have away := ih.2
        unfold Gateway.Gone at away
        cases step_moves ih.1 meets.1 taken n with
        | goesOn sameId status =>
          rw [sameId] at same
          generalize (before.gateway.store.nthClient n).clientStatus = old at away status
          generalize (after.gateway.store.nthClient n).clientStatus = new at status
          cases status with
          | same => exact away same
          | gone gone => exact gone
          | asleep connected => exact absurd (connected.symm.trans (away same)) (by simp)
          | awake sleeping =>
            have connected := away same
            rcases sleeping with rfl | rfl <;> cases connected
        | erased zero =>
          rw [zero]
          rfl
        | entered admitted _ =>
          rw [same] at admitted
          exact absurd admitted meets.2
    exact kept.2
  · intro n moment later restrained taken awake
    cases step_moves orderly restrained taken n with
    | goesOn _ status =>
      rw [awake] at status
      generalize (stage.gateway.store.nthClient n).clientStatus = old at status ⊢
      cases status with
      | same => exact .inr rfl
      | gone gone => cases gone
      | awake sleeping => exact sleeping
    | erased zero =>
      rw [zero] at awake
      cases awake
    | entered _ active =>
      rw [awake] at active
      cases active

end Stage

namespace Scenario

theorem registered_disconnects :
    (Stage.step registered (event (.datagram (client 1) Datagram.disconnect []))).isSome = true := by decide +kernel

def disconnected : Stage :=
  (Stage.step registered (event (.datagram (client 1) Datagram.disconnect []))).get registered_disconnects

def awoken : Stage :=
  (Stage.step disconnected (event (.datagram (client 1) (Datagram.pingreq (name 65)) []))).get (by decide +kernel)

theorem restrained_event {stage : Stage} {input : Event}
    (alive : stage.gateway.NoRevival ⟨input, [], []⟩)
    (requests : ∀ address request, Input.request? ⟨input, [], []⟩ = some (address, request) →
      stage.gateway.LeavesGone address request) : stage.Restrained (event input) := by
  refine ⟨?_, ?_, fun _ _ same => by cases same⟩
  · intro _ same
    cases same
    exact alive
  · intro _ address request same
    cases same
    exact requests address request

theorem run_disconnected : Stage.RunOf Stage.Restrained disconnected := by
  have first : started.Restrained (event .mqttConnect) :=
    restrained_event (fun _ _ made => by cases made) fun _ _ made => by cases made
  have second : online.Restrained (event (.datagram (client 1) (Datagram.connect (name 65) 10 0) [])) := by
    refine restrained_event ?_ ?_
    · rintro address request _ ⟨clientId, duration, will, n, _, found, emptied⟩
      cases found
    · rintro address request made
      cases made
      trivial
  have third : registered.Restrained (event (.datagram (client 1) Datagram.disconnect [])) := by
    refine restrained_event ?_ ?_
    · rintro address request made ⟨clientId, duration, will, n, rfl, _, _⟩
      cases made
    · rintro address request made
      cases made
      trivial
  exact .next (.next (.next (.start ⟨⟨configuration [47], rfl⟩, rfl⟩) first (Option.some_get _).symm) second
    (Option.some_get _).symm) third (Option.some_get _).symm

theorem only_connect_reestablishes_disconnected :
    (∀ n later, (disconnected.gateway.store.nthClient n).clientStatus.connected = false →
      Runs.Run Stage.step (fun stage' moment => Stage.Restrained stage' moment ∧
          ¬ stage'.Connects (disconnected.gateway.store.nthClient n).clientId moment) (fun stage' => stage' = disconnected)
        later →
      (later.gateway.store.nthClient n).clientId = (disconnected.gateway.store.nthClient n).clientId →
      (later.gateway.store.nthClient n).clientStatus.connected = false) ∧
    (∀ n moment later, Stage.Restrained disconnected moment → Stage.step disconnected moment = some later →
      (later.gateway.store.nthClient n).clientStatus = .awake →
      (disconnected.gateway.store.nthClient n).clientStatus = .asleep ∨
        (disconnected.gateway.store.nthClient n).clientStatus = .awake) :=
  Stage.only_connect_reestablishes run_disconnected

/-- A client that has disconnected is AWAKE again after a PINGREQ, without a CONNECT. -/
theorem pingreq_reestablishes :
    ¬ ∀ (stage later : Stage) (n : Nat), Stage.RunOf (fun _ _ => True) stage →
      (stage.gateway.store.nthClient n).clientStatus = .disconnected →
      Runs.Run Stage.step (fun stage' moment => ¬ stage'.Connects (stage.gateway.store.nthClient n).clientId moment)
        (fun stage' => stage' = stage) later →
      (later.gateway.store.nthClient n).clientId = (stage.gateway.store.nthClient n).clientId →
      (later.gateway.store.nthClient n).clientStatus.connected = false := by
  intro claim
  have reached : Stage.RunOf (fun _ _ => True) disconnected := run_disconnected.weaken fun _ _ _ => trivial
  have silent := claim disconnected awoken 0 reached (by decide +kernel)
    (.next (.start rfl) (by
      rintro ⟨_, same, _, _, _, _, _, _, made⟩
      cases same
      cases made) (Option.some_get _).symm) (by decide +kernel)
  have awake : (awoken.gateway.store.nthClient 0).clientStatus.connected = true := by decide +kernel
  rw [silent] at awake
  cases awake

end Scenario

end MqttSnGateway
