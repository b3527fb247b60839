import MqttSnGateway.Core.RegularSpecs
import MqttSnGateway.Stages

namespace MqttSnGateway

open Persistent Store

/-- Two entries of one client: what identifies it, and what it was given at its CONNECT, is the same. -/
structure EntryClient.SameClient (entry other : EntryClient) : Prop where
  clientId : other.clientId = entry.clientId
  fileNumber : other.fileNumber = entry.fileNumber
  clientAddress : other.clientAddress = entry.clientAddress
  duration : other.duration = entry.duration

def EntryClient.identity (entry : EntryClient) : CString × CString × DeviceAddress × UInt32 :=
  (entry.clientId, entry.fileNumber, entry.clientAddress, entry.duration)

theorem EntryClient.sameClient_iff {entry other : EntryClient} :
    entry.SameClient other ↔ other.identity = entry.identity := by
  unfold identity
  simp only [Prod.mk.injEq]
  constructor
  · exact fun same => ⟨same.clientId, same.fileNumber, same.clientAddress, same.duration⟩
  · exact fun ⟨clientId, fileNumber, clientAddress, duration⟩ => ⟨clientId, fileNumber, clientAddress, duration⟩

/-- What becomes of a slot: its client goes on, is erased, or a client is let in by a CONNECT. -/
inductive Follows (admits : CString → DeviceAddress → Prop) (before after : EntryClient) : Prop
  | goesOn (same : before.SameClient after)
  | erased (zero : after = .zero)
  | entered (admitted : admits after.clientId after.clientAddress)

theorem Follows.refl {admits : CString → DeviceAddress → Prop} {entry : EntryClient} : Follows admits entry entry :=
  .goesOn ⟨rfl, rfl, rfl, rfl⟩

theorem Follows.mono {admits wider : CString → DeviceAddress → Prop} {before after : EntryClient}
    (follows : Follows admits before after) (weaker : ∀ clientId address, admits clientId address → wider clientId address) :
    Follows wider before after := by
  cases follows with
  | goesOn same => exact .goesOn same
  | erased zero => exact .erased zero
  | entered admitted => exact .entered (weaker _ _ admitted)

namespace Store

variable {s s' : Store} {clientId : CString} {clean : Bool} {i : Nat}

theorem cleared_cases (s : Store) (clientId : CString) (clean : Bool) (i : Nat) :
    (s.cleared clientId clean).nthClient i = s.nthClient i ∧
      (clean = true → s.slotOfId clientId ≠ some i) ∨ (s.cleared clientId clean).nthClient i = .zero := by
  unfold cleared
  cases found : s.slotOfId clientId with
  | none => exact .inl ⟨rfl, fun _ => nofun⟩
  | some n =>
    cases clean with
    | false => exact .inl ⟨rfl, nofun⟩
    | true =>
      simp only [if_true]
      rw [nthClient_writeSlot]
      split
      · exact .inr rfl
      · rename_i other
        exact .inl ⟨rfl, fun _ same => other (Option.some.inj same).symm⟩

theorem Entered.elsewhere {duration : UInt32}
    (entered : s.Entered clientId duration clean address s') (slots : s.SlotsOk) (regular : s.Regular)
    (different : i ≠ s.slotGiven clientId clean) (registered : (s'.nthClient i).clientStatus ≠ .empty) :
    s'.nthClient i = s.nthClient i ∧ s'.files (s.nthClient i).fileNumber = s.files (s.nthClient i).fileNumber := by
  rw [entered.others i different] at registered ⊢
  rcases cleared_cases s clientId clean i with ⟨same, uncleared⟩ | zero
  · rw [same] at registered ⊢
    refine ⟨rfl, entered.files _ fun cleaned n found number => ?_⟩
    by_cases second : (s.nthClient n).clientStatus = .empty
    · rw [(slots.fits n).emptied second, regular i registered] at number
      exact fileNumber_ne_empty number
    · rw [regular.number_inj slots registered second number] at uncleared
      exact uncleared cleaned found
  · rw [zero] at registered
    exact absurd rfl registered

end Store

namespace Gateway

variable {g after : Gateway} {address : DeviceAddress} {clientId : CString} {n i : Nat}

/-- The input is a CONNECT from the address, for a client id that `add_client` lets in. -/
def AdmitsFrom (g : Gateway) (input : Input) (clientId : CString) (address : DeviceAddress) : Prop :=
  g.persistent.isMqttOnline = true ∧ clientId.length < 24 ∧
    ∃ duration will clean, input.request? = some (address, .connect clientId duration will clean)

def AdmitsTo (g : Gateway) (input : Input) (i : Nat) (clientId : CString) (address : DeviceAddress) : Prop :=
  g.persistent.isMqttOnline = true ∧ clientId.length < 24 ∧
    ∃ duration will clean, input.request? = some (address, .connect clientId duration will clean) ∧
      g.store.slotGiven clientId clean = i

theorem AdmitsTo.admitsFrom {input : Input} (admits : g.AdmitsTo input i clientId address) :
    g.AdmitsFrom input clientId address := by
  obtain ⟨online, fits, duration, will, clean, made, _⟩ := admits
  exact ⟨online, fits, duration, will, clean, made⟩

theorem AddsClient.online {duration : UInt16} {clean : Bool}
    (adds : AddsClient g clientId duration clean address .success after) :
    g.persistent.isMqttOnline = true ∧ clientId.length < 24 := by
  cases adds with
  | new online fits _ => exact ⟨online, fits⟩
  | reset online fits _ _ => exact ⟨online, fits⟩
  | cleaned online fits _ _ _ _ => exact ⟨online, fits⟩

/-- What a CONNECT makes of a slot: its client, who awaits something else then if it has the address, nobody, or the client
    that is let in. -/
theorem Connection.entry {duration : UInt16} {will clean : Bool}
    (connection : Connection g clientId duration will clean address after) (orderly : g.Orderly) (nonzero : address ≠ .zero)
    (alive : clean = false → ∀ n, g.store.slotOfId clientId = some n → (g.store.nthClient n).clientStatus ≠ .empty)
    (i : Nat) :
    after.store.nthClient i = g.store.nthClient i ∨ after.store.nthClient i = .zero ∨
      (∃ type, after.store.nthClient i = { g.store.nthClient i with awaitMessage := type } ∧
        (g.store.nthClient i).clientAddress = address) ∨
      (g.persistent.isMqttOnline = true ∧ clientId.length < 24) ∧ (after.store.nthClient i).clientId = clientId ∧
        (after.store.nthClient i).clientAddress = address ∧ (after.store.nthClient i).clientStatus = .active ∧
        g.store.slotGiven clientId clean = i := by
  have entered : ∀ {between}, AddsClient g clientId duration clean address .success between →
      between.store.nthClient i = g.store.nthClient i ∨ between.store.nthClient i = .zero ∨
        (between.store.nthClient i).clientId = clientId ∧ (between.store.nthClient i).clientAddress = address ∧
          (between.store.nthClient i).clientStatus = .active ∧ g.store.slotGiven clientId clean = i := by
    intro between adds
    have enters := adds.entered
    by_cases here : i = g.store.slotGiven clientId clean
    · rw [here]
      exact .inr (.inr ⟨enters.clientId_eq, enters.clientAddress_eq, enters.clientStatus_eq, rfl⟩)
    · rw [enters.others i here]
      rcases cleared_cases g.store clientId clean i with ⟨same, _⟩ | zero
      · exact .inl same
      · exact .inr (.inl zero)
  cases connection with
  | rejected adds refused _ =>
    rw [store_send]
    rcases adds.refused refused with settles | rfl
    · rw [settles.store]
      exact .inl rfl
    · exact .inl rfl
  | accepted adds _ =>
    rw [store_send]
    rcases entered adds with same | zero | client
    · exact .inl same
    · exact .inr (.inl zero)
    · exact .inr (.inr (.inr ⟨adds.online, client⟩))
  | @asked between _ adds _ settles _ =>
    have slots := (adds.sound orderly.sound nonzero).ok.slots
    have regular := adds.entered.regular orderly.regular alive
    rw [store_send, settles.store, regular.nthClient_updateAt slots nonzero]
    by_cases selected : between.store.slotOfAddress address = some i
    · rw [if_pos selected]
      rcases entered adds with same | zero | client
      · have here := ((slots.slotOfAddress_eq_some nonzero).mp selected).1
        rw [same] at here ⊢
        exact .inr (.inr (.inl ⟨.willtopic, rfl, here⟩))
      · exact absurd (by rw [zero]; rfl) (slots.registered_of_slotOfAddress nonzero selected)
      · exact .inr (.inr (.inr ⟨adds.online, client⟩))
    · rw [if_neg selected]
      rcases entered adds with same | zero | client
      · exact .inl same
      · exact .inr (.inl zero)
      · exact .inr (.inr (.inr ⟨adds.online, client⟩))

theorem Connection.follows {duration : UInt16} {will clean : Bool} {admits : CString → DeviceAddress → Prop}
    (connection : Connection g clientId duration will clean address after) (orderly : g.Orderly) (nonzero : address ≠ .zero)
    (alive : clean = false → ∀ n, g.store.slotOfId clientId = some n → (g.store.nthClient n).clientStatus ≠ .empty)
    (admitted : g.persistent.isMqttOnline = true → clientId.length < 24 → g.store.slotGiven clientId clean = i →
      admits clientId address) :
    Follows admits (g.store.nthClient i) (after.store.nthClient i) := by
  rcases connection.entry orderly nonzero alive i with same | zero | ⟨_, awaits, _⟩ | ⟨lets_in, same, here, _, place⟩
  · rw [same]
    exact .refl
  · exact .erased zero
  · rw [awaits]
    exact .goesOn ⟨rfl, rfl, rfl, rfl⟩
  · refine .entered ?_
    rw [same, here]
    exact admitted lets_in.1 lets_in.2 place

theorem Writes.sameClient {request : Request} {entry : EntryClient} (writes : Writes g i request entry) :
    (g.store.nthClient i).SameClient entry := by
  cases writes with
  | _ => exact ⟨rfl, rfl, rfl, rfl⟩

theorem Visits.follows {round : Round} {admits : CString → DeviceAddress → Prop}
    (visits : Visits round.drained round.status round.notice round.hasHeartBeaten round.elapsedTime n
      (g.store.nthClient n) g after) (orderly : g.Orderly) (registered : (g.store.nthClient n).clientStatus ≠ .empty)
    (i : Nat) : Follows admits (g.store.nthClient i) (after.store.nthClient i) := by
  obtain ⟨delivered, ready, nonzero, visiting, first, second, delivery, drains, timesOut⟩ :=
    visits.parts orderly registered round.used.1
  have kept : (ready.store.nthClient i).identity = ((g.visiting n).store.nthClient i).identity :=
    (drains.keeps EntryClient.identity (fun _ => rfl) first.sound first.regular nonzero).trans
      (delivery.keeps EntryClient.identity (fun _ _ => rfl) visiting.sound visiting.regular nonzero)
  have same : (g.store.nthClient i).SameClient (ready.store.nthClient i) := EntryClient.sameClient_iff.mpr kept
  cases beaten : round.hasHeartBeaten with
  | false =>
    rw [beaten, if_neg (by simp)] at timesOut
    rw [timesOut]
    exact .goesOn same
  | true =>
    rw [beaten, if_pos rfl] at timesOut
    rcases timesOut.entry second.sound second.regular nonzero i with unchanged | ⟨_, changed | ⟨_, changed⟩⟩ | ⟨_, zero, _⟩
    · rw [unchanged]
      exact .goesOn same
    · rw [changed]
      exact .goesOn ⟨same.clientId, same.fileNumber, same.clientAddress, same.duration⟩
    · rw [changed]
      exact .goesOn ⟨same.clientId, same.fileNumber, same.clientAddress, same.duration⟩
    · exact .erased zero

section Visits

variable {round : Round} {m : Nat}

def delivered (g : Gateway) (n : Nat) : Gateway :=
  handleClientPublishes (g.store.nthClient n).clientStatus (g.store.nthClient n).clientAddress (g.visiting n)

def drained (g : Gateway) (round : Round) (n : Nat) : Gateway :=
  drain (round.drained (g.store.nthClient n).clientStatus) round.status round.notice (g.store.nthClient n).clientAddress
    (g.delivered n)

/-- A visit of slot `n`, whose address selects the client in slot `m`, with the gateway in order between its parts. -/
structure Visit (g : Gateway) (round : Round) (n m : Nat) (after : Gateway) : Prop where
  nonzero : (g.store.nthClient n).clientAddress ≠ .zero
  visiting : (g.visiting n).Orderly
  delivers : Delivered (g.visiting n) (g.store.nthClient n).clientAddress m (g.delivered n)
  first : (g.delivered n).Orderly
  drains : Drained (g.delivered n) (round.drained (g.store.nthClient n).clientStatus) round.status round.notice
    (g.store.nthClient n).clientAddress (g.drained round n)
  second : (g.drained round n).Orderly
  same : ∀ i, (g.store.nthClient i).SameClient ((g.drained round n).store.nthClient i)
  found : (g.drained round n).store.slotOfAddress (g.store.nthClient n).clientAddress = some m
  timesOut : if round.hasHeartBeaten = true then TimesOut (g.drained round n) (g.store.nthClient n) round.elapsedTime after
    else after = g.drained round n

theorem body_eq : round.body n (g.store.nthClient n) g =
    if round.hasHeartBeaten = true then handleTimeout pahoMqttMessageHandler (g.store.nthClient n) round.elapsedTime
      (g.drained round n)
    else some (g.drained round n) := by
  unfold Round.body
  rw [serviceClient_eq]
  rfl

theorem body_visit (orderly : g.Orderly) (registered : (g.store.nthClient n).clientStatus ≠ .empty)
    (found : g.store.slotOfAddress (g.store.nthClient n).clientAddress = some m)
    (returned : round.body n (g.store.nthClient n) g = some after) : Visit g round n m after := by
  have slots := orderly.sound.ok.slots
  have nonzero := (slots.fits n).addressed registered
  have visiting : (g.visiting n).Orderly := ⟨⟨orderly.sound.idle, orderly.sound.ok⟩, orderly.regular⟩
  have delivers : Delivered (g.visiting n) (g.store.nthClient n).clientAddress m (g.delivered n) :=
    handleClientPublishes_delivered _ visiting.sound.idle visiting.sound.ok found
  have delivery := delivers.delivery found
  have first : (g.delivered n).Orderly := ⟨delivery.touches.sound visiting.sound nonzero,
    delivery.touches.regular visiting.sound nonzero visiting.regular⟩
  have selected : (g.delivered n).store.slotOfAddress (g.store.nthClient n).clientAddress = some m :=
    (delivery.slotOfAddress visiting.sound visiting.regular nonzero).trans found
  have drains : Drained (g.delivered n) (round.drained (g.store.nthClient n).clientStatus) round.status round.notice
      (g.store.nthClient n).clientAddress (g.drained round n) := drain_drained first.sound.idle selected
  have second : (g.drained round n).Orderly := ⟨(drains.touches round.used.1).sound first.sound nonzero,
    (drains.touches round.used.1).regular first.sound nonzero first.regular⟩
  have kept : ∀ i, ((g.drained round n).store.nthClient i).identity = (g.store.nthClient i).identity := fun i =>
    (drains.keeps EntryClient.identity (fun _ => rfl) first.sound first.regular nonzero).trans
      (Delivery.keeps (g := g.visiting n) EntryClient.identity (fun _ _ => rfl) delivery visiting.sound visiting.regular
        nonzero)
  have same : ∀ i, (g.store.nthClient i).SameClient ((g.drained round n).store.nthClient i) := fun i =>
    EntryClient.sameClient_iff.mpr (kept i)
  have last : (g.drained round n).store.slotOfAddress (g.store.nthClient n).clientAddress = some m :=
    (slots.slotOfAddress_congr second.sound.ok.slots nonzero fun i => (same i).clientAddress).trans found
  refine ⟨nonzero, visiting, delivers, first, drains, second, same, last, ?_⟩
  rw [body_eq] at returned
  split at returned
  · rename_i beaten
    rw [if_pos beaten]
    exact handleTimeout_timesOut second.sound.idle (second.sound.ok.files _) (slots.fits n).named last returned
  · rename_i still
    rw [if_neg still]
    exact (Option.some.inj returned).symm

theorem Drained.files {drains : Bool} {status : ClientStatus} {notice : SnMessage}
    (drained : Drained g drains status notice address after) : after.store.files = g.store.files := by
  cases drained with
  | kept settles _ => rw [settles.store]
  | changed _ settles _ => rw [store_send, settles.store, files_updateAt]

theorem Delivered.wil (delivered : Delivered g address m after) (number : CString) :
    (after.store.files number).wil = (g.store.files number).wil := by
  have kept : ∀ h : ClientFiles → ClientFiles, (∀ files, (h files).wil = files.wil) →
      ((g.store.setFiles m h).files number).wil = (g.store.files number).wil := by
    intro h same
    unfold Store.setFiles
    rw [files_modifyFiles]
    split
    · rename_i here
      rw [here, same]
    · rfl
  cases delivered with
  | nothing settles _ => rw [settles.store]
  | register _ settles _ =>
    rw [store_send, settles.store]
    rfl
  | publish _ _ _ _ settles _ =>
    rw [store_send, settles.store]
    exact kept _ fun _ => rfl
  | @publishAwaited _ k _ msgId _ _ _ settles _ =>
    rw [store_send, settles.store]
    exact kept (fun files => { files with pub := files.pub.modify k fun entry => { entry with msgId := msgId } }) fun _ => rfl

theorem sd_send {message : SnMessage} : (g.send address message).persistent.sd = g.persistent.sd := by
  unfold send
  split <;> rfl

theorem Delivered.sd (delivered : Delivered g address m after) : after.persistent.sd = g.persistent.sd := by
  cases delivered with
  | nothing settles _ => exact settles.sd
  | register _ settles _ => exact sd_send.trans settles.sd
  | publish _ _ _ _ settles _ => exact sd_send.trans settles.sd
  | publishAwaited _ _ _ settles _ => exact sd_send.trans settles.sd

theorem Drained.sd {drains : Bool} {status : ClientStatus} {notice : SnMessage}
    (drained : Drained g drains status notice address after) : after.persistent.sd = g.persistent.sd := by
  cases drained with
  | kept settles _ => exact settles.sd
  | changed _ settles _ => exact sd_send.trans settles.sd

theorem Visit.wil (visit : Visit g round n m after) (number : CString) :
    ((g.drained round n).store.files number).wil = (g.store.files number).wil := by
  rw [visit.drains.files]
  exact visit.delivers.wil number

theorem Visit.sd (visit : Visit g round n m after) : (g.drained round n).persistent.sd = g.persistent.sd :=
  visit.drains.sd.trans visit.delivers.sd

theorem Visit.registered (visit : Visit g round n m after)
    (remains : ((g.drained round n).store.nthClient i).clientStatus ≠ .empty) : (g.store.nthClient i).clientStatus ≠ .empty := by
  intro empty
  have number := visit.second.regular i remains
  have slots : g.store.SlotsOk := visit.visiting.sound.ok.slots
  rw [(visit.same i).fileNumber, (slots.fits i).emptied empty] at number
  exact fileNumber_ne_empty number.symm

theorem Visit.slotOfId {clientId : CString} (visit : Visit g round n m after)
    (remains : ((g.drained round n).store.nthClient i).clientStatus ≠ .empty) (found : g.store.slotOfId clientId = some i) :
    (g.drained round n).store.slotOfId clientId = some i :=
  visit.visiting.sound.ok.slots.slotOfId_congr visit.second.sound.ok.slots (fun i => (visit.same i).clientId) found remains

end Visits

theorem step_connect {input : Input} {duration : UInt16} {will clean : Bool} (sound : g.Sound)
    (made : input.request? = some (address, .connect clientId duration will clean)) (stepped : step g input = some after) :
    address ≠ .zero ∧ Connection (g.prepare input) clientId duration will clean address after := by
  obtain ⟨sender, bytes, beyond, event, rfl, request⟩ := Input.datagram_of_request made
  obtain ⟨_, handled⟩ := step_datagram event stepped
  rw [request] at handled
  have nonzero := sender.getDeviceAddress_ne_zero
  exact ⟨nonzero, handleConnect_connection (sound_prepare sound) nonzero handled⟩

theorem step_follows {input : Input} (orderly : g.Orderly) (alive : NoRevival g input)
    (idle : ∀ beat elapsed, input.event = .loop beat elapsed → g.persistent.isMqttsnOnline = false)
    (stepped : step g input = some after) (i : Nat) :
    Follows (g.AdmitsTo input i) (g.store.nthClient i) (after.store.nthClient i) := by
  have prepared : (g.prepare input).Orderly := orderly.prepare
  cases step_stepped stepped with
  | restart _ => exact .refl
  | @datagram sender bytes beyond after event _ handled =>
    have nonzero := sender.getDeviceAddress_ne_zero
    have same := Input.request_of_datagram event
    generalize Request.ofMemory (receiveBuffer bytes beyond) = request at handled same
    cases handle_requested prepared.sound nonzero handled with
    | connect connection =>
      refine Connection.follows (g := g.prepare input) connection prepared nonzero ?_ ?_
      · rintro rfl n found emptied
        exact alive _ _ same ⟨_, _, _, n, rfl, found, emptied⟩
      · exact fun online fits place => ⟨online, fits, _, _, _, same, place⟩
    | topics _ _ only =>
      rw [only.nthClient]
      exact .refl
    | acts acts settles =>
      rw [settles.store]
      rcases acts.entry prepared.sound prepared.regular nonzero i with unchanged | ⟨_, writes⟩
      · rw [unchanged]
        exact .refl
      · exact .goesOn writes.sameClient
  | brokerMessage _ _ published =>
    rw [nthClient_congr (publishFromBroker_receives prepared.sound.idle published).clients]
    exact .refl
  | loop event looped =>
    rcases (loop_disconnected prepared (idle _ _ event) looped).entries i with same | lost
    · rw [same]
      exact .refl
    · rw [lost]
      exact .goesOn ⟨rfl, rfl, rfl, rfl⟩
  | mqttConnect _ _ => exact .refl
  | mqttConnectionLost _ => exact .refl
  | socketLost _ => exact .refl
  | @socketBegin opened _ _ => cases opened <;> exact .refl

end Gateway

namespace Stage

variable {stage later : Stage} {moment : Moment}

/-- A CONNECT from the address is accepted, for this client id. -/
def ConnectsFrom (stage : Stage) (clientId : CString) (address : DeviceAddress) (moment : Moment) : Prop :=
  ∃ input, moment = .input input ∧ stage.gateway.AdmitsFrom input clientId address

def ConnectsTo (stage : Stage) (i : Nat) (clientId : CString) (address : DeviceAddress) (moment : Moment) : Prop :=
  ∃ input, moment = .input input ∧ stage.gateway.AdmitsTo input i clientId address

theorem ConnectsTo.connectsFrom {i : Nat} {clientId : CString} {address : DeviceAddress}
    (connects : stage.ConnectsTo i clientId address moment) : stage.ConnectsFrom clientId address moment := by
  obtain ⟨input, same, admits⟩ := connects
  exact ⟨input, same, admits.admitsFrom⟩

theorem ConnectsFrom.connects {clientId : CString} {address : DeviceAddress}
    (connects : stage.ConnectsFrom clientId address moment) : stage.Connects clientId moment := by
  obtain ⟨input, same, online, fits, duration, will, clean, made⟩ := connects
  exact ⟨input, same, online, fits, address, duration, will, clean, made⟩

theorem step_request {input : Input} {address : DeviceAddress} {request : Request}
    (made : input.request? = some (address, request)) (stepped : step stage (.input input) = some later) :
    Gateway.step stage.gateway input = some later.gateway := by
  obtain ⟨sender, bytes, beyond, event, _, _⟩ := Input.datagram_of_request made
  cases step_stepped stepped with
  | event _ _ taken => exact taken
  | disconnected _ other _ _ => cases event.symm.trans other
  | begun _ other _ _ => cases event.symm.trans other

theorem step_follows (orderly : stage.gateway.Orderly) (alive : NoRevival stage moment)
    (stepped : step stage moment = some later) (i : Nat) :
    Follows (fun clientId address => stage.ConnectsTo i clientId address moment) (stage.gateway.store.nthClient i)
      (later.gateway.store.nthClient i) := by
  cases step_stepped stepped with
  | event _ other taken =>
    have follows := Gateway.step_follows orderly (alive _ rfl) (fun beat elapsed event => absurd event (other beat elapsed))
      taken i
    exact follows.mono fun _ _ admits => ⟨_, rfl, admits⟩
  | disconnected _ _ offline taken =>
    have follows := Gateway.step_follows orderly (alive _ rfl) (fun _ _ _ => offline) taken i
    exact follows.mono fun _ _ admits => ⟨_, rfl, admits⟩
  | begun _ _ _ quiet =>
    rw [(quiet orderly.sound.idle).store]
    exact .refl
  | empty _ _ quiet =>
    rw [(quiet orderly.sound).store]
    exact .refl
  | @visit round _ under registered returned =>
    exact (Gateway.serviceClient_visits orderly.sound registered round.used.1 returned).follows orderly registered i

end Stage

end MqttSnGateway
