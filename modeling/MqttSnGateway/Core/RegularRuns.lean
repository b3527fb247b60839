import MqttSnGateway.Core.Regular
import MqttSnGateway.Steps

namespace MqttSnGateway

open Persistent Store

/-- The request of a datagram, with the address it comes from. -/
def Input.request? (input : Input) : Option (DeviceAddress × Request) :=
  match input.event with
  | .datagram sender bytes beyond => some (sender.getDeviceAddress, Request.ofMemory (receiveBuffer bytes beyond))
  | _ => none

theorem Input.request_of_datagram {input : Input} {sender : SockaddrIn} {bytes beyond : List UInt8}
    (event : input.event = .datagram sender bytes beyond) :
    input.request? = some (sender.getDeviceAddress, Request.ofMemory (receiveBuffer bytes beyond)) := by
  unfold request?
  rw [event]

theorem Input.datagram_of_request {input : Input} {address : DeviceAddress} {request : Request}
    (made : input.request? = some (address, request)) :
    ∃ sender bytes beyond, input.event = .datagram sender bytes beyond ∧ sender.getDeviceAddress = address ∧
      Request.ofMemory (receiveBuffer bytes beyond) = request := by
  unfold request? at made
  split at made
  · rename_i sender bytes beyond event
    cases made
    exact ⟨sender, bytes, beyond, event, rfl, rfl⟩
  · cases made

theorem Input.request_eq_none {input : Input} (other : ∀ sender bytes beyond, input.event ≠ .datagram sender bytes beyond) :
    input.request? = none := by
  unfold request?
  split
  · rename_i event
    exact absurd event (other _ _ _)
  · rfl

/-- The input is a CONNECT for a client id that `add_client` lets in. -/
def Gateway.Admits (g : Gateway) (input : Input) (clientId : CString) : Prop :=
  g.persistent.isMqttOnline = true ∧ clientId.length < 24 ∧
    ∃ address duration will clean, input.request? = some (address, .connect clientId duration will clean)

namespace Store

variable {s s' : Store} {clientId number : CString} {duration : UInt32} {clean : Bool} {address : DeviceAddress}
  {sd : SDLinuxFake} {n i : Nat}

/-- A CONNECT without clean session and with the empty client id finds an emptied slot: `reset_client` brings
    it to life without a file number. -/
def Revives (s : Store) (request : Request) : Prop :=
  ∃ clientId duration will n, request = .connect clientId duration will false ∧
    s.slotOfId clientId = some n ∧ (s.nthClient n).clientStatus = .empty

theorem Regular.congr (regular : s.Regular) (clients : s'.clients = s.clients) : s'.Regular := by
  intro n
  rw [nthClient_congr clients]
  exact regular n

theorem Regular.writeZero (regular : s.Regular) : (s.writeSlot n .zero).Regular := by
  intro i registered
  by_cases here : i = n
  · subst here
    rw [nthClient_writeSlot_self] at registered
    exact absurd rfl registered
  · rw [nthClient_writeSlot_ne here] at registered ⊢
    exact regular i registered

theorem Regular.deleteClient (regular : s.Regular) : (s.deleteClient sd number clientId).Regular := by
  rcases clients_deleteClient_cases with ⟨n, _, erased⟩ | same
  · exact Regular.congr regular.writeZero erased
  · exact regular.congr same

theorem Regular.cleared (regular : s.Regular) : (s.cleared clientId clean).Regular := by
  unfold Store.cleared
  split
  · split
    · exact regular.writeZero
    · exact regular
  · exact regular

theorem Entered.regular (entered : s.Entered clientId duration clean address s') (regular : s.Regular)
    (alive : clean = false → ∀ n, s.slotOfId clientId = some n → (s.nthClient n).clientStatus ≠ .empty) :
    s'.Regular := by
  intro i registered
  by_cases here : i = s.slotGiven clientId clean
  · subst here
    rcases entered.entry with entry | ⟨kept, found, entry⟩
    · rw [entry]
      rfl
    · rw [entry]
      exact regular _ (alive kept _ found)
  · rw [entered.others i here] at registered ⊢
    exact regular.cleared i registered

end Store

namespace Gateway

variable {g after : Gateway} {address : DeviceAddress} {clientId : CString} {duration : UInt16} {clean will : Bool}
  {n : Nat} {slot : EntryClient} {elapsed : UInt32}

theorem AddsClient.refused {result : CoreResult} (adds : AddsClient g clientId duration clean address result after)
    (refused : result ≠ .success) : g.Settles g.store after ∨ after = g := by
  cases adds with
  | offline _ => exact .inr rfl
  | long _ settles _ => exact .inl settles
  | new _ _ _ => exact absurd rfl refused
  | reset _ _ _ _ => exact absurd rfl refused
  | cleaned _ _ _ _ _ _ => exact absurd rfl refused

theorem AddsClient.unadmitted {result : CoreResult} (adds : AddsClient g clientId duration clean address result after)
    (refused : result ≠ .success) :
    after.store = g.store ∧ ¬ (g.persistent.isMqttOnline = true ∧ clientId.length < 24) := by
  cases adds with
  | offline offline => exact ⟨rfl, by simp [offline]⟩
  | long long settles _ => exact ⟨settles.store, by omega⟩
  | new _ _ _ => exact absurd rfl refused
  | reset _ _ _ _ => exact absurd rfl refused
  | cleaned _ _ _ _ _ _ => exact absurd rfl refused

theorem Connection.regular (connection : Connection g clientId duration will clean address after) (sound : g.Sound)
    (nonzero : address ≠ .zero) (regular : g.store.Regular)
    (alive : clean = false → ∀ n, g.store.slotOfId clientId = some n → (g.store.nthClient n).clientStatus ≠ .empty) :
    after.store.Regular := by
  cases connection with
  | rejected adds refused _ =>
    rw [store_send]
    rcases adds.refused refused with settles | rfl
    · rw [settles.store]
      exact regular
    · exact regular
  | accepted adds _ =>
    rw [store_send]
    exact adds.entered.regular regular alive
  | @asked between _ adds _ settles _ =>
    rw [store_send, settles.store]
    have second := adds.sound sound nonzero
    have touched : Touched address between.store (between.store.updateAt address fun entry =>
        { entry with awaitMessage := .willtopic }) := Touched.refl.entry (keeps_await .willtopic)
    have entered := adds.entered.regular regular alive
    exact (touched.actsAt second.ok entered nonzero).regular second.ok.slots nonzero entered

theorem Touches.regular (touches : g.Touches address after) (sound : g.Sound) (nonzero : address ≠ .zero)
    (regular : g.store.Regular) : after.store.Regular :=
  (touches.touched.actsAt sound.ok regular nonzero).regular sound.ok.slots nonzero regular

theorem TimesOut.regular (timesOut : TimesOut g slot elapsed after) (sound : g.Sound)
    (nonzero : slot.clientAddress ≠ .zero) (regular : g.store.Regular) : after.store.Regular := by
  cases timesOut with
  | disconnected _ => exact regular
  | running _ _ settles _ =>
    rw [settles.store]
    have touched : Touched slot.clientAddress g.store (g.store.updateAt slot.clientAddress fun entry =>
        { entry with timeout := slot.timeout + elapsed }) := Touched.refl.entry (keeps_timeout _)
    exact (touched.actsAt sound.ok regular nonzero).regular sound.ok.slots nonzero regular
  | lost _ _ _ settles _ =>
    rw [settles.store]
    have touched : Touched slot.clientAddress g.store (g.store.updateAt slot.clientAddress fun entry =>
        { entry with timeout := slot.timeout + elapsed, clientStatus := .lost }) := Touched.refl.entry (keeps_lost _)
    exact (touched.actsAt sound.ok regular nonzero).regular sound.ok.slots nonzero regular
  | deleted _ _ _ removal _ =>
    have touched : Touched slot.clientAddress g.store (g.store.updateAt slot.clientAddress fun entry =>
        { entry with timeout := slot.timeout + elapsed, clientStatus := .lost }) := Touched.refl.entry (keeps_lost _)
    have lost := (touched.actsAt sound.ok regular nonzero).regular sound.ok.slots nonzero regular
    exact (lost.congr removal.clients).deleteClient

theorem Visits.regular {drained : ClientStatus → Bool} {status : ClientStatus} {notice : SnMessage} {beaten : Bool}
    (visits : Visits drained status notice beaten elapsed n slot g after) (used : status ≠ .empty) (sound : g.Sound)
    (nonzero : slot.clientAddress ≠ .zero) (regular : g.store.Regular) : after.store.Regular := by
  obtain ⟨ready, touches, timesOut⟩ := visits.touches used
  have visiting : (g.visiting n).Sound := ⟨sound.idle, sound.ok⟩
  have second := touches.regular visiting nonzero regular
  cases beaten with
  | true => exact TimesOut.regular timesOut (touches.sound visiting nonzero) nonzero second
  | false =>
    have same : after = ready := timesOut
    rw [same]
    exact second

/-- No step of the run revives an emptied slot. -/
def NoRevival (g : Gateway) (input : Input) : Prop :=
  ∀ address request, input.request? = some (address, request) → ¬ g.store.Revives request

theorem step_regular {input : Input} (sound : g.Sound) (regular : g.store.Regular) (allowed : NoRevival g input)
    (stepped : step g input = some after) : after.store.Regular := by
  cases step_stepped stepped with
  | restart _ => exact regular
  | @datagram sender bytes beyond after event _ handled =>
    have nonzero := sender.getDeviceAddress_ne_zero
    have alive := allowed sender.getDeviceAddress (Request.ofMemory (receiveBuffer bytes beyond))
      (Input.request_of_datagram event)
    have handles := handle_handles (sound_prepare sound) nonzero handled
    generalize Request.ofMemory (receiveBuffer bytes beyond) = request at handles alive
    by_cases connects : ∃ clientId duration will clean, request = .connect clientId duration will clean
    · obtain ⟨clientId, duration, will, clean, rfl⟩ := connects
      refine Connection.regular handles (sound_prepare sound) nonzero regular ?_
      rintro rfl n found emptied
      exact alive ⟨clientId, duration, will, n, rfl, found, emptied⟩
    · refine (handles.actsAt (sound_prepare sound) regular nonzero ?_).regular sound.ok.slots nonzero regular
      exact fun clientId duration will clean same => connects ⟨clientId, duration, will, clean, same⟩
  | brokerMessage _ _ published =>
    exact regular.congr (publishFromBroker_receives (sound_prepare sound).idle published).clients
  | loop _ looped =>
    refine loop_invariant (I := fun g' => g'.store.Regular) (sound_prepare sound) regular
      (fun _ _ quiet kept => quiet.store ▸ kept) ?_ ?_ looped
    · intro drained status notice beaten time kind n g' g'' sound' _ registered visits kept
      exact visits.regular kind.used.1 sound' ((sound'.ok.slots.fits n).addressed registered) kept
    · intro n g' g'' sound' registered settles _ kept
      have nonzero := (sound'.ok.slots.fits n).addressed registered
      have touched : Touched (g'.store.nthClient n).clientAddress g'.store
          (g'.store.updateAt (g'.store.nthClient n).clientAddress fun entry => { entry with clientStatus := .lost }) :=
        Touched.refl.entry (keeps_status (by simp))
      rw [settles.store]
      exact (touched.actsAt sound'.ok kept nonzero).regular sound'.ok.slots nonzero kept
  | mqttConnect _ _ => exact regular
  | mqttConnectionLost _ => exact regular
  | socketLost _ => exact regular
  | @socketBegin opened _ _ => cases opened <;> exact regular

theorem regular_initial (start : initial g) : g.store.Regular := by
  obtain ⟨config, rfl⟩ := start
  exact fun n registered => absurd rfl registered

/-- Between two operations the gateway is sound and every client writes back to its own slot. -/
structure Orderly (g : Gateway) : Prop where
  sound : g.Sound
  regular : g.store.Regular

theorem Orderly.prepare {input : Input} (orderly : g.Orderly) : (g.prepare input).Orderly :=
  ⟨sound_prepare orderly.sound, orderly.regular⟩

/-- As long as no emptied slot is revived, the files of every client carry the number of its slot. -/
theorem orderly_of_run {allowed : Gateway → Input → Prop} (weaker : ∀ g input, allowed g input → NoRevival g input)
    (run : RunOf allowed g) : g.Orderly := by
  refine Runs.Run.invariant run (fun _ start => ⟨sound_initial start, regular_initial start⟩) ?_
  intro g input after kept meets stepped
  exact ⟨step_sound kept.sound stepped, step_regular kept.sound kept.regular (weaker g input meets) stepped⟩

end Gateway

end MqttSnGateway
