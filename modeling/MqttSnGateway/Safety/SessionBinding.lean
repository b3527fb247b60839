import MqttSnGateway.Core.Identity

namespace MqttSnGateway

open Persistent Store

namespace Store

variable {s s' : Store} {clientId : CString} {duration : UInt32} {clean : Bool} {address : DeviceAddress} {n : Nat}

/-- The client that a CONNECT lets in is the first in the registry with its address. -/
def EntersFirst (s : Store) (clientId : CString) (clean : Bool) (address : DeviceAddress) : Prop :=
  ∀ m < s.slotGiven clientId clean, ((s.cleared clientId clean).nthClient m).clientAddress ≠ address

instance : Decidable (s.EntersFirst clientId clean address) := inferInstanceAs (Decidable (∀ m < _, _))

/-- Slot `n` holds a client with this id, and its address selects it. -/
def Bound (s : Store) (n : Nat) (clientId : CString) (address : DeviceAddress) : Prop :=
  (s.nthClient n).clientId = clientId ∧ s.slotOfAddress address = some n

/-- Whose slot a client is given: its own, one without a client id, or slot 0 when none of 65536 is. -/
theorem SlotsOk.slotGiven_cases (ok : s.SlotsOk) :
    (s.nthClient (s.slotGiven clientId clean)).clientId = clientId ∨
      (s.nthClient (s.slotGiven clientId clean)).clientId = .empty ∨
      s.slotGiven clientId clean = 0 ∧ s.clients.length = 65536 := by
  unfold slotGiven
  cases found : s.slotOfId clientId with
  | none => exact .inr ok.findEmptyEntrySpace_cases.2
  | some m =>
    obtain ⟨inside, own, _⟩ := ok.slotOfId_eq_some.mp found
    cases clean with
    | false => exact .inl own
    | true =>
      have emptied : s.cleared clientId true = s.writeSlot m .zero := by
        unfold cleared
        rw [found]
        rfl
      have short := ok.short
      have wellFormed : (s.writeSlot m .zero).SlotsOk := ok.writeSlot (by omega) zero_fits fun given => absurd rfl given
      simp only [if_true]
      rw [emptied]
      by_cases here : (s.writeSlot m .zero).findEmptyEntrySpace = m
      · rw [here]
        exact .inl own
      · have given := wellFormed.findEmptyEntrySpace_cases.2
        rw [nthClient_writeSlot_ne here, length_writeSlot] at given
        rcases given with free | ⟨zero, full⟩
        · exact .inr (.inl free)
        · refine .inr (.inr ⟨zero, ?_⟩)
          omega

theorem Entered.bound_iff (entered : s.Entered clientId duration clean address s') (ok : s'.SlotsOk)
    (nonzero : address ≠ .zero) :
    s'.Bound (s.slotGiven clientId clean) clientId address ↔ s.EntersFirst clientId clean address := by
  unfold Bound EntersFirst
  rw [ok.slotOfAddress_eq_some nonzero]
  constructor
  · intro ⟨_, _, first⟩ m before
    rw [← entered.others m (by omega)]
    exact first m before
  · intro first
    refine ⟨entered.clientId_eq, entered.clientAddress_eq, fun m before => ?_⟩
    rw [entered.others m (by omega)]
    exact first m before

end Store

namespace Gateway

variable {g after : Gateway} {clientId : CString} {duration : UInt16} {will clean : Bool} {address : DeviceAddress}

/-- An accepted CONNECT binds its address to its client exactly if no other client is found first. -/
theorem Connection.bound_iff (connection : Connection g clientId duration will clean address after) (orderly : g.Orderly)
    (nonzero : address ≠ .zero) (online : g.persistent.isMqttOnline = true) (fits : clientId.length < 24)
    (alive : clean = false → ∀ n, g.store.slotOfId clientId = some n → (g.store.nthClient n).clientStatus ≠ .empty) :
    after.store.Bound (g.store.slotGiven clientId clean) clientId address ↔ g.store.EntersFirst clientId clean address := by
  cases connection with
  | rejected adds refused _ =>
    cases adds with
    | offline offline => exact absurd (online.symm.trans offline) (by simp)
    | long long _ _ => omega
    | new _ _ _ => exact absurd rfl refused
    | reset _ _ _ _ => exact absurd rfl refused
    | cleaned _ _ _ _ _ _ => exact absurd rfl refused
  | accepted adds _ =>
    rw [store_send]
    exact adds.entered.bound_iff (adds.sound orderly.sound nonzero).ok.slots nonzero
  | @asked between last adds _ settles _ =>
    have second := adds.sound orderly.sound nonzero
    have regular := adds.entered.regular orderly.regular alive
    have kept : (between.store.updateAt address fun entry => { entry with awaitMessage := .willtopic }).SlotsOk :=
      (second.ok.updateAt nonzero (keeps_await _)).slots
    have selection := second.ok.slots.slotOfAddress_congr kept nonzero fun i =>
      regular.updateAt_keeps (i := i) EntryClient.clientAddress second.ok.slots nonzero fun _ => rfl
    rw [← adds.entered.bound_iff second.ok.slots nonzero, store_send, settles.store]
    have sameId : ((between.store.updateAt address fun entry => { entry with awaitMessage := .willtopic }).nthClient
        (g.store.slotGiven clientId clean)).clientId =
        (between.store.nthClient (g.store.slotGiven clientId clean)).clientId :=
      regular.updateAt_keeps EntryClient.clientId second.ok.slots nonzero fun _ => rfl
    unfold Bound
    rw [selection, sameId]

end Gateway

namespace Stage

variable {stage between later : Stage} {moment : Moment} {clientId : CString} {address : DeviceAddress} {n : Nat}

/-- A step in which no CONNECT from the client's address or with its id is accepted, none of another client is given its
    slot `n`, and it is not deleted. -/
structure Undisturbed (n : Nat) (clientId : CString) (address : DeviceAddress) (stage : Stage) (moment : Moment) :
    Prop where
  alive : NoRevival stage moment
  unshared : ∀ other, ¬ stage.ConnectsFrom other address moment
  unentered : ¬ stage.Connects clientId moment
  ungiven : ∀ other sender, ¬ stage.ConnectsTo n other sender moment
  undeleted : ∀ later, step stage moment = some later → (later.gateway.store.nthClient n).clientStatus ≠ .empty

/-- Another client is given the slot of a client only if the client has no id, or no slot is left. -/
theorem ConnectsTo.overwrites {other : CString} {sender : DeviceAddress} (connects : stage.ConnectsTo n other sender moment)
    (orderly : stage.gateway.Orderly) (bound : stage.gateway.store.Bound n clientId address)
    (unentered : ¬ stage.Connects clientId moment) :
    clientId = .empty ∨ n = 0 ∧ stage.gateway.store.clients.length = 65536 := by
  have entered := connects.connectsFrom.connects
  obtain ⟨_, _, _, _, _, _, clean, _, place⟩ := connects
  have given : (stage.gateway.store.nthClient (stage.gateway.store.slotGiven other clean)).clientId = other ∨
      (stage.gateway.store.nthClient (stage.gateway.store.slotGiven other clean)).clientId = .empty ∨
      stage.gateway.store.slotGiven other clean = 0 ∧ stage.gateway.store.clients.length = 65536 :=
    orderly.sound.ok.slots.slotGiven_cases
  rw [place, bound.1] at given
  rcases given with same | free | full
  · rw [← same] at entered
    exact absurd entered unentered
  · exact .inl free
  · exact .inr full

theorem Undisturbed.bound (undisturbed : Undisturbed n clientId address stage moment) (orderly : stage.gateway.Orderly)
    (nonzero : address ≠ .zero) (bound : stage.gateway.store.Bound n clientId address)
    (stepped : step stage moment = some later) : later.gateway.store.Bound n clientId address := by
  have follows := step_follows orderly undisturbed.alive stepped
  have sound := step_sound orderly.sound stepped
  obtain ⟨here, first⟩ := (orderly.sound.ok.slots.slotOfAddress_eq_some nonzero).mp bound.2
  have same : (stage.gateway.store.nthClient n).SameClient (later.gateway.store.nthClient n) := by
    cases follows n with
    | goesOn same => exact same
    | erased zero =>
      have registered := undisturbed.undeleted later stepped
      rw [zero] at registered
      exact absurd rfl registered
    | entered admitted => exact absurd admitted (undisturbed.ungiven _ _)
  refine ⟨same.clientId.trans bound.1, (sound.ok.slots.slotOfAddress_eq_some nonzero).mpr ⟨?_, fun m before => ?_⟩⟩
  · rw [same.clientAddress, here]
  · intro same
    cases follows m with
    | goesOn client => exact first m before (client.clientAddress.symm.trans same)
    | erased zero =>
      rw [zero] at same
      exact nonzero same.symm
    | entered admitted =>
      have connects := admitted.connectsFrom
      rw [same] at connects
      exact undisturbed.unshared _ connects

/-- From an accepted CONNECT on, as long as nothing disturbs the client, its address selects it, exactly if no client
    in a lower slot had the address already. -/
theorem session_binding {input : Input} {duration : UInt16} {will clean : Bool} (run : RunOf NoRevival stage)
    (alive : NoRevival stage (.input input))
    (made : input.request? = some (address, .connect clientId duration will clean))
    (online : stage.gateway.persistent.isMqttOnline = true) (fits : clientId.length < 24)
    (stepped : step stage (.input input) = some between) :
    (∀ later, Runs.Run step (Undisturbed (stage.gateway.store.slotGiven clientId clean) clientId address)
        (fun stage' => stage' = between) later →
      later.gateway.store.Bound (stage.gateway.store.slotGiven clientId clean) clientId address) ↔
    stage.gateway.store.EntersFirst clientId clean address := by
  have orderly := orderly_of_run (fun _ _ meets => meets) run
  have second := step_orderly orderly alive stepped
  have prepared : (stage.gateway.prepare input).Orderly := orderly.prepare
  obtain ⟨nonzero, connection⟩ := Gateway.step_connect orderly.sound made (step_request made stepped)
  have connected : between.gateway.store.Bound (stage.gateway.store.slotGiven clientId clean) clientId address ↔
      stage.gateway.store.EntersFirst clientId clean address := by
    refine connection.bound_iff prepared nonzero online fits ?_
    rintro rfl n found emptied
    exact alive input rfl address _ made ⟨clientId, duration, will, n, rfl, found, emptied⟩
  constructor
  · exact fun bound => connected.mp (bound between (.start rfl))
  · intro first later continued
    have kept : later.gateway.Orderly ∧
        later.gateway.store.Bound (stage.gateway.store.slotGiven clientId clean) clientId address := by
      induction continued with
      | start same =>
        rw [same]
        exact ⟨second, connected.mpr first⟩
      | next _ meets taken ih =>
        exact ⟨step_orderly ih.1 meets.alive taken, meets.bound ih.1 nonzero ih.2 taken⟩
    exact kept.2

end Stage

namespace Scenario

def shared : Stage :=
  (Stage.step registered (event (.datagram (client 1) (Datagram.connect (name 66) 10 0) []))).get (by decide +kernel)

def twoClients : Stage :=
  (Stage.step registered (event (.datagram (client 2) (Datagram.connect (name 66) 10 0) []))).get (by decide +kernel)

def threeClients : Stage :=
  (Stage.step twoClients (event (.datagram (client 3) (Datagram.connect (name 67) 10 0) []))).get (by decide +kernel)

theorem unrevived_connect {stage : Stage} {sender : SockaddrIn} {id : UInt8}
    (unknown : ∀ clientId duration will, Request.ofMemory (receiveBuffer (Datagram.connect (name id) 10 0) []) =
      .connect clientId duration will false → stage.gateway.store.slotOfId clientId = none) :
    stage.NoRevival (event (.datagram sender (Datagram.connect (name id) 10 0) [])) := by
  rintro _ same address request made ⟨clientId, duration, will, n, rfl, found, _⟩
  cases same
  have asked := congrArg (Option.map Prod.snd) made
  cases (unknown clientId duration will (Option.some.inj asked)).symm.trans found

theorem session_binding_thirdClient :
    (∀ later, Runs.Run Stage.step (Stage.Undisturbed 2 (name 67) (client 3).getDeviceAddress)
        (fun stage => stage = threeClients) later →
      later.gateway.store.Bound 2 (name 67) (client 3).getDeviceAddress) ↔
    twoClients.gateway.store.EntersFirst (name 67) false (client 3).getDeviceAddress := by
  have first : Stage.RunOf Stage.NoRevival online :=
    .next (.start ⟨⟨configuration [47], rfl⟩, rfl⟩) (by
      rintro _ same _ _ made
      cases same
      cases made) (Option.some_get _).symm
  have second : Stage.RunOf Stage.NoRevival twoClients := by
    refine .next (.next first (unrevived_connect ?_) (Option.some_get _).symm) (unrevived_connect ?_) (Option.some_get _).symm
    · intro clientId duration will asked
      cases asked
      rfl
    · intro clientId duration will asked
      cases asked
      decide +kernel
  have stepped : Stage.step twoClients (event (.datagram (client 3) (Datagram.connect (name 67) 10 0) [])) =
    some threeClients := (Option.some_get _).symm
  refine Stage.session_binding second (unrevived_connect ?_) rfl (by decide +kernel)
    (by decide : (name 67).length < 24) stepped
  intro clientId duration will asked
  cases asked
  decide +kernel

/-- From then on the address selects the first client, although the second was the last to connect from it. -/
theorem sharedAddress_misleads :
    ¬ ∀ (stage between : Stage) (input : Input) (address : DeviceAddress) (clientId : CString) (duration : UInt16)
      (will clean : Bool), Stage.RunOf (fun _ _ => True) stage →
      input.request? = some (address, .connect clientId duration will clean) →
      stage.gateway.persistent.isMqttOnline = true → clientId.length < 24 →
      stage.step (.input input) = some between →
      ∀ n, between.gateway.store.slotOfAddress address = some n →
        (between.gateway.store.nthClient n).clientId = clientId := by
  intro claim
  have started : Stage.RunOf (fun _ _ => True) started := .start ⟨⟨configuration [47], rfl⟩, rfl⟩
  have reached : Stage.RunOf (fun _ _ => True) registered :=
    .next (.next started trivial (Option.some_get _).symm) trivial (Option.some_get _).symm
  have stepped : Stage.step registered (event (.datagram (client 1) (Datagram.connect (name 66) 10 0) [])) = some shared :=
    (Option.some_get _).symm
  have selects := claim registered shared _ (client 1).getDeviceAddress (name 66) 10 false false reached rfl
    (by decide +kernel) (by decide) stepped 0 (by decide +kernel)
  have first : (shared.gateway.store.nthClient 0).clientId = name 65 := by decide +kernel
  rw [first] at selects
  exact absurd selects (by decide)

end Scenario

end MqttSnGateway
