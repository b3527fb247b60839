import MqttSnGateway.Core.Identity

namespace MqttSnGateway

open Persistent Store

namespace Store

variable {s s' : Store} {clientId : CString} {duration : UInt32} {clean : Bool} {address : DeviceAddress} {n : Nat}

/-- No two clients have the same address. -/
def Unshared (s : Store) : Prop :=
  ∀ i j, (s.nthClient i).clientAddress = (s.nthClient j).clientAddress → (s.nthClient i).clientAddress ≠ .zero → i = j

/-- The client that a CONNECT lets in is the only one in the registry with its address. -/
def EntersAlone (s : Store) (clientId : CString) (clean : Bool) (address : DeviceAddress) : Prop :=
  ∀ m, m ≠ s.slotGiven clientId clean → ((s.cleared clientId clean).nthClient m).clientAddress ≠ address

theorem EntersAlone.of_listed (nonzero : address ≠ .zero)
    (listed : ∀ m < (s.cleared clientId clean).clients.length, m ≠ s.slotGiven clientId clean →
      ((s.cleared clientId clean).nthClient m).clientAddress ≠ address) : s.EntersAlone clientId clean address := by
  intro m other same
  by_cases inside : m < (s.cleared clientId clean).clients.length
  · exact listed m inside other same
  · have beyond : (s.cleared clientId clean).nthClient m = .zero := by
      by_contra used
      exact inside (inside_of_ne_zero used)
    rw [beyond] at same
    exact nonzero same.symm

theorem Unshared.slotOfAddress (unshared : s.Unshared) (ok : s.SlotsOk)
    (nonzero : (s.nthClient n).clientAddress ≠ .zero) : s.slotOfAddress (s.nthClient n).clientAddress = some n := by
  refine (ok.slotOfAddress_eq_some nonzero).mpr ⟨rfl, fun m before same => ?_⟩
  have here := unshared m n same (same ▸ nonzero)
  omega

theorem Unshared.selected_iff (unshared : s.Unshared) (ok : s.SlotsOk) (nonzero : address ≠ .zero) :
    s.slotOfAddress address = some n ↔ (s.nthClient n).clientAddress = address := by
  constructor
  · exact fun found => ((ok.slotOfAddress_eq_some nonzero).mp found).1
  · rintro rfl
    exact unshared.slotOfAddress ok nonzero

theorem Unshared.of_kept (unshared : s.Unshared)
    (kept : ∀ i, (s'.nthClient i).clientAddress = (s.nthClient i).clientAddress ∨
      (s'.nthClient i).clientAddress = .zero) : s'.Unshared := by
  intro i j same nonzero
  have first := (kept i).resolve_right nonzero
  have second := (kept j).resolve_right (same ▸ nonzero)
  rw [first, second] at same
  rw [first] at nonzero
  exact unshared i j same nonzero

theorem Unshared.cleared (unshared : s.Unshared) : (s.cleared clientId clean).Unshared := by
  refine unshared.of_kept fun i => ?_
  unfold Store.cleared
  split
  · split
    · rw [nthClient_writeSlot]
      split
      · exact .inr rfl
      · exact .inl rfl
    · exact .inl rfl
  · exact .inl rfl

theorem Entered.unshared (entered : s.Entered clientId duration clean address s') (unshared : s.Unshared)
    (alone : s.EntersAlone clientId clean address) : s'.Unshared := by
  intro i j same nonzero
  by_cases first : i = s.slotGiven clientId clean
  · by_cases second : j = s.slotGiven clientId clean
    · rw [first, second]
    · rw [first, entered.clientAddress_eq, entered.others j second] at same
      exact absurd same.symm (alone j second)
  · rw [entered.others i first] at same nonzero
    by_cases second : j = s.slotGiven clientId clean
    · rw [second, entered.clientAddress_eq] at same
      exact absurd same (alone i first)
    · rw [entered.others j second] at same
      exact unshared.cleared i j same nonzero

end Store

namespace Gateway

variable {g after : Gateway} {clientId : CString} {duration : UInt16} {will clean : Bool} {address : DeviceAddress}

/-- The gateway is in order and its clients have addresses of their own. -/
structure Separate (g : Gateway) : Prop where
  orderly : g.Orderly
  unshared : g.store.Unshared

theorem Separate.selected {n : Nat} (separate : g.Separate) (registered : (g.store.nthClient n).clientStatus ≠ .empty) :
    g.store.slotOfAddress (g.store.nthClient n).clientAddress = some n := by
  have slots := separate.orderly.sound.ok.slots
  exact separate.unshared.slotOfAddress slots ((slots.fits n).addressed registered)

theorem Separate.visit {round : Round} {n : Nat} (separate : g.Separate)
    (registered : (g.store.nthClient n).clientStatus ≠ .empty)
    (returned : round.body n (g.store.nthClient n) g = some after) : Visit g round n n after :=
  body_visit separate.orderly registered (separate.selected registered) returned

theorem Connection.unshared (connection : Connection g clientId duration will clean address after) (orderly : g.Orderly)
    (nonzero : address ≠ .zero) (unshared : g.store.Unshared)
    (alive : clean = false → ∀ n, g.store.slotOfId clientId = some n → (g.store.nthClient n).clientStatus ≠ .empty)
    (alone : g.persistent.isMqttOnline = true → clientId.length < 24 → g.store.EntersAlone clientId clean address) :
    after.store.Unshared := by
  cases connection with
  | rejected adds refused _ =>
    rw [store_send]
    rcases adds.refused refused with settles | rfl
    · rw [settles.store]
      exact unshared
    · exact unshared
  | accepted adds _ =>
    rw [store_send]
    exact adds.entered.unshared unshared (alone adds.online.1 adds.online.2)
  | @asked between _ adds _ settles _ =>
    have second := adds.sound orderly.sound nonzero
    have regular := adds.entered.regular orderly.regular alive
    have entered := adds.entered.unshared unshared (alone adds.online.1 adds.online.2)
    rw [store_send, settles.store]
    exact entered.of_kept fun i =>
      .inl (regular.updateAt_keeps EntryClient.clientAddress second.ok.slots nonzero fun _ => rfl)

theorem separate_initial (start : initial g) : g.Separate := by
  refine ⟨⟨sound_initial start, regular_initial start⟩, ?_⟩
  obtain ⟨config, rfl⟩ := start
  exact fun i j _ nonzero => absurd rfl nonzero

end Gateway

namespace Stage

variable {stage later : Stage} {moment : Moment}

/-- No emptied slot is revived, and no CONNECT is accepted from an address that another client has. -/
structure Separating (stage : Stage) (moment : Moment) : Prop where
  alive : NoRevival stage moment
  alone : ∀ input clientId duration will clean address, moment = .input input →
    input.request? = some (address, .connect clientId duration will clean) →
    stage.gateway.persistent.isMqttOnline = true → clientId.length < 24 →
    stage.gateway.store.EntersAlone clientId clean address

theorem step_separate (separate : stage.gateway.Separate) (separating : Separating stage moment)
    (stepped : step stage moment = some later) : later.gateway.Separate := by
  have orderly := separate.orderly
  refine ⟨step_orderly orderly separating.alive stepped, ?_⟩
  by_cases connects : ∃ clientId address, stage.ConnectsFrom clientId address moment
  · obtain ⟨clientId, address, input, rfl, online, fits, duration, will, clean, made⟩ := connects
    obtain ⟨nonzero, connection⟩ := Gateway.step_connect orderly.sound made (step_request made stepped)
    have prepared : (stage.gateway.prepare input).Orderly := orderly.prepare
    refine connection.unshared prepared nonzero separate.unshared ?_ ?_
    · rintro rfl n found emptied
      exact separating.alive input rfl address _ made ⟨clientId, duration, will, n, rfl, found, emptied⟩
    · exact separating.alone input clientId duration will clean address rfl made
  · refine separate.unshared.of_kept fun i => ?_
    cases step_follows orderly separating.alive stepped i with
    | goesOn same => exact .inl same.clientAddress
    | erased zero =>
      rw [zero]
      exact .inr rfl
    | entered admitted => exact absurd ⟨_, _, admitted.connectsFrom⟩ connects

end Stage

namespace Scenario

theorem separating_event {stage : Stage} {input : Event}
    (unconnected : ∀ address clientId duration will clean,
      Input.request? ⟨input, [], []⟩ ≠ some (address, .connect clientId duration will clean)) :
    stage.Separating (event input) := by
  refine ⟨?_, ?_⟩
  · rintro _ same address request made ⟨clientId, duration, will, n, rfl, _, _⟩
    cases same
    exact unconnected _ _ _ _ _ made
  · intro _ clientId duration will clean address same made
    cases same
    exact absurd made (unconnected _ _ _ _ _)

theorem separating_connect {stage : Stage} {sender : SockaddrIn} {bytes : List UInt8} {clientId : CString}
    {duration : UInt16} {will clean : Bool}
    (connect : Request.ofMemory (receiveBuffer bytes []) = .connect clientId duration will clean)
    (unknown : stage.gateway.store.slotOfId clientId = none)
    (listed : ∀ m < (stage.gateway.store.cleared clientId clean).clients.length,
      m ≠ stage.gateway.store.slotGiven clientId clean →
      ((stage.gateway.store.cleared clientId clean).nthClient m).clientAddress ≠ sender.getDeviceAddress) :
    stage.Separating (event (.datagram sender bytes [])) := by
  have made : Input.request? ⟨.datagram sender bytes [], [], []⟩ =
      some (sender.getDeviceAddress, .connect clientId duration will clean) := by
    rw [← connect]
    rfl
  constructor
  · rintro _ same address request asked ⟨id, _, _, n, rfl, found, _⟩
    cases same
    cases made.symm.trans asked
    cases unknown.symm.trans found
  · intro _ id _ _ _ address same asked _ _
    cases same
    cases made.symm.trans asked
    exact EntersAlone.of_listed sender.getDeviceAddress_ne_zero listed

end Scenario

end MqttSnGateway
