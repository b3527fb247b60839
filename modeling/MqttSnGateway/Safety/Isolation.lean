import MqttSnGateway.Core.RegularRuns
import MqttSnGateway.Datagrams

namespace MqttSnGateway

open Persistent Store

namespace Store

variable {s s' between : Store} {clientId : CString} {duration : UInt32} {clean : Bool} {address : DeviceAddress} {i n : Nat}

/-- The client that a datagram is about: the one with the id of a CONNECT, else the one its address selects. -/
def ActedOn (s : Store) (address : DeviceAddress) (request : Request) (i : Nat) : Prop :=
  match request with
  | .connect clientId _ _ _ => (s.nthClient i).clientId = clientId
  | _ => s.slotOfAddress address = some i

/-- The entries and files of all other registered clients are as before. -/
def Isolates (s s' : Store) (address : DeviceAddress) (request : Request) : Prop :=
  ∀ i, (s.nthClient i).clientStatus ≠ .empty → ¬ s.ActedOn address request i →
    s'.nthClient i = s.nthClient i ∧ s'.files (s.nthClient i).fileNumber = s.files (s.nthClient i).fileNumber

/-- The slot that a CONNECT is given is free or the client's own. -/
def TakesNoOther (s : Store) (clientId : CString) (clean : Bool) : Prop :=
  (s.nthClient (s.slotGiven clientId clean)).clientStatus = .empty ∨
    (s.nthClient (s.slotGiven clientId clean)).clientId = clientId

/-- No slot before the one given has the address, unless its client awaits WILLTOPIC already. -/
def AsksOwn (s : Store) (clientId : CString) (clean : Bool) (address : DeviceAddress) : Prop :=
  ∀ m < s.slotGiven clientId clean, ((s.cleared clientId clean).nthClient m).clientAddress = address →
    (∀ j < m, ((s.cleared clientId clean).nthClient j).clientAddress ≠ address) →
      (s.nthClient m).clientId = clientId ∨ (s.nthClient m).awaitMessage = .willtopic

theorem SlotsOk.nthClient_cleared (ok : s.SlotsOk) (other : (s.nthClient i).clientId ≠ clientId) :
    (s.cleared clientId clean).nthClient i = s.nthClient i := by
  unfold cleared
  split
  · rename_i n found
    split
    · rw [nthClient_writeSlot_ne]
      rintro rfl
      exact other (ok.slotOfId_eq_some.mp found).2.1
    · rfl
  · rfl

theorem Entered.other (entered : s.Entered clientId duration clean address s') (ok : s.SlotsOk) (regular : s.Regular)
    (free : s.TakesNoOther clientId clean) (registered : (s.nthClient i).clientStatus ≠ .empty)
    (other : (s.nthClient i).clientId ≠ clientId) :
    i ≠ s.slotGiven clientId clean ∧ s'.nthClient i = s.nthClient i ∧
      s'.files (s.nthClient i).fileNumber = s.files (s.nthClient i).fileNumber := by
  have elsewhere : i ≠ s.slotGiven clientId clean := by
    rintro rfl
    rcases free with empty | own
    · exact registered empty
    · exact other own
  refine ⟨elsewhere, ?_, ?_⟩
  · rw [entered.others i elsewhere, ok.nthClient_cleared other]
  · apply entered.files
    intro _ n found same
    have selected := ok.slotOfId_eq_some.mp found
    by_cases used : (s.nthClient n).clientStatus = .empty
    · rw [regular i registered, (ok.fits n).emptied used] at same
      exact fileNumber_ne_empty same
    · have equal := regular.number_inj ok registered used same
      subst equal
      exact other selected.2.1

theorem Entered.takesNoOther (entered : s.Entered clientId duration clean address between)
    (kept : (between.nthClient (s.slotGiven clientId clean)).clientId =
      (s'.nthClient (s.slotGiven clientId clean)).clientId)
    (isolates : ∀ i, (s.nthClient i).clientStatus ≠ .empty → (s.nthClient i).clientId ≠ clientId →
      s'.nthClient i = s.nthClient i) : s.TakesNoOther clientId clean := by
  by_contra taken
  unfold TakesNoOther at taken
  rw [not_or] at taken
  have same := isolates _ taken.1 taken.2
  rw [same, entered.clientId_eq] at kept
  exact taken.2 kept.symm

end Store

namespace Gateway

variable {g after between : Gateway} {clientId : CString} {duration : UInt16} {clean will : Bool}
  {address : DeviceAddress}

/-- A CONNECT that is let in takes no slot of another client and, with a will, asks its own client. -/
def KeepsOthers (g : Gateway) (address : DeviceAddress) (request : Request) : Prop :=
  match request with
  | .connect clientId _ will clean =>
    g.persistent.isMqttOnline = true → clientId.length < 24 →
      g.store.TakesNoOther clientId clean ∧ (will = true → g.store.AsksOwn clientId clean address)
  | _ => True

theorem AddsClient.admitted (adds : AddsClient g clientId duration clean address .success after) :
    g.persistent.isMqttOnline = true ∧ clientId.length < 24 := by
  cases adds with
  | new online fits _ => exact ⟨online, fits⟩
  | reset online fits _ _ => exact ⟨online, fits⟩
  | cleaned online fits _ _ _ _ => exact ⟨online, fits⟩

/-- The client that the address selects after a CONNECT has let `clientId` in, and which of its slots that is. -/
theorem Entered.asked {s b : Store} {milliseconds : UInt32} (entered : s.Entered clientId milliseconds clean address b)
    (ok : b.SlotsOk) (nonzero : address ≠ .zero) {m : Nat} (selected : b.slotOfAddress address = some m)
    (other : m ≠ s.slotGiven clientId clean) :
    m < s.slotGiven clientId clean ∧ ((s.cleared clientId clean).nthClient m).clientAddress = address ∧
      ∀ j < m, ((s.cleared clientId clean).nthClient j).clientAddress ≠ address := by
  obtain ⟨here, first⟩ := (ok.slotOfAddress_eq_some nonzero).mp selected
  have before : m < s.slotGiven clientId clean := by
    by_contra beyond
    exact first (s.slotGiven clientId clean) (by omega) entered.clientAddress_eq
  refine ⟨before, ?_, fun j earlier => ?_⟩
  · rw [← entered.others m other]
    exact here
  · rw [← entered.others j (by omega)]
    exact first j earlier

theorem Connection.isolates_iff (connection : Connection g clientId duration will clean address after)
    (orderly : g.Orderly) (nonzero : address ≠ .zero)
    (alive : clean = false → ∀ n, g.store.slotOfId clientId = some n → (g.store.nthClient n).clientStatus ≠ .empty) :
    g.store.Isolates after.store address (.connect clientId duration will clean) ↔
      g.KeepsOthers address (.connect clientId duration will clean) := by
  have ok := orderly.sound.ok.slots
  unfold Store.Isolates KeepsOthers ActedOn
  cases connection with
  | rejected adds refused _ =>
    obtain ⟨same, unadmitted⟩ := adds.unadmitted refused
    rw [store_send, same]
    constructor
    · exact fun _ online fits => absurd ⟨online, fits⟩ unadmitted
    · exact fun _ _ _ _ => ⟨rfl, rfl⟩
  | @accepted between adds unwilling =>
    have entered := adds.entered
    rw [store_send]
    constructor
    · intro isolates _ _
      refine ⟨entered.takesNoOther rfl fun i registered other => (isolates i registered other).1, fun willing => ?_⟩
      rw [unwilling] at willing
      cases willing
    · intro keeps i registered other
      have free := (keeps adds.admitted.1 adds.admitted.2).1
      exact (entered.other ok orderly.regular free registered other).2
  | @asked between last adds willing settles _ =>
    have entered := adds.entered
    have second := adds.sound orderly.sound nonzero
    have regular := entered.regular orderly.regular alive
    obtain ⟨m, reached, selected⟩ := second.ok.slots.slotOfAddress_here nonzero entered.clientAddress_eq
    have used := second.ok.slots.registered_of_slotOfAddress nonzero selected
    have written : last.store = between.store.writeSlot m { between.store.nthClient m with awaitMessage := .willtopic } := by
      rw [settles.store, updateAt_found selected]
      unfold setEntry
      rw [regular.slotNumber second.ok.slots used]
    rw [store_send, written]
    constructor
    · intro isolates _ _
      refine ⟨?_, fun _ => ?_⟩
      · apply entered.takesNoOther _ fun i registered other => (isolates i registered other).1
        rw [nthClient_writeSlot]
        split
        · rename_i here
          rw [here]
        · rfl
      · intro n before here first
        by_contra other
        rw [not_or] at other
        have slot : (g.store.cleared clientId clean).nthClient n = g.store.nthClient n := ok.nthClient_cleared other.1
        have registered : (g.store.nthClient n).clientStatus ≠ .empty := by
          intro empty
          rw [slot, (ok.fits n).emptied empty] at here
          exact nonzero here.symm
        have chosen : between.store.slotOfAddress address = some n := by
          apply (second.ok.slots.slotOfAddress_eq_some nonzero).mpr
          refine ⟨?_, fun j earlier => ?_⟩
          · rw [entered.others n (by omega)]
            exact here
          · rw [entered.others j (by omega)]
            exact first j earlier
        rw [selected, Option.some.injEq] at chosen
        subst chosen
        have same := (isolates m registered other.1).1
        rw [nthClient_writeSlot_self] at same
        exact other.2 (congrArg EntryClient.awaitMessage same).symm
    · intro keeps i registered other
      obtain ⟨free, asks⟩ := keeps adds.admitted.1 adds.admitted.2
      obtain ⟨elsewhere, entry, files⟩ := entered.other ok orderly.regular free registered other
      refine ⟨?_, files⟩
      by_cases here : i = m
      · subst here
        obtain ⟨before, address_here, first⟩ := Entered.asked entered second.ok.slots nonzero selected elsewhere
        rcases asks willing i before address_here first with own | awaits
        · exact absurd own other
        · rw [nthClient_writeSlot_self, entry, ← awaits]
      · rw [nthClient_writeSlot_ne here, entry]

/-- As long as no emptied slot was revived, a datagram isolates the clients it is not about exactly when it is no
    CONNECT that takes or asks another client. -/
theorem receiveData_isolates {sender : SockaddrIn} {bytes beyond : List UInt8} (run : RunOf NoRevival g)
    (alive : ¬ g.store.Revives (Request.ofMemory (receiveBuffer bytes beyond)))
    (received : receiveData pahoMqttMessageHandler g sender.getDeviceAddress (receiveBuffer bytes beyond) = some after) :
    g.store.Isolates after.store sender.getDeviceAddress (Request.ofMemory (receiveBuffer bytes beyond)) ↔
      g.KeepsOthers sender.getDeviceAddress (Request.ofMemory (receiveBuffer bytes beyond)) := by
  have orderly := orderly_of_run (fun _ _ => id) run
  have nonzero := sender.getDeviceAddress_ne_zero
  rw [receiveData_eq] at received
  generalize Request.ofMemory (receiveBuffer bytes beyond) = request at received alive ⊢
  have handles := handle_handles orderly.sound nonzero received
  by_cases connects : ∃ clientId duration will clean, request = .connect clientId duration will clean
  · obtain ⟨clientId, duration, will, clean, rfl⟩ := connects
    apply Connection.isolates_iff handles orderly nonzero
    rintro rfl n found emptied
    exact alive ⟨clientId, duration, will, n, rfl, found, emptied⟩
  · have other : ∀ clientId duration will clean, request ≠ .connect clientId duration will clean :=
      fun clientId duration will clean same => connects ⟨clientId, duration, will, clean, same⟩
    have acts := handles.actsAt orderly.sound orderly.regular nonzero other
    have keeps : g.KeepsOthers sender.getDeviceAddress request := by
      unfold KeepsOthers
      cases request with
      | connect clientId duration will clean => exact absurd rfl (other clientId duration will clean)
      | _ => trivial
    have acted : ∀ i, g.store.ActedOn sender.getDeviceAddress request i ↔
        g.store.slotOfAddress sender.getDeviceAddress = some i := by
      intro i
      unfold ActedOn
      cases request with
      | connect clientId duration will clean => exact absurd rfl (other clientId duration will clean)
      | _ => rfl
    refine ⟨fun _ => keeps, fun _ i registered unselected => ?_⟩
    rw [acted] at unselected
    refine ⟨acts.entries i unselected, acts.files _ ?_⟩
    cases selection : g.store.slotOfAddress sender.getDeviceAddress with
    | none =>
      unfold entryAt
      rw [selection, orderly.regular i registered]
      exact fileNumber_ne_empty
    | some n =>
      rw [entryAt_found selection]
      intro same
      have used := orderly.sound.ok.slots.registered_of_slotOfAddress nonzero selection
      have equal := orderly.regular.number_inj orderly.sound.ok.slots registered used same
      subst equal
      exact unselected selection

end Gateway

namespace Scenario

def anonymous : Gateway :=
  (run [47] [.mqttConnect, .datagram (client 1) (Datagram.connect .empty 10 0) []]).get (by decide +kernel)

theorem run_anonymous : Gateway.RunOf Gateway.NoRevival anonymous := by
  have first : (Gateway.start (configuration [47]) .empty).NoRevival ⟨.mqttConnect, [], []⟩ := by
    intro address request made
    cases made
  let connected := (Gateway.start (configuration [47]) .empty).mqttConnect
  have second : connected.NoRevival ⟨.datagram (client 1) (Datagram.connect .empty 10 0) [], [], []⟩ := by
    rintro address request _ ⟨clientId, duration, will, n, _, found, _⟩
    cases found
  refine .next (.next (.start ⟨configuration [47], rfl⟩) first rfl) second ?_
  exact (Option.some_get _).symm

theorem reachable_anonymous : anonymous.Reachable := reachable_run (Option.some_get _).symm

def displaced : Gateway :=
  (Gateway.receiveData pahoMqttMessageHandler anonymous (client 2).getDeviceAddress
    (receiveBuffer (Datagram.connect (name 66) 10 0) [])).get (by decide +kernel)

theorem receiveData_displaced :
    Gateway.receiveData pahoMqttMessageHandler anonymous (client 2).getDeviceAddress
      (receiveBuffer (Datagram.connect (name 66) 10 0) []) = some displaced := (Option.some_get _).symm

theorem ofMemory_displaced :
    Request.ofMemory (receiveBuffer (Datagram.connect (name 66) 10 0) []) = .connect (name 66) 10 false false := rfl

theorem receiveData_isolates_displaced :
    anonymous.store.Isolates displaced.store (client 2).getDeviceAddress
        (Request.ofMemory (receiveBuffer (Datagram.connect (name 66) 10 0) [])) ↔
      anonymous.KeepsOthers (client 2).getDeviceAddress
        (Request.ofMemory (receiveBuffer (Datagram.connect (name 66) 10 0) [])) := by
  apply Gateway.receiveData_isolates run_anonymous _ receiveData_displaced
  rw [ofMemory_displaced]
  rintro ⟨clientId, duration, will, n, same, found, _⟩
  cases same
  have missing : anonymous.store.slotOfId (name 66) = none := by decide +kernel
  rw [missing] at found
  cases found

/-- A client with an id of its own is given the slot of the one with the empty id. -/
theorem connect_takes_connected_slot :
    ¬ ∀ (g after : Gateway) (sender : SockaddrIn) (bytes beyond : List UInt8), g.Reachable →
      Gateway.receiveData pahoMqttMessageHandler g sender.getDeviceAddress (receiveBuffer bytes beyond) = some after →
      g.store.Isolates after.store sender.getDeviceAddress (Request.ofMemory (receiveBuffer bytes beyond)) := by
  intro claim
  have isolates := claim anonymous displaced (client 2) _ [] reachable_anonymous receiveData_displaced
  rw [ofMemory_displaced] at isolates
  have kept := (isolates 0 (by decide +kernel) (by
    unfold Store.ActedOn
    decide +kernel)).1
  have before : (anonymous.store.nthClient 0).clientId = .empty := by decide +kernel
  have after : (displaced.store.nthClient 0).clientId = name 66 := by decide +kernel
  rw [kept, before] at after
  cases after

end Scenario

end MqttSnGateway
