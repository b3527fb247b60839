import MqttSnGateway.Core.Identity

namespace MqttSnGateway

open Persistent Store

/-- A change of an entry that wakes nobody up. -/
def Stills (f : EntryClient → EntryClient) : Prop :=
  ∀ entry : EntryClient, (f entry).clientId = entry.clientId ∧
    ((f entry).clientStatus = .awake → entry.clientStatus = .awake)

theorem stills_await (type : MessageType) : Stills fun entry => { entry with awaitMessage := type } :=
  fun _ => ⟨rfl, id⟩

theorem stills_timeout (timeout : UInt32) : Stills fun entry => { entry with timeout := timeout } :=
  fun _ => ⟨rfl, id⟩

theorem stills_status {status : ClientStatus} (other : status ≠ .awake) :
    Stills fun entry => { entry with clientStatus := status } :=
  fun _ => ⟨rfl, fun same => absurd same other⟩

theorem stills_lost (timeout : UInt32) :
    Stills fun entry => { entry with timeout := timeout, clientStatus := .lost } :=
  fun _ => ⟨rfl, nofun⟩

namespace Store

variable {s s' s'' : Store} {n : Nat} {entry : EntryClient} {address : DeviceAddress} {f : EntryClient → EntryClient}

/-- A client with this id is stored as awake. -/
def AwakeAs (s : Store) (clientId : CString) : Prop :=
  ∃ i, (s.nthClient i).clientId = clientId ∧ (s.nthClient i).clientStatus = .awake

def Calms (s s' : Store) : Prop := ∀ clientId, s'.AwakeAs clientId → s.AwakeAs clientId

theorem Calms.refl : s.Calms s := fun _ awake => awake

theorem Calms.trans (first : s.Calms s') (second : s'.Calms s'') : s.Calms s'' :=
  fun clientId awake => first clientId (second clientId awake)

theorem calms_of_clients (clients : s'.clients = s.clients) : s.Calms s' := by
  intro clientId ⟨i, same, awake⟩
  rw [nthClient_congr clients] at same awake
  exact ⟨i, same, awake⟩

theorem calms_writeSlot (still : entry.clientStatus = .awake → s.AwakeAs entry.clientId) :
    s.Calms (s.writeSlot n entry) := by
  intro clientId ⟨i, same, awake⟩
  rw [nthClient_writeSlot] at same awake
  split at same
  · rename_i here
    rw [if_pos here] at awake
    rw [← same]
    exact still awake
  · rename_i other
    rw [if_neg other] at awake
    exact ⟨i, same, awake⟩

theorem calms_setEntry (stills : Stills f) : s.Calms (s.setEntry n f) := by
  apply calms_writeSlot
  intro awake
  obtain ⟨same, still⟩ := stills (s.nthClient n)
  exact ⟨n, same.symm, still awake⟩

theorem calms_updateAt (stills : Stills f) : s.Calms (s.updateAt address f) := by
  cases selection : s.slotOfAddress address with
  | none =>
    rw [updateAt_missing selection]
    exact Calms.refl
  | some n =>
    rw [updateAt_found selection]
    exact calms_setEntry stills

theorem calms_filesAt {h : ClientFiles → ClientFiles} : s.Calms (s.filesAt address h) := by
  apply calms_of_clients
  unfold filesAt
  split <;> rfl

theorem calms_deleteClient {sd : SDLinuxFake} {number clientId : CString} : s.Calms (s.deleteClient sd number clientId) := by
  rcases clients_deleteClient_cases with ⟨n, _, erased⟩ | same
  · have calm : s.Calms (s.writeSlot n .zero) := calms_writeSlot nofun
    exact calm.trans (calms_of_clients erased)
  · exact calms_of_clients same

theorem Entered.calms {clientId : CString} {duration : UInt32} {clean : Bool}
    (entered : s.Entered clientId duration clean address s') : s.Calms s' := by
  intro other ⟨i, same, awake⟩
  by_cases here : i = s.slotGiven clientId clean
  · rw [here, entered.clientStatus_eq] at awake
    cases awake
  · rw [entered.others i here] at same awake
    rcases cleared_cases s clientId clean i with ⟨kept, _⟩ | zero
    · rw [kept] at same awake
      exact ⟨i, same, awake⟩
    · rw [zero] at awake
      cases awake

end Store

namespace Gateway

variable {g after : Gateway} {address : DeviceAddress} {clientId : CString} {n : Nat}

theorem Connection.calms {id : CString} {duration : UInt16} {will clean : Bool}
    (connection : Connection g id duration will clean address after) : g.store.Calms after.store := by
  cases connection with
  | rejected adds refused _ =>
    rw [store_send]
    rcases adds.refused refused with settles | same
    · rw [settles.store]
      exact Calms.refl
    · rw [same]
      exact Calms.refl
  | accepted adds _ =>
    rw [store_send]
    exact adds.entered.calms
  | asked adds _ settles _ =>
    rw [store_send, settles.store]
    exact adds.entered.calms.trans (calms_updateAt (stills_await _))

theorem Delivery.calms (delivery : Delivery g address after) : g.store.Calms after.store := by
  cases delivery with
  | nothing settles _ =>
    rw [settles.store]
    exact Calms.refl
  | register settles _ =>
    rw [store_send, settles.store]
    exact calms_updateAt (stills_await _)
  | publish _ settles _ =>
    rw [store_send, settles.store]
    exact calms_filesAt
  | publishAwaited _ settles _ =>
    rw [store_send, settles.store]
    exact calms_filesAt.trans (calms_updateAt (stills_await _))

theorem Drained.calms {drains : Bool} {status : ClientStatus} {notice : SnMessage} (other : status ≠ .awake)
    (drained : Drained g drains status notice address after) : g.store.Calms after.store := by
  cases drained with
  | kept settles _ =>
    rw [settles.store]
    exact Calms.refl
  | changed _ settles _ =>
    rw [store_send, settles.store]
    exact calms_updateAt (stills_status other)

theorem TimesOut.calms {slot : EntryClient} {elapsed : UInt32} (timesOut : TimesOut g slot elapsed after) :
    g.store.Calms after.store := by
  cases timesOut with
  | disconnected _ => exact Calms.refl
  | running _ _ settles _ =>
    rw [settles.store]
    exact calms_updateAt (stills_timeout _)
  | lost _ _ _ settles _ =>
    rw [settles.store]
    exact calms_updateAt (stills_lost _)
  | deleted _ _ _ removal _ =>
    have lost : g.store.Calms (g.store.updateAt slot.clientAddress fun entry =>
        { entry with timeout := slot.timeout + elapsed, clientStatus := .lost }) := calms_updateAt (stills_lost _)
    exact (lost.trans (calms_of_clients removal.clients)).trans calms_deleteClient

theorem Visits.calms {drained : ClientStatus → Bool} {status : ClientStatus} {notice : SnMessage} {beaten : Bool}
    {elapsed : UInt32} {slot : EntryClient} (other : status ≠ .awake)
    (visits : Visits drained status notice beaten elapsed n slot g after) : g.store.Calms after.store := by
  obtain ⟨delivered, ready, delivery, drains, timesOut⟩ := visits
  have ended : g.store.Calms ready.store := Calms.trans (s := (g.visiting n).store) delivery.calms (drains.calms other)
  cases beaten with
  | false =>
    have same : after = ready := timesOut
    rw [same]
    exact ended
  | true =>
    have last : TimesOut ready slot elapsed after := timesOut
    exact ended.trans last.calms

/-- The PINGREQ of a sleeping client is accepted. -/
def Wakes (g : Gateway) (address : DeviceAddress) (clientId : CString) (request : Request) : Prop :=
  ∃ id n, request = .pingreqWithId id ∧ g.store.slotOfAddress address = some n ∧ (g.store.nthClient n).clientId = clientId

theorem Acts.awakeAs {request : Request} {s : Store} (acts : Acts g address request s) (awake : s.AwakeAs clientId) :
    g.store.AwakeAs clientId ∨ g.Wakes address clientId request := by
  cases acts with
  | awake found =>
    obtain ⟨i, same, status⟩ := awake
    unfold Store.setEntry at same status
    rw [nthClient_writeSlot] at same status
    split at same
    · exact .inr ⟨_, _, rfl, found, same⟩
    · rename_i other
      rw [if_neg other] at status
      exact .inl ⟨i, same, status⟩
  | willtopic _ _ =>
    have first := calms_setEntry (stills_await _) clientId awake
    exact .inl (calms_of_clients rfl clientId first)
  | regack _ _ _ => exact .inl (calms_setEntry (stills_await _) clientId awake)
  | publishAwaiting _ _ => exact .inl (calms_setEntry (stills_await _) clientId awake)
  | disconnected _ => exact .inl (calms_setEntry (stills_status (by decide)) clientId awake)
  | asleep _ _ => exact .inl (calms_setEntry (stills_status (by decide)) clientId awake)
  | willDeleted _ _ => exact .inl (calms_of_clients rfl clientId awake)
  | willmsg _ _ => exact .inl (calms_of_clients rfl clientId awake)
  | puback _ _ => exact .inl (calms_of_clients rfl clientId awake)
  | _ => exact .inl awake

/-- Only an accepted PINGREQ wakes a client up. -/
theorem step_awakeAs {input : Input} (sound : g.Sound) (stepped : step g input = some after)
    (awake : after.store.AwakeAs clientId) :
    g.store.AwakeAs clientId ∨
      ∃ address request, input.request? = some (address, request) ∧ g.Wakes address clientId request := by
  have prepared : (g.prepare input).Sound := sound_prepare sound
  cases step_stepped stepped with
  | restart _ => exact .inl awake
  | @datagram sender bytes beyond after event _ handled =>
    have same := Input.request_of_datagram event
    generalize Request.ofMemory (receiveBuffer bytes beyond) = request at handled same
    cases handle_requested prepared sender.getDeviceAddress_ne_zero handled with
    | connect connection => exact .inl (Connection.calms connection clientId awake)
    | topics _ _ only => exact .inl (calms_of_clients only.clients clientId awake)
    | acts acts settles =>
      rw [settles.store] at awake
      rcases acts.awakeAs awake with before | wakes
      · exact .inl before
      · exact .inr ⟨_, _, same, wakes⟩
  | brokerMessage _ _ published =>
    have clients := (publishFromBroker_receives prepared.idle published).clients
    exact .inl (calms_of_clients clients clientId awake)
  | loop _ looped =>
    left
    have calm : g.store.Calms after.store := by
      refine loop_invariant (I := fun g' => g.store.Calms g'.store) prepared Calms.refl ?_ ?_ ?_ looped
      · intro g' g'' quiet kept
        rw [quiet.store]
        exact kept
      · intro drained status notice beaten time kind n g' g'' _ _ _ visits kept
        apply kept.trans
        apply visits.calms
        cases kind <;> decide
      · intro n g' g'' _ _ settles _ kept
        rw [settles.store]
        exact kept.trans (calms_updateAt (stills_status (by decide)))
    exact calm clientId awake
  | mqttConnect _ _ => exact .inl awake
  | mqttConnectionLost _ => exact .inl awake
  | socketLost _ => exact .inl awake
  | @socketBegin opened _ _ => cases opened <;> exact .inl awake

end Gateway

end MqttSnGateway
