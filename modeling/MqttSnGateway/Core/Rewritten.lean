import MqttSnGateway.Core.Dismissals
import MqttSnGateway.Core.Identity

namespace MqttSnGateway

open Persistent Store

/-- A change of an entry that does not take up a session again that is over. -/
def LeavesOver (f : EntryClient → EntryClient) : Prop := ∀ entry : EntryClient, entry.Over → (f entry).Over

namespace Store

/-- `s'` is `s` after changes to the entry in slot `m`, whose client stays there and does not come back. -/
structure Rewritten (m : Nat) (s s' : Store) : Prop where
  length : s'.clients.length = s.clients.length
  others : ∀ i, i ≠ m → s'.nthClient i = s.nthClient i
  same : (s.nthClient m).Same (s'.nthClient m)
  finished : (s.nthClient m).Over → (s'.nthClient m).Over

variable {s s' s'' : Store} {m j : Nat} {address : DeviceAddress} {f : EntryClient → EntryClient}

theorem Rewritten.refl (registered : (s.nthClient m).clientStatus ≠ .empty) : Rewritten m s s :=
  ⟨rfl, fun _ _ => rfl, ⟨rfl, rfl, rfl, registered⟩, id⟩

theorem Rewritten.trans (first : Rewritten m s s') (second : Rewritten m s' s'') : Rewritten m s s'' where
  length := second.length.trans first.length
  others := fun i other => (second.others i other).trans (first.others i other)
  same := ⟨second.same.clientId.trans first.same.clientId, second.same.fileNumber.trans first.same.fileNumber,
    second.same.clientAddress.trans first.same.clientAddress, second.same.registered⟩
  finished := fun finished => second.finished (first.finished finished)

theorem Rewritten.of_clients (rewritten : Rewritten m s s') (clients : s''.clients = s'.clients) : Rewritten m s s'' := by
  have read : ∀ i, s''.nthClient i = s'.nthClient i := fun _ => nthClient_congr clients
  refine ⟨?_, fun i other => ?_, ?_, ?_⟩
  · rw [clients]
    exact rewritten.length
  · rw [read]
    exact rewritten.others i other
  · rw [read]
    exact rewritten.same
  · rw [read]
    exact rewritten.finished

/-- The client that the address selects, if it has a file number. -/
structure Numbered (s : Store) (address : DeviceAddress) (m : Nat) : Prop where
  found : s.slotOfAddress address = some m
  numbered : (s.nthClient m).fileNumber ≠ .empty

theorem Numbered.slotNumber (numbered : s.Numbered address m) (ok : s.SlotsOk) (nonzero : address ≠ .zero) :
    (s.nthClient m).slotNumber = m := by
  have registered := ok.registered_of_slotOfAddress nonzero numbered.found
  rcases ok.slotNumber_cases registered with ⟨_, own⟩ | ⟨unnumbered, _, _⟩
  · exact own
  · exact absurd unnumbered numbered.numbered

theorem Numbered.updateAt (numbered : s.Numbered address m) (ok : s.SlotsOk) (nonzero : address ≠ .zero) :
    s.updateAt address f = s.writeSlot m (f (s.nthClient m)) := by
  rw [updateAt_found numbered.found]
  unfold setEntry
  rw [numbered.slotNumber ok nonzero]

theorem rewritten_updateAt (numbered : s.Numbered address m) (ok : s.SlotsOk) (nonzero : address ≠ .zero) (keeps : Keeps f)
    (leaves : LeavesOver f) : Rewritten m s (s.updateAt address f) := by
  have registered := ok.registered_of_slotOfAddress nonzero numbered.found
  have inside : m < s.clients.length := by
    apply inside_of_ne_zero
    intro zero
    rw [zero] at registered
    exact registered rfl
  rw [numbered.updateAt ok nonzero]
  refine ⟨?_, fun i other => nthClient_writeSlot_ne other, ?_, ?_⟩
  · rw [length_writeSlot]
    omega
  · rw [nthClient_writeSlot_self]
    exact keeps _ registered
  · rw [nthClient_writeSlot_self]
    exact leaves _

theorem Rewritten.clientAddress (rewritten : Rewritten m s s') (i : Nat) :
    (s'.nthClient i).clientAddress = (s.nthClient i).clientAddress := by
  by_cases here : i = m
  · rw [here]
    exact rewritten.same.clientAddress
  · rw [rewritten.others i here]

theorem Rewritten.clientId (rewritten : Rewritten m s s') (i : Nat) :
    (s'.nthClient i).clientId = (s.nthClient i).clientId := by
  by_cases here : i = m
  · rw [here]
    exact rewritten.same.clientId
  · rw [rewritten.others i here]

theorem Rewritten.slotOfAddress (rewritten : Rewritten m s s') (ok : s.SlotsOk) (kept : s'.SlotsOk)
    (nonzero : address ≠ .zero) : s'.slotOfAddress address = s.slotOfAddress address :=
  ok.slotOfAddress_congr kept nonzero rewritten.clientAddress

theorem Rewritten.numbered (rewritten : Rewritten m s s') (ok : s.SlotsOk) (kept : s'.SlotsOk) (nonzero : address ≠ .zero)
    (numbered : s.Numbered address m) : s'.Numbered address m := by
  refine ⟨(rewritten.slotOfAddress ok kept nonzero).trans numbered.found, ?_⟩
  rw [rewritten.same.fileNumber]
  exact numbered.numbered

theorem Rewritten.slotOfId {clientId : CString} (rewritten : Rewritten m s s') (ok : s.SlotsOk) (kept : s'.SlotsOk)
    (found : s'.slotOfId clientId = some j) : s.slotOfId clientId = some j := by
  obtain ⟨inside, here, first⟩ := kept.slotOfId_eq_some.mp found
  apply ok.slotOfId_eq_some.mpr
  refine ⟨?_, ?_, fun i before => ?_⟩
  · rw [← rewritten.length]
    exact inside
  · rw [← rewritten.clientId]
    exact here
  · rw [← rewritten.clientId]
    exact first i before

theorem Rewritten.entry_over (rewritten : Rewritten m s s') {i : Nat} (finished : (s.nthClient i).Over) :
    (s'.nthClient i).Over := by
  by_cases here : i = m
  · rw [here] at finished ⊢
    exact rewritten.finished finished
  · rw [rewritten.others i here]
    exact finished

theorem Rewritten.ended (rewritten : Rewritten m s s') (ok : s.SlotsOk) (kept : s'.SlotsOk) (nonzero : address ≠ .zero)
    (ended : s.Ended address) : s'.Ended address := by
  intro n found
  rw [rewritten.slotOfAddress ok kept nonzero] at found
  exact rewritten.entry_over (ended n found)

theorem Rewritten.erased (rewritten : Rewritten m s s') (ok : s.SlotsOk) (kept : s'.SlotsOk) (small : j < 65536)
    (nonzero : address ≠ .zero) (ended : (s.writeSlot j .zero).Ended address) : (s'.writeSlot j .zero).Ended address := by
  have addresses : ∀ i, ((s'.writeSlot j .zero).nthClient i).clientAddress = ((s.writeSlot j .zero).nthClient i).clientAddress := by
    intro i
    rw [nthClient_writeSlot, nthClient_writeSlot]
    split
    · rfl
    · exact rewritten.clientAddress i
  have selects := (ok.erase small).slotOfAddress_congr (kept.erase small) nonzero addresses
  intro n found
  rw [selects] at found
  have other : n ≠ j := by
    rintro rfl
    have here := (((ok.erase small).slotOfAddress_eq_some nonzero).mp found).1
    rw [nthClient_writeSlot_self] at here
    exact nonzero here.symm
  have finished := ended n found
  rw [nthClient_writeSlot_ne other] at finished ⊢
  exact rewritten.entry_over finished

/-- Erasing a slot takes an entry from an address only if it is the one that is bound to it. -/
theorem ended_erase (ok : s.SlotsOk) (small : j < 65536) (nonzero : address ≠ .zero) (ended : s.Ended address)
    (covered : s.slotOfAddress address = some j → (s.writeSlot j .zero).Ended address) :
    (s.writeSlot j .zero).Ended address := by
  by_cases bound : s.slotOfAddress address = some j
  · exact covered bound
  · intro n found
    obtain ⟨here, first⟩ := ((ok.erase small).slotOfAddress_eq_some nonzero).mp found
    have other : n ≠ j := by
      rintro rfl
      rw [nthClient_writeSlot_self] at here
      exact nonzero here.symm
    rw [nthClient_writeSlot_ne other] at here ⊢
    obtain ⟨k, reached, selected⟩ := ok.slotOfAddress_here nonzero here
    have same : k = n := by
      by_contra different
      have before : k < n := by omega
      have elsewhere : k ≠ j := fun erased => bound (erased ▸ selected)
      apply first k before
      rw [nthClient_writeSlot_ne elsewhere]
      exact ((ok.slotOfAddress_eq_some nonzero).mp selected).1
    rw [same] at selected
    exact ended n selected

theorem ended_deleteClient {sd : SDLinuxFake} {number clientId : CString} (ok : s.SlotsOk) (nonzero : address ≠ .zero)
    (ended : s.Ended address) (covered : ∀ j, s.slotOfId clientId = some j → s.slotOfAddress address = some j →
      (s.writeSlot j .zero).Ended address) : (s.deleteClient sd number clientId).Ended address := by
  rcases clients_deleteClient_cases with ⟨j, selected, erased⟩ | same
  · have short := ok.short
    have inside := (findIdx?_clients.mp selected).1
    exact ended_congr erased (ended_erase ok (by omega) nonzero ended (covered j selected))
  · exact ended_congr same ended

end Store

namespace Gateway

variable {g after : Gateway} {address other : DeviceAddress} {m : Nat}

theorem leavesOver_await (type : MessageType) : LeavesOver fun entry => { entry with awaitMessage := type } :=
  fun _ finished => finished

theorem leavesOver_timeout (timeout : UInt32) : LeavesOver fun entry => { entry with timeout := timeout } :=
  fun _ finished => finished

theorem leavesOver_disconnected : LeavesOver fun entry => { entry with clientStatus := .disconnected } :=
  fun _ _ => .inl rfl

theorem leavesOver_lost (timeout : UInt32) :
    LeavesOver fun entry => { entry with timeout := timeout, clientStatus := .lost } :=
  fun _ _ => .inr rfl

theorem clients_filesAt {s : Store} {h : ClientFiles → ClientFiles} : (s.filesAt address h).clients = s.clients := by
  unfold Store.filesAt
  split <;> rfl

theorem Delivery.rewritten (delivery : Delivery g address after) (sound : g.Sound) (nonzero : address ≠ .zero)
    (numbered : g.store.Numbered address m) : Rewritten m g.store after.store := by
  have ok := sound.ok.slots
  have unchanged : Rewritten m g.store g.store := .refl (ok.registered_of_slotOfAddress nonzero numbered.found)
  cases delivery with
  | nothing settles _ =>
    rw [settles.store]
    exact unchanged
  | register settles _ =>
    rw [store_send, settles.store]
    exact rewritten_updateAt numbered ok nonzero (keeps_await _) (leavesOver_await _)
  | publish _ settles _ =>
    rw [store_send, settles.store]
    exact unchanged.of_clients clients_filesAt
  | @publishAwaited _ h _ _ _ _ _ settles _ =>
    have queued : Rewritten m g.store (g.store.filesAt address h) := unchanged.of_clients clients_filesAt
    have again := queued.numbered ok ok.filesAt nonzero numbered
    rw [store_send, settles.store]
    exact queued.trans (rewritten_updateAt again ok.filesAt nonzero (keeps_await _) (leavesOver_await _))

theorem Delivery.spares (delivery : Delivery g address after) : g.Spares after := by
  cases delivery with
  | nothing _ silent => exact spares_silent silent
  | register _ silent => exact spares_send silent nofun
  | publish _ _ silent => exact spares_send silent nofun
  | publishAwaited _ _ silent => exact spares_send silent nofun

theorem Drained.dismisses {drains : Bool} (drained : Drained g drains .disconnected .disconnect address after)
    (sound : g.Sound) (nonzero : address ≠ .zero) (numbered : g.store.Numbered address m) :
    Rewritten m g.store after.store ∧ ∀ other, after.Told other →
      g.Told other ∨ other = address ∧ drains = true ∧ after.store.Ended address := by
  have ok := sound.ok.slots
  cases drained with
  | kept settles silent =>
    refine ⟨?_, fun other told => .inl (spares_silent silent other told)⟩
    rw [settles.store]
    exact .refl (ok.registered_of_slotOfAddress nonzero numbered.found)
  | changed ready settles silent =>
    have keeps : Keeps fun entry => { entry with clientStatus := .disconnected } := keeps_status (by decide)
    refine ⟨?_, fun other told => ?_⟩
    · rw [store_send, settles.store]
      exact rewritten_updateAt numbered ok nonzero keeps leavesOver_disconnected
    · rcases told_send told with before | ⟨same, _⟩
      · exact .inl (spares_silent silent other before)
      · refine .inr ⟨same, ready, ?_⟩
        rw [store_send, settles.store, updateAt_found numbered.found]
        exact (ended_setEntry ok nonzero numbered.found keeps).mpr (.inl rfl)

theorem TimesOut.sent {slot : EntryClient} {elapsed : UInt32} (timesOut : TimesOut g slot elapsed after) :
    after.sent = g.sent := by
  cases timesOut with
  | disconnected _ => rfl
  | running _ _ _ silent => exact silent
  | lost _ _ _ _ silent => exact silent
  | deleted _ _ _ removal _ =>
    rw [sent_settled, removal.called.sent]
    exact paho_publish_called.sent

/-- A time-out deletes a client with a will. -/
def Removes (g : Gateway) (slot : EntryClient) (elapsed : UInt32) : Prop :=
  Expires slot elapsed ∧ (g.store.files (g.store.entryAt slot.clientAddress).fileNumber).wil ≠ none

/-- A time-out leaves the sessions that are over as they are, unless it erases the entry of one and another entry has its
    address. -/
theorem TimesOut.ended {slot : EntryClient} {elapsed : UInt32} (timesOut : TimesOut g slot elapsed after) (sound : g.Sound)
    (nonzero : slot.clientAddress ≠ .zero) (numbered : g.store.Numbered slot.clientAddress m) (given : other ≠ .zero)
    (ended : g.store.Ended other)
    (covered : g.Removes slot elapsed → ∀ j, g.store.slotOfId slot.clientId = some j →
      g.store.slotOfAddress other = some j → (g.store.writeSlot j .zero).Ended other) : after.store.Ended other := by
  have ok := sound.ok.slots
  have keeps : Keeps fun entry => { entry with timeout := slot.timeout + elapsed, clientStatus := .lost } := keeps_lost _
  have lost : Rewritten m g.store (g.store.updateAt slot.clientAddress fun entry =>
      { entry with timeout := slot.timeout + elapsed, clientStatus := .lost }) :=
    rewritten_updateAt numbered ok nonzero keeps (leavesOver_lost _)
  have slots := (sound.ok.updateAt nonzero keeps).slots
  cases timesOut with
  | disconnected _ => exact ended
  | running _ _ settles _ =>
    have kept : Keeps fun entry => { entry with timeout := slot.timeout + elapsed } := keeps_timeout _
    rw [settles.store]
    apply (rewritten_updateAt numbered ok nonzero kept (leavesOver_timeout _)).ended ok _ given ended
    exact (sound.ok.updateAt nonzero kept).slots
  | lost _ _ _ settles _ =>
    rw [settles.store]
    exact lost.ended ok slots given ended
  | @deleted k will g' s found expires willing removal none_left =>
    have removed : Rewritten m g.store s := lost.of_clients removal.clients
    have kept := (removal.ok (sound.ok.updateAt nonzero keeps)).slots
    have removes : g.Removes slot elapsed := by
      refine ⟨expires, ?_⟩
      rw [entryAt_found found, willing]
      nofun
    rw [store_settled]
    apply ended_deleteClient kept given (removed.ended ok kept given ended)
    intro j named bound
    have before := removed.slotOfId ok kept named
    rw [removed.slotOfAddress ok kept given] at bound
    have short := ok.short
    have inside := (findIdx?_clients.mp before).1
    exact removed.erased ok kept (by omega) given (covered removes j before bound)

end Gateway

end MqttSnGateway
