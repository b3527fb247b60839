import MqttSnGateway.Core.VisitSpecs

namespace MqttSnGateway

namespace Store

/-- `s'` is `s` after changes to the entry, the will and the messages of the client at an address, none of
    which takes its id, address, file number, registrations or subscriptions. -/
inductive Touched (address : DeviceAddress) (s : Store) : Store → Prop
  | refl : Touched address s s
  | entry {s' : Store} {f : EntryClient → EntryClient} (touched : Touched address s s') (keeps : Keeps f) :
    Touched address s (s'.updateAt address f)
  | files {s' : Store} {h : ClientFiles → ClientFiles} (touched : Touched address s s') (keeps : KeepsTables h) :
    Touched address s (s'.filesAt address h)

namespace Touched

variable {s s' s'' : Store} {n j k : Nat} {address : DeviceAddress}

theorem trans (first : Touched address s s') (second : Touched address s' s'') : Touched address s s'' := by
  induction second with
  | refl => exact first
  | entry _ keeps ih => exact ih.entry keeps
  | files _ keeps ih => exact ih.files keeps

theorem ok (touched : Touched address s s') (ok : s.Ok) (nonzero : address ≠ .zero) : s'.Ok := by
  induction touched with
  | refl => exact ok
  | entry _ keeps ih => exact ih.updateAt nonzero keeps
  | files _ keeps ih => exact ih.filesAt keeps

theorem mqttSub (touched : Touched address s s') : s'.mqttSub = s.mqttSub := by
  induction touched with
  | refl => rfl
  | entry _ _ ih => rw [mqttSub_updateAt, ih]
  | files _ _ ih => rw [mqttSub_filesAt, ih]

theorem missing (touched : Touched address s s') (missing : s.slotOfAddress address = none) : s' = s := by
  induction touched with
  | refl => rfl
  | entry _ _ ih =>
    subst ih
    exact updateAt_missing missing
  | files _ _ ih =>
    subst ih
    unfold filesAt
    rw [missing]

/-- The address goes on selecting the same client, in the same slot or in slot 0. -/
theorem selected (touched : Touched address s s') (ok : s.Ok) (nonzero : address ≠ .zero)
    (found : s.slotOfAddress address = some n) :
    ∃ m ≤ n, s'.slotOfAddress address = some m ∧ (s.nthClient n).Same (s'.nthClient m) := by
  induction touched with
  | refl =>
    have registered := ok.slots.registered_of_slotOfAddress nonzero found
    exact ⟨n, Nat.le_refl n, found, rfl, rfl, rfl, registered⟩
  | @entry s' f touched keeps ih =>
    obtain ⟨m, before, selection, same⟩ := ih
    have slots := (touched.ok ok nonzero).slots
    have renewed := keeps _ same.registered
    refine ⟨(s'.nthClient m).slotNumber, ?_, ?_, ?_⟩
    · rcases slots.slotNumber_cases same.registered with ⟨_, position⟩ | ⟨_, _, position⟩
      · omega
      · omega
    · rw [updateAt_found selection]
      exact slots.slotOfAddress_setEntry nonzero selection keeps
    · rw [updateAt_found selection]
      unfold setEntry
      rw [nthClient_writeSlot_self]
      exact ⟨renewed.clientId.trans same.clientId, renewed.fileNumber.trans same.fileNumber,
        renewed.clientAddress.trans same.clientAddress, renewed.registered⟩
  | files _ _ ih =>
    obtain ⟨m, before, selection, same⟩ := ih
    exact ⟨m, before, by rwa [slotOfAddress_filesAt], by rwa [nthClient_filesAt]⟩

/-- Only slots up to the selected one are written, and a slot that the address cannot select keeps its
    client. -/
theorem behind (touched : Touched address s s') (ok : s.Ok) (nonzero : address ≠ .zero)
    (found : s.slotOfAddress address = some n) (after : n < k) : s'.nthClient k = s.nthClient k := by
  induction touched with
  | refl => rfl
  | @entry s' f touched keeps ih =>
    obtain ⟨m, before, selection, same⟩ := touched.selected ok nonzero found
    rw [updateAt_found selection]
    unfold setEntry
    rw [nthClient_writeSlot_ne, ih]
    rcases (touched.ok ok nonzero).slots.slotNumber_cases same.registered with ⟨_, position⟩ | ⟨_, _, position⟩
    · omega
    · omega
  | files _ _ ih => rw [nthClient_filesAt, ih]

theorem clientId (touched : Touched address s s') (ok : s.Ok) (nonzero : address ≠ .zero)
    (found : s.slotOfAddress address = some n) (reached : n ≤ j) :
    (s'.nthClient j).clientId = (s.nthClient j).clientId := by
  induction touched with
  | refl => rfl
  | @entry s' f touched keeps ih =>
    obtain ⟨m, before, selection, same⟩ := touched.selected ok nonzero found
    have renewed := keeps _ same.registered
    rw [updateAt_found selection]
    unfold setEntry
    rw [nthClient_writeSlot]
    split
    · rename_i here
      have first : m = j := by
        rcases (touched.ok ok nonzero).slots.slotNumber_cases same.registered with ⟨_, position⟩ | ⟨_, _, position⟩
        · omega
        · omega
      rw [renewed.clientId, first, ih]
    · exact ih
  | files _ _ ih => rw [nthClient_filesAt, ih]

theorem length (touched : Touched address s s') : s.clients.length ≤ s'.clients.length := by
  induction touched with
  | refl => exact Nat.le_refl _
  | entry _ _ ih => exact Nat.le_trans ih length_updateAt
  | files _ _ ih =>
    unfold filesAt
    split <;> exact ih

theorem files_other (touched : Touched address s s') (ok : s.Ok) (nonzero : address ≠ .zero)
    (found : s.slotOfAddress address = some n) {number : CString} (other : number ≠ (s.nthClient n).fileNumber) :
    s'.files number = s.files number := by
  induction touched with
  | refl => rfl
  | entry _ _ ih => rw [files_updateAt, ih]
  | @files s' h touched keeps ih =>
    obtain ⟨m, before, selection, same⟩ := touched.selected ok nonzero found
    rw [filesAt_found selection]
    unfold setFiles
    rw [files_modifyFiles, if_neg (by rw [same.fileNumber]; exact other), ih]

theorem tables (touched : Touched address s s') (number : CString) :
    (s'.files number).reg = (s.files number).reg ∧ (s'.files number).sub = (s.files number).sub := by
  induction touched with
  | refl => exact ⟨rfl, rfl⟩
  | entry _ _ ih =>
    rw [files_updateAt]
    exact ih
  | @files s' h touched keeps ih =>
    unfold filesAt
    split
    · unfold setFiles
      rw [files_modifyFiles]
      split
      · rename_i here
        rw [keeps.reg, keeps.sub, ← here]
        exact ih
      · exact ih
    · exact ih

end Touched

end Store

namespace Gateway

open Store

/-- An operation that settles over a store in which it has touched one client only. -/
def Touches (g : Gateway) (address : DeviceAddress) (after : Gateway) : Prop :=
  ∃ s, g.store.Touched address s ∧ g.Settles s after

section Touches

variable {g after last : Gateway} {address : DeviceAddress} {n : Nat}

theorem Touches.refl (idle : g.persistent.Idle) : g.Touches address g := ⟨g.store, .refl, Settles.refl idle⟩

theorem Touches.touched (touches : g.Touches address after) : g.store.Touched address after.store := by
  obtain ⟨s, touched, settles⟩ := touches
  rw [settles.store]
  exact touched

theorem Touches.settles (touches : g.Touches address after) : g.Settles after.store after := by
  obtain ⟨s, touched, settles⟩ := touches
  exact settles.cast settles.store.symm

theorem Touches.trans (first : g.Touches address after) (second : after.Touches address last) :
    g.Touches address last :=
  ⟨last.store, first.touched.trans second.touched, first.settles.trans second.settles⟩

theorem Delivery.touches (delivery : Delivery g address after) : g.Touches address after := by
  cases delivery with
  | nothing settles _ => exact ⟨_, .refl, settles⟩
  | register settles _ => exact ⟨_, Touched.refl.entry (keeps_await _), settles.send⟩
  | publish keeps settles _ => exact ⟨_, Touched.refl.files keeps, settles.send⟩
  | publishAwaited keeps settles _ => exact ⟨_, (Touched.refl.files keeps).entry (keeps_await _), settles.send⟩

theorem Drained.touches {drains : Bool} {status : ClientStatus} {notice : SnMessage}
    (drained : Drained g drains status notice address after) (used : status ≠ .empty) : g.Touches address after := by
  cases drained with
  | kept settles _ => exact ⟨_, .refl, settles⟩
  | changed _ settles _ => exact ⟨_, Touched.refl.entry fun _ _ => same_status used, settles.send⟩

end Touches

end Gateway

end MqttSnGateway
