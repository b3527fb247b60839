import MqttSnGateway.Core.Invariant

namespace MqttSnGateway

namespace Store

variable {s : Store} {n : Nat} {address : DeviceAddress} {f f' : EntryClient → EntryClient}
  {h h' : ClientFiles → ClientFiles}

/-- The entry that a transaction for an address works with. -/
def entryAt (s : Store) (address : DeviceAddress) : EntryClient :=
  match s.slotOfAddress address with
  | some n => s.nthClient n
  | none => .zero

/-- What a transaction for an address makes of the files of the selected client. -/
def filesAt (s : Store) (address : DeviceAddress) (h : ClientFiles → ClientFiles) : Store :=
  match s.slotOfAddress address with
  | some n => s.setFiles n h
  | none => s

/-- A change of an entry that leaves the client registered under its id, address and file number. -/
def Keeps (f : EntryClient → EntryClient) : Prop :=
  ∀ entry : EntryClient, entry.clientStatus ≠ .empty → entry.Same (f entry)

theorem entryAt_found (found : s.slotOfAddress address = some n) : s.entryAt address = s.nthClient n := by
  unfold entryAt
  rw [found]

theorem filesAt_found (found : s.slotOfAddress address = some n) : s.filesAt address h = s.setFiles n h := by
  unfold filesAt
  rw [found]

@[simp] theorem slotOfAddress_filesAt {other : DeviceAddress} :
    (s.filesAt address h).slotOfAddress other = s.slotOfAddress other := by
  unfold filesAt
  split <;> rfl

@[simp] theorem nthClient_filesAt : (s.filesAt address h).nthClient n = s.nthClient n := by
  unfold filesAt
  split <;> rfl

@[simp] theorem mqttSub_filesAt : (s.filesAt address h).mqttSub = s.mqttSub := by
  unfold filesAt
  split <;> rfl

@[simp] theorem mqttSub_updateAt : (s.updateAt address f).mqttSub = s.mqttSub := by
  unfold updateAt
  split <;> rfl

@[simp] theorem files_updateAt : (s.updateAt address f).files = s.files := by
  unfold updateAt
  split <;> rfl

theorem length_updateAt : s.clients.length ≤ (s.updateAt address f).clients.length := by
  unfold updateAt
  split
  · unfold setEntry
    rw [length_writeSlot]
    omega
  · exact Nat.le_refl _

/-- A setter leaves its client in the slot it wrote to, where the next transaction selects it. -/
theorem SlotsOk.slotOfAddress_setEntry (ok : s.SlotsOk) (nonzero : address ≠ .zero)
    (found : s.slotOfAddress address = some n) (keeps : Keeps f) :
    (s.setEntry n f).slotOfAddress address = some (s.nthClient n).slotNumber := by
  have registered := ok.registered_of_slotOfAddress nonzero found
  have same := keeps _ registered
  obtain ⟨here, first⟩ := (ok.slotOfAddress_eq_some nonzero).mp found
  apply ((ok.writeBack registered same).slotOfAddress_eq_some nonzero).mpr
  constructor
  · rw [nthClient_writeSlot_self, same.clientAddress, here]
  · intro m before
    rcases ok.slotNumber_cases registered with ⟨_, position⟩ | ⟨_, _, position⟩
    · rw [position] at before
      rw [position, nthClient_writeSlot_ne (by omega)]
      exact first m before
    · omega

theorem writeSlot_writeSlot {m : Nat} {entry other : EntryClient} :
    (s.writeSlot m entry).writeSlot m other = s.writeSlot m other := by
  unfold writeSlot
  simp only [RecordFile.put_put]

theorem SlotsOk.updateAt_updateAt (ok : s.SlotsOk) (nonzero : address ≠ .zero) (keeps : Keeps f) :
    (s.updateAt address f).updateAt address f' = s.updateAt address fun entry => f' (f entry) := by
  cases selection : s.slotOfAddress address with
  | some n =>
    have registered := ok.registered_of_slotOfAddress nonzero selection
    have same := keeps _ registered
    have next := ok.slotOfAddress_setEntry nonzero selection keeps
    have position : (f (s.nthClient n)).slotNumber = (s.nthClient n).slotNumber := by
      unfold EntryClient.slotNumber
      rw [same.fileNumber]
    rw [updateAt_found selection, updateAt_found next, updateAt_found selection]
    unfold setEntry
    rw [nthClient_writeSlot_self, position, writeSlot_writeSlot]
  | none => rw [updateAt_missing selection, updateAt_missing selection, updateAt_missing selection]

theorem SlotsOk.filesAt (ok : s.SlotsOk) : (s.filesAt address h).SlotsOk := by
  unfold Store.filesAt
  split
  · exact ok.modifyFiles
  · exact ok

theorem SlotsOk.entryAt_updateAt (ok : s.SlotsOk) (nonzero : address ≠ .zero)
    (found : s.slotOfAddress address = some n) (keeps : Keeps f) :
    (s.updateAt address f).entryAt address = f (s.nthClient n) := by
  rw [updateAt_found found, entryAt_found (ok.slotOfAddress_setEntry nonzero found keeps)]
  exact nthClient_writeSlot_self

theorem Ok.filesAt (ok : s.Ok) (keeps : KeepsTables h) : (s.filesAt address h).Ok := by
  unfold Store.filesAt
  split
  · exact ok.keepsTables keeps
  · exact ok

end Store

end MqttSnGateway
