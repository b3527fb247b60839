import MqttSnGateway.Core.ClientSpecs

namespace MqttSnGateway

open Persistent RecordFile

namespace ClientFiles

variable {files : ClientFiles} {sd : SDLinuxFake} {number : CString}

theorem subscriptionCount_eq_zero {sub : List EntrySubscription} :
    Gateway.subscriptionCount sub = 0 ↔ ∀ entry ∈ sub, entry.topicId = 0 := by
  unfold Gateway.subscriptionCount
  rw [List.countP_eq_zero]
  simp

theorem Ok.clear (ok : files.Ok) (none_left : Gateway.subscriptionCount files.sub = 0) (ending : FileEnding) :
    (files.clear ending).Ok ∧ Gateway.subscriptionCount (files.clear ending).sub = 0 := by
  have unused := subscriptionCount_eq_zero.mp none_left
  have holes : ∀ entry ∈ files.sub, entry = .zero := by
    intro entry member
    rcases ok.subFilled entry member with zero | ⟨used, _⟩
    · exact zero
    · exact absurd (unused entry member) used
  cases ending with
  | registration =>
    refine ⟨⟨by simp [ClientFiles.clear], ok.subShort, ok.pubShort, ?_, ok.pubNumbered, ?_, ok.subSingle⟩, none_left⟩
    · intro n entry found
      simp [ClientFiles.clear] at found
    · exact fun entry member => .inl (holes entry member)
  | subscribe =>
    refine ⟨⟨ok.regShort, by simp [ClientFiles.clear], ok.pubShort, ok.regNumbered, ok.pubNumbered, ?_, ?_⟩, rfl⟩
    · intro entry member
      simp [ClientFiles.clear] at member
    · intro name named i j a b first
      simp [ClientFiles.clear] at first
  | will => exact ⟨ok.of_same _ rfl rfl ok.pubShort ok.pubNumbered, none_left⟩
  | publish => exact ⟨ok.of_same _ rfl rfl (by simp [ClientFiles.clear]) (by simp [ClientFiles.clear]), none_left⟩

theorem Ok.deleteFile (ok : files.Ok) (none_left : Gateway.subscriptionCount files.sub = 0) (sd : SDLinuxFake)
    (number : CString) (ending : FileEnding) :
    (sd.deleteFile number files ending).Ok ∧
      Gateway.subscriptionCount (sd.deleteFile number files ending).sub = 0 := by
  unfold SDLinuxFake.deleteFile
  simp only
  split
  · split
    · exact ok.clear none_left ending
    · exact ⟨ok, none_left⟩
  · exact ⟨ok, none_left⟩

theorem Ok.deleted (ok : files.Ok) (none_left : Gateway.subscriptionCount files.sub = 0) :
    (files.deleted sd number).Ok ∧ Gateway.subscriptionCount (files.deleted sd number).sub = 0 := by
  have registration := ok.deleteFile none_left sd number .registration
  have subscribe := registration.1.deleteFile registration.2 sd number .subscribe
  have will := subscribe.1.deleteFile subscribe.2 sd number .will
  exact will.1.deleteFile will.2 sd number .publish

theorem Ok.keepsTables {h : ClientFiles → ClientFiles} (ok : files.Ok) (keeps : KeepsTables h) : (h files).Ok := by
  apply ok.of_same _ (keeps.reg files) (keeps.sub files)
  · rw [keeps.pub files]
    exact ok.pubShort
  · intro n entry found used
    obtain ⟨old, before, same⟩ := keeps.ids files n entry found used
    rw [← same]
    exact ok.pubNumbered n old before (by rwa [same])

end ClientFiles

namespace Store

/-- The store is well formed: its registry, its counts and the files of every client are. -/
structure Ok (s : Store) : Prop where
  slots : s.SlotsOk
  counts : CountsOk s.mqttSub
  files : ∀ number, (s.files number).Ok

variable {s : Store} {n : Nat} {address : DeviceAddress} {number clientId : CString} {duration : UInt32}

theorem ok_empty : Store.empty.Ok where
  slots := ⟨by decide, fun n => zero_fits, fun m n _ given => absurd rfl given⟩
  counts := ⟨by decide, fun name i j a b first => by simp [Store.empty] at first⟩
  files := fun _ => ClientFiles.ok_none

section Entries

variable {f : EntryClient → EntryClient}

theorem Ok.setEntry (ok : s.Ok) (registered : (s.nthClient n).clientStatus ≠ .empty)
    (same : (s.nthClient n).Same (f (s.nthClient n))) : (s.setEntry n f).Ok where
  slots := ok.slots.writeBack registered same
  counts := ok.counts
  files := ok.files

theorem Ok.updateAt (ok : s.Ok) (nonzero : address ≠ .zero)
    (same : ∀ entry : EntryClient, entry.clientStatus ≠ .empty → entry.Same (f entry)) : (s.updateAt address f).Ok := by
  cases selection : s.slotOfAddress address with
  | some n =>
    rw [updateAt_found selection]
    have registered := ok.slots.registered_of_slotOfAddress nonzero selection
    exact ok.setEntry registered (same _ registered)
  | none =>
    rw [updateAt_missing selection]
    exact ok

theorem same_status {entry : EntryClient} {status : ClientStatus} (used : status ≠ .empty) :
    entry.Same { entry with clientStatus := status } := ⟨rfl, rfl, rfl, used⟩

theorem same_await {entry : EntryClient} {type : MessageType} (registered : entry.clientStatus ≠ .empty) :
    entry.Same { entry with awaitMessage := type } := ⟨rfl, rfl, rfl, registered⟩

end Entries

section Files

theorem Ok.modifyFiles (ok : s.Ok) {h : ClientFiles → ClientFiles} (kept : (h (s.files number)).Ok) :
    (s.modifyFiles number h).Ok where
  slots := ok.slots.modifyFiles
  counts := ok.counts
  files := by
    intro other
    rw [files_modifyFiles]
    split
    · exact kept
    · exact ok.files other

theorem Ok.setFiles (ok : s.Ok) {h : ClientFiles → ClientFiles} (kept : (h (s.files (s.nthClient n).fileNumber)).Ok) :
    (s.setFiles n h).Ok := ok.modifyFiles kept

theorem Ok.keepsTables (ok : s.Ok) {h : ClientFiles → ClientFiles} (keeps : KeepsTables h) : (s.setFiles n h).Ok :=
  ok.setFiles ((ok.files _).keepsTables keeps)

theorem Ok.register (ok : s.Ok) {name : CString} : (s.setFiles n fun files => (registerName files name).2).Ok :=
  ok.setFiles ((ok.files _).registerName name)

theorem Ok.uncount (ok : s.Ok) {topicName : Option CString} : (s.uncount topicName).Ok := by
  unfold Store.uncount
  split
  · exact ⟨ok.slots.withCounts, ok.counts.decrementCount, ok.files⟩
  · exact ok

theorem Ok.removeSubscription (ok : s.Ok) {i : Nat} {name : CString} : (s.removeSubscription number i name).Ok :=
  (ok.modifyFiles (ok.files number).eraseSubscription).uncount

theorem Ok.unsubscribe (ok : s.Ok) {topicId : UInt16} {topicName : Option CString} {after : Store}
    (done : s.unsubscribe number topicId topicName = some after) : after.Ok := by
  unfold Store.unsubscribe at done
  split at done
  · cases done
    exact ok.uncount
  · split at done
    · cases done
      exact (ok.modifyFiles (ok.files number).eraseSubscription).uncount
    · cases done

/-- The topic of a SUBSCRIBE is registered under the id with which it goes on, unless no id was left. -/
theorem Ok.topicOf (ok : s.Ok) {topicsPre : TopicsPre} {topicId id : UInt16} {shortTopic : Bool} {name : CString}
    {after : Store} (known : s.topicOf topicsPre n topicId shortTopic = some (name, id, after)) :
    after.Ok ∧ after.nthClient n = s.nthClient n ∧
      (id ≠ 0 → registeredName (after.files (s.nthClient n).fileNumber).reg id = some name) := by
  cases topicOf_found known with
  | registered _ registered => exact ⟨ok, rfl, fun _ => registered⟩
  | predefined predefined =>
    refine ⟨ok.register, rfl, ?_⟩
    intro given
    unfold Store.setFiles
    rw [files_modifyFiles_self]
    exact (ok.files _).registerName_name (topicsPre.short topicId _ predefined) given

theorem Ok.subscribe (ok : s.Ok) {name : CString} {id : UInt16} {qos : UInt8} (named : IsTopicName name)
    (registered : id ≠ 0 → registeredName (s.files (s.nthClient n).fileNumber).reg id = some name)
    (fresh : ¬ (s.files (s.nthClient n).fileNumber).Subscribes name) : (s.subscribe n name id qos).Ok := by
  unfold Store.subscribe
  simp only
  split
  · exact ⟨ok.slots.withCounts, ok.counts.incrementCount, ok.files⟩
  · rename_i given
    have stored := ok.setFiles (n := n) (h := fun files => appendSubscription files ⟨id, qos, name⟩)
      ((ok.files _).appendSubscription named given (registered given) fresh)
    exact ⟨stored.slots.withCounts, ok.counts.incrementCount, stored.files⟩

end Files

section Clients

theorem Ok.writeSlot (ok : s.Ok) {entry : EntryClient} (slots : (s.writeSlot n entry).SlotsOk) :
    (s.writeSlot n entry).Ok := ⟨slots, ok.counts, ok.files⟩

theorem Ok.deleteClient (ok : s.Ok) {sd : SDLinuxFake}
    (none_left : Gateway.subscriptionCount (s.files number).sub = 0) : (s.deleteClient sd number clientId).Ok := by
  have cleared : (s.modifyFiles number fun files => files.deleted sd number).Ok :=
    ok.modifyFiles ((ok.files number).deleted none_left).1
  unfold Store.deleteClient
  simp only
  split
  · rename_i k found
    apply cleared.writeSlot
    have short := cleared.slots.short
    have inside := (findIdx?_clients.mp found).1
    exact cleared.slots.erase (by omega)
  · exact cleared

theorem nthClient_deleteClient_ne {sd : SDLinuxFake} {m : Nat}
    (other : s.slotOfId clientId ≠ some m) : (s.deleteClient sd number clientId).nthClient m = s.nthClient m := by
  unfold Store.deleteClient
  simp only
  split
  · rename_i k found
    rw [nthClient_writeSlot_ne, nthClient_modifyFiles]
    rintro rfl
    exact other found
  · rfl

theorem files_deleteClient {sd : SDLinuxFake} {other : CString} :
    (s.deleteClient sd number clientId).files other =
      if other = number then (s.files number).deleted sd number else s.files other := by
  unfold Store.deleteClient
  simp only
  split
  · rw [files_writeSlot, files_modifyFiles]
  · rw [files_modifyFiles]

theorem mqttSub_deleteClient {sd : SDLinuxFake} : (s.deleteClient sd number clientId).mqttSub = s.mqttSub := by
  unfold Store.deleteClient
  simp only
  split <;> rfl

theorem clients_deleteClient {sd : SDLinuxFake} (found : s.slotOfId clientId = some n) :
    (s.deleteClient sd number clientId).clients = (s.writeSlot n .zero).clients := by
  have selected : (s.modifyFiles number fun files => files.deleted sd number).slotOfId clientId = some n := found
  unfold Store.deleteClient
  simp only [selected]
  rfl

theorem clients_deleteClient_cases {sd : SDLinuxFake} :
    (∃ n, s.slotOfId clientId = some n ∧ (s.deleteClient sd number clientId).clients = (s.writeSlot n .zero).clients) ∨
      (s.deleteClient sd number clientId).clients = s.clients := by
  cases found : s.slotOfId clientId with
  | some n => exact .inl ⟨n, rfl, clients_deleteClient found⟩
  | none =>
    right
    have missing : (s.modifyFiles number fun files => files.deleted sd number).slotOfId clientId = none := found
    unfold Store.deleteClient
    simp only [missing]
    rfl

/-- After `delete_client` no slot has the client id, unless it is the empty one. -/
theorem Ok.nthClient_deleteClient (ok : s.Ok) {sd : SDLinuxFake} (given : clientId ≠ .empty) (m : Nat) :
    ((s.deleteClient sd number clientId).nthClient m).clientId ≠ clientId := by
  have cleared : (s.modifyFiles number fun files => files.deleted sd number).SlotsOk := ok.slots.modifyFiles
  unfold Store.deleteClient
  simp only
  cases scan : (s.modifyFiles number fun files => files.deleted sd number).slotOfId clientId with
  | some k =>
    have same := (cleared.slotOfId_eq_some_of_ne given).mp scan
    simp only
    rw [nthClient_writeSlot]
    split
    · exact fun zero => given zero.symm
    · rename_i different
      intro other
      exact different (cleared.distinct m k (other.trans same.symm) (by rw [other]; exact given))
  | none => exact (cleared.slotOfId_eq_none given).mp scan m

theorem nthClient_insertClient (s : Store) (clientId : CString) (address : DeviceAddress) (duration : UInt32) :
    (s.insertClient clientId address duration).nthClient s.findEmptyEntrySpace =
      .new clientId s.findEmptyEntrySpace address duration := nthClient_writeSlot_self

theorem nthClient_insertClient_ne {m : Nat} (different : m ≠ s.findEmptyEntrySpace) :
    (s.insertClient clientId address duration).nthClient m = s.nthClient m := nthClient_writeSlot_ne different

theorem Ok.insertClient (ok : s.Ok) (nonzero : address ≠ .zero) (fits : clientId.length < 24)
    (absent : clientId ≠ .empty → ∀ m, (s.nthClient m).clientId ≠ clientId) :
    (s.insertClient clientId address duration).Ok := by
  apply ok.writeSlot
  apply ok.slots.writeSlot ok.slots.findEmptyEntrySpace_cases.1
  · refine ⟨?_, fun _ => nonzero, fits, fun _ => .inl rfl⟩
    intro empty
    cases empty
  · exact fun given m _ => absent given m

theorem Ok.reset (ok : s.Ok) (nonzero : address ≠ .zero) (found : s.slotOfId clientId = some n) :
    (s.writeSlot n ((s.nthClient n).reset clientId address duration)).Ok := by
  obtain ⟨inside, same, _⟩ := ok.slots.slotOfId_eq_some.mp found
  have short := ok.slots.short
  have fits := ok.slots.fits n
  apply ok.writeSlot
  apply ok.slots.writeSlot (by omega)
  · refine ⟨?_, fun _ => nonzero, ?_, fun _ => ?_⟩
    · intro empty
      cases empty
    · rw [← same]
      exact fits.named
    · by_cases empty : (s.nthClient n).clientStatus = .empty
      · right
        have zero := fits.emptied empty
        rw [zero] at same
        unfold EntryClient.reset
        rw [zero]
        exact ⟨rfl, same.symm⟩
      · have numbered := fits.numbered empty
        rw [same] at numbered
        exact numbered
  · intro given m different other
    have equal := ok.slots.distinct m n (other.trans same.symm) (by rw [other]; exact given)
    exact different equal

end Clients

end Store

end MqttSnGateway
