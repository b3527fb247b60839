import MqttSnGateway.Refinement.CardStore

namespace MqttSnGateway

open BinaryFile

namespace SDPersistentImpl

variable {p : Persistent} {q : SDPersistentImpl} {card : Card}

section Registrations

theorem searchRegistration_cases (r : (p.onCard card).Represents p) (strict : Bool)
    (noted wanted : EntryRegistration → Bool) (disjoint : ∀ entry, wanted entry = true → noted entry = false) :
    (∃ i entry, p.files.reg.findIdx? wanted = some i ∧ p.files.reg[i]? = some entry ∧
        p.files.reg.find? wanted = some entry ∧
        (p.onCard card).searchRegistration strict noted wanted = .inl (entry, i % 65536)) ∨
      p.files.reg.findIdx? wanted = none ∧ p.files.reg.find? wanted = none ∧
        (p.onCard card).searchRegistration strict noted wanted =
          .inr (FileLinuxFake.lastNoted noted p.files.reg, p.files.reg.length + 1) :=
  FileLinuxFake.search_cases (r.card.files _ r.entry.numbered .registration)
    (EntryRegistration.view (r.stored.files _).reg) disjoint

theorem Represents.getTopicName (r : q.Represents p) (topicId : UInt16) :
    q.getTopicName topicId = p.getTopicName topicId := by
  obtain ⟨card, rfl, _⟩ := r.onCard
  unfold SDPersistentImpl.getTopicName Persistent.getTopicName
  refine ite_congr rfl (fun _ => rfl) fun _ => ite_congr rfl (fun _ => rfl) fun _ => ?_
  rcases searchRegistration_cases r false (fun _ => false)
      (fun entry => entry.topicId = topicId && entry.topicName.length < 255) (fun _ _ => rfl) with
    ⟨i, entry, _, _, found, searched⟩ | ⟨_, missing, searched⟩
  · simp only [searched, Persistent.registeredName, found]
    rfl
  · simp only [searched, Persistent.registeredName, missing]
    rfl

theorem Represents.saveRegistration (r : q.Represents p) {i : Nat} (inside : i < RecordFile.capacity)
    (entry : EntryRegistration) (short : entry.topicName.length < 255) :
    (q.save (q.filename .registration) (i * EntryRegistration.codec.size)
        (EntryRegistration.codec.encode entry)).Represents
      (p.modifyFiles fun files => { files with reg := RecordFile.put .zero files.reg i entry }) := by
  have stored := r.stored.files p.entryClient.fileNumber
  refine r.saveFile (near_of_capacity inside (by decide)) EntryRegistration.codec.write_file.symm ?_ ?_
  · intro other different
    cases other <;> first | rfl | exact absurd rfl different
  · refine ⟨fun other member => ?_, stored.sub, stored.wil, stored.pub⟩
    rcases BinaryFile.mem_put member with rfl | rfl | old
    · exact short
    · decide
    · exact stored.reg other old

theorem Represents.addClientRegistration (r : q.Represents p) (room : Roomy p) {topicName : CString}
    (short : topicName.length < 255) (newTopicId : UInt16) :
    Agrees (q.addClientRegistration topicName newTopicId) (p.addClientRegistration topicName newTopicId) := by
  obtain ⟨card, rfl, holds⟩ := r.onCard
  have disjoint : ∀ entry : EntryRegistration,
      (entry.topicId ≠ 0 && entry.topicName.length < 255 && entry.topicName = topicName) = true →
        entry.isEmpty = false := by
    intro entry registered
    simp only [Bool.and_eq_true, decide_eq_true_eq] at registered
    unfold EntryRegistration.isEmpty
    rw [decide_eq_false registered.1.1]
    rfl
  unfold SDPersistentImpl.addClientRegistration Persistent.addClientRegistration
  refine .ite (fun _ => ⟨rfl, r⟩) fun _ => .ite (fun _ => ⟨rfl, r⟩) fun _ =>
    .ite (fun _ => ⟨rfl, rfl, holds, r.stored, r.entry⟩) fun _ => ?_
  rcases searchRegistration_cases r true EntryRegistration.isEmpty _ disjoint with
    ⟨i, entry, _, _, found, searched⟩ | ⟨_, missing, searched⟩
  · have registered : Persistent.registerName p.files topicName = (entry.topicId, p.files) := by
      unfold Persistent.registerName
      rw [found]
    simp only [searched, registered]
    refine ⟨rfl, r.congr ?_⟩
    unfold Persistent.modifyFiles
    rw [Store.modifyFiles_id (congrArg Prod.snd registered)]
  · obtain ⟨position, free, inside⟩ := room_of_lt EntryRegistration.isEmpty room.reg
    have registered : Persistent.registerName p.files topicName = (UInt16.ofNat (p.files.reg.length + 1),
        { p.files with
          reg := RecordFile.put .zero p.files.reg position ⟨UInt16.ofNat (p.files.reg.length + 1), topicName, true⟩ }) := by
      unfold Persistent.registerName
      rw [missing]
      simp only [free, RecordFile.putAt_ofNat, RecordFile.behind_ofNat, Nat.add_zero]
    simp only [searched, registered]
    refine ⟨rfl, ?_⟩
    rw [FileLinuxFake.firstEmptySpace_eq, free]
    refine (r.saveRegistration inside _ short).congr (modifyFiles_congr ?_)
    rw [registered]

theorem Represents.isTopicKnown (r : q.Represents p) (topicId : UInt16) :
    Agrees (q.isTopicKnown topicId) (p.isTopicKnown topicId) := by
  obtain ⟨card, rfl, holds⟩ := r.onCard
  unfold SDPersistentImpl.isTopicKnown Persistent.isTopicKnown
  refine .ite (fun _ => ⟨rfl, r⟩) fun _ => .ite (fun _ => ⟨rfl, r⟩) fun _ =>
    .ite (fun _ => ⟨rfl, rfl, holds, r.stored, r.entry⟩) fun nonzero => ?_
  have disjoint : ∀ entry : EntryRegistration,
      (entry.topicId = topicId && entry.topicName.length < 255) = true → entry.isEmpty = false := by
    intro entry registered
    simp only [Bool.and_eq_true, decide_eq_true_eq] at registered
    unfold EntryRegistration.isEmpty
    rw [registered.1, decide_eq_false nonzero]
    rfl
  rcases searchRegistration_cases r true EntryRegistration.isEmpty _ disjoint with
    ⟨i, entry, _, _, found, searched⟩ | ⟨_, missing, searched⟩
  · simp only [searched, found]
    exact ⟨rfl, r⟩
  · simp only [searched, missing]
    exact ⟨rfl, r⟩

end Registrations

section GlobalCounts

theorem searchCount_cases (r : (p.onCard card).Represents p) (noted wanted : EntryMqttSubscription → Bool)
    (disjoint : ∀ entry, wanted entry = true → noted entry = false) :
    (∃ i entry, p.store.mqttSub.findIdx? wanted = some i ∧ p.store.mqttSub[i]? = some entry ∧
        p.store.mqttSub.find? wanted = some entry ∧
        (p.onCard card).searchCount noted wanted = .inl (entry, i % 65536)) ∨
      p.store.mqttSub.findIdx? wanted = none ∧ p.store.mqttSub.find? wanted = none ∧
        (p.onCard card).searchCount noted wanted =
          .inr (FileLinuxFake.lastNoted noted p.store.mqttSub, p.store.mqttSub.length + 1) :=
  FileLinuxFake.search_cases r.card.mqttSub (EntryMqttSubscription.view r.stored.mqttSub) disjoint

theorem Represents.saveCount (r : q.Represents p) {i : Nat} (inside : i < RecordFile.capacity)
    (entry : EntryMqttSubscription) (short : entry.topicName.length < 255) :
    (q.saveCount i entry).Represents
      { p with store := { p.store with mqttSub := RecordFile.put .zero p.store.mqttSub i entry } } := by
  obtain ⟨card, rfl, holds⟩ := r.onCard
  refine ⟨rfl, ?_, ⟨r.stored.short, r.stored.clients, fun other member => ?_, r.stored.files⟩, r.entry⟩
  · unfold SDPersistentImpl.saveCount
    rw [card_save _ (near_of_capacity inside (by decide))]
    exact holds.writeCount i entry
  · rcases BinaryFile.mem_put member with rfl | rfl | old
    · exact short
    · decide
    · exact r.stored.mqttSub other old

theorem isCountOf_disjoint {name : CString} (entry : EntryMqttSubscription)
    (counted : Persistent.isCountOf name entry = true) : entry.isEmpty = false := by
  by_contra empty
  rw [isCountOf_of_isEmpty (eq_true_of_ne_false empty)] at counted
  cases counted

theorem Represents.rewriteCount (r : q.Represents p) (room : Roomy p) {i : Nat} {entry after : EntryMqttSubscription}
    (found : p.store.mqttSub[i]? = some entry) (short : after.topicName.length < 255) :
    (q.saveCount (i % 65536 : Nat) after).Represents
      { p with store := { p.store with mqttSub := p.store.mqttSub.set i after } } := by
  have before := (List.getElem?_eq_some_iff.mp found).1
  have inside := Nat.lt_trans before room.counts
  rw [mod_of_capacity inside]
  refine (r.saveCount inside after short).congr ?_
  simp only [RecordFile.put, if_pos before]

theorem modify_of_getElem? {α : Type} {table : List α} {i : Nat} {entry : α} {f : α → α} (found : table[i]? = some entry) :
    table.modify i f = table.set i (f entry) := by
  rw [List.modify_eq_set_getElem?, found]
  rfl

theorem Represents.incrementGlobalSubscriptionCount (r : q.Represents p) (room : Roomy p) (topicName : Option CString) :
    (q.incrementGlobalSubscriptionCount topicName).Represents (p.incrementGlobalSubscriptionCount topicName) := by
  obtain ⟨card, rfl, holds⟩ := r.onCard
  unfold SDPersistentImpl.incrementGlobalSubscriptionCount Persistent.incrementGlobalSubscriptionCount
  refine .ite (fun _ => r) fun _ => ?_
  cases valid : Persistent.validName topicName with
  | none => exact r
  | some name =>
    have short : name.length < 255 := (named_of_validName valid).2.2
    unfold Persistent.incrementCount
    rcases searchCount_cases r EntryMqttSubscription.isEmpty (Persistent.isCountOf name) isCountOf_disjoint with
      ⟨i, entry, first, found, _, searched⟩ | ⟨missing, _, searched⟩
    · simp only [searched, first]
      rw [modify_of_getElem? found]
      let counted : EntryMqttSubscription := { entry with clientSubscriptionCount := entry.clientSubscriptionCount + 1 }
      have stored : counted.topicName.length < 255 := r.stored.mqttSub entry (List.mem_of_getElem? found)
      have rewritten := r.rewriteCount room found stored
      exact rewritten.recount _ _
    · obtain ⟨position, free, inside⟩ := room_of_lt EntryMqttSubscription.isEmpty room.counts
      simp only [searched, missing]
      rw [FileLinuxFake.firstEmptySpace_eq, free, RecordFile.putAt_ofNat]
      exact (r.saveCount inside ⟨1, name⟩ short).recount _ _

theorem Represents.decrementGlobalSubscriptionCount (r : q.Represents p) (room : Roomy p) (topicName : Option CString) :
    (q.decrementGlobalSubscriptionCount topicName).Represents (p.decrementGlobalSubscriptionCount topicName) := by
  obtain ⟨card, rfl, holds⟩ := r.onCard
  unfold SDPersistentImpl.decrementGlobalSubscriptionCount Persistent.decrementGlobalSubscriptionCount
  refine .ite (fun _ => r) fun _ => ?_
  cases valid : Persistent.validName topicName with
  | none => exact r
  | some name =>
    unfold Persistent.decrementCount
    rcases searchCount_cases r EntryMqttSubscription.isEmpty (Persistent.isCountOf name) isCountOf_disjoint with
      ⟨i, entry, first, found, _, searched⟩ | ⟨missing, _, searched⟩
    · simp only [searched, first]
      rw [modify_of_getElem? found]
      refine r.rewriteCount room found ?_
      split
      · decide
      · exact r.stored.mqttSub entry (List.mem_of_getElem? found)
    · simp only [searched, missing]
      exact r

theorem Represents.getGlobalTopicSubscriptionCount (r : q.Represents p) (topicName : Option CString) :
    q.getGlobalTopicSubscriptionCount topicName = p.getGlobalTopicSubscriptionCount topicName := by
  obtain ⟨card, rfl, _⟩ := r.onCard
  unfold SDPersistentImpl.getGlobalTopicSubscriptionCount Persistent.getGlobalTopicSubscriptionCount
  refine ite_congr rfl (fun _ => rfl) fun _ => ?_
  cases Persistent.validName topicName with
  | none => rfl
  | some name =>
    rcases searchCount_cases r (fun _ => false) (Persistent.isCountOf name) (fun _ _ => rfl) with
      ⟨i, entry, _, _, found, searched⟩ | ⟨_, missing, searched⟩
    · simp only [searched, found]
    · simp only [searched, missing]

end GlobalCounts

end SDPersistentImpl

end MqttSnGateway
