import MqttSnGateway.Refinement.CardFiles

namespace MqttSnGateway

open BinaryFile

/-- The state on the card that corresponds to a state on lists of records. -/
def Persistent.onCard (p : Persistent) (card : Card) : SDPersistentImpl where
  card := card
  sd := p.sd
  entryClient := p.entryClient
  notInClientRegistry := p.notInClientRegistry
  transactionStarted := p.transactionStarted
  error := p.error

/-- The card holds the records of the store, and both are in the same transaction. -/
structure SDPersistentImpl.Represents (q : SDPersistentImpl) (p : Persistent) : Prop where
  same : q = p.onCard q.card
  card : q.card.Holds p.store
  stored : p.store.Stored
  entry : p.entryClient.Stored

/-- An operation has the same result on both, and leaves both in corresponding states. -/
structure SDPersistentImpl.Agrees {ρ : Type} (x : ρ × SDPersistentImpl) (y : ρ × Persistent) : Prop where
  result : x.1 = y.1
  state : x.2.Represents y.2

namespace SDPersistentImpl

variable {p : Persistent} {q : SDPersistentImpl} {card : Card}

section Projections

@[simp] theorem onCard_card : (p.onCard card).card = card := rfl

@[simp] theorem onCard_sd : (p.onCard card).sd = p.sd := rfl

@[simp] theorem onCard_entryClient : (p.onCard card).entryClient = p.entryClient := rfl

@[simp] theorem onCard_notInClientRegistry : (p.onCard card).notInClientRegistry = p.notInClientRegistry := rfl

@[simp] theorem onCard_transactionStarted : (p.onCard card).transactionStarted = p.transactionStarted := rfl

@[simp] theorem onCard_error : (p.onCard card).error = p.error := rfl

@[simp] theorem onCard_ready : (p.onCard card).ready = p.ready := rfl

end Projections

theorem Represents.ite {c : Prop} [Decidable c] {p' : Persistent} {q' : SDPersistentImpl} (yes : c → q.Represents p)
    (no : ¬ c → q'.Represents p') : (if c then q else q').Represents (if c then p else p') := by
  split
  · exact yes ‹c›
  · exact no ‹¬ c›

theorem Agrees.ite {ρ : Type} {c : Prop} [Decidable c] {x x' : ρ × SDPersistentImpl} {y y' : ρ × Persistent}
    (yes : c → Agrees x y) (no : ¬ c → Agrees x' y') : Agrees (if c then x else x') (if c then y else y') := by
  split
  · exact yes ‹c›
  · exact no ‹¬ c›

theorem Represents.onCard (r : q.Represents p) : ∃ card : Card, q = p.onCard card ∧ card.Holds p.store :=
  ⟨q.card, r.same, r.card⟩

section Saving

theorem card_save (filename : List UInt8) {i size : Nat} (near : i * size < 4294967296) (buf : List UInt8) :
    (q.save filename (i * size) buf).card =
      Function.update q.card filename (BinaryFile.write (q.card filename) (i * size) buf) := by
  have position : (((i : Int) * size) % 4294967296).toNat = i * size := by
    rw [← Int.natCast_mul, Int.emod_eq_of_lt (by omega) (by omega)]
    rfl
  unfold save FileLinuxFake.write FileLinuxFake.seek SDLinuxFake.open
  simp only [Bool.or_self, Bool.false_eq_true, if_false, position]

theorem holds_saveClient (holds : card.Holds p.store) {slot : Nat} (inside : slot < 65536) (entry : EntryClient) :
    ((p.onCard card).saveClient slot entry).card.Holds (p.store.writeSlot slot entry) := by
  have near : slot * EntryClient.codec.size < 4294967296 := by
    have size : EntryClient.codec.size = 51 := rfl
    rw [size]
    omega
  unfold saveClient
  rw [card_save clientRegistry near]
  exact holds.writeSlot slot entry

end Saving

section Registry

theorem stored_nthClient {s : Store} (stored : s.Stored) (n : Nat) : (s.nthClient n).Stored := by
  unfold Store.nthClient
  rw [List.getD_eq_getElem?_getD]
  cases found : s.clients[n]? with
  | none => exact EntryClient.stored_zero
  | some entry => exact stored.clients entry (List.mem_of_getElem? found)

theorem searchId_eq (holds : card.Holds p.store) (stored : p.store.Stored) (clientId : CString) :
    ((p.onCard card).searchClient fun entry => entry.clientId = clientId) =
      (p.store.slotOfId clientId).map fun slot => (p.store.nthClient slot, slot) :=
  searchClient_eq holds.clients stored.clients stored.short

theorem searchAddress_eq (holds : card.Holds p.store) (stored : p.store.Stored) (address : DeviceAddress) :
    ((p.onCard card).searchClient fun entry => entry.clientAddress = address) =
      (p.store.slotOfAddress address).map fun slot => (p.store.nthClient slot, slot) :=
  searchClient_eq holds.clients stored.clients stored.short

theorem Represents.startClientTransactionById (r : q.Represents p) (clientId : CString) :
    (q.startClientTransactionById clientId).Represents (p.startClientTransactionById clientId) := by
  obtain ⟨card, rfl, holds⟩ := r.onCard
  unfold SDPersistentImpl.startClientTransactionById Persistent.startClientTransactionById
  rw [searchId_eq holds r.stored]
  refine .ite (fun _ => ⟨rfl, holds, r.stored, r.entry⟩) fun _ => .ite (fun _ => ⟨rfl, holds, r.stored, r.entry⟩) fun _ => ?_
  cases p.store.slotOfId clientId with
  | some slot => exact ⟨rfl, holds, r.stored, stored_nthClient r.stored slot⟩
  | none => exact ⟨rfl, holds, r.stored, EntryClient.stored_zero⟩

theorem Represents.startClientTransaction (r : q.Represents p) (address : DeviceAddress) :
    (q.startClientTransaction address).Represents (p.startClientTransaction address) := by
  obtain ⟨card, rfl, holds⟩ := r.onCard
  unfold SDPersistentImpl.startClientTransaction Persistent.startClientTransaction
  rw [searchAddress_eq holds r.stored]
  refine .ite (fun _ => ⟨rfl, holds, r.stored, r.entry⟩) fun _ => ?_
  cases p.store.slotOfAddress address with
  | some slot => exact ⟨rfl, holds, r.stored, stored_nthClient r.stored slot⟩
  | none => exact ⟨rfl, holds, r.stored, EntryClient.stored_zero⟩

theorem Represents.applyTransaction (r : q.Represents p) : Agrees q.applyTransaction p.applyTransaction := by
  obtain ⟨card, rfl, holds⟩ := r.onCard
  exact ⟨rfl, rfl, holds, r.stored, r.entry⟩

/-- An entry is written to a slot and becomes the one of the transaction. -/
theorem Represents.saveClient (r : q.Represents p) {slot : Nat} (inside : slot < 65536) {entry : EntryClient}
    (stored : entry.Stored) (missing : Bool) :
    SDPersistentImpl.Represents
      { q.saveClient slot entry with entryClient := entry, notInClientRegistry := missing }
      { p with entryClient := entry, store := p.store.writeSlot slot entry, notInClientRegistry := missing } := by
  obtain ⟨card, rfl, holds⟩ := r.onCard
  exact ⟨rfl, holds_saveClient holds inside entry, r.stored.writeSlot inside stored, stored⟩

theorem slotOfId_lt {s : Store} (stored : s.Stored) {clientId : CString} {slot : Nat}
    (selected : s.slotOfId clientId = some slot) : slot < 65536 := by
  have inside := (List.findIdx?_eq_some_iff_getElem.mp selected).1
  have short := stored.short
  omega

theorem Represents.resetClient (r : q.Represents p) (clientId : CString) (address : DeviceAddress) (duration : UInt32) :
    (q.resetClient clientId address duration).Represents (p.resetClient clientId address duration) := by
  obtain ⟨card, rfl, holds⟩ := r.onCard
  have failed : SDPersistentImpl.Represents { p.onCard card with error := true } { p with error := true } :=
    ⟨rfl, holds, r.stored, r.entry⟩
  unfold SDPersistentImpl.resetClient Persistent.resetClient
  rw [searchId_eq holds r.stored]
  refine .ite (fun _ => r) fun _ => .ite (fun _ => r) fun _ => .ite (fun _ => failed) fun short =>
    .ite (fun _ => failed) fun _ => ?_
  cases selected : p.store.slotOfId clientId with
  | some slot =>
    have old := stored_nthClient r.stored slot
    refine r.saveClient (slotOfId_lt r.stored selected) ?_ false
    exact ⟨Nat.lt_of_not_le short, old.numbered⟩
  | none => exact ⟨rfl, holds, r.stored, EntryClient.stored_zero⟩

theorem Represents.addClient (r : q.Represents p) (clientId : CString) (address : DeviceAddress) (duration : UInt32) :
    (q.addClient clientId address duration).Represents (p.addClient clientId address duration) := by
  obtain ⟨card, rfl, holds⟩ := r.onCard
  have failed : SDPersistentImpl.Represents { p.onCard card with error := true } { p with error := true } :=
    ⟨rfl, holds, r.stored, r.entry⟩
  have space : (p.onCard card).findEmptyEntrySpaceInRegistry = p.store.findEmptyEntrySpace :=
    findEmptyEntrySpaceInRegistry_eq holds.clients r.stored.clients
  have inside : p.store.findEmptyEntrySpace < 65536 := by
    unfold Store.findEmptyEntrySpace
    split <;> exact Nat.mod_lt _ (by decide)
  unfold SDPersistentImpl.addClient Persistent.addClient
  rw [space]
  refine .ite (fun _ => r) fun _ => .ite (fun _ => r) fun _ => .ite (fun _ => failed) fun _ =>
    .ite (fun _ => failed) fun short => ?_
  exact r.saveClient inside ⟨Nat.lt_of_not_le short, .inr ⟨_, inside, rfl⟩⟩ false

theorem clientPosition_eq (stored : p.entryClient.Stored) :
    p.entryClient.fileNumber.atoi = (p.clientPosition : Int) ∧ p.clientPosition < 65536 := by
  unfold Persistent.clientPosition
  rcases stored.numbered with none | ⟨slot, inside, some⟩
  · rw [none]
    decide
  · rw [some, atoi_fileNumber (by omega)]
    exact ⟨rfl, inside⟩

theorem Represents.updateEntry (r : q.Represents p) {f : EntryClient → EntryClient}
    (kept : (f p.entryClient).Stored) : (q.updateEntry f).Represents (p.updateEntry f) := by
  obtain ⟨card, rfl, holds⟩ := r.onCard
  obtain ⟨line, inside⟩ := clientPosition_eq r.entry
  unfold SDPersistentImpl.updateEntry Persistent.updateEntry
  refine .ite (fun _ => ?_) fun _ => r
  rw [onCard_entryClient, line]
  exact ⟨rfl, holds_saveClient holds inside _, r.stored.writeSlot inside kept, kept⟩

end Registry

section Files

/-- Nothing is lost when a table that the transaction works with gets one more record. -/
structure Roomy (p : Persistent) : Prop where
  counts : p.store.mqttSub.length < RecordFile.capacity
  reg : p.files.reg.length < RecordFile.capacity
  sub : p.files.sub.length < RecordFile.capacity
  pub : p.files.pub.length < RecordFile.capacity

theorem Represents.saveFile (r : q.Represents p) {ending : FileEnding} {i size : Nat} (near : i * size < 4294967296)
    {buf : List UInt8} {h : ClientFiles → ClientFiles}
    (written : (h p.files).bytes ending = BinaryFile.write (p.files.bytes ending) (i * size) buf)
    (others : ∀ other, other ≠ ending → (h p.files).bytes other = p.files.bytes other) (kept : (h p.files).Stored) :
    (q.save (q.filename ending) (i * size) buf).Represents (p.modifyFiles h) := by
  obtain ⟨card, rfl, holds⟩ := r.onCard
  refine ⟨rfl, ?_, r.stored.modifyFiles kept, r.entry⟩
  have content : card ((p.onCard card).filename ending) = p.files.bytes ending := holds.files _ r.entry.numbered ending
  rw [card_save _ near, onCard_card, content]
  exact holds.writeFile r.entry.numbered written others

theorem Represents.congr {p' : Persistent} (r : q.Represents p) (same : p' = p) : q.Represents p' := same ▸ r

theorem Represents.recount (r : q.Represents p) (behind overruns : Nat) :
    q.Represents { p with store := { p.store with mqttSubBehind := behind, overruns := overruns } } :=
  ⟨r.same, ⟨r.card.clients, r.card.mqttSub, r.card.files⟩,
    ⟨r.stored.short, r.stored.clients, r.stored.mqttSub, r.stored.files⟩, r.entry⟩

theorem modifyFiles_congr {f h : ClientFiles → ClientFiles} (same : f p.files = h p.files) :
    p.modifyFiles f = p.modifyFiles h := by
  unfold Persistent.modifyFiles
  rw [Store.modifyFiles_congr same]

theorem near_of_capacity {i size : Nat} (inside : i < RecordFile.capacity) (small : size ≤ 512) : i * size < 4294967296 := by
  unfold RecordFile.capacity at inside
  have bound := Nat.mul_le_mul (Nat.le_of_lt inside) small
  omega

theorem mod_of_capacity {i : Nat} (inside : i < RecordFile.capacity) : i % 65536 = i := by
  unfold RecordFile.capacity at inside
  omega

theorem room_of_lt {α : Type} (empty : α → Bool) {table : List α} (short : table.length < RecordFile.capacity) :
    ∃ position : Nat, RecordFile.freeSpace empty table = position ∧ position < RecordFile.capacity := by
  obtain ⟨position, free, _, small, _⟩ := RecordFile.freeSpace_room (Nat.le_of_lt short) (.inl short)
  exact ⟨position, free, small⟩

end Files

section Subscriptions

theorem searchSubscription_cases (r : (p.onCard card).Represents p) (noted wanted : EntrySubscription → Bool)
    (disjoint : ∀ entry, wanted entry = true → noted entry = false) :
    (∃ i entry, p.files.sub.findIdx? wanted = some i ∧ p.files.sub[i]? = some entry ∧
        p.files.sub.find? wanted = some entry ∧
        (p.onCard card).searchSubscription noted wanted = .inl (entry, i % 65536)) ∨
      p.files.sub.findIdx? wanted = none ∧ p.files.sub.find? wanted = none ∧
        (p.onCard card).searchSubscription noted wanted =
          .inr (FileLinuxFake.lastNoted noted p.files.sub, p.files.sub.length + 1) :=
  FileLinuxFake.search_cases (r.card.files _ r.entry.numbered .subscribe)
    (EntrySubscription.view (r.stored.files _).sub) disjoint

theorem Represents.isSubscribed (r : q.Represents p) (topicName : Option CString) :
    q.isSubscribed topicName = p.isSubscribed topicName := by
  obtain ⟨card, rfl, _⟩ := r.onCard
  unfold SDPersistentImpl.isSubscribed Persistent.isSubscribed
  rw [onCard_ready]
  split
  · cases Persistent.validName topicName with
    | none => rfl
    | some name =>
      rcases searchSubscription_cases r (fun _ => false) (Persistent.isSubscriptionTo name) (fun _ _ => rfl) with
        ⟨i, entry, first, _, _, searched⟩ | ⟨missing, _, searched⟩
      · simp only [searched]
        rw [← List.findIdx?_isSome, first]
        rfl
      · simp only [searched]
        rw [← List.findIdx?_isSome, missing]
        rfl
  · rfl

theorem Represents.getSubscriptionQos (r : q.Represents p) (topicName : Option CString) :
    q.getSubscriptionQos topicName = p.getSubscriptionQos topicName := by
  obtain ⟨card, rfl, _⟩ := r.onCard
  unfold SDPersistentImpl.getSubscriptionQos Persistent.getSubscriptionQos
  rw [onCard_ready]
  split
  · cases Persistent.validName topicName with
    | none => rfl
    | some name =>
      rcases searchSubscription_cases r (fun _ => false) (Persistent.isSubscriptionTo name) (fun _ _ => rfl) with
        ⟨i, entry, _, _, found, searched⟩ | ⟨_, missing, searched⟩
      · simp only [searched, found]
      · simp only [searched, missing]
  · rfl

theorem Represents.getSubscriptionTopicId (r : q.Represents p) (topicName : Option CString) :
    q.getSubscriptionTopicId topicName = p.getSubscriptionTopicId topicName := by
  obtain ⟨card, rfl, _⟩ := r.onCard
  unfold SDPersistentImpl.getSubscriptionTopicId Persistent.getSubscriptionTopicId
  rw [onCard_ready]
  split
  · cases Persistent.validName topicName with
    | none => rfl
    | some name =>
      rcases searchSubscription_cases r (fun _ => false) (Persistent.isSubscriptionTo name) (fun _ _ => rfl) with
        ⟨i, entry, _, _, found, searched⟩ | ⟨_, missing, searched⟩
      · simp only [searched, found]
      · simp only [searched, missing]
  · rfl

theorem Represents.saveSubscription (r : q.Represents p) {i : Nat} (inside : i < RecordFile.capacity)
    (entry : EntrySubscription) (short : entry.topicName.length < 255) :
    (q.save (q.filename .subscribe) (i * EntrySubscription.codec.size) (EntrySubscription.codec.encode entry)).Represents
      (p.modifyFiles fun files => { files with sub := RecordFile.put .zero files.sub i entry }) := by
  have stored := r.stored.files p.entryClient.fileNumber
  refine r.saveFile (near_of_capacity inside (by decide)) EntrySubscription.codec.write_file.symm ?_ ?_
  · intro other different
    cases other <;> first | rfl | exact absurd rfl different
  · refine ⟨stored.reg, fun other member => ?_, stored.wil, stored.pub⟩
    rcases BinaryFile.mem_put member with rfl | rfl | old
    · exact short
    · decide
    · exact stored.sub other old

theorem Represents.addSubscription (r : q.Represents p) (room : Roomy p) (topicName : CString) (topicId : UInt16)
    (qos : UInt8) : (q.addSubscription topicName topicId qos).Represents (p.addSubscription topicName topicId qos) := by
  obtain ⟨card, rfl, _⟩ := r.onCard
  unfold SDPersistentImpl.addSubscription Persistent.addSubscription
  refine .ite (fun _ => ?_) fun _ => r
  cases valid : Persistent.validName (some topicName) with
  | none => exact r
  | some name =>
    have short : name.length < 255 := (named_of_validName valid).2.2
    refine .ite (fun _ => r) fun nonzero => ?_
    have disjoint : ∀ entry : EntrySubscription,
        (decide (entry.topicId = topicId) && Persistent.isSubscriptionTo name entry) = true → entry.isEmpty = false := by
      intro entry subscribed
      simp only [Bool.and_eq_true, decide_eq_true_eq] at subscribed
      unfold EntrySubscription.isEmpty
      rw [subscribed.1, decide_eq_false nonzero]
      rfl
    rcases searchSubscription_cases r EntrySubscription.isEmpty _ disjoint with
      ⟨i, entry, first, _, _, searched⟩ | ⟨missing, _, searched⟩
    · simp only [searched]
      rw [← List.findIdx?_isSome, first]
      exact r
    · simp only [searched]
      rw [← List.findIdx?_isSome, missing]
      obtain ⟨position, free, inside⟩ := room_of_lt EntrySubscription.isEmpty room.sub
      rw [FileLinuxFake.firstEmptySpace_eq, free]
      refine (r.saveSubscription inside ⟨topicId, qos, name⟩ short).congr (modifyFiles_congr ?_)
      unfold Persistent.appendSubscription
      rw [free]
      simp only [RecordFile.putAt_ofNat, RecordFile.behind_ofNat, Nat.add_zero]

theorem Represents.deleteSubscription (r : q.Represents p) (room : Roomy p) (topicId : UInt16) :
    (q.deleteSubscription topicId).Represents (p.deleteSubscription topicId) := by
  obtain ⟨card, rfl, holds⟩ := r.onCard
  unfold SDPersistentImpl.deleteSubscription Persistent.deleteSubscription
  refine .ite (fun _ => r) fun _ => .ite (fun _ => r) fun _ => ?_
  rcases searchSubscription_cases r (fun _ => false) (fun entry => entry.topicId = topicId) (fun _ _ => rfl) with
    ⟨i, entry, first, found, _, searched⟩ | ⟨missing, _, searched⟩
  · have before := (List.getElem?_eq_some_iff.mp found).1
    have inside := Nat.lt_trans before room.sub
    simp only [searched, first, mod_of_capacity inside]
    rw [← EntrySubscription.codec.encode_zero]
    refine (r.saveSubscription inside .zero (by decide)).congr (modifyFiles_congr ?_)
    simp only [RecordFile.put, if_pos before]
  · simp only [searched, missing]
    exact ⟨rfl, holds, r.stored, r.entry⟩

theorem Represents.getNthSubscribedTopicId (r : q.Represents p) (n : UInt16) :
    q.getNthSubscribedTopicId n = p.getNthSubscribedTopicId n.toNat := by
  obtain ⟨card, rfl, holds⟩ := r.onCard
  have content : card ((p.onCard card).filename .subscribe) = EntrySubscription.codec.file p.files.sub :=
    holds.files _ r.entry.numbered .subscribe
  have position : (((n.toNat : Int) * EntrySubscription.codec.size) % 4294967296).toNat =
      n.toNat * EntrySubscription.codec.size := by
    have size : EntrySubscription.codec.size = 258 := rfl
    have bound := n.toNat_lt
    rw [size]
    omega
  have memory : (((p.onCard card).openRead .subscribe).seek (n.toNat * EntrySubscription.codec.size)).readBytes card
      EntrySubscription.codec.size = (p.files.sub[n.toNat]?.map EntrySubscription.codec.encode).getD [] := by
    unfold FileLinuxFake.readBytes FileLinuxFake.seek openRead SDLinuxFake.open
    simp only [if_true]
    rw [position, content, EntrySubscription.codec.read_file]
  unfold SDPersistentImpl.getNthSubscribedTopicId Persistent.getNthSubscribedTopicId
  refine ite_congr rfl (fun _ => rfl) fun _ => ?_
  rw [List.getD_eq_getElem?_getD]
  simp only [onCard_card, memory]
  cases found : p.files.sub[n.toNat]? with
  | none => rfl
  | some entry =>
    have short := (r.stored.files _).sub entry (List.mem_of_getElem? found)
    simp only [Option.map_some, Option.getD_some, EntrySubscription.codec.length_encode, decide_true, Bool.true_and,
      EntrySubscription.ofMemory_encode short]
    by_cases zero : entry.topicId = 0 <;> simp [zero]

theorem Represents.getClientSubscriptionCount (r : q.Represents p) :
    q.getClientSubscriptionCount = p.getClientSubscriptionCount := by
  obtain ⟨card, rfl, holds⟩ := r.onCard
  have content : card ((p.onCard card).filename .subscribe) = EntrySubscription.codec.file p.files.sub :=
    holds.files _ r.entry.numbered .subscribe
  have loop : ((p.onCard card).openRead .subscribe).scan card EntrySubscription.codec.size (fun memory number count =>
        if memory.length = EntrySubscription.codec.size then countPass (EntrySubscription.ofMemory memory) number count
        else .next count) 0 =
      passes countPass (fun _ count => .next count) p.files.sub 0 0 := by
    unfold FileLinuxFake.scan openRead SDLinuxFake.open
    simp only [if_true]
    have view := EntrySubscription.view (r.stored.files p.entryClient.fileNumber).sub
    conv_rhs => rw [show p.files.sub = _ from view.symm]
    rw [content, EntrySubscription.codec.scan_file, ← passes_map]
    congr 1
    funext record number count
    rw [if_pos (EntrySubscription.codec.length_encode record)]
  have every : ∀ (entry : EntrySubscription) (number count : Nat), countPass entry number count =
      .next (if decide (entry.topicId ≠ 0) then count + 1 else count) := by
    intro entry number count
    unfold countPass
    simp only [decide_eq_true_eq]
  unfold SDPersistentImpl.getClientSubscriptionCount Persistent.getClientSubscriptionCount
  refine ite_congr rfl (fun _ => ?_) fun _ => rfl
  rw [onCard_card, loop, passes_all every, changes_count, Nat.zero_add, Nat.zero_add]
  rfl

end Subscriptions

end SDPersistentImpl

end MqttSnGateway
