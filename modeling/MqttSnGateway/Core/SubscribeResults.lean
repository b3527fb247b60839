import MqttSnGateway.Core.Handled

namespace MqttSnGateway

open Persistent Store RecordFile

section Counting

variable {table : List EntryMqttSubscription} {name : CString}

/-- A topic comes to be counted once just when it was not counted and the table takes it. -/
theorem CountsOk.incremented_one_iff (ok : CountsOk table) (named : IsTopicName name) :
    countOf (Persistent.incrementCount table name) name = 1 ↔
      countOf table name = 0 ∧ Room EntryMqttSubscription.isEmpty table := by
  by_cases absent : countOf table name = 0
  · by_cases room : Room EntryMqttSubscription.isEmpty table
    · have counted : countOf (Persistent.incrementCount table name) name =
          countOf table name + if name = name then 1 else 0 :=
        ok.countOf_incrementCount named (.inr room) (by omega)
      rw [counted, if_pos rfl, absent]
      simp [room]
    · rw [ok.incrementCount_full fun free => free.elim (by omega) room]
      simp [absent, room]
  · simp only [absent, false_and, iff_false]
    intro one
    have present : table.findIdx? (isCountOf name) ≠ none := fun scan => absent (countOf_eq_zero.mpr scan)
    obtain ⟨i, scan⟩ := Option.ne_none_iff_exists'.mp present
    obtain ⟨old, found, holds⟩ := findIdx?_getElem? scan
    have inside := (List.getElem?_eq_some_iff.mp found).1
    unfold Persistent.incrementCount countOf at one
    rw [scan] at one
    simp only at one
    rw [modify_eq_put .zero found] at one
    cases read : (RecordFile.put EntryMqttSubscription.zero table i
        { old with clientSubscriptionCount := old.clientSubscriptionCount + 1 }).find? (isCountOf name) with
    | none =>
      rw [read] at one
      cases one
    | some record =>
      rw [read] at one
      obtain ⟨j, here⟩ := List.mem_iff_getElem?.mp (List.mem_of_find?_eq_some read)
      rw [getElem?_put (by omega)] at here
      split at here
      · cases here
        have value : old.clientSubscriptionCount + 1 = 1 := UInt32.toNat_inj.mp one
        apply (isCountOf_iff.mp holds).1
        calc old.clientSubscriptionCount = old.clientSubscriptionCount + 1 - 1 := by simp
          _ = 0 := by rw [value]; rfl
      · rename_i elsewhere
        exact elsewhere (ok.single name j i record old here found (List.find?_some read) holds)

theorem EntryMqttSubscription.eq_zero_of_isEmpty {entry : EntryMqttSubscription} (empty : entry.isEmpty = true) :
    entry = .zero := by
  unfold EntryMqttSubscription.isEmpty at empty
  simp only [Bool.and_eq_true, decide_eq_true_eq] at empty
  obtain ⟨count, topicName⟩ := entry
  have unnamed : topicName = .empty := CString.length_eq_zero.mp empty.2
  rw [show count = 0 from empty.1, unnamed]
  rfl

/-- A count that is taken back leaves the table as it was, if it had an empty record for it. -/
theorem CountsOk.decrement_increment_iff (ok : CountsOk table) (named : IsTopicName name)
    (absent : countOf table name = 0) (room : Room EntryMqttSubscription.isEmpty table) :
    Persistent.decrementCount (Persistent.incrementCount table name) name = table ↔
      ∃ record ∈ table, EntryMqttSubscription.isEmpty record = true := by
  have scan := countOf_eq_zero.mp absent
  obtain ⟨position, free, adjacent, small, empty⟩ := freeSpace_room ok.short room
  have incremented : Persistent.incrementCount table name = RecordFile.put .zero table position ⟨1, name⟩ := by
    unfold Persistent.incrementCount
    rw [scan]
    simp only
    rw [free, putAt_ofNat]
  have placed : (RecordFile.put EntryMqttSubscription.zero table position ⟨1, name⟩)[position]? = some ⟨1, name⟩ :=
    getElem?_put_self
  have counted : isCountOf name ⟨1, name⟩ = true := isCountOf_iff.mpr ⟨by simp, named.2, rfl⟩
  have single : ∀ i record, (RecordFile.put EntryMqttSubscription.zero table position ⟨1, name⟩)[i]? = some record →
      isCountOf name record = true → i = position := by
    intro i record found holds
    rw [getElem?_put adjacent] at found
    split at found
    · assumption
    · rw [findIdx?_none_getElem? scan found] at holds
      cases holds
  have again : (RecordFile.put EntryMqttSubscription.zero table position ⟨1, name⟩).findIdx? (isCountOf name) = some position := by
    rw [List.findIdx?_eq_some_iff_getElem]
    obtain ⟨inside, same⟩ := List.getElem?_eq_some_iff.mp placed
    refine ⟨inside, by rw [same]; exact counted, ?_⟩
    intro j before holds
    have here := single j _ (List.getElem?_eq_getElem (Nat.lt_trans before inside)) holds
    omega
  have decremented : Persistent.decrementCount (Persistent.incrementCount table name) name = RecordFile.put .zero table position .zero := by
    unfold Persistent.decrementCount
    rw [incremented, again]
    simp only
    have last : (1 : UInt32) - 1 = 0 := by decide
    rw [modify_eq_put .zero placed, put_put, if_pos last]
  rw [decremented]
  constructor
  · intro same
    have length := congrArg List.length same
    rw [length_put] at length
    have inside : position < table.length := by omega
    exact ⟨table[position], List.getElem_mem inside, empty _ (List.getElem?_eq_getElem inside)⟩
  · intro ⟨record, member, hole⟩
    have inside : position < table.length := by
      unfold freeSpace at free
      cases last : lastIdx? EntryMqttSubscription.isEmpty table with
      | none =>
        rw [lastIdx?_none.mp last record member] at hole
        cases hole
      | some i =>
        rw [last] at free
        obtain ⟨other, found, _⟩ := lastIdx?_some last
        have bound := (List.getElem?_eq_some_iff.mp found).1
        simp only at free
        omega
    have zero := EntryMqttSubscription.eq_zero_of_isEmpty (empty _ (List.getElem?_eq_getElem inside))
    unfold RecordFile.put
    rw [if_pos inside, ← zero, List.set_getElem_self]

end Counting

section Registering

variable {files : ClientFiles} {name : CString}

/-- The registration table has the name, or takes it. -/
def CanRegister (files : ClientFiles) (name : CString) : Prop :=
  (∃ entry ∈ files.reg, entry.topicName = name) ∨ files.reg.length < capacity

/-- The client has a place for a registration and for a subscription. -/
def Storable (files : ClientFiles) (name : CString) : Prop :=
  CanRegister files name ∧ Room EntrySubscription.isEmpty files.sub

theorem ClientFiles.Ok.registerName_given_iff (ok : files.Ok) (short : name.length < 255) :
    (Persistent.registerName files name).1 ≠ 0 ↔ CanRegister files name := by
  rcases ok.registerName_cases name with ⟨entry, member, named, same⟩ | ⟨room, appended⟩ | ⟨last, full⟩
  · rw [same]
    exact iff_of_true (ok.topicId_ne_zero member) (.inl ⟨entry, member, named⟩)
  · rw [appended]
    refine iff_of_true ?_ (.inr room)
    intro zero
    have bytes : (UInt16.ofNat (files.reg.length + 1)).toNat = 0 := congrArg UInt16.toNat zero
    unfold capacity at room
    rw [UInt16.toNat_ofNat'] at bytes
    omega
  · refine iff_of_false (fun given => given (by rw [full])) ?_
    rintro (⟨entry, member, named⟩ | room)
    · obtain ⟨other, known, same⟩ := ok.registerName_known member named short
      rw [full] at same
      exact ok.topicId_ne_zero known (congrArg Prod.fst same).symm
    · omega

end Registering

namespace Gateway

variable {g : Gateway} {address : DeviceAddress} {n : Nat} {name : CString} {topicId newTopicId id : UInt16}
  {shortTopic : Bool} {qos : UInt8} {s : Store}

def RefusesSubscribe (g : Gateway) : Prop := g.isConnected = false ∨ g.answers.headD true = false

theorem paho_subscribe_refused : (pahoMqttMessageHandler.subscribe g name 1).1 = false ↔ g.RefusesSubscribe := by
  unfold pahoMqttMessageHandler RefusesSubscribe
  simp only
  rw [if_neg (by decide)]
  have answer : (g.call (.subscribe name 1)).request.1 = (g.isConnected && g.answers.headD true) := rfl
  rw [← Bool.and_eq_false_iff, ← answer]
  generalize (g.call (.subscribe name 1)).request = outcome
  obtain ⟨granted, between⟩ := outcome
  cases granted <;> simp

theorem topicToUnsubscribe_eq (found : g.store.slotOfAddress address = some n) :
    g.store.topicToUnsubscribe g.persistent.topicsPre address topicId shortTopic =
      (g.store.topicOf g.persistent.topicsPre n topicId shortTopic).map Prod.fst := by
  unfold topicToUnsubscribe Store.topicOf
  rw [entryAt_found found]
  cases shortTopic with
  | true =>
    simp only [if_true]
    split
    · rfl
    · rw [Option.map_map]
      exact Option.map_id.symm ▸ rfl
  | false =>
    simp only [Bool.false_eq_true, if_false]
    rw [Option.map_map]
    exact Option.map_id.symm ▸ rfl

theorem topicOf_keeps (known : g.store.topicOf g.persistent.topicsPre n topicId shortTopic = some (name, id, s)) :
    s.mqttSub = g.store.mqttSub ∧ ∀ number, (s.files number).sub = (g.store.files number).sub := by
  cases Store.topicOf_found known with
  | registered _ _ => exact ⟨rfl, fun _ => rfl⟩
  | predefined _ =>
    refine ⟨rfl, fun number => ?_⟩
    unfold Store.setFiles
    rw [files_modifyFiles]
    split
    · rename_i own
      rw [own, ClientFiles.sub_registerName]
    · rfl

theorem topicOf_counters (known : g.store.topicOf g.persistent.topicsPre n topicId shortTopic = some (name, id, s)) :
    s.mqttSubBehind = g.store.mqttSubBehind ∧ s.overruns = g.store.overruns ∧
      ∀ number, (s.files number).subBehind = (g.store.files number).subBehind := by
  cases Store.topicOf_found known with
  | registered _ _ => exact ⟨rfl, rfl, fun _ => rfl⟩
  | predefined _ =>
    refine ⟨rfl, rfl, fun number => ?_⟩
    unfold Store.setFiles
    rw [files_modifyFiles]
    split
    · rename_i own
      rw [own, ClientFiles.subBehind_registerName]
    · rfl

theorem topicOf_short (known : g.store.topicOf g.persistent.topicsPre n topicId shortTopic = some (name, id, s)) :
    name.length < 255 := by
  cases Store.topicOf_found known with
  | registered _ registered =>
    unfold registeredName at registered
    obtain ⟨entry, scan, rfl⟩ := Option.map_eq_some_iff.mp registered
    have holds := List.find?_some scan
    simp only [Bool.and_eq_true, decide_eq_true_eq] at holds
    exact holds.2
  | predefined predefined => exact g.persistent.topicsPre.short _ _ predefined

theorem topicOf_given_iff (ok : g.store.Ok)
    (known : g.store.topicOf g.persistent.topicsPre n topicId shortTopic = some (name, id, s)) :
    id ≠ 0 ↔ CanRegister (g.store.files (g.store.nthClient n).fileNumber) name := by
  have short := topicOf_short known
  cases Store.topicOf_found known with
  | registered used registered =>
    obtain ⟨i, entry, found, _, named, _⟩ := (ok.files _).registeredName_some registered
    exact iff_of_true used (.inl ⟨entry, List.mem_of_getElem? found, named⟩)
  | predefined _ => exact (ok.files _).registerName_given_iff short

/-- A new subscription is stored if it has an id and a place. -/
theorem subscribes_subscribe_iff (id : UInt16) (qos : UInt8) (ok : s.Ok) (named : IsTopicName name)
    (fresh : ¬ (s.files (s.nthClient n).fileNumber).Subscribes name) :
    ((s.subscribe n name id qos).files (s.nthClient n).fileNumber).Subscribes name ↔
      id ≠ 0 ∧ Room EntrySubscription.isEmpty (s.files (s.nthClient n).fileNumber).sub := by
  have filesOk := ok.files (s.nthClient n).fileNumber
  unfold Store.subscribe
  by_cases zero : id = 0
  · simp only [zero, if_true]
    exact iff_of_false fresh fun both => both.1 rfl
  · simp only [zero, if_false]
    unfold Store.setFiles
    rw [files_modifyFiles_self]
    by_cases room : Room EntrySubscription.isEmpty (s.files (s.nthClient n).fileNumber).sub
    · refine iff_of_true ?_ ⟨zero, room⟩
      exact (filesOk.subscribes_appendSubscription room named).mpr (.inl rfl)
    · refine iff_of_false ?_ fun both => room both.2
      rw [filesOk.appendSubscription_unstored ⟨id, qos, name⟩ room]
      exact fresh

section Unanswered

variable {after : Gateway}

/-- Nothing has been sent and the socket is as before. -/
structure Unanswered (g after : Gateway) : Prop where
  sent : after.sent = g.sent
  socketOpen : after.socketOpen = g.socketOpen

theorem Unanswered.send {between : Gateway} {message : SnMessage} (unanswered : g.Unanswered between)
    (socket : g.socketOpen = true) (silent : g.sent = []) : (between.send address message).sent = [(address, message)] := by
  rw [sent_send (unanswered.socketOpen.trans socket), unanswered.sent, silent]
  rfl

theorem Unanswered.settled {s : Store} {entry : EntryClient} : g.Unanswered (g.settled s entry) := ⟨rfl, rfl⟩

theorem Called.unanswered (called : g.Called after) : g.Unanswered after := ⟨called.sent, called.socketOpen⟩

theorem Unanswered.trans {last : Gateway} (first : g.Unanswered after) (second : after.Unanswered last) :
    g.Unanswered last := ⟨second.sent.trans first.sent, second.socketOpen.trans first.socketOpen⟩

theorem Subscription.unanswered {name : CString} {id : UInt16} {s : Store}
    (subscription : Subscription g n name id qos s after) : g.Unanswered after := by
  cases subscription with
  | again _ => exact .settled
  | counted _ _ _ => exact .settled
  | first _ _ _ granted => exact Unanswered.settled.trans (paho_subscribe_granted granted).unanswered
  | refused _ _ _ refused => exact (Unanswered.settled.trans (paho_subscribe_granted refused).unanswered).trans .settled

theorem addSubscription_unanswered (idle : g.persistent.Idle) (topicId newTopicId : UInt16) (shortTopic : Bool)
    (qos : UInt8) :
    g.Unanswered (addSubscription pahoMqttMessageHandler g address topicId shortTopic qos newTopicId).2.2.2 := by
  cases online : g.persistent.isMqttOnline with
  | false =>
    rw [addSubscription_offline online]
    exact ⟨rfl, rfl⟩
  | true =>
    cases selection : g.store.slotOfAddress address with
    | none =>
      rw [addSubscription_missing idle online selection]
      exact .settled
    | some n =>
      cases known : g.store.topicOf g.persistent.topicsPre n topicId shortTopic with
      | none =>
        rw [addSubscription_unknown idle online selection known]
        exact .settled
      | some topic => exact (addSubscription_subscription idle online selection known).unanswered

theorem Unsubscription.unanswered {topicId : UInt16} {topicName : Option CString}
    (unsubscription : Unsubscription g address topicId topicName after) :
    g.Unanswered after := by
  cases unsubscription with
  | skipped _ _ => exact .settled
  | counted _ _ _ => exact .settled
  | last _ _ _ => exact Unanswered.settled.trans paho_unsubscribe_called.unanswered
  | failed _ _ => exact Unanswered.settled.trans paho_unsubscribe_called.unanswered

end Unanswered

section Outcome

/-- The client that asks is the first to subscribe to the topic, so the broker is asked. -/
def FirstSubscriber (s : Store) (name : CString) : Prop :=
  countOf s.mqttSub name = 0 ∧ Room EntryMqttSubscription.isEmpty s.mqttSub

theorem counted_subscribe_iff (ok : s.Ok) (named : IsTopicName name) :
    countOf (s.subscribe n name id qos).mqttSub name = 1 ↔ FirstSubscriber s name :=
  ok.counts.incremented_one_iff named

/-- A new subscription is accepted, unless it is the first of its topic and the broker refuses. -/
theorem addSubscription_accepted (qos : UInt8) (newTopicId : UInt16) (ok : g.store.Ok) (idle : g.persistent.Idle) (online : g.persistent.isMqttOnline = true)
    (found : g.store.slotOfAddress address = some n)
    (known : g.store.topicOf g.persistent.topicsPre n topicId shortTopic = some (name, id, s))
    (named : IsTopicName name) (fresh : ¬ (s.files (g.store.nthClient n).fileNumber).Subscribes name)
    (granted : ¬ (FirstSubscriber g.store name ∧ g.RefusesSubscribe)) :
    ∃ after, addSubscription pahoMqttMessageHandler g address topicId shortTopic qos newTopicId =
        (.success, id, grantedQos qos, after) ∧ after.store = s.subscribe n name id (grantedQos qos) := by
  have first : countOf (s.subscribe n name id (grantedQos qos)).mqttSub name = 1 ↔ FirstSubscriber g.store name := by
    rw [counted_subscribe_iff (ok.topicOf known).1 named]
    unfold FirstSubscriber
    rw [(topicOf_keeps known).1]
  rw [addSubscription_known idle online found known, subscribeTo_new (nthClient_topicOf known).symm named fresh]
  by_cases alone : countOf (s.subscribe n name id (grantedQos qos)).mqttSub name = 1
  · rw [if_pos alone]
    generalize asked : pahoMqttMessageHandler.subscribe
      (g.settled (s.subscribe n name id (grantedQos qos)) (g.store.nthClient n)) name 1 = outcome
    obtain ⟨answer, after⟩ := outcome
    cases answer with
    | true => exact ⟨after, rfl, (paho_subscribe_granted asked).store⟩
    | false =>
      have refuses : (g.settled (s.subscribe n name id (grantedQos qos)) (g.store.nthClient n)).RefusesSubscribe :=
        paho_subscribe_refused.mp (congrArg Prod.fst asked)
      exact absurd ⟨first.mp alone, refuses⟩ granted
  · rw [if_neg alone]
    exact ⟨_, rfl, rfl⟩

theorem addSubscription_refused (qos : UInt8) (newTopicId : UInt16) (ok : g.store.Ok) (idle : g.persistent.Idle) (online : g.persistent.isMqttOnline = true)
    (found : g.store.slotOfAddress address = some n)
    (known : g.store.topicOf g.persistent.topicsPre n topicId shortTopic = some (name, id, s))
    (named : IsTopicName name) (fresh : ¬ (s.files (g.store.nthClient n).fileNumber).Subscribes name)
    (alone : FirstSubscriber g.store name) (refuses : g.RefusesSubscribe) :
    ∃ after, addSubscription pahoMqttMessageHandler g address topicId shortTopic qos newTopicId =
        (.zero, id, grantedQos qos, after) ∧
      after.store = (s.subscribe n name id (grantedQos qos)).uncount (some name) := by
  have counted : countOf (s.subscribe n name id (grantedQos qos)).mqttSub name = 1 := by
    rw [counted_subscribe_iff (ok.topicOf known).1 named]
    unfold FirstSubscriber at alone ⊢
    rw [(topicOf_keeps known).1]
    exact alone
  rw [addSubscription_known idle online found known, subscribeTo_new (nthClient_topicOf known).symm named fresh,
    if_pos counted]
  generalize asked : pahoMqttMessageHandler.subscribe
    (g.settled (s.subscribe n name id (grantedQos qos)) (g.store.nthClient n)) name 1 = outcome
  have answer : outcome.1 = false := by
    rw [← asked]
    exact paho_subscribe_refused.mpr refuses
  obtain ⟨granted, after⟩ := outcome
  cases answer
  have kept := (paho_subscribe_granted asked).persistent
  refine ⟨_, rfl, ?_⟩
  show (after.persistent.decrementGlobalSubscriptionCount (some name)).store = _
  rw [kept, persistent_settled, decrement_settled]
  rfl

end Outcome

end Gateway

end MqttSnGateway
