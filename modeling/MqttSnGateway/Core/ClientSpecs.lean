import MqttSnGateway.Core.TopicSpecs

namespace MqttSnGateway

open Persistent

def EntryClient.new (clientId : CString) (n : Nat) (address : DeviceAddress) (duration : UInt32) : EntryClient :=
  { clientId := clientId, fileNumber := MqttSnGateway.fileNumber n, clientAddress := address
    clientStatus := .active, duration := duration, timeout := 0, awaitMessageId := 0, awaitMessage := .pingreq }

/-- What a CONNECT without clean session makes of an entry. -/
def EntryClient.reset (entry : EntryClient) (clientId : CString) (address : DeviceAddress) (duration : UInt32) :
    EntryClient :=
  { entry with
    clientId := clientId, clientStatus := .active, clientAddress := address
    duration := duration, timeout := 0, awaitMessageId := 0, awaitMessage := .pingreq }

/-- What `delete_client` leaves of the four files of a client. -/
def ClientFiles.deleted (files : ClientFiles) (sd : SDLinuxFake) (number : CString) : ClientFiles :=
  let files := sd.deleteFile number files .registration
  let files := sd.deleteFile number files .subscribe
  let files := sd.deleteFile number files .will
  sd.deleteFile number files .publish

namespace Store

def deleteClient (s : Store) (sd : SDLinuxFake) (number clientId : CString) : Store :=
  let s := s.modifyFiles number fun files => files.deleted sd number
  match s.slotOfId clientId with
  | some n => s.writeSlot n .zero
  | none => s

def insertClient (s : Store) (clientId : CString) (address : DeviceAddress) (duration : UInt32) : Store :=
  s.writeSlot s.findEmptyEntrySpace (.new clientId s.findEmptyEntrySpace address duration)

/-- One round of `remove_client_subscriptions` on the subscription at position `i`. -/
def removeSubscription (s : Store) (number : CString) (i : Nat) (name : CString) : Store :=
  (s.modifyFiles number fun files => { files with sub := files.sub.set i .zero }).uncount (some name)

end Store

section Uncount

variable {s : Store} {topicName : Option CString}

@[simp] theorem Store.clients_uncount : (s.uncount topicName).clients = s.clients := by
  unfold Store.uncount
  split <;> rfl

@[simp] theorem Store.files_uncount : (s.uncount topicName).files = s.files := by
  unfold Store.uncount
  split <;> rfl

end Uncount

namespace Gateway

variable {g : Gateway} {address : DeviceAddress} {n : Nat}

section Removal

variable {s : Store} {entry : EntryClient}

def subscriptionCount (sub : List EntrySubscription) : Nat := sub.countP fun entry => entry.topicId ≠ 0

theorem getClientSubscriptionCount_inside {p : Persistent} (short : (s.files entry.fileNumber).sub.length ≤ RecordFile.capacity) :
    (p.inside s entry false false).getClientSubscriptionCount =
      subscriptionCount (s.files entry.fileNumber).sub := by
  unfold getClientSubscriptionCount subscriptionCount
  rw [if_pos (by rfl)]
  have bound := List.countP_le_length (p := fun entry : EntrySubscription => decide (entry.topicId ≠ 0))
    (l := (s.files entry.fileNumber).sub)
  unfold RecordFile.capacity at short
  exact Nat.mod_eq_of_lt (by simp only [files_inside]; omega)

/-- The gateway after a round: it unsubscribes the topic whose count has come to zero. -/
def afterRemoval (g : Gateway) (s : Store) (name : CString) : Gateway :=
  if countOf s.mqttSub name = 0 then (pahoMqttMessageHandler.unsubscribe g (some name)).2 else g

theorem afterRemoval_called {name : CString} : g.Called (g.afterRemoval s name) := by
  unfold afterRemoval
  split
  · exact paho_unsubscribe_called
  · exact Called.refl

theorem paho_unsubscribe_inside {topicName : Option CString} :
    (pahoMqttMessageHandler.unsubscribe (g.inside s entry false false) topicName).2 =
      (pahoMqttMessageHandler.unsubscribe g topicName).2.inside s entry false false := by
  unfold inside
  rw [paho_unsubscribe_with, paho_unsubscribe_called.persistent]

def removalRound (g : Gateway) : Gateway :=
  let topicId := g.persistent.getNthSubscribedTopicId (g.persistent.getClientSubscriptionCount - 1)
  let topicName := g.persistent.getTopicName topicId
  let g := g.update fun p => p.deleteSubscription topicId
  let g := g.update fun p => p.decrementGlobalSubscriptionCount topicName
  if g.persistent.getGlobalTopicSubscriptionCount topicName = 0 then (pahoMqttMessageHandler.unsubscribe g topicName).2
  else g

theorem removeClientSubscriptionsLoop_succ {fuel : Nat} (left : g.persistent.getClientSubscriptionCount ≠ 0) :
    removeClientSubscriptionsLoop pahoMqttMessageHandler (fuel + 1) g =
      removeClientSubscriptionsLoop pahoMqttMessageHandler fuel g.removalRound := by
  rw [removeClientSubscriptionsLoop]
  rw [if_neg left]
  rfl

theorem removeClientSubscriptionsLoop_zero (left : g.persistent.getClientSubscriptionCount ≠ 0) :
    removeClientSubscriptionsLoop pahoMqttMessageHandler 0 g = none := by
  rw [removeClientSubscriptionsLoop]
  rw [if_neg left]

/-- A round on a subscription takes it away, counts its topic down and unsubscribes the topic at zero. -/
theorem removalRound_used {i : Nat} {record : EntrySubscription} (ok : (s.files entry.fileNumber).Ok)
    (total : subscriptionCount (s.files entry.fileNumber).sub = i + 1)
    (found : (s.files entry.fileNumber).sub[i]? = some record) (used : record.topicId ≠ 0) :
    (g.inside s entry false false).removalRound =
      (g.afterRemoval (s.removeSubscription entry.fileNumber i record.topicName) record.topicName).inside
        (s.removeSubscription entry.fileNumber i record.topicName) entry false false := by
  obtain ⟨named, registered⟩ := ok.filled found used
  have count := getClientSubscriptionCount_inside (p := g.persistent) ok.subShort
  rw [total] at count
  have nth : (g.persistent.inside s entry false false).getNthSubscribedTopicId i = record.topicId := by
    unfold getNthSubscribedTopicId
    rw [if_neg (by simp), files_inside, List.getD_eq_getElem?_getD, found]
    rfl
  have name : (g.persistent.inside s entry false false).getTopicName record.topicId = some record.topicName := by
    rw [getTopicName_inside, if_neg used, registered]
  have scan : (s.files entry.fileNumber).sub.findIdx? (fun other => other.topicId = record.topicId) = some i := by
    rw [List.findIdx?_eq_some_iff_getElem]
    have inside := (List.getElem?_eq_some_iff.mp found).1
    have same := (List.getElem?_eq_some_iff.mp found).2
    refine ⟨inside, by simp only [same, decide_true], ?_⟩
    intro j before matched
    have other := List.getElem?_eq_getElem (Nat.lt_trans before inside)
    have equal := ok.sub_unique other found used (by simpa using matched)
    omega
  have deleted : ((g.inside s entry false false).update fun p => p.deleteSubscription record.topicId).update
      (fun p => p.decrementGlobalSubscriptionCount (some record.topicName)) =
      g.inside (s.removeSubscription entry.fileNumber i record.topicName) entry false false := by
    have written := deleteSubscription_inside g s entry false record.topicId (some record.topicName)
    unfold Store.unsubscribe at written
    rw [if_neg used, scan] at written
    exact update_inside (f := fun p => (p.deleteSubscription record.topicId).decrementGlobalSubscriptionCount
      (some record.topicName)) written
  have last : (g.inside (s.removeSubscription entry.fileNumber i record.topicName) entry false
      false).persistent.getGlobalTopicSubscriptionCount (some record.topicName) = 0 ↔
      countOf (s.removeSubscription entry.fileNumber i record.topicName).mqttSub record.topicName = 0 := by
    rw [countOfTopic_eq (by rfl)]
    unfold Store.countOfTopic
    rw [validName_named named]
    rfl
  rw [persistent_inside] at last
  unfold removalRound
  simp only [persistent_inside, count, Nat.add_sub_cancel, nth, name, deleted]
  unfold afterRemoval
  by_cases zero : countOf (s.removeSubscription entry.fileNumber i record.topicName).mqttSub record.topicName = 0
  · rw [if_pos (last.mpr zero), if_pos zero, paho_unsubscribe_inside]
  · rw [if_neg (fun read => zero (last.mp read)), if_neg zero]

theorem removalRound_hole (ok : (s.files entry.fileNumber).Ok)
    (hole : ((s.files entry.fileNumber).sub.getD (subscriptionCount (s.files entry.fileNumber).sub - 1) .zero).topicId = 0) :
    (g.inside s entry false false).removalRound =
      (pahoMqttMessageHandler.unsubscribe g none).2.inside s entry false false := by
  have count := getClientSubscriptionCount_inside (p := g.persistent) ok.subShort
  have nth : (g.persistent.inside s entry false false).getNthSubscribedTopicId
      (subscriptionCount (s.files entry.fileNumber).sub - 1) = 0 := by
    unfold getNthSubscribedTopicId
    rw [if_neg (by simp), files_inside, hole]
  have unchanged : ((g.inside s entry false false).update fun p => p.deleteSubscription 0).update
      (fun p => p.decrementGlobalSubscriptionCount none) = g.inside s entry false false := rfl
  have nameless : (g.persistent.inside s entry false false).getTopicName 0 = none := rfl
  have uncounted : (g.persistent.inside s entry false false).getGlobalTopicSubscriptionCount none = 0 := rfl
  unfold removalRound
  simp only [persistent_inside, count, nth, nameless, unchanged]
  rw [if_pos uncounted, paho_unsubscribe_inside]

theorem removeClientSubscriptionsLoop_round {fuel i : Nat} {record : EntrySubscription}
    (ok : (s.files entry.fileNumber).Ok) (total : subscriptionCount (s.files entry.fileNumber).sub = i + 1)
    (found : (s.files entry.fileNumber).sub[i]? = some record) (used : record.topicId ≠ 0) :
    removeClientSubscriptionsLoop pahoMqttMessageHandler (fuel + 1) (g.inside s entry false false) =
      removeClientSubscriptionsLoop pahoMqttMessageHandler fuel
        ((g.afterRemoval (s.removeSubscription entry.fileNumber i record.topicName) record.topicName).inside
          (s.removeSubscription entry.fileNumber i record.topicName) entry false false) := by
  have count := getClientSubscriptionCount_inside (p := g.persistent) ok.subShort
  rw [removeClientSubscriptionsLoop_succ (by rw [persistent_inside, count]; omega), removalRound_used ok total found used]

/-- A round on an empty record repeats itself for ever. -/
theorem removeClientSubscriptionsLoop_stuck {fuel i : Nat} (ok : (s.files entry.fileNumber).Ok)
    (total : subscriptionCount (s.files entry.fileNumber).sub = i + 1)
    (hole : ((s.files entry.fileNumber).sub.getD i .zero).topicId = 0) :
    removeClientSubscriptionsLoop pahoMqttMessageHandler fuel (g.inside s entry false false) = none := by
  have left : ∀ h : Gateway, (h.inside s entry false false).persistent.getClientSubscriptionCount ≠ 0 := by
    intro h
    rw [persistent_inside, getClientSubscriptionCount_inside ok.subShort]
    omega
  induction fuel generalizing g with
  | zero => exact removeClientSubscriptionsLoop_zero (left g)
  | succ fuel ih =>
    rw [removeClientSubscriptionsLoop_succ (left g), removalRound_hole ok (by rw [total]; exact hole)]
    exact ih

theorem removeClientSubscriptionsLoop_done {fuel : Nat} (ok : (s.files entry.fileNumber).Ok)
    (none_left : subscriptionCount (s.files entry.fileNumber).sub = 0) :
    removeClientSubscriptionsLoop pahoMqttMessageHandler fuel (g.inside s entry false false) =
      some (g.inside s entry false false) := by
  have count := getClientSubscriptionCount_inside (p := g.persistent) ok.subShort
  unfold removeClientSubscriptionsLoop
  simp only [persistent_inside, count]
  rw [if_pos none_left]

/-- The rounds of `remove_client_subscriptions`: each takes one subscription of a file away. -/
inductive Removal (number : CString) (g : Gateway) (s : Store) : Gateway → Store → Prop
  | refl : Removal number g s g s
  | round {g' : Gateway} {s' : Store} {i : Nat} {record : EntrySubscription} (removal : Removal number g s g' s')
    (found : (s'.files number).sub[i]? = some record) (used : record.topicId ≠ 0) :
    Removal number g s (g'.afterRemoval (s'.removeSubscription number i record.topicName) record.topicName)
      (s'.removeSubscription number i record.topicName)

namespace Removal

variable {number other : CString} {g' : Gateway} {s' : Store}

theorem called (removal : Removal number g s g' s') : g.Called g' := by
  induction removal with
  | refl => exact Called.refl
  | round _ _ _ ih => exact ih.trans afterRemoval_called

theorem clients (removal : Removal number g s g' s') : s'.clients = s.clients := by
  induction removal with
  | refl => rfl
  | round _ _ _ ih =>
    rw [← ih]
    exact Store.clients_uncount

theorem files_other (removal : Removal number g s g' s') (different : other ≠ number) :
    s'.files other = s.files other := by
  induction removal with
  | refl => rfl
  | round _ _ _ ih =>
    rw [← ih]
    unfold Store.removeSubscription
    rw [Store.files_uncount, Store.files_modifyFiles, if_neg different]

theorem filesOk (removal : Removal number g s g' s') (ok : (s.files number).Ok) : (s'.files number).Ok := by
  induction removal with
  | refl => exact ok
  | round _ _ _ ih =>
    unfold Store.removeSubscription
    rw [Store.files_uncount, Store.files_modifyFiles_self]
    exact ih.eraseSubscription

end Removal

/-- `remove_client_subscriptions` goes round until the client has no subscription left, or for ever. -/
theorem removeClientSubscriptionsLoop_removal {fuel : Nat} {after : Gateway} (ok : (s.files entry.fileNumber).Ok)
    (returned : removeClientSubscriptionsLoop pahoMqttMessageHandler fuel (g.inside s entry false false) = some after) :
    ∃ g' s', after = g'.inside s' entry false false ∧ Removal entry.fileNumber g s g' s' ∧
      subscriptionCount (s'.files entry.fileNumber).sub = 0 := by
  suffices rounds : ∀ g' s', Removal entry.fileNumber g s g' s' →
      removeClientSubscriptionsLoop pahoMqttMessageHandler fuel (g'.inside s' entry false false) = some after →
      ∃ g'' s'', after = g''.inside s'' entry false false ∧ Removal entry.fileNumber g s g'' s'' ∧
        subscriptionCount (s''.files entry.fileNumber).sub = 0 from rounds g s .refl returned
  clear returned
  induction fuel with
  | zero =>
    intro g' s' removal returned
    have kept := removal.filesOk ok
    cases total : subscriptionCount (s'.files entry.fileNumber).sub with
    | zero =>
      rw [removeClientSubscriptionsLoop_done kept total] at returned
      cases returned
      exact ⟨g', s', rfl, removal, total⟩
    | succ i =>
      have count := getClientSubscriptionCount_inside (p := g'.persistent) kept.subShort
      rw [removeClientSubscriptionsLoop] at returned
      simp only [persistent_inside, count, total] at returned
      rw [if_neg (by omega)] at returned
      cases returned
  | succ fuel ih =>
    intro g' s' removal returned
    have kept := removal.filesOk ok
    cases total : subscriptionCount (s'.files entry.fileNumber).sub with
    | zero =>
      rw [removeClientSubscriptionsLoop_done kept total] at returned
      cases returned
      exact ⟨g', s', rfl, removal, total⟩
    | succ i =>
      by_cases hole : ((s'.files entry.fileNumber).sub.getD i .zero).topicId = 0
      · rw [removeClientSubscriptionsLoop_stuck kept total hole] at returned
        cases returned
      · cases found : (s'.files entry.fileNumber).sub[i]? with
        | none =>
          rw [List.getD_eq_getElem?_getD, found] at hole
          exact absurd rfl hole
        | some record =>
          rw [List.getD_eq_getElem?_getD, found] at hole
          rw [removeClientSubscriptionsLoop_round kept total found hole] at returned
          exact ih _ _ (removal.round found hole) returned

end Removal

section Connect

variable {s : Store} {entry : EntryClient} {clientId : CString} {duration : UInt16} {milliseconds : UInt32}

theorem deleteClient_inside {p : Persistent} (fits : clientId.length < 24)
    (short : (s.files entry.fileNumber).sub.length ≤ RecordFile.capacity)
    (none_left : subscriptionCount (s.files entry.fileNumber).sub = 0) :
    (p.inside s entry false false).deleteClient clientId =
      p.inside (s.deleteClient p.sd entry.fileNumber clientId) .zero true false := by
  have count := getClientSubscriptionCount_inside (p := p) short
  rw [none_left] at count
  unfold Persistent.deleteClient Store.deleteClient
  rw [if_neg (by simp), if_neg (by simp), if_neg (by omega), if_neg (by simp [count])]
  simp only [modifyFiles_inside, Store.modifyFiles_modifyFiles, store_inside, entryClient_inside, sd_inside]
  have gone : s.modifyFiles entry.fileNumber (fun files =>
      p.sd.deleteFile entry.fileNumber (p.sd.deleteFile entry.fileNumber (p.sd.deleteFile entry.fileNumber
        (p.sd.deleteFile entry.fileNumber files .registration) .subscribe) .will) .publish) =
      s.modifyFiles entry.fileNumber fun files => files.deleted p.sd entry.fileNumber := rfl
  rw [gone]
  cases (s.modifyFiles entry.fileNumber fun files => files.deleted p.sd entry.fileNumber).slotOfId clientId <;> rfl

theorem addClient_inside {p : Persistent} {unused : EntryClient} (fits : clientId.length < 24) :
    (p.inside s unused true false).addClient clientId address milliseconds =
      p.inside (s.insertClient clientId address milliseconds)
        (.new clientId s.findEmptyEntrySpace address milliseconds) false false := by
  unfold Persistent.addClient
  rw [if_neg (by simp), if_neg (by simp), if_neg (by simp), if_neg (by omega)]
  rfl

theorem resetClient_inside {p : Persistent} (fits : clientId.length < 24) (found : s.slotOfId clientId = some n) :
    (p.inside s (s.nthClient n) false false).resetClient clientId address milliseconds =
      p.inside (s.writeSlot n ((s.nthClient n).reset clientId address milliseconds))
        ((s.nthClient n).reset clientId address milliseconds) false false := by
  have same : (s.nthClient n).clientId = clientId := by
    have holds := (Store.findIdx?_clients.mp found).2.1
    simp only [Bool.and_eq_true, decide_eq_true_eq] at holds
    exact holds.2
  unfold Persistent.resetClient
  rw [if_neg (by simp), if_neg (by simp), if_neg (by omega), if_neg (by simp [same])]
  simp only [store_inside, found]
  rfl

theorem addClient_offline {clean : Bool} (offline : g.persistent.isMqttOnline = false) :
    addClient pahoMqttMessageHandler g clientId duration clean address = some (.zero, g) := by
  unfold addClient
  rw [if_pos (by simp [offline])]

theorem addClient_long (duration : UInt16) (clean : Bool) (address : DeviceAddress) (idle : g.persistent.Idle) (online : g.persistent.isMqttOnline = true)
    (long : 24 ≤ clientId.length) :
    ∃ after, addClient pahoMqttMessageHandler g clientId duration clean address = some (.zero, after) ∧
      g.Settles g.store after ∧ after.sent = g.sent := by
  have failed : g.persistent.startClientTransactionById clientId = { g.persistent with error := true } :=
    startClientTransactionById_long idle long
  have absent : ({ g.persistent with error := true } : Persistent).clientExist = false := by
    unfold clientExist
    simp
  have skipped : ({ g.persistent with error := true } : Persistent).addClient clientId address
      (duration.toUInt32 * 1000) = { g.persistent with error := true } := by
    unfold Persistent.addClient
    rw [if_pos (by simp [idle.closed])]
  have result : ({ g.persistent with error := true } : Persistent).applyTransaction.1 = 0 := by
    unfold Persistent.applyTransaction
    simp [idle.closed]
  refine ⟨(g.update fun _ => { g.persistent with error := true }).applyTransaction.2, ?_, ?_⟩
  · unfold addClient applyTransaction update
    rw [if_neg (by simp [online])]
    simp only [failed, absent, Bool.false_eq_true, if_false, skipped, Option.map_some, result]
    rfl
  · exact ⟨⟨rfl, ⟨rfl, rfl, rfl⟩, rfl, rfl, rfl, rfl, id, rfl, rfl, rfl, rfl, rfl⟩, rfl⟩

theorem start_by_id_found (idle : g.persistent.Idle) (fits : clientId.length < 24)
    (found : g.store.slotOfId clientId = some n) :
    g.update (fun p => p.startClientTransactionById clientId) = g.inside g.store (g.store.nthClient n) false false :=
  congrArg (fun p => { g with persistent := p }) (startClientTransactionById_found idle fits found)

theorem start_by_id_missing (idle : g.persistent.Idle) (fits : clientId.length < 24)
    (missing : g.store.slotOfId clientId = none) :
    g.update (fun p => p.startClientTransactionById clientId) = g.inside g.store .zero true false :=
  congrArg (fun p => { g with persistent := p }) (startClientTransactionById_missing idle fits missing)

theorem addClient_new {clean : Bool} (idle : g.persistent.Idle) (online : g.persistent.isMqttOnline = true)
    (fits : clientId.length < 24) (missing : g.store.slotOfId clientId = none) :
    addClient pahoMqttMessageHandler g clientId duration clean address =
      some (.success, g.settled (g.store.insertClient clientId address (duration.toUInt32 * 1000))
        (.new clientId g.store.findEmptyEntrySpace address (duration.toUInt32 * 1000))) := by
  unfold addClient
  rw [if_neg (by simp [online])]
  simp only [start_by_id_missing idle fits missing, persistent_inside, clientExist_inside]
  rw [if_neg (by simp), update_inside (addClient_inside fits)]
  rfl

theorem addClient_reset (idle : g.persistent.Idle) (online : g.persistent.isMqttOnline = true)
    (fits : clientId.length < 24) (found : g.store.slotOfId clientId = some n) :
    addClient pahoMqttMessageHandler g clientId duration false address =
      some (.success, g.settled
        (g.store.writeSlot n ((g.store.nthClient n).reset clientId address (duration.toUInt32 * 1000)))
        ((g.store.nthClient n).reset clientId address (duration.toUInt32 * 1000))) := by
  unfold addClient
  rw [if_neg (by simp [online])]
  simp only [start_by_id_found idle fits found, persistent_inside, clientExist_inside]
  rw [if_pos (by simp), if_pos (by simp), update_inside (resetClient_inside fits found)]
  rfl

/-- A CONNECT with clean session takes the subscriptions away, deletes the client and enters it anew. -/
theorem addClient_clean {g' : Gateway} {s' : Store} (idle : g.persistent.Idle)
    (online : g.persistent.isMqttOnline = true) (fits : clientId.length < 24)
    (found : g.store.slotOfId clientId = some n)
    (short : (s'.files (g.store.nthClient n).fileNumber).sub.length ≤ RecordFile.capacity)
    (none_left : subscriptionCount (s'.files (g.store.nthClient n).fileNumber).sub = 0)
    (removed : removeClientSubscriptions pahoMqttMessageHandler (g.inside g.store (g.store.nthClient n) false false) =
      some (g'.inside s' (g.store.nthClient n) false false)) :
    let s := s'.deleteClient g'.persistent.sd (g.store.nthClient n).fileNumber clientId
    addClient pahoMqttMessageHandler g clientId duration true address =
      some (.success, g'.settled (s.insertClient clientId address (duration.toUInt32 * 1000))
        (.new clientId s.findEmptyEntrySpace address (duration.toUInt32 * 1000))) := by
  intro s
  have deleted := deleteClient_inside (p := g'.persistent) fits short none_left
  unfold addClient
  rw [if_neg (by simp [online])]
  simp only [start_by_id_found idle fits found, persistent_inside, clientExist_inside]
  rw [if_pos (by simp), if_neg (by simp), removed]
  simp only [Option.map_some]
  rw [update_inside deleted, update_inside (addClient_inside fits)]
  rfl

theorem addClient_stuck (idle : g.persistent.Idle) (online : g.persistent.isMqttOnline = true)
    (fits : clientId.length < 24) (found : g.store.slotOfId clientId = some n)
    (stuck : removeClientSubscriptions pahoMqttMessageHandler (g.inside g.store (g.store.nthClient n) false false) =
      none) : addClient pahoMqttMessageHandler g clientId duration true address = none := by
  unfold addClient
  rw [if_neg (by simp [online])]
  simp only [start_by_id_found idle fits found, persistent_inside, clientExist_inside]
  rw [if_pos (by simp), if_neg (by simp), stuck]
  rfl

end Connect

end Gateway

end MqttSnGateway
