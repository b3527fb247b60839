import MqttSnGateway.Core.Identity
import MqttSnGateway.Safety.FanOut
import MqttSnGateway.Safety.FreshSession

namespace MqttSnGateway

open Persistent Store RecordFile

open scoped List

/-- What a message carries from the queue of a client to the client. -/
structure Message where
  payload : List UInt8
  topicId : UInt16
  retain : Bool
deriving DecidableEq

/-- The message with QoS 0 that a record of a publish file holds. -/
def EntryPublish.message? (entry : EntryPublish) : Option Message :=
  if entry.isEmpty = false ∧ entry.qos = 0 then some ⟨entry.payload, entry.topicId, entry.retain⟩ else none

def SnMessage.message? : SnMessage → Option Message
  | .publish payload _ topicId _ retain qos _ => if qos = 0 then some ⟨payload, topicId, retain⟩ else none
  | _ => none

/-- Two zero bytes at this offset do not change the message with QoS 0 of a record: it is empty or has another QoS
    afterwards too, no field of the message is there, or what is there is zero. -/
def EntryPublish.Spares (entry : EntryPublish) (offset : Nat) : Prop :=
  entry.isEmpty = true ∨ entry.qos ≠ 0 ∧ offset ≠ 258 ∨ entry.qos = 0 ∧
    if offset < 254 then ∀ i, i = offset ∨ i = offset + 1 → i < entry.msgLength.toNat → entry.msg.getD i 0 = 0
    else if offset = 254 then entry.msgLength = 0
    else if offset = 256 then entry.topicId = 0
    else if offset = 258 then entry.retain = false
    else offset ≠ 264

namespace EntryPublish

variable {entry : EntryPublish} {offset : Nat}

theorem message?_of_empty (empty : entry.isEmpty = true) : entry.message? = none := by
  unfold message?
  rw [if_neg (by simp [empty])]

theorem message?_of_level (level : entry.qos ≠ 0) : entry.message? = none := by
  unfold message?
  rw [if_neg fun both => level both.2]

theorem message?_congr {other : EntryPublish} (publishId : other.publishId = entry.publishId) (qos : other.qos = entry.qos)
    (payload : other.payload = entry.payload) (topicId : other.topicId = entry.topicId)
    (retain : other.retain = entry.retain) : other.message? = entry.message? := by
  unfold message? isEmpty
  rw [publishId, qos, payload, topicId, retain]

theorem isEmpty_zeroHalfword (empty : entry.isEmpty = true) : (entry.zeroHalfword offset).isEmpty = true := by
  unfold isEmpty at empty ⊢
  simp only [decide_eq_true_eq] at empty ⊢
  by_contra used
  exact used ((publishId_zeroHalfword used).trans empty)

theorem qos_zeroHalfword (elsewhere : offset ≠ 258) : (entry.zeroHalfword offset).qos = entry.qos := by
  unfold zeroHalfword
  split_ifs <;> rfl

theorem take_set_zero {bytes : List UInt8} {length i : Nat} (zero : i < length → bytes.getD i 0 = 0) :
    (bytes.set i 0).take length = bytes.take length := by
  apply List.ext_getElem?
  intro j
  rw [List.getElem?_take, List.getElem?_take]
  split
  · rename_i inside
    rw [List.getElem?_set]
    split
    · rename_i here
      subst here
      have here := zero inside
      split
      · rename_i stored
        rw [List.getD_eq_getElem _ _ stored] at here
        rw [List.getElem?_eq_getElem stored, here]
      · rename_i beyond
        rw [List.getElem?_eq_none (by omega)]
    · rfl
  · rfl

theorem message?_zeroHalfword (spares : entry.Spares offset) : (entry.zeroHalfword offset).message? = entry.message? := by
  rcases spares with empty | ⟨level, elsewhere⟩ | ⟨level, spared⟩
  · rw [message?_of_empty empty, message?_of_empty (isEmpty_zeroHalfword empty)]
  · rw [message?_of_level level, message?_of_level]
    rwa [qos_zeroHalfword elsewhere]
  · unfold zeroHalfword
    split_ifs at spared ⊢ with payload length topicId qos
    · refine message?_congr rfl rfl ?_ rfl rfl
      have first := spared offset (.inl rfl)
      have second := spared (offset + 1) (.inr rfl)
      unfold EntryPublish.payload
      change ((entry.msg.set offset 0).set (offset + 1) 0).take entry.msgLength.toNat = entry.msg.take entry.msgLength.toNat
      rw [take_set_zero fun inside => ?_, take_set_zero first]
      rw [List.getD_eq_getElem?_getD, List.getElem?_set_ne (by omega), ← List.getD_eq_getElem?_getD]
      exact second inside
    · refine message?_congr rfl rfl ?_ rfl rfl
      unfold EntryPublish.payload
      rw [spared]
      rfl
    · exact message?_congr rfl rfl rfl spared.symm rfl
    · exact message?_congr rfl level.symm rfl rfl spared.symm
    all_goals rfl

end EntryPublish

section Files

variable {pub : List EntryPublish} {files : ClientFiles} {name : CString} {data : List UInt8} {retain : Bool} {msgId : UInt16}

def messages (pub : List EntryPublish) : List Message := pub.filterMap EntryPublish.message?

theorem messages_queue : messages pub = (queue pub).filterMap EntryPublish.message? := by
  unfold messages queue
  rw [List.filterMap_filter]
  congr 1
  funext entry
  split
  · rfl
  · rename_i empty
    exact EntryPublish.message?_of_empty (by simpa using empty)

/-- A PUBACK strikes two bytes at twice the number of the first record with its message id. -/
def PubackSpares (pub : List EntryPublish) (msgId : UInt16) : Prop :=
  ∀ k entry, (pub.findIdx? fun entry => entry.msgId = msgId) = some k →
    pub[k * 2 / EntryPublish.size]? = some entry → entry.Spares (k * 2 % EntryPublish.size)

theorem messages_pubackQueue (spares : PubackSpares pub msgId) : messages (Gateway.pubackQueue pub msgId) = messages pub := by
  unfold Gateway.pubackQueue
  split
  · rename_i k found
    exact filterMap_modify_eq fun entry here => EntryPublish.message?_zeroHalfword (spares k entry found here)
  · rfl

/-- What a message of the broker becomes in a publish file to which it is handed so many times. -/
def arrivals (files : ClientFiles) (name : CString) (data : List UInt8) (retain : Bool) (times : Nat) : List Message :=
  match files.sub.find? (isSubscriptionTo name) with
  | some sub =>
    if sub.qos = 0 then List.replicate times ⟨data, sub.topicId, retain⟩ else []
  | none => []

theorem messages_receivedTimes (retain : Bool) (ok : files.Ok) (short : data.length < 256)
    (room : files.sub.any (isSubscriptionTo name) = true → times ≤ freeRecords files.pub) :
    messages (receivedTimes name data retain times files).pub ~
      messages files.pub ++ arrivals files name data retain times := by
  unfold arrivals
  cases subscribed : files.sub.find? (isSubscriptionTo name) with
  | none =>
    rw [receivedTimes_unsubscribed subscribed]
    simp
  | some sub =>
    obtain ⟨_, _, added, length, carries, perm, _⟩ := receivedTimes_subscribed retain ok short subscribed times
    have enough := room (List.any_eq_true.mpr ⟨sub, List.mem_of_find?_eq_some subscribed, List.find?_some subscribed⟩)
    rw [Nat.min_eq_left enough] at length
    have used : ∀ entry ∈ added, entry.isEmpty = false := by
      intro entry member
      have queued := perm.mem_iff.mpr (List.mem_append_left _ member)
      unfold queue at queued
      simpa using (List.mem_filter.mp queued).2
    have each : added.filterMap EntryPublish.message? =
        if sub.qos = 0 then List.replicate added.length ⟨data, sub.topicId, retain⟩ else [] := by
      clear perm length
      induction added with
      | nil => simp
      | cons entry added ih =>
        obtain ⟨⟨payload, topicId, qos⟩, retained⟩ := carries entry List.mem_cons_self
        have rest := ih (fun other member => carries other (List.mem_cons_of_mem _ member))
          fun other member => used other (List.mem_cons_of_mem _ member)
        rw [List.filterMap_cons, rest]
        unfold EntryPublish.message?
        rw [used entry List.mem_cons_self, payload, topicId, qos, retained]
        by_cases level : sub.qos = 0
        · rw [if_pos level, if_pos ⟨rfl, level⟩, if_pos level]
          rfl
        · rw [if_neg level, if_neg fun both => level both.2, if_neg level]
    have here := perm.filterMap EntryPublish.message?
    rw [List.filterMap_append, each, length, ← messages_queue, ← messages_queue] at here
    exact here.trans List.perm_append_comm

end Files

namespace Store

variable {s s' s'' : Store} {address : DeviceAddress} {n m : Nat}

/-- The messages with QoS 0 in the queue of the client in slot `n`. -/
def held (s : Store) (n : Nat) : List Message := messages (s.files (s.nthClient n).fileNumber).pub

/-- The client in slot `n` of the second store was in the first, with the same messages. -/
structure SameQueue (s s' : Store) (n : Nat) : Prop where
  registered : (s.nthClient n).clientStatus ≠ .empty
  held : s'.held n = s.held n

theorem SameQueue.of_files (entry : (s'.nthClient n).fileNumber = (s.nthClient n).fileNumber)
    (registered : (s.nthClient n).clientStatus ≠ .empty)
    (same : ∀ number, messages (s'.files number).pub = messages (s.files number).pub) : SameQueue s s' n := by
  refine ⟨registered, ?_⟩
  unfold Store.held
  rw [entry, same]

theorem ActsAt.sameQueue (acts : ActsAt s address s') (ok : s.SlotsOk) (nonzero : address ≠ .zero)
    (registered : (s'.nthClient n).clientStatus ≠ .empty)
    (same : ∀ number, messages (s'.files number).pub = messages (s.files number).pub) : SameQueue s s' n := by
  by_cases selected : s.slotOfAddress address = some n
  · exact .of_files (acts.selected n selected).fileNumber (ok.registered_of_slotOfAddress nonzero selected) same
  · rw [acts.entries n selected] at registered
    exact .of_files (by rw [acts.entries n selected]) registered same

theorem Loses.sameQueue (loses : Gateway.Loses s s') (ok : s.SlotsOk) (registered : (s'.nthClient n).clientStatus ≠ .empty) :
    SameQueue s s' n := by
  have kept := loses.entries n
  refine .of_files ?_ ?_ fun number => by rw [loses.files]
  · rcases kept with same | same <;> rw [same]
  · exact loses.registered ok registered

end Store

namespace Gateway

variable {g g' after : Gateway} {address : DeviceAddress} {n m : Nat} {name number : CString} {data : List UInt8} {retain : Bool}

section Requests

theorem messages_setFiles {h : ClientFiles → ClientFiles} (s : Store) (n : Nat)
    (same : messages (h (s.files (s.nthClient n).fileNumber)).pub = messages (s.files (s.nthClient n).fileNumber).pub)
    (number : CString) : messages ((s.setFiles n h).files number).pub = messages (s.files number).pub := by
  unfold Store.setFiles
  rw [files_modifyFiles]
  split
  · rename_i here
    rw [here, same]
  · rfl

/-- Of the requests that touch their sender only, no other than PUBACK changes a queue. -/
theorem Acts.messages {request : Request} {s : Store} (acts : Acts g address request s)
    (spared : ∀ n msgId topicId returnCode, request = .puback msgId topicId returnCode → KnownReturnCode returnCode →
      g.store.slotOfAddress address = some n → PubackSpares (g.store.files (g.store.nthClient n).fileNumber).pub msgId)
    (number : CString) : messages (s.files number).pub = MqttSnGateway.messages (g.store.files number).pub := by
  cases acts with
  | @willtopic n willTopic retain qos _ _ =>
    refine messages_setFiles (h := fun files => files.setWilltopic willTopic retain qos) g.store n ?_ number
    unfold ClientFiles.setWilltopic
    split <;> rfl
  | @willDeleted n _ _ _ _ _ =>
    refine messages_setFiles (h := fun files => files.removeWill g.persistent.sd (g.store.nthClient n).fileNumber) g.store n
      ?_ number
    unfold ClientFiles.removeWill
    split <;> rfl
  | willmsg _ _ => exact messages_setFiles g.store _ rfl number
  | puback found known => exact messages_setFiles g.store _ (messages_pubackQueue (spared _ _ _ _ rfl known found)) number
  | _ => rfl

end Requests

section Deliveries

/-- The gateway with an open socket, before anything is sent. -/
def listening (g : Gateway) : Gateway := { g with socketOpen := true, sent := [] }

/-- What a delivery does to the store does not depend on the socket. -/
theorem store_listening (status : ClientStatus) (address : DeviceAddress) :
    (handleClientPublishes status address g.listening).store = (handleClientPublishes status address g).store := by
  have started : g.listening.startClientTransaction address = (g.startClientTransaction address).listening := rfl
  have known : ∀ (g : Gateway) topicId, g.listening.isTopicKnown topicId =
      ((g.isTopicKnown topicId).1, (g.isTopicKnown topicId).2.listening) := by
    intro g topicId
    unfold isTopicKnown
    have read : g.listening.persistent.isTopicKnown topicId = g.persistent.isTopicKnown topicId := rfl
    rw [read]
    rcases g.persistent.isTopicKnown topicId with ⟨_ | _, p⟩ <;> rfl
  have sending : ∀ (success : Bool) (g : Gateway) (message : SnMessage),
      (if success = true then g.send address message else g).store = g.store := by
    intro success g message
    split
    · exact store_send
    · rfl
  unfold handleClientPublishes
  split
  · simp only [started, known]
    generalize g.startClientTransaction address = g
    have free : g.listening.persistent = g.persistent := rfl
    split
    · rename_i queued
      rw [free] at queued
      rw [if_pos queued, free]
      generalize g.isTopicKnown (g.persistent.getNextPublish.getD .zero).topicId = answer
      obtain ⟨known, between⟩ := answer
      cases known with
      | false =>
        have read : between.listening.persistent = between.persistent := rfl
        simp only [Bool.not_false, if_true, read]
        cases between.persistent.getTopicName (g.persistent.getNextPublish.getD .zero).topicId with
        | none => rfl
        | some topicName =>
          simp only
          rw [sending, sending]
          rfl
      | true =>
        simp only [Bool.not_true, Bool.false_eq_true, if_false]
        split
        · rw [sending, sending]
          rfl
        · split
          · rw [sending, sending]
            rfl
          · rfl
    · rename_i unqueued
      rw [free] at unqueued
      rw [if_neg unqueued]
      rfl
  · rfl

/-- The messages with QoS 0 that a visit passes to `send_publish` for the client in slot `n`, be the socket open or not. -/
def handing (g : Gateway) (visited n : Nat) : List Message :=
  let slot := g.store.nthClient visited
  if g.store.slotOfAddress slot.clientAddress = some n then
    (handleClientPublishes slot.clientStatus slot.clientAddress (g.visiting visited).listening).sent.filterMap
      fun sent => sent.2.message?
  else []

theorem Delivered.messages (delivered : Delivered g address m after) (opened : g.socketOpen = true) (silent : g.sent = [])
    (number : CString) :
    MqttSnGateway.messages (after.store.files number).pub ++
        (if number = (g.store.nthClient m).fileNumber then after.sent.filterMap fun sent => sent.2.message? else []) ~
      MqttSnGateway.messages (g.store.files number).pub := by
  cases delivered with
  | nothing settles same =>
    rw [settles.store, same, silent]
    simp
  | @register between topicId msgId topicName free settles same =>
    rw [store_send, settles.store, sent_send (settles.socketOpen.trans opened), same, silent]
    simp [SnMessage.message?, Store.setEntry]
  | @publish between k next free stored used level settles same =>
    rw [store_send, settles.store, sent_send (settles.socketOpen.trans opened), same, silent]
    unfold Store.setFiles
    rw [files_modifyFiles]
    split
    · rename_i here
      subst here
      have empty : next.isEmpty = false := decide_eq_false used
      have held : next.message? = some ⟨next.payload, next.topicId, next.retain⟩ := by
        unfold EntryPublish.message?
        rw [if_pos ⟨empty, level⟩]
      have moved := filterMap_modify_perm (v := EntryPublish.message?) (f := fun _ => EntryPublish.zero) stored
      rw [held] at moved
      have zero : EntryPublish.zero.message? = none := rfl
      rw [zero, Option.toList_none, List.append_nil] at moved
      exact moved
    · simp
  | @publishAwaited between k next msgId free stored level settles same =>
    rw [store_send, settles.store, sent_send (settles.socketOpen.trans opened), same, silent]
    have kept := messages_setFiles (h := fun files =>
      { files with pub := files.pub.modify k fun entry => { entry with msgId := msgId } }) g.store m
      (filterMap_modify_eq fun _ _ => rfl) number
    have none_passed : (SnMessage.publish next.payload msgId next.topicId true next.retain 1 false).message? = none := rfl
    have same : ∀ f : EntryClient → EntryClient, ((g.store.setFiles m fun files =>
        { files with pub := files.pub.modify k fun entry => { entry with msgId := msgId } }).setEntry m f).files number =
        (g.store.setFiles m fun files =>
          { files with pub := files.pub.modify k fun entry => { entry with msgId := msgId } }).files number := fun _ => rfl
    rw [same, kept]
    simp [none_passed]

theorem Visit.handing {round : Round} (visit : Visit g round n m after) (i : Nat) (registered : (g.store.nthClient i).clientStatus ≠ .empty)
    (found : g.store.slotOfAddress (g.store.nthClient n).clientAddress = some m) :
    MqttSnGateway.messages ((g.delivered n).store.files (g.store.nthClient i).fileNumber).pub ++ g.handing n i ~
      g.store.held i := by
  have orderly := visit.visiting
  have delivered : Delivered (g.visiting n).listening (g.store.nthClient n).clientAddress m
      (handleClientPublishes (g.store.nthClient n).clientStatus (g.store.nthClient n).clientAddress
        (g.visiting n).listening) :=
    handleClientPublishes_delivered (g := (g.visiting n).listening) _ ⟨orderly.sound.idle.closed, orderly.sound.idle.clean,
      orderly.sound.idle.known⟩ orderly.sound.ok found
  have passed := delivered.messages rfl rfl (g.store.nthClient i).fileNumber
  have unselected : (g.visiting n).listening.store = g.store := rfl
  rw [store_listening, unselected] at passed
  unfold Gateway.handing
  simp only
  rw [found]
  by_cases here : m = i
  · subst here
    rw [if_pos rfl] at passed ⊢
    exact passed
  · have other : (g.store.nthClient i).fileNumber ≠ (g.store.nthClient m).fileNumber := by
      intro same
      have second := orderly.sound.ok.slots.registered_of_slotOfAddress visit.nonzero found
      exact here (orderly.regular.number_inj orderly.sound.ok.slots second registered same.symm)
    rw [if_neg (fun same => here (Option.some.inj same))]
    rw [if_neg other] at passed
    exact passed

end Deliveries

section Visits

theorem Removal.pub {s s' : Store} (removal : Removal number g s g' s') (other : CString) :
    (s'.files other).pub = (s.files other).pub := by
  induction removal with
  | refl => rfl
  | round _ _ _ ih =>
    rw [← ih]
    unfold Store.removeSubscription
    rw [files_uncount, files_modifyFiles]
    split
    · rename_i here
      rw [here]
    · rfl

theorem pub_deleteFile {files : ClientFiles} {sd : SDLinuxFake} {ending : FileEnding}
    (kept : ending = .publish → ¬ sd.Deletes number .publish) : (sd.deleteFile number files ending).pub = files.pub := by
  unfold SDLinuxFake.deleteFile
  simp only
  split
  · rename_i there
    split
    · rename_i removed
      cases ending with
      | publish => exact absurd ⟨there, removed⟩ (kept rfl)
      | _ => rfl
    · rfl
  · rfl

theorem pub_deleted {files : ClientFiles} {sd : SDLinuxFake} (kept : ¬ sd.Deletes number .publish) :
    (files.deleted sd number).pub = files.pub := by
  unfold ClientFiles.deleted
  exact (pub_deleteFile fun _ => kept).trans ((pub_deleteFile (by nofun)).trans ((pub_deleteFile (by nofun)).trans
    (pub_deleteFile (by nofun))))

/-- A time-out deletes the queue of a client only with the client itself. -/
theorem TimesOut.sameQueue {slot : EntryClient} {elapsed : UInt32} (timesOut : TimesOut g slot elapsed after)
    (orderly : g.Orderly) (nonzero : slot.clientAddress ≠ .zero)
    (erases : ∀ m, g.store.slotOfAddress slot.clientAddress = some m → Expires slot elapsed →
      (g.store.files (g.store.nthClient m).fileNumber).wil ≠ none →
      g.persistent.sd.Deletes (g.store.nthClient m).fileNumber .publish → g.store.held m ≠ [] →
      g.store.slotOfId slot.clientId = some m)
    (registered : (after.store.nthClient n).clientStatus ≠ .empty) : SameQueue g.store after.store n := by
  have slots := orderly.sound.ok.slots
  have touches : ∀ {s : Store}, Touched slot.clientAddress g.store s → ActsAt g.store slot.clientAddress s :=
    fun touched => touched.actsAt orderly.sound.ok orderly.regular nonzero
  cases timesOut with
  | disconnected _ => exact ⟨registered, rfl⟩
  | running _ _ settles _ =>
    rw [settles.store] at registered ⊢
    exact (touches (Touched.refl.entry (keeps_timeout _))).sameQueue slots nonzero registered fun _ => by rw [files_updateAt]
  | lost _ _ _ settles _ =>
    rw [settles.store] at registered ⊢
    exact (touches (Touched.refl.entry (keeps_lost _))).sameQueue slots nonzero registered fun _ => by rw [files_updateAt]
  | @deleted m will g' s found expires willing removal _ =>
    have lost := touches (Touched.refl.entry (keeps_lost (slot.timeout + elapsed)))
    rw [store_settled] at registered ⊢
    have other : s.slotOfId slot.clientId ≠ some n := by
      intro erased
      rw [nthClient_congr (clients_deleteClient erased), nthClient_writeSlot_self] at registered
      exact registered rfl
    rw [nthClient_deleteClient_ne other, removal.nthClient] at registered
    have before : SameQueue g.store (g.store.updateAt slot.clientAddress fun entry =>
        { entry with timeout := slot.timeout + elapsed, clientStatus := .lost }) n :=
      lost.sameQueue slots nonzero registered fun _ => by rw [files_updateAt]
    refine ⟨before.registered, ?_⟩
    have number : ((g.store.updateAt slot.clientAddress fun entry =>
        { entry with timeout := slot.timeout + elapsed, clientStatus := .lost }).nthClient n).fileNumber =
        (g.store.nthClient n).fileNumber :=
      orderly.regular.updateAt_keeps EntryClient.fileNumber slots nonzero fun _ => rfl
    have here : (s.deleteClient g.persistent.sd (g.store.nthClient m).fileNumber slot.clientId).held n =
        messages ((s.deleteClient g.persistent.sd (g.store.nthClient m).fileNumber slot.clientId).files
          (g.store.nthClient n).fileNumber).pub := by
      unfold Store.held
      rw [nthClient_deleteClient_ne other, removal.nthClient, number]
    rw [here, files_deleteClient]
    unfold Store.held
    split
    · rename_i same
      have client := orderly.regular.number_inj slots before.registered
        (slots.registered_of_slotOfAddress nonzero found) same
      subst client
      by_cases deletes : g.persistent.sd.Deletes (g.store.nthClient n).fileNumber .publish
      · have empty : g.store.held n = [] := by
          by_contra filled
          have named := erases n found expires (by rw [willing]; nofun) deletes filled
          have ids : ∀ i, (s.nthClient i).clientId = (g.store.nthClient i).clientId := fun i => by
            rw [removal.nthClient]
            exact orderly.regular.updateAt_keeps EntryClient.clientId slots nonzero fun _ => rfl
          refine other (slots.slotOfId_congr (removal.ok (orderly.sound.ok.updateAt nonzero (keeps_lost _))).slots ids named ?_)
          rwa [removal.nthClient]
        have gone : queue ((s.files (g.store.nthClient n).fileNumber).deleted g.persistent.sd
            (g.store.nthClient n).fileNumber).pub = [] := ClientFiles.nothingIn_deleted.mpr (.inr deletes)
        have left : messages (g.store.files (g.store.nthClient n).fileNumber).pub = [] := empty
        rw [messages_queue, gone, left]
        rfl
      · rw [pub_deleted deletes, removal.pub, files_updateAt]
    · rw [removal.pub, files_updateAt]

end Visits

section Broker

theorem publishFromBroker_unnamed (idle : g.persistent.Idle) (unnamed : ¬ IsTopicName name)
    (published : g.publishFromBroker name data retain = some after) : after.store = g.store := by
  unfold publishFromBroker at published
  split at published
  · cases published
    rfl
  · simp only at published
    split at published
    · cases published
      rfl
    · obtain ⟨⟨outcome, between⟩, left, rfl⟩ := Option.map_eq_some_iff.mp published
      refine (traverseFromFirst_rule (I := fun _ g' => g.Settles g.store g') ?_ (Settles.refl idle) left).elim
        fun m kept => kept.1.store
      intro n g' g'' kept visited
      cases visited
      refine (kept.trans ?_).cast kept.store
      cases selection : g'.store.slotOfAddress (g'.store.nthClient n).clientAddress with
      | none => exact handleReceive_missing name data retain kept.idle selection
      | some m =>
        have settles := handleReceive_found name data retain kept.idle selection
        unfold Store.receive at settles
        rwa [if_neg fun both => unnamed both.2] at settles

/-- What a message of the broker adds to the queue of the client in slot `n`. -/
def arriving (g : Gateway) (n : Nat) (name : CString) (data : List UInt8) (retain : Bool) : List Message :=
  if IsTopicName name ∧ data.length ≤ g.getMaximumPublishPayloadLength.toNat then
    arrivals (g.store.files (g.store.nthClient n).fileNumber) name data retain (g.store.deliveries n)
  else []

/-- Every message of the broker that is handed to the publish file of the client in slot `n` has a free record. -/
def Accommodates (g : Gateway) (n : Nat) (name : CString) (data : List UInt8) : Prop :=
  IsTopicName name → data.length ≤ g.getMaximumPublishPayloadLength.toNat → g.store.subscribes n name →
    g.store.deliveries n ≤ freeRecords (g.store.files (g.store.nthClient n).fileNumber).pub

theorem publishFromBroker_arriving (sound : g.Sound) (registered : (g.store.nthClient n).clientStatus ≠ .empty)
    (room : g.Accommodates n name data)
    (published : g.publishFromBroker name data retain = some after) :
    after.store.held n ~ g.store.held n ++ g.arriving n name data retain := by
  have clients := (publishFromBroker_receives sound.idle published).clients
  unfold arriving Store.held
  rw [nthClient_congr clients]
  by_cases named : IsTopicName name
  · by_cases fits : data.length ≤ g.getMaximumPublishPayloadLength.toNat
    · rw [if_pos ⟨named, fits⟩]
      rcases g.store.lastClientAddress_cases .zero with ⟨emptied, _⟩ | ⟨l, used, _, last⟩
      · exact absurd (emptied n) registered
      · obtain ⟨between, same, spread⟩ := publishFromBroker_spread retain sound named fits
          (by rw [last]; exact (sound.ok.slots.fits l).addressed used)
        rw [published] at same
        cases same
        rw [spread.files]
        have short := g.getMaximumPublishPayloadLength.toNat_lt
        refine messages_receivedTimes retain (sound.ok.files _) (by omega) fun subscribed => ?_
        exact room named fits ((ClientFiles.any_isSubscriptionTo named).mp subscribed)
    · rw [if_neg fun both => fits both.2]
      unfold publishFromBroker at published
      rw [if_pos (by omega)] at published
      cases published
      simp
  · rw [if_neg fun both => named both.1, publishFromBroker_unnamed sound.idle named published]
    simp

end Broker

section Connect

variable {clientId : CString} {duration : UInt16} {will clean : Bool}

/-- A CONNECT gives slot `n` to a client that was not registered or starts a clean session. -/
def Enters (g : Gateway) (clientId : CString) (clean : Bool) (n : Nat) : Prop :=
  g.persistent.isMqttOnline = true ∧ clientId.length < 24 ∧ g.store.slotGiven clientId clean = n ∧
    (clean = true ∨ g.store.slotOfId clientId ≠ some n)

instance (g : Gateway) (clientId : CString) (clean : Bool) (n : Nat) : Decidable (g.Enters clientId clean n) :=
  inferInstanceAs (Decidable (_ ∧ _))

theorem AddsClient.sameQueue (adds : AddsClient g clientId duration clean address .success after) (orderly : g.Orderly)
    (alive : clean = false → ∀ n, g.store.slotOfId clientId = some n → (g.store.nthClient n).clientStatus ≠ .empty)
    (stays : ¬ g.Enters clientId clean n) (registered : (after.store.nthClient n).clientStatus ≠ .empty) :
    SameQueue g.store after.store n := by
  have entered := adds.entered
  by_cases here : n = g.store.slotGiven clientId clean
  · have known : clean = false ∧ g.store.slotOfId clientId = some n := by
      obtain ⟨online, fits⟩ := adds.online
      by_contra unknown
      refine stays ⟨online, fits, here.symm, ?_⟩
      cases clean with
      | true => exact .inl rfl
      | false => exact .inr fun found => unknown ⟨rfl, found⟩
    obtain ⟨kept, found⟩ := known
    have before := alive kept n found
    refine .of_files ?_ before fun number => ?_
    · rw [adds.entered.regular orderly.regular alive n registered, orderly.regular n before]
    · rw [entered.files number fun cleaned => absurd (kept.symm.trans cleaned) (by simp)]
  · obtain ⟨same, files⟩ := entered.elsewhere orderly.sound.ok.slots orderly.regular here registered
    refine ⟨by rwa [same] at registered, ?_⟩
    unfold Store.held
    rw [same, files]

theorem Connection.sameQueue (connection : Connection g clientId duration will clean address after) (orderly : g.Orderly)
    (nonzero : address ≠ .zero)
    (alive : clean = false → ∀ n, g.store.slotOfId clientId = some n → (g.store.nthClient n).clientStatus ≠ .empty)
    (stays : ¬ g.Enters clientId clean n) (registered : (after.store.nthClient n).clientStatus ≠ .empty) :
    SameQueue g.store after.store n := by
  cases connection with
  | rejected adds refused _ =>
    rw [store_send] at registered ⊢
    rcases adds.refused refused with settles | rfl
    · rw [settles.store] at registered ⊢
      exact ⟨registered, rfl⟩
    · exact ⟨registered, rfl⟩
  | accepted adds _ =>
    rw [store_send] at registered ⊢
    exact adds.sameQueue orderly alive stays registered
  | @asked between _ adds _ settles _ =>
    have second := adds.sound orderly.sound nonzero
    have regular := adds.entered.regular orderly.regular alive
    rw [store_send, settles.store] at registered ⊢
    have status : ((between.store.updateAt address fun entry => { entry with awaitMessage := .willtopic }).nthClient
        n).clientStatus = (between.store.nthClient n).clientStatus :=
      regular.updateAt_keeps EntryClient.clientStatus second.ok.slots nonzero fun _ => rfl
    have number : ((between.store.updateAt address fun entry => { entry with awaitMessage := .willtopic }).nthClient
        n).fileNumber = (between.store.nthClient n).fileNumber :=
      regular.updateAt_keeps EntryClient.fileNumber second.ok.slots nonzero fun _ => rfl
    rw [status] at registered
    have before := adds.sameQueue orderly alive stays registered
    refine ⟨before.registered, ?_⟩
    rw [← before.held]
    unfold Store.held
    rw [number, files_updateAt]

end Connect

end Gateway

/-- The messages with QoS 0 that were queued for a client since it was registered, and those that were passed to
    `send_publish` for it. -/
structure Ledger where
  queued : List Message
  handed : List Message
deriving DecidableEq

namespace Stage

variable {stage later : Stage} {moment : Moment} {ledger : Ledger} {n : Nat}

/-- The ledger of slot `n` after a moment. It starts anew with a client that is entered, over what is in its file. -/
def account (n : Nat) (stage : Stage) (moment : Moment) (later : Stage) (ledger : Ledger) : Ledger :=
  match moment with
  | .visit =>
    match stage.round with
    | some round => { ledger with handed := ledger.handed ++ stage.gateway.handing round.slot n }
    | none => ledger
  | .input input =>
    match input.event with
    | .brokerMessage name data retain =>
      { ledger with queued := ledger.queued ++ stage.gateway.arriving n name data retain }
    | _ =>
      match input.request? with
      | some (_, .connect clientId _ _ clean) =>
        if stage.gateway.Enters clientId clean n then ⟨later.gateway.store.held n, []⟩ else ledger
      | _ => ledger

/-- Every message is in the queue still or was passed on, once. -/
def Conserved (n : Nat) (stage : Stage) (ledger : Ledger) : Prop :=
  (stage.gateway.store.nthClient n).clientStatus ≠ .empty → stage.gateway.store.held n ++ ledger.handed ~ ledger.queued

/-- A step over intact tables in which no emptied slot is revived, every message of the broker finds a free record, no
    PUBACK strikes a message with QoS 0, and no client that is declared LOST takes the queue of another client with it. -/
structure Preserving (stage : Stage) (moment : Moment) : Prop where
  intact : stage.gateway.store.Intact
  room : ∀ input name data retain n, moment = .input input → input.event = .brokerMessage name data retain →
    (stage.gateway.store.nthClient n).clientStatus ≠ .empty → stage.gateway.Accommodates n name data
  alive : NoRevival stage moment
  spared : ∀ input address n msgId topicId returnCode, moment = .input input →
    input.request? = some (address, .puback msgId topicId returnCode) → Gateway.KnownReturnCode returnCode →
    stage.gateway.store.slotOfAddress address = some n →
    PubackSpares (stage.gateway.store.files (stage.gateway.store.nthClient n).fileNumber).pub msgId
  erased : ∀ round m, moment = .visit → stage.round = some round → round.hasHeartBeaten = true →
    Gateway.Expires (stage.gateway.store.nthClient round.slot) round.elapsedTime →
    stage.gateway.store.slotOfAddress (stage.gateway.store.nthClient round.slot).clientAddress = some m →
    (stage.gateway.store.files (stage.gateway.store.nthClient m).fileNumber).wil ≠ none →
    stage.gateway.persistent.sd.Deletes (stage.gateway.store.nthClient m).fileNumber .publish →
    stage.gateway.store.held m ≠ [] →
    stage.gateway.store.slotOfId (stage.gateway.store.nthClient round.slot).clientId = some m

theorem Conserved.of_sameQueue (conserved : Conserved n stage ledger)
    (same : (later.gateway.store.nthClient n).clientStatus ≠ .empty →
      SameQueue stage.gateway.store later.gateway.store n) : Conserved n later ledger := by
  intro registered
  have kept := same registered
  rw [kept.held]
  exact conserved kept.registered

/-- Only a message of the broker is queued; a client that enters begins with what it has. -/
theorem Conserved.accounted {input : Input} (conserved : Conserved n later ledger)
    (other : ∀ name data retain, input.event ≠ .brokerMessage name data retain) :
    Conserved n later (account n stage (.input input) later ledger) := by
  have entering : account n stage (.input input) later ledger =
      match input.request? with
      | some (_, .connect clientId _ _ clean) =>
        if stage.gateway.Enters clientId clean n then ⟨later.gateway.store.held n, []⟩ else ledger
      | _ => ledger := by
    unfold account
    cases event : input.event with
    | brokerMessage name data retain => exact absurd event (other _ _ _)
    | _ => simp only [event]
  rw [entering]
  split
  · split
    · exact fun _ => .of_eq (List.append_nil _)
    · exact conserved
  · exact conserved

theorem visit_conserves {round : Round} (orderly : stage.gateway.Orderly) (preserving : Preserving stage .visit)
    (under : stage.round = some round) (registered : (stage.gateway.store.nthClient round.slot).clientStatus ≠ .empty)
    (returned : round.body round.slot (stage.gateway.store.nthClient round.slot) stage.gateway = some later.gateway)
    (conserved : Conserved n stage ledger) :
    Conserved n later { ledger with handed := ledger.handed ++ stage.gateway.handing round.slot n } := by
  have slots := orderly.sound.ok.slots
  obtain ⟨m, _, found⟩ := slots.slotOfAddress_here ((slots.fits round.slot).addressed registered) rfl
  have visit := Gateway.body_visit orderly registered found returned
  intro remains
  have same : SameQueue (stage.gateway.drained round round.slot).store later.gateway.store n := by
    have timesOut := visit.timesOut
    split at timesOut
    · rename_i beaten
      refine timesOut.sameQueue visit.second visit.nonzero ?_ remains
      intro k selected expires willing deletes filled
      have here := (visit.same k).fileNumber
      rw [here, visit.wil] at willing
      rw [here, visit.sd] at deletes
      have same : k = m := Option.some.inj (selected.symm.trans visit.found)
      have client := visit.second.sound.ok.slots.registered_of_slotOfAddress visit.nonzero selected
      rw [same] at client filled willing deletes ⊢
      have passed := visit.handing m (visit.registered client) found
      refine visit.slotOfId client (preserving.erased round m rfl under beaten expires found willing deletes fun none_left => ?_)
      rw [none_left] at passed
      have nothing := (List.append_eq_nil_iff.mp passed.eq_nil).1
      refine filled ?_
      unfold Store.held
      rw [visit.drains.files, (visit.same m).fileNumber]
      exact nothing
    · rw [timesOut] at remains ⊢
      exact ⟨remains, rfl⟩
  have before := visit.registered same.registered
  have kept : (stage.gateway.drained round round.slot).store.held n =
      messages ((stage.gateway.delivered round.slot).store.files (stage.gateway.store.nthClient n).fileNumber).pub := by
    unfold Store.held
    rw [visit.drains.files, (visit.same n).fileNumber]
  have passed := visit.handing n before found
  rw [same.held, kept]
  calc messages ((stage.gateway.delivered round.slot).store.files (stage.gateway.store.nthClient n).fileNumber).pub ++
        (ledger.handed ++ stage.gateway.handing round.slot n)
    _ ~ messages ((stage.gateway.delivered round.slot).store.files (stage.gateway.store.nthClient n).fileNumber).pub ++
        (stage.gateway.handing round.slot n ++ ledger.handed) := List.perm_append_comm.append_left _
    _ = messages ((stage.gateway.delivered round.slot).store.files (stage.gateway.store.nthClient n).fileNumber).pub ++
        stage.gateway.handing round.slot n ++ ledger.handed := (List.append_assoc _ _ _).symm
    _ ~ stage.gateway.store.held n ++ ledger.handed := passed.append_right _
    _ ~ ledger.queued := conserved before

theorem step_conserves (orderly : stage.gateway.Orderly) (preserving : Preserving stage moment)
    (stepped : step stage moment = some later) (conserved : Conserved n stage ledger) :
    Conserved n later (account n stage moment later ledger) := by
  have sound := orderly.sound
  cases step_stepped stepped with
  | @event input after between other taken =>
    have silent : (∀ name data retain, input.event ≠ .brokerMessage name data retain) →
        after.store = stage.gateway.store → Conserved n ⟨after, none⟩ (account n stage (.input input) ⟨after, none⟩ ledger) := by
      intro unqueued same
      refine (conserved.of_sameQueue fun registered => ?_).accounted unqueued
      simp only [same] at registered ⊢
      exact ⟨registered, rfl⟩
    have prepared : (stage.gateway.prepare input).Orderly := ⟨Gateway.sound_prepare sound, orderly.regular⟩
    cases Gateway.step_stepped taken with
    | restart event => exact silent (by rw [event]; nofun) rfl
    | @datagram sender bytes beyond _ event _ handled =>
      have nonzero := sender.getDeviceAddress_ne_zero
      have made := Input.request_of_datagram event
      have unqueued : ∀ name data retain, input.event ≠ .brokerMessage name data retain := by
        rw [event]
        nofun
      generalize Request.ofMemory (receiveBuffer bytes beyond) = request at handled made
      cases Gateway.handle_requested prepared.sound nonzero handled with
      | @connect clientId duration will clean _ connection =>
        by_cases enters : stage.gateway.Enters clientId clean n
        · have record : account n stage (.input input) ⟨after, none⟩ ledger = ⟨after.store.held n, []⟩ := by
            unfold account
            simp only [event, made]
            rw [if_pos enters]
          rw [record]
          exact fun _ => .of_eq (List.append_nil _)
        · refine (conserved.of_sameQueue fun registered => ?_).accounted unqueued
          refine Gateway.Connection.sameQueue (g := stage.gateway.prepare input) connection prepared nonzero ?_ enters registered
          rintro rfl k found emptied
          exact preserving.alive _ rfl _ _ made ⟨_, _, _, k, rfl, found, emptied⟩
      | topics kind other only =>
        refine (conserved.of_sameQueue fun registered => ?_).accounted unqueued
        have client := only.nthClient (n := n)
        refine .of_files (by rw [client]; rfl) (by rwa [client] at registered) fun number => ?_
        by_cases own : number = ((stage.gateway.prepare input).store.entryAt sender.getDeviceAddress).fileNumber
        · rw [own, only.pub]
          rfl
        · rw [only.files number own]
          rfl
      | @acts _ s _ acts settles =>
        refine (conserved.of_sameQueue fun registered => ?_).accounted unqueued
        have written := acts.touched.actsAt prepared.sound.ok prepared.regular nonzero
        simp only [settles.store] at registered ⊢
        refine written.sameQueue prepared.sound.ok.slots nonzero registered (acts.messages ?_)
        rintro k msgId topicId returnCode rfl known found
        exact preserving.spared input _ k msgId topicId returnCode rfl made known found
    | @brokerMessage name data retain _ event _ published =>
      have record : account n stage (.input input) ⟨after, none⟩ ledger =
          { ledger with queued := ledger.queued ++ stage.gateway.arriving n name data retain } := by
        unfold account
        simp only [event]
      rw [record]
      intro registered
      have clients := (Gateway.publishFromBroker_receives prepared.sound.idle published).clients
      simp only [nthClient_congr clients] at registered
      have arrived : after.store.held n ~ stage.gateway.store.held n ++ stage.gateway.arriving n name data retain :=
        Gateway.publishFromBroker_arriving (g := stage.gateway.prepare input) prepared.sound registered
          (preserving.room input name data retain n rfl event registered) published
      calc after.store.held n ++ ledger.handed
        _ ~ stage.gateway.store.held n ++ stage.gateway.arriving n name data retain ++ ledger.handed := arrived.append_right _
        _ ~ stage.gateway.store.held n ++ (ledger.handed ++ stage.gateway.arriving n name data retain) := by
          rw [List.append_assoc]
          exact List.perm_append_comm.append_left _
        _ ~ ledger.queued ++ stage.gateway.arriving n name data retain := by
          rw [← List.append_assoc]
          exact (conserved registered).append_right _
    | loop event looped => exact absurd event (other _ _)
    | mqttConnect event _ => exact silent (by rw [event]; nofun) rfl
    | mqttConnectionLost event => exact silent (by rw [event]; nofun) rfl
    | socketLost event => exact silent (by rw [event]; nofun) rfl
    | @socketBegin opened event _ =>
      refine silent (by rw [event]; nofun) ?_
      cases opened <;> rfl
  | disconnected _ event offline taken =>
    refine (conserved.of_sameQueue ?_).accounted (by rw [event]; nofun)
    exact Loses.sameQueue (Gateway.step_disconnected orderly event offline taken) sound.ok.slots
  | begun _ event _ quiet =>
    refine (conserved.of_sameQueue fun registered => ?_).accounted (by rw [event]; nofun)
    rw [(quiet sound.idle).store] at registered ⊢
    exact ⟨registered, rfl⟩
  | @empty round _ under empty quiet =>
    have nothing : stage.gateway.handing round.slot n = [] := by
      unfold Gateway.handing
      simp only [empty]
      split
      · rfl
      · rfl
    have record : account n stage .visit later ledger = ledger := by
      unfold account
      simp only [under, nothing, List.append_nil]
    rw [record]
    refine conserved.of_sameQueue fun registered => ?_
    rw [(quiet sound).store] at registered ⊢
    exact ⟨registered, rfl⟩
  | @visit round _ under registered returned =>
    have record : account n stage .visit later ledger =
        { ledger with handed := ledger.handed ++ stage.gateway.handing round.slot n } := by
      unfold account
      simp only [under]
    rw [record]
    exact visit_conserves orderly preserving under registered returned conserved

/-- As long as the client in slot `n` is registered, the messages with QoS 0 that were queued for it are those in its queue
    and those that were passed on to it. -/
theorem qos0_conserved {state : Stage × Ledger}
    (run : Runs.Run (Runs.recorded step (account n)) (fun state moment => Preserving state.1 moment)
      (fun state => initial state.1 ∧ state.2 = ⟨[], []⟩) state)
    (registered : (state.1.gateway.store.nthClient n).clientStatus ≠ .empty) :
    state.1.gateway.store.held n ++ state.2.handed ~ state.2.queued := by
  have kept : state.1.gateway.Orderly ∧ Conserved n state.1 state.2 := by
    clear registered
    induction run with
    | start first =>
      obtain ⟨⟨⟨config, same⟩, _⟩, _⟩ := first
      refine ⟨⟨Gateway.sound_initial ⟨config, same⟩, Gateway.regular_initial ⟨config, same⟩⟩, ?_⟩
      intro registered
      rw [same] at registered
      exact absurd rfl registered
    | next _ meets taken ih =>
      obtain ⟨stepped, record⟩ := Runs.recorded_eq_some.mp taken
      rw [record]
      exact ⟨step_orderly ih.1 meets.alive stepped, step_conserves ih.1 meets stepped ih.2⟩
  exact kept.2 registered

end Stage

namespace Scenario

def record (state : Stage × Ledger) (moment : Moment) : Option (Stage × Ledger) :=
  Runs.recorded Stage.step (Stage.account 0) state moment

def recordStarted : Stage × Ledger := (started, ⟨[], []⟩)

def recordOnline : Stage × Ledger := (record recordStarted (event .mqttConnect)).get (by decide +kernel)

def recordConnect : Stage × Ledger :=
  (record recordOnline (event (.datagram (client 1) (Datagram.connect (name 65) 10 0) []))).get (by decide +kernel)

def recordSubscribe : Stage × Ledger :=
  (record recordConnect (event (.datagram (client 1) (Datagram.subscribeByName (name 116) 1 0) []))).get (by decide +kernel)

def recordQueued : Stage × Ledger :=
  (record recordSubscribe (event (.brokerMessage (name 116) [1, 2, 3] false))).get (by decide +kernel)

def recordLoop : Stage × Ledger := (record recordQueued (event (.loop 0 0))).get (by decide +kernel)

def recordVisit : Stage × Ledger := (record recordLoop .visit).get (by decide +kernel)

theorem preserving_event {stage : Stage} {input : Event} (intact : stage.gateway.store.Intact)
    (room : ∀ name data retain n, input = .brokerMessage name data retain →
      (stage.gateway.store.nthClient n).clientStatus ≠ .empty → stage.gateway.Accommodates n name data)
    (alive : Stage.NoRevival stage (event input))
    (unacknowledged : ∀ address msgId topicId returnCode,
      Input.request? ⟨input, [], []⟩ ≠ some (address, .puback msgId topicId returnCode)) :
    Stage.Preserving stage (event input) := by
  refine ⟨intact, ?_, alive, ?_, fun _ _ same => by cases same⟩
  · intro _ name data retain n same made registered
    cases same
    exact room name data retain n made registered
  · intro _ address _ msgId topicId returnCode same made
    cases same
    exact absurd made (unacknowledged _ _ _ _)

theorem preserving_unrequested {stage : Stage} {input : Event} (intact : stage.gateway.store.Intact)
    (room : ∀ name data retain n, input = .brokerMessage name data retain →
      (stage.gateway.store.nthClient n).clientStatus ≠ .empty → stage.gateway.Accommodates n name data)
    (unrequested : Input.request? ⟨input, [], []⟩ = none) : Stage.Preserving stage (event input) := by
  refine preserving_event intact room ?_ (by rw [unrequested]; exact fun _ _ _ _ => nofun)
  rintro _ same address request made
  cases same
  rw [unrequested] at made
  cases made

theorem run_recordVisit : Runs.Run (Runs.recorded Stage.step (Stage.account 0))
    (fun state moment => Stage.Preserving state.1 moment)
    (fun state => Stage.initial state.1 ∧ state.2 = ⟨[], []⟩) recordVisit := by
  have connecting : Stage.Preserving recordOnline.1
      (event (.datagram (client 1) (Datagram.connect (name 65) 10 0) [])) := by
    refine preserving_event (by decide +kernel) (fun _ _ _ _ same => by cases same) ?_ ?_
    · rintro _ same address request made ⟨clientId, duration, will, n, rfl, found, _⟩
      cases found
    · intro _ _ _ _ made
      cases made
  have subscribing : Stage.Preserving recordConnect.1
      (event (.datagram (client 1) (Datagram.subscribeByName (name 116) 1 0) [])) := by
    refine preserving_event (by decide +kernel) (fun _ _ _ _ same => by cases same) ?_ ?_
    · rintro _ same address request made ⟨clientId, duration, will, n, rfl, _, _⟩
      cases same
      cases made
    · intro _ _ _ _ made
      cases made
  have visiting : Stage.Preserving recordLoop.1 .visit := by
    refine ⟨by decide +kernel, fun _ _ _ _ _ same => (by cases same), fun _ same => (by cases same),
      fun _ _ _ _ _ _ same => (by cases same), ?_⟩
    intro round _ _ under beaten
    have still := congrArg (Option.map Round.hasHeartBeaten) under
    rw [Option.map_some, beaten] at still
    exact absurd still (by decide +kernel)
  have queueing : Stage.Preserving recordSubscribe.1 (event (.brokerMessage (name 116) [1, 2, 3] false)) := by
    refine preserving_unrequested (by decide +kernel) ?_ rfl
    rintro topic data retain n same registered
    cases same
    intro _ _ _
    cases n with
    | zero => decide +kernel
    | succ n =>
      refine absurd ?_ registered
      rw [Store.nthClient_outside (Nat.succ_le_succ (Nat.zero_le n))]
      rfl
  have opening : Stage.Preserving recordStarted.1 (event .mqttConnect) :=
    preserving_unrequested (by decide +kernel) (fun _ _ _ _ same => by cases same) rfl
  have looping : Stage.Preserving recordQueued.1 (event (.loop 0 0)) :=
    preserving_unrequested (by decide +kernel) (fun _ _ _ _ same => by cases same) rfl
  exact .next (.next (.next (.next (.next (.next (.start ⟨⟨⟨configuration [47], rfl⟩, rfl⟩, rfl⟩) opening
    (Option.some_get _).symm) connecting (Option.some_get _).symm) subscribing (Option.some_get _).symm) queueing
    (Option.some_get _).symm) looping (Option.some_get _).symm) visiting (Option.some_get _).symm

theorem qos0_conserved_recordVisit : recordVisit.1.gateway.store.held 0 ++ recordVisit.2.handed ~ recordVisit.2.queued ∧
    recordVisit.2.handed = [⟨[1, 2, 3], 1, false⟩] :=
  ⟨Stage.qos0_conserved run_recordVisit (by decide +kernel), by decide +kernel⟩

def recordStruck : Stage × Ledger :=
  (record recordQueued (event (.datagram (client 1) (Datagram.puback 0 0 0) []))).get (by decide +kernel)

/-- Two bytes of the queued message are gone. -/
theorem puback_alters_message :
    ¬ ∀ (n : Nat) (state : Stage × Ledger),
      Runs.Run (Runs.recorded Stage.step (Stage.account n)) (fun _ _ => True)
        (fun state => Stage.initial state.1 ∧ state.2 = ⟨[], []⟩) state →
      (state.1.gateway.store.nthClient n).clientStatus ≠ .empty →
      state.1.gateway.store.held n ++ state.2.handed ~ state.2.queued := by
  intro claim
  have reached : Runs.Run (Runs.recorded Stage.step (Stage.account 0)) (fun _ _ => True)
      (fun state => Stage.initial state.1 ∧ state.2 = ⟨[], []⟩) recordStruck :=
    .next (.next (.next (.next (.next (.start ⟨⟨⟨configuration [47], rfl⟩, rfl⟩, rfl⟩) trivial (Option.some_get _).symm) trivial
      (Option.some_get _).symm) trivial (Option.some_get _).symm) trivial (Option.some_get _).symm) trivial
      (Option.some_get _).symm
  have conserved := claim 0 recordStruck reached (by decide +kernel)
  exact absurd conserved (by decide +kernel)

end Scenario

end MqttSnGateway
