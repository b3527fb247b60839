import Mathlib.Data.Finset.Card
import MqttSnGateway.Core.Identity
import MqttSnGateway.Core.Rewritten
import MqttSnGateway.Core.SubscribeResults
import MqttSnGateway.Core.TableSteps
import MqttSnGateway.Core.TopicRequests

namespace MqttSnGateway

open Persistent Store RecordFile

namespace Store

variable {s s' : Store} {m n : Nat} {name other : CString}

/-- The clients, by their slots, that have subscribed to a topic. -/
def subscribers (s : Store) (name : CString) : Finset Nat :=
  (Finset.range s.clients.length).filter fun n =>
    (s.nthClient n).clientStatus ≠ .empty ∧ (s.files (s.nthClient n).fileNumber).Subscribes name

/-- The slots whose file has a subscription to a topic, whether there is a client or not. -/
def holders (s : Store) (name : CString) : Finset Nat :=
  (Finset.range 65536).filter fun n => (s.files (fileNumber n)).Subscribes name

theorem mem_holders : n ∈ s.holders name ↔ n < 65536 ∧ (s.files (fileNumber n)).Subscribes name := by
  unfold holders
  rw [Finset.mem_filter, Finset.mem_range]

/-- Every subscription is counted once and belongs to a client. -/
structure Tallied (s : Store) : Prop where
  counts : ∀ name, IsTopicName name → countOf s.mqttSub name = (s.holders name).card
  tenanted : ∀ name n, IsTopicName name → n ∈ s.holders name → (s.nthClient n).clientStatus ≠ .empty
  nameless : ∀ name, IsTopicName name → ¬ (s.files .empty).Subscribes name

theorem Tallied.subscribers_eq (tallied : s.Tallied) (regular : s.Regular) (ok : s.SlotsOk) (named : IsTopicName name) :
    s.subscribers name = s.holders name := by
  ext n
  rw [mem_holders]
  unfold subscribers
  rw [Finset.mem_filter, Finset.mem_range]
  constructor
  · rintro ⟨_, registered, subscribed⟩
    rw [regular n registered] at subscribed
    exact ⟨ok.inside registered, subscribed⟩
  · intro held
    have registered := tallied.tenanted name n named (mem_holders.mpr held)
    refine ⟨?_, registered, ?_⟩
    · apply inside_of_ne_zero
      intro zero
      rw [zero] at registered
      exact registered rfl
    · rw [regular n registered]
      exact held.2

section Files

theorem subscribes_congr {files after : ClientFiles} (same : after.sub = files.sub) :
    after.Subscribes name ↔ files.Subscribes name := by
  unfold ClientFiles.Subscribes
  rw [same]

theorem holders_congr (same : ∀ n < 65536, (s'.files (fileNumber n)).Subscribes name ↔ (s.files (fileNumber n)).Subscribes name) :
    s'.holders name = s.holders name := by
  ext n
  rw [mem_holders, mem_holders]
  exact and_congr_right fun small => same n small

/-- A change of one client's file changes the number of the holders by that client. -/
theorem card_holders (small : m < 65536)
    (others : ∀ n < 65536, n ≠ m → ((s'.files (fileNumber n)).Subscribes name ↔ (s.files (fileNumber n)).Subscribes name)) :
    (s'.holders name).card + (if (s.files (fileNumber m)).Subscribes name then 1 else 0) =
      (s.holders name).card + if (s'.files (fileNumber m)).Subscribes name then 1 else 0 := by
  have rest : (s'.holders name).erase m = (s.holders name).erase m := by
    ext n
    rw [Finset.mem_erase, Finset.mem_erase, mem_holders, mem_holders]
    apply and_congr_right
    intro different
    exact and_congr_right fun inside => others n inside different
  have counted : ∀ s : Store, (s.holders name).card =
      ((s.holders name).erase m).card + if (s.files (fileNumber m)).Subscribes name then 1 else 0 := by
    intro s
    by_cases held : m ∈ s.holders name
    · rw [if_pos (mem_holders.mp held).2, Finset.card_erase_add_one held]
    · rw [if_neg fun subscribed => held (mem_holders.mpr ⟨small, subscribed⟩), Finset.erase_eq_of_notMem held,
        Nat.add_zero]
  have before := counted s
  have after := counted s'
  rw [rest] at after
  omega

end Files

section Changes

theorem Tallied.congr (tallied : s.Tallied) (sub : ∀ number, (s'.files number).sub = (s.files number).sub)
    (counts : ∀ name, IsTopicName name → countOf s'.mqttSub name = countOf s.mqttSub name)
    (clients : ∀ n, (s.nthClient n).clientStatus ≠ .empty → (s'.nthClient n).clientStatus ≠ .empty) : s'.Tallied := by
  have holders : ∀ name, s'.holders name = s.holders name := fun name => holders_congr fun _ _ => subscribes_congr (sub _)
  refine ⟨fun name named => ?_, fun name n named held => ?_, fun name named => ?_⟩
  · rw [counts name named, holders]
    exact tallied.counts name named
  · rw [holders] at held
    exact clients n (tallied.tenanted name n named held)
  · rw [subscribes_congr (sub _)]
    exact tallied.nameless name named

theorem Tallied.keep (tallied : s.Tallied) (same : SameTopics s s')
    (clients : ∀ n, (s.nthClient n).clientStatus ≠ .empty → (s'.nthClient n).clientStatus ≠ .empty) : s'.Tallied :=
  tallied.congr same.sub (fun name _ => by rw [same.mqttSub]) clients

/-- A file is written and the topic of one subscription, if any, is counted up or down with it. -/
theorem Tallied.write (tallied : s.Tallied) (small : m < 65536) (registered : (s.nthClient m).clientStatus ≠ .empty)
    (clients : s'.clients = s.clients)
    (others : ∀ number, number ≠ fileNumber m → s'.files number = s.files number)
    (counts : ∀ name, IsTopicName name →
      countOf s'.mqttSub name + (if (s.files (fileNumber m)).Subscribes name then 1 else 0) =
        countOf s.mqttSub name + if (s'.files (fileNumber m)).Subscribes name then 1 else 0) : s'.Tallied := by
  have elsewhere : ∀ n < 65536, n ≠ m → s'.files (fileNumber n) = s.files (fileNumber n) := by
    intro n inside different
    apply others
    intro same
    exact different (fileNumber_inj (by omega) (by omega) same)
  refine ⟨fun name named => ?_, fun name n named held => ?_, fun name named => ?_⟩
  · have written : (s'.holders name).card + (if (s.files (fileNumber m)).Subscribes name then 1 else 0) =
        (s.holders name).card + if (s'.files (fileNumber m)).Subscribes name then 1 else 0 :=
      card_holders small fun n inside different => by rw [elsewhere n inside different]
    have before := tallied.counts name named
    have changed := counts name named
    omega
  · rw [nthClient_congr clients]
    by_cases here : n = m
    · rw [here]
      exact registered
    · obtain ⟨inside, subscribed⟩ := mem_holders.mp held
      rw [elsewhere n inside here] at subscribed
      exact tallied.tenanted name n named (mem_holders.mpr ⟨inside, subscribed⟩)
  · rw [others _ fun same => fileNumber_ne_empty same.symm]
    exact tallied.nameless name named

theorem mqttSub_uncount_named (named : IsTopicName name) :
    (s.uncount (some name)).mqttSub = Persistent.decrementCount s.mqttSub name := by
  unfold uncount
  rw [validName_named named]

theorem Tallied.removeSubscription {i : Nat} {record : EntrySubscription} (tallied : s.Tallied) (ok : s.Ok)
    (small : m < 65536) (registered : (s.nthClient m).clientStatus ≠ .empty)
    (found : (s.files (fileNumber m)).sub[i]? = some record) (used : record.topicId ≠ 0) :
    (s.removeSubscription (fileNumber m) i record.topicName).Tallied := by
  have filesOk := ok.files (fileNumber m)
  have named := (filesOk.filled found used).1
  have member : (s.files (fileNumber m)).Subscribes record.topicName := ⟨record, List.mem_of_getElem? found, rfl⟩
  unfold Store.removeSubscription
  apply tallied.write small registered
  · exact clients_uncount
  · intro number different
    rw [files_uncount, files_modifyFiles, if_neg different]
  · intro name valid
    have erased := filesOk.subscribes_eraseSubscription found valid
    rw [files_uncount, files_modifyFiles_self, mqttSub_uncount_named named]
    show countOf (Persistent.decrementCount s.mqttSub record.topicName) name + _ = _
    rw [ok.counts.countOf_decrementCount]
    simp only [erased]
    by_cases same : name = record.topicName
    · subst same
      have counted := tallied.counts _ named
      have one : 0 < (s.holders record.topicName).card :=
        Finset.card_pos.mpr ⟨m, mem_holders.mpr ⟨small, member⟩⟩
      simp only [member, if_true, ne_eq, not_true_eq_false, false_and, if_false]
      omega
    · simp [same, Ne.symm same]

theorem not_subscribes_of_count {files : ClientFiles} (ok : files.Ok) (none_left : Gateway.subscriptionCount files.sub = 0)
    (named : IsTopicName name) : ¬ files.Subscribes name := by
  rintro ⟨record, member, rfl⟩
  rcases ok.subFilled record member with zero | ⟨used, _, _⟩
  · rw [zero] at named
    exact ClientFiles.not_topicName_empty named
  · unfold Gateway.subscriptionCount at none_left
    have unused := List.countP_eq_zero.mp none_left record member
    exact unused (decide_eq_true used)

/-- A client without subscriptions is deleted, and with it the file of one without. -/
theorem Tallied.deleteClient {sd : SDLinuxFake} {number clientId : CString} (tallied : s.Tallied) (ok : s.Ok)
    (none_left : Gateway.subscriptionCount (s.files number).sub = 0)
    (unsubscribed : ∀ j, s.slotOfId clientId = some j → ∀ name, IsTopicName name →
      ¬ (s.files (fileNumber j)).Subscribes name) : (s.deleteClient sd number clientId).Tallied := by
  have kept : ∀ other name, IsTopicName name →
      (((s.deleteClient sd number clientId).files other).Subscribes name ↔ (s.files other).Subscribes name) := by
    intro other name named
    rw [files_deleteClient]
    split
    · rename_i own
      rw [own]
      have before := not_subscribes_of_count (ok.files number) none_left named
      refine iff_of_false ?_ before
      rintro ⟨record, member, rfl⟩
      rcases (Loses.deleted sd number).sub record member with zero | stored
      · rw [zero] at named
        exact ClientFiles.not_topicName_empty named
      · exact before ⟨record, stored, rfl⟩
    · rfl
  have holders : ∀ name, IsTopicName name → (s.deleteClient sd number clientId).holders name = s.holders name :=
    fun name named => holders_congr fun n _ => kept _ name named
  refine ⟨fun name named => ?_, fun name n named held => ?_, fun name named => ?_⟩
  · rw [mqttSub_deleteClient, holders name named]
    exact tallied.counts name named
  · rw [holders name named] at held
    rw [nthClient_deleteClient_ne]
    · exact tallied.tenanted name n named held
    · intro erased
      exact unsubscribed n erased name named (mem_holders.mp held).2
  · rw [kept _ name named]
    exact tallied.nameless name named

theorem Tallied.writeSlot {entry : EntryClient} (tallied : s.Tallied) (registered : entry.clientStatus ≠ .empty) :
    (s.writeSlot n entry).Tallied := by
  have same : SameTopics s (s.writeSlot n entry) := ⟨fun _ => rfl, rfl⟩
  apply tallied.keep same
  intro k used
  rw [nthClient_writeSlot]
  split
  · exact registered
  · exact used

theorem Tallied.updateAt {address : DeviceAddress} {f : EntryClient → EntryClient} (tallied : s.Tallied) (ok : s.SlotsOk)
    (nonzero : address ≠ .zero) (keeps : Keeps f) : (s.updateAt address f).Tallied := by
  cases selection : s.slotOfAddress address with
  | some n =>
    rw [updateAt_found selection]
    apply tallied.writeSlot
    exact (keeps _ (ok.registered_of_slotOfAddress nonzero selection)).registered
  | none =>
    unfold Store.updateAt
    rw [selection]
    exact tallied

end Changes

section Subscribing

variable {id : UInt16} {qos : UInt8}

theorem mqttSub_subscribe : (s.subscribe n name id qos).mqttSub = Persistent.incrementCount s.mqttSub name := by
  unfold Store.subscribe
  split <;> rfl

theorem sub_subscribe_unstored (ok : s.Ok)
    (unstored : ¬ (id ≠ 0 ∧ Room EntrySubscription.isEmpty (s.files (s.nthClient n).fileNumber).sub)) (number : CString) :
    ((s.subscribe n name id qos).files number).sub = (s.files number).sub := by
  unfold Store.subscribe
  by_cases zero : id = 0
  · simp only [zero, if_true]
  · simp only [zero, if_false]
    unfold Store.setFiles
    rw [files_modifyFiles]
    split
    · rename_i own
      rw [own]
      rw [(ok.files (s.nthClient n).fileNumber).appendSubscription_unstored ⟨id, qos, name⟩ fun room => unstored ⟨zero, room⟩]
    · rfl

theorem card_holders_le : (s.holders name).card ≤ 65536 := by
  have bound := Finset.card_filter_le (Finset.range 65536) fun n => (s.files (fileNumber n)).Subscribes name
  rw [Finset.card_range] at bound
  exact bound

theorem Tallied.subscribe (tallied : s.Tallied) (ok : s.Ok) (regular : s.Regular) (registered : (s.nthClient n).clientStatus ≠ .empty)
    (named : IsTopicName name) (fresh : ¬ (s.files (s.nthClient n).fileNumber).Subscribes name)
    (both : (id ≠ 0 ∧ Room EntrySubscription.isEmpty (s.files (s.nthClient n).fileNumber).sub) ↔ CountRoom s.mqttSub name) :
    (s.subscribe n name id qos).Tallied := by
  by_cases room : CountRoom s.mqttSub name
  · obtain ⟨used, free⟩ := both.mpr room
    have own := regular n registered
    have only : TablesOnly (s.nthClient n).fileNumber s (s.subscribe n name id qos) := .subscribe
    rw [own] at only fresh free
    have stored : ∀ other, IsTopicName other → (((s.subscribe n name id qos).files (fileNumber n)).Subscribes other ↔
        name = other ∨ (s.files (fileNumber n)).Subscribes other) := by
      intro other valid
      unfold Store.subscribe
      simp only [used, if_false]
      unfold Store.setFiles
      rw [own, files_modifyFiles_self]
      exact (ok.files _).subscribes_appendSubscription free valid
    apply tallied.write (ok.slots.inside registered) registered only.clients only.files
    intro other valid
    have bound := tallied.counts name named
    have most : (s.holders name).card ≤ 65536 := card_holders_le
    have counted : countOf (Persistent.incrementCount s.mqttSub name) other =
        countOf s.mqttSub other + if other = name then 1 else 0 :=
      ok.counts.countOf_incrementCount named room (by omega)
    rw [mqttSub_subscribe, counted]
    simp only [stored other valid]
    by_cases same : other = name
    · subst same
      simp [fresh]
    · simp [same, Ne.symm same]
  · have unstored := fun stored => room (both.mp stored)
    have same : SameTopics s (s.subscribe n name id qos) := by
      refine ⟨sub_subscribe_unstored ok unstored, ?_⟩
      rw [mqttSub_subscribe]
      exact ok.counts.incrementCount_full room
    apply tallied.keep same
    intro k used
    rw [nthClient_congr (TablesOnly.subscribe (s := s)).clients]
    exact used

/-- The count of what the broker refuses is taken back, so it must not be stored either. -/
theorem Tallied.subscribe_refused (tallied : s.Tallied) (ok : s.Ok) (named : IsTopicName name)
    (alone : Gateway.FirstSubscriber s name)
    (unstored : ¬ (id ≠ 0 ∧ Room EntrySubscription.isEmpty (s.files (s.nthClient n).fileNumber).sub)) :
    ((s.subscribe n name id qos).uncount (some name)).Tallied := by
  refine tallied.congr (fun number => ?_) (fun other _ => ?_) fun k used => ?_
  · rw [files_uncount]
    exact sub_subscribe_unstored ok unstored number
  · rw [mqttSub_uncount_named named, mqttSub_subscribe, ok.counts.incrementCount.countOf_decrementCount,
      ok.counts.countOf_incrementCount named (.inr alone.2)]
    · exact Nat.add_sub_cancel _ _
    · have first := alone.1
      omega
  · rw [nthClient_congr clients_uncount, nthClient_congr (TablesOnly.subscribe (s := s)).clients]
    exact used

theorem Tallied.uncount {topicName : Option CString} (tallied : s.Tallied) (ok : CountsOk s.mqttSub)
    (uncounted : s.countOfTopic topicName = 0) : (s.uncount topicName).Tallied := by
  refine tallied.congr (fun number => ?_) (fun name _ => ?_) fun k used => ?_
  · rw [files_uncount]
  · unfold Store.uncount
    unfold countOfTopic at uncounted
    cases valid : validName topicName with
    | none => rfl
    | some taken =>
      rw [valid] at uncounted
      simp only at uncounted ⊢
      rw [ok.countOf_decrementCount]
      split
      · rename_i same
        rw [same, uncounted]
      · exact Nat.sub_zero _
  · rw [nthClient_congr clients_uncount]
    exact used

end Subscribing

end Store

namespace Gateway

variable {g after : Gateway} {s s' : Store} {m n : Nat} {name : CString} {topicName : Option CString} {address : DeviceAddress}

theorem Removal.tallied {number : CString} {g' : Gateway} (removal : Removal number g s g' s') (tallied : s.Tallied)
    (ok : s.Ok) (own : number = .empty ∨ ∃ m < 65536, number = fileNumber m ∧ (s.nthClient m).clientStatus ≠ .empty) :
    s'.Tallied := by
  induction removal with
  | refl => exact tallied
  | @round g' s' i record removal found used ih =>
    have between := removal.ok ok
    rcases own with rfl | ⟨m, small, rfl, registered⟩
    · have named := ((between.files .empty).filled found used).1
      exact absurd ⟨record, List.mem_of_getElem? found, rfl⟩ (ih.nameless record.topicName named)
    · rw [← removal.nthClient] at registered
      exact ih.removeSubscription between small registered found used

theorem SameTopics.tallied_acts (same : SameTopics s s') (tallied : s.Tallied) (acts : ActsAt s address s') :
    s'.Tallied := by
  apply tallied.keep same
  intro n registered
  by_cases selected : s.slotOfAddress address = some n
  · exact (acts.selected n selected).registered
  · rw [acts.entries n selected]
    exact registered

/-- What letting a client in needs: nothing, as the client whose session is cleaned loses its own subscriptions. -/
theorem AddsClient.tallied {clientId : CString} {duration : UInt16} {clean : Bool} {result : CoreResult}
    (adds : AddsClient g clientId duration clean address result after) (sound : g.Sound) (regular : g.store.Regular)
    (tallied : g.store.Tallied) : after.store.Tallied := by
  cases adds with
  | offline _ => exact tallied
  | long _ settles _ =>
    rw [settles.store]
    exact tallied
  | new _ _ _ => exact tallied.writeSlot nofun
  | reset _ _ _ _ => exact tallied.writeSlot nofun
  | @cleaned n g' s _ _ _ found removal none_left =>
    have own : (g.store.nthClient n).fileNumber = .empty ∨ ∃ m < 65536, (g.store.nthClient n).fileNumber = fileNumber m ∧
        (g.store.nthClient m).clientStatus ≠ .empty := by
      by_cases registered : (g.store.nthClient n).clientStatus = .empty
      · left
        rw [(sound.ok.slots.fits n).emptied registered]
        rfl
      · exact .inr ⟨n, sound.ok.slots.inside registered, regular n registered, registered⟩
    have removed := removal.tallied tallied sound.ok own
    have ok := removal.ok sound.ok
    rw [store_settled]
    refine (removed.deleteClient ok none_left ?_).writeSlot nofun
    intro j erased name named subscribed
    rw [slotOfId_congr removal.clients, found] at erased
    cases erased
    have small : n < 65536 := by
      have short := sound.ok.slots.short
      have inside := (findIdx?_clients.mp found).1
      omega
    have registered := removed.tenanted name n named (mem_holders.mpr ⟨small, subscribed⟩)
    rw [removal.nthClient] at registered
    rw [regular n registered] at none_left
    exact not_subscribes_of_count (ok.files _) none_left named subscribed

theorem Connection.tallied {clientId : CString} {duration : UInt16} {will clean : Bool}
    (connection : Connection g clientId duration will clean address after) (orderly : g.Orderly) (nonzero : address ≠ .zero)
    (tallied : g.store.Tallied) : after.store.Tallied := by
  cases connection with
  | rejected adds _ _ =>
    rw [store_send]
    exact adds.tallied orderly.sound orderly.regular tallied
  | accepted adds _ =>
    rw [store_send]
    exact adds.tallied orderly.sound orderly.regular tallied
  | asked adds _ settles _ =>
    have entered := adds.tallied orderly.sound orderly.regular tallied
    rw [store_send, settles.store]
    exact entered.updateAt (adds.sound orderly.sound nonzero).ok.slots nonzero (keeps_await _)

/-- A SUBSCRIBE keeps the counts if a new subscription finds its place in the file of the client just when its count
    finds one in MQTT.SUB, and if none is stored that the broker refuses. -/
theorem Subscription.tallied {id : UInt16} {qos : UInt8} (subscription : Subscription g n name id qos s after)
    (tallied : s.Tallied) (registered : Registered g n name id s) (regular : s.Regular)
    (client : (s.nthClient n).clientStatus ≠ .empty)
    (granted : IsTopicName name → ¬ (s.files (s.nthClient n).fileNumber).Subscribes name →
      ¬ (FirstSubscriber s name ∧ g.RefusesSubscribe) →
      ((id ≠ 0 ∧ Room EntrySubscription.isEmpty (s.files (s.nthClient n).fileNumber).sub) ↔ CountRoom s.mqttSub name))
    (refused : IsTopicName name → ¬ (s.files (s.nthClient n).fileNumber).Subscribes name → FirstSubscriber s name →
      g.RefusesSubscribe → ¬ (id ≠ 0 ∧ Room EntrySubscription.isEmpty (s.files (s.nthClient n).fileNumber).sub)) :
    after.store.Tallied := by
  have ok := registered.ok
  cases subscription with
  | again _ => exact tallied
  | counted named fresh others =>
    rw [← registered.client] at fresh
    apply tallied.subscribe ok regular client named fresh
    apply granted named fresh
    exact fun alone => others ((counted_subscribe_iff ok named).mpr alone.1)
  | first named fresh _ answered =>
    rw [← registered.client] at fresh
    rw [(paho_subscribe_granted answered).store]
    apply tallied.subscribe ok regular client named fresh
    apply granted named fresh
    rintro ⟨_, refuses⟩
    have answer : (pahoMqttMessageHandler.subscribe (g.settled (s.subscribe n name id qos) (g.store.nthClient n)) name 1).1 =
        false := paho_subscribe_refused.mpr refuses
    rw [answered] at answer
    cases answer
  | refused named fresh alone answered =>
    rw [← registered.client] at fresh
    have first := (counted_subscribe_iff ok named).mp alone
    have refuses : (g.settled (s.subscribe n name id qos) (g.store.nthClient n)).RefusesSubscribe :=
      paho_subscribe_refused.mp (congrArg Prod.fst answered)
    exact tallied.subscribe_refused ok named first (refused named fresh first refuses)

/-- An UNSUBSCRIBE keeps the counts only if it does nothing, as it does for each client that is subscribed. -/
theorem Unsubscription.tallied {topicId : UInt16} (unsubscription : Unsubscription g address topicId topicName after)
    (tallied : g.store.Tallied) (ok : g.store.Ok)
    (harmless : (g.store.slotOfAddress address ≠ none →
        ¬ g.store.SubscribesTopic (g.store.entryAt address).fileNumber topicName) →
      g.store.unsubscribe (g.store.entryAt address).fileNumber topicId topicName = none ∨
        topicId = 0 ∧ g.store.countOfTopic topicName = 0) : after.store.Tallied := by
  have uncounts : ∀ s, (g.store.slotOfAddress address ≠ none →
        ¬ g.store.SubscribesTopic (g.store.entryAt address).fileNumber topicName) →
      g.store.unsubscribe (g.store.entryAt address).fileNumber topicId topicName = some s → s.Tallied := by
    intro s fresh deleted
    rcases harmless fresh with none_found | ⟨zero, uncounted⟩
    · rw [none_found] at deleted
      cases deleted
    · unfold Store.unsubscribe at deleted
      rw [if_pos zero] at deleted
      cases deleted
      exact tallied.uncount ok.counts uncounted
  cases unsubscription with
  | skipped _ _ => exact tallied
  | counted fresh deleted _ => exact uncounts _ fresh deleted
  | last fresh deleted _ =>
    rw [paho_unsubscribe_called.store]
    exact uncounts _ fresh deleted
  | failed _ _ =>
    rw [paho_unsubscribe_called.store]
    exact tallied

/-- A time-out keeps the counts unless it erases the entry of another client, which leaves the subscriptions of that
    one behind. -/
theorem TimesOut.tallied {slot : EntryClient} {elapsed : UInt32} (timesOut : TimesOut g slot elapsed after)
    (orderly : g.Orderly) (nonzero : slot.clientAddress ≠ .zero) (tallied : g.store.Tallied)
    (erased : g.Removes slot elapsed → ∀ j, g.store.slotOfId slot.clientId = some j →
      g.store.slotOfAddress slot.clientAddress ≠ some j → (g.store.nthClient j).clientStatus ≠ .empty →
      ∀ name, IsTopicName name → ¬ (g.store.files (fileNumber j)).Subscribes name) : after.store.Tallied := by
  have slots := orderly.sound.ok.slots
  cases timesOut with
  | disconnected _ => exact tallied
  | running _ _ settles _ =>
    rw [settles.store]
    exact tallied.updateAt slots nonzero (keeps_timeout _)
  | lost _ _ _ settles _ =>
    rw [settles.store]
    exact tallied.updateAt slots nonzero (keeps_lost _)
  | @deleted m will g' s found expires willing removal none_left =>
    have keeps : Keeps fun entry => { entry with timeout := slot.timeout + elapsed, clientStatus := .lost } := keeps_lost _
    have lost := tallied.updateAt slots nonzero keeps
    have lostOk := orderly.sound.ok.updateAt nonzero keeps
    have registered := slots.registered_of_slotOfAddress nonzero found
    have own := orderly.regular m registered
    have selected : ((g.store.updateAt slot.clientAddress fun entry =>
        { entry with timeout := slot.timeout + elapsed, clientStatus := .lost }).nthClient m).clientStatus ≠ .empty := by
      rw [orderly.regular.nthClient_updateAt slots nonzero, if_pos found]
      nofun
    have removed := removal.tallied lost lostOk (.inr ⟨m, slots.inside registered, own, selected⟩)
    have ok := removal.ok lostOk
    have ids : ∀ i, (s.nthClient i).clientId = (g.store.nthClient i).clientId := by
      intro i
      rw [removal.nthClient]
      exact orderly.regular.updateAt_keeps EntryClient.clientId slots nonzero fun _ => rfl
    have status : ∀ i, (s.nthClient i).clientStatus ≠ .empty → (g.store.nthClient i).clientStatus ≠ .empty := by
      intro i used
      rw [removal.nthClient, orderly.regular.nthClient_updateAt slots nonzero] at used
      split at used
      · rename_i here
        exact slots.registered_of_slotOfAddress nonzero here
      · exact used
    rw [store_settled]
    apply removed.deleteClient ok none_left
    intro j bound name named subscribed
    have small : j < 65536 := by
      have short := ok.slots.short
      have inside := (findIdx?_clients.mp bound).1
      omega
    have client := status j (removed.tenanted name j named (mem_holders.mpr ⟨small, subscribed⟩))
    by_cases here : j = m
    · rw [here, ← own] at subscribed
      exact not_subscribes_of_count (ok.files _) none_left named subscribed
    · have before := ok.slots.slotOfId_congr slots (fun i => (ids i).symm) bound client
      have other : g.store.slotOfAddress slot.clientAddress ≠ some j := by
        rw [found]
        intro same
        cases same
        exact here rfl
      have willed : g.Removes slot elapsed := by
        refine ⟨expires, ?_⟩
        rw [entryAt_found found, willing]
        nofun
      apply erased willed j before other client name named
      have kept := removal.lose (fileNumber j)
      rw [files_updateAt] at kept
      obtain ⟨record, member, rfl⟩ := subscribed
      rcases kept.sub record member with zero | stored
      · rw [zero] at named
        exact absurd named ClientFiles.not_topicName_empty
      · exact ⟨record, stored, rfl⟩

section Steps

variable {input : Input}

/-- A SUBSCRIBE has an id to go on with if its topic can be registered. -/
theorem AddsTopic.given_iff {request : Request} {id : UInt16} (adds : g.AddsTopic address request n name id s)
    (ok : g.store.Ok) : id ≠ 0 ↔ CanRegister (g.store.files (g.store.nthClient n).fileNumber) name := by
  cases adds with
  | byId _ _ known => exact topicOf_given_iff ok known
  | byName _ _ known =>
    obtain ⟨used, given, rfl, registered⟩ := Store.topicOfName_found known
    refine iff_of_true used ?_
    have filesOk := ok.files (g.store.nthClient n).fileNumber
    rcases filesOk.registerName_cases _ with ⟨entry, member, named, found⟩ | ⟨room, _⟩ | ⟨_, full⟩
    · left
      unfold Store.setFiles at registered
      rw [files_modifyFiles_self, found] at registered
      obtain ⟨i, entry, here, _, named, _⟩ := filesOk.registeredName_some registered
      exact ⟨entry, List.mem_of_getElem? here, named⟩
    · exact .inr room
    · rw [given, full] at used
      exact absurd rfl used

/-- A request over intact tables that keeps the counts: a new subscription finds its place in the files of its client and
    its count one in MQTT.SUB, the broker refuses none, and no UNSUBSCRIBE has an effect. -/
structure Countable (g : Gateway) (input : Input) : Prop where
  intact : g.store.Intact
  stores : ∀ address request n name id s, input.request? = some (address, request) →
    (g.prepare input).AddsTopic address request n name id s → IsTopicName name →
    ¬ (g.store.files (g.store.nthClient n).fileNumber).Subscribes name →
    Storable (g.store.files (g.store.nthClient n).fileNumber) name ∧ CountRoom g.store.mqttSub name
  granted : ∀ address request n name id s, input.request? = some (address, request) →
    (g.prepare input).AddsTopic address request n name id s → IsTopicName name →
    ¬ (g.store.files (g.store.nthClient n).fileNumber).Subscribes name →
    ¬ (FirstSubscriber g.store name ∧ (g.prepare input).RefusesSubscribe)
  takes : ∀ address request topicId topicName, input.request? = some (address, request) →
    (g.prepare input).TakesTopic address request topicId topicName →
    (g.store.slotOfAddress address ≠ none → ¬ g.store.SubscribesTopic (g.store.entryAt address).fileNumber topicName) →
    g.store.unsubscribe (g.store.entryAt address).fileNumber topicId topicName = none ∨
      topicId = 0 ∧ g.store.countOfTopic topicName = 0

theorem Countable.adds {between : Gateway} {request : Request} {id : UInt16} {qos : UInt8} (countable : g.Countable input)
    (orderly : g.Orderly) (nonzero : address ≠ .zero) (tallied : g.store.Tallied)
    (made : input.request? = some (address, request)) (adds : (g.prepare input).AddsTopic address request n name id s)
    (subscription : Subscription (g.prepare input) n name id qos s between) : between.store.Tallied := by
  have ok : (g.prepare input).store.Ok := orderly.sound.ok
  obtain ⟨same, clients⟩ := adds.sameTopics
  have registered := adds.registered ok
  have client : s.nthClient n = g.store.nthClient n := registered.client
  have sub : (s.files (s.nthClient n).fileNumber).sub = (g.store.files (g.store.nthClient n).fileNumber).sub := by
    rw [client]
    exact same.sub _
  have mqttSub : s.mqttSub = g.store.mqttSub := same.mqttSub
  have selected := ok.slots.registered_of_slotOfAddress nonzero adds.found
  have kept : s.Tallied := by
    apply Tallied.keep (s := g.store) tallied same
    intro k used
    rw [nthClient_congr clients]
    exact used
  have regular : s.Regular := Regular.congr (s := g.store) orderly.regular clients
  have storable : (id ≠ 0 ∧ Room EntrySubscription.isEmpty (s.files (s.nthClient n).fileNumber).sub) ↔
      Storable (g.store.files (g.store.nthClient n).fileNumber) name := by
    unfold Storable
    rw [sub]
    exact and_congr_left fun _ => adds.given_iff ok
  have first : FirstSubscriber s name ↔ FirstSubscriber g.store name := by
    unfold FirstSubscriber
    rw [mqttSub]
  apply subscription.tallied kept registered regular
  · rw [client]
    exact selected
  · intro named fresh _
    rw [subscribes_congr sub] at fresh
    rw [storable, mqttSub]
    obtain ⟨stored, counted⟩ := countable.stores address request n name id s made adds named fresh
    exact iff_of_true stored counted
  · intro named fresh alone refused
    rw [subscribes_congr sub] at fresh
    exact absurd ⟨first.mp alone, refused⟩ (countable.granted address request n name id s made adds named fresh)

theorem step_tallied (orderly : g.Orderly) (countable : g.Countable input)
    (idle : ∀ beat elapsed, input.event = .loop beat elapsed → g.persistent.isMqttsnOnline = false)
    (tallied : g.store.Tallied) (stepped : step g input = some after) : after.store.Tallied := by
  have prepared : (g.prepare input).Orderly := orderly.prepare
  cases step_stepped stepped with
  | restart _ => exact tallied
  | @datagram sender bytes beyond _ event _ handled =>
    have nonzero := sender.getDeviceAddress_ne_zero
    have made := Input.request_of_datagram event
    generalize Request.ofMemory (receiveBuffer bytes beyond) = request at handled made
    cases handle_topics prepared.sound nonzero handled with
    | connect connection => exact connection.tallied prepared nonzero tallied
    | adds adds subscription answered =>
      rw [answered.store]
      exact countable.adds orderly nonzero tallied made adds subscription
    | takes takes unsubscription answered =>
      rw [answered.store]
      exact unsubscription.tallied tallied prepared.sound.ok (countable.takes _ _ _ _ made takes)
    | keeps settles same acts =>
      rw [settles.store]
      exact SameTopics.tallied_acts (s := g.store) same tallied (acts prepared.regular)
  | brokerMessage _ _ published =>
    have receives := publishFromBroker_receives prepared.sound.idle published
    have same : SameTopics g.store after.store := ⟨fun number => (receives.tables number).2, receives.mqttSub⟩
    apply tallied.keep same
    intro k used
    rw [nthClient_congr receives.clients]
    exact used
  | loop event looped =>
    have offline := idle _ _ event
    refine loop_invariant (I := fun g => g.store.Tallied) prepared.sound tallied (fun _ _ quiet kept => quiet.store ▸ kept)
      ?_ ?_ looped
    · intro _ _ _ _ _ kind
      cases kind with
      | online connected => cases offline.symm.trans connected.1
      | offline connected => cases offline.symm.trans connected.1
    · intro k g g' sound registered settles _ kept
      have slots := sound.ok.slots
      rw [settles.store]
      exact kept.updateAt slots ((slots.fits k).addressed registered) (keeps_status (by decide))
  | mqttConnect _ _ => exact tallied
  | mqttConnectionLost _ => exact tallied
  | socketLost _ => exact tallied
  | @socketBegin opened _ _ => cases opened <;> exact tallied

end Steps

section Visits

variable {round : Round}

/-- A visit that does not erase the entry of another client than the one that times out, if that other client has
    subscriptions. -/
def ErasesOwn (g : Gateway) (round : Round) : Prop :=
  round.hasHeartBeaten = true → g.Removes (g.store.nthClient round.slot) round.elapsedTime →
    ∀ j, g.store.slotOfId (g.store.nthClient round.slot).clientId = some j →
      g.store.slotOfAddress (g.store.nthClient round.slot).clientAddress ≠ some j →
      ∀ name, IsTopicName name → ¬ (g.store.files (g.store.nthClient j).fileNumber).Subscribes name

theorem visit_tallied (orderly : g.Orderly) (registered : (g.store.nthClient round.slot).clientStatus ≠ .empty)
    (erases : g.ErasesOwn round) (tallied : g.store.Tallied)
    (returned : round.body round.slot (g.store.nthClient round.slot) g = some after) : after.store.Tallied := by
  have slots := orderly.sound.ok.slots
  obtain ⟨m, _, found⟩ := slots.slotOfAddress_here ((slots.fits round.slot).addressed registered) rfl
  have visit := body_visit orderly registered found returned
  have first : SameTopics g.store (g.delivered round.slot).store :=
    Touched.sameTopics (s := g.store) (visit.delivers.delivery found).touches.touched
  have same : SameTopics g.store (g.drained round round.slot).store :=
    first.trans (visit.drains.touches round.used.1).touched.sameTopics
  have kept : (g.drained round round.slot).store.Tallied := by
    apply tallied.keep same
    intro k used remains
    have number := orderly.regular k used
    rw [← (visit.same k).fileNumber, (visit.second.sound.ok.slots.fits k).emptied remains] at number
    exact fileNumber_ne_empty number.symm
  have timesOut := visit.timesOut
  split at timesOut
  · rename_i beaten
    apply timesOut.tallied visit.second visit.nonzero kept
    intro removes j bound other client name named
    have willed : g.Removes (g.store.nthClient round.slot) round.elapsedTime := by
      obtain ⟨expires, willing⟩ := removes
      refine ⟨expires, ?_⟩
      rw [entryAt_found visit.found, (visit.same m).fileNumber, visit.wil] at willing
      rw [entryAt_found found]
      exact willing
    have before := visit.registered client
    have here : g.store.slotOfId (g.store.nthClient round.slot).clientId = some j :=
      visit.second.sound.ok.slots.slotOfId_congr slots (fun i => (visit.same i).clientId.symm) bound before
    have unselected : g.store.slotOfAddress (g.store.nthClient round.slot).clientAddress ≠ some j := by
      rw [found, ← visit.found]
      exact other
    have clear := erases beaten willed j here unselected name named
    rw [orderly.regular j before] at clear
    rw [subscribes_congr (same.sub _)]
    exact clear
  · rw [timesOut]
    exact kept

end Visits

end Gateway

namespace Stage

variable {stage later : Stage} {moment : Moment} {name : CString}

structure Counting (stage : Stage) (moment : Moment) : Prop where
  alive : NoRevival stage moment
  countable : onInputs Gateway.Countable stage moment
  erases : moment = .visit → ∀ round, stage.round = some round → stage.gateway.ErasesOwn round

theorem step_tallied (orderly : stage.gateway.Orderly) (counting : Counting stage moment)
    (tallied : stage.gateway.store.Tallied) (stepped : step stage moment = some later) : later.gateway.store.Tallied := by
  have sound := orderly.sound
  cases step_stepped stepped with
  | event _ other taken =>
    refine Gateway.step_tallied orderly (counting.countable _ rfl) ?_ tallied taken
    exact fun beat elapsed event => absurd event (other beat elapsed)
  | disconnected _ _ offline taken =>
    exact Gateway.step_tallied orderly (counting.countable _ rfl) (fun _ _ _ => offline) tallied taken
  | begun _ _ _ quiet =>
    rw [(quiet sound.idle).store]
    exact tallied
  | empty _ _ quiet =>
    rw [(quiet sound).store]
    exact tallied
  | visit under registered returned =>
    exact Gateway.visit_tallied orderly registered (counting.erases rfl _ under) tallied returned

theorem tallied_empty : Store.Tallied .empty where
  counts name _ := by
    have nobody : Store.holders .empty name = ∅ := by
      rw [Finset.eq_empty_iff_forall_notMem]
      intro n held
      obtain ⟨_, record, member, _⟩ := mem_holders.mp held
      cases member
    rw [nobody, Finset.card_empty]
    unfold countOf
    split
    · rename_i record found
      cases found
    · rfl
  tenanted name n _ held := by
    obtain ⟨_, record, member, _⟩ := mem_holders.mp held
    cases member
  nameless name _ := by
    rintro ⟨record, member, _⟩
    cases member

/-- In a run of such moments every count is the number of the clients that have subscribed to the topic. -/
theorem subscription_count (run : RunOf Counting stage) (named : IsTopicName name) :
    (stage.gateway.persistent.getGlobalTopicSubscriptionCount (some name)).toNat =
      (stage.gateway.store.subscribers name).card := by
  have orderly := orderly_of_run (fun _ _ counting => counting.alive) run
  have tallied : stage.gateway.store.Tallied := by
    clear orderly
    induction run with
    | start initial =>
      obtain ⟨⟨config, same⟩, _⟩ := initial
      rw [same]
      exact tallied_empty
    | next before meets taken ih =>
      exact step_tallied (orderly_of_run (fun _ _ counting => counting.alive) before) meets ih taken
  have counted : (stage.gateway.persistent.getGlobalTopicSubscriptionCount (some name)).toNat =
      countOf stage.gateway.store.mqttSub name := getGlobalTopicSubscriptionCount_eq orderly.sound.idle.clean named
  rw [counted, tallied.counts name named, tallied.subscribers_eq orderly.regular orderly.sound.ok.slots named]

end Stage

namespace Scenario

def subscribing : Event := .datagram (client 1) (Datagram.subscribeByName (name 116) 1 0) []

def subscriber : Stage := (Stage.step registered (event subscribing)).get (by decide +kernel)

def uncounted : Stage :=
  (Stage.step subscriber (event (.datagram (client 2) (Datagram.unsubscribeByName (name 116) 2) []))).get (by decide +kernel)

theorem reached_uncounted : Stage.RunOf (fun _ _ => True) uncounted := by
  have first : Stage.RunOf (fun _ _ => True) online :=
    .next (.start ⟨⟨configuration [47], rfl⟩, rfl⟩) trivial (Option.some_get _).symm
  have second : Stage.RunOf (fun _ _ => True) registered := .next first trivial (Option.some_get _).symm
  have third : Stage.RunOf (fun _ _ => True) subscriber := .next second trivial (Option.some_get _).symm
  exact .next third trivial (Option.some_get _).symm

/-- The client is subscribed still, but not counted. -/
theorem uncounted_subscriber :
    ∃ stage : Stage, Stage.RunOf (fun _ _ => True) stage ∧ stage.round = none ∧ ¬ ∀ name, IsTopicName name →
      (stage.gateway.persistent.getGlobalTopicSubscriptionCount (some name)).toNat =
        (stage.gateway.store.subscribers name).card := by
  refine ⟨uncounted, reached_uncounted, by decide +kernel, ?_⟩
  intro counts
  have same := counts (name 116) (by decide)
  revert same
  decide +kernel

theorem counting_event {stage : Stage} {events : Event} (alive : stage.gateway.NoRevival ⟨events, [], []⟩)
    (countable : stage.gateway.Countable ⟨events, [], []⟩) : Stage.Counting stage (event events) := by
  refine ⟨fun input same => ?_, fun input same => ?_, fun visit => by cases visit⟩
  · cases same
    exact alive
  · cases same
    exact countable

theorem run_subscriber : Stage.RunOf Stage.Counting subscriber := by
  have first : Stage.Counting started (event .mqttConnect) := by
    apply counting_event
    · intro address request made
      cases made
    · refine ⟨by decide +kernel, ?_, ?_, ?_⟩
      all_goals
        intros
        contradiction
  have second : Stage.Counting online (event (.datagram (client 1) (Datagram.connect (name 65) 10 0) [])) := by
    have kind : Request.ofMemory (receiveBuffer (Datagram.connect (name 65) 10 0) []) = .connect (name 65) 10 false false := rfl
    apply counting_event
    · intro address request made
      cases made
      rw [kind]
      rintro ⟨clientId, duration, will, n, same, found, _⟩
      cases same
      revert found
      have missing : online.gateway.store.slotOfId (name 65) = none := by decide +kernel
      rw [missing]
      nofun
    · refine ⟨by decide +kernel, fun address request n topic id s made adds => ?_,
        fun address request n topic id s made adds => ?_, fun address request topicId topicName made takes => ?_⟩
      · cases made
        rw [kind] at adds
        cases adds
      · cases made
        rw [kind] at adds
        cases adds
      · cases made
        rw [kind] at takes
        cases takes
  have third : Stage.Counting registered (event subscribing) := by
    have kind : Request.ofMemory (receiveBuffer (Datagram.subscribeByName (name 116) 1 0) []) =
        .subscribeByName (name 116) 1 0 := rfl
    have selected : registered.gateway.store.slotOfAddress (client 1).getDeviceAddress = some 0 := by decide +kernel
    have granting : ¬ Gateway.RefusesSubscribe (registered.gateway.prepare ⟨subscribing, [], []⟩) := by
      unfold Gateway.RefusesSubscribe
      decide +kernel
    apply counting_event
    · intro address request made
      cases made
      rw [kind]
      rintro ⟨clientId, duration, will, n, same, _⟩
      cases same
    · refine ⟨by decide +kernel, fun address request n topic id s made adds _ _ => ?_,
        fun _ _ _ _ _ _ _ _ _ _ refused => granting refused.2, fun address request topicId topicName made takes => ?_⟩
      · cases made
        have found := adds.found
        have same : n = 0 := by
          rw [show (registered.gateway.prepare ⟨subscribing, [], []⟩).store = registered.gateway.store from rfl,
            selected] at found
          exact (Option.some.inj found).symm
        subst same
        have reg : (registered.gateway.store.files (registered.gateway.store.nthClient 0).fileNumber).reg.length < capacity := by
          decide +kernel
        have sub : (registered.gateway.store.files (registered.gateway.store.nthClient 0).fileNumber).sub.length < capacity := by
          decide +kernel
        have counts : registered.gateway.store.mqttSub.length < capacity := by decide +kernel
        exact ⟨⟨.inr reg, .inl sub⟩, .inr (.inl counts)⟩
      · cases made
        rw [kind] at takes
        cases takes
  exact .next (.next (.next (.start ⟨⟨configuration [47], rfl⟩, rfl⟩) first (Option.some_get _).symm) second
    (Option.some_get _).symm) third (Option.some_get _).symm

/-- The topic of the subscriber is counted once. -/
theorem subscription_count_subscriber :
    (subscriber.gateway.persistent.getGlobalTopicSubscriptionCount (some (name 116))).toNat =
      (subscriber.gateway.store.subscribers (name 116)).card :=
  Stage.subscription_count run_subscriber (by decide)

end Scenario

end MqttSnGateway
