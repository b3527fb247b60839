import MqttSnGateway.Datagrams

namespace MqttSnGateway

open Persistent Store RecordFile

section Queues

variable {files : ClientFiles} {name : CString} {data : List UInt8} {retain : Bool} {sub : EntrySubscription}

/-- A queued message with the payload of the broker's message and the topic id and QoS of a subscription. -/
def Carries (data : List UInt8) (sub : EntrySubscription) (entry : EntryPublish) : Prop :=
  entry.payload = data ∧ entry.topicId = sub.topicId ∧ entry.qos = sub.qos

def freeRecords (pub : List EntryPublish) : Nat := capacity - (queue pub).length

theorem queue_appendPublish (retain : Bool) (sub : EntrySubscription) (ok : files.Ok) (short : data.length < 256)
    (free : 0 < freeRecords files.pub) :
    ∃ entry, Carries data sub entry ∧ entry.retain = retain ∧
      (queue (appendPublish files data sub.topicId retain sub.qos).pub).Perm (entry :: queue files.pub) ∧
      (appendPublish files data sub.topicId retain sub.qos).pubBehind = files.pubBehind := by
  have room : Room EntryPublish.isEmpty files.pub := by
    apply (room_iff ok.pubShort).mpr
    unfold freeRecords queue at free
    omega
  obtain ⟨position, place, adjacent, small, unused⟩ := freeSpace_room ok.pubShort room
  refine ⟨.placed data sub.topicId retain sub.qos position, ⟨EntryPublish.payload_placed short, rfl, rfl⟩, rfl, ?_, ?_⟩
  · rw [ClientFiles.pub_appendPublish place small]
    apply filter_put_perm adjacent
    · intro old found
      simp [unused old found]
    · simp [EntryPublish.isEmpty_placed small]
  · show files.pubBehind + behind (freeSpace EntryPublish.isEmpty files.pub) = files.pubBehind
    rw [place, behind_ofNat]
    rfl

theorem appendPublish_full {topicId : UInt16} {qos : UInt8} (ok : files.Ok) (full : freeRecords files.pub = 0) :
    appendPublish files data topicId retain qos = { files with pubBehind := files.pubBehind + 1 } := by
  have closed : ¬ Room EntryPublish.isEmpty files.pub := by
    intro room
    have := (room_iff ok.pubShort).mp room
    unfold freeRecords queue at full
    omega
  exact ClientFiles.appendPublish_unstored ok.pubShort closed

def receivedTimes (name : CString) (data : List UInt8) (retain : Bool) : Nat → ClientFiles → ClientFiles
  | 0, files => files
  | times + 1, files => (receivedTimes name data retain times files).receive name data retain

theorem receivedTimes_unsubscribed (unsubscribed : files.sub.find? (isSubscriptionTo name) = none) (times : Nat) :
    receivedTimes name data retain times files = files := by
  induction times with
  | zero => rfl
  | succ times ih =>
    rw [receivedTimes, ih]
    unfold ClientFiles.receive
    rw [unsubscribed]

/-- Every delivery adds a message as long as the file has a free record, and writes behind the file afterwards. -/
theorem receivedTimes_subscribed (retain : Bool) (ok : files.Ok) (short : data.length < 256)
    (subscribed : files.sub.find? (isSubscriptionTo name) = some sub) (times : Nat) :
    (receivedTimes name data retain times files).Ok ∧
      (receivedTimes name data retain times files).sub.find? (isSubscriptionTo name) = some sub ∧
      ∃ added, added.length = min times (freeRecords files.pub) ∧
        (∀ entry ∈ added, Carries data sub entry ∧ entry.retain = retain) ∧
        (queue (receivedTimes name data retain times files).pub).Perm (added ++ queue files.pub) ∧
        (receivedTimes name data retain times files).pubBehind = files.pubBehind + (times - freeRecords files.pub) := by
  induction times with
  | zero => exact ⟨ok, subscribed, [], by simp, by simp, .refl _, by rw [Nat.zero_sub]; rfl⟩
  | succ times ih =>
    obtain ⟨kept, same, added, length, carries, perm, behind⟩ := ih
    rw [receivedTimes]
    generalize receivedTimes name data retain times files = between at kept same perm behind ⊢
    have received : between.receive name data retain = appendPublish between data sub.topicId retain sub.qos := by
      unfold ClientFiles.receive
      rw [same]
    have total := perm.length_eq
    rw [List.length_append, length] at total
    refine ⟨Gateway.Ok.receive kept, by rw [received]; exact same, ?_⟩
    rw [received]
    by_cases free : freeRecords between.pub = 0
    · rw [appendPublish_full kept free]
      refine ⟨added, ?_, carries, perm, ?_⟩
      · unfold freeRecords at free length total ⊢
        omega
      · show between.pubBehind + 1 = _
        rw [behind]
        unfold freeRecords at free length total ⊢
        omega
    · obtain ⟨entry, fits, retained, placed, inside⟩ := queue_appendPublish retain sub kept short (by omega)
      refine ⟨entry :: added, ?_, ?_, placed.trans (perm.cons entry), ?_⟩
      · rw [List.length_cons, length]
        unfold freeRecords at free total ⊢
        omega
      · intro other member
        rcases List.mem_cons.mp member with rfl | member
        · exact ⟨fits, retained⟩
        · exact carries other member
      · rw [inside, behind]
        unfold freeRecords at free total ⊢
        omega

end Queues

namespace Store

variable {s : Store} {n m : Nat} {name number : CString} {data : List UInt8}

/-- How many slots the loop of `publish` visits: the first one, and the next ones up to a slot without
    address or with the address of the last client. -/
def reached (s : Store) : Nat :=
  1 + s.clients.tail.findIdx fun entry =>
    entry.clientAddress = .zero || entry.clientAddress = s.lastClientAddress .zero

/-- The message for an address goes into the publish file with this number, if there is a subscription. -/
def selects (s : Store) (number : CString) (address : DeviceAddress) : Bool :=
  match s.slotOfAddress address with
  | some k => (s.nthClient k).clientStatus.connected && (s.nthClient k).fileNumber = number
  | none => false

/-- How often `publish` hands a message to the publish file of the client in slot `n`. -/
def deliveries (s : Store) (n : Nat) : Nat :=
  (List.range s.reached).countP fun v => s.selects (s.nthClient n).fileNumber (s.nthClient v).clientAddress

def subscribes (s : Store) (n : Nat) (name : CString) : Prop := (s.files (s.nthClient n).fileNumber).Subscribes name

theorem nthClient_succ : s.nthClient (n + 1) = s.clients.tail.getD n .zero := by
  unfold nthClient
  cases s.clients with
  | nil => rfl
  | cons first rest => rfl

theorem reached_eq (first : 0 < m)
    (passed : ∀ j, 0 < j → j < m → (s.nthClient j).clientAddress ≠ .zero ∧
      (s.nthClient j).clientAddress ≠ s.lastClientAddress .zero)
    (ended : (s.nthClient m).clientAddress = .zero ∨ (s.nthClient m).clientAddress = s.lastClientAddress .zero) :
    m = s.reached := by
  unfold reached
  generalize place : s.clients.tail.findIdx (fun entry =>
    entry.clientAddress = .zero || entry.clientAddress = s.lastClientAddress .zero) = k
  obtain ⟨j, rfl⟩ : ∃ j, m = j + 1 := ⟨m - 1, by omega⟩
  rcases Nat.lt_trichotomy j k with before | same | beyond
  · have inside : j < s.clients.tail.length := by
      have within : k ≤ s.clients.tail.length := place ▸ List.findIdx_le_length
      omega
    have fails := List.not_of_lt_findIdx (place ▸ before)
    rw [nthClient_succ, List.getD_eq_getElem _ _ inside] at ended
    simp only [Bool.or_eq_false_iff, decide_eq_false_iff_not] at fails
    exact absurd ended (by tauto)
  · omega
  · have passes := passed (k + 1) (by omega) (by omega)
    rw [nthClient_succ] at passes
    by_cases inside : k < s.clients.tail.length
    · rw [List.getD_eq_getElem _ _ inside] at passes
      have holds := List.findIdx_getElem (w := place ▸ inside)
      simp only [place, Bool.or_eq_true, decide_eq_true_eq] at holds
      tauto
    · rw [List.getD_eq_default _ _ (by omega)] at passes
      exact absurd rfl passes.1

end Store

namespace Gateway

variable {g g' after : Gateway} {n m : Nat} {name : CString} {data : List UInt8} {retain : Bool}

/-- The store after the first `n` slots were visited. -/
structure Spread (g : Gateway) (name : CString) (data : List UInt8) (retain : Bool) (n : Nat) (g' : Gateway) : Prop where
  idle : g'.persistent.Idle
  clients : g'.store.clients = g.store.clients
  files : ∀ number, g'.store.files number = receivedTimes name data retain
    ((List.range n).countP fun v => g.store.selects number (g.store.nthClient v).clientAddress) (g.store.files number)

theorem Spread.nthClient (spread : Spread g name data retain n g') : g'.store.nthClient m = g.store.nthClient m := by
  unfold Store.nthClient
  rw [spread.clients]

theorem Spread.slotOfAddress (spread : Spread g name data retain n g') {address : DeviceAddress} :
    g'.store.slotOfAddress address = g.store.slotOfAddress address := by
  unfold Store.slotOfAddress
  rw [spread.clients]

theorem Spread.visit (spread : Spread g name data retain n g') (named : IsTopicName name) :
    Spread g name data retain (n + 1)
      (handleReceiveMqttPublishForClient name data retain (g'.store.nthClient n).clientAddress g') := by
  have counted : ∀ number, (List.range (n + 1)).countP
      (fun v => g.store.selects number (g.store.nthClient v).clientAddress) =
      (List.range n).countP (fun v => g.store.selects number (g.store.nthClient v).clientAddress) +
        if g.store.selects number (g.store.nthClient n).clientAddress then 1 else 0 := by
    intro number
    rw [List.range_succ, List.countP_append, List.countP_singleton]
  cases selection : g.store.slotOfAddress (g.store.nthClient n).clientAddress with
  | none =>
    have missing : g'.store.slotOfAddress (g'.store.nthClient n).clientAddress = none := by
      rw [spread.nthClient, spread.slotOfAddress, selection]
    have settles := handleReceive_missing name data retain spread.idle missing
    refine ⟨settles.idle, by rw [settles.store, spread.clients], fun number => ?_⟩
    have unselected : g.store.selects number (g.store.nthClient n).clientAddress = false := by
      unfold selects
      rw [selection]
    rw [settles.store, spread.files number, counted, unselected]
    rfl
  | some k =>
    have found : g'.store.slotOfAddress (g'.store.nthClient n).clientAddress = some k := by
      rw [spread.nthClient, spread.slotOfAddress, selection]
    have settles := handleReceive_found name data retain spread.idle found
    have selected : ∀ number, g.store.selects number (g.store.nthClient n).clientAddress =
        ((g.store.nthClient k).clientStatus.connected && (g.store.nthClient k).fileNumber = number) := by
      intro number
      unfold selects
      rw [selection]
    refine ⟨settles.idle, ?_, fun number => ?_⟩
    · rw [settles.store]
      unfold Store.receive
      split
      · exact spread.clients
      · exact spread.clients
    · rw [settles.store, counted, selected]
      unfold Store.receive
      rw [spread.nthClient]
      by_cases connected : (g.store.nthClient k).clientStatus.connected = true
      · rw [if_pos ⟨connected, named⟩]
        unfold setFiles
        rw [files_modifyFiles, spread.nthClient]
        by_cases own : number = (g.store.nthClient k).fileNumber
        · subst own
          rw [if_pos rfl, spread.files]
          simp only [connected, decide_true, Bool.and_true, if_true]
          rfl
        · rw [if_neg own, spread.files]
          simp [Ne.symm own]
      · rw [if_neg fun both => connected both.1, spread.files]
        simp [connected]

/-- `publish` delivers once for each slot its loop reaches. -/
theorem publishFromBroker_spread (retain : Bool) (sound : g.Sound) (named : IsTopicName name)
    (fits : data.length ≤ g.getMaximumPublishPayloadLength.toNat)
    (some_client : g.store.lastClientAddress .zero ≠ .zero) :
    ∃ after, g.publishFromBroker name data retain = some after ∧ Spread g name data retain g.store.reached after := by
  let body := fun (_ : Nat) (slot : EntryClient) (g : Gateway) =>
    some (handleReceiveMqttPublishForClient name data retain slot.clientAddress g)
  let passes := fun j => (g.store.nthClient j).clientAddress ≠ .zero ∧
    (g.store.nthClient j).clientAddress ≠ g.store.lastClientAddress .zero
  have begin : Spread g name data retain 0 g := ⟨sound.idle, rfl, fun _ => rfl⟩
  have total : (traverse body (fun address => address = .zero) (g.store.lastClientAddress .zero)
      g.store.clients.length 0 (g.store.nthClient 0) g).isSome = true := by
    have ends : ∀ n g', Spread g name data retain n g' → g.store.clients.length ≤ n →
        decide ((g'.store.nthClient n).clientAddress = .zero) = true := by
      intro n g' spread beyond
      rw [spread.nthClient, nthClient_outside beyond]
      rfl
    refine traverse_returns ?_ (fun _ _ kept _ _ => kept) (fun n g' spread beyond => .inl (ends n g' spread beyond)) begin
      (by omega)
    exact fun n g' spread => ⟨_, rfl, spread.visit named⟩
  obtain ⟨⟨outcome, after⟩, left⟩ := Option.isSome_iff_exists.mp total
  refine ⟨after, ?_, ?_⟩
  · unfold publishFromBroker
    rw [if_neg (by omega)]
    simp only [if_neg some_client]
    unfold traverseFromFirst
    rw [left]
    rfl
  · obtain ⟨m, ⟨spread, positive, passed⟩, ended⟩ := traverse_rule
      (I := fun n g' => Spread g name data retain n g' ∧ ∀ j, 0 < j → j ≤ n → passes j)
      (J := fun n g' => Spread g name data retain n g' ∧ 0 < n ∧ ∀ j, 0 < j → j < n → passes j)
      (by
        rintro n g' _ ⟨spread, passed⟩ visited
        cases visited
        exact ⟨spread.visit named, Nat.succ_pos n, fun j positive before => passed j positive (by omega)⟩)
      (by
        rintro n g' ⟨spread, _, passed⟩ going other
        refine ⟨spread, fun j positive here => ?_⟩
        rcases Nat.lt_or_eq_of_le here with before | rfl
        · exact passed j positive before
        · rw [spread.nthClient] at going other
          exact ⟨of_decide_eq_false going, other⟩)
      ⟨begin, by omega⟩ left
    have place : m = g.store.reached := by
      apply reached_eq positive passed
      rw [← spread.nthClient]
      rcases ended with ⟨_, stopped⟩ | ⟨_, _, final⟩
      · exact .inl (of_decide_eq_true stopped)
      · exact .inr final
    exact place ▸ spread

end Gateway

namespace Scenario

end Scenario

end MqttSnGateway
