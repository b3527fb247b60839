import MqttSnGateway.Store.Counts

namespace MqttSnGateway

open Persistent RecordFile

namespace EntryPublish

variable {data : List UInt8} {topicId : UInt16} {retain : Bool} {qos : UInt8} {position : Nat}

def placed (data : List UInt8) (topicId : UInt16) (retain : Bool) (qos : UInt8) (position : Nat) : EntryPublish :=
  { msg := data, msgLength := UInt8.ofNat data.length, topicId := topicId, qos := qos, retain := retain
    dup := false, msgId := 0, publishId := UInt16.ofNat (position + 1), retransmitionTimeout := 0 }

theorem toNat_publishId_placed (small : position < capacity) :
    (placed data topicId retain qos position).publishId.toNat = position + 1 := by
  unfold placed capacity at *
  rw [UInt16.toNat_ofNat']
  omega

theorem isEmpty_placed (small : position < capacity) : (placed data topicId retain qos position).isEmpty = false := by
  unfold isEmpty
  apply decide_eq_false
  intro zero
  have number : (placed data topicId retain qos position).publishId.toNat = _ := toNat_publishId_placed small
  rw [zero, UInt16.toNat_zero] at number
  omega

theorem toNat_msgLength_placed (short : data.length < 256) :
    (placed data topicId retain qos position).msgLength.toNat = data.length := by
  unfold placed
  rw [UInt8.toNat_ofNat']
  omega

theorem payload_placed (short : data.length < 256) : (placed data topicId retain qos position).payload = data := by
  unfold payload
  apply List.take_of_length_le
  rw [toNat_msgLength_placed short]
  exact Nat.le_refl _

end EntryPublish

namespace ClientFiles

/-- The `.SUB` file holds a subscription to a topic name. -/
def Subscribes (files : ClientFiles) (name : CString) : Prop := ∃ entry ∈ files.sub, entry.topicName = name

instance (files : ClientFiles) (name : CString) : Decidable (files.Subscribes name) :=
  inferInstanceAs (Decidable (∃ entry ∈ files.sub, entry.topicName = name))

/-- The files of a client are well formed: they fit their 16-bit record counters, registrations are
    and messages are numbered by position, and every subscription is to a registered name and the only
    one to it. -/
structure Ok (files : ClientFiles) : Prop where
  regShort : files.reg.length ≤ capacity
  subShort : files.sub.length ≤ capacity
  pubShort : files.pub.length ≤ capacity
  regNumbered : ∀ n entry, files.reg[n]? = some entry → entry.topicId = UInt16.ofNat (n + 1)
  pubNumbered : ∀ (n : Nat) (entry : EntryPublish), files.pub[n]? = some entry → entry.publishId ≠ 0 →
    entry.publishId.toNat = n + 1
  subFilled : ∀ entry ∈ files.sub, entry = .zero ∨
    entry.topicId ≠ 0 ∧ IsTopicName entry.topicName ∧ registeredName files.reg entry.topicId = some entry.topicName
  subSingle : ∀ name, IsTopicName name → Single (fun entry => decide (entry.topicName = name)) files.sub

section Lookup

variable {files : ClientFiles} {name : CString} {entry : EntrySubscription} {topicId : UInt16} {n : Nat}

theorem not_topicName_empty : ¬ IsTopicName .empty := by decide

theorem ok_none : ClientFiles.none.Ok where
  regShort := by decide
  subShort := by decide
  pubShort := by decide
  regNumbered := by simp [ClientFiles.none]
  pubNumbered := by simp [ClientFiles.none]
  subFilled := by simp [ClientFiles.none]
  subSingle := by simp [ClientFiles.none, Single]

theorem Ok.of_same (ok : files.Ok) (other : ClientFiles) (reg : other.reg = files.reg) (sub : other.sub = files.sub)
    (pub : other.pub.length ≤ capacity)
    (numbered : ∀ (n : Nat) (entry : EntryPublish), other.pub[n]? = some entry → entry.publishId ≠ 0 →
      entry.publishId.toNat = n + 1) :
    other.Ok := by
  refine ⟨?_, ?_, pub, ?_, numbered, ?_, ?_⟩
  · rw [reg]
    exact ok.regShort
  · rw [sub]
    exact ok.subShort
  · rw [reg]
    exact ok.regNumbered
  · rw [reg, sub]
    exact ok.subFilled
  · rw [sub]
    exact ok.subSingle

theorem Ok.filled (ok : files.Ok) (found : files.sub[n]? = some entry) (used : entry.topicId ≠ 0) :
    IsTopicName entry.topicName ∧ registeredName files.reg entry.topicId = some entry.topicName := by
  rcases ok.subFilled entry (List.mem_of_getElem? found) with rfl | ⟨_, named, registered⟩
  · exact absurd rfl used
  · exact ⟨named, registered⟩

theorem Ok.used (ok : files.Ok) (member : entry ∈ files.sub) (named : IsTopicName entry.topicName) :
    entry.topicId ≠ 0 := by
  rcases ok.subFilled entry member with rfl | ⟨used, _⟩
  · exact absurd named not_topicName_empty
  · exact used

theorem Ok.isEmpty_iff (ok : files.Ok) (member : entry ∈ files.sub) : entry.isEmpty = true ↔ entry = .zero := by
  constructor
  · intro empty
    unfold EntrySubscription.isEmpty at empty
    simp only [Bool.and_eq_true, decide_eq_true_eq] at empty
    rcases ok.subFilled entry member with zero | ⟨used, _⟩
    · exact zero
    · exact absurd empty.1 used
  · rintro rfl
    rfl

theorem isSubscriptionTo_iff (named : IsTopicName name) :
    isSubscriptionTo name entry = true ↔ entry.topicName = name := by
  unfold isSubscriptionTo
  simp only [Bool.and_eq_true, decide_eq_true_eq, and_iff_right_iff_imp]
  rintro rfl
  exact named.2

theorem any_isSubscriptionTo (named : IsTopicName name) :
    files.sub.any (isSubscriptionTo name) = true ↔ files.Subscribes name := by
  rw [List.any_eq_true]
  unfold Subscribes
  simp only [isSubscriptionTo_iff named]

theorem Ok.sub_unique (ok : files.Ok) {m : Nat} {other : EntrySubscription} (first : files.sub[m]? = some other)
    (second : files.sub[n]? = some entry) (used : entry.topicId ≠ 0) (same : other.topicId = entry.topicId) :
    m = n := by
  obtain ⟨named, registered⟩ := ok.filled second used
  obtain ⟨_, other_registered⟩ := ok.filled first (same ▸ used)
  rw [same, registered] at other_registered
  have names : other.topicName = entry.topicName := (Option.some.inj other_registered).symm
  exact ok.subSingle entry.topicName named m n other entry first second (by simp [names]) (by simp)

end Lookup

section Registration

variable {files : ClientFiles} {name : CString} {topicId : UInt16} {n : Nat}

theorem Ok.reg_used (ok : files.Ok) {entry : EntryRegistration} (found : files.reg[n]? = some entry) :
    entry.topicId.toNat = n + 1 := by
  have short := ok.regShort
  have inside := (List.getElem?_eq_some_iff.mp found).1
  unfold capacity at short
  rw [ok.regNumbered n entry found, UInt16.toNat_ofNat']
  omega

theorem Ok.topicId_ne_zero (ok : files.Ok) {entry : EntryRegistration} (member : entry ∈ files.reg) : entry.topicId ≠ 0 := by
  intro zero
  obtain ⟨i, found⟩ := List.mem_iff_getElem?.mp member
  have numbered := ok.reg_used found
  rw [zero, UInt16.toNat_zero] at numbered
  omega

theorem Ok.reg_unique (ok : files.Ok) {m : Nat} {entry other : EntryRegistration} (first : files.reg[m]? = some other)
    (second : files.reg[n]? = some entry) (same : other.topicId = entry.topicId) : m = n := by
  have left := ok.reg_used first
  have right := ok.reg_used second
  rw [same] at left
  omega

theorem Ok.registeredName_eq (ok : files.Ok) {entry : EntryRegistration} (found : files.reg[n]? = some entry)
    (short : entry.topicName.length < 255) : registeredName files.reg entry.topicId = some entry.topicName := by
  unfold registeredName
  have single : Single (fun other : EntryRegistration =>
      decide (other.topicId = entry.topicId) && decide (other.topicName.length < 255)) files.reg := by
    intro i j a b first second holds_first holds_second
    simp only [Bool.and_eq_true, decide_eq_true_eq] at holds_first holds_second
    exact ok.reg_unique first second (holds_first.1.trans holds_second.1.symm)
  rw [single.find? found (by simp [short])]
  rfl

theorem Ok.registeredName_some (ok : files.Ok) (registered : registeredName files.reg topicId = some name) :
    ∃ (n : Nat) (entry : EntryRegistration), files.reg[n]? = some entry ∧ entry.topicId = topicId ∧
      entry.topicName = name ∧ topicId ≠ 0 := by
  unfold registeredName at registered
  obtain ⟨entry, scan, rfl⟩ := Option.map_eq_some_iff.mp registered
  have holds := List.find?_some scan
  simp only [Bool.and_eq_true, decide_eq_true_eq] at holds
  obtain ⟨n, found⟩ := List.mem_iff_getElem?.mp (List.mem_of_find?_eq_some scan)
  refine ⟨n, entry, found, holds.1, rfl, ?_⟩
  rw [← holds.1]
  exact ok.topicId_ne_zero (List.mem_of_getElem? found)

theorem registeredName_append {reg added : List EntryRegistration} (registered : registeredName reg topicId = some name) :
    registeredName (reg ++ added) topicId = some name := by
  unfold registeredName at registered ⊢
  obtain ⟨entry, scan, rfl⟩ := Option.map_eq_some_iff.mp registered
  rw [List.find?_append, scan]
  rfl

/-- A name is registered at the end of the file, or not at all when the file is full. -/
theorem Ok.registerName_cases (ok : files.Ok) (name : CString) :
    (∃ entry ∈ files.reg, entry.topicName = name ∧ registerName files name = (entry.topicId, files)) ∨
      (files.reg.length < capacity ∧ registerName files name =
        (UInt16.ofNat (files.reg.length + 1),
          { files with reg := files.reg ++ [⟨UInt16.ofNat (files.reg.length + 1), name, true⟩] })) ∨
      files.reg.length = capacity ∧ registerName files name = (0, { files with regBehind := files.regBehind + 1 }) := by
  unfold registerName
  cases scan : files.reg.find? fun entry : EntryRegistration =>
      entry.topicId ≠ 0 && entry.topicName.length < 255 && entry.topicName = name with
  | some entry =>
    have holds := List.find?_some scan
    simp only [Bool.and_eq_true, decide_eq_true_eq] at holds
    exact .inl ⟨entry, List.mem_of_find?_eq_some scan, holds.2, rfl⟩
  | none =>
    right
    have short := ok.regShort
    have full : ∀ entry ∈ files.reg, EntryRegistration.isEmpty entry = false := by
      intro entry member
      simp [EntryRegistration.isEmpty, ok.topicId_ne_zero member]
    simp only
    rcases Nat.lt_or_eq_of_le short with room | last
    · left
      have free : freeSpace EntryRegistration.isEmpty files.reg = (files.reg.length : Nat) := by
        unfold freeSpace
        unfold capacity at room
        rw [lastIdx?_none.mpr full]
        simp only
        omega
      refine ⟨room, ?_⟩
      rw [free, putAt_ofNat, behind_ofNat]
      unfold put
      simp
    · right
      refine ⟨last, ?_⟩
      have closed : ¬ Room EntryRegistration.isEmpty files.reg := by
        rintro (room | ⟨entry, member, empty⟩)
        · omega
        · rw [full entry member] at empty
          cases empty
      rw [freeSpace_full short closed, putAt_negative (by decide), behind_negative, last]
      rfl

theorem Ok.registerName_known (ok : files.Ok) {entry : EntryRegistration} (member : entry ∈ files.reg)
    (named : entry.topicName = name) (short : name.length < 255) :
    ∃ other ∈ files.reg, registerName files name = (other.topicId, files) := by
  unfold Persistent.registerName
  cases scan : files.reg.find? fun entry : EntryRegistration =>
      entry.topicId ≠ 0 && entry.topicName.length < 255 && entry.topicName = name with
  | none =>
    have fails := List.find?_eq_none.mp scan entry member
    simp [ok.topicId_ne_zero member, named, short] at fails
  | some other => exact ⟨other, List.mem_of_find?_eq_some scan, rfl⟩

theorem Ok.registerName (ok : files.Ok) (name : CString) : (Persistent.registerName files name).2.Ok := by
  rcases ok.registerName_cases name with ⟨entry, _, _, same⟩ | ⟨room, appended⟩ | ⟨_, same⟩
  · rw [same]
    exact ok
  · rw [appended]
    refine ⟨?_, ok.subShort, ok.pubShort, ?_, ok.pubNumbered, ?_, ok.subSingle⟩
    · simp only [List.length_append, List.length_singleton]
      omega
    · intro n entry found
      rcases Nat.lt_trichotomy n files.reg.length with before | last | beyond
      · rw [List.getElem?_append_left before] at found
        exact ok.regNumbered n entry found
      · subst last
        simp only [List.getElem?_concat_length, Option.some.injEq] at found
        rw [← found]
      · rw [List.getElem?_eq_none (by simp; omega)] at found
        cases found
    · intro entry member
      rcases ok.subFilled entry member with zero | ⟨used, named, registered⟩
      · exact .inl zero
      · exact .inr ⟨used, named, registeredName_append registered⟩
  · rw [same]
    exact ok.of_same _ rfl rfl ok.pubShort ok.pubNumbered

theorem Ok.registerName_name (ok : files.Ok) (short : name.length < 255) (given : (Persistent.registerName files name).1 ≠ 0) :
    registeredName (Persistent.registerName files name).2.reg (Persistent.registerName files name).1 = some name := by
  have after := ok.registerName name
  rcases ok.registerName_cases name with ⟨entry, member, named, same⟩ | ⟨room, appended⟩ | ⟨_, same⟩
  · rw [same]
    obtain ⟨n, found⟩ := List.mem_iff_getElem?.mp member
    rw [ok.registeredName_eq found (by rw [named]; exact short), named]
  · rw [appended] at after ⊢
    have placed : (files.reg ++ [⟨UInt16.ofNat (files.reg.length + 1), name, true⟩])[files.reg.length]? =
        some ⟨UInt16.ofNat (files.reg.length + 1), name, true⟩ := List.getElem?_concat_length
    exact after.registeredName_eq placed short
  · rw [same] at given
    exact absurd rfl given

@[simp] theorem sub_registerName : (Persistent.registerName files name).2.sub = files.sub := by
  unfold Persistent.registerName
  split <;> rfl

@[simp] theorem subBehind_registerName : (Persistent.registerName files name).2.subBehind = files.subBehind := by
  unfold Persistent.registerName
  split <;> rfl

end Registration

section Subscription

variable {files : ClientFiles} {name : CString} {topicId : UInt16} {qos : UInt8} {n : Nat}

theorem Ok.appendSubscription_unstored (ok : files.Ok) (entry : EntrySubscription)
    (full : ¬ Room EntrySubscription.isEmpty files.sub) :
    Persistent.appendSubscription files entry = { files with subBehind := files.subBehind + 1 } := by
  unfold Persistent.appendSubscription
  simp only [freeSpace_full ok.subShort full]
  rw [putAt_negative (by decide), behind_negative]

theorem Ok.appendSubscription_cases (ok : files.Ok) (entry : EntrySubscription) :
    (∃ position, position ≤ files.sub.length ∧ position < capacity ∧
      (∀ old, files.sub[position]? = some old → old = .zero) ∧
      appendSubscription files entry = { files with sub := put .zero files.sub position entry }) ∨
      ¬ Room EntrySubscription.isEmpty files.sub ∧
        appendSubscription files entry = { files with subBehind := files.subBehind + 1 } := by
  by_cases room : Room EntrySubscription.isEmpty files.sub
  · left
    obtain ⟨position, free, adjacent, small, empty⟩ := freeSpace_room ok.subShort room
    refine ⟨position, adjacent, small, ?_, ?_⟩
    · intro old found
      exact (ok.isEmpty_iff (List.mem_of_getElem? found)).mp (empty old found)
    · unfold appendSubscription
      simp only [free, putAt_ofNat, behind_ofNat, Nat.add_zero]
  · exact .inr ⟨room, ok.appendSubscription_unstored entry room⟩

theorem Ok.appendSubscription (ok : files.Ok) (named : IsTopicName name) (used : topicId ≠ 0)
    (registered : registeredName files.reg topicId = some name) (fresh : ¬ files.Subscribes name) :
    (Persistent.appendSubscription files ⟨topicId, qos, name⟩).Ok := by
  rcases ok.appendSubscription_cases ⟨topicId, qos, name⟩ with
    ⟨position, adjacent, small, empty, same⟩ | ⟨_, same⟩
  · rw [same]
    refine ⟨ok.regShort, ?_, ok.pubShort, ok.regNumbered, ok.pubNumbered, ?_, ?_⟩
    · have short := ok.subShort
      rw [length_put]
      omega
    · intro entry member
      rcases mem_put adjacent member with rfl | member
      · exact .inr ⟨used, named, registered⟩
      · exact ok.subFilled entry member
    · intro other other_named
      apply Single.put adjacent _ (ok.subSingle other other_named)
      intro i entry found holds written
      simp only [decide_eq_true_eq] at holds written
      exact absurd ⟨entry, List.mem_of_getElem? found, holds.trans written.symm⟩ fresh
  · rw [same]
    exact ok.of_same _ rfl rfl ok.pubShort ok.pubNumbered

theorem Ok.subscribes_appendSubscription (ok : files.Ok) (room : Room EntrySubscription.isEmpty files.sub)
    {entry : EntrySubscription} {other : CString} (named : IsTopicName other) :
    (Persistent.appendSubscription files entry).Subscribes other ↔ entry.topicName = other ∨ files.Subscribes other := by
  rcases ok.appendSubscription_cases entry with ⟨position, adjacent, small, empty, same⟩ | ⟨full, _⟩
  · rw [same]
    unfold Subscribes
    constructor
    · intro ⟨record, member, holds⟩
      rcases mem_put adjacent member with rfl | member
      · exact .inl holds
      · exact .inr ⟨record, member, holds⟩
    · rintro (rfl | ⟨record, member, holds⟩)
      · exact ⟨entry, List.mem_iff_getElem?.mpr ⟨position, getElem?_put_self⟩, rfl⟩
      · refine ⟨record, ?_, holds⟩
        obtain ⟨i, found⟩ := List.mem_iff_getElem?.mp member
        by_cases here : i = position
        · subst here
          rw [empty record found] at holds
          rw [← holds] at named
          exact absurd named not_topicName_empty
        · exact List.mem_iff_getElem?.mpr ⟨i, by rw [getElem?_put_ne adjacent here]; exact found⟩
  · exact absurd room full

theorem Ok.eraseSubscription (ok : files.Ok) : ({ files with sub := files.sub.set n .zero } : ClientFiles).Ok := by
  refine ⟨ok.regShort, by simpa using ok.subShort, ok.pubShort, ok.regNumbered, ok.pubNumbered, ?_, ?_⟩
  · intro entry member
    rcases List.mem_or_eq_of_mem_set member with member | rfl
    · exact ok.subFilled entry member
    · exact .inl rfl
  · intro name named i j a b first second holds_first holds_second
    rw [List.getElem?_set] at first second
    simp only [decide_eq_true_eq] at holds_first holds_second
    have zero : ¬ EntrySubscription.zero.topicName = name := by
      rintro rfl
      exact not_topicName_empty named
    split at first <;> split at second
    · omega
    · simp only [Option.ite_none_right_eq_some, Option.some.injEq] at first
      rw [← first.2] at holds_first
      exact absurd holds_first zero
    · simp only [Option.ite_none_right_eq_some, Option.some.injEq] at second
      rw [← second.2] at holds_second
      exact absurd holds_second zero
    · exact ok.subSingle name named i j a b first second (by simp [holds_first]) (by simp [holds_second])

theorem Ok.subscribes_eraseSubscription (ok : files.Ok) {entry : EntrySubscription} (found : files.sub[n]? = some entry)
    {other : CString} (named : IsTopicName other) :
    ({ files with sub := files.sub.set n .zero } : ClientFiles).Subscribes other ↔
      entry.topicName ≠ other ∧ files.Subscribes other := by
  unfold Subscribes
  constructor
  · intro ⟨record, member, holds⟩
    obtain ⟨i, placed⟩ := List.mem_iff_getElem?.mp member
    simp only at placed
    rw [List.getElem?_set] at placed
    split at placed
    · simp only [Option.ite_none_right_eq_some, Option.some.injEq] at placed
      rw [← placed.2] at holds
      rw [← holds] at named
      exact absurd named not_topicName_empty
    · rename_i elsewhere
      refine ⟨?_, record, List.mem_of_getElem? placed, holds⟩
      intro same
      exact elsewhere (ok.subSingle other named n i entry record found placed (by simp [same]) (by simp [holds]))
  · intro ⟨different, record, member, holds⟩
    refine ⟨record, ?_, holds⟩
    obtain ⟨i, placed⟩ := List.mem_iff_getElem?.mp member
    refine List.mem_iff_getElem?.mpr ⟨i, ?_⟩
    simp only
    rw [List.getElem?_set]
    split
    · rename_i here
      subst here
      rw [found] at placed
      cases placed
      exact absurd holds different
    · exact placed

end Subscription

section Others

variable {files : ClientFiles}

theorem pub_appendPublish {data : List UInt8} {topicId : UInt16} {retain : Bool} {qos : UInt8} {position : Nat}
    (free : freeSpace EntryPublish.isEmpty files.pub = (position : Nat)) (small : position < capacity) :
    (Persistent.appendPublish files data topicId retain qos).pub =
      put .zero files.pub position (.placed data topicId retain qos position) := by
  unfold capacity at small
  have number : UInt16.ofInt ((position : Int) + 1) = UInt16.ofNat (position + 1) := by
    unfold UInt16.ofInt
    congr 1
    omega
  unfold Persistent.appendPublish
  simp only [free, putAt_ofNat, number]
  rfl

theorem appendPublish_unstored {data : List UInt8} {topicId : UInt16} {retain : Bool} {qos : UInt8}
    (short : files.pub.length ≤ capacity) (full : ¬ Room EntryPublish.isEmpty files.pub) :
    Persistent.appendPublish files data topicId retain qos = { files with pubBehind := files.pubBehind + 1 } := by
  unfold Persistent.appendPublish
  simp only [freeSpace_full short full]
  rw [putAt_negative (by decide), behind_negative]

theorem pubNumbered_appendPublish {data : List UInt8} {topicId : UInt16} {retain : Bool} {qos : UInt8}
    (pubShort : files.pub.length ≤ capacity)
    (pubNumbered : ∀ (n : Nat) (entry : EntryPublish), files.pub[n]? = some entry → entry.publishId ≠ 0 →
      entry.publishId.toNat = n + 1) (n : Nat) (entry : EntryPublish)
    (found : (Persistent.appendPublish files data topicId retain qos).pub[n]? = some entry) (used : entry.publishId ≠ 0) :
    entry.publishId.toNat = n + 1 := by
  by_cases room : Room EntryPublish.isEmpty files.pub
  · obtain ⟨position, free, adjacent, small, _⟩ := freeSpace_room pubShort room
    rw [pub_appendPublish free small, getElem?_put adjacent] at found
    split at found
    · rename_i here
      cases found
      rw [EntryPublish.toNat_publishId_placed small, here]
    · exact pubNumbered n entry found used
  · rw [appendPublish_unstored pubShort room] at found
    exact pubNumbered n entry found used

theorem Ok.appendPublish (ok : files.Ok) {data : List UInt8} {topicId : UInt16} {retain : Bool} {qos : UInt8} :
    (Persistent.appendPublish files data topicId retain qos).Ok :=
  ok.of_same (Persistent.appendPublish files data topicId retain qos) rfl rfl (length_putAt_freeSpace ok.pubShort)
    (pubNumbered_appendPublish ok.pubShort ok.pubNumbered)

end Others

end ClientFiles

end MqttSnGateway
