import MqttSnGateway.Lib.KeyedRecords
import MqttSnGateway.Store.Transactions

namespace MqttSnGateway

open Persistent RecordFile

/-- The topic names that have a count: 1 to 254 bytes. -/
def IsTopicName (name : CString) : Prop := 0 < name.length ∧ name.length < 255

instance (name : CString) : Decidable (IsTopicName name) := inferInstanceAs (Decidable (_ ∧ _))

/-- The count of subscribers that MQTT.SUB holds for a topic name. -/
def countOf (table : List EntryMqttSubscription) (name : CString) : Nat :=
  match table.find? (isCountOf name) with
  | some entry => entry.clientSubscriptionCount.toNat
  | none => 0

/-- MQTT.SUB is well formed: it fits its 16-bit record counter and no name is counted twice. -/
structure CountsOk (table : List EntryMqttSubscription) : Prop where
  short : table.length ≤ capacity
  single : ∀ name, Single (isCountOf name) table

/-- There is a place for the count of a name: a record that holds it, an empty one, or one at the end. -/
def CountRoom (table : List EntryMqttSubscription) (name : CString) : Prop :=
  0 < countOf table name ∨ Room EntryMqttSubscription.isEmpty table

section Lookup

variable {table : List EntryMqttSubscription} {name other : CString} {entry : EntryMqttSubscription} {n : Nat}

theorem validName_named (named : IsTopicName name) : validName (some name) = some name := by
  unfold validName
  obtain ⟨filled, short⟩ := named
  simp [Option.filter, short]
  omega

theorem named_of_validName {topicName : Option CString} (valid : validName topicName = some name) :
    topicName = some name ∧ IsTopicName name := by
  unfold validName at valid
  obtain ⟨same, holds⟩ := Option.filter_eq_some_iff.mp valid
  simp only [ne_eq, Bool.and_eq_true, decide_eq_true_eq, decide_not, Bool.not_eq_true', decide_eq_false_iff_not] at holds
  exact ⟨same, by unfold IsTopicName; omega⟩

theorem isCountOf_iff :
    isCountOf name entry = true ↔
      entry.clientSubscriptionCount ≠ 0 ∧ entry.topicName.length < 255 ∧ entry.topicName = name := by
  simp [isCountOf, and_assoc]

theorem isCountOf_of_isEmpty (empty : entry.isEmpty = true) : isCountOf name entry = false := by
  unfold EntryMqttSubscription.isEmpty at empty
  unfold isCountOf
  simp only [Bool.and_eq_true, decide_eq_true_eq] at empty
  simp [empty.1]

theorem countOf_eq_zero : countOf table name = 0 ↔ table.findIdx? (isCountOf name) = none := by
  unfold countOf
  cases scan : table.find? (isCountOf name) with
  | none =>
    simp only [true_iff]
    rw [List.findIdx?_eq_none_iff]
    intro record member
    simpa using List.find?_eq_none.mp scan record member
  | some record =>
    have holds := isCountOf_iff.mp (List.find?_some scan)
    have positive : record.clientSubscriptionCount.toNat ≠ 0 := by
      intro zero
      exact holds.1 (UInt32.toNat_inj.mp zero)
    simp only [positive, false_iff]
    intro none
    rw [find?_eq_none_of_findIdx? none] at scan
    cases scan

theorem CountsOk.countOf_eq (ok : CountsOk table) (found : table[n]? = some entry) (holds : isCountOf name entry = true) :
    countOf table name = entry.clientSubscriptionCount.toNat := by
  unfold countOf
  rw [(ok.single name).find? found holds]

theorem getGlobalTopicSubscriptionCount_eq {p : Persistent} (clean : p.error = false) (named : IsTopicName name) :
    (p.getGlobalTopicSubscriptionCount (some name)).toNat = countOf p.store.mqttSub name := by
  unfold getGlobalTopicSubscriptionCount countOf
  rw [clean, validName_named named]
  simp only [Bool.false_eq_true, if_false]
  cases p.store.mqttSub.find? (isCountOf name) with
  | none => rfl
  | some entry => rfl

end Lookup

section Updates

variable {table : List EntryMqttSubscription} {name other : CString}

theorem countOf_put_other {n : Nat} {old entry : EntryMqttSubscription}
    (found : table[n]? = some old) (counts : isCountOf name old = true) (renamed : entry.topicName = name ∨ entry = .zero)
    (different : other ≠ name) : countOf (put .zero table n entry) other = countOf table other := by
  have before : isCountOf other old = false := by
    by_contra counted
    simp only [Bool.not_eq_false] at counted
    exact different ((isCountOf_iff.mp counted).2.2.symm.trans (isCountOf_iff.mp counts).2.2)
  have after : isCountOf other entry = false := by
    by_contra counted
    simp only [Bool.not_eq_false] at counted
    rcases renamed with renamed | rfl
    · exact different ((isCountOf_iff.mp counted).2.2.symm.trans renamed)
    · exact (isCountOf_iff.mp counted).1 rfl
  have inside := (List.getElem?_eq_some_iff.mp found).1
  unfold countOf
  rw [find?_put_other (by omega) _ after]
  intro record same
  rw [found] at same
  cases same
  exact before

theorem CountsOk.put (ok : CountsOk table) {n : Nat} {entry : EntryMqttSubscription} (adjacent : n ≤ table.length)
    (small : n < capacity)
    (only : ∀ i record, table[i]? = some record → isCountOf entry.topicName record = true → i = n) :
    CountsOk (put .zero table n entry) where
  short := by
    have short := ok.short
    rw [length_put]
    omega
  single := by
    intro key
    apply Single.put adjacent _ (ok.single key)
    intro i record found holds counted
    have key_name := (isCountOf_iff.mp counted).2.2
    subst key_name
    exact only i record found holds

theorem CountsOk.incrementCount_full (ok : CountsOk table) (full : ¬ CountRoom table name) :
    incrementCount table name = table := by
  unfold CountRoom at full
  rw [not_or] at full
  unfold incrementCount
  rw [countOf_eq_zero.mp (by omega)]
  simp only
  rw [freeSpace_full ok.short full.2, putAt_negative (by decide)]

theorem CountsOk.incrementBehind_room (ok : CountsOk table) (room : CountRoom table name) : incrementBehind table name = 0 := by
  unfold incrementBehind
  cases scan : table.findIdx? (isCountOf name) with
  | some n => rfl
  | none =>
    have absent := countOf_eq_zero.mpr scan
    have free : Room EntryMqttSubscription.isEmpty table := by
      rcases room with counted | free
      · omega
      · exact free
    show behind (freeSpace EntryMqttSubscription.isEmpty table) = 0
    rw [behind_freeSpace ok.short, if_pos free]

theorem CountsOk.incrementCount (ok : CountsOk table) : CountsOk (incrementCount table name) := by
  unfold Persistent.incrementCount
  cases scan : table.findIdx? (isCountOf name) with
  | some n =>
    obtain ⟨old, found, holds⟩ := findIdx?_getElem? scan
    have inside := (List.getElem?_eq_some_iff.mp found).1
    have short := ok.short
    simp only
    rw [modify_eq_put .zero found]
    apply ok.put (by omega) (by omega)
    intro i record same counted
    simp only [(isCountOf_iff.mp holds).2.2] at counted
    exact ok.single name i n record old same found counted holds
  | none =>
    simp only
    by_cases room : Room EntryMqttSubscription.isEmpty table
    · obtain ⟨n, free, adjacent, small, _⟩ := freeSpace_room ok.short room
      rw [free, putAt_ofNat]
      apply ok.put adjacent small
      intro i record same counted
      rw [findIdx?_none_getElem? scan same] at counted
      cases counted
    · rw [freeSpace_full ok.short room, putAt_negative (by decide)]
      exact ok

theorem CountsOk.countOf_incrementCount (ok : CountsOk table) (named : IsTopicName name) (room : CountRoom table name)
    (small : countOf table name + 1 < 2 ^ 32) :
    countOf (Persistent.incrementCount table name) other = countOf table other + if other = name then 1 else 0 := by
  unfold Persistent.incrementCount
  cases scan : table.findIdx? (isCountOf name) with
  | some n =>
    obtain ⟨old, found, holds⟩ := findIdx?_getElem? scan
    have inside := (List.getElem?_eq_some_iff.mp found).1
    have named := isCountOf_iff.mp holds
    have count := ok.countOf_eq found holds
    simp only
    rw [modify_eq_put .zero found]
    by_cases same : other = name
    · subst same
      have value : (old.clientSubscriptionCount + 1).toNat = old.clientSubscriptionCount.toNat + 1 := by
        rw [UInt32.toNat_add]
        exact Nat.mod_eq_of_lt (by rw [← count]; exact small)
      have counted : isCountOf other { old with clientSubscriptionCount := old.clientSubscriptionCount + 1 } = true := by
        rw [isCountOf_iff]
        refine ⟨?_, named.2⟩
        intro zero
        have nat := congrArg UInt32.toNat zero
        simp only [value, UInt32.toNat_zero] at nat
        omega
      rw [if_pos rfl, count]
      unfold countOf
      rw [find?_put_self (by omega) counted]
      · exact value
      · intro i record other_found other_counted
        exact ok.single other i n record old other_found found other_counted holds
    · rw [if_neg same]
      exact countOf_put_other found holds (.inl named.2.2) same
  | none =>
    have absent := countOf_eq_zero.mpr scan
    have free : Room EntryMqttSubscription.isEmpty table := by
      rcases room with counted | free
      · omega
      · exact free
    obtain ⟨n, position, adjacent, small, empty⟩ := freeSpace_room ok.short free
    simp only
    rw [position, putAt_ofNat]
    by_cases same : other = name
    · subst same
      have counted : isCountOf other ⟨1, other⟩ = true := by
        rw [isCountOf_iff]
        exact ⟨by simp, named.2, rfl⟩
      rw [if_pos rfl, absent]
      unfold countOf
      rw [find?_put_self adjacent counted]
      · rfl
      · intro i record found holds
        rw [findIdx?_none_getElem? scan found] at holds
        cases holds
    · rw [if_neg same]
      unfold countOf
      rw [find?_put_other adjacent]
      · rfl
      · exact fun old found => isCountOf_of_isEmpty (empty old found)
      · simp [isCountOf, Ne.symm same]

theorem CountsOk.decrementCount (ok : CountsOk table) : CountsOk (decrementCount table name) := by
  unfold Persistent.decrementCount
  cases scan : table.findIdx? (isCountOf name) with
  | none => exact ok
  | some n =>
    obtain ⟨old, found, holds⟩ := findIdx?_getElem? scan
    have inside := (List.getElem?_eq_some_iff.mp found).1
    have short := ok.short
    simp only
    rw [modify_eq_put .zero found]
    constructor
    · rw [length_put]
      omega
    · intro key
      apply Single.put (by omega) _ (ok.single key)
      intro i record same counted again
      split at again
      · exact absurd rfl (isCountOf_iff.mp again).1
      · have key_name : key = name := (isCountOf_iff.mp again).2.2.symm.trans (isCountOf_iff.mp holds).2.2
        subst key_name
        exact ok.single key i n record old same found counted holds

theorem CountsOk.countOf_decrementCount (ok : CountsOk table) :
    countOf (Persistent.decrementCount table name) other = countOf table other - if other = name then 1 else 0 := by
  unfold Persistent.decrementCount
  cases scan : table.findIdx? (isCountOf name) with
  | none =>
    by_cases same : other = name
    · subst same
      rw [if_pos rfl, countOf_eq_zero.mpr scan]
    · rw [if_neg same]
      rfl
  | some n =>
    obtain ⟨old, found, holds⟩ := findIdx?_getElem? scan
    have inside := (List.getElem?_eq_some_iff.mp found).1
    have named := isCountOf_iff.mp holds
    have count := ok.countOf_eq found holds
    have positive : 1 ≤ old.clientSubscriptionCount := by
      rw [UInt32.le_iff_toNat_le]
      have nonzero : old.clientSubscriptionCount.toNat ≠ 0 := fun zero => named.1 (UInt32.toNat_inj.mp zero)
      rw [UInt32.toNat_one]
      omega
    have value : (old.clientSubscriptionCount - 1).toNat = old.clientSubscriptionCount.toNat - 1 :=
      UInt32.toNat_sub_of_le _ _ positive
    have only : ∀ i record, table[i]? = some record → isCountOf name record = true → i = n :=
      fun i record same counted => ok.single name i n record old same found counted holds
    simp only
    rw [modify_eq_put .zero found]
    by_cases same : other = name
    · subst same
      rw [if_pos rfl, count]
      by_cases last : old.clientSubscriptionCount - 1 = 0
      · rw [if_pos last]
        have gone : (RecordFile.put EntryMqttSubscription.zero table n .zero).findIdx? (isCountOf other) = none := by
          rw [List.findIdx?_eq_none_iff]
          intro record member
          obtain ⟨i, placed⟩ := List.mem_iff_getElem?.mp member
          rw [getElem?_put (by omega)] at placed
          split at placed
          · cases placed
            rfl
          · rename_i elsewhere
            by_contra counted
            simp only [Bool.not_eq_false] at counted
            exact elsewhere (only i record placed counted)
        rw [countOf_eq_zero.mpr gone, ← value, last]
        rfl
      · rw [if_neg last]
        have counted : isCountOf other { old with clientSubscriptionCount := old.clientSubscriptionCount - 1 } = true := by
          rw [isCountOf_iff]
          exact ⟨last, named.2⟩
        unfold countOf
        rw [find?_put_self (by omega) counted only]
        exact value
    · rw [if_neg same]
      apply countOf_put_other found holds _ same
      split
      · exact .inr rfl
      · exact .inl named.2.2

end Updates

end MqttSnGateway
