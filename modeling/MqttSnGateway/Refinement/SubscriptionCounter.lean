import MqttSnGateway.Refinement.OpenTransaction
import MqttSnGateway.Store.Counts

namespace MqttSnGateway

open Persistent RecordFile

namespace Persistent

section Printed

variable (overrun : EntryMqttSubscription → EntryMqttSubscription)

/-- The record in hand after the debug output printed its count to `char uint16_buf[6]`: `overrun` says what it is when
    the text did not fit. -/
def printed (entry : EntryMqttSubscription) : EntryMqttSubscription :=
  if printable entry.clientSubscriptionCount then entry else overrun entry

def incrementPrinted (table : List EntryMqttSubscription) (topicName : CString) : List EntryMqttSubscription :=
  match table.findIdx? (isCountOf topicName) with
  | some i => table.modify i fun entry =>
      printed overrun { entry with clientSubscriptionCount := entry.clientSubscriptionCount + 1 }
  | none =>
    let firstEmptySpace := RecordFile.freeSpace EntryMqttSubscription.isEmpty table
    RecordFile.putAt .zero table firstEmptySpace (printed overrun ⟨1, topicName⟩)

/-- The record is cleared if its count is zero after the output. -/
def decrementPrinted (table : List EntryMqttSubscription) (topicName : CString) : List EntryMqttSubscription :=
  match table.findIdx? (isCountOf topicName) with
  | some i => table.modify i fun entry =>
      let entry := printed overrun { entry with clientSubscriptionCount := entry.clientSubscriptionCount - 1 }
      if entry.clientSubscriptionCount = 0 then .zero else entry
  | none => table

def incrementGlobalSubscriptionCountPrinted (p : Persistent) (topicName : Option CString) : Persistent :=
  if p.error then p
  else match validName topicName with
    | none => p
    | some name => { p with store := { p.store with mqttSub := incrementPrinted overrun p.store.mqttSub name } }

def decrementGlobalSubscriptionCountPrinted (p : Persistent) (topicName : Option CString) : Persistent :=
  if p.error then p
  else match validName topicName with
    | none => p
    | some name => { p with store := { p.store with mqttSub := decrementPrinted overrun p.store.mqttSub name } }

def getGlobalTopicSubscriptionCountPrinted (p : Persistent) (topicName : Option CString) : UInt32 :=
  if p.error then 0
  else match validName topicName with
    | none => 0
    | some name => match p.store.mqttSub.find? (isCountOf name) with
      | some entry => (printed overrun entry).clientSubscriptionCount
      | none => 0

variable {overrun : EntryMqttSubscription → EntryMqttSubscription} {table : List EntryMqttSubscription} {name : CString}

theorem printed_small {entry : EntryMqttSubscription} (small : entry.clientSubscriptionCount.toNat < 100000) :
    printed overrun entry = entry := by
  apply if_pos
  unfold printable
  rw [Bool.or_eq_true]
  left
  rw [decide_eq_true_eq, UInt32.lt_iff_toNat_lt]
  exact small

theorem incrementPrinted_small (ok : CountsOk table) (small : countOf table name + 1 < 100000) :
    incrementPrinted overrun table name = incrementCount table name := by
  unfold incrementPrinted incrementCount
  cases scan : table.findIdx? (isCountOf name) with
  | none =>
    simp only
    rw [printed_small (by show 1 < 100000; omega)]
  | some i =>
    obtain ⟨old, found, holds⟩ := findIdx?_getElem? scan
    have count := ok.countOf_eq found holds
    simp only
    rw [modify_eq_put .zero found, modify_eq_put .zero found, printed_small]
    rw [UInt32.toNat_add, UInt32.toNat_one]
    omega

theorem decrementPrinted_small (ok : CountsOk table) (small : countOf table name - 1 < 100000) :
    decrementPrinted overrun table name = decrementCount table name := by
  unfold decrementPrinted decrementCount
  cases scan : table.findIdx? (isCountOf name) with
  | none => rfl
  | some i =>
    obtain ⟨old, found, holds⟩ := findIdx?_getElem? scan
    have count := ok.countOf_eq found holds
    have positive : 1 ≤ old.clientSubscriptionCount := by
      rw [UInt32.le_iff_toNat_le, UInt32.toNat_one]
      have nonzero : old.clientSubscriptionCount.toNat ≠ 0 := fun zero => (isCountOf_iff.mp holds).1 (UInt32.toNat_inj.mp zero)
      omega
    simp only
    rw [modify_eq_put .zero found, modify_eq_put .zero found, printed_small]
    rw [UInt32.toNat_sub_of_le _ _ positive, UInt32.toNat_one]
    omega

theorem getGlobalTopicSubscriptionCountPrinted_small {p : Persistent} (small : countOf p.store.mqttSub name < 100000) :
    p.getGlobalTopicSubscriptionCountPrinted overrun (some name) = p.getGlobalTopicSubscriptionCount (some name) := by
  unfold getGlobalTopicSubscriptionCountPrinted getGlobalTopicSubscriptionCount
  cases valid : validName (some name) with
  | none => rfl
  | some other =>
    cases (named_of_validName valid).1
    unfold countOf at small
    cases found : p.store.mqttSub.find? (isCountOf name) with
    | none => simp only [found]
    | some entry =>
      rw [found] at small
      simp only [found, printed_small small]

theorem printed_id : printed id = id := by
  funext entry
  exact ite_self entry

/-- The tables of the other modules are those of an output that damages nothing. -/
theorem mqttSub_incrementGlobalSubscriptionCount (p : Persistent) (topicName : Option CString) :
    (p.incrementGlobalSubscriptionCount topicName).store.mqttSub =
      (p.incrementGlobalSubscriptionCountPrinted id topicName).store.mqttSub := by
  unfold incrementGlobalSubscriptionCount incrementGlobalSubscriptionCountPrinted incrementCount incrementPrinted
  rw [printed_id]
  split
  · rfl
  · cases validName topicName <;> rfl

theorem decrementGlobalSubscriptionCountPrinted_id (p : Persistent) (topicName : Option CString) :
    p.decrementGlobalSubscriptionCountPrinted id topicName = p.decrementGlobalSubscriptionCount topicName := by
  unfold decrementGlobalSubscriptionCount decrementGlobalSubscriptionCountPrinted decrementCount decrementPrinted
  rw [printed_id]
  rfl

end Printed

end Persistent

/-- The calls that change MQTT.SUB. -/
inductive CountCall where
  | increment (topicName : CString)
  | decrement (topicName : CString)

namespace CountCall

def topicName : CountCall → CString
  | .increment topicName | .decrement topicName => topicName

section Definitions

variable (overrun : EntryMqttSubscription → EntryMqttSubscription)

def execute (p : Persistent) : CountCall → Persistent
  | .increment topicName => p.incrementGlobalSubscriptionCountPrinted overrun (some topicName)
  | .decrement topicName => p.decrementGlobalSubscriptionCountPrinted overrun (some topicName)

/-- What a call does to a counter for each name. -/
def count (counters : CString → Nat) : CountCall → CString → Nat
  | .increment topicName => Function.update counters topicName (counters topicName + 1)
  | .decrement topicName => Function.update counters topicName (counters topicName - 1)

/-- The file is not full, and the counter stays below 2^32. -/
structure Allowed (p : Persistent) (counters : CString → Nat) (call : CountCall) : Prop where
  named : IsTopicName call.topicName
  short : p.store.mqttSub.length < capacity
  small : call.count counters call.topicName < 2 ^ 32

instance (p : Persistent) (counters : CString → Nat) (call : CountCall) : Decidable (Allowed p counters call) :=
  decidable_of_iff (IsTopicName call.topicName ∧ p.store.mqttSub.length < capacity ∧
      call.count counters call.topicName < 2 ^ 32)
    ⟨fun ⟨named, short, small⟩ => ⟨named, short, small⟩, fun ⟨named, short, small⟩ => ⟨named, short, small⟩⟩

/-- Every call is allowed, in a file that no output has damaged. -/
def AllowedAll (p : Persistent) (counters : CString → Nat) : List CountCall → Prop
  | [] => True
  | call :: calls => Allowed p counters call ∧ AllowedAll (call.execute id p) (call.count counters) calls

instance decidableAllowedAll : (p : Persistent) → (counters : CString → Nat) → (calls : List CountCall) →
    Decidable (AllowedAll p counters calls)
  | _, _, [] => .isTrue trivial
  | p, counters, call :: calls =>
    have := decidableAllowedAll (call.execute id p) (call.count counters) calls
    inferInstanceAs (Decidable (_ ∧ _))

/-- No counter comes to 100000. -/
def Printable (counters : CString → Nat) : List CountCall → Prop
  | [] => True
  | call :: calls => call.count counters call.topicName < 100000 ∧ Printable (call.count counters) calls

instance decidablePrintable : (counters : CString → Nat) → (calls : List CountCall) → Decidable (Printable counters calls)
  | _, [] => .isTrue trivial
  | counters, call :: calls =>
    have := decidablePrintable (call.count counters) calls
    inferInstanceAs (Decidable (_ ∧ _))

/-- What MQTT.SUB says about a name is its counter, and no name is in two records. -/
structure Shows (p : Persistent) (counters : CString → Nat) : Prop where
  counts : ∀ name, IsTopicName name →
    (p.getGlobalTopicSubscriptionCountPrinted overrun (some name)).toNat = counters name
  single : ∀ (i j : Nat) (entry other : EntryMqttSubscription), p.store.mqttSub[i]? = some entry →
    p.store.mqttSub[j]? = some other → entry.isEmpty = false → other.isEmpty = false →
      other.topicName = entry.topicName → i = j

/-- The file shows the counters before and after every call, and no call changes the count of another name. -/
def Refines (p : Persistent) (counters : CString → Nat) : List CountCall → Prop
  | [] => Shows overrun p counters
  | call :: calls => Shows overrun p counters ∧
      (∀ name, IsTopicName name → name ≠ call.topicName →
        (call.execute overrun p).getGlobalTopicSubscriptionCountPrinted overrun (some name) =
          p.getGlobalTopicSubscriptionCountPrinted overrun (some name)) ∧
      Refines (call.execute overrun p) (call.count counters) calls

end Definitions

/-- A record of a count that is not zero, or nothing. -/
def Filled (entry : EntryMqttSubscription) : Prop :=
  entry = .zero ∨ entry.clientSubscriptionCount ≠ 0 ∧ IsTopicName entry.topicName

structure Counts (p : Persistent) (counters : CString → Nat) : Prop where
  clean : p.error = false
  ok : CountsOk p.store.mqttSub
  filled : ∀ entry ∈ p.store.mqttSub, Filled entry
  counts : ∀ name, countOf p.store.mqttSub name = counters name

section Calls

variable {overrun : EntryMqttSubscription → EntryMqttSubscription} {p : Persistent} {counters : CString → Nat}
  {call : CountCall} {calls : List CountCall} {name : CString} {table : List EntryMqttSubscription}

theorem filled_incrementCount (ok : CountsOk table) (named : IsTopicName name) (small : countOf table name + 1 < 2 ^ 32)
    (filled : ∀ entry ∈ table, Filled entry) : ∀ entry ∈ incrementCount table name, Filled entry := by
  intro entry member
  unfold incrementCount at member
  cases scan : table.findIdx? (isCountOf name) with
  | some n =>
    obtain ⟨old, found, holds⟩ := findIdx?_getElem? scan
    have inside := (List.getElem?_eq_some_iff.mp found).1
    have count := ok.countOf_eq found holds
    rw [scan] at member
    simp only at member
    rw [modify_eq_put .zero found] at member
    rcases mem_put (by omega) member with rfl | before
    · right
      refine ⟨fun zero => ?_, (isCountOf_iff.mp holds).2.2 ▸ named⟩
      have value := congrArg UInt32.toNat zero
      simp only [UInt32.toNat_add, UInt32.toNat_one, UInt32.toNat_zero] at value
      omega
    · exact filled entry before
  | none =>
    rw [scan] at member
    simp only at member
    by_cases room : Room EntryMqttSubscription.isEmpty table
    · obtain ⟨n, free, adjacent, _, _⟩ := freeSpace_room ok.short room
      rw [free, putAt_ofNat] at member
      rcases mem_put adjacent member with rfl | before
      · right
        exact ⟨nofun, named⟩
      · exact filled entry before
    · rw [freeSpace_full ok.short room, putAt_negative (by decide)] at member
      exact filled entry member

theorem filled_decrementCount (filled : ∀ entry ∈ table, Filled entry) : ∀ entry ∈ decrementCount table name, Filled entry := by
  intro entry member
  unfold decrementCount at member
  cases scan : table.findIdx? (isCountOf name) with
  | none =>
    rw [scan] at member
    exact filled entry member
  | some n =>
    obtain ⟨old, found, holds⟩ := findIdx?_getElem? scan
    have inside := (List.getElem?_eq_some_iff.mp found).1
    rw [scan] at member
    simp only at member
    rw [modify_eq_put .zero found] at member
    rcases mem_put (by omega) member with rfl | before
    · split
      · exact .inl rfl
      · rename_i nonzero
        rcases filled old (List.mem_of_getElem? found) with zero | ⟨_, named⟩
        · exact absurd (congrArg EntryMqttSubscription.clientSubscriptionCount zero) (isCountOf_iff.mp holds).1
        · exact .inr ⟨nonzero, named⟩
    · exact filled entry before

theorem Counts.shows (holds : Counts p counters) (small : ∀ name, counters name < 100000) : Shows overrun p counters where
  counts := by
    intro name named
    rw [getGlobalTopicSubscriptionCountPrinted_small (by rw [holds.counts]; exact small name),
      getGlobalTopicSubscriptionCount_eq holds.clean named]
    exact holds.counts name
  single := by
    intro i j entry other first second used used' same
    have counted : ∀ {entry : EntryMqttSubscription}, entry ∈ p.store.mqttSub → entry.isEmpty = false →
        isCountOf entry.topicName entry = true := by
      intro entry member used
      rcases holds.filled entry member with rfl | ⟨nonzero, named⟩
      · cases used
      · exact isCountOf_iff.mpr ⟨nonzero, named.2, rfl⟩
    have right := counted (List.mem_of_getElem? second) used'
    rw [same] at right
    exact holds.ok.single entry.topicName i j entry other first second (counted (List.mem_of_getElem? first) used) right

theorem Counts.increment_eq (holds : Counts p counters) (named : IsTopicName name) (small : counters name + 1 < 100000) :
    p.incrementGlobalSubscriptionCountPrinted overrun (some name) =
      { p with store := { p.store with mqttSub := incrementCount p.store.mqttSub name } } := by
  unfold incrementGlobalSubscriptionCountPrinted
  rw [holds.clean, validName_named named]
  simp only
  rw [incrementPrinted_small holds.ok (by rw [holds.counts]; exact small)]
  rfl

theorem Counts.decrement_eq (holds : Counts p counters) (named : IsTopicName name) (small : counters name - 1 < 100000) :
    p.decrementGlobalSubscriptionCountPrinted overrun (some name) =
      { p with store := { p.store with mqttSub := decrementCount p.store.mqttSub name } } := by
  unfold decrementGlobalSubscriptionCountPrinted
  rw [holds.clean, validName_named named]
  simp only
  rw [decrementPrinted_small holds.ok (by rw [holds.counts]; exact small)]
  rfl

theorem Counts.increment (holds : Counts p counters) (named : IsTopicName name) (short : p.store.mqttSub.length < capacity)
    (small : counters name + 1 < 100000) :
    Counts { p with store := { p.store with mqttSub := incrementCount p.store.mqttSub name } }
      (Function.update counters name (counters name + 1)) := by
  have counted := holds.counts name
  have room : CountRoom p.store.mqttSub name := .inr (.inl short)
  refine ⟨holds.clean, holds.ok.incrementCount, ?_, fun other => ?_⟩
  · exact filled_incrementCount holds.ok named (by omega) holds.filled
  · show countOf (incrementCount p.store.mqttSub name) other = _
    rw [holds.ok.countOf_incrementCount named room (by omega), holds.counts, Function.update_apply]
    split
    · rename_i same
      rw [same]
    · rfl

theorem Counts.decrement (holds : Counts p counters) (name : CString) :
    Counts { p with store := { p.store with mqttSub := decrementCount p.store.mqttSub name } }
      (Function.update counters name (counters name - 1)) := by
  refine ⟨holds.clean, holds.ok.decrementCount, filled_decrementCount holds.filled, fun other => ?_⟩
  show countOf (decrementCount p.store.mqttSub name) other = _
  rw [holds.ok.countOf_decrementCount, holds.counts, Function.update_apply]
  split
  · rename_i same
    rw [same]
  · rfl

theorem count_self (call : CountCall) (counters : CString → Nat) : call.count counters call.topicName =
    match call with
    | .increment topicName => counters topicName + 1
    | .decrement topicName => counters topicName - 1 := by
  cases call with
  | increment topicName => exact Function.update_self _ _ _
  | decrement topicName => exact Function.update_self _ _ _

theorem count_ne (different : name ≠ call.topicName) : call.count counters name = counters name := by
  cases call with
  | increment topicName => exact Function.update_of_ne different _ _
  | decrement topicName => exact Function.update_of_ne different _ _

theorem Counts.execute_eq (holds : Counts p counters) (allowed : Allowed p counters call)
    (small : call.count counters call.topicName < 100000) : call.execute overrun p = call.execute id p := by
  rw [count_self] at small
  cases call with
  | increment topicName =>
    exact (holds.increment_eq allowed.named small).trans (holds.increment_eq allowed.named small).symm
  | decrement topicName =>
    exact (holds.decrement_eq allowed.named small).trans (holds.decrement_eq allowed.named small).symm

theorem Counts.execute (holds : Counts p counters) (allowed : Allowed p counters call)
    (small : call.count counters call.topicName < 100000) : Counts (call.execute overrun p) (call.count counters) := by
  rw [count_self] at small
  cases call with
  | increment topicName =>
    have performed : (CountCall.increment topicName).execute overrun p = _ := holds.increment_eq allowed.named small
    rw [performed]
    exact holds.increment allowed.named allowed.short small
  | decrement topicName =>
    have performed : (CountCall.decrement topicName).execute overrun p = _ := holds.decrement_eq allowed.named small
    rw [performed]
    exact holds.decrement topicName

/-- What the terminator of a text of six digits does when the count stands behind the buffer. -/
def terminated (entry : EntryMqttSubscription) : EntryMqttSubscription :=
  { entry with clientSubscriptionCount := entry.clientSubscriptionCount &&& 0xffffff00 }

/-- The 100000th subscription of a topic makes its count 99840. -/
theorem Counts.get_terminated (holds : Counts p counters) (named : IsTopicName name) (last : counters name = 99999) :
    ((CountCall.increment name).execute terminated p).getGlobalTopicSubscriptionCountPrinted terminated (some name) =
      99840 := by
  have present : p.store.mqttSub.findIdx? (isCountOf name) ≠ none := by
    intro scan
    have absent := countOf_eq_zero.mpr scan
    rw [holds.counts name] at absent
    omega
  obtain ⟨i, scan⟩ := Option.ne_none_iff_exists'.mp present
  obtain ⟨old, found, counted⟩ := findIdx?_getElem? scan
  have inside := (List.getElem?_eq_some_iff.mp found).1
  have count : old.clientSubscriptionCount = 99999 := by
    rw [← UInt32.toNat_inj, ← holds.ok.countOf_eq found counted, holds.counts name, last]
    rfl
  have damaged : printed terminated { old with clientSubscriptionCount := old.clientSubscriptionCount + 1 } =
      ⟨99840, name⟩ := by
    have next : (99999 : UInt32) + 1 = 100000 := by decide
    have long : printable 100000 = false := by decide
    have low : (100000 : UInt32) &&& 0xffffff00 = 99840 := by decide
    unfold printed terminated
    simp only [count, next, long, low, (isCountOf_iff.mp counted).2.2, Bool.false_eq_true, if_false]
  have written : incrementPrinted terminated p.store.mqttSub name = put .zero p.store.mqttSub i ⟨99840, name⟩ := by
    unfold incrementPrinted
    rw [scan]
    simp only
    rw [modify_eq_put .zero found, damaged]
  have read : (put .zero p.store.mqttSub i ⟨99840, name⟩).find? (isCountOf name) = some ⟨99840, name⟩ := by
    apply find?_put_self (by omega)
    · exact isCountOf_iff.mpr ⟨(by decide : (99840 : UInt32) ≠ 0), named.2, rfl⟩
    · intro j other same holds_other
      exact holds.ok.single name j i other old same found holds_other counted
  have performed : (CountCall.increment name).execute CountCall.terminated p =
      { p with store := { p.store with mqttSub := put .zero p.store.mqttSub i ⟨99840, name⟩ } } := by
    unfold CountCall.execute incrementGlobalSubscriptionCountPrinted
    simp only [holds.clean, validName_named named, written, Bool.false_eq_true, if_false]
  have short : (99840 : UInt32).toNat < 100000 := by decide
  rw [performed]
  unfold getGlobalTopicSubscriptionCountPrinted
  simp only [holds.clean, validName_named named, read, Bool.false_eq_true, if_false]
  rw [printed_small short]

theorem Refines.shows (refines : Refines overrun p counters calls) : Shows overrun p counters := by
  cases calls with
  | nil => exact refines
  | cons call calls => exact refines.1

end Calls

/-- MQTT.SUB is empty, and no error is pending. -/
structure Fresh (p : Persistent) : Prop where
  clean : p.error = false
  empty : p.store.mqttSub = []

theorem Fresh.counts {p : Persistent} (fresh : Fresh p) : Counts p fun _ => 0 := by
  refine ⟨fresh.clean, ?_, ?_, ?_⟩
  · rw [fresh.empty]
    exact ⟨by decide, fun name i j a b found => by cases found⟩
  · rw [fresh.empty]
    exact fun entry member => by cases member
  · rw [fresh.empty]
    exact fun name => rfl

theorem count_small {counters : CString → Nat} {call : CountCall} (small : ∀ name, counters name < 100000)
    (fits : call.count counters call.topicName < 100000) (name : CString) : call.count counters name < 100000 := by
  by_cases same : name = call.topicName
  · rw [same]
    exact fits
  · rw [count_ne same]
    exact small name

section Runs

variable {overrun : EntryMqttSubscription → EntryMqttSubscription} {p : Persistent} {counters : CString → Nat}
  {calls : List CountCall}

theorem refines_of_printable (holds : Counts p counters) (small : ∀ name, counters name < 100000)
    (allowed : AllowedAll p counters calls) (printable : Printable counters calls) : Refines overrun p counters calls := by
  induction calls generalizing p counters with
  | nil => exact holds.shows small
  | cons call calls ih =>
    obtain ⟨here, later⟩ := allowed
    obtain ⟨fits, rest⟩ := printable
    have bounded := count_small small fits
    have after : Counts (call.execute overrun p) (call.count counters) := holds.execute here fits
    refine ⟨holds.shows small, fun name named different => ?_, ?_⟩
    · rw [← UInt32.toNat_inj, (after.shows bounded).counts name named, (holds.shows small).counts name named,
        count_ne different]
    · rw [holds.execute_eq here fits]
      exact ih (holds.execute here fits) bounded later rest

theorem printable_of_refines (holds : Counts p counters) (small : ∀ name, counters name < 100000)
    (allowed : AllowedAll p counters calls) (refines : Refines terminated p counters calls) : Printable counters calls := by
  induction calls generalizing p counters with
  | nil => trivial
  | cons call calls ih =>
    obtain ⟨here, later⟩ := allowed
    have fits : call.count counters call.topicName < 100000 := by
      cases call with
      | increment name =>
        have named : IsTopicName name := here.named
        have below := small name
        have value : (CountCall.increment name).count counters name = counters name + 1 := Function.update_self _ _ _
        by_contra large
        have reached : counters name = 99999 := by
          change ¬ (CountCall.increment name).count counters name < 100000 at large
          omega
        have shown := refines.2.2.shows.counts name named
        rw [holds.get_terminated named reached, value, reached] at shown
        exact absurd shown (by decide)
      | decrement name =>
        have below := small name
        have value : (CountCall.decrement name).count counters name = counters name - 1 := Function.update_self _ _ _
        show (CountCall.decrement name).count counters name < 100000
        omega
    refine ⟨fits, ih (holds.execute here fits) (count_small small fits) later ?_⟩
    have harmless : call.execute terminated p = call.execute id p := holds.execute_eq here fits
    rw [← harmless]
    exact refines.2.2

end Runs

/-- Whatever the debug output overwrites, what MQTT.SUB says about a name is its counter, calls for other names do not
    change it and no name is in two records, just when no counter comes to 100000. -/
theorem table_refines_counters {p : Persistent} {calls : List CountCall} (fresh : Fresh p)
    (allowed : AllowedAll p (fun _ => 0) calls) :
    (∀ overrun, Refines overrun p (fun _ => 0) calls) ↔ Printable (fun _ => 0) calls := by
  have holds := fresh.counts
  have small : ∀ _ : CString, 0 < 100000 := fun _ => by omega
  constructor
  · exact fun refines => printable_of_refines holds small allowed (refines terminated)
  · exact fun printable overrun => refines_of_printable holds small allowed printable

end CountCall

namespace Scenario

def holding (count : UInt32) : Persistent :=
  { fresh with store := { fresh.store with mqttSub := [⟨count, name 116⟩] } }

theorem execute_holding {count : UInt32} (nonzero : count ≠ 0) :
    (CountCall.increment (name 116)).execute id (holding count) = holding (count + 1) := by
  have counted : isCountOf (name 116) ⟨count, name 116⟩ = true := isCountOf_iff.mpr ⟨nonzero, (by decide : (name 116).length < 255), rfl⟩
  have found : [(⟨count, name 116⟩ : EntryMqttSubscription)].findIdx? (isCountOf (name 116)) = some 0 := by
    rw [List.findIdx?_cons, counted]
    rfl
  have written : incrementPrinted id [⟨count, name 116⟩] (name 116) = [⟨count + 1, name 116⟩] := by
    unfold incrementPrinted
    rw [found]
    simp only [printed_id]
    rfl
  show incrementGlobalSubscriptionCountPrinted id (holding count) (some (name 116)) = _
  unfold incrementGlobalSubscriptionCountPrinted
  rw [validName_named (by decide)]
  show { holding count with store := { (holding count).store with
    mqttSub := incrementPrinted id [⟨count, name 116⟩] (name 116) } } = _
  rw [written]
  rfl

theorem allowed_holding {k times : Nat} {counters : CString → Nat} (positive : 0 < k) (counted : counters (name 116) = k)
    (bounded : k + times ≤ 100000) :
    CountCall.AllowedAll (holding (UInt32.ofNat k)) counters (List.replicate times (.increment (name 116))) := by
  induction times generalizing k counters with
  | zero => trivial
  | succ times ih =>
    have value : (CountCall.increment (name 116)).count counters (name 116) = k + 1 := by
      rw [← counted]
      exact CountCall.count_self (.increment (name 116)) counters
    refine ⟨⟨(by decide : IsTopicName (name 116)), (by decide : 1 < capacity), ?_⟩, ?_⟩
    · show (CountCall.increment (name 116)).count counters (name 116) < 2 ^ 32
      omega
    · have nonzero : UInt32.ofNat k ≠ 0 := by
        intro zero
        have toNat := congrArg UInt32.toNat zero
        rw [UInt32.toNat_ofNat', UInt32.toNat_zero] at toNat
        omega
      rw [execute_holding nonzero]
      have next : UInt32.ofNat k + 1 = UInt32.ofNat (k + 1) := by rw [UInt32.ofNat_add]; rfl
      rw [next]
      exact ih (by omega) value (by omega)

theorem not_printable_replicate {times : Nat} {counters : CString → Nat} (large : 100000 ≤ counters (name 116) + times)
    (positive : 0 < times) : ¬ CountCall.Printable counters (List.replicate times (.increment (name 116))) := by
  induction times generalizing counters with
  | zero => omega
  | succ times ih =>
    rintro ⟨fits, rest⟩
    have value : (CountCall.increment (name 116)).count counters (name 116) = counters (name 116) + 1 :=
      CountCall.count_self (.increment (name 116)) counters
    change (CountCall.increment (name 116)).count counters (name 116) < 100000 at fits
    exact ih (by omega) (by omega) rest

def subscribedOften : List CountCall := List.replicate 100000 (.increment (name 116))

/-- The text of the last count overruns its buffer, and its terminator makes the count 99840. -/
theorem count_overruns :
    CountCall.Fresh fresh ∧ CountCall.AllowedAll fresh (fun _ => 0) subscribedOften ∧
      ¬ CountCall.Refines CountCall.terminated fresh (fun _ => 0) subscribedOften := by
  have first : CountCall.Fresh fresh := ⟨rfl, rfl⟩
  have allowed : CountCall.AllowedAll fresh (fun _ => 0) subscribedOften := by
    have opened : (CountCall.increment (name 116)).execute id fresh = holding (UInt32.ofNat 1) := rfl
    refine ⟨⟨(by decide : IsTopicName (name 116)), (by decide : 0 < capacity), by decide⟩, ?_⟩
    rw [opened]
    have once : (CountCall.increment (name 116)).count (fun _ => 0) (name 116) = 1 :=
      CountCall.count_self (.increment (name 116)) fun _ => 0
    have rest : CountCall.AllowedAll (holding (UInt32.ofNat 1)) ((CountCall.increment (name 116)).count fun _ => 0)
        (List.replicate 99999 (.increment (name 116))) := allowed_holding (by omega) once (by omega)
    exact rest
  refine ⟨first, allowed, fun refines => ?_⟩
  exact not_printable_replicate (by omega) (by omega)
    (CountCall.printable_of_refines first.counts (fun _ => by omega) allowed refines)

def subscribedTwice : List CountCall :=
  [.increment (name 116), .increment (name 117), .increment (name 116), .decrement (name 117), .decrement (name 117)]

theorem table_refines_counters_subscribedTwice :
    subscribedTwice.foldl CountCall.count (fun _ => 0) (name 116) = 2 ∧
      ∀ overrun, CountCall.Refines overrun fresh (fun _ => 0) subscribedTwice := by
  refine ⟨by decide, (CountCall.table_refines_counters ⟨rfl, rfl⟩ ?_).mpr ?_⟩
  · decide
  · decide

end Scenario

end MqttSnGateway
