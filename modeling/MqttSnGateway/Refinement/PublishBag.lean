import MqttSnGateway.Refinement.OpenTransaction
import MqttSnGateway.Store.Files
import Mathlib.Data.Multiset.AddSub

namespace MqttSnGateway

open Persistent RecordFile

/-- The calls that work with a `.PUB` file. -/
inductive PublishCall where
  | add (data : List UInt8) (topicId : UInt16) (retain : Bool) (qos : UInt8)
  | next
  | setMsgId (publishId msgId : UInt16)
  | remove (publishId : UInt16)

namespace PublishCall

/-- `get_next_publish` only reads. -/
def execute (p : Persistent) : PublishCall → Persistent
  | .add data topicId retain qos => p.addClientPublish data topicId retain qos
  | .next => p
  | .setMsgId publishId msgId => p.setPublishMsgId publishId msgId
  | .remove publishId => p.removePublishByPublishId publishId

def bag (p : Persistent) : Multiset EntryPublish := (queue p.files.pub : Multiset EntryPublish)

def step (p : Persistent) (call : PublishCall) : Option Persistent := some (call.execute p)

/-- The file is not full, a payload has a length byte, and a publish id is that of a message in the file. -/
def Allowed (p : Persistent) : PublishCall → Prop
  | .add data _ _ _ => data.length ≤ 255 ∧ p.files.pub.length < capacity
  | .next => True
  | .setMsgId publishId _ | .remove publishId => ∃ entry ∈ bag p, entry.publishId = publishId

/-- The transaction of a client whose `.PUB` file is empty. -/
structure Fresh (p : Persistent) : Prop where
  ready : p.ready = true
  empty : p.files.pub = []

/-- What a call does to the bag of messages. -/
inductive Effect : PublishCall → Multiset EntryPublish → Multiset EntryPublish → Prop where
  | add {data : List UInt8} {topicId : UInt16} {retain : Bool} {qos : UInt8} {messages : Multiset EntryPublish}
      {entry : EntryPublish} (payload : entry.payload = data) (length : entry.msgLength.toNat = data.length)
      (topic : entry.topicId = topicId) (level : entry.qos = qos) (retained : entry.retain = retain) :
      Effect (.add data topicId retain qos) messages (entry ::ₘ messages)
  | next {messages : Multiset EntryPublish} : Effect .next messages messages
  | setMsgId {publishId msgId : UInt16} {others : Multiset EntryPublish} {entry : EntryPublish}
      (named : entry.publishId = publishId) (only : ∀ other ∈ others, other.publishId ≠ publishId) :
      Effect (.setMsgId publishId msgId) (entry ::ₘ others) ({ entry with msgId := msgId } ::ₘ others)
  | remove {publishId : UInt16} {others : Multiset EntryPublish} {entry : EntryPublish}
      (named : entry.publishId = publishId) (only : ∀ other ∈ others, other.publishId ≠ publishId) :
      Effect (.remove publishId) (entry ::ₘ others) others

/-- Every message has the publish id of its place. -/
structure Placed (p : Persistent) : Prop where
  ready : p.ready = true
  short : p.files.pub.length ≤ capacity
  numbered : ∀ (n : Nat) (entry : EntryPublish), p.files.pub[n]? = some entry → entry.publishId ≠ 0 →
    entry.publishId.toNat = n + 1

section Calls

variable {p : Persistent} {call : PublishCall} {entry record : EntryPublish} {n : Nat}

theorem mem_bag : entry ∈ bag p ↔ entry ∈ p.files.pub ∧ entry.publishId ≠ 0 := by
  unfold bag queue
  rw [Multiset.mem_coe, List.mem_filter]
  simp [EntryPublish.isEmpty]

theorem bag_eq_cons (found : p.files.pub[n]? = some entry) (used : entry.publishId ≠ 0) :
    bag p = entry ::ₘ (queue (p.files.pub.eraseIdx n) : Multiset EntryPublish) := by
  unfold bag queue
  rw [Multiset.cons_coe, Multiset.coe_eq_coe]
  apply filter_eraseIdx_perm found
  simp [EntryPublish.isEmpty, used]

theorem bag_set (found : p.files.pub[n]? = some entry) (used : record.publishId ≠ 0) :
    bag (p.modifyFiles fun files => { files with pub := files.pub.set n record }) =
      record ::ₘ (queue (p.files.pub.eraseIdx n) : Multiset EntryPublish) := by
  let p' := p.modifyFiles fun files => { files with pub := files.pub.set n record }
  have pub : p'.files.pub = p.files.pub.set n record := congrArg _ files_modified
  have stored : p'.files.pub[n]? = some record := by
    rw [pub, List.getElem?_set_self (List.getElem?_eq_some_iff.mp found).1]
  have split := bag_eq_cons stored used
  rwa [pub, List.eraseIdx_set_eq] at split

theorem Placed.only (holds : Placed p) (found : p.files.pub[n]? = some entry) (used : entry.publishId ≠ 0) :
    ∀ other ∈ (queue (p.files.pub.eraseIdx n) : Multiset EntryPublish), other.publishId ≠ entry.publishId := by
  intro other member same
  rw [Multiset.mem_coe] at member
  unfold queue at member
  obtain ⟨i, elsewhere, there⟩ := List.mem_eraseIdx_iff_getElem?.mp (List.mem_filter.mp member).1
  have number := holds.numbered n entry found used
  have place := holds.numbered i other there (same ▸ used)
  rw [same] at place
  omega

theorem Placed.rewrite (holds : Placed p) (member : entry ∈ bag p) :
    ∃ n, p.files.pub[n]? = some entry ∧ entry.publishId ≠ 0 ∧ ∀ f : EntryPublish → EntryPublish,
      p.rewritePublish entry.publishId f = p.modifyFiles fun files => { files with pub := files.pub.set n (f entry) } := by
  obtain ⟨stored, used⟩ := mem_bag.mp member
  obtain ⟨n, found⟩ := List.mem_iff_getElem?.mp stored
  have number := holds.numbered n entry found used
  have record : p.publishRecord? entry.publishId = some entry := by
    unfold publishRecord?
    rw [if_neg used, number]
    exact found
  refine ⟨n, found, used, fun f => ?_⟩
  unfold rewritePublish
  rw [if_pos holds.ready, record, number]
  simp only [if_true, Nat.add_sub_cancel]

theorem Placed.set (holds : Placed p) (found : p.files.pub[n]? = some entry)
    (same : record.publishId = entry.publishId ∨ record.publishId = 0) :
    Placed (p.modifyFiles fun files => { files with pub := files.pub.set n record }) := by
  refine ⟨holds.ready, ?_, ?_⟩
  · rw [files_modified, List.length_set]
    exact holds.short
  · rw [files_modified]
    intro i other there used
    rw [List.getElem?_set] at there
    split at there
    · rename_i here
      split at there
      · cases there
        rcases same with same | zero
        · rw [same] at used ⊢
          rw [← here]
          exact holds.numbered n entry found used
        · exact absurd zero used
      · cases there
    · exact holds.numbered i other there used

theorem Placed.add (holds : Placed p) {data : List UInt8} {topicId : UInt16} {retain : Bool} {qos : UInt8} :
    p.addClientPublish data topicId retain qos = p.modifyFiles fun files => appendPublish files data topicId retain qos :=
  if_pos holds.ready

theorem Placed.execute (holds : Placed p) (allowed : Allowed p call) : Placed (call.execute p) := by
  cases call with
  | add data topicId retain qos =>
    show Placed (p.addClientPublish data topicId retain qos)
    rw [holds.add]
    refine ⟨holds.ready, ?_, ?_⟩
    · rw [files_modified]
      exact length_putAt_freeSpace holds.short
    · rw [files_modified]
      exact ClientFiles.pubNumbered_appendPublish holds.short holds.numbered
  | next => exact holds
  | setMsgId publishId msgId =>
    obtain ⟨entry, member, rfl⟩ := allowed
    obtain ⟨n, found, _, written⟩ := holds.rewrite member
    show Placed (p.rewritePublish entry.publishId _)
    rw [written]
    exact holds.set found (.inl rfl)
  | remove publishId =>
    obtain ⟨entry, member, rfl⟩ := allowed
    obtain ⟨n, found, _, written⟩ := holds.rewrite member
    show Placed (p.rewritePublish entry.publishId _)
    rw [written]
    exact holds.set found (.inr rfl)

theorem Placed.effect (holds : Placed p) (allowed : Allowed p call) : Effect call (bag p) (bag (call.execute p)) := by
  cases call with
  | add data topicId retain qos =>
    obtain ⟨short, few⟩ := allowed
    obtain ⟨position, free, adjacent, small, unused⟩ := freeSpace_room holds.short (.inl few)
    have inserted : bag (p.addClientPublish data topicId retain qos) =
        .placed data topicId retain qos position ::ₘ bag p := by
      unfold bag queue
      rw [holds.add, files_modified, ClientFiles.pub_appendPublish free small, Multiset.cons_coe, Multiset.coe_eq_coe]
      apply filter_put_perm adjacent
      · intro old found
        simp [unused old found]
      · simp [EntryPublish.isEmpty_placed small]
    show Effect _ (bag p) (bag (p.addClientPublish data topicId retain qos))
    rw [inserted]
    exact .add (EntryPublish.payload_placed (by omega)) (EntryPublish.toNat_msgLength_placed (by omega)) rfl rfl rfl
  | next => exact .next
  | setMsgId publishId msgId =>
    obtain ⟨entry, member, rfl⟩ := allowed
    obtain ⟨n, found, used, written⟩ := holds.rewrite member
    have exchanged : bag (p.rewritePublish entry.publishId fun entry => { entry with msgId := msgId }) =
        { entry with msgId := msgId } ::ₘ (queue (p.files.pub.eraseIdx n) : Multiset EntryPublish) := by
      rw [written]
      exact bag_set found used
    show Effect _ (bag p) (bag (p.rewritePublish entry.publishId fun entry => { entry with msgId := msgId }))
    rw [exchanged, bag_eq_cons found used]
    exact .setMsgId rfl (holds.only found used)
  | remove publishId =>
    obtain ⟨entry, member, rfl⟩ := allowed
    obtain ⟨n, found, used, written⟩ := holds.rewrite member
    have removed : bag (p.rewritePublish entry.publishId fun _ => .zero) =
        (queue (p.files.pub.eraseIdx n) : Multiset EntryPublish) := by
      unfold bag queue
      rw [written, files_modified, filter_set_of_neg rfl]
    show Effect _ (bag p) (bag (p.rewritePublish entry.publishId fun _ => .zero))
    rw [removed, bag_eq_cons found used]
    exact .remove rfl (holds.only found used)

theorem placed_of_run (run : Runs.Run step Allowed Fresh p) : Placed p := by
  induction run with
  | start initial =>
    refine ⟨initial.ready, ?_, ?_⟩
    · rw [initial.empty]
      exact Nat.zero_le _
    · rw [initial.empty]
      exact fun n entry found => by cases found
  | next before meets taken ih =>
    rw [← Option.some.inj taken]
    exact ih.execute meets

theorem Placed.hasClientPublishes (holds : Placed p) : p.hasClientPublishes = true ↔ bag p ≠ 0 := by
  unfold Persistent.hasClientPublishes
  rw [if_pos holds.ready, List.any_eq_true, ← Multiset.card_pos, Multiset.card_pos_iff_exists_mem]
  apply exists_congr
  intro entry
  rw [mem_bag]
  simp [EntryPublish.isEmpty]

theorem Placed.next_mem (holds : Placed p) (next : p.getNextPublish = some entry) : entry ∈ bag p := by
  unfold Persistent.getNextPublish at next
  rw [if_pos holds.ready] at next
  have used := List.find?_some next
  apply mem_bag.mpr
  refine ⟨List.mem_reverse.mp (List.mem_of_find?_eq_some next), ?_⟩
  simpa [EntryPublish.isEmpty] using used

theorem Placed.next_none (holds : Placed p) : p.getNextPublish = none ↔ bag p = 0 := by
  unfold Persistent.getNextPublish
  rw [if_pos holds.ready, List.find?_eq_none, Multiset.eq_zero_iff_forall_notMem]
  apply forall_congr'
  intro entry
  rw [mem_bag, List.mem_reverse]
  simp [EntryPublish.isEmpty]

end Calls

/-- The `.PUB` file is a bag of messages: calls do to it what they should, the next message is one of them, and no call
    raises an error. -/
theorem file_refines_bag {p : Persistent} (run : Runs.Run step Allowed Fresh p) :
    p.error = false ∧ (p.hasClientPublishes = true ↔ bag p ≠ 0) ∧ (p.getNextPublish = none ↔ bag p = 0) ∧
      (∀ entry, p.getNextPublish = some entry → entry ∈ bag p) ∧
      ∀ call, Allowed p call → Effect call (bag p) (bag (call.execute p)) ∧ (call.execute p).error = false := by
  have holds := placed_of_run run
  refine ⟨(ready_iff.mp holds.ready).2.1, holds.hasClientPublishes, holds.next_none, fun entry => holds.next_mem,
    fun call allowed => ⟨holds.effect allowed, ?_⟩⟩
  exact (ready_iff.mp (holds.execute allowed).ready).2.1

end PublishCall

namespace Scenario

def queuedTwice : Persistent := (PublishCall.add [98] 2 true 1).execute ((PublishCall.add [104, 105] 1 false 0).execute opened)

theorem run_queuedTwice : Runs.Run PublishCall.step PublishCall.Allowed PublishCall.Fresh queuedTwice := by
  have first : PublishCall.Fresh opened := ⟨rfl, rfl⟩
  have allowed : PublishCall.Allowed opened (.add [104, 105] 1 false 0) := ⟨by decide, by decide⟩
  have again : PublishCall.Allowed ((PublishCall.add [104, 105] 1 false 0).execute opened) (.add [98] 2 true 1) :=
    ⟨by decide, by decide⟩
  exact .next (.next (.start first) allowed rfl) again rfl

/-- Both messages are in the bag, and the first one can be taken out before the second one. -/
theorem file_refines_bag_queuedTwice :
    ∃ entry other, PublishCall.bag queuedTwice = entry ::ₘ {other} ∧ entry.payload = [104, 105] ∧ other.payload = [98] ∧
      PublishCall.Effect (.remove 1) (entry ::ₘ {other})
        (PublishCall.bag ((PublishCall.remove 1).execute queuedTwice)) := by
  obtain ⟨_, _, _, _, effects⟩ := PublishCall.file_refines_bag run_queuedTwice
  have both : PublishCall.bag queuedTwice =
      EntryPublish.placed [104, 105] 1 false 0 0 ::ₘ {EntryPublish.placed [98] 2 true 1 1} := by
    have stored : queue queuedTwice.files.pub =
        [EntryPublish.placed [104, 105] 1 false 0 0, EntryPublish.placed [98] 2 true 1 1] := by decide
    unfold PublishCall.bag
    rw [stored]
    rfl
  have allowed : PublishCall.Allowed queuedTwice (.remove 1) := by
    refine ⟨EntryPublish.placed [104, 105] 1 false 0 0, ?_, rfl⟩
    rw [both]
    exact Multiset.mem_cons_self _ _
  refine ⟨_, _, both, by decide, by decide, ?_⟩
  rw [← both]
  exact (effects _ allowed).1

end Scenario

end MqttSnGateway
