import Mathlib.Logic.Relation
import MqttSnGateway.Datagrams

namespace MqttSnGateway

open Persistent Store

namespace Gateway

/-- No deleted record stands before a subscription. -/
def Compact (sub : List EntrySubscription) : Prop := ∀ i < subscriptionCount sub, (sub.getD i .zero).topicId ≠ 0

instance (sub : List EntrySubscription) : Decidable (Compact sub) :=
  inferInstanceAs (Decidable (∀ i < subscriptionCount sub, (sub.getD i .zero).topicId ≠ 0))

section Tables

variable {sub : List EntrySubscription} {i : Nat} {record : EntrySubscription}

theorem getElem?_of_used (used : (sub.getD i .zero).topicId ≠ 0) : ∃ record, sub[i]? = some record ∧ record.topicId ≠ 0 := by
  rw [List.getD_eq_getElem?_getD] at used
  cases found : sub[i]? with
  | none =>
    rw [found] at used
    exact absurd rfl used
  | some record =>
    rw [found] at used
    exact ⟨record, rfl, used⟩

theorem subscriptionCount_set (found : sub[i]? = some record) (used : record.topicId ≠ 0) :
    subscriptionCount (sub.set i .zero) + 1 = subscriptionCount sub := by
  obtain ⟨inside, here⟩ := List.getElem?_eq_some_iff.mp found
  have member : sub[i] ∈ sub := List.getElem_mem inside
  have taken : 0 < subscriptionCount sub := by
    apply List.countP_pos_iff.mpr
    exact ⟨sub[i], member, by simpa [here] using used⟩
  have counted := List.countP_set (p := fun entry : EntrySubscription => decide (entry.topicId ≠ 0)) (a := .zero) inside
  have read : decide (record.topicId ≠ 0) = true := decide_eq_true used
  have written : decide (EntrySubscription.zero.topicId ≠ 0) = false := by decide
  rw [here, read, written] at counted
  show List.countP (fun entry : EntrySubscription => decide (entry.topicId ≠ 0)) (sub.set i .zero) + 1 = _
  unfold subscriptionCount at taken ⊢
  rw [counted]
  simp only [if_true, Bool.false_eq_true, if_false, Nat.add_zero]
  omega

theorem getD_set_before {j : Nat} (before : j < i) : (sub.set i .zero).getD j .zero = sub.getD j .zero := by
  rw [List.getD_eq_getElem?_getD, List.getD_eq_getElem?_getD, List.getElem?_set, if_neg (by omega)]

theorem compact_set_iff (total : subscriptionCount sub = i + 1) (found : sub[i]? = some record)
    (used : record.topicId ≠ 0) : Compact (sub.set i .zero) ↔ Compact sub := by
  have less := subscriptionCount_set found used
  unfold Compact
  constructor
  · intro compact j bound
    rcases Nat.lt_or_ge j i with before | last
    · have kept := compact j (by omega)
      rw [getD_set_before before] at kept
      exact kept
    · have here : j = i := by omega
      rw [here, List.getD_eq_getElem?_getD, found]
      exact used
  · intro compact j bound
    rw [getD_set_before (by omega)]
    exact compact j (by omega)

end Tables

section Rounds

variable {g g' : Gateway} {s : Store} {entry : EntryClient}

/-- A round that the loop of `remove_client_subscriptions` goes. -/
def Removing (g g' : Gateway) : Prop := g.persistent.getClientSubscriptionCount ≠ 0 ∧ g' = g.removalRound

/-- The loop ends without a subscription, each round takes one away, and what it reads at `count - 1` is stored. -/
structure Finishes (g : Gateway) : Prop where
  ends : ∃ fuel after, removeClientSubscriptionsLoop pahoMqttMessageHandler fuel g = some after ∧
    after.persistent.getClientSubscriptionCount = 0
  decreases : ∀ g', Relation.ReflTransGen Removing g g' → g'.persistent.getClientSubscriptionCount ≠ 0 →
    g'.removalRound.persistent.getClientSubscriptionCount < g'.persistent.getClientSubscriptionCount
  stored : ∀ g', Relation.ReflTransGen Removing g g' → g'.persistent.getClientSubscriptionCount ≠ 0 →
    g'.persistent.getNthSubscribedTopicId (g'.persistent.getClientSubscriptionCount - 1) ≠ 0 ∧
    ∃ record ∈ g'.persistent.files.sub, record.topicId =
      g'.persistent.getNthSubscribedTopicId (g'.persistent.getClientSubscriptionCount - 1)

theorem Finishes.round (finishes : g.Finishes) (round : Removing g g') : g'.Finishes where
  ends := by
    obtain ⟨fuel, after, returned, empty⟩ := finishes.ends
    obtain ⟨left, rfl⟩ := round
    cases fuel with
    | zero =>
      rw [removeClientSubscriptionsLoop_zero left] at returned
      cases returned
    | succ fuel =>
      rw [removeClientSubscriptionsLoop_succ left] at returned
      exact ⟨fuel, after, returned, empty⟩
  decreases g'' rounds := finishes.decreases g'' (.head round rounds)
  stored g'' rounds := finishes.stored g'' (.head round rounds)

theorem getNthSubscribedTopicId_inside {p : Persistent} {i : Nat} :
    (p.inside s entry false false).getNthSubscribedTopicId i = ((s.files entry.fileNumber).sub.getD i .zero).topicId := rfl

/-- A transaction of a client whose `.SUB` file holds `count` subscriptions in its first `count` records. -/
def Removable (entry : EntryClient) (g : Gateway) : Prop :=
  ∃ (h : Gateway) (s : Store), g = h.inside s entry false false ∧ (s.files entry.fileNumber).Ok ∧ Compact (s.files entry.fileNumber).sub

/-- A round on a compact file leaves a compact file with one subscription less. -/
theorem Removable.round (removable : g.Removable entry) (left : g.persistent.getClientSubscriptionCount ≠ 0) :
    g.removalRound.Removable entry ∧
      g.removalRound.persistent.getClientSubscriptionCount + 1 = g.persistent.getClientSubscriptionCount := by
  obtain ⟨h, s, rfl, ok, compact⟩ := removable
  rw [persistent_inside, getClientSubscriptionCount_inside ok.subShort] at left ⊢
  obtain ⟨i, total⟩ := Nat.exists_eq_succ_of_ne_zero left
  obtain ⟨record, found, used⟩ := getElem?_of_used (compact i (by omega))
  have after := removalRound_used (g := h) ok total found used
  have files : (s.removeSubscription entry.fileNumber i record.topicName).files entry.fileNumber =
      { s.files entry.fileNumber with sub := (s.files entry.fileNumber).sub.set i .zero } := by
    unfold Store.removeSubscription
    rw [Store.files_uncount, Store.files_modifyFiles_self]
  have kept : ((s.removeSubscription entry.fileNumber i record.topicName).files entry.fileNumber).Ok := by
    rw [files]
    exact ok.eraseSubscription
  rw [after]
  constructor
  · refine ⟨_, _, rfl, kept, ?_⟩
    rw [files]
    exact (compact_set_iff total found used).mpr compact
  · rw [persistent_inside, getClientSubscriptionCount_inside kept.subShort, files]
    exact subscriptionCount_set found used

theorem Removable.rounds (removable : g.Removable entry) (rounds : Relation.ReflTransGen Removing g g') :
    g'.Removable entry := by
  induction rounds with
  | refl => exact removable
  | tail _ round ih =>
    obtain ⟨left, rfl⟩ := round
    exact (ih.round left).1

theorem Removable.ends (removable : g.Removable entry) :
    ∃ after, removeClientSubscriptionsLoop pahoMqttMessageHandler g.persistent.getClientSubscriptionCount g = some after ∧
      after.persistent.getClientSubscriptionCount = 0 := by
  generalize counted : g.persistent.getClientSubscriptionCount = count
  induction count generalizing g with
  | zero =>
    refine ⟨g, ?_, counted⟩
    unfold removeClientSubscriptionsLoop
    rw [if_pos counted]
  | succ count ih =>
    have left : g.persistent.getClientSubscriptionCount ≠ 0 := by omega
    obtain ⟨next, less⟩ := removable.round left
    rw [removeClientSubscriptionsLoop_succ left]
    exact ih next (by omega)

theorem Removable.finishes (removable : g.Removable entry) : g.Finishes where
  ends := ⟨_, removable.ends⟩
  decreases g' rounds left := by
    have less := ((removable.rounds rounds).round left).2
    omega
  stored g' rounds left := by
    obtain ⟨h, s, rfl, ok, compact⟩ := removable.rounds rounds
    rw [persistent_inside, getClientSubscriptionCount_inside ok.subShort] at left
    rw [persistent_inside, getClientSubscriptionCount_inside ok.subShort, getNthSubscribedTopicId_inside]
    have used := compact (subscriptionCount (s.files entry.fileNumber).sub - 1) (by omega)
    refine ⟨used, ?_⟩
    obtain ⟨record, found, _⟩ := getElem?_of_used used
    refine ⟨record, List.mem_of_getElem? found, ?_⟩
    rw [List.getD_eq_getElem?_getD, found]
    rfl

/-- The loop that returns has found a subscription in each place that it came to. -/
theorem compact_of_returned {fuel : Nat} {after : Gateway} (ok : (s.files entry.fileNumber).Ok)
    (returned : removeClientSubscriptionsLoop pahoMqttMessageHandler fuel (g.inside s entry false false) = some after) :
    Compact (s.files entry.fileNumber).sub := by
  induction fuel generalizing g s with
  | zero =>
    cases counted : subscriptionCount (s.files entry.fileNumber).sub with
    | zero =>
      intro i bound
      omega
    | succ i =>
      rw [removeClientSubscriptionsLoop_zero (by
        rw [persistent_inside, getClientSubscriptionCount_inside ok.subShort]; omega)] at returned
      cases returned
  | succ fuel ih =>
    cases counted : subscriptionCount (s.files entry.fileNumber).sub with
    | zero =>
      intro i bound
      omega
    | succ i =>
      by_cases hole : ((s.files entry.fileNumber).sub.getD i .zero).topicId = 0
      · rw [removeClientSubscriptionsLoop_stuck ok counted hole] at returned
        cases returned
      · obtain ⟨record, found, used⟩ := getElem?_of_used hole
        have files : (s.removeSubscription entry.fileNumber i record.topicName).files entry.fileNumber =
            { s.files entry.fileNumber with sub := (s.files entry.fileNumber).sub.set i .zero } := by
          unfold Store.removeSubscription
          rw [Store.files_uncount, Store.files_modifyFiles_self]
        rw [removeClientSubscriptionsLoop_round ok counted found used] at returned
        have compact := ih (by rw [files]; exact ok.eraseSubscription) returned
        rw [files] at compact
        exact (compact_set_iff counted found used).mp compact

theorem Finishes.compact (finishes : (g.inside s entry false false).Finishes) (ok : (s.files entry.fileNumber).Ok) :
    Compact (s.files entry.fileNumber).sub := by
  obtain ⟨_, _, returned, _⟩ := finishes.ends
  exact compact_of_returned ok returned

end Rounds

inductive Opens (g : Gateway) : Gateway → Prop
  | address (address : DeviceAddress) : Opens g (g.startClientTransaction address)
  | clientId (clientId : CString) : Opens g (g.update fun p => p.startClientTransactionById clientId)

theorem Opens.found {g opened : Gateway} (opens : g.Opens opened) (idle : g.persistent.Idle)
    (exist : opened.persistent.clientExist = true) : ∃ n, opened = g.inside g.store (g.store.nthClient n) false false := by
  cases opens with
  | address address =>
    cases selected : g.store.slotOfAddress address with
    | some n => exact ⟨n, startClientTransaction_found idle selected⟩
    | none =>
      rw [startClientTransaction_missing idle selected] at exist
      cases exist
  | clientId clientId =>
    by_cases short : clientId.length < 24
    · cases selected : g.store.slotOfId clientId with
      | some n =>
        refine ⟨n, ?_⟩
        exact congrArg (fun p => { g with persistent := p }) (Persistent.startClientTransactionById_found idle short selected)
      | none =>
        have missing := Persistent.startClientTransactionById_missing idle short selected
        rw [show (g.update fun p => p.startClientTransactionById clientId).persistent =
          g.persistent.startClientTransactionById clientId from rfl, missing] at exist
        cases exist
    · have long := Persistent.startClientTransactionById_long idle (Nat.le_of_not_lt short)
      rw [show (g.update fun p => p.startClientTransactionById clientId).persistent =
        g.persistent.startClientTransactionById clientId from rfl, long] at exist
      unfold clientExist at exist
      simp at exist

end Gateway

namespace Scenario

/-- Two clients with subscriptions, of which the second one has deleted its last one. -/
def compact : Gateway :=
  (run [47]
    [.mqttConnect, .datagram (client 1) (Datagram.connect (name 65) 10 0) [],
      .datagram (client 1) (Datagram.subscribeByName (name 116) 1 0) [],
      .datagram (client 2) (Datagram.connect (name 66) 10 0) [],
      .datagram (client 2) (Datagram.subscribeByName (name 116) 1 0) [],
      .datagram (client 2) (Datagram.subscribeByName (name 117) 2 0) [],
      .datagram (client 2) (Datagram.subscribeByName (name 118) 3 0) [],
      .datagram (client 2) (Datagram.unsubscribe 3 4 Flag.topicPredefinedId) []]).get (by decide +kernel)

end Scenario

end MqttSnGateway
