import MqttSnGateway.Core.Regular
import MqttSnGateway.Core.SubscribeResults

namespace MqttSnGateway

open Persistent Store

theorem CoreResult.is_negative {result : UInt8} {expected : CoreResult} (negative : expected.code < 0) :
    CoreResult.is result expected = false := by
  unfold CoreResult.is
  apply decide_eq_false
  intro same
  omega

def EntryClient.Over (entry : EntryClient) : Prop := entry.clientStatus = .disconnected ∨ entry.clientStatus = .lost

instance (entry : EntryClient) : Decidable entry.Over := inferInstanceAs (Decidable (_ ∨ _))

namespace Store

variable {s s' : Store} {n : Nat} {address : DeviceAddress} {f : EntryClient → EntryClient} {h : ClientFiles → ClientFiles}

/-- The entry that is bound to an address, if there is one, is DISCONNECTED or LOST. -/
def Ended (s : Store) (address : DeviceAddress) : Prop := ∀ n, s.slotOfAddress address = some n → (s.nthClient n).Over

theorem ended_missing (missing : s.slotOfAddress address = none) : s.Ended address := by
  intro n found
  rw [missing] at found
  cases found

theorem ended_iff (found : s.slotOfAddress address = some n) : s.Ended address ↔ (s.nthClient n).Over := by
  constructor
  · exact fun ended => ended n found
  · intro finished m selected
    rw [found] at selected
    cases selected
    exact finished

/-- The entry that the address selects after a setter is the one that the setter wrote. -/
theorem ended_setEntry (ok : s.SlotsOk) (nonzero : address ≠ .zero) (found : s.slotOfAddress address = some n)
    (keeps : Keeps f) : (s.setEntry n f).Ended address ↔ (f (s.nthClient n)).Over := by
  rw [ended_iff (ok.slotOfAddress_setEntry nonzero found keeps)]
  unfold setEntry
  rw [nthClient_writeSlot_self]

theorem ended_congr (clients : s'.clients = s.clients) (ended : s.Ended address) : s'.Ended address := by
  intro n found
  rw [nthClient_congr clients]
  apply ended n
  unfold slotOfAddress at found ⊢
  rw [← clients]
  exact found

theorem exists_of_not_ended (going : ¬ s.Ended address) :
    ∃ n, s.slotOfAddress address = some n ∧ ¬ (s.nthClient n).Over := by
  by_contra none
  apply going
  intro n found
  by_contra live
  exact none ⟨n, found, live⟩

end Store

namespace Gateway

variable {g between after last : Gateway} {address other : DeviceAddress} {n : Nat} {message : SnMessage}

/-- A DISCONNECT without duration has been sent to the address in the running step. -/
def Told (g : Gateway) (address : DeviceAddress) : Prop := (address, SnMessage.disconnect) ∈ g.sent

instance : Decidable (g.Told address) := inferInstanceAs (Decidable (_ ∈ _))

def Spares (g after : Gateway) : Prop := ∀ address, after.Told address → g.Told address

/-- Nobody else has been told, unless it is the sender and its session is over. -/
def Dismisses (g : Gateway) (address : DeviceAddress) (after : Gateway) : Prop :=
  ∀ other, after.Told other → g.Told other ∨ other = address ∧ after.store.Ended address

section Sending

theorem Spares.trans (first : g.Spares after) (second : after.Spares last) : g.Spares last :=
  fun address told => first address (second address told)

theorem Spares.dismisses (spares : g.Spares after) : g.Dismisses address after :=
  fun other told => .inl (spares other told)

theorem spares_silent (silent : after.sent = g.sent) : g.Spares after := by
  intro address told
  unfold Told at told ⊢
  rw [← silent]
  exact told

theorem told_send (told : (g.send address message).Told other) : g.Told other ∨ other = address ∧ message = .disconnect := by
  unfold send at told
  split at told
  · unfold Told at told
    simp only [List.mem_append, List.mem_singleton, Prod.mk.injEq] at told
    rcases told with before | ⟨same, disconnect⟩
    · exact .inl before
    · exact .inr ⟨same, disconnect.symm⟩
  · exact .inl told

theorem spares_send (silent : between.sent = g.sent) (plain : message ≠ .disconnect) :
    g.Spares (between.send address message) := by
  intro other told
  rcases told_send told with before | ⟨_, disconnect⟩
  · exact spares_silent silent other before
  · exact absurd disconnect plain

theorem dismisses_send (silent : between.sent = g.sent) (ended : between.store.Ended address) :
    g.Dismisses address (between.send address message) := by
  intro other told
  rcases told_send told with before | ⟨same, _⟩
  · exact .inl (spares_silent silent other before)
  · right
    refine ⟨same, ?_⟩
    rw [store_send]
    exact ended

end Sending

section Sessions

variable {clientId : CString} {duration : UInt16} {will clean : Bool}

theorem AddsClient.sent {result : CoreResult} (adds : AddsClient g clientId duration clean address result after) :
    after.sent = g.sent := by
  cases adds with
  | long _ _ silent => exact silent
  | cleaned _ _ _ _ removal _ => exact removal.called.sent
  | _ => rfl

theorem Connection.spares (connection : Connection g clientId duration will clean address after) : g.Spares after := by
  cases connection with
  | rejected adds _ _ => exact spares_send adds.sent nofun
  | accepted adds _ => exact spares_send adds.sent nofun
  | asked adds _ _ silent => exact spares_send (silent.trans adds.sent) nofun

theorem addWillPart_sent {awaited : MessageType} {change : Persistent → Persistent} :
    (g.addWillPart address awaited change).2.sent = g.sent := by
  unfold addWillPart
  split
  · rfl
  · simp only
    split <;> rfl

theorem handleWilltopic_spares {willTopic : CString} {retain : Bool} {qos : UInt8} :
    g.Spares (g.handleWilltopic address willTopic retain qos) := by
  have added : (g.addWillTopic address willTopic retain qos).2.sent = g.sent := addWillPart_sent
  unfold handleWilltopic
  split
  · exact spares_silent rfl
  · generalize g.addWillTopic address willTopic retain qos = outcome at added ⊢
    obtain ⟨result, between⟩ := outcome
    cases result with
    | success =>
      have awaited : (between.awaitMessage address .willmsg).2.sent = g.sent := added
      simp only
      generalize between.awaitMessage address .willmsg = reply at awaited ⊢
      obtain ⟨result, last⟩ := reply
      cases result with
      | success => exact spares_send awaited nofun
      | _ => exact spares_send awaited nofun
    | _ => exact spares_send added nofun

theorem handleWillmsg_spares {willMsg : List UInt8} : g.Spares (g.handleWillmsg address willMsg) := by
  have added : (g.addWillMsg address willMsg).2.sent = g.sent := addWillPart_sent
  unfold handleWillmsg
  generalize g.addWillMsg address willMsg = outcome at added ⊢
  obtain ⟨result, between⟩ := outcome
  cases result with
  | success => exact spares_send added nofun
  | _ => exact spares_send added nofun

end Sessions

section Topics

variable {topicId newTopicId msgId : UInt16} {topicName : CString} {shortTopic : Bool} {qos : UInt8}

theorem rejection_negative {expected : List CoreResult} {result : UInt8}
    (negative : ∀ rejected ∈ expected, rejected.code < 0) : rejection expected result = none := by
  unfold rejection
  rw [List.find?_eq_none]
  intro rejected listed
  rw [CoreResult.is_negative (negative rejected listed)]
  exact Bool.false_ne_true

theorem ite_answer {condition : Prop} [Decidable condition] {first second answer : CoreResult} (left : first ≠ answer)
    (right : second ≠ answer) : (if condition then first else second) ≠ answer := by
  split
  · exact left
  · exact right

theorem deleteSubscriptionOf_answer {topicId : UInt16} {topicName : Option CString} :
    (deleteSubscriptionOf pahoMqttMessageHandler g topicId topicName).1 ≠ .clientNonexistence := by
  unfold deleteSubscriptionOf
  simp only
  rw [rejection_negative (by decide)]
  simp only
  exact ite_answer (by decide) (by decide)

theorem subscribeTo_answer {granted : UInt8} :
    (subscribeTo pahoMqttMessageHandler g topicName topicId granted).1 ≠ .clientNonexistence := by
  unfold subscribeTo
  simp only
  generalize (if g.persistent.isSubscribed (some topicName) = true then g else g.update fun p =>
    (p.addSubscription topicName topicId granted).incrementGlobalSubscriptionCount (some topicName)) = counted
  rw [rejection_negative (by decide)]
  simp only
  split
  · split
    · exact ite_answer (by nofun) (by nofun)
    · nofun
  · exact ite_answer (by nofun) (by nofun)

theorem addSubscription_answer :
    (addSubscription pahoMqttMessageHandler g address topicId shortTopic qos newTopicId).1 ≠ .clientNonexistence := by
  unfold addSubscription
  split
  · nofun
  · simp only
    split
    · nofun
    · split
      · nofun
      · exact subscribeTo_answer

theorem registerTopic_idle (idle : g.persistent.Idle) : (g.registerTopic address topicName newTopicId).2.2.persistent.Idle := by
  cases online : g.persistent.isMqttOnline with
  | false =>
    rw [registerTopic_offline online]
    exact idle
  | true =>
    cases selection : g.store.slotOfAddress address with
    | none =>
      rw [registerTopic_missing idle online selection]
      exact idle_settled
    | some n =>
      by_cases long : 255 < topicName.length
      · rw [registerTopic_long idle online selection long]
        exact idle_settled
      · rw [registerTopic_found idle online selection (by omega)]
        exact idle_settled

theorem registerTopic_sent : (g.registerTopic address topicName newTopicId).2.2.sent = g.sent := by
  unfold registerTopic
  split
  · rfl
  · simp only
    split_ifs <;> rfl

theorem answerSubscribe_spares {outcome : CoreResult × UInt16 × UInt8 × Gateway} (silent : outcome.2.2.2.sent = g.sent)
    (known : outcome.1 ≠ .clientNonexistence) : g.Spares (answerSubscribe address msgId outcome) := by
  obtain ⟨result, id, granted, between⟩ := outcome
  cases result with
  | clientNonexistence => exact absurd rfl known
  | _ => exact spares_send silent nofun

theorem answerUnsubscribe_spares {outcome : CoreResult × Gateway} (silent : outcome.2.sent = g.sent)
    (known : outcome.1 ≠ .clientNonexistence) : g.Spares (answerUnsubscribe address msgId outcome) := by
  obtain ⟨result, between⟩ := outcome
  cases result with
  | clientNonexistence => exact absurd rfl known
  | _ => exact spares_send silent nofun

theorem handleRegister_spares : g.Spares (g.handleRegister address msgId topicName) := by
  have silent : (g.registerTopic address topicName 0).2.2.sent = g.sent := registerTopic_sent
  unfold handleRegister
  generalize g.registerTopic address topicName 0 = outcome at silent ⊢
  obtain ⟨result, id, between⟩ := outcome
  cases result with
  | _ => exact spares_send silent nofun

theorem handleSubscribe_spares (idle : g.persistent.Idle) :
    g.Spares (handleSubscribe pahoMqttMessageHandler g address topicId msgId shortTopic qos) := by
  apply answerSubscribe_spares
  · exact (addSubscription_unanswered idle topicId 0 shortTopic qos).sent
  · exact addSubscription_answer

theorem handleSubscribeByName_spares (idle : g.persistent.Idle) :
    g.Spares (handleSubscribeByName pahoMqttMessageHandler g address topicName msgId qos) := by
  have silent : (g.registerTopic address topicName 0).2.2.sent = g.sent := registerTopic_sent
  have settled : (g.registerTopic address topicName 0).2.2.persistent.Idle := registerTopic_idle idle
  unfold handleSubscribeByName
  generalize g.registerTopic address topicName 0 = outcome at silent settled ⊢
  obtain ⟨result, id, between⟩ := outcome
  cases result with
  | success =>
    apply (spares_silent silent).trans
    apply answerSubscribe_spares
    · exact (addSubscription_unanswered settled id id true qos).sent
    · exact addSubscription_answer
  | _ => exact spares_send silent nofun

theorem handleUnsubscribe_spares (idle : g.persistent.Idle) :
    g.Spares (handleUnsubscribe pahoMqttMessageHandler g address topicId msgId shortTopic) := by
  apply answerUnsubscribe_spares
  · exact (deleteSubscription_unsubscription idle).unanswered.sent
  · exact deleteSubscriptionOf_answer

theorem handleUnsubscribeByName_spares (idle : g.persistent.Idle) :
    g.Spares (handleUnsubscribeByName pahoMqttMessageHandler g address topicName msgId) := by
  apply answerUnsubscribe_spares
  · exact (deleteSubscriptionByName_unsubscription idle).unanswered.sent
  · exact deleteSubscriptionOf_answer

end Topics

end Gateway

end MqttSnGateway
