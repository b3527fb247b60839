import MqttSnGateway.Datagrams

namespace MqttSnGateway

open Persistent

section Queues

variable {pub after : List EntryPublish} {m : UInt16} {struck : Option Nat} {j : Nat}

def messageAt (pub : List EntryPublish) (j : Nat) : Option EntryPublish :=
  (pub[j]?).filter fun entry => !entry.isEmpty

/-- A place of the queue holds the QoS-1 message that was sent with a message id. -/
def SentAs (pub : List EntryPublish) (m : UInt16) (j : Nat) : Prop :=
  m ≠ 0 ∧ ∃ entry, messageAt pub j = some entry ∧ entry.qos = 1 ∧ entry.msgId = m

/-- An acknowledgement of message id `m` takes the message sent with it out of the queue and touches no
    other; where there is none it changes nothing. -/
structure Acknowledged (pub after : List EntryPublish) (m : UInt16) : Prop where
  taken : (∃ j, SentAs pub m j) →
    ∃ j, SentAs pub m j ∧ messageAt after j = none ∧ ∀ i, i ≠ j → messageAt after i = messageAt pub i
  stray : (m = 0 ∨ ∀ j entry, messageAt pub j = some entry → entry.msgId ≠ m) →
    ∀ i, messageAt after i = messageAt pub i

theorem publishId_zeroHalfword_ne {entry : EntryPublish} {offset : Nat} (elsewhere : offset ≠ 264) :
    (entry.zeroHalfword offset).publishId = entry.publishId := by
  unfold EntryPublish.zeroHalfword
  repeat' split
  all_goals rfl

theorem isEmpty_zeroHalfword {entry : EntryPublish} (offset : Nat) (filled : entry.isEmpty = false) :
    (entry.zeroHalfword offset).isEmpty = true ↔ offset = 264 := by
  constructor
  · intro emptied
    by_contra elsewhere
    unfold EntryPublish.isEmpty at filled emptied
    rw [publishId_zeroHalfword_ne elsewhere, filled] at emptied
    cases emptied
  · rintro rfl
    rfl

end Queues

namespace Store

end Store

namespace Gateway

variable {g : Gateway} {n : Nat} {mqtt : MqttMessageHandler} {returnCode : UInt8} {beyond : List UInt8}

end Gateway

namespace Scenario

end Scenario

end MqttSnGateway
