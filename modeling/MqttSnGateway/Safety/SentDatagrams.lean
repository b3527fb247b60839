import MqttSnGateway.Wire
import MqttSnGateway.Datagrams

namespace MqttSnGateway

open StructLayout Wire

namespace Wire

variable {garbage : UInt8}

theorem length_array {size : Nat} {written : List UInt8} : (array size written garbage).bytes.length = size := by
  unfold array
  rw [List.length_take, List.length_append, List.length_replicate]
  omega

end Wire

namespace SnMessage

variable {abi : Abi} {garbage : UInt8} {message : SnMessage}

/-- Alignments and sizes of the members; the content of a message does not change them. -/
def structShape : SnMessage → List (Nat × Nat)
  | .connack _ => [(1, 1), (1, 1), (1, 1)]
  | .willtopicreq | .willmsgreq | .pingresp | .disconnect => [(1, 1), (1, 1)]
  | .regack .. | .puback .. => [(1, 1), (1, 1), (2, 2), (2, 2), (1, 1)]
  | .register .. => [(1, 1), (1, 1), (2, 2), (2, 2), (1, 249)]
  | .publish .. => [(1, 1), (1, 1), (1, 1), (2, 2), (2, 2), (1, 248)]
  | .pubrec _ | .unsuback _ | .disconnectDuration _ => [(1, 1), (1, 1), (2, 2)]
  | .suback .. => [(1, 1), (1, 1), (1, 1), (2, 2), (2, 2), (1, 1)]

theorem shape_members : shape (message.members garbage) = message.structShape := by
  cases message with
  | register topicId msgId topicName =>
    simp only [members, shape, messageHeader, List.cons_append, List.nil_append, List.map_cons, List.map_nil, length_array]
    rfl
  | publish data msgId topicId shortTopic retain qos dup =>
    simp only [members, msgPublish, shape, messageHeader, List.cons_append, List.nil_append, List.map_cons, List.map_nil,
      length_array]
    rfl
  | _ => rfl

def structSize : SnMessage → Nat
  | .connack _ => 3
  | .willtopicreq | .willmsgreq | .pingresp | .disconnect => 2
  | .regack .. | .puback .. => 8
  | .register .. | .publish .. => 256
  | .pubrec _ | .unsuback _ | .disconnectDuration _ => 4
  | .suback .. => 10

theorem sizeOf_structShape : StructLayout.sizeOf message.structShape = message.structSize := by
  cases message <;> simp only [structShape, structSize] <;> decide

theorem length_object : (message.object garbage).length = message.structSize := by
  unfold object
  rw [StructLayout.length_object, shape_members, sizeOf_structShape]

def lengthField : SnMessage → UInt8
  | .connack _ => 3
  | .willtopicreq | .willmsgreq | .pingresp | .disconnect => 2
  | .regack .. | .puback .. => 7
  | .register _ _ topicName => UInt8.ofNat (6 + topicName.length + 1)
  | .publish data .. => 7 + UInt8.ofNat data.length
  | .pubrec _ | .unsuback _ | .disconnectDuration _ => 4
  | .suback .. => 8

theorem lengthByte_eq : message.lengthByte garbage = message.lengthField := by
  unfold lengthByte byteAt object
  cases message <;> exact getD_object

theorem toNat_publishLength {data : List UInt8} (fits : data.length ≤ 248) :
    (7 + UInt8.ofNat data.length).toNat = 7 + data.length := by
  rw [UInt8.toNat_add, UInt8.toNat_ofNat']
  change (7 + data.length % 256) % 256 = 7 + data.length
  omega

/-- As many bytes are passed on as the length byte says, at most 255, and all of the object. -/
def WellSized (abi : Abi) (garbage : UInt8) (message : SnMessage) : Prop :=
  message.bytesLen abi garbage = (message.lengthByte garbage).toNat ∧ message.bytesLen abi garbage ≤ 255 ∧
    message.bytesLen abi garbage ≤ (message.object garbage).length

/-- What the callers of the send functions can pass: a name of `get_topic_name` and a payload that fits. -/
def Sendable : SnMessage → Prop
  | .register _ _ topicName => topicName.length < 255
  | .publish data .. => data.length ≤ 248
  | _ => True

/-- The messages whose send functions pass on the length they wrote into the message. -/
def PassesLength : SnMessage → Prop
  | .register .. | .puback .. | .suback .. | .disconnectDuration _ => False
  | _ => True

theorem wellSized_iff (sendable : message.Sendable) : message.WellSized abi garbage ↔ message.PassesLength := by
  unfold WellSized
  cases message with
  | register topicId msgId topicName =>
    refine iff_of_false ?_ id
    rintro ⟨_, small, _⟩
    unfold bytesLen at small
    simp only [length_object, structSize] at small
    omega
  | publish data msgId topicId shortTopic retain qos dup =>
    unfold Sendable at sendable
    unfold bytesLen
    simp only [lengthByte_eq, lengthField, toNat_publishLength sendable, length_object, structSize]
    exact iff_of_true ⟨trivial, by omega, by omega⟩ trivial
  | _ =>
    unfold bytesLen
    simp only [lengthByte_eq, lengthField, length_object, structSize, PassesLength]
    decide

/-- The theorem at a SUBACK, whose struct has two bytes of padding. -/
theorem wellSized_iff_suback :
    (SnMessage.suback 0 1 1 ReturnCode.accepted).WellSized .lp64 0 ↔
      (SnMessage.suback 0 1 1 ReturnCode.accepted).PassesLength := wellSized_iff trivial

theorem suback_not_wellSized :
    ¬ ∀ (abi : Abi) (garbage : UInt8) (message : SnMessage), message.Sendable → message.WellSized abi garbage := by
  intro claim
  obtain ⟨same, _, _⟩ := claim .lp64 0 (.suback 0 1 1 ReturnCode.accepted) trivial
  revert same
  decide

end SnMessage

end MqttSnGateway
