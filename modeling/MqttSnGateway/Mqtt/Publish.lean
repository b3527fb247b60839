import MqttSnGateway.Mqtt.Packet

namespace MqttSnGateway

open MQTTPacket

/-- What a `MQTTDeserialize_*` function returns, and what it delivers unless it breaks off before. -/
structure Deserialized (α : Type) where
  rc : Int
  fields : Option α
deriving DecidableEq

/-- What `MQTTDeserialize_publish` delivers; the packet id is set above QoS 0 only. -/
structure PublishFields where
  dup : Bool
  qos : Nat
  retained : Bool
  packetid : Option Nat
  topicName : MQTTString
  payload : List UInt8
  payloadlen : Int
deriving DecidableEq

structure AckFields where
  packettype : Nat
  dup : Bool
  packetid : Nat
deriving DecidableEq

namespace MQTTSerialize

def publishLength (qos : Nat) (topicName : MQTTString) (payloadlen : Nat) : Nat :=
  2 + topicName.strlen + payloadlen + if 0 < qos then 2 else 0

/-- `MQTTSerialize_publish`: the packet it writes into the buffer, unless the buffer is too short. -/
def publish (buflen : Nat) (dup : Bool) (qos : Nat) (retained : Bool) (packetid : UInt16) (topicName : MQTTString)
    (payload : List UInt8) : Option (List UInt8) :=
  let remLen := publishLength qos topicName payload.length
  if buflen < len remLen then none
  else
    let header : MQTTHeader := ⟨retained, qos, dup, MsgType.publish.code⟩
    some (header.byte :: encode remLen ++ writeMQTTString topicName ++
      (if 0 < qos then writeInt packetid.toNat else []) ++ payload)

def ack (buflen : Nat) (packettype : MsgType) (dup : Bool) (packetid : UInt16) : Option (List UInt8) :=
  if buflen < 4 then none
  else
    let header : MQTTHeader := ⟨false, if packettype = .pubrel then 1 else 0, dup, packettype.code⟩
    some (header.byte :: encode 2 ++ writeInt packetid.toNat)

end MQTTSerialize

namespace MQTTDeserialize

/-- `MQTTDeserialize_publish`, undefined where it reads outside the buffer. A topic name that does not fit into the
    packet makes it return the number of bytes of the remaining length. -/
def publish (buf : List UInt8) : Option (Deserialized PublishFields) :=
  match buf with
  | [] => none
  | first :: data =>
    let header := MQTTHeader.ofByte first
    if header.type ≠ MsgType.publish.code then some ⟨0, none⟩
    else
      let (rc, cursor) := decodeBuf data
      (readMQTTLenString cursor).bind fun (topicName, cursor) =>
        match topicName with
        | none => some ⟨rc, none⟩
        | some topicName =>
          if cursor.left < 0 then some ⟨rc, none⟩
          else
            let deliver (packetid : Option Nat) (cursor : Cursor) : Deserialized PublishFields :=
              ⟨1, some ⟨header.dup, header.qos, header.retain, packetid, topicName,
                cursor.data.take cursor.left.toNat, cursor.left⟩⟩
            if 0 < header.qos then
              (readInt cursor).map fun (packetid, cursor) => deliver (some packetid) cursor
            else some (deliver none cursor)

def ack (buf : List UInt8) : Option (Deserialized AckFields) :=
  match buf with
  | [] => none
  | first :: data =>
    let header := MQTTHeader.ofByte first
    let (rc, cursor) := decodeBuf data
    if cursor.left < 2 then some ⟨rc, none⟩
    else (readInt cursor).map fun (packetid, _) => ⟨1, some ⟨header.type, header.dup, packetid⟩⟩

end MQTTDeserialize

section RoundTrips

variable {buflen qos : Nat} {dup retained : Bool} {packetid : UInt16} {topicName : MQTTString}
  {payload packet : List UInt8} {type : MsgType}

theorem MQTTSerialize.publish_framed (single : topicName.Single) (level : qos < 4) (small : buflen < 268435456)
    (written : MQTTSerialize.publish buflen dup qos retained packetid topicName payload = some packet) :
    (∃ body, Framed ⟨retained, qos, dup, MsgType.publish.code⟩ body packet) ∧ packet.length ≤ buflen := by
  unfold MQTTSerialize.publish at written
  simp only at written
  split at written
  · cases written
  · rename_i fits
    cases written
    have name := single.length_bytes
    have length : (writeMQTTString topicName ++ ((if 0 < qos then writeInt packetid.toNat else []) ++ payload)).length =
        publishLength qos topicName payload.length := by
      unfold publishLength
      simp only [List.length_append, length_writeMQTTString]
      split_ifs <;> simp only [length_writeInt, List.length_nil] <;> omega
    refine Framed.of_fits level MsgType.publish.code_lt small fits length ?_
    simp only [List.cons_append, List.append_assoc]

/-- The topic name of a PUBLISH that fits into a buffer is short enough for its length field. -/
theorem MQTTSerialize.publish_named (small : buflen < 65536)
    (written : MQTTSerialize.publish buflen dup qos retained packetid topicName payload = some packet) :
    topicName.strlen < 65536 := by
  unfold MQTTSerialize.publish at written
  simp only at written
  split at written
  · cases written
  · rename_i fits
    obtain ⟨_, room⟩ := length_of_len fits (by omega)
    unfold publishLength at room
    omega

/-- A PUBLISH is read back as it was written, whatever stands behind it in the buffer. -/
theorem publish_roundTrip_packet (behind : List UInt8) (single : topicName.Single) (named : topicName.strlen < 65536) (level : qos < 4)
    (small : buflen < 268435456)
    (written : MQTTSerialize.publish buflen dup qos retained packetid topicName payload = some packet) :
    MQTTDeserialize.publish (packet ++ behind) = some ⟨1, some ⟨dup, qos, retained,
      if 0 < qos then some packetid.toNat else none, ⟨none, topicName.bytes⟩, payload, payload.length⟩⟩ := by
  unfold MQTTSerialize.publish at written
  simp only at written
  split at written
  · cases written
  · rename_i fits
    cases written
    have length := single.length_bytes
    have bound : MQTTSerialize.publishLength qos topicName payload.length < 268435456 := by
      unfold len at fits
      simp only at fits
      split_ifs at fits <;> omega
    unfold MQTTDeserialize.publish
    simp only [List.cons_append, List.append_assoc]
    rw [MQTTHeader.ofByte_byte level MsgType.publish.code_lt, decodeBuf_encode bound]
    simp only [ne_eq, not_true_eq_false, if_false]
    have inside : (2 + topicName.bytes.length : Nat) ≤ (MQTTSerialize.publishLength qos topicName payload.length : Int) := by
      unfold MQTTSerialize.publishLength
      omega
    rw [readMQTTLenString_writeMQTTString (by omega) inside]
    simp only [Option.bind_some]
    rw [if_neg (by omega)]
    unfold MQTTSerialize.publishLength
    by_cases numbered : 0 < qos
    · rw [if_pos numbered, if_pos numbered, if_pos numbered, readInt_writeInt packetid.toNat_lt, if_pos numbered]
      simp only [Option.map_some]
      have left : ((2 + topicName.strlen + payload.length + 2 : Nat) : Int) - (2 + topicName.bytes.length : Nat) - 2 =
          payload.length := by omega
      rw [left, Int.toNat_natCast, List.take_left' rfl]
    · rw [if_neg numbered, if_neg numbered, if_neg numbered, if_neg numbered]
      have left : ((2 + topicName.strlen + payload.length + 0 : Nat) : Int) - (2 + topicName.bytes.length : Nat) =
          payload.length := by omega
      rw [left, Int.toNat_natCast, List.nil_append, List.take_left' rfl]

theorem MQTTSerialize.ack_framed (written : MQTTSerialize.ack buflen type dup packetid = some packet) :
    (∃ body, Framed ⟨false, if type = .pubrel then 1 else 0, dup, type.code⟩ body packet) ∧ packet.length ≤ buflen := by
  unfold MQTTSerialize.ack at written
  split at written
  · cases written
  · cases written
    have level : (if type = .pubrel then 1 else 0) < 4 := by split <;> decide
    have short : (writeInt packetid.toNat).length < 268435456 := by
      rw [length_writeInt]
      decide
    refine ⟨⟨writeInt packetid.toNat, level, type.code_lt, short, rfl⟩, ?_⟩
    have length : (encode 2).length = 1 := rfl
    simp only [List.length_append, List.length_cons, length, length_writeInt]
    omega

theorem ack_roundTrip_packet (behind : List UInt8) (written : MQTTSerialize.ack buflen type dup packetid = some packet) :
    MQTTDeserialize.ack (packet ++ behind) = some ⟨1, some ⟨type.code, dup, packetid.toNat⟩⟩ := by
  unfold MQTTSerialize.ack at written
  split at written
  · cases written
  · cases written
    unfold MQTTDeserialize.ack
    simp only [List.cons_append, List.append_assoc]
    rw [MQTTHeader.ofByte_byte (by simp only; split <;> omega) type.code_lt, decodeBuf_encode (by decide)]
    simp only
    rw [if_neg (by decide), readInt_writeInt packetid.toNat_lt]
    rfl

end RoundTrips

end MqttSnGateway
