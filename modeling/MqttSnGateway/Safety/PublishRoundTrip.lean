import MqttSnGateway.Safety.SentDatagrams

namespace MqttSnGateway

open StructLayout Wire

namespace Wire

variable {dup retain shortTopic : Bool} {qos : Int} {topicId msgId : UInt16} {data beyond : List UInt8} {garbage : UInt8}

def publishHeader (dup : Bool) (qos : Int) (retain shortTopic : Bool) (topicId msgId : UInt16) (length : UInt8) :
    List UInt8 :=
  [length, 0x0c, publishFlags dup qos retain shortTopic, 0] ++ Datagram.halfword topicId ++ Datagram.halfword msgId

theorem place_msgPublish :
    place 0 0 (msgPublish dup qos retain shortTopic topicId msgId data garbage) =
      publishHeader dup qos retain shortTopic topicId msgId (7 + UInt8.ofNat data.length) ++
        (data ++ List.replicate 248 garbage).take 248 := by
  unfold msgPublish messageHeader array
  generalize (data ++ List.replicate 248 garbage).take 248 = payload
  simp [place, gap, byte, Wire.halfword, publishHeader, Datagram.halfword]

theorem publishFlags_read (dup retain shortTopic : Bool) (level : qos = -1 ∨ qos = 0 ∨ qos = 1 ∨ qos = 2) :
    let flags := publishFlags dup qos retain shortTopic
    Flag.qos flags = qos ∧ Flag.any flags Flag.dup = dup ∧ Flag.any flags Flag.retain = retain ∧
      Flag.any flags Flag.topicShortName = shortTopic ∧ Flag.any flags 1 = !shortTopic := by
  rcases level with rfl | rfl | rfl | rfl <;> cases dup <;> cases retain <;> cases shortTopic <;> decide

end Wire

namespace Gateway

variable {dup retain shortTopic : Bool} {qos : Int} {topicId msgId : UInt16} {data beyond tail : List UInt8}
  {abi : Abi} {garbage : UInt8}

/-- The length byte counts seven header bytes where there are eight: the last byte of the payload is not sent. -/
theorem datagram_publish (level : qos = -1 ∨ qos = 0 ∨ qos = 1 ∨ qos = 2) (filled : 1 ≤ data.length)
    (fits : data.length ≤ 248) :
    (SnMessage.publish data msgId topicId shortTopic retain (UInt8.ofInt qos) dup).datagram abi garbage =
      publishHeader dup qos retain shortTopic topicId msgId (7 + UInt8.ofNat data.length) ++ data.dropLast := by
  have length := SnMessage.toNat_publishLength fits
  have signed : (UInt8.ofInt qos).toInt8.toInt = qos := by
    rcases level with rfl | rfl | rfl | rfl <;> decide
  have header : (publishHeader dup qos retain shortTopic topicId msgId (7 + UInt8.ofNat data.length)).length = 8 := rfl
  have members : (SnMessage.publish data msgId topicId shortTopic retain (UInt8.ofInt qos) dup).members garbage =
      msgPublish dup qos retain shortTopic topicId msgId data garbage := by
    change msgPublish dup (UInt8.ofInt qos).toInt8.toInt retain shortTopic topicId msgId data garbage = _
    rw [signed]
  have extent : 7 + data.length ≤ extent 0 (shape (msgPublish dup qos retain shortTopic topicId msgId data garbage)) := by
    have placed : (place 0 0 (msgPublish dup qos retain shortTopic topicId msgId data garbage)).length =
        extent 0 (shape (msgPublish dup qos retain shortTopic topicId msgId data garbage)) := length_place
    rw [← placed, place_msgPublish, List.length_append, header, List.length_take,
      List.length_append, List.length_replicate]
    omega
  unfold SnMessage.datagram SnMessage.bytesLen
  simp only [SnMessage.lengthByte_eq, SnMessage.lengthField, length]
  unfold SnMessage.object
  rw [members]
  change (StructLayout.object 0 _).take _ = _
  rw [take_object extent, place_msgPublish, List.take_append, header, List.take_take, List.take_of_length_le (by omega),
    List.take_append_of_le_length (by omega), List.dropLast_eq_take]
  congr 2
  omega

/-- The parser reads a PUBLISH header back and takes for payload what follows it. -/
theorem publishInvocations_header (level : qos = -1 ∨ qos = 0 ∨ qos = 1 ∨ qos = 2)
    (unnumbered : qos = 0 ∨ qos = -1 → msgId = 0) (filled : 1 ≤ data.length) (fits : data.length ≤ 248) :
    publishInvocations
        (publishHeader dup qos retain shortTopic topicId msgId (7 + UInt8.ofNat data.length) ++ tail) =
      [⟨tail.take data.length, msgId, topicId, shortTopic, retain, qos, dup⟩] := by
  have length := SnMessage.toNat_publishLength fits
  generalize 7 + UInt8.ofNat data.length = lengthByte at length ⊢
  obtain ⟨qosRead, dupRead, retainRead, shortRead, bitRead⟩ :=
    publishFlags_read dup retain shortTopic level
  let memory := publishHeader dup qos retain shortTopic topicId msgId lengthByte ++ tail
  have first : byteAt memory 0 = lengthByte := rfl
  have type : byteAt memory 1 = 0x0c := rfl
  have flags : byteAt memory 2 = publishFlags dup qos retain shortTopic := rfl
  have topic : halfwordAt memory 4 = topicId := halfword_bytes topicId
  have message : halfwordAt memory 6 = msgId := halfword_bytes msgId
  have payload : bytesAt memory 8 (lengthByte.toNat - 7) = tail.take data.length := by
    rw [length, Nat.add_sub_cancel_left]
    rfl
  have long : 7 < lengthByte := by
    rw [UInt8.lt_iff_toNat_lt, length]
    change 7 < 7 + data.length
    omega
  have unread : ¬ ((decide (qos = 0) || decide (qos = -1)) && decide (msgId ≠ 0)) = true := by
    simpa using unnumbered
  change publishInvocations memory = _
  unfold publishInvocations
  simp only [first, type, flags, topic, message, payload, qosRead, dupRead, retainRead, shortRead, bitRead]
  rw [if_pos (by rw [decide_eq_true long]; rfl), if_neg unread, if_neg (by simp)]

theorem take_dropLast_append (filled : 1 ≤ data.length) :
    (data.dropLast ++ tail).take data.length = data ↔ data.getLast? = tail.head? := by
  rcases List.eq_nil_or_concat data with rfl | ⟨front, last, rfl⟩
  · cases filled
  · rw [List.concat_eq_append, List.dropLast_concat, List.getLast?_concat, List.length_append, List.take_length_add_append,
      List.append_right_inj]
    cases tail with
    | nil => simp
    | cons byte rest => simp [eq_comm]

/-- The bytes of the buffer that follow the datagram, and what lies behind the buffer. -/
def behindDatagram (data beyond : List UInt8) : List UInt8 := List.replicate (248 - data.length) 0 ++ beyond

/-- A PUBLISH arrives as it was sent exactly when its last byte is the one that stands behind the datagram. -/
theorem publish_roundTrip (level : qos = -1 ∨ qos = 0 ∨ qos = 1 ∨ qos = 2)
    (unnumbered : qos = 0 ∨ qos = -1 → msgId = 0) (filled : 1 ≤ data.length) (fits : data.length ≤ 248) :
    publishInvocations (receiveBuffer
        ((SnMessage.publish data msgId topicId shortTopic retain (UInt8.ofInt qos) dup).datagram abi garbage) beyond) =
      [⟨data, msgId, topicId, shortTopic, retain, qos, dup⟩] ↔ data.getLast? = (behindDatagram data beyond).head? := by
  have placed : receiveBuffer (publishHeader dup qos retain shortTopic topicId msgId (7 + UInt8.ofNat data.length) ++
      data.dropLast) beyond =
      publishHeader dup qos retain shortTopic topicId msgId (7 + UInt8.ofNat data.length) ++
        (data.dropLast ++ behindDatagram data beyond) := by
    have rest : 255 - (8 + data.dropLast.length) = 248 - data.length := by
      rw [List.length_dropLast]
      omega
    unfold receiveBuffer behindDatagram
    rw [List.length_append]
    change _ ++ List.replicate (255 - (8 + _)) 0 ++ _ = _
    rw [rest, List.append_assoc, List.append_assoc]
  rw [datagram_publish level filled fits, placed, publishInvocations_header level unnumbered filled fits,
    ← take_dropLast_append filled]
  simp

theorem publish_roundTrip_payload :
    publishInvocations (receiveBuffer
        ((SnMessage.publish [1, 2, 3, 0] 7 300 false true (UInt8.ofInt 1) true).datagram .lp64 0) []) =
      [⟨[1, 2, 3, 0], 7, 300, false, true, 1, true⟩] ↔ [1, 2, 3, 0].getLast? = (behindDatagram [1, 2, 3, 0] []).head? :=
  publish_roundTrip (by decide) (by decide) (by decide) (by decide)

theorem publish_loses_last_byte :
    ¬ ∀ (abi : Abi) (garbage : UInt8) (dup retain shortTopic : Bool) (qos : Int) (topicId msgId : UInt16)
      (data beyond : List UInt8), (qos = -1 ∨ qos = 0 ∨ qos = 1 ∨ qos = 2) → (qos = 0 ∨ qos = -1 → msgId = 0) →
      1 ≤ data.length → data.length ≤ 248 →
      publishInvocations (receiveBuffer
          ((SnMessage.publish data msgId topicId shortTopic retain (UInt8.ofInt qos) dup).datagram abi garbage) beyond) =
        [⟨data, msgId, topicId, shortTopic, retain, qos, dup⟩] := by
  intro claim
  have read := claim .lp64 0 false false true 0 1 0 [1] [] (by decide) (by decide) (by decide) (by decide)
  revert read
  decide +kernel

end Gateway

end MqttSnGateway
