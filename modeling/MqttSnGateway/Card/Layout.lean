import MqttSnGateway.Lib.BinaryFile
import MqttSnGateway.Datagrams
import MqttSnGateway.Wire

namespace MqttSnGateway

open StructLayout Wire

/-- `uint32_t`, in little endian and aligned to four bytes. -/
def Wire.word (w : UInt32) : Member := ⟨4, [w.toUInt8, (w >>> 8).toUInt8, (w >>> 16).toUInt8, (w >>> 24).toUInt8]⟩

def wordAt (memory : List UInt8) (offset : Nat) : UInt32 :=
  (byteAt memory offset).toUInt32 + (byteAt memory (offset + 1)).toUInt32 * 256 +
    (byteAt memory (offset + 2)).toUInt32 * 65536 + (byteAt memory (offset + 3)).toUInt32 * 16777216

def Wire.bool (b : Bool) : Member := byte (if b then 1 else 0)

/-- A member of a struct under `#pragma pack(1)`. -/
def Wire.packed (member : Member) : Member := { member with align := 1 }

def DeviceAddress.bytes (address : DeviceAddress) : List UInt8 :=
  [address.b0, address.b1, address.b2, address.b3, address.b4, address.b5]

def DeviceAddress.at (memory : List UInt8) (offset : Nat) : DeviceAddress :=
  ⟨byteAt memory offset, byteAt memory (offset + 1), byteAt memory (offset + 2), byteAt memory (offset + 3),
    byteAt memory (offset + 4), byteAt memory (offset + 5)⟩

def ClientStatus.code : ClientStatus → UInt8
  | .empty => 0
  | .active => 1
  | .asleep => 2
  | .awake => 3
  | .disconnected => 4
  | .lost => 5

/-- A byte that is no enumerator is never written. -/
def ClientStatus.ofCode (code : UInt8) : ClientStatus :=
  match code.toNat with
  | 0 => .empty
  | 1 => .active
  | 2 => .asleep
  | 3 => .awake
  | 4 => .disconnected
  | _ => .lost

def MessageType.code : MessageType → UInt8
  | .advertise => 0x00
  | .searchgw => 0x01
  | .gwinfo => 0x02
  | .connect => 0x04
  | .connack => 0x05
  | .willtopicreq => 0x06
  | .willtopic => 0x07
  | .willmsgreq => 0x08
  | .willmsg => 0x09
  | .register => 0x0a
  | .regack => 0x0b
  | .publish => 0x0c
  | .puback => 0x0d
  | .pubcomp => 0x0e
  | .pubrec => 0x0f
  | .pubrel => 0x10
  | .subscribe => 0x12
  | .suback => 0x13
  | .unsubscribe => 0x14
  | .unsuback => 0x15
  | .pingreq => 0x16
  | .pingresp => 0x17
  | .disconnect => 0x18
  | .willtopicupd => 0x1a
  | .willtopicresp => 0x1b
  | .willmsgupd => 0x1c
  | .willmsgresp => 0x1d

def MessageType.ofCode (code : UInt8) : MessageType := (MessageType.ofCode? code).getD .pingreq

@[simp] theorem ClientStatus.ofCode_code (status : ClientStatus) : ofCode status.code = status := by
  cases status <;> rfl

@[simp] theorem MessageType.ofCode_code (type : MessageType) : ofCode type.code = type := by
  cases type <;> rfl

section Entries

def EntryClient.members (entry : EntryClient) : List Member :=
  [array 24 entry.clientId.bytes 0, array 9 entry.fileNumber.bytes 0, ⟨1, entry.clientAddress.bytes⟩,
    byte entry.clientStatus.code, packed (word entry.duration), packed (word entry.timeout),
    packed (Wire.halfword entry.awaitMessageId), byte entry.awaitMessage.code]

def EntryClient.ofMemory (memory : List UInt8) : EntryClient where
  clientId := stringAt memory 0
  fileNumber := stringAt memory 24
  clientAddress := .at memory 33
  clientStatus := .ofCode (byteAt memory 39)
  duration := wordAt memory 40
  timeout := wordAt memory 44
  awaitMessageId := halfwordAt memory 48
  awaitMessage := .ofCode (byteAt memory 50)

def EntryMqttSubscription.members (entry : EntryMqttSubscription) : List Member :=
  [word entry.clientSubscriptionCount, array 255 entry.topicName.bytes 0]

def EntryMqttSubscription.ofMemory (memory : List UInt8) : EntryMqttSubscription where
  clientSubscriptionCount := wordAt memory 0
  topicName := stringAt memory 4

def EntrySubscription.members (entry : EntrySubscription) : List Member :=
  [Wire.halfword entry.topicId, byte entry.qos, array 255 entry.topicName.bytes 0]

def EntrySubscription.ofMemory (memory : List UInt8) : EntrySubscription where
  topicId := halfwordAt memory 0
  qos := byteAt memory 2
  topicName := stringAt memory 3

def EntryRegistration.members (entry : EntryRegistration) : List Member :=
  [Wire.halfword entry.topicId, array 255 entry.topicName.bytes 0, bool entry.known]

def EntryRegistration.ofMemory (memory : List UInt8) : EntryRegistration where
  topicId := halfwordAt memory 0
  topicName := stringAt memory 2
  known := byteAt memory 257 != 0

def EntryPublish.members (entry : EntryPublish) : List Member :=
  [array 255 entry.msg 0, byte entry.msgLength, Wire.halfword entry.topicId, byte entry.qos, bool entry.retain,
    bool entry.dup, Wire.halfword entry.msgId, Wire.halfword entry.publishId, word entry.retransmitionTimeout]

def EntryPublish.ofMemory (memory : List UInt8) : EntryPublish where
  msg := bytesAt memory 0 255
  msgLength := byteAt memory 255
  topicId := halfwordAt memory 256
  qos := byteAt memory 258
  retain := byteAt memory 259 != 0
  dup := byteAt memory 260 != 0
  msgId := halfwordAt memory 262
  publishId := halfwordAt memory 264
  retransmitionTimeout := wordAt memory 268

def EntryWill.members (entry : EntryWill) : List Member :=
  [array 255 entry.willtopic.bytes 0, array 255 entry.willmsg 0, byte entry.willmsgLength, byte entry.qos,
    bool entry.retain]

def EntryWill.ofMemory (memory : List UInt8) : EntryWill where
  willtopic := stringAt memory 0
  willmsg := bytesAt memory 255 255
  willmsgLength := byteAt memory 510
  qos := byteAt memory 511
  retain := byteAt memory 512 != 0

end Entries

section Objects

variable {n k : Nat} {front rest written : List UInt8} {garbage : UInt8}

@[simp] theorem length_array : (array n written garbage).bytes.length = n := by
  unfold array
  simp

@[simp] theorem byteAt_append (inside : front.length ≤ k) : byteAt (front ++ rest) k = byteAt rest (k - front.length) :=
  List.getD_append_right _ _ _ _ inside

@[simp] theorem halfwordAt_append (inside : front.length ≤ k) :
    halfwordAt (front ++ rest) k = halfwordAt rest (k - front.length) := by
  unfold halfwordAt
  rw [byteAt_append inside, byteAt_append (by omega), Nat.sub_add_comm inside]

@[simp] theorem wordAt_append (inside : front.length ≤ k) : wordAt (front ++ rest) k = wordAt rest (k - front.length) := by
  unfold wordAt
  rw [byteAt_append inside, byteAt_append (by omega), byteAt_append (by omega), byteAt_append (by omega),
    Nat.sub_add_comm inside, Nat.sub_add_comm inside, Nat.sub_add_comm inside]

@[simp] theorem stringAt_append (inside : front.length ≤ k) : stringAt (front ++ rest) k = stringAt rest (k - front.length) := by
  unfold stringAt
  rw [List.drop_append, List.drop_of_length_le inside, List.nil_append]

@[simp] theorem bytesAt_append (inside : front.length ≤ k) : bytesAt (front ++ rest) k n = bytesAt rest (k - front.length) n := by
  unfold bytesAt
  rw [List.drop_append, List.drop_of_length_le inside, List.nil_append]

theorem stringAt_array {s : CString} (fits : s.length < n) : stringAt ((array n s.bytes 0).bytes ++ rest) 0 = s := by
  obtain ⟨left, rfl⟩ : ∃ left, n = s.bytes.length + (left + 1) := ⟨n - s.length - 1, by unfold CString.length at *; omega⟩
  unfold array stringAt
  simp only [List.drop_zero]
  rw [List.take_length_add_append, List.take_replicate, Nat.min_eq_left (by omega), List.replicate_succ,
    List.append_assoc, List.cons_append]
  exact CString.ofMemory_terminated _ _

@[simp] theorem bytesAt_array : bytesAt ((array n written garbage).bytes ++ rest) 0 n = (array n written garbage).bytes := by
  unfold bytesAt
  exact List.take_left' length_array

@[simp] theorem wordAt_word {w : UInt32} : wordAt ((word w).bytes ++ rest) 0 = w := by
  unfold word wordAt byteAt
  apply UInt32.toNat_inj.mp
  have bound := w.toNat_lt
  simp
  omega

@[simp] theorem halfwordAt_halfword {w : UInt16} : halfwordAt ((Wire.halfword w).bytes ++ rest) 0 = w := halfword_bytes w

@[simp] theorem byteAt_byte {b : UInt8} : byteAt ((byte b).bytes ++ rest) 0 = b := rfl

@[simp] theorem at_bytes {address : DeviceAddress} : DeviceAddress.at (address.bytes ++ rest) 0 = address := rfl

@[simp] theorem at_append (inside : front.length ≤ k) :
    DeviceAddress.at (front ++ rest) k = DeviceAddress.at rest (k - front.length) := by
  unfold DeviceAddress.at
  rw [byteAt_append inside, byteAt_append (by omega), byteAt_append (by omega), byteAt_append (by omega),
    byteAt_append (by omega), byteAt_append (by omega), Nat.sub_add_comm inside, Nat.sub_add_comm inside,
    Nat.sub_add_comm inside, Nat.sub_add_comm inside, Nat.sub_add_comm inside]

@[simp] theorem byteAt_bool {b : Bool} : (byteAt ((bool b).bytes ++ rest) 0 != 0) = b := by
  cases b <;> rfl

@[simp] theorem length_byte {b : UInt8} : (byte b).bytes.length = 1 := by
  simp only [byte, List.length_cons, List.length_nil]

@[simp] theorem length_bool {b : Bool} : (Wire.bool b).bytes.length = 1 := by
  simp only [Wire.bool, byte, List.length_cons, List.length_nil]

@[simp] theorem length_halfword {w : UInt16} : (Wire.halfword w).bytes.length = 2 := by
  simp only [Wire.halfword, List.length_cons, List.length_nil]

@[simp] theorem length_word {w : UInt32} : (word w).bytes.length = 4 := by
  simp only [word, List.length_cons, List.length_nil]

@[simp] theorem length_packed {member : Member} : (packed member).bytes.length = member.bytes.length := rfl

@[simp] theorem length_address {address : DeviceAddress} : address.bytes.length = 6 := by
  simp only [DeviceAddress.bytes, List.length_cons, List.length_nil]

@[simp] theorem align_array : (array n written garbage).align = 1 := rfl

@[simp] theorem align_byte {b : UInt8} : (byte b).align = 1 := rfl

@[simp] theorem align_bool {b : Bool} : (Wire.bool b).align = 1 := rfl

@[simp] theorem align_halfword {w : UInt16} : (Wire.halfword w).align = 2 := rfl

@[simp] theorem align_word {w : UInt32} : (word w).align = 4 := rfl

@[simp] theorem align_packed {member : Member} : (packed member).align = 1 := rfl

theorem array_array {written : List UInt8} : array n (array n written 0).bytes 0 = array n written 0 := by
  have whole : ((array n written 0).bytes ++ List.replicate n 0).take n = (array n written 0).bytes :=
    List.take_left' length_array
  unfold array at *
  rw [whole]

theorem array_set {written : List UInt8} :
    (array n (written.set k 0) 0).bytes = (array n written 0).bytes.set k 0 := by
  show (written.set k 0 ++ List.replicate n 0).take n = ((written ++ List.replicate n 0).take n).set k 0
  rw [← List.take_set, List.set_append]
  split
  · rfl
  · rename_i outside
    rw [List.set_eq_of_length_le (by omega), List.set_replicate_self]

theorem toUInt8_cleared {w mask n : UInt32} (clear : ∀ i < 8, mask.toBitVec.getLsbD ((n.toBitVec % 32#32).toNat + i) = false) :
    ((w &&& mask) >>> n).toUInt8 = 0 := by
  apply UInt8.eq_of_toBitVec_eq
  ext i inside
  simp only [UInt32.toBitVec_toUInt8, UInt32.toBitVec_shiftRight, UInt32.toBitVec_and, BitVec.getElem_setWidth]
  simp
  exact fun _ => clear i inside

theorem toUInt8_kept {w mask n : UInt32} (set : ∀ i < 8, mask.toBitVec.getLsbD ((n.toBitVec % 32#32).toNat + i) = true) :
    ((w &&& mask) >>> n).toUInt8 = (w >>> n).toUInt8 := by
  apply UInt8.eq_of_toBitVec_eq
  ext i inside
  simp
  exact fun _ => set i inside

theorem word_high {w : UInt32} : (word (w &&& 0xffff0000)).bytes = ((word w).bytes.set 0 0).set 1 0 := by
  have low : (w &&& 0xffff0000).toUInt8 = 0 := by
    rw [← UInt32.shiftRight_zero (a := w &&& 0xffff0000)]
    exact toUInt8_cleared (by decide)
  have next : ((w &&& 0xffff0000) >>> 8).toUInt8 = 0 := toUInt8_cleared (by decide)
  unfold word
  simp only
  rw [low, next, toUInt8_kept (by decide), toUInt8_kept (by decide)]
  rfl

theorem word_low {w : UInt32} : (word (w &&& 0x0000ffff)).bytes = ((word w).bytes.set 2 0).set 3 0 := by
  have high : ((w &&& 0x0000ffff) >>> 16).toUInt8 = 0 := toUInt8_cleared (by decide)
  have highest : ((w &&& 0x0000ffff) >>> 24).toUInt8 = 0 := toUInt8_cleared (by decide)
  have low : (w &&& 0x0000ffff).toUInt8 = w.toUInt8 := by
    rw [← UInt32.shiftRight_zero (a := w &&& 0xffff), ← UInt32.shiftRight_zero (a := w)]
    exact toUInt8_kept (by decide)
  unfold word
  simp only
  rw [high, highest, low, toUInt8_kept (by decide)]
  rfl

end Objects

section Codecs

theorem EntryClient.object_members (entry : EntryClient) :
    object 0 entry.members = (array 24 entry.clientId.bytes 0).bytes ++ ((array 9 entry.fileNumber.bytes 0).bytes ++
      (entry.clientAddress.bytes ++ ((byte entry.clientStatus.code).bytes ++ ((word entry.duration).bytes ++
      ((word entry.timeout).bytes ++ ((Wire.halfword entry.awaitMessageId).bytes ++
      ((byte entry.awaitMessage.code).bytes ++ []))))))) := by
  simp [object, place, EntryClient.members, gap, alignment, shape, packed]

theorem EntryMqttSubscription.object_members (entry : EntryMqttSubscription) :
    object 0 entry.members = (word entry.clientSubscriptionCount).bytes ++
      ((array 255 entry.topicName.bytes 0).bytes ++ [0]) := by
  simp [object, place, EntryMqttSubscription.members, gap, alignment, shape]

theorem EntrySubscription.object_members (entry : EntrySubscription) :
    object 0 entry.members = (Wire.halfword entry.topicId).bytes ++ ((byte entry.qos).bytes ++
      ((array 255 entry.topicName.bytes 0).bytes ++ [])) := by
  simp [object, place, EntrySubscription.members, gap, alignment, shape]

theorem EntryRegistration.object_members (entry : EntryRegistration) :
    object 0 entry.members = (Wire.halfword entry.topicId).bytes ++ ((array 255 entry.topicName.bytes 0).bytes ++
      ((Wire.bool entry.known).bytes ++ [])) := by
  simp [object, place, EntryRegistration.members, gap, alignment, shape]

theorem EntryPublish.object_members (entry : EntryPublish) :
    object 0 entry.members = (array 255 entry.msg 0).bytes ++ ((byte entry.msgLength).bytes ++
      ((Wire.halfword entry.topicId).bytes ++ ((byte entry.qos).bytes ++ ((Wire.bool entry.retain).bytes ++
      ((Wire.bool entry.dup).bytes ++ ((array 1 [] 0).bytes ++ ((Wire.halfword entry.msgId).bytes ++
      ((Wire.halfword entry.publishId).bytes ++ ((array 2 [] 0).bytes ++ ((word entry.retransmitionTimeout).bytes ++ [])))))))))) := by
  simp [object, place, EntryPublish.members, gap, alignment, shape]
  rfl

theorem EntryWill.object_members (entry : EntryWill) :
    object 0 entry.members = (array 255 entry.willtopic.bytes 0).bytes ++ ((array 255 entry.willmsg 0).bytes ++
      ((byte entry.willmsgLength).bytes ++ ((byte entry.qos).bytes ++ ((Wire.bool entry.retain).bytes ++ [])))) := by
  simp [object, place, EntryWill.members, gap, alignment, shape]

open BinaryFile

/-- `sizeof(entry_client)` is 51. -/
def EntryClient.codec : Codec EntryClient where
  size := 51
  positive := by decide
  encode entry := object 0 entry.members
  length_encode entry := by simp [object_members]
  zero := .zero
  encode_zero := by decide +kernel

def EntryMqttSubscription.codec : Codec EntryMqttSubscription where
  size := 260
  positive := by decide
  encode entry := object 0 entry.members
  length_encode entry := by simp [object_members]
  zero := .zero
  encode_zero := by decide +kernel

def EntrySubscription.codec : Codec EntrySubscription where
  size := 258
  positive := by decide
  encode entry := object 0 entry.members
  length_encode entry := by simp [object_members]
  zero := .zero
  encode_zero := by decide +kernel

def EntryRegistration.codec : Codec EntryRegistration where
  size := 258
  positive := by decide
  encode entry := object 0 entry.members
  length_encode entry := by simp [object_members]
  zero := .zero
  encode_zero := by decide +kernel

def EntryPublish.codec : Codec EntryPublish where
  size := EntryPublish.size
  positive := by decide
  encode entry := object 0 entry.members
  length_encode entry := by simp [object_members, EntryPublish.size]
  zero := .zero
  encode_zero := by decide +kernel

def EntryWill.codec : Codec EntryWill where
  size := 513
  positive := by decide
  encode entry := object 0 entry.members
  length_encode entry := by simp [object_members]
  zero := .zero
  encode_zero := by decide +kernel

end Codecs

section Reading

/-- What stands in front of the ending of a file name. -/
def IsFileNumber (number : CString) : Prop := number = .empty ∨ ∃ slot < 65536, number = fileNumber slot

theorem IsFileNumber.length_lt {number : CString} (numbered : IsFileNumber number) : number.length < 9 := by
  rcases numbered with rfl | ⟨slot, _, rfl⟩
  · decide
  · have length : (fileNumber slot).length = 8 := CString.length_digits 8 slot
    omega

/-- A registry entry as it can stand on the card. -/
structure EntryClient.Stored (entry : EntryClient) : Prop where
  named : entry.clientId.length < 24
  numbered : IsFileNumber entry.fileNumber

theorem EntryClient.stored_zero : EntryClient.zero.Stored := ⟨by decide, .inl rfl⟩

/-- A message fits into its array and has the length that is written. -/
structure EntryPublish.Stored (entry : EntryPublish) : Prop where
  fits : entry.msg.length ≤ 255
  covered : entry.msgLength.toNat ≤ entry.msg.length

structure EntryWill.Stored (entry : EntryWill) : Prop where
  named : entry.willtopic.length < 255
  fits : entry.willmsg.length ≤ 255
  covered : entry.willmsgLength.toNat ≤ entry.willmsg.length

theorem EntryClient.ofMemory_encode {entry : EntryClient} (stored : entry.Stored) : ofMemory (codec.encode entry) = entry := by
  show ofMemory (object 0 entry.members) = entry
  rw [object_members]
  unfold ofMemory
  simp [stringAt_array stored.named, stringAt_array stored.numbered.length_lt, -List.append_nil]

theorem EntryMqttSubscription.ofMemory_encode {entry : EntryMqttSubscription} (short : entry.topicName.length < 255) :
    ofMemory (codec.encode entry) = entry := by
  show ofMemory (object 0 entry.members) = entry
  rw [object_members]
  unfold ofMemory
  simp [stringAt_array short, -List.append_nil]

theorem EntrySubscription.ofMemory_encode {entry : EntrySubscription} (short : entry.topicName.length < 255) :
    ofMemory (codec.encode entry) = entry := by
  show ofMemory (object 0 entry.members) = entry
  rw [object_members]
  unfold ofMemory
  simp [stringAt_array short, -List.append_nil]

theorem EntryRegistration.ofMemory_encode {entry : EntryRegistration} (short : entry.topicName.length < 255) :
    ofMemory (codec.encode entry) = entry := by
  show ofMemory (object 0 entry.members) = entry
  rw [object_members]
  unfold ofMemory
  simp [stringAt_array short, -List.append_nil]

theorem EntryPublish.ofMemory_encode (entry : EntryPublish) :
    ofMemory (codec.encode entry) = { entry with msg := (array 255 entry.msg 0).bytes } := by
  show ofMemory (object 0 entry.members) = _
  rw [object_members]
  unfold ofMemory
  simp [-List.append_nil]

theorem EntryWill.ofMemory_encode {entry : EntryWill} (short : entry.willtopic.length < 255) :
    ofMemory (codec.encode entry) = { entry with willmsg := (array 255 entry.willmsg 0).bytes } := by
  show ofMemory (object 0 entry.members) = _
  rw [object_members]
  unfold ofMemory
  simp [stringAt_array short, -List.append_nil]

end Reading

end MqttSnGateway
