import MqttSnGateway.ClientWire
import MqttSnGateway.Safety.SentDatagrams

namespace MqttSnGateway

open StructLayout Wire

namespace ClientMessage

/-- What the constructors are called with: QoS 0 to 2, and strings that fit. -/
def InRange : ClientMessage → Prop
  | .willtopic willTopic qos _ => 1 ≤ willTopic.length ∧ willTopic.length ≤ 251 ∧ (qos = 0 ∨ qos = 1 ∨ qos = 2)
  | .willmsg data => 1 ≤ data.length ∧ data.length ≤ 253
  | .subscribeShorttopic _ _ _ qos _ => qos = 0 ∨ qos = 1 ∨ qos = 2
  | .subscribeTopicname topicName _ qos _ =>
    1 ≤ topicName.length ∧ topicName.length ≤ 248 ∧ (qos = 0 ∨ qos = 1 ∨ qos = 2)

/-- The handler is called with what the constructor was called with. -/
def RoundTrips (abi : Abi) (storage : Nat → UInt8) (beyond : List UInt8) (message : ClientMessage) : Prop :=
  let memory := receiveBuffer (message.datagram abi storage) beyond
  match message with
  | .willtopic willTopic qos retain => Request.ofMemory memory = .willtopic willTopic retain (UInt8.ofInt qos)
  | .willmsg data => Request.ofMemory memory = .willmsg data
  | .subscribeShorttopic shortTopic topicId msgId qos dup =>
    Gateway.subscribeInvocation? memory = some (.byId topicId msgId shortTopic qos dup)
  | .subscribeTopicname topicName msgId qos dup =>
    Gateway.subscribeInvocation? memory = some (.byName topicName msgId qos dup)

/-- The high byte of a topic id is zero; the storage of a SUBSCRIBE by name happens to hold the name where the constructor
    clears nothing. -/
def Survives (abi : Abi) (storage : Nat → UInt8) : ClientMessage → Prop
  | .willtopic .. | .willmsg _ => False
  | .subscribeShorttopic _ topicId _ _ _ => topicId.toNat < 256
  | .subscribeTopicname topicName _ _ _ =>
    abi = .ilp32 ∧ (List.range topicName.length).map (fun i => storage (6 + i)) = topicName.bytes

section Reading

variable {abi : Abi} {storage : Nat → UInt8} {beyond rest : List UInt8} {shortTopic dup retain : Bool} {qos : UInt8} {topicId msgId : UInt16}
  {length flags : UInt8} {topicName willTopic : CString}

theorem subscribeFlags_read (level : qos = 0 ∨ qos = 1 ∨ qos = 2) (dup shortTopic : Bool) :
    let flags := subscribeFlags dup qos ||| if shortTopic then Flag.topicShortName else Flag.topicPredefinedId
    Flag.qos flags ≠ -1 ∧ UInt8.ofInt (Flag.qos flags) = qos ∧ Flag.any flags Flag.dup = dup ∧
      Gateway.shortTopicOrPredefined flags = true ∧ Flag.any flags Flag.topicShortName = shortTopic := by
  rcases level with rfl | rfl | rfl <;> cases dup <;> cases shortTopic <;> decide

theorem subscribeFlags_named (level : qos = 0 ∨ qos = 1 ∨ qos = 2) (dup : Bool) :
    let flags := subscribeFlags dup qos
    Flag.qos flags ≠ -1 ∧ UInt8.ofInt (Flag.qos flags) = qos ∧ Flag.any flags Flag.dup = dup ∧
      Gateway.shortTopicOrPredefined flags = false := by
  rcases level with rfl | rfl | rfl <;> cases dup <;> decide

theorem lowByte_eq : topicId.toUInt8.toUInt16 + (0 : UInt8).toUInt16 * 256 = topicId ↔ topicId.toNat < 256 := by
  rw [← UInt16.toNat_inj]
  simp only [UInt16.toNat_add, UInt16.toNat_mul, UInt8.toNat_toUInt16, UInt16.toNat_toUInt8]
  show (topicId.toNat % 256 + 0 * 256 % 65536) % 65536 = topicId.toNat ↔ _
  omega

/-- A SUBSCRIBE by id is cut in front of the high byte of the topic id. -/
theorem datagram_shorttopic :
    (ClientMessage.subscribeShorttopic shortTopic topicId msgId qos dup).datagram abi storage =
      [7, 0x12, subscribeFlags dup qos ||| if shortTopic then Flag.topicShortName else Flag.topicPredefinedId, 0] ++
        Datagram.halfword msgId ++ [topicId.toUInt8] := by
  unfold datagram object members StructLayout.object messageHeader
  simp [place, gap, byte, Wire.halfword, Datagram.halfword, byteAt]

theorem roundTrips_shorttopic (level : qos = 0 ∨ qos = 1 ∨ qos = 2) :
    (ClientMessage.subscribeShorttopic shortTopic topicId msgId qos dup).RoundTrips abi storage beyond ↔ topicId.toNat < 256 := by
  let flags := subscribeFlags dup qos ||| if shortTopic then Flag.topicShortName else Flag.topicPredefinedId
  let memory := [7, 0x12, flags, 0] ++ Datagram.halfword msgId ++ ([topicId.toUInt8] ++ 0 :: (List.replicate 247 0 ++ beyond))
  have received : receiveBuffer ((ClientMessage.subscribeShorttopic shortTopic topicId msgId qos dup).datagram abi storage) beyond =
      memory := by
    rw [datagram_shorttopic]
    rfl
  have first : byteAt memory 0 = 7 := rfl
  have type : MessageType.ofCode? (byteAt memory 1) = some .subscribe := rfl
  have flagsRead : byteAt memory 2 = flags := rfl
  have topic : halfwordAt memory 6 = topicId.toUInt8.toUInt16 + (0 : UInt8).toUInt16 * 256 := rfl
  have message : halfwordAt memory 4 = msgId := halfword_bytes msgId
  obtain ⟨positive, qosRead, dupRead, byId, shortRead⟩ := subscribeFlags_read level dup shortTopic
  have called : Gateway.subscribeInvocation? memory =
      some (.byId (topicId.toUInt8.toUInt16 + (0 : UInt8).toUInt16 * 256) msgId shortTopic qos dup) := by
    unfold Gateway.subscribeInvocation?
    simp only [first, type, flagsRead, topic, message]
    rw [if_pos (by decide), if_neg positive, if_pos (by rw [byId]; decide), qosRead, dupRead, shortRead]
  unfold RoundTrips
  simp only
  rw [received, called, ← lowByte_eq]
  simp

theorem length_unwritten {offset size : Nat} : (unwritten abi storage offset size).bytes.length = size := by
  unfold unwritten
  rw [List.length_map, List.length_range]

theorem take_unwritten {offset size fewer : Nat} (inside : fewer ≤ size) :
    (unwritten abi storage offset size).bytes.take fewer = (unwritten abi storage offset fewer).bytes := by
  unfold unwritten
  simp only
  rw [← List.map_take, List.take_range, Nat.min_eq_left inside]

theorem unwritten_cleared {offset size : Nat} (cleared : offset < abi.pointerSize) :
    ∃ after, (unwritten abi storage offset (size + 1)).bytes = 0 :: after := by
  unfold unwritten
  simp only
  rw [List.range_succ_eq_map, List.map_cons, Nat.add_zero, if_pos cleared]
  exact ⟨_, rfl⟩

theorem object_topicname {bytes : List UInt8} (size : bytes.length = 250) :
    StructLayout.object 0 (messageHeader length 0x12 ++ [byte flags, Wire.halfword msgId, ⟨1, bytes⟩]) =
      [length, 0x12, flags, 0] ++ Datagram.halfword msgId ++ bytes := by
  unfold StructLayout.object messageHeader
  simp [place, gap, byte, Wire.halfword, Datagram.halfword, shape, alignment, size]

theorem datagram_topicname (short : topicName.length ≤ 248) :
    (ClientMessage.subscribeTopicname topicName msgId qos dup).datagram abi storage =
      [UInt8.ofNat (5 + topicName.length + 1), 0x12, subscribeFlags dup qos, 0] ++ Datagram.halfword msgId ++
        (unwritten abi storage 6 topicName.length).bytes := by
  have counted : (UInt8.ofNat (5 + topicName.length + 1)).toNat = 6 + topicName.length := by
    rw [UInt8.toNat_ofNat']
    omega
  have built : (ClientMessage.subscribeTopicname topicName msgId qos dup).object abi storage =
      [UInt8.ofNat (5 + topicName.length + 1), 0x12, subscribeFlags dup qos, 0] ++ Datagram.halfword msgId ++
        (unwritten abi storage 6 250).bytes := by
    have size : (unwritten abi storage 6 250).bytes.length = 250 := length_unwritten
    exact object_topicname size
  unfold datagram
  rw [built]
  show List.take (UInt8.ofNat (5 + topicName.length + 1)).toNat _ = _
  have header : ([UInt8.ofNat (5 + topicName.length + 1), 0x12, subscribeFlags dup qos, 0] ++ Datagram.halfword msgId).length =
    6 := rfl
  rw [counted, List.take_append, header, List.take_of_length_le (by omega), Nat.add_sub_cancel_left,
    take_unwritten (by omega)]

theorem unwritten_eq_name (named : 1 ≤ topicName.length) :
    (unwritten abi storage 6 topicName.length).bytes = topicName.bytes ↔
      abi = .ilp32 ∧ (List.range topicName.length).map (fun i => storage (6 + i)) = topicName.bytes := by
  cases abi with
  | ilp32 =>
    have untouched : (unwritten .ilp32 storage 6 topicName.length).bytes =
        (List.range topicName.length).map fun i => storage (6 + i) := by
      unfold unwritten
      apply List.map_congr_left
      intro i _
      have beyond : ¬ 6 + i < Abi.pointerSize .ilp32 := by
        show ¬ 6 + i < 4
        omega
      exact if_neg beyond
    rw [untouched]
    simp
  | lp64 =>
    apply iff_of_false
    · intro same
      obtain ⟨size, counted⟩ := Nat.exists_eq_add_of_le' named
      rw [counted] at same
      obtain ⟨after, cleared⟩ : ∃ after, (unwritten .lp64 storage 6 (size + 1)).bytes = 0 :: after :=
        unwritten_cleared (by decide)
      apply topicName.nonzero
      rw [← same, cleared]
      exact List.mem_cons_self
    · exact fun both => by cases both.1

theorem roundTrips_topicname (named : 1 ≤ topicName.length) (short : topicName.length ≤ 248)
    (level : qos = 0 ∨ qos = 1 ∨ qos = 2) :
    (ClientMessage.subscribeTopicname topicName msgId qos dup).RoundTrips abi storage beyond ↔
      abi = .ilp32 ∧ (List.range topicName.length).map (fun i => storage (6 + i)) = topicName.bytes := by
  have counted : (UInt8.ofNat (5 + topicName.length + 1)).toNat = 6 + topicName.length := by
    rw [UInt8.toNat_ofNat']
    omega
  let stored := (unwritten abi storage 6 topicName.length).bytes
  let rest := List.replicate (248 - topicName.length) 0 ++ beyond
  let memory := [UInt8.ofNat (5 + topicName.length + 1), 0x12, subscribeFlags dup qos, 0] ++ Datagram.halfword msgId ++
    (stored ++ 0 :: rest)
  have received : receiveBuffer ((ClientMessage.subscribeTopicname topicName msgId qos dup).datagram abi storage) beyond =
      memory := by
    have zeros : 255 - (6 + topicName.length) = 248 - topicName.length + 1 := by omega
    rw [datagram_topicname short]
    unfold receiveBuffer
    rw [List.length_append, length_unwritten]
    show _ ++ List.replicate (255 - (6 + topicName.length)) 0 ++ beyond = _
    rw [zeros, List.replicate_succ, List.append_assoc, List.append_assoc]
    rfl
  have long : 6 < byteAt memory 0 := by
    show 6 < UInt8.ofNat (5 + topicName.length + 1)
    rw [UInt8.lt_iff_toNat_lt, counted]
    show 6 < 6 + topicName.length
    omega
  have type : MessageType.ofCode? (byteAt memory 1) = some .subscribe := rfl
  have flagsRead : byteAt memory 2 = subscribeFlags dup qos := rfl
  have message : halfwordAt memory 4 = msgId := halfword_bytes msgId
  have name : stringAt memory 6 = .ofMemory (stored ++ 0 :: rest) := rfl
  obtain ⟨positive, qosRead, dupRead, byName⟩ := subscribeFlags_named level dup
  have longer : 3 < byteAt memory 0 := UInt8.lt_trans (by decide) long
  have called : Gateway.subscribeInvocation? memory = some (.byName (.ofMemory (stored ++ 0 :: rest)) msgId qos dup) := by
    unfold Gateway.subscribeInvocation?
    simp only [type, flagsRead, message, name]
    rw [if_pos (by rw [decide_eq_true longer]; rfl), if_neg positive, byName, if_neg (by simp), if_pos long, qosRead, dupRead]
  unfold RoundTrips
  simp only
  rw [received, called, ← unwritten_eq_name named, ← CString.ofMemory_eq_iff rest length_unwritten]
  simp [stored]

theorem object_willtopic {bytes : List UInt8} :
    StructLayout.object 0 (messageHeader length 0x07 ++ [byte flags, ⟨1, bytes⟩]) = [length, 0x07, flags] ++ bytes := by
  unfold StructLayout.object messageHeader
  simp [place, gap, byte, shape, alignment, Nat.mod_one]

theorem object_willmsg {bytes : List UInt8} :
    StructLayout.object 0 (messageHeader length 0 ++ [⟨1, bytes⟩]) = [length, 0] ++ bytes := by
  unfold StructLayout.object messageHeader
  simp [place, gap, byte, shape, alignment, Nat.mod_one]

theorem not_roundTrips_willtopic {level : Int} (named : 1 ≤ willTopic.length) (short : willTopic.length ≤ 251) :
    ¬ (ClientMessage.willtopic willTopic level retain).RoundTrips abi storage beyond := by
  let length := UInt8.ofNat (3 + willTopic.length + 1)
  let flags := (if retain then Flag.retain else 0) ||| levelFlags level
  have counted : length.toNat = willTopic.length + 4 := by
    show (UInt8.ofNat (3 + willTopic.length + 1)).toNat = _
    rw [UInt8.toNat_ofNat']
    omega
  have cleared : 3 < abi.pointerSize := by
    cases abi <;> decide
  obtain ⟨after, first⟩ : ∃ after, (unwritten abi storage 3 252).bytes = 0 :: after := unwritten_cleared cleared
  have built : (ClientMessage.willtopic willTopic level retain).object abi storage = [length, 0x07, flags, 0] ++ after := by
    show StructLayout.object 0 (messageHeader length 0x07 ++ [byte flags, ⟨1, (unwritten abi storage 3 252).bytes⟩]) = _
    rw [object_willtopic, first]
    rfl
  have sent : (ClientMessage.willtopic willTopic level retain).datagram abi storage =
      length :: 0x07 :: flags :: 0 :: after.take willTopic.length := by
    unfold datagram
    rw [built]
    show List.take length.toNat (length :: 0x07 :: flags :: 0 :: after) = _
    rw [counted]
    rfl
  let memory := receiveBuffer (length :: 0x07 :: flags :: 0 :: after.take willTopic.length) beyond
  have header : ¬ byteAt memory 0 < 2 := by
    show ¬ length < 2
    rw [UInt8.lt_iff_toNat_lt, counted]
    show ¬ willTopic.length + 4 < 2
    omega
  have type : MessageType.ofCode? (byteAt memory 1) = some .willtopic := rfl
  have empty : stringAt memory 3 = .empty := rfl
  unfold RoundTrips
  simp only
  rw [sent]
  show ¬ Request.ofMemory memory = _
  unfold Request.ofMemory
  rw [if_neg header, type]
  show ¬ Request.ofWilltopic memory = _
  unfold Request.ofWilltopic
  rw [empty]
  intro parsed
  simp only at parsed
  split at parsed
  · injection parsed with same
    rw [← same] at named
    exact absurd named (by decide)
  · cases parsed

theorem not_roundTrips_willmsg {data : List UInt8} (filled : 1 ≤ data.length) (short : data.length ≤ 253) :
    ¬ (ClientMessage.willmsg data).RoundTrips abi storage beyond := by
  let length := 2 + UInt8.ofNat data.length
  have counted : length.toNat = data.length + 2 := by
    show (2 + UInt8.ofNat data.length).toNat = _
    rw [UInt8.toNat_add, UInt8.toNat_ofNat']
    show (2 + data.length % 256) % 256 = _
    omega
  let after := data ++ (unwritten abi storage (2 + data.length) (253 - data.length)).bytes
  have built : (ClientMessage.willmsg data).object abi storage = [length, 0] ++ after := object_willmsg
  have sent : (ClientMessage.willmsg data).datagram abi storage = length :: 0 :: after.take data.length := by
    unfold datagram
    rw [built]
    show List.take length.toNat (length :: 0 :: after) = _
    rw [counted]
    rfl
  have type : MessageType.ofCode? (byteAt (receiveBuffer (length :: 0 :: after.take data.length) beyond) 1) = some .advertise :=
    rfl
  unfold RoundTrips
  simp only
  rw [sent]
  unfold Request.ofMemory
  rw [type]
  intro parsed
  split at parsed <;> cases parsed

end Reading

/-- A SUBSCRIBE by id arrives as it was sent exactly when its topic id is below 256, one by name when nothing is cleared
    and the name stands there already, WILLTOPIC and WILLMSG never. -/
theorem roundTrips_iff {abi : Abi} {storage : Nat → UInt8} {beyond : List UInt8} {message : ClientMessage}
    (inRange : message.InRange) : message.RoundTrips abi storage beyond ↔ message.Survives abi storage := by
  cases message with
  | willtopic willTopic qos retain => exact iff_of_false (not_roundTrips_willtopic inRange.1 inRange.2.1) id
  | willmsg data => exact iff_of_false (not_roundTrips_willmsg inRange.1 inRange.2) id
  | subscribeShorttopic shortTopic topicId msgId qos dup => exact roundTrips_shorttopic inRange
  | subscribeTopicname topicName msgId qos dup => exact roundTrips_topicname inRange.1 inRange.2.1 inRange.2.2

/-- A topic id of one byte survives. -/
theorem roundTrips_iff_small :
    (ClientMessage.subscribeShorttopic false 255 7 1 true).RoundTrips .lp64 (fun _ => 0) [] ↔
      (ClientMessage.subscribeShorttopic false 255 7 1 true).Survives .lp64 fun _ => 0 :=
  roundTrips_iff (.inr (.inl rfl))

theorem subscribe_loses_highByte :
    ¬ ∀ (abi : Abi) (storage : Nat → UInt8) (beyond : List UInt8) (message : ClientMessage), message.InRange →
      message.RoundTrips abi storage beyond := by
  intro claim
  have read := claim .lp64 (fun _ => 0) [] (.subscribeShorttopic false 256 7 1 true) (.inr (.inl rfl))
  revert read
  unfold RoundTrips
  decide +kernel

end ClientMessage

end MqttSnGateway
