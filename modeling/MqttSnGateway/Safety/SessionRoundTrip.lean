import MqttSnGateway.ClientWire
import MqttSnGateway.Safety.SentDatagrams

namespace MqttSnGateway

open StructLayout Wire

section Reading

variable {clientId topicName : CString} {duration topicId msgId : UInt16} {will cleanSession : Bool} {length returnCode : UInt8}
  {memory rest beyond : List UInt8}

theorem connectFlags_read (will cleanSession : Bool) :
    Flag.any (connectFlags will cleanSession) Flag.will = will ∧
      Flag.any (connectFlags will cleanSession) Flag.clean = cleanSession := by
  cases will <;> cases cleanSession <;> decide

/-- The parser reads a CONNECT field by field and its client id up to the terminator. -/
theorem ofMemory_connect (counted : length.toNat = 7 + clientId.length)
    (stored : memory = [length, 0x04, connectFlags will cleanSession, 1] ++ Datagram.halfword duration ++
      (clientId.bytes ++ 0 :: rest)) :
    Request.ofMemory memory = Request.ofConnect memory ∧
      Request.ofConnect memory = .connect clientId duration will cleanSession := by
  subst stored
  let memory := [length, 0x04, connectFlags will cleanSession, 1] ++ Datagram.halfword duration ++ (clientId.bytes ++ 0 :: rest)
  show Request.ofMemory memory = Request.ofConnect memory ∧ Request.ofConnect memory = _
  have first : byteAt memory 0 = length := rfl
  have type : MessageType.ofCode? (byteAt memory 1) = some .connect := rfl
  have flags : byteAt memory 2 = connectFlags will cleanSession := rfl
  have protocol : byteAt memory 3 = 1 := rfl
  have keepAlive : halfwordAt memory 4 = duration := halfword_bytes duration
  have identifier : stringAt memory 6 = clientId := CString.ofMemory_terminated clientId rest
  obtain ⟨willRead, cleanRead⟩ := connectFlags_read will cleanSession
  have header : ¬ length < 2 := by
    rw [UInt8.lt_iff_toNat_lt, counted]
    show ¬ 7 + clientId.length < 2
    omega
  have long : 6 < length := by
    rw [UInt8.lt_iff_toNat_lt, counted]
    show 6 < 7 + clientId.length
    omega
  have exact : length.toNat = 6 + clientId.length + 1 := by omega
  constructor
  · unfold Request.ofMemory
    rw [first, if_neg header, type]
  · unfold Request.ofConnect
    simp only [first, flags, protocol, keepAlive, identifier, willRead, cleanRead, long, exact, decide_true,
      Bool.and_self, if_true]

theorem ofMemory_register (counted : length.toNat = 7 + topicName.length)
    (stored : memory = [length, 0x0a, 0, 0] ++ Datagram.halfword msgId ++ (topicName.bytes ++ 0 :: rest)) :
    Request.ofMemory memory = Request.ofRegister memory ∧ Request.ofRegister memory = .register msgId topicName := by
  subst stored
  let memory := [length, 0x0a, 0, 0] ++ Datagram.halfword msgId ++ (topicName.bytes ++ 0 :: rest)
  show Request.ofMemory memory = Request.ofRegister memory ∧ Request.ofRegister memory = _
  have first : byteAt memory 0 = length := rfl
  have type : MessageType.ofCode? (byteAt memory 1) = some .register := rfl
  have topic : halfwordAt memory 2 = 0 := by
    show (0 : UInt8).toUInt16 + (0 : UInt8).toUInt16 * 256 = 0
    decide
  have message : halfwordAt memory 4 = msgId := halfword_bytes msgId
  have name : stringAt memory 6 = topicName := CString.ofMemory_terminated topicName rest
  have header : ¬ length < 2 := by
    rw [UInt8.lt_iff_toNat_lt, counted]
    show ¬ 7 + topicName.length < 2
    omega
  have long : 6 < length := by
    rw [UInt8.lt_iff_toNat_lt, counted]
    show 6 < 7 + topicName.length
    omega
  have exact : length.toNat = 6 + topicName.length + 1 := by omega
  constructor
  · unfold Request.ofMemory
    rw [first, if_neg header, type]
  · unfold Request.ofRegister
    simp only [first, topic, message, name, long, exact, decide_true, Bool.and_self, if_true]

theorem ofMemory_regack
    (stored : memory = [7, 0x0b] ++ Datagram.halfword topicId ++ Datagram.halfword msgId ++ returnCode :: rest) :
    Request.ofMemory memory = .regack topicId msgId returnCode ∧
      ∀ g address, Gateway.parseRegack g address memory = Gateway.handleRegack g address topicId msgId returnCode := by
  subst stored
  let memory := [7, 0x0b] ++ Datagram.halfword topicId ++ Datagram.halfword msgId ++ returnCode :: rest
  have topic : halfwordAt memory 2 = topicId := halfword_bytes topicId
  have message : halfwordAt memory 4 = msgId := halfword_bytes msgId
  constructor
  · show Request.regack (halfwordAt memory 2) (halfwordAt memory 4) returnCode = _
    rw [topic, message]
  · intro g address
    show Gateway.handleRegack g address (halfwordAt memory 2) (halfwordAt memory 4) returnCode = _
    rw [topic, message]

end Reading

section Building

variable {clientId topicName : CString} {duration topicId msgId : UInt16} {will cleanSession : Bool}
  {garbage protocolId returnCode : UInt8}

theorem toNat_clientIdLength (short : clientId.length ≤ 23) : (clientIdLength clientId).toNat = clientId.length := by
  have kept : (UInt8.ofNat clientId.length).toNat = clientId.length := by
    rw [UInt8.toNat_ofNat']
    omega
  unfold clientIdLength
  split
  · rename_i long
    rw [UInt8.lt_iff_toNat_lt, kept] at long
    have bound : 22 < clientId.length := long
    show 23 = clientId.length
    omega
  · exact kept

/-- The struct of a CONNECT has no padding, and its client id is terminated. -/
theorem object_msgConnect (short : clientId.length ≤ 23) :
    StructLayout.object garbage (msgConnect will cleanSession protocolId duration clientId) =
      [7 + clientIdLength clientId, 0x04, connectFlags will cleanSession, protocolId] ++ Datagram.halfword duration ++
        (clientId.bytes ++ 0 :: List.replicate (23 - clientId.length) 0) := by
  have identifier : (array 24 (clientId.bytes.take (clientIdLength clientId).toNat) 0).bytes =
      clientId.bytes ++ 0 :: List.replicate (23 - clientId.length) 0 := by
    have room : clientId.bytes.length ≤ 23 := short
    have rest : 24 - clientId.bytes.length = 23 - clientId.bytes.length + 1 := by omega
    unfold array
    simp only
    rw [toNat_clientIdLength short, List.take_of_length_le (show clientId.bytes.length ≤ clientId.length from Nat.le_refl _),
      List.take_append, List.take_of_length_le (by omega), List.take_replicate, Nat.min_eq_left (by omega), rest,
      List.replicate_succ]
    rfl
  have size : (clientId.bytes ++ 0 :: List.replicate (23 - clientId.length) (0 : UInt8)).length = 24 := by
    rw [← identifier, length_array]
  unfold StructLayout.object msgConnect messageHeader
  simp only [List.cons_append, List.nil_append, place, identifier, size, shape, List.map_cons, List.map_nil]
  simp [gap, byte, Wire.halfword, Datagram.halfword, alignment, array, size]

theorem take_register (short : topicName.length ≤ 248) :
    ((SnMessage.register topicId msgId topicName).object garbage).take
        ((SnMessage.register topicId msgId topicName).lengthByte garbage).toNat =
      [UInt8.ofNat (6 + topicName.length + 1), 0x0a] ++ Datagram.halfword topicId ++ Datagram.halfword msgId ++
        (topicName.bytes ++ [0]) := by
  have counted : (UInt8.ofNat (6 + topicName.length + 1)).toNat = 6 + (topicName.bytes ++ [0]).length := by
    rw [UInt8.toNat_ofNat', List.length_append]
    show (6 + topicName.length + 1) % 256 = 6 + (topicName.length + 1)
    omega
  have placed : place garbage 0 ((SnMessage.register topicId msgId topicName).members garbage) =
      [UInt8.ofNat (6 + topicName.length + 1), 0x0a] ++ Datagram.halfword topicId ++ Datagram.halfword msgId ++
        (topicName.bytes ++ [0] ++ List.replicate 249 garbage).take 249 := by
    simp only [SnMessage.members, messageHeader]
    unfold array
    generalize (topicName.bytes ++ [0] ++ List.replicate 249 garbage).take 249 = name
    simp [place, gap, byte, Wire.halfword, Datagram.halfword]
  have header : ([UInt8.ofNat (6 + topicName.length + 1), 0x0a] ++ Datagram.halfword topicId ++ Datagram.halfword msgId).length =
    6 := rfl
  have inside : (topicName.bytes ++ [0]).length ≤ 249 := by
    rw [List.length_append]
    exact Nat.succ_le_succ short
  rw [SnMessage.lengthByte_eq]
  show ((SnMessage.register topicId msgId topicName).object garbage).take (UInt8.ofNat (6 + topicName.length + 1)).toNat = _
  unfold SnMessage.object StructLayout.object
  simp only
  show (place garbage 0 ((SnMessage.register topicId msgId topicName).members garbage) ++ _).take _ = _
  rw [placed, counted, List.append_assoc]
  generalize [UInt8.ofNat (6 + topicName.length + 1), 0x0a] ++ Datagram.halfword topicId ++ Datagram.halfword msgId = front
    at header ⊢
  have stored : (topicName.bytes ++ [0]).length ≤ ((topicName.bytes ++ [0] ++ List.replicate 249 garbage).take 249).length := by
    rw [List.length_take, Nat.le_min]
    exact ⟨inside, (List.sublist_append_left _ _).length_le⟩
  rw [List.take_append, header, List.take_of_length_le (by omega), Nat.add_sub_cancel_left,
    List.take_append_of_le_length stored, List.take_take, Nat.min_eq_left inside, List.take_left' rfl]

theorem take_regack :
    ((SnMessage.regack topicId msgId returnCode).object garbage).take
        ((SnMessage.regack topicId msgId returnCode).lengthByte garbage).toNat =
      [7, 0x0b] ++ Datagram.halfword topicId ++ Datagram.halfword msgId ++ [returnCode] := by
  rw [SnMessage.lengthByte_eq]
  unfold SnMessage.object StructLayout.object SnMessage.members messageHeader
  simp [place, gap, byte, Wire.halfword, Datagram.halfword, SnMessage.lengthField]

end Building

namespace Gateway

section Parsing

variable {mqtt : MqttMessageHandler} {g : Gateway} {address : DeviceAddress} {memory : List UInt8}

theorem parseConnect_eq : parseConnect mqtt g address memory = handle mqtt g address (Request.ofConnect memory) := by
  unfold parseConnect Request.ofConnect
  simp only
  split <;> rfl

theorem parseRegister_eq {msgId : UInt16} {topicName : CString} (read : Request.ofRegister memory = .register msgId topicName) :
    parseRegister g address memory = handleRegister g address msgId topicName := by
  unfold Request.ofRegister at read
  unfold parseRegister
  simp only at read ⊢
  split at read
  · rename_i accepted
    rw [if_pos accepted]
    cases read
    rfl
  · cases read

end Parsing

theorem receiveBuffer_append (sent beyond : List UInt8) : ∃ after, receiveBuffer sent beyond = sent ++ after :=
  ⟨List.replicate (255 - sent.length) 0 ++ beyond, List.append_assoc _ _ _⟩

section RoundTrips

variable {clientId topicName : CString}

theorem connect_roundTrip (will cleanSession : Bool) (duration : UInt16) (garbage : UInt8) (beyond : List UInt8)
    (short : clientId.length ≤ 23) :
    let memory := receiveBuffer (StructLayout.object garbage (msgConnect will cleanSession 1 duration clientId)) beyond
    Request.ofMemory memory = .connect clientId duration will cleanSession ∧
      ∀ mqtt g address, parseConnect mqtt g address memory =
        handleConnect mqtt g address clientId duration will cleanSession := by
  intro memory
  have counted : (7 + clientIdLength clientId).toNat = 7 + clientId.length := by
    rw [UInt8.toNat_add, toNat_clientIdLength short]
    show (7 + clientId.length) % 256 = _
    omega
  obtain ⟨after, received⟩ :=
    receiveBuffer_append (StructLayout.object garbage (msgConnect will cleanSession 1 duration clientId)) beyond
  have stored : memory = [7 + clientIdLength clientId, 0x04, connectFlags will cleanSession, 1] ++ Datagram.halfword duration ++
      (clientId.bytes ++ 0 :: (List.replicate (23 - clientId.length) 0 ++ after)) := by
    show receiveBuffer _ _ = _
    rw [received, object_msgConnect short]
    simp only [List.append_assoc, List.cons_append]
  obtain ⟨parsed, read⟩ := ofMemory_connect counted stored
  refine ⟨parsed.trans read, fun mqtt g address => ?_⟩
  rw [parseConnect_eq, read]
  rfl

theorem register_roundTrip (msgId : UInt16) (garbage : UInt8) (beyond : List UInt8) (short : topicName.length ≤ 248) :
    let message := SnMessage.register 0 msgId topicName
    let memory := receiveBuffer ((message.object garbage).take (message.lengthByte garbage).toNat) beyond
    Request.ofMemory memory = .register msgId topicName ∧
      ∀ g address, parseRegister g address memory = handleRegister g address msgId topicName := by
  intro message memory
  have counted : (UInt8.ofNat (6 + topicName.length + 1)).toNat = 7 + topicName.length := by
    rw [UInt8.toNat_ofNat']
    omega
  obtain ⟨after, received⟩ :=
    receiveBuffer_append ((message.object garbage).take (message.lengthByte garbage).toNat) beyond
  have stored : memory = [UInt8.ofNat (6 + topicName.length + 1), 0x0a, 0, 0] ++ Datagram.halfword msgId ++
      (topicName.bytes ++ 0 :: after) := by
    show receiveBuffer _ _ = _
    rw [received, take_register short, List.append_assoc, List.append_assoc topicName.bytes]
    rfl
  obtain ⟨parsed, read⟩ := ofMemory_register counted stored
  exact ⟨parsed.trans read, fun g address => parseRegister_eq read⟩

end RoundTrips

/-- What is sent with CONNECT, REGISTER and REGACK is what their handlers are called with. -/
theorem session_roundTrip :
    (∀ (will cleanSession : Bool) (duration : UInt16) (clientId : CString) (garbage : UInt8) (beyond : List UInt8),
      clientId.length ≤ 23 →
        let memory := receiveBuffer (StructLayout.object garbage (msgConnect will cleanSession 1 duration clientId)) beyond
        Request.ofMemory memory = .connect clientId duration will cleanSession ∧
          ∀ mqtt g address, parseConnect mqtt g address memory =
            handleConnect mqtt g address clientId duration will cleanSession) ∧
      (∀ (msgId : UInt16) (topicName : CString) (garbage : UInt8) (beyond : List UInt8), topicName.length ≤ 248 →
        let message := SnMessage.register 0 msgId topicName
        let memory := receiveBuffer ((message.object garbage).take (message.lengthByte garbage).toNat) beyond
        Request.ofMemory memory = .register msgId topicName ∧
          ∀ g address, parseRegister g address memory = handleRegister g address msgId topicName) ∧
      ∀ (topicId msgId : UInt16) (returnCode garbage : UInt8) (beyond : List UInt8),
        let message := SnMessage.regack topicId msgId returnCode
        let memory := receiveBuffer ((message.object garbage).take (message.lengthByte garbage).toNat) beyond
        Request.ofMemory memory = .regack topicId msgId returnCode ∧
          ∀ g address, parseRegack g address memory = handleRegack g address topicId msgId returnCode := by
  refine ⟨?_, ?_, ?_⟩
  · intro will cleanSession duration clientId garbage beyond short
    exact connect_roundTrip will cleanSession duration garbage beyond short
  · intro msgId topicName garbage beyond short
    exact register_roundTrip msgId garbage beyond short
  · intro topicId msgId returnCode garbage beyond message memory
    obtain ⟨after, received⟩ :=
      receiveBuffer_append ((message.object garbage).take (message.lengthByte garbage).toNat) beyond
    have stored : memory = [7, 0x0b] ++ Datagram.halfword topicId ++ Datagram.halfword msgId ++ returnCode :: after := by
      show receiveBuffer _ _ = _
      rw [received, take_regack, List.append_assoc _ _ after]
      rfl
    exact ofMemory_regack stored

theorem session_roundTrip_session :
    Request.ofMemory (receiveBuffer (StructLayout.object 0 (msgConnect true false 1 60 (Scenario.name 65))) [1, 2]) =
        .connect (Scenario.name 65) 60 true false ∧
      Request.ofMemory (receiveBuffer (((SnMessage.register 0 7 (Scenario.name 116)).object 0).take
        ((SnMessage.register 0 7 (Scenario.name 116)).lengthByte 0).toNat) []) = .register 7 (Scenario.name 116) ∧
      Request.ofMemory (receiveBuffer (((SnMessage.regack 300 7 ReturnCode.accepted).object 0).take
        ((SnMessage.regack 300 7 ReturnCode.accepted).lengthByte 0).toNat) []) = .regack 300 7 ReturnCode.accepted := by
  obtain ⟨connect, register, regack⟩ := session_roundTrip
  exact ⟨(connect true false 60 (Scenario.name 65) 0 [1, 2] (by decide)).1, (register 7 (Scenario.name 116) 0 [] (by decide)).1,
    (regack 300 7 ReturnCode.accepted 0 []).1⟩

end Gateway

end MqttSnGateway
