import MqttSnGateway.Mqtt.ClientSession

namespace MqttSnGateway

open MQTTPacket

/-- What a broker may send: a packet that fits into the buffer, and if it is a PUBLISH, one that can be read. -/
structure BrokerPacket where
  header : MQTTHeader
  body : List UInt8
  bytes : List UInt8
  framed : Framed header body bytes
  fits : bytes.length ≤ maxMqttPacketSize
  published : Option PublishFields
  publish : header.type = MsgType.publish.code →
    ∃ fields, published = some fields ∧ ∀ behind, MQTTDeserialize.publish (bytes ++ behind) = some ⟨1, some fields⟩

/-- The bytes that arrive are these packets; a timeout comes between two of them only. -/
def Arriving (incoming : List (List UInt8)) (packets : List BrokerPacket) : Prop :=
  ∃ groups : List (List BrokerPacket),
    incoming = groups.map (fun group => (group.map BrokerPacket.bytes).flatten) ∧ packets = groups.flatten

namespace Client

variable {P : Type} {client : Client P} {strings : P → CString} {packet : BrokerPacket} {rest : List UInt8}
  {later : List (List UInt8)}

/-- The messages that the handlers are called with for a packet. -/
def messages (client : Client P) (strings : P → CString) (packet : BrokerPacket) : List (MQTTString × MQTT.Message) :=
  if packet.header.type = MsgType.publish.code then
    (packet.published.map fun fields =>
      (client.messageHandlers.filter fun topicFilter =>
        topicFilter.any fun topicFilter =>
          MQTTPacket.equals fields.topicName (strings topicFilter) ||
            isTopicMatched (strings topicFilter).bytes fields.topicName.lenstring).map fun _ =>
        (fields.topicName,
          MQTT.Message.mk fields.qos fields.retained fields.dup fields.packetid fields.payload fields.payloadlen)).getD []
  else []

section Reading

theorem supplies_arrived {ipstack : IPStack} (bytes : List UInt8) (arrived : ipstack.incoming = (bytes ++ rest) :: later) :
    Supplies (getchar fun len ipstack => IPStack.read ipstack len) bytes ipstack { ipstack with incoming := rest :: later } := by
  induction bytes generalizing ipstack with
  | nil =>
    obtain ⟨incoming, outgoing, writes⟩ := ipstack
    cases arrived
    rfl
  | cons byte bytes ih =>
    refine ⟨{ ipstack with incoming := (bytes ++ rest) :: later }, ?_, ih rfl⟩
    unfold getchar IPStack.read
    simp [arrived]

theorem read_arrived {ipstack : IPStack} (bytes : List UInt8) (arrived : ipstack.incoming = (bytes ++ rest) :: later) :
    ipstack.read bytes.length = ((bytes, (bytes.length : Int)), { ipstack with incoming := rest :: later }) := by
  obtain ⟨incoming, outgoing, writes⟩ := ipstack
  cases arrived
  unfold IPStack.read
  split
  · rename_i empty
    rw [List.length_eq_zero_iff] at empty
    subst empty
    rfl
  · simp only [List.length_append, Nat.le_add_right, if_true, List.take_left', List.drop_left']

theorem readInto_arrived (start : Nat) (bytes : List UInt8) (arrived : client.ipstack.incoming = (bytes ++ rest) :: later) :
    client.readInto start bytes.length =
      (true,
        { client with
          ipstack := { client.ipstack with incoming := rest :: later }
          readbuf := client.readbuf.take start ++ bytes ++ client.readbuf.drop (start + bytes.length) }) := by
  unfold readInto
  rw [read_arrived bytes arrived]
  simp only [decide_true]

theorem decodePacket_arrived {n : Nat} (small : n < 268435456)
    (arrived : client.ipstack.incoming = (encode n ++ rest) :: later) :
    client.decodePacket = (n, { client with ipstack := { client.ipstack with incoming := rest :: later } }) := by
  unfold decodePacket
  rw [decode_supplied small (supplies_arrived (encode n) arrived)]

/-- The three parts of a packet stand in the buffer one behind the other. -/
theorem assembled (first : UInt8) (length body buffer : List UInt8) :
    (([first] ++ length ++ buffer).take (1 + length.length) ++ body ++
        ([first] ++ length ++ buffer).drop (1 + length.length + body.length)) =
      first :: (length ++ body) ++ buffer.drop body.length := by
  have prefixed : ([first] ++ length).length = 1 + length.length := by
    rw [List.length_append, List.length_singleton]
  rw [← List.drop_drop, List.take_left' prefixed, List.drop_left' prefixed, List.append_assoc, List.singleton_append,
    List.cons_append, List.cons_append, List.append_assoc]

/-- A packet that has arrived is read as a whole and nothing else is. -/
theorem readPacket_arrived (arrived : client.ipstack.incoming = (packet.bytes ++ rest) :: later) :
    ∃ stale, client.readPacket =
      ((packet.header.type : Int),
        { client with
          ipstack := { client.ipstack with incoming := rest :: later }
          readbuf := packet.bytes ++ stale }) := by
  have framed := packet.framed
  have length := framed.length
  have fits := packet.fits
  rw [framed.whole, List.cons_append, List.append_assoc] at arrived
  have first : client.readInto 0 1 = _ := readInto_arrived 0 [packet.header.byte] arrived
  unfold readPacket
  rw [first]
  simp only
  rw [decodePacket_arrived framed.short rfl]
  simp only
  rw [if_neg (by omega)]
  rw [readInto_arrived _ packet.body rfl]
  refine ⟨((([packet.header.byte] ++ client.readbuf.drop 1).drop (1 + (encode packet.body.length).length)).drop
    packet.body.length), ?_⟩
  have buffer := assembled packet.header.byte (encode packet.body.length) packet.body
    (([packet.header.byte] ++ client.readbuf.drop 1).drop (1 + (encode packet.body.length).length))
  unfold putLength
  simp only [List.take_zero, List.nil_append, Nat.zero_add, List.singleton_append, List.take_succ_cons,
    List.length_singleton] at buffer ⊢
  rw [buffer, ← framed.whole]
  simp only [Prod.mk.injEq, and_true]
  rw [framed.whole]
  simp only [List.cons_append, List.headD_cons]
  rw [MQTTHeader.ofByte_byte framed.qos framed.type]

end Reading

section Receiving

variable {between after : Client P}

/-- From one state to the other, packets that have arrived are taken one after the other, and the handlers are called
    for each of them once. -/
def Receives (strings : P → CString) (client after : Client P) : Prop :=
  ∀ packets, Arriving client.ipstack.incoming packets → ∃ taken left, packets = taken ++ left ∧
    Arriving after.ipstack.incoming left ∧ after.delivered = client.delivered ++ taken.flatMap (client.messages strings)

/-- Nothing is taken and nothing delivered. -/
def Quiet (client after : Client P) : Prop :=
  after.ipstack.incoming = client.ipstack.incoming ∧ after.delivered = client.delivered

theorem Quiet.trans (first : Quiet client between) (second : Quiet between after) : Quiet client after :=
  ⟨second.1.trans first.1, second.2.trans first.2⟩

theorem Quiet.receives (quiet : Quiet client after) : Receives strings client after := by
  intro packets arriving
  refine ⟨[], packets, rfl, ?_, ?_⟩
  · rwa [quiet.1]
  · rw [quiet.2, List.flatMap_nil, List.append_nil]

theorem Receives.trans (first : Receives strings client between) (handlers : between.messageHandlers = client.messageHandlers)
    (second : Receives strings between after) : Receives strings client after := by
  intro packets arriving
  obtain ⟨taken, left, rfl, arrivingLeft, delivered⟩ := first packets arriving
  obtain ⟨more, last, rfl, arrivingLast, deliveredMore⟩ := second left arrivingLeft
  have same : between.messages strings = client.messages strings := by
    funext packet
    unfold messages
    rw [handlers]
  refine ⟨taken ++ more, last, (List.append_assoc ..).symm, arrivingLast, ?_⟩
  rw [deliveredMore, delivered, same, List.flatMap_append, List.append_assoc]

theorem sendLoop_incoming (clock : List Bool) (ipstack : IPStack) (bytes : List UInt8) :
    (sendLoop clock ipstack bytes).2.1.incoming = ipstack.incoming := by
  induction clock generalizing ipstack bytes with
  | nil => rfl
  | cons expired clock ih =>
    unfold sendLoop
    simp only
    split
    · rfl
    · split
      · rfl
      · split
        · rfl
        · exact ih _ _

theorem sendPacket_quiet (bytes : List UInt8) : Quiet client (client.sendPacket bytes).2 :=
  ⟨sendLoop_incoming _ _ _, rfl⟩

theorem pingDue_quiet : Quiet client client.pingDue.2 := by
  unfold pingDue
  split <;> exact ⟨rfl, rfl⟩

theorem keepalive_quiet : Quiet client client.keepalive := by
  unfold keepalive
  split
  · exact ⟨rfl, rfl⟩
  · simp only
    split
    · split
      · exact pingDue_quiet
      · rename_i chunk _
        have sent : Quiet client (client.pingDue.2.sendPacket chunk).2 := pingDue_quiet.trans (sendPacket_quiet chunk)
        split <;> exact sent
    · exact pingDue_quiet

theorem readPacket_timeout (none : client.ipstack.incoming.headD [] = []) :
    client.readPacket.1 = -1 ∧ client.readPacket.2.delivered = client.delivered ∧
      client.readPacket.2.ipstack.incoming = client.ipstack.incoming.tail := by
  have failed : client.readInto 0 1 =
      (false, { client with
        ipstack := { client.ipstack with incoming := client.ipstack.incoming.tail }
        readbuf := client.readbuf.take 0 ++ [] ++ client.readbuf.drop (0 + 0) }) := by
    unfold readInto IPStack.read
    cases arrived : client.ipstack.incoming with
    | nil =>
      obtain ⟨⟨incoming, outgoing, writes⟩, others⟩ := client
      cases arrived
      rfl
    | cons first others =>
      rw [arrived, List.headD_cons] at none
      subst none
      rfl
  unfold readPacket
  rw [failed]
  exact ⟨rfl, rfl, rfl⟩

/-- A PUBLISH that can be read is delivered to the handlers that match, whatever becomes of its acknowledgement. -/
theorem cyclePublish_delivers (strings : P → CString) {stale : List UInt8} (kind : packet.header.type = MsgType.publish.code)
    (read : client.readbuf = packet.bytes ++ stale) :
    (client.cyclePublish strings).2.2.ipstack.incoming = client.ipstack.incoming ∧
      (client.cyclePublish strings).2.2.delivered = client.delivered ++ client.messages strings packet := by
  obtain ⟨fields, published, readable⟩ := packet.publish kind
  have delivered : (client.deliverMessage strings fields.topicName
      ⟨fields.qos, fields.retained, fields.dup, fields.packetid, fields.payload, fields.payloadlen⟩).delivered =
        client.delivered ++ client.messages strings packet := by
    unfold deliverMessage messages
    rw [if_pos kind, published]
    rfl
  have sent : ∀ bytes, Quiet (client.deliverMessage strings fields.topicName
      ⟨fields.qos, fields.retained, fields.dup, fields.packetid, fields.payload, fields.payloadlen⟩)
      ((client.deliverMessage strings fields.topicName
        ⟨fields.qos, fields.retained, fields.dup, fields.packetid, fields.payload, fields.payloadlen⟩).sendPacket
          bytes).2 := sendPacket_quiet
  unfold cyclePublish
  rw [read, readable]
  simp only [ne_eq, not_true_eq_false, if_false]
  split
  · exact ⟨rfl, delivered⟩
  · split
    · split
      · exact ⟨rfl, delivered⟩
      · split <;> exact ⟨(sent _).1, (sent _).2.trans delivered⟩
    · split
      · split
        · exact ⟨rfl, delivered⟩
        · split <;> exact ⟨(sent _).1, (sent _).2.trans delivered⟩
      · exact ⟨rfl, delivered⟩

theorem cycle_timeout (strings : P → CString) (none : client.ipstack.incoming.headD [] = []) :
    (client.cycle strings).2.delivered = client.delivered ∧
      (client.cycle strings).2.ipstack.incoming = client.ipstack.incoming.tail := by
  obtain ⟨code, delivered, incoming⟩ := readPacket_timeout none
  have quiet : Quiet client.readPacket.2 client.readPacket.2.keepalive := keepalive_quiet
  have ends : (client.cycle strings).2 = client.readPacket.2.keepalive := by
    unfold cycle
    simp only [code]
    rfl
  rw [ends]
  exact ⟨quiet.2.trans delivered, quiet.1.trans incoming⟩

theorem cycle_packet (strings : P → CString) (arrived : client.ipstack.incoming = (packet.bytes ++ rest) :: later) :
    (client.cycle strings).2.delivered = client.delivered ++ client.messages strings packet ∧
      (client.cycle strings).2.ipstack.incoming = rest :: later := by
  obtain ⟨stale, read⟩ := readPacket_arrived arrived
  obtain ⟨reading, buffer, incoming, same, messages⟩ : ∃ reading : Client P, reading.readbuf = packet.bytes ++ stale ∧
      reading.ipstack.incoming = rest :: later ∧
      client.readPacket = ((packet.header.type : Int), reading) ∧
      reading.delivered = client.delivered ∧ reading.messages strings packet = client.messages strings packet :=
    ⟨_, rfl, rfl, read, rfl, rfl⟩
  have positive : ¬ ((packet.header.type : Int) = -1 ∨ (packet.header.type : Int) = -2) := by omega
  unfold cycle
  rw [same]
  simp only [Bool.or_eq_true, decide_eq_true_eq]
  rw [if_neg positive]
  by_cases kind : packet.header.type = MsgType.publish.code
  · have published := cyclePublish_delivers strings kind buffer
    rw [if_pos (by rw [kind]), ← incoming, ← messages.1, ← messages.2]
    split
    · rename_i cycled
      rw [cycled] at published
      exact ⟨published.2, published.1⟩
    · rename_i cycled
      rw [cycled] at published
      exact ⟨keepalive_quiet.2.trans published.2, keepalive_quiet.1.trans published.1⟩
  · have silent : client.messages strings packet = [] := by
      unfold Client.messages
      rw [if_neg kind]
    rw [if_neg (by omega), silent, List.append_nil, ← incoming, ← messages.1]
    split
    · exact ⟨keepalive_quiet.2, keepalive_quiet.1⟩
    · exact ⟨keepalive_quiet.2, keepalive_quiet.1⟩

/-- Some packet has arrived before the next timeout. -/
def Waiting (client : Client P) : Prop := client.ipstack.incoming.headD [] ≠ []

/-- Then the first packet is taken by one round. -/
theorem cycle_takes (waiting : client.Waiting) {packets : List BrokerPacket}
    (arriving : Arriving client.ipstack.incoming packets) :
    ∃ packet left, packets = packet :: left ∧ Arriving (client.cycle strings).2.ipstack.incoming left ∧
      (client.cycle strings).2.delivered = client.delivered ++ client.messages strings packet := by
  obtain ⟨groups, arrived, rfl⟩ := arriving
  unfold Waiting at waiting
  match groups, arrived with
  | [], arrived =>
    rw [arrived] at waiting
    exact absurd rfl waiting
  | [] :: groups, arrived =>
    rw [arrived] at waiting
    exact absurd rfl waiting
  | (packet :: group) :: groups, arrived =>
    rw [List.map_cons, List.map_cons, List.flatten_cons] at arrived
    obtain ⟨delivered, incoming⟩ := cycle_packet strings arrived
    exact ⟨packet, (group :: groups).flatten, rfl, ⟨group :: groups, incoming, rfl⟩, delivered⟩

theorem cycle_receives : Receives strings client (client.cycle strings).2 := by
  rintro packets ⟨groups, arrived, rfl⟩
  match groups, arrived with
  | [], arrived =>
    obtain ⟨delivered, incoming⟩ := cycle_timeout strings (show client.ipstack.incoming.headD [] = [] by rw [arrived]; rfl)
    exact ⟨[], [], rfl, ⟨[], by rw [incoming, arrived]; rfl, rfl⟩, by rw [delivered]; simp⟩
  | [] :: groups, arrived =>
    obtain ⟨delivered, incoming⟩ := cycle_timeout strings (show client.ipstack.incoming.headD [] = [] by rw [arrived]; rfl)
    exact ⟨[], groups.flatten, rfl, ⟨groups, by rw [incoming, arrived]; rfl, rfl⟩, by rw [delivered]; simp⟩
  | (packet :: group) :: groups, arrived =>
    rw [List.map_cons, List.map_cons, List.flatten_cons] at arrived
    obtain ⟨delivered, incoming⟩ := cycle_packet strings arrived
    exact ⟨[packet], (group :: groups).flatten, rfl, ⟨group :: groups, incoming, rfl⟩, by rw [delivered]; simp⟩

theorem handlers_of_session (same : after.session = client.session) : after.messageHandlers = client.messageHandlers :=
  congrArg Session.messageHandlers same

theorem expired_quiet : Quiet client client.expired.2 := ⟨rfl, rfl⟩

theorem round_receives : Receives strings client (client.expired.2.cycle strings).2 :=
  expired_quiet.receives.trans rfl cycle_receives

theorem waitforLoop_receives (packetType : MsgType) (rounds : Nat) :
    Receives strings client (waitforLoop strings packetType rounds client).2 := by
  induction rounds generalizing client with
  | zero => exact Quiet.receives ⟨rfl, rfl⟩
  | succ rounds ih =>
    have round : Receives strings client (client.expired.2.cycle strings).2 := round_receives
    unfold waitforLoop
    simp only
    split
    · exact expired_quiet.receives
    · split
      · exact round
      · exact round.trans (handlers_of_session (cycle_session.trans expired_session)) ih

theorem waitfor_receives (packetType : MsgType) : Receives strings client (client.waitfor strings packetType).2 := by
  unfold waitfor
  exact waitforLoop_receives packetType _

theorem yieldLoop_receives (rounds : Nat) : Receives strings client (yieldLoop strings rounds client).2 := by
  induction rounds generalizing client with
  | zero => exact Quiet.receives ⟨rfl, rfl⟩
  | succ rounds ih =>
    have round : Receives strings client (client.expired.2.cycle strings).2 := round_receives
    unfold yieldLoop
    simp only
    split
    · exact expired_quiet.receives
    · split
      · exact round
      · exact round.trans (handlers_of_session (cycle_session.trans expired_session)) ih

theorem yield_receives : Receives strings client (client.yield strings).2 := yieldLoop_receives _

theorem yield_takes (timely : client.clock.headD true = false) (waiting : client.Waiting) {packets : List BrokerPacket}
    (arriving : Arriving client.ipstack.incoming packets) :
    ∃ taken left, packets = taken ++ left ∧ taken ≠ [] ∧ Arriving (client.yield strings).2.ipstack.incoming left ∧
      (client.yield strings).2.delivered = client.delivered ++ taken.flatMap (client.messages strings) := by
  have asked : client.expired.1 = false := timely
  have still : client.expired.2.Waiting := waiting
  obtain ⟨packet, left, rfl, arrivingLeft, delivered⟩ := cycle_takes still arriving
  have more : Receives strings (client.expired.2.cycle strings).2 (client.yield strings).2 := by
    unfold yield yieldLoop
    simp only [asked, Bool.false_eq_true, if_false]
    split
    · exact Quiet.receives ⟨rfl, rfl⟩
    · exact yieldLoop_receives _
  obtain ⟨taken, last, rfl, arrivingLast, deliveredMore⟩ := more left arrivingLeft
  have same : (client.expired.2.cycle strings).2.messages strings = client.messages strings := by
    have handlers : (client.expired.2.cycle strings).2.messageHandlers = client.messageHandlers :=
      handlers_of_session (cycle_session.trans expired_session)
    funext packet
    unfold messages
    rw [handlers]
  refine ⟨packet :: taken, last, rfl, List.cons_ne_nil _ _, arrivingLast, ?_⟩
  rw [deliveredMore, delivered, same, List.flatMap_cons, List.append_assoc]
  rfl

/-- What is sent, what is waited for, and what then becomes of the client. -/
theorem exchange_receives {chunk : List UInt8} {sent : Bool} {answered : Client P} {packetType : MsgType} {came : Bool}
    (asked : client.sendPacket chunk = (sent, between)) (waited : between.waitfor strings packetType = (came, answered))
    (last : Quiet answered after) : Receives strings client after := by
  have first : Quiet client between := by
    have quiet : Quiet client (client.sendPacket chunk).2 := sendPacket_quiet chunk
    rwa [asked] at quiet
  have second : Receives strings between answered := by
    have receives : Receives strings between (between.waitfor strings packetType).2 := waitfor_receives packetType
    rwa [waited] at receives
  have handlers : between.messageHandlers = client.messageHandlers :=
    congrArg (fun result => result.2.messageHandlers) asked.symm
  have same : answered.session = between.session :=
    (congrArg (fun result => result.2.session) waited.symm).trans (waitfor_session _)
  exact (first.receives.trans handlers second).trans ((handlers_of_session same).trans handlers) last.receives

theorem unsent_receives {chunk : List UInt8} {sent : Bool} (asked : client.sendPacket chunk = (sent, between))
    (last : Quiet between after) : Receives strings client after := by
  have first : Quiet client (client.sendPacket chunk).2 := sendPacket_quiet chunk
  rw [asked] at first
  exact (first.trans last).receives

variable {rc : Int} {qos : Nat}

theorem publishPacket_receives {chunk : List UInt8} (result : client.publishPacket strings chunk qos = (rc, after)) :
    Receives strings client after := by
  unfold publishPacket at result
  split at result
  · rename_i failed
    cases result
    exact unsent_receives failed ⟨rfl, rfl⟩
  · rename_i between sent
    split at result
    · cases result
      exact unsent_receives sent ⟨rfl, rfl⟩
    · split at result
      · rename_i answered
        cases result
        exact exchange_receives sent answered ⟨rfl, rfl⟩
      · rename_i answered
        split at result
        · cases result
          refine exchange_receives sent answered ?_
          split <;> exact ⟨rfl, rfl⟩
        · cases result
          exact exchange_receives sent answered ⟨rfl, rfl⟩

theorem publish_receives {topicName : CString} {payload : List UInt8} {retained : Bool}
    (result : client.publish strings topicName payload qos retained = (rc, after)) : Receives strings client after := by
  have drawn : Quiet client (client.publishId qos).2 ∧ (client.publishId qos).2.messageHandlers = client.messageHandlers := by
    unfold publishId
    split <;> exact ⟨⟨rfl, rfl⟩, rfl⟩
  unfold publish at result
  split at result
  · cases result
    exact Quiet.receives ⟨rfl, rfl⟩
  · simp only at result
    split at result
    · cases result
      exact drawn.1.receives
    · rename_i chunk _
      have kept : Quiet client ((client.publishId qos).2.keep chunk (client.publishId qos).1 qos) ∧
          ((client.publishId qos).2.keep chunk (client.publishId qos).1 qos).messageHandlers = client.messageHandlers := by
        unfold keep
        split
        · exact drawn
        · exact drawn
      exact kept.1.receives.trans kept.2 (publishPacket_receives result)

theorem subscribe_receives {topicFilter : P} (result : client.subscribe strings topicFilter qos = (rc, after)) :
    Receives strings client after := by
  have drawn : Receives strings client client.getNext.2 := Quiet.receives ⟨rfl, rfl⟩
  unfold subscribe at result
  split at result
  · cases result
    exact Quiet.receives ⟨rfl, rfl⟩
  · simp only at result
    split at result
    · cases result
      exact Quiet.receives ⟨rfl, rfl⟩
    · refine drawn.trans rfl ?_
      split at result
      · rename_i failed
        cases result
        exact unsent_receives failed ⟨rfl, rfl⟩
      · rename_i between sent
        split at result
        · rename_i answered
          cases result
          exact exchange_receives sent answered ⟨rfl, rfl⟩
        · rename_i last answered
          cases result
          refine exchange_receives sent answered ?_
          have handled : Quiet last (last.handle topicFilter (grantedQoS last.readbuf)).2 := by
            unfold handle
            split
            · exact ⟨rfl, rfl⟩
            · split <;> exact ⟨rfl, rfl⟩
          split
          · exact handled
          · exact handled.trans ⟨rfl, rfl⟩

theorem unsubscribe_receives {topicFilter : CString} (result : client.unsubscribe strings topicFilter = (rc, after)) :
    Receives strings client after := by
  have drawn : Receives strings client client.getNext.2 := Quiet.receives ⟨rfl, rfl⟩
  unfold unsubscribe at result
  split at result
  · cases result
    exact Quiet.receives ⟨rfl, rfl⟩
  · simp only at result
    split at result
    · cases result
      exact Quiet.receives ⟨rfl, rfl⟩
    · refine drawn.trans rfl ?_
      split at result
      · rename_i failed
        cases result
        exact unsent_receives failed ⟨rfl, rfl⟩
      · rename_i between sent
        split at result
        · rename_i answered
          cases result
          exact exchange_receives sent answered ⟨rfl, rfl⟩
        · rename_i answered
          cases result
          refine exchange_receives sent answered ?_
          split <;> exact ⟨rfl, rfl⟩

end Receiving

end Client

namespace ClientCall

open Client

variable {P : Type}

theorem perform_receives (client : Client P) (call : (P → CString) × ClientCall P)
    (lasting : ∀ reconnect, call.2 = .loop reconnect → client.isconnected = true) :
    Receives call.1 client (perform client call).2 := by
  obtain ⟨strings, call⟩ := call
  cases call with
  | publish topic payload qos retained =>
    unfold perform PahoMqttMessageHandler.publish
    simp only
    split
    · exact Quiet.receives ⟨rfl, rfl⟩
    · exact publish_receives rfl
  | subscribe topic qos =>
    unfold perform PahoMqttMessageHandler.subscribe
    simp only
    split
    · exact Quiet.receives ⟨rfl, rfl⟩
    · exact subscribe_receives rfl
  | unsubscribe topic =>
    unfold perform PahoMqttMessageHandler.unsubscribe
    simp only
    split
    · exact Quiet.receives ⟨rfl, rfl⟩
    · split
      · exact Quiet.receives ⟨rfl, rfl⟩
      · exact unsubscribe_receives rfl
  | loop reconnect =>
    have yields : perform client (strings, .loop reconnect) = (true, (client.yield strings).2) :=
      PahoMqttMessageHandler.loop_connected (lasting reconnect rfl) reconnect
    rw [yields]
    exact yield_receives

/-- A `loop` whose timer has not expired when it begins, while a packet waits. -/
def Timely (client : Client P) (call : (P → CString) × ClientCall P) : Prop :=
  (∃ reconnect, call.2 = .loop reconnect) ∧ client.clock.headD true = false ∧ client.Waiting

theorem perform_takes (client : Client P) (call : (P → CString) × ClientCall P)
    (lasting : ∀ reconnect, call.2 = .loop reconnect → client.isconnected = true) {packets : List BrokerPacket}
    (arriving : Arriving client.ipstack.incoming packets) :
    ∃ taken left, packets = taken ++ left ∧ (Timely client call → taken ≠ []) ∧
      Arriving (perform client call).2.ipstack.incoming left ∧
      (perform client call).2.delivered = client.delivered ++ taken.flatMap (client.messages call.1) := by
  by_cases timely : Timely client call
  · obtain ⟨strings, call⟩ := call
    obtain ⟨⟨reconnect, rfl⟩, unexpired, waiting⟩ := timely
    have yields : perform client (strings, .loop reconnect) = (true, (client.yield strings).2) :=
      PahoMqttMessageHandler.loop_connected (lasting reconnect rfl) reconnect
    obtain ⟨taken, left, split, some, arrivingLeft, delivered⟩ := yield_takes unexpired waiting arriving
    rw [yields]
    exact ⟨taken, left, split, fun _ => some, arrivingLeft, delivered⟩
  · obtain ⟨taken, left, split, arrivingLeft, delivered⟩ := perform_receives client call lasting packets arriving
    exact ⟨taken, left, split, fun impossible => absurd impossible timely, arrivingLeft, delivered⟩

/-- The messages that the calls deliver if each of them takes its share of the packets: those of the handlers that are
    there when the call begins. -/
def deliveries : Client P → List ((P → CString) × ClientCall P) → List (List BrokerPacket) → List (MQTTString × MQTT.Message)
  | client, call :: calls, share :: shares =>
    share.flatMap (client.messages call.1) ++ deliveries (perform client call).2 calls shares
  | _, _, _ => []

/-- No timely `loop` goes without a packet. -/
def Progresses : Client P → List ((P → CString) × ClientCall P) → List (List BrokerPacket) → Prop
  | client, call :: calls, share :: shares =>
    (Timely client call → share ≠ []) ∧ Progresses (perform client call).2 calls shares
  | _, _, _ => True

/-- Whatever requests come in between and whatever is waited for: of the packets that arrive on a connection, every call
    takes the next ones, in their order and each of them once, a `loop` whose timer has not expired at least one that has
    arrived, and for every PUBLISH among them it calls the message handlers that match, once each. -/
theorem packets_delivered {client : Client P} {packets : List BrokerPacket}
    (arriving : Arriving client.ipstack.incoming packets) {calls : List ((P → CString) × ClientCall P)}
    (lasting : Lasting client calls) :
    ∃ shares left, shares.length = calls.length ∧ packets = shares.flatten ++ left ∧ Progresses client calls shares ∧
      Arriving (results perform client calls).2.ipstack.incoming left ∧
      (results perform client calls).2.delivered = client.delivered ++ deliveries client calls shares := by
  induction calls generalizing client packets with
  | nil => exact ⟨[], packets, rfl, rfl, trivial, arriving, (List.append_nil _).symm⟩
  | cons call calls ih =>
    obtain ⟨here, after⟩ := lasting
    obtain ⟨taken, left, rfl, some, arrivingLeft, delivered⟩ := perform_takes client call here arriving
    obtain ⟨shares, last, counted, rfl, progresses, arrivingLast, later⟩ := ih arrivingLeft after
    refine ⟨taken :: shares, last, congrArg Nat.succ counted, ?_, ⟨some, progresses⟩, arrivingLast, ?_⟩
    · rw [List.flatten_cons, List.append_assoc]
    · unfold results deliveries
      simp only
      rw [later, delivered, List.append_assoc]

end ClientCall

namespace Scenario

open ClientCall

def arrivedPublish : BrokerPacket where
  header := ⟨false, 0, false, MsgType.publish.code⟩
  body := [0, 1, 116, 1]
  bytes := [0x30, 4, 0, 1, 116, 1]
  framed := ⟨by decide, by decide, by decide, by decide⟩
  fits := by decide
  published := some ⟨false, 0, false, none, ⟨none, [116]⟩, [1], 1⟩
  publish := by
    intro _
    refine ⟨_, rfl, fun behind => ?_⟩
    exact publish_roundTrip_packet behind (MQTTString.single_ofCString (name 116)) (by decide) (by decide)
      (show 512 < 268435456 by decide) (show MQTTSerialize.publish 512 false 0 false 0 (.ofCString (name 116)) [1] = _ by
        decide)

def listening : Client CString :=
  let fresh : Client CString := .initial ⟨[arrivedPublish.bytes, arrivedPublish.bytes], [], []⟩ (.replicate 20 false)
    (.replicate maxMqttPacketSize 0)
  { fresh with
    isconnected := true
    messageHandlers := [some (name 116), none, none, none, none] }

def listeningCalls : List ((CString → CString) × ClientCall CString) :=
  [(id, .loop none), (id, .publish (name 117) [3] 0 true), (id, .loop none)]

theorem listening_delivered :
    ∃ shares left, shares.length = 3 ∧ [arrivedPublish, arrivedPublish] = shares.flatten ++ left ∧
      Progresses listening listeningCalls shares ∧
      Arriving (results perform listening listeningCalls).2.ipstack.incoming left ∧
      (results perform listening listeningCalls).2.delivered =
        listening.delivered ++ deliveries listening listeningCalls shares := by
  have arriving : Arriving listening.ipstack.incoming [arrivedPublish, arrivedPublish] :=
    ⟨[[arrivedPublish], [arrivedPublish]], rfl, rfl⟩
  have lasting : Lasting listening listeningCalls := by
    refine ⟨fun _ _ => rfl, nofun, fun _ _ => ?_, trivial⟩
    decide +kernel
  exact packets_delivered arriving lasting

end Scenario

end MqttSnGateway
