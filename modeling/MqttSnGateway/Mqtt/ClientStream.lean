import MqttSnGateway.Mqtt.ClientSession

namespace MqttSnGateway

open MQTTPacket

/-- What a client sends, as a broker reads it that uses the same library. -/
inductive ClientPacket where
  | connect (fields : ConnectFields)
  | publish (fields : PublishFields)
  | acknowledge (fields : AckFields)
  | subscribe (fields : SubscribeFields)
  | unsubscribe (fields : UnsubscribeFields)
  | pingreq
  | disconnect
deriving DecidableEq

namespace ClientPacket

def delivered {α : Type} (read : Option (Deserialized α)) : Option α :=
  match read with
  | some ⟨1, fields⟩ => fields
  | _ => none

def read (packet : List UInt8) : Option ClientPacket :=
  let type := (MQTTHeader.ofByte (packet.headD 0)).type
  if type = MsgType.connect.code then (MQTTDeserialize.connect packet packet.length).join.map connect
  else if type = MsgType.publish.code then (delivered (MQTTDeserialize.publish packet)).map publish
  else if type = MsgType.puback.code ∨ type = MsgType.pubrec.code then
    (delivered (MQTTDeserialize.ack packet)).map acknowledge
  else if type = MsgType.subscribe.code then (delivered (MQTTDeserialize.subscribe packet)).map subscribe
  else if type = MsgType.unsubscribe.code then (delivered (MQTTDeserialize.unsubscribe packet)).map unsubscribe
  else if type = MsgType.pingreq.code then some pingreq
  else if type = MsgType.disconnect.code then some disconnect
  else none

/-- The packets of a stream, if all of them are whole and read. -/
def readStream (stream : List UInt8) : Option (List ClientPacket) :=
  (readAll maxMqttPacketSize stream.length stream).bind fun packets => packets.mapM read

/-- Acknowledgements and pings, which the client sends by itself. -/
def control : ClientPacket → Bool
  | acknowledge _ => true
  | pingreq => true
  | _ => false

/-- A packet that fits into the buffer of a client. -/
structure Whole (chunk : List UInt8) : Prop where
  framed : ∃ header body, Framed header body chunk
  fits : chunk.length ≤ maxMqttPacketSize

/-- These bytes are the packets one after the other. -/
def Stream (packets : List ClientPacket) (bytes : List UInt8) : Prop :=
  ∃ chunks : List (List UInt8), (∀ chunk ∈ chunks, Whole chunk) ∧ chunks.mapM read = some packets ∧ bytes = chunks.flatten

variable {packets others : List ClientPacket} {packet : ClientPacket} {bytes more chunk : List UInt8}

theorem Stream.nil : Stream [] [] := ⟨[], by simp, rfl, rfl⟩

theorem Stream.single (whole : Whole chunk) (carried : read chunk = some packet) : Stream [packet] chunk :=
  ⟨[chunk], by simpa using whole, by simp [carried], by simp⟩

theorem Stream.append (first : Stream packets bytes) (second : Stream others more) :
    Stream (packets ++ others) (bytes ++ more) := by
  obtain ⟨chunks, whole, carried, rfl⟩ := first
  obtain ⟨later, wholeLater, carriedLater, rfl⟩ := second
  refine ⟨chunks ++ later, ?_, ?_, List.flatten_append.symm⟩
  · intro chunk member
    exact (List.mem_append.mp member).elim (whole chunk) (wholeLater chunk)
  · rw [List.mapM_append, carried, carriedLater]
    rfl

theorem Stream.readStream (stream : Stream packets bytes) : readStream bytes = some packets := by
  obtain ⟨chunks, whole, carried, rfl⟩ := stream
  have frames : ∀ chunk ∈ chunks, chunk.length ≤ maxMqttPacketSize ∧ ∃ header body, Framed header body chunk :=
    fun chunk member => ⟨(whole chunk member).fits, (whole chunk member).framed⟩
  have many : chunks.length ≤ chunks.flatten.length := by
    have some : ∀ chunk ∈ chunks, id chunk ≠ [] := fun chunk member =>
      (whole chunk member).framed.elim fun _ framed => framed.elim fun _ framed => framed.ne_nil
    have counted := count_le_flatMap some
    rwa [List.flatMap_id] at counted
  unfold ClientPacket.readStream
  rw [readAll_flatten frames many]
  exact carried

theorem headD_type {header : MQTTHeader} {body : List UInt8} (framed : Framed header body chunk) :
    (MQTTHeader.ofByte (chunk.headD 0)).type = header.type := by
  rw [framed.whole, List.headD_cons, MQTTHeader.ofByte_byte framed.qos framed.type]

section Written

variable {dup retained : Bool} {qos : Nat} {id : UInt16} {topic : CString} {payload : List UInt8} {options : ConnectData}
  {type : MsgType}

theorem stream_connect (version : options.mqttVersion = 3 ∨ options.mqttVersion = 4)
    (level : options.willFlag = true → options.will.qos.toNat < 4) (admitted : options.admitted = true)
    (written : MQTTSerialize.connect maxMqttPacketSize options = some chunk) : Stream [connect options.fields] chunk := by
  have small : maxMqttPacketSize < 65536 := by decide
  obtain ⟨⟨body, framed⟩, fits⟩ := MQTTSerialize.connect_framed version small written
  refine .single ⟨⟨_, _, framed⟩, fits⟩ ?_
  unfold read
  rw [headD_type framed, MQTTDeserialize.connect_serialized version level small written, admitted]
  rfl

theorem stream_publish (level : qos < 4)
    (written : MQTTSerialize.publish maxMqttPacketSize dup qos retained id (.ofCString topic) payload = some chunk) :
    Stream [publish ⟨dup, qos, retained, if 0 < qos then some id.toNat else none, ⟨none, topic.bytes⟩, payload,
      payload.length⟩] chunk := by
  have small : maxMqttPacketSize < 268435456 := by decide
  have single := MQTTString.single_ofCString topic
  obtain ⟨⟨body, framed⟩, fits⟩ := MQTTSerialize.publish_framed single level small written
  have named := MQTTSerialize.publish_named (by decide) written
  have read := publish_roundTrip_packet [] single named level (by decide) written
  rw [List.append_nil] at read
  refine .single ⟨⟨_, _, framed⟩, fits⟩ ?_
  unfold ClientPacket.read
  rw [headD_type framed, read]
  rfl

theorem stream_ack (kind : type = .puback ∨ type = .pubrec)
    (written : MQTTSerialize.ack maxMqttPacketSize type dup id = some chunk) :
    Stream [acknowledge ⟨type.code, dup, id.toNat⟩] chunk := by
  obtain ⟨⟨body, framed⟩, fits⟩ := MQTTSerialize.ack_framed written
  have read := ack_roundTrip_packet [] written
  rw [List.append_nil] at read
  refine .single ⟨⟨_, _, framed⟩, fits⟩ ?_
  unfold ClientPacket.read
  rw [headD_type framed, read]
  rcases kind with rfl | rfl <;> rfl

theorem stream_subscribe {requestedQoS : UInt8}
    (written : MQTTSerialize.subscribe maxMqttPacketSize dup id [(.ofCString topic, requestedQoS)] = some chunk) :
    Stream [subscribe ⟨dup, id.toNat, [(⟨none, topic.bytes⟩, requestedQoS)]⟩] chunk := by
  have small : maxMqttPacketSize < 65536 := by decide
  have single : ∀ request ∈ [(MQTTString.ofCString topic, requestedQoS)], request.1.Single := by
    simpa using MQTTString.single_ofCString topic
  obtain ⟨⟨body, framed⟩, fits⟩ := MQTTSerialize.subscribe_framed single (by decide) written
  have read := subscribe_roundTrip_packet [] single small written
  rw [List.append_nil] at read
  refine .single ⟨⟨_, _, framed⟩, fits⟩ ?_
  unfold ClientPacket.read
  rw [headD_type framed, read]
  rfl

theorem stream_unsubscribe
    (written : MQTTSerialize.unsubscribe maxMqttPacketSize dup id [.ofCString topic] = some chunk) :
    Stream [unsubscribe ⟨dup, id.toNat, [⟨none, topic.bytes⟩]⟩] chunk := by
  have small : maxMqttPacketSize < 65536 := by decide
  have single : ∀ topicFilter ∈ [MQTTString.ofCString topic], topicFilter.Single := by
    simpa using MQTTString.single_ofCString topic
  obtain ⟨⟨body, framed⟩, fits⟩ := MQTTSerialize.unsubscribe_framed single (by decide) written
  have read := unsubscribe_roundTrip_packet [] single small written
  rw [List.append_nil] at read
  refine .single ⟨⟨_, _, framed⟩, fits⟩ ?_
  unfold ClientPacket.read
  rw [headD_type framed, read]
  rfl

theorem stream_zero (kind : type = .pingreq ∨ type = .disconnect)
    (written : MQTTSerialize.zero maxMqttPacketSize type = some chunk) :
    Stream [if type = .pingreq then pingreq else disconnect] chunk := by
  obtain ⟨framed, fits⟩ := MQTTSerialize.zero_framed written
  refine .single ⟨⟨_, _, framed⟩, fits⟩ ?_
  unfold read
  rw [headD_type framed]
  rcases kind with rfl | rfl <;> rfl

end Written

end ClientPacket

namespace Client

open ClientPacket

variable {P : Type} {client between after : Client P} {strings : P → CString} {packets others : List ClientPacket}
  {chunk : List UInt8}

/-- From one state to the other, a socket that takes everything it is given takes these packets. -/
def Sends (client after : Client P) (packets : List ClientPacket) : Prop :=
  client.ipstack.writes = [] → after.ipstack.writes = [] ∧
    ∃ bytes, Stream packets bytes ∧ after.ipstack.outgoing = client.ipstack.outgoing ++ bytes

/-- Nothing but acknowledgements and pings is sent. -/
def Chatters (client after : Client P) : Prop := ∃ packets, Sends client after packets ∧ ∀ packet ∈ packets, packet.control = true

theorem Sends.of_eq (writes : after.ipstack.writes = client.ipstack.writes)
    (outgoing : after.ipstack.outgoing = client.ipstack.outgoing) : Sends client after [] :=
  fun whole => ⟨writes.trans whole, [], .nil, by rw [outgoing, List.append_nil]⟩

theorem Sends.trans (first : Sends client between packets) (second : Sends between after others) :
    Sends client after (packets ++ others) := by
  intro whole
  obtain ⟨still, bytes, stream, outgoing⟩ := first whole
  obtain ⟨last, more, later, appended⟩ := second still
  exact ⟨last, bytes ++ more, stream.append later, by rw [appended, outgoing, List.append_assoc]⟩

theorem Chatters.of_eq (writes : after.ipstack.writes = client.ipstack.writes)
    (outgoing : after.ipstack.outgoing = client.ipstack.outgoing) : Chatters client after :=
  ⟨[], .of_eq writes outgoing, by simp⟩

theorem Chatters.trans (first : Chatters client between) (second : Chatters between after) : Chatters client after := by
  obtain ⟨packets, sent, control⟩ := first
  obtain ⟨others, later, controlLater⟩ := second
  refine ⟨packets ++ others, sent.trans later, fun packet member => ?_⟩
  exact (List.mem_append.mp member).elim (control packet) (controlLater packet)

theorem sendLoop_nil (clock : List Bool) (ipstack : IPStack) : sendLoop clock ipstack [] = (true, ipstack, clock) := by
  cases clock <;> rfl

theorem sendLoop_whole {ipstack : IPStack} (whole : ipstack.writes = []) (clock : List Bool) (packet : List UInt8) :
    (∃ left, sendLoop clock ipstack packet = (true, { ipstack with outgoing := ipstack.outgoing ++ packet }, left)) ∨
      ∃ left, sendLoop clock ipstack packet = (false, ipstack, left) := by
  by_cases empty : packet = []
  · subst empty
    exact .inl ⟨clock, by rw [sendLoop_nil, List.append_nil]⟩
  · cases clock with
    | nil => exact .inr ⟨[], by simp [sendLoop, empty]⟩
    | cons expired clock =>
      unfold sendLoop
      rw [if_neg empty]
      cases expired with
      | true => exact .inr ⟨clock, rfl⟩
      | false =>
        have all : ipstack.write packet = ((packet.length : Int), { ipstack with outgoing := ipstack.outgoing ++ packet }) := by
          unfold IPStack.write
          rw [whole]
          simp only [Int.toNat_natCast, List.take_length, List.tail_nil]
        simp only [Bool.false_eq_true, if_false, all]
        rw [if_neg (by omega), Int.toNat_natCast, List.drop_length, sendLoop_nil]
        exact .inl ⟨clock, by rw [whole]⟩

theorem sendPacket_sends (client : Client P) {packet : ClientPacket} (stream : Stream [packet] chunk) :
    Sends client (client.sendPacket chunk).2 (if (client.sendPacket chunk).1 then [packet] else []) := by
  intro whole
  unfold sendPacket
  rcases sendLoop_whole whole client.clock chunk with ⟨clock, sent⟩ | ⟨clock, failed⟩
  · rw [sent]
    exact ⟨whole, chunk, stream, rfl⟩
  · rw [failed]
    exact ⟨whole, [], .nil, (List.append_nil _).symm⟩

theorem sendPacket_chatters {packet : ClientPacket} (stream : Stream [packet] chunk) (control : packet.control = true) :
    Chatters client (client.sendPacket chunk).2 := by
  refine ⟨_, sendPacket_sends client stream, fun other member => ?_⟩
  split at member
  · rw [List.mem_singleton.mp member]
    exact control
  · cases member

theorem read_quiet (ipstack : IPStack) (len : Nat) :
    (ipstack.read len).2.outgoing = ipstack.outgoing ∧ (ipstack.read len).2.writes = ipstack.writes := by
  unfold IPStack.read
  split
  · exact ⟨rfl, rfl⟩
  · split
    · exact ⟨rfl, rfl⟩
    · split <;> exact ⟨rfl, rfl⟩

theorem readInto_chatters (start len : Nat) : Chatters client (client.readInto start len).2 :=
  .of_eq (read_quiet client.ipstack len).2 (read_quiet client.ipstack len).1

theorem decodePacket_chatters : Chatters client client.decodePacket.2 := by
  have asked : ∀ ipstack : IPStack,
      ipstack.outgoing = client.ipstack.outgoing ∧ ipstack.writes = client.ipstack.writes →
      (getchar (fun len ipstack => IPStack.read ipstack len) ipstack).2.outgoing = client.ipstack.outgoing ∧
        (getchar (fun len ipstack => IPStack.read ipstack len) ipstack).2.writes = client.ipstack.writes := by
    intro ipstack same
    obtain ⟨outgoing, writes⟩ := read_quiet ipstack 1
    exact ⟨outgoing.trans same.1, writes.trans same.2⟩
  have kept := decodeDigits_invariant _ asked ⟨rfl, rfl⟩ 4 0 0 1
  exact .of_eq kept.2 kept.1

theorem putLength_chatters (length : List UInt8) : Chatters client (client.putLength length) := .of_eq rfl rfl

theorem readPacket_chatters : Chatters client client.readPacket.2 := by
  have first : Chatters client (client.readInto 0 1).2 := readInto_chatters 0 1
  unfold readPacket
  split
  · rename_i read
    rwa [read] at first
  · rename_i after read
    rw [read] at first
    have put := (first.trans decodePacket_chatters).trans (putLength_chatters (encode after.decodePacket.1))
    simp only
    split
    · exact put
    · have body := put.trans (readInto_chatters (1 + (encode after.decodePacket.1).length) after.decodePacket.1)
      split
      all_goals
        rename_i last
        rw [last] at body
        exact body

theorem pingDue_chatters : Chatters client client.pingDue.2 := by
  unfold pingDue
  split <;> exact .of_eq rfl rfl

theorem keepalive_chatters : Chatters client client.keepalive := by
  unfold keepalive
  split
  · exact .of_eq rfl rfl
  · simp only
    split
    · split
      · exact pingDue_chatters
      · rename_i chunk written
        have sent : Chatters client (client.pingDue.2.sendPacket chunk).2 :=
          pingDue_chatters.trans (sendPacket_chatters (stream_zero (.inl rfl) written) rfl)
        split
        · exact sent.trans (.of_eq rfl rfl)
        · exact sent
    · exact pingDue_chatters

theorem deliverMessage_chatters (topicName : MQTTString) (message : MQTT.Message) :
    Chatters client (client.deliverMessage strings topicName message) := .of_eq rfl rfl

theorem cyclePublish_chatters : Chatters client (client.cyclePublish strings).2.2 := by
  unfold cyclePublish
  split
  · exact .of_eq rfl rfl
  · split
    · exact .of_eq rfl rfl
    · split
      · exact .of_eq rfl rfl
      · rename_i fields _
        have delivered : Chatters client (client.deliverMessage strings fields.topicName
          ⟨fields.qos, fields.retained, fields.dup, fields.packetid, fields.payload, fields.payloadlen⟩) :=
          deliverMessage_chatters _ _
        have acknowledged : ∀ type chunk, type = MsgType.puback ∨ type = .pubrec →
            MQTTSerialize.ack maxMqttPacketSize type false (.ofNat (fields.packetid.getD 0)) = some chunk →
            Chatters client ((client.deliverMessage strings fields.topicName
              ⟨fields.qos, fields.retained, fields.dup, fields.packetid, fields.payload, fields.payloadlen⟩).sendPacket
                chunk).2 := fun type chunk kind written =>
          delivered.trans (sendPacket_chatters (stream_ack kind written) rfl)
        simp only
        split
        · exact delivered
        · split
          · split
            · exact delivered
            · rename_i written
              split <;> exact acknowledged _ _ (.inl rfl) written
          · split
            · split
              · exact delivered
              · rename_i written
                split <;> exact acknowledged _ _ (.inr rfl) written
            · exact delivered

theorem cycle_chatters : Chatters client (client.cycle strings).2 := by
  have read : Chatters client client.readPacket.2 := readPacket_chatters
  unfold cycle
  simp only
  split
  · exact read.trans keepalive_chatters
  · split
    · have published : Chatters client (client.readPacket.2.cyclePublish strings).2.2 := read.trans cyclePublish_chatters
      split
      · rename_i cycled
        rwa [cycled] at published
      · rename_i cycled
        rw [cycled] at published
        exact published.trans keepalive_chatters
    · split
      · have answered : Chatters client { client.readPacket.2 with pingOutstanding := false } :=
          read.trans (.of_eq rfl rfl)
        exact answered.trans keepalive_chatters
      · exact read.trans keepalive_chatters

theorem expired_chatters : Chatters client client.expired.2 := .of_eq rfl rfl

theorem waitforLoop_chatters (packetType : MsgType) (rounds : Nat) :
    Chatters client (waitforLoop strings packetType rounds client).2 := by
  induction rounds generalizing client with
  | zero => exact .of_eq rfl rfl
  | succ rounds ih =>
    unfold waitforLoop
    simp only
    split
    · exact expired_chatters
    · split
      · exact expired_chatters.trans cycle_chatters
      · exact (expired_chatters.trans cycle_chatters).trans ih

theorem waitfor_chatters (packetType : MsgType) : Chatters client (client.waitfor strings packetType).2 := by
  unfold waitfor
  exact waitforLoop_chatters packetType _

theorem yieldLoop_chatters (rounds : Nat) : Chatters client (yieldLoop strings rounds client).2 := by
  induction rounds generalizing client with
  | zero => exact .of_eq rfl rfl
  | succ rounds ih =>
    unfold yieldLoop
    simp only
    split
    · exact expired_chatters
    · split
      · exact expired_chatters.trans cycle_chatters
      · exact (expired_chatters.trans cycle_chatters).trans ih

theorem yield_chatters : Chatters client (client.yield strings).2 := yieldLoop_chatters _

/-- Apart from acknowledgements and pings, the one packet is sent that is asked for, or none if it fails. -/
def Asks (client after : Client P) (succeeded : Bool) (request : UInt16 → ClientPacket) : Prop :=
  ∃ packets, Sends client after packets ∧
    ((∃ id, packets.filter (fun packet => !packet.control) = [request id]) ∨
      succeeded = false ∧ packets.filter (fun packet => !packet.control) = [])

variable {request : UInt16 → ClientPacket} {id : UInt16} {succeeded : Bool}

theorem Chatters.silent {quiet : List ClientPacket} (control : ∀ packet ∈ quiet, packet.control = true) :
    quiet.filter (fun packet => !packet.control) = [] := by
  rw [List.filter_eq_nil_iff]
  intro packet member
  simp [control packet member]

theorem Asks.failed (chatters : Chatters client after) : Asks client after false request := by
  obtain ⟨packets, sent, control⟩ := chatters
  exact ⟨packets, sent, .inr ⟨rfl, Chatters.silent control⟩⟩

theorem Asks.later (asks : Asks between after succeeded request) (chatters : Chatters client between) :
    Asks client after succeeded request := by
  obtain ⟨packets, sent, control⟩ := chatters
  obtain ⟨others, later, asked⟩ := asks
  refine ⟨packets ++ others, sent.trans later, ?_⟩
  rwa [List.filter_append, Chatters.silent control, List.nil_append]

theorem Asks.unsent (stream : Stream [request id] chunk) (failed : client.sendPacket chunk = (false, between))
    (chatters : Chatters between after) : Asks client after false request := by
  have sent := sendPacket_sends client stream
  rw [failed] at sent
  exact .failed (.trans ⟨[], sent, by simp⟩ chatters)

theorem Asks.sent (stream : Stream [request id] chunk) (asked : (request id).control = false)
    (complete : client.sendPacket chunk = (true, between)) (chatters : Chatters between after) :
    Asks client after succeeded request := by
  obtain ⟨packets, later, control⟩ := chatters
  have sent := sendPacket_sends client stream
  rw [complete] at sent
  refine ⟨[request id] ++ packets, Sends.trans sent later, .inl ⟨id, ?_⟩⟩
  rw [List.filter_append, Chatters.silent control, List.append_nil, List.filter_singleton, asked]
  rfl

variable {rc : Int}

theorem publishPacket_asks (stream : Stream [request id] chunk) (asked : (request id).control = false) {qos : Nat}
    (result : client.publishPacket strings chunk qos = (rc, after)) : Asks client after (decide (rc = 0)) request := by
  unfold publishPacket at result
  split at result
  · rename_i failed
    cases result
    exact .unsent stream failed (.of_eq rfl rfl)
  · rename_i between sent
    have waited : Chatters between (between.waitfor strings .puback).2 := waitfor_chatters _
    refine .sent stream asked sent ?_
    split at result
    · cases result
      exact .of_eq rfl rfl
    · split at result
      · rename_i answered
        cases result
        rw [answered] at waited
        exact waited.trans (.of_eq rfl rfl)
      · rename_i answered
        rw [answered] at waited
        split at result
        · cases result
          split
          · exact waited.trans (.of_eq rfl rfl)
          · exact waited
        · cases result
          exact waited.trans (.of_eq rfl rfl)

theorem publish_asks {topicName : CString} {payload : List UInt8} {qos : Nat} (level : qos < 4) {retained : Bool}
    (result : client.publish strings topicName payload qos retained = (rc, after)) :
    Asks client after (decide (rc = 0)) fun id =>
      .publish ⟨false, qos, retained, if 0 < qos then some id.toNat else none, ⟨none, topicName.bytes⟩, payload,
        payload.length⟩ := by
  have drawn : Chatters client (client.publishId qos).2 := by
    unfold publishId
    split <;> exact .of_eq rfl rfl
  unfold publish at result
  split at result
  · cases result
    exact .failed (.of_eq rfl rfl)
  · simp only at result
    split at result
    · cases result
      exact .failed drawn
    · rename_i chunk written
      have kept : Chatters client ((client.publishId qos).2.keep chunk (client.publishId qos).1 qos) := by
        refine drawn.trans ?_
        unfold keep
        split <;> exact .of_eq rfl rfl
      exact (publishPacket_asks (stream_publish level written) rfl result).later kept

theorem subscribe_asks {topicFilter : P} {qos : Nat} (result : client.subscribe strings topicFilter qos = (rc, after)) :
    Asks client after (decide (rc = 0)) fun id =>
      .subscribe ⟨false, id.toNat, [(⟨none, (strings topicFilter).bytes⟩, .ofNat qos)]⟩ := by
  have drawn : Chatters client client.getNext.2 := .of_eq rfl rfl
  unfold subscribe at result
  split at result
  · cases result
    exact .failed (.of_eq rfl rfl)
  · simp only at result
    split at result
    · cases result
      exact .failed (.of_eq rfl rfl)
    · rename_i chunk written
      refine Asks.later ?_ drawn
      split at result
      · rename_i failed
        cases result
        exact .unsent (stream_subscribe written) failed (.of_eq rfl rfl)
      · rename_i between sent
        have waited : Chatters between (between.waitfor strings .suback).2 := waitfor_chatters _
        refine .sent (stream_subscribe written) rfl sent ?_
        split at result
        · rename_i answered
          cases result
          rw [answered] at waited
          exact waited.trans (.of_eq rfl rfl)
        · rename_i last answered
          rw [answered] at waited
          have handled : Chatters between (last.handle topicFilter (grantedQoS last.readbuf)).2 := by
            refine waited.trans ?_
            unfold handle
            split
            · exact .of_eq rfl rfl
            · split <;> exact .of_eq rfl rfl
          cases result
          split
          · exact handled
          · exact handled.trans (.of_eq rfl rfl)

theorem unsubscribe_asks {topicFilter : CString} (result : client.unsubscribe strings topicFilter = (rc, after)) :
    Asks client after (decide (rc = 0)) fun id => .unsubscribe ⟨false, id.toNat, [⟨none, topicFilter.bytes⟩]⟩ := by
  have drawn : Chatters client client.getNext.2 := .of_eq rfl rfl
  unfold unsubscribe at result
  split at result
  · cases result
    exact .failed (.of_eq rfl rfl)
  · simp only at result
    split at result
    · cases result
      exact .failed (.of_eq rfl rfl)
    · rename_i chunk written
      refine Asks.later ?_ drawn
      split at result
      · rename_i failed
        cases result
        exact .unsent (stream_unsubscribe written) failed (.of_eq rfl rfl)
      · rename_i between sent
        have waited : Chatters between (between.waitfor strings .unsuback).2 := waitfor_chatters _
        refine .sent (stream_unsubscribe written) rfl sent ?_
        split at result
        · rename_i answered
          cases result
          rw [answered] at waited
          exact waited.trans (.of_eq rfl rfl)
        · rename_i answered
          rw [answered] at waited
          cases result
          split
          · exact waited.trans (.of_eq rfl rfl)
          · exact waited

theorem connect_sends {options : ConnectData} (version : options.mqttVersion = 3 ∨ options.mqttVersion = 4)
    (level : options.willFlag = true → options.will.qos.toNat < 4) (admitted : options.admitted = true)
    (inflight : client.inflightMsgid = 0) (accepted : client.connect strings options = (0, after)) :
    ∃ quiet, Sends client after (.connect options.fields :: quiet) ∧ ∀ packet ∈ quiet, packet.control = true := by
  unfold connect at accepted
  split at accepted
  · cases accepted
  · simp only at accepted
    split at accepted
    · cases accepted
    · rename_i chunk written
      split at accepted
      · cases accepted
      · rename_i between sent
        have packet := sendPacket_sends { client with
          keepAliveInterval := options.keepAliveInterval.toNat, cleansession := options.cleansession }
          (stream_connect version level admitted written)
        rw [sent] at packet
        have waited : Chatters between (between.waitfor strings .connack).2 := waitfor_chatters _
        have nothing : (between.waitfor strings .connack).2.inflightMsgid = 0 := by
          have same : (between.waitfor strings .connack).2.session = between.session := waitfor_session _
          have kept : between.inflightMsgid = client.inflightMsgid :=
            congrArg (fun result => result.2.inflightMsgid) sent.symm
          exact ((congrArg Session.inflightMsgid same).trans kept).trans inflight
        rw [nothing, if_neg (Nat.lt_irrefl 0)] at accepted
        obtain ⟨quiet, later, control⟩ := waited
        obtain ⟨code, last⟩ := Prod.ext_iff.mp accepted
        simp only at code last
        rw [if_pos code] at last
        have behind : Sends between after quiet := by
          rw [← last]
          exact later
        exact ⟨quiet, Sends.trans packet behind, control⟩

end Client

namespace ClientCall

open Client ClientPacket

variable {P : Type} {strings : P → CString}

/-- What a call asks the broker for, under a packet id. -/
def packet : (P → CString) × ClientCall P → UInt16 → Option ClientPacket
  | (_, .publish topic payload qos retained), id =>
    if 2 < qos then none
    else some (.publish ⟨false, qos.toNat, retained, if 0 < qos.toNat then some id.toNat else none, ⟨none, topic.bytes⟩,
      payload, payload.length⟩)
  | (strings, .subscribe topic qos), id =>
    if 2 < qos then none else some (.subscribe ⟨false, id.toNat, [(⟨none, (strings topic).bytes⟩, qos)]⟩)
  | (_, .unsubscribe (some topic)), id =>
    if topic.length = 0 then none else some (.unsubscribe ⟨false, id.toNat, [⟨none, topic.bytes⟩]⟩)
  | (_, .unsubscribe none), _ => none
  | (_, .loop _), _ => none

/-- The packets are those of the calls, in their order; those that failed and those that ask for nothing may be
    missing. -/
inductive Answered : List ((P → CString) × ClientCall P) → List Bool → List ClientPacket → Prop where
  | nil : Answered [] [] []
  | sent {call : (P → CString) × ClientCall P} {calls : List ((P → CString) × ClientCall P)} {result : Bool}
      {results : List Bool} {packet : ClientPacket} {packets : List ClientPacket} {id : UInt16}
      (asked : ClientCall.packet call id = some packet) (later : Answered calls results packets) :
      Answered (call :: calls) (result :: results) (packet :: packets)
  | silent {call : (P → CString) × ClientCall P} {calls : List ((P → CString) × ClientCall P)} {result : Bool}
      {results : List Bool} {packets : List ClientPacket}
      (quiet : result = false ∨ ∀ id, ClientCall.packet call id = none) (later : Answered calls results packets) :
      Answered (call :: calls) (result :: results) packets

/-- What one call sends, and that it does so if it succeeds. -/
def Sent (client : Client P) (call : (P → CString) × ClientCall P) (result : Bool) (after : Client P) : Prop :=
  ∃ packets, Sends client after packets ∧
    ((∃ id packet, ClientCall.packet call id = some packet ∧ packets.filter (fun packet => !packet.control) = [packet]) ∨
      (result = false ∨ ∀ id, ClientCall.packet call id = none) ∧
        packets.filter (fun packet => !packet.control) = [])

variable {client after : Client P} {call : (P → CString) × ClientCall P} {rc : Int}

theorem Sent.of_asks {request : UInt16 → ClientPacket} (packet : ∀ id, ClientCall.packet call id = some (request id))
    (asks : Asks client after (decide (rc = 0)) request) : Sent client call (decide (rc = 0)) after := by
  obtain ⟨packets, sent, ⟨id, asked⟩ | ⟨failed, quiet⟩⟩ := asks
  · exact ⟨packets, sent, .inl ⟨id, _, packet id, asked⟩⟩
  · exact ⟨packets, sent, .inr ⟨.inl failed, quiet⟩⟩

theorem Sent.of_chatters {result : Bool} (nothing : result = false ∨ ∀ id, ClientCall.packet call id = none)
    (chatters : Chatters client after) : Sent client call result after := by
  obtain ⟨packets, sent, control⟩ := chatters
  exact ⟨packets, sent, .inr ⟨nothing, Chatters.silent control⟩⟩

theorem perform_sent (client : Client P) (call : (P → CString) × ClientCall P)
    (lasting : ∀ reconnect, call.2 = .loop reconnect → client.isconnected = true) :
    Sent client call (perform client call).1 (perform client call).2 := by
  obtain ⟨strings, call⟩ := call
  cases call with
  | publish topic payload qos retained =>
    unfold perform PahoMqttMessageHandler.publish
    simp only
    by_cases refused : 2 < qos
    · rw [if_pos refused]
      exact .of_chatters (.inl (by simp)) (.of_eq rfl rfl)
    · rw [if_neg refused]
      have level : qos.toNat < 4 := by
        have below := UInt8.not_lt.mp refused
        rw [UInt8.le_iff_toNat_le] at below
        exact Nat.lt_of_le_of_lt below (by decide)
      exact .of_asks (fun id => if_neg refused) (publish_asks level rfl)
  | subscribe topic qos =>
    unfold perform PahoMqttMessageHandler.subscribe
    simp only
    by_cases refused : 2 < qos
    · rw [if_pos refused]
      exact .of_chatters (.inl (by simp)) (.of_eq rfl rfl)
    · rw [if_neg refused]
      refine .of_asks (fun id => ?_) (subscribe_asks rfl)
      rw [UInt8.ofNat_toNat]
      exact if_neg refused
  | unsubscribe topic =>
    cases topic with
    | none => exact .of_chatters (.inr fun _ => rfl) (.of_eq rfl rfl)
    | some topic =>
      unfold perform PahoMqttMessageHandler.unsubscribe
      simp only
      by_cases empty : topic.length = 0
      · rw [if_pos empty]
        exact .of_chatters (.inr fun _ => if_pos empty) (.of_eq rfl rfl)
      · rw [if_neg empty]
        exact .of_asks (fun id => if_neg empty) (unsubscribe_asks rfl)
  | loop reconnect =>
    have yields : perform client (strings, .loop reconnect) = (true, (client.yield strings).2) :=
      PahoMqttMessageHandler.loop_connected (lasting reconnect rfl) reconnect
    rw [yields]
    exact .of_chatters (.inr fun _ => rfl) yield_chatters

theorem results_sent (client : Client P) (calls : List ((P → CString) × ClientCall P)) (lasting : Lasting client calls) :
    ∃ packets, Sends client (results perform client calls).2 packets ∧
      Answered calls (results perform client calls).1 (packets.filter fun packet => !packet.control) := by
  induction calls generalizing client with
  | nil => exact ⟨[], .of_eq rfl rfl, .nil⟩
  | cons call calls ih =>
    obtain ⟨here, after⟩ := lasting
    obtain ⟨packets, sent, asked⟩ := perform_sent client call here
    obtain ⟨others, later, answered⟩ := ih (perform client call).2 after
    refine ⟨packets ++ others, sent.trans later, ?_⟩
    rw [List.filter_append]
    rcases asked with ⟨id, packet, asked, one⟩ | ⟨nothing, none⟩
    · rw [one]
      exact .sent asked answered
    · rw [none]
      exact .silent nothing answered

section Program

open PahoMqttMessageHandler

/-- When `loop` has found a connection with the connect data of a configuration, over a socket that takes everything it
    is given, then until it looks for another one a broker that uses the same library reads the CONNECT and then, apart
    from acknowledgements and pings, the calls that follow, in their order and each of them once; only calls that have
    failed may be missing. -/
theorem broker_reads_calls {ipstack : IPStack} {clock : List Bool} {readbuf : List UInt8} {moves : List (ClientMove P)}
    {file : List UInt8} {stack : Stack} {reconnect : Reconnect} {online : Client P}
    {calls : List ((P → CString) × ClientCall P)} (clean : ∀ move ∈ moves, move.Clean)
    (selected : selectedConnect (config file stack) (login file stack) (will file stack) = some reconnect.options)
    (outgoing : reconnect.ipstack.outgoing = []) (whole : reconnect.ipstack.writes = [])
    (offline : (ClientMove.applyAll ipstack clock readbuf moves).1.isconnected = false)
    (accepted : PahoMqttMessageHandler.loop strings (ClientMove.applyAll ipstack clock readbuf moves).1 (some reconnect) = (true, online))
    (lasting : Lasting online calls) :
    ∃ packets, readStream (results perform online calls).2.ipstack.outgoing =
        some (.connect reconnect.options.fields :: packets) ∧
      Answered calls (results perform online calls).1 (packets.filter fun packet => !packet.control) := by
  have inflight : (ClientMove.applyAll ipstack clock readbuf moves).1.inflightMsgid = 0 :=
    (ClientMove.foldl_regular clean (Client.initial_regular ipstack clock readbuf)).inflight
  generalize (ClientMove.applyAll ipstack clock readbuf moves).1 = client at inflight offline accepted
  obtain ⟨version, level, admitted, _⟩ := selectedConnect_valid (login_password file stack) selected
  unfold PahoMqttMessageHandler.loop at accepted
  rw [if_neg (ne_true_of_eq_false offline)] at accepted
  have connected : ({ client with ipstack := reconnect.ipstack, clock := reconnect.clock } : Client P).connect strings
      reconnect.options = (0, online) := by
    obtain ⟨code, after⟩ := Prod.ext_iff.mp accepted
    exact Prod.ext (of_decide_eq_true code) after
  have nothing : ({ client with ipstack := reconnect.ipstack, clock := reconnect.clock } : Client P).inflightMsgid = 0 :=
    inflight
  obtain ⟨quiet, begun, control⟩ := connect_sends version level admitted nothing connected
  obtain ⟨packets, sent, answered⟩ := results_sent online calls lasting
  obtain ⟨_, bytes, stream, written⟩ := begun.trans sent whole
  refine ⟨quiet ++ packets, ?_, ?_⟩
  · rw [written]
    simp only [outgoing, List.nil_append]
    exact stream.readStream
  · rwa [List.filter_append, Chatters.silent control, List.nil_append]

end Program

end ClientCall

namespace Scenario

open ClientCall ClientPacket PahoMqttMessageHandler

def retainedOptions : ConnectData :=
  (selectedConnect (config retainedWill.firstFile ⟨[], [], []⟩) (login retainedWill.firstFile ⟨[], [], []⟩)
    (will retainedWill.firstFile ⟨[], [], []⟩)).get (by decide +kernel)

def retainedConnection : Reconnect := ⟨retainedOptions, mqttClient.ipstack, mqttClient.clock⟩

def onlineAgain : Client CString :=
  (loop id (ClientMove.applyAll ⟨[], [], []⟩ [] [] reconnecting).1 (some retainedConnection)).2

/-- What the client has written is a CONNECT, a SUBSCRIBE and two PUBLISH packets. -/
theorem subscriber_read :
    ∃ packets, readStream (results perform onlineAgain subscriberCalls).2.ipstack.outgoing =
        some (.connect retainedConnection.options.fields :: packets) ∧
      Answered subscriberCalls (results perform onlineAgain subscriberCalls).1 (packets.filter fun packet => !packet.control) := by
  have offline : (ClientMove.applyAll ⟨[], [], []⟩ [] [] reconnecting).1.isconnected = false := by decide +kernel
  have code : (loop id (ClientMove.applyAll ⟨[], [], []⟩ [] [] reconnecting).1 (some retainedConnection)).1 = true := by
    decide +kernel
  have whole : ∀ outcome : Bool × Client CString, outcome.1 = true → outcome = (true, outcome.2) :=
    fun outcome succeeded => Prod.ext succeeded rfl
  have accepted : loop id (ClientMove.applyAll ⟨[], [], []⟩ [] [] reconnecting).1 (some retainedConnection) =
      (true, onlineAgain) := whole _ code
  have lasting : Lasting onlineAgain subscriberCalls := by
    refine ⟨nofun, fun _ _ => ?_, nofun, nofun, trivial⟩
    decide +kernel
  have selected : selectedConnect (config retainedWill.firstFile ⟨[], [], []⟩) (login retainedWill.firstFile ⟨[], [], []⟩)
      (will retainedWill.firstFile ⟨[], [], []⟩) = some retainedConnection.options := by decide +kernel
  have outgoing : retainedConnection.ipstack.outgoing = [] := by decide +kernel
  have writes : retainedConnection.ipstack.writes = [] := by decide +kernel
  exact broker_reads_calls reconnecting_clean selected outgoing writes offline accepted lasting

end Scenario

end MqttSnGateway
