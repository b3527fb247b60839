import MqttSnGateway.Mqtt.Connect
import MqttSnGateway.Mqtt.Subscribe

namespace MqttSnGateway

open MQTTPacket

/-- The message with its payload as it is delivered; the id is set above QoS 0 only. -/
structure MQTT.Message where
  qos : Nat
  retained : Bool
  dup : Bool
  id : Option Nat
  payload : List UInt8
  payloadlen : Int
deriving DecidableEq

/-- `IPStack`, seen from the client: `incoming` is what arrives, cut where a call of `recv` runs into its timeout, and
    `writes` is what the coming calls of `write` return where the socket does not take everything. -/
structure IPStack where
  incoming : List (List UInt8)
  outgoing : List UInt8
  writes : List Int

namespace IPStack

/-- `read`: the bytes that reach the buffer, and the result. A connection that the other side has closed is not
    modelled. -/
def read (ipstack : IPStack) (len : Nat) : (List UInt8 × Int) × IPStack :=
  if len = 0 then (([], 0), ipstack)
  else match ipstack.incoming with
    | [] => (([], -1), ipstack)
    | arrived :: later =>
      if len ≤ arrived.length then ((arrived.take len, len), { ipstack with incoming := arrived.drop len :: later })
      else ((arrived, -1), { ipstack with incoming := later })

def write (ipstack : IPStack) (buffer : List UInt8) : Int × IPStack :=
  let rc := match ipstack.writes with
    | [] => (buffer.length : Int)
    | rc :: _ => min rc buffer.length
  (rc, { ipstack with outgoing := ipstack.outgoing ++ buffer.take rc.toNat, writes := ipstack.writes.tail })

end IPStack

/-- `MQTT::Client<IPStack, Countdown>`. `clock` is what the coming calls of `expired` answer, after which every timer
    has expired; a message handler is known by the pointer to its topic filter; `pubbuf` is the publish that is in
    flight; `delivered` is what the message handlers have been called with. `torn` is set once a PUBLISH is taken for
    valid although its topic name or its id is not there, after which nothing is said about the client. -/
structure Client (P : Type) where
  ipstack : IPStack
  clock : List Bool
  readbuf : List UInt8
  keepAliveInterval : Nat
  pingOutstanding : Bool
  cleansession : Bool
  packetid : Nat
  messageHandlers : List (Option P)
  isconnected : Bool
  pubbuf : List UInt8
  inflightMsgid : Nat
  inflightQoS : Nat
  delivered : List (MQTTString × MQTT.Message)
  torn : Bool

def maxMqttPacketSize : Nat := 512

def maxMessageHandlers : Nat := 5

def MQTTPacket.equals (a : MQTTString) (b : CString) : Bool :=
  match a.cstring with
  | some s => s.bytes = b.bytes
  | none => a.lenstring = b.bytes

/-- `isTopicMatched`: the filter up to its terminator and the rest of the topic name. -/
def isTopicMatched : List UInt8 → List UInt8 → Bool
  | [], curn => curn = []
  | _ :: _, [] => false
  | f :: curf, n :: curn =>
    if n = 47 && f ≠ 47 then false
    else if f ≠ 43 && f ≠ 35 && f ≠ n then false
    else if f = 43 then isTopicMatched curf (curn.dropWhile (· ≠ 47))
    else if f = 35 then isTopicMatched curf []
    else isTopicMatched curf curn

namespace Client

variable {P : Type}

section Wire

def initial (ipstack : IPStack) (clock : List Bool) (readbuf : List UInt8) : Client P where
  ipstack := ipstack
  clock := clock
  readbuf := readbuf
  keepAliveInterval := 0
  pingOutstanding := false
  cleansession := false
  packetid := 0
  messageHandlers := .replicate maxMessageHandlers none
  isconnected := false
  pubbuf := []
  inflightMsgid := 0
  inflightQoS := 0
  delivered := []
  torn := false

def cleanSession (client : Client P) : Client P :=
  { client with
    pingOutstanding := false, messageHandlers := .replicate maxMessageHandlers none, isconnected := false
    inflightMsgid := 0, inflightQoS := 0 }

def expired (client : Client P) : Bool × Client P := (client.clock.headD true, { client with clock := client.clock.tail })

def getNext (client : Client P) : UInt16 × Client P :=
  let next := if client.packetid = 65535 then 1 else client.packetid + 1
  (.ofNat next, { client with packetid := next })

/-- The loop of `sendPacket` with what the timer answers: whether everything was sent. -/
def sendLoop : List Bool → IPStack → List UInt8 → Bool × IPStack × List Bool
  | [], ipstack, rest => (rest = [], ipstack, [])
  | expired :: clock, ipstack, rest =>
    if rest = [] then (true, ipstack, expired :: clock)
    else if expired then (false, ipstack, clock)
    else
      let (rc, ipstack) := ipstack.write rest
      if rc < 0 then (false, ipstack, clock) else sendLoop clock ipstack (rest.drop rc.toNat)

def sendPacket (client : Client P) (packet : List UInt8) : Bool × Client P :=
  let (sent, ipstack, clock) := sendLoop client.clock client.ipstack packet
  (sent, { client with ipstack := ipstack, clock := clock })

def readInto (client : Client P) (start len : Nat) : Bool × Client P :=
  let ((bytes, rc), ipstack) := client.ipstack.read len
  (rc = len,
    { client with
      ipstack := ipstack
      readbuf := client.readbuf.take start ++ bytes ++ client.readbuf.drop (start + bytes.length) })

/-- `decodePacket`, a copy of `MQTTPacket_decode`: the remaining length as far as it was read. -/
def decodePacket (client : Client P) : Nat × Client P :=
  let (_, value, ipstack) := decode (getchar fun len ipstack => IPStack.read ipstack len) client.ipstack
  (value, { client with ipstack := ipstack })

def putLength (client : Client P) (length : List UInt8) : Client P :=
  { client with readbuf := client.readbuf.take 1 ++ length ++ client.readbuf.drop (1 + length.length) }

def readPacket (client : Client P) : Int × Client P :=
  match client.readInto 0 1 with
  | (false, client) => (-1, client)
  | (true, client) =>
    let (remLen, client) := client.decodePacket
    let length := MQTTPacket.encode remLen
    let client := client.putLength length
    if maxMqttPacketSize < remLen + (1 + length.length) then (-2, client)
    else match client.readInto (1 + length.length) remLen with
      | (false, client) => (-1, client)
      | (true, client) => ((MQTTHeader.ofByte (client.readbuf.headD 0)).type, client)

end Wire

section Cycle

variable (strings : P → CString)

/-- `deliverMessage`; there is no default message handler. -/
def deliverMessage (client : Client P) (topicName : MQTTString) (message : MQTT.Message) : Client P :=
  let called := client.messageHandlers.filter fun topicFilter =>
    topicFilter.any fun topicFilter =>
      MQTTPacket.equals topicName (strings topicFilter) || isTopicMatched (strings topicFilter).bytes topicName.lenstring
  { client with delivered := client.delivered ++ called.map fun _ => (topicName, message) }

def pingDue (client : Client P) : Bool × Client P := if client.expired.1 then client.expired else client.expired.2.expired

def keepalive (client : Client P) : Client P :=
  if client.keepAliveInterval = 0 then client
  else
    let (due, client) := client.pingDue
    if due && !client.pingOutstanding then
      match MQTTSerialize.zero maxMqttPacketSize .pingreq with
      | none => client
      | some packet =>
        let (sent, client) := client.sendPacket packet
        if sent then { client with pingOutstanding := true } else client
    else client

/-- The case PUBLISH of `cycle`: what it sets `rc` to, and whether it goes to the exit. -/
def cyclePublish (client : Client P) : Int × Bool × Client P :=
  match MQTTDeserialize.publish client.readbuf with
  | none => (0, true, { client with torn := true })
  | some ⟨rc, fields⟩ =>
    if rc ≠ 1 then (0, true, client)
    else match fields with
      | none => (0, true, { client with torn := true })
      | some fields =>
        let client := client.deliverMessage strings fields.topicName
          ⟨fields.qos, fields.retained, fields.dup, fields.packetid, fields.payload, fields.payloadlen⟩
        let acknowledge (packettype : MsgType) : Int × Bool × Client P :=
          match MQTTSerialize.ack maxMqttPacketSize packettype false (.ofNat (fields.packetid.getD 0)) with
          | none => (-1, true, client)
          | some packet =>
            let (sent, client) := client.sendPacket packet
            if sent then (0, false, client) else (-1, true, client)
        if fields.qos = 0 then (0, false, client)
        else if fields.qos = 1 then acknowledge .puback
        else if fields.qos = 2 then acknowledge .pubrec
        else (-1, true, client)

def cycle (client : Client P) : Int × Client P :=
  let (packetType, client) := client.readPacket
  if packetType = -1 || packetType = -2 then (packetType, client.keepalive)
  else if packetType = MsgType.publish.code then
    match client.cyclePublish strings with
    | (rc, true, client) => (if rc = 0 then packetType else rc, client)
    | (rc, false, client) => (if rc = 0 then packetType else rc, client.keepalive)
  else if packetType = MsgType.pingresp.code then (packetType, { client with pingOutstanding := false }.keepalive)
  else (packetType, client.keepalive)

/-- The loop of `waitfor`; every round asks the timer once. -/
def waitforLoop (packetType : MsgType) : Nat → Client P → Int × Client P
  | 0, client => (-1, client)
  | rounds + 1, client =>
    let (expired, client) := client.expired
    if expired then (-1, client)
    else
      let (rc, client) := client.cycle strings
      if rc = packetType.code then (rc, client) else waitforLoop packetType rounds client

def waitfor (client : Client P) (packetType : MsgType) : Bool × Client P :=
  let (rc, client) := waitforLoop strings packetType (client.clock.length + 1) client
  (rc = packetType.code, client)

def yieldLoop : Nat → Client P → Bool × Client P
  | 0, client => (true, client)
  | rounds + 1, client =>
    let (expired, client) := client.expired
    if expired then (true, client)
    else
      let (rc, client) := client.cycle strings
      if rc < 0 then (false, client) else yieldLoop rounds client

def yield (client : Client P) : Bool × Client P := yieldLoop strings (client.clock.length + 1) client

end Cycle

section Requests

variable (strings : P → CString)

/-- `publish(len, timer, qos)`: above QoS 1 it waits for nothing. -/
def publishPacket (client : Client P) (packet : List UInt8) (qos : Nat) : Int × Client P :=
  match client.sendPacket packet with
  | (false, client) => (-1, client.cleanSession)
  | (true, client) =>
    if qos ≠ 1 then (0, client)
    else match client.waitfor strings .puback with
      | (false, client) => (-1, client.cleanSession)
      | (true, client) =>
        match MQTTDeserialize.ack client.readbuf with
        | some ⟨1, fields⟩ =>
          let acknowledged := fields.any fun fields => fields.packetid = client.inflightMsgid
          (0, if acknowledged then { client with inflightMsgid := 0 } else client)
        | _ => (-1, client.cleanSession)

/-- The packet id of a publish; below QoS 1 it is not used. -/
def publishId (client : Client P) (qos : Nat) : UInt16 × Client P :=
  if qos = 1 || qos = 2 then client.getNext else (0, client)

/-- Without `cleansession` the publish is kept for the next connection. -/
def keep (client : Client P) (packet : List UInt8) (id : UInt16) (qos : Nat) : Client P :=
  if client.cleansession then client
  else { client with pubbuf := packet, inflightMsgid := id.toNat, inflightQoS := qos }

def publish (client : Client P) (topicName : CString) (payload : List UInt8) (qos : Nat) (retained : Bool) :
    Int × Client P :=
  if !client.isconnected then (-1, client)
  else
    let (id, client) := client.publishId qos
    match MQTTSerialize.publish maxMqttPacketSize false qos retained id (.ofCString topicName) payload with
    | none => (-1, client)
    | some packet => (client.keep packet id qos).publishPacket strings packet qos

def connackCode (readbuf : List UInt8) : Int :=
  match MQTTDeserialize.connack readbuf with
  | some ⟨1, fields⟩ => (fields.map fun fields => (fields.connackRc.toNat : Int)).getD 255
  | _ => -1

/-- `connect`: 0, or the code that the broker or a failure gives. What was in flight is sent again, whatever the
    broker has answered. -/
def connect (client : Client P) (options : ConnectData) : Int × Client P :=
  if client.isconnected then (-1, client)
  else
    let client :=
      { client with keepAliveInterval := options.keepAliveInterval.toNat, cleansession := options.cleansession }
    match MQTTSerialize.connect maxMqttPacketSize options with
    | none => (-1, client)
    | some packet =>
      match client.sendPacket packet with
      | (false, client) => (-1, client)
      | (true, client) =>
        let (answered, client) := client.waitfor strings .connack
        let code := if answered then connackCode client.readbuf else -1
        let (rc, client) :=
          if 0 < client.inflightMsgid then client.publishPacket strings client.pubbuf client.inflightQoS
          else (code, client)
        (rc, if rc = 0 then { client with isconnected := true } else client)

/-- The first free place for a message handler takes the topic filter. -/
def attach (topicFilter : P) : List (Option P) → Option (List (Option P))
  | [] => none
  | none :: handlers => some (some topicFilter :: handlers)
  | some other :: handlers => (attach topicFilter handlers).map (some other :: ·)

/-- What `subscribe` takes from a SUBACK; the granted QoS is read as a signed `char`. -/
def grantedQoS (readbuf : List UInt8) : Int :=
  match MQTTDeserialize.suback 1 readbuf with
  | some ⟨1, fields⟩ =>
    ((fields.bind fun fields => fields.grantedQoSs.head?).map fun granted => granted.toInt8.toInt).getD (-1)
  | _ => 0

/-- A topic filter that is not refused gets a message handler if there is room. -/
def handle (client : Client P) (topicFilter : P) (rc : Int) : Int × Client P :=
  if rc = 128 then (rc, client)
  else match attach topicFilter client.messageHandlers with
    | some handlers => (0, { client with messageHandlers := handlers })
    | none => (rc, client)

def subscribe (client : Client P) (topicFilter : P) (qos : Nat) : Int × Client P :=
  if !client.isconnected then (-1, client.cleanSession)
  else
    let (id, client) := client.getNext
    match MQTTSerialize.subscribe maxMqttPacketSize false id [(.ofCString (strings topicFilter), .ofNat qos)] with
    | none => (-1, client.cleanSession)
    | some packet =>
      match client.sendPacket packet with
      | (false, client) => (-1, client.cleanSession)
      | (true, client) =>
        match client.waitfor strings .suback with
        | (false, client) => (-1, client.cleanSession)
        | (true, client) =>
          let (rc, client) := client.handle topicFilter (grantedQoS client.readbuf)
          (rc, if rc = 0 then client else client.cleanSession)

/-- The first message handler with this topic filter is removed. -/
def detach (topicFilter : CString) : List (Option P) → List (Option P)
  | [] => []
  | handler :: handlers =>
    if handler.any fun other => strings other = topicFilter then none :: handlers
    else handler :: detach topicFilter handlers

def unsubscribe (client : Client P) (topicFilter : CString) : Int × Client P :=
  if !client.isconnected then (-1, client.cleanSession)
  else
    let (id, client) := client.getNext
    match MQTTSerialize.unsubscribe maxMqttPacketSize false id [.ofCString topicFilter] with
    | none => (-1, client.cleanSession)
    | some packet =>
      match client.sendPacket packet with
      | (false, client) => (-1, client.cleanSession)
      | (true, client) =>
        match client.waitfor strings .unsuback with
        | (false, client) => (-1, client.cleanSession)
        | (true, client) =>
          (0,
            match MQTTDeserialize.unsuback client.readbuf with
            | some ⟨1, _⟩ => { client with messageHandlers := detach strings topicFilter client.messageHandlers }
            | _ => client)

def disconnect (client : Client P) : Client P :=
  let client :=
    match MQTTSerialize.zero maxMqttPacketSize .disconnect with
    | none => client
    | some packet => (client.sendPacket packet).2
  if client.cleansession then client.cleanSession else { client with isconnected := false }

end Requests

end Client

/-- `messageArrived`: what `receive_publish` is called with, unless the topic name is too long. -/
def messageArrived (topicName : MQTTString) (message : MQTT.Message) : Option (CString × List UInt8 × UInt32) :=
  if topicName.lenstring.length < 1024 then
    some (.ofMemory (topicName.lenstring ++ [0]), message.payload, .ofInt message.payloadlen)
  else none

namespace PahoMqttMessageHandler

variable {P : Type} (strings : P → CString)

def publish (client : Client P) (topic : CString) (payload : List UInt8) (qos : UInt8) (retained : Bool) :
    Bool × Client P :=
  if 2 < qos then (false, client)
  else
    let (rc, client) := client.publish strings topic payload qos.toNat retained
    (rc = 0, client)

def subscribe (client : Client P) (topic : P) (qos : UInt8) : Bool × Client P :=
  if 2 < qos then (false, client)
  else
    let (rc, client) := client.subscribe strings topic qos.toNat
    (rc = 0, client)

def unsubscribe (client : Client P) (topic : Option CString) : Bool × Client P :=
  match topic with
  | none => (true, client)
  | some topic =>
    if topic.length = 0 then (true, client)
    else
      let (rc, client) := client.unsubscribe strings topic
      (rc = 0, client)

end PahoMqttMessageHandler

end MqttSnGateway
