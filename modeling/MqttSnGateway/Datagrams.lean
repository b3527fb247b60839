import MqttSnGateway.Steps

namespace MqttSnGateway

namespace Datagram

def halfword (w : UInt16) : List UInt8 := [w.toUInt8, (w >>> 8).toUInt8]

def connect (clientId : CString) (duration : UInt16) (flags : UInt8) : List UInt8 :=
  [UInt8.ofNat (7 + clientId.length), 0x04, flags, 1] ++ halfword duration ++ clientId.bytes ++ [0]

def willtopic (willTopic : CString) (flags : UInt8) : List UInt8 :=
  [UInt8.ofNat (4 + willTopic.length), 0x07, flags] ++ willTopic.bytes ++ [0]

def willmsg (willMsg : List UInt8) : List UInt8 := [UInt8.ofNat (2 + willMsg.length), 0x09] ++ willMsg

def register (msgId : UInt16) (topicName : CString) : List UInt8 :=
  [UInt8.ofNat (7 + topicName.length), 0x0a, 0, 0] ++ halfword msgId ++ topicName.bytes ++ [0]

def publish (flags : UInt8) (topicId msgId : UInt16) (data : List UInt8) : List UInt8 :=
  [UInt8.ofNat (7 + data.length), 0x0c, flags, 0] ++ halfword topicId ++ halfword msgId ++ data

def puback (topicId msgId : UInt16) (returnCode : UInt8) : List UInt8 :=
  [7, 0x0d] ++ halfword topicId ++ halfword msgId ++ [returnCode]

def subscribeByName (topicName : CString) (msgId : UInt16) (flags : UInt8) : List UInt8 :=
  [UInt8.ofNat (6 + topicName.length), 0x12, flags, 0] ++ halfword msgId ++ topicName.bytes

/-- UNSUBSCRIBE by topic id, whose length byte counts seven. -/
def unsubscribe (topicId msgId : UInt16) (flags : UInt8) : List UInt8 :=
  [7, 0x14, flags, 0] ++ halfword msgId ++ halfword topicId

def unsubscribeByName (topicName : CString) (msgId : UInt16) : List UInt8 :=
  [UInt8.ofNat (6 + topicName.length), 0x14, 0, 0] ++ halfword msgId ++ topicName.bytes

def pingreq (clientId : CString) : List UInt8 :=
  [UInt8.ofNat (3 + clientId.length), 0x16] ++ clientId.bytes ++ [0]

def disconnect : List UInt8 := [2, 0x18]

end Datagram

theorem halfword_bytes (w : UInt16) : w.toUInt8.toUInt16 + (w >>> 8).toUInt8.toUInt16 * 256 = w := by
  apply UInt16.toNat_inj.mp
  have bound := w.toNat_lt
  have shift : w.toNat >>> ((8 : UInt16).toNat % 16) = w.toNat / 256 := by
    rw [Nat.shiftRight_eq_div_pow]
    rfl
  simp only [UInt16.toNat_add, UInt16.toNat_mul, UInt8.toNat_toUInt16, UInt16.toNat_toUInt8, UInt16.toNat_shiftRight,
    shift]
  have base : UInt16.toNat 256 = 256 := rfl
  rw [base]
  omega

namespace Scenario

/-- A gateway that keeps its files in the directory `rootPath` and runs in the root directory. -/
def configuration (rootPath : List UInt8) : Configuration where
  topicsPre := ⟨fun _ => none, by simp⟩
  sd := ⟨rootPath, [], fun _ => false⟩
  mqttWill := none
  maximumMessageLength := 255
  accepted := by decide

def client (host : UInt8) : SockaddrIn := ⟨(10, 0, 0, host), 1000⟩

def name (letter : UInt8) : CString := .ofMemory [letter]

/-- A run in which the broker answers every call and nothing is left undetermined. -/
def run (rootPath : List UInt8) (events : List Event) : Option Gateway :=
  Runs.execute Gateway.step (Gateway.start (configuration rootPath) .empty)
    (events.map fun event => ⟨event, [], []⟩)

theorem reachable_run {rootPath : List UInt8} {events : List Event} {g : Gateway}
    (executed : run rootPath events = some g) : Gateway.Reachable g :=
  (Runs.Run.start ⟨configuration rootPath, rfl⟩).append (Runs.Run.of_execute (fun _ _ => trivial) executed)

def oneSubscriber : Gateway :=
  (run [47] [.mqttConnect, .datagram (client 1) (Datagram.connect (name 65) 10 0) [],
    .datagram (client 1) (Datagram.subscribeByName (name 116) 1 0) []]).get (by decide +kernel)

theorem reachable_oneSubscriber : oneSubscriber.Reachable := reachable_run (Option.some_get _).symm

end Scenario

end MqttSnGateway
