import MqttSnGateway.Store.Persistent

namespace MqttSnGateway

/-- `ArduinoSystem`; its clock readings are the arguments of the functions below. -/
structure ArduinoSystem where
  heartbeatPeriod : UInt32
  heartbeatCurrent : UInt32
  elapsedCurrent : UInt32
deriving DecidableEq

namespace ArduinoSystem

def hasBeaten (system : ArduinoSystem) (millis : UInt32) : Bool × ArduinoSystem :=
  if millis - system.heartbeatCurrent > system.heartbeatPeriod then
    (true, { system with heartbeatCurrent := millis })
  else (false, system)

def getElapsedTime (system : ArduinoSystem) (millis : UInt32) : UInt32 × ArduinoSystem :=
  (millis - system.elapsedCurrent, { system with elapsedCurrent := millis })

end ArduinoSystem

inductive MqttCall where
  | publish (topic : CString) (payload : List UInt8) (qos : UInt8) (retained : Bool)
  | subscribe (topic : CString) (qos : UInt8)
  | unsubscribe (topic : Option CString)
  | disconnect
deriving DecidableEq

def MqttCall.isPublish : MqttCall → Bool
  | .publish .. => true
  | _ => false

structure MqttWill where
  willTopic : CString
  willMsg : CString
  willQos : UInt8
  willRetain : Bool

/-- The gateway process: the store, the clock, the MQTT client with the topics of its broker session, the
    socket, and what the running step has sent and called so far. `answers` are the results the broker
    gives to coming calls, `unspecified` the values of functions that run off their end, and
    `serviced` the registry slots that the running `loop` has handled. -/
structure Gateway where
  persistent : Persistent
  system : ArduinoSystem
  mqttWill : Option MqttWill
  isConnected : Bool
  subscribed : List CString
  answers : List Bool
  calls : List MqttCall
  socketOpen : Bool
  maximumMessageLength : UInt8
  sent : List (DeviceAddress × SnMessage)
  unspecified : List Bool
  serviced : List Nat
  halted : Bool

/-- `MqttMessageHandlerInterface`, as far as the core uses it. -/
structure MqttMessageHandler where
  publish : Gateway → CString → List UInt8 → UInt8 → Bool → Bool × Gateway
  subscribe : Gateway → CString → UInt8 → Bool × Gateway
  unsubscribe : Gateway → Option CString → Bool × Gateway

namespace Gateway

def store (g : Gateway) : Store := g.persistent.store

def update (g : Gateway) (f : Persistent → Persistent) : Gateway := { g with persistent := f g.persistent }

/-- `exit` throws: nothing that follows it is executed. -/
def exit (g : Gateway) : Gateway := { g with halted := true }

/-- The value a function returns that ends without a return statement. -/
def takeUnspecified (g : Gateway) : Bool × Gateway :=
  (g.unspecified.headD false, { g with unspecified := g.unspecified.tail })

section Sockets

def notifyMqttsnDisconnected (g : Gateway) : Gateway :=
  g.update fun p => { p with isMqttsnOnline := false }

def notifyMqttsnConnected (g : Gateway) : Gateway :=
  g.update fun p => { p with isMqttsnOnline := true }

def notifyMqttConnected (g : Gateway) : Gateway :=
  g.update fun p => { p with isMqttOnline := true }

def notifyMqttDisconnected (g : Gateway) : Gateway :=
  g.update fun p => { p with isMqttOnline := false }

/-- The `send_*` functions: the socket takes the message, or the core is told that it is gone. -/
def send (g : Gateway) (address : DeviceAddress) (message : SnMessage) : Gateway :=
  if g.socketOpen then { g with sent := g.sent ++ [(address, message)] }
  else g.notifyMqttsnDisconnected

def getMaximumPublishPayloadLength (g : Gateway) : UInt8 :=
  if g.maximumMessageLength ≤ 7 then 0 else g.maximumMessageLength - 7

end Sockets

section Paho

/-- A request of the Paho client: it fails without a connection, and a failing request ends the session. -/
def request (g : Gateway) : Bool × Gateway :=
  let answer := g.isConnected && g.answers.headD true
  (answer, { g with isConnected := answer, answers := g.answers.tail })

def call (g : Gateway) (c : MqttCall) : Gateway := { g with calls := g.calls ++ [c] }

end Paho

end Gateway

def pahoMqttMessageHandler : MqttMessageHandler where
  publish g topic payload qos retained :=
    let g := g.call (.publish topic payload qos retained)
    if 2 < qos then (false, g) else g.request
  subscribe g topic qos :=
    let g := g.call (.subscribe topic qos)
    if 2 < qos then (false, g)
    else match g.request with
      | (true, g) => (true, { g with subscribed := topic :: g.subscribed })
      | (false, g) => (false, g)
  unsubscribe g topic :=
    let g := g.call (.unsubscribe topic)
    match topic with
    | none => (true, g)
    | some name =>
      if name.length = 0 then (true, g)
      else match g.request with
        | (true, g) => (true, { g with subscribed := g.subscribed.filter fun other => other != name })
        | (false, g) => (false, g)

end MqttSnGateway
