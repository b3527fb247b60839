import MqttSnGateway.Handler
import MqttSnGateway.Lib.Runs

namespace MqttSnGateway

/-- The part of `sockaddr_in` that a device address is made of, in memory order. -/
structure SockaddrIn where
  sinAddr : UInt8 × UInt8 × UInt8 × UInt8
  sinPort : UInt16

/-- `getDevice_address`; port 0 is replaced by `PORT`. -/
def SockaddrIn.getDeviceAddress (addr : SockaddrIn) : DeviceAddress :=
  let port : UInt16 := if addr.sinPort = 0 then 8888 else addr.sinPort
  let (b0, b1, b2, b3) := addr.sinAddr
  ⟨b0, b1, b2, b3, port.toUInt8, (port >>> 8).toUInt8⟩

theorem SockaddrIn.getDeviceAddress_ne_zero (addr : SockaddrIn) : addr.getDeviceAddress ≠ .zero := by
  have nonzero : ∀ port : UInt16, port ≠ 0 → ¬ (port.toUInt8 = 0 ∧ (port >>> 8).toUInt8 = 0) := by
    intro port different bytes
    obtain ⟨low, high⟩ := bytes
    apply different
    have low := congrArg UInt8.toNat low
    have high := congrArg UInt8.toNat high
    simp only [UInt16.toNat_toUInt8, UInt8.toNat_zero, UInt16.toNat_shiftRight] at low high
    apply UInt16.toNat_inj.mp
    have bound := port.toNat_lt
    have shift : port.toNat >>> ((8 : UInt16).toNat % 16) = port.toNat / 256 := by
      rw [Nat.shiftRight_eq_div_pow]
      rfl
    rw [shift] at high
    rw [UInt16.toNat_zero]
    omega
  intro zero
  simp only [getDeviceAddress, DeviceAddress.zero, DeviceAddress.mk.injEq] at zero
  refine nonzero _ ?_ ⟨zero.2.2.2.2.1, zero.2.2.2.2.2⟩
  split
  · decide
  · assumption

structure Configuration where
  topicsPre : TopicsPre
  sd : SDLinuxFake
  mqttWill : Option MqttWill
  maximumMessageLength : UInt8
  accepted : 7 < maximumMessageLength

/-- What the components do to the core between two of its operations: `UdpSocketImpl::loop` and
    `PahoMqttMessageHandler::loop` in all their branches, `CoreImpl::loop`, and a new start of the program. -/
inductive Event where
  | datagram (sender : SockaddrIn) (bytes beyond : List UInt8)
  | brokerMessage (topicName : CString) (payload : List UInt8) (retain : Bool)
  | loop (beat elapsed : UInt32)
  | mqttConnect
  | mqttConnectionLost
  | socketLost
  | socketBegin (opened : Bool)
  | restart

/-- An event with the values that the code does not determine. -/
structure Input where
  event : Event
  answers : List Bool
  unspecified : List Bool

namespace Gateway

def start (config : Configuration) (store : Store) : Gateway where
  persistent :=
    { store := store, topicsPre := config.topicsPre, sd := config.sd, entryClient := .zero
      notInClientRegistry := false, transactionStarted := false, error := false
      isMqttsnOnline := true, isMqttOnline := false }
  system := ⟨10000, 0, 0⟩
  mqttWill := config.mqttWill
  isConnected := false
  subscribed := []
  answers := []
  calls := []
  socketOpen := true
  maximumMessageLength := config.maximumMessageLength
  sent := []
  unspecified := []
  serviced := []
  halted := false

def initial (g : Gateway) : Prop := ∃ config, g = start config .empty

/-- The program starts again over the store it left; the broker keeps nothing of its session. -/
def restart (g : Gateway) : Gateway :=
  { g with
    persistent :=
      { g.persistent with
        entryClient := .zero, notInClientRegistry := false, transactionStarted := false, error := false
        isMqttsnOnline := true, isMqttOnline := false }
    system := ⟨10000, 0, 0⟩, isConnected := false, subscribed := [], socketOpen := true, halted := false }

/-- The logs are those of the step; the undetermined values come with its input. -/
def prepare (g : Gateway) (input : Input) : Gateway :=
  { g with
    answers := input.answers, calls := [], sent := [], unspecified := input.unspecified
    serviced := [] }

/-- A connection is a clean session of the broker. -/
def mqttConnect (g : Gateway) : Gateway := { g.notifyMqttConnected with isConnected := true, subscribed := [] }

def socketBegin (g : Gateway) (opened : Bool) : Gateway :=
  if opened then { g.notifyMqttsnDisconnected.notifyMqttsnConnected with socketOpen := true }
  else g.notifyMqttsnDisconnected

/-- One event with MQTT calls through `mqtt`: `none` if it cannot happen in this state or never returns. -/
def stepWith (mqtt : MqttMessageHandler) (g : Gateway) (input : Input) : Option Gateway :=
  let g := g.prepare input
  match input.event with
  | .restart => some g.restart
  | event =>
    if g.halted then none
    else match event with
      | .datagram sender bytes beyond =>
        if g.socketOpen && bytes.length ≤ 255 then
          receiveData mqtt g sender.getDeviceAddress (receiveBuffer bytes beyond)
        else none
      | .brokerMessage topicName payload retain =>
        if g.isConnected then g.publishFromBroker topicName payload retain else none
      | .loop beat elapsed => loop mqtt beat elapsed g
      | .mqttConnect => if g.isConnected then none else some g.mqttConnect
      | .mqttConnectionLost => some { g with isConnected := false }
      | .socketLost => some { g with socketOpen := false }
      | .socketBegin opened => if g.socketOpen then none else some (g.socketBegin opened)
      | .restart => none

def step : Gateway → Input → Option Gateway := stepWith pahoMqttMessageHandler

/-- Runs of the gateway whose steps all meet `allowed`, from an empty store. -/
def RunOf (allowed : Gateway → Input → Prop) : Gateway → Prop := Runs.Run step allowed initial

def Reachable : Gateway → Prop := RunOf fun _ _ => True

end Gateway

end MqttSnGateway
