import MqttSnGateway.Core.Transactions

namespace MqttSnGateway

open Persistent

/-- What a transaction for an address makes of the registry when it rewrites the selected entry. -/
def Store.updateAt (s : Store) (address : DeviceAddress) (f : EntryClient → EntryClient) : Store :=
  match s.slotOfAddress address with
  | some n => s.setEntry n f
  | none => s

namespace Gateway

/-- `after` is idle over the store `s`, and nothing else of `g` that outlives a step has changed but the
    state of the socket; the MQTT connection may have been lost. -/
structure Settles (g : Gateway) (s : Store) (after : Gateway) : Prop where
  store : after.store = s
  idle : after.persistent.Idle
  sd : after.persistent.sd = g.persistent.sd
  topicsPre : after.persistent.topicsPre = g.persistent.topicsPre
  online : after.persistent.isMqttOnline = g.persistent.isMqttOnline
  subscribed : after.subscribed = g.subscribed
  connected : after.isConnected = true → g.isConnected = true
  maximumMessageLength : after.maximumMessageLength = g.maximumMessageLength
  socketOpen : after.socketOpen = g.socketOpen
  halted : after.halted = g.halted
  serviced : after.serviced = g.serviced
  system : after.system = g.system

namespace Settles

variable {g after last : Gateway} {s s' : Store} {entry : EntryClient}

theorem refl (idle : g.persistent.Idle) : g.Settles g.store g :=
  ⟨rfl, idle, rfl, rfl, rfl, rfl, id, rfl, rfl, rfl, rfl, rfl⟩

theorem settled : g.Settles s (g.settled s entry) :=
  ⟨rfl, idle_settled, rfl, rfl, rfl, rfl, id, rfl, rfl, rfl, rfl, rfl⟩

theorem trans (first : g.Settles s after) (second : after.Settles s' last) : g.Settles s' last where
  store := second.store
  idle := second.idle
  sd := second.sd.trans first.sd
  topicsPre := second.topicsPre.trans first.topicsPre
  online := second.online.trans first.online
  subscribed := second.subscribed.trans first.subscribed
  connected := fun connected => first.connected (second.connected connected)
  maximumMessageLength := second.maximumMessageLength.trans first.maximumMessageLength
  socketOpen := second.socketOpen.trans first.socketOpen
  halted := second.halted.trans first.halted
  serviced := second.serviced.trans first.serviced
  system := second.system.trans first.system

theorem send {address : DeviceAddress} {message : SnMessage} (settles : g.Settles s after) :
    g.Settles s (after.send address message) := by
  unfold Gateway.send
  split
  · exact ⟨settles.store, settles.idle, settles.sd, settles.topicsPre, settles.online, settles.subscribed,
      settles.connected, settles.maximumMessageLength, settles.socketOpen, settles.halted, settles.serviced,
      settles.system⟩
  · exact ⟨settles.store, ⟨settles.idle.closed, settles.idle.clean, settles.idle.known⟩, settles.sd,
      settles.topicsPre, settles.online, settles.subscribed, settles.connected, settles.maximumMessageLength,
      settles.socketOpen, settles.halted, settles.serviced, settles.system⟩

theorem takeUnspecified (settles : g.Settles s after) : g.Settles s after.takeUnspecified.2 :=
  ⟨settles.store, settles.idle, settles.sd, settles.topicsPre, settles.online, settles.subscribed,
    settles.connected, settles.maximumMessageLength, settles.socketOpen, settles.halted, settles.serviced,
    settles.system⟩

theorem cast (settles : g.Settles s after) (same : s = s') : g.Settles s' after := same ▸ settles

end Settles

/-- `after` differs from `g` by calls of the MQTT client only; they may lose the connection. -/
structure Called (g after : Gateway) : Prop where
  persistent : after.persistent = g.persistent
  connected : after.isConnected = true → g.isConnected = true
  sent : after.sent = g.sent
  socketOpen : after.socketOpen = g.socketOpen
  maximumMessageLength : after.maximumMessageLength = g.maximumMessageLength
  serviced : after.serviced = g.serviced
  halted : after.halted = g.halted
  system : after.system = g.system

namespace Called

variable {g after last : Gateway}

theorem refl : g.Called g := ⟨rfl, id, rfl, rfl, rfl, rfl, rfl, rfl⟩

theorem store (called : g.Called after) : after.store = g.store := congrArg Persistent.store called.persistent

theorem trans (first : g.Called after) (second : after.Called last) : g.Called last where
  persistent := second.persistent.trans first.persistent
  connected := fun connected => first.connected (second.connected connected)
  sent := second.sent.trans first.sent
  socketOpen := second.socketOpen.trans first.socketOpen
  maximumMessageLength := second.maximumMessageLength.trans first.maximumMessageLength
  serviced := second.serviced.trans first.serviced
  halted := second.halted.trans first.halted
  system := second.system.trans first.system

theorem settled {s : Store} {entry : EntryClient} (called : g.Called after) :
    (g.settled s entry).Called (after.settled s entry) where
  persistent := by rw [persistent_settled, persistent_settled, called.persistent]
  connected := called.connected
  sent := called.sent
  socketOpen := called.socketOpen
  maximumMessageLength := called.maximumMessageLength
  serviced := called.serviced
  halted := called.halted
  system := called.system

theorem request : g.Called g.request.2 := by
  refine ⟨rfl, ?_, rfl, rfl, rfl, rfl, rfl, rfl⟩
  intro connected
  simp only [Gateway.request, Bool.and_eq_true] at connected
  exact connected.1

theorem call {c : MqttCall} : g.Called (g.call c) := ⟨rfl, id, rfl, rfl, rfl, rfl, rfl, rfl⟩

end Called

theorem store_send {g : Gateway} {address : DeviceAddress} {message : SnMessage} : (g.send address message).store = g.store := by
  unfold Gateway.send
  split <;> rfl

theorem calls_send {g : Gateway} {address : DeviceAddress} {message : SnMessage} : (g.send address message).calls = g.calls := by
  unfold Gateway.send
  split <;> rfl

theorem sent_send {g : Gateway} {address : DeviceAddress} {message : SnMessage} (opened : g.socketOpen = true) :
    (g.send address message).sent = g.sent ++ [(address, message)] := by
  unfold send
  rw [if_pos opened]

section Paho

variable {g : Gateway} {s : Store} {entry : EntryClient} {topic : CString} {payload : List UInt8} {qos : UInt8}
  {retained : Bool}

/-- The MQTT client does not touch the store, so its calls commute with what a transaction does. -/
theorem paho_publish_with (p : Persistent) :
    pahoMqttMessageHandler.publish { g with persistent := p } topic payload qos retained =
      ((pahoMqttMessageHandler.publish g topic payload qos retained).1,
        { (pahoMqttMessageHandler.publish g topic payload qos retained).2 with persistent := p }) := by
  unfold pahoMqttMessageHandler
  simp only [call]
  split <;> rfl

theorem paho_unsubscribe_with (p : Persistent) (topic : Option CString) :
    pahoMqttMessageHandler.unsubscribe { g with persistent := p } topic =
      ((pahoMqttMessageHandler.unsubscribe g topic).1,
        { (pahoMqttMessageHandler.unsubscribe g topic).2 with persistent := p }) := by
  unfold pahoMqttMessageHandler
  simp only [call, request]
  cases topic with
  | none => rfl
  | some name =>
    simp only
    split
    · rfl
    · cases g.isConnected && g.answers.headD true <;> rfl

theorem paho_publish_called : g.Called (pahoMqttMessageHandler.publish g topic payload qos retained).2 := by
  unfold pahoMqttMessageHandler
  simp only
  split
  · exact Called.call
  · exact Called.call.trans Called.request

theorem paho_subscribe_called : g.Called (pahoMqttMessageHandler.subscribe g topic qos).2 := by
  unfold pahoMqttMessageHandler
  simp only
  split
  · exact Called.call
  · have called := (Called.call (g := g) (c := .subscribe topic qos)).trans Called.request
    generalize (g.call (.subscribe topic qos)).request = answer at called
    obtain ⟨answer, after⟩ := answer
    cases answer with
    | true => exact ⟨called.persistent, called.connected, called.sent, called.socketOpen,
        called.maximumMessageLength, called.serviced, called.halted, called.system⟩
    | false => exact called

theorem paho_unsubscribe_called {topicName : Option CString} :
    g.Called (pahoMqttMessageHandler.unsubscribe g topicName).2 := by
  unfold pahoMqttMessageHandler
  simp only
  cases topicName with
  | none => exact Called.call
  | some name =>
    simp only
    split
    · exact Called.call
    · have called := (Called.call (g := g) (c := .unsubscribe (some name))).trans Called.request
      generalize (g.call (.unsubscribe (some name))).request = answer at called
      obtain ⟨answer, after⟩ := answer
      cases answer with
      | true => exact ⟨called.persistent, called.connected, called.sent, called.socketOpen,
          called.maximumMessageLength, called.serviced, called.halted, called.system⟩
      | false => exact called

theorem paho_unsubscribe_calls {topicName : Option CString} :
    (pahoMqttMessageHandler.unsubscribe g topicName).2.calls = g.calls ++ [.unsubscribe topicName] := by
  unfold pahoMqttMessageHandler
  simp only
  cases topicName with
  | none => rfl
  | some name =>
    simp only
    split
    · rfl
    · generalize answered : (g.call (.unsubscribe (some name))).request = answer
      have calls : answer.2.calls = g.calls ++ [.unsubscribe (some name)] := by
        rw [← answered]
        rfl
      obtain ⟨answer, after⟩ := answer
      cases answer <;> exact calls

theorem paho_publish_persistent :
    (pahoMqttMessageHandler.publish g topic payload qos retained).2.persistent = g.persistent :=
  paho_publish_called.persistent

theorem paho_publish_settles (idle : g.persistent.Idle) :
    g.Settles g.store (pahoMqttMessageHandler.publish g topic payload qos retained).2 := by
  unfold pahoMqttMessageHandler
  simp only
  split
  · exact ⟨rfl, idle, rfl, rfl, rfl, rfl, id, rfl, rfl, rfl, rfl, rfl⟩
  · refine ⟨rfl, idle, rfl, rfl, rfl, rfl, ?_, rfl, rfl, rfl, rfl, rfl⟩
    intro connected
    simp only [request, call, Bool.and_eq_true] at connected
    exact connected.1

end Paho

end Gateway

end MqttSnGateway
