import MqttSnGateway.Core.Handled
import MqttSnGateway.Core.LoopSpecs

namespace MqttSnGateway

namespace Gateway

variable {g after : Gateway} {input : Input}

inductive Stepped (g : Gateway) (input : Input) : Gateway → Prop
  | restart (event : input.event = .restart) : Stepped g input (g.prepare input).restart
  | datagram {sender : SockaddrIn} {bytes beyond : List UInt8} {after : Gateway}
    (event : input.event = .datagram sender bytes beyond) (socket : g.socketOpen = true)
    (handled : handle pahoMqttMessageHandler (g.prepare input) sender.getDeviceAddress
      (Request.ofMemory (receiveBuffer bytes beyond)) = some after) : Stepped g input after
  | brokerMessage {topicName : CString} {payload : List UInt8} {retain : Bool} {after : Gateway}
    (event : input.event = .brokerMessage topicName payload retain) (connected : g.isConnected = true)
    (published : (g.prepare input).publishFromBroker topicName payload retain = some after) : Stepped g input after
  | loop {beat elapsed : UInt32} {after : Gateway} (event : input.event = .loop beat elapsed)
    (looped : Gateway.loop pahoMqttMessageHandler beat elapsed (g.prepare input) = some after) : Stepped g input after
  | mqttConnect (event : input.event = .mqttConnect) (lost : g.isConnected = false) :
    Stepped g input (g.prepare input).mqttConnect
  | mqttConnectionLost (event : input.event = .mqttConnectionLost) :
    Stepped g input { g.prepare input with isConnected := false }
  | socketLost (event : input.event = .socketLost) : Stepped g input { g.prepare input with socketOpen := false }
  | socketBegin {opened : Bool} (event : input.event = .socketBegin opened) (closed : g.socketOpen = false) :
    Stepped g input ((g.prepare input).socketBegin opened)

theorem step_stepped (stepped : step g input = some after) : Stepped g input after := by
  unfold step stepWith at stepped
  simp only at stepped
  cases event : input.event with
  | restart =>
    rw [event] at stepped
    cases stepped
    exact .restart event
  | datagram sender bytes beyond =>
    rw [event] at stepped
    simp only at stepped
    split at stepped
    · cases stepped
    · split at stepped
      · rename_i received
        rw [receiveData_eq] at stepped
        simp only [Bool.and_eq_true] at received
        exact .datagram event received.1 stepped
      · cases stepped
  | brokerMessage topicName payload retain =>
    rw [event] at stepped
    simp only at stepped
    split at stepped
    · cases stepped
    · split at stepped
      · rename_i connected
        exact .brokerMessage event connected stepped
      · cases stepped
  | loop beat elapsed =>
    rw [event] at stepped
    simp only at stepped
    split at stepped
    · cases stepped
    · exact .loop event stepped
  | mqttConnect =>
    rw [event] at stepped
    simp only at stepped
    split at stepped
    · cases stepped
    · split at stepped
      · cases stepped
      · rename_i lost
        cases stepped
        exact .mqttConnect event (eq_false_of_ne_true lost)
  | mqttConnectionLost =>
    rw [event] at stepped
    simp only at stepped
    split at stepped
    · cases stepped
    · cases stepped
      exact .mqttConnectionLost event
  | socketLost =>
    rw [event] at stepped
    simp only at stepped
    split at stepped
    · cases stepped
    · cases stepped
      exact .socketLost event
  | socketBegin opened =>
    rw [event] at stepped
    simp only at stepped
    split at stepped
    · cases stepped
    · split at stepped
      · cases stepped
      · rename_i closed
        cases stepped
        exact .socketBegin event (eq_false_of_ne_true closed)

theorem step_loop {beat elapsed : UInt32} (event : input.event = .loop beat elapsed) (stepped : step g input = some after) :
    loop pahoMqttMessageHandler beat elapsed (g.prepare input) = some after := by
  unfold step stepWith at stepped
  rw [event] at stepped
  simp only at stepped
  split at stepped
  · cases stepped
  · exact stepped

theorem step_brokerMessage {topicName : CString} {payload : List UInt8} {retain : Bool}
    (event : input.event = .brokerMessage topicName payload retain) (stepped : step g input = some after) :
    (g.prepare input).publishFromBroker topicName payload retain = some after := by
  unfold step stepWith at stepped
  rw [event] at stepped
  simp only at stepped
  split at stepped
  · cases stepped
  · split at stepped
    · exact stepped
    · cases stepped

theorem step_datagram {sender : SockaddrIn} {bytes beyond : List UInt8} (event : input.event = .datagram sender bytes beyond)
    (stepped : step g input = some after) :
    g.socketOpen = true ∧ handle pahoMqttMessageHandler (g.prepare input) sender.getDeviceAddress
      (Request.ofMemory (receiveBuffer bytes beyond)) = some after := by
  unfold step stepWith at stepped
  rw [event] at stepped
  simp only at stepped
  split at stepped
  · cases stepped
  · split at stepped
    · rename_i received
      rw [receiveData_eq] at stepped
      simp only [Bool.and_eq_true] at received
      exact ⟨received.1, stepped⟩
    · cases stepped

theorem sound_prepare (sound : g.Sound) : (g.prepare input).Sound := ⟨sound.idle, sound.ok⟩

theorem step_sound (sound : g.Sound) (stepped : step g input = some after) : after.Sound := by
  have idle := sound.idle
  cases step_stepped stepped with
  | restart _ => exact ⟨⟨rfl, rfl, rfl⟩, sound.ok⟩
  | @datagram sender _ _ _ _ _ handled =>
    have nonzero := sender.getDeviceAddress_ne_zero
    exact (handle_handles (sound_prepare sound) nonzero handled).sound (sound_prepare sound) nonzero
  | brokerMessage _ _ published => exact publishFromBroker_sound (sound_prepare sound) published
  | loop _ looped =>
    refine loop_invariant (I := Sound) (sound_prepare sound) (sound_prepare sound) (fun _ _ quiet kept => quiet.sound kept)
      ?_ ?_ looped
    · intro drained status notice beaten time kind n g' g'' sound' _ registered visits _
      exact visits.sound sound' ((sound'.ok.slots.fits n).addressed registered) kind.used.1
    · intro n g' g'' sound' registered settles _ _
      exact sound'.settles settles
        (sound'.ok.updateAt ((sound'.ok.slots.fits n).addressed registered) fun _ _ => Store.same_status (by simp))
  | mqttConnect _ _ => exact ⟨⟨idle.closed, idle.clean, idle.known⟩, sound.ok⟩
  | mqttConnectionLost _ => exact ⟨idle, sound.ok⟩
  | socketLost _ => exact ⟨idle, sound.ok⟩
  | @socketBegin opened _ _ =>
    cases opened with
    | true => exact ⟨⟨idle.closed, idle.clean, idle.known⟩, sound.ok⟩
    | false => exact ⟨⟨idle.closed, idle.clean, idle.known⟩, sound.ok⟩

theorem sound_initial (start : initial g) : g.Sound := by
  obtain ⟨config, rfl⟩ := start
  exact ⟨⟨rfl, rfl, rfl⟩, Store.ok_empty⟩

/-- Between two operations no transaction is open and the store is well formed, whatever has happened before. -/
theorem sound_of_run {allowed : Gateway → Input → Prop} (run : RunOf allowed g) : g.Sound :=
  Runs.Run.invariant run (fun _ start => sound_initial start) fun _ _ _ sound _ stepped => step_sound sound stepped

theorem Reachable.sound (reachable : Reachable g) : g.Sound := sound_of_run reachable

end Gateway

end MqttSnGateway
