import MqttSnGateway.Datagrams
import MqttSnGateway.Mqtt.Client

namespace MqttSnGateway

namespace Client

variable {P : Type} {client : Client P} {strings : P → CString}

/-- The part of a client that only its requests change. -/
structure Session (P : Type) where
  keepAliveInterval : Nat
  cleansession : Bool
  packetid : Nat
  messageHandlers : List (Option P)
  isconnected : Bool
  pubbuf : List UInt8
  inflightMsgid : Nat
  inflightQoS : Nat

def session (client : Client P) : Session P where
  keepAliveInterval := client.keepAliveInterval
  cleansession := client.cleansession
  packetid := client.packetid
  messageHandlers := client.messageHandlers
  isconnected := client.isconnected
  pubbuf := client.pubbuf
  inflightMsgid := client.inflightMsgid
  inflightQoS := client.inflightQoS

section Frames

@[simp] theorem expired_session : client.expired.2.session = client.session := rfl

@[simp] theorem sendPacket_session (packet : List UInt8) : (client.sendPacket packet).2.session = client.session := rfl

@[simp] theorem readInto_session (start len : Nat) : (client.readInto start len).2.session = client.session := rfl

@[simp] theorem decodePacket_session : client.decodePacket.2.session = client.session := rfl

@[simp] theorem deliverMessage_session (topicName : MQTTString) (message : MQTT.Message) :
    (client.deliverMessage strings topicName message).session = client.session := rfl

@[simp] theorem readPacket_session : client.readPacket.2.session = client.session := by
  unfold readPacket
  split
  · rename_i read
    exact congrArg (fun result => result.2.session) read.symm
  · rename_i after read
    have first : after.session = client.session := congrArg (fun result => result.2.session) read.symm
    simp only
    split
    · exact first
    · split
      · rename_i last
        exact (congrArg (fun result => result.2.session) last.symm).trans first
      · rename_i last
        exact (congrArg (fun result => result.2.session) last.symm).trans first

@[simp] theorem pingDue_session : client.pingDue.2.session = client.session := by
  unfold pingDue
  split <;> rfl

@[simp] theorem keepalive_session : client.keepalive.session = client.session := by
  unfold keepalive
  split
  · rfl
  · simp only
    split
    · split
      · exact pingDue_session
      · split <;> exact pingDue_session
    · exact pingDue_session

theorem cyclePublish_session : (client.cyclePublish strings).2.2.session = client.session := by
  unfold cyclePublish
  split
  · rfl
  · split
    · rfl
    · split
      · rfl
      · simp only
        split
        · rfl
        · split
          · split
            · rfl
            · split <;> rfl
          · split
            · split
              · rfl
              · split <;> rfl
            · rfl

@[simp] theorem cycle_session : (client.cycle strings).2.session = client.session := by
  unfold cycle
  simp only
  split
  · simp
  · split
    · split
      · rename_i cycled
        have kept : (client.readPacket.2.cyclePublish strings).2.2.session = client.readPacket.2.session :=
          cyclePublish_session
        rw [cycled] at kept
        exact kept.trans readPacket_session
      · rename_i cycled
        have kept : (client.readPacket.2.cyclePublish strings).2.2.session = client.readPacket.2.session :=
          cyclePublish_session
        rw [cycled] at kept
        exact keepalive_session.trans (kept.trans readPacket_session)
    · split
      · exact keepalive_session.trans readPacket_session
      · exact keepalive_session.trans readPacket_session

theorem waitforLoop_session (packetType : MsgType) (rounds : Nat) :
    (waitforLoop strings packetType rounds client).2.session = client.session := by
  induction rounds generalizing client with
  | zero => rfl
  | succ rounds ih =>
    unfold waitforLoop
    simp only
    split
    · rfl
    · split
      · exact cycle_session
      · exact ih.trans cycle_session

@[simp] theorem waitfor_session (packetType : MsgType) :
    (client.waitfor strings packetType).2.session = client.session := by
  unfold waitfor
  exact waitforLoop_session packetType _

theorem yieldLoop_session (rounds : Nat) : (yieldLoop strings rounds client).2.session = client.session := by
  induction rounds generalizing client with
  | zero => rfl
  | succ rounds ih =>
    unfold yieldLoop
    simp only
    split
    · rfl
    · split
      · exact cycle_session
      · exact ih.trans cycle_session

/-- Whatever arrives and however long it waits, `yield` changes nothing about the session; a broker that no longer
    answers is not noticed by it. -/
@[simp] theorem yield_session : (client.yield strings).2.session = client.session := yieldLoop_session _

end Frames

section Outcomes

variable {topicName : CString} {payload : List UInt8} {qos : Nat} {retained : Bool}

/-- A request that succeeds leaves a connected client, a request that fails one without connection. -/
def Settled (client : Client P) (rc : Int) (after : Client P) : Prop :=
  (rc = 0 → client.isconnected = true ∧ after.isconnected = true) ∧ (rc ≠ 0 → after.isconnected = false)

theorem isconnected_of_session {after : Client P} (same : after.session = client.session) :
    after.isconnected = client.isconnected := congrArg Session.isconnected same

theorem settled_cleanSession {after : Client P} : client.Settled (-1) after.cleanSession :=
  ⟨fun impossible => absurd impossible (by decide), fun _ => rfl⟩

theorem settled_zero {after : Client P} (connected : client.isconnected = true)
    (same : after.isconnected = client.isconnected) : client.Settled 0 after :=
  ⟨fun _ => ⟨connected, same.trans connected⟩, fun impossible => absurd rfl impossible⟩

theorem publishPacket_settled (connected : client.isconnected = true) (packet : List UInt8) :
    client.Settled (client.publishPacket strings packet qos).1 (client.publishPacket strings packet qos).2 := by
  unfold publishPacket
  split
  · exact settled_cleanSession
  · rename_i after sent
    have kept : after.session = client.session := congrArg (fun result => result.2.session) sent.symm
    split
    · exact settled_zero connected (isconnected_of_session kept)
    · split
      · exact settled_cleanSession
      · rename_i answered waited
        have same : answered.session = after.session :=
          (congrArg (fun result => result.2.session) waited.symm).trans (waitfor_session _)
        split
        · refine settled_zero connected ?_
          have unchanged : answered.isconnected = client.isconnected := isconnected_of_session (same.trans kept)
          simp only
          split <;> exact unchanged
        · exact settled_cleanSession

theorem publish_settled
    (fits : MQTTPacket.len (MQTTSerialize.publishLength qos (.ofCString topicName) payload.length) ≤ maxMqttPacketSize) :
    client.Settled (client.publish strings topicName payload qos retained).1
      (client.publish strings topicName payload qos retained).2 := by
  have written : ∀ id, ∃ packet, MQTTSerialize.publish maxMqttPacketSize false qos retained id (.ofCString topicName)
      payload = some packet := by
    intro id
    unfold MQTTSerialize.publish
    simp only
    rw [if_neg (Nat.not_lt.mpr fits)]
    exact ⟨_, rfl⟩
  unfold publish
  cases connected : client.isconnected with
  | false =>
    have failure : (-1 : Int) ≠ 0 := by decide
    exact ⟨fun impossible => absurd impossible failure, fun _ => connected⟩
  | true =>
    simp only [Bool.not_true, Bool.false_eq_true, if_false]
    obtain ⟨packet, some⟩ := written (client.publishId qos).1
    rw [some]
    simp only
    have same : ((client.publishId qos).2.keep packet (client.publishId qos).1 qos).isconnected = client.isconnected := by
      unfold keep publishId
      split <;> split <;> rfl
    obtain ⟨succeeded, failed⟩ := publishPacket_settled (same.trans connected) packet
    exact ⟨fun zero => ⟨connected, (succeeded zero).2⟩, failed⟩

theorem subscribe_settled {topicFilter : P} :
    client.Settled (client.subscribe strings topicFilter qos).1 (client.subscribe strings topicFilter qos).2 := by
  unfold subscribe
  cases connected : client.isconnected with
  | false => exact settled_cleanSession
  | true =>
    simp only [Bool.not_true, Bool.false_eq_true, if_false]
    split
    · exact settled_cleanSession
    · split
      · exact settled_cleanSession
      · rename_i after sent
        have kept : after.isconnected = client.isconnected :=
          congrArg (fun result => result.2.isconnected) sent.symm
        split
        · exact settled_cleanSession
        · rename_i answered waited
          have same : answered.session = after.session :=
            (congrArg (fun result => result.2.session) waited.symm).trans (waitfor_session _)
          have unchanged : answered.isconnected = client.isconnected := (isconnected_of_session same).trans kept
          simp only
          have ended : ∀ (rc : Int) (last : Client P), last.isconnected = client.isconnected →
              client.Settled rc (if rc = 0 then last else last.cleanSession) := by
            intro rc last connection
            by_cases zero : rc = 0
            · rw [if_pos zero, zero]
              exact settled_zero connected connection
            · rw [if_neg zero]
              exact ⟨fun impossible => absurd impossible zero, fun _ => rfl⟩
          refine ended _ _ ?_
          unfold handle
          split
          · exact unchanged
          · split <;> exact unchanged

theorem unsubscribe_settled :
    client.Settled (client.unsubscribe strings topicName).1 (client.unsubscribe strings topicName).2 := by
  unfold unsubscribe
  cases connected : client.isconnected with
  | false => exact settled_cleanSession
  | true =>
    simp only [Bool.not_true, Bool.false_eq_true, if_false]
    split
    · exact settled_cleanSession
    · split
      · exact settled_cleanSession
      · rename_i after sent
        have kept : after.isconnected = client.isconnected :=
          congrArg (fun result => result.2.isconnected) sent.symm
        split
        · exact settled_cleanSession
        · rename_i answered waited
          have same : answered.session = after.session :=
            (congrArg (fun result => result.2.session) waited.symm).trans (waitfor_session _)
          have unchanged : answered.isconnected = client.isconnected := (isconnected_of_session same).trans kept
          refine settled_zero connected ?_
          simp only
          split <;> exact unchanged

theorem publishPacket_offline {packet : List UInt8} (offline : client.isconnected = false) :
    (client.publishPacket strings packet qos).2.isconnected = false := by
  unfold publishPacket
  split
  · rfl
  · rename_i after sent
    have kept : after.session = client.session := congrArg (fun result => result.2.session) sent.symm
    have still : after.isconnected = false := (isconnected_of_session kept).trans offline
    split
    · exact still
    · split
      · rfl
      · rename_i answered waited
        have same : answered.session = after.session :=
          (congrArg (fun result => result.2.session) waited.symm).trans (waitfor_session _)
        have last : answered.isconnected = false := (isconnected_of_session same).trans still
        split
        · simp only
          split <;> exact last
        · rfl

/-- A client without a connection has one afterwards just if `connect` returns 0. -/
theorem connect_settled {options : ConnectData} {rc : Int} {after : Client P} (offline : client.isconnected = false)
    (result : client.connect strings options = (rc, after)) : after.isconnected = decide (rc = 0) := by
  have failure : ¬ (-1 : Int) = 0 := by decide
  unfold connect at result
  rw [if_neg (ne_true_of_eq_false offline)] at result
  simp only at result
  split at result
  · cases result
    rw [decide_eq_false failure]
    exact offline
  · split at result
    · rename_i sent
      cases result
      rw [decide_eq_false failure]
      exact (congrArg (fun result => result.2.isconnected) sent.symm).trans offline
    · rename_i between sent
      have kept : between.isconnected = false := (congrArg (fun result => result.2.isconnected) sent.symm).trans offline
      have same : (between.waitfor strings .connack).2.session = between.session := waitfor_session _
      have waited : (between.waitfor strings .connack).2.isconnected = false := (isconnected_of_session same).trans kept
      have ended : ∀ outcome : Int × Client P, outcome.2.isconnected = false →
          (outcome.1, if outcome.1 = 0 then { outcome.2 with isconnected := true } else outcome.2) = (rc, after) →
            after.isconnected = decide (rc = 0) := by
        intro outcome begun given
        cases given
        by_cases zero : outcome.1 = 0
        · rw [if_pos zero, decide_eq_true zero]
        · rw [if_neg zero, decide_eq_false zero]
          exact begun
      refine ended _ ?_ result
      split
      · exact publishPacket_offline waited
      · exact waited

end Outcomes

end Client

section Refinement

/-- What `getConfigAndConnect` finds: the connect data of the configuration, and a connection to the broker. -/
structure Reconnect where
  options : ConnectData
  ipstack : IPStack
  clock : List Bool

/-- A use of the message handler by the core, or its `loop`, which looks for a connection when there is none. A topic
    to subscribe is a pointer, which the client keeps. -/
inductive ClientCall (P : Type) where
  | publish (topic : CString) (payload : List UInt8) (qos : UInt8) (retained : Bool)
  | subscribe (topic : P) (qos : UInt8)
  | unsubscribe (topic : Option CString)
  | loop (reconnect : Option Reconnect)

namespace PahoMqttMessageHandler

def loop {P : Type} (strings : P → CString) (client : Client P) (reconnect : Option Reconnect) : Bool × Client P :=
  if client.isconnected then (true, (client.yield strings).2)
  else match reconnect with
    | none => (false, client)
    | some ⟨options, ipstack, clock⟩ =>
      let (rc, client) := { client with ipstack := ipstack, clock := clock }.connect strings options
      (rc = 0, client)

theorem loop_connected {P : Type} {strings : P → CString} {client : Client P} (connected : client.isconnected = true)
    (reconnect : Option Reconnect) : loop strings client reconnect = (true, (client.yield strings).2) := if_pos connected

/-- The client is connected afterwards just if `loop` returns true. -/
theorem loop_settled {P : Type} {strings : P → CString} {client : Client P} (reconnect : Option Reconnect) :
    (loop strings client reconnect).2.isconnected = (loop strings client reconnect).1 := by
  cases connected : client.isconnected with
  | true =>
    rw [loop_connected connected]
    exact (Client.isconnected_of_session Client.yield_session).trans connected
  | false =>
    unfold loop
    rw [if_neg (ne_true_of_eq_false connected)]
    cases reconnect with
    | none => exact connected
    | some reconnect =>
      have offline : { client with ipstack := reconnect.ipstack, clock := reconnect.clock }.isconnected = false := connected
      exact Client.connect_settled offline rfl

end PahoMqttMessageHandler

namespace ClientCall

variable {P : Type}

/-- What the client does; `strings` is what stands at the pointers at that time. -/
def perform (client : Client P) : (P → CString) × ClientCall P → Bool × Client P
  | (strings, .publish topic payload qos retained) =>
    PahoMqttMessageHandler.publish strings client topic payload qos retained
  | (strings, .subscribe topic qos) => PahoMqttMessageHandler.subscribe strings client topic qos
  | (strings, .unsubscribe topic) => PahoMqttMessageHandler.unsubscribe strings client topic
  | (strings, .loop reconnect) => PahoMqttMessageHandler.loop strings client reconnect

/-- What the gateway takes the client to do; of a `loop` without a connection only the answer is known. -/
def request (g : Gateway) : (P → CString) × ClientCall P → Bool × Gateway
  | (_, .publish topic payload qos retained) => pahoMqttMessageHandler.publish g topic payload qos retained
  | (strings, .subscribe topic qos) => pahoMqttMessageHandler.subscribe g (strings topic) qos
  | (_, .unsubscribe topic) => pahoMqttMessageHandler.unsubscribe g topic
  | (_, .loop _) =>
    if g.isConnected then (true, g)
    else
      let answered : Gateway := { g with answers := g.answers.tail }
      if g.answers.headD true then (true, answered.mqttConnect) else (false, answered)

/-- A PUBLISH that fits into the buffer of the client. -/
def Fits : (P → CString) × ClientCall P → Prop
  | (_, .publish topic payload qos _) =>
    MQTTPacket.len (MQTTSerialize.publishLength qos.toNat (.ofCString topic) payload.length) ≤ maxMqttPacketSize
  | _ => True

def results {σ : Type} (step : σ → (P → CString) × ClientCall P → Bool × σ) :
    σ → List ((P → CString) × ClientCall P) → List Bool × σ
  | state, [] => ([], state)
  | state, call :: calls =>
    let (result, state) := step state call
    let (later, state) := results step state calls
    (result :: later, state)

/-- No `loop` looks for another connection: it is called only while there is one. -/
def Lasting : Client P → List ((P → CString) × ClientCall P) → Prop
  | _, [] => True
  | client, call :: calls =>
    (∀ reconnect, call.2 = .loop reconnect → client.isconnected = true) ∧ Lasting (perform client call).2 calls

/-- What `request` gives if the answer is the one that the client has got. -/
theorem request_answered {client after : Client P} {rc : Int} {g : Gateway} (connected : g.isConnected = client.isconnected)
    (settled : client.Settled rc after) (later : List Bool) :
    ({ g with answers := decide (rc = 0) :: later } : Gateway).request =
      (decide (rc = 0), { g with isConnected := after.isconnected, answers := later }) := by
  unfold Gateway.request
  simp only [List.headD_cons, List.tail_cons]
  by_cases zero : rc = 0
  · obtain ⟨before, behind⟩ := settled.1 zero
    rw [connected, before, behind, decide_eq_true zero, Bool.and_true]
  · rw [settled.2 zero, decide_eq_false zero, Bool.and_false]

theorem subscribe_answered {g after : Gateway} {topic : CString} {qos : UInt8} {answer : Bool} (level : ¬ 2 < qos)
    (asked : (g.call (.subscribe topic qos)).request = (answer, after)) :
    pahoMqttMessageHandler.subscribe g topic qos =
      (answer, if answer then { after with subscribed := topic :: after.subscribed } else after) := by
  simp only [pahoMqttMessageHandler]
  rw [if_neg level, asked]
  cases answer <;> rfl

theorem unsubscribe_answered {g after : Gateway} {name : CString} {answer : Bool} (nonempty : ¬ name.length = 0)
    (asked : (g.call (.unsubscribe (some name))).request = (answer, after)) :
    pahoMqttMessageHandler.unsubscribe g (some name) =
      (answer, if answer then { after with subscribed := after.subscribed.filter fun other => other != name } else after) := by
  simp only [pahoMqttMessageHandler]
  rw [if_neg nonempty, asked]
  cases answer <;> rfl

/-- One call: for the right answer the gateway gets the result of the client, and it takes it to be connected
    exactly when it is. -/
theorem perform_refines {client : Client P} {call : (P → CString) × ClientCall P} (fits : Fits call) {g : Gateway}
    (connected : g.isConnected = client.isconnected) :
    ∃ (answers : List Bool) (after : Gateway), after.isConnected = (perform client call).2.isconnected ∧
      ∀ later, request { g with answers := answers ++ later } call =
        ((perform client call).1, { after with answers := later }) := by
  obtain ⟨strings, call⟩ := call
  cases call with
  | publish topic payload qos retained =>
    unfold perform PahoMqttMessageHandler.publish request pahoMqttMessageHandler
    simp only
    by_cases level : 2 < qos
    · rw [if_pos level]
      refine ⟨[], g.call (.publish topic payload qos retained), connected, fun later => ?_⟩
      rw [if_pos level]
      rfl
    · rw [if_neg level]
      generalize result : client.publish strings topic payload qos.toNat retained = outcome
      have settled : client.Settled outcome.1 outcome.2 := result ▸ Client.publish_settled fits
      refine ⟨[decide (outcome.1 = 0)],
        { g.call (.publish topic payload qos retained) with isConnected := outcome.2.isconnected }, rfl, fun later => ?_⟩
      have asked := request_answered (g := g.call (.publish topic payload qos retained)) connected settled later
      rw [if_neg level]
      exact asked
  | subscribe topic qos =>
    unfold perform PahoMqttMessageHandler.subscribe request
    simp only
    by_cases level : 2 < qos
    · rw [if_pos level]
      refine ⟨[], g.call (.subscribe (strings topic) qos), connected, fun later => ?_⟩
      simp only [pahoMqttMessageHandler]
      rw [if_pos level]
      rfl
    · rw [if_neg level]
      generalize result : client.subscribe strings topic qos.toNat = outcome
      have settled : client.Settled outcome.1 outcome.2 := result ▸ Client.subscribe_settled
      refine ⟨[decide (outcome.1 = 0)],
        { g.call (.subscribe (strings topic) qos) with
          isConnected := outcome.2.isconnected
          subscribed := if outcome.1 = 0 then strings topic :: g.subscribed else g.subscribed }, rfl, fun later => ?_⟩
      have asked := request_answered (g := g.call (.subscribe (strings topic) qos)) connected settled later
      refine (subscribe_answered level asked).trans ?_
      by_cases zero : outcome.1 = 0
      · simp only [zero, decide_true, if_true]
        rfl
      · simp only [zero, decide_false, if_false]
        rfl
  | unsubscribe topic =>
    unfold perform PahoMqttMessageHandler.unsubscribe request
    cases topic with
    | none => exact ⟨[], g.call (.unsubscribe none), connected, fun later => rfl⟩
    | some name =>
      simp only
      by_cases empty : name.length = 0
      · rw [if_pos empty]
        refine ⟨[], g.call (.unsubscribe (some name)), connected, fun later => ?_⟩
        simp only [pahoMqttMessageHandler]
        rw [if_pos empty]
        rfl
      · rw [if_neg empty]
        generalize result : client.unsubscribe strings name = outcome
        have settled : client.Settled outcome.1 outcome.2 := result ▸ Client.unsubscribe_settled
        refine ⟨[decide (outcome.1 = 0)],
          { g.call (.unsubscribe (some name)) with
            isConnected := outcome.2.isconnected
            subscribed := if outcome.1 = 0 then g.subscribed.filter fun other => other != name else g.subscribed },
          rfl, fun later => ?_⟩
        have asked := request_answered (g := g.call (.unsubscribe (some name))) connected settled later
        refine (unsubscribe_answered empty asked).trans ?_
        by_cases zero : outcome.1 = 0
        · simp only [zero, decide_true, if_true]
          rfl
        · simp only [zero, decide_false, if_false]
          rfl
  | loop reconnect =>
    have settled : (PahoMqttMessageHandler.loop strings client reconnect).2.isconnected =
      (PahoMqttMessageHandler.loop strings client reconnect).1 := PahoMqttMessageHandler.loop_settled reconnect
    unfold perform request
    simp only
    cases online : client.isconnected with
    | true =>
      rw [PahoMqttMessageHandler.loop_connected online] at settled ⊢
      refine ⟨[], g, (connected.trans online).trans settled.symm, fun later => ?_⟩
      rw [if_pos (connected.trans online)]
      rfl
    | false =>
      have offline : ¬ g.isConnected = true := ne_true_of_eq_false (connected.trans online)
      generalize PahoMqttMessageHandler.loop strings client reconnect = outcome at settled
      obtain ⟨result, after⟩ := outcome
      cases result with
      | true =>
        refine ⟨[true], g.mqttConnect, settled.symm, fun later => ?_⟩
        rw [if_neg offline]
        rfl
      | false =>
        refine ⟨[false], g, (connected.trans online).trans settled.symm, fun later => ?_⟩
        rw [if_neg offline]
        rfl

/-- Whatever the network and the timers do: for the right answers the gateway that only knows `request` gets the
    results that the client gives, and after every call it takes the client to be connected exactly when it is. -/
theorem client_refines_request {calls : List ((P → CString) × ClientCall P)} (fit : ∀ call ∈ calls, Fits call)
    {client : Client P} {g : Gateway} (connected : g.isConnected = client.isconnected) :
    ∃ answers, (results request { g with answers := answers } calls).1 = (results perform client calls).1 ∧
      (results request { g with answers := answers } calls).2.isConnected =
        (results perform client calls).2.isconnected := by
  induction calls generalizing client g with
  | nil => exact ⟨[], rfl, connected⟩
  | cons call calls ih =>
    obtain ⟨first, after, same, answered⟩ := perform_refines (fit call List.mem_cons_self) connected
    obtain ⟨later, results, last⟩ := ih (fun other member => fit other (List.mem_cons_of_mem _ member)) same
    refine ⟨first ++ later, ?_, ?_⟩
    · unfold ClientCall.results
      simp only [answered later, results]
    · unfold ClientCall.results
      simp only [answered later, last]

end ClientCall

namespace Scenario

/-- A client of a broker that accepts the connection and a subscription, sends a message to the topic, and then
    answers no more. -/
def mqttClient : Client CString :=
  .initial ⟨[[0x20, 2, 0, 0] ++ [0x90, 3, 0, 1, 0] ++ [0x30, 4, 0, 1, 116, 1]], [], []⟩ (.replicate 20 false)
    (.replicate maxMqttPacketSize 0)

def subscriberOptions : ConnectData := .initializer (name 103)

def onlineClient : Client CString := (mqttClient.connect id subscriberOptions).2

def subscriberCalls : List ((CString → CString) × ClientCall CString) :=
  [(id, .subscribe (name 116) 0), (id, .loop none), (id, .publish (name 117) [1, 2] 0 false), (id, .publish (name 117) [3] 1 true)]

def foundConnection : Reconnect := ⟨subscriberOptions, mqttClient.ipstack, mqttClient.clock⟩

def reconnectedCalls : List ((CString → CString) × ClientCall CString) :=
  subscriberCalls ++ [(id, .loop none), (id, .loop (some foundConnection)), (id, .subscribe (name 118) 0)]

theorem reconnected_fits : ∀ call ∈ reconnectedCalls, ClientCall.Fits call := by
  simp only [reconnectedCalls, subscriberCalls, List.cons_append, List.nil_append, List.mem_cons, List.not_mem_nil, or_false]
  rintro call (rfl | rfl | rfl | rfl | rfl | rfl | rfl) <;> unfold ClientCall.Fits <;> decide

/-- The gateway gets the answers that the fourth call and the `loop` after it fail with. -/
theorem subscriber_refined :
    ∃ answers,
      (ClientCall.results ClientCall.request
          { Gateway.start (configuration [47]) .empty with isConnected := true, answers := answers } reconnectedCalls).1 =
        (ClientCall.results ClientCall.perform onlineClient reconnectedCalls).1 ∧
      (ClientCall.results ClientCall.request
          { Gateway.start (configuration [47]) .empty with isConnected := true, answers := answers }
          reconnectedCalls).2.isConnected =
        (ClientCall.results ClientCall.perform onlineClient reconnectedCalls).2.isconnected := by
  have connected : ({ Gateway.start (configuration [47]) .empty with isConnected := true } : Gateway).isConnected =
      onlineClient.isconnected := by decide +kernel
  exact ClientCall.client_refines_request reconnected_fits connected

end Scenario

end Refinement

section Runs

variable {P : Type}

/-- What happens to a client: it is used, also to look for a connection, or its connection is given up. -/
inductive ClientMove (P : Type) where
  | request (strings : P → CString) (call : ClientCall P)
  | disconnect

/-- The client and the pointers that the broker has granted a subscription for since it connected. -/
def ClientMove.apply : Client P × List P → ClientMove P → Client P × List P
  | (client, granted), .request strings call =>
    let (result, after) := ClientCall.perform client (strings, call)
    (after,
      match call with
      | .subscribe topic _ => if result then topic :: granted else granted
      | .loop _ => if client.isconnected then granted else []
      | _ => granted)
  | (client, granted), .disconnect => (client.disconnect, granted)

namespace Client

/-- What holds of every client that asks for clean sessions only. -/
structure Regular (client : Client P) (granted : List P) : Prop where
  places : client.messageHandlers.length = maxMessageHandlers
  offline : client.isconnected = false → client.messageHandlers = .replicate maxMessageHandlers none
  granted : ∀ topic, some topic ∈ client.messageHandlers → topic ∈ granted
  clean : client.isconnected = true → client.cleansession = true
  inflight : client.inflightMsgid = 0
  numbered : client.packetid ≤ 65535

variable {client after : Client P} {granted : List P} {strings : P → CString}

theorem Regular.of_session (regular : client.Regular granted) (same : after.session = client.session) :
    after.Regular granted where
  places := (congrArg (fun session => session.messageHandlers.length) same).trans regular.places
  offline disconnected := (congrArg Session.messageHandlers same).trans
    (regular.offline ((congrArg Session.isconnected same).symm.trans disconnected))
  granted topic member := by
    have handlers : after.messageHandlers = client.messageHandlers := congrArg Session.messageHandlers same
    exact regular.granted topic (handlers ▸ member)
  clean connected := (congrArg Session.cleansession same).trans
    (regular.clean ((congrArg Session.isconnected same).symm.trans connected))
  inflight := (congrArg Session.inflightMsgid same).trans regular.inflight
  numbered := (congrArg Session.packetid same).trans_le regular.numbered

theorem Regular.cleanSession (numbered : client.packetid ≤ 65535) : client.cleanSession.Regular granted where
  places := List.length_replicate
  offline _ := rfl
  granted topic member := absurd (List.eq_of_mem_replicate member) (by simp)
  clean impossible := absurd impossible Bool.false_ne_true
  inflight := rfl
  numbered := numbered

theorem Regular.unconnected (regular : client.Regular granted) (offline : client.isconnected = false) {others : List P} :
    client.Regular others :=
  { regular with
    granted := fun topic member => by
      rw [regular.offline offline] at member
      exact absurd (List.eq_of_mem_replicate member) (by simp) }

theorem Regular.getNext (regular : client.Regular granted) : client.getNext.2.Regular granted where
  places := regular.places
  offline := regular.offline
  granted := regular.granted
  clean := regular.clean
  inflight := regular.inflight
  numbered := by
    have before := regular.numbered
    unfold Client.getNext
    simp only
    split <;> omega

theorem Regular.publishPacket (regular : client.Regular granted) (packet : List UInt8) (qos : Nat) :
    (client.publishPacket strings packet qos).2.Regular granted := by
  unfold Client.publishPacket
  split
  · rename_i after sent
    have kept : after.session = client.session := congrArg (fun result => result.2.session) sent.symm
    exact .cleanSession (regular.of_session kept).numbered
  · rename_i after sent
    have kept : after.session = client.session := congrArg (fun result => result.2.session) sent.symm
    split
    · exact regular.of_session kept
    · split
      all_goals
        rename_i answered waited
        have same : answered.session = client.session :=
          ((congrArg (fun result => result.2.session) waited.symm).trans (waitfor_session _)).trans kept
        have still := regular.of_session same
      · exact .cleanSession still.numbered
      · split
        · simp only
          split
          · exact { still with inflight := rfl }
          · exact still
        · exact .cleanSession still.numbered

theorem Regular.publish (regular : client.Regular granted) (topicName : CString) (payload : List UInt8) (qos : Nat)
    (retained : Bool) : (client.publish strings topicName payload qos retained).2.Regular granted := by
  unfold Client.publish
  cases connected : client.isconnected with
  | false => exact regular
  | true =>
    simp only [Bool.not_true, Bool.false_eq_true, if_false]
    have drawn : (client.publishId qos).2.Regular granted := by
      unfold publishId
      split
      · exact regular.getNext
      · exact regular
    have clean : (client.publishId qos).2.cleansession = true := by
      refine Eq.trans ?_ (regular.clean connected)
      unfold publishId
      split <;> rfl
    split
    · exact drawn
    · unfold keep
      rw [if_pos clean]
      exact drawn.publishPacket _ _

/-- The handlers that `attach` leaves are the old ones and the new one. -/
theorem attach_spec {topicFilter : P} {handlers attached : List (Option P)}
    (taken : attach topicFilter handlers = some attached) :
    attached.length = handlers.length ∧
      ∀ topic, some topic ∈ attached → topic = topicFilter ∨ some topic ∈ handlers := by
  induction handlers generalizing attached with
  | nil => cases taken
  | cons handler handlers ih =>
    cases handler with
    | none =>
      cases taken
      refine ⟨rfl, fun topic member => ?_⟩
      rcases List.mem_cons.mp member with same | other
      · exact .inl (Option.some.inj same)
      · exact .inr (List.mem_cons_of_mem _ other)
    | some other =>
      unfold attach at taken
      obtain ⟨rest, found, rfl⟩ := Option.map_eq_some_iff.mp taken
      obtain ⟨length, members⟩ := ih found
      refine ⟨congrArg Nat.succ length, fun topic member => ?_⟩
      rcases List.mem_cons.mp member with same | later
      · exact .inr (same ▸ List.mem_cons_self)
      · exact (members topic later).imp_right (List.mem_cons_of_mem _)

theorem detach_spec (strings : P → CString) (topicFilter : CString) (handlers : List (Option P)) :
    (detach strings topicFilter handlers).length = handlers.length ∧
      ∀ topic, some topic ∈ detach strings topicFilter handlers → some topic ∈ handlers := by
  induction handlers with
  | nil => exact ⟨rfl, fun _ member => member⟩
  | cons handler handlers ih =>
    unfold detach
    split
    · refine ⟨rfl, fun topic member => ?_⟩
      rcases List.mem_cons.mp member with impossible | later
      · cases impossible
      · exact List.mem_cons_of_mem _ later
    · refine ⟨congrArg Nat.succ ih.1, fun topic member => ?_⟩
      rcases List.mem_cons.mp member with same | later
      · exact same ▸ List.mem_cons_self
      · exact List.mem_cons_of_mem _ (ih.2 topic later)

theorem Regular.more (regular : client.Regular granted) (topic : P) : client.Regular (topic :: granted) :=
  { regular with granted := fun other member => List.mem_cons_of_mem _ (regular.granted other member) }

theorem Regular.handle (regular : client.Regular granted) (connected : client.isconnected = true) (topicFilter : P)
    (rc : Int) : (client.handle topicFilter rc).2.Regular (topicFilter :: granted) := by
  unfold Client.handle
  split
  · exact regular.more topicFilter
  · split
    · rename_i handlers taken
      obtain ⟨length, members⟩ := attach_spec taken
      exact { regular.more topicFilter with
        places := length.trans regular.places
        offline := fun offline => absurd (connected.symm.trans offline) (by decide)
        granted := fun topic member => (members topic member).elim (fun same => same ▸ List.mem_cons_self)
          fun before => List.mem_cons_of_mem _ (regular.granted topic before) }
    · exact regular.more topicFilter

theorem Regular.subscribe (regular : client.Regular granted) (topicFilter : P) (qos : Nat) :
    (client.subscribe strings topicFilter qos).2.Regular (topicFilter :: granted) := by
  unfold Client.subscribe
  cases connected : client.isconnected with
  | false => exact .cleanSession regular.numbered
  | true =>
    have drawn := regular.getNext
    simp only [Bool.not_true, Bool.false_eq_true, if_false]
    split
    · exact .cleanSession drawn.numbered
    · split
      all_goals
        rename_i after sent
        have kept : after.session = client.getNext.2.session := congrArg (fun result => result.2.session) sent.symm
      · exact .cleanSession (drawn.of_session kept).numbered
      · split
        all_goals
          rename_i answered waited
          have same : answered.session = client.getNext.2.session :=
            ((congrArg (fun result => result.2.session) waited.symm).trans (waitfor_session _)).trans kept
          have still := drawn.of_session same
        · exact .cleanSession still.numbered
        · have handled := still.handle ((congrArg Session.isconnected same).trans connected) topicFilter
            (grantedQoS answered.readbuf)
          simp only
          split
          · exact handled
          · exact .cleanSession handled.numbered

theorem Regular.unsubscribe (regular : client.Regular granted) (topicFilter : CString) :
    (client.unsubscribe strings topicFilter).2.Regular granted := by
  unfold Client.unsubscribe
  cases connected : client.isconnected with
  | false => exact .cleanSession regular.numbered
  | true =>
    have drawn := regular.getNext
    simp only [Bool.not_true, Bool.false_eq_true, if_false]
    split
    · exact .cleanSession drawn.numbered
    · split
      all_goals
        rename_i after sent
        have kept : after.session = client.getNext.2.session := congrArg (fun result => result.2.session) sent.symm
      · exact .cleanSession (drawn.of_session kept).numbered
      · split
        all_goals
          rename_i answered waited
          have same : answered.session = client.getNext.2.session :=
            ((congrArg (fun result => result.2.session) waited.symm).trans (waitfor_session _)).trans kept
          have still := drawn.of_session same
        · exact .cleanSession still.numbered
        · simp only
          split
          · obtain ⟨length, members⟩ := detach_spec strings topicFilter answered.messageHandlers
            exact { still with
              places := length.trans still.places
              offline := fun offline =>
                absurd (((congrArg Session.isconnected same).trans connected).symm.trans offline) (by decide)
              granted := fun topic member => still.granted topic (members topic member) }
          · exact still

theorem Regular.leave (regular : client.Regular granted) :
    (if client.cleansession then client.cleanSession else { client with isconnected := false }).Regular granted := by
  split
  · exact .cleanSession regular.numbered
  · rename_i kept
    have offline : client.isconnected = false :=
      eq_false_of_ne_true fun connected => kept (regular.clean connected)
    exact { regular with
      offline := fun _ => regular.offline offline
      clean := fun impossible => absurd impossible Bool.false_ne_true }

theorem Regular.disconnect (regular : client.Regular granted) : client.disconnect.Regular granted := by
  unfold Client.disconnect
  apply Regular.leave
  apply regular.of_session
  split <;> rfl

theorem Regular.connect (regular : client.Regular granted) (offline : client.isconnected = false) {options : ConnectData}
    (clean : options.cleansession = true) : (client.connect strings options).2.Regular [] := by
  have none : client.messageHandlers = .replicate maxMessageHandlers none := regular.offline offline
  have empty : ∀ topic, some topic ∈ client.messageHandlers → topic ∈ ([] : List P) := by
    intro topic member
    rw [none] at member
    exact absurd (List.eq_of_mem_replicate member) (by simp)
  -- a connection attempt leaves only these settings behind
  have settled : ∀ after : Client P, after.session =
      { client with keepAliveInterval := options.keepAliveInterval.toNat, cleansession := options.cleansession }.session →
      after.Regular [] ∧ { after with isconnected := true }.Regular [] := by
    intro after same
    have places := congrArg (fun session => session.messageHandlers) same
    have begun : ({ client with
        keepAliveInterval := options.keepAliveInterval.toNat, cleansession := options.cleansession } : Client P).Regular [] :=
      { regular with granted := empty, clean := fun _ => clean }
    have still := begun.of_session same
    exact ⟨still, { still with
      offline := fun impossible => absurd impossible.symm Bool.false_ne_true
      clean := fun _ => (congrArg Session.cleansession same).trans clean }⟩
  have started : ({ client with
      keepAliveInterval := options.keepAliveInterval.toNat, cleansession := options.cleansession } : Client P).Regular [] :=
    (settled _ rfl).1
  unfold Client.connect
  rw [if_neg (ne_true_of_eq_false offline)]
  simp only
  split
  · exact started
  · split
    · rename_i after sent
      exact (settled _ (congrArg (fun result => result.2.session) sent.symm)).1
    · rename_i after sent
      have kept : after.session = _ := congrArg (fun result => result.2.session) sent.symm
      have same : (after.waitfor strings .connack).2.session = after.session := waitfor_session _
      have waited := settled _ (same.trans kept)
      rw [waited.1.inflight, if_neg (Nat.lt_irrefl 0)]
      generalize (if (after.waitfor strings .connack).1 = true then _ else (-1 : Int)) = code
      by_cases accepted : code = 0
      · rw [if_pos accepted]
        exact waited.2
      · rw [if_neg accepted]
        exact waited.1

end Client

/-- The connect data that the program hands on ask for a clean session. -/
def ClientMove.Clean : ClientMove P → Prop
  | .request _ (.loop (some reconnect)) => reconnect.options.cleansession = true
  | _ => True

theorem ClientMove.apply_regular {client : Client P} {granted : List P} {move : ClientMove P} (clean : move.Clean)
    (regular : client.Regular granted) : (move.apply (client, granted)).1.Regular (move.apply (client, granted)).2 := by
  cases move with
  | request strings call =>
    cases call with
    | publish topic payload qos retained =>
      unfold ClientMove.apply ClientCall.perform PahoMqttMessageHandler.publish
      simp only
      split
      · exact regular
      · exact regular.publish topic payload qos.toNat retained
    | subscribe topic qos =>
      unfold ClientMove.apply ClientCall.perform PahoMqttMessageHandler.subscribe
      simp only
      split
      · exact regular
      · have after : (client.subscribe strings topic qos.toNat).2.Regular (topic :: granted) :=
          regular.subscribe topic qos.toNat
        have settled : client.Settled (client.subscribe strings topic qos.toNat).1
          (client.subscribe strings topic qos.toNat).2 := Client.subscribe_settled
        by_cases succeeded : (client.subscribe strings topic qos.toNat).1 = 0
        · simp only [succeeded, decide_true, if_true]
          exact after
        · simp only [succeeded, decide_false, Bool.false_eq_true, if_false]
          exact after.unconnected (settled.2 succeeded)
    | unsubscribe topic =>
      unfold ClientMove.apply ClientCall.perform PahoMqttMessageHandler.unsubscribe
      simp only
      split
      · exact regular
      · split
        · exact regular
        · exact regular.unsubscribe _
    | loop reconnect =>
      unfold ClientMove.apply ClientCall.perform PahoMqttMessageHandler.loop
      simp only
      by_cases connected : client.isconnected = true
      · rw [if_pos connected, if_pos connected]
        exact regular.of_session Client.yield_session
      · have offline : client.isconnected = false := eq_false_of_ne_true connected
        rw [if_neg connected, if_neg connected]
        cases reconnect with
        | none => exact regular.unconnected offline
        | some reconnect =>
          have renewed : ({ client with ipstack := reconnect.ipstack, clock := reconnect.clock } : Client P).Regular granted :=
            regular.of_session rfl
          exact renewed.connect offline clean
  | disconnect => exact regular.disconnect

theorem ClientMove.foldl_regular {state : Client P × List P} {moves : List (ClientMove P)}
    (clean : ∀ move ∈ moves, move.Clean) (regular : state.1.Regular state.2) :
    (moves.foldl ClientMove.apply state).1.Regular (moves.foldl ClientMove.apply state).2 := by
  induction moves generalizing state with
  | nil => exact regular
  | cons move moves ih =>
    apply ih
    · exact fun other member => clean other (List.mem_cons_of_mem _ member)
    · exact ClientMove.apply_regular (clean move List.mem_cons_self) regular

theorem Client.initial_regular (ipstack : IPStack) (clock : List Bool) (readbuf : List UInt8) :
    (Client.initial ipstack clock readbuf : Client P).Regular [] where
  places := List.length_replicate
  offline _ := rfl
  granted topic member := absurd (List.eq_of_mem_replicate member) (by simp)
  clean impossible := absurd impossible Bool.false_ne_true
  inflight := rfl
  numbered := Nat.zero_le _

/-- The client after some moves, and the pointers that were granted on its connection. -/
def ClientMove.applyAll (ipstack : IPStack) (clock : List Bool) (readbuf : List UInt8) (moves : List (ClientMove P)) :
    Client P × List P := moves.foldl ClientMove.apply (Client.initial ipstack clock readbuf, [])

/-- In every run of a client that asks for clean sessions, the table of message handlers has five places, they hold
    pointers that were given to a `subscribe` that succeeded on the present connection, and nothing is ever in flight
    that a later connection would send again. -/
theorem client_session {ipstack : IPStack} {clock : List Bool} {readbuf : List UInt8} {moves : List (ClientMove P)}
    (clean : ∀ move ∈ moves, move.Clean) :
    (ClientMove.applyAll ipstack clock readbuf moves).1.Regular (ClientMove.applyAll ipstack clock readbuf moves).2 :=
  ClientMove.foldl_regular clean (Client.initial_regular ipstack clock readbuf)

namespace Scenario

/-- A client that connects, subscribes, runs into a publish that is not acknowledged, and connects again. -/
def reconnecting : List (ClientMove CString) :=
  [.request id (.loop (some foundConnection)), .request id (.subscribe (name 116) 0),
    .request id (.publish (name 117) [3] 1 true), .request id (.loop none), .request id (.loop (some foundConnection)),
    .request id (.subscribe (name 118) 0), .disconnect]

theorem reconnecting_clean : ∀ move ∈ reconnecting, move.Clean := by
  simp only [reconnecting, List.mem_cons, List.not_mem_nil, or_false]
  rintro move (rfl | rfl | rfl | rfl | rfl | rfl | rfl)
  · rfl
  · trivial
  · trivial
  · trivial
  · rfl
  · trivial
  · trivial

theorem reconnecting_regular :
    (ClientMove.applyAll ⟨[], [], []⟩ [] [] reconnecting).1.Regular
      (ClientMove.applyAll ⟨[], [], []⟩ [] [] reconnecting).2 :=
  client_session reconnecting_clean

end Scenario

end Runs

end MqttSnGateway
