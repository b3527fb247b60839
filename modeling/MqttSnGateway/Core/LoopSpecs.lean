import MqttSnGateway.Core.Traversal

namespace MqttSnGateway

open Persistent Store

namespace Gateway

variable {g after last : Gateway}

/-- `after` is idle over the store of `g` and has sent no more; the clock may have moved and the MQTT connection
    may be lost. -/
structure Quiet (g after : Gateway) : Prop where
  store : after.store = g.store
  idle : after.persistent.Idle
  sd : after.persistent.sd = g.persistent.sd
  topicsPre : after.persistent.topicsPre = g.persistent.topicsPre
  online : after.persistent.isMqttOnline = g.persistent.isMqttOnline
  subscribed : after.subscribed = g.subscribed
  connected : after.isConnected = true → g.isConnected = true
  sent : after.sent = g.sent
  socketOpen : after.socketOpen = g.socketOpen

theorem Settles.quiet (settles : g.Settles g.store after) (silent : after.sent = g.sent) : g.Quiet after :=
  ⟨settles.store, settles.idle, settles.sd, settles.topicsPre, settles.online, settles.subscribed, settles.connected,
    silent, settles.socketOpen⟩

theorem Quiet.sound (quiet : g.Quiet after) (sound : g.Sound) : after.Sound := ⟨quiet.idle, quiet.store ▸ sound.ok⟩

theorem Quiet.trans (first : g.Quiet after) (second : after.Quiet last) : g.Quiet last where
  store := second.store.trans first.store
  idle := second.idle
  sd := second.sd.trans first.sd
  topicsPre := second.topicsPre.trans first.topicsPre
  online := second.online.trans first.online
  subscribed := second.subscribed.trans first.subscribed
  connected := fun connected => first.connected (second.connected connected)
  sent := second.sent.trans first.sent
  socketOpen := second.socketOpen.trans first.socketOpen

theorem quiet_clock (idle : g.persistent.Idle) (system : ArduinoSystem) : g.Quiet { g with system := system } :=
  ⟨rfl, idle, rfl, rfl, rfl, rfl, id, rfl, rfl⟩

theorem quiet_exit (idle : g.persistent.Idle) : g.Quiet g.exit := ⟨rfl, idle, rfl, rfl, rfl, rfl, id, rfl, rfl⟩

theorem quiet_disconnect (idle : g.persistent.Idle) : g.Quiet { g.call .disconnect with isConnected := false } :=
  ⟨rfl, idle, rfl, rfl, rfl, rfl, (fun connected => by cases connected), rfl, rfl⟩

theorem quiet_publish {topic : CString} {payload : List UInt8} {qos : UInt8} {retained : Bool} (idle : g.persistent.Idle) :
    g.Quiet (pahoMqttMessageHandler.publish g topic payload qos retained).2 :=
  (paho_publish_settles idle).quiet paho_publish_called.sent

theorem quiet_visiting (idle : g.persistent.Idle) {n : Nat} : g.Quiet (g.visiting n) :=
  ⟨rfl, idle, rfl, rfl, rfl, rfl, id, rfl, rfl⟩

/-- The two loops over the clients, with the clock readings they work with. -/
inductive LoopKind (g : Gateway) (beat elapsed : UInt32) :
    (ClientStatus → Bool) → ClientStatus → SnMessage → Bool → UInt32 → Prop
  | online (online : g.persistent.isMqttsnOnline = true ∧ g.persistent.isMqttOnline = true) :
    LoopKind g beat elapsed (fun status => status = .awake) .asleep .pingresp (g.system.hasBeaten beat).1
      (if (g.system.hasBeaten beat).1 then ((g.system.hasBeaten beat).2.getElapsedTime elapsed).1 else 0)
  | offline (offline : g.persistent.isMqttsnOnline = true ∧ g.persistent.isMqttOnline = false) :
    LoopKind g beat elapsed (fun status => status = .active || status = .awake) .disconnected .disconnect
      (g.system.hasBeaten beat).1 (((g.system.hasBeaten beat).2.getElapsedTime elapsed).1 / 1000)

section Rules

variable {I : Gateway → Prop} {beat elapsed : UInt32}

/-- The slots from `n` on are those of `g`. -/
def SameBehind (g : Gateway) (n : Nat) (after : Gateway) : Prop :=
  ∀ k, n ≤ k → after.store.nthClient k = g.store.nthClient k

theorem LoopKind.used {drained : ClientStatus → Bool} {status : ClientStatus} {notice : SnMessage} {beaten : Bool}
    {time : UInt32} (kind : LoopKind g beat elapsed drained status notice beaten time) :
    status ≠ .empty ∧ drained .empty = false := by
  cases kind with
  | online _ => exact ⟨by simp, rfl⟩
  | offline _ => exact ⟨by simp, rfl⟩

/-- A loop over the clients keeps what the visits of registered clients keep. Each visit finds the slots from its
    own on as they were at the start. -/
theorem serviceClients_invariant {drained : ClientStatus → Bool} {status : ClientStatus} {notice : SnMessage}
    {beaten : Bool} {time : UInt32} {stops : DeviceAddress → Bool} {address : DeviceAddress}
    (used : status ≠ .empty ∧ drained .empty = false) (sound : g.Sound) (start : I g)
    (quiet : ∀ g' g'', g'.Quiet g'' → I g' → I g'')
    (visit : ∀ n g' g'', g'.Sound → SameBehind g n g' → (g'.store.nthClient n).clientStatus ≠ .empty →
      Visits drained status notice beaten time n (g'.store.nthClient n) g' g'' → I g' → I g'')
    (returned : serviceClients (serviceClient pahoMqttMessageHandler drained status notice beaten time) stops address g =
      some after) : I after := by
  refine (serviceClients_rule (I := fun n g' => g'.Sound ∧ SameBehind g n g' ∧ I g') ?_
    ⟨sound, fun _ _ => rfl, start⟩ returned).elim fun _ kept => kept.2.2
  intro n g' g'' ⟨sound', same, kept⟩ visited
  by_cases empty : (g'.store.nthClient n).clientStatus = .empty
  · obtain ⟨settles, silent⟩ := serviceClient_empty sound'.idle empty used.2 visited
    have calm : g'.Quiet g'' := (quiet_visiting sound'.idle).trans (settles.quiet silent)
    refine ⟨calm.sound sound', ?_, quiet g' g'' calm kept⟩
    intro k behind
    rw [calm.store]
    exact same k (by omega)
  · have visits := serviceClient_visits sound' empty used.1 visited
    have nonzero := (sound'.ok.slots.fits n).addressed empty
    refine ⟨visits.sound sound' nonzero used.1, ?_, visit n g' g'' sound' same empty visits kept⟩
    intro k behind
    rw [visits.behind sound' empty used.1 (by omega)]
    exact same k (by omega)

theorem settles_lost {n : Nat} (sound : g.Sound) (registered : (g.store.nthClient n).clientStatus ≠ .empty) :
    g.Settles (g.store.updateAt (g.store.nthClient n).clientAddress fun entry => { entry with clientStatus := .lost })
        (g.transaction (g.store.nthClient n).clientAddress (fun p => p.setClientState .lost) successOrFull).2 ∧
      (g.transaction (g.store.nthClient n).clientAddress (fun p => p.setClientState .lost) successOrFull).2.sent =
        g.sent := by
  have nonzero := (sound.ok.slots.fits n).addressed registered
  obtain ⟨m, _, found⟩ := sound.ok.slots.slotOfAddress_here nonzero rfl
  have written : g.transaction (g.store.nthClient n).clientAddress (fun p => p.setClientState .lost) successOrFull =
      (.success, g.settled (g.store.setEntry m fun entry => { entry with clientStatus := .lost })
        { g.store.nthClient m with clientStatus := .lost }) := transaction_updateEntry_found sound.idle found
  rw [written, updateAt_found found]
  exact ⟨Settles.settled, rfl⟩

theorem sound_lost {n : Nat} (sound : g.Sound) (registered : (g.store.nthClient n).clientStatus ≠ .empty) :
    (g.transaction (g.store.nthClient n).clientAddress (fun p => p.setClientState .lost) successOrFull).2.Sound := by
  apply sound.settles (settles_lost sound registered).1
  apply sound.ok.updateAt ((sound.ok.slots.fits n).addressed registered)
  exact fun _ _ => same_status (by simp)

theorem setAllClientsLostLoop_invariant {address : DeviceAddress} {fuel n : Nat} {g : Gateway} (sound : g.Sound)
    (start : I g)
    (lost : ∀ n g' g'', g'.Sound → (g'.store.nthClient n).clientStatus ≠ .empty →
      g'.Settles (g'.store.updateAt (g'.store.nthClient n).clientAddress fun entry =>
        { entry with clientStatus := .lost }) g'' → g''.sent = g'.sent → I g' → I g'')
    (returned : setAllClientsLostLoop address fuel n g = some after) : I after := by
  induction fuel generalizing n g with
  | zero =>
    unfold setAllClientsLostLoop at returned
    simp only at returned
    split at returned
    · cases returned
      exact start
    · cases returned
  | succ fuel ih =>
    unfold setAllClientsLostLoop at returned
    simp only at returned
    split at returned
    · cases returned
      exact start
    · by_cases registered : (g.store.nthClient n).clientStatus ≠ .empty
      · obtain ⟨settles, silent⟩ := settles_lost sound registered
        rw [if_pos registered] at returned
        exact ih (sound_lost sound registered) (lost n g _ sound registered settles silent start) returned
      · rw [if_neg registered] at returned
        exact ih sound start returned

/-- The rule for `loop`: what the visits, the loss of all clients and the quiet steps keep holds after it. -/
theorem loop_invariant (sound : g.Sound) (start : I g)
    (quiet : ∀ g' g'', g'.Quiet g'' → I g' → I g'')
    (visit : ∀ drained status notice beaten time, LoopKind g beat elapsed drained status notice beaten time →
      ∀ n g' g'', g'.Sound → SameBehind g n g' → (g'.store.nthClient n).clientStatus ≠ .empty →
        Visits drained status notice beaten time n (g'.store.nthClient n) g' g'' → I g' → I g'')
    (lost : ∀ n g' g'', g'.Sound → (g'.store.nthClient n).clientStatus ≠ .empty →
      g'.Settles (g'.store.updateAt (g'.store.nthClient n).clientAddress fun entry =>
        { entry with clientStatus := .lost }) g'' → g''.sent = g'.sent → I g' → I g'')
    (returned : loop pahoMqttMessageHandler beat elapsed g = some after) : I after := by
  have clocked : ∀ system, Sound { g with system := system } ∧ I { g with system := system } := fun system =>
    ⟨(quiet_clock sound.idle system).sound sound, quiet g _ (quiet_clock sound.idle system) start⟩
  have visits : ∀ drained status notice beaten time, LoopKind g beat elapsed drained status notice beaten time →
      ∀ system stops address,
        serviceClients (serviceClient pahoMqttMessageHandler drained status notice beaten time) stops address
          { g with system := system } = some after → I after := by
    intro drained status notice beaten time kind system stops address serviced
    exact serviceClients_invariant kind.used (clocked system).1 (clocked system).2 quiet
      (visit drained status notice beaten time kind) serviced
  unfold loop at returned
  cases sn : g.persistent.isMqttsnOnline with
  | true =>
    cases mqtt : g.persistent.isMqttOnline with
    | true =>
      rw [sn, mqtt] at returned
      simp only [Bool.not_true, Bool.or_self, Bool.false_eq_true, if_false] at returned
      have online := visits _ _ _ _ _ (LoopKind.online ⟨sn, mqtt⟩)
      cases beaten : (g.system.hasBeaten beat).1 with
      | true =>
        rw [beaten] at online returned
        simp only [if_true] at online returned
        split at returned
        · cases returned
          exact (clocked _).2
        · exact online _ _ _ returned
      | false =>
        rw [beaten] at online returned
        simp only [Bool.false_eq_true, if_false] at online returned
        split at returned
        · cases returned
          exact (clocked _).2
        · exact online _ _ _ returned
    | false =>
      rw [sn, mqtt] at returned
      simp only [Bool.not_true, Bool.not_false, Bool.or_true, Bool.and_self, if_true] at returned
      unfold processMqttOfflineProcedure at returned
      simp only at returned
      split at returned
      · cases returned
        exact quiet _ _ (quiet_exit (clocked _).1.idle) (clocked _).2
      · exact visits _ _ _ _ _ (LoopKind.offline ⟨sn, mqtt⟩) _ _ _ returned
  | false =>
    cases mqtt : g.persistent.isMqttOnline with
    | true =>
      rw [sn, mqtt] at returned
      simp only [Bool.not_false, Bool.true_or, Bool.and_self, Bool.not_true, Bool.false_eq_true, if_true,
        if_false] at returned
      cases returned
      unfold processMqttsnOfflineProcedure
      cases g.mqttWill with
      | some will =>
        have published : g.Quiet (pahoMqttMessageHandler.publish g will.willTopic (will.willMsg.bytes ++ [0])
          will.willQos will.willRetain).2 := quiet_publish sound.idle
        have disconnected := published.trans (quiet_disconnect published.idle)
        exact quiet _ _ (disconnected.trans (quiet_exit disconnected.idle)) start
      | none =>
        have disconnected := quiet_disconnect sound.idle
        exact quiet _ _ (disconnected.trans (quiet_exit disconnected.idle)) start
    | false =>
      rw [sn, mqtt] at returned
      simp only [Bool.not_false, Bool.or_self, Bool.false_and, Bool.and_false, Bool.false_eq_true, if_true,
        if_false] at returned
      obtain ⟨between, finished, rfl⟩ := Option.map_eq_some_iff.mp returned
      have kept := setAllClientsLostLoop_invariant (I := fun g' => g'.Sound ∧ I g') sound ⟨sound, start⟩
        (fun n g' g'' sound' registered settles silent kept => ⟨sound'.settles settles
          (sound'.ok.updateAt ((sound'.ok.slots.fits n).addressed registered) fun _ _ => same_status (by simp)),
          lost n g' g'' sound' registered settles silent kept.2⟩) finished
      exact quiet _ _ (quiet_exit kept.1.idle) kept.2

end Rules

end Gateway

end MqttSnGateway
