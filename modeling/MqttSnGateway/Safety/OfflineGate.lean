import MqttSnGateway.Core.Regular
import MqttSnGateway.Datagrams

namespace MqttSnGateway

open Persistent Store

/-- What the offline procedure says is still served: PINGREQ with a client id, DISCONNECT without a duration,
    REGACK and PUBACK. -/
def Request.servedOffline : Request → Bool
  | .pingreqWithId _ | .disconnect | .regack .. | .puback .. => true
  | _ => false

namespace Store

variable {s : Store} {number : CString}

theorem modifyFiles_eq_self {h : ClientFiles → ClientFiles} :
    s.modifyFiles number h = s ↔ h (s.files number) = s.files number := by
  constructor
  · intro same
    have files := congrFun (congrArg Store.files same) number
    rwa [files_modifyFiles_self] at files
  · exact modifyFiles_id

theorem uncount_ne {topicName : Option CString} (ok : CountsOk s.mqttSub)
    (counted : (s.uncount topicName).countOfTopic topicName ≠ 0) : (s.uncount topicName).mqttSub ≠ s.mqttSub := by
  unfold countOfTopic uncount at counted
  unfold uncount
  cases valid : validName topicName with
  | none =>
    rw [valid] at counted
    exact absurd rfl counted
  | some name =>
    rw [valid] at counted
    have lowered : countOf (decrementCount s.mqttSub name) name = countOf s.mqttSub name - if name = name then 1 else 0 :=
      ok.countOf_decrementCount
    rw [if_pos rfl] at lowered
    intro same
    simp only at counted same
    rw [same] at lowered counted
    omega

theorem unsubscribe_ne {s' : Store} {topicId : UInt16} {topicName : Option CString} (ok : CountsOk s.mqttSub)
    (deleted : s.unsubscribe number topicId topicName = some s') (counted : s'.countOfTopic topicName ≠ 0) : s' ≠ s := by
  intro same
  unfold unsubscribe at deleted
  split at deleted
  · cases deleted
    exact uncount_ne ok counted (congrArg mqttSub same)
  · split at deleted
    · rename_i i _
      cases deleted
      let stored := s.modifyFiles number fun files => { files with sub := files.sub.set i .zero }
      have kept : stored.mqttSub = s.mqttSub := mqttSub_modifyFiles
      refine uncount_ne (s := stored) (by rwa [kept]) counted ?_
      rw [kept]
      exact congrArg mqttSub same
    · cases deleted

end Store

namespace Gateway

variable {g after between : Gateway} {address : DeviceAddress}

/-- The files of the store are as before and the MQTT client was not called. -/
def Unaffected (g after : Gateway) : Prop := after.store = g.store ∧ after.calls = g.calls

/-- What an offline gateway needs to keep a request from its files and from the MQTT client: an empty WILLTOPIC must
    find no will that it can remove, and UNSUBSCRIBE a client that is subscribed. -/
def GateHolds (g : Gateway) (address : DeviceAddress) : Request → Prop
  | .willtopic willTopic retain qos =>
    willTopic.length = 0 → qos = 0 → retain = false → ∀ n, g.store.slotOfAddress address = some n →
      (g.store.files (g.store.nthClient n).fileNumber).wil = none ∨
        g.persistent.sd.removes (filenameWithExtension (g.store.nthClient n).fileNumber .will) = false
  | .unsubscribe topicId _ shortTopic =>
    ∃ n, g.store.slotOfAddress address = some n ∧ g.store.SubscribesTopic (g.store.nthClient n).fileNumber
      (g.store.topicToUnsubscribe g.persistent.topicsPre address topicId shortTopic)
  | .unsubscribeByName topicName _ =>
    ∃ n, g.store.slotOfAddress address = some n ∧
      g.store.SubscribesTopic (g.store.nthClient n).fileNumber (some topicName)
  | _ => True

section Unaffected

variable {message : SnMessage}

theorem isMqttOnline_send : (g.send address message).persistent.isMqttOnline = g.persistent.isMqttOnline := by
  unfold Gateway.send
  split <;> rfl

theorem Unaffected.refl : g.Unaffected g := ⟨rfl, rfl⟩

theorem Unaffected.send (unaffected : g.Unaffected between) : g.Unaffected (between.send address message) :=
  ⟨store_send.trans unaffected.1, calls_send.trans unaffected.2⟩

theorem Answered.unaffected (answered : Answered between address after) :
    g.Unaffected after ↔ g.Unaffected between := by
  cases answered with
  | silent => rfl
  | sent message =>
    unfold Unaffected
    rw [store_send, calls_send]

end Unaffected

section Offline

theorem handlePublish_offline (address : DeviceAddress) (data : List UInt8) (msgId topicId : UInt16)
    (shortTopic retain : Bool) (qos : Int) (offline : g.persistent.isMqttOnline = false) :
    let after := handlePublish pahoMqttMessageHandler g address data msgId topicId shortTopic retain qos
    g.Unaffected after ∧ after.persistent.isMqttOnline = false := by
  have refused : publish pahoMqttMessageHandler g address data topicId shortTopic retain qos = (.zero, g) := by
    unfold publish
    rw [if_pos (by simp [offline])]
  unfold handlePublish
  rw [refused]
  simp only
  split
  · exact ⟨.refl, offline⟩
  · rw [if_pos (by decide)]
    split
    · exact ⟨Unaffected.refl.send, isMqttOnline_send.trans offline⟩
    · exact ⟨Unaffected.refl.send, isMqttOnline_send.trans offline⟩

theorem removeWill_unaffected (idle : g.persistent.Idle) :
    g.Unaffected (g.removeWill address).2 ↔ ∀ n, g.store.slotOfAddress address = some n →
      (g.store.files (g.store.nthClient n).fileNumber).wil = none ∨
        g.persistent.sd.removes (filenameWithExtension (g.store.nthClient n).fileNumber .will) = false := by
  unfold removeWill
  cases selection : g.store.slotOfAddress address with
  | none =>
    rw [transaction_missing (fun p => p.deleteWill) idle selection rfl]
    refine ⟨fun _ n found => ?_, fun _ => ⟨rfl, rfl⟩⟩
    cases found
  | some n =>
    let number := (g.store.nthClient n).fileNumber
    let h : ClientFiles → ClientFiles := fun files =>
      if g.persistent.sd.removes (filenameWithExtension number .will) then files.clear .will else files
    have changed : (g.persistent.inside g.store (g.store.nthClient n) false false).deleteWill =
        g.persistent.inside (g.store.setFiles n h) (g.store.nthClient n) false false := rfl
    rw [transaction_found (fun p => p.deleteWill) idle selection changed]
    have unaffected : g.Unaffected (g.settled (g.store.setFiles n h) (g.store.nthClient n)) ↔
        h (g.store.files number) = g.store.files number := by
      constructor
      · exact fun kept => modifyFiles_eq_self.mp kept.1
      · exact fun kept => ⟨modifyFiles_eq_self.mpr kept, rfl⟩
    simp only [unaffected, Option.some.injEq, forall_eq']
    by_cases removed : g.persistent.sd.removes (filenameWithExtension number .will) = true
    · simp only [h, if_pos removed, number] at removed ⊢
      rw [removed]
      constructor
      · exact fun same => .inl (congrArg ClientFiles.wil same).symm
      · rintro (none | kept)
        · rw [ClientFiles.clear, ← none]
        · cases kept
    · simp only [h, if_neg removed, number] at removed ⊢
      simp [removed]

theorem handleWilltopic_offline {willTopic : CString} {retain : Bool} {qos : UInt8} (idle : g.persistent.Idle)
    (offline : g.persistent.isMqttOnline = false) :
    g.Unaffected (g.handleWilltopic address willTopic retain qos) ↔ g.GateHolds address (.willtopic willTopic retain qos) := by
  unfold handleWilltopic GateHolds
  by_cases deleting : willTopic.length = 0 ∧ qos = 0 ∧ retain = false
  · rw [if_pos (by simpa [and_assoc] using deleting), removeWill_unaffected idle]
    obtain ⟨empty, level, plain⟩ := deleting
    simp [empty, level, plain]
  · rw [if_neg (by simpa [and_assoc] using deleting)]
    unfold addWillTopic
    rw [addWillPart_offline offline]
    constructor
    · exact fun _ empty level plain => absurd ⟨empty, level, plain⟩ deleting
    · exact fun _ => Unaffected.refl.send

/-- Only the inverted test keeps UNSUBSCRIBE from changing a count or calling the MQTT client. -/
theorem Unsubscription.unaffected {topicId : UInt16} {topicName : Option CString}
    (unsubscription : Unsubscription g address topicId topicName after) (ok : CountsOk g.store.mqttSub) :
    g.Unaffected after ↔ ∃ n, g.store.slotOfAddress address = some n ∧
      g.store.SubscribesTopic (g.store.nthClient n).fileNumber topicName := by
  have unsubscribed : ∀ {n}, (g.store.slotOfAddress address ≠ none →
      ¬ g.store.SubscribesTopic (g.store.entryAt address).fileNumber topicName) →
      g.store.slotOfAddress address = some n → ¬ g.store.SubscribesTopic (g.store.nthClient n).fileNumber topicName := by
    intro n fresh found
    rw [← entryAt_found found]
    apply fresh
    rw [found]
    exact Option.some_ne_none n
  have called : ∀ {s entry}, ¬ g.Unaffected (pahoMqttMessageHandler.unsubscribe (g.settled s entry) topicName).2 := by
    intro s entry unaffected
    have calls := unaffected.2
    rw [paho_unsubscribe_calls] at calls
    have length := congrArg List.length calls
    rw [List.length_append] at length
    exact absurd length (Nat.succ_ne_self _)
  cases unsubscription with
  | skipped found subscribed =>
    rw [entryAt_found found] at subscribed
    exact ⟨fun _ => ⟨_, found, subscribed⟩, fun _ => ⟨rfl, rfl⟩⟩
  | counted fresh deleted others =>
    constructor
    · exact fun unaffected => absurd unaffected.1 (unsubscribe_ne ok deleted others)
    · rintro ⟨n, found, subscribed⟩
      exact absurd subscribed (unsubscribed fresh found)
  | last fresh deleted alone =>
    constructor
    · exact fun unaffected => absurd unaffected called
    · rintro ⟨n, found, subscribed⟩
      exact absurd subscribed (unsubscribed fresh found)
  | failed fresh missing =>
    constructor
    · exact fun unaffected => absurd unaffected called
    · rintro ⟨n, found, subscribed⟩
      exact absurd subscribed (unsubscribed fresh found)

/-- While the MQTT side is offline, a request that should wait passes the gate exactly when it is an empty WILLTOPIC
    that removes a will or an UNSUBSCRIBE of a client that is not subscribed. -/
theorem receiveData_offline {sender : SockaddrIn} {bytes beyond : List UInt8} (reachable : g.Reachable)
    (offline : g.persistent.isMqttOnline = false)
    (waits : (Request.ofMemory (receiveBuffer bytes beyond)).servedOffline = false) :
    ∃ after, receiveData pahoMqttMessageHandler g sender.getDeviceAddress (receiveBuffer bytes beyond) = some after ∧
      (g.Unaffected after ↔ g.GateHolds sender.getDeviceAddress (Request.ofMemory (receiveBuffer bytes beyond))) := by
  have sound := reachable.sound
  have idle := sound.idle
  rw [receiveData_eq]
  generalize sender.getDeviceAddress = address
  generalize Request.ofMemory (receiveBuffer bytes beyond) = request at waits ⊢
  cases request with
  | connect clientId duration will clean =>
    have refused : addClient pahoMqttMessageHandler g clientId duration clean address = some (.zero, g) := by
      unfold addClient
      rw [if_pos (by simp [offline])]
    refine ⟨g.send address (.connack ReturnCode.rejectedNotSupported), ?_, iff_of_true Unaffected.refl.send trivial⟩
    show handleConnect pahoMqttMessageHandler g address clientId duration will clean = _
    unfold handleConnect
    rw [refused]
    rfl
  | willtopic willTopic retain qos => exact ⟨_, rfl, handleWilltopic_offline idle offline⟩
  | willmsg willMsg =>
    refine ⟨_, rfl, iff_of_true ?_ trivial⟩
    unfold handleWillmsg addWillMsg
    rw [addWillPart_offline offline]
    exact Unaffected.refl.send
  | register msgId topicName =>
    refine ⟨_, rfl, iff_of_true ?_ trivial⟩
    unfold handleRegister
    rw [registerTopic_offline offline]
    exact Unaffected.refl.send
  | publish data msgId topicId shortTopic retain qos twice =>
    refine ⟨_, rfl, iff_of_true ?_ trivial⟩
    have first := handlePublish_offline address data msgId topicId shortTopic retain qos offline
    cases twice with
    | false => exact first.1
    | true =>
      have second := handlePublish_offline address data msgId topicId shortTopic retain qos first.2
      exact ⟨second.1.1.trans first.1.1, second.1.2.trans first.1.2⟩
  | subscribe topicId msgId shortTopic qos =>
    refine ⟨_, rfl, iff_of_true ?_ trivial⟩
    unfold handleSubscribe
    rw [addSubscription_offline offline]
    exact Unaffected.refl.send
  | subscribeByName topicName msgId qos =>
    refine ⟨_, rfl, iff_of_true ?_ trivial⟩
    unfold handleSubscribeByName
    rw [registerTopic_offline offline]
    exact Unaffected.refl.send
  | unsubscribe topicId msgId shortTopic =>
    refine ⟨_, rfl, ?_⟩
    have answered : Answered _ address (handleUnsubscribe pahoMqttMessageHandler g address topicId msgId shortTopic) :=
      answerUnsubscribe_answered
    rw [answered.unaffected]
    exact (deleteSubscription_unsubscription idle).unaffected sound.ok.counts
  | unsubscribeByName topicName msgId =>
    refine ⟨_, rfl, ?_⟩
    have answered : Answered _ address (handleUnsubscribeByName pahoMqttMessageHandler g address topicName msgId) :=
      answerUnsubscribe_answered
    rw [answered.unaffected]
    exact (deleteSubscriptionByName_unsubscription idle).unaffected sound.ok.counts
  | pingreq => exact ⟨_, rfl, iff_of_true Unaffected.refl.send trivial⟩
  | disconnectWithDuration duration =>
    refine ⟨_, rfl, iff_of_true ?_ trivial⟩
    unfold handleDisconnectWithDuration
    rw [setAsleep_offline offline]
    exact Unaffected.refl.send
  | pubrel => exact ⟨_, rfl, iff_of_true .refl trivial⟩
  | ignored => exact ⟨_, rfl, iff_of_true .refl trivial⟩
  | pingreqWithId clientId => cases waits
  | disconnect => cases waits
  | regack topicId msgId returnCode => cases waits
  | puback topicId msgId returnCode => cases waits

end Offline

end Gateway

namespace Scenario

def offlineClient : Gateway :=
  (run [47] [.mqttConnect, .datagram (client 1) (Datagram.connect (name 65) 10 0) [], .restart]).get (by decide +kernel)

theorem reachable_offlineClient : offlineClient.Reachable := reachable_run (Option.some_get _).symm

theorem offline_offlineClient : offlineClient.persistent.isMqttOnline = false := by decide +kernel

theorem ofMemory_unsubscribe :
    Request.ofMemory (receiveBuffer (Datagram.unsubscribeByName (name 116) 1) []) =
      .unsubscribeByName (name 116) 1 := rfl

theorem receiveData_offline_unsubscribe :
    ∃ after, Gateway.receiveData pahoMqttMessageHandler offlineClient (client 1).getDeviceAddress
        (receiveBuffer (Datagram.unsubscribeByName (name 116) 1) []) = some after ∧
      (offlineClient.Unaffected after ↔ offlineClient.GateHolds (client 1).getDeviceAddress
        (Request.ofMemory (receiveBuffer (Datagram.unsubscribeByName (name 116) 1) []))) :=
  Gateway.receiveData_offline reachable_offlineClient offline_offlineClient (by rw [ofMemory_unsubscribe]; rfl)

theorem offline_unsubscribe_calls :
    ¬ ∀ (g after : Gateway) (sender : SockaddrIn) (bytes beyond : List UInt8), g.Reachable →
      g.persistent.isMqttOnline = false → bytes.length ≤ 255 →
      (Request.ofMemory (receiveBuffer bytes beyond)).servedOffline = false →
      Gateway.receiveData pahoMqttMessageHandler g sender.getDeviceAddress (receiveBuffer bytes beyond) = some after →
      g.Unaffected after := by
  intro claim
  let bytes := Datagram.unsubscribeByName (name 116) 1
  let outcome := Gateway.receiveData pahoMqttMessageHandler offlineClient (client 1).getDeviceAddress
    (receiveBuffer bytes [])
  have received : outcome.isSome = true := by decide +kernel
  have called : outcome.map Gateway.calls = some [.unsubscribe (some (name 116))] := by decide +kernel
  have silent : offlineClient.calls = [] := by decide +kernel
  obtain ⟨after, same⟩ := Option.isSome_iff_exists.mp received
  have unaffected := claim offlineClient after (client 1) bytes [] reachable_offlineClient offline_offlineClient
    (by decide) (by rw [ofMemory_unsubscribe]; rfl) same
  rw [same, Option.map_some, Option.some.injEq, unaffected.2, silent] at called
  cases called

end Scenario

end MqttSnGateway
