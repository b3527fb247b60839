import MqttSnGateway.Core.LoopSpecs
import MqttSnGateway.Core.RegularRuns
import MqttSnGateway.Core.SubscribeResults
import MqttSnGateway.Core.TopicRequests
import MqttSnGateway.Safety.UnsubscribeEffect

namespace MqttSnGateway

open Persistent Store RecordFile

namespace Store

variable {s s' : Store} {topicName : Option CString} {name other : CString}

theorem countOfTopic_unnamed (unnamed : ¬ IsTopicName name) : s.countOfTopic (some name) = 0 := by
  unfold countOfTopic
  rw [Gateway.validName_unnamed unnamed]

theorem countOfTopic_nothing (nothing : s.mqttSub = []) : s.countOfTopic topicName = 0 := by
  unfold countOfTopic
  rw [nothing]
  split <;> rfl

theorem countOfTopic_congr (same : s'.mqttSub = s.mqttSub) : s'.countOfTopic topicName = s.countOfTopic topicName := by
  unfold countOfTopic
  rw [same]

theorem countOfTopic_uncount_ne (ok : CountsOk s.mqttSub) (different : topicName ≠ some name) :
    (s.uncount topicName).countOfTopic (some name) = s.countOfTopic (some name) := by
  by_cases named : IsTopicName name
  · rw [Gateway.countOfTopic_named named, Gateway.countOfTopic_named named]
    unfold uncount
    cases valid : validName topicName with
    | none => rfl
    | some counted =>
      obtain ⟨rfl, _⟩ := named_of_validName valid
      show countOf (Persistent.decrementCount s.mqttSub counted) name = _
      rw [ok.countOf_decrementCount, if_neg fun same => different (congrArg some same.symm)]
      rfl
  · rw [countOfTopic_unnamed named, countOfTopic_unnamed named]

theorem countOf_incrementCount_ne {table : List EntryMqttSubscription} (ok : CountsOk table) (named : IsTopicName name)
    (small : countOf table name + 1 < 2 ^ 32) (different : other ≠ name) :
    countOf (Persistent.incrementCount table name) other = countOf table other := by
  by_cases room : CountRoom table name
  · rw [ok.countOf_incrementCount named room small, if_neg different]
    rfl
  · rw [ok.incrementCount_full room]

end Store

namespace Gateway

variable {g after : Gateway} {s s' : Store} {topicName : Option CString} {name : CString} {address : DeviceAddress}

/-- While there is a session with the broker, its topics are those that are counted. -/
def Agrees (g : Gateway) (s : Store) : Prop :=
  g.isConnected = true → ∀ name, name ∈ g.subscribed ↔ 0 < s.countOfTopic (some name)

theorem Agrees.congr (agrees : g.Agrees s) (mqttSub : s'.mqttSub = s.mqttSub) (subscribed : after.subscribed = g.subscribed)
    (connected : after.isConnected = true → g.isConnected = true) : after.Agrees s' := by
  intro session name
  rw [subscribed, countOfTopic_congr mqttSub]
  exact agrees (connected session) name

theorem Agrees.settles (agrees : g.Agrees s) (settles : g.Settles s' after) (mqttSub : s'.mqttSub = s.mqttSub) :
    after.Agrees after.store := by
  apply agrees.congr _ settles.subscribed settles.connected
  rw [settles.store]
  exact mqttSub

section Calls

/-- What a call of `unsubscribe` leaves of the session, if it goes on. -/
theorem paho_unsubscribe_session (connected : (pahoMqttMessageHandler.unsubscribe g topicName).2.isConnected = true) :
    g.isConnected = true ∧ ∀ name, name ∈ (pahoMqttMessageHandler.unsubscribe g topicName).2.subscribed ↔
      name ∈ g.subscribed ∧ (topicName = some name → name.length = 0) := by
  refine ⟨paho_unsubscribe_called.connected connected, fun name => ?_⟩
  unfold pahoMqttMessageHandler at connected ⊢
  cases topicName with
  | none => exact ⟨fun member => ⟨member, nofun⟩, fun both => both.1⟩
  | some taken =>
    simp only at connected ⊢
    by_cases empty : taken.length = 0
    · rw [if_pos empty]
      constructor
      · rintro member
        refine ⟨member, ?_⟩
        rintro ⟨rfl⟩
        exact empty
      · exact fun both => both.1
    · rw [if_neg empty] at connected ⊢
      have kept : (g.call (.unsubscribe (some taken))).request.2.subscribed = g.subscribed := rfl
      have ended : (g.call (.unsubscribe (some taken))).request.1 =
        (g.call (.unsubscribe (some taken))).request.2.isConnected := rfl
      generalize (g.call (.unsubscribe (some taken))).request = outcome at connected kept ended ⊢
      obtain ⟨granted, between⟩ := outcome
      cases granted with
      | true =>
        simp only at kept ⊢
        rw [List.mem_filter, kept]
        simp only [bne_iff_ne, ne_eq, Option.some.injEq]
        constructor
        · rintro ⟨member, different⟩
          exact ⟨member, fun same => absurd same.symm different⟩
        · rintro ⟨member, unnamed⟩
          refine ⟨member, ?_⟩
          rintro rfl
          exact empty (unnamed rfl)
      | false => cases ended.trans connected

theorem paho_unsubscribe_ended (refused : (pahoMqttMessageHandler.unsubscribe g topicName).1 = false) :
    (pahoMqttMessageHandler.unsubscribe g topicName).2.isConnected = false := by
  unfold pahoMqttMessageHandler at refused ⊢
  cases topicName with
  | none => cases refused
  | some taken =>
    simp only at refused ⊢
    by_cases empty : taken.length = 0
    · rw [if_pos empty] at refused
      cases refused
    · rw [if_neg empty] at refused ⊢
      have ended : (g.call (.unsubscribe (some taken))).request.1 =
        (g.call (.unsubscribe (some taken))).request.2.isConnected := rfl
      generalize (g.call (.unsubscribe (some taken))).request = outcome at refused ended ⊢
      obtain ⟨granted, between⟩ := outcome
      cases granted with
      | true => cases refused
      | false => exact ended.symm

theorem paho_subscribe_session (granted : pahoMqttMessageHandler.subscribe g name 1 = (true, after)) :
    after.subscribed = name :: g.subscribed := by
  have kept : (g.call (.subscribe name 1)).request.2.subscribed = g.subscribed := rfl
  unfold pahoMqttMessageHandler at granted
  simp only at granted
  rw [if_neg (by decide)] at granted
  generalize (g.call (.subscribe name 1)).request = outcome at granted kept
  obtain ⟨answer, between⟩ := outcome
  cases answer with
  | true =>
    cases granted
    exact congrArg (name :: ·) kept
  | false => cases granted

theorem paho_subscribe_ended (refused : pahoMqttMessageHandler.subscribe g name 1 = (false, after)) :
    after.isConnected = false := by
  have ended : (g.call (.subscribe name 1)).request.1 = (g.call (.subscribe name 1)).request.2.isConnected := rfl
  unfold pahoMqttMessageHandler at refused
  simp only at refused
  rw [if_neg (by decide)] at refused
  generalize (g.call (.subscribe name 1)).request = outcome at refused ended
  obtain ⟨answer, between⟩ := outcome
  cases answer with
  | true => cases refused
  | false =>
    cases refused
    exact ended.symm

end Calls

section Counting

theorem Agrees.counted (agrees : g.Agrees s) (ok : CountsOk s.mqttSub)
    (others : (s.uncount topicName).countOfTopic topicName ≠ 0) : g.Agrees (s.uncount topicName) := by
  intro connected name
  rw [agrees connected name]
  by_cases same : topicName = some name
  · have counted : (s.uncount topicName).countOfTopic topicName = s.countOfTopic topicName - 1 := countOf_uncount ok
    rw [same] at counted others ⊢
    omega
  · rw [countOfTopic_uncount_ne ok same]

theorem Agrees.last (agrees : g.Agrees s) (ok : CountsOk s.mqttSub)
    (alone : (s.uncount topicName).countOfTopic topicName = 0) :
    (pahoMqttMessageHandler.unsubscribe g topicName).2.Agrees (s.uncount topicName) := by
  intro connected name
  obtain ⟨before, members⟩ := paho_unsubscribe_session connected
  rw [members, agrees before name]
  by_cases same : topicName = some name
  · rw [same] at alone ⊢
    by_cases empty : name.length = 0
    · have unnamed : ¬ IsTopicName name := fun named => by
        have filled := named.1
        omega
      rw [countOfTopic_unnamed unnamed, countOfTopic_unnamed unnamed]
      simp
    · rw [alone]
      simp [empty]
  · rw [countOfTopic_uncount_ne ok same]
    simp [same]

theorem Agrees.removal {number : CString} {g' : Gateway} (agrees : g.Agrees s) (ok : s.Ok)
    (removal : Removal number g s g' s') : g'.Agrees s' := by
  induction removal with
  | refl => exact agrees
  | @round g' s' i record removal found used ih =>
    have between := removal.ok ok
    have named := ((between.files number).filled found used).1
    unfold afterRemoval Store.removeSubscription
    rw [← countOfTopic_named named]
    split
    · rename_i alone
      exact ih.last (s := s'.modifyFiles number _) between.counts alone
    · rename_i others
      exact ih.counted (s := s'.modifyFiles number _) between.counts others

theorem Subscription.agrees {n : Nat} {id : UInt16} {qos : UInt8} (subscription : Subscription g n name id qos s after)
    (agrees : g.Agrees s) (ok : CountsOk s.mqttSub)
    (small : IsTopicName name → ¬ (s.files (g.store.nthClient n).fileNumber).Subscribes name →
      countOf s.mqttSub name + 1 < 2 ^ 32) : after.Agrees after.store := by
  have incremented : (s.subscribe n name id qos).mqttSub = Persistent.incrementCount s.mqttSub name := by
    unfold Store.subscribe
    split <;> rfl
  have elsewhere : IsTopicName name → countOf s.mqttSub name + 1 < 2 ^ 32 → ∀ other, other ≠ name →
      (s.subscribe n name id qos).countOfTopic (some other) = s.countOfTopic (some other) := by
    intro named bound other different
    by_cases valid : IsTopicName other
    · rw [countOfTopic_named valid, countOfTopic_named valid, incremented]
      exact countOf_incrementCount_ne ok named bound different
    · rw [countOfTopic_unnamed valid, countOfTopic_unnamed valid]
  cases subscription with
  | again _ => exact agrees.congr rfl rfl fun session => session
  | counted named fresh others =>
    intro connected other
    have bound := small named fresh
    show other ∈ g.subscribed ↔ 0 < (s.subscribe n name id qos).countOfTopic (some other)
    rw [agrees connected other]
    by_cases same : other = name
    · rw [incremented] at others
      rw [same, countOfTopic_named named, countOfTopic_named named, incremented]
      by_cases room : CountRoom s.mqttSub name
      · have counted : countOf (Persistent.incrementCount s.mqttSub name) name = countOf s.mqttSub name +
            if name = name then 1 else 0 := ok.countOf_incrementCount named room bound
        rw [if_pos rfl] at counted
        omega
      · rw [ok.incrementCount_full room]
    · rw [elsewhere named bound other same]
  | first named fresh alone granted =>
    intro connected other
    have before : g.isConnected = true := (paho_subscribe_granted granted).connected connected
    have bound := small named fresh
    rw [(paho_subscribe_granted granted).store, paho_subscribe_session granted]
    show other ∈ name :: g.subscribed ↔ 0 < (s.subscribe n name id qos).countOfTopic (some other)
    rw [List.mem_cons, agrees before other]
    by_cases same : other = name
    · rw [same, countOfTopic_named named, countOfTopic_named named, alone]
      simp
    · rw [elsewhere named bound other same]
      simp [same]
  | @refused between _ _ _ refused =>
    intro connected
    have ended : between.isConnected = false := paho_subscribe_ended refused
    rw [show (between.settled _ _).isConnected = between.isConnected from rfl, ended] at connected
    cases connected

end Counting

section Steps

variable {input : Input}

theorem AddsClient.agrees {clientId : CString} {duration : UInt16} {clean : Bool} {result : CoreResult}
    (adds : AddsClient g clientId duration clean address result after) (agrees : g.Agrees g.store) (ok : g.store.Ok) :
    after.Agrees after.store := by
  cases adds with
  | offline _ => exact agrees
  | long _ settles _ => exact agrees.settles settles rfl
  | new _ _ _ => exact agrees.congr rfl rfl fun session => session
  | reset _ _ _ _ => exact agrees.congr rfl rfl fun session => session
  | @cleaned _ _ s _ _ _ _ removal _ =>
    have removed := agrees.removal ok removal
    apply removed.congr _ rfl fun session => session
    show (s.deleteClient _ _ _).mqttSub = s.mqttSub
    exact mqttSub_deleteClient

theorem Agrees.send {message : SnMessage} (agrees : g.Agrees g.store) :
    (g.send address message).Agrees (g.send address message).store := by
  unfold Gateway.send
  split <;> exact agrees

theorem Agrees.answered {between : Gateway} (agrees : between.Agrees between.store) (answered : Answered between address after) :
    after.Agrees after.store := by
  cases answered with
  | silent => exact agrees
  | sent _ => exact agrees.send

theorem Connection.agrees {clientId : CString} {duration : UInt16} {will clean : Bool}
    (connection : Connection g clientId duration will clean address after) (agrees : g.Agrees g.store) (ok : g.store.Ok) :
    after.Agrees after.store := by
  cases connection with
  | rejected adds _ _ => exact (adds.agrees agrees ok).send
  | accepted adds _ => exact (adds.agrees agrees ok).send
  | asked adds _ settles _ => exact ((adds.agrees agrees ok).settles settles mqttSub_updateAt).send

theorem Unsubscription.agrees {topicId : UInt16} (unsubscription : Unsubscription g address topicId topicName after)
    (agrees : g.Agrees g.store) (ok : g.store.Ok)
    (harmless : (g.store.slotOfAddress address ≠ none →
        ¬ g.store.SubscribesTopic (g.store.entryAt address).fileNumber topicName) →
      g.store.unsubscribe (g.store.entryAt address).fileNumber topicId topicName = none →
      g.store.countOfTopic topicName = 0 ∨ ∃ name, topicName = some name ∧ g.RefusesUnsubscribe name) :
    after.Agrees after.store := by
  have uncounts : ∀ s, g.store.unsubscribe (g.store.entryAt address).fileNumber topicId topicName = some s →
      s.mqttSub = (g.store.uncount topicName).mqttSub := by
    intro s deleted
    unfold Store.unsubscribe at deleted
    split at deleted
    · cases deleted
      rfl
    · split at deleted
      · cases deleted
        unfold Store.uncount
        split <;> rfl
      · cases deleted
  cases unsubscription with
  | skipped _ _ => exact agrees.congr rfl rfl fun session => session
  | counted _ deleted others =>
    have same := uncounts _ deleted
    rw [countOfTopic_congr same] at others
    exact (agrees.counted ok.counts others).congr same rfl fun session => session
  | @last s _ deleted alone =>
    have same := uncounts _ deleted
    rw [countOfTopic_congr same] at alone
    have settled : (g.settled s (g.store.entryAt address)).Agrees g.store := agrees.congr rfl rfl fun session => session
    apply (settled.last ok.counts alone).congr _ rfl fun session => session
    rw [paho_unsubscribe_called.store]
    exact same
  | failed fresh failed =>
    rw [paho_unsubscribe_called.store]
    have settled : (g.settled g.store (g.store.entryAt address)).Agrees g.store := agrees
    intro connected name
    obtain ⟨before, members⟩ := paho_unsubscribe_session connected
    rw [members, settled before name]
    show _ ↔ 0 < g.store.countOfTopic (some name)
    rcases harmless fresh failed with zero | ⟨other, rfl, refuses⟩
    · by_cases same : topicName = some name
      · rw [same] at zero
        rw [zero]
        simp
      · simp [same]
    · have refused : (pahoMqttMessageHandler.unsubscribe (g.settled g.store (g.store.entryAt address))
          (some other)).1 = false := paho_unsubscribe_refused.mpr refuses
      rw [paho_unsubscribe_ended refused] at connected
      cases connected

theorem TimesOut.agrees {slot : EntryClient} {elapsed : UInt32} (timesOut : TimesOut g slot elapsed after)
    (agrees : g.Agrees g.store) (sound : g.Sound) (nonzero : slot.clientAddress ≠ .zero) : after.Agrees after.store := by
  cases timesOut with
  | disconnected _ => exact agrees
  | running _ _ settles _ => exact agrees.settles settles mqttSub_updateAt
  | lost _ _ _ settles _ => exact agrees.settles settles mqttSub_updateAt
  | @deleted _ will _ s _ _ _ removal _ =>
    have published : g.Settles g.store
        (pahoMqttMessageHandler.publish g will.willtopic will.payload will.qos will.retain).2 :=
      paho_publish_settles sound.idle
    have lost : (pahoMqttMessageHandler.publish g will.willtopic will.payload will.qos will.retain).2.Agrees
        (g.store.updateAt slot.clientAddress fun entry =>
          { entry with timeout := slot.timeout + elapsed, clientStatus := .lost }) :=
      agrees.congr mqttSub_updateAt published.subscribed published.connected
    apply (lost.removal (sound.ok.updateAt nonzero (keeps_lost _)) removal).congr _ rfl fun session => session
    show (s.deleteClient _ _ _).mqttSub = s.mqttSub
    exact mqttSub_deleteClient

theorem loop_agrees {beat elapsed : UInt32} (sound : g.Sound) (agrees : g.Agrees g.store)
    (returned : loop pahoMqttMessageHandler beat elapsed g = some after) : after.Agrees after.store := by
  refine loop_invariant (I := fun g => g.Agrees g.store) sound agrees ?_ ?_ ?_ returned
  · intro g g' quiet kept
    apply kept.congr _ quiet.subscribed quiet.connected
    rw [quiet.store]
  · intro drained status notice beaten time kind n g g' sound _ registered visits kept
    have nonzero := (sound.ok.slots.fits n).addressed registered
    obtain ⟨ready, touches, timesOut⟩ := visits.touches kind.used.1
    have second : ready.Sound := touches.sound ⟨sound.idle, sound.ok⟩ nonzero
    have before : ready.Agrees ready.store := kept.congr touches.touched.mqttSub touches.settles.subscribed
      touches.settles.connected
    cases beaten with
    | true => exact timesOut.agrees before second nonzero
    | false =>
      cases timesOut
      exact before
  · intro _ g g' _ _ settles _ kept
    exact kept.settles settles mqttSub_updateAt

/-- A step over intact tables that keeps the session and the counts together: a new session begins with nothing counted,
    a new subscription finds a place for itself and for its count, which stays below 100000, and no topic that goes on
    being counted is unsubscribed. -/
structure Agreeing (g : Gateway) (input : Input) : Prop where
  intact : g.store.Intact
  connects : input.event = .mqttConnect → ∀ name, g.store.countOfTopic (some name) = 0
  counts : ∀ address request n name id s, input.request? = some (address, request) →
    (g.prepare input).AddsTopic address request n name id s → IsTopicName name →
    ¬ (g.store.files (g.store.nthClient n).fileNumber).Subscribes name →
    Storable (g.store.files (g.store.nthClient n).fileNumber) name ∧ CountRoom g.store.mqttSub name ∧
      countOf g.store.mqttSub name + 1 < 100000
  takes : ∀ address request topicId topicName, input.request? = some (address, request) →
    (g.prepare input).TakesTopic address request topicId topicName →
    (g.store.slotOfAddress address ≠ none → ¬ g.store.SubscribesTopic (g.store.entryAt address).fileNumber topicName) →
    g.store.unsubscribe (g.store.entryAt address).fileNumber topicId topicName = none →
    g.store.countOfTopic topicName = 0 ∨ ∃ name, topicName = some name ∧ (g.prepare input).RefusesUnsubscribe name

theorem step_agrees (sound : g.Sound) (agreeing : g.Agreeing input) (agrees : g.Agrees g.store)
    (stepped : step g input = some after) : after.Agrees after.store := by
  have prepared : (g.prepare input).Sound := sound_prepare sound
  have begun : (g.prepare input).Agrees (g.prepare input).store := agrees
  cases step_stepped stepped with
  | restart _ => exact fun connected => by cases connected
  | @datagram sender bytes beyond _ event _ handled =>
    have nonzero := sender.getDeviceAddress_ne_zero
    have made := Input.request_of_datagram event
    generalize Request.ofMemory (receiveBuffer bytes beyond) = request at handled made
    cases handle_topics prepared nonzero handled with
    | connect connection => exact connection.agrees begun prepared.ok
    | @adds _ n name id _ s between _ adds subscription answered =>
      have same := adds.sameTopics.1
      have registered := adds.registered prepared.ok
      have kept : (g.prepare input).Agrees s := begun.congr same.mqttSub rfl fun session => session
      have small := agreeing.counts _ _ _ _ _ _ made adds
      have subscribed : between.Agrees between.store := by
        apply subscription.agrees kept registered.ok.counts
        intro named fresh
        rw [same.mqttSub]
        have unsubscribed : ¬ (g.store.files (g.store.nthClient n).fileNumber).Subscribes name := by
          unfold ClientFiles.Subscribes at fresh ⊢
          rw [same.sub] at fresh
          exact fresh
        obtain ⟨_, _, bound⟩ := small named unsubscribed
        exact Nat.lt_trans bound (by decide)
      exact subscribed.answered answered
    | takes takes unsubscription answered =>
      have harmless := agreeing.takes _ _ _ _ made takes
      exact (unsubscription.agrees begun prepared.ok harmless).answered answered
    | keeps settles same _ => exact begun.settles settles same.mqttSub
  | brokerMessage _ _ published =>
    have receives := publishFromBroker_receives prepared.idle published
    exact begun.settles receives.settles receives.mqttSub
  | loop _ looped => exact loop_agrees prepared begun looped
  | mqttConnect event _ =>
    intro _ name
    show name ∈ [] ↔ 0 < g.store.countOfTopic (some name)
    rw [agreeing.connects event name]
    simp
  | mqttConnectionLost _ => exact fun connected => by cases connected
  | socketLost _ => exact begun
  | @socketBegin opened _ _ => cases opened <;> exact begun

/-- In a run of such steps the broker has the gateway subscribed to just the topics that are counted, whenever the MQTT
    client is connected. -/
theorem broker_agrees (run : RunOf Agreeing g) (connected : g.isConnected = true) (name : CString) :
    name ∈ g.subscribed ↔ 0 < g.persistent.getGlobalTopicSubscriptionCount (some name) := by
  have agrees : g.Agrees g.store := by
    clear connected
    induction run with
    | start initial =>
      obtain ⟨config, rfl⟩ := initial
      exact fun connected => by cases connected
    | next before meets taken ih => exact step_agrees (sound_of_run before) meets ih taken
  have counted : g.persistent.getGlobalTopicSubscriptionCount (some name) = 0 ↔ g.store.countOfTopic (some name) = 0 :=
    countOfTopic_eq (sound_of_run run).idle.clean
  rw [agrees connected name, Nat.pos_iff_ne_zero, UInt32.pos_iff_ne_zero]
  exact (not_congr counted).symm

end Steps

end Gateway

namespace Scenario

def restored : Gateway :=
  (run [47] [.mqttConnect, .datagram (client 1) (Datagram.connect (name 65) 10 0) [],
    .datagram (client 1) (Datagram.subscribeByName (name 116) 1 0) [], .mqttConnectionLost,
    .mqttConnect]).get (by decide +kernel)

/-- The topic is counted still, but the new session knows nothing of it. -/
theorem restored_disagrees :
    ∃ g : Gateway, g.Reachable ∧ g.isConnected = true ∧
      ¬ ∀ name, name ∈ g.subscribed ↔ 0 < g.persistent.getGlobalTopicSubscriptionCount (some name) := by
  refine ⟨restored, reachable_run (Option.some_get _).symm, by decide +kernel, ?_⟩
  intro agrees
  have counted : 0 < restored.persistent.getGlobalTopicSubscriptionCount (some (name 116)) := by decide +kernel
  have known := (agrees (name 116)).mpr counted
  revert known
  decide +kernel

def plain (event : Event) : Input := ⟨event, [], []⟩

theorem run_oneSubscriber : Gateway.RunOf Gateway.Agreeing oneSubscriber := by
  let empty := Gateway.start (configuration [47]) .empty
  have first : empty.Agreeing (plain .mqttConnect) := by
    refine ⟨by decide +kernel, fun _ name => countOfTopic_nothing rfl, fun _ _ _ _ _ _ made => (by cases made),
      fun _ _ _ _ made => (by cases made)⟩
  let online := (Gateway.step empty (plain .mqttConnect)).get (by decide +kernel)
  have second : online.Agreeing (plain (.datagram (client 1) (Datagram.connect (name 65) 10 0) [])) := by
    have kind : Request.ofMemory (receiveBuffer (Datagram.connect (name 65) 10 0) []) = .connect (name 65) 10 false false := rfl
    refine ⟨by decide +kernel, fun connects => (by cases connects), fun address request n topic id s made adds => ?_,
      fun address request topicId topicName made takes => ?_⟩
    · cases made
      rw [kind] at adds
      cases adds
    · cases made
      rw [kind] at takes
      cases takes
  let connected := (Gateway.step online (plain (.datagram (client 1) (Datagram.connect (name 65) 10 0) []))).get
    (by decide +kernel)
  have third : connected.Agreeing (plain (.datagram (client 1) (Datagram.subscribeByName (name 116) 1 0) [])) := by
    have kind : Request.ofMemory (receiveBuffer (Datagram.subscribeByName (name 116) 1 0) []) =
        .subscribeByName (name 116) 1 0 := rfl
    refine ⟨by decide +kernel, fun connects => (by cases connects), fun address request n topic id s made adds _ _ => ?_,
      fun address request topicId topicName made takes => ?_⟩
    · cases made
      have nothing : connected.store.mqttSub = [] := by decide +kernel
      have selected : connected.store.slotOfAddress (client 1).getDeviceAddress = some 0 := by decide +kernel
      have same : n = 0 := Option.some.inj (adds.found.symm.trans selected)
      subst same
      have reg : (connected.store.files (connected.store.nthClient 0).fileNumber).reg.length < capacity := by decide +kernel
      have sub : (connected.store.files (connected.store.nthClient 0).fileNumber).sub.length < capacity := by decide +kernel
      refine ⟨⟨.inr reg, .inl sub⟩, ?_, ?_⟩
      · rw [nothing]
        exact .inr (.inl (by decide))
      · rw [nothing]
        show 0 + 1 < 100000
        omega
    · cases made
      rw [kind] at takes
      cases takes
  refine .next (.next (.next (.start ⟨configuration [47], rfl⟩) first (Option.some_get _).symm) second
    (Option.some_get _).symm) third ?_
  exact (Option.some_get _).symm

/-- The topic of a subscriber is in the session. -/
theorem broker_agrees_oneSubscriber :
    (name 116 ∈ oneSubscriber.subscribed ↔ 0 < oneSubscriber.persistent.getGlobalTopicSubscriptionCount (some (name 116))) ∧
      name 116 ∈ oneSubscriber.subscribed :=
  ⟨Gateway.broker_agrees run_oneSubscriber (by decide +kernel) (name 116), by decide +kernel⟩

end Scenario

end MqttSnGateway
