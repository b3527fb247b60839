import MqttSnGateway.Core.Regular

namespace MqttSnGateway

open Persistent Store

namespace Store

variable {s s' s'' : Store}

/-- The subscriptions of all clients and their counts are those of `s`. -/
structure SameTopics (s s' : Store) : Prop where
  sub : ∀ number, (s'.files number).sub = (s.files number).sub
  mqttSub : s'.mqttSub = s.mqttSub

theorem SameTopics.refl : SameTopics s s := ⟨fun _ => rfl, rfl⟩

theorem SameTopics.trans (first : SameTopics s s') (second : SameTopics s' s'') : SameTopics s s'' :=
  ⟨fun number => (second.sub number).trans (first.sub number), second.mqttSub.trans first.mqttSub⟩

theorem Touched.sameTopics {address : DeviceAddress} (touched : Touched address s s') : SameTopics s s' :=
  ⟨fun number => (touched.tables number).2, touched.mqttSub⟩

theorem sameTopics_register {n : Nat} {name : CString} :
    SameTopics s (s.setFiles n fun files => (registerName files name).2) := by
  refine ⟨fun number => ?_, rfl⟩
  unfold setFiles
  rw [files_modifyFiles]
  split
  · rename_i own
    rw [own, ClientFiles.sub_registerName]
  · rfl

theorem sameTopics_topicOf {topicsPre : TopicsPre} {n : Nat} {topicId id : UInt16} {shortTopic : Bool} {name : CString}
    (known : s.topicOf topicsPre n topicId shortTopic = some (name, id, s')) :
    SameTopics s s' ∧ s'.clients = s.clients := by
  cases topicOf_found known with
  | registered _ _ => exact ⟨.refl, rfl⟩
  | predefined _ => exact ⟨sameTopics_register, rfl⟩

theorem sameTopics_topicOfName {n : Nat} {id : UInt16} {topicName name : CString}
    (known : s.topicOfName n topicName = some (name, id, s')) : SameTopics s s' ∧ s'.clients = s.clients := by
  obtain ⟨_, _, rfl, _⟩ := topicOfName_found known
  exact ⟨sameTopics_register, rfl⟩

end Store

namespace Gateway

variable {g between after : Gateway} {address : DeviceAddress} {request : Request} {n : Nat} {name : CString}
  {id : UInt16} {s : Store}

/-- The SUBSCRIBE is one of the client in slot `n` to a topic, which `s` has registered under the id. -/
inductive AddsTopic (g : Gateway) (address : DeviceAddress) : Request → Nat → CString → UInt16 → Store → Prop
  | byId {topicId msgId id : UInt16} {shortTopic : Bool} {qos : UInt8} {n : Nat} {name : CString} {s : Store}
    (online : g.persistent.isMqttOnline = true) (found : g.store.slotOfAddress address = some n)
    (known : g.store.topicOf g.persistent.topicsPre n topicId shortTopic = some (name, id, s)) :
    AddsTopic g address (.subscribe topicId msgId shortTopic qos) n name id s
  | byName {topicName name : CString} {msgId id : UInt16} {qos : UInt8} {n : Nat} {s : Store}
    (online : g.persistent.isMqttOnline = true) (found : g.store.slotOfAddress address = some n)
    (known : g.store.topicOfName n topicName = some (name, id, s)) :
    AddsTopic g address (.subscribeByName topicName msgId qos) n name id s

/-- The UNSUBSCRIBE is one from a topic, if it has a name, that is looked for under the id. -/
inductive TakesTopic (g : Gateway) (address : DeviceAddress) : Request → UInt16 → Option CString → Prop
  | byId {topicId msgId : UInt16} {shortTopic : Bool} : TakesTopic g address (.unsubscribe topicId msgId shortTopic) topicId
    (g.store.topicToUnsubscribe g.persistent.topicsPre address topicId shortTopic)
  | byName {topicName : CString} {msgId : UInt16} :
    TakesTopic g address (.unsubscribeByName topicName msgId) 0 (some topicName)

/-- How a request deals with the topics of the clients. -/
inductive TreatsTopics (g : Gateway) (address : DeviceAddress) : Request → Gateway → Prop
  | connect {clientId : CString} {duration : UInt16} {will clean : Bool} {after : Gateway}
    (connection : Connection g clientId duration will clean address after) :
    TreatsTopics g address (.connect clientId duration will clean) after
  | adds {request : Request} {n : Nat} {name : CString} {id : UInt16} {qos : UInt8} {s : Store} {between after : Gateway}
    (adds : g.AddsTopic address request n name id s) (subscription : Subscription g n name id qos s between)
    (answered : Answered between address after) : TreatsTopics g address request after
  | takes {request : Request} {topicId : UInt16} {topicName : Option CString} {between after : Gateway}
    (takes : g.TakesTopic address request topicId topicName)
    (unsubscription : Unsubscription g address topicId topicName between) (answered : Answered between address after) :
    TreatsTopics g address request after
  | keeps {request : Request} {s : Store} {after : Gateway} (settles : g.Settles s after) (same : g.store.SameTopics s)
    (acts : g.store.Regular → ActsAt g.store address s) : TreatsTopics g address request after

theorem AddsTopic.online (adds : g.AddsTopic address request n name id s) : g.persistent.isMqttOnline = true := by
  cases adds with
  | byId online _ _ => exact online
  | byName online _ _ => exact online

theorem AddsTopic.found (adds : g.AddsTopic address request n name id s) : g.store.slotOfAddress address = some n := by
  cases adds with
  | byId _ found _ => exact found
  | byName _ found _ => exact found

theorem AddsTopic.registered (adds : g.AddsTopic address request n name id s) (ok : g.store.Ok) : Registered g n name id s := by
  cases adds with
  | byId _ _ known => exact registered_topicOf ok known
  | byName _ _ known => exact registered_topicOfName ok known

theorem AddsTopic.sameTopics (adds : g.AddsTopic address request n name id s) :
    g.store.SameTopics s ∧ s.clients = g.store.clients := by
  cases adds with
  | byId _ _ known => exact sameTopics_topicOf known
  | byName _ _ known => exact sameTopics_topicOfName known

theorem topics_rejected (sound : g.Sound) (nonzero : address ≠ .zero) (settles : g.Settles g.store after) :
    TreatsTopics g address request after :=
  .keeps settles .refl fun regular => Touched.refl.actsAt sound.ok regular nonzero

theorem Registers.topics {topicName : CString} (registers : Registers g address topicName between)
    (answered : Answered between address after) (sound : g.Sound) (nonzero : address ≠ .zero) :
    TreatsTopics g address request after := by
  cases registers with
  | rejected settles _ => exact topics_rejected sound nonzero (answered.settles settles)
  | registered _ found settles _ =>
    apply TreatsTopics.keeps (answered.settles settles) sameTopics_register
    intro _
    apply FilesOnly.actsAt _ sound.ok.slots nonzero
    rw [entryAt_found found]
    exact TablesOnly.registers.toFilesOnly

theorem handle_topics (sound : g.Sound) (nonzero : address ≠ .zero)
    (handled : handle pahoMqttMessageHandler g address request = some after) : g.TreatsTopics address request after := by
  have handles := handle_handles sound nonzero handled
  cases request with
  | connect clientId duration will clean => exact .connect handles
  | register msgId topicName =>
    obtain ⟨between, registers, answered⟩ := handles
    exact registers.topics answered sound nonzero
  | subscribe topicId msgId shortTopic qos =>
    obtain ⟨between, subscribes, answered⟩ := handles
    cases subscribes with
    | rejected settles _ => exact topics_rejected sound nonzero (answered.settles settles)
    | subscribed online found known subscription => exact .adds (.byId online found known) subscription answered
  | subscribeByName topicName msgId qos =>
    obtain ⟨between, registers | subscribes, answered⟩ := handles
    · exact registers.topics answered sound nonzero
    · cases subscribes with
      | rejected settles _ => exact topics_rejected sound nonzero (answered.settles settles)
      | subscribed online found known subscription => exact .adds (.byName online found known) subscription answered
  | unsubscribe topicId msgId shortTopic =>
    obtain ⟨between, unsubscription, answered⟩ := handles
    exact .takes .byId unsubscription answered
  | unsubscribeByName topicName msgId =>
    obtain ⟨between, unsubscription, answered⟩ := handles
    exact .takes .byName unsubscription answered
  | _ =>
    obtain ⟨s, touched, settles⟩ := handles
    exact .keeps settles touched.sameTopics fun regular => touched.actsAt sound.ok regular nonzero

end Gateway

end MqttSnGateway
