import MqttSnGateway.Core.Queued
import MqttSnGateway.Core.TableSteps
import MqttSnGateway.Datagrams

namespace MqttSnGateway

open Persistent Store RecordFile

section Grants

variable {files : ClientFiles} {name : CString} {topicId : UInt16} {qos : UInt8}

/-- A subscription to the name is stored with this id and QoS. -/
def Grants (files : ClientFiles) (name : CString) (topicId : UInt16) (qos : UInt8) : Prop :=
  IsTopicName name ∧ ∃ record ∈ files.sub, record.topicName = name ∧ record.topicId = topicId ∧ record.qos = qos

/-- Every subscription to the name has this id and QoS. -/
def GrantsOnly (files : ClientFiles) (name : CString) (topicId : UInt16) (qos : UInt8) : Prop :=
  ∀ record ∈ files.sub, record.topicName = name → record.topicId = topicId ∧ record.qos = qos

theorem ClientFiles.Ok.same_subscription (ok : files.Ok) (named : IsTopicName name) {record other : EntrySubscription}
    (first : record ∈ files.sub) (second : other ∈ files.sub) (holds : record.topicName = name)
    (holds' : other.topicName = name) : record = other := by
  obtain ⟨i, found⟩ := List.mem_iff_getElem?.mp first
  obtain ⟨j, found'⟩ := List.mem_iff_getElem?.mp second
  have here := ok.subSingle name named i j record other found found' (by simp [holds]) (by simp [holds'])
  rw [here, found'] at found
  exact (Option.some.inj found).symm

theorem Grants.only (grants : Grants files name topicId qos) (ok : files.Ok) : GrantsOnly files name topicId qos := by
  obtain ⟨named, record, member, holds, id, level⟩ := grants
  intro other second holds'
  have same := ok.same_subscription named member second holds holds'
  rw [← same]
  exact ⟨id, level⟩

/-- As long as the client stays subscribed, the subscription is not written again. -/
theorem Evolves.grantsOnly {after : ClientFiles} (evolves : Evolves files after) (named : IsTopicName name)
    (subscribed : files.Subscribes name) (only : GrantsOnly files name topicId qos) :
    GrantsOnly after name topicId qos := by
  intro record member holds
  rcases evolves.sub with lost | ⟨added, _, fresh, stored⟩
  · rcases lost record member with zero | kept
    · rw [zero] at holds
      rw [← holds] at named
      exact absurd named ClientFiles.not_topicName_empty
    · exact only record kept holds
  · rcases stored record member with new | kept
    · rw [new] at holds
      rw [holds] at fresh
      exact absurd subscribed fresh
    · exact only record kept holds

theorem ClientFiles.Ok.find?_grants (ok : files.Ok) (named : IsTopicName name) :
    Grants files name topicId qos ↔
      ∃ record, files.sub.find? (isSubscriptionTo name) = some record ∧ record.topicId = topicId ∧ record.qos = qos := by
  constructor
  · intro ⟨_, record, member, holds, id, level⟩
    cases scan : files.sub.find? (isSubscriptionTo name) with
    | none =>
      have fails := List.find?_eq_none.mp scan record member
      exact absurd ((ClientFiles.isSubscriptionTo_iff named).mpr holds) fails
    | some other =>
      have holds' := (ClientFiles.isSubscriptionTo_iff named).mp (List.find?_some scan)
      have same := ok.same_subscription named member (List.mem_of_find?_eq_some scan) holds holds'
      rw [same] at id level
      exact ⟨other, rfl, id, level⟩
  · intro ⟨record, scan, id, level⟩
    have holds := (ClientFiles.isSubscriptionTo_iff named).mp (List.find?_some scan)
    exact ⟨named, record, List.mem_of_find?_eq_some scan, holds, id, level⟩

end Grants

namespace Gateway

variable {g after : Gateway} {address : DeviceAddress} {n : Nat} {name : CString} {topicId newTopicId id : UInt16}
  {shortTopic : Bool} {qos : UInt8} {s : Store} {number : CString}

/-- What a transaction of the client reads about its subscription to a topic. -/
structure LooksUp (g : Gateway) (address : DeviceAddress) (name : CString) (topicId : UInt16) (qos : UInt8) : Prop where
  subscribed : (g.startClientTransaction address).persistent.isSubscribed (some name) = true
  qos : (g.startClientTransaction address).persistent.getSubscriptionQos (some name) = qos
  topicId : (g.startClientTransaction address).persistent.getSubscriptionTopicId (some name) = topicId

theorem getSubscriptionQos_inside {p : Persistent} {s : Store} {entry : EntryClient} {record : EntrySubscription}
    (named : IsTopicName name) (scan : (s.files entry.fileNumber).sub.find? (isSubscriptionTo name) = some record) :
    (p.inside s entry false false).getSubscriptionQos (some name) = record.qos := by
  unfold getSubscriptionQos
  rw [if_pos (by rfl), validName_named named, files_inside]
  simp only [scan]

theorem getSubscriptionTopicId_inside {p : Persistent} {s : Store} {entry : EntryClient} {record : EntrySubscription}
    (named : IsTopicName name) (scan : (s.files entry.fileNumber).sub.find? (isSubscriptionTo name) = some record) :
    (p.inside s entry false false).getSubscriptionTopicId (some name) = record.topicId := by
  unfold getSubscriptionTopicId
  rw [if_pos (by rfl), validName_named named, files_inside]
  simp only [scan]

theorem looksUp_iff (sound : g.Sound) (found : g.store.slotOfAddress address = some n) :
    LooksUp g address name topicId qos ↔ Grants (g.store.files (g.store.nthClient n).fileNumber) name topicId qos := by
  have started := startClientTransaction_found sound.idle found
  have ok := sound.ok.files (g.store.nthClient n).fileNumber
  by_cases named : IsTopicName name
  · rw [ok.find?_grants named]
    constructor
    · intro ⟨subscribed, level', id'⟩
      rw [started, persistent_inside] at subscribed level' id'
      obtain ⟨record, member, holds⟩ := (isSubscribed_inside named).mp subscribed
      cases scan : (g.store.files (g.store.nthClient n).fileNumber).sub.find? (isSubscriptionTo name) with
      | none =>
        have fails := List.find?_eq_none.mp scan record member
        exact absurd ((ClientFiles.isSubscriptionTo_iff named).mpr holds) fails
      | some other =>
        rw [getSubscriptionQos_inside named scan] at level'
        rw [getSubscriptionTopicId_inside named scan] at id'
        exact ⟨other, rfl, id', level'⟩
    · intro ⟨record, scan, id', level'⟩
      have holds := (ClientFiles.isSubscriptionTo_iff named).mp (List.find?_some scan)
      refine ⟨?_, ?_, ?_⟩
      · rw [started, persistent_inside]
        exact (isSubscribed_inside named).mpr ⟨record, List.mem_of_find?_eq_some scan, holds⟩
      · rw [started, persistent_inside, getSubscriptionQos_inside named scan]
        exact level'
      · rw [started, persistent_inside, getSubscriptionTopicId_inside named scan]
        exact id'
  · constructor
    · intro looks
      have subscribed := looks.subscribed
      rw [isSubscribed_unnamed named] at subscribed
      cases subscribed
    · intro grants
      exact absurd grants.1 named

/-- The stored QoS of a client that is subscribed already is the granted one; one that is not can be. -/
def GrantFits (files : ClientFiles) (name : CString) (qos : UInt8) : Prop :=
  IsTopicName name ∧ (∀ record ∈ files.sub, record.topicName = name → record.qos = grantedQos qos) ∧
    (¬ files.Subscribes name → Storable files name)

theorem grants_subscribe_iff (id : UInt16) (qos : UInt8) (ok : s.Ok) (named : IsTopicName name)
    (fresh : ¬ (s.files (s.nthClient n).fileNumber).Subscribes name) :
    Grants ((s.subscribe n name id qos).files (s.nthClient n).fileNumber) name id qos ↔
      id ≠ 0 ∧ Room EntrySubscription.isEmpty (s.files (s.nthClient n).fileNumber).sub := by
  constructor
  · intro ⟨_, record, member, holds, _⟩
    exact (subscribes_subscribe_iff id qos ok named fresh).mp ⟨record, member, holds⟩
  · intro ⟨used, room⟩
    refine ⟨named, ⟨id, qos, name⟩, ?_, rfl, rfl, rfl⟩
    unfold Store.subscribe
    simp only [used, if_false]
    unfold setFiles
    rw [files_modifyFiles_self]
    rcases (ok.files (s.nthClient n).fileNumber).appendSubscription_cases ⟨id, qos, name⟩ with
      ⟨position, _, _, _, written⟩ | ⟨full, _⟩
    · rw [written]
      exact List.mem_iff_getElem?.mpr ⟨position, getElem?_put_self⟩
    · exact absurd room full

theorem clients_topicOf (known : g.store.topicOf g.persistent.topicsPre n topicId shortTopic = some (name, id, s)) :
    s.clients = g.store.clients := by
  cases Store.topicOf_found known <;> rfl

theorem clients_subscribe : (s.subscribe n name id qos).clients = s.clients := by
  unfold Store.subscribe
  simp only
  split <;> rfl

/-- The record of a client that is subscribed has the id with which its SUBSCRIBE is answered. -/
theorem topicOf_stored (ok : g.store.Ok) (distinct : ∀ number, Distinct (g.store.files number).reg)
    (known : g.store.topicOf g.persistent.topicsPre n topicId shortTopic = some (name, id, s)) (named : IsTopicName name)
    {record : EntrySubscription} (member : record ∈ (g.store.files (g.store.nthClient n).fileNumber).sub)
    (holds : record.topicName = name) : record.topicId = id := by
  obtain ⟨after, _, own⟩ := ok.topicOf known
  have filesOk := after.files (g.store.nthClient n).fileNumber
  have keeps := (topicOf_keeps known).2 (g.store.nthClient n).fileNumber
  rw [← keeps] at member
  obtain ⟨place, here⟩ := List.mem_iff_getElem?.mp member
  have used := filesOk.used member (holds.symm ▸ named)
  have registered := (filesOk.filled here used).2
  rw [holds] at registered
  have evolved := (evolve_topicOf known (g.store.nthClient n).fileNumber).distinct (ok.files _) (distinct _)
  obtain ⟨i, first, found, topicId₁, named₁, _⟩ := filesOk.registeredName_some registered
  have given : id ≠ 0 := by
    rw [topicOf_given_iff ok known]
    have before := ok.files (g.store.nthClient n).fileNumber
    rw [keeps] at here
    obtain ⟨k, entry, there, _, name_there, _⟩ := before.registeredName_some (before.filled here used).2
    exact .inl ⟨entry, List.mem_of_getElem? there, name_there.trans holds⟩
  obtain ⟨j, second, found', topicId₂, named₂, _⟩ := filesOk.registeredName_some (own given)
  have same := evolved name named.2 i j first second found found' (by simp [named₁]) (by simp [named₂])
  rw [same, found'] at found
  rw [← topicId₁, ← topicId₂, Option.some.inj found]

theorem addSubscription_grants_iff (sound : g.Sound) (distinct : ∀ number, Distinct (g.store.files number).reg)
    (accepted : (addSubscription pahoMqttMessageHandler g address topicId shortTopic qos newTopicId).1 = .success) :
    ∃ n name id s after, g.store.slotOfAddress address = some n ∧
      g.store.topicOf g.persistent.topicsPre n topicId shortTopic = some (name, id, s) ∧
      addSubscription pahoMqttMessageHandler g address topicId shortTopic qos newTopicId =
        (.success, id, grantedQos qos, after) ∧
      after.store.clients = g.store.clients ∧
      (Grants (after.store.files (g.store.nthClient n).fileNumber) name id (grantedQos qos) ↔
        GrantFits (g.store.files (g.store.nthClient n).fileNumber) name qos) := by
  cases online : g.persistent.isMqttOnline with
  | false =>
    rw [addSubscription_offline online] at accepted
    cases accepted
  | true =>
    cases found : g.store.slotOfAddress address with
    | none =>
      rw [addSubscription_missing sound.idle online found] at accepted
      cases accepted
    | some n =>
      cases known : g.store.topicOf g.persistent.topicsPre n topicId shortTopic with
      | none =>
        rw [addSubscription_unknown sound.idle online found known] at accepted
        cases accepted
      | some topic =>
        obtain ⟨name, id, s⟩ := topic
        have client := nthClient_topicOf known
        have keeps := (topicOf_keeps known).2 (g.store.nthClient n).fileNumber
        have filesOk := sound.ok.files (g.store.nthClient n).fileNumber
        by_cases again : IsTopicName name → (s.files (g.store.nthClient n).fileNumber).Subscribes name
        · refine ⟨n, name, id, s, _, rfl, known, addSubscription_again sound.idle online found known again,
            clients_topicOf known, ?_⟩
          show Grants (s.files (g.store.nthClient n).fileNumber) name id (grantedQos qos) ↔ _
          unfold Grants
          rw [keeps]
          constructor
          · intro grants
            have only : GrantsOnly (g.store.files (g.store.nthClient n).fileNumber) name id (grantedQos qos) :=
              Grants.only grants filesOk
            refine ⟨grants.1, fun record member holds => (only record member holds).2, ?_⟩
            intro fresh
            obtain ⟨record, member, holds⟩ := again grants.1
            rw [keeps] at member
            exact absurd ⟨record, member, holds⟩ fresh
          · intro ⟨named, level, _⟩
            obtain ⟨record, member, holds⟩ := again named
            rw [keeps] at member
            exact ⟨named, record, member, holds, topicOf_stored sound.ok distinct known named member holds,
              level record member holds⟩
        · obtain ⟨named, fresh⟩ : IsTopicName name ∧ ¬ (s.files (g.store.nthClient n).fileNumber).Subscribes name := by
            simpa using again
          have unsubscribed : ¬ (g.store.files (g.store.nthClient n).fileNumber).Subscribes name := by
            unfold ClientFiles.Subscribes at fresh ⊢
            rw [← keeps]
            exact fresh
          have granted : ¬ (FirstSubscriber g.store name ∧ g.RefusesSubscribe) := by
            intro ⟨alone, refuses⟩
            obtain ⟨_, rejected, _⟩ := addSubscription_refused qos newTopicId sound.ok sound.idle online found known
              named fresh alone refuses
            rw [rejected] at accepted
            cases accepted
          obtain ⟨after, same, store⟩ := addSubscription_accepted qos newTopicId sound.ok sound.idle online found known
            named fresh granted
          have stored := grants_subscribe_iff (n := n) id (grantedQos qos) (sound.ok.topicOf known).1 named
            (by rw [client]; exact fresh)
          rw [client, keeps, topicOf_given_iff sound.ok known] at stored
          refine ⟨n, name, id, s, after, rfl, known, same, ?_, ?_⟩
          · rw [store, clients_subscribe, clients_topicOf known]
          · rw [store, stored]
            constructor
            · intro storable
              refine ⟨named, fun record member holds => absurd ⟨record, member, holds⟩ unsubscribed, fun _ => storable⟩
            · intro fits
              exact fits.2.2 unsubscribed

section Requests

variable {request : Request} {msgId : UInt16} {topicName : CString}

/-- The topic and the QoS that a SUBSCRIBE asks for. -/
def subscribesTo (g : Gateway) (address : DeviceAddress) : Request → Option (CString × UInt8)
  | .subscribe topicId _ shortTopic qos =>
    (g.store.topicToUnsubscribe g.persistent.topicsPre address topicId shortTopic).map fun name => (name, qos)
  | .subscribeByName topicName _ qos => some (topicName, qos)
  | _ => none

theorem answerSubscribe_accepted {outcome : CoreResult × UInt16 × UInt8 × Gateway} {granted : UInt8} {acked : UInt16}
    (silent : outcome.2.2.2.sent = []) (socket : outcome.2.2.2.socketOpen = true)
    (answered : (address, SnMessage.suback granted topicId acked ReturnCode.accepted) ∈
      (answerSubscribe address msgId outcome).sent) :
    outcome.1 = .success ∧ outcome.2.1 = topicId ∧ outcome.2.2.1 = granted := by
  obtain ⟨result, id, level, between⟩ := outcome
  unfold answerSubscribe at answered
  cases result with
  | success =>
    simp only at answered silent socket
    rw [sent_send socket, silent] at answered
    simp only [List.nil_append, List.mem_singleton, Prod.mk.injEq, SnMessage.suback.injEq, true_and] at answered
    exact ⟨rfl, answered.2.1.symm, answered.1.symm⟩
  | clientNonexistence =>
    simp only at answered silent socket
    rw [sent_send socket, silent] at answered
    simp at answered
  | _ =>
    simp only at answered silent socket
    rw [sent_send socket, silent] at answered
    simp only [List.nil_append, List.mem_singleton, Prod.mk.injEq, SnMessage.suback.injEq, true_and] at answered
    exact absurd answered.2.2.2 (by decide)

theorem store_answerSubscribe {outcome : CoreResult × UInt16 × UInt8 × Gateway} :
    (answerSubscribe address msgId outcome).store = outcome.2.2.2.store := by
  obtain ⟨result, id, level, between⟩ := outcome
  cases result <;> exact store_send

theorem topicOfName_name {name : CString} {s' : Store} (ok : s.Ok)
    (known : s.topicOfName n topicName = some (name, id, s')) : name = topicName := by
  obtain ⟨given, rfl, rfl, registered⟩ := topicOfName_found known
  unfold setFiles at registered
  rw [files_modifyFiles_self] at registered
  have filesOk := ok.files (s.nthClient n).fileNumber
  have after := filesOk.registerName topicName
  obtain ⟨i, entry, here, topicId', named, _⟩ := after.registeredName_some registered
  rcases filesOk.registerName_cases topicName with ⟨other, member, named', same⟩ | ⟨_, appended⟩ | ⟨_, full⟩
  · obtain ⟨j, there⟩ := List.mem_iff_getElem?.mp member
    rw [same] at here topicId'
    have one := filesOk.reg_unique here there topicId'
    rw [one, there] at here
    rw [← named, ← Option.some.inj here, named']
  · rw [appended] at here topicId' after
    have there : ({ s.files (s.nthClient n).fileNumber with
        reg := (s.files (s.nthClient n).fileNumber).reg ++
          [⟨UInt16.ofNat ((s.files (s.nthClient n).fileNumber).reg.length + 1), topicName, true⟩] } : ClientFiles).reg[
          (s.files (s.nthClient n).fileNumber).reg.length]? =
        some ⟨UInt16.ofNat ((s.files (s.nthClient n).fileNumber).reg.length + 1), topicName, true⟩ :=
      List.getElem?_concat_length
    have one := after.reg_unique here there topicId'
    rw [one, there] at here
    rw [← named, ← Option.some.inj here]
  · rw [full] at given
    exact absurd rfl given

theorem grantFits_register {files : ClientFiles} (ok : files.Ok) (short : topicName.length < 255)
    (given : (registerName files topicName).1 ≠ 0) :
    GrantFits (registerName files topicName).2 topicName qos ↔ GrantFits files topicName qos := by
  have before : CanRegister files topicName := (ok.registerName_given_iff short).mp given
  have after : CanRegister (registerName files topicName).2 topicName := by
    obtain ⟨i, entry, found, _, named, _⟩ := (ok.registerName topicName).registeredName_some
      (ok.registerName_name short given)
    exact .inl ⟨entry, List.mem_of_getElem? found, named⟩
  unfold GrantFits Storable ClientFiles.Subscribes
  rw [ClientFiles.sub_registerName]
  simp only [before, after]

theorem handle_grants_iff {name : CString} {granted : UInt8} {acked : UInt16} (sound : g.Sound)
    (distinct : ∀ number, Distinct (g.store.files number).reg) (socket : g.socketOpen = true) (silent : g.sent = [])
    (asks : g.subscribesTo address request = some (name, qos))
    (handled : handle pahoMqttMessageHandler g address request = some after)
    (answered : (address, SnMessage.suback granted topicId acked ReturnCode.accepted) ∈ after.sent) :
    ∃ n, g.store.slotOfAddress address = some n ∧ after.store.clients = g.store.clients ∧
      (Grants (after.store.files (g.store.nthClient n).fileNumber) name topicId granted ↔
        GrantFits (g.store.files (g.store.nthClient n).fileNumber) name qos) := by
  cases request with
  | subscribe given msgId shortTopic level =>
    obtain ⟨asked, resolved, same⟩ := Option.map_eq_some_iff.mp asks
    cases same
    cases handled
    have quiet : g.Unanswered (addSubscription pahoMqttMessageHandler g address given shortTopic qos 0).2.2.2 :=
      addSubscription_unanswered sound.idle given 0 shortTopic qos
    obtain ⟨success, id', level'⟩ := answerSubscribe_accepted (quiet.sent.trans silent) (quiet.socketOpen.trans socket)
      answered
    obtain ⟨n, other, id, s, between, found, known, outcome, clients, grants⟩ :=
      addSubscription_grants_iff sound distinct success
    rw [topicToUnsubscribe_eq found, known] at resolved
    cases resolved
    unfold handleSubscribe
    rw [outcome] at id' level'
    cases id'
    cases level'
    refine ⟨n, found, ?_, ?_⟩
    · rw [store_answerSubscribe, outcome]
      exact clients
    · rw [store_answerSubscribe, outcome]
      exact grants
  | subscribeByName topicName msgId level =>
    cases asks
    cases handled
    unfold handleSubscribeByName at answered ⊢
    have refused : ∀ code : UInt8, code ≠ ReturnCode.accepted → ∀ between : Gateway, g.Unanswered between →
        (address, SnMessage.suback granted topicId acked ReturnCode.accepted) ∉
          (between.send address (.suback qos 0 msgId code)).sent := by
      intro code negative between unanswered member
      rw [unanswered.send socket silent] at member
      simp only [List.mem_singleton, Prod.mk.injEq, SnMessage.suback.injEq, true_and] at member
      exact negative member.2.2.2.symm
    cases online : g.persistent.isMqttOnline with
    | false =>
      rw [registerTopic_offline online] at answered
      exact absurd answered (refused _ (by decide) _ ⟨rfl, rfl⟩)
    | true =>
      cases found : g.store.slotOfAddress address with
      | none =>
        rw [registerTopic_missing sound.idle online found] at answered
        exact absurd answered (refused _ (by decide) _ .settled)
      | some n =>
        by_cases long : 255 < name.length
        · rw [registerTopic_long sound.idle online found long] at answered
          exact absurd answered (refused _ (by decide) _ .settled)
        · rw [registerTopic_found sound.idle online found (by omega)] at answered ⊢
          simp only at answered ⊢
          generalize first : g.settled (g.store.setFiles n fun files => (registerName files name).2)
            (g.store.nthClient n) = g' at answered ⊢
          have sound' : g'.Sound := by
            rw [← first]
            exact ⟨idle_settled, sound.ok.register⟩
          have distinct' : ∀ number, Distinct (g'.store.files number).reg := by
            intro number
            rw [← first]
            exact (evolve_register number).distinct (sound.ok.files number) (distinct number)
          have quiet : g.Unanswered g' := by
            rw [← first]
            exact .settled
          have between : g'.Unanswered (addSubscription pahoMqttMessageHandler g' address
              (registerName (g.store.files (g.store.nthClient n).fileNumber) name).1 true qos
              (registerName (g.store.files (g.store.nthClient n).fileNumber) name).1).2.2.2 :=
            addSubscription_unanswered sound'.idle _ _ _ _
          have later := quiet.trans between
          obtain ⟨success, id', level'⟩ := answerSubscribe_accepted (later.sent.trans silent)
            (later.socketOpen.trans socket) answered
          obtain ⟨m, other, id, s, between, found', known, outcome, clients, grants⟩ :=
            addSubscription_grants_iff sound' distinct' success
          rw [outcome] at id' level'
          cases id'
          cases level'
          subst first
          cases found.symm.trans found'
          have same : other = name := topicOfName_name sound.ok known
          subst same
          have short := topicOf_short known
          have given : (registerName (g.store.files (g.store.nthClient n).fileNumber) other).1 ≠ 0 := by
            cases Store.topicOf_found known with
            | registered used _ => exact used
          refine ⟨n, rfl, ?_, ?_⟩
          · rw [store_answerSubscribe, outcome]
            exact clients
          · rw [store_answerSubscribe, outcome]
            refine grants.trans ?_
            rw [← grantFits_register (sound.ok.files _) short given]
            show GrantFits ((g.store.setFiles n fun files => (registerName files other).2).files
              (g.store.nthClient n).fileNumber) other qos ↔ _
            unfold setFiles
            rw [files_modifyFiles_self]
  | _ => cases asks

end Requests

section Runs

variable {later : Gateway} {input : Input} {payload : List UInt8} {retain : Bool}

/-- The step does not subscribe a client to a name that it was not subscribed to. -/
def KeepsSubscription (number name : CString) (g : Gateway) (input : Input) : Prop :=
  ∀ after, step g input = some after → (after.store.files number).Subscribes name → (g.store.files number).Subscribes name

/-- Every message of the broker on the name is queued with this id and QoS, until the next new subscription to it. -/
def QueuesAs (g : Gateway) (number name : CString) (topicId : UInt16) (qos : UInt8) : Prop :=
  ∀ later, Runs.Run step (KeepsSubscription number name) (fun h => h = g) later →
    ∀ input payload retain after, input.event = .brokerMessage name payload retain → step later input = some after →
      ∀ (i : Nat) (entry : EntryPublish), (after.store.files number).pub[i]? = some entry →
        (later.store.files number).pub[i]? = some entry ∨ entry.topicId = topicId ∧ entry.qos = qos

/-- What a SUBACK promises. -/
structure Honoured (g : Gateway) (address : DeviceAddress) (name : CString) (topicId : UInt16) (qos : UInt8) : Prop where
  looksUp : LooksUp g address name topicId qos
  queues : ∀ n, g.store.slotOfAddress address = some n → QueuesAs g (g.store.nthClient n).fileNumber name topicId qos

theorem step_grantsOnly (sound : g.Sound) (named : IsTopicName name) (keeps : KeepsSubscription number name g input)
    (stepped : step g input = some after) (only : GrantsOnly (g.store.files number) name topicId qos) :
    GrantsOnly (after.store.files number) name topicId qos := by
  by_cases left : (after.store.files number).Subscribes name
  · have evolves := step_evolve sound stepped number
    exact evolves.grantsOnly named (keeps after stepped left) only
  · intro record member holds
    exact absurd ⟨record, member, holds⟩ left

theorem run_grantsOnly (sound : g.Sound) (named : IsTopicName name)
    (only : GrantsOnly (g.store.files number) name topicId qos)
    (run : Runs.Run step (KeepsSubscription number name) (fun h => h = g) later) :
    later.Sound ∧ GrantsOnly (later.store.files number) name topicId qos := by
  induction run with
  | start same =>
    subst same
    exact ⟨sound, only⟩
  | next _ keeps stepped ih =>
    obtain ⟨before, kept⟩ := ih
    exact ⟨step_sound before stepped, step_grantsOnly before named keeps stepped kept⟩

theorem Grants.queuesAs (sound : g.Sound) (grants : Grants (g.store.files number) name topicId qos) :
    QueuesAs g number name topicId qos := by
  intro later run input payload retain after event stepped i entry found
  have only : GrantsOnly (g.store.files number) name topicId qos := Grants.only grants (sound.ok.files number)
  obtain ⟨before, kept⟩ := run_grantsOnly sound grants.1 only run
  have queued := publishFromBroker_queued (sound_prepare before) (step_brokerMessage event stepped)
  rcases queued.queued number i entry found with old | ⟨_, record, member, holds, id, level⟩
  · exact .inl old
  · obtain ⟨stored, storedLevel⟩ := kept record member holds
    exact .inr ⟨id.trans stored, level.trans storedLevel⟩

/-- Exactly the SUBACKs are honoured that answer a SUBSCRIBE whose grant fits the tables of the client. -/
theorem suback_honoured_iff {sender : SockaddrIn} {bytes beyond : List UInt8} {granted : UInt8} {m : UInt16}
    (reachable : g.Reachable) (event : input.event = .datagram sender bytes beyond)
    (stepped : step g input = some after)
    (asks : (g.prepare input).subscribesTo sender.getDeviceAddress (Request.ofMemory (receiveBuffer bytes beyond)) =
      some (name, qos))
    (answered : (sender.getDeviceAddress, SnMessage.suback granted topicId m ReturnCode.accepted) ∈ after.sent) :
    Honoured after sender.getDeviceAddress name topicId granted ↔
      ∃ n, g.store.slotOfAddress sender.getDeviceAddress = some n ∧
        GrantFits (g.store.files (g.store.nthClient n).fileNumber) name qos := by
  obtain ⟨socket, handled⟩ := step_datagram event stepped
  obtain ⟨n, found, same, grants⟩ := handle_grants_iff (sound_prepare reachable.sound) reachable.distinct socket rfl asks
    handled answered
  have sound' := step_sound reachable.sound stepped
  have clients : after.store.clients = g.store.clients := same
  have found' : after.store.slotOfAddress sender.getDeviceAddress = some n := by
    rw [← found]
    unfold Store.slotOfAddress
    rw [same]
  have client : after.store.nthClient n = g.store.nthClient n := by
    unfold Store.nthClient
    rw [clients]
  have looks : LooksUp after sender.getDeviceAddress name topicId granted ↔
      Grants (after.store.files (after.store.nthClient n).fileNumber) name topicId granted := looksUp_iff sound' found'
  constructor
  · intro honoured
    refine ⟨n, found, ?_⟩
    apply grants.mp
    have stored := looks.mp honoured.looksUp
    rw [client] at stored
    exact stored
  · intro ⟨k, found₂, fits⟩
    cases found.symm.trans found₂
    have stored := grants.mpr fits
    refine ⟨looks.mpr ?_, ?_⟩
    · rw [client]
      exact stored
    · intro k selected
      cases found'.symm.trans selected
      rw [client]
      exact Grants.queuesAs sound' stored

end Runs

end Gateway

namespace Scenario

def regranted : Gateway :=
  (Gateway.step oneSubscriber ⟨.datagram (client 1) (Datagram.subscribeByName (name 116) 2 0x20) [], [], []⟩).get
    (by decide +kernel)

/-- The broker's messages stay at the QoS of the first SUBSCRIBE. -/
theorem repeated_subscribe_keeps_qos :
    oneSubscriber.Reachable ∧
      Gateway.step oneSubscriber ⟨.datagram (client 1) (Datagram.subscribeByName (name 116) 2 0x20) [], [], []⟩ =
        some regranted ∧
      ((client 1).getDeviceAddress, SnMessage.suback 1 1 2 ReturnCode.accepted) ∈ regranted.sent ∧
      ¬ Gateway.Honoured regranted (client 1).getDeviceAddress (name 116) 1 1 := by
  refine ⟨reachable_oneSubscriber, (Option.some_get _).symm, by decide +kernel, ?_⟩
  intro honoured
  have stored : (regranted.startClientTransaction (client 1).getDeviceAddress).persistent.getSubscriptionQos
      (some (name 116)) = 0 := by decide +kernel
  cases stored.symm.trans honoured.looksUp.qos

/-- A SUBSCRIBE that is repeated with the QoS it was granted is honoured. -/
theorem suback_honoured_oneSubscriber :
    Gateway.Honoured
      ((Gateway.step oneSubscriber ⟨.datagram (client 1) (Datagram.subscribeByName (name 116) 3 0) [], [], []⟩).get (by decide +kernel))
      (client 1).getDeviceAddress (name 116) 1 0 := by
  have stepped : Gateway.step oneSubscriber ⟨.datagram (client 1) (Datagram.subscribeByName (name 116) 3 0) [], [], []⟩ = some _ := (Option.some_get (by decide +kernel)).symm
  have asks : (oneSubscriber.prepare ⟨.datagram (client 1) (Datagram.subscribeByName (name 116) 3 0) [], [], []⟩).subscribesTo (client 1).getDeviceAddress
      (Request.ofMemory (receiveBuffer (Datagram.subscribeByName (name 116) 3 0) [])) = some (name 116, 0) := rfl
  apply (Gateway.suback_honoured_iff (m := 3) reachable_oneSubscriber rfl stepped asks (by decide +kernel)).mpr
  refine ⟨0, by decide +kernel, by decide, by decide +kernel, ?_⟩
  intro fresh
  exact absurd (by decide +kernel) fresh

end Scenario

end MqttSnGateway
