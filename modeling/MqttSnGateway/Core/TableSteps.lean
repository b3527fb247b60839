import MqttSnGateway.Core.SubscribeResults
import MqttSnGateway.Steps

namespace MqttSnGateway

open Persistent Store RecordFile

/-- Registrations go all at once, subscriptions one by one. -/
structure Loses (files after : ClientFiles) : Prop where
  reg : after.reg = files.reg ∨ after.reg = []
  sub : ∀ record ∈ after.sub, record = .zero ∨ record ∈ files.sub

namespace Loses

variable {files after last : ClientFiles}

theorem of_same (reg : after.reg = files.reg) (sub : after.sub = files.sub) : Loses files after :=
  ⟨.inl reg, fun _ member => .inr (sub ▸ member)⟩

theorem trans (first : Loses files after) (second : Loses after last) : Loses files last where
  reg := by
    rcases second.reg with same | gone
    · rcases first.reg with before | gone
      · exact .inl (same.trans before)
      · exact .inr (same.trans gone)
    · exact .inr gone
  sub := by
    intro record member
    rcases second.sub record member with zero | kept
    · exact .inl zero
    · exact first.sub record kept

theorem erase {i : Nat} : Loses files { files with sub := files.sub.set i .zero } := by
  refine ⟨.inl rfl, ?_⟩
  intro record member
  rcases List.mem_or_eq_of_mem_set member with kept | zero
  · exact .inr kept
  · exact .inl zero

theorem deleteFile (sd : SDLinuxFake) (number : CString) (ending : FileEnding) :
    Loses files (sd.deleteFile number files ending) := by
  unfold SDLinuxFake.deleteFile
  simp only
  split
  · split
    · cases ending with
      | registration => exact ⟨.inr rfl, fun _ member => .inr member⟩
      | subscribe => exact ⟨.inl rfl, fun _ member => by cases member⟩
      | will => exact of_same rfl rfl
      | publish => exact of_same rfl rfl
    · exact of_same rfl rfl
  · exact of_same rfl rfl

theorem deleted (sd : SDLinuxFake) (number : CString) : Loses files (files.deleted sd number) :=
  (((deleteFile sd number .registration).trans (deleteFile sd number .subscribe)).trans
    (deleteFile sd number .will)).trans (deleteFile sd number .publish)

end Loses

/-- What one event can do to the registrations and the subscriptions of a file number: it takes some away, or it
    registers a name, or it adds a subscription to a name that had none. -/
structure Evolves (files after : ClientFiles) : Prop where
  reg : after.reg = files.reg ∨ after.reg = [] ∨ ∃ name, after.reg = (registerName files name).2.reg
  sub : (∀ record ∈ after.sub, record = .zero ∨ record ∈ files.sub) ∨
    ∃ added, IsTopicName added.topicName ∧ ¬ files.Subscribes added.topicName ∧
      ∀ record ∈ after.sub, record = added ∨ record ∈ files.sub

namespace Evolves

variable {files after : ClientFiles}

theorem of_loses (loses : Loses files after) : Evolves files after :=
  ⟨loses.reg.elim .inl fun gone => .inr (.inl gone), .inl loses.sub⟩

theorem of_same (reg : after.reg = files.reg) (sub : after.sub = files.sub) : Evolves files after :=
  of_loses (Loses.of_same reg sub)

theorem register (name : CString) : Evolves files (registerName files name).2 :=
  ⟨.inr (.inr ⟨name, rfl⟩), .inl fun _ member => .inr (ClientFiles.sub_registerName ▸ member)⟩

end Evolves

namespace Store

def Evolve (s after : Store) : Prop := ∀ number, Evolves (s.files number) (after.files number)

def Lose (s after : Store) : Prop := ∀ number, Loses (s.files number) (after.files number)

variable {s after last : Store} {n : Nat} {address : DeviceAddress}

theorem Lose.refl : s.Lose s := fun _ => Loses.of_same rfl rfl

theorem Lose.trans (first : s.Lose after) (second : after.Lose last) : s.Lose last :=
  fun number => (first number).trans (second number)

theorem Lose.evolve (lose : s.Lose after) : s.Evolve after := fun number => Evolves.of_loses (lose number)

theorem Touched.lose (touched : Touched address s after) : s.Lose after :=
  fun number => Loses.of_same (touched.tables number).1 (touched.tables number).2

theorem lose_deleteClient {sd : SDLinuxFake} {number clientId : CString} : s.Lose (s.deleteClient sd number clientId) := by
  intro other
  rw [files_deleteClient]
  split
  · rename_i own
    rw [own]
    exact Loses.deleted sd number
  · exact Loses.of_same rfl rfl

theorem lose_modifyFiles {number : CString} {h : ClientFiles → ClientFiles} (loses : Loses (s.files number) (h (s.files number))) :
    s.Lose (s.modifyFiles number h) := by
  intro other
  rw [files_modifyFiles]
  split
  · rename_i own
    rw [own]
    exact loses
  · exact Loses.of_same rfl rfl

theorem lose_unsubscribe {number : CString} {topicId : UInt16} {topicName : Option CString}
    (deleted : s.unsubscribe number topicId topicName = some after) : s.Lose after := by
  unfold Store.unsubscribe at deleted
  split at deleted
  · cases deleted
    intro other
    rw [files_uncount]
    exact Loses.of_same rfl rfl
  · split at deleted
    · cases deleted
      intro other
      rw [files_uncount]
      exact lose_modifyFiles Loses.erase other
    · cases deleted

theorem evolve_register {name : CString} : s.Evolve (s.setFiles n fun files => (registerName files name).2) := by
  intro number
  unfold setFiles
  rw [files_modifyFiles]
  split
  · rename_i own
    rw [own]
    exact Evolves.register name
  · exact Evolves.of_same rfl rfl

end Store

namespace Gateway

variable {g after : Gateway} {address : DeviceAddress} {n : Nat} {s : Store}

theorem Removal.lose {number : CString} {g' : Gateway} {s' : Store} (removal : Removal number g s g' s') : s.Lose s' := by
  induction removal with
  | refl => exact Lose.refl
  | round _ _ _ ih =>
    apply ih.trans
    intro other
    unfold Store.removeSubscription
    rw [files_uncount]
    exact lose_modifyFiles Loses.erase other

theorem Subscription.evolve {name : CString} {id : UInt16} {qos : UInt8}
    (subscription : Subscription g n name id qos s after) (registered : Registered g n name id s)
    (before : g.store.Evolve s) (sub : ∀ number, (s.files number).sub = (g.store.files number).sub) :
    g.store.Evolve after.store := by
  have stored : IsTopicName name → ¬ (s.files (g.store.nthClient n).fileNumber).Subscribes name →
      g.store.Evolve (s.subscribe n name id qos) := by
    intro named fresh number
    unfold Store.subscribe
    by_cases zero : id = 0
    · simp only [zero, if_true]
      exact before number
    · simp only [zero, if_false]
      unfold setFiles
      rw [files_modifyFiles]
      split
      · rename_i own
        have filesOk := registered.ok.files (s.nthClient n).fileNumber
        have client := congrArg EntryClient.fileNumber registered.client
        rw [← client] at fresh
        rw [own]
        have same := sub (s.nthClient n).fileNumber
        refine ⟨(before (s.nthClient n).fileNumber).reg, .inr ⟨⟨id, qos, name⟩, named, ?_, ?_⟩⟩
        · unfold ClientFiles.Subscribes at fresh ⊢
          rw [← same]
          exact fresh
        · intro record member
          rw [← same]
          rcases filesOk.appendSubscription_cases ⟨id, qos, name⟩ with ⟨position, adjacent, _, _, written⟩ | ⟨_, unwritten⟩
          · rw [written] at member
            exact mem_put adjacent member
          · rw [unwritten] at member
            exact .inr member
      · exact before number
  cases subscription with
  | again _ => exact before
  | counted named fresh _ => exact stored named fresh
  | first named fresh _ granted =>
    rw [(paho_subscribe_granted granted).store]
    exact stored named fresh
  | refused named fresh _ _ =>
    intro number
    rw [store_settled, files_uncount]
    exact stored named fresh number

theorem AddsClient.lose {clientId : CString} {duration : UInt16} {clean : Bool} {result : CoreResult}
    (adds : AddsClient g clientId duration clean address result after) : g.store.Lose after.store := by
  cases adds with
  | offline _ => exact Lose.refl
  | long _ settles _ =>
    rw [settles.store]
    exact Lose.refl
  | new _ _ _ => exact Lose.refl
  | reset _ _ _ _ => exact Lose.refl
  | cleaned _ _ _ _ removal _ => exact removal.lose.trans lose_deleteClient

theorem Connection.lose {clientId : CString} {duration : UInt16} {will clean : Bool}
    (connection : Connection g clientId duration will clean address after) : g.store.Lose after.store := by
  cases connection with
  | rejected adds _ _ =>
    rw [store_send]
    exact adds.lose
  | accepted adds _ =>
    rw [store_send]
    exact adds.lose
  | asked adds _ settles _ =>
    rw [store_send, settles.store]
    apply adds.lose.trans
    intro number
    rw [files_updateAt]
    exact Loses.of_same rfl rfl

theorem Unsubscription.lose {topicId : UInt16} {topicName : Option CString}
    (unsubscription : Unsubscription g address topicId topicName after) : g.store.Lose after.store := by
  cases unsubscription with
  | skipped _ _ => exact Lose.refl
  | counted _ deleted _ => exact lose_unsubscribe deleted
  | last _ deleted _ =>
    rw [paho_unsubscribe_called.store]
    exact lose_unsubscribe deleted
  | failed _ _ =>
    rw [paho_unsubscribe_called.store]
    exact Lose.refl

theorem Answered.evolve {between : Gateway} (answered : Answered between address after)
    (evolve : s.Evolve between.store) : s.Evolve after.store := by
  cases answered with
  | silent => exact evolve
  | sent _ =>
    rw [store_send]
    exact evolve

theorem Registers.evolve {topicName : CString} (registers : Registers g address topicName after) :
    g.store.Evolve after.store := by
  cases registers with
  | rejected settles _ =>
    rw [settles.store]
    exact Lose.refl.evolve
  | registered _ _ settles _ =>
    rw [settles.store]
    exact evolve_register

theorem evolve_topicOf {topicsPre : TopicsPre} {topicId id : UInt16} {shortTopic : Bool} {name : CString} {s' : Store}
    (known : s.topicOf topicsPre n topicId shortTopic = some (name, id, s')) : s.Evolve s' := by
  cases topicOf_found known with
  | registered _ _ => exact Lose.refl.evolve
  | predefined _ => exact evolve_register

theorem evolve_topicOfName {id : UInt16} {topicName name : CString} {s' : Store}
    (known : s.topicOfName n topicName = some (name, id, s')) :
    s.Evolve s' ∧ ∀ number, (s'.files number).sub = (s.files number).sub := by
  obtain ⟨_, _, rfl, _⟩ := topicOfName_found known
  refine ⟨evolve_register, fun number => ?_⟩
  unfold setFiles
  rw [files_modifyFiles]
  split
  · rename_i own
    rw [own, ClientFiles.sub_registerName]
  · rfl

theorem Handles.evolve {request : Request} (handles : g.Handles address request after) (sound : g.Sound) :
    g.store.Evolve after.store := by
  cases request with
  | connect clientId duration will clean => exact (Connection.lose handles).evolve
  | register msgId topicName =>
    obtain ⟨between, registers, answered⟩ := handles
    exact answered.evolve registers.evolve
  | subscribe topicId msgId shortTopic qos =>
    obtain ⟨between, subscribes, answered⟩ := handles
    apply answered.evolve
    cases subscribes with
    | rejected settles _ =>
      rw [settles.store]
      exact Lose.refl.evolve
    | subscribed _ _ known subscription =>
      exact subscription.evolve (registered_topicOf sound.ok known) (evolve_topicOf known) (topicOf_keeps known).2
  | subscribeByName topicName msgId qos =>
    obtain ⟨between, registers | subscribes, answered⟩ := handles
    · exact answered.evolve registers.evolve
    · apply answered.evolve
      cases subscribes with
      | rejected settles _ =>
        rw [settles.store]
        exact Lose.refl.evolve
      | subscribed _ _ known subscription =>
        exact subscription.evolve (registered_topicOfName sound.ok known) (evolve_topicOfName known).1
          (evolve_topicOfName known).2
  | unsubscribe topicId msgId shortTopic =>
    obtain ⟨between, unsubscription, answered⟩ := handles
    exact answered.evolve unsubscription.lose.evolve
  | unsubscribeByName topicName msgId =>
    obtain ⟨between, unsubscription, answered⟩ := handles
    exact answered.evolve unsubscription.lose.evolve
  | _ =>
    obtain ⟨s, touched, settles⟩ := handles
    rw [settles.store]
    exact touched.lose.evolve

theorem TimesOut.lose {slot : EntryClient} {elapsed : UInt32} (timesOut : TimesOut g slot elapsed after) :
    g.store.Lose after.store := by
  cases timesOut with
  | disconnected _ => exact Lose.refl
  | running _ _ settles _ =>
    rw [settles.store]
    intro number
    rw [files_updateAt]
    exact Loses.of_same rfl rfl
  | lost _ _ _ settles _ =>
    rw [settles.store]
    intro number
    rw [files_updateAt]
    exact Loses.of_same rfl rfl
  | deleted _ _ _ removal _ =>
    intro number
    have removed := removal.lose number
    rw [files_updateAt] at removed
    exact removed.trans (lose_deleteClient number)

theorem step_evolve {input : Input} (sound : g.Sound) (stepped : step g input = some after) : g.store.Evolve after.store := by
  cases step_stepped stepped with
  | restart _ => exact Lose.refl.evolve
  | @datagram sender _ _ _ _ _ handled =>
    have prepared : (g.prepare input).Sound := sound_prepare sound
    exact (handle_handles prepared sender.getDeviceAddress_ne_zero handled).evolve prepared
  | brokerMessage _ _ published =>
    have receives := publishFromBroker_receives (sound_prepare sound).idle published
    intro number
    exact Evolves.of_same (receives.tables number).1 (receives.tables number).2
  | loop _ looped =>
    apply Lose.evolve
    refine loop_invariant (I := fun g' => g.store.Lose g'.store) (sound_prepare sound) Lose.refl
      (fun _ _ quiet kept => quiet.store ▸ kept) ?_ ?_ looped
    · intro drained status notice beaten time kind n g' g'' sound' _ registered visits kept
      obtain ⟨ready, touches, timesOut⟩ := visits.touches kind.used.1
      apply kept.trans
      have first : g'.store.Lose ready.store := touches.touched.lose
      cases beaten with
      | true => exact first.trans timesOut.lose
      | false =>
        cases timesOut
        exact first
    · intro n g' g'' _ _ settles _ kept
      apply kept.trans
      rw [settles.store]
      intro number
      rw [files_updateAt]
      exact Loses.of_same rfl rfl
  | mqttConnect _ _ => exact Lose.refl.evolve
  | mqttConnectionLost _ => exact Lose.refl.evolve
  | socketLost _ => exact Lose.refl.evolve
  | @socketBegin opened _ _ => cases opened <;> exact Lose.refl.evolve

end Gateway

section Distinct

variable {files after : ClientFiles}

/-- No name is registered twice. Names of 255 bytes are registered, but never found again. -/
def Distinct (reg : List EntryRegistration) : Prop :=
  ∀ name : CString, name.length < 255 → Single (fun entry : EntryRegistration => decide (entry.topicName = name)) reg

theorem distinct_nil : Distinct [] := by
  intro name _ i j a b found
  cases found

theorem ClientFiles.Ok.distinct_register (ok : files.Ok) (distinct : Distinct files.reg) (name : CString) :
    Distinct (Persistent.registerName files name).2.reg := by
  rcases ok.registerName_cases name with ⟨_, _, _, same⟩ | ⟨_, appended⟩ | ⟨_, same⟩
  · rw [same]
    exact distinct
  · intro other short i j a b first second holds_first holds_second
    -- A name with a record would have been found by the scan.
    have absent : name.length < 255 → ∀ entry ∈ files.reg, entry.topicName ≠ name := by
      intro fits entry member named
      obtain ⟨found, _, known⟩ := ok.registerName_known member named fits
      rw [known] at appended
      have length := congrArg (fun outcome : UInt16 × ClientFiles => outcome.2.reg.length) appended
      simp at length
    simp only [decide_eq_true_eq] at holds_first holds_second
    rw [appended] at first second
    rcases Nat.lt_trichotomy i files.reg.length with before | last | beyond
    · rcases Nat.lt_trichotomy j files.reg.length with before' | last' | beyond'
      · rw [List.getElem?_append_left before] at first
        rw [List.getElem?_append_left before'] at second
        exact distinct other short i j a b first second (by simp [holds_first]) (by simp [holds_second])
      · subst last'
        simp only [List.getElem?_concat_length, Option.some.injEq] at second
        rw [List.getElem?_append_left before] at first
        have same : other = name := by rw [← holds_second, ← second]
        exact absurd (holds_first.trans same) (absent (same ▸ short) a (List.mem_of_getElem? first))
      · rw [List.getElem?_eq_none (by simp; omega)] at second
        cases second
    · subst last
      rcases Nat.lt_trichotomy j files.reg.length with before' | last' | beyond'
      · simp only [List.getElem?_concat_length, Option.some.injEq] at first
        rw [List.getElem?_append_left before'] at second
        have same : other = name := by rw [← holds_first, ← first]
        exact absurd (holds_second.trans same) (absent (same ▸ short) b (List.mem_of_getElem? second))
      · exact last'.symm
      · rw [List.getElem?_eq_none (by simp; omega)] at second
        cases second
    · rw [List.getElem?_eq_none (by simp; omega)] at first
      cases first
  · rw [same]
    exact distinct

theorem Evolves.distinct (evolves : Evolves files after) (ok : files.Ok) (distinct : Distinct files.reg) :
    Distinct after.reg := by
  rcases evolves.reg with same | gone | ⟨name, registered⟩
  · rw [same]
    exact distinct
  · rw [gone]
    exact distinct_nil
  · rw [registered]
    exact ok.distinct_register distinct name

/-- No client ever has two topic ids for one name. -/
theorem Gateway.Reachable.distinct {g : Gateway} (reachable : g.Reachable) (number : CString) :
    Distinct (g.store.files number).reg := by
  induction reachable generalizing number with
  | start initial =>
    obtain ⟨config, rfl⟩ := initial
    exact distinct_nil
  | next before _ stepped ih =>
    have sound := Gateway.sound_of_run before
    exact (Gateway.step_evolve sound stepped number).distinct (sound.ok.files number) (ih number)

end Distinct

end MqttSnGateway
