import MqttSnGateway.Lib.Arrivals
import MqttSnGateway.Safety.QueueConservation

namespace MqttSnGateway

open Persistent Store RecordFile

def SnMessage.isPublish : SnMessage → Bool
  | .publish .. => true
  | _ => false

/-- A record of the publish file is in use under this publish id. -/
def ClientFiles.Holds (files : ClientFiles) (publishId : Nat) : Prop :=
  ∃ entry ∈ files.pub, entry.publishId ≠ 0 ∧ entry.publishId.toNat = publishId

namespace ClientFiles

variable {files other : ClientFiles} {publishId : Nat} {number : CString} {sd : SDLinuxFake}

theorem Holds.congr (holds : files.Holds publishId) (same : files.pub = other.pub) : other.Holds publishId := by
  unfold Holds at holds ⊢
  rwa [← same]

theorem Holds.keepsTables {h : ClientFiles → ClientFiles} (holds : (h files).Holds publishId) (keeps : KeepsTables h) :
    files.Holds publishId := by
  obtain ⟨entry, member, used, here⟩ := holds
  obtain ⟨n, found⟩ := List.mem_iff_getElem?.mp member
  obtain ⟨old, before, same⟩ := keeps.ids files n entry found used
  refine ⟨old, List.mem_of_getElem? before, ?_, ?_⟩
  · rw [same]
    exact used
  · rw [same]
    exact here

theorem Holds.deleted (holds : (files.deleted sd number).Holds publishId) : files.Holds publishId := by
  by_cases deletes : sd.Deletes number .publish
  · have gone : queue (files.deleted sd number).pub = [] := nothingIn_deleted.mpr (.inr deletes)
    obtain ⟨entry, member, used, _⟩ := holds
    have left : entry ∈ queue (files.deleted sd number).pub := by
      unfold queue
      apply List.mem_filter.mpr
      refine ⟨member, ?_⟩
      unfold EntryPublish.isEmpty
      simp [used]
    rw [gone] at left
    cases left
  · exact holds.congr (Gateway.pub_deleted deletes)

end ClientFiles

namespace Store

variable {s s' s'' : Store} {address : DeviceAddress} {n : Nat} {clientId number : CString}

/-- No publish is in a file that was not there before. -/
def Shrinks (s s' : Store) : Prop := ∀ number publishId, (s'.files number).Holds publishId → (s.files number).Holds publishId

theorem Shrinks.trans (first : s.Shrinks s') (second : s'.Shrinks s'') : s.Shrinks s'' :=
  fun number publishId holds => first number publishId (second number publishId holds)

theorem shrinks_of_files (same : s'.files = s.files) : s.Shrinks s' := by
  intro number publishId holds
  rwa [same] at holds

theorem shrinks_modifyFiles {h : ClientFiles → ClientFiles}
    (fewer : ∀ publishId, (h (s.files number)).Holds publishId → (s.files number).Holds publishId) :
    s.Shrinks (s.modifyFiles number h) := by
  intro other publishId holds
  rw [files_modifyFiles] at holds
  split at holds
  · rename_i here
    rw [here]
    exact fewer publishId holds
  · exact holds

theorem shrinks_filesAt {h : ClientFiles → ClientFiles} (keeps : KeepsTables h) : s.Shrinks (s.filesAt address h) := by
  unfold filesAt
  split
  · exact shrinks_modifyFiles fun _ holds => holds.keepsTables keeps
  · exact fun _ _ holds => holds

theorem Touched.shrinks (touched : Touched address s s') : s.Shrinks s' := by
  induction touched with
  | refl => exact fun _ _ holds => holds
  | entry _ _ ih => exact ih.trans (shrinks_of_files files_updateAt)
  | files _ keeps ih => exact ih.trans (shrinks_filesAt keeps)

theorem shrinks_deleteClient {sd : SDLinuxFake} : s.Shrinks (s.deleteClient sd number clientId) := by
  intro other publishId holds
  rw [files_deleteClient] at holds
  split at holds
  · rename_i here
    rw [here]
    exact holds.deleted
  · exact holds

end Store

namespace Gateway

variable {g after : Gateway} {address : DeviceAddress} {clientId number : CString} {n : Nat}

section Shrinking

theorem Removal.shrinks {s s' : Store} {g' : Gateway} (removal : Removal number g s g' s') : s.Shrinks s' := by
  intro other publishId holds
  exact holds.congr (removal.pub other)

theorem AddsClient.shrinks {duration : UInt16} {clean : Bool} {result : CoreResult}
    (adds : AddsClient g clientId duration clean address result after) : g.store.Shrinks after.store := by
  cases adds with
  | offline _ => exact fun _ _ holds => holds
  | long _ settles _ =>
    rw [settles.store]
    exact fun _ _ holds => holds
  | new _ _ _ => exact shrinks_of_files rfl
  | reset _ _ _ _ => exact shrinks_of_files rfl
  | cleaned _ _ _ _ removal _ => exact (removal.shrinks.trans shrinks_deleteClient).trans (shrinks_of_files rfl)

theorem Connection.shrinks {duration : UInt16} {will clean : Bool}
    (connection : Connection g clientId duration will clean address after) : g.store.Shrinks after.store := by
  cases connection with
  | rejected adds _ _ =>
    rw [store_send]
    exact adds.shrinks
  | accepted adds _ =>
    rw [store_send]
    exact adds.shrinks
  | asked adds _ settles _ =>
    rw [store_send, settles.store]
    exact adds.shrinks.trans (shrinks_of_files files_updateAt)

theorem TimesOut.shrinks {slot : EntryClient} {elapsed : UInt32} (timesOut : TimesOut g slot elapsed after) :
    g.store.Shrinks after.store := by
  cases timesOut with
  | disconnected _ => exact fun _ _ holds => holds
  | running _ _ settles _ =>
    rw [settles.store]
    exact shrinks_of_files files_updateAt
  | lost _ _ _ settles _ =>
    rw [settles.store]
    exact shrinks_of_files files_updateAt
  | deleted _ _ _ removal _ =>
    have lost : g.store.Shrinks (g.store.updateAt slot.clientAddress fun entry =>
        { entry with timeout := slot.timeout + elapsed, clientStatus := .lost }) := shrinks_of_files files_updateAt
    exact (lost.trans removal.shrinks).trans shrinks_deleteClient

theorem Visits.shrinks {drained : ClientStatus → Bool} {status : ClientStatus} {notice : SnMessage} {beaten : Bool}
    {elapsed : UInt32} {slot : EntryClient} (visits : Visits drained status notice beaten elapsed n slot g after)
    (used : status ≠ .empty) : g.store.Shrinks after.store := by
  obtain ⟨ready, touches, timesOut⟩ := visits.touches used
  have before : g.store.Shrinks ready.store := touches.touched.shrinks
  split at timesOut
  · exact before.trans timesOut.shrinks
  · rw [timesOut]
    exact before

/-- Only a message of the broker adds to a publish file. -/
theorem step_shrinks {input : Input} (sound : g.Sound)
    (other : ∀ name data retain, input.event ≠ .brokerMessage name data retain) (stepped : step g input = some after) :
    g.store.Shrinks after.store := by
  have still : g.store.Shrinks g.store := fun _ _ holds => holds
  cases step_stepped stepped with
  | restart _ => exact still
  | @datagram sender bytes beyond after _ _ handled =>
    have nonzero := sender.getDeviceAddress_ne_zero
    generalize Request.ofMemory (receiveBuffer bytes beyond) = request at handled
    cases handle_requested (sound_prepare sound) nonzero handled with
    | connect connection => exact Connection.shrinks (g := g.prepare input) connection
    | topics _ _ only =>
      intro number publishId holds
      by_cases own : number = ((g.prepare input).store.entryAt sender.getDeviceAddress).fileNumber
      · rw [own] at holds ⊢
        exact holds.congr only.pub
      · rw [only.files number own] at holds
        exact holds
    | acts acts settles =>
      rw [settles.store]
      exact Touched.shrinks acts.touched
  | brokerMessage event _ _ => exact absurd event (other _ _ _)
  | loop _ looped =>
    apply loop_invariant (I := fun g' => g.store.Shrinks g'.store) (sound_prepare sound) still _ _ _ looped
    · intro g' g'' quiet kept
      rw [quiet.store]
      exact kept
    · intro _ _ _ _ _ kind _ _ _ _ _ _ visits kept
      exact kept.trans (visits.shrinks kind.used.1)
    · intro _ _ _ _ _ settles _ kept
      rw [settles.store]
      exact kept.trans (shrinks_of_files files_updateAt)
  | mqttConnect _ _ => exact still
  | mqttConnectionLost _ => exact still
  | socketLost _ => exact still
  | @socketBegin opened _ _ => cases opened <;> exact still

end Shrinking

section Passing

theorem getNextPublish_last {p : Persistent} {s : Store} {entry : EntryClient} {next : EntryPublish} (ok : s.Ok)
    (read : (p.inside s entry false false).getNextPublish = some next) :
    (s.files entry.fileNumber).Holds next.publishId.toNat ∧
      ∀ publishId, (s.files entry.fileNumber).Holds publishId → publishId ≤ next.publishId.toNat := by
  have numbered := (ok.files entry.fileNumber).pubNumbered
  have scan : (s.files entry.fileNumber).pub.reverse.find? (fun record => !record.isEmpty) = some next := read
  obtain ⟨filled, behind, before, split, unused⟩ := List.find?_eq_some_iff_append.mp scan
  have used : next.publishId ≠ 0 := by
    intro zero
    unfold EntryPublish.isEmpty at filled
    simp [zero] at filled
  have whole : (s.files entry.fileNumber).pub = before.reverse ++ next :: behind.reverse := by
    have reversed := congrArg List.reverse split
    rw [List.reverse_reverse, List.reverse_append, List.reverse_cons, List.append_assoc] at reversed
    exact reversed
  have place : next.publishId.toNat = before.length + 1 := by
    apply numbered before.length next _ used
    rw [whole, List.getElem?_append_right (by simp)]
    simp
  constructor
  · refine ⟨next, ?_, used, rfl⟩
    rw [whole]
    simp
  · rintro publishId ⟨other, member, filled, rfl⟩
    rw [whole] at member
    rcases List.mem_append.mp member with ahead | here
    · obtain ⟨k, found⟩ := List.mem_iff_getElem?.mp ahead
      have inside := (List.getElem?_eq_some_iff.mp found).1
      have stored : (s.files entry.fileNumber).pub[k]? = some other := by
        rw [whole, List.getElem?_append_left inside]
        exact found
      have number := numbered k other stored filled
      rw [List.length_reverse] at inside
      omega
    · rcases List.mem_cons.mp here with rfl | later
      · exact Nat.le_refl _
      · have empty := unused other (List.mem_reverse.mp later)
        unfold EntryPublish.isEmpty at empty
        simp [filled] at empty

/-- The publish id of what the visit passes to `send_publish` from the publish file with this number, be the socket open or
    not. -/
def passing (g : Gateway) (number : CString) (visited : Nat) : Option Nat :=
  let slot := g.store.nthClient visited
  let delivered := handleClientPublishes slot.clientStatus slot.clientAddress (g.visiting visited).listening
  if (g.store.entryAt slot.clientAddress).fileNumber = number ∧ delivered.sent.any (fun sent => sent.2.isPublish) then
    (g.startClientTransaction slot.clientAddress).persistent.getNextPublish.map fun next => next.publishId.toNat
  else none

theorem passing_last {visited publishId : Nat} (sound : g.Sound) (passes : g.passing number visited = some publishId) :
    (g.store.files number).Holds publishId ∧ ∀ other, (g.store.files number).Holds other → other ≤ publishId := by
  unfold passing at passes
  simp only at passes
  split at passes
  · rename_i passed
    obtain ⟨here, some_sent⟩ := passed
    have registered : (g.store.nthClient visited).clientStatus ≠ .empty := by
      intro empty
      rw [empty] at some_sent
      cases some_sent
    obtain ⟨n, _, found⟩ := sound.ok.slots.slotOfAddress_here ((sound.ok.slots.fits visited).addressed registered) rfl
    rw [startClientTransaction_found sound.idle found] at passes
    rw [entryAt_found found] at here
    obtain ⟨next, read, same⟩ := Option.map_eq_some_iff.mp passes
    have last := getNextPublish_last (p := g.persistent) sound.ok read
    rw [here, same] at last
    exact last
  · cases passes

end Passing

section Receiving

variable {name : CString} {data : List UInt8} {retain : Bool} {files : ClientFiles}

/-- How often a message of the broker is handed to the publish file with this number. -/
def handed (g : Gateway) (name : CString) (data : List UInt8) (number : CString) : Nat :=
  if IsTopicName name ∧ data.length ≤ g.getMaximumPublishPayloadLength.toNat then
    (List.range g.store.reached).countP fun v => g.store.selects number (g.store.nthClient v).clientAddress
  else 0

theorem publishFromBroker_files (sound : g.Sound) (published : g.publishFromBroker name data retain = some after)
    (number : CString) :
    after.store.files number = receivedTimes name data retain (g.handed name data number) (g.store.files number) := by
  unfold handed
  split
  · rename_i both
    rcases g.store.lastClientAddress_cases .zero with ⟨emptied, preset⟩ | ⟨l, used, _, last⟩
    · have none_selected : ∀ address, g.store.selects number address = false := by
        intro address
        unfold selects
        split
        · rename_i k _
          rw [emptied k]
          rfl
        · rfl
      unfold publishFromBroker at published
      rw [if_neg (by omega)] at published
      simp only [preset, if_true] at published
      cases published
      simp only [none_selected]
      rw [List.countP_false]
      rfl
    · obtain ⟨between, same, spread⟩ := publishFromBroker_spread retain sound both.1 both.2
        (by rw [last]; exact (sound.ok.slots.fits l).addressed used)
      cases published.symm.trans same
      exact spread.files number
  · rename_i unmet
    by_cases named : IsTopicName name
    · have long : g.getMaximumPublishPayloadLength.toNat < data.length := by
        by_contra short
        exact unmet ⟨named, by omega⟩
      unfold publishFromBroker at published
      rw [if_pos long] at published
      cases published
      rfl
    · rw [publishFromBroker_unnamed sound.idle named published]
      rfl

end Receiving

end Gateway

/-- The publishes that wait in a publish file, under their publish ids, with their topics and QoS. -/
abbrev Publishes := Arrivals (CString × UInt8)

section Queueing

variable {name : CString} {data : List UInt8} {retain : Bool} {files : ClientFiles} {publishes : Publishes}

/-- The message of the broker is written to the free space of a publish file whose client has subscribed, if there is any. -/
def enqueue (name : CString) (files : ClientFiles) (publishes : Publishes) : Publishes :=
  match files.sub.find? (isSubscriptionTo name) with
  | some sub =>
    let free := freeSpace EntryPublish.isEmpty files.pub
    if free < 0 then publishes else publishes.put (name, sub.qos) (free.toNat + 1)
  | none => publishes

def enqueueTimes (name : CString) (data : List UInt8) (retain : Bool) : Nat → ClientFiles → Publishes → Publishes
  | 0, _, publishes => publishes
  | times + 1, files, publishes =>
    enqueue name (receivedTimes name data retain times files) (enqueueTimes name data retain times files publishes)

/-- No publish on the topic with the QoS of the subscription that was received earlier and waits to be passed on for the first
    time has a publish id below the one that the free space gives. -/
def ClientFiles.ClearFor (files : ClientFiles) (name : CString) (publishes : Publishes) : Prop :=
  ∀ sub, files.sub.find? (isSubscriptionTo name) = some sub →
    let free := freeSpace EntryPublish.isEmpty files.pub
    0 ≤ free → Arrivals.Clear files.Holds publishes (name, sub.qos) (free.toNat + 1)

theorem lined_enqueue (data : List UInt8) (retain : Bool) (ok : files.Ok) (lined : Arrivals.Lined files.Holds publishes)
    (clear : files.ClearFor name publishes) :
    Arrivals.Lined (files.receive name data retain).Holds (enqueue name files publishes) := by
  unfold ClientFiles.receive enqueue
  cases subscribed : files.sub.find? (isSubscriptionTo name) with
  | none => exact lined
  | some sub =>
    simp only
    by_cases room : Room EntryPublish.isEmpty files.pub
    · obtain ⟨position, free, adjacent, small, _⟩ := freeSpace_room ok.pubShort room
      have clears := clear sub subscribed
      rw [free] at clears ⊢
      rw [if_neg (by omega)]
      simp only [Int.toNat_natCast] at clears ⊢
      apply lined.put _ (clears (by omega))
      rintro other ⟨entry, member, used, rfl⟩
      rw [ClientFiles.pub_appendPublish free small] at member
      rcases mem_put adjacent member with rfl | before
      · exact .inl (EntryPublish.toNat_publishId_placed small)
      · exact .inr ⟨entry, before, used, rfl⟩
    · rw [freeSpace_full ok.pubShort room, if_pos (by decide), ClientFiles.appendPublish_unstored ok.pubShort room]
      exact lined

theorem lined_enqueueTimes (ok : files.Ok) (lined : Arrivals.Lined files.Holds publishes) (times : Nat)
    (clear : ∀ k < times, (receivedTimes name data retain k files).ClearFor name
      (enqueueTimes name data retain k files publishes)) :
    (receivedTimes name data retain times files).Ok ∧
      Arrivals.Lined (receivedTimes name data retain times files).Holds (enqueueTimes name data retain times files publishes) := by
  induction times with
  | zero => exact ⟨ok, lined⟩
  | succ times ih =>
    obtain ⟨kept, before⟩ := ih fun k earlier => clear k (by omega)
    exact ⟨Gateway.Ok.receive kept, lined_enqueue data retain kept before (clear times (Nat.lt_succ_self times))⟩

end Queueing

namespace Stage

variable {stage later : Stage} {moment : Moment} {number : CString} {publishes : Publishes}

def track (number : CString) (stage : Stage) (moment : Moment) (_ : Stage) (publishes : Publishes) : Publishes :=
  match moment with
  | .visit =>
    match stage.round with
    | some round =>
      match stage.gateway.passing number round.slot with
      | some publishId => publishes.pass publishId
      | none => publishes
    | none => publishes
  | .input input =>
    match input.event with
    | .brokerMessage name data retain =>
      enqueueTimes name data retain (stage.gateway.handed name data number) (stage.gateway.store.files number) publishes.next
    | _ => publishes

/-- A message of the broker is queued only where no earlier one of its topic and QoS waits under a lower publish id. -/
def Clears (number : CString) (state : Stage × Publishes) (moment : Moment) : Prop :=
  ∀ input name data retain, moment = .input input → input.event = .brokerMessage name data retain →
    ∀ times < state.1.gateway.handed name data number,
      (receivedTimes name data retain times (state.1.gateway.store.files number)).ClearFor name
        (enqueueTimes name data retain times (state.1.gateway.store.files number) state.2.next)

/-- The visit passes on what has the highest publish id. -/
theorem lined_visit {round : Round} (sound : stage.gateway.Sound)
    (lined : Arrivals.Lined (stage.gateway.store.files number).Holds publishes) (under : stage.round = some round) :
    Arrivals.Lined (stage.gateway.store.files number).Holds (track number stage .visit later publishes) := by
  unfold track
  simp only [under]
  cases passes : stage.gateway.passing number round.slot with
  | none => exact lined
  | some publishId =>
    obtain ⟨here, top⟩ := Gateway.passing_last sound passes
    exact lined.pass here top

theorem step_lined (sound : stage.gateway.Sound) (lined : Arrivals.Lined (stage.gateway.store.files number).Holds publishes)
    (clears : Clears number (stage, publishes) moment) (stepped : step stage moment = some later) :
    Arrivals.Lined (later.gateway.store.files number).Holds (track number stage moment later publishes) := by
  have shrunk : ∀ {publishes : Publishes}, Arrivals.Lined (stage.gateway.store.files number).Holds publishes →
      stage.gateway.store.Shrinks later.gateway.store → Arrivals.Lined (later.gateway.store.files number).Holds publishes :=
    fun lined shrinks => lined.shrink fun publishId holds => shrinks number publishId holds
  cases step_stepped stepped with
  | @event input after between other taken =>
    cases event : input.event with
    | brokerMessage name data retain =>
      have tracked : track number stage (.input input) ⟨after, none⟩ publishes =
          enqueueTimes name data retain (stage.gateway.handed name data number) (stage.gateway.store.files number)
            publishes.next := by
        unfold track
        simp only [event]
      rw [tracked]
      have files : after.store.files number = receivedTimes name data retain (stage.gateway.handed name data number)
          (stage.gateway.store.files number) :=
        Gateway.publishFromBroker_files (g := stage.gateway.prepare input) (Gateway.sound_prepare sound)
          (Gateway.step_brokerMessage event taken) number
      rw [files]
      exact (lined_enqueueTimes (sound.ok.files number) lined.next _ (clears input name data retain rfl event)).2
    | _ =>
      have tracked : track number stage (.input input) ⟨after, none⟩ publishes = publishes := by
        unfold track
        simp only [event]
      rw [tracked]
      apply shrunk lined
      apply Gateway.step_shrinks sound _ taken
      intro name data retain same
      cases event.symm.trans same
  | @disconnected input after beat elapsed _ event _ taken =>
    have tracked : track number stage (.input input) ⟨after, none⟩ publishes = publishes := by
      unfold track
      simp only [event]
    rw [tracked]
    apply shrunk lined
    apply Gateway.step_shrinks sound _ taken
    rw [event]
    exact fun _ _ _ => nofun
  | @begun input beat elapsed _ _ event _ quiet =>
    have tracked : track number stage (.input input) later publishes = publishes := by
      unfold track
      simp only [event]
    rw [tracked]
    exact shrunk lined (Store.shrinks_of_files (congrArg Store.files (quiet sound.idle).store))
  | @empty round _ under empty quiet =>
    apply shrunk _ (Store.shrinks_of_files (congrArg Store.files (quiet sound).store))
    exact lined_visit sound lined under
  | @visit round _ under registered returned =>
    have visits := Gateway.serviceClient_visits sound registered round.used.1 returned
    exact shrunk (lined_visit sound lined under) (visits.shrinks round.used.1)

/-- In runs of such steps the publishes of a client on one topic with one QoS are passed to `send_publish` for the first time in
    the order in which they came from the broker. -/
theorem publishes_inOrder {state : Stage × Publishes}
    (run : Runs.Run (Runs.recorded step (track number)) (Clears number)
      (fun state => initial state.1 ∧ state.2 = Arrivals.empty) state) : state.2.InOrder := by
  have kept : state.1.gateway.Sound ∧ Arrivals.Lined (state.1.gateway.store.files number).Holds state.2 := by
    induction run with
    | start first =>
      obtain ⟨⟨fresh, _⟩, nothing⟩ := first
      rw [nothing]
      exact ⟨Gateway.sound_initial fresh, Arrivals.Lined.start⟩
    | next _ clears taken ih =>
      obtain ⟨sound, lined⟩ := ih
      obtain ⟨stepped, tracked⟩ := Runs.recorded_eq_some.mp taken
      rw [tracked]
      exact ⟨step_sound sound stepped, step_lined sound lined clears stepped⟩
  exact kept.2.inOrder

end Stage

namespace Scenario

def firstFile : CString := (recordConnect.1.gateway.store.nthClient 0).fileNumber

def tracked (state : Stage × Publishes) (moment : Moment) : Option (Stage × Publishes) :=
  Runs.recorded Stage.step (Stage.track firstFile) state moment

def trackedStarted : Stage × Publishes := (started, Arrivals.empty)

def trackedOnline : Stage × Publishes := (tracked trackedStarted (event .mqttConnect)).get (by decide +kernel)

def trackedConnect : Stage × Publishes :=
  (tracked trackedOnline (event (.datagram (client 1) (Datagram.connect (name 65) 10 0) []))).get (by decide +kernel)

def trackedSubscribe : Stage × Publishes :=
  (tracked trackedConnect (event (.datagram (client 1) (Datagram.subscribeByName (name 116) 1 0) []))).get (by decide +kernel)

def trackedFirst : Stage × Publishes :=
  (tracked trackedSubscribe (event (.brokerMessage (name 116) [1] false))).get (by decide +kernel)

def trackedLoop : Stage × Publishes := (tracked trackedFirst (event (.loop 0 0))).get (by decide +kernel)

def trackedVisit : Stage × Publishes := (tracked trackedLoop .visit).get (by decide +kernel)

theorem clears_unpublished {state : Stage × Publishes} {number : CString} {input : Event}
    (other : ∀ name data retain, input ≠ .brokerMessage name data retain) :
    Stage.Clears number state (event input) := by
  intro _ name data retain same published
  cases same
  exact absurd published (other name data retain)

theorem clears_trackedSubscribe :
    Stage.Clears firstFile trackedSubscribe (event (.brokerMessage (name 116) [1] false)) := by
  intro _ topic data retain same published times earlier
  cases same
  cases published
  have once : trackedSubscribe.1.gateway.handed (name 116) [1] firstFile = 1 := by decide +kernel
  have first : times = 0 := by omega
  rw [first]
  intro sub _ free _ place arrival _ waits
  cases waits

theorem run_trackedVisit : Runs.Run (Runs.recorded Stage.step (Stage.track firstFile)) (Stage.Clears firstFile)
    (fun state => Stage.initial state.1 ∧ state.2 = Arrivals.empty) trackedVisit := by
  have visiting : Stage.Clears firstFile trackedLoop .visit := by
    intro _ _ _ _ same
    cases same
  exact .next (.next (.next (.next (.next (.next (.start ⟨⟨⟨configuration [47], rfl⟩, rfl⟩, rfl⟩)
    (clears_unpublished (by exact fun _ _ _ => nofun)) (Option.some_get _).symm)
    (clears_unpublished (by exact fun _ _ _ => nofun)) (Option.some_get _).symm)
    (clears_unpublished (by exact fun _ _ _ => nofun)) (Option.some_get _).symm) clears_trackedSubscribe (Option.some_get _).symm)
    (clears_unpublished (by exact fun _ _ _ => nofun)) (Option.some_get _).symm) visiting (Option.some_get _).symm

theorem publishes_inOrder_trackedVisit :
    trackedVisit.2.InOrder ∧ trackedVisit.2.passed = [⟨(name 116, 0), 1⟩] :=
  ⟨Stage.publishes_inOrder run_trackedVisit, by decide +kernel⟩

def trackedSecond : Stage × Publishes :=
  (tracked trackedFirst (event (.brokerMessage (name 116) [2] false))).get (by decide +kernel)

def trackedSecondLoop : Stage × Publishes := (tracked trackedSecond (event (.loop 0 0))).get (by decide +kernel)

def trackedNewest : Stage × Publishes := (tracked trackedSecondLoop .visit).get (by decide +kernel)

def trackedThirdLoop : Stage × Publishes := (tracked trackedNewest (event (.loop 0 0))).get (by decide +kernel)

def trackedOldest : Stage × Publishes := (tracked trackedThirdLoop .visit).get (by decide +kernel)

theorem newest_passed_first :
    ¬ ∀ (number : CString) (state : Stage × Publishes),
      Runs.Run (Runs.recorded Stage.step (Stage.track number)) (fun _ _ => True)
        (fun state => Stage.initial state.1 ∧ state.2 = Arrivals.empty) state → state.2.InOrder := by
  intro claim
  have reached : Runs.Run (Runs.recorded Stage.step (Stage.track firstFile)) (fun _ _ => True)
      (fun state => Stage.initial state.1 ∧ state.2 = Arrivals.empty) trackedOldest :=
    .next (.next (.next (.next (.next (.next (.next (.next (.next (.start ⟨⟨⟨configuration [47], rfl⟩, rfl⟩, rfl⟩) trivial
      (Option.some_get _).symm) trivial (Option.some_get _).symm) trivial (Option.some_get _).symm) trivial
      (Option.some_get _).symm) trivial (Option.some_get _).symm) trivial (Option.some_get _).symm) trivial
      (Option.some_get _).symm) trivial (Option.some_get _).symm) trivial (Option.some_get _).symm
  have ordered := claim firstFile trackedOldest reached
  have passed : trackedOldest.2.passed = [⟨(name 116, 0), 2⟩, ⟨(name 116, 0), 1⟩] := by decide +kernel
  unfold Arrivals.InOrder at ordered
  rw [passed] at ordered
  have late := List.rel_of_pairwise_cons ordered (List.mem_singleton.mpr rfl) rfl
  exact absurd late (by decide)

end Scenario

end MqttSnGateway
