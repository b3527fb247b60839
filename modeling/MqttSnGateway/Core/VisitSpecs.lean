import MqttSnGateway.Core.Selection

namespace MqttSnGateway

open Persistent Store

namespace Gateway

variable {g : Gateway} {address : DeviceAddress} {n : Nat}

section Delivery

/-- What `handle_client_publishes` does for the client at an address: nothing, or it sends one message
    of the queue. A REGISTER or a QoS 1 publish makes the client await an answer. -/
inductive Delivery (g : Gateway) (address : DeviceAddress) : Gateway → Prop
  | nothing {after : Gateway} (settles : g.Settles g.store after) (silent : after.sent = g.sent) :
    Delivery g address after
  | register {between : Gateway} {topicId msgId : UInt16} {topicName : CString}
    (settles : g.Settles (g.store.updateAt address fun entry => { entry with awaitMessage := .regack }) between)
    (silent : between.sent = g.sent) :
    Delivery g address (between.send address (.register topicId msgId topicName))
  | publish {between : Gateway} {h : ClientFiles → ClientFiles} {data : List UInt8} {topicId : UInt16} {retain : Bool}
    (keeps : KeepsTables h) (settles : g.Settles (g.store.filesAt address h) between)
    (silent : between.sent = g.sent) :
    Delivery g address (between.send address (.publish data 0 topicId true retain 0 false))
  | publishAwaited {between : Gateway} {h : ClientFiles → ClientFiles} {data : List UInt8} {msgId topicId : UInt16}
    {retain : Bool} (keeps : KeepsTables h)
    (settles : g.Settles ((g.store.filesAt address h).updateAt address fun entry =>
      { entry with awaitMessage := .puback }) between)
    (silent : between.sent = g.sent) :
    Delivery g address (between.send address (.publish data msgId topicId true retain 1 false))

/-- The same with the message that is delivered, for the client in slot `n` that the address selects: a QoS 0 message
    leaves the queue, one with QoS 1 stays in it under its message id. -/
inductive Delivered (g : Gateway) (address : DeviceAddress) (n : Nat) : Gateway → Prop
  | nothing {after : Gateway} (settles : g.Settles g.store after) (silent : after.sent = g.sent) :
    Delivered g address n after
  | register {between : Gateway} {topicId msgId : UInt16} {topicName : CString}
    (free : (g.store.nthClient n).awaitMessage = .pingreq)
    (settles : g.Settles (g.store.setEntry n fun entry => { entry with awaitMessage := .regack }) between)
    (silent : between.sent = g.sent) :
    Delivered g address n (between.send address (.register topicId msgId topicName))
  | publish {between : Gateway} {k : Nat} {next : EntryPublish} (free : (g.store.nthClient n).awaitMessage = .pingreq)
    (stored : (g.store.files (g.store.nthClient n).fileNumber).pub[k]? = some next) (used : next.publishId ≠ 0)
    (level : next.qos = 0)
    (settles : g.Settles (g.store.setFiles n fun files => { files with pub := files.pub.modify k fun _ => .zero }) between)
    (silent : between.sent = g.sent) :
    Delivered g address n (between.send address (.publish next.payload 0 next.topicId true next.retain 0 false))
  | publishAwaited {between : Gateway} {k : Nat} {next : EntryPublish} {msgId : UInt16}
    (free : (g.store.nthClient n).awaitMessage = .pingreq)
    (stored : (g.store.files (g.store.nthClient n).fileNumber).pub[k]? = some next) (level : next.qos = 1)
    (settles : g.Settles ((g.store.setFiles n fun files =>
        { files with pub := files.pub.modify k fun entry => { entry with msgId := msgId } }).setEntry n fun entry =>
      { entry with awaitMessage := .puback }) between)
    (silent : between.sent = g.sent) :
    Delivered g address n (between.send address (.publish next.payload msgId next.topicId true next.retain 1 false))

theorem Delivered.delivery {after : Gateway} (delivered : Delivered g address n after)
    (found : g.store.slotOfAddress address = some n) : Delivery g address after := by
  cases delivered with
  | nothing settles silent => exact .nothing settles silent
  | register _ settles silent =>
    rw [← updateAt_found found] at settles
    exact .register settles silent
  | @publish _ k _ _ _ _ _ settles silent =>
    rw [← filesAt_found found] at settles
    exact .publish (keepsTables_modify fun entry changed => absurd rfl changed) settles silent
  | @publishAwaited between k next msgId _ _ _ settles silent =>
    have selected : (g.store.setFiles n fun files =>
        { files with pub := files.pub.modify k fun entry => { entry with msgId := msgId } }).slotOfAddress address =
        some n := by rwa [slotOfAddress_setFiles]
    rw [← updateAt_found selected, ← filesAt_found found] at settles
    exact .publishAwaited (keepsTables_modify (f := fun entry => { entry with msgId := msgId }) fun _ _ => rfl) settles
      silent

theorem getNextPublish_inside {p : Persistent} {s : Store} {entry : EntryClient} (ok : s.Ok)
    (queued : (p.inside s entry false false).hasClientPublishes = true) :
    ∃ (k : Nat) (next : EntryPublish), (p.inside s entry false false).getNextPublish = some next ∧
      (s.files entry.fileNumber).pub[k]? = some next ∧ next.publishId ≠ 0 ∧ next.publishId.toNat = k + 1 := by
  have filled : ∃ entry' ∈ (s.files entry.fileNumber).pub, entry'.isEmpty = false := by
    unfold hasClientPublishes at queued
    rw [if_pos (by rfl), files_inside, List.any_eq_true] at queued
    simpa using queued
  have next : (p.inside s entry false false).getNextPublish =
      (s.files entry.fileNumber).pub.reverse.find? fun entry => !entry.isEmpty := rfl
  rw [next]
  cases scan : (s.files entry.fileNumber).pub.reverse.find? fun entry => !entry.isEmpty with
  | none =>
    obtain ⟨record, member, used⟩ := filled
    have empty := List.find?_eq_none.mp scan record (List.mem_reverse.mpr member)
    rw [used] at empty
    exact absurd rfl empty
  | some record =>
    have used := List.find?_some scan
    have member := List.mem_reverse.mp (List.mem_of_find?_eq_some scan)
    obtain ⟨k, found⟩ := List.mem_iff_getElem?.mp member
    have nonzero : record.publishId ≠ 0 := by
      intro zero
      unfold EntryPublish.isEmpty at used
      simp [zero] at used
    exact ⟨k, record, rfl, found, nonzero, (ok.files entry.fileNumber).pubNumbered k record found nonzero⟩

theorem rewritePublish_inside {p : Persistent} {s : Store} {entry : EntryClient} {next : EntryPublish} {k : Nat}
    (f : EntryPublish → EntryPublish) (found : (s.files entry.fileNumber).pub[k]? = some next)
    (used : next.publishId ≠ 0) (numbered : next.publishId.toNat = k + 1) :
    (p.inside s entry false false).rewritePublish next.publishId f =
      p.inside (s.modifyFiles entry.fileNumber fun files => { files with pub := files.pub.modify k f }) entry false
        false := by
  have record : (p.inside s entry false false).publishRecord? next.publishId = some next := by
    unfold publishRecord?
    rw [if_neg used, files_inside, numbered]
    exact found
  unfold rewritePublish
  rw [if_pos (by rfl), record, numbered]
  simp only [if_true, modifyFiles_inside]
  rw [modifyFiles_congr]
  simp only [Nat.add_sub_cancel]
  congr 1
  apply List.ext_getElem?
  intro i
  rw [List.getElem?_set, List.getElem?_modify]
  have inside := (List.getElem?_eq_some_iff.mp found).1
  by_cases here : k = i
  · subst here
    rw [if_pos rfl, if_pos inside, found]
    simp
  · rw [if_neg here]
    simp [here]

theorem isTopicKnown_inside (g : Gateway) (s : Store) (entry : EntryClient) (topicId : UInt16) :
    ∃ known failed between, (g.inside s entry false false).isTopicKnown topicId =
        (known, between.inside s entry false failed) ∧
      (failed = true → known = false) ∧ (between = g ∨ between = g.takeUnspecified.2) := by
  unfold isTopicKnown
  simp only [persistent_inside]
  unfold Persistent.isTopicKnown
  rw [if_neg (by simp), if_neg (by simp)]
  by_cases zero : topicId = 0
  · rw [if_pos zero]
    exact ⟨false, true, g, rfl, fun _ => rfl, .inl rfl⟩
  · rw [if_neg zero]
    cases (g.persistent.inside s entry false false).files.reg.find? fun entry =>
        entry.topicId = topicId && entry.topicName.length < 255 with
    | some record => exact ⟨record.known, false, g, rfl, by simp, .inl rfl⟩
    | none => exact ⟨g.unspecified.headD false, false, g.takeUnspecified.2, rfl, by simp, .inr rfl⟩

theorem keeps_await (type : MessageType) : Keeps fun entry => { entry with awaitMessage := type } :=
  fun _ registered => same_await registered

/-- Awaiting an answer rewrites the selected entry; the message id is not stored. -/
theorem setAwaiting_inside (p : Persistent) {s : Store} (msgId : UInt16) (type : MessageType)
    (found : s.slotOfAddress address = some n) :
    ((p.inside s (s.nthClient n) false false).setClientAwaitMsgId msgId).setClientAwaitMessage type =
      p.inside (s.updateAt address fun entry => { entry with awaitMessage := type })
        { s.nthClient n with awaitMessage := type } false false := by
  have stored : (p.inside s (s.nthClient n) false false).setClientAwaitMsgId msgId =
      p.inside (s.writeSlot (s.nthClient n).slotNumber (s.nthClient n)) (s.nthClient n) false false := rfl
  rw [stored, updateAt_found found]
  unfold setClientAwaitMessage setEntry
  rw [updateEntry_inside, writeSlot_writeSlot]

theorem handleClientPublishes_delivered (status : ClientStatus) (idle : g.persistent.Idle) (ok : g.store.Ok)
    (found : g.store.slotOfAddress address = some n) :
    Delivered g address n (handleClientPublishes status address g) := by
  have stop : Delivered g address n (g.inside g.store (g.store.nthClient n) false false).applyTransaction.2 :=
    .nothing Settles.settled rfl
  unfold handleClientPublishes
  split
  · rw [startClientTransaction_found idle found]
    simp only
    split
    · rename_i queued
      simp only [Bool.and_eq_true, decide_eq_true_eq] at queued
      have free : (g.store.nthClient n).awaitMessage = .pingreq := queued.1
      obtain ⟨k, next, read, stored, used, numbered⟩ := getNextPublish_inside ok queued.2
      have here : (g.inside g.store (g.store.nthClient n) false false).persistent.getNextPublish = some next := read
      obtain ⟨known, failed, between, answer, failing, same⟩ :=
        isTopicKnown_inside g g.store (g.store.nthClient n) next.topicId
      have settles : ∀ s entry, g.Settles s (between.settled s entry) := by
        rcases same with rfl | rfl
        · exact fun s entry => Settles.settled
        · exact fun s entry => (Settles.refl idle).takeUnspecified.trans Settles.settled
      have silent : ∀ s entry, (between.settled s entry).sent = g.sent := by
        rcases same with rfl | rfl <;> exact fun _ _ => rfl
      simp only [here, Option.getD_some, answer]
      generalize nextMsgId (between.inside g.store (g.store.nthClient n) false
        failed).persistent.getClientAwaitMsgId = msgId
      cases known with
      | false =>
        simp only [Bool.not_false, if_true]
        cases topic : (between.inside g.store (g.store.nthClient n) false failed).persistent.getTopicName
            next.topicId with
        | none => exact .nothing (settles _ _) (silent _ _)
        | some topicName =>
          have clean : failed = false := by
            cases failed with
            | false => rfl
            | true => cases topic
          subst clean
          have awaiting := update_inside
            (f := fun p => (p.setClientAwaitMsgId msgId).setClientAwaitMessage .regack)
            (setAwaiting_inside between.persistent msgId .regack found)
          simp only [awaiting, applyTransaction_inside]
          refine .register free ?_ (silent _ _)
          rw [← updateAt_found found]
          exact settles _ _
      | true =>
        have clean : failed = false := by
          cases failed with
          | false => rfl
          | true => cases failing rfl
        subst clean
        simp only [Bool.not_true, Bool.false_eq_true, if_false]
        split
        · rename_i level
          have removed := update_inside (f := fun p => p.removePublishByPublishId next.publishId)
            (rewritePublish_inside (p := between.persistent) (fun _ => .zero) stored used numbered)
          have same : (.publish next.payload 0 next.topicId true next.retain next.qos false : SnMessage) =
              .publish next.payload 0 next.topicId true next.retain 0 false := by rw [level]
          rw [removed, applyTransaction_inside, if_pos (by rfl), same]
          exact .publish free stored used level (settles _ _) (silent _ _)
        · split
          · rename_i level
            let f : EntryPublish → EntryPublish := fun entry => { entry with msgId := msgId }
            have awaiting := setAwaiting_inside between.persistent msgId .puback found
            let s := g.store.updateAt address fun entry => { entry with awaitMessage := .puback }
            let entry := { g.store.nthClient n with awaitMessage := .puback }
            have kept : (s.files entry.fileNumber).pub[k]? = some next := by
              rw [files_updateAt]
              exact stored
            have written := rewritePublish_inside (p := between.persistent) f kept used numbered
            rw [← awaiting] at written
            have sending := update_inside (f := fun p =>
              ((p.setClientAwaitMsgId msgId).setClientAwaitMessage .puback).setPublishMsgId next.publishId msgId) written
            have same : (.publish next.payload msgId next.topicId true next.retain next.qos false : SnMessage) =
                .publish next.payload msgId next.topicId true next.retain 1 false := by rw [level]
            rw [sending, applyTransaction_inside, if_pos (by rfl), same]
            have swapped : s.modifyFiles entry.fileNumber (fun files => { files with pub := files.pub.modify k f }) =
                (g.store.setFiles n fun files => { files with pub := files.pub.modify k f }).setEntry n
                  fun entry => { entry with awaitMessage := .puback } := by
              simp only [s, updateAt_found found]
              rfl
            exact .publishAwaited free stored level ((settles _ _).cast swapped) (silent _ _)
          · exact .nothing (settles _ _) (silent _ _)
    · exact stop
  · exact .nothing (Settles.refl idle) rfl

theorem handleClientPublishes_delivers {status : ClientStatus} (idle : g.persistent.Idle) (ok : g.store.Ok)
    (found : g.store.slotOfAddress address = some n) : Delivery g address (handleClientPublishes status address g) :=
  (handleClientPublishes_delivered status idle ok found).delivery found

end Delivery

section Timeout

variable {slot : EntryClient} {elapsed : UInt32}

/-- A client has been silent for longer than its duration and the tolerance. -/
def Expires (slot : EntryClient) (elapsed : UInt32) : Prop :=
  slot.clientStatus.connected = true ∧ toleranceTimeout slot.duration < (slot.timeout + elapsed).toNat

instance (slot : EntryClient) (elapsed : UInt32) : Decidable (Expires slot elapsed) := inferInstanceAs (Decidable (_ ∧ _))

theorem keeps_timeout (timeout : UInt32) : Keeps fun entry => { entry with timeout := timeout } :=
  fun _ registered => ⟨rfl, rfl, rfl, registered⟩

theorem keeps_lost (timeout : UInt32) : Keeps fun entry => { entry with timeout := timeout, clientStatus := .lost } :=
  fun _ _ => ⟨rfl, rfl, rfl, by simp⟩

theorem handleTimeout_disconnected (silent : slot.clientStatus.connected = false) :
    handleTimeout pahoMqttMessageHandler slot elapsed g = some g := by
  unfold handleTimeout
  rw [if_neg (by simp [silent])]

theorem handleTimeout_running (idle : g.persistent.Idle) (found : g.store.slotOfAddress slot.clientAddress = some n)
    (connected : slot.clientStatus.connected = true) (running : ¬ Expires slot elapsed) :
    handleTimeout pahoMqttMessageHandler slot elapsed g = some (g.settled
      (g.store.updateAt slot.clientAddress fun entry => { entry with timeout := slot.timeout + elapsed })
      { g.store.nthClient n with timeout := slot.timeout + elapsed }) := by
  have within : ¬ toleranceTimeout slot.duration < (slot.timeout + elapsed).toNat :=
    fun expired => running ⟨connected, expired⟩
  unfold handleTimeout
  rw [if_pos connected, startClientTransaction_found idle found, updateAt_found found]
  simp only
  rw [if_neg within]
  rfl

theorem setLost_inside {p : Persistent} {s : Store} {timeout : UInt32} (found : s.slotOfAddress address = some n) :
    ((p.inside s (s.nthClient n) false false).setTimeout timeout).setClientState .lost =
      p.inside (s.updateAt address fun entry => { entry with timeout := timeout, clientStatus := .lost })
        { s.nthClient n with timeout := timeout, clientStatus := .lost } false false := by
  have stored : (p.inside s (s.nthClient n) false false).setTimeout timeout =
      p.inside (s.writeSlot (s.nthClient n).slotNumber { s.nthClient n with timeout := timeout })
        { s.nthClient n with timeout := timeout } false false := rfl
  rw [stored, updateAt_found found]
  unfold setClientState setEntry
  rw [updateEntry_inside]
  exact congrArg (fun s => p.inside s _ false false) writeSlot_writeSlot

theorem handleTimeout_lost (idle : g.persistent.Idle) (found : g.store.slotOfAddress slot.clientAddress = some n)
    (expires : Expires slot elapsed) (unwilling : (g.store.files (g.store.nthClient n).fileNumber).wil = none) :
    handleTimeout pahoMqttMessageHandler slot elapsed g = some (g.settled
      (g.store.updateAt slot.clientAddress fun entry =>
        { entry with timeout := slot.timeout + elapsed, clientStatus := .lost })
      { g.store.nthClient n with timeout := slot.timeout + elapsed, clientStatus := .lost }) := by
  have lost := update_inside (f := fun p => (p.setTimeout (slot.timeout + elapsed)).setClientState .lost)
    (setLost_inside (p := g.persistent) found)
  have written : ((g.inside g.store (g.store.nthClient n) false false).update fun p =>
      p.setTimeout (slot.timeout + elapsed)).update (fun p => p.setClientState .lost) = _ := lost
  unfold handleTimeout
  rw [if_pos expires.1, startClientTransaction_found idle found]
  simp only [written]
  rw [if_pos expires.2, if_neg]
  · rfl
  · unfold hasClientWill
    rw [persistent_inside, if_pos (by rfl), files_inside, files_updateAt, unwilling]
    simp

/-- A client with a will that times out is removed: its subscriptions go one by one, then the client
    registered under the id in the visited slot is deleted. -/
theorem handleTimeout_will (idle : g.persistent.Idle) (found : g.store.slotOfAddress slot.clientAddress = some n)
    (expires : Expires slot elapsed) {will : EntryWill}
    (willing : (g.store.files (g.store.nthClient n).fileNumber).wil = some will) :
    handleTimeout pahoMqttMessageHandler slot elapsed g =
      (removeClientSubscriptions pahoMqttMessageHandler
        ((pahoMqttMessageHandler.publish g will.willtopic will.payload will.qos will.retain).2.inside
          (g.store.updateAt slot.clientAddress fun entry =>
            { entry with timeout := slot.timeout + elapsed, clientStatus := .lost })
          { g.store.nthClient n with timeout := slot.timeout + elapsed, clientStatus := .lost } false false)).map
      fun g => (g.update fun p => p.deleteClient slot.clientId).applyTransaction.2 := by
  have lost := update_inside (f := fun p => (p.setTimeout (slot.timeout + elapsed)).setClientState .lost)
    (setLost_inside (p := g.persistent) found)
  have written : ((g.inside g.store (g.store.nthClient n) false false).update fun p =>
      p.setTimeout (slot.timeout + elapsed)).update (fun p => p.setClientState .lost) = _ := lost
  have stored : (g.inside (g.store.updateAt slot.clientAddress fun entry =>
      { entry with timeout := slot.timeout + elapsed, clientStatus := .lost })
      { g.store.nthClient n with timeout := slot.timeout + elapsed, clientStatus := .lost } false
      false).persistent.getClientWill = some will := by
    unfold getClientWill
    rw [persistent_inside, if_pos (by rfl), files_inside, files_updateAt]
    exact willing
  unfold handleTimeout
  rw [if_pos expires.1, startClientTransaction_found idle found]
  simp only [written]
  rw [if_pos expires.2, if_pos]
  · rw [stored, Option.getD_some]
    simp only [paho_publish_inside, Option.map_map]
    rfl
  · unfold hasClientWill
    rw [persistent_inside, if_pos (by rfl), files_inside, files_updateAt, willing]
    rfl

/-- What `handle_timeout` does for a client: nothing while it is disconnected; it counts its time or, when
    that has run out, declares it LOST. A client with a will is lost for good: the will is published, the
    subscriptions of the selected client go, and the client whose id is in the visited slot is deleted. -/
inductive TimesOut (g : Gateway) (slot : EntryClient) (elapsed : UInt32) : Gateway → Prop
  | disconnected (silent : slot.clientStatus.connected = false) : TimesOut g slot elapsed g
  | running {after : Gateway} (connected : slot.clientStatus.connected = true) (running : ¬ Expires slot elapsed)
    (settles : g.Settles (g.store.updateAt slot.clientAddress fun entry =>
      { entry with timeout := slot.timeout + elapsed }) after)
    (silent : after.sent = g.sent) : TimesOut g slot elapsed after
  | lost {m : Nat} {after : Gateway} (found : g.store.slotOfAddress slot.clientAddress = some m)
    (expires : Expires slot elapsed) (unwilling : (g.store.files (g.store.nthClient m).fileNumber).wil = none)
    (settles : g.Settles (g.store.updateAt slot.clientAddress fun entry =>
      { entry with timeout := slot.timeout + elapsed, clientStatus := .lost }) after)
    (silent : after.sent = g.sent) : TimesOut g slot elapsed after
  | deleted {m : Nat} {will : EntryWill} {g' : Gateway} {s : Store}
    (found : g.store.slotOfAddress slot.clientAddress = some m) (expires : Expires slot elapsed)
    (willing : (g.store.files (g.store.nthClient m).fileNumber).wil = some will)
    (removal : Removal (g.store.nthClient m).fileNumber
      (pahoMqttMessageHandler.publish g will.willtopic will.payload will.qos will.retain).2
      (g.store.updateAt slot.clientAddress fun entry =>
        { entry with timeout := slot.timeout + elapsed, clientStatus := .lost }) g' s)
    (none_left : subscriptionCount (s.files (g.store.nthClient m).fileNumber).sub = 0) :
    TimesOut g slot elapsed
      (g'.settled (s.deleteClient g.persistent.sd (g.store.nthClient m).fileNumber slot.clientId) .zero)

theorem handleTimeout_timesOut {after : Gateway} (idle : g.persistent.Idle)
    (ok : (g.store.files (g.store.nthClient n).fileNumber).Ok) (fits : slot.clientId.length < 24)
    (found : g.store.slotOfAddress slot.clientAddress = some n)
    (returned : handleTimeout pahoMqttMessageHandler slot elapsed g = some after) : TimesOut g slot elapsed after := by
  by_cases connected : slot.clientStatus.connected = true
  · by_cases expires : Expires slot elapsed
    · cases willing : (g.store.files (g.store.nthClient n).fileNumber).wil with
      | none =>
        rw [handleTimeout_lost idle found expires willing] at returned
        cases returned
        exact .lost found expires willing Settles.settled rfl
      | some will =>
        rw [handleTimeout_will idle found expires willing] at returned
        obtain ⟨removed, finished, applied⟩ := Option.map_eq_some_iff.mp returned
        unfold removeClientSubscriptions at finished
        generalize same : ({ g.store.nthClient n with
          timeout := slot.timeout + elapsed, clientStatus := .lost } : EntryClient) = entry at finished
        have number : entry.fileNumber = (g.store.nthClient n).fileNumber := by rw [← same]
        have kept : ((g.store.updateAt slot.clientAddress fun entry =>
            { entry with timeout := slot.timeout + elapsed, clientStatus := .lost }).files entry.fileNumber).Ok := by
          rw [files_updateAt, number]
          exact ok
        obtain ⟨g', s, rfl, removal, none_left⟩ := removeClientSubscriptionsLoop_removal kept finished
        have deleted := deleteClient_inside (p := g'.persistent) fits (removal.filesOk kept).subShort none_left
        rw [update_inside deleted, applyTransaction_inside, removal.called.persistent,
          paho_publish_called.persistent] at applied
        rw [← applied, number]
        rw [number] at removal none_left
        exact .deleted found expires willing removal none_left
    · rw [handleTimeout_running idle found connected expires] at returned
      cases returned
      exact .running connected expires Settles.settled rfl
  · have silent : slot.clientStatus.connected = false := by simpa using connected
    rw [handleTimeout_disconnected silent] at returned
    cases returned
    exact .disconnected silent

end Timeout

section Service

variable {drains : Bool} {status : ClientStatus} {notice : SnMessage}

/-- The middle of the loop body: a client that is ready for it and has no messages changes its status. -/
def drain (drains : Bool) (status : ClientStatus) (notice : SnMessage) (address : DeviceAddress) (g : Gateway) : Gateway :=
  let g := g.startClientTransaction address
  if drains && !g.persistent.hasClientPublishes then
    let (result, g) := (g.update fun p => p.setClientState status).applyTransaction
    if CoreResult.is result .success then g.send address notice else g
  else g.applyTransaction.2

/-- The gateway as it enters the loop body for slot `n`. -/
def visiting (g : Gateway) (n : Nat) : Gateway := { g with serviced := g.serviced ++ [n] }

theorem serviceClient_eq {mqtt : MqttMessageHandler} {drained : ClientStatus → Bool} {hasHeartBeaten : Bool}
    {elapsed : UInt32} {slot : EntryClient} :
    serviceClient mqtt drained status notice hasHeartBeaten elapsed n slot g =
      let g := handleClientPublishes slot.clientStatus slot.clientAddress (g.visiting n)
      let g := drain (drained slot.clientStatus) status notice slot.clientAddress g
      if hasHeartBeaten then handleTimeout mqtt slot elapsed g else some g := rfl

/-- What becomes of a client in the middle of the loop body: it stays as it is, or changes its status and is
    told so. -/
inductive Drained (g : Gateway) (drains : Bool) (status : ClientStatus) (notice : SnMessage) (address : DeviceAddress) :
    Gateway → Prop
  | kept {after : Gateway} (settles : g.Settles g.store after) (silent : after.sent = g.sent) :
    Drained g drains status notice address after
  | changed {between : Gateway} (ready : drains = true)
    (settles : g.Settles (g.store.updateAt address fun entry => { entry with clientStatus := status }) between)
    (silent : between.sent = g.sent) : Drained g drains status notice address (between.send address notice)

theorem drain_unready (idle : g.persistent.Idle) : Drained g false status notice address (drain false status notice address g) := by
  unfold drain
  simp only [Bool.false_and, Bool.false_eq_true, if_false]
  cases selection : g.store.slotOfAddress address with
  | some n =>
    rw [startClientTransaction_found idle selection, applyTransaction_inside]
    exact .kept Settles.settled rfl
  | none =>
    rw [startClientTransaction_missing idle selection, applyTransaction_inside]
    exact .kept Settles.settled rfl

theorem drain_drained (idle : g.persistent.Idle) (found : g.store.slotOfAddress address = some n) :
    Drained g drains status notice address (drain drains status notice address g) := by
  cases drains with
  | false => exact drain_unready idle
  | true =>
    unfold drain
    simp only [Bool.true_and]
    rw [startClientTransaction_found idle found]
    split
    · have changed : (g.inside g.store (g.store.nthClient n) false false).update (fun p => p.setClientState status) =
          g.inside (g.store.setEntry n fun entry => { entry with clientStatus := status })
            { g.store.nthClient n with clientStatus := status } false false := rfl
      rw [changed, applyTransaction_inside, if_pos (by rfl)]
      refine .changed rfl ?_ rfl
      rw [updateAt_found found]
      exact Settles.settled
    · rw [applyTransaction_inside]
      exact .kept Settles.settled rfl

end Service

end Gateway

end MqttSnGateway
