import MqttSnGateway.Core.Settles
import MqttSnGateway.Requests

namespace MqttSnGateway

open Persistent

/-- A change of a client's files that leaves its registrations and subscriptions alone. -/
structure KeepsTables (h : ClientFiles → ClientFiles) : Prop where
  reg : ∀ files, (h files).reg = files.reg
  sub : ∀ files, (h files).sub = files.sub
  pub : ∀ files, (h files).pub.length = files.pub.length
  ids : ∀ (files : ClientFiles) (n : Nat) (entry : EntryPublish), (h files).pub[n]? = some entry → entry.publishId ≠ 0 →
    ∃ old, files.pub[n]? = some old ∧ old.publishId = entry.publishId

theorem keepsTables_will {h : ClientFiles → ClientFiles} (reg : ∀ files, (h files).reg = files.reg)
    (sub : ∀ files, (h files).sub = files.sub) (pub : ∀ files, (h files).pub = files.pub) : KeepsTables h where
  reg := reg
  sub := sub
  pub := fun files => by rw [pub]
  ids := fun files n entry found _ => ⟨entry, by rwa [pub] at found, rfl⟩

theorem keepsTables_modify {k : Nat} {f : EntryPublish → EntryPublish}
    (same : ∀ entry : EntryPublish, (f entry).publishId ≠ 0 → (f entry).publishId = entry.publishId) :
    KeepsTables fun files => { files with pub := files.pub.modify k f } where
  reg := fun _ => rfl
  sub := fun _ => rfl
  pub := fun files => List.length_modify ..
  ids := by
    intro files n entry found used
    simp only [List.getElem?_modify] at found
    cases old : files.pub[n]? with
    | none =>
      rw [old] at found
      cases found
    | some before =>
      rw [old] at found
      refine ⟨before, rfl, ?_⟩
      simp only [Option.map_eq_map, Option.map_some, Option.some.injEq] at found
      subst found
      split at used
      · rename_i here
        rw [if_pos here]
        exact (same before used).symm
      · rename_i elsewhere
        rw [if_neg elsewhere]

namespace ClientFiles

/-- The files after an accepted WILLTOPIC; a topic that does not fit is dropped. -/
def setWilltopic (files : ClientFiles) (willTopic : CString) (retain : Bool) (qos : UInt8) : ClientFiles :=
  if 255 ≤ willTopic.length then files
  else
    let will := files.wil.getD .zero
    { files with wil := some { will with willtopic := willTopic, qos := qos, retain := retain } }

def setWillmessage (files : ClientFiles) (willMsg : List UInt8) : ClientFiles :=
  let will := files.wil.getD .zero
  { files with wil := some { will with willmsg := willMsg, willmsgLength := UInt8.ofNat willMsg.length } }

def removeWill (files : ClientFiles) (sd : SDLinuxFake) (number : CString) : ClientFiles :=
  if sd.removes (filenameWithExtension number .will) then files.clear .will else files

theorem keepsTables_setWilltopic {willTopic : CString} {retain : Bool} {qos : UInt8} :
    KeepsTables fun files => files.setWilltopic willTopic retain qos := by
  apply keepsTables_will
  all_goals
    intro files
    unfold setWilltopic
    split <;> rfl

theorem keepsTables_setWillmessage {willMsg : List UInt8} : KeepsTables fun files => files.setWillmessage willMsg :=
  keepsTables_will (fun _ => rfl) (fun _ => rfl) fun _ => rfl

theorem keepsTables_removeWill {sd : SDLinuxFake} {number : CString} :
    KeepsTables fun files => files.removeWill sd number := by
  apply keepsTables_will
  all_goals
    intro files
    unfold removeWill
    split <;> rfl

end ClientFiles

namespace Store

variable {s : Store} {n : Nat} {address : DeviceAddress}

theorem setFiles_id : s.setFiles n id = s := modifyFiles_id rfl

theorem updateAt_found {f : EntryClient → EntryClient} (found : s.slotOfAddress address = some n) :
    s.updateAt address f = s.setEntry n f := by
  unfold updateAt
  rw [found]

theorem updateAt_missing {f : EntryClient → EntryClient} (missing : s.slotOfAddress address = none) :
    s.updateAt address f = s := by
  unfold updateAt
  rw [missing]

@[simp] theorem slotOfAddress_setFiles {h : ClientFiles → ClientFiles} :
    (s.setFiles n h).slotOfAddress address = s.slotOfAddress address := rfl

end Store

namespace Gateway

variable {g : Gateway} {address : DeviceAddress} {n : Nat}

section Status

theorem handlePingreq_settles (idle : g.persistent.Idle) : g.Settles g.store (g.handlePingreq address) :=
  (Settles.refl idle).send

theorem handlePingreqWithId_settles {clientId : CString} (idle : g.persistent.Idle) :
    g.Settles (g.store.updateAt address fun entry => { entry with clientStatus := .awake })
      (g.handlePingreqWithId address clientId) := by
  unfold handlePingreqWithId
  cases selection : g.store.slotOfAddress address with
  | some n =>
    rw [setAwake_found idle selection, Store.updateAt_found selection]
    exact Settles.settled
  | none =>
    rw [setAwake_missing idle selection, Store.updateAt_missing selection]
    exact Settles.settled.send

theorem handleDisconnect_settles (idle : g.persistent.Idle) :
    g.Settles (g.store.updateAt address fun entry => { entry with clientStatus := .disconnected })
      (g.handleDisconnect address) := by
  unfold handleDisconnect
  cases selection : g.store.slotOfAddress address with
  | some n =>
    rw [setDisconnected_found idle selection, Store.updateAt_found selection]
    exact Settles.settled.send
  | none =>
    rw [setDisconnected_missing idle selection, Store.updateAt_missing selection]
    exact Settles.settled

theorem handleDisconnectWithDuration_settles {duration : UInt16} (idle : g.persistent.Idle) :
    g.Settles
      (if g.persistent.isMqttOnline then g.store.updateAt address fun entry => { entry with clientStatus := .asleep }
        else g.store)
      (g.handleDisconnectWithDuration address duration) := by
  unfold handleDisconnectWithDuration
  cases online : g.persistent.isMqttOnline with
  | false =>
    rw [setAsleep_offline online]
    exact (Settles.refl idle).send
  | true =>
    cases selection : g.store.slotOfAddress address with
    | some n =>
      rw [setAsleep_found idle online selection, if_pos rfl, Store.updateAt_found selection]
      exact Settles.settled.send
    | none =>
      rw [setAsleep_missing idle online selection, if_pos rfl, Store.updateAt_missing selection]
      exact Settles.settled.send

theorem awaitMessage_settles (address : DeviceAddress) (type : MessageType) (idle : g.persistent.Idle) :
    g.Settles (g.store.updateAt address fun entry => { entry with awaitMessage := type })
      (g.awaitMessage address type).2 := by
  cases selection : g.store.slotOfAddress address with
  | some n =>
    rw [awaitMessage_found idle selection, Store.updateAt_found selection]
    exact Settles.settled
  | none =>
    rw [awaitMessage_missing idle selection, Store.updateAt_missing selection]
    exact Settles.settled

end Status

section Awaited

theorem awaitMessageType_unknown {p : Persistent} {s : Store} {entry : EntryClient} :
    (p.inside s entry true false).getClientAwaitMessageType = .pingreq := rfl

/-- A REGACK counts only while one with its message id is awaited. -/
def Regacks (entry : EntryClient) (msgId : UInt16) : Prop :=
  entry.awaitMessage = .regack ∧ entry.awaitMessageId = msgId

instance (entry : EntryClient) (msgId : UInt16) : Decidable (Regacks entry msgId) :=
  inferInstanceAs (Decidable (_ ∧ _))

theorem notifyRegackArrived_missing {topicId msgId : UInt16} {returnCode : UInt8} (idle : g.persistent.Idle)
    (missing : g.store.slotOfAddress address = none) :
    g.Settles g.store (g.notifyRegackArrived address topicId msgId returnCode).2 := by
  unfold notifyRegackArrived
  rw [startClientTransaction_missing idle missing]
  simp only [persistent_inside, awaitMessageType_unknown]
  rw [if_neg (by simp), applyTransaction_inside]
  exact Settles.settled.takeUnspecified

theorem notifyRegackArrived_found {topicId msgId : UInt16} {returnCode : UInt8} (idle : g.persistent.Idle)
    (found : g.store.slotOfAddress address = some n) :
    g.Settles
      (if Regacks (g.store.nthClient n) msgId ∧
          (returnCode = ReturnCode.accepted ∨ returnCode = ReturnCode.rejectedCongestion) then
        g.store.setEntry n fun entry => { entry with awaitMessage := .pingreq }
      else g.store)
      (g.notifyRegackArrived address topicId msgId returnCode).2 := by
  have written : ∀ known, (g.inside g.store (g.store.nthClient n) false false).update (fun p =>
      (p.setTopicKnown topicId known).setClientAwaitMessage .pingreq) =
      g.inside (g.store.setEntry n fun entry => { entry with awaitMessage := .pingreq })
        { g.store.nthClient n with awaitMessage := .pingreq } false false := fun _ => rfl
  have unchanged : ∀ known, (g.inside g.store (g.store.nthClient n) false false).update (fun p =>
      p.setTopicKnown topicId known) = g.inside g.store (g.store.nthClient n) false false := fun _ => rfl
  have awaited : (g.inside g.store (g.store.nthClient n) false false).persistent.getClientAwaitMessageType =
      (g.store.nthClient n).awaitMessage := rfl
  have number : (g.inside g.store (g.store.nthClient n) false false).persistent.getClientAwaitMsgId =
      (g.store.nthClient n).awaitMessageId := rfl
  unfold notifyRegackArrived
  rw [startClientTransaction_found idle found]
  simp only [awaited, number, written, unchanged, applyTransaction_inside]
  by_cases expected : Regacks (g.store.nthClient n) msgId
  · have hit : (decide ((g.store.nthClient n).awaitMessage = .regack) &&
        decide ((g.store.nthClient n).awaitMessageId = msgId)) = true := by simpa [Regacks] using expected
    rw [if_pos hit]
    by_cases accepted : returnCode = ReturnCode.accepted
    · have effective : Regacks (g.store.nthClient n) msgId ∧
          (returnCode = ReturnCode.accepted ∨ returnCode = ReturnCode.rejectedCongestion) :=
        ⟨expected, .inl accepted⟩
      rw [if_pos effective, if_pos accepted]
      exact Settles.settled
    · by_cases congestion : returnCode = ReturnCode.rejectedCongestion
      · have effective : Regacks (g.store.nthClient n) msgId ∧
            (returnCode = ReturnCode.accepted ∨ returnCode = ReturnCode.rejectedCongestion) :=
          ⟨expected, .inr congestion⟩
        rw [if_pos effective, if_neg accepted, if_pos congestion]
        exact Settles.settled
      · have ineffective : ¬ (Regacks (g.store.nthClient n) msgId ∧
            (returnCode = ReturnCode.accepted ∨ returnCode = ReturnCode.rejectedCongestion)) := by
          simp [accepted, congestion]
        rw [if_neg ineffective, if_neg accepted, if_neg congestion]
        split
        · exact Settles.settled
        · split <;> exact Settles.settled
  · have miss : ¬ (decide ((g.store.nthClient n).awaitMessage = .regack) &&
        decide ((g.store.nthClient n).awaitMessageId = msgId)) = true := by simpa [Regacks] using expected
    have ineffective : ¬ (Regacks (g.store.nthClient n) msgId ∧
        (returnCode = ReturnCode.accepted ∨ returnCode = ReturnCode.rejectedCongestion)) :=
      fun effective => expected effective.1
    rw [if_neg miss, if_neg ineffective]
    exact Settles.settled

theorem handleRegack_settles {topicId msgId : UInt16} {returnCode : UInt8} {s : Store}
    (settles : g.Settles s (g.notifyRegackArrived address topicId msgId returnCode).2) :
    g.Settles s (g.handleRegack address topicId msgId returnCode) := by
  unfold handleRegack
  generalize g.notifyRegackArrived address topicId msgId returnCode = outcome at settles ⊢
  obtain ⟨result, after⟩ := outcome
  cases result with
  | success => exact settles
  | _ => exact settles.send

theorem addWillPart_offline {awaited : MessageType} {change : Persistent → Persistent}
    (offline : g.persistent.isMqttOnline = false) : g.addWillPart address awaited change = (.zero, g) := by
  unfold addWillPart
  rw [if_pos (by simp [offline])]

theorem addWillPart_missing {awaited : MessageType} {change : Persistent → Persistent} (idle : g.persistent.Idle)
    (online : g.persistent.isMqttOnline = true) (missing : g.store.slotOfAddress address = none) :
    g.addWillPart address awaited change = (.zero, g.settled g.store .zero) := by
  unfold addWillPart
  rw [if_neg (by simp [online]), startClientTransaction_missing idle missing]
  simp only [persistent_inside, awaitMessageType_unknown]
  rw [if_pos (by simp), applyTransaction_inside]

theorem addWillPart_unawaited {awaited : MessageType} {change : Persistent → Persistent} (idle : g.persistent.Idle)
    (online : g.persistent.isMqttOnline = true) (found : g.store.slotOfAddress address = some n)
    (other : (g.store.nthClient n).awaitMessage ≠ awaited) :
    g.addWillPart address awaited change = (.zero, g.settled g.store (g.store.nthClient n)) := by
  have type : (g.inside g.store (g.store.nthClient n) false false).persistent.getClientAwaitMessageType =
      (g.store.nthClient n).awaitMessage := rfl
  unfold addWillPart
  rw [if_neg (by simp [online]), startClientTransaction_found idle found]
  simp only [type]
  rw [if_pos (by simp [other]), applyTransaction_inside]

theorem addWillPart_awaited {awaited : MessageType} (change : Persistent → Persistent) {s : Store}
    (idle : g.persistent.Idle) (online : g.persistent.isMqttOnline = true)
    (found : g.store.slotOfAddress address = some n) (expected : (g.store.nthClient n).awaitMessage = awaited)
    (waiting : awaited ≠ .pingreq)
    (changed : change (g.persistent.inside g.store (g.store.nthClient n) false false) =
      g.persistent.inside s (g.store.nthClient n) false false) :
    g.addWillPart address awaited change = (.success, g.settled s (g.store.nthClient n)) := by
  have type : (g.inside g.store (g.store.nthClient n) false false).persistent.getClientAwaitMessageType =
      (g.store.nthClient n).awaitMessage := rfl
  unfold addWillPart
  rw [if_neg (by simp [online]), startClientTransaction_found idle found]
  simp only [type]
  rw [if_neg (by simp [expected, waiting]), update_inside changed, applyTransaction_inside]
  rfl

end Awaited

section Wills

/-- A WILLTOPIC is the awaited answer of the client in slot `n`, and not the message that deletes the will. -/
def WilltopicAccepted (g : Gateway) (n : Nat) (willTopic : CString) (retain : Bool) (qos : UInt8) : Prop :=
  ¬ (willTopic.length = 0 ∧ qos = 0 ∧ retain = false) ∧ g.persistent.isMqttOnline = true ∧
    (g.store.nthClient n).awaitMessage = .willtopic

/-- A WILLMSG is the awaited answer of the client in slot `n`. -/
def WillmsgAccepted (g : Gateway) (n : Nat) : Prop :=
  g.persistent.isMqttOnline = true ∧ (g.store.nthClient n).awaitMessage = .willmsg

theorem removeWill_found (idle : g.persistent.Idle) (found : g.store.slotOfAddress address = some n) :
    g.Settles (g.store.setFiles n fun files => files.removeWill g.persistent.sd (g.store.nthClient n).fileNumber)
      (g.removeWill address).2 := by
  have changed : (g.persistent.inside g.store (g.store.nthClient n) false false).deleteWill =
      g.persistent.inside
        (g.store.setFiles n fun files => files.removeWill g.persistent.sd (g.store.nthClient n).fileNumber)
        (g.store.nthClient n) false false := rfl
  unfold removeWill
  rw [transaction_found (fun p => p.deleteWill) idle found changed]
  exact Settles.settled

theorem removeWill_missing (idle : g.persistent.Idle) (missing : g.store.slotOfAddress address = none) :
    g.Settles g.store (g.removeWill address).2 := by
  unfold removeWill
  rw [transaction_missing (fun p => p.deleteWill) idle missing rfl]
  exact Settles.settled

theorem setClientWilltopic_inside (p : Persistent) (s : Store) (n : Nat) (willTopic : CString) (retain : Bool) (qos : UInt8) :
    (p.inside s (s.nthClient n) false false).setClientWilltopic willTopic qos retain =
      p.inside (s.setFiles n fun files => files.setWilltopic willTopic retain qos) (s.nthClient n) false false := by
  unfold setClientWilltopic
  rw [if_pos (by rfl)]
  split
  · rename_i long
    have same : (fun files : ClientFiles => files.setWilltopic willTopic retain qos) = id := by
      funext files
      unfold ClientFiles.setWilltopic
      rw [if_pos long]
      rfl
    rw [same, Store.setFiles_id]
  · rename_i short
    have same : (fun files : ClientFiles => files.setWilltopic willTopic retain qos) = fun files =>
        { files with wil := some { files.wil.getD .zero with willtopic := willTopic, qos := qos, retain := retain } } := by
      funext files
      unfold ClientFiles.setWilltopic
      rw [if_neg short]
    rw [same]
    rfl

theorem setClientWillmessage_inside (p : Persistent) (s : Store) (n : Nat) (willMsg : List UInt8) :
    (p.inside s (s.nthClient n) false false).setClientWillmessage willMsg =
      p.inside (s.setFiles n fun files => files.setWillmessage willMsg) (s.nthClient n) false false := rfl

theorem handleWilltopic_missing {willTopic : CString} {retain : Bool} {qos : UInt8} (idle : g.persistent.Idle)
    (missing : g.store.slotOfAddress address = none) :
    g.Settles g.store (g.handleWilltopic address willTopic retain qos) := by
  unfold handleWilltopic
  split
  · exact removeWill_missing idle missing
  · unfold addWillTopic
    cases online : g.persistent.isMqttOnline with
    | false =>
      rw [addWillPart_offline online]
      exact (Settles.refl idle).send
    | true =>
      rw [addWillPart_missing idle online missing]
      exact Settles.settled.send

theorem handleWilltopic_accepted {willTopic : CString} {retain : Bool} {qos : UInt8} (idle : g.persistent.Idle)
    (found : g.store.slotOfAddress address = some n) (accepted : g.WilltopicAccepted n willTopic retain qos) :
    g.Settles ((g.store.setFiles n fun files => files.setWilltopic willTopic retain qos).setEntry n fun entry =>
      { entry with awaitMessage := .willmsg }) (g.handleWilltopic address willTopic retain qos) := by
  obtain ⟨filled, online, awaited⟩ := accepted
  have added := addWillPart_awaited (fun p => p.setClientWilltopic willTopic qos retain) idle online found awaited
    (by decide) (setClientWilltopic_inside g.persistent g.store n willTopic retain qos)
  unfold handleWilltopic addWillTopic
  rw [if_neg (by simpa using filled), added]
  simp only
  have selected : (g.settled (g.store.setFiles n fun files => files.setWilltopic willTopic retain qos)
      (g.store.nthClient n)).store.slotOfAddress address = some n := found
  rw [awaitMessage_found idle_settled selected]
  exact (Settles.settled.trans Settles.settled).send

theorem handleWilltopic_deleting {willTopic : CString} {retain : Bool} {qos : UInt8} (idle : g.persistent.Idle)
    (found : g.store.slotOfAddress address = some n) (deleting : willTopic.length = 0 ∧ qos = 0 ∧ retain = false) :
    g.Settles (g.store.setFiles n fun files => files.removeWill g.persistent.sd (g.store.nthClient n).fileNumber)
      (g.handleWilltopic address willTopic retain qos) := by
  unfold handleWilltopic
  rw [if_pos (by simpa [and_assoc] using deleting)]
  exact removeWill_found idle found

theorem handleWilltopic_rejected {willTopic : CString} {retain : Bool} {qos : UInt8} (idle : g.persistent.Idle)
    (found : g.store.slotOfAddress address = some n) (filled : ¬ (willTopic.length = 0 ∧ qos = 0 ∧ retain = false))
    (rejected : ¬ g.WilltopicAccepted n willTopic retain qos) :
    g.Settles g.store (g.handleWilltopic address willTopic retain qos) := by
  unfold handleWilltopic
  rw [if_neg (by simpa [and_assoc] using filled)]
  unfold addWillTopic
  cases online : g.persistent.isMqttOnline with
  | false =>
    rw [addWillPart_offline online]
    exact (Settles.refl idle).send
  | true =>
    have other : (g.store.nthClient n).awaitMessage ≠ .willtopic :=
      fun awaited => rejected ⟨filled, online, awaited⟩
    rw [addWillPart_unawaited idle online found other]
    exact Settles.settled.send

theorem handleWillmsg_missing {willMsg : List UInt8} (idle : g.persistent.Idle)
    (missing : g.store.slotOfAddress address = none) : g.Settles g.store (g.handleWillmsg address willMsg) := by
  unfold handleWillmsg addWillMsg
  cases online : g.persistent.isMqttOnline with
  | false =>
    rw [addWillPart_offline online]
    exact (Settles.refl idle).send
  | true =>
    rw [addWillPart_missing idle online missing]
    exact Settles.settled.send

/-- The awaited message stays as it is when the will message is stored. -/
theorem handleWillmsg_accepted {willMsg : List UInt8} (idle : g.persistent.Idle)
    (found : g.store.slotOfAddress address = some n) (accepted : g.WillmsgAccepted n) :
    g.Settles (g.store.setFiles n fun files => files.setWillmessage willMsg) (g.handleWillmsg address willMsg) := by
  unfold handleWillmsg addWillMsg
  rw [addWillPart_awaited (fun p => p.setClientWillmessage willMsg) idle accepted.1 found accepted.2 (by decide)
    (setClientWillmessage_inside g.persistent g.store n willMsg)]
  exact Settles.settled.send

theorem handleWillmsg_rejected {willMsg : List UInt8} (idle : g.persistent.Idle)
    (found : g.store.slotOfAddress address = some n) (rejected : ¬ g.WillmsgAccepted n) :
    g.Settles g.store (g.handleWillmsg address willMsg) := by
  unfold handleWillmsg addWillMsg
  cases online : g.persistent.isMqttOnline with
  | false =>
    rw [addWillPart_offline online]
    exact (Settles.refl idle).send
  | true =>
    rw [addWillPart_unawaited idle online found fun awaited => rejected ⟨online, awaited⟩]
    exact Settles.settled.send

end Wills

section Publishes

/-- `notify_puback_arrived` treats the four known return codes alike. -/
def KnownReturnCode (returnCode : UInt8) : Prop :=
  returnCode = ReturnCode.accepted ∨ returnCode = ReturnCode.rejectedCongestion ∨
    returnCode = ReturnCode.rejectedInvalidTopicId ∨ returnCode = ReturnCode.rejectedNotSupported

instance (returnCode : UInt8) : Decidable (KnownReturnCode returnCode) := inferInstanceAs (Decidable (_ ∨ _))

def pubackQueue (pub : List EntryPublish) (msgId : UInt16) : List EntryPublish :=
  match pub.findIdx? fun entry => entry.msgId = msgId with
  | some entryNumber => zeroHalfwordAt pub (entryNumber * 2)
  | none => pub

theorem length_pubackQueue {pub : List EntryPublish} {msgId : UInt16} :
    (pubackQueue pub msgId).length = pub.length := by
  unfold pubackQueue zeroHalfwordAt
  split
  · rw [List.length_modify]
  · rfl

theorem removePublishByMsgId_inside {p : Persistent} {s : Store} {msgId : UInt16} :
    (p.inside s (s.nthClient n) false false).removePublishByMsgId msgId =
      p.inside (s.setFiles n fun files => { files with pub := pubackQueue files.pub msgId }) (s.nthClient n) false
        (msgId = 0) := by
  -- The scan and the write go on after message id 0 has raised the error.
  have scanned : ∀ failed,
      (match (s.files (s.nthClient n).fileNumber).pub.findIdx? fun entry => entry.msgId = msgId with
        | some entryNumber => (p.inside s (s.nthClient n) false failed).modifyFiles fun files =>
            { files with pub := zeroHalfwordAt files.pub (entryNumber * 2) }
        | none => p.inside s (s.nthClient n) false failed) =
      p.inside (s.setFiles n fun files => { files with pub := pubackQueue files.pub msgId }) (s.nthClient n) false
        failed := by
    intro failed
    unfold Store.setFiles
    cases scan : (s.files (s.nthClient n).fileNumber).pub.findIdx? fun entry => entry.msgId = msgId with
    | some k =>
      simp only [modifyFiles_inside]
      rw [Store.modifyFiles_congr]
      simp only [pubackQueue, scan]
    | none =>
      simp only
      rw [Store.modifyFiles_id]
      simp only [pubackQueue, scan]
  unfold removePublishByMsgId
  rw [if_pos (by rfl)]
  by_cases zero : msgId = 0
  · simp only [zero, decide_true, if_true]
    rw [← zero]
    exact scanned true
  · simp only [zero, decide_false, if_false]
    exact scanned false

theorem handlePuback_settles {msgId topicId : UInt16} {returnCode : UInt8} {s : Store}
    (settles : g.Settles s (g.notifyPubackArrived address msgId topicId returnCode).2) :
    g.Settles s (g.handlePuback address msgId topicId returnCode) := by
  unfold handlePuback
  generalize g.notifyPubackArrived address msgId topicId returnCode = outcome at settles ⊢
  obtain ⟨result, after⟩ := outcome
  cases result with
  | success => exact settles
  | _ => exact settles.send

theorem handlePuback_missing {msgId topicId : UInt16} {returnCode : UInt8} (idle : g.persistent.Idle)
    (missing : g.store.slotOfAddress address = none) :
    g.Settles g.store (g.handlePuback address msgId topicId returnCode) := by
  apply handlePuback_settles
  unfold notifyPubackArrived
  split
  · rw [transaction_missing (fun p => p.removePublishByMsgId msgId) idle missing rfl]
    exact Settles.settled
  · rw [transaction_missing (fun p => p) idle missing rfl]
    exact Settles.settled

/-- What the handler does with a PUBACK of a known client: only the message id it is given counts. -/
theorem handlePuback_found {msgId topicId : UInt16} {returnCode : UInt8} (idle : g.persistent.Idle)
    (found : g.store.slotOfAddress address = some n) :
    g.Settles
      (if KnownReturnCode returnCode then
        g.store.setFiles n fun files => { files with pub := pubackQueue files.pub msgId }
      else g.store)
      (g.handlePuback address msgId topicId returnCode) := by
  apply handlePuback_settles
  unfold notifyPubackArrived
  by_cases known : KnownReturnCode returnCode
  · rw [if_pos known, if_pos (by simpa [KnownReturnCode, or_assoc] using known)]
    rw [transaction_found (fun p => p.removePublishByMsgId msgId) idle found removePublishByMsgId_inside]
    exact Settles.settled
  · rw [if_neg known, if_neg (by simpa [KnownReturnCode, or_assoc] using known)]
    rw [transaction_found (fun p => p) idle found rfl]
    exact Settles.settled

end Publishes

end Gateway

end MqttSnGateway
