import MqttSnGateway.Requests
import MqttSnGateway.Core.Touched
import MqttSnGateway.Core.TopicSpecs

namespace MqttSnGateway

open Persistent Store

/-- The requests that change nothing but the entry, the will and the messages of their sender's client. -/
def Request.touching : Request → Bool
  | .connect .. | .register .. | .subscribe .. | .subscribeByName .. | .unsubscribe .. | .unsubscribeByName .. => false
  | _ => true

theorem EntryPublish.publishId_zeroHalfword {entry : EntryPublish} {offset : Nat}
    (used : (entry.zeroHalfword offset).publishId ≠ 0) : (entry.zeroHalfword offset).publishId = entry.publishId := by
  unfold EntryPublish.zeroHalfword at used ⊢
  split_ifs at used ⊢
  all_goals first | rfl | exact absurd rfl used

namespace Gateway

variable {g after : Gateway} {address : DeviceAddress} {n : Nat}

theorem keepsTables_puback (msgId : UInt16) : KeepsTables fun files => { files with pub := pubackQueue files.pub msgId } where
  reg := fun _ => rfl
  sub := fun _ => rfl
  pub := fun _ => length_pubackQueue
  ids := by
    intro files n entry found used
    simp only at found
    unfold pubackQueue at found
    split at found
    · exact (keepsTables_modify fun _ => EntryPublish.publishId_zeroHalfword).ids files n entry found used
    · exact ⟨entry, found, rfl⟩

theorem keeps_status {status : ClientStatus} (used : status ≠ .empty) :
    Keeps fun entry => { entry with clientStatus := status } := fun _ _ => same_status used

/-- The store after a request that touches its sender's client only. -/
inductive Acts (g : Gateway) (address : DeviceAddress) : Request → Store → Prop
  | unknown {request : Request} (missing : g.store.slotOfAddress address = none) : Acts g address request g.store
  | willtopic {n : Nat} {willTopic : CString} {retain : Bool} {qos : UInt8}
    (found : g.store.slotOfAddress address = some n) (accepted : g.WilltopicAccepted n willTopic retain qos) :
    Acts g address (.willtopic willTopic retain qos)
      ((g.store.setFiles n fun files => files.setWilltopic willTopic retain qos).setEntry n fun entry =>
        { entry with awaitMessage := .willmsg })
  | willDeleted {n : Nat} {willTopic : CString} {retain : Bool} {qos : UInt8}
    (found : g.store.slotOfAddress address = some n) (deleting : willTopic.length = 0 ∧ qos = 0 ∧ retain = false) :
    Acts g address (.willtopic willTopic retain qos)
      (g.store.setFiles n fun files => files.removeWill g.persistent.sd (g.store.nthClient n).fileNumber)
  | willtopicRejected {n : Nat} {willTopic : CString} {retain : Bool} {qos : UInt8}
    (found : g.store.slotOfAddress address = some n) (filled : ¬ (willTopic.length = 0 ∧ qos = 0 ∧ retain = false))
    (rejected : ¬ g.WilltopicAccepted n willTopic retain qos) : Acts g address (.willtopic willTopic retain qos) g.store
  | willmsg {n : Nat} {willMsg : List UInt8} (found : g.store.slotOfAddress address = some n)
    (accepted : g.WillmsgAccepted n) :
    Acts g address (.willmsg willMsg) (g.store.setFiles n fun files => files.setWillmessage willMsg)
  | willmsgRejected {n : Nat} {willMsg : List UInt8} (found : g.store.slotOfAddress address = some n)
    (rejected : ¬ g.WillmsgAccepted n) : Acts g address (.willmsg willMsg) g.store
  | regack {n : Nat} {topicId msgId : UInt16} {returnCode : UInt8} (found : g.store.slotOfAddress address = some n)
    (awaited : Regacks (g.store.nthClient n) msgId)
    (counts : returnCode = ReturnCode.accepted ∨ returnCode = ReturnCode.rejectedCongestion) :
    Acts g address (.regack topicId msgId returnCode)
      (g.store.setEntry n fun entry => { entry with awaitMessage := .pingreq })
  | regackRejected {n : Nat} {topicId msgId : UInt16} {returnCode : UInt8}
    (found : g.store.slotOfAddress address = some n)
    (rejected : ¬ (Regacks (g.store.nthClient n) msgId ∧
      (returnCode = ReturnCode.accepted ∨ returnCode = ReturnCode.rejectedCongestion))) :
    Acts g address (.regack topicId msgId returnCode) g.store
  | publish {data : List UInt8} {msgId topicId : UInt16} {shortTopic retain : Bool} {qos : Int} {twice : Bool} :
    Acts g address (.publish data msgId topicId shortTopic retain qos twice) g.store
  | publishAwaiting {n : Nat} {data : List UInt8} {msgId topicId : UInt16} {shortTopic retain : Bool} {qos : Int}
    {twice : Bool} (found : g.store.slotOfAddress address = some n) (level : qos ≠ -1 ∧ qos ≠ 0 ∧ qos ≠ 1) :
    Acts g address (.publish data msgId topicId shortTopic retain qos twice)
      (g.store.setEntry n fun entry => { entry with awaitMessage := .pubrel })
  | puback {n : Nat} {msgId topicId : UInt16} {returnCode : UInt8} (found : g.store.slotOfAddress address = some n)
    (known : KnownReturnCode returnCode) :
    Acts g address (.puback msgId topicId returnCode)
      (g.store.setFiles n fun files => { files with pub := pubackQueue files.pub msgId })
  | pubackRejected {n : Nat} {msgId topicId : UInt16} {returnCode : UInt8}
    (found : g.store.slotOfAddress address = some n) (unknown : ¬ KnownReturnCode returnCode) :
    Acts g address (.puback msgId topicId returnCode) g.store
  | pubrel : Acts g address .pubrel g.store
  | pingreq : Acts g address .pingreq g.store
  | awake {n : Nat} {clientId : CString} (found : g.store.slotOfAddress address = some n) :
    Acts g address (.pingreqWithId clientId) (g.store.setEntry n fun entry => { entry with clientStatus := .awake })
  | disconnected {n : Nat} (found : g.store.slotOfAddress address = some n) :
    Acts g address .disconnect (g.store.setEntry n fun entry => { entry with clientStatus := .disconnected })
  | asleep {n : Nat} {duration : UInt16} (found : g.store.slotOfAddress address = some n)
    (online : g.persistent.isMqttOnline = true) :
    Acts g address (.disconnectWithDuration duration)
      (g.store.setEntry n fun entry => { entry with clientStatus := .asleep })
  | asleepRejected {duration : UInt16} (offline : g.persistent.isMqttOnline = false) :
    Acts g address (.disconnectWithDuration duration) g.store
  | ignored : Acts g address .ignored g.store

section Handlers

theorem handleWilltopic_acts {willTopic : CString} {retain : Bool} {qos : UInt8} (idle : g.persistent.Idle) :
    ∃ s, Acts g address (.willtopic willTopic retain qos) s ∧
      g.Settles s (g.handleWilltopic address willTopic retain qos) := by
  cases selection : g.store.slotOfAddress address with
  | none => exact ⟨_, .unknown selection, handleWilltopic_missing idle selection⟩
  | some n =>
    by_cases deleting : willTopic.length = 0 ∧ qos = 0 ∧ retain = false
    · exact ⟨_, .willDeleted selection deleting, handleWilltopic_deleting idle selection deleting⟩
    · by_cases accepted : g.WilltopicAccepted n willTopic retain qos
      · exact ⟨_, .willtopic selection accepted, handleWilltopic_accepted idle selection accepted⟩
      · exact ⟨_, .willtopicRejected selection deleting accepted,
          handleWilltopic_rejected idle selection deleting accepted⟩

theorem handleWillmsg_acts {willMsg : List UInt8} (idle : g.persistent.Idle) :
    ∃ s, Acts g address (.willmsg willMsg) s ∧ g.Settles s (g.handleWillmsg address willMsg) := by
  cases selection : g.store.slotOfAddress address with
  | none => exact ⟨_, .unknown selection, handleWillmsg_missing idle selection⟩
  | some n =>
    by_cases accepted : g.WillmsgAccepted n
    · exact ⟨_, .willmsg selection accepted, handleWillmsg_accepted idle selection accepted⟩
    · exact ⟨_, .willmsgRejected selection accepted, handleWillmsg_rejected idle selection accepted⟩

theorem handleRegack_acts {topicId msgId : UInt16} {returnCode : UInt8} (idle : g.persistent.Idle) :
    ∃ s, Acts g address (.regack topicId msgId returnCode) s ∧
      g.Settles s (g.handleRegack address topicId msgId returnCode) := by
  cases selection : g.store.slotOfAddress address with
  | none => exact ⟨_, .unknown selection, handleRegack_settles (notifyRegackArrived_missing idle selection)⟩
  | some n =>
    have settles : g.Settles _ (g.handleRegack address topicId msgId returnCode) :=
      handleRegack_settles (notifyRegackArrived_found idle selection)
    split at settles
    · rename_i effective
      exact ⟨_, .regack selection effective.1 effective.2, settles⟩
    · rename_i rejected
      exact ⟨_, .regackRejected selection rejected, settles⟩

theorem handlePuback_acts {msgId topicId : UInt16} {returnCode : UInt8} (idle : g.persistent.Idle) :
    ∃ s, Acts g address (.puback msgId topicId returnCode) s ∧
      g.Settles s (g.handlePuback address msgId topicId returnCode) := by
  cases selection : g.store.slotOfAddress address with
  | none => exact ⟨_, .unknown selection, handlePuback_missing idle selection⟩
  | some n =>
    have settles : g.Settles _ (g.handlePuback address msgId topicId returnCode) := handlePuback_found idle selection
    split at settles
    · rename_i known
      exact ⟨_, .puback selection known, settles⟩
    · rename_i unknown
      exact ⟨_, .pubackRejected selection unknown, settles⟩

/-- A PUBLISH leaves the store as it is or makes the client that its address selects await PUBREL. -/
inductive Published (g : Gateway) (address : DeviceAddress) (qos : Int) : Store → Prop
  | kept : Published g address qos g.store
  | awaiting (level : qos ≠ -1 ∧ qos ≠ 0 ∧ qos ≠ 1) :
    Published g address qos (g.store.updateAt address fun entry => { entry with awaitMessage := .pubrel })

theorem handlePublish_published (address : DeviceAddress) (data : List UInt8) (msgId topicId : UInt16)
    (shortTopic retain : Bool) (qos : Int) (idle : g.persistent.Idle) :
    ∃ s, Published g address qos s ∧
      g.Settles s (handlePublish pahoMqttMessageHandler g address data msgId topicId shortTopic retain qos) := by
  rcases handlePublish_settles idle with settles | ⟨lowest, low, middle, settles⟩
  · exact ⟨_, .kept, settles⟩
  · exact ⟨_, .awaiting ⟨lowest, low, middle⟩, settles⟩

theorem Published.again {qos : Int} {s s' : Store} (first : Published g address qos s) (ok : g.store.SlotsOk)
    (nonzero : address ≠ .zero) (settles : g.Settles s after) (second : Published after address qos s') :
    Published g address qos s' := by
  have store := settles.store
  cases first with
  | kept =>
    cases second with
    | kept => rw [store]; exact .kept
    | awaiting level => rw [store]; exact .awaiting level
  | awaiting level =>
    cases second with
    | kept => rw [store]; exact .awaiting level
    | awaiting _ =>
      rw [store, ok.updateAt_updateAt nonzero (keeps_await .pubrel)]
      exact .awaiting level

theorem Published.acts {data : List UInt8} {msgId topicId : UInt16} {shortTopic retain : Bool} {qos : Int} {twice : Bool}
    {s : Store} (published : Published g address qos s) :
    Acts g address (.publish data msgId topicId shortTopic retain qos twice) s := by
  cases published with
  | kept => exact .publish
  | awaiting level =>
    cases selection : g.store.slotOfAddress address with
    | none =>
      rw [updateAt_missing selection]
      exact .publish
    | some n =>
      rw [updateAt_found selection]
      exact .publishAwaiting selection level

theorem handle_acts {request : Request} (idle : g.persistent.Idle) (ok : g.store.SlotsOk) (nonzero : address ≠ .zero)
    (touching : request.touching = true) (handled : handle pahoMqttMessageHandler g address request = some after) :
    ∃ s, Acts g address request s ∧ g.Settles s after := by
  cases request with
  | willtopic willTopic retain qos =>
    cases handled
    exact handleWilltopic_acts idle
  | willmsg willMsg =>
    cases handled
    exact handleWillmsg_acts idle
  | regack topicId msgId returnCode =>
    cases handled
    exact handleRegack_acts idle
  | publish data msgId topicId shortTopic retain qos twice =>
    cases handled
    obtain ⟨s, published, settles⟩ := handlePublish_published address data msgId topicId shortTopic retain qos idle
    cases twice with
    | false => exact ⟨s, published.acts, settles⟩
    | true =>
      obtain ⟨s', again, settles'⟩ :=
        handlePublish_published address data msgId topicId shortTopic retain qos settles.idle
      exact ⟨s', (published.again ok nonzero settles again).acts, settles.trans settles'⟩
  | puback msgId topicId returnCode =>
    cases handled
    exact handlePuback_acts idle
  | pubrel =>
    cases handled
    exact ⟨_, .pubrel, Settles.refl idle⟩
  | pingreq =>
    cases handled
    exact ⟨_, .pingreq, handlePingreq_settles idle⟩
  | pingreqWithId clientId =>
    cases handled
    have settles : g.Settles _ (g.handlePingreqWithId address clientId) := handlePingreqWithId_settles idle
    cases selection : g.store.slotOfAddress address with
    | none =>
      rw [updateAt_missing selection] at settles
      exact ⟨_, .unknown selection, settles⟩
    | some n =>
      rw [updateAt_found selection] at settles
      exact ⟨_, .awake selection, settles⟩
  | disconnect =>
    cases handled
    have settles : g.Settles _ (g.handleDisconnect address) := handleDisconnect_settles idle
    cases selection : g.store.slotOfAddress address with
    | none =>
      rw [updateAt_missing selection] at settles
      exact ⟨_, .unknown selection, settles⟩
    | some n =>
      rw [updateAt_found selection] at settles
      exact ⟨_, .disconnected selection, settles⟩
  | disconnectWithDuration duration =>
    cases handled
    have settles : g.Settles _ (g.handleDisconnectWithDuration address duration) :=
      handleDisconnectWithDuration_settles idle
    cases online : g.persistent.isMqttOnline with
    | false =>
      rw [if_neg (by simp [online])] at settles
      exact ⟨_, .asleepRejected online, settles⟩
    | true =>
      rw [if_pos online] at settles
      cases selection : g.store.slotOfAddress address with
      | none =>
        rw [updateAt_missing selection] at settles
        exact ⟨_, .unknown selection, settles⟩
      | some n =>
        rw [updateAt_found selection] at settles
        exact ⟨_, .asleep selection online, settles⟩
  | ignored =>
    cases handled
    exact ⟨_, .ignored, Settles.refl idle⟩
  | connect _ _ _ _ => cases touching
  | register _ _ => cases touching
  | subscribe _ _ _ _ => cases touching
  | subscribeByName _ _ _ => cases touching
  | unsubscribe _ _ _ => cases touching
  | unsubscribeByName _ _ => cases touching

end Handlers

section Touched

theorem Touched.setEntry {s : Store} {f : EntryClient → EntryClient} (keeps : Keeps f)
    (found : s.slotOfAddress address = some n) : Touched address s (s.setEntry n f) := by
  rw [← updateAt_found found]
  exact Touched.refl.entry keeps

theorem Touched.setFiles {s : Store} {h : ClientFiles → ClientFiles} (keeps : KeepsTables h)
    (found : s.slotOfAddress address = some n) : Touched address s (s.setFiles n h) := by
  rw [← filesAt_found found]
  exact Touched.refl.files keeps

theorem Acts.touched {request : Request} {s : Store} (acts : Acts g address request s) : Touched address g.store s := by
  cases acts with
  | willtopic found _ =>
    exact (Touched.setFiles ClientFiles.keepsTables_setWilltopic found).trans
      (Touched.setEntry (keeps_await .willmsg) found)
  | willDeleted found _ => exact Touched.setFiles ClientFiles.keepsTables_removeWill found
  | willmsg found _ => exact Touched.setFiles ClientFiles.keepsTables_setWillmessage found
  | regack found _ _ => exact Touched.setEntry (keeps_await .pingreq) found
  | publishAwaiting found _ => exact Touched.setEntry (keeps_await .pubrel) found
  | @puback _ msgId _ _ found _ => exact Touched.setFiles (keepsTables_puback msgId) found
  | awake found => exact Touched.setEntry (keeps_status (by simp)) found
  | disconnected found => exact Touched.setEntry (keeps_status (by simp)) found
  | asleep found _ => exact Touched.setEntry (keeps_status (by simp)) found
  | _ => exact .refl

end Touched

end Gateway

end MqttSnGateway
