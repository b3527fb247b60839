import MqttSnGateway.Core.Unshared
import MqttSnGateway.Safety.FreshSession

namespace MqttSnGateway

open Persistent Store

def EntryWill.call (will : EntryWill) : MqttCall := .publish will.willtopic will.payload will.qos will.retain

def Input.flags (input : Input) : UInt8 :=
  match input.event with
  | .datagram _ bytes beyond => byteAt (receiveBuffer bytes beyond) 2
  | _ => 0

/-- What a device has told of its will since its last accepted CONNECT. -/
inductive Testament where
  | nothing
  | topic (willTopic : CString) (qos : UInt8) (retain : Bool)
  | will (willTopic : CString) (qos : UInt8) (retain : Bool) (willMsg : List UInt8)
deriving DecidableEq

namespace Testament

/-- The publishes it asks for when the device is lost. -/
def calls : Testament → List MqttCall
  | .will willTopic qos retain willMsg => [.publish willTopic willMsg qos retain]
  | _ => []

def Stored : Testament → Option EntryWill → Prop
  | .nothing, wil => wil = none
  | .topic willTopic qos retain, wil => ∃ will, wil = some will ∧ will.willtopic = willTopic ∧ will.qos = qos ∧
      will.retain = retain ∧ will.willmsgLength = 0
  | .will willTopic qos retain willMsg, wil => ∃ will, wil = some will ∧
      will.call = .publish willTopic willMsg qos retain ∧ will.willmsgLength ≠ 0

theorem Stored.calls_eq {testament : Testament} {wil : Option EntryWill} (stored : testament.Stored wil)
    (complete : ∀ will, wil = some will → will.willmsgLength ≠ 0) : wil.toList.map EntryWill.call = testament.calls := by
  cases testament with
  | nothing =>
    have none_left : wil = none := stored
    rw [none_left]
    rfl
  | topic _ _ _ =>
    obtain ⟨will, here, _, _, _, short⟩ := stored
    exact absurd short (complete will here)
  | will _ _ _ _ =>
    obtain ⟨will, here, same, _⟩ := stored
    rw [here]
    simp only [Option.toList_some, List.map_cons, List.map_nil, same]
    rfl

/-- The client that the address selects has been asked for this answer, and MQTT is online. -/
def asked (g : Gateway) (address : DeviceAddress) (type : MessageType) : Bool :=
  g.persistent.isMqttOnline && (g.store.slotOfAddress address).any fun n => (g.store.nthClient n).awaitMessage = type

/-- The testament after a request of the device; a WILLTOPIC and a WILLMSG count if the device was asked for them.
    The flags are read as `msg_willtopic` encodes them. -/
def hear (g : Gateway) (address : DeviceAddress) (flags : UInt8) (testament : Testament) : Request → Testament
  | .connect clientId _ _ _ => if g.persistent.isMqttOnline && clientId.length < 24 then .nothing else testament
  | .willtopic willTopic retain qos =>
    if willTopic.length = 0 ∧ qos = 0 ∧ retain = false then .nothing
    else if asked g address .willtopic then .topic willTopic (UInt8.ofInt (Flag.qos flags)) (Flag.any flags Flag.retain)
    else testament
  | .willmsg willMsg =>
    if asked g address .willmsg then
      match testament with
      | .topic willTopic qos retain => .will willTopic qos retain willMsg
      | other => other
    else testament
  | _ => testament

theorem hear_connect {g : Gateway} {address : DeviceAddress} {flags : UInt8} {testament : Testament} {clientId : CString}
    {duration : UInt16} {will clean : Bool} :
    testament.hear g address flags (.connect clientId duration will clean) =
      if g.persistent.isMqttOnline && clientId.length < 24 then .nothing else testament := rfl

theorem hear_topics {g : Gateway} {address : DeviceAddress} {flags : UInt8} {testament : Testament} {request : Request}
    (topics : request.touching = false)
    (other : ∀ clientId duration will clean, request ≠ .connect clientId duration will clean) :
    testament.hear g address flags request = testament := by
  cases request with
  | connect clientId duration will clean => exact absurd rfl (other clientId duration will clean)
  | willtopic _ _ _ => cases topics
  | willmsg _ => cases topics
  | _ => rfl

theorem asked_eq {g : Gateway} {address : DeviceAddress} {n : Nat} {type : MessageType}
    (found : g.store.slotOfAddress address = some n) :
    asked g address type = true ↔ g.persistent.isMqttOnline = true ∧ (g.store.nthClient n).awaitMessage = type := by
  unfold asked
  rw [found]
  simp

end Testament

namespace Request

def Parsed (memory : List UInt8) : Request → Prop
  | .willtopic willTopic retain qos => willTopic.length < 255 ∧ retain = Flag.any (byteAt memory 2) Flag.will ∧
      qos = UInt8.ofInt (Flag.qos (byteAt memory 2))
  | .willmsg willMsg => willMsg.length ≠ 0 ∧ willMsg.length < 256
  | _ => True

theorem parsed_ofMemory {memory : List UInt8} (long : 255 ≤ memory.length) : (ofMemory memory).Parsed memory := by
  have bound := (byteAt memory 0).toNat_lt
  unfold ofMemory
  split
  · trivial
  · split
    case h_3 =>
      simp only [ofWilltopic]
      split
      · rename_i filled
        simp only [Bool.and_eq_true, decide_eq_true_eq] at filled
        exact ⟨by omega, rfl, rfl⟩
      · trivial
    case h_4 =>
      split
      · rename_i filled
        rw [UInt8.lt_iff_toNat_lt] at filled
        change 2 < (byteAt memory 0).toNat at filled
        have length : (byteAt memory 0 - 2).toNat = (byteAt memory 0).toNat - 2 :=
          UInt8.toNat_sub_of_le _ _ (by rw [UInt8.le_iff_toNat_le]; change 2 ≤ _; omega)
        change (bytesAt memory 2 (byteAt memory 0 - 2).toNat).length ≠ 0 ∧
          (bytesAt memory 2 (byteAt memory 0 - 2).toNat).length < 256
        unfold bytesAt
        rw [length, List.length_take, List.length_drop]
        omega
      · trivial
    all_goals try simp only [ofPingreq, ofConnect, ofRegister, ofPublish, ofSubscribe, ofUnsubscribe, ofDisconnect]
    all_goals
      repeat' split
      all_goals trivial

end Request

namespace Store

variable {s s' s'' : Store} {address : DeviceAddress} {f : EntryClient → EntryClient} {h : ClientFiles → ClientFiles}
  {n i : Nat}

/-- The client in slot `i` of the second store was in the first, with the same will, and has not been asked for a
    will topic since. -/
structure SameWill (s s' : Store) (i : Nat) : Prop where
  registered : (s.nthClient i).clientStatus ≠ .empty
  clientAddress : (s'.nthClient i).clientAddress = (s.nthClient i).clientAddress
  wil : (s'.files (fileNumber i)).wil = (s.files (fileNumber i)).wil
  unasked : (s'.nthClient i).awaitMessage = .willtopic → (s.nthClient i).awaitMessage = .willtopic

/-- Every client has the will that it had before. -/
def KeepsWills (s s' : Store) : Prop := ∀ i, (s'.nthClient i).clientStatus ≠ .empty → SameWill s s' i

theorem KeepsWills.trans (first : KeepsWills s s') (second : KeepsWills s' s'') : KeepsWills s s'' := by
  intro i registered
  have last := second i registered
  have before := first i last.registered
  exact ⟨before.registered, last.clientAddress.trans before.clientAddress, last.wil.trans before.wil,
    fun asked => before.unasked (last.unasked asked)⟩

theorem KeepsWills.of_entries (entries : ∀ i, s'.nthClient i = s.nthClient i)
    (wil : ∀ number, (s'.files number).wil = (s.files number).wil) : KeepsWills s s' := by
  intro i registered
  rw [entries] at registered
  exact ⟨registered, by rw [entries], wil _, by rw [entries]; exact id⟩

theorem KeepsWills.refl : KeepsWills s s := .of_entries (fun _ => rfl) fun _ => rfl

theorem KeepsWills.setFiles (same : ∀ files, (h files).wil = files.wil) : KeepsWills s (s.setFiles n h) := by
  refine .of_entries (fun _ => rfl) fun number => ?_
  unfold Store.setFiles
  rw [files_modifyFiles]
  split
  · rename_i here
    rw [here, same]
  · rfl

theorem KeepsWills.setEntry (regular : s.Regular) (ok : s.SlotsOk) (registered : (s.nthClient n).clientStatus ≠ .empty)
    (address : ∀ entry, (f entry).clientAddress = entry.clientAddress)
    (unasked : ∀ entry, (f entry).awaitMessage = .willtopic → entry.awaitMessage = .willtopic) :
    KeepsWills s (s.setEntry n f) := by
  intro i kept
  by_cases here : i = n
  · subst here
    refine ⟨registered, ?_, rfl, ?_⟩
    · rw [regular.nthClient_setEntry ok registered, if_pos rfl, address]
    · rw [regular.nthClient_setEntry ok registered, if_pos rfl]
      exact unasked _
  · rw [regular.nthClient_setEntry ok registered, if_neg here] at kept
    refine ⟨kept, ?_, rfl, ?_⟩
    · rw [regular.nthClient_setEntry ok registered, if_neg here]
    · rw [regular.nthClient_setEntry ok registered, if_neg here]
      exact id

theorem KeepsWills.updateAt (regular : s.Regular) (ok : s.SlotsOk) (nonzero : address ≠ .zero)
    (kept : ∀ entry, (f entry).clientAddress = entry.clientAddress)
    (unasked : ∀ entry, (f entry).awaitMessage = .willtopic → entry.awaitMessage = .willtopic) :
    KeepsWills s (s.updateAt address f) := by
  cases selection : s.slotOfAddress address with
  | none =>
    rw [updateAt_missing selection]
    exact .refl
  | some n =>
    rw [updateAt_found selection]
    exact .setEntry regular ok (ok.registered_of_slotOfAddress nonzero selection) kept unasked

end Store

namespace Gateway

variable {g after : Gateway} {address : DeviceAddress} {n i : Nat} {told : DeviceAddress → Testament} {number : CString}

def publishes (g : Gateway) : List MqttCall := g.calls.filter MqttCall.isPublish

section Publishes

theorem calls_isTopicKnown (g : Gateway) (topicId : UInt16) : (g.isTopicKnown topicId).2.calls = g.calls := by
  unfold isTopicKnown
  split <;> rfl

theorem calls_handleClientPublishes (status : ClientStatus) (address : DeviceAddress) (g : Gateway) :
    (handleClientPublishes status address g).calls = g.calls := by
  have started : (g.startClientTransaction address).calls = g.calls := rfl
  unfold handleClientPublishes
  split
  · simp only
    split
    · have read := calls_isTopicKnown (g.startClientTransaction address)
        ((g.startClientTransaction address).persistent.getNextPublish.getD .zero).topicId
      rw [started] at read
      rw [← read]
      generalize (g.startClientTransaction address).isTopicKnown _ = answer
      split
      · split
        · rfl
        · split
          · rw [calls_send]
            rfl
          · rfl
      · split
        · split
          · rw [calls_send]
            rfl
          · rfl
        · split
          · split
            · rw [calls_send]
              rfl
            · rfl
          · rfl
    · rfl
  · rfl

theorem calls_drain (drains : Bool) (status : ClientStatus) (notice : SnMessage) (address : DeviceAddress) (g : Gateway) :
    (drain drains status notice address g).calls = g.calls := by
  unfold drain
  simp only
  split
  · split
    · rw [calls_send]
      rfl
    · rfl
  · rfl

theorem Removal.publishes {s s' : Store} {g' : Gateway} (removal : Removal number g s g' s') :
    g'.publishes = g.publishes := by
  induction removal with
  | refl => rfl
  | @round g' s' i record _ _ _ ih =>
    rw [← ih]
    unfold afterRemoval pahoMqttMessageHandler Gateway.publishes
    simp only
    split
    · split
      · simp [call, MqttCall.isPublish]
      · simp only [call, request]
        cases g'.isConnected && g'.answers.headD true <;> simp [MqttCall.isPublish]
    · rfl

/-- A time-out publishes the will of the client that it declares LOST, and nothing else. -/
theorem handleTimeout_publishes {slot : EntryClient} {elapsed : UInt32} (idle : g.persistent.Idle) (ok : g.store.Ok)
    (found : g.store.slotOfAddress slot.clientAddress = some n)
    (returned : handleTimeout pahoMqttMessageHandler slot elapsed g = some after) :
    after.publishes = g.publishes ++ if Expires slot elapsed then
      (g.store.files (g.store.nthClient n).fileNumber).wil.toList.map EntryWill.call else [] := by
  by_cases expires : Expires slot elapsed
  · rw [if_pos expires]
    cases willing : (g.store.files (g.store.nthClient n).fileNumber).wil with
    | none =>
      rw [handleTimeout_lost idle found expires willing] at returned
      cases returned
      exact (List.append_nil _).symm
    | some will =>
      rw [handleTimeout_will idle found expires willing] at returned
      obtain ⟨removed, finished, applied⟩ := Option.map_eq_some_iff.mp returned
      unfold removeClientSubscriptions at finished
      obtain ⟨g', s, rfl, removal, _⟩ := removeClientSubscriptionsLoop_removal (by
        rw [files_updateAt]
        exact ok.files _) finished
      have made : (pahoMqttMessageHandler.publish g will.willtopic will.payload will.qos will.retain).2.calls =
          g.calls ++ [will.call] := by
        unfold pahoMqttMessageHandler
        simp only
        split <;> rfl
      have kept : after.publishes = g'.publishes := by
        rw [← applied]
        rfl
      rw [kept, removal.publishes]
      unfold Gateway.publishes
      rw [made, List.filter_append]
      rfl
  · rw [if_neg expires, List.append_nil]
    cases connected : slot.clientStatus.connected with
    | true =>
      rw [handleTimeout_running idle found connected expires] at returned
      cases returned
      rfl
    | false =>
      rw [handleTimeout_disconnected connected] at returned
      cases returned
      rfl

end Publishes

section Visits

variable {drains : Bool} {status : ClientStatus} {notice : SnMessage} {slot : EntryClient} {elapsed : UInt32}

theorem Delivered.keepsWills (delivered : Delivered g address n after) (orderly : g.Orderly)
    (registered : (g.store.nthClient n).clientStatus ≠ .empty) : KeepsWills g.store after.store := by
  have slots := orderly.sound.ok.slots
  cases delivered with
  | nothing settles _ =>
    rw [settles.store]
    exact .refl
  | register _ settles _ =>
    rw [store_send, settles.store]
    exact .setEntry orderly.regular slots registered (fun _ => rfl) fun _ => nofun
  | publish _ _ _ _ settles _ =>
    rw [store_send, settles.store]
    exact .setFiles fun _ => rfl
  | @publishAwaited _ k _ msgId _ _ _ settles _ =>
    let h : ClientFiles → ClientFiles :=
      fun files => { files with pub := files.pub.modify k fun entry => { entry with msgId := msgId } }
    have written : KeepsWills g.store (g.store.setFiles n h) := .setFiles fun _ => rfl
    have kept : (g.store.setFiles n h).SlotsOk := slots.modifyFiles
    rw [store_send, settles.store]
    refine written.trans (.setEntry ?_ kept registered (fun _ => rfl) fun _ => nofun)
    exact orderly.regular

theorem Drained.keepsWills (drained : Drained g drains status notice address after) (orderly : g.Orderly)
    (nonzero : address ≠ .zero) : KeepsWills g.store after.store := by
  cases drained with
  | kept settles _ =>
    rw [settles.store]
    exact .refl
  | changed _ settles _ =>
    rw [store_send, settles.store]
    exact .updateAt orderly.regular orderly.sound.ok.slots nonzero (fun _ => rfl) fun _ => id

theorem TimesOut.keepsWills (timesOut : TimesOut g slot elapsed after) (orderly : g.Orderly)
    (nonzero : slot.clientAddress ≠ .zero) (found : g.store.slotOfAddress slot.clientAddress = some n)
    (erases : ∀ will, Expires slot elapsed → (g.store.files (fileNumber n)).wil = some will →
      g.store.slotOfId slot.clientId = some n) :
    KeepsWills g.store after.store ∧ (Expires slot elapsed → (g.store.files (fileNumber n)).wil ≠ none →
      after.store.nthClient n = .zero) := by
  have slots := orderly.sound.ok.slots
  have registered := slots.registered_of_slotOfAddress nonzero found
  have number : (g.store.nthClient n).fileNumber = fileNumber n := orderly.regular n registered
  have entry : ∀ f : EntryClient → EntryClient, (∀ entry, (f entry).clientAddress = entry.clientAddress) →
      (∀ entry, (f entry).awaitMessage = .willtopic → entry.awaitMessage = .willtopic) →
      KeepsWills g.store (g.store.updateAt slot.clientAddress f) :=
    fun _ kept unasked => .updateAt orderly.regular slots nonzero kept unasked
  cases timesOut with
  | disconnected silent =>
    refine ⟨.refl, fun expires => ?_⟩
    rw [expires.1] at silent
    cases silent
  | running _ running settles _ =>
    rw [settles.store]
    exact ⟨entry _ (fun _ => rfl) fun _ => id, fun expires => absurd expires running⟩
  | @lost m _ selected _ unwilling settles _ =>
    rw [found] at selected
    cases selected
    rw [number] at unwilling
    rw [settles.store]
    exact ⟨entry _ (fun _ => rfl) fun _ => id, fun _ willing => absurd unwilling willing⟩
  | @deleted m will g' s selected expires willing removal _ =>
    rw [found] at selected
    cases selected
    rw [number] at willing removal
    have kept := entry (fun entry => { entry with timeout := slot.timeout + elapsed, clientStatus := .lost }) (fun _ => rfl)
      fun _ => id
    have lost : (g.store.updateAt slot.clientAddress fun entry =>
        { entry with timeout := slot.timeout + elapsed, clientStatus := .lost }).SlotsOk :=
      (orderly.sound.ok.updateAt nonzero (keeps_lost _)).slots
    have erased : s.slotOfId slot.clientId = some n := by
      obtain ⟨inside, here, first⟩ := slots.slotOfId_eq_some.mp (erases will expires willing)
      rw [slotOfId_congr removal.clients]
      have same : ∀ i, ((g.store.updateAt slot.clientAddress fun entry =>
          { entry with timeout := slot.timeout + elapsed, clientStatus := .lost }).nthClient i).clientId =
          (g.store.nthClient i).clientId :=
        fun i => orderly.regular.updateAt_keeps EntryClient.clientId slots nonzero fun _ => rfl
      refine lost.slotOfId_eq_some.mpr ⟨Nat.lt_of_lt_of_le inside length_updateAt, ?_, fun m before => ?_⟩
      · rw [same, here]
      · rw [same]
        exact first m before
    have cleared : ∀ i, (s.deleteClient g.persistent.sd (g.store.nthClient n).fileNumber slot.clientId).nthClient i =
        if i = n then .zero else s.nthClient i := by
      intro i
      rw [nthClient_congr (clients_deleteClient erased), nthClient_writeSlot]
    rw [store_settled]
    refine ⟨kept.trans fun i left => ?_, fun _ _ => ?_⟩
    · rw [cleared] at left
      split at left
      · exact absurd rfl left
      · rename_i other
        have same := removal.nthClient i
        rw [same] at left
        refine ⟨left, ?_, ?_, ?_⟩
        · rw [cleared, if_neg other, same]
        · have different : fileNumber i ≠ fileNumber n := by
            intro same
            have inside := lost.inside left
            have second := slots.inside registered
            exact other (fileNumber_inj (by omega) (by omega) same)
          rw [files_deleteClient, number, if_neg different, removal.files_other different]
        · rw [cleared, if_neg other, same]
          exact id
    · rw [cleared, if_pos rfl]

/-- The will that a visit of the client publishes, if it declares the client LOST. -/
def lastWill (g : Gateway) (round : Round) (n : Nat) : List MqttCall :=
  if round.hasHeartBeaten = true ∧ Expires (g.store.nthClient n) round.elapsedTime then
    (g.store.files (fileNumber n)).wil.toList.map EntryWill.call
  else []

theorem serviceClient_silent {round : Round} (empty : (g.store.nthClient n).clientStatus = .empty)
    (returned : round.body n (g.store.nthClient n) g = some after) : after.publishes = g.publishes := by
  have silent := calls_handleClientPublishes (g.store.nthClient n).clientStatus (g.store.nthClient n).clientAddress
    (g.visiting n)
  have disconnected : (g.store.nthClient n).clientStatus.connected = false := by
    rw [empty]
    rfl
  unfold Round.body at returned
  rw [serviceClient_eq] at returned
  simp only [handleTimeout_disconnected disconnected, ite_self] at returned
  cases returned
  unfold publishes
  rw [calls_drain, silent]
  rfl

theorem publishes_drained (g : Gateway) (round : Round) (n : Nat) : (g.drained round n).publishes = g.publishes := by
  unfold publishes drained delivered
  rw [calls_drain, calls_handleClientPublishes]
  rfl

theorem serviceClient_wills {round : Round} (separate : g.Separate)
    (registered : (g.store.nthClient n).clientStatus ≠ .empty)
    (erases : round.hasHeartBeaten = true → Expires (g.store.nthClient n) round.elapsedTime →
      (g.store.files (fileNumber n)).wil ≠ none → ∀ m < n, (g.store.nthClient m).clientId ≠ (g.store.nthClient n).clientId)
    (returned : round.body n (g.store.nthClient n) g = some after) :
    KeepsWills g.store after.store ∧ after.publishes = g.publishes ++ g.lastWill round n ∧
      (g.lastWill round n ≠ [] → after.store.nthClient n = .zero) := by
  have slots := separate.orderly.sound.ok.slots
  have visit := separate.visit registered returned
  have kept : KeepsWills g.store (g.drained round n).store :=
    (visit.delivers.keepsWills visit.visiting registered).trans (visit.drains.keepsWills visit.first visit.nonzero)
  have still := visit.second.sound.ok.slots.registered_of_slotOfAddress visit.nonzero visit.found
  have wil := (kept n still).wil
  have number : ((g.drained round n).store.nthClient n).fileNumber = fileNumber n := visit.second.regular n still
  have before := publishes_drained g round n
  have timesOut := visit.timesOut
  rw [body_eq] at returned
  unfold lastWill
  cases beaten : round.hasHeartBeaten with
  | false =>
    rw [beaten] at timesOut
    rw [timesOut, if_neg (by simp), before]
    exact ⟨kept, (List.append_nil _).symm, fun more => absurd rfl more⟩
  | true =>
    rw [beaten, if_pos rfl] at returned timesOut
    have published := handleTimeout_publishes visit.second.sound.idle visit.second.sound.ok visit.found returned
    obtain ⟨finally_kept, gone⟩ := timesOut.keepsWills visit.second visit.nonzero visit.found fun will expires willing => by
      rw [wil] at willing
      refine visit.slotOfId still (slots.slotOfId_eq_some.mpr ⟨inside_of_ne_zero ?_, rfl, ?_⟩)
      · intro zero
        rw [zero] at registered
        exact registered rfl
      · exact erases beaten expires (by rw [willing]; simp)
    rw [number, wil, before] at published
    rw [wil] at gone
    simp only [true_and]
    refine ⟨kept.trans finally_kept, published, fun more => ?_⟩
    split at more
    · rename_i expires
      refine gone expires fun none_left => ?_
      rw [none_left] at more
      exact more rfl
    · exact absurd rfl more

end Visits

section Requests

/-- The wills on file are those that the devices have told. -/
def HoldsWills (g : Gateway) (told : DeviceAddress → Testament) : Prop :=
  ∀ n, (g.store.nthClient n).clientStatus ≠ .empty →
    (told (g.store.nthClient n).clientAddress).Stored (g.store.files (fileNumber n)).wil ∧
      ((g.store.nthClient n).awaitMessage = .willtopic → told (g.store.nthClient n).clientAddress = .nothing)

theorem HoldsWills.of_kept (holds : g.HoldsWills told) (kept : KeepsWills g.store after.store) :
    after.HoldsWills told := by
  intro n registered
  have same := kept n registered
  have before := holds n same.registered
  rw [same.clientAddress, same.wil]
  exact ⟨before.1, fun asked => before.2 (same.unasked asked)⟩

/-- What the devices have told after a request of one of them. -/
def retell (g : Gateway) (address : DeviceAddress) (flags : UInt8) (request : Request)
    (told : DeviceAddress → Testament) : DeviceAddress → Testament :=
  Function.update told address ((told address).hear g address flags request)

/-- The request is none of those with which the will on file goes astray: a CONNECT that finds the will of an earlier
    session, a WILLTOPIC with a will bit that is not its retain bit, an empty WILLTOPIC whose file is not removed, and a
    WILLMSG that is not the first after its WILLTOPIC. -/
structure HeedsWill (g : Gateway) (address : DeviceAddress) (flags : UInt8) (request : Request) : Prop where
  fresh : ∀ clientId duration will clean, request = .connect clientId duration will clean →
    g.persistent.isMqttOnline = true → clientId.length < 24 →
    (g.store.files (g.numberGiven clientId clean)).NothingIn .will ∨ g.DeletesOnTheWay clientId clean .will
  retained : ∀ n willTopic retain qos, request = .willtopic willTopic retain qos →
    g.store.slotOfAddress address = some n → g.WilltopicAccepted n willTopic retain qos →
    Flag.any flags Flag.retain = Flag.any flags Flag.will
  deleted : ∀ n willTopic retain qos, request = .willtopic willTopic retain qos →
    g.store.slotOfAddress address = some n → willTopic.length = 0 ∧ qos = 0 ∧ retain = false →
    (g.store.files (fileNumber n)).wil ≠ none →
    g.persistent.sd.removes (filenameWithExtension (fileNumber n) .will) = true
  first : ∀ n willMsg, request = .willmsg willMsg → g.store.slotOfAddress address = some n → g.WillmsgAccepted n →
    ∃ will, (g.store.files (fileNumber n)).wil = some will ∧ will.willmsgLength = 0

theorem asked_iff_accepted {willTopic : CString} {retain : Bool} {qos : UInt8}
    (found : g.store.slotOfAddress address = some n) (filled : ¬ (willTopic.length = 0 ∧ qos = 0 ∧ retain = false)) :
    Testament.asked g address .willtopic = true ↔ g.WilltopicAccepted n willTopic retain qos := by
  rw [Testament.asked_eq found]
  exact ⟨fun awaited => ⟨filled, awaited⟩, fun accepted => accepted.2⟩

/-- A request of a device changes the will on file of its client as it changes what the device has told. -/
theorem Acts.retells {request : Request} {memory : List UInt8} {s : Store} {testament : Testament}
    (acts : Acts g address request s) (orderly : g.Orderly) (found : g.store.slotOfAddress address = some n)
    (registered : (g.store.nthClient n).clientStatus ≠ .empty) (parsed : request.Parsed memory)
    (heeds : g.HeedsWill address (byteAt memory 2) request)
    (stored : testament.Stored (g.store.files (fileNumber n)).wil)
    (unasked : (g.store.nthClient n).awaitMessage = .willtopic → testament = .nothing) :
    (testament.hear g address (byteAt memory 2) request).Stored (s.files (fileNumber n)).wil ∧
      ((s.nthClient n).awaitMessage = .willtopic → testament.hear g address (byteAt memory 2) request = .nothing) := by
  have slots := orderly.sound.ok.slots
  have number : (g.store.nthClient n).fileNumber = fileNumber n := orderly.regular n registered
  have setFiles : ∀ h : ClientFiles → ClientFiles,
      (g.store.setFiles n h).files (fileNumber n) = h (g.store.files (fileNumber n)) := by
    intro h
    unfold Store.setFiles
    rw [number, files_modifyFiles_self]
  have setEntry : ∀ (s : Store) (f : EntryClient → EntryClient), s.clients = g.store.clients →
      (s.setEntry n f).nthClient n = f (g.store.nthClient n) := by
    intro s f clients
    unfold Store.setEntry
    rw [nthClient_congr clients, orderly.regular.slotNumber slots registered, nthClient_writeSlot_self]
  have same : ∀ {m : Nat}, g.store.slotOfAddress address = some m → m = n := by
    intro m other
    rw [found] at other
    exact (Option.some.inj other).symm
  cases acts with
  | unknown missing =>
    rw [found] at missing
    cases missing
  | @willtopic m willTopic retain qos other accepted =>
    cases same other
    obtain ⟨short, bit, level⟩ := parsed
    have none_left : (g.store.files (fileNumber n)).wil = none := by
      rw [unasked accepted.2.2] at stored
      exact stored
    have told : testament.hear g address (byteAt memory 2) (.willtopic willTopic retain qos) =
        .topic willTopic (UInt8.ofInt (Flag.qos (byteAt memory 2))) (Flag.any (byteAt memory 2) Flag.retain) := by
      unfold Testament.hear
      simp only
      rw [if_neg accepted.1, if_pos ((asked_iff_accepted found accepted.1).mpr accepted)]
    rw [told, setEntry (g.store.setFiles n fun files => files.setWilltopic willTopic retain qos) _ rfl]
    refine ⟨⟨{ EntryWill.zero with willtopic := willTopic, qos := qos, retain := retain }, ?_, rfl, level, ?_, rfl⟩, nofun⟩
    · change ((g.store.setFiles n fun files => files.setWilltopic willTopic retain qos).files (fileNumber n)).wil = _
      rw [setFiles]
      unfold ClientFiles.setWilltopic
      rw [if_neg (by omega), none_left]
      rfl
    · rw [heeds.retained n willTopic retain qos rfl found accepted]
      exact bit
  | @willDeleted m willTopic retain qos other deleting =>
    cases same other
    have told : testament.hear g address (byteAt memory 2) (.willtopic willTopic retain qos) = .nothing := by
      unfold Testament.hear
      simp only
      rw [if_pos deleting]
    rw [told, setFiles]
    refine ⟨?_, fun _ => rfl⟩
    unfold ClientFiles.removeWill
    split
    · rfl
    · rename_i left
      by_contra filled
      rw [number] at left
      exact left (heeds.deleted n willTopic retain qos rfl found deleting filled)
  | @willtopicRejected m willTopic retain qos other filled rejected =>
    cases same other
    have told : testament.hear g address (byteAt memory 2) (.willtopic willTopic retain qos) = testament := by
      unfold Testament.hear
      simp only
      rw [if_neg filled, if_neg (fun asked => rejected ((asked_iff_accepted found filled).mp asked))]
    rw [told]
    exact ⟨stored, unasked⟩
  | @willmsg m willMsg other accepted =>
    cases same other
    obtain ⟨will, here, short⟩ := heeds.first n willMsg rfl found accepted
    have asked := (Testament.asked_eq found).mpr accepted
    have awaited : ((g.store.setFiles n fun files => files.setWillmessage willMsg).nthClient n).awaitMessage ≠ .willtopic := by
      rw [show (g.store.setFiles n fun files => files.setWillmessage willMsg).nthClient n = g.store.nthClient n from rfl,
        accepted.2]
      exact nofun
    cases testament with
    | nothing =>
      have none_left : (g.store.files (fileNumber n)).wil = none := stored
      rw [none_left] at here
      cases here
    | will _ _ _ _ =>
      obtain ⟨other, same, _, long⟩ := stored
      rw [here] at same
      cases same
      exact absurd short long
    | topic willTopic qos retain =>
      obtain ⟨other, same, topic, level, bit, _⟩ := stored
      rw [here] at same
      cases same
      have told : (Testament.topic willTopic qos retain).hear g address (byteAt memory 2) (.willmsg willMsg) =
          .will willTopic qos retain willMsg := by
        unfold Testament.hear
        simp only
        rw [if_pos asked]
      have length : (UInt8.ofNat willMsg.length).toNat = willMsg.length := by
        rw [UInt8.toNat_ofNat']
        exact Nat.mod_eq_of_lt parsed.2
      rw [told]
      refine ⟨⟨{ will with willmsg := willMsg, willmsgLength := UInt8.ofNat willMsg.length }, ?_, ?_, ?_⟩,
        fun again => absurd again awaited⟩
      · rw [setFiles]
        unfold ClientFiles.setWillmessage
        rw [here]
        rfl
      · unfold EntryWill.call EntryWill.payload
        rw [topic, level, bit, length, List.take_length]
      · intro zero
        have empty : UInt8.ofNat willMsg.length = 0 := zero
        rw [empty] at length
        exact parsed.1 length.symm
  | @willmsgRejected m willMsg other rejected =>
    cases same other
    have told : testament.hear g address (byteAt memory 2) (.willmsg willMsg) = testament := by
      unfold Testament.hear
      simp only
      rw [if_neg (fun asked => rejected ((Testament.asked_eq found).mp asked))]
    rw [told]
    exact ⟨stored, unasked⟩
  | regack other _ _ =>
    cases same other
    rw [setEntry _ _ rfl]
    exact ⟨stored, nofun⟩
  | publishAwaiting other _ =>
    cases same other
    rw [setEntry _ _ rfl]
    exact ⟨stored, nofun⟩
  | puback other _ =>
    cases same other
    rw [setFiles]
    exact ⟨stored, unasked⟩
  | awake other =>
    cases same other
    rw [setEntry _ _ rfl]
    exact ⟨stored, unasked⟩
  | disconnected other =>
    cases same other
    rw [setEntry _ _ rfl]
    exact ⟨stored, unasked⟩
  | asleep other _ =>
    cases same other
    rw [setEntry _ _ rfl]
    exact ⟨stored, unasked⟩
  | _ => exact ⟨stored, unasked⟩

theorem Acts.holdsWills {request : Request} {memory : List UInt8} {s : Store} (acts : Acts g address request s)
    (settles : g.Settles s after) (separate : g.Separate) (nonzero : address ≠ .zero) (parsed : request.Parsed memory)
    (heeds : g.HeedsWill address (byteAt memory 2) request) (holds : g.HoldsWills told) :
    after.HoldsWills (g.retell address (byteAt memory 2) request told) := by
  have ok := separate.orderly.sound.ok
  have regular := separate.orderly.regular
  have written := acts.touched.actsAt ok regular nonzero
  intro i registered
  rw [settles.store] at registered ⊢
  by_cases selected : g.store.slotOfAddress address = some i
  · have client := written.selected i selected
    have here := (separate.unshared.selected_iff ok.slots nonzero).mp selected
    have before := holds i (ok.slots.registered_of_slotOfAddress nonzero selected)
    rw [here] at before
    rw [client.clientAddress, here]
    unfold retell
    rw [Function.update_self]
    exact acts.retells separate.orderly selected (ok.slots.registered_of_slotOfAddress nonzero selected) parsed heeds
      before.1 before.2
  · have entry := written.entries i selected
    rw [entry] at registered ⊢
    have elsewhere : (g.store.nthClient i).clientAddress ≠ address :=
      fun here => selected ((separate.unshared.selected_iff ok.slots nonzero).mpr here)
    have kept : s.files (fileNumber i) = g.store.files (fileNumber i) := by
      refine written.files _ fun same => ?_
      cases other : g.store.slotOfAddress address with
      | none =>
        unfold entryAt at same
        rw [other] at same
        exact fileNumber_ne_empty same
      | some n =>
        have second := ok.slots.registered_of_slotOfAddress nonzero other
        rw [entryAt_found other, ← regular i registered] at same
        rw [regular.number_inj ok.slots registered second same] at selected
        exact selected other
    unfold retell
    rw [Function.update_of_ne elsewhere, kept]
    exact holds i registered

end Requests

section Connect

variable {clientId : CString} {duration : UInt16} {will clean : Bool} {flags : UInt8}

theorem numberGiven_eq (orderly : g.Orderly)
    (alive : clean = false → ∀ n, g.store.slotOfId clientId = some n → (g.store.nthClient n).clientStatus ≠ .empty) :
    g.numberGiven clientId clean = fileNumber (g.store.slotGiven clientId clean) := by
  unfold numberGiven slotGiven
  cases found : g.store.slotOfId clientId with
  | none => rfl
  | some n =>
    cases clean with
    | true =>
      unfold cleared
      rw [found]
      rfl
    | false => exact orderly.regular n (alive rfl n found)

theorem retell_connect (online : g.persistent.isMqttOnline = true) (fits : clientId.length < 24) :
    g.retell address flags (.connect clientId duration will clean) told = Function.update told address .nothing := by
  unfold retell
  rw [Testament.hear_connect, if_pos (by simp [online, fits])]

theorem AddsClient.holdsWills (adds : AddsClient g clientId duration clean address .success after) (separate : g.Separate)
    (alive : clean = false → ∀ n, g.store.slotOfId clientId = some n → (g.store.nthClient n).clientStatus ≠ .empty)
    (alone : g.store.EntersAlone clientId clean address)
    (fresh : (g.store.files (g.numberGiven clientId clean)).NothingIn .will ∨ g.DeletesOnTheWay clientId clean .will)
    (holds : g.HoldsWills told) :
    after.HoldsWills (Function.update told address .nothing) := by
  have entered := adds.entered
  have slots := separate.orderly.sound.ok.slots
  intro i registered
  by_cases here : i = g.store.slotGiven clientId clean
  · have nothing : (after.store.files (g.numberGiven clientId clean)).NothingIn .will := adds.nothingIn.mpr fresh
    rw [numberGiven_eq separate.orderly alive] at nothing
    rw [here, entered.clientAddress_eq, entered.awaitMessage_eq, Function.update_self]
    exact ⟨nothing, nofun⟩
  · have elsewhere := alone i here
    obtain ⟨same, kept⟩ := entered.elsewhere slots separate.orderly.regular here registered
    rw [← entered.others i here, same] at elsewhere
    rw [same] at registered ⊢
    rw [separate.orderly.regular i registered] at kept
    rw [Function.update_of_ne elsewhere, kept]
    exact holds i registered

theorem Connection.holdsWills (connection : Connection g clientId duration will clean address after)
    (separate : g.Separate) (nonzero : address ≠ .zero)
    (alive : clean = false → ∀ n, g.store.slotOfId clientId = some n → (g.store.nthClient n).clientStatus ≠ .empty)
    (alone : g.persistent.isMqttOnline = true → clientId.length < 24 → g.store.EntersAlone clientId clean address)
    (heeds : g.HeedsWill address flags (.connect clientId duration will clean)) (holds : g.HoldsWills told) :
    after.HoldsWills (g.retell address flags (.connect clientId duration will clean) told) := by
  have admitted : ∀ {between}, AddsClient g clientId duration clean address .success between →
      between.HoldsWills (g.retell address flags (.connect clientId duration will clean) told) := by
    intro between adds
    obtain ⟨online, fits⟩ := adds.online
    rw [retell_connect online fits]
    exact adds.holdsWills separate alive (alone online fits) (heeds.fresh _ _ _ _ rfl online fits) holds
  cases connection with
  | @rejected between result _ adds refused _ =>
    have untold : g.retell address flags (.connect clientId duration will clean) told = told := by
      unfold retell
      rw [Testament.hear_connect, if_neg, Function.update_eq_self]
      simp only [Bool.and_eq_true, decide_eq_true_eq]
      rintro ⟨online, fits⟩
      cases adds with
      | offline offline =>
        rw [online] at offline
        cases offline
      | long long _ _ => omega
      | new _ _ _ => exact refused rfl
      | reset _ _ _ _ => exact refused rfl
      | cleaned _ _ _ _ _ _ => exact refused rfl
    rw [untold]
    refine holds.of_kept ?_
    rw [store_send]
    rcases adds.refused refused with settles | rfl
    · rw [settles.store]
      exact .refl
    · exact .refl
  | accepted adds _ =>
    refine (admitted adds).of_kept ?_
    rw [store_send]
    exact .refl
  | @asked between last adds _ settles _ =>
    obtain ⟨online, fits⟩ := adds.online
    have second := adds.sound separate.orderly.sound nonzero
    have regular := adds.entered.regular separate.orderly.regular alive
    have before := admitted adds
    rw [retell_connect online fits] at before ⊢
    intro i registered
    rw [store_send, settles.store] at registered ⊢
    rw [regular.nthClient_updateAt second.ok.slots nonzero] at registered ⊢
    rw [files_updateAt]
    split at registered
    · rename_i selected
      obtain ⟨stored, _⟩ := before i registered
      have here := ((second.ok.slots.slotOfAddress_eq_some nonzero).mp selected).1
      rw [if_pos selected]
      refine ⟨stored, fun _ => ?_⟩
      rw [here, Function.update_self]
    · rename_i other
      rw [if_neg other]
      exact before i registered

end Connect

end Gateway

namespace Stage

variable {stage later : Stage} {moment : Moment} {told : DeviceAddress → Testament}

def retell (stage : Stage) (moment : Moment) (_ : Stage) (told : DeviceAddress → Testament) : DeviceAddress → Testament :=
  match moment with
  | .input input =>
    match input.request? with
    | some (address, request) => stage.gateway.retell address input.flags request told
    | none => told
  | .visit => told

/-- A step after which the wills on file are still those that the devices have told. A client that is declared LOST
    has told its will in full or not at all, and no slot before it has its id. -/
structure Heeding (stage : Stage) (moment : Moment) : Prop extends Separating stage moment where
  heeds : ∀ input address request, moment = .input input → input.request? = some (address, request) →
    stage.gateway.HeedsWill address input.flags request
  lost : ∀ round will, moment = .visit → stage.round = some round → round.hasHeartBeaten = true →
    Gateway.Expires (stage.gateway.store.nthClient round.slot) round.elapsedTime →
    (stage.gateway.store.files (fileNumber round.slot)).wil = some will → will.willmsgLength ≠ 0 ∧
      ∀ m < round.slot, (stage.gateway.store.nthClient m).clientId ≠ (stage.gateway.store.nthClient round.slot).clientId

theorem Heeding.erases {round : Round} (heeding : Heeding stage .visit) (under : stage.round = some round)
    (beaten : round.hasHeartBeaten = true) (expires : Gateway.Expires (stage.gateway.store.nthClient round.slot) round.elapsedTime)
    (willing : (stage.gateway.store.files (fileNumber round.slot)).wil ≠ none) :
    ∀ m < round.slot, (stage.gateway.store.nthClient m).clientId ≠ (stage.gateway.store.nthClient round.slot).clientId := by
  obtain ⟨will, here⟩ := Option.ne_none_iff_exists'.mp willing
  exact (heeding.lost round will rfl under beaten expires here).2

theorem retell_unrequested {input : Input} (none_made : input.request? = none) :
    retell stage (.input input) later told = told := by
  unfold retell
  simp only [none_made]

theorem step_holdsWills (separate : stage.gateway.Separate) (heeding : Heeding stage moment)
    (holds : stage.gateway.HoldsWills told) (stepped : step stage moment = some later) :
    later.gateway.HoldsWills (retell stage moment later told) := by
  have orderly := separate.orderly
  have silent : ∀ {input : Input}, (∀ sender bytes beyond, input.event ≠ .datagram sender bytes beyond) →
      KeepsWills stage.gateway.store later.gateway.store →
      later.gateway.HoldsWills (retell stage (.input input) later told) := by
    intro input undirected kept
    rw [retell_unrequested (Input.request_eq_none undirected)]
    exact holds.of_kept kept
  cases step_stepped stepped with
  | @event input after between other taken =>
    cases Gateway.step_stepped taken with
    | restart event => exact silent (by rw [event]; nofun) .refl
    | @datagram sender bytes beyond _ event _ handled =>
      have nonzero := sender.getDeviceAddress_ne_zero
      have made := Input.request_of_datagram event
      have flags : input.flags = byteAt (receiveBuffer bytes beyond) 2 := by
        unfold Input.flags
        rw [event]
      have parsed : (Request.ofMemory (receiveBuffer bytes beyond)).Parsed (receiveBuffer bytes beyond) := by
        apply Request.parsed_ofMemory
        unfold receiveBuffer
        simp only [List.length_append, List.length_replicate]
        omega
      have heeds := heeding.heeds input _ _ rfl made
      have told_next : retell stage (.input input) ⟨after, none⟩ told = stage.gateway.retell sender.getDeviceAddress
          input.flags (Request.ofMemory (receiveBuffer bytes beyond)) told := by
        unfold retell
        simp only [made]
      rw [told_next]
      rw [flags] at heeds ⊢
      have prepared : (stage.gateway.prepare input).Separate :=
        ⟨orderly.prepare, separate.unshared⟩
      have ready : (stage.gateway.prepare input).HeedsWill sender.getDeviceAddress (byteAt (receiveBuffer bytes beyond) 2)
          (Request.ofMemory (receiveBuffer bytes beyond)) := ⟨heeds.fresh, heeds.retained, heeds.deleted, heeds.first⟩
      generalize Request.ofMemory (receiveBuffer bytes beyond) = request at handled made parsed ready
      cases Gateway.handle_requested prepared.orderly.sound nonzero handled with
      | connect connection =>
        refine connection.holdsWills prepared nonzero ?_ ?_ ready holds
        · rintro rfl n found emptied
          exact heeding.alive input rfl _ _ made ⟨_, _, _, n, rfl, found, emptied⟩
        · exact heeding.alone input _ _ _ _ _ rfl made
      | topics kind other only =>
        unfold Gateway.retell
        rw [Testament.hear_topics kind other, Function.update_eq_self]
        refine holds.of_kept (.of_entries (fun _ => only.nthClient) fun number => ?_)
        by_cases here : number = ((stage.gateway.prepare input).store.entryAt sender.getDeviceAddress).fileNumber
        · rw [here]
          exact only.wil
        · exact congrArg ClientFiles.wil (only.files number here)
      | acts acts settles => exact acts.holdsWills settles prepared nonzero parsed ready holds
    | brokerMessage event _ published =>
      have receives := Gateway.publishFromBroker_receives (Gateway.sound_prepare orderly.sound).idle published
      exact silent (by rw [event]; nofun) (.of_entries (fun _ => nthClient_congr receives.clients) receives.wil)
    | loop event _ => exact absurd event (other _ _)
    | mqttConnect event _ => exact silent (by rw [event]; nofun) .refl
    | mqttConnectionLost event => exact silent (by rw [event]; nofun) .refl
    | socketLost event => exact silent (by rw [event]; nofun) .refl
    | @socketBegin opened event _ =>
      refine silent (by rw [event]; nofun) ?_
      cases opened <;> exact .refl
  | @disconnected input after _ _ _ event offline taken =>
    have loses := Gateway.step_disconnected orderly event offline taken
    refine silent (by rw [event]; nofun) fun i registered => ?_
    refine ⟨loses.registered orderly.sound.ok.slots registered, loses.keeps EntryClient.clientAddress fun _ => rfl,
      congrArg ClientFiles.wil (congrFun loses.files _), fun asked => ?_⟩
    exact (loses.keeps EntryClient.awaitMessage fun _ => rfl).symm.trans asked
  | begun _ event _ quiet =>
    refine silent (by rw [event]; nofun) ?_
    rw [(quiet orderly.sound.idle).store]
    exact .refl
  | empty _ _ quiet =>
    refine holds.of_kept ?_
    rw [(quiet orderly.sound).store]
    exact .refl
  | visit under registered returned =>
    exact holds.of_kept (Gateway.serviceClient_wills separate registered (heeding.erases under) returned).1

/-- The wills that are published are those that the devices have told: each visit that declares a client LOST publishes
    the will its device has told, if there is one, and then erases the client; no other visit publishes anything. -/
theorem will_fidelity {state : Stage × (DeviceAddress → Testament)} {round : Round}
    (run : Runs.Run (Runs.recorded step retell) (fun state moment => Heeding state.1 moment) (fun state => initial state.1)
      state)
    (heeding : Heeding state.1 .visit) (under : state.1.round = some round) (stepped : step state.1 .visit = some later) :
    let slot := state.1.gateway.store.nthClient round.slot
    let calls := if round.hasHeartBeaten = true ∧ Gateway.Expires slot round.elapsedTime then
      (state.2 slot.clientAddress).calls else []
    later.gateway.publishes = state.1.gateway.publishes ++ calls ∧
      (calls ≠ [] → (later.gateway.store.nthClient round.slot).clientStatus = .empty) := by
  have kept : state.1.gateway.Separate ∧ state.1.gateway.HoldsWills state.2 := by
    clear stepped under heeding
    induction run with
    | start first =>
      refine ⟨Gateway.separate_initial first.1, ?_⟩
      obtain ⟨⟨config, same⟩, _⟩ := first
      rw [same]
      exact fun n registered => absurd rfl registered
    | next _ meets taken ih =>
      obtain ⟨stepped, told⟩ := Runs.recorded_eq_some.mp taken
      rw [told]
      exact ⟨step_separate ih.1 meets.toSeparating stepped, step_holdsWills ih.1 meets ih.2 stepped⟩
  have returned := step_visit under stepped
  intro slot calls
  by_cases empty : (state.1.gateway.store.nthClient round.slot).clientStatus = .empty
  · have none_left : calls = [] := by
      simp only [calls, slot]
      rw [if_neg]
      rintro ⟨_, connected, _⟩
      exact ClientStatus.ne_empty_of_connected connected empty
    rw [none_left, Gateway.serviceClient_silent empty returned]
    exact ⟨(List.append_nil _).symm, fun more => absurd rfl more⟩
  · obtain ⟨_, published, erased⟩ := Gateway.serviceClient_wills kept.1 empty (heeding.erases under) returned
    have same : state.1.gateway.lastWill round round.slot = calls := by
      simp only [Gateway.lastWill, calls, slot]
      split
      · rename_i expires
        exact (kept.2 _ empty).1.calls_eq fun will here => (heeding.lost round will rfl under expires.1 expires.2 here).1
      · rfl
    rw [same] at published erased
    refine ⟨published, fun more => ?_⟩
    rw [erased more]
    rfl

end Stage

namespace Scenario

def tell (state : Stage × (DeviceAddress → Testament)) (moment : Moment) : Option (Stage × (DeviceAddress → Testament)) :=
  Runs.recorded Stage.step Stage.retell state moment

def toldNothing : Stage × (DeviceAddress → Testament) := (started, fun _ => .nothing)

def toldOnline : Stage × (DeviceAddress → Testament) := (tell toldNothing (event .mqttConnect)).get (by decide +kernel)

def toldConnect : Stage × (DeviceAddress → Testament) :=
  (tell toldOnline (event (.datagram (client 1) (Datagram.connect (name 65) 10 Flag.will) []))).get (by decide +kernel)

def toldTopic : Stage × (DeviceAddress → Testament) :=
  (tell toldConnect (event (.datagram (client 1) (Datagram.willtopic (name 116) Flag.qos1) []))).get (by decide +kernel)

def toldMessage : Stage × (DeviceAddress → Testament) :=
  (tell toldTopic (event (.datagram (client 1) (Datagram.willmsg [7]) []))).get (by decide +kernel)

def toldExpired : Stage × (DeviceAddress → Testament) :=
  (tell toldMessage (event (.loop 20000 20000))).get (by decide +kernel)

def toldLost : Stage := (Stage.step toldExpired.1 .visit).get (by decide +kernel)

theorem heeding_event {stage : Stage} {input : Event} (separating : stage.Separating (event input))
    (heeds : ∀ address request, Input.request? ⟨input, [], []⟩ = some (address, request) →
      stage.gateway.HeedsWill address (Input.flags ⟨input, [], []⟩) request) : stage.Heeding (event input) := by
  refine ⟨separating, ?_, fun _ _ same => by cases same⟩
  intro _ address request same made
  cases same
  exact heeds address request made

theorem run_toldExpired : Runs.Run (Runs.recorded Stage.step Stage.retell) (fun state moment => Stage.Heeding state.1 moment)
    (fun state => Stage.initial state.1) toldExpired := by
  have first : Stage.Heeding toldNothing.1 (event .mqttConnect) :=
    heeding_event (separating_event fun _ _ _ _ _ => nofun) fun _ _ made => by cases made
  have second : Stage.Heeding toldOnline.1
      (event (.datagram (client 1) (Datagram.connect (name 65) 10 Flag.will) [])) := by
    refine heeding_event (separating_connect (by rfl) (by decide +kernel) (by decide +kernel)) ?_
    intro address request made
    cases made
    refine ⟨?_, nofun, nofun, nofun⟩
    intro clientId duration will clean same _ _
    cases same
    exact .inl (by decide +kernel)
  have third : Stage.Heeding toldConnect.1
      (event (.datagram (client 1) (Datagram.willtopic (name 116) Flag.qos1) [])) := by
    refine heeding_event (separating_event ?_) ?_
    · intro _ _ _ _ _ made
      cases made
    · intro address request made
      cases made
      exact ⟨nofun, fun _ _ _ _ _ _ _ => by decide, fun _ _ _ _ same _ deleting => (by cases same; cases deleting.1), nofun⟩
  have fourth : Stage.Heeding toldTopic.1 (event (.datagram (client 1) (Datagram.willmsg [7]) [])) := by
    refine heeding_event (separating_event ?_) ?_
    · intro _ _ _ _ _ made
      cases made
    · intro address request made
      cases made
      refine ⟨nofun, nofun, nofun, fun n willMsg _ found _ => ?_⟩
      have selected : toldTopic.1.gateway.store.slotOfAddress (client 1).getDeviceAddress = some 0 := by decide +kernel
      rw [selected] at found
      cases found
      exact ⟨((toldTopic.1.gateway.store.files (fileNumber 0)).wil).get (by decide +kernel), (Option.some_get _).symm,
        by decide +kernel⟩
  have fifth : Stage.Heeding toldMessage.1 (event (.loop 20000 20000)) :=
    heeding_event (separating_event fun _ _ _ _ _ => nofun) fun _ _ made => by cases made
  exact .next (.next (.next (.next (.next (.start ⟨⟨configuration [47], rfl⟩, rfl⟩) first (Option.some_get _).symm) second
    (Option.some_get _).symm) third (Option.some_get _).symm) fourth (Option.some_get _).symm) fifth
    (Option.some_get _).symm

theorem will_fidelity_toldLost : toldLost.gateway.publishes = [.publish (name 116) [7] 1 false] ∧
    (toldLost.gateway.store.nthClient 0).clientStatus = .empty := by
  have heeding : Stage.Heeding toldExpired.1 .visit := by
    refine ⟨⟨fun _ same => (by cases same), fun _ _ _ _ _ _ same => by cases same⟩, fun _ _ _ same => (by cases same), ?_⟩
    intro round will _ under _ _ here
    have slot : round.slot = 0 := by
      have same := congrArg (Option.map Round.slot) under
      exact (Option.some.inj same).symm
    rw [slot] at here ⊢
    refine ⟨?_, fun m before => absurd before (Nat.not_lt_zero m)⟩
    have complete : ∀ will ∈ (toldExpired.1.gateway.store.files (fileNumber 0)).wil, will.willmsgLength ≠ 0 := by
      decide +kernel
    exact complete will here
  have under : toldExpired.1.round = some (toldExpired.1.round.get (by decide +kernel)) := (Option.some_get _).symm
  have stepped : Stage.step toldExpired.1 .visit = some toldLost := (Option.some_get _).symm
  obtain ⟨published, erased⟩ := Stage.will_fidelity run_toldExpired heeding under stepped
  exact ⟨published.trans (by decide +kernel), erased (by decide +kernel)⟩

def toldRetain : Stage × (DeviceAddress → Testament) :=
  (Runs.execute tell toldConnect [event (.datagram (client 1) (Datagram.willtopic (name 116) Flag.retain) []),
    event (.datagram (client 1) (Datagram.willmsg [7]) []), event (.loop 20000 20000)]).get (by decide +kernel)

def toldRetainLost : Stage := (Stage.step toldRetain.1 .visit).get (by decide +kernel)

/-- The will is then published without it. -/
theorem retainFlag_dropped :
    ¬ ∀ (state : Stage × (DeviceAddress → Testament)) (round : Round) (later : Stage),
      Runs.Run (Runs.recorded Stage.step Stage.retell) (fun _ _ => True) (fun state => Stage.initial state.1) state →
      state.1.round = some round → Stage.step state.1 .visit = some later → round.hasHeartBeaten = true →
      Gateway.Expires (state.1.gateway.store.nthClient round.slot) round.elapsedTime →
      later.gateway.publishes = state.1.gateway.publishes ++
        (state.2 (state.1.gateway.store.nthClient round.slot).clientAddress).calls := by
  intro claim
  have connected : Runs.Run (Runs.recorded Stage.step Stage.retell) (fun _ _ => True) (fun state => Stage.initial state.1)
      toldConnect :=
    .next (.next (.start ⟨⟨configuration [47], rfl⟩, rfl⟩) trivial (Option.some_get _).symm) trivial (Option.some_get _).symm
  have reached := connected.append (Runs.Run.of_execute (fun _ _ => trivial) (Option.some_get _).symm : Runs.Run
    (Runs.recorded Stage.step Stage.retell) (fun _ _ => True) (fun state => state = toldConnect) toldRetain)
  have under : toldRetain.1.round = some (toldRetain.1.round.get (by decide +kernel)) := (Option.some_get _).symm
  have published := claim toldRetain _ toldRetainLost reached under (Option.some_get _).symm (by decide +kernel)
    (by decide +kernel)
  exact absurd published (by decide +kernel)

end Scenario

end MqttSnGateway
