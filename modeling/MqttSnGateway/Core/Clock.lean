import MqttSnGateway.Core.Unshared

namespace MqttSnGateway

open Persistent Store

namespace Gateway

variable {g g' after between : Gateway} {address : DeviceAddress} {n m i : Nat}

section Requests

variable {clientId : CString} {duration : UInt16} {will clean : Bool}

theorem system_send {message : SnMessage} : (g.send address message).system = g.system := by
  unfold send
  split <;> rfl

theorem Answered.system (answered : Answered between address after) : after.system = between.system := by
  cases answered with
  | silent => rfl
  | sent _ => exact system_send

theorem AddsClient.system {result : CoreResult} (adds : AddsClient g clientId duration clean address result after) :
    after.system = g.system := by
  cases adds with
  | offline _ => rfl
  | long _ settles _ => exact settles.system
  | new _ _ _ => rfl
  | reset _ _ _ _ => rfl
  | cleaned _ _ _ _ removal _ => exact removal.called.system

theorem Connection.system (connection : Connection g clientId duration will clean address after) :
    after.system = g.system := by
  cases connection with
  | rejected adds _ _ => exact system_send.trans adds.system
  | accepted adds _ => exact system_send.trans adds.system
  | asked adds _ settles _ => exact system_send.trans (settles.system.trans adds.system)

theorem Subscription.system {name : CString} {id : UInt16} {qos : UInt8} {s : Store}
    (subscription : Subscription g n name id qos s after) : after.system = g.system := by
  cases subscription with
  | again _ => rfl
  | counted _ _ _ => rfl
  | first _ _ _ granted => exact (paho_subscribe_granted granted).system
  | refused _ _ _ refused => exact (paho_subscribe_granted refused).system

theorem Subscribes.system {qos : UInt8} {topic : Store → Nat → Option (CString × UInt16 × Store)}
    (subscribes : Subscribes g address qos topic after) : after.system = g.system := by
  cases subscribes with
  | rejected settles _ => exact settles.system
  | subscribed _ _ _ subscription => exact subscription.system

theorem Registers.system {topicName : CString} (registers : Registers g address topicName after) :
    after.system = g.system := by
  cases registers with
  | rejected settles _ => exact settles.system
  | registered _ _ settles _ => exact settles.system

theorem Unsubscription.system {topicId : UInt16} {topicName : Option CString}
    (unsubscription : Unsubscription g address topicId topicName after) : after.system = g.system := by
  have called : ∀ s, (pahoMqttMessageHandler.unsubscribe (g.settled s (g.store.entryAt address)) topicName).2.system =
      g.system := by
    intro s
    have called : (g.settled s (g.store.entryAt address)).Called
        (pahoMqttMessageHandler.unsubscribe (g.settled s (g.store.entryAt address)) topicName).2 := paho_unsubscribe_called
    exact called.system
  cases unsubscription with
  | skipped _ _ => rfl
  | counted _ _ _ => rfl
  | last _ _ _ => exact called _
  | failed _ _ => exact called _

theorem Handles.system {request : Request} (handles : g.Handles address request after) : after.system = g.system := by
  cases request with
  | connect clientId duration will clean => exact Connection.system handles
  | register msgId topicName =>
    obtain ⟨between, registers, answered⟩ := handles
    exact answered.system.trans registers.system
  | subscribe topicId msgId shortTopic qos =>
    obtain ⟨between, subscribes, answered⟩ := handles
    exact answered.system.trans subscribes.system
  | subscribeByName topicName msgId qos =>
    obtain ⟨between, registers | subscribes, answered⟩ := handles
    · exact answered.system.trans registers.system
    · exact answered.system.trans subscribes.system
  | unsubscribe topicId msgId shortTopic =>
    obtain ⟨between, unsubscription, answered⟩ := handles
    exact answered.system.trans unsubscription.system
  | unsubscribeByName topicName msgId =>
    obtain ⟨between, unsubscription, answered⟩ := handles
    exact answered.system.trans unsubscription.system
  | _ =>
    obtain ⟨_, _, settles⟩ : g.Touches address after := handles
    exact settles.system

/-- A slot after a request has the sender's address, or it is as it was or erased. -/
theorem Requested.elsewhere {request : Request} (requested : Requested g address request after) (orderly : g.Orderly)
    (nonzero : address ≠ .zero)
    (alive : ∀ clientId duration will n, request = .connect clientId duration will false →
      g.store.slotOfId clientId = some n → (g.store.nthClient n).clientStatus ≠ .empty) (i : Nat) :
    (after.store.nthClient i).clientAddress = address ∨ after.store.nthClient i = g.store.nthClient i ∨
      after.store.nthClient i = .zero := by
  have slots := orderly.sound.ok.slots
  cases requested with
  | @connect clientId duration will clean _ connection =>
    have alive : clean = false → ∀ n, g.store.slotOfId clientId = some n → (g.store.nthClient n).clientStatus ≠ .empty := by
      rintro rfl n found
      exact alive _ _ _ n rfl found
    rcases connection.entry orderly nonzero alive i with same | zero | ⟨_, awaits, here⟩ | ⟨_, _, here, _⟩
    · exact .inr (.inl same)
    · exact .inr (.inr zero)
    · rw [awaits]
      exact .inl here
    · exact .inl here
  | topics _ _ only =>
    rw [only.nthClient]
    exact .inr (.inl rfl)
  | acts acts settles =>
    rw [settles.store]
    have written := acts.touched.actsAt orderly.sound.ok orderly.regular nonzero
    by_cases selected : g.store.slotOfAddress address = some i
    · rw [(written.selected i selected).clientAddress]
      exact .inl ((slots.slotOfAddress_eq_some nonzero).mp selected).1
    · exact .inr (.inl (written.entries i selected))

end Requests

section Visits

variable {round : Round} {slot : EntryClient} {elapsed : UInt32}

theorem Delivered.system (delivered : Delivered g address m after) : after.system = g.system := by
  cases delivered with
  | nothing settles _ => exact settles.system
  | register _ settles _ => exact system_send.trans settles.system
  | publish _ _ _ _ settles _ => exact system_send.trans settles.system
  | publishAwaited _ _ _ settles _ => exact system_send.trans settles.system

theorem Drained.system {drains : Bool} {status : ClientStatus} {notice : SnMessage}
    (drained : Drained g drains status notice address after) : after.system = g.system := by
  cases drained with
  | kept settles _ => exact settles.system
  | changed _ settles _ => exact system_send.trans settles.system

theorem TimesOut.system (timesOut : TimesOut g slot elapsed after) : after.system = g.system := by
  cases timesOut with
  | disconnected _ => rfl
  | running _ _ settles _ => exact settles.system
  | lost _ _ _ settles _ => exact settles.system
  | deleted _ _ _ removal _ => exact removal.called.system.trans paho_publish_called.system

theorem Visit.system (visit : Visit g round n m after) : after.system = g.system := by
  have before := visit.drains.system.trans visit.delivers.system
  have timesOut := visit.timesOut
  split at timesOut
  · exact timesOut.system.trans before
  · rw [timesOut]
    exact before

theorem Visit.selected (visit : Visit g round n m after) :
    (g.visiting n).store.slotOfAddress (g.store.nthClient n).clientAddress = some m :=
  (visit.visiting.sound.ok.slots.slotOfAddress_congr visit.second.sound.ok.slots visit.nonzero fun i =>
    (visit.same i).clientAddress).symm.trans visit.found

/-- What neither an awaited message nor a status is part of is kept until the time-out. -/
theorem Visit.keeps {α : Type} (part : EntryClient → α)
    (awaited : ∀ entry type, part { entry with awaitMessage := type } = part entry)
    (status : ∀ entry status, part { entry with clientStatus := status } = part entry)
    (visit : Visit g round n m after) (i : Nat) :
    part ((g.drained round n).store.nthClient i) = part (g.store.nthClient i) :=
  (visit.drains.keeps part (fun entry => status entry _) visit.first.sound visit.first.regular visit.nonzero).trans
    (Delivery.keeps (g := g.visiting n) part awaited (visit.delivers.delivery visit.selected) visit.visiting.sound
      visit.visiting.regular visit.nonzero)

theorem Visit.clientStatus (visit : Visit g round n m after) (i : Nat) :
    ((g.drained round n).store.nthClient i).clientStatus = (g.store.nthClient i).clientStatus ∨
      ((g.drained round n).store.nthClient i).clientStatus = round.status := by
  have delivered : ((g.delivered n).store.nthClient i).clientStatus = (g.store.nthClient i).clientStatus :=
    Delivery.keeps (g := g.visiting n) EntryClient.clientStatus (fun _ _ => rfl) (visit.delivers.delivery visit.selected)
      visit.visiting.sound visit.visiting.regular visit.nonzero
  have drains := visit.drains
  generalize g.drained round n = ready at drains ⊢
  cases drains with
  | kept settles _ =>
    rw [settles.store]
    exact .inl delivered
  | changed _ settles _ =>
    rw [store_send, settles.store, visit.first.regular.nthClient_updateAt visit.first.sound.ok.slots visit.nonzero]
    split
    · exact .inr rfl
    · exact .inl delivered

end Visits

end Gateway

end MqttSnGateway
