import MqttSnGateway.Core.RegularRuns

namespace MqttSnGateway

open Persistent Store

namespace Store

variable {s s' : Store} {m n i : Nat} {address : DeviceAddress} {f : EntryClient → EntryClient}
  {h : ClientFiles → ClientFiles}

theorem Regular.nthClient_setEntry (regular : s.Regular) (ok : s.SlotsOk)
    (registered : (s.nthClient n).clientStatus ≠ .empty) :
    (s.setEntry n f).nthClient i = if i = n then f (s.nthClient n) else s.nthClient i := by
  unfold setEntry
  rw [regular.slotNumber ok registered, nthClient_writeSlot]

theorem Regular.nthClient_updateAt (regular : s.Regular) (ok : s.SlotsOk) (nonzero : address ≠ .zero) :
    (s.updateAt address f).nthClient i =
      if s.slotOfAddress address = some i then f (s.nthClient i) else s.nthClient i := by
  cases selection : s.slotOfAddress address with
  | none =>
    rw [updateAt_missing selection, if_neg (by simp)]
  | some n =>
    have registered := ok.registered_of_slotOfAddress nonzero selection
    rw [updateAt_found selection, regular.nthClient_setEntry ok registered]
    by_cases here : i = n
    · subst here
      rw [if_pos rfl, if_pos rfl]
    · rw [if_neg here, if_neg]
      intro same
      exact here (Option.some.inj same).symm

theorem Regular.updateAt_keeps {α : Type} (part : EntryClient → α) (regular : s.Regular) (ok : s.SlotsOk)
    (nonzero : address ≠ .zero) (kept : ∀ entry, part (f entry) = part entry) :
    part ((s.updateAt address f).nthClient i) = part (s.nthClient i) := by
  rw [regular.nthClient_updateAt ok nonzero]
  split
  · exact kept _
  · rfl

theorem SlotsOk.slotOfAddress_congr (ok : s.SlotsOk) (kept : s'.SlotsOk) (nonzero : address ≠ .zero)
    (same : ∀ i, (s'.nthClient i).clientAddress = (s.nthClient i).clientAddress) :
    s'.slotOfAddress address = s.slotOfAddress address := by
  cases selection : s.slotOfAddress address with
  | none =>
    apply (kept.slotOfAddress_eq_none nonzero).mpr
    intro i
    rw [same]
    exact (ok.slotOfAddress_eq_none nonzero).mp selection i
  | some n =>
    obtain ⟨here, first⟩ := (ok.slotOfAddress_eq_some nonzero).mp selection
    refine (kept.slotOfAddress_eq_some nonzero).mpr ⟨(same n).trans here, fun m before => ?_⟩
    rw [same]
    exact first m before

theorem SlotsOk.slotOfId_congr {clientId : CString} (ok : s.SlotsOk) (kept : s'.SlotsOk)
    (same : ∀ i, (s'.nthClient i).clientId = (s.nthClient i).clientId) (found : s.slotOfId clientId = some n)
    (registered : (s'.nthClient n).clientStatus ≠ .empty) : s'.slotOfId clientId = some n := by
  obtain ⟨_, here, first⟩ := ok.slotOfId_eq_some.mp found
  have used : s'.nthClient n ≠ .zero := by
    intro zero
    rw [zero] at registered
    exact registered rfl
  refine kept.slotOfId_eq_some.mpr ⟨inside_of_ne_zero used, ?_, fun m before => ?_⟩
  · rw [same, here]
  · rw [same]
    exact first m before

end Store

namespace Gateway

variable {g after : Gateway} {address : DeviceAddress} {n i : Nat} {α : Type}

section Requests

/-- What a request writes to the entry of its sender's client. -/
inductive Writes (g : Gateway) (i : Nat) : Request → EntryClient → Prop
  | willtopic {willTopic : CString} {retain : Bool} {qos : UInt8} (accepted : g.WilltopicAccepted i willTopic retain qos) :
    Writes g i (.willtopic willTopic retain qos) { g.store.nthClient i with awaitMessage := .willmsg }
  | regack {topicId msgId : UInt16} {returnCode : UInt8} (awaited : Regacks (g.store.nthClient i) msgId) :
    Writes g i (.regack topicId msgId returnCode) { g.store.nthClient i with awaitMessage := .pingreq }
  | publish {data : List UInt8} {msgId topicId : UInt16} {shortTopic retain : Bool} {qos : Int} {twice : Bool}
    (level : qos ≠ -1 ∧ qos ≠ 0 ∧ qos ≠ 1) :
    Writes g i (.publish data msgId topicId shortTopic retain qos twice)
      { g.store.nthClient i with awaitMessage := .pubrel }
  | awake {clientId : CString} : Writes g i (.pingreqWithId clientId) { g.store.nthClient i with clientStatus := .awake }
  | disconnected : Writes g i .disconnect { g.store.nthClient i with clientStatus := .disconnected }
  | asleep {duration : UInt16} (online : g.persistent.isMqttOnline = true) :
    Writes g i (.disconnectWithDuration duration) { g.store.nthClient i with clientStatus := .asleep }

/-- A request writes to the entry of the client that its address selects, or to none. -/
theorem Acts.entry {request : Request} {s : Store} (acts : Acts g address request s) (sound : g.Sound)
    (regular : g.store.Regular) (nonzero : address ≠ .zero) (i : Nat) :
    s.nthClient i = g.store.nthClient i ∨
      g.store.slotOfAddress address = some i ∧ Writes g i request (s.nthClient i) := by
  have slots := sound.ok.slots
  have written : ∀ {s : Store} {n : Nat} {entry : EntryClient} (f : EntryClient → EntryClient), s.clients = g.store.clients →
      g.store.slotOfAddress address = some n → f (g.store.nthClient n) = entry → Writes g n request entry →
      (s.setEntry n f).nthClient i = g.store.nthClient i ∨
        g.store.slotOfAddress address = some i ∧ Writes g i request ((s.setEntry n f).nthClient i) := by
    intro s n entry f clients found changed writes
    have registered := slots.registered_of_slotOfAddress nonzero found
    unfold setEntry
    rw [nthClient_congr clients, regular.slotNumber slots registered, nthClient_writeSlot]
    split
    · rename_i here
      subst here
      rw [changed]
      exact .inr ⟨found, writes⟩
    · exact .inl (nthClient_congr clients)
  cases acts with
  | willtopic found accepted => exact written _ rfl found rfl (.willtopic accepted)
  | regack found awaited _ => exact written _ rfl found rfl (.regack awaited)
  | publishAwaiting found level => exact written _ rfl found rfl (.publish level)
  | awake found => exact written _ rfl found rfl .awake
  | disconnected found => exact written _ rfl found rfl .disconnected
  | asleep found online => exact written _ rfl found rfl (.asleep online)
  | _ => exact .inl rfl

end Requests

section Visits

variable {drained : ClientStatus → Bool} {status : ClientStatus} {notice : SnMessage} {beaten : Bool} {elapsed : UInt32}
  {slot : EntryClient}

theorem Delivery.keeps (part : EntryClient → α) (same : ∀ entry type, part { entry with awaitMessage := type } = part entry)
    (delivery : Delivery g address after) (sound : g.Sound) (regular : g.store.Regular) (nonzero : address ≠ .zero) :
    part (after.store.nthClient i) = part (g.store.nthClient i) := by
  have slots := sound.ok.slots
  cases delivery with
  | nothing settles _ => rw [settles.store]
  | register settles _ =>
    rw [store_send, settles.store]
    exact regular.updateAt_keeps part slots nonzero fun entry => same entry _
  | publish _ settles _ => rw [store_send, settles.store, nthClient_filesAt]
  | @publishAwaited _ h _ _ _ _ _ settles _ =>
    have kept : (g.store.filesAt address h).Regular := by
      intro j
      rw [nthClient_filesAt]
      exact regular j
    rw [store_send, settles.store, kept.updateAt_keeps part slots.filesAt nonzero fun entry => same entry _,
      nthClient_filesAt]

theorem Delivery.slotOfAddress (delivery : Delivery g address after) (sound : g.Sound) (regular : g.store.Regular)
    (nonzero : address ≠ .zero) : after.store.slotOfAddress address = g.store.slotOfAddress address :=
  sound.ok.slots.slotOfAddress_congr (delivery.touches.sound sound nonzero).ok.slots nonzero fun _ =>
    delivery.keeps EntryClient.clientAddress (fun _ _ => rfl) sound regular nonzero

theorem Drained.keeps (part : EntryClient → α) (same : ∀ entry, part { entry with clientStatus := status } = part entry)
    {drains : Bool} (drained : Drained g drains status notice address after) (sound : g.Sound) (regular : g.store.Regular)
    (nonzero : address ≠ .zero) : part (after.store.nthClient i) = part (g.store.nthClient i) := by
  cases drained with
  | kept settles _ => rw [settles.store]
  | changed _ settles _ =>
    rw [store_send, settles.store]
    exact regular.updateAt_keeps part sound.ok.slots nonzero same

/-- A client leaves a time-out as it is, with more time counted or LOST, or it is deleted. -/
theorem TimesOut.entry (timesOut : TimesOut g slot elapsed after) (sound : g.Sound) (regular : g.store.Regular)
    (nonzero : slot.clientAddress ≠ .zero) (i : Nat) :
    after.store.nthClient i = g.store.nthClient i ∨
      (g.store.slotOfAddress slot.clientAddress = some i ∧
        (after.store.nthClient i = { g.store.nthClient i with timeout := slot.timeout + elapsed } ∨
          Expires slot elapsed ∧ after.store.nthClient i =
            { g.store.nthClient i with timeout := slot.timeout + elapsed, clientStatus := .lost })) ∨
      Expires slot elapsed ∧ after.store.nthClient i = .zero ∧ (g.store.nthClient i).clientId = slot.clientId := by
  have slots := sound.ok.slots
  have updated : ∀ f, (g.store.updateAt slot.clientAddress f).nthClient i = g.store.nthClient i ∨
      g.store.slotOfAddress slot.clientAddress = some i ∧
        (g.store.updateAt slot.clientAddress f).nthClient i = f (g.store.nthClient i) := by
    intro f
    rw [regular.nthClient_updateAt slots nonzero]
    split
    · rename_i here
      exact .inr ⟨here, rfl⟩
    · exact .inl rfl
  cases timesOut with
  | disconnected _ => exact .inl rfl
  | running _ _ settles _ =>
    rw [settles.store]
    rcases updated fun entry => { entry with timeout := slot.timeout + elapsed } with same | ⟨here, changed⟩
    · exact .inl same
    · exact .inr (.inl ⟨here, .inl changed⟩)
  | lost _ expires _ settles _ =>
    rw [settles.store]
    rcases updated fun entry => { entry with timeout := slot.timeout + elapsed, clientStatus := .lost } with
      same | ⟨here, changed⟩
    · exact .inl same
    · exact .inr (.inl ⟨here, .inr ⟨expires, changed⟩⟩)
  | @deleted m _ _ s found expires _ removal _ =>
    have lost := updated fun entry => { entry with timeout := slot.timeout + elapsed, clientStatus := .lost }
    rw [store_settled]
    by_cases erased : s.slotOfId slot.clientId = some i
    · right
      right
      refine ⟨expires, ?_, ?_⟩
      · rw [nthClient_congr (clients_deleteClient erased), nthClient_writeSlot_self]
      · have touched : Touched slot.clientAddress g.store (g.store.updateAt slot.clientAddress fun entry =>
            { entry with timeout := slot.timeout + elapsed, clientStatus := .lost }) := Touched.refl.entry (keeps_lost _)
        have ok : s.Ok := removal.ok (touched.ok sound.ok nonzero)
        have named := (ok.slots.slotOfId_eq_some.mp erased).2.1
        have kept : ((g.store.updateAt slot.clientAddress fun entry =>
            { entry with timeout := slot.timeout + elapsed, clientStatus := .lost }).nthClient i).clientId =
            (g.store.nthClient i).clientId := regular.updateAt_keeps EntryClient.clientId slots nonzero fun _ => rfl
        rw [← kept, ← removal.nthClient i, named]
    · rw [nthClient_deleteClient_ne erased, removal.nthClient]
      rcases lost with same | ⟨here, changed⟩
      · exact .inl same
      · exact .inr (.inl ⟨here, .inr ⟨expires, changed⟩⟩)

theorem Visits.parts (visits : Visits drained status notice beaten elapsed n (g.store.nthClient n) g after)
    (orderly : g.Orderly) (registered : (g.store.nthClient n).clientStatus ≠ .empty) (used : status ≠ .empty) :
    ∃ delivered ready, (g.store.nthClient n).clientAddress ≠ .zero ∧ (g.visiting n).Orderly ∧ delivered.Orderly ∧
      ready.Orderly ∧ Delivery (g.visiting n) (g.store.nthClient n).clientAddress delivered ∧
      Drained delivered (drained (g.store.nthClient n).clientStatus) status notice (g.store.nthClient n).clientAddress
        ready ∧
      if beaten = true then TimesOut ready (g.store.nthClient n) elapsed after else after = ready := by
  have nonzero := (orderly.sound.ok.slots.fits n).addressed registered
  obtain ⟨delivered, ready, delivery, drains, timesOut⟩ := visits
  have visiting : (g.visiting n).Orderly := ⟨⟨orderly.sound.idle, orderly.sound.ok⟩, orderly.regular⟩
  have first : delivered.Orderly := ⟨delivery.touches.sound visiting.sound nonzero,
    delivery.touches.regular visiting.sound nonzero visiting.regular⟩
  have second : ready.Orderly := ⟨(drains.touches used).sound first.sound nonzero,
    (drains.touches used).regular first.sound nonzero first.regular⟩
  exact ⟨delivered, ready, nonzero, visiting, first, second, delivery, drains, timesOut⟩

end Visits

structure Loses (s s' : Store) : Prop where
  regular : s'.Regular
  entries : ∀ i, s'.nthClient i = s.nthClient i ∨ s'.nthClient i = { s.nthClient i with clientStatus := .lost }
  files : s'.files = s.files

theorem loop_disconnected {beat elapsed : UInt32} (orderly : g.Orderly) (offline : g.persistent.isMqttsnOnline = false)
    (looped : loop pahoMqttMessageHandler beat elapsed g = some after) : Loses g.store after.store := by
  refine loop_invariant (I := fun g' => Loses g.store g'.store) orderly.sound ⟨orderly.regular, fun _ => .inl rfl, rfl⟩ ?_
    ?_ ?_ looped
  · exact fun _ _ quiet kept => quiet.store ▸ kept
  · intro _ _ _ _ _ kind
    cases kind with
    | online both => exact absurd (both.1.symm.trans offline) (by simp)
    | offline both => exact absurd (both.1.symm.trans offline) (by simp)
  · intro n g' g'' sound' registered settles _ kept
    have nonzero := (sound'.ok.slots.fits n).addressed registered
    have touched : Touched (g'.store.nthClient n).clientAddress g'.store
        (g'.store.updateAt (g'.store.nthClient n).clientAddress fun entry => { entry with clientStatus := .lost }) :=
      Touched.refl.entry (keeps_status (by simp))
    rw [settles.store]
    refine ⟨(touched.actsAt sound'.ok kept.regular nonzero).regular sound'.ok.slots nonzero kept.regular, fun i => ?_, ?_⟩
    · rw [kept.regular.nthClient_updateAt sound'.ok.slots nonzero]
      split
      · rcases kept.entries i with same | same
        · exact .inr (by rw [same])
        · exact .inr (by rw [same])
      · exact kept.entries i
    · rw [files_updateAt, kept.files]

theorem Loses.keeps {s s' : Store} (part : EntryClient → α) (loses : Loses s s')
    (same : ∀ entry, part { entry with clientStatus := .lost } = part entry) : part (s'.nthClient i) = part (s.nthClient i) := by
  rcases loses.entries i with unchanged | lost
  · rw [unchanged]
  · rw [lost, same]

theorem step_disconnected {input : Input} {beat elapsed : UInt32} (orderly : g.Orderly)
    (event : input.event = .loop beat elapsed) (offline : g.persistent.isMqttsnOnline = false)
    (stepped : step g input = some after) : Loses g.store after.store := by
  have prepared : (g.prepare input).Orderly := orderly.prepare
  exact loop_disconnected (g := g.prepare input) prepared offline (step_loop event stepped)

theorem Loses.registered {s s' : Store} (loses : Loses s s') (slots : s.SlotsOk)
    (registered : (s'.nthClient i).clientStatus ≠ .empty) : (s.nthClient i).clientStatus ≠ .empty := by
  intro empty
  rcases loses.entries i with same | lost
  · rw [same] at registered
    exact registered empty
  · have number := loses.regular i registered
    rw [lost, (slots.fits i).emptied empty] at number
    exact fileNumber_ne_empty number.symm

end Gateway

end MqttSnGateway
