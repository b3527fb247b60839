import MqttSnGateway.Core.Handled

namespace MqttSnGateway

open Persistent Store

namespace Store

/-- Every client's files carry the number of its slot, so that the setters write back where they read. -/
def Regular (s : Store) : Prop :=
  ∀ n, (s.nthClient n).clientStatus ≠ .empty → (s.nthClient n).fileNumber = fileNumber n

/-- `s'` is `s` with other files of one number and other counts. -/
structure FilesOnly (number : CString) (s s' : Store) : Prop where
  clients : s'.clients = s.clients
  files : ∀ other, other ≠ number → s'.files other = s.files other

/-- Besides, the will and the queued messages are the same. -/
structure TablesOnly (number : CString) (s s' : Store) : Prop extends FilesOnly number s s' where
  wil : (s'.files number).wil = (s.files number).wil
  pub : (s'.files number).pub = (s.files number).pub

/-- What a request from an address may do: change the entry and the files of the client it selects. -/
structure ActsAt (s : Store) (address : DeviceAddress) (s' : Store) : Prop where
  entries : ∀ i, s.slotOfAddress address ≠ some i → s'.nthClient i = s.nthClient i
  selected : ∀ i, s.slotOfAddress address = some i → (s.nthClient i).Same (s'.nthClient i)
  files : ∀ number, number ≠ (s.entryAt address).fileNumber → s'.files number = s.files number

section Regular

variable {s s' s'' : Store} {m n i : Nat} {address : DeviceAddress} {number : CString}

theorem Regular.slotNumber (regular : s.Regular) (ok : s.SlotsOk) (registered : (s.nthClient n).clientStatus ≠ .empty) :
    (s.nthClient n).slotNumber = n :=
  slotNumber_fileNumber (ok.inside registered) (regular n registered)

theorem Regular.number_inj (regular : s.Regular) (ok : s.SlotsOk) (first : (s.nthClient m).clientStatus ≠ .empty)
    (second : (s.nthClient n).clientStatus ≠ .empty)
    (same : (s.nthClient m).fileNumber = (s.nthClient n).fileNumber) : m = n := by
  have left := regular.slotNumber ok first
  have right := regular.slotNumber ok second
  unfold EntryClient.slotNumber at left right
  rw [same] at left
  omega

namespace TablesOnly

theorem refl : TablesOnly number s s := ⟨⟨rfl, fun _ _ => rfl⟩, rfl, rfl⟩

theorem trans (first : TablesOnly number s s') (second : TablesOnly number s' s'') : TablesOnly number s s'' :=
  ⟨⟨second.clients.trans first.clients, fun other different =>
    (second.files other different).trans (first.files other different)⟩, second.wil.trans first.wil,
    second.pub.trans first.pub⟩

theorem modifyFiles {h : ClientFiles → ClientFiles} (wil : ∀ files, (h files).wil = files.wil)
    (pub : ∀ files, (h files).pub = files.pub) : TablesOnly number s (s.modifyFiles number h) := by
  refine ⟨⟨rfl, fun other different => ?_⟩, ?_, ?_⟩
  · rw [files_modifyFiles, if_neg different]
  · rw [files_modifyFiles_self, wil]
  · rw [files_modifyFiles_self, pub]

theorem setFiles {h : ClientFiles → ClientFiles} (wil : ∀ files, (h files).wil = files.wil)
    (pub : ∀ files, (h files).pub = files.pub) : TablesOnly (s.nthClient n).fileNumber s (s.setFiles n h) :=
  modifyFiles wil pub

theorem registers {topicName : CString} :
    TablesOnly (s.nthClient n).fileNumber s (s.setFiles n fun files => (registerName files topicName).2) := by
  apply setFiles
  all_goals
    intro files
    unfold registerName
    split <;> rfl

theorem uncount {topicName : Option CString} : TablesOnly number s (s.uncount topicName) := by
  refine ⟨⟨clients_uncount, fun _ _ => ?_⟩, ?_, ?_⟩
  all_goals rw [files_uncount]

theorem subscribe {name : CString} {id : UInt16} {qos : UInt8} :
    TablesOnly (s.nthClient n).fileNumber s (s.subscribe n name id qos) := by
  unfold Store.subscribe
  split
  · exact ⟨⟨rfl, fun _ _ => rfl⟩, rfl, rfl⟩
  · have appended : TablesOnly (s.nthClient n).fileNumber s
        (s.setFiles n fun files => appendSubscription files ⟨id, qos, name⟩) := setFiles (fun _ => rfl) fun _ => rfl
    exact ⟨⟨rfl, appended.files⟩, appended.wil, appended.pub⟩

theorem unsubscribe {topicId : UInt16} {topicName : Option CString} (deleted : s.unsubscribe number topicId topicName = some s') :
    TablesOnly number s s' := by
  unfold Store.unsubscribe at deleted
  split at deleted
  · cases deleted
    exact uncount
  · split at deleted
    · rename_i i _
      cases deleted
      exact (modifyFiles (h := fun files => { files with sub := files.sub.set i .zero }) (fun _ => rfl)
        fun _ => rfl).trans uncount
    · cases deleted

end TablesOnly

namespace FilesOnly

theorem nthClient (only : FilesOnly number s s') : s'.nthClient n = s.nthClient n := by
  unfold Store.nthClient
  rw [only.clients]

theorem slotOfAddress (only : FilesOnly number s s') : s'.slotOfAddress address = s.slotOfAddress address := by
  unfold Store.slotOfAddress
  rw [only.clients]

theorem actsAt (only : FilesOnly (s.entryAt address).fileNumber s s') (ok : s.SlotsOk) (nonzero : address ≠ .zero) :
    ActsAt s address s' := by
  refine ⟨fun i _ => only.nthClient, fun i found => ?_, only.files⟩
  rw [only.nthClient]
  exact ⟨rfl, rfl, rfl, ok.registered_of_slotOfAddress nonzero found⟩

end FilesOnly

theorem ActsAt.regular (acts : ActsAt s address s') (ok : s.SlotsOk) (nonzero : address ≠ .zero) (regular : s.Regular) :
    s'.Regular := by
  intro i registered
  by_cases selected : s.slotOfAddress address = some i
  · rw [(acts.selected i selected).fileNumber]
    exact regular i (ok.registered_of_slotOfAddress nonzero selected)
  · rw [acts.entries i selected] at registered ⊢
    exact regular i registered

theorem SlotsOk.slotOfAddress_unique (ok : s.SlotsOk) (nonzero : address ≠ .zero)
    (found : s.slotOfAddress address = some n) (entries : ∀ i, i ≠ n → s'.nthClient i = s.nthClient i)
    (kept : s'.SlotsOk) (here : (s'.nthClient n).clientAddress = address) : s'.slotOfAddress address = some n := by
  apply (kept.slotOfAddress_eq_some nonzero).mpr
  refine ⟨here, fun m before => ?_⟩
  rw [entries m (by omega)]
  exact ((ok.slotOfAddress_eq_some nonzero).mp found).2 m before

/-- With regular files a touched client stays in its slot and no other is written. -/
theorem Touched.actsAt (touched : Touched address s s') (ok : s.Ok) (regular : s.Regular) (nonzero : address ≠ .zero) :
    ActsAt s address s' := by
  cases selection : s.slotOfAddress address with
  | none =>
    rw [touched.missing selection]
    refine ⟨fun _ _ => rfl, fun i found => ?_, fun _ _ => rfl⟩
    rw [selection] at found
    cases found
  | some n =>
    have registered := ok.slots.registered_of_slotOfAddress nonzero selection
    suffices kept : (s.nthClient n).Same (s'.nthClient n) ∧ ∀ i, i ≠ n → s'.nthClient i = s.nthClient i by
      refine ⟨fun i other => kept.2 i ?_, fun i found => ?_, fun number other => ?_⟩
      · rintro rfl
        exact other selection
      · rw [selection] at found
        cases found
        exact kept.1
      · rw [entryAt_found selection] at other
        exact touched.files_other ok nonzero selection other
    induction touched with
    | refl => exact ⟨⟨rfl, rfl, rfl, registered⟩, fun _ _ => rfl⟩
    | @entry s' f touched keeps ih =>
      obtain ⟨same, entries⟩ := ih
      have slots := (touched.ok ok nonzero).slots
      have here := ((ok.slots.slotOfAddress_eq_some nonzero).mp selection).1
      have found := ok.slots.slotOfAddress_unique nonzero selection entries slots (same.clientAddress.trans here)
      have position : (s'.nthClient n).slotNumber = n := by
        unfold EntryClient.slotNumber
        rw [same.fileNumber]
        exact regular.slotNumber ok.slots registered
      have renewed := keeps _ same.registered
      rw [updateAt_found found]
      unfold setEntry
      rw [position, nthClient_writeSlot_self]
      refine ⟨⟨renewed.clientId.trans same.clientId, renewed.fileNumber.trans same.fileNumber,
        renewed.clientAddress.trans same.clientAddress, renewed.registered⟩, fun i other => ?_⟩
      rw [nthClient_writeSlot_ne other]
      exact entries i other
    | files _ _ ih =>
      refine ⟨?_, fun i other => ?_⟩
      · rw [nthClient_filesAt]
        exact ih.1
      · rw [nthClient_filesAt]
        exact ih.2 i other

end Regular

end Store

namespace Gateway

variable {g after between : Gateway} {address : DeviceAddress} {n : Nat}

theorem Answered.store (answered : Answered between address after) : after.store = between.store := by
  cases answered with
  | silent => rfl
  | sent _ => exact store_send

theorem Registers.tablesOnly {topicName : CString} (registers : Registers g address topicName after) :
    TablesOnly (g.store.entryAt address).fileNumber g.store after.store := by
  cases registers with
  | rejected settles _ =>
    rw [settles.store]
    exact .refl
  | registered _ found settles _ =>
    rw [settles.store, entryAt_found found]
    exact .registers

theorem Subscription.tablesOnly {name : CString} {id : UInt16} {qos : UInt8} {s : Store}
    (subscription : Subscription g n name id qos s after) (client : s.nthClient n = g.store.nthClient n) :
    TablesOnly (g.store.nthClient n).fileNumber s after.store := by
  have subscribed : TablesOnly (g.store.nthClient n).fileNumber s (s.subscribe n name id qos) :=
    client ▸ TablesOnly.subscribe
  cases subscription with
  | again _ => exact .refl
  | counted _ _ _ => exact subscribed
  | first _ _ _ granted =>
    rw [(paho_subscribe_granted granted).store]
    exact subscribed
  | refused _ _ _ _ => exact subscribed.trans .uncount

theorem Subscribes.tablesOnly {qos : UInt8} {topic : Store → Nat → Option (CString × UInt16 × Store)}
    (subscribes : Subscribes g address qos topic after)
    (topicOnly : ∀ s n name id s', topic s n = some (name, id, s') → TablesOnly (s.nthClient n).fileNumber s s') :
    TablesOnly (g.store.entryAt address).fileNumber g.store after.store := by
  cases subscribes with
  | rejected settles _ =>
    rw [settles.store]
    exact .refl
  | subscribed _ found known subscription =>
    have only := topicOnly _ _ _ _ _ known
    rw [entryAt_found found]
    exact only.trans (subscription.tablesOnly only.nthClient)

theorem tablesOnly_topicOf {s s' : Store} {topicsPre : TopicsPre} {topicId id : UInt16} {shortTopic : Bool} {name : CString}
    (known : s.topicOf topicsPre n topicId shortTopic = some (name, id, s')) : TablesOnly (s.nthClient n).fileNumber s s' := by
  cases Store.topicOf_found known with
  | registered _ _ => exact .refl
  | predefined _ => exact .registers

theorem tablesOnly_topicOfName {s s' : Store} {id : UInt16} {topicName name : CString}
    (known : s.topicOfName n topicName = some (name, id, s')) : TablesOnly (s.nthClient n).fileNumber s s' := by
  obtain ⟨_, _, rfl, _⟩ := Store.topicOfName_found known
  exact .registers

theorem Unsubscription.tablesOnly {topicId : UInt16} {topicName : Option CString}
    (unsubscription : Unsubscription g address topicId topicName after) :
    TablesOnly (g.store.entryAt address).fileNumber g.store after.store := by
  cases unsubscription with
  | skipped _ _ => exact .refl
  | counted _ deleted _ => exact .unsubscribe deleted
  | last _ deleted _ =>
    rw [paho_unsubscribe_called.store]
    exact .unsubscribe deleted
  | failed _ _ =>
    rw [paho_unsubscribe_called.store]
    exact .refl

/-- The requests about topics leave the registry alone and change the files of their sender's client only. -/
theorem Handles.tablesOnly {request : Request} (handles : g.Handles address request after)
    (topics : request.touching = false)
    (other : ∀ clientId duration will clean, request ≠ .connect clientId duration will clean) :
    TablesOnly (g.store.entryAt address).fileNumber g.store after.store := by
  cases request with
  | connect clientId duration will clean => exact absurd rfl (other clientId duration will clean)
  | register msgId topicName =>
    obtain ⟨between, registers, answered⟩ := handles
    rw [answered.store]
    exact registers.tablesOnly
  | subscribe topicId msgId shortTopic qos =>
    obtain ⟨between, subscribes, answered⟩ := handles
    rw [answered.store]
    exact subscribes.tablesOnly fun _ _ _ _ _ => tablesOnly_topicOf
  | subscribeByName topicName msgId qos =>
    obtain ⟨between, registers | subscribes, answered⟩ := handles
    · rw [answered.store]
      exact registers.tablesOnly
    · rw [answered.store]
      exact subscribes.tablesOnly fun _ _ _ _ _ => tablesOnly_topicOfName
  | unsubscribe topicId msgId shortTopic =>
    obtain ⟨between, unsubscription, answered⟩ := handles
    rw [answered.store]
    exact unsubscription.tablesOnly
  | unsubscribeByName topicName msgId =>
    obtain ⟨between, unsubscription, answered⟩ := handles
    rw [answered.store]
    exact unsubscription.tablesOnly
  | _ => cases topics

theorem Handles.touches {request : Request} (handles : g.Handles address request after)
    (touching : request.touching = true) : g.Touches address after := by
  cases request with
  | connect _ _ _ _ => cases touching
  | register _ _ => cases touching
  | subscribe _ _ _ _ => cases touching
  | subscribeByName _ _ _ => cases touching
  | unsubscribe _ _ _ => cases touching
  | unsubscribeByName _ _ => cases touching
  | _ => exact handles

/-- Every request but CONNECT acts on the client that its address selects and on no other. -/
theorem Handles.actsAt {request : Request} (handles : g.Handles address request after) (sound : g.Sound)
    (regular : g.store.Regular) (nonzero : address ≠ .zero)
    (other : ∀ clientId duration will clean, request ≠ .connect clientId duration will clean) :
    ActsAt g.store address after.store := by
  cases touching : request.touching with
  | true => exact (handles.touches touching).touched.actsAt sound.ok regular nonzero
  | false => exact (handles.tablesOnly touching other).actsAt sound.ok.slots nonzero

inductive Requested (g : Gateway) (address : DeviceAddress) : Request → Gateway → Prop
  | connect {clientId : CString} {duration : UInt16} {will clean : Bool} {after : Gateway}
    (connection : Connection g clientId duration will clean address after) :
    Requested g address (.connect clientId duration will clean) after
  | topics {request : Request} {after : Gateway} (kind : request.touching = false)
    (other : ∀ clientId duration will clean, request ≠ .connect clientId duration will clean)
    (only : TablesOnly (g.store.entryAt address).fileNumber g.store after.store) : Requested g address request after
  | acts {request : Request} {s : Store} {after : Gateway} (acts : Acts g address request s) (settles : g.Settles s after) :
    Requested g address request after

theorem handle_requested {request : Request} (sound : g.Sound) (nonzero : address ≠ .zero)
    (handled : handle pahoMqttMessageHandler g address request = some after) : Requested g address request after := by
  have handles := handle_handles sound nonzero handled
  cases touching : request.touching with
  | true =>
    obtain ⟨s, acts, settles⟩ := handle_acts sound.idle sound.ok.slots nonzero touching handled
    exact .acts acts settles
  | false =>
    by_cases connects : ∃ clientId duration will clean, request = .connect clientId duration will clean
    · obtain ⟨clientId, duration, will, clean, rfl⟩ := connects
      exact .connect handles
    · have other : ∀ clientId duration will clean, request ≠ .connect clientId duration will clean :=
        fun clientId duration will clean same => connects ⟨clientId, duration, will, clean, same⟩
      exact .topics touching other (handles.tablesOnly touching other)

end Gateway

section Entering

namespace Store

variable {s s' : Store} {clientId number : CString} {clean : Bool} {n k : Nat} {sd : SDLinuxFake}

/-- The registry without the client whose session a CONNECT cleans. -/
def cleared (s : Store) (clientId : CString) (clean : Bool) : Store :=
  match s.slotOfId clientId with
  | some n => if clean then s.writeSlot n .zero else s
  | none => s

/-- The slot that a client has after it was let in. -/
def slotGiven (s : Store) (clientId : CString) (clean : Bool) : Nat :=
  match s.slotOfId clientId with
  | some n => if clean then (s.cleared clientId clean).findEmptyEntrySpace else n
  | none => s.findEmptyEntrySpace

theorem findEmptyEntrySpace_congr (clients : s'.clients = s.clients) :
    s'.findEmptyEntrySpace = s.findEmptyEntrySpace := by
  unfold findEmptyEntrySpace
  rw [clients]

theorem nthClient_congr (clients : s'.clients = s.clients) : s'.nthClient n = s.nthClient n := by
  unfold nthClient
  rw [clients]

theorem slotOfId_congr (clients : s'.clients = s.clients) : s'.slotOfId clientId = s.slotOfId clientId := by
  unfold slotOfId
  rw [clients]

/-- What letting a client in does to a store: the client gets its slot, where it is entered anew or goes on, and
    the slots of the others stay. -/
structure Entered (s : Store) (clientId : CString) (duration : UInt32) (clean : Bool) (address : DeviceAddress)
    (s' : Store) : Prop where
  entry : s'.nthClient (s.slotGiven clientId clean) = .new clientId (s.slotGiven clientId clean) address duration ∨
    clean = false ∧ s.slotOfId clientId = some (s.slotGiven clientId clean) ∧
      s'.nthClient (s.slotGiven clientId clean) =
        (s.nthClient (s.slotGiven clientId clean)).reset clientId address duration
  others : ∀ i, i ≠ s.slotGiven clientId clean → s'.nthClient i = (s.cleared clientId clean).nthClient i
  files : ∀ number, (clean = true → ∀ n, s.slotOfId clientId = some n → number ≠ (s.nthClient n).fileNumber) →
    s'.files number = s.files number

namespace Entered

variable {duration : UInt32} {address : DeviceAddress}

theorem clientId_eq (entered : s.Entered clientId duration clean address s') :
    (s'.nthClient (s.slotGiven clientId clean)).clientId = clientId := by
  rcases entered.entry with entry | ⟨_, _, entry⟩ <;> rw [entry] <;> rfl

theorem clientAddress_eq (entered : s.Entered clientId duration clean address s') :
    (s'.nthClient (s.slotGiven clientId clean)).clientAddress = address := by
  rcases entered.entry with entry | ⟨_, _, entry⟩ <;> rw [entry] <;> rfl

theorem clientStatus_eq (entered : s.Entered clientId duration clean address s') :
    (s'.nthClient (s.slotGiven clientId clean)).clientStatus = .active := by
  rcases entered.entry with entry | ⟨_, _, entry⟩ <;> rw [entry] <;> rfl

theorem awaitMessage_eq (entered : s.Entered clientId duration clean address s') :
    (s'.nthClient (s.slotGiven clientId clean)).awaitMessage = .pingreq := by
  rcases entered.entry with entry | ⟨_, _, entry⟩ <;> rw [entry] <;> rfl

end Entered

end Store

theorem Gateway.AddsClient.entered {g after : Gateway} {clientId : CString} {duration : UInt16} {clean : Bool}
    {address : DeviceAddress} (adds : Gateway.AddsClient g clientId duration clean address .success after) :
    g.store.Entered clientId (Gateway.milliseconds duration) clean address after.store := by
  cases adds with
  | new _ _ missing =>
    have place : g.store.slotGiven clientId clean = g.store.findEmptyEntrySpace := by
      unfold slotGiven
      rw [missing]
    have alone : g.store.cleared clientId clean = g.store := by
      unfold cleared
      rw [missing]
    refine ⟨.inl ?_, fun i other => ?_, fun _ _ => rfl⟩
    · rw [place]
      exact nthClient_insertClient _ _ _ _
    · rw [place] at other
      rw [alone]
      exact nthClient_insertClient_ne other
  | @reset n _ _ kept found =>
    have place : g.store.slotGiven clientId clean = n := by
      unfold slotGiven
      rw [found, kept]
      rfl
    have alone : g.store.cleared clientId clean = g.store := by
      unfold cleared
      rw [found, kept]
      rfl
    refine ⟨.inr ⟨kept, by rw [place]; exact found, ?_⟩, fun i other => ?_, fun _ _ => rfl⟩
    · rw [place]
      exact nthClient_writeSlot_self
    · rw [place] at other
      rw [alone]
      exact nthClient_writeSlot_ne other
  | @cleaned n g' s _ _ cleaned found removal none_left =>
    have selected := (slotOfId_congr removal.clients).trans found
    have clients : (s.deleteClient g.persistent.sd (g.store.nthClient n).fileNumber clientId).clients =
        (g.store.writeSlot n .zero).clients := by
      rw [clients_deleteClient selected]
      unfold writeSlot
      rw [removal.clients]
    have alone : g.store.cleared clientId clean = g.store.writeSlot n .zero := by
      unfold cleared
      rw [found, cleaned]
      rfl
    have place : g.store.slotGiven clientId clean =
        (s.deleteClient g.persistent.sd (g.store.nthClient n).fileNumber clientId).findEmptyEntrySpace := by
      rw [findEmptyEntrySpace_congr clients, ← alone]
      unfold slotGiven
      rw [found, cleaned]
      rfl
    refine ⟨.inl ?_, fun i other => ?_, fun number elsewhere => ?_⟩
    · rw [place]
      exact nthClient_insertClient _ _ _ _
    · rw [place] at other
      rw [alone, store_settled, nthClient_insertClient_ne other, nthClient_congr clients]
    · have different := elsewhere cleaned n found
      rw [store_settled]
      unfold Store.insertClient
      rw [files_writeSlot, files_deleteClient, if_neg different, removal.files_other different]

end Entering

end MqttSnGateway
