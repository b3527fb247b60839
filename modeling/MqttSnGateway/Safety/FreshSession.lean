import MqttSnGateway.Datagrams

namespace MqttSnGateway

open Persistent Store

namespace ClientFiles

variable {files : ClientFiles} {sd : SDLinuxFake} {number : CString} {ending other : FileEnding}

/-- One of the four files holds nothing that a client put there. -/
def NothingIn (files : ClientFiles) : FileEnding → Prop
  | .registration => files.reg = []
  | .subscribe => subscriptions files.sub = []
  | .will => files.wil = Option.none
  | .publish => queue files.pub = []

instance (files : ClientFiles) (ending : FileEnding) : Decidable (files.NothingIn ending) :=
  match ending with
  | .registration => inferInstanceAs (Decidable (files.reg = []))
  | .subscribe => inferInstanceAs (Decidable (subscriptions files.sub = []))
  | .will => inferInstanceAs (Decidable (files.wil = Option.none))
  | .publish => inferInstanceAs (Decidable (queue files.pub = []))

/-- No topic registrations, no subscriptions, no will and no queued messages. -/
def Fresh (files : ClientFiles) : Prop := ∀ ending, files.NothingIn ending

end ClientFiles

/-- `SD.exists` finds the file and `SD.remove` deletes it where `SD.open` put it. -/
def SDLinuxFake.Deletes (sd : SDLinuxFake) (number : CString) (ending : FileEnding) : Prop :=
  sd.exists (filenameWithExtension number ending) = true ∧ sd.removes (filenameWithExtension number ending) = true

namespace ClientFiles

variable {files : ClientFiles} {sd : SDLinuxFake} {number : CString} {ending other : FileEnding}

theorem nothingIn_clear : (files.clear other).NothingIn ending ↔ ending = other ∨ files.NothingIn ending := by
  cases ending <;> cases other <;> simp [clear, NothingIn, subscriptions, queue]

theorem nothingIn_deleteFile :
    (sd.deleteFile number files other).NothingIn ending ↔
      files.NothingIn ending ∨ ending = other ∧ sd.Deletes number other := by
  unfold SDLinuxFake.deleteFile SDLinuxFake.Deletes
  simp only
  split
  · split
    · rw [nothingIn_clear]
      tauto
    · tauto
  · tauto

theorem nothingIn_deleted :
    (files.deleted sd number).NothingIn ending ↔ files.NothingIn ending ∨ sd.Deletes number ending := by
  unfold deleted
  simp only [nothingIn_deleteFile]
  cases ending <;> simp

theorem nothingIn_subscribe : files.NothingIn .subscribe ↔ Gateway.subscriptionCount files.sub = 0 := by
  unfold NothingIn subscriptions Gateway.subscriptionCount
  rw [List.filter_eq_nil_iff, List.countP_eq_zero]
  simp

end ClientFiles

namespace Gateway

variable {g after g' : Gateway} {s s' : Store} {clientId number : CString} {address : DeviceAddress}
  {duration : UInt16} {clean : Bool} {result : CoreResult} {ending : FileEnding}

theorem Removal.nothingIn (removal : Removal number g s g' s') (elsewhere : ending ≠ .subscribe) :
    (s'.files number).NothingIn ending ↔ (s.files number).NothingIn ending := by
  induction removal with
  | refl => rfl
  | round _ _ _ ih =>
    rw [← ih]
    unfold Store.removeSubscription
    rw [Store.files_uncount, Store.files_modifyFiles_self]
    cases ending with
    | subscribe => exact absurd rfl elsewhere
    | _ => rfl

/-- A client id is registered when a slot in use carries it. -/
def HasClient (g : Gateway) (clientId : CString) : Prop :=
  ∃ n, (g.store.nthClient n).clientStatus ≠ .empty ∧ (g.store.nthClient n).clientId = clientId

def numberGiven (g : Gateway) (clientId : CString) (clean : Bool) : CString :=
  match g.store.slotOfId clientId with
  | some n =>
    if clean then fileNumber (g.store.writeSlot n .zero).findEmptyEntrySpace else (g.store.nthClient n).fileNumber
  | none => fileNumber g.store.findEmptyEntrySpace

/-- The file is one of those that `add_client` deletes on its way, which does succeed; it has removed the
    subscriptions before. -/
def DeletesOnTheWay (g : Gateway) (clientId : CString) (clean : Bool) (ending : FileEnding) : Prop :=
  clean = true ∧ ∃ n, g.store.slotOfId clientId = some n ∧
    (g.store.nthClient n).fileNumber = g.numberGiven clientId clean ∧
    (ending = .subscribe ∨ g.persistent.sd.Deletes (g.numberGiven clientId clean) ending)

/-- Each of the four files of the number given holds nothing, or what it holds is deleted by this call. -/
def NoLeftovers (g : Gateway) (clientId : CString) (clean : Bool) : Prop :=
  ∀ ending, (g.store.files (g.numberGiven clientId clean)).NothingIn ending ∨ g.DeletesOnTheWay clientId clean ending

theorem named_before_free {n : Nat} (before : n < s.findEmptyEntrySpace) :
    (s.nthClient n).clientId ≠ .empty := by
  unfold findEmptyEntrySpace at before
  cases scan : s.clients.findIdx? fun entry => entry.clientId.length = 0 with
  | some slot =>
    obtain ⟨inside, _, first⟩ := findIdx?_clients.mp scan
    rw [scan] at before
    simp only at before
    intro empty
    have named := first n (by omega)
    rw [empty] at named
    cases named
  | none =>
    rw [scan] at before
    simp only at before
    have inside : n < s.clients.length := by
      have := Nat.mod_le s.clients.length 65536
      omega
    have named := List.findIdx?_eq_none_iff.mp scan _ (List.getElem_mem inside)
    rw [← nthClient_inside inside] at named
    intro empty
    rw [empty] at named
    cases named

theorem slotOfId_insertClient {milliseconds : UInt32} (ok : s.Ok) (nonzero : address ≠ .zero)
    (fits : clientId.length < 24) (absent : clientId ≠ .empty → ∀ m, (s.nthClient m).clientId ≠ clientId) :
    (s.insertClient clientId address milliseconds).slotOfId clientId = some s.findEmptyEntrySpace := by
  have after : (s.insertClient clientId address milliseconds).Ok := ok.insertClient nonzero fits absent
  have entered := nthClient_insertClient s clientId address milliseconds
  apply after.slots.slotOfId_eq_some.mpr
  refine ⟨?_, by rw [entered]; rfl, ?_⟩
  · apply inside_of_ne_zero
    rw [entered]
    intro zero
    exact fileNumber_ne_empty (congrArg EntryClient.fileNumber zero)
  · intro n before
    rw [nthClient_insertClient_ne (by omega)]
    by_cases given : clientId = .empty
    · subst given
      exact named_before_free before
    · exact absent given n

section Added

variable (sound : g.Sound) (nonzero : address ≠ .zero)
include sound nonzero

theorem AddsClient.given (adds : AddsClient g clientId duration clean address .success after) :
    ∃ n, after.store.slotOfId clientId = some n ∧
      (after.store.nthClient n).fileNumber = g.numberGiven clientId clean := by
  cases adds with
  | new _ fits missing =>
    have absent := fun given => (sound.ok.slots.slotOfId_eq_none given).mp missing
    refine ⟨_, slotOfId_insertClient sound.ok nonzero fits absent, ?_⟩
    rw [store_settled, nthClient_insertClient]
    unfold numberGiven
    rw [missing]
    rfl
  | @reset n _ _ kept found =>
    have ok : (g.store.writeSlot n ((g.store.nthClient n).reset clientId address (milliseconds duration))).Ok :=
      sound.ok.reset nonzero found
    obtain ⟨_, _, first⟩ := sound.ok.slots.slotOfId_eq_some.mp found
    refine ⟨n, ok.slots.slotOfId_eq_some.mpr ⟨?_, ?_, ?_⟩, ?_⟩
    · rw [length_writeSlot]
      omega
    · rw [nthClient_writeSlot_self]
      rfl
    · intro m before
      rw [nthClient_writeSlot_ne (by omega)]
      exact first m before
    · rw [store_settled, nthClient_writeSlot_self]
      unfold numberGiven
      rw [found, kept]
      rfl
  | @cleaned n _ s _ fits cleaned found removal none_left =>
    have ok := removal.ok sound.ok
    have selected : s.slotOfId clientId = some n := by
      unfold slotOfId at found ⊢
      rwa [removal.clients]
    refine ⟨_, slotOfId_insertClient (ok.deleteClient none_left) nonzero fits
      (fun given m => ok.nthClient_deleteClient given m), ?_⟩
    rw [store_settled, nthClient_insertClient]
    unfold numberGiven
    rw [found, cleaned]
    simp only [if_true]
    have same : (s.deleteClient g.persistent.sd (g.store.nthClient n).fileNumber clientId).findEmptyEntrySpace =
        (g.store.writeSlot n .zero).findEmptyEntrySpace := by
      unfold findEmptyEntrySpace
      rw [clients_deleteClient selected]
      unfold writeSlot
      rw [removal.clients]
    rw [same]
    rfl

end Added

theorem AddsClient.nothingIn (adds : AddsClient g clientId duration clean address .success after) :
    (after.store.files (g.numberGiven clientId clean)).NothingIn ending ↔
      (g.store.files (g.numberGiven clientId clean)).NothingIn ending ∨ g.DeletesOnTheWay clientId clean ending := by
  cases adds with
  | new _ _ missing =>
    have undeleted : ¬ g.DeletesOnTheWay clientId clean ending := by
      rintro ⟨_, n, found, _⟩
      rw [missing] at found
      cases found
    rw [or_iff_left undeleted]
    rfl
  | reset _ _ kept _ =>
    have undeleted : ¬ g.DeletesOnTheWay clientId clean ending := by
      rintro ⟨cleaned, _⟩
      rw [kept] at cleaned
      cases cleaned
    rw [or_iff_left undeleted]
    rfl
  | @cleaned n _ s _ _ cleaned found removal none_left =>
    have deleted : g.DeletesOnTheWay clientId clean ending ↔
        (g.store.nthClient n).fileNumber = g.numberGiven clientId clean ∧
          (ending = .subscribe ∨ g.persistent.sd.Deletes (g.numberGiven clientId clean) ending) := by
      constructor
      · rintro ⟨_, m, other, holds⟩
        rw [found] at other
        cases other
        exact holds
      · exact fun holds => ⟨cleaned, n, found, holds⟩
    rw [deleted, store_settled]
    unfold Store.insertClient
    rw [files_writeSlot, files_deleteClient]
    generalize g.numberGiven clientId clean = number
    by_cases own : number = (g.store.nthClient n).fileNumber
    · subst own
      rw [if_pos rfl, ClientFiles.nothingIn_deleted]
      by_cases subscribe : ending = .subscribe
      · subst subscribe
        have nothing := ClientFiles.nothingIn_subscribe.mpr none_left
        simp [nothing]
      · rw [removal.nothingIn subscribe]
        simp [subscribe]
    · rw [if_neg own, removal.files_other own]
      simp [Ne.symm own]


/-- A client that is let in starts with nothing exactly when its slot has no leftovers, new or not. -/
theorem addClient_fresh {sender : SockaddrIn} (reachable : g.Reachable)
    (succeeded : addClient pahoMqttMessageHandler g clientId duration clean sender.getDeviceAddress =
      some (.success, after)) :
    (∃ n, after.store.slotOfId clientId = some n ∧
      (after.store.files (after.store.nthClient n).fileNumber).Fresh) ↔ g.NoLeftovers clientId clean := by
  have nonzero := sender.getDeviceAddress_ne_zero
  have adds := addClient_addsClient reachable.sound succeeded
  obtain ⟨n, selected, number⟩ := adds.given reachable.sound nonzero
  unfold NoLeftovers ClientFiles.Fresh
  rw [selected]
  simp only [Option.some.injEq, exists_eq_left', number]
  exact forall_congr' fun ending => adds.nothingIn

end Gateway

namespace Scenario

/-- A client with a registered topic, in a gateway that keeps its files below its working directory. -/
def withRegistration : Gateway :=
  (run [47, 100] [.mqttConnect, .datagram (client 1) (Datagram.connect (name 65) 10 0) [],
    .datagram (client 1) (Datagram.register 1 (name 116)) []]).get (by decide +kernel)

theorem reachable_withRegistration : withRegistration.Reachable := reachable_run (Option.some_get _).symm

def reconnection : CoreResult × Gateway :=
  (Gateway.addClient pahoMqttMessageHandler withRegistration (name 65) 10 true (client 1).getDeviceAddress).get
    (by decide +kernel)

def reconnected : Gateway := reconnection.2

theorem addClient_reconnected :
    Gateway.addClient pahoMqttMessageHandler withRegistration (name 65) 10 true (client 1).getDeviceAddress =
      some (.success, reconnected) := by
  have returned : Gateway.addClient pahoMqttMessageHandler withRegistration (name 65) 10 true
      (client 1).getDeviceAddress = some reconnection := (Option.some_get _).symm
  have succeeds : reconnection.1 = .success := by decide +kernel
  rw [returned, ← succeeds]
  rfl

theorem addClient_fresh_reconnected :
    (∃ n, reconnected.store.slotOfId (name 65) = some n ∧
      (reconnected.store.files (reconnected.store.nthClient n).fileNumber).Fresh) ↔
        withRegistration.NoLeftovers (name 65) true :=
  Gateway.addClient_fresh reachable_withRegistration addClient_reconnected

/-- Its registration survives: `SD.exists` misses the slash behind the directory. -/
theorem cleanSession_keeps_registration :
    ¬ ∀ (g after : Gateway) (clientId : CString) (duration : UInt16) (clean : Bool) (sender : SockaddrIn),
      g.Reachable → clean = true ∨ ¬ g.HasClient clientId →
      Gateway.addClient pahoMqttMessageHandler g clientId duration clean sender.getDeviceAddress =
        some (.success, after) →
      ∃ n, after.store.slotOfId clientId = some n ∧ (after.store.files (after.store.nthClient n).fileNumber).Fresh := by
  intro claim
  obtain ⟨n, selected, fresh⟩ := claim withRegistration reconnected (name 65) 10 true (client 1)
    reachable_withRegistration (.inl rfl) addClient_reconnected
  have first : reconnected.store.slotOfId (name 65) = some 0 := by decide +kernel
  rw [first] at selected
  cases selected
  have registrations : (reconnected.store.files (reconnected.store.nthClient 0).fileNumber).reg =
      [⟨1, name 116, true⟩] := by decide +kernel
  have nothing : (reconnected.store.files (reconnected.store.nthClient 0).fileNumber).reg = [] := fresh .registration
  rw [registrations] at nothing
  cases nothing

end Scenario

end MqttSnGateway
