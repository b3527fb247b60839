import MqttSnGateway.Core.Traversal

namespace MqttSnGateway

open Persistent Store

namespace Gateway

variable {g after : Gateway} {address : DeviceAddress} {clientId : CString} {duration : UInt16} {clean will : Bool}

def milliseconds (duration : UInt16) : UInt32 := duration.toUInt32 * 1000

/-- What `add_client` does: a client id that is too long is refused, one that is not registered gets a slot, and
    one that is goes on in its slot or, with clean session, loses its subscriptions, is deleted and entered anew. -/
inductive AddsClient (g : Gateway) (clientId : CString) (duration : UInt16) (clean : Bool) (address : DeviceAddress) :
    CoreResult → Gateway → Prop
  | offline (offline : g.persistent.isMqttOnline = false) : AddsClient g clientId duration clean address .zero g
  | long {after : Gateway} (long : 24 ≤ clientId.length) (settles : g.Settles g.store after) (silent : after.sent = g.sent) :
    AddsClient g clientId duration clean address .zero after
  | new (online : g.persistent.isMqttOnline = true) (fits : clientId.length < 24)
    (missing : g.store.slotOfId clientId = none) :
    AddsClient g clientId duration clean address .success
      (g.settled (g.store.insertClient clientId address (milliseconds duration))
        (.new clientId g.store.findEmptyEntrySpace address (milliseconds duration)))
  | reset {n : Nat} (online : g.persistent.isMqttOnline = true) (fits : clientId.length < 24) (kept : clean = false)
    (found : g.store.slotOfId clientId = some n) :
    AddsClient g clientId duration clean address .success
      (g.settled (g.store.writeSlot n ((g.store.nthClient n).reset clientId address (milliseconds duration)))
        ((g.store.nthClient n).reset clientId address (milliseconds duration)))
  | cleaned {n : Nat} {g' : Gateway} {s : Store} (online : g.persistent.isMqttOnline = true)
    (fits : clientId.length < 24) (cleaned : clean = true)
    (found : g.store.slotOfId clientId = some n)
    (removal : Removal (g.store.nthClient n).fileNumber g g.store g' s)
    (none_left : subscriptionCount (s.files (g.store.nthClient n).fileNumber).sub = 0) :
    AddsClient g clientId duration clean address .success
      (g'.settled ((s.deleteClient g.persistent.sd (g.store.nthClient n).fileNumber clientId).insertClient clientId address
          (milliseconds duration))
        (.new clientId (s.deleteClient g.persistent.sd (g.store.nthClient n).fileNumber clientId).findEmptyEntrySpace
          address (milliseconds duration)))

theorem addClient_addsClient {result : CoreResult} (sound : g.Sound)
    (returned : addClient pahoMqttMessageHandler g clientId duration clean address = some (result, after)) :
    AddsClient g clientId duration clean address result after := by
  cases online : g.persistent.isMqttOnline with
  | false =>
    rw [addClient_offline online] at returned
    cases returned
    exact .offline online
  | true =>
    by_cases long : 24 ≤ clientId.length
    · obtain ⟨after', same, settles, silent⟩ := addClient_long duration clean address sound.idle online long
      rw [same] at returned
      cases returned
      exact .long long settles silent
    · have fits : clientId.length < 24 := by omega
      cases selection : g.store.slotOfId clientId with
      | none =>
        rw [addClient_new sound.idle online fits selection] at returned
        cases returned
        exact .new online fits selection
      | some n =>
        cases clean with
        | false =>
          rw [addClient_reset sound.idle online fits selection] at returned
          cases returned
          exact .reset online fits rfl selection
        | true =>
          have filesOk := sound.ok.files (g.store.nthClient n).fileNumber
          cases removed : removeClientSubscriptions pahoMqttMessageHandler
              (g.inside g.store (g.store.nthClient n) false false) with
          | none =>
            rw [addClient_stuck sound.idle online fits selection removed] at returned
            cases returned
          | some between =>
            have rounds := removed
            unfold removeClientSubscriptions at rounds
            obtain ⟨g', s, rfl, removal, none_left⟩ := removeClientSubscriptionsLoop_removal filesOk rounds
            rw [addClient_clean sound.idle online fits selection (removal.filesOk filesOk).subShort none_left
              removed, removal.called.persistent] at returned
            cases returned
            exact .cleaned online fits rfl selection removal none_left

theorem AddsClient.sound {result : CoreResult} (adds : AddsClient g clientId duration clean address result after)
    (sound : g.Sound) (nonzero : address ≠ .zero) : after.Sound := by
  cases adds with
  | offline _ => exact sound
  | long _ settles _ => exact ⟨settles.idle, settles.store ▸ sound.ok⟩
  | new _ fits missing =>
    refine ⟨idle_settled, sound.ok.insertClient nonzero fits ?_⟩
    exact fun given => (sound.ok.slots.slotOfId_eq_none given).mp missing
  | reset _ _ _ found => exact ⟨idle_settled, sound.ok.reset nonzero found⟩
  | cleaned _ fits _ found removal none_left =>
    have ok := removal.ok sound.ok
    exact ⟨idle_settled, (ok.deleteClient none_left).insertClient nonzero fits
      fun given m => ok.nthClient_deleteClient given m⟩

theorem AddsClient.registered (adds : AddsClient g clientId duration clean address .success after) :
    ∃ n, (after.store.nthClient n).clientId = clientId ∧ (after.store.nthClient n).clientAddress = address ∧
      (after.store.nthClient n).clientStatus = .active := by
  cases adds with
  | new _ _ _ =>
    have entered := nthClient_insertClient g.store clientId address (milliseconds duration)
    exact ⟨_, by rw [store_settled, entered]; rfl, by rw [store_settled, entered]; rfl,
      by rw [store_settled, entered]; rfl⟩
  | @reset n _ _ _ found =>
    refine ⟨n, ?_⟩
    rw [store_settled, nthClient_writeSlot_self]
    exact ⟨rfl, rfl, rfl⟩
  | @cleaned n _ s _ _ _ _ _ _ =>
    have entered := nthClient_insertClient (s.deleteClient g.persistent.sd (g.store.nthClient n).fileNumber clientId)
      clientId address (milliseconds duration)
    exact ⟨_, by rw [store_settled, entered]; rfl, by rw [store_settled, entered]; rfl,
      by rw [store_settled, entered]; rfl⟩

/-- How a CONNECT is answered. With a will the client is asked for its topic first, and this answer is awaited by
    the client that the address selects. -/
inductive Connection (g : Gateway) (clientId : CString) (duration : UInt16) (will clean : Bool)
    (address : DeviceAddress) : Gateway → Prop
  | rejected {between : Gateway} {result : CoreResult} {code : UInt8}
    (adds : AddsClient g clientId duration clean address result between) (refused : result ≠ .success)
    (negative : code ≠ ReturnCode.accepted) :
    Connection g clientId duration will clean address (between.send address (.connack code))
  | accepted {between : Gateway} (adds : AddsClient g clientId duration clean address .success between)
    (unwilling : will = false) :
    Connection g clientId duration will clean address (between.send address (.connack ReturnCode.accepted))
  | asked {between last : Gateway} (adds : AddsClient g clientId duration clean address .success between)
    (willing : will = true)
    (settles : between.Settles (between.store.updateAt address fun entry => { entry with awaitMessage := .willtopic }) last)
    (silent : last.sent = between.sent) :
    Connection g clientId duration will clean address (last.send address .willtopicreq)

theorem handleConnect_connection (sound : g.Sound) (nonzero : address ≠ .zero)
    (returned : handleConnect pahoMqttMessageHandler g address clientId duration will clean = some after) :
    Connection g clientId duration will clean address after := by
  unfold handleConnect at returned
  obtain ⟨⟨result, between⟩, added, answered⟩ := Option.map_eq_some_iff.mp returned
  have adds := addClient_addsClient sound added
  cases result with
  | success =>
    simp only at answered
    cases will with
    | true =>
      have second := adds.sound sound nonzero
      obtain ⟨n, _, here, _⟩ := adds.registered
      obtain ⟨m, _, found⟩ := second.ok.slots.slotOfAddress_here nonzero here
      rw [if_pos rfl, awaitMessage_found second.idle found] at answered
      rw [← answered]
      refine .asked adds rfl ?_ rfl
      rw [updateAt_found found]
      exact Settles.settled
    | false =>
      rw [if_neg (by simp)] at answered
      rw [← answered]
      exact .accepted adds rfl
  | full =>
    rw [← answered]
    exact .rejected adds (by simp) (by decide)
  | _ =>
    rw [← answered]
    exact .rejected adds (by simp) (by decide)

theorem Connection.sound (connection : Connection g clientId duration will clean address after) (sound : g.Sound)
    (nonzero : address ≠ .zero) : after.Sound := by
  cases connection with
  | rejected adds _ _ =>
    have between := adds.sound sound nonzero
    exact between.settles (Settles.refl between.idle).send between.ok
  | accepted adds _ =>
    have between := adds.sound sound nonzero
    exact between.settles (Settles.refl between.idle).send between.ok
  | asked adds _ settles _ =>
    have between := adds.sound sound nonzero
    exact between.settles settles.send (between.ok.updateAt nonzero (keeps_await _))

end Gateway

end MqttSnGateway
