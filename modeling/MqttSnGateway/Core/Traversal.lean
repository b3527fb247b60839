import MqttSnGateway.Core.Touched

namespace MqttSnGateway

open Persistent Store

namespace Gateway

section Rules

variable {body : Nat → EntryClient → Gateway → Option Gateway} {stops : DeviceAddress → Bool} {last : DeviceAddress}
  {I : Nat → Gateway → Prop} {g after : Gateway}

/-- The rule for a traversal of the registry: `I n` holds before the visit of slot `n`, `J (n + 1)` behind it,
    and the traversal goes on to a slot that neither stops it nor has the address of the last client. -/
theorem traverse_rule {J : Nat → Gateway → Prop}
    (visit : ∀ n g g', I n g → body n (g.store.nthClient n) g = some g' → J (n + 1) g')
    (pass : ∀ n g, J n g → stops (g.store.nthClient n).clientAddress = false →
      (g.store.nthClient n).clientAddress ≠ last → I n g)
    {fuel n : Nat} {outcome : Option (Nat × EntryClient)} (start : I n g)
    (left : traverse body stops last fuel n (g.store.nthClient n) g = some (outcome, after)) :
    ∃ m, J m after ∧ (outcome = none ∧ stops (after.store.nthClient m).clientAddress = true ∨
      outcome = some (m, after.store.nthClient m) ∧ stops (after.store.nthClient m).clientAddress = false ∧
        (after.store.nthClient m).clientAddress = last) := by
  induction fuel generalizing n g with
  | zero =>
    unfold traverse at left
    obtain ⟨next, visited, rest⟩ := Option.bind_eq_some_iff.mp left
    have kept := visit n g next start visited
    simp only at rest
    split at rest
    · rename_i stopped
      cases rest
      exact ⟨n + 1, kept, .inl ⟨rfl, stopped⟩⟩
    · rename_i going
      split at rest
      · rename_i final
        cases rest
        exact ⟨n + 1, kept, .inr ⟨rfl, eq_false_of_ne_true going, final⟩⟩
      · cases rest
  | succ fuel ih =>
    unfold traverse at left
    obtain ⟨next, visited, rest⟩ := Option.bind_eq_some_iff.mp left
    have kept := visit n g next start visited
    simp only at rest
    split at rest
    · rename_i stopped
      cases rest
      exact ⟨n + 1, kept, .inl ⟨rfl, stopped⟩⟩
    · rename_i going
      split at rest
      · rename_i final
        cases rest
        exact ⟨n + 1, kept, .inr ⟨rfl, eq_false_of_ne_true going, final⟩⟩
      · rename_i other
        exact ih (pass (n + 1) next kept (eq_false_of_ne_true going) other) rest

/-- A traversal whose visits all return ends, if behind a bound it stops or meets the last client. -/
theorem traverse_returns {J : Nat → Gateway → Prop} {bound : Nat}
    (visit : ∀ n g, I n g → ∃ g', body n (g.store.nthClient n) g = some g' ∧ J (n + 1) g')
    (pass : ∀ n g, J n g → stops (g.store.nthClient n).clientAddress = false →
      (g.store.nthClient n).clientAddress ≠ last → I n g)
    (ends : ∀ n g, J n g → bound ≤ n → stops (g.store.nthClient n).clientAddress = true ∨
      (g.store.nthClient n).clientAddress = last)
    {fuel n : Nat} (start : I n g) (enough : bound ≤ n + fuel + 1) :
    (traverse body stops last fuel n (g.store.nthClient n) g).isSome = true := by
  induction fuel generalizing n g with
  | zero =>
    obtain ⟨next, visited, kept⟩ := visit n g start
    unfold traverse
    rw [visited, Option.bind_some]
    rcases ends (n + 1) next kept (by omega) with stopped | final
    · simp only [stopped, if_true, Option.isSome_some]
    · simp only [final, if_true]
      split <;> rfl
  | succ fuel ih =>
    obtain ⟨next, visited, kept⟩ := visit n g start
    unfold traverse
    rw [visited, Option.bind_some]
    simp only
    split
    · rfl
    · rename_i going
      split
      · rfl
      · rename_i other
        exact ih (pass (n + 1) next kept (eq_false_of_ne_true going) other) (by omega)

theorem traverseFromFirst_rule (visit : ∀ n g g', I n g → body n (g.store.nthClient n) g = some g' → I (n + 1) g')
    {outcome : Option (Nat × EntryClient)} (start : I 0 g)
    (left : traverseFromFirst body stops last g = some (outcome, after)) :
    ∃ m, I m after ∧ (outcome = none ∨ outcome = some (m, after.store.nthClient m)) := by
  obtain ⟨m, kept, ⟨rfl, _⟩ | ⟨rfl, _⟩⟩ := traverse_rule visit (fun _ _ kept _ _ => kept) start left
  · exact ⟨m, kept, .inl rfl⟩
  · exact ⟨m, kept, .inr rfl⟩

theorem serviceClients_rule (visit : ∀ n g g', I n g → body n (g.store.nthClient n) g = some g' → I (n + 1) g')
    (start : I 0 g) (serviced : serviceClients body stops last g = some after) : ∃ m, I m after := by
  unfold serviceClients at serviced
  obtain ⟨⟨outcome, between⟩, left, finished⟩ := Option.bind_eq_some_iff.mp serviced
  obtain ⟨m, kept, rfl | rfl⟩ := traverseFromFirst_rule visit start left
  · cases finished
    exact ⟨m, kept⟩
  · exact ⟨m + 1, visit m between after kept finished⟩

end Rules

/-- The processes the gateway is in between two operations: no transaction is open and the store is well formed. -/
structure Sound (g : Gateway) : Prop where
  idle : g.persistent.Idle
  ok : g.store.Ok

section Parts

variable {g after : Gateway} {slot : EntryClient} {elapsed : UInt32} {address : DeviceAddress} {n k m : Nat}

theorem Sound.settles {s : Store} (_ : g.Sound) (settles : g.Settles s after) (ok : s.Ok) : after.Sound :=
  ⟨settles.idle, settles.store ▸ ok⟩

theorem Touches.sound (touches : g.Touches address after) (sound : g.Sound) (nonzero : address ≠ .zero) :
    after.Sound :=
  ⟨touches.settles.idle, touches.touched.ok sound.ok nonzero⟩

theorem Removal.ok {number : CString} {s s' : Store} {g' : Gateway} (removal : Removal number g s g' s') (ok : s.Ok) :
    s'.Ok := by
  induction removal with
  | refl => exact ok
  | round _ _ _ ih => exact ih.removeSubscription

theorem Removal.nthClient {number : CString} {s s' : Store} {g' : Gateway} (removal : Removal number g s g' s')
    (k : Nat) : s'.nthClient k = s.nthClient k := by
  unfold Store.nthClient
  rw [removal.clients]

theorem TimesOut.sound (timesOut : TimesOut g slot elapsed after) (sound : g.Sound)
    (nonzero : slot.clientAddress ≠ .zero) : after.Sound := by
  cases timesOut with
  | disconnected _ => exact sound
  | running _ _ settles _ =>
    exact ⟨settles.idle, settles.store ▸ sound.ok.updateAt nonzero (keeps_timeout _)⟩
  | lost _ _ _ settles _ => exact ⟨settles.idle, settles.store ▸ sound.ok.updateAt nonzero (keeps_lost _)⟩
  | deleted found _ _ removal none_left =>
    exact ⟨idle_settled, (removal.ok (sound.ok.updateAt nonzero (keeps_lost _))).deleteClient none_left⟩

theorem TimesOut.behind (timesOut : TimesOut g slot elapsed after) (sound : g.Sound)
    (nonzero : slot.clientAddress ≠ .zero) (found : g.store.slotOfAddress slot.clientAddress = some m) (reached : m ≤ n)
    (registered : n < g.store.clients.length) (here : (g.store.nthClient n).clientId = slot.clientId) (beyond : n < k) :
    after.store.nthClient k = g.store.nthClient k := by
  cases timesOut with
  | disconnected _ => rfl
  | running _ _ settles _ =>
    rw [settles.store]
    exact (Touched.refl.entry (keeps_timeout _)).behind sound.ok nonzero found (by omega)
  | lost _ _ _ settles _ =>
    rw [settles.store]
    exact (Touched.refl.entry (keeps_lost _)).behind sound.ok nonzero found (by omega)
  | @deleted _ _ _ s _ _ _ removal none_left =>
    have touched : Touched slot.clientAddress g.store (g.store.updateAt slot.clientAddress fun entry =>
        { entry with timeout := slot.timeout + elapsed, clientStatus := .lost }) := Touched.refl.entry (keeps_lost _)
    have ok : s.Ok := removal.ok (touched.ok sound.ok nonzero)
    have same := touched.behind sound.ok nonzero found (Nat.lt_of_le_of_lt reached beyond)
    have kept : (s.nthClient n).clientId = slot.clientId := by
      rw [removal.nthClient, touched.clientId sound.ok nonzero found reached, here]
    have inside : n < s.clients.length := by
      rw [removal.clients]
      exact Nat.lt_of_lt_of_le registered length_updateAt
    obtain ⟨first, before, selection⟩ := ok.slots.slotOfId_here inside kept
    rw [store_settled, nthClient_deleteClient_ne, removal.nthClient, same]
    rw [selection]
    intro equal
    cases equal
    omega

end Parts

section Visit

variable {g after : Gateway} {elapsed : UInt32} {n k : Nat} {drained : ClientStatus → Bool}
  {status : ClientStatus} {notice : SnMessage} {hasHeartBeaten : Bool}

/-- The body of the loops over the clients, for a registered client in slot `n`. -/
def Visits (drained : ClientStatus → Bool) (status : ClientStatus) (notice : SnMessage) (hasHeartBeaten : Bool)
    (elapsed : UInt32) (n : Nat) (slot : EntryClient) (g after : Gateway) : Prop :=
  ∃ delivered ready, Delivery (g.visiting n) slot.clientAddress delivered ∧
    Drained delivered (drained slot.clientStatus) status notice slot.clientAddress ready ∧
    if hasHeartBeaten = true then TimesOut ready slot elapsed after else after = ready

theorem serviceClient_empty {slot : EntryClient} (idle : g.persistent.Idle) (empty : slot.clientStatus = .empty)
    (skipped : drained .empty = false)
    (returned : serviceClient pahoMqttMessageHandler drained status notice hasHeartBeaten elapsed n slot g = some after) :
    (g.visiting n).Settles g.store after ∧ after.sent = g.sent := by
  have undelivered : handleClientPublishes slot.clientStatus slot.clientAddress (g.visiting n) = g.visiting n := by
    unfold handleClientPublishes
    rw [empty]
    rfl
  have unready : Drained (g.visiting n) false status notice slot.clientAddress
      (drain false status notice slot.clientAddress (g.visiting n)) := drain_unready idle
  have running : ∀ g', handleTimeout pahoMqttMessageHandler slot elapsed g' = some g' := by
    intro g'
    apply handleTimeout_disconnected
    rw [empty]
    rfl
  rw [serviceClient_eq] at returned
  simp only [undelivered, running, ite_self, Option.some.injEq] at returned
  rw [empty, skipped] at returned
  rw [returned] at unready
  cases unready with
  | kept settles silent => exact ⟨settles, silent⟩
  | changed ready _ _ => cases ready

theorem serviceClient_ready (drained : ClientStatus → Bool) (notice : SnMessage) (sound : g.Sound)
    (registered : (g.store.nthClient n).clientStatus ≠ .empty) (used : status ≠ .empty) :
    let slot := g.store.nthClient n
    let delivered := handleClientPublishes slot.clientStatus slot.clientAddress (g.visiting n)
    let ready := drain (drained slot.clientStatus) status notice slot.clientAddress delivered
    Delivery (g.visiting n) slot.clientAddress delivered ∧
      Drained delivered (drained slot.clientStatus) status notice slot.clientAddress ready ∧ ready.Sound ∧
        ∃ k m, g.store.slotOfAddress slot.clientAddress = some k ∧ ready.store.slotOfAddress slot.clientAddress = some m ∧
          (g.store.nthClient k).Same (ready.store.nthClient m) := by
  have nonzero := (sound.ok.slots.fits n).addressed registered
  obtain ⟨k, _, found⟩ := sound.ok.slots.slotOfAddress_here nonzero rfl
  have delivery : Delivery (g.visiting n) (g.store.nthClient n).clientAddress
      (handleClientPublishes (g.store.nthClient n).clientStatus (g.store.nthClient n).clientAddress (g.visiting n)) :=
    handleClientPublishes_delivers sound.idle sound.ok found
  simp only
  generalize handleClientPublishes (g.store.nthClient n).clientStatus (g.store.nthClient n).clientAddress
    (g.visiting n) = delivered at delivery ⊢
  have first : delivered.Sound := delivery.touches.sound ⟨sound.idle, sound.ok⟩ nonzero
  obtain ⟨m', _, selection, _⟩ := delivery.touches.touched.selected sound.ok nonzero found
  have drains : Drained delivered (drained (g.store.nthClient n).clientStatus) status notice
      (g.store.nthClient n).clientAddress
      (drain (drained (g.store.nthClient n).clientStatus) status notice (g.store.nthClient n).clientAddress delivered) :=
    drain_drained first.idle selection
  obtain ⟨m, _, last, same⟩ := (delivery.touches.trans (drains.touches used)).touched.selected sound.ok nonzero found
  exact ⟨delivery, drains, (drains.touches used).sound first nonzero, k, m, found, last, same⟩

theorem serviceClient_parts (sound : g.Sound) (registered : (g.store.nthClient n).clientStatus ≠ .empty)
    (used : status ≠ .empty)
    (returned : serviceClient pahoMqttMessageHandler drained status notice hasHeartBeaten elapsed n
      (g.store.nthClient n) g = some after) :
    let slot := g.store.nthClient n
    let delivered := handleClientPublishes slot.clientStatus slot.clientAddress (g.visiting n)
    Delivery (g.visiting n) slot.clientAddress delivered ∧
      ∃ ready, Drained delivered (drained slot.clientStatus) status notice slot.clientAddress ready ∧
        if hasHeartBeaten = true then TimesOut ready slot elapsed after else after = ready := by
  obtain ⟨delivery, drains, second, _, m, _, last, _⟩ := serviceClient_ready drained notice sound registered used
  rw [serviceClient_eq] at returned
  refine ⟨delivery, _, drains, ?_⟩
  cases hasHeartBeaten with
  | true => exact handleTimeout_timesOut second.idle (second.ok.files _) (sound.ok.slots.fits n).named last returned
  | false =>
    cases returned
    rfl

theorem serviceClient_visits (sound : g.Sound) (registered : (g.store.nthClient n).clientStatus ≠ .empty)
    (used : status ≠ .empty)
    (returned : serviceClient pahoMqttMessageHandler drained status notice hasHeartBeaten elapsed n
      (g.store.nthClient n) g = some after) :
    Visits drained status notice hasHeartBeaten elapsed n (g.store.nthClient n) g after := by
  obtain ⟨delivery, ready, drains, timesOut⟩ := serviceClient_parts sound registered used returned
  exact ⟨_, ready, delivery, drains, timesOut⟩

theorem Visits.touches {slot : EntryClient} (visits : Visits drained status notice hasHeartBeaten elapsed n slot g after)
    (used : status ≠ .empty) :
    ∃ ready, (g.visiting n).Touches slot.clientAddress ready ∧
      if hasHeartBeaten = true then TimesOut ready slot elapsed after else after = ready := by
  obtain ⟨delivered, ready, delivery, drains, timesOut⟩ := visits
  exact ⟨ready, delivery.touches.trans (drains.touches used), timesOut⟩

theorem Visits.sound {slot : EntryClient} (visits : Visits drained status notice hasHeartBeaten elapsed n slot g after)
    (sound : g.Sound) (nonzero : slot.clientAddress ≠ .zero) (used : status ≠ .empty) : after.Sound := by
  obtain ⟨ready, touches, timesOut⟩ := visits.touches used
  have second : ready.Sound := touches.sound ⟨sound.idle, sound.ok⟩ nonzero
  cases hasHeartBeaten with
  | true => exact timesOut.sound second nonzero
  | false =>
    cases timesOut
    exact second

theorem Visits.behind (visits : Visits drained status notice hasHeartBeaten elapsed n (g.store.nthClient n) g after)
    (sound : g.Sound) (registered : (g.store.nthClient n).clientStatus ≠ .empty) (used : status ≠ .empty)
    (beyond : n < k) : after.store.nthClient k = g.store.nthClient k := by
  have nonzero := (sound.ok.slots.fits n).addressed registered
  obtain ⟨m, reached, found⟩ := sound.ok.slots.slotOfAddress_here nonzero rfl
  obtain ⟨ready, touches, timesOut⟩ := visits.touches used
  have second : ready.Sound := touches.sound ⟨sound.idle, sound.ok⟩ nonzero
  have same : ready.store.nthClient k = g.store.nthClient k :=
    touches.touched.behind sound.ok nonzero found (by omega)
  cases hasHeartBeaten with
  | true =>
    obtain ⟨m', before, selection, _⟩ := touches.touched.selected sound.ok nonzero found
    have here : (ready.store.nthClient n).clientId = (g.store.nthClient n).clientId :=
      touches.touched.clientId sound.ok nonzero found reached
    have inside : n < g.store.clients.length := by
      apply inside_of_ne_zero
      intro zero
      rw [zero] at registered
      exact registered rfl
    have inside' : n < ready.store.clients.length :=
      Nat.lt_of_lt_of_le inside touches.touched.length
    rw [timesOut.behind second nonzero selection (by omega) inside' here beyond, same]
  | false =>
    cases timesOut
    exact same

end Visit

end Gateway

end MqttSnGateway
