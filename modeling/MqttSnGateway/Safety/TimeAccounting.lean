import MqttSnGateway.Safety.PrematureLoss

namespace MqttSnGateway

open Persistent Store

/-- What happens to the gateway: a moment of its runs, or `notify_mqtt_disconnected`, after which MQTT is offline. -/
inductive Occasion where
  | moment (moment : Moment)
  | mqttDisconnected

/-- What is noted for a slot: the clock readings of the last two heartbeats, and what its client is charged. The start of
    the program, where the clock shows 0, stands for the heartbeats before the first. -/
structure Account where
  previous : UInt32
  beat : UInt32
  tally : WrappingClock.Tally

namespace Account

def begun : Account := ⟨0, 0, .empty⟩

def heartbeat (account : Account) (reading : UInt32) : Account :=
  { account with previous := account.beat, beat := reading }

def charge (account : Account) (added : UInt32) : Account :=
  { account with tally := account.tally.charge account.previous account.beat added.toNat }

end Account

namespace Gateway

variable {g after : Gateway} {slot : EntryClient} {elapsed : UInt32} {i : Nat}

theorem TimesOut.charged (timesOut : TimesOut g slot elapsed after) (orderly : g.Orderly)
    (nonzero : slot.clientAddress ≠ .zero) (found : g.store.slotOfAddress slot.clientAddress = some i)
    (connected : slot.clientStatus.connected = true) (stays : (after.store.nthClient i).clientStatus.connected = true) :
    (after.store.nthClient i).timeout = slot.timeout + elapsed := by
  have slots := orderly.sound.ok.slots
  have updated : ∀ f, (g.store.updateAt slot.clientAddress f).nthClient i = f (g.store.nthClient i) := by
    intro f
    rw [orderly.regular.nthClient_updateAt slots nonzero, if_pos found]
  cases timesOut with
  | disconnected silent =>
    rw [silent] at connected
    cases connected
  | running _ _ settles _ => rw [settles.store, updated]
  | lost _ _ _ settles _ =>
    rw [settles.store, updated] at stays
    cases stays
  | @deleted _ _ _ s _ _ _ removal _ =>
    rw [store_settled] at stays
    by_cases erased : s.slotOfId slot.clientId = some i
    · rw [nthClient_congr (clients_deleteClient erased), nthClient_writeSlot_self] at stays
      cases stays
    · rw [nthClient_deleteClient_ne erased, removal.nthClient, updated] at stays
      cases stays

end Gateway

namespace Stage

variable {stage later : Stage} {n : Nat} {account noted : Account}

/-- What an occasion leads to; MQTT goes offline between two operations of the core only. -/
def occur (stage : Stage) : Occasion → Option Stage
  | .moment moment => step stage moment
  | .mqttDisconnected =>
    if stage.round.isNone && !stage.gateway.halted then
      some { stage with gateway := stage.gateway.notifyMqttDisconnected }
    else none

/-- The client in slot `n` is ACTIVE, ASLEEP or AWAKE. -/
def connected (stage : Stage) (n : Nat) : Bool := (stage.gateway.store.nthClient n).clientStatus.connected

def stays (stage : Stage) (later : Stage) (n : Nat) : Bool :=
  stage.connected n && later.connected n &&
    (later.gateway.store.nthClient n).clientId = (stage.gateway.store.nthClient n).clientId

def heartBeats (stage : Stage) (beat : UInt32) : Bool :=
  stage.gateway.persistent.isMqttsnOnline && (stage.gateway.system.hasBeaten beat).1

def charges (stage : Stage) (n : Nat) : Bool :=
  match stage.round with
  | some round =>
    let slot := stage.gateway.store.nthClient round.slot
    round.hasHeartBeaten && slot.clientStatus.connected && stage.gateway.store.slotOfAddress slot.clientAddress = some n
  | none => false

/-- The readings of the heartbeats, and the sum of what `handle_timeout` adds to the stored timeout. -/
def observed (n : Nat) (stage : Stage) (occasion : Occasion) (later : Stage) (account : Account) : Account :=
  match occasion with
  | .mqttDisconnected => account
  | .moment (.input input) =>
    match input.event with
    | .restart => .begun
    | .loop beat elapsed =>
      if stage.heartBeats beat then account.heartbeat elapsed else account
    | _ => account
  | .moment .visit =>
    if stage.charges n then
      account.charge ((later.gateway.store.nthClient n).timeout - (stage.gateway.store.nthClient n).timeout)
    else account

/-- The account of slot `n`: a client that does not stay connected, or another one, starts anew. -/
def book (n : Nat) (stage : Stage) (occasion : Occasion) (later : Stage) (account : Account) : Account :=
  let account := observed n stage occasion later account
  if stage.stays later n then account else { account with tally := .empty }

/-- Runs with the account of slot `n`, whose steps meet `allowed`. -/
def AccountedRun (n : Nat) (allowed : Stage × Account → Occasion → Prop) : Stage × Account → Prop :=
  Runs.Run (Runs.recorded occur (book n)) allowed fun state => initial state.1 ∧ state.2 = .begun

/-- Besides that no emptied slot is revived and no address is shared: whenever the heart beats while the client in slot `n`
    is connected, the clock was read last at the heartbeat before, and MQTT is online or no time has passed since. No
    traversal that has time to charge ends before slot `n` once its client has been charged. -/
structure Metered (n : Nat) (state : Stage × Account) (occasion : Occasion) : Prop where
  separating : ∀ moment, occasion = .moment moment → Separating state.1 moment
  referred : ∀ input beat elapsed, occasion = .moment (.input input) → input.event = .loop beat elapsed →
    state.1.heartBeats beat = true → state.1.connected n = true →
    state.1.gateway.system.elapsedCurrent = state.2.beat ∧
      (state.1.gateway.persistent.isMqttOnline = true ∨ elapsed = state.1.gateway.system.elapsedCurrent)
  reached : ∀ round, occasion = .moment .visit → state.1.round = some round → round.hasHeartBeaten = true →
    round.slot < n → state.1.connected n = true → state.2.tally.since ≠ none → round.elapsedTime ≠ 0 →
    round.stops (state.1.gateway.store.nthClient (round.slot + 1)).clientAddress = false

/-- The time that the traversal under way has still to charge to slot `n`. -/
def due (stage : Stage) (n : Nat) : Option UInt32 :=
  match stage.round with
  | some round => if round.hasHeartBeaten && round.slot ≤ n then some round.elapsedTime else none
  | none => none

/-- What was charged reaches up to the last heartbeat, or up to the one before while the last one is still to be charged. -/
structure Balances (n : Nat) (stage : Stage) (account : Account) : Prop where
  tally : account.tally.Balanced
  due : stage.connected n = true → ∀ elapsedTime, stage.due n = some elapsedTime →
    elapsedTime = account.beat - account.previous ∧
      (account.tally.since ≠ none → account.tally.last = account.previous)
  settled : stage.connected n = true → stage.due n = none → account.tally.since ≠ none →
    account.tally.last = account.beat
  ahead : stage.connected n = true → ∀ round, stage.round = some round → round.slot ≤ n →
    round.last ≠ .zero ∧ (∀ m < n, (stage.gateway.store.nthClient m).clientAddress ≠ round.last) ∧
      (round.final = true → (stage.gateway.store.nthClient round.slot).clientAddress = round.last)

theorem stays_connected (stays : stage.stays later n = true) : stage.connected n = true ∧ later.connected n = true := by
  unfold Stage.stays at stays
  simp only [Bool.and_eq_true] at stays
  exact stays.1

theorem Balances.of_observed (tally : stage.stays later n = true → noted.tally.Balanced)
    (due : later.connected n = true → ∀ elapsedTime, later.due n = some elapsedTime →
      elapsedTime = noted.beat - noted.previous ∧ (noted.tally.since ≠ none → noted.tally.last = noted.previous))
    (settled : stage.stays later n = true → later.due n = none → noted.tally.since ≠ none →
      noted.tally.last = noted.beat)
    (ahead : later.connected n = true → ∀ round, later.round = some round → round.slot ≤ n →
      round.last ≠ .zero ∧ (∀ m < n, (later.gateway.store.nthClient m).clientAddress ≠ round.last) ∧
        (round.final = true → (later.gateway.store.nthClient round.slot).clientAddress = round.last)) :
    Balances n later (if stage.stays later n then noted else { noted with tally := .empty }) := by
  split
  · rename_i staying
    exact ⟨tally staying, due, fun _ => settled staying, ahead⟩
  · refine ⟨WrappingClock.Tally.balanced_empty, fun connected elapsedTime owed => ?_, fun _ _ first => absurd rfl first, ahead⟩
    exact ⟨(due connected elapsedTime owed).1, fun first => absurd rfl first⟩

theorem due_passed (passed : ∀ round, stage.round = some round → n < round.slot) : stage.due n = none := by
  unfold Stage.due
  split
  · rename_i round under
    have beyond := passed round under
    rw [decide_eq_false (show ¬ round.slot ≤ n by omega), Bool.and_false]
    rfl
  · rfl

/-- Once the traversal has passed a slot, and between two traversals, nothing is due. -/
theorem Balances.of_passed (passed : ∀ round, later.round = some round → n < round.slot)
    (tally : stage.stays later n = true → noted.tally.Balanced)
    (settled : stage.stays later n = true → noted.tally.since ≠ none → noted.tally.last = noted.beat) :
    Balances n later (if stage.stays later n then noted else { noted with tally := .empty }) := by
  apply Balances.of_observed tally
  · intro _ elapsedTime owed
    rw [due_passed passed] at owed
    cases owed
  · exact fun staying _ => settled staying
  · intro _ round under reached
    have beyond := passed round under
    omega

/-- The traversal goes at least as far as a client that is connected, whose address no slot before it has. -/
theorem lastClientAddress_ahead (separate : stage.gateway.Separate) (connected : stage.connected n = true) :
    stage.gateway.store.lastClientAddress .zero ≠ .zero ∧
      ∀ m < n, (stage.gateway.store.nthClient m).clientAddress ≠ stage.gateway.store.lastClientAddress .zero := by
  have slots := separate.orderly.sound.ok.slots
  have registered := ClientStatus.ne_empty_of_connected connected
  rcases stage.gateway.store.lastClientAddress_cases .zero with ⟨emptied, _⟩ | ⟨l, used, behind, last⟩
  · exact absurd (emptied n) registered
  · have nonzero := (slots.fits l).addressed used
    have inside : n ≤ l := by
      by_contra beyond
      exact registered (behind n (by omega))
    rw [last]
    refine ⟨nonzero, fun m before same => ?_⟩
    have equal := separate.unshared m l same (same ▸ nonzero)
    omega

theorem begin_balances {input : Input} {beat elapsed : UInt32} (separate : stage.gateway.Separate)
    (balances : Balances n stage account) (waiting : stage.round = none) (event : input.event = .loop beat elapsed)
    (metered : Metered n (stage, account) (.moment (.input input)))
    (begins : begin (stage.gateway.prepare input) beat elapsed = some later)
    (kept : later.gateway.store = stage.gateway.store) :
    Balances n later (book n stage (.moment (.input input)) later account) := by
  have same : later.connected n = stage.connected n := by
    unfold connected
    rw [kept]
  have before : stage.due n = none := by
    unfold Stage.due
    rw [waiting]
  have observe : observed n stage (.moment (.input input)) later account =
      if stage.heartBeats beat then account.heartbeat elapsed else account := by
    unfold observed
    simp only [event]
  unfold book
  simp only
  rw [observe]
  rcases begin_round begins with ⟨finished, nobody⟩ | ⟨online, round, under, slot, final, last, used, beaten, charge⟩
  · -- Nobody is visited: the sensor network is offline or nobody is registered.
    have unread : stage.connected n = true → stage.heartBeats beat = false := by
      intro connected
      rcases nobody with offline | nobody
      · unfold heartBeats
        rw [show stage.gateway.persistent.isMqttsnOnline = false from offline]
        rfl
      · exact absurd nobody (lastClientAddress_ahead separate connected).1
    apply Balances.of_passed
    · intro round under
      rw [finished] at under
      cases under
    · intro _
      split <;> exact balances.tally
    · intro staying first
      have connected := (stays_connected staying).1
      rw [unread connected] at first ⊢
      exact balances.settled connected before first
  · have owes : later.due n = if round.hasHeartBeaten then some round.elapsedTime else none := by
      unfold Stage.due
      rw [under]
      simp [slot]
    have ahead : later.connected n = true → ∀ other, later.round = some other → other.slot ≤ n →
        other.last ≠ .zero ∧ (∀ m < n, (later.gateway.store.nthClient m).clientAddress ≠ other.last) ∧
          (other.final = true → (later.gateway.store.nthClient other.slot).clientAddress = other.last) := by
      intro connected other goes _
      cases under.symm.trans goes
      rw [same] at connected
      rw [kept, last]
      refine ⟨last ▸ used, (lastClientAddress_ahead separate connected).2, fun ended => ?_⟩
      rw [final] at ended
      cases ended
    change round.hasHeartBeaten = (stage.gateway.system.hasBeaten beat).1 at beaten
    change round.elapsedTime = (if stage.gateway.persistent.isMqttOnline = true then
      if (stage.gateway.system.hasBeaten beat).1 = true then elapsed - stage.gateway.system.elapsedCurrent else 0
      else (elapsed - stage.gateway.system.elapsedCurrent) / 1000) at charge
    have beats : stage.heartBeats beat = round.hasHeartBeaten := by
      unfold heartBeats
      rw [beaten, show stage.gateway.persistent.isMqttsnOnline = true from online, Bool.true_and]
    rw [beats]
    cases marked : round.hasHeartBeaten with
    | false =>
      have nothing : later.due n = none := by
        rw [owes, marked]
        rfl
      simp only [Bool.false_eq_true, if_false]
      apply Balances.of_observed fun _ => balances.tally
      · intro _ elapsedTime owed
        rw [nothing] at owed
        cases owed
      · exact fun staying _ => balances.settled (stays_connected staying).1 before
      · exact ahead
    | true =>
      have owing : later.due n = some round.elapsedTime := by
        rw [owes, marked]
        rfl
      simp only [if_true]
      apply Balances.of_observed fun _ => show (account.heartbeat elapsed).tally.Balanced from balances.tally
      · intro connected elapsedTime owed
        rw [same] at connected
        cases owing.symm.trans owed
        obtain ⟨current, unscaled⟩ := metered.referred input beat elapsed rfl event (beats.trans marked) connected
        have current : stage.gateway.system.elapsedCurrent = account.beat := current
        rw [← beaten, marked, current] at charge
        refine ⟨?_, balances.settled connected before⟩
        change round.elapsedTime = elapsed - account.beat
        rw [charge]
        rcases unscaled with mqtt | still
        · exact if_pos mqtt
        · have unmoved : elapsed = account.beat := still.trans current
          rw [unmoved, UInt32.sub_self]
          split <;> rfl
      · intro _ nothing
        cases owing.symm.trans nothing
      · exact ahead

theorem visit_behind {round : Round} {i : Nat} (sound : stage.gateway.Sound) (under : stage.round = some round)
    (stepped : step stage .visit = some later) (behind : round.slot < i) :
    later.gateway.store.nthClient i = stage.gateway.store.nthClient i := by
  cases step_stepped stepped with
  | empty _ _ quiet => rw [(quiet sound).store]
  | visit goes registered returned =>
    cases under.symm.trans goes
    exact (Gateway.serviceClient_visits sound registered round.used.1 returned).behind sound registered round.used.1 behind

theorem visit_address {i : Nat} (separate : stage.gateway.Separate) (separating : Separating stage .visit)
    (stepped : step stage .visit = some later) :
    (later.gateway.store.nthClient i).clientAddress = (stage.gateway.store.nthClient i).clientAddress ∨
      (later.gateway.store.nthClient i).clientAddress = .zero := by
  cases step_follows separate.orderly separating.alive stepped i with
  | goesOn same => exact .inl same.clientAddress
  | erased zero =>
    rw [zero]
    exact .inr rfl
  | entered admitted =>
    obtain ⟨_, same, _⟩ := admitted
    cases same

theorem charges_iff {round : Round} (separate : stage.gateway.Separate) (under : stage.round = some round) :
    stage.charges n = true ↔ round.hasHeartBeaten = true ∧ round.slot = n ∧ stage.connected n = true := by
  unfold charges connected
  rw [under]
  simp only [Bool.and_eq_true, decide_eq_true_eq]
  constructor
  · rintro ⟨⟨beaten, connected⟩, found⟩
    cases (separate.selected (ClientStatus.ne_empty_of_connected connected)).symm.trans found
    exact ⟨beaten, rfl, connected⟩
  · rintro ⟨beaten, rfl, connected⟩
    exact ⟨⟨beaten, connected⟩, separate.selected (ClientStatus.ne_empty_of_connected connected)⟩

theorem visit_charge {round : Round} (separate : stage.gateway.Separate) (under : stage.round = some round)
    (beaten : round.hasHeartBeaten = true) (stays : stage.stays later round.slot = true)
    (stepped : step stage .visit = some later) :
    (later.gateway.store.nthClient round.slot).timeout - (stage.gateway.store.nthClient round.slot).timeout =
      round.elapsedTime := by
  obtain ⟨before, after⟩ := stays_connected stays
  have visit := separate.visit (ClientStatus.ne_empty_of_connected before) (step_visit under stepped)
  have timesOut := visit.timesOut
  rw [if_pos beaten] at timesOut
  rw [timesOut.charged visit.second visit.nonzero visit.found before after]
  grind

theorem visit_balances {round : Round} (separate : stage.gateway.Separate) (balances : Balances n stage account)
    (under : stage.round = some round) (metered : Metered n (stage, account) (.moment .visit))
    (stepped : step stage .visit = some later) :
    Balances n later (book n stage (.moment .visit) later account) := by
  have separating := metered.separating _ rfl
  have advances : ∀ next, later.round = some next → next.slot = round.slot + 1 := by
    intro next onward
    rcases visit_round under stepped with ⟨finished, _⟩ | goes
    · cases finished.symm.trans onward
    · cases goes.symm.trans onward
      rfl
  unfold book observed
  simp only
  rcases Nat.lt_trichotomy round.slot n with before | rfl | passed
  · -- The traversal has not reached the slot.
    have uncharged : ¬ stage.charges n = true := by
      intro charged
      have here := ((charges_iff separate under).mp charged).2.1
      omega
    have same : later.connected n = stage.connected n := by
      unfold connected
      rw [visit_behind separate.orderly.sound under stepped before]
    have owes : stage.due n = if round.hasHeartBeaten then some round.elapsedTime else none := by
      unfold Stage.due
      rw [under]
      simp only
      rw [decide_eq_true (show round.slot ≤ n by omega), Bool.and_true]
    rw [if_neg uncharged]
    rcases visit_round under stepped with ⟨finished, ends⟩ | goes
    · apply Balances.of_passed
      · intro next onward
        cases finished.symm.trans onward
      · exact fun _ => balances.tally
      · intro staying charged
        have connected := (stays_connected staying).1
        obtain ⟨_, ahead, last⟩ := balances.ahead connected round under (Nat.le_of_lt before)
        have stops := ends.resolve_left fun final => ahead round.slot before (last final)
        rw [visit_behind separate.orderly.sound under stepped (Nat.lt_succ_self _)] at stops
        cases beaten : round.hasHeartBeaten with
        | false =>
          rw [beaten] at owes
          exact balances.settled connected owes charged
        | true =>
          rw [beaten] at owes
          obtain ⟨difference, joins⟩ := balances.due connected _ owes
          have still : round.elapsedTime = 0 := by
            by_contra time
            rw [metered.reached round rfl under beaten before connected charged time] at stops
            cases stops
          rw [joins charged]
          rw [still] at difference
          grind
    · have owed_same : later.due n = stage.due n := by
        rw [owes]
        unfold Stage.due
        rw [goes]
        simp only
        rw [decide_eq_true (show round.slot + 1 ≤ n by omega), Bool.and_true]
      apply Balances.of_observed fun _ => balances.tally
      · intro connected elapsedTime owed
        exact balances.due (same ▸ connected) elapsedTime (owed_same ▸ owed)
      · intro staying nothing
        exact balances.settled (stays_connected staying).1 (owed_same ▸ nothing)
      · intro connected next onward _
        obtain ⟨used, ahead, _⟩ := balances.ahead (same ▸ connected) round under (Nat.le_of_lt before)
        cases goes.symm.trans onward
        refine ⟨used, fun m earlier => ?_, of_decide_eq_true⟩
        rcases visit_address (i := m) separate separating stepped with kept | zero
        · rw [kept]
          exact ahead m earlier
        · rw [zero]
          exact used.symm
  · -- It visits the slot.
    have onward : ∀ next, later.round = some next → round.slot < next.slot := by
      intro next goes
      have slot := advances next goes
      omega
    have owes : stage.due round.slot = if round.hasHeartBeaten then some round.elapsedTime else none := by
      unfold Stage.due
      rw [under]
      simp only
      rw [decide_eq_true (Nat.le_refl _), Bool.and_true]
    by_cases charged : stage.charges round.slot = true
    · obtain ⟨beaten, _, connected⟩ := (charges_iff separate under).mp charged
      rw [beaten] at owes
      obtain ⟨difference, joins⟩ := balances.due connected _ owes
      rw [if_pos charged]
      apply Balances.of_passed onward
      · intro staying
        apply balances.tally.charge joins
        rw [visit_charge separate under beaten staying stepped, difference]
      · exact fun _ _ => rfl
    · rw [if_neg charged]
      apply Balances.of_passed onward fun _ => balances.tally
      intro staying first
      have connected := (stays_connected staying).1
      have still : round.hasHeartBeaten = false := by
        by_contra beaten
        exact charged ((charges_iff separate under).mpr ⟨by simpa using beaten, rfl, connected⟩)
      rw [still] at owes
      exact balances.settled connected owes first
  · -- It is past the slot.
    have uncharged : ¬ stage.charges n = true := by
      intro charged
      have here := ((charges_iff separate under).mp charged).2.1
      omega
    have nothing : stage.due n = none := by
      apply due_passed
      intro other same
      cases under.symm.trans same
      exact passed
    rw [if_neg uncharged]
    apply Balances.of_passed
    · intro next goes
      have slot := advances next goes
      omega
    · exact fun _ => balances.tally
    · intro staying first
      exact balances.settled (stays_connected staying).1 nothing first

variable {occasion : Occasion}

theorem occur_separate (separate : stage.gateway.Separate) (metered : Metered n (stage, account) occasion)
    (taken : occur stage occasion = some later) : later.gateway.Separate := by
  cases occasion with
  | moment moment => exact step_separate separate (metered.separating moment rfl) taken
  | mqttDisconnected =>
    unfold occur at taken
    simp only at taken
    split at taken
    · cases taken
      have idle := separate.orderly.sound.idle
      have sound : stage.gateway.notifyMqttDisconnected.Sound :=
        ⟨⟨idle.closed, idle.clean, idle.known⟩, separate.orderly.sound.ok⟩
      exact ⟨⟨sound, separate.orderly.regular⟩, separate.unshared⟩
    · cases taken

/-- What comes without a traversal charges nothing; a new start of the program opens a new account. -/
theorem waiting_balances (balances : Balances n stage account) (waiting : stage.round = none)
    (finished : later.round = none)
    (same : observed n stage occasion later account = account ∨ observed n stage occasion later account = .begun) :
    Balances n later (book n stage occasion later account) := by
  have before : stage.due n = none := by
    unfold Stage.due
    rw [waiting]
  unfold book
  simp only
  apply Balances.of_passed
  · intro round under
    cases finished.symm.trans under
  · intro _
    rcases same with same | same
    · rw [same]
      exact balances.tally
    · rw [same]
      exact WrappingClock.Tally.balanced_empty
  · intro staying first
    rcases same with same | same
    · rw [same] at first ⊢
      exact balances.settled (stays_connected staying).1 before first
    · rw [same] at first
      exact absurd rfl first

theorem occur_balances (separate : stage.gateway.Separate) (balances : Balances n stage account)
    (metered : Metered n (stage, account) occasion) (taken : occur stage occasion = some later) :
    Balances n later (book n stage occasion later account) := by
  cases occasion with
  | mqttDisconnected =>
    unfold occur at taken
    simp only at taken
    split at taken
    · rename_i between
      simp only [Bool.and_eq_true, Option.isNone_iff_eq_none] at between
      cases taken
      exact waiting_balances balances between.1 between.1 (.inl rfl)
    · cases taken
  | moment moment =>
    cases step_stepped taken with
    | @event input after between other stepped =>
      apply waiting_balances balances between rfl
      unfold observed
      simp only
      cases event : input.event with
      | restart => exact .inr rfl
      | loop beat elapsed => exact absurd event (other beat elapsed)
      | _ => exact .inl rfl
    | @disconnected input after beat elapsed between event offline stepped =>
      apply waiting_balances balances between rfl
      unfold observed heartBeats
      simp only [event, offline, Bool.false_and, Bool.false_eq_true, if_false]
      exact .inl trivial
    | @begun input beat elapsed later between event begins quiet =>
      exact begin_balances separate balances between event metered begins (quiet separate.orderly.sound.idle).store
    | empty under _ _ => exact visit_balances separate balances under metered taken
    | visit under _ _ => exact visit_balances separate balances under metered taken

theorem balances_of_run {state : Stage × Account} (run : AccountedRun n (Metered n) state) :
    state.1.gateway.Separate ∧ Balances n state.1 state.2 := by
  induction run with
  | @start state first =>
    obtain ⟨⟨begins, waiting⟩, opened⟩ := first
    refine ⟨Gateway.separate_initial begins, ?_⟩
    rw [opened]
    refine ⟨WrappingClock.Tally.balanced_empty, ?_, fun _ _ charged => absurd rfl charged, ?_⟩
    · intro _ elapsedTime owed
      unfold Stage.due at owed
      rw [waiting] at owed
      cases owed
    · intro _ round under
      cases waiting.symm.trans under
  | next _ meets taken ih =>
    obtain ⟨happened, record⟩ := Runs.recorded_eq_some.mp taken
    rw [record]
    exact ⟨occur_separate ih.1 meets happened, occur_balances ih.1 ih.2 meets happened⟩

/-- What a client is charged is the time from the heartbeat before its first charge to its last one. -/
theorem time_accounted {state : Stage × Account} (run : AccountedRun n (Metered n) state) : state.2.tally.Exact := (balances_of_run run).2.tally.exact

end Stage

namespace Scenario

def account (state : Stage × Account) (occasion : Occasion) : Option (Stage × Account) :=
  Runs.recorded Stage.occur (Stage.book 1) state occasion

def accountStarted : Stage × Account := (started, .begun)

def accountOnline : Stage × Account :=
  (account accountStarted (.moment (event .mqttConnect))).get (by decide +kernel)

def accountFirst : Stage × Account :=
  (account accountOnline (.moment (event (.datagram (client 1) (Datagram.connect (name 65) 1000 0) [])))).get
    (by decide +kernel)

def accountBoth : Stage × Account :=
  (account accountFirst (.moment (event (.datagram (client 2) (Datagram.connect (name 66) 1000 0) [])))).get
    (by decide +kernel)

def accountBeat : Stage × Account :=
  (account accountBoth (.moment (event (.loop 20000 20000)))).get (by decide +kernel)

def accountVisit : Stage × Account := (account accountBeat (.moment .visit)).get (by decide +kernel)

def accountCharged : Stage × Account := (account accountVisit (.moment .visit)).get (by decide +kernel)

def accountLost : Stage × Account :=
  (account accountCharged (.moment (event .mqttConnectionLost))).get (by decide +kernel)

def accountOffline : Stage × Account := (account accountLost .mqttDisconnected).get (by decide +kernel)

def accountAgain : Stage × Account :=
  (account accountOffline (.moment (event .mqttConnect))).get (by decide +kernel)

def accountSecond : Stage × Account :=
  (account accountAgain (.moment (event (.loop 50000 50000)))).get (by decide +kernel)

def accountOther : Stage × Account := (account accountSecond (.moment .visit)).get (by decide +kernel)

def accountTwice : Stage × Account := (account accountOther (.moment .visit)).get (by decide +kernel)

variable {state : Stage × Account} {n : Nat}

theorem metered_event {input : Event} (unbeaten : ∀ beat elapsed, input ≠ .loop beat elapsed)
    (separating : Stage.Separating state.1 (event input)) : Stage.Metered n state (.moment (event input)) := by
  constructor
  · rintro _ ⟨⟩
    exact separating
  · rintro _ beat elapsed ⟨⟩ same
    exact absurd same (unbeaten beat elapsed)
  · rintro _ ⟨⟩

theorem metered_loop {beat elapsed : UInt32} (current : state.1.gateway.system.elapsedCurrent = state.2.beat)
    (mqtt : state.1.gateway.persistent.isMqttOnline = true) :
    Stage.Metered n state (.moment (event (.loop beat elapsed))) := by
  constructor
  · rintro _ ⟨⟩
    exact separating_event fun _ _ _ _ _ => nofun
  · rintro _ _ _ ⟨⟩ _ _ _
    exact ⟨current, .inl mqtt⟩
  · rintro _ ⟨⟩

theorem metered_visit (reached : ∀ round, state.1.round = some round → round.slot < n →
    round.stops (state.1.gateway.store.nthClient (round.slot + 1)).clientAddress = false) :
    Stage.Metered n state (.moment .visit) := by
  constructor
  · rintro _ ⟨⟩
    exact ⟨nofun, fun _ _ _ _ _ _ same => by cases same⟩
  · rintro _ _ _ ⟨⟩
  · intro round _ under _ before _ _ _
    exact reached round under before

theorem metered_mqttDisconnected : Stage.Metered n state .mqttDisconnected := by
  constructor
  · rintro _ ⟨⟩
  · rintro _ _ _ ⟨⟩
  · rintro _ ⟨⟩

theorem run_accountTwice : Stage.AccountedRun 1 (Stage.Metered 1) accountTwice := by
  have connected : ∀ state : Stage × Account, Stage.Metered 1 state (.moment (event .mqttConnect)) := fun _ =>
    metered_event (fun _ _ => nofun) (separating_event fun _ _ _ _ _ => nofun)
  have first : Stage.Metered 1 accountOnline
      (.moment (event (.datagram (client 1) (Datagram.connect (name 65) 1000 0) []))) := by
    apply metered_event fun _ _ same => by cases same
    exact separating_connect (by rfl) (by decide +kernel) (by decide +kernel)
  have second : Stage.Metered 1 accountFirst
      (.moment (event (.datagram (client 2) (Datagram.connect (name 66) 1000 0) []))) := by
    apply metered_event fun _ _ same => by cases same
    exact separating_connect (by rfl) (by decide +kernel) (by decide +kernel)
  have visit : Stage.Metered 1 accountBeat (.moment .visit) := by
    apply metered_visit
    intro round under _
    obtain rfl : accountBeat.1.round.get (by decide +kernel) = round := Option.get_of_mem _ under
    decide +kernel
  have last : Stage.Metered 1 accountVisit (.moment .visit) := by
    apply metered_visit
    intro round under before
    obtain rfl : accountVisit.1.round.get (by decide +kernel) = round := Option.get_of_mem _ under
    exact absurd before (by decide +kernel)
  have again : Stage.Metered 1 accountSecond (.moment .visit) := by
    apply metered_visit
    intro round under _
    obtain rfl : accountSecond.1.round.get (by decide +kernel) = round := Option.get_of_mem _ under
    decide +kernel
  have ends : Stage.Metered 1 accountOther (.moment .visit) := by
    apply metered_visit
    intro round under before
    obtain rfl : accountOther.1.round.get (by decide +kernel) = round := Option.get_of_mem _ under
    exact absurd before (by decide +kernel)
  have lost : Stage.Metered 1 accountCharged (.moment (event .mqttConnectionLost)) :=
    metered_event (fun _ _ => nofun) (separating_event fun _ _ _ _ _ => nofun)
  have opened : Stage.AccountedRun 1 (Stage.Metered 1) accountOnline :=
    .next (.start ⟨⟨⟨configuration [47], rfl⟩, rfl⟩, rfl⟩) (connected _) (Option.some_get _).symm
  have both : Stage.AccountedRun 1 (Stage.Metered 1) accountBoth :=
    .next (.next opened first (Option.some_get _).symm) second (Option.some_get _).symm
  have charged : Stage.AccountedRun 1 (Stage.Metered 1) accountCharged :=
    .next (.next (.next both (metered_loop (by decide +kernel) (by decide +kernel)) (Option.some_get _).symm) visit
      (Option.some_get _).symm) last (Option.some_get _).symm
  have online : Stage.AccountedRun 1 (Stage.Metered 1) accountAgain :=
    .next (.next (.next charged lost
      (Option.some_get _).symm) metered_mqttDisconnected (Option.some_get _).symm) (connected _) (Option.some_get _).symm
  exact .next (.next (.next online (metered_loop (by decide +kernel) (by decide +kernel)) (Option.some_get _).symm) again
    (Option.some_get _).symm) ends (Option.some_get _).symm

theorem time_accounted_accountTwice : accountTwice.2.tally.Exact ∧ accountTwice.2.tally.since = some 0 ∧
    accountTwice.2.tally.total = 50000 ∧ accountTwice.1.connected 1 = true :=
  ⟨Stage.time_accounted run_accountTwice, by decide +kernel, by decide +kernel, by decide +kernel⟩

def accountAsleep : Stage × Account :=
  (account accountBoth (.moment (event (.datagram (client 1) [4, 0x18, 232, 3] [])))).get (by decide +kernel)

def accountSleep : Stage × Account :=
  (account accountAsleep (.moment (event (.datagram (client 2) [4, 0x18, 232, 3] [])))).get (by decide +kernel)

def accountRestart : Stage × Account := (account accountSleep (.moment (event .restart))).get (by decide +kernel)

def accountUnscaled : Stage × Account :=
  (account accountRestart (.moment (event (.loop 20000 20000)))).get (by decide +kernel)

def accountPassed : Stage × Account := (account accountUnscaled (.moment .visit)).get (by decide +kernel)

def accountSeconds : Stage × Account := (account accountPassed (.moment .visit)).get (by decide +kernel)

/-- In between heartbeats the offline procedure reads the clock too, and it divides what it charges by a thousand. -/
theorem time_dropped :
    ¬ ∀ (n : Nat) (state : Stage × Account), Stage.AccountedRun n (fun _ _ => True) state → state.2.tally.Exact := by
  intro claim
  have reached : Stage.AccountedRun 1 (fun _ _ => True) accountSeconds :=
    .next (.next (.next (.next (.next (.next (.next (.next (.next (.start ⟨⟨⟨configuration [47], rfl⟩, rfl⟩, rfl⟩)
      trivial (Option.some_get _).symm) trivial (Option.some_get _).symm) trivial (Option.some_get _).symm)
      trivial (Option.some_get _).symm) trivial (Option.some_get _).symm) trivial (Option.some_get _).symm)
      trivial (Option.some_get _).symm) trivial (Option.some_get _).symm) trivial (Option.some_get _).symm
  have exactly := claim 1 accountSeconds reached 0 (by decide +kernel) (by decide +kernel)
  exact absurd exactly (by decide +kernel)

end Scenario

end MqttSnGateway
