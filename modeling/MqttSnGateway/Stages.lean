import MqttSnGateway.Core.LoopSpecs
import MqttSnGateway.Core.RegularRuns
import MqttSnGateway.Datagrams

namespace MqttSnGateway

open Persistent Store

/-- A traversal of the registry that is under way, in `loop` or in the offline procedure: the slot that is visited
    next and whether the traversal ends with it. -/
structure Round where
  online : Bool
  hasHeartBeaten : Bool
  elapsedTime : UInt32
  last : DeviceAddress
  slot : Nat
  final : Bool

/-- The gateway between two operations of the core, where each visit of a traversal counts as one. -/
structure Stage where
  gateway : Gateway
  round : Option Round

/-- What happens next: an event, while no traversal is under way, or the next visit of the traversal. -/
inductive Moment where
  | input (input : Input)
  | visit

namespace Round

def drained (round : Round) (status : ClientStatus) : Bool :=
  if round.online then status = .awake else status = .active || status = .awake

def status (round : Round) : ClientStatus := if round.online then .asleep else .disconnected

def notice (round : Round) : SnMessage := if round.online then .pingresp else .disconnect

def stops (round : Round) (address : DeviceAddress) : Bool := round.online && address = .zero

def body (round : Round) : Nat → EntryClient → Gateway → Option Gateway :=
  Gateway.serviceClient pahoMqttMessageHandler round.drained round.status round.notice round.hasHeartBeaten round.elapsedTime

theorem used (round : Round) : round.status ≠ .empty ∧ round.drained .empty = false := by
  unfold Round.status Round.drained
  cases round.online <;> exact ⟨by decide, rfl⟩

end Round

namespace Stage

/-- `loop` up to its first visit; without a traversal it is over at once. -/
def begin (g : Gateway) (beat elapsed : UInt32) : Option Stage :=
  if g.persistent.isMqttsnOnline then
    let (hasHeartBeaten, system) := g.system.hasBeaten beat
    let last := g.store.lastClientAddress .zero
    if g.persistent.isMqttOnline then
      let (elapsedTime, system) := if hasHeartBeaten then system.getElapsedTime elapsed else (0, system)
      let g := { g with system := system }
      some ⟨g, if last = .zero then none else some ⟨true, hasHeartBeaten, elapsedTime, last, 0, false⟩⟩
    else
      let (elapsedTime, system) := system.getElapsedTime elapsed
      let g := { g with system := system }
      some (if last = .zero then ⟨g.exit, none⟩
        else ⟨g, some ⟨false, hasHeartBeaten, elapsedTime / 1000, last, 0, false⟩⟩)
  else (Gateway.loop pahoMqttMessageHandler beat elapsed g).map fun g => ⟨g, none⟩

/-- One visit, and the decision where the traversal goes from there. -/
def visit (g : Gateway) (round : Round) : Option Stage :=
  (round.body round.slot (g.store.nthClient round.slot) g).map fun g =>
    let next := (g.store.nthClient (round.slot + 1)).clientAddress
    if round.final || round.stops next then ⟨g, none⟩
    else ⟨g, some { round with slot := round.slot + 1, final := next = round.last }⟩

def step (stage : Stage) (moment : Moment) : Option Stage :=
  match stage.round, moment with
  | none, .input input =>
    match input.event with
    | .loop beat elapsed => if stage.gateway.halted then none else begin (stage.gateway.prepare input) beat elapsed
    | _ => (Gateway.step stage.gateway input).map fun g => ⟨g, none⟩
  | some round, .visit => visit stage.gateway round
  | _, _ => none

def initial (stage : Stage) : Prop := Gateway.initial stage.gateway ∧ stage.round = none

/-- Runs whose events meet `allowed`, with the visits of the traversals one by one. -/
def RunOf (allowed : Stage → Moment → Prop) : Stage → Prop := Runs.Run step allowed initial

def Visited (start : Stage) : Stage → Prop := Runs.Run step (fun _ moment => moment = .visit) fun stage => stage = start

section Refinement

variable {g after : Gateway} {start stage later : Stage} {round : Round} {allowed : Gateway → Input → Prop}

theorem Visited.next {g : Gateway} (visited : Visited start ⟨g, some round⟩) (taken : visit g round = some later) :
    Visited start later := Runs.Run.next visited rfl taken

theorem Visited.finished (visited : Visited ⟨g, none⟩ stage) : stage = ⟨g, none⟩ := by
  rcases visited.uncons with same | ⟨_, _, rfl, stepped, _⟩
  · exact same
  · cases stepped

theorem visit_returned {n : Nat} {final : Bool} (returned : round.body n (g.store.nthClient n) g = some after) :
    visit g { round with slot := n, final := final } = some
      (if final || round.stops (after.store.nthClient (n + 1)).clientAddress then ⟨after, none⟩
        else ⟨after, some { round with
          slot := n + 1, final := (after.store.nthClient (n + 1)).clientAddress = round.last }⟩) := by
  have body : ({ round with slot := n, final := final } : Round).body n (g.store.nthClient n) g = some after := returned
  unfold visit
  simp only [body, Option.map_some]
  rfl

/-- The loop of the source and its visits one by one come to the same gateway. -/
theorem visited_of_traverse {fuel n : Nat} {outcome : Option (Nat × EntryClient)}
    (before : Visited start ⟨g, some { round with slot := n, final := false }⟩)
    (left : Gateway.traverse round.body round.stops round.last fuel n (g.store.nthClient n) g = some (outcome, after)) :
    outcome = none ∧ Visited start ⟨after, none⟩ ∨
      ∃ m, outcome = some (m, after.store.nthClient m) ∧
        Visited start ⟨after, some { round with slot := m, final := true }⟩ := by
  induction fuel generalizing n g with
  | zero =>
    unfold Gateway.traverse at left
    obtain ⟨next, returned, rest⟩ := Option.bind_eq_some_iff.mp left
    have visited := before.next (visit_returned returned)
    simp only at rest
    split at rest
    · rename_i stopped
      cases rest
      rw [Bool.false_or, if_pos stopped] at visited
      exact .inl ⟨rfl, visited⟩
    · rename_i going
      rw [Bool.false_or, if_neg going] at visited
      split at rest
      · rename_i final
        cases rest
        rw [decide_eq_true final] at visited
        exact .inr ⟨n + 1, rfl, visited⟩
      · cases rest
  | succ fuel ih =>
    unfold Gateway.traverse at left
    obtain ⟨next, returned, rest⟩ := Option.bind_eq_some_iff.mp left
    have visited := before.next (visit_returned returned)
    simp only at rest
    split at rest
    · rename_i stopped
      cases rest
      rw [Bool.false_or, if_pos stopped] at visited
      exact .inl ⟨rfl, visited⟩
    · rename_i going
      rw [Bool.false_or, if_neg going] at visited
      split at rest
      · rename_i final
        cases rest
        rw [decide_eq_true final] at visited
        exact .inr ⟨n + 1, rfl, visited⟩
      · rename_i other
        rw [decide_eq_false other] at visited
        exact ih visited rest

theorem visited_of_serviceClients (round : Round)
    (returned : Gateway.serviceClients round.body round.stops round.last g = some after) :
    Visited ⟨g, some { round with slot := 0, final := false }⟩ ⟨after, none⟩ := by
  unfold Gateway.serviceClients at returned
  obtain ⟨⟨outcome, between⟩, left, finished⟩ := Option.bind_eq_some_iff.mp returned
  rcases visited_of_traverse (.start rfl) left with ⟨rfl, visited⟩ | ⟨m, rfl, visited⟩
  · cases finished
    exact visited
  · exact visited.next (visit_returned finished)

/-- A `loop` that returns begins and goes through its visits. -/
theorem visited_of_loop {beat elapsed : UInt32}
    (returned : Gateway.loop pahoMqttMessageHandler beat elapsed g = some after) :
    ∃ stage, begin g beat elapsed = some stage ∧ Visited stage ⟨after, none⟩ := by
  unfold begin
  cases sn : g.persistent.isMqttsnOnline with
  | false =>
    rw [if_neg (by simp), returned]
    exact ⟨⟨after, none⟩, rfl, .start rfl⟩
  | true =>
    unfold Gateway.loop at returned
    cases mqtt : g.persistent.isMqttOnline with
    | true =>
      rw [sn, mqtt] at returned
      simp only [Bool.not_true, Bool.or_self, Bool.false_eq_true, if_false] at returned
      simp only [if_true]
      cases beaten : (g.system.hasBeaten beat).1 with
      | true =>
        rw [beaten] at returned
        simp only [if_true] at returned ⊢
        split at returned
        · rename_i none_left
          cases returned
          exact ⟨_, rfl, by rw [if_pos (show g.store.lastClientAddress .zero = .zero from none_left)]; exact .start rfl⟩
        · rename_i some_left
          refine ⟨_, rfl, ?_⟩
          rw [if_neg (show ¬ g.store.lastClientAddress .zero = .zero from some_left)]
          exact visited_of_serviceClients ⟨true, true, _, _, 0, false⟩ returned
      | false =>
        rw [beaten] at returned
        simp only [Bool.false_eq_true, if_false] at returned ⊢
        split at returned
        · rename_i none_left
          cases returned
          exact ⟨_, rfl, by rw [if_pos (show g.store.lastClientAddress .zero = .zero from none_left)]; exact .start rfl⟩
        · rename_i some_left
          refine ⟨_, rfl, ?_⟩
          rw [if_neg (show ¬ g.store.lastClientAddress .zero = .zero from some_left)]
          exact visited_of_serviceClients ⟨true, false, _, _, 0, false⟩ returned
    | false =>
      rw [sn, mqtt] at returned
      simp only [Bool.not_true, Bool.not_false, Bool.or_true, Bool.and_self, if_true] at returned
      simp only [if_true, Bool.false_eq_true, if_false]
      unfold Gateway.processMqttOfflineProcedure at returned
      simp only at returned
      split at returned
      · rename_i none_left
        cases returned
        exact ⟨_, rfl, by rw [if_pos (show g.store.lastClientAddress .zero = .zero from none_left)]; exact .start rfl⟩
      · rename_i some_left
        refine ⟨_, rfl, ?_⟩
        rw [if_neg (show ¬ g.store.lastClientAddress .zero = .zero from some_left)]
        exact visited_of_serviceClients ⟨false, _, _, _, 0, false⟩ returned

/-- A condition on the events, whatever visits lie between them. -/
def onInputs (allowed : Gateway → Input → Prop) (stage : Stage) (moment : Moment) : Prop :=
  ∀ input, moment = .input input → allowed stage.gateway input

theorem step_input {input : Input} (stepped : Gateway.step g input = some after) :
    ∃ stage, step ⟨g, none⟩ (.input input) = some stage ∧ Visited stage ⟨after, none⟩ := by
  unfold step
  simp only
  cases event : input.event with
  | loop beat elapsed =>
    unfold Gateway.step Gateway.stepWith at stepped
    rw [event] at stepped
    simp only at stepped ⊢
    split at stepped
    · cases stepped
    · rename_i running
      rw [if_neg (show ¬ g.halted = true from running)]
      exact visited_of_loop stepped
  | _ =>
    simp only
    rw [stepped]
    exact ⟨_, rfl, .start rfl⟩

/-- Whatever state a run reaches, the run that counts the visits reaches it too. -/
theorem runOf_of_run (run : Gateway.RunOf allowed g) : RunOf (onInputs allowed) ⟨g, none⟩ := by
  induction run with
  | start initial => exact .start ⟨initial, rfl⟩
  | @next g after input before meets taken ih =>
    obtain ⟨stage, begun, visited⟩ := step_input taken
    have first : RunOf (onInputs allowed) stage := by
      refine .next ih ?_ begun
      intro other same
      cases same
      exact meets
    refine first.append (visited.weaken ?_)
    rintro _ _ rfl input same
    cases same

end Refinement

section Steps

variable {stage later : Stage} {moment : Moment} {allowed : Stage → Moment → Prop}

/-- What a moment can be: an event that is no `loop`, a `loop` that visits nobody, the begin of a traversal, the
    visit of an emptied slot or that of a client. -/
inductive Stepped (stage : Stage) : Moment → Stage → Prop
  | event {input : Input} {after : Gateway} (between : stage.round = none)
    (other : ∀ beat elapsed, input.event ≠ .loop beat elapsed) (stepped : Gateway.step stage.gateway input = some after) :
    Stepped stage (.input input) ⟨after, none⟩
  | disconnected {input : Input} {after : Gateway} {beat elapsed : UInt32} (between : stage.round = none)
    (event : input.event = .loop beat elapsed) (offline : stage.gateway.persistent.isMqttsnOnline = false)
    (stepped : Gateway.step stage.gateway input = some after) : Stepped stage (.input input) ⟨after, none⟩
  | begun {input : Input} {beat elapsed : UInt32} {later : Stage} (between : stage.round = none)
    (event : input.event = .loop beat elapsed) (begins : begin (stage.gateway.prepare input) beat elapsed = some later)
    (quiet : stage.gateway.persistent.Idle → (stage.gateway.prepare input).Quiet later.gateway) :
    Stepped stage (.input input) later
  | empty {round : Round} {later : Stage} (under : stage.round = some round)
    (empty : (stage.gateway.store.nthClient round.slot).clientStatus = .empty)
    (quiet : stage.gateway.Sound → stage.gateway.Quiet later.gateway) : Stepped stage .visit later
  | visit {round : Round} {later : Stage} (under : stage.round = some round)
    (registered : (stage.gateway.store.nthClient round.slot).clientStatus ≠ .empty)
    (returned : round.body round.slot (stage.gateway.store.nthClient round.slot) stage.gateway = some later.gateway) :
    Stepped stage .visit later

theorem begin_quiet {g : Gateway} {beat elapsed : UInt32} (idle : g.persistent.Idle)
    (online : g.persistent.isMqttsnOnline = true) (begins : begin g beat elapsed = some later) : g.Quiet later.gateway := by
  unfold begin at begins
  rw [if_pos online] at begins
  simp only at begins
  split at begins
  · cases begins
    exact Gateway.quiet_clock idle _
  · have clocked := Gateway.quiet_clock idle ((g.system.hasBeaten beat).2.getElapsedTime elapsed).2
    split at begins
    · cases begins
      exact clocked.trans (Gateway.quiet_exit clocked.idle)
    · cases begins
      exact clocked

theorem step_visit {round : Round} (under : stage.round = some round) (stepped : step stage .visit = some later) :
    round.body round.slot (stage.gateway.store.nthClient round.slot) stage.gateway = some later.gateway := by
  unfold step at stepped
  rw [under] at stepped
  obtain ⟨after, returned, same⟩ := Option.map_eq_some_iff.mp stepped
  have gateway : later.gateway = after := by
    rw [← same]
    simp only
    split <;> rfl
  rw [gateway]
  exact returned

theorem visit_round {round : Round} (under : stage.round = some round) (stepped : step stage .visit = some later) :
    later.round = none ∧
        (round.final = true ∨ round.stops (later.gateway.store.nthClient (round.slot + 1)).clientAddress = true) ∨
      later.round = some { round with
        slot := round.slot + 1
        final := (later.gateway.store.nthClient (round.slot + 1)).clientAddress = round.last } := by
  unfold step at stepped
  rw [under] at stepped
  obtain ⟨after, _, rfl⟩ := Option.map_eq_some_iff.mp stepped
  simp only
  split
  · rename_i ends
    left
    simp only [Bool.or_eq_true] at ends
    exact ⟨rfl, ends⟩
  · exact .inr rfl

theorem hasBeaten_elapsedCurrent (system : ArduinoSystem) (beat : UInt32) :
    (system.hasBeaten beat).2.elapsedCurrent = system.elapsedCurrent := by
  unfold ArduinoSystem.hasBeaten
  split <;> rfl

theorem begin_round {g : Gateway} {beat elapsed : UInt32} (begins : begin g beat elapsed = some later) :
    later.round = none ∧ (g.persistent.isMqttsnOnline = false ∨ g.store.lastClientAddress .zero = .zero) ∨
      g.persistent.isMqttsnOnline = true ∧ ∃ round, later.round = some round ∧ round.slot = 0 ∧ round.final = false ∧
        round.last = g.store.lastClientAddress .zero ∧ round.last ≠ .zero ∧
        round.hasHeartBeaten = (g.system.hasBeaten beat).1 ∧ round.elapsedTime =
          if g.persistent.isMqttOnline then
            if (g.system.hasBeaten beat).1 then elapsed - g.system.elapsedCurrent else 0
          else (elapsed - g.system.elapsedCurrent) / 1000 := by
  have unread := hasBeaten_elapsedCurrent g.system beat
  unfold begin at begins
  split at begins
  · rename_i online
    simp only at begins
    split at begins
    · rename_i mqtt
      cases begins
      by_cases nobody : g.store.lastClientAddress .zero = .zero
      · exact .inl ⟨if_pos nobody, .inr nobody⟩
      · refine .inr ⟨online, _, if_neg nobody, rfl, rfl, rfl, nobody, rfl, ?_⟩
        rw [if_pos mqtt]
        unfold ArduinoSystem.getElapsedTime
        rw [unread]
        split <;> rfl
    · rename_i mqtt
      by_cases nobody : g.store.lastClientAddress .zero = .zero
      · rw [if_pos nobody] at begins
        cases begins
        exact .inl ⟨rfl, .inr nobody⟩
      · rw [if_neg nobody] at begins
        cases begins
        refine .inr ⟨online, _, rfl, rfl, rfl, rfl, nobody, rfl, ?_⟩
        rw [if_neg mqtt]
        unfold ArduinoSystem.getElapsedTime
        rw [unread]
  · rename_i offline
    obtain ⟨after, _, rfl⟩ := Option.map_eq_some_iff.mp begins
    exact .inl ⟨rfl, .inl (by simpa using offline)⟩

theorem step_stepped (stepped : step stage moment = some later) : Stepped stage moment later := by
  unfold step at stepped
  cases between : stage.round with
  | none =>
    cases moment with
    | visit =>
      rw [between] at stepped
      cases stepped
    | input input =>
      rw [between] at stepped
      simp only at stepped
      cases event : input.event with
      | loop beat elapsed =>
        rw [event] at stepped
        simp only at stepped
        split at stepped
        · cases stepped
        · rename_i running
          cases online : stage.gateway.persistent.isMqttsnOnline with
          | true => exact .begun between event stepped fun idle => begin_quiet idle online stepped
          | false =>
            unfold begin at stepped
            rw [if_neg (by simpa [Gateway.prepare] using online)] at stepped
            obtain ⟨after, looped, rfl⟩ := Option.map_eq_some_iff.mp stepped
            refine .disconnected between event online ?_
            unfold Gateway.step Gateway.stepWith
            rw [event]
            simp only
            rw [if_neg (show ¬ (stage.gateway.prepare input).halted = true from running)]
            exact looped
      | _ =>
        rw [event] at stepped
        obtain ⟨after, taken, rfl⟩ := Option.map_eq_some_iff.mp stepped
        exact .event between (by rw [event]; exact fun _ _ => nofun) taken
  | some round =>
    cases moment with
    | input input =>
      rw [between] at stepped
      cases stepped
    | visit =>
      have returned := step_visit between stepped
      by_cases empty : (stage.gateway.store.nthClient round.slot).clientStatus = .empty
      · refine .empty between empty fun sound => ?_
        obtain ⟨settles, silent⟩ := Gateway.serviceClient_empty sound.idle empty round.used.2 returned
        exact (Gateway.quiet_visiting sound.idle).trans (settles.quiet silent)
      · exact .visit between empty returned

theorem step_sound (sound : stage.gateway.Sound) (stepped : step stage moment = some later) : later.gateway.Sound := by
  cases step_stepped stepped with
  | event _ _ taken => exact Gateway.step_sound sound taken
  | disconnected _ _ _ taken => exact Gateway.step_sound sound taken
  | begun _ _ _ quiet => exact (quiet sound.idle).sound (Gateway.sound_prepare sound)
  | empty _ _ quiet => exact (quiet sound).sound sound
  | @visit round _ _ registered returned =>
    have visits := Gateway.serviceClient_visits sound registered round.used.1 returned
    exact visits.sound sound ((sound.ok.slots.fits _).addressed registered) round.used.1

theorem Visited.sound {start : Stage} (visited : Visited start stage) (sound : start.gateway.Sound) :
    stage.gateway.Sound := by
  induction visited with
  | start same =>
    rw [same]
    exact sound
  | next _ _ taken ih => exact step_sound ih taken

theorem sound_of_run (run : RunOf allowed stage) : stage.gateway.Sound := by
  induction run with
  | start initial => exact Gateway.sound_initial initial.1
  | next _ _ taken ih => exact step_sound ih taken

/-- Apart from its visits, `loop` sends nothing. -/
theorem step_loop_silent {input : Input} {beat elapsed : UInt32} (sound : stage.gateway.Sound)
    (event : input.event = .loop beat elapsed) (stepped : step stage (.input input) = some later) :
    later.gateway.sent = [] := by
  cases step_stepped stepped with
  | event _ other _ => exact absurd event (other beat elapsed)
  | begun _ _ _ quiet => exact (quiet sound.idle).sent
  | disconnected _ _ offline taken =>
    have looped := Gateway.step_loop event taken
    refine Gateway.loop_invariant (I := fun g => g.sent = []) (Gateway.sound_prepare sound) rfl ?_ ?_ ?_ looped
    · intro g g' quiet kept
      rw [quiet.sent]
      exact kept
    · intro _ _ _ _ _ kind
      cases kind with
      | online connected => cases offline.symm.trans connected.1
      | offline connected => cases offline.symm.trans connected.1
    · intro _ g g' _ _ _ silent kept
      rw [silent]
      exact kept

/-- A CONNECT for the client id is accepted. -/
def Connects (stage : Stage) (clientId : CString) (moment : Moment) : Prop :=
  ∃ input, moment = .input input ∧ stage.gateway.Admits input clientId

/-- No event revives an emptied slot. -/
def NoRevival : Stage → Moment → Prop := onInputs Gateway.NoRevival

theorem step_orderly (orderly : stage.gateway.Orderly) (alive : NoRevival stage moment)
    (stepped : step stage moment = some later) : later.gateway.Orderly := by
  refine ⟨step_sound orderly.sound stepped, ?_⟩
  have sound := orderly.sound
  cases step_stepped stepped with
  | event _ _ taken => exact Gateway.step_regular sound orderly.regular (alive _ rfl) taken
  | disconnected _ _ _ taken => exact Gateway.step_regular sound orderly.regular (alive _ rfl) taken
  | begun _ _ _ quiet =>
    rw [(quiet sound.idle).store]
    exact orderly.regular
  | empty _ _ quiet =>
    rw [(quiet sound).store]
    exact orderly.regular
  | @visit round _ _ registered returned =>
    have visits := Gateway.serviceClient_visits sound registered round.used.1 returned
    exact visits.regular round.used.1 sound ((sound.ok.slots.fits _).addressed registered) orderly.regular

theorem orderly_of_run (weaker : ∀ stage moment, allowed stage moment → NoRevival stage moment)
    (run : RunOf allowed stage) : stage.gateway.Orderly := by
  induction run with
  | start initial => exact ⟨Gateway.sound_initial initial.1, Gateway.regular_initial initial.1⟩
  | next _ meets taken ih => exact step_orderly ih (weaker _ _ meets) taken

end Steps

end Stage

namespace Scenario

/-- The moment of an event whose calls the broker answers and that leaves nothing undetermined. -/
def event (event : Event) : Moment := .input ⟨event, [], []⟩

def stages (rootPath : List UInt8) (moments : List Moment) : Option Stage :=
  Runs.execute Stage.step ⟨Gateway.start (configuration rootPath) .empty, none⟩ moments

theorem reached_stages {rootPath : List UInt8} {moments : List Moment} {stage : Stage}
    (executed : stages rootPath moments = some stage) : Stage.RunOf (fun _ _ => True) stage :=
  (Runs.Run.start ⟨⟨configuration rootPath, rfl⟩, rfl⟩).append (Runs.Run.of_execute (fun _ _ => trivial) executed)

def started : Stage := ⟨Gateway.start (configuration [47]) .empty, none⟩

def online : Stage := (Stage.step started (event .mqttConnect)).get (by decide +kernel)

def registered : Stage :=
  (Stage.step online (event (.datagram (client 1) (Datagram.connect (name 65) 10 0) []))).get (by decide +kernel)

end Scenario

end MqttSnGateway
