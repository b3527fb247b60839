import MqttSnGateway.Core.Clock
import MqttSnGateway.Lib.WrappingClock
import MqttSnGateway.Safety.WillFidelity

namespace MqttSnGateway

open Persistent Store

/-- A moment and the real time at which it happens, in milliseconds. -/
structure Instant where
  moment : Moment
  time : Nat

/-- What an observer with a real clock notes: when the program was started, when it last read its clock for the elapsed
    time, and for each address when a datagram last came from there, how much time from before it the client's timer will
    have counted, and the duration that was agreed last. -/
structure Watch where
  now : Nat
  started : Nat
  read : Nat
  heard : DeviceAddress → Nat
  surplus : DeviceAddress → Nat
  agreed : DeviceAddress → UInt32

namespace Watch

def begun (time : Nat) : Watch := ⟨time, time, time, fun _ => 0, fun _ => 0, fun _ => 0⟩

/-- The duration agreed with a device after its request: a CONNECT and a DISCONNECT with a duration agree a new one if they
    are accepted. -/
def agree (g : Gateway) (address : DeviceAddress) (agreed : UInt32) : Request → UInt32
  | .connect clientId duration _ _ =>
    if g.persistent.isMqttOnline && clientId.length < 24 then Gateway.milliseconds duration else agreed
  | .disconnectWithDuration duration =>
    if g.persistent.isMqttOnline && (g.store.slotOfAddress address).isSome then Gateway.milliseconds duration else agreed
  | _ => agreed

end Watch

namespace Stage

variable {stage later : Stage} {instant : Instant} {watch : Watch} {n : Nat}

def reads (stage : Stage) (input : Input) : Bool :=
  match input.event with
  | .loop beat _ =>
    stage.gateway.persistent.isMqttsnOnline &&
      (!stage.gateway.persistent.isMqttOnline || (stage.gateway.system.hasBeaten beat).1)
  | _ => false

def tick (stage : Stage) (instant : Instant) : Option Stage := step stage instant.moment

def observe (stage : Stage) (instant : Instant) (later : Stage) (watch : Watch) : Watch :=
  let watch := { watch with now := instant.time }
  match instant.moment with
  | .visit => watch
  | .input input =>
    match input.event with
    | .restart => { watch with started := instant.time, read := instant.time }
    | _ =>
      match input.request? with
      | some (address, request) =>
        -- The timer as the datagram left it, and the time that the next heartbeat adds although it has passed already.
        let surplus := (later.gateway.store.entryAt address).timeout.toNat + (instant.time - watch.read)
        { watch with
          heard := Function.update watch.heard address instant.time
          surplus := Function.update watch.surplus address surplus
          agreed := Function.update watch.agreed address
            (Watch.agree stage.gateway address (watch.agreed address) request) }
      | none => if stage.reads input then { watch with read := instant.time } else watch

/-- Real time goes on, and the clock of the program shows it since its start, in 32 bits. -/
structure Timely (watch : Watch) (instant : Instant) : Prop where
  passes : watch.now ≤ instant.time
  shown : ∀ input beat elapsed, instant.moment = .input input → input.event = .loop beat elapsed →
    elapsed = WrappingClock.reading watch.started instant.time

/-- What the traversal under way has still to add to the timer of slot `n`. -/
def pending (stage : Stage) (n : Nat) : Nat :=
  match stage.round with
  | some round => if round.slot ≤ n then round.elapsedTime.toNat else 0
  | none => 0

/-- The timers count real time: no more than has passed since the last datagram, but for the surplus. -/
structure Counts (stage : Stage) (watch : Watch) : Prop where
  begun : watch.started ≤ watch.read
  passed : watch.read ≤ watch.now
  clock : stage.gateway.system.elapsedCurrent = WrappingClock.reading watch.started watch.read
  timers : ∀ n, (stage.gateway.store.nthClient n).clientStatus ≠ .empty →
    (stage.gateway.store.nthClient n).timeout.toNat + stage.pending n +
        watch.heard (stage.gateway.store.nthClient n).clientAddress ≤
      watch.read + watch.surplus (stage.gateway.store.nthClient n).clientAddress

theorem Counts.of_kept (counts : Counts stage watch) (waiting : stage.round = none) (finished : later.round = none)
    (system : later.gateway.system = stage.gateway.system) {time : Nat} (passes : watch.now ≤ time)
    (kept : ∀ n, (later.gateway.store.nthClient n).clientStatus ≠ .empty →
      (stage.gateway.store.nthClient n).clientStatus ≠ .empty ∧
        (later.gateway.store.nthClient n).timeout = (stage.gateway.store.nthClient n).timeout ∧
        (later.gateway.store.nthClient n).clientAddress = (stage.gateway.store.nthClient n).clientAddress) :
    Counts later { watch with now := time } := by
  refine ⟨counts.begun, counts.passed.trans passes, by rw [system, counts.clock], fun n registered => ?_⟩
  obtain ⟨before, timeout, address⟩ := kept n registered
  have timers := counts.timers n before
  unfold pending at timers ⊢
  rw [finished, timeout, address]
  rw [waiting] at timers
  exact timers

end Stage

namespace Scenario

def watch (state : Stage × Watch) (moment : Moment) (time : Nat) : Option (Stage × Watch) :=
  Runs.recorded Stage.tick Stage.observe state ⟨moment, time⟩

end Scenario

end MqttSnGateway
