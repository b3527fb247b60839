import MqttSnGateway.Core.Gateway
import Mathlib.Data.List.Chain

namespace MqttSnGateway

structure Arduino where
  timerValue : Int
  timerValueCalled : Bool
deriving DecidableEq

namespace Arduino

def start : Arduino := ⟨0, false⟩

def millis (arduino : Arduino) (now : Int) : Int × Arduino :=
  if !arduino.timerValueCalled then (0, ⟨now, true⟩)
  else
    let diff := now - arduino.timerValue
    if diff > 4294967295 then (diff - 4294967295, { arduino with timerValue := diff - 4294967295 })
    else (diff, arduino)

theorem millis_within {origin now : Int} (within : now - origin ≤ 4294967295) :
    millis ⟨origin, true⟩ now = (now - origin, ⟨origin, true⟩) := by
  have inside : ¬ now - origin > 4294967295 := by omega
  exact if_neg inside

theorem millis_beyond {origin now : Int} (beyond : 4294967295 < now - origin) :
    millis ⟨origin, true⟩ now = (now - origin - 4294967295, ⟨now - origin - 4294967295, true⟩) := if_pos beyond

/-- No value of `millis` leaves the range of the clock's readings, so its 64 bits are enough for them. -/
theorem millis_range {arduino : Arduino} {now : Int} (positive : 0 ≤ now)
    (inside : 0 ≤ arduino.timerValue ∧ arduino.timerValue ≤ now) :
    (0 ≤ (arduino.millis now).1 ∧ (arduino.millis now).1 ≤ now) ∧
      0 ≤ (arduino.millis now).2.timerValue ∧ (arduino.millis now).2.timerValue ≤ now := by
  unfold millis
  split
  · show (0 ≤ (0 : Int) ∧ 0 ≤ now) ∧ 0 ≤ now ∧ now ≤ now
    omega
  · by_cases beyond : now - arduino.timerValue > 4294967295
    · simp only [if_pos beyond]
      omega
    · simp only [if_neg beyond]
      omega

end Arduino

structure LinuxClock where
  arduino : Arduino
  system : ArduinoSystem
deriving DecidableEq

/-- What calls `millis`: the system, and the logger and the countdowns of the MQTT client, which keep nothing
    of it. -/
inductive ClockCall where
  | hasBeaten
  | getElapsedTime
  | other
deriving DecidableEq

namespace LinuxClock

/-- A call when the system clock shows `now`, with the elapsed time it returns. The callers cut what `millis`
    returns to 32 bits. -/
def call (clock : LinuxClock) (now : Int) : ClockCall → Option UInt32 × LinuxClock
  | .hasBeaten =>
    let current := clock.arduino.millis now
    (none, ⟨current.2, (clock.system.hasBeaten (.ofInt current.1)).2⟩)
  | .getElapsedTime =>
    let current := clock.arduino.millis now
    let elapsed := clock.system.getElapsedTime (.ofInt current.1)
    (some elapsed.1, ⟨current.2, elapsed.2⟩)
  | .other => (none, ⟨(clock.arduino.millis now).2, clock.system⟩)

/-- The elapsed times that a sequence of calls returns, each with the clock reading of its call. -/
def elapsedTimes (clock : LinuxClock) : List (ClockCall × Int) → List (Int × UInt32)
  | [] => []
  | (call, now) :: calls =>
    let after := clock.call now call
    (after.1.map (now, ·)).toList ++ after.2.elapsedTimes calls

/-- Every elapsed time but the first is the time since the reading in front of it, modulo 2^32. -/
def Exact (times : List (Int × UInt32)) : Prop :=
  times.IsChain fun earlier later => (later.2.toNat : Int) = (later.1 - earlier.1) % 4294967296

/-- No reading lies more than `UINT32_MAX` milliseconds after the first. -/
def Within (readings : List Int) : Prop :=
  ∀ first ∈ readings.head?, ∀ reading ∈ readings, reading - first ≤ 4294967295

variable {clock : LinuxClock} {origin earlier now : Int}

theorem toNat_ofInt_sub (later earlier : Int) :
    ((UInt32.ofInt later - UInt32.ofInt earlier).toNat : Int) = (later - earlier) % 4294967296 := by
  have difference : UInt32.ofInt later - UInt32.ofInt earlier = UInt32.ofInt (later - earlier) := by
    rw [Int.sub_eq_add_neg, UInt32.ofInt_add, UInt32.ofInt_neg, UInt32.sub_eq_add_neg]
  rw [difference, UInt32.ofInt, UInt32.toNat_ofNat']
  omega

/-- The reference point of the elapsed time is a reading that `millis` counted from its own. -/
def Refers (clock : LinuxClock) (origin earlier : Int) : Prop :=
  clock.arduino = ⟨origin, true⟩ ∧ clock.system.elapsedCurrent = .ofInt (earlier - origin)

theorem elapsedCurrent_hasBeaten (system : ArduinoSystem) (current : UInt32) :
    (system.hasBeaten current).2.elapsedCurrent = system.elapsedCurrent := by
  unfold ArduinoSystem.hasBeaten
  split <;> rfl

theorem arduino_call (call : ClockCall) : (clock.call now call).2.arduino = (clock.arduino.millis now).2 := by
  cases call <;> rfl

theorem call_cases (clock : LinuxClock) (now : Int) (call : ClockCall) :
    ((clock.call now call).1 = none ∧ (clock.call now call).2.system.elapsedCurrent = clock.system.elapsedCurrent) ∨
      call = .getElapsedTime ∧
        (clock.call now call).1 = some (.ofInt (clock.arduino.millis now).1 - clock.system.elapsedCurrent) ∧
        (clock.call now call).2.system.elapsedCurrent = .ofInt (clock.arduino.millis now).1 := by
  cases call with
  | hasBeaten =>
    apply Or.inl
    exact ⟨rfl, elapsedCurrent_hasBeaten _ _⟩
  | getElapsedTime =>
    apply Or.inr
    exact ⟨rfl, rfl, rfl⟩
  | other =>
    apply Or.inl
    exact ⟨rfl, rfl⟩

/-- As long as the readings stay within `UINT32_MAX` of the origin, every elapsed time counts from the reading
    in front of it. -/
theorem elapsedTimes_within (calls : List (ClockCall × Int)) (earlier : Int)
    (within : ∀ call ∈ calls, call.2 - origin ≤ 4294967295) :
    (clock.arduino = ⟨origin, true⟩ → Exact (clock.elapsedTimes calls)) ∧
      ∀ elapsed, clock.Refers origin earlier → Exact ((earlier, elapsed) :: clock.elapsedTimes calls) := by
  induction calls generalizing clock earlier with
  | nil => exact ⟨fun _ => .nil, fun _ _ => .singleton _⟩
  | cons call calls ih =>
    obtain ⟨call, now⟩ := call
    have here : now - origin ≤ 4294967295 := within (call, now) List.mem_cons_self
    have later : ∀ call ∈ calls, call.2 - origin ≤ 4294967295 := fun call member =>
      within call (List.mem_cons_of_mem _ member)
    have counts : clock.arduino = ⟨origin, true⟩ →
        (clock.arduino.millis now).1 = now - origin ∧ (clock.call now call).2.arduino = ⟨origin, true⟩ := by
      intro counting
      rw [arduino_call, counting, Arduino.millis_within here]
      exact ⟨rfl, rfl⟩
    unfold elapsedTimes
    rcases call_cases clock now call with ⟨none, kept⟩ | ⟨_, returned, moved⟩
    · simp only [none, Option.map_none, Option.toList_none, List.nil_append]
      constructor
      · intro counting
        exact (ih earlier later).1 (counts counting).2
      · intro elapsed refers
        exact (ih _ later).2 elapsed ⟨(counts refers.1).2, kept.trans refers.2⟩
    · simp only [returned, Option.map_some, Option.toList_some, List.singleton_append]
      have next : clock.arduino = ⟨origin, true⟩ → (clock.call now call).2.Refers origin now := by
        intro counting
        obtain ⟨shown, kept⟩ := counts counting
        rw [shown] at moved
        exact ⟨kept, moved⟩
      constructor
      · intro counting
        exact (ih _ later).2 _ (next counting)
      · intro elapsed refers
        apply List.IsChain.cons_cons
        · rw [(counts refers.1).1, refers.2, toNat_ofInt_sub]
          congr 1
          omega
        · exact (ih _ later).2 _ (next refers.1)

theorem elapsedTimes_beyond (readings : List Int) (elapsed : UInt32) (refers : clock.Refers origin earlier)
    (exact : Exact ((earlier, elapsed) :: clock.elapsedTimes (readings.map (.getElapsedTime, ·)))) :
    ∀ reading ∈ readings, reading - origin ≤ 4294967295 := by
  induction readings generalizing clock earlier elapsed with
  | nil => simp
  | cons now readings ih =>
    rcases List.isChain_cons_cons.mp exact with ⟨real, rest⟩
    replace real : ((UInt32.ofInt (clock.arduino.millis now).1 - clock.system.elapsedCurrent).toNat : Int) =
      (now - earlier) % 4294967296 := real
    rw [refers.2] at real
    have here : now - origin ≤ 4294967295 := by
      by_contra beyond
      have shown : (clock.arduino.millis now).1 = now - origin - 4294967295 := by
        rw [refers.1, Arduino.millis_beyond (by omega)]
      rw [shown, toNat_ofInt_sub] at real
      omega
    have current : clock.arduino.millis now = (now - origin, ⟨origin, true⟩) := by
      rw [refers.1, Arduino.millis_within here]
    have next : (clock.call now .getElapsedTime).2.Refers origin now := by
      refine ⟨?_, ?_⟩
      · rw [arduino_call, current]
      · show UInt32.ofInt (clock.arduino.millis now).1 = _
        rw [current]
    intro reading member
    rcases List.mem_cons.mp member with rfl | member
    · exact here
    · exact ih _ next rest reading member

/-- Whatever calls read the clock and whatever the system held before, all elapsed times are exact if and only
    if the clock never shows more than `UINT32_MAX` milliseconds after its first reading. -/
theorem elapsedTimes_exact (system : ArduinoSystem) (readings : List Int) :
    (∀ calls : List (ClockCall × Int), calls.map Prod.snd = readings →
        Exact (elapsedTimes ⟨.start, system⟩ calls)) ↔ Within readings := by
  cases readings with
  | nil =>
    refine iff_of_true ?_ (by simp [Within])
    intro calls read
    rw [List.map_eq_nil_iff.mp read]
    exact .nil
  | cons first readings =>
    constructor
    · intro exact origin head reading member
      obtain rfl : first = origin := Option.some.inj head
      rcases List.mem_cons.mp member with rfl | member
      · omega
      · have times := exact ((first :: readings).map (.getElapsedTime, ·)) (by simp [List.map_map, Function.comp_def])
        exact elapsedTimes_beyond readings _ ⟨rfl, congrArg UInt32.ofInt (Int.sub_self first).symm⟩ times reading member
    · intro within calls read
      obtain ⟨⟨call, now⟩, calls, rfl, rfl, rfl⟩ := List.map_eq_cons_iff.mp read
      have later : ∀ call ∈ calls, call.2 - now ≤ 4294967295 := fun call member =>
        within now rfl call.2 (List.mem_cons_of_mem _ (List.mem_map_of_mem member))
      have counting : (LinuxClock.call ⟨.start, system⟩ now call).2.arduino = ⟨now, true⟩ := arduino_call call
      rcases call_cases ⟨.start, system⟩ now call with ⟨none, _⟩ | ⟨_, returned, moved⟩
      · simp only [elapsedTimes, none, Option.map_none, Option.toList_none, List.nil_append]
        exact (elapsedTimes_within calls now later).1 counting
      · simp only [elapsedTimes, returned, Option.map_some, Option.toList_some, List.singleton_append]
        apply (elapsedTimes_within calls now later).2
        exact ⟨counting, moved.trans (congrArg UInt32.ofInt (Int.sub_self now).symm)⟩

/-- The clock is read first, after 1000 milliseconds and once more after 2^32 milliseconds: the last elapsed
    time should be 4294966296. -/
theorem elapsed_too_long :
    ¬ ∀ (system : ArduinoSystem) (calls : List (ClockCall × Int)), (calls.map Prod.snd).Pairwise (· ≤ ·) →
      (∀ reading ∈ calls.map Prod.snd, 0 ≤ reading) → Exact (elapsedTimes ⟨.start, system⟩ calls) := by
  intro exact
  have times := exact ⟨100, 0, 0⟩ [(.getElapsedTime, 1500000000000), (.getElapsedTime, 1500000001000),
    (.getElapsedTime, 1504294967296)] (by decide) (by decide)
  have returned : elapsedTimes ⟨.start, ⟨100, 0, 0⟩⟩ [(.getElapsedTime, 1500000000000),
      (.getElapsedTime, 1500000001000), (.getElapsedTime, 1504294967296)] =
    [(1500000000000, 0), (1500000001000, 1000), (1504294967296, 4294966297)] := by decide
  rw [returned] at times
  have real : ((4294966297 : UInt32).toNat : Int) = (1504294967296 - 1500000001000) % 4294967296 :=
    (List.isChain_cons_cons.mp (List.isChain_cons_cons.mp times).2).1
  exact absurd real (by decide)

end LinuxClock

end MqttSnGateway
