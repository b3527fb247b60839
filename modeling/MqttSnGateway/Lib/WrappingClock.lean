import Mathlib.Logic.Basic

namespace WrappingClock

/-- What a clock of 32 bits shows that started to count at `origin`. -/
def reading (origin time : Nat) : UInt32 := UInt32.ofNat (time - origin)

variable {origin earlier later : Nat}

/-- What is charged in intervals: the reading that the first one starts from, the one that the last one ends with, and the
    sum of the amounts. -/
structure Tally where
  since : Option UInt32
  last : UInt32
  total : Nat

namespace Tally

variable {tally : Tally} {earlier later : UInt32} {amount : Nat}

def empty : Tally := ⟨none, 0, 0⟩

def charge (tally : Tally) (earlier later : UInt32) (amount : Nat) : Tally :=
  ⟨some (tally.since.getD earlier), later, tally.total + amount⟩

/-- The amounts add up to the time from the first reading to the last. -/
def Exact (tally : Tally) : Prop :=
  ∀ start, tally.since = some start → tally.total < 4294967296 → tally.total = (tally.last - start).toNat

/-- They do but for whole turns of the clock. -/
structure Balanced (tally : Tally) : Prop where
  uncharged : tally.since = none → tally.total = 0
  charged : ∀ start, tally.since = some start → UInt32.ofNat tally.total = tally.last - start

theorem balanced_empty : empty.Balanced := ⟨fun _ => rfl, fun _ nothing => by cases nothing⟩

theorem Balanced.exact (balanced : tally.Balanced) : tally.Exact := by
  intro start first fits
  rw [← balanced.charged start first, UInt32.toNat_ofNat']
  omega

theorem Balanced.charge (balanced : tally.Balanced) (joins : tally.since ≠ none → tally.last = earlier)
    (amounts : amount = (later - earlier).toNat) : (tally.charge earlier later amount).Balanced := by
  refine ⟨nofun, ?_⟩
  intro start first
  have sum : UInt32.ofNat (tally.total + amount) = UInt32.ofNat tally.total + (later - earlier) := by
    rw [UInt32.ofNat_add, amounts, UInt32.ofNat_toNat]
  change UInt32.ofNat (tally.total + amount) = later - start
  rw [sum]
  cases charged : tally.since with
  | none =>
    have start_eq : earlier = start := by
      simpa [Tally.charge, charged] using first
    rw [balanced.uncharged charged, start_eq]
    exact UInt32.zero_add _
  | some origin =>
    have start_eq : origin = start := by
      simpa [Tally.charge, charged] using first
    rw [balanced.charged origin charged, joins (by rw [charged]; nofun), start_eq]
    grind

end Tally

end WrappingClock
