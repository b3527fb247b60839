import Mathlib.Logic.Function.Basic
import Mathlib.Data.List.Basic

/-- Something that arrived, with its place in the order of arrivals. -/
structure Arrival (κ : Type*) where
  key : κ
  number : Nat
deriving DecidableEq

/-- Arrivals that wait at numbered places, and those that were passed on, in that order. -/
structure Arrivals (κ : Type*) where
  count : Nat
  waiting : Nat → Option (Arrival κ)
  passed : List (Arrival κ)

namespace Arrivals

variable {κ : Type*} {arrivals : Arrivals κ} {held held' : Nat → Prop} {key : κ} {place : Nat}

def empty : Arrivals κ := ⟨0, fun _ => none, []⟩

def next (arrivals : Arrivals κ) : Arrivals κ := { arrivals with count := arrivals.count + 1 }

def put (arrivals : Arrivals κ) (key : κ) (place : Nat) : Arrivals κ :=
  { arrivals with waiting := Function.update arrivals.waiting place (some ⟨key, arrivals.count⟩) }

/-- What waits at a place is passed on; what is there stays or goes, but has been passed on. -/
def pass (arrivals : Arrivals κ) (place : Nat) : Arrivals κ :=
  match arrivals.waiting place with
  | some arrival =>
    { arrivals with waiting := Function.update arrivals.waiting place none, passed := arrivals.passed ++ [arrival] }
  | none => arrivals

/-- Arrivals with the same key are passed on in the order in which they arrived. -/
def InOrder (arrivals : Arrivals κ) : Prop :=
  arrivals.passed.Pairwise fun earlier later => earlier.key = later.key → earlier.number ≤ later.number

/-- What arrived earlier with the same key and waits at a place in use does not wait below this place. -/
def Clear (held : Nat → Prop) (arrivals : Arrivals κ) (key : κ) (place : Nat) : Prop :=
  ∀ other arrival, held other → arrivals.waiting other = some arrival → arrival.key = key →
    arrival.number < arrivals.count → place ≤ other

/-- Of the arrivals with one key that wait at places in use, the earlier ones wait above, and behind those that were passed on. -/
structure Lined (held : Nat → Prop) (arrivals : Arrivals κ) : Prop where
  counted : ∀ place arrival, arrivals.waiting place = some arrival → arrival.number ≤ arrivals.count
  past : ∀ arrival ∈ arrivals.passed, arrival.number ≤ arrivals.count
  behind : ∀ place arrival, held place → arrivals.waiting place = some arrival → ∀ earlier ∈ arrivals.passed,
    earlier.key = arrival.key → earlier.number ≤ arrival.number
  stacked : ∀ low high below above, low < high → held low → held high → arrivals.waiting low = some below →
    arrivals.waiting high = some above → above.key = below.key → above.number ≤ below.number
  inOrder : arrivals.InOrder

theorem Lined.start : Lined held (empty : Arrivals κ) where
  counted := nofun
  past := nofun
  behind := nofun
  stacked := nofun
  inOrder := List.Pairwise.nil

theorem Lined.next (lined : Lined held arrivals) : Lined held arrivals.next where
  counted := fun place arrival waits => Nat.le_succ_of_le (lined.counted place arrival waits)
  past := fun arrival member => Nat.le_succ_of_le (lined.past arrival member)
  behind := lined.behind
  stacked := lined.stacked
  inOrder := lined.inOrder

theorem Lined.shrink (lined : Lined held arrivals) (fewer : ∀ place, held' place → held place) : Lined held' arrivals where
  counted := lined.counted
  past := lined.past
  behind := fun place arrival here => lined.behind place arrival (fewer place here)
  stacked := fun low high below above before here there =>
    lined.stacked low high below above before (fewer low here) (fewer high there)
  inOrder := lined.inOrder

theorem Lined.put (lined : Lined held arrivals) (used : ∀ other, held' other → other = place ∨ held other)
    (clear : Clear held arrivals key place) : Lined held' (arrivals.put key place) := by
  have read : ∀ {other arrival}, (arrivals.put key place).waiting other = some arrival →
      other = place ∧ arrival = ⟨key, arrivals.count⟩ ∨ other ≠ place ∧ arrivals.waiting other = some arrival := by
    intro other arrival waits
    unfold Arrivals.put at waits
    simp only [Function.update_apply] at waits
    split at waits
    · rename_i here
      exact .inl ⟨here, (Option.some.inj waits).symm⟩
    · rename_i elsewhere
      exact .inr ⟨elsewhere, waits⟩
  have stays : ∀ {other}, held' other → other ≠ place → held other := fun here elsewhere =>
    (used _ here).resolve_left elsewhere
  refine ⟨?_, lined.past, ?_, ?_, lined.inOrder⟩
  · intro other arrival waits
    rcases read waits with ⟨_, rfl⟩ | ⟨_, before⟩
    · exact Nat.le_refl _
    · exact lined.counted other arrival before
  · intro other arrival here waits earlier member same
    rcases read waits with ⟨_, rfl⟩ | ⟨elsewhere, before⟩
    · exact lined.past earlier member
    · exact lined.behind other arrival (stays here elsewhere) before earlier member same
  · intro low high below above before here there lower upper same
    rcases read lower with ⟨rfl, rfl⟩ | ⟨elsewhere, first⟩
    · rcases read upper with ⟨rfl, _⟩ | ⟨_, second⟩
      · omega
      · exact lined.counted high above second
    · rcases read upper with ⟨rfl, rfl⟩ | ⟨other, second⟩
      · show arrivals.count ≤ below.number
        by_contra late
        have least := clear low below (stays here elsewhere) first same.symm (by omega)
        omega
      · exact lined.stacked low high below above before (stays here elsewhere) (stays there other) first second same

theorem Lined.pass (lined : Lined held arrivals) (here : held place) (top : ∀ other, held other → other ≤ place) :
    Lined held (arrivals.pass place) := by
  unfold Arrivals.pass
  split
  · rename_i first waits
    have read : ∀ {other arrival}, Function.update arrivals.waiting place none other = some arrival →
        other ≠ place ∧ arrivals.waiting other = some arrival := by
      intro other arrival waits
      rw [Function.update_apply] at waits
      split at waits
      · cases waits
      · rename_i elsewhere
        exact ⟨elsewhere, waits⟩
    refine ⟨?_, ?_, ?_, ?_, ?_⟩
    · intro other arrival waits
      exact lined.counted other arrival (read waits).2
    · intro arrival member
      rcases List.mem_append.mp member with before | last
      · exact lined.past arrival before
      · rw [List.mem_singleton.mp last]
        exact lined.counted place first waits
    · intro other arrival there remains earlier member same
      obtain ⟨elsewhere, remains⟩ := read remains
      rcases List.mem_append.mp member with before | last
      · exact lined.behind other arrival there remains earlier before same
      · rw [List.mem_singleton.mp last] at same ⊢
        have lower : other < place := Nat.lt_of_le_of_ne (top other there) elsewhere
        exact lined.stacked other place arrival first lower there here remains waits same
    · intro low high below above before there up lower upper same
      exact lined.stacked low high below above before there up (read lower).2 (read upper).2 same
    · apply List.pairwise_append.mpr
      refine ⟨lined.inOrder, List.pairwise_singleton _ _, fun earlier member last here' => ?_⟩
      rw [List.mem_singleton.mp here']
      exact lined.behind place first here waits earlier member
  · exact lined

end Arrivals
