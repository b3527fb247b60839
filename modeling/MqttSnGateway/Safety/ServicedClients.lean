import MqttSnGateway.Core.Rewritten
import MqttSnGateway.Safety.RemovalTermination
import MqttSnGateway.Stages

namespace MqttSnGateway

open Persistent Store

namespace Store

variable {s : Store}

/-- Between the first slot and a client there are only clients, and none of them has the address of the last one. -/
def Gapless (s : Store) : Prop :=
  ∀ j l, 0 < j → j < l → (s.nthClient l).clientStatus ≠ .empty →
    (s.nthClient j).clientStatus ≠ .empty ∧ (s.nthClient j).clientAddress ≠ s.lastClientAddress .zero

theorem gapless_iff : s.Gapless ↔ ∀ l < s.clients.length, ∀ j < l, 0 < j → (s.nthClient l).clientStatus ≠ .empty →
    (s.nthClient j).clientStatus ≠ .empty ∧ (s.nthClient j).clientAddress ≠ s.lastClientAddress .zero := by
  constructor
  · intro gapless l _ j before positive registered
    exact gapless j l positive before registered
  · intro within j l positive before registered
    have inside : l < s.clients.length := by
      apply inside_of_ne_zero
      intro zero
      rw [zero] at registered
      exact registered rfl
    exact within l inside j before positive registered

instance : Decidable s.Gapless :=
  have : ∀ l, Decidable (∀ j < l, 0 < j → (s.nthClient l).clientStatus ≠ .empty →
    (s.nthClient j).clientStatus ≠ .empty ∧ (s.nthClient j).clientAddress ≠ s.lastClientAddress .zero) := fun _ => inferInstance
  decidable_of_iff _ gapless_iff.symm

theorem SlotsOk.empty_iff (ok : s.SlotsOk) (n : Nat) :
    (s.nthClient n).clientAddress = .zero ↔ (s.nthClient n).clientStatus = .empty := by
  constructor
  · intro zero
    by_contra registered
    exact (ok.fits n).addressed registered zero
  · intro empty
    rw [(ok.fits n).emptied empty]
    rfl

end Store

namespace Gateway

variable {g after : Gateway} {round : Round} {n k : Nat}

section Visits

theorem TimesOut.serviced {slot : EntryClient} {elapsed : UInt32} (timesOut : TimesOut g slot elapsed after) :
    after.serviced = g.serviced := by
  cases timesOut with
  | disconnected _ => rfl
  | running _ _ settles _ => exact settles.serviced
  | lost _ _ _ settles _ => exact settles.serviced
  | deleted _ _ _ removal _ =>
    have removed := removal.called.serviced
    exact removed.trans paho_publish_called.serviced

/-- The gateway after the visits of the slots before `n`. -/
structure Progress (g : Gateway) (n : Nat) (g' : Gateway) : Prop where
  sound : g'.Sound
  same : SameBehind g n g'
  serviced : g'.serviced = g.serviced ++ List.range n

theorem Progress.visit {g' : Gateway} (progress : Progress g n g')
    (returned : round.body n (g'.store.nthClient n) g' = some after) : Progress g (n + 1) after := by
  have sound := progress.sound
  have logged : (g'.visiting n).serviced = g.serviced ++ List.range (n + 1) := by
    show g'.serviced ++ [n] = _
    rw [progress.serviced, List.range_succ, List.append_assoc]
  by_cases empty : (g'.store.nthClient n).clientStatus = .empty
  · obtain ⟨settles, _⟩ := serviceClient_empty sound.idle empty round.used.2 returned
    have store : after.store = g'.store := settles.store
    refine ⟨⟨settles.idle, store ▸ sound.ok⟩, fun k behind => ?_, settles.serviced.trans logged⟩
    rw [store]
    exact progress.same k (by omega)
  · have visits := serviceClient_visits sound empty round.used.1 returned
    have nonzero := (sound.ok.slots.fits n).addressed empty
    obtain ⟨ready, touches, timesOut⟩ := visits.touches round.used.1
    have before : ready.serviced = (g'.visiting n).serviced := touches.settles.serviced
    refine ⟨visits.sound sound nonzero round.used.1, fun k behind => ?_, ?_⟩
    · rw [visits.behind sound empty round.used.1 (by omega)]
      exact progress.same k (by omega)
    · split at timesOut
      · rw [timesOut.serviced, before, logged]
      · rw [timesOut, before, logged]

end Visits

section Traversal

end Traversal

end Gateway

namespace Scenario

def again : Input := ⟨.loop 20000 20000, [], []⟩

/-- Three clients, one of which sleeps with a subscription and one of which has a will. -/
def gapless : Gateway :=
  (run [47] [.mqttConnect, .datagram (client 1) (Datagram.connect (name 65) 1000 0) [],
    .datagram (client 2) (Datagram.connect (name 66) 1000 0) [],
    .datagram (client 2) (Datagram.subscribeByName (name 116) 1 0) [], .datagram (client 2) [4, 0x18, 10, 0] [],
    .datagram (client 3) (Datagram.connect (name 67) 1 Flag.will) [],
    .datagram (client 3) (Datagram.willtopic (name 116) 0) [],
    .datagram (client 3) (Datagram.willmsg [1]) []]).get (by decide +kernel)

end Scenario

end MqttSnGateway
