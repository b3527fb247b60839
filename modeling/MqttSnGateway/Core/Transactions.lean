import MqttSnGateway.Core.Loop
import MqttSnGateway.Store.Files
import MqttSnGateway.Store.Registry

namespace MqttSnGateway

open Persistent

/-- What a setter makes of the registry when its transaction selected slot `n`. -/
def Store.setEntry (s : Store) (n : Nat) (f : EntryClient → EntryClient) : Store :=
  s.writeSlot (s.nthClient n).slotNumber (f (s.nthClient n))

/-- A change of the files of the client in slot `n`. -/
def Store.setFiles (s : Store) (n : Nat) (f : ClientFiles → ClientFiles) : Store :=
  s.modifyFiles (s.nthClient n).fileNumber f

namespace Gateway

def inside (g : Gateway) (s : Store) (entry : EntryClient) (unknown failed : Bool) : Gateway :=
  { g with persistent := g.persistent.inside s entry unknown failed }

def settled (g : Gateway) (s : Store) (entry : EntryClient) : Gateway :=
  { g with persistent := g.persistent.settled s entry }

section Inside

variable {g : Gateway} {s s' : Store} {entry entry' : EntryClient} {unknown failed unknown' failed' : Bool}

@[simp] theorem persistent_inside :
    (g.inside s entry unknown failed).persistent = g.persistent.inside s entry unknown failed := rfl

@[simp] theorem persistent_settled : (g.settled s entry).persistent = g.persistent.settled s entry := rfl

@[simp] theorem store_settled : (g.settled s entry).store = s := rfl

@[simp] theorem sent_settled : (g.settled s entry).sent = g.sent := rfl

@[simp] theorem subscribed_settled : (g.settled s entry).subscribed = g.subscribed := rfl

@[simp] theorem isConnected_settled : (g.settled s entry).isConnected = g.isConnected := rfl

@[simp] theorem socketOpen_settled : (g.settled s entry).socketOpen = g.socketOpen := rfl

theorem idle_settled : (g.settled s entry).persistent.Idle := Persistent.idle_settled

@[simp] theorem inside_inside :
    (g.inside s entry unknown failed).inside s' entry' unknown' failed' = g.inside s' entry' unknown' failed' := rfl

@[simp] theorem inside_settled :
    (g.settled s entry).inside s' entry' unknown' failed' = g.inside s' entry' unknown' failed' := rfl

@[simp] theorem settled_settled : (g.settled s entry).settled s' entry' = g.settled s' entry' := rfl

theorem update_inside {f : Persistent → Persistent}
    (changed : f (g.persistent.inside s entry unknown failed) = g.persistent.inside s' entry' unknown' failed') :
    (g.inside s entry unknown failed).update f = g.inside s' entry' unknown' failed' := by
  unfold update inside
  simp only [changed]

theorem applyTransaction_inside :
    (g.inside s entry unknown failed).applyTransaction =
      (if failed then 0 else if unknown then 255 else 1, g.settled s entry) := rfl

end Inside

section Starting

variable {g : Gateway} {address : DeviceAddress} {slot : Nat}

theorem startClientTransaction_found (idle : g.persistent.Idle) (found : g.store.slotOfAddress address = some slot) :
    g.startClientTransaction address = g.inside g.store (g.store.nthClient slot) false false :=
  congrArg (fun p => { g with persistent := p }) (Persistent.startClientTransaction_found idle found)

theorem startClientTransaction_missing (idle : g.persistent.Idle) (missing : g.store.slotOfAddress address = none) :
    g.startClientTransaction address = g.inside g.store .zero true false :=
  congrArg (fun p => { g with persistent := p }) (Persistent.startClientTransaction_missing idle missing)

theorem transaction_found (change : Persistent → Persistent) {toResult : UInt8 → CoreResult} {s : Store}
    {entry : EntryClient} {failed : Bool} (idle : g.persistent.Idle) (found : g.store.slotOfAddress address = some slot)
    (changed : change (g.persistent.inside g.store (g.store.nthClient slot) false false) =
      g.persistent.inside s entry false failed) :
    g.transaction address change toResult = (toResult (if failed then 0 else 1), g.settled s entry) := by
  unfold transaction
  rw [startClientTransaction_found idle found, update_inside changed, applyTransaction_inside]
  rfl

theorem transaction_missing (change : Persistent → Persistent) {toResult : UInt8 → CoreResult}
    (idle : g.persistent.Idle) (missing : g.store.slotOfAddress address = none)
    (unchanged : change (g.persistent.inside g.store .zero true false) = g.persistent.inside g.store .zero true false) :
    g.transaction address change toResult = (toResult 255, g.settled g.store .zero) := by
  unfold transaction
  rw [startClientTransaction_missing idle missing, update_inside unchanged, applyTransaction_inside]
  rfl

end Starting

section Setters

variable {g : Gateway} {address : DeviceAddress} {slot : Nat} {toResult : UInt8 → CoreResult}

theorem transaction_updateEntry_found {f : EntryClient → EntryClient} (idle : g.persistent.Idle)
    (found : g.store.slotOfAddress address = some slot) :
    g.transaction address (fun p => p.updateEntry f) toResult =
      (toResult 1, g.settled (g.store.setEntry slot f) (f (g.store.nthClient slot))) := by
  rw [transaction_found (fun p => p.updateEntry f) idle found updateEntry_inside]
  rfl

theorem transaction_updateEntry_missing {f : EntryClient → EntryClient} (idle : g.persistent.Idle)
    (missing : g.store.slotOfAddress address = none) :
    g.transaction address (fun p => p.updateEntry f) toResult = (toResult 255, g.settled g.store .zero) :=
  transaction_missing (fun p => p.updateEntry f) idle missing (updateEntry_unready rfl)

theorem awaitMessage_found {type : MessageType} (idle : g.persistent.Idle)
    (found : g.store.slotOfAddress address = some slot) :
    g.awaitMessage address type = (.success, g.settled
      (g.store.setEntry slot fun entry => { entry with awaitMessage := type })
      { g.store.nthClient slot with awaitMessage := type }) :=
  transaction_updateEntry_found idle found

theorem awaitMessage_missing {type : MessageType} (idle : g.persistent.Idle)
    (missing : g.store.slotOfAddress address = none) :
    g.awaitMessage address type = (.zero, g.settled g.store .zero) :=
  transaction_updateEntry_missing idle missing

theorem setDisconnected_found (idle : g.persistent.Idle) (found : g.store.slotOfAddress address = some slot) :
    g.setDisconnected address = (.success, g.settled
      (g.store.setEntry slot fun entry => { entry with clientStatus := .disconnected })
      { g.store.nthClient slot with clientStatus := .disconnected }) :=
  transaction_updateEntry_found idle found

/-- The result is not CLIENTNONEXISTENCE, as -1 does not survive the `uint8_t`. -/
theorem setDisconnected_missing (idle : g.persistent.Idle) (missing : g.store.slotOfAddress address = none) :
    g.setDisconnected address = (.zero, g.settled g.store .zero) :=
  transaction_updateEntry_missing idle missing

theorem setAwake_found (idle : g.persistent.Idle) (found : g.store.slotOfAddress address = some slot) :
    g.setAwake address = (.success, g.settled
      (g.store.setEntry slot fun entry => { entry with clientStatus := .awake })
      { g.store.nthClient slot with clientStatus := .awake }) :=
  transaction_updateEntry_found idle found

theorem setAwake_missing (idle : g.persistent.Idle) (missing : g.store.slotOfAddress address = none) :
    g.setAwake address = (.zero, g.settled g.store .zero) :=
  transaction_updateEntry_missing idle missing

theorem setAsleep_found {duration : UInt16} (idle : g.persistent.Idle) (online : g.persistent.isMqttOnline = true)
    (found : g.store.slotOfAddress address = some slot) :
    g.setAsleep address duration = (.success, g.settled
      (g.store.setEntry slot fun entry => { entry with clientStatus := .asleep })
      { g.store.nthClient slot with clientStatus := .asleep }) := by
  unfold setAsleep
  rw [if_neg (by simp [online])]
  exact transaction_updateEntry_found (f := fun entry => { entry with clientStatus := .asleep }) idle found

theorem setAsleep_missing {duration : UInt16} (idle : g.persistent.Idle) (online : g.persistent.isMqttOnline = true)
    (missing : g.store.slotOfAddress address = none) :
    g.setAsleep address duration = (.zero, g.settled g.store .zero) := by
  unfold setAsleep
  rw [if_neg (by simp [online])]
  exact transaction_updateEntry_missing (f := fun entry => { entry with clientStatus := .asleep }) idle missing

theorem setAsleep_offline {duration : UInt16} (offline : g.persistent.isMqttOnline = false) :
    g.setAsleep address duration = (.zero, g) := by
  unfold setAsleep
  rw [if_pos (by simp [offline])]

end Setters

end Gateway

end MqttSnGateway
