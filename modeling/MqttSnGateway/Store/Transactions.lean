import MqttSnGateway.Store.Persistent

namespace MqttSnGateway

def EntryClient.slotNumber (entry : EntryClient) : Nat := entry.fileNumber.atoi.toNat

namespace Persistent

/-- No operation is in progress. -/
structure Idle (p : Persistent) : Prop where
  closed : p.transactionStarted = false
  clean : p.error = false
  known : p.notInClientRegistry = false

/-- `p` inside a transaction that has made the store `s` and holds `entry`. -/
def inside (p : Persistent) (s : Store) (entry : EntryClient) (unknown failed : Bool) : Persistent :=
  { p with
    store := s, entryClient := entry, transactionStarted := true, error := failed
    notInClientRegistry := unknown }

/-- `p` after a transaction that has made the store `s`. -/
def settled (p : Persistent) (s : Store) (entry : EntryClient) : Persistent :=
  { p with
    store := s, entryClient := entry, transactionStarted := false, error := false
    notInClientRegistry := false }

section Inside

variable {p : Persistent} {s : Store} {entry : EntryClient} {unknown failed : Bool}

@[simp] theorem store_inside : (p.inside s entry unknown failed).store = s := rfl

@[simp] theorem entryClient_inside : (p.inside s entry unknown failed).entryClient = entry := rfl

@[simp] theorem sd_inside : (p.inside s entry unknown failed).sd = p.sd := rfl

@[simp] theorem topicsPre_inside : (p.inside s entry unknown failed).topicsPre = p.topicsPre := rfl

@[simp] theorem transactionStarted_inside : (p.inside s entry unknown failed).transactionStarted = true := rfl

@[simp] theorem error_inside : (p.inside s entry unknown failed).error = failed := rfl

@[simp] theorem isMqttOnline_inside : (p.inside s entry unknown failed).isMqttOnline = p.isMqttOnline := rfl

@[simp] theorem notInClientRegistry_inside :
    (p.inside s entry unknown failed).notInClientRegistry = unknown := rfl

@[simp] theorem ready_inside : (p.inside s entry unknown failed).ready = (!failed && !unknown) := rfl

@[simp] theorem files_inside : (p.inside s entry unknown failed).files = s.files entry.fileNumber := rfl

@[simp] theorem clientExist_inside : (p.inside s entry unknown failed).clientExist = (!failed && !unknown) := by
  cases failed <;> rfl

@[simp] theorem clientPosition_inside : (p.inside s entry unknown failed).clientPosition = entry.slotNumber := rfl

@[simp] theorem inside_inside {s' : Store} {entry' : EntryClient} {unknown' failed' : Bool} :
    (p.inside s entry unknown failed).inside s' entry' unknown' failed' = p.inside s' entry' unknown' failed' := rfl

@[simp] theorem modifyFiles_inside {f : ClientFiles → ClientFiles} :
    (p.inside s entry unknown failed).modifyFiles f =
      p.inside (s.modifyFiles entry.fileNumber f) entry unknown failed := rfl

theorem applyTransaction_inside :
    (p.inside s entry unknown failed).applyTransaction =
      (if failed then 0 else if unknown then 255 else 1, p.settled s entry) := rfl

theorem updateEntry_inside {f : EntryClient → EntryClient} :
    (p.inside s entry false false).updateEntry f =
      p.inside (s.writeSlot entry.slotNumber (f entry)) (f entry) false false := rfl

theorem updateEntry_unready {f : EntryClient → EntryClient} (blocked : p.ready = false) : p.updateEntry f = p := by
  unfold updateEntry
  rw [blocked]
  rfl

end Inside

section Settled

variable {p : Persistent} {s : Store} {entry : EntryClient}

@[simp] theorem store_settled : (p.settled s entry).store = s := rfl

@[simp] theorem sd_settled : (p.settled s entry).sd = p.sd := rfl

@[simp] theorem topicsPre_settled : (p.settled s entry).topicsPre = p.topicsPre := rfl

@[simp] theorem isMqttOnline_settled : (p.settled s entry).isMqttOnline = p.isMqttOnline := rfl

@[simp] theorem isMqttsnOnline_settled : (p.settled s entry).isMqttsnOnline = p.isMqttsnOnline := rfl

theorem idle_settled : (p.settled s entry).Idle := ⟨rfl, rfl, rfl⟩

@[simp] theorem settled_settled {s' : Store} {entry' : EntryClient} :
    (p.settled s entry).settled s' entry' = p.settled s' entry' := rfl

@[simp] theorem inside_settled {s' : Store} {entry' : EntryClient} {unknown failed : Bool} :
    (p.settled s entry).inside s' entry' unknown failed = p.inside s' entry' unknown failed := rfl

end Settled

section Starting

variable {p : Persistent}

theorem startClientTransaction_found {address : DeviceAddress} {slot : Nat} (idle : p.Idle)
    (found : p.store.slotOfAddress address = some slot) :
    p.startClientTransaction address = p.inside p.store (p.store.nthClient slot) false false := by
  unfold startClientTransaction
  rw [if_neg (by simp [idle.closed]), found]
  rfl

theorem startClientTransaction_missing {address : DeviceAddress} (idle : p.Idle)
    (missing : p.store.slotOfAddress address = none) :
    p.startClientTransaction address = p.inside p.store .zero true false := by
  unfold startClientTransaction
  rw [if_neg (by simp [idle.closed]), missing]
  rfl

theorem startClientTransactionById_found {clientId : CString} {slot : Nat} (idle : p.Idle)
    (short : clientId.length < 24) (found : p.store.slotOfId clientId = some slot) :
    p.startClientTransactionById clientId = p.inside p.store (p.store.nthClient slot) false false := by
  unfold startClientTransactionById
  rw [if_neg (by simp [idle.closed]), if_neg (by omega), found]
  rfl

theorem startClientTransactionById_missing {clientId : CString} (idle : p.Idle) (short : clientId.length < 24)
    (missing : p.store.slotOfId clientId = none) :
    p.startClientTransactionById clientId = p.inside p.store .zero true false := by
  unfold startClientTransactionById
  rw [if_neg (by simp [idle.closed]), if_neg (by omega), missing]
  rfl

theorem startClientTransactionById_long {clientId : CString} (idle : p.Idle) (long : 24 ≤ clientId.length) :
    p.startClientTransactionById clientId = { p with error := true } := by
  unfold startClientTransactionById
  rw [if_neg (by simp [idle.closed]), if_pos long]

end Starting

end Persistent

end MqttSnGateway
