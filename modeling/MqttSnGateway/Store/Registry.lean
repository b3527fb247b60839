import MqttSnGateway.Store.Transactions

namespace MqttSnGateway

/-- What slot `n` of the registry may hold: zeros, or a client whose file number names the slot. A client
    without an id may lack the file number. -/
structure EntryClient.Fits (entry : EntryClient) (n : Nat) : Prop where
  emptied : entry.clientStatus = .empty → entry = .zero
  addressed : entry.clientStatus ≠ .empty → entry.clientAddress ≠ .zero
  named : entry.clientId.length < 24
  numbered : entry.clientStatus ≠ .empty →
    entry.fileNumber = MqttSnGateway.fileNumber n ∨ entry.fileNumber = .empty ∧ entry.clientId = .empty

/-- `other` is `entry` with another status, timeout or awaited message. -/
structure EntryClient.Same (entry other : EntryClient) : Prop where
  clientId : other.clientId = entry.clientId
  fileNumber : other.fileNumber = entry.fileNumber
  clientAddress : other.clientAddress = entry.clientAddress
  registered : other.clientStatus ≠ .empty

namespace Store

/-- The registry is well formed: its slots are, and a client id is used once. -/
structure SlotsOk (s : Store) : Prop where
  short : s.clients.length ≤ 65536
  fits : ∀ n, (s.nthClient n).Fits n
  distinct : ∀ m n, (s.nthClient m).clientId = (s.nthClient n).clientId → (s.nthClient m).clientId ≠ .empty → m = n

section Slots

variable {s : Store} {slot n : Nat} {entry : EntryClient}

theorem nthClient_writeSlot :
    (s.writeSlot slot entry).nthClient n = if n = slot then entry else s.nthClient n :=
  RecordFile.getD_put

theorem nthClient_writeSlot_self : (s.writeSlot slot entry).nthClient slot = entry := by
  rw [nthClient_writeSlot, if_pos rfl]

theorem nthClient_writeSlot_ne (different : n ≠ slot) :
    (s.writeSlot slot entry).nthClient n = s.nthClient n := by
  rw [nthClient_writeSlot, if_neg different]

theorem nthClient_outside (outside : s.clients.length ≤ n) : s.nthClient n = .zero :=
  List.getD_eq_default _ _ outside

theorem nthClient_inside (inside : n < s.clients.length) : s.nthClient n = s.clients[n] :=
  List.getD_eq_getElem _ _ inside

theorem inside_of_ne_zero (used : s.nthClient n ≠ .zero) : n < s.clients.length := by
  by_contra outside
  exact used (nthClient_outside (by omega))

@[simp] theorem clients_modifyFiles {number : CString} {f : ClientFiles → ClientFiles} :
    (s.modifyFiles number f).clients = s.clients := rfl

@[simp] theorem nthClient_modifyFiles {number : CString} {f : ClientFiles → ClientFiles} :
    (s.modifyFiles number f).nthClient n = s.nthClient n := rfl

@[simp] theorem files_writeSlot : (s.writeSlot slot entry).files = s.files := rfl

@[simp] theorem mqttSub_writeSlot : (s.writeSlot slot entry).mqttSub = s.mqttSub := rfl

@[simp] theorem mqttSub_modifyFiles {number : CString} {f : ClientFiles → ClientFiles} :
    (s.modifyFiles number f).mqttSub = s.mqttSub := rfl

theorem files_modifyFiles {number other : CString} {f : ClientFiles → ClientFiles} :
    (s.modifyFiles number f).files other = if other = number then f (s.files number) else s.files other := by
  unfold modifyFiles
  simp only [Function.update_apply]

theorem files_modifyFiles_self {number : CString} {f : ClientFiles → ClientFiles} :
    (s.modifyFiles number f).files number = f (s.files number) := by
  rw [files_modifyFiles, if_pos rfl]

theorem modifyFiles_congr {number : CString} {f h : ClientFiles → ClientFiles}
    (same : f (s.files number) = h (s.files number)) : s.modifyFiles number f = s.modifyFiles number h := by
  unfold modifyFiles
  rw [same]

theorem modifyFiles_modifyFiles {number : CString} {f h : ClientFiles → ClientFiles} :
    (s.modifyFiles number f).modifyFiles number h = s.modifyFiles number fun files => h (f files) := by
  unfold modifyFiles
  simp only [Function.update_self, Function.update_idem]

theorem modifyFiles_id {number : CString} {f : ClientFiles → ClientFiles}
    (same : f (s.files number) = s.files number) : s.modifyFiles number f = s := by
  unfold modifyFiles
  rw [same, Function.update_eq_self]

end Slots

section Selection

variable {s : Store} {slot : Nat} {address : DeviceAddress} {clientId : CString}

theorem findIdx?_clients {p : EntryClient → Bool} :
    s.clients.findIdx? p = some slot ↔
      slot < s.clients.length ∧ p (s.nthClient slot) = true ∧ ∀ n < slot, p (s.nthClient n) = false := by
  rw [List.findIdx?_eq_some_iff_getElem]
  constructor
  · intro ⟨inside, holds, first⟩
    refine ⟨inside, by rwa [nthClient_inside inside], ?_⟩
    intro n before
    rw [nthClient_inside (by omega)]
    simpa using first n before
  · intro ⟨inside, holds, first⟩
    refine ⟨inside, by rwa [nthClient_inside inside] at holds, ?_⟩
    intro n before
    have fails := first n before
    rw [nthClient_inside (by omega)] at fails
    simp [fails]

theorem findIdx?_clients_none {p : EntryClient → Bool} (zero : p .zero = false) :
    s.clients.findIdx? p = none ↔ ∀ n, p (s.nthClient n) = false := by
  rw [List.findIdx?_eq_none_iff]
  constructor
  · intro none n
    by_cases inside : n < s.clients.length
    · rw [nthClient_inside inside]
      exact none _ (List.getElem_mem inside)
    · rw [nthClient_outside (by omega), zero]
  · intro none entry member
    obtain ⟨n, inside, rfl⟩ := List.getElem_of_mem member
    rw [← nthClient_inside inside]
    exact none n

theorem SlotsOk.slotOfAddress_eq_some (ok : s.SlotsOk) (nonzero : address ≠ .zero) :
    s.slotOfAddress address = some slot ↔
      (s.nthClient slot).clientAddress = address ∧ ∀ n < slot, (s.nthClient n).clientAddress ≠ address := by
  unfold slotOfAddress
  rw [findIdx?_clients]
  have named : ∀ n, (s.nthClient n).clientId.length < 24 := fun n => (ok.fits n).named
  simp only [named, decide_true, Bool.true_and, decide_eq_true_eq, decide_eq_false_iff_not]
  constructor
  · intro ⟨_, holds⟩
    exact holds
  · intro ⟨same, first⟩
    refine ⟨inside_of_ne_zero ?_, same, first⟩
    intro zero
    rw [zero] at same
    exact nonzero same.symm

theorem SlotsOk.slotOfAddress_eq_none (ok : s.SlotsOk) (nonzero : address ≠ .zero) :
    s.slotOfAddress address = none ↔ ∀ n, (s.nthClient n).clientAddress ≠ address := by
  unfold slotOfAddress
  have named : ∀ n, (s.nthClient n).clientId.length < 24 := fun n => (ok.fits n).named
  rw [findIdx?_clients_none]
  · simp only [named, decide_true, Bool.true_and, decide_eq_false_iff_not]
  · have different : ¬ EntryClient.zero.clientAddress = address := fun same => nonzero same.symm
    simp [different]

theorem SlotsOk.registered_of_slotOfAddress (ok : s.SlotsOk) (nonzero : address ≠ .zero)
    (found : s.slotOfAddress address = some slot) : (s.nthClient slot).clientStatus ≠ .empty := by
  have same := ((ok.slotOfAddress_eq_some nonzero).mp found).1
  intro empty
  rw [(ok.fits slot).emptied empty] at same
  exact nonzero same.symm

theorem SlotsOk.slotOfId_eq_some (ok : s.SlotsOk) :
    s.slotOfId clientId = some slot ↔
      slot < s.clients.length ∧ (s.nthClient slot).clientId = clientId ∧
        ∀ n < slot, (s.nthClient n).clientId ≠ clientId := by
  unfold slotOfId
  rw [findIdx?_clients]
  have named : ∀ n, (s.nthClient n).clientId.length < 24 := fun n => (ok.fits n).named
  simp only [named, decide_true, Bool.true_and, decide_eq_true_eq, decide_eq_false_iff_not]

theorem SlotsOk.slotOfId_eq_some_of_ne (ok : s.SlotsOk) (given : clientId ≠ .empty) :
    s.slotOfId clientId = some slot ↔ (s.nthClient slot).clientId = clientId := by
  rw [ok.slotOfId_eq_some]
  constructor
  · intro ⟨_, same, _⟩
    exact same
  · intro same
    refine ⟨inside_of_ne_zero ?_, same, ?_⟩
    · intro zero
      rw [zero] at same
      exact given same.symm
    · intro n before other
      have equal := ok.distinct n slot (other.trans same.symm) (by rw [other]; exact given)
      omega

theorem SlotsOk.slotOfId_eq_none (ok : s.SlotsOk) (given : clientId ≠ .empty) :
    s.slotOfId clientId = none ↔ ∀ n, (s.nthClient n).clientId ≠ clientId := by
  unfold slotOfId
  have named : ∀ n, (s.nthClient n).clientId.length < 24 := fun n => (ok.fits n).named
  rw [findIdx?_clients_none]
  · simp only [named, decide_true, Bool.true_and, decide_eq_false_iff_not]
  · have different : ¬ EntryClient.zero.clientId = clientId := fun same => given same.symm
    simp [different]

theorem SlotsOk.slotOfAddress_here (ok : s.SlotsOk) (nonzero : address ≠ .zero)
    (here : (s.nthClient slot).clientAddress = address) : ∃ m ≤ slot, s.slotOfAddress address = some m := by
  cases selection : s.slotOfAddress address with
  | none => exact absurd here ((ok.slotOfAddress_eq_none nonzero).mp selection slot)
  | some m =>
    refine ⟨m, ?_, rfl⟩
    by_contra later
    exact ((ok.slotOfAddress_eq_some nonzero).mp selection).2 slot (by omega) here

theorem SlotsOk.slotOfId_here (ok : s.SlotsOk) (inside : slot < s.clients.length)
    (here : (s.nthClient slot).clientId = clientId) : ∃ m ≤ slot, s.slotOfId clientId = some m := by
  cases selection : s.slotOfId clientId with
  | none =>
    unfold slotOfId at selection
    have fails := List.findIdx?_eq_none_iff.mp selection _ (List.getElem_mem inside)
    rw [← nthClient_inside inside, here] at fails
    have named := (ok.fits slot).named
    rw [here] at named
    simp [named] at fails
  | some m =>
    refine ⟨m, ?_, rfl⟩
    by_contra later
    exact (ok.slotOfId_eq_some.mp selection).2.2 slot (by omega) here

/-- Where `add_client` puts a client: the first slot without a client id, or slot 0 when all are used. -/
theorem SlotsOk.findEmptyEntrySpace_cases (ok : s.SlotsOk) :
    s.findEmptyEntrySpace < 65536 ∧
      ((s.nthClient s.findEmptyEntrySpace).clientId = .empty ∨
        s.findEmptyEntrySpace = 0 ∧ s.clients.length = 65536) := by
  have short := ok.short
  unfold findEmptyEntrySpace
  cases scan : s.clients.findIdx? fun entry => entry.clientId.length = 0 with
  | some slot =>
    obtain ⟨inside, holds, _⟩ := findIdx?_clients.mp scan
    have small : slot % 65536 = slot := Nat.mod_eq_of_lt (by omega)
    simp only [small]
    refine ⟨by omega, .inl ?_⟩
    exact CString.length_eq_zero.mp (by simpa using holds)
  | none =>
    simp only
    refine ⟨by omega, ?_⟩
    rcases Nat.lt_or_eq_of_le short with room | full
    · left
      rw [Nat.mod_eq_of_lt room, nthClient_outside (Nat.le_refl _)]
      rfl
    · right
      simp [full]

/-- What `get_last_client_address` delivers: the address of the last slot in use. -/
theorem lastClientAddress_cases (s : Store) (preset : DeviceAddress) :
    (∀ n, (s.nthClient n).clientStatus = .empty) ∧ s.lastClientAddress preset = preset ∨
      ∃ l, (s.nthClient l).clientStatus ≠ .empty ∧ (∀ m, l < m → (s.nthClient m).clientStatus = .empty) ∧
        s.lastClientAddress preset = (s.nthClient l).clientAddress := by
  unfold lastClientAddress nthClient
  cases scan : s.clients.reverse.find? fun entry => entry.clientStatus ≠ .empty with
  | none =>
    left
    refine ⟨fun n => ?_, rfl⟩
    have emptied := List.find?_eq_none.mp scan
    by_cases inside : n < s.clients.length
    · rw [List.getD_eq_getElem _ _ inside]
      simpa using emptied _ (List.mem_reverse.mpr (List.getElem_mem inside))
    · rw [List.getD_eq_default _ _ (by omega)]
      rfl
  | some entry =>
    right
    obtain ⟨used, behind, before, split, emptied⟩ := List.find?_eq_some_iff_append.mp scan
    have clients : s.clients = before.reverse ++ entry :: behind.reverse := by
      rw [← List.reverse_reverse s.clients, split]
      simp
    refine ⟨before.reverse.length, ?_, ?_, ?_⟩
    · rw [clients, List.getD_append_right _ _ _ _ (Nat.le_refl _), Nat.sub_self]
      simpa using used
    · intro m later
      rw [clients, List.getD_append_right _ _ _ _ (by omega)]
      obtain ⟨k, place⟩ : ∃ k, m - before.reverse.length = k + 1 := ⟨m - before.reverse.length - 1, by omega⟩
      rw [place, List.getD_cons_succ]
      by_cases inside : k < behind.reverse.length
      · rw [List.getD_eq_getElem _ _ inside]
        simpa using emptied _ (List.mem_reverse.mp (List.getElem_mem inside))
      · rw [List.getD_eq_default _ _ (by omega)]
        rfl
    · rw [clients, List.getD_append_right _ _ _ _ (Nat.le_refl _), Nat.sub_self]
      rfl

end Selection

section Writes

variable {s : Store} {slot : Nat} {entry other : EntryClient}

theorem zero_fits : EntryClient.zero.Fits slot where
  emptied := fun _ => rfl
  addressed := fun registered => absurd rfl registered
  named := by decide
  numbered := fun registered => absurd rfl registered

theorem length_writeSlot : (s.writeSlot slot entry).clients.length = max s.clients.length (slot + 1) :=
  RecordFile.length_put

/-- Every write to the registry is of this kind: a fitting entry whose client id no other slot has. -/
theorem SlotsOk.writeSlot (ok : s.SlotsOk) (small : slot < 65536) (fits : entry.Fits slot)
    (unique : entry.clientId ≠ .empty → ∀ n, n ≠ slot → (s.nthClient n).clientId ≠ entry.clientId) :
    (s.writeSlot slot entry).SlotsOk where
  short := by
    have short := ok.short
    rw [length_writeSlot]
    omega
  fits := by
    intro n
    rw [nthClient_writeSlot]
    split
    · rename_i same
      rwa [same]
    · exact ok.fits n
  distinct := by
    intro m n same given
    rw [nthClient_writeSlot] at same given
    rw [nthClient_writeSlot] at same
    split at same <;> split at same
    · omega
    · rename_i first second
      rw [if_pos first] at given
      exact absurd same.symm (unique given n second)
    · rename_i first second
      rw [if_neg first] at given
      exact absurd same (unique (same ▸ given) m first)
    · rename_i first second
      rw [if_neg first] at given
      exact ok.distinct m n same given

theorem SlotsOk.inside (ok : s.SlotsOk) (registered : (s.nthClient slot).clientStatus ≠ .empty) :
    slot < 65536 := by
  have short := ok.short
  have inside : slot < s.clients.length := by
    apply inside_of_ne_zero
    intro zero
    rw [zero] at registered
    exact registered rfl
  omega

theorem slotNumber_fileNumber (small : slot < 65536) (named : entry.fileNumber = fileNumber slot) :
    entry.slotNumber = slot := by
  unfold EntryClient.slotNumber
  rw [named, atoi_fileNumber (by omega)]
  rfl

theorem slotNumber_empty (unnamed : entry.fileNumber = .empty) : entry.slotNumber = 0 := by
  unfold EntryClient.slotNumber
  rw [unnamed]
  rfl

/-- A setter writes to its client's own slot, or to slot 0 for a client without a file number. -/
theorem SlotsOk.slotNumber_cases (ok : s.SlotsOk) (registered : (s.nthClient slot).clientStatus ≠ .empty) :
    (s.nthClient slot).fileNumber = fileNumber slot ∧ (s.nthClient slot).slotNumber = slot ∨
      (s.nthClient slot).fileNumber = .empty ∧ (s.nthClient slot).clientId = .empty ∧
        (s.nthClient slot).slotNumber = 0 := by
  rcases (ok.fits slot).numbered registered with named | ⟨unnamed, anonymous⟩
  · exact .inl ⟨named, slotNumber_fileNumber (ok.inside registered) named⟩
  · exact .inr ⟨unnamed, anonymous, slotNumber_empty unnamed⟩

theorem SlotsOk.writeBack (ok : s.SlotsOk) (registered : (s.nthClient slot).clientStatus ≠ .empty)
    (same : (s.nthClient slot).Same other) : (s.writeSlot (s.nthClient slot).slotNumber other).SlotsOk := by
  have fits := ok.fits slot
  have renamed : ∀ n, other.fileNumber = fileNumber n ∨ other.fileNumber = .empty ∧ other.clientId = .empty →
      other.Fits n := by
    intro n numbered
    refine ⟨fun empty => absurd empty same.registered, fun _ => ?_, ?_, fun _ => numbered⟩
    · rw [same.clientAddress]
      exact fits.addressed registered
    · rw [same.clientId]
      exact fits.named
  rcases ok.slotNumber_cases registered with ⟨named, position⟩ | ⟨unnamed, anonymous, position⟩
  · rw [position]
    apply ok.writeSlot (ok.inside registered)
    · exact renamed slot (.inl (same.fileNumber.trans named))
    · intro given n different taken
      rw [same.clientId] at given taken
      exact different (ok.distinct n slot taken (taken ▸ given))
  · rw [position]
    have empty : other.clientId = .empty := same.clientId.trans anonymous
    apply ok.writeSlot (by decide)
    · exact renamed 0 (.inr ⟨same.fileNumber.trans unnamed, empty⟩)
    · exact fun given => absurd empty given

theorem SlotsOk.erase (ok : s.SlotsOk) (small : slot < 65536) : (s.writeSlot slot .zero).SlotsOk :=
  ok.writeSlot small zero_fits fun given => absurd rfl given

theorem SlotsOk.modifyFiles {number : CString} {f : ClientFiles → ClientFiles} (ok : s.SlotsOk) :
    (s.modifyFiles number f).SlotsOk := ⟨ok.short, ok.fits, ok.distinct⟩

theorem SlotsOk.withCounts {table : List EntryMqttSubscription} {behind overruns : Nat} (ok : s.SlotsOk) :
    ({ s with mqttSub := table, mqttSubBehind := behind, overruns := overruns } : Store).SlotsOk := ⟨ok.short, ok.fits, ok.distinct⟩

end Writes

end Store

end MqttSnGateway
