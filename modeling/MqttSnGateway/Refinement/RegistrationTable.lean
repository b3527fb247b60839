import MqttSnGateway.Lib.Numbering
import MqttSnGateway.Refinement.OpenTransaction
import MqttSnGateway.Store.Counts
import Mathlib.Data.Finset.Card

namespace MqttSnGateway

open Persistent RecordFile

namespace RegistrationTable

def entry (n : Nat) (name : CString) : EntryRegistration := ⟨UInt16.ofNat (n + 1), name, true⟩

/-- The `.REG` file of a numbering: the names in their order. -/
def file (numbering : NameNumbering CString) : List EntryRegistration := numbering.names.mapIdx entry

/-- The names fit into the records and their numbers into a topic id. -/
structure Fits (numbering : NameNumbering CString) : Prop where
  few : numbering.names.length < 65535
  short : ∀ name ∈ numbering.names, name.length < 255

section File

variable {numbering : NameNumbering CString} {name : CString} {record : EntryRegistration} {n k : Nat} {topicId : UInt16}

theorem getElem?_file : (file numbering)[n]? = some record ↔
    ∃ name, numbering.names[n]? = some name ∧ entry n name = record := by
  unfold file
  rw [List.getElem?_mapIdx, Option.map_eq_some_iff]

theorem toNat_ofNumber (small : k < 65536) : (UInt16.ofNat k).toNat = k := by
  rw [UInt16.toNat_ofNat']
  omega

theorem topicId_record (fits : Fits numbering) (found : (file numbering)[n]? = some record) :
    record.topicId.toNat = n + 1 ∧ record.topicName.length < 255 ∧ numbering.names[n]? = some record.topicName := by
  obtain ⟨name, named, rfl⟩ := getElem?_file.mp found
  have few := fits.few
  have inside := (List.getElem?_eq_some_iff.mp named).1
  exact ⟨toNat_ofNumber (by omega), fits.short name (List.mem_of_getElem? named), named⟩

theorem entry_of_given (given : name ∈ numbering.names) :
    (file numbering)[numbering.names.idxOf name]? = some (entry (numbering.names.idxOf name) name) :=
  getElem?_file.mpr ⟨name, List.getElem?_idxOf given, rfl⟩

theorem not_empty (fits : Fits numbering) : ∀ record ∈ file numbering, EntryRegistration.isEmpty record = false := by
  intro record member
  obtain ⟨n, found⟩ := List.mem_iff_getElem?.mp member
  have number := (topicId_record fits found).1
  have used : record.topicId ≠ 0 := by
    intro zero
    rw [zero, UInt16.toNat_zero] at number
    omega
  simp [EntryRegistration.isEmpty, used]

theorem file_give (new : name ∉ numbering.names) :
    file (numbering.give name) = file numbering ++ [entry numbering.names.length name] := by
  unfold file
  rw [NameNumbering.names_give_new new, List.mapIdx_append, List.mapIdx_singleton]
  simp

theorem registerName_given {files : ClientFiles} (fits : Fits numbering) (reg : files.reg = file numbering)
    (given : name ∈ numbering.names) : registerName files name = (UInt16.ofNat (numbering.numberOf name), files) := by
  have found := entry_of_given given
  have number := (topicId_record fits found).1
  have used : (entry (numbering.names.idxOf name) name).topicId ≠ 0 := by
    intro zero
    rw [zero, UInt16.toNat_zero] at number
    omega
  have single : Single (fun record : EntryRegistration =>
      record.topicId ≠ 0 && record.topicName.length < 255 && record.topicName = name) (file numbering) := by
    intro i j first second here there same other
    simp only [Bool.and_eq_true, decide_eq_true_eq] at same other
    have left := (topicId_record fits here).2.2
    have right := (topicId_record fits there).2.2
    rw [same.2] at left
    rw [other.2] at right
    have inside := (List.getElem?_eq_some_iff.mp left).1
    exact (List.getElem?_inj inside numbering.distinct).mp (left.trans right.symm)
  unfold registerName
  rw [reg, single.find? found ?_]
  · rfl
  · have short := fits.short name given
    simpa [entry, short] using used

theorem registerName_new {files : ClientFiles} (fits : Fits numbering) (reg : files.reg = file numbering)
    (new : name ∉ numbering.names) :
    registerName files name = (UInt16.ofNat ((numbering.give name).numberOf name),
      { files with reg := file (numbering.give name) }) := by
  have length : (file numbering).length = numbering.names.length := by
    unfold file
    rw [List.length_mapIdx]
  have few := fits.few
  have missing : (file numbering).find? (fun record =>
      record.topicId ≠ 0 && record.topicName.length < 255 && record.topicName = name) = none := by
    rw [List.find?_eq_none]
    intro record member
    obtain ⟨n, found⟩ := List.mem_iff_getElem?.mp member
    have named := (topicId_record fits found).2.2
    have different : record.topicName ≠ name := by
      rintro rfl
      exact new (List.mem_of_getElem? named)
    simp [different]
  have free : freeSpace EntryRegistration.isEmpty (file numbering) = (numbering.names.length : Nat) := by
    unfold freeSpace
    rw [lastIdx?_none.mpr (not_empty fits), length]
    simp only
    omega
  unfold registerName
  rw [reg, missing]
  simp only
  rw [free, putAt_ofNat, behind_ofNat, file_give new, length, NameNumbering.numberOf_new new]
  unfold put
  rw [length]
  simp [entry]

theorem registeredName_file (fits : Fits numbering) (topicId : UInt16) :
    registeredName (file numbering) topicId = numbering.nameOf topicId.toNat := by
  unfold registeredName
  cases named : numbering.nameOf topicId.toNat with
  | some name =>
    obtain ⟨given, number⟩ := NameNumbering.nameOf_eq_some.mp named
    have found := entry_of_given given
    have here := topicId_record fits found
    have same : (entry (numbering.names.idxOf name) name).topicId = topicId := by
      apply UInt16.toNat_inj.mp
      rw [here.1]
      exact number
    have single : Single (fun record : EntryRegistration => record.topicId = topicId && record.topicName.length < 255)
        (file numbering) := by
      intro i j first second left right same other
      simp only [Bool.and_eq_true, decide_eq_true_eq] at same other
      have before := (topicId_record fits left).1
      have after := (topicId_record fits right).1
      rw [same.1] at before
      rw [other.1] at after
      omega
    rw [single.find? found (by simpa [same] using here.2.1)]
    rfl
  | none =>
    rw [List.find?_eq_none.mpr]
    · rfl
    · intro record member holds
      simp only [Bool.and_eq_true, decide_eq_true_eq] at holds
      obtain ⟨n, found⟩ := List.mem_iff_getElem?.mp member
      obtain ⟨number, _, here⟩ := topicId_record fits found
      rw [← holds.1, number] at named
      exact absurd (here.symm.trans named) nofun

end File

/-- A call of `add_client_registration`: the name and what the caller's variable holds. -/
def step (p : Persistent) (call : CString × UInt16) : Option Persistent := some (p.addClientRegistration call.1 call.2).2

/-- The names and the ids that were returned for them. -/
def record (p : Persistent) (call : CString × UInt16) (_ : Persistent) (given : List (CString × UInt16)) :
    List (CString × UInt16) :=
  (call.1, (p.addClientRegistration call.1 call.2).1) :: given

structure Allowed (state : Persistent × List (CString × UInt16)) (call : CString × UInt16) : Prop where
  short : call.1.length < 255
  few : (call.1 :: state.2.map Prod.fst).toFinset.card < 65535

/-- The transaction of a client whose `.REG` file is empty. -/
structure Fresh (state : Persistent × List (CString × UInt16)) : Prop where
  ready : state.1.ready = true
  empty : state.1.files.reg = []
  none : state.2 = []

/-- The file is that of a numbering of the names, which gave the ids. -/
structure Numbers (numbering : NameNumbering CString) (p : Persistent) (given : List (CString × UInt16)) : Prop where
  ready : p.ready = true
  fits : Fits numbering
  reg : p.files.reg = file numbering
  names : (given.map Prod.fst).toFinset = numbering.names.toFinset
  ids : ∀ call ∈ given, call.1 ∈ numbering.names ∧ call.2 = UInt16.ofNat (numbering.numberOf call.1)

section Calls

variable {numbering : NameNumbering CString} {p : Persistent} {given : List (CString × UInt16)} {name : CString}
  {state : Persistent × List (CString × UInt16)} {call : CString × UInt16}

theorem Fits.give (fits : Fits numbering) (few : (numbering.give name).names.length < 65535) (short : name.length < 255) :
    Fits (numbering.give name) where
  few := few
  short := by
    intro other member
    rcases NameNumbering.mem_give.mp member with before | rfl
    · exact fits.short other before
    · exact short

theorem registerName_file {files : ClientFiles} (fits : Fits numbering) (reg : files.reg = file numbering) :
    registerName files name =
      (UInt16.ofNat ((numbering.give name).numberOf name), { files with reg := file (numbering.give name) }) := by
  by_cases known : name ∈ numbering.names
  · rw [registerName_given fits reg known, NameNumbering.names_give_old known, ← reg]
  · exact registerName_new fits reg known

theorem addClientRegistration_ready {newTopicId : UInt16} (ready : p.ready = true) (short : name.length < 255) :
    p.addClientRegistration name newTopicId =
      ((registerName p.files name).1, p.modifyFiles fun files => (registerName files name).2) := by
  obtain ⟨started, clean, known⟩ := Persistent.ready_iff.mp ready
  unfold addClientRegistration
  have fits : ¬ 255 < name.length := by omega
  simp [started, clean, known, fits]

theorem toFinset_give : (numbering.give name).names.toFinset = insert name numbering.names.toFinset := by
  ext other
  rw [List.mem_toFinset, NameNumbering.mem_give, Finset.mem_insert, List.mem_toFinset, or_comm]

theorem Numbers.few (holds : Numbers numbering state.1 state.2) (allowed : Allowed state call) :
    (numbering.give call.1).names.length < 65535 := by
  have counted := allowed.few
  rw [List.toFinset_cons, holds.names, ← toFinset_give, List.toFinset_card_of_nodup (numbering.give call.1).distinct] at counted
  exact counted

theorem Numbers.add (holds : Numbers numbering state.1 state.2) (allowed : Allowed state call) :
    Numbers (numbering.give call.1) (state.1.addClientRegistration call.1 call.2).2
      (record state.1 call (state.1.addClientRegistration call.1 call.2).2 state.2) := by
  have performed : state.1.addClientRegistration call.1 call.2 = _ :=
    addClientRegistration_ready holds.ready allowed.short
  have registered : registerName state.1.files call.1 = _ := registerName_file holds.fits holds.reg
  have fits := holds.fits.give (holds.few allowed) allowed.short
  unfold record
  rw [performed, registered]
  refine ⟨holds.ready, fits, ?_, ?_, ?_⟩
  · show (state.1.modifyFiles fun files => (registerName files call.1).2).files.reg = _
    rw [Persistent.files_modified]
    exact congrArg (fun result => result.2.reg) registered
  · rw [List.map_cons, List.toFinset_cons, holds.names, toFinset_give]
  · intro pair member
    rcases List.mem_cons.mp member with rfl | before
    · exact ⟨NameNumbering.mem_give.mpr (.inr rfl), rfl⟩
    · obtain ⟨known, id⟩ := holds.ids pair before
      refine ⟨NameNumbering.mem_give.mpr (.inl known), ?_⟩
      rw [NameNumbering.numberOf_give known]
      exact id

theorem numbers_of_run (run : Runs.Run (Runs.recorded step record) Allowed Fresh state) :
    ∃ numbering, Numbers numbering state.1 state.2 := by
  induction run with
  | start initial =>
    refine ⟨.empty, initial.ready, ⟨by decide, fun name member => by cases member⟩, initial.empty, ?_, ?_⟩
    · rw [initial.none]
      rfl
    · rw [initial.none]
      exact fun call member => by cases member
  | next before meets taken ih =>
    obtain ⟨numbering, holds⟩ := ih
    obtain ⟨executed, recorded⟩ := Runs.recorded_eq_some.mp taken
    have added := holds.add meets
    rw [← Option.some.inj executed] at recorded
    exact ⟨_, Option.some.inj executed ▸ recorded ▸ added⟩

theorem Numbers.toNat_id (holds : Numbers numbering p given) (member : call ∈ given) :
    call.2.toNat = numbering.numberOf call.1 := by
  obtain ⟨known, id⟩ := holds.ids call member
  have small := NameNumbering.numberOf_le known
  have few := holds.fits.few
  rw [id, toNat_ofNumber (by omega)]

theorem Numbers.getTopicName (holds : Numbers numbering p given) (topicId : UInt16) :
    p.getTopicName topicId = numbering.nameOf topicId.toNat := by
  obtain ⟨started, clean, _⟩ := Persistent.ready_iff.mp holds.ready
  unfold Persistent.getTopicName
  by_cases zero : topicId = 0
  · simp [zero, started, clean, NameNumbering.nameOf]
  · simp only [started, clean, zero, Bool.not_true, Bool.or_false, Bool.false_eq_true, if_false]
    rw [holds.reg]
    exact registeredName_file holds.fits topicId

end Calls

/-- Equal names have equal ids, distinct names distinct ones that are not zero, and an id says which name it was
    given for, through all calls of a run. -/
theorem table_refines_numbering {state : Persistent × List (CString × UInt16)}
    (run : Runs.Run (Runs.recorded step record) Allowed Fresh state) :
    (∀ call ∈ state.2, ∀ other ∈ state.2, call.1 = other.1 ↔ call.2 = other.2) ∧
      (∀ call ∈ state.2, call.2 ≠ 0 ∧ state.1.getTopicName call.2 = some call.1) ∧
      ∀ topicId : UInt16, (∀ call ∈ state.2, call.2 ≠ topicId) → state.1.getTopicName topicId = none := by
  obtain ⟨numbering, holds⟩ := numbers_of_run run
  refine ⟨fun call member other member' => ⟨fun same => ?_, fun same => ?_⟩, fun call member => ⟨?_, ?_⟩, ?_⟩
  · rw [(holds.ids call member).2, (holds.ids other member').2, same]
  · have numbers : numbering.numberOf call.1 = numbering.numberOf other.1 := by
      rw [← holds.toNat_id member, ← holds.toNat_id member', same]
    exact NameNumbering.numberOf_inj (holds.ids call member).1 numbers
  · intro zero
    have number := holds.toNat_id member
    rw [zero, UInt16.toNat_zero] at number
    exact absurd number.symm (Nat.succ_ne_zero _)
  · rw [holds.getTopicName, holds.toNat_id member]
    exact NameNumbering.nameOf_numberOf (holds.ids call member).1
  · intro topicId unused
    rw [holds.getTopicName]
    cases named : numbering.nameOf topicId.toNat with
    | none => rfl
    | some name =>
      exfalso
      obtain ⟨known, number⟩ := NameNumbering.nameOf_eq_some.mp named
      rw [← List.mem_toFinset, ← holds.names, List.mem_toFinset] at known
      obtain ⟨call, member, rfl⟩ := List.mem_map.mp known
      apply unused call member
      apply UInt16.toNat_inj.mp
      rw [holds.toNat_id member, number]

end RegistrationTable

namespace Scenario

def numbered : Persistent × List (CString × UInt16) :=
  (Runs.execute (Runs.recorded RegistrationTable.step RegistrationTable.record) (opened, [])
    [(name 116, 0), (name 117, 0), (name 116, 0)]).get rfl

theorem run_numbered :
    Runs.Run (Runs.recorded RegistrationTable.step RegistrationTable.record) RegistrationTable.Allowed
      RegistrationTable.Fresh numbered := by
  have first : RegistrationTable.Fresh (opened, []) := ⟨rfl, rfl, rfl⟩
  have allowed : ∀ {state : Persistent × List (CString × UInt16)} {call : CString × UInt16}, call.1.length < 255 →
      state.2.length < 65534 → RegistrationTable.Allowed state call := by
    intro state call short few
    refine ⟨short, ?_⟩
    have bound := List.toFinset_card_le (call.1 :: state.2.map Prod.fst)
    simp only [List.length_cons, List.length_map] at bound
    omega
  have one : RegistrationTable.Allowed (opened, []) (name 116, 0) := allowed (by decide) (by decide)
  exact .next (.next (.next (.start first) one rfl) (allowed (by decide) (by decide)) rfl)
    (allowed (by decide) (by decide)) rfl

/-- The name that was registered twice has the first id, the other one the second, and nothing else has an id. -/
theorem table_refines_numbering_numbered :
    numbered.2 = [(name 116, 1), (name 117, 2), (name 116, 1)] ∧ numbered.1.getTopicName 1 = some (name 116) ∧
      numbered.1.getTopicName 2 = some (name 117) ∧ numbered.1.getTopicName 3 = none := by
  obtain ⟨_, known, others⟩ := RegistrationTable.table_refines_numbering run_numbered
  have given : numbered.2 = [(name 116, 1), (name 117, 2), (name 116, 1)] := by decide
  rw [given] at known others
  refine ⟨given, (known (name 116, 1) (by decide)).2, (known (name 117, 2) (by decide)).2, others 3 ?_⟩
  decide

end Scenario

end MqttSnGateway
