import Mathlib.Data.List.GetD
import Mathlib.Data.List.Perm.Basic

namespace RecordFile

open scoped List

variable {α : Type*}

/-- Write one record into a file of fixed-size records. Positions are record numbers; a write past
    the end fills the gap with zero records. -/
def put (zero : α) (file : List α) (position : Nat) (record : α) : List α :=
  if position < file.length then file.set position record
  else file ++ List.replicate (position - file.length) zero ++ [record]

theorem length_put {zero record : α} {file : List α} {position : Nat} :
    (put zero file position record).length = max file.length (position + 1) := by
  unfold put
  split
  · rw [List.length_set]
    omega
  · simp only [List.length_append, List.length_replicate, List.length_singleton]
    omega

theorem getElem?_put_self {zero record : α} {file : List α} {position : Nat} :
    (put zero file position record)[position]? = some record := by
  unfold put
  split
  · rename_i inside
    rw [List.getElem?_set_self inside]
  · rename_i outside
    rw [List.getElem?_append_right (by simp; omega)]
    have last : position - (file ++ List.replicate (position - file.length) zero).length = 0 := by
      simp
      omega
    rw [last]
    rfl

theorem getElem?_put_ne {zero record : α} {file : List α} {position other : Nat}
    (adjacent : position ≤ file.length) (different : other ≠ position) :
    (put zero file position record)[other]? = file[other]? := by
  unfold put
  split
  · rw [List.getElem?_set_ne different.symm]
  · have atEnd : position = file.length := by omega
    subst atEnd
    simp only [Nat.sub_self, List.replicate_zero, List.append_nil]
    rcases Nat.lt_or_gt_of_ne different with inside | outside
    · rw [List.getElem?_append_left inside]
    · rw [List.getElem?_eq_none (by simp; omega), List.getElem?_eq_none (by omega)]

theorem getElem?_put {zero record : α} {file : List α} {position other : Nat}
    (adjacent : position ≤ file.length) :
    (put zero file position record)[other]? = if other = position then some record else file[other]? := by
  split
  · rename_i same
    rw [same, getElem?_put_self]
  · rename_i different
    exact getElem?_put_ne adjacent different

/-- A file read record by record, where a read past the end delivers zeros, changes at the written position only. -/
theorem getD_put {zero record : α} {file : List α} {position other : Nat} :
    (put zero file position record).getD other zero = if other = position then record else file.getD other zero := by
  unfold put
  by_cases inside : position < file.length
  · rw [if_pos inside]
    by_cases same : other = position
    · rw [if_pos same, same, List.getD_eq_getElem?_getD, List.getElem?_set_self inside]
      rfl
    · rw [if_neg same, List.getD_eq_getElem?_getD, List.getElem?_set_ne (Ne.symm same), ← List.getD_eq_getElem?_getD]
  · rw [if_neg inside, List.append_assoc]
    rcases Nat.lt_or_ge other file.length with before | behind
    · rw [if_neg (by omega), List.getD_append _ _ _ _ before]
    · rw [List.getD_append_right _ _ _ _ behind, List.getD_eq_default file _ behind]
      rcases Nat.lt_trichotomy other position with gap | same | beyond
      · rw [if_neg (by omega), List.getD_append _ _ _ _ (by simp; omega), List.getD_replicate]
        omega
      · rw [if_pos same, same, List.getD_append_right _ _ _ _ (by simp)]
        simp
      · rw [if_neg (by omega), List.getD_eq_default]
        simp
        omega

theorem put_put {zero record other : α} {file : List α} {position : Nat} :
    put zero (put zero file position record) position other = put zero file position other := by
  have inside : position < (put zero file position record).length := by
    rw [length_put]
    omega
  rw [put, if_pos inside]
  unfold put
  split
  · rw [List.set_set]
  · rename_i outside
    rw [List.set_append_right _ _ (by simp; omega)]
    have last : position - (file ++ List.replicate (position - file.length) zero).length = 0 := by
      simp
      omega
    rw [last]
    rfl

theorem mem_put {zero record other : α} {file : List α} {position : Nat}
    (adjacent : position ≤ file.length) (member : other ∈ put zero file position record) :
    other = record ∨ other ∈ file := by
  obtain ⟨i, found⟩ := List.mem_iff_getElem?.mp member
  rw [getElem?_put adjacent] at found
  split at found
  · exact .inl (Option.some.inj found).symm
  · exact .inr (List.mem_iff_getElem?.mpr ⟨i, found⟩)

def lastIdx? (p : α → Bool) : List α → Option Nat
  | [] => none
  | record :: file =>
    match lastIdx? p file with
    | some i => some (i + 1)
    | none => if p record then some 0 else none

theorem lastIdx?_some {p : α → Bool} {file : List α} {i : Nat} (last : lastIdx? p file = some i) :
    ∃ record, file[i]? = some record ∧ p record = true := by
  induction file generalizing i with
  | nil => cases last
  | cons record file ih =>
    unfold lastIdx? at last
    cases rest : lastIdx? p file with
    | some k =>
      rw [rest] at last
      cases last
      simpa using ih rest
    | none =>
      rw [rest] at last
      simp only [Option.ite_none_right_eq_some, Option.some.injEq] at last
      obtain ⟨holds, rfl⟩ := last
      exact ⟨record, rfl, holds⟩

theorem lastIdx?_none {p : α → Bool} {file : List α} :
    lastIdx? p file = none ↔ ∀ record ∈ file, p record = false := by
  induction file with
  | nil => simp [lastIdx?]
  | cons record file ih =>
    unfold lastIdx?
    cases rest : lastIdx? p file with
    | some k =>
      have later : ¬ ∀ record ∈ file, p record = false := by
        rw [← ih, rest]
        simp
      simp only [reduceCtorEq, List.mem_cons, forall_eq_or_imp, false_iff, not_and]
      exact fun _ => later
    | none =>
      have clear := ih.mp rest
      simp only [List.mem_cons, forall_eq_or_imp]
      cases holds : p record with
      | true => simp
      | false => simpa using clear

theorem lastIdx?_map {β : Type*} {f : β → α} {p : α → Bool} {file : List β} :
    lastIdx? p (file.map f) = lastIdx? (fun record => p (f record)) file := by
  induction file with
  | nil => rfl
  | cons record file ih =>
    rw [List.map_cons, lastIdx?, lastIdx?, ih]

theorem find?_reverse {p : α → Bool} {file : List α} :
    file.reverse.find? p = (lastIdx? p file).bind fun i => file[i]? := by
  induction file with
  | nil => rfl
  | cons record file ih =>
    rw [List.reverse_cons, List.find?_append, ih, lastIdx?]
    cases last : lastIdx? p file with
    | some i =>
      obtain ⟨found, here, _⟩ := lastIdx?_some last
      simp [here]
    | none => cases holds : p record <;> simp [holds]

/-- Number of records a table can hold before the 16-bit record counter of a scan wraps. -/
def capacity : Nat := 65535

/-- Where a scan with a 16-bit record counter puts a new record: the last empty record it met, else
    behind the last one. The scan also counts the read that meets the end of the file. -/
def freeSpace (empty : α → Bool) (file : List α) : Int :=
  match lastIdx? empty file with
  | some i => (i % 65536 : Nat)
  | none => ((file.length + 1) % 65536 : Nat) - 1

/-- Write at a record number that `freeSpace` computed. The number is -1 when the table is full; a 32-bit byte offset
    then puts the record at the end of the first 4 GB, behind a gap of zeros. The list keeps the records before the
    gap, and `behind` counts such a write: what later scans make of the file is not followed. -/
def putAt (zero : α) (file : List α) (position : Int) (record : α) : List α :=
  if position < 0 then file else put zero file position.toNat record

def behind (position : Int) : Nat := if position < 0 then 1 else 0

/-- A table has room if one of its records is empty or it is shorter than its capacity. -/
def Room (empty : α → Bool) (file : List α) : Prop :=
  file.length < capacity ∨ ∃ record ∈ file, empty record = true

instance (empty : α → Bool) (file : List α) : Decidable (Room empty file) :=
  inferInstanceAs (Decidable (_ ∨ _))

theorem freeSpace_room {empty : α → Bool} {file : List α} (short : file.length ≤ capacity)
    (room : Room empty file) :
    ∃ position : Nat, freeSpace empty file = position ∧ position ≤ file.length ∧ position < capacity ∧
      ∀ record, file[position]? = some record → empty record = true := by
  unfold freeSpace
  unfold capacity at *
  cases last : lastIdx? empty file with
  | some i =>
    obtain ⟨record, found, holds⟩ := lastIdx?_some last
    have inside := (List.getElem?_eq_some_iff.mp found).1
    have small : i % 65536 = i := Nat.mod_eq_of_lt (by omega)
    refine ⟨i, by simp only [small], by omega, by omega, ?_⟩
    intro other same
    rw [found] at same
    cases same
    exact holds
  | none =>
    have full := lastIdx?_none.mp last
    have shorter : file.length < 65535 := by
      rcases room with shorter | ⟨record, member, holds⟩
      · exact shorter
      · rw [full record member] at holds
        cases holds
    have small : (file.length + 1) % 65536 = file.length + 1 := Nat.mod_eq_of_lt (by omega)
    refine ⟨file.length, by simp only [small]; omega, Nat.le_refl _, by omega, ?_⟩
    intro record found
    rw [List.getElem?_eq_none (Nat.le_refl _)] at found
    cases found

theorem freeSpace_full {empty : α → Bool} {file : List α} (short : file.length ≤ capacity)
    (full : ¬ Room empty file) : freeSpace empty file = -1 := by
  unfold freeSpace
  unfold Room capacity at *
  simp only [not_or, not_exists, not_and, Bool.not_eq_true] at full
  have length : file.length = 65535 := by omega
  rw [lastIdx?_none.mpr full.2]
  simp [length]

theorem putAt_ofNat {zero record : α} {file : List α} {position : Nat} :
    putAt zero file (position : Int) record = put zero file position record := by
  unfold putAt
  rw [if_neg (by omega)]
  rfl

theorem putAt_negative {zero record : α} {file : List α} {position : Int} (negative : position < 0) :
    putAt zero file position record = file := if_pos negative

@[simp] theorem behind_ofNat {position : Nat} : behind (position : Int) = 0 := by
  apply if_neg
  omega

@[simp] theorem behind_negative : behind (-1) = 1 := rfl

/-- The write goes behind the table just when the table has no room. -/
theorem behind_freeSpace {empty : α → Bool} {file : List α} (short : file.length ≤ capacity) :
    behind (freeSpace empty file) = if Room empty file then 0 else 1 := by
  by_cases room : Room empty file
  · obtain ⟨position, free, -, -, -⟩ := freeSpace_room short room
    rw [free, behind_ofNat, if_pos room]
  · rw [freeSpace_full short room, behind_negative, if_neg room]

/-- A table has room as long as fewer records are in use than it can hold. -/
theorem room_iff {empty : α → Bool} {file : List α} (short : file.length ≤ capacity) :
    Room empty file ↔ (file.filter fun record => !empty record).length < capacity := by
  constructor
  · rintro (shorter | ⟨record, member, free⟩)
    · have := List.length_filter_le (fun record => !empty record) file
      omega
    · have fewer : (file.filter fun record => !empty record).length < file.length :=
        List.length_filter_lt_length_iff_exists.mpr ⟨record, member, by simp [free]⟩
      omega
  · intro used
    by_contra full
    unfold Room at full
    simp only [not_or, Nat.not_lt, not_exists, not_and, Bool.not_eq_true] at full
    rw [List.filter_eq_self.mpr (fun record member => by simp [full.2 record member])] at used
    omega

theorem length_putAt_freeSpace {zero record : α} {empty : α → Bool} {file : List α}
    (short : file.length ≤ capacity) :
    (putAt zero file (freeSpace empty file) record).length ≤ capacity := by
  by_cases room : Room empty file
  · obtain ⟨position, free, -, small, -⟩ := freeSpace_room short room
    rw [free, putAt_ofNat, length_put]
    omega
  · rw [freeSpace_full short room, putAt_negative (by decide)]
    exact short

theorem filter_set_perm_of_neg {p : α → Bool} {file : List α} {i : Nat} {old record : α}
    (found : file[i]? = some old) (skipped : p old = false) (kept : p record = true) :
    ((file.set i record).filter p).Perm (record :: file.filter p) := by
  induction file generalizing i with
  | nil => cases found
  | cons head file ih =>
    cases i with
    | zero =>
      simp only [List.getElem?_cons_zero, Option.some.injEq] at found
      subst found
      simp [skipped, kept]
    | succ i =>
      simp only [List.getElem?_cons_succ] at found
      simp only [List.set_cons_succ, List.filter_cons]
      split
      · exact ((ih found).cons head).trans (List.Perm.swap record head _)
      · exact ih found

/-- Storing a record over an empty one or behind the last adds it to the records that are not empty. -/
theorem filter_put_perm {zero record : α} {p : α → Bool} {file : List α} {position : Nat}
    (adjacent : position ≤ file.length)
    (free : ∀ old, file[position]? = some old → p old = false) (kept : p record = true) :
    ((put zero file position record).filter p).Perm (record :: file.filter p) := by
  unfold put
  split
  · rename_i inside
    have found := List.getElem?_eq_getElem inside
    exact filter_set_perm_of_neg found (free _ found) kept
  · have atEnd : position - file.length = 0 := by omega
    rw [atEnd]
    simp only [List.replicate_zero, List.append_nil, List.filter_append]
    simp only [List.filter_cons, kept, if_true, List.filter_nil]
    exact List.perm_append_singleton _ _

theorem filter_eraseIdx_perm {p : α → Bool} {file : List α} {i : Nat} {record : α} (found : file[i]? = some record)
    (kept : p record = true) : (file.filter p).Perm (record :: (file.eraseIdx i).filter p) := by
  obtain ⟨inside, here⟩ := List.getElem?_eq_some_iff.mp found
  have split : file = file.take i ++ record :: file.drop (i + 1) := by
    rw [← here, List.getElem_cons_drop, List.take_append_drop]
  rw [List.eraseIdx_eq_take_drop_succ, List.filter_append]
  conv_lhs => rw [split, List.filter_append, List.filter_cons, if_pos kept]
  exact List.perm_middle

/-- To store a record that does not count is to take out the one it replaces. -/
theorem filter_set_of_neg {p : α → Bool} {file : List α} {i : Nat} {record : α} (skipped : p record = false) :
    (file.set i record).filter p = (file.eraseIdx i).filter p := by
  induction file generalizing i with
  | nil => rfl
  | cons head file ih =>
    cases i with
    | zero => simp [skipped]
    | succ i => simp [List.filter_cons, ih]

theorem filterMap_modify_perm {β : Type*} {v : α → Option β} {f : α → α} {file : List α} {i : Nat} {record : α}
    (found : file[i]? = some record) :
    ((file.modify i f).filterMap v ++ (v record).toList).Perm (file.filterMap v ++ (v (f record)).toList) := by
  have cons : ∀ (head : α) (file : List α), (head :: file).filterMap v = (v head).toList ++ file.filterMap v := by
    intro head file
    rw [List.filterMap_cons]
    cases v head <;> rfl
  induction file generalizing i with
  | nil => cases found
  | cons head file ih =>
    cases i with
    | zero =>
      simp only [List.getElem?_cons_zero, Option.some.injEq] at found
      subst found
      rw [List.modify_zero_cons, cons, cons]
      rw [List.append_assoc, List.append_assoc]
      calc (v (f head)).toList ++ (file.filterMap v ++ (v head).toList)
        _ ~ (file.filterMap v ++ (v head).toList) ++ (v (f head)).toList := List.perm_append_comm
        _ ~ ((v head).toList ++ file.filterMap v) ++ (v (f head)).toList := List.perm_append_comm.append_right _
        _ = (v head).toList ++ (file.filterMap v ++ (v (f head)).toList) := List.append_assoc _ _ _
    | succ i =>
      rw [List.modify_succ_cons, cons, cons, List.append_assoc, List.append_assoc]
      exact (ih found).append_left _

theorem filterMap_modify_eq {β : Type*} {v : α → Option β} {f : α → α} {file : List α} {i : Nat}
    (same : ∀ record, file[i]? = some record → v (f record) = v record) : (file.modify i f).filterMap v = file.filterMap v := by
  induction file generalizing i with
  | nil => rw [List.modify_nil]
  | cons head file ih =>
    cases i with
    | zero => rw [List.modify_zero_cons, List.filterMap_cons, List.filterMap_cons, same head rfl]
    | succ i => rw [List.modify_succ_cons, List.filterMap_cons, List.filterMap_cons, ih same]

end RecordFile
