import MqttSnGateway.Lib.RecordFile

namespace RecordFile

variable {α : Type*} {q : α → Bool} {zero record old : α} {file : List α} {position : Nat}

/-- At most one record of the file has a property. -/
def Single (q : α → Bool) (file : List α) : Prop :=
  ∀ (i j : Nat) (a b : α), file[i]? = some a → file[j]? = some b → q a = true → q b = true → i = j

theorem findIdx?_getElem? (scan : file.findIdx? q = some position) :
    ∃ record, file[position]? = some record ∧ q record = true := by
  obtain ⟨inside, holds, _⟩ := List.findIdx?_eq_some_iff_getElem.mp scan
  exact ⟨_, List.getElem?_eq_getElem inside, holds⟩

theorem findIdx?_none_getElem? (scan : file.findIdx? q = none) (found : file[position]? = some record) :
    q record = false :=
  List.findIdx?_eq_none_iff.mp scan record (List.mem_of_getElem? found)

theorem find?_eq_none_of_findIdx? (scan : file.findIdx? q = none) : file.find? q = none := by
  rw [List.find?_eq_none]
  intro record member
  simp [List.findIdx?_eq_none_iff.mp scan record member]

theorem Single.find? (single : Single q file) (found : file[position]? = some record) (holds : q record = true) :
    file.find? q = some record := by
  cases scan : file.find? q with
  | none =>
    have fails := List.find?_eq_none.mp scan record (List.mem_of_getElem? found)
    exact absurd holds fails
  | some other =>
    obtain ⟨j, other_found⟩ := List.mem_iff_getElem?.mp (List.mem_of_find?_eq_some scan)
    have same := single position j record other found other_found holds (List.find?_some scan)
    rw [← same, found] at other_found
    exact other_found.symm

theorem put_eq_set (found : file[position]? = some old) : put zero file position record = file.set position record :=
  if_pos (List.getElem?_eq_some_iff.mp found).1

theorem modify_eq_put (zero : α) {f : α → α} (found : file[position]? = some old) :
    file.modify position f = put zero file position (f old) := by
  rw [put_eq_set found]
  apply List.ext_getElem?
  intro i
  rw [List.getElem?_modify, List.getElem?_set]
  have inside := (List.getElem?_eq_some_iff.mp found).1
  by_cases same : position = i
  · subst same
    rw [found]
    simp [inside]
  · simp [same]

theorem find?_set_other (found : file[position]? = some old) (before : q old = false) (after : q record = false) :
    (file.set position record).find? q = file.find? q := by
  induction file generalizing position with
  | nil => rfl
  | cons head file ih =>
    cases position with
    | zero =>
      cases found
      simp [before, after]
    | succ position =>
      simp only [List.getElem?_cons_succ] at found
      simp only [List.set_cons_succ, List.find?_cons, ih found]

/-- A scan does not notice a write that puts a record without the property over one without it. -/
theorem find?_put_other (adjacent : position ≤ file.length)
    (before : ∀ old, file[position]? = some old → q old = false) (after : q record = false) :
    (put zero file position record).find? q = file.find? q := by
  cases found : file[position]? with
  | some old =>
    rw [put_eq_set found]
    exact find?_set_other found (before old found) after
  | none =>
    have behind : position = file.length := by
      have outside := List.getElem?_eq_none_iff.mp found
      omega
    unfold put
    rw [if_neg (by omega), behind]
    simp [after]

theorem Single.put (adjacent : position ≤ file.length)
    (only : ∀ i other, file[i]? = some other → q other = true → q record = true → i = position)
    (single : Single q file) : Single q (put zero file position record) := by
  intro i j a b first second holds_first holds_second
  rw [getElem?_put adjacent] at first second
  split at first <;> split at second
  · omega
  · rename_i here there
    cases first
    exact absurd (only j b second holds_second holds_first) there
  · rename_i here there
    cases second
    exact absurd (only i a first holds_first holds_second) here
  · exact single i j a b first second holds_first holds_second

/-- A record written with the property is the one a scan finds, when no other record has the property. -/
theorem find?_put_self (adjacent : position ≤ file.length) (holds : q record = true)
    (only : ∀ i other, file[i]? = some other → q other = true → i = position) :
    (RecordFile.put zero file position record).find? q = some record := by
  have single : Single q (RecordFile.put zero file position record) := by
    intro i j a b first second holds_first holds_second
    rw [getElem?_put adjacent] at first second
    have here : i = position := by
      split at first
      · assumption
      · exact only i a first holds_first
    have there : j = position := by
      split at second
      · assumption
      · exact only j b second holds_second
    rw [here, there]
  exact single.find? getElem?_put_self holds

end RecordFile
