import Mathlib.Data.List.Nodup

/-- Names in the order in which they were first given a number. -/
structure NameNumbering (α : Type*) where
  names : List α
  distinct : names.Nodup

namespace NameNumbering

variable {α : Type*} [DecidableEq α] {numbering : NameNumbering α} {name other : α} {k : Nat}

def empty : NameNumbering α := ⟨[], List.nodup_nil⟩

/-- A name keeps its number; a new one is numbered next. -/
def give (numbering : NameNumbering α) (name : α) : NameNumbering α :=
  if given : name ∈ numbering.names then numbering
  else ⟨numbering.names ++ [name], by
    rw [List.nodup_append_comm, List.singleton_append, List.nodup_cons]
    exact ⟨given, numbering.distinct⟩⟩

/-- Numbers begin with one. -/
def numberOf (numbering : NameNumbering α) (name : α) : Nat := numbering.names.idxOf name + 1

def nameOf (numbering : NameNumbering α) : Nat → Option α
  | 0 => none
  | k + 1 => numbering.names[k]?

theorem names_give_old (given : name ∈ numbering.names) : numbering.give name = numbering := dif_pos given

theorem names_give_new (new : name ∉ numbering.names) : (numbering.give name).names = numbering.names ++ [name] := by
  unfold give
  rw [dif_neg new]

theorem mem_give : other ∈ (numbering.give name).names ↔ other ∈ numbering.names ∨ other = name := by
  by_cases given : name ∈ numbering.names
  · rw [names_give_old given]
    constructor
    · exact .inl
    · rintro (before | rfl)
      · exact before
      · exact given
  · rw [names_give_new given, List.mem_append, List.mem_singleton]

theorem numberOf_give (given : other ∈ numbering.names) : (numbering.give name).numberOf other = numbering.numberOf other := by
  unfold numberOf
  by_cases known : name ∈ numbering.names
  · rw [names_give_old known]
  · rw [names_give_new known, List.idxOf_append_of_mem given]

theorem numberOf_new (new : name ∉ numbering.names) : (numbering.give name).numberOf name = numbering.names.length + 1 := by
  unfold numberOf
  rw [names_give_new new, List.idxOf_append_of_notMem new, List.idxOf_cons_self]

theorem numberOf_le (given : name ∈ numbering.names) : numbering.numberOf name ≤ numbering.names.length :=
  List.idxOf_lt_length_of_mem given

theorem numberOf_inj (given : name ∈ numbering.names) (same : numbering.numberOf name = numbering.numberOf other) :
    name = other :=
  (List.idxOf_inj given).mp (Nat.succ.inj same)

theorem nameOf_numberOf (given : name ∈ numbering.names) : numbering.nameOf (numbering.numberOf name) = some name :=
  List.getElem?_idxOf given

theorem nameOf_eq_some : numbering.nameOf k = some name ↔ name ∈ numbering.names ∧ numbering.numberOf name = k := by
  constructor
  · intro named
    cases k with
    | zero => cases named
    | succ k =>
      obtain ⟨inside, here⟩ := List.getElem?_eq_some_iff.mp named
      subst here
      exact ⟨List.getElem_mem inside, congrArg Nat.succ (numbering.distinct.idxOf_getElem k inside)⟩
  · rintro ⟨given, rfl⟩
    exact nameOf_numberOf given

end NameNumbering
