import Mathlib.Data.List.Basic

namespace StructLayout

/-- A member of a struct: its alignment and the bytes of its value. -/
structure Member where
  align : Nat
  bytes : List UInt8

def gap (offset align : Nat) : Nat := (align - offset % align) % align

/-- The members from an offset on, each at the next address that its alignment allows. -/
def place (padding : UInt8) : Nat → List Member → List UInt8
  | _, [] => []
  | offset, member :: rest =>
    let filler := gap offset member.align
    List.replicate filler padding ++ member.bytes ++ place padding (offset + filler + member.bytes.length) rest

def extent : Nat → List (Nat × Nat) → Nat
  | _, [] => 0
  | offset, (align, size) :: rest =>
    let filler := gap offset align
    filler + size + extent (offset + filler + size) rest

def alignment (shape : List (Nat × Nat)) : Nat := shape.foldl (fun largest member => max largest member.1) 1

/-- `sizeof` of a struct whose members have these alignments and sizes. -/
def sizeOf (shape : List (Nat × Nat)) : Nat := extent 0 shape + gap (extent 0 shape) (alignment shape)

def shape (members : List Member) : List (Nat × Nat) := members.map fun member => (member.align, member.bytes.length)

/-- The bytes of a struct with the padding behind its last member. -/
def object (padding : UInt8) (members : List Member) : List UInt8 :=
  let placed := place padding 0 members
  placed ++ List.replicate (gap placed.length (alignment (shape members))) padding

theorem length_place {padding : UInt8} {offset : Nat} {members : List Member} :
    (place padding offset members).length = extent offset (shape members) := by
  induction members generalizing offset with
  | nil => rfl
  | cons member rest ih =>
    unfold place
    rw [List.length_append, List.length_append, List.length_replicate, ih]
    rfl

theorem length_object {padding : UInt8} {members : List Member} :
    (object padding members).length = sizeOf (shape members) := by
  unfold object sizeOf
  rw [List.length_append, List.length_replicate, length_place]

theorem getD_object {padding b fallback : UInt8} {align : Nat} {bytes : List UInt8} {rest : List Member} :
    (object padding (⟨align, b :: bytes⟩ :: rest)).getD 0 fallback = b := by
  have filler : gap 0 align = 0 := by
    unfold gap
    rw [Nat.zero_mod, Nat.sub_zero, Nat.mod_self]
  unfold object place
  rw [filler]
  rfl

theorem take_object {padding : UInt8} {members : List Member} {n : Nat} (inside : n ≤ extent 0 (shape members)) :
    (object padding members).take n = (place padding 0 members).take n := by
  unfold object
  apply List.take_append_of_le_length
  rw [length_place]
  exact inside

end StructLayout
