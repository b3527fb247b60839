import MqttSnGateway.Requests

namespace MqttSnGateway

/-- A part of the receive buffer that a handler is given: where it begins and how many bytes it has. -/
structure Field where
  offset : Nat
  size : Nat

namespace Field

def string (memory : List UInt8) (offset : Nat) : Field := ⟨offset, (stringAt memory offset).length + 1⟩

def Within (field : Field) (n : Nat) : Prop := field.offset + field.size ≤ n

instance (field : Field) (n : Nat) : Decidable (field.Within n) := inferInstanceAs (Decidable (_ ≤ _))

end Field

theorem string_within {memory : List UInt8} {offset n : Nat} (inside : n ≤ memory.length) (before : offset ≤ n) :
    (Field.string memory offset).Within n ↔ ∃ i, offset ≤ i ∧ i < n ∧ byteAt memory i = 0 := by
  have ends := CString.length_ofMemory_lt (show n - offset ≤ (memory.drop offset).length by
    rw [List.length_drop]
    omega)
  have size : (Field.string memory offset).Within n ↔ (stringAt memory offset).length < n - offset := by
    change offset + ((stringAt memory offset).length + 1) ≤ n ↔ _
    omega
  rw [size]
  unfold stringAt
  rw [ends]
  constructor
  · rintro ⟨i, small, zero⟩
    refine ⟨offset + i, by omega, by omega, ?_⟩
    rwa [List.getD_eq_getElem?_getD, List.getElem?_drop, ← List.getD_eq_getElem?_getD] at zero
  · rintro ⟨i, beyond, small, zero⟩
    refine ⟨i - offset, by omega, ?_⟩
    rw [List.getD_eq_getElem?_getD, List.getElem?_drop, ← List.getD_eq_getElem?_getD]
    rwa [Nat.add_sub_cancel' beyond]

namespace Request

variable {memory : List UInt8} {request : Request}

/-- What the handler of a request is given of the memory that was parsed; PUBREL and what is ignored have none. -/
def fields (memory : List UInt8) : Request → Option (List Field)
  | .connect .. => some [⟨2, 1⟩, ⟨4, 2⟩, .string memory 6]
  | .willtopic .. => some [⟨2, 1⟩, .string memory 3]
  | .willmsg _ => some [⟨2, (byteAt memory 0).toNat - 2⟩]
  | .register .. => some [⟨4, 2⟩, .string memory 6]
  | .regack .. | .puback .. => some [⟨2, 2⟩, ⟨4, 2⟩, ⟨6, 1⟩]
  | .publish .. => some [⟨2, 1⟩, ⟨4, 2⟩, ⟨6, 2⟩, ⟨8, (byteAt memory 0).toNat - 7⟩]
  | .subscribe .. | .unsubscribe .. => some [⟨2, 1⟩, ⟨4, 2⟩, ⟨6, 2⟩]
  | .subscribeByName .. | .unsubscribeByName .. => some [⟨2, 1⟩, ⟨4, 2⟩, .string memory 6]
  | .pingreq | .disconnect => some []
  | .pingreqWithId _ => some [.string memory 2]
  | .disconnectWithDuration _ => some [⟨2, 2⟩]
  | .pubrel | .ignored => none

/-- What a request needs for its fields to end with the message: PUBLISH and the short forms of SUBSCRIBE and
    UNSUBSCRIBE always read one byte more, and a topic name has to end. -/
def Confined (memory : List UInt8) : Request → Prop
  | .publish .. | .subscribe .. | .unsubscribe .. => False
  | .subscribeByName .. | .unsubscribeByName .. => ∃ i, 6 ≤ i ∧ i < (byteAt memory 0).toNat ∧ byteAt memory i = 0
  | _ => True

/-- The fields of a request lie in the message exactly when it is confined. -/
def Fits (memory : List UInt8) (request : Request) : Prop :=
  ∀ fields, request.fields memory = some fields →
    ((∀ field ∈ fields, field.Within (byteAt memory 0).toNat) ↔ request.Confined memory)

theorem fits_ignored : Fits memory .ignored := by
  intro fields given
  cases given

theorem fits_ofMemory (long : 255 ≤ memory.length) : Fits memory (ofMemory memory) := by
  have inside : (byteAt memory 0).toNat ≤ memory.length := by
    have := (byteAt memory 0).toNat_lt
    omega
  have never : ∀ {request : Request} {fields : List Field} (field : Field), request.fields memory = some fields →
      ¬ request.Confined memory → field ∈ fields → ¬ field.Within (byteAt memory 0).toNat → Fits memory request := by
    intro request fields field given loose member outside other same
    rw [given] at same
    cases same
    exact iff_of_false (fun within => outside (within field member)) loose
  have named : ∀ {request : Request}, 6 < byteAt memory 0 →
      request.fields memory = some [⟨2, 1⟩, ⟨4, 2⟩, .string memory 6] →
      (request.Confined memory ↔ ∃ i, 6 ≤ i ∧ i < (byteAt memory 0).toNat ∧ byteAt memory i = 0) → Fits memory request := by
    intro request header given confined fields same
    rw [given] at same
    cases same
    rw [UInt8.lt_iff_toNat_lt] at header
    change 6 < (byteAt memory 0).toNat at header
    rw [confined, ← string_within inside (by omega)]
    simp only [List.mem_cons, List.not_mem_nil, or_false, forall_eq_or_imp, forall_eq, Field.Within]
    omega
  have always : ∀ {request : Request} {fields : List Field}, request.fields memory = some fields → request.Confined memory →
      (∀ field ∈ fields, field.offset + field.size ≤ (byteAt memory 0).toNat) → Fits memory request := by
    intro request fields given confined within other same
    rw [given] at same
    cases same
    exact iff_of_true within confined
  unfold ofMemory
  split
  · exact fits_ignored
  · rename_i two
    rw [UInt8.lt_iff_toNat_lt] at two
    change ¬ (byteAt memory 0).toNat < 2 at two
    split
    · -- PINGREQ
      unfold ofPingreq
      simp only
      split
      · exact always rfl trivial (by simp)
      · split
        · rename_i accepted
          simp only [Bool.and_eq_true, decide_eq_true_eq] at accepted
          refine always rfl trivial ?_
          simp only [List.mem_singleton, forall_eq, Field.string]
          omega
        · exact fits_ignored
    · -- CONNECT
      unfold ofConnect
      simp only
      split
      · rename_i accepted
        simp only [Bool.and_eq_true, decide_eq_true_eq] at accepted
        refine always rfl trivial ?_
        simp only [List.mem_cons, List.not_mem_nil, or_false, forall_eq_or_imp, forall_eq, Field.string]
        omega
      · exact fits_ignored
    · -- WILLTOPIC
      unfold ofWilltopic
      simp only
      split
      · rename_i accepted
        simp only [Bool.and_eq_true, decide_eq_true_eq] at accepted
        refine always rfl trivial ?_
        simp only [List.mem_cons, List.not_mem_nil, or_false, forall_eq_or_imp, forall_eq, Field.string]
        omega
      · exact fits_ignored
    · -- WILLMSG
      split
      · refine always rfl trivial ?_
        simp only [List.mem_singleton, forall_eq]
        omega
      · exact fits_ignored
    · -- REGISTER
      unfold ofRegister
      simp only
      split
      · rename_i accepted
        simp only [Bool.and_eq_true, decide_eq_true_eq] at accepted
        refine always rfl trivial ?_
        simp only [List.mem_cons, List.not_mem_nil, or_false, forall_eq_or_imp, forall_eq, Field.string]
        omega
      · exact fits_ignored
    · -- REGACK
      split
      · rename_i seven
        refine always rfl trivial ?_
        rw [seven]
        decide
      · exact fits_ignored
    · -- PUBLISH
      unfold ofPublish
      simp only
      split
      · rename_i header
        rw [UInt8.lt_iff_toNat_lt] at header
        change 7 < (byteAt memory 0).toNat at header
        split
        · exact fits_ignored
        · refine never ⟨8, (byteAt memory 0).toNat - 7⟩ rfl id (by simp) ?_
          change ¬ 8 + ((byteAt memory 0).toNat - 7) ≤ (byteAt memory 0).toNat
          omega
      · exact fits_ignored
    · -- PUBACK
      split
      · rename_i seven
        refine always rfl trivial ?_
        rw [seven]
        decide
      · exact fits_ignored
    · -- PUBREL
      intro fields given
      cases given
    · -- SUBSCRIBE
      unfold ofSubscribe
      simp only
      split
      · split
        · exact fits_ignored
        · split
          · rename_i short
            simp only [Bool.and_eq_true, decide_eq_true_eq] at short
            refine never ⟨6, 2⟩ rfl id (by simp) ?_
            rw [short.2]
            decide
          · split
            · rename_i header
              exact named header rfl Iff.rfl
            · exact fits_ignored
      · exact fits_ignored
    · -- UNSUBSCRIBE
      unfold ofUnsubscribe
      simp only
      split
      · split
        · rename_i short
          simp only [Bool.and_eq_true, decide_eq_true_eq] at short
          refine never ⟨6, 2⟩ rfl id (by simp) ?_
          rw [short.2]
          decide
        · split
          · rename_i header
            exact named header rfl Iff.rfl
          · exact fits_ignored
      · exact fits_ignored
    · -- DISCONNECT
      unfold ofDisconnect
      split
      · exact always rfl trivial (by simp)
      · split
        · rename_i four
          refine always rfl trivial ?_
          rw [four]
          decide
        · exact fits_ignored
    · exact fits_ignored

end Request

namespace Gateway

variable {bytes beyond : List UInt8}

/-- What `receiveData` passes on to a handler, if it reaches one. -/
def passedOn (memory : List UInt8) : Option (List Field) :=
  if 2 ≤ byteAt memory 0 && MessageType.ofCode? (byteAt memory 1) = some .searchgw then
    if byteAt memory 0 = 3 then some [⟨2, 1⟩] else none
  else (Request.ofMemory memory).fields memory

/-- A handler is reached only if the length byte is the count of received bytes, and its fields lie among them. -/
def SeesReceivedOnly (memory : List UInt8) (n : Nat) : Prop :=
  ∀ fields, passedOn memory = some fields → (byteAt memory 0).toNat = n ∧ ∀ field ∈ fields, field.Within n

/-- A handler sees received bytes only exactly when the length byte is right and the request is confined. -/
theorem receive_sees (fits : bytes.length ≤ 255) :
    SeesReceivedOnly (receiveBuffer bytes beyond) bytes.length ↔
      passedOn (receiveBuffer bytes beyond) = none ∨
        (byteAt (receiveBuffer bytes beyond) 0).toNat = bytes.length ∧
          (Request.ofMemory (receiveBuffer bytes beyond)).Confined (receiveBuffer bytes beyond) := by
  have long : 255 ≤ (receiveBuffer bytes beyond).length := by
    unfold receiveBuffer
    rw [List.length_append, List.length_append, List.length_replicate]
    omega
  generalize receiveBuffer bytes beyond = memory at long ⊢
  have searching : ∀ fields : List Field, 2 ≤ byteAt memory 0 ∧ MessageType.ofCode? (byteAt memory 1) = some .searchgw →
      byteAt memory 0 = 3 → fields = [⟨2, 1⟩] →
      ((∀ field ∈ fields, field.Within (byteAt memory 0).toNat) ↔ (Request.ofMemory memory).Confined memory) := by
    rintro fields ⟨two, type⟩ three rfl
    have unread : Request.ofMemory memory = .ignored := by
      unfold Request.ofMemory
      rw [three, type]
      rfl
    rw [unread, three]
    exact iff_of_true (by decide) trivial
  have fitting : ∀ fields, passedOn memory = some fields →
      ((∀ field ∈ fields, field.Within (byteAt memory 0).toNat) ↔ (Request.ofMemory memory).Confined memory) := by
    intro fields given
    unfold passedOn at given
    split at given
    · rename_i search
      simp only [Bool.and_eq_true, decide_eq_true_eq] at search
      split at given
      · rename_i three
        cases given
        exact searching _ search three rfl
      · cases given
    · exact Request.fits_ofMemory long fields given
  unfold SeesReceivedOnly
  cases given : passedOn memory with
  | none => simp
  | some fields =>
    have fit := fitting fields given
    constructor
    · intro sees
      obtain ⟨same, within⟩ := sees fields rfl
      rw [← same] at within
      exact .inr ⟨same, fit.mp within⟩
    · rintro (none | ⟨same, confined⟩) other given
      · cases none
      · cases given
        rw [← same]
        exact ⟨rfl, fit.mpr confined⟩

/-- A PUBLISH of eight bytes is said to carry the ninth. -/
theorem receive_sees_publish :
    SeesReceivedOnly (receiveBuffer [8, 0x0c, 0, 0, 1, 0, 0, 0] []) [8, 0x0c, 0, 0, 1, 0, 0, 0].length ↔
      passedOn (receiveBuffer [8, 0x0c, 0, 0, 1, 0, 0, 0] []) = none ∨
        (byteAt (receiveBuffer [8, 0x0c, 0, 0, 1, 0, 0, 0] []) 0).toNat = [8, 0x0c, 0, 0, 1, 0, 0, 0].length ∧
          (Request.ofMemory (receiveBuffer [8, 0x0c, 0, 0, 1, 0, 0, 0] [])).Confined
            (receiveBuffer [8, 0x0c, 0, 0, 1, 0, 0, 0] []) := receive_sees (by decide)

theorem publish_reads_behind :
    ¬ ∀ bytes beyond : List UInt8, 1 ≤ bytes.length → bytes.length ≤ 255 →
      SeesReceivedOnly (receiveBuffer bytes beyond) bytes.length := by
  intro claim
  have sees := claim [8, 0x0c, 0, 0, 1, 0, 0, 0] [] (by decide) (by decide)
  have given : passedOn (receiveBuffer [8, 0x0c, 0, 0, 1, 0, 0, 0] []) = some [⟨2, 1⟩, ⟨4, 2⟩, ⟨6, 2⟩, ⟨8, 1⟩] := rfl
  exact absurd ((sees _ given).2 ⟨8, 1⟩ (by simp)) (by decide)

end Gateway

end MqttSnGateway
