import MqttSnGateway.Lib.RecordFile
import Mathlib.Data.List.TakeDrop

namespace BinaryFile

variable {α ρ σ : Type*}

/-- What a read of `size` bytes delivers at a position: as many bytes as are there. -/
def read (file : List UInt8) (position size : Nat) : List UInt8 := (file.drop position).take size

/-- A write at a position. Between the end of the file and the position it leaves zeros. -/
def write (file : List UInt8) (position : Nat) (data : List UInt8) : List UInt8 :=
  file.take position ++ List.replicate (position - file.length) 0 ++ data ++ file.drop (position + data.length)

theorem length_read {file : List UInt8} {position size : Nat} :
    (read file position size).length = min size (file.length - position) := by
  rw [read, List.length_take, List.length_drop]

theorem write_pair {file : List UInt8} {position : Nat} {first second : UInt8} (inside : position + 1 < file.length) :
    write file position [first, second] = (file.set position first).set (position + 1) second := by
  apply List.ext_getElem?
  intro k
  have gap : position - file.length = 0 := by omega
  have front : (file.take position).length = position := by
    rw [List.length_take]
    omega
  unfold write
  rw [gap, List.replicate_zero, List.append_nil, List.append_assoc]
  rcases Nat.lt_or_ge k position with before | behind
  · rw [List.getElem?_append_left (by omega), List.getElem?_take_of_lt before, List.getElem?_set_ne (by omega),
      List.getElem?_set_ne (by omega)]
  · rw [List.getElem?_append_right (by omega), front]
    rcases Nat.eq_or_lt_of_le behind with rfl | later
    · rw [List.getElem?_set_ne (by omega), List.getElem?_set_self (by omega), Nat.sub_self]
      rfl
    · rcases Nat.eq_or_lt_of_le later with rfl | beyond
      · rw [List.getElem?_set_self (by rw [List.length_set]; omega), Nat.succ_sub (Nat.le_refl _), Nat.sub_self]
        rfl
      · rw [List.getElem?_set_ne (by omega), List.getElem?_set_ne (by omega), List.getElem?_append_right (by simp; omega),
          List.getElem?_drop]
        congr 1
        simp only [List.length_cons, List.length_nil]
        omega

/-- What a pass of a loop comes to: the result of the function around the loop, the end of the loop, or the next pass. -/
inductive Pass (ρ σ : Type*) where
  | result (value : ρ)
  | leave (state : σ)
  | next (state : σ)

/-- `do … while` over a file: each pass reads up to `size` bytes, and the pass that has read nothing is the last one.
    `number` counts the passes. -/
def scan (size : Nat) (body : List UInt8 → Nat → σ → Pass ρ σ) (file : List UInt8) (position number : Nat) (state : σ) :
    ρ ⊕ σ × Nat :=
  match body (read file position size) number state with
  | .result value => .inl value
  | .leave state => .inr (state, number)
  | .next state =>
    if _more : 0 < (read file position size).length then
      scan size body file (position + (read file position size).length) (number + 1) state
    else .inr (state, number + 1)
termination_by file.length - position
decreasing_by
  rw [length_read] at *
  omega

/-- The same loop over records; `last` is the pass that finds no record. -/
def passes (body : α → Nat → σ → Pass ρ σ) (last : Nat → σ → Pass ρ σ) : List α → Nat → σ → ρ ⊕ σ × Nat
  | [], number, state =>
    match last number state with
    | .result value => .inl value
    | .leave state => .inr (state, number)
    | .next state => .inr (state, number + 1)
  | record :: records, number, state =>
    match body record number state with
    | .result value => .inl value
    | .leave state => .inr (state, number)
    | .next state => passes body last records (number + 1) state

section Passes

variable {body : α → Nat → σ → Pass ρ σ} {last : Nat → σ → Pass ρ σ} {p : α → Bool} {f : α → Nat → ρ}
  {change : α → Nat → σ → σ} {records : List α} {number : Nat} {state : σ}

theorem passes_map {β : Type*} {g : β → α} {others : List β} :
    passes (fun other => body (g other)) last others number state = passes body last (others.map g) number state := by
  induction others generalizing number state with
  | nil => rfl
  | cons other others ih =>
    unfold passes
    simp only [List.map_cons]
    cases body (g other) number state with
    | result value => rfl
    | leave state => rfl
    | next state => exact ih

theorem passes_found {i : Nat} {record : α}
    (hit : ∀ record number state, p record = true → body record number state = .result (f record number))
    (miss : ∀ record number state, p record = false → body record number state = .next (change record number state))
    (first : records.findIdx? p = some i) (found : records[i]? = some record) :
    passes body last records number state = .inl (f record (number + i)) := by
  induction records generalizing i number state with
  | nil => cases found
  | cons head records ih =>
    unfold passes
    rw [List.findIdx?_cons] at first
    cases holds : p head with
    | true =>
      rw [holds] at first
      cases first
      cases found
      rw [hit _ _ _ holds]
      rfl
    | false =>
      rw [holds] at first
      simp only [Bool.false_eq_true, if_false, Option.map_eq_some_iff] at first
      obtain ⟨j, first, rfl⟩ := first
      rw [miss _ _ _ holds]
      simp only
      rw [ih first found, Nat.add_assoc, Nat.add_comm 1 j]

/-- The state of a loop that has looked at every record. -/
def changes (change : α → Nat → σ → σ) : List α → Nat → σ → σ
  | [], _, state => state
  | record :: records, number, state => changes change records (number + 1) (change record number state)

/-- A loop that finds nothing comes to the pass behind the last record. -/
theorem passes_missed
    (miss : ∀ record number state, p record = false → body record number state = .next (change record number state))
    (none : records.findIdx? p = none) :
    passes body last records number state =
      passes body last [] (number + records.length) (changes change records number state) := by
  induction records generalizing number state with
  | nil => rfl
  | cons head records ih =>
    rw [List.findIdx?_eq_none_iff] at none
    have step : passes body last (head :: records) number state =
        passes body last records (number + 1) (change head number state) := by
      rw [passes, miss _ _ _ (none head List.mem_cons_self)]
    rw [step, ih (List.findIdx?_eq_none_iff.mpr fun record member => none record (List.mem_cons_of_mem _ member)), changes,
      List.length_cons, Nat.add_assoc, Nat.add_comm 1]

theorem passes_all (every : ∀ record number state, body record number state = .next (change record number state)) :
    passes body last records number state =
      passes body last [] (number + records.length) (changes change records number state) := by
  apply passes_missed (fun record number state (_ : false = false) => every record number state)
  rw [List.findIdx?_eq_none_iff]
  exact fun _ _ => rfl

theorem changes_last {g : Nat → σ} :
    changes (fun record number state => if p record then g number else state) records number state =
      match RecordFile.lastIdx? p records with
      | some i => g (number + i)
      | none => state := by
  induction records generalizing number state with
  | nil => rfl
  | cons head records ih =>
    unfold changes RecordFile.lastIdx?
    rw [ih]
    cases RecordFile.lastIdx? p records with
    | some i =>
      simp only
      rw [Nat.add_assoc, Nat.add_comm 1 i]
    | none =>
      cases p head <;> rfl

theorem changes_count {n : Nat} :
    changes (fun record _ count => if p record then count + 1 else count) records number n = n + records.countP p := by
  induction records generalizing number n with
  | nil => rfl
  | cons head records ih =>
    unfold changes
    rw [ih, List.countP_cons]
    cases p head with
    | true =>
      simp only [if_true]
      omega
    | false => rfl

end Passes

/-- A record of a written file is the written one, one of the gap, or an old one. -/
theorem mem_put {zero record other : α} {file : List α} {position : Nat}
    (member : other ∈ RecordFile.put zero file position record) : other = record ∨ other = zero ∨ other ∈ file := by
  unfold RecordFile.put at member
  split at member
  · rcases List.mem_or_eq_of_mem_set member with old | new
    · exact .inr (.inr old)
    · exact .inl new
  · simp only [List.mem_append, List.mem_singleton] at member
    rcases member with (old | gap) | new
    · exact .inr (.inr old)
    · exact .inr (.inl (List.eq_of_mem_replicate gap))
    · exact .inl new

/-- How records of one type are written: each into the same number of bytes, the empty one into zeros. -/
structure Codec (α : Type*) where
  size : Nat
  positive : 0 < size
  encode : α → List UInt8
  length_encode : ∀ record, (encode record).length = size
  zero : α
  encode_zero : encode zero = List.replicate size 0

namespace Codec

variable (codec : Codec α) {records : List α}

def file (records : List α) : List UInt8 := records.flatMap codec.encode

theorem length_file : (codec.file records).length = records.length * codec.size := by
  induction records with
  | nil => simp [file]
  | cons record records ih =>
    have split : codec.file (record :: records) = codec.encode record ++ codec.file records := List.flatMap_cons
    rw [split, List.length_append, codec.length_encode, ih, List.length_cons, Nat.succ_mul, Nat.add_comm]

theorem file_append {others : List α} : codec.file (records ++ others) = codec.file records ++ codec.file others :=
  List.flatMap_append

theorem file_replicate_zero {n : Nat} : codec.file (List.replicate n codec.zero) = List.replicate (n * codec.size) 0 := by
  induction n with
  | zero => simp [file]
  | succ n ih =>
    have split : codec.file (codec.zero :: List.replicate n codec.zero) =
        codec.encode codec.zero ++ codec.file (List.replicate n codec.zero) := List.flatMap_cons
    rw [List.replicate_succ, split, ih, codec.encode_zero, List.replicate_append_replicate, Nat.succ_mul, Nat.add_comm]

theorem take_file {i : Nat} : (codec.file records).take (i * codec.size) = codec.file (records.take i) := by
  rcases Nat.le_total i records.length with inside | outside
  · have split : codec.file records = codec.file (records.take i) ++ codec.file (records.drop i) := by
      rw [← file_append, List.take_append_drop]
    rw [split, List.take_left' (by rw [length_file, List.length_take, Nat.min_eq_left inside])]
  · rw [List.take_of_length_le outside, List.take_of_length_le]
    rw [length_file]
    exact Nat.mul_le_mul_right _ outside

theorem drop_file {i : Nat} : (codec.file records).drop (i * codec.size) = codec.file (records.drop i) := by
  have split : codec.file (records.take i) ++ codec.file (records.drop i) = codec.file records := by
    rw [← file_append, List.take_append_drop]
  have halves := List.take_append_drop (i * codec.size) (codec.file records)
  rw [take_file, ← split] at halves
  rw [← split]
  exact List.append_cancel_left halves

theorem read_file {i : Nat} :
    read (codec.file records) (i * codec.size) codec.size = (records[i]?.map codec.encode).getD [] := by
  rw [read, drop_file]
  cases found : records[i]? with
  | none =>
    rw [List.drop_of_length_le (List.getElem?_eq_none_iff.mp found)]
    simp [file]
  | some record =>
    obtain ⟨inside, same⟩ := List.getElem?_eq_some_iff.mp found
    rw [List.drop_eq_getElem_cons inside, same]
    exact List.take_left' (codec.length_encode record)

theorem write_file {i : Nat} {record : α} :
    write (codec.file records) (i * codec.size) (codec.encode record) =
      codec.file (RecordFile.put codec.zero records i record) := by
  have behind : i * codec.size + codec.size = (i + 1) * codec.size := (Nat.succ_mul _ _).symm
  rw [write, codec.length_encode, behind, take_file, drop_file, length_file, ← Nat.sub_mul, ← file_replicate_zero]
  unfold RecordFile.put
  split
  · rename_i inside
    have none : i - records.length = 0 := by omega
    rw [none, List.set_eq_take_append_cons_drop, if_pos inside, file_append]
    simp [file]
  · rename_i outside
    rw [List.take_of_length_le (by omega), List.drop_of_length_le (by omega), file_append, file_append]
    simp [file]

theorem write_inside {i offset : Nat} {data : List UInt8} {record after : α} (found : records[i]? = some record)
    (fits : offset + data.length ≤ codec.size)
    (changed : codec.encode after = write (codec.encode record) offset data) :
    write (codec.file records) (i * codec.size + offset) data = codec.file (records.set i after) := by
  obtain ⟨inside, same⟩ := List.getElem?_eq_some_iff.mp found
  have records_eq : records = records.take i ++ record :: records.drop (i + 1) := by
    rw [← same, List.getElem_cons_drop, List.take_append_drop]
  have front : (codec.file (records.take i)).length = i * codec.size := by
    rw [length_file, List.length_take, Nat.min_eq_left (by omega)]
  have width := codec.length_encode record
  have left : codec.file records =
      codec.file (records.take i) ++ (codec.encode record ++ codec.file (records.drop (i + 1))) := by
    conv_lhs => rw [records_eq]
    simp [file]
  have right : codec.file (records.set i after) =
      codec.file (records.take i) ++ (codec.encode after ++ codec.file (records.drop (i + 1))) := by
    rw [List.set_eq_take_append_cons_drop, if_pos inside]
    simp [file]
  have gap : i * codec.size + offset - (codec.file records).length = 0 := by
    rw [left]
    simp only [List.length_append]
    omega
  have none : offset - (codec.encode record).length = 0 := by omega
  rw [right, changed]
  unfold write
  rw [gap, none, left, ← front, List.take_length_add_append, Nat.add_assoc, List.drop_length_add_append,
    List.take_append_of_le_length (by omega), List.drop_append_of_le_length (by omega)]
  simp only [List.replicate_zero, List.append_nil, List.append_assoc]

theorem scan_from {body : List UInt8 → Nat → σ → Pass ρ σ} {i number : Nat} {state : σ} :
    scan codec.size body (codec.file records) (i * codec.size) number state =
      passes (fun record => body (codec.encode record)) (body []) (records.drop i) number state := by
  generalize rest : records.drop i = left
  induction left generalizing i number state with
  | nil =>
    have outside : records.length ≤ i := List.drop_eq_nil_iff.mp rest
    unfold scan passes
    rw [read_file, List.getElem?_eq_none outside]
    simp only [Option.map_none, Option.getD_none, List.length_nil]
    cases body [] number state <;> rfl
  | cons record left ih =>
    have inside : i < records.length := by
      by_contra outside
      rw [List.drop_of_length_le (by omega)] at rest
      cases rest
    rw [List.drop_eq_getElem_cons inside] at rest
    obtain ⟨same, later⟩ := List.cons.inj rest
    have found : records[i]? = some record := by rw [List.getElem?_eq_getElem inside, same]
    unfold scan passes
    rw [read_file, found]
    simp only [Option.map_some, Option.getD_some]
    cases body (codec.encode record) number state with
    | result value => rfl
    | leave state => rfl
    | next state =>
      simp only
      rw [dif_pos (by rw [codec.length_encode]; exact codec.positive), codec.length_encode, ← Nat.succ_mul]
      exact ih later

/-- A loop over the bytes of a file of records is a loop over the records. -/
theorem scan_file {body : List UInt8 → Nat → σ → Pass ρ σ} {number : Nat} {state : σ} :
    scan codec.size body (codec.file records) 0 number state =
      passes (fun record => body (codec.encode record)) (body []) records number state := by
  have whole : scan codec.size body (codec.file records) (0 * codec.size) number state =
      passes (fun record => body (codec.encode record)) (body []) (records.drop 0) number state := codec.scan_from
  rwa [Nat.zero_mul, List.drop_zero] at whole

end Codec

end BinaryFile
