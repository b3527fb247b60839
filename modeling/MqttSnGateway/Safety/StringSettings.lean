import MqttSnGateway.Safety.NumericSettings
import Mathlib.Data.List.Induction

namespace MqttSnGateway

open MqttConfiguration LineReader

/-- A string of MQTT.CON: its key, the size of the buffer the caller provides, and the size of the reader's line
    buffer. -/
structure StringSetting where
  key : List UInt8
  capacity : Nat
  size : Nat
  zero : 0 ∉ key
  inside : key.length ≤ size
  room : capacity ≤ 300
  counted : size < 60000

/-- What a reader that meets the terminator copies of a part of a line. -/
def pieceText (piece : Piece UInt8) : Option (List UInt8) :=
  (afterSpace (CString.ofMemory piece.bytes).bytes).filter (· ≠ [])

theorem isPrefixOf_lineBuffer {key line : List UInt8} {size : Nat} (zero : 0 ∉ key) (inside : key.length ≤ size)
    (beyond : List UInt8) : key.isPrefixOf (lineBuffer size line beyond) = key.isPrefixOf line := by
  rw [Bool.eq_iff_iff, List.isPrefixOf_iff_prefix, List.isPrefixOf_iff_prefix]
  constructor
  · intro found
    by_cases long : key.length ≤ line.length
    · rw [lineBuffer, List.append_assoc] at found
      exact List.prefix_of_prefix_length_le found (List.prefix_append _ _) long
    · -- a key that is longer than the line would contain the zero behind it
      have short : line.length < size := by omega
      obtain ⟨rest, terminated⟩ := lineBuffer_terminated short beyond
      have ended : line ++ [0] <+: line ++ 0 :: rest := ⟨rest, by rw [List.append_assoc]; rfl⟩
      rw [terminated] at found
      have part := List.prefix_of_prefix_length_le ended found (by rw [List.length_append, List.length_singleton]; omega)
      exact absurd (part.subset (List.mem_append_right _ (List.mem_singleton.mpr rfl))) zero
  · intro found
    rw [lineBuffer, List.append_assoc]
    exact found.trans (List.prefix_append _ _)

namespace StringSetting

variable (setting : StringSetting) (file beyond : List UInt8)

/-- The parts of lines that the reader takes for the setting. -/
def pieces : List (Piece UInt8) :=
  (LineReader.pieces 10 setting.size file).filter (setting.key.isPrefixOf ·.bytes)

def buffer (piece : Piece UInt8) : List UInt8 := lineBuffer setting.size piece.bytes beyond

def copied (piece : Piece UInt8) : Option (List UInt8) :=
  textAfterSpace (setting.buffer beyond piece) (lineLength (setting.buffer beyond piece))

/-- What the reader does with one line, as far as it concerns the setting. -/
def line (found : Bool × List UInt8) (buffer : List UInt8) : Bool × List UInt8 :=
  if setting.key.isPrefixOf buffer then parseStringAfterSpace found.2 buffer (lineLength buffer) else found

/-- Whether the setting was accepted last, and the caller's buffer, which was zeroed. -/
def read : Bool × List UInt8 :=
  (buffers setting.size file beyond).foldl setting.line (false, .replicate setting.capacity 0)

theorem read_pieces :
    setting.read file beyond = (setting.pieces file).foldl
      (fun found piece => parseStringAfterSpace found.2 (setting.buffer beyond piece)
        (lineLength (setting.buffer beyond piece)))
      (false, .replicate setting.capacity 0) := by
  rw [read, buffers, ← bytes_pieces, List.map_map, List.foldl_map, pieces, List.foldl_filter]
  congr 1
  funext found piece
  simp only [line, Function.comp_apply, isPrefixOf_lineBuffer setting.zero setting.inside beyond]
  rfl

/-- The part fills the line buffer, and no zero byte of its own ends the string. -/
def Unterminated (piece : Piece UInt8) : Prop := piece.bytes.length = setting.size ∧ 0 ∉ piece.bytes

/-- Every text that is copied leaves room for its terminator in the caller's buffer. -/
def Bounded : Prop :=
  ∀ piece ∈ setting.pieces file, ∀ text, setting.copied beyond piece = some text → text.length < setting.capacity

/-- No part runs out of the line buffer, and no text is too long. -/
def Fits : Prop :=
  ∀ piece ∈ setting.pieces file, ¬ setting.Unterminated piece ∧
    ∀ text, pieceText piece = some text → text.length < setting.capacity

instance : Decidable (setting.Bounded file beyond) :=
  inferInstanceAs (Decidable (∀ piece ∈ setting.pieces file, ∀ text ∈ setting.copied beyond piece,
    text.length < setting.capacity))

instance : Decidable (setting.Fits file) :=
  inferInstanceAs (Decidable (∀ piece ∈ setting.pieces file, ¬ (piece.bytes.length = setting.size ∧ 0 ∉ piece.bytes) ∧
    ∀ text ∈ pieceText piece, text.length < setting.capacity))

variable {setting file beyond} {piece : Piece UInt8}

theorem pieces_cases (found : piece ∈ setting.pieces file) :
    10 ∉ piece.bytes ∧ (piece.bytes.length = setting.size ∨ piece.bytes.length < setting.size ∧ piece.after = []) ∧
      setting.key.isPrefixOf piece.bytes = true := by
  have member := List.mem_filter.mp found
  exact ⟨(LineReader.pieces_cases member.1).2.1, (LineReader.pieces_cases member.1).2.2, member.2⟩

theorem buffer_terminated (found : piece ∈ setting.pieces file) (terminated : ¬ setting.Unterminated piece)
    (beyond : List UInt8) :
    ∃ rest, setting.buffer beyond piece = (CString.ofMemory piece.bytes).bytes ++ 0 :: rest := by
  rcases pieces_cases found with ⟨_, sizes, _⟩
  by_cases zero : 0 ∈ piece.bytes
  · obtain ⟨front, rest, whole, nonzero⟩ := List.eq_append_cons_of_mem zero
    have bytes : (CString.ofMemory piece.bytes).bytes = front := by
      rw [whole]
      exact congrArg CString.bytes (CString.ofMemory_terminated ⟨front, nonzero⟩ rest)
    refine ⟨rest ++ (List.replicate (setting.size - piece.bytes.length) 0 ++ beyond), ?_⟩
    rw [bytes, buffer, lineBuffer, List.append_assoc, whole, List.append_assoc]
    rfl
  · have short : piece.bytes.length < setting.size := by
      rcases sizes with full | short
      · exact absurd ⟨full, zero⟩ terminated
      · exact short.1
    rw [CString.bytes_ofMemory zero]
    exact lineBuffer_terminated short beyond

theorem length_bytes (found : piece ∈ setting.pieces file) : piece.bytes.length ≤ setting.size := by
  rcases (pieces_cases found).2.1 with full | short
  · exact Nat.le_of_eq full
  · exact Nat.le_of_lt short.1

/-- With the terminator in the line buffer, the memory behind it does not matter. -/
theorem copied_terminated (found : piece ∈ setting.pieces file) (terminated : ¬ setting.Unterminated piece)
    (beyond : List UInt8) :
    setting.copied beyond piece = pieceText piece := by
  obtain ⟨rest, buffered⟩ := buffer_terminated found terminated beyond
  have string := CString.ofMemory_terminated (CString.ofMemory piece.bytes) rest
  have part : (CString.ofMemory piece.bytes).bytes <+: piece.bytes := List.takeWhile_prefix _
  have short := Nat.le_trans part.length_le (length_bytes found)
  have counted := setting.counted
  have newline : 10 ∉ (CString.ofMemory piece.bytes).bytes := fun member =>
    (pieces_cases found).1 (part.subset member)
  rw [copied, lineLength, buffered, string]
  exact textAfterSpace_line (CString.ofMemory piece.bytes).nonzero newline (by omega) rest

/-- Without a terminator in the line buffer, the memory behind it may hold a text that is too long. -/
theorem copied_unterminated (found : piece ∈ setting.pieces file) (unterminated : setting.Unterminated piece) :
    ∃ beyond text, setting.copied beyond piece = some text ∧ setting.capacity ≤ text.length := by
  obtain ⟨long, counts, plain, unbroken⟩ : ∃ long : List UInt8, long.length = 300 ∧ 0 ∉ long ∧ 10 ∉ long :=
    ⟨List.replicate 300 65, List.length_replicate, fun member => absurd (List.eq_of_mem_replicate member) (by decide),
      fun member => absurd (List.eq_of_mem_replicate member) (by decide)⟩
  rcases unterminated with ⟨full, zero⟩
  rcases pieces_cases found with ⟨newline, _, _⟩
  have counted := setting.counted
  have room := setting.room
  have buffered : setting.buffer (32 :: (long ++ [0])) piece = (piece.bytes ++ 32 :: long) ++ 0 :: [] := by
    rw [buffer, lineBuffer, full, Nat.sub_self, List.replicate_zero, List.append_nil, List.append_assoc]
    rfl
  have zeros : 0 ∉ piece.bytes ++ 32 :: long :=
    List.not_mem_append zero (List.not_mem_cons_of_ne_of_not_mem (by decide) plain)
  have newlines : 10 ∉ piece.bytes ++ 32 :: long :=
    List.not_mem_append newline (List.not_mem_cons_of_ne_of_not_mem (by decide) unbroken)
  have length : (piece.bytes ++ 32 :: long).length = setting.size + 301 := by
    rw [List.length_append, full, List.length_cons, counts]
  have string : CString.ofMemory (piece.bytes ++ 32 :: long ++ 0 :: []) = ⟨_, zeros⟩ :=
    CString.ofMemory_terminated ⟨_, zeros⟩ []
  have scanned := textAfterSpace_line zeros newlines (by omega) []
  have copied : setting.copied (32 :: (long ++ [0])) piece =
      (afterSpace (piece.bytes ++ 32 :: long)).filter (· ≠ []) := by
    rw [copied, lineLength, buffered, string]
    exact scanned
  refine ⟨32 :: (long ++ [0]), ?_⟩
  rw [copied]
  rcases afterSpace_cases piece.bytes with ⟨_, blank⟩ | ⟨key, text, whole, blank, _⟩
  · have nonempty : long ≠ [] := by
      rintro rfl
      cases counts
    rw [afterSpace_append blank]
    exact ⟨long, Option.filter_some_pos (by simpa using nonempty), by omega⟩
  · rw [whole, List.append_assoc, List.cons_append, afterSpace_append blank]
    refine ⟨text ++ 32 :: long, Option.filter_some_pos (by simp), ?_⟩
    rw [List.length_append, List.length_cons, counts]
    omega

/-- Whatever is in the memory behind the line buffer, nothing is written behind the caller's. -/
theorem bounded_iff : (∀ beyond, setting.Bounded file beyond) ↔ setting.Fits file := by
  constructor
  · intro bounded piece found
    have terminated : ¬ setting.Unterminated piece := by
      intro unterminated
      obtain ⟨beyond, text, copied, long⟩ := copied_unterminated found unterminated
      exact absurd (bounded beyond piece found text copied) (Nat.not_lt_of_le long)
    refine ⟨terminated, ?_⟩
    intro text read
    exact bounded [] piece found text ((copied_terminated found terminated []).trans read)
  · intro fits beyond piece found text copied
    rw [copied_terminated found (fits piece found).1] at copied
    exact (fits piece found).2 text copied

section Destination

/-- What the texts of some parts leave in the caller's buffer in front of the zeroes. -/
def leftBy (pieces : List (Piece UInt8)) : List UInt8 := (pieces.filterMap pieceText).foldl copyTo []

variable {left text : List UInt8} {texts : List (List UInt8)} {n : Nat}

theorem length_copyTo : (copyTo left text).length = max left.length text.length := by
  rw [copyTo, List.length_append, List.length_drop]
  omega

/-- Earlier texts show behind the last one only if one of them is longer. -/
theorem length_foldl_copyTo :
    (texts.foldl copyTo left).length ≤ n ↔ left.length ≤ n ∧ ∀ text ∈ texts, text.length ≤ n := by
  induction texts generalizing left with
  | nil => simp
  | cons text texts ih =>
    rw [List.foldl_cons, ih, length_copyTo, List.forall_mem_cons, Nat.max_le, and_assoc]

theorem pieceText_cases (read : pieceText piece = some text) :
    text ≠ [] ∧ 0 ∉ text ∧ ∃ key, (CString.ofMemory piece.bytes).bytes = key ++ 32 :: text ∧ 32 ∉ key := by
  rcases afterSpace_cases (CString.ofMemory piece.bytes).bytes with ⟨none, _⟩ | ⟨key, rest, whole, blank, found⟩
  · rw [pieceText, none] at read
    cases read
  · rw [pieceText, found] at read
    rcases Option.filter_eq_some_iff.mp read with ⟨same, nonempty⟩
    obtain rfl := Option.some.inj same
    refine ⟨by simpa using nonempty, ?_, key, whole, blank⟩
    intro member
    apply (CString.ofMemory piece.bytes).nonzero
    rw [whole]
    exact List.mem_append_right _ (List.mem_cons_of_mem _ member)

/-- A destination of `n` bytes that was zeroed before `left` was copied. -/
def padded (n : Nat) (left : List UInt8) : List UInt8 := left ++ List.replicate (n - left.length) 0

theorem copyTo_padded (short : left.length ≤ n) (fits : text.length ≤ n) :
    copyTo (padded n left) text = padded n (copyTo left text) := by
  have zeros : n - left.length - (text.length - left.length) = n - (copyTo left text).length := by
    rw [length_copyTo]
    omega
  rw [padded, copyTo, List.drop_append, List.drop_replicate, zeros, ← List.append_assoc]
  rfl

theorem bytes_padded (zero : 0 ∉ left) (short : left.length < n) : (CString.ofMemory (padded n left)).bytes = left := by
  obtain ⟨more, counted⟩ : ∃ more, n - left.length = more + 1 := ⟨n - left.length - 1, by omega⟩
  rw [padded, counted, List.replicate_succ]
  exact congrArg CString.bytes (CString.ofMemory_terminated ⟨left, zero⟩ _)

theorem length_copied (nonempty : text ≠ []) (zero : 0 ∉ text) (destination : List UInt8) :
    (CString.ofMemory (copyTo destination text)).length ≠ 0 := by
  cases text with
  | nil => exact absurd rfl nonempty
  | cons byte text =>
    have other : byte ≠ 0 := (List.ne_of_not_mem_cons zero).symm
    show ((byte :: (text ++ destination.drop (text.length + 1))).takeWhile (· != 0)).length ≠ 0
    rw [List.takeWhile_cons_of_pos (by simpa using other)]
    exact Nat.succ_ne_zero _

theorem zero_foldl_copyTo (zero : 0 ∉ left) (zeros : ∀ text ∈ texts, 0 ∉ text) : 0 ∉ texts.foldl copyTo left := by
  induction texts generalizing left with
  | nil => exact zero
  | cons text texts ih =>
    apply ih
    · exact List.not_mem_append (zeros text List.mem_cons_self) fun member => zero (List.mem_of_mem_drop member)
    · exact fun text member => zeros text (List.mem_cons_of_mem _ member)

variable {pieces : List (Piece UInt8)}

theorem mem_texts (member : text ∈ pieces.filterMap pieceText) : ∃ piece ∈ pieces, pieceText piece = some text :=
  List.mem_filterMap.mp member

theorem zero_leftBy : 0 ∉ leftBy pieces := by
  apply zero_foldl_copyTo List.not_mem_nil
  intro text member
  obtain ⟨piece, _, read⟩ := mem_texts member
  exact (pieceText_cases read).2.1

theorem length_leftBy : (leftBy pieces).length ≤ n ↔
    ∀ piece ∈ pieces, ∀ text, pieceText piece = some text → text.length ≤ n := by
  rw [leftBy, length_foldl_copyTo]
  constructor
  · intro short piece member text read
    exact short.2 text (List.mem_filterMap.mpr ⟨piece, member, read⟩)
  · intro short
    refine ⟨Nat.zero_le n, fun text member => ?_⟩
    obtain ⟨piece, member, read⟩ := mem_texts member
    exact short piece member text read

/-- The last part decides whether the setting was accepted, and the caller's buffer has what all texts left. -/
theorem read_fits (fits : setting.Fits file) (beyond : List UInt8) :
    setting.read file beyond =
      ((setting.pieces file).getLast?.any fun piece => (pieceText piece).isSome,
        padded setting.capacity (leftBy (setting.pieces file))) := by
  have run : ∀ pieces : List (Piece UInt8), (∀ piece ∈ pieces, piece ∈ setting.pieces file) →
      pieces.foldl
        (fun found piece => parseStringAfterSpace found.2 (setting.buffer beyond piece)
          (lineLength (setting.buffer beyond piece)))
        (false, .replicate setting.capacity 0) =
      (pieces.getLast?.any fun piece => (pieceText piece).isSome, padded setting.capacity (leftBy pieces)) := by
    intro pieces
    induction pieces using List.reverseRecOn with
    | nil => exact fun _ => rfl
    | append_singleton pieces piece ih =>
      intro inside
      have here : piece ∈ setting.pieces file := inside piece (List.mem_append_right _ (List.mem_singleton.mpr rfl))
      have earlier := fun other member => inside other (List.mem_append_left [piece] member)
      have copied : textAfterSpace _ _ = _ := copied_terminated here (fits piece here).1 beyond
      rw [List.foldl_append, ih earlier, List.foldl_cons, List.foldl_nil, List.getLast?_concat, Option.any_some,
        parseStringAfterSpace, copied, leftBy, leftBy, List.filterMap_append, List.foldl_append]
      cases read : pieceText piece with
      | none =>
        rw [List.filterMap_cons_none read]
        rfl
      | some text =>
        have short : (leftBy pieces).length ≤ setting.capacity := length_leftBy.mpr fun other member text read =>
          Nat.le_of_lt ((fits other (earlier other member)).2 text read)
        have copy := copyTo_padded short (Nat.le_of_lt ((fits piece here).2 text read))
        rcases pieceText_cases read with ⟨nonempty, zero, _⟩
        rw [List.filterMap_cons_some read]
        simp only [length_copied nonempty zero, ne_eq, not_false_eq_true, decide_true, Option.isSome_some]
        exact congrArg (Prod.mk true) copy
  rw [read_pieces]
  exact run _ fun _ member => member

/-- The string in the caller's buffer ends in it, and is shorter than a line. -/
theorem length_read (fits : setting.Fits file) (beyond : List UInt8) (room : 0 < setting.capacity)
    (line : 0 < setting.size) :
    (CString.ofMemory (setting.read file beyond).2).length < setting.capacity ∧
      (CString.ofMemory (setting.read file beyond).2).length < setting.size := by
  have inside : (leftBy (setting.pieces file)).length ≤ setting.capacity - 1 :=
    length_leftBy.mpr fun piece member text read => Nat.le_sub_one_of_lt ((fits piece member).2 text read)
  have short : (leftBy (setting.pieces file)).length ≤ setting.size - 1 := by
    apply length_leftBy.mpr
    intro piece member text read
    obtain ⟨_, _, key, whole, _⟩ := pieceText_cases read
    have part : (CString.ofMemory piece.bytes).bytes <+: piece.bytes := List.takeWhile_prefix _
    have length := Nat.le_trans part.length_le (length_bytes member)
    rw [whole, List.length_append, List.length_cons] at length
    omega
  have string : (CString.ofMemory (setting.read file beyond).2).bytes = leftBy (setting.pieces file) := by
    rw [read_fits fits]
    exact bytes_padded zero_leftBy (by omega)
  rw [CString.length, string]
  omega

end Destination

section Report

variable (setting file) in
/-- The destination holds what follows the first blank of the line that was read last for the setting, and fits. -/
def Reported (destination : List UInt8) : Prop :=
  ∃ piece, (setting.pieces file).getLast? = some piece ∧
    afterSpace piece.whole = some (CString.ofMemory destination).bytes ∧
    (CString.ofMemory destination).length < setting.capacity

variable (setting file) in
/-- The last part for the setting continues a line that has had its first blank before. -/
def Continued : Prop := ∃ piece, (setting.pieces file).getLast? = some piece ∧ 32 ∈ piece.before

variable (setting file) in
/-- The last part for the setting has no zero byte and the first blank of its line, and no earlier text is longer. -/
def Complete : Prop :=
  ∀ piece, (setting.pieces file).getLast? = some piece → 0 ∉ piece.bytes ∧ 32 ∉ piece.before ∧
    ∀ other ∈ setting.pieces file, ∀ text, pieceText other = some text →
      ∀ last, pieceText piece = some last → text.length ≤ last.length

instance : Decidable (setting.Complete file) :=
  inferInstanceAs (Decidable (∀ piece ∈ (setting.pieces file).getLast?, 0 ∉ piece.bytes ∧ 32 ∉ piece.before ∧
    ∀ other ∈ setting.pieces file, ∀ text ∈ pieceText other, ∀ last ∈ pieceText piece, text.length ≤ last.length))

/-- A zero byte behind the first blank of a line belongs to its text. -/
theorem zero_afterSpace {piece : Piece UInt8} {last text : List UInt8} (zero : 0 ∈ piece.bytes)
    (read : pieceText piece = some last) (complete : afterSpace piece.whole = some text) : 0 ∈ text := by
  rcases pieceText_cases read with ⟨_, _, key, string, _⟩
  obtain ⟨front, rest, whole, nonzero⟩ := List.eq_append_cons_of_mem zero
  have bytes : (CString.ofMemory piece.bytes).bytes = front := by
    rw [whole]
    exact congrArg CString.bytes (CString.ofMemory_terminated ⟨front, nonzero⟩ rest)
  have blank : 32 ∈ piece.before ++ front := by
    rw [← bytes, string]
    exact List.mem_append_right _ (List.mem_append_right _ List.mem_cons_self)
  have parts : piece.whole = (piece.before ++ front) ++ (0 :: rest ++ piece.after) := by
    rw [Piece.whole, whole]
    simp only [List.append_assoc, List.cons_append]
  rw [parts, afterSpace_continued blank] at complete
  obtain ⟨_, _, rfl⟩ := Option.map_eq_some_iff.mp complete
  exact List.mem_append_right _ List.mem_cons_self

theorem leftBy_concat {pieces : List (Piece UInt8)} {piece : Piece UInt8} {last : List UInt8}
    (read : pieceText piece = some last) : leftBy (pieces ++ [piece]) = copyTo (leftBy pieces) last := by
  rw [leftBy, leftBy, List.filterMap_append, List.foldl_append, List.filterMap_cons_some read]
  rfl

/-- What is left is the last text if none of the texts is longer. -/
theorem leftBy_eq_last {pieces : List (Piece UInt8)} {piece : Piece UInt8} {last : List UInt8}
    (final : pieces.getLast? = some piece) (read : pieceText piece = some last) :
    last = leftBy pieces ↔ ∀ other ∈ pieces, ∀ text, pieceText other = some text → text.length ≤ last.length := by
  rw [← length_leftBy]
  constructor
  · intro same
    rw [← same]
  · intro short
    obtain ⟨earlier, rfl⟩ := List.getLast?_eq_some_iff.mp final
    rw [leftBy_concat read, length_copyTo] at short
    rw [leftBy_concat read, copyTo, List.drop_eq_nil_of_le (by omega), List.append_nil]

/-- If the setting was accepted last and its line was not taken apart, its reader reports it whole exactly if it is
    complete. -/
theorem reported_iff (fits : setting.Fits file) (accepted : (setting.read file beyond).1 = true)
    (begun : ¬ setting.Continued file) :
    setting.Reported file (setting.read file beyond).2 ↔ setting.Complete file := by
  rw [read_fits fits] at accepted ⊢
  obtain ⟨piece, final, some⟩ := (Option.any_eq_true _ _).mp accepted
  obtain ⟨last, read⟩ := Option.isSome_iff_exists.mp some
  have here : piece ∈ setting.pieces file := List.mem_of_getLast? final
  have room := (fits piece here).2 last read
  have short : (leftBy (setting.pieces file)).length ≤ setting.capacity - 1 :=
    length_leftBy.mpr fun other member text read => Nat.le_sub_one_of_lt ((fits other member).2 text read)
  have zeros : 0 ∉ leftBy (setting.pieces file) := zero_leftBy
  have inside : (leftBy (setting.pieces file)).length < setting.capacity := by omega
  have string := bytes_padded zeros inside
  have reported : setting.Reported file (padded setting.capacity (leftBy (setting.pieces file))) ↔
      afterSpace piece.whole = .some (leftBy (setting.pieces file)) := by
    rw [Reported, CString.length, string, final]
    constructor
    · intro report
      obtain ⟨other, same, complete, _⟩ := report
      obtain rfl := Option.some.inj same
      exact complete
    · intro complete
      exact ⟨piece, rfl, complete, by omega⟩
  rw [reported, Complete, final]
  simp only [Option.some.injEq, forall_eq']
  by_cases zero : 0 ∈ piece.bytes
  · refine iff_of_false ?_ (fun complete => complete.1 zero)
    intro complete
    exact zero_leftBy (zero_afterSpace zero read complete)
  · have blank : 32 ∉ piece.before := fun member => begun ⟨piece, final, member⟩
    simp only [zero, blank, not_false_eq_true, true_and, read, Option.some.injEq, forall_eq']
    rw [← leftBy_eq_last final read]
    have ended : piece.after = [] := by
      rcases (pieces_cases here).2.1 with full | short
      · exact absurd ⟨full, zero⟩ (fits piece here).1
      · exact short.2
    rcases pieceText_cases read with ⟨_, _, key, bytes, plain⟩
    rw [CString.bytes_ofMemory zero] at bytes
    have whole : piece.whole = (piece.before ++ key) ++ 32 :: last := by
      rw [Piece.whole, ended, List.append_nil, bytes, List.append_assoc]
    rw [whole, afterSpace_append (List.not_mem_append blank plain), Option.some.injEq]

/-- The last line for the setting has a text behind its first blank. -/
def given (setting : StringSetting) (file : List UInt8) : Bool :=
  (setting.pieces file).getLast?.any fun piece => (pieceText piece).isSome

theorem read_given (fits : setting.Fits file) (beyond : List UInt8) :
    (setting.read file beyond).1 = setting.given file := by
  rw [read_fits fits]
  rfl

theorem Complete.begun (complete : setting.Complete file) : ¬ setting.Continued file := by
  intro continued
  obtain ⟨piece, final, blank⟩ := continued
  exact (complete piece final).2.1 blank

section Destination

variable {flag : Bool} {destination : List UInt8} (kept : (flag, destination) = setting.read file beyond)
  (fits : setting.Fits file) (accepted : setting.given file = true)

include kept fits accepted

theorem reported_of_complete (complete : setting.Complete file) : setting.Reported file destination := by
  have same : destination = (setting.read file beyond).2 := congrArg Prod.snd kept
  rw [same]
  exact (reported_iff fits ((read_given fits beyond).trans accepted) complete.begun).mpr complete

theorem complete_of_reported (reported : setting.Reported file destination) :
    setting.Continued file ∨ setting.Complete file := by
  have same : destination = (setting.read file beyond).2 := congrArg Prod.snd kept
  rw [same] at reported
  by_cases begun : setting.Continued file
  · exact .inl begun
  · exact .inr ((reported_iff fits ((read_given fits beyond).trans accepted) begun).mp reported)

end Destination

end Report

end StringSetting

section Readers

variable {σ : Type} {key buffer : List UInt8} {accepts : List UInt8 → Bool} {file beyond : List UInt8}

/-- The last line that starts with a key is accepted. -/
def lastLine (key : List UInt8) (accepts : List UInt8 → Bool) (buffers : List (List UInt8)) : Bool :=
  (buffers.filter (key.isPrefixOf ·)).getLast?.any accepts

/-- A flag of a reader that every line with the key sets anew tells about the last of these lines. -/
theorem foldl_lastLine (step : σ → List UInt8 → σ) (flag : σ → Bool) {initial : σ} (unset : flag initial = false)
    (sets : ∀ state buffer, flag (step state buffer) = if key.isPrefixOf buffer then accepts buffer else flag state)
    (buffers : List (List UInt8)) : flag (buffers.foldl step initial) = lastLine key accepts buffers := by
  induction buffers using List.reverseRecOn with
  | nil => exact unset
  | append_singleton buffers buffer ih =>
    rw [List.foldl_append, List.foldl_cons, List.foldl_nil, sets, lastLine, List.filter_append]
    cases starts : key.isPrefixOf buffer with
    | true => simp [starts]
    | false =>
      rw [ih, lastLine]
      simp [starts]

/-- What a reader keeps of a string is what `read` says if every line does with it what `line` says. -/
theorem foldl_read (setting : StringSetting) (step : σ → List UInt8 → σ) (view : σ → Bool × List UInt8) {initial : σ}
    (unset : view initial = (false, .replicate setting.capacity 0))
    (sets : ∀ state buffer, view (step state buffer) = setting.line (view state) buffer) (file beyond : List UInt8) :
    view ((buffers setting.size file beyond).foldl step initial) = setting.read file beyond := by
  rw [StringSetting.read, ← unset]
  exact (List.foldl_hom view fun state buffer => (sets state buffer).symm).symm

/-- Two keys, none of which begins with the other, do not start the same line. -/
theorem isPrefixOf_apart (other : List UInt8)
    (apart : key.isPrefixOf other = false ∧ other.isPrefixOf key = false)
    (starts : key.isPrefixOf buffer = true) : ¬ other.isPrefixOf buffer = true := by
  intro too
  rw [List.isPrefixOf_iff_prefix] at starts too
  rcases List.prefix_or_prefix_of_prefix starts too with first | second
  · exact Bool.eq_false_iff.mp apart.1 (List.isPrefixOf_iff_prefix.mpr first)
  · exact Bool.eq_false_iff.mp apart.2 (List.isPrefixOf_iff_prefix.mpr second)

theorem parseUint8_accepts (destination : UInt8) (max : UInt16) :
    (parseUint8AfterSpace destination buffer max).1 = (parseUint8AfterSpace 0 buffer max).1 := by
  unfold parseUint8AfterSpace
  split
  · split <;> rfl
  · rfl

theorem parseUint16_accepts (destination : UInt16) (max : UInt16) :
    (parseUint16AfterSpace destination buffer max).1 = (parseUint16AfterSpace 0 buffer max).1 := by
  unfold parseUint16AfterSpace
  split
  · split <;> rfl
  · rfl

theorem parseIpaddress_accepts (destination : List UInt8) (max : UInt16) :
    (parseIpaddressAfterSpace destination buffer max).1 = (parseIpaddressAfterSpace [] buffer max).1 := by
  unfold parseIpaddressAfterSpace
  split
  · split
    · split
      · rfl
      · rw [Bool.eq_iff_iff, parseNumbers_accepts, parseNumbers_accepts]
    · rfl
  · rfl

section Config

def clientIdSetting : StringSetting := ⟨cId, 24, 512, by decide, by decide, by decide, by decide⟩

theorem clientId_read (serverIp : List UInt8) (serverPort : UInt16) :
    ((getMqttConfig file beyond serverIp serverPort (.replicate 24 0)).hasCId,
      (getMqttConfig file beyond serverIp serverPort (.replicate 24 0)).clientId) = clientIdSetting.read file beyond := by
  apply foldl_read clientIdSetting MqttConfig.line (fun config => (config.hasCId, config.clientId)) rfl
  intro config buffer
  unfold StringSetting.line MqttConfig.line
  by_cases address : bAddr.isPrefixOf buffer = true
  · rw [if_pos address, if_neg (isPrefixOf_apart _ (by decide) address)]
  · rw [if_neg address]
    by_cases port : bPort.isPrefixOf buffer = true
    · rw [if_pos port, if_neg (isPrefixOf_apart _ (by decide) port)]
    · rw [if_neg port]
      show _ = if cId.isPrefixOf buffer then _ else _
      split <;> rfl

def configAccepted (file beyond : List UInt8) : Bool :=
  lastLine bAddr (fun buffer => (parseIpaddressAfterSpace [] buffer (lineLength buffer)).1) (buffers 512 file beyond) &&
    lastLine bPort (fun buffer => (parseUint16AfterSpace 0 buffer (lineLength buffer)).1) (buffers 512 file beyond) &&
    clientIdSetting.given file

theorem config_loaded (fits : clientIdSetting.Fits file) (serverIp : List UInt8) (serverPort : UInt16) :
    (getMqttConfig file beyond serverIp serverPort (.replicate 24 0)).loaded = configAccepted file beyond := by
  have client : (getMqttConfig file beyond serverIp serverPort (.replicate 24 0)).hasCId = clientIdSetting.given file :=
    (congrArg Prod.fst (clientId_read serverIp serverPort)).trans (StringSetting.read_given fits beyond)
  have address : (getMqttConfig file beyond serverIp serverPort (.replicate 24 0)).hasBAddr =
      lastLine bAddr (fun buffer => (parseIpaddressAfterSpace [] buffer (lineLength buffer)).1)
        (buffers 512 file beyond) := by
    apply foldl_lastLine MqttConfig.line MqttConfig.hasBAddr rfl
    intro config buffer
    unfold MqttConfig.line
    split
    · exact parseIpaddress_accepts _ _
    · split
      · rfl
      · split <;> rfl
  have port : (getMqttConfig file beyond serverIp serverPort (.replicate 24 0)).hasBPort =
      lastLine bPort (fun buffer => (parseUint16AfterSpace 0 buffer (lineLength buffer)).1)
        (buffers 512 file beyond) := by
    apply foldl_lastLine MqttConfig.line MqttConfig.hasBPort rfl
    intro config buffer
    unfold MqttConfig.line
    by_cases first : bAddr.isPrefixOf buffer = true
    · rw [if_pos first, if_neg (isPrefixOf_apart _ (by decide) first)]
    · rw [if_neg first]
      split
      · exact parseUint16_accepts _ _
      · split <;> rfl
  rw [MqttConfig.loaded, configAccepted, address, port, client]

/-- `get_mqtt_config` copies no client id that does not fit, and reports only the complete one. -/
def ConfigExact (file : List UInt8) : Prop :=
  ∀ beyond serverIp serverPort, clientIdSetting.Bounded file beyond ∧
    ((getMqttConfig file beyond serverIp serverPort (.replicate 24 0)).loaded = true →
      clientIdSetting.Reported file (getMqttConfig file beyond serverIp serverPort (.replicate 24 0)).clientId)

theorem given_of_configAccepted (accepted : configAccepted file beyond = true) : clientIdSetting.given file = true := by
  unfold configAccepted at accepted
  simp only [Bool.and_eq_true] at accepted
  exact accepted.2

theorem configExact_of_complete (fits : clientIdSetting.Fits file)
    (complete : ∀ beyond, configAccepted file beyond = true → clientIdSetting.Complete file) : ConfigExact file := by
  intro beyond serverIp serverPort
  refine ⟨StringSetting.bounded_iff.mpr fits beyond, fun loaded => ?_⟩
  rw [config_loaded fits] at loaded
  exact StringSetting.reported_of_complete (clientId_read serverIp serverPort) fits (given_of_configAccepted loaded)
    (complete beyond loaded)

theorem complete_of_configExact (exact : ConfigExact file) :
    clientIdSetting.Fits file ∧
      ∀ beyond, configAccepted file beyond = true → clientIdSetting.Continued file ∨ clientIdSetting.Complete file := by
  have fits : clientIdSetting.Fits file := StringSetting.bounded_iff.mp fun beyond => (exact beyond [] 0).1
  refine ⟨fits, fun beyond accepted => ?_⟩
  have reported := (exact beyond [] 0).2 ((config_loaded fits [] 0).trans accepted)
  exact StringSetting.complete_of_reported (clientId_read [] 0) fits (given_of_configAccepted accepted) reported

end Config

section Login

def usernameSetting : StringSetting := ⟨cUsername, 24, 128, by decide, by decide, by decide, by decide⟩

def passwordSetting : StringSetting := ⟨cPassword, 24, 128, by decide, by decide, by decide, by decide⟩

theorem username_read :
    ((getMqttLoginConfig file beyond (.replicate 24 0) (.replicate 24 0)).hasCUsername,
      (getMqttLoginConfig file beyond (.replicate 24 0) (.replicate 24 0)).username) =
        usernameSetting.read file beyond := by
  apply foldl_read usernameSetting MqttLogin.line (fun login => (login.hasCUsername, login.username)) rfl
  intro login buffer
  unfold StringSetting.line MqttLogin.line
  show _ = if cUsername.isPrefixOf buffer then _ else _
  split
  · rfl
  · split <;> rfl

theorem password_read :
    ((getMqttLoginConfig file beyond (.replicate 24 0) (.replicate 24 0)).hasCPassword,
      (getMqttLoginConfig file beyond (.replicate 24 0) (.replicate 24 0)).password) =
        passwordSetting.read file beyond := by
  apply foldl_read passwordSetting MqttLogin.line (fun login => (login.hasCPassword, login.password)) rfl
  intro login buffer
  unfold StringSetting.line MqttLogin.line
  by_cases username : cUsername.isPrefixOf buffer = true
  · rw [if_pos username, if_neg (isPrefixOf_apart _ (by decide) username)]
  · rw [if_neg username]
    show _ = if cPassword.isPrefixOf buffer then _ else _
    split <;> rfl

/-- `get_mqtt_login_config` copies no string that does not fit, and reports only complete ones. -/
def LoginExact (file : List UInt8) : Prop :=
  ∀ beyond, (usernameSetting.Bounded file beyond ∧ passwordSetting.Bounded file beyond) ∧
    ((getMqttLoginConfig file beyond (.replicate 24 0) (.replicate 24 0)).loaded = true →
      usernameSetting.Reported file (getMqttLoginConfig file beyond (.replicate 24 0) (.replicate 24 0)).username ∧
      passwordSetting.Reported file (getMqttLoginConfig file beyond (.replicate 24 0) (.replicate 24 0)).password)

theorem login_loaded (fits : usernameSetting.Fits file ∧ passwordSetting.Fits file) (beyond : List UInt8) :
    (getMqttLoginConfig file beyond (.replicate 24 0) (.replicate 24 0)).loaded = true ↔
      usernameSetting.given file = true ∧ passwordSetting.given file = true := by
  have username := (congrArg Prod.fst username_read).trans (StringSetting.read_given fits.1 beyond)
  have password := (congrArg Prod.fst password_read).trans (StringSetting.read_given fits.2 beyond)
  simp only at username password
  rw [MqttLogin.loaded, username, password, Bool.and_eq_true]

theorem loginExact_of_complete (fits : usernameSetting.Fits file ∧ passwordSetting.Fits file)
    (complete : usernameSetting.given file = true ∧ passwordSetting.given file = true →
      usernameSetting.Complete file ∧ passwordSetting.Complete file) : LoginExact file := by
  intro beyond
  refine ⟨⟨StringSetting.bounded_iff.mpr fits.1 beyond, StringSetting.bounded_iff.mpr fits.2 beyond⟩, fun read => ?_⟩
  have given := (login_loaded fits beyond).mp read
  exact ⟨StringSetting.reported_of_complete username_read fits.1 given.1 (complete given).1,
    StringSetting.reported_of_complete password_read fits.2 given.2 (complete given).2⟩

theorem complete_of_loginExact (exact : LoginExact file) :
    (usernameSetting.Fits file ∧ passwordSetting.Fits file) ∧
      (usernameSetting.given file = true ∧ passwordSetting.given file = true →
        (usernameSetting.Continued file ∨ usernameSetting.Complete file) ∧
          (passwordSetting.Continued file ∨ passwordSetting.Complete file)) := by
  have fits : usernameSetting.Fits file ∧ passwordSetting.Fits file :=
    ⟨StringSetting.bounded_iff.mp fun beyond => (exact beyond).1.1,
      StringSetting.bounded_iff.mp fun beyond => (exact beyond).1.2⟩
  refine ⟨fits, fun given => ?_⟩
  have reported := (exact []).2 ((login_loaded fits []).mpr given)
  exact ⟨StringSetting.complete_of_reported username_read fits.1 given.1 reported.1,
    StringSetting.complete_of_reported password_read fits.2 given.2 reported.2⟩

end Login

section Will

def willTopicSetting : StringSetting := ⟨wTopic, 255, 128, by decide, by decide, by decide, by decide⟩

def willMsgSetting : StringSetting := ⟨wMsg, 255, 128, by decide, by decide, by decide, by decide⟩

def willOf (file beyond : List UInt8) (willQos : UInt8) (willRetain : Bool) : WillConfig :=
  getMqttWill file beyond (.replicate 255 0) (.replicate 255 0) willQos willRetain

theorem willTopic_read (willQos : UInt8) (willRetain : Bool) :
    ((willOf file beyond willQos willRetain).hasWTopic, (willOf file beyond willQos willRetain).willTopic) =
      willTopicSetting.read file beyond := by
  apply foldl_read willTopicSetting WillConfig.line (fun will => (will.hasWTopic, will.willTopic)) rfl
  intro will buffer
  unfold StringSetting.line WillConfig.line
  show _ = if wTopic.isPrefixOf buffer then _ else _
  split
  · rfl
  · split
    · rfl
    · split
      · rfl
      · split
        · simp only
          split <;> rfl
        · rfl

theorem willMsg_read (willQos : UInt8) (willRetain : Bool) :
    ((willOf file beyond willQos willRetain).hasWMsg, (willOf file beyond willQos willRetain).willMsg) =
      willMsgSetting.read file beyond := by
  apply foldl_read willMsgSetting WillConfig.line (fun will => (will.hasWMsg, will.willMsg)) rfl
  intro will buffer
  unfold StringSetting.line WillConfig.line
  by_cases topic : wTopic.isPrefixOf buffer = true
  · rw [if_pos topic, if_neg (isPrefixOf_apart _ (by decide) topic)]
  · rw [if_neg topic]
    show _ = if wMsg.isPrefixOf buffer then _ else _
    split
    · rfl
    · split
      · rfl
      · split
        · simp only
          split <;> rfl
        · rfl

def retainAccepted (buffer : List UInt8) : Bool :=
  wRetain.isPrefixOf buffer && (parseUint8AfterSpace 0 buffer (lineLength buffer)).1 &&
    (parseUint8AfterSpace 0 buffer (lineLength buffer)).2 ≤ 1

/-- The last line of each setting is accepted; of the retain flag, any line. -/
def willAccepted (file beyond : List UInt8) : Bool :=
  willTopicSetting.given file && willMsgSetting.given file &&
    lastLine wQos (fun buffer => (parseUint8AfterSpace 0 buffer (lineLength buffer)).1) (buffers 128 file beyond) &&
    (buffers 128 file beyond).any retainAccepted

theorem willQos_read (willQos : UInt8) (willRetain : Bool) :
    (willOf file beyond willQos willRetain).hasWQos =
      lastLine wQos (fun buffer => (parseUint8AfterSpace 0 buffer (lineLength buffer)).1)
        (buffers 128 file beyond) := by
  apply foldl_lastLine WillConfig.line WillConfig.hasWQos rfl
  intro will buffer
  unfold WillConfig.line
  by_cases topic : wTopic.isPrefixOf buffer = true
  · rw [if_pos topic, if_neg (isPrefixOf_apart _ (by decide) topic)]
  rw [if_neg topic]
  by_cases message : wMsg.isPrefixOf buffer = true
  · rw [if_pos message, if_neg (isPrefixOf_apart _ (by decide) message)]
  rw [if_neg message]
  split
  · exact parseUint8_accepts _ _
  · split
    · simp only
      split <;> rfl
    · rfl

theorem willRetain_read (willQos : UInt8) (willRetain : Bool) :
    (willOf file beyond willQos willRetain).hasWRetain = (buffers 128 file beyond).any retainAccepted := by
  have step : ∀ (will : WillConfig) (buffer : List UInt8),
      (will.line buffer).hasWRetain = (will.hasWRetain || retainAccepted buffer) := by
    intro will buffer
    unfold WillConfig.line retainAccepted
    by_cases topic : wTopic.isPrefixOf buffer = true
    · simp [topic, isPrefixOf_apart wRetain (by decide) topic]
    by_cases message : wMsg.isPrefixOf buffer = true
    · simp [topic, message, isPrefixOf_apart wRetain (by decide) message]
    by_cases qos : wQos.isPrefixOf buffer = true
    · simp [topic, message, qos, isPrefixOf_apart wRetain (by decide) qos]
    by_cases retain : wRetain.isPrefixOf buffer = true
    · simp only [topic, message, qos, retain, Bool.false_eq_true, if_false, if_true, Bool.true_and]
      split
      · rename_i accepted
        rw [accepted, Bool.or_true]
      · rename_i refused
        rw [Bool.eq_false_iff.mpr refused, Bool.or_false]
    · simp [topic, message, qos, retain]
  unfold willOf getMqttWill
  induction buffers 128 file beyond using List.reverseRecOn with
  | nil => rfl
  | append_singleton buffers buffer ih =>
    rw [List.foldl_append, List.foldl_cons, List.foldl_nil, step, ih]
    simp

theorem will_loaded (fits : willTopicSetting.Fits file ∧ willMsgSetting.Fits file) (willQos : UInt8)
    (willRetain : Bool) : (willOf file beyond willQos willRetain).loaded = willAccepted file beyond := by
  have topic := (congrArg Prod.fst (willTopic_read willQos willRetain)).trans (StringSetting.read_given fits.1 beyond)
  have message := (congrArg Prod.fst (willMsg_read willQos willRetain)).trans (StringSetting.read_given fits.2 beyond)
  simp only at topic message
  rw [WillConfig.loaded, willAccepted, topic, message, willQos_read, willRetain_read]

/-- `get_mqtt_will` copies no string that does not fit, and reports only complete ones. -/
def WillExact (file : List UInt8) : Prop :=
  ∀ beyond willQos willRetain, (willTopicSetting.Bounded file beyond ∧ willMsgSetting.Bounded file beyond) ∧
    ((willOf file beyond willQos willRetain).loaded = true →
      willTopicSetting.Reported file (willOf file beyond willQos willRetain).willTopic ∧
      willMsgSetting.Reported file (willOf file beyond willQos willRetain).willMsg)

theorem given_of_willAccepted (accepted : willAccepted file beyond = true) :
    willTopicSetting.given file = true ∧ willMsgSetting.given file = true := by
  unfold willAccepted at accepted
  simp only [Bool.and_eq_true] at accepted
  exact accepted.1.1

theorem willExact_of_complete (fits : willTopicSetting.Fits file ∧ willMsgSetting.Fits file)
    (complete : ∀ beyond, willAccepted file beyond = true →
      willTopicSetting.Complete file ∧ willMsgSetting.Complete file) : WillExact file := by
  intro beyond willQos willRetain
  refine ⟨⟨StringSetting.bounded_iff.mpr fits.1 beyond, StringSetting.bounded_iff.mpr fits.2 beyond⟩, fun loaded => ?_⟩
  rw [will_loaded fits] at loaded
  have given := given_of_willAccepted loaded
  exact ⟨StringSetting.reported_of_complete (willTopic_read willQos willRetain) fits.1 given.1 (complete beyond loaded).1,
    StringSetting.reported_of_complete (willMsg_read willQos willRetain) fits.2 given.2 (complete beyond loaded).2⟩

theorem complete_of_willExact (exact : WillExact file) :
    (willTopicSetting.Fits file ∧ willMsgSetting.Fits file) ∧
      ∀ beyond, willAccepted file beyond = true →
        (willTopicSetting.Continued file ∨ willTopicSetting.Complete file) ∧
          (willMsgSetting.Continued file ∨ willMsgSetting.Complete file) := by
  have fits : willTopicSetting.Fits file ∧ willMsgSetting.Fits file :=
    ⟨StringSetting.bounded_iff.mp fun beyond => (exact beyond 0 false).1.1,
      StringSetting.bounded_iff.mp fun beyond => (exact beyond 0 false).1.2⟩
  refine ⟨fits, fun beyond accepted => ?_⟩
  have given := given_of_willAccepted accepted
  have reported := (exact beyond 0 false).2 ((will_loaded fits 0 false).trans accepted)
  exact ⟨StringSetting.complete_of_reported (willTopic_read 0 false) fits.1 given.1 reported.1,
    StringSetting.complete_of_reported (willMsg_read 0 false) fits.2 given.2 reported.2⟩

end Will

/-- The strings of a configuration are exact and bounded if no part of a line that is taken for one of them runs out
    of the line buffer or has a text that is too long, and, where a reader accepts the last line of each of its
    settings, its strings are complete; and only then, except for strings whose last part continues a line. -/
theorem stringSettings_exact (file : List UInt8) :
    ((clientIdSetting.Fits file ∧ ∀ beyond, configAccepted file beyond = true → clientIdSetting.Complete file) →
      ConfigExact file) ∧
    ((usernameSetting.Fits file ∧ passwordSetting.Fits file) ∧
        (usernameSetting.given file = true ∧ passwordSetting.given file = true →
          usernameSetting.Complete file ∧ passwordSetting.Complete file) → LoginExact file) ∧
    ((willTopicSetting.Fits file ∧ willMsgSetting.Fits file) ∧
        (∀ beyond, willAccepted file beyond = true →
          willTopicSetting.Complete file ∧ willMsgSetting.Complete file) → WillExact file) ∧
    (ConfigExact file → clientIdSetting.Fits file ∧
      ∀ beyond, configAccepted file beyond = true → clientIdSetting.Continued file ∨ clientIdSetting.Complete file) ∧
    (LoginExact file → (usernameSetting.Fits file ∧ passwordSetting.Fits file) ∧
      (usernameSetting.given file = true ∧ passwordSetting.given file = true →
        (usernameSetting.Continued file ∨ usernameSetting.Complete file) ∧
          (passwordSetting.Continued file ∨ passwordSetting.Complete file))) ∧
    (WillExact file → (willTopicSetting.Fits file ∧ willMsgSetting.Fits file) ∧
      ∀ beyond, willAccepted file beyond = true →
        (willTopicSetting.Continued file ∨ willTopicSetting.Complete file) ∧
          (willMsgSetting.Continued file ∨ willMsgSetting.Complete file)) :=
  ⟨fun condition => configExact_of_complete condition.1 condition.2,
    fun condition => loginExact_of_complete condition.1 condition.2,
    fun condition => willExact_of_complete condition.1 condition.2,
    complete_of_configExact, complete_of_loginExact, complete_of_willExact⟩

end Readers

namespace Scenario

/-- All strings, a user name and a password again, and a client id of 23 bytes. -/
def allStrings : List UInt8 :=
  joined 10 [bAddr ++ ascii [' ', '1', '0', '.', '0', '.', '0', '.', '1', '1'], bPort ++ ascii [' ', '1', '8', '8', '3'],
    cId ++ 32 :: List.replicate 23 120, cUsername ++ ascii [' ', 'u'], cPassword ++ ascii [' ', 'p'],
    cUsername ++ ascii [' ', 'u', 's', 'e', 'r'], cPassword ++ ascii [' ', 'p', 'a', 's', 's'],
    wTopic ++ ascii [' ', 't', '/', 'u'], wMsg ++ ascii [' ', 'g', 'o', 'n', 'e'], wQos ++ ascii [' ', '1'],
    wRetain ++ ascii [' ', '0']]

theorem stringSettings_exact_allStrings : ConfigExact allStrings ∧ LoginExact allStrings ∧ WillExact allStrings := by
  obtain ⟨config, login, will, _⟩ := stringSettings_exact allStrings
  refine ⟨config ⟨?_, ?_⟩, login ⟨?_, ?_⟩, will ⟨?_, ?_⟩⟩
  · decide +kernel
  · exact fun _ _ => by decide +kernel
  · decide +kernel
  · exact fun _ => by decide +kernel
  · decide +kernel
  · exact fun _ _ => by decide +kernel

def longClientId : List UInt8 := cId ++ 32 :: List.replicate 24 120

def passwordTwice : List UInt8 :=
  joined 10 [cUsername ++ ascii [' ', 'u'], cPassword ++ ascii [' ', 'a', 'b'], cPassword ++ ascii [' ', 'c']]

def wideTopic : List UInt8 := wTopic ++ 32 :: List.replicate 118 120

/-- The client id is copied without room for its terminator, the password is read as `cb`, and the line of the
    will topic runs into the memory behind its buffer. -/
theorem strings_misread : ¬ ConfigExact longClientId ∧ ¬ LoginExact passwordTwice ∧ ¬ WillExact wideTopic := by
  refine ⟨?_, ?_, ?_⟩
  · intro exact
    have first : (clientIdSetting.pieces longClientId).head?.map (clientIdSetting.copied []) =
        some (some (List.replicate 24 120)) := by decide +kernel
    obtain ⟨piece, found, text⟩ := Option.map_eq_some_iff.mp first
    have short := (exact [] [] 0).1 piece (List.mem_of_head? found) _ text
    exact absurd short (by decide)
  · intro exact
    have loaded : (getMqttLoginConfig passwordTwice [] (.replicate 24 0) (.replicate 24 0)).loaded = true := by
      decide +kernel
    obtain ⟨piece, final, complete, _⟩ := ((exact []).2 loaded).2
    have line : (passwordSetting.pieces passwordTwice).getLast?.map Piece.whole =
        some (cPassword ++ ascii [' ', 'c']) := by decide +kernel
    rw [final] at line
    rw [Option.some.inj line] at complete
    have reported : (CString.ofMemory
        (getMqttLoginConfig passwordTwice [] (.replicate 24 0) (.replicate 24 0)).password).bytes =
          ascii ['c', 'b'] := by decide +kernel
    rw [reported] at complete
    exact absurd complete (by decide)
  · intro exact
    have fits := (complete_of_willExact exact).1.1
    have first : (willTopicSetting.pieces wideTopic).head?.map Piece.bytes = some wideTopic := by decide +kernel
    obtain ⟨piece, found, bytes⟩ := Option.map_eq_some_iff.mp first
    have unterminated : piece.bytes.length = 128 ∧ 0 ∉ piece.bytes := by
      rw [bytes]
      decide +kernel
    exact (fits piece (List.mem_of_head? found)).1 unterminated

end Scenario

end MqttSnGateway
