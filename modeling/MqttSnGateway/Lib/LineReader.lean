import Mathlib.Data.List.Basic
import Mathlib.Data.List.TakeWhile

namespace LineReader

variable {α : Type}

def joined (terminator : α) (texts : List (List α)) : List α := [terminator].intercalate texts

theorem joined_cons (terminator : α) (text next : List α) (texts : List (List α)) :
    joined terminator (text :: next :: texts) = text ++ terminator :: joined terminator (next :: texts) := by
  unfold joined
  rw [List.intercalate_cons_cons, List.append_assoc]
  rfl

variable [DecidableEq α]

/-- The next elements up to the terminator, which is taken and dropped, or until the buffer is full, and what
    is left of the input. -/
def readUntil (terminator : α) : Nat → List α → List α × List α
  | 0, input => ([], input)
  | _ + 1, [] => ([], [])
  | size + 1, element :: input =>
    if element = terminator then ([], input)
    else (element :: (readUntil terminator size input).1, (readUntil terminator size input).2)

/-- What a loop reads that ends with the first empty line. -/
def linesWithin (terminator : α) (size : Nat) : Nat → List α → List (List α)
  | 0, _ => []
  | fuel + 1, input =>
    if (readUntil terminator size input).1 = [] then []
    else (readUntil terminator size input).1 :: linesWithin terminator size fuel (readUntil terminator size input).2

/-- Every line that is read takes something of the input, so its length is enough fuel. -/
def lines (terminator : α) (size : Nat) (input : List α) : List (List α) :=
  linesWithin terminator size (input.length + 1) input

variable {terminator : α} {size : Nat} {line rest input : List α}

theorem readUntil_terminated (plain : terminator ∉ line) (short : line.length < size) :
    readUntil terminator size (line ++ terminator :: rest) = (line, rest) := by
  induction line generalizing size with
  | nil =>
    cases size with
    | zero => exact absurd short (Nat.lt_irrefl 0)
    | succ size => exact if_pos rfl
  | cons element line ih =>
    rcases List.ne_and_not_mem_of_not_mem_cons plain with ⟨other, plain⟩
    cases size with
    | zero => exact absurd short (Nat.not_lt_zero _)
    | succ size =>
      have read := ih plain (Nat.lt_of_succ_lt_succ short)
      rw [List.cons_append, readUntil, if_neg other.symm, read]

theorem readUntil_last (plain : terminator ∉ line) (short : line.length ≤ size) :
    readUntil terminator size line = (line, []) := by
  induction line generalizing size with
  | nil => cases size <;> rfl
  | cons element line ih =>
    rcases List.ne_and_not_mem_of_not_mem_cons plain with ⟨other, plain⟩
    cases size with
    | zero => exact absurd short (Nat.not_succ_le_zero _)
    | succ size =>
      have read := ih plain (Nat.le_of_succ_le_succ short)
      rw [readUntil, if_neg other.symm, read]

/-- A line that fills the buffer is cut, and its rest stays in the input. -/
theorem readUntil_long (plain : terminator ∉ line) (long : size ≤ line.length) :
    readUntil terminator size (line ++ rest) = (line.take size, line.drop size ++ rest) := by
  induction line generalizing size with
  | nil =>
    obtain rfl := Nat.le_zero.mp long
    rfl
  | cons element line ih =>
    rcases List.ne_and_not_mem_of_not_mem_cons plain with ⟨other, plain⟩
    cases size with
    | zero => rfl
    | succ size =>
      have read := ih plain (Nat.le_of_succ_le_succ long)
      rw [List.cons_append, readUntil, if_neg other.symm, read]
      rfl

/-- What is read is a part of the input without terminator, which follows it if the buffer is not full. -/
theorem readUntil_cases (terminator : α) (size : Nat) (input : List α) :
    terminator ∉ (readUntil terminator size input).1 ∧
      ((readUntil terminator size input).1.length = size ∧
          input = (readUntil terminator size input).1 ++ (readUntil terminator size input).2 ∨
        (readUntil terminator size input).1.length < size ∧
          (input = (readUntil terminator size input).1 ++ terminator :: (readUntil terminator size input).2 ∨
            input = (readUntil terminator size input).1 ∧ (readUntil terminator size input).2 = [])) := by
  induction size generalizing input with
  | zero => exact ⟨List.not_mem_nil, .inl ⟨rfl, rfl⟩⟩
  | succ size ih =>
    cases input with
    | nil => exact ⟨List.not_mem_nil, .inr ⟨Nat.succ_pos size, .inr ⟨rfl, rfl⟩⟩⟩
    | cons element input =>
      by_cases ends : element = terminator
      · rw [readUntil, if_pos ends]
        exact ⟨List.not_mem_nil, .inr ⟨Nat.succ_pos size, .inl (congrArg (· :: input) ends)⟩⟩
      · rw [readUntil, if_neg ends]
        rcases ih input with ⟨plain, cases⟩
        refine ⟨List.not_mem_cons_of_ne_of_not_mem (Ne.symm ends) plain, ?_⟩
        rcases cases with ⟨full, whole⟩ | ⟨short, whole | ⟨whole, last⟩⟩
        · exact .inl ⟨congrArg Nat.succ full, congrArg (element :: ·) whole⟩
        · exact .inr ⟨Nat.succ_lt_succ short, .inl (congrArg (element :: ·) whole)⟩
        · exact .inr ⟨Nat.succ_lt_succ short, .inr ⟨congrArg (element :: ·) whole, last⟩⟩

theorem length_rest_lt (read : (readUntil terminator size input).1 ≠ []) :
    (readUntil terminator size input).2.length < input.length := by
  have some := List.length_pos_iff.mpr read
  rcases (readUntil_cases terminator size input).2 with ⟨_, whole⟩ | ⟨_, whole | ⟨whole, last⟩⟩
  · have lengths := congrArg List.length whole
    rw [List.length_append] at lengths
    omega
  · have lengths := congrArg List.length whole
    rw [List.length_append, List.length_cons] at lengths
    omega
  · have lengths := congrArg List.length whole
    rw [last, List.length_nil]
    omega

theorem linesWithin_fuel {fuel : Nat} (enough : input.length < fuel) :
    linesWithin terminator size fuel input = lines terminator size input := by
  have agree : ∀ fuel other input, input.length < fuel → input.length < other →
      linesWithin terminator size fuel input = linesWithin terminator size other input := by
    intro fuel
    induction fuel with
    | zero => omega
    | succ fuel ih =>
      intro other input enough more
      cases other with
      | zero => omega
      | succ other =>
        unfold linesWithin
        split
        · rfl
        · rename_i read
          have shorter := length_rest_lt read
          rw [ih other _ (by omega) (by omega)]
  exact agree _ _ _ enough (Nat.lt_succ_self _)

theorem lines_eq (terminator : α) (size : Nat) (input : List α) :
    lines terminator size input =
      if (readUntil terminator size input).1 = [] then []
      else (readUntil terminator size input).1 :: lines terminator size (readUntil terminator size input).2 := by
  rw [lines, linesWithin]
  split
  · rfl
  · rename_i read
    rw [linesWithin_fuel (length_rest_lt read)]

theorem lines_nil : lines terminator size [] = [] := by
  rw [lines_eq]
  cases size <;> rfl

/-- An empty line ends the loop as the end of the input does. -/
theorem lines_blank (rest : List α) : lines terminator size (terminator :: rest) = [] := by
  rw [lines_eq]
  cases size with
  | zero => rfl
  | succ size => simp [readUntil]

theorem lines_terminated (plain : terminator ∉ line) (some : line ≠ []) (short : line.length < size) :
    lines terminator size (line ++ terminator :: rest) = line :: lines terminator size rest := by
  rw [lines_eq, readUntil_terminated plain short, if_neg some]

theorem lines_last (plain : terminator ∉ line) (some : line ≠ []) (short : line.length ≤ size) :
    lines terminator size line = [line] := by
  rw [lines_eq, readUntil_last plain short, if_neg some, lines_nil]

theorem lines_long (plain : terminator ∉ line) (long : size ≤ line.length) (room : size ≠ 0) (rest : List α) :
    lines terminator size (line ++ rest) =
      line.take size :: lines terminator size (line.drop size ++ rest) := by
  have some : line.take size ≠ [] := by
    intro none
    have lengths := congrArg List.length none
    rw [List.length_take, List.length_nil] at lengths
    omega
  rw [lines_eq, readUntil_long plain long, if_neg some]

section Joined

variable {texts : List (List α)}

theorem lines_joined_blank : lines terminator size (joined terminator ([] :: texts)) = [] := by
  cases texts with
  | nil => exact lines_nil
  | cons next texts =>
    rw [joined_cons]
    exact lines_blank _

theorem lines_joined_short (plain : terminator ∉ line) (some : line ≠ []) (short : line.length < size)
    (texts : List (List α)) :
    lines terminator size (joined terminator (line :: texts)) =
      line :: lines terminator size (joined terminator texts) := by
  cases texts with
  | nil =>
    rw [joined, List.intercalate_singleton, joined, List.intercalate_nil, lines_nil]
    exact lines_last plain some (Nat.le_of_lt short)
  | cons next texts =>
    rw [joined_cons]
    exact lines_terminated plain some short

/-- Whatever its length, a line is read into the same parts wherever it stands, and the same lines end the loop. -/
theorem lines_joined_cons (size : Nat) (plain : terminator ∉ line) :
    ∃ parts ends, ∀ texts, lines terminator size (joined terminator (line :: texts)) =
      parts ++ bif ends then [] else lines terminator size (joined terminator texts) := by
  have cut : ∃ parts ends, lines terminator size line = parts ∧
      ∀ rest, lines terminator size (line ++ terminator :: rest) =
        parts ++ bif ends then [] else lines terminator size rest := by
    induction counted : line.length using Nat.strongRecOn generalizing line with
    | _ n ih =>
      by_cases none : line = []
      · subst none
        exact ⟨[], true, lines_nil, fun rest => lines_blank rest⟩
      by_cases short : line.length < size
      · exact ⟨[line], false, lines_last plain none (Nat.le_of_lt short), fun rest => lines_terminated plain none short⟩
      by_cases room : size = 0
      · subst room
        refine ⟨[], true, ?_, fun rest => ?_⟩
        all_goals
          rw [lines_eq]
          rfl
      have shorter : (line.drop size).length < n := by
        rw [List.length_drop]
        omega
      have left : terminator ∉ line.drop size := fun member => plain (List.mem_of_mem_drop member)
      obtain ⟨parts, ends, last, followed⟩ := ih _ shorter left rfl
      refine ⟨line.take size :: parts, ends, ?_, fun rest => ?_⟩
      · have read := lines_long plain (Nat.le_of_not_lt short) room []
        rw [List.append_nil, List.append_nil, last] at read
        exact read
      · rw [lines_long plain (Nat.le_of_not_lt short) room, followed]
        rfl
  obtain ⟨parts, ends, last, followed⟩ := cut
  refine ⟨parts, ends, fun texts => ?_⟩
  cases texts with
  | nil =>
    rw [joined, List.intercalate_singleton, last, joined, List.intercalate_nil, lines_nil]
    cases ends <;> simp
  | cons next texts =>
    rw [joined_cons]
    exact followed _

/-- Lines that fit into the buffer can be taken out of the input without an effect on how the others are read. -/
theorem lines_joined_filter (terminator : α) (size : Nat) (keep : List α → Bool)
    (plain : ∀ text ∈ texts, terminator ∉ text)
    (short : ∀ text ∈ texts, keep text = false → text ≠ [] ∧ text.length < size) :
    (lines terminator size (joined terminator texts)).filter keep =
      (lines terminator size (joined terminator (texts.filter keep))).filter keep := by
  induction texts with
  | nil => rfl
  | cons text texts ih =>
    have rest := ih (fun text member => plain text (List.mem_cons_of_mem _ member))
      (fun text member => short text (List.mem_cons_of_mem _ member))
    have here := plain text List.mem_cons_self
    cases kept : keep text with
    | false =>
      rcases short text List.mem_cons_self kept with ⟨some, fits⟩
      rw [lines_joined_short here some fits texts, List.filter_cons_of_neg (by simp [kept]),
        List.filter_cons_of_neg (by simp [kept])]
      exact rest
    | true =>
      obtain ⟨parts, ends, read⟩ := lines_joined_cons size here
      rw [List.filter_cons_of_pos kept, read, read, List.filter_append, List.filter_append]
      cases ends with
      | true => rfl
      | false => exact congrArg (_ ++ ·) rest

end Joined

section Pieces

/-- A part that was read, with what belongs to the same line in front of it and after it. -/
structure Piece (α : Type) where
  before : List α
  bytes : List α
  after : List α

def Piece.whole (piece : Piece α) : List α := piece.before ++ piece.bytes ++ piece.after

/-- The loop, with the part of the current line that has been read already. A full buffer does not end a line. -/
def piecesWithin (terminator : α) (size : Nat) : Nat → List α → List α → List (Piece α)
  | 0, _, _ => []
  | fuel + 1, before, input =>
    let read := readUntil terminator size input
    if read.1 = [] then []
    else if read.1.length = size then
      ⟨before, read.1, read.2.takeWhile (· ≠ terminator)⟩ ::
        piecesWithin terminator size fuel (before ++ read.1) read.2
    else ⟨before, read.1, []⟩ :: piecesWithin terminator size fuel [] read.2

/-- What `lines` reads, with the lines that the parts belong to. -/
def pieces (terminator : α) (size : Nat) (input : List α) : List (Piece α) :=
  piecesWithin terminator size (input.length + 1) [] input

variable {piece : Piece α}

theorem bytes_pieces : (pieces terminator size input).map Piece.bytes = lines terminator size input := by
  have agree : ∀ fuel before input,
      (piecesWithin terminator size fuel before input).map Piece.bytes = linesWithin terminator size fuel input := by
    intro fuel
    induction fuel with
    | zero => exact fun _ _ => rfl
    | succ fuel ih =>
      intro before input
      unfold piecesWithin linesWithin
      simp only
      split
      · rfl
      · split <;> rw [List.map_cons, ih]
  exact agree _ _ _

theorem piecesWithin_nil (fuel : Nat) (before : List α) : piecesWithin terminator size fuel before [] = [] := by
  cases fuel with
  | zero => rfl
  | succ fuel => cases size <;> rfl

theorem takeWhile_mem_splitOn (plain : terminator ∉ line) (rest : List α) :
    line ++ rest.takeWhile (· ≠ terminator) ∈ (line ++ rest).splitOn terminator := by
  have others : ∀ front : List α, terminator ∉ front → ∀ element ∈ front, decide (element ≠ terminator) = true := by
    intro front free element member
    have other : element ≠ terminator := fun same => free (same ▸ member)
    simpa using other
  by_cases further : terminator ∈ rest
  · obtain ⟨front, tail, whole, free⟩ := List.eq_append_cons_of_mem further
    have cut : rest.takeWhile (· ≠ terminator) = front := by
      rw [whole, List.takeWhile_append_of_pos (others front free), List.takeWhile_cons_of_neg (by simp),
        List.append_nil]
    rw [cut, whole, ← List.append_assoc, List.splitOn_append_cons_of_beq _ _ (beq_self_eq_true terminator),
      List.splitOn_eq_singleton (List.not_mem_append plain free)]
    exact List.mem_append_left _ (List.mem_singleton.mpr rfl)
  · rw [List.takeWhile_eq_self_iff.mpr (others rest further),
      List.splitOn_eq_singleton (List.not_mem_append plain further)]
    exact List.mem_singleton.mpr rfl

/-- Every part that is read is a part of one line of the input, not longer than the buffer, and if it does not fill
    the buffer the line ends with it. -/
theorem pieces_cases (found : piece ∈ pieces terminator size input) :
    piece.whole ∈ input.splitOn terminator ∧ terminator ∉ piece.bytes ∧
      (piece.bytes.length = size ∨ piece.bytes.length < size ∧ piece.after = []) := by
  have holds : ∀ fuel before input, terminator ∉ before → piece ∈ piecesWithin terminator size fuel before input →
      piece.whole ∈ (before ++ input).splitOn terminator ∧ terminator ∉ piece.bytes ∧
        (piece.bytes.length = size ∨ piece.bytes.length < size ∧ piece.after = []) := by
    intro fuel
    induction fuel with
    | zero =>
      intro before input _ found
      cases found
    | succ fuel ih =>
      intro before input free found
      rcases readUntil_cases terminator size input with ⟨plain, cases⟩
      unfold piecesWithin at found
      simp only at found
      split at found
      · cases found
      have unbroken := List.not_mem_append free plain
      split at found
      · rename_i full
        have whole : input = (readUntil terminator size input).1 ++ (readUntil terminator size input).2 := by
          rcases cases with ⟨_, whole⟩ | ⟨short, _⟩
          · exact whole
          · omega
        have joined : before ++ input =
            before ++ (readUntil terminator size input).1 ++ (readUntil terminator size input).2 :=
          (congrArg (before ++ ·) whole).trans (List.append_assoc _ _ _).symm
        rw [joined]
        rcases List.mem_cons.mp found with rfl | found
        · exact ⟨takeWhile_mem_splitOn unbroken _, plain, .inl full⟩
        · exact ih _ _ unbroken found
      · rename_i other
        rcases cases with ⟨full, _⟩ | ⟨short, ⟨whole⟩ | ⟨whole, last⟩⟩
        · exact absurd full other
        · have split : (before ++ input).splitOn terminator =
              (before ++ (readUntil terminator size input).1) ::
                (readUntil terminator size input).2.splitOn terminator := by
            have joined : before ++ input =
                before ++ (readUntil terminator size input).1 ++ terminator :: (readUntil terminator size input).2 :=
              (congrArg (before ++ ·) whole).trans (List.append_assoc _ _ _).symm
            rw [joined, List.splitOn_append_cons_of_beq _ _ (beq_self_eq_true terminator),
              List.splitOn_eq_singleton unbroken]
            rfl
          rw [split]
          rcases List.mem_cons.mp found with rfl | found
          · refine ⟨?_, plain, .inr ⟨short, rfl⟩⟩
            rw [Piece.whole, List.append_nil]
            exact List.mem_cons_self
          · have later := ih _ _ List.not_mem_nil found
            exact ⟨List.mem_cons_of_mem _ later.1, later.2⟩
        · rw [last] at found
          rcases List.mem_cons.mp found with rfl | found
          · refine ⟨?_, plain, .inr ⟨short, rfl⟩⟩
            rw [Piece.whole, List.append_nil, ← whole]
            rw [← whole] at unbroken
            rw [List.splitOn_eq_singleton unbroken]
            exact List.mem_singleton.mpr rfl
          · rw [piecesWithin_nil] at found
            cases found
  exact holds _ _ _ List.not_mem_nil found

end Pieces

end LineReader
