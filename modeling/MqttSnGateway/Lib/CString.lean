import Mathlib.Algebra.Group.Nat.Defs
import Mathlib.Data.List.TakeWhile

/-- A zero-terminated byte string without its terminator. -/
structure CString where
  bytes : List UInt8
  nonzero : (0 : UInt8) ∉ bytes
deriving DecidableEq

namespace CString

def empty : CString := ⟨[], by simp⟩

def length (s : CString) : Nat := s.bytes.length

@[ext] theorem ext {s t : CString} (same : s.bytes = t.bytes) : s = t := by
  cases s
  cases t
  simp only at same
  subst same
  rfl

theorem length_eq_zero {s : CString} : s.length = 0 ↔ s = empty := by
  constructor
  · intro none
    exact ext (List.length_eq_zero_iff.mp none)
  · rintro rfl
    rfl

@[simp] theorem length_empty : empty.length = 0 := rfl

/-- The string a pointer to `memory` denotes: every byte in front of the first zero. -/
def ofMemory (memory : List UInt8) : CString :=
  ⟨memory.takeWhile (· != 0), by
    intro member
    have nonzero := List.mem_takeWhile_imp member
    simp at nonzero⟩

theorem ofMemory_terminated (s : CString) (rest : List UInt8) : ofMemory (s.bytes ++ 0 :: rest) = s := by
  have others : ∀ byte ∈ s.bytes, (byte != 0) = true := by
    intro byte member
    have nonzero : byte ≠ 0 := by
      rintro rfl
      exact s.nonzero member
    simpa using nonzero
  apply ext
  show (s.bytes ++ 0 :: rest).takeWhile (· != 0) = s.bytes
  rw [List.takeWhile_append_of_pos others, List.takeWhile_cons_of_neg (by simp), List.append_nil]

/-- As many bytes as a string has are the string if they are its bytes. -/
theorem ofMemory_eq_iff {s : CString} {stored : List UInt8} (rest : List UInt8) (length : stored.length = s.length) :
    ofMemory (stored ++ 0 :: rest) = s ↔ stored = s.bytes := by
  constructor
  · intro read
    have cut : (ofMemory (stored ++ 0 :: rest)).bytes = stored.takeWhile (· != 0) := by
      show (stored ++ 0 :: rest).takeWhile (· != 0) = _
      rw [List.takeWhile_append]
      split
      · rename_i whole
        rw [List.takeWhile_cons_of_neg (by simp), List.append_nil]
        exact ((List.takeWhile_prefix _).eq_of_length whole).symm
      · rfl
    rw [read] at cut
    have whole : (stored.takeWhile (· != 0)).length = stored.length := by
      rw [← cut, length]
      rfl
    rw [cut]
    exact ((List.takeWhile_prefix _).eq_of_length whole).symm
  · intro same
    rw [same]
    exact ofMemory_terminated s rest

/-- A string ends among the first bytes of its memory if one of them is zero. -/
theorem length_ofMemory_lt {memory : List UInt8} {n : Nat} (inside : n ≤ memory.length) :
    (ofMemory memory).length < n ↔ ∃ i < n, memory.getD i 0 = 0 := by
  induction memory generalizing n with
  | nil =>
    rw [List.length_nil, Nat.le_zero] at inside
    subst inside
    simp
  | cons byte rest ih =>
    cases n with
    | zero => simp
    | succ n =>
      rw [List.length_cons] at inside
      by_cases ends : byte = 0
      · subst ends
        exact iff_of_true (Nat.succ_pos n) ⟨0, Nat.succ_pos n, rfl⟩
      · have longer : (ofMemory (byte :: rest)).length = (ofMemory rest).length + 1 := by
          unfold ofMemory length
          simp [ends]
        rw [longer, Nat.succ_lt_succ_iff, ih (by omega)]
        constructor
        · rintro ⟨i, before, zero⟩
          exact ⟨i + 1, by omega, by simpa using zero⟩
        · rintro ⟨i, before, zero⟩
          cases i with
          | zero => exact absurd (by simpa using zero) ends
          | succ i => exact ⟨i, by omega, by simpa using zero⟩

/-- The last `width` decimal digits of `n`, as `sprintf` with a zero-padded width prints a number that fits. -/
def digits : Nat → Nat → List UInt8
  | 0, _ => []
  | width + 1, n => digits width (n / 10) ++ [UInt8.ofNat (48 + n % 10)]

theorem digit_toNat (n : Nat) : (UInt8.ofNat (48 + n % 10)).toNat = 48 + n % 10 := by
  rw [UInt8.toNat_ofNat']
  omega

theorem zero_not_mem_digits (width n : Nat) : (0 : UInt8) ∉ digits width n := by
  induction width generalizing n with
  | zero => simp [digits]
  | succ width ih =>
    simp only [digits, List.mem_append, List.mem_singleton, not_or]
    refine ⟨ih _, ?_⟩
    intro zero
    have value := congrArg UInt8.toNat zero
    rw [digit_toNat, UInt8.toNat_zero] at value
    omega

/-- `sprintf` of an unsigned number with format `%0<width>d`. -/
def padded (width n : Nat) : CString := ⟨digits width n, zero_not_mem_digits width n⟩

@[simp] theorem length_digits (width n : Nat) : (digits width n).length = width := by
  induction width generalizing n with
  | zero => rfl
  | succ width ih => simp [digits, ih]

def isDigit (byte : UInt8) : Bool := 48 ≤ byte.toNat && byte.toNat ≤ 57

def digitsValue (bytes : List UInt8) : Nat :=
  bytes.foldl (fun value byte => 10 * value + (byte.toNat - 48)) 0

def isSpace (byte : UInt8) : Bool := byte.toNat = 32 || (9 ≤ byte.toNat && byte.toNat ≤ 13)

/-- `atoi`: blanks, an optional sign and the longest run of digits that follows. -/
def atoi (s : CString) : Int :=
  match s.bytes.dropWhile isSpace with
  | 45 :: rest => -(digitsValue (rest.takeWhile isDigit) : Int)
  | 43 :: rest => digitsValue (rest.takeWhile isDigit)
  | rest => digitsValue (rest.takeWhile isDigit)

theorem isDigit_of_mem_digits {width n : Nat} {byte : UInt8} (member : byte ∈ digits width n) :
    isDigit byte = true := by
  induction width generalizing n with
  | zero => simp [digits] at member
  | succ width ih =>
    simp only [digits, List.mem_append, List.mem_singleton] at member
    rcases member with member | rfl
    · exact ih member
    · simp only [isDigit, digit_toNat, Bool.and_eq_true, decide_eq_true_eq]
      omega

theorem digitsValue_digits (width n : Nat) (fits : n < 10 ^ width) : digitsValue (digits width n) = n := by
  induction width generalizing n with
  | zero =>
    have zero : n = 0 := by simpa using fits
    subst zero
    rfl
  | succ width ih =>
    have smaller : n / 10 < 10 ^ width := by
      rw [Nat.pow_succ] at fits
      omega
    have prior := ih _ smaller
    unfold digitsValue at prior ⊢
    rw [digits, List.foldl_append, prior]
    simp only [List.foldl_cons, List.foldl_nil, digit_toNat]
    omega

theorem bytes_ofMemory {memory : List UInt8} (nonzero : 0 ∉ memory) : (ofMemory memory).bytes = memory := by
  apply List.takeWhile_eq_self_iff.mpr
  intro byte member
  have other : byte ≠ 0 := fun zero => nonzero (zero ▸ member)
  simpa using other

theorem atoi_digits {s : CString} (digit : ∀ byte ∈ s.bytes, isDigit byte = true) : atoi s = digitsValue s.bytes := by
  have run : s.bytes.takeWhile isDigit = s.bytes := List.takeWhile_eq_self_iff.mpr digit
  unfold atoi
  cases split : s.bytes with
  | nil => rfl
  | cons head tail =>
    have first := digit head (by rw [split]; exact List.mem_cons_self)
    rw [split] at run
    simp only [isDigit, Bool.and_eq_true, decide_eq_true_eq] at first
    have plain : isSpace head = false := by
      simp only [isSpace, Bool.or_eq_false_iff, Bool.and_eq_false_iff, decide_eq_false_iff_not]
      omega
    rw [List.dropWhile_cons_of_neg (by simp [plain])]
    split
    · rename_i minus
      obtain rfl := (List.cons.inj minus).1
      exact absurd first.1 (by decide)
    · rename_i plus
      obtain rfl := (List.cons.inj plus).1
      exact absurd first.1 (by decide)
    · rw [run]

/-- Scanning back what was printed gives the number, so printed numbers are distinct. -/
theorem atoi_padded (width n : Nat) (fits : n < 10 ^ width) : atoi (padded width n) = n := by
  have value : digitsValue (padded width n).bytes = n := digitsValue_digits width n fits
  rw [atoi_digits fun _ member => isDigit_of_mem_digits member, value]

theorem padded_inj {width m n : Nat} (hm : m < 10 ^ width) (hn : n < 10 ^ width)
    (same : padded width m = padded width n) : m = n := by
  have values := congrArg atoi same
  rw [atoi_padded width m hm, atoi_padded width n hn] at values
  exact Int.ofNat.inj values

theorem padded_ne_empty {width n : Nat} (wide : 0 < width) : padded width n ≠ empty := by
  intro same
  have lengths := congrArg CString.length same
  simp only [length, padded, length_digits, empty, List.length_nil] at lengths
  omega

@[simp] theorem atoi_empty : atoi empty = 0 := rfl

/-- The next token of `strtok` and what a later call continues with. -/
def strtok (separator : UInt8) (bytes : List UInt8) : Option (List UInt8 × List UInt8) :=
  let rest := bytes.dropWhile (· = separator)
  if rest = [] then none
  else some (rest.takeWhile (· ≠ separator), (rest.dropWhile (· ≠ separator)).drop 1)

/-- All tokens that `strtok` finds: separators in a row count as one. -/
def tokens (separator : UInt8) (bytes : List UInt8) : List (List UInt8) :=
  (bytes.splitOn separator).filter (· ≠ [])

section Tokens

variable {separator : UInt8} {token rest bytes : List UInt8}

theorem strtok_separator (bytes : List UInt8) : strtok separator (separator :: bytes) = strtok separator bytes := by
  unfold strtok
  rw [List.dropWhile_cons_of_pos (by simp)]

theorem tokens_separator (bytes : List UInt8) : tokens separator (separator :: bytes) = tokens separator bytes := by
  unfold tokens
  rw [List.splitOn_cons_eq_if_modifyHead, if_pos (by simp), List.filter_cons_of_neg (by simp)]

theorem takeWhile_token (plain : separator ∉ token) (rest : List UInt8) :
    (token ++ rest).takeWhile (· ≠ separator) = token ++ rest.takeWhile (· ≠ separator) ∧
      (token ++ rest).dropWhile (· ≠ separator) = rest.dropWhile (· ≠ separator) := by
  have others : ∀ byte ∈ token, decide (byte ≠ separator) = true := by
    intro byte member
    have other : byte ≠ separator := fun same => plain (same ▸ member)
    simpa using other
  exact ⟨List.takeWhile_append_of_pos others, List.dropWhile_append_of_pos others⟩

theorem dropWhile_token (plain : separator ∉ token) (some : token ≠ []) (rest : List UInt8) :
    (token ++ rest).dropWhile (· = separator) = token ++ rest := by
  cases token with
  | nil => exact absurd rfl some
  | cons byte token =>
    rcases List.ne_and_not_mem_of_not_mem_cons plain with ⟨other, _⟩
    rw [List.cons_append, List.dropWhile_cons_of_neg (by simpa using other.symm)]

theorem strtok_token (plain : separator ∉ token) (some : token ≠ []) (rest : List UInt8) :
    strtok separator (token ++ separator :: rest) = .some (token, rest) := by
  rcases takeWhile_token plain (separator :: rest) with ⟨taken, dropped⟩
  unfold strtok
  simp only
  rw [dropWhile_token plain some, if_neg (by simp), taken, dropped, List.takeWhile_cons_of_neg (by simp),
    List.dropWhile_cons_of_neg (by simp), List.append_nil]
  rfl

theorem strtok_last (plain : separator ∉ token) (some : token ≠ []) :
    strtok separator token = .some (token, []) := by
  rcases takeWhile_token plain [] with ⟨taken, dropped⟩
  have whole := dropWhile_token plain some []
  rw [List.append_nil] at taken dropped whole
  unfold strtok
  simp only
  rw [whole, if_neg some, taken, dropped]
  simp

@[simp] theorem strtok_nil : strtok separator [] = none := rfl

/-- Either nothing but separators is left, or a first token and what follows it. -/
theorem strtok_cases (separator : UInt8) (bytes : List UInt8) :
    strtok separator bytes = none ∧ tokens separator bytes = [] ∨
      ∃ token rest, strtok separator bytes = some (token, rest) ∧
        tokens separator bytes = token :: tokens separator rest := by
  induction bytes with
  | nil => exact .inl ⟨rfl, rfl⟩
  | cons byte bytes ih =>
    by_cases same : byte = separator
    · subst same
      rw [strtok_separator, tokens_separator]
      exact ih
    · apply Or.inr
      by_cases further : separator ∈ byte :: bytes
      · obtain ⟨token, rest, whole, plain⟩ := List.eq_append_cons_of_mem further
        have some : token ≠ [] := by
          intro none
          rw [none] at whole
          exact same (List.cons.inj whole).1
        rw [whole]
        refine ⟨token, rest, strtok_token plain some rest, ?_⟩
        unfold tokens
        rw [List.splitOn_append_cons_of_beq _ _ (beq_self_eq_true separator), List.splitOn_eq_singleton plain,
          List.singleton_append, List.filter_cons_of_pos (by simpa using some)]
      · refine ⟨byte :: bytes, [], strtok_last further (List.cons_ne_nil _ _), ?_⟩
        unfold tokens
        rw [List.splitOn_eq_singleton further, List.filter_cons_of_pos (by simp)]
        rfl

end Tokens

end CString
