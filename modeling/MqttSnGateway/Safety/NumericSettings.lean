import MqttSnGateway.Store.Configuration

namespace MqttSnGateway

open MqttConfiguration

/-- The text is a number of at most `width` decimal digits. -/
def Decimal (width : Nat) (text : List UInt8) (value : Nat) : Prop :=
  1 ≤ text.length ∧ text.length ≤ width ∧ (∀ byte ∈ text, CString.isDigit byte = true) ∧
    CString.digitsValue text = value

instance Decimal.decidable {width : Nat} {text : List UInt8} {value : Nat} : Decidable (Decimal width text value) :=
  decidable_of_iff
    (1 ≤ text.length ∧ text.length ≤ width ∧ text.all CString.isDigit = true ∧ CString.digitsValue text = value)
    (by rw [Decimal, List.all_eq_true])

/-- The text is the dotted quad of these bytes. -/
def DottedQuad (text : List UInt8) (bytes : List UInt8) : Prop :=
  ∃ t₀ t₁ t₂ t₃ b₀ b₁ b₂ b₃, text = t₀ ++ 46 :: (t₁ ++ 46 :: (t₂ ++ 46 :: t₃)) ∧ bytes = [b₀, b₁, b₂, b₃] ∧
    Decimal 3 t₀ b₀.toNat ∧ Decimal 3 t₁ b₁.toNat ∧ Decimal 3 t₂ b₂.toNat ∧ Decimal 3 t₃ b₃.toNat

/-- A line `<key> <text>` as the readers pass it: with its terminator and its length, which has 16 bits. -/
structure SettingLine where
  key : List UInt8
  text : List UInt8
  blank : 32 ∉ key
  zero : 0 ∉ key ++ 32 :: text
  newline : 10 ∉ key ++ 32 :: text
  counted : (key ++ 32 :: text).length + 1 < 65536

namespace SettingLine

variable (line : SettingLine)

def source (beyond : List UInt8) : List UInt8 := line.key ++ 32 :: line.text ++ 0 :: beyond

def max : UInt16 := .ofNat ((line.key ++ 32 :: line.text).length + 1)

theorem textAfterSpace (beyond : List UInt8) :
    MqttConfiguration.textAfterSpace (line.source beyond) line.max = (some line.text).filter (· ≠ []) := by
  rw [source, max, textAfterSpace_line line.zero line.newline line.counted, afterSpace_append line.blank]

theorem zero_text : 0 ∉ line.text := by
  intro member
  exact line.zero (List.mem_append_right _ (List.mem_cons_of_mem _ member))

end SettingLine

/-- A parser returns true with exactly the values that are valid. -/
def Exactly {α : Type} (parsed : Bool × α) (valid : α → Prop) : Prop :=
  ∀ value, parsed = (true, value) ↔ valid value

section Parsers

variable {α : Type} {valid : α → Prop} {parsed value : α} {text token : List UInt8} {width number : Nat}

theorem exactly_rejected : Exactly (false, parsed) valid ↔ ¬ ∃ value, valid value := by
  constructor
  · intro exact some
    obtain ⟨value, here⟩ := some
    exact Bool.false_ne_true (congrArg Prod.fst ((exact value).mpr here))
  · intro none value
    constructor
    · intro same
      exact absurd (congrArg Prod.fst same) Bool.false_ne_true
    · intro here
      exact absurd ⟨value, here⟩ none

theorem exactly_accepted (unique : ∀ value, valid value → value = parsed) :
    Exactly (true, parsed) valid ↔ ∃ value, valid value := by
  constructor
  · intro exact
    exact ⟨parsed, (exact parsed).mp rfl⟩
  · intro some
    obtain ⟨value, here⟩ := some
    obtain rfl := unique value here
    intro other
    constructor
    · intro same
      obtain rfl := congrArg Prod.snd same
      exact here
    · intro there
      rw [unique other there]

theorem exactly_invalid {parsed : Bool × α} (none : ¬ ∃ value, valid value) :
    Exactly parsed valid ↔ ¬ parsed.1 = true := by
  obtain ⟨accepted, value⟩ := parsed
  cases accepted with
  | false => exact iff_of_true (exactly_rejected.mpr none) Bool.false_ne_true
  | true =>
    rw [exactly_accepted fun value here => absurd ⟨value, here⟩ none]
    exact iff_of_false none (absurd rfl)

theorem Decimal.not_mem (decimal : Decimal width text number) {byte : UInt8} (other : CString.isDigit byte = false) :
    byte ∉ text := by
  intro member
  rw [decimal.2.2.1 byte member] at other
  exact Bool.noConfusion other

theorem Decimal.dot_not_mem (decimal : Decimal width text number) : 46 ∉ text := decimal.not_mem (by decide)

theorem Decimal.blank_not_mem (decimal : Decimal width text number) : 32 ∉ text := decimal.not_mem (by decide)

theorem Decimal.ne_nil (decimal : Decimal width text number) : text ≠ [] :=
  List.length_pos_iff.mp decimal.1

theorem Decimal.atoi (decimal : Decimal width text number) : (CString.ofMemory text).atoi = number := by
  have bytes := CString.bytes_ofMemory (decimal.not_mem (by decide))
  rcases decimal with ⟨_, _, digit, value⟩
  rw [CString.atoi_digits (by rw [bytes]; exact digit), bytes, value]

theorem ofInt_toNat8 (byte : UInt8) : UInt8.ofInt (byte.toNat : Int) = byte := by
  have bound := byte.toNat_lt
  apply UInt8.toNat_inj.mp
  rw [UInt8.ofInt, UInt8.toNat_ofNat']
  omega

theorem ofInt_toNat16 (word : UInt16) : UInt16.ofInt (word.toNat : Int) = word := by
  have bound := word.toNat_lt
  apply UInt16.toNat_inj.mp
  rw [UInt16.ofInt, UInt16.toNat_ofNat']
  omega

/-- Every text of one to three bytes is accepted, whatever its bytes are. -/
theorem parseUint8AfterSpace_exactly (line : SettingLine) (beyond : List UInt8) (destination : UInt8) :
    Exactly (parseUint8AfterSpace destination (line.source beyond) line.max)
        (fun value => Decimal 3 line.text value.toNat) ↔
      (∃ value : UInt8, Decimal 3 line.text value.toNat) ∨ line.text = [] ∨ 3 < line.text.length := by
  rw [parseUint8AfterSpace, line.textAfterSpace]
  by_cases empty : line.text = []
  · rw [Option.filter_some_neg (by simp [empty]), exactly_rejected]
    refine iff_of_true ?_ (.inr (.inl empty))
    rintro ⟨value, nonempty, _⟩
    rw [empty] at nonempty
    exact absurd nonempty (by decide)
  have some : 1 ≤ line.text.length := List.length_pos_iff.mpr empty
  rw [Option.filter_some_pos (by simp [empty])]
  simp only
  by_cases long : 3 < line.text.length
  · rw [if_neg (by simp only [Bool.and_eq_true, decide_eq_true_eq]; omega), exactly_rejected]
    refine iff_of_true ?_ (.inr (.inr long))
    rintro ⟨value, _, short, _⟩
    omega
  · rw [if_pos (by simp only [Bool.and_eq_true, decide_eq_true_eq]; omega), exactly_accepted]
    · simp only [empty, long, or_false]
    · intro value decimal
      rw [decimal.atoi, ofInt_toNat8]

/-- Every text of one to six bytes is accepted whose beginning is not a multiple of 65536. -/
theorem parseUint16AfterSpace_exactly (line : SettingLine) (beyond : List UInt8) (destination : UInt16) :
    Exactly (parseUint16AfterSpace destination (line.source beyond) line.max)
        (fun value => value ≠ 0 ∧ Decimal 5 line.text value.toNat) ↔
      (∃ value : UInt16, value ≠ 0 ∧ Decimal 5 line.text value.toNat) ∨ line.text = [] ∨ 6 < line.text.length ∨
        UInt16.ofInt (CString.ofMemory line.text).atoi = 0 := by
  rw [parseUint16AfterSpace, line.textAfterSpace]
  by_cases empty : line.text = []
  · rw [Option.filter_some_neg (by simp [empty]), exactly_rejected]
    refine iff_of_true ?_ (.inr (.inl empty))
    rintro ⟨value, _, nonempty, _⟩
    rw [empty] at nonempty
    exact absurd nonempty (by decide)
  have some : 1 ≤ line.text.length := List.length_pos_iff.mpr empty
  rw [Option.filter_some_pos (by simp [empty])]
  simp only
  have scanned : ∀ value : UInt16, value ≠ 0 ∧ Decimal 5 line.text value.toNat →
      value = UInt16.ofInt (CString.ofMemory line.text).atoi := by
    intro value valid
    rw [valid.2.atoi, ofInt_toNat16]
  by_cases long : 6 < line.text.length
  · rw [if_neg (by simp only [Bool.and_eq_true, decide_eq_true_eq]; omega), exactly_rejected]
    refine iff_of_true ?_ (.inr (.inr (.inl long)))
    rintro ⟨value, _, _, short, _⟩
    omega
  rw [if_pos (by simp only [Bool.and_eq_true, decide_eq_true_eq]; omega)]
  by_cases zero : UInt16.ofInt (CString.ofMemory line.text).atoi = 0
  · simp only [zero, ne_eq, not_true_eq_false, decide_false]
    rw [exactly_rejected]
    refine iff_of_true ?_ (.inr (.inr (.inr trivial)))
    rintro ⟨value, valid⟩
    exact valid.1 ((scanned value valid).trans zero)
  · simp only [ne_eq, zero, not_false_eq_true, decide_true]
    rw [exactly_accepted (fun value valid => scanned value valid)]
    simp only [empty, long, or_false, ne_eq]

section Address

/-- What the loop over the numbers of an address takes a token for. -/
def addressNumber (token : List UInt8) : UInt16 := .ofInt (CString.ofMemory token).atoi

theorem Decimal.addressNumber {byte : UInt8} (decimal : Decimal 3 text byte.toNat) :
    addressNumber text = byte.toUInt16 ∧ ¬ addressNumber text > 255 := by
  have bound := byte.toNat_lt
  have number : MqttSnGateway.addressNumber text = byte.toUInt16 := by
    rw [MqttSnGateway.addressNumber, decimal.atoi]
    apply UInt16.toNat_inj.mp
    rw [UInt16.ofInt, UInt16.toNat_ofNat', UInt8.toNat_toUInt16]
    omega
  refine ⟨number, ?_⟩
  rw [number, GT.gt, UInt16.lt_iff_toNat_lt, UInt8.toNat_toUInt16]
  show ¬ 255 < byte.toNat
  omega

variable {destination found rest further : List UInt8} {left : Nat}

theorem parseNumbers_large (large : addressNumber found > 255) :
    parseNumbers destination (left + 1) found rest = (false, destination) := if_pos large

theorem parseNumbers_ended (small : ¬ addressNumber found > 255) (ended : CString.strtok 46 rest = none) :
    parseNumbers destination (left + 1) found rest =
      (decide (left = 0), destination.set (3 - left) (addressNumber found).toUInt8) := by
  apply (if_neg small).trans
  simp only [ended]
  rfl

theorem parseNumbers_more (small : ¬ addressNumber found > 255) (cut : CString.strtok 46 rest = some (token, further)) :
    parseNumbers destination (left + 1) found rest =
      if left = 0 then (false, destination.set (3 - left) (addressNumber found).toUInt8)
      else parseNumbers (destination.set (3 - left) (addressNumber found).toUInt8) left token further := by
  apply (if_neg small).trans
  simp only [cut]
  rfl

/-- The loop accepts as many numbers as are missing, each up to 255. -/
theorem parseNumbers_accepts (left : Nat) (destination found rest : List UInt8) :
    (parseNumbers destination left found rest).1 = true ↔
      (CString.tokens 46 rest).length + 1 = left ∧
        ∀ token ∈ found :: CString.tokens 46 rest, ¬ addressNumber token > 255 := by
  induction left generalizing destination found rest with
  | zero => simp [parseNumbers]
  | succ left ih =>
    by_cases large : addressNumber found > 255
    · rw [parseNumbers_large large]
      apply iff_of_false Bool.false_ne_true
      intro accepted
      exact accepted.2 found List.mem_cons_self large
    rcases CString.strtok_cases 46 rest with ⟨ended, none⟩ | ⟨token, further, cut, more⟩
    · rw [parseNumbers_ended large ended, none, List.forall_mem_singleton, decide_eq_true_eq]
      constructor
      · intro last
        exact ⟨congrArg Nat.succ last.symm, large⟩
      · intro accepted
        exact (Nat.succ.inj accepted.1).symm
    · rw [parseNumbers_more large cut, more]
      by_cases last : left = 0
      · rw [if_pos last, last]
        apply iff_of_false Bool.false_ne_true
        intro accepted
        exact Nat.succ_ne_zero _ (Nat.succ.inj accepted.1)
      · rw [if_neg last, ih, List.length_cons, Nat.succ_inj, List.forall_mem_cons (a := found)]
        constructor
        · intro accepted
          exact ⟨accepted.1, large, accepted.2⟩
        · intro accepted
          exact ⟨accepted.1, accepted.2.2⟩

variable {b₀ b₁ b₂ b₃ : UInt8} {t₀ t₁ t₂ t₃ : List UInt8}

theorem parseNumbers_quad (d₀ d₁ d₂ d₃ : UInt8) (v₀ : Decimal 3 t₀ b₀.toNat) (v₁ : Decimal 3 t₁ b₁.toNat)
    (v₂ : Decimal 3 t₂ b₂.toNat) (v₃ : Decimal 3 t₃ b₃.toNat) :
    parseNumbers [d₀, d₁, d₂, d₃] 4 t₀ (t₁ ++ 46 :: (t₂ ++ 46 :: t₃)) = (true, [b₀, b₁, b₂, b₃]) := by
  have first := CString.strtok_token v₁.dot_not_mem v₁.ne_nil (t₂ ++ 46 :: t₃)
  have second := CString.strtok_token v₂.dot_not_mem v₂.ne_nil t₃
  have third := CString.strtok_last v₃.dot_not_mem v₃.ne_nil
  rcases v₀.addressNumber with ⟨n₀, s₀⟩
  rcases v₁.addressNumber with ⟨n₁, s₁⟩
  rcases v₂.addressNumber with ⟨n₂, s₂⟩
  rcases v₃.addressNumber with ⟨n₃, s₃⟩
  rw [parseNumbers_more s₀ first, if_neg (by decide), parseNumbers_more s₁ second, if_neg (by decide),
    parseNumbers_more s₂ third, if_neg (by decide), parseNumbers_ended s₃ CString.strtok_nil, n₀, n₁, n₂, n₃]
  simp

theorem DottedQuad.length {bytes : List UInt8} (quad : DottedQuad text bytes) : 7 ≤ text.length ∧ text.length ≤ 15 := by
  obtain ⟨t₀, t₁, t₂, t₃, _, _, _, _, rfl, _, v₀, v₁, v₂, v₃⟩ := quad
  have lengths := And.intro v₀.1 v₀.2.1
  have := And.intro v₁.1 v₁.2.1
  have := And.intro v₂.1 v₂.2.1
  have := And.intro v₃.1 v₃.2.1
  simp only [List.length_append, List.length_cons]
  omega

/-- The length and the parts between dots that the scanner wants. -/
def addressAccepted (text : List UInt8) : Prop :=
  7 < text.length ∧ text.length < 17 ∧ (CString.tokens 46 text).length = 4 ∧
    ∀ token ∈ CString.tokens 46 text, ¬ addressNumber token > 255

theorem parseIpaddressAfterSpace_accepts (line : SettingLine) (beyond destination : List UInt8) :
    (parseIpaddressAfterSpace destination (line.source beyond) line.max).1 = true ↔ addressAccepted line.text := by
  rw [parseIpaddressAfterSpace, line.textAfterSpace]
  by_cases wide : 7 < line.text.length ∧ line.text.length < 17
  · have nonempty : line.text ≠ [] := by
      intro empty
      rw [empty] at wide
      exact absurd wide.1 (by decide)
    rw [Option.filter_some_pos (by simp [nonempty])]
    simp only
    rw [if_pos (by simp only [Bool.and_eq_true, decide_eq_true_eq]; omega), addressAccepted]
    rcases CString.strtok_cases 46 line.text with ⟨ended, none⟩ | ⟨token, rest, cut, more⟩
    · rw [ended, none]
      apply iff_of_false Bool.false_ne_true
      intro accepted
      exact absurd accepted.2.2.1 (by decide)
    · rw [cut, more]
      simp only
      rw [parseNumbers_accepts, List.length_cons]
      constructor
      · intro accepted
        exact ⟨wide.1, wide.2, accepted⟩
      · intro accepted
        exact accepted.2.2
  · have other : ¬ addressAccepted line.text := fun accepted => wide ⟨accepted.1, accepted.2.1⟩
    refine iff_of_false ?_ other
    by_cases nonempty : line.text = []
    · rw [Option.filter_some_neg (by simp [nonempty])]
      exact Bool.false_ne_true
    · rw [Option.filter_some_pos (by simp [nonempty])]
      simp only
      rw [if_neg (by simp only [Bool.and_eq_true, decide_eq_true_eq]; omega)]
      exact Bool.false_ne_true

theorem parseIpaddressAfterSpace_quad {bytes : List UInt8} (line : SettingLine) (beyond : List UInt8)
    (d₀ d₁ d₂ d₃ : UInt8) (quad : DottedQuad line.text bytes) (long : line.text.length ≠ 7) :
    parseIpaddressAfterSpace [d₀, d₁, d₂, d₃] (line.source beyond) line.max = (true, bytes) := by
  have lengths := quad.length
  obtain ⟨t₀, t₁, t₂, t₃, b₀, b₁, b₂, b₃, whole, rfl, v₀, v₁, v₂, v₃⟩ := quad
  have first := CString.strtok_token v₀.dot_not_mem v₀.ne_nil (t₁ ++ 46 :: (t₂ ++ 46 :: t₃))
  have nonempty : line.text ≠ [] := by
    intro empty
    rw [empty] at lengths
    exact absurd lengths.1 (by decide)
  rw [parseIpaddressAfterSpace, line.textAfterSpace, Option.filter_some_pos (by simp [nonempty])]
  simp only
  rw [if_pos (by simp only [Bool.and_eq_true, decide_eq_true_eq]; omega), whole, first]
  exact parseNumbers_quad d₀ d₁ d₂ d₃ v₀ v₁ v₂ v₃

/-- A dotted quad of the least possible length is refused, and a text with four small numbers between dots is
    accepted whatever else it is. -/
theorem parseIpaddressAfterSpace_exactly (line : SettingLine) (beyond : List UInt8) (d₀ d₁ d₂ d₃ : UInt8) :
    Exactly (parseIpaddressAfterSpace [d₀, d₁, d₂, d₃] (line.source beyond) line.max) (DottedQuad line.text) ↔
      (∃ bytes, DottedQuad line.text bytes) ∧ line.text.length ≠ 7 ∨
        (¬ ∃ bytes, DottedQuad line.text bytes) ∧ ¬ addressAccepted line.text := by
  by_cases some : ∃ bytes, DottedQuad line.text bytes
  · simp only [some, true_and, not_true_eq_false, false_and, or_false]
    by_cases long : line.text.length = 7
    · refine iff_of_false ?_ (not_not_intro long)
      intro exact
      obtain ⟨bytes, quad⟩ := some
      have accepted := congrArg Prod.fst ((exact bytes).mpr quad)
      have wide := ((parseIpaddressAfterSpace_accepts line beyond _).mp accepted).1
      omega
    · refine iff_of_true ?_ long
      obtain ⟨bytes, quad⟩ := some
      rw [parseIpaddressAfterSpace_quad line beyond d₀ d₁ d₂ d₃ quad long]
      apply (exactly_accepted fun other there => ?_).mpr ⟨bytes, quad⟩
      have parsed := parseIpaddressAfterSpace_quad line beyond d₀ d₁ d₂ d₃ there long
      rw [parseIpaddressAfterSpace_quad line beyond d₀ d₁ d₂ d₃ quad long] at parsed
      exact (congrArg Prod.snd parsed).symm
  · simp only [some, false_and, not_false_eq_true, true_and, false_or]
    rw [exactly_invalid some, parseIpaddressAfterSpace_accepts]

end Address

end Parsers

/-- Each numeric parser accepts exactly the valid values of a line if and only if the line's text is valid (and, for
    an address, longer than 7 bytes) or none of those that the parser takes for valid as well. -/
theorem numericSettings_exactly (line : SettingLine) (beyond : List UInt8) (number : UInt8) (word : UInt16)
    (d₀ d₁ d₂ d₃ : UInt8) :
    (Exactly (parseUint8AfterSpace number (line.source beyond) line.max)
        (fun value => Decimal 3 line.text value.toNat) ↔
      (∃ value : UInt8, Decimal 3 line.text value.toNat) ∨ line.text = [] ∨ 3 < line.text.length) ∧
    (Exactly (parseUint16AfterSpace word (line.source beyond) line.max)
        (fun value => value ≠ 0 ∧ Decimal 5 line.text value.toNat) ↔
      (∃ value : UInt16, value ≠ 0 ∧ Decimal 5 line.text value.toNat) ∨ line.text = [] ∨ 6 < line.text.length ∨
        UInt16.ofInt (CString.ofMemory line.text).atoi = 0) ∧
    (Exactly (parseIpaddressAfterSpace [d₀, d₁, d₂, d₃] (line.source beyond) line.max) (DottedQuad line.text) ↔
      (∃ bytes, DottedQuad line.text bytes) ∧ line.text.length ≠ 7 ∨
        (¬ ∃ bytes, DottedQuad line.text bytes) ∧ ¬ addressAccepted line.text) :=
  ⟨parseUint8AfterSpace_exactly line beyond number, parseUint16AfterSpace_exactly line beyond word,
    parseIpaddressAfterSpace_exactly line beyond d₀ d₁ d₂ d₃⟩

namespace Scenario

def willQos256 : SettingLine :=
  ⟨ascii ['w', 'i', 'l', 'l', 'q', 'o', 's'], ascii ['2', '5', '6'], by decide, by decide, by decide, by decide⟩

def brokerPort65537 : SettingLine :=
  ⟨ascii ['b', 'r', 'o', 'k', 'e', 'r', 'p', 'o', 'r', 't'], ascii ['6', '5', '5', '3', '7'], by decide, by decide,
    by decide, by decide⟩

def brokerAddress1234 : SettingLine :=
  ⟨ascii ['b', 'r', 'o', 'k', 'e', 'r', 'a', 'd', 'd', 'r', 'e', 's', 's'], ascii ['1', '.', '2', '.', '3', '.', '4'],
    by decide, by decide, by decide, by decide⟩

/-- `willqos 256` is read as 0, `brokerport 65537` as 1, and `brokeraddress 1.2.3.4` is refused. -/
theorem numbers_misread :
    ¬ Exactly (parseUint8AfterSpace 0 (willQos256.source []) willQos256.max)
        (fun value => Decimal 3 willQos256.text value.toNat) ∧
      ¬ Exactly (parseUint16AfterSpace 0 (brokerPort65537.source []) brokerPort65537.max)
        (fun value => value ≠ 0 ∧ Decimal 5 brokerPort65537.text value.toNat) ∧
      ¬ Exactly (parseIpaddressAfterSpace [0, 0, 0, 0] (brokerAddress1234.source []) brokerAddress1234.max)
        (DottedQuad brokerAddress1234.text) := by
  refine ⟨?_, ?_, ?_⟩
  · intro exact
    have valid := (exact 0).mp (by decide +kernel)
    exact absurd valid.2.2.2 (by decide)
  · intro exact
    have valid := (exact 1).mp (by decide +kernel)
    exact absurd valid.2.2.2.2 (by decide)
  · intro exact
    have quad : DottedQuad brokerAddress1234.text [1, 2, 3, 4] :=
      ⟨[49], [50], [51], [52], 1, 2, 3, 4, by decide, rfl, by decide, by decide,
        by decide, by decide⟩
    have accepted := (exact [1, 2, 3, 4]).mpr quad
    have refused : (parseIpaddressAfterSpace [0, 0, 0, 0] (brokerAddress1234.source []) brokerAddress1234.max).1 =
      false := by decide +kernel
    rw [accepted] at refused
    exact Bool.noConfusion refused

end Scenario

end MqttSnGateway
