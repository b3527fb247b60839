import MqttSnGateway.Lib.CString
import MqttSnGateway.Lib.LineReader

namespace MqttSnGateway

namespace MqttConfiguration

def ascii (letters : List Char) : List UInt8 := letters.map fun letter => letter.toNat.toUInt8

section Parsing

/-- The loop of the parse functions up to the first blank: how far it came and what follows the blank. It looks
    for a newline but not for the end of the string. -/
def skipKey (max : UInt16) : List UInt8 → UInt16 → Option (UInt16 × List UInt8)
  | [], _ => none
  | byte :: source, start =>
    if byte = 32 then some (start, source)
    else if source.head? = some 10 || start + 1 = max then none
    else skipKey max source (start + 1)

/-- The loop from there to the end of the line. -/
def skipText (max : UInt16) : List UInt8 → UInt16 → Option UInt16
  | [], stop => some stop
  | byte :: source, stop =>
    if byte = 10 || byte = 0 then some stop
    else if stop + 1 > max then none
    else skipText max source (stop + 1)

/-- What the parse functions have in common: the bytes that they copy from the memory behind `source`. -/
def textAfterSpace (source : List UInt8) (max : UInt16) : Option (List UInt8) :=
  match skipKey max source 0 with
  | none => none
  | some (start, rest) =>
    match skipText max rest start with
    | none => none
    | some stop =>
      if start.toNat + 1 < max.toNat && start ≠ stop then
        some ((source.drop (start.toNat + 1)).take (stop.toNat - start.toNat))
      else none

def parseUint8AfterSpace (destination : UInt8) (source : List UInt8) (max : UInt16) : Bool × UInt8 :=
  match textAfterSpace source max with
  | some text =>
    if text.length ≤ 3 && 1 ≤ text.length then (true, UInt8.ofInt (CString.ofMemory text).atoi)
    else (false, destination)
  | none => (false, destination)

/-- `parse_uint16_t_after_space`; a zero is rejected after it has been stored. -/
def parseUint16AfterSpace (destination : UInt16) (source : List UInt8) (max : UInt16) : Bool × UInt16 :=
  match textAfterSpace source max with
  | some text =>
    if text.length ≤ 6 && 1 ≤ text.length then
      let number := UInt16.ofInt (CString.ofMemory text).atoi
      (number ≠ 0, number)
    else (false, destination)
  | none => (false, destination)

/-- `memcpy` of a text to the memory from `destination` on. -/
def copyTo (destination text : List UInt8) : List UInt8 := text ++ destination.drop text.length

/-- `parse_string_after_space`: neither the size of the destination nor a terminator is considered. -/
def parseStringAfterSpace (destination source : List UInt8) (max : UInt16) : Bool × List UInt8 :=
  match textAfterSpace source max with
  | some text => ((CString.ofMemory (copyTo destination text)).length ≠ 0, copyTo destination text)
  | none => (false, destination)

/-- The loop over the numbers of an address: `left` of four are missing when `found` is the next one. -/
def parseNumbers (destination : List UInt8) : Nat → List UInt8 → List UInt8 → Bool × List UInt8
  | 0, _, _ => (false, destination)
  | left + 1, found, rest =>
    let number := UInt16.ofInt (CString.ofMemory found).atoi
    if number > 255 then (false, destination)
    else
      let written := destination.set (3 - left) number.toUInt8
      match CString.strtok 46 rest with
      | none => (left = 0, written)
      | some (found, rest) => if left = 0 then (false, written) else parseNumbers written left found rest

def parseIpaddressAfterSpace (destination source : List UInt8) (max : UInt16) : Bool × List UInt8 :=
  match textAfterSpace source max with
  | some text =>
    if text.length < 17 && 7 < text.length then
      match CString.strtok 46 text with
      | none => (false, destination)
      | some (found, rest) => parseNumbers destination 4 found rest
    else (false, destination)
  | none => (false, destination)

def afterSpace (line : List UInt8) : Option (List UInt8) :=
  if 32 ∈ line then some ((line.dropWhile (· ≠ 32)).drop 1) else none

variable {key text line : List UInt8}

theorem afterSpace_append (plain : 32 ∉ key) (text : List UInt8) : afterSpace (key ++ 32 :: text) = some text := by
  have skipped : ∀ byte ∈ key, decide (byte ≠ 32) = true := by
    intro byte member
    have other : byte ≠ 32 := fun same => plain (same ▸ member)
    simpa using other
  have found : 32 ∈ key ++ 32 :: text := List.mem_append_right _ List.mem_cons_self
  rw [afterSpace, if_pos found, List.dropWhile_append_of_pos skipped, List.dropWhile_cons_of_neg (by simp)]
  rfl

theorem afterSpace_none (plain : 32 ∉ line) : afterSpace line = none := if_neg plain

theorem afterSpace_cases (line : List UInt8) :
    afterSpace line = none ∧ 32 ∉ line ∨
      ∃ key text, line = key ++ 32 :: text ∧ 32 ∉ key ∧ afterSpace line = some text := by
  by_cases found : 32 ∈ line
  · obtain ⟨key, text, whole, plain⟩ := List.eq_append_cons_of_mem found
    subst whole
    exact .inr ⟨key, text, rfl, plain, afterSpace_append plain text⟩
  · exact .inl ⟨afterSpace_none found, found⟩

theorem afterSpace_continued (found : 32 ∈ line) (rest : List UInt8) :
    afterSpace (line ++ rest) = (afterSpace line).map (· ++ rest) := by
  rcases afterSpace_cases line with ⟨_, blank⟩ | ⟨key, text, rfl, blank, split⟩
  · exact absurd found blank
  · rw [split, List.append_assoc, List.cons_append, afterSpace_append blank]
    rfl

theorem ofNat_ne {m n : Nat} (hm : m < 65536) (hn : n < 65536) (other : m ≠ n) : UInt16.ofNat m ≠ UInt16.ofNat n := by
  intro same
  have values := congrArg UInt16.toNat same
  rw [UInt16.toNat_ofNat', UInt16.toNat_ofNat'] at values
  omega

theorem toNat_ofNat {n : Nat} (fits : n < 65536) : (UInt16.ofNat n).toNat = n := by
  rw [UInt16.toNat_ofNat']
  exact Nat.mod_eq_of_lt fits

theorem ofNat_succ (n : Nat) : UInt16.ofNat n + 1 = UInt16.ofNat (n + 1) := by
  rw [UInt16.ofNat_add]
  rfl

theorem skipKey_step {byte : UInt8} {source : List UInt8} {start max : UInt16} (other : byte ≠ 32)
    (next : source.head? ≠ some 10) (further : start + 1 ≠ max) :
    skipKey max (byte :: source) start = skipKey max source (start + 1) := by
  rw [skipKey, if_neg other, if_neg]
  intro stopped
  rcases Bool.or_eq_true_iff.mp stopped with newline | reached
  · exact next (of_decide_eq_true newline)
  · exact further (of_decide_eq_true reached)

theorem head_ne_newline (newline : 10 ∉ line) {byte : UInt8} (other : byte ≠ 10) (rest : List UInt8) :
    (line ++ byte :: rest).head? ≠ some 10 := by
  intro found
  cases line with
  | nil => exact other (Option.some.inj found)
  | cons first line => exact List.ne_of_not_mem_cons newline (Option.some.inj found).symm

/-- No blank before the end of the string: `start` runs up to `max`. -/
theorem skipKey_none (blank : 32 ∉ line) (newline : 10 ∉ line) {start : Nat}
    (fits : start + line.length + 1 < 65536) (rest : List UInt8) :
    skipKey (.ofNat (start + line.length + 1)) (line ++ 0 :: rest) (.ofNat start) = none := by
  induction line generalizing start with
  | nil =>
    have reached : UInt16.ofNat start + 1 = UInt16.ofNat (start + 0 + 1) := ofNat_succ start
    rw [List.nil_append, List.length_nil, ← reached, skipKey, if_neg (by decide),
      if_pos (Bool.or_eq_true_iff.mpr (.inr (decide_eq_true rfl)))]
  | cons byte line ih =>
    rcases List.ne_and_not_mem_of_not_mem_cons blank with ⟨other, blank⟩
    have newline := List.not_mem_of_not_mem_cons newline
    rw [List.length_cons] at fits ⊢
    have further : UInt16.ofNat start + 1 ≠ UInt16.ofNat (start + (line.length + 1) + 1) := by
      rw [ofNat_succ]
      apply ofNat_ne <;> omega
    rw [List.cons_append, skipKey_step other.symm (head_ne_newline newline (by decide) rest) further, ofNat_succ,
      show start + (line.length + 1) + 1 = start + 1 + line.length + 1 by omega]
    exact ih blank newline (by omega)

theorem skipKey_space (blank : 32 ∉ key) (newline : 10 ∉ key) {start max : Nat} (fits : max < 65536)
    (inside : start + key.length < max) (rest : List UInt8) :
    skipKey (.ofNat max) (key ++ 32 :: rest) (.ofNat start) = some (.ofNat (start + key.length), rest) := by
  induction key generalizing start with
  | nil =>
    rw [List.nil_append, skipKey, if_pos rfl]
    rfl
  | cons byte key ih =>
    rcases List.ne_and_not_mem_of_not_mem_cons blank with ⟨other, blank⟩
    have newline := List.not_mem_of_not_mem_cons newline
    rw [List.length_cons] at inside
    have further : UInt16.ofNat start + 1 ≠ UInt16.ofNat max := by
      rw [ofNat_succ]
      apply ofNat_ne <;> omega
    rw [List.cons_append, skipKey_step other.symm (head_ne_newline newline (by decide) rest) further, ofNat_succ,
      ih blank newline (by omega), List.length_cons, show start + 1 + key.length = start + (key.length + 1) by omega]

theorem skipText_line (zero : 0 ∉ text) (newline : 10 ∉ text) {start max : Nat} (fits : max < 65536)
    (inside : start + text.length ≤ max) (rest : List UInt8) :
    skipText (.ofNat max) (text ++ 0 :: rest) (.ofNat start) = some (.ofNat (start + text.length)) := by
  induction text generalizing start with
  | nil => rfl
  | cons byte text ih =>
    rcases List.ne_and_not_mem_of_not_mem_cons zero with ⟨notZero, zero⟩
    rcases List.ne_and_not_mem_of_not_mem_cons newline with ⟨notNewline, newline⟩
    rw [List.length_cons] at inside
    have within : ¬ UInt16.ofNat start + 1 > UInt16.ofNat max := by
      rw [ofNat_succ, GT.gt, UInt16.lt_iff_toNat_lt, toNat_ofNat fits, toNat_ofNat (by omega)]
      omega
    rw [List.cons_append, skipText, if_neg (by simp [notZero.symm, notNewline.symm]), if_neg within, ofNat_succ,
      ih zero newline (by omega), List.length_cons, show start + 1 + text.length = start + (text.length + 1) by omega]

/-- On a line with its terminator and its length, the parse functions copy what follows the first blank, if that
    is not empty. -/
theorem textAfterSpace_line (zero : 0 ∉ line) (newline : 10 ∉ line) (fits : line.length + 1 < 65536)
    (rest : List UInt8) :
    textAfterSpace (line ++ 0 :: rest) (.ofNat (line.length + 1)) = (afterSpace line).filter (· ≠ []) := by
  rcases afterSpace_cases line with ⟨none, blank⟩ | ⟨key, text, rfl, blank, found⟩
  · have skipped := skipKey_none blank newline (show 0 + line.length + 1 < 65536 by omega) rest
    rw [Nat.zero_add] at skipped
    rw [none, textAfterSpace, show (0 : UInt16) = UInt16.ofNat 0 from rfl, skipped]
    rfl
  · rw [found]
    have counted : (key ++ 32 :: text).length = key.length + text.length + 1 := by
      rw [List.length_append, List.length_cons, Nat.add_assoc]
    rw [counted] at fits ⊢
    have split : key ++ 32 :: text ++ 0 :: rest = key ++ 32 :: (text ++ 0 :: rest) := List.append_assoc _ _ _
    have newlines := List.mem_append.not.mp newline
    have zeros := List.mem_append.not.mp zero
    have skipped := skipKey_space blank (fun member => newlines (.inl member)) fits
      (show 0 + key.length < key.length + text.length + 1 + 1 by omega) (text ++ 0 :: rest)
    have ended := skipText_line (fun member => zeros (.inr (List.mem_cons_of_mem _ member)))
      (fun member => newlines (.inr (List.mem_cons_of_mem _ member))) fits
      (show key.length + text.length ≤ key.length + text.length + 1 + 1 by omega) rest
    rw [Nat.zero_add] at skipped
    rw [textAfterSpace, split, show (0 : UInt16) = UInt16.ofNat 0 from rfl, skipped]
    simp only
    rw [ended]
    simp only
    have first := toNat_ofNat (show key.length < 65536 by omega)
    have last := toNat_ofNat (show key.length + text.length < 65536 by omega)
    have all := toNat_ofNat fits
    have copied : ((key ++ 32 :: (text ++ 0 :: rest)).drop (key.length + 1)).take text.length = text := by
      rw [← List.drop_drop, List.drop_left, List.drop_succ_cons, List.drop_zero, List.take_left]
    rw [first, last, all, Nat.add_sub_cancel_left, copied]
    by_cases empty : text = []
    · subst empty
      rw [List.length_nil, Nat.add_zero, if_neg (by simp)]
      exact (Option.filter_some_neg (by simp)).symm
    · have some := List.length_pos_iff.mpr empty
      have moved : UInt16.ofNat key.length ≠ UInt16.ofNat (key.length + text.length) := by
        apply ofNat_ne <;> omega
      rw [if_pos (by simp only [Bool.and_eq_true, decide_eq_true_eq]; exact ⟨by omega, moved⟩)]
      exact (Option.filter_some_pos (by simp [empty])).symm

end Parsing

section Reading

/-- The memory from a zeroed buffer on into which a line was read. -/
def lineBuffer (size : Nat) (line beyond : List UInt8) : List UInt8 :=
  line ++ List.replicate (size - line.length) 0 ++ beyond

theorem lineBuffer_terminated {size : Nat} {line : List UInt8} (short : line.length < size) (beyond : List UInt8) :
    ∃ rest, lineBuffer size line beyond = line ++ 0 :: rest := by
  obtain ⟨left, counted⟩ : ∃ left, size - line.length = left + 1 := ⟨size - line.length - 1, by omega⟩
  refine ⟨List.replicate left 0 ++ beyond, ?_⟩
  rw [lineBuffer, counted, List.replicate_succ, List.append_assoc]
  rfl

/-- `strlen(buffer) + 1` in the 16 bits of `line_length`. -/
def lineLength (buffer : List UInt8) : UInt16 := .ofNat ((CString.ofMemory buffer).length + 1)

/-- The lines a reader loop sees, each in its buffer; `beyond` is the memory behind the buffer. -/
def buffers (size : Nat) (file beyond : List UInt8) : List (List UInt8) :=
  (LineReader.lines 10 size file).map fun line => lineBuffer size line beyond

def bAddr : List UInt8 := ascii ['b', 'r', 'o', 'k', 'e', 'r', 'a', 'd', 'd', 'r', 'e', 's', 's']
def bPort : List UInt8 := ascii ['b', 'r', 'o', 'k', 'e', 'r', 'p', 'o', 'r', 't']
def cId : List UInt8 := ascii ['c', 'l', 'i', 'e', 'n', 't', 'i', 'd']
def cUsername : List UInt8 := ascii ['u', 's', 'e', 'r', 'n', 'a', 'm', 'e']
def cPassword : List UInt8 := ascii ['p', 'a', 's', 's', 'w', 'o', 'r', 'd']
def wTopic : List UInt8 := ascii ['w', 'i', 'l', 'l', 't', 'o', 'p', 'i', 'c']
def wMsg : List UInt8 := ascii ['w', 'i', 'l', 'l', 'm', 'e', 's', 's', 'a', 'g', 'e']
def wQos : List UInt8 := ascii ['w', 'i', 'l', 'l', 'q', 'o', 's']
def wRetain : List UInt8 := ascii ['w', 'i', 'l', 'l', 'r', 'e', 't', 'a', 'i', 'n']

/-- The destinations of `get_mqtt_config` and what it has found so far. -/
structure MqttConfig where
  serverIp : List UInt8
  serverPort : UInt16
  clientId : List UInt8
  hasBAddr : Bool
  hasBPort : Bool
  hasCId : Bool
deriving DecidableEq

def MqttConfig.line (config : MqttConfig) (buffer : List UInt8) : MqttConfig :=
  if bAddr.isPrefixOf buffer then
    let parsed := parseIpaddressAfterSpace config.serverIp buffer (lineLength buffer)
    { config with hasBAddr := parsed.1, serverIp := parsed.2 }
  else if bPort.isPrefixOf buffer then
    let parsed := parseUint16AfterSpace config.serverPort buffer (lineLength buffer)
    { config with hasBPort := parsed.1, serverPort := parsed.2 }
  else if cId.isPrefixOf buffer then
    let parsed := parseStringAfterSpace config.clientId buffer (lineLength buffer)
    { config with hasCId := parsed.1, clientId := parsed.2 }
  else config

def MqttConfig.loaded (config : MqttConfig) : Bool := config.hasBAddr && config.hasBPort && config.hasCId

def getMqttConfig (file beyond serverIp : List UInt8) (serverPort : UInt16) (clientId : List UInt8) : MqttConfig :=
  (buffers 512 file beyond).foldl MqttConfig.line ⟨serverIp, serverPort, clientId, false, false, false⟩

/-- The destinations of `get_mqtt_login_config` and what it has found so far. -/
structure MqttLogin where
  username : List UInt8
  password : List UInt8
  hasCUsername : Bool
  hasCPassword : Bool
deriving DecidableEq

def MqttLogin.line (login : MqttLogin) (buffer : List UInt8) : MqttLogin :=
  if cUsername.isPrefixOf buffer then
    let parsed := parseStringAfterSpace login.username buffer (lineLength buffer)
    { login with hasCUsername := parsed.1, username := parsed.2 }
  else if cPassword.isPrefixOf buffer then
    let parsed := parseStringAfterSpace login.password buffer (lineLength buffer)
    { login with hasCPassword := parsed.1, password := parsed.2 }
  else login

def MqttLogin.loaded (login : MqttLogin) : Bool := login.hasCUsername && login.hasCPassword

def getMqttLoginConfig (file beyond username password : List UInt8) : MqttLogin :=
  (buffers 128 file beyond).foldl MqttLogin.line ⟨username, password, false, false⟩

/-- The destinations of `get_mqtt_will` and what it has found so far. -/
structure WillConfig where
  willTopic : List UInt8
  willMsg : List UInt8
  willQos : UInt8
  willRetain : Bool
  hasWTopic : Bool
  hasWMsg : Bool
  hasWQos : Bool
  hasWRetain : Bool
deriving DecidableEq

/-- A retain flag is never taken back: a later line that is not accepted leaves it as it is. -/
def WillConfig.line (will : WillConfig) (buffer : List UInt8) : WillConfig :=
  if wTopic.isPrefixOf buffer then
    let parsed := parseStringAfterSpace will.willTopic buffer (lineLength buffer)
    { will with hasWTopic := parsed.1, willTopic := parsed.2 }
  else if wMsg.isPrefixOf buffer then
    let parsed := parseStringAfterSpace will.willMsg buffer (lineLength buffer)
    { will with hasWMsg := parsed.1, willMsg := parsed.2 }
  else if wQos.isPrefixOf buffer then
    let parsed := parseUint8AfterSpace will.willQos buffer (lineLength buffer)
    { will with hasWQos := parsed.1, willQos := parsed.2 }
  else if wRetain.isPrefixOf buffer then
    let parsed := parseUint8AfterSpace 0 buffer (lineLength buffer)
    if parsed.1 && parsed.2 ≤ 1 then { will with hasWRetain := true, willRetain := parsed.2 ≠ 0 } else will
  else will

def WillConfig.loaded (will : WillConfig) : Bool :=
  will.hasWTopic && will.hasWMsg && will.hasWQos && will.hasWRetain

def getMqttWill (file beyond willTopic willMsg : List UInt8) (willQos : UInt8) (willRetain : Bool) : WillConfig :=
  (buffers 128 file beyond).foldl WillConfig.line
    ⟨willTopic, willMsg, willQos, willRetain, false, false, false, false⟩

end Reading

section PredefinedTopics

/-- The loop over the tokens of one line of TOPICS.PRE, which ends after the first id and name. Without a name
    `strlen` gets a null pointer: no result. -/
def predefinedTopic (topicId : UInt16) (buffer : List UInt8) : Option (Option CString) :=
  match CString.strtok 32 (CString.ofMemory buffer).bytes with
  | none => some none
  | some (found, rest) =>
    let foundTopicId := UInt16.ofInt (CString.ofMemory found).atoi
    match CString.strtok 32 rest with
    | none => none
    | some (foundTopicName, _) =>
      if foundTopicName.length ≥ 255 then some none
      else if foundTopicId = topicId then some (some (CString.ofMemory foundTopicName))
      else some none

def predefinedTopicIn (topicId : UInt16) (beyond : List UInt8) : List (List UInt8) → Option (Option CString)
  | [] => some none
  | line :: lines =>
    if line.length > 3 then
      match predefinedTopic topicId (lineBuffer 262 line beyond) with
      | none => none
      | some (some name) => some (some name)
      | some none => predefinedTopicIn topicId beyond lines
    else predefinedTopicIn topicId beyond lines

/-- `get_predefined_topic_name` on the contents of TOPICS.PRE; `beyond` is the memory behind its buffer. -/
def getPredefinedTopicName (error : Bool) (file beyond : List UInt8) (topicId : UInt16) : Option (Option CString) :=
  if error then some none else predefinedTopicIn topicId beyond (LineReader.lines 10 262 file)

end PredefinedTopics

end MqttConfiguration

end MqttSnGateway
