import MqttSnGateway.Safety.NumericSettings
import MqttSnGateway.Store.Persistent

namespace MqttSnGateway

open MqttConfiguration

theorem length_predefinedTopic {topicId : UInt16} {buffer : List UInt8} {name : CString}
    (found : predefinedTopic topicId buffer = some (some name)) : name.length < 255 := by
  unfold predefinedTopic at found
  split at found
  · cases found
  · simp only at found
    split at found
    · cases found
    · rename_i token rest _ _
      split at found
      · cases found
      · rename_i short
        split at found
        · cases found
          exact Nat.lt_of_le_of_lt (List.takeWhile_prefix _).length_le (Nat.lt_of_not_le short)
        · cases found

theorem length_predefinedTopicIn {topicId : UInt16} {beyond : List UInt8} {lines : List (List UInt8)} {name : CString}
    (found : predefinedTopicIn topicId beyond lines = some (some name)) : name.length < 255 := by
  induction lines with
  | nil => cases found
  | cons line lines ih =>
    unfold predefinedTopicIn at found
    split at found
    · split at found
      · cases found
      · rename_i here
        cases found
        exact length_predefinedTopic here
      · exact ih found
    · exact ih found

/-- What the gateway finds in a TOPICS.PRE with these contents, as long as no line makes it fail. -/
def TopicsPre.ofFile (file beyond : List UInt8) : TopicsPre where
  lookup id := (getPredefinedTopicName false file beyond id).getD none
  short id name found := by
    unfold getPredefinedTopicName at found
    rw [if_neg Bool.false_ne_true] at found
    cases read : predefinedTopicIn id beyond (LineReader.lines 10 262 file) with
    | none =>
      rw [read] at found
      cases found
    | some result =>
      rw [read, Option.getD_some] at found
      exact length_predefinedTopicIn (found ▸ read)

theorem Persistent.getPredefinedTopicName_ofFile {p : Persistent} {file beyond : List UInt8} {id : UInt16}
    {result : Option CString} (contents : p.topicsPre = .ofFile file beyond)
    (returned : MqttConfiguration.getPredefinedTopicName p.error file beyond id = some result) :
    p.getPredefinedTopicName id = result := by
  unfold Persistent.getPredefinedTopicName
  cases error : p.error with
  | true =>
    rw [error] at returned
    exact Option.some.inj returned
  | false =>
    rw [error] at returned
    rw [if_neg Bool.false_ne_true, contents]
    show (MqttConfiguration.getPredefinedTopicName false file beyond id).getD none = result
    rw [returned]
    rfl

/-- A line `<id> <name>` of TOPICS.PRE. -/
structure TopicLine where
  digits : List UInt8
  id : UInt16
  name : CString
  decimal : Decimal 5 digits id.toNat
  positive : id ≠ 0
  named : name ≠ .empty
  short : name.length < 255
  blank : 32 ∉ name.bytes
  newline : 10 ∉ name.bytes

namespace TopicLine

variable (line : TopicLine)

def text : List UInt8 := line.digits ++ 32 :: line.name.bytes

theorem newline_text : 10 ∉ line.text := by
  intro member
  rcases List.mem_append.mp member with member | member
  · exact line.decimal.not_mem (by decide) member
  · rcases List.mem_cons.mp member with same | member
    · exact absurd same (by decide)
    · exact line.newline member

theorem zero_text : 0 ∉ line.text := by
  intro member
  rcases List.mem_append.mp member with member | member
  · exact line.decimal.not_mem (by decide) member
  · rcases List.mem_cons.mp member with same | member
    · exact absurd same (by decide)
    · exact line.name.nonzero member

theorem length_text : line.text.length = line.digits.length + line.name.length + 1 := by
  rw [text, List.length_append, List.length_cons, Nat.add_assoc]
  rfl

theorem text_short : line.text.length < 262 := by
  have digits := line.decimal.2.1
  have name := line.short
  rw [length_text]
  omega

theorem text_ne_nil : line.text ≠ [] := by
  intro none
  have counted := line.length_text
  rw [none, List.length_nil] at counted
  omega

theorem predefinedTopic_text (topicId : UInt16) (beyond : List UInt8) :
    predefinedTopic topicId (lineBuffer 262 line.text beyond) =
      some (if line.id = topicId then some line.name else none) := by
  obtain ⟨rest, terminated⟩ := lineBuffer_terminated line.text_short beyond
  have bytes : (CString.ofMemory (line.text ++ 0 :: rest)).bytes = line.text :=
    congrArg CString.bytes (CString.ofMemory_terminated ⟨line.text, line.zero_text⟩ rest)
  have first := CString.strtok_token line.decimal.blank_not_mem line.decimal.ne_nil line.name.bytes
  have second : CString.strtok 32 line.name.bytes = some (line.name.bytes, []) := by
    apply CString.strtok_last line.blank
    intro none
    exact line.named (CString.ext none)
  have number : UInt16.ofInt (CString.ofMemory line.digits).atoi = line.id := by
    rw [line.decimal.atoi, ofInt_toNat16]
  have name : CString.ofMemory line.name.bytes = line.name :=
    CString.ext (CString.bytes_ofMemory line.name.nonzero)
  have fits : ¬ line.name.bytes.length ≥ 255 := Nat.not_le_of_lt line.short
  rw [terminated, predefinedTopic, bytes, text, first]
  simp only
  rw [second]
  simp only
  rw [if_neg fits, number, name]
  split <;> rfl

end TopicLine

/-- The lines of a TOPICS.PRE; `none` is an empty one, as a newline at the end of the file leaves it. -/
abbrev TopicLines := List (Option TopicLine)

namespace TopicLines

variable (lines : TopicLines) (topicId : UInt16)

def file : List UInt8 := LineReader.joined 10 (lines.map fun line => line.elim [] TopicLine.text)

def firstWith : Option TopicLine := lines.reduceOption.find? fun line => line.id = topicId

def beforeBlank : List TopicLine := (lines.takeWhile Option.isSome).reduceOption

/-- The first of them that carries an id and has more than three bytes. -/
def firstLong : Option TopicLine :=
  lines.beforeBlank.find? fun line => line.id = topicId && 3 < line.text.length

theorem lines_file : LineReader.lines 10 262 lines.file = lines.beforeBlank.map TopicLine.text := by
  induction lines with
  | nil => exact LineReader.lines_nil
  | cons line lines ih =>
    cases line with
    | none => exact LineReader.lines_joined_blank
    | some line =>
      have read := LineReader.lines_joined_short line.newline_text line.text_ne_nil line.text_short
        (lines.map fun line => line.elim [] TopicLine.text)
      exact read.trans (congrArg (line.text :: ·) ih)

theorem getPredefinedTopicName_file (beyond : List UInt8) :
    getPredefinedTopicName false lines.file beyond topicId = some ((lines.firstLong topicId).map TopicLine.name) := by
  rw [getPredefinedTopicName, if_neg Bool.false_ne_true, lines_file, firstLong]
  induction lines.beforeBlank with
  | nil => rfl
  | cons line lines ih =>
    rw [List.map_cons, predefinedTopicIn]
    by_cases long : line.text.length > 3
    · rw [if_pos long, line.predefinedTopic_text]
      by_cases carries : line.id = topicId
      · rw [if_pos carries, List.find?_cons_of_pos (by simp [carries, long])]
        rfl
      · rw [if_neg carries, List.find?_cons_of_neg (by simp [carries])]
        exact ih
    · rw [if_neg long, List.find?_cons_of_neg (by simp [long])]
      exact ih

/-- The condition under which the reader answers for an id as the format says. -/
def Answered (error : Bool) : Prop :=
  ∀ first, lines.firstWith topicId = some first →
    error = false ∧ lines.beforeBlank.find? (fun line => line.id = topicId) = some first ∧
      (3 < first.text.length ∨ ∃ long, lines.firstLong topicId = some long ∧ long.name = first.name)

theorem reduceOption_eq : lines.reduceOption = lines.beforeBlank ++ (lines.dropWhile Option.isSome).reduceOption := by
  show lines.filterMap id = (lines.takeWhile _).filterMap id ++ (lines.dropWhile _).filterMap id
  rw [← List.filterMap_append, List.takeWhile_append_dropWhile]

theorem firstLong_cases {long : TopicLine} (found : lines.firstLong topicId = some long) :
    long ∈ lines.beforeBlank ∧ long.id = topicId := by
  have member := List.mem_of_find?_eq_some found
  have carries := List.find?_some found
  simp only [Bool.and_eq_true, decide_eq_true_eq] at carries
  exact ⟨member, carries.1⟩

/-- The name that the reader comes to, if no error is pending. -/
def readName (error : Bool) : Option CString := if error then none else (lines.firstLong topicId).map TopicLine.name

theorem getPredefinedTopicName_readName (error : Bool) (beyond : List UInt8) :
    getPredefinedTopicName error lines.file beyond topicId = some (lines.readName topicId error) := by
  cases error with
  | true => rfl
  | false => exact lines.getPredefinedTopicName_file topicId beyond

theorem readName_first (error : Bool) :
    lines.readName topicId error = (lines.firstWith topicId).map TopicLine.name ↔ lines.Answered topicId error := by
  unfold Answered
  cases carried : lines.firstWith topicId with
  | none =>
    refine iff_of_true ?_ (by simp)
    cases error with
    | true => rfl
    | false =>
      cases found : lines.firstLong topicId with
      | none =>
        show (lines.firstLong topicId).map TopicLine.name = none
        rw [found]
        rfl
      | some long =>
        rcases lines.firstLong_cases topicId found with ⟨member, carries⟩
        have present : long ∈ lines.reduceOption := by
          rw [reduceOption_eq]
          exact List.mem_append_left _ member
        exact absurd carries (by simpa using List.find?_eq_none.mp carried long present)
  | some first =>
    simp only [Option.some.injEq, forall_eq']
    cases error with
    | true =>
      refine iff_of_false ?_ (fun answered => Bool.noConfusion answered.1)
      intro answer
      have missing : none = some first.name := answer
      cases missing
    | false =>
      rw [readName, if_neg Bool.false_ne_true, Option.map_some, Option.map_eq_some_iff]
      constructor
      · intro answer
        obtain ⟨long, found, name⟩ := answer
        rcases lines.firstLong_cases topicId found with ⟨member, carries⟩
        refine ⟨rfl, ?_, .inr ⟨long, found, name⟩⟩
        cases front : lines.beforeBlank.find? (fun line => line.id = topicId) with
        | none => exact absurd carries (by simpa using List.find?_eq_none.mp front long member)
        | some other =>
          rw [firstWith, reduceOption_eq, List.find?_append, front, Option.some_or] at carried
          exact carried
      · intro answered
        rcases answered with ⟨_, front, long | same⟩
        · obtain ⟨carries, before, after, whole, others⟩ := List.find?_eq_some_iff_append.mp front
          refine ⟨first, List.find?_eq_some_iff_append.mpr ⟨?_, before, after, whole, ?_⟩, rfl⟩
          · simp only [Bool.and_eq_true, decide_eq_true_eq]
            exact ⟨of_decide_eq_true carries, long⟩
          · intro line member
            have other := others line member
            simp only [Bool.not_eq_true', decide_eq_false_iff_not] at other
            simp [other]
        · exact same

/-- The reader's answer for an id is the name on the first line that carries it if and only if that line, if there
    is one, stands in front of the first empty line and has more than three bytes (or only its name stands on the
    longer line that is found instead), with no error pending. -/
theorem getPredefinedTopicName_first (error : Bool) (beyond : List UInt8) :
    getPredefinedTopicName error lines.file beyond topicId = some ((lines.firstWith topicId).map TopicLine.name) ↔
      lines.Answered topicId error := by
  rw [getPredefinedTopicName_readName, Option.some.injEq]
  exact lines.readName_first topicId error

/-- The same for the lookup of a gateway whose TOPICS.PRE has these lines. -/
theorem persistent_getPredefinedTopicName {p : Persistent} {beyond : List UInt8}
    (contents : p.topicsPre = .ofFile lines.file beyond) :
    p.getPredefinedTopicName topicId = (lines.firstWith topicId).map TopicLine.name ↔
      lines.Answered topicId p.error := by
  rw [Persistent.getPredefinedTopicName_ofFile contents (lines.getPredefinedTopicName_readName topicId p.error beyond)]
  exact lines.readName_first topicId p.error

end TopicLines

namespace Scenario

def topic5 : TopicLine :=
  ⟨ascii ['5'], 5, ⟨ascii ['a'], by decide⟩, by decide, by decide, by decide, by decide, by decide,
    by decide⟩

def topic50 : TopicLine :=
  ⟨ascii ['5', '0'], 50, ⟨ascii ['x'], by decide⟩, by decide, by decide, by decide, by decide,
    by decide, by decide⟩

/-- The shortest line is skipped, and so is every line behind an empty one. -/
theorem topics_missed :
    getPredefinedTopicName false (TopicLines.file [some topic5, none]) [] 5 ≠
        some ((TopicLines.firstWith [some topic5, none] 5).map TopicLine.name) ∧
      getPredefinedTopicName false (TopicLines.file [some topic5, none, some topic50, none]) [] 50 ≠
        some ((TopicLines.firstWith [some topic5, none, some topic50, none] 50).map TopicLine.name) := by
  constructor <;> decide +kernel

end Scenario

end MqttSnGateway
