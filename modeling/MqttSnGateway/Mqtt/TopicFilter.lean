import MqttSnGateway.Mqtt.Incoming

namespace MqttSnGateway

/-- A level of a topic filter: a name, or the wildcard `+`. -/
inductive FilterLevel where
  | name (bytes : List UInt8) (plain : 47 ∉ bytes ∧ 43 ∉ bytes ∧ 35 ∉ bytes)
  | single

def FilterLevel.bytes : FilterLevel → List UInt8
  | .name bytes _ => bytes
  | .single => [43]

/-- A topic filter in the correct format: levels, and at the end perhaps the wildcard `#`. -/
structure TopicFilter where
  levels : List FilterLevel
  multi : Bool
  nonempty : levels ≠ [] ∨ multi = true

namespace TopicFilter

def bytes (filter : TopicFilter) : List UInt8 :=
  [47].intercalate (filter.levels.map FilterLevel.bytes ++ if filter.multi then [[35]] else [])

/-- How the levels of a topic name match: a level under a wildcard has a name. -/
def matchLevels (multi : Bool) : List FilterLevel → List (List UInt8) → Bool
  | [], [] => !multi
  | [], level :: _ => multi && level ≠ []
  | _ :: _, [] => false
  | .name bytes _ :: filters, level :: levels => level = bytes && matchLevels multi filters levels
  | .single :: filters, level :: levels => level ≠ [] && matchLevels multi filters levels

/-- How levels match in MQTT: a wildcard stands for a level without name too, and `#` for no level at all. -/
def standardLevels (multi : Bool) : List FilterLevel → List (List UInt8) → Bool
  | [], [] => true
  | [], _ :: _ => multi
  | _ :: _, [] => false
  | .name bytes _ :: filters, level :: levels => level = bytes && standardLevels multi filters levels
  | .single :: filters, _ :: levels => standardLevels multi filters levels

/-- The filter begins with a wildcard. -/
def wild (filter : TopicFilter) : Bool :=
  match filter.levels with
  | [] => true
  | .name _ _ :: _ => false
  | .single :: _ => true

/-- How MQTT matches: level by level, but a filter that begins with a wildcard matches no name that begins with `$`. -/
def standard (filter : TopicFilter) (name : List UInt8) : Bool :=
  standardLevels filter.multi filter.levels (name.splitOn 47) && !(filter.wild && name.head? = some 36)

section Levels

variable {level : List UInt8}

/-- What follows a level: nothing, or a separator and something. -/
def continued : Option (List UInt8) → List UInt8
  | none => []
  | some rest => 47 :: rest

theorem isTopicMatched_continued (curf curn : Option (List UInt8)) :
    isTopicMatched (continued curf) (continued curn) =
      match curf, curn with
      | none, none => true
      | some curf, some curn => isTopicMatched curf curn
      | _, _ => false := by
  cases curf <;> cases curn <;> simp [continued, isTopicMatched]

/-- A name is compared byte by byte, up to where both levels end. -/
theorem isTopicMatched_name {bytes : List UInt8} (plain : 47 ∉ bytes ∧ 43 ∉ bytes ∧ 35 ∉ bytes) (whole : 47 ∉ level)
    (curf curn : Option (List UInt8)) :
    isTopicMatched (bytes ++ continued curf) (level ++ continued curn) =
      (decide (level = bytes) && isTopicMatched (continued curf) (continued curn)) := by
  induction bytes generalizing level with
  | nil =>
    cases level with
    | nil => simp
    | cons n level =>
      have other : 47 ≠ n := fun same => whole (same ▸ List.mem_cons_self)
      cases curf <;> simp [continued, isTopicMatched, other]
  | cons f bytes ih =>
    simp only [List.mem_cons, not_or] at plain
    obtain ⟨⟨separator, plainTail⟩, ⟨single, singleTail⟩, multi, multiTail⟩ := plain
    cases level with
    | nil =>
      cases curn <;> simp [continued, isTopicMatched, Ne.symm separator]
    | cons n level =>
      simp only [List.mem_cons, not_or] at whole
      rw [List.cons_append, List.cons_append, isTopicMatched]
      by_cases same : f = n
      · subst same
        simp [Ne.symm separator, Ne.symm single, Ne.symm multi, ih ⟨plainTail, singleTail, multiTail⟩ whole.2]
      · simp [Ne.symm whole.1, Ne.symm single, Ne.symm multi, same, Ne.symm same]

theorem isTopicMatched_single (whole : 47 ∉ level) (curf curn : Option (List UInt8)) :
    isTopicMatched (43 :: continued curf) (level ++ continued curn) =
      (decide (level ≠ []) && isTopicMatched (continued curf) (continued curn)) := by
  cases level with
  | nil => cases curn <;> simp [continued, isTopicMatched]
  | cons n level =>
    simp only [List.mem_cons, not_or] at whole
    have skipped : (level ++ continued curn).dropWhile (· ≠ 47) = continued curn := by
      rw [List.dropWhile_append_of_pos]
      · cases curn <;> simp [continued]
      · intro byte member
        simpa using fun same : byte = 47 => whole.2 (same ▸ member)
    rw [List.cons_append, isTopicMatched, skipped]
    simp [Ne.symm whole.1]

theorem isTopicMatched_multi (whole : 47 ∉ level) (curn : Option (List UInt8)) :
    isTopicMatched [35] (level ++ continued curn) = decide (level ≠ []) := by
  cases level with
  | nil => cases curn <;> simp [continued, isTopicMatched]
  | cons n level =>
    simp only [List.mem_cons, not_or] at whole
    simp [isTopicMatched, Ne.symm whole.1]

def rest (multi : Bool) : List FilterLevel → Option (List UInt8)
  | [] => if multi then some [35] else none
  | filter :: filters => some (filter.bytes ++ continued (rest multi filters))

theorem intercalate_rest (multi : Bool) (filters : List FilterLevel) :
    rest multi filters =
      if filters = [] ∧ multi = false then none
      else some ([47].intercalate (filters.map FilterLevel.bytes ++ if multi then [[35]] else [])) := by
  induction filters with
  | nil => cases multi <;> simp [rest]
  | cons filter filters ih =>
    have goesOn : ¬ (filter :: filters = [] ∧ multi = false) := fun none => List.cons_ne_nil _ _ none.1
    rw [rest, ih, if_neg goesOn]
    by_cases last : filters = [] ∧ multi = false
    · obtain ⟨rfl, rfl⟩ := last
      simp [continued]
    · have more : filters.map FilterLevel.bytes ++ (if multi = true then [[35]] else []) ≠ [] := by
        intro none
        rw [List.append_eq_nil_iff, List.map_eq_nil_iff] at none
        cases multi with
        | false => exact last ⟨none.1, rfl⟩
        | true => cases none.2
      rw [if_neg last, List.map_cons, List.cons_append, List.intercalate_cons_of_ne_nil more]
      simp [continued]

theorem splitOn_cases (name : List UInt8) :
    ∃ level curn, 47 ∉ level ∧ name = level ++ continued curn ∧
      name.splitOn 47 = level :: (curn.map fun curn => curn.splitOn 47).getD [] := by
  by_cases further : 47 ∈ name
  · obtain ⟨level, curn, whole, plain⟩ := List.eq_append_cons_of_mem further
    refine ⟨level, some curn, plain, whole, ?_⟩
    rw [whole, List.splitOn_append_cons_self, List.splitOn_eq_singleton plain]
    rfl
  · exact ⟨name, none, further, (List.append_nil _).symm, List.splitOn_eq_singleton further⟩

/-- The remaining levels of the filter and of the name match level by level. -/
theorem isTopicMatched_rest (multi : Bool) (filters : List FilterLevel) (curn : Option (List UInt8)) :
    isTopicMatched (continued (rest multi filters)) (continued curn) =
      matchLevels multi filters ((curn.map fun curn => curn.splitOn 47).getD []) := by
  induction filters generalizing curn with
  | nil =>
    cases curn with
    | none => cases multi <;> rfl
    | some name =>
      obtain ⟨level, later, plain, whole, split⟩ := splitOn_cases name
      rw [isTopicMatched_continued, Option.map_some, Option.getD_some, split]
      cases multi with
      | false => rfl
      | true =>
        simp only [rest, if_true, matchLevels, Bool.true_and]
        rw [whole, isTopicMatched_multi plain]
  | cons filter filters ih =>
    cases curn with
    | none => rw [isTopicMatched_continued]; cases filter <;> rfl
    | some name =>
      obtain ⟨level, later, plain, whole, split⟩ := splitOn_cases name
      rw [isTopicMatched_continued, Option.map_some, Option.getD_some, split]
      simp only [rest]
      rw [whole]
      cases filter with
      | name bytes name => rw [FilterLevel.bytes, isTopicMatched_name name plain, ih, matchLevels]
      | single => rw [FilterLevel.bytes, List.singleton_append, isTopicMatched_single plain, ih, matchLevels]

/-- Every match is one in MQTT; the reverse holds where no level without name is involved, and where the topic name
    goes on where `#` stands. -/
theorem matchLevels_standard (multi : Bool) (filters : List FilterLevel) (levels : List (List UInt8)) :
    (matchLevels multi filters levels = true → standardLevels multi filters levels = true) ∧
      ((∀ level ∈ levels, level ≠ []) → (multi = true → filters.length < levels.length) →
        standardLevels multi filters levels = true → matchLevels multi filters levels = true) := by
  induction filters generalizing levels with
  | nil =>
    cases levels with
    | nil => cases multi <;> simp [matchLevels, standardLevels]
    | cons level levels =>
      cases multi
      · simp [matchLevels, standardLevels]
      · simp +contextual [matchLevels, standardLevels]
  | cons filter filters ih =>
    cases levels with
    | nil => cases filter <;> simp [matchLevels, standardLevels]
    | cons level levels =>
      obtain ⟨sound, complete⟩ := ih levels
      have shorter : (multi = true → (filter :: filters).length < (level :: levels).length) →
          multi = true → filters.length < levels.length := by
        intro longer standing
        have lengths := longer standing
        rw [List.length_cons, List.length_cons] at lengths
        omega
      cases filter with
      | name bytes plain =>
        simp only [matchLevels, standardLevels, Bool.and_eq_true, decide_eq_true_eq]
        exact ⟨fun matched => ⟨matched.1, sound matched.2⟩, fun named longer matched =>
          ⟨matched.1, complete (fun other member => named other (List.mem_cons_of_mem _ member)) (shorter longer) matched.2⟩⟩
      | single =>
        simp only [matchLevels, standardLevels, Bool.and_eq_true, decide_eq_true_eq]
        exact ⟨fun matched => sound matched.2, fun named longer matched => ⟨named level List.mem_cons_self,
          complete (fun other member => named other (List.mem_cons_of_mem _ member)) (shorter longer) matched⟩⟩

end Levels

theorem isTopicMatched_bytes (filter : TopicFilter) (name : List UInt8) :
    isTopicMatched filter.bytes name = matchLevels filter.multi filter.levels (name.splitOn 47) := by
  have matched := isTopicMatched_rest filter.multi filter.levels (some name)
  have some : ¬ (filter.levels = [] ∧ filter.multi = false) := by
    rintro ⟨none, single⟩
    rcases filter.nonempty with levels | multi
    · exact levels none
    · exact Bool.false_ne_true (single.symm.trans multi)
  rw [intercalate_rest, if_neg some, isTopicMatched_continued] at matched
  exact matched

theorem isTopicMatched_self {name : List UInt8} (plain : 43 ∉ name ∧ 35 ∉ name) : isTopicMatched name name = true := by
  induction name with
  | nil => rfl
  | cons n name ih =>
    simp only [List.mem_cons, not_or] at plain
    simp [isTopicMatched, Ne.symm plain.1.1, Ne.symm plain.2.1, ih ⟨plain.1.2, plain.2.2⟩]

/-- A message handler whose topic filter is in the correct format is called for a topic name without wildcards exactly
    when the levels match; if MQTT would not match the topic, the name begins with `$` and the filter with a wildcard, and
    the handler is called for every topic that MQTT matches unless a level has no name or `#` would stand for no level. -/
theorem handler_called_iff (filter : TopicFilter) {topicFilter : CString} (format : topicFilter.bytes = filter.bytes)
    {name : List UInt8} (plain : 43 ∉ name ∧ 35 ∉ name) :
    let called := MQTTPacket.equals ⟨none, name⟩ topicFilter || isTopicMatched topicFilter.bytes name
    (called = true ↔ matchLevels filter.multi filter.levels (name.splitOn 47) = true) ∧
      (called = true → filter.standard name = true ∨ filter.wild = true ∧ name.head? = some 36) ∧
      ((∀ level ∈ name.splitOn 47, level ≠ []) →
        (filter.multi = true → filter.levels.length < (name.splitOn 47).length) →
        filter.standard name = true → called = true) := by
  obtain ⟨sound, complete⟩ := matchLevels_standard filter.multi filter.levels (name.splitOn 47)
  have called : (MQTTPacket.equals ⟨none, name⟩ topicFilter || isTopicMatched topicFilter.bytes name) =
      matchLevels filter.multi filter.levels (name.splitOn 47) := by
    rw [← isTopicMatched_bytes, format]
    by_cases same : name = filter.bytes
    · have itself : isTopicMatched filter.bytes name = true := by
        rw [← same]
        exact isTopicMatched_self plain
      rw [itself, Bool.or_true]
    · simp [MQTTPacket.equals, format, same]
  intro result
  have same : result = _ := called
  rw [same]
  refine ⟨Iff.rfl, fun matched => ?_, fun named longer matched => ?_⟩
  · unfold standard
    rw [sound matched, Bool.true_and]
    by_cases excepted : filter.wild = true ∧ name.head? = some 36
    · exact .inr excepted
    · left
      simp only [Bool.not_eq_true', Bool.and_eq_false_iff, decide_eq_false_iff_not]
      exact (not_and_or.mp excepted).imp_left eq_false_of_ne_true
  · unfold standard at matched
    rw [Bool.and_eq_true] at matched
    exact complete named longer matched.1

def Scenario.nested : TopicFilter where
  levels := [.name [97] (by decide), .single]
  multi := true
  nonempty := .inr rfl

/-- The handler of `a/+/#` is called for `a/b/c`. -/
theorem Scenario.nested_called :
    let called := MQTTPacket.equals ⟨none, [97, 47, 98, 47, 99]⟩ (.ofMemory Scenario.nested.bytes) ||
      isTopicMatched (CString.ofMemory Scenario.nested.bytes).bytes [97, 47, 98, 47, 99]
    (called = true ↔
        matchLevels Scenario.nested.multi Scenario.nested.levels (List.splitOn 47 ([97, 47, 98, 47, 99] : List UInt8)) = true) ∧
      (called = true → Scenario.nested.standard [97, 47, 98, 47, 99] = true ∨
        Scenario.nested.wild = true ∧ ([97, 47, 98, 47, 99] : List UInt8).head? = some 36) ∧
      ((∀ level ∈ List.splitOn 47 ([97, 47, 98, 47, 99] : List UInt8), level ≠ []) →
        (Scenario.nested.multi = true →
          Scenario.nested.levels.length < (List.splitOn 47 ([97, 47, 98, 47, 99] : List UInt8)).length) →
        Scenario.nested.standard [97, 47, 98, 47, 99] = true → called = true) := by
  have format : (CString.ofMemory Scenario.nested.bytes).bytes = Scenario.nested.bytes := by decide
  have plain : 43 ∉ ([97, 47, 98, 47, 99] : List UInt8) ∧ 35 ∉ ([97, 47, 98, 47, 99] : List UInt8) := by decide
  exact handler_called_iff Scenario.nested format plain

end TopicFilter

end MqttSnGateway
