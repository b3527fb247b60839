import MqttSnGateway.Core.Gateway
import MqttSnGateway.Safety.StringSettings

namespace MqttSnGateway

open MqttConfiguration

structure WillOptions where
  topicName : Option CString
  message : Option CString
  retained : Bool
  qos : UInt8
deriving DecidableEq

structure ConnectData where
  mqttVersion : UInt8
  clientID : CString
  keepAliveInterval : UInt16
  cleansession : Bool
  willFlag : Bool
  will : WillOptions
  username : Option CString
  password : Option CString
deriving DecidableEq

/-- `MQTTPacket_connectData_initializer` with the client id that every overload sets. -/
def ConnectData.initializer (id : CString) : ConnectData :=
  ⟨4, id, 60, true, false, ⟨none, none, false, 0⟩, none, none⟩

namespace PahoMqttMessageHandler

/-- The QoS values that `connect` lets through. -/
def validQos (willQos : UInt8) : Bool := willQos = 0 || willQos = 1 || willQos = 2

def connect (id : CString) : Option ConnectData := some { ConnectData.initializer id with mqttVersion := 3 }

def connectLogin (id user pass : CString) : Option ConnectData :=
  some { ConnectData.initializer id with username := user, password := pass }

/-- `connect(id, willTopic, willQos, willRetain, willMessage, willMessageLength)`: the line that would set the
    retain flag is commented out. -/
def connectWill (id willTopic : CString) (willQos : UInt8) (_willRetain : Bool) (willMessage : CString) :
    Option ConnectData :=
  if validQos willQos then
    some { ConnectData.initializer id with willFlag := true, will := ⟨willTopic, willMessage, false, willQos⟩ }
  else none

def connectLoginWill (id user pass willTopic : CString) (willQos : UInt8) (willRetain : Bool) (willMessage : CString) :
    Option ConnectData :=
  if validQos willQos then
    some
      { ConnectData.initializer id with
        username := user, password := pass
        willFlag := true, will := ⟨willTopic, willMessage, willRetain, willQos⟩ }
  else none

/-- `ip_address` after `setServer`: the first byte is shifted as an `int`, whose sign fills the upper half. -/
def setServer (ip : List UInt8) : Int :=
  (BitVec.ofNat 32 (ip.foldl (fun address byte => 256 * address + byte.toNat) 0)).toInt

/-- The memory behind the line buffers of the three readers. -/
structure Stack where
  config : List UInt8
  login : List UInt8
  will : List UInt8

def config (file : List UInt8) (stack : Stack) : MqttConfig :=
  getMqttConfig file stack.config (.replicate 4 0) 0 (.replicate 24 0)

def login (file : List UInt8) (stack : Stack) : MqttLogin :=
  getMqttLoginConfig file stack.login (.replicate 24 0) (.replicate 24 0)

def will (file : List UInt8) (stack : Stack) : WillConfig :=
  getMqttWill file stack.will (.replicate 255 0) (.replicate 255 0) 0 false

def selectedConnect (config : MqttConfig) (login : MqttLogin) (will : WillConfig) : Option ConnectData :=
  let clientId := CString.ofMemory config.clientId
  let username := CString.ofMemory login.username
  let password := CString.ofMemory login.password
  let willTopic := CString.ofMemory will.willTopic
  let willMsg := CString.ofMemory will.willMsg
  if login.loaded && will.loaded then
    connectLoginWill clientId username password willTopic will.willQos will.willRetain willMsg
  else if login.loaded then connectLogin clientId username password
  else if will.loaded then connectWill clientId willTopic will.willQos will.willRetain willMsg
  else connect clientId

/-- What comes before the connect data in every overload: the network connection, which `ipstack` accepts or not. -/
def reaches (ipstack : UInt32 → UInt16 → Bool) (config : MqttConfig) : Bool :=
  let address := setServer config.serverIp
  address ≠ -1 && ipstack (.ofInt address) config.serverPort

/-- Every text that is copied leaves room for its terminator in `client_id`, `username`, `password`, `will_topic` or
    `will_msg`; the last four are read only with the rest of the configuration. -/
def Contained (file : List UInt8) (stack : Stack) : Prop :=
  clientIdSetting.Bounded file stack.config ∧ ((config file stack).loaded = true →
    (usernameSetting.Bounded file stack.login ∧ passwordSetting.Bounded file stack.login) ∧
      willTopicSetting.Bounded file stack.will ∧ willMsgSetting.Bounded file stack.will)

instance (file : List UInt8) (stack : Stack) : Decidable (Contained file stack) := inferInstanceAs (Decidable (_ ∧ (_ → _)))

/-- `getConfigAndConnect`: the data it hands to `client->connect`, whose result it then returns. Without it
    returns false. What a text that is too long for its buffer makes of it is up to `overrun`. -/
def getConfigAndConnect (overrun : List UInt8 → Option ConnectData) (ipstack : UInt32 → UInt16 → Bool) (file : List UInt8)
    (stack : Stack) : Option ConnectData :=
  if ¬ Contained file stack then overrun file
  else if (config file stack).loaded && reaches ipstack (config file stack) then
    selectedConnect (config file stack) (login file stack) (will file stack)
  else none

end PahoMqttMessageHandler

/-- A valid username or password line: a text without zero byte that fits into 24 bytes with its terminator. -/
def isLogin (line : List UInt8) : Bool :=
  [cUsername, cPassword].any fun key =>
    (key ++ [32]).isPrefixOf line && 2 ≤ line.length - key.length && line.length - key.length ≤ 24 && 0 ∉ line

/-- Two contents of MQTT.CON as their lines, which differ only in valid username and password lines. -/
structure LoginPair where
  first : List (List UInt8)
  second : List (List UInt8)
  plainFirst : ∀ line ∈ first, 10 ∉ line
  plainSecond : ∀ line ∈ second, 10 ∉ line
  same : first.filter (!isLogin ·) = second.filter (!isLogin ·)

section Ignored

variable {line : List UInt8}

theorem isLogin_cases (login : isLogin line = true) :
    (∃ text, line = cUsername ++ 32 :: text ∨ line = cPassword ++ 32 :: text) ∧ line.length ≤ 32 := by
  unfold isLogin at login
  simp only [List.any_cons, List.any_nil, Bool.or_false, Bool.or_eq_true, Bool.and_eq_true, decide_eq_true_eq,
    List.isPrefixOf_iff_prefix] at login
  rcases login with ⟨⟨⟨⟨text, whole⟩, _⟩, short⟩, _⟩ | ⟨⟨⟨⟨text, whole⟩, _⟩, short⟩, _⟩
  all_goals
    rw [List.append_assoc, List.singleton_append] at whole
  · refine ⟨⟨text, .inl whole.symm⟩, ?_⟩
    have key : cUsername.length = 8 := rfl
    omega
  · refine ⟨⟨text, .inr whole.symm⟩, ?_⟩
    have key : cPassword.length = 8 := rfl
    omega

theorem isLogin_short (login : isLogin line = true) {size : Nat} (room : 32 < size) : line ≠ [] ∧ line.length < size := by
  rcases isLogin_cases login with ⟨⟨text, whole⟩, short⟩
  refine ⟨?_, by omega⟩
  rintro rfl
  rcases whole with whole | whole <;> cases whole

/-- A reader that does nothing on valid username and password lines finds the same in both contents. -/
theorem LoginPair.foldl_buffers {σ : Type} (pair : LoginPair) {size : Nat} (room : 32 < size) (beyond : List UInt8)
    (step : σ → List UInt8 → σ)
    (ignores : ∀ state line, isLogin line = true → step state (lineBuffer size line beyond) = state) (state : σ) :
    (buffers size (LineReader.joined 10 pair.first) beyond).foldl step state =
      (buffers size (LineReader.joined 10 pair.second) beyond).foldl step state := by
  have filtered : ∀ lines : List (List UInt8),
      (lines.map fun line => lineBuffer size line beyond).foldl step state =
        ((lines.filter (!isLogin ·)).map fun line => lineBuffer size line beyond).foldl step state := by
    intro lines
    rw [List.foldl_map, List.foldl_map, List.foldl_filter]
    congr 1
    funext state line
    cases login : isLogin line with
    | true => exact ignores state line login
    | false => rfl
  have fits : ∀ line, (!isLogin line) = false → line ≠ [] ∧ line.length < size := by
    intro line login
    exact isLogin_short (by simpa using login) room
  have read := LineReader.lines_joined_filter 10 size (!isLogin ·) pair.plainFirst
    (fun line _ => fits line)
  have other := LineReader.lines_joined_filter 10 size (!isLogin ·) pair.plainSecond
    (fun line _ => fits line)
  rw [buffers, buffers, filtered, filtered (LineReader.lines 10 size (LineReader.joined 10 pair.second)), read, other,
    pair.same]

end Ignored

namespace LoginPair

open PahoMqttMessageHandler

variable (pair : LoginPair) (stack : Stack)

def firstFile : List UInt8 := LineReader.joined 10 pair.first

def secondFile : List UInt8 := LineReader.joined 10 pair.second

theorem config_eq : config pair.firstFile stack = config pair.secondFile stack := by
  apply pair.foldl_buffers (by decide)
  intro state line login
  obtain ⟨text, rfl | rfl⟩ := (isLogin_cases login).1 <;> rfl

theorem will_eq : will pair.firstFile stack = will pair.secondFile stack := by
  apply pair.foldl_buffers (by decide)
  intro state line login
  obtain ⟨text, rfl | rfl⟩ := (isLogin_cases login).1 <;> rfl

end LoginPair

section Handed

open PahoMqttMessageHandler

def ConnectData.withoutLogin (data : ConnectData) : ConnectData := { data with username := none, password := none }

def ConnectData.identity (data : ConnectData) : CString × Bool × WillOptions := (data.clientID, data.willFlag, data.will)

/-- The client id and the will are the configured ones. -/
def ConnectData.Configured (data : ConnectData) (config : MqttConfig) (will : WillConfig) : Prop :=
  data.clientID = .ofMemory config.clientId ∧ data.willFlag = will.loaded ∧
    (will.loaded = true → data.will =
      ⟨some (.ofMemory will.willTopic), some (.ofMemory will.willMsg), will.willRetain, will.willQos⟩)

variable (config : MqttConfig) (login : MqttLogin) (will : WillConfig)

/-- What is handed on without user name and password: with a will the retain flag needs a login, and without a
    will the protocol version depends on it. -/
theorem selectedConnect_withoutLogin :
    (selectedConnect config login will).map ConnectData.withoutLogin =
      if will.loaded then
        if validQos will.willQos then
          some
            { ConnectData.initializer (.ofMemory config.clientId) with
              willFlag := true
              will := ⟨some (.ofMemory will.willTopic), some (.ofMemory will.willMsg),
                login.loaded && will.willRetain, will.willQos⟩ }
        else none
      else
        some { ConnectData.initializer (.ofMemory config.clientId) with mqttVersion := if login.loaded then 4 else 3 } := by
  unfold selectedConnect connectLoginWill connectLogin connectWill connect
  cases login.loaded <;> cases will.loaded <;> cases validQos will.willQos <;> rfl

theorem selectedConnect_identity :
    (selectedConnect config login will).map ConnectData.identity =
      if will.loaded then
        if validQos will.willQos then
          some (.ofMemory config.clientId, true, ⟨some (.ofMemory will.willTopic), some (.ofMemory will.willMsg),
            login.loaded && will.willRetain, will.willQos⟩)
        else none
      else some (.ofMemory config.clientId, false, ⟨none, none, false, 0⟩) := by
  have view : ∀ handed : Option ConnectData,
      handed.map ConnectData.identity = (handed.map ConnectData.withoutLogin).map ConnectData.identity := by
    intro handed
    rw [Option.map_map]
    rfl
  rw [view, selectedConnect_withoutLogin]
  cases will.loaded <;> cases validQos will.willQos <;> rfl

theorem selectedConnect_configured :
    (∀ data, selectedConnect config login will = some data → data.Configured config will) ↔
      (will.loaded = true → validQos will.willQos = true → (login.loaded && will.willRetain) = will.willRetain) := by
  have identity := selectedConnect_identity config login will
  cases handed : selectedConnect config login will with
  | none =>
    rw [handed] at identity
    refine iff_of_true (by simp) ?_
    intro loaded valid
    rw [if_pos loaded, if_pos valid] at identity
    cases identity
  | some data =>
    rw [handed, Option.map_some] at identity
    simp only [Option.some.injEq, forall_eq', ConnectData.Configured]
    cases loaded : will.loaded with
    | false =>
      rw [loaded, if_neg Bool.false_ne_true] at identity
      have same := Option.some.inj identity
      refine iff_of_true ⟨congrArg Prod.fst same, congrArg (fun parts => parts.2.1) same, ?_⟩ ?_
      all_goals exact fun impossible => absurd impossible Bool.false_ne_true
    | true =>
      rw [loaded, if_pos rfl] at identity
      cases valid : validQos will.willQos with
      | false =>
        rw [valid] at identity
        cases identity
      | true =>
        rw [valid, if_pos rfl] at identity
        have same := Option.some.inj identity
        have options : data.will = _ := congrArg (fun parts => parts.2.2) same
        rw [options]
        constructor
        · intro configured _ _
          exact congrArg WillOptions.retained (configured.2.2 rfl)
        · intro retained
          refine ⟨congrArg Prod.fst same, congrArg (fun parts => parts.2.1) same, fun _ => ?_⟩
          show WillOptions.mk _ _ (login.loaded && will.willRetain) _ = _
          rw [retained rfl rfl]

end Handed

namespace LoginPair

open PahoMqttMessageHandler

variable (pair : LoginPair) (ipstack : UInt32 → UInt16 → Bool) (stack : Stack)

section Definitions

variable (overrun : List UInt8 → Option ConnectData)

/-- Both contents hand on the same as far as `view` shows it, or both nothing, and it is the configured one. -/
def Alike {α : Type} (view : ConnectData → α) : Prop :=
  (getConfigAndConnect overrun ipstack pair.firstFile stack).map view =
      (getConfigAndConnect overrun ipstack pair.secondFile stack).map view ∧
    (∀ data, getConfigAndConnect overrun ipstack pair.firstFile stack = some data →
      data.Configured (config pair.firstFile stack) (will pair.firstFile stack)) ∧
    ∀ data, getConfigAndConnect overrun ipstack pair.secondFile stack = some data →
      data.Configured (config pair.secondFile stack) (will pair.secondFile stack)

end Definitions

/-- No text of either content is too long for its buffer. -/
def BothContained : Prop := Contained pair.firstFile stack ∧ Contained pair.secondFile stack

/-- The contents are complete and the broker is reached. -/
def Connects : Prop :=
  (config pair.firstFile stack).loaded = true ∧ reaches ipstack (config pair.firstFile stack) = true

/-- Of the will that both contents have, everything is handed on. -/
def RetainKept : Prop :=
  validQos (will pair.firstFile stack).willQos = false ∨ (will pair.firstFile stack).willRetain = false ∨
    (login pair.firstFile stack).loaded = true ∧ (login pair.secondFile stack).loaded = true

variable {pair ipstack stack} in
theorem contained_of_alike {α : Type} {view : ConnectData → α} (alike : ∀ overrun, pair.Alike ipstack stack overrun view) :
    pair.BothContained stack := by
  -- Connect data with a will where none is configured, or without the configured one.
  have uncontained : ∀ config will, ∃ data : ConnectData, ¬ data.Configured config will := by
    intro config will
    refine ⟨{ ConnectData.initializer .empty with willFlag := !will.loaded }, fun configured => ?_⟩
    have same : (!will.loaded) = will.loaded := configured.2.1
    simp at same
  constructor
  · by_contra overruns
    obtain ⟨data, other⟩ := uncontained (config pair.firstFile stack) (will pair.firstFile stack)
    exact other ((alike fun _ => data).2.1 data (if_pos overruns))
  · by_contra overruns
    obtain ⟨data, other⟩ := uncontained (config pair.secondFile stack) (will pair.secondFile stack)
    exact other ((alike fun _ => data).2.2 data (if_pos overruns))

variable {pair stack} in
theorem alike_cases {α : Type} (contained : pair.BothContained stack) (overrun : List UInt8 → Option ConnectData)
    (view : ConnectData → α) :
    pair.Alike ipstack stack overrun view ↔
      ¬ pair.Connects ipstack stack ∨
        (selectedConnect (config pair.firstFile stack) (login pair.firstFile stack) (will pair.firstFile stack)).map
            view =
          (selectedConnect (config pair.firstFile stack) (login pair.secondFile stack) (will pair.firstFile stack)).map
            view ∧
        ((will pair.firstFile stack).loaded = true → pair.RetainKept stack) := by
  have configs := pair.config_eq stack
  have wills := pair.will_eq stack
  unfold Alike getConfigAndConnect
  rw [if_neg (not_not_intro contained.1), if_neg (not_not_intro contained.2), ← configs, ← wills]
  by_cases connects : pair.Connects ipstack stack
  · have passed : ((config pair.firstFile stack).loaded && reaches ipstack (config pair.firstFile stack)) = true :=
      Bool.and_eq_true_iff.mpr connects
    rw [if_pos passed, if_pos passed, selectedConnect_configured, selectedConnect_configured]
    simp only [connects, not_true_eq_false, false_or, RetainKept]
    apply and_congr_right
    intro _
    cases (will pair.firstFile stack).loaded <;> cases validQos (will pair.firstFile stack).willQos <;>
      cases (will pair.firstFile stack).willRetain <;> cases (login pair.firstFile stack).loaded <;>
      cases (login pair.secondFile stack).loaded <;> simp
  · have stopped : ¬ ((config pair.firstFile stack).loaded && reaches ipstack (config pair.firstFile stack)) = true :=
      fun passed => connects (Bool.and_eq_true_iff.mp passed)
    rw [if_neg stopped, if_neg stopped]
    simp [connects]

variable {pair ipstack stack} in
theorem alike_iff {α : Type} {view : ConnectData → α} {condition : Prop}
    (contained_iff : pair.BothContained stack → ∀ overrun, (pair.Alike ipstack stack overrun view ↔ condition)) :
    (∀ overrun, pair.Alike ipstack stack overrun view) ↔ pair.BothContained stack ∧ condition := by
  constructor
  · intro alike
    have contained := contained_of_alike alike
    exact ⟨contained, (contained_iff contained fun _ => none).mp (alike fun _ => none)⟩
  · exact fun holds overrun => (contained_iff holds.1 overrun).mpr holds.2

/-- Whatever a text that is too long makes of it: apart from user name and password, both contents hand on the same, and
    the configured will, if and only if every text fits its buffer and no connection is made, or there is a will whose
    QoS is refused, whose retain flag is not set or which comes with a login in both, or there is no will and a login
    in both or in none. Without the protocol version, a configuration without will needs nothing else. -/
theorem login_changes_nothing_else :
    ((∀ overrun, pair.Alike ipstack stack overrun ConnectData.withoutLogin) ↔
      pair.BothContained stack ∧ (¬ pair.Connects ipstack stack ∨
        (will pair.firstFile stack).loaded = true ∧ pair.RetainKept stack ∨
        (will pair.firstFile stack).loaded = false ∧
          (login pair.firstFile stack).loaded = (login pair.secondFile stack).loaded)) ∧
    ((∀ overrun, pair.Alike ipstack stack overrun ConnectData.identity) ↔
      pair.BothContained stack ∧
        (¬ pair.Connects ipstack stack ∨ (will pair.firstFile stack).loaded = false ∨ pair.RetainKept stack)) := by
  constructor
  · apply alike_iff
    intro contained overrun
    rw [alike_cases ipstack contained, selectedConnect_withoutLogin, selectedConnect_withoutLogin]
    unfold RetainKept
    cases loaded : (will pair.firstFile stack).loaded with
    | false =>
      apply or_congr_right
      cases (login pair.firstFile stack).loaded <;> cases (login pair.secondFile stack).loaded <;>
        simp [ConnectData.initializer]
    | true =>
      cases validQos (will pair.firstFile stack).willQos <;> cases (will pair.firstFile stack).willRetain <;>
        cases (login pair.firstFile stack).loaded <;> cases (login pair.secondFile stack).loaded <;>
        simp [ConnectData.initializer]
  · apply alike_iff
    intro contained overrun
    rw [alike_cases ipstack contained, selectedConnect_identity, selectedConnect_identity]
    unfold RetainKept
    cases loaded : (will pair.firstFile stack).loaded with
    | false => simp
    | true =>
      cases validQos (will pair.firstFile stack).willQos <;> cases (will pair.firstFile stack).willRetain <;>
        cases (login pair.firstFile stack).loaded <;> cases (login pair.secondFile stack).loaded <;>
        simp

end LoginPair

namespace Scenario

open PahoMqttMessageHandler

def gatewayLines : List (List UInt8) :=
  [bAddr ++ ascii [' ', '1', '0', '.', '0', '.', '0', '.', '1', '1'], bPort ++ ascii [' ', '1', '8', '8', '3'],
    cId ++ ascii [' ', 'g'], wTopic ++ ascii [' ', 't'], wMsg ++ ascii [' ', 'm'], wQos ++ ascii [' ', '1'],
    wRetain ++ ascii [' ', '1']]

def retainedWill : LoginPair where
  first := gatewayLines ++ [cUsername ++ ascii [' ', 'u'], cPassword ++ ascii [' ', 'p']]
  second := gatewayLines
  plainFirst := by decide +kernel
  plainSecond := by decide +kernel
  same := by decide +kernel

/-- Without the login the retain flag of the will is lost. -/
theorem retain_lost :
    ¬ retainedWill.Alike (fun _ _ => true) ⟨[], [], []⟩ (fun _ => none) ConnectData.identity := by
  intro alike
  have first : (getConfigAndConnect (fun _ => none) (fun _ _ => true) retainedWill.firstFile ⟨[], [], []⟩).map
      (fun data => data.will.retained) = some true := by decide +kernel
  have second : (getConfigAndConnect (fun _ => none) (fun _ _ => true) retainedWill.secondFile ⟨[], [], []⟩).map
      (fun data => data.will.retained) = some false := by decide +kernel
  have same := congrArg (Option.map fun parts => parts.2.2.retained) alike.1
  rw [Option.map_map, Option.map_map] at same
  have retained : some true = some false := first.symm.trans (same.trans second)
  exact absurd retained (by decide)

end Scenario

end MqttSnGateway
