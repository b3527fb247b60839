import MqttSnGateway.Mqtt.Packet
import MqttSnGateway.Safety.LoginIndependence

namespace MqttSnGateway

open MQTTPacket

/-- `MQTTConnectFlags`, from the lowest bit on; the first one is not used. -/
structure MQTTConnectFlags where
  cleansession : Bool
  will : Bool
  willQoS : Nat
  willRetain : Bool
  password : Bool
  username : Bool
deriving DecidableEq

namespace MQTTConnectFlags

def all (flags : MQTTConnectFlags) : UInt8 :=
  .ofNat (2 * flags.cleansession.toNat + 4 * flags.will.toNat + 8 * (flags.willQoS % 4) + 32 * flags.willRetain.toNat +
    64 * flags.password.toNat + 128 * flags.username.toNat)

def ofAll (all : UInt8) : MQTTConnectFlags where
  cleansession := all.toNat / 2 % 2 = 1
  will := all.toNat / 4 % 2 = 1
  willQoS := all.toNat / 8 % 4
  willRetain := all.toNat / 32 % 2 = 1
  password := all.toNat / 64 % 2 = 1
  username := all.toNat / 128 % 2 = 1

theorem ofAll_all {flags : MQTTConnectFlags} (qos : flags.willQoS < 4) : ofAll flags.all = flags := by
  obtain ⟨cleansession, will, willQoS, willRetain, password, username⟩ := flags
  simp only at qos
  have bits : (all ⟨cleansession, will, willQoS, willRetain, password, username⟩).toNat =
      2 * cleansession.toNat + 4 * will.toNat + 8 * willQoS + 32 * willRetain.toNat + 64 * password.toNat +
        128 * username.toNat := by
    unfold all
    simp only
    rw [UInt8.toNat_ofNat', Nat.mod_eq_of_lt qos]
    have first := cleansession.toNat_lt
    have second := will.toNat_lt
    have third := willRetain.toNat_lt
    have fourth := password.toNat_lt
    have fifth := username.toNat_lt
    omega
  unfold ofAll
  rw [bits]
  cases cleansession <;> cases will <;> cases willRetain <;> cases password <;> cases username <;>
    simp only [Bool.toNat_true, Bool.toNat_false, mk.injEq, decide_eq_true_eq, decide_eq_false_iff_not] <;> omega

end MQTTConnectFlags

/-- The protocol names of MQTT 3.1 and 3.1.1. -/
def mqisdp : CString := ⟨[77, 81, 73, 115, 100, 112], by decide⟩

def mqtt : CString := ⟨[77, 81, 84, 84], by decide⟩

structure WillFields where
  qos : Nat
  retained : Bool
  topicName : MQTTString
  message : MQTTString
deriving DecidableEq

/-- What `MQTTDeserialize_connect` fills out; the protocol version is not among it. -/
structure ConnectFields where
  cleansession : Bool
  keepAliveInterval : Nat
  clientID : MQTTString
  will : Option WillFields
  username : Option MQTTString
  password : Option MQTTString
deriving DecidableEq

def MQTTString.ofPointer (string : Option CString) : MQTTString := ⟨string, []⟩

namespace MQTTSerialize

def connectLength (options : ConnectData) : Nat :=
  (if options.mqttVersion = 3 then 12 else if options.mqttVersion = 4 then 10 else 0) +
    ((MQTTString.ofCString options.clientID).strlen + 2) +
    (if options.willFlag then
      (MQTTString.ofPointer options.will.topicName).strlen + 2 + ((MQTTString.ofPointer options.will.message).strlen + 2)
    else 0) +
    (if options.username.isSome then (MQTTString.ofPointer options.username).strlen + 2 else 0) +
    if options.password.isSome then (MQTTString.ofPointer options.password).strlen + 2 else 0

def connectFlags (options : ConnectData) : MQTTConnectFlags where
  cleansession := options.cleansession
  will := options.willFlag
  willQoS := if options.willFlag then options.will.qos.toNat else 0
  willRetain := options.willFlag && options.will.retained
  password := options.password.isSome
  username := options.username.isSome

def connect (buflen : Nat) (options : ConnectData) : Option (List UInt8) :=
  let remLen := connectLength options
  if buflen < len remLen then none
  else
    let header : MQTTHeader := ⟨false, 0, false, MsgType.connect.code⟩
    let flags := connectFlags options
    some (header.byte :: encode remLen ++
      (if options.mqttVersion = 4 then writeMQTTString (.ofCString mqtt) ++ [4] else writeMQTTString (.ofCString mqisdp) ++ [3]) ++
      flags.all :: (writeInt options.keepAliveInterval.toNat ++ writeMQTTString (.ofCString options.clientID) ++
      (if options.willFlag then
        writeMQTTString (.ofPointer options.will.topicName) ++ writeMQTTString (.ofPointer options.will.message)
      else []) ++
      (if flags.username then writeMQTTString (.ofPointer options.username) else []) ++
      if flags.password then writeMQTTString (.ofPointer options.password) else []))

end MQTTSerialize

namespace MQTTDeserialize

/-- `MQTTPacket_checkVersion` compares as many bytes as the name in the packet has. -/
def checkVersion (protocol : MQTTString) (version : UInt8) : Bool :=
  version = 3 && protocol.lenstring.take 6 = mqisdp.bytes.take (protocol.lenstring.take 6).length ||
    version = 4 && protocol.lenstring.take 4 = mqtt.bytes.take (protocol.lenstring.take 4).length

/-- The will of a CONNECT whose flag is set; it fails if a string is missing. -/
def will (flags : MQTTConnectFlags) (cursor : Cursor) : Option (Option (Option WillFields × Cursor)) :=
  if flags.will then
    (readMQTTLenString cursor).bind fun (topicName, cursor) =>
      match topicName with
      | none => some none
      | some topicName =>
        (readMQTTLenString cursor).bind fun (message, cursor) =>
          match message with
          | none => some none
          | some message => some (some (some ⟨flags.willQoS, flags.willRetain, topicName, message⟩, cursor))
  else some (some (none, cursor))

/-- A user name or a password, of which a byte must be there at least. -/
def credential (cursor : Cursor) : Option (Option (MQTTString × Cursor)) :=
  if cursor.left < 3 then some none
  else (readMQTTLenString cursor).map fun (string, cursor) => string.map fun string => (string, cursor)

def login (flags : MQTTConnectFlags) (cursor : Cursor) : Option (Option (Option MQTTString × Option MQTTString)) :=
  if flags.username then
    (credential cursor).bind fun read =>
      match read with
      | none => some none
      | some (username, cursor) =>
        if flags.password then
          (credential cursor).map fun read => read.map fun (password, _) => (some username, some password)
        else some (some (some username, none))
  else some (if flags.password then none else some (none, none))

def connectData (cursor : Cursor) : Option (Option ConnectFields) :=
  (readChar cursor).bind fun (all, cursor) =>
    let flags := MQTTConnectFlags.ofAll all
    (readInt cursor).bind fun (keepAliveInterval, cursor) =>
      (readMQTTLenString cursor).bind fun (clientID, cursor) =>
        match clientID with
        | none => some none
        | some clientID =>
          (will flags cursor).bind fun read =>
            match read with
            | none => some none
            | some (will, cursor) =>
              (login flags cursor).map fun read => read.map fun (username, password) =>
                ⟨flags.cleansession, keepAliveInterval, clientID, will, username, password⟩

/-- `MQTTDeserialize_connect`: the connect data, or nothing where it returns 0. -/
def connect (buf : List UInt8) (length : Nat) : Option (Option ConnectFields) :=
  match buf with
  | [] => none
  | first :: data =>
    if (MQTTHeader.ofByte first).type ≠ MsgType.connect.code then some none
    else
      let (len, cursor) := decodeBuf data
      (readMQTTLenString ⟨cursor.data, (length : Int) - 1 - len⟩).bind fun (protocol, cursor) =>
        match protocol with
        | none => some none
        | some protocol =>
          if cursor.left < 0 then some none
          else
            (readChar cursor).bind fun (version, cursor) =>
              if checkVersion protocol version then connectData cursor else some none

end MQTTDeserialize

namespace ConnectData

def fields (options : ConnectData) : ConnectFields where
  cleansession := options.cleansession
  keepAliveInterval := options.keepAliveInterval.toNat
  clientID := ⟨none, options.clientID.bytes⟩
  will :=
    if options.willFlag then
      some ⟨options.will.qos.toNat, options.will.retained, ⟨none, (MQTTString.ofPointer options.will.topicName).bytes⟩,
        ⟨none, (MQTTString.ofPointer options.will.message).bytes⟩⟩
    else none
  username := options.username.map fun name => ⟨none, name.bytes⟩
  password := options.password.map fun word => ⟨none, word.bytes⟩

/-- There is no password without a user name, and what comes last of the two is not empty. -/
def admitted (options : ConnectData) : Bool :=
  match options.username, options.password with
  | none, none => true
  | none, some _ => false
  | some username, none => username ≠ .empty
  | some _, some password => password ≠ .empty

end ConnectData

section RoundTrip

variable {options : ConnectData} {buflen : Nat} {packet rest : List UInt8}

/-- The will and the login of a CONNECT as they are written. -/
def ConnectData.willBytes (options : ConnectData) : List UInt8 :=
  if options.willFlag then
    writeMQTTString (.ofPointer options.will.topicName) ++ writeMQTTString (.ofPointer options.will.message)
  else []

def ConnectData.loginBytes (options : ConnectData) : List UInt8 :=
  (if options.username.isSome then writeMQTTString (.ofPointer options.username) else []) ++
    if options.password.isSome then writeMQTTString (.ofPointer options.password) else []

/-- Every string of the connect data is short enough for its length field. -/
structure ConnectData.Short (options : ConnectData) : Prop where
  clientID : options.clientID.length < 65536
  topicName : options.willFlag = true → (MQTTString.ofPointer options.will.topicName).bytes.length < 65536
  message : options.willFlag = true → (MQTTString.ofPointer options.will.message).bytes.length < 65536
  username : (MQTTString.ofPointer options.username).bytes.length < 65536
  password : (MQTTString.ofPointer options.password).bytes.length < 65536

@[simp] theorem MQTTString.strlen_ofPointer (string : Option CString) :
    (ofPointer string).strlen = (ofPointer string).bytes.length := by
  cases string <;> rfl

theorem MQTTString.bytes_ofPointer_some (s : CString) : (ofPointer (some s)).bytes = s.bytes := rfl

theorem MQTTDeserialize.will_willBytes (short : options.Short) :
    MQTTDeserialize.will (MQTTSerialize.connectFlags options) (.whole (options.willBytes ++ rest)) =
      some (some (options.fields.will, .whole rest)) := by
  unfold MQTTDeserialize.will ConnectData.willBytes MQTTSerialize.connectFlags ConnectData.fields
  cases flag : options.willFlag with
  | false => rfl
  | true =>
    simp only [if_true, List.append_assoc, Bool.true_and]
    rw [readMQTTLenString_whole (short.topicName flag)]
    simp only [Option.bind_some]
    rw [readMQTTLenString_whole (short.message flag)]
    rfl

theorem MQTTDeserialize.credential_whole {string : MQTTString} (rest : List UInt8)
    (short : string.bytes.length < 65536) (more : 0 < string.bytes.length + rest.length) :
    MQTTDeserialize.credential (.whole (writeMQTTString string ++ rest)) =
      some (some (⟨none, string.bytes⟩, .whole rest)) := by
  have length : ¬ (Cursor.whole (writeMQTTString string ++ rest)).left < 3 := by
    simp only [Cursor.whole, List.length_append, length_writeMQTTString]
    omega
  unfold MQTTDeserialize.credential
  rw [if_neg length, readMQTTLenString_whole short]
  rfl

theorem CString.length_pos {s : CString} : 0 < s.bytes.length ↔ s ≠ .empty := by
  rw [Nat.pos_iff_ne_zero]
  exact not_congr CString.length_eq_zero

/-- The login is read back unless the last of its strings is empty. -/
theorem MQTTDeserialize.login_loginBytes (short : options.Short) :
    MQTTDeserialize.login (MQTTSerialize.connectFlags options) (.whole options.loginBytes) =
      some (if options.admitted then some (options.fields.username, options.fields.password) else none) := by
  have first := short.username
  have second := short.password
  obtain ⟨version, clientID, interval, clean, willFlag, will, username, password⟩ := options
  unfold MQTTDeserialize.login ConnectData.loginBytes MQTTSerialize.connectFlags ConnectData.fields ConnectData.admitted
  simp only at first second ⊢
  cases username with
  | none => cases password <;> rfl
  | some name =>
    cases password with
    | none =>
      simp only [Option.isSome_some, Option.isSome_none, if_true, if_neg Bool.false_ne_true]
      by_cases bare : name = .empty
      · subst bare
        rfl
      · rw [credential_whole _ first (Nat.add_pos_left (CString.length_pos.mpr bare) _)]
        simp [bare, MQTTString.bytes_ofPointer_some]
    | some word =>
      simp only [Option.isSome_some, if_true]
      rw [credential_whole _ first (by rw [length_writeMQTTString]; omega)]
      simp only [Option.bind_some]
      by_cases bare : word = .empty
      · subst bare
        rfl
      · have read := credential_whole [] second (Nat.add_pos_left (CString.length_pos.mpr bare) _)
        rw [List.append_nil] at read
        rw [read]
        simp [bare, MQTTString.bytes_ofPointer_some]

/-- Every string of connect data that fits into a buffer fits its length field. -/
theorem ConnectData.Short.of_length (short : MQTTSerialize.connectLength options < 65536) : options.Short := by
  unfold MQTTSerialize.connectLength at short
  simp only [MQTTString.strlen_ofPointer, MQTTString.strlen_ofCString] at short
  refine ⟨by omega, fun flag => ?_, fun flag => ?_, ?_, ?_⟩
  · rw [if_pos flag] at short
    omega
  · rw [if_pos flag] at short
    omega
  · cases given : options.username with
    | none => decide
    | some name =>
      rw [given] at short
      simp only [Option.isSome_some, if_true] at short
      omega
  · cases given : options.password with
    | none => decide
    | some name =>
      rw [given] at short
      simp only [Option.isSome_some, if_true] at short
      omega

/-- What stands behind the protocol version is read back unless the login is refused. -/
theorem MQTTDeserialize.connectData_whole (short : options.Short)
    (qos : options.willFlag = true → options.will.qos.toNat < 4) :
    MQTTDeserialize.connectData (.whole ((MQTTSerialize.connectFlags options).all ::
        (writeInt options.keepAliveInterval.toNat ++
          (writeMQTTString (.ofCString options.clientID) ++ (options.willBytes ++ options.loginBytes))))) =
      some (if options.admitted then some options.fields else none) := by
  have flags : MQTTConnectFlags.ofAll (MQTTSerialize.connectFlags options).all = MQTTSerialize.connectFlags options := by
    apply MQTTConnectFlags.ofAll_all
    unfold MQTTSerialize.connectFlags
    simp only
    split
    · rename_i flag
      exact qos flag
    · decide
  have named : (MQTTString.ofCString options.clientID).bytes.length < 65536 := short.clientID
  unfold MQTTDeserialize.connectData
  rw [readChar_whole]
  simp only [Option.bind_some]
  rw [flags, readInt_whole options.keepAliveInterval.toNat_lt]
  simp only [Option.bind_some]
  rw [readMQTTLenString_whole named]
  simp only [Option.bind_some]
  rw [MQTTDeserialize.will_willBytes short]
  simp only [Option.bind_some]
  rw [MQTTDeserialize.login_loginBytes short]
  cases options.admitted <;> rfl

def ConnectData.body (options : ConnectData) : List UInt8 :=
  (if options.mqttVersion = 4 then writeMQTTString (.ofCString mqtt) ++ [4]
    else writeMQTTString (.ofCString mqisdp) ++ [3]) ++
    (MQTTSerialize.connectFlags options).all :: (writeInt options.keepAliveInterval.toNat ++
      (writeMQTTString (.ofCString options.clientID) ++ (options.willBytes ++ options.loginBytes)))

theorem MQTTSerialize.connect_eq :
    MQTTSerialize.connect buflen options =
      if buflen < len (connectLength options) then none
      else some ((MQTTHeader.mk false 0 false MsgType.connect.code).byte ::
        (encode (connectLength options) ++ options.body)) := by
  unfold MQTTSerialize.connect ConnectData.body ConnectData.willBytes ConnectData.loginBytes
  simp only [List.append_assoc, List.cons_append]
  rfl

theorem ConnectData.length_body (version : options.mqttVersion = 3 ∨ options.mqttVersion = 4) :
    options.body.length = MQTTSerialize.connectLength options := by
  have first : (writeMQTTString (.ofCString mqtt) ++ [4]).length = 7 := rfl
  have second : (writeMQTTString (.ofCString mqisdp) ++ [3]).length = 9 := rfl
  unfold ConnectData.body MQTTSerialize.connectLength ConnectData.willBytes ConnectData.loginBytes
  rw [List.length_append, apply_ite List.length, first, second]
  simp only [List.length_append, List.length_cons, length_writeInt, apply_ite List.length, length_writeMQTTString,
    List.length_nil, MQTTString.strlen_ofPointer, MQTTString.strlen_ofCString, MQTTString.bytes_ofCString]
  change _ + (_ + (2 + options.clientID.length + _) + 1) = _
  have other : (4 : UInt8) ≠ 3 := by decide
  rcases version with old | new
  · simp only [old, if_true, if_neg other.symm]
    split_ifs <;> omega
  · simp only [new, if_true, if_neg other]
    split_ifs <;> omega

theorem MQTTSerialize.connect_framed (version : options.mqttVersion = 3 ∨ options.mqttVersion = 4)
    (small : buflen < 65536) (written : MQTTSerialize.connect buflen options = some packet) :
    (∃ body, Framed ⟨false, 0, false, MsgType.connect.code⟩ body packet) ∧ packet.length ≤ buflen := by
  rw [MQTTSerialize.connect_eq] at written
  split at written
  · cases written
  · rename_i fits
    cases written
    exact Framed.of_fits (by decide) MsgType.connect.code_lt (by omega) fits (ConnectData.length_body version) rfl

/-- A CONNECT is read back if its login is one that is admitted, and refused otherwise. -/
theorem MQTTDeserialize.connect_serialized (version : options.mqttVersion = 3 ∨ options.mqttVersion = 4)
    (qos : options.willFlag = true → options.will.qos.toNat < 4) (small : buflen < 65536)
    (written : MQTTSerialize.connect buflen options = some packet) :
    MQTTDeserialize.connect packet packet.length = some (if options.admitted then some options.fields else none) := by
  rw [MQTTSerialize.connect_eq] at written
  split at written
  · cases written
  · rename_i fits
    cases written
    have bound : MQTTSerialize.connectLength options < 65536 := by
      unfold len at fits
      simp only at fits
      split_ifs at fits <;> omega
    have cursor : (Cursor.mk options.body (((MQTTHeader.mk false 0 false MsgType.connect.code).byte ::
        (encode (MQTTSerialize.connectLength options) ++ options.body)).length - 1 -
          (encode (MQTTSerialize.connectLength options)).length)) = .whole options.body := by
      unfold Cursor.whole
      simp only [List.length_cons, List.length_append, Cursor.mk.injEq, true_and]
      omega
    unfold MQTTDeserialize.connect
    simp only
    rw [MQTTHeader.ofByte_byte (by decide) MsgType.connect.code_lt, decodeBuf_encode (by omega)]
    simp only [ne_eq, not_true_eq_false, if_false]
    rw [cursor]
    have others := MQTTDeserialize.connectData_whole (ConnectData.Short.of_length bound) qos
    unfold ConnectData.body
    rcases version with old | new
    · rw [if_neg (by rw [old]; decide), List.append_assoc, readMQTTLenString_whole (by decide)]
      simp only [Option.bind_some]
      rw [if_neg (by unfold Cursor.whole; simp only; omega), List.singleton_append, readChar_whole]
      exact others
    · rw [if_pos new, List.append_assoc, readMQTTLenString_whole (by decide)]
      simp only [Option.bind_some]
      rw [if_neg (by unfold Cursor.whole; simp only; omega), List.singleton_append, readChar_whole]
      exact others

end RoundTrip

section Configured

open PahoMqttMessageHandler MqttConfiguration

variable {overrun : List UInt8 → Option ConnectData} {ipstack : UInt32 → UInt16 → Bool} {file : List UInt8}
  {stack : Stack} {data : ConnectData} {packet : List UInt8}

/-- What a broker is meant to read out of the CONNECT that belongs to a configuration. -/
def configuredFields (config : MqttConfig) (login : MqttLogin) (will : WillConfig) : ConnectFields where
  cleansession := true
  keepAliveInterval := 60
  clientID := ⟨none, (CString.ofMemory config.clientId).bytes⟩
  will :=
    if will.loaded then
      some ⟨will.willQos.toNat, login.loaded && will.willRetain, ⟨none, (CString.ofMemory will.willTopic).bytes⟩,
        ⟨none, (CString.ofMemory will.willMsg).bytes⟩⟩
    else none
  username := if login.loaded then some ⟨none, (CString.ofMemory login.username).bytes⟩ else none
  password := if login.loaded then some ⟨none, (CString.ofMemory login.password).bytes⟩ else none

theorem MqttLogin.line_password {login : MqttLogin} (buffer : List UInt8)
    (given : login.hasCPassword = true → CString.ofMemory login.password ≠ .empty) :
    (login.line buffer).hasCPassword = true → CString.ofMemory (login.line buffer).password ≠ .empty := by
  unfold MqttLogin.line
  split
  · exact given
  · split
    · simp only
      unfold parseStringAfterSpace
      split
      · intro found
        exact fun empty => (by simpa using found : (CString.ofMemory _).length ≠ 0) (CString.length_eq_zero.mpr empty)
      · intro found
        cases found
    · exact given

theorem login_password (file : List UInt8) (stack : Stack) (loaded : (login file stack).loaded = true) :
    CString.ofMemory (login file stack).password ≠ .empty := by
  have kept : ∀ (lines : List (List UInt8)) (start : MqttLogin),
      (start.hasCPassword = true → CString.ofMemory start.password ≠ .empty) →
      (lines.foldl MqttLogin.line start).hasCPassword = true →
        CString.ofMemory (lines.foldl MqttLogin.line start).password ≠ .empty := by
    intro lines
    induction lines with
    | nil => exact fun _ given => given
    | cons line lines ih => exact fun start given => ih _ (MqttLogin.line_password line given)
  unfold MqttLogin.loaded at loaded
  rw [Bool.and_eq_true] at loaded
  exact kept _ ⟨_, _, false, false⟩ (fun impossible => absurd impossible Bool.false_ne_true) loaded.2

/-- What is handed on is written in a version that a broker knows, and a broker does not refuse it. -/
theorem selectedConnect_valid {config : MqttConfig} {login : MqttLogin} {will : WillConfig}
    (named : login.loaded = true → CString.ofMemory login.password ≠ .empty)
    (handed : selectedConnect config login will = some data) :
    (data.mqttVersion = 3 ∨ data.mqttVersion = 4) ∧ (data.willFlag = true → data.will.qos.toNat < 4) ∧
      data.admitted = true ∧ data.fields = configuredFields config login will := by
  have level : ∀ qos, validQos qos = true → qos.toNat < 4 := by
    intro qos valid
    unfold validQos at valid
    simp only [Bool.or_eq_true, decide_eq_true_eq] at valid
    rcases valid with (rfl | rfl) | rfl <;> decide
  unfold selectedConnect connectLoginWill connectLogin connectWill connect at handed
  unfold configuredFields
  cases given : login.loaded <;> cases willed : will.loaded <;> simp only [given, willed] at handed named ⊢
  · cases handed
    exact ⟨.inl rfl, fun impossible => absurd impossible Bool.false_ne_true, rfl, rfl⟩
  · simp only [Bool.false_and, Bool.false_eq_true, if_false, if_true] at handed
    split at handed
    · rename_i valid
      cases handed
      exact ⟨.inr rfl, fun _ => level _ valid, rfl, rfl⟩
    · cases handed
  · cases handed
    exact ⟨.inr rfl, fun impossible => absurd impossible Bool.false_ne_true, by simpa [ConnectData.admitted] using named, rfl⟩
  · simp only [Bool.and_self, if_true] at handed
    split at handed
    · rename_i valid
      cases handed
      exact ⟨.inr rfl, fun _ => level _ valid, by simpa [ConnectData.admitted] using named, rfl⟩
    · cases handed

/-- No text of the configuration is too long for its buffer, and no line of one for the line buffer. -/
structure StringsFit (file : List UInt8) : Prop where
  clientId : clientIdSetting.Fits file
  username : usernameSetting.Fits file
  password : passwordSetting.Fits file
  willTopic : willTopicSetting.Fits file
  willMsg : willMsgSetting.Fits file

theorem StringsFit.contained (fit : StringsFit file) (stack : Stack) : Contained file stack :=
  ⟨StringSetting.bounded_iff.mpr fit.clientId _, fun _ =>
    ⟨⟨StringSetting.bounded_iff.mpr fit.username _, StringSetting.bounded_iff.mpr fit.password _⟩,
      StringSetting.bounded_iff.mpr fit.willTopic _, StringSetting.bounded_iff.mpr fit.willMsg _⟩⟩

/-- The strings that are handed on: the will as long as a line at most, the others as long as their buffers. -/
theorem StringsFit.lengths (fit : StringsFit file) (stack : Stack) :
    (CString.ofMemory (config file stack).clientId).length < 24 ∧
      (CString.ofMemory (login file stack).username).length < 24 ∧
      (CString.ofMemory (login file stack).password).length < 24 ∧
      (CString.ofMemory (will file stack).willTopic).length < 128 ∧
      (CString.ofMemory (will file stack).willMsg).length < 128 := by
  have clientId : (config file stack).clientId = (clientIdSetting.read file stack.config).2 :=
    congrArg Prod.snd (clientId_read _ _)
  have username : (login file stack).username = (usernameSetting.read file stack.login).2 := congrArg Prod.snd username_read
  have password : (login file stack).password = (passwordSetting.read file stack.login).2 := congrArg Prod.snd password_read
  have willTopic : (will file stack).willTopic = (willTopicSetting.read file stack.will).2 :=
    congrArg Prod.snd (willTopic_read 0 false)
  have willMsg : (will file stack).willMsg = (willMsgSetting.read file stack.will).2 :=
    congrArg Prod.snd (willMsg_read 0 false)
  rw [clientId, username, password, willTopic, willMsg]
  exact ⟨(StringSetting.length_read fit.clientId _ (by decide) (by decide)).1,
    (StringSetting.length_read fit.username _ (by decide) (by decide)).1,
    (StringSetting.length_read fit.password _ (by decide) (by decide)).1,
    (StringSetting.length_read fit.willTopic _ (by decide) (by decide)).2,
    (StringSetting.length_read fit.willMsg _ (by decide) (by decide)).2⟩

namespace Scenario

end Scenario

end Configured

end MqttSnGateway
