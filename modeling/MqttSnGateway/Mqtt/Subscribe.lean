import MqttSnGateway.Mqtt.Publish

namespace MqttSnGateway

open MQTTPacket

structure SubscribeFields where
  dup : Bool
  packetid : Nat
  topicFilters : List (MQTTString × UInt8)
deriving DecidableEq

structure UnsubscribeFields where
  dup : Bool
  packetid : Nat
  topicFilters : List MQTTString
deriving DecidableEq

structure SubackFields where
  packetid : Nat
  grantedQoSs : List UInt8
deriving DecidableEq

structure ConnackFields where
  sessionPresent : Bool
  connackRc : UInt8
deriving DecidableEq

namespace MQTTSerialize

/-- `MQTTSerialize_subscribeLength`, and `MQTTSerialize_unsubscribeLength` where no byte follows a topic filter. -/
def filtersLength (behind : Nat) (topicFilters : List MQTTString) : Nat :=
  topicFilters.foldl (fun len topicFilter => len + 2 + topicFilter.strlen + behind) 2

def subscribe (buflen : Nat) (dup : Bool) (packetid : UInt16) (topicFilters : List (MQTTString × UInt8)) :
    Option (List UInt8) :=
  let remLen := filtersLength 1 (topicFilters.map Prod.fst)
  if buflen < len remLen then none
  else
    let header : MQTTHeader := ⟨false, 1, dup, MsgType.subscribe.code⟩
    some (header.byte :: encode remLen ++ writeInt packetid.toNat ++
      topicFilters.flatMap fun (topicFilter, requestedQoS) => writeMQTTString topicFilter ++ [requestedQoS])

def unsubscribe (buflen : Nat) (dup : Bool) (packetid : UInt16) (topicFilters : List MQTTString) : Option (List UInt8) :=
  let remLen := filtersLength 0 topicFilters
  if buflen < len remLen then none
  else
    let header : MQTTHeader := ⟨false, 1, dup, MsgType.unsubscribe.code⟩
    some (header.byte :: encode remLen ++ writeInt packetid.toNat ++ topicFilters.flatMap writeMQTTString)

/-- `MQTTSerialize_suback`; the check leaves out the header and the packet id. -/
def suback (buflen : Nat) (packetid : UInt16) (grantedQoSs : List UInt8) : Option (List UInt8) :=
  if buflen < 2 + grantedQoSs.length then none
  else
    let header : MQTTHeader := ⟨false, 0, false, MsgType.suback.code⟩
    some (header.byte :: encode (2 + grantedQoSs.length) ++ writeInt packetid.toNat ++ grantedQoSs)

def unsuback (buflen : Nat) (packetid : UInt16) : Option (List UInt8) :=
  if buflen < 2 then none
  else
    let header : MQTTHeader := ⟨false, 0, false, MsgType.unsuback.code⟩
    some (header.byte :: encode 2 ++ writeInt packetid.toNat)

/-- `MQTTSerialize_connack`; the session present flag is the highest bit of its byte. -/
def connack (buflen : Nat) (connackRc : UInt8) (sessionPresent : Bool) : Option (List UInt8) :=
  if buflen < 2 then none
  else
    let header : MQTTHeader := ⟨false, 0, false, MsgType.connack.code⟩
    some (header.byte :: encode 2 ++ [if sessionPresent then 128 else 0, connackRc])

def zero (buflen : Nat) (packettype : MsgType) : Option (List UInt8) :=
  if buflen < 2 then none
  else
    let header : MQTTHeader := ⟨false, 0, false, packettype.code⟩
    some (header.byte :: encode 0)

end MQTTSerialize

namespace MQTTDeserialize

/-- The loop of `MQTTDeserialize_subscribe`; each round takes more than one byte of the `rounds`. -/
def subscribeFilters : Nat → Cursor → Option (Option (List (MQTTString × UInt8)))
  | 0, cursor => some (if cursor.left ≤ 0 then some [] else none)
  | rounds + 1, cursor =>
    if cursor.left ≤ 0 then some (some [])
    else
      (readMQTTLenString cursor).bind fun (topicFilter, cursor) =>
        match topicFilter with
        | none => some none
        | some topicFilter =>
          if cursor.left ≤ 0 then some none
          else
            (readChar cursor).bind fun (requestedQoS, cursor) =>
              (subscribeFilters rounds cursor).map fun rest => rest.map fun rest => (topicFilter, requestedQoS) :: rest

/-- `MQTTDeserialize_subscribe` with arrays that are large enough. -/
def subscribe (buf : List UInt8) : Option (Deserialized SubscribeFields) :=
  match buf with
  | [] => none
  | first :: data =>
    let header := MQTTHeader.ofByte first
    if header.type ≠ MsgType.subscribe.code then some ⟨-1, none⟩
    else
      let (rc, cursor) := decodeBuf data
      (readInt cursor).bind fun (packetid, cursor) =>
        (subscribeFilters data.length cursor).map fun read =>
          match read with
          | none => ⟨rc, none⟩
          | some topicFilters => ⟨1, some ⟨header.dup, packetid, topicFilters⟩⟩

def unsubscribeFilters : Nat → Cursor → Option (Option (List MQTTString))
  | 0, cursor => some (if cursor.left ≤ 0 then some [] else none)
  | rounds + 1, cursor =>
    if cursor.left ≤ 0 then some (some [])
    else
      (readMQTTLenString cursor).bind fun (topicFilter, cursor) =>
        match topicFilter with
        | none => some none
        | some topicFilter =>
          (unsubscribeFilters rounds cursor).map fun rest => rest.map fun rest => topicFilter :: rest

/-- `MQTTDeserialize_unsubscribe` with an array that is large enough. -/
def unsubscribe (buf : List UInt8) : Option (Deserialized UnsubscribeFields) :=
  match buf with
  | [] => none
  | first :: data =>
    let header := MQTTHeader.ofByte first
    if header.type ≠ MsgType.unsubscribe.code then some ⟨0, none⟩
    else
      let (rc, cursor) := decodeBuf data
      (readInt cursor).bind fun (packetid, cursor) =>
        (unsubscribeFilters data.length cursor).map fun read =>
          match read with
          | none => ⟨rc, none⟩
          | some topicFilters => ⟨1, some ⟨header.dup, packetid, topicFilters⟩⟩

/-- `MQTTDeserialize_suback`: one granted QoS more than `maxcount` is still stored. -/
def suback (maxcount : Nat) (buf : List UInt8) : Option (Deserialized SubackFields) :=
  match buf with
  | [] => none
  | first :: data =>
    if (MQTTHeader.ofByte first).type ≠ MsgType.suback.code then some ⟨0, none⟩
    else
      let (rc, cursor) := decodeBuf data
      if cursor.left < 2 then some ⟨rc, none⟩
      else
        (readInt cursor).bind fun (packetid, cursor) =>
          if (maxcount : Int) + 1 < cursor.left then some ⟨-1, none⟩
          else if cursor.data.length < cursor.left then none
          else some ⟨1, some ⟨packetid, cursor.data.take cursor.left.toNat⟩⟩

/-- `MQTTDeserialize_unsuback`: the right type makes up for a missing packet id. -/
def unsuback (buf : List UInt8) : Option (Deserialized Nat) :=
  match buf with
  | [] => none
  | first :: _ =>
    (ack buf).map fun read =>
      ⟨if (MQTTHeader.ofByte first).type = MsgType.unsuback.code then 1 else read.rc, read.fields.map AckFields.packetid⟩

def connack (buf : List UInt8) : Option (Deserialized ConnackFields) :=
  match buf with
  | [] => none
  | first :: data =>
    if (MQTTHeader.ofByte first).type ≠ MsgType.connack.code then some ⟨0, none⟩
    else
      let (rc, cursor) := decodeBuf data
      if cursor.left < 2 then some ⟨rc, none⟩
      else
        (readChar cursor).bind fun (flags, cursor) =>
          (readChar cursor).map fun (connackRc, _) => ⟨1, some ⟨128 ≤ flags.toNat, connackRc⟩⟩

end MQTTDeserialize

section RoundTrips

variable {buflen : Nat} {dup : Bool} {packetid : UInt16} {requests : List (MQTTString × UInt8)}
  {topicFilters : List MQTTString} {packet rest : List UInt8} {type : MsgType}

/-- What is written for one topic filter and its QoS. -/
abbrev writeFilter (request : MQTTString × UInt8) : List UInt8 := writeMQTTString request.1 ++ [request.2]

def MQTTString.asRead (string : MQTTString) : MQTTString := ⟨none, string.bytes⟩

theorem length_subscribeFilters (single : ∀ request ∈ requests, request.1.Single) :
    2 + (requests.flatMap writeFilter).length = MQTTSerialize.filtersLength 1 (requests.map Prod.fst) := by
  suffices counted : ∀ len, len + (requests.flatMap writeFilter).length =
      (requests.map Prod.fst).foldl (fun len topicFilter => len + 2 + topicFilter.strlen + 1) len from counted 2
  intro len
  induction requests generalizing len with
  | nil => rfl
  | cons request requests ih =>
    have head := (single request List.mem_cons_self).length_bytes
    simp only [List.flatMap_cons, List.length_append, length_writeMQTTString, List.length_singleton, List.map_cons,
      List.foldl_cons, ← ih fun other member => single other (List.mem_cons_of_mem _ member)]
    omega

theorem length_unsubscribeFilters (single : ∀ topicFilter ∈ topicFilters, topicFilter.Single) :
    2 + (topicFilters.flatMap writeMQTTString).length = MQTTSerialize.filtersLength 0 topicFilters := by
  suffices counted : ∀ len, len + (topicFilters.flatMap writeMQTTString).length =
      topicFilters.foldl (fun len topicFilter => len + 2 + topicFilter.strlen + 0) len from counted 2
  intro len
  induction topicFilters generalizing len with
  | nil => rfl
  | cons topicFilter topicFilters ih =>
    have head := (single topicFilter List.mem_cons_self).length_bytes
    simp only [List.flatMap_cons, List.length_append, length_writeMQTTString, List.foldl_cons,
      ← ih fun other member => single other (List.mem_cons_of_mem _ member)]
    omega

/-- The loop reads the topic filters one by one and stops where they end, whatever stands behind. -/
theorem MQTTDeserialize.subscribeFilters_written {rounds : Nat} (enough : requests.length ≤ rounds)
    (short : ∀ request ∈ requests, request.1.bytes.length < 65536) :
    subscribeFilters rounds ⟨requests.flatMap writeFilter ++ rest, (requests.flatMap writeFilter).length⟩ =
      some (some (requests.map fun request => (request.1.asRead, request.2))) := by
  induction requests generalizing rounds with
  | nil => cases rounds <;> simp [subscribeFilters]
  | cons request requests ih =>
    obtain ⟨rounds, rfl⟩ : ∃ r, rounds = r + 1 := ⟨rounds - 1, by rw [List.length_cons] at enough; omega⟩
    have length : ((((request :: requests).flatMap writeFilter).length : Nat) : Int) =
        (2 + request.1.bytes.length : Nat) + (1 + (requests.flatMap writeFilter).length) := by
      simp only [List.flatMap_cons, List.length_append, length_writeMQTTString, List.length_singleton]
      omega
    unfold subscribeFilters
    rw [length, List.flatMap_cons, List.append_assoc, List.append_assoc,
      readMQTTLenString_writeMQTTString (short request List.mem_cons_self) (by omega)]
    simp only
    rw [if_neg (by omega)]
    simp only [Option.bind_some]
    rw [if_neg (by omega)]
    have left : ((2 + request.1.bytes.length : Nat) : Int) + (1 + (requests.flatMap writeFilter).length) -
        (2 + request.1.bytes.length : Nat) - 1 = (requests.flatMap writeFilter).length := by omega
    simp only [readChar, List.singleton_append, Option.bind_some]
    rw [left, ih (by rw [List.length_cons] at enough; omega)
      (fun other member => short other (List.mem_cons_of_mem _ member))]
    rfl

theorem MQTTDeserialize.unsubscribeFilters_written {rounds : Nat} (enough : topicFilters.length ≤ rounds)
    (short : ∀ topicFilter ∈ topicFilters, topicFilter.bytes.length < 65536) :
    unsubscribeFilters rounds
        ⟨topicFilters.flatMap writeMQTTString ++ rest, (topicFilters.flatMap writeMQTTString).length⟩ =
      some (some (topicFilters.map MQTTString.asRead)) := by
  induction topicFilters generalizing rounds with
  | nil => cases rounds <;> simp [unsubscribeFilters]
  | cons topicFilter topicFilters ih =>
    obtain ⟨rounds, rfl⟩ : ∃ r, rounds = r + 1 := ⟨rounds - 1, by rw [List.length_cons] at enough; omega⟩
    have length : ((((topicFilter :: topicFilters).flatMap writeMQTTString).length : Nat) : Int) =
        (2 + topicFilter.bytes.length : Nat) + (topicFilters.flatMap writeMQTTString).length := by
      simp only [List.flatMap_cons, List.length_append, length_writeMQTTString]
      omega
    unfold unsubscribeFilters
    rw [length, List.flatMap_cons, List.append_assoc,
      readMQTTLenString_writeMQTTString (short topicFilter List.mem_cons_self) (by omega)]
    simp only
    rw [if_neg (by omega)]
    simp only [Option.bind_some]
    have left : ((2 + topicFilter.bytes.length : Nat) : Int) + (topicFilters.flatMap writeMQTTString).length -
        (2 + topicFilter.bytes.length : Nat) = (topicFilters.flatMap writeMQTTString).length := by omega
    rw [left, ih (by rw [List.length_cons] at enough; omega)
      (fun other member => short other (List.mem_cons_of_mem _ member))]
    rfl

theorem MQTTSerialize.subscribe_framed (single : ∀ request ∈ requests, request.1.Single) (small : buflen < 268435456)
    (written : MQTTSerialize.subscribe buflen dup packetid requests = some packet) :
    (∃ body, Framed ⟨false, 1, dup, MsgType.subscribe.code⟩ body packet) ∧ packet.length ≤ buflen := by
  unfold MQTTSerialize.subscribe at written
  simp only at written
  split at written
  · cases written
  · rename_i fits
    cases written
    have length : (writeInt packetid.toNat ++ requests.flatMap writeFilter).length = filtersLength 1 (requests.map Prod.fst) := by
      rw [List.length_append, length_writeInt]
      exact length_subscribeFilters single
    refine Framed.of_fits (by simp) MsgType.subscribe.code_lt small fits length ?_
    simp only [List.cons_append, List.append_assoc]

theorem MQTTSerialize.unsubscribe_framed (single : ∀ topicFilter ∈ topicFilters, topicFilter.Single)
    (small : buflen < 268435456) (written : MQTTSerialize.unsubscribe buflen dup packetid topicFilters = some packet) :
    (∃ body, Framed ⟨false, 1, dup, MsgType.unsubscribe.code⟩ body packet) ∧ packet.length ≤ buflen := by
  unfold MQTTSerialize.unsubscribe at written
  simp only at written
  split at written
  · cases written
  · rename_i fits
    cases written
    have length : (writeInt packetid.toNat ++ topicFilters.flatMap writeMQTTString).length = filtersLength 0 topicFilters := by
      rw [List.length_append, length_writeInt]
      exact length_unsubscribeFilters single
    refine Framed.of_fits (by simp) MsgType.unsubscribe.code_lt small fits length ?_
    simp only [List.cons_append, List.append_assoc]

theorem MQTTSerialize.zero_framed (written : MQTTSerialize.zero buflen type = some packet) :
    Framed ⟨false, 0, false, type.code⟩ [] packet ∧ packet.length ≤ buflen := by
  unfold MQTTSerialize.zero at written
  split at written
  · cases written
  · cases written
    have length : (encode 0).length = 1 := rfl
    refine ⟨⟨by simp, type.code_lt, by simp, by simp⟩, ?_⟩
    rw [List.length_cons, length]
    omega

/-- A SUBSCRIBE is read back as it was written, topic filter by topic filter. -/
theorem subscribe_roundTrip_packet (rest : List UInt8) (single : ∀ request ∈ requests, request.1.Single) (small : buflen < 65536)
    (written : MQTTSerialize.subscribe buflen dup packetid requests = some packet) :
    MQTTDeserialize.subscribe (packet ++ rest) =
      some ⟨1, some ⟨dup, packetid.toNat, requests.map fun request => (request.1.asRead, request.2)⟩⟩ := by
  unfold MQTTSerialize.subscribe at written
  simp only at written
  split at written
  · cases written
  · rename_i fits
    cases written
    have length := length_subscribeFilters single
    obtain ⟨bound, room⟩ := length_of_len fits (by omega)
    have each : ∀ request ∈ requests, request.1.bytes.length < 65536 := by
      intro request member
      have inside : (writeFilter request).length ≤ (requests.flatMap writeFilter).length := length_le_flatMap member
      rw [List.length_append, length_writeMQTTString] at inside
      omega
    have enough : requests.length ≤ (requests.flatMap writeFilter).length :=
      count_le_flatMap fun request _ => by simp
    have left : ((MQTTSerialize.filtersLength 1 (requests.map Prod.fst) : Nat) : Int) - 2 =
        (requests.flatMap writeFilter).length := by omega
    unfold MQTTDeserialize.subscribe
    simp only [List.cons_append, List.append_assoc]
    rw [MQTTHeader.ofByte_byte (by simp) MsgType.subscribe.code_lt, decodeBuf_encode bound]
    simp only [ne_eq, not_true_eq_false, if_false]
    rw [readInt_writeInt packetid.toNat_lt]
    simp only [Option.bind_some]
    change Option.map _ (MQTTDeserialize.subscribeFilters _ ⟨requests.flatMap writeFilter ++ rest, _⟩) = _
    rw [left, MQTTDeserialize.subscribeFilters_written ?_ each]
    · rfl
    · change requests.length ≤ (encode _ ++ (writeInt _ ++ (requests.flatMap writeFilter ++ rest))).length
      simp only [List.length_append]
      omega

/-- An UNSUBSCRIBE is read back as it was written, topic filter by topic filter. -/
theorem unsubscribe_roundTrip_packet (rest : List UInt8) (single : ∀ topicFilter ∈ topicFilters, topicFilter.Single) (small : buflen < 65536)
    (written : MQTTSerialize.unsubscribe buflen dup packetid topicFilters = some packet) :
    MQTTDeserialize.unsubscribe (packet ++ rest) =
      some ⟨1, some ⟨dup, packetid.toNat, topicFilters.map MQTTString.asRead⟩⟩ := by
  unfold MQTTSerialize.unsubscribe at written
  simp only at written
  split at written
  · cases written
  · rename_i fits
    cases written
    have length := length_unsubscribeFilters single
    obtain ⟨bound, room⟩ := length_of_len fits (by omega)
    have each : ∀ topicFilter ∈ topicFilters, topicFilter.bytes.length < 65536 := by
      intro topicFilter member
      have inside : (writeMQTTString topicFilter).length ≤ (topicFilters.flatMap writeMQTTString).length :=
        length_le_flatMap member
      rw [length_writeMQTTString] at inside
      omega
    have enough : topicFilters.length ≤ (topicFilters.flatMap writeMQTTString).length :=
      count_le_flatMap fun topicFilter _ => by simp [writeMQTTString, writeInt]
    have left : ((MQTTSerialize.filtersLength 0 topicFilters : Nat) : Int) - 2 =
        (topicFilters.flatMap writeMQTTString).length := by omega
    unfold MQTTDeserialize.unsubscribe
    simp only [List.cons_append, List.append_assoc]
    rw [MQTTHeader.ofByte_byte (by simp) MsgType.unsubscribe.code_lt, decodeBuf_encode bound]
    simp only [ne_eq, not_true_eq_false, if_false]
    rw [readInt_writeInt packetid.toNat_lt]
    simp only [Option.bind_some]
    rw [left, MQTTDeserialize.unsubscribeFilters_written ?_ each]
    · rfl
    · simp only [List.length_append]
      omega

end RoundTrips

end MqttSnGateway
