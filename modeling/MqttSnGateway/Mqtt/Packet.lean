import MqttSnGateway.Lib.CString

namespace MqttSnGateway

inductive MsgType where
  | connect | connack | publish | puback | pubrec | pubrel | pubcomp
  | subscribe | suback | unsubscribe | unsuback | pingreq | pingresp | disconnect
deriving DecidableEq

def MsgType.code : MsgType → Nat
  | .connect => 1
  | .connack => 2
  | .publish => 3
  | .puback => 4
  | .pubrec => 5
  | .pubrel => 6
  | .pubcomp => 7
  | .subscribe => 8
  | .suback => 9
  | .unsubscribe => 10
  | .unsuback => 11
  | .pingreq => 12
  | .pingresp => 13
  | .disconnect => 14

theorem MsgType.code_lt (type : MsgType) : type.code < 16 := by
  cases type <;> decide

/-- `MQTTHeader`: the bit fields of the first byte of a packet, from the lowest bit on. -/
structure MQTTHeader where
  retain : Bool
  qos : Nat
  dup : Bool
  type : Nat
deriving DecidableEq

namespace MQTTHeader

def byte (header : MQTTHeader) : UInt8 :=
  .ofNat (header.retain.toNat + 2 * (header.qos % 4) + 8 * header.dup.toNat + 16 * (header.type % 16))

def ofByte (byte : UInt8) : MQTTHeader where
  retain := byte.toNat % 2 = 1
  qos := byte.toNat / 2 % 4
  dup := byte.toNat / 8 % 2 = 1
  type := byte.toNat / 16

theorem ofByte_byte {header : MQTTHeader} (qos : header.qos < 4) (type : header.type < 16) :
    ofByte header.byte = header := by
  obtain ⟨retain, level, dup, kind⟩ := header
  simp only at qos type
  have bits : (byte ⟨retain, level, dup, kind⟩).toNat = retain.toNat + 2 * level + 8 * dup.toNat + 16 * kind := by
    unfold byte
    simp only
    rw [UInt8.toNat_ofNat', Nat.mod_eq_of_lt qos, Nat.mod_eq_of_lt type]
    have first := retain.toNat_lt
    have fourth := dup.toNat_lt
    omega
  unfold ofByte
  rw [bits]
  cases retain <;> cases dup <;> simp only [Bool.toNat_true, Bool.toNat_false, mk.injEq, decide_eq_true_eq,
    decide_eq_false_iff_not] <;> omega

end MQTTHeader

/-- `MQTTString`: a C string or bytes with a length. -/
structure MQTTString where
  cstring : Option CString
  lenstring : List UInt8
deriving DecidableEq

namespace MQTTString

def ofCString (s : CString) : MQTTString := ⟨some s, []⟩

def strlen (string : MQTTString) : Nat :=
  match string.cstring with
  | some s => s.length
  | none => string.lenstring.length

def bytes (string : MQTTString) : List UInt8 :=
  if 0 < string.lenstring.length then string.lenstring
  else match string.cstring with
    | some s => s.bytes
    | none => []

def Single (string : MQTTString) : Prop := string.cstring = none ∨ string.lenstring = []

theorem single_ofCString (s : CString) : (ofCString s).Single := .inr rfl

@[simp] theorem bytes_ofCString (s : CString) : (ofCString s).bytes = s.bytes := rfl

@[simp] theorem strlen_ofCString (s : CString) : (ofCString s).strlen = s.length := rfl

theorem Single.length_bytes {string : MQTTString} (single : string.Single) : string.bytes.length = string.strlen := by
  obtain ⟨cstring, lenstring⟩ := string
  unfold bytes strlen
  rcases single with rfl | rfl
  · simp only
    split
    · rfl
    · simp only [List.length_nil]
      omega
  · cases cstring <;> rfl

end MQTTString

namespace MQTTPacket

section Lengths

/-- The loop of `MQTTPacket_encode`; an `int` has at most five digits of seven bits. -/
def encodeDigits : Nat → Nat → List UInt8
  | 0, _ => []
  | digits + 1, length =>
    let d := UInt8.ofNat (length % 128)
    if 0 < length / 128 then (d ||| 0x80) :: encodeDigits digits (length / 128) else [d]

def encode (length : Nat) : List UInt8 := encodeDigits 5 length

variable {σ : Type*}

/-- The loop of `MQTTPacket_decode` with as many bytes as it still allows: how many it has asked for, the value, and
    the source of the bytes afterwards. -/
def decodeDigits (getcharfn : σ → Option UInt8 × σ) : Nat → Nat → Nat → Nat → σ → Nat × Nat × σ
  | 0, len, value, _, source => (len + 1, value, source)
  | more + 1, len, value, multiplier, source =>
    match getcharfn source with
    | (none, source) => (len + 1, value, source)
    | (some c, source) =>
      let value := value + (c &&& 127).toNat * multiplier
      if c &&& 128 ≠ 0 then decodeDigits getcharfn more (len + 1) value (multiplier * 128) source
      else (len + 1, value, source)

/-- `MQTTPacket_decode`: at most `MAX_NO_OF_REMAINING_LENGTH_BYTES` bytes. -/
def decode (getcharfn : σ → Option UInt8 × σ) (source : σ) : Nat × Nat × σ := decodeDigits getcharfn 4 0 0 1 source

def len (remLen : Nat) : Nat :=
  let remLen := remLen + 1
  if remLen < 128 then remLen + 1
  else if remLen < 16384 then remLen + 2
  else if remLen < 2097151 then remLen + 3
  else remLen + 4

theorem decodeDigits_invariant {getcharfn : σ → Option UInt8 × σ} (inv : σ → Prop)
    (kept : ∀ source, inv source → inv (getcharfn source).2) {source : σ} (before : inv source)
    (more len value multiplier : Nat) : inv (decodeDigits getcharfn more len value multiplier source).2.2 := by
  induction more generalizing source len value multiplier with
  | zero => exact before
  | succ more ih =>
    have after := kept source before
    unfold decodeDigits
    split
    · rename_i asked
      rwa [asked] at after
    · rename_i asked
      rw [asked] at after
      simp only
      split
      · exact ih after _ _ _
      · exact after

def Supplies (getcharfn : σ → Option UInt8 × σ) : List UInt8 → σ → σ → Prop
  | [], source, after => source = after
  | byte :: bytes, source, after =>
    ∃ between, getcharfn source = (some byte, between) ∧ Supplies getcharfn bytes between after

theorem toNat_and_127 (c : UInt8) : (c &&& 127).toNat = c.toNat % 128 := by
  rw [UInt8.toNat_and]
  exact Nat.and_two_pow_sub_one_eq_mod c.toNat 7

theorem and_128_eq_zero (c : UInt8) : c &&& 128 = 0 ↔ c.toNat < 128 := by
  have bytes : ∀ n < 256, (n &&& 128 = 0 ↔ n < 128) := by decide +kernel
  rw [← UInt8.toNat_inj, UInt8.toNat_and]
  exact bytes c.toNat c.toNat_lt

theorem toNat_or_128 {c : UInt8} (small : c.toNat < 128) : (c ||| 0x80).toNat = c.toNat + 128 := by
  rw [UInt8.toNat_or, Nat.or_comm]
  exact (Nat.two_pow_add_eq_or_of_lt (i := 7) small 1).symm.trans (Nat.add_comm _ _)

theorem decodeDigits_encodeDigits {getcharfn : σ → Option UInt8 × σ} {source after : σ} {digits more : Nat}
    {n len value multiplier : Nat} (enough : n < 128 ^ (more + 1)) (digit : more < digits)
    (supplies : Supplies getcharfn (encodeDigits digits n) source after) :
    decodeDigits getcharfn (more + 1) len value multiplier source =
      (len + (encodeDigits digits n).length, value + n * multiplier, after) := by
  induction more generalizing digits n len value multiplier source with
  | zero =>
    obtain ⟨digits, rfl⟩ : ∃ d, digits = d + 1 := ⟨digits - 1, by omega⟩
    have small : ¬ 0 < n / 128 := by omega
    have low : (UInt8.ofNat (n % 128)).toNat = n := by
      rw [UInt8.toNat_ofNat']
      omega
    unfold encodeDigits at supplies ⊢
    simp only [if_neg small] at supplies ⊢
    obtain ⟨between, read, rfl⟩ := supplies
    have ends : UInt8.ofNat (n % 128) &&& 128 = 0 := (and_128_eq_zero _).mpr (by omega)
    unfold decodeDigits
    simp only [read, ends, toNat_and_127, low, ne_eq, not_true_eq_false, if_false, List.length_singleton]
    rw [Nat.mod_eq_of_lt (by omega)]
  | succ more ih =>
    obtain ⟨digits, rfl⟩ : ∃ d, digits = d + 1 := ⟨digits - 1, by omega⟩
    have low : (UInt8.ofNat (n % 128)).toNat = n % 128 := by
      rw [UInt8.toNat_ofNat']
      omega
    unfold encodeDigits at supplies ⊢
    by_cases large : 0 < n / 128
    · simp only [if_pos large] at supplies ⊢
      obtain ⟨between, read, rest⟩ := supplies
      have high : (UInt8.ofNat (n % 128) ||| 0x80).toNat = n % 128 + 128 := by
        rw [toNat_or_128 (by omega), low]
      have goes : (UInt8.ofNat (n % 128) ||| 0x80) &&& 128 ≠ 0 := fun zero => by
        have below := (and_128_eq_zero _).mp zero
        omega
      have fits : n / 128 < 128 ^ (more + 1) := by
        rw [Nat.div_lt_iff_lt_mul (by decide)]
        exact enough
      unfold decodeDigits
      simp only [read, if_pos goes, toNat_and_127, high]
      rw [ih fits (by omega) rest, List.length_cons]
      refine Prod.ext (by simp only; omega) (Prod.ext ?_ rfl)
      simp only
      have split := Nat.div_add_mod n 128
      have digit : (n % 128 + 128) % 128 = n % 128 := by omega
      rw [digit]
      calc value + n % 128 * multiplier + n / 128 * (multiplier * 128)
          = value + (128 * (n / 128) + n % 128) * multiplier := by grind
        _ = value + n * multiplier := by rw [split]
    · simp only [if_neg large] at supplies ⊢
      obtain ⟨between, read, rfl⟩ := supplies
      have ends : UInt8.ofNat (n % 128) &&& 128 = 0 := (and_128_eq_zero _).mpr (by omega)
      unfold decodeDigits
      simp only [read, ends, toNat_and_127, low, ne_eq, not_true_eq_false, if_false, List.length_singleton]
      rw [Nat.mod_mod, Nat.mod_eq_of_lt (by omega)]

/-- A remaining length is decoded from the bytes that it is encoded in. -/
theorem decode_supplied {getcharfn : σ → Option UInt8 × σ} {source after : σ} {n : Nat} (small : n < 268435456)
    (supplies : Supplies getcharfn (encode n) source after) :
    decode getcharfn source = ((encode n).length, n, after) := by
  unfold decode
  rw [decodeDigits_encodeDigits (by simpa using small) (by decide) supplies]
  simp [encode]

theorem length_encode {n : Nat} (small : n < 268435456) : (encode n).length + n + 1 ≤ len n := by
  unfold encode len
  simp only [encodeDigits]
  split_ifs <;> simp only [List.length_cons, List.length_nil] <;> omega

end Lengths

section Cursors

/-- The bytes from `curdata` on, and how far `enddata` is from there. -/
structure Cursor where
  data : List UInt8
  left : Int

def Cursor.whole (data : List UInt8) : Cursor := ⟨data, data.length⟩

def writeInt (anInt : Nat) : List UInt8 := [.ofNat (anInt / 256), .ofNat (anInt % 256)]

def writeMQTTString (string : MQTTString) : List UInt8 := writeInt string.bytes.length ++ string.bytes

/-- `readChar`; there is no value outside the buffer. -/
def readChar (cursor : Cursor) : Option (UInt8 × Cursor) :=
  match cursor.data with
  | c :: data => some (c, ⟨data, cursor.left - 1⟩)
  | [] => none

def readInt (cursor : Cursor) : Option (Nat × Cursor) :=
  match cursor.data with
  | high :: low :: data => some (256 * high.toNat + low.toNat, ⟨data, cursor.left - 2⟩)
  | _ => none

/-- `readMQTTLenString`: the string if there is one in front of `enddata`. -/
def readMQTTLenString (cursor : Cursor) : Option (Option MQTTString × Cursor) :=
  if 1 < cursor.left then
    (readInt cursor).bind fun (len, cursor) =>
      if len ≤ cursor.left then
        if len ≤ cursor.data.length then
          some (some ⟨none, cursor.data.take len⟩, ⟨cursor.data.drop len, cursor.left - len⟩)
        else none
      else some (none, cursor)
  else some (none, cursor)

/-- `MQTTPacket_decodeBuf` with the pointers that its callers set from it. -/
def decodeBuf (data : List UInt8) : Nat × Cursor :=
  let getcharfn := fun (source : List UInt8) => (source.head?, source.tail)
  let (len, mylen, _) := decode getcharfn data
  (len, ⟨data.drop len, mylen⟩)

variable {rest : List UInt8} {left : Int} {string : MQTTString} {n : Nat}

@[simp] theorem length_writeInt : (writeInt n).length = 2 := rfl

@[simp] theorem length_writeMQTTString : (writeMQTTString string).length = 2 + string.bytes.length := by
  unfold writeMQTTString
  rw [List.length_append, length_writeInt]

theorem readInt_writeInt (small : n < 65536) : readInt ⟨writeInt n ++ rest, left⟩ = some (n, ⟨rest, left - 2⟩) := by
  have value : 256 * (UInt8.ofNat (n / 256)).toNat + (UInt8.ofNat (n % 256)).toNat = n := by
    rw [UInt8.toNat_ofNat', UInt8.toNat_ofNat']
    omega
  simp only [readInt, writeInt, List.cons_append, List.nil_append, value]

theorem readMQTTLenString_writeMQTTString (small : string.bytes.length < 65536)
    (inside : (2 + string.bytes.length : Nat) ≤ left) :
    readMQTTLenString ⟨writeMQTTString string ++ rest, left⟩ =
      some (some ⟨none, string.bytes⟩, ⟨rest, left - (2 + string.bytes.length : Nat)⟩) := by
  unfold readMQTTLenString writeMQTTString
  rw [if_pos (by simp only; omega), List.append_assoc, readInt_writeInt small]
  simp only [Option.bind_some]
  rw [if_pos (by omega), if_pos (by rw [List.length_append]; omega), List.take_left' rfl, List.drop_left' rfl]
  simp only [Option.some.injEq, Prod.mk.injEq, Cursor.mk.injEq, true_and]
  omega

theorem readChar_whole (c : UInt8) : readChar (.whole (c :: rest)) = some (c, .whole rest) := by
  unfold Cursor.whole readChar
  simp only [List.length_cons]
  congr 3
  omega

theorem readInt_whole (small : n < 65536) : readInt (.whole (writeInt n ++ rest)) = some (n, .whole rest) := by
  unfold Cursor.whole
  rw [readInt_writeInt small, List.length_append, length_writeInt]
  congr 3
  omega

theorem readMQTTLenString_whole (small : string.bytes.length < 65536) :
    readMQTTLenString (.whole (writeMQTTString string ++ rest)) = some (some ⟨none, string.bytes⟩, .whole rest) := by
  unfold Cursor.whole
  rw [readMQTTLenString_writeMQTTString small (by rw [List.length_append, length_writeMQTTString]; omega),
    List.length_append, length_writeMQTTString]
  congr 3
  omega

theorem supplies_list {getcharfn : List UInt8 → Option UInt8 × List UInt8}
    (reads : ∀ source, getcharfn source = (source.head?, source.tail)) (bytes : List UInt8) :
    Supplies getcharfn bytes (bytes ++ rest) rest := by
  induction bytes with
  | nil => rfl
  | cons byte bytes ih => exact ⟨bytes ++ rest, reads _, ih⟩

theorem decodeBuf_encode (small : n < 268435456) : decodeBuf (encode n ++ rest) = ((encode n).length, ⟨rest, n⟩) := by
  unfold decodeBuf
  simp only
  rw [decode_supplied small (supplies_list (fun _ => rfl) (encode n))]
  simp only [List.drop_left]

end Cursors

section Streams

theorem length_le_flatMap {α β : Type*} {f : α → List β} {items : List α} {item : α} (member : item ∈ items) :
    (f item).length ≤ (items.flatMap f).length := by
  induction items with
  | nil => cases member
  | cons first items ih =>
    rw [List.flatMap_cons, List.length_append]
    rcases List.mem_cons.mp member with rfl | later
    · omega
    · have tail := ih later
      omega

theorem count_le_flatMap {α β : Type*} {f : α → List β} {items : List α} (some : ∀ item ∈ items, f item ≠ []) :
    items.length ≤ (items.flatMap f).length := by
  induction items with
  | nil => exact Nat.le_refl _
  | cons first items ih =>
    have head := List.length_pos_iff.mpr (some first List.mem_cons_self)
    have tail := ih fun item member => some item (List.mem_cons_of_mem _ member)
    rw [List.flatMap_cons, List.length_append, List.length_cons]
    omega

/-- A packet: its header, the length of what follows, and what follows. -/
structure Framed (header : MQTTHeader) (body packet : List UInt8) : Prop where
  qos : header.qos < 4
  type : header.type < 16
  short : body.length < 268435456
  whole : packet = header.byte :: (encode body.length ++ body)

variable {header : MQTTHeader} {body packet rest : List UInt8} {σ : Type*}

theorem length_of_len {buflen n : Nat} (fits : ¬ buflen < len n) (small : buflen < 268435456) :
    n < 268435456 ∧ (encode n).length + n + 1 ≤ buflen := by
  have bound : n < 268435456 := by
    unfold len at fits
    simp only at fits
    split_ifs at fits <;> omega
  have room := length_encode bound
  omega

/-- One byte of a source that gives any number of them. -/
def getchar (getfn : Nat → σ → (List UInt8 × Int) × σ) (source : σ) : Option UInt8 × σ :=
  let ((bytes, rc), source) := getfn 1 source
  (if rc = 1 then bytes.head? else none, source)

/-- `MQTTPacket_read`: the packet type, or -1, and the packet in the buffer. -/
def read (getfn : Nat → σ → (List UInt8 × Int) × σ) (buflen : Nat) (source : σ) : Int × List UInt8 × σ :=
  let ((first, rc), source) := getfn 1 source
  if rc ≠ 1 then (-1, first, source)
  else
    let (_, remLen, source) := decode (getchar getfn) source
    let buf := first ++ encode remLen
    if buflen < remLen + buf.length then (-1, buf, source)
    else
      let ((body, rc), source) := getfn remLen source
      if rc ≠ remLen then (-1, buf ++ body, source)
      else ((MQTTHeader.ofByte (first.headD 0)).type, buf ++ body, source)

def readBytes (count : Nat) (source : List UInt8) : (List UInt8 × Int) × List UInt8 :=
  ((source.take count, (source.take count).length), source.drop count)

/-- The packets that `MQTTPacket_read` finds one after the other, unless one of them is not whole. -/
def readAll (buflen : Nat) : Nat → List UInt8 → Option (List (List UInt8))
  | _, [] => some []
  | 0, _ :: _ => none
  | rounds + 1, source =>
    match read readBytes buflen source with
    | (rc, packet, source) => if rc < 0 then none else (readAll buflen rounds source).map (packet :: ·)

/-- What a serializing function writes after it has compared the length with its buffer. -/
theorem Framed.of_fits {buflen n : Nat} (qos : header.qos < 4) (type : header.type < 16) (small : buflen < 268435456)
    (fits : ¬ buflen < len n) (length : body.length = n) (whole : packet = header.byte :: (encode n ++ body)) :
    (∃ body, Framed header body packet) ∧ packet.length ≤ buflen := by
  subst length
  obtain ⟨short, room⟩ := length_of_len fits small
  refine ⟨⟨body, qos, type, short, whole⟩, ?_⟩
  rw [whole, List.length_cons, List.length_append]
  omega

theorem Framed.ne_nil (framed : Framed header body packet) : packet ≠ [] := by
  rw [framed.whole]
  exact List.cons_ne_nil _ _

theorem Framed.length (framed : Framed header body packet) :
    packet.length = 1 + (encode body.length).length + body.length := by
  rw [framed.whole, List.length_cons, List.length_append]
  omega

theorem getchar_readBytes (source : List UInt8) : getchar readBytes source = (source.head?, source.tail) := by
  cases source <;> rfl

theorem Framed.read_bytes {buflen : Nat} (framed : Framed header body packet) (fits : packet.length ≤ buflen) :
    read readBytes buflen (packet ++ rest) = ((header.type : Int), packet, rest) := by
  have length := framed.length
  have supplied : Supplies (getchar readBytes) (encode body.length) (encode body.length ++ (body ++ rest)) (body ++ rest) :=
    supplies_list getchar_readBytes (encode body.length)
  have decoded := decode_supplied framed.short supplied
  have first : readBytes 1 (header.byte :: (encode body.length ++ (body ++ rest))) =
      (([header.byte], 1), encode body.length ++ (body ++ rest)) := rfl
  have last : readBytes body.length (body ++ rest) = ((body, (body.length : Int)), rest) := by
    unfold readBytes
    rw [List.take_left' rfl, List.drop_left' rfl]
  rw [framed.whole, List.cons_append, List.append_assoc]
  unfold read
  rw [first]
  simp only [ne_eq, not_true_eq_false, if_false]
  rw [decoded]
  simp only
  rw [if_neg (by simp only [List.length_append, List.length_singleton]; omega), last]
  simp only [not_true_eq_false, if_false, List.headD_cons, List.cons_append]
  rw [MQTTHeader.ofByte_byte framed.qos framed.type]
  rfl

/-- A stream of packets falls into them again. -/
theorem readAll_flatten {buflen : Nat} {packets : List (List UInt8)}
    (framed : ∀ packet ∈ packets, packet.length ≤ buflen ∧ ∃ header body, Framed header body packet) {rounds : Nat}
    (enough : packets.length ≤ rounds) : readAll buflen rounds packets.flatten = some packets := by
  induction packets generalizing rounds with
  | nil => cases rounds <;> rfl
  | cons packet packets ih =>
    obtain ⟨rounds, rfl⟩ : ∃ r, rounds = r + 1 := ⟨rounds - 1, by rw [List.length_cons] at enough; omega⟩
    obtain ⟨fits, header, body, frame⟩ := framed packet List.mem_cons_self
    have later : readAll buflen rounds packets.flatten = some packets :=
      ih (fun other member => framed other (List.mem_cons_of_mem _ member)) (by rw [List.length_cons] at enough; omega)
    rw [List.flatten_cons]
    cases split : packet with
    | nil => exact absurd split frame.ne_nil
    | cons first others =>
      rw [List.cons_append]
      unfold readAll
      simp only
      rw [← List.cons_append, ← split, frame.read_bytes fits]
      simp only
      rw [if_neg (by omega), later]
      rfl

end Streams

end MQTTPacket

end MqttSnGateway
