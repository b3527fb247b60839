import MqttSnGateway.Refinement.CardTables
import Mathlib.Tactic.IntervalCases

namespace MqttSnGateway

open BinaryFile StructLayout Wire

section Records

def EntryPublish.tail (entry : EntryPublish) : List UInt8 :=
  entry.msgLength :: ((Wire.halfword entry.topicId).bytes ++ entry.qos :: ((Wire.bool entry.retain).bytes ++
    ((Wire.bool entry.dup).bytes ++ 0 :: ((Wire.halfword entry.msgId).bytes ++ ((Wire.halfword entry.publishId).bytes ++
      0 :: 0 :: (word entry.retransmitionTimeout).bytes)))))

theorem EntryPublish.encode_eq (entry : EntryPublish) :
    codec.encode entry = (array 255 entry.msg 0).bytes ++ entry.tail := by
  show object 0 entry.members = _
  rw [object_members]
  rfl

theorem EntryPublish.encode_zeroHalfword (entry : EntryPublish) {offset : Nat} (even : offset % 2 = 0)
    (inside : offset < EntryPublish.size) :
    codec.encode (entry.zeroHalfword offset) = ((codec.encode entry).set offset 0).set (offset + 1) 0 := by
  have width : (array 255 entry.msg 0).bytes.length = 255 := length_array
  rw [encode_eq, encode_eq]
  rcases Nat.lt_or_ge offset 254 with front | behind
  · unfold zeroHalfword
    rw [if_pos front, List.set_append_left _ _ (by omega), List.set_append_left _ _ (by rw [List.length_set]; omega),
      ← array_set, ← array_set]
    rfl
  · rcases Nat.eq_or_lt_of_le behind with rfl | tail
    · rw [List.set_append_left _ _ (by omega), List.set_append_right _ _ (by rw [List.length_set]; omega), List.length_set,
        width, ← array_set]
      rfl
    · rw [List.set_append_right _ _ (by omega), List.set_append_right _ _ (by omega), width]
      unfold EntryPublish.size at inside
      obtain ⟨k, rfl⟩ : ∃ k, offset = 256 + 2 * k := ⟨offset / 2 - 128, by omega⟩
      have few : k < 8 := by omega
      have cleared : (Wire.halfword 0).bytes = [0, 0] := by decide
      unfold EntryPublish.tail
      interval_cases k
      · rw [show (entry.zeroHalfword 256).topicId = 0 from rfl, cleared]
        rfl
      · rfl
      · rfl
      · rw [show (entry.zeroHalfword 262).msgId = 0 from rfl, cleared]
        rfl
      · rw [show (entry.zeroHalfword 264).publishId = 0 from rfl, cleared]
        rfl
      · rfl
      · rw [show (entry.zeroHalfword 268).retransmitionTimeout = entry.retransmitionTimeout &&& 0xffff0000 from rfl, word_high]
        rfl
      · rw [show (entry.zeroHalfword 270).retransmitionTimeout = entry.retransmitionTimeout &&& 0x0000ffff from rfl, word_low]
        rfl

def EntryPublish.padded (entry : EntryPublish) : EntryPublish := { entry with msg := (array 255 entry.msg 0).bytes }

def EntryPublish.outputs (entry : EntryPublish) : List UInt8 × UInt16 × Bool × UInt8 × Bool × UInt16 :=
  (entry.payload, entry.topicId, entry.retain, entry.qos, entry.dup, entry.publishId)

def EntryWill.outputs (entry : EntryWill) : CString × List UInt8 × UInt8 × Bool :=
  (entry.willtopic, entry.payload, entry.qos, entry.retain)

theorem take_array {n k : Nat} {written : List UInt8} (covered : k ≤ written.length) (fits : written.length ≤ n) :
    (array n written 0).bytes.take k = written.take k := by
  show ((written ++ List.replicate n 0).take n).take k = written.take k
  rw [List.take_take, Nat.min_eq_left (by omega), List.take_append_of_le_length covered]

theorem EntryPublish.Stored.outputs_padded {entry : EntryPublish} (stored : entry.Stored) :
    entry.padded.outputs = entry.outputs := by
  have payload : entry.padded.payload = entry.payload := take_array stored.covered stored.fits
  unfold outputs
  rw [payload]
  rfl

theorem EntryWill.Stored.outputs_read {entry : EntryWill} (stored : entry.Stored) :
    (EntryWill.ofMemory (EntryWill.codec.encode entry)).outputs = entry.outputs := by
  have payload : EntryWill.payload { entry with willmsg := (array 255 entry.willmsg 0).bytes } = entry.payload :=
    take_array stored.covered stored.fits
  rw [EntryWill.ofMemory_encode stored.named]
  unfold outputs
  rw [payload]

theorem EntryPublish.encode_array (entry : EntryPublish) {written : List UInt8} :
    codec.encode { entry with msg := (array 255 written 0).bytes } = codec.encode { entry with msg := written } := by
  rw [encode_eq, encode_eq]
  simp only [array_array]
  rfl

theorem EntryWill.encode_array (entry : EntryWill) {written : List UInt8} :
    codec.encode { entry with willmsg := (array 255 written 0).bytes } = codec.encode { entry with willmsg := written } := by
  show object 0 (members _) = object 0 (members _)
  rw [object_members, object_members]
  simp only [array_array]

theorem ClientFiles.bytes_clear {files : ClientFiles} {ending : FileEnding} : (files.clear ending).bytes ending = [] := by
  cases ending <;> rfl

theorem ClientFiles.bytes_clear_ne {files : ClientFiles} {ending other : FileEnding} (different : other ≠ ending) :
    (files.clear ending).bytes other = files.bytes other := by
  cases ending <;> cases other <;> first | rfl | exact absurd rfl different

theorem ClientFiles.Stored.clear {files : ClientFiles} (stored : files.Stored) (ending : FileEnding) :
    (files.clear ending).Stored := by
  cases ending with
  | registration => exact ⟨fun _ member => (List.not_mem_nil member).elim, stored.sub, stored.wil, stored.pub⟩
  | subscribe => exact ⟨stored.reg, fun _ member => (List.not_mem_nil member).elim, stored.wil, stored.pub⟩
  | will => exact ⟨stored.reg, stored.sub, fun _ member => (Option.not_mem_none _ member).elim, stored.pub⟩
  | publish => exact ⟨stored.reg, stored.sub, stored.wil, fun _ member => (List.not_mem_nil member).elim⟩

end Records

namespace SDPersistentImpl

variable {p : Persistent} {q : SDPersistentImpl} {card : Card}

section Will

theorem readWill_eq (r : (p.onCard card).Represents p) :
    (p.onCard card).readWill = (p.files.wil.map EntryWill.codec.encode).getD [] := by
  have content : card ((p.onCard card).filename .will) = EntryWill.codec.file p.files.wil.toList :=
    r.card.files _ r.entry.numbered .will
  have position : 0 = 0 * EntryWill.codec.size := (Nat.zero_mul _).symm
  unfold readWill FileLinuxFake.readBytes openRead SDLinuxFake.open
  rw [onCard_card]
  simp only [if_true]
  rw [content, position, EntryWill.codec.read_file]
  cases p.files.wil <;> rfl

theorem readWill_some (r : (p.onCard card).Represents p) {will : EntryWill} (some : p.files.wil = some will) :
    (p.onCard card).readWill = EntryWill.codec.encode will := by
  rw [readWill_eq r, some]
  rfl

theorem readWill_none (r : (p.onCard card).Represents p) (none : p.files.wil = none) :
    (p.onCard card).readWill = [] := by
  rw [readWill_eq r, none]
  rfl

theorem Represents.hasClientWill (r : q.Represents p) : q.hasClientWill = p.hasClientWill := by
  obtain ⟨card, rfl, _⟩ := r.onCard
  unfold SDPersistentImpl.hasClientWill Persistent.hasClientWill
  apply ite_congr rfl (fun _ => ?_) fun _ => rfl
  cases held : p.files.wil with
  | some will =>
    rw [readWill_some r held, EntryWill.codec.length_encode]
    rfl
  | none =>
    rw [readWill_none r held]
    rfl

theorem Represents.getClientWill (r : q.Represents p) :
    q.getClientWill.map EntryWill.outputs = p.getClientWill.map EntryWill.outputs := by
  obtain ⟨card, rfl, _⟩ := r.onCard
  unfold SDPersistentImpl.getClientWill Persistent.getClientWill
  rw [onCard_ready]
  split
  · cases held : p.files.wil with
    | some will =>
      have stored := (r.stored.files _).wil will held
      rw [readWill_some r held, if_pos (EntryWill.codec.length_encode will)]
      simp only [Option.map_some, stored.outputs_read]
    | none =>
      rw [readWill_none r held]
      rfl
  · rfl

theorem Represents.saveWill (r : q.Represents p) {will : EntryWill} (fits : will.Stored) :
    (q.save (q.filename .will) 0 (EntryWill.codec.encode will)).Represents
      (p.modifyFiles fun files => { files with wil := some will }) := by
  have stored := r.stored.files p.entryClient.fileNumber
  have written : EntryWill.codec.file [will] =
      BinaryFile.write (EntryWill.codec.file p.files.wil.toList) (0 * EntryWill.codec.size) (EntryWill.codec.encode will) := by
    rw [EntryWill.codec.write_file]
    cases p.files.wil <;> rfl
  have near : 0 * EntryWill.codec.size < 4294967296 := by decide
  refine r.saveFile near ?_ ?_ ?_
  · exact written
  · intro other different
    cases other <;> first | rfl | exact absurd rfl different
  · refine ⟨stored.reg, stored.sub, fun other member => ?_, stored.pub⟩
    cases member
    exact fits

/-- The will that is read before a part of it is rewritten. -/
def heldWill (p : Persistent) : EntryWill := p.files.wil.getD .zero

theorem held_stored (stored : p.store.Stored) : (heldWill p).Stored := by
  unfold heldWill
  cases held : p.files.wil with
  | some will => exact (stored.files _).wil will held
  | none => exact ⟨by decide, by decide, by decide⟩

theorem ofMemory_readWill (r : (p.onCard card).Represents p) :
    EntryWill.ofMemory (p.onCard card).readWill = heldWill p ∨
      EntryWill.ofMemory (p.onCard card).readWill =
        { heldWill p with willmsg := (array 255 (heldWill p).willmsg 0).bytes } := by
  unfold heldWill
  cases held : p.files.wil with
  | some will =>
    rw [readWill_some r held]
    exact .inr (EntryWill.ofMemory_encode ((r.stored.files _).wil will held).named)
  | none =>
    rw [readWill_none r held]
    exact .inl rfl

theorem Represents.setClientWilltopic (r : q.Represents p) (willtopic : CString) (qos : UInt8) (retain : Bool) :
    (q.setClientWilltopic willtopic qos retain).Represents (p.setClientWilltopic willtopic qos retain) := by
  obtain ⟨card, rfl, _⟩ := r.onCard
  unfold SDPersistentImpl.setClientWilltopic Persistent.setClientWilltopic
  refine .ite (fun _ => .ite (fun _ => r) fun short => ?_) fun _ => r
  have held := held_stored r.stored
  have kept : EntryWill.Stored { heldWill p with willtopic := willtopic, qos := qos, retain := retain } :=
    ⟨Nat.lt_of_not_le short, held.fits, held.covered⟩
  have written : EntryWill.codec.encode
        { EntryWill.ofMemory (p.onCard card).readWill with willtopic := willtopic, qos := qos, retain := retain } =
      EntryWill.codec.encode { heldWill p with willtopic := willtopic, qos := qos, retain := retain } := by
    rcases ofMemory_readWill r with same | same
    · rw [same]
    · rw [same]
      exact EntryWill.encode_array { heldWill p with willtopic := willtopic, qos := qos, retain := retain }
  rw [written]
  exact r.saveWill kept

theorem Represents.setClientWillmessage (r : q.Represents p) {willmsg : List UInt8} (fits : willmsg.length ≤ 255) :
    (q.setClientWillmessage willmsg).Represents (p.setClientWillmessage willmsg) := by
  obtain ⟨card, rfl, _⟩ := r.onCard
  unfold SDPersistentImpl.setClientWillmessage Persistent.setClientWillmessage
  refine .ite (fun _ => ?_) fun _ => r
  have covered : (UInt8.ofNat willmsg.length).toNat ≤ willmsg.length := by
    rw [UInt8.toNat_ofNat']
    exact Nat.mod_le _ _
  have kept : EntryWill.Stored { heldWill p with willmsg := willmsg, willmsgLength := UInt8.ofNat willmsg.length } :=
    ⟨(held_stored r.stored).named, fits, covered⟩
  have written : EntryWill.codec.encode
        { EntryWill.ofMemory (p.onCard card).readWill with
          willmsg := willmsg, willmsgLength := UInt8.ofNat willmsg.length } =
      EntryWill.codec.encode { heldWill p with willmsg := willmsg, willmsgLength := UInt8.ofNat willmsg.length } := by
    rcases ofMemory_readWill r with same | same <;> rw [same]
  rw [written]
  exact r.saveWill kept

end Will

section Publishes

theorem searchPublish_cases (r : (p.onCard card).Represents p) (noted wanted : EntryPublish → Bool)
    (disjoint : ∀ entry, wanted entry = true → noted entry = false)
    (notedPadded : ∀ entry : EntryPublish, noted entry.padded = noted entry)
    (wantedPadded : ∀ entry : EntryPublish, wanted entry.padded = wanted entry) :
    (∃ i entry, p.files.pub.findIdx? wanted = some i ∧ p.files.pub[i]? = some entry ∧
        (p.onCard card).searchPublish noted wanted = .inl (entry.padded, i % 65536)) ∨
      p.files.pub.findIdx? wanted = none ∧
        (p.onCard card).searchPublish noted wanted =
          .inr (FileLinuxFake.lastNoted noted p.files.pub, p.files.pub.length + 1) := by
  have view : p.files.pub.map (fun entry => EntryPublish.ofMemory (EntryPublish.codec.encode entry)) =
      p.files.pub.map EntryPublish.padded := List.map_congr_left fun entry _ => EntryPublish.ofMemory_encode entry
  have sameNoted : FileLinuxFake.lastNoted noted (p.files.pub.map EntryPublish.padded) =
      FileLinuxFake.lastNoted noted p.files.pub := by
    unfold FileLinuxFake.lastNoted
    rw [RecordFile.lastIdx?_map, funext notedPadded]
  have sameWanted : (p.files.pub.map EntryPublish.padded).findIdx? wanted = p.files.pub.findIdx? wanted := by
    rw [List.findIdx?_map]
    exact congrArg (List.findIdx? · p.files.pub) (funext wantedPadded)
  have content := r.card.files _ r.entry.numbered .publish
  have cases := @FileLinuxFake.search_cases _ EntryPublish.codec _ _ _ _ _ true _ _ content view disjoint
  rw [sameWanted, sameNoted, List.length_map] at cases
  rcases cases with ⟨i, entry, first, found, _, searched⟩ | ⟨missing, _, searched⟩
  · rw [List.getElem?_map, Option.map_eq_some_iff] at found
    obtain ⟨stored, found, rfl⟩ := found
    exact .inl ⟨i, stored, first, found, searched⟩
  · exact .inr ⟨missing, searched⟩

theorem Represents.hasClientPublishes (r : q.Represents p) : q.hasClientPublishes = p.hasClientPublishes := by
  obtain ⟨card, rfl, _⟩ := r.onCard
  unfold SDPersistentImpl.hasClientPublishes Persistent.hasClientPublishes
  apply ite_congr rfl (fun _ => ?_) fun _ => rfl
  rw [← List.findIdx?_isSome]
  rcases searchPublish_cases r (fun _ => false) (fun entry => !entry.isEmpty) (fun _ _ => rfl) (fun _ => rfl)
      (fun _ => rfl) with ⟨i, entry, first, _, searched⟩ | ⟨missing, searched⟩
  · rw [searched, first]
    rfl
  · rw [searched, missing]
    rfl

theorem Represents.savePublish (r : q.Represents p) {i : Nat} (inside : i < RecordFile.capacity) {entry : EntryPublish}
    (fits : entry.Stored) :
    (q.save (q.filename .publish) (i * EntryPublish.codec.size) (EntryPublish.codec.encode entry)).Represents
      (p.modifyFiles fun files => { files with pub := RecordFile.put .zero files.pub i entry }) := by
  have stored := r.stored.files p.entryClient.fileNumber
  refine r.saveFile (near_of_capacity inside (by decide)) EntryPublish.codec.write_file.symm ?_ ?_
  · intro other different
    cases other <;> first | rfl | exact absurd rfl different
  · refine ⟨stored.reg, stored.sub, stored.wil, fun other member => ?_⟩
    rcases BinaryFile.mem_put member with rfl | rfl | old
    · exact fits
    · exact ⟨by decide, by decide⟩
    · exact stored.pub other old

theorem Represents.addClientPublish (r : q.Represents p) (room : Roomy p) {data : List UInt8} (fits : data.length ≤ 255)
    (topicId : UInt16) (retain : Bool) (qos : UInt8) :
    (q.addClientPublish data topicId retain qos).Represents (p.addClientPublish data topicId retain qos) := by
  obtain ⟨card, rfl, _⟩ := r.onCard
  unfold SDPersistentImpl.addClientPublish Persistent.addClientPublish
  refine .ite (fun _ => ?_) fun _ => r
  rcases searchPublish_cases r EntryPublish.isEmpty (fun _ => false) (fun _ found => by cases found) (fun _ => rfl)
      (fun _ => rfl) with ⟨i, entry, first, _, _⟩ | ⟨_, searched⟩
  · have found := (List.findIdx?_eq_some_iff_getElem.mp first).2.1
    cases found
  · obtain ⟨position, free, inside⟩ := room_of_lt EntryPublish.isEmpty room.pub
    have covered : (UInt8.ofNat data.length).toNat ≤ data.length := by
      rw [UInt8.toNat_ofNat']
      exact Nat.mod_le _ _
    simp only [searched]
    rw [FileLinuxFake.firstEmptySpace_eq, free]
    refine (r.savePublish inside ?_).congr (modifyFiles_congr ?_)
    · exact ⟨fits, covered⟩
    · unfold Persistent.appendPublish
      rw [free]
      simp only [RecordFile.putAt_ofNat, RecordFile.behind_ofNat, Nat.add_zero]

theorem readPublish_eq (r : (p.onCard card).Represents p) {i : Nat} (inside : i < RecordFile.capacity) :
    (p.onCard card).readPublish i = (p.files.pub[i]?.map EntryPublish.codec.encode).getD [] := by
  have content : card ((p.onCard card).filename .publish) = EntryPublish.codec.file p.files.pub :=
    r.card.files _ r.entry.numbered .publish
  have near : i * EntryPublish.codec.size < 4294967296 := near_of_capacity inside (by decide)
  have position : (((i : Int) * EntryPublish.codec.size) % 4294967296).toNat = i * EntryPublish.codec.size := by
    rw [← Int.natCast_mul, Int.emod_eq_of_lt (by omega) (by omega)]
    rfl
  unfold readPublish FileLinuxFake.readBytes FileLinuxFake.seek openRead SDLinuxFake.open
  rw [onCard_card]
  simp only [if_true]
  rw [position, content, EntryPublish.codec.read_file]

/-- The read that the publish id 0 leads to is far behind the end of the file. -/
theorem readPublish_zero (r : (p.onCard card).Represents p) (room : Roomy p) : (p.onCard card).readPublish (-1) = [] := by
  have content : card ((p.onCard card).filename .publish) = EntryPublish.codec.file p.files.pub :=
    r.card.files _ r.entry.numbered .publish
  have size : EntryPublish.codec.size = 272 := rfl
  have position : ((-1 * (EntryPublish.codec.size : Int)) % 4294967296).toNat = 4294967024 := by decide
  have short := room.pub
  unfold RecordFile.capacity at short
  unfold readPublish FileLinuxFake.readBytes FileLinuxFake.seek openRead SDLinuxFake.open
  rw [onCard_card]
  simp only [if_true]
  rw [position, content, BinaryFile.read, List.drop_of_length_le, List.take_nil]
  rw [EntryPublish.codec.length_file, size]
  omega

theorem Represents.getNextPublish (r : q.Represents p) (room : Roomy p) :
    q.getNextPublish.map EntryPublish.outputs = p.getNextPublish.map EntryPublish.outputs := by
  obtain ⟨card, rfl, _⟩ := r.onCard
  unfold SDPersistentImpl.getNextPublish Persistent.getNextPublish
  rw [onCard_ready]
  split
  · rcases searchPublish_cases r (fun entry => !entry.isEmpty) (fun _ => false) (fun _ found => by cases found)
        (fun _ => rfl) (fun _ => rfl) with ⟨i, entry, first, _, _⟩ | ⟨_, searched⟩
    · have found := (List.findIdx?_eq_some_iff_getElem.mp first).2.1
      cases found
    · simp only [searched]
      rw [RecordFile.find?_reverse]
      unfold FileLinuxFake.lastNoted
      cases last : RecordFile.lastIdx? (fun entry : EntryPublish => !entry.isEmpty) p.files.pub with
      | none => rfl
      | some i =>
        obtain ⟨entry, found, _⟩ := RecordFile.lastIdx?_some last
        have inside := Nat.lt_trans (List.getElem?_eq_some_iff.mp found).1 room.pub
        have stored := (r.stored.files _).pub entry (List.mem_of_getElem? found)
        simp only [mod_of_capacity inside, Option.bind_some, found]
        rw [if_neg (by omega), readPublish_eq r inside, found]
        simp only [Option.map_some, Option.getD_some, EntryPublish.ofMemory_encode]
        exact congrArg some stored.outputs_padded
  · rfl

/-- What is written is the encoding of the record that replaces the one that was read. -/
theorem Represents.rewritePublish (r : q.Represents p) (room : Roomy p) (publishId : UInt16)
    {buf : EntryPublish → List UInt8} {f : EntryPublish → EntryPublish}
    (same : ∀ entry, buf entry.padded = EntryPublish.codec.encode (f entry)) (kept : ∀ entry, entry.Stored → (f entry).Stored) :
    (q.rewritePublish publishId buf).Represents (p.rewritePublish publishId f) := by
  obtain ⟨card, rfl, holds⟩ := r.onCard
  unfold SDPersistentImpl.rewritePublish Persistent.rewritePublish
  refine .ite (fun _ => ?_) fun _ => r
  by_cases zero : publishId = 0
  · subst zero
    have memory : (p.onCard card).readPublish (((0 : UInt16).toNat : Int) - 1) = [] := readPublish_zero r room
    rw [memory]
    exact r
  · have position : (publishId.toNat : Int) - 1 = (publishId.toNat - 1 : Nat) := by
      have positive : publishId.toNat ≠ 0 := fun none => zero (UInt16.toNat_inj.mp none)
      omega
    have inside : publishId.toNat - 1 < RecordFile.capacity := by
      have bound := publishId.toNat_lt
      unfold RecordFile.capacity
      omega
    have record : p.publishRecord? publishId = p.files.pub[publishId.toNat - 1]? := if_neg zero
    rw [position, readPublish_eq r inside, record]
    cases found : p.files.pub[publishId.toNat - 1]? with
    | none => exact r
    | some entry =>
      have stored := (r.stored.files _).pub entry (List.mem_of_getElem? found)
      have before := (List.getElem?_eq_some_iff.mp found).1
      simp only [Option.map_some, Option.getD_some, EntryPublish.codec.length_encode, EntryPublish.ofMemory_encode, if_true]
      refine .ite (fun _ => ?_) fun _ => ⟨rfl, holds, r.stored, r.entry⟩
      have written : buf { entry with msg := (array 255 entry.msg 0).bytes } = EntryPublish.codec.encode (f entry) := same entry
      rw [written]
      refine (r.savePublish inside (kept entry stored)).congr (modifyFiles_congr ?_)
      simp only [RecordFile.put, if_pos before]

theorem Represents.setPublishMsgId (r : q.Represents p) (room : Roomy p) (publishId msgId : UInt16) :
    (q.setPublishMsgId publishId msgId).Represents (p.setPublishMsgId publishId msgId) := by
  apply r.rewritePublish room publishId
  · exact fun entry => EntryPublish.encode_array { entry with msgId := msgId }
  · exact fun entry stored => ⟨stored.fits, stored.covered⟩

theorem Represents.removePublishByPublishId (r : q.Represents p) (room : Roomy p) (publishId : UInt16) :
    (q.removePublishByPublishId publishId).Represents (p.removePublishByPublishId publishId) := by
  apply r.rewritePublish room publishId
  · exact fun _ => EntryPublish.codec.encode_zero.symm
  · exact fun _ _ => ⟨by decide, by decide⟩

theorem stored_zeroHalfword {entry : EntryPublish} (stored : entry.Stored) (offset : Nat) :
    (entry.zeroHalfword offset).Stored := by
  unfold EntryPublish.zeroHalfword
  refine ⟨?_, ?_⟩
  · have fits := stored.fits
    repeat' split
    all_goals simp [fits]
  · have covered := stored.covered
    repeat' split
    all_goals simp [covered]

theorem stored_zeroHalfwordAt {pub : List EntryPublish} (stored : ∀ entry ∈ pub, entry.Stored) (offset : Nat) :
    ∀ entry ∈ Persistent.zeroHalfwordAt pub offset, entry.Stored := by
  intro entry member
  unfold Persistent.zeroHalfwordAt at member
  cases found : pub[offset / EntryPublish.size]? with
  | none =>
    rw [List.modify_eq_self (List.getElem?_eq_none_iff.mp found)] at member
    exact stored entry member
  | some old =>
    rw [modify_of_getElem? found] at member
    rcases List.mem_or_eq_of_mem_set member with kept | rfl
    · exact stored entry kept
    · exact stored_zeroHalfword (stored old (List.mem_of_getElem? found)) _

theorem write_zeroHalfwordAt {pub : List EntryPublish} {i : Nat} (inside : i < pub.length) :
    BinaryFile.write (EntryPublish.codec.file pub) (i * 2) [0, 0] =
      EntryPublish.codec.file (Persistent.zeroHalfwordAt pub (i * 2)) := by
  have size : EntryPublish.codec.size = EntryPublish.size := rfl
  have width : EntryPublish.size = 272 := rfl
  have before : i * 2 / EntryPublish.size < pub.length := by
    rw [width]
    omega
  have found := List.getElem?_eq_getElem before
  have split : i * 2 = i * 2 / EntryPublish.size * EntryPublish.codec.size + i * 2 % EntryPublish.size := by
    rw [size, Nat.mul_comm (i * 2 / EntryPublish.size)]
    exact (Nat.div_add_mod _ _).symm
  have even : i * 2 % EntryPublish.size % 2 = 0 := by
    rw [width]
    omega
  have fits : i * 2 % EntryPublish.size + 2 ≤ EntryPublish.size := by
    rw [width]
    omega
  unfold Persistent.zeroHalfwordAt
  rw [modify_of_getElem? found]
  conv_lhs => rw [split]
  apply EntryPublish.codec.write_inside found fits
  rw [EntryPublish.encode_zeroHalfword _ even (by omega), write_pair]
  rw [EntryPublish.codec.length_encode, size]
  omega

theorem Represents.clearHalfword (r : q.Represents p) (room : Roomy p) (msgId : UInt16) :
    SDPersistentImpl.Represents
      (match q.searchPublish (fun _ => false) fun entry => entry.msgId = msgId with
        | .inl (_, entryNumber) => q.save (q.filename .publish) (entryNumber * 2) [0, 0]
        | .inr _ => q)
      (match p.files.pub.findIdx? fun entry => entry.msgId = msgId with
        | some entryNumber =>
          p.modifyFiles fun files => { files with pub := Persistent.zeroHalfwordAt files.pub (entryNumber * 2) }
        | none => p) := by
  obtain ⟨card, rfl, _⟩ := r.onCard
  rcases searchPublish_cases r (fun _ => false) (fun entry => entry.msgId = msgId) (fun _ _ => rfl) (fun _ => rfl)
      (fun _ => rfl) with ⟨i, entry, first, found, searched⟩ | ⟨missing, searched⟩
  · have before := (List.getElem?_eq_some_iff.mp found).1
    have inside := Nat.lt_trans before room.pub
    have stored := r.stored.files p.entryClient.fileNumber
    simp only [searched, first, mod_of_capacity inside]
    refine r.saveFile (near_of_capacity inside (by decide)) (write_zeroHalfwordAt before).symm ?_ ?_
    · intro other different
      cases other <;> first | rfl | exact absurd rfl different
    · refine ⟨stored.reg, stored.sub, stored.wil, ?_⟩
      exact stored_zeroHalfwordAt stored.pub _
  · simp only [searched, missing]
    exact r

theorem Represents.removePublishByMsgId (r : q.Represents p) (room : Roomy p) (msgId : UInt16) :
    (q.removePublishByMsgId msgId).Represents (p.removePublishByMsgId msgId) := by
  obtain ⟨card, rfl, holds⟩ := r.onCard
  unfold SDPersistentImpl.removePublishByMsgId Persistent.removePublishByMsgId
  refine .ite (fun _ => ?_) fun _ => r
  have guarded : SDPersistentImpl.Represents (if msgId = 0 then { p.onCard card with error := true } else p.onCard card)
      (if msgId = 0 then { p with error := true } else p) :=
    .ite (fun _ => ⟨rfl, holds, r.stored, r.entry⟩) fun _ => r
  have room' : Roomy (if msgId = 0 then { p with error := true } else p) := by
    split
    · exact ⟨room.counts, room.reg, room.sub, room.pub⟩
    · exact room
  exact guarded.clearHalfword room' msgId

end Publishes

section Deletion

theorem modifyFiles_ite {c : Prop} [Decidable c] {h : ClientFiles → ClientFiles} :
    (p.modifyFiles fun files => if c then h files else files) = if c then p.modifyFiles h else p := by
  split
  · rfl
  · unfold Persistent.modifyFiles
    rw [Store.modifyFiles_id rfl]

theorem Represents.remove (r : q.Represents p) (ending : FileEnding) :
    (q.remove (q.filename ending)).Represents (p.modifyFiles fun files =>
      if p.sd.removes (filenameWithExtension p.entryClient.fileNumber ending) then files.clear ending else files) := by
  obtain ⟨card, rfl, holds⟩ := r.onCard
  rw [modifyFiles_ite]
  unfold SDPersistentImpl.remove
  refine .ite (fun _ => ?_) fun _ => r
  have cleared : (p.files.clear ending).Stored := (r.stored.files p.entryClient.fileNumber).clear ending
  refine ⟨rfl, ?_, Store.Stored.modifyFiles (h := fun files => files.clear ending) r.stored cleared, r.entry⟩
  exact Card.Holds.writeFile (h := fun files => files.clear ending) holds r.entry.numbered ClientFiles.bytes_clear
    fun other => ClientFiles.bytes_clear_ne

theorem Represents.deleteWill (r : q.Represents p) : q.deleteWill.Represents p.deleteWill := by
  obtain ⟨card, rfl, _⟩ := r.onCard
  unfold SDPersistentImpl.deleteWill Persistent.deleteWill
  exact .ite (fun _ => r.remove .will) fun _ => r

theorem Represents.deleteFile (r : q.Represents p) (ending : FileEnding) :
    (q.deleteFile (q.filename ending)).Represents
      (p.modifyFiles fun files => p.sd.deleteFile p.entryClient.fileNumber files ending) := by
  obtain ⟨card, rfl, _⟩ := r.onCard
  unfold SDPersistentImpl.deleteFile SDLinuxFake.deleteFile
  rw [modifyFiles_ite]
  exact .ite (fun _ => r.remove ending) fun _ => r

/-- The last part of `delete_client`: the slot that carries the client id is overwritten with zeros. -/
theorem Represents.eraseClient (r : q.Represents p) (clientId : CString) :
    SDPersistentImpl.Represents
      (match q.searchClient fun entry => entry.clientId = clientId with
        | some (_, lineNumber) =>
          { q.save clientRegistry (lineNumber * EntryClient.codec.size) (List.replicate EntryClient.codec.size 0) with
            entryClient := .zero, notInClientRegistry := true }
        | none => { q with entryClient := .zero, notInClientRegistry := true })
      (match p.store.slotOfId clientId with
        | some slot => { p with entryClient := .zero, store := p.store.writeSlot slot .zero, notInClientRegistry := true }
        | none => { p with entryClient := .zero, notInClientRegistry := true }) := by
  obtain ⟨card, rfl, holds⟩ := r.onCard
  rw [searchId_eq holds r.stored]
  cases selected : p.store.slotOfId clientId with
  | some slot =>
    simp only [Option.map_some]
    rw [← EntryClient.codec.encode_zero]
    exact r.saveClient (slotOfId_lt r.stored selected) EntryClient.stored_zero true
  | none => exact ⟨rfl, holds, r.stored, EntryClient.stored_zero⟩

theorem Represents.deleteClient (r : q.Represents p) (clientId : CString) :
    (q.deleteClient clientId).Represents (p.deleteClient clientId) := by
  have count := r.getClientSubscriptionCount
  obtain ⟨card, rfl, holds⟩ := r.onCard
  have failed : SDPersistentImpl.Represents { p.onCard card with error := true } { p with error := true } :=
    ⟨rfl, holds, r.stored, r.entry⟩
  unfold SDPersistentImpl.deleteClient Persistent.deleteClient
  rw [count]
  refine .ite (fun _ => r) fun _ => .ite (fun _ => r) fun _ => .ite (fun _ => failed) fun _ =>
    .ite (fun _ => failed) fun _ => ?_
  have deleted := (((r.deleteFile .registration).deleteFile .subscribe).deleteFile .will).deleteFile .publish
  exact deleted.eraseClient clientId

end Deletion

end SDPersistentImpl

end MqttSnGateway
