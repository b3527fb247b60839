import MqttSnGateway.Card.SDPersistentImpl
import MqttSnGateway.Store.Registry

namespace MqttSnGateway

open BinaryFile Persistent

namespace FileLinuxFake

variable {α : Type} {codec : Codec α} {ofMemory : List UInt8 → α} {card : Card} {name : List UInt8} {records seen : List α}
  {strict : Bool} {noted wanted : α → Bool}

/-- The number of the last record that a loop notes. -/
def lastNoted (noted : α → Bool) (records : List α) : Int :=
  match RecordFile.lastIdx? noted records with
  | some i => ((i % 65536 : Nat) : Int)
  | none => -1

theorem firstEmptySpace_eq : firstEmptySpace (lastNoted noted seen, seen.length + 1) = RecordFile.freeSpace noted seen := by
  unfold firstEmptySpace lastNoted RecordFile.freeSpace
  cases RecordFile.lastIdx? noted seen with
  | some i =>
    simp only
    rw [if_neg (by omega)]
  | none => rfl

theorem searchPass_hit (disjoint : ∀ entry, wanted entry = true → noted entry = false) {entry : α} {number : Nat}
    {space : Int} (holds : wanted entry = true) :
    searchPass noted wanted entry number space = .result (entry, number % 65536) := by
  unfold searchPass
  rw [disjoint entry holds, holds]
  rfl

theorem searchPass_miss {entry : α} {number : Nat} {space : Int} (fails : wanted entry = false) :
    searchPass noted wanted entry number space =
      .next (if noted entry then ((number % 65536 : Nat) : Int) else space) := by
  unfold searchPass
  rw [fails]
  cases noted entry <;> rfl

theorem find?_of_findIdx? {i : Nat} {entry : α} (first : seen.findIdx? wanted = some i) (found : seen[i]? = some entry) :
    seen.find? wanted = some entry := by
  obtain ⟨inside, holds, before⟩ := List.findIdx?_eq_some_iff_getElem.mp first
  rw [List.getElem?_eq_getElem inside] at found
  cases found
  rw [List.find?_eq_some_iff_getElem]
  exact ⟨holds, i, inside, rfl, fun j earlier => by simpa using before j earlier⟩

/-- The loop over the bytes finds the record that a search in the list of records finds, and otherwise it has noted
    the last place. -/
theorem search_cases (content : card name = codec.file records)
    (view : records.map (fun record => ofMemory (codec.encode record)) = seen)
    (disjoint : ∀ entry, wanted entry = true → noted entry = false) :
    (∃ i entry, seen.findIdx? wanted = some i ∧ seen[i]? = some entry ∧ seen.find? wanted = some entry ∧
        (SDLinuxFake.open name true).search card codec.size ofMemory strict noted wanted = .inl (entry, i % 65536)) ∨
      seen.findIdx? wanted = none ∧ seen.find? wanted = none ∧
        (SDLinuxFake.open name true).search card codec.size ofMemory strict noted wanted =
          .inr (lastNoted noted seen, seen.length + 1) := by
  have loop : (SDLinuxFake.open name true).search card codec.size ofMemory strict noted wanted =
      passes (searchPass noted wanted) (fun _ space => .next space) seen 0 (-1) := by
    unfold search scan SDLinuxFake.open
    simp only [if_true]
    rw [content, codec.scan_file, ← view, ← passes_map]
    have behind : ¬ ([] : List UInt8).length = codec.size := Nat.ne_of_lt codec.positive
    congr 1
    · funext record number space
      rw [if_pos (codec.length_encode record)]
    · funext number space
      rw [if_neg behind, if_neg (by simp)]
  rw [loop]
  cases first : seen.findIdx? wanted with
  | some i =>
    have inside := (List.findIdx?_eq_some_iff_getElem.mp first).1
    have found := List.getElem?_eq_getElem inside
    refine .inl ⟨i, seen[i], rfl, found, find?_of_findIdx? first found, ?_⟩
    have hit : ∀ entry number (space : Int), wanted entry = true →
        searchPass noted wanted entry number space = .result (entry, number % 65536) :=
      fun _ _ _ => searchPass_hit disjoint
    rw [passes_found (f := fun entry number => (entry, number % 65536)) hit (fun _ _ _ => searchPass_miss) first found,
      Nat.zero_add]
  | none =>
    have missing : seen.find? wanted = none := by
      rw [List.find?_eq_none]
      intro entry member
      rw [List.findIdx?_eq_none_iff.mp first entry member]
      exact Bool.false_ne_true
    refine .inr ⟨rfl, missing, ?_⟩
    rw [passes_missed (fun _ _ _ => searchPass_miss) first, changes_last, Nat.zero_add]
    simp only [Nat.zero_add]
    rfl

end FileLinuxFake

theorem EntryClient.view {clients : List EntryClient} (stored : ∀ entry ∈ clients, entry.Stored) :
    clients.map (fun entry => ofMemory (codec.encode entry)) = clients := by
  rw [List.map_congr_left fun entry member => EntryClient.ofMemory_encode (stored entry member)]
  exact List.map_id _

theorem EntryMqttSubscription.view {table : List EntryMqttSubscription}
    (stored : ∀ entry ∈ table, entry.topicName.length < 255) :
    table.map (fun entry => ofMemory (codec.encode entry)) = table := by
  rw [List.map_congr_left fun entry member => EntryMqttSubscription.ofMemory_encode (stored entry member)]
  exact List.map_id _

theorem EntrySubscription.view {sub : List EntrySubscription} (stored : ∀ entry ∈ sub, entry.topicName.length < 255) :
    sub.map (fun entry => ofMemory (codec.encode entry)) = sub := by
  rw [List.map_congr_left fun entry member => EntrySubscription.ofMemory_encode (stored entry member)]
  exact List.map_id _

theorem EntryRegistration.view {reg : List EntryRegistration} (stored : ∀ entry ∈ reg, entry.topicName.length < 255) :
    reg.map (fun entry => ofMemory (codec.encode entry)) = reg := by
  rw [List.map_congr_left fun entry member => EntryRegistration.ofMemory_encode (stored entry member)]
  exact List.map_id _

namespace SDPersistentImpl

variable {q : SDPersistentImpl} {s : Store} {wanted : EntryClient → Bool}

section Registry

theorem clientPass_hit {entry : EntryClient} {number : Nat} (holds : (entry.clientId.length < 24 && wanted entry) = true) :
    clientPass wanted entry number () = .result (entry, number % 4294967296) := if_pos holds

theorem clientPass_miss {entry : EntryClient} {number : Nat}
    (fails : (entry.clientId.length < 24 && wanted entry) = false) : clientPass wanted entry number () = .next () := by
  unfold clientPass
  rw [fails]
  rfl

/-- The loop over the registry finds the slot that a search in the list of entries finds. -/
theorem searchClient_eq (content : q.card clientRegistry = EntryClient.codec.file s.clients)
    (stored : ∀ entry ∈ s.clients, entry.Stored) (short : s.clients.length ≤ 65536) :
    q.searchClient wanted =
      (s.clients.findIdx? fun entry => entry.clientId.length < 24 && wanted entry).map fun slot =>
        (s.nthClient slot, slot) := by
  have loop : q.searchClient wanted =
      (passes (clientPass wanted) (fun _ state => .next state) s.clients 0 ()).getLeft? := by
    unfold searchClient FileLinuxFake.scan SDLinuxFake.open
    simp only [if_true]
    conv_rhs => rw [← EntryClient.view stored]
    rw [content, EntryClient.codec.scan_file, ← passes_map]
    congr 2
    funext record number space
    rw [if_pos (EntryClient.codec.length_encode record)]
  rw [loop]
  cases first : s.clients.findIdx? fun entry => entry.clientId.length < 24 && wanted entry with
  | some slot =>
    have inside := (List.findIdx?_eq_some_iff_getElem.mp first).1
    have found := List.getElem?_eq_getElem inside
    have small : (0 + slot) % 4294967296 = slot := by
      rw [Nat.zero_add]
      exact Nat.mod_eq_of_lt (by omega)
    rw [passes_found (f := fun entry number => (entry, number % 4294967296)) (fun _ _ _ => clientPass_hit)
      (fun _ _ _ => clientPass_miss) first found, small]
    simp only [Sum.getLeft?_inl, Option.map_some, Store.nthClient, List.getD_eq_getElem _ _ inside]
  | none =>
    rw [passes_missed (fun _ _ _ => clientPass_miss) first]
    rfl

theorem findEmptyEntrySpaceInRegistry_eq (content : q.card clientRegistry = EntryClient.codec.file s.clients)
    (stored : ∀ entry ∈ s.clients, entry.Stored) : q.findEmptyEntrySpaceInRegistry = s.findEmptyEntrySpace := by
  have hit : ∀ (entry : EntryClient) (number : Nat) (state : Unit), decide (entry.clientId.length = 0) = true →
      emptyPass entry number state = .result number := fun entry number state holds => if_pos (of_decide_eq_true holds)
  have miss : ∀ (entry : EntryClient) (number : Nat) (state : Unit), decide (entry.clientId.length = 0) = false →
      emptyPass entry number state = .next () := fun entry number state fails => if_neg (of_decide_eq_false fails)
  have loop : (SDLinuxFake.open clientRegistry true).scan q.card EntryClient.codec.size (fun memory number state =>
        if memory.length = 0 then .leave state else emptyPass (EntryClient.ofMemory memory) number state) () =
      passes emptyPass (fun _ state => .leave state) s.clients 0 () := by
    unfold FileLinuxFake.scan SDLinuxFake.open
    simp only [if_true]
    conv_rhs => rw [← EntryClient.view stored]
    rw [content, EntryClient.codec.scan_file, ← passes_map]
    congr 1
    funext record number space
    rw [if_neg (by rw [EntryClient.codec.length_encode record]; decide)]
  unfold findEmptyEntrySpaceInRegistry Store.findEmptyEntrySpace
  rw [loop]
  cases first : s.clients.findIdx? fun entry => decide (entry.clientId.length = 0) with
  | some slot =>
    have inside := (List.findIdx?_eq_some_iff_getElem.mp first).1
    rw [passes_found (f := fun _ number => number) hit miss first (List.getElem?_eq_getElem inside), Nat.zero_add]
  | none =>
    rw [passes_missed miss first, Nat.zero_add]
    rfl

end Registry

section Names

theorem filename_inj {number other : CString} {ending ending' : FileEnding}
    (same : filenameWithExtension number ending = filenameWithExtension other ending') :
    number = other ∧ ending = ending' := by
  unfold filenameWithExtension at same
  have lengths : ending.bytes.length = ending'.bytes.length := by
    cases ending <;> cases ending' <;> rfl
  obtain ⟨front, back⟩ := List.append_inj' same lengths
  refine ⟨CString.ext front, ?_⟩
  cases ending <;> cases ending' <;> first | rfl | cases back

theorem length_filename {number : CString} (numbered : IsFileNumber number) (ending : FileEnding) :
    (filenameWithExtension number ending).length = 4 ∨ (filenameWithExtension number ending).length = 12 := by
  have short : ending.bytes.length = 4 := by cases ending <;> rfl
  unfold filenameWithExtension
  rw [List.length_append, short]
  rcases numbered with rfl | ⟨slot, _, rfl⟩
  · exact .inl rfl
  · exact .inr (congrArg (· + 4) (CString.length_digits 8 slot))

theorem filename_ne_clientRegistry {number : CString} (numbered : IsFileNumber number) (ending : FileEnding) :
    filenameWithExtension number ending ≠ clientRegistry := by
  intro same
  have lengths := length_filename numbered ending
  rw [same] at lengths
  exact absurd lengths (by decide)

theorem filename_ne_mqttSub {number : CString} (numbered : IsFileNumber number) (ending : FileEnding) :
    filenameWithExtension number ending ≠ mqttSub := by
  intro same
  have lengths := length_filename numbered ending
  rw [same] at lengths
  exact absurd lengths (by decide)

end Names

end SDPersistentImpl

section Contents

def ClientFiles.bytes (files : ClientFiles) : FileEnding → List UInt8
  | .registration => EntryRegistration.codec.file files.reg
  | .subscribe => EntrySubscription.codec.file files.sub
  | .will => EntryWill.codec.file files.wil.toList
  | .publish => EntryPublish.codec.file files.pub

/-- The files of a client fit into their records. -/
structure ClientFiles.Stored (files : ClientFiles) : Prop where
  reg : ∀ entry ∈ files.reg, entry.topicName.length < 255
  sub : ∀ entry ∈ files.sub, entry.topicName.length < 255
  wil : ∀ entry ∈ files.wil, entry.Stored
  pub : ∀ entry ∈ files.pub, entry.Stored

structure Store.Stored (s : Store) : Prop where
  short : s.clients.length ≤ 65536
  clients : ∀ entry ∈ s.clients, entry.Stored
  mqttSub : ∀ entry ∈ s.mqttSub, entry.topicName.length < 255
  files : ∀ number, (s.files number).Stored

/-- The files of the card consist of the records of the store. -/
structure Card.Holds (card : Card) (s : Store) : Prop where
  clients : card SDPersistentImpl.clientRegistry = EntryClient.codec.file s.clients
  mqttSub : card SDPersistentImpl.mqttSub = EntryMqttSubscription.codec.file s.mqttSub
  files : ∀ number, IsFileNumber number → ∀ ending,
    card (filenameWithExtension number ending) = (s.files number).bytes ending

variable {card : Card} {s : Store}

theorem Card.Holds.writeSlot (holds : card.Holds s) (slot : Nat) (entry : EntryClient) :
    Card.Holds (Function.update card SDPersistentImpl.clientRegistry (BinaryFile.write
        (card SDPersistentImpl.clientRegistry) (slot * EntryClient.codec.size) (EntryClient.codec.encode entry)))
      (s.writeSlot slot entry) where
  clients := by
    rw [Function.update_self, holds.clients, EntryClient.codec.write_file]
    rfl
  mqttSub := by
    rw [Function.update_of_ne (by decide)]
    exact holds.mqttSub
  files number numbered ending := by
    rw [Function.update_of_ne (SDPersistentImpl.filename_ne_clientRegistry numbered ending)]
    exact holds.files number numbered ending

theorem Card.Holds.writeCount (holds : card.Holds s) (position : Nat) (entry : EntryMqttSubscription) :
    Card.Holds (Function.update card SDPersistentImpl.mqttSub (BinaryFile.write (card SDPersistentImpl.mqttSub)
        (position * EntryMqttSubscription.codec.size) (EntryMqttSubscription.codec.encode entry)))
      { s with mqttSub := RecordFile.put .zero s.mqttSub position entry } where
  clients := by
    rw [Function.update_of_ne (by decide)]
    exact holds.clients
  mqttSub := by
    rw [Function.update_self, holds.mqttSub, EntryMqttSubscription.codec.write_file]
    rfl
  files number numbered ending := by
    rw [Function.update_of_ne (SDPersistentImpl.filename_ne_mqttSub numbered ending)]
    exact holds.files number numbered ending

theorem Card.Holds.writeFile (holds : card.Holds s) {number : CString} (numbered : IsFileNumber number)
    {ending : FileEnding} {bytes : List UInt8} {h : ClientFiles → ClientFiles}
    (written : (h (s.files number)).bytes ending = bytes)
    (others : ∀ other, other ≠ ending → (h (s.files number)).bytes other = (s.files number).bytes other) :
    Card.Holds (Function.update card (filenameWithExtension number ending) bytes) (s.modifyFiles number h) where
  clients := by
    rw [Function.update_of_ne (SDPersistentImpl.filename_ne_clientRegistry numbered ending).symm]
    exact holds.clients
  mqttSub := by
    rw [Function.update_of_ne (SDPersistentImpl.filename_ne_mqttSub numbered ending).symm]
    exact holds.mqttSub
  files other numbered' ending' := by
    rw [Store.files_modifyFiles]
    by_cases same : other = number
    · subst same
      rw [if_pos rfl]
      by_cases this : ending' = ending
      · subst this
        rw [Function.update_self, written]
      · rw [Function.update_of_ne fun clash => this (SDPersistentImpl.filename_inj clash).2, others ending' this]
        exact holds.files other numbered ending'
    · rw [if_neg same, Function.update_of_ne fun clash => same (SDPersistentImpl.filename_inj clash).1]
      exact holds.files other numbered' ending'

theorem Store.Stored.modifyFiles (stored : s.Stored) {number : CString} {h : ClientFiles → ClientFiles}
    (kept : (h (s.files number)).Stored) : (s.modifyFiles number h).Stored where
  short := stored.short
  clients := stored.clients
  mqttSub := stored.mqttSub
  files other := by
    rw [Store.files_modifyFiles]
    split
    · exact kept
    · exact stored.files other

theorem Store.Stored.writeSlot (stored : s.Stored) {slot : Nat} (inside : slot < 65536) {entry : EntryClient}
    (fits : entry.Stored) : (s.writeSlot slot entry).Stored where
  short := by
    have length : (s.writeSlot slot entry).clients.length = max s.clients.length (slot + 1) := RecordFile.length_put
    have short := stored.short
    omega
  clients other member := by
    rcases BinaryFile.mem_put member with rfl | rfl | old
    · exact fits
    · exact EntryClient.stored_zero
    · exact stored.clients other old
  mqttSub := stored.mqttSub
  files := stored.files

end Contents

end MqttSnGateway
