import MqttSnGateway.Core.LoopSpecs
import MqttSnGateway.Safety.ServicedClients

namespace MqttSnGateway

open Persistent Store

namespace EntryClient

def lost (entry : EntryClient) : EntryClient := { entry with clientStatus := .lost }

/-- Only clients are lost. -/
def lose (entry : EntryClient) : EntryClient := if entry.clientStatus = .empty then entry else entry.lost

variable {entry : EntryClient}

theorem lose_registered (registered : entry.clientStatus ≠ .empty) : entry.lose = entry.lost := if_neg registered

@[simp] theorem clientAddress_lose : entry.lose.clientAddress = entry.clientAddress := by
  unfold lose
  split <;> rfl

@[simp] theorem lose_lose : entry.lose.lose = entry.lose := by
  by_cases empty : entry.clientStatus = .empty
  · unfold lose
    rw [if_pos empty, if_pos empty]
  · rw [lose_registered empty]
    exact lose_registered nofun

theorem lose_of_lost (already : entry.clientStatus = .lost) : entry.lose = entry := by
  unfold lose lost
  rw [already, if_neg nofun, ← already]

theorem lost_lose (registered : entry.lose.clientStatus ≠ .empty) : entry.lose.lost = entry.lose := by
  rw [← lose_registered registered, lose_lose]

end EntryClient

namespace Store

variable {s s' s'' : Store} {last : DeviceAddress} {k m n : Nat}

/-- The first slot with the address, where the traversal ends. -/
def EndsAt (s : Store) (last : DeviceAddress) (f : Nat) : Prop :=
  (s.nthClient f).clientAddress = last ∧ ∀ m < f, (s.nthClient m).clientAddress ≠ last

/-- The first client behind slot 0 with its address. -/
def Leads (s : Store) (k : Nat) : Prop :=
  0 < k ∧ (s.nthClient k).clientStatus ≠ .empty ∧ ∀ m, 0 < m → m < k → (s.nthClient m).clientAddress ≠ (s.nthClient k).clientAddress

/-- Its file number is missing, so that the setters for it write to slot 0. -/
def Stray (s : Store) (k : Nat) : Prop := s.Leads k ∧ (s.nthClient k).fileNumber = .empty

/-- The setters for it write to its own slot. -/
def Own (s : Store) (k : Nat) : Prop := s.Leads k ∧ (s.nthClient k).fileNumber ≠ .empty

/-- The address of slot `n` leads to the stray client `k`. -/
def Astray (s : Store) (n k : Nat) : Prop := 0 < n ∧ s.Stray k ∧ (s.nthClient k).clientAddress = (s.nthClient n).clientAddress

/-- Before slot `n`, what a stray client leaves in slot 0 is written over by a copy of what was there. -/
def Restored (s : Store) (n : Nat) : Prop :=
  ∀ p < n, ∀ k, s.Astray p k → (s.nthClient p).clientAddress = (s.nthClient 0).clientAddress ∨
    ∃ q k', p < q ∧ q < n ∧ s.Astray q k' ∧ (s.nthClient k').lose = (s.nthClient 0).lose

/-- Every client is LOST already, or stands before the end in the slot that its address selects and that its setters write;
    and slot 0 is restored. -/
def LosesAll (s : Store) (last : DeviceAddress) : Prop :=
  ∃ f, s.EndsAt last f ∧ s.Restored f ∧ ∀ n, (s.nthClient n).clientStatus ≠ .empty → (s.nthClient n).clientStatus = .lost ∨
    n < f ∧ (n = 0 ∨ (s.nthClient n).fileNumber ≠ .empty) ∧ ∀ m < n, (s.nthClient m).clientAddress ≠ (s.nthClient n).clientAddress

theorem Leads.unique (first : s.Leads k) (second : s.Leads m)
    (same : (s.nthClient k).clientAddress = (s.nthClient m).clientAddress) : k = m := by
  rcases Nat.lt_trichotomy k m with before | equal | behind
  · exact absurd same (second.2.2 k first.1 before)
  · exact equal
  · exact absurd same.symm (first.2.2 m second.1 behind)

theorem exists_leads (positive : 0 < n) (registered : (s.nthClient n).clientStatus ≠ .empty) (ok : s.SlotsOk) :
    ∃ k ≤ n, s.Leads k ∧ (s.nthClient k).clientAddress = (s.nthClient n).clientAddress := by
  induction n using Nat.strongRecOn with
  | ind n ih =>
    by_cases earlier : ∃ m, 0 < m ∧ m < n ∧ (s.nthClient m).clientAddress = (s.nthClient n).clientAddress
    · obtain ⟨m, ahead, before, same⟩ := earlier
      have used : (s.nthClient m).clientStatus ≠ .empty := by
        intro empty
        apply (ok.fits n).addressed registered
        rw [← same]
        exact (ok.empty_iff m).mpr empty
      obtain ⟨k, reached, leads, equal⟩ := ih m before ahead used
      exact ⟨k, by omega, leads, equal.trans same⟩
    · exact ⟨n, Nat.le_refl n, ⟨positive, registered, fun m ahead before same => earlier ⟨m, ahead, before, same⟩⟩, rfl⟩

theorem Astray.registered (astray : s.Astray n k) (ok : s.SlotsOk) : (s.nthClient n).clientStatus ≠ .empty := by
  intro empty
  apply (ok.fits k).addressed astray.2.1.1.2.1
  rw [astray.2.2]
  exact (ok.empty_iff n).mpr empty

theorem Restored.later (kept : s.Restored n)
    (fresh : ∀ k, s.Astray n k → (s.nthClient n).clientAddress = (s.nthClient 0).clientAddress) : s.Restored (n + 1) := by
  intro p before k astray
  rcases Nat.lt_or_eq_of_le (Nat.le_of_lt_succ before) with earlier | rfl
  · rcases kept p earlier k astray with here | ⟨q, k', behind, inside, copies⟩
    · exact .inl here
    · exact .inr ⟨q, k', behind, Nat.lt_succ_of_lt inside, copies⟩
  · exact .inl (fresh k astray)

theorem Restored.earlier (kept : s.Restored (n + 1)) (other : ∀ k, s.Astray n k → (s.nthClient k).lose ≠ (s.nthClient 0).lose) :
    s.Restored n := by
  intro p before k astray
  rcases kept p (Nat.lt_succ_of_lt before) k astray with here | ⟨q, k', behind, inside, copies, same⟩
  · exact .inl here
  · rcases Nat.lt_or_eq_of_le (Nat.le_of_lt_succ inside) with earlier | rfl
    · exact .inr ⟨q, k', behind, earlier, copies, same⟩
    · exact absurd same (other k' copies)

/-- The store after the visits of the slots before `n`. -/
structure Losing (s : Store) (n : Nat) (s' : Store) : Prop where
  ok : s'.SlotsOk
  behind : ∀ j, n ≤ j → s'.nthClient j = s.nthClient j
  others : ∀ j, 0 < j → ¬ s.Own j → s'.nthClient j = s.nthClient j
  own : ∀ j, s.Own j → s'.nthClient j = s.nthClient j ∨ s'.nthClient j = (s.nthClient j).lose
  lost : ∀ j < n, s.Own j → (s.nthClient j).clientAddress ≠ (s.nthClient 0).clientAddress →
    s'.nthClient j = (s.nthClient j).lose
  hidden : ∀ j, s.Own j → (s.nthClient j).clientAddress = (s.nthClient 0).clientAddress →
    s'.nthClient j = s.nthClient j ∨ ¬ s.Restored n
  first : 0 < n → s'.nthClient 0 = (s.nthClient 0).lose ∧ s.Restored n ∨
    ∃ k, s.Stray k ∧ s'.nthClient 0 = (s.nthClient k).lose ∧ (s.nthClient k).lose ≠ (s.nthClient 0).lose ∧ ¬ s.Restored n
  files : s'.files = s.files
  mqttSub : s'.mqttSub = s.mqttSub

theorem Losing.start (ok : s.SlotsOk) : Losing s 0 s where
  ok := ok
  behind := fun _ _ => rfl
  others := fun _ _ _ => rfl
  own := fun _ _ => .inl rfl
  lost := nofun
  hidden := fun _ _ _ => .inl rfl
  first := nofun
  files := rfl
  mqttSub := rfl

theorem Losing.clientAddress (losing : Losing s n s') {j : Nat} (positive : 0 < j) :
    (s'.nthClient j).clientAddress = (s.nthClient j).clientAddress := by
  by_cases own : s.Own j
  · rcases losing.own j own with same | lost
    · rw [same]
    · rw [lost, EntryClient.clientAddress_lose]
  · rw [losing.others j positive own]

/-- What a visit does to the registry: nothing new, the loss of a client in its own slot, or a stray client to slot 0. -/
inductive Loses (s : Store) (n : Nat) (s' s'' : Store) : Prop
  | again (same : ∀ j, s''.nthClient j = s'.nthClient j)
      (here : (s.nthClient n).clientStatus = .empty ∨ (s'.nthClient 0).clientAddress = (s.nthClient n).clientAddress)
  | own (k : Nat) (own : s.Own k) (reached : k ≤ n) (leads : (s.nthClient k).clientAddress = (s.nthClient n).clientAddress)
      (other : (s'.nthClient 0).clientAddress ≠ (s.nthClient n).clientAddress)
      (written : s''.nthClient k = (s.nthClient k).lose) (rest : ∀ j, j ≠ k → s''.nthClient j = s'.nthClient j)
  | stray (k : Nat) (astray : s.Astray n k) (other : (s'.nthClient 0).clientAddress ≠ (s.nthClient n).clientAddress)
      (written : s''.nthClient 0 = (s.nthClient k).lose) (rest : ∀ j, j ≠ 0 → s''.nthClient j = s'.nthClient j)

theorem Own.ahead (own : s.Own k) : k ≠ 0 := by
  have positive := own.1.1
  omega

theorem Own.not_astray (own : s.Own k) (leads : (s.nthClient k).clientAddress = (s.nthClient n).clientAddress) :
    ¬ s.Astray n m := by
  intro astray
  have same : k = m := own.1.unique astray.2.1.1 (leads.trans astray.2.2.symm)
  subst same
  exact own.2 astray.2.1.2

/-- A client with the address of slot 0 whose setters write to its own slot leaves nothing that could restore slot 0. -/
theorem Own.unrestored (own : s.Own k) (hidden : (s.nthClient k).clientAddress = (s.nthClient 0).clientAddress)
    (kept : s.Restored (n + 1)) : s.Restored n := by
  apply kept.earlier
  intro m astray copies
  have same := congrArg EntryClient.clientAddress copies
  rw [EntryClient.clientAddress_lose, EntryClient.clientAddress_lose, ← hidden] at same
  exact own.not_astray (same.symm.trans astray.2.2) astray

theorem SlotsOk.slotNumber_first (ok : s.SlotsOk) (registered : (s.nthClient 0).clientStatus ≠ .empty) :
    (s.nthClient 0).slotNumber = 0 := by
  rcases ok.slotNumber_cases registered with ⟨_, own⟩ | ⟨_, _, own⟩
  · exact own
  · exact own

theorem Losing.loses (losing : Losing s n s') (ok : s.SlotsOk) (positive : 0 < n)
    (registered : (s.nthClient n).clientStatus ≠ .empty) :
    Loses s n s' (s'.updateAt (s.nthClient n).clientAddress EntryClient.lost) := by
  have nonzero := (ok.fits n).addressed registered
  by_cases here : (s'.nthClient 0).clientAddress = (s.nthClient n).clientAddress
  · have found : s'.slotOfAddress (s.nthClient n).clientAddress = some 0 := by
      apply (losing.ok.slotOfAddress_eq_some nonzero).mpr
      exact ⟨here, nofun⟩
    have used := losing.ok.registered_of_slotOfAddress nonzero found
    have written : (s'.nthClient 0).lost = s'.nthClient 0 := by
      rcases losing.first positive with ⟨intact, _⟩ | ⟨k, _, strayed, _⟩
      · rw [intact] at used ⊢
        exact EntryClient.lost_lose used
      · rw [strayed] at used ⊢
        exact EntryClient.lost_lose used
    rw [updateAt_found found]
    unfold setEntry
    rw [losing.ok.slotNumber_first used, written]
    apply Loses.again
    · intro j
      rw [nthClient_writeSlot]
      split
      · rename_i same
        rw [same]
      · rfl
    · exact .inr here
  · obtain ⟨k, reached, leads, same⟩ := exists_leads positive registered ok
    have found : s'.slotOfAddress (s.nthClient n).clientAddress = some k := by
      apply (losing.ok.slotOfAddress_eq_some nonzero).mpr
      refine ⟨(losing.clientAddress leads.1).trans same, fun i before => ?_⟩
      rcases Nat.eq_zero_or_pos i with rfl | ahead
      · exact here
      · rw [losing.clientAddress ahead, ← same]
        exact leads.2.2 i ahead before
    have used := losing.ok.registered_of_slotOfAddress nonzero found
    rw [updateAt_found found]
    unfold setEntry
    by_cases unnumbered : (s.nthClient k).fileNumber = .empty
    · have kept : s'.nthClient k = s.nthClient k := losing.others k leads.1 fun own => own.2 unnumbered
      rw [kept, slotNumber_empty unnumbered]
      apply Loses.stray k ⟨positive, ⟨leads, unnumbered⟩, same⟩ here
      · rw [nthClient_writeSlot_self]
        exact (EntryClient.lose_registered leads.2.1).symm
      · exact fun j other => nthClient_writeSlot_ne other
    · have own : s.Own k := ⟨leads, unnumbered⟩
      have number : (s'.nthClient k).slotNumber = k ∧
          (s'.nthClient k).lost = (s.nthClient k).lose := by
        rcases losing.own k own with kept | lost
        · rw [kept] at used ⊢
          refine ⟨?_, (EntryClient.lose_registered used).symm⟩
          rcases ok.slotNumber_cases used with ⟨_, place⟩ | ⟨missing, _⟩
          · exact place
          · exact absurd missing unnumbered
        · rcases losing.ok.slotNumber_cases used with ⟨_, place⟩ | ⟨missing, _⟩
          · rw [lost] at used place ⊢
            exact ⟨place, EntryClient.lost_lose used⟩
          · rw [lost, EntryClient.lose_registered leads.2.1] at missing
            exact absurd missing unnumbered
      rw [number.1, number.2]
      apply Loses.own k own reached same here
      · exact nthClient_writeSlot_self
      · exact fun j other => nthClient_writeSlot_ne other

theorem Losing.first_kept (losing : Losing s n s') (positive : 0 < n) (same : s''.nthClient 0 = s'.nthClient 0)
    (leads : ∀ k, s.Astray n k → (s.nthClient n).clientAddress = (s'.nthClient 0).clientAddress) :
    s''.nthClient 0 = (s.nthClient 0).lose ∧ s.Restored (n + 1) ∨
      ∃ k, s.Stray k ∧ s''.nthClient 0 = (s.nthClient k).lose ∧ (s.nthClient k).lose ≠ (s.nthClient 0).lose ∧
        ¬ s.Restored (n + 1) := by
  rcases losing.first positive with ⟨intact, kept⟩ | ⟨k, stray, strayed, different, unrestored⟩
  · left
    refine ⟨same.trans intact, kept.later fun k astray => ?_⟩
    rw [leads k astray, intact, EntryClient.clientAddress_lose]
  · right
    refine ⟨k, stray, same.trans strayed, different, fun kept => unrestored (kept.earlier fun k' astray copies => ?_)⟩
    have here := leads k' astray
    rw [strayed, EntryClient.clientAddress_lose] at here
    have equal : k' = k := astray.2.1.1.unique stray.1 (astray.2.2.trans here)
    rw [equal] at copies
    exact different copies

theorem Losing.visit (losing : Losing s n s') (ok : s.SlotsOk) (positive : 0 < n) (loses : Loses s n s' s'')
    (kept : s''.SlotsOk) (files : s''.files = s'.files) (mqttSub : s''.mqttSub = s'.mqttSub) : Losing s (n + 1) s'' := by
  have hides : ∀ j, s.Own j → (s.nthClient j).clientAddress = (s.nthClient 0).clientAddress →
      ¬ s.Restored n → ¬ s.Restored (n + 1) := fun j own hidden unrestored kept => unrestored (own.unrestored hidden kept)
  cases loses with
  | again same here =>
    have leads : ∀ k, s.Astray n k → (s.nthClient n).clientAddress = (s'.nthClient 0).clientAddress := by
      intro k astray
      rcases here with empty | here
      · exact absurd empty (astray.registered ok)
      · exact here.symm
    refine ⟨kept, fun j behind => ?_, fun j ahead other => ?_, fun j own => ?_, fun j before own apart => ?_,
      fun j own hidden => ?_, fun _ => losing.first_kept positive (same 0) leads, files.trans losing.files,
      mqttSub.trans losing.mqttSub⟩
    · rw [same, losing.behind j (by omega)]
    · rw [same, losing.others j ahead other]
    · rw [same]
      exact losing.own j own
    · rw [same]
      rcases Nat.lt_or_eq_of_le (Nat.le_of_lt_succ before) with earlier | rfl
      · exact losing.lost j earlier own apart
      · rcases here with empty | here
        · exact absurd empty own.1.2.1
        · rcases losing.first positive with ⟨intact, _⟩ | ⟨k, stray, strayed, _⟩
          · rw [intact, EntryClient.clientAddress_lose] at here
            exact absurd here.symm apart
          · rw [strayed, EntryClient.clientAddress_lose] at here
            exact absurd ⟨positive, stray, here⟩ (own.not_astray rfl)
    · rw [same]
      exact (losing.hidden j own hidden).imp_right (hides j own hidden)
  | own k own reached leads other written rest =>
    have nowhere : ∀ m, ¬ s.Astray n m := fun m => own.not_astray leads
    have first := losing.first_kept positive (rest 0 own.ahead.symm) fun m astray => absurd astray (nowhere m)
    refine ⟨kept, fun j behind => ?_, fun j ahead different => ?_, fun j owned => ?_, fun j before owned apart => ?_,
      fun j owned hidden => ?_, fun _ => first, files.trans losing.files, mqttSub.trans losing.mqttSub⟩
    · rw [rest j (by omega), losing.behind j (by omega)]
    · have apart : j ≠ k := by
        intro same
        rw [same] at different
        exact different own
      rw [rest j apart, losing.others j ahead different]
    · by_cases here : j = k
      · rw [here]
        exact .inr written
      · rw [rest j here]
        exact losing.own j owned
    · by_cases here : j = k
      · rw [here]
        exact written
      · rw [rest j here]
        apply losing.lost j _ owned apart
        by_contra late
        have last : j = n := by omega
        rw [← last] at leads
        exact here (owned.1.unique own.1 leads.symm)
    · by_cases here : j = k
      · right
        rcases losing.first positive with ⟨intact, _⟩ | ⟨_, _, _, _, unrestored⟩
        · rw [intact, EntryClient.clientAddress_lose, ← hidden, here] at other
          exact absurd leads other
        · exact hides j owned hidden unrestored
      · rw [rest j here]
        exact (losing.hidden j owned hidden).imp_right (hides j owned hidden)
  | stray k astray other written rest =>
    have first : s''.nthClient 0 = (s.nthClient 0).lose ∧ s.Restored (n + 1) ∨
        ∃ k, s.Stray k ∧ s''.nthClient 0 = (s.nthClient k).lose ∧ (s.nthClient k).lose ≠ (s.nthClient 0).lose ∧
          ¬ s.Restored (n + 1) := by
      by_cases copies : (s.nthClient k).lose = (s.nthClient 0).lose
      · left
        refine ⟨written.trans copies, fun p before m gone => ?_⟩
        rcases Nat.lt_or_eq_of_le (Nat.le_of_lt_succ before) with earlier | rfl
        · exact .inr ⟨n, k, earlier, Nat.lt_succ_self n, astray, copies⟩
        · left
          have same := congrArg EntryClient.clientAddress copies
          rw [EntryClient.clientAddress_lose, EntryClient.clientAddress_lose] at same
          exact astray.2.2.symm.trans same
      · right
        refine ⟨k, astray.2.1, written, copies, fun again => ?_⟩
        rcases again n (Nat.lt_succ_self n) k astray with here | ⟨q, _, behind, inside, _⟩
        · rcases losing.first positive with ⟨intact, _⟩ | ⟨_, _, _, _, unrestored⟩
          · rw [intact, EntryClient.clientAddress_lose] at other
            exact other here.symm
          · apply unrestored
            apply again.earlier
            intro m gone
            rw [gone.2.1.1.unique astray.2.1.1 (gone.2.2.trans astray.2.2.symm)]
            exact copies
        · omega
    refine ⟨kept, fun j behind => ?_, fun j ahead different => ?_, fun j own => ?_, fun j before own apart => ?_,
      fun j own hidden => ?_, fun _ => first, files.trans losing.files, mqttSub.trans losing.mqttSub⟩
    · rw [rest j (by omega), losing.behind j (by omega)]
    · rw [rest j (by omega), losing.others j ahead different]
    · rw [rest j own.ahead]
      exact losing.own j own
    · rw [rest j own.ahead]
      apply losing.lost j _ own apart
      by_contra late
      have last : j = n := by omega
      rw [← last] at astray
      exact own.not_astray rfl astray
    · rw [rest j own.ahead]
      exact (losing.hidden j own hidden).imp_right (hides j own hidden)

theorem Losing.begin (losing : Losing s 0 s') (ok : s.SlotsOk) (registered : (s.nthClient 0).clientStatus ≠ .empty)
    (kept : (s'.updateAt (s.nthClient 0).clientAddress EntryClient.lost).SlotsOk) :
    Losing s 1 (s'.updateAt (s.nthClient 0).clientAddress EntryClient.lost) := by
  have same : ∀ j, s'.nthClient j = s.nthClient j := fun j => losing.behind j (Nat.zero_le j)
  have found : s'.slotOfAddress (s.nthClient 0).clientAddress = some 0 := by
    apply (losing.ok.slotOfAddress_eq_some ((ok.fits 0).addressed registered)).mpr
    refine ⟨?_, nofun⟩
    rw [same]
  have written : s'.updateAt (s.nthClient 0).clientAddress EntryClient.lost = s'.writeSlot 0 (s.nthClient 0).lose := by
    rw [updateAt_found found]
    unfold setEntry
    rw [same, ok.slotNumber_first registered, EntryClient.lose_registered registered]
  have rest : ∀ j, 0 < j → (s'.updateAt (s.nthClient 0).clientAddress EntryClient.lost).nthClient j = s.nthClient j := by
    intro j positive
    rw [written, nthClient_writeSlot_ne (by omega), same]
  refine ⟨kept, fun j behind => rest j behind, fun j ahead _ => rest j ahead, fun j own => .inl (rest j own.1.1),
    fun j before own => absurd own.1.1 (by omega), fun j own _ => .inl (rest j own.1.1), fun _ => .inl ⟨?_, ?_⟩, ?_, ?_⟩
  · rw [written]
    exact nthClient_writeSlot_self
  · intro p before k astray
    have positive := astray.1
    omega
  · rw [files_updateAt]
    exact losing.files
  · rw [mqttSub_updateAt]
    exact losing.mqttSub

theorem Losing.pass (losing : Losing s n s') (ok : s.SlotsOk) (empty : (s.nthClient n).clientStatus = .empty) :
    Losing s (n + 1) s' := by
  rcases Nat.eq_zero_or_pos n with rfl | positive
  · have same : s'.nthClient 0 = s.nthClient 0 := losing.behind 0 (Nat.le_refl 0)
    refine ⟨losing.ok, fun j behind => losing.behind j (by omega), losing.others, losing.own,
      fun j before own => absurd own.1.1 (by omega), fun j own _ => .inl (losing.behind j (by omega)), fun _ => .inl ⟨?_, ?_⟩,
      losing.files, losing.mqttSub⟩
    · rw [same]
      exact (if_pos empty).symm
    · intro p before k astray
      have positive := astray.1
      omega
  · exact losing.visit ok positive (.again (fun _ => rfl) (.inl empty)) losing.ok rfl rfl

theorem Losing.next (losing : Losing s n s') (ok : s.SlotsOk) (registered : (s.nthClient n).clientStatus ≠ .empty)
    (kept : (s'.updateAt (s.nthClient n).clientAddress EntryClient.lost).SlotsOk) :
    Losing s (n + 1) (s'.updateAt (s.nthClient n).clientAddress EntryClient.lost) := by
  rcases Nat.eq_zero_or_pos n with rfl | positive
  · exact losing.begin ok registered kept
  · exact losing.visit ok positive (losing.loses ok positive registered) kept files_updateAt mqttSub_updateAt

/-- After the visits up to the end, all clients are lost just when the registry is one of those. -/
theorem Losing.all_iff (losing : Losing s n s') :
    (∀ j, s'.nthClient j = (s.nthClient j).lose) ↔
      s.Restored n ∧ ∀ j, (s.nthClient j).clientStatus ≠ .empty → (s.nthClient j).clientStatus = .lost ∨
        j < n ∧ (j = 0 ∨ (s.nthClient j).fileNumber ≠ .empty) ∧
          ∀ m < j, (s.nthClient m).clientAddress ≠ (s.nthClient j).clientAddress := by
  constructor
  · intro all
    have restored : s.Restored n := by
      rcases Nat.eq_zero_or_pos n with rfl | positive
      · exact nofun
      · rcases losing.first positive with ⟨_, restored⟩ | ⟨k, _, strayed, different, _⟩
        · exact restored
        · exact absurd (strayed.symm.trans (all 0)) different
    refine ⟨restored, fun j registered => ?_⟩
    by_contra neither
    obtain ⟨live, unmet⟩ := not_or.mp neither
    have changed : s'.nthClient j ≠ s.nthClient j := by
      intro same
      rw [all, EntryClient.lose_registered registered] at same
      exact live (congrArg EntryClient.clientStatus same).symm
    have before : j < n := by
      by_contra behind
      exact changed (losing.behind j (by omega))
    apply unmet
    rcases Nat.eq_zero_or_pos j with rfl | positive
    · exact ⟨before, .inl rfl, nofun⟩
    · have own : s.Own j := by
        by_contra other
        exact changed (losing.others j positive other)
      refine ⟨before, .inr own.2, fun m early => ?_⟩
      rcases Nat.eq_zero_or_pos m with rfl | ahead
      · intro hidden
        rcases losing.hidden j own hidden.symm with same | unrestored
        · exact changed same
        · exact unrestored restored
      · exact own.1.2.2 m ahead early
  · rintro ⟨restored, met⟩ j
    by_cases empty : (s.nthClient j).clientStatus = .empty
    · rcases Nat.eq_zero_or_pos j with rfl | positive
      · rcases Nat.eq_zero_or_pos n with rfl | visited
        · rw [losing.behind 0 (Nat.le_refl 0)]
          exact (if_pos empty).symm
        · rcases losing.first visited with ⟨intact, _⟩ | ⟨_, _, _, _, unrestored⟩
          · exact intact
          · exact absurd restored unrestored
      · rw [losing.others j positive fun own => own.1.2.1 empty]
        exact (if_pos empty).symm
    · rcases Nat.eq_zero_or_pos j with rfl | positive
      · rcases Nat.eq_zero_or_pos n with rfl | visited
        · rcases met 0 empty with already | ⟨before, _⟩
          · rw [losing.behind 0 (Nat.le_refl 0), EntryClient.lose_of_lost already]
          · omega
        · rcases losing.first visited with ⟨intact, _⟩ | ⟨_, _, _, _, unrestored⟩
          · exact intact
          · exact absurd restored unrestored
      · by_cases own : s.Own j
        · rcases met j empty with already | ⟨before, _, apart⟩
          · rcases losing.own j own with same | lost
            · rw [same, EntryClient.lose_of_lost already]
            · exact lost
          · exact losing.lost j before own (apart 0 positive).symm
        · rw [losing.others j positive own]
          rcases met j empty with already | ⟨_, zero | numbered, apart⟩
          · exact (EntryClient.lose_of_lost already).symm
          · omega
          · exact absurd ⟨⟨positive, empty, fun m _ early => apart m early⟩, numbered⟩ own

end Store

namespace Gateway

variable {g after : Gateway} {s : Store} {last : DeviceAddress} {fuel n f : Nat}

theorem losing_lost (sound : g.Sound) (ok : s.SlotsOk) (losing : Losing s n g.store)
    (registered : (g.store.nthClient n).clientStatus ≠ .empty) :
    Losing s (n + 1)
      (g.transaction (g.store.nthClient n).clientAddress (fun p => p.setClientState .lost) successOrFull).2.store := by
  have kept := (sound_lost sound registered).ok.slots
  rw [(settles_lost sound registered).1.store] at kept ⊢
  have here := losing.behind n (Nat.le_refl n)
  rw [here] at registered kept ⊢
  exact losing.next ok registered kept

theorem setAllClientsLostLoop_losing (sound : g.Sound) (ok : s.SlotsOk) (losing : Losing s n g.store)
    (passed : ∀ m < n, (s.nthClient m).clientAddress ≠ last)
    (returned : setAllClientsLostLoop last fuel n g = some after) : ∃ f, s.EndsAt last f ∧ Losing s f after.store := by
  induction fuel generalizing n g with
  | zero =>
    unfold setAllClientsLostLoop at returned
    simp only at returned
    split at returned
    · rename_i here
      cases returned
      rw [losing.behind n (Nat.le_refl n)] at here
      exact ⟨n, ⟨here, passed⟩, losing⟩
    · cases returned
  | succ fuel ih =>
    unfold setAllClientsLostLoop at returned
    simp only at returned
    split at returned
    · rename_i here
      cases returned
      rw [losing.behind n (Nat.le_refl n)] at here
      exact ⟨n, ⟨here, passed⟩, losing⟩
    · rename_i other
      have onward : ∀ m < n + 1, (s.nthClient m).clientAddress ≠ last := by
        intro m before
        rcases Nat.lt_or_eq_of_le (Nat.le_of_lt_succ before) with earlier | rfl
        · exact passed m earlier
        · rw [← losing.behind m (Nat.le_refl m)]
          exact other
      by_cases registered : (g.store.nthClient n).clientStatus ≠ .empty
      · rw [if_pos registered] at returned
        exact ih (sound_lost sound registered) (losing_lost sound ok losing registered) onward returned
      · rw [if_neg registered] at returned
        rw [losing.behind n (Nat.le_refl n)] at registered
        exact ih sound (losing.pass ok (not_not.mp registered)) onward returned

theorem setAllClientsLostLoop_returns (sound : g.Sound) (ok : s.SlotsOk) (losing : Losing s n g.store)
    (ends : s.EndsAt last f) (ahead : n ≤ f) (enough : f ≤ n + fuel) :
    (setAllClientsLostLoop last fuel n g).isSome = true := by
  induction fuel generalizing n g with
  | zero =>
    have here : n = f := by omega
    subst here
    unfold setAllClientsLostLoop
    simp only
    rw [losing.behind n (Nat.le_refl n), if_pos ends.1]
    rfl
  | succ fuel ih =>
    unfold setAllClientsLostLoop
    simp only
    split
    · rfl
    · rename_i other
      have before : n < f := by
        rcases Nat.lt_or_eq_of_le ahead with before | rfl
        · exact before
        · rw [losing.behind n (Nat.le_refl n)] at other
          exact absurd ends.1 other
      by_cases registered : (g.store.nthClient n).clientStatus ≠ .empty
      · rw [if_pos registered]
        exact ih (sound_lost sound registered) (losing_lost sound ok losing registered) before (by omega)
      · rw [if_neg registered]
        rw [losing.behind n (Nat.le_refl n)] at registered
        exact ih sound (losing.pass ok (not_not.mp registered)) before (by omega)

/-- All clients are LOST afterwards, and nothing else has changed. -/
def LosesClients (g : Gateway) : Prop :=
  ∃ after, g.setAllClientsLost = some after ∧ (∀ n, after.store.nthClient n = (g.store.nthClient n).lose) ∧
    after.store.files = g.store.files ∧ after.store.mqttSub = g.store.mqttSub

/-- `set_all_clients_lost` is complete just when the traversal ends behind the clients that are not LOST yet, each of them is
    the first with its address and has a file number, and no client without one is left in slot 0. -/
theorem loses_clients_iff (input : Input) (reachable : g.Reachable) :
    (g.prepare input).LosesClients ↔ g.store.LosesAll (g.store.lastClientAddress .zero) := by
  have sound : (g.prepare input).Sound := sound_prepare reachable.sound
  have ok := reachable.sound.ok.slots
  have begun : Losing g.store 0 (g.prepare input).store := .start ok
  constructor
  · rintro ⟨after, returned, all, _⟩
    obtain ⟨f, ends, losing⟩ := setAllClientsLostLoop_losing sound ok begun nofun returned
    obtain ⟨restored, met⟩ := losing.all_iff.mp all
    exact ⟨f, ends, restored, met⟩
  · rintro ⟨f, ends, restored, met⟩
    have inside : f ≤ g.store.clients.length := by
      by_contra beyond
      apply ends.2 g.store.clients.length (by omega)
      rw [nthClient_outside (Nat.le_refl _), ← ends.1, nthClient_outside (by omega)]
    have total : (g.prepare input).setAllClientsLost.isSome = true :=
      setAllClientsLostLoop_returns sound ok begun ends (Nat.zero_le f) (by
        show f ≤ 0 + g.store.clients.length
        omega)
    obtain ⟨after, returned⟩ := Option.isSome_iff_exists.mp total
    obtain ⟨f', ends', losing⟩ := setAllClientsLostLoop_losing sound ok begun nofun returned
    have same : f' = f := by
      rcases Nat.lt_trichotomy f' f with before | equal | behind
      · exact absurd ends'.1 (ends.2 f' before)
      · exact equal
      · exact absurd ends.1 (ends'.2 f behind)
    subst same
    exact ⟨after, returned, losing.all_iff.mpr ⟨restored, met⟩, losing.files, losing.mqttSub⟩

end Gateway

namespace Scenario

def adrift : Gateway :=
  (run [47] [.mqttConnect, .datagram (client 1) (Datagram.connect (name 65) 10 0) [], .restart, .socketLost,
    .socketBegin false]).get (by decide +kernel)

theorem reachable_adrift : adrift.Reachable := reachable_run (Option.some_get _).symm

/-- The traversal ends before the last client, which stays ACTIVE. -/
theorem adrift_keeps_last :
    ∃ g : Gateway, g.Reachable ∧ g.persistent.isMqttsnOnline = false ∧ g.persistent.isMqttOnline = false ∧
      (g.store.nthClient 0).clientStatus = .active ∧ ¬ (g.prepare again).LosesClients := by
  refine ⟨adrift, reachable_adrift, by decide +kernel, by decide +kernel, by decide +kernel, ?_⟩
  rintro ⟨after, returned, all, _⟩
  have kept : (Gateway.setAllClientsLost (adrift.prepare again)).map (fun g => (g.store.nthClient 0).clientStatus) =
      some .active := by decide +kernel
  rw [returned] at kept
  have still : (after.store.nthClient 0).clientStatus = .active := Option.some.inj kept
  have lost : ((adrift.prepare again).store.nthClient 0).lose.clientStatus = .lost := by decide +kernel
  rw [all 0, lost] at still
  cases still

theorem loses_clients_adrift : (adrift.prepare again).LosesClients ↔
    adrift.store.LosesAll (adrift.store.lastClientAddress .zero) :=
  Gateway.loses_clients_iff again reachable_adrift

end Scenario

end MqttSnGateway
