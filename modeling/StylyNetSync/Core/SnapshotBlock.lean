import StylyNetSync.Core.NetworkVariableManager

/-!
# What a snapshot block does to one variable

A block of a client sync is handled by two loops, one over the cached variables and one over the
variables of the block. A name falls into the first only if the block lacks it and into the second
only if the block has it, so for a single variable the two loops amount to at most one
reconciliation:

* the block has it: the send side is reconciled with the value;
* the block lacks it and it was cached: it was removed;
* the block lacks it and it was not cached: the send side is left alone, whatever it holds.

The third line is the one to remember. A variable that was sent and never seen in a snapshot is not
reconciled by a snapshot without it.
-/

namespace StylyNetSync

namespace NetworkVariableManager

open SendSide (AgreesAt)

variable {D : Type}

theorem reconcileRemoved_congr {key : ClientKey} {s s' : SendSide ClientKey D}
    (h : AgreesAt key s s') : AgreesAt key (s.reconcileRemoved key) (s'.reconcileRemoved key) := by
  rw [SendSide.reconcileRemoved, SendSide.reconcileRemoved, h.lastSent]
  split
  · exact h
  · rw [SendSide.dropRedundant, SendSide.dropRedundant, h.pending]
    split
    · constructor <;> simp
    · exact ⟨by simp, h.pending, h.due⟩

theorem reconcileRemoved_agreesAt {key k : ClientKey} {s : SendSide ClientKey D} (hne : key ≠ k) :
    AgreesAt k s (s.reconcileRemoved key) := by
  rw [SendSide.reconcileRemoved]
  split
  · exact ⟨rfl, rfl, rfl⟩
  · exact (SendSide.dropRedundant_agreesAt hne).trans (SendSide.forget_agreesAt hne)

theorem reconcilePresent_congr {key : ClientKey} {value : Bytes} {s s' : SendSide ClientKey D}
    (h : AgreesAt key s s') :
    AgreesAt key (s.reconcilePresent key value) (s'.reconcilePresent key value) := by
  rw [SendSide.reconcilePresent, SendSide.reconcilePresent, SendSide.dropRedundant,
    SendSide.dropRedundant, SendSide.pending_recordSent, SendSide.pending_recordSent, h.pending]
  split
  · constructor <;> simp
  · exact ⟨by simp, h.pending, h.due⟩

theorem reconcilePresent_agreesAt {key k : ClientKey} {value : Bytes} {s : SendSide ClientKey D}
    (hne : key ≠ k) : AgreesAt k s (s.reconcilePresent key value) :=
  (SendSide.recordSent_agreesAt hne).trans (SendSide.dropRedundant_agreesAt hne)

/-- A round of the removal loop is about its own name only. -/
theorem handleRemovedEntry_agreesAt {clientNo : ℤ} {next : Variables} {k : ClientKey}
    (acc : SendSide ClientKey D × List VariableChange) {entry : Bytes × Bytes}
    (hne : (⟨clientNo, entry.1⟩ : ClientKey) ≠ k) :
    AgreesAt k acc.1 (handleRemovedEntry clientNo next acc entry).1 := by
  rw [handleRemovedEntry]
  split
  · exact ⟨rfl, rfl, rfl⟩
  · exact reconcileRemoved_agreesAt hne

/-- A round of the loop over the block is about its own name only. -/
theorem handlePresentEntry_fst (clientNo : ℤ) (old : Variables)
    (acc : SendSide ClientKey D × List VariableChange) (entry : Bytes × Bytes) :
    (handlePresentEntry clientNo old acc entry).1 =
      acc.1.reconcilePresent ⟨clientNo, entry.1⟩ entry.2 := by
  rw [handlePresentEntry]
  split <;> rfl

/-! ### The two loops -/

section Loops

variable {clientNo : ℤ} {next old : Variables} {name value : Bytes} {k : ClientKey}
  (acc : SendSide ClientKey D × List VariableChange)

/-- A name that is not cached, or that the block has, is left alone by the removal loop. -/
theorem removedLoop_agreesAt (h : name ∉ old ∨ name ∈ next) :
    AgreesAt ⟨clientNo, name⟩ acc.1
      (old.toList.foldl (handleRemovedEntry clientNo next) acc).1 := by
  refine OrderedMap.foldl_agree
    (R := fun a b : SendSide ClientKey D × List VariableChange ↦ AgreesAt ⟨clientNo, name⟩ a.1 b.1)
    (fun _ ↦ ⟨rfl, rfl, rfl⟩) (fun _ _ _ ↦ AgreesAt.trans) (fun acc entry hentry ↦ ?_) acc
  by_cases hname : entry.1 = name
  · rcases h with hold | hnext
    · rw [← hname] at hold
      exact (hold (OrderedMap.mem_keys_toList.mp (List.mem_map_of_mem hentry))).elim
    · rw [handleRemovedEntry, if_pos (hname ▸ hnext)]
      exact ⟨rfl, rfl, rfl⟩
  · exact handleRemovedEntry_agreesAt acc fun hkey ↦ hname (ClientKey.mk.inj hkey).2

/-- A cached name that the block lacks is reconciled as removed. -/
theorem removedLoop_of_mem (hold : old[name]? = some value) (hnext : name ∉ next) :
    AgreesAt ⟨clientNo, name⟩ (acc.1.reconcileRemoved ⟨clientNo, name⟩)
      (old.toList.foldl (handleRemovedEntry clientNo next) acc).1 := by
  have hround (acc : SendSide ClientKey D × List VariableChange) :
      (handleRemovedEntry clientNo next acc (name, value)).1 =
        acc.1.reconcileRemoved ⟨clientNo, name⟩ := by
    rw [handleRemovedEntry, if_neg hnext]
  have hloop : AgreesAt ⟨clientNo, name⟩ (handleRemovedEntry clientNo next acc (name, value)).1
      (old.toList.foldl (handleRemovedEntry clientNo next) acc).1 := by
    refine OrderedMap.foldl_agree_of_mem
      (R := fun a b : SendSide ClientKey D × List VariableChange ↦
        AgreesAt ⟨clientNo, name⟩ a.1 b.1)
      (fun _ ↦ ⟨rfl, rfl, rfl⟩) (fun _ _ _ ↦ AgreesAt.trans) (fun acc entry hne ↦ ?_)
      (fun a b hab ↦ ?_) (OrderedMap.nodup_keys_toList old)
      (Std.ExtTreeMap.mem_toList_iff_getElem?_eq_some.mpr hold) acc
    · exact handleRemovedEntry_agreesAt acc fun hkey ↦ hne (ClientKey.mk.inj hkey).2
    · rw [hround, hround]
      exact reconcileRemoved_congr hab
  rwa [hround] at hloop

/-- A name that the block lacks is left alone by the second loop. -/
theorem presentLoop_agreesAt (h : name ∉ next) :
    AgreesAt ⟨clientNo, name⟩ acc.1
      (next.toList.foldl (handlePresentEntry clientNo old) acc).1 := by
  refine OrderedMap.foldl_agree
    (R := fun a b : SendSide ClientKey D × List VariableChange ↦ AgreesAt ⟨clientNo, name⟩ a.1 b.1)
    (fun _ ↦ ⟨rfl, rfl, rfl⟩) (fun _ _ _ ↦ AgreesAt.trans) (fun acc entry hentry ↦ ?_) acc
  rw [handlePresentEntry_fst]
  refine reconcilePresent_agreesAt fun hkey ↦ h ?_
  rw [← (ClientKey.mk.inj hkey).2]
  exact OrderedMap.mem_keys_toList.mp (List.mem_map_of_mem hentry)

/-- A name that the block has is reconciled with its value. -/
theorem presentLoop_of_mem (hnext : next[name]? = some value) :
    AgreesAt ⟨clientNo, name⟩ (acc.1.reconcilePresent ⟨clientNo, name⟩ value)
      (next.toList.foldl (handlePresentEntry clientNo old) acc).1 := by
  have hloop : AgreesAt ⟨clientNo, name⟩ (handlePresentEntry clientNo old acc (name, value)).1
      (next.toList.foldl (handlePresentEntry clientNo old) acc).1 := by
    refine OrderedMap.foldl_agree_of_mem
      (R := fun a b : SendSide ClientKey D × List VariableChange ↦
        AgreesAt ⟨clientNo, name⟩ a.1 b.1)
      (fun _ ↦ ⟨rfl, rfl, rfl⟩) (fun _ _ _ ↦ AgreesAt.trans) (fun acc entry hne ↦ ?_)
      (fun a b hab ↦ ?_) (OrderedMap.nodup_keys_toList next)
      (Std.ExtTreeMap.mem_toList_iff_getElem?_eq_some.mpr hnext) acc
    · rw [handlePresentEntry_fst]
      exact reconcilePresent_agreesAt fun hkey ↦ hne (ClientKey.mk.inj hkey).2
    · rw [handlePresentEntry_fst, handlePresentEntry_fst]
      exact reconcilePresent_congr hab
  rwa [handlePresentEntry_fst] at hloop

/-- Neither loop is about the variables of another client. -/
theorem loops_agreesAt_other (hno : clientNo ≠ k.clientNo) :
    AgreesAt k acc.1 (next.toList.foldl (handlePresentEntry clientNo old)
      (old.toList.foldl (handleRemovedEntry clientNo next) acc)).1 := by
  have hne (name : Bytes) : (⟨clientNo, name⟩ : ClientKey) ≠ k := by
    rintro rfl
    exact hno rfl
  have hremoved : AgreesAt k acc.1 (old.toList.foldl (handleRemovedEntry clientNo next) acc).1 :=
    OrderedMap.foldl_agree
      (R := fun a b : SendSide ClientKey D × List VariableChange ↦ AgreesAt k a.1 b.1)
      (fun _ ↦ ⟨rfl, rfl, rfl⟩) (fun _ _ _ ↦ AgreesAt.trans)
      (fun acc entry _ ↦ handleRemovedEntry_agreesAt acc (hne entry.1)) acc
  refine hremoved.trans (OrderedMap.foldl_agree
    (R := fun a b : SendSide ClientKey D × List VariableChange ↦ AgreesAt k a.1 b.1)
    (fun _ ↦ ⟨rfl, rfl, rfl⟩) (fun _ _ _ ↦ AgreesAt.trans) (fun acc entry _ ↦ ?_) _)
  rw [handlePresentEntry_fst]
  exact reconcilePresent_agreesAt (hne entry.1)

end Loops

/-! ### A whole block -/

section Block

variable (m : NetworkVariableManager D) (changes : List VariableChange)
  (block : UInt16 × List NetworkVariableEntry)

/-- The variables of other clients are left alone. -/
theorem handleClientBlock_other {k : ClientKey} (hno : (block.1.toNat : ℤ) ≠ k.clientNo) :
    AgreesAt k m.clientSide (handleClientBlock (m, changes) block).1.clientSide ∧
      (handleClientBlock (m, changes) block).1.allClientVariables k.clientNo =
        m.allClientVariables k.clientNo := by
  refine ⟨loops_agreesAt_other (m.clientSide, changes) hno, ?_⟩
  simp [allClientVariables, handleClientBlock, hno]

/-- The block becomes the cached variables of its client. -/
theorem allClientVariables_handleClientBlock :
    (handleClientBlock (m, changes) block).1.allClientVariables block.1.toNat =
      snapshotOf block.2 := by
  simp [allClientVariables, handleClientBlock]

/-- **One reconciliation per name**, decided by the block and by what was cached. -/
theorem handleClientBlock_cases (name : Bytes) :
    (∃ value, (snapshotOf block.2)[name]? = some value ∧
      AgreesAt ⟨block.1.toNat, name⟩
        (m.clientSide.reconcilePresent ⟨block.1.toNat, name⟩ value)
        (handleClientBlock (m, changes) block).1.clientSide) ∨
    ((snapshotOf block.2)[name]? = none ∧ name ∈ m.allClientVariables block.1.toNat ∧
      AgreesAt ⟨block.1.toNat, name⟩ (m.clientSide.reconcileRemoved ⟨block.1.toNat, name⟩)
        (handleClientBlock (m, changes) block).1.clientSide) ∨
    ((snapshotOf block.2)[name]? = none ∧ name ∉ m.allClientVariables block.1.toNat ∧
      AgreesAt ⟨block.1.toNat, name⟩ m.clientSide
        (handleClientBlock (m, changes) block).1.clientSide) := by
  rcases hnext : (snapshotOf block.2)[name]? with - | value
  · have hnotMem : name ∉ snapshotOf block.2 := by
      rw [Std.ExtTreeMap.mem_iff_isSome_getElem?, hnext]
      simp
    refine Or.inr ?_
    -- the block lacks the name, so only the removal loop can be about it
    by_cases hold : name ∈ m.allClientVariables block.1.toNat
    · obtain ⟨cached, hcached⟩ :=
        Option.isSome_iff_exists.mp (Std.ExtTreeMap.mem_iff_isSome_getElem?.mp hold)
      refine Or.inl ⟨rfl, hold, ?_⟩
      exact (removedLoop_of_mem (m.clientSide, changes) hcached hnotMem).trans
        (presentLoop_agreesAt _ hnotMem)
    · refine Or.inr ⟨rfl, hold, ?_⟩
      exact (removedLoop_agreesAt (m.clientSide, changes) (Or.inl hold)).trans
        (presentLoop_agreesAt _ hnotMem)
  · have hmem : name ∈ snapshotOf block.2 := by
      rw [Std.ExtTreeMap.mem_iff_isSome_getElem?, hnext]
      rfl
    refine Or.inl ⟨value, rfl, ?_⟩
    refine AgreesAt.trans (reconcilePresent_congr ?_) (presentLoop_of_mem _ hnext)
    exact removedLoop_agreesAt (m.clientSide, changes) (Or.inr hmem)

/-- A block adds nothing to what is pending. -/
theorem pending_of_handleClientBlock {k : ClientKey} {value : Bytes}
    (h : (handleClientBlock (m, changes) block).1.clientSide.pending[k]? = some value) :
    m.clientSide.pending[k]? = some value := by
  have hdrop (sent : Bytes) (s : SendSide ClientKey D)
      (h : (s.dropRedundant k sent).pending[k]? = some value) : s.pending[k]? = some value := by
    rw [SendSide.dropRedundant] at h
    split at h
    · simp at h
    · exact h
  by_cases hno : (block.1.toNat : ℤ) = k.clientNo
  · obtain ⟨clientNo, name⟩ := k
    simp only at hno
    subst hno
    rcases handleClientBlock_cases m changes block name with
      ⟨sent, -, hagrees⟩ | ⟨-, -, hagrees⟩ | ⟨-, -, hagrees⟩
    · rw [hagrees.pending] at h
      exact hdrop sent (m.clientSide.recordSent ⟨block.1.toNat, name⟩ sent) h
    · rw [hagrees.pending, SendSide.reconcileRemoved] at h
      split at h
      · exact h
      · exact hdrop _ _ h
    · rwa [hagrees.pending] at h
  · rwa [(handleClientBlock_other m changes block hno).1.pending] at h

end Block

/-- **A sync preserves what its blocks preserve.** -/
theorem handleClientSync_induct {P : NetworkVariableManager D → Prop}
    {m : NetworkVariableManager D} {message : ClientVarSyncMessage}
    (hblock : ∀ m changes, ∀ block ∈ message.clients, P m →
      P (handleClientBlock (m, changes) block).1)
    (h : P { m with hasReceivedInitialSync := true }) : P (m.handleClientSync message).1 := by
  suffices hloop : ∀ (blocks : List (UInt16 × List NetworkVariableEntry))
      (acc : NetworkVariableManager D × List VariableChange),
      (∀ block ∈ blocks, block ∈ message.clients) → P acc.1 →
      P (blocks.foldl handleClientBlock acc).1 from
    hloop message.clients _ (fun _ hblock ↦ hblock) h
  intro blocks
  induction blocks with
  | nil => exact fun _ _ hacc ↦ hacc
  | cons block rest ih =>
    intro acc hmem hacc
    exact ih _ (fun b hb ↦ hmem b (List.mem_cons_of_mem _ hb))
      (hblock acc.1 acc.2 block (hmem block List.mem_cons_self) hacc)

end NetworkVariableManager

end StylyNetSync
