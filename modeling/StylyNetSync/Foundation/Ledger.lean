import Mathlib.Data.List.Basic
import Mathlib.Tactic.Common
import StylyNetSync.Foundation.History

/-!
# Ledgers of queued entries

A queue that accepts entries at its end and settles them at its front: they are sent, expire, or are
removed. The ledger keeps everything ever accepted and the fates of those settled so far, in order,
so that an entry is identified by its place: it is settled if its place is below the number of
fates, and outstanding otherwise.

Entries may claim a slot, such as the variable they write. The newest entry of a slot is the one
that counts; `Retains` says that each of these is outstanding or was sent.
-/

/-- What became of an entry. -/
inductive Fate
  | sent
  | expired
  | removed
  deriving DecidableEq

structure Ledger (α : Type) where
  entries : List α := []
  fates : List Fate := []

namespace Ledger

variable {α σ : Type}

def accept (a : α) (l : Ledger α) : Ledger α := { l with entries := l.entries ++ [a] }

def settle (fate : Fate) (l : Ledger α) : Ledger α := { l with fates := l.fates ++ [fate] }

/-- The entries that are not settled yet, oldest first. -/
def outstanding (l : Ledger α) : List α := l.entries.drop l.fates.length

/-- The entries that met a fate, oldest first. -/
def settledAs (fate : Fate) (l : Ledger α) : List α :=
  ((l.entries.zip l.fates).filter fun entry ↦ entry.2 = fate).map Prod.fst

/-- The place of the newest entry of a slot. -/
def newest [DecidableEq σ] (slot : α → Option σ) (x : σ) (l : Ledger α) : Option ℕ :=
  lastSome (fun entry ↦ if slot entry.1 = some x then some entry.2 else none) l.entries.zipIdx

/-- The newest entry of a slot, with its place. -/
def current [DecidableEq σ] (slot : α → Option σ) (x : σ) (l : Ledger α) : Option (ℕ × α) :=
  (l.newest slot x).bind fun i ↦ l.entries[i]?.map fun a ↦ (i, a)

/-- The next entry to be settled is the newest of its slot. -/
def nextIsNewest [DecidableEq σ] (slot : α → Option σ) (l : Ledger α) : Bool :=
  match l.outstanding.head?.bind slot with
  | none => false
  | some x => l.newest slot x = some l.fates.length

/-- No more fates than entries. -/
def Sound (l : Ledger α) : Prop := l.fates.length ≤ l.entries.length

/-- The newest entry of every slot is outstanding or was sent. -/
def Retains [DecidableEq σ] (slot : α → Option σ) (l : Ledger α) : Prop :=
  ∀ x i, l.newest slot x = some i → ∀ fate ∈ l.fates[i]?, fate = .sent

/-! ### Outstanding entries -/

theorem Sound.accept {l : Ledger α} (h : l.Sound) (a : α) : (l.accept a).Sound := by
  show l.fates.length ≤ (l.entries ++ [a]).length
  rw [List.length_append]
  exact Nat.le_add_right_of_le h

theorem outstanding_accept {l : Ledger α} (h : l.Sound) (a : α) :
    (l.accept a).outstanding = l.outstanding ++ [a] := List.drop_append_of_le_length h

/-- Settling a stretch of the outstanding entries leaves the others outstanding. -/
theorem outstanding_append {l : Ledger α} {stretch rest : List α} {more : List Fate}
    (h : l.outstanding = stretch ++ rest) (hlength : more.length = stretch.length) :
    ({ l with fates := l.fates ++ more } : Ledger α).outstanding = rest := by
  show l.entries.drop (l.fates ++ more).length = rest
  rw [List.length_append, ← List.drop_drop]
  have hdrop : l.outstanding.drop more.length = rest := by rw [h, hlength, List.drop_left]
  exact hdrop

theorem Sound.append {l : Ledger α} {stretch rest : List α} {more : List Fate} (hl : l.Sound)
    (h : l.outstanding = stretch ++ rest) (hlength : more.length = stretch.length) :
    ({ l with fates := l.fates ++ more } : Ledger α).Sound := by
  have hcount := congrArg List.length h
  rw [outstanding, List.length_drop, List.length_append] at hcount
  show (l.fates ++ more).length ≤ l.entries.length
  rw [List.length_append]
  have hle : l.fates.length ≤ l.entries.length := hl
  omega

theorem outstanding_settle {l : Ledger α} {a : α} {rest : List α} (h : l.outstanding = a :: rest)
    (fate : Fate) : (l.settle fate).outstanding = rest :=
  outstanding_append (h.trans (List.singleton_append).symm) rfl

theorem Sound.settle {l : Ledger α} {a : α} {rest : List α} (h : l.outstanding = a :: rest)
    (fate : Fate) : (l.settle fate).Sound := by
  have hlt : l.fates.length < l.entries.length := by
    by_contra hge
    have hnil : l.outstanding = [] := List.drop_eq_nil_iff.mpr (Nat.not_lt.mp hge)
    rw [h] at hnil
    exact List.cons_ne_nil a rest hnil
  show (l.fates ++ [fate]).length ≤ l.entries.length
  rw [List.length_append]
  exact hlt

/-- An entry that is not settled is among the outstanding ones. -/
theorem mem_outstanding {l : Ledger α} {i : ℕ} {a : α} (h : l.entries[i]? = some a)
    (hfate : l.fates[i]? = none) : a ∈ l.outstanding := by
  have hle : l.fates.length ≤ i := List.getElem?_eq_none_iff.mp hfate
  have hget : l.outstanding[i - l.fates.length]? = some a := by
    rw [outstanding, List.getElem?_drop, Nat.add_sub_cancel' hle, h]
  exact List.mem_of_getElem? hget

/-! ### Settled entries -/

/-- Fates are told of the first entries only. -/
theorem zip_fates_eq (entries : List α) (fates : List Fate) :
    entries.zip fates = (entries.take fates.length).zip fates := by
  induction fates generalizing entries with
  | nil => simp
  | cons fate fates ih =>
    cases entries with
    | nil => rfl
    | cons a entries =>
      rw [List.length_cons, List.take_succ_cons, List.zip_cons_cons, List.zip_cons_cons, ih]

/-- Settling a stretch of the outstanding entries adds to each fate those of the stretch that met
it. -/
theorem settledAs_append {l : Ledger α} (h : l.Sound) (more : List Fate) (fate : Fate) :
    ({ l with fates := l.fates ++ more } : Ledger α).settledAs fate =
      l.settledAs fate ++
        ((l.outstanding.zip more).filter fun entry ↦ entry.2 = fate).map Prod.fst := by
  have hlength : (l.entries.take l.fates.length).length = l.fates.length :=
    List.length_take_of_le h
  show ((l.entries.zip (l.fates ++ more)).filter _).map _ = _
  rw [settledAs, zip_fates_eq l.entries l.fates, ← List.map_append, ← List.filter_append,
    outstanding, ← List.zip_append hlength, List.take_append_drop]

theorem settledAs_accept {l : Ledger α} (h : l.Sound) (a : α) (fate : Fate) :
    (l.accept a).settledAs fate = l.settledAs fate := by
  show (((l.entries ++ [a]).zip l.fates).filter _).map _ = _
  rw [zip_fates_eq, List.take_append_of_le_length h, ← zip_fates_eq, settledAs]

/-- What met a fate was accepted, in the same order and each entry once. -/
theorem settledAs_sublist (l : Ledger α) (fate : Fate) : (l.settledAs fate).Sublist l.entries := by
  have hfirst : ((l.entries.zip l.fates).map Prod.fst).Sublist l.entries := by
    rw [zip_fates_eq, List.map_fst_zip (List.length_take_le _ _)]
    exact List.take_sublist _ _
  exact (List.filter_sublist.map _).trans hfirst

/-! ### The newest entry of a slot -/

variable [DecidableEq σ] {slot : α → Option σ}

theorem newest_accept (l : Ledger α) (a : α) (x : σ) :
    (l.accept a).newest slot x =
      if slot a = some x then some l.entries.length else l.newest slot x := by
  rw [newest, accept, List.zipIdx_append, List.zipIdx_singleton, lastSome_concat]
  by_cases hslot : slot a = some x
  · rw [if_pos hslot, if_pos hslot, Option.some_or, Nat.zero_add]
  · rw [if_neg hslot, if_neg hslot, Option.none_or]
    rfl

@[simp] theorem newest_settle (l : Ledger α) (fate : Fate) (x : σ) :
    (l.settle fate).newest slot x = l.newest slot x := rfl

/-- The newest entry of a slot is an entry of that slot. -/
theorem newest_eq_some {l : Ledger α} {x : σ} {i : ℕ} (h : l.newest slot x = some i) :
    ∃ a, l.entries[i]? = some a ∧ slot a = some x := by
  obtain ⟨⟨a, j⟩, hmem, hsome⟩ := List.exists_of_findSome?_eq_some h
  rw [List.mem_reverse, List.mem_zipIdx_iff_getElem?] at hmem
  split at hsome
  · next hslot =>
    obtain rfl := Option.some.inj hsome
    exact ⟨a, hmem, hslot⟩
  · simp at hsome

theorem current_accept (l : Ledger α) (a : α) (x : σ) :
    (l.accept a).current slot x =
      if slot a = some x then some (l.entries.length, a) else l.current slot x := by
  rw [current, newest_accept]
  split
  · simp [accept]
  · rw [current]
    rcases hnewest : l.newest slot x with - | i
    · rfl
    · -- the newest entry was there before
      obtain ⟨b, hb, -⟩ := newest_eq_some hnewest
      have hlt : i < l.entries.length := (List.getElem?_eq_some_iff.mp hb).1
      simp only [Option.bind_some, accept, List.getElem?_append_left hlt]

/-- What is current depends on the entries alone. -/
theorem current_congr {l l' : Ledger α} (h : l'.entries = l.entries) (x : σ) :
    l'.current slot x = l.current slot x := by
  rw [current, current, newest, newest, h]

theorem current_eq_some {l : Ledger α} {x : σ} {i : ℕ} {a : α}
    (h : l.current slot x = some (i, a)) :
    l.newest slot x = some i ∧ l.entries[i]? = some a ∧ slot a = some x := by
  obtain ⟨j, hj, hentry⟩ := Option.bind_eq_some_iff.mp h
  obtain ⟨b, hb, hpair⟩ := Option.map_eq_some_iff.mp hentry
  obtain ⟨rfl, rfl⟩ := Prod.mk.inj hpair
  obtain ⟨c, hc, hslot⟩ := newest_eq_some hj
  rw [hb] at hc
  obtain rfl := Option.some.inj hc
  exact ⟨hj, hb, hslot⟩

/-- **The newest entry of a slot is outstanding or was sent.** -/
theorem Retains.current {l : Ledger α} (h : l.Retains slot) {x : σ} {i : ℕ} {a : α}
    (hcurrent : l.current slot x = some (i, a)) :
    l.fates[i]? = some .sent ∨ l.fates[i]? = none ∧ a ∈ l.outstanding := by
  obtain ⟨hnewest, hentry, -⟩ := current_eq_some hcurrent
  rcases hfate : l.fates[i]? with - | fate
  · exact Or.inr ⟨rfl, mem_outstanding hentry hfate⟩
  · rw [h x i hnewest fate hfate]
    exact Or.inl rfl

theorem retains_empty : (({} : Ledger α)).Retains slot := by
  intro x i h
  simp [newest] at h

theorem Retains.accept {l : Ledger α} (h : l.Retains slot) (hsound : l.Sound) (a : α) :
    (l.accept a).Retains slot := by
  intro x i hi
  rw [newest_accept] at hi
  split at hi
  · -- the new entry is not settled
    obtain rfl := Option.some.inj hi
    have hnone : l.fates[l.entries.length]? = none := List.getElem?_eq_none_iff.mpr hsound
    intro fate hfate
    simp [Ledger.accept, hnone] at hfate
  · exact h x i hi

/-- Settling keeps the newest entries, unless the newest of a slot is settled without being sent. -/
theorem Retains.settle {l : Ledger α} (h : l.Retains slot) {fate : Fate}
    (hkeep : fate ≠ .sent → l.nextIsNewest slot = false) : (l.settle fate).Retains slot := by
  intro x i hi settled hsettled
  rw [newest_settle] at hi
  change settled ∈ (l.fates ++ [fate])[i]? at hsettled
  rw [Option.mem_def, List.getElem?_append] at hsettled
  split at hsettled
  · exact h x i hi settled hsettled
  · obtain ⟨hindex, rfl⟩ : i - l.fates.length = 0 ∧ fate = settled := by
      rcases hindex : i - l.fates.length with - | j
      · rw [hindex] at hsettled
        exact ⟨rfl, by simpa using hsettled⟩
      · rw [hindex] at hsettled
        simp at hsettled
    have hlast : i = l.fates.length := by omega
    subst hlast
    obtain ⟨a, ha, hslot⟩ := newest_eq_some hi
    have hhead : l.outstanding.head? = some a := by
      rw [outstanding, List.head?_drop, ha]
    have hnewest : l.nextIsNewest slot = true := by
      rw [nextIsNewest, hhead, Option.bind_some, hslot]
      simpa using hi
    by_contra hlost
    rw [hkeep hlost] at hnewest
    simp at hnewest

end Ledger
