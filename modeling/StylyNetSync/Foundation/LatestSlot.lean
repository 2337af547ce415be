import Mathlib.Data.List.Basic
import Mathlib.Tactic.Common

/-!
# A slot where the latest value wins

Writers overwrite the slot at any time. A reader takes a copy, tries to pass it on, and clears the
slot afterwards, but only if it then holds a value equal to the copy: a value set in between stays.
Neither the copy nor the comparison knows which write a value came from, so a write of an equal
value in between is cleared with it.

`LatestSlot` keeps the history beside the slot: every value ever set, and every value passed on with
the place, among the values set, that its copy was taken from. The invariant `Sound` is kept by
every operation, in any order; what it is for is `Sound.newest` (the newest value is in the slot, or
the last value passed on equals it) together with `Sound.ordered` (values are passed on in the order
they were set, each set at most once).
-/

/-- What the reader is about. -/
inductive SlotPhase (α : Type)
  | idle
  /-- It has a copy, of the value set at a place. -/
  | copied (place : ℕ) (a : α)
  /-- It passed the copy on and has not cleared the slot yet. -/
  | passed (place : ℕ) (a : α)

structure LatestSlot (α : Type) where
  sets : List α := []
  held : Option α := none
  phase : SlotPhase α := .idle
  sent : List (ℕ × α) := []

namespace LatestSlot

variable {α : Type}

def set (a : α) (s : LatestSlot α) : LatestSlot α :=
  { s with sets := s.sets ++ [a], held := some a }

/-- The reader takes a copy of what is held, if anything is. -/
def copy (s : LatestSlot α) : LatestSlot α :=
  match s.phase, s.held with
  | .idle, some a => { s with phase := .copied (s.sets.length - 1) a }
  | _, _ => s

/-- The copy is passed on. -/
def pass (s : LatestSlot α) : LatestSlot α :=
  match s.phase with
  | .copied place a => { s with phase := .passed place a, sent := s.sent ++ [(place, a)] }
  | _ => s

/-- The copy is not taken and is thrown away; the slot is not cleared. -/
def giveUp (s : LatestSlot α) : LatestSlot α :=
  match s.phase with
  | .copied _ _ => { s with phase := .idle }
  | _ => s

/-- Compare and clear. -/
def clear [DecidableEq α] (s : LatestSlot α) : LatestSlot α :=
  match s.phase with
  | .passed _ a => { s with held := if s.held = some a then none else s.held, phase := .idle }
  | _ => s

/-! ### What an operation leaves alone -/

@[simp] theorem sets_copy (s : LatestSlot α) : s.copy.sets = s.sets := by
  rw [copy]
  split <;> rfl

@[simp] theorem sets_pass (s : LatestSlot α) : s.pass.sets = s.sets := by
  rw [pass]
  split <;> rfl

@[simp] theorem sets_giveUp (s : LatestSlot α) : s.giveUp.sets = s.sets := by
  rw [giveUp]
  split <;> rfl

@[simp] theorem sets_clear [DecidableEq α] (s : LatestSlot α) : s.clear.sets = s.sets := by
  rw [clear]
  split <;> rfl

@[simp] theorem held_copy (s : LatestSlot α) : s.copy.held = s.held := by
  rw [copy]
  split <;> rfl

@[simp] theorem sent_copy (s : LatestSlot α) : s.copy.sent = s.sent := by
  rw [copy]
  split <;> rfl

@[simp] theorem held_pass (s : LatestSlot α) : s.pass.held = s.held := by
  rw [pass]
  split <;> rfl

@[simp] theorem held_giveUp (s : LatestSlot α) : s.giveUp.held = s.held := by
  rw [giveUp]
  split <;> rfl

@[simp] theorem sent_giveUp (s : LatestSlot α) : s.giveUp.sent = s.sent := by
  rw [giveUp]
  split <;> rfl

@[simp] theorem sent_clear [DecidableEq α] (s : LatestSlot α) : s.clear.sent = s.sent := by
  rw [clear]
  split <;> rfl

/-! ### The invariant -/

/-- The values sent so far are of earlier places than the one the next copy comes from. Only the
reader clears the slot, so while it has a copy that it has not passed on, the slot is not empty. -/
def Behind (s : LatestSlot α) : SlotPhase α → Prop
  | .idle => s.held.isSome = true → ∀ x ∈ s.sent, x.1 + 1 < s.sets.length
  | .copied place a =>
    s.held.isSome = true ∧ s.sets[place]? = some a ∧ ∀ x ∈ s.sent, x.1 < place
  | .passed place a => s.sent.getLast? = some (place, a)

structure Sound (s : LatestSlot α) : Prop where
  held : ∀ a ∈ s.held, s.sets.getLast? = some a
  unheld : s.held = none → s.sets.getLast? = s.sent.getLast?.map Prod.snd
  places : ∀ x ∈ s.sent, s.sets[x.1]? = some x.2
  ordered : s.sent.Pairwise fun x y ↦ x.1 < y.1
  behind : s.Behind s.phase

/-- **The newest value is in the slot, or the last value passed on equals it.** -/
theorem Sound.newest {s : LatestSlot α} (h : s.Sound) {a : α} (ha : s.sets.getLast? = some a) :
    s.held = some a ∨ s.sent.getLast?.map Prod.snd = some a := by
  rcases hheld : s.held with - | b
  · exact Or.inr ((h.unheld hheld).symm.trans ha)
  · have hlast := h.held b hheld
    rw [ha] at hlast
    exact Or.inl hlast.symm

theorem sound_empty : (({} : LatestSlot α)).Sound where
  held := by simp
  unheld := by simp
  places := by simp
  ordered := List.Pairwise.nil
  behind := by simp [Behind]

/-- A place among the values set stays one. -/
theorem getElem?_concat {sets : List α} {place : ℕ} {a : α} (h : sets[place]? = some a) (b : α) :
    (sets ++ [b])[place]? = some a := by
  rw [List.getElem?_append_left (List.getElem?_eq_some_iff.mp h).1, h]

theorem Sound.set {s : LatestSlot α} (h : s.Sound) (a : α) : (s.set a).Sound where
  held b hb := by
    obtain rfl := Option.some.inj hb
    simp [LatestSlot.set]
  unheld hnone := by simp [LatestSlot.set] at hnone
  places x hx := getElem?_concat (h.places x hx) a
  ordered := h.ordered
  behind := by
    have hbehind := h.behind
    show (s.set a).Behind s.phase
    cases hphase : s.phase with
    | idle =>
      -- what was sent is of a place before the new one
      intro _ x hx
      have hplace := (List.getElem?_eq_some_iff.mp (h.places x hx)).1
      simp only [LatestSlot.set, List.length_append, List.length_singleton]
      omega
    | copied place b =>
      rw [hphase] at hbehind
      exact ⟨rfl, getElem?_concat hbehind.2.1 a, hbehind.2.2⟩
    | passed place b =>
      rw [hphase] at hbehind
      exact hbehind

theorem Sound.copy {s : LatestSlot α} (h : s.Sound) : s.copy.Sound := by
  rw [LatestSlot.copy]
  split
  · next a hphase hheld =>
    have hbehind := h.behind
    rw [hphase] at hbehind
    have hsome : s.held.isSome = true := by rw [hheld]; rfl
    refine ⟨h.held, h.unheld, h.places, h.ordered, hsome, ?_, ?_⟩
    · have hlast := h.held a hheld
      rw [List.getLast?_eq_getElem?] at hlast
      exact hlast
    · intro x hx
      have hlt := hbehind hsome x hx
      show x.1 < s.sets.length - 1
      omega
  · exact h

theorem Sound.pass {s : LatestSlot α} (h : s.Sound) : s.pass.Sound := by
  rw [LatestSlot.pass]
  split
  · next place a hphase =>
    have hbehind := h.behind
    rw [hphase] at hbehind
    obtain ⟨hsome, hplace, hearlier⟩ := hbehind
    refine ⟨h.held, ?_, ?_, ?_, ?_⟩
    · intro hnone
      rw [show s.held = none from hnone] at hsome
      simp at hsome
    · intro x hx
      rcases List.mem_append.mp hx with hold | hnew
      · exact h.places x hold
      · obtain rfl := List.mem_singleton.mp hnew
        exact hplace
    · rw [List.pairwise_append]
      refine ⟨h.ordered, List.pairwise_singleton _ _, fun x hx y hy ↦ ?_⟩
      obtain rfl := List.mem_singleton.mp hy
      exact hearlier x hx
    · exact List.getLast?_concat
  · exact h

theorem Sound.giveUp {s : LatestSlot α} (h : s.Sound) : s.giveUp.Sound := by
  rw [LatestSlot.giveUp]
  split
  · next place a hphase =>
    have hbehind := h.behind
    rw [hphase] at hbehind
    obtain ⟨-, hplace, hearlier⟩ := hbehind
    refine ⟨h.held, h.unheld, h.places, h.ordered, fun _ x hx ↦ ?_⟩
    have hlt := (List.getElem?_eq_some_iff.mp hplace).1
    have hx := hearlier x hx
    show x.1 + 1 < s.sets.length
    omega
  · exact h

/-- The last value of an ordered history is of the latest place. -/
theorem le_of_getLast?_eq {sent : List (ℕ × α)} {last : ℕ × α}
    (hordered : sent.Pairwise fun x y ↦ x.1 < y.1) (hlast : sent.getLast? = some last)
    {x : ℕ × α} (hx : x ∈ sent) : x.1 ≤ last.1 := by
  obtain ⟨before, rfl⟩ := List.getLast?_eq_some_iff.mp hlast
  rw [List.pairwise_append] at hordered
  rcases List.mem_append.mp hx with hbefore | hthis
  · exact Nat.le_of_lt (hordered.2.2 x hbefore last (List.mem_singleton_self last))
  · exact Nat.le_of_eq (congrArg Prod.fst (List.mem_singleton.mp hthis))

theorem Sound.clear [DecidableEq α] {s : LatestSlot α} (h : s.Sound) : s.clear.Sound := by
  rw [LatestSlot.clear]
  split
  · next place a hphase =>
    have hlast : s.sent.getLast? = some (place, a) := by
      have hbehind := h.behind
      rwa [hphase] at hbehind
    by_cases hsame : s.held = some a
    · -- the value held equals the one passed on, whichever write it came from
      rw [if_pos hsame]
      refine ⟨by simp, fun _ ↦ ?_, h.places, h.ordered, by simp [Behind]⟩
      show s.sets.getLast? = s.sent.getLast?.map Prod.snd
      rw [hlast, h.held a hsame]
      rfl
    · rw [if_neg hsame]
      refine ⟨h.held, h.unheld, h.places, h.ordered, fun hsome x hx ↦ ?_⟩
      obtain ⟨b, hb⟩ := Option.isSome_iff_exists.mp hsome
      have hplace := h.places _ (List.mem_of_getLast? hlast)
      have hnewest : s.sets[s.sets.length - 1]? = some b := by
        rw [← List.getLast?_eq_getElem?]
        exact h.held b hb
      -- the newest value is not the one passed on, so its place is later
      have hne : place ≠ s.sets.length - 1 := by
        rintro rfl
        rw [hplace] at hnewest
        exact hsame (hb.trans hnewest.symm)
      have hlt := (List.getElem?_eq_some_iff.mp hplace).1
      have hle := le_of_getLast?_eq h.ordered hlast hx
      show x.1 + 1 < s.sets.length
      simp only at hle hlt
      omega
  · exact h

end LatestSlot
