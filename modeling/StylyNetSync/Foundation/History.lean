import Mathlib.Data.List.Basic
import Mathlib.Tactic.Common

/-!
# Reading a history

What a run did is a list that grows at its end. Statements about a run ask for the last thing of a
kind that it did: `lastSome f` is the answer of `f` at the latest entry where it has one.
-/

variable {α β : Type}

/-- The answer of `f` at the latest entry of the history where it has one. -/
def lastSome (f : α → Option β) (history : List α) : Option β := history.reverse.findSome? f

@[simp] theorem lastSome_nil (f : α → Option β) : lastSome f [] = none := rfl

/-- A new entry answers first. -/
theorem lastSome_concat (f : α → Option β) (history : List α) (a : α) :
    lastSome f (history ++ [a]) = (f a).or (lastSome f history) := by
  rw [lastSome, List.reverse_append, List.reverse_singleton, List.singleton_append,
    List.findSome?_cons]
  rcases f a with - | b <;> rfl

theorem lastSome_concat_some {f : α → Option β} {a : α} {b : β} (history : List α)
    (h : f a = some b) : lastSome f (history ++ [a]) = some b := by
  rw [lastSome_concat, h, Option.some_or]

theorem lastSome_concat_none {f : α → Option β} {a : α} (history : List α) (h : f a = none) :
    lastSome f (history ++ [a]) = lastSome f history := by
  rw [lastSome_concat, h, Option.none_or]

/-- The later part of a history answers first. -/
theorem lastSome_append (f : α → Option β) (history later : List α) :
    lastSome f (history ++ later) = (lastSome f later).or (lastSome f history) := by
  rw [lastSome, List.reverse_append, List.findSome?_append]
  rfl

theorem lastSome_eq_none {f : α → Option β} {history : List α} (h : ∀ a ∈ history, f a = none) :
    lastSome f history = none :=
  List.findSome?_eq_none_iff.mpr fun a ha ↦ h a (List.mem_reverse.mp ha)

/-- Entries without an answer do not matter. -/
theorem lastSome_append_of_none {f : α → Option β} (history : List α) {later : List α}
    (h : ∀ a ∈ later, f a = none) : lastSome f (history ++ later) = lastSome f history := by
  rw [lastSome_append, lastSome_eq_none h, Option.none_or]

/-- An entry of a history with one entry more is the new one or one of the old ones. -/
theorem concat_eq_append_cons {history before after : List α} {a b : α}
    (h : history ++ [a] = before ++ b :: after) :
    (before = history ∧ b = a) ∨ ∃ after', history = before ++ b :: after' := by
  rcases List.eq_nil_or_concat after with rfl | ⟨after', c, rfl⟩
  · obtain ⟨hbefore, hlast⟩ := List.append_inj' h rfl
    exact Or.inl ⟨hbefore.symm, (List.singleton_inj.mp hlast).symm⟩
  · refine Or.inr ⟨after', ?_⟩
    rw [List.concat_eq_append, ← List.cons_append, ← List.append_assoc] at h
    exact (List.append_inj' h rfl).1
