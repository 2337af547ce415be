import Mathlib.Data.List.DropRight

/-!
# A queue that drops its oldest element

A bounded queue into which everything is let: when it is full, the oldest element makes room, and a
counter says how many did. Whatever arrives at an empty queue, the queue holds the last of it, in
order, and the rest is counted.
-/

variable {α : Type}

/-- One more arrival at a queue of at most `n` elements. -/
def dropOldest (n : ℕ) (state : List α × ℕ) (a : α) : List α × ℕ :=
  if state.1.length ≥ n then (state.1.tail ++ [a], state.2 + 1) else (state.1 ++ [a], state.2)

theorem List.length_rtake_add (l : List α) (n : ℕ) :
    (l.rtake n).length + (l.length - n) = l.length := by
  rw [List.rtake, List.length_drop]
  omega

theorem List.rtake_sublist (l : List α) (n : ℕ) : (l.rtake n).Sublist l :=
  List.drop_sublist _ l

/-- **The last that arrived.** A queue that holds the last `n` goes on to do so. -/
theorem dropOldest_rtake {n : ℕ} (hn : 0 < n) (arrived : List α) (dropped : ℕ) (a : α) :
    dropOldest n (arrived.rtake n, dropped + (arrived.length - n)) a =
      ((arrived ++ [a]).rtake n, dropped + ((arrived ++ [a]).length - n)) := by
  obtain ⟨n, rfl⟩ := Nat.exists_eq_add_one.mpr hn
  have hlength := arrived.length_rtake_add (n + 1)
  rw [dropOldest, List.rtake_concat_succ, List.length_append, List.length_singleton]
  dsimp only
  split
  · next hfull =>
    -- the oldest of the last `n + 1` makes room
    have htail : (arrived.rtake (n + 1)).tail = arrived.rtake n := by
      rw [List.rtake, List.rtake, List.tail_drop]
      congr 1
      omega
    rw [htail]
    congr 1
    omega
  · next hroom =>
    have hall : arrived.rtake (n + 1) = arrived.rtake n := by
      rw [List.rtake, List.rtake]
      congr 1
      omega
    rw [hall]
    congr 1
    omega
