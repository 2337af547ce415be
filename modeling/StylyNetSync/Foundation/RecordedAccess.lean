import StylyNetSync.Foundation.LatchedScan

/-!
# Recorded access

A reader over a borrowed buffer is memory safe if no index it reads is beyond the buffer. Here a
cursor keeps a record of the indices that were read, and reads do not look at bounds on their own:
what is beyond the buffer is read as a default, and recorded like the rest. Bounds are for the check
in front of a read.

`Access.Safe p zero` says what such a computation may be relied on for, whatever was read before: it
stays in bounds and records no other index, and with the flag down it does nothing and yields
`zero`. The rules carry it through sequences, and to every sequence of calls (`Safe.mapM`).
-/

/-- A cursor with a record of the indices that were read. -/
structure Recorded (α : Type) where
  cursor : Cursor α
  accessed : List ℕ := []

/-- A computation that reads through a recorded cursor. -/
abbrev Access (α β : Type) : Type := StateM (Recorded α) β

namespace Recorded

variable {α : Type}

/-- The cursor is in the buffer, and so is all that was read. -/
structure InBounds (M : ℕ) (s : Recorded α) : Prop where
  addressable : s.cursor.data.length < M
  offset_le : s.cursor.offset ≤ s.cursor.data.length
  accessed_lt : ∀ i ∈ s.accessed, i < s.cursor.data.length

theorem InBounds.start {M : ℕ} {data : List α} (h : data.length < M) :
    InBounds M ⟨{ data }, []⟩ where
  addressable := h
  offset_le := Nat.zero_le _
  accessed_lt := fun _ hi ↦ absurd hi List.not_mem_nil

end Recorded

namespace Access

open Recorded

variable {α β γ κ : Type} {M : ℕ}

/-- The bounds check. Unless it is down already, the flag goes down if the items are not there. -/
def require (M count : ℕ) : Access α Bool := fun s ↦
  if s.cursor.ok then
    if s.cursor.fits M count then (true, s)
    else (false, { s with cursor := { s.cursor with ok := false } })
  else (false, s)

/-- The items from the cursor on, each read by its index. -/
def peek [Inhabited α] (M count : ℕ) : Access α (List α) := fun s ↦
  let indices := (List.range count).map fun i ↦ (s.cursor.offset + i) % M
  (indices.map fun i ↦ s.cursor.data.getD i default, { s with accessed := s.accessed ++ indices })

/-- The cursor moves on. -/
def advance (M count : ℕ) : Access α Unit := fun s ↦
  ((), { s with cursor := { s.cursor with offset := (s.cursor.offset + count) % M } })

/-- What an accessor does if `count` items are there, and `zero` otherwise. -/
def whenFits (M count : ℕ) (body : Access α β) (zero : β) : Access α β := do
  if ← require M count then body else return zero

/-- An accessor: a value made of the next items. -/
def guarded [Inhabited α] (M count : ℕ) (value : List α → β) (zero : β) : Access α β :=
  whenFits M count (do
    let items ← peek M count
    advance M count
    return value items) zero

/-- Passing items without reading them. -/
def skip (M count : ℕ) : Access α Unit := whenFits M count (advance M count) ()

/-! ### One accessor -/

theorem bind_apply (p : Access α β) (f : β → Access α γ) (s : Recorded α) :
    (p >>= f) s = f (p s).1 (p s).2 := rfl

theorem pure_apply (b : β) (s : Recorded α) : (pure b : Access α β) s = (b, s) := rfl

/-- The items are there. -/
theorem whenFits_of_le {count : ℕ} (body : Access α β) (zero : β) {s : Recorded α}
    (h : s.InBounds M) (hok : s.cursor.ok = true)
    (hle : s.cursor.offset + count ≤ s.cursor.data.length) :
    whenFits M count body zero s = body s := by
  have hlt : s.cursor.offset + count < M := Nat.lt_of_le_of_lt hle h.addressable
  have hfits : s.cursor.fits M count = true :=
    (Cursor.fits_iff (by omega) (by omega)).mpr ⟨hlt, hle⟩
  rw [whenFits, bind_apply, require, if_pos hok, if_pos hfits, if_pos rfl]

/-- The items are not there. -/
theorem whenFits_of_lt {count : ℕ} (hcount : count < M) (body : Access α β) (zero : β)
    {s : Recorded α} (h : s.InBounds M) (hok : s.cursor.ok = true)
    (hlt : s.cursor.data.length < s.cursor.offset + count) :
    whenFits M count body zero s =
      (zero, { s with cursor := { s.cursor with ok := false } }) := by
  have hoffset : s.cursor.offset < M := Nat.lt_of_le_of_lt h.offset_le h.addressable
  have hfits : s.cursor.fits M count = false := by
    rw [Bool.eq_false_iff, Ne, Cursor.fits_iff hoffset hcount]
    omega
  rw [whenFits, bind_apply, require, if_pos hok, hfits, if_neg Bool.false_ne_true,
    if_neg Bool.false_ne_true, pure_apply]

/-- With the flag down nothing happens. -/
theorem whenFits_of_not_ok (count : ℕ) (body : Access α β) (zero : β) {s : Recorded α}
    (hok : s.cursor.ok = false) : whenFits M count body zero s = (zero, s) := by
  rw [whenFits, bind_apply, require, hok, if_neg Bool.false_ne_true, if_neg Bool.false_ne_true,
    pure_apply]

/-- In bounds, what is read is what is there. -/
theorem peek_of_le [Inhabited α] {count : ℕ} {s : Recorded α} (h : s.InBounds M)
    (hle : s.cursor.offset + count ≤ s.cursor.data.length) :
    peek M count s = ((s.cursor.data.drop s.cursor.offset).take count,
      { s with accessed := s.accessed ++ List.range' s.cursor.offset count }) := by
  have hindices : (List.range count).map (fun i ↦ (s.cursor.offset + i) % M) =
      List.range' s.cursor.offset count := by
    rw [List.range'_eq_map_range]
    refine List.map_congr_left fun i hi ↦ Nat.mod_eq_of_lt ?_
    have hlt := List.mem_range.mp hi
    have haddressable := h.addressable
    omega
  have hitems : (List.range' s.cursor.offset count).map (s.cursor.data.getD · default) =
      (s.cursor.data.drop s.cursor.offset).take count := by
    refine List.ext_getElem? fun i ↦ ?_
    rw [List.getElem?_map, List.getElem?_take, List.getElem?_drop]
    by_cases hi : i < count
    · rw [List.getElem?_range' hi, if_pos hi, Option.map_some, Nat.one_mul,
        List.getD_eq_getElem?_getD, List.getElem?_eq_getElem (by omega), Option.getD_some]
    · rw [if_neg hi, List.getElem?_eq_none (by rw [List.length_range']; omega), Option.map_none]
  rw [peek, hindices, hitems]

theorem advance_of_le {count : ℕ} {s : Recorded α} (h : s.InBounds M)
    (hle : s.cursor.offset + count ≤ s.cursor.data.length) :
    advance M count s =
      ((), { s with cursor := { s.cursor with offset := s.cursor.offset + count } }) := by
  rw [advance, Nat.mod_eq_of_lt (Nat.lt_of_le_of_lt hle h.addressable)]

theorem peek_advance_of_le [Inhabited α] {count : ℕ} (value : List α → β) {s : Recorded α}
    (h : s.InBounds M) (hle : s.cursor.offset + count ≤ s.cursor.data.length) :
    (do
      let items ← peek M count
      advance M count
      return value items : Access α β) s =
      (value ((s.cursor.data.drop s.cursor.offset).take count),
        ⟨{ s.cursor with offset := s.cursor.offset + count },
          s.accessed ++ List.range' s.cursor.offset count⟩) := by
  rw [bind_apply, peek_of_le h hle, bind_apply, pure_apply, advance,
    Nat.mod_eq_of_lt (Nat.lt_of_le_of_lt hle h.addressable)]

/-- **An accessor takes the next items**, if they are there. -/
theorem guarded_of_le [Inhabited α] {count : ℕ} (value : List α → β) (zero : β) {s : Recorded α}
    (h : s.InBounds M) (hok : s.cursor.ok = true)
    (hle : s.cursor.offset + count ≤ s.cursor.data.length) :
    guarded M count value zero s =
      (value ((s.cursor.data.drop s.cursor.offset).take count),
        ⟨{ s.cursor with offset := s.cursor.offset + count },
          s.accessed ++ List.range' s.cursor.offset count⟩) := by
  rw [guarded, whenFits_of_le _ zero h hok hle, peek_advance_of_le value h hle]

/-! ### Safety -/

theorem InBounds.down {s : Recorded α} (h : s.InBounds M) :
    Recorded.InBounds M { s with cursor := { s.cursor with ok := false } } where
  addressable := h.addressable
  offset_le := h.offset_le
  accessed_lt := h.accessed_lt

/-- Items that are there may be read and passed. -/
theorem InBounds.forward {s : Recorded α} (h : s.InBounds M) {count : ℕ} {more : List ℕ}
    (hle : s.cursor.offset + count ≤ s.cursor.data.length)
    (hmore : ∀ i ∈ more, i < s.cursor.offset + count) :
    Recorded.InBounds M
      ⟨{ s.cursor with offset := s.cursor.offset + count }, s.accessed ++ more⟩ where
  addressable := h.addressable
  offset_le := hle
  accessed_lt := by
    intro i hi
    rcases List.mem_append.mp hi with hi | hi
    · exact h.accessed_lt i hi
    · exact Nat.lt_of_lt_of_le (hmore i hi) hle

/-- What an accessor may be relied on for, and a sequence of them as well. -/
structure Safe (M : ℕ) (p : Access α β) (zero : β) : Prop where
  keeps : ∀ s, s.InBounds M → (p s).2.InBounds M
  data_eq : ∀ s, s.InBounds M → (p s).2.cursor.data = s.cursor.data
  failed : ∀ s, s.cursor.ok = false → p s = (zero, s)

namespace Safe

theorem pure (b : β) : Safe M (Pure.pure b : Access α β) b where
  keeps _ h := h
  data_eq _ _ := rfl
  failed _ _ := rfl

theorem bind {p : Access α β} {f : β → Access α γ} {zero : β} {z : β → γ} (hp : Safe M p zero)
    (hf : ∀ b, Safe M (f b) (z b)) : Safe M (p >>= f) (z zero) where
  keeps s h := (hf _).keeps _ (hp.keeps s h)
  data_eq s h := ((hf _).data_eq _ (hp.keeps s h)).trans (hp.data_eq s h)
  failed s h := by
    rw [bind_apply, hp.failed s h]
    exact (hf zero).failed s h

theorem map {p : Access α β} {zero : β} (f : β → γ) (hp : Safe M p zero) :
    Safe M (f <$> p) (f zero) :=
  hp.bind fun b ↦ Safe.pure (f b)

/-- What is done if the items are there may read them, and passes them. -/
theorem whenFits {count : ℕ} (hcount : count < M) {body : Access α β} (zero : β)
    (hbody : ∀ s : Recorded α, s.InBounds M →
      s.cursor.offset + count ≤ s.cursor.data.length → ∃ b more,
        body s = (b, ⟨{ s.cursor with offset := s.cursor.offset + count }, s.accessed ++ more⟩) ∧
          ∀ i ∈ more, i < s.cursor.offset + count) :
    Safe M (whenFits M count body zero) zero where
  keeps s h := by
    by_cases hok : s.cursor.ok = true
    · rcases Nat.lt_or_ge s.cursor.data.length (s.cursor.offset + count) with hlt | hle
      · rw [whenFits_of_lt hcount body zero h hok hlt]
        exact InBounds.down h
      · obtain ⟨b, more, heq, hmore⟩ := hbody s h hle
        rw [whenFits_of_le body zero h hok hle, heq]
        exact InBounds.forward h hle hmore
    · rw [whenFits_of_not_ok count body zero (Bool.eq_false_iff.mpr hok)]
      exact h
  data_eq s h := by
    by_cases hok : s.cursor.ok = true
    · rcases Nat.lt_or_ge s.cursor.data.length (s.cursor.offset + count) with hlt | hle
      · rw [whenFits_of_lt hcount body zero h hok hlt]
      · obtain ⟨b, more, heq, -⟩ := hbody s h hle
        rw [whenFits_of_le body zero h hok hle, heq]
    · rw [whenFits_of_not_ok count body zero (Bool.eq_false_iff.mpr hok)]
  failed s h := whenFits_of_not_ok count body zero h

theorem guarded [Inhabited α] {count : ℕ} (hcount : count < M) (value : List α → β) (zero : β) :
    Safe M (guarded M count value zero) zero := by
  refine whenFits hcount zero fun s h hle ↦ ?_
  exact ⟨_, _, peek_advance_of_le value h hle, fun i hi ↦ (List.mem_range'_1.mp hi).2⟩

theorem skip {count : ℕ} (hcount : count < M) : Safe M (skip M count : Access α Unit) () := by
  refine whenFits hcount () fun s h hle ↦ ⟨(), [], ?_, fun _ hi ↦ absurd hi List.not_mem_nil⟩
  rw [advance_of_le h hle, List.append_nil]

/-- **Every sequence of calls is safe.** -/
theorem mapM {perform : κ → Access α β} {zero : κ → β}
    (h : ∀ call, Safe M (perform call) (zero call)) (calls : List κ) :
    Safe M (calls.mapM perform) (calls.map zero) := by
  induction calls with
  | nil =>
    rw [List.mapM_nil]
    exact Safe.pure []
  | cons call calls ih =>
    rw [List.mapM_cons]
    exact (h call).bind fun b ↦ ih.bind fun bs ↦ Safe.pure (b :: bs)

end Safe

/-! ### Without the record -/

/-- A scanner does the same, on the cursor alone. -/
def Agrees (M : ℕ) (p : Access α β) (q : Scan α β) : Prop :=
  ∀ s, s.InBounds M → q s.cursor = (some (p s).1, (p s).2.cursor)

/-- The value of a bounded read. -/
def grabValue (M count : ℕ) (value : List α → β) (zero : β) : Scan α β := do
  let items ← Scan.grab M count
  return items.elim zero value

namespace Agrees

theorem pure (b : β) : Agrees M (Pure.pure b : Access α β) (Pure.pure b) := fun _ _ ↦ rfl

theorem bind {p : Access α β} {q : Scan α β} {f : β → Access α γ} {g : β → Scan α γ} {zero : β}
    (hsafe : Safe M p zero) (h : Agrees M p q) (hf : ∀ b, Agrees M (f b) (g b)) :
    Agrees M (p >>= f) (q >>= g) := by
  intro s hs
  rw [Scan.bind_apply_some (h s hs), bind_apply]
  exact hf _ _ (hsafe.keeps s hs)

theorem map {p : Access α β} {q : Scan α β} {zero : β} (hsafe : Safe M p zero) (f : β → γ)
    (h : Agrees M p q) : Agrees M (f <$> p) (f <$> q) :=
  Agrees.bind hsafe h fun b ↦ Agrees.pure (f b)

/-- An accessor is a bounded read. -/
theorem guarded [Inhabited α] {count : ℕ} (hcount : count < M) (value : List α → β) (zero : β) :
    Agrees M (guarded M count value zero) (grabValue M count value zero) := by
  intro s h
  by_cases hok : s.cursor.ok = true
  · rcases Nat.lt_or_ge s.cursor.data.length (s.cursor.offset + count) with hlt | hle
    · have hoffset : s.cursor.offset < M := Nat.lt_of_le_of_lt h.offset_le h.addressable
      have hfits : s.cursor.fits M count = false := by
        rw [Bool.eq_false_iff, Ne, Cursor.fits_iff hoffset hcount]
        omega
      have hgrab : Scan.grab M count s.cursor = (some none, { s.cursor with ok := false }) := by
        rw [Scan.grab, if_pos hok, hfits, if_neg Bool.false_ne_true]
      rw [grabValue, Scan.bind_apply_some hgrab, Access.guarded,
        whenFits_of_lt hcount _ zero h hok hlt]
      rfl
    · have hgrab := Scan.grab_of_le hok (Nat.lt_of_le_of_lt hle h.addressable) hle
      rw [grabValue, Scan.bind_apply_some hgrab, guarded_of_le value zero h hok hle]
      rfl
  · have hdown := Bool.eq_false_iff.mpr hok
    have hgrab : Scan.grab M count s.cursor = (some none, s.cursor) := by
      rw [Scan.grab, if_neg hok]
    rw [grabValue, Scan.bind_apply_some hgrab, Access.guarded,
      whenFits_of_not_ok count _ zero hdown]
    rfl

end Agrees

end Access
