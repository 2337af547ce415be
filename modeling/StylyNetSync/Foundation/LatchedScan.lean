import Mathlib.Data.List.Basic
import Mathlib.Tactic.Common

/-!
# Scanners over a latching cursor

A cursor walks over a list and carries a failure flag that, once down, stays down. A **scanner** is
a state-passing function on cursors that may also reject outright. Reads past the end do not
reject: they take the flag down and the caller goes on with a default value, so whether a truncated
input is noticed depends on where the flag is consulted.

Three properties are set up here, each with the rules that carry it through `pure`, `bind`, `check`
and counted repetition.

* `Scan.Parses p chunk b` — wherever `chunk` stands in the input, `p` started at its first item
  returns `b` and stops right behind it. This is what a round-trip proof composes.
* `Scan.Consumes p n` — any `n` items, whatever they are, are accepted and consumed. This is what
  keeps a reader aligned with a writer whose values it does not know.
* `Scan.Exact p` — an accepting run depends on the consumed items only: it is the same on every
  input that agrees up to where it stopped (`extend`), and it is not accepting on any input that is
  cut short before that point (`cut`).

Offsets are machine words: the bounds check of `grab` adds modulo `M`, so every statement keeps the
offset below `M`. Nothing here knows what the items are or what is being scanned.
-/

/-- A position in a list of items, with a failure flag. -/
structure Cursor (α : Type) where
  data : List α
  offset : ℕ := 0
  ok : Bool := true

namespace Cursor

variable {α : Type}

/-- Whether `n` more items are in bounds, with the addition done modulo `M`: a sum that exceeds the
length, or that wrapped around and fell below the offset, is out of bounds. -/
def fits (M n : ℕ) (c : Cursor α) : Bool :=
  !(decide (c.data.length < (c.offset + n) % M) || decide ((c.offset + n) % M < c.offset))

/-- Below the modulus the bounds check is the plain one. -/
theorem fits_iff {M n : ℕ} {c : Cursor α} (hc : c.offset < M) (hn : n < M) :
    c.fits M n = true ↔ c.offset + n < M ∧ c.offset + n ≤ c.data.length := by
  simp only [fits, Bool.not_eq_true', Bool.or_eq_false_iff, decide_eq_false_iff_not]
  rcases Nat.lt_or_ge (c.offset + n) M with h | h
  · rw [Nat.mod_eq_of_lt h]
    omega
  · have hwrap : (c.offset + n) % M = c.offset + n - M := by
      rw [Nat.mod_eq_sub_mod h, Nat.mod_eq_of_lt (by omega)]
    rw [hwrap]
    omega

end Cursor

/-- A scanner: given a cursor, the result (`none` for a rejection) and the cursor afterwards. -/
def Scan (α β : Type) : Type := Cursor α → Option β × Cursor α

namespace Scan

variable {α β γ : Type} {M : ℕ}

/-- Sequencing: a rejection ends the scan, anything else goes on from the new cursor. -/
protected def bind (p : Scan α β) (f : β → Scan α γ) : Scan α γ := fun c ↦
  match p c with
  | (none, c') => (none, c')
  | (some b, c') => f b c'

instance : Monad (Scan α) where
  pure b := fun c ↦ (some b, c)
  bind := Scan.bind

theorem pure_apply (b : β) (c : Cursor α) : (pure b : Scan α β) c = (some b, c) := rfl

theorem bind_apply_some {p : Scan α β} {f : β → Scan α γ} {c c' : Cursor α} {b : β}
    (h : p c = (some b, c')) : (p >>= f) c = f b c' := by
  show Scan.bind p f c = f b c'
  rw [Scan.bind, h]

theorem bind_apply_none {p : Scan α β} {f : β → Scan α γ} {c c' : Cursor α}
    (h : p c = (none, c')) : (p >>= f) c = (none, c') := by
  show Scan.bind p f c = _
  rw [Scan.bind, h]

/-- An accepting run of a sequence splits into accepting runs of its two halves. -/
theorem bind_eq_some {p : Scan α β} {f : β → Scan α γ} {c c₂ : Cursor α} {g : γ}
    (h : (p >>= f) c = (some g, c₂)) :
    ∃ b c₁, p c = (some b, c₁) ∧ f b c₁ = (some g, c₂) := by
  rcases hp : p c with ⟨- | b, c₁⟩
  · rw [bind_apply_none hp] at h
    simp at h
  · exact ⟨b, c₁, rfl, by rwa [bind_apply_some hp] at h⟩

/-- Reject outright. -/
def fail : Scan α β := fun c ↦ (none, c)

/-- Reject when the flag is down. -/
def check : Scan α Unit := fun c ↦ (if c.ok then some () else none, c)

/-- Take the next `n` items, or take the flag down and yield `none` when they are not all there. -/
def grab (M n : ℕ) : Scan α (Option (List α)) := fun c ↦
  if c.ok then
    if c.fits M n then
      (some (some ((c.data.drop c.offset).take n)), { c with offset := (c.offset + n) % M })
    else (some none, { c with ok := false })
  else (some none, c)

/-- Run a scanner `n` times and collect the results. -/
def repeatN : ℕ → Scan α β → Scan α (List β)
  | 0, _ => pure []
  | n + 1, p => do
    let b ← p
    let bs ← repeatN n p
    pure (b :: bs)

/-- A scanner run on a whole input, from its first item. -/
def run (p : Scan α β) (data : List α) : Option β × Cursor α := p { data := data }

/-! ### Reading back what was written -/

/-- Wherever `chunk` stands in the input (within the addressable range), `p` reads it as `b` and
stops right behind it. -/
def Parses (M : ℕ) (p : Scan α β) (chunk : List α) (b : β) : Prop :=
  ∀ before after : List α, before.length + chunk.length < M →
    p ⟨before ++ (chunk ++ after), before.length, true⟩ =
      (some b, ⟨before ++ (chunk ++ after), before.length + chunk.length, true⟩)

theorem Parses.pure (b : β) : Parses M (pure b : Scan α β) [] b := by
  intro before after _
  simp [pure_apply]

theorem Parses.bind {p : Scan α β} {f : β → Scan α γ} {chunk₁ chunk₂ : List α} {b : β} {g : γ}
    (hp : Parses M p chunk₁ b) (hf : Parses M (f b) chunk₂ g) :
    Parses M (p >>= f) (chunk₁ ++ chunk₂) g := by
  intro before after hM
  rw [List.length_append] at hM
  have h₁ := hp before (chunk₂ ++ after) (by omega)
  have h₂ := hf (before ++ chunk₁) after (by rw [List.length_append]; omega)
  rw [← List.append_assoc chunk₁] at h₁
  rw [List.append_assoc before, List.length_append, ← List.append_assoc chunk₁] at h₂
  rw [bind_apply_some h₁, h₂, List.length_append, Nat.add_assoc]

/-- The form in which a message, written as a list of fields, is taken apart field by field. -/
theorem Parses.cons {p : Scan α β} {f : β → Scan α γ} {chunk : List α} {chunks : List (List α)}
    {b : β} {g : γ} (hp : Parses M p chunk b) (hf : Parses M (f b) chunks.flatten g) :
    Parses M (p >>= f) (chunk :: chunks).flatten g := by
  rw [List.flatten_cons]
  exact hp.bind hf

/-- A scanner followed by one that reads nothing. -/
theorem Parses.bind_nil {p : Scan α β} {f : β → Scan α γ} {chunk : List α} {b : β} {g : γ}
    (hp : Parses M p chunk b) (hf : Parses M (f b) [] g) : Parses M (p >>= f) chunk g := by
  rw [← List.append_nil chunk]
  exact hp.bind hf

theorem Parses.map {p : Scan α β} {chunk : List α} {b : β} (f : β → γ)
    (hp : Parses M p chunk b) : Parses M (f <$> p) chunk (f b) :=
  hp.bind_nil (f := fun b ↦ Pure.pure (f b)) (Parses.pure (f b))

/-- Consulting the flag consumes nothing and lets a good cursor pass. -/
theorem Parses.check_bind {f : Unit → Scan α γ} {chunk : List α} {g : γ}
    (hf : Parses M (f ()) chunk g) : Parses M (check >>= f) chunk g := by
  intro before after hM
  exact hf before after hM

theorem Parses.grab {n : ℕ} {chunk : List α} (hn : chunk.length = n) :
    Parses M (grab M n) chunk (some chunk) := by
  subst hn
  intro before after hM
  have hfit : (⟨before ++ (chunk ++ after), before.length, true⟩ : Cursor α).fits M
      chunk.length = true := by
    rw [Cursor.fits_iff (by simp only; omega) (by omega)]
    simp only [List.length_append]
    omega
  have hslice : ((before ++ (chunk ++ after)).drop before.length).take chunk.length = chunk := by
    rw [List.drop_left, List.take_left]
  simp only [Scan.grab, if_true, hfit, hslice, Nat.mod_eq_of_lt hM]

/-- A counted loop reads back a list of records written one after the other. -/
theorem Parses.repeatN {δ : Type} {p : Scan α β} {encode : δ → List α} {value : δ → β}
    {xs : List δ} (h : ∀ x ∈ xs, Parses M p (encode x) (value x)) :
    Parses M (repeatN xs.length p) (xs.flatMap encode) (xs.map value) := by
  induction xs with
  | nil => exact Parses.pure []
  | cons x xs ih =>
    have hhead := h x List.mem_cons_self
    have htail := ih fun y hy ↦ h y (List.mem_cons_of_mem _ hy)
    have hloop := hhead.bind (f := fun b ↦ do
      let bs ← Scan.repeatN xs.length p
      Pure.pure (b :: bs)) (htail.map (value x :: ·))
    exact hloop

/-- On an input that is exactly one chunk, a scanner that parses it consumes everything. -/
theorem Parses.run {p : Scan α β} {chunk : List α} {b : β} (h : Parses M p chunk b)
    (hM : chunk.length < M) : p.run chunk = (some b, ⟨chunk, chunk.length, true⟩) := by
  have := h [] [] (by simpa using hM)
  simpa [Scan.run] using this

/-! ### Reading a fixed number of items -/

/-- Any `n` items are accepted and consumed, whatever they are. -/
def Consumes (M : ℕ) (p : Scan α β) (n : ℕ) : Prop :=
  ∀ chunk : List α, chunk.length = n → ∃ b, Parses M p chunk b

theorem Consumes.pure (b : β) : Consumes M (Pure.pure b : Scan α β) 0 := by
  intro chunk hchunk
  rw [List.length_eq_zero_iff.mp hchunk]
  exact ⟨b, Parses.pure b⟩

theorem Consumes.bind {p : Scan α β} {f : β → Scan α γ} {m n : ℕ} (hp : Consumes M p m)
    (hf : ∀ b, Consumes M (f b) n) : Consumes M (p >>= f) (m + n) := by
  intro chunk hchunk
  obtain ⟨b, hb⟩ := hp (chunk.take m) (by rw [List.length_take]; omega)
  obtain ⟨g, hg⟩ := hf b (chunk.drop m) (by rw [List.length_drop]; omega)
  rw [← List.take_append_drop m chunk]
  exact ⟨g, hb.bind hg⟩

theorem Consumes.map {p : Scan α β} {n : ℕ} (f : β → γ) (hp : Consumes M p n) :
    Consumes M (f <$> p) n := by
  intro chunk hchunk
  obtain ⟨b, hb⟩ := hp chunk hchunk
  exact ⟨f b, hb.map f⟩

theorem Consumes.check_bind {f : Unit → Scan α γ} {n : ℕ} (hf : Consumes M (f ()) n) :
    Consumes M (check >>= f) n := by
  intro chunk hchunk
  obtain ⟨g, hg⟩ := hf chunk hchunk
  exact ⟨g, hg.check_bind⟩

theorem Consumes.grab (n : ℕ) : Consumes M (grab M n : Scan α (Option (List α))) n :=
  fun chunk hchunk ↦ ⟨some chunk, Parses.grab hchunk⟩

theorem Consumes.repeatN {p : Scan α β} {n : ℕ} (hp : Consumes M p n) (k : ℕ) :
    Consumes M (repeatN k p) (k * n) := by
  induction k with
  | zero =>
    rw [Nat.zero_mul]
    exact Consumes.pure []
  | succ k ih =>
    rw [Nat.succ_mul, Nat.add_comm (k * n)]
    exact hp.bind fun b ↦ ih.map (b :: ·)

/-- A scanner that reads a chunk where it stands does not read more of it: what it consumes is
determined. -/
theorem Parses.length_eq {p : Scan α β} {chunk more : List α} {b b' : β}
    (h : Parses M p chunk b) (h' : Parses M p (chunk ++ more) b')
    (hM : (chunk ++ more).length < M) : more = [] := by
  have hshort := h [] more (by rw [List.length_append] at hM; simp only [List.length_nil]; omega)
  have hlong := h' [] [] (by simpa using hM)
  rw [List.append_nil, hshort] at hlong
  have hoffset := congrArg (fun result ↦ result.2.offset) hlong
  simp only [List.length_nil, List.length_append] at hoffset
  exact List.length_eq_zero_iff.mp (by omega)

/-! ### Depending on the consumed items only -/

/-- An accepting run with the flag up is determined by the items it consumed. -/
structure Exact (M : ℕ) (p : Scan α β) : Prop where
  /-- A flag that is down stays down. -/
  latched : ∀ c, c.ok = false → (p c).2.ok = false
  /-- Scanning never changes the input. -/
  data_eq : ∀ c, (p c).2.data = c.data
  /-- An accepting run moves forward and stays addressable. -/
  advance : ∀ {c b c'}, c.offset < M → p c = (some b, c') → c'.ok = true →
    c.offset ≤ c'.offset ∧ c'.offset < M
  /-- It is the same run on every input that agrees with this one up to where it stopped. -/
  extend : ∀ {c b c'}, c.offset < M → p c = (some b, c') → c'.ok = true →
    ∀ d : List α, c'.offset ≤ d.length → d.take c'.offset = c.data.take c'.offset →
      p { c with data := d } = (some b, { c' with data := d })
  /-- It is not accepting on an input cut short before that point. -/
  cut : ∀ {c b c'}, c.offset < M → p c = (some b, c') → c'.ok = true →
    ∀ d : List α, d <+: c.data → c.offset ≤ d.length → d.length < c'.offset →
      ∀ b' c'', p { c with data := d } = (some b', c'') → c''.ok = false

theorem Exact.pure (b : β) : Exact M (pure b : Scan α β) where
  latched c h := h
  data_eq c := rfl
  advance hc h _ := by
    rw [pure_apply, Prod.mk.injEq] at h
    rw [← h.2]
    exact ⟨Nat.le_refl _, hc⟩
  extend hc h _ d _ _ := by
    rw [pure_apply, Prod.mk.injEq] at h ⊢
    exact ⟨h.1, by rw [← h.2]⟩
  cut hc h _ d _ hle hlt := by
    rw [pure_apply, Prod.mk.injEq] at h
    rw [← h.2] at hlt
    omega

/-- The second half of a sequence cannot raise a flag the first half took down. -/
theorem Exact.ok_mid {f : β → Scan α γ} (hf : ∀ b, Exact M (f b)) {b : β} {c₁ c₂ : Cursor α}
    {g : γ} (h : f b c₁ = (some g, c₂)) (hok : c₂.ok = true) : c₁.ok = true := by
  by_contra hdown
  have := (hf b).latched c₁ (by simpa using hdown)
  rw [h] at this
  simp [hok] at this

theorem Exact.bind {p : Scan α β} {f : β → Scan α γ} (hp : Exact M p)
    (hf : ∀ b, Exact M (f b)) : Exact M (p >>= f) where
  latched c h := by
    have h₁ := hp.latched c h
    rcases hpc : p c with ⟨- | b, c₁⟩
    · rw [bind_apply_none hpc]
      rwa [hpc] at h₁
    · rw [bind_apply_some hpc]
      rw [hpc] at h₁
      exact (hf b).latched c₁ h₁
  data_eq c := by
    have h₁ := hp.data_eq c
    rcases hpc : p c with ⟨- | b, c₁⟩
    · rw [bind_apply_none hpc]
      rwa [hpc] at h₁
    · rw [bind_apply_some hpc, (hf b).data_eq]
      rwa [hpc] at h₁
  advance hc h hok := by
    obtain ⟨b, c₁, h₁, h₂⟩ := bind_eq_some h
    have hmid := Exact.ok_mid hf h₂ hok
    obtain ⟨hle₁, hlt₁⟩ := hp.advance hc h₁ hmid
    obtain ⟨hle₂, hlt₂⟩ := (hf b).advance hlt₁ h₂ hok
    exact ⟨Nat.le_trans hle₁ hle₂, hlt₂⟩
  -- on other data with the same consumed part, each half sees the same
  extend {c g c₂} hc h hok d hlen htake := by
    obtain ⟨b, c₁, h₁, h₂⟩ := bind_eq_some h
    have hmid := Exact.ok_mid hf h₂ hok
    obtain ⟨-, hlt₁⟩ := hp.advance hc h₁ hmid
    obtain ⟨hle₂, -⟩ := (hf b).advance hlt₁ h₂ hok
    have hdata : c₁.data = c.data := by simpa [h₁] using hp.data_eq c
    have htake₁ : d.take c₁.offset = c.data.take c₁.offset := by
      have := congrArg (List.take c₁.offset) htake
      simpa [List.take_take, Nat.min_eq_left hle₂] using this
    have e₁ := hp.extend hc h₁ hmid d (Nat.le_trans hle₂ hlen) htake₁
    have e₂ := (hf b).extend hlt₁ h₂ hok d hlen (by rw [hdata]; exact htake)
    rw [bind_apply_some e₁, e₂]
  cut {c g c₂} hc h hok d hpre hle hlt g' c'' hd := by
    obtain ⟨b, c₁, h₁, h₂⟩ := bind_eq_some h
    obtain ⟨b', c₁', hd₁, hd₂⟩ := bind_eq_some hd
    have hmid := Exact.ok_mid hf h₂ hok
    obtain ⟨-, hlt₁⟩ := hp.advance hc h₁ hmid
    have hdata : c₁.data = c.data := by simpa [h₁] using hp.data_eq c
    rcases Nat.lt_or_ge d.length c₁.offset with hshort | hlong
    · -- the cut lies inside the first half, whose flag then stays down
      have hdown := hp.cut hc h₁ hmid d hpre hle hshort b' c₁' hd₁
      have := (hf b').latched c₁' hdown
      rwa [hd₂] at this
    · -- the first half is unaffected and the cut lies inside the second
      have htake : d.take c₁.offset = c.data.take c₁.offset := by
        obtain ⟨tail, htail⟩ := hpre
        rw [← htail, List.take_append_of_le_length hlong]
      have e₁ := hp.extend hc h₁ hmid d hlong htake
      rw [e₁, Prod.mk.injEq, Option.some.injEq] at hd₁
      obtain ⟨rfl, rfl⟩ := hd₁
      exact (hf b).cut hlt₁ h₂ hok d (by rw [hdata]; exact hpre) hlong hlt g' c'' hd₂

theorem Exact.map {p : Scan α β} (f : β → γ) (hp : Exact M p) : Exact M (f <$> p) :=
  hp.bind fun b ↦ Exact.pure (f b)

theorem Exact.fail : Exact M (fail : Scan α β) where
  latched _ h := h
  data_eq _ := rfl
  advance _ h _ := by simp [Scan.fail] at h
  extend _ h _ _ _ _ := by simp [Scan.fail] at h
  cut _ h _ _ _ _ _ := by simp [Scan.fail] at h

theorem Exact.check : Exact M (check : Scan α Unit) where
  latched _ h := h
  data_eq _ := rfl
  advance hc h _ := by
    rw [Scan.check, Prod.mk.injEq] at h
    rw [← h.2]
    exact ⟨Nat.le_refl _, hc⟩
  extend hc h _ d _ _ := by
    rw [Scan.check, Prod.mk.injEq] at h ⊢
    exact ⟨h.1, by rw [← h.2]⟩
  cut hc h _ d _ hle hlt := by
    rw [Scan.check, Prod.mk.injEq] at h
    rw [← h.2] at hlt
    omega

/-- What an accepting bounded read did: the items were there and the offset moved past them. -/
theorem grab_eq_some {n : ℕ} (hn : n < M) {c c' : Cursor α} {r : Option (List α)}
    (hc : c.offset < M) (h : grab M n c = (some r, c')) (hok : c'.ok = true) :
    c.ok = true ∧ c.offset + n < M ∧ c.offset + n ≤ c.data.length ∧
      r = some ((c.data.drop c.offset).take n) ∧ c' = { c with offset := c.offset + n } := by
  rw [grab] at h
  split at h
  · next hcok =>
    split at h
    · next hfit =>
      obtain ⟨hlt, hle⟩ := (Cursor.fits_iff hc hn).1 hfit
      rw [Prod.mk.injEq, Option.some.injEq, Nat.mod_eq_of_lt hlt] at h
      exact ⟨hcok, hlt, hle, h.1.symm, h.2.symm⟩
    · rw [Prod.mk.injEq] at h
      rw [← h.2] at hok
      simp at hok
  · next hcok =>
    rw [Prod.mk.injEq] at h
    rw [← h.2] at hok
    exact absurd hok hcok

/-- A bounded read succeeds whenever the items are there. -/
theorem grab_of_le {n : ℕ} {c : Cursor α} (hok : c.ok = true) (hlt : c.offset + n < M)
    (hle : c.offset + n ≤ c.data.length) :
    grab M n c = (some (some ((c.data.drop c.offset).take n)),
      { c with offset := c.offset + n }) := by
  have hfit := (Cursor.fits_iff (M := M) (n := n) (c := c) (by omega) (by omega)).2 ⟨hlt, hle⟩
  rw [grab, if_pos hok, if_pos hfit, Nat.mod_eq_of_lt hlt]

theorem Exact.grab {n : ℕ} (hn : n < M) : Exact M (grab M n : Scan α (Option (List α))) where
  latched c h := by
    rw [Scan.grab, if_neg (by simp [h])]
    exact h
  data_eq c := by
    rw [Scan.grab]
    split_ifs <;> rfl
  advance hc h hok := by
    obtain ⟨-, hlt, -, -, rfl⟩ := grab_eq_some hn hc h hok
    exact ⟨Nat.le_add_right _ _, hlt⟩
  extend {c r c'} hc h hok d hlen htake := by
    obtain ⟨hcok, hlt, hle, rfl, rfl⟩ := grab_eq_some hn hc h hok
    have hslice : (d.drop c.offset).take n = (c.data.drop c.offset).take n := by
      have := congrArg (List.drop c.offset) htake
      rwa [List.drop_take, List.drop_take, Nat.add_sub_cancel_left] at this
    rw [← hslice]
    exact grab_of_le (c := { c with data := d }) hcok hlt hlen
  cut {c r c'} hc h hok d hpre hle hshort r' c'' hd := by
    obtain ⟨hcok, hlt, -, rfl, rfl⟩ := grab_eq_some hn hc h hok
    by_contra hup
    obtain ⟨-, -, hfull, -, -⟩ :=
      grab_eq_some (c := { c with data := d }) hn hc hd (by simpa using hup)
    exact absurd hfull (Nat.not_le.2 hshort)

theorem Exact.repeatN {p : Scan α β} (hp : Exact M p) (n : ℕ) : Exact M (repeatN n p) := by
  induction n with
  | zero => exact Exact.pure []
  | succ n ih => exact hp.bind fun b ↦ ih.bind fun bs ↦ Exact.pure (b :: bs)

/-- A branch chosen by already scanned data. -/
theorem Exact.ite {p q : Scan α β} {P : Prop} [Decidable P] (hp : P → Exact M p)
    (hq : ¬P → Exact M q) : Exact M (if P then p else q) := by
  split
  · exact hp ‹_›
  · exact hq ‹_›

/-! ### What the two properties say of a whole input -/

/-- A scanner whose acceptance implies that the flag is still up: one that consults it last. -/
def Guarded (p : Scan α β) : Prop := ∀ c b c', p c = (some b, c') → c'.ok = true

theorem Guarded.bind {p : Scan α β} {f : β → Scan α γ} (hf : ∀ b, Guarded (f b)) :
    Guarded (p >>= f) := by
  intro c g c₂ h
  obtain ⟨b, c₁, -, h₂⟩ := bind_eq_some h
  exact hf b c₁ g c₂ h₂

theorem Guarded.check_pure (b : β) : Guarded (check >>= fun _ ↦ pure b : Scan α β) := by
  intro c b' c' h
  obtain ⟨u, c₁, h₁, h₂⟩ := bind_eq_some h
  rw [pure_apply, Prod.mk.injEq] at h₂
  rw [check, Prod.mk.injEq] at h₁
  rw [← h₂.2, ← h₁.2]
  by_contra hdown
  simp [hdown] at h₁

theorem Guarded.map {p : Scan α β} (f : β → γ) (hp : Guarded p) :
    Guarded (p >>= fun b ↦ pure (f b)) := by
  intro c g c' h
  obtain ⟨b, c₁, h₁, h₂⟩ := bind_eq_some h
  rw [pure_apply, Prod.mk.injEq] at h₂
  rw [← h₂.2]
  exact hp c b c₁ h₁

/-- Acceptance of an input depends on a consumed initial segment only: an input that lacks part of
it is rejected, and an input that shares it is accepted with the same result. -/
def PrefixExact (p : Scan α β) : Prop :=
  ∀ (data : List α) (b : β) (k : ℕ), (p.run data).1 = some b → (p.run data).2.offset = k →
    (∀ short, short <+: data → short.length < k → (p.run short).1 = none) ∧
    (∀ data', k ≤ data'.length → data'.take k = data.take k →
      (p.run data').1 = some b ∧ (p.run data').2.offset = k)

theorem Exact.prefixExact {p : Scan α β} (hM : 0 < M) (hp : Exact M p) (hg : Guarded p) :
    PrefixExact p := by
  rintro data b k hb rfl
  have hrun : p { data := data } = (some b, (p.run data).2) := Prod.ext hb rfl
  have hok := hg _ _ _ hrun
  constructor
  · intro short hpre hshort
    rcases hs : p { data := short } with ⟨- | b', c''⟩
    · simp [run, hs]
    · have hdown := hp.cut hM hrun hok short hpre (Nat.zero_le _) hshort b' c'' hs
      rw [hg _ _ _ hs] at hdown
      simp at hdown
  · intro data' hlen htake
    have := hp.extend hM hrun hok data' hlen htake
    rw [run, this]
    exact ⟨rfl, rfl⟩

/-- A scanner that parses `chunk` rejects every proper initial segment of it. -/
theorem PrefixExact.strict {p : Scan α β} {chunk : List α} {b : β} (hp : PrefixExact p)
    (h : p.run chunk = (some b, ⟨chunk, chunk.length, true⟩)) {short : List α}
    (hpre : short <+: chunk) (hlt : short.length < chunk.length) : (p.run short).1 = none :=
  (hp chunk b chunk.length (by rw [h]) (by rw [h])).1 short hpre hlt

end Scan
