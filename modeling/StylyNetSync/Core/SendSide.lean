import StylyNetSync.Foundation.DoubleArith
import StylyNetSync.Foundation.OrderedMap
import StylyNetSync.Protocol.MessageTypes

/-!
# The send side of a network variable

Global and client variables share one debounced send path: a leading-edge send, a cooldown, a
trailing latest-wins flush on a fixed deadline, and dedupe against the last value that was sent. The
manager keeps it in four maps per kind of variable (`last_sent_*`, `next_allowed_*`, `pending_*` and
`due_*`), keyed by the name or by the client number and the name. The path is written once here,
over any key type; `emit` puts a value on the wire and says whether it was taken.

The transport behind `emit` is any state `ω`. What an operation does is stated as an inversion lemma
(`write_cases`, `flushItem_cases`), and a whole flush preserves what each of its rounds preserves
(`flush_induct`).
-/

namespace StylyNetSync

/-- Minimum spacing of two sends of one variable. -/
def kDebounceInterval {D : Type} [Double D] : D := Double.lit 0.1

/-- The four maps of one kind of variable. -/
structure SendSide (K D : Type) [Ord K] where
  /-- The last value put on the wire, as far as the client knows. -/
  lastSent : OrderedMap K Bytes := ∅
  /-- The end of the cooldown. -/
  nextAllowed : OrderedMap K D := ∅
  /-- The trailing value, latest wins. -/
  pending : OrderedMap K Bytes := ∅
  /-- When the trailing value is to be flushed. -/
  due : OrderedMap K D := ∅

namespace SendSide

variable {K D ω : Type} [Ord K] [Std.TransOrd K]

/-! ### Operations -/

/-- Record a value as sent. -/
def recordSent (key : K) (value : Bytes) (s : SendSide K D) : SendSide K D :=
  { s with lastSent := s.lastSent.insert key value }

/-- Hand a value to the sender and record it as sent if it was accepted. -/
def trySendNow (emit : K → Bytes → ω → Bool × ω) (key : K) (value : Bytes) (s : SendSide K D)
    (w : ω) : Bool × SendSide K D × ω :=
  match emit key value w with
  | (false, w') => (false, s, w')
  | (true, w') => (true, s.recordSent key value, w')

/-- Forget the trailing value of a key. -/
def cancel (key : K) (s : SendSide K D) : SendSide K D :=
  { s with pending := s.pending.erase key, due := s.due.erase key }

/-- Make a value the trailing one; a deadline that is already set stays. -/
def keepPending (key : K) (value : Bytes) (deadline : D) (s : SendSide K D) : SendSide K D :=
  { s with
    pending := s.pending.insert key value
    due := if key ∈ s.due then s.due else s.due.insert key deadline }

/-- Forget what was sent last. -/
def forget (key : K) (s : SendSide K D) : SendSide K D :=
  { s with lastSent := s.lastSent.erase key }

/-- Drop a trailing value that only repeats what was sent last. -/
def dropRedundant (key : K) (sent : Bytes) (s : SendSide K D) : SendSide K D :=
  if s.pending[key]? = some sent then s.cancel key else s

/-! ### Lookups -/

section Lookup

variable (s : SendSide K D) (key k : K) (value : Bytes) (deadline : D)

@[simp] theorem pending_recordSent : (s.recordSent key value).pending = s.pending := rfl

@[simp] theorem due_recordSent : (s.recordSent key value).due = s.due := rfl

@[simp] theorem lastSent_cancel : (s.cancel key).lastSent = s.lastSent := rfl

@[simp] theorem pending_forget : (s.forget key).pending = s.pending := rfl

@[simp] theorem due_forget : (s.forget key).due = s.due := rfl

@[simp] theorem lastSent_dropRedundant :
    (s.dropRedundant key value).lastSent = s.lastSent := by
  rw [dropRedundant]
  split <;> rfl

@[simp] theorem lastSent_keepPending :
    (s.keepPending key value deadline).lastSent = s.lastSent := rfl

variable [Std.LawfulEqOrd K] [DecidableEq K]

@[simp] theorem lastSent_recordSent :
    (s.recordSent key value).lastSent[k]? = if key = k then some value else s.lastSent[k]? := by
  rw [recordSent, OrderedMap.get?_insert]

@[simp] theorem pending_cancel :
    (s.cancel key).pending[k]? = if key = k then none else s.pending[k]? := by
  rw [cancel, OrderedMap.get?_erase]

@[simp] theorem due_cancel :
    (s.cancel key).due[k]? = if key = k then none else s.due[k]? := by
  rw [cancel, OrderedMap.get?_erase]

@[simp] theorem lastSent_forget :
    (s.forget key).lastSent[k]? = if key = k then none else s.lastSent[k]? := by
  rw [forget, OrderedMap.get?_erase]

@[simp] theorem pending_keepPending :
    (s.keepPending key value deadline).pending[k]? =
      if key = k then some value else s.pending[k]? := by
  rw [keepPending, OrderedMap.get?_insert]

@[simp] theorem due_keepPending :
    (s.keepPending key value deadline).due[k]? =
      if key = k then some ((s.due[k]?).getD deadline) else s.due[k]? := by
  rw [keepPending]
  by_cases hmem : key ∈ s.due
  · obtain ⟨d, hd⟩ := Option.isSome_iff_exists.mp (Std.ExtTreeMap.mem_iff_isSome_getElem?.mp hmem)
    rw [if_pos hmem]
    split
    · next hkey => rw [← hkey, hd, Option.getD_some]
    · rfl
  · rw [if_neg hmem, OrderedMap.get?_insert]
    split
    · next hkey => rw [← hkey, Std.ExtTreeMap.getElem?_eq_none hmem, Option.getD_none]
    · rfl

end Lookup

/-! ### Writing and flushing -/

variable [Double D]

/-- Start the cooldown of a key. -/
def startCooldown (now : D) (key : K) (s : SendSide K D) : SendSide K D :=
  { s with nextAllowed := s.nextAllowed.insert key (now + kDebounceInterval) }

@[simp] theorem lastSent_startCooldown (s : SendSide K D) (now : D) (key : K) :
    (s.startCooldown now key).lastSent = s.lastSent := rfl

@[simp] theorem pending_startCooldown (s : SendSide K D) (now : D) (key : K) :
    (s.startCooldown now key).pending = s.pending := rfl

@[simp] theorem due_startCooldown (s : SendSide K D) (now : D) (key : K) :
    (s.startCooldown now key).due = s.due := rfl

/-- The leading edge: try to send at once, and keep the value for the trailing flush either way. -/
def writeNow (emit : K → Bytes → ω → Bool × ω) (now : D) (key : K) (value : Bytes)
    (s : SendSide K D) (w : ω) : SendSide K D × ω :=
  match s.trySendNow emit key value w with
  | (sent, s', w') =>
    ((if sent then s'.startCooldown now key else s').keepPending key value
      (now + kDebounceInterval), w')

/-- A validated write. A value equal to the last one sent cancels a trailing value, which is an
older intent; inside the cooldown the value only becomes the trailing one. -/
def write (emit : K → Bytes → ω → Bool × ω) (now : D) (key : K) (value : Bytes)
    (s : SendSide K D) (w : ω) : SendSide K D × ω :=
  -- a repetition needs no send, and whatever is trailing is older than it
  if s.lastSent[key]? = some value then (s.cancel key, w)
  else match s.nextAllowed[key]? with
    | none => s.writeNow emit now key value w
    | some next =>
      if Double.le next now then s.writeNow emit now key value w
      else (s.keepPending key value next, w)

/-- The write is to be sent at once: it is no repetition, and the cooldown is over. -/
def atLeadingEdge (now : D) (key : K) (value : Bytes) (s : SendSide K D) : Bool :=
  decide (s.lastSent[key]? ≠ some value) && (s.nextAllowed[key]?).all (Double.le · now)

theorem atLeadingEdge_iff {s : SendSide K D} {now : D} {key : K} {value : Bytes} :
    s.atLeadingEdge now key value = true ↔
      s.lastSent[key]? ≠ some value ∧
        ∀ next, s.nextAllowed[key]? = some next → Double.le next now = true := by
  rw [atLeadingEdge, Bool.and_eq_true, decide_eq_true_iff, Option.all_eq_true]

/-- The trailing values whose deadline has passed, in key order. -/
def toFlush (now : D) (s : SendSide K D) : List (K × Bytes) :=
  s.due.toList.filterMap fun entry ↦
    if Double.lt now entry.2 then none else s.pending[entry.1]?.map fun value ↦ (entry.1, value)

/-- One round of the flush loop. A refused send keeps the entry, so that a later tick retries. -/
def flushItem (emit : K → Bytes → ω → Bool × ω) (now : D) (acc : Bool × SendSide K D × ω)
    (entry : K × Bytes) : Bool × SendSide K D × ω :=
  match acc with
  | (allFlushed, s, w) =>
    if s.lastSent[entry.1]? = some entry.2 then (allFlushed, s.cancel entry.1, w)
    else match s.trySendNow emit entry.1 entry.2 w with
      | (true, s', w') => (allFlushed, (s'.cancel entry.1).startCooldown now entry.1, w')
      | (false, s', w') => (false, s', w')

/-- Flush the trailing values that are due; false when a send was refused. -/
def flush (emit : K → Bytes → ω → Bool × ω) (now : D) (s : SendSide K D) (w : ω) :
    Bool × SendSide K D × ω :=
  (s.toFlush now).foldl (flushItem emit now) (true, s, w)

/-! ### What an operation can do -/

section Cases

variable {emit : K → Bytes → ω → Bool × ω} {now : D} {key : K} {value : Bytes}
  {s s' : SendSide K D} {w w' : ω}

theorem writeNow_cases (h : s.writeNow emit now key value w = (s', w')) :
    (emit key value w = (true, w') ∧
      s' = ((s.recordSent key value).startCooldown now key).keepPending key value
        (now + kDebounceInterval)) ∨
    (emit key value w = (false, w') ∧
      s' = s.keepPending key value (now + kDebounceInterval)) := by
  rcases hemit : emit key value w with ⟨- | -, w''⟩
  all_goals
    simp only [writeNow, trySendNow, hemit, Prod.mk.injEq] at h
    obtain ⟨rfl, rfl⟩ := h
  · exact Or.inr ⟨rfl, rfl⟩
  · exact Or.inl ⟨rfl, rfl⟩

/-- **What a write can do.** It finds the value already sent and cancels the trailing one; it comes
at the leading edge, where the send is accepted or refused; or it comes inside the cooldown and
waits for the end of it. -/
theorem write_edges (h : s.write emit now key value w = (s', w')) :
    (s.lastSent[key]? = some value ∧ s' = s.cancel key ∧ w' = w) ∨
    (s.atLeadingEdge now key value = true ∧
      ((emit key value w = (true, w') ∧
          s' = ((s.recordSent key value).startCooldown now key).keepPending key value
            (now + kDebounceInterval)) ∨
        (emit key value w = (false, w') ∧
          s' = s.keepPending key value (now + kDebounceInterval)))) ∨
    (s.lastSent[key]? ≠ some value ∧
      ∃ next, s.nextAllowed[key]? = some next ∧ s' = s.keepPending key value next ∧ w' = w) := by
  rw [write] at h
  split at h
  · next hsent =>
    obtain ⟨rfl, rfl⟩ := Prod.mk.inj h
    exact Or.inl ⟨hsent, rfl, rfl⟩
  · next hsent =>
    refine Or.inr ?_
    rcases hnext : s.nextAllowed[key]? with - | next
    · rw [hnext] at h
      exact Or.inl ⟨by simp [atLeadingEdge, hsent, hnext], writeNow_cases h⟩
    · rw [hnext] at h
      dsimp only at h
      split at h
      · next hover => exact Or.inl ⟨by simp [atLeadingEdge, hsent, hnext, hover], writeNow_cases h⟩
      · obtain ⟨rfl, rfl⟩ := Prod.mk.inj h
        exact Or.inr ⟨hsent, next, rfl, rfl, rfl⟩

/-- A write either finds the value already sent and cancels the trailing one, or leaves the value
pending, with a send that was accepted or refused or without one. -/
theorem write_cases (h : s.write emit now key value w = (s', w')) :
    (s.lastSent[key]? = some value ∧ s' = s.cancel key ∧ w' = w) ∨
    (s.lastSent[key]? ≠ some value ∧
      ((emit key value w = (true, w') ∧
          s' = ((s.recordSent key value).startCooldown now key).keepPending key value
            (now + kDebounceInterval)) ∨
        ((emit key value w = (false, w') ∨ w' = w) ∧
          ∃ deadline, s' = s.keepPending key value deadline))) := by
  obtain hsent | ⟨hedge, haccepted | ⟨hrefused, hs⟩⟩ | ⟨hsent, next, -, hs, hw⟩ := write_edges h
  · exact Or.inl hsent
  · exact Or.inr ⟨(atLeadingEdge_iff.mp hedge).1, Or.inl haccepted⟩
  · exact Or.inr ⟨(atLeadingEdge_iff.mp hedge).1, Or.inr ⟨Or.inl hrefused, _, hs⟩⟩
  · exact Or.inr ⟨hsent, Or.inr ⟨Or.inr hw, next, hs⟩⟩

/-- A round of the flush either finds the value already sent and cancels it, or sends it and
cancels it, or is refused and changes nothing. -/
theorem flushItem_cases {b b' : Bool} {entry : K × Bytes}
    (h : flushItem emit now (b, s, w) entry = (b', s', w')) :
    (s.lastSent[entry.1]? = some entry.2 ∧ s' = s.cancel entry.1 ∧ w' = w ∧ b' = b) ∨
    (s.lastSent[entry.1]? ≠ some entry.2 ∧ emit entry.1 entry.2 w = (true, w') ∧
      s' = ((s.recordSent entry.1 entry.2).cancel entry.1).startCooldown now entry.1 ∧ b' = b) ∨
    (s.lastSent[entry.1]? ≠ some entry.2 ∧ emit entry.1 entry.2 w = (false, w') ∧ s' = s ∧
      b' = false) := by
  simp only [flushItem] at h
  split at h
  · next hsent =>
    simp only [Prod.mk.injEq] at h
    obtain ⟨rfl, rfl, rfl⟩ := h
    exact Or.inl ⟨hsent, rfl, rfl, rfl⟩
  · next hsent =>
    rcases hemit : emit entry.1 entry.2 w with ⟨- | -, w''⟩
    all_goals
      simp only [trySendNow, hemit, Prod.mk.injEq] at h
      obtain ⟨rfl, rfl, rfl⟩ := h
    · exact Or.inr (Or.inr ⟨hsent, rfl, rfl, rfl⟩)
    · exact Or.inr (Or.inl ⟨hsent, rfl, rfl, rfl⟩)

end Cases

/-! ### Other keys -/

/-- Two send sides hold the same for a key (the cooldown apart, which decides only when to send). -/
structure AgreesAt (k : K) (s s' : SendSide K D) : Prop where
  lastSent : s'.lastSent[k]? = s.lastSent[k]?
  pending : s'.pending[k]? = s.pending[k]?
  due : s'.due[k]? = s.due[k]?

omit [Double D] in
theorem AgreesAt.trans {k : K} {s₁ s₂ s₃ : SendSide K D} (h₁ : AgreesAt k s₁ s₂)
    (h₂ : AgreesAt k s₂ s₃) : AgreesAt k s₁ s₃ :=
  ⟨h₂.lastSent.trans h₁.lastSent, h₂.pending.trans h₁.pending, h₂.due.trans h₁.due⟩

section Other

variable [Std.LawfulEqOrd K] [DecidableEq K] {emit : K → Bytes → ω → Bool × ω} {now : D}
  {key k : K} {value : Bytes} {s s' : SendSide K D} {w w' : ω}

omit [Double D] in
theorem cancel_agreesAt (hne : key ≠ k) : AgreesAt k s (s.cancel key) := by
  constructor <;> simp [hne]

omit [Double D] in
theorem forget_agreesAt (hne : key ≠ k) : AgreesAt k s (s.forget key) := by
  constructor <;> simp [hne]

omit [Double D] in
theorem recordSent_agreesAt (hne : key ≠ k) : AgreesAt k s (s.recordSent key value) := by
  constructor <;> simp [hne]

omit [Double D] in
theorem dropRedundant_agreesAt (hne : key ≠ k) : AgreesAt k s (s.dropRedundant key value) := by
  rw [dropRedundant]
  split
  · exact cancel_agreesAt hne
  · exact ⟨rfl, rfl, rfl⟩

/-- A write leaves every other key alone. -/
theorem write_agreesAt (hne : key ≠ k) (h : s.write emit now key value w = (s', w')) :
    AgreesAt k s s' := by
  rcases write_cases h with ⟨-, rfl, -⟩ | ⟨-, ⟨-, rfl⟩ | ⟨-, deadline, rfl⟩⟩
  · exact cancel_agreesAt hne
  all_goals constructor <;> simp [hne]

/-- A round of the flush leaves every other key alone. -/
theorem flushItem_agreesAt {b b' : Bool} {entry : K × Bytes} (hne : entry.1 ≠ k)
    (h : flushItem emit now (b, s, w) entry = (b', s', w')) : AgreesAt k s s' := by
  rcases flushItem_cases h with ⟨-, rfl, -⟩ | ⟨-, -, rfl, -⟩ | ⟨-, -, rfl, -⟩
  · exact cancel_agreesAt hne
  all_goals constructor <;> simp [hne]

end Other

/-! ### A whole flush -/

section Flush

variable {emit : K → Bytes → ω → Bool × ω} {now : D} {s s' : SendSide K D} {w w' : ω}

theorem nodup_keys_toFlush (now : D) (s : SendSide K D) :
    ((s.toFlush now).map Prod.fst).Nodup := by
  refine List.Nodup.sublist (OrderedMap.keys_filterMap_sublist ?_ s.due.toList)
    (OrderedMap.nodup_keys_toList s.due)
  intro entry entry' h
  split at h
  · simp at h
  · obtain ⟨value, -, rfl⟩ := Option.map_eq_some_iff.mp h
    rfl

/-- The entry is the trailing value of its key, and its deadline has passed. -/
def Ripe (now : D) (s : SendSide K D) (entry : K × Bytes) : Prop :=
  s.pending[entry.1]? = some entry.2 ∧
    ∃ deadline, s.due[entry.1]? = some deadline ∧ Double.lt now deadline = false

variable [Std.LawfulEqOrd K]

theorem ripe_of_mem_toFlush {entry : K × Bytes} (h : entry ∈ s.toFlush now) :
    s.Ripe now entry := by
  rw [toFlush, List.mem_filterMap] at h
  obtain ⟨⟨key, deadline⟩, hdue, hentry⟩ := h
  split at hentry
  · simp at hentry
  · next hpassed =>
    obtain ⟨value, hvalue, rfl⟩ := Option.map_eq_some_iff.mp hentry
    refine ⟨hvalue, deadline, ?_, by simpa using hpassed⟩
    exact Std.ExtTreeMap.mem_toList_iff_getElem?_eq_some.mp hdue

variable [DecidableEq K]

/-- **A flush preserves what its rounds preserve.** In its round, an entry is still the trailing
value of its key, and its deadline has passed. -/
theorem flush_induct_ripe {P : SendSide K D → ω → Prop}
    (hitem : ∀ s w b b' s' w' (entry : K × Bytes), s.Ripe now entry → P s w →
      flushItem emit now (b, s, w) entry = (b', s', w') → P s' w')
    {b : Bool} (h : s.flush emit now w = (b, s', w')) (hP : P s w) : P s' w' := by
  have hloop : P (s.flush emit now w).2.1 (s.flush emit now w).2.2 := by
    refine OrderedMap.foldl_keyed (fun acc : Bool × SendSide K D × ω ↦ P acc.2.1 acc.2.2)
      (fun acc entry ↦ acc.2.1.Ripe now entry) ?_ ?_ (nodup_keys_toFlush now s)
      (fun entry hmem ↦ ripe_of_mem_toFlush hmem) hP
    · rintro ⟨b, s, w⟩ entry entry' - ⟨hpending, deadline, hdue, hpassed⟩ hne
      rcases hround : flushItem emit now (b, s, w) entry with ⟨b', s', w'⟩
      have hagrees := flushItem_agreesAt hne hround
      exact ⟨hagrees.pending.trans hpending, deadline, hagrees.due.trans hdue, hpassed⟩
    · rintro ⟨b, s, w⟩ entry hahead hP
      rcases hround : flushItem emit now (b, s, w) entry with ⟨b', s', w'⟩
      exact hitem s w b b' s' w' entry hahead hP hround
  rw [h] at hloop
  exact hloop

/-- The deadline aside. -/
theorem flush_induct {P : SendSide K D → ω → Prop}
    (hitem : ∀ s w b b' s' w' (entry : K × Bytes), s.pending[entry.1]? = some entry.2 → P s w →
      flushItem emit now (b, s, w) entry = (b', s', w') → P s' w')
    {b : Bool} (h : s.flush emit now w = (b, s', w')) (hP : P s w) : P s' w' :=
  flush_induct_ripe (fun s w b b' s' w' entry hripe ↦ hitem s w b b' s' w' entry hripe.1) h hP

end Flush

end SendSide

end StylyNetSync
