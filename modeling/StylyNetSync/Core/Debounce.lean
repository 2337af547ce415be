import StylyNetSync.Core.SharedState
import StylyNetSync.Core.VariableRule
import StylyNetSync.Foundation.Cooldown
import StylyNetSync.Foundation.Run

/-!
# The spacing of two sends

Two accepted sends of one variable are to lie `kDebounceInterval` apart. The leading edge looks at
the end of the cooldown, and the trailing flush at a deadline that is kept apart from it. A deadline
that is set when the cooldown begins, or during it, lies at its end. But a write that is sent at
once keeps a deadline that an earlier write has left: the new cooldown ends later than that, and a
value written during it is flushed too early.

That is the only way. As long as no send is accepted at the leading edge while a deadline is left,
all sends of one variable keep their distance, in whatever order the calls and snapshots come.
-/

namespace StylyNetSync

variable {D : Type}

/-! ### A sender with a clock -/

/-- The answers still to be given, the time, and what was accepted so far, with its time. -/
structure SendLog (D : Type) where
  answers : List Bool
  now : D
  sends : List (ControlMessage × D) := []

namespace SendLog

def send (message : ControlMessage) (log : SendLog D) : Bool × SendLog D :=
  match log.answers with
  | [] => (false, log)
  | false :: rest => (false, { log with answers := rest })
  | true :: rest =>
    (true, { log with answers := rest, sends := log.sends ++ [(message, log.now)] })

def callbacks : Callbacks (SendLog D) := ⟨some send, none⟩

/-- The times at which something was accepted for a slot. -/
def times (slot : ControlSlot) (log : SendLog D) : List D :=
  (log.sends.filter fun entry ↦ entry.1.slot = some slot).map Prod.snd

theorem send_refused {message : ControlMessage} {log log' : SendLog D}
    (h : callbacks.trySend message log = (false, log')) :
    log'.now = log.now ∧ log'.sends = log.sends := by
  have hsend : log.send message = (false, log') := h
  rw [send] at hsend
  split at hsend
  · rw [← (Prod.mk.inj hsend).2]
    exact ⟨rfl, rfl⟩
  · rw [← (Prod.mk.inj hsend).2]
    exact ⟨rfl, rfl⟩
  · simp at hsend

theorem send_accepted {message : ControlMessage} {log log' : SendLog D}
    (h : callbacks.trySend message log = (true, log')) :
    log.answers.head? = some true ∧ log'.now = log.now ∧
      log'.sends = log.sends ++ [(message, log.now)] := by
  have hsend : log.send message = (true, log') := h
  rw [send] at hsend
  split at hsend
  · simp at hsend
  · simp at hsend
  · next rest hanswers =>
    rw [← (Prod.mk.inj hsend).2]
    exact ⟨by rw [hanswers]; rfl, rfl, rfl⟩

/-- A send counts for its own slot. -/
theorem times_of_sends {log log' : SendLog D} {message : ControlMessage} {slot : ControlSlot}
    (hslot : message.slot = some slot) (hsends : log'.sends = log.sends ++ [(message, log.now)])
    (other : ControlSlot) :
    log'.times other = log.times other ++ if slot = other then [log.now] else [] := by
  rw [times, hsends, List.filter_append, List.map_append, times, List.filter_singleton, hslot]
  by_cases heq : slot = other
  · simp [heq]
  · simp [heq]

end SendLog

/-! ### The slots of a send side -/

section Stamps

variable {K : Type} {slotOf : K → ControlSlot} {emit : K → Bytes → SendLog D → Bool × SendLog D}
  {log log' : SendLog D} {key : K} {value : Bytes}

/-- The messages of a send side are for the slots of its keys. -/
structure Stamps (slotOf : K → ControlSlot) (emit : K → Bytes → SendLog D → Bool × SendLog D) :
    Prop where
  injective : Function.Injective slotOf
  sends : ∀ key value, ∃ message : ControlMessage, message.slot = some (slotOf key) ∧
    emit key value = SendLog.callbacks.trySend message

/-- Only the slots of these keys may have been used. -/
def Untouched (slotOf : K → ControlSlot) (log log' : SendLog D) : Prop :=
  log'.now = log.now ∧ ∀ slot, (∀ key, slotOf key ≠ slot) → log'.times slot = log.times slot

theorem Stamps.refused (hstamps : Stamps slotOf emit) (h : emit key value log = (false, log')) :
    log'.now = log.now ∧ ∀ slot, log'.times slot = log.times slot := by
  obtain ⟨message, -, hemit⟩ := hstamps.sends key value
  rw [hemit] at h
  obtain ⟨hnow, hsends⟩ := SendLog.send_refused h
  exact ⟨hnow, fun slot ↦ by rw [SendLog.times, hsends, SendLog.times]⟩

theorem Stamps.accepted (hstamps : Stamps slotOf emit) (h : emit key value log = (true, log')) :
    log.answers.head? = some true ∧ log'.now = log.now ∧
      ∀ slot, log'.times slot = log.times slot ++ if slotOf key = slot then [log.now] else [] := by
  obtain ⟨message, hslot, hemit⟩ := hstamps.sends key value
  rw [hemit] at h
  obtain ⟨hanswer, hnow, hsends⟩ := SendLog.send_accepted h
  exact ⟨hanswer, hnow, SendLog.times_of_sends hslot hsends⟩

/-- Whatever the send side does, other slots are left alone. -/
theorem Stamps.sideRule [Ord K] [Std.TransOrd K] (hstamps : Stamps slotOf emit)
    (log : SendLog D) :
    VariableRule.SideRule emit fun (_ : SendSide K D) log' ↦ Untouched slotOf log log' where
  forget _ h := h
  refused hemit h := by
    obtain ⟨hnow, htimes⟩ := hstamps.refused hemit
    exact ⟨hnow.trans h.1, fun slot hslot ↦ (htimes slot).trans (h.2 slot hslot)⟩
  accepted hemit h := by
    obtain ⟨-, hnow, htimes⟩ := hstamps.accepted hemit
    refine ⟨hnow.trans h.1, fun slot hslot ↦ ?_⟩
    rw [htimes, if_neg (hslot _), List.append_nil]
    exact h.2 slot hslot

end Stamps

/-! ### One send side -/

theorem kDebounceInterval_mono [Double D] [DoubleOrder D] {x y : D} (h : Double.le x y = true) :
    Double.le (x + kDebounceInterval) (y + kDebounceInterval) = true :=
  DoubleOrder.add_lit_le (by norm_num) (by norm_num) h

section Side

variable {K : Type} [Ord K] [Std.TransOrd K] [Double D] {slotOf : K → ControlSlot}
  {emit : K → Bytes → SendLog D → Bool × SendLog D} {side side' : SendSide K D}
  {log log' : SendLog D} {key : K} {value : Bytes}

/-- Every key of the send side is cooling. -/
def CoolingSide (slotOf : K → ControlSlot) (side : SendSide K D) (log : SendLog D) : Prop :=
  ∀ key, Cooling kDebounceInterval log.now (log.times (slotOf key)) side.nextAllowed[key]?
    side.due[key]?

/-- Cooling hangs on the time and the slots of the keys only. -/
theorem CoolingSide.congr (h : CoolingSide slotOf side log) (hnow : log'.now = log.now)
    (htimes : ∀ key, log'.times (slotOf key) = log.times (slotOf key)) :
    CoolingSide slotOf side log' := by
  intro key
  rw [hnow, htimes]
  exact h key

/-- The deadlines are the same or gone, and the cooldowns go on. -/
def Eases (side side' : SendSide K D) : Prop :=
  side'.nextAllowed = side.nextAllowed ∧
    ∀ key : K, side'.due[key]? = none ∨ side'.due[key]? = side.due[key]?

omit [Double D] in
theorem Eases.refl (side : SendSide K D) : Eases side side := ⟨rfl, fun _ ↦ Or.inr rfl⟩

omit [Double D] in
theorem Eases.trans {s₁ s₂ s₃ : SendSide K D} (h₁ : Eases s₁ s₂) (h₂ : Eases s₂ s₃) :
    Eases s₁ s₃ := by
  refine ⟨h₂.1.trans h₁.1, fun key ↦ ?_⟩
  rcases h₂.2 key with h | h
  · exact Or.inl h
  · rw [h]
    exact h₁.2 key

theorem CoolingSide.ease (h : CoolingSide slotOf side log) (hease : Eases side side') :
    CoolingSide slotOf side' log := by
  intro key
  rw [hease.1]
  rcases hease.2 key with hdue | hdue
  · rw [hdue]
    exact (h key).drop
  · rw [hdue]
    exact h key

theorem CoolingSide.later [DoubleOrder D] (h : CoolingSide slotOf side log) {now : D}
    (hle : Double.le log.now now = true) : CoolingSide slotOf side { log with now := now } :=
  fun key ↦ (h key).later hle

variable [Std.LawfulEqOrd K] [DecidableEq K]

omit [Double D] in
/-- Dropping a redundant copy eases, and so does forgetting what was sent. -/
theorem Eases.dropRedundant (side : SendSide K D) (key : K) (sent : Bytes) :
    Eases side (side.dropRedundant key sent) := by
  rw [SendSide.dropRedundant]
  split
  · refine ⟨rfl, fun k ↦ ?_⟩
    rw [SendSide.due_cancel]
    split
    · exact Or.inl rfl
    · exact Or.inr rfl
  · exact Eases.refl side

variable [DoubleOrder D]

/-- **A write keeps the distance**, unless it is sent at once while a deadline is left. -/
theorem CoolingSide.write (hstamps : Stamps slotOf emit) (h : CoolingSide slotOf side log)
    (hnow : Double.le log.now log.now = true)
    (hfresh : side.atLeadingEdge log.now key value = true → log.answers.head? = some true →
      side.due[key]? = none)
    (hwrite : side.write emit log.now key value log = (side', log')) :
    CoolingSide slotOf side' log' := by
  intro k
  obtain ⟨-, rfl, rfl⟩ | ⟨hedge, ⟨hemit, rfl⟩ | ⟨hemit, rfl⟩⟩ | ⟨-, next, hnext, rfl, rfl⟩ :=
    SendSide.write_edges hwrite
  · show Cooling _ _ _ side.nextAllowed[k]? (side.cancel key).due[k]?
    rw [SendSide.due_cancel]
    split
    · exact (h k).drop
    · exact h k
  · obtain ⟨hanswer, hnow', htimes⟩ := hstamps.accepted hemit
    show Cooling _ _ _ (side.nextAllowed.insert key (log.now + kDebounceInterval))[k]?
      (((side.recordSent key value).startCooldown log.now key).keepPending key value _).due[k]?
    rw [hnow', htimes, OrderedMap.get?_insert, SendSide.due_keepPending]
    by_cases hkey : key = k
    · subst hkey
      rw [if_pos rfl, if_pos rfl, if_pos rfl]
      refine (h key).act kDebounceInterval_mono hnow ?_ fun d hd ↦ ?_
      · exact (h key).over_of_next (SendSide.atLeadingEdge_iff.mp hedge).2
      · rw [SendSide.due_startCooldown, SendSide.due_recordSent, hfresh hedge hanswer] at hd
        exact (Option.some.inj hd).symm
    · rw [if_neg hkey, if_neg hkey, if_neg fun heq ↦ hkey (hstamps.injective heq), List.append_nil]
      exact h k
  · obtain ⟨hnow', htimes⟩ := hstamps.refused hemit
    show Cooling _ _ _ side.nextAllowed[k]? (side.keepPending key value _).due[k]?
    rw [hnow', htimes, SendSide.due_keepPending]
    split
    · exact (h k).defer kDebounceInterval_mono
    · exact h k
  · show Cooling _ _ _ side.nextAllowed[k]? (side.keepPending key value next).due[k]?
    rw [SendSide.due_keepPending]
    split
    · next hkey =>
      refine (h k).wait ?_
      rw [← hkey]
      exact hnext
    · exact h k

/-- **A flush keeps the distance**: it sends only what is due. -/
theorem CoolingSide.flush (hstamps : Stamps slotOf emit) (h : CoolingSide slotOf side log)
    (hnow : Double.le log.now log.now = true) {b : Bool}
    (hflush : side.flush emit log.now log = (b, side', log')) :
    CoolingSide slotOf side' log' := by
  have hloop : log'.now = log.now ∧ CoolingSide slotOf side' log' := by
    refine SendSide.flush_induct_ripe
      (P := fun side' log' ↦ log'.now = log.now ∧ CoolingSide slotOf side' log') ?_ hflush ⟨rfl, h⟩
    rintro s w _ _ s' w' entry ⟨-, deadline, hdue, hpassed⟩ ⟨hsame, hcooling⟩ hround
    obtain ⟨-, rfl, rfl, -⟩ | ⟨-, hemit, rfl, -⟩ | ⟨-, hemit, rfl, -⟩ :=
      SendSide.flushItem_cases hround
    · refine ⟨hsame, fun k ↦ ?_⟩
      show Cooling _ _ _ s.nextAllowed[k]? (s.cancel entry.1).due[k]?
      rw [SendSide.due_cancel]
      split
      · exact (hcooling k).drop
      · exact hcooling k
    · obtain ⟨-, hnow', htimes⟩ := hstamps.accepted hemit
      refine ⟨hnow'.trans hsame, fun k ↦ ?_⟩
      show Cooling _ _ _ (s.nextAllowed.insert entry.1 (log.now + kDebounceInterval))[k]?
        ((s.recordSent entry.1 entry.2).cancel entry.1).due[k]?
      rw [hnow', hsame, htimes, hsame, OrderedMap.get?_insert, SendSide.due_cancel]
      have hcool := hcooling k
      rw [hsame] at hcool
      by_cases hkey : entry.1 = k
      · subst hkey
        rw [if_pos rfl, if_pos rfl, if_pos rfl]
        exact hcool.act kDebounceInterval_mono hnow (hcool.over_of_due hnow hdue hpassed) (by simp)
      · rw [if_neg hkey, if_neg hkey, if_neg fun heq ↦ hkey (hstamps.injective heq),
          List.append_nil]
        exact hcool
    · obtain ⟨hnow', htimes⟩ := hstamps.refused hemit
      exact ⟨hnow'.trans hsame, hcooling.congr hnow' fun key ↦ htimes _⟩
  exact hloop.2

end Side

/-! ### Snapshots -/

namespace NetworkVariableManager

theorem eases_handleGlobalSync (message : GlobalVarSyncMessage) (m : NetworkVariableManager D) :
    Eases m.globalSide (m.handleGlobalSync message).1.globalSide ∧
      (m.handleGlobalSync message).1.clientSide = m.clientSide := by
  refine List.foldlRecOn
    (motive := fun acc : NetworkVariableManager D × List VariableChange ↦
      Eases m.globalSide acc.1.globalSide ∧ acc.1.clientSide = m.clientSide)
    message.vars handleGlobalEntry ⟨Eases.refl _, rfl⟩ ?_
  rintro ⟨m', changes⟩ ⟨hease, hclient⟩ entry -
  have hentry : Eases m'.globalSide (m'.globalSide.reconcileGlobal entry.name entry.value) := by
    rw [SendSide.reconcileGlobal]
    split
    · exact Eases.refl _
    · split
      · exact Eases.dropRedundant _ _ _
      · exact Eases.dropRedundant _ _ _
  rw [handleGlobalEntry]
  split
  · exact ⟨hease, hclient⟩
  · dsimp only
    split <;> exact ⟨hease.trans hentry, hclient⟩

theorem eases_handleClientBlock (m : NetworkVariableManager D) (changes : List VariableChange)
    (block : UInt16 × List NetworkVariableEntry) :
    Eases m.clientSide (handleClientBlock (m, changes) block).1.clientSide ∧
      (handleClientBlock (m, changes) block).1.globalSide = m.globalSide := by
  have hremoved (acc : SendSide ClientKey D × List VariableChange) (clientNo : ℤ)
      (next : Variables) (entry : Bytes × Bytes) :
      Eases acc.1 (handleRemovedEntry clientNo next acc entry).1 := by
    rw [handleRemovedEntry]
    split
    · exact Eases.refl _
    · rw [SendSide.reconcileRemoved]
      split
      · exact Eases.refl _
      · exact Eases.dropRedundant _ _ _
  have hpresent (acc : SendSide ClientKey D × List VariableChange) (clientNo : ℤ)
      (old : Variables) (entry : Bytes × Bytes) :
      Eases acc.1 (handlePresentEntry clientNo old acc entry).1 := by
    rw [handlePresentEntry_fst]
    exact Eases.dropRedundant (acc.1.recordSent _ _) _ _
  refine ⟨?_, rfl⟩
  refine OrderedMap.foldl_agree
    (R := fun a b : SendSide ClientKey D × List VariableChange ↦ Eases a.1 b.1)
    (fun _ ↦ Eases.refl _) (fun _ _ _ ↦ Eases.trans) (fun acc entry _ ↦ hpresent acc _ _ entry) _
    |> Eases.trans (OrderedMap.foldl_agree
      (R := fun a b : SendSide ClientKey D × List VariableChange ↦ Eases a.1 b.1)
      (fun _ ↦ Eases.refl _) (fun _ _ _ ↦ Eases.trans) (fun acc entry _ ↦ hremoved acc _ _ entry)
      (m.clientSide, changes))

theorem eases_handleClientSync (message : ClientVarSyncMessage) (m : NetworkVariableManager D) :
    Eases m.clientSide (m.handleClientSync message).1.clientSide ∧
      (m.handleClientSync message).1.globalSide = m.globalSide := by
  refine handleClientSync_induct
    (P := fun m' ↦ Eases m.clientSide m'.clientSide ∧ m'.globalSide = m.globalSide) ?_
    ⟨Eases.refl _, rfl⟩
  rintro m' changes block - ⟨hease, hglobal⟩
  obtain ⟨hease', hglobal'⟩ := eases_handleClientBlock m' changes block
  exact ⟨hease.trans hease', hglobal'.trans hglobal⟩

/-- The checks of `setGlobal`. -/
def admitsGlobal (m : NetworkVariableManager D) (name value : Bytes) : Bool :=
  validateName name && validateValue value &&
    !(decide (m.globals.size ≥ kMaxGlobalVars) && !m.globals.contains name)

/-- The checks of `setClient`. -/
def admitsClient (m : NetworkVariableManager D) (target : ℤ) (name value : Bytes) : Bool :=
  validateName name && validateValue value &&
    !(decide ((m.allClientVariables target).size ≥ kMaxClientVars) &&
      !(m.allClientVariables target).contains name)

section Admits

variable {ω : Type} [Double D] {callbacks : Callbacks ω} {now : D} {name value : Bytes}
  {m m' : NetworkVariableManager D} {w w' : ω}

theorem admitsGlobal_of_setGlobal
    (h : m.setGlobal callbacks now name value w = (true, m', w')) :
    m.admitsGlobal name value = true := by
  rw [setGlobal] at h
  split at h
  · simp at h
  · split at h
    · simp at h
    · split at h
      · simp at h
      · next hname hvalue hlimit =>
        simp only [Bool.not_eq_true', Bool.not_eq_false] at hname hvalue
        rw [admitsGlobal, hname, hvalue, Bool.and_self, Bool.true_and, Bool.not_eq_true',
          ← Bool.not_eq_true]
        exact hlimit

theorem admitsClient_of_setClient {target : ℤ}
    (h : m.setClient callbacks now target name value w = (true, m', w')) :
    m.admitsClient target name value = true := by
  rw [setClient] at h
  split at h
  · simp at h
  · split at h
    · simp at h
    · dsimp only at h
      split at h
      · simp at h
      · next hname hvalue hlimit =>
        simp only [Bool.not_eq_true', Bool.not_eq_false] at hname hvalue
        rw [admitsClient, hname, hvalue, Bool.and_self, Bool.true_and, Bool.not_eq_true',
          ← Bool.not_eq_true]
        exact hlimit

end Admits

end NetworkVariableManager

/-! ### Runs -/

/-- A call of the manager. -/
inductive DebounceCall (D : Type)
  | setGlobal (now : D) (name value : Bytes)
  | setClient (now : D) (target : ℤ) (name value : Bytes)
  | tick (now : D)
  | handleGlobalSync (message : GlobalVarSyncMessage)
  | handleClientSync (message : ClientVarSyncMessage)

/-- The time of a call, for those that are told the time. -/
def DebounceCall.time : DebounceCall D → Option D
  | .setGlobal now _ _ | .setClient now _ _ _ | .tick now => some now
  | .handleGlobalSync _ | .handleClientSync _ => none

structure DebounceRun (D : Type) where
  manager : NetworkVariableManager D
  log : SendLog D

namespace DebounceRun

variable [Double D]

def step (s : DebounceRun D) : DebounceCall D → DebounceRun D
  | .setGlobal now name value =>
    match s.manager.setGlobal SendLog.callbacks now name value { s.log with now := now } with
    | (_, m, log) => ⟨m, log⟩
  | .setClient now target name value =>
    match s.manager.setClient SendLog.callbacks now target name value
      { s.log with now := now } with
    | (_, m, log) => ⟨m, log⟩
  | .tick now =>
    match s.manager.tick SendLog.callbacks now { s.log with now := now } with
    | (_, m, log) => ⟨m, log⟩
  | .handleGlobalSync message => { s with manager := (s.manager.handleGlobalSync message).1 }
  | .handleClientSync message => { s with manager := (s.manager.handleClientSync message).1 }

/-- A run of a manager whose send side is empty. -/
def start (m : NetworkVariableManager D) (answers : List Bool) (now : D) : DebounceRun D :=
  ⟨m.clearPendingSends, { answers := answers, now := now }⟩

/-- The clock does not go back. -/
def InOrder (s : DebounceRun D) (call : DebounceCall D) : Prop :=
  ∀ now, call.time = some now → Double.le s.log.now now = true

/-- Two accepted sends of one variable are at least an interval apart. -/
def Spaced (log : SendLog D) : Prop :=
  (∀ name, (log.times (.globalVariable name)).Pairwise fun t t' ↦
    Double.le (t + kDebounceInterval) t' = true) ∧
  ∀ key, (log.times (.clientVariable key)).Pairwise fun t t' ↦
    Double.le (t + kDebounceInterval) t' = true

/-- No write is accepted at the leading edge while a deadline of an earlier write is left. -/
def EdgesFresh (s : DebounceRun D) : DebounceCall D → Prop
  | .setGlobal now name value =>
    s.manager.admitsGlobal name value = true →
      s.manager.globalSide.atLeadingEdge now name value = true →
      s.log.answers.head? = some true → s.manager.globalSide.due[name]? = none
  | .setClient now target name value =>
    s.manager.admitsClient target name value = true →
      s.manager.clientSide.atLeadingEdge now ⟨target, name⟩ value = true →
      s.log.answers.head? = some true →
      s.manager.clientSide.due[(⟨target, name⟩ : ClientKey)]? = none
  | _ => True

/-- Every variable is cooling. -/
def Cooled (s : DebounceRun D) : Prop :=
  CoolingSide .globalVariable s.manager.globalSide s.log ∧
    CoolingSide .clientVariable s.manager.clientSide s.log

omit [Double D] in
theorem stamps_emitGlobal (m : NetworkVariableManager D) :
    Stamps .globalVariable (m.emitGlobal (SendLog.callbacks (D := D))) where
  injective _ _ h := ControlSlot.globalVariable.inj h
  sends name value := ⟨.globalVarSet (m.globalVarSetMessage name value), rfl, rfl⟩

omit [Double D] in
theorem stamps_emitClient (m : NetworkVariableManager D) :
    Stamps .clientVariable (m.emitClient (SendLog.callbacks (D := D))) where
  injective _ _ h := ControlSlot.clientVariable.inj h
  sends key value :=
    ⟨.clientVarSet key.clientNo (m.clientVarSetMessage key value), rfl, rfl⟩

variable [DoubleOrder D] {s : DebounceRun D}

theorem cooled_setGlobal {now : D} {name value : Bytes} (h : s.Cooled)
    (hle : Double.le s.log.now now = true) (hfresh : s.EdgesFresh (.setGlobal now name value)) :
    (s.step (.setGlobal now name value)).Cooled := by
  rcases hcall : s.manager.setGlobal SendLog.callbacks now name value { s.log with now := now } with
    ⟨ok, m, log⟩
  rw [step, hcall]
  obtain ⟨-, rfl, line, rfl⟩ | ⟨rfl, -, -, side, hwrite, rfl⟩ :=
    NetworkVariableManager.setGlobal_cases hcall
  · exact ⟨h.1.later hle, h.2.later hle⟩
  · have hstamps := stamps_emitGlobal s.manager
    have hadmits := NetworkVariableManager.admitsGlobal_of_setGlobal hcall
    obtain ⟨hnow, hother⟩ := (hstamps.sideRule { s.log with now := now }).write hwrite
      ⟨rfl, fun _ _ ↦ rfl⟩
    refine ⟨(h.1.later hle).write hstamps (DoubleOrder.le_self_right hle) (hfresh hadmits) hwrite,
      (h.2.later hle).congr hnow fun key ↦ hother _ (by simp)⟩

theorem cooled_setClient {now : D} {target : ℤ} {name value : Bytes} (h : s.Cooled)
    (hle : Double.le s.log.now now = true)
    (hfresh : s.EdgesFresh (.setClient now target name value)) :
    (s.step (.setClient now target name value)).Cooled := by
  rcases hcall : s.manager.setClient SendLog.callbacks now target name value
    { s.log with now := now } with ⟨ok, m, log⟩
  rw [step, hcall]
  obtain ⟨-, rfl | rfl, line, rfl⟩ | ⟨rfl, -, -, side, hwrite, rfl⟩ :=
    NetworkVariableManager.setClient_cases hcall
  · exact ⟨h.1.later hle, h.2.later hle⟩
  · exact ⟨h.1.later hle, h.2.later hle⟩
  · have hstamps := stamps_emitClient s.manager
    have hadmits := NetworkVariableManager.admitsClient_of_setClient hcall
    obtain ⟨hnow, hother⟩ := (hstamps.sideRule { s.log with now := now }).write hwrite
      ⟨rfl, fun _ _ ↦ rfl⟩
    refine ⟨(h.1.later hle).congr hnow fun name ↦ hother _ (by simp),
      (h.2.later hle).write hstamps (DoubleOrder.le_self_right hle) (hfresh hadmits) hwrite⟩

theorem cooled_tick {now : D} (h : s.Cooled) (hle : Double.le s.log.now now = true) :
    (s.step (.tick now)).Cooled := by
  rcases hcall : s.manager.tick SendLog.callbacks now { s.log with now := now } with ⟨ok, m, log⟩
  rw [step, hcall]
  obtain ⟨_, _, globalSide, clientSide, log₁, hglobal, hclient, rfl⟩ :=
    NetworkVariableManager.tick_cases hcall
  have hstampsGlobal := stamps_emitGlobal s.manager
  have hstampsClient := stamps_emitClient s.manager
  have hself := DoubleOrder.le_self_right hle
  -- the global flush, and what it leaves of the client variables
  obtain ⟨hnow₁, hother₁⟩ := (hstampsGlobal.sideRule { s.log with now := now }).flush hglobal
    ⟨rfl, fun _ _ ↦ rfl⟩
  have hcool₁ := (h.1.later hle).flush hstampsGlobal hself hglobal
  have hclient₁ := (h.2.later hle).congr hnow₁ fun key ↦ hother₁ _ (by simp)
  -- and the other way round
  replace hnow₁ : log₁.now = now := hnow₁
  rw [← hnow₁] at hclient hself
  obtain ⟨hnow₂, hother₂⟩ := (hstampsClient.sideRule log₁).flush hclient ⟨rfl, fun _ _ ↦ rfl⟩
  exact ⟨hcool₁.congr hnow₂ fun name ↦ hother₂ _ (by simp),
    hclient₁.flush hstampsClient hself hclient⟩

/-- **Every call keeps every variable cooling.** -/
theorem cooled_step {call : DebounceCall D} (h : s.Cooled) (horder : s.InOrder call)
    (hfresh : s.EdgesFresh call) : (s.step call).Cooled := by
  cases call with
  | setGlobal now name value => exact cooled_setGlobal h (horder now rfl) hfresh
  | setClient now target name value => exact cooled_setClient h (horder now rfl) hfresh
  | tick now => exact cooled_tick h (horder now rfl)
  | handleGlobalSync message =>
    obtain ⟨hease, hclient⟩ :=
      NetworkVariableManager.eases_handleGlobalSync message s.manager
    refine ⟨h.1.ease hease, ?_⟩
    show CoolingSide _ (s.manager.handleGlobalSync message).1.clientSide s.log
    rw [hclient]
    exact h.2
  | handleClientSync message =>
    obtain ⟨hease, hglobal⟩ :=
      NetworkVariableManager.eases_handleClientSync message s.manager
    refine ⟨?_, h.2.ease hease⟩
    show CoolingSide _ (s.manager.handleClientSync message).1.globalSide s.log
    rw [hglobal]
    exact h.1

/-- **Debounce spacing.** In every run whose clock does not go back and in which no write is
accepted at the leading edge while a deadline of an earlier write is left, any two accepted sends of
one variable are at least an interval apart. -/
theorem spaced_of_edgesFresh (m : NetworkVariableManager D) (answers : List Bool) (now : D)
    (calls : List (DebounceCall D))
    (h : Along step (fun s call ↦ s.InOrder call ∧ s.EdgesFresh call) (start m answers now)
      calls) : Spaced (calls.foldl step (start m answers now)).log := by
  have hstart : (start m answers now).Cooled :=
    ⟨fun _ ↦ Cooling.nil _ _ _ _, fun _ ↦ Cooling.nil _ _ _ _⟩
  have hcooled : (calls.foldl step (start m answers now)).Cooled :=
    h.invariant (I := Cooled) (fun s call hs hcond ↦ cooled_step hs hcond.1 hcond.2) hstart
  exact ⟨fun name ↦ (hcooled.1 name).spaced, fun key ↦ (hcooled.2 key).spaced⟩

/-- A manager that has not sent anything. -/
def idleManager : NetworkVariableManager ℚ := { connectionEstablishedAt := 0 }

/-- A value that comes inside the cooldown waits for the end of it. -/
def trailingWrite : List (DebounceCall ℚ) :=
  [.setGlobal 0 [110] [49], .setGlobal (1 / 20) [110] [50], .tick (1 / 10)]

theorem spaced_trailingWrite :
    (trailingWrite.foldl step (start idleManager [true, true] 0)).log.times
        (.globalVariable [110]) = [0, 1 / 10] ∧
      Spaced (trailingWrite.foldl step (start idleManager [true, true] 0)).log := by
  refine ⟨by decide +kernel, spaced_of_edgesFresh idleManager [true, true] 0 trailingWrite ?_⟩
  refine ⟨⟨fun now hnow ↦ ?_, fun _ _ _ ↦ by decide +kernel⟩,
    ⟨fun now hnow ↦ ?_, fun _ hedge ↦ absurd hedge (by decide +kernel)⟩,
    ⟨fun now hnow ↦ ?_, trivial⟩, trivial⟩
  · obtain rfl := Option.some.inj hnow
    decide +kernel
  · obtain rfl := Option.some.inj hnow
    decide +kernel
  · obtain rfl := Option.some.inj hnow
    decide +kernel

/-- The second write is sent at once, and the deadline of the first is still there. -/
def staleDeadline : List (DebounceCall ℚ) :=
  [.setGlobal 0 [110] [49], .setGlobal (1 / 10) [110] [50], .setGlobal (3 / 20) [110] [51],
    .tick (3 / 20)]

/-- The third value is flushed half an interval after the second. -/
theorem flushed_too_early :
    Along step (fun s call ↦ s.InOrder call) (start idleManager [true, true, true] 0)
        staleDeadline ∧
      (staleDeadline.foldl step (start idleManager [true, true, true] 0)).log.times
        (.globalVariable [110]) = [0, 1 / 10, 3 / 20] ∧
      ¬Spaced (staleDeadline.foldl step (start idleManager [true, true, true] 0)).log := by
  refine ⟨⟨fun now hnow ↦ ?_, fun now hnow ↦ ?_, fun now hnow ↦ ?_, fun now hnow ↦ ?_, trivial⟩,
    by decide +kernel, fun hspaced ↦ ?_⟩
  · obtain rfl := Option.some.inj hnow
    decide +kernel
  · obtain rfl := Option.some.inj hnow
    decide +kernel
  · obtain rfl := Option.some.inj hnow
    decide +kernel
  · obtain rfl := Option.some.inj hnow
    decide +kernel
  · exact absurd (hspaced.1 [110]) (by decide +kernel)

end DebounceRun

end StylyNetSync
