import StylyNetSync.Core.SessionRule

/-!
# What the client relies on the outbox to keep

The client records a value as sent, and its hello as enqueued, when the outbox accepts the packet.
From then on it neither repeats the hello nor sends an equal value again. The outbox, however, drops
a packet that is still there after five seconds, and nobody is told.

What the client relies on is the newest packet of each slot: the last hello, and the last packet of
each variable. These are kept or sent as long as no drain round finds one of them too old.

The dedupe cache of a client variable is also written by snapshots. `recordedBySend` tells the two
apart: it holds if no snapshot has the variable, or a packet was accepted since.
-/

namespace StylyNetSync

variable {D : Type}

/-- The value of a variable that a message carries. -/
def ControlMessage.value : ControlMessage → Option Bytes
  | globalVarSet message => some message.variableValue
  | clientVarSet _ message => some message.variableValue
  | _ => none

namespace Shared

/-- The newest packet of a slot, with its place in the ledger. -/
def current (x : ControlSlot) (w : Shared D) : Option (ℕ × OutboundPacket ControlMessage D) :=
  w.transport.ledger.current packetSlot x

/-- The newest packet of a slot, which is one with this property, is held back or in the outbox, or
was handed to the socket. -/
def HeldOrSent (x : ControlSlot) (p : ControlMessage → Prop) (w : Shared D) : Prop :=
  ∃ i packet, w.current x = some (i, packet) ∧ packet.payload.slot = some x ∧ p packet.payload ∧
    (w.transport.ledger.fates[i]? = some .sent ∨
      w.transport.ledger.fates[i]? = none ∧
        (w.transport.pendingControl = some packet ∨ packet ∈ w.transport.controlOutbox))

/-- The ledger is true, a transport that does not run holds nothing, and unless a drain round found
the newest packet of a slot too old, these are kept or sent. -/
structure Kept (w : Shared D) : Prop where
  accounted : w.transport.Accounted
  stopped : w.transport.running = false →
    w.transport.pendingControl.toList ++ w.transport.controlOutbox = []
  retains : w.lostNewest = false → w.transport.ledger.Retains packetSlot

variable [Double D]

theorem kept_drainStep {w : Shared D} (h : w.Kept) (result : SendResult) (reason : String) :
    (w.step (.drainStep result reason)).Kept := by
  rcases hstep : w.transport.drainStep result with ⟨outcome, t⟩
  have haccounted := ZmqTransport.accounted_drainStep h.accounted result
  have hrunning := ZmqTransport.running_drainStep w.transport result
  rw [hstep] at haccounted hrunning
  have hstopped : t.running = false → t.pendingControl.toList ++ t.controlOutbox = [] := by
    intro hfalse
    -- there was nothing to settle
    have hline := h.stopped (hrunning ▸ hfalse)
    rcases ZmqTransport.drainStep_cases hstep with
      ⟨-, -, -, hsame⟩ | ⟨fate, packet, -, -, hhead⟩
    · rw [hsame, hline]
    · rw [hline] at hhead
      simp at hhead
  have hretains : (w.lostNewest ||
      (w.transport.headOverdue && w.transport.ledger.nextIsNewest packetSlot)) = false →
      t.ledger.Retains packetSlot := by
    intro hkept
    obtain ⟨hbefore, hnow⟩ := Bool.or_eq_false_iff.mp hkept
    rcases ZmqTransport.drainStep_cases hstep with
      ⟨-, -, hledger, -⟩ | ⟨fate, packet, hfate, hledger, -⟩
    · rw [hledger]
      exact h.retains hbefore
    · rw [hledger]
      refine (h.retains hbefore).settle fun hnotSent ↦ ?_
      rcases hfate with ⟨rfl, -⟩ | ⟨-, rfl⟩
      · -- too old, so it was not the newest of its slot
        rw [ZmqTransport.headOverdue_of_expired hstep, Bool.true_and] at hnow
        exact hnow
      · exact (hnotSent rfl).elim
  rw [step, hstep]
  cases outcome <;> exact ⟨haccounted, hstopped, hretains⟩

theorem stable_kept : Stable (D := D) (fun _ ↦ True) Kept where
  step n h := by
    cases n with
    | drainStep result reason => exact kept_drainStep h result reason
    | drainBegin =>
      rw [step, ZmqTransport.drainBegin]
      split <;> exact ⟨⟨h.accounted.sound, h.accounted.outstanding⟩, h.stopped, h.retains⟩
    | clearSentTransform payload =>
      rw [step, ZmqTransport.clearSentTransform]
      split <;> exact ⟨⟨h.accounted.sound, h.accounted.outstanding⟩, h.stopped, h.retains⟩
    | clearSentObjectTransform objectId payload =>
      rw [step, ZmqTransport.clearSentObjectTransform]
      split <;> exact ⟨⟨h.accounted.sound, h.accounted.outstanding⟩, h.stopped, h.retains⟩
    | _ => exact ⟨⟨h.accounted.sound, h.accounted.outstanding⟩, h.stopped, h.retains⟩
  schedule _ h := ⟨h.accounted, h.stopped, h.retains⟩
  discovering _ h := ⟨h.accounted, h.stopped, h.retains⟩
  inbox _ _ h := ⟨h.accounted, h.stopped, h.retains⟩
  transport t ht h := by
    refine ⟨⟨?_, ?_⟩, fun hfalse ↦ ?_, fun hkept ↦ ?_⟩
    · exact ht.ledger ▸ h.accounted.sound
    · rw [ht.ledger, ht.pendingControl, ht.controlOutbox]
      exact h.accounted.outstanding
    · rw [ht.pendingControl, ht.controlOutbox]
      refine h.stopped ?_
      by_contra hrunning
      rw [ht.running (by simpa using hrunning)] at hfalse
      simp at hfalse
    · show t.ledger.Retains packetSlot
      rw [ht.ledger]
      exact h.retains hkept
  accept {w} message t _ hrunning hpush h := by
    have haccounted := ZmqTransport.accounted_pushControl h.accounted message w.clock
    rw [hpush] at haccounted
    rw [ZmqTransport.pushControl_accepted hpush] at haccounted ⊢
    refine ⟨haccounted, fun hfalse ↦ ?_, fun hkept ↦ (h.retains hkept).accept h.accounted.sound _⟩
    rw [hrunning] at hfalse
    simp at hfalse

/-- What is current for a slot changes only when a message of that slot is accepted. -/
theorem stable_current (x : ControlSlot) (a : Option (ℕ × OutboundPacket ControlMessage D)) :
    Stable (D := D) (fun message ↦ message.slot ≠ some x) fun w ↦ w.current x = a where
  step n h := (Ledger.current_congr (Shared.step_keeps _ n).1 x).trans h
  schedule _ h := h
  discovering _ h := h
  inbox _ _ h := h
  transport _ ht h := (Ledger.current_congr (congrArg Ledger.entries ht.ledger) x).trans h
  accept message t hslot _ hpush h := by
    rw [ZmqTransport.pushControl_accepted hpush]
    refine Eq.trans ?_ h
    show (Ledger.accept _ _).current packetSlot x = _
    rw [Ledger.current_accept, if_neg (show packetSlot ⟨message, _⟩ ≠ some x from hslot)]
    rfl

/-- An accepted message becomes current for its slot. -/
theorem current_tryEnqueueControl {w w' : Shared D} {message : ControlMessage}
    (h : w.tryEnqueueControl message = (true, w')) (x : ControlSlot) :
    w'.current x =
      if message.slot = some x then
        some (w.transport.ledger.entries.length, ⟨message, w.yield.yield.clock⟩)
      else w.current x := by
  obtain ⟨-, t, hpush, rfl⟩ := tryEnqueueControl_accepted h
  have hentries : w.yield.yield.transport.ledger.entries = w.transport.ledger.entries :=
    (Stable.stable_entries _).yield ((Stable.stable_entries _).yield rfl)
  rw [ZmqTransport.pushControl_accepted hpush, current, Ledger.current_accept, hentries]
  show (if message.slot = some x then _ else _) = _
  split
  · rfl
  · exact Ledger.current_congr hentries x

end Shared

/-! ### Records and current packets -/

/-- The current packet carries this value. -/
def Says (value : Bytes) (current : Option (ℕ × OutboundPacket ControlMessage D)) : Prop :=
  ∃ entry ∈ current, entry.2.payload.value = some value

/-- The record of a variable was last written by an accepted send: no snapshot told the variable, or
the current packet was accepted since. -/
def RecordedBySend (told : Option ℕ) (current : Option (ℕ × OutboundPacket ControlMessage D)) :
    Prop :=
  ∀ t ∈ told, ∃ entry ∈ current, t ≤ entry.1

/-- What is recorded as sent is what the current packet of the variable says. -/
structure Linked (told : ClientKey → Option ℕ) (g : SendSide Bytes D) (c : SendSide ClientKey D)
    (w : Shared D) : Prop where
  globals : ∀ (name : Bytes) (value : Bytes), g.lastSent[name]? = some value →
    Says value (w.current (.globalVariable name))
  clients : ∀ (key : ClientKey) (value : Bytes), c.lastSent[key]? = some value →
    RecordedBySend (told key) (w.current (.clientVariable key)) →
      Says value (w.current (.clientVariable key))

section Linked

variable {told : ClientKey → Option ℕ} {g : SendSide Bytes D} {c : SendSide ClientKey D}
  {w w' : Shared D}

theorem Linked.congr (h : Linked told g c w) (hcurrent : ∀ x, w'.current x = w.current x) :
    Linked told g c w' := by
  refine ⟨fun name value hsent ↦ ?_, fun key value hsent hrecorded ↦ ?_⟩
  · rw [hcurrent]
    exact h.globals name value hsent
  · rw [hcurrent] at hrecorded ⊢
    exact h.clients key value hsent hrecorded

variable [Double D]

theorem linked_global (h : Linked told g c w) {message : GlobalVarSetMessage}
    (hsend : w.tryEnqueueControl (.globalVarSet message) = (true, w')) :
    Linked told (g.recordSent message.variableName message.variableValue) c w' := by
  have hcurrent := Shared.current_tryEnqueueControl hsend
  refine ⟨fun name value hsent ↦ ?_, fun key value hsent hrecorded ↦ ?_⟩
  · rw [SendSide.lastSent_recordSent] at hsent
    rw [hcurrent]
    split at hsent
    · next hname =>
      obtain rfl := Option.some.inj hsent
      rw [if_pos (by rw [ControlMessage.slot, hname])]
      exact ⟨_, rfl, rfl⟩
    · next hname =>
      rw [if_neg (by simpa [ControlMessage.slot] using hname)]
      exact h.globals name value hsent
  · rw [hcurrent, if_neg (by simp [ControlMessage.slot])] at hrecorded ⊢
    exact h.clients key value hsent hrecorded

theorem linked_client (h : Linked told g c w) {target : ℤ} {message : ClientVarSetMessage}
    (hsend : w.tryEnqueueControl (.clientVarSet target message) = (true, w')) :
    Linked told g (c.recordSent ⟨target, message.variableName⟩ message.variableValue) w' := by
  have hcurrent := Shared.current_tryEnqueueControl hsend
  refine ⟨fun name value hsent ↦ ?_, fun key value hsent hrecorded ↦ ?_⟩
  · rw [hcurrent, if_neg (by simp [ControlMessage.slot])]
    exact h.globals name value hsent
  · rw [SendSide.lastSent_recordSent] at hsent
    split at hsent
    · next hkey =>
      obtain rfl := Option.some.inj hsent
      rw [hcurrent, if_pos (by rw [ControlMessage.slot, hkey])]
      exact ⟨_, rfl, rfl⟩
    · next hkey =>
      have hother :
          (ControlMessage.clientVarSet target message).slot ≠ some (.clientVariable key) := by
        simpa [ControlMessage.slot] using hkey
      rw [hcurrent, if_neg hother] at hrecorded ⊢
      exact h.clients key value hsent hrecorded

/-- **The manager records what it sends.** -/
theorem variableRule_linked (told : ClientKey → Option ℕ) :
    VariableRule (D := D) Shared.callbacks (Linked told) where
  forget hg hc h :=
    ⟨fun name value hsent ↦ h.globals name value (hg name value hsent),
      fun key value hsent ↦ h.clients key value (hc key value hsent)⟩
  log line h := h.congr fun x ↦ (Shared.stable_current x _).steady.pushLog line rfl
  refused _ hsend h :=
    h.congr fun x ↦ (Shared.stable_current x _).steady.tryEnqueueControl hsend (by simp) rfl
  global _ hsend h := linked_global h hsend
  client _ _ hsend h := linked_client h hsend
  clear _ hsend h := h.congr fun x ↦ by
    rw [Shared.current_tryEnqueueControl hsend, if_neg (by simp [ControlMessage.slot])]

/-- The manager says no hello. -/
theorem variableRule_current_hello (a : Option (ℕ × OutboundPacket ControlMessage D)) :
    VariableRule (D := D) Shared.callbacks fun _ _ w ↦ w.current .hello = a where
  forget _ _ h := h
  log line h := (Shared.stable_current .hello a).steady.pushLog line h
  refused _ hsend h := (Shared.stable_current .hello a).steady.tryEnqueueControl hsend (by simp) h
  global _ hsend h :=
    (Shared.stable_current .hello a).steady.tryEnqueueControl hsend
      (by simp [ControlMessage.slot]) h
  client _ _ hsend h :=
    (Shared.stable_current .hello a).steady.tryEnqueueControl hsend
      (by simp [ControlMessage.slot]) h
  clear _ hsend h :=
    (Shared.stable_current .hello a).steady.tryEnqueueControl hsend
      (by simp [ControlMessage.slot]) h

end Linked

/-! ### Sessions -/

namespace Session

/-- What the client relies on is what the outbox has. -/
structure Relies (s : Session D) : Prop where
  kept : s.shared.Kept
  hello : s.client.helloEnqueued = true →
    ∃ entry ∈ s.shared.current .hello, entry.2.payload = s.client.helloMessage
  linked : Linked s.told s.client.networkVariables.globalSide s.client.networkVariables.clientSide
    s.shared

/-- A client that has recorded nothing relies on nothing. -/
theorem relies_of_blank {s : Session D} (hkept : s.shared.Kept)
    (hhello : s.client.helloEnqueued = false)
    (hglobal : s.client.networkVariables.globalSide.lastSent = ∅)
    (hclient : s.client.networkVariables.clientSide.lastSent = ∅) : Relies s := by
  refine ⟨hkept, fun htrue ↦ ?_, ⟨fun name value hsent ↦ ?_, fun key value hsent ↦ ?_⟩⟩
  · rw [hhello] at htrue
    simp at htrue
  · rw [hglobal] at hsent
    simp at hsent
  · rw [hclient] at hsent
    simp at hsent

/-- The current packet of a slot is held or was sent, unless a drain round found one too old. -/
theorem Relies.heldOrSent {s : Session D} (h : Relies s) (hlost : s.shared.lostNewest = false)
    {x : ControlSlot} {p : ControlMessage → Prop}
    (hcurrent : ∃ entry ∈ s.shared.current x, p entry.2.payload) : s.shared.HeldOrSent x p := by
  obtain ⟨⟨i, packet⟩, hentry, hp⟩ := hcurrent
  obtain ⟨-, -, hslot⟩ := Ledger.current_eq_some hentry
  refine ⟨i, packet, hentry, hslot, hp, ?_⟩
  -- outstanding means held: at the head of the line, or in the outbox behind it
  refine ((h.kept.retains hlost).current hentry).imp id fun ⟨hfate, hmem⟩ ↦ ⟨hfate, ?_⟩
  rw [h.kept.accounted.outstanding, List.mem_append, Option.mem_toList] at hmem
  exact hmem

/-- A snapshot that has a variable makes itself the source of its record. -/
theorem Relies.clientSync {s : Session D} (h : Relies s) (message : ClientVarSyncMessage) :
    Relies (s.processClientVarSync message) := by
  have hglobal : (s.client.networkVariables.handleClientSync message).1.globalSide =
      s.client.networkVariables.globalSide :=
    NetworkVariableManager.handleClientSync_induct
      (P := fun m ↦ m.globalSide = s.client.networkVariables.globalSide)
      (fun _ _ _ _ hm ↦ hm) rfl
  refine ⟨h.kept, h.hello, ⟨fun name value hsent ↦ ?_, fun key value hsent hrecorded ↦ ?_⟩⟩
  · refine h.linked.globals name value ?_
    rw [← hglobal]
    exact hsent
  · change RecordedBySend (if tellsVariable message key then
      some s.shared.transport.ledger.entries.length else s.told key) _ at hrecorded
    split at hrecorded
    · -- no packet is newer than the snapshot
      obtain ⟨⟨i, packet⟩, hcurrent, hle⟩ := hrecorded _ rfl
      obtain ⟨-, hentry, -⟩ := Ledger.current_eq_some hcurrent
      have hlt := (List.getElem?_eq_some_iff.mp hentry).1
      exact (Nat.not_lt.mpr hle hlt).elim
    · next hnotTold =>
      refine h.linked.clients key value ?_ hrecorded
      refine NetworkVariableManager.lastSent_handleClientSync (fun block hblock hno hmem ↦ ?_) hsent
      refine hnotTold ?_
      rw [tellsVariable, List.any_eq_true]
      exact ⟨block, hblock, by simpa [hno] using hmem⟩

section Rule

variable [Double D] {s s' : Session D}

theorem Relies.moves (h : Relies s) (hmoves : Moves unslotted s s') : Relies s' := by
  have hcurrent (x : ControlSlot) : s'.shared.current x = s.shared.current x := by
    have hother : Moves (fun message ↦ message.slot ≠ some x) s s' := by
      refine hmoves.mono fun message hmessage ↦ ?_
      rw [unslotted] at hmessage
      simp [hmessage]
    exact hother.shared (Shared.stable_current x _).steady rfl
  refine ⟨(hmoves.mono fun _ _ ↦ trivial).shared Shared.stable_kept.steady h.kept,
    fun henqueued ↦ ?_, ?_⟩
  · rw [hcurrent, hmoves.hello]
    exact h.hello (hmoves.helloEnqueued henqueued)
  · rw [hmoves.told, hmoves.networkVariables]
    exact h.linked.congr hcurrent

theorem Relies.shifts (h : Relies s) {w : Shared D} (hshifts : s.shared.Shifts w) :
    Relies { s with shared := w } := by
  have hcurrent (x : ControlSlot) : w.current x = s.shared.current x :=
    hshifts (Shared.stable_current x _) rfl
  refine ⟨hshifts Shared.stable_kept h.kept, fun henqueued ↦ ?_, h.linked.congr hcurrent⟩
  rw [hcurrent]
  exact h.hello henqueued

theorem Relies.writes (h : Relies s) (hwrites : Writes s s') : Relies s' := by
  have hkept : s'.shared.Kept :=
    (rule_of_stable Shared.stable_kept).writes hwrites h.kept
  have hhello : s'.shared.current .hello = s.shared.current .hello :=
    hwrites.sides (variableRule_current_hello _) rfl
  refine ⟨hkept, fun henqueued ↦ ?_, ?_⟩
  · rw [hhello, hwrites.hello]
    rw [hwrites.helloEnqueued] at henqueued
    exact h.hello henqueued
  · rw [hwrites.told]
    exact hwrites.sides (variableRule_linked s.told) h.linked

theorem rule_relies : Rule (D := D) Relies where
  moves hmoves h := h.moves hmoves
  shifts hshifts h := h.shifts hshifts
  writes hwrites h := h.writes hwrites
  hello {s w} hsend h := by
    have hcurrent := Shared.current_tryEnqueueControl hsend
    refine ⟨Shared.stable_kept.steady.tryEnqueueControl hsend (by simp) h.kept, fun _ ↦ ?_, ?_⟩
    · rw [hcurrent, if_pos (by simp [NetSyncClient.helloMessage, ControlMessage.slot])]
      exact ⟨_, rfl, rfl⟩
    · refine ⟨fun name value hsent ↦ ?_, fun key value hsent hrecorded ↦ ?_⟩
      · rw [hcurrent, if_neg (by simp [NetSyncClient.helloMessage, ControlMessage.slot])]
        exact h.linked.globals name value hsent
      · rw [hcurrent, if_neg (by simp [NetSyncClient.helloMessage, ControlMessage.slot])]
          at hrecorded ⊢
        exact h.linked.clients key value hsent hrecorded
  clientSync message h := h.clientSync message

end Rule

/-! ### The life of a client -/

section Life

variable [Double D]

/-- Nothing is left of the old session once the transport was stopped. -/
theorem kept_stopTransport {w : Shared D} (h : w.Kept) :
    w.stopDiscovery.stopTransport.clearInbox.Kept := by
  have hbefore : w.stopDiscovery.yield.Kept :=
    Shared.stable_kept.yield (Shared.stable_kept.discovering false (Shared.stable_kept.yield h))
  have hline : (w.stopDiscovery.stopTransport.transport.pendingControl.toList ++
      w.stopDiscovery.stopTransport.transport.controlOutbox) = [] := by
    show (w.stopDiscovery.yield.transport.stop.pendingControl.toList ++
      w.stopDiscovery.yield.transport.stop.controlOutbox) = []
    rw [ZmqTransport.stop]
    cases hrunning : w.stopDiscovery.yield.transport.running with
    | true => rfl
    | false => exact hbefore.stopped hrunning
  have hstopped : w.stopDiscovery.stopTransport.Kept :=
    ⟨⟨Nat.le_refl 0, hline.symm⟩, fun _ ↦ hline, fun _ ↦ Ledger.retains_empty⟩
  -- the observation starts anew, over a ledger without entries
  have hempty : w.stopDiscovery.stopTransport.yield.transport.ledger.entries = [] :=
    (Shared.Stable.stable_entries []).yield rfl
  have hafter := Shared.stable_kept.yield hstopped
  refine ⟨hafter.accounted, hafter.stopped, fun _ x i hnewest ↦ ?_⟩
  obtain ⟨packet, hentry, -⟩ := Ledger.newest_eq_some hnewest
  change w.stopDiscovery.stopTransport.yield.transport.ledger.entries[i]? = some packet at hentry
  rw [hempty] at hentry
  simp at hentry

theorem relies_new (clock : D) : Relies (Session.new clock) :=
  relies_of_blank ⟨⟨Nat.le_refl 0, rfl⟩, fun _ ↦ rfl, fun _ ↦ Ledger.retains_empty⟩ rfl rfl rfl

theorem Relies.connect {s : Session D} (h : Relies s) (config : ClientConfig D) :
    Relies (s.connect config).2 := by
  have hbegin : Relies (s.beginSession config) :=
    relies_of_blank (kept_stopTransport h.kept) rfl rfl rfl
  rcases hconnect : s.connect config with ⟨ok, s'⟩
  rcases connect_cases hconnect with ⟨-, rfl⟩ | hmoves
  · exact h
  · exact hbegin.moves hmoves

theorem Relies.disconnect {s : Session D} (h : Relies s) : Relies s.disconnect :=
  relies_of_blank (kept_stopTransport h.kept) rfl rfl rfl

end Life

variable [DoubleTrig D] [DoubleText D]

theorem relies_live (decode : Bytes → Option (List Bytes)) {s : Session D} (h : Relies s)
    (e : LifeStep D) : Relies (s.live decode e) := by
  cases e with
  | connect config schedule =>
    refine Relies.connect ?_ config
    exact h.shifts (s.shared.shifts_schedule schedule)
  | disconnect schedule =>
    refine Relies.disconnect ?_
    exact h.shifts (s.shared.shifts_schedule schedule)
  | session e => exact rule_relies.step decode e h

/-- **Nothing relied on is lost.** In every state of the life of a client: if no drain round of the
session found the newest packet of a slot too old, then the hello that was enqueued and the packet
of every value that is recorded as sent are held by the transport or were handed to the socket. -/
theorem relied_on_heldOrSent (decode : Bytes → Option (List Bytes)) (clock : D)
    (steps : List (LifeStep D)) {s : Session D}
    (hrun : steps.foldl (live decode) (Session.new clock) = s)
    (hlost : s.shared.lostNewest = false) :
    (s.client.helloEnqueued = true →
      s.shared.HeldOrSent .hello fun message ↦ message = s.client.helloMessage) ∧
    (∀ name value : Bytes, s.client.networkVariables.globalSide.lastSent[name]? = some value →
      s.shared.HeldOrSent (.globalVariable name) fun message ↦ message.value = some value) ∧
    (∀ (key : ClientKey) (value : Bytes),
      s.client.networkVariables.clientSide.lastSent[key]? = some value →
      RecordedBySend (s.told key) (s.shared.current (.clientVariable key)) →
        s.shared.HeldOrSent (.clientVariable key) fun message ↦ message.value = some value) := by
  have hrelies : Relies s := by
    rw [← hrun]
    exact List.foldlRecOn (motive := Relies) steps (live decode) (relies_new clock)
      fun _ hs e _ ↦ relies_live decode hs e
  refine ⟨fun henqueued ↦ ?_, fun name value hsent ↦ ?_, fun key value hsent hrecorded ↦ ?_⟩
  · exact hrelies.heldOrSent hlost (hrelies.hello henqueued)
  · exact hrelies.heldOrSent hlost (hrelies.linked.globals name value hsent)
  · exact hrelies.heldOrSent hlost (hrelies.linked.clients key value hsent hrecorded)

/-! ### Two lives -/

/-- A client says hello and writes a global and a client variable. -/
def helloAndWrites : List (LifeStep ℚ) :=
  [.connect
      { serverAddress := [49], roomId := [114], deviceId := [100], transformSendRate := 10 } [],
    .session (.network (.notify .connected)), .session (.call (.poll 0) []),
    .session (.call (.setGlobalVariable [104] [57]) []),
    .session (.call (.setClientVariableFor 3 [110] [49]) [])]

/-- The network thread sends the hello and is then held up. -/
def sendsHello : List (LifeStep ℚ) :=
  [.session (.network .drainBegin), .session (.network (.drainStep .sent "")),
    .session (.network (.drainStep .wouldBlock ""))]

/-- The network thread is held up for six seconds. -/
def sendsTooLate : List (LifeStep ℚ) :=
  [.session (.network .drainBegin), .session (.network (.drainStep .wouldBlock "")),
    .session (.network (.time 6)), .session (.network .drainBegin),
    .session (.network (.drainStep .sent "")), .session (.network (.drainStep .sent "")),
    .session (.network (.drainStep .sent ""))]

/-- The session at the end of a life that started at time zero. -/
def lived (steps : List (LifeStep ℚ)) : Session ℚ :=
  steps.foldl (live fun _ ↦ none) (Session.new 0)

theorem relied_on_heldOrSent_in_time :
    (lived (helloAndWrites ++ sendsHello)).shared.HeldOrSent .hello
        (fun message ↦ message = .clientHello [100] false) ∧
      (lived (helloAndWrites ++ sendsHello)).shared.HeldOrSent (.globalVariable [104])
        (fun message ↦ message.value = some [57]) ∧
      (lived (helloAndWrites ++ sendsHello)).shared.HeldOrSent (.clientVariable ⟨3, [110]⟩)
        (fun message ↦ message.value = some [49]) := by
  obtain ⟨hhello, hglobals, hclients⟩ :=
    relied_on_heldOrSent (fun _ ↦ none) (0 : ℚ) (helloAndWrites ++ sendsHello)
      (s := lived (helloAndWrites ++ sendsHello)) rfl (by decide +kernel)
  have hmessage : (lived (helloAndWrites ++ sendsHello)).client.helloMessage =
      .clientHello [100] false := by
    decide +kernel
  have htold : (lived (helloAndWrites ++ sendsHello)).told ⟨3, [110]⟩ = none := by decide +kernel
  rw [hmessage] at hhello
  refine ⟨hhello (by decide +kernel), hglobals [104] [57] (by decide +kernel),
    hclients ⟨3, [110]⟩ [49] (by decide +kernel) fun t ht ↦ ?_⟩
  rw [htold] at ht
  simp at ht

/-- All three packets expire. The client will neither repeat its hello nor write the same values
again. -/
theorem relied_on_expired :
    let s := lived (helloAndWrites ++ sendsTooLate)
    (s.client.helloEnqueued = true ∧
      s.client.networkVariables.globalSide.lastSent[([104] : Bytes)]? = some [57] ∧
      s.client.networkVariables.clientSide.lastSent[(⟨3, [110]⟩ : ClientKey)]? = some [49] ∧
      s.told ⟨3, [110]⟩ = none) ∧
    ∀ x p, ¬ s.shared.HeldOrSent x p := by
  intro s
  have hrecords : s.client.helloEnqueued = true ∧
      s.client.networkVariables.globalSide.lastSent[([104] : Bytes)]? = some [57] ∧
      s.client.networkVariables.clientSide.lastSent[(⟨3, [110]⟩ : ClientKey)]? = some [49] ∧
      s.told ⟨3, [110]⟩ = none := by
    decide +kernel
  have hfates : s.shared.transport.ledger.fates = [.expired, .expired, .expired] := by
    decide +kernel
  have hpending : s.shared.transport.pendingControl.isNone = true := by decide +kernel
  have houtbox : s.shared.transport.controlOutbox.isEmpty = true := by decide +kernel
  refine ⟨hrecords, fun x p hheld ↦ ?_⟩
  obtain ⟨i, packet, -, -, -, hsent | ⟨-, hpacket | hpacket⟩⟩ := hheld
  · rw [hfates] at hsent
    have hmem := List.mem_of_getElem? hsent
    simp at hmem
  · rw [hpacket] at hpending
    simp at hpending
  · rw [List.isEmpty_iff.mp houtbox] at hpacket
    simp at hpacket

end Session

end StylyNetSync
