import StylyNetSync.Transport.ZmqTransport

/-!
# The control outbox keeps account of every packet

`try_enqueue_control`, whole rounds of `drain_control_sends` and `clear_outgoing`, in any order and
with any answers of the socket. A packet that was accepted waits in the outbox, then at the head of
the line, where it stays while the socket would block and from where it is handed over or, too old,
dropped. `OutboxRun` records what callers and the socket see; that each accepted packet is in
exactly one place is `outbox_exact`, and it rests on two facts: packets leave at the front of the
line only, and a round settles a stretch of the line, packet by packet.

The age of a packet is measured at the beginning of a round. That the clock does not go backwards is
not used.
-/

namespace StylyNetSync

namespace ZmqTransport

variable {P D : Type}

/-- The packets that wait: the one held back, then the outbox. -/
def line (t : ZmqTransport P D) : List (OutboundPacket P D) :=
  t.pendingControl.toList ++ t.controlOutbox

/-- `try_enqueue_control` as one step. -/
def tryEnqueueControl (payload : P) (now : D) (t : ZmqTransport P D) : Bool × ZmqTransport P D :=
  if t.usable then t.pushControl payload now else (false, t)

/-- The loop of `drain_control_sends`, and the packets it settled. `answer n` is what the socket
says when it is asked for the `n`th time; an expired packet is dropped without asking. -/
def drainLoop [Double D] (answer : ℕ → SendResult) :
    ℕ → ℕ → ZmqTransport P D → List (OutboundPacket P D × Fate) × ZmqTransport P D
  | 0, _, t => ([], t)
  | fuel + 1, asked, t =>
    let front := t.line.take 1
    match t.drainStep (answer asked) with
    | (.expired, t) =>
      match drainLoop answer fuel asked t with
      | (done, t) => (front.map (·, .expired) ++ done, t)
    | (.sent, t) =>
      match drainLoop answer fuel (asked + 1) t with
      | (done, t) => (front.map (·, .sent) ++ done, t)
    | (_, t) => ([], t)

/-- A round of `drain_control_sends`. Every iteration but the last settles a packet, so there are no
more iterations than packets and one. -/
def drainControlSends [Double D] (now : D) (answer : ℕ → SendResult) (t : ZmqTransport P D) :
    List (OutboundPacket P D × Fate) × ZmqTransport P D :=
  drainLoop answer (t.line.length + 1) 0 (t.drainBegin now)

/-! ### One iteration -/

/-- What a round does to the line and the counters, whether it ends here or goes on. -/
structure Drained [Double D] (now : D) (t : ZmqTransport P D)
    (done : List (OutboundPacket P D × Fate)) (t' : ZmqTransport P D) : Prop where
  line : t.line = done.map Prod.fst ++ t'.line
  ledger : t'.ledger = { t.ledger with fates := t.ledger.fates ++ done.map Prod.snd }
  outbox : t'.controlOutbox.length ≤ t.controlOutbox.length
  overdue : ∀ entry ∈ done, entry.2 = .expired →
    Double.lt kControlTtlSeconds (now - entry.1.enqueuedAt) = true
  settled : ∀ entry ∈ done, entry.2 ≠ .removed
  counted : t'.controlDroppedExpired =
    t.controlDroppedExpired + (done.filter fun entry ↦ entry.2 = .expired).length

theorem Drained.trans [Double D] {now : D} {t t₁ t₂ : ZmqTransport P D}
    {done₁ done₂ : List (OutboundPacket P D × Fate)} (h₁ : Drained now t done₁ t₁)
    (h₂ : Drained now t₁ done₂ t₂) : Drained now t (done₁ ++ done₂) t₂ where
  line := by rw [h₁.line, h₂.line, List.map_append, List.append_assoc]
  ledger := by rw [h₂.ledger, h₁.ledger, List.map_append, List.append_assoc]
  outbox := h₂.outbox.trans h₁.outbox
  overdue entry hentry := by
    rcases List.mem_append.mp hentry with h | h
    · exact h₁.overdue entry h
    · exact h₂.overdue entry h
  settled entry hentry := by
    rcases List.mem_append.mp hentry with h | h
    · exact h₁.settled entry h
    · exact h₂.settled entry h
  counted := by
    rw [h₂.counted, h₁.counted, List.filter_append, List.length_append, Nat.add_assoc]

/-- The head of the line is only moved to the place where it is held. -/
theorem takePending_eq_some {t t' : ZmqTransport P D} {packet : OutboundPacket P D}
    (h : t.takePending = some (packet, t')) :
    ∃ rest, t.line = packet :: rest ∧ rest.length ≤ t.controlOutbox.length ∧
      t' = { t with pendingControl := some packet, controlOutbox := rest } := by
  rw [takePending] at h
  split at h
  · next held hheld =>
    obtain ⟨rfl, rfl⟩ := Prod.mk.inj (Option.some.inj h)
    refine ⟨t.controlOutbox, by rw [line, hheld]; rfl, le_rfl, ?_⟩
    rw [← hheld]
  · next hnone =>
    split at h
    · simp at h
    · next front rest houtbox =>
      obtain ⟨rfl, rfl⟩ := Prod.mk.inj (Option.some.inj h)
      refine ⟨rest, by rw [line, hnone, houtbox]; rfl, ?_, rfl⟩
      rw [houtbox]
      exact Nat.le_succ _

/-- **One iteration of a round**: it ends the round and settles nothing, or it settles the front of
the line and the round goes on. -/
theorem drainStep_round [Double D] {t t' : ZmqTransport P D} {now : D} {sent : ℕ}
    {result : SendResult} {outcome : DrainOutcome} (hround : t.draining = some (now, sent))
    (h : t.drainStep result = (outcome, t')) :
    (outcome ≠ .expired ∧ outcome ≠ .sent ∧ t'.draining = none ∧ Drained now t [] t') ∨
    (∃ fate packet, (outcome = .expired ∧ fate = .expired ∨ outcome = .sent ∧ fate = .sent) ∧
      t.line = packet :: t'.line ∧ (∃ sent', t'.draining = some (now, sent')) ∧
      Drained now t [(packet, fate)] t') := by
  rw [drainStep, hround] at h
  dsimp only at h
  split at h
  · obtain ⟨rfl, rfl⟩ := Prod.mk.inj h
    exact Or.inl ⟨by simp, by simp, rfl, rfl, by simp, le_rfl, by simp, by simp, by simp⟩
  split at h
  · obtain ⟨rfl, rfl⟩ := Prod.mk.inj h
    exact Or.inl ⟨by simp, by simp, rfl, rfl, by simp, le_rfl, by simp, by simp, by simp⟩
  · next packet taken htaken =>
    obtain ⟨rest, hline, hrest, rfl⟩ := takePending_eq_some htaken
    split at h
    · next hold =>
      obtain ⟨rfl, rfl⟩ := Prod.mk.inj h
      exact Or.inr ⟨.expired, packet, Or.inl ⟨rfl, rfl⟩, hline, ⟨sent, hround⟩,
        hline, rfl, hrest, by simpa using hold, by simp, by simp⟩
    · split at h
      · obtain ⟨rfl, rfl⟩ := Prod.mk.inj h
        exact Or.inr ⟨.sent, packet, Or.inr ⟨rfl, rfl⟩, hline, ⟨sent + 1, rfl⟩,
          hline, rfl, hrest, by simp, by simp, by simp⟩
      -- the packet is held back, at the head of the line
      all_goals
        obtain ⟨rfl, rfl⟩ := Prod.mk.inj h
        exact Or.inl ⟨by simp, by simp, rfl, hline, by simp, hrest, by simp, by simp, by simp⟩

/-! ### A whole round -/

/-- A loop with enough fuel ends its round. -/
theorem drainLoop_spec [Double D] {answer : ℕ → SendResult} {now : D} {fuel asked sent : ℕ}
    {t t' : ZmqTransport P D} {done : List (OutboundPacket P D × Fate)}
    (hround : t.draining = some (now, sent)) (hfuel : t.line.length < fuel)
    (h : drainLoop answer fuel asked t = (done, t')) :
    t'.draining = none ∧ Drained now t done t' := by
  induction fuel generalizing asked sent t done t' with
  | zero => omega
  | succ fuel ih =>
    rcases hstep : t.drainStep (answer asked) with ⟨outcome, t₁⟩
    rw [drainLoop, hstep] at h
    rcases drainStep_round hround hstep with
      ⟨hexpired, hsent, hidle, hdrained⟩ | ⟨fate, packet, hcase, hline, ⟨sent', hgoes⟩, hdrained⟩
    · -- the round ends here
      have hend : ([], t₁) = (done, t') := by
        cases outcome with
        | expired => exact absurd rfl hexpired
        | sent => exact absurd rfl hsent
        | finished => exact h
        | wouldBlock => exact h
        | broken => exact h
      obtain ⟨rfl, rfl⟩ := Prod.mk.inj hend
      exact ⟨hidle, hdrained⟩
    · have hshorter : t₁.line.length < fuel := by
        rw [hline, List.length_cons] at hfuel
        omega
      have hfront : t.line.take 1 = [packet] := by rw [hline]; rfl
      rw [hfront] at h
      rcases hcase with ⟨rfl, rfl⟩ | ⟨rfl, rfl⟩
      · rcases hloop : drainLoop answer fuel asked t₁ with ⟨done₁, t₂⟩
        dsimp only at h
        rw [hloop] at h
        obtain ⟨rfl, rfl⟩ := Prod.mk.inj h
        obtain ⟨hidle, hrest⟩ := ih hgoes hshorter hloop
        exact ⟨hidle, hdrained.trans hrest⟩
      · rcases hloop : drainLoop answer fuel (asked + 1) t₁ with ⟨done₁, t₂⟩
        dsimp only at h
        rw [hloop] at h
        obtain ⟨rfl, rfl⟩ := Prod.mk.inj h
        obtain ⟨hidle, hrest⟩ := ih hgoes hshorter hloop
        exact ⟨hidle, hdrained.trans hrest⟩

/-- **A round settles a stretch of the line.** -/
theorem drainControlSends_spec [Double D] {t t' : ZmqTransport P D} {now : D}
    {answer : ℕ → SendResult} {done : List (OutboundPacket P D × Fate)} (hidle : t.draining = none)
    (h : t.drainControlSends now answer = (done, t')) :
    t'.draining = none ∧ Drained now t done t' := by
  have hbegin : t.drainBegin now = { t with draining := some (now, 0) } := by
    rw [drainBegin, hidle]
  rw [drainControlSends, hbegin] at h
  obtain ⟨hend, hdrained⟩ := drainLoop_spec rfl (Nat.lt_succ_self _) h
  exact ⟨hend, hdrained.line, hdrained.ledger, hdrained.outbox, hdrained.overdue,
    hdrained.settled, hdrained.counted⟩

end ZmqTransport

/-! ### Runs -/

/-- The steps of the outbox, each atomic. -/
inductive OutboxStep (P D : Type)
  | enqueue (payload : P) (now : D)
  | drain (now : D) (answer : ℕ → SendResult)
  | clear

/-- A run, with what was seen of it: the packets that callers were told are accepted, those handed
to the socket, those dropped with the time of the round that dropped them, and those removed. -/
structure OutboxRun (P D : Type) where
  transport : ZmqTransport P D
  accepted : List (OutboundPacket P D) := []
  handed : List (OutboundPacket P D) := []
  dropped : List (OutboundPacket P D × D) := []
  removed : List (OutboundPacket P D) := []

namespace OutboxRun

variable {P D : Type}

/-- A transport that has just been started. -/
def started (roomId : Bytes) : OutboxRun P D where
  transport := (({} : ZmqTransport P D).start true roomId).2

/-- The packets of a round that met a fate. -/
def metFate (fate : Fate) (done : List (OutboundPacket P D × Fate)) : List (OutboundPacket P D) :=
  (done.filter fun entry ↦ entry.2 = fate).map Prod.fst

def step [Double D] (r : OutboxRun P D) : OutboxStep P D → OutboxRun P D
  | .enqueue payload now =>
    match r.transport.tryEnqueueControl payload now with
    | (true, t) => { r with transport := t, accepted := r.accepted ++ [⟨payload, now⟩] }
    | (false, t) => { r with transport := t }
  | .drain now answer =>
    match r.transport.drainControlSends now answer with
    | (done, t) =>
      { r with
        transport := t
        handed := r.handed ++ metFate .sent done
        dropped := r.dropped ++ (metFate .expired done).map (·, now) }
  | .clear =>
    { r with
      transport := r.transport.clearOutgoing
      removed := r.removed ++ r.transport.line }

variable [Double D]

/-- The ledger of the transport tells what was seen of the run. -/
structure Exact (r : OutboxRun P D) : Prop where
  accounted : r.transport.Accounted
  idle : r.transport.draining = none
  bounded : r.transport.controlOutbox.length ≤ kControlOutboxMax
  accepted : r.transport.ledger.entries = r.accepted
  handed : r.transport.ledger.settledAs .sent = r.handed
  dropped : r.transport.ledger.settledAs .expired = r.dropped.map Prod.fst
  removed : r.transport.ledger.settledAs .removed = r.removed
  overdue : ∀ entry ∈ r.dropped,
    Double.lt kControlTtlSeconds (entry.2 - entry.1.enqueuedAt) = true
  counted : r.transport.controlDroppedExpired = r.dropped.length

theorem exact_started (roomId : Bytes) : (started roomId : OutboxRun P D).Exact where
  accounted := ⟨Nat.le_refl 0, rfl⟩
  idle := rfl
  bounded := Nat.zero_le _
  accepted := rfl
  handed := rfl
  dropped := rfl
  removed := rfl
  overdue := by simp [started]
  counted := rfl

theorem exact_enqueue {r : OutboxRun P D} (h : r.Exact) (payload : P) (now : D) :
    (r.step (.enqueue payload now)).Exact := by
  rcases hcall : r.transport.tryEnqueueControl payload now with ⟨ok, t⟩
  rw [step, hcall]
  rw [ZmqTransport.tryEnqueueControl] at hcall
  split at hcall
  · have haccounted := ZmqTransport.accounted_pushControl h.accounted payload now
    rw [hcall] at haccounted
    rw [ZmqTransport.pushControl] at hcall
    split at hcall
    · -- the outbox is full, and only a counter changes
      obtain ⟨rfl, rfl⟩ := Prod.mk.inj hcall
      exact { h with accounted := haccounted }
    · next hroom =>
      obtain ⟨rfl, rfl⟩ := Prod.mk.inj hcall
      have hsound := h.accounted.sound
      refine ⟨haccounted, h.idle, ?_, ?_, ?_, ?_, ?_, h.overdue, h.counted⟩
      · show (r.transport.controlOutbox ++ [_]).length ≤ kControlOutboxMax
        rw [List.length_append, List.length_singleton]
        omega
      · exact congrArg (· ++ [_]) h.accepted
      · exact (Ledger.settledAs_accept hsound _ _).trans h.handed
      · exact (Ledger.settledAs_accept hsound _ _).trans h.dropped
      · exact (Ledger.settledAs_accept hsound _ _).trans h.removed
  · obtain ⟨rfl, rfl⟩ := Prod.mk.inj hcall
    exact h

omit [Double D] in
/-- The fates of a stretch of the line are told of the packets of that stretch. -/
theorem zip_stretch (done : List (OutboundPacket P D × Fate)) (rest : List (OutboundPacket P D)) :
    (done.map Prod.fst ++ rest).zip (done.map Prod.snd) = done := by
  induction done with
  | nil => simp
  | cons entry done ih => simpa using ih

theorem exact_drain {r : OutboxRun P D} (h : r.Exact) (now : D) (answer : ℕ → SendResult) :
    (r.step (.drain now answer)).Exact := by
  rcases hround : r.transport.drainControlSends now answer with ⟨done, t⟩
  obtain ⟨hidle, hdrained⟩ := ZmqTransport.drainControlSends_spec h.idle hround
  rw [step, hround]
  have hline : r.transport.ledger.outstanding = done.map Prod.fst ++ t.line :=
    h.accounted.outstanding.trans hdrained.line
  have hsettled (fate : Fate) :
      t.ledger.settledAs fate = r.transport.ledger.settledAs fate ++ metFate fate done := by
    rw [hdrained.ledger, Ledger.settledAs_append h.accounted.sound, hline, zip_stretch]
    rfl
  have hmany : (done.map Prod.snd).length = (done.map Prod.fst).length := by simp
  refine ⟨⟨?_, ?_⟩, hidle, hdrained.outbox.trans h.bounded, ?_, ?_, ?_, ?_, ?_, ?_⟩
  · show t.ledger.Sound
    rw [hdrained.ledger]
    exact h.accounted.sound.append hline hmany
  · show t.ledger.outstanding = t.line
    rw [hdrained.ledger]
    exact Ledger.outstanding_append hline hmany
  · rw [hdrained.ledger]
    exact h.accepted
  · rw [hsettled, h.handed]
  · rw [hsettled, h.dropped, List.map_append, List.map_map]
    simp [Function.comp_def]
  · -- a round removes nothing
    have hnone : metFate .removed done = [] := by
      simpa [metFate] using fun packet fate ↦ hdrained.settled (packet, fate)
    rw [hsettled, h.removed, hnone, List.append_nil]
  · intro entry hentry
    rcases List.mem_append.mp hentry with hold | hnew
    · exact h.overdue entry hold
    · obtain ⟨packet, hpacket, rfl⟩ := List.mem_map.mp hnew
      obtain ⟨⟨packet, fate⟩, hmem, rfl⟩ := List.mem_map.mp hpacket
      obtain ⟨hdone, hfate⟩ := List.mem_filter.mp hmem
      exact hdrained.overdue _ hdone (by simpa using hfate)
  · show t.controlDroppedExpired = (r.dropped ++ _).length
    rw [hdrained.counted, h.counted, List.length_append, List.length_map, metFate, List.length_map]

omit [Double D] in
/-- Everything that waits meets one fate. -/
theorem metFate_all (waiting : List (OutboundPacket P D)) (fate fate' : Fate) :
    metFate fate (waiting.zip (List.replicate waiting.length fate')) =
      if fate = fate' then waiting else [] := by
  induction waiting with
  | nil => simp [metFate]
  | cons packet waiting ih =>
    rw [List.length_cons, List.replicate_succ, List.zip_cons_cons]
    by_cases hfate : fate = fate'
    · rw [if_pos hfate] at ih ⊢
      simpa [metFate, hfate] using ih
    · rw [if_neg hfate] at ih ⊢
      simpa [metFate, Ne.symm hfate] using ih

theorem exact_clear {r : OutboxRun P D} (h : r.Exact) : (r.step .clear).Exact := by
  have hline : r.transport.ledger.outstanding = r.transport.line := h.accounted.outstanding
  have hall : r.transport.ledger.outstanding = r.transport.ledger.outstanding ++ [] :=
    (List.append_nil _).symm
  have hmany : (List.replicate r.transport.ledger.outstanding.length Fate.removed).length =
      r.transport.ledger.outstanding.length := List.length_replicate
  have hsettled (fate : Fate) : r.transport.clearOutgoing.ledger.settledAs fate =
      r.transport.ledger.settledAs fate ++ if fate = .removed then r.transport.line else [] := by
    show ({ r.transport.ledger with fates := _ } : Ledger _).settledAs fate = _
    rw [Ledger.settledAs_append h.accounted.sound, hline]
    exact congrArg _ (metFate_all r.transport.line fate .removed)
  refine ⟨⟨h.accounted.sound.append hall hmany, ?_⟩, h.idle, Nat.zero_le _, h.accepted, ?_, ?_, ?_,
    h.overdue, h.counted⟩
  · exact Ledger.outstanding_append hall hmany
  · exact (hsettled .sent).trans ((List.append_nil _).trans h.handed)
  · exact (hsettled .expired).trans ((List.append_nil _).trans h.dropped)
  · exact (hsettled .removed).trans (congrArg (· ++ r.transport.line) h.removed)

/-- **What one step keeps.** -/
theorem Exact.step {r : OutboxRun P D} (h : r.Exact) (e : OutboxStep P D) : (r.step e).Exact := by
  cases e with
  | enqueue payload now => exact exact_enqueue h payload now
  | drain now answer => exact exact_drain h now answer
  | clear => exact exact_clear h

theorem exact_run (roomId : Bytes) (steps : List (OutboxStep P D)) :
    (steps.foldl OutboxRun.step (started roomId)).Exact :=
  List.foldlRecOn (motive := Exact) steps OutboxRun.step (exact_started roomId)
    fun _ h e _ ↦ h.step e

/-- **The control outbox is first-in first-out and bounded, and nothing in it is lost or
duplicated.** The outbox never holds more than 256 packets. Of the accepted packets, told apart by
their place in the order of acceptance, a first stretch is settled and the others wait, in order, at
the head of the line and in the outbox. The settled ones each have one fate: those that were sent
are the packets handed to the socket, in order and each once; those that expired were dropped by a
round that found them older than the limit, and are counted; and those that were removed went with a
`clear_outgoing`. -/
theorem outbox_exact (roomId : Bytes) (steps : List (OutboxStep P D)) :
    let r := steps.foldl OutboxRun.step (started roomId)
    r.transport.controlOutbox.length ≤ 256 ∧
    r.handed.Sublist r.accepted ∧
    ∃ fates : List Fate, fates.length ≤ r.accepted.length ∧
      r.accepted.drop fates.length =
        r.transport.pendingControl.toList ++ r.transport.controlOutbox ∧
      r.handed = metFate .sent (r.accepted.zip fates) ∧
      r.dropped.map Prod.fst = metFate .expired (r.accepted.zip fates) ∧
      r.removed = metFate .removed (r.accepted.zip fates) ∧
      (∀ entry ∈ r.dropped, Double.lt (Double.lit 5) (entry.2 - entry.1.enqueuedAt) = true) ∧
      r.transport.controlDroppedExpired = r.dropped.length := by
  have h := exact_run (P := P) (D := D) roomId steps
  intro r
  refine ⟨h.bounded, ?_, r.transport.ledger.fates, ?_, ?_, ?_, ?_, ?_, h.overdue, h.counted⟩
  · rw [← h.handed, ← h.accepted]
    exact Ledger.settledAs_sublist _ _
  · rw [← h.accepted]
    exact h.accounted.sound
  · rw [← h.accepted]
    exact h.accounted.outstanding
  · rw [← h.accepted]
    exact h.handed.symm
  · rw [← h.accepted]
    exact h.dropped.symm
  · rw [← h.accepted]
    exact h.removed.symm

/-- One packet is sent, the next is held back until it is too old, the third is removed. -/
example :
    let run : List (OutboxStep ℕ ℚ) :=
      [.enqueue 1 0, .enqueue 2 0, .drain 1 fun n ↦ if n = 0 then .sent else .wouldBlock,
        .enqueue 3 6, .drain 7 fun _ ↦ .wouldBlock, .clear]
    let r := run.foldl OutboxRun.step (started [])
    r.handed.map OutboundPacket.payload = [1] ∧
      r.dropped.map (·.1.payload) = [2] ∧ r.removed.map OutboundPacket.payload = [3] := by
  decide +kernel

end OutboxRun

end StylyNetSync
