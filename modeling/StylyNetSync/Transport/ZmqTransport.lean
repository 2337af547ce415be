import StylyNetSync.Foundation.DoubleArith
import StylyNetSync.Foundation.Ledger
import StylyNetSync.Foundation.OrderedMap
import StylyNetSync.Protocol.MessageTypes

/-!
# The transport

`ZmqTransport` of the source, as far as its callers and its network thread share it: the flags that
decide whether it is usable, the control outbox with its head-of-line packet, and the latest-wins
slots. The functions here are what happens under one lock, or between two points where the other
thread may step in; how they interleave is not decided here.

Control payloads are opaque to the transport, and `P` is whatever stands for one. The `ledger` only
observes: it records every packet the outbox accepted since the last `stop`, and what became of it.
-/

namespace StylyNetSync

/-- Which socket a payload arrived on. -/
inductive TransportLane
  | control
  | roomPose
  | roomObjects
  deriving DecidableEq

structure OutboundPacket (P D : Type) where
  payload : P
  enqueuedAt : D

/-- What `try_send_multipart` can answer. A message that breaks off after its first frame ends the
connection. -/
inductive SendResult
  | sent
  | wouldBlock
  | broken
  deriving DecidableEq

def kControlOutboxMax : ℕ := 256
def kControlTtlSeconds {D : Type} [Double D] : D := Double.lit 5
def kControlDrainBatch : ℕ := 64

structure ZmqTransport (P D : Type) where
  shouldStop : Bool := false
  running : Bool := false
  connectionError : Bool := false
  roomId : Bytes := []
  controlOutbox : List (OutboundPacket P D) := []
  /-- Head-of-line packet held across iterations while backpressured. -/
  pendingControl : Option (OutboundPacket P D) := none
  latestTransform : Option (OutboundPacket Bytes D) := none
  latestObjectTransforms : OrderedMap UInt32 (OutboundPacket Bytes D) := ∅
  /-- The drain round under way on the network thread: the time it began at, and how many packets it
  has sent. -/
  draining : Option (D × ℕ) := none
  wouldBlockCount : ℕ := 0
  controlDroppedFull : ℕ := 0
  controlDroppedExpired : ℕ := 0
  messagesSent : ℕ := 0
  ledger : Ledger (OutboundPacket P D) := {}

namespace ZmqTransport

variable {P D : Type}

/-- The three flags that every enqueuing function consults first. -/
def usable (t : ZmqTransport P D) : Bool := !t.shouldStop && !t.connectionError && t.running

/-- The network thread is started, unless it runs already or there is no context for it. -/
def start (contextAvailable : Bool) (roomId : Bytes) (t : ZmqTransport P D) :
    Bool × ZmqTransport P D :=
  if t.running then (false, t)
  else
    let t := { t with shouldStop := false, connectionError := false, roomId := roomId }
    if contextAvailable then (true, { t with running := true }) else (false, t)

/-- Drop everything queued for sending. -/
def clearOutgoing (t : ZmqTransport P D) : ZmqTransport P D :=
  { t with
    controlOutbox := []
    pendingControl := none
    latestTransform := none
    latestObjectTransforms := ∅
    ledger :=
      { t.ledger with
        fates := t.ledger.fates ++ List.replicate t.ledger.outstanding.length .removed } }

/-- Stop the network thread and clear the outbound queues. The next session gets a new ledger. -/
def stop (t : ZmqTransport P D) : ZmqTransport P D :=
  let cleared := if t.running then { t.clearOutgoing with shouldStop := true } else t
  { cleared with running := false, draining := none, ledger := {} }

/-! ### Callers -/

/-- The locked part of `try_enqueue_control`: the newest packet is refused when the outbox is
full. -/
def pushControl (payload : P) (now : D) (t : ZmqTransport P D) : Bool × ZmqTransport P D :=
  if t.controlOutbox.length ≥ kControlOutboxMax then
    (false, { t with controlDroppedFull := t.controlDroppedFull + 1 })
  else
    let packet : OutboundPacket P D := ⟨payload, now⟩
    (true,
      { t with controlOutbox := t.controlOutbox ++ [packet], ledger := t.ledger.accept packet })

/-- Overwrite the single avatar-pose slot. -/
def setLatestTransform (payload : Bytes) (now : D) (t : ZmqTransport P D) : ZmqTransport P D :=
  { t with latestTransform := some ⟨payload, now⟩ }

/-- Overwrite one object's pose slot. -/
def setLatestObjectTransform (objectId : UInt32) (payload : Bytes) (now : D)
    (t : ZmqTransport P D) : ZmqTransport P D :=
  { t with latestObjectTransforms := t.latestObjectTransforms.insert objectId ⟨payload, now⟩ }

/-! ### The network thread -/

/-- After an avatar pose was sent, its slot is cleared only if it still holds what was sent. -/
def clearSentTransform (payload : Bytes) (t : ZmqTransport P D) : ZmqTransport P D :=
  if t.latestTransform.any (fun packet ↦ packet.payload = payload) then
    { t with latestTransform := none }
  else t

/-- After an object pose was sent, its slot is erased only if it still holds what was sent. -/
def clearSentObjectTransform (objectId : UInt32) (payload : Bytes) (t : ZmqTransport P D) :
    ZmqTransport P D :=
  if t.latestObjectTransforms[objectId]?.any (fun packet ↦ packet.payload = payload) then
    { t with latestObjectTransforms := t.latestObjectTransforms.erase objectId }
  else t

/-- `drain_control_sends` begins by reading the clock. -/
def drainBegin (now : D) (t : ZmqTransport P D) : ZmqTransport P D :=
  match t.draining with
  | none => { t with draining := some (now, 0) }
  | some _ => t

/-- The packet at the head of the line: the one held back, or the front of the outbox. -/
def takePending (t : ZmqTransport P D) : Option (OutboundPacket P D × ZmqTransport P D) :=
  match t.pendingControl with
  | some packet => some (packet, t)
  | none =>
    match t.controlOutbox with
    | [] => none
    | packet :: rest =>
      some (packet, { t with pendingControl := some packet, controlOutbox := rest })

/-- What one iteration of the drain loop came to. -/
inductive DrainOutcome
  | finished
  | expired
  | sent
  | wouldBlock
  | broken
  deriving DecidableEq

/-- One iteration of the loop of `drain_control_sends`, with the answer of the socket should it be
asked. -/
def drainStep [Double D] (result : SendResult) (t : ZmqTransport P D) :
    DrainOutcome × ZmqTransport P D :=
  match t.draining with
  | none => (.finished, t)
  | some (now, sent) =>
    if sent ≥ kControlDrainBatch then (.finished, { t with draining := none })
    else
      match t.takePending with
      | none => (.finished, { t with draining := none })
      | some (packet, t) =>
        -- an expired packet costs nothing of the batch, and the socket is not asked
        if Double.lt kControlTtlSeconds (now - packet.enqueuedAt) then
          (.expired,
            { t with
              pendingControl := none
              controlDroppedExpired := t.controlDroppedExpired + 1
              ledger := t.ledger.settle .expired })
        else
          match result with
          | .sent =>
            (.sent,
              { t with
                pendingControl := none
                draining := some (now, sent + 1)
                messagesSent := t.messagesSent + 1
                ledger := t.ledger.settle .sent })
          | .wouldBlock =>
            (.wouldBlock,
              { t with draining := none, wouldBlockCount := t.wouldBlockCount + 1 })
          | .broken =>
            (.broken,
              { t with
                draining := none
                connectionError := true
                wouldBlockCount := t.wouldBlockCount + 1 })

/-- The drain round under way finds a packet at the head of the line, and it is too old. -/
def headOverdue [Double D] (t : ZmqTransport P D) : Bool :=
  match t.draining with
  | none => false
  | some (now, sent) =>
    decide (sent < kControlDrainBatch) &&
      t.takePending.any fun head ↦ Double.lt kControlTtlSeconds (now - head.1.enqueuedAt)

/-! ### The ledger tells the truth -/

/-- The outstanding packets are the one held back and those in the outbox, in this order. -/
structure Accounted (t : ZmqTransport P D) : Prop where
  sound : t.ledger.Sound
  outstanding : t.ledger.outstanding = t.pendingControl.toList ++ t.controlOutbox

/-- An accepted packet is at the end of the outbox and of the ledger. -/
theorem pushControl_accepted {t t' : ZmqTransport P D} {payload : P} {now : D}
    (h : t.pushControl payload now = (true, t')) :
    t' = { t with
      controlOutbox := t.controlOutbox ++ [⟨payload, now⟩]
      ledger := t.ledger.accept ⟨payload, now⟩ } := by
  rw [pushControl] at h
  split at h
  · simp at h
  · exact (Prod.mk.inj h).2.symm

theorem accounted_pushControl {t : ZmqTransport P D} (h : t.Accounted) (payload : P) (now : D) :
    (t.pushControl payload now).2.Accounted := by
  rw [pushControl]
  split
  · exact ⟨h.sound, h.outstanding⟩
  · refine ⟨h.sound.accept _, ?_⟩
    show (t.ledger.accept _).outstanding = t.pendingControl.toList ++ (t.controlOutbox ++ [_])
    rw [Ledger.outstanding_accept h.sound, h.outstanding, List.append_assoc]

/-- Taking the head of the line only moves it. -/
theorem takePending_spec {t t' : ZmqTransport P D} {packet : OutboundPacket P D}
    (h : t.takePending = some (packet, t')) :
    t'.ledger = t.ledger ∧ t'.pendingControl = some packet ∧
      t'.pendingControl.toList ++ t'.controlOutbox =
        t.pendingControl.toList ++ t.controlOutbox := by
  rw [takePending] at h
  split at h
  · next held hheld =>
    obtain ⟨rfl, rfl⟩ := Prod.mk.inj (Option.some.inj h)
    exact ⟨rfl, hheld, rfl⟩
  · next hnone =>
    split at h
    · simp at h
    · next front rest houtbox =>
      obtain ⟨rfl, rfl⟩ := Prod.mk.inj (Option.some.inj h)
      refine ⟨rfl, rfl, ?_⟩
      rw [hnone, houtbox]
      rfl

/-- **What an iteration does to the ledger**: it settles the head of the line, or nothing. -/
theorem drainStep_cases [Double D] {t t' : ZmqTransport P D} {result : SendResult}
    {outcome : DrainOutcome} (h : t.drainStep result = (outcome, t')) :
    (outcome ≠ .expired ∧ outcome ≠ .sent ∧ t'.ledger = t.ledger ∧
      t'.pendingControl.toList ++ t'.controlOutbox =
        t.pendingControl.toList ++ t.controlOutbox) ∨
    (∃ fate packet, (outcome = .expired ∧ fate = .expired ∨ outcome = .sent ∧ fate = .sent) ∧
      t'.ledger = t.ledger.settle fate ∧
      t.pendingControl.toList ++ t.controlOutbox =
        packet :: (t'.pendingControl.toList ++ t'.controlOutbox)) := by
  rw [drainStep] at h
  split at h
  · obtain ⟨rfl, rfl⟩ := Prod.mk.inj h
    exact Or.inl ⟨by simp, by simp, rfl, rfl⟩
  split at h
  · obtain ⟨rfl, rfl⟩ := Prod.mk.inj h
    exact Or.inl ⟨by simp, by simp, rfl, rfl⟩
  split at h
  · obtain ⟨rfl, rfl⟩ := Prod.mk.inj h
    exact Or.inl ⟨by simp, by simp, rfl, rfl⟩
  · next packet taken htaken =>
    obtain ⟨hledger, hpending, hline⟩ := takePending_spec htaken
    have hhead : t.pendingControl.toList ++ t.controlOutbox = packet :: taken.controlOutbox := by
      rw [← hline, hpending]
      rfl
    split at h
    · -- too old
      obtain ⟨rfl, rfl⟩ := Prod.mk.inj h
      exact Or.inr ⟨.expired, packet, Or.inl ⟨rfl, rfl⟩, by rw [hledger], hhead⟩
    · split at h
      · obtain ⟨rfl, rfl⟩ := Prod.mk.inj h
        exact Or.inr ⟨.sent, packet, Or.inr ⟨rfl, rfl⟩, by rw [hledger], hhead⟩
      -- the packet stays at the head of the line
      all_goals
        obtain ⟨rfl, rfl⟩ := Prod.mk.inj h
        exact Or.inl ⟨by simp, by simp, hledger, hline⟩

/-- The network thread neither starts nor stops itself. -/
theorem running_drainStep [Double D] (t : ZmqTransport P D) (result : SendResult) :
    (t.drainStep result).2.running = t.running := by
  rw [drainStep]
  split
  · rfl
  split
  · rfl
  split
  · rfl
  · next packet taken htaken =>
    have hrunning : taken.running = t.running := by
      rw [takePending] at htaken
      split at htaken
      · obtain ⟨-, rfl⟩ := Prod.mk.inj (Option.some.inj htaken)
        rfl
      · split at htaken
        · simp at htaken
        · obtain ⟨-, rfl⟩ := Prod.mk.inj (Option.some.inj htaken)
          rfl
    split
    · exact hrunning
    · cases result <;> exact hrunning

/-- A packet expires when it is at the head of the line and too old, whatever the socket answers. -/
theorem headOverdue_of_expired [Double D] {t t' : ZmqTransport P D} {result : SendResult}
    (h : t.drainStep result = (.expired, t')) : t.headOverdue = true := by
  rw [drainStep] at h
  rw [headOverdue]
  split at h
  · simp at h
  · next now sent hdraining =>
    split at h
    · simp at h
    · next hbatch =>
      split at h
      · simp at h
      · next packet taken htaken =>
        split at h
        · next hold => simp [htaken, hold, Nat.not_le.mp hbatch]
        · cases result <;> simp at h

theorem accounted_drainStep [Double D] {t : ZmqTransport P D} (h : t.Accounted)
    (result : SendResult) : (t.drainStep result).2.Accounted := by
  rcases hstep : t.drainStep result with ⟨outcome, t'⟩
  rcases drainStep_cases hstep with ⟨-, -, hledger, hline⟩ | ⟨fate, packet, -, hledger, hline⟩
  · refine ⟨hledger ▸ h.sound, ?_⟩
    rw [hledger, h.outstanding, hline]
  · have hnext := h.outstanding.trans hline
    refine ⟨?_, ?_⟩
    · rw [hledger]
      exact Ledger.Sound.settle hnext fate
    · rw [hledger]
      exact Ledger.outstanding_settle hnext fate

end ZmqTransport

end StylyNetSync
