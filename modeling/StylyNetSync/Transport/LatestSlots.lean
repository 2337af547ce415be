import StylyNetSync.Foundation.LatestSlot
import StylyNetSync.Transport.ControlOutbox
import StylyNetSync.Transport.NetworkLoop

/-!
# The latest-wins slots never lose the newest pose

The avatar slot and the slot of each object are instances of `LatestSlot`: a call that sets a slot
is its `set`, and the three transitions in which the network thread sends it are its `copy`, its
`pass` or `giveUp`, and its `clear`. `SlotRun` runs the network loop with such a slot beside each of
its own; `Coupled` says that the two agree throughout, so that what `LatestSlot.Sound` says of the
histories is true of the slots of the transport.
-/

namespace StylyNetSync

/-- The avatar slot, and one slot for each object. -/
inductive PoseSlot
  | avatar
  | object (objectId : UInt32)
  deriving DecidableEq

namespace NetworkLoop

variable {D : Type}

/-- The payload that a slot of the transport holds. -/
def holds (l : NetworkLoop D) : PoseSlot → Option Bytes
  | .avatar => l.transport.latestTransform.map OutboundPacket.payload
  | .object objectId =>
    l.transport.latestObjectTransforms[objectId]?.map OutboundPacket.payload

/-- The slot that the next transition copies, if it holds anything. -/
def visits (l : NetworkLoop D) : Option PoseSlot :=
  match l.phase with
  | .poses => some .avatar
  | .objectNext (objectId :: _) => some (.object objectId)
  | _ => none

/-- The slot whose copy the network thread has in hand, the copy, and whether it was sent. -/
def inHand (l : NetworkLoop D) : Option (PoseSlot × Bytes × Bool) :=
  match l.phase with
  | .transformCopied payload => some (.avatar, payload, false)
  | .transformSent payload => some (.avatar, payload, true)
  | .objectCopied objectId payload _ => some (.object objectId, payload, false)
  | .objectSent objectId payload _ => some (.object objectId, payload, true)
  | _ => none

end NetworkLoop

/-- A step with no `clear_outgoing`, no shutdown, and no message that breaks off. -/
def LoopStep.Ordinary {D : Type} : LoopStep D → Prop
  | .network _ answers => answers.result ≠ .broken
  | .clearOutgoing => False
  | .requestStop => False
  | _ => True

instance {D : Type} : DecidablePred (LoopStep.Ordinary : LoopStep D → Prop)
  | .network _ answers => inferInstanceAs (Decidable (answers.result ≠ .broken))
  | .enqueueControl _ _ => isTrue trivial
  | .setLatestTransform _ _ => isTrue trivial
  | .setLatestObjectTransform _ _ _ => isTrue trivial
  | .clearOutgoing => isFalse id
  | .requestStop => isFalse id

/-- The payload that a call sets a slot to. Object id zero is no object. -/
def LoopStep.setsTo {D : Type} (x : PoseSlot) : LoopStep D → Option Bytes
  | .setLatestTransform payload _ => if x = .avatar then some payload else none
  | .setLatestObjectTransform objectId payload _ =>
    if objectId ≠ 0 ∧ x = .object objectId then some payload else none
  | _ => none

/-- A run of the loop, with the history of each slot and the log of what was sent from the slots. -/
structure SlotRun (D : Type) where
  loop : NetworkLoop D
  slot : PoseSlot → LatestSlot Bytes := fun _ ↦ {}
  sends : List (PoseSlot × Bytes) := []

namespace SlotRun

variable {D : Type}

def started (roomId : Bytes) : SlotRun D where
  loop := NetworkLoop.started roomId

/-- An operation on the history of one slot. -/
def onSlot (x : PoseSlot) (f : LatestSlot Bytes → LatestSlot Bytes) (r : SlotRun D) : SlotRun D :=
  { r with slot := fun y ↦ if y = x then f (r.slot y) else r.slot y }

/-- What a transition of the network thread is to the slots. -/
def observe (answers : Answers) (r : SlotRun D) : SlotRun D :=
  match r.loop.visits, r.loop.inHand with
  | some x, _ => r.onSlot x LatestSlot.copy
  | none, some (x, payload, false) =>
    if answers.result = .sent then
      { r.onSlot x LatestSlot.pass with sends := r.sends ++ [(x, payload)] }
    else r.onSlot x LatestSlot.giveUp
  | none, some (x, _, true) => r.onSlot x LatestSlot.clear
  | none, none => r

variable [Double D]

/-- A call that sets a slot counts if the transport takes it. -/
def step (r : SlotRun D) (e : LoopStep D) : SlotRun D :=
  let observed : SlotRun D :=
    match e with
    | .network _ answers => r.observe answers
    | .setLatestTransform payload _ =>
      if r.loop.transport.usable then r.onSlot .avatar (LatestSlot.set payload) else r
    | .setLatestObjectTransform objectId payload _ =>
      if objectId ≠ 0 ∧ r.loop.transport.usable then
        r.onSlot (.object objectId) (LatestSlot.set payload)
      else r
    | _ => r
  { observed with loop := r.loop.step e }

end SlotRun

/-! ### What the transitions do to the slots of the transport -/

namespace ZmqTransport

variable {P D : Type}

/-- The part of the transport that the latest-wins senders look at. -/
def poseView (t : ZmqTransport P D) :
    Option (OutboundPacket Bytes D) × OrderedMap UInt32 (OutboundPacket Bytes D) × Bytes × Bool :=
  (t.latestTransform, t.latestObjectTransforms, t.roomId, t.usable)

theorem poseView_drainBegin (now : D) (t : ZmqTransport P D) :
    (t.drainBegin now).poseView = t.poseView := by
  rw [drainBegin]
  split <;> rfl

theorem poseView_pushControl (payload : P) (now : D) (t : ZmqTransport P D) :
    (t.pushControl payload now).2.poseView = t.poseView := by
  rw [pushControl]
  split <;> rfl

theorem poseView_noteSend {result : SendResult} (h : result ≠ .broken) (t : ZmqTransport P D) :
    (t.noteSend result).poseView = t.poseView := by
  cases result with
  | sent => rfl
  | wouldBlock => rfl
  | broken => exact absurd rfl h

/-- The avatar slot is cleared if it holds the payload that was sent. -/
theorem clearSentTransform_spec (payload : Bytes) (t : ZmqTransport P D) :
    ((t.clearSentTransform payload).latestObjectTransforms,
        (t.clearSentTransform payload).roomId, (t.clearSentTransform payload).usable) =
      (t.latestObjectTransforms, t.roomId, t.usable) ∧
    (t.clearSentTransform payload).latestTransform.map OutboundPacket.payload =
      if t.latestTransform.map OutboundPacket.payload = some payload then none
      else t.latestTransform.map OutboundPacket.payload := by
  rw [clearSentTransform]
  rcases hslot : t.latestTransform with - | packet
  · simp [hslot, usable]
  · by_cases hsame : packet.payload = payload
    · simp [hsame, usable]
    · simp [hsame, hslot, usable]

/-- The slot of an object is erased if it holds the payload that was sent. -/
theorem clearSentObjectTransform_spec (objectId : UInt32) (payload : Bytes)
    (t : ZmqTransport P D) :
    ((t.clearSentObjectTransform objectId payload).latestTransform,
        (t.clearSentObjectTransform objectId payload).roomId,
        (t.clearSentObjectTransform objectId payload).usable) =
      (t.latestTransform, t.roomId, t.usable) ∧
    ∀ objectId', ((t.clearSentObjectTransform objectId payload).latestObjectTransforms[
        objectId']?).map OutboundPacket.payload =
      if objectId' = objectId then
        if t.latestObjectTransforms[objectId']?.map OutboundPacket.payload = some payload then none
        else t.latestObjectTransforms[objectId']?.map OutboundPacket.payload
      else t.latestObjectTransforms[objectId']?.map OutboundPacket.payload := by
  rw [clearSentObjectTransform]
  rcases hslot : t.latestObjectTransforms[objectId]? with - | packet
  · refine ⟨by simp [usable], fun objectId' ↦ ?_⟩
    by_cases hid : objectId' = objectId
    · simp [hid, hslot]
    · simp [hid]
  · by_cases hsame : packet.payload = payload
    · refine ⟨by simp [hsame, usable], fun objectId' ↦ ?_⟩
      by_cases hid : objectId' = objectId
      · simp [hid, hslot, hsame]
      · simp [hid, hsame, Ne.symm hid]
    · refine ⟨by simp [hsame, usable], fun objectId' ↦ ?_⟩
      by_cases hid : objectId' = objectId
      · simp [hid, hslot, hsame]
      · simp [hid, hsame]

/-- The control lane leaves the slots alone. -/
theorem poseView_drainStep [Double D] {result : SendResult} (h : result ≠ .broken)
    (t : ZmqTransport P D) : (t.drainStep result).2.poseView = t.poseView := by
  rw [drainStep]
  split
  · rfl
  split
  · rfl
  split
  · rfl
  · next packet taken htaken =>
    obtain ⟨rest, -, -, rfl⟩ := takePending_eq_some htaken
    split
    · rfl
    · cases result with
      | sent => rfl
      | wouldBlock => rfl
      | broken => exact absurd rfl h

end ZmqTransport

namespace NetworkLoop

variable {D : Type}

/-- Transports that look the same to the senders hold the same. -/
theorem holds_congr {l l' : NetworkLoop D} (h : l'.transport.poseView = l.transport.poseView)
    (x : PoseSlot) : l'.holds x = l.holds x := by
  have htransform : l'.transport.latestTransform = l.transport.latestTransform :=
    congrArg (fun view ↦ view.1) h
  have hobjects : l'.transport.latestObjectTransforms = l.transport.latestObjectTransforms :=
    congrArg (fun view ↦ view.2.1) h
  cases x with
  | avatar => rw [holds, holds, htransform]
  | object objectId => rw [holds, holds, hobjects]

/-- Setting a slot. -/
theorem holds_setLatestTransform (l : NetworkLoop D) (payload : Bytes) (now : D) (y : PoseSlot) :
    ({ l with transport := l.transport.setLatestTransform payload now } : NetworkLoop D).holds y =
      if y = .avatar then some payload else l.holds y := by
  cases y with
  | avatar => rfl
  | object objectId => rfl

theorem holds_setLatestObjectTransform (l : NetworkLoop D) (objectId : UInt32) (payload : Bytes)
    (now : D) (y : PoseSlot) :
    ({ l with
        transport := l.transport.setLatestObjectTransform objectId payload now } :
          NetworkLoop D).holds y =
      if y = .object objectId then some payload else l.holds y := by
  cases y with
  | avatar => rfl
  | object objectId' =>
    simp only [holds, ZmqTransport.setLatestObjectTransform, OrderedMap.get?_insert,
      PoseSlot.object.injEq]
    by_cases hid : objectId = objectId'
    · simp [hid]
    · simp [hid, Ne.symm hid]

variable [Double D]

/-- A slot is visited: what it holds is copied. -/
theorem advance_of_visits {l : NetworkLoop D} {x : PoseSlot} (h : l.visits = some x) (now : D)
    (a : Answers) :
    (l.advance now a).transport = l.transport ∧
      (l.advance now a).inHand = (l.holds x).map fun payload ↦ (x, payload, false) := by
  rw [visits] at h
  split at h
  · next hphase =>
    obtain rfl := Option.some.inj h
    simp only [advance, hphase, holds]
    rcases l.transport.latestTransform with - | packet
    · exact ⟨rfl, rfl⟩
    · exact ⟨rfl, rfl⟩
  · next objectId objectIds hphase =>
    obtain rfl := Option.some.inj h
    simp only [advance, hphase, holds]
    rcases l.transport.latestObjectTransforms[objectId]? with - | packet
    · exact ⟨rfl, rfl⟩
    · exact ⟨rfl, rfl⟩
  · simp at h

/-- A copy is offered to the socket. -/
theorem advance_of_copied {l : NetworkLoop D} {x : PoseSlot} {payload : Bytes}
    (h : l.inHand = some (x, payload, false)) (now : D) (a : Answers) :
    l.offers = some (.transform, payload) ∧
      (l.advance now a).transport = l.transport.noteSend a.result ∧
      (l.advance now a).inHand =
        if a.result = .sent then some (x, payload, true) else none := by
  rw [inHand] at h
  split at h
  · next hphase =>
    obtain ⟨rfl, rfl⟩ : PoseSlot.avatar = x ∧ _ = payload := by simpa using h
    refine ⟨by rw [offers, hphase], by rw [advance, hphase], ?_⟩
    simp only [advance, hphase, inHand]
    by_cases hsent : a.result = .sent
    · simp only [hsent, if_true]
    · simp only [hsent, if_false]
  · simp at h
  · next hphase =>
    obtain ⟨rfl, rfl⟩ : PoseSlot.object _ = x ∧ _ = payload := by simpa using h
    refine ⟨by rw [offers, hphase], by rw [advance, hphase], ?_⟩
    simp only [advance, hphase, inHand]
    by_cases hsent : a.result = .sent
    · simp only [hsent, if_true]
    · simp only [hsent, if_false]
  · simp at h
  · simp at h

/-- A slot is compared with what was sent from it, and cleared if it still holds that. -/
theorem advance_of_sent {l : NetworkLoop D} {x : PoseSlot} {payload : Bytes}
    (h : l.inHand = some (x, payload, true)) (now : D) (a : Answers) :
    (l.advance now a).inHand = none ∧
      (l.advance now a).transport.roomId = l.transport.roomId ∧
      (l.advance now a).transport.usable = l.transport.usable ∧
      ∀ y, (l.advance now a).holds y =
        if y = x then (if l.holds y = some payload then none else l.holds y) else l.holds y := by
  rw [inHand] at h
  split at h
  · simp at h
  · next payload' hphase =>
    obtain ⟨rfl, rfl⟩ : PoseSlot.avatar = x ∧ payload' = payload := by simpa using h
    have hnext : l.advance now a =
        { l with transport := l.transport.clearSentTransform payload', phase := .objects } := by
      rw [advance, hphase]
    rw [hnext]
    obtain ⟨hkept, hcleared⟩ := ZmqTransport.clearSentTransform_spec payload' l.transport
    refine ⟨rfl, congrArg (fun kept ↦ kept.2.1) hkept, congrArg (fun kept ↦ kept.2.2) hkept, ?_⟩
    intro y
    cases y with
    | avatar => exact hcleared
    | object objectId =>
      show ((l.transport.clearSentTransform payload').latestObjectTransforms[objectId]?).map _ = _
      rw [show (l.transport.clearSentTransform payload').latestObjectTransforms = _ from
        congrArg (fun kept ↦ kept.1) hkept]
      rfl
  · simp at h
  · next objectId payload' objectIds hphase =>
    obtain ⟨rfl, rfl⟩ : PoseSlot.object objectId = x ∧ payload' = payload := by simpa using h
    have hnext : l.advance now a =
        { l with
          transport := l.transport.clearSentObjectTransform objectId payload'
          phase := .objectNext objectIds } := by
      rw [advance, hphase]
    rw [hnext]
    obtain ⟨hkept, hcleared⟩ :=
      ZmqTransport.clearSentObjectTransform_spec objectId payload' l.transport
    refine ⟨rfl, congrArg (fun kept ↦ kept.2.1) hkept, congrArg (fun kept ↦ kept.2.2) hkept, ?_⟩
    intro y
    cases y with
    | avatar =>
      exact congrArg (fun kept ↦ Option.map OutboundPacket.payload kept.1) hkept
    | object objectId' =>
      have hslot := hcleared objectId'
      simp only [PoseSlot.object.injEq]
      exact hslot
  · simp at h

/-- The other transitions leave the slots and the transform socket alone. -/
theorem advance_of_elsewhere {l : NetworkLoop D} (hvisits : l.visits = none)
    (hhand : l.inHand = none) (now : D) {a : Answers} (ha : a.result ≠ .broken) :
    (l.advance now a).transport.poseView = l.transport.poseView ∧
      (l.advance now a).inHand = none ∧
      (l.advance now a).trace .transform = l.trace .transform := by
  -- only the control socket can see anything of it
  have hoffers : ∀ payload, l.offers ≠ some (.transform, payload) := by
    intro payload hoffers
    rw [offers] at hoffers
    split at hoffers <;> simp_all [inHand]
  have htrace : (l.advance now a).trace .transform = l.trace .transform := by
    rw [trace_advance]
    rcases hoffer : l.offers with - | ⟨outlet, payload⟩
    · rw [traceAfter_of_offers_none hoffer]
    · rw [traceAfter_of_offers_some hoffer, if_neg]
      rintro rfl
      exact hoffers payload hoffer
  refine ⟨?_, ?_, htrace⟩
  · rw [advance]
    split
    · rfl
    · split
      · rfl
      · exact ZmqTransport.poseView_drainBegin now l.transport
    · exact ZmqTransport.poseView_drainStep ha l.transport
    all_goals simp_all [visits, inHand]
  · rw [advance]
    split
    · exact hhand
    · split <;> rfl
    · by_cases hround : (l.transport.drainStep a.result).2.draining.isSome = true
      · simp [inHand, hround]
      · simp [inHand, hround]
    all_goals simp_all [visits, inHand]

end NetworkLoop

/-! ### The slots of the transport and their histories -/

namespace SlotRun

variable {D : Type}

/-- The reader of a slot is the network thread. -/
def Reads (x : PoseSlot) (inHand : Option (PoseSlot × Bytes × Bool)) : SlotPhase Bytes → Prop
  | .idle => ∀ payload sent, inHand ≠ some (x, payload, sent)
  | .copied _ payload => inHand = some (x, payload, false)
  | .passed _ payload => inHand = some (x, payload, true)

/-- The slots of the transport are what their histories say. -/
structure Coupled (r : SlotRun D) : Prop where
  sound : ∀ x, (r.slot x).Sound
  held : ∀ x, (r.slot x).held = r.loop.holds x
  reads : ∀ x, Reads x r.loop.inHand (r.slot x).phase
  sends : ∀ x, (r.slot x).sent.map Prod.snd = (r.sends.filter fun send ↦ send.1 = x).map Prod.snd
  trace : r.loop.trace .transform =
    r.sends.flatMap fun send ↦ [.frame r.loop.transport.roomId true, .frame send.2 false]
  usable : r.loop.transport.usable = true

theorem coupled_started (roomId : Bytes) : (started roomId : SlotRun D).Coupled where
  sound _ := LatestSlot.sound_empty
  held x := by cases x <;> simp [started, NetworkLoop.started, NetworkLoop.holds,
    ZmqTransport.start]
  reads _ := by simp [started, NetworkLoop.started, Reads, NetworkLoop.inHand]
  sends _ := rfl
  trace := rfl
  usable := rfl

/-- With nothing of a slot in hand, its reader is idle. -/
theorem Coupled.idle {r : SlotRun D} (h : r.Coupled) {x : PoseSlot}
    (hhand : ∀ payload sent, r.loop.inHand ≠ some (x, payload, sent)) :
    (r.slot x).phase = .idle := by
  have hreads := h.reads x
  cases hphase : (r.slot x).phase with
  | idle => rfl
  | copied place payload =>
    rw [hphase] at hreads
    exact absurd hreads (hhand payload false)
  | passed place payload =>
    rw [hphase] at hreads
    exact absurd hreads (hhand payload true)

/-- A transition that looks like none to the senders. -/
theorem Coupled.of_view {r : SlotRun D} (h : r.Coupled) {l : NetworkLoop D}
    (hview : l.transport.poseView = r.loop.transport.poseView) (hhand : l.inHand = r.loop.inHand)
    (htrace : l.trace .transform = r.loop.trace .transform) :
    ({ r with loop := l } : SlotRun D).Coupled where
  sound := h.sound
  held x := (h.held x).trans (NetworkLoop.holds_congr hview x).symm
  reads x := by
    show Reads x l.inHand _
    rw [hhand]
    exact h.reads x
  sends := h.sends
  trace := by
    have hroom : l.transport.roomId = r.loop.transport.roomId :=
      congrArg (fun view ↦ view.2.2.1) hview
    show l.trace .transform = r.sends.flatMap fun send ↦ [.frame l.transport.roomId true, _]
    rw [htrace, hroom]
    exact h.trace
  usable := (congrArg (fun view ↦ view.2.2.2) hview).trans h.usable

/-- A transition that is an operation on one slot: it does to the slot of the transport what it does
to the history, and what it passes on goes to the socket. -/
theorem Coupled.onSlot {r : SlotRun D} (h : r.Coupled) {x : PoseSlot}
    {f : LatestSlot Bytes → LatestSlot Bytes} {l : NetworkLoop D} {passed : List Bytes}
    (hsound : (f (r.slot x)).Sound)
    (hheld : ∀ y, l.holds y = if y = x then (f (r.slot x)).held else r.loop.holds y)
    (hreads : ∀ y, Reads y l.inHand (if y = x then f (r.slot y) else r.slot y).phase)
    (hpassed : (f (r.slot x)).sent.map Prod.snd = (r.slot x).sent.map Prod.snd ++ passed)
    (hroom : l.transport.roomId = r.loop.transport.roomId)
    (htrace : l.trace .transform = r.loop.trace .transform ++
      passed.flatMap fun payload ↦ [.frame r.loop.transport.roomId true, .frame payload false])
    (husable : l.transport.usable = r.loop.transport.usable) :
    ({ r.onSlot x f with loop := l, sends := r.sends ++ passed.map (x, ·) } :
      SlotRun D).Coupled where
  sound y := by
    show (if y = x then f (r.slot y) else r.slot y).Sound
    split
    · next hy => rwa [hy]
    · exact h.sound y
  held y := by
    show (if y = x then f (r.slot y) else r.slot y).held = l.holds y
    rw [hheld]
    split
    · next hy => rw [hy]
    · exact h.held y
  reads := hreads
  sends y := by
    show (if y = x then f (r.slot y) else r.slot y).sent.map Prod.snd = _
    rw [List.filter_append, List.map_append, ← h.sends y]
    by_cases hy : y = x
    · subst hy
      rw [if_pos rfl, hpassed]
      simp [List.filter_map, Function.comp_def]
    · simp [hy, List.filter_map, Function.comp_def, Ne.symm hy]
  trace := by
    show l.trace .transform = (r.sends ++ passed.map (x, ·)).flatMap
      fun send ↦ [.frame l.transport.roomId true, .frame send.2 false]
    rw [htrace, hroom, h.trace, List.flatMap_append, List.flatMap_map]
  usable := husable.trans h.usable

/-- When the network thread has at most one slot in hand, before and after, the readers of the
others are idle. -/
theorem Coupled.reads_of_idle {r : SlotRun D} (h : r.Coupled) {x : PoseSlot}
    {f : LatestSlot Bytes → LatestSlot Bytes} {inHand : Option (PoseSlot × Bytes × Bool)}
    (hbefore : ∀ y payload sent, r.loop.inHand = some (y, payload, sent) → y = x)
    (hafter : ∀ y payload sent, inHand = some (y, payload, sent) → y = x)
    (hthis : Reads x inHand (f (r.slot x)).phase) (y : PoseSlot) :
    Reads y inHand (if y = x then f (r.slot y) else r.slot y).phase := by
  split
  · next hy => rwa [hy]
  · next hy =>
    rw [h.idle fun payload sent hhand ↦ hy (hbefore y payload sent hhand)]
    exact fun payload sent hhand ↦ hy (hafter y payload sent hhand)

/-- The history of the slot whose copy is in hand is that of a slot with a copy. -/
theorem Coupled.phase_of_copied {r : SlotRun D} (h : r.Coupled) {x : PoseSlot} {payload : Bytes}
    (hcopied : r.loop.inHand = some (x, payload, false)) :
    ∃ place, (r.slot x).phase = .copied place payload := by
  have hreads := h.reads x
  rw [hcopied] at hreads
  cases hphase : (r.slot x).phase with
  | idle =>
    rw [hphase] at hreads
    exact absurd rfl (hreads payload false)
  | copied place payload' =>
    rw [hphase] at hreads
    obtain rfl : payload = payload' := by simpa [Reads] using hreads
    exact ⟨place, rfl⟩
  | passed place payload' =>
    rw [hphase] at hreads
    simp [Reads] at hreads

theorem Coupled.phase_of_sent {r : SlotRun D} (h : r.Coupled) {x : PoseSlot} {payload : Bytes}
    (hsent : r.loop.inHand = some (x, payload, true)) :
    ∃ place, (r.slot x).phase = .passed place payload := by
  have hreads := h.reads x
  rw [hsent] at hreads
  cases hphase : (r.slot x).phase with
  | idle =>
    rw [hphase] at hreads
    exact absurd rfl (hreads payload true)
  | copied place payload' =>
    rw [hphase] at hreads
    simp [Reads] at hreads
  | passed place payload' =>
    rw [hphase] at hreads
    obtain rfl : payload = payload' := by simpa [Reads] using hreads
    exact ⟨place, rfl⟩

/-- A call that sets a slot leaves its reader where it is. -/
theorem Coupled.set {r : SlotRun D} (h : r.Coupled) (x : PoseSlot) (payload : Bytes)
    {l : NetworkLoop D} (hholds : ∀ y, l.holds y = if y = x then some payload else r.loop.holds y)
    (hhand : l.inHand = r.loop.inHand) (hroom : l.transport.roomId = r.loop.transport.roomId)
    (htrace : l.trace = r.loop.trace) (husable : l.transport.usable = r.loop.transport.usable) :
    ({ r.onSlot x (LatestSlot.set payload) with
      loop := l, sends := r.sends ++ ([] : List Bytes).map (x, ·) } : SlotRun D).Coupled := by
  refine h.onSlot ((h.sound x).set payload) hholds ?_ (by simp [LatestSlot.set]) hroom
    (by rw [htrace]; simp) husable
  intro y
  rw [hhand]
  have hreads := h.reads y
  split <;> exact hreads

variable [Double D]

theorem Coupled.visit {r : SlotRun D} (h : r.Coupled) {x : PoseSlot}
    (hvisits : r.loop.visits = some x) (now : D) (a : Answers) :
    (r.step (.network now a)).Coupled := by
  obtain ⟨htransport, hhand⟩ := NetworkLoop.advance_of_visits hvisits now a
  have hnone : r.loop.inHand = none := by
    rw [NetworkLoop.visits] at hvisits
    split at hvisits <;> simp_all [NetworkLoop.inHand]
  have hidle : (r.slot x).phase = .idle := h.idle (by simp [hnone])
  have hstep : r.step (.network now a) =
      { r.onSlot x LatestSlot.copy with
        loop := r.loop.advance now a, sends := r.sends ++ ([] : List Bytes).map (x, ·) } := by
    simp [step, observe, hvisits, NetworkLoop.step, SlotRun.onSlot]
  rw [hstep]
  refine h.onSlot (h.sound x).copy ?_ (h.reads_of_idle (by simp [hnone]) ?_ ?_) (by simp)
    (by rw [htransport]) ?_ (by rw [htransport])
  · intro y
    have hsame : (r.loop.advance now a).holds y = r.loop.holds y :=
      NetworkLoop.holds_congr (congrArg ZmqTransport.poseView htransport) y
    rw [hsame, LatestSlot.held_copy, h.held x]
    split
    · next hy => rw [hy]
    · rfl
  · intro y payload sent hsome
    rw [hhand, Option.map_eq_some_iff] at hsome
    obtain ⟨payload', -, hpair⟩ := hsome
    exact (Prod.mk.inj hpair).1.symm
  · -- the reader has the copy that the network thread has, or nothing was held
    rw [hhand, ← h.held x]
    rcases hheld : (r.slot x).held with - | payload
    · simp [LatestSlot.copy, hidle, hheld, Reads]
    · simp [LatestSlot.copy, hidle, hheld, Reads]
  · rw [NetworkLoop.trace_advance, NetworkLoop.traceAfter_of_offers_none]
    · simp
    · rw [NetworkLoop.visits] at hvisits
      rw [NetworkLoop.offers]
      split at hvisits <;> simp_all

/-- What the transform socket sees of a copy that is offered to it. -/
theorem trace_of_copied {r : SlotRun D} {x : PoseSlot} {payload : Bytes}
    (hcopied : r.loop.inHand = some (x, payload, false)) (now : D) (a : Answers) :
    (r.loop.advance now a).trace .transform =
      r.loop.trace .transform ++ trySendMultipart r.loop.transport.roomId payload a := by
  obtain ⟨hoffers, -, -⟩ := NetworkLoop.advance_of_copied hcopied now a
  rw [NetworkLoop.trace_advance, NetworkLoop.traceAfter_of_offers_some hoffers, if_pos rfl]

theorem Coupled.offer {r : SlotRun D} (h : r.Coupled) {x : PoseSlot} {payload : Bytes}
    (hcopied : r.loop.inHand = some (x, payload, false)) (now : D) {a : Answers}
    (ha : a.result ≠ .broken) : (r.step (.network now a)).Coupled := by
  obtain ⟨-, htransport, hhand⟩ := NetworkLoop.advance_of_copied hcopied now a
  obtain ⟨place, hphase⟩ := h.phase_of_copied hcopied
  have hview : (r.loop.advance now a).transport.poseView = r.loop.transport.poseView := by
    rw [htransport]
    exact ZmqTransport.poseView_noteSend ha _
  have hroom : (r.loop.advance now a).transport.roomId = r.loop.transport.roomId :=
    congrArg (fun view ↦ view.2.2.1) hview
  have husable : (r.loop.advance now a).transport.usable = r.loop.transport.usable :=
    congrArg (fun view ↦ view.2.2.2) hview
  have hvisits : r.loop.visits = none := by
    rw [NetworkLoop.inHand] at hcopied
    rw [NetworkLoop.visits]
    split at hcopied <;> simp_all
  have hbefore (y : PoseSlot) (payload' : Bytes) (sent : Bool)
      (hsome : r.loop.inHand = some (y, payload', sent)) : y = x := by
    rw [hcopied] at hsome
    exact (Prod.mk.inj (Option.some.inj hsome)).1.symm
  have hheld {f : LatestSlot Bytes → LatestSlot Bytes}
      (hf : (f (r.slot x)).held = (r.slot x).held) (y : PoseSlot) :
      (r.loop.advance now a).holds y = if y = x then (f (r.slot x)).held else r.loop.holds y := by
    rw [NetworkLoop.holds_congr hview y, hf, h.held x]
    split
    · next hy => rw [hy]
    · rfl
  have htrace := trace_of_copied hcopied now a
  by_cases hsent : a.result = .sent
  · have hstep : r.step (.network now a) =
        { r.onSlot x LatestSlot.pass with
          loop := r.loop.advance now a, sends := r.sends ++ [payload].map (x, ·) } := by
      simp [step, observe, hvisits, hcopied, hsent, NetworkLoop.step, SlotRun.onSlot]
    rw [hstep]
    rw [if_pos hsent] at hhand
    refine h.onSlot (h.sound x).pass (hheld (LatestSlot.held_pass _))
      (h.reads_of_idle hbefore ?_ ?_) ?_ hroom ?_ husable
    · intro y payload' sent hsome
      rw [hhand] at hsome
      exact (Prod.mk.inj (Option.some.inj hsome)).1.symm
    · simp [LatestSlot.pass, hphase, Reads, hhand]
    · simp [LatestSlot.pass, hphase]
    · rw [htrace, trySendMultipart_of_sent hsent]
      simp
  · have hstep : r.step (.network now a) =
        { r.onSlot x LatestSlot.giveUp with
          loop := r.loop.advance now a, sends := r.sends ++ ([] : List Bytes).map (x, ·) } := by
      simp [step, observe, hvisits, hcopied, hsent, NetworkLoop.step, SlotRun.onSlot]
    rw [hstep]
    rw [if_neg hsent] at hhand
    refine h.onSlot (h.sound x).giveUp (hheld (LatestSlot.held_giveUp _))
      (h.reads_of_idle hbefore (by simp [hhand]) ?_) (by simp) hroom ?_ husable
    · simp [LatestSlot.giveUp, hphase, Reads, hhand]
    · have hblocked : a.result = .wouldBlock := by
        cases hresult : a.result with
        | sent => exact absurd hresult hsent
        | wouldBlock => rfl
        | broken => exact absurd hresult ha
      rw [htrace, trySendMultipart_of_wouldBlock hblocked]
      simp

theorem Coupled.settle {r : SlotRun D} (h : r.Coupled) {x : PoseSlot} {payload : Bytes}
    (hsent : r.loop.inHand = some (x, payload, true)) (now : D) (a : Answers) :
    (r.step (.network now a)).Coupled := by
  obtain ⟨hhand, hroom, husable, hholds⟩ := NetworkLoop.advance_of_sent hsent now a
  obtain ⟨place, hphase⟩ := h.phase_of_sent hsent
  have hvisits : r.loop.visits = none := by
    rw [NetworkLoop.inHand] at hsent
    rw [NetworkLoop.visits]
    split at hsent <;> simp_all
  have hstep : r.step (.network now a) =
      { r.onSlot x LatestSlot.clear with
        loop := r.loop.advance now a, sends := r.sends ++ ([] : List Bytes).map (x, ·) } := by
    simp [step, observe, hvisits, hsent, NetworkLoop.step, SlotRun.onSlot]
  rw [hstep]
  refine h.onSlot (h.sound x).clear ?_ (h.reads_of_idle ?_ (by simp [hhand]) ?_) (by simp) hroom
    ?_ husable
  · intro y
    rw [hholds, LatestSlot.clear, hphase]
    split
    · next hy => rw [hy, ← h.held x]
    · rfl
  · intro y payload' sent hsome
    rw [hsent] at hsome
    exact (Prod.mk.inj (Option.some.inj hsome)).1.symm
  · simp [LatestSlot.clear, hphase, Reads, hhand]
  · rw [NetworkLoop.trace_advance, NetworkLoop.traceAfter_of_offers_none]
    · simp
    · rw [NetworkLoop.inHand] at hsent
      rw [NetworkLoop.offers]
      split at hsent <;> simp_all

theorem Coupled.advance {r : SlotRun D} (h : r.Coupled) (now : D) {a : Answers}
    (ha : a.result ≠ .broken) : (r.step (.network now a)).Coupled := by
  rcases hvisits : r.loop.visits with - | x
  · rcases hhand : r.loop.inHand with - | ⟨x, payload, sent⟩
    · obtain ⟨hview, hnone, htrace⟩ := NetworkLoop.advance_of_elsewhere hvisits hhand now ha
      have hstep : r.step (.network now a) = { r with loop := r.loop.advance now a } := by
        simp [step, observe, hvisits, hhand, NetworkLoop.step]
      rw [hstep]
      exact h.of_view hview (hnone.trans hhand.symm) htrace
    · cases sent with
      | false => exact h.offer hhand now ha
      | true => exact h.settle hhand now a
  · exact h.visit hvisits now a

/-- **What one step keeps.** -/
theorem Coupled.step {r : SlotRun D} (h : r.Coupled) {e : LoopStep D} (he : e.Ordinary) :
    (r.step e).Coupled := by
  cases e with
  | network now a => exact h.advance now he
  | enqueueControl payload now =>
    have hstep : r.step (.enqueueControl payload now) =
        { r with
          loop := { r.loop with transport := (r.loop.transport.pushControl payload now).2 } } := by
      simp [SlotRun.step, NetworkLoop.step, h.usable]
    rw [hstep]
    exact h.of_view (ZmqTransport.poseView_pushControl payload now _) rfl rfl
  | setLatestTransform payload now =>
    have hset := h.set .avatar payload (r.loop.holds_setLatestTransform payload now) rfl rfl rfl rfl
    simpa [SlotRun.step, NetworkLoop.step, h.usable, SlotRun.onSlot] using hset
  | setLatestObjectTransform objectId payload now =>
    by_cases hid : objectId = 0
    · -- object id zero is ignored
      have hstep : r.step (.setLatestObjectTransform objectId payload now) = r := by
        simp [SlotRun.step, NetworkLoop.step, hid]
      rw [hstep]
      exact h
    · have hset := h.set (.object objectId) payload
        (r.loop.holds_setLatestObjectTransform objectId payload now) rfl rfl rfl rfl
      simpa [SlotRun.step, NetworkLoop.step, h.usable, hid, SlotRun.onSlot] using hset
  | clearOutgoing => exact he.elim
  | requestStop => exact he.elim

theorem coupled_run (roomId : Bytes) {steps : List (LoopStep D)}
    (hsteps : ∀ e ∈ steps, e.Ordinary) :
    (steps.foldl SlotRun.step (started roomId)).Coupled :=
  List.foldlRecOn (motive := Coupled) steps SlotRun.step (coupled_started roomId)
    fun _ h e he ↦ h.step (hsteps e he)

omit [Double D] in
/-- The network thread sets nothing. -/
theorem sets_observe (r : SlotRun D) (a : Answers) (x : PoseSlot) :
    ((r.observe a).slot x).sets = (r.slot x).sets := by
  have hon (y : PoseSlot) {f : LatestSlot Bytes → LatestSlot Bytes}
      (hf : ∀ s, (f s).sets = s.sets) : ((r.onSlot y f).slot x).sets = (r.slot x).sets := by
    show (if x = y then f (r.slot x) else r.slot x).sets = _
    split
    · exact hf _
    · rfl
  rw [observe]
  split
  · exact hon _ LatestSlot.sets_copy
  · split
    · exact hon _ LatestSlot.sets_pass
    · exact hon _ LatestSlot.sets_giveUp
  · exact hon _ LatestSlot.sets_clear
  · rfl

/-- The history of a slot has the calls that set it. -/
theorem Coupled.sets_step {r : SlotRun D} (h : r.Coupled) (e : LoopStep D) (x : PoseSlot) :
    ((r.step e).slot x).sets = (r.slot x).sets ++ (e.setsTo x).toList := by
  cases e with
  | network now a =>
    show ((r.observe a).slot x).sets = (r.slot x).sets ++ []
    rw [List.append_nil]
    exact sets_observe r a x
  | setLatestTransform payload now =>
    by_cases hx : x = .avatar
    · simp [SlotRun.step, h.usable, SlotRun.onSlot, LoopStep.setsTo, hx, LatestSlot.set]
    · simp [SlotRun.step, h.usable, SlotRun.onSlot, LoopStep.setsTo, hx]
  | setLatestObjectTransform objectId payload now =>
    by_cases hid : objectId = 0
    · simp [SlotRun.step, hid, LoopStep.setsTo]
    · by_cases hx : x = .object objectId
      · simp [SlotRun.step, h.usable, SlotRun.onSlot, LoopStep.setsTo, hid, hx, LatestSlot.set]
      · simp [SlotRun.step, h.usable, SlotRun.onSlot, LoopStep.setsTo, hid, hx]
  | enqueueControl payload now => simp [SlotRun.step, LoopStep.setsTo]
  | clearOutgoing => simp [SlotRun.step, LoopStep.setsTo]
  | requestStop => simp [SlotRun.step, LoopStep.setsTo]

theorem Coupled.sets_run {r : SlotRun D} (h : r.Coupled) {steps : List (LoopStep D)}
    (hsteps : ∀ e ∈ steps, e.Ordinary) (x : PoseSlot) :
    ((steps.foldl SlotRun.step r).slot x).sets =
      (r.slot x).sets ++ steps.filterMap (LoopStep.setsTo x) := by
  induction steps generalizing r with
  | nil => simp
  | cons e steps ih =>
    have hnext := h.step (hsteps e List.mem_cons_self)
    have hrest := ih hnext fun e' he' ↦ hsteps e' (List.mem_cons_of_mem _ he')
    rw [List.foldl_cons, hrest, h.sets_step e x, List.append_assoc]
    congr 1
    rcases hsets : e.setsTo x with - | payload
    · rw [List.filterMap_cons_none hsets]
      rfl
    · rw [List.filterMap_cons_some hsets]
      rfl

/-- **Latest-wins slots never lose the newest pose.** However the calls that set the slots
interleave with the network thread, every such call is taken, and for every slot: it holds the
payload that was set last, or the payload sent last from it equals that one; and every payload sent
from it is that of a call which set it, and of a later call than the one sent before. What was sent,
from all slots together, is what the transform socket has seen. -/
theorem latest_slots_keep_newest (roomId : Bytes) (steps : List (LoopStep D))
    (hsteps : ∀ e ∈ steps, e.Ordinary) :
    let r := steps.foldl SlotRun.step (started roomId)
    r.loop.trace .transform =
      r.sends.flatMap (fun send ↦
        [.frame r.loop.transport.roomId true, .frame send.2 false]) ∧
    ∀ x, (r.slot x).sets = steps.filterMap (LoopStep.setsTo x) ∧
      (∀ payload, (r.slot x).sets.getLast? = some payload →
        r.loop.holds x = some payload ∨
          (r.slot x).sent.getLast?.map Prod.snd = some payload) ∧
      (r.slot x).sent.map Prod.snd = (r.sends.filter fun send ↦ send.1 = x).map Prod.snd ∧
      (∀ send ∈ (r.slot x).sent, (r.slot x).sets[send.1]? = some send.2) ∧
      (r.slot x).sent.Pairwise fun earlier later ↦ earlier.1 < later.1 := by
  intro r
  have h : r.Coupled := coupled_run roomId hsteps
  refine ⟨h.trace, fun x ↦ ⟨(coupled_started roomId).sets_run hsteps x, fun payload hlast ↦ ?_,
    h.sends x, (h.sound x).places, (h.sound x).ordered⟩⟩
  rw [← h.held x]
  exact (h.sound x).newest hlast

/-- A pose is set, copied, overwritten while it is sent, and the new one stays. -/
theorem latest_slots_keep_newest_overwritten :
    let taken : Answers := ⟨true, true, true⟩
    let steps : List (LoopStep ℚ) :=
      [.setLatestTransform [1] 0, .network 0 taken, .network 0 taken, .network 0 taken,
        .network 0 taken, .setLatestTransform [2] 0, .network 0 taken]
    let r := steps.foldl SlotRun.step (started [9])
    r.loop.trace .transform = [.frame [9] true, .frame [1] false] ∧
      r.loop.holds .avatar = some [2] ∧
      ∀ x, (r.slot x).sent.Pairwise fun earlier later ↦ earlier.1 < later.1 := by
  intro taken steps r
  have h := latest_slots_keep_newest [9] steps (by decide +kernel)
  exact ⟨by decide +kernel, by decide +kernel, fun x ↦ (h.2 x).2.2.2.2⟩

end SlotRun

end StylyNetSync
