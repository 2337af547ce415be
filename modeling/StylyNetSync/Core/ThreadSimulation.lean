import StylyNetSync.Core.SharedState
import StylyNetSync.Transport.ThreadStop

/-!
# The network thread as the client sees it

For the client, the network thread is whatever takes the steps of a schedule: it drains the outbox,
clears slots, gives up, and reports. Here the thread itself is put in that place. `networkSteps`
says which steps a transition of it amounts to, and the two levels stay in agreement: on the flags
and the queues of the transport, and on what the callbacks leave in the inbox. So what holds for
every schedule holds with the network thread as it is.

The counters of sent and refused messages are not part of the agreement: the upper level counts on
the control lane only.
-/

namespace StylyNetSync

variable {D : Type} [Double D]

/-- What the client does in a callback of the transport. -/
def Inbox.hear (inbox : Inbox) : TransportCallback → Inbox
  | .connected => inbox.notify .connected
  | .error text => inbox.notify (.error text)
  | .log text => inbox.notify (.log text)
  | .payload lane data => inbox.receive lane data

/-- A step of the network thread, or one of the host's thread on the transport and the inbox. -/
inductive ThreadedStep (D : Type)
  | thread (encounter : Encounter D)
  | startTransport (config : TransportConfig) (contextError : Option String)
  | stopBegin
  | stopClear
  | stopJoin
  | tryEnqueueControl (message : ControlMessage) (now : D)
  | setLatestTransform (payload : Bytes) (now : D)
  | setLatestObjectTransform (objectId : UInt32) (payload : Bytes) (now : D)
  | pushLog (text : String)
  | takeNotifications
  | takeMail
  | clearInbox

/-- The network thread, and the inbox that its callbacks fill. -/
structure Threaded (D : Type) where
  thread : NetworkThread D := {}
  inbox : Inbox := {}

namespace Threaded

/-- What is called back in a step of the transport. -/
def stepCalls (t : NetworkThread D) : ThreadStep D → List TransportCallback
  | .thread encounter => (t.advance encounter).calls.drop t.calls.length
  | .start config contextError =>
    if t.stopping = .idle ∧ ¬(t.loop.transport.running ∨ t.stage ≠ .absent) then
      (t.start config contextError).2.calls
    else []
  | _ => []

/-- A step of the transport, and what its callbacks do to the inbox. -/
def transportStep (e : ThreadStep D) (c : Threaded D) : Threaded D where
  thread := c.thread.step e
  inbox := (stepCalls c.thread e).foldl Inbox.hear c.inbox

/-- What the host does to the inbox, unless it waits in `stop`. -/
def onInbox (f : Inbox → Inbox) (c : Threaded D) : Threaded D :=
  if c.thread.stopping = .idle then { c with inbox := f c.inbox } else c

def step (c : Threaded D) : ThreadedStep D → Threaded D
  | .thread encounter => c.transportStep (.thread encounter)
  | .startTransport config contextError => c.transportStep (.start config contextError)
  | .stopBegin => c.transportStep .stopBegin
  | .stopClear => c.transportStep .stopClear
  | .stopJoin => c.transportStep .stopJoin
  | .tryEnqueueControl message now => c.transportStep (.enqueueControl message.payload now)
  | .setLatestTransform payload now => c.transportStep (.setLatestTransform payload now)
  | .setLatestObjectTransform objectId payload now =>
    c.transportStep (.setLatestObjectTransform objectId payload now)
  | .pushLog text => c.onInbox fun inbox ↦ inbox.notify (.log text)
  | .takeNotifications => c.onInbox fun inbox ↦ { inbox with notifications := [] }
  | .takeMail =>
    c.onInbox fun inbox ↦
      { inbox with control := [], latestRoomPose := none, latestRoomObjects := none }
  | .clearInbox => c.onInbox fun inbox ↦ { controlDropped := inbox.controlDropped }

end Threaded

/-! ### The level above -/

/-- A step of another thread on the shared state, or a call of the host's thread. -/
inductive SharedMove (D : Type)
  | network (step : NetworkStep D)
  | startTransport (roomId : Bytes)
  | stopTransport
  | tryEnqueueControl (message : ControlMessage)
  | setLatestTransform (payload : Bytes)
  | setLatestObjectTransform (objectId : UInt32) (payload : Bytes)
  | pushLog (text : String)
  | takeNotifications
  | takeMail
  | clearInbox

def Shared.move (w : Shared D) : SharedMove D → Shared D
  | .network step => w.step step
  | .startTransport roomId => (w.startTransport roomId).2
  | .stopTransport => w.stopTransport
  | .tryEnqueueControl message => (w.tryEnqueueControl message).2
  | .setLatestTransform payload => w.setLatestTransform payload
  | .setLatestObjectTransform objectId payload => w.setLatestObjectTransform objectId payload
  | .pushLog text => w.pushLog text
  | .takeNotifications => w.takeNotifications.2
  | .takeMail => w.takeMail.2
  | .clearInbox => w.clearInbox

/-- What a callback is on the level above. -/
def TransportCallback.networkStep : TransportCallback → NetworkStep D
  | .connected => .notify .connected
  | .error text => .notify (.error text)
  | .log text => .notify (.log text)
  | .payload lane data => .payload lane data

namespace NetworkThread

/-- What a broken send is on the level above. -/
def brokenSteps (encounter : Encounter D) : List (NetworkStep D) :=
  if encounter.send.result = .broken then
    [.fail, (abandoned encounter.reason).networkStep]
  else []

/-- The steps that a transition of the loop amounts to. While the host waits for the join the queues
are empty, and there is nothing to be done to them. -/
def loopSteps (encounter : Encounter D) (t : NetworkThread D) : List (NetworkStep D) :=
  if t.stopping = .joining then
    match t.loop.phase with
    | .transformCopied _ => brokenSteps encounter
    | .objectCopied _ _ _ => brokenSteps encounter
    | _ => []
  else
    match t.loop.phase with
    | .head =>
      if t.loop.transport.shouldStop then [] else [.time encounter.now, .drainBegin]
    | .draining => [.drainStep encounter.send.result encounter.reason]
    | .transformCopied _ => brokenSteps encounter
    | .transformSent payload => [.clearSentTransform payload]
    | .objectCopied _ _ _ => brokenSteps encounter
    | .objectSent objectId payload _ => [.clearSentObjectTransform objectId payload]
    | _ => []

/-- **The steps that a transition of the network thread amounts to.** -/
def networkSteps (encounter : Encounter D) (t : NetworkThread D) : List (NetworkStep D) :=
  match t.stage with
  | .looping => t.loopSteps encounter
  | .setUp (_ :: _) =>
    (if encounter.setUp.isSome then [.fail] else []) ++
      (Threaded.stepCalls t (.thread encounter)).map TransportCallback.networkStep
  | _ => (Threaded.stepCalls t (.thread encounter)).map TransportCallback.networkStep

end NetworkThread

/-- The moves that a step amounts to. `stop` is made where it ends: at the join, or at once if there
is no thread. -/
def Threaded.moves (c : Threaded D) : ThreadedStep D → List (SharedMove D)
  | .thread encounter => (c.thread.networkSteps encounter).map .network
  | .stopBegin =>
    if c.thread.stopping = .idle ∧ c.thread.stage = .absent then [.stopTransport] else []
  | .stopClear => []
  | .stopJoin =>
    if c.thread.stopping = .joining ∧ c.thread.stage = .returned then [.stopTransport] else []
  | e =>
    if c.thread.stopping = .idle then
      match e with
      | .startTransport config contextError =>
        [.network (.context contextError), .startTransport config.roomId]
      | .tryEnqueueControl message now => [.network (.time now), .tryEnqueueControl message]
      | .setLatestTransform payload now => [.network (.time now), .setLatestTransform payload]
      | .setLatestObjectTransform objectId payload now =>
        [.network (.time now), .setLatestObjectTransform objectId payload]
      | .pushLog text => [.pushLog text]
      | .takeNotifications => [.takeNotifications]
      | .takeMail => [.takeMail]
      | .clearInbox => [.clearInbox]
      | _ => []
    else []

/-! ### Agreement -/

omit [Double D] in
/-- A packet on the level below. -/
def OutboundPacket.encoded (packet : OutboundPacket ControlMessage D) : OutboundPacket Bytes D :=
  ⟨packet.payload.payload, packet.enqueuedAt⟩

/-- The same is queued on both levels. -/
structure SameQueues (l : ZmqTransport Bytes D) (t : ZmqTransport ControlMessage D) : Prop where
  outbox : l.controlOutbox = t.controlOutbox.map OutboundPacket.encoded
  pending : l.pendingControl = t.pendingControl.map OutboundPacket.encoded
  transform : l.latestTransform = t.latestTransform
  objects : l.latestObjectTransforms = t.latestObjectTransforms
  draining : l.draining = t.draining

/-- The transports agree, as far as they have to at the stage of `stop`: the level above hears of it
only when it is over, and the queues are cleared by then. -/
structure Agrees (t : NetworkThread D) (w : Shared D) : Prop where
  running : t.loop.transport.running = w.transport.running
  connectionError : t.loop.transport.connectionError = w.transport.connectionError
  roomId : t.loop.transport.roomId = w.transport.roomId
  shouldStop : t.stopping = .idle → t.loop.transport.shouldStop = w.transport.shouldStop
  queues : t.stopping ≠ .joining → SameQueues t.loop.transport w.transport
  noRound : t.stage = .absent → t.loop.transport.draining = none

/-- The two levels are in agreement. No steps are scheduled: on the level above they are moves of
their own. -/
structure Mirrors (c : Threaded D) (w : Shared D) : Prop where
  sound : c.thread.Sound
  nothingLeft : c.thread.NothingLeft
  agrees : Agrees c.thread w
  inbox : w.inbox = c.inbox
  schedule : w.schedule = []

/-- A drain round does the same on both levels. -/
theorem SameQueues.drainStep {l : ZmqTransport Bytes D} {t : ZmqTransport ControlMessage D}
    (h : SameQueues l t) (herror : l.connectionError = t.connectionError) (result : SendResult) :
    (l.drainStep result).1 = (t.drainStep result).1 ∧
      (l.drainStep result).2.connectionError = (t.drainStep result).2.connectionError ∧
      SameQueues (l.drainStep result).2 (t.drainStep result).2 := by
  rw [ZmqTransport.drainStep, ZmqTransport.drainStep, h.draining]
  rcases hround : t.draining with - | ⟨now, sent⟩
  · exact ⟨rfl, herror, h⟩
  dsimp only
  by_cases hbatch : sent ≥ kControlDrainBatch
  · rw [if_pos hbatch, if_pos hbatch]
    exact ⟨rfl, herror, ⟨h.outbox, h.pending, h.transform, h.objects, rfl⟩⟩
  rw [if_neg hbatch, if_neg hbatch]
  -- the packet at the head of the line, and the line behind it
  have htake : (l.takePending = none ∧ t.takePending = none) ∨
      ∃ packet l' t', l.takePending = some (packet.encoded, l') ∧
        t.takePending = some (packet, t') ∧ l'.connectionError = t'.connectionError ∧
        SameQueues l' t' := by
    rw [ZmqTransport.takePending, ZmqTransport.takePending, h.pending, h.outbox]
    cases hpending : t.pendingControl with
    | some packet =>
      exact Or.inr ⟨packet, l, t, rfl, rfl, herror, h⟩
    | none =>
      cases houtbox : t.controlOutbox with
      | nil => exact Or.inl ⟨rfl, rfl⟩
      | cons packet rest =>
        refine Or.inr ⟨packet, _, _, rfl, rfl, herror, ?_⟩
        exact ⟨rfl, rfl, h.transform, h.objects, h.draining⟩
  rcases htake with ⟨hl, ht⟩ | ⟨packet, l', t', hl, ht, herror', h'⟩
  · rw [hl, ht]
    exact ⟨rfl, herror, ⟨h.outbox, h.pending, h.transform, h.objects, rfl⟩⟩
  rw [hl, ht]
  dsimp only
  rw [OutboundPacket.encoded]
  dsimp only
  split
  · exact ⟨rfl, herror', ⟨h'.outbox, rfl, h'.transform, h'.objects, h'.draining⟩⟩
  · cases result with
    | sent => exact ⟨rfl, herror', ⟨h'.outbox, rfl, h'.transform, h'.objects, rfl⟩⟩
    | wouldBlock => exact ⟨rfl, herror', ⟨h'.outbox, h'.pending, h'.transform, h'.objects, rfl⟩⟩
    | broken => exact ⟨rfl, rfl, ⟨h'.outbox, h'.pending, h'.transform, h'.objects, rfl⟩⟩

omit [Double D] in
/-- Clearing a slot after a send does the same on both levels. -/
theorem SameQueues.clearSent {l : ZmqTransport Bytes D} {t : ZmqTransport ControlMessage D}
    (h : SameQueues l t) (objectId : UInt32) (payload : Bytes) :
    SameQueues (l.clearSentTransform payload) (t.clearSentTransform payload) ∧
      SameQueues (l.clearSentObjectTransform objectId payload)
        (t.clearSentObjectTransform objectId payload) := by
  constructor
  · rw [ZmqTransport.clearSentTransform, ZmqTransport.clearSentTransform, h.transform]
    split
    · exact ⟨h.outbox, h.pending, rfl, h.objects, h.draining⟩
    · exact h
  · rw [ZmqTransport.clearSentObjectTransform, ZmqTransport.clearSentObjectTransform, h.objects]
    split
    · exact ⟨h.outbox, h.pending, h.transform, rfl, h.draining⟩
    · exact h

omit [Double D] in
theorem clearSent_keeps {P : Type} (t : ZmqTransport P D) (objectId : UInt32) (payload : Bytes) :
    let cleared := t.clearSentTransform payload
    let erased := t.clearSentObjectTransform objectId payload
    (cleared.running = t.running ∧ cleared.shouldStop = t.shouldStop ∧ cleared.roomId = t.roomId) ∧
      cleared.connectionError = t.connectionError ∧
      (erased.running = t.running ∧ erased.shouldStop = t.shouldStop ∧ erased.roomId = t.roomId) ∧
      erased.connectionError = t.connectionError := by
  rw [ZmqTransport.clearSentTransform, ZmqTransport.clearSentObjectTransform]
  refine ⟨?_, ?_, ?_, ?_⟩ <;> split <;> simp

omit [Double D] in
/-- The bookkeeping of a send leaves the queues alone, and so does a flag on the other level. -/
theorem SameQueues.noteSend {l : ZmqTransport Bytes D} {t : ZmqTransport ControlMessage D}
    (h : SameQueues l t) (result : SendResult) (error : Bool) :
    SameQueues (l.noteSend result) { t with connectionError := error } := by
  cases result <;> exact ⟨h.outbox, h.pending, h.transform, h.objects, h.draining⟩

/-- Callbacks only fill the inbox. -/
theorem foldl_networkStep (calls : List TransportCallback) (w : Shared D) :
    let w' := (calls.map TransportCallback.networkStep).foldl Shared.step w
    w'.transport = w.transport ∧ w'.schedule = w.schedule ∧
      w'.inbox = calls.foldl Inbox.hear w.inbox := by
  induction calls generalizing w with
  | nil => exact ⟨rfl, rfl, rfl⟩
  | cons call calls ih =>
    obtain ⟨htransport, hschedule, hinbox⟩ := ih (w.step call.networkStep)
    have hfirst : (w.step call.networkStep).transport = w.transport ∧
        (w.step call.networkStep).schedule = w.schedule ∧
        (w.step call.networkStep).inbox = w.inbox.hear call := by
      cases call <;> exact ⟨rfl, rfl, rfl⟩
    rw [hfirst.1] at htransport
    rw [hfirst.2.1] at hschedule
    rw [hfirst.2.2] at hinbox
    exact ⟨htransport, hschedule, hinbox⟩

/-! ### Transitions of the loop -/

/-- In its loop the thread makes a transition of the loop, and calls back what goes with it. -/
theorem advance_looping {t : NetworkThread D} (hstage : t.stage = .looping)
    (encounter : Encounter D) :
    (t.advance encounter).loop = t.loop.advance encounter.now encounter.send ∧
      (t.advance encounter).stopping = t.stopping ∧ (t.advance encounter).stage ≠ .absent ∧
      Threaded.stepCalls t (.thread encounter) = NetworkThread.loopCalls encounter t.loop := by
  rw [Threaded.stepCalls, NetworkThread.advance, hstage]
  dsimp only
  split
  · next hphase =>
    refine ⟨by rw [NetworkLoop.advance, hphase], rfl, by simp, ?_⟩
    simp [NetworkThread.loopCalls, hphase]
  · next hphase =>
    refine ⟨rfl, rfl, by simp, ?_⟩
    simp [NetworkThread.loopCalls, hphase]
  · refine ⟨rfl, rfl, by simp, ?_⟩
    simp

/-- A broken send raises the flag and is reported. -/
theorem foldl_brokenSteps (encounter : Encounter D) (l : NetworkLoop D) (w : Shared D)
    (h : l.transport.connectionError = w.transport.connectionError) :
    let w' := (NetworkThread.brokenSteps encounter).foldl Shared.step w
    (l.transport.noteSend encounter.send.result).connectionError = w'.transport.connectionError ∧
      w'.transport = { w.transport with connectionError := w'.transport.connectionError } ∧
      w'.schedule = w.schedule ∧
      w'.inbox =
        (NetworkThread.poseCalls encounter.reason encounter.send.result).foldl Inbox.hear
          w.inbox := by
  rw [NetworkThread.brokenSteps, NetworkThread.poseCalls]
  cases encounter.send.result with
  | broken => exact ⟨rfl, rfl, rfl, rfl⟩
  | _ => exact ⟨h, rfl, rfl, rfl⟩

omit [Double D] in
/-- What a drain round reports is what the loop calls back. -/
theorem inbox_reportDrain (outcome : ZmqTransport.DrainOutcome) (reason : String) (w : Shared D) :
    (Shared.reportDrain outcome reason w).inbox =
        (NetworkThread.drainCalls reason outcome).foldl Inbox.hear w.inbox ∧
      (Shared.reportDrain outcome reason w).transport = w.transport ∧
      (Shared.reportDrain outcome reason w).schedule = w.schedule := by
  cases outcome <;> exact ⟨rfl, rfl, rfl⟩

/-- Only sends can raise the flag. -/
theorem connectionError_advance {l : NetworkLoop D} (hdraining : l.phase ≠ .draining)
    (htransform : ∀ payload, l.phase ≠ .transformCopied payload)
    (hobject : ∀ objectId payload objectIds, l.phase ≠ .objectCopied objectId payload objectIds)
    (now : D) (a : Answers) :
    (l.advance now a).transport.connectionError = l.transport.connectionError := by
  rw [NetworkLoop.advance]
  split
  · rfl
  · split
    · rfl
    · rw [ZmqTransport.drainBegin]
      split <;> rfl
  · next hphase => exact absurd hphase hdraining
  · split <;> rfl
  · next payload hphase => exact absurd hphase (htransform payload)
  · rw [ZmqTransport.clearSentTransform]
    split <;> rfl
  · rfl
  · rfl
  · split <;> rfl
  · next objectId payload objectIds hphase =>
    exact absurd hphase (hobject objectId payload objectIds)
  · rw [ZmqTransport.clearSentObjectTransform]
    split <;> rfl
  · rfl

/-- **A transition of the loop amounts to its steps.** -/
theorem agrees_loop {t : NetworkThread D} {w : Shared D} (hsound : t.Sound) (hleft : t.NothingLeft)
    (h : Agrees t w) (hstage : t.stage = .looping) (encounter : Encounter D) :
    let w' := (t.loopSteps encounter).foldl Shared.step w
    Agrees (t.advance encounter) w' ∧ w'.schedule = w.schedule ∧
      w'.inbox = (NetworkThread.loopCalls encounter t.loop).foldl Inbox.hear w.inbox := by
  obtain ⟨hloop, hstopping, hthere, -⟩ := advance_looping hstage encounter
  -- it is enough to compare the transports
  have hagrees (w' : Shared D) (hflags : w'.transport.running = w.transport.running ∧
      w'.transport.shouldStop = w.transport.shouldStop ∧ w'.transport.roomId = w.transport.roomId)
      (herror : (t.loop.advance encounter.now encounter.send).transport.connectionError =
        w'.transport.connectionError)
      (hqueues : t.stopping ≠ .joining →
        SameQueues (t.loop.advance encounter.now encounter.send).transport w'.transport) :
      Agrees (t.advance encounter) w' := by
    obtain ⟨hrunning, hstop, hroom⟩ :=
      NetworkThread.loop_advance_keeps t.loop encounter.now encounter.send
    refine ⟨?_, ?_, ?_, fun hidle ↦ ?_, fun hne ↦ ?_, fun habsent ↦ absurd habsent hthere⟩
    · rw [hloop, hrunning, h.running, hflags.1]
    · rw [hloop, herror]
    · rw [hloop, hroom, h.roomId, hflags.2.2]
    · rw [hstopping] at hidle
      rw [hloop, hstop, h.shouldStop hidle, hflags.2.1]
    · rw [hstopping] at hne
      rw [hloop]
      exact hqueues hne
  have hbroken := foldl_brokenSteps encounter t.loop w h.connectionError
  rw [NetworkThread.loopSteps, NetworkThread.loopCalls]
  by_cases hjoining : t.stopping = .joining
  · have hemptied := hleft (Or.inr hjoining)
    have hstop : t.loop.transport.shouldStop = true :=
      (hsound.stopping (by simp [hjoining])).2
    rw [if_pos hjoining]
    cases hphase : t.loop.phase with
    | transformCopied payload =>
      obtain ⟨herror, hsame, hschedule, hinbox⟩ := hbroken
      refine ⟨hagrees _ ?_ ?_ fun hne ↦ absurd hjoining hne, hschedule, hinbox⟩
      · rw [hsame]
        exact ⟨rfl, rfl, rfl⟩
      · simpa only [NetworkLoop.advance, hphase] using herror
    | objectCopied objectId payload objectIds =>
      obtain ⟨herror, hsame, hschedule, hinbox⟩ := hbroken
      refine ⟨hagrees _ ?_ ?_ fun hne ↦ absurd hjoining hne, hschedule, hinbox⟩
      · rw [hsame]
        exact ⟨rfl, rfl, rfl⟩
      · simpa only [NetworkLoop.advance, hphase] using herror
    | draining =>
      -- nothing is left to be drained
      have hnone : t.loop.transport.takePending = none := by
        simp [ZmqTransport.takePending, hemptied.pending, hemptied.outbox]
      have hround : (t.loop.transport.drainStep encounter.send.result).1 = .finished ∧
          (t.loop.transport.drainStep encounter.send.result).2.connectionError =
            t.loop.transport.connectionError := by
        rw [ZmqTransport.drainStep]
        split
        · exact ⟨rfl, rfl⟩
        · split
          · exact ⟨rfl, rfl⟩
          · rw [hnone]
            exact ⟨rfl, rfl⟩
      refine ⟨hagrees _ ⟨rfl, rfl, rfl⟩ ?_ fun hne ↦ absurd hjoining hne, rfl, ?_⟩
      · simp only [NetworkLoop.advance, hphase]
        exact hround.2.trans h.connectionError
      · rw [hround.1]
        rfl
    | _ =>
      refine ⟨hagrees _ ⟨rfl, rfl, rfl⟩ ?_ fun hne ↦ absurd hjoining hne, rfl, rfl⟩
      rw [connectionError_advance (by simp [hphase]) (by simp [hphase]) (by simp [hphase])]
      exact h.connectionError
  · have hqueues := h.queues hjoining
    have hquiet (hdraining : t.loop.phase ≠ .draining)
        (htransform : ∀ payload, t.loop.phase ≠ .transformCopied payload)
        (hobject : ∀ objectId payload objectIds,
          t.loop.phase ≠ .objectCopied objectId payload objectIds) :
        (t.loop.advance encounter.now encounter.send).transport.connectionError =
          w.transport.connectionError :=
      (connectionError_advance hdraining htransform hobject _ _).trans h.connectionError
    rw [if_neg hjoining]
    cases hphase : t.loop.phase with
    | head =>
      have hclear := hquiet (by simp [hphase]) (by simp [hphase]) (by simp [hphase])
      dsimp only
      split
      · next hstop =>
        refine ⟨hagrees _ ⟨rfl, rfl, rfl⟩ hclear fun _ ↦ ?_, rfl, rfl⟩
        simpa [NetworkLoop.advance, hphase, hstop] using hqueues
      · next hstop =>
        have hround : SameQueues (t.loop.transport.drainBegin encounter.now)
            (w.transport.drainBegin encounter.now) := by
          rw [ZmqTransport.drainBegin, ZmqTransport.drainBegin, hqueues.draining]
          split
          · exact ⟨hqueues.outbox, hqueues.pending, hqueues.transform, hqueues.objects, rfl⟩
          · exact hqueues
        have hflags (transport : ZmqTransport ControlMessage D) :
            (transport.drainBegin encounter.now).running = transport.running ∧
              (transport.drainBegin encounter.now).shouldStop = transport.shouldStop ∧
              (transport.drainBegin encounter.now).roomId = transport.roomId ∧
              (transport.drainBegin encounter.now).connectionError =
                transport.connectionError := by
          rw [ZmqTransport.drainBegin]
          split <;> exact ⟨rfl, rfl, rfl, rfl⟩
        obtain ⟨hrunning, hflag, hroom, herror⟩ := hflags w.transport
        refine ⟨hagrees _ ⟨hrunning, hflag, hroom⟩ (hclear.trans herror.symm) fun _ ↦ ?_, rfl, rfl⟩
        simpa [NetworkLoop.advance, hphase, hstop, Shared.step] using hround
    | draining =>
      obtain ⟨hrunning, hflag, hroom, -⟩ :=
        NetworkThread.drainStep_keeps w.transport encounter.send.result
      obtain ⟨houtcome, herror, hround⟩ :=
        hqueues.drainStep h.connectionError encounter.send.result
      obtain ⟨hinbox, hsame, hschedule⟩ :=
        inbox_reportDrain (w.transport.drainStep encounter.send.result).1 encounter.reason
          { w with
            transport := (w.transport.drainStep encounter.send.result).2
            lostNewest :=
              w.lostNewest ||
                (w.transport.headOverdue && w.transport.ledger.nextIsNewest packetSlot) }
      rw [houtcome]
      refine ⟨hagrees _ ?_ ?_ fun _ ↦ ?_, hschedule, hinbox⟩
      · rw [List.foldl_cons, List.foldl_nil, Shared.step, hsame]
        exact ⟨hrunning, hflag, hroom⟩
      · rw [List.foldl_cons, List.foldl_nil, Shared.step, hsame]
        simpa only [NetworkLoop.advance, hphase] using herror
      · rw [List.foldl_cons, List.foldl_nil, Shared.step, hsame]
        simpa only [NetworkLoop.advance, hphase] using hround
    | transformCopied payload =>
      obtain ⟨herror, hsame, hschedule, hinbox⟩ := hbroken
      refine ⟨hagrees _ ?_ ?_ fun _ ↦ ?_, hschedule, hinbox⟩
      · rw [hsame]
        exact ⟨rfl, rfl, rfl⟩
      · simpa only [NetworkLoop.advance, hphase] using herror
      · rw [hsame]
        simpa only [NetworkLoop.advance, hphase] using
          hqueues.noteSend encounter.send.result _
    | transformSent payload =>
      obtain ⟨hflags, herror, -⟩ := clearSent_keeps w.transport 0 payload
      have hclear := hquiet (by simp [hphase]) (by simp [hphase]) (by simp [hphase])
      refine ⟨hagrees _ hflags (hclear.trans herror.symm) fun _ ↦ ?_, rfl, rfl⟩
      simpa only [NetworkLoop.advance, hphase, List.foldl_cons, List.foldl_nil, Shared.step] using
        (hqueues.clearSent 0 payload).1
    | objectCopied objectId payload objectIds =>
      obtain ⟨herror, hsame, hschedule, hinbox⟩ := hbroken
      refine ⟨hagrees _ ?_ ?_ fun _ ↦ ?_, hschedule, hinbox⟩
      · rw [hsame]
        exact ⟨rfl, rfl, rfl⟩
      · simpa only [NetworkLoop.advance, hphase] using herror
      · rw [hsame]
        simpa only [NetworkLoop.advance, hphase] using
          hqueues.noteSend encounter.send.result _
    | objectSent objectId payload objectIds =>
      obtain ⟨-, -, hflags, herror⟩ := clearSent_keeps w.transport objectId payload
      have hclear := hquiet (by simp [hphase]) (by simp [hphase]) (by simp [hphase])
      refine ⟨hagrees _ hflags (hclear.trans herror.symm) fun _ ↦ ?_, rfl, rfl⟩
      simpa only [NetworkLoop.advance, hphase, List.foldl_cons, List.foldl_nil, Shared.step] using
        (hqueues.clearSent objectId payload).2
    | objectNext objectIds =>
      refine ⟨hagrees _ ⟨rfl, rfl, rfl⟩ (hquiet (by simp [hphase]) (by simp [hphase])
        (by simp [hphase])) fun _ ↦ ?_, rfl, rfl⟩
      cases objectIds with
      | nil => simpa only [NetworkLoop.advance, hphase, List.foldl_nil] using hqueues
      | cons objectId objectIds =>
        simp only [NetworkLoop.advance, hphase]
        split <;> exact hqueues
    | poses =>
      refine ⟨hagrees _ ⟨rfl, rfl, rfl⟩ (hquiet (by simp [hphase]) (by simp [hphase])
        (by simp [hphase])) fun _ ↦ ?_, rfl, rfl⟩
      simp only [NetworkLoop.advance, hphase]
      split <;> exact hqueues
    | _ =>
      refine ⟨hagrees _ ⟨rfl, rfl, rfl⟩ (hquiet (by simp [hphase]) (by simp [hphase])
        (by simp [hphase])) fun _ ↦ ?_, rfl, rfl⟩
      simpa only [NetworkLoop.advance, hphase, List.foldl_nil] using hqueues

/-! ### Transitions of the thread -/

omit [Double D] in
/-- Where the thread stands and what it called back does not count, except that it is there. -/
theorem Agrees.congr {t t' : NetworkThread D} {w w' : Shared D} (h : Agrees t w)
    (hloop : t'.loop.transport = t.loop.transport) (hstopping : t'.stopping = t.stopping)
    (hstage : t'.stage = .absent → t.stage = .absent) (hw : w'.transport = w.transport) :
    Agrees t' w' := by
  refine ⟨?_, ?_, ?_, ?_, ?_, ?_⟩
  · rw [hloop, hw]
    exact h.running
  · rw [hloop, hw]
    exact h.connectionError
  · rw [hloop, hw]
    exact h.roomId
  · rw [hloop, hw, hstopping]
    exact h.shouldStop
  · rw [hloop, hw, hstopping]
    exact h.queues
  · rw [hloop]
    exact fun habsent ↦ h.noRound (hstage habsent)

/-- **A transition of the thread amounts to its steps.** -/
theorem agrees_advance {t : NetworkThread D} {w : Shared D} (hsound : t.Sound)
    (hleft : t.NothingLeft) (h : Agrees t w) (encounter : Encounter D) :
    let w' := (t.networkSteps encounter).foldl Shared.step w
    Agrees (t.advance encounter) w' ∧ w'.schedule = w.schedule ∧
      w'.inbox = (Threaded.stepCalls t (.thread encounter)).foldl Inbox.hear w.inbox := by
  obtain ⟨htransport, hschedule, hinbox⟩ :=
    foldl_networkStep (Threaded.stepCalls t (.thread encounter)) w
  rw [NetworkThread.networkSteps]
  cases hstage : t.stage with
  | looping =>
    obtain ⟨hagrees, hschedule, hinbox⟩ := agrees_loop hsound hleft h hstage encounter
    rw [(advance_looping hstage encounter).2.2.2]
    exact ⟨hagrees, hschedule, hinbox⟩
  | setUp calls =>
    cases calls with
    | nil =>
      refine ⟨h.congr ?_ ?_ ?_ htransport, hschedule, hinbox⟩
      all_goals simp [NetworkThread.advance, hstage]
    | cons call rest =>
      dsimp only
      cases hanswer : encounter.setUp with
      | none =>
        refine ⟨h.congr ?_ ?_ ?_ htransport, hschedule, hinbox⟩
        all_goals simp [NetworkThread.advance, hstage, hanswer]
      | some reason =>
        -- the flag is raised before the error is reported
        obtain ⟨htransport, hschedule, hinbox⟩ :=
          foldl_networkStep (Threaded.stepCalls t (.thread encounter)) (w.step .fail)
        have hfailed (w' : Shared D)
            (hw' : w'.transport = { w.transport with connectionError := true }) :
            Agrees (t.advance encounter) w' := by
          rw [NetworkThread.advance, hstage]
          dsimp only
          rw [hanswer]
          refine ⟨?_, ?_, ?_, ?_, fun hne ↦ ?_, fun habsent ↦ by simp at habsent⟩
          · rw [hw']
            exact h.running
          · rw [hw']
          · rw [hw']
            exact h.roomId
          · rw [hw']
            exact h.shouldStop
          · have hqueues := h.queues hne
            rw [hw']
            exact ⟨hqueues.outbox, hqueues.pending, hqueues.transform, hqueues.objects,
              hqueues.draining⟩
        rw [Option.isSome_some, if_pos rfl, List.foldl_append]
        exact ⟨hfailed _ htransport, hschedule, hinbox⟩
  | delivering payloads =>
    refine ⟨h.congr ?_ ?_ ?_ htransport, hschedule, hinbox⟩
    all_goals cases payloads <;> simp [NetworkThread.advance, hstage]
  | absent =>
    refine ⟨h.congr ?_ ?_ ?_ htransport, hschedule, hinbox⟩
    all_goals simp [NetworkThread.advance, hstage]
  | returned =>
    refine ⟨h.congr ?_ ?_ ?_ htransport, hschedule, hinbox⟩
    all_goals simp [NetworkThread.advance, hstage]

/-! ### The host -/

/-- With nothing scheduled, the host's thread sees the shared state as it is. -/
theorem yield_of_unscheduled {w : Shared D} (h : w.schedule = []) : w.yield = w := by
  rw [Shared.yield, h]

/-- What the host does to the transport, and not to the thread. -/
theorem Mirrors.of_call {c : Threaded D} {w w' : Shared D} (h : Mirrors c w)
    (hidle : c.thread.stopping = .idle) {e : ThreadStep D} (call : LoopStep D)
    (he : c.thread.step e = c.thread.host call) (hsilent : Threaded.stepCalls c.thread e = [])
    (hnetwork : ∀ now a, call ≠ .network now a) (hstop : call ≠ .requestStop)
    (hqueues : SameQueues (c.thread.loop.step call).transport w'.transport)
    (hroom : (c.thread.loop.step call).transport.roomId = c.thread.loop.transport.roomId)
    (hround : (c.thread.loop.step call).transport.draining = c.thread.loop.transport.draining)
    (hflags : w'.transport.running = w.transport.running ∧
      w'.transport.connectionError = w.transport.connectionError ∧
      w'.transport.roomId = w.transport.roomId ∧
      w'.transport.shouldStop = w.transport.shouldStop)
    (hinbox : w'.inbox = w.inbox) (hschedule : w'.schedule = []) :
    Mirrors (c.transportStep e) w' := by
  obtain ⟨hrunning, hflag, herror, -, -⟩ :=
    NetworkThread.call_keeps c.thread.loop hnetwork hstop
  have hthread : (c.transportStep e).thread =
      { c.thread with loop := c.thread.loop.step call } := by
    rw [Threaded.transportStep, he, NetworkThread.host, if_pos hidle]
  refine ⟨?_, ?_, ?_, ?_, hschedule⟩
  · exact NetworkThread.sound_step h.sound e
  · exact NetworkThread.nothingLeft_step h.sound h.nothingLeft e
  · rw [hthread]
    refine ⟨?_, ?_, ?_, fun _ ↦ ?_, fun _ ↦ hqueues, fun habsent ↦ ?_⟩
    · rw [hrunning, h.agrees.running, hflags.1]
    · rw [herror, h.agrees.connectionError, hflags.2.1]
    · rw [hroom, h.agrees.roomId, hflags.2.2.1]
    · rw [hflag, h.agrees.shouldStop hidle, hflags.2.2.2]
    · rw [hround]
      exact h.agrees.noRound habsent
  · rw [hinbox, h.inbox, Threaded.transportStep, hsilent, List.foldl_nil]

omit [Double D] in
theorem Agrees.usable {t : NetworkThread D} {w : Shared D} (h : Agrees t w)
    (hidle : t.stopping = .idle) : t.loop.transport.usable = w.transport.usable := by
  rw [ZmqTransport.usable, ZmqTransport.usable, h.running, h.connectionError, h.shouldStop hidle]

theorem mirrors_tryEnqueueControl {c : Threaded D} {w : Shared D} (h : Mirrors c w)
    (hidle : c.thread.stopping = .idle) (message : ControlMessage) (now : D) :
    Mirrors (c.transportStep (.enqueueControl message.payload now))
      ((w.step (.time now)).tryEnqueueControl message).2 := by
  have hqueues := h.agrees.queues (by simp [hidle])
  have husable := h.agrees.usable hidle
  have hmove : ((w.step (.time now)).tryEnqueueControl message).2 =
      if w.transport.usable then
        { w with clock := now, transport := (w.transport.pushControl message now).2 }
      else { w with clock := now } := by
    rw [Shared.tryEnqueueControl, Shared.step]
    simp only [yield_of_unscheduled (w := { w with clock := now }) h.schedule]
    cases w.transport.usable <;> rfl
  have hlength : c.thread.loop.transport.controlOutbox.length =
      w.transport.controlOutbox.length := by
    rw [hqueues.outbox, List.length_map]
  have hroomy : c.thread.loop.transport.controlOutbox.length ≥ kControlOutboxMax ↔
      w.transport.controlOutbox.length ≥ kControlOutboxMax := by
    rw [hlength]
  rw [hmove]
  refine h.of_call hidle (.enqueueControl message.payload now) rfl rfl (by simp) (by simp)
    ?_ ?_ ?_ ?_ ?_ ?_
  · rw [NetworkLoop.step, husable]
    split
    · rw [ZmqTransport.pushControl, ZmqTransport.pushControl]
      by_cases hfull : w.transport.controlOutbox.length ≥ kControlOutboxMax
      · rw [if_pos hfull, if_pos (hroomy.mpr hfull)]
        exact ⟨hqueues.outbox, hqueues.pending, hqueues.transform, hqueues.objects,
          hqueues.draining⟩
      · rw [if_neg hfull, if_neg (mt hroomy.mp hfull)]
        refine ⟨?_, hqueues.pending, hqueues.transform, hqueues.objects, hqueues.draining⟩
        simp [hqueues.outbox, OutboundPacket.encoded]
    · exact hqueues
  · rw [NetworkLoop.step, ZmqTransport.pushControl]
    split
    · split <;> rfl
    · rfl
  · rw [NetworkLoop.step, ZmqTransport.pushControl]
    split
    · split <;> rfl
    · rfl
  · rw [ZmqTransport.pushControl]
    split
    · split <;> exact ⟨rfl, rfl, rfl, rfl⟩
    · exact ⟨rfl, rfl, rfl, rfl⟩
  · split <;> rfl
  · split <;> exact h.schedule

theorem mirrors_setLatestTransform {c : Threaded D} {w : Shared D} (h : Mirrors c w)
    (hidle : c.thread.stopping = .idle) (payload : Bytes) (now : D) :
    Mirrors (c.transportStep (.setLatestTransform payload now))
      ((w.step (.time now)).setLatestTransform payload) := by
  have hqueues := h.agrees.queues (by simp [hidle])
  have husable := h.agrees.usable hidle
  have hmove : (w.step (.time now)).setLatestTransform payload =
      if w.transport.usable then
        { w with clock := now, transport := w.transport.setLatestTransform payload now }
      else { w with clock := now } := by
    rw [Shared.setLatestTransform, Shared.step]
    simp only [yield_of_unscheduled (w := { w with clock := now }) h.schedule]
    cases w.transport.usable <;> rfl
  rw [hmove]
  refine h.of_call hidle (.setLatestTransform payload now) rfl rfl (by simp) (by simp)
    ?_ ?_ ?_ ?_ ?_ ?_
  · rw [NetworkLoop.step, husable]
    split
    · exact ⟨hqueues.outbox, hqueues.pending, rfl, hqueues.objects, hqueues.draining⟩
    · exact hqueues
  · rw [NetworkLoop.step]
    split <;> rfl
  · rw [NetworkLoop.step]
    split <;> rfl
  · split <;> exact ⟨rfl, rfl, rfl, rfl⟩
  · split <;> rfl
  · split <;> exact h.schedule

theorem mirrors_setLatestObjectTransform {c : Threaded D} {w : Shared D} (h : Mirrors c w)
    (hidle : c.thread.stopping = .idle) (objectId : UInt32) (payload : Bytes) (now : D) :
    Mirrors (c.transportStep (.setLatestObjectTransform objectId payload now))
      ((w.step (.time now)).setLatestObjectTransform objectId payload) := by
  have hqueues := h.agrees.queues (by simp [hidle])
  have husable := h.agrees.usable hidle
  have hmove : (w.step (.time now)).setLatestObjectTransform objectId payload =
      if objectId ≠ 0 ∧ w.transport.usable then
        { w with
          clock := now
          transport := w.transport.setLatestObjectTransform objectId payload now }
      else { w with clock := now } := by
    rw [Shared.setLatestObjectTransform, Shared.step]
    simp only [yield_of_unscheduled (w := { w with clock := now }) h.schedule]
    by_cases hzero : objectId = 0
    · simp [hzero]
    · cases w.transport.usable <;> simp [hzero]
  rw [hmove]
  refine h.of_call hidle (.setLatestObjectTransform objectId payload now) rfl rfl (by simp)
    (by simp) ?_ ?_ ?_ ?_ ?_ ?_
  · rw [NetworkLoop.step, husable]
    split
    · refine ⟨hqueues.outbox, hqueues.pending, hqueues.transform, ?_, hqueues.draining⟩
      simp [ZmqTransport.setLatestObjectTransform, hqueues.objects]
    · exact hqueues
  · rw [NetworkLoop.step]
    split <;> rfl
  · rw [NetworkLoop.step]
    split <;> rfl
  · split <;> exact ⟨rfl, rfl, rfl, rfl⟩
  · split <;> rfl
  · split <;> exact h.schedule

omit [Double D] in
/-- What the host does to the inbox alone. -/
theorem Mirrors.onInbox {c : Threaded D} {w w' : Shared D} (h : Mirrors c w) (f : Inbox → Inbox)
    (hidle : c.thread.stopping = .idle) (htransport : w'.transport = w.transport)
    (hinbox : w'.inbox = f w.inbox) (hschedule : w'.schedule = []) :
    Mirrors (c.onInbox f) w' := by
  have hthread : (c.onInbox f).thread = c.thread := by
    rw [Threaded.onInbox, if_pos hidle]
  refine ⟨?_, ?_, ?_, ?_, hschedule⟩
  · rw [hthread]
    exact h.sound
  · rw [hthread]
    exact h.nothingLeft
  · rw [hthread]
    exact h.agrees.congr rfl rfl id htransport
  · rw [hinbox, h.inbox, Threaded.onInbox, if_pos hidle]

theorem mirrors_startTransport {c : Threaded D} {w : Shared D} (h : Mirrors c w)
    (hidle : c.thread.stopping = .idle) (config : TransportConfig) (contextError : Option String) :
    Mirrors (c.transportStep (.start config contextError))
      ((w.step (.context contextError)).startTransport config.roomId).2 := by
  have hqueues := h.agrees.queues (by simp [hidle])
  have hsound := NetworkThread.sound_step h.sound (.start config contextError)
  have hleft := NetworkThread.nothingLeft_step h.sound h.nothingLeft (.start config contextError)
  have hyield : Shared.yield { w with contextError := contextError } =
      { w with contextError := contextError } :=
    yield_of_unscheduled h.schedule
  rw [Shared.startTransport, Shared.step]
  dsimp only
  rw [hyield]
  by_cases hfree : c.thread.loop.transport.running = false
  · have habsent : c.thread.stage = .absent := by
      by_contra hne
      rw [h.sound.running.mpr hne] at hfree
      simp at hfree
    have hrunning : w.transport.running = false := h.agrees.running ▸ hfree
    have hstart : ¬(c.thread.loop.transport.running ∨ c.thread.stage ≠ .absent) := by
      simp [hfree, habsent]
    have hcalls : Threaded.stepCalls c.thread (.start config contextError) =
        (c.thread.start config contextError).2.calls := by
      rw [Threaded.stepCalls, if_pos ⟨hidle, hstart⟩]
    have hstep : c.thread.step (.start config contextError) =
        (c.thread.start config contextError).2 := by
      rw [NetworkThread.step, if_pos hidle]
    cases contextError with
    | none =>
      refine ⟨hsound, hleft, ?_, ?_, ?_⟩
      · rw [Threaded.transportStep, hstep, NetworkThread.start, if_neg hstart]
        simp only [ZmqTransport.start, hfree, hrunning, Option.isNone_none, if_true,
          Bool.false_eq_true, if_false]
        exact ⟨rfl, rfl, rfl, fun _ ↦ rfl, fun _ ↦ ⟨hqueues.outbox, hqueues.pending,
          hqueues.transform, hqueues.objects, hqueues.draining⟩, fun hno ↦ by simp at hno⟩
      · rw [Threaded.transportStep, hcalls, NetworkThread.start, if_neg hstart]
        simp [h.inbox]
      · simp [h.schedule]
    | some reason =>
      refine ⟨hsound, hleft, ?_, ?_, ?_⟩
      · rw [Threaded.transportStep, hstep, NetworkThread.start, if_neg hstart]
        simp only [ZmqTransport.start, hfree, hrunning, Option.isNone_some, Bool.false_eq_true,
          if_false]
        exact ⟨rfl, rfl, rfl, fun _ ↦ rfl, fun _ ↦ ⟨hqueues.outbox, hqueues.pending,
          hqueues.transform, hqueues.objects, hqueues.draining⟩, fun hno ↦ h.agrees.noRound hno⟩
      · rw [Threaded.transportStep, hcalls, NetworkThread.start, if_neg hstart]
        simp [ZmqTransport.start, hrunning, h.inbox, Shared.notify, Inbox.hear]
      · simp [ZmqTransport.start, hrunning, h.schedule, Shared.notify]
  · -- it runs already, and the call is refused
    rw [Bool.not_eq_false] at hfree
    have hrunning : w.transport.running = true := h.agrees.running ▸ hfree
    have hsame : (w.transport.start true config.roomId).2 = w.transport ∧
        (w.transport.start false config.roomId).2 = w.transport := by
      simp [ZmqTransport.start, hrunning]
    have hrefused : c.transportStep (.start config contextError) = c := by
      simp [Threaded.transportStep, Threaded.stepCalls, NetworkThread.step, NetworkThread.start,
        hfree]
    rw [hrefused]
    refine ⟨h.sound, h.nothingLeft, h.agrees.congr rfl rfl id ?_, ?_, ?_⟩
    all_goals cases contextError <;> simp [hsame, hrunning, h.inbox, h.schedule]

/-- `stop`, where it ends. -/
theorem stopTransport_of_unscheduled {w : Shared D} (h : w.schedule = []) :
    w.stopTransport = { w with transport := w.transport.stop } := by
  rw [Shared.stopTransport, yield_of_unscheduled h]

theorem mirrors_stopBegin {c : Threaded D} {w : Shared D} (h : Mirrors c w)
    (hidle : c.thread.stopping = .idle) :
    Mirrors (c.transportStep .stopBegin)
      (if c.thread.stage = .absent then w.stopTransport else w) := by
  have hqueues := h.agrees.queues (by simp [hidle])
  have hsound := NetworkThread.sound_step h.sound .stopBegin
  have hleft := NetworkThread.nothingLeft_step h.sound h.nothingLeft .stopBegin
  have hstep : c.thread.step .stopBegin = c.thread.stopBegin := by
    rw [NetworkThread.step, if_pos hidle]
  split
  · next habsent =>
    have hround := h.agrees.noRound habsent
    have hrunning : w.transport.running = false := by
      rw [← h.agrees.running]
      by_contra hne
      exact h.sound.running.mp (by simpa using hne) habsent
    rw [stopTransport_of_unscheduled h.schedule]
    refine ⟨hsound, hleft, ?_, h.inbox, h.schedule⟩
    rw [Threaded.transportStep, hstep, NetworkThread.stopBegin, if_pos habsent]
    simp only [ZmqTransport.stop, hrunning, Bool.false_eq_true, if_false]
    exact ⟨rfl, h.agrees.connectionError, h.agrees.roomId, h.agrees.shouldStop,
      fun _ ↦ ⟨hqueues.outbox, hqueues.pending, hqueues.transform, hqueues.objects, hround⟩,
      fun _ ↦ hround⟩
  · next hthere =>
    -- above, nothing has happened yet
    refine ⟨hsound, hleft, ?_, h.inbox, h.schedule⟩
    rw [Threaded.transportStep, hstep, NetworkThread.stopBegin, if_neg hthere]
    exact ⟨h.agrees.running, h.agrees.connectionError, h.agrees.roomId, fun hno ↦ by simp at hno,
      fun _ ↦ ⟨hqueues.outbox, hqueues.pending, hqueues.transform, hqueues.objects,
        hqueues.draining⟩, fun habsent ↦ absurd habsent hthere⟩

theorem mirrors_stopClear {c : Threaded D} {w : Shared D} (h : Mirrors c w) :
    Mirrors (c.transportStep .stopClear) w := by
  have hsound := NetworkThread.sound_step h.sound .stopClear
  have hleft := NetworkThread.nothingLeft_step h.sound h.nothingLeft .stopClear
  refine ⟨hsound, hleft, ?_, h.inbox, h.schedule⟩
  rw [Threaded.transportStep, NetworkThread.step]
  dsimp only
  split
  · next hclearing =>
    refine ⟨h.agrees.running, h.agrees.connectionError, h.agrees.roomId, fun hno ↦ by simp at hno,
      fun hno ↦ by simp at hno, fun habsent ↦ ?_⟩
    exact absurd habsent (h.sound.stopping (by simp [hclearing])).1
  · exact h.agrees

theorem mirrors_stopJoin {c : Threaded D} {w : Shared D} (h : Mirrors c w) :
    Mirrors (c.transportStep .stopJoin)
      (if c.thread.stopping = .joining ∧ c.thread.stage = .returned then w.stopTransport
      else w) := by
  have hsound := NetworkThread.sound_step h.sound .stopJoin
  have hleft := NetworkThread.nothingLeft_step h.sound h.nothingLeft .stopJoin
  split
  · next hjoin =>
    have hemptied := h.nothingLeft (Or.inr hjoin.1)
    have hflag := (h.sound.stopping (by simp [hjoin.1])).2
    have hrunning : w.transport.running = true := by
      rw [← h.agrees.running, h.sound.running, hjoin.2]
      simp
    rw [stopTransport_of_unscheduled h.schedule]
    refine ⟨hsound, hleft, ?_, h.inbox, h.schedule⟩
    rw [Threaded.transportStep, NetworkThread.step, if_pos hjoin.1, NetworkThread.stopJoin,
      if_pos hjoin.2]
    simp only [ZmqTransport.stop, hrunning, if_true]
    exact ⟨rfl, h.agrees.connectionError, h.agrees.roomId, fun _ ↦ hflag,
      fun _ ↦ ⟨by simp [hemptied.outbox, ZmqTransport.clearOutgoing],
        by simp [hemptied.pending, ZmqTransport.clearOutgoing],
        by simp [hemptied.transform, ZmqTransport.clearOutgoing],
        by simp [hemptied.objects, ZmqTransport.clearOutgoing], rfl⟩, fun _ ↦ rfl⟩
  · next hnot =>
    have hsame : c.transportStep .stopJoin = c := by
      rw [Threaded.transportStep, NetworkThread.step, NetworkThread.stopJoin]
      dsimp only [Threaded.stepCalls, List.foldl_nil]
      by_cases hjoining : c.thread.stopping = .joining
      · rw [if_pos hjoining, if_neg fun hreturned ↦ hnot ⟨hjoining, hreturned⟩]
      · rw [if_neg hjoining]
    rw [hsame]
    exact h

/-! ### Runs -/

/-- **A step on the level below is matched by its moves.** -/
theorem mirrors_step {c : Threaded D} {w : Shared D} (h : Mirrors c w) (e : ThreadedStep D) :
    Mirrors (c.step e) ((c.moves e).foldl Shared.move w) := by
  -- a host that waits in `stop` makes no call
  have hwaiting (e' : ThreadStep D) (hne : c.thread.stopping ≠ .idle)
      (hsame : c.thread.step e' = c.thread) (hsilent : Threaded.stepCalls c.thread e' = []) :
      Mirrors (c.transportStep e') w := by
    rw [Threaded.transportStep, hsame, hsilent, List.foldl_nil]
    exact h
  have hinbox (f : Inbox → Inbox) (hne : c.thread.stopping ≠ .idle) :
      Mirrors (c.onInbox f) w := by
    rw [Threaded.onInbox, if_neg hne]
    exact h
  cases e with
  | thread encounter =>
    obtain ⟨hagrees, hschedule, hinbox⟩ := agrees_advance h.sound h.nothingLeft h.agrees encounter
    have hmoves (steps : List (NetworkStep D)) :
        (steps.map SharedMove.network).foldl Shared.move w = steps.foldl Shared.step w := by
      rw [List.foldl_map]
      rfl
    rw [Threaded.moves, hmoves]
    exact ⟨NetworkThread.sound_step h.sound (.thread encounter),
      NetworkThread.nothingLeft_step h.sound h.nothingLeft (.thread encounter), hagrees,
      by rw [hinbox, h.inbox]; rfl, hschedule.trans h.schedule⟩
  | stopBegin =>
    rw [Threaded.moves]
    by_cases hidle : c.thread.stopping = .idle
    · have hbegin := mirrors_stopBegin h hidle
      split
      · next hboth =>
        rw [if_pos hboth.2] at hbegin
        exact hbegin
      · next hnot =>
        rw [if_neg fun habsent ↦ hnot ⟨hidle, habsent⟩] at hbegin
        exact hbegin
    · rw [if_neg fun hboth ↦ hidle hboth.1]
      exact hwaiting .stopBegin hidle (by rw [NetworkThread.step, if_neg hidle]) rfl
  | stopClear => exact mirrors_stopClear h
  | stopJoin =>
    have hjoin := mirrors_stopJoin h
    rw [Threaded.moves]
    split
    · next hboth =>
      rw [if_pos hboth] at hjoin
      exact hjoin
    · next hnot =>
      rw [if_neg hnot] at hjoin
      exact hjoin
  | startTransport config contextError =>
    simp only [Threaded.moves, Threaded.step]
    split
    · next hidle => exact mirrors_startTransport h hidle config contextError
    · next hne =>
      exact hwaiting _ hne (by rw [NetworkThread.step, if_neg hne])
        (by rw [Threaded.stepCalls, if_neg fun hboth ↦ hne hboth.1])
  | tryEnqueueControl message now =>
    simp only [Threaded.moves, Threaded.step]
    split
    · next hidle => exact mirrors_tryEnqueueControl h hidle message now
    · next hne =>
      exact hwaiting _ hne (by rw [NetworkThread.step, NetworkThread.host, if_neg hne]) rfl
  | setLatestTransform payload now =>
    simp only [Threaded.moves, Threaded.step]
    split
    · next hidle => exact mirrors_setLatestTransform h hidle payload now
    · next hne =>
      exact hwaiting _ hne (by rw [NetworkThread.step, NetworkThread.host, if_neg hne]) rfl
  | setLatestObjectTransform objectId payload now =>
    simp only [Threaded.moves, Threaded.step]
    split
    · next hidle => exact mirrors_setLatestObjectTransform h hidle objectId payload now
    · next hne =>
      exact hwaiting _ hne (by rw [NetworkThread.step, NetworkThread.host, if_neg hne]) rfl
  | pushLog text =>
    simp only [Threaded.moves, Threaded.step]
    split
    · next hidle =>
      refine h.onInbox _ hidle ?_ ?_ ?_
      all_goals simp [Shared.move, Shared.pushLog, Shared.notify, yield_of_unscheduled h.schedule,
        h.schedule]
    · next hne => exact hinbox _ hne
  | takeNotifications =>
    simp only [Threaded.moves, Threaded.step]
    split
    · next hidle =>
      refine h.onInbox _ hidle ?_ ?_ ?_
      all_goals simp [Shared.move, Shared.takeNotifications, yield_of_unscheduled h.schedule,
        h.schedule]
    · next hne => exact hinbox _ hne
  | takeMail =>
    simp only [Threaded.moves, Threaded.step]
    split
    · next hidle =>
      refine h.onInbox _ hidle ?_ ?_ ?_
      all_goals simp [Shared.move, Shared.takeMail, yield_of_unscheduled h.schedule, h.schedule]
    · next hne => exact hinbox _ hne
  | clearInbox =>
    simp only [Threaded.moves, Threaded.step]
    split
    · next hidle =>
      refine h.onInbox _ hidle ?_ ?_ ?_
      all_goals simp [Shared.move, Shared.clearInbox, yield_of_unscheduled h.schedule, h.schedule]
    · next hne => exact hinbox _ hne

/-- The moves that a run amounts to. -/
def Threaded.runMoves : Threaded D → List (ThreadedStep D) → List (SharedMove D)
  | _, [] => []
  | c, e :: steps => c.moves e ++ (c.step e).runMoves steps

/-- **The network thread does what the client's model of it allows.** Every run of the network
thread and the host's thread, from `start` and the set-up of the sockets to the join, whatever
libzmq answers, amounts to a run of the shared state on which the client is modelled: the moves of
the host are the same, and between them come steps of a schedule. At its end, and so all along, both
levels have the same in the inbox, agree on the flags, and have the same queued while no `stop` is
under way. -/
theorem thread_refines_schedule (clock : D) (steps : List (ThreadedStep D)) :
    let c := steps.foldl Threaded.step ({} : Threaded D)
    let w := ((({} : Threaded D).runMoves steps).foldl Shared.move { clock := clock } : Shared D)
    w.inbox = c.inbox ∧
      w.transport.running = c.thread.loop.transport.running ∧
      w.transport.connectionError = c.thread.loop.transport.connectionError ∧
      w.transport.roomId = c.thread.loop.transport.roomId ∧
      (c.thread.stopping = .idle →
        w.transport.shouldStop = c.thread.loop.transport.shouldStop ∧
          SameQueues c.thread.loop.transport w.transport) := by
  have hrun (c : Threaded D) (w : Shared D) (h : Mirrors c w) :
      Mirrors (steps.foldl Threaded.step c) ((c.runMoves steps).foldl Shared.move w) := by
    induction steps generalizing c w with
    | nil => exact h
    | cons e steps ih =>
      rw [List.foldl_cons, Threaded.runMoves, List.foldl_append]
      exact ih _ _ (mirrors_step h e)
  have hstart : Mirrors ({} : Threaded D) { clock := clock } :=
    { sound := NetworkThread.sound_run []
      nothingLeft := NetworkThread.nothingLeft_run []
      agrees := ⟨rfl, rfl, rfl, fun _ ↦ rfl, fun _ ↦ ⟨rfl, rfl, rfl, rfl, rfl⟩, fun _ ↦ rfl⟩
      inbox := rfl
      schedule := rfl }
  intro c w
  have h : Mirrors c w := hrun _ _ hstart
  exact ⟨h.inbox, h.agrees.running.symm, h.agrees.connectionError.symm, h.agrees.roomId.symm,
    fun hidle ↦ ⟨(h.agrees.shouldStop hidle).symm, h.agrees.queues (by simp [hidle])⟩⟩

end StylyNetSync
