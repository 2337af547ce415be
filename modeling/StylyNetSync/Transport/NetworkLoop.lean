import StylyNetSync.Foundation.Run
import StylyNetSync.Transport.ZmqTransport

/-!
# The network loop

`network_loop` of the source as a machine: `LoopPhase` is where the network thread stands, and every
transition is what it does between two points where callers may step in. A control packet is taken
and offered in one transition. A latest-wins slot is sent in three: its payload is copied under the
lock, offered to the socket without it, and only then, under the lock again, is the slot cleared.

libzmq is represented by its answers, `Answers`: whether `zmq_poll` reports the socket writable and
whether each of the two calls of `zmq_send` succeeds. What a socket has seen of it all is its trace.
-/

namespace StylyNetSync

/-! ### Sockets -/

/-- The sockets that are sent on. -/
inductive Outlet
  | control
  | transform
  deriving DecidableEq

/-- What happens on a socket: a frame is taken, with the flag that more frames follow, or the last
frame of an open message is refused. -/
inductive SocketEvent
  | frame (data : Bytes) (more : Bool)
  | broken
  deriving DecidableEq

/-- The answers of libzmq to one `try_send_multipart`. -/
structure Answers where
  writable : Bool
  roomAccepted : Bool
  payloadAccepted : Bool
  deriving DecidableEq

/-- The socket takes the first frame, so that a message is open. -/
def Answers.opens (a : Answers) : Bool := a.writable && a.roomAccepted

def Answers.result (a : Answers) : SendResult :=
  if !a.writable then .wouldBlock
  else if !a.roomAccepted then .wouldBlock
  else if !a.payloadAccepted then .broken
  else .sent

/-- What `try_send_multipart` does to the socket. Frame 0 is the room id, frame 1 the payload. -/
def trySendMultipart (roomId payload : Bytes) (a : Answers) : List SocketEvent :=
  if !a.writable then []
  else if !a.roomAccepted then []
  else if !a.payloadAccepted then [.frame roomId true, .broken]
  else [.frame roomId true, .frame payload false]

theorem trySendMultipart_of_sent {a : Answers} (h : a.result = .sent) (roomId payload : Bytes) :
    trySendMultipart roomId payload a = [.frame roomId true, .frame payload false] := by
  rcases a with ⟨writable, roomAccepted, payloadAccepted⟩
  cases writable <;> cases roomAccepted <;> cases payloadAccepted <;>
    simp_all [Answers.result, trySendMultipart]

theorem trySendMultipart_of_wouldBlock {a : Answers} (h : a.result = .wouldBlock)
    (roomId payload : Bytes) : trySendMultipart roomId payload a = [] := by
  rcases a with ⟨writable, roomAccepted, payloadAccepted⟩
  cases writable <;> cases roomAccepted <;> cases payloadAccepted <;>
    simp_all [Answers.result, trySendMultipart]

/-! ### The machine -/

/-- Where the network thread stands. -/
inductive LoopPhase
  /-- Before the test of `should_stop_`. -/
  | head
  /-- In the loop of `drain_control_sends`. -/
  | draining
  /-- Before `try_send_latest_transform`. -/
  | poses
  | transformCopied (payload : Bytes)
  | transformSent (payload : Bytes)
  /-- Before `try_send_latest_object_transforms`. -/
  | objects
  /-- In its loop, with the ids still to be visited. -/
  | objectNext (objectIds : List UInt32)
  | objectCopied (objectId : UInt32) (payload : Bytes) (objectIds : List UInt32)
  | objectSent (objectId : UInt32) (payload : Bytes) (objectIds : List UInt32)
  /-- Before `receive_sub` and `receive_control`. -/
  | receiving
  | exited
  deriving DecidableEq

structure NetworkLoop (D : Type) where
  transport : ZmqTransport Bytes D
  phase : LoopPhase := .head
  trace : Outlet → List SocketEvent := fun _ ↦ []

namespace ZmqTransport

variable {P D : Type}

/-- The bookkeeping of `try_send_multipart` and of the failure of a latest-wins sender. -/
def noteSend (result : SendResult) (t : ZmqTransport P D) : ZmqTransport P D :=
  match result with
  | .sent => { t with messagesSent := t.messagesSent + 1 }
  | .wouldBlock => { t with wouldBlockCount := t.wouldBlockCount + 1 }
  | .broken => { t with connectionError := true, wouldBlockCount := t.wouldBlockCount + 1 }

/-- The packet that the drain round under way will offer next, if it gets to offer one. -/
def readyControl [Double D] (t : ZmqTransport P D) : Option P :=
  match t.draining with
  | none => none
  | some (now, sent) =>
    if sent ≥ kControlDrainBatch then none
    else
      match t.takePending with
      | none => none
      | some (packet, _) =>
        if Double.lt kControlTtlSeconds (now - packet.enqueuedAt) then none
        else some packet.payload

/-- A drain round asks the socket exactly when it has a packet ready. -/
theorem readyControl_isSome_iff [Double D] {t t' : ZmqTransport P D} {result : SendResult}
    {outcome : DrainOutcome} (h : t.drainStep result = (outcome, t')) :
    t.readyControl.isSome = true ↔
      outcome = .sent ∨ outcome = .wouldBlock ∨ outcome = .broken := by
  rw [drainStep] at h
  rw [readyControl]
  rcases hround : t.draining with - | ⟨now, sent⟩
  · rw [hround] at h
    obtain ⟨rfl, -⟩ := Prod.mk.inj h
    simp
  rw [hround] at h
  dsimp only at h ⊢
  by_cases hbatch : sent ≥ kControlDrainBatch
  · rw [if_pos hbatch] at h ⊢
    obtain ⟨rfl, -⟩ := Prod.mk.inj h
    simp
  rw [if_neg hbatch] at h ⊢
  rcases htake : t.takePending with - | ⟨packet, taken⟩
  · rw [htake] at h
    obtain ⟨rfl, -⟩ := Prod.mk.inj h
    simp
  rw [htake] at h
  dsimp only at h ⊢
  by_cases hold : Double.lt kControlTtlSeconds (now - packet.enqueuedAt) = true
  · rw [if_pos hold] at h ⊢
    obtain ⟨rfl, -⟩ := Prod.mk.inj h
    simp
  · -- the socket is asked, whatever it answers
    rw [if_neg hold] at h ⊢
    cases result <;> obtain ⟨rfl, -⟩ := Prod.mk.inj h <;> simp

end ZmqTransport

namespace NetworkLoop

variable {D : Type} [Double D]

omit [Double D] in
/-- A transport whose network thread has just set up its sockets. -/
def started (roomId : Bytes) : NetworkLoop D where
  transport := (({} : ZmqTransport Bytes D).start true roomId).2

/-- The message that the next transition offers, and the socket it is offered to. -/
def offers (l : NetworkLoop D) : Option (Outlet × Bytes) :=
  match l.phase with
  | .draining => l.transport.readyControl.map fun payload ↦ (.control, payload)
  | .transformCopied payload => some (.transform, payload)
  | .objectCopied _ payload _ => some (.transform, payload)
  | _ => none

/-- What the sockets see of a transition. -/
def traceAfter (a : Answers) (l : NetworkLoop D) : Outlet → List SocketEvent :=
  match l.offers with
  | none => l.trace
  | some (outlet, payload) => fun o ↦
    if o = outlet then l.trace o ++ trySendMultipart l.transport.roomId payload a else l.trace o

/-- The transition of the network thread: its clock, should it be read, and the answers of libzmq,
should it be asked. -/
def advance (now : D) (a : Answers) (l : NetworkLoop D) : NetworkLoop D :=
  let trace := l.traceAfter a
  match l.phase with
  | .exited => l
  | .head =>
    if l.transport.shouldStop then { l with phase := .exited }
    else { l with transport := l.transport.drainBegin now, phase := .draining }
  | .draining =>
    match l.transport.drainStep a.result with
    | (_, t) =>
      { transport := t
        phase := if t.draining.isSome then .draining else .poses
        trace := trace }
  | .poses =>
    match l.transport.latestTransform with
    | none => { l with phase := .objects }
    | some packet => { l with phase := .transformCopied packet.payload }
  | .transformCopied payload =>
    { transport := l.transport.noteSend a.result
      phase := if a.result = .sent then .transformSent payload else .objects
      trace := trace }
  | .transformSent payload =>
    { l with transport := l.transport.clearSentTransform payload, phase := .objects }
  | .objects => { l with phase := .objectNext l.transport.latestObjectTransforms.keys }
  | .objectNext [] => { l with phase := .receiving }
  | .objectNext (objectId :: objectIds) =>
    match l.transport.latestObjectTransforms[objectId]? with
    -- the list of ids is a snapshot, and the slot may be gone by now
    | none => { l with phase := .objectNext objectIds }
    | some packet => { l with phase := .objectCopied objectId packet.payload objectIds }
  | .objectCopied objectId payload objectIds =>
    { transport := l.transport.noteSend a.result
      -- backpressure ends the loop over the objects
      phase := if a.result = .sent then .objectSent objectId payload objectIds else .receiving
      trace := trace }
  | .objectSent objectId payload objectIds =>
    { l with
      transport := l.transport.clearSentObjectTransform objectId payload
      phase := .objectNext objectIds }
  | .receiving => { l with phase := .head }

end NetworkLoop

/-- A transition of the network thread, or a call from another thread. -/
inductive LoopStep (D : Type)
  | network (now : D) (answers : Answers)
  | enqueueControl (payload : Bytes) (now : D)
  | setLatestTransform (payload : Bytes) (now : D)
  | setLatestObjectTransform (objectId : UInt32) (payload : Bytes) (now : D)
  | clearOutgoing
  /-- The first thing `stop` does. -/
  | requestStop

namespace NetworkLoop

variable {D : Type} [Double D]

def step (l : NetworkLoop D) : LoopStep D → NetworkLoop D
  | .network now answers => l.advance now answers
  | .enqueueControl payload now =>
    if l.transport.usable then { l with transport := (l.transport.pushControl payload now).2 }
    else l
  | .setLatestTransform payload now =>
    if l.transport.usable then { l with transport := l.transport.setLatestTransform payload now }
    else l
  | .setLatestObjectTransform objectId payload now =>
    if objectId ≠ 0 ∧ l.transport.usable then
      { l with transport := l.transport.setLatestObjectTransform objectId payload now }
    else l
  | .clearOutgoing => { l with transport := l.transport.clearOutgoing }
  | .requestStop => { l with transport := { l.transport with shouldStop := true } }

/-! ### Half-sent messages -/

/-- Nothing is appended to a message that broke off. -/
def Sealed (trace : List SocketEvent) : Prop :=
  ∀ before after, trace = before ++ .broken :: after → ∀ data more, .frame data more ∉ after

/-- The step does not open a message on a socket on which one broke off: whenever the network thread
has something to offer to that socket, `zmq_poll` reports that it is not writable, or `zmq_send`
refuses the room id. -/
def KeepsSealed (l : NetworkLoop D) : LoopStep D → Prop
  | .network _ answers => ∀ outlet payload, l.offers = some (outlet, payload) →
      .broken ∈ l.trace outlet → answers.opens = false
  | _ => True

omit [Double D] in
theorem sealed_append {xs ys : List SocketEvent} :
    Sealed (xs ++ ys) ↔
      Sealed xs ∧ (.broken ∈ xs → ∀ data more, .frame data more ∉ ys) ∧ Sealed ys := by
  constructor
  · intro h
    refine ⟨?_, ?_, ?_⟩
    · rintro before after rfl data more hmem
      exact h before (after ++ ys) (by simp) data more (List.mem_append_left _ hmem)
    · intro hbroken data more hmem
      obtain ⟨before, after, rfl⟩ := List.append_of_mem hbroken
      exact h before (after ++ ys) (by simp) data more (List.mem_append_right _ hmem)
    · rintro before after rfl
      exact h (xs ++ before) after (by simp)
  · rintro ⟨hxs, hlate, hys⟩ before after hsplit data more hmem
    rcases List.append_eq_append_iff.mp hsplit with ⟨mid, rfl, hafter⟩ | ⟨mid, rfl, hafter⟩
    · -- the message broke off in the second stretch
      exact hys mid after hafter data more hmem
    · cases mid with
      | nil => exact hys [] after hafter.symm data more hmem
      | cons event mid =>
        -- in the first: what follows is the rest of it and the second stretch
        rw [List.cons_append, List.cons.injEq] at hafter
        obtain ⟨rfl, rfl⟩ := hafter
        rcases List.mem_append.mp hmem with hfirst | hsecond
        · exact hxs before mid rfl data more hfirst
        · exact hlate (by simp) data more hsecond

omit [Double D] in
/-- A message appends frames exactly when it is opened. -/
theorem trySendMultipart_cases (roomId payload : Bytes) (a : Answers) :
    (a.opens = false ∧ trySendMultipart roomId payload a = []) ∨
    (a.opens = true ∧ ∃ last, trySendMultipart roomId payload a = [.frame roomId true, last]) := by
  rcases a with ⟨writable, roomAccepted, payloadAccepted⟩
  cases writable <;> cases roomAccepted <;> cases payloadAccepted <;>
    simp [Answers.opens, trySendMultipart]

omit [Double D] in
theorem sealed_trySendMultipart (roomId payload : Bytes) (a : Answers) :
    Sealed (trySendMultipart roomId payload a) := by
  have hpair (first last : SocketEvent) (hfirst : first ≠ .broken) : Sealed [first, last] := by
    rintro before after hsplit data more
    rcases before with - | ⟨event, - | ⟨event', rest⟩⟩ <;> simp_all
  rcases trySendMultipart_cases roomId payload a with ⟨-, h⟩ | ⟨-, last, h⟩
  · rw [h]
    rintro before after hsplit
    simp at hsplit
  · rw [h]
    exact hpair _ _ (by simp)

theorem traceAfter_of_offers_none {l : NetworkLoop D} (h : l.offers = none) (a : Answers) :
    l.traceAfter a = l.trace := by
  rw [traceAfter, h]

theorem traceAfter_of_offers_some {l : NetworkLoop D} {outlet : Outlet} {payload : Bytes}
    (h : l.offers = some (outlet, payload)) (a : Answers) (o : Outlet) :
    l.traceAfter a o =
      if o = outlet then l.trace o ++ trySendMultipart l.transport.roomId payload a
      else l.trace o := by
  rw [traceAfter, h]

/-- **What the sockets see of a transition** is the message that it offers, if it offers one. -/
theorem trace_advance (now : D) (a : Answers) (l : NetworkLoop D) :
    (l.advance now a).trace = l.traceAfter a := by
  have hsilent (h : l.offers = none) : l.trace = l.traceAfter a :=
    (traceAfter_of_offers_none h a).symm
  rw [advance]
  split
  all_goals first
    | rfl
    | (split <;> exact hsilent (by rw [offers, ‹l.phase = _›]))
    | exact hsilent (by rw [offers, ‹l.phase = _›])

/-- Callers do not touch the sockets. -/
theorem trace_step_of_call {l : NetworkLoop D} {e : LoopStep D}
    (h : ∀ now a, e ≠ .network now a) : (l.step e).trace = l.trace := by
  cases e with
  | network now a => exact absurd rfl (h now a)
  | clearOutgoing => rfl
  | requestStop => rfl
  | _ =>
    rw [step]
    split <;> rfl

/-- Neither socket has anything behind a message that broke off. -/
def AllSealed (l : NetworkLoop D) : Prop := ∀ outlet, Sealed (l.trace outlet)

theorem allSealed_advance_iff {l : NetworkLoop D} (h : l.AllSealed) (now : D) (a : Answers) :
    (l.advance now a).AllSealed ↔ l.KeepsSealed (.network now a) := by
  have htrace := trace_advance now a l
  rcases hoffers : l.offers with - | ⟨outlet, payload⟩
  · rw [traceAfter_of_offers_none hoffers] at htrace
    constructor
    · intro _ outlet payload hoffer
      rw [hoffers] at hoffer
      simp at hoffer
    · intro _ outlet
      rw [htrace]
      exact h outlet
  · have hafter := traceAfter_of_offers_some hoffers a
    -- the other socket is as before, and to this one the message is appended
    have hseal : (l.advance now a).AllSealed ↔
        Sealed (l.trace outlet ++ trySendMultipart l.transport.roomId payload a) := by
      constructor
      · intro hall
        have houtlet := hall outlet
        rwa [htrace, hafter, if_pos rfl] at houtlet
      · intro hthis o
        rw [htrace, hafter]
        split
        · next ho => rwa [ho]
        · exact h o
    rw [hseal, sealed_append]
    rcases trySendMultipart_cases l.transport.roomId payload a with
      ⟨hopens, hevents⟩ | ⟨hopens, last, hevents⟩
    · refine ⟨fun _ o p _ _ ↦ hopens, fun _ ↦ ⟨h outlet, ?_, sealed_trySendMultipart _ _ _⟩⟩
      rw [hevents]
      simp
    · constructor
      · rintro ⟨-, hlate, -⟩ o p hoffer hbroken
        obtain ⟨rfl, rfl⟩ := Prod.mk.inj (Option.some.inj (hoffers.symm.trans hoffer))
        have hframe := hlate hbroken l.transport.roomId true
        rw [hevents] at hframe
        simp at hframe
      · intro hkeeps
        refine ⟨h outlet, fun hbroken ↦ ?_, sealed_trySendMultipart _ _ _⟩
        have hclosed := hkeeps outlet payload hoffers hbroken
        rw [hopens] at hclosed
        simp at hclosed

/-- **One step** keeps both sockets sealed exactly when it opens no message behind a broken one. -/
theorem allSealed_step_iff {l : NetworkLoop D} (h : l.AllSealed) (e : LoopStep D) :
    (l.step e).AllSealed ↔ l.KeepsSealed e := by
  cases e with
  | network now a => exact allSealed_advance_iff h now a
  | _ =>
    refine ⟨fun _ ↦ trivial, fun _ outlet ↦ ?_⟩
    rw [trace_step_of_call (by simp)]
    exact h outlet

/-- A socket only ever sees more. -/
theorem trace_prefix_step (l : NetworkLoop D) (e : LoopStep D) (outlet : Outlet) :
    l.trace outlet <+: (l.step e).trace outlet := by
  cases e with
  | network now a =>
    show l.trace outlet <+: (l.advance now a).trace outlet
    rw [trace_advance]
    rcases hoffers : l.offers with - | ⟨o, payload⟩
    · have hsame := congrFun (traceAfter_of_offers_none hoffers a) outlet
      exact hsame ▸ List.prefix_rfl
    · rw [traceAfter_of_offers_some hoffers]
      split
      · exact List.prefix_append _ _
      · exact List.prefix_rfl
  | _ =>
    refine ⟨[], ?_⟩
    rw [List.append_nil, trace_step_of_call (by simp)]

theorem allSealed_of_step {l : NetworkLoop D} {e : LoopStep D} (h : (l.step e).AllSealed) :
    l.AllSealed := by
  intro outlet
  obtain ⟨later, hlater⟩ := trace_prefix_step l e outlet
  have hend := h outlet
  rw [← hlater] at hend
  exact (sealed_append.mp hend).1

/-- **When a half-sent message ends the sending.** In a run of the network thread and its callers,
no frame is taken by a socket after a message broke off on it, exactly if, from then on, whenever
the thread has something to offer to that socket, the socket is not writable or refuses the room id.
The loop itself does not stop: it tests `should_stop_` only. -/
theorem half_sent_sealed_iff (roomId : Bytes) (steps : List (LoopStep D)) :
    (∀ outlet, Sealed ((steps.foldl step (started roomId)).trace outlet)) ↔
      Along step KeepsSealed (started roomId : NetworkLoop D) steps := by
  refine Along.iff_invariant (I := AllSealed) (fun _ _ ↦ allSealed_of_step)
    (fun l e h ↦ allSealed_step_iff h e) ?_
  rintro outlet before after hnil
  simp [started] at hnil

/-- The head-of-line packet is offered again one round after its message broke off, and is taken:
the room id and the payload are appended to the open message. -/
theorem half_sent_continued :
    let packet : Answers := ⟨true, true, true⟩
    let cut : Answers := ⟨true, true, false⟩
    let round : List (LoopStep ℚ) := List.replicate 5 (.network 0 packet)
    let steps : List (LoopStep ℚ) :=
      [.enqueueControl [7] 0, .network 0 packet, .network 0 cut] ++ round ++ [.network 0 packet]
    (steps.foldl step (started [1])).trace .control =
        [.frame [1] true, .broken, .frame [1] true, .frame [7] false] ∧
      ¬Sealed ((steps.foldl step (started [1])).trace .control) := by
  intro packet cut round steps
  have htrace : (steps.foldl step (started [1])).trace .control =
      [.frame [1] true, .broken, .frame [1] true, .frame [7] false] := by
    decide +kernel
  refine ⟨htrace, fun h ↦ ?_⟩
  rw [htrace] at h
  exact h [.frame [1] true] [.frame [1] true, .frame [7] false] rfl [1] true (by simp)

end NetworkLoop

end StylyNetSync
