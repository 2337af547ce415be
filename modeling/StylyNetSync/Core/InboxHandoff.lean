import StylyNetSync.Core.OwnPresence
import StylyNetSync.Core.SessionRule
import StylyNetSync.Core.Standing
import StylyNetSync.Foundation.DropOldest
import StylyNetSync.Foundation.Run

/-!
# The hand-off of the inbox

The network thread puts what arrives into the inbox: control payloads into a bounded queue that
drops its oldest, room snapshots into slots that hold the latest. A poll takes all of it at once,
under the lock, and processes it. So the mail of a poll is made of what arrived since the poll
before took its mail: the last 4096 control payloads, in order, and the latest snapshot of either
kind. Nothing is processed twice, and nothing is lost but what the counter counts.

What arrives is known from the turns that the other threads take, between the calls of the host and
during them. A call takes its turns from the front of its schedule, so the turns between two moments
of a call are those that one schedule has and the other has no more.
-/

namespace StylyNetSync

/-! ### What arrives -/

/-- A payload that arrived. -/
structure Arrival where
  lane : TransportLane
  data : Bytes

/-- The payload that a step of another thread brings. -/
def NetworkStep.arrival {D : Type} : NetworkStep D → Option Arrival
  | .payload lane data => some ⟨lane, data⟩
  | _ => none

/-- The payloads that the turns bring, in order. -/
def arrivals {D : Type} (turns : List (List (NetworkStep D))) : List Arrival :=
  turns.flatten.filterMap NetworkStep.arrival

/-- The payloads of one lane, in order. -/
def payloadsOn (lane : TransportLane) (arrived : List Arrival) : List Bytes :=
  (arrived.filter fun arrival ↦ arrival.lane == lane).map Arrival.data

theorem payloadsOn_append (lane : TransportLane) (arrived more : List Arrival) :
    payloadsOn lane (arrived ++ more) = payloadsOn lane arrived ++ payloadsOn lane more := by
  rw [payloadsOn, List.filter_append, List.map_append]
  rfl

/-- The mail that is made of what arrived. -/
def Shared.Mail.of (arrived : List Arrival) : Shared.Mail where
  control := (payloadsOn .control arrived).rtake kControlInboxMax
  roomPose := (payloadsOn .roomPose arrived).getLast?
  roomObjects := (payloadsOn .roomObjects arrived).getLast?

theorem Shared.Mail.control_of (arrived : List Arrival) :
    (Shared.Mail.of arrived).control = (payloadsOn .control arrived).rtake kControlInboxMax := by
  rw [Shared.Mail.of]

/-- The control payloads that had to make room. -/
def overflow (arrived : List Arrival) : ℕ :=
  (payloadsOn .control arrived).length - kControlInboxMax

namespace Inbox

/-- The payloads that wait, without the notifications. -/
def lanes (inbox : Inbox) : Inbox := { inbox with notifications := [] }

/-- An inbox that was empty, and at which these payloads arrived. -/
def holding (dropped : ℕ) (arrived : List Arrival) : Inbox where
  control := (Shared.Mail.of arrived).control
  latestRoomPose := (Shared.Mail.of arrived).roomPose
  latestRoomObjects := (Shared.Mail.of arrived).roomObjects
  controlDropped := dropped + overflow arrived

theorem control_holding (dropped : ℕ) (arrived : List Arrival) :
    (holding dropped arrived).control = (Shared.Mail.of arrived).control := by
  rw [holding]

theorem controlDropped_holding (dropped : ℕ) (arrived : List Arrival) :
    (holding dropped arrived).controlDropped = dropped + overflow arrived := by
  rw [holding]

/-- Nothing has arrived yet. -/
theorem holding_nil (dropped : ℕ) : holding dropped [] = { controlDropped := dropped } := by
  simp [holding, Shared.Mail.of, overflow, payloadsOn]

def receiveAll (inbox : Inbox) (arrived : List Arrival) : Inbox :=
  arrived.foldl (fun inbox arrival ↦ inbox.receive arrival.lane arrival.data) inbox

/-- The control lane is a queue that drops its oldest. -/
theorem receive_control (data : Bytes) (inbox : Inbox) :
    inbox.receive .control data =
      { inbox with
        control := (dropOldest kControlInboxMax (inbox.control, inbox.controlDropped) data).1
        controlDropped :=
          (dropOldest kControlInboxMax (inbox.control, inbox.controlDropped) data).2 } := by
  rw [receive, dropOldest]
  dsimp only
  split <;> rfl

theorem lanes_receive (lane : TransportLane) (data : Bytes) (inbox : Inbox) :
    (inbox.receive lane data).lanes = inbox.lanes.receive lane data := by
  cases lane with
  | control =>
    rw [receive_control, receive_control]
    rfl
  | roomPose => rfl
  | roomObjects => rfl

/-- One more payload. -/
theorem receive_holding (dropped : ℕ) (arrived : List Arrival) (arrival : Arrival) :
    (holding dropped arrived).receive arrival.lane arrival.data =
      holding dropped (arrived ++ [arrival]) := by
  obtain ⟨lane, data⟩ := arrival
  have hlane (lane' : TransportLane) : payloadsOn lane' (arrived ++ [⟨lane, data⟩]) =
      if lane = lane' then payloadsOn lane' arrived ++ [data] else payloadsOn lane' arrived := by
    rw [payloadsOn_append]
    split
    · next h =>
      subst h
      simp [payloadsOn]
    · next h => simp [payloadsOn, h]
  cases lane with
  | control =>
    have hqueue := dropOldest_rtake (n := kControlInboxMax) (by decide)
      (payloadsOn .control arrived) dropped data
    rw [receive_control]
    simp only [holding, Shared.Mail.of, overflow, hlane, hqueue]
    simp
  | roomPose => simp [receive, holding, Shared.Mail.of, overflow, hlane]
  | roomObjects => simp [receive, holding, Shared.Mail.of, overflow, hlane]

/-- **What waits is made of what arrived.** -/
theorem receiveAll_holding (dropped : ℕ) (arrived more : List Arrival) :
    (holding dropped arrived).receiveAll more = holding dropped (arrived ++ more) := by
  induction more generalizing arrived with
  | nil =>
    rw [List.append_nil]
    rfl
  | cons arrival more ih =>
    rw [receiveAll, List.foldl_cons, receive_holding]
    have hrest := ih (arrived ++ [arrival])
    rwa [List.append_assoc, List.singleton_append, receiveAll] at hrest

end Inbox

/-! ### The buffers of the source -/

/-- The inboxes as the source keeps them: a slot is a buffer and a flag. -/
structure InboxBuffers where
  controlInbox : List Bytes := []
  controlInboxDropped : ℕ := 0
  latestRoomPose : Bytes := []
  hasRoomPose : Bool := false
  latestRoomObjects : Bytes := []
  hasRoomObjects : Bool := false

namespace InboxBuffers

/-- `handle_payload`, on the network thread. -/
def handlePayload (b : InboxBuffers) (arrival : Arrival) : InboxBuffers :=
  match arrival.lane with
  | .control =>
    let b :=
      if b.controlInbox.length ≥ kControlInboxMax then
        { b with
          controlInbox := b.controlInbox.tail
          controlInboxDropped := b.controlInboxDropped + 1 }
      else b
    { b with controlInbox := b.controlInbox ++ [arrival.data] }
  | .roomPose => { b with latestRoomPose := arrival.data, hasRoomPose := true }
  | .roomObjects => { b with latestRoomObjects := arrival.data, hasRoomObjects := true }

def handlePayloads (b : InboxBuffers) (arrived : List Arrival) : InboxBuffers :=
  arrived.foldl handlePayload b

/-- The locked part of `poll`: the queue and the buffers whose flags are set are swapped with local
variables, which are empty. -/
def swapOut (b : InboxBuffers) : Shared.Mail × InboxBuffers :=
  let roomPose := if b.hasRoomPose then some b.latestRoomPose else none
  let roomObjects := if b.hasRoomObjects then some b.latestRoomObjects else none
  (⟨b.controlInbox, roomPose, roomObjects⟩,
    { controlInbox := []
      controlInboxDropped := b.controlInboxDropped
      latestRoomPose := if b.hasRoomPose then [] else b.latestRoomPose
      hasRoomPose := false
      latestRoomObjects := if b.hasRoomObjects then [] else b.latestRoomObjects
      hasRoomObjects := false })

/-- A slot holds something if its flag is set. -/
def toInbox (b : InboxBuffers) : Inbox where
  control := b.controlInbox
  latestRoomPose := if b.hasRoomPose then some b.latestRoomPose else none
  latestRoomObjects := if b.hasRoomObjects then some b.latestRoomObjects else none
  controlDropped := b.controlInboxDropped

theorem toInbox_handlePayload (b : InboxBuffers) (arrival : Arrival) :
    (b.handlePayload arrival).toInbox = b.toInbox.receive arrival.lane arrival.data := by
  obtain ⟨lane, data⟩ := arrival
  cases lane with
  | control =>
    rw [handlePayload, Inbox.receive]
    dsimp only
    by_cases hfull : b.controlInbox.length ≥ kControlInboxMax
    · have hfull' : b.toInbox.control.length ≥ kControlInboxMax := hfull
      rw [if_pos hfull, if_pos hfull']
      rfl
    · have hfull' : ¬b.toInbox.control.length ≥ kControlInboxMax := hfull
      rw [if_neg hfull, if_neg hfull']
      rfl
  | roomPose => rfl
  | roomObjects => rfl

theorem toInbox_handlePayloads (b : InboxBuffers) (arrived : List Arrival) :
    (b.handlePayloads arrived).toInbox = b.toInbox.receiveAll arrived := by
  induction arrived generalizing b with
  | nil => rfl
  | cons arrival arrived ih =>
    rw [handlePayloads, List.foldl_cons, Inbox.receiveAll, List.foldl_cons,
      ← toInbox_handlePayload]
    exact ih (b.handlePayload arrival)

/-- What is swapped out is what the inbox holds, and a buffer without its flag counts for
nothing. -/
theorem toInbox_swapOut (b : InboxBuffers) :
    b.swapOut.1 =
        ⟨b.toInbox.control, b.toInbox.latestRoomPose, b.toInbox.latestRoomObjects⟩ ∧
      b.swapOut.2.toInbox = { controlDropped := b.toInbox.controlDropped } :=
  ⟨rfl, rfl⟩

end InboxBuffers

/-! ### What a call hears -/

namespace Shared

variable {D : Type}

/-- The other threads take these turns from the first moment to the second, and nothing else touches
the payloads that wait. -/
structure Hears (turns : List (List (NetworkStep D))) (w w' : Shared D) : Prop where
  schedule : w.schedule = turns ++ w'.schedule
  lanes : w'.inbox.lanes = w.inbox.lanes.receiveAll (arrivals turns)

/-- What arrives from one moment of a call to another: the turns that are not to come any more. -/
def heard (w w' : Shared D) : List Arrival :=
  arrivals (w.schedule.take (w.schedule.length - w'.schedule.length))

theorem Hears.heard_eq {turns : List (List (NetworkStep D))} {w w' : Shared D}
    (h : Hears turns w w') : heard w w' = arrivals turns := by
  rw [heard, h.schedule, List.length_append, Nat.add_sub_cancel, List.take_left']
  rfl

theorem Hears.trans {turns turns' : List (List (NetworkStep D))} {w w₁ w₂ : Shared D}
    (h : Hears turns w w₁) (h' : Hears turns' w₁ w₂) : Hears (turns ++ turns') w w₂ where
  schedule := by rw [h.schedule, h'.schedule, List.append_assoc]
  lanes := by
    rw [h'.lanes, h.lanes, Inbox.receiveAll, Inbox.receiveAll, Inbox.receiveAll,
      ← List.foldl_append, arrivals, arrivals, arrivals, List.flatten_append,
      List.filterMap_append]

variable [Double D]

/-- A step of another thread is heard if it brings a payload. -/
theorem lanes_step (w : Shared D) (n : NetworkStep D) :
    (w.step n).inbox.lanes = w.inbox.lanes.receiveAll n.arrival.toList ∧
      (w.step n).schedule = w.schedule := by
  cases n with
  | payload lane data => exact ⟨Inbox.lanes_receive lane data w.inbox, rfl⟩
  | drainStep result reason =>
    rw [step]
    rcases w.transport.drainStep result with ⟨outcome, t⟩
    cases outcome <;> exact ⟨rfl, rfl⟩
  | _ => exact ⟨rfl, rfl⟩

theorem lanes_steps (w : Shared D) (steps : List (NetworkStep D)) :
    (steps.foldl step w).inbox.lanes =
        w.inbox.lanes.receiveAll (steps.filterMap NetworkStep.arrival) ∧
      (steps.foldl step w).schedule = w.schedule := by
  induction steps generalizing w with
  | nil => exact ⟨rfl, rfl⟩
  | cons n steps ih =>
    obtain ⟨hlanes, hschedule⟩ := w.lanes_step n
    obtain ⟨hlanes', hschedule'⟩ := ih (w.step n)
    refine ⟨?_, hschedule'.trans hschedule⟩
    rw [List.foldl_cons, hlanes', hlanes, Inbox.receiveAll, Inbox.receiveAll, Inbox.receiveAll,
      ← List.foldl_append]
    congr 1
    rw [List.filterMap_cons]
    cases n.arrival <;> rfl

/-- One look at the shared state is one turn. -/
theorem hears_yield (w : Shared D) : ∃ turns, Hears turns w w.yield := by
  rw [yield]
  split
  · exact ⟨[], rfl, rfl⟩
  · next steps rest hschedule =>
    obtain ⟨hlanes, hrest⟩ := ({ w with schedule := rest } : Shared D).lanes_steps steps
    refine ⟨[steps], ?_, ?_⟩
    · rw [hrest, hschedule]
      rfl
    · rw [hlanes, arrivals, List.flatten_singleton]

/-- **A call hears what its turns bring**, whatever it sends and reports. -/
theorem steady_hears (w₀ : Shared D) :
    Steady (fun _ ↦ True) fun w ↦ ∃ turns, Hears turns w₀ w where
  yield := by
    rintro w ⟨turns, h⟩
    obtain ⟨turn, hturn⟩ := w.hears_yield
    exact ⟨turns ++ turn, h.trans hturn⟩
  notify _ := fun ⟨turns, h⟩ ↦ ⟨turns, h.schedule, h.lanes⟩
  notified := fun ⟨turns, h⟩ ↦ ⟨turns, h.schedule, h.lanes⟩
  discovering _ := fun ⟨turns, h⟩ ↦ ⟨turns, h.schedule, h.lanes⟩
  transport _ _ := fun ⟨turns, h⟩ ↦ ⟨turns, h.schedule, h.lanes⟩
  accept _ _ _ _ _ := fun ⟨turns, h⟩ ↦ ⟨turns, h.schedule, h.lanes⟩

omit [Double D] in
/-- What waits at the later moment is what waited, and what arrived since. -/
theorem lanes_heard {w w' : Shared D} (h : ∃ turns, Hears turns w w') :
    w'.inbox.lanes = w.inbox.lanes.receiveAll (heard w w') := by
  obtain ⟨turns, hturns⟩ := h
  rw [hturns.lanes, hturns.heard_eq]

end Shared

namespace Session

variable {D : Type} [DoubleTrig D]

/-- The moment at which the poll holds the lock of the inbox. -/
def atInbox (now : D) (s : Session D) : Shared D :=
  (({ s with events := [] } : Session D).drainInternalEvents.greet now).shared.yield

/-- The poll as far as it has come when it has the mail. -/
def withMail (now : D) (s : Session D) : Session D :=
  let s := ({ s with events := [] } : Session D).drainInternalEvents.greet now
  { s with shared := s.shared.takeMail.2 }

theorem mailOfPoll_eq (now : D) (s : Session D) :
    s.mailOfPoll now =
      ⟨(s.atInbox now).inbox.control, (s.atInbox now).inbox.latestRoomPose,
        (s.atInbox now).inbox.latestRoomObjects⟩ := rfl

/-- What arrives before the poll holds the lock. -/
theorem hears_atInbox (now : D) (s : Session D) :
    ∃ turns, Shared.Hears turns s.shared (s.atInbox now) := by
  have hsteady := Shared.steady_hears s.shared
  have hwalk := (follows_of_steady hsteady).walk
  have hbegin : ∃ turns, Shared.Hears turns s.shared ({ s with events := [] } : Session D).shared :=
    ⟨[], rfl, rfl⟩
  have hdrained := (moves_drainInternalEvents (Q := fun _ ↦ True) _).shared hsteady hbegin
  have hgreeted := hwalk.greet now hdrained
  rw [atInbox]
  exact hsteady.yield hgreeted

variable [DoubleText D]

/-- A poll processes its mail between taking it and sending. -/
theorem poll_mail (decode : Bytes → Option (List Bytes)) (now : D) {s : Session D}
    (hstate : s.client.state ≠ .disconnected) :
    (s.poll decode now).2 =
      (((s.withMail now).processMail decode (s.mailOfPoll now)).flush now).updateReady := by
  let s₀ := ({ s with events := [] } : Session D).drainInternalEvents.greet now
  have hpoll : (s.poll decode now).2 = ((s₀.drainInbox decode).flush now).updateReady := by
    rw [poll, if_neg hstate]
  have hdrain : s₀.drainInbox decode =
      (s.withMail now).processMail decode (s.mailOfPoll now) := rfl
  rw [hpoll, hdrain]

/-- What arrives after the poll has its mail. -/
theorem hears_poll (decode : Bytes → Option (List Bytes)) (now : D) {s : Session D}
    (hstate : s.client.state ≠ .disconnected) :
    ∃ turns, Shared.Hears turns (s.withMail now).shared (s.poll decode now).2.shared := by
  have hsteady := Shared.steady_hears (s.withMail now).shared
  have hwalk := (follows_of_steady hsteady).walk
  have hbegin : ∃ turns, Shared.Hears turns (s.withMail now).shared (s.withMail now).shared :=
    ⟨[], rfl, rfl⟩
  rw [poll_mail decode now hstate]
  have hflush := hwalk.flush now (hwalk.processMail decode (s.mailOfPoll now) hbegin)
  exact (moves_updateReady (Q := fun _ ↦ True) _).shared hsteady hflush

/-- What arrives during another call. -/
theorem hears_perform (decode : Bytes → Option (List Bytes)) (s : Session D) {call : HostCall D}
    (hpoll : ∀ now, call ≠ .poll now) :
    ∃ turns, Shared.Hears turns s.shared (s.perform decode call).shared := by
  have hfollows := follows_of_steady (Shared.steady_hears s.shared)
  refine hfollows.walk.perform decode call (fun now hnow ↦ absurd hnow (hpoll now))
    (fun key value _ hs ↦ hfollows.setClientVariableFor key.clientNo key.name value hs) ?_
  exact ⟨[], rfl, rfl⟩

end Session

/-! ### What an observer keeps -/

/-- A session, and what an observer remembers of its inbox. -/
structure InboxRun (D : Type) where
  session : Session D
  /-- The buffers of the source, which the same payloads are handed to. -/
  buffers : InboxBuffers
  /-- What arrived since the mail was last taken. -/
  since : List Arrival
  /-- What had arrived, poll by poll, when the mail was taken. -/
  batches : List (List Arrival) := []
  /-- The mail that was swapped out of the buffers, poll by poll. -/
  mails : List Shared.Mail := []

namespace InboxRun

variable {D : Type}

/-- All that arrived in the session. -/
def received (r : InboxRun D) : List Arrival := r.batches.flatten ++ r.since

/-- The control payloads that were swapped out. -/
def processed (r : InboxRun D) : List Bytes := r.mails.flatMap Shared.Mail.control

/-- Payloads arrive while the session becomes another. -/
def hear (session : Session D) (arrived : List Arrival) (r : InboxRun D) : InboxRun D :=
  { r with
    session := session
    buffers := r.buffers.handlePayloads arrived
    since := r.since ++ arrived }

/-- The poll takes the mail. -/
def swapOut (r : InboxRun D) : InboxRun D :=
  { r with
    buffers := r.buffers.swapOut.2
    since := []
    batches := r.batches ++ [r.since]
    mails := r.mails ++ [r.buffers.swapOut.1] }

/-- A new session begins with empty buffers. -/
def connect [Double D] (config : ClientConfig D) (s : Session D) : InboxRun D :=
  hear (s.connect config).2
    (Shared.heard (s.beginSession config).shared (s.connect config).2.shared)
    { session := s.beginSession config
      buffers := { controlInboxDropped := (s.beginSession config).shared.inbox.controlDropped }
      since := [] }

/-- The session at the beginning of a call. -/
def begins (schedule : List (List (NetworkStep D))) (r : InboxRun D) : Session D :=
  { r.session with shared := { r.session.shared with schedule := schedule } }

variable [DoubleTrig D]

/-- The poll when it holds the lock: payloads arrived before, and the mail is not yet taken. -/
def atInbox (now : D) (schedule : List (List (NetworkStep D))) (r : InboxRun D) : InboxRun D :=
  r.hear (r.begins schedule)
    (Shared.heard (r.begins schedule).shared ((r.begins schedule).atInbox now))

variable [DoubleText D]

def step (decode : Bytes → Option (List Bytes)) (r : InboxRun D) (e : SessionStep D) :
    InboxRun D :=
  let session := r.session.step decode e
  match e with
  | .network n => r.hear session n.arrival.toList
  | .call (.poll now) schedule =>
    (r.atInbox now schedule).swapOut.hear session
      (Shared.heard ((r.begins schedule).atInbox now) session.shared)
  | .call _ schedule => r.hear session (Shared.heard (r.begins schedule).shared session.shared)

/-- A poll processes what is swapped out of the buffers, and this is the mail that is made of what
arrived since the poll before had its mail. -/
def HandsOver (decode : Bytes → Option (List Bytes)) (r : InboxRun D) : SessionStep D → Prop
  | .call (.poll now) schedule =>
    let mail := (r.atInbox now schedule).buffers.swapOut.1
    mail = Shared.Mail.of (r.atInbox now schedule).since ∧
    ((r.begins schedule).poll decode now).2 =
      ((((r.begins schedule).withMail now).processMail decode mail).flush now).updateReady
  | _ => True

/-! ### The invariant -/

/-- The buffers are what the session has for an inbox, the mail was made of what had arrived, and so
is what waits. -/
structure Sound (dropped : ℕ) (w : Shared D) (r : InboxRun D) : Prop where
  mails : r.mails = r.batches.map Shared.Mail.of
  lanes : w.inbox.lanes = r.buffers.toInbox
  holds : r.buffers.toInbox = Inbox.holding (dropped + (r.batches.map overflow).sum) r.since

variable {r : InboxRun D} {dropped : ℕ} {w w' : Shared D}

omit [DoubleTrig D] [DoubleText D] in
/-- More payloads arrive. -/
theorem Sound.hear (h : r.Sound dropped w) {arrived : List Arrival} (session : Session D)
    (hlanes : w'.inbox.lanes = w.inbox.lanes.receiveAll arrived) :
    (r.hear session arrived).Sound dropped w' where
  mails := h.mails
  lanes := by
    rw [hlanes, h.lanes, InboxRun.hear, InboxBuffers.toInbox_handlePayloads]
  holds := by
    show (r.buffers.handlePayloads arrived).toInbox =
      Inbox.holding (dropped + (r.batches.map overflow).sum) (r.since ++ arrived)
    rw [InboxBuffers.toInbox_handlePayloads, h.holds, Inbox.receiveAll_holding]

omit [DoubleTrig D] [DoubleText D] in
/-- What is swapped out. -/
theorem Sound.mail_eq (h : r.Sound dropped w) : r.buffers.swapOut.1 = Shared.Mail.of r.since := by
  rw [r.buffers.toInbox_swapOut.1, h.holds]
  dsimp only [Inbox.holding]

omit [DoubleTrig D] [DoubleText D] in
/-- The mail is taken. -/
theorem Sound.swapOut (h : r.Sound dropped w)
    (hlanes : w'.inbox.lanes = { controlDropped := w.inbox.lanes.controlDropped }) :
    r.swapOut.Sound dropped w' where
  mails := by
    show r.mails ++ [r.buffers.swapOut.1] = (r.batches ++ [r.since]).map Shared.Mail.of
    rw [h.mail_eq, h.mails, List.map_append, List.map_singleton]
  lanes := by
    show w'.inbox.lanes = r.buffers.swapOut.2.toInbox
    rw [hlanes, h.lanes, r.buffers.toInbox_swapOut.2]
  holds := by
    show r.buffers.swapOut.2.toInbox =
      Inbox.holding (dropped + ((r.batches ++ [r.since]).map overflow).sum) []
    rw [r.buffers.toInbox_swapOut.2, h.holds, Inbox.holding_nil, List.map_append, List.sum_append,
      List.map_singleton, List.sum_singleton, ← Nat.add_assoc]
    rfl

omit [DoubleText D] in
/-- Up to the lock, a poll only listens. -/
theorem Sound.atInbox (h : r.Sound dropped r.session.shared) (now : D)
    (schedule : List (List (NetworkStep D))) :
    (r.atInbox now schedule).Sound dropped ((r.begins schedule).atInbox now) := by
  have hbegin : r.Sound dropped (r.begins schedule).shared := ⟨h.mails, h.lanes, h.holds⟩
  exact hbegin.hear _ (Shared.lanes_heard ((r.begins schedule).hears_atInbox now))

/-- The session goes on, and the buffers are sound. -/
def Keeps (dropped : ℕ) (r : InboxRun D) : Prop :=
  r.session.client.state ≠ .disconnected ∧ r.Sound dropped r.session.shared

/-- **One step of a session.** -/
theorem keeps_step (decode : Bytes → Option (List Bytes)) (e : SessionStep D)
    (h : r.Keeps dropped) : (r.step decode e).Keeps dropped := by
  obtain ⟨halive, hsound⟩ := h
  have halive' := Session.step_ne_disconnected decode e halive
  cases e with
  | network n => exact ⟨halive', hsound.hear _ (r.session.shared.lanes_step n).1⟩
  | call call schedule =>
    by_cases hcall : ∃ now, call = .poll now
    · obtain ⟨now, rfl⟩ := hcall
      refine ⟨halive', ?_⟩
      have htaken : (r.atInbox now schedule).swapOut.Sound dropped
          ((r.begins schedule).withMail now).shared := (hsound.atInbox now schedule).swapOut rfl
      exact htaken.hear _
        (Shared.lanes_heard ((r.begins schedule).hears_poll decode now halive))
    · have hother : ∀ now, call ≠ .poll now := fun now hnow ↦ hcall ⟨now, hnow⟩
      have hstep : r.step decode (.call call schedule) =
          r.hear ((r.begins schedule).perform decode call)
            (Shared.heard (r.begins schedule).shared
              ((r.begins schedule).perform decode call).shared) := by
        cases call with
        | poll now => exact absurd rfl (hother now)
        | _ => rfl
      rw [hstep]
      refine ⟨halive', ?_⟩
      have hbegin : r.Sound dropped (r.begins schedule).shared :=
        ⟨hsound.mails, hsound.lanes, hsound.holds⟩
      exact hbegin.hear _
        (Shared.lanes_heard (Session.hears_perform decode (r.begins schedule) hother))

/-- **One poll.** -/
theorem handsOver_step (decode : Bytes → Option (List Bytes)) (e : SessionStep D)
    (h : r.Keeps dropped) : r.HandsOver decode e := by
  cases e with
  | network n => trivial
  | call call schedule =>
    cases call with
    | poll now =>
      have hlock := h.2.atInbox now schedule
      have hmail : (r.begins schedule).mailOfPoll now =
          (r.atInbox now schedule).buffers.swapOut.1 := by
        obtain ⟨hcontrol, hpose, hobjects, -⟩ := Inbox.mk.inj hlock.lanes
        rw [(r.atInbox now schedule).buffers.toInbox_swapOut.1, Session.mailOfPoll_eq, hcontrol,
          hpose, hobjects]
        rfl
      refine ⟨hlock.mail_eq, ?_⟩
      rw [Session.poll_mail decode now (s := r.begins schedule) h.1, hmail]
    | _ => trivial

omit [DoubleText D] in
/-- The buffers are empty when the session begins. -/
theorem keeps_connect (config : ClientConfig D) {s : Session D}
    (hstate : s.client.state = .disconnected ∨ s.client.state = .error) :
    (connect config s).Keeps (s.beginSession config).shared.inbox.controlDropped := by
  have hmoves := Session.moves_connect (Q := fun _ ↦ True) config hstate
  have hheard := hmoves.shared (Shared.steady_hears (s.beginSession config).shared) ⟨[], rfl, rfl⟩
  constructor
  · obtain ⟨state, hbegun, hstanding⟩ := Session.standing_connect config hstate
    have hsame : (s.connect config).2.client.state = state := congrArg Standing.state hstanding
    show (s.connect config).2.client.state ≠ .disconnected
    rw [hsame]
    rcases hbegun with rfl | rfl <;> simp
  · refine Sound.hear (w := (s.beginSession config).shared) ⟨rfl, rfl, ?_⟩ _
      (Shared.lanes_heard hheard)
    exact (Inbox.holding_nil _).symm

/-! ### The account -/

/-- Batch by batch, what is processed is in order, and the rest had to make room. -/
theorem control_batches (batches : List (List Arrival)) :
    ((batches.map Shared.Mail.of).flatMap Shared.Mail.control).Sublist
        (payloadsOn .control batches.flatten) ∧
      ((batches.map Shared.Mail.of).flatMap Shared.Mail.control).length +
        (batches.map overflow).sum = (payloadsOn .control batches.flatten).length := by
  induction batches with
  | nil => exact ⟨List.Sublist.refl [], rfl⟩
  | cons batch batches ih =>
    obtain ⟨hsublist, hlength⟩ := ih
    have hbatch := (payloadsOn .control batch).length_rtake_add kControlInboxMax
    rw [List.map_cons, List.flatMap_cons, List.flatten_cons, payloadsOn_append, List.map_cons,
      List.sum_cons, List.length_append, List.length_append, Shared.Mail.control_of, overflow]
    refine ⟨((payloadsOn .control batch).rtake_sublist kControlInboxMax).append hsublist, ?_⟩
    omega

omit [DoubleTrig D] [DoubleText D] in
/-- What was processed and what waits is what was received, in order, but for what the counter
counts. -/
theorem Sound.accounts (h : r.Sound dropped w) :
    (r.processed ++ w.inbox.control).Sublist (payloadsOn .control r.received) ∧
      (payloadsOn .control r.received).length + dropped =
        (r.processed ++ w.inbox.control).length + w.inbox.controlDropped := by
  have hlanes := h.lanes.trans h.holds
  have hcontrol : w.inbox.control = (Shared.Mail.of r.since).control :=
    (congrArg Inbox.control hlanes).trans (Inbox.control_holding _ _)
  have hdropped : w.inbox.controlDropped =
      dropped + (r.batches.map overflow).sum + overflow r.since :=
    (congrArg Inbox.controlDropped hlanes).trans (Inbox.controlDropped_holding _ _)
  obtain ⟨hsublist, hlength⟩ := control_batches r.batches
  have hsince := (payloadsOn .control r.since).length_rtake_add kControlInboxMax
  rw [processed, h.mails, received, payloadsOn_append, hcontrol, hdropped, List.length_append,
    List.length_append, Shared.Mail.control_of]
  refine ⟨hsublist.append ((payloadsOn .control r.since).rtake_sublist kControlInboxMax), ?_⟩
  rw [← hlength, overflow]
  omega

/-- **The inbox is handed over.** However the payloads arrive, between the calls of the host and
during them: every poll processes the mail that is made of what arrived since the poll before had
its mail, that is the last 4096 control payloads and the latest room snapshots. The control payloads
that were processed or wait are those received, in order and each once, but for as many as the
counter has grown by. -/
theorem inbox_handoff (decode : Bytes → Option (List Bytes)) (config : ClientConfig D)
    {s : Session D} (hstate : s.client.state = .disconnected ∨ s.client.state = .error)
    (es : List (SessionStep D)) :
    let r := es.foldl (step decode) (connect config s)
    Along (step decode) (HandsOver decode) (connect config s) es ∧
      r.mails = r.batches.map Shared.Mail.of ∧
      (r.processed ++ r.session.shared.inbox.control).Sublist (payloadsOn .control r.received) ∧
      (payloadsOn .control r.received).length +
          (s.beginSession config).shared.inbox.controlDropped =
        (r.processed ++ r.session.shared.inbox.control).length +
          r.session.shared.inbox.controlDropped := by
  have hstart := keeps_connect config hstate
  have hstep (r : InboxRun D) (e : SessionStep D)
      (hr : r.Keeps (s.beginSession config).shared.inbox.controlDropped) :
      (r.step decode e).Keeps (s.beginSession config).shared.inbox.controlDropped :=
    keeps_step decode e hr
  have hrun : Along (step decode) (HandsOver decode) (connect config s) es :=
    Along.of_invariant hstep (fun r e hr ↦ handsOver_step decode e hr) hstart es
  have hend := hrun.invariant (fun r e hr _ ↦ hstep r e hr) hstart
  exact ⟨hrun, hend.2.mails, hend.2.accounts⟩

/-- Two frames and two control payloads come in before the poll, and one of each while it is under
way: before it holds the lock, and after. -/
def frames : List (SessionStep ℚ) :=
  [.network (.payload .roomPose [1]), .network (.payload .control [2]),
    .network (.payload .roomPose [3]), .network (.payload .control [4]),
    .call (.poll 0) [[], [.payload .control [5]], [.payload .roomPose [6]]], .call (.poll 1) [],
    .call (.poll 2) []]

theorem inbox_handoff_frames :
    let start := connect Session.deviceConfig (Session.new 0)
    let r := frames.foldl (step fun _ ↦ none) start
    r.processed = [[2], [4], [5]] ∧
      r.mails.map Shared.Mail.roomPose = [some [3], some [6], none] ∧
      Along (step fun _ ↦ none) (HandsOver fun _ ↦ none) start frames := by
  refine ⟨by decide +kernel, by decide +kernel, ?_⟩
  exact (inbox_handoff (fun _ ↦ none) Session.deviceConfig (s := Session.new 0) (Or.inl rfl)
    frames).1

end InboxRun

end StylyNetSync
