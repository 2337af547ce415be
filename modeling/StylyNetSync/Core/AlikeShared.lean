import StylyNetSync.Core.SessionMoves
import StylyNetSync.Foundation.TwoRuns

/-!
# Two sessions side by side: what the threads share

Two clients that are called alike do alike, as long as they agree in what a call can read. `Alike`
says this of what the threads share. Three things may differ: log lines that wait in the inbox, the
counters of the transport, and its flags while it does not run. A transport that does not run holds
nothing, which is kept here too.

A log line lets the other threads in. Where the two clients may disagree on whether a line is
written, the calls have to be taken as a whole: `quiet` says that the two agree on the lines, or
that no step of another thread is left in the schedule.
-/

namespace StylyNetSync

variable {D : Type}

/-! ### The transport -/

/-- The counters of `transport_stats()`. -/
structure TransportCounters where
  wouldBlockCount : ℕ := 0
  controlDroppedFull : ℕ := 0
  controlDroppedExpired : ℕ := 0
  messagesSent : ℕ := 0
  deriving DecidableEq

/-- Counters that were ahead by some from the start. -/
def TransportCounters.ahead (k c : TransportCounters) : TransportCounters where
  wouldBlockCount := c.wouldBlockCount + k.wouldBlockCount
  controlDroppedFull := c.controlDroppedFull + k.controlDroppedFull
  controlDroppedExpired := c.controlDroppedExpired + k.controlDroppedExpired
  messagesSent := c.messagesSent + k.messagesSent

namespace ZmqTransport

def counters {P : Type} (t : ZmqTransport P D) : TransportCounters where
  wouldBlockCount := t.wouldBlockCount
  controlDroppedFull := t.controlDroppedFull
  controlDroppedExpired := t.controlDroppedExpired
  messagesSent := t.messagesSent

/-- The counters are never set back. -/
theorem counters_stop {P : Type} (t : ZmqTransport P D) : t.stop.counters = t.counters := by
  rw [stop]
  split
  · rfl
  · rfl

/-- Nothing is queued for sending. -/
structure Holdless {P : Type} (t : ZmqTransport P D) : Prop where
  controlOutbox : t.controlOutbox = []
  pendingControl : t.pendingControl = none
  latestTransform : t.latestTransform = none
  latestObjectTransforms : t.latestObjectTransforms = ∅

/-- The transports agree in all that a caller or the network thread can read. -/
structure Alike (k : TransportCounters) (t t' : ZmqTransport ControlMessage D) : Prop where
  running : t'.running = t.running
  flags : t.running = true → t'.shouldStop = t.shouldStop ∧ t'.connectionError = t.connectionError
  controlOutbox : t'.controlOutbox = t.controlOutbox
  pendingControl : t'.pendingControl = t.pendingControl
  latestTransform : t'.latestTransform = t.latestTransform
  latestObjectTransforms : t'.latestObjectTransforms = t.latestObjectTransforms
  draining : t'.draining = t.draining
  ledger : t'.ledger = t.ledger
  counters : t.counters = k.ahead t'.counters
  idle : t.running = false → t.Holdless

namespace Alike

variable {k : TransportCounters} {t t' : ZmqTransport ControlMessage D}

theorem usable (h : Alike k t t') : t'.usable = t.usable := by
  rw [ZmqTransport.usable, ZmqTransport.usable, h.running]
  cases hrunning : t.running with
  | false => simp
  | true => rw [(h.flags hrunning).1, (h.flags hrunning).2]

theorem start (h : Alike k t t') (available : Bool) (roomId : Bytes) :
    Replies (Alike k) (t.start available roomId) (t'.start available roomId) := by
  rw [ZmqTransport.start, ZmqTransport.start, h.running]
  split
  · exact Replies.mk h
  · next hrunning =>
    cases available with
    | true =>
      exact Replies.mk
        { h with running := rfl, flags := fun _ ↦ ⟨rfl, rfl⟩, idle := Bool.noConfusion }
    | false =>
      exact Replies.mk
        { h with
          running := rfl
          flags := fun _ ↦ ⟨rfl, rfl⟩
          idle := fun hnot ↦ { h.idle hnot with } }

/-- A transport that is stopped holds nothing, since it held nothing if it did not run. -/
theorem holdless_stop (h : Alike k t t') : t.stop.Holdless := by
  rw [ZmqTransport.stop]
  cases hrunning : t.running with
  | true => exact ⟨rfl, rfl, rfl, rfl⟩
  | false => exact { h.idle hrunning with }

theorem stop (h : Alike k t t') : Alike k t.stop t'.stop := by
  have hheld := h.holdless_stop
  have hheld' : t'.stop.Holdless := by
    rw [ZmqTransport.stop, h.running]
    cases hrunning : t.running with
    | true => exact ⟨rfl, rfl, rfl, rfl⟩
    | false =>
      have hidle := h.idle hrunning
      exact ⟨h.controlOutbox.trans hidle.1, h.pendingControl.trans hidle.2,
        h.latestTransform.trans hidle.3, h.latestObjectTransforms.trans hidle.4⟩
  have hcounters : t.stop.counters = k.ahead t'.stop.counters := by
    rw [counters_stop, counters_stop, h.counters]
  exact ⟨rfl, Bool.noConfusion, hheld'.1.trans hheld.1.symm, hheld'.2.trans hheld.2.symm,
    hheld'.3.trans hheld.3.symm, hheld'.4.trans hheld.4.symm, rfl, rfl, hcounters, fun _ ↦ hheld⟩

/-- Only a running transport is handed anything. -/
theorem pushControl (h : Alike k t t') (hrunning : t.running = true) (message : ControlMessage)
    (now : D) : Replies (Alike k) (t.pushControl message now) (t'.pushControl message now) := by
  have hidle : ¬t.running = false := by rw [hrunning]; exact Bool.noConfusion
  rw [ZmqTransport.pushControl, ZmqTransport.pushControl, h.controlOutbox]
  split
  · have hcounters := h.counters
    simp only [ZmqTransport.counters, TransportCounters.ahead, TransportCounters.mk.injEq]
      at hcounters
    refine Replies.mk
      { h with controlOutbox := rfl, counters := ?_, idle := fun hnot ↦ absurd hnot hidle }
    simp only [ZmqTransport.counters, TransportCounters.ahead, TransportCounters.mk.injEq]
    omega
  · have hledger := congrArg (fun ledger ↦ ledger.accept ⟨message, now⟩) h.ledger
    exact Replies.mk
      { h with controlOutbox := rfl, ledger := hledger, idle := fun hnot ↦ absurd hnot hidle }

theorem setLatestTransform (h : Alike k t t') (hrunning : t.running = true) (payload : Bytes)
    (now : D) : Alike k (t.setLatestTransform payload now) (t'.setLatestTransform payload now) :=
  { h with
    latestTransform := rfl
    idle := fun hnot ↦ Bool.noConfusion (hrunning.symm.trans hnot) }

theorem setLatestObjectTransform (h : Alike k t t') (hrunning : t.running = true)
    (objectId : UInt32) (payload : Bytes) (now : D) :
    Alike k (t.setLatestObjectTransform objectId payload now)
      (t'.setLatestObjectTransform objectId payload now) :=
  { h with
    latestObjectTransforms :=
      congrArg (fun slots ↦ slots.insert objectId ⟨payload, now⟩) h.latestObjectTransforms
    idle := fun hnot ↦ Bool.noConfusion (hrunning.symm.trans hnot) }

theorem clearSentTransform (h : Alike k t t') (payload : Bytes) :
    Alike k (t.clearSentTransform payload) (t'.clearSentTransform payload) := by
  rw [ZmqTransport.clearSentTransform, ZmqTransport.clearSentTransform, h.latestTransform]
  split
  · exact
      { h with
        latestTransform := rfl
        idle := fun hnot ↦ { h.idle hnot with latestTransform := rfl } }
  · exact h

theorem clearSentObjectTransform (h : Alike k t t') (objectId : UInt32) (payload : Bytes) :
    Alike k (t.clearSentObjectTransform objectId payload)
      (t'.clearSentObjectTransform objectId payload) := by
  rw [ZmqTransport.clearSentObjectTransform, ZmqTransport.clearSentObjectTransform,
    h.latestObjectTransforms]
  split
  · next hslot =>
    refine { h with latestObjectTransforms := rfl, idle := fun hnot ↦ absurd hslot ?_ }
    -- a slot was full, so the transport runs
    rw [(h.idle hnot).latestObjectTransforms]
    exact Bool.noConfusion
  · exact h

theorem drainBegin (h : Alike k t t') (now : D) :
    Alike k (t.drainBegin now) (t'.drainBegin now) := by
  rw [ZmqTransport.drainBegin, ZmqTransport.drainBegin, h.draining]
  split
  · exact { h with draining := rfl, idle := fun hnot ↦ { h.idle hnot with } }
  · exact h

/-- The head of the line is the same, and only a running transport has one. -/
theorem takePending (h : Alike k t t') :
    (t.takePending = none ∧ t'.takePending = none) ∨
    ∃ packet u u', t.takePending = some (packet, u) ∧ t'.takePending = some (packet, u') ∧
      Alike k u u' ∧ u.running = true := by
  have hrunning : ∀ packet, t.pendingControl = some packet ∨ packet ∈ t.controlOutbox →
      t.running = true := by
    intro packet hpacket
    by_contra hnot
    have hidle := h.idle (by simpa using hnot)
    rw [hidle.controlOutbox, hidle.pendingControl] at hpacket
    simp at hpacket
  rw [ZmqTransport.takePending, ZmqTransport.takePending, h.pendingControl, h.controlOutbox]
  rcases hpending : t.pendingControl with - | packet
  · rcases houtbox : t.controlOutbox with - | ⟨packet, rest⟩
    · exact Or.inl ⟨rfl, rfl⟩
    · have hrun := hrunning packet (Or.inr (houtbox ▸ List.mem_cons_self))
      have hmoved : Alike k { t with pendingControl := some packet, controlOutbox := rest }
          { t' with pendingControl := some packet, controlOutbox := rest } :=
        { h with
          controlOutbox := rfl
          pendingControl := rfl
          idle := fun hnot ↦ Bool.noConfusion (hrun.symm.trans hnot) }
      exact Or.inr ⟨packet, _, _, rfl, rfl, hmoved, hrun⟩
  · exact Or.inr ⟨packet, _, _, rfl, rfl, h, hrunning packet (Or.inl hpending)⟩

theorem drainStep [Double D] (h : Alike k t t') (result : SendResult) :
    Replies (Alike k) (t.drainStep result) (t'.drainStep result) := by
  have hfinished : Alike k { t with draining := none } { t' with draining := none } :=
    { h with draining := rfl, idle := fun hnot ↦ { h.idle hnot with } }
  rw [ZmqTransport.drainStep, ZmqTransport.drainStep, h.draining]
  rcases t.draining with - | ⟨now, sent⟩
  · exact Replies.mk h
  dsimp only
  split
  · exact Replies.mk hfinished
  obtain ⟨hnone, hnone'⟩ | ⟨packet, u, u', hhead, hhead', hu, hrunning⟩ := h.takePending
  · rw [hnone, hnone']
    exact Replies.mk hfinished
  rw [hhead, hhead']
  have hidle : ∀ {p : Prop}, u.running = false → p := fun hnot ↦
    Bool.noConfusion (hrunning.symm.trans hnot)
  have hcounters := hu.counters
  simp only [ZmqTransport.counters, TransportCounters.ahead, TransportCounters.mk.injEq]
    at hcounters
  have hflags := hu.flags hrunning
  dsimp only
  split
  · have hledger := congrArg (Ledger.settle .expired) hu.ledger
    refine Replies.mk
      { hu with pendingControl := rfl, ledger := hledger, counters := ?_, idle := hidle }
    simp only [ZmqTransport.counters, TransportCounters.ahead, TransportCounters.mk.injEq]
    omega
  cases result with
  | sent =>
    have hledger := congrArg (Ledger.settle .sent) hu.ledger
    refine Replies.mk
      { hu with
        pendingControl := rfl
        draining := rfl
        ledger := hledger
        counters := ?_
        idle := hidle }
    simp only [ZmqTransport.counters, TransportCounters.ahead, TransportCounters.mk.injEq]
    omega
  | wouldBlock =>
    refine Replies.mk { hu with draining := rfl, counters := ?_, idle := hidle }
    simp only [ZmqTransport.counters, TransportCounters.ahead, TransportCounters.mk.injEq]
    omega
  | broken =>
    refine Replies.mk
      { hu with flags := fun _ ↦ ⟨hflags.1, rfl⟩, draining := rfl, counters := ?_, idle := hidle }
    simp only [ZmqTransport.counters, TransportCounters.ahead, TransportCounters.mk.injEq]
    omega

end Alike

end ZmqTransport

/-! ### Everything the threads share -/

/-- What is not only a line for the log. -/
def Notification.matters : Notification → Bool
  | .log _ => false
  | _ => true

namespace Shared

/-- The shared states agree in all that a call can read, but for the log. -/
structure Alike (k : TransportCounters) (b : Prop) (w w' : Shared D) : Prop where
  transport : ZmqTransport.Alike k w.transport w'.transport
  control : w'.inbox.control = w.inbox.control
  roomPose : w'.inbox.latestRoomPose = w.inbox.latestRoomPose
  roomObjects : w'.inbox.latestRoomObjects = w.inbox.latestRoomObjects
  notifications : w'.inbox.notifications.filter Notification.matters =
    w.inbox.notifications.filter Notification.matters
  clock : w'.clock = w.clock
  contextError : w'.contextError = w.contextError
  discovering : w'.discovering = w.discovering
  schedule : w'.schedule = w.schedule
  quiet : b ∨ w.schedule = []

namespace Alike

variable {k : TransportCounters} {b : Prop} {w w' : Shared D}

theorem withTransport (h : Alike k b w w') {t t' : ZmqTransport ControlMessage D}
    (ht : ZmqTransport.Alike k t t') :
    Alike k b { w with transport := t } { w' with transport := t' } :=
  { h with transport := ht }

theorem withSchedule (h : Alike k b w w') {schedule : List (List (NetworkStep D))}
    (hquiet : b ∨ schedule = []) :
    Alike k b { w with schedule := schedule } { w' with schedule := schedule } :=
  { h with schedule := rfl, quiet := hquiet }

theorem notify (h : Alike k b w w') (notification : Notification) :
    Alike k b (w.notify notification) (w'.notify notification) := by
  refine { h with notifications := ?_ }
  show (w'.inbox.notifications ++ _).filter _ = (w.inbox.notifications ++ _).filter _
  rw [List.filter_append, List.filter_append, h.notifications]

/-- A log line on one side only. -/
theorem notify_log_left (h : Alike k b w w') (line : String) :
    Alike k b (w.notify (.log line)) w' := by
  refine { h with notifications := ?_ }
  show _ = (w.inbox.notifications ++ [Notification.log line]).filter _
  rw [List.filter_append, h.notifications]
  exact (List.append_nil _).symm

theorem notify_log_right (h : Alike k b w w') (line : String) :
    Alike k b w (w'.notify (.log line)) := by
  refine { h with notifications := ?_ }
  show (w'.inbox.notifications ++ [Notification.log line]).filter _ = _
  rw [List.filter_append, h.notifications]
  exact List.append_nil _

variable [Double D]

/-- **A step of another thread**, taken on both sides. -/
theorem step (h : Alike k b w w') (n : NetworkStep D) : Alike k b (w.step n) (w'.step n) := by
  cases n with
  | time now => exact { h with clock := rfl }
  | context error => exact { h with contextError := rfl }
  | fail =>
    have ht := h.transport
    exact h.withTransport
      { ht with
        flags := fun hrunning ↦ ⟨(ht.flags hrunning).1, rfl⟩
        idle := fun hnot ↦ { ht.idle hnot with } }
  | notify notification => exact h.notify notification
  | payload lane data =>
    cases lane with
    | control =>
      rw [Shared.step, Shared.step, Inbox.receive, Inbox.receive, h.control]
      split
      · exact { h with control := rfl }
      · exact { h with control := rfl }
    | roomPose => exact { h with roomPose := rfl }
    | roomObjects => exact { h with roomObjects := rfl }
  | drainBegin =>
    refine h.withTransport ?_
    rw [h.clock]
    exact h.transport.drainBegin w.clock
  | drainStep result reason =>
    obtain ⟨outcome, t, t', heq, heq', ht⟩ := (h.transport.drainStep result).exists_eq
    rw [Shared.step, Shared.step, heq, heq']
    have hdrained : Alike k b
        { w with
          transport := t
          lostNewest :=
            w.lostNewest ||
              (w.transport.headOverdue && w.transport.ledger.nextIsNewest packetSlot) }
        { w' with
          transport := t'
          lostNewest :=
            w'.lostNewest ||
              (w'.transport.headOverdue && w'.transport.ledger.nextIsNewest packetSlot) } :=
      { h with transport := ht }
    cases outcome with
    | expired => exact hdrained.notify _
    | broken => exact hdrained.notify _
    | _ => exact hdrained
  | clearSentTransform payload => exact h.withTransport (h.transport.clearSentTransform payload)
  | clearSentObjectTransform objectId payload =>
    exact h.withTransport (h.transport.clearSentObjectTransform objectId payload)

theorem yield (h : Alike k b w w') : Alike k b w.yield w'.yield := by
  rw [Shared.yield, Shared.yield, h.schedule]
  rcases hschedule : w.schedule with - | ⟨steps, rest⟩
  · exact h
  · have hquiet : b ∨ rest = [] := h.quiet.imp_right fun hnone ↦ by
      rw [hschedule] at hnone
      exact absurd hnone (List.cons_ne_nil _ _)
    exact List.foldl_rel (h.withSchedule hquiet) fun n _ _ _ hw ↦ hw.step n

theorem yield_of_quiet (h : w.schedule = []) : w.yield = w := by
  rw [Shared.yield, h]

/-! ### The host's thread -/

theorem pushLog (h : Alike k b w w') (line : String) :
    Alike k b (w.pushLog line) (w'.pushLog line) :=
  h.yield.notify _

/-- Where the two need not agree on the lines, no one is let in by one. -/
theorem pushLog_left (h : Alike k b w w') (hb : ¬b) (line : String) :
    Alike k b (w.pushLog line) w' := by
  rw [Shared.pushLog, yield_of_quiet (h.quiet.resolve_left hb)]
  exact h.notify_log_left line

theorem pushLog_right (h : Alike k b w w') (hb : ¬b) (line : String) :
    Alike k b w (w'.pushLog line) := by
  rw [Shared.pushLog, yield_of_quiet (h.schedule.trans (h.quiet.resolve_left hb))]
  exact h.notify_log_right line

theorem monotonicSeconds (h : Alike k b w w') :
    Replies (Alike k b) w.monotonicSeconds w'.monotonicSeconds :=
  ⟨h.yield.clock, h.yield⟩

theorem running_yield (hrunning : w.transport.running = true) :
    w.yield.transport.running = true :=
  Shared.Stable.stable_running.yield hrunning

theorem running_of_usable (husable : w.yield.transport.usable = true) :
    w.yield.yield.transport.running = true := by
  refine running_yield ?_
  rw [ZmqTransport.usable, Bool.and_eq_true] at husable
  exact husable.2

theorem tryEnqueueControl (h : Alike k b w w') (message : ControlMessage) :
    Replies (Alike k b) (w.tryEnqueueControl message) (w'.tryEnqueueControl message) := by
  rw [Shared.tryEnqueueControl, Shared.tryEnqueueControl]
  dsimp only
  rw [h.yield.transport.usable]
  by_cases husable : w.yield.transport.usable = true
  · have hlocked := h.yield.yield
    obtain ⟨ok, t, t', heq, heq', ht⟩ := (hlocked.transport.pushControl (running_of_usable husable)
      message w.yield.yield.clock).exists_eq
    rw [← hlocked.clock] at heq'
    rw [heq, heq', husable]
    exact Replies.mk (hlocked.withTransport ht)
  · rw [if_pos (by simpa using husable), if_pos (by simpa using husable)]
    exact Replies.mk h.yield

theorem setLatestTransform (h : Alike k b w w') (payload : Bytes) :
    Alike k b (w.setLatestTransform payload) (w'.setLatestTransform payload) := by
  rw [Shared.setLatestTransform, Shared.setLatestTransform]
  dsimp only
  rw [h.yield.transport.usable]
  split
  · exact h.yield
  · next husable =>
    have hlocked := h.yield.yield
    refine hlocked.withTransport ?_
    rw [hlocked.clock]
    have hrunning := running_of_usable (by simpa using husable)
    exact hlocked.transport.setLatestTransform hrunning payload _

theorem setLatestObjectTransform (h : Alike k b w w') (objectId : UInt32) (payload : Bytes) :
    Alike k b (w.setLatestObjectTransform objectId payload)
      (w'.setLatestObjectTransform objectId payload) := by
  rw [Shared.setLatestObjectTransform, Shared.setLatestObjectTransform]
  dsimp only
  rw [h.yield.transport.usable]
  split
  · exact h
  · split
    · exact h.yield
    · next husable =>
      have hlocked := h.yield.yield
      refine hlocked.withTransport ?_
      rw [hlocked.clock]
      exact hlocked.transport.setLatestObjectTransform (running_of_usable (by simpa using husable))
        objectId payload _

theorem isConnected (h : Alike k b w w') :
    Replies (Alike k b) w.isConnected w'.isConnected := by
  rw [Shared.isConnected, Shared.isConnected]
  dsimp only
  rw [h.yield.transport.running]
  by_cases hrunning : w.yield.transport.running = true
  · have hlocked := h.yield.yield
    rw [hrunning]
    exact ⟨congrArg not (hlocked.transport.flags (running_yield hrunning)).2, hlocked⟩
  · rw [if_pos (by simpa using hrunning), if_pos (by simpa using hrunning)]
    exact Replies.mk h.yield

/-- With a context the transport is started. -/
theorem startTransport_available (herror : w.yield.contextError = none) (roomId : Bytes) :
    w.startTransport roomId =
      ((w.yield.transport.start true roomId).1,
        { w.yield with transport := (w.yield.transport.start true roomId).2 }) := by
  rw [Shared.startTransport]
  dsimp only
  rw [herror]

/-- Without one this is reported, unless the transport runs. -/
theorem startTransport_unavailable {reason : String} (herror : w.yield.contextError = some reason)
    (roomId : Bytes) :
    w.startTransport roomId =
      (false,
        let started := { w.yield with transport := (w.yield.transport.start false roomId).2 }
        if w.yield.transport.running then started
        else started.notify (.error ("failed to create ZeroMQ context: " ++ reason))) := by
  rw [Shared.startTransport]
  dsimp only
  rw [herror]

theorem startTransport (h : Alike k b w w') (roomId : Bytes) :
    Replies (Alike k b) (w.startTransport roomId) (w'.startTransport roomId) := by
  have hyield := h.yield
  rcases herror : w.yield.contextError with - | reason
  · have hstart := hyield.transport.start true roomId
    rw [startTransport_available herror,
      startTransport_available (hyield.contextError.trans herror)]
    exact ⟨hstart.1, hyield.withTransport hstart.2⟩
  · rw [startTransport_unavailable herror,
      startTransport_unavailable (hyield.contextError.trans herror)]
    have hstarted := hyield.withTransport (hyield.transport.start false roomId).2
    refine Replies.mk ?_
    dsimp only
    rw [hyield.transport.running]
    split
    · exact hstarted
    · exact hstarted.notify _

theorem stopTransport (h : Alike k b w w') : Alike k b w.stopTransport w'.stopTransport :=
  h.yield.withTransport h.yield.transport.stop

omit [Double D] in
theorem startDiscovery (h : Alike k b w w') :
    Replies (Alike k b) w.startDiscovery w'.startDiscovery := by
  rw [Shared.startDiscovery, Shared.startDiscovery, h.discovering]
  split
  · exact Replies.mk h
  · exact Replies.mk { h with discovering := rfl }

theorem stopDiscovery (h : Alike k b w w') : Alike k b w.stopDiscovery w'.stopDiscovery :=
  { h.yield with discovering := rfl }

theorem clearInbox (h : Alike k b w w') : Alike k b w.clearInbox w'.clearInbox :=
  { h.yield with control := rfl, roomPose := rfl, roomObjects := rfl, notifications := rfl }

/-- The lists that are taken agree in all that matters. -/
theorem takeNotifications (h : Alike k b w w') :
    w'.takeNotifications.1.filter Notification.matters =
        w.takeNotifications.1.filter Notification.matters ∧
      Alike k b w.takeNotifications.2 w'.takeNotifications.2 :=
  ⟨h.yield.notifications, { h.yield with notifications := rfl }⟩

theorem takeMail (h : Alike k b w w') : Replies (Alike k b) w.takeMail w'.takeMail := by
  have hyield := h.yield
  refine ⟨?_, { h.yield with control := rfl, roomPose := rfl, roomObjects := rfl }⟩
  rw [Shared.takeMail, Shared.takeMail]
  dsimp only
  rw [hyield.control, hyield.roomPose, hyield.roomObjects]

end Alike

end Shared

end StylyNetSync
