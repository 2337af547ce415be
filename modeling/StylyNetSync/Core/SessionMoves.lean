import StylyNetSync.Core.NetSyncClient
import StylyNetSync.Core.VariableRule

/-!
# What a call can do to a session

Most of what a client does leaves its variables, its number and its hello alone and puts nothing, or
only messages of one kind, into the control outbox. `Moves Q` says this of two sessions, one reached
from the other: the parts that matter are the same, and every statement about the shared state that
is steady, as the other threads take their turns and messages of kind `Q` are accepted, survives.

A statement is `Stable` if it looks at nothing but the ledger of the outbox, at what is queued in
it, at the control inbox and at the two observations, and survives what can happen to these. A
stable statement is steady; it survives a new schedule and the taking of the mail as well, which no
move contains.
-/

namespace StylyNetSync

variable {D : Type}

/-! ### Statements about the shared state -/

/-- The transports differ at most in their flags, slots and counters, and the network thread does
not stop. -/
structure ZmqTransport.SameQueue (t t' : ZmqTransport ControlMessage D) : Prop where
  running : t.running = true → t'.running = true
  ledger : t'.ledger = t.ledger
  pendingControl : t'.pendingControl = t.pendingControl
  controlOutbox : t'.controlOutbox = t.controlOutbox

/-- Only the host's thread adds to the ledger, and it alone starts and stops the network thread. -/
theorem Shared.step_keeps [Double D] (w : Shared D) (n : NetworkStep D) :
    (w.step n).transport.ledger.entries = w.transport.ledger.entries ∧
      (w.step n).transport.running = w.transport.running := by
  cases n with
  | drainBegin =>
    rw [Shared.step, ZmqTransport.drainBegin]
    split <;> exact ⟨rfl, rfl⟩
  | drainStep result reason =>
    rcases hstep : w.transport.drainStep result with ⟨outcome, t⟩
    have hrunning := ZmqTransport.running_drainStep w.transport result
    rw [hstep] at hrunning
    -- an iteration settles entries, at most
    have hentries : t.ledger.entries = w.transport.ledger.entries := by
      rcases ZmqTransport.drainStep_cases hstep with
        ⟨-, -, hledger, -⟩ | ⟨fate, packet, -, hledger, -⟩
      · rw [hledger]
      · rw [hledger]
        rfl
    rw [Shared.step, hstep]
    cases outcome <;> exact ⟨hentries, hrunning⟩
  | clearSentTransform payload =>
    rw [Shared.step, ZmqTransport.clearSentTransform]
    split <;> exact ⟨rfl, rfl⟩
  | clearSentObjectTransform objectId payload =>
    rw [Shared.step, ZmqTransport.clearSentObjectTransform]
    split <;> exact ⟨rfl, rfl⟩
  | _ => exact ⟨rfl, rfl⟩

/-- What a statement about the shared state has to survive to be true across every call: the steps
of the other threads, a new schedule, an inbox with less in it, changes of the transport that leave
its queue alone, and accepting a message of the kind. -/
structure Shared.Stable [Double D] (Q : ControlMessage → Prop) (P : Shared D → Prop) : Prop where
  step : ∀ {w} (n : NetworkStep D), P w → P (w.step n)
  schedule : ∀ {w} (schedule : List (List (NetworkStep D))), P w →
    P { w with schedule := schedule }
  discovering : ∀ {w} (discovering : Bool), P w → P { w with discovering := discovering }
  inbox : ∀ {w} (inbox : Inbox), (∀ payload ∈ inbox.control, payload ∈ w.inbox.control) → P w →
    P { w with inbox := inbox }
  transport : ∀ {w} (t : ZmqTransport ControlMessage D), w.transport.SameQueue t → P w →
    P { w with transport := t }
  accept : ∀ {w} (message : ControlMessage) (t : ZmqTransport ControlMessage D), Q message →
    w.transport.running = true → w.transport.pushControl message w.clock = (true, t) → P w →
      P { w with transport := t }

/-- What a statement has to survive at least: that the other threads take their turn, that something
is reported or the reports are taken, changes of the transport that leave its queue alone, and
accepting a message of the kind. Nothing here touches the payloads that wait in the inbox. -/
structure Shared.Steady [Double D] (Q : ControlMessage → Prop) (P : Shared D → Prop) : Prop where
  yield : ∀ {w}, P w → P w.yield
  notify : ∀ {w} (notification : Notification), P w → P (w.notify notification)
  notified : ∀ {w}, P w → P { w with inbox := { w.inbox with notifications := [] } }
  discovering : ∀ {w} (discovering : Bool), P w → P { w with discovering := discovering }
  transport : ∀ {w} (t : ZmqTransport ControlMessage D), w.transport.SameQueue t → P w →
    P { w with transport := t }
  accept : ∀ {w} (message : ControlMessage) (t : ZmqTransport ControlMessage D), Q message →
    w.transport.running = true → w.transport.pushControl message w.clock = (true, t) → P w →
      P { w with transport := t }

/-- The shared state changes in a way that every stable statement survives. -/
def Shared.Shifts [Double D] (w w' : Shared D) : Prop :=
  ∀ {Q : ControlMessage → Prop} {P : Shared D → Prop}, Shared.Stable Q P → P w → P w'

namespace Shared.Stable

variable [Double D] {Q : ControlMessage → Prop} {P : Shared D → Prop} {w w' : Shared D}

theorem yield (h : Stable Q P) (hw : P w) : P w.yield := by
  rw [Shared.yield]
  split
  · exact hw
  · next steps rest _ =>
    refine List.foldlRecOn (motive := P) steps Shared.step (h.schedule rest hw) ?_
    exact fun _ hw n _ ↦ h.step n hw

/-- A stable statement survives more than it has to. -/
theorem steady (h : Stable Q P) : Steady Q P where
  yield := h.yield
  notify notification := h.step (.notify notification)
  notified := h.inbox _ fun _ hmem ↦ hmem
  discovering := h.discovering
  transport := h.transport
  accept := h.accept

theorem stable_running :
    Stable (D := D) (fun _ ↦ True) fun w ↦ w.transport.running = true where
  step n h := (Shared.step_keeps _ n).2.trans h
  schedule _ h := h
  discovering _ h := h
  inbox _ _ h := h
  transport _ ht h := ht.running h
  accept _ _ _ _ hpush h := by rw [ZmqTransport.pushControl_accepted hpush]; exact h

theorem stable_entries (entries : List (OutboundPacket ControlMessage D)) :
    Stable (D := D) (fun _ ↦ False) fun w ↦ w.transport.ledger.entries = entries where
  step n h := (Shared.step_keeps _ n).1.trans h
  schedule _ h := h
  discovering _ h := h
  inbox _ _ h := h
  transport _ ht h := (congrArg Ledger.entries ht.ledger).trans h
  accept _ _ hmessage := hmessage.elim

end Shared.Stable

section Shifts

variable [Double D]

theorem Shared.shifts_step (w : Shared D) (n : NetworkStep D) : w.Shifts (w.step n) :=
  fun h ↦ h.step n

theorem Shared.shifts_schedule (w : Shared D) (schedule : List (List (NetworkStep D))) :
    w.Shifts { w with schedule := schedule } :=
  fun h ↦ h.schedule schedule

theorem Shared.shifts_takeMail (w : Shared D) : w.Shifts w.takeMail.2 :=
  fun h hw ↦ h.inbox _ (fun _ hmem ↦ by simp at hmem) (h.yield hw)

end Shifts

namespace Shared.Steady

variable [Double D] {Q : ControlMessage → Prop} {P : Shared D → Prop} {w w' : Shared D}

theorem pushLog (h : Steady Q P) (text : String) (hw : P w) : P (w.pushLog text) :=
  h.notify _ (h.yield hw)

theorem monotonicSeconds (h : Steady Q P) (hw : P w) : P w.monotonicSeconds.2 := h.yield hw

/-- A refused message is no matter which; an accepted one is of the kind. -/
theorem tryEnqueueControl (h : Steady Q P) {message : ControlMessage} {ok : Bool}
    (hcall : w.tryEnqueueControl message = (ok, w')) (hQ : ok = true → Q message) (hw : P w) :
    P w' := by
  rw [Shared.tryEnqueueControl] at hcall
  dsimp only at hcall
  split at hcall
  · obtain ⟨-, rfl⟩ := Prod.mk.inj hcall
    exact h.yield hw
  · next husable =>
    have hlocked := h.yield (h.yield hw)
    have hrunning : w.yield.yield.transport.running = true := by
      refine Stable.stable_running.yield ?_
      simp only [Bool.not_eq_true', Bool.not_eq_false, ZmqTransport.usable,
        Bool.and_eq_true] at husable
      exact husable.2
    rcases hpush : w.yield.yield.transport.pushControl message w.yield.yield.clock with ⟨ok', t⟩
    rw [hpush] at hcall
    obtain ⟨rfl, rfl⟩ := Prod.mk.inj hcall
    cases ok' with
    | true => exact h.accept message t (hQ rfl) hrunning hpush hlocked
    | false =>
      -- the outbox was full: only a counter changes
      rw [ZmqTransport.pushControl] at hpush
      split at hpush
      · obtain ⟨-, rfl⟩ := Prod.mk.inj hpush
        exact h.transport _ ⟨id, rfl, rfl, rfl⟩ hlocked
      · simp at hpush

theorem isConnected (h : Steady Q P) (hw : P w) : P w.isConnected.2 := by
  rw [Shared.isConnected]
  dsimp only
  split
  · exact h.yield hw
  · exact h.yield (h.yield hw)

theorem setLatestTransform (h : Steady Q P) (payload : Bytes) (hw : P w) :
    P (w.setLatestTransform payload) := by
  rw [Shared.setLatestTransform]
  dsimp only
  split
  · exact h.yield hw
  · exact h.transport _ ⟨id, rfl, rfl, rfl⟩ (h.yield (h.yield hw))

theorem setLatestObjectTransform (h : Steady Q P) (objectId : UInt32) (payload : Bytes)
    (hw : P w) : P (w.setLatestObjectTransform objectId payload) := by
  rw [Shared.setLatestObjectTransform]
  dsimp only
  split
  · exact hw
  · split
    · exact h.yield hw
    · exact h.transport _ ⟨id, rfl, rfl, rfl⟩ (h.yield (h.yield hw))

omit [Double D] in
theorem sameQueue_start (t : ZmqTransport ControlMessage D) (available : Bool) (roomId : Bytes) :
    t.SameQueue (t.start available roomId).2 := by
  rw [ZmqTransport.start]
  split
  · exact ⟨id, rfl, rfl, rfl⟩
  · dsimp only
    split
    · exact ⟨fun _ ↦ rfl, rfl, rfl, rfl⟩
    · exact ⟨id, rfl, rfl, rfl⟩

theorem startTransport (h : Steady Q P) (roomId : Bytes) (hw : P w) :
    P (w.startTransport roomId).2 := by
  rw [Shared.startTransport]
  dsimp only
  split
  · exact h.transport _ (sameQueue_start _ _ _) (h.yield hw)
  · have hstarted := h.transport _ (sameQueue_start _ false roomId) (h.yield hw)
    dsimp only
    split
    · exact hstarted
    · exact h.notify _ hstarted

theorem startDiscovery (h : Steady Q P) (hw : P w) : P w.startDiscovery.2 := by
  rw [Shared.startDiscovery]
  split
  · exact hw
  · exact h.discovering true hw

theorem takeNotifications (h : Steady Q P) (hw : P w) : P w.takeNotifications.2 :=
  h.notified (h.yield hw)

end Shared.Steady

/-! ### The managers that send other things than variables -/

/-- The callbacks of a session. -/
theorem trySend_callbacks [Double D] (message : ControlMessage) (w : Shared D) :
    Shared.callbacks.trySend message w = w.tryEnqueueControl message := rfl

section Managers

variable [Double D] {Q : ControlMessage → Prop} {P : Shared D → Prop} {w w' : Shared D}

open Shared (callbacks)

/-- A remote procedure call leaves as a call, or not at all. -/
theorem steady_trySendNow [DoubleText D] (h : Shared.Steady Q P) (hQ : ∀ m, Q (.rpc m))
    {m m' : RpcManager D} {ok : Bool} {now : D} {localClientNo : ℤ} {deviceId : Bytes}
    {targets : List ℤ} {functionName : Bytes} {arguments : List Bytes}
    (hcall : m.trySendNow callbacks now localClientNo deviceId targets functionName arguments w =
      (ok, m', w')) (hw : P w) : P w' := by
  obtain ⟨-, ⟨-, rfl | ⟨line, rfl⟩⟩ | ⟨-, -, -, hsend⟩⟩ := RpcManager.trySendNow_cases hcall
  · exact hw
  · exact h.pushLog line hw
  · exact h.tryEnqueueControl hsend (fun _ ↦ hQ _) hw

theorem steady_dropOverflow (h : Shared.Steady Q P) (pending : List (PendingRpc D)) (dropped : ℕ)
    (hw : P w) : P (RpcManager.dropOverflow callbacks pending dropped w).2.2 := by
  induction pending generalizing dropped w with
  | nil => exact hw
  | cons oldest rest ih =>
    rw [RpcManager.dropOverflow]
    split
    · exact ih _ (h.pushLog _ hw)
    · exact hw

theorem steady_flushLoop [DoubleText D] (h : Shared.Steady Q P) (hQ : ∀ m, Q (.rpc m)) (now : D)
    (localClientNo : ℤ) (deviceId : Bytes) (pending : List (PendingRpc D)) (sent : ℕ)
    (m : RpcManager D) (hw : P w) :
    P (RpcManager.flushLoop callbacks now localClientNo deviceId pending sent m w).2.2 := by
  induction pending generalizing sent m w with
  | nil => exact hw
  | cons head rest ih =>
    rw [RpcManager.flushLoop]
    split
    · exact hw
    · split
      · exact ih _ _ (h.pushLog _ hw)
      · split
        · next hsend => exact ih _ _ (steady_trySendNow h hQ hsend hw)
        · next hsend => exact steady_trySendNow h hQ hsend hw

theorem steady_tickObjects (h : Shared.Steady Q P) (m : ObjectSyncManager D) (now rate : D)
    (hw : P w) : P (m.tick (some Shared.setLatestObjectTransform) now rate w).2 := by
  rw [ObjectSyncManager.tick]
  split
  · exact hw
  · refine List.foldlRecOn
      (motive := fun acc : OrderedMap UInt32 (ObjectEntry D) × Shared D ↦ P acc.2)
      m.objects.toList _ hw ?_
    intro acc hacc pair _
    rw [ObjectSyncManager.tickEntry]
    split
    · exact hacc
    · exact h.setLatestObjectTransform _ _ hacc

end Managers

/-! ### Moves of a session -/

namespace Session

/-- The second session is reached from the first by other threads, by messages of kind `Q`, and by
changes to parts of the client that do not matter for the control lane. -/
structure Moves [Double D] (Q : ControlMessage → Prop) (s s' : Session D) : Prop where
  hello : s'.client.helloMessage = s.client.helloMessage
  localClientNo : s'.client.mapping.localClientNo = s.client.mapping.localClientNo
  networkVariables : s'.client.networkVariables = s.client.networkVariables
  helloEnqueued : s'.client.helloEnqueued = true → s.client.helloEnqueued = true
  told : s'.told = s.told
  shared : ∀ {P}, Shared.Steady Q P → P s.shared → P s'.shared

/-- No message at all. -/
def noMessage : ControlMessage → Prop := fun _ ↦ False

namespace Moves

variable [Double D] {Q : ControlMessage → Prop} {s s₁ s₂ : Session D}

theorem refl (s : Session D) : Moves Q s s := ⟨rfl, rfl, rfl, id, rfl, fun _ h ↦ h⟩

theorem trans (h₁ : Moves Q s s₁) (h₂ : Moves Q s₁ s₂) : Moves Q s s₂ where
  hello := h₂.hello.trans h₁.hello
  localClientNo := h₂.localClientNo.trans h₁.localClientNo
  networkVariables := h₂.networkVariables.trans h₁.networkVariables
  helloEnqueued h := h₁.helloEnqueued (h₂.helloEnqueued h)
  told := h₂.told.trans h₁.told
  shared hP h := h₂.shared hP (h₁.shared hP h)

theorem mono {Q' : ControlMessage → Prop} (h : Moves Q s s₁) (hQ : ∀ m, Q m → Q' m) :
    Moves Q' s s₁ :=
  { h with
    shared := fun hP ↦ h.shared
      { hP with accept := fun message t hmessage ↦ hP.accept message t (hQ message hmessage) } }

/-- A loop of moves. -/
theorem foldl {α : Type} {f : Session D → α → Session D} (hf : ∀ s a, Moves Q s (f s a))
    (items : List α) (s : Session D) : Moves Q s (items.foldl f s) :=
  List.foldlRecOn (motive := fun s' ↦ Moves Q s s') items f (refl s) fun s' hs a _ ↦
    hs.trans (hf s' a)

/-- The client changes only where it does not matter. -/
theorem of_client {c : NetSyncClient D} {events : List Event}
    (hello : c.helloMessage = s.client.helloMessage)
    (localClientNo : c.mapping.localClientNo = s.client.mapping.localClientNo)
    (networkVariables : c.networkVariables = s.client.networkVariables)
    (helloEnqueued : c.helloEnqueued = true → s.client.helloEnqueued = true) :
    Moves Q s { s with client := c, events := events } :=
  ⟨hello, localClientNo, networkVariables, helloEnqueued, rfl, fun _ h ↦ h⟩

/-- Only the shared state changes. -/
theorem of_shared {w : Shared D} (h : ∀ {P}, Shared.Steady Q P → P s.shared → P w) :
    Moves Q s { s with shared := w } :=
  ⟨rfl, rfl, rfl, id, rfl, h⟩

end Moves

variable [Double D] {Q : ControlMessage → Prop}

theorem moves_emit (event : Event) (s : Session D) : Moves Q s (s.emit event) :=
  Moves.of_client rfl rfl rfl id

theorem moves_setState (state : ConnectionState) (s : Session D) :
    Moves Q s (s.setState state) := by
  rw [setState]
  split
  · exact Moves.refl s
  · exact Moves.of_client rfl rfl rfl id

theorem moves_pushLog (text : String) (s : Session D) : Moves Q s (s.pushLog text) :=
  Moves.of_shared fun hP hs ↦ hP.pushLog text hs

/-- The clock is read. -/
theorem moves_monotonicSeconds (s : Session D) :
    Moves Q s { s with shared := s.shared.monotonicSeconds.2 } :=
  Moves.of_shared fun hP hs ↦ hP.monotonicSeconds hs

theorem moves_startTransport (s : Session D) : Moves Q s s.startTransport := by
  have hflag : Moves Q s { s with client := { s.client with helloEnqueued := false } } :=
    Moves.of_client rfl rfl rfl (by simp)
  rw [startTransport]
  refine hflag.trans ?_
  generalize { s with client := { s.client with helloEnqueued := false } } = s₀
  rcases hstart : s₀.shared.startTransport s₀.client.config.roomId with ⟨ok, w⟩
  have hshared : ∀ {P}, Shared.Steady Q P → P s₀.shared → P w := by
    intro P hP hs
    have := hP.startTransport s₀.client.config.roomId hs
    rwa [hstart] at this
  cases ok with
  | true => exact Moves.of_shared hshared
  | false => exact (Moves.of_shared hshared).trans (moves_pushLog _ _)

/-- Once a new session has begun, `connect` only looks for a server. -/
theorem moves_connect (config : ClientConfig D) {s : Session D}
    (hstate : s.client.state = .disconnected ∨ s.client.state = .error) :
    Moves Q (s.beginSession config) (s.connect config).2 := by
  have hfree : ¬(s.client.state ≠ .disconnected ∧ s.client.state ≠ .error) := by tauto
  rw [connect, if_neg hfree]
  generalize s.beginSession config = begun
  dsimp only
  split
  · -- an address is configured
    refine Moves.trans ?_ (moves_startTransport _)
    exact Moves.of_client rfl rfl rfl id
  · split
    · refine Moves.trans ?_ (moves_pushLog _ _)
      exact Moves.of_client rfl rfl rfl id
    · rcases hdiscovery : begun.shared.startDiscovery with ⟨found, w⟩
      have hshared : ∀ {P}, Shared.Steady Q P → P begun.shared → P w := by
        intro P hP hs
        have := hP.startDiscovery hs
        rwa [hdiscovery] at this
      cases found with
      | true => exact Moves.of_shared hshared
      | false =>
        refine Moves.trans ?_ (moves_pushLog _ _)
        exact ⟨rfl, rfl, rfl, id, rfl, hshared⟩

/-- A client that is in a session stays there; otherwise a new session begins. -/
theorem connect_cases {config : ClientConfig D} {ok : Bool} {s s' : Session D}
    (h : s.connect config = (ok, s')) :
    (ok = false ∧ s' = s) ∨ Moves Q (s.beginSession config) s' := by
  by_cases hstate : s.client.state = .disconnected ∨ s.client.state = .error
  · have hmoves := moves_connect (Q := Q) config hstate
    rw [h] at hmoves
    exact Or.inr hmoves
  · rw [connect, if_pos (not_or.mp hstate)] at h
    obtain ⟨rfl, rfl⟩ := Prod.mk.inj h
    exact Or.inl ⟨rfl, rfl⟩

theorem moves_isReady {s s₁ : Session D} {ready : Bool} (h : s.isReady = (ready, s₁)) :
    Moves Q s s₁ := by
  rw [isReady] at h
  obtain ⟨-, rfl⟩ := Prod.mk.inj h
  exact Moves.of_shared fun hP hs ↦ hP.isConnected hs

theorem moves_handleNotification (s : Session D) (notification : Notification) :
    Moves Q s (s.handleNotification notification) := by
  cases notification with
  | connected => exact moves_setState .connected s
  | error text => exact (moves_setState .error s).trans (moves_emit _ _)
  | log text => exact moves_emit _ s
  | discovered server =>
    refine Moves.trans ?_ (moves_startTransport _)
    exact Moves.of_client rfl rfl rfl id

theorem moves_drainInternalEvents (s : Session D) : Moves Q s s.drainInternalEvents := by
  rw [drainInternalEvents]
  have htake : Moves Q s { s with shared := s.shared.takeNotifications.2 } :=
    Moves.of_shared fun hP hs ↦ hP.takeNotifications hs
  exact htake.trans (Moves.foldl moves_handleNotification _ _)

theorem moves_updateReady (s : Session D) : Moves Q s s.updateReady := by
  rw [updateReady]
  split
  · exact Moves.refl s
  · rcases hready : s.isReady with ⟨ready, s₁⟩
    refine (moves_isReady hready).trans ?_
    cases ready with
    | true =>
      refine (moves_setState .ready s₁).trans ?_
      dsimp only
      split
      · exact Moves.refl _
      · exact Moves.of_client rfl rfl rfl id
    | false =>
      dsimp only
      split
      · exact (moves_setState .synchronizing s₁).trans (Moves.of_client rfl rfl rfl id)
      · exact Moves.refl s₁

theorem moves_processRpc (decode : Bytes → Option (List Bytes)) (message : RpcMessage)
    (s : Session D) : Moves Q s (s.processRpc decode message) := by
  rw [processRpc]
  split
  · exact moves_emit _ s
  · exact (moves_pushLog _ s).trans (moves_emit _ _)

theorem moves_processRoomObjects (payload : Bytes) (s : Session D) :
    Moves Q s (s.processRoomObjects payload) := by
  rw [processRoomObjects]
  split
  · exact moves_pushLog _ s
  · exact Moves.of_client rfl rfl rfl id

theorem moves_tickObjects (now : D) (s : Session D) : Moves Q s (s.tickObjects now) := by
  rw [tickObjects]
  exact ⟨rfl, rfl, rfl, id, rfl, fun hP hs ↦ steady_tickObjects hP _ _ _ hs⟩

theorem moves_applyRoomPose (message : RoomPoseMessage D) (s : Session D) :
    Moves Q s (s.applyRoomPose message) := by
  rw [applyRoomPose]
  exact Moves.of_client rfl (DeviceMapping.updatePresence_local _ _).2.1 rfl id

theorem moves_processOwnershipChanged (message : ObjectOwnershipChangedMessage) (s : Session D) :
    Moves Q s (s.processOwnershipChanged message) := by
  rw [processOwnershipChanged]
  exact Moves.of_client rfl rfl rfl id

/-- An ownership message leaves, unless the object has no id or the transport cannot be used. -/
theorem moves_sendOwnershipRequest {objectId : UInt32} {operation : OwnershipOperation} {ok : Bool}
    {s : Session D} {w : Shared D}
    (hcall : s.client.objects.sendOwnershipRequest Shared.callbacks objectId operation s.shared =
      (ok, w))
    (hQ : objectId ≠ 0 → s.shared.yield.transport.usable = true →
      ∀ m, Q (.objectOwnershipRequest m)) : Moves Q s { s with shared := w } := by
  refine Moves.of_shared fun hP hs ↦ ?_
  rw [ObjectSyncManager.sendOwnershipRequest] at hcall
  split at hcall
  · obtain ⟨-, rfl⟩ := Prod.mk.inj hcall
    exact hs
  · next hid =>
    rw [trySend_callbacks] at hcall
    refine hP.tryEnqueueControl hcall (fun hok ↦ hQ hid ?_ _) hs
    subst hok
    exact (Shared.tryEnqueueControl_accepted hcall).1

end Session

namespace Session

section Poses

variable [DoubleTrig D] {Q : ControlMessage → Prop}

theorem moves_processRoomPose (payload : Bytes) (s : Session D) :
    Moves Q s (s.processRoomPose payload) := by
  rw [processRoomPose]
  split
  · exact moves_pushLog _ s
  · split
    · exact Moves.refl s
    · exact moves_applyRoomPose _ s

theorem moves_sendLocalPoseIfDue (now : D) (s : Session D) :
    Moves Q s (s.sendLocalPoseIfDue now) := by
  rcases hconnected : s.shared.isConnected with ⟨connected, w⟩
  have hlook : Moves Q s { s with shared := w } := by
    refine Moves.of_shared fun hP hs ↦ ?_
    have := hP.isConnected hs
    rwa [hconnected] at this
  rw [sendLocalPoseIfDue, hconnected]
  cases connected with
  | false => exact hlook
  | true =>
    refine hlook.trans ?_
    dsimp only
    split
    · exact Moves.refl _
    · split
      · exact Moves.refl _
      · split
        · exact Moves.of_client rfl rfl rfl id
        · exact ⟨rfl, rfl, rfl, id, rfl, fun hP hs ↦ hP.setLatestTransform _ hs⟩

/-- A client that is ready has a number. -/
theorem hasHandshake_of_isReady {s s₁ : Session D} (h : s.isReady = (true, s₁)) :
    s.client.hasHandshake = true := by
  rw [isReady] at h
  have hready := (Prod.mk.inj h).1
  simp only [Bool.and_eq_true] at hready
  exact hready.1.2

theorem moves_registerObject (objectId : UInt32) (s : Session D) :
    Moves Q s (s.registerObject objectId).2 := by
  refine ⟨rfl, rfl, rfl, id, rfl, fun {P} hP hs ↦ ?_⟩
  show P (s.client.objects.registerObject Shared.callbacks objectId s.shared).2.2
  rw [ObjectSyncManager.registerObject]
  split
  · exact hP.pushLog _ hs
  · exact hs

variable [DoubleText D]

/-- Pending calls leave only after the handshake. -/
theorem moves_flushRpc (now : D) {s : Session D}
    (hQ : s.client.hasHandshake = true → ∀ m, Q (.rpc m)) : Moves Q s (s.flushRpc now) := by
  rcases hready : s.isReady with ⟨ready, s₁⟩
  rw [flushRpc, hready]
  refine (moves_isReady hready).trans ⟨rfl, rfl, rfl, id, rfl, fun hP hs ↦ ?_⟩
  dsimp only
  rw [RpcManager.flushPending]
  cases ready with
  | false => exact hs
  | true => exact steady_flushLoop hP (hQ (hasHandshake_of_isReady hready)) _ _ _ _ _ _ hs

/-- A call leaves only after the handshake; before, it is queued. -/
theorem moves_rpcToMany (targets : List ℤ) (functionName : Bytes) (args : List Bytes)
    {s : Session D} (hQ : s.client.hasHandshake = true → ∀ m, Q (.rpc m)) :
    Moves Q s (s.rpcToMany targets functionName args) := by
  have hclock := moves_monotonicSeconds (Q := Q) s
  rcases hready : ({ s with shared := s.shared.monotonicSeconds.2 } : Session D).isReady with
    ⟨ready, s₁⟩
  rw [rpcToMany]
  dsimp only
  rw [hready]
  refine (hclock.trans (moves_isReady hready)).trans ⟨rfl, rfl, rfl, id, rfl, fun hP hs ↦ ?_⟩
  dsimp only
  rw [RpcManager.send]
  cases ready with
  | false => exact steady_dropOverflow hP _ _ hs
  | true =>
    rcases hsend : s₁.client.rpcManager.trySendNow Shared.callbacks
      s.shared.monotonicSeconds.1 s₁.client.mapping.localClientNo s₁.client.config.deviceId targets
      functionName args s₁.shared with ⟨ok, rpcManager, w⟩
    have hnumber := hasHandshake_of_isReady hready
    exact steady_trySendNow hP (hQ hnumber) hsend hs

end Poses

end Session

end StylyNetSync
