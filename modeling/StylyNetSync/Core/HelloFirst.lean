import StylyNetSync.Core.SessionRule
import StylyNetSync.Foundation.Run

/-!
# Hello first

The server binds the control identity of a connection from the hello, so nothing may be queued ahead
of it. The outbox opens when the transport is started, and the hello follows with a later poll; what
the host calls in between is up to the host.

* A remote procedure call waits: it is queued until the client has a number, and so does clearing.
* An ownership message is queued at once. A variable that passes its checks is queued at once, or
  kept and queued by whichever poll finds the transport open, which need not be the one that says
  hello.

So the hello is first if, until something is accepted, the host makes no call of the second kind and
no device id mapping arrives, which would give the client a number before it said hello.
-/

namespace StylyNetSync

variable {D : Type}

/-! ### The condition -/

namespace NetworkVariableManager

/-- A write of a global variable that the manager's checks turn down. -/
def refusesGlobal (m : NetworkVariableManager D) (name value : Bytes) : Bool :=
  !validateName name || !validateValue value ||
    (decide (m.globals.size ≥ kMaxGlobalVars) && !m.globals.contains name)

/-- A write of a client variable that the manager's checks turn down. -/
def refusesClient (m : NetworkVariableManager D) (target : ℤ) (name value : Bytes) : Bool :=
  !validateName name || !validateValue value ||
    (decide ((m.allClientVariables target).size ≥ kMaxClientVars) &&
      !(m.allClientVariables target).contains name)

variable [Double D] {ω : Type}

theorem setGlobal_of_refuses {m : NetworkVariableManager D} {name value : Bytes}
    (h : m.refusesGlobal name value = true) (callbacks : Callbacks ω) (now : D) (w : ω) :
    ∃ line, m.setGlobal callbacks now name value w = (false, m, callbacks.log line w) := by
  rw [setGlobal]
  split
  · exact ⟨_, rfl⟩
  · next hname =>
    split
    · exact ⟨_, rfl⟩
    · next hvalue =>
      rw [Bool.not_eq_true] at hname hvalue
      rw [refusesGlobal, hname, hvalue, Bool.false_or, Bool.false_or] at h
      rw [if_pos h]
      exact ⟨_, rfl⟩

theorem setClient_of_refuses {m : NetworkVariableManager D} {target : ℤ} {name value : Bytes}
    (h : m.refusesClient target name value = true) (callbacks : Callbacks ω) (now : D) (w : ω) :
    ∃ m' line, (m' = m ∨ m' = m.touchClient target) ∧
      m.setClient callbacks now target name value w = (false, m', callbacks.log line w) := by
  rw [setClient]
  split
  · exact ⟨m, _, Or.inl rfl, rfl⟩
  · next hname =>
    split
    · exact ⟨m, _, Or.inl rfl, rfl⟩
    · next hvalue =>
      rw [Bool.not_eq_true] at hname hvalue
      rw [refusesClient, hname, hvalue, Bool.false_or, Bool.false_or] at h
      dsimp only
      rw [if_pos h]
      exact ⟨m.touchClient target, _, Or.inr rfl, rfl⟩

end NetworkVariableManager

namespace Session

/-- Until something is accepted, the host makes no call that would queue or keep a message other
than the hello. -/
def KeepsSilent [Double D] (s : Session D) : SessionStep D → Prop
  | .network _ => True
  | .call call schedule =>
    s.shared.nothingAccepted = true →
      match call with
      | .setGlobalVariable name value =>
        s.client.networkVariables.refusesGlobal name value = true
      | .setClientVariable name value =>
        s.client.networkVariables.refusesClient s.client.mapping.localClientNo name value = true
      | .setClientVariableFor target name value =>
        s.client.networkVariables.refusesClient target name value = true
      | .requestObjectOwnership objectId | .releaseObjectOwnership objectId =>
        objectId = 0 ∨
          ({ s.shared with schedule := schedule } : Shared D).yield.transport.usable = false
      | _ => True

end Session

/-! ### The shared state before and after the hello -/

namespace Shared

/-- Nothing was accepted and no device id mapping waits in the inbox, unless one came early. -/
def Silent (w : Shared D) : Prop :=
  w.mappedEarly = true ∨
    w.transport.ledger.entries = [] ∧
      ∀ payload ∈ w.inbox.control, peekMessageType payload ≠ MessageType.deviceIdMapping.code

/-- The first accepted message is the hello, unless a device id mapping came early. -/
def Begun (hello : ControlMessage) (w : Shared D) : Prop :=
  w.mappedEarly = true ∨
    ∃ packet, w.transport.ledger.entries.head? = some packet ∧ packet.payload = hello

variable [Double D]

theorem mappedEarly_step {w : Shared D} (h : w.mappedEarly = true) (n : NetworkStep D) :
    (w.step n).mappedEarly = true := by
  cases n with
  | payload lane data =>
    show (w.mappedEarly || _) = true
    rw [h, Bool.true_or]
  | drainStep result reason =>
    rcases hstep : w.transport.drainStep result with ⟨outcome, t⟩
    rw [step, hstep]
    cases outcome <;> exact h
  | _ => exact h

/-- What a step of another thread leaves in the control inbox: what was there, or what arrived. -/
theorem mem_control_step {w : Shared D} {n : NetworkStep D} {payload : Bytes}
    (h : payload ∈ (w.step n).inbox.control) :
    payload ∈ w.inbox.control ∨ n = .payload .control payload := by
  cases n with
  | payload lane data =>
    cases lane with
    | control =>
      change payload ∈ (w.inbox.receive .control data).control at h
      rw [Inbox.receive] at h
      split at h
      all_goals
        rcases List.mem_append.mp h with hold | hnew
      · exact Or.inl (List.mem_of_mem_tail hold)
      · exact Or.inr (by rw [List.mem_singleton.mp hnew])
      · exact Or.inl hold
      · exact Or.inr (by rw [List.mem_singleton.mp hnew])
    | roomPose => exact Or.inl h
    | roomObjects => exact Or.inl h
  | drainStep result reason =>
    rcases hstep : w.transport.drainStep result with ⟨outcome, t⟩
    rw [step, hstep] at h
    cases outcome <;> exact Or.inl h
  | _ => exact Or.inl h

theorem silent_step {w : Shared D} (h : w.Silent) (n : NetworkStep D) : (w.step n).Silent := by
  rcases h with hearly | ⟨hentries, hinbox⟩
  · exact Or.inl (mappedEarly_step hearly n)
  -- either this step delivers a mapping, and then it is early, or the inbox stays free of them
  by_cases hmapping :
      ∃ payload, n = .payload .control payload ∧
        peekMessageType payload = MessageType.deviceIdMapping.code
  · obtain ⟨payload, rfl, htype⟩ := hmapping
    refine Or.inl ?_
    show (w.mappedEarly || _) = true
    simp [htype, nothingAccepted, hentries]
  · refine Or.inr ⟨(step_keeps w n).1.trans hentries, fun payload hmem htype ↦ ?_⟩
    rcases mem_control_step hmem with hold | hnew
    · exact hinbox payload hold htype
    · exact hmapping ⟨payload, hnew, htype⟩

theorem stable_silent : Stable (D := D) Session.noMessage Silent where
  step n h := silent_step h n
  schedule _ h := h
  discovering _ h := h
  inbox _ hsub h := h.imp id fun ⟨hentries, hinbox⟩ ↦
    ⟨hentries, fun payload hmem ↦ hinbox payload (hsub payload hmem)⟩
  transport _ ht h := h.imp id fun ⟨hentries, hinbox⟩ ↦
    ⟨(congrArg Ledger.entries ht.ledger).trans hentries, hinbox⟩
  accept _ _ hmessage := hmessage.elim

theorem stable_begun (hello : ControlMessage) :
    Stable (D := D) (fun _ ↦ True) (Begun hello) where
  step n h := by
    refine h.imp (fun hearly ↦ mappedEarly_step hearly n) ?_
    rw [(step_keeps _ n).1]
    exact id
  schedule _ h := h
  discovering _ h := h
  inbox _ _ h := h
  transport t ht h := by
    refine h.imp id ?_
    show _ → ∃ packet, t.ledger.entries.head? = some packet ∧ packet.payload = hello
    rw [ht.ledger]
    exact id
  accept message t _ _ hpush h := by
    refine h.imp id fun ⟨packet, hhead, hpacket⟩ ↦ ⟨packet, ?_, hpacket⟩
    rw [ZmqTransport.pushControl_accepted hpush]
    show (_ ++ [_]).head? = some packet
    rw [List.head?_append, hhead, Option.some_or]

/-- The first message to be accepted begins the session. -/
theorem begun_of_silent {w w' : Shared D} {message : ControlMessage} (h : w.Silent)
    (hsend : w.tryEnqueueControl message = (true, w')) : w'.Begun message := by
  obtain ⟨-, t, hpush, rfl⟩ := tryEnqueueControl_accepted hsend
  have hlocked : w.yield.yield.Silent := stable_silent.yield (stable_silent.yield h)
  refine hlocked.imp id fun ⟨hentries, _⟩ ↦ ⟨⟨message, w.yield.yield.clock⟩, ?_, rfl⟩
  rw [ZmqTransport.pushControl_accepted hpush]
  show (w.yield.yield.transport.ledger.entries ++ [_]).head? = _
  rw [hentries]
  rfl

end Shared

/-! ### Pending values -/

/-- A flush without pending values does nothing. -/
theorem SendSide.flush_of_pending_eq_none {K ω : Type} [Ord K] [Std.TransOrd K] [Double D]
    {emit : K → Bytes → ω → Bool × ω} {side : SendSide K D}
    (h : ∀ key : K, side.pending[key]? = none) (now : D) (w : ω) :
    side.flush emit now w = (true, side, w) := by
  have hnone : side.toFlush now = [] := by
    rw [toFlush, List.filterMap_eq_nil_iff]
    intro entry _
    rw [h entry.1, Option.map_none, ite_self]
  rw [flush, hnone]
  rfl

namespace NetworkVariableManager

/-- The manager has nothing to say: it has no number and keeps no value. -/
structure Idle (m : NetworkVariableManager D) : Prop where
  number : m.localClientNo = 0
  globals : ∀ name : Bytes, m.globalSide.pending[name]? = none
  clients : ∀ key : ClientKey, m.clientSide.pending[key]? = none

theorem idle_handleGlobalSync {m : NetworkVariableManager D} (h : m.Idle)
    (message : GlobalVarSyncMessage) : (m.handleGlobalSync message).1.Idle := by
  refine List.foldlRecOn
    (motive := fun acc : NetworkVariableManager D × List VariableChange ↦ acc.1.Idle)
    message.vars handleGlobalEntry ⟨h.number, h.globals, h.clients⟩ ?_
  rintro ⟨m, changes⟩ hm entry -
  have hdrop (sent : Bytes) (name : Bytes) :
      (m.globalSide.dropRedundant entry.name sent).pending[name]? = none := by
    rw [SendSide.dropRedundant, hm.globals entry.name, if_neg (by simp)]
    exact hm.globals name
  have hside (name : Bytes) :
      (m.globalSide.reconcileGlobal entry.name entry.value).pending[name]? = none := by
    rw [SendSide.reconcileGlobal]
    split
    · exact hm.globals name
    · split
      · rw [SendSide.pending_forget]
        exact hdrop _ name
      · exact hdrop _ name
  rw [handleGlobalEntry]
  split
  · exact hm
  · dsimp only
    split <;> exact ⟨hm.number, hside, hm.clients⟩

theorem idle_handleClientSync {m : NetworkVariableManager D} (h : m.Idle)
    (message : ClientVarSyncMessage) : (m.handleClientSync message).1.Idle := by
  refine handleClientSync_induct (P := Idle) ?_ ⟨h.number, h.globals, h.clients⟩
  intro m changes block _ hm
  refine ⟨hm.number, hm.globals, fun key ↦ ?_⟩
  rw [Option.eq_none_iff_forall_not_mem]
  intro value hvalue
  have hpending := pending_of_handleClientBlock m changes block hvalue
  rw [hm.clients key] at hpending
  simp at hpending

end NetworkVariableManager

/-! ### A session that has not said hello -/

namespace Session

/-- The client has no number, keeps no variable, and nothing was accepted. -/
structure Quiet (hello : ControlMessage) (s : Session D) : Prop where
  hello : s.client.helloMessage = hello
  number : s.client.mapping.localClientNo = 0
  idle : s.client.networkVariables.Idle
  shared : s.shared.Silent

variable {hello : ControlMessage} {s s' : Session D}

theorem Quiet.hasHandshake (h : Quiet hello s) : s.client.hasHandshake = false := by
  rw [NetSyncClient.hasHandshake, h.number]
  rfl

section Double

variable [Double D]

theorem Quiet.moves (h : Quiet hello s) (hmoves : Moves noMessage s s') : Quiet hello s' where
  hello := hmoves.hello.trans h.hello
  number := hmoves.localClientNo.trans h.number
  idle := hmoves.networkVariables ▸ h.idle
  shared := hmoves.shared Shared.stable_silent.steady h.shared

theorem Quiet.shifts (h : Quiet hello s) {w : Shared D} (hshifts : s.shared.Shifts w) :
    Quiet hello { s with shared := w } :=
  { h with shared := hshifts Shared.stable_silent h.shared }

theorem Quiet.enqueueHello (h : Quiet hello s) :
    s.enqueueHello.shared.Begun hello ∨ Quiet hello s.enqueueHello := by
  rcases hsend : s.shared.tryEnqueueControl s.client.helloMessage with ⟨ok, w⟩
  rw [Session.enqueueHello, hsend]
  cases ok with
  | true =>
    have hbegun := Shared.begun_of_silent h.shared hsend
    rw [h.hello] at hbegun
    exact Or.inl hbegun
  | false =>
    refine Or.inr (h.moves (Moves.of_shared fun hP hw ↦ ?_))
    exact hP.tryEnqueueControl hsend (by simp) hw

theorem Quiet.greet (h : Quiet hello s) (now : D) :
    (s.greet now).shared.Begun hello ∨ Quiet hello (s.greet now) := by
  rw [Session.greet]
  split
  · have hready : Quiet hello { s with client := { s.client with
        networkVariables := s.client.networkVariables.onConnectionEstablished now } } :=
      ⟨h.hello, h.number, ⟨h.idle.number, h.idle.globals, h.idle.clients⟩, h.shared⟩
    have henqueued := hready.enqueueHello
    dsimp only
    split
    · refine henqueued.imp (fun hbegun ↦ ?_) fun hquiet ↦
        hquiet.moves (moves_setState .synchronizing _)
      exact (moves_setState .synchronizing _).shared (Shared.stable_begun hello).steady hbegun
    · exact henqueued
  · exact Or.inr h

/-- Whatever arrives before the hello, a device id mapping apart. -/
theorem Quiet.processControlPayload (h : Quiet hello s) (decode : Bytes → Option (List Bytes))
    {payload : Bytes} (htype : peekMessageType payload ≠ MessageType.deviceIdMapping.code) :
    Quiet hello (s.processControlPayload decode payload) := by
  have hlog (text : String) : Quiet hello (s.pushLog text) := h.moves (moves_pushLog text s)
  rw [Session.processControlPayload, if_neg htype]
  split
  · split
    · exact hlog _
    · exact h.moves (moves_processRpc decode _ s)
  split
  · split
    · exact hlog _
    · next message _ =>
      exact ⟨h.hello, h.number, NetworkVariableManager.idle_handleGlobalSync h.idle message,
        h.shared⟩
  split
  · split
    · exact hlog _
    · next message _ =>
      exact ⟨h.hello, h.number, NetworkVariableManager.idle_handleClientSync h.idle message,
        h.shared⟩
  split
  · split
    · exact hlog _
    · exact h.moves (moves_processOwnershipChanged _ s)
  split
  · split
    · exact hlog _
    · exact h.moves (moves_emit _ s)
  · exact h

theorem Quiet.tickVariables (h : Quiet hello s) (now : D) : Quiet hello (s.tickVariables now) := by
  rcases htick : s.client.networkVariables.tick Shared.callbacks now s.shared with ⟨ok, m, w⟩
  obtain ⟨_, _, g, c, w₁, hglobal, hclient, rfl⟩ := NetworkVariableManager.tick_cases htick
  rw [SendSide.flush_of_pending_eq_none h.idle.globals] at hglobal
  obtain ⟨-, rfl, rfl⟩ := hglobal
  rw [SendSide.flush_of_pending_eq_none h.idle.clients] at hclient
  obtain ⟨-, rfl, rfl⟩ := hclient
  rw [Session.tickVariables, htick]
  exact h

theorem Quiet.checkInitialSyncTimeout (h : Quiet hello s) (now : D) :
    Quiet hello (s.checkInitialSyncTimeout now) := by
  rcases hcheck : s.client.networkVariables.checkInitialSyncTimeout Shared.callbacks now s.shared
    with ⟨ok, m, w⟩
  rw [Session.checkInitialSyncTimeout, hcheck]
  rw [NetworkVariableManager.checkInitialSyncTimeout] at hcheck
  split at hcheck
  · obtain ⟨-, rfl, rfl⟩ := hcheck
    exact h
  · split at hcheck
    · obtain ⟨-, rfl, rfl⟩ := hcheck
      exact h
    · obtain ⟨-, rfl, rfl⟩ := hcheck
      exact ⟨h.hello, h.number, ⟨h.idle.number, h.idle.globals, h.idle.clients⟩,
        Shared.stable_silent.steady.pushLog _ h.shared⟩

end Double

section Steps

variable [DoubleTrig D]

theorem Quiet.processMail (h : Quiet hello s) (decode : Bytes → Option (List Bytes))
    {mail : Shared.Mail}
    (hmail : ∀ payload ∈ mail.control,
      peekMessageType payload ≠ MessageType.deviceIdMapping.code) :
    Quiet hello (s.processMail decode mail) := by
  have hcontrol {s : Session D} (h : Quiet hello s) :
      Quiet hello (mail.control.foldl (Session.processControlPayload decode) s) :=
    List.foldlRecOn (motive := Quiet hello) mail.control (Session.processControlPayload decode) h
      fun _ hacc payload hmem ↦ hacc.processControlPayload decode (hmail payload hmem)
  rw [Session.processMail]
  rcases mail.roomPose with - | pose
  · split
    · exact hcontrol h
    · exact (hcontrol h).moves (moves_processRoomObjects _ _)
  · have hpose := h.moves (moves_processRoomPose pose s)
    split
    · exact hcontrol hpose
    · exact (hcontrol hpose).moves (moves_processRoomObjects _ _)

/-- What a poll finds in the inbox before the hello is free of mappings, or one came early. -/
theorem Quiet.drainInbox (h : Quiet hello s) (decode : Bytes → Option (List Bytes)) :
    (s.drainInbox decode).shared.Begun hello ∨ Quiet hello (s.drainInbox decode) := by
  have htake : Quiet hello { s with shared := s.shared.takeMail.2 } :=
    h.shifts s.shared.shifts_takeMail
  rcases Shared.stable_silent.yield h.shared with hearly | ⟨-, hinbox⟩
  · have hrule : Rule fun s : Session D ↦ s.shared.Begun hello :=
      rule_of_stable (Shared.stable_begun hello)
    exact Or.inl (hrule.walk.processMail decode _ (Or.inl hearly))
  · exact Or.inr (htake.processMail decode hinbox)

theorem Quiet.setGlobalVariable (h : Quiet hello s) {name value : Bytes}
    (hrefuses : s.client.networkVariables.refusesGlobal name value = true) :
    Quiet hello (s.setGlobalVariable name value).2 := by
  obtain ⟨line, hset⟩ := NetworkVariableManager.setGlobal_of_refuses hrefuses Shared.callbacks
    s.shared.monotonicSeconds.1 s.shared.monotonicSeconds.2
  have hclock := h.moves (moves_monotonicSeconds s)
  rw [Session.setGlobalVariable]
  dsimp only
  rw [hset]
  exact hclock.moves (moves_pushLog line _)

theorem Quiet.setClientVariableFor (h : Quiet hello s) {target : ℤ} {name value : Bytes}
    (hrefuses : s.client.networkVariables.refusesClient target name value = true) :
    Quiet hello (s.setClientVariableFor target name value).2 := by
  obtain ⟨m, line, hm, hset⟩ :=
    NetworkVariableManager.setClient_of_refuses hrefuses Shared.callbacks
      s.shared.monotonicSeconds.1 s.shared.monotonicSeconds.2
  have hclock := h.moves (moves_monotonicSeconds s)
  have hidle : m.Idle := by
    rcases hm with rfl | rfl
    · exact h.idle
    · exact ⟨h.idle.number, h.idle.globals, h.idle.clients⟩
  rw [Session.setClientVariableFor]
  dsimp only
  rw [hset]
  exact ⟨h.hello, h.number, hidle, Shared.stable_silent.steady.pushLog line hclock.shared⟩

theorem Quiet.clearMyClientVariables (h : Quiet hello s) :
    Quiet hello s.clearMyClientVariables.2 := by
  rw [Session.clearMyClientVariables, NetworkVariableManager.clearMyClientVariables,
    if_pos h.idle.number.le]
  exact h

theorem Quiet.sendOwnershipRequest (h : Quiet hello s) {objectId : UInt32}
    (operation : OwnershipOperation)
    (hidle : objectId = 0 ∨ s.shared.yield.transport.usable = false) :
    Quiet hello { s with
      shared := (s.client.objects.sendOwnershipRequest Shared.callbacks objectId operation
        s.shared).2 } := by
  refine h.moves (moves_sendOwnershipRequest rfl fun hid husable ↦ ?_)
  rcases hidle with hzero | hunusable
  · exact (hid hzero).elim
  · rw [hunusable] at husable
    simp at husable

variable [DoubleText D]

theorem Quiet.flush (h : Quiet hello s) (now : D) : Quiet hello (s.flush now) := by
  -- nothing is pending and there is no handshake, so no message leaves
  have hvariables := h.tickVariables now
  have hcalls := hvariables.moves (moves_flushRpc now (by simp [hvariables.hasHandshake]))
  have hpose := hcalls.moves (moves_sendLocalPoseIfDue now _)
  have hobjects := hpose.moves (moves_tickObjects now _)
  exact hobjects.checkInitialSyncTimeout now

/-- A poll says hello first or stays quiet. -/
theorem Quiet.poll (h : Quiet hello s) (decode : Bytes → Option (List Bytes)) (now : D) :
    (s.poll decode now).2.shared.Begun hello ∨ Quiet hello (s.poll decode now).2 := by
  have hrule : Rule fun s : Session D ↦ s.shared.Begun hello :=
    rule_of_stable (Shared.stable_begun hello)
  rw [Session.poll]
  split
  · exact Or.inr h
  · have hbegin : Quiet hello { s with events := [] } := h.moves (Moves.of_client rfl rfl rfl id)
    have hevents := hbegin.moves (moves_drainInternalEvents _)
    -- after the hello only the rest of the poll is left; before it the inbox decides
    have hinbox := (hevents.greet now).elim
      (fun hbegun ↦ Or.inl (hrule.walk.drainInbox decode
        (fun {s} hs ↦ hrule.shifts s.shared.shifts_takeMail hs) hbegun))
      fun hquiet ↦ hquiet.drainInbox decode
    dsimp only
    rcases hinbox with hbegun | hquiet
    · exact Or.inl (hrule.moves (moves_updateReady _) (hrule.walk.flush now hbegun))
    · exact Or.inr ((hquiet.flush now).moves (moves_updateReady _))

/-- **Whatever the host calls**, as long as it keeps silent. -/
theorem Quiet.step (h : Quiet hello s) (decode : Bytes → Option (List Bytes)) {e : SessionStep D}
    (hsilent : KeepsSilent s e) :
    (s.step decode e).shared.Begun hello ∨ Quiet hello (s.step decode e) := by
  have hrule : Rule fun s : Session D ↦ s.shared.Begun hello :=
    rule_of_stable (Shared.stable_begun hello)
  rcases h.shared with hearly | ⟨hentries, -⟩
  · exact Or.inl (hrule.step decode e (Or.inl hearly))
  cases e with
  | network n => exact Or.inr (h.shifts (s.shared.shifts_step n))
  | call call schedule =>
    have hnothing : s.shared.nothingAccepted = true := by
      rw [Shared.nothingAccepted, hentries]
      rfl
    have hstart : Quiet hello { s with shared := { s.shared with schedule := schedule } } :=
      h.shifts (s.shared.shifts_schedule schedule)
    have hcond := hsilent hnothing
    have hcall (targets : List ℤ) (functionName : Bytes) (args : List Bytes) :=
      hstart.moves (moves_rpcToMany targets functionName args (by simp [hstart.hasHandshake]))
    cases call with
    | poll now => exact hstart.poll decode now
    | setGlobalVariable name value =>
      exact Or.inr (hstart.setGlobalVariable hcond)
    | setClientVariable name value => exact Or.inr (hstart.setClientVariableFor hcond)
    | setClientVariableFor target name value => exact Or.inr (hstart.setClientVariableFor hcond)
    | clearMyClientVariables => exact Or.inr hstart.clearMyClientVariables
    | requestObjectOwnership objectId =>
      exact Or.inr (hstart.sendOwnershipRequest .request hcond)
    | releaseObjectOwnership objectId =>
      exact Or.inr (hstart.sendOwnershipRequest .release hcond)
    | rpc functionName args => exact Or.inr (hcall [] functionName args)
    | rpcTo target functionName args => exact Or.inr (hcall [target] functionName args)
    | rpcToMany targets functionName args => exact Or.inr (hcall targets functionName args)
    | registerObject objectId => exact Or.inr (hstart.moves (moves_registerObject objectId _))
    | configureRpcRateLimit rpcLimit windowSeconds warnCooldown =>
      exact Or.inr (hstart.moves (Moves.of_client rfl rfl rfl id))
    | setTransformSendRate rate => exact Or.inr (hstart.moves (Moves.of_client rfl rfl rfl id))
    | setLocalPose body => exact Or.inr (hstart.moves (Moves.of_client rfl rfl rfl id))
    | clearLocalPose => exact Or.inr (hstart.moves (Moves.of_client rfl rfl rfl id))
    | unregisterObject objectId => exact Or.inr (hstart.moves (Moves.of_client rfl rfl rfl id))
    | submitObjectPose objectId pose =>
      exact Or.inr (hstart.moves (Moves.of_client rfl rfl rfl id))

end Steps

/-! ### From `connect` on -/

theorem quiet_beginSession [Double D] (config : ClientConfig D) (s : Session D) :
    Quiet (.clientHello config.deviceId config.stealthMode) (s.beginSession config) := by
  -- the transport was stopped, and what the other threads do since then adds nothing
  have hempty : s.shared.stopDiscovery.stopTransport.yield.transport.ledger.entries = [] :=
    (Shared.Stable.stable_entries []).yield rfl
  refine ⟨rfl, rfl, ⟨rfl, fun name ↦ ?_, fun key ↦ ?_⟩, Or.inr ⟨hempty, ?_⟩⟩
  · show (∅ : OrderedMap Bytes Bytes)[name]? = none
    simp
  · show (∅ : OrderedMap ClientKey Bytes)[key]? = none
    simp
  · intro payload hmem
    simp [beginSession, resetSessionState, Shared.clearInbox] at hmem

/-- A session that `connect` started is quiet. -/
theorem quiet_connect [Double D] {config : ClientConfig D} {s₀ s : Session D}
    (h : s₀.connect config = (true, s)) :
    Quiet (.clientHello config.deviceId config.stealthMode) s := by
  rcases connect_cases h with ⟨hfalse, -⟩ | hmoves
  · simp at hfalse
  · exact (quiet_beginSession config s₀).moves hmoves

section Run

variable [DoubleTrig D] [DoubleText D]

/-- **Hello first.** In a session whose host keeps silent until something is accepted, and in which
no device id mapping came before that, the first message accepted is the hello. -/
theorem hello_first (decode : Bytes → Option (List Bytes)) {config : ClientConfig D}
    {s₀ s : Session D} (hconnect : s₀.connect config = (true, s)) {steps : List (SessionStep D)}
    (hsilent : Along (step decode) KeepsSilent s steps)
    (hmapped : (steps.foldl (step decode) s).shared.mappedEarly = false) :
    ∀ packet ∈ (steps.foldl (step decode) s).shared.transport.ledger.entries.head?,
      packet.payload = .clientHello config.deviceId config.stealthMode := by
  have hrule : Rule fun s : Session D ↦
      s.shared.Begun (.clientHello config.deviceId config.stealthMode) :=
    rule_of_stable (Shared.stable_begun _)
  -- once begun a session stays begun; until then it is quiet
  have hinv := Along.invariant
    (I := fun s ↦ s.shared.Begun (.clientHello config.deviceId config.stealthMode) ∨
      Quiet (.clientHello config.deviceId config.stealthMode) s)
    (fun s e hs he ↦ hs.elim (fun hbegun ↦ Or.inl (hrule.step decode e hbegun))
      fun hquiet ↦ hquiet.step decode he)
    hsilent (Or.inr (quiet_connect hconnect))
  intro packet hpacket
  rcases hinv with (hearly | ⟨first, hfirst, hhello⟩) | hquiet
  · rw [hmapped] at hearly
    simp at hearly
  · rw [hfirst] at hpacket
    obtain rfl := Option.some.inj hpacket
    exact hhello
  · rcases hquiet.shared with hearly | ⟨hentries, -⟩
    · rw [hmapped] at hearly
      simp at hearly
    · rw [hentries] at hpacket
      simp at hpacket

end Run

/-! ### Two sessions -/

/-- The configuration of a client that knows the address of its server. -/
def addressConfig : ClientConfig ℚ :=
  { serverAddress := [49], roomId := [114], deviceId := [100], transformSendRate := 10 }

/-- A client that was just connected. -/
def addressSession : Session ℚ := ((Session.new 0).connect addressConfig).2

/-- The host polls once the sockets are up. -/
def pollOnce : List (SessionStep ℚ) := [.network (.notify .connected), .call (.poll 0) []]

/-- Before the first poll the host makes a remote procedure call, which is kept back, and writes a
variable without a name, which is refused; after it, one with a name. -/
def writeAfterHello : List (SessionStep ℚ) :=
  .call (.rpc [102] []) [] :: .call (.setGlobalVariable [] [57]) [] :: pollOnce ++
    [.call (.setGlobalVariable [104] [57]) []]

theorem hello_first_writeAfterHello :
    let s := writeAfterHello.foldl (step fun _ ↦ none) addressSession
    s.client.rpcManager.pending.length = 1 ∧
      s.shared.transport.ledger.entries.map OutboundPacket.payload =
        [.clientHello [100] false, .globalVarSet
          { senderClientNo := 0, deviceId := [100], variableName := [104],
            variableValue := [57] }] ∧
      ∀ packet ∈ s.shared.transport.ledger.entries.head?,
        packet.payload = .clientHello [100] false := by
  refine ⟨by decide +kernel, by decide +kernel, ?_⟩
  refine hello_first (fun _ ↦ none)
    (rfl : (Session.new 0).connect addressConfig = (true, addressSession)) ?_ (by decide +kernel)
  refine ⟨fun _ ↦ trivial, fun _ ↦ ?_, trivial, fun _ ↦ trivial, fun hnothing ↦ ?_, trivial⟩
  · show NetworkVariableManager.refusesGlobal _ _ _ = true
    decide +kernel
  · exact absurd hnothing (by decide +kernel)

/-- A host that writes a global variable before its first poll: the variable is queued ahead of the
hello. -/
theorem variable_before_hello :
    ((Session.new (0 : ℚ)).connect addressConfig).1 = true ∧
      ((.call (.setGlobalVariable [104] [57]) [] :: pollOnce).foldl (step fun _ ↦ none)
          addressSession).shared.transport.ledger.entries.map OutboundPacket.payload =
        [.globalVarSet
          { senderClientNo := 0, deviceId := [100], variableName := [104], variableValue := [57] },
          .clientHello [100] false] := by
  decide +kernel

end Session

end StylyNetSync
