import StylyNetSync.Core.SessionMoves

/-!
# A rule for sessions

Four kinds of things happen to a session: it moves, without anything that concerns a variable or a
hello; its variable manager works; the hello is accepted; a client sync is handled. A statement that
survives each of them survives every step of a session, whatever the host calls and whatever the
other threads do meanwhile.
-/

namespace StylyNetSync

variable {D : Type}

namespace Session

/-- Messages that are the current word on nothing. -/
def unslotted (message : ControlMessage) : Prop := message.slot = none

/-- The second session is reached from the first by what the variable manager does with its send
sides. -/
structure Writes [Double D] (s s' : Session D) : Prop where
  hello : s'.client.helloMessage = s.client.helloMessage
  helloEnqueued : s'.client.helloEnqueued = s.client.helloEnqueued
  told : s'.told = s.told
  sides : ∀ {G}, VariableRule Shared.callbacks G →
    G s.client.networkVariables.globalSide s.client.networkVariables.clientSide s.shared →
      G s'.client.networkVariables.globalSide s'.client.networkVariables.clientSide s'.shared

/-- What a statement about a session has to survive to be true across every call, the taking of the
mail apart. -/
structure Follows [Double D] (I : Session D → Prop) : Prop where
  moves : ∀ {s s'}, Moves unslotted s s' → I s → I s'
  writes : ∀ {s s'}, Writes s s' → I s → I s'
  hello : ∀ {s w}, s.shared.tryEnqueueControl s.client.helloMessage = (true, w) → I s →
    I { s with shared := w, client := { s.client with helloEnqueued := true } }
  clientSync : ∀ {s} (message : ClientVarSyncMessage), I s → I (s.processClientVarSync message)

/-- What a statement about a session has to survive. -/
structure Rule [Double D] (I : Session D → Prop) : Prop extends Follows I where
  shifts : ∀ {s w}, s.shared.Shifts w → I s → I { s with shared := w }

/-! ### What the variable manager does -/

section Writes

variable [Double D]

/-- The send sides and the world stay, and nothing else matters. -/
theorem writes_of_sides {s : Session D} {c : NetSyncClient D} {events : List Event}
    (hello : c.helloMessage = s.client.helloMessage)
    (helloEnqueued : c.helloEnqueued = s.client.helloEnqueued)
    (globalSide : c.networkVariables.globalSide = s.client.networkVariables.globalSide)
    (clientSide : c.networkVariables.clientSide = s.client.networkVariables.clientSide) :
    Writes s { s with client := c, events := events } := by
  refine ⟨hello, helloEnqueued, rfl, fun {G} _ hG ↦ ?_⟩
  show G c.networkVariables.globalSide c.networkVariables.clientSide s.shared
  rw [globalSide, clientSide]
  exact hG

theorem writes_processGlobalVarSync (message : GlobalVarSyncMessage) (s : Session D) :
    Writes s (s.processGlobalVarSync message) := by
  obtain ⟨hforgets, hclient⟩ :=
    NetworkVariableManager.forgets_handleGlobalSync message s.client.networkVariables
  refine ⟨rfl, rfl, rfl, fun {G} hrule hG ↦ ?_⟩
  refine hrule.forget hforgets ?_ hG
  show Forgets _ (s.client.networkVariables.handleGlobalSync message).1.clientSide
  rw [hclient]
  exact Forgets.refl _

theorem writes_processDeviceIdMapping (message : DeviceIdMappingMessage) (s : Session D) :
    Writes s (s.processDeviceIdMapping message) := by
  rw [processDeviceIdMapping]
  dsimp only
  split <;> split <;> exact writes_of_sides rfl rfl rfl rfl

theorem writes_tickVariables (now : D) (s : Session D) : Writes s (s.tickVariables now) := by
  rcases htick : s.client.networkVariables.tick Shared.callbacks now s.shared with ⟨ok, m, w⟩
  rw [tickVariables, htick]
  exact ⟨rfl, rfl, rfl, fun hrule hG ↦ hrule.tick htick hG⟩

theorem writes_checkInitialSyncTimeout (now : D) (s : Session D) :
    Writes s (s.checkInitialSyncTimeout now) := by
  rcases hcheck : s.client.networkVariables.checkInitialSyncTimeout Shared.callbacks now s.shared
    with ⟨ok, m, w⟩
  rw [checkInitialSyncTimeout, hcheck]
  exact ⟨rfl, rfl, rfl, fun hrule hG ↦ hrule.checkInitialSyncTimeout hcheck hG⟩

end Writes

/-- A statement about the shared state alone. -/
theorem follows_of_steady [Double D] {P : Shared D → Prop} (h : Shared.Steady (fun _ ↦ True) P) :
    Follows fun s ↦ P s.shared where
  moves hmoves := (hmoves.mono fun _ _ ↦ trivial).shared h
  writes hwrites :=
    hwrites.sides (G := fun _ _ w ↦ P w)
      { forget := fun _ _ hw ↦ hw
        log := fun line hw ↦ h.pushLog line hw
        refused := fun _ hsend hw ↦ h.tryEnqueueControl hsend (by simp) hw
        global := fun _ hsend hw ↦ h.tryEnqueueControl hsend (by simp) hw
        client := fun _ _ hsend hw ↦ h.tryEnqueueControl hsend (by simp) hw
        clear := fun _ hsend hw ↦ h.tryEnqueueControl hsend (by simp) hw }
  hello hsend hw := h.tryEnqueueControl hsend (by simp) hw
  clientSync _ hw := hw

theorem rule_of_stable [Double D] {P : Shared D → Prop} (h : Shared.Stable (fun _ ↦ True) P) :
    Rule fun s ↦ P s.shared :=
  { follows_of_steady h.steady with shifts := fun hshifts ↦ hshifts h }

/-! ### Every step -/

/-- The parts a session is made of, the writing of a client variable apart: a statement that
survives each of them survives everything else that happens. -/
structure Walk [DoubleTrig D] (I : Session D → Prop) : Prop where
  moves : ∀ {s s'}, Moves unslotted s s' → I s → I s'
  hello : ∀ {s w}, s.shared.tryEnqueueControl s.client.helloMessage = (true, w) → I s →
    I { s with shared := w, client := { s.client with helloEnqueued := true } }
  established : ∀ {s} (now : D), I s →
    I { s with client := { s.client with
      networkVariables := s.client.networkVariables.onConnectionEstablished now } }
  deviceIdMapping : ∀ {s} (message : DeviceIdMappingMessage), I s →
    I (s.processDeviceIdMapping message)
  globalSync : ∀ {s} (message : GlobalVarSyncMessage), I s → I (s.processGlobalVarSync message)
  clientSync : ∀ {s} (message : ClientVarSyncMessage), I s → I (s.processClientVarSync message)
  tickVariables : ∀ {s} (now : D), I s → I (s.tickVariables now)
  syncTimeout : ∀ {s} (now : D), I s → I (s.checkInitialSyncTimeout now)
  setGlobal : ∀ {s} (name value : Bytes), I s → I (s.setGlobalVariable name value).2
  clear : ∀ {s}, I s → I s.clearMyClientVariables.2

namespace Walk

variable [DoubleTrig D] {I : Session D → Prop} {s : Session D}

theorem enqueueHello (hwalk : Walk I) (hs : I s) : I s.enqueueHello := by
  rcases hsend : s.shared.tryEnqueueControl s.client.helloMessage with ⟨ok, w⟩
  rw [Session.enqueueHello, hsend]
  cases ok with
  | true => exact hwalk.hello hsend hs
  | false =>
    refine hwalk.moves (Moves.of_shared fun hP hw ↦ ?_) hs
    exact hP.tryEnqueueControl hsend (by simp) hw

theorem greet (hwalk : Walk I) (now : D) (hs : I s) : I (s.greet now) := by
  rw [Session.greet]
  split
  · have henqueued := hwalk.enqueueHello (hwalk.established now hs)
    dsimp only
    split
    · exact hwalk.moves (moves_setState .synchronizing _) henqueued
    · exact henqueued
  · exact hs

theorem processControlPayload (hwalk : Walk I) (decode : Bytes → Option (List Bytes))
    (payload : Bytes) (hs : I s) : I (s.processControlPayload decode payload) := by
  have hlog (text : String) : I (s.pushLog text) := hwalk.moves (moves_pushLog text s) hs
  rw [Session.processControlPayload]
  split
  · split
    · exact hlog _
    · exact hwalk.deviceIdMapping _ hs
  split
  · split
    · exact hlog _
    · exact hwalk.moves (moves_processRpc decode _ s) hs
  split
  · split
    · exact hlog _
    · exact hwalk.globalSync _ hs
  split
  · split
    · exact hlog _
    · exact hwalk.clientSync _ hs
  split
  · split
    · exact hlog _
    · exact hwalk.moves (moves_processOwnershipChanged _ s) hs
  split
  · split
    · exact hlog _
    · exact hwalk.moves (moves_emit _ s) hs
  · exact hs

end Walk

/-- What the variable manager does is one thing to such a statement. -/
theorem Follows.walk [DoubleTrig D] {I : Session D → Prop} (hrule : Follows I) : Walk I where
  moves := hrule.moves
  hello := hrule.hello
  established _ := hrule.writes (writes_of_sides rfl rfl rfl rfl)
  deviceIdMapping message := hrule.writes (writes_processDeviceIdMapping message _)
  globalSync message := hrule.writes (writes_processGlobalVarSync message _)
  clientSync := hrule.clientSync
  tickVariables now := hrule.writes (writes_tickVariables now _)
  syncTimeout now := hrule.writes (writes_checkInitialSyncTimeout now _)
  setGlobal {s} name value hs := by
    have hclock := hrule.moves (moves_monotonicSeconds s) hs
    refine hrule.writes ?_ hclock
    rcases hset : s.client.networkVariables.setGlobal Shared.callbacks s.shared.monotonicSeconds.1
      name value s.shared.monotonicSeconds.2 with ⟨ok, m, w⟩
    rw [Session.setGlobalVariable]
    dsimp only
    rw [hset]
    exact ⟨rfl, rfl, rfl, fun hvar hG ↦ hvar.setGlobal hset hG⟩
  clear {s} hs := by
    refine hrule.writes ?_ hs
    rcases hclear : s.client.networkVariables.clearMyClientVariables Shared.callbacks s.shared with
      ⟨ok, changes, m, w⟩
    rw [Session.clearMyClientVariables, hclear]
    exact ⟨rfl, rfl, rfl, fun hvar hG ↦ hvar.clearMyClientVariables hclear hG⟩

section Poll

variable [DoubleTrig D] {I : Session D → Prop} {s : Session D}

theorem Walk.processMail (hwalk : Walk I) (decode : Bytes → Option (List Bytes))
    (mail : Shared.Mail) (hs : I s) : I (s.processMail decode mail) := by
  have hcontrol {s : Session D} (hs : I s) :
      I (mail.control.foldl (Session.processControlPayload decode) s) :=
    List.foldlRecOn (motive := I) mail.control (Session.processControlPayload decode) hs
      fun _ hacc payload _ ↦ hwalk.processControlPayload decode payload hacc
  rw [Session.processMail]
  rcases mail.roomPose with - | pose
  · split
    · exact hcontrol hs
    · exact hwalk.moves (moves_processRoomObjects _ _) (hcontrol hs)
  · have hpose := hwalk.moves (moves_processRoomPose pose s) hs
    split
    · exact hcontrol hpose
    · exact hwalk.moves (moves_processRoomObjects _ _) (hcontrol hpose)

/-- Only the mail itself is taken in a way that a statement may not survive. -/
theorem Walk.drainInbox (hwalk : Walk I) (decode : Bytes → Option (List Bytes))
    (htake : ∀ {s}, I s → I { s with shared := s.shared.takeMail.2 }) (hs : I s) :
    I (s.drainInbox decode) :=
  hwalk.processMail decode _ (htake hs)

theorem Walk.sendOwnershipRequest (hwalk : Walk I) (objectId : UInt32)
    (operation : OwnershipOperation) (hs : I s) :
    I { s with
      shared := (s.client.objects.sendOwnershipRequest Shared.callbacks objectId operation
        s.shared).2 } := by
  refine hwalk.moves ?_ hs
  exact moves_sendOwnershipRequest rfl fun _ _ _ ↦ rfl

variable [DoubleText D]

theorem Walk.flush (hwalk : Walk I) (now : D) (hs : I s) : I (s.flush now) := by
  -- in the order of the source: variables, calls, the pose, objects, the timeout
  have hvariables := hwalk.tickVariables now hs
  have hcalls := hwalk.moves (moves_flushRpc now fun _ _ ↦ rfl) hvariables
  have hpose := hwalk.moves (moves_sendLocalPoseIfDue now _) hcalls
  have hobjects := hwalk.moves (moves_tickObjects now _) hpose
  exact hwalk.syncTimeout now hobjects

theorem Walk.poll (hwalk : Walk I) (decode : Bytes → Option (List Bytes)) (now : D)
    (htake : ∀ {s}, I s → I { s with shared := s.shared.takeMail.2 }) (hs : I s) :
    I (s.poll decode now).2 := by
  rw [Session.poll]
  split
  · exact hs
  · have hbegin : I { s with events := [] } := hwalk.moves (Moves.of_client rfl rfl rfl id) hs
    have hevents := hwalk.moves (moves_drainInternalEvents _) hbegin
    have hinbox := hwalk.drainInbox decode htake (hwalk.greet now hevents)
    have hflush := hwalk.flush now hinbox
    dsimp only
    exact hwalk.moves (moves_updateReady _) hflush

/-- The variable of a client that a call of the host writes, if it writes one. -/
def clientWrite (s : Session D) : HostCall D → Option (ClientKey × Bytes)
  | .setClientVariable name value => some (⟨s.client.mapping.localClientNo, name⟩, value)
  | .setClientVariableFor target name value => some (⟨target, name⟩, value)
  | _ => none

/-- **Whatever the host calls.** -/
theorem Walk.perform (hwalk : Walk I) (decode : Bytes → Option (List Bytes)) (call : HostCall D)
    (hpoll : ∀ now, call = .poll now → I (s.poll decode now).2)
    (hset : ∀ key value, s.clientWrite call = some (key, value) → I s →
      I (s.setClientVariableFor key.clientNo key.name value).2)
    (hs : I s) : I (s.perform decode call) := by
  cases call with
  | poll now => exact hpoll now rfl
  | setGlobalVariable name value => exact hwalk.setGlobal name value hs
  | setClientVariable name value => exact hset _ value rfl hs
  | setClientVariableFor target name value => exact hset ⟨target, name⟩ value rfl hs
  | clearMyClientVariables => exact hwalk.clear hs
  | requestObjectOwnership objectId => exact hwalk.sendOwnershipRequest objectId .request hs
  | releaseObjectOwnership objectId => exact hwalk.sendOwnershipRequest objectId .release hs
  | rpc functionName args =>
    exact hwalk.moves (moves_rpcToMany [] functionName args fun _ _ ↦ rfl) hs
  | rpcTo target functionName args =>
    exact hwalk.moves (moves_rpcToMany [target] functionName args fun _ _ ↦ rfl) hs
  | rpcToMany targets functionName args =>
    exact hwalk.moves (moves_rpcToMany targets functionName args fun _ _ ↦ rfl) hs
  | registerObject objectId => exact hwalk.moves (moves_registerObject objectId s) hs
  | configureRpcRateLimit rpcLimit windowSeconds warnCooldown =>
    exact hwalk.moves (Moves.of_client rfl rfl rfl id) hs
  | setTransformSendRate rate => exact hwalk.moves (Moves.of_client rfl rfl rfl id) hs
  | setLocalPose body => exact hwalk.moves (Moves.of_client rfl rfl rfl id) hs
  | clearLocalPose => exact hwalk.moves (Moves.of_client rfl rfl rfl id) hs
  | unregisterObject objectId => exact hwalk.moves (Moves.of_client rfl rfl rfl id) hs
  | submitObjectPose objectId pose => exact hwalk.moves (Moves.of_client rfl rfl rfl id) hs

omit [DoubleText D] in
theorem Follows.setClientVariableFor (hrule : Follows I) (target : ℤ) (name value : Bytes)
    (hs : I s) : I (s.setClientVariableFor target name value).2 := by
  have hclock := hrule.moves (moves_monotonicSeconds s) hs
  refine hrule.writes ?_ hclock
  rcases hset : s.client.networkVariables.setClient Shared.callbacks s.shared.monotonicSeconds.1
    target name value s.shared.monotonicSeconds.2 with ⟨ok, m, w⟩
  rw [Session.setClientVariableFor]
  dsimp only
  rw [hset]
  exact ⟨rfl, rfl, rfl, fun hvar hG ↦ hvar.setClient hset hG⟩

/-- **Whatever happens to a session.** -/
theorem Rule.step (hrule : Rule I) (decode : Bytes → Option (List Bytes)) (e : SessionStep D)
    (hs : I s) : I (s.step decode e) := by
  cases e with
  | network n => exact hrule.shifts (s.shared.shifts_step n) hs
  | call call schedule =>
    have hbegin := hrule.shifts (s.shared.shifts_schedule schedule) hs
    exact hrule.walk.perform decode call
      (fun now _ ↦ hrule.walk.poll decode now
        (fun {s} hs ↦ hrule.shifts s.shared.shifts_takeMail hs) hbegin)
      (fun key value _ hs ↦ hrule.setClientVariableFor key.clientNo key.name value hs) hbegin

end Poll

end Session

end StylyNetSync
