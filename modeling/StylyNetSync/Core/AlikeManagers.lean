import StylyNetSync.Core.NetworkVariableManager
import StylyNetSync.Core.ObjectSyncManager
import StylyNetSync.Core.RpcManager
import StylyNetSync.Foundation.TwoRuns

/-!
# Two sessions side by side: the managers

A manager reaches the outside through its callbacks only. If these answer alike in related worlds,
so does every operation of a manager: the same answers, the same manager, and related worlds. The
relation is any; it is that of `AlikeShared` later on.

The manager of calls is the one that may differ, in when it last warned of the rate limit and in
what it counted. Whether a warning is written hangs on the first. So `b` says that the two agree on
it, and where they need not, a line that only one side writes must not matter.
-/

namespace StylyNetSync

variable {D ω : Type} {b : Prop} {R : ω → ω → Prop}

/-- The callbacks answer alike in related worlds. -/
structure Callbacks.Respect (b : Prop) (R : ω → ω → Prop) (callbacks : Callbacks ω) : Prop where
  trySend : ∀ {w w'} (message : ControlMessage), R w w' →
    Replies R (callbacks.trySend message w) (callbacks.trySend message w')
  log : ∀ {w w'} (line : String), R w w' → R (callbacks.log line w) (callbacks.log line w')
  logLeft : ∀ {w w'} (line : String), ¬b → R w w' → R (callbacks.log line w) w'
  logRight : ∀ {w w'} (line : String), ¬b → R w w' → R w (callbacks.log line w')

/-! ### Variables -/

namespace SendSide

variable {K : Type} [Ord K] [Std.TransOrd K] {emit : K → Bytes → ω → Bool × ω} {w w' : ω}

theorem trySendNow_alike
    (hemit : ∀ key value w w', R w w' → Replies R (emit key value w) (emit key value w'))
    (key : K) (value : Bytes) (s : SendSide K D) (hw : R w w') :
    Replies (Replies R) (s.trySendNow emit key value w) (s.trySendNow emit key value w') := by
  obtain ⟨ok, w₁, w₁', heq, heq', hw₁⟩ := (hemit key value w w' hw).exists_eq
  rw [trySendNow, trySendNow, heq, heq']
  cases ok with
  | false => exact Replies.mk (Replies.mk hw₁)
  | true => exact Replies.mk (Replies.mk hw₁)

variable [Double D]

theorem write_alike
    (hemit : ∀ key value w w', R w w' → Replies R (emit key value w) (emit key value w'))
    (now : D) (key : K) (value : Bytes) (s : SendSide K D) (hw : R w w') :
    Replies R (s.write emit now key value w) (s.write emit now key value w') := by
  have hnow : Replies R (s.writeNow emit now key value w) (s.writeNow emit now key value w') := by
    obtain ⟨ok, r, r', heq, heq', hr⟩ := (trySendNow_alike hemit key value s hw).exists_eq
    obtain ⟨s₁, w₁, w₁', rfl, rfl, hw₁⟩ := hr.exists_eq
    rw [writeNow, writeNow, heq, heq']
    exact Replies.mk hw₁
  rw [write, write]
  split
  · exact Replies.mk hw
  · split
    · exact hnow
    · split
      · exact hnow
      · exact Replies.mk hw

theorem flush_alike
    (hemit : ∀ key value w w', R w w' → Replies R (emit key value w) (emit key value w'))
    (now : D) (s : SendSide K D) (hw : R w w') :
    Replies (Replies R) (s.flush emit now w) (s.flush emit now w') := by
  rw [flush, flush]
  refine List.foldl_rel (Replies.mk (Replies.mk hw)) fun entry _ acc acc' hacc ↦ ?_
  obtain ⟨flushed, r, r', rfl, rfl, hr⟩ := hacc.exists_eq
  obtain ⟨s₁, w₁, w₁', rfl, rfl, hw₁⟩ := hr.exists_eq
  rw [flushItem, flushItem]
  split
  · exact Replies.mk (Replies.mk hw₁)
  · obtain ⟨ok, r, r', heq, heq', hr⟩ :=
      (trySendNow_alike hemit entry.1 entry.2 s₁ hw₁).exists_eq
    obtain ⟨s₂, w₂, w₂', rfl, rfl, hw₂⟩ := hr.exists_eq
    rw [heq, heq']
    cases ok with
    | true => exact Replies.mk (Replies.mk hw₂)
    | false => exact Replies.mk (Replies.mk hw₂)

end SendSide

namespace NetworkVariableManager

variable {callbacks : Callbacks ω} {w w' : ω}

theorem emitGlobal_alike (h : callbacks.Respect b R) (m : NetworkVariableManager D)
    (name value : Bytes) (w w' : ω) (hw : R w w') :
    Replies R (m.emitGlobal callbacks name value w) (m.emitGlobal callbacks name value w') :=
  h.trySend _ hw

theorem emitClient_alike (h : callbacks.Respect b R) (m : NetworkVariableManager D)
    (key : ClientKey) (value : Bytes) (w w' : ω) (hw : R w w') :
    Replies R (m.emitClient callbacks key value w) (m.emitClient callbacks key value w') :=
  h.trySend _ hw

theorem clearMyClientVariables_alike (h : callbacks.Respect b R) (m : NetworkVariableManager D)
    (hw : R w w') :
    Replies (Replies (Replies R)) (m.clearMyClientVariables callbacks w)
      (m.clearMyClientVariables callbacks w') := by
  rw [clearMyClientVariables, clearMyClientVariables]
  split
  · exact Replies.mk (Replies.mk (Replies.mk hw))
  · obtain ⟨ok, w₁, w₁', heq, heq', hw₁⟩ := (h.trySend (.clientVarClear
      { senderClientNo := clientNoOnWire m.localClientNo
        deviceId := m.localDeviceId }) hw).exists_eq
    dsimp only
    rw [heq, heq']
    cases ok with
    | false => exact Replies.mk (Replies.mk (Replies.mk hw₁))
    | true =>
      dsimp only
      split
      · exact Replies.mk (Replies.mk (Replies.mk hw₁))
      · exact Replies.mk (Replies.mk (Replies.mk hw₁))

variable [Double D]

theorem checkInitialSyncTimeout_alike (h : callbacks.Respect b R) (now : D)
    (m : NetworkVariableManager D) (hw : R w w') :
    Replies (Replies R) (m.checkInitialSyncTimeout callbacks now w)
      (m.checkInitialSyncTimeout callbacks now w') := by
  rw [checkInitialSyncTimeout, checkInitialSyncTimeout]
  split
  · exact Replies.mk (Replies.mk hw)
  · split
    · exact Replies.mk (Replies.mk hw)
    · exact Replies.mk (Replies.mk (h.log _ hw))

theorem setGlobal_alike (h : callbacks.Respect b R) (now : D) (name value : Bytes)
    (m : NetworkVariableManager D) (hw : R w w') :
    Replies (Replies R) (m.setGlobal callbacks now name value w)
      (m.setGlobal callbacks now name value w') := by
  rw [setGlobal, setGlobal]
  split
  · exact Replies.mk (Replies.mk (h.log _ hw))
  split
  · exact Replies.mk (Replies.mk (h.log _ hw))
  split
  · exact Replies.mk (Replies.mk (h.log _ hw))
  · obtain ⟨side, w₁, w₁', heq, heq', hw₁⟩ := (SendSide.write_alike (m.emitGlobal_alike h) now name
      value m.globalSide hw).exists_eq
    rw [heq, heq']
    exact Replies.mk (Replies.mk hw₁)

theorem setClient_alike (h : callbacks.Respect b R) (now : D) (target : ℤ) (name value : Bytes)
    (m : NetworkVariableManager D) (hw : R w w') :
    Replies (Replies R) (m.setClient callbacks now target name value w)
      (m.setClient callbacks now target name value w') := by
  rw [setClient, setClient]
  split
  · exact Replies.mk (Replies.mk (h.log _ hw))
  split
  · exact Replies.mk (Replies.mk (h.log _ hw))
  dsimp only
  split
  · exact Replies.mk (Replies.mk (h.log _ hw))
  · obtain ⟨side, w₁, w₁', heq, heq', hw₁⟩ := (SendSide.write_alike
      ((m.touchClient target).emitClient_alike h) now ⟨target, name⟩ value
      (m.touchClient target).clientSide hw).exists_eq
    rw [heq, heq']
    exact Replies.mk (Replies.mk hw₁)

theorem tick_alike (h : callbacks.Respect b R) (now : D) (m : NetworkVariableManager D)
    (hw : R w w') : Replies (Replies R) (m.tick callbacks now w) (m.tick callbacks now w') := by
  obtain ⟨ok, r, r', heq, heq', hr⟩ :=
    (SendSide.flush_alike (m.emitGlobal_alike h) now m.globalSide hw).exists_eq
  obtain ⟨side, w₁, w₁', rfl, rfl, hw₁⟩ := hr.exists_eq
  rw [tick, tick, flushPendingGlobal, flushPendingGlobal, heq, heq']
  let m₁ : NetworkVariableManager D := { m with globalSide := side }
  obtain ⟨ok', r, r', heq₁, heq₁', hr⟩ :=
    (SendSide.flush_alike (m₁.emitClient_alike h) now m₁.clientSide hw₁).exists_eq
  obtain ⟨side', w₂, w₂', rfl, rfl, hw₂⟩ := hr.exists_eq
  dsimp only
  rw [flushPendingClient, flushPendingClient, heq₁, heq₁']
  exact Replies.mk (Replies.mk hw₂)

end NetworkVariableManager

/-! ### Objects -/

namespace ObjectSyncManager

variable {callbacks : Callbacks ω} {w w' : ω}

theorem sendOwnershipRequest_alike (h : callbacks.Respect b R) (objectId : UInt32)
    (operation : OwnershipOperation) (m : ObjectSyncManager D) (hw : R w w') :
    Replies R (m.sendOwnershipRequest callbacks objectId operation w)
      (m.sendOwnershipRequest callbacks objectId operation w') := by
  rw [sendOwnershipRequest, sendOwnershipRequest]
  split
  · exact Replies.mk hw
  · exact h.trySend _ hw

variable [Double D]

theorem registerObject_alike (h : callbacks.Respect b R) (objectId : UInt32)
    (m : ObjectSyncManager D) (hw : R w w') :
    Replies (Replies R) (m.registerObject callbacks objectId w)
      (m.registerObject callbacks objectId w') := by
  rw [registerObject, registerObject]
  split
  · exact Replies.mk (Replies.mk (h.log _ hw))
  · exact Replies.mk (Replies.mk hw)

theorem tick_alike {send : UInt32 → Bytes → ω → ω}
    (hsend : ∀ objectId payload w w', R w w' →
      R (send objectId payload w) (send objectId payload w'))
    (now rate : D) (m : ObjectSyncManager D) (hw : R w w') :
    Replies R (m.tick (some send) now rate w) (m.tick (some send) now rate w') := by
  have hloop : Replies R
      (m.objects.toList.foldl (tickEntry send m now (sendIntervalOf rate)) (m.objects, w))
      (m.objects.toList.foldl (tickEntry send m now (sendIntervalOf rate)) (m.objects, w')) := by
    refine List.foldl_rel (Replies.mk hw) fun pair _ acc acc' hacc ↦ ?_
    obtain ⟨objects, w₁, w₁', rfl, rfl, hw₁⟩ := hacc.exists_eq
    rw [tickEntry, tickEntry]
    split
    · exact Replies.mk hw₁
    · exact Replies.mk (hsend _ _ _ _ hw₁)
  rw [tick, tick]
  split
  · exact Replies.mk hw
  · exact ⟨congrArg (fun objects ↦ { m with objects := objects }) hloop.1, hloop.2⟩

end ObjectSyncManager

/-! ### Calls -/

namespace RpcManager

/-- The managers agree in the limit, the window and the queue, and on `b` in the last warning. -/
structure Alike (b : Prop) (m m' : RpcManager D) : Prop where
  rateHits : m'.rateHits = m.rateHits
  rpcLimit : m'.rpcLimit = m.rpcLimit
  windowSeconds : m'.windowSeconds = m.windowSeconds
  warnCooldown : m'.warnCooldown = m.warnCooldown
  pending : m'.pending = m.pending
  lastWarnAt : b → m'.lastWarnAt = m.lastWarnAt

/-- Managers and worlds. -/
def AlikeIn (b : Prop) (R : ω → ω → Prop) (r r' : RpcManager D × ω) : Prop :=
  Alike b r.1 r'.1 ∧ R r.2 r'.2

variable [Double D] {m m' : RpcManager D} {callbacks : Callbacks ω} {w w' : ω}

theorem Alike.tryConsumeQuota (h : Alike b m m') (now : D) :
    Replies (Alike b) (m.tryConsumeQuota now) (m'.tryConsumeQuota now) := by
  rw [RpcManager.tryConsumeQuota, RpcManager.tryConsumeQuota, h.rpcLimit]
  split
  · exact Replies.mk h
  · rw [h.rateHits, h.windowSeconds]
    dsimp only
    split
    · exact Replies.mk ⟨rfl, rfl, rfl, h.warnCooldown, h.pending, h.lastWarnAt⟩
    · exact Replies.mk ⟨rfl, rfl, rfl, h.warnCooldown, h.pending, h.lastWarnAt⟩

variable [DoubleText D]

/-- **An attempt to send** comes to the same on both sides. Only the warning may be written on one
side alone. -/
theorem Alike.trySendNow (h : Alike b m m') (hcallbacks : callbacks.Respect b R) (hw : R w w')
    (now : D) (localClientNo : ℤ) (deviceId : Bytes) (targets : List ℤ) (functionName : Bytes)
    (arguments : List Bytes) :
    Replies (AlikeIn b R)
      (m.trySendNow callbacks now localClientNo deviceId targets functionName arguments w)
      (m'.trySendNow callbacks now localClientNo deviceId targets functionName arguments w') := by
  obtain ⟨quota, m₁, m₁', heq, heq', h₁⟩ := (h.tryConsumeQuota now).exists_eq
  rw [RpcManager.trySendNow, RpcManager.trySendNow, heq, heq']
  dsimp only
  split
  · rw [h₁.rpcLimit, h₁.windowSeconds, h₁.warnCooldown]
    by_cases hb : b
    · rw [h₁.lastWarnAt hb]
      split
      · exact Replies.mk
          ⟨⟨h₁.rateHits, rfl, rfl, rfl, h₁.pending, fun _ ↦ rfl⟩, hcallbacks.log _ hw⟩
      · exact Replies.mk ⟨⟨h₁.rateHits, rfl, rfl, rfl, h₁.pending, fun _ ↦ rfl⟩, hw⟩
    · -- four cases: each side warns or not
      split <;> split
      · exact Replies.mk
          ⟨⟨h₁.rateHits, rfl, rfl, rfl, h₁.pending, fun _ ↦ rfl⟩, hcallbacks.log _ hw⟩
      · exact Replies.mk ⟨⟨h₁.rateHits, rfl, rfl, rfl, h₁.pending, fun hb' ↦ absurd hb' hb⟩,
          hcallbacks.logLeft _ hb hw⟩
      · exact Replies.mk ⟨⟨h₁.rateHits, rfl, rfl, rfl, h₁.pending, fun hb' ↦ absurd hb' hb⟩,
          hcallbacks.logRight _ hb hw⟩
      · exact Replies.mk ⟨⟨h₁.rateHits, rfl, rfl, rfl, h₁.pending, fun hb' ↦ absurd hb' hb⟩, hw⟩
  split
  · exact Replies.mk ⟨h₁, hw⟩
  split
  · exact Replies.mk ⟨h₁, hcallbacks.log _ hw⟩
  · split
    · exact Replies.mk ⟨h₁, hcallbacks.log _ hw⟩
    · obtain ⟨ok, w₁, w₁', hsend, hsend', hw₁⟩ := (hcallbacks.trySend
        (.rpc (rpcMessage localClientNo deviceId targets functionName arguments)) hw).exists_eq
      rw [hsend, hsend']
      exact Replies.mk ⟨h₁, hw₁⟩

omit [Double D] [DoubleText D] in
theorem dropOverflow_alike (hcallbacks : callbacks.Respect b R) (pending : List (PendingRpc D))
    (dropped dropped' : ℕ) (hw : R w w') :
    (dropOverflow callbacks pending dropped' w').1 = (dropOverflow callbacks pending dropped w).1 ∧
      R (dropOverflow callbacks pending dropped w).2.2
        (dropOverflow callbacks pending dropped' w').2.2 := by
  induction pending generalizing dropped dropped' w w' with
  | nil => exact ⟨rfl, hw⟩
  | cons oldest rest ih =>
    rw [dropOverflow, dropOverflow]
    split
    · exact ih _ _ (hcallbacks.log _ hw)
    · exact ⟨rfl, hw⟩

theorem Alike.send (h : Alike b m m') (hcallbacks : callbacks.Respect b R) (hw : R w w') (now : D)
    (isReady : Bool) (localClientNo : ℤ) (deviceId : Bytes) (targets : List ℤ)
    (functionName : Bytes) (arguments : List Bytes) :
    AlikeIn b R
      (m.send callbacks now isReady localClientNo deviceId targets functionName arguments w)
      (m'.send callbacks now isReady localClientNo deviceId targets functionName arguments w') := by
  rw [RpcManager.send, RpcManager.send]
  split
  · rw [h.pending]
    obtain ⟨hpending, hw₁⟩ := dropOverflow_alike hcallbacks
      (m.pending ++ [⟨functionName, arguments, targets, now⟩]) m.droppedOverflow
      m'.droppedOverflow hw
    exact ⟨⟨h.rateHits, h.rpcLimit, h.windowSeconds, h.warnCooldown, hpending, h.lastWarnAt⟩, hw₁⟩
  · exact (h.trySendNow hcallbacks hw now localClientNo deviceId targets functionName arguments).2

theorem flushLoop_alike (hcallbacks : callbacks.Respect b R) (now : D) (localClientNo : ℤ)
    (deviceId : Bytes) (pending : List (PendingRpc D)) (sent : ℕ) (h : Alike b m m') (hw : R w w') :
    Replies (AlikeIn b R) (flushLoop callbacks now localClientNo deviceId pending sent m w)
      (flushLoop callbacks now localClientNo deviceId pending sent m' w') := by
  have hqueue {m m' : RpcManager D} (h : Alike b m m') (pending : List (PendingRpc D)) :
      Alike b { m with pending := pending } { m' with pending := pending } :=
    ⟨h.rateHits, h.rpcLimit, h.windowSeconds, h.warnCooldown, rfl, h.lastWarnAt⟩
  induction pending generalizing sent m m' w w' with
  | nil => exact Replies.mk ⟨hqueue h [], hw⟩
  | cons head rest ih =>
    rw [flushLoop, flushLoop]
    split
    · exact Replies.mk ⟨hqueue h _, hw⟩
    · split
      · refine ih _ ?_ (hcallbacks.log _ hw)
        exact ⟨h.rateHits, h.rpcLimit, h.windowSeconds, h.warnCooldown, h.pending, h.lastWarnAt⟩
      · obtain ⟨ok, r, r', heq, heq', hr⟩ := (h.trySendNow hcallbacks hw now localClientNo deviceId
          head.targetClientNos head.functionName head.arguments).exists_eq
        rw [heq, heq']
        cases ok with
        | true => exact ih _ hr.1 hr.2
        | false => exact Replies.mk ⟨hqueue hr.1 _, hr.2⟩

theorem Alike.flushPending (h : Alike b m m') (hcallbacks : callbacks.Respect b R) (hw : R w w')
    (now : D) (isReady : Bool) (localClientNo : ℤ) (deviceId : Bytes) :
    Replies (AlikeIn b R) (m.flushPending callbacks now isReady localClientNo deviceId w)
      (m'.flushPending callbacks now isReady localClientNo deviceId w') := by
  rw [RpcManager.flushPending, RpcManager.flushPending]
  split
  · exact Replies.mk ⟨h, hw⟩
  · rw [h.pending]
    exact flushLoop_alike hcallbacks now localClientNo deviceId m.pending 0 h hw

end RpcManager

end StylyNetSync
