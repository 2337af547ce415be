import StylyNetSync.Core.Callbacks
import StylyNetSync.Core.JsonUtil
import StylyNetSync.Foundation.DoubleArith

/-!
# Outgoing remote procedure calls

`RpcManager` of the source: a sliding-window rate limit, a bounded queue for calls made before the
client is ready, and a flush with a budget per tick. The text of a limit in a log line is the only
place where a `double` is printed; how is left to `DoubleText`.
-/

/-- How the source language prints a floating-point number. -/
class DoubleText (D : Type) where
  toText : D → String

/-- Six decimals, rounded to nearest. -/
instance : DoubleText ℚ where
  toText q :=
    let millionths := ⌊|q| * 1000000 + 1 / 2⌋.toNat
    let decimals := toString (millionths % 1000000)
    (if q < 0 then "-" else "") ++ toString (millionths / 1000000) ++ "." ++
      String.join (List.replicate (6 - decimals.length) "0") ++ decimals

namespace StylyNetSync

structure PendingRpc (D : Type) where
  functionName : Bytes
  arguments : List Bytes
  targetClientNos : List ℤ
  enqueuedAt : D

structure RpcManager (D : Type) where
  rateHits : List D := []
  rpcLimit : ℤ := 30
  windowSeconds : D
  warnCooldown : D
  lastWarnAt : D
  pending : List (PendingRpc D) := []
  droppedRateLimited : ℕ := 0
  droppedExpired : ℕ := 0
  droppedOverflow : ℕ := 0

def kMaxPendingRpc : ℕ := 100
def kMaxFlushPerTick : ℕ := 10
def kRpcTtlSeconds {D : Type} [Double D] : D := Double.lit 5

namespace RpcManager

variable {D ω : Type} [Double D]

def default : RpcManager D where
  windowSeconds := Double.lit 1
  warnCooldown := Double.lit (1 / 2)
  lastWarnAt := Double.lit (-1000000000)

/-- A limit of zero disables rate limiting. -/
def configureRateLimit (rpcLimit : ℤ) (windowSeconds warnCooldown : D) (m : RpcManager D) :
    RpcManager D :=
  { m with
    rpcLimit := max 0 rpcLimit
    windowSeconds := Double.max (Double.lit 0.01) windowSeconds
    warnCooldown := Double.max (Double.lit 0) warnCooldown }

/-! ### The rate limit -/

/-- The answer of `try_consume_quota` with its two output parameters. -/
structure Quota (D : Type) where
  granted : Bool
  retryAfter : D
  currentCount : ℤ

def tryConsumeQuota (now : D) (m : RpcManager D) : Quota D × RpcManager D :=
  if m.rpcLimit ≤ 0 then (⟨true, Double.lit 0, 0⟩, m)
  else
    -- hits that have left the window go first
    let hits := m.rateHits.dropWhile fun hit ↦ Double.lt m.windowSeconds (now - hit)
    if (hits.length : ℤ) ≥ m.rpcLimit then
      let oldest := hits.headD now
      (⟨false, Double.max (Double.lit 0) (m.windowSeconds - (now - oldest)), hits.length⟩,
        { m with rateHits := hits })
    else
      (⟨true, Double.lit 0, hits.length + 1⟩, { m with rateHits := hits ++ [now] })

/-! ### Sending -/

/-- The message of a call whose targets are all in range. -/
def rpcMessage (localClientNo : ℤ) (deviceId : Bytes) (targetClientNos : List ℤ)
    (functionName : Bytes) (arguments : List Bytes) : RpcMessage where
  senderClientNo := clientNoOnWire localClientNo
  deviceId := deviceId
  targetClientNos := targetClientNos.map clientNoOnWire
  functionName := functionName
  argumentsJson := encodeJsonStringArray arguments

variable [DoubleText D]

def trySendNow (callbacks : Callbacks ω) (now : D) (localClientNo : ℤ) (deviceId : Bytes)
    (targetClientNos : List ℤ) (functionName : Bytes) (arguments : List Bytes)
    (m : RpcManager D) (w : ω) : Bool × RpcManager D × ω :=
  match m.tryConsumeQuota now with
  | (quota, m) =>
    if !quota.granted then
      let m := { m with droppedRateLimited := m.droppedRateLimited + 1 }
      if Double.le m.warnCooldown (now - m.lastWarnAt) then
        (false, { m with lastWarnAt := now },
          callbacks.log ("RPC rate limited: dropped '" ++ logText functionName ++ "' (" ++
            toString quota.currentCount ++ "/" ++ toString m.rpcLimit ++ " per " ++
            DoubleText.toText m.windowSeconds ++ "s)") w)
      else (false, m, w)
    -- the quota is spent from here on, even if nothing is sent
    else if callbacks.send.isNone then (false, m, w)
    else
      match targetClientNos.find? fun target ↦ target < 0 || target > 0xFFFF with
      | some target =>
        (false, m, callbacks.log ("RPC target client number out of range: " ++ toString target) w)
      | none =>
        if targetClientNos.length > 255 then
          (false, m, callbacks.log ("RPC target list too long (" ++
            toString targetClientNos.length ++ "); maximum is 255") w)
        else
          match callbacks.trySend
            (.rpc (rpcMessage localClientNo deviceId targetClientNos functionName arguments)) w with
          | (ok, w) => (ok, m, w)

/-- An attempt that the rate limit refuses is counted, and may be logged. -/
theorem trySendNow_of_refused {now : D} {m : RpcManager D}
    (h : (m.tryConsumeQuota now).1.granted = false) (callbacks : Callbacks ω) (localClientNo : ℤ)
    (deviceId : Bytes) (targetClientNos : List ℤ) (functionName : Bytes) (arguments : List Bytes)
    (w : ω) :
    ∃ lastWarnAt w', (w' = w ∨ ∃ line, w' = callbacks.log line w) ∧
      m.trySendNow callbacks now localClientNo deviceId targetClientNos functionName arguments w =
        (false, { (m.tryConsumeQuota now).2 with
          droppedRateLimited := (m.tryConsumeQuota now).2.droppedRateLimited + 1
          lastWarnAt := lastWarnAt }, w') := by
  rw [trySendNow]
  simp only [h, Bool.not_false, if_true]
  split
  · exact ⟨_, _, .inr ⟨_, rfl⟩, rfl⟩
  · exact ⟨_, _, .inl rfl, rfl⟩

/-- The targets fit the message: there are at most 255 and each is a client number. -/
def TargetsFit (targetClientNos : List ℤ) : Prop :=
  (∀ target ∈ targetClientNos, 0 ≤ target ∧ target ≤ 65535) ∧ targetClientNos.length ≤ 255

instance : DecidablePred TargetsFit := fun _ ↦ instDecidableAnd

theorem targets_in_range_iff {targetClientNos : List ℤ} :
    (targetClientNos.find? fun target ↦ target < 0 || target > 0xFFFF) = none ↔
      ∀ target ∈ targetClientNos, 0 ≤ target ∧ target ≤ 65535 := by
  rw [List.find?_eq_none]
  refine forall₂_congr fun target _ ↦ ?_
  simp only [Bool.or_eq_true, decide_eq_true_eq, not_or, Int.not_lt]

/-- An attempt with quota ends with at most a log line, or the call is handed over. -/
theorem trySendNow_of_granted {now : D} {m : RpcManager D}
    (h : (m.tryConsumeQuota now).1.granted = true) (callbacks : Callbacks ω) (localClientNo : ℤ)
    (deviceId : Bytes) (targetClientNos : List ℤ) (functionName : Bytes) (arguments : List Bytes)
    (w : ω) :
    ∃ ok w', m.trySendNow callbacks now localClientNo deviceId targetClientNos functionName
        arguments w = (ok, (m.tryConsumeQuota now).2, w') ∧
      ((ok = false ∧ ¬(callbacks.send.isSome ∧ TargetsFit targetClientNos) ∧
          (w' = w ∨ ∃ line, w' = callbacks.log line w)) ∨
        (callbacks.send.isSome ∧ TargetsFit targetClientNos ∧
          callbacks.trySend (.rpc (rpcMessage localClientNo deviceId targetClientNos functionName
            arguments)) w = (ok, w'))) := by
  rw [trySendNow]
  simp only [h, Bool.not_true, Bool.false_eq_true, if_false]
  split
  · next hsender =>
    refine ⟨false, w, rfl, .inl ⟨rfl, fun hfit ↦ ?_, .inl rfl⟩⟩
    rw [Option.isNone_iff_eq_none.mp hsender] at hfit
    simp at hfit
  next hsender =>
  have hsome : callbacks.send.isSome := by simpa [Option.isSome_iff_ne_none] using hsender
  split
  · next target hfound =>
    refine ⟨false, _, rfl, .inl ⟨rfl, fun hfit ↦ ?_, .inr ⟨_, rfl⟩⟩⟩
    rw [targets_in_range_iff.mpr hfit.2.1] at hfound
    exact absurd hfound (Option.some_ne_none target).symm
  next hrange =>
  split
  · next hlength =>
    refine ⟨false, _, rfl, .inl ⟨rfl, fun hfit ↦ ?_, .inr ⟨_, rfl⟩⟩⟩
    have hle := hfit.2.2
    omega
  · next hlength =>
    exact ⟨_, _, rfl, .inr ⟨hsome, ⟨targets_in_range_iff.mp hrange, by omega⟩, rfl⟩⟩

section Frame

/-! The limiter changes nothing but its hits. -/

omit [DoubleText D]

variable (now : D) (m : RpcManager D)

theorem tryConsumeQuota_frame :
    ∃ rateHits, (m.tryConsumeQuota now).2 = { m with rateHits := rateHits } := by
  rw [tryConsumeQuota]
  dsimp only
  split_ifs
  · exact ⟨m.rateHits, rfl⟩
  · exact ⟨_, rfl⟩
  · exact ⟨_, rfl⟩

@[simp] theorem tryConsumeQuota_rpcLimit : (m.tryConsumeQuota now).2.rpcLimit = m.rpcLimit := by
  obtain ⟨rateHits, h⟩ := tryConsumeQuota_frame now m
  rw [h]

@[simp] theorem tryConsumeQuota_windowSeconds :
    (m.tryConsumeQuota now).2.windowSeconds = m.windowSeconds := by
  obtain ⟨rateHits, h⟩ := tryConsumeQuota_frame now m
  rw [h]

@[simp] theorem tryConsumeQuota_pending : (m.tryConsumeQuota now).2.pending = m.pending := by
  obtain ⟨rateHits, h⟩ := tryConsumeQuota_frame now m
  rw [h]

@[simp] theorem tryConsumeQuota_droppedRateLimited :
    (m.tryConsumeQuota now).2.droppedRateLimited = m.droppedRateLimited := by
  obtain ⟨rateHits, h⟩ := tryConsumeQuota_frame now m
  rw [h]

@[simp] theorem tryConsumeQuota_droppedExpired :
    (m.tryConsumeQuota now).2.droppedExpired = m.droppedExpired := by
  obtain ⟨rateHits, h⟩ := tryConsumeQuota_frame now m
  rw [h]

@[simp] theorem tryConsumeQuota_droppedOverflow :
    (m.tryConsumeQuota now).2.droppedOverflow = m.droppedOverflow := by
  obtain ⟨rateHits, h⟩ := tryConsumeQuota_frame now m
  rw [h]

end Frame

/-- What an attempt to send does: it ends with at most a log line, or the quota is granted and the
call is handed over, with a target list that fits the message. The queue is not touched. -/
theorem trySendNow_cases {callbacks : Callbacks ω} {now : D} {localClientNo : ℤ} {deviceId : Bytes}
    {targetClientNos : List ℤ} {functionName : Bytes} {arguments : List Bytes}
    {m m' : RpcManager D} {w w' : ω} {ok : Bool}
    (h : m.trySendNow callbacks now localClientNo deviceId targetClientNos functionName arguments
      w = (ok, m', w')) :
    m'.pending = m.pending ∧
    ((ok = false ∧ (w' = w ∨ ∃ line, w' = callbacks.log line w)) ∨
      ((m.tryConsumeQuota now).1.granted = true ∧
        (∀ target ∈ targetClientNos, 0 ≤ target ∧ target ≤ 65535) ∧ targetClientNos.length ≤ 255 ∧
        callbacks.trySend (.rpc (rpcMessage localClientNo deviceId targetClientNos functionName
          arguments)) w = (ok, w'))) := by
  cases hgranted : (m.tryConsumeQuota now).1.granted with
  | false =>
    obtain ⟨lastWarnAt, w₁, hlog, hcall⟩ := trySendNow_of_refused hgranted callbacks localClientNo
      deviceId targetClientNos functionName arguments w
    obtain ⟨rfl, rfl, rfl⟩ := Prod.mk.inj (h.symm.trans hcall)
    exact ⟨tryConsumeQuota_pending now m, .inl ⟨rfl, hlog⟩⟩
  | true =>
    obtain ⟨ok₁, w₁, hcall, hcases⟩ := trySendNow_of_granted hgranted callbacks localClientNo
      deviceId targetClientNos functionName arguments w
    obtain ⟨rfl, rfl, rfl⟩ := Prod.mk.inj (h.symm.trans hcall)
    refine ⟨tryConsumeQuota_pending now m, ?_⟩
    obtain ⟨hfalse, -, hlog⟩ | ⟨-, hfit, hsend⟩ := hcases
    · exact .inl ⟨hfalse, hlog⟩
    · exact .inr ⟨rfl, hfit.1, hfit.2, hsend⟩

/-- While the queue is too long, its oldest call is dropped. -/
def dropOverflow (callbacks : Callbacks ω) :
    List (PendingRpc D) → ℕ → ω → List (PendingRpc D) × ℕ × ω
  | [], dropped, w => ([], dropped, w)
  | oldest :: rest, dropped, w =>
    if rest.length + 1 > kMaxPendingRpc then
      dropOverflow callbacks rest (dropped + 1)
        (callbacks.log
          ("RPC pending queue overflow: dropped '" ++ logText oldest.functionName ++ "'") w)
    else (oldest :: rest, dropped, w)

/-- Queue or send a call. Before the client is ready calls are queued. -/
def send (callbacks : Callbacks ω) (now : D) (isReady : Bool) (localClientNo : ℤ)
    (deviceId : Bytes) (targetClientNos : List ℤ) (functionName : Bytes) (arguments : List Bytes)
    (m : RpcManager D) (w : ω) : RpcManager D × ω :=
  if !isReady then
    match dropOverflow callbacks
      (m.pending ++ [⟨functionName, arguments, targetClientNos, now⟩]) m.droppedOverflow w with
    | (pending, dropped, w) => ({ m with pending := pending, droppedOverflow := dropped }, w)
  else
    match m.trySendNow callbacks now localClientNo deviceId targetClientNos functionName arguments
      w with
    | (_, m, w) => (m, w)

/-- The loop of `flush_pending` over the queue. A call that cannot be sent now is kept, and ends the
loop. -/
def flushLoop (callbacks : Callbacks ω) (now : D) (localClientNo : ℤ) (deviceId : Bytes) :
    List (PendingRpc D) → ℕ → RpcManager D → ω → Bool × RpcManager D × ω
  | [], _, m, w => (true, { m with pending := [] }, w)
  | head :: rest, sent, m, w =>
    if sent ≥ kMaxFlushPerTick then (false, { m with pending := head :: rest }, w)
    else if Double.lt kRpcTtlSeconds (now - head.enqueuedAt) then
      flushLoop callbacks now localClientNo deviceId rest sent
        { m with droppedExpired := m.droppedExpired + 1 }
        (callbacks.log ("dropped expired pending RPC '" ++ logText head.functionName ++ "'") w)
    else
      match m.trySendNow callbacks now localClientNo deviceId head.targetClientNos
        head.functionName head.arguments w with
      | (true, m, w) => flushLoop callbacks now localClientNo deviceId rest (sent + 1) m w
      | (false, m, w) => (false, { m with pending := head :: rest }, w)

/-- Drain the pending queue once ready. -/
def flushPending (callbacks : Callbacks ω) (now : D) (isReady : Bool) (localClientNo : ℤ)
    (deviceId : Bytes) (m : RpcManager D) (w : ω) : Bool × RpcManager D × ω :=
  if !isReady then (true, m, w)
  else flushLoop callbacks now localClientNo deviceId m.pending 0 m w

omit [Double D] [DoubleText D] in
def clearPending (m : RpcManager D) : RpcManager D := { m with pending := [], rateHits := [] }

end RpcManager

end StylyNetSync
