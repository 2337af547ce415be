import StylyNetSync.Core.RpcAccounting
import StylyNetSync.Foundation.SlidingWindow

/-!
# The rate limit

The limiter keeps the times at which it granted quota. Quota is granted before the sender is asked,
so the times kept include those of every payload handed over, on the direct path and from the queue,
and the bound of the limiter carries over to the payloads. For the same reason they include the
times of attempts that came to nothing.
-/

namespace StylyNetSync

/-- A manager with its sender, and the times at which payloads were handed over and accepted. -/
structure QuotaRun (D : Type) where
  manager : RpcManager D
  record : SendRecord
  handedAt : List D := []
  acceptedAt : List D := []

/-- When a step takes place. Configuring takes no time. -/
def RpcStep.time {D : Type} : RpcStep D → Option D
  | .send now _ _ _ _ => some now
  | .flushPending now _ _ _ => some now
  | .configureRateLimit _ _ _ => none

namespace QuotaRun

variable {D : Type} [Double D] [DoubleText D]

/-- The run goes on after something was done at this time. -/
def after (s : QuotaRun D) (now : D) (manager : RpcManager D) (record : SendRecord) :
    QuotaRun D where
  manager := manager
  record := record
  handedAt := s.handedAt ++
    List.replicate (record.handed.length - s.record.handed.length) now
  acceptedAt := s.acceptedAt ++
    List.replicate (record.acceptedMessages.length - s.record.acceptedMessages.length) now

def step (s : QuotaRun D) : RpcStep D → QuotaRun D
  | .send now isReady localClientNo deviceId call =>
    match s.manager.send SendRecord.callbacks now isReady localClientNo deviceId
      call.targetClientNos call.functionName call.arguments s.record with
    | (manager, record) => s.after now manager record
  | .flushPending now isReady localClientNo deviceId =>
    match s.manager.flushPending SendRecord.callbacks now isReady localClientNo deviceId
      s.record with
    | (_, manager, record) => s.after now manager record
  | .configureRateLimit rpcLimit windowSeconds warnCooldown =>
    { s with manager := s.manager.configureRateLimit rpcLimit windowSeconds warnCooldown }

end QuotaRun

namespace RpcManager

variable {D : Type} [Double D]

/-- The limiter keeps the log of what it granted, and granted at least what was handed over. -/
structure Limited (limit : ℕ) (window now : D) (m : RpcManager D) (handedAt : List D) : Prop where
  limit_pos : 0 < limit
  rpcLimit_eq : m.rpcLimit = limit
  windowSeconds_eq : m.windowSeconds = window
  log : ∃ granted, WindowLog limit window now granted m.rateHits ∧ handedAt.Sublist granted

variable {limit : ℕ} {window now : D} {m : RpcManager D} {handedAt : List D}

/-- The queue and the counters play no part. -/
theorem Limited.congr {m' : RpcManager D} (h : Limited limit window now m handedAt)
    (hhits : m'.rateHits = m.rateHits) (hlimit : m'.rpcLimit = m.rpcLimit)
    (hwindow : m'.windowSeconds = m.windowSeconds) : Limited limit window now m' handedAt where
  limit_pos := h.limit_pos
  rpcLimit_eq := hlimit.trans h.rpcLimit_eq
  windowSeconds_eq := hwindow.trans h.windowSeconds_eq
  log := by
    rw [hhits]
    exact h.log

variable [DoubleElapsed D]

theorem Limited.later (h : Limited limit window now m handedAt) {now' : D}
    (hle : Double.le now now' = true) : Limited limit window now' m handedAt where
  limit_pos := h.limit_pos
  rpcLimit_eq := h.rpcLimit_eq
  windowSeconds_eq := h.windowSeconds_eq
  log := by
    obtain ⟨granted, hlog, hsub⟩ := h.log
    exact ⟨granted, hlog.later hle, hsub⟩

/-- Asking for quota keeps the log; a payload may be handed over if it is granted. -/
theorem Limited.tryConsumeQuota (h : Limited limit window now m handedAt)
    (hnow : Double.le now now = true) :
    Limited limit window now (m.tryConsumeQuota now).2 handedAt ∧
      ((m.tryConsumeQuota now).1.granted = true →
        Limited limit window now (m.tryConsumeQuota now).2 (handedAt ++ [now])) := by
  have hlimit := (tryConsumeQuota_rpcLimit now m).trans h.rpcLimit_eq
  have hwindow := (tryConsumeQuota_windowSeconds now m).trans h.windowSeconds_eq
  have hpos := h.limit_pos
  obtain ⟨granted, hlog, hsub⟩ := h.log
  have hevicted := hlog.evict
  rw [RpcManager.tryConsumeQuota, h.rpcLimit_eq, h.windowSeconds_eq,
    if_neg (by omega)] at hlimit hwindow ⊢
  dsimp only at hlimit hwindow ⊢
  split_ifs at hlimit hwindow ⊢ with hfull
  · exact ⟨⟨hpos, hlimit, hwindow, granted, hevicted, hsub⟩, fun hgranted ↦ by simp at hgranted⟩
  · have hgranted := hevicted.grant hnow (by omega)
    exact ⟨⟨hpos, hlimit, hwindow, _, hgranted, hsub.trans (List.sublist_append_left _ _)⟩,
      fun _ ↦ ⟨hpos, hlimit, hwindow, _, hgranted, hsub.append (List.Sublist.refl _)⟩⟩

variable [DoubleText D]

/-- An attempt hands over one payload at most, and none without quota. -/
theorem Limited.trySendNow (h : Limited limit window now m handedAt)
    (hnow : Double.le now now = true) {localClientNo : ℤ} {deviceId : Bytes}
    {targetClientNos : List ℤ} {functionName : Bytes} {arguments : List Bytes}
    {m' : RpcManager D} {r r' : SendRecord} {ok : Bool}
    (hcall : m.trySendNow SendRecord.callbacks now localClientNo deviceId targetClientNos
      functionName arguments r = (ok, m', r')) :
    ∃ count, r'.handed.length = r.handed.length + count ∧
      Limited limit window now m' (handedAt ++ List.replicate count now) := by
  obtain ⟨hkept, hhanded⟩ := h.tryConsumeQuota hnow
  have hunsent (hlog : r' = r ∨ ∃ line, r' = SendRecord.callbacks.log line r) : r' = r := by
    obtain rfl | ⟨line, rfl⟩ := hlog <;> rfl
  cases hgranted : (m.tryConsumeQuota now).1.granted with
  | false =>
    obtain ⟨lastWarnAt, r₁, hlog, hcall₁⟩ := trySendNow_of_refused hgranted SendRecord.callbacks
      localClientNo deviceId targetClientNos functionName arguments r
    obtain ⟨rfl, rfl, rfl⟩ := Prod.mk.inj (hcall.symm.trans hcall₁)
    refine ⟨0, by rw [hunsent hlog, Nat.add_zero], ?_⟩
    rw [List.replicate_zero, List.append_nil]
    exact hkept.congr rfl rfl rfl
  | true =>
    obtain ⟨ok₁, r₁, hcall₁, ⟨-, -, hlog⟩ | ⟨-, -, hsend⟩⟩ := trySendNow_of_granted hgranted
      SendRecord.callbacks localClientNo deviceId targetClientNos functionName arguments r
    · obtain ⟨rfl, rfl, rfl⟩ := Prod.mk.inj (hcall.symm.trans hcall₁)
      refine ⟨0, by rw [hunsent hlog, Nat.add_zero], ?_⟩
      rw [List.replicate_zero, List.append_nil]
      exact hkept
    · obtain ⟨rfl, rfl, rfl⟩ := Prod.mk.inj (hcall.symm.trans hcall₁)
      refine ⟨1, ?_, hhanded hgranted⟩
      rw [SendRecord.handed_of_trySend hsend, List.length_append, List.length_singleton]

/-- So does a flush, for each call it tries. -/
theorem Limited.flushLoop (h : Limited limit window now m handedAt)
    (hnow : Double.le now now = true) (localClientNo : ℤ) (deviceId : Bytes)
    (queue : List (PendingRpc D)) (sent : ℕ) (r : SendRecord) :
    ∃ ok m' r' count, RpcManager.flushLoop SendRecord.callbacks now localClientNo deviceId queue
        sent m r = (ok, m', r') ∧
      r'.handed.length = r.handed.length + count ∧
      Limited limit window now m' (handedAt ++ List.replicate count now) := by
  induction queue generalizing sent m r handedAt with
  | nil =>
    refine ⟨_, _, _, 0, rfl, rfl, ?_⟩
    rw [List.replicate_zero, List.append_nil]
    exact h.congr rfl rfl rfl
  | cons head rest ih =>
    rw [RpcManager.flushLoop]
    split
    · refine ⟨_, _, _, 0, rfl, rfl, ?_⟩
      rw [List.replicate_zero, List.append_nil]
      exact h.congr rfl rfl rfl
    split
    · exact ih (m := { m with droppedExpired := m.droppedExpired + 1 }) (h.congr rfl rfl rfl) sent r
    rcases hcall : m.trySendNow SendRecord.callbacks now localClientNo deviceId head.targetClientNos
      head.functionName head.arguments r with ⟨ok, m₁, r₁⟩
    obtain ⟨count, hcount, hnext⟩ := h.trySendNow hnow hcall
    cases ok with
    | false => exact ⟨_, _, _, count, rfl, hcount, hnext.congr rfl rfl rfl⟩
    | true =>
      obtain ⟨ok, m', r', more, hloop, hmore, hlast⟩ := ih hnext (sent + 1) r₁
      refine ⟨ok, m', r', count + more, hloop, by omega, ?_⟩
      rwa [List.append_assoc, List.replicate_append_replicate] at hlast

end RpcManager

namespace QuotaRun

variable {D : Type} [Double D] [DoubleText D]

/-- A manager that has granted nothing yet, and a sender with these answers. -/
def start (manager : RpcManager D) (answers : List Bool) : QuotaRun D :=
  ⟨manager, { answers := answers }, [], []⟩

def run (manager : RpcManager D) (answers : List Bool) (steps : List (RpcStep D)) : QuotaRun D :=
  steps.foldl step (start manager answers)

variable [DoubleElapsed D]

/-- **A step keeps the log of the limiter.** -/
theorem step_limited {s : QuotaRun D} {limit : ℕ} {window now : D} {e : RpcStep D}
    (h : RpcManager.Limited limit window now s.manager s.handedAt)
    (hnow : Double.le now now = true) (htime : e.time = some now) :
    RpcManager.Limited limit window now (s.step e).manager (s.step e).handedAt := by
  cases e with
  | send now' isReady localClientNo deviceId call =>
    obtain rfl : now' = now := Option.some.inj htime
    rw [step, RpcManager.send]
    cases isReady with
    | false =>
      simp only [Bool.not_false, if_true, RpcManager.dropOverflow_eq, after, Nat.sub_self,
        List.replicate_zero, List.append_nil]
      exact h.congr rfl rfl rfl
    | true =>
      rcases hcall : s.manager.trySendNow SendRecord.callbacks now' localClientNo deviceId
        call.targetClientNos call.functionName call.arguments s.record with ⟨ok, m', r'⟩
      obtain ⟨count, hcount, hnext⟩ := h.trySendNow hnow hcall
      simp only [Bool.not_true, Bool.false_eq_true, if_false, after, hcount,
        Nat.add_sub_cancel_left]
      exact hnext
  | flushPending now' isReady localClientNo deviceId =>
    obtain rfl : now' = now := Option.some.inj htime
    rw [step, RpcManager.flushPending]
    cases isReady with
    | false => simpa [after] using h
    | true =>
      obtain ⟨ok, m', r', count, hloop, hcount, hnext⟩ := h.flushLoop hnow localClientNo deviceId
        s.manager.pending 0 s.record
      simp only [Bool.not_true, Bool.false_eq_true, if_false, hloop, after, hcount,
        Nat.add_sub_cancel_left]
      exact hnext
  | configureRateLimit rpcLimit windowSeconds warnCooldown => simp [RpcStep.time] at htime

theorem foldl_limited {s : QuotaRun D} {limit : ℕ} {window now : D} {steps : List (RpcStep D)}
    (h : RpcManager.Limited limit window now s.manager s.handedAt)
    (hclock : Nondecreasing (steps.filterMap RpcStep.time))
    (hlater : ∀ t ∈ steps.filterMap RpcStep.time, Double.le now t = true)
    (hfixed : ∀ e ∈ steps, e.time.isSome) :
    ∃ now', RpcManager.Limited limit window now' (steps.foldl step s).manager
      (steps.foldl step s).handedAt := by
  induction steps generalizing s now with
  | nil => exact ⟨now, h⟩
  | cons e steps ih =>
    rw [List.forall_mem_cons] at hfixed
    obtain ⟨t, ht⟩ := Option.isSome_iff_exists.mp hfixed.1
    rw [List.filterMap_cons_some ht] at hclock hlater
    rw [List.forall_mem_cons] at hlater
    have hnext := List.pairwise_cons.mp hclock.le
    have hself := List.forall_mem_cons.mp hclock.self
    exact ih (step_limited (h.later hlater.1) hself.1 ht) ⟨hnext.2, hself.2⟩ hnext.1 hfixed.2

/-- **No window contains more payloads than the limit**, wherever it lies, and the limiter keeps a
sorted list of no more times than that: in every run with one limit and one window in which the
clock does not run backwards. -/
theorem windows_bounded (manager : RpcManager D) (answers : List Bool) (steps : List (RpcStep D))
    (hlimit : 0 < manager.rpcLimit) (hhits : manager.rateHits = [])
    (hfixed : ∀ e ∈ steps, e.time.isSome) (hclock : Nondecreasing (steps.filterMap RpcStep.time)) :
    WindowBounded manager.rpcLimit.toNat manager.windowSeconds
      (run manager answers steps).handedAt ∧
    (run manager answers steps).manager.rateHits.Pairwise (fun t t' ↦ Double.le t t' = true) ∧
    (run manager answers steps).manager.rateHits.length ≤ manager.rpcLimit.toNat := by
  have hstart (now : D) : RpcManager.Limited manager.rpcLimit.toNat manager.windowSeconds now
      (start manager answers).manager (start manager answers).handedAt :=
    ⟨by omega, (Int.toNat_of_nonneg hlimit.le).symm, rfl, [],
      by rw [start, hhits]; exact .nil _ _ _, List.Sublist.refl _⟩
  obtain ⟨now, hend⟩ : ∃ now, RpcManager.Limited manager.rpcLimit.toNat manager.windowSeconds now
      (run manager answers steps).manager (run manager answers steps).handedAt := by
    cases steps with
    | nil => exact ⟨manager.windowSeconds, hstart _⟩
    | cons e steps =>
      -- the log begins with the first step
      obtain ⟨t, ht⟩ := Option.isSome_iff_exists.mp (hfixed e List.mem_cons_self)
      refine foldl_limited (hstart t) hclock ?_ hfixed
      rw [List.filterMap_cons_some ht] at hclock ⊢
      exact List.forall_mem_cons.mpr
        ⟨hclock.self t List.mem_cons_self, (List.pairwise_cons.mp hclock.le).1⟩
  obtain ⟨granted, hlog, hsub⟩ := hend.log
  exact ⟨hlog.bounded.sublist hsub, hlog.sorted_hits, hlog.size⟩

/-- Two calls a second are allowed. The third is made exactly one second after the first and
refused, the fourth is later than that. -/
def twoPerSecond : List (RpcStep ℚ) :=
  [.send 0 false 1 [100] (RpcRun.callOf 97), .flushPending 0 true 1 [100],
    .send (1 / 2) true 1 [100] (RpcRun.callOf 98), .send 1 true 1 [100] (RpcRun.callOf 99),
    .send (5 / 4) true 1 [100] (RpcRun.callOf 100)]

/-- The manager of this run. -/
def limitedToTwo : RpcManager ℚ := RpcManager.default.configureRateLimit 2 1 0

theorem windows_bounded_twoPerSecond :
    (run limitedToTwo (List.replicate 5 true) twoPerSecond).handedAt = [0, 1 / 2, 5 / 4] ∧
    WindowBounded 2 1 (run limitedToTwo (List.replicate 5 true) twoPerSecond).handedAt := by
  have hclock : Nondecreasing (twoPerSecond.filterMap RpcStep.time) :=
    ⟨by decide +kernel, by decide +kernel⟩
  have hlimit : limitedToTwo.rpcLimit.toNat = 2 := by decide +kernel
  have hwindow : limitedToTwo.windowSeconds = 1 := by decide +kernel
  have hbounded := (windows_bounded limitedToTwo (List.replicate 5 true) twoPerSecond
    (by decide +kernel) rfl (by decide +kernel) hclock).1
  rw [hlimit, hwindow] at hbounded
  exact ⟨by decide +kernel, hbounded⟩

end QuotaRun

end StylyNetSync
