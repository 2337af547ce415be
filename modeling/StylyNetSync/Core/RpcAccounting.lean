import StylyNetSync.Core.RpcOrder

/-!
# What became of every call

The manager counts the calls it gives up: one counter for the queue that is too long, one for calls
that waited too long, one for the rate limit. A call has one fate if it was accepted, still waits or
is counted once. The counters miss two kinds of attempts. A call made while the client is ready and
refused for another reason than the rate limit is given up without being counted. A queued call that
the rate limit refuses is counted although it stays in the queue, and is counted again when it is
tried again.
-/

namespace StylyNetSync

namespace RpcManager

variable {D : Type} [Double D]

/-- Whether the limiter has room for a call at this time after it has granted `i` others. -/
def grantsAfter (now : D) : ℕ → RpcManager D → Bool
  | 0, m => (m.tryConsumeQuota now).1.granted
  | i + 1, m => grantsAfter now i (m.tryConsumeQuota now).2

/-- The flush reaches a call for which the limiter has no room left: the calls before it, `i` of
them, are all sent. -/
def LimiterStops (now : D) (live : List (PendingRpc D)) (room : ℕ) (answers : List Bool)
    (m : RpcManager D) : Prop :=
  ∃ i < room, i < live.length ∧ (∀ entry ∈ live.take i, TargetsFit entry.targetClientNos) ∧
    answers.take i = List.replicate i true ∧ m.grantsAfter now i = false

/-- The limiter does not look at the queue or the counters. -/
theorem tryConsumeQuota_congr {now : D} {m m' : RpcManager D} (hhits : m'.rateHits = m.rateHits)
    (hlimit : m'.rpcLimit = m.rpcLimit) (hwindow : m'.windowSeconds = m.windowSeconds) :
    (m'.tryConsumeQuota now).1 = (m.tryConsumeQuota now).1 ∧
      (m'.tryConsumeQuota now).2.rateHits = (m.tryConsumeQuota now).2.rateHits := by
  simp only [tryConsumeQuota, hhits, hlimit, hwindow]
  split_ifs
  · exact ⟨rfl, hhits⟩
  · exact ⟨rfl, rfl⟩
  · exact ⟨rfl, rfl⟩

theorem grantsAfter_congr {now : D} {m m' : RpcManager D} (i : ℕ)
    (hhits : m'.rateHits = m.rateHits) (hlimit : m'.rpcLimit = m.rpcLimit)
    (hwindow : m'.windowSeconds = m.windowSeconds) :
    m'.grantsAfter now i = m.grantsAfter now i := by
  obtain ⟨hquota, hnext⟩ := tryConsumeQuota_congr hhits hlimit hwindow
  induction i generalizing m m' with
  | zero => rw [grantsAfter, grantsAfter, hquota]
  | succ i ih =>
    have hlimit' : (m'.tryConsumeQuota now).2.rpcLimit = (m.tryConsumeQuota now).2.rpcLimit := by
      simp [hlimit]
    have hwindow' : (m'.tryConsumeQuota now).2.windowSeconds =
        (m.tryConsumeQuota now).2.windowSeconds := by simp [hwindow]
    obtain ⟨hquota', hnext'⟩ := tryConsumeQuota_congr hnext hlimit' hwindow'
    exact ih hnext hlimit' hwindow' hquota' hnext'

theorem LimiterStops.congr {now : D} {live : List (PendingRpc D)} {room : ℕ} {answers : List Bool}
    {m m' : RpcManager D} (hhits : m'.rateHits = m.rateHits) (hlimit : m'.rpcLimit = m.rpcLimit)
    (hwindow : m'.windowSeconds = m.windowSeconds) :
    LimiterStops now live room answers m' ↔ LimiterStops now live room answers m := by
  have hgrants (i : ℕ) : m'.grantsAfter now i = m.grantsAfter now i :=
    grantsAfter_congr i hhits hlimit hwindow
  simp only [LimiterStops, hgrants]

/-- The limiter stops the flush at its next call, or lets it pass and stops it later. -/
theorem limiterStops_cons {now : D} {head : PendingRpc D} {live : List (PendingRpc D)} {room : ℕ}
    {answers : List Bool} {m : RpcManager D} :
    LimiterStops now (head :: live) (room + 1) answers m ↔
      (m.tryConsumeQuota now).1.granted = false ∨
        TargetsFit head.targetClientNos ∧ answers.head? = some true ∧
          LimiterStops now live room answers.tail (m.tryConsumeQuota now).2 := by
  constructor
  · rintro ⟨i, hi, hlength, hfit, hanswers, hrefused⟩
    cases i with
    | zero => exact .inl hrefused
    | succ i =>
      rw [List.take_succ_cons, List.forall_mem_cons] at hfit
      rcases answers with - | ⟨answer, rest⟩
      · simp [List.replicate_succ] at hanswers
      rw [List.take_succ_cons, List.replicate_succ, List.cons.injEq] at hanswers
      exact .inr ⟨hfit.1, by rw [hanswers.1]; rfl, i, by omega, by simpa using hlength, hfit.2,
        hanswers.2, hrefused⟩
  · rintro (hrefused | ⟨hfit, hanswer, i, hi, hlength, hfits, hanswers, hrefused⟩)
    · exact ⟨0, by omega, by simp, by simp, by simp, hrefused⟩
    · rcases answers with - | ⟨answer, rest⟩
      · simp at hanswer
      obtain rfl : answer = true := by simpa using hanswer
      refine ⟨i + 1, by omega, by simpa using hlength, ?_, ?_, hrefused⟩
      · rw [List.take_succ_cons, List.forall_mem_cons]
        exact ⟨hfit, hfits⟩
      · rw [List.take_succ_cons, List.replicate_succ]
        exact congrArg _ hanswers

/-! ### One attempt, one flush -/

variable [DoubleText D]

/-- An attempt succeeds if the limiter and the sender have room and the targets fit. -/
def Succeeds (now : D) (targetClientNos : List ℤ) (answers : List Bool) (m : RpcManager D) : Prop :=
  (m.tryConsumeQuota now).1.granted = true ∧ TargetsFit targetClientNos ∧
    answers.head? = some true

/-- An attempt that succeeds uses up one answer and one unit of quota. -/
theorem trySendNow_of_succeeds {now : D} {m : RpcManager D} {targetClientNos : List ℤ}
    {r : SendRecord} (h : Succeeds now targetClientNos r.answers m) (localClientNo : ℤ)
    (deviceId functionName : Bytes) (arguments : List Bytes) :
    ∃ r', m.trySendNow SendRecord.callbacks now localClientNo deviceId targetClientNos functionName
        arguments r = (true, (m.tryConsumeQuota now).2, r') ∧
      r'.answers = r.answers.tail := by
  obtain ⟨hgranted, hfit, hanswer⟩ := h
  obtain ⟨ok, r', hcall, ⟨-, hunfit, -⟩ | ⟨-, -, hsend⟩⟩ := trySendNow_of_granted hgranted
    SendRecord.callbacks localClientNo deviceId targetClientNos functionName arguments r
  · exact absurd ⟨rfl, hfit⟩ hunfit
  · obtain ⟨rfl, rfl⟩ := Prod.mk.inj ((SendRecord.trySend_eq _ r).symm.trans hsend)
    have hok : r.answers.headD false = true := by
      rw [List.headD_eq_head?_getD, hanswer]
      rfl
    rw [hok] at hcall
    exact ⟨_, hcall, rfl⟩

/-- An attempt with quota that does not succeed returns false, and the quota is spent. -/
theorem trySendNow_of_granted_not_succeeds {now : D} {m : RpcManager D} {targetClientNos : List ℤ}
    {r : SendRecord} (hgranted : (m.tryConsumeQuota now).1.granted = true)
    (h : ¬Succeeds now targetClientNos r.answers m) (localClientNo : ℤ)
    (deviceId functionName : Bytes) (arguments : List Bytes) :
    ∃ r', m.trySendNow SendRecord.callbacks now localClientNo deviceId targetClientNos functionName
        arguments r = (false, (m.tryConsumeQuota now).2, r') := by
  obtain ⟨ok, r', hcall, ⟨rfl, -, -⟩ | ⟨-, hfit, hsend⟩⟩ := trySendNow_of_granted hgranted
    SendRecord.callbacks localClientNo deviceId targetClientNos functionName arguments r
  · exact ⟨r', hcall⟩
  · cases ok with
    | false => exact ⟨r', hcall⟩
    | true => exact absurd ⟨hgranted, hfit, SendRecord.answers_of_trySend hsend⟩ h

/-- An attempt that does not succeed returns false; the hits are those that asking for quota left,
and only a refusal by the limiter is counted. -/
theorem trySendNow_of_not_succeeds {now : D} {m : RpcManager D} {targetClientNos : List ℤ}
    {r : SendRecord} (h : ¬Succeeds now targetClientNos r.answers m) (localClientNo : ℤ)
    (deviceId functionName : Bytes) (arguments : List Bytes) :
    ∃ m' r', m.trySendNow SendRecord.callbacks now localClientNo deviceId targetClientNos
        functionName arguments r = (false, m', r') ∧
      m'.rateHits = (m.tryConsumeQuota now).2.rateHits ∧ m'.pending = m.pending ∧
      m'.droppedOverflow = m.droppedOverflow ∧ m'.droppedExpired = m.droppedExpired ∧
      m'.droppedRateLimited =
        m.droppedRateLimited + (!(m.tryConsumeQuota now).1.granted).toNat := by
  cases hgranted : (m.tryConsumeQuota now).1.granted with
  | false =>
    obtain ⟨lastWarnAt, r', -, hcall⟩ := trySendNow_of_refused hgranted SendRecord.callbacks
      localClientNo deviceId targetClientNos functionName arguments r
    exact ⟨_, r', hcall, rfl, by simp, by simp, by simp, by simp⟩
  | true =>
    obtain ⟨r', hcall⟩ := trySendNow_of_granted_not_succeeds hgranted h localClientNo deviceId
      functionName arguments
    exact ⟨_, r', hcall, rfl, by simp, by simp, by simp, by simp⟩

/-- **What an attempt does to the counts**: one that succeeds is accepted, one that the limiter
refuses is counted, and any other leaves no trace. -/
theorem trySendNow_counts (now : D) (m : RpcManager D) (localClientNo : ℤ)
    (deviceId : Bytes) (targetClientNos : List ℤ) (functionName : Bytes) (arguments : List Bytes)
    (r : SendRecord) :
    ∃ ok m' r', m.trySendNow SendRecord.callbacks now localClientNo deviceId targetClientNos
        functionName arguments r = (ok, m', r') ∧
      (ok = true ↔ Succeeds now targetClientNos r.answers m) ∧
      (ok = true → m' = (m.tryConsumeQuota now).2 ∧ r'.answers = r.answers.tail) ∧
      m'.pending = m.pending ∧ m'.droppedOverflow = m.droppedOverflow ∧
      m'.droppedExpired = m.droppedExpired ∧
      r'.acceptedMessages.length = r.acceptedMessages.length + ok.toNat ∧
      m'.droppedRateLimited =
        m.droppedRateLimited + (!(m.tryConsumeQuota now).1.granted).toNat := by
  by_cases hsucceeds : Succeeds now targetClientNos r.answers m
  · obtain ⟨r', hcall, hanswers⟩ := trySendNow_of_succeeds hsucceeds localClientNo deviceId
      functionName arguments
    have haccepted := acceptedMessages_of_trySendNow hcall
    refine ⟨_, _, _, hcall, iff_of_true rfl hsucceeds, fun _ ↦ ⟨rfl, hanswers⟩, by simp, by simp,
      by simp, ?_, ?_⟩
    · rw [haccepted, if_pos rfl, List.length_append, List.length_singleton, Bool.toNat_true]
    · rw [hsucceeds.1, tryConsumeQuota_droppedRateLimited, Bool.not_true, Bool.toNat_false,
        Nat.add_zero]
  · obtain ⟨m', r', hcall, -, hpending, hoverflow, hexpired, hlimited⟩ :=
      trySendNow_of_not_succeeds hsucceeds localClientNo deviceId functionName arguments
    have haccepted := acceptedMessages_of_trySendNow hcall
    rw [if_neg Bool.false_ne_true, List.append_nil] at haccepted
    exact ⟨_, _, _, hcall, iff_of_false Bool.false_ne_true hsucceeds, nofun, hpending, hoverflow,
      hexpired, congrArg List.length haccepted, hlimited⟩

/-- **A flush moves every call to one fate**, but for the one at which the limiter stops it: this
one is counted and stays. -/
theorem flushLoop_balance (now : D) (localClientNo : ℤ) (deviceId : Bytes)
    (queue : List (PendingRpc D)) (sent : ℕ) (m : RpcManager D) (r : SendRecord) :
    ∃ ok m' r', flushLoop SendRecord.callbacks now localClientNo deviceId queue sent m r =
        (ok, m', r') ∧ m'.pending.length ≤ queue.length ∧
      m'.droppedOverflow = m.droppedOverflow ∧
      ∃ extra, (extra = 0 ↔ ¬LimiterStops now (queue.filter (live now)) (kMaxFlushPerTick - sent)
          r.answers m) ∧
        r'.acceptedMessages.length + m'.pending.length + m'.droppedExpired + m'.droppedRateLimited =
          r.acceptedMessages.length + queue.length + m.droppedExpired + m.droppedRateLimited +
            extra := by
  induction queue generalizing sent m r with
  | nil =>
    refine ⟨_, _, _, rfl, Nat.le_refl 0, rfl, 0, ?_, rfl⟩
    simp [LimiterStops]
  | cons head rest ih =>
    rw [flushLoop]
    split
    · next hfull =>
      refine ⟨_, _, _, rfl, Nat.le_refl _, rfl, 0, ?_, rfl⟩
      rw [Nat.sub_eq_zero_of_le hfull]
      simp [LimiterStops]
    next hroom =>
    obtain ⟨room, hroom⟩ : ∃ room, kMaxFlushPerTick - sent = room + 1 :=
      Nat.exists_eq_succ_of_ne_zero (by omega)
    have hnext : kMaxFlushPerTick - (sent + 1) = room := by omega
    split
    · next hexpired =>
      obtain ⟨ok, m', r', hloop, hlength, hoverflow, extra, hextra, hsum⟩ :=
        ih sent { m with droppedExpired := m.droppedExpired + 1 } r
      refine ⟨ok, m', r', hloop, Nat.le_succ_of_le hlength, hoverflow, extra, ?_, ?_⟩
      · rw [List.filter_cons_of_neg (by simp [live, hexpired]), hextra]
        exact not_congr (LimiterStops.congr rfl rfl rfl)
      · simp only [List.length_cons] at hsum ⊢
        omega
    · next hlive =>
      rw [List.filter_cons_of_pos (by simp [live, hlive]), hroom, limiterStops_cons]
      obtain ⟨ok, m₁, r₁, hcall, hok, hsent, -, hoverflow₁, hexpired, haccepted, hlimited⟩ :=
        trySendNow_counts now m localClientNo deviceId head.targetClientNos head.functionName
          head.arguments r
      rw [hcall]
      cases ok with
      | false =>
        -- the call is kept; only the limiter counts it
        refine ⟨_, _, _, rfl, Nat.le_refl _, hoverflow₁,
          (!(m.tryConsumeQuota now).1.granted).toNat, ?_, ?_⟩
        · cases hgranted : (m.tryConsumeQuota now).1.granted with
          | false => simp
          | true =>
            simp only [Bool.true_eq_false, false_or, Bool.not_true, Bool.toNat_false, true_iff]
            rintro ⟨hfit, hanswer, -⟩
            exact Bool.false_ne_true (hok.mpr ⟨hgranted, hfit, hanswer⟩)
        · simp only [hexpired, haccepted, hlimited, Bool.toNat_false]
          omega
      | true =>
        obtain ⟨hgranted, hfit, hanswer⟩ := hok.mp rfl
        obtain ⟨rfl, hanswers⟩ := hsent rfl
        obtain ⟨ok, m', r', hloop, hlength, hoverflow, extra, hextra, hsum⟩ :=
          ih (sent + 1) (m.tryConsumeQuota now).2 r₁
        refine ⟨ok, m', r', hloop, Nat.le_succ_of_le hlength, hoverflow.trans hoverflow₁, extra,
          ?_, ?_⟩
        · rw [hextra, hnext, hanswers]
          simp [hgranted, hfit, hanswer]
        · rw [hgranted, Bool.not_true, Bool.toNat_false] at hlimited
          rw [Bool.toNat_true] at haccepted
          rw [List.length_cons]
          omega

/-! ### The queue -/

omit [Double D] [DoubleText D] in
/-- What is too much for the queue is dropped and counted. -/
theorem dropOverflow_eq (queue : List (PendingRpc D)) (dropped : ℕ) (r : SendRecord) :
    dropOverflow SendRecord.callbacks queue dropped r =
      (queue.drop (queue.length - kMaxPendingRpc),
        dropped + (queue.length - kMaxPendingRpc), r) := by
  induction queue generalizing dropped with
  | nil => rfl
  | cons oldest rest ih =>
    rw [dropOverflow]
    split
    · next hlong =>
      have hexcess : (oldest :: rest).length - kMaxPendingRpc =
          rest.length - kMaxPendingRpc + 1 := by
        rw [List.length_cons]
        omega
      refine (ih (dropped + 1)).trans ?_
      rw [hexcess, List.drop_succ_cons, Nat.add_right_comm, ← Nat.add_assoc]
    · next hfits =>
      have hexcess : (oldest :: rest).length - kMaxPendingRpc = 0 := by
        rw [List.length_cons]
        omega
      rw [hexcess, List.drop_zero, Nat.add_zero]

end RpcManager

/-! ### Runs -/

namespace RpcRun

variable {D : Type} [Double D]

open RpcManager (live TargetsFit LimiterStops)

/-- Every call was accepted, waits in the queue, or is counted once as dropped. -/
def Accounted (s : RpcRun D) : Prop :=
  s.calls.length = s.record.acceptedMessages.length + s.manager.pending.length +
    (s.manager.droppedOverflow + s.manager.droppedExpired + s.manager.droppedRateLimited)

instance : DecidablePred (Accounted : RpcRun D → Prop) := fun _ ↦ instDecidableEqNat _ _

/-- The queue is bounded. -/
def QueueBounded (s : RpcRun D) : Prop := s.manager.pending.length ≤ kMaxPendingRpc

/-- The counters meet what the step does: a call made while the client is ready is refused by the
rate limit or sent, and the rate limit does not stop a flush. -/
def Accountable (s : RpcRun D) : RpcStep D → Prop
  | .send now isReady _ _ call =>
    isReady = true → (s.manager.tryConsumeQuota now).1.granted = false ∨
      TargetsFit call.targetClientNos ∧ s.record.answers.head? = some true
  | .flushPending now isReady _ _ =>
    isReady = true → ¬LimiterStops now (s.manager.pending.filter (live now)) kMaxFlushPerTick
      s.record.answers s.manager
  | .configureRateLimit _ _ _ => True

variable [DoubleText D] {s : RpcRun D}

/-- No step lets the queue grow beyond its bound. -/
theorem QueueBounded.step (h : QueueBounded s) (e : RpcStep D) : QueueBounded (s.step e) := by
  cases e with
  | send now isReady localClientNo deviceId call =>
    rw [QueueBounded, RpcRun.step, RpcManager.send]
    cases isReady with
    | false =>
      simp only [Bool.not_false, if_true, RpcManager.dropOverflow_eq, List.length_drop]
      omega
    | true =>
      rcases hcall : s.manager.trySendNow SendRecord.callbacks now localClientNo deviceId
        call.targetClientNos call.functionName call.arguments s.record with ⟨ok, m', r'⟩
      have hpending := (RpcManager.trySendNow_cases hcall).1
      simp only [Bool.not_true, Bool.false_eq_true, if_false, hpending]
      exact h
  | flushPending now isReady localClientNo deviceId =>
    rw [QueueBounded, RpcRun.step, RpcManager.flushPending]
    cases isReady with
    | false => exact h
    | true =>
      obtain ⟨ok, m', r', hloop, hlength, -⟩ := RpcManager.flushLoop_balance now localClientNo
        deviceId s.manager.pending 0 s.manager s.record
      simp only [Bool.not_true, Bool.false_eq_true, if_false, hloop]
      exact hlength.trans h
  | configureRateLimit rpcLimit windowSeconds warnCooldown => exact h

namespace Accounted

/-- A queued call is accounted for, with what it displaces. -/
theorem send_queued (h : Accounted s) (now : D) (localClientNo : ℤ) (deviceId : Bytes)
    (call : RpcCall) : Accounted (s.step (.send now false localClientNo deviceId call)) := by
  rw [Accounted] at h ⊢
  rw [step, RpcManager.send]
  simp only [Bool.not_false, if_true, RpcManager.dropOverflow_eq, List.length_append,
    List.length_singleton, List.length_drop]
  omega

/-- A call made while the client is ready is accounted for exactly if it is accepted or refused by
the limiter. -/
theorem send_now_iff (h : Accounted s) (now : D) (localClientNo : ℤ) (deviceId : Bytes)
    (call : RpcCall) :
    Accounted (s.step (.send now true localClientNo deviceId call)) ↔
      ((s.manager.tryConsumeQuota now).1.granted = false ∨
        TargetsFit call.targetClientNos ∧ s.record.answers.head? = some true) := by
  rw [Accounted] at h ⊢
  rw [step, RpcManager.send]
  simp only [Bool.not_true, Bool.false_eq_true, if_false]
  obtain ⟨ok, m', r', hcall, hok, -, hpending, hoverflow, hexpired, haccepted, hlimited⟩ :=
    RpcManager.trySendNow_counts now s.manager localClientNo deviceId call.targetClientNos
      call.functionName call.arguments s.record
  rw [RpcManager.Succeeds] at hok
  simp only [hcall, List.length_append, List.length_singleton, hpending, hoverflow, hexpired,
    haccepted, hlimited]
  cases hgranted : (s.manager.tryConsumeQuota now).1.granted with
  | false =>
    have hfalse : ok = false := by simpa [hgranted] using hok
    rw [hfalse, Bool.not_false, Bool.toNat_true, Bool.toNat_false]
    exact iff_of_true (by omega) (.inl rfl)
  | true =>
    -- a call that is neither sent nor refused by the limiter is given up without being counted
    simp only [hgranted, true_and] at hok
    rw [← hok]
    cases ok with
    | false => exact iff_of_false (by simp only [Bool.not_true, Bool.toNat_false]; omega) (by simp)
    | true =>
      exact iff_of_true (by simp only [Bool.not_true, Bool.toNat_false, Bool.toNat_true]; omega)
        (.inr rfl)

/-- A flush keeps the account exactly if the limiter does not stop it. -/
theorem flushPending_iff (h : Accounted s) (now : D) (isReady : Bool) (localClientNo : ℤ)
    (deviceId : Bytes) :
    Accounted (s.step (.flushPending now isReady localClientNo deviceId)) ↔
      Accountable s (.flushPending now isReady localClientNo deviceId) := by
  rw [Accounted] at h ⊢
  rw [step, RpcManager.flushPending, Accountable]
  cases isReady with
  | false => simpa using h
  | true =>
    obtain ⟨ok, m', r', hloop, -, hoverflow, extra, hextra, hsum⟩ :=
      RpcManager.flushLoop_balance now localClientNo deviceId s.manager.pending 0 s.manager s.record
    rw [Nat.sub_zero] at hextra
    simp only [Bool.not_true, Bool.false_eq_true, if_false, hloop, true_imp_iff, ← hextra]
    omega

/-- **A step keeps the account exactly if it is accountable.** -/
theorem step_iff (h : Accounted s) (e : RpcStep D) : Accounted (s.step e) ↔ Accountable s e := by
  cases e with
  | send now isReady localClientNo deviceId call =>
    cases isReady with
    | false =>
      exact iff_of_true (h.send_queued now localClientNo deviceId call) (by simp [Accountable])
    | true => simpa [Accountable] using h.send_now_iff now localClientNo deviceId call
  | flushPending now isReady localClientNo deviceId =>
    exact h.flushPending_iff now isReady localClientNo deviceId
  | configureRateLimit rpcLimit windowSeconds warnCooldown => exact iff_of_true h trivial

end Accounted

/-- **Every call has one accounted fate** in every state of a run exactly when every step of the run
is accountable; the queue is bounded in any case. Clock, limit, changes of readiness and the pattern
of refusals are arbitrary. -/
theorem fates_accounted_iff (answers : List Bool) (steps : List (RpcStep D)) :
    (∀ k, QueueBounded (run answers (steps.take k))) ∧
    ((∀ k, Accounted (run answers (steps.take k))) ↔
      Along step Accountable (start answers) steps) := by
  refine ⟨fun k ↦ ?_, Along.forall_take_iff (fun _ e h ↦ h.step_iff e) rfl⟩
  have hstart : QueueBounded (start answers : RpcRun D) := Nat.zero_le _
  have hall : Along step (fun s _ ↦ QueueBounded s) (start answers) (steps.take k) :=
    Along.of_invariant (I := QueueBounded) (fun _ e h ↦ h.step e) (fun _ _ h ↦ h) hstart _
  exact Along.invariant (fun _ e _ h ↦ h.step e) hall hstart

/-- A call that the transport refuses is counted nowhere. A queued call that the limiter refuses is
counted while it waits. -/
theorem fates_unaccounted :
    (∃ s : RpcRun ℚ, s = run [false] [.send 0 true 1 [100] (callOf 97)] ∧
      s.calls.length = 1 ∧ s.record.acceptedMessages.length = 0 ∧ s.manager.pending.length = 0 ∧
      s.manager.droppedOverflow = 0 ∧ s.manager.droppedExpired = 0 ∧
      s.manager.droppedRateLimited = 0 ∧ ¬Accounted s) ∧
    ∃ s : RpcRun ℚ, s = run [true, true] [.configureRateLimit 1 1 0,
        .send 0 false 1 [100] (callOf 97), .send 0 false 1 [100] (callOf 98),
        .flushPending 0 true 1 [100]] ∧
      s.calls.length = 2 ∧ s.record.acceptedMessages.length = 1 ∧ s.manager.pending.length = 1 ∧
      s.manager.droppedOverflow = 0 ∧ s.manager.droppedExpired = 0 ∧
      s.manager.droppedRateLimited = 1 ∧ ¬Accounted s := by
  refine ⟨⟨_, rfl, by decide +kernel, by decide +kernel, by decide +kernel, by decide +kernel,
    by decide +kernel, by decide +kernel, fun h ↦ ?_⟩, ⟨_, rfl, by decide +kernel,
    by decide +kernel, by decide +kernel, by decide +kernel, by decide +kernel, by decide +kernel,
    fun h ↦ ?_⟩⟩
  · exact absurd h (by decide +kernel)
  · exact absurd h (by decide +kernel)

end RpcRun

end StylyNetSync
