import Mathlib.Data.Multiset.Basic
import StylyNetSync.Core.RpcQuota

/-!
# What an attempt costs

Quota is spent when it is granted, before the sender and the targets are looked at. An attempt that
the limiter refuses costs nothing; one that fails for any other reason costs as much as a call that
is sent, and a queued call that cannot be sent pays again at every flush.
-/

namespace StylyNetSync

namespace RpcManager

variable {D : Type} [Double D]

/-! ### Reachable managers -/

section Reachable

variable [DoubleText D]

/-- A manager that some use of it may have left behind, with any callbacks. -/
inductive Reachable : RpcManager D → Prop
  | default : Reachable default
  | configureRateLimit {m : RpcManager D} (h : Reachable m) (rpcLimit : ℤ)
      (windowSeconds warnCooldown : D) :
      Reachable (m.configureRateLimit rpcLimit windowSeconds warnCooldown)
  | send {m : RpcManager D} (h : Reachable m) {ω : Type} (callbacks : Callbacks ω) (now : D)
      (isReady : Bool) (localClientNo : ℤ) (deviceId : Bytes) (targetClientNos : List ℤ)
      (functionName : Bytes) (arguments : List Bytes) (w : ω) :
      Reachable (m.send callbacks now isReady localClientNo deviceId targetClientNos functionName
        arguments w).1
  | flushPending {m : RpcManager D} (h : Reachable m) {ω : Type} (callbacks : Callbacks ω) (now : D)
      (isReady : Bool) (localClientNo : ℤ) (deviceId : Bytes) (w : ω) :
      Reachable (m.flushPending callbacks now isReady localClientNo deviceId w).2.1
  | clearPending {m : RpcManager D} (h : Reachable m) : Reachable m.clearPending

variable {ω : Type} (callbacks : Callbacks ω) (now : D) (localClientNo : ℤ) (deviceId : Bytes)

/-- An attempt does not change the window. -/
theorem trySendNow_windowSeconds (targetClientNos : List ℤ) (functionName : Bytes)
    (arguments : List Bytes) (m : RpcManager D) (w : ω) :
    (m.trySendNow callbacks now localClientNo deviceId targetClientNos functionName arguments
      w).2.1.windowSeconds = m.windowSeconds := by
  cases hgranted : (m.tryConsumeQuota now).1.granted with
  | false =>
    obtain ⟨lastWarnAt, w', -, hcall⟩ := trySendNow_of_refused hgranted callbacks localClientNo
      deviceId targetClientNos functionName arguments w
    rw [hcall]
    exact tryConsumeQuota_windowSeconds now m
  | true =>
    obtain ⟨ok, w', hcall, -⟩ := trySendNow_of_granted hgranted callbacks localClientNo deviceId
      targetClientNos functionName arguments w
    rw [hcall]
    exact tryConsumeQuota_windowSeconds now m

theorem flushLoop_windowSeconds (queue : List (PendingRpc D)) (sent : ℕ) (m : RpcManager D)
    (w : ω) :
    (flushLoop callbacks now localClientNo deviceId queue sent m w).2.1.windowSeconds =
      m.windowSeconds := by
  induction queue generalizing sent m w with
  | nil => rfl
  | cons head rest ih =>
    rw [flushLoop]
    split
    · rfl
    split
    · exact ih _ _ _
    have hcall := trySendNow_windowSeconds callbacks now localClientNo deviceId
      head.targetClientNos head.functionName head.arguments m w
    split
    · next heq =>
      rw [heq] at hcall
      exact (ih _ _ _).trans hcall
    · next heq =>
      rw [heq] at hcall
      exact hcall

/-- The window never closes. -/
theorem Reachable.window_pos [DoubleElapsed D] {m : RpcManager D} (h : Reachable m) :
    Double.lt (Double.lit 0) m.windowSeconds = true := by
  induction h with
  | default => exact DoubleElapsed.zero_lt_lit (by norm_num)
  | configureRateLimit _ rpcLimit windowSeconds warnCooldown =>
    have hmin : Double.lt (Double.lit 0 : D) (Double.lit 0.01) = true :=
      DoubleElapsed.zero_lt_lit (by norm_num)
    show Double.lt _ (Double.max (Double.lit 0.01) windowSeconds) = true
    rw [Double.max]
    split
    · next hlt => exact DoubleElapsed.lt_trans hmin hlt
    · exact hmin
  | send _ callbacks now isReady localClientNo deviceId targetClientNos functionName arguments w
      ih =>
    rw [RpcManager.send]
    split
    · exact ih
    · rw [← trySendNow_windowSeconds callbacks now localClientNo deviceId targetClientNos
        functionName arguments _ w] at ih
      exact ih
  | flushPending _ callbacks now isReady localClientNo deviceId w ih =>
    rw [RpcManager.flushPending]
    split
    · exact ih
    · rwa [flushLoop_windowSeconds]
  | clearPending _ ih => exact ih

end Reachable

/-! ### One attempt -/

/-- The times kept by the limiter that lie inside the window that ends now. -/
def hitsInWindow (now : D) (m : RpcManager D) : List D :=
  m.rateHits.filter fun hit ↦ !Double.lt m.windowSeconds (now - hit)

/-- The limiter forgets only what has left the window. -/
theorem filter_dropWhile_not {α : Type} (p : α → Bool) (l : List α) :
    (l.dropWhile p).filter (fun a ↦ !p a) = l.filter fun a ↦ !p a := by
  induction l with
  | nil => rfl
  | cons a l ih =>
    by_cases hp : p a = true
    · rw [List.dropWhile_cons_of_pos hp, ih, List.filter_cons_of_neg (by simp [hp])]
    · rw [List.dropWhile_cons_of_neg hp]

/-- Refused or unlimited, an attempt leaves the window as it was. -/
theorem hitsInWindow_of_free {now : D} {m : RpcManager D}
    (h : m.rpcLimit ≤ 0 ∨ (m.tryConsumeQuota now).1.granted = false) :
    hitsInWindow now (m.tryConsumeQuota now).2 = hitsInWindow now m := by
  rw [tryConsumeQuota] at h ⊢
  split
  · rfl
  next hlimit =>
  rw [if_neg hlimit] at h
  dsimp only at h ⊢
  split
  · exact filter_dropWhile_not _ _
  · next hroom =>
    rw [if_neg hroom] at h
    exact absurd (h.resolve_left hlimit) (by simp)

/-- Granted quota is one more time inside the window. -/
theorem hitsInWindow_of_granted [DoubleElapsed D] {now : D} {m : RpcManager D}
    (hwindow : Double.lt (Double.lit 0) m.windowSeconds = true) (hlimit : ¬m.rpcLimit ≤ 0)
    (hgranted : (m.tryConsumeQuota now).1.granted = true) :
    hitsInWindow now (m.tryConsumeQuota now).2 = hitsInWindow now m ++ [now] := by
  rw [tryConsumeQuota, if_neg hlimit] at hgranted ⊢
  dsimp only at hgranted ⊢
  split at hgranted
  · simp at hgranted
  next hroom =>
  rw [if_neg hroom, hitsInWindow, hitsInWindow, List.filter_append, filter_dropWhile_not,
    List.filter_cons_of_pos (by simp [DoubleElapsed.not_lt_sub_self hwindow]), List.filter_nil]

/-- An attempt leaves in the window what asking for quota leaves there. -/
theorem hitsInWindow_trySendNow [DoubleText D] {ω : Type} {callbacks : Callbacks ω} {now : D}
    {localClientNo : ℤ} {deviceId : Bytes} {targetClientNos : List ℤ} {functionName : Bytes}
    {arguments : List Bytes} {m m' : RpcManager D} {w w' : ω} {ok : Bool}
    (h : m.trySendNow callbacks now localClientNo deviceId targetClientNos functionName arguments
      w = (ok, m', w')) :
    hitsInWindow now m' = hitsInWindow now (m.tryConsumeQuota now).2 := by
  cases hgranted : (m.tryConsumeQuota now).1.granted with
  | false =>
    obtain ⟨lastWarnAt, w₁, -, hrefused⟩ := trySendNow_of_refused hgranted callbacks localClientNo
      deviceId targetClientNos functionName arguments w
    obtain ⟨-, rfl, -⟩ := Prod.mk.inj (h.symm.trans hrefused)
    rfl
  | true =>
    obtain ⟨ok, w₁, hspent, -⟩ := trySendNow_of_granted hgranted callbacks localClientNo deviceId
      targetClientNos functionName arguments w
    obtain ⟨-, rfl, -⟩ := Prod.mk.inj (h.symm.trans hspent)
    rfl

/-! ### One flush -/

/-- With a limit in force, the flush reaches a call that gets quota and cannot be sent: the calls
before it, `i` of them, are all sent. -/
def WastesQuota (now : D) (live : List (PendingRpc D)) (room : ℕ) (answers : List Bool)
    (m : RpcManager D) : Prop :=
  0 < m.rpcLimit ∧ ∃ i < room, ∃ entry, live[i]? = some entry ∧
    (∀ earlier ∈ live.take i, TargetsFit earlier.targetClientNos) ∧
    answers.take i = List.replicate i true ∧ m.grantsAfter now i = true ∧
    ¬(TargetsFit entry.targetClientNos ∧ answers[i]? = some true)

/-- A call that gets quota succeeds, and the flush goes on without waste. -/
theorem succeeds_of_not_wastes {now : D} {head : PendingRpc D} {live : List (PendingRpc D)}
    {room : ℕ} {answers : List Bool} {m : RpcManager D}
    (h : ¬WastesQuota now (head :: live) (room + 1) answers m) (hlimit : 0 < m.rpcLimit)
    (hgranted : (m.tryConsumeQuota now).1.granted = true) :
    Succeeds now head.targetClientNos answers m := by
  by_contra hfails
  refine h ⟨hlimit, 0, by omega, head, rfl, by simp, by simp, hgranted, fun hfit ↦ ?_⟩
  exact hfails ⟨hgranted, hfit.1, by rw [List.head?_eq_getElem?]; exact hfit.2⟩

theorem not_wastes_tail {now : D} {head : PendingRpc D} {live : List (PendingRpc D)} {room : ℕ}
    {answers : List Bool} {m : RpcManager D}
    (h : ¬WastesQuota now (head :: live) (room + 1) answers m)
    (hsucceeds : Succeeds now head.targetClientNos answers m) :
    ¬WastesQuota now live room answers.tail (m.tryConsumeQuota now).2 := by
  rintro ⟨hlimit, i, hi, entry, hentry, hfits, hanswers, hgranted, hfails⟩
  obtain ⟨-, hfit, hanswer⟩ := hsucceeds
  rcases answers with - | ⟨answer, rest⟩
  · simp at hanswer
  obtain rfl : answer = true := by simpa using hanswer
  rw [tryConsumeQuota_rpcLimit] at hlimit
  refine h ⟨hlimit, i + 1, by omega, entry, by simpa using hentry, ?_, ?_, hgranted, ?_⟩
  · rw [List.take_succ_cons, List.forall_mem_cons]
    exact ⟨hfit, hfits⟩
  · rw [List.take_succ_cons, List.replicate_succ]
    exact congrArg _ hanswers
  · simpa using hfails

/-- The limiter keeps what it kept, and the present time if it grants quota. -/
theorem rateHits_tryConsumeQuota (now : D) (m : RpcManager D) :
    (m.tryConsumeQuota now).2.rateHits.Sublist (m.rateHits ++ [now]) ∧
      (m.rpcLimit ≤ 0 ∨ (m.tryConsumeQuota now).1.granted = false →
        (m.tryConsumeQuota now).2.rateHits.Sublist m.rateHits) := by
  rw [tryConsumeQuota]
  split
  · exact ⟨List.sublist_append_left _ _, fun _ ↦ List.Sublist.refl _⟩
  next hlimit =>
  have hkept : (m.rateHits.dropWhile fun hit ↦ Double.lt m.windowSeconds (now - hit)).Sublist
      m.rateHits := (List.dropWhile_suffix _).sublist
  dsimp only
  split
  · exact ⟨hkept.trans (List.sublist_append_left _ _), fun _ ↦ hkept⟩
  · exact ⟨hkept.append (List.Sublist.refl _), fun h ↦ absurd (h.resolve_left hlimit) (by simp)⟩

variable [DoubleText D]

/-- Without waste, the limiter keeps the times of accepted calls only. -/
theorem flushLoop_spent (now : D) (localClientNo : ℤ) (deviceId : Bytes)
    (queue : List (PendingRpc D)) (sent : ℕ) (m : RpcManager D) (r : SendRecord)
    (hspent : ¬WastesQuota now (queue.filter (live now)) (kMaxFlushPerTick - sent) r.answers m) :
    ∃ ok m' r' count, flushLoop SendRecord.callbacks now localClientNo deviceId queue sent m r =
        (ok, m', r') ∧
      r'.acceptedMessages.length = r.acceptedMessages.length + count ∧
      ∀ acceptedAt, m.rateHits.Sublist acceptedAt →
        m'.rateHits.Sublist (acceptedAt ++ List.replicate count now) := by
  induction queue generalizing sent m r with
  | nil => exact ⟨_, _, _, 0, rfl, rfl, fun acceptedAt h ↦ by simpa using h⟩
  | cons head rest ih =>
    rw [flushLoop]
    split
    · exact ⟨_, _, _, 0, rfl, rfl, fun acceptedAt h ↦ by simpa using h⟩
    next hroom =>
    obtain ⟨room, hroom⟩ : ∃ room, kMaxFlushPerTick - sent = room + 1 :=
      Nat.exists_eq_succ_of_ne_zero (by omega)
    have hnext : kMaxFlushPerTick - (sent + 1) = room := by omega
    split
    · next hexpired =>
      rw [List.filter_cons_of_neg (by simp [live, hexpired])] at hspent
      refine ih sent { m with droppedExpired := m.droppedExpired + 1 } r fun hwaste ↦ hspent ?_
      obtain ⟨hlimit, i, hi, entry, hentry, hfits, hanswers, hgranted, hfails⟩ := hwaste
      refine ⟨hlimit, i, hi, entry, hentry, hfits, hanswers, Eq.trans ?_ hgranted, hfails⟩
      exact grantsAfter_congr i rfl rfl rfl
    · next hlive =>
      rw [List.filter_cons_of_pos (by simp [live, hlive]), hroom] at hspent
      obtain ⟨hkept, hfree⟩ := rateHits_tryConsumeQuota now m
      by_cases hsucceeds : Succeeds now head.targetClientNos r.answers m
      · obtain ⟨r', hcall, hanswers⟩ := trySendNow_of_succeeds hsucceeds localClientNo deviceId
          head.functionName head.arguments
        have haccepted := acceptedMessages_of_trySendNow hcall
        have htail := not_wastes_tail hspent hsucceeds
        rw [← hanswers, ← hnext] at htail
        obtain ⟨ok, m', r'', count, hloop, hcount, hhits⟩ :=
          ih (sent + 1) (m.tryConsumeQuota now).2 r' htail
        rw [hcall]
        refine ⟨ok, m', r'', 1 + count, hloop, ?_, fun acceptedAt h ↦ ?_⟩
        · rw [hcount, haccepted, if_pos rfl, List.length_append, List.length_singleton,
            Nat.add_assoc]
        · have hlast := hhits _ (hkept.trans (h.append (List.Sublist.refl [now])))
          rwa [List.append_assoc, ← List.replicate_one, List.replicate_append_replicate] at hlast
      · -- the flush ends here, and this attempt was free
        have hcost : m.rpcLimit ≤ 0 ∨ (m.tryConsumeQuota now).1.granted = false := by
          by_contra hcost
          rw [not_or, not_le, Bool.not_eq_false] at hcost
          exact hsucceeds (succeeds_of_not_wastes hspent hcost.1 hcost.2)
        obtain ⟨m', r', hcall, hhits, -⟩ := trySendNow_of_not_succeeds hsucceeds localClientNo
          deviceId head.functionName head.arguments
        have haccepted := acceptedMessages_of_trySendNow hcall
        rw [hcall]
        refine ⟨_, _, _, 0, rfl, ?_, fun acceptedAt h ↦ ?_⟩
        · simpa using congrArg List.length haccepted
        · rw [List.replicate_zero, List.append_nil]
          show m'.rateHits.Sublist acceptedAt
          rw [hhits]
          exact (hfree hcost).trans h

end RpcManager

/-! ### Runs -/

namespace QuotaRun

open RpcManager (live Succeeds WastesQuota hitsInWindow)

variable {D : Type} [Double D]

/-- With a limit in force, every attempt of the step that gets quota succeeds. -/
def SpendsWell (s : QuotaRun D) : RpcStep D → Prop
  | .send now isReady _ _ call =>
    isReady = true → s.manager.rpcLimit ≤ 0 ∨ (s.manager.tryConsumeQuota now).1.granted = false ∨
      Succeeds now call.targetClientNos s.record.answers s.manager
  | .flushPending now isReady _ _ =>
    isReady = true → ¬WastesQuota now (s.manager.pending.filter (live now)) kMaxFlushPerTick
      s.record.answers s.manager
  | .configureRateLimit _ _ _ => True

variable [DoubleText D]

/-- The times kept by the limiter are times of accepted payloads, each used once. -/
def HitsAccepted (s : QuotaRun D) : Prop := s.manager.rateHits.Sublist s.acceptedAt

theorem HitsAccepted.step {s : QuotaRun D} (h : HitsAccepted s) {e : RpcStep D}
    (hwell : SpendsWell s e) : HitsAccepted (s.step e) := by
  rw [HitsAccepted] at h ⊢
  cases e with
  | send now isReady localClientNo deviceId call =>
    rw [QuotaRun.step, RpcManager.send]
    cases isReady with
    | false =>
      simpa only [Bool.not_false, if_true, RpcManager.dropOverflow_eq, after, Nat.sub_self,
        List.replicate_zero, List.append_nil] using h
    | true =>
      obtain ⟨hkept, hfree⟩ := RpcManager.rateHits_tryConsumeQuota now s.manager
      simp only [Bool.not_true, Bool.false_eq_true, if_false]
      by_cases hsucceeds : Succeeds now call.targetClientNos s.record.answers s.manager
      · obtain ⟨r', hcall, -⟩ := RpcManager.trySendNow_of_succeeds hsucceeds localClientNo deviceId
          call.functionName call.arguments
        have haccepted := RpcManager.acceptedMessages_of_trySendNow hcall
        simp only [hcall, after, haccepted, if_true, List.length_append, List.length_singleton,
          Nat.add_sub_cancel_left]
        exact hkept.trans (h.append (List.Sublist.refl _))
      · have hcost := (or_assoc.mpr (hwell rfl)).resolve_right hsucceeds
        obtain ⟨m', r', hcall, hhits, -⟩ := RpcManager.trySendNow_of_not_succeeds hsucceeds
          localClientNo deviceId call.functionName call.arguments
        simp only [hcall, after, hhits]
        exact ((hfree hcost).trans h).trans (List.sublist_append_left _ _)
  | flushPending now isReady localClientNo deviceId =>
    rw [QuotaRun.step, RpcManager.flushPending]
    cases isReady with
    | false => simpa [after] using h
    | true =>
      obtain ⟨ok, m', r', count, hloop, hcount, hhits⟩ := RpcManager.flushLoop_spent now
        localClientNo deviceId s.manager.pending 0 s.manager s.record (hwell rfl)
      simp only [Bool.not_true, Bool.false_eq_true, if_false, hloop, after, hcount,
        Nat.add_sub_cancel_left]
      exact hhits _ h
  | configureRateLimit rpcLimit windowSeconds warnCooldown => exact h

variable [DoubleElapsed D]

/-- **When a failed attempt costs nothing.** From every reachable manager, an attempt that returns
false leaves the hits inside the window as they were exactly if no limit is in force or it was the
limiter that refused. And in a run in which every attempt that gets quota succeeds, the limiter
keeps the times of accepted payloads only. -/
theorem failed_attempt_free_iff :
    (∀ (m : RpcManager D), m.Reachable → ∀ {ω : Type} (callbacks : Callbacks ω) (now : D)
      (localClientNo : ℤ) (deviceId : Bytes) (targetClientNos : List ℤ) (functionName : Bytes)
      (arguments : List Bytes) (w w' : ω) (m' : RpcManager D),
      m.trySendNow callbacks now localClientNo deviceId targetClientNos functionName arguments w =
        (false, m', w') →
      ((hitsInWindow now m' : Multiset D) = hitsInWindow now m ↔
        m.rpcLimit ≤ 0 ∨ (m.tryConsumeQuota now).1.granted = false)) ∧
    ∀ (answers : List Bool) (steps : List (RpcStep D)),
      Along step SpendsWell (start RpcManager.default answers) steps →
      HitsAccepted (run RpcManager.default answers steps) := by
  constructor
  · intro m hreach ω callbacks now localClientNo deviceId targetClientNos functionName arguments w
      w' m' hcall
    rw [RpcManager.hitsInWindow_trySendNow hcall]
    constructor
    · intro hsame
      by_contra hcost
      rw [not_or, Bool.not_eq_false] at hcost
      rw [RpcManager.hitsInWindow_of_granted hreach.window_pos hcost.1 hcost.2] at hsame
      -- one more hit is not the same hits
      have hcard := congrArg Multiset.card hsame
      simp at hcard
    · intro hfree
      rw [RpcManager.hitsInWindow_of_free hfree]
  · intro answers steps h
    exact Along.invariant (fun _ _ hs hwell ↦ HitsAccepted.step hs hwell) h List.Sublist.slnil

/-- One call a second is allowed, and one was sent at time zero. -/
def usedUp : RpcManager ℚ :=
  ((RpcManager.default.configureRateLimit 1 1 0).send SendRecord.callbacks 0 true 1 [100] [] [97] []
    { answers := [true] }).1

/-- A second call half a second later is refused and costs nothing. -/
theorem failed_attempt_free_refused :
    (hitsInWindow (1 / 2) (usedUp.trySendNow SendRecord.callbacks (1 / 2) 1 [100] [] [98] []
      { answers := [true] }).2.1 : Multiset ℚ) = hitsInWindow (1 / 2) usedUp ∧
    HitsAccepted (run (RpcManager.default : RpcManager ℚ) [true]
      [.send 0 true 1 [100] (RpcRun.callOf 97)]) := by
  have hreach : usedUp.Reachable := .send (.configureRateLimit .default 1 1 0) _ _ _ _ _ _ _ _ _
  have hfails : (usedUp.trySendNow SendRecord.callbacks (1 / 2) 1 [100] [] [98] []
      { answers := [true] }).1 = false := by decide +kernel
  constructor
  · rcases hcall : usedUp.trySendNow SendRecord.callbacks (1 / 2) 1 [100] [] [98] []
      { answers := [true] } with ⟨ok, m', r'⟩
    rw [hcall] at hfails
    obtain rfl : ok = false := hfails
    exact (failed_attempt_free_iff.1 usedUp hreach _ _ _ _ _ _ _ _ _ _ hcall).mpr
      (.inr (by decide +kernel))
  · refine failed_attempt_free_iff.2 [true] _ ⟨fun _ ↦ .inr (.inr ⟨?_, ?_, rfl⟩), trivial⟩
    · decide +kernel
    · decide

/-- A call that the transport refuses uses up the quota, and the next call, which the transport
would take, is refused by the limiter. -/
theorem failed_attempt_charged :
    let m : RpcManager ℚ := RpcManager.default.configureRateLimit 1 1 0
    let failed :=
      m.trySendNow SendRecord.callbacks 0 1 [100] [] [97] [] { answers := [false, true] }
    let next := failed.2.1.trySendNow SendRecord.callbacks (1 / 2) 1 [100] [] [98] [] failed.2.2
    m.Reachable ∧ failed.1 = false ∧ hitsInWindow 0 m = [] ∧ hitsInWindow 0 failed.2.1 = [0] ∧
    (hitsInWindow 0 failed.2.1 : Multiset ℚ) ≠ hitsInWindow 0 m ∧
    next.1 = false ∧ next.2.1.droppedRateLimited = 1 ∧ next.2.2.answers = [true] := by
  intro m failed next
  have hbefore : hitsInWindow 0 m = [] := by decide +kernel
  have hafter : hitsInWindow 0 failed.2.1 = [0] := by decide +kernel
  refine ⟨.configureRateLimit .default 1 1 0, by decide +kernel, hbefore, hafter, ?_,
    by decide +kernel, by decide +kernel, by decide +kernel⟩
  rw [hbefore, hafter]
  simp

end QuotaRun

end StylyNetSync
