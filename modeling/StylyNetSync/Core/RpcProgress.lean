import StylyNetSync.Core.RpcAccounting

/-!
# Progress of the queue

A flush drops the calls that waited too long and sends the others in their order, ten at most. An
attempt answers false both when the call cannot be sent now and when it can never be sent, and the
flush takes either for backpressure. So a call whose targets do not fit the message stays at the
head of the queue, and the calls behind it wait until it has expired.
-/

namespace StylyNetSync

/-- A sender that accepts every message and keeps it. -/
def acceptingCallbacks : Callbacks (List ControlMessage) :=
  ⟨some fun message sent ↦ (true, sent ++ [message]), none⟩

namespace RpcManager

variable {D : Type} [Double D]

/-- The limiter has room for `n` more calls at this time. -/
def HasBudget (now : D) (n : ℕ) (m : RpcManager D) : Prop :=
  m.rpcLimit ≤ 0 ∨
    ((m.rateHits.dropWhile fun hit ↦ Double.lt m.windowSeconds (now - hit)).length + n : ℤ) ≤
      m.rpcLimit

theorem HasBudget.mono {now : D} {n n' : ℕ} {m : RpcManager D} (h : HasBudget now n m)
    (hle : n' ≤ n) : HasBudget now n' m := by
  refine Or.imp_right (fun hroom ↦ ?_) h
  omega

/-- One unit of the budget is spent by one call. -/
theorem HasBudget.spend {now : D} {n : ℕ} {m : RpcManager D} (h : HasBudget now (n + 1) m) :
    (m.tryConsumeQuota now).1.granted = true ∧ HasBudget now n (m.tryConsumeQuota now).2 := by
  rw [tryConsumeQuota]
  split
  · next hlimit => exact ⟨rfl, .inl hlimit⟩
  next hlimit =>
  have hroom := h.resolve_left hlimit
  dsimp only
  rw [if_neg (by omega)]
  refine ⟨rfl, .inr ?_⟩
  have hle (hits : List D) :
      (hits.dropWhile fun hit ↦ Double.lt m.windowSeconds (now - hit)).length ≤ hits.length :=
    (List.dropWhile_suffix _).length_le
  have hnext := hle ((m.rateHits.dropWhile fun hit ↦ Double.lt m.windowSeconds (now - hit)) ++
    [now])
  rw [List.length_append, List.length_singleton] at hnext
  dsimp only
  omega

variable [DoubleText D]

/-- The message of a queued call. -/
def messageOf (localClientNo : ℤ) (deviceId : Bytes) (entry : PendingRpc D) : ControlMessage :=
  .rpc (rpcMessage localClientNo deviceId entry.targetClientNos entry.functionName entry.arguments)

/-- With quota and an accepting sender, a call is sent exactly if its targets fit. -/
theorem trySendNow_accepting {now : D} {m : RpcManager D}
    (hgranted : (m.tryConsumeQuota now).1.granted = true) (localClientNo : ℤ) (deviceId : Bytes)
    (entry : PendingRpc D) (sent : List ControlMessage) :
    m.trySendNow acceptingCallbacks now localClientNo deviceId entry.targetClientNos
        entry.functionName entry.arguments sent =
      if TargetsFit entry.targetClientNos then
        (true, (m.tryConsumeQuota now).2, sent ++ [messageOf localClientNo deviceId entry])
      else (false, (m.tryConsumeQuota now).2, sent) := by
  obtain ⟨ok, sent', hcall, ⟨rfl, hunfit, hlog⟩ | ⟨-, hfit, hsend⟩⟩ := trySendNow_of_granted
    hgranted acceptingCallbacks localClientNo deviceId entry.targetClientNos entry.functionName
    entry.arguments sent
  · rw [hcall, if_neg fun hfit ↦ hunfit ⟨rfl, hfit⟩]
    obtain rfl | ⟨line, rfl⟩ := hlog <;> rfl
  · obtain ⟨rfl, rfl⟩ := Prod.mk.inj hsend
    rw [hcall, if_pos hfit]
    rfl

/-- What a flush with enough budget does to an accepting sender: it takes `k` calls from the front
of the queue, drops the expired ones and sends the others. It ends with the queue, with its budget
per tick, or at a call that can never be sent. -/
structure Flushed (now : D) (localClientNo : ℤ) (deviceId : Bytes) (before after : RpcManager D)
    (queue : List (PendingRpc D)) (sentBefore sentAfter : List ControlMessage) (k : ℕ) : Prop where
  left : after.pending = queue.drop k
  sent : sentAfter = sentBefore ++
    ((queue.take k).filter (live now)).map (messageOf localClientNo deviceId)
  expired : after.droppedExpired =
    before.droppedExpired + ((queue.take k).filter fun entry ↦ !live now entry).length

theorem flushLoop_flushed (now : D) (localClientNo : ℤ) (deviceId : Bytes)
    (queue : List (PendingRpc D)) (n : ℕ) (m : RpcManager D) (sent : List ControlMessage)
    (hbudget : HasBudget now (min (kMaxFlushPerTick - n) (queue.filter (live now)).length) m) :
    ∃ ok m' sent' k, flushLoop acceptingCallbacks now localClientNo deviceId queue n m sent =
        (ok, m', sent') ∧
      Flushed now localClientNo deviceId m m' queue sent sent' k ∧
      (∀ entry ∈ (queue.take k).filter (live now), TargetsFit entry.targetClientNos) ∧
      (queue.drop k = [] ∨ kMaxFlushPerTick ≤ n + ((queue.take k).filter (live now)).length ∨
        n + ((queue.take k).filter (live now)).length < kMaxFlushPerTick ∧
          ∃ head rest, queue.drop k = head :: rest ∧ live now head = true ∧
            ¬TargetsFit head.targetClientNos) := by
  induction queue generalizing n m sent with
  | nil => exact ⟨_, _, _, 0, rfl, ⟨rfl, by simp, rfl⟩, by simp, .inl rfl⟩
  | cons head rest ih =>
    rw [flushLoop]
    split
    · next hfull => exact ⟨_, _, _, 0, rfl, ⟨rfl, by simp, rfl⟩, by simp, .inr (.inl hfull)⟩
    next hroom =>
    split
    · next hexpired =>
      have hdead : live now head = false := by simp [live, hexpired]
      rw [List.filter_cons_of_neg (by simp [hdead])] at hbudget
      obtain ⟨ok, m', sent', k, hloop, hflushed, hfits, hend⟩ :=
        ih n { m with droppedExpired := m.droppedExpired + 1 } sent hbudget
      refine ⟨ok, m', sent', k + 1, hloop, ⟨hflushed.left, ?_, ?_⟩, ?_, ?_⟩
      · rw [hflushed.sent, List.take_succ_cons, List.filter_cons_of_neg (by simp [hdead])]
      · rw [hflushed.expired, List.take_succ_cons, List.filter_cons_of_pos (by simp [hdead]),
          List.length_cons, Nat.add_right_comm, Nat.add_assoc]
      · rwa [List.take_succ_cons, List.filter_cons_of_neg (by simp [hdead])]
      · rwa [List.take_succ_cons, List.filter_cons_of_neg (by simp [hdead]), List.drop_succ_cons]
    · next hunexpired =>
      have hlive : live now head = true := by simp [live, hunexpired]
      rw [List.filter_cons_of_pos hlive, List.length_cons] at hbudget
      have hone : min (kMaxFlushPerTick - (n + 1)) (rest.filter (live now)).length + 1 ≤
          min (kMaxFlushPerTick - n) ((rest.filter (live now)).length + 1) := by omega
      obtain ⟨hgranted, hspent⟩ := (hbudget.mono hone).spend
      rw [trySendNow_accepting hgranted]
      by_cases hfit : TargetsFit head.targetClientNos
      · rw [if_pos hfit]
        obtain ⟨ok, m', sent', k, hloop, hflushed, hfits, hend⟩ := ih (n + 1)
          (m.tryConsumeQuota now).2 (sent ++ [messageOf localClientNo deviceId head]) hspent
        refine ⟨ok, m', sent', k + 1, hloop, ⟨hflushed.left, ?_, ?_⟩, ?_, ?_⟩
        · rw [hflushed.sent, List.take_succ_cons, List.filter_cons_of_pos hlive, List.map_cons,
            List.append_assoc, List.singleton_append]
        · rw [hflushed.expired, List.take_succ_cons, List.filter_cons_of_neg (by simp [hlive]),
            tryConsumeQuota_droppedExpired]
        · rw [List.take_succ_cons, List.filter_cons_of_pos hlive, List.forall_mem_cons]
          exact ⟨hfit, hfits⟩
        · rwa [List.take_succ_cons, List.filter_cons_of_pos hlive, List.drop_succ_cons,
            List.length_cons, ← Nat.add_assoc, Nat.add_right_comm]
      · rw [if_neg hfit]
        refine ⟨_, _, _, 0, rfl, ⟨rfl, by simp, by simp⟩, by simp, .inr (.inr ⟨?_, ?_⟩)⟩
        · simpa using hroom
        · exact ⟨head, rest, rfl, hlive, hfit⟩

/-! ### Progress -/

/-- A flush makes progress: it takes as many unexpired calls from the queue as there are, or ten,
and sends them; and the call that is then at the head, unless the ten were reached before it, has
not expired and can be sent. -/
def Progresses (now : D) (localClientNo : ℤ) (deviceId : Bytes) (m : RpcManager D) : Prop :=
  ∃ ok m' sent k,
    m.flushPending acceptingCallbacks now true localClientNo deviceId [] = (ok, m', sent) ∧
    Flushed now localClientNo deviceId m m' m.pending [] sent k ∧
    min kMaxFlushPerTick (m.pending.filter (live now)).length ≤
      ((m.pending.take k).filter (live now)).length ∧
    ∀ head ∈ m'.pending.head?,
      kMaxFlushPerTick ≤ ((m.pending.take k).filter (live now)).length ∨
        live now head = true ∧ TargetsFit head.targetClientNos

omit [DoubleText D] in
/-- The unexpired calls are those taken from the queue and those left in it. -/
theorem filter_live_split (now : D) (queue : List (PendingRpc D)) (k : ℕ) :
    queue.filter (live now) =
      (queue.take k).filter (live now) ++ (queue.drop k).filter (live now) := by
  rw [← List.filter_append, List.take_append_drop]

/-- **When the queue makes progress.** With a ready client, a transport that accepts everything and
enough room in the limiter, a flush makes progress exactly if none of the unexpired calls it gets to
has targets that do not fit the message. -/
theorem flush_progresses_iff (now : D) (localClientNo : ℤ) (deviceId : Bytes) (m : RpcManager D)
    (hbudget : HasBudget now (min kMaxFlushPerTick (m.pending.filter (live now)).length) m) :
    Progresses now localClientNo deviceId m ↔
      ∀ entry ∈ (m.pending.filter (live now)).take kMaxFlushPerTick,
        TargetsFit entry.targetClientNos := by
  obtain ⟨ok, m', sent, k, hloop, hflushed, hfits, hend⟩ := flushLoop_flushed now localClientNo
    deviceId m.pending 0 m [] hbudget
  simp only [Nat.zero_add] at hend
  have hflush : m.flushPending acceptingCallbacks now true localClientNo deviceId [] =
      (ok, m', sent) := by
    rw [flushPending, if_neg (by simp), hloop]
  have hsplit := filter_live_split now m.pending k
  constructor
  · rintro ⟨ok₁, m₁, sent₁, k₁, hflush₁, hflushed₁, henough, -⟩
    -- the same calls have left the queue
    obtain ⟨-, rfl, -⟩ := Prod.mk.inj (hflush.symm.trans hflush₁) |>.imp_right Prod.mk.inj
    have hdrop : m.pending.drop k = m.pending.drop k₁ := hflushed.left.symm.trans hflushed₁.left
    have htake : m.pending.take k = m.pending.take k₁ := by
      have hboth :
          m.pending.take k ++ m.pending.drop k = m.pending.take k₁ ++ m.pending.drop k := by
        rw [List.take_append_drop, hdrop, List.take_append_drop]
      exact List.append_cancel_right hboth
    rw [← htake, hsplit, List.length_append] at henough
    intro entry hentry
    rw [hsplit] at hentry
    obtain hempty | hfull | ⟨hroom, head, rest, hstuck, hlive, -⟩ := hend
    · rw [hempty, List.filter_nil, List.append_nil] at hentry
      exact hfits entry (List.mem_of_mem_take hentry)
    · rw [List.take_append_of_le_length hfull] at hentry
      exact hfits entry (List.mem_of_mem_take hentry)
    · rw [hstuck, List.filter_cons_of_pos hlive, List.length_cons] at henough
      omega
  · intro hall
    -- the flush did not end at a call that can never be sent
    have hdone : m.pending.drop k = [] ∨
        kMaxFlushPerTick ≤ ((m.pending.take k).filter (live now)).length := by
      obtain hempty | hfull | ⟨hroom, head, rest, hstuck, hlive, hunfit⟩ := hend
      · exact .inl hempty
      · exact .inr hfull
      · refine absurd (hall head ?_) hunfit
        obtain ⟨room, hnext⟩ : ∃ room,
            kMaxFlushPerTick - ((m.pending.take k).filter (live now)).length = room + 1 :=
          Nat.exists_eq_succ_of_ne_zero (by omega)
        rw [hsplit, hstuck, List.filter_cons_of_pos hlive, List.take_append, hnext,
          List.take_succ_cons]
        exact List.mem_append_right _ List.mem_cons_self
    refine ⟨ok, m', sent, k, hflush, hflushed, ?_, fun head hhead ↦ ?_⟩
    · obtain hempty | hfull := hdone
      · rw [hsplit, hempty, List.filter_nil, List.append_nil]
        exact Nat.min_le_right _ _
      · exact (Nat.min_le_left _ _).trans hfull
    · obtain hempty | hfull := hdone
      · rw [hflushed.left, hempty] at hhead
        simp at hhead
      · exact .inl hfull

/-- A manager with these calls in its queue. -/
def withPending (pending : List (PendingRpc ℚ)) : RpcManager ℚ :=
  { default with pending := pending }

/-- A flush drops the first of two queued calls, which has expired, and sends the second. -/
theorem flush_progresses_past_expired :
    Progresses 6 1 [100] (withPending [⟨[97], [], [], 0⟩, ⟨[98], [], [3], 4⟩]) :=
  (flush_progresses_iff 6 1 [100] _ (.inr (by decide +kernel))).mpr (by decide +kernel)

/-- A queued call to client 70000 keeps the call behind it from being sent. -/
theorem flush_held_up :
    let m := withPending [⟨[97], [], [70000], 0⟩, ⟨[98], [], [3], 0⟩]
    HasBudget 1 2 m ∧
    m.pending.map (live 1) = [true, true] ∧
    (m.flushPending acceptingCallbacks 1 true 1 [100] []).2.1.pending.map
      PendingRpc.functionName = [[97], [98]] ∧
    (m.flushPending acceptingCallbacks 1 true 1 [100] []).2.2 = [] ∧
    ¬Progresses 1 1 [100] m := by
  intro m
  have hkept : (m.flushPending acceptingCallbacks 1 true 1 [100] []).2.1.pending.length = 2 := by
    decide +kernel
  refine ⟨.inr (by decide +kernel), by decide +kernel, by decide +kernel, by decide +kernel, ?_⟩
  rintro ⟨ok, m', sent, k, hflush, hflushed, henough, -⟩
  rw [hflush, hflushed.left, List.length_drop] at hkept
  obtain rfl : k = 0 := by
    have hlength : m.pending.length = 2 := rfl
    omega
  exact absurd henough (by decide +kernel)

end RpcManager

end StylyNetSync
