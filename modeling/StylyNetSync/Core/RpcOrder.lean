import Mathlib.Data.List.Forall2
import StylyNetSync.Core.RpcManager
import StylyNetSync.Core.SendRecord
import StylyNetSync.Foundation.Run

/-!
# The order in which calls leave

Calls are numbered as they are submitted. A call reaches the wire on one of two paths: at once when
the client is ready, or from the queue in a later flush. The queue is first in, first out, but the
direct path does not look at it, so a call made while the client is ready overtakes everything that
is still queued. A run keeps its numbers along with the state of the manager, and the invariant is
that the numbers accepted so far, followed by those in the queue, are increasing.
-/

namespace StylyNetSync

/-- What the host asks for. -/
structure RpcCall where
  functionName : Bytes
  arguments : List Bytes
  targetClientNos : List ℤ

/-- The message is one of this call. -/
def RpcCall.CarriedBy (call : RpcCall) (message : ControlMessage) : Prop :=
  ∃ localClientNo deviceId, message = .rpc (RpcManager.rpcMessage localClientNo deviceId
    call.targetClientNos call.functionName call.arguments)

def PendingRpc.call {D : Type} (entry : PendingRpc D) : RpcCall :=
  ⟨entry.functionName, entry.arguments, entry.targetClientNos⟩

/-- The messages that the sender accepted. -/
def SendRecord.acceptedMessages (r : SendRecord) : List ControlMessage :=
  (r.handed.filter Prod.snd).map Prod.fst

namespace RpcManager

variable {D : Type} [Double D]

/-- A queued call that a flush at this time does not drop. -/
def live (now : D) (entry : PendingRpc D) : Bool :=
  !Double.lt kRpcTtlSeconds (now - entry.enqueuedAt)

/-! ### What the two paths do -/

omit [Double D] in
/-- Only the oldest calls are dropped from a queue that is too long. -/
theorem dropOverflow_spec (queue : List (PendingRpc D)) (dropped : ℕ) (r : SendRecord) :
    ∃ k ≤ queue.length, ∃ dropped',
      dropOverflow SendRecord.callbacks queue dropped r = (queue.drop k, dropped', r) := by
  induction queue generalizing dropped with
  | nil => exact ⟨0, Nat.le_refl 0, dropped, rfl⟩
  | cons oldest rest ih =>
    rw [dropOverflow]
    split
    · obtain ⟨k, hk, dropped', hdrop⟩ := ih (dropped + 1)
      exact ⟨k + 1, Nat.succ_le_succ hk, dropped', hdrop⟩
    · exact ⟨0, Nat.zero_le _, dropped, rfl⟩

variable [DoubleText D]

/-- Sending at once hands over this call or nothing, and the answer is the result. -/
theorem acceptedMessages_of_trySendNow {now : D} {localClientNo : ℤ} {deviceId : Bytes}
    {targetClientNos : List ℤ} {functionName : Bytes} {arguments : List Bytes}
    {m m' : RpcManager D} {r r' : SendRecord} {ok : Bool}
    (h : m.trySendNow SendRecord.callbacks now localClientNo deviceId targetClientNos functionName
      arguments r = (ok, m', r')) :
    r'.acceptedMessages = r.acceptedMessages ++
      (if ok then
        [.rpc (rpcMessage localClientNo deviceId targetClientNos functionName arguments)]
      else []) := by
  obtain ⟨-, ⟨rfl, rfl | ⟨line, rfl⟩⟩ | ⟨-, -, -, hsend⟩⟩ := trySendNow_cases h
  · exact (List.append_nil _).symm
  · exact (List.append_nil _).symm
  · rw [SendRecord.acceptedMessages, SendRecord.handed_of_trySend hsend, List.filter_append,
      List.map_append, ← SendRecord.acceptedMessages]
    cases ok <;> rfl

/-- A flush takes calls from the front of the queue: the expired ones are dropped and the others are
accepted, in their order. -/
theorem flushLoop_spec (now : D) (localClientNo : ℤ) (deviceId : Bytes)
    (queue : List (PendingRpc D)) (sent : ℕ) (m : RpcManager D) (r : SendRecord) :
    ∃ k ≤ queue.length,
      (flushLoop SendRecord.callbacks now localClientNo deviceId queue sent m r).2.1.pending =
        queue.drop k ∧
      (flushLoop SendRecord.callbacks now localClientNo deviceId queue sent m
          r).2.2.acceptedMessages =
        r.acceptedMessages ++ ((queue.take k).filter (live now)).map fun entry ↦
          .rpc (rpcMessage localClientNo deviceId entry.targetClientNos entry.functionName
            entry.arguments) := by
  induction queue generalizing sent m r with
  | nil => exact ⟨0, Nat.le_refl 0, rfl, (List.append_nil _).symm⟩
  | cons head rest ih =>
    rw [flushLoop]
    split
    · exact ⟨0, Nat.zero_le _, rfl, (List.append_nil _).symm⟩
    split
    · next hexpired =>
      obtain ⟨k, hk, hpending, haccepted⟩ :=
        ih sent { m with droppedExpired := m.droppedExpired + 1 } r
      refine ⟨k + 1, Nat.succ_le_succ hk, hpending, haccepted.trans ?_⟩
      rw [List.take_succ_cons, List.filter_cons_of_neg (by simp [live, hexpired])]
    · next hlive =>
      split
      · next m' r' hsend =>
        obtain ⟨k, hk, hpending, haccepted⟩ := ih (sent + 1) m' r'
        refine ⟨k + 1, Nat.succ_le_succ hk, hpending, haccepted.trans ?_⟩
        rw [acceptedMessages_of_trySendNow hsend, List.take_succ_cons,
          List.filter_cons_of_pos (by simp [live, hlive]), List.map_cons, if_pos rfl,
          List.append_assoc, List.singleton_append]
      · next m' r' hsend =>
        refine ⟨0, Nat.zero_le _, rfl, ?_⟩
        rw [acceptedMessages_of_trySendNow hsend]
        rfl

end RpcManager

/-! ### Runs -/

inductive RpcStep (D : Type)
  | send (now : D) (isReady : Bool) (localClientNo : ℤ) (deviceId : Bytes) (call : RpcCall)
  | flushPending (now : D) (isReady : Bool) (localClientNo : ℤ) (deviceId : Bytes)
  | configureRateLimit (rpcLimit : ℤ) (windowSeconds warnCooldown : D)

/-- A manager under observation. The calls are numbered from zero in the order of submission;
`queue` is the queue of the manager with the number of each call, and `accepted` are the numbers of
the calls the sender took. -/
structure RpcRun (D : Type) where
  manager : RpcManager D
  record : SendRecord
  calls : List RpcCall := []
  queue : List (ℕ × PendingRpc D) := []
  accepted : List ℕ := []

namespace RpcRun

section Invariant

variable {D : Type} {s : RpcRun D}

/-- The message accepted under this number is one of the call that has it. -/
def Matches (calls : List RpcCall) (message : ControlMessage) (id : ℕ) : Prop :=
  ∃ call, calls[id]? = some call ∧ call.CarriedBy message

theorem Matches.append {calls : List RpcCall} {message : ControlMessage} {id : ℕ}
    (h : Matches calls message id) (more : List RpcCall) : Matches (calls ++ more) message id := by
  obtain ⟨call, hcall, hcarried⟩ := h
  have hlt := (List.getElem?_eq_some_iff.mp hcall).1
  exact ⟨call, by rw [List.getElem?_append_left hlt, hcall], hcarried⟩

/-- The accepted messages are those of the accepted numbers, and these increase: what was accepted
is a subsequence of what was submitted. -/
structure InOrder (s : RpcRun D) : Prop where
  messages : List.Forall₂ (Matches s.calls) s.record.acceptedMessages s.accepted
  increasing : s.accepted.Pairwise (· < ·)

/-- The invariant: the numbers in the queue go on where the accepted ones end. -/
structure Inv (s : RpcRun D) : Prop where
  pending_eq : s.manager.pending = s.queue.map Prod.snd
  queue_calls : ∀ entry ∈ s.queue, s.calls[entry.1]? = some entry.2.call
  messages : List.Forall₂ (Matches s.calls) s.record.acceptedMessages s.accepted
  increasing : (s.accepted ++ s.queue.map Prod.fst).Pairwise (· < ·)

theorem Inv.inOrder (h : Inv s) : InOrder s where
  messages := h.messages
  increasing := (List.pairwise_append.mp h.increasing).1

/-- Every number in use is one of a call that was made. -/
theorem Inv.lt_length (h : Inv s) {id : ℕ} (hid : id ∈ s.accepted ++ s.queue.map Prod.fst) :
    id < s.calls.length := by
  have hcall : ∃ call, s.calls[id]? = some call := by
    rcases List.mem_append.mp hid with haccepted | hqueued
    · obtain ⟨i, hi, rfl⟩ := List.mem_iff_getElem.mp haccepted
      have hlen := h.messages.length_eq
      obtain ⟨call, hcall, -⟩ := h.messages.get (by omega) hi
      exact ⟨call, hcall⟩
    · obtain ⟨entry, hentry, rfl⟩ := List.mem_map.mp hqueued
      exact ⟨_, h.queue_calls entry hentry⟩
  obtain ⟨call, hcall⟩ := hcall
  exact (List.getElem?_eq_some_iff.mp hcall).1

/-- A new number may follow all those in use. -/
theorem Inv.increasing_concat (h : Inv s) :
    (s.accepted ++ s.queue.map Prod.fst ++ [s.calls.length]).Pairwise (· < ·) := by
  refine List.pairwise_append.mpr ⟨h.increasing, List.pairwise_singleton _ _, ?_⟩
  intro id hid next hnext
  rw [List.mem_singleton.mp hnext]
  exact h.lt_length hid

end Invariant

variable {D : Type} [Double D] [DoubleText D]

open RpcManager (live)

def step (s : RpcRun D) : RpcStep D → RpcRun D
  | .send now isReady localClientNo deviceId call =>
    match s.manager.send SendRecord.callbacks now isReady localClientNo deviceId
      call.targetClientNos call.functionName call.arguments s.record with
    | (manager, record) =>
      let entry : PendingRpc D := ⟨call.functionName, call.arguments, call.targetClientNos, now⟩
      let queue := s.queue ++ [(s.calls.length, entry)]
      { manager := manager
        record := record
        calls := s.calls ++ [call]
        -- a call that is not sent at once is queued behind the others; overflow drops the oldest
        queue := if isReady then s.queue else queue.drop (queue.length - manager.pending.length)
        accepted :=
          if record.acceptedMessages.length = s.record.acceptedMessages.length then s.accepted
          else s.accepted ++ [s.calls.length] }
  | .flushPending now isReady localClientNo deviceId =>
    match s.manager.flushPending SendRecord.callbacks now isReady localClientNo deviceId
      s.record with
    | (_, manager, record) =>
      -- what has left the queue has expired or was accepted
      let left := s.queue.length - manager.pending.length
      { s with
        manager := manager
        record := record
        queue := s.queue.drop left
        accepted :=
          s.accepted ++ ((s.queue.take left).filter fun entry ↦ live now entry.2).map Prod.fst }
  | .configureRateLimit rpcLimit windowSeconds warnCooldown =>
    { s with manager := s.manager.configureRateLimit rpcLimit windowSeconds warnCooldown }

/-- A new manager and a sender with these answers. -/
def start (answers : List Bool) : RpcRun D where
  manager := RpcManager.default
  record := { answers := answers }

def run (answers : List Bool) (steps : List (RpcStep D)) : RpcRun D :=
  steps.foldl step (start answers)

/-- A call made while the client is ready would be accepted although others are queued: the quota is
there, the targets fit and the sender has room. -/
def Overtakes (s : RpcRun D) : RpcStep D → Prop
  | .send now isReady _ _ call =>
    isReady = true ∧ s.manager.pending ≠ [] ∧ (s.manager.tryConsumeQuota now).1.granted = true ∧
      (∀ target ∈ call.targetClientNos, 0 ≤ target ∧ target ≤ 65535) ∧
      call.targetClientNos.length ≤ 255 ∧ s.record.answers.head? = some true
  | _ => False

/-! ### Steps keep the invariant -/

namespace Inv

variable {s : RpcRun D}

theorem send_queued (h : Inv s) (now : D) (localClientNo : ℤ) (deviceId : Bytes) (call : RpcCall) :
    Inv (s.step (.send now false localClientNo deviceId call)) := by
  let entry : PendingRpc D := ⟨call.functionName, call.arguments, call.targetClientNos, now⟩
  let queue := s.queue ++ [(s.calls.length, entry)]
  have hqueue : s.manager.pending ++ [entry] = queue.map Prod.snd := by
    rw [List.map_append, ← h.pending_eq]
    rfl
  obtain ⟨k, hk, dropped, hdrop⟩ := RpcManager.dropOverflow_spec (queue.map Prod.snd)
    s.manager.droppedOverflow s.record
  rw [List.length_map] at hk
  have hsend : s.manager.send SendRecord.callbacks now false localClientNo deviceId
      call.targetClientNos call.functionName call.arguments s.record =
      ({ s.manager with pending := (queue.map Prod.snd).drop k, droppedOverflow := dropped },
        s.record) := by
    rw [RpcManager.send, if_pos (by decide), hqueue, hdrop]
  have hdropped : queue.length - ((queue.map Prod.snd).drop k).length = k := by
    rw [List.length_drop, List.length_map]
    omega
  have hcalls : ∀ e ∈ queue, (s.calls ++ [call])[e.1]? = some e.2.call := by
    intro e he
    rcases List.mem_append.mp he with hold | hnew
    · have hcall := h.queue_calls e hold
      rw [List.getElem?_append_left (List.getElem?_eq_some_iff.mp hcall).1, hcall]
    · rw [List.mem_singleton.mp hnew]
      exact List.getElem?_concat_length
  rw [step, hsend]
  simp only [Bool.false_eq_true, if_false, if_true]
  rw [hdropped]
  refine ⟨List.map_drop.symm, fun e he ↦ hcalls e (List.mem_of_mem_drop he), ?_, ?_⟩
  · exact h.messages.imp fun _ _ hmatch ↦ hmatch.append [call]
  · -- the queue has grown by the newest number and lost some of the oldest
    refine List.Pairwise.sublist ?_ h.increasing_concat
    have hids : queue.map Prod.fst = s.queue.map Prod.fst ++ [s.calls.length] := List.map_append
    rw [List.append_assoc, ← hids]
    exact (List.Sublist.refl _).append ((List.drop_sublist k queue).map _)

theorem send_now (h : Inv s) {now : D} {localClientNo : ℤ} {deviceId : Bytes} {call : RpcCall}
    (hcond : ¬Overtakes s (.send now true localClientNo deviceId call)) :
    Inv (s.step (.send now true localClientNo deviceId call)) := by
  rcases hcall : s.manager.trySendNow SendRecord.callbacks now localClientNo deviceId
    call.targetClientNos call.functionName call.arguments s.record with ⟨ok, manager, record⟩
  have hsend : s.manager.send SendRecord.callbacks now true localClientNo deviceId
      call.targetClientNos call.functionName call.arguments s.record = (manager, record) := by
    rw [RpcManager.send, if_neg (by simp), hcall]
  have hmessages := RpcManager.acceptedMessages_of_trySendNow hcall
  obtain ⟨hpending, hcases⟩ := RpcManager.trySendNow_cases hcall
  have hqueue : ∀ e ∈ s.queue, (s.calls ++ [call])[e.1]? = some e.2.call := by
    intro e he
    have hmade := h.queue_calls e he
    rw [List.getElem?_append_left (List.getElem?_eq_some_iff.mp hmade).1, hmade]
  have hold : List.Forall₂ (Matches (s.calls ++ [call])) s.record.acceptedMessages s.accepted :=
    h.messages.imp fun _ _ hmatch ↦ hmatch.append [call]
  rw [step, hsend]
  simp only [if_true]
  cases ok with
  | false =>
    rw [if_neg (by simp), List.append_nil] at hmessages
    rw [if_pos (by rw [hmessages])]
    refine ⟨hpending.trans h.pending_eq, hqueue, ?_, h.increasing⟩
    rw [hmessages]
    exact hold
  | true =>
    -- the call was accepted, so by the condition nothing was queued
    obtain ⟨hfalse, -⟩ | ⟨hgranted, hrange, hlength, htaken⟩ := hcases
    · simp at hfalse
    have hanswer := SendRecord.answers_of_trySend htaken
    have hempty : s.manager.pending = [] := by
      by_contra hne
      exact hcond ⟨rfl, hne, hgranted, hrange, hlength, hanswer⟩
    have hnone : s.queue = [] := List.map_eq_nil_iff.mp (h.pending_eq.symm.trans hempty)
    have hnew : Matches (s.calls ++ [call]) (.rpc (RpcManager.rpcMessage localClientNo deviceId
        call.targetClientNos call.functionName call.arguments)) s.calls.length :=
      ⟨call, List.getElem?_concat_length, _, _, rfl⟩
    have hincreasing := h.increasing_concat
    rw [if_pos rfl] at hmessages
    rw [if_neg (by rw [hmessages, List.length_append]; simp)]
    refine ⟨hpending.trans h.pending_eq, hqueue, ?_, ?_⟩
    · rw [hmessages]
      exact List.rel_append hold (.cons hnew .nil)
    · rw [hnone, List.map_nil, List.append_nil] at hincreasing ⊢
      exact hincreasing

theorem flushPending (h : Inv s) (now : D) (isReady : Bool) (localClientNo : ℤ) (deviceId : Bytes) :
    Inv (s.step (.flushPending now isReady localClientNo deviceId)) := by
  -- either way calls leave the queue at its front, and those that are live are accepted
  obtain ⟨k, hk, hpending, hmessages⟩ : ∃ k ≤ s.queue.length,
      (s.manager.flushPending SendRecord.callbacks now isReady localClientNo deviceId
          s.record).2.1.pending = (s.queue.map Prod.snd).drop k ∧
        (s.manager.flushPending SendRecord.callbacks now isReady localClientNo deviceId
            s.record).2.2.acceptedMessages =
          s.record.acceptedMessages ++
            ((s.queue.take k).filter fun entry ↦ live now entry.2).map fun entry ↦
              .rpc (RpcManager.rpcMessage localClientNo deviceId entry.2.targetClientNos
                entry.2.functionName entry.2.arguments) := by
    rw [RpcManager.flushPending]
    split
    · exact ⟨0, Nat.zero_le _, h.pending_eq, (List.append_nil _).symm⟩
    · obtain ⟨k, hk, hpending, hmessages⟩ := RpcManager.flushLoop_spec now localClientNo deviceId
        s.manager.pending 0 s.manager s.record
      rw [h.pending_eq, List.length_map] at hk
      refine ⟨k, hk, by rw [hpending, h.pending_eq], hmessages.trans ?_⟩
      rw [h.pending_eq, ← List.map_take, List.filter_map, List.map_map]
      rfl
  have hleft : s.queue.length - ((s.queue.map Prod.snd).drop k).length = k := by
    rw [List.length_drop, List.length_map]
    omega
  rw [step]
  dsimp only
  rw [hpending, hleft]
  refine ⟨hpending.trans List.map_drop.symm,
    fun e he ↦ h.queue_calls e (List.mem_of_mem_drop he), ?_, ?_⟩
  · rw [hmessages]
    refine List.rel_append h.messages ?_
    rw [List.forall₂_map_left_iff, List.forall₂_map_right_iff, List.forall₂_same]
    intro e he
    have hqueued := List.mem_of_mem_take (List.mem_of_mem_filter he)
    exact ⟨_, h.queue_calls e hqueued, _, _, rfl⟩
  · -- the accepted numbers move to the front, the expired ones are left out
    have hsub : ((s.queue.take k).filter (fun entry ↦ live now entry.2) ++ s.queue.drop k).Sublist
        (s.queue.take k ++ s.queue.drop k) := List.filter_sublist.append (List.Sublist.refl _)
    rw [List.take_append_drop] at hsub
    refine List.Pairwise.sublist ?_ h.increasing
    rw [List.append_assoc, ← List.map_append]
    exact (List.Sublist.refl _).append (hsub.map _)

theorem configureRateLimit (h : Inv s) (rpcLimit : ℤ) (windowSeconds warnCooldown : D) :
    Inv (s.step (.configureRateLimit rpcLimit windowSeconds warnCooldown)) :=
  ⟨h.pending_eq, h.queue_calls, h.messages, h.increasing⟩

/-- **A step that lets no call overtake keeps the invariant.** -/
theorem step (h : Inv s) {e : RpcStep D} (hcond : ¬Overtakes s e) : Inv (s.step e) := by
  cases e with
  | send now isReady localClientNo deviceId call =>
    cases isReady with
    | false => exact h.send_queued now localClientNo deviceId call
    | true => exact h.send_now hcond
  | flushPending now isReady localClientNo deviceId =>
    exact h.flushPending now isReady localClientNo deviceId
  | configureRateLimit rpcLimit windowSeconds warnCooldown =>
    exact h.configureRateLimit rpcLimit windowSeconds warnCooldown

end Inv

/-- **Calls leave in the order of submission** in every run in which no call overtakes the queue:
for every limit, clock, change of readiness and pattern of refusals. -/
theorem rpc_order_kept (answers : List Bool) (steps : List (RpcStep D))
    (h : Along step (fun s e ↦ ¬Overtakes s e) (start answers) steps) :
    InOrder (run answers steps) := by
  have hstart : Inv (start answers : RpcRun D) :=
    ⟨rfl, fun e he ↦ absurd he List.not_mem_nil, .nil, .nil⟩
  exact (Along.invariant (fun s e hs hcond ↦ hs.step hcond) h hstart).inOrder

/-- Calls without targets and arguments, by their names. -/
def callOf (name : UInt8) : RpcCall := ⟨[name], [], []⟩

/-- Two calls are queued before the client is ready and flushed afterwards; a third, made with the
queue empty, follows. -/
def inTurn : List (RpcStep ℚ) :=
  [.send 0 false 1 [100] (callOf 97), .send 1 false 1 [100] (callOf 98),
    .flushPending 2 true 1 [100],
    .send 2 true 1 [100] (callOf 99)]

theorem rpc_order_kept_in_turn :
    InOrder (run [true, true, true] inTurn) ∧
      (run [true, true, true] inTurn).accepted = [0, 1, 2] := by
  have hcond : Along step (fun s e ↦ ¬Overtakes s e) (start [true, true, true]) inTurn := by
    refine ⟨by simp [Overtakes], by simp [Overtakes], by simp [Overtakes], ?_, trivial⟩
    rintro ⟨-, hne, -⟩
    exact hne (List.isEmpty_iff.mp (by decide +kernel))
  exact ⟨rpc_order_kept [true, true, true] inTurn hcond, by decide +kernel⟩

/-- A call is queued, the client becomes ready, and a second call leaves before the first. -/
def overtaking : List (RpcStep ℚ) :=
  [.send 0 false 1 [100] (callOf 97), .send 1 true 1 [100] (callOf 98),
    .flushPending 2 true 1 [100]]

theorem rpc_overtakes_queue :
    (run [true, true] overtaking).accepted = [1, 0] ∧
    (run [true, true] overtaking).record.acceptedMessages =
      [.rpc (RpcManager.rpcMessage 1 [100] [] [98] []),
        .rpc (RpcManager.rpcMessage 1 [100] [] [97] [])] ∧
    ¬InOrder (run [true, true] overtaking) := by
  have haccepted : (run [true, true] overtaking).accepted = [1, 0] := by decide +kernel
  refine ⟨haccepted, by decide +kernel, fun h ↦ ?_⟩
  have hincreasing := h.increasing
  rw [haccepted] at hincreasing
  exact absurd hincreasing (by decide)

end RpcRun

end StylyNetSync
