import StylyNetSync.Foundation.Ranking
import StylyNetSync.Transport.ThreadCallbacks

/-!
# Stopping the network thread

`stop` waits for the thread. The thread tests the flag at the head of its loop only, so the wait is
for the rest of the set-up or of the round under way: the packets in the outbox, the slots of the
objects and what the sockets deliver are each gone through at most once more. What `stop` cleared
stays empty, since nothing is accepted any more, and so one session leaves nothing to the next.
-/

namespace StylyNetSync

namespace NetworkThread

variable {D : Type} [Double D]

/-- The packets that wait for the control socket. -/
def waiting (t : ZmqTransport Bytes D) : ℕ :=
  t.pendingControl.toList.length + t.controlOutbox.length

/-- How many transitions the loop makes at most until it has returned, from a phase of it. -/
def phaseLeft (bound objects waiting : ℕ) : LoopPhase → ℕ
  | .exited => 1
  | .head => 2
  | .receiving => bound + 4
  | .objectNext objectIds => 3 * objectIds.length + bound + 5
  | .objectSent _ _ objectIds => 3 * objectIds.length + bound + 6
  | .objectCopied _ _ objectIds => 3 * objectIds.length + bound + 7
  | .objects => 3 * objects + bound + 6
  | .transformSent _ => 3 * objects + bound + 7
  | .transformCopied _ => 3 * objects + bound + 8
  | .poses => 3 * objects + bound + 9
  | .draining => waiting + 3 * objects + bound + 10

theorem phaseLeft_mono {bound objects objects' waiting waiting' : ℕ} (ho : objects ≤ objects')
    (hw : waiting ≤ waiting') {phase : LoopPhase} :
    phaseLeft bound objects waiting phase ≤ phaseLeft bound objects' waiting' phase := by
  cases phase <;> simp only [phaseLeft] <;> omega

def loopLeft (bound : ℕ) (l : NetworkLoop D) : ℕ :=
  phaseLeft bound l.transport.latestObjectTransforms.keys.length (waiting l.transport) l.phase

/-- How many transitions the thread makes at most until it has returned, if it was told to stop and
no round of receiving passes on more than `bound` payloads. -/
def transitionsLeft (bound : ℕ) (t : NetworkThread D) : ℕ :=
  match t.stage with
  | .absent => 0
  | .returned => 0
  | .setUp calls => calls.length + 3
  | .delivering payloads => payloads.length + 3
  | .looping => loopLeft bound t.loop

/-- A round of draining that goes on has taken a packet from the line. -/
theorem waiting_drainStep {t : ZmqTransport Bytes D} {result : SendResult}
    (h : (t.drainStep result).2.draining.isSome = true) :
    waiting (t.drainStep result).2 < waiting t := by
  rcases hstep : t.drainStep result with ⟨outcome, t'⟩
  rw [hstep] at h
  have hsize (line : ZmqTransport Bytes D) :
      waiting line = (line.pendingControl.toList ++ line.controlOutbox).length := by
    rw [waiting, List.length_append]
  rcases ZmqTransport.drainStep_cases hstep with ⟨hexpired, hsent, -, -⟩ | ⟨-, packet, -, -, hline⟩
  · -- neither sent nor expired: the round is over
    exfalso
    rw [ZmqTransport.drainStep] at hstep
    split at hstep
    · next hdraining =>
      obtain ⟨rfl, rfl⟩ := Prod.mk.inj hstep
      simp [hdraining] at h
    split at hstep
    · obtain ⟨rfl, rfl⟩ := Prod.mk.inj hstep
      simp at h
    split at hstep
    · obtain ⟨rfl, rfl⟩ := Prod.mk.inj hstep
      simp at h
    split at hstep
    · obtain ⟨rfl, rfl⟩ := Prod.mk.inj hstep
      exact hexpired rfl
    · cases result with
      | sent =>
        obtain ⟨rfl, rfl⟩ := Prod.mk.inj hstep
        exact hsent rfl
      | _ =>
        obtain ⟨rfl, rfl⟩ := Prod.mk.inj hstep
        simp at h
  · rw [hsize, hsize, hline]
    simp

theorem loopLeft_advance {l : NetworkLoop D} (hstop : l.transport.shouldStop = true) (bound : ℕ)
    (now : D) (a : Answers) (hexited : l.phase ≠ .exited) (hreceiving : l.phase ≠ .receiving) :
    loopLeft bound (l.advance now a) < loopLeft bound l := by
  have hnote (result : SendResult) (t : ZmqTransport Bytes D) :
      (t.noteSend result).latestObjectTransforms = t.latestObjectTransforms := by
    cases result <;> rfl
  have hclear (payload : Bytes) (t : ZmqTransport Bytes D) :
      (t.clearSentTransform payload).latestObjectTransforms = t.latestObjectTransforms := by
    rw [ZmqTransport.clearSentTransform]
    split <;> rfl
  rw [NetworkLoop.advance]
  split
  · next hphase => exact absurd hphase hexited
  · next hphase => simp [loopLeft, hphase, hstop, phaseLeft]
  · next hphase =>
    have hkeys := (drainStep_keeps l.transport a.result).2.2.2.2
    by_cases hon : (l.transport.drainStep a.result).2.draining.isSome = true
    · have hless := waiting_drainStep hon
      simp only [loopLeft, hphase, hon, if_true, phaseLeft, hkeys]
      omega
    · simp only [loopLeft, hphase, hon, Bool.false_eq_true, if_false, phaseLeft, hkeys]
      omega
  · next hphase => split <;> simp [loopLeft, hphase, phaseLeft]
  · next payload hphase => split <;> simp [loopLeft, hphase, phaseLeft, hnote]
  · next payload hphase => simp [loopLeft, hphase, phaseLeft, hclear]
  · next hphase => simp [loopLeft, hphase, phaseLeft]
  · next hphase => simp [loopLeft, hphase, phaseLeft]
  · next objectId objectIds hphase =>
    split
    · simp only [loopLeft, hphase, phaseLeft, List.length_cons]
      omega
    · simp only [loopLeft, hphase, phaseLeft, List.length_cons]
      omega
  · next objectId payload objectIds hphase =>
    split
    · simp only [loopLeft, hphase, phaseLeft]
      omega
    · simp only [loopLeft, hphase, phaseLeft]
      omega
  · next objectId payload objectIds hphase => simp [loopLeft, hphase, phaseLeft]
  · next hphase => exact absurd hphase hreceiving

/-- **Every transition brings the thread closer to its end**, once it was told to stop. -/
theorem transitionsLeft_advance {t : NetworkThread D} (h : t.Sound)
    (hstop : t.loop.transport.shouldStop = true) {bound : ℕ} {encounter : Encounter D}
    (hbound : (deliveries t.loop.transport.roomId encounter).length ≤ bound)
    (habsent : t.stage ≠ .absent) (hreturned : t.stage ≠ .returned) :
    (t.advance encounter).transitionsLeft bound < t.transitionsLeft bound := by
  have hhead (l : NetworkLoop D) (hphase : l.phase = .head) : loopLeft bound l = 2 := by
    rw [loopLeft, hphase, phaseLeft]
  rw [advance]
  split
  · next hstage => exact absurd hstage habsent
  · next hstage => exact absurd hstage hreturned
  · next hstage => simp [transitionsLeft, hstage, hhead _ (h.head ⟨_, hstage⟩)]
  · next call rest hstage => split <;> simp [transitionsLeft, hstage]
  · next hstage =>
    split
    · next hphase => simp [transitionsLeft, hstage, loopLeft, hphase, phaseLeft]
    · next hphase =>
      simp only [transitionsLeft, hstage, loopLeft, hphase, phaseLeft]
      omega
    · next hexited hreceiving =>
      have hless := loopLeft_advance hstop bound encounter.now encounter.send hexited hreceiving
      simpa only [transitionsLeft, hstage] using hless
  · next hstage => simp [transitionsLeft, hstage, hhead _ (h.circling _ hstage)]
  · next hstage => simp [transitionsLeft, hstage]

/-! ### The wait of the host -/

/-- Nothing is queued for sending. -/
structure Emptied (t : ZmqTransport Bytes D) : Prop where
  outbox : t.controlOutbox = []
  pending : t.pendingControl = none
  transform : t.latestTransform = none
  objects : t.latestObjectTransforms = ∅

theorem Emptied.advance {l : NetworkLoop D} (h : Emptied l.transport) (now : D) (a : Answers) :
    Emptied (l.advance now a).transport := by
  have hnote (result : SendResult) : Emptied (l.transport.noteSend result) := by
    cases result <;> exact ⟨h.outbox, h.pending, h.transform, h.objects⟩
  rw [NetworkLoop.advance]
  split
  · exact h
  · split
    · exact h
    · rw [ZmqTransport.drainBegin]
      split <;> exact ⟨h.outbox, h.pending, h.transform, h.objects⟩
  · -- no packet is taken, and the round is over
    have hnone : l.transport.takePending = none := by
      simp [ZmqTransport.takePending, h.pending, h.outbox]
    dsimp only
    rw [ZmqTransport.drainStep]
    split
    · exact h
    · split
      · exact ⟨h.outbox, h.pending, h.transform, h.objects⟩
      · rw [hnone]
        exact ⟨h.outbox, h.pending, h.transform, h.objects⟩
  · split <;> exact h
  · exact hnote _
  · rw [ZmqTransport.clearSentTransform]
    split
    · exact ⟨h.outbox, h.pending, rfl, h.objects⟩
    · exact h
  · exact h
  · exact h
  · split <;> exact h
  · exact hnote _
  · rw [ZmqTransport.clearSentObjectTransform]
    split
    · exact ⟨h.outbox, h.pending, h.transform, by simp [h.objects]⟩
    · exact h
  · exact h

/-- What `stop` cleared stays empty until the next `start`. -/
def NothingLeft (t : NetworkThread D) : Prop :=
  t.stage = .absent ∨ t.stopping = .joining → Emptied t.loop.transport

theorem nothingLeft_advance {t : NetworkThread D} (h : t.NothingLeft) (encounter : Encounter D) :
    (t.advance encounter).NothingLeft := by
  have hjoining (hstage : (t.advance encounter).stage = .absent) : t.stage = .absent := by
    by_contra hne
    rw [advance] at hstage
    revert hstage
    repeat' split
    all_goals simp_all
  have hstopping : (t.advance encounter).stopping = t.stopping := by
    rw [advance]
    repeat' split
    all_goals rfl
  rintro hwhen
  have hbefore : Emptied t.loop.transport := by
    refine h (hwhen.imp hjoining fun hj ↦ ?_)
    rwa [hstopping] at hj
  rw [advance]
  split
  · exact hbefore
  · exact hbefore
  · exact hbefore
  · split
    · exact ⟨hbefore.outbox, hbefore.pending, hbefore.transform, hbefore.objects⟩
    · exact hbefore
  · split
    · exact hbefore
    · exact hbefore.advance _ _
    · exact hbefore.advance _ _
  · exact hbefore
  · exact hbefore

theorem nothingLeft_host {t : NetworkThread D} (hsound : t.Sound) (h : t.NothingLeft)
    {e : LoopStep D} (hnetwork : ∀ now a, e ≠ .network now a) (hstop : e ≠ .requestStop) :
    (t.host e).NothingLeft := by
  rw [host]
  split
  · next hidle =>
    rintro (habsent | hjoining)
    · -- without a thread nothing is accepted
      have hemptied := h (Or.inl habsent)
      have husable : t.loop.transport.usable = false := by
        have hrunning : t.loop.transport.running = false := by
          by_contra hne
          exact hsound.running.mp (by simpa using hne) habsent
        simp [ZmqTransport.usable, hrunning]
      cases e with
      | network now a => exact absurd rfl (hnetwork now a)
      | requestStop => exact absurd rfl hstop
      | clearOutgoing => exact ⟨rfl, rfl, rfl, rfl⟩
      | _ => simpa [NetworkLoop.step, husable] using hemptied
    · have hne : t.stopping = .joining := hjoining
      simp [hidle] at hne
  · exact h

theorem nothingLeft_step {t : NetworkThread D} (hsound : t.Sound) (h : t.NothingLeft)
    (e : ThreadStep D) : (t.step e).NothingLeft := by
  cases e with
  | thread encounter => exact nothingLeft_advance h encounter
  | start config contextError =>
    rw [step]
    split
    · next hidle =>
      rw [start]
      split
      · exact h
      · next hfree =>
        rw [not_or, not_not] at hfree
        have hbefore := h (Or.inl hfree.2)
        have hrunning : t.loop.transport.running = false := by simpa using hfree.1
        split
        · intro _
          simp only [ZmqTransport.start, hrunning]
          exact ⟨hbefore.outbox, hbefore.pending, hbefore.transform, hbefore.objects⟩
        · rintro (habsent | hjoining)
          · simp at habsent
          · simp [hidle] at hjoining
    · exact h
  | stopBegin =>
    rw [step]
    split
    · rw [stopBegin]
      split
      · next habsent =>
        have hbefore := h (Or.inl habsent)
        exact fun _ ↦ ⟨hbefore.outbox, hbefore.pending, hbefore.transform, hbefore.objects⟩
      · next hthere =>
        rintro (habsent | hjoining)
        · exact absurd habsent hthere
        · simp at hjoining
    · exact h
  | stopClear =>
    rw [step]
    split
    · exact fun _ ↦ ⟨rfl, rfl, rfl, rfl⟩
    · exact h
  | stopJoin =>
    rw [step]
    split
    · next hjoining =>
      have hbefore := h (Or.inr hjoining)
      rw [stopJoin]
      split
      · exact fun _ ↦ ⟨hbefore.outbox, hbefore.pending, hbefore.transform, hbefore.objects⟩
      · exact h
    · exact h
  | _ => exact nothingLeft_host hsound h (by simp) (by simp)

/-- A step of the network thread. -/
def isThreadStep : ThreadStep D → Bool
  | .thread _ => true
  | _ => false

/-- Told to stop, on the room of the session. -/
structure ToldToStop (roomId : Bytes) (t : NetworkThread D) : Prop where
  sound : t.Sound
  stopping : t.stopping ≠ .idle
  roomId : t.loop.transport.roomId = roomId

theorem toldToStop_step {roomId : Bytes} {t : NetworkThread D} (h : t.ToldToStop roomId)
    (hreturned : t.stage ≠ .returned) (e : ThreadStep D) : (t.step e).ToldToStop roomId := by
  have hsame (l : NetworkLoop D) (hl : l.transport.roomId = t.loop.transport.roomId) :
      l.transport.roomId = roomId := hl.trans h.roomId
  refine ⟨sound_step h.sound e, ?_, ?_⟩
  · cases e with
    | thread encounter =>
      rw [step, advance]
      repeat' split
      all_goals exact h.stopping
    | stopClear =>
      rw [step]
      split
      · simp
      · exact h.stopping
    | _ => simp [step, host, stopJoin, h.stopping, hreturned]
  · cases e with
    | thread encounter =>
      have hloop := (loop_advance_keeps t.loop encounter.now encounter.send).2.2
      rw [step, advance]
      repeat' split
      all_goals first
        | exact h.roomId
        | exact hsame _ hloop
    | stopClear =>
      rw [step]
      split
      · exact h.roomId
      · exact h.roomId
    | _ => simp [step, host, stopJoin, h.stopping, hreturned, h.roomId]

/-- What the host does in `stop` makes the thread's way no longer. -/
theorem transitionsLeft_host {roomId : Bytes} {t : NetworkThread D} (h : t.ToldToStop roomId)
    (hreturned : t.stage ≠ .returned) {e : ThreadStep D} (he : isThreadStep e = false) (bound : ℕ) :
    (t.step e).transitionsLeft bound ≤ t.transitionsLeft bound := by
  cases e with
  | thread encounter => simp [isThreadStep] at he
  | stopClear =>
    rw [step]
    split
    · have hloop : loopLeft bound { t.loop with transport := t.loop.transport.clearOutgoing } ≤
          loopLeft bound t.loop := by
        refine phaseLeft_mono ?_ ?_
        · simp [ZmqTransport.clearOutgoing]
        · simp [waiting, ZmqTransport.clearOutgoing]
      cases hstage : t.stage with
      | looping => simpa only [transitionsLeft, hstage] using hloop
      | _ => simp [transitionsLeft, hstage]
    · exact le_rfl
  | _ => simp [step, host, stopJoin, h.stopping, hreturned]

/-- The way of the thread to its end, as a rank. -/
def stopRanking (roomId : Bytes) (bound : ℕ) :
    Ranking (step : NetworkThread D → ThreadStep D → NetworkThread D) isThreadStep
      (fun e ↦ ∀ encounter, e = .thread encounter → (deliveries roomId encounter).length ≤ bound)
      (ToldToStop roomId) fun t ↦ t.stage = .returned where
  rank := transitionsLeft bound
  kept _ e h hreturned _ := toldToStop_step h hreturned e
  lowered t e h hreturned hmay hown := by
    cases e with
    | thread encounter =>
      have hbound := hmay encounter rfl
      rw [← h.roomId] at hbound
      obtain ⟨habsent, hstop⟩ := h.sound.stopping h.stopping
      exact transitionsLeft_advance h.sound hstop hbound habsent hreturned
    | _ => simp [isThreadStep] at hown
  not_raised _ _ h hreturned _ hown := transitionsLeft_host h hreturned hown bound
  goal_of_zero t h hzero := by
    rw [transitionsLeft] at hzero
    split at hzero
    · next habsent => exact absurd habsent (h.sound.stopping h.stopping).1
    · next hreturned => exact hreturned
    · omega
    · omega
    · rw [loopLeft] at hzero
      revert hzero
      cases t.loop.phase <;> simp [phaseLeft]

theorem nothingLeft_run (steps : List (ThreadStep D)) :
    (steps.foldl step ({} : NetworkThread D)).NothingLeft := by
  have hrun : (steps.foldl step ({} : NetworkThread D)).Sound ∧
      (steps.foldl step ({} : NetworkThread D)).NothingLeft := by
    refine List.foldlRecOn (motive := fun t ↦ t.Sound ∧ t.NothingLeft) steps step
      ⟨sound_run [], fun _ ↦ ⟨rfl, rfl, rfl, rfl⟩⟩ fun t ⟨hs, hn⟩ e _ ↦ ?_
    exact ⟨sound_step hs e, nothingLeft_step hs hn e⟩
  exact hrun.2

/-- **`stop` returns, and leaves nothing queued.** Once the host has called `stop`, the thread comes
to its end within as many transitions as `transitionsLeft` says, whatever libzmq answers and however
the host's steps fall in between; the join then returns. While there is no thread, nothing is queued
for sending, so that no packet of one session is sent in another. -/
theorem stop_returns (before : List (ThreadStep D)) :
    let t := before.foldl step ({} : NetworkThread D)
    (t.stopping ≠ .idle → ∀ (bound : ℕ) (steps : List (ThreadStep D)),
      (∀ encounter, .thread encounter ∈ steps →
        (deliveries t.loop.transport.roomId encounter).length ≤ bound) →
      t.transitionsLeft bound ≤ steps.countP isThreadStep →
        ∃ k, ((steps.take k).foldl step t).stage = .returned) ∧
    (t.stopping ≠ .idle → t.stage = .returned →
      ((t.step .stopClear).step .stopJoin).stage = .absent) ∧
    (t.stage = .absent → Emptied t.loop.transport) := by
  intro t
  have hsound : t.Sound := sound_run before
  refine ⟨fun hstopping bound steps hsteps hcount ↦ ?_, fun hstopping hreturned ↦ ?_,
    fun habsent ↦ nothingLeft_run before (Or.inl habsent)⟩
  · refine (stopRanking t.loop.transport.roomId bound).reaches ⟨hsound, hstopping, rfl⟩ ?_ hcount
    rintro e he encounter rfl
    exact hsteps encounter he
  · cases hstage : t.stopping with
    | idle => exact absurd hstage hstopping
    | clearing => simp [step, hstage, stopJoin, hreturned]
    | joining => simp [step, hstage, stopJoin, hreturned]

/-- The sockets take whatever is sent, and a control message has arrived. -/
def busy : Encounter ℚ where
  now := 0
  setUp := none
  send := ⟨true, true, true⟩
  reason := ""
  sub := []
  control := [⟨[114], [[9]]⟩]

/-- The host calls `stop` after the thread has begun to drain the outbox. -/
def stoppedWhileSending : List (ThreadStep ℚ) :=
  .start { serverAddress := [49], roomId := [114] } none :: List.replicate 13 (.thread busy) ++
    [.enqueueControl [1] 0, .setLatestTransform [2] 0, .thread busy, .stopBegin]

/-- The thread still sends both and passes on what has arrived; then it has returned, and nothing is
left. -/
theorem stop_returns_whileSending :
    let t := stoppedWhileSending.foldl step ({} : NetworkThread ℚ)
    let steps : List (ThreadStep ℚ) := List.replicate 12 (.thread busy)
    let all : List (ThreadStep ℚ) := stoppedWhileSending ++ steps ++ [.stopClear, .stopJoin]
    let ended := all.foldl step ({} : NetworkThread ℚ)
    t.stopping = .clearing ∧ t.loop.phase = .draining ∧ t.transitionsLeft 1 = 12 ∧
      (∃ k, ((steps.take k).foldl step t).stage = .returned) ∧
      ended.loop.trace .control = [.frame [114] true, .frame [1] false] ∧
      ended.loop.trace .transform = [.frame [114] true, .frame [2] false] ∧
      ended.calls.getLast? = some (.payload .control [9]) ∧ ended.stage = .absent ∧
      Emptied ended.loop.transport := by
  intro t steps all ended
  have hleft : t.transitionsLeft 1 = 12 := by decide +kernel
  refine ⟨by decide +kernel, by decide +kernel, hleft, ?_, by decide +kernel, by decide +kernel,
    by decide +kernel, by decide +kernel, ?_⟩
  · refine (stop_returns stoppedWhileSending).1 (by decide +kernel) 1 steps ?_ hleft.le
    intro encounter hmem
    obtain rfl := ThreadStep.thread.inj (List.eq_of_mem_replicate hmem)
    decide
  · exact (stop_returns all).2.2 (by decide +kernel)

end NetworkThread

end StylyNetSync
