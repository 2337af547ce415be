import Mathlib.Data.List.Induction
import StylyNetSync.Transport.NetworkThread

/-!
# What the network thread calls back

The client hears of the transport by callbacks alone, and relies on their order: the report that the
sockets are up comes once in the life of a thread, and before every payload. Here this is a property
of every run of the thread and its host.
-/

namespace StylyNetSync

namespace NetworkThread

variable {D : Type} [Double D]

/-! ### What a step leaves alone -/

/-- A call of the host to the transport touches neither the flags nor where the thread stands. -/
theorem call_keeps (l : NetworkLoop D) {e : LoopStep D}
    (hnetwork : ∀ now a, e ≠ .network now a) (hstop : e ≠ .requestStop) :
    (l.step e).transport.running = l.transport.running ∧
      (l.step e).transport.shouldStop = l.transport.shouldStop ∧
      (l.step e).transport.connectionError = l.transport.connectionError ∧
      (l.step e).phase = l.phase ∧ (l.step e).trace = l.trace := by
  have htrace := NetworkLoop.trace_step_of_call (l := l) hnetwork
  cases e with
  | network now a => exact absurd rfl (hnetwork now a)
  | requestStop => exact absurd rfl hstop
  | clearOutgoing => exact ⟨rfl, rfl, rfl, rfl, htrace⟩
  | enqueueControl payload now =>
    refine ⟨?_, ?_, ?_, ?_, htrace⟩
    all_goals
      rw [NetworkLoop.step, ZmqTransport.pushControl]
      split
      · split <;> rfl
      · rfl
  | _ =>
    refine ⟨?_, ?_, ?_, ?_, htrace⟩
    all_goals
      rw [NetworkLoop.step]
      split <;> rfl

/-- What an iteration of the drain loop leaves alone. -/
theorem drainStep_keeps {P : Type} (t : ZmqTransport P D) (result : SendResult) :
    (t.drainStep result).2.running = t.running ∧
      (t.drainStep result).2.shouldStop = t.shouldStop ∧
      (t.drainStep result).2.roomId = t.roomId ∧
      (t.drainStep result).2.latestTransform = t.latestTransform ∧
      (t.drainStep result).2.latestObjectTransforms = t.latestObjectTransforms := by
  rw [ZmqTransport.drainStep]
  split
  · exact ⟨rfl, rfl, rfl, rfl, rfl⟩
  split
  · exact ⟨rfl, rfl, rfl, rfl, rfl⟩
  rw [ZmqTransport.takePending]
  split
  · exact ⟨rfl, rfl, rfl, rfl, rfl⟩
  · next packet taken htaken =>
    have htaken' : taken.running = t.running ∧ taken.shouldStop = t.shouldStop ∧
        taken.roomId = t.roomId ∧ taken.latestTransform = t.latestTransform ∧
        taken.latestObjectTransforms = t.latestObjectTransforms := by
      split at htaken
      · obtain ⟨-, rfl⟩ := Prod.mk.inj (Option.some.inj htaken)
        exact ⟨rfl, rfl, rfl, rfl, rfl⟩
      · split at htaken
        · simp at htaken
        · obtain ⟨-, rfl⟩ := Prod.mk.inj (Option.some.inj htaken)
          exact ⟨rfl, rfl, rfl, rfl, rfl⟩
    split
    · exact htaken'
    · cases result <;> exact htaken'

/-- What a transition of the loop leaves alone. -/
theorem loop_advance_keeps (l : NetworkLoop D) (now : D) (a : Answers) :
    (l.advance now a).transport.running = l.transport.running ∧
      (l.advance now a).transport.shouldStop = l.transport.shouldStop ∧
      (l.advance now a).transport.roomId = l.transport.roomId := by
  have hsend (result : SendResult) (t : ZmqTransport Bytes D) :
      (t.noteSend result).running = t.running ∧ (t.noteSend result).shouldStop = t.shouldStop ∧
        (t.noteSend result).roomId = t.roomId := by
    cases result <;> exact ⟨rfl, rfl, rfl⟩
  rw [NetworkLoop.advance]
  split
  · exact ⟨rfl, rfl, rfl⟩
  · split
    · exact ⟨rfl, rfl, rfl⟩
    · rw [ZmqTransport.drainBegin]
      split <;> exact ⟨rfl, rfl, rfl⟩
  · next hphase =>
    obtain ⟨hrunning, hstop, hroom, -⟩ := drainStep_keeps l.transport a.result
    exact ⟨hrunning, hstop, hroom⟩
  · split <;> exact ⟨rfl, rfl, rfl⟩
  · exact hsend _ _
  · rw [ZmqTransport.clearSentTransform]
    split <;> exact ⟨rfl, rfl, rfl⟩
  · exact ⟨rfl, rfl, rfl⟩
  · exact ⟨rfl, rfl, rfl⟩
  · split <;> exact ⟨rfl, rfl, rfl⟩
  · exact hsend _ _
  · rw [ZmqTransport.clearSentObjectTransform]
    split <;> exact ⟨rfl, rfl, rfl⟩
  · exact ⟨rfl, rfl, rfl⟩

theorem not_connected_mem_loopCalls (encounter : Encounter D) (l : NetworkLoop D) :
    .connected ∉ loopCalls encounter l := by
  have hpose : .connected ∉ poseCalls encounter.reason encounter.send.result := by
    rw [poseCalls]
    split <;> simp [abandoned]
  rw [loopCalls]
  split
  · cases (l.transport.drainStep encounter.send.result).1 <;> simp [drainCalls, abandoned]
  · exact hpose
  · exact hpose
  · simp

/-! ### The order of what is called back -/

/-- The sockets are being set up: only log lines so far. -/
def Unconnected (calls : List TransportCallback) : Prop := ∀ c ∈ calls, c.isLog = true

/-- The set-up failed: the error is the last that was called back. -/
def SetUpFailed (calls : List TransportCallback) : Prop :=
  ∃ front text, calls = front ++ [.error text] ∧ Unconnected front

/-- The sockets came up, once, and before that there were only log lines. -/
def CameUp (calls : List TransportCallback) : Prop :=
  ∃ front back, calls = front ++ .connected :: back ∧ Unconnected front ∧ .connected ∉ back

/-- What an observer has seen, by where the thread stands. -/
def CallsFit (t : NetworkThread D) : Prop :=
  match t.stage with
  | .setUp _ => Unconnected t.calls ∧ ∀ outlet, t.loop.trace outlet = []
  | .looping => CameUp t.calls
  | .delivering _ => CameUp t.calls
  | _ =>
    CameUp t.calls ∨ SetUpFailed t.calls ∧ (∀ outlet, t.loop.trace outlet = []) ∧
        t.loop.transport.usable = false ∨
      t.calls = [] ∧ (∀ outlet, t.loop.trace outlet = []) ∧ t.loop.transport.usable = false

/-- What holds of a transport whatever has happened to it. -/
structure Sound (t : NetworkThread D) : Prop where
  calls : t.CallsFit
  running : t.loop.transport.running = true ↔ t.stage ≠ .absent
  context : t.context = true ↔ t.stage ≠ .absent
  ready : t.socketsReady = true → t.stage = .looping ∨ ∃ payloads, t.stage = .delivering payloads
  stopping : t.stopping ≠ .idle → t.stage ≠ .absent ∧ t.loop.transport.shouldStop = true
  head : (∃ calls, t.stage = .setUp calls) → t.loop.phase = .head
  circling : ∀ payloads, t.stage = .delivering payloads → t.loop.phase = .head

omit [Double D] in
theorem CameUp.append {calls more : List TransportCallback} (h : CameUp calls)
    (hmore : .connected ∉ more) : CameUp (calls ++ more) := by
  obtain ⟨front, back, rfl, hfront, hback⟩ := h
  refine ⟨front, back ++ more, by simp, hfront, fun hmem ↦ ?_⟩
  rcases List.mem_append.mp hmem with hold | hnew
  · exact hback hold
  · exact hmore hnew

omit [Double D] in
theorem Unconnected.append {calls more : List TransportCallback} (h : Unconnected calls)
    (hmore : Unconnected more) : Unconnected (calls ++ more) := by
  intro c hc
  rcases List.mem_append.mp hc with hold | hnew
  · exact h c hold
  · exact hmore c hnew

theorem sound_advance {t : NetworkThread D} (h : t.Sound) (encounter : Encounter D) :
    (t.advance encounter).Sound := by
  have hcalls := h.calls
  rw [CallsFit] at hcalls
  have hstopping (stage : ThreadStage) (hstage : stage ≠ .absent) :
      t.stopping ≠ .idle → stage ≠ .absent ∧ t.loop.transport.shouldStop = true :=
    fun hne ↦ ⟨hstage, (h.stopping hne).2⟩
  rw [advance]
  split
  · exact h
  · exact h
  · -- the sockets are up
    next hstage =>
    rw [hstage] at hcalls
    exact
      { calls := ⟨t.calls, [], rfl, hcalls.1, by simp⟩
        running := by simp [h.running, hstage]
        context := by simp [h.context, hstage]
        ready := fun _ ↦ Or.inl rfl
        stopping := hstopping _ (by simp)
        head := by simp
        circling := by simp }
  · next call rest hstage =>
    rw [hstage] at hcalls
    have hready : t.socketsReady = true → False := fun hready ↦ by
      rcases h.ready hready with heq | ⟨payloads, heq⟩ <;> simp [hstage] at heq
    split
    · -- the call failed, and the thread is over
      next reason _ =>
      have husable (flags : ZmqTransport Bytes D) (hflags : flags.connectionError = true) :
          flags.usable = false := by
        simp [ZmqTransport.usable, hflags]
      exact
        { calls := Or.inr (Or.inl ⟨⟨_, _, rfl, hcalls.1⟩, hcalls.2, husable _ rfl⟩)
          running := by simp [h.running, hstage]
          context := by simp [h.context, hstage]
          ready := fun hr ↦ absurd (hready hr) not_false
          stopping := hstopping _ (by simp)
          head := by simp
          circling := by simp }
    · have hlog : Unconnected (call.success.toList.map .log) := by
        intro c hc
        obtain ⟨text, -, rfl⟩ := List.mem_map.mp hc
        rfl
      exact
        { calls := ⟨hcalls.1.append hlog, hcalls.2⟩
          running := by simp [h.running, hstage]
          context := by simp [h.context, hstage]
          ready := fun hr ↦ absurd (hready hr) not_false
          stopping := hstopping _ (by simp)
          head := fun _ ↦ h.head ⟨_, hstage⟩
          circling := by simp }
  · next hstage =>
    rw [hstage] at hcalls
    obtain ⟨hrunning, hstop, -⟩ := loop_advance_keeps t.loop encounter.now encounter.send
    split
    · exact
        { calls := Or.inl hcalls
          running := by simp [h.running, hstage]
          context := by simp [h.context, hstage]
          ready := by simp
          stopping := hstopping _ (by simp)
          head := by simp
          circling := by simp }
    · next hphase =>
      exact
        { calls := hcalls
          running := by simp [hrunning, h.running, hstage]
          context := by simp [h.context, hstage]
          ready := fun _ ↦ Or.inr ⟨_, rfl⟩
          stopping := fun hne ↦ ⟨by simp, by rw [hstop]; exact (h.stopping hne).2⟩
          head := by simp
          circling := fun _ _ ↦ by simp [NetworkLoop.advance, hphase] }
    · have hup : CallsFit { t with
          loop := t.loop.advance encounter.now encounter.send
          calls := t.calls ++ loopCalls encounter t.loop } := by
        rw [CallsFit, hstage]
        exact hcalls.append (not_connected_mem_loopCalls encounter t.loop)
      exact
        { calls := hup
          running := by simp [hrunning, h.running, hstage]
          context := by simp [h.context, hstage]
          ready := fun _ ↦ Or.inl hstage
          stopping := fun hne ↦ ⟨by simp [hstage], by rw [hstop]; exact (h.stopping hne).2⟩
          head := by simp [hstage]
          circling := by simp [hstage] }
  · next hstage =>
    rw [hstage] at hcalls
    exact
      { calls := hcalls
        running := by simp [h.running, hstage]
        context := by simp [h.context, hstage]
        ready := fun _ ↦ Or.inl rfl
        stopping := hstopping _ (by simp)
        head := by simp
        circling := by simp }
  · next lane data rest hstage =>
    rw [hstage] at hcalls
    exact
      { calls := hcalls.append (by simp)
        running := by simp [h.running, hstage]
        context := by simp [h.context, hstage]
        ready := fun _ ↦ Or.inr ⟨rest, rfl⟩
        stopping := hstopping _ (by simp)
        head := by simp
        circling := fun _ _ ↦ h.circling _ hstage }

omit [Double D] in
/-- A change of the loop that keeps the flags, the place of the thread and the traces. -/
theorem Sound.of_loop {t : NetworkThread D} (h : t.Sound) {l : NetworkLoop D}
    (hrunning : l.transport.running = t.loop.transport.running)
    (hstop : l.transport.shouldStop = t.loop.transport.shouldStop)
    (herror : l.transport.connectionError = t.loop.transport.connectionError)
    (hphase : l.phase = t.loop.phase) (htrace : l.trace = t.loop.trace)
    {stopping : StopStage} (hstopping : stopping ≠ .idle → t.stopping ≠ .idle) :
    Sound { t with loop := l, stopping := stopping } := by
  have hcalls : CallsFit { t with loop := l, stopping := stopping } := by
    have hbefore := h.calls
    rw [CallsFit] at hbefore ⊢
    simpa only [ZmqTransport.usable, hrunning, hstop, herror, htrace] using hbefore
  exact
    { calls := hcalls
      running := by simpa only [hrunning] using h.running
      context := h.context
      ready := h.ready
      stopping := fun hne ↦ by simpa only [hstop] using h.stopping (hstopping hne)
      head := fun hstage ↦ by simpa only [hphase] using h.head hstage
      circling := fun payloads hstage ↦ by simpa only [hphase] using h.circling payloads hstage }

theorem sound_host {t : NetworkThread D} (h : t.Sound) {e : LoopStep D}
    (hnetwork : ∀ now a, e ≠ .network now a) (hstop : e ≠ .requestStop) : (t.host e).Sound := by
  rw [host]
  split
  · obtain ⟨hrunning, hflag, herror, hphase, htrace⟩ := call_keeps t.loop hnetwork hstop
    exact h.of_loop hrunning hflag herror hphase htrace id
  · exact h

omit [Double D] in
theorem sound_start {t : NetworkThread D} (h : t.Sound) (hidle : t.stopping = .idle)
    (config : TransportConfig) (contextError : Option String) :
    (t.start config contextError).2.Sound := by
  rw [start]
  split
  · exact h
  · next hfree =>
    rw [not_or, not_not] at hfree
    have hrunning : t.loop.transport.running = false := by simpa using hfree.1
    split
    · next reason =>
      have hflags : (t.loop.transport.start false config.roomId).2.running = false := by
        simp [ZmqTransport.start, hrunning]
      exact
        { calls := by
            rw [CallsFit, hfree.2]
            refine Or.inr (Or.inl ⟨⟨[], _, rfl, fun c hc ↦ absurd hc List.not_mem_nil⟩,
              fun _ ↦ rfl, ?_⟩)
            simp [ZmqTransport.usable, hflags]
          running := by simp [hflags, hfree.2]
          context := by simp [hfree.2]
          ready := by simp
          stopping := fun hne ↦ absurd hidle hne
          head := by simp
          circling := by simp }
    · have hflags : (t.loop.transport.start true config.roomId).2.running = true := by
        simp [ZmqTransport.start, hrunning]
      exact
        { calls := ⟨fun c hc ↦ absurd hc List.not_mem_nil, fun _ ↦ rfl⟩
          running := by simp [hflags]
          context := by simp
          ready := by simp
          stopping := fun hne ↦ absurd hidle hne
          head := fun _ ↦ rfl
          circling := by simp }

omit [Double D] in
theorem sound_stopBegin {t : NetworkThread D} (h : t.Sound) : t.stopBegin.Sound := by
  have hcalls := h.calls
  rw [CallsFit] at hcalls
  rw [stopBegin]
  split
  · next habsent =>
    have hrunning : t.loop.transport.running = false := by
      simpa [habsent] using h.running
    have hsame : ({ t.loop.transport with running := false } : ZmqTransport Bytes D) =
        t.loop.transport := by
      rw [← hrunning]
    have hcontext : t.context = false := by simpa [habsent] using h.context
    rw [hsame, ← hcontext]
    exact h
  · next hthere =>
    have hunusable (flags : ZmqTransport Bytes D) (hflags : flags.shouldStop = true) :
        flags.usable = false := by
      simp [ZmqTransport.usable, hflags]
    exact
      { calls := by
          rw [CallsFit]
          revert hcalls
          cases t.stage with
          | absent => exact fun hcalls ↦ hcalls.imp id (Or.imp
              (fun hc ↦ ⟨hc.1, hc.2.1, hunusable _ rfl⟩) fun hc ↦ ⟨hc.1, hc.2.1, hunusable _ rfl⟩)
          | returned => exact fun hcalls ↦ hcalls.imp id (Or.imp
              (fun hc ↦ ⟨hc.1, hc.2.1, hunusable _ rfl⟩) fun hc ↦ ⟨hc.1, hc.2.1, hunusable _ rfl⟩)
          | _ => exact id
        running := h.running
        context := h.context
        ready := h.ready
        stopping := fun _ ↦ ⟨hthere, rfl⟩
        head := h.head
        circling := h.circling }

omit [Double D] in
theorem sound_stopJoin {t : NetworkThread D} (h : t.Sound) : t.stopJoin.Sound := by
  have hcalls := h.calls
  rw [CallsFit] at hcalls
  rw [stopJoin]
  split
  · next hreturned =>
    rw [hreturned] at hcalls
    exact
      { calls := by
          rw [CallsFit]
          exact hcalls.imp id (Or.imp (fun hc ↦ ⟨hc.1, hc.2.1, by simp [ZmqTransport.usable]⟩)
            fun hc ↦ ⟨hc.1, hc.2.1, by simp [ZmqTransport.usable]⟩)
        running := by simp
        context := by simp
        ready := by simp
        stopping := by simp
        head := by simp
        circling := by simp }
  · exact h

theorem sound_step {t : NetworkThread D} (h : t.Sound) (e : ThreadStep D) : (t.step e).Sound := by
  cases e with
  | thread encounter => exact sound_advance h encounter
  | start config contextError =>
    rw [step]
    split
    · next hidle => exact sound_start h hidle config contextError
    · exact h
  | stopBegin =>
    rw [step]
    split
    · exact sound_stopBegin h
    · exact h
  | stopClear =>
    rw [step]
    split
    · next hclearing =>
      have hclear : t.stopping ≠ .idle := by simp [hclearing]
      exact h.of_loop (l := { t.loop with transport := t.loop.transport.clearOutgoing })
        rfl rfl rfl rfl rfl fun _ ↦ hclear
    · exact h
  | stopJoin =>
    rw [step]
    split
    · exact sound_stopJoin h
    · exact h
  | _ => exact sound_host h (by simp) (by simp)

theorem sound_run (steps : List (ThreadStep D)) :
    (steps.foldl step ({} : NetworkThread D)).Sound := by
  have hnew : ({} : NetworkThread D).Sound :=
    { calls := Or.inr (Or.inr ⟨rfl, fun _ ↦ rfl, rfl⟩)
      running := by simp
      context := by simp
      ready := by simp
      stopping := by simp
      head := by simp
      circling := by simp }
  exact List.foldlRecOn steps step hnew fun _ hs e _ ↦ sound_step hs e

omit [Double D] in
/-- A failed set-up did not come up, and was not a set-up without a failure. -/
theorem SetUpFailed.exclusive {calls : List TransportCallback} (h : SetUpFailed calls) :
    ¬Unconnected calls ∧ ¬CameUp calls := by
  obtain ⟨front, text, rfl, hfront⟩ := h
  constructor
  · intro hlogs
    have herror := hlogs (.error text) (by simp)
    simp [TransportCallback.isLog] at herror
  · rintro ⟨before, after, heq, -, -⟩
    have hmem : TransportCallback.connected ∈ front ++ [.error text] := by simp [heq]
    rcases List.mem_append.mp hmem with hold | hlast
    · simpa [TransportCallback.isLog] using hfront _ hold
    · simp at hlast

/-- Without a thread, only `start` calls back. -/
theorem calls_of_absent {t : NetworkThread D} (h : t.Sound) (habsent : t.stage = .absent)
    {steps : List (ThreadStep D)}
    (hsteps : ∀ e ∈ steps, ∀ config reason, e ≠ .start config reason) :
    (steps.foldl step t).stage = .absent ∧ (steps.foldl step t).calls = t.calls := by
  have hidle (t' : NetworkThread D) (h' : t'.Sound) (habsent' : t'.stage = .absent) :
      t'.stopping = .idle := by
    by_contra hne
    exact (h'.stopping hne).1 habsent'
  have hrun : (steps.foldl step t).Sound ∧
      (steps.foldl step t).stage = .absent ∧ (steps.foldl step t).calls = t.calls := by
    refine List.foldlRecOn (motive := fun t' ↦ t'.Sound ∧ t'.stage = .absent ∧ t'.calls = t.calls)
      steps step ⟨h, habsent, rfl⟩ fun t' ⟨hs, ha, hc⟩ e he ↦ ⟨sound_step hs e, ?_⟩
    have hi := hidle t' hs ha
    cases e with
    | start config reason => exact absurd rfl (hsteps _ he config reason)
    | thread encounter => simp [step, advance, ha, hc]
    | stopBegin => simp [step, stopBegin, hi, ha, hc]
    | stopClear => simp [step, hi, ha, hc]
    | stopJoin => simp [step, hi, ha, hc]
    | _ => simp [step, host, hi, ha, hc]
  exact hrun.2

/-- **The network thread calls back in order.** In every state that `start`, `stop`, the calls of
the host and the steps of the thread can lead to, whatever libzmq answers: since the last `start`
there were only log lines, or these and one error at the end, or these, the report that the sockets
are up, and then anything but a second such report. Frames are sent only after it; after a failed
set-up nothing is accepted any more; the transport is running exactly while there is a thread to
join, and without one nothing is called back until the next `start`. -/
theorem callbacks_ordered (steps : List (ThreadStep D)) :
    let t := steps.foldl step ({} : NetworkThread D)
    (Unconnected t.calls ∨ SetUpFailed t.calls ∨ CameUp t.calls) ∧
      (∀ outlet, t.loop.trace outlet ≠ [] → CameUp t.calls) ∧
      (SetUpFailed t.calls → t.loop.transport.usable = false) ∧
      (t.loop.transport.running = true ↔ t.stage ≠ .absent) ∧
      (t.stage = .absent → ∀ later : List (ThreadStep D),
        (∀ e ∈ later, ∀ config reason, e ≠ .start config reason) →
          (later.foldl step t).calls = t.calls) := by
  intro t
  have hsound : t.Sound := sound_run steps
  have hfit := hsound.calls
  -- where the thread stands decides what was called back
  have hcases : (Unconnected t.calls ∧ ∀ outlet, t.loop.trace outlet = []) ∨
      (SetUpFailed t.calls ∧ (∀ outlet, t.loop.trace outlet = []) ∧
        t.loop.transport.usable = false) ∨ CameUp t.calls := by
    have hover : (CameUp t.calls ∨ SetUpFailed t.calls ∧ (∀ outlet, t.loop.trace outlet = []) ∧
        t.loop.transport.usable = false ∨
      t.calls = [] ∧ (∀ outlet, t.loop.trace outlet = []) ∧ t.loop.transport.usable = false) →
        (Unconnected t.calls ∧ ∀ outlet, t.loop.trace outlet = []) ∨
        (SetUpFailed t.calls ∧ (∀ outlet, t.loop.trace outlet = []) ∧
          t.loop.transport.usable = false) ∨ CameUp t.calls := by
      rintro (hup | hfailed | ⟨hnone, htrace, -⟩)
      · exact Or.inr (Or.inr hup)
      · exact Or.inr (Or.inl hfailed)
      · exact Or.inl ⟨fun c hc ↦ by simp [hnone] at hc, htrace⟩
    rw [CallsFit] at hfit
    cases hstage : t.stage with
    | setUp calls =>
      rw [hstage] at hfit
      exact Or.inl hfit
    | looping =>
      rw [hstage] at hfit
      exact Or.inr (Or.inr hfit)
    | delivering payloads =>
      rw [hstage] at hfit
      exact Or.inr (Or.inr hfit)
    | absent =>
      rw [hstage] at hfit
      exact hover hfit
    | returned =>
      rw [hstage] at hfit
      exact hover hfit
  refine ⟨?_, fun outlet hsent ↦ ?_, fun hfailed ↦ ?_, hsound.running, fun habsent later hlater ↦
    (calls_of_absent hsound habsent hlater).2⟩
  · exact hcases.imp And.left (Or.imp_left And.left)
  · rcases hcases with ⟨-, htrace⟩ | ⟨-, htrace, -⟩ | hup
    · exact absurd (htrace outlet) hsent
    · exact absurd (htrace outlet) hsent
    · exact hup
  · rcases hcases with ⟨hlogs, -⟩ | ⟨-, -, husable⟩ | hup
    · exact absurd hlogs hfailed.exclusive.1
    · exact husable
    · exact absurd hup hfailed.exclusive.2

end NetworkThread

end StylyNetSync
