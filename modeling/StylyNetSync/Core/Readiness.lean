import StylyNetSync.Core.OwnPresence
import StylyNetSync.Core.Standing
import StylyNetSync.Foundation.Run

/-!
# Readiness is reported exactly

A client is ready when the transport runs without an error, the client has a number, and the first
variable sync is in or its time is over. The host hears of it by an event, once for each time the
client enters the state.

Two things have to come at the right time for that. The report that the transport is connected takes
the client back to the beginning, whatever its state, and leaves alone the mark that readiness was
reported. So the report must not be taken after readiness was reported, or the client enters the
state once more and the host does not hear of it. A poll takes the reports and the payloads one
after the other, and in between all of it can come in: the poll is ready at once, and only the next
one takes the report.
-/

namespace StylyNetSync

/-- The host hears of readiness. -/
def Event.isReady : Event → Bool
  | .ready _ => true
  | _ => false

/-- The client enters the state. Every change of the state is told by an event. -/
def Event.entersReady : Event → Bool
  | .connectionStateChanged .ready => true
  | _ => false

def Notification.isConnected : Notification → Bool
  | .connected => true
  | _ => false

/-! ### Counting events -/

theorem countP_isReady_filter (events : List Event) :
    (events.filter Event.tellsReady).countP Event.isReady = events.countP Event.isReady := by
  rw [List.countP_filter]
  refine List.countP_congr fun event _ ↦ ?_
  cases event <;> simp [Event.isReady, Event.tellsReady]

theorem countP_entersReady_filter (events : List Event) :
    (events.filter Event.tellsReady).countP Event.entersReady =
      events.countP Event.entersReady := by
  rw [List.countP_filter]
  refine List.countP_congr fun event _ ↦ ?_
  cases event with
  | connectionStateChanged state => cases state <;> simp [Event.entersReady, Event.tellsReady]
  | _ => simp [Event.entersReady]

/-! ### What the notifications of a poll can do -/

namespace Standing

variable {D : Type}

/-- What no notification touches, and no notification makes a client ready. -/
theorem notified_keeps (notifications : List Notification) (standing : Standing D) :
    let standing' := notifications.foldl notified standing
    standing'.readyFired = standing.readyFired ∧
    standing'.hasReceivedInitialSync = standing.hasReceivedInitialSync ∧
    standing'.connectionEstablished = standing.connectionEstablished ∧
    standing'.connectionEstablishedAt = standing.connectionEstablishedAt ∧
    (standing'.helloEnqueued = true → standing.helloEnqueued = true) ∧
    (standing'.state = .ready → standing.state = .ready) := by
  induction notifications generalizing standing with
  | nil => exact ⟨rfl, rfl, rfl, rfl, id, id⟩
  | cons notification notifications ih =>
    obtain ⟨hfired, hsync, hestablished, hat, hhello, hstate⟩ := ih (standing.notified notification)
    rw [List.foldl_cons]
    cases notification <;>
      exact ⟨hfired, hsync, hestablished, hat, fun h ↦ by simpa [notified] using hhello h,
        fun h ↦ by simpa [notified] using hstate h⟩

/-- Without the report that the transport is connected, the state stays or becomes an error. -/
theorem state_notified {notifications : List Notification}
    (h : notifications.any Notification.isConnected = false) (standing : Standing D) :
    (notifications.foldl notified standing).state = standing.state ∨
      (notifications.foldl notified standing).state = .error := by
  induction notifications generalizing standing with
  | nil => exact Or.inl rfl
  | cons notification notifications ih =>
    rw [List.any_cons, Bool.or_eq_false_iff] at h
    rw [List.foldl_cons]
    cases notification with
    | connected => simp [Notification.isConnected] at h
    | error text => exact Or.inr ((ih h.2 _).elim id id)
    | log text => exact ih h.2 _
    | discovered server => exact ih h.2 _

end Standing

/-! ### What an observer keeps -/

/-- A client, and what an observer remembers of the session. -/
structure ReadyRun (D : Type) where
  session : Session D
  /-- How often the host heard of readiness. -/
  fired : ℕ := 0
  /-- How often the client entered the state. -/
  entered : ℕ := 0
  /-- A variable sync was received. -/
  received : Bool := false
  /-- When the client last tried to say hello. -/
  helloAt : Option D := none
  /-- Since then a poll came at least two seconds later. -/
  waited : Bool := false
  /-- The report that the transport is connected was taken. -/
  connected : Bool := false

namespace ReadyRun

variable {D : Type} [DoubleTrig D] [DoubleText D]

/-- A newly constructed client. -/
def new (clock : D) : ReadyRun D where
  session := Session.new clock

/-- The session at the beginning of a call. -/
def begins (schedule : List (List (NetworkStep D))) (r : ReadyRun D) : Session D :=
  { r.session with shared := { r.session.shared with schedule := schedule } }

/-- The poll takes the report that the transport is connected. -/
def takesConnected (s : Session D) : Bool :=
  s.shared.takeNotifications.1.any Notification.isConnected

/-- The poll tries to say hello. -/
def saysHello (s : Session D) : Bool :=
  decide (({ s with events := [] } : Session D).drainInternalEvents.client.standing.greets)

/-- What the observer sees of a poll. -/
def poll (decode : Bytes → Option (List Bytes)) (now : D) (s : Session D) (r : ReadyRun D) :
    ReadyRun D :=
  let events := (s.poll decode now).1
  let helloAt := if saysHello s then some now else r.helloAt
  { session := (s.poll decode now).2
    fired := r.fired + events.countP Event.isReady
    entered := r.entered + events.countP Event.entersReady
    received := r.received || (s.mailOfPoll now).control.any isVariableSync
    helloAt := helloAt
    waited := (r.waited && !saysHello s) ||
      helloAt.any fun time ↦ !Double.lt (now - time) kInitialSyncTimeout
    connected := r.connected || takesConnected s }

/-- The observer begins anew with every session. -/
def step (decode : Bytes → Option (List Bytes)) (r : ReadyRun D) (e : LifeStep D) : ReadyRun D :=
  let session := r.session.live decode e
  match e with
  | .connect _ _ =>
    if r.session.client.state = .disconnected ∨ r.session.client.state = .error then
      { session := session }
    else { r with session := session }
  | .disconnect _ => { session := session }
  | .session (.call (.poll now) schedule) =>
    if r.session.client.state = .disconnected then { r with session := session }
    else r.poll decode now (r.begins schedule)
  | .session _ => { r with session := session }

/-- The report that the transport is connected comes once in a session, and it is not taken after
readiness was reported; and the time of a poll is a number. -/
def OnTime (r : ReadyRun D) : LifeStep D → Prop
  | .session (.call (.poll now) schedule) =>
    Double.lt (now - now) kInitialSyncTimeout = true ∧
      (takesConnected (r.begins schedule) = true →
        r.connected = false ∧ r.session.client.readyFired = false)
  | _ => True

/-- A poll reports readiness only if the client is ready at its end, and leaves it in the state if
and only if it is. -/
def Reports (decode : Bytes → Option (List Bytes)) (r : ReadyRun D) : LifeStep D → Prop
  | .session (.call (.poll now) schedule) =>
    let events := ((r.begins schedule).poll decode now).1
    let s := ((r.begins schedule).poll decode now).2
    let r' := r.step decode (.session (.call (.poll now) schedule))
    ((∃ event ∈ events, event.isReady = true) →
      s.shared.transport.running = true ∧ s.shared.transport.connectionError = false ∧
        0 < s.client.clientNo ∧ (r'.received = true ∨ r'.waited = true)) ∧
    (s.client.state ≠ .error → s.client.state ≠ .disconnected →
      (s.client.state = .ready ↔ s.readyNow = true))
  | _ => True

end ReadyRun

/-! ### The invariant -/

/-- What ties the standing of a client to what the observer remembers, between the parts of a poll
as well as between the polls. -/
structure Standing.Sound {D : Type} (standing : Standing D) (received waited connected : Bool)
    (helloAt : Option D) : Prop where
  fires : standing.state = .ready → standing.readyFired = true
  fired : standing.readyFired = true → standing.state = .ready ∨ standing.state = .error
  sync : standing.hasReceivedInitialSync = true → received = true ∨ waited = true
  hello : helloAt =
    if standing.connectionEstablished then some standing.connectionEstablishedAt else none
  before : connected = false → standing.state ≠ .connected ∧ standing.helloEnqueued = false ∧
    standing.connectionEstablished = false ∧ waited = false
  pending : standing.state = .connected → standing.helloEnqueued = false ∧ waited = false

namespace Standing.Sound

variable {D : Type} {standing : Standing D} {received waited connected : Bool} {helloAt : Option D}

/-- The notifications of a poll. -/
theorem notified (h : standing.Sound received waited connected helloAt)
    {notifications : List Notification}
    (htaken : notifications.any Notification.isConnected = true →
      connected = false ∧ standing.readyFired = false) :
    (notifications.foldl Standing.notified standing).Sound received waited
      (connected || notifications.any Notification.isConnected) helloAt := by
  obtain ⟨hfired, hsync, hestablished, hat, hhello, hready⟩ :=
    notified_keeps notifications standing
  have hkept (hno : standing.helloEnqueued = false) :
      (notifications.foldl Standing.notified standing).helloEnqueued = false := by
    rw [← Bool.not_eq_true] at hno ⊢
    exact fun hyes ↦ hno (hhello hyes)
  cases hany : notifications.any Notification.isConnected with
  | true =>
    -- nothing has happened in this session before
    obtain ⟨hfirst, hunfired⟩ := htaken hany
    obtain ⟨-, hno, -, hwaited⟩ := h.before hfirst
    rw [Bool.or_true]
    refine ⟨fun hstate ↦ ?_, fun hyes ↦ ?_, ?_, ?_, by simp, fun _ ↦ ⟨hkept hno, hwaited⟩⟩
    · rw [hfired]
      exact h.fires (hready hstate)
    · rw [hfired, hunfired] at hyes
      simp at hyes
    · rw [hsync]
      exact h.sync
    · rw [hestablished, hat]
      exact h.hello
  | false =>
    rw [Bool.or_false]
    have hstate := state_notified hany standing
    refine ⟨fun hyes ↦ ?_, fun hyes ↦ ?_, ?_, ?_, fun hfirst ↦ ?_, fun hyes ↦ ?_⟩
    · rw [hfired]
      exact h.fires (hready hyes)
    · rw [hfired] at hyes
      rcases hstate with hsame | herror
      · rw [hsame]
        exact h.fired hyes
      · exact Or.inr herror
    · rw [hsync]
      exact h.sync
    · rw [hestablished, hat]
      exact h.hello
    · obtain ⟨hnot, hno, hnever, hwaited⟩ := h.before hfirst
      refine ⟨?_, hkept hno, hestablished.trans hnever, hwaited⟩
      rcases hstate with hsame | herror
      · rwa [hsame]
      · rw [herror]
        simp
    · rcases hstate with hsame | herror
      · rw [hsame] at hyes
        exact ⟨hkept (h.pending hyes).1, (h.pending hyes).2⟩
      · rw [herror] at hyes
        simp at hyes

/-- The greeting. A client that is still connected afterwards was refused just now. -/
theorem greet (h : standing.Sound received waited connected helloAt) (now : D) (accepted : Bool) :
    (standing.greet now accepted).Sound received (waited && !decide standing.greets) connected
        (if standing.greets then some now else helloAt) ∧
      ((standing.greet now accepted).state = .connected →
        (standing.greet now accepted).connectionEstablishedAt = now) := by
  rw [Standing.greet]
  by_cases hgreets : standing.greets
  · have hunfired : standing.readyFired = false := by
      rw [← Bool.not_eq_true]
      intro hfired
      rcases h.fired hfired with hstate | hstate
      · simp [hgreets.1] at hstate
      · simp [hgreets.1] at hstate
    have hconnected : connected = true := by
      rw [← Bool.not_eq_false]
      exact fun hfirst ↦ (h.before hfirst).1 hgreets.1
    rw [if_pos hgreets, if_pos hgreets]
    refine ⟨⟨fun hstate ↦ ?_, fun hyes ↦ ?_, fun hsync ↦ ?_, rfl, ?_, fun hstate ↦ ?_⟩, fun _ ↦ rfl⟩
    · cases accepted <;> simp [greeted] at hstate
    · simp [greeted, hunfired] at hyes
    · rcases h.sync hsync with hreceived | hwaited
      · exact Or.inl hreceived
      · rw [(h.pending hgreets.1).2] at hwaited
        simp at hwaited
    · simp [hconnected]
    · cases accepted with
      | true => simp [greeted] at hstate
      | false => exact ⟨rfl, by simp [hgreets]⟩
  · rw [if_neg hgreets, if_neg hgreets]
    simp only [hgreets, decide_false, Bool.not_false, Bool.and_true]
    exact ⟨h, fun hstate ↦ absurd ⟨hstate, (h.pending hstate).1⟩ hgreets⟩

/-- What comes in, and the end of the wait. -/
theorem synced [Double D] (h : standing.Sound received waited connected helloAt) (now : D)
    (hnumber : Double.lt (now - now) (kInitialSyncTimeout : D) = true)
    (hnow : standing.state = .connected → standing.connectionEstablishedAt = now) (sync : Bool) :
    (standing.synced (sync || standing.expired now)).Sound (received || sync)
      (waited || helloAt.any fun time ↦ !Double.lt (now - time) kInitialSyncTimeout) connected
      helloAt := by
  have hexpired : helloAt.any (fun time ↦ !Double.lt (now - time) kInitialSyncTimeout) =
      standing.expired now := by
    rw [h.hello, expired]
    cases standing.connectionEstablished <;> simp
  rw [hexpired]
  refine ⟨h.fires, h.fired, fun hsync ↦ ?_, h.hello, fun hfirst ↦ ?_, fun hstate ↦ ?_⟩
  · simp only [Standing.synced, Bool.or_eq_true] at hsync ⊢
    rcases hsync with (hsync | hover) | hsync
    · exact Or.inl (Or.inr hsync)
    · exact Or.inr (Or.inr hover)
    · exact (h.sync hsync).imp Or.inl Or.inl
  · obtain ⟨hnot, hno, hnever, hwaited⟩ := h.before hfirst
    exact ⟨hnot, hno, hnever, by simp [hwaited, expired, hnever]⟩
  · obtain ⟨hno, hwaited⟩ := h.pending hstate
    exact ⟨hno, by simp [hwaited, expired, hnow hstate, hnumber]⟩

/-- The client is ready. -/
theorem ready (h : standing.Sound received waited connected helloAt) :
    ({ standing with state := .ready, readyFired := true } : Standing D).Sound received waited
      connected helloAt where
  fires _ := rfl
  fired _ := Or.inl rfl
  sync := h.sync
  hello := h.hello
  before hfirst := ⟨by simp, (h.before hfirst).2⟩
  pending hstate := by simp at hstate

/-- The client is ready no more. -/
theorem lost (h : standing.Sound received waited connected helloAt) :
    ({ standing with state := .synchronizing, readyFired := false } : Standing D).Sound received
      waited connected helloAt where
  fires hstate := by simp at hstate
  fired hfired := by simp at hfired
  sync := h.sync
  hello := h.hello
  before hfirst := ⟨by simp, (h.before hfirst).2⟩
  pending hstate := by simp at hstate

/-- A session begins, or is over. -/
theorem fresh (state : ConnectionState) (time : D) (hready : state ≠ .ready)
    (hconnected : state ≠ .connected) :
    (⟨state, false, false, false, false, time⟩ : Standing D).Sound false false false none where
  fires hstate := absurd hstate hready
  fired hfired := by simp at hfired
  sync hsync := by simp at hsync
  hello := rfl
  before _ := ⟨hconnected, rfl, rfl, rfl⟩
  pending hstate := absurd hstate hconnected

end Standing.Sound

/-! ### The steps of a life -/

namespace Session

variable {D : Type} [Double D]

theorem sound_disconnect (s : Session D) :
    s.disconnect.client.standing.Sound false false false none :=
  Standing.Sound.fresh .disconnected _ (by simp) (by simp)

theorem sound_connect (config : ClientConfig D) {s : Session D}
    (hstate : s.client.state = .disconnected ∨ s.client.state = .error) :
    (s.connect config).2.client.standing.Sound false false false none := by
  obtain ⟨state, hbegun, hstanding⟩ := standing_connect config hstate
  rw [hstanding]
  rcases hbegun with rfl | rfl
  · exact Standing.Sound.fresh _ _ (by simp) (by simp)
  · exact Standing.Sound.fresh _ _ (by simp) (by simp)

/-- The last look: the host hears of readiness exactly when the client enters the state. -/
theorem sound_updateReady {s : Session D} {received waited connected : Bool} {helloAt : Option D}
    (htold : s.events.filter Event.tellsReady = [])
    (h : s.client.standing.Sound received waited connected helloAt) :
    s.updateReady.client.standing.Sound received waited connected helloAt ∧
      s.updateReady.events.countP Event.isReady =
        s.updateReady.events.countP Event.entersReady := by
  rw [← countP_isReady_filter, ← countP_entersReady_filter]
  rcases s.updateReady_cases with ⟨-, hsame⟩ | ⟨herror, -, hready, hevents⟩ |
    ⟨-, -, hlost, hevents⟩
  · rw [hsame, htold]
    exact ⟨h, rfl⟩
  · rw [hready, hevents, htold]
    refine ⟨h.ready, ?_⟩
    by_cases hstate : s.client.state = .ready
    · have hfired : s.client.readyFired = true := h.fires hstate
      rw [if_pos hstate, if_pos hfired]
      rfl
    · have hunfired : ¬s.client.readyFired = true := by
        intro hfired
        rcases h.fired hfired with hready | hfailed
        · exact hstate hready
        · exact herror hfailed
      rw [if_neg hstate, if_neg hunfired]
      rfl
  · rw [hlost, hevents, htold]
    refine ⟨?_, rfl⟩
    split
    · exact h.lost
    · exact h

/-- Whoever hears of readiness in the last look is ready, and after it the state is that of a ready
client exactly if the client is. -/
theorem updateReady_exact {s : Session D} (htold : s.events.filter Event.tellsReady = []) :
    ((∃ event ∈ s.updateReady.events, event.isReady = true) → s.updateReady.readyNow = true) ∧
      (s.updateReady.client.state ≠ .error → s.updateReady.client.state ≠ .disconnected →
        (s.updateReady.client.state = .ready ↔ s.updateReady.readyNow = true)) := by
  have hnone (h : s.updateReady.events.filter Event.tellsReady = []) :
      ¬∃ event ∈ s.updateReady.events, event.isReady = true := by
    rintro ⟨event, hevent, hready⟩
    have hcount := countP_isReady_filter s.updateReady.events
    rw [h, List.countP_nil] at hcount
    exact List.countP_eq_zero.mp hcount.symm event hevent hready
  rcases s.updateReady_cases with
    ⟨hfailed, hsame⟩ | ⟨-, hnow, hready, -⟩ | ⟨-, hnow, hlost, hevents⟩
  · rw [hsame] at hnone ⊢
    exact ⟨fun h ↦ absurd h (hnone htold), fun herror hover ↦ absurd hfailed (by tauto)⟩
  · have hstate : s.updateReady.client.state = .ready := congrArg Standing.state hready
    rw [hstate, hnow]
    exact ⟨fun _ ↦ rfl, fun _ _ ↦ by simp⟩
  · have hstate : s.updateReady.client.state ≠ .ready := by
      have hstanding := congrArg Standing.state hlost
      intro hready
      split at hstanding
      · rw [show s.updateReady.client.standing.state = .ready from hready] at hstanding
        simp at hstanding
      · next hnot => exact hnot (hstanding.symm.trans hready)
    refine ⟨fun h ↦ absurd h (hnone (hevents.trans htold)), fun _ _ ↦ ?_⟩
    rw [hnow]
    simp [hstate]

end Session

namespace ReadyRun

variable {D : Type} [DoubleTrig D] [DoubleText D] {r : ReadyRun D}

/-- The host has heard of readiness as often as the client entered the state. -/
structure Sound (r : ReadyRun D) : Prop where
  counted : r.fired = r.entered
  standing : r.session.client.standing.Sound r.received r.waited r.connected r.helloAt

omit [DoubleText D] in
theorem saysHello_eq (s : Session D) :
    saysHello s =
      decide (s.shared.takeNotifications.1.foldl Standing.notified s.client.standing).greets := by
  rw [saysHello, (Session.standing_drainInternalEvents _).1]

/-- The parts of a poll before the last look keep the standing sound. -/
theorem sound_before (now : D) {s : Session D} (hclient : s.client = r.session.client)
    (hnumber : Double.lt (now - now) (kInitialSyncTimeout : D) = true)
    (htaken : takesConnected s = true →
      r.connected = false ∧ r.session.client.readyFired = false)
    (h : r.session.client.standing.Sound r.received r.waited r.connected r.helloAt)
    (accepted : Bool) (decode : Bytes → Option (List Bytes)) :
    let greeted := (s.shared.takeNotifications.1.foldl Standing.notified
      s.client.standing).greet now accepted
    (greeted.synced ((s.mailOfPoll now).control.any isVariableSync || greeted.expired now)).Sound
      (r.poll decode now s).received (r.poll decode now s).waited (r.poll decode now s).connected
      (r.poll decode now s).helloAt := by
  rw [← hclient] at h htaken
  obtain ⟨hgreeted, hnow⟩ := (h.notified htaken).greet now accepted
  have hsound := hgreeted.synced now hnumber hnow ((s.mailOfPoll now).control.any isVariableSync)
  rw [poll]
  dsimp only
  rw [saysHello_eq, takesConnected]
  simpa only [decide_eq_true_eq] using hsound

/-- **One poll.** Up to the last look nothing is told of readiness; the last look tells of it
exactly when it enters the state. -/
theorem sound_poll (decode : Bytes → Option (List Bytes)) (now : D) {s : Session D}
    (hclient : s.client = r.session.client) (hstate : s.client.state ≠ .disconnected)
    (hnumber : Double.lt (now - now) (kInitialSyncTimeout : D) = true)
    (htaken : takesConnected s = true →
      r.connected = false ∧ r.session.client.readyFired = false) (h : r.Sound) :
    (r.poll decode now s).Sound := by
  obtain ⟨accepted, s₁, hstanding, htold, hpoll⟩ := Session.poll_standing decode now hstate
  have hsound := sound_before now hclient hnumber htaken h.standing accepted decode
  dsimp only at hstanding hsound
  rw [← hstanding] at hsound
  obtain ⟨hlast, hcount⟩ := Session.sound_updateReady htold hsound
  constructor
  · show r.fired + (s.poll decode now).1.countP _ = r.entered + (s.poll decode now).1.countP _
    rw [hpoll, h.counted, hcount]
  · show (s.poll decode now).2.client.standing.Sound _ _ _ _
    rw [hpoll]
    exact hlast

/-- **One step of a life.** -/
theorem sound_step (decode : Bytes → Option (List Bytes)) (e : LifeStep D) (h : r.Sound)
    (hcond : r.OnTime e) : (r.step decode e).Sound := by
  cases e with
  | connect config schedule =>
    rw [step]
    split
    · next hstate => exact ⟨rfl, Session.sound_connect config (s := r.begins schedule) hstate⟩
    · next hstate =>
      refine ⟨h.counted, ?_⟩
      rw [Session.live, Session.connect, if_pos (not_or.mp hstate)]
      exact h.standing
  | disconnect schedule => exact ⟨rfl, Session.sound_disconnect (r.begins schedule)⟩
  | session e =>
    cases e with
    | network n => exact ⟨h.counted, h.standing⟩
    | call call schedule =>
      by_cases hcall : ∃ now, call = .poll now
      · obtain ⟨now, rfl⟩ := hcall
        rw [step]
        split
        · next hstate =>
          refine ⟨h.counted, ?_⟩
          show ((r.begins schedule).poll decode now).2.client.standing.Sound _ _ _ _
          rw [Session.poll_of_disconnected decode now (s := r.begins schedule) hstate]
          exact h.standing
        · next hstate => exact sound_poll decode now rfl hstate hcond.1 hcond.2 h
      · have hother : ∀ now, call ≠ .poll now := fun now hnow ↦ hcall ⟨now, hnow⟩
        have hstep : r.step decode (.session (.call call schedule)) =
            { r with session := r.session.live decode (.session (.call call schedule)) } := by
          cases call with
          | poll now => exact absurd rfl (hother now)
          | _ => rfl
        rw [hstep]
        refine ⟨h.counted, ?_⟩
        have hstill := Session.still_perform decode (r.begins schedule) hother
        show ((r.begins schedule).perform decode call).client.standing.Sound _ _ _ _
        rw [hstill.standing]
        exact h.standing

/-- What the polls report follows from the last look, and from the standing at the end. -/
theorem reports_step (decode : Bytes → Option (List Bytes)) (e : LifeStep D)
    (h : (r.step decode e).Sound) : r.Reports decode e := by
  cases e with
  | connect config schedule => trivial
  | disconnect schedule => trivial
  | session e =>
    cases e with
    | network n => trivial
    | call call schedule =>
      cases call with
      | poll now =>
        by_cases hstate : (r.begins schedule).client.state = .disconnected
        · have hidle := Session.poll_of_disconnected decode now hstate
          refine ⟨?_, fun _ hconnected ↦ ?_⟩
          · rintro ⟨event, hevent, -⟩
            rw [hidle] at hevent
            simp at hevent
          · rw [hidle] at hconnected
            exact absurd hstate hconnected
        · obtain ⟨-, s₁, -, htold, hpoll⟩ := Session.poll_standing decode now hstate
          obtain ⟨hheard, hexact⟩ := Session.updateReady_exact htold
          have hstep : r.step decode (.session (.call (.poll now) schedule)) =
              r.poll decode now (r.begins schedule) := if_neg hstate
          rw [Reports, hstep]
          rw [hstep] at h
          rw [hpoll]
          refine ⟨fun hevent ↦ ?_, hexact⟩
          obtain ⟨hrunning, herror, hnumber, hsync⟩ :=
            (Session.readyNow_iff _).mp (hheard hevent)
          refine ⟨hrunning, herror, hnumber, h.standing.sync ?_⟩
          show ((r.begins schedule).poll decode
            now).2.client.networkVariables.hasReceivedInitialSync = true
          rw [hpoll]
          exact hsync
      | _ => trivial

/-- **Readiness is reported exactly.** In every life of a client in which the report that the
transport is connected comes once in a session and not after readiness was reported, a poll that
tells of readiness ends ready; a poll that does not end in failure ends in the state exactly if the
client is ready; and in every session the host hears of readiness as often as the client enters the
state. -/
theorem readiness_exact (decode : Bytes → Option (List Bytes)) (clock : D)
    (es : List (LifeStep D))
    (h : Along (step decode) OnTime (new clock) es) :
    Along (step decode) (Reports decode) (new clock) es ∧
      (es.foldl (step decode) (new clock)).fired =
        (es.foldl (step decode) (new clock)).entered := by
  have hstart : (new clock).Sound :=
    ⟨rfl, Standing.Sound.fresh .disconnected _ (by simp) (by simp)⟩
  have hstep (r : ReadyRun D) (e : LifeStep D) (hr : r.Sound) (hcond : r.OnTime e) :
      (r.step decode e).Sound := sound_step decode e hr hcond
  refine ⟨?_, (h.invariant hstep hstart).counted⟩
  exact h.imp_of_kept hstep (fun r e hr hcond ↦ reports_step decode e (hstep r e hr hcond)) hstart

/-! ### Both orders -/

/-- A server without variables says so. -/
def noVariables : Bytes := serializeGlobalVarSync ⟨[]⟩

/-- The transport is connected, and then the server answers: the client gets a number and a variable
sync. -/
def serverAnswers : List (NetworkStep ℚ) :=
  [.notify .connected, .payload .control Session.twoDevices, .payload .control noVariables]

/-- All of it comes in before the poll. -/
def answeredBefore : List (LifeStep ℚ) :=
  .connect Session.deviceConfig [] ::
    (serverAnswers.map fun n ↦ .session (.network n)) ++
    [.session (.call (.poll 1) []), .session (.call (.poll 2) [])]

theorem readiness_exact_answeredBefore :
    let r := answeredBefore.foldl (step fun _ ↦ none) (new (0 : ℚ))
    r.fired = 1 ∧ r.entered = 1 ∧ r.session.client.state = .ready ∧
      Along (step fun _ ↦ none) (Reports fun _ ↦ none) (new (0 : ℚ))
        answeredBefore := by
  have h : Along (step fun _ ↦ none) OnTime (new (0 : ℚ)) answeredBefore := by
    refine ⟨trivial, trivial, trivial, trivial, ⟨by decide +kernel, fun _ ↦ ?_⟩,
      ⟨by decide +kernel, fun htaken ↦ ?_⟩, trivial⟩
    · exact ⟨by decide +kernel, by decide +kernel⟩
    · exact absurd htaken (by decide +kernel)
  exact ⟨by decide +kernel, by decide +kernel, by decide +kernel,
    (readiness_exact (fun _ ↦ none) 0 answeredBefore h).1⟩

/-- All of it comes in while a poll is under way that has taken the reports and not the payloads. -/
def answeredBetween : List (LifeStep ℚ) :=
  [.connect Session.deviceConfig [], .session (.call (.poll 1) [[], serverAnswers]),
    .session (.call (.poll 2) [])]

/-- The next poll takes the report, and the client enters the state once more. The host does not
hear of it. -/
theorem second_entry_untold :
    let r := answeredBetween.foldl (step fun _ ↦ none) (new (0 : ℚ))
    r.fired = 1 ∧ r.entered = 2 ∧ r.session.client.state = .ready := by
  decide +kernel

end ReadyRun

end StylyNetSync
