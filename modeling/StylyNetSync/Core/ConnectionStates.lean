import StylyNetSync.Core.Standing
import StylyNetSync.Foundation.Route

/-!
# The states of a connection

The host is told of a new connection state by an event, and not at all when `connect` and
`disconnect` set it. What it can know is therefore what these calls answered and what the polls
returned: its **sightings**. A connection is here a machine of its own, `Becomes`, that says which
state can come after which in a session. The client refines it: the states that a poll tells are a
route of the machine from the state before the poll to the state after it, and nothing but these
three calls moves the state. Whoever keeps the last state seen hence always has the state of the
client.
-/

namespace StylyNetSync

namespace ConnectionState

/-- Which state can come after which while a session lasts. -/
inductive Becomes : ConnectionState → ConnectionState → Prop
  /-- The sockets are up. -/
  | connects {state : ConnectionState} :
    state ≠ .disconnected → state ≠ .connected → Becomes state .connected
  /-- The transport has failed. -/
  | fails {state : ConnectionState} :
    state ≠ .disconnected → state ≠ .error → Becomes state .error
  /-- The hello is on its way. -/
  | greets : Becomes .connected .synchronizing
  /-- The client is usable. -/
  | readies {state : ConnectionState} :
    state ≠ .disconnected → state ≠ .error → state ≠ .ready → Becomes state .ready
  /-- The client is no longer usable. -/
  | loses : Becomes .ready .synchronizing

/-- What the host sees of a client. -/
inductive Sighting
  | connect (started : Bool)
  | disconnect
  | poll (events : List Event)

end ConnectionState

/-- The state that an event tells of. -/
def Event.stateTold : Event → Option ConnectionState
  | .connectionStateChanged state => some state
  | _ => none

/-- The states that events tell of, in their order. -/
def statesTold (events : List Event) : List ConnectionState := events.filterMap Event.stateTold

namespace ConnectionState

/-- What the host takes the state to be, after a sighting. -/
def see (state : ConnectionState) : Sighting → ConnectionState
  | .connect true => .connecting
  -- refused while a session lasts, else failed at once
  | .connect false => if state ≠ .disconnected ∧ state ≠ .error then state else .error
  | .disconnect => .disconnected
  | .poll events => (statesTold events).getLastD state

end ConnectionState

open ConnectionState (Becomes Sighting)

namespace Session

variable {D : Type}

/-! ### Parts that leave the state alone -/

/-- The state stays what it is, and no event tells of one. -/
structure Stays (s s' : Session D) : Prop where
  state : s'.client.state = s.client.state
  told : statesTold s'.events = statesTold s.events

namespace Stays

variable {s s₁ s₂ : Session D}

theorem refl (s : Session D) : Stays s s := ⟨rfl, rfl⟩

theorem trans (h : Stays s s₁) (h' : Stays s₁ s₂) : Stays s s₂ :=
  ⟨h'.state.trans h.state, h'.told.trans h.told⟩

theorem foldl {α : Type} {f : Session D → α → Session D} (hf : ∀ s a, Stays s (f s a))
    (items : List α) (s : Session D) : Stays s (items.foldl f s) := by
  induction items generalizing s with
  | nil => exact refl s
  | cons a items ih => exact (hf s a).trans (ih (f s a))

/-- More events, none of which tells of a state. -/
theorem of_events {more : List Event} (hstate : s₁.client.state = s.client.state)
    (hevents : s₁.events = s.events ++ more) (hmore : ∀ event ∈ more, event.stateTold = none) :
    Stays s s₁ := by
  refine ⟨hstate, ?_⟩
  have hnone : statesTold more = [] := List.filterMap_eq_nil_iff.mpr hmore
  rw [hevents, statesTold, List.filterMap_append]
  show statesTold s.events ++ statesTold more = statesTold s.events
  rw [hnone, List.append_nil]

end Stays

theorem stays_emit {event : Event} (h : event.stateTold = none) (s : Session D) :
    Stays s (s.emit event) :=
  Stays.of_events rfl rfl fun e he ↦ by rwa [List.mem_singleton.mp he]

/-- Events that all come out of one function. -/
theorem stays_emits {α : Type} {f : α → Event} (h : ∀ a, (f a).stateTold = none) (items : List α)
    {s s' : Session D} (hstate : s'.client.state = s.client.state)
    (hevents : s'.events = s.events ++ items.map f) : Stays s s' := by
  refine Stays.of_events hstate hevents fun event hevent ↦ ?_
  obtain ⟨a, -, rfl⟩ := List.mem_map.mp hevent
  exact h a

theorem stays_processDeviceIdMapping (message : DeviceIdMappingMessage) (s : Session D) :
    Stays s (s.processDeviceIdMapping message) := by
  have hemit : ∀ (p : Bool) {event : Event}, event.stateTold = none → ∀ s : Session D,
      Stays s (if p then s.emit event else s) := by
    intro p event htells s
    cases p with
    | true => exact stays_emit htells s
    | false => exact Stays.refl s
  rw [processDeviceIdMapping]
  dsimp only
  refine Stays.trans ?_ (hemit _ rfl _)
  split
  · exact ⟨rfl, rfl⟩
  · refine Stays.trans ?_ (stays_emit rfl _)
    exact ⟨rfl, rfl⟩

variable [Double D]

theorem stays_processRpc (decode : Bytes → Option (List Bytes)) (message : RpcMessage)
    (s : Session D) : Stays s (s.processRpc decode message) := by
  have hlog (text : String) : Stays s (s.pushLog text) := ⟨rfl, rfl⟩
  rw [processRpc]
  split
  · exact stays_emit rfl s
  · exact (hlog _).trans (stays_emit rfl _)

theorem stays_processControlPayload (decode : Bytes → Option (List Bytes)) (s : Session D)
    (payload : Bytes) : Stays s (s.processControlPayload decode payload) := by
  have hlog (text : String) : Stays s (s.pushLog text) := ⟨rfl, rfl⟩
  rw [processControlPayload]
  split
  · split
    · exact hlog _
    · exact stays_processDeviceIdMapping _ s
  split
  · split
    · exact hlog _
    · exact stays_processRpc decode _ s
  split
  · split
    · exact hlog _
    · exact stays_emits (fun _ ↦ rfl) _ rfl rfl
  split
  · split
    · exact hlog _
    · exact stays_emits (fun _ ↦ rfl) _ rfl rfl
  split
  · split
    · exact hlog _
    · refine Stays.trans ?_ (stays_emit rfl _)
      exact ⟨rfl, rfl⟩
  split
  · split
    · exact hlog _
    · exact stays_emit rfl s
  · exact Stays.refl s

theorem stays_processRoomObjects (payload : Bytes) (s : Session D) :
    Stays s (s.processRoomObjects payload) := by
  rw [processRoomObjects]
  split
  · exact ⟨rfl, rfl⟩
  · exact stays_emits (fun _ ↦ rfl) _ rfl rfl

theorem stays_startTransport (s : Session D) : Stays s s.startTransport := by
  obtain ⟨hstanding, hevents⟩ := standing_startTransport s
  exact ⟨congrArg Standing.state hstanding, congrArg statesTold hevents⟩

/-! ### Parts that move the state -/

/-- The events tell of a way from the state before to the state after. -/
def Goes (s s' : Session D) : Prop :=
  ∃ stations, statesTold s'.events = statesTold s.events ++ stations ∧
    Route Becomes s.client.state stations s'.client.state

omit [Double D] in
theorem Stays.goes {s s' : Session D} (h : Stays s s') : Goes s s' :=
  ⟨[], by rw [h.told, List.append_nil], Route.nil_iff.mpr h.state.symm⟩

omit [Double D] in
theorem Goes.trans {s s₁ s₂ : Session D} (h : Goes s s₁) (h' : Goes s₁ s₂) : Goes s s₂ := by
  obtain ⟨stations, htold, hroute⟩ := h
  obtain ⟨stations', htold', hroute'⟩ := h'
  refine ⟨stations ++ stations', ?_, hroute.append hroute'⟩
  rw [htold', htold, List.append_assoc]

omit [Double D] in
/-- A session does not end on the way. -/
theorem Goes.ne_disconnected {s s' : Session D} (h : Goes s s')
    (hstate : s.client.state ≠ .disconnected) : s'.client.state ≠ .disconnected := by
  obtain ⟨stations, -, hroute⟩ := h
  revert hstate hroute
  generalize s.client.state = state
  intro hstate hroute
  induction stations generalizing state with
  | nil => rwa [← Route.nil_iff.mp hroute]
  | cons station stations ih =>
    obtain ⟨hstep, hrest⟩ := Route.cons_iff.mp hroute
    exact ih station (by cases hstep <;> simp) hrest

omit [Double D] in
theorem goes_setState {state : ConnectionState} {s : Session D}
    (h : s.client.state ≠ state → Becomes s.client.state state) : Goes s (s.setState state) := by
  rw [setState]
  split
  · exact (Stays.refl s).goes
  · next hstate =>
    refine ⟨[state], ?_, Route.single (h hstate)⟩
    simp [emit, statesTold, Event.stateTold]

theorem goes_handleNotification {s : Session D} (hstate : s.client.state ≠ .disconnected)
    (notification : Notification) : Goes s (s.handleNotification notification) := by
  cases notification with
  | connected => exact goes_setState fun hnew ↦ .connects hstate hnew
  | error text =>
    exact (goes_setState fun hnew ↦ .fails hstate hnew).trans (stays_emit rfl _).goes
  | log text => exact (stays_emit rfl s).goes
  | discovered server =>
    refine Stays.goes (Stays.trans (Stays.trans ?_ (stays_emit rfl _)) (stays_startTransport _))
    exact ⟨rfl, rfl⟩

theorem goes_drainInternalEvents {s : Session D} (hstate : s.client.state ≠ .disconnected) :
    Goes s s.drainInternalEvents := by
  have hfold (notifications : List Notification) (s : Session D)
      (hstate : s.client.state ≠ .disconnected) :
      Goes s (notifications.foldl handleNotification s) := by
    induction notifications generalizing s with
    | nil => exact (Stays.refl s).goes
    | cons notification notifications ih =>
      have hfirst := goes_handleNotification hstate notification
      exact hfirst.trans (ih _ (hfirst.ne_disconnected hstate))
  exact hfold _ { s with shared := s.shared.takeNotifications.2 } hstate

/-- The hello moves a client that has just come up. -/
theorem goes_greet (now : D) (s : Session D) : Goes s (s.greet now) := by
  rw [greet]
  split
  · next hdue =>
    let m := s.client.networkVariables.onConnectionEstablished now
    have hhello : ∀ s : Session D, Stays s s.enqueueHello := by
      intro s
      rw [enqueueHello]
      split <;> exact ⟨rfl, rfl⟩
    have hclock : Stays s { s with client := { s.client with networkVariables := m } } :=
      ⟨rfl, rfl⟩
    have hstays := hclock.trans (hhello _)
    dsimp only
    split
    · refine hstays.goes.trans (goes_setState fun _ ↦ ?_)
      rw [hstays.state, hdue.1]
      exact .greets
    · exact hstays.goes
  · exact (Stays.refl s).goes

theorem goes_updateReady (s : Session D) : Goes s s.updateReady := by
  rw [updateReady]
  split
  · exact (Stays.refl s).goes
  · next hstate =>
    rcases hready : s.isReady with ⟨ready, s₁⟩
    have hasked : Stays s s₁ := by
      obtain ⟨-, rfl⟩ := Prod.mk.inj hready
      exact ⟨rfl, rfl⟩
    refine hasked.goes.trans ?_
    rw [← hasked.state, not_or] at hstate
    cases ready with
    | true =>
      refine (goes_setState fun hnew ↦ .readies hstate.2 hstate.1 hnew).trans (Stays.goes ?_)
      dsimp only
      split
      · exact Stays.refl _
      · refine Stays.trans ?_ (stays_emit rfl _)
        exact ⟨rfl, rfl⟩
    | false =>
      dsimp only
      split
      · next hwas =>
        have hlost : Goes s₁ (s₁.setState .synchronizing) := by
          refine goes_setState fun _ ↦ ?_
          rw [hwas]
          exact .loses
        refine hlost.trans (Stays.goes ?_)
        exact ⟨rfl, rfl⟩
      · exact (Stays.refl s₁).goes

end Session

namespace Session

variable {D : Type} [DoubleTrig D]

theorem stays_processRoomPose (payload : Bytes) (s : Session D) :
    Stays s (s.processRoomPose payload) := by
  rw [processRoomPose]
  split
  · exact ⟨rfl, rfl⟩
  · split
    · exact Stays.refl s
    · refine Stays.of_events rfl (List.append_assoc ..) fun event hevent ↦ ?_
      rcases List.mem_append.mp hevent with hevent | hevent
      all_goals
        obtain ⟨clientNo, -, rfl⟩ := List.mem_map.mp hevent
        rfl

theorem stays_processMail (decode : Bytes → Option (List Bytes)) (mail : Shared.Mail)
    (s : Session D) : Stays s (s.processMail decode mail) := by
  have hcontrol (s : Session D) :=
    Stays.foldl (stays_processControlPayload decode) mail.control s
  rw [processMail]
  rcases mail.roomPose with - | pose
  · rcases mail.roomObjects with - | objects
    · exact hcontrol s
    · exact (hcontrol s).trans (stays_processRoomObjects objects _)
  · have hpose := (stays_processRoomPose pose s).trans (hcontrol _)
    rcases mail.roomObjects with - | objects
    · exact hpose
    · exact hpose.trans (stays_processRoomObjects objects _)

theorem stays_drainInbox (decode : Bytes → Option (List Bytes)) (s : Session D) :
    Stays s (s.drainInbox decode) := by
  have htaken : Stays s { s with shared := s.shared.takeMail.2 } := ⟨rfl, rfl⟩
  exact htaken.trans (stays_processMail decode _ _)

theorem stays_sendLocalPoseIfDue (now : D) (s : Session D) :
    Stays s (s.sendLocalPoseIfDue now) := by
  rw [sendLocalPoseIfDue]
  split
  · exact ⟨rfl, rfl⟩
  · dsimp only
    split
    · exact ⟨rfl, rfl⟩
    · split
      · exact ⟨rfl, rfl⟩
      · split <;> exact ⟨rfl, rfl⟩

variable [DoubleText D]

theorem stays_flush (now : D) (s : Session D) : Stays s (s.flush now) := by
  have hcalls : Stays s ((s.tickVariables now).flushRpc now) := ⟨rfl, rfl⟩
  have hobjects (s : Session D) : Stays s (s.tickObjects now) := ⟨rfl, rfl⟩
  have htimeout (s : Session D) : Stays s (s.checkInitialSyncTimeout now) := ⟨rfl, rfl⟩
  exact ((hcalls.trans (stays_sendLocalPoseIfDue now _)).trans (hobjects _)).trans (htimeout _)

/-- **A poll tells its way.** -/
theorem goes_poll (decode : Bytes → Option (List Bytes)) (now : D) (s : Session D) :
    Route Becomes s.client.state (statesTold (s.poll decode now).1)
      (s.poll decode now).2.client.state := by
  rw [poll]
  split
  · next hstate => exact Route.refl _
  · next hstate =>
    have hbegun : ({ s with events := [] } : Session D).client.state ≠ .disconnected := hstate
    have hgreeted := (goes_drainInternalEvents hbegun).trans (goes_greet now _)
    have hflushed (s : Session D) := (stays_drainInbox decode s).trans (stays_flush now _)
    obtain ⟨stations, htold, hroute⟩ :=
      (hgreeted.trans (hflushed _).goes).trans (goes_updateReady _)
    rw [show statesTold ({ s with events := [] } : Session D).events = [] from rfl,
      List.nil_append] at htold
    dsimp only
    rw [htold]
    exact hroute

/-! ### What the host sees -/

/-- What the host sees of a step, if anything. -/
def sighting (decode : Bytes → Option (List Bytes)) (s : Session D) : LifeStep D → Option Sighting
  | .connect config schedule =>
    some (.connect
      (({ s with shared := { s.shared with schedule := schedule } } : Session D).connect config).1)
  | .disconnect _ => some .disconnect
  | .session (.call (.poll now) schedule) =>
    some (.poll
      (({ s with shared := { s.shared with schedule := schedule } } : Session D).poll decode now).1)
  | .session _ => none

/-- What the host sees of a life. -/
def sightings (decode : Bytes → Option (List Bytes)) : Session D → List (LifeStep D) → List Sighting
  | _, [] => []
  | s, e :: steps => (s.sighting decode e).toList ++ (s.live decode e).sightings decode steps

omit [DoubleTrig D] [DoubleText D] in
/-- `connect` answers whether the client is now connecting. -/
theorem see_connect [Double D] (config : ClientConfig D) (s : Session D) :
    s.client.state.see (.connect (s.connect config).1) = (s.connect config).2.client.state := by
  by_cases hfree : s.client.state ≠ .disconnected ∧ s.client.state ≠ .error
  · rw [connect, if_pos hfree]
    exact if_pos hfree
  · rw [connect, if_neg hfree]
    have hconnecting : (s.beginSession config).client.state = .connecting := rfl
    generalize s.beginSession config = begun at hconnecting
    have hfailed : s.client.state.see (.connect false) = .error := if_neg hfree
    dsimp only
    split
    · have hstart := stays_startTransport (D := D)
        { begun with client := { begun.client with resolvedAddress := config.serverAddress } }
      exact (hstart.state.trans hconnecting).symm
    · split
      · exact hfailed
      · split
        · exact hconnecting.symm
        · exact hfailed

/-- **One step of a life.** What the host sees of it moves its picture as the step moves the
state. -/
theorem see_step (decode : Bytes → Option (List Bytes)) (s : Session D) (e : LifeStep D) :
    (s.sighting decode e).toList.foldl ConnectionState.see s.client.state =
      (s.live decode e).client.state := by
  cases e with
  | connect config schedule => exact see_connect config _
  | disconnect schedule => rfl
  | session e =>
    cases e with
    | network n => rfl
    | call call schedule =>
      by_cases hcall : ∃ now, call = .poll now
      · obtain ⟨now, rfl⟩ := hcall
        exact (goes_poll decode now _).ends
      · have hother : ∀ now, call ≠ .poll now := fun now hnow ↦ hcall ⟨now, hnow⟩
        have hnone : s.sighting decode (.session (.call call schedule)) = none := by
          cases call with
          | poll now => exact absurd rfl (hother now)
          | _ => rfl
        rw [hnone]
        have hstill := still_perform decode
          { s with shared := { s.shared with schedule := schedule } } hother
        exact (congrArg Standing.state hstill.standing).symm

/-- **The host always knows the state.** In every life of a client, whatever the other threads do in
between: the last state that the host has seen, in the answers of `connect`, in the calls of
`disconnect` and in the events of the polls, is the state of the client. What the next poll tells is
a route of the connection from there: no state is told twice in a row, a poll never tells
`Connecting` or `Disconnected`, only `Connected` follows an error, and `Synchronizing` follows only
`Connected` and `Ready`. -/
theorem host_knows_state (decode : Bytes → Option (List Bytes)) (clock : D)
    (steps : List (LifeStep D)) :
    let s := steps.foldl (live decode) (Session.new clock)
    ((Session.new clock).sightings decode steps).foldl ConnectionState.see .disconnected =
        s.client.state ∧
      ∀ (now : D) (schedule : List (List (NetworkStep D))),
        let polled := ({ s with shared := { s.shared with schedule := schedule } } :
          Session D).poll decode now
        Route Becomes s.client.state (statesTold polled.1) polled.2.client.state := by
  have hrun (s : Session D) :
      (s.sightings decode steps).foldl ConnectionState.see s.client.state =
        (steps.foldl (live decode) s).client.state := by
    induction steps generalizing s with
    | nil => rfl
    | cons e steps ih => rw [sightings, List.foldl_append, see_step, ih, List.foldl_cons]
  refine ⟨hrun (Session.new clock), ?_⟩
  generalize steps.foldl (live decode) (Session.new clock) = s
  intro now schedule
  exact goes_poll decode now { s with shared := { s.shared with schedule := schedule } }

end Session

end StylyNetSync
