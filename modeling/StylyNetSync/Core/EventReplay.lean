import Mathlib.Logic.Function.Basic
import StylyNetSync.Core.PollParts
import StylyNetSync.Core.SnapshotBlock
import StylyNetSync.Foundation.Run

/-!
# Replaying the change events

A host that keeps its own copy of the variables applies every change event it is given. Each sync
announces what it changed, and the announcements of one message, applied in order, turn the old
variables into the new ones: entry by entry for the global variables, and for a client block through
the removals first and the new values after. The one path that changes the cached variables and
announces nothing is the optimistic clear.
-/

namespace StylyNetSync

/-! ### The copy of the host -/

/-- What a change makes of a set of variables. -/
def VariableChange.applyTo (known : Variables) (change : VariableChange) : Variables :=
  if change.removed then known.erase change.name else known.insert change.name change.newValue

/-- What a list of changes makes of a set of variables. -/
def applyChanges (known : Variables) (changes : List VariableChange) : Variables :=
  changes.foldl VariableChange.applyTo known

theorem applyChanges_append (known : Variables) (changes more : List VariableChange) :
    applyChanges known (changes ++ more) = applyChanges (applyChanges known changes) more :=
  List.foldl_append

/-- A copy of all variables. -/
structure HostCopy where
  globals : Variables := ∅
  clients : ℤ → Variables := fun _ ↦ ∅

namespace HostCopy

def hear (copy : HostCopy) : Event → HostCopy
  | .globalVariableChanged change => { copy with globals := change.applyTo copy.globals }
  | .clientVariableChanged change =>
    { copy with
      clients := Function.update copy.clients change.clientNo
        (change.applyTo (copy.clients change.clientNo)) }
  | _ => copy

def replay (copy : HostCopy) (events : List Event) : HostCopy := events.foldl hear copy

/-- The copy is what `get_all_global_variables` and `get_all_client_variables` return. -/
structure Shows {D : Type} (copy : HostCopy) (m : NetworkVariableManager D) : Prop where
  globals : copy.globals = m.globals
  clients : ∀ clientNo, copy.clients clientNo = m.allClientVariables clientNo

theorem replay_append (copy : HostCopy) (events more : List Event) :
    copy.replay (events ++ more) = (copy.replay events).replay more :=
  List.foldl_append

/-- Changes of global variables. -/
theorem replay_globals (copy : HostCopy) (changes : List VariableChange) :
    copy.replay (changes.map .globalVariableChanged) =
      { copy with globals := applyChanges copy.globals changes } := by
  induction changes generalizing copy with
  | nil => rfl
  | cons change changes ih => exact ih (copy.hear (.globalVariableChanged change))

/-- Changes of the variables of one client. -/
theorem replay_client (copy : HostCopy) {clientNo : ℤ} {changes : List VariableChange}
    (h : ∀ change ∈ changes, change.clientNo = clientNo) :
    copy.replay (changes.map .clientVariableChanged) =
      { copy with
        clients := Function.update copy.clients clientNo
          (applyChanges (copy.clients clientNo) changes) } := by
  induction changes generalizing copy with
  | nil => rw [applyChanges, List.foldl_nil, Function.update_eq_self]; rfl
  | cons change changes ih =>
    have hno := h change List.mem_cons_self
    subst hno
    have hrest := ih (copy.hear (.clientVariableChanged change))
      fun change' hchange' ↦ h change' (List.mem_cons_of_mem _ hchange')
    refine hrest.trans ?_
    simp only [hear, Function.update_self, Function.update_idem]
    rfl

end HostCopy

/-! ### What a message announces -/

namespace NetworkVariableManager

variable {D : Type}

/-- **A global sync announces what it does.** -/
theorem handleGlobalSync_announced (message : GlobalVarSyncMessage) (m : NetworkVariableManager D) :
    (m.handleGlobalSync message).1.globals =
        applyChanges m.globals (m.handleGlobalSync message).2 ∧
      (m.handleGlobalSync message).1.clientVariables = m.clientVariables := by
  rw [handleGlobalSync]
  refine List.foldlRecOn
    (motive := fun acc : NetworkVariableManager D × List VariableChange ↦
      acc.1.globals = applyChanges m.globals acc.2 ∧ acc.1.clientVariables = m.clientVariables)
    message.vars handleGlobalEntry ⟨rfl, rfl⟩ ?_
  rintro ⟨m', changes⟩ ⟨hglobals, hclients⟩ entry -
  rw [handleGlobalEntry]
  dsimp only
  split_ifs
  · exact ⟨hglobals, hclients⟩
  · exact ⟨hglobals, hclients⟩
  · refine ⟨?_, hclients⟩
    rw [applyChanges_append]
    exact congrArg (fun known : Variables ↦ known.insert entry.name entry.value) hglobals

/-- The announcement of a variable that a block lacks. -/
def removal (clientNo : ℤ) (entry : Bytes × Bytes) : VariableChange :=
  { clientNo := clientNo
    name := entry.1
    oldValue := entry.2
    hadOldValue := true
    removed := true }

/-- The announcement of a value that a block brings. -/
def arrival (clientNo : ℤ) (old : Variables) (entry : Bytes × Bytes) : VariableChange :=
  { clientNo := clientNo, name := entry.1, hadOldValue := old[entry.1]?.isSome,
    oldValue := old[entry.1]?.getD [], newValue := entry.2 }

theorem removedLoop_changes (clientNo : ℤ) (next : Variables) (entries : List (Bytes × Bytes))
    (acc : SendSide ClientKey D × List VariableChange) :
    (entries.foldl (handleRemovedEntry clientNo next) acc).2 =
      acc.2 ++ (entries.filter fun entry ↦ entry.1 ∉ next).map (removal clientNo) := by
  induction entries generalizing acc with
  | nil => exact (List.append_nil _).symm
  | cons entry entries ih =>
    rw [List.foldl_cons, ih, handleRemovedEntry]
    by_cases hnext : entry.1 ∈ next
    · rw [if_pos hnext, List.filter_cons_of_neg (by simpa using hnext)]
    · rw [if_neg hnext, List.filter_cons_of_pos (by simpa using hnext), List.map_cons,
        List.append_assoc]
      rfl

theorem presentLoop_changes (clientNo : ℤ) (old : Variables) (entries : List (Bytes × Bytes))
    (acc : SendSide ClientKey D × List VariableChange) :
    (entries.foldl (handlePresentEntry clientNo old) acc).2 =
      acc.2 ++ (entries.filter fun entry ↦ old[entry.1]? ≠ some entry.2).map
        (arrival clientNo old) := by
  induction entries generalizing acc with
  | nil => exact (List.append_nil _).symm
  | cons entry entries ih =>
    rw [List.foldl_cons, ih, handlePresentEntry]
    by_cases hsame : old[entry.1]? = some entry.2
    · rw [if_pos hsame, List.filter_cons_of_neg (by simpa using hsame)]
    · rw [if_neg hsame, List.filter_cons_of_pos (by simpa using hsame), List.map_cons,
        List.append_assoc]
      rfl

/-- Everything a block announces. -/
def announced (clientNo : ℤ) (old next : Variables) : List VariableChange :=
  (old.toList.filter fun entry ↦ entry.1 ∉ next).map (removal clientNo) ++
    (next.toList.filter fun entry ↦ old[entry.1]? ≠ some entry.2).map (arrival clientNo old)

theorem clientNo_of_mem_announced {clientNo : ℤ} {old next : Variables} {change : VariableChange}
    (h : change ∈ announced clientNo old next) : change.clientNo = clientNo := by
  rcases List.mem_append.mp h with h | h
  · obtain ⟨entry, -, rfl⟩ := List.mem_map.mp h
    rfl
  · obtain ⟨entry, -, rfl⟩ := List.mem_map.mp h
    rfl

/-- **The announcements of a block** turn the old variables into those of the block: the removals
take away what it lacks, and the values bring in what is new or different. -/
theorem applyChanges_announced (clientNo : ℤ) (old next : Variables) :
    applyChanges old (announced clientNo old next) = next := by
  let lacking := (old.toList.filter fun entry ↦ entry.1 ∉ next).map Prod.fst
  let kept := lacking.foldl (fun known name ↦ known.erase name) old
  let fresh := next.toList.filter fun entry ↦ old[entry.1]? ≠ some entry.2
  have hfresh : ∀ entry ∈ fresh, next[entry.1]? = some entry.2 := fun entry hentry ↦
    Std.ExtTreeMap.mem_toList_iff_getElem?_eq_some.mp (List.mem_of_mem_filter hentry)
  have hresult : applyChanges old (announced clientNo old next) =
      fresh.foldl (fun known entry ↦ known.insert entry.1 entry.2) kept := by
    rw [announced, applyChanges_append, applyChanges, applyChanges, List.foldl_map, List.foldl_map]
    show _ = fresh.foldl _ (lacking.foldl _ old)
    rw [List.foldl_map]
    rfl
  refine Std.ExtTreeMap.ext_getElem? fun name ↦ ?_
  rw [hresult, OrderedMap.get?_foldl_insert hfresh, OrderedMap.get?_foldl_erase]
  split_ifs with hname hlacking
  · rfl
  · -- taken away, so the block lacks it
    obtain ⟨entry, hentry, rfl⟩ := List.mem_map.mp hlacking
    have hnext := (List.mem_filter.mp hentry).2
    simp only [decide_eq_true_eq] at hnext
    exact (Std.ExtTreeMap.getElem?_eq_none hnext).symm
  · rcases hnext : next[name]? with - | value
    · -- lacked and not taken away, so it was not there before
      rcases hold : old[name]? with - | value
      · rfl
      · refine absurd (List.mem_map.mpr ⟨(name, value), List.mem_filter.mpr ⟨?_, ?_⟩, rfl⟩) hlacking
        · exact Std.ExtTreeMap.mem_toList_iff_getElem?_eq_some.mpr hold
        · rw [decide_eq_true_eq, Std.ExtTreeMap.mem_iff_isSome_getElem?, hnext]
          exact Bool.false_ne_true
    · -- there and not brought in, so it was the same before
      by_contra hold
      refine hname (List.mem_map.mpr ⟨(name, value), List.mem_filter.mpr ⟨?_, ?_⟩, rfl⟩)
      · exact Std.ExtTreeMap.mem_toList_iff_getElem?_eq_some.mpr hnext
      · rwa [decide_eq_true_eq]

theorem handleClientBlock_changes (m : NetworkVariableManager D) (changes : List VariableChange)
    (block : UInt16 × List NetworkVariableEntry) :
    (handleClientBlock (m, changes) block).2 =
      changes ++
        announced block.1.toNat (m.allClientVariables block.1.toNat) (snapshotOf block.2) := by
  rw [handleClientBlock]
  dsimp only
  rw [presentLoop_changes, removedLoop_changes, List.append_assoc]
  rfl

/-- A clear does nothing, or the transport takes the message and the client has no variables
left. -/
theorem clearMyClientVariables_cases {ω : Type} {callbacks : Callbacks ω} {ok : Bool}
    {changes : List VariableChange} {m m' : NetworkVariableManager D} {w w' : ω}
    (h : m.clearMyClientVariables callbacks w = (ok, changes, m', w')) :
    m' = m ∨
    (0 < m.localClientNo ∧
      callbacks.trySend
        (.clientVarClear
          { senderClientNo := clientNoOnWire m.localClientNo, deviceId := m.localDeviceId }) w =
        (true, w') ∧
      m'.globals = m.globals ∧
      ∀ clientNo, m'.allClientVariables clientNo =
        if clientNo = m.localClientNo then ∅ else m.allClientVariables clientNo) := by
  rw [clearMyClientVariables] at h
  split at h
  · obtain ⟨-, -, rfl, -⟩ := h
    exact Or.inl rfl
  · next hnumber =>
    dsimp only at h
    split at h
    · obtain ⟨-, -, rfl, -⟩ := h
      exact Or.inl rfl
    · next hsend =>
      refine Or.inr ⟨by omega, ?_⟩
      split at h
      · next hnone =>
        obtain ⟨-, -, rfl, rfl⟩ := h
        refine ⟨hsend, rfl, fun clientNo ↦ ?_⟩
        split_ifs with hown
        · rw [hown, allClientVariables]
          show (m.clientVariables[m.localClientNo]?).getD ∅ = ∅
          rw [hnone]
          rfl
        · rfl
      · obtain ⟨-, -, rfl, rfl⟩ := h
        refine ⟨hsend, rfl, fun clientNo ↦ ?_⟩
        rw [allClientVariables]
        show ((m.clientVariables.insert m.localClientNo ∅)[clientNo]?).getD ∅ = _
        rw [OrderedMap.get?_insert]
        split_ifs with hown hother hother
        · rfl
        · exact absurd hown.symm hother
        · exact absurd hother.symm hown
        · rfl

end NetworkVariableManager

namespace HostCopy

variable {D : Type} {copy : HostCopy} {m : NetworkVariableManager D}

/-- The copy follows a global sync. -/
theorem Shows.handleGlobalSync (h : copy.Shows m) (message : GlobalVarSyncMessage) :
    (copy.replay ((m.handleGlobalSync message).2.map .globalVariableChanged)).Shows
      (m.handleGlobalSync message).1 := by
  obtain ⟨hglobals, hclients⟩ := NetworkVariableManager.handleGlobalSync_announced message m
  rw [replay_globals]
  refine ⟨?_, fun clientNo ↦ ?_⟩
  · rw [hglobals, h.globals]
  · rw [NetworkVariableManager.allClientVariables, hclients]
    exact h.clients clientNo

/-- The copy follows a block. -/
theorem Shows.handleClientBlock {changes : List VariableChange}
    (h : (copy.replay (changes.map .clientVariableChanged)).Shows m)
    (block : UInt16 × List NetworkVariableEntry) :
    (copy.replay ((NetworkVariableManager.handleClientBlock (m, changes) block).2.map
        .clientVariableChanged)).Shows
      (NetworkVariableManager.handleClientBlock (m, changes) block).1 := by
  rw [NetworkVariableManager.handleClientBlock_changes, List.map_append, replay_append,
    replay_client _ fun change ↦ NetworkVariableManager.clientNo_of_mem_announced]
  refine ⟨h.globals, fun clientNo ↦ ?_⟩
  dsimp only
  rw [Function.update_apply]
  split_ifs with hno
  · rw [hno, h.clients, NetworkVariableManager.applyChanges_announced,
      NetworkVariableManager.allClientVariables_handleClientBlock]
  · have hother := (NetworkVariableManager.handleClientBlock_other m changes block
      (k := ⟨clientNo, []⟩) (Ne.symm hno)).2
    rw [h.clients, hother]

/-- The copy follows a client sync, block by block. -/
theorem Shows.handleClientSync (h : copy.Shows m) (message : ClientVarSyncMessage) :
    (copy.replay ((m.handleClientSync message).2.map .clientVariableChanged)).Shows
      (m.handleClientSync message).1 := by
  rw [NetworkVariableManager.handleClientSync]
  refine List.foldlRecOn
    (motive := fun acc : NetworkVariableManager D × List VariableChange ↦
      (copy.replay (acc.2.map .clientVariableChanged)).Shows acc.1)
    message.clients NetworkVariableManager.handleClientBlock ⟨h.globals, h.clients⟩ ?_
  exact fun acc hacc block _ ↦ hacc.handleClientBlock block

/-! ### A poll -/

/-- The copy shows the session, once it has heard the events of the poll under way. -/
def Follows (copy : HostCopy) (s : Session D) : Prop :=
  (copy.replay s.events).Shows s.client.networkVariables

/-- Events that say nothing of variables. -/
theorem replay_of_silent {events : List Event}
    (h : ∀ event ∈ events, ∀ copy, hear copy event = copy)
    (copy : HostCopy) : copy.replay events = copy := by
  induction events with
  | nil => rfl
  | cons event events ih =>
    rw [replay, List.foldl_cons, h event List.mem_cons_self]
    exact ih fun event' hevent' ↦ h event' (List.mem_cons_of_mem _ hevent')

namespace Follows

variable {s s' : Session D}

/-- The variables are the same, and nothing is said of them. -/
theorem of_silent {more : List Event} (h : copy.Follows s)
    (globals : s'.client.networkVariables.globals = s.client.networkVariables.globals)
    (clients : ∀ clientNo, s'.client.networkVariables.allClientVariables clientNo =
      s.client.networkVariables.allClientVariables clientNo)
    (events : s'.events = s.events ++ more)
    (hmore : ∀ event ∈ more, ∀ copy, hear copy event = copy) : copy.Follows s' := by
  rw [Follows, events, replay_append, replay_of_silent hmore]
  exact ⟨h.globals.trans globals.symm, fun clientNo ↦ (h.clients clientNo).trans
    (clients clientNo).symm⟩

theorem of_aside (h : copy.Follows s) (haside : Session.Aside s s') : copy.Follows s' := by
  obtain ⟨more, hevents, hmore⟩ := haside.events
  refine h.of_silent haside.globals haside.clients hevents fun event hevent copy ↦ ?_
  have htells := hmore event hevent
  cases event <;> first | rfl | simp [Event.tells] at htells

theorem processDeviceIdMapping (h : copy.Follows s) (message : DeviceIdMappingMessage) :
    copy.Follows (s.processDeviceIdMapping message) := by
  have htable : copy.Follows
      { s with client := { s.client with mapping := (s.client.mapping.apply message).2 } } := h
  exact htable.of_aside (s.aside_processDeviceIdMapping message)

theorem applyRoomPose (h : copy.Follows s) (message : RoomPoseMessage D) :
    copy.Follows (s.applyRoomPose message) := by
  rw [Session.applyRoomPose]
  refine h.of_silent rfl (fun _ ↦ rfl) (List.append_assoc _ _ _) fun event hevent copy ↦ ?_
  rcases List.mem_append.mp hevent with hevent | hevent
  · obtain ⟨clientNo, -, rfl⟩ := List.mem_map.mp hevent
    rfl
  · obtain ⟨clientNo, -, rfl⟩ := List.mem_map.mp hevent
    rfl

/-- **The copy follows every control message.** -/
theorem processControlPayload [Double D] (h : copy.Follows s) (decode : Bytes → Option (List Bytes))
    (payload : Bytes) : copy.Follows (s.processControlPayload decode payload) := by
  obtain ⟨message, -, heq⟩ | ⟨-, haside | ⟨message, heq⟩ | ⟨message, heq⟩⟩ :=
    s.processControlPayload_cases decode payload
  · rw [heq]
    exact h.processDeviceIdMapping message
  · exact h.of_aside haside
  · rw [heq, Follows]
    show (copy.replay (s.events ++ _)).Shows _
    rw [replay_append]
    exact Shows.handleGlobalSync h message
  · rw [heq, Follows]
    show (copy.replay (s.events ++ _)).Shows _
    rw [replay_append]
    exact Shows.handleClientSync h message

end Follows

/-- **The copy follows a poll.** -/
theorem Shows.poll [DoubleTrig D] [DoubleText D] {s : Session D}
    (h : copy.Shows s.client.networkVariables) (decode : Bytes → Option (List Bytes)) (now : D) :
    (copy.replay (s.poll decode now).1).Shows (s.poll decode now).2.client.networkVariables := by
  by_cases hstate : s.client.state = .disconnected
  · rw [Session.poll_of_disconnected decode now hstate]
    exact h
  · obtain ⟨s₁, hbefore, hafter, hevents⟩ := Session.poll_parts decode now hstate
    rw [hevents]
    refine Follows.of_aside ?_ hafter
    have hstart : copy.Follows { s with events := [] } := h
    have hpose : copy.Follows ((s.mailOfPoll now).roomPose.elim s₁ s₁.processRoomPose) := by
      rcases (s.mailOfPoll now).roomPose with - | payload
      · exact hstart.of_aside hbefore
      · rcases s₁.processRoomPose_cases payload with haside | ⟨message, -, -, heq⟩
        · exact (hstart.of_aside hbefore).of_aside haside
        · show copy.Follows (s₁.processRoomPose payload)
          rw [heq]
          exact (hstart.of_aside hbefore).applyRoomPose message
    exact List.foldlRecOn (motive := copy.Follows) _ _ hpose fun s hs payload _ ↦
      hs.processControlPayload decode payload

end HostCopy

/-! ### A session -/

section Session

variable {D : Type} [DoubleTrig D] [DoubleText D]

/-- The host clears variables of its own that it was told of, and the transport takes the
message. -/
def Session.ClearsKnown (s : Session D) : SessionStep D → Prop
  | .call .clearMyClientVariables schedule =>
    let m := s.client.networkVariables
    0 < m.localClientNo ∧ m.allClientVariables m.localClientNo ≠ ∅ ∧
      (({ s.shared with schedule := schedule } : Shared D).tryEnqueueControl
        (.clientVarClear
          { senderClientNo := clientNoOnWire m.localClientNo, deviceId := m.localDeviceId })).1 =
        true
  | _ => False

/-- A session and the copy of its host. -/
structure Watched (D : Type) where
  session : Session D
  copy : HostCopy

namespace Watched

/-- A session that was just begun; the host knows of no variable. -/
def start (config : ClientConfig D) (s : Session D) : Watched D := ⟨(s.connect config).2, {}⟩

/-- The host replays what each poll returns. -/
def step (decode : Bytes → Option (List Bytes)) (r : Watched D) (e : SessionStep D) : Watched D :=
  ⟨r.session.step decode e, r.copy.replay (r.session.returned decode e)⟩

end Watched

omit [DoubleText D] in
/-- A new session has no variables. -/
theorem HostCopy.shows_connect {s : Session D} (config : ClientConfig D)
    (hstate : s.client.state = .disconnected ∨ s.client.state = .error) :
    ({} : HostCopy).Shows (s.connect config).2.client.networkVariables := by
  have haside := Session.aside_connect config hstate
  exact ⟨haside.globals.symm, fun clientNo ↦ (haside.clients clientNo).symm⟩

omit [DoubleText D] in
/-- The copy stays true when `clear_my_client_variables` takes nothing away: there is no number yet,
or no variable, or the transport refuses the message. -/
theorem HostCopy.Shows.clearMyClientVariables {copy : HostCopy} {s : Session D}
    (h : copy.Shows s.client.networkVariables)
    {schedule : List (List (NetworkStep D))}
    (hcond : ¬s.ClearsKnown (.call .clearMyClientVariables schedule)) :
    copy.Shows (({ s with shared := { s.shared with schedule := schedule } } :
      Session D).clearMyClientVariables).2.client.networkVariables := by
  rcases hclear : s.client.networkVariables.clearMyClientVariables Shared.callbacks
    { s.shared with schedule := schedule } with ⟨ok, changes, m, w⟩
  have hresult : (({ s with shared := { s.shared with schedule := schedule } } :
      Session D).clearMyClientVariables).2.client.networkVariables = m := by
    rw [Session.clearMyClientVariables]
    dsimp only
    rw [hclear]
  rw [hresult]
  obtain rfl | ⟨hnumber, hsend, hglobals, hclients⟩ :=
    NetworkVariableManager.clearMyClientVariables_cases hclear
  · exact h
  · -- the message was taken, so there was nothing to clear
    have hnone : s.client.networkVariables.allClientVariables
        s.client.networkVariables.localClientNo = ∅ := by
      by_contra hknown
      exact hcond ⟨hnumber, hknown, congrArg Prod.fst hsend⟩
    refine ⟨h.globals.trans hglobals.symm, fun clientNo ↦ ?_⟩
    rw [h.clients, hclients]
    split_ifs with hown
    · rw [hown, hnone]
    · rfl

namespace Watched

/-- A call of the host keeps the copy true. -/
theorem step_call (decode : Bytes → Option (List Bytes)) {s : Session D} {copy : HostCopy}
    {call : HostCall D} (schedule : List (List (NetworkStep D)))
    (hshows : copy.Shows s.client.networkVariables)
    (hcond : ¬s.ClearsKnown (.call call schedule)) :
    (copy.replay (s.returned decode (.call call schedule))).Shows
      (s.step decode (.call call schedule)).client.networkVariables := by
  rw [Session.step]
  by_cases hpoll : ∃ now, call = .poll now
  · obtain ⟨now, rfl⟩ := hpoll
    rw [Session.returned, Session.perform]
    exact HostCopy.Shows.poll (s := { s with shared := { s.shared with schedule := schedule } })
      hshows decode now
  · rw [Session.returned_of_ne decode s schedule fun now hcall ↦ hpoll ⟨now, hcall⟩]
    by_cases hclear : call = .clearMyClientVariables
    · subst hclear
      exact hshows.clearMyClientVariables hcond
    · have haside := Session.aside_perform decode
        { s with shared := { s.shared with schedule := schedule } }
        (fun now hcall ↦ hpoll ⟨now, hcall⟩) hclear
      exact ⟨hshows.globals.trans haside.globals.symm, fun clientNo ↦
        (hshows.clients clientNo).trans (haside.clients clientNo).symm⟩

/-- **Replaying the events reproduces the variables** in every session in which no call of
`clear_my_client_variables` takes anything away, whatever arrives and whatever else the host
calls. -/
theorem events_reproduce_variables (decode : Bytes → Option (List Bytes)) (config : ClientConfig D)
    {s : Session D} (hstate : s.client.state = .disconnected ∨ s.client.state = .error)
    (steps : List (SessionStep D))
    (h : Along (step decode) (fun r e ↦ ¬r.session.ClearsKnown e) (start config s) steps) :
    let r := steps.foldl (step decode) (start config s)
    r.copy.Shows r.session.client.networkVariables := by
  refine Along.invariant (I := fun r : Watched D ↦ r.copy.Shows r.session.client.networkVariables)
    ?_ h (HostCopy.shows_connect config hstate)
  rintro ⟨s, copy⟩ e hshows hcond
  cases e with
  | network n => exact hshows
  | call call schedule => exact step_call decode schedule hshows hcond

end Watched

end Session

/-! ### Two sessions -/

namespace Watched

/-- A session that was just begun, with the address of the server. -/
def justBegun : Watched ℚ :=
  start { serverAddress := [49], roomId := [114], deviceId := [100], transformSendRate := 10 }
    (Session.new 0)

/-- The server gives the client the number 1 and tells it of a variable of its own. -/
def ownVariableTold : List (SessionStep ℚ) :=
  [.network (.notify .connected),
    .network (.payload .control (serializeDeviceIdMapping
      { serverVersionMajor := 0, serverVersionMinor := 0, serverVersionPatch := 0,
        mappings := [⟨1, [100], false⟩] })),
    .network (.payload .control (serializeClientVarSync ⟨[(1, [⟨[110], [49], 1⟩])]⟩)),
    .call (.poll 0) []]

/-- The host clears its variables before it has a number, and again when it has one and the server
has not told it of any. -/
def nothingToClear : List (SessionStep ℚ) :=
  .call .clearMyClientVariables [] :: ownVariableTold.take 2 ++
    .call (.poll 0) [] :: .call .clearMyClientVariables [] :: ownVariableTold.drop 2

/-- The second clearing is sent; the variable that the server tells of afterwards is in the copy. -/
theorem events_reproduce_variables_nothingToClear :
    let r := nothingToClear.foldl (step fun _ ↦ none) justBegun
    r.session.shared.transport.ledger.entries.map OutboundPacket.payload =
        [.clientHello [100] false,
          .clientVarClear { senderClientNo := 1, deviceId := [100] }] ∧
      r.copy.Shows r.session.client.networkVariables ∧
      (r.copy.clients 1)[([110] : Bytes)]? = some [49] := by
  have hempty :
      let m := ((nothingToClear.take 4).foldl (step fun _ ↦ none)
        justBegun).session.client.networkVariables
      (m.allClientVariables m.localClientNo).isEmpty = true := by
    decide +kernel
  refine ⟨by decide +kernel, ?_, by decide +kernel⟩
  refine events_reproduce_variables (fun _ ↦ none) _ (Or.inl rfl) nothingToClear ?_
  refine ⟨fun hclears ↦ absurd hclears.1 (by decide), id, id, id, fun hclears ↦ ?_, id, id, trivial⟩
  exact hclears.2.1 (Std.ExtTreeMap.isEmpty_iff.mp hempty)

/-- The host clears its variables and polls again. -/
def ownVariableCleared : List (SessionStep ℚ) :=
  ownVariableTold ++ [.call .clearMyClientVariables [], .call (.poll 1) []]

/-- The variables are gone at once, the poll says nothing of it, and the copy keeps the variable. -/
theorem cleared_variable_kept :
    let r := ownVariableCleared.foldl (step fun _ ↦ none) justBegun
    (r.copy.clients 1)[([110] : Bytes)]? = some [49] ∧
      r.session.client.networkVariables.allClientVariables 1 = ∅ ∧
      ¬r.copy.Shows r.session.client.networkVariables := by
  intro r
  have hcopy : (r.copy.clients 1)[([110] : Bytes)]? = some [49] := by decide +kernel
  have hnone :
      (r.session.client.networkVariables.allClientVariables 1)[([110] : Bytes)]? = none := by
    decide +kernel
  have hempty : (r.session.client.networkVariables.allClientVariables 1).isEmpty = true := by
    decide +kernel
  refine ⟨hcopy, Std.ExtTreeMap.isEmpty_iff.mp hempty, fun h ↦ ?_⟩
  rw [h.clients, hnone] at hcopy
  simp at hcopy

end Watched

end StylyNetSync
