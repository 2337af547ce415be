import StylyNetSync.Core.OwnPresence
import StylyNetSync.Foundation.Alternating

/-!
# Who is announced and who is gone

A client in a room snapshot is announced once its device id is known, and waits until then; it is
reported gone when a snapshot no longer has it, if it was announced. The loops of the source insert
and erase while they iterate. What they come to is an exact difference of sets, under one invariant:
no client that waits has been announced. So a session reports every change of the announced set and
nothing else, and the reports about any client alternate.
-/

namespace StylyNetSync

namespace DeviceMapping

/-- The client can be announced now. -/
def announceable (m : DeviceMapping) (clientNo : ℤ) : Bool :=
  !m.announcedClients.contains clientNo && m.clientNoToDeviceId.contains clientNo

/-- No client that waits has been announced. -/
def PendingApart (m : DeviceMapping) : Prop :=
  ∀ clientNo ∈ m.pendingClients, clientNo ∉ m.announcedClients

/-! ### The loop over the snapshot -/

/-- Where the loop stands after the clients of `alive`. -/
structure Noted (m : DeviceMapping) (alive : List ℤ) (r : DeviceMapping × List ℤ) : Prop where
  table : r.1.clientNoToDeviceId = m.clientNoToDeviceId
  announced : ∀ clientNo, clientNo ∈ r.1.announcedClients ↔
    clientNo ∈ m.announcedClients ∨ clientNo ∈ alive ∧ clientNo ∈ m.clientNoToDeviceId
  pending : ∀ clientNo, clientNo ∈ r.1.pendingClients ↔
    clientNo ∈ m.pendingClients ∧ ¬(clientNo ∈ alive ∧ m.announceable clientNo = true) ∨
      clientNo ∈ alive ∧ clientNo ∉ m.announcedClients ∧ clientNo ∉ m.clientNoToDeviceId

theorem announceable_iff {m : DeviceMapping} {clientNo : ℤ} :
    m.announceable clientNo = true ↔
      clientNo ∉ m.announcedClients ∧ clientNo ∈ m.clientNoToDeviceId := by
  rw [announceable, Bool.and_eq_true, Bool.not_eq_true', ← Bool.not_eq_true,
    Std.ExtTreeSet.contains_iff_mem, Std.ExtTreeMap.contains_iff_mem]

/-- **What a round can do**: nothing for a client that was announced, and else it announces the
client or lets it wait, as its device id is known or not. -/
theorem noteAlive_cases (m : DeviceMapping) (connected : List ℤ) (clientNo : ℤ) :
    (clientNo ∈ m.announcedClients ∧ noteAlive (m, connected) clientNo = (m, connected)) ∨
    (m.announceable clientNo = true ∧
      noteAlive (m, connected) clientNo =
        ({ m with
            announcedClients := m.announcedClients.insert clientNo
            pendingClients := m.pendingClients.erase clientNo }, connected ++ [clientNo])) ∨
    (clientNo ∉ m.announcedClients ∧ clientNo ∉ m.clientNoToDeviceId ∧
      noteAlive (m, connected) clientNo =
        ({ m with pendingClients := m.pendingClients.insert clientNo }, connected)) := by
  rw [noteAlive]
  by_cases hannounced : clientNo ∈ m.announcedClients
  · rw [if_pos (Std.ExtTreeSet.contains_iff_mem.mpr hannounced)]
    exact Or.inl ⟨hannounced, rfl⟩
  · rw [if_neg (mt Std.ExtTreeSet.contains_iff_mem.mp hannounced)]
    by_cases hknown : clientNo ∈ m.clientNoToDeviceId
    · rw [if_pos (Std.ExtTreeMap.contains_iff_mem.mpr hknown)]
      exact Or.inr (Or.inl ⟨announceable_iff.mpr ⟨hannounced, hknown⟩, rfl⟩)
    · rw [if_neg (mt Std.ExtTreeMap.contains_iff_mem.mp hknown)]
      exact Or.inr (Or.inr ⟨hannounced, hknown, rfl⟩)

theorem mem_insert_iff {set : ClientNumbers} {k a : ℤ} : a ∈ set.insert k ↔ a = k ∨ a ∈ set := by
  rw [Std.ExtTreeSet.mem_insert, Std.LawfulEqCmp.compare_eq_iff_eq, eq_comm]

theorem mem_erase_iff {set : ClientNumbers} {k a : ℤ} : a ∈ set.erase k ↔ a ≠ k ∧ a ∈ set := by
  rw [Std.ExtTreeSet.mem_erase, ne_eq, Std.LawfulEqCmp.compare_eq_iff_eq, eq_comm]

/-- **The loop**, by the list of the clients it goes through. Each of them comes once. -/
theorem foldl_noteAlive (alive : List ℤ) (hnodup : alive.Nodup) (m : DeviceMapping)
    (connected : List ℤ) :
    Noted m alive (alive.foldl noteAlive (m, connected)) ∧
      (alive.foldl noteAlive (m, connected)).2 = connected ++ alive.filter m.announceable := by
  induction alive generalizing m connected with
  | nil => exact ⟨⟨rfl, by simp, by simp⟩, by simp⟩
  | cons first alive ih =>
    obtain ⟨hfirst, hrest⟩ := List.nodup_cons.mp hnodup
    rw [List.foldl_cons]
    obtain ⟨hold, heq⟩ | ⟨hnew, heq⟩ | ⟨hold, hknown, heq⟩ := noteAlive_cases m connected first
    · obtain ⟨⟨htable, hannounced, hpending⟩, hconnected⟩ := ih hrest m connected
      rw [heq]
      have hnot : ¬m.announceable first = true := fun h ↦ (announceable_iff.mp h).1 hold
      refine ⟨⟨htable, fun clientNo ↦ ?_, fun clientNo ↦ ?_⟩, ?_⟩
      · rw [hannounced, List.mem_cons]
        rcases eq_or_ne clientNo first with hne | hne
        · simp [hne, hold]
        · simp [hne]
      · rw [hpending, List.mem_cons]
        rcases eq_or_ne clientNo first with hne | hne
        · simp [hne, hold, hnot, hfirst]
        · simp [hne]
      · rw [hconnected, List.filter_cons_of_neg hnot]
    · let m' : DeviceMapping :=
        { m with
          announcedClients := m.announcedClients.insert first
          pendingClients := m.pendingClients.erase first }
      obtain ⟨⟨htable, hannounced, hpending⟩, hconnected⟩ := ih hrest m' (connected ++ [first])
      have hsame (clientNo : ℤ) (hne : clientNo ≠ first) :
          m'.announceable clientNo = m.announceable clientNo := by
        rw [Bool.eq_iff_iff, announceable_iff, announceable_iff]
        exact and_congr_left' (not_congr (mem_insert_iff.trans (or_iff_right hne)))
      obtain ⟨hunannounced, hknown⟩ := announceable_iff.mp hnew
      rw [heq]
      refine ⟨⟨htable, fun clientNo ↦ ?_, fun clientNo ↦ ?_⟩, ?_⟩
      · rw [hannounced, List.mem_cons, mem_insert_iff]
        rcases eq_or_ne clientNo first with hne | hne
        · simp [hne, hknown]
        · simp [hne, m']
      · rw [hpending, List.mem_cons, mem_erase_iff, mem_insert_iff]
        rcases eq_or_ne clientNo first with hne | hne
        · subst hne
          simp [hfirst, hnew, hknown]
        · rw [hsame clientNo hne]
          simp [hne, m']
      · rw [hconnected, List.filter_cons_of_pos hnew, List.append_assoc]
        refine congrArg (connected ++ first :: ·) (List.filter_congr fun clientNo hmem ↦ ?_)
        exact hsame clientNo fun hne ↦ hfirst (hne ▸ hmem)
    · let m' : DeviceMapping := { m with pendingClients := m.pendingClients.insert first }
      obtain ⟨⟨htable, hannounced, hpending⟩, hconnected⟩ := ih hrest m' connected
      have hnot : ¬m.announceable first = true := fun h ↦ hknown (announceable_iff.mp h).2
      rw [heq]
      refine ⟨⟨htable, fun clientNo ↦ ?_, fun clientNo ↦ ?_⟩, ?_⟩
      · rw [hannounced, List.mem_cons]
        rcases eq_or_ne clientNo first with hne | hne
        · simp [hne, hknown, m']
        · simp [hne, m']
      · have hsame : m'.announceable clientNo = m.announceable clientNo := rfl
        rw [hpending, List.mem_cons, mem_insert_iff, hsame]
        rcases eq_or_ne clientNo first with hne | hne
        · simp [hne, hold, hknown, hfirst]
        · simp [hne, m']
      · rw [hconnected, List.filter_cons_of_neg hnot]
        rfl

/-! ### The update -/

/-- An update of the presence from this snapshot is an exact difference. -/
structure UpdatesExactly (m : DeviceMapping) (alive : List ℤ) : Prop where
  table : (m.updatePresence alive).2.2.clientNoToDeviceId = m.clientNoToDeviceId
  announced : ∀ clientNo, clientNo ∈ (m.updatePresence alive).2.2.announcedClients ↔
    clientNo ∈ alive ∧ (clientNo ∈ m.announcedClients ∨ clientNo ∈ m.clientNoToDeviceId)
  pending : ∀ clientNo, clientNo ∈ (m.updatePresence alive).2.2.pendingClients ↔
    clientNo ∈ alive ∧ ¬(clientNo ∈ m.announcedClients ∨ clientNo ∈ m.clientNoToDeviceId)
  connected : ∀ clientNo, clientNo ∈ (m.updatePresence alive).1 ↔
    clientNo ∈ (m.updatePresence alive).2.2.announcedClients ∧ clientNo ∉ m.announcedClients
  nodup_connected : (m.updatePresence alive).1.Nodup
  disconnected : ∀ clientNo, clientNo ∈ (m.updatePresence alive).2.1 ↔
    clientNo ∈ m.announcedClients ∧ clientNo ∉ alive
  nodup_disconnected : (m.updatePresence alive).2.1.Nodup

theorem mem_filter_iff {set : ClientNumbers} {p : ℤ → Bool} {a : ℤ} :
    a ∈ set.filter p ↔ a ∈ set ∧ p a = true := by
  rw [← Std.ExtTreeSet.mem_toList, Std.ExtTreeSet.toList_filter, List.mem_filter,
    Std.ExtTreeSet.mem_toList]

theorem nodup_toList (set : ClientNumbers) : set.toList.Nodup :=
  (Std.ExtTreeSet.distinct_toList (t := set)).imp fun h heq ↦
    h (Std.LawfulEqCmp.compare_eq_iff_eq.mpr heq)

/-- The loop depends on which clients the snapshot lists, and not on how. -/
theorem Noted.congr {m : DeviceMapping} {alive alive' : List ℤ} {r : DeviceMapping × List ℤ}
    (h : Noted m alive r) (hsame : ∀ clientNo, clientNo ∈ alive ↔ clientNo ∈ alive') :
    Noted m alive' r := by
  refine ⟨h.table, fun clientNo ↦ ?_, fun clientNo ↦ ?_⟩
  · rw [h.announced, hsame]
  · rw [h.pending, hsame]

section Update

variable (m : DeviceMapping) (alive : List ℤ) (clientNo : ℤ)

theorem mem_aliveSet :
    clientNo ∈ (Std.ExtTreeSet.ofList alive compare : ClientNumbers).toList ↔
      clientNo ∈ alive := by
  rw [Std.ExtTreeSet.mem_toList, Std.ExtTreeSet.mem_ofList]
  exact List.contains_iff_mem

theorem contains_aliveSet :
    (Std.ExtTreeSet.ofList alive compare : ClientNumbers).contains clientNo = true ↔
      clientNo ∈ alive := by
  rw [Std.ExtTreeSet.contains_iff_mem, ← Std.ExtTreeSet.mem_toList, mem_aliveSet]

/-- The loop of an update. -/
theorem noted_updatePresence :
    Noted m alive ((Std.ExtTreeSet.ofList alive compare : ClientNumbers).toList.foldl noteAlive
      (m, [])) :=
  (foldl_noteAlive _ (nodup_toList _) m []).1.congr fun clientNo ↦ mem_aliveSet alive clientNo

/-- Whom an update announces. -/
theorem connected_updatePresence :
    (m.updatePresence alive).1 =
      (Std.ExtTreeSet.ofList alive compare : ClientNumbers).toList.filter m.announceable :=
  (foldl_noteAlive _ (nodup_toList _) m []).2.trans (List.nil_append _)

theorem mem_announced_updatePresence :
    clientNo ∈ (m.updatePresence alive).2.2.announcedClients ↔
      clientNo ∈ alive ∧
        (clientNo ∈ m.announcedClients ∨ clientNo ∈ m.clientNoToDeviceId) := by
  refine mem_filter_iff.trans ?_
  rw [(noted_updatePresence m alive).announced, contains_aliveSet]
  tauto

theorem mem_pending_updatePresence (hapart : m.PendingApart) :
    clientNo ∈ (m.updatePresence alive).2.2.pendingClients ↔
      clientNo ∈ alive ∧
        ¬(clientNo ∈ m.announcedClients ∨ clientNo ∈ m.clientNoToDeviceId) := by
  refine mem_filter_iff.trans ?_
  rw [(noted_updatePresence m alive).pending, contains_aliveSet, announceable_iff]
  have hwaits := hapart clientNo
  tauto

theorem mem_connected_updatePresence :
    clientNo ∈ (m.updatePresence alive).1 ↔
      clientNo ∈ (m.updatePresence alive).2.2.announcedClients ∧
        clientNo ∉ m.announcedClients := by
  rw [connected_updatePresence, mem_announced_updatePresence, List.mem_filter, mem_aliveSet,
    announceable_iff]
  tauto

theorem mem_disconnected_updatePresence :
    clientNo ∈ (m.updatePresence alive).2.1 ↔
      clientNo ∈ m.announcedClients ∧ clientNo ∉ alive := by
  refine List.mem_filter.trans ?_
  rw [Std.ExtTreeSet.mem_toList, (noted_updatePresence m alive).announced, Bool.not_eq_true',
    ← Bool.not_eq_true, contains_aliveSet]
  tauto

end Update

/-- **Presence is an exact difference**, whatever the snapshot lists and how often. -/
theorem updatesExactly {m : DeviceMapping} (hapart : m.PendingApart) (alive : List ℤ) :
    m.UpdatesExactly alive where
  table := (noted_updatePresence m alive).table
  announced := mem_announced_updatePresence m alive
  pending clientNo := mem_pending_updatePresence m alive clientNo hapart
  connected := mem_connected_updatePresence m alive
  nodup_connected := by
    rw [connected_updatePresence]
    exact (nodup_toList _).filter _
  disconnected := mem_disconnected_updatePresence m alive
  nodup_disconnected := (nodup_toList _).filter _

/-- Who is reported gone was announced and is no longer. -/
theorem UpdatesExactly.gone {m : DeviceMapping} {alive : List ℤ} (h : m.UpdatesExactly alive)
    (clientNo : ℤ) :
    clientNo ∈ (m.updatePresence alive).2.1 ↔
      clientNo ∈ m.announcedClients ∧
        clientNo ∉ (m.updatePresence alive).2.2.announcedClients := by
  rw [h.disconnected, h.announced]
  tauto

/-- What a client does with its mapping within a session. -/
inductive PresenceStep
  | apply (message : DeviceIdMappingMessage)
  | updatePresence (alive : List ℤ)

def presenceStep (m : DeviceMapping) : PresenceStep → DeviceMapping
  | .apply message => (m.apply message).2
  | .updatePresence alive => (m.updatePresence alive).2.2

/-- A mapping message leaves everyone announced who was, and waiting who waited. -/
theorem apply_presence (message : DeviceIdMappingMessage) (m : DeviceMapping) :
    (m.apply message).2.announcedClients = m.announcedClients ∧
      (m.apply message).2.pendingClients = m.pendingClients := by
  refine List.foldlRecOn
    (motive := fun acc : DeviceMapping × Bool ↦
      acc.1.announcedClients = m.announcedClients ∧ acc.1.pendingClients = m.pendingClients)
    message.mappings applyEntry ⟨rfl, rfl⟩ ?_
  rintro ⟨m', changed⟩ hacc entry -
  rw [applyEntry]
  dsimp only
  split
  · exact hacc
  · exact hacc

/-- **The invariant of the two sets.** -/
theorem pendingApart_step {m : DeviceMapping} (hapart : m.PendingApart) (e : PresenceStep) :
    (m.presenceStep e).PendingApart := by
  cases e with
  | apply message =>
    obtain ⟨hannounced, hpending⟩ := apply_presence message m
    rw [presenceStep, PendingApart, hannounced, hpending]
    exact hapart
  | updatePresence alive =>
    have hexact := updatesExactly hapart alive
    intro clientNo hmem hannounced
    exact ((hexact.pending clientNo).mp hmem).2 ((hexact.announced clientNo).mp hannounced).2

theorem pendingApart_clear (m : DeviceMapping) : m.clear.PendingApart := fun _ hmem ↦
  absurd hmem Std.ExtTreeSet.not_mem_empty

/-- **Every update of every run** from a cleared mapping is exact. -/
theorem updatesExactly_along (m : DeviceMapping) (steps : List PresenceStep) :
    Along presenceStep (fun m e ↦ ∀ alive, e = .updatePresence alive → m.UpdatesExactly alive)
      m.clear steps :=
  Along.of_invariant (I := PendingApart) (fun _ e hapart ↦ pendingApart_step hapart e)
    (fun _ _ hapart alive _ ↦ updatesExactly hapart alive) (pendingApart_clear m) steps

end DeviceMapping

/-! ### Reports -/

/-- What an event says of a client: that it has come, or that it is gone. -/
def Event.presenceOf (clientNo : ℤ) : Event → Option Bool
  | .avatarConnected subject _ => if subject = clientNo then some true else none
  | .avatarDisconnected subject => if subject = clientNo then some false else none
  | _ => none

theorem Event.presenceOf_of_not_tells {event : Event} (h : event.tells = false) (clientNo : ℤ) :
    event.presenceOf clientNo = none := by
  cases event with
  | avatarConnected subject deviceId => simp [tells] at h
  | avatarDisconnected subject => simp [tells] at h
  | _ => rfl

/-- Of a list without repetitions one entry at most is about the client. -/
theorem filterMap_presenceOf {report : ℤ → Event} (here : Bool)
    (hreport : ∀ subject clientNo, (report subject).presenceOf clientNo =
      if subject = clientNo then some here else none) {subjects : List ℤ} (hnodup : subjects.Nodup)
    (clientNo : ℤ) :
    (subjects.map report).filterMap (Event.presenceOf clientNo) =
      if clientNo ∈ subjects then [here] else [] := by
  induction subjects with
  | nil => rfl
  | cons first subjects ih =>
    obtain ⟨hfirst, hrest⟩ := List.nodup_cons.mp hnodup
    rw [List.map_cons, List.filterMap_cons, hreport, ih hrest]
    by_cases heq : first = clientNo
    · subst heq
      simp [hfirst]
    · simp [heq, Ne.symm heq]

namespace Session

section Parts

variable {D : Type}

/-- The client is announced and not gone. -/
def announced (clientNo : ℤ) (s : Session D) : Bool :=
  s.client.mapping.announcedClients.contains clientNo

/-- No one comes and no one goes. -/
structure Silent (s s' : Session D) : Prop where
  announcedClients : s'.client.mapping.announcedClients = s.client.mapping.announcedClients
  pendingClients : s'.client.mapping.pendingClients = s.client.mapping.pendingClients
  remotePoses : s'.client.remotePoses = s.client.remotePoses
  events : ∃ more, s'.events = s.events ++ more ∧
    ∀ event ∈ more, ∀ clientNo, event.presenceOf clientNo = none

/-- Exactly the changes of the announced set are reported, and they agree with the remote poses. -/
structure ReportsPresence (s s' : Session D) : Prop where
  apart : s'.client.mapping.PendingApart
  events : ∃ more, s'.events = s.events ++ more ∧
    (∀ clientNo, more.filterMap (Event.presenceOf clientNo) =
      toggled (s.announced clientNo) (s'.announced clientNo)) ∧
    ∀ event ∈ more, ∀ clientNo here, event.presenceOf clientNo = some here →
      (here = true ↔ clientNo ∈ s'.client.remotePoses)

variable {s s₁ s₂ : Session D}

theorem Silent.refl (s : Session D) : Silent s s :=
  ⟨rfl, rfl, rfl, [], (List.append_nil _).symm, fun _ h ↦ absurd h List.not_mem_nil⟩

theorem Silent.trans (h₁ : Silent s s₁) (h₂ : Silent s₁ s₂) : Silent s s₂ where
  announcedClients := h₂.announcedClients.trans h₁.announcedClients
  pendingClients := h₂.pendingClients.trans h₁.pendingClients
  remotePoses := h₂.remotePoses.trans h₁.remotePoses
  events := by
    obtain ⟨more₁, hevents₁, hmore₁⟩ := h₁.events
    obtain ⟨more₂, hevents₂, hmore₂⟩ := h₂.events
    refine ⟨more₁ ++ more₂, by rw [hevents₂, hevents₁, List.append_assoc], fun event hevent ↦ ?_⟩
    rcases List.mem_append.mp hevent with h | h
    · exact hmore₁ event h
    · exact hmore₂ event h

theorem Aside.silent (h : Aside s s₁) : Silent s s₁ where
  announcedClients := by rw [h.mapping]
  pendingClients := by rw [h.mapping]
  remotePoses := h.remotePoses
  events := by
    obtain ⟨more, hevents, hmore⟩ := h.events
    exact ⟨more, hevents, fun event hevent ↦ Event.presenceOf_of_not_tells (hmore event hevent)⟩

theorem Silent.pendingApart (h : Silent s s₁) (hapart : s.client.mapping.PendingApart) :
    s₁.client.mapping.PendingApart := by
  rw [DeviceMapping.PendingApart, h.announcedClients, h.pendingClients]
  exact hapart

theorem Silent.announced (h : Silent s s₁) (clientNo : ℤ) :
    s₁.announced clientNo = s.announced clientNo := by
  rw [Session.announced, h.announcedClients, Session.announced]

/-- No report when nothing changes. -/
theorem Silent.filterMap_eq_nil {more : List Event}
    (h : ∀ event ∈ more, ∀ clientNo, event.presenceOf clientNo = none) (clientNo : ℤ) :
    more.filterMap (Event.presenceOf clientNo) = [] :=
  List.filterMap_eq_nil_iff.mpr fun event hevent ↦ h event hevent clientNo

theorem Silent.reportsPresence (h : Silent s s₁) (hapart : s.client.mapping.PendingApart) :
    ReportsPresence s s₁ := by
  obtain ⟨more, hevents, hmore⟩ := h.events
  refine ⟨h.pendingApart hapart, more, hevents, fun clientNo ↦ ?_,
    fun event hevent clientNo here hsays ↦ ?_⟩
  · rw [Silent.filterMap_eq_nil hmore, h.announced, toggled, if_pos rfl]
  · rw [hmore event hevent] at hsays
    exact absurd hsays (by simp)

/-- Silence before and after. -/
theorem ReportsPresence.between {s₃ : Session D} (h₁ : Silent s s₁) (h₂ : ReportsPresence s₁ s₂)
    (h₃ : Silent s₂ s₃) : ReportsPresence s s₃ := by
  obtain ⟨more₁, hevents₁, hmore₁⟩ := h₁.events
  obtain ⟨more₂, hevents₂, htoggled, hposes⟩ := h₂.events
  obtain ⟨more₃, hevents₃, hmore₃⟩ := h₃.events
  refine ⟨h₃.pendingApart h₂.apart, more₁ ++ more₂ ++ more₃, ?_, fun clientNo ↦ ?_,
    fun event hevent clientNo here hsays ↦ ?_⟩
  · rw [hevents₃, hevents₂, hevents₁, List.append_assoc, List.append_assoc, List.append_assoc]
  · rw [List.filterMap_append, List.filterMap_append, Silent.filterMap_eq_nil hmore₁,
      Silent.filterMap_eq_nil hmore₃, htoggled, h₁.announced, h₃.announced, List.nil_append,
      List.append_nil]
  · rw [h₃.remotePoses]
    rcases List.mem_append.mp hevent with hevent | hevent
    · rcases List.mem_append.mp hevent with hevent | hevent
      · rw [hmore₁ event hevent] at hsays
        exact absurd hsays (by simp)
      · exact hposes event hevent clientNo here hsays
    · rw [hmore₃ event hevent] at hsays
      exact absurd hsays (by simp)

/-- **A room pose reports exactly who came and who went.** -/
theorem reportsPresence_applyRoomPose (message : RoomPoseMessage D) (s : Session D)
    (hapart : s.client.mapping.PendingApart) : ReportsPresence s (s.applyRoomPose message) := by
  let alive := (remoteClients s.client.mapping.localClientNo message.clients).map
    fun client ↦ (client.clientNo.toNat : ℤ)
  have hexact := DeviceMapping.updatesExactly hapart alive
  have hstored (clientNo : ℤ) :
      clientNo ∈ (s.applyRoomPose message).client.remotePoses ↔ clientNo ∈ alive := by
    refine (OrderedMap.mem_foldl_insert _ ∅ clientNo).trans ?_
    rw [or_iff_left Std.ExtTreeMap.not_mem_empty]
  have hevents : (s.applyRoomPose message).events = s.events ++
      ((s.client.mapping.updatePresence alive).1.map (fun clientNo ↦ .avatarConnected clientNo
        ((s.client.mapping.updatePresence alive).2.2.deviceIdFor clientNo)) ++
      (s.client.mapping.updatePresence alive).2.1.map .avatarDisconnected) :=
    List.append_assoc _ _ _
  refine ⟨DeviceMapping.pendingApart_step hapart (.updatePresence alive), _, hevents,
    fun clientNo ↦ ?_, fun event hevent clientNo here hsays ↦ ?_⟩
  · rw [List.filterMap_append, filterMap_presenceOf true (fun _ _ ↦ rfl)
      hexact.nodup_connected, filterMap_presenceOf false (fun _ _ ↦ rfl)
      hexact.nodup_disconnected]
    have hbefore : s.announced clientNo = true ↔ clientNo ∈ s.client.mapping.announcedClients :=
      Std.ExtTreeSet.contains_iff_mem
    have hnow : (s.applyRoomPose message).announced clientNo = true ↔
        clientNo ∈ (s.client.mapping.updatePresence alive).2.2.announcedClients :=
      Std.ExtTreeSet.contains_iff_mem
    simp only [hexact.connected, hexact.gone, ← hbefore, ← hnow]
    cases s.announced clientNo with
    | true => cases (s.applyRoomPose message).announced clientNo <;> rfl
    | false => cases (s.applyRoomPose message).announced clientNo <;> rfl
  · rw [hstored]
    rcases List.mem_append.mp hevent with hevent | hevent
    · obtain ⟨subject, hsubject, rfl⟩ := List.mem_map.mp hevent
      rw [hexact.connected, hexact.announced] at hsubject
      rw [Event.presenceOf] at hsays
      split at hsays
      · next heq =>
        rw [← Option.some.inj hsays, ← heq]
        exact iff_of_true rfl hsubject.1.1
      · exact absurd hsays (by simp)
    · obtain ⟨subject, hsubject, rfl⟩ := List.mem_map.mp hevent
      rw [hexact.disconnected] at hsubject
      rw [Event.presenceOf] at hsays
      split at hsays
      · next heq =>
        rw [← Option.some.inj hsays, ← heq]
        exact iff_of_false (by simp) hsubject.2
      · exact absurd hsays (by simp)

variable [Double D]

/-- **A control payload is silent**: a mapping replaces the table, and announces no one. -/
theorem silent_processControlPayload (decode : Bytes → Option (List Bytes)) (s : Session D)
    (payload : Bytes) : Silent s (s.processControlPayload decode payload) := by
  have hchanges {s' : Session D} (hmapping : s'.client.mapping = s.client.mapping)
      (hposes : s'.client.remotePoses = s.client.remotePoses) {more : List Event}
      (hevents : s'.events = s.events ++ more)
      (hmore : ∀ event ∈ more, ∀ clientNo, event.presenceOf clientNo = none) : Silent s s' :=
    ⟨by rw [hmapping], by rw [hmapping], hposes, more, hevents, hmore⟩
  obtain ⟨message, -, heq⟩ | ⟨-, haside | ⟨message, heq⟩ | ⟨message, heq⟩⟩ :=
    s.processControlPayload_cases decode payload
  · rw [heq]
    obtain ⟨hannounced, hpending⟩ := DeviceMapping.apply_presence message s.client.mapping
    have htable : Silent s
        { s with client := { s.client with mapping := (s.client.mapping.apply message).2 } } :=
      ⟨hannounced, hpending, rfl, [], (List.append_nil _).symm,
        fun _ h ↦ absurd h List.not_mem_nil⟩
    exact htable.trans (aside_processDeviceIdMapping message s).silent
  · exact haside.silent
  · rw [heq]
    refine hchanges rfl rfl rfl fun event hevent clientNo ↦ ?_
    obtain ⟨change, -, rfl⟩ := List.mem_map.mp hevent
    rfl
  · rw [heq]
    refine hchanges rfl rfl rfl fun event hevent clientNo ↦ ?_
    obtain ⟨change, -, rfl⟩ := List.mem_map.mp hevent
    rfl

end Parts

/-! ### A session -/

section Poll

variable {D : Type} [DoubleTrig D] [DoubleText D]

theorem reportsPresence_poll (decode : Bytes → Option (List Bytes)) (now : D) {s : Session D}
    (hstate : s.client.state ≠ .disconnected) (hapart : s.client.mapping.PendingApart) :
    ReportsPresence { s with events := [] } (s.poll decode now).2 ∧
      (s.poll decode now).1 = (s.poll decode now).2.events := by
  obtain ⟨s₁, hbefore, hafter, hevents⟩ := poll_parts decode now hstate
  refine ⟨?_, hevents⟩
  have hapart₁ : s₁.client.mapping.PendingApart := hbefore.silent.pendingApart hapart
  have hcontrol (payloads : List Bytes) (s : Session D) :
      Silent s (payloads.foldl (processControlPayload decode) s) :=
    List.foldlRecOn (motive := fun s' ↦ Silent s s') _ _ (Silent.refl s)
      fun s' hs payload _ ↦ hs.trans (silent_processControlPayload decode s' payload)
  have hpose : ReportsPresence s₁ ((s.mailOfPoll now).roomPose.elim s₁ s₁.processRoomPose) := by
    rcases (s.mailOfPoll now).roomPose with - | payload
    · exact (Silent.refl s₁).reportsPresence hapart₁
    · obtain haside | ⟨message, -, -, heq⟩ := s₁.processRoomPose_cases payload
      · exact haside.silent.reportsPresence hapart₁
      · rw [Option.elim_some, heq]
        exact reportsPresence_applyRoomPose message s₁ hapart₁
  exact hpose.between hbefore.silent ((hcontrol _ _).trans hafter.silent)

/-- What a step of a session reports of the presence of others: exactly the changes of the announced
set, and those who have come have a remote pose, and those who are gone have none. -/
structure PresenceExact (decode : Bytes → Option (List Bytes)) (s : Session D)
    (e : SessionStep D) : Prop where
  updates : ∀ alive, s.client.mapping.UpdatesExactly alive
  reports : ∀ clientNo, (s.returned decode e).filterMap (Event.presenceOf clientNo) =
    toggled (s.announced clientNo) ((s.step decode e).announced clientNo)
  poses : ∀ event ∈ s.returned decode e, ∀ clientNo here,
    event.presenceOf clientNo = some here →
      (here = true ↔ clientNo ∈ (s.step decode e).client.remotePoses)

/-- **Every step**, and the invariant after it. -/
theorem presenceExact_step (decode : Bytes → Option (List Bytes)) {s : Session D}
    (hapart : s.client.mapping.PendingApart) (e : SessionStep D) :
    (s.step decode e).client.mapping.PendingApart ∧ s.PresenceExact decode e := by
  have hupdates := DeviceMapping.updatesExactly hapart
  -- nothing is returned and the mapping stays
  have hquiet (hreturned : s.returned decode e = [])
      (hmapping : (s.step decode e).client.mapping = s.client.mapping) :
      (s.step decode e).client.mapping.PendingApart ∧ s.PresenceExact decode e := by
    refine ⟨by rwa [hmapping], hupdates, fun clientNo ↦ ?_, fun event hevent ↦ ?_⟩
    · rw [hreturned, announced, announced, hmapping, toggled, if_pos rfl]
      rfl
    · rw [hreturned] at hevent
      exact absurd hevent List.not_mem_nil
  cases e with
  | network n => exact hquiet rfl rfl
  | call call schedule =>
    by_cases hpoll : ∃ now, call = .poll now
    · obtain ⟨now, rfl⟩ := hpoll
      let called : Session D := { s with shared := { s.shared with schedule := schedule } }
      by_cases hstate : s.client.state = .disconnected
      · have hidle := poll_of_disconnected decode now (s := called) hstate
        refine hquiet ?_ ?_
        · show (called.poll decode now).1 = []
          rw [hidle]
        · show (called.poll decode now).2.client.mapping = s.client.mapping
          rw [hidle]
      · obtain ⟨hreports, hevents⟩ := reportsPresence_poll (s := called) decode now hstate hapart
        obtain ⟨more, hmore, htoggled, hposes⟩ := hreports.events
        have hreturned : s.returned decode (.call (.poll now) schedule) = more :=
          hevents.trans hmore
        refine ⟨hreports.apart, hupdates, fun clientNo ↦ ?_, ?_⟩
        · rw [hreturned]
          exact htoggled clientNo
        · rw [hreturned]
          exact hposes
    · have hne (now : D) : call ≠ .poll now := fun h ↦ hpoll ⟨now, h⟩
      refine hquiet (returned_of_ne decode s schedule hne) ?_
      exact (presence_perform decode { s with shared := { s.shared with schedule := schedule } }
        hne).1

/-- **Presence events are exact.** In every run of mapping messages and snapshots from a cleared
mapping every update is an exact difference; every step of every session reports exactly the
changes of the announced set, in agreement with the remote poses; and of every client number a
session reports by turns that it has come and that it is gone. -/
theorem presence_exact (decode : Bytes → Option (List Bytes)) (config : ClientConfig D)
    {s : Session D} (hstate : s.client.state = .disconnected ∨ s.client.state = .error)
    (steps : List (SessionStep D)) (m : DeviceMapping)
    (updates : List DeviceMapping.PresenceStep) :
    Along DeviceMapping.presenceStep
      (fun m e ↦ ∀ alive, e = .updatePresence alive → m.UpdatesExactly alive) m.clear updates ∧
    Along (step decode) (fun s e ↦ s.PresenceExact decode e) (s.connect config).2 steps ∧
    ∀ clientNo, Alternates true
      ((trace (step decode) (returned decode) (s.connect config).2 steps).flatten.filterMap
        (Event.presenceOf clientNo)) := by
  have haside := aside_connect config hstate
  have hstart : (s.connect config).2.client.mapping.PendingApart := by
    rw [haside.mapping]
    exact DeviceMapping.pendingApart_clear s.client.mapping
  refine ⟨DeviceMapping.updatesExactly_along m updates, ?_, fun clientNo ↦ ?_⟩
  · exact Along.of_invariant (I := fun s ↦ s.client.mapping.PendingApart)
      (fun s e hapart ↦ (presenceExact_step decode hapart e).1)
      (fun s e hapart ↦ (presenceExact_step decode hapart e).2) hstart steps
  · have hnone : (s.connect config).2.announced clientNo = false := by
      rw [announced, haside.mapping]
      exact Std.ExtTreeSet.contains_empty
    rw [List.filterMap_flatten, map_trace, ← Bool.not_false, ← hnone]
    exact alternates_trace (I := fun s ↦ s.client.mapping.PendingApart)
      (fun s e hapart ↦ (presenceExact_step decode hapart e).1)
      (fun s e hapart ↦ (presenceExact_step decode hapart e).2.reports clientNo) hstart steps

end Poll

/-- The other client comes, and then it is gone. -/
def otherLeaves : List (SessionStep ℚ) :=
  numberFirst ++ [.network (.payload .roomPose ownPose), .call (.poll 2) []]
where
  ownPose : Bytes :=
    serializeRoomPose
      { roomId := [114], broadcastTime := 0,
        clients := [⟨1, 0, (ClientPoseBody.default : ClientPoseBody ℚ)⟩] }

theorem presence_exact_otherLeaves :
    (trace (step fun _ ↦ none) (returned fun _ ↦ none) enteredRoom otherLeaves).flatten.filterMap
        (Event.presenceOf 2) = [true, false] ∧
      ∀ clientNo, Alternates true ((trace (step fun _ ↦ none) (returned fun _ ↦ none) enteredRoom
        otherLeaves).flatten.filterMap (Event.presenceOf clientNo)) :=
  ⟨by decide +kernel, (presence_exact (fun _ ↦ none) deviceConfig (s := Session.new 0) (Or.inl rfl)
    otherLeaves {} []).2.2⟩

end Session

end StylyNetSync
