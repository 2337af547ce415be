import StylyNetSync.Core.PoseClock

/-!
# The schedule of avatar publications

What a peer sees of an avatar is a series of poses, each with a sequence number. In a session whose
transport is up, whatever else the host does: a poll hands the transport what it publishes, two
publications lie the send interval apart and their numbers follow each other, a pose that did not
change is not repeated within a second, a changed pose is out within the interval, and an unchanged
one is repeated within a second and an interval (`poseSchedule`). Whether a pose has changed is
decided on its bytes, those of the sequence number left out.
-/

namespace StylyNetSync

variable {D : Type} [DoubleTrig D]

/-! ### The bytes of a pose -/

/-- The serialised bytes of a pose apart from the sequence number. -/
def bytesApartFromSeq (message : ClientPoseMessage D) : Bytes :=
  let payload := serializeClientPose message
  let header := 2 + (writeString8 message.deviceId).length
  payload.take header ++ payload.drop (header + 2)

/-- The bytes of a body behind its sequence number. -/
def bodyTail (body : ClientPoseBody D) : Bytes := (writePoseBody body).drop 2

theorem writePoseBody_eq (body : ClientPoseBody D) :
    writePoseBody body = writeU16 body.poseSeq ++ bodyTail body := by
  have hlength : (writeU16 body.poseSeq).length = 2 := rfl
  rw [bodyTail, writePoseBody, List.flatten_cons, ← hlength, List.drop_left]

theorem serializeClientPose_eq (message : ClientPoseMessage D) :
    serializeClientPose message =
      ([MessageType.clientPose.code, kProtocolVersion] ++ writeString8 message.deviceId) ++
        (writeU16 message.body.poseSeq ++ bodyTail message.body) := by
  rw [← writePoseBody_eq, serializeClientPose]
  simp [writeU8]

theorem bytesApartFromSeq_eq (message : ClientPoseMessage D) :
    bytesApartFromSeq message =
      ([MessageType.clientPose.code, kProtocolVersion] ++ writeString8 message.deviceId) ++
        bodyTail message.body := by
  have hheader : ([MessageType.clientPose.code, kProtocolVersion] ++
      writeString8 message.deviceId).length = 2 + (writeString8 message.deviceId).length := by
    rw [List.length_append]
    rfl
  have hseq : (writeU16 message.body.poseSeq).length = 2 := rfl
  rw [bytesApartFromSeq, serializeClientPose_eq, ← hheader, List.take_left, ← List.drop_drop,
    List.drop_left, ← hseq, List.drop_left]

/-- **Change detection is that of the serialiser**: two poses of a client have the same signature
exactly when their bytes apart from the sequence number are the same. -/
theorem bytesApartFromSeq_eq_iff {message message' : ClientPoseMessage D}
    (hdevice : message.deviceId = message'.deviceId) :
    bytesApartFromSeq message = bytesApartFromSeq message' ↔
      poseSignature message.body = poseSignature message'.body := by
  rw [bytesApartFromSeq_eq, bytesApartFromSeq_eq, hdevice, List.append_cancel_left_eq,
    poseSignature, poseSignature, serializeClientPose_eq, serializeClientPose_eq,
    List.append_cancel_left_eq, List.append_cancel_left_eq]
  exact Iff.rfl

/-! ### The schedule -/

/-- The time of a poll. -/
def SessionStep.pollTime : SessionStep D → Option D
  | .call (.poll now) _ => some now
  | _ => none

variable [DoubleText D]

namespace Session

/-- The pose that the client would publish now has these bytes. -/
def Shows (bytes : Bytes) (s : Session D) : Prop :=
  ∃ body, outgoingPose s.client = some body ∧
    bytesApartFromSeq ⟨s.client.config.deviceId, body⟩ = bytes

/-- The session as `connect` leaves it, as far as the pose goes: nothing was looked at or published
in living memory. -/
structure PoseReset (s : Session D) : Prop where
  looked : s.client.lastPoseSendTime = Double.lit (-1000000000)
  published : s.client.lastPoseChangeSendTime = Double.lit (-1000000000)
  signature : s.client.lastPoseSignature = none

variable [RealValued D]

open RealValued

/-- What a run publishes, and when. -/
structure PoseSchedule (decode : Bytes → Option (List Bytes)) (s : Session D)
    (steps : List (SessionStep D)) : Prop where
  /-- A poll comes to the pose, hands the transport what it publishes and nothing otherwise, and
  goes on. -/
  handed : ∀ before now schedule after, steps = before ++ .call (.poll now) schedule :: after →
    let found := before.foldl (Session.step decode) s
    let looking := (found.scheduled schedule).untilPose decode now
    (looking.sendLocalPoseIfDue now).shared =
        (match found.published decode (.call (.poll now) schedule) with
          | none => looking.shared.isConnected.2
          | some a =>
            looking.shared.isConnected.2.setLatestTransform (serializeClientPose a.message)) ∧
      found.step decode (.call (.poll now) schedule) =
        (looking.sendLocalPoseIfDue now).afterPose now
  /-- Publications lie an interval apart, and are numbered one after another. -/
  spaced : (s.publications decode steps).IsChain fun a b ↦
    s.client.posePart.interval ≤ toReal b.time - toReal a.time ∧
      b.message.body.poseSeq = a.message.body.poseSeq + 1
  /-- While the pose is not cleared, equal ones are a second apart. -/
  rested : ∀ before segment after, steps = before ++ segment ++ after →
    (∀ schedule, .call .clearLocalPose schedule ∉ segment) →
      ((before.foldl (Session.step decode) s).publications decode segment).IsChain fun a b ↦
        bytesApartFromSeq a.message = bytesApartFromSeq b.message →
          1 ≤ toReal b.time - toReal a.time
  /-- A pose that was set at time `c`, is not the one published last and stays current is published
  by the first poll an interval later. -/
  changed : ∀ before segment after now schedule (c : ℝ) bytes,
    steps = before ++ segment ++ .call (.poll now) schedule :: after →
    (∀ t ∈ before.filterMap SessionStep.pollTime, toReal t ≤ c) → -1000000000 ≤ c →
    (∀ a ∈ (s.publications decode before).getLast?, bytesApartFromSeq a.message ≠ bytes) →
    Along (Session.step decode) (fun s _ ↦ s.Shows bytes) (before.foldl (Session.step decode) s)
      (segment ++ [.call (.poll now) schedule]) →
    c + s.client.posePart.interval ≤ toReal now →
    ∃ a ∈ (before.foldl (Session.step decode) s).publications decode
      (segment ++ [.call (.poll now) schedule]), bytesApartFromSeq a.message = bytes
  /-- A pose that was published and stays current is published again by the first poll a second and
  an interval later. -/
  repeated : ∀ before step segment after now schedule a,
    steps = before ++ [step] ++ segment ++ .call (.poll now) schedule :: after →
    (before.foldl (Session.step decode) s).published decode step = some a →
    Along (Session.step decode) (fun s _ ↦ s.Shows (bytesApartFromSeq a.message))
      ((before ++ [step]).foldl (Session.step decode) s)
      (segment ++ [.call (.poll now) schedule]) →
    toReal a.time + 1 + s.client.posePart.interval ≤ toReal now →
    ∃ b ∈ ((before ++ [step]).foldl (Session.step decode) s).publications decode
      (segment ++ [.call (.poll now) schedule]),
      bytesApartFromSeq b.message = bytesApartFromSeq a.message

section Proof

variable {decode : Bytes → Option (List Bytes)} {s : Session D} {steps : List (SessionStep D)}

omit [RealValued D] in
/-- **What a poll publishes is what it hands over.** -/
theorem handed_of_transportUp {now : D} {schedule : List (List (NetworkStep D))}
    (hup : s.TransportUp decode (.call (.poll now) schedule)) :
    let looking := (s.scheduled schedule).untilPose decode now
    (looking.sendLocalPoseIfDue now).shared =
        (match s.published decode (.call (.poll now) schedule) with
          | none => looking.shared.isConnected.2
          | some a =>
            looking.shared.isConnected.2.setLatestTransform (serializeClientPose a.message)) ∧
      s.step decode (.call (.poll now) schedule) =
        (looking.sendLocalPoseIfDue now).afterPose now := by
  intro looking
  have hpublished : s.published decode (.call (.poll now) schedule) =
      (looking.posePublication now).map (PosePublished.mk now) := if_neg hup.1
  refine ⟨?_, poll_eq decode now hup.1⟩
  rw [shared_sendLocalPoseIfDue, hpublished]
  cases looking.posePublication now <;> rfl

theorem spaced_of_transportUp (hup : Along (Session.step decode) (TransportUp decode) s steps) :
    (s.publications decode steps).IsChain fun a b ↦
      s.client.posePart.interval ≤ toReal b.time - toReal a.time ∧
        b.message.body.poseSeq = a.message.body.poseSeq + 1 := by
  have hrun := refines_run decode hup
  have hspaced := (Heartbeat.isChain_publications 1 s.client.posePart.interval_pos.le
    s.client.posePart.clock (s.runEvents decode steps)).2
  rw [← hrun.publications, List.isChain_map, List.isChain_iff_getElem] at hspaced
  have hcounted := List.isChain_iff_getElem.mp hrun.counted.2
  exact List.isChain_iff_getElem.mpr fun i hi ↦ ⟨hspaced i hi, hcounted i hi⟩

/-- Only clearing the pose makes the clock forget. -/
theorem forget_not_mem_runEvents (decode : Bytes → Option (List Bytes)) (s : Session D)
    (hkept : ∀ schedule, .call .clearLocalPose schedule ∉ steps) :
    .forget ∉ s.runEvents decode steps := by
  induction steps generalizing s with
  | nil => exact List.not_mem_nil
  | cons step steps ih =>
    rw [runEvents, List.mem_append, not_or]
    refine ⟨fun hforget ↦ ?_, ih _ fun schedule hmem ↦ hkept schedule (List.mem_cons_of_mem _ hmem)⟩
    rw [poseEvents.eq_def] at hforget
    split at hforget
    · simp at hforget
    · exact hkept _ List.mem_cons_self
    · exact absurd hforget List.not_mem_nil

theorem rested_of_transportUp (hup : Along (Session.step decode) (TransportUp decode) s steps)
    (hkept : ∀ schedule, .call .clearLocalPose schedule ∉ steps) :
    (s.publications decode steps).IsChain fun a b ↦
      bytesApartFromSeq a.message = bytesApartFromSeq b.message →
        1 ≤ toReal b.time - toReal a.time := by
  have hrun := refines_run decode hup
  have hrested := (Heartbeat.isChain_equal s.client.posePart.interval 1 s.client.posePart.clock
    (forget_not_mem_runEvents decode s hkept)).2
  rw [← hrun.publications, List.isChain_map] at hrested
  refine hrested.imp_of_mem_imp fun a b ha hb hstamp hbytes ↦ hstamp ?_
  exact (bytesApartFromSeq_eq_iff ((hrun.message a ha).trans (hrun.message b hb).symm)).mp hbytes

omit [DoubleText D] in
/-- An offer is made by a poll, of the pose that is shown. -/
theorem offer_mem_poseEvents {step : SessionStep D} {now : ℝ} {value : Bytes}
    (h : .offer now value ∈ s.poseEvents step) :
    ∃ t body, step.pollTime = some t ∧ outgoingPose s.client = some body ∧ now = toReal t ∧
      value = poseSignature body := by
  rw [poseEvents.eq_def] at h
  split at h
  · next t schedule =>
    obtain ⟨body, hbody, heq⟩ := List.mem_map.mp h
    injection heq with hnow hvalue
    exact ⟨t, body, rfl, Option.mem_toList.mp hbody, hnow.symm, hvalue.symm⟩
  · simp at h
  · exact absurd h List.not_mem_nil

/-- The offers of a run are made by its polls. -/
theorem offer_mem_runEvents {now : ℝ} {value : Bytes}
    (h : .offer now value ∈ s.runEvents decode steps) :
    ∃ t ∈ steps.filterMap SessionStep.pollTime, now = toReal t := by
  induction steps generalizing s with
  | nil => exact absurd h List.not_mem_nil
  | cons step steps ih =>
    rw [runEvents, List.mem_append] at h
    rcases h with h | h
    · obtain ⟨t, -, htime, -, hnow, -⟩ := offer_mem_poseEvents h
      exact ⟨t, List.mem_filterMap.mpr ⟨step, List.mem_cons_self, htime⟩, hnow⟩
    · obtain ⟨t, ht, hnow⟩ := ih h
      obtain ⟨step', hmem, htime⟩ := List.mem_filterMap.mp ht
      exact ⟨t, List.mem_filterMap.mpr ⟨step', List.mem_cons_of_mem _ hmem, htime⟩, hnow⟩

omit [DoubleText D] [RealValued D] in
/-- A pose that is shown has the signature of any message with these bytes. -/
theorem Shows.signature {message : ClientPoseMessage D} {body : ClientPoseBody D}
    (h : s.Shows (bytesApartFromSeq message)) (hpose : outgoingPose s.client = some body)
    (hdevice : message.deviceId = s.client.posePart.deviceId) :
    poseSignature body = poseSignature message.body := by
  obtain ⟨body', hbody', hbytes⟩ := h
  rw [hpose, Option.some.injEq] at hbody'
  rw [← hbody'] at hbytes
  have hsame : (⟨s.client.config.deviceId, body⟩ : ClientPoseMessage D).deviceId =
      message.deviceId := hdevice.symm
  exact (bytesApartFromSeq_eq_iff hsame).mp hbytes

/-- While a pose is shown, the polls offer its signature. -/
theorem offers_runEvents {message : ClientPoseMessage D}
    (hdevice : message.deviceId = s.client.posePart.deviceId)
    (hup : Along (Session.step decode) (TransportUp decode) s steps)
    (hshows : Along (Session.step decode) (fun s _ ↦ s.Shows (bytesApartFromSeq message)) s steps) :
    ∀ event ∈ s.runEvents decode steps, Heartbeat.Offers (poseSignature message.body) event := by
  induction steps generalizing s with
  | nil => exact fun event h ↦ absurd h List.not_mem_nil
  | cons step steps ih =>
    have hnext : message.deviceId = (s.step decode step).client.posePart.deviceId :=
      hdevice.trans (refines_step decode s step hup.1).deviceId.symm
    intro event hevent now value hoffer
    rw [runEvents, List.mem_append] at hevent
    rcases hevent with hevent | hevent
    · rw [hoffer] at hevent
      obtain ⟨t, body, -, hpose, -, hvalue⟩ := offer_mem_poseEvents hevent
      rw [hvalue]
      exact hshows.1.signature hpose hdevice
    · exact ih hnext hup.2 hshows.2 event hevent now value hoffer

/-- A run that ends with a poll ends with an offer of what is shown. -/
theorem runEvents_poll {message : ClientPoseMessage D} {now : D}
    {schedule : List (List (NetworkStep D))}
    (hdevice : message.deviceId = s.client.posePart.deviceId)
    (hup : Along (Session.step decode) (TransportUp decode) s
      (steps ++ [.call (.poll now) schedule]))
    (hshows : Along (Session.step decode) (fun s _ ↦ s.Shows (bytesApartFromSeq message)) s
      (steps ++ [.call (.poll now) schedule])) :
    s.runEvents decode (steps ++ [.call (.poll now) schedule]) =
      s.runEvents decode steps ++ [.offer (toReal now) (poseSignature message.body)] := by
  have hlast : (steps.foldl (Session.step decode) s).Shows (bytesApartFromSeq message) :=
    hshows.right.1
  have hdevice' := hdevice.trans (refines_run decode hup.left).deviceId.symm
  obtain ⟨body, hpose, -⟩ := id hlast
  have hoffer : (steps.foldl (Session.step decode) s).poseEvents (.call (.poll now) schedule) =
      [.offer (toReal now) (poseSignature message.body)] := by
    rw [poseEvents, hpose, ← hlast.signature hpose hdevice']
    rfl
  rw [runEvents_append, runEvents, hoffer]
  rfl

/-- A publication with a signature is one of these bytes. -/
theorem exists_published {message : ClientPoseMessage D} {t : ℝ}
    (hdevice : message.deviceId = s.client.posePart.deviceId) (hrun : RunRefines decode s steps)
    (h : (t, poseSignature message.body) ∈ s.client.posePart.clock.publications
      s.client.posePart.interval 1 (s.runEvents decode steps)) :
    ∃ a ∈ s.publications decode steps, bytesApartFromSeq a.message = bytesApartFromSeq message := by
  rw [← hrun.publications] at h
  obtain ⟨a, ha, hstamp⟩ := List.mem_map.mp h
  exact ⟨a, ha, (bytesApartFromSeq_eq_iff ((hrun.message a ha).trans hdevice.symm)).mpr
    (Prod.mk.inj hstamp).2⟩

/-- **A changed pose is out in time.** -/
theorem changed_of_transportUp {message : ClientPoseMessage D} {now : D} {c : ℝ}
    {schedule : List (List (NetworkStep D))}
    (hdevice : message.deviceId = s.client.posePart.deviceId)
    (hup : Along (Session.step decode) (TransportUp decode) s
      (steps ++ [.call (.poll now) schedule]))
    (hshows : Along (Session.step decode) (fun s _ ↦ s.Shows (bytesApartFromSeq message)) s
      (steps ++ [.call (.poll now) schedule]))
    (hchanged : s.client.posePart.clock.last ≠ some (poseSignature message.body))
    (hlooked : s.client.posePart.clock.looked ≤ c)
    (hnow : c + s.client.posePart.interval ≤ toReal now) :
    ∃ a ∈ s.publications decode (steps ++ [.call (.poll now) schedule]),
      bytesApartFromSeq a.message = bytesApartFromSeq message := by
  obtain ⟨t, ht⟩ : ∃ t, (t, poseSignature message.body) ∈
      s.client.posePart.clock.publications s.client.posePart.interval 1
        (s.runEvents decode steps ++ [.offer (toReal now) (poseSignature message.body)]) :=
    Heartbeat.published_of_changed hchanged hlooked
      (offers_runEvents hdevice hup.left hshows.left) hnow
  rw [← runEvents_poll hdevice hup hshows] at ht
  exact exists_published hdevice (refines_run decode hup) ht

/-- **An unchanged pose is repeated in time.** -/
theorem repeated_of_transportUp {message : ClientPoseMessage D} {now : D} {p : ℝ}
    {schedule : List (List (NetworkStep D))}
    (hdevice : message.deviceId = s.client.posePart.deviceId)
    (hup : Along (Session.step decode) (TransportUp decode) s
      (steps ++ [.call (.poll now) schedule]))
    (hshows : Along (Session.step decode) (fun s _ ↦ s.Shows (bytesApartFromSeq message)) s
      (steps ++ [.call (.poll now) schedule]))
    (hpublished : s.client.posePart.clock.published = p)
    (hlooked : s.client.posePart.clock.looked ≤ p + 1)
    (hnow : p + 1 + s.client.posePart.interval ≤ toReal now) :
    ∃ a ∈ s.publications decode (steps ++ [.call (.poll now) schedule]),
      bytesApartFromSeq a.message = bytesApartFromSeq message := by
  obtain ⟨t, ht⟩ := Heartbeat.republished s.client.posePart.interval_pos.le hpublished hlooked
    (offers_runEvents hdevice hup.left hshows.left) hnow
  rw [← runEvents_poll hdevice hup hshows] at ht
  exact exists_published hdevice (refines_run decode hup) ht

/-- Behind a publication the clock stands at its time. -/
theorem clock_of_published {step : SessionStep D} {a : PosePublished D}
    (hup : s.TransportUp decode step) (hpublished : s.published decode step = some a) :
    (s.step decode step).client.posePart.clock =
      ⟨toReal a.time, toReal a.time, some (poseSignature a.message.body)⟩ := by
  have hstep := refines_step decode s step hup
  have hpublications := hstep.publications
  obtain ⟨event, hevents⟩ : ∃ event : Option (HeartbeatEvent ℝ Bytes),
      s.poseEvents step = event.toList := by
    rw [poseEvents.eq_def]
    split
    · exact ⟨(outgoingPose s.client).map _, by cases outgoingPose s.client <;> rfl⟩
    · exact ⟨some .forget, rfl⟩
    · exact ⟨none, rfl⟩
  rw [hstep.clock, hevents]
  rw [hevents, hpublished] at hpublications
  cases event with
  | none => exact absurd hpublications (by simp [Heartbeat.publications])
  | some event =>
    have hpublication : s.client.posePart.clock.publication s.client.posePart.interval 1 event =
        some (stamp a) := by
      simp only [Option.toList_some, List.map_cons, List.map_nil, Heartbeat.publications,
        List.append_nil] at hpublications
      rcases hcase : s.client.posePart.clock.publication s.client.posePart.interval 1 event with
        - | b <;> rw [hcase] at hpublications
      · simp at hpublications
      · exact congrArg some (List.singleton_inj.mp hpublications).symm
    exact Heartbeat.step_of_publication hpublication

/-- After a reset, the clock remembers no other signature than that of the last publication. -/
theorem last_ne_of_poseReset {message : ClientPoseMessage D} (hstart : s.PoseReset)
    (hrun : RunRefines decode s steps) (hdevice : message.deviceId = s.client.posePart.deviceId)
    (hdiffers : ∀ a ∈ (s.publications decode steps).getLast?,
      bytesApartFromSeq a.message ≠ bytesApartFromSeq message) :
    (steps.foldl (Session.step decode) s).client.posePart.clock.last ≠
      some (poseSignature message.body) := by
  intro hlast
  rw [hrun.clock] at hlast
  rcases Heartbeat.getLast_publications hlast with ⟨t, ht⟩ | ⟨-, hsame⟩
  · rw [← hrun.publications, List.getLast?_map, Option.map_eq_some_iff] at ht
    obtain ⟨a, ha, hstamp⟩ := ht
    refine hdiffers a ha ((bytesApartFromSeq_eq_iff ?_).mpr (Prod.mk.inj hstamp).2)
    exact (hrun.message a (List.mem_of_getLast? ha)).trans hdevice.symm
  · have hnone : s.client.posePart.clock.last = none := hstart.signature
    rw [hnone] at hsame
    simp at hsame

/-- After a reset, the clock has looked at no later time than that of a poll. -/
theorem looked_le_of_poseReset {c : ℝ} (hstart : s.PoseReset) (hrun : RunRefines decode s steps)
    (hc : -1000000000 ≤ c) (hpolls : ∀ t ∈ steps.filterMap SessionStep.pollTime, toReal t ≤ c) :
    (steps.foldl (Session.step decode) s).client.posePart.clock.looked ≤ c := by
  rw [hrun.clock]
  refine Heartbeat.looked_le ?_ fun t value hmem ↦ ?_
  · have hlooked : s.client.posePart.clock.looked = -1000000000 := by
      show toReal s.client.lastPoseSendTime = _
      rw [hstart.looked, toReal_lit]
      norm_num
    rwa [hlooked]
  · obtain ⟨t', ht', rfl⟩ := offer_mem_runEvents hmem
    exact hpolls t' ht'

end Proof

theorem poseSchedule_of_poseReset (decode : Bytes → Option (List Bytes)) {s : Session D}
    {steps : List (SessionStep D)} (hstart : s.PoseReset)
    (hup : Along (Session.step decode) (TransportUp decode) s steps) :
    PoseSchedule decode s steps where
  handed before now schedule after hsteps := by
    rw [hsteps] at hup
    exact handed_of_transportUp hup.right.1
  spaced := spaced_of_transportUp hup
  rested before segment after hsteps hkept := by
    rw [hsteps] at hup
    exact rested_of_transportUp hup.left.right hkept
  changed before segment after now schedule c bytes hsteps hbefore hc hdiffers hshows hnow := by
    have hparts : steps = before ++ (segment ++ [.call (.poll now) schedule]) ++ after := by
      rw [hsteps]
      simp only [List.append_assoc, List.cons_append, List.nil_append]
    rw [hparts] at hup
    have hrun := refines_run decode hup.left.left
    obtain ⟨body, hpose, rfl⟩ : (before.foldl (Session.step decode) s).Shows bytes := by
      cases segment with
      | nil => exact hshows.1
      | cons step segment => exact hshows.1
    have hlast := last_ne_of_poseReset hstart hrun hrun.deviceId hdiffers
    have hlooked := looked_le_of_poseReset hstart hrun hc hbefore
    rw [← hrun.interval] at hnow
    exact changed_of_transportUp rfl hup.left.right hshows hlast hlooked hnow
  repeated before step segment after now schedule a hsteps hpublished hshows hnow := by
    have hparts : steps =
        (before ++ [step]) ++ (segment ++ [.call (.poll now) schedule]) ++ after := by
      rw [hsteps]
      simp only [List.append_assoc, List.cons_append, List.nil_append]
    rw [hparts] at hup
    have hrun := refines_run decode hup.left.left
    have hstepUp := hup.left.left.right.1
    have hclock := clock_of_published hstepUp hpublished
    have hfold : (before ++ [step]).foldl (Session.step decode) s =
        (before.foldl (Session.step decode) s).step decode step := List.foldl_concat _ _ _ _
    rw [← hfold] at hclock
    have hdevice : a.message.deviceId =
        ((before ++ [step]).foldl (Session.step decode) s).client.posePart.deviceId := by
      have hstep := refines_step decode _ step hstepUp
      rw [hfold, hstep.deviceId]
      exact (hstep.message a hpublished).1
    refine repeated_of_transportUp hdevice hup.left.right hshows (p := toReal a.time) ?_ ?_ ?_
    · rw [hclock]
    · rw [hclock]
      exact le_add_of_nonneg_right zero_le_one
    · rwa [hrun.interval]

omit [DoubleText D] [RealValued D] in
/-- A new session has published nothing. -/
theorem poseReset_connect (config : ClientConfig D) {s : Session D}
    (hstate : s.client.state = .disconnected ∨ s.client.state = .error) :
    (s.connect config).2.PoseReset := by
  have hfree : ¬(s.client.state ≠ .disconnected ∧ s.client.state ≠ .error) := by tauto
  have hstart (s : Session D) (h : s.PoseReset) : s.startTransport.PoseReset := by
    have hpart := posePart_startTransport s
    exact ⟨(congrArg PosePart.lastPoseSendTime hpart).trans h.looked,
      (congrArg PosePart.lastPoseChangeSendTime hpart).trans h.published,
      (congrArg PosePart.lastPoseSignature hpart).trans h.signature⟩
  rw [connect, if_neg hfree]
  dsimp only
  split
  · exact hstart _ ⟨rfl, rfl, rfl⟩
  · split
    · exact ⟨rfl, rfl, rfl⟩
    · split <;> exact ⟨rfl, rfl, rfl⟩

/-- **The schedule of avatar publications**, in every session whose polls find the transport up,
with a fixed send rate, whatever else the host and the other threads do. -/
theorem poseSchedule (decode : Bytes → Option (List Bytes)) (config : ClientConfig D)
    {s : Session D} (hstate : s.client.state = .disconnected ∨ s.client.state = .error)
    {steps : List (SessionStep D)}
    (hup : Along (Session.step decode) (TransportUp decode) (s.connect config).2 steps) :
    PoseSchedule decode (s.connect config).2 steps :=
  poseSchedule_of_poseReset decode (poseReset_connect config hstate) hup

/-- The configuration of a client that looks at its pose ten times a second. -/
def posingConfig : ClientConfig ℚ :=
  { serverAddress := [49], roomId := [114], deviceId := [100], transformSendRate := 10 }

/-- A client that was just connected. -/
def posingClient : Session ℚ := ((Session.new 0).connect posingConfig).2

/-- The pose is set and looked at twice too early, once in vain and once as a heartbeat. -/
def standingStill : List (SessionStep ℚ) :=
  [.call (.setLocalPose ClientPoseBody.default) [], .call (.poll 0) [], .call (.poll (1 / 20)) [],
    .call (.poll (1 / 2)) [], .call (.poll (11 / 20)) [], .call (.poll 2) []]

/-- The last publication waits in the transport's slot. -/
theorem poseSchedule_standingStill :
    PoseSchedule (fun _ ↦ none) posingClient standingStill ∧
      (posingClient.publications (fun _ ↦ none) standingStill).map
        (fun a ↦ (a.time, a.message.body.poseSeq)) = [(0, 1), (2, 2)] ∧
      (standingStill.foldl (Session.step fun _ ↦ none)
          posingClient).shared.transport.latestTransform.map OutboundPacket.payload =
        some (serializeClientPose
          ⟨[100], { ClientPoseBody.default with poseSeq := 2 : ClientPoseBody ℚ }⟩) := by
  refine ⟨poseSchedule (fun _ ↦ none) posingConfig (s := Session.new 0) (Or.inl rfl) ?_,
    by decide +kernel, by decide +kernel⟩
  exact ⟨trivial, ⟨by decide +kernel, by decide +kernel⟩, ⟨by decide +kernel, by decide +kernel⟩,
    ⟨by decide +kernel, by decide +kernel⟩, ⟨by decide +kernel, by decide +kernel⟩,
    ⟨by decide +kernel, by decide +kernel⟩, trivial⟩

end Session

end StylyNetSync
