import StylyNetSync.Transport.ReceiveLoop

/-!
# Rooms on the broadcast lane

A client subscribes to its room id as a prefix, and the topics of every room whose id begins with it
arrive. What keeps the rooms apart are the two classifiers. They compare all bytes of a topic; and
since the suffix of an object topic begins with a NUL byte, no object topic is a room id without
one.
-/

namespace StylyNetSync

/-- The two topics on which a room is broadcast. -/
theorem mem_laneTopic {topic roomId : Bytes} (lane : TransportLane)
    (h : topic = laneTopic roomId lane) :
    topic = roomId ∨ topic = roomId ++ kObjectTopicSuffix := by
  cases lane with
  | control => exact .inl h
  | roomPose => exact .inl h
  | roomObjects => exact .inr h

/-- A room id without a NUL byte is no object topic. -/
theorem ne_objectTopic {roomId : Bytes} (h : 0 ∉ roomId) (other : Bytes) :
    roomId ≠ other ++ kObjectTopicSuffix := by
  rintro rfl
  exact h (List.mem_append_right _ List.mem_cons_self)

/-- No topic of a room is accepted by the classifiers of another one. -/
theorem not_accepted_of_ne {roomId other : Bytes} (hne : other ≠ roomId) (hroom : 0 ∉ roomId)
    (hother : 0 ∉ other) (lane : TransportLane) :
    isAvatarTopic (laneTopic other lane) roomId = false ∧
      isObjectTopic (laneTopic other lane) roomId = false := by
  rw [Bool.eq_false_iff, Bool.eq_false_iff, Ne, Ne, isAvatarTopic_iff, isObjectTopic_iff]
  rcases mem_laneTopic lane rfl with htopic | htopic
  · rw [htopic]
    exact ⟨hne, ne_objectTopic hother roomId⟩
  · rw [htopic, List.append_cancel_right_eq]
    exact ⟨(ne_objectTopic hroom other).symm, hne⟩

/-- A payload as it is broadcast: to which room, on which lane. -/
structure Broadcast where
  roomId : Bytes
  lane : TransportLane
  payload : Bytes

/-- The message of a broadcast: a topic frame and a payload frame. -/
def Broadcast.message (b : Broadcast) : MultipartMessage := ⟨laneTopic b.roomId b.lane, [b.payload]⟩

/-- **The broadcasts of other rooms make no difference**, wherever they arrive in between. -/
theorem receiveSub_own {roomId : Bytes} (hroom : 0 ∉ roomId) (sent : List Broadcast)
    (hsent : ∀ b ∈ sent, 0 ∉ b.roomId) :
    receiveSub roomId (onSocket (sent.map Broadcast.message)) =
      receiveSub roomId (onSocket
        ((sent.filter fun b ↦ b.roomId = roomId).map Broadcast.message)) := by
  have hread (sent : List Broadcast) : readPairs (sent.map Broadcast.message) =
      sent.map fun b ↦ (laneTopic b.roomId b.lane, b.payload) := by
    rw [readPairs, List.flatMap_map, List.map_eq_flatMap]
    rfl
  have hloop (s : SubDrain) : receiveLoop (noteSubFrame roomId) s
      (onSocket (sent.map Broadcast.message)) = receiveLoop (noteSubFrame roomId) s
        (onSocket ((sent.filter fun b ↦ b.roomId = roomId).map Broadcast.message)) := by
    rw [receiveLoop_onSocket, receiveLoop_onSocket, hread, hread]
    induction sent generalizing s with
    | nil => rfl
    | cons b sent ih =>
      have hrest := ih fun c hc ↦ hsent c (List.mem_cons_of_mem _ hc)
      by_cases hown : b.roomId = roomId
      · rw [List.filter_cons_of_pos (by simpa using hown), List.map_cons, List.map_cons,
          List.foldl_cons, List.foldl_cons]
        exact hrest _
      · obtain ⟨havatar, hobject⟩ :=
          not_accepted_of_ne hown hroom (hsent b List.mem_cons_self) b.lane
        have hignored : noteSubFrame roomId s (laneTopic b.roomId b.lane) b.payload = s := by
          rw [noteSubFrame, havatar, hobject, if_neg Bool.false_ne_true,
            if_neg Bool.false_ne_true]
        rw [List.filter_cons_of_neg (by simpa using hown), List.map_cons, List.foldl_cons, hignored]
        exact hrest s
  rw [receiveSub, receiveSub, hloop]

/-- **Rooms never cross on the broadcast lane.** -/
theorem rooms_never_cross (roomId : Bytes) :
    (∀ topic, (isAvatarTopic topic roomId = true ↔ topic = roomId) ∧
        (isObjectTopic topic roomId = true ↔ topic = roomId ++ [0x00, 0x6F, 0x62, 0x6A]) ∧
        ¬(isAvatarTopic topic roomId = true ∧ isObjectTopic topic roomId = true)) ∧
      (∀ other, other ≠ roomId → 0 ∉ roomId → 0 ∉ other → ∀ lane,
        isAvatarTopic (laneTopic other lane) roomId = false ∧
          isObjectTopic (laneTopic other lane) roomId = false) ∧
      ∀ sent : List Broadcast, 0 ∉ roomId → (∀ b ∈ sent, 0 ∉ b.roomId) →
        receiveSub roomId (onSocket (sent.map Broadcast.message)) =
          receiveSub roomId (onSocket
            ((sent.filter fun b ↦ b.roomId = roomId).map Broadcast.message)) := by
  refine ⟨fun topic ↦ ⟨isAvatarTopic_iff, isObjectTopic_iff, ?_⟩,
    fun other hne hroom hother lane ↦ not_accepted_of_ne hne hroom hother lane,
    fun sent hroom hsent ↦ receiveSub_own hroom sent hsent⟩
  rintro ⟨havatar, hobject⟩
  rw [isAvatarTopic_iff] at havatar
  rw [isObjectTopic_iff, havatar] at hobject
  have hlength := congrArg List.length hobject
  rw [List.length_append] at hlength
  simp [kObjectTopicSuffix] at hlength

/-- With a NUL byte in it, a room id can be the object topic of another room. -/
example : isObjectTopic (laneTopic ([114] ++ kObjectTopicSuffix) .roomPose) [114] = true := by
  decide

end StylyNetSync
