import Mathlib.Data.List.Induction
import StylyNetSync.Foundation.History
import StylyNetSync.Transport.ZmqTransport

/-!
# The receive loops

`receive_control` and `receive_sub` of the source read frames in pairs, a room id or topic and a
payload. A first frame that says that nothing follows is skipped; whether more follows the second
frame is not asked. A socket is a queue of multipart messages, delivered as their frames with the
flag that more follow set on all but the last.

So a message of more than two frames is read as several pairs, and the pairs behind the first, its
`strays`, are treated as messages of their own. The last frame of a message always ends it: if it
falls on the place of a topic it is skipped, and the next message is read from its first frame
again.
-/

namespace StylyNetSync

/-- `"\0obj"`. -/
def kObjectTopicSuffix : Bytes := [0, 111, 98, 106]

/-! ### Topics -/

/-- True iff the topic is byte-exactly the room topic. The length is compared first, so that an
empty frame matches an empty room id. -/
def isAvatarTopic (topic roomId : Bytes) : Bool :=
  if topic.length ≠ roomId.length then false
  else if topic.length = 0 then true
  else topic == roomId

/-- True iff the topic is byte-exactly the room id and the suffix. -/
def isObjectTopic (topic roomId : Bytes) : Bool :=
  if topic.length ≠ roomId.length + kObjectTopicSuffix.length then false
  else if !roomId.isEmpty && topic.take roomId.length != roomId then false
  else topic.drop roomId.length == kObjectTopicSuffix

theorem isAvatarTopic_iff {topic roomId : Bytes} :
    isAvatarTopic topic roomId = true ↔ topic = roomId := by
  rw [isAvatarTopic]
  split
  · next hlength => simpa using fun h ↦ hlength (congrArg List.length h)
  · next hlength =>
    split
    · next hempty =>
      have htopic : topic = [] := List.length_eq_zero_iff.mp hempty
      have hroom : roomId = [] := List.length_eq_zero_iff.mp (by omega)
      simp [htopic, hroom]
    · exact beq_iff_eq

theorem isObjectTopic_iff {topic roomId : Bytes} :
    isObjectTopic topic roomId = true ↔ topic = roomId ++ kObjectTopicSuffix := by
  rw [isObjectTopic]
  split
  · next hlength =>
    simp only [Bool.false_eq_true, false_iff]
    rintro rfl
    exact hlength List.length_append
  · split
    · next hlength hroom =>
      simp only [Bool.false_eq_true, false_iff]
      rintro rfl
      simp at hroom
    · next hlength hroom =>
      have htake : topic.take roomId.length = roomId := by
        by_contra hne
        simp only [Bool.and_eq_true, bne_iff_ne, ne_eq, hne, not_false_eq_true, and_true,
          Bool.not_eq_true', List.isEmpty_eq_false_iff, not_not] at hroom
        simp [hroom] at hne
      rw [beq_iff_eq]
      constructor
      · intro hdrop
        rw [← hdrop]
        conv_lhs => rw [← List.take_append_drop roomId.length topic, htake]
      · rintro rfl
        exact List.drop_left

/-! ### The loops -/

structure Frame where
  data : Bytes
  more : Bool

/-- What both loops do: read a frame; unless it is the last of its message, read another one and
take the two as topic and payload. -/
def receiveLoop {σ : Type} (handle : σ → Bytes → Bytes → σ) : σ → List Frame → σ
  | s, [] => s
  | s, [_] => s
  | s, topic :: payload :: rest =>
    if topic.more then receiveLoop handle (handle s topic.data payload.data) rest
    else receiveLoop handle s (payload :: rest)

/-- `receive_control`: the payloads given to `on_payload_`, and how many messages were counted. -/
def receiveControl (roomId : Bytes) (frames : List Frame) : List Bytes × ℕ :=
  receiveLoop
    (fun (payloads, received) frameRoom payload ↦
      (if frameRoom = roomId then payloads ++ [payload] else payloads, received + 1))
    ([], 0) frames

/-- The local variables of `receive_sub`. -/
structure SubDrain where
  lastAvatar : Option Bytes := none
  lastObject : Option Bytes := none
  avatarFrames : ℕ := 0

/-- Latest-wins: within one drain only the newest frame of each kind is kept. Any other topic is a
different room sharing our prefix. -/
def noteSubFrame (roomId : Bytes) (s : SubDrain) (topic payload : Bytes) : SubDrain :=
  if isAvatarTopic topic roomId then
    { s with lastAvatar := some payload, avatarFrames := s.avatarFrames + 1 }
  else if isObjectTopic topic roomId then { s with lastObject := some payload }
  else s

/-- `receive_sub`: the payloads given to `on_payload_` with their lanes, and the frames counted as
dropped. -/
def receiveSub (roomId : Bytes) (frames : List Frame) : List (TransportLane × Bytes) × ℕ :=
  let s := receiveLoop (noteSubFrame roomId) {} frames
  (s.lastAvatar.toList.map (.roomPose, ·) ++ s.lastObject.toList.map (.roomObjects, ·),
    s.avatarFrames - 1)

/-! ### Messages on a socket -/

/-- A message of one or more frames. -/
structure MultipartMessage where
  first : Bytes
  rest : List Bytes

/-- The frames of a message, flagged: more follow all but the last. -/
def flagged : List Bytes → List Frame
  | [] => []
  | [last] => [⟨last, false⟩]
  | data :: next :: rest => ⟨data, true⟩ :: flagged (next :: rest)

/-- The pairs in which a list of frames is read. -/
def pairs : List Bytes → List (Bytes × Bytes)
  | topic :: payload :: rest => (topic, payload) :: pairs rest
  | _ => []

namespace MultipartMessage

def frames (m : MultipartMessage) : List Bytes := m.first :: m.rest

/-- Frame 0 and frame 1. -/
def addressed (m : MultipartMessage) : Option (Bytes × Bytes) := m.rest.head?.map (m.first, ·)

/-- The pairs that are read behind the first: frames 2 and 3, 4 and 5, and so on. -/
def strays (m : MultipartMessage) : List (Bytes × Bytes) := pairs m.rest.tail

theorem pairs_frames (m : MultipartMessage) :
    pairs m.frames = m.addressed.toList ++ m.strays := by
  rcases m with ⟨first, - | ⟨payload, rest⟩⟩
  · rfl
  · rfl

end MultipartMessage

/-- What is on a socket. -/
def onSocket (queue : List MultipartMessage) : List Frame :=
  queue.flatMap fun m ↦ flagged m.frames

/-- The pairs that are read from a socket. -/
def readPairs (queue : List MultipartMessage) : List (Bytes × Bytes) :=
  queue.flatMap fun m ↦ pairs m.frames

section Loop

variable {σ : Type} (handle : σ → Bytes → Bytes → σ)

/-- **A message is read to its end.** Whatever its length, the loop goes on with the first frame of
the next one. -/
theorem receiveLoop_flagged (frames : List Bytes) (after : List Frame) (s : σ) :
    receiveLoop handle s (flagged frames ++ after) =
      receiveLoop handle ((pairs frames).foldl (fun s pair ↦ handle s pair.1 pair.2) s) after := by
  induction frames using pairs.induct generalizing s with
  | case1 topic payload rest ih =>
    -- the flag of the second frame is not looked at
    cases rest with
    | nil =>
      simp [flagged, pairs, receiveLoop]
    | cons next rest =>
      simpa [flagged, pairs, receiveLoop] using ih (handle s topic payload)
  | case2 frames hshort =>
    rcases frames with - | ⟨last, - | ⟨next, rest⟩⟩
    · rfl
    · -- a last frame in the place of a topic is skipped
      rcases after with - | ⟨frame, after⟩
      · rfl
      · simp [flagged, pairs, receiveLoop]
    · exact absurd rfl (hshort last next rest)

theorem receiveLoop_onSocket (queue : List MultipartMessage) (s : σ) :
    receiveLoop handle s (onSocket queue) =
      (readPairs queue).foldl (fun s pair ↦ handle s pair.1 pair.2) s := by
  induction queue generalizing s with
  | nil => rfl
  | cons m queue ih =>
    rw [onSocket, List.flatMap_cons, receiveLoop_flagged, readPairs, List.flatMap_cons,
      List.foldl_append]
    exact ih _

end Loop

/-! ### What gets through -/

/-- `payload` is frame 1 of a message whose frame 0 is `topic`. -/
def Addressed (queue : List MultipartMessage) (topic payload : Bytes) : Prop :=
  ∃ m ∈ queue, m.addressed = some (topic, payload)

instance (queue : List MultipartMessage) (topic payload : Bytes) :
    Decidable (Addressed queue topic payload) :=
  inferInstanceAs (Decidable (∃ m ∈ queue, m.addressed = some (topic, payload)))

/-- The topic of a lane: the room id, or on the lane of the objects the object topic. -/
def laneTopic (roomId : Bytes) : TransportLane → Bytes
  | .control => roomId
  | .roomPose => roomId
  | .roomObjects => roomId ++ kObjectTopicSuffix

/-- Every payload that `receive_control` passes on is frame 1 of a message for the room. -/
def ControlAligned (roomId : Bytes) (queue : List MultipartMessage) : Prop :=
  ∀ payload ∈ (receiveControl roomId (onSocket queue)).1, Addressed queue roomId payload

/-- Every payload that `receive_sub` passes on is frame 1 of a message on the topic of its lane. -/
def SubAligned (roomId : Bytes) (queue : List MultipartMessage) : Prop :=
  ∀ entry ∈ (receiveSub roomId (onSocket queue)).1,
    Addressed queue (laneTopic roomId entry.1) entry.2

/-- The pairs of a message, each with the mark whether it is a stray. -/
def MultipartMessage.marked (m : MultipartMessage) : List (Bool × Bytes × Bytes) :=
  m.addressed.toList.map (false, ·) ++ m.strays.map (true, ·)

/-- The payload of the last pair of a topic, and whether that pair is a stray. -/
def lastOnTopic (topic : Bytes) (queue : List MultipartMessage) : Option (Bool × Bytes) :=
  lastSome (fun pair ↦ if pair.2.1 = topic then some (pair.1, pair.2.2) else none)
    (queue.flatMap MultipartMessage.marked)

theorem map_snd_marked (queue : List MultipartMessage) :
    (queue.flatMap MultipartMessage.marked).map Prod.snd = readPairs queue := by
  rw [readPairs, List.map_flatMap]
  congr 1
  funext m
  rw [MultipartMessage.pairs_frames, MultipartMessage.marked, List.map_append, List.map_map,
    List.map_map]
  simp [Function.comp_def]

/-- A pair that is read is a stray, or frames 0 and 1 of a message. -/
theorem mem_readPairs {queue : List MultipartMessage} {pair : Bytes × Bytes} :
    pair ∈ readPairs queue ↔
      Addressed queue pair.1 pair.2 ∨ ∃ m ∈ queue, pair ∈ m.strays := by
  rw [readPairs, List.mem_flatMap]
  constructor
  · rintro ⟨m, hm, hpair⟩
    rw [MultipartMessage.pairs_frames, List.mem_append, Option.mem_toList] at hpair
    rcases hpair with haddressed | hstray
    · exact Or.inl ⟨m, hm, haddressed⟩
    · exact Or.inr ⟨m, hm, hstray⟩
  · rintro (⟨m, hm, haddressed⟩ | ⟨m, hm, hstray⟩)
    · refine ⟨m, hm, ?_⟩
      rw [MultipartMessage.pairs_frames, List.mem_append, Option.mem_toList]
      exact Or.inl haddressed
    · refine ⟨m, hm, ?_⟩
      rw [MultipartMessage.pairs_frames, List.mem_append]
      exact Or.inr hstray

/-- `receive_control` passes on the payloads of the pairs that begin with the room id. -/
theorem receiveControl_onSocket (roomId : Bytes) (queue : List MultipartMessage) :
    (receiveControl roomId (onSocket queue)).1 =
      ((readPairs queue).filter fun pair ↦ pair.1 = roomId).map Prod.snd := by
  have hloop (read : List (Bytes × Bytes)) (payloads : List Bytes) (received : ℕ) :
      (read.foldl (fun (s : List Bytes × ℕ) pair ↦
        (if pair.1 = roomId then s.1 ++ [pair.2] else s.1, s.2 + 1)) (payloads, received)).1 =
      payloads ++ (read.filter fun pair ↦ pair.1 = roomId).map Prod.snd := by
    induction read generalizing payloads received with
    | nil => simp
    | cons pair read ih =>
      rw [List.foldl_cons, ih]
      by_cases hroom : pair.1 = roomId
      · simp [hroom]
      · simp [hroom]
  rw [receiveControl, receiveLoop_onSocket]
  exact hloop (readPairs queue) [] 0

theorem controlAligned_iff (roomId : Bytes) (queue : List MultipartMessage) :
    ControlAligned roomId queue ↔
      ∀ m ∈ queue, ∀ pair ∈ m.strays, pair.1 = roomId → Addressed queue roomId pair.2 := by
  rw [ControlAligned, receiveControl_onSocket]
  constructor
  · intro h m hm pair hpair hroom
    refine h pair.2 (List.mem_map_of_mem (List.mem_filter.mpr ⟨?_, by simpa using hroom⟩))
    exact mem_readPairs.mpr (Or.inr ⟨m, hm, hpair⟩)
  · intro h payload hpayload
    obtain ⟨pair, hpair, rfl⟩ := List.mem_map.mp hpayload
    obtain ⟨hread, hroom⟩ := List.mem_filter.mp hpair
    have hroom : pair.1 = roomId := by simpa using hroom
    rcases mem_readPairs.mp hread with haddressed | ⟨m, hm, hstray⟩
    · rwa [hroom] at haddressed
    · exact h m hm pair hstray hroom

/-! ### Latest wins -/

/-- The payload of the last pair of a topic that was read. -/
def lastRead (topic : Bytes) (read : List (Bytes × Bytes)) : Option Bytes :=
  lastSome (fun pair ↦ if pair.1 = topic then some pair.2 else none) read

/-- `receive_sub` keeps the last payload of each of the two topics. -/
theorem receiveSub_onSocket (roomId : Bytes) (queue : List MultipartMessage) :
    (receiveSub roomId (onSocket queue)).1 =
      (lastRead roomId (readPairs queue)).toList.map (.roomPose, ·) ++
        (lastRead (roomId ++ kObjectTopicSuffix) (readPairs queue)).toList.map
          (.roomObjects, ·) := by
  have hne : roomId ≠ roomId ++ kObjectTopicSuffix := by simp [kObjectTopicSuffix]
  have hloop (read : List (Bytes × Bytes)) :
      let s := read.foldl (fun s pair ↦ noteSubFrame roomId s pair.1 pair.2) {}
      s.lastAvatar = lastRead roomId read ∧
        s.lastObject = lastRead (roomId ++ kObjectTopicSuffix) read := by
    induction read using List.reverseRecOn with
    | nil => exact ⟨rfl, rfl⟩
    | append_singleton read pair ih =>
      rw [List.foldl_concat, lastRead, lastRead, lastSome_concat, lastSome_concat]
      by_cases havatar : pair.1 = roomId
      · have hobject : pair.1 ≠ roomId ++ kObjectTopicSuffix := fun h ↦ hne (havatar.symm.trans h)
        rw [noteSubFrame, if_pos (isAvatarTopic_iff.mpr havatar), if_pos havatar, if_neg hobject]
        exact ⟨rfl, ih.2⟩
      · rw [noteSubFrame, if_neg (mt isAvatarTopic_iff.mp havatar), if_neg havatar]
        by_cases hobject : pair.1 = roomId ++ kObjectTopicSuffix
        · rw [if_pos (isObjectTopic_iff.mpr hobject), if_pos hobject]
          exact ⟨ih.1, rfl⟩
        · rw [if_neg (mt isObjectTopic_iff.mp hobject), if_neg hobject]
          exact ih
  rw [receiveSub, receiveLoop_onSocket]
  obtain ⟨havatar, hobject⟩ := hloop (readPairs queue)
  simp only [havatar, hobject]

/-- What is kept of a topic is the payload of its last pair, a stray or not. -/
theorem lastRead_readPairs (topic : Bytes) (queue : List MultipartMessage) :
    lastRead topic (readPairs queue) = (lastOnTopic topic queue).map Prod.snd := by
  rw [lastRead, lastOnTopic, ← map_snd_marked]
  induction queue.flatMap MultipartMessage.marked using List.reverseRecOn with
  | nil => rfl
  | append_singleton marked pair ih =>
    rw [List.map_append, List.map_singleton, lastSome_concat, lastSome_concat, ih]
    by_cases htopic : pair.2.1 = topic
    · simp [htopic]
    · simp [htopic]

/-- A pair that is not a stray is frames 0 and 1 of a message. -/
theorem addressed_of_lastOnTopic {topic payload : Bytes} {queue : List MultipartMessage}
    (h : lastOnTopic topic queue = some (false, payload)) : Addressed queue topic payload := by
  obtain ⟨⟨stray, pair⟩, hmem, hsome⟩ := List.exists_of_findSome?_eq_some h
  rw [List.mem_reverse, List.mem_flatMap] at hmem
  obtain ⟨m, hm, hmarked⟩ := hmem
  split at hsome
  · next htopic =>
    obtain ⟨rfl, rfl⟩ : stray = false ∧ pair.2 = payload := by simpa using hsome
    rw [MultipartMessage.marked, List.mem_append] at hmarked
    rcases hmarked with haddressed | hstray
    · obtain ⟨pair', hpair', hpair⟩ := List.mem_map.mp haddressed
      obtain rfl := (Prod.mk.inj hpair).2
      rw [Option.mem_toList] at hpair'
      refine ⟨m, hm, hpair'.trans ?_⟩
      rw [← htopic]
    · simp at hstray
  · simp at hsome

/-- What is kept of one topic. -/
theorem lastRead_addressed_iff (topic : Bytes) (queue : List MultipartMessage) :
    (∀ payload, lastRead topic (readPairs queue) = some payload →
      Addressed queue topic payload) ↔
    ∀ payload, lastOnTopic topic queue = some (true, payload) →
      Addressed queue topic payload := by
  rw [lastRead_readPairs]
  constructor
  · intro h payload hlast
    exact h payload (by rw [hlast]; rfl)
  · intro h payload hlast
    obtain ⟨⟨stray, payload'⟩, hsome, rfl⟩ := Option.map_eq_some_iff.mp hlast
    cases stray with
    | false => exact addressed_of_lastOnTopic hsome
    | true => exact h payload' hsome

theorem subAligned_iff (roomId : Bytes) (queue : List MultipartMessage) :
    SubAligned roomId queue ↔
      ∀ topic ∈ [roomId, roomId ++ kObjectTopicSuffix], ∀ payload,
        lastOnTopic topic queue = some (true, payload) → Addressed queue topic payload := by
  have hlanes : SubAligned roomId queue ↔
      ∀ topic ∈ [roomId, roomId ++ kObjectTopicSuffix], ∀ payload,
        lastRead topic (readPairs queue) = some payload → Addressed queue topic payload := by
    rw [SubAligned, receiveSub_onSocket]
    simp [laneTopic, or_imp, forall_and]
  rw [hlanes]
  refine forall₂_congr fun topic _ ↦ lastRead_addressed_iff topic queue

/-- **When the receive loops stay aligned.** On every queue of messages, of any number of frames:
everything that `receive_control` passes on is frame 1 of a message for the own room, exactly if
every stray pair that begins with the room id ends in such a frame; and everything that
`receive_sub` passes on is frame 1 of a message on the topic of its lane, exactly if this is true of
the last pair of each of the two topics in case that pair is a stray. -/
theorem receive_aligned_iff (roomId : Bytes) (queue : List MultipartMessage) :
    (ControlAligned roomId queue ↔
      ∀ m ∈ queue, ∀ pair ∈ m.strays, pair.1 = roomId → Addressed queue roomId pair.2) ∧
    (SubAligned roomId queue ↔
      ∀ topic ∈ [roomId, roomId ++ kObjectTopicSuffix], ∀ payload,
        lastOnTopic topic queue = some (true, payload) → Addressed queue topic payload) :=
  ⟨controlAligned_iff roomId queue, subAligned_iff roomId queue⟩

/-- A message of four frames for room 9, with the room id 7 in the place of a topic, delivers its
last frame to room 7, on either socket. -/
theorem stray_pair_gets_through :
    let queue : List MultipartMessage := [⟨[9], [[1], [7], [5]]⟩]
    (receiveControl [7] (onSocket queue)).1 = [[5]] ∧
      (receiveSub [7] (onSocket queue)).1 = [(.roomPose, [5])] ∧
      ¬ControlAligned [7] queue ∧ ¬SubAligned [7] queue := by
  intro queue
  refine ⟨by decide, by decide, fun h ↦ ?_, fun h ↦ ?_⟩
  · have haddressed := h [5] (by decide)
    revert haddressed
    decide
  · have haddressed := h (.roomPose, [5]) (by decide)
    revert haddressed
    decide

end StylyNetSync
