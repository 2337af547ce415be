import StylyNetSync.Core.OwnershipTransitions
import StylyNetSync.Godot.NetSyncObject

/-!
# What objects of the scene do

The script says of an object without an owner that it is left alone, so that the scene can drive it
until someone claims it. Its node does not do that. It keeps following the pose of its last owner
that was applied, and goes back to it from wherever the scene puts it, until this client takes the
object over (`object_follows`). What its signals tell of its owner is in order: each of them names
another owner than the one before, and the last one names the owner that the node knows.
-/

namespace StylyNetSync

variable {D : Type}

/-! ### What a node is told -/

/-- What a node hears of its object: the owner, and a pose that came with it. -/
structure ObjectNews (D : Type) where
  ownerClientNo : ℤ
  pose : Option (PoseTransform D) := none

/-- The pose a node is left with, after it was told something: that of the last owner other than
its client, and none after its client took the object over. -/
def ObjectNews.adopt (clientNo ownerClientNo : ℤ) (adopted : Option (PoseTransform D))
    (news : ObjectNews D) : Option (PoseTransform D) :=
  if news.ownerClientNo = 0 then adopted
  else if news.ownerClientNo = clientNo then
    if news.ownerClientNo = ownerClientNo then adopted else none
  else news.pose <|> adopted

/-- The owners that signals name. -/
def ObjectSignal.newOwner : ObjectSignal → Option ℤ
  | .ownershipChanged newOwner _ => some newOwner
  | .ownershipRejected _ _ => none

namespace NetSyncObject

/-- The node follows the pose it is left with, and nothing without one. -/
structure Follows (adopted : Option (PoseTransform D)) (node : NetSyncObject D) : Prop where
  hasTarget : node.hasTarget = adopted.isSome
  target : ∀ pose ∈ adopted, node.targetTransform = pose

/-- What a node does when it is told something: it knows the owner, says so if it did not before,
and follows the pose it is left with. If it is its client's, it stays where it is. -/
structure Takes (clientNo : ℤ) (news : ObjectNews D) (node : NetSyncObject D)
    (result : NetSyncObject D × List ObjectSignal) : Prop where
  owner : result.1.ownerClientNo = news.ownerClientNo
  halfLife : result.1.smoothingHalfLife = node.smoothingHalfLife
  route : Route (fun owner owner' : ℤ ↦ owner' ≠ owner) node.ownerClientNo
    (result.2.filterMap ObjectSignal.newOwner) result.1.ownerClientNo
  follows : ∀ adopted, node.Follows adopted →
    result.1.Follows (news.adopt clientNo node.ownerClientNo adopted)
  stands : result.1.isOwnedByMe clientNo = true → result.1.globalTransform = node.globalTransform

/-- What a node does when it is told nothing: it may be moved by the scene, and if it is not its
client's it may move. -/
structure Keeps (clientNo : ℤ) (moved : Bool) (node : NetSyncObject D)
    (result : NetSyncObject D × List ObjectSignal) : Prop where
  keeps : result.1 = { node with globalTransform := result.1.globalTransform }
  stands : moved = false → node.isOwnedByMe clientNo = true →
    result.1.globalTransform = node.globalTransform
  silent : result.2.filterMap ObjectSignal.newOwner = []

/-- **An ownership signal.** -/
theorem takes_onOwnershipChanged (clientNo newOwner previousOwner : ℤ) (node : NetSyncObject D) :
    node.Takes clientNo ⟨newOwner, none⟩
      (node.onOwnershipChanged clientNo newOwner previousOwner) := by
  rw [onOwnershipChanged]
  by_cases hsame : newOwner = node.ownerClientNo
  · rw [if_pos hsame]
    refine ⟨hsame.symm, rfl, Route.refl _, fun adopted h ↦ ?_, fun _ ↦ rfl⟩
    have hstill : ObjectNews.adopt clientNo node.ownerClientNo adopted ⟨newOwner, none⟩ =
        adopted := by
      rw [ObjectNews.adopt]
      dsimp only
      rw [if_pos hsame]
      split_ifs <;> rfl
    rw [hstill]
    exact h
  · rw [if_neg hsame]
    let owned : NetSyncObject D := { node with ownerClientNo := newOwner }
    by_cases hmine : owned.isOwnedByMe clientNo = true
    · obtain ⟨hne, heq⟩ : newOwner ≠ 0 ∧ newOwner = clientNo := by
        simpa [isOwnedByMe, owned] using hmine
      dsimp only
      rw [if_pos hmine]
      refine ⟨rfl, rfl, Route.single hsame, fun adopted _ ↦ ?_, fun _ ↦ rfl⟩
      rw [ObjectNews.adopt, if_neg hne, if_pos heq, if_neg hsame]
      exact ⟨rfl, by simp⟩
    · have hother : ¬(newOwner ≠ 0 ∧ newOwner = clientNo) := by
        simpa [isOwnedByMe, owned] using hmine
      dsimp only
      rw [if_neg hmine]
      refine ⟨rfl, rfl, Route.single hsame, fun adopted h ↦ ?_, fun _ ↦ rfl⟩
      have hstill : ObjectNews.adopt clientNo node.ownerClientNo adopted ⟨newOwner, none⟩ =
          adopted := by
        rw [ObjectNews.adopt]
        dsimp only
        by_cases hzero : newOwner = 0
        · rw [if_pos hzero]
        · rw [if_neg hzero, if_neg fun heq ↦ hother ⟨hzero, heq⟩]
          rfl
      rw [hstill]
      exact ⟨h.hasTarget, h.target⟩

/-- What the state of an object tells. -/
def news (state : ObjectDictionary D) : ObjectNews D :=
  { ownerClientNo := state.ownerClientNo
    pose := if state.hasPose then some state.transform else none }

/-- **A state that is applied.** -/
theorem takes_applyRemoteState (clientNo : ℤ) (state : ObjectDictionary D)
    (node : NetSyncObject D) :
    node.Takes clientNo (news state) (node.applyRemoteState clientNo (some state)) := by
  -- first the owner, as by a signal that names the owner the node knows
  obtain ⟨told, htold⟩ : ∃ told, told =
    node.onOwnershipChanged clientNo state.ownerClientNo node.ownerClientNo := ⟨_, rfl⟩
  have hfirst : (if state.ownerClientNo ≠ node.ownerClientNo then
      node.onOwnershipChanged clientNo state.ownerClientNo node.ownerClientNo
        else (node, [])) = told := by
    rw [htold]
    by_cases hsame : state.ownerClientNo = node.ownerClientNo
    · rw [if_neg (not_not.mpr hsame), onOwnershipChanged, if_pos hsame]
    · rw [if_pos hsame]
  have htakes := takes_onOwnershipChanged clientNo state.ownerClientNo node.ownerClientNo node
  rw [← htold] at htakes
  have howner : told.1.ownerClientNo = state.ownerClientNo := htakes.owner
  rw [applyRemoteState]
  dsimp only
  rw [hfirst]
  by_cases hstays : (decide (state.ownerClientNo = 0) || told.1.isOwnedByMe clientNo) = true
  · rw [if_pos hstays]
    refine ⟨howner, htakes.halfLife, htakes.route, fun adopted h ↦ ?_, htakes.stands⟩
    have hsame : (news state).adopt clientNo node.ownerClientNo adopted =
        ObjectNews.adopt clientNo node.ownerClientNo adopted ⟨state.ownerClientNo, none⟩ := by
      have hmine : state.ownerClientNo = 0 ∨ state.ownerClientNo = clientNo := by
        simp [isOwnedByMe, howner] at hstays
        tauto
      rw [ObjectNews.adopt, ObjectNews.adopt, news]
      dsimp only
      rcases hmine with hzero | heq
      · rw [if_pos hzero, if_pos hzero]
      · rw [if_pos heq, if_pos heq]
    rw [hsame]
    exact htakes.follows adopted h
  · rw [if_neg hstays]
    have hother : state.ownerClientNo ≠ 0 ∧ state.ownerClientNo ≠ clientNo := by
      simp [isOwnedByMe, howner] at hstays
      tauto
    by_cases hpose : state.hasPose = true
    · rw [if_pos hpose]
      refine ⟨howner, htakes.halfLife, htakes.route, fun adopted _ ↦ ?_, fun hmine ↦ ?_⟩
      swap
      · simp only [isOwnedByMe, follow, howner, Bool.and_eq_true, decide_eq_true_eq] at hmine
        exact absurd hmine.2 hother.2
      have hadopted : (news state).adopt clientNo node.ownerClientNo adopted =
          some state.transform := by
        rw [ObjectNews.adopt, news, if_neg hother.1, if_neg hother.2, if_pos hpose]
        rfl
      rw [hadopted]
      exact ⟨rfl, fun pose hmem ↦ Option.mem_some_iff.mp hmem⟩
    · rw [if_neg hpose]
      refine ⟨howner, htakes.halfLife, htakes.route, fun adopted h ↦ ?_, htakes.stands⟩
      have hfollows := htakes.follows adopted h
      rw [ObjectNews.adopt, if_neg hother.1, if_neg hother.2] at hfollows
      rw [ObjectNews.adopt, news, if_neg hother.1, if_neg hother.2, if_neg hpose]
      exact hfollows

/-- **Where a node goes**, by what it is left with. -/
theorem Follows.process [Double D] {adopted : Option (PoseTransform D)} {node : NetSyncObject D}
    (h : node.Follows adopted) (engine : Engine D) (clientNo : ℤ) (delta : D) :
    (node.process engine clientNo delta).globalTransform =
      if node.isOwnedByMe clientNo then node.globalTransform
      else adopted.elim node.globalTransform fun pose ↦
        smoothed engine node.smoothingHalfLife delta pose node.globalTransform := by
  rw [NetSyncObject.process, h.hasTarget]
  by_cases hmine : node.isOwnedByMe clientNo = true
  · rw [if_pos hmine, if_pos (by simp [hmine])]
  · rw [if_neg hmine]
    cases adopted with
    | none => rfl
    | some pose =>
      rw [if_neg (by simp [hmine]), h.target pose rfl]
      rfl

end NetSyncObject

/-! ### Steps of a scene -/

namespace ObjectScene

/-- The signals of one object. -/
def signalsOf (objectId : UInt32) (signals : List Signalled) : List ObjectSignal :=
  signals.filterMap fun signalled ↦
    if signalled.objectId = objectId then some signalled.signal else none

theorem signalsOf_append (objectId : UInt32) (signals more : List Signalled) :
    signalsOf objectId (signals ++ more) = signalsOf objectId signals ++ signalsOf objectId more :=
  List.filterMap_append

theorem signalsOf_map (objectId id : UInt32) (signals : List ObjectSignal) :
    signalsOf objectId (signals.map (⟨id, ·⟩)) = if id = objectId then signals else [] := by
  rw [signalsOf, List.filterMap_map]
  by_cases hid : id = objectId
  · rw [if_pos hid]
    have hsome : (fun signal : ObjectSignal ↦ if id = objectId then some signal else none) = some :=
      funext fun signal ↦ if_pos hid
    exact (congrArg (List.filterMap · signals) hsome).trans (List.filterMap_some)
  · rw [if_neg hid]
    exact List.filterMap_eq_nil_iff.mpr fun signal _ ↦ if_neg hid

variable {scene : ObjectScene D} {node : NetSyncObject D} {objectId : UInt32}

/-- A change of a node is one of the node under its id, and no other. -/
theorem onNode_spec (hnode : scene.objects[objectId]? = some node) (id : UInt32)
    (change : NetSyncObject D → NetSyncObject D × List ObjectSignal) :
    (scene.onNode id change).1.objects[objectId]? =
        some (if id = objectId then (change node).1 else node) ∧
      signalsOf objectId (scene.onNode id change).2 =
        (if id = objectId then (change node).2 else []) ∧
      (scene.onNode id change).1.session = scene.session := by
  by_cases hid : id = objectId
  · subst hid
    rw [onNode, hnode]
    dsimp only
    rw [OrderedMap.get?_insert, if_pos rfl, if_pos rfl, if_pos rfl, signalsOf_map, if_pos rfl]
    exact ⟨rfl, rfl, rfl⟩
  · rw [onNode, if_neg hid, if_neg hid]
    rcases scene.objects[id]? with - | other
    · exact ⟨hnode, rfl, rfl⟩
    · dsimp only
      rw [OrderedMap.get?_insert, if_neg hid, signalsOf_map, if_neg hid]
      exact ⟨hnode, rfl, rfl⟩

/-- What a step tells the node of an object. -/
def newsOf [Double D] (objectId : UInt32) (scene : ObjectScene D) :
    SceneStep D → Option (ObjectNews D)
  | .dispatch =>
    match scene.pending with
    | .objectOwnershipChanged change :: _ =>
      if change.objectId = objectId then some ⟨change.newOwnerClientNo, none⟩ else none
    | _ => none
  | .apply id =>
    if id = objectId then
      (NetSyncBridge.getObjectState objectId scene.session).map NetSyncObject.news
    else none
  | _ => none

/-- A step by which the scene moves the node. -/
def moved (objectId : UInt32) : SceneStep D → Bool
  | .move id _ => id = objectId
  | _ => false

variable [DoubleTrig D] [DoubleText D] (engine : Engine D) (decode : Bytes → Option (List Bytes))

/-- **One step.** A node that is told something takes it; otherwise it stays what it is, but for
its transform if it moves or is moved. -/
theorem step_spec (hnode : scene.objects[objectId]? = some node) (e : SceneStep D) :
    ∃ result, (scene.step engine decode e).1.objects[objectId]? = some result.1 ∧
      signalsOf objectId (scene.step engine decode e).2 = result.2 ∧
      match scene.newsOf objectId e with
      | some news => node.Takes scene.session.client.clientNo news result
      | none => node.Keeps scene.session.client.clientNo (moved objectId e) result := by
  have hstay : node.Keeps scene.session.client.clientNo (moved objectId e) (node, []) :=
    ⟨rfl, fun _ _ ↦ rfl, rfl⟩
  -- a change of the node under an id is one of the node, or leaves it alone
  have hchange (handled : ObjectScene D) (hsame : handled.objects[objectId]? = some node)
      (id : UInt32) (change : NetSyncObject D → NetSyncObject D × List ObjectSignal) :
      (handled.onNode id change).1.objects[objectId]? =
          some (if id = objectId then change node else (node, [])).1 ∧
        signalsOf objectId (handled.onNode id change).2 =
          (if id = objectId then change node else (node, [])).2 := by
    obtain ⟨hobject, hsignals, -⟩ := onNode_spec hsame id change
    rw [hobject, hsignals]
    constructor <;> split_ifs <;> rfl
  cases e with
  | submit => exact ⟨(node, []), hnode, rfl, hstay⟩
  | poll now schedule => exact ⟨(node, []), hnode, rfl, hstay⟩
  | life e => exact ⟨(node, []), hnode, rfl, hstay⟩
  | dispatch =>
    rw [step, newsOf]
    rcases scene.pending with - | ⟨event, rest⟩
    · exact ⟨(node, []), hnode, rfl, hstay⟩
    · let handled : ObjectScene D := { scene with pending := rest }
      cases event with
      | objectOwnershipChanged change =>
        obtain ⟨hobject, hsignals⟩ := hchange handled hnode change.objectId
          (NetSyncObject.onOwnershipChanged scene.session.client.clientNo change.newOwnerClientNo
            change.previousOwnerClientNo)
        refine ⟨_, hobject, hsignals, ?_⟩
        dsimp only
        by_cases hid : change.objectId = objectId
        · rw [if_pos hid, if_pos hid]
          exact NetSyncObject.takes_onOwnershipChanged _ _ _ node
        · rw [if_neg hid, if_neg hid]
          exact hstay
      | objectOwnershipRejected rejection =>
        obtain ⟨hobject, hsignals⟩ := hchange handled hnode rejection.objectId fun node ↦
          (node, [.ownershipRejected rejection.currentOwnerClientNo rejection.reasonCode])
        refine ⟨_, hobject, hsignals, ?_⟩
        dsimp only
        split_ifs
        · exact ⟨rfl, fun _ _ ↦ rfl, rfl⟩
        · exact hstay
      | _ => exact ⟨(node, []), hnode, rfl, hstay⟩
  | apply id =>
    obtain ⟨hobject, hsignals⟩ := hchange scene hnode id (NetSyncObject.applyRemoteState
      scene.session.client.clientNo (NetSyncBridge.getObjectState id scene.session))
    refine ⟨_, hobject, hsignals, ?_⟩
    rw [newsOf]
    by_cases hid : id = objectId
    · subst hid
      rw [if_pos rfl, if_pos rfl]
      rcases NetSyncBridge.getObjectState id scene.session with - | state
      · exact hstay
      · exact NetSyncObject.takes_applyRemoteState _ state node
    · rw [if_neg hid, if_neg hid]
      exact hstay
  | process id delta =>
    obtain ⟨hobject, hsignals⟩ := hchange scene hnode id fun node ↦
      (node.process engine scene.session.client.clientNo delta, [])
    refine ⟨_, hobject, hsignals, ?_⟩
    show node.Keeps _ false _
    by_cases hid : id = objectId
    · rw [if_pos hid, NetSyncObject.process]
      refine ⟨?_, fun _ hmine ↦ ?_, rfl⟩
      · dsimp only
        split_ifs <;> rfl
      · exact congrArg NetSyncObject.globalTransform (if_pos (by simp [hmine]))
    · rw [if_neg hid]
      exact hstay
  | move id transform =>
    obtain ⟨hobject, hsignals⟩ := hchange scene hnode id fun node ↦
      ({ node with globalTransform := transform }, [])
    refine ⟨_, hobject, hsignals, ?_⟩
    show node.Keeps _ (decide (id = objectId)) _
    by_cases hid : id = objectId
    · rw [if_pos hid, decide_eq_true hid]
      exact ⟨rfl, fun h ↦ absurd h (by simp), rfl⟩
    · rw [if_neg hid]
      exact ⟨rfl, fun _ _ ↦ rfl, rfl⟩

/-- The client goes on by itself while a node is told something. -/
theorem session_of_news {e : SceneStep D} {news : ObjectNews D}
    (hnews : scene.newsOf objectId e = some news) :
    (scene.step engine decode e).1.session = scene.session := by
  have hsession (handled : ObjectScene D) (hsame : handled.session = scene.session) (id : UInt32)
      (change : NetSyncObject D → NetSyncObject D × List ObjectSignal) :
      (handled.onNode id change).1.session = scene.session := by
    rw [onNode]
    split
    · exact hsame
    · exact hsame
  cases e with
  | dispatch =>
    rw [step]
    rcases scene.pending with - | ⟨event, rest⟩
    · rfl
    · cases event with
      | objectOwnershipChanged change => exact hsession { scene with pending := rest } rfl _ _
      | objectOwnershipRejected rejection => exact hsession { scene with pending := rest } rfl _ _
      | _ => rfl
  | apply id => exact hsession _ rfl _ _
  | _ => exact absurd hnews (by simp [newsOf])

/-! ### Runs -/

/-- The owner that the node of an object knows. -/
def knownOwner (objectId : UInt32) (scene : ObjectScene D) : ℤ :=
  (scene.objects[objectId]?.map NetSyncObject.ownerClientNo).getD 0

/-- The pose a node is left with by a run, after it was left with another one before. -/
def adopted (objectId : UInt32) (scene : ObjectScene D) (before : Option (PoseTransform D)) :
    List (SceneStep D) → Option (PoseTransform D)
  | [] => before
  | e :: steps =>
    adopted objectId (scene.step engine decode e).1
      ((scene.newsOf objectId e).elim before
        (ObjectNews.adopt scene.session.client.clientNo (scene.knownOwner objectId) before)) steps

/-- The client owns the object, as far as the node knows. -/
def Owns (objectId : UInt32) (scene : ObjectScene D) : Prop :=
  ∃ node, scene.objects[objectId]? = some node ∧
    node.isOwnedByMe scene.session.client.clientNo = true

/-- The client owns the object before and after a step in which the scene leaves it alone. -/
def OwnedThrough (objectId : UInt32) (scene : ObjectScene D) (e : SceneStep D) : Prop :=
  scene.Owns objectId ∧ (scene.step engine decode e).1.Owns objectId ∧ moved objectId e = false

/-- **What becomes of a node in a run.** -/
theorem run_spec {before : Option (PoseTransform D)}
    (hnode : scene.objects[objectId]? = some node) (hfollows : node.Follows before)
    (steps : List (SceneStep D)) :
    ∃ node', (scene.run engine decode steps).1.objects[objectId]? = some node' ∧
      node'.smoothingHalfLife = node.smoothingHalfLife ∧
      Route (fun owner owner' : ℤ ↦ owner' ≠ owner) node.ownerClientNo
        ((signalsOf objectId (scene.run engine decode steps).2).filterMap ObjectSignal.newOwner)
        node'.ownerClientNo ∧
      node'.Follows (scene.adopted engine decode objectId before steps) ∧
      (Along (fun scene e ↦ (scene.step engine decode e).1) (OwnedThrough engine decode objectId)
        scene steps → node'.globalTransform = node.globalTransform) := by
  induction steps generalizing scene node before with
  | nil => exact ⟨node, hnode, rfl, Route.refl _, hfollows, fun _ ↦ rfl⟩
  | cons e steps ih =>
    obtain ⟨result, hobject, hsignals, hresult⟩ := step_spec engine decode hnode e
    have hknown : scene.knownOwner objectId = node.ownerClientNo := by
      rw [knownOwner, hnode]
      rfl
    -- what the step does to the node, whether it is told something or not
    have hone : result.1.smoothingHalfLife = node.smoothingHalfLife ∧
        Route (fun owner owner' : ℤ ↦ owner' ≠ owner) node.ownerClientNo
          (result.2.filterMap ObjectSignal.newOwner) result.1.ownerClientNo ∧
        result.1.Follows ((scene.newsOf objectId e).elim before
          (ObjectNews.adopt scene.session.client.clientNo (scene.knownOwner objectId) before)) ∧
        (OwnedThrough engine decode objectId scene e →
          result.1.globalTransform = node.globalTransform) := by
      rcases hnews : scene.newsOf objectId e with - | news
      · rw [hnews] at hresult
        have howner : result.1.ownerClientNo = node.ownerClientNo := by rw [hresult.keeps]
        refine ⟨by rw [hresult.keeps], ?_, ?_, ?_⟩
        · rw [hresult.silent, howner]
          exact Route.refl _
        · rw [hresult.keeps]
          exact ⟨hfollows.hasTarget, hfollows.target⟩
        · rintro ⟨⟨other, hother, hmine⟩, -, hstill⟩
          obtain rfl := Option.some.inj (hnode.symm.trans hother)
          exact hresult.stands hstill hmine
      · rw [hnews] at hresult
        refine ⟨hresult.halfLife, hresult.route, ?_, ?_⟩
        · rw [hknown]
          exact hresult.follows before hfollows
        · rintro ⟨-, ⟨other, hother, hmine⟩, -⟩
          obtain rfl := Option.some.inj (hobject.symm.trans hother)
          refine hresult.stands ?_
          rw [← session_of_news engine decode hnews]
          exact hmine
    obtain ⟨hhalf, hroute, hfollows', hstands⟩ := hone
    obtain ⟨node', hend, hhalf', hroute', hfollows'', hstands'⟩ := ih hobject hfollows'
    refine ⟨node', hend, hhalf'.trans hhalf, ?_, hfollows'', fun howned ↦ ?_⟩
    · rw [run]
      dsimp only
      rw [signalsOf_append, List.filterMap_append, hsignals]
      exact hroute.append hroute'
    · exact (hstands' howned.2).trans (hstands howned.1)

/-- **An object of the scene, in every run.** Its signals name another owner each time, the last of
them the one it knows. Its node moves in a frame if its client does not own it and it was left with
a pose, by somebody else who owned it since the client last took it over; nobody need own it any
longer. And while the client owns it, it is where the scene puts it. -/
theorem object_follows (hnode : scene.objects[objectId]? = some node)
    (hfresh : node.hasTarget = false) (steps : List (SceneStep D)) :
    ∃ node', (scene.run engine decode steps).1.objects[objectId]? = some node' ∧
      Route (fun owner owner' : ℤ ↦ owner' ≠ owner) node.ownerClientNo
        ((signalsOf objectId (scene.run engine decode steps).2).filterMap ObjectSignal.newOwner)
        node'.ownerClientNo ∧
      (∀ clientNo delta, (node'.process engine clientNo delta).globalTransform =
        if node'.isOwnedByMe clientNo then node'.globalTransform
        else (scene.adopted engine decode objectId none steps).elim node'.globalTransform fun pose ↦
          NetSyncObject.smoothed engine node.smoothingHalfLife delta pose node'.globalTransform) ∧
      (Along (fun scene e ↦ (scene.step engine decode e).1) (OwnedThrough engine decode objectId)
        scene steps → node'.globalTransform = node.globalTransform) := by
  have hstart : node.Follows none := ⟨hfresh, by simp⟩
  obtain ⟨node', hend, hhalf, hroute, hfollows, hstands⟩ :=
    run_spec engine decode hnode hstart steps
  refine ⟨node', hend, hroute, fun clientNo delta ↦ ?_, hstands⟩
  rw [← hhalf]
  exact hfollows.process engine clientNo delta

/-- An engine that goes all the way at once. -/
def snapping : Engine ℚ := ⟨fun _ _ ↦ 0, fun _ target _ ↦ target⟩

/-- A node that was told nothing yet. -/
def untold : NetSyncObject ℚ where
  smoothingHalfLife := 1 / 20
  globalTransform := PoseTransform.default
  targetTransform := PoseTransform.default

/-- A scene with the object 7. -/
def oneObject : ObjectScene ℚ where
  session := Session.enteredRoom
  objects := (∅ : OrderedMap UInt32 (NetSyncObject ℚ)).insert 7 untold

theorem get?_oneObject : oneObject.objects[(7 : UInt32)]? = some untold := by
  show ((∅ : OrderedMap UInt32 (NetSyncObject ℚ)).insert 7 untold)[(7 : UInt32)]? = some untold
  rw [OrderedMap.get?_insert, if_pos rfl]

/-- Another client owns the object, moves it and releases it. Then the scene moves it. -/
def released : List (SceneStep ℚ) :=
  [.life (.session (.call (.registerObject 7) [])),
    .life (.session (.network (.payload .roomObjects broadcast))), .poll 0 [], .dispatch, .apply 7,
    .life (.session (.network (.payload .control release))), .poll 1 [], .dispatch, .apply 7,
    .move 7 ⟨⟨5, 0, 0⟩, Quat.identity⟩]
where
  broadcast : Bytes :=
    serializeRoomObjects
      { broadcastTime := 0
        objects := [{ objectId := 7, ownerClientNo := 2, poseSeq := 0, poseTime := 0,
                      position := (⟨1, 0, 0⟩ : Vec3 ℚ), rotation := Quat.identity }] }
  release : Bytes := serializeObjectOwnershipChanged ⟨7, 0, 2⟩

/-- The object has no owner, and goes back to where its last one had it. -/
theorem object_follows_released :
    ∃ node', (oneObject.run snapping (fun _ ↦ none) released).1.objects[(7 : UInt32)]? =
        some node' ∧
      Route (fun owner owner' : ℤ ↦ owner' ≠ owner) untold.ownerClientNo
        ((signalsOf 7 (oneObject.run snapping (fun _ ↦ none) released).2).filterMap
          ObjectSignal.newOwner) node'.ownerClientNo ∧
      (∀ clientNo delta, (node'.process snapping clientNo delta).globalTransform =
        if node'.isOwnedByMe clientNo then node'.globalTransform
        else (oneObject.adopted snapping (fun _ ↦ none) 7 none released).elim
          node'.globalTransform fun pose ↦
            NetSyncObject.smoothed snapping untold.smoothingHalfLife delta pose
              node'.globalTransform) ∧
      (Along (fun scene e ↦ (scene.step snapping (fun _ ↦ none) e).1)
        (OwnedThrough snapping (fun _ ↦ none) 7) oneObject released →
          node'.globalTransform = untold.globalTransform) :=
  object_follows snapping (fun _ ↦ none) get?_oneObject rfl released

example :
    (oneObject.run snapping (fun _ ↦ none) released).1.objects[(7 : UInt32)]?.map (fun node ↦
        (node.ownerClientNo, node.globalTransform.position.x,
          (node.process snapping 0 1).globalTransform.position.x)) = some (0, 5, 1) := by
  decide +kernel

end ObjectScene

end StylyNetSync
