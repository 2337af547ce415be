import StylyNetSync.Core.PollParts
import StylyNetSync.Foundation.Route
import StylyNetSync.Godot.CoordinateConverter

/-!
# Objects of the scene

`NetSyncObject` is a node whose transform is synchronised. It learns its owner from two sides: the
ownership signals of the client, which the manager dispatches, and the state of the object, which
the manager applies every frame. While somebody else owns it, it follows the pose that was applied
last; while this client owns it, its transform is submitted and nothing moves it but the scene.

A frame of `NetSyncManager` has four stages: the transforms of owned objects are submitted, the
client is polled, its events are dispatched, and the states of all objects are applied. Handlers of
the host run in between and may call anything, so a stage is a step of its own here and a run is any
sequence of steps.

The node is one that found its manager and stays in the tree. What the engine does is a parameter:
its power function, and how it interpolates between transforms.
-/

namespace StylyNetSync

variable {D : Type}

/-! ### The node -/

/-- What the script uses of the engine. -/
structure Engine (D : Type) where
  pow : D → D → D
  interpolateWith : PoseTransform D → PoseTransform D → D → PoseTransform D

/-- The dictionary that `get_object_state` returns for an object it knows. -/
structure ObjectDictionary (D : Type) where
  ownerClientNo : ℤ
  hasPose : Bool
  transform : PoseTransform D

structure NetSyncObject (D : Type) where
  smoothingHalfLife : D
  globalTransform : PoseTransform D
  ownerClientNo : ℤ := 0
  hasTarget : Bool := false
  targetTransform : PoseTransform D

inductive ObjectSignal
  | ownershipChanged (newOwner previousOwner : ℤ)
  | ownershipRejected (currentOwner reason : ℤ)
  deriving DecidableEq

namespace NetSyncObject

/-- The client of the given number owns the object. -/
def isOwnedByMe (clientNo : ℤ) (node : NetSyncObject D) : Bool :=
  node.ownerClientNo ≠ 0 && node.ownerClientNo = clientNo

def onOwnershipChanged (clientNo newOwner previousOwner : ℤ) (node : NetSyncObject D) :
    NetSyncObject D × List ObjectSignal :=
  if newOwner = node.ownerClientNo then (node, [])
  else
    let owned := { node with ownerClientNo := newOwner }
    -- taking over: stop following the network copy of our own object
    (if owned.isOwnedByMe clientNo then { owned with hasTarget := false } else owned,
      [.ownershipChanged newOwner previousOwner])

/-- Follow a pose. The first one is adopted outright, so that the object does not slide in from
wherever the scene placed it. -/
def follow (transform : PoseTransform D) (node : NetSyncObject D) : NetSyncObject D :=
  { node with
    targetTransform := transform
    globalTransform := if node.hasTarget then node.globalTransform else transform
    hasTarget := true }

/-- Apply the state of the object; there is none if the client does not know it. -/
def applyRemoteState (clientNo : ℤ) (state : Option (ObjectDictionary D)) (node : NetSyncObject D) :
    NetSyncObject D × List ObjectSignal :=
  match state with
  | none => (node, [])
  | some state =>
    let (node, signals) :=
      if state.ownerClientNo ≠ node.ownerClientNo then
        node.onOwnershipChanged clientNo state.ownerClientNo node.ownerClientNo
      else (node, [])
    if state.ownerClientNo = 0 || node.isOwnedByMe clientNo then (node, signals)
    else if state.hasPose then (node.follow state.transform, signals)
    else (node, signals)

variable [Double D]

/-- Where a node that follows a target is after a time: half of the way is left after a
half-life. -/
def smoothed (engine : Engine D) (halfLife delta : D) (target transform : PoseTransform D) :
    PoseTransform D :=
  if Double.le halfLife (Double.lit 0) then target
  else
    engine.interpolateWith transform target
      (Double.lit 1 - engine.pow (Double.lit (1 / 2)) (delta / halfLife))

/-- The node's own part of a frame. -/
def process (engine : Engine D) (clientNo : ℤ) (delta : D) (node : NetSyncObject D) :
    NetSyncObject D :=
  if !node.hasTarget || node.isOwnedByMe clientNo then node
  else
    { node with
      globalTransform :=
        smoothed engine node.smoothingHalfLife delta node.targetTransform node.globalTransform }

end NetSyncObject

/-! ### The manager -/

/-- `NetSyncBridge::get_object_state`. -/
def NetSyncBridge.getObjectState [Double D] (objectId : UInt32) (s : Session D) :
    Option (ObjectDictionary D) :=
  (s.client.objects.getState objectId).map fun state ↦
    { ownerClientNo := state.ownerClientNo
      hasPose := state.hasPose
      transform := Coordinates.transformNetsyncToGodot state.pose }

/-- The nodes of a scene, by the ids they are registered under, with their client. -/
structure ObjectScene (D : Type) where
  session : Session D
  objects : OrderedMap UInt32 (NetSyncObject D)
  /-- What the last polls returned and nobody has handled yet. -/
  pending : List Event := []

/-- A step of a scene: a stage of the manager's frame, a node's part of it, the scene moving a node,
or whatever else happens to the client. -/
inductive SceneStep (D : Type)
  | submit
  | poll (now : D) (schedule : List (List (NetworkStep D)))
  | dispatch
  | apply (objectId : UInt32)
  | process (objectId : UInt32) (delta : D)
  | move (objectId : UInt32) (transform : PoseTransform D)
  | life (step : LifeStep D)

/-- A signal of an object. -/
structure Signalled where
  objectId : UInt32
  signal : ObjectSignal

namespace ObjectScene

/-- Change a node, if there is one under the id, and emit its signals. -/
def onNode (objectId : UInt32)
    (change : NetSyncObject D → NetSyncObject D × List ObjectSignal) (scene : ObjectScene D) :
    ObjectScene D × List Signalled :=
  match scene.objects[objectId]? with
  | none => (scene, [])
  | some node =>
    ({ scene with objects := scene.objects.insert objectId (change node).1 },
      (change node).2.map (⟨objectId, ·⟩))

/-- `_on_object_ownership_changed` and `_on_object_ownership_rejected`. -/
def handle (event : Event) (scene : ObjectScene D) : ObjectScene D × List Signalled :=
  match event with
  | .objectOwnershipChanged change =>
    scene.onNode change.objectId
      (NetSyncObject.onOwnershipChanged scene.session.client.clientNo change.newOwnerClientNo
        change.previousOwnerClientNo)
  | .objectOwnershipRejected rejection =>
    scene.onNode rejection.objectId fun node ↦
      (node, [.ownershipRejected rejection.currentOwnerClientNo rejection.reasonCode])
  | _ => (scene, [])

/-- Owned objects push their transform; the client decides what goes on the wire. -/
def submitted [Double D] (clientNo : ℤ) (objects : List (UInt32 × NetSyncObject D))
    (s : Session D) : Session D :=
  objects.foldl
    (fun s pair ↦
      if pair.2.isOwnedByMe clientNo then
        { s with
          client :=
            { s.client with
              objects :=
                s.client.objects.submitLocalPose pair.1
                  (Coordinates.transformGodotToNetsync pair.2.globalTransform) } }
      else s)
    s

variable [DoubleTrig D] [DoubleText D]

def step (engine : Engine D) (decode : Bytes → Option (List Bytes)) (scene : ObjectScene D) :
    SceneStep D → ObjectScene D × List Signalled
  | .submit =>
    ({ scene with
      session :=
        submitted scene.session.client.clientNo scene.objects.toList scene.session }, [])
  | .poll now schedule =>
    ({ scene with
      session := scene.session.step decode (.call (.poll now) schedule)
      pending := scene.pending ++ scene.session.returned decode (.call (.poll now) schedule) }, [])
  | .dispatch =>
    match scene.pending with
    | [] => (scene, [])
    | event :: rest => { scene with pending := rest }.handle event
  | .apply objectId =>
    scene.onNode objectId
      (NetSyncObject.applyRemoteState scene.session.client.clientNo
        (NetSyncBridge.getObjectState objectId scene.session))
  | .process objectId delta =>
    scene.onNode objectId fun node ↦
      (node.process engine scene.session.client.clientNo delta, [])
  | .move objectId transform =>
    scene.onNode objectId fun node ↦ ({ node with globalTransform := transform }, [])
  | .life e => ({ scene with session := scene.session.live decode e }, [])

/-- A run, with the signals emitted in the course of it. -/
def run (engine : Engine D) (decode : Bytes → Option (List Bytes)) (scene : ObjectScene D) :
    List (SceneStep D) → ObjectScene D × List Signalled
  | [] => (scene, [])
  | e :: steps =>
    let (scene, signals) := scene.step engine decode e
    let (scene, more) := scene.run engine decode steps
    (scene, signals ++ more)

end ObjectScene

end StylyNetSync
