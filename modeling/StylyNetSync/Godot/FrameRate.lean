import Mathlib.Analysis.SpecialFunctions.Pow.Real
import StylyNetSync.Foundation.DoubleReal
import StylyNetSync.Godot.SceneObjects

/-!
# The rate of the frames

The script smooths with a half-life, so that the rate of the frames does not matter: two short
frames are to take a node where a long one takes it. In exact arithmetic this is so for a scene as a
whole (`frame_rate_independent`). Time may be cut into frames in any way, the nodes may take their
parts in any order, and the state of an object may be applied again in every one of them.

What is assumed of the engine is that its power function is the one of the real numbers, and that
interpolating goes a share of the way, so that shares compound.
-/

namespace StylyNetSync

/-! ### The engine -/

/-- The engine computes exactly: what two interpolations leave of the way is the product of what
each of them leaves. -/
structure Engine.Exact (engine : Engine ℝ) : Prop where
  pow : ∀ x y, engine.pow x y = x ^ y
  interpolateWith : ∀ transform target left left',
    engine.interpolateWith (engine.interpolateWith transform target (1 - left)) target
      (1 - left') = engine.interpolateWith transform target (1 - left * left')

namespace NetSyncObject

/-- **Time adds up.** -/
theorem smoothed_add {engine : Engine ℝ} (hexact : engine.Exact) (halfLife a b : ℝ)
    (target transform : PoseTransform ℝ) :
    smoothed engine halfLife b target (smoothed engine halfLife a target transform) =
      smoothed engine halfLife (a + b) target transform := by
  by_cases hsnap : Double.le halfLife (Double.lit 0) = true
  · rw [smoothed, smoothed, smoothed, if_pos hsnap, if_pos hsnap]
  · have hleft : engine.pow (Double.lit (1 / 2)) (a / halfLife) *
        engine.pow (Double.lit (1 / 2)) (b / halfLife) =
          engine.pow (Double.lit (1 / 2)) ((a + b) / halfLife) := by
      have hhalf : (0 : ℝ) < (Double.lit (1 / 2) : ℝ) := by
        rw [Double.lit_real]
        norm_num
      rw [hexact.pow, hexact.pow, hexact.pow, add_div, Real.rpow_add hhalf]
    rw [smoothed, smoothed, smoothed, if_neg hsnap, if_neg hsnap, if_neg hsnap,
      Double.lit_one_real, hexact.interpolateWith, hleft]

/-- The part of a node in two frames. -/
theorem process_add {engine : Engine ℝ} (hexact : engine.Exact) (clientNo : ℤ) (a b : ℝ)
    (node : NetSyncObject ℝ) :
    (node.process engine clientNo a).process engine clientNo b =
      node.process engine clientNo (a + b) := by
  by_cases hrest : (!node.hasTarget || node.isOwnedByMe clientNo) = true
  · have hstill (delta : ℝ) : node.process engine clientNo delta = node := if_pos hrest
    rw [hstill, hstill, hstill]
  · have hmoves (delta : ℝ) (node' : NetSyncObject ℝ)
        (hsame : (!node'.hasTarget || node'.isOwnedByMe clientNo) =
          (!node.hasTarget || node.isOwnedByMe clientNo)) :
        node'.process engine clientNo delta =
          { node' with
            globalTransform :=
              smoothed engine node'.smoothingHalfLife delta node'.targetTransform
                node'.globalTransform } :=
      if_neg (hsame ▸ hrest)
    let halfway : NetSyncObject ℝ :=
      { node with
        globalTransform :=
          smoothed engine node.smoothingHalfLife a node.targetTransform node.globalTransform }
    rw [hmoves a node rfl, hmoves (a + b) node rfl, ← smoothed_add hexact]
    exact hmoves b halfway rfl

/-- The node has nothing to learn from the state of its object. -/
def Settled {D : Type} (clientNo : ℤ) (node : NetSyncObject D) :
    Option (ObjectDictionary D) → Prop
  | none => True
  | some state =>
    node.ownerClientNo = state.ownerClientNo ∧
      (state.ownerClientNo = 0 ∨ state.ownerClientNo = clientNo ∨ state.hasPose = false ∨
        node.hasTarget = true ∧ node.targetTransform = state.transform)

variable {D : Type} {clientNo : ℤ} {node : NetSyncObject D} {state : Option (ObjectDictionary D)}

/-- A state that is applied settles the node. -/
theorem settled_applyRemoteState (clientNo : ℤ) (node : NetSyncObject D)
    (state : Option (ObjectDictionary D)) :
    (node.applyRemoteState clientNo state).1.Settled clientNo state := by
  cases state with
  | none => trivial
  | some state =>
    have howner := (takes_applyRemoteState clientNo state node).owner
    refine ⟨howner, ?_⟩
    by_cases hstays : state.ownerClientNo = 0 ∨ state.ownerClientNo = clientNo
    · exact hstays.imp_right Or.inl
    · obtain ⟨hzero, hother⟩ := not_or.mp hstays
      refine Or.inr (Or.inr ?_)
      rcases Bool.eq_false_or_eq_true state.hasPose with hpose | hpose
      · refine Or.inr ?_
        rw [applyRemoteState] at howner ⊢
        dsimp only at howner ⊢
        generalize (if state.ownerClientNo ≠ node.ownerClientNo then
          node.onOwnershipChanged clientNo state.ownerClientNo node.ownerClientNo
            else (node, [])) = told at howner ⊢
        have hmine : told.1.ownerClientNo = state.ownerClientNo →
            ¬(decide (state.ownerClientNo = 0) || told.1.isOwnedByMe clientNo) = true := by
          intro hsame
          simp [isOwnedByMe, hsame, hzero, hother]
        by_cases hstill : (decide (state.ownerClientNo = 0) ||
            told.1.isOwnedByMe clientNo) = true
        · rw [if_pos hstill] at howner
          exact absurd hstill (hmine howner)
        · rw [if_neg hstill, if_pos hpose]
          exact ⟨rfl, rfl⟩
      · exact Or.inl hpose

/-- Where the node is does not matter. -/
theorem Settled.moved (h : node.Settled clientNo state) (transform : PoseTransform D) :
    { node with globalTransform := transform }.Settled clientNo state := by
  cases state with
  | none => trivial
  | some state => exact h

/-- A state that has nothing new changes nothing. -/
theorem Settled.applyRemoteState (h : node.Settled clientNo state) :
    node.applyRemoteState clientNo state = (node, []) := by
  cases state with
  | none => rfl
  | some state =>
    obtain ⟨howner, hpose⟩ := h
    rw [NetSyncObject.applyRemoteState, if_neg (not_not.mpr howner.symm)]
    dsimp only
    split_ifs with hstays hhas
    · rfl
    · have hother : ¬(state.ownerClientNo = 0 ∨ state.ownerClientNo = clientNo) := by
        simp [isOwnedByMe, howner] at hstays
        tauto
      obtain ⟨htarget, hsame⟩ : node.hasTarget = true ∧ node.targetTransform = state.transform := by
        rcases hpose with hzero | hmine | hnone | hfollows
        · exact absurd (Or.inl hzero) hother
        · exact absurd (Or.inr hmine) hother
        · exact absurd (hhas.symm.trans hnone) (by simp)
        · exact hfollows
      rw [follow, if_pos htarget, ← hsame, ← htarget]
    · rfl

end NetSyncObject

/-! ### The parts of the nodes -/

/-- The object whose node takes its part of a frame with the step. -/
def SceneStep.partOf {D : Type} : SceneStep D → Option UInt32
  | .apply objectId => some objectId
  | .process objectId _ => some objectId
  | _ => none

namespace ObjectScene

section Parts

variable {D : Type} {scene : ObjectScene D} {objectId id : UInt32}

/-- Two changes of one node are one. -/
theorem onNode_onNode (objectId : UInt32)
    (change change' : NetSyncObject D → NetSyncObject D × List ObjectSignal)
    (scene : ObjectScene D) :
    ((scene.onNode objectId change).1.onNode objectId change').1 =
        (scene.onNode objectId fun node ↦ change' (change node).1).1 ∧
      ((scene.onNode objectId change).1.onNode objectId change').2 =
        (scene.onNode objectId fun node ↦ change' (change node).1).2 := by
  rcases hnode : scene.objects[objectId]? with - | node
  · simp only [onNode, hnode, and_self]
  · have hinserted : (scene.objects.insert objectId (change node).1)[objectId]? =
        some (change node).1 := by
      rw [OrderedMap.get?_insert, if_pos rfl]
    have hobjects : (scene.objects.insert objectId (change node).1).insert objectId
        (change' (change node).1).1 =
          scene.objects.insert objectId (change' (change node).1).1 := by
      refine Std.ExtTreeMap.ext_getElem? fun id ↦ ?_
      rw [OrderedMap.get?_insert, OrderedMap.get?_insert, OrderedMap.get?_insert]
      split_ifs <;> rfl
    simp only [onNode, hnode, hinserted, hobjects, and_self]

/-- Changes of two nodes do not get in each other's way. -/
theorem onNode_comm (hne : objectId ≠ id) (change : NetSyncObject D → NetSyncObject D)
    (change' : NetSyncObject D → NetSyncObject D × List ObjectSignal) (scene : ObjectScene D) :
    ((scene.onNode objectId fun node ↦ (change node, [])).1.onNode id change').1 =
        ((scene.onNode id change').1.onNode objectId fun node ↦ (change node, [])).1 ∧
      ((scene.onNode objectId fun node ↦ (change node, [])).1.onNode id change').2 =
        (scene.onNode id change').2 := by
  rcases hnode : scene.objects[objectId]? with - | node <;>
    rcases hother : scene.objects[id]? with - | other
  · simp only [onNode, hnode, hother, and_self]
  · have hstill : (scene.objects.insert id (change' other).1)[objectId]? = none := by
      rw [OrderedMap.get?_insert, if_neg hne.symm, hnode]
    simp only [onNode, hnode, hother, hstill, and_self]
  · have hstill : (scene.objects.insert objectId (change node))[id]? = none := by
      rw [OrderedMap.get?_insert, if_neg hne, hother]
    simp only [onNode, hnode, hother, hstill, and_self]
  · have hstill : (scene.objects.insert id (change' other).1)[objectId]? = some node := by
      rw [OrderedMap.get?_insert, if_neg hne.symm, hnode]
    have hstill' : (scene.objects.insert objectId (change node))[id]? = some other := by
      rw [OrderedMap.get?_insert, if_neg hne, hother]
    have hobjects : (scene.objects.insert objectId (change node)).insert id (change' other).1 =
        (scene.objects.insert id (change' other).1).insert objectId (change node) := by
      refine Std.ExtTreeMap.ext_getElem? fun key ↦ ?_
      rw [OrderedMap.get?_insert, OrderedMap.get?_insert, OrderedMap.get?_insert,
        OrderedMap.get?_insert]
      split_ifs with hid hobject
      · exact absurd (hobject.trans hid.symm) hne
      · rfl
      · rfl
      · rfl
    simp only [onNode, hnode, hother, hstill, hstill', hobjects, and_self]

theorem onNode_silent (objectId : UInt32) (change : NetSyncObject D → NetSyncObject D)
    (scene : ObjectScene D) : (scene.onNode objectId fun node ↦ (change node, [])).2 = [] := by
  rw [onNode]
  split <;> rfl

theorem onNode_session (objectId : UInt32)
    (change : NetSyncObject D → NetSyncObject D × List ObjectSignal) (scene : ObjectScene D) :
    (scene.onNode objectId change).1.session = scene.session := by
  rw [onNode]
  split <;> rfl

/-- A change that leaves the node as it is. -/
theorem onNode_of_still {change : NetSyncObject D → NetSyncObject D × List ObjectSignal}
    (h : ∀ node, scene.objects[objectId]? = some node → change node = (node, [])) :
    scene.onNode objectId change = (scene, []) := by
  rw [onNode]
  rcases hnode : scene.objects[objectId]? with - | node
  · rfl
  · have hobjects : scene.objects.insert objectId node = scene.objects := by
      refine Std.ExtTreeMap.ext_getElem? fun id ↦ ?_
      rw [OrderedMap.get?_insert]
      split_ifs with hid
      · rw [← hid, hnode]
      · rfl
    dsimp only
    rw [h node hnode, hobjects]
    rfl

end Parts

section Frames

variable (engine : Engine ℝ) (decode : Bytes → Option (List Bytes)) [DoubleText ℝ]

theorem run_append (scene : ObjectScene ℝ) (steps more : List (SceneStep ℝ)) :
    scene.run engine decode (steps ++ more) =
      (((scene.run engine decode steps).1.run engine decode more).1,
        (scene.run engine decode steps).2 ++
          ((scene.run engine decode steps).1.run engine decode more).2) := by
  induction steps generalizing scene with
  | nil => rfl
  | cons e steps ih =>
    rw [List.cons_append, run, run]
    dsimp only
    rw [ih, List.append_assoc]

theorem run_one (scene : ObjectScene ℝ) (e : SceneStep ℝ) :
    scene.run engine decode [e] = scene.step engine decode e := by
  show ((scene.step engine decode e).1, (scene.step engine decode e).2 ++ []) = _
  rw [List.append_nil]

theorem run_two (scene : ObjectScene ℝ) (e e' : SceneStep ℝ) :
    scene.run engine decode [e, e'] =
      (((scene.step engine decode e).1.step engine decode e').1,
        (scene.step engine decode e).2 ++
          ((scene.step engine decode e).1.step engine decode e').2) := by
  show scene.run engine decode ([e] ++ [e']) = _
  rw [run_append, run_one, run_one]

/-- What two stretches of a run do alike, they do alike in its midst. -/
theorem run_congr {middle middle' : List (SceneStep ℝ)}
    (h : ∀ scene : ObjectScene ℝ, scene.run engine decode middle = scene.run engine decode middle')
    (before after : List (SceneStep ℝ)) (scene : ObjectScene ℝ) :
    scene.run engine decode (before ++ middle ++ after) =
      scene.run engine decode (before ++ middle' ++ after) := by
  rw [run_append, run_append, run_append, run_append, h]

/-! ### Objects that are settled -/

/-- The node of an object has nothing to learn from its state. -/
def SettledAt (objectId : UInt32) (scene : ObjectScene ℝ) : Prop :=
  ∀ node, scene.objects[objectId]? = some node →
    node.Settled scene.session.client.clientNo
      (NetSyncBridge.getObjectState objectId scene.session)

/-- The part of a node, as a change of it that depends on nothing but the client. -/
theorem exists_change {e : SceneStep ℝ} {id : UInt32} (he : e.partOf = some id)
    (scene : ObjectScene ℝ) :
    ∃ change, (∀ scene' : ObjectScene ℝ, scene'.session = scene.session →
        scene'.step engine decode e = scene'.onNode id change) ∧
      ∀ node : NetSyncObject ℝ,
        node.Settled scene.session.client.clientNo
            (NetSyncBridge.getObjectState id scene.session) →
          (change node).1.Settled scene.session.client.clientNo
            (NetSyncBridge.getObjectState id scene.session) := by
  cases e with
  | apply objectId =>
    obtain rfl := Option.some.inj he
    refine ⟨NetSyncObject.applyRemoteState scene.session.client.clientNo
      (NetSyncBridge.getObjectState objectId scene.session), fun scene' hsame ↦ ?_,
        fun node _ ↦ NetSyncObject.settled_applyRemoteState _ node _⟩
    rw [← hsame]
    rfl
  | process objectId delta =>
    obtain rfl := Option.some.inj he
    refine ⟨fun node ↦ (node.process engine scene.session.client.clientNo delta, []),
      fun scene' hsame ↦ ?_, fun node hsettled ↦ ?_⟩
    · rw [← hsame]
      rfl
    dsimp only
    rw [NetSyncObject.process]
    split_ifs
    · exact hsettled
    · exact hsettled.moved _
  | _ => exact absurd he (by simp [SceneStep.partOf])

theorem settledAt_apply (objectId : UInt32) (scene : ObjectScene ℝ) :
    (scene.step engine decode (.apply objectId)).1.SettledAt objectId := by
  rcases hbefore : scene.objects[objectId]? with - | before
  · intro node hnode
    rw [step, onNode, hbefore] at hnode
    exact absurd (hbefore.symm.trans hnode) (by simp)
  · intro node hnode
    obtain ⟨hobject, -, hsession⟩ := onNode_spec hbefore objectId
      (NetSyncObject.applyRemoteState scene.session.client.clientNo
        (NetSyncBridge.getObjectState objectId scene.session))
    rw [if_pos rfl] at hobject
    obtain rfl := Option.some.inj (hobject.symm.trans hnode)
    have hsame : (scene.step engine decode (.apply objectId)).1.session = scene.session := hsession
    rw [hsame]
    exact NetSyncObject.settled_applyRemoteState _ before _

/-- The parts of the nodes do not unsettle an object. -/
theorem SettledAt.step {objectId : UInt32} {scene : ObjectScene ℝ} (h : scene.SettledAt objectId)
    {e : SceneStep ℝ} (he : e.partOf.isSome = true) :
    (scene.step engine decode e).1.SettledAt objectId := by
  obtain ⟨id, hid⟩ := Option.isSome_iff_exists.mp he
  obtain ⟨change, hstep, hkeeps⟩ := exists_change engine decode hid scene
  have hchange := hstep scene rfl
  rcases hbefore : scene.objects[objectId]? with - | before
  · intro node hnode
    have hnone : (scene.onNode id change).1.objects[objectId]? = none := by
      rw [onNode]
      rcases hother : scene.objects[id]? with - | other
      · exact hbefore
      · dsimp only
        rw [OrderedMap.get?_insert]
        split_ifs with hsame
        · rw [← hsame, hother] at hbefore
          exact absurd hbefore (by simp)
        · exact hbefore
    rw [hchange] at hnode
    exact absurd (hnone.symm.trans hnode) (by simp)
  · obtain ⟨hobject, -, hsession⟩ := onNode_spec hbefore id change
    intro node hnode
    rw [hchange] at hnode ⊢
    obtain rfl := Option.some.inj (hobject.symm.trans hnode)
    rw [hsession]
    split_ifs with hsame
    · subst hsame
      exact hkeeps before (h before hbefore)
    · exact h before hbefore

theorem SettledAt.run {objectId : UInt32} {steps : List (SceneStep ℝ)}
    (hsteps : ∀ e ∈ steps, e.partOf.isSome = true) {scene : ObjectScene ℝ}
    (h : scene.SettledAt objectId) : (scene.run engine decode steps).1.SettledAt objectId := by
  induction steps generalizing scene with
  | nil => exact h
  | cons e steps ih =>
    exact ih (fun e' he' ↦ hsteps e' (List.mem_cons_of_mem _ he'))
      (h.step engine decode (hsteps e List.mem_cons_self))

/-- Applying a state that has nothing new. -/
theorem SettledAt.apply {objectId : UInt32} {scene : ObjectScene ℝ} (h : scene.SettledAt objectId) :
    scene.step engine decode (.apply objectId) = (scene, []) :=
  onNode_of_still fun node hnode ↦ (h node hnode).applyRemoteState

/-! ### Frames -/

/-- A way to run the same time with other frames. -/
inductive FrameCut : List (SceneStep ℝ) → List (SceneStep ℝ) → Prop
  /-- The part of a node is taken in two frames. -/
  | cut (before after : List (SceneStep ℝ)) (objectId : UInt32) (a b : ℝ) :
    FrameCut (before ++ [.process objectId (a + b)] ++ after)
      (before ++ [.process objectId a, .process objectId b] ++ after)
  /-- Another node takes its part first. -/
  | order (before after : List (SceneStep ℝ)) (objectId id : UInt32) (delta : ℝ) (e : SceneStep ℝ)
    (hpart : e.partOf = some id) (hother : objectId ≠ id) :
    FrameCut (before ++ [.process objectId delta, e] ++ after)
      (before ++ [e, .process objectId delta] ++ after)
  /-- A state is applied once more, after nothing but parts of nodes. -/
  | again (before between after : List (SceneStep ℝ)) (objectId : UInt32)
    (hparts : ∀ e ∈ between, e.partOf.isSome = true) :
    FrameCut (before ++ .apply objectId :: between ++ after)
      (before ++ .apply objectId :: (between ++ [.apply objectId]) ++ after)

/-- **The rate of the frames does not matter.** If one run is got from another by cutting time into
other frames, both lead every scene to the same state, of its nodes as well as of its client, and
emit the same signals in the same order. -/
theorem frame_rate_independent (hexact : engine.Exact) {steps steps' : List (SceneStep ℝ)}
    (h : Relation.EqvGen FrameCut steps steps') (scene : ObjectScene ℝ) :
    scene.run engine decode steps = scene.run engine decode steps' := by
  induction h with
  | refl steps => rfl
  | symm steps steps' _ ih => exact ih.symm
  | trans steps steps' steps'' _ _ ih ih' => exact ih.trans ih'
  | rel steps steps' hcut =>
    cases hcut with
    | cut before after objectId a b =>
      refine run_congr engine decode (fun scene ↦ ?_) before after scene
      obtain ⟨hscene, hsignals⟩ := onNode_onNode objectId
        (fun node : NetSyncObject ℝ ↦ (node.process engine scene.session.client.clientNo a, []))
        (fun node ↦ (node.process engine scene.session.client.clientNo b, [])) scene
      have hsilent : (scene.step engine decode (.process objectId a)).2 = [] :=
        onNode_silent _ _ scene
      have hsession := onNode_session objectId
        (fun node : NetSyncObject ℝ ↦ (node.process engine scene.session.client.clientNo a, []))
        scene
      have hsecond : (scene.step engine decode (.process objectId a)).1.step engine decode
          (.process objectId b) = scene.step engine decode (.process objectId (a + b)) := by
        show onNode objectId
          (fun node ↦
            (node.process engine (scene.onNode objectId _).1.session.client.clientNo b, []))
          (scene.onNode objectId _).1 = _
        rw [hsession]
        refine (Prod.ext hscene hsignals).trans ?_
        simp only [NetSyncObject.process_add hexact]
        rfl
      rw [run_one, run_two, hsilent, hsecond]
      rfl
    | order before after objectId id delta e hpart hother =>
      refine run_congr engine decode (fun scene ↦ ?_) before after scene
      obtain ⟨change, hstep, -⟩ := exists_change engine decode hpart scene
      let moves : NetSyncObject ℝ → NetSyncObject ℝ := fun node ↦
        node.process engine scene.session.client.clientNo delta
      obtain ⟨hscene, hsignals⟩ := onNode_comm hother moves change scene
      have hfirst : scene.step engine decode (.process objectId delta) =
          scene.onNode objectId fun node ↦ (moves node, []) := rfl
      have hlater : (scene.onNode id change).1.step engine decode (.process objectId delta) =
          (scene.onNode id change).1.onNode objectId fun node ↦ (moves node, []) := by
        show onNode objectId (fun node ↦ (node.process engine
          (scene.onNode id change).1.session.client.clientNo delta, [])) _ = _
        rw [onNode_session]
      rw [run_two, run_two, hfirst, hstep scene rfl,
        hstep (scene.onNode objectId fun node ↦ (moves node, [])).1 (onNode_session _ _ scene),
        hlater, hscene, hsignals, onNode_silent, onNode_silent, List.nil_append, List.append_nil]
    | again before between after objectId hparts =>
      refine run_congr engine decode (fun scene ↦ ?_) before after scene
      have hsettled : ((scene.step engine decode (.apply objectId)).1.run engine decode
          between).1.SettledAt objectId :=
        (settledAt_apply engine decode objectId scene).run engine decode hparts
      show _ = scene.run engine decode ((.apply objectId :: between) ++ [.apply objectId])
      have hlast : (scene.run engine decode (.apply objectId :: between)).1.SettledAt objectId :=
        hsettled
      rw [run_append, run_one, hlast.apply, List.append_nil]

end Frames

/-- An engine that interpolates every number of a transform. -/
noncomputable def interpolating : Engine ℝ where
  pow x y := x ^ y
  interpolateWith transform target weight :=
    let between (component : PoseTransform ℝ → ℝ) : ℝ :=
      component transform + weight * (component target - component transform)
    { position := ⟨between (·.position.x), between (·.position.y), between (·.position.z)⟩
      rotation :=
        ⟨between (·.rotation.x), between (·.rotation.y), between (·.rotation.z),
          between (·.rotation.w)⟩ }

theorem exact_interpolating : interpolating.Exact where
  pow _ _ := rfl
  interpolateWith transform target left left' := by
    have hshare (a b : ℝ) :
        a + (1 - left) * (b - a) + (1 - left') * (b - (a + (1 - left) * (b - a))) =
          a + (1 - left * left') * (b - a) := by
      ring
    simp only [interpolating, hshare]

/-- Real numbers are printed as whole numbers. -/
noncomputable instance : DoubleText ℝ where
  toText r := toString ⌊r⌋

/-- One long frame, and two short ones, of a scene without a connection. -/
theorem frame_rate_independent_two_frames :
    let node : NetSyncObject ℝ :=
      { smoothingHalfLife := 1, globalTransform := PoseTransform.default, ownerClientNo := 2,
        hasTarget := true, targetTransform := ⟨⟨1, 0, 0⟩, Quat.identity⟩ }
    let scene : ObjectScene ℝ :=
      { session := Session.new 0, objects := (∅ : OrderedMap UInt32 _).insert 7 node }
    scene.run interpolating (fun _ ↦ none) [.apply 7, .process 7 (1 + 2)] =
      scene.run interpolating (fun _ ↦ none)
        [.apply 7, .process 7 1, .apply 7, .process 7 2] := by
  intro node scene
  refine frame_rate_independent interpolating (fun _ ↦ none) exact_interpolating ?_ scene
  refine .trans _ [.apply 7, .process 7 1, .process 7 2] _ (.rel _ _ ?_) (.rel _ _ ?_)
  · exact FrameCut.cut [.apply 7] [] 7 1 2
  · exact FrameCut.again [] [.process 7 1] [.process 7 2] 7 (by simp [SceneStep.partOf])

end ObjectScene

end StylyNetSync
