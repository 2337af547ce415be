import Mathlib.Data.Fin.VecNotation
import StylyNetSync.Protocol.Messages

/-!
# Coordinate conversion

`coordinate_converter.cpp`: the only place where the handedness of the two spaces differs. Godot and
the wire share right and up and differ in the sign of the third axis, so a position goes through the
reflection `diag(1, 1, -1)`, and a yaw, which is a rotation about the up axis, changes its sign. A
basis is conjugated with the reflection; for a rotation the source uses a closed form of that on the
quaternion itself.
-/

namespace StylyNetSync

variable {D : Type} [Double D]

open Double

/-- Row-major 3x3 matrix. -/
structure Mat3 (D : Type) where
  m : Fin 3 → Fin 3 → D

/-- Diagonal of the reflection relating the two bases. -/
def kReflectionDiagonal : Fin 3 → D
  | 0 => lit 1
  | 1 => lit 1
  | 2 => lit (-1)

def reflectionMatrix : Mat3 D := ⟨fun r c ↦ if r = c then kReflectionDiagonal r else lit 0⟩

def matrixMultiply (a b : Mat3 D) : Mat3 D :=
  ⟨fun r c ↦ (List.finRange 3).foldl (fun sum k ↦ sum + a.m r k * b.m k c) (lit 0)⟩

def matrixTransform (m : Mat3 D) (v : Vec3 D) : Vec3 D :=
  ⟨m.m 0 0 * v.x + m.m 0 1 * v.y + m.m 0 2 * v.z,
    m.m 1 0 * v.x + m.m 1 1 * v.y + m.m 1 2 * v.z,
    m.m 2 0 * v.x + m.m 2 1 * v.y + m.m 2 2 * v.z⟩

def conjugateWithReflection (basis : Mat3 D) : Mat3 D :=
  matrixMultiply (matrixMultiply reflectionMatrix basis) reflectionMatrix

/-- Rotation matrix of a quaternion, which is normalised first. -/
def basisFromQuaternion (q : Quat D) : Mat3 D :=
  let n := normalizeQuaternion q
  let xx := n.x * n.x
  let yy := n.y * n.y
  let zz := n.z * n.z
  let xy := n.x * n.y
  let xz := n.x * n.z
  let yz := n.y * n.z
  let wx := n.w * n.x
  let wy := n.w * n.y
  let wz := n.w * n.z
  ⟨![![lit 1 - lit 2 * (yy + zz), lit 2 * (xy - wz), lit 2 * (xz + wy)],
    ![lit 2 * (xy + wz), lit 1 - lit 2 * (xx + zz), lit 2 * (yz - wx)],
    ![lit 2 * (xz - wy), lit 2 * (yz + wx), lit 1 - lit 2 * (xx + yy)]]⟩

/-- The four branches of `quaternion_from_basis`, each by the component that it takes from the
square root. -/
inductive BasisBranch
  | w
  | x
  | y
  | z

/-- The branch that the comparisons of trace and diagonal select. -/
def basisBranch (basis : Mat3 D) : BasisBranch :=
  let trace := basis.m 0 0 + basis.m 1 1 + basis.m 2 2
  if lt (lit 0) trace then .w
  else if lt (basis.m 1 1) (basis.m 0 0) && lt (basis.m 2 2) (basis.m 0 0) then .x
  else if lt (basis.m 2 2) (basis.m 1 1) then .y
  else .z

/-- The divisor `s` of a branch. -/
def BasisBranch.divisor (basis : Mat3 D) : BasisBranch → D
  | w => sqrt (basis.m 0 0 + basis.m 1 1 + basis.m 2 2 + lit 1) * lit 2
  | x => sqrt (lit 1 + basis.m 0 0 - basis.m 1 1 - basis.m 2 2) * lit 2
  | y => sqrt (lit 1 + basis.m 1 1 - basis.m 0 0 - basis.m 2 2) * lit 2
  | z => sqrt (lit 1 + basis.m 2 2 - basis.m 0 0 - basis.m 1 1) * lit 2

/-- The four components as a branch computes them from the matrix and `s`. -/
def BasisBranch.components (basis : Mat3 D) (s : D) : BasisBranch → Quat D
  | w =>
    ⟨(basis.m 2 1 - basis.m 1 2) / s, (basis.m 0 2 - basis.m 2 0) / s,
      (basis.m 1 0 - basis.m 0 1) / s, lit 0.25 * s⟩
  | x =>
    ⟨lit 0.25 * s, (basis.m 0 1 + basis.m 1 0) / s, (basis.m 0 2 + basis.m 2 0) / s,
      (basis.m 2 1 - basis.m 1 2) / s⟩
  | y =>
    ⟨(basis.m 0 1 + basis.m 1 0) / s, lit 0.25 * s, (basis.m 1 2 + basis.m 2 1) / s,
      (basis.m 0 2 - basis.m 2 0) / s⟩
  | z =>
    ⟨(basis.m 0 2 + basis.m 2 0) / s, (basis.m 1 2 + basis.m 2 1) / s, lit 0.25 * s,
      (basis.m 1 0 - basis.m 0 1) / s⟩

/-- The divisor of the branch that is taken. -/
def basisDivisor (basis : Mat3 D) : D := (basisBranch basis).divisor basis

/-- All four components with the other sign, which is the same rotation. -/
def Quat.negate (q : Quat D) : Quat D := ⟨-q.x, -q.y, -q.z, -q.w⟩

/-- Quaternion of a rotation matrix, with a non-negative `w`. -/
def quaternionFromBasis (basis : Mat3 D) : Quat D :=
  let out := (basisBranch basis).components basis (basisDivisor basis)
  let out := if lt out.w (lit 0) then out.negate else out
  normalizeQuaternion out

namespace Coordinates

def positionGodotToNetsync (position : Vec3 D) : Vec3 D := matrixTransform reflectionMatrix position

/-- The reflection is its own inverse. -/
def positionNetsyncToGodot (position : Vec3 D) : Vec3 D := matrixTransform reflectionMatrix position

def basisGodotToNetsync (basis : Mat3 D) : Mat3 D := conjugateWithReflection basis

def basisNetsyncToGodot (basis : Mat3 D) : Mat3 D := conjugateWithReflection basis

def rotationGodotToNetsync (rotation : Quat D) : Quat D :=
  ⟨-rotation.x, -rotation.y, rotation.z, rotation.w⟩

def rotationNetsyncToGodot (rotation : Quat D) : Quat D :=
  ⟨-rotation.x, -rotation.y, rotation.z, rotation.w⟩

def yawDegreesGodotToNetsync (yawDegrees : D) : D := -yawDegrees

def transformGodotToNetsync (pose : PoseTransform D) : PoseTransform D where
  position := positionGodotToNetsync pose.position
  rotation := rotationGodotToNetsync pose.rotation

def transformNetsyncToGodot (pose : PoseTransform D) : PoseTransform D where
  position := positionNetsyncToGodot pose.position
  rotation := rotationNetsyncToGodot pose.rotation

end Coordinates

end StylyNetSync
