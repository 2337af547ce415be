import StylyNetSync.Foundation.DoubleArith
import StylyNetSync.Protocol.BinaryIO

/-!
# Quantisation and quaternion compression

The numeric routines of `pose_codec.cpp`, over any floating-point type. Positions become 16- or
24-bit integers by dividing through a scale, rounding half to even and clamping; a rotation becomes
one 32-bit word holding the index of its largest component and the other three at ten bits each.

Loops over the four components run over `Fin 4` in index order, with the running value the source
keeps: the best index so far, and the packed word together with the next write position.
-/

namespace StylyNetSync

variable {D : Type}

/-- Plain 3-vector in wire coordinates. -/
structure Vec3 (D : Type) where
  x : D
  y : D
  z : D

/-- Plain quaternion in wire coordinates, xyzw ordering. -/
structure Quat (D : Type) where
  x : D
  y : D
  z : D
  w : D

section Arithmetic

variable [Double D]

open Double

/-- The default-constructed vector. -/
def Vec3.zero : Vec3 D := ⟨lit 0, lit 0, lit 0⟩

/-- The default-constructed quaternion. -/
def Quat.identity : Quat D := ⟨lit 0, lit 0, lit 0, lit 1⟩

/-! ### Scales and limits -/

def kAbsPosScale : D := lit 0.01
def kLocoPosScale : D := lit 0.01
def kRelPosScale : D := lit 0.005
def kPhysicalYawScale : D := lit 0.1

def kInt16Min : ℤ := -32768
def kInt16Max : ℤ := 32767

def kQuatComponentMin : D := lit (-0.70710677)
def kQuatComponentMax : D := lit 0.70710677
def kQuatNormalizeEpsilon : D := lit 1e-12

/-! ### Rounding and quantisation -/

/-- Round half to even. -/
def roundHalfToEven (value : D) : D :=
  if !isFinite value then value
  else
    let lower := floor value
    let fraction := value - lower
    if lt (lit 0.5) fraction then lower + lit 1
    else if lt fraction (lit 0.5) then lower
    else if eq (fmod lower (lit 2)) (lit 0) then lower else lower + lit 1

/-- Shared clamp for the quantisers: infinities saturate and a not-a-number becomes zero. -/
def clampRounded (scaled : D) (minValue maxValue : ℤ) : ℤ :=
  if isNaN scaled then 0
  else
    let rounded := roundHalfToEven scaled
    if lt rounded (lit minValue) then minValue
    else if lt (lit maxValue) rounded then maxValue
    else toInt rounded

/-- Quantise to signed 16-bit with clamping; zero for a non-positive scale. -/
def quantizeSigned (value scale : D) : Int16 :=
  if !lt (lit 0) scale then 0
  else Int16.ofInt (clampRounded (value / scale) kInt16Min kInt16Max)

/-- Quantise to signed 24-bit with clamping; zero for a non-positive scale. -/
def quantizeSignedInt24 (value scale : D) : ℤ :=
  if !lt (lit 0) scale then 0 else clampRounded (value / scale) kInt24Min kInt24Max

def dequantizeSigned (value : ℤ) (scale : D) : D := lit value * scale

/-! ### Quaternion helpers -/

/-- Normalise, mapping degenerate input to the identity. -/
def normalizeQuaternion (q : Quat D) : Quat D :=
  let magSq := q.x * q.x + q.y * q.y + q.z * q.z + q.w * q.w
  if !isFinite magSq || le magSq kQuatNormalizeEpsilon then ⟨lit 0, lit 0, lit 0, lit 1⟩
  else
    let invMag := lit 1 / sqrt magSq
    ⟨q.x * invMag, q.y * invMag, q.z * invMag, q.w * invMag⟩

def quaternionInverse (q : Quat D) : Quat D :=
  let n := normalizeQuaternion q
  ⟨-n.x, -n.y, -n.z, n.w⟩

/-- Hamilton product. -/
def quaternionMultiply (a b : Quat D) : Quat D :=
  ⟨a.w * b.x + a.x * b.w + a.y * b.z - a.z * b.y,
    a.w * b.y - a.x * b.z + a.y * b.w + a.z * b.x,
    a.w * b.z + a.x * b.y - a.y * b.x + a.z * b.w,
    a.w * b.w - a.x * b.x - a.y * b.y - a.z * b.z⟩

/-- Normalise an angle in degrees to `[-180, 180)`. -/
def normalizeYawDegrees (yaw : D) : D :=
  let shifted := fmod (yaw + lit 180) (lit 360)
  let shifted := if lt shifted (lit 0) then shifted + lit 360 else shifted
  shifted - lit 180

/-! ### Smallest-three codec -/

/-- The components in index order. -/
def Quat.component (q : Quat D) : Fin 4 → D
  | 0 => q.x
  | 1 => q.y
  | 2 => q.z
  | 3 => q.w

/-- First maximum wins. -/
def largestIndex (absValues : Fin 4 → D) : Fin 4 :=
  [1, 2, 3].foldl (fun best i ↦ if lt (absValues best) (absValues i) then i else best) 0

/-- One component at ten bits. -/
def packComponent (value : D) : UInt32 :=
  let clamped := if lt value kQuatComponentMin then kQuatComponentMin else value
  let clamped := if lt kQuatComponentMax clamped then kQuatComponentMax else clamped
  let normalized := (clamped - kQuatComponentMin) / (kQuatComponentMax - kQuatComponentMin)
  let scaledValue := roundHalfToEven (normalized * lit 1023)
  let scaledValue := if !le (lit 0) scaledValue then lit 0 else scaledValue
  let scaledValue := if lt (lit 1023) scaledValue then lit 1023 else scaledValue
  UInt32.ofInt (toInt scaledValue)

/-- Pack a quaternion into 32 bits: two bits of largest index, then three components. -/
def compressQuaternionSmallestThree (q : Quat D) : UInt32 :=
  let n := normalizeQuaternion q
  let largest := largestIndex fun i ↦ fabs (n.component i)
  let negate := lt (n.component largest) (lit 0)
  let values := fun i ↦ if negate then -n.component i else n.component i
  let packed := UInt32.ofNat largest.val <<< 30
  let step := fun (acc : UInt32 × ℕ) (i : Fin 4) ↦
    if i = largest then acc
    else (acc.1 ||| (packComponent (values i) <<< UInt32.ofNat (20 - acc.2 * 10)), acc.2 + 1)
  ((List.finRange 4).foldl step (packed, 0)).1

/-- One ten-bit component back in the component range. -/
def unpackComponent (v : UInt32) : D :=
  let inv : D := lit 1 / lit 1023
  kQuatComponentMin + (kQuatComponentMax - kQuatComponentMin) * (lit v.toNat * inv)

/-- Unpack a 32-bit smallest-three quaternion; the result is normalised. -/
def decompressQuaternionSmallestThree (packed : UInt32) : Quat D :=
  let largest : ℕ := ((packed >>> 30) &&& 0x3).toNat
  let readValues : List UInt32 :=
    [(packed >>> 20) &&& 0x3FF, (packed >>> 10) &&& 0x3FF, packed &&& 0x3FF]
  -- the words are consumed in order by the indices other than the largest
  let fill := fun (acc : (Fin 4 → D) × ℕ) (i : Fin 4) ↦
    if i.val = largest then acc
    else (Function.update acc.1 i (unpackComponent (readValues.getD acc.2 0)), acc.2 + 1)
  let values := ((List.finRange 4).foldl fill (fun _ ↦ lit 0, 0)).1
  let addSquare := fun (acc : D) (i : Fin 4) ↦
    if i.val = largest then acc else acc + values i * values i
  let sumSq := (List.finRange 4).foldl addSquare (lit 0)
  let residual := lit 1 - sumSq
  let last := sqrt (if lt (lit 0) residual then residual else lit 0)
  let value := fun i : Fin 4 ↦ if i.val = largest then last else values i
  normalizeQuaternion ⟨value 0, value 1, value 2, value 3⟩

end Arithmetic

section Trigonometry

variable [DoubleTrig D]

open Double DoubleTrig

def kPi : D := lit 3.14159265358979323846

/-- Yaw (rotation about the up axis) in degrees. -/
def quaternionToYawDegrees (q : Quat D) : D :=
  let n := normalizeQuaternion q
  let sinyCosp := lit 2 * (n.w * n.y + n.z * n.x)
  let cosyCosp := lit 1 - lit 2 * (n.y * n.y + n.z * n.z)
  let yaw := atan2 sinyCosp cosyCosp * (lit 180 / kPi)
  normalizeYawDegrees yaw

/-- Yaw-only quaternion from degrees. -/
def yawDegreesToQuaternion (yawDegrees : D) : Quat D :=
  let half := (yawDegrees * (kPi / lit 180)) * lit 0.5
  ⟨lit 0, sin half, lit 0, cos half⟩

/-- Rotate a vector about the up axis. -/
def rotateYawVector (v : Vec3 D) (yawDegrees : D) : Vec3 D :=
  let yawRad := yawDegrees * (kPi / lit 180)
  let cosY := cos yawRad
  let sinY := sin yawRad
  ⟨(cosY * v.x) + (sinY * v.z), v.y, (-sinY * v.x) + (cosY * v.z)⟩

end Trigonometry

end StylyNetSync
